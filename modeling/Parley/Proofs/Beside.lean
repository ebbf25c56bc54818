import Parley.Proofs.Interludes
import Parley.Proofs.Asking
import Parley.Proofs.Ledger
import Parley.Proofs.Wire

/-! Two managers that went through the same, but that the servers of the second have sent frames
between their messages as well. They stay the same but for pongs on the wire: whatever is asked of
both of them comes to the same. -/

namespace Parley

/-- Two lists of one length that are related place by place. -/
structure Rowwise {α : Type} (R : Nat → α → α → Prop) (xs ys : List α) : Prop where
  length : ys.length = xs.length
  row : ∀ (k : Nat) (x y : α), xs[k]? = some x → ys[k]? = some y → R k x y

namespace Rowwise

variable {α β : Type} {R : Nat → α → α → Prop} {xs ys : List α}

theorem place (h : Rowwise R xs ys) (k : Nat) :
    xs[k]? = none ∧ ys[k]? = none ∨ ∃ x y, xs[k]? = some x ∧ ys[k]? = some y ∧ R k x y := by
  by_cases hk : k < xs.length
  · have hk' : k < ys.length := h.length ▸ hk
    have hx := List.getElem?_eq_getElem hk
    have hy := List.getElem?_eq_getElem hk'
    exact Or.inr ⟨_, _, hx, hy, h.row k _ _ hx hy⟩
  · have hk' : ys.length ≤ k := h.length ▸ Nat.le_of_not_lt hk
    exact Or.inl ⟨List.getElem?_eq_none (Nat.le_of_not_lt hk), List.getElem?_eq_none hk'⟩

theorem map_eq (h : Rowwise R xs ys) {f : α → β} (hf : ∀ k x y, R k x y → f y = f x) :
    ys.map f = xs.map f := by
  apply List.ext_getElem?
  intro k
  rw [List.getElem?_map, List.getElem?_map]
  rcases h.place k with ⟨hx, hy⟩ | ⟨x, y, hx, hy, hxy⟩
  · rw [hx, hy]
  · rw [hx, hy, Option.map_some, Option.map_some, hf k x y hxy]

theorem map {S : Nat → β → β → Prop} (h : Rowwise R xs ys) {f : α → β}
    (hf : ∀ k x y, R k x y → S k (f x) (f y)) : Rowwise S (xs.map f) (ys.map f) := by
  refine ⟨by rw [List.length_map, List.length_map, h.length], fun k x y hx hy => ?_⟩
  rw [List.getElem?_map] at hx hy
  obtain ⟨a, ha, rfl⟩ := Option.map_eq_some_iff.1 hx
  obtain ⟨b, hb, rfl⟩ := Option.map_eq_some_iff.1 hy
  exact hf k a b (h.row k a b ha hb)

theorem concat (h : Rowwise R xs ys) {x y : α} (hxy : R xs.length x y) :
    Rowwise R (xs ++ [x]) (ys ++ [y]) := by
  refine ⟨by simp [h.length], fun k a b ha hb => ?_⟩
  rcases getElem?_concat_cases ha with ⟨hlt, ha⟩ | ⟨rfl, rfl⟩
  · rcases getElem?_concat_cases hb with ⟨-, hb⟩ | ⟨hk, -⟩
    · exact h.row k a b ha hb
    · rw [hk, h.length] at hlt
      exact absurd hlt (Nat.lt_irrefl _)
  · rcases getElem?_concat_cases hb with ⟨hlt, -⟩ | ⟨-, rfl⟩
    · exact absurd (h.length ▸ hlt) (Nat.lt_irrefl _)
    · exact hxy

end Rowwise

def noted {α : Type} (log : Nat → List α) (k : Nat) (more : List α) : Nat → List α :=
  fun n => log n ++ if n = k then more else []

section Noted

variable {α β : Type} {log : Nat → List β} {k : Nat}

theorem noted_nil (log : Nat → List β) (k : Nat) : noted log k [] = log := by
  funext n
  simp [noted]

theorem noted_noted (log : Nat → List β) (k : Nat) (more yet : List β) :
    noted (noted log k more) k yet = noted log k (more ++ yet) := by
  funext n
  by_cases hn : n = k <;> simp [noted, hn]

theorem noted_beyond {length : Nat} (h : ∀ n, length ≤ n → log n = []) (hk : k < length)
    (more : List β) : ∀ n, length ≤ n → noted log k more n = [] := by
  intro n hn
  have hne : n ≠ k := by omega
  simp [noted, hne, h n hn]

theorem Rowwise.set {R : List β → α → α → Prop} {xs ys : List α} {x y : α} {more : List β}
    (h : Rowwise (fun n => R (log n)) xs ys) (hxy : R (log k ++ more) x y) :
    Rowwise (fun n => R (noted log k more n)) (xs.set k x) (ys.set k y) := by
  refine ⟨by rw [List.length_set, List.length_set, h.length], fun n a b ha hb => ?_⟩
  rw [List.getElem?_set] at ha hb
  by_cases hn : k = n
  · subst hn
    rw [if_pos rfl] at ha hb
    split at ha
    · split at hb
      · rw [← Option.some.inj ha, ← Option.some.inj hb, noted, if_pos rfl]
        exact hxy
      · simp at hb
    · simp at ha
  · rw [if_neg hn] at ha hb
    rw [noted, if_neg (Ne.symm hn), List.append_nil]
    exact h.row n a b ha hb

/-- Behind both lists comes one more place, with a note of its own. -/
theorem Rowwise.concat_noted {R : List β → α → α → Prop} {xs ys : List α} {x y : α}
    {more : List β} (h : Rowwise (fun n => R (log n)) xs ys) (hnew : log xs.length = [])
    (hxy : R more x y) :
    Rowwise (fun n => R (noted log xs.length more n)) (xs ++ [x]) (ys ++ [y]) := by
  have hold : Rowwise (fun n => R (noted log xs.length more n)) xs ys := by
    refine ⟨h.length, fun n a b ha hb => ?_⟩
    have hn : n ≠ xs.length := Nat.ne_of_lt (List.getElem?_eq_some_iff.1 ha).1
    rw [noted, if_neg hn, List.append_nil]
    exact h.row n a b ha hb
  refine hold.concat ?_
  rwa [noted, hnew, if_pos rfl, List.nil_append]

end Noted

namespace Http

open Socket

/-- A reply to a request. The one that agrees to go on as a socket may have interludes behind it. -/
inductive Offer where
  | reply (r : Reply)
  | greeting (a : Answer) (h : a.status = 101) (pieces : List Piece)

namespace Offer

def plain : Offer → Reply
  | .reply r => r
  | .greeting a _ pieces => .answer { a with body := Piece.plain pieces }

def laced : Offer → Reply
  | .reply r => r
  | .greeting a _ pieces => .answer { a with body := Piece.laced pieces }

def pieces : Offer → List Piece
  | .reply .dropped => []
  | .reply (.answer a) => [.octets a.body]
  | .greeting _ _ pieces => pieces

def first (offers : List Offer) : Offer := offers.headD (.reply .dropped)

theorem first_mem (offers : List Offer) : first offers ∈ offers ∨ (first offers).pieces = [] := by
  cases offers with
  | nil => exact Or.inr rfl
  | cons offer offers => exact Or.inl List.mem_cons_self

theorem plain_first (offers : List Offer) :
    (offers.map plain).headD .dropped = (first offers).plain := by
  cases offers <;> rfl

theorem laced_first (offers : List Offer) :
    (offers.map laced).headD .dropped = (first offers).laced := by
  cases offers <;> rfl

/-- To a plain request an answer that ends it has no body. -/
theorem same (offers : List Offer) : Same (offers.map plain) (offers.map laced) := by
  induction offers with
  | nil => exact .nil
  | cons offer offers ih =>
    refine .cons ?_ ih
    cases offer with
    | reply r => rfl
    | greeting a h pieces => simp [plain, laced, Reply.final?, h, isBodiless]

theorem same_replies {r s : Remote} {offers : List Offer} (hr : r.replies = offers.map plain)
    (hs : s.replies = offers.map laced) : Same r.replies s.replies := by
  rw [hr, hs]
  exact same offers

theorem judge (offer : Offer) :
    (∃ refusal, Refusal.judge offer.plain = .error refusal ∧
        Refusal.judge offer.laced = .error refusal) ∨
      Refusal.judge offer.plain = .ok (Piece.plain offer.pieces) ∧
        Refusal.judge offer.laced = .ok (Piece.laced offer.pieces) := by
  cases offer with
  | reply r =>
    cases r with
    | dropped => exact Or.inl ⟨_, rfl, rfl⟩
    | answer a =>
      have hplain : Piece.plain [.octets a.body] = a.body := List.append_nil _
      have hlaced : Piece.laced [.octets a.body] = a.body := List.append_nil _
      simp only [plain, laced, pieces, hplain, hlaced]
      cases hjudged : Refusal.judge (.answer a) with
      | error refusal => exact Or.inl ⟨_, rfl, rfl⟩
      | ok greeting =>
        obtain ⟨b, hb, rfl⟩ := Refusal.judge_eq_ok hjudged
        cases hb
        exact Or.inr ⟨rfl, rfl⟩
  | greeting a h pieces =>
    simp only [plain, laced, Offer.pieces, Refusal.judge]
    split
    · exact Or.inl ⟨_, rfl, rfl⟩
    split
    · exact Or.inl ⟨_, rfl, rfl⟩
    split
    · exact Or.inl ⟨_, rfl, rfl⟩
    split
    · exact Or.inl ⟨_, rfl, rfl⟩
    · exact Or.inr ⟨rfl, rfl⟩

end Offer

end Http

namespace Manager

open Connection Socket

/-- Two managers that are the same but for these pongs on the links of the second. -/
inductive Beside (pings : Nat → List (List UInt8)) : Manager → Manager → Prop
  | but (phase : Phase) (held : Option Nat) {links links' : List Link}
      (h : Rowwise (fun k => Link.Beside (pings k)) links links')
      (hbeyond : ∀ k, links.length ≤ k → pings k = []) :
      Beside pings ⟨phase, held, links⟩ ⟨phase, held, links'⟩

section Beside

variable {pings : Nat → List (List UInt8)} {m m' : Manager}

theorem Beside.settle (h : m.Beside pings m') :
    m'.settle.2 = m.settle.2 ∧ m.settle.1.Beside pings m'.settle.1 := by
  cases h with
  | @but phase held links links' h hbeyond =>
    have hsignals : links'.map (fun l => (l.settle phase).2) =
        links.map (fun l => (l.settle phase).2) :=
      h.map_eq fun k l l' hl => (hl.settle phase).1
    simp only [Manager.settle, List.map_map, List.flatMap_map]
    refine ⟨?_, .but _ _ (h.map fun k l l' hl => (hl.settle phase).2) ?_⟩
    · rw [List.flatMap_def, List.flatMap_def, hsignals]
    · intro k hk
      exact hbeyond k (by simpa using hk)

theorem Beside.phase (h : m.Beside pings m') : m'.phase = m.phase := by
  cases h
  rfl

theorem Beside.held (h : m.Beside pings m') : m'.held = m.held := by
  cases h
  rfl

theorem Beside.place (h : m.Beside pings m') (k : Nat) :
    m.links[k]? = none ∧ m'.links[k]? = none ∨
      ∃ l l', m.links[k]? = some l ∧ m'.links[k]? = some l' ∧ l.Beside (pings k) l' := by
  cases h with
  | but _ _ h _ => exact h.place k

theorem Beside.length (h : m.Beside pings m') : m'.links.length = m.links.length := by
  cases h with
  | but _ _ h _ => exact h.length

theorem Beside.set (h : m.Beside pings m') {k : Nat} {l x x' : Link} {more : List (List UInt8)}
    (hl : m.links[k]? = some l) (hx : x.Beside (pings k ++ more) x') (phase : Phase) :
    Beside (noted pings k more) { m with phase := phase, links := m.links.set k x }
      { m' with phase := phase, links := m'.links.set k x' } := by
  cases h with
  | but _ held h hbeyond =>
    refine .but _ _ (h.set hx) ?_
    rw [List.length_set]
    exact noted_beyond hbeyond (List.getElem?_eq_some_iff.1 hl).1 more

theorem Beside.set_same (h : m.Beside pings m') {k : Nat} {l x x' : Link}
    (hl : m.links[k]? = some l) (hx : x.Beside (pings k) x') (phase : Phase) :
    Beside pings { m with phase := phase, links := m.links.set k x }
      { m' with phase := phase, links := m'.links.set k x' } := by
  rw [← List.append_nil (pings k)] at hx
  have hset := h.set hl hx phase
  rwa [noted_nil] at hset

theorem Beside.onLink (h : m.Beside pings m') (k : Nat)
    (f f' : Link → Phase → Link × Phase × List Signal) (more : List (List UInt8))
    (hmore : m.links[k]? = none → more = [])
    (hf : ∀ l l', m.links[k]? = some l → l.Beside (pings k) l' →
      (f' l' m.phase).2 = (f l m.phase).2 ∧
        (f l m.phase).1.Beside (pings k ++ more) (f' l' m.phase).1) :
    (m'.onLink k f').2 = (m.onLink k f).2 ∧
      (m.onLink k f).1.Beside (noted pings k more) (m'.onLink k f').1 := by
  unfold Manager.onLink
  rw [h.phase]
  rcases h.place k with ⟨hl, hl'⟩ | ⟨l, l', hl, hl', hll'⟩
  · rw [hmore hl, noted_nil, hl, hl']
    exact ⟨rfl, h⟩
  · obtain ⟨hsame, hlinks⟩ := hf l l' hl hll'
    simp only [hl, hl', hsame]
    obtain ⟨hsettled, hbeside⟩ := (h.set hl hlinks (f l m.phase).2.1).settle
    simp only [hsettled]
    exact ⟨trivial, hbeside⟩

theorem Beside.arrive (h : m.Beside pings m') (k : Nat) (a : Link.Arrival) :
    (m'.arrive k a).2 = (m.arrive k a).2 ∧ (m.arrive k a).1.Beside pings (m'.arrive k a).1 := by
  have honLink := h.onLink k (fun l phase => l.arrive phase a) (fun l phase => l.arrive phase a) []
    (fun _ => rfl) fun l l' _ hll' => by
      have hsame := hll'.arrive a a [] rfl rfl (fun _ => rfl) (.refl _) m.phase
      rwa [ite_self] at hsame
  rwa [noted_nil] at honLink

/-- What the interludes of an arrival are answered with. -/
def echoes (m : Manager) (k : Nat) (interludes : List Interlude) : List (List UInt8) :=
  match m.links[k]? with
  | none => []
  | some l => l.echoes interludes

/-- Interludes may arrive where all of them stand between messages. -/
def Admits (m : Manager) (k : Nat) (pieces : List Piece) : Prop :=
  ∀ l ∈ m.links[k]?, l.endpoint.Admits pieces

theorem Beside.arrive_laced (h : m.Beside pings m') {k : Nat} {pieces : List Piece}
    (hadmits : m.Admits k pieces) :
    (m'.arrive k (.octets (Piece.laced pieces))).2 =
        (m.arrive k (.octets (Piece.plain pieces))).2 ∧
      (m.arrive k (.octets (Piece.plain pieces))).1.Beside
        (noted pings k (m.echoes k (Piece.interludes pieces)))
        (m'.arrive k (.octets (Piece.laced pieces))).1 := by
  refine h.onLink k _ _ _ (fun hl => by simp [echoes, hl]) fun l l' hl hll' => ?_
  have hlaced := hll'.arrive_laced (hadmits l hl) m.phase
  have hechoes : m.echoes k (Piece.interludes pieces) = l.echoes (Piece.interludes pieces) := by
    simp only [echoes, hl]
  rwa [hechoes]

theorem Beside.sendThrough (h : m.Beside pings m') (k : Nat) (text : String) :
    (m'.sendThrough k text).1 = (m.sendThrough k text).1 ∧
      (m'.sendThrough k text).2.2 = (m.sendThrough k text).2.2 ∧
      (m.sendThrough k text).2.1.Beside pings (m'.sendThrough k text).2.1 := by
  unfold Manager.sendThrough
  rw [h.phase]
  rcases h.place k with ⟨hl, hl'⟩ | ⟨l, l', hl, hl', hll'⟩
  · simp only [hl, hl']
    exact ⟨trivial, trivial, h⟩
  rcases hll'.send m.phase text with ⟨hs, hs'⟩ | ⟨x, x', hs, hs', hxx'⟩
  · simp only [hl, hl', hs, hs']
    exact ⟨trivial, trivial, h⟩
  · simp only [hl, hl', hs, hs']
    exact ⟨trivial, (h.set_same hl hxx' m.phase).settle⟩

theorem Beside.send (h : m.Beside pings m') (text : String) :
    (m'.send text).1 = (m.send text).1 ∧ (m'.send text).2.2 = (m.send text).2.2 ∧
      (m.send text).2.1.Beside pings (m'.send text).2.1 := by
  unfold Manager.send
  rw [h.held]
  split
  · exact ⟨rfl, rfl, h⟩
  · exact h.sendThrough _ text

theorem Beside.enqueueClose (h : m.Beside pings m') (k : Nat) :
    (m.enqueueClose k).Beside pings (m'.enqueueClose k) := by
  unfold Manager.enqueueClose
  rw [h.phase]
  rcases h.place k with ⟨hl, hl'⟩ | ⟨l, l', hl, hl', hll'⟩
  · rwa [hl, hl']
  rcases hll'.enqueue (.close normal "") with ⟨hs, hs'⟩ | ⟨x, x', hs, hs', hxx'⟩
  · simp only [hl, hl', hs, hs']
    exact h
  · simp only [hl, hl', hs, hs']
    exact h.set_same hl hxx' m.phase

theorem Beside.over (h : m.Beside pings m') (phase : Phase) (held : Option Nat) :
    Beside pings ⟨phase, held, m.links⟩ ⟨phase, held, m'.links⟩ := by
  cases h with
  | but _ _ h hbeyond => exact .but _ _ h hbeyond

theorem Beside.close (h : m.Beside pings m') :
    m'.close.2 = m.close.2 ∧ m.close.1.Beside pings m'.close.1 := by
  unfold Manager.close
  rw [h.held, h.phase]
  cases m.held with
  | none => exact ⟨rfl, h⟩
  | some k =>
    simp only
    split
    · exact ((h.enqueueClose k).over .closed none).settle
    · exact (h.over .closed none).settle

/-- What the interludes behind the answer to a dial are answered with, if it has opened a link. -/
def greeted (result : Except Failure Unit) (offer : Http.Offer) : List (List UInt8) :=
  match result with
  | .ok () => answered .active (Piece.interludes offer.pieces)
  | .error _ => []

theorem Beside.opening (h : m.Beside pings m') :
    (Manager.opening m.links).Beside pings (Manager.opening m'.links) := by
  cases h with
  | but _ _ h hbeyond =>
    have hfresh := hbeyond _ (Nat.le_refl _)
    unfold Manager.opening
    rw [h.length]
    refine .but _ _ (h.concat (hfresh ▸ .but _ _ _ _ .nil)) fun k hk => hbeyond k ?_
    rw [List.length_append] at hk
    exact Nat.le_of_add_right_le hk

theorem echoes_opening (links : List Link) (interludes : List Interlude) :
    (Manager.opening links).echoes links.length interludes = answered .active interludes := by
  have hnew : (Manager.opening links).links[links.length]? = some .fresh :=
    List.getElem?_concat_length
  simp only [echoes, hnew]
  rfl

theorem Beside.opened (h : m.Beside pings m') {pieces : List Piece}
    (hadmits : Endpoint.fresh.Admits pieces) :
    ((Manager.opening m'.links).arrive m'.links.length (.octets (Piece.laced pieces))).2 =
        ((Manager.opening m.links).arrive m.links.length (.octets (Piece.plain pieces))).2 ∧
      ((Manager.opening m.links).arrive m.links.length (.octets (Piece.plain pieces))).1.Beside
        (noted pings m.links.length (answered .active (Piece.interludes pieces)))
        ((Manager.opening m'.links).arrive m'.links.length (.octets (Piece.laced pieces))).1 := by
  have hpieces : (Manager.opening m.links).Admits m.links.length pieces := by
    intro l hnew
    obtain rfl : .fresh = l := Option.some.inj (List.getElem?_concat_length.symm.trans hnew)
    exact hadmits
  have harrived := h.opening.arrive_laced hpieces
  rw [h.length]
  rwa [echoes_opening] at harrived

/-- A dial comes to the same whether or not interludes stand behind the answer to it. -/
theorem Beside.dial (h : m.Beside pings m') (net : Network) (url : Url) (offers : List Http.Offer)
    (hadmits : ∀ offer ∈ offers, Endpoint.fresh.Admits offer.pieces) {r s : Http.Remote}
    (hr : r.replies = offers.map Http.Offer.plain) (hs : s.replies = offers.map Http.Offer.laced) :
    (m'.dial net url s).result = (m.dial net url r).result ∧
      (m'.dial net url s).signals = (m.dial net url r).signals ∧
      (∃ qs, (m.dial net url r).remote = r.advance qs ∧
        (m'.dial net url s).remote = s.advance qs ∧
        ((m.dial net url r).result = .ok () → qs.length = 1)) ∧
      (m.dial net url r).manager.Beside
        (noted pings m.links.length (greeted (m.dial net url r).result (.first offers)))
        (m'.dial net url s).manager := by
  have hnil : ∀ remote : Http.Remote, remote = remote.advance [] :=
    fun remote => remote.advance_nil.symm
  have hphase := h.phase
  cases hl : m.phase.isLive with
  | true =>
    simp only [Manager.dial, hphase, hl, if_true, greeted, noted_nil]
    exact ⟨trivial, trivial, ⟨[], hnil r, hnil s, fun hok => by simp at hok⟩, h⟩
  | false =>
    have hl' : m'.phase.isLive = false := by rw [hphase, hl]
    have hclosed : Beside pings { m with phase := .closed } { m' with phase := .closed } := by
      rw [h.held]
      exact h.over .closed m.held
    rcases handshake_uniform net url with ⟨refusal, hrefused⟩ | ⟨q, hasked⟩
    · rw [dial_refused hl (hrefused r), dial_refused hl' (hrefused s), greeted, noted_nil]
      exact ⟨rfl, rfl, ⟨[], hnil r, hnil s, fun hok => by simp at hok⟩, hclosed⟩
    have hplain := hasked r
    have hlaced := hasked s
    rw [hr, Http.Offer.plain_first] at hplain
    rw [hs, Http.Offer.laced_first] at hlaced
    rcases (Http.Offer.first offers).judge with ⟨refusal, hj, hj'⟩ | ⟨hj, hj'⟩
    · rw [hj] at hplain
      rw [hj'] at hlaced
      rw [dial_refused hl hplain, dial_refused hl' hlaced, greeted, noted_nil]
      exact ⟨rfl, rfl, ⟨[q], rfl, rfl, fun _ => rfl⟩, hclosed⟩
    · rw [hj] at hplain
      rw [hj'] at hlaced
      have hpieces : Endpoint.fresh.Admits (Http.Offer.first offers).pieces := by
        rcases Http.Offer.first_mem offers with hmem | hnone
        · exact hadmits _ hmem
        · rw [hnone]
          trivial
      obtain ⟨hsignals, hbeside⟩ := h.opened hpieces
      rw [dial_agreed hl hplain, dial_agreed hl' hlaced]
      exact ⟨rfl, congrArg (.opened :: ·) hsignals, ⟨[q], rfl, rfl, fun _ => rfl⟩, hbeside⟩

end Beside

end Manager
end Parley
