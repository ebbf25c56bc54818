import Parley.Proofs.Beside

/-! Two lives along one script. The first system does nothing at some entries of it, where only
interludes come to the second, and both do the same at the others. What two systems come to at one
entry says everything about whole lives, of managers here. -/

namespace Parley

/-- A system that does one action after another, and the entries of scripts for two of them. -/
structure Course (ε α σ τ : Type) where
  act : σ → α → τ
  state : τ → σ
  nothing : σ → τ
  /-- What the first system does at an entry, if it does anything. -/
  plain? : ε → Option α
  laced : ε → α
  /-- Whether an entry may stand where the first system is in this state. -/
  Admitted : σ → ε → Prop
  /-- The place that the interludes of an entry come to, and what they are answered with. -/
  answers : σ → ε → Nat × List (List UInt8)

namespace Course

variable {ε α σ τ : Type} (C : Course ε α σ τ)

def life : σ → List α → List τ
  | _, [] => []
  | s, a :: actions => C.act s a :: life (C.state (C.act s a)) actions

def turn (s : σ) (e : ε) : τ :=
  match C.plain? e with
  | some a => C.act s a
  | none => C.nothing s

def note (pings : Nat → List (List UInt8)) (s : σ) (e : ε) : Nat → List (List UInt8) :=
  noted pings (C.answers s e).1 (C.answers s e).2

def Follows : σ → List ε → Prop
  | _, [] => True
  | s, e :: script => C.Admitted s e ∧ Follows (C.state (C.turn s e)) script

instance Follows.decidable [∀ s e, Decidable (C.Admitted s e)] :
    (s : σ) → (script : List ε) → Decidable (C.Follows s script)
  | _, [] => .isTrue trivial
  | s, e :: script =>
    have := decidable (C.state (C.turn s e)) script
    inferInstanceAs (Decidable (_ ∧ _))

/-- The lives of two systems, turn by turn. At an entry for both of them their turns are alike, and
at any other entry the turn of the second is as if nothing had been done. -/
inductive Abreast (alike : (Nat → List (List UInt8)) → τ → τ → Prop) :
    (Nat → List (List UInt8)) → σ → List ε → List τ → List τ → Prop
  | nil (pings : Nat → List (List UInt8)) (s : σ) : Abreast alike pings s [] [] []
  | both {pings : Nat → List (List UInt8)} {s : σ} {e : ε} {a : α} {t t' : τ} {script : List ε}
    {run run' : List τ} (he : C.plain? e = some a) (h : alike (C.note pings s e) t t')
    (hrest : Abreast alike (C.note pings s e) (C.state t) script run run') :
    Abreast alike pings s (e :: script) (t :: run) (t' :: run')
  | inserted {pings : Nat → List (List UInt8)} {s : σ} {e : ε} {t' : τ} {script : List ε}
    {run run' : List τ} (he : C.plain? e = none) (h : alike (C.note pings s e) (C.nothing s) t')
    (hrest : Abreast alike (C.note pings s e) s script run run') :
    Abreast alike pings s (e :: script) run (t' :: run')

/-- What holds at one entry, for systems that are the same but for what was answered. -/
structure Matched (alike : (Nat → List (List UInt8)) → τ → τ → Prop)
    (beside : (Nat → List (List UInt8)) → σ → σ → Prop) (good : σ → Prop) : Prop where
  state : ∀ {pings t t'}, alike pings t t' → beside pings (C.state t) (C.state t')
  nothing : ∀ s, C.state (C.nothing s) = s
  kept : ∀ {s}, good s → ∀ a, good (C.state (C.act s a))
  turn : ∀ {pings s s' e}, beside pings s s' → good s → C.Admitted s e →
    alike (C.note pings s e) (C.turn s e) (C.act s' (C.laced e))

variable {C}

theorem Matched.abreast {alike : (Nat → List (List UInt8)) → τ → τ → Prop}
    {beside : (Nat → List (List UInt8)) → σ → σ → Prop} {good : σ → Prop}
    (hC : C.Matched alike beside good) {pings : Nat → List (List UInt8)} {s s' : σ}
    (h : beside pings s s') (hs : good s) {script : List ε} (hscript : C.Follows s script) :
    C.Abreast alike pings s script (C.life s (script.filterMap C.plain?))
      (C.life s' (script.map C.laced)) := by
  induction script generalizing pings s s' with
  | nil => exact .nil pings s
  | cons e script ih =>
    obtain ⟨he, hrest⟩ := hscript
    have hturn := hC.turn h hs he
    have hnext := hC.state hturn
    cases ha : C.plain? e with
    | some a =>
      have hact : C.turn s e = C.act s a := by simp only [Course.turn, ha]
      rw [hact] at hturn hnext hrest
      rw [List.filterMap_cons_some ha]
      exact .both ha hturn (ih hnext (hC.kept hs a) hrest)
    | none =>
      have hact : C.turn s e = C.nothing s := by simp only [Course.turn, ha]
      rw [hact] at hturn hnext hrest
      rw [hC.nothing] at hnext hrest
      rw [List.filterMap_cons_none ha]
      exact .inserted ha hturn (ih hnext hs hrest)

end Course

namespace Socket

theorem Piece.interludes_only (interludes : List Interlude) :
    Piece.plain (interludes.map .interlude) = [] ∧
      Piece.interludes (interludes.map .interlude) = interludes := by
  induction interludes with
  | nil => exact ⟨rfl, rfl⟩
  | cons x interludes ih =>
    exact ⟨ih.1, congrArg (x :: ·) ih.2⟩

theorem Endpoint.Between.admits {e : Endpoint} (h : e.Between) (interludes : List Interlude) :
    e.Admits (interludes.map .interlude) := by
  induction interludes with
  | nil => trivial
  | cons x interludes ih => exact ⟨h, ih⟩

end Socket

namespace Manager

open Connection Socket

/-- What happens to a manager: the same to both, or to the second with interludes in between. -/
inductive Entry where
  | act (a : Action)
  | dial (url : Url) (offers : List Http.Offer)
  | receive (link : Nat) (pieces : List Piece)
  /-- Nothing but interludes comes, and to the second manager only. -/
  | insert (link : Nat) (interludes : List Interlude)

namespace Entry

def plain? : Entry → Option Action
  | .act a => some a
  | .dial url offers => some (.dial url (offers.map Http.Offer.plain))
  | .receive k pieces => some (.receive k (Piece.plain pieces))
  | .insert _ _ => none

def laced : Entry → Action
  | .act a => a
  | .dial url offers => .dial url (offers.map Http.Offer.laced)
  | .receive k pieces => .receive k (Piece.laced pieces)
  | .insert k interludes => .receive k (Piece.laced (interludes.map .interlude))

/-- Every interlude stands between two messages of its connection, and before the end of it. -/
def Admitted (m : Manager) : Entry → Prop
  | .act _ => True
  | .dial _ offers => ∀ offer ∈ offers, Endpoint.fresh.Admits offer.pieces
  | .receive k pieces => m.Admits k pieces
  | .insert k _ => ∃ l ∈ m.links[k]?, l.endpoint.Between

instance (m : Manager) : (e : Entry) → Decidable (e.Admitted m)
  | .act _ => .isTrue trivial
  | .dial _ offers =>
    inferInstanceAs (Decidable (∀ offer ∈ offers, Endpoint.fresh.Admits offer.pieces))
  | .receive k pieces => inferInstanceAs (Decidable (∀ l ∈ m.links[k]?, l.endpoint.Admits pieces))
  | .insert k _ => inferInstanceAs (Decidable (∃ l ∈ m.links[k]?, l.endpoint.Between))

def answers (net : Network) (m : Manager) : Entry → Nat × List (List UInt8)
  | .act _ => (0, [])
  | .dial url offers =>
    (m.links.length, greeted
      (m.dial net url (.ofReplies (offers.map Http.Offer.plain))).result (.first offers))
  | .receive k pieces => (k, m.echoes k (Piece.interludes pieces))
  | .insert k interludes => (k, m.echoes k interludes)

end Entry

structure Turn.Beside (pings : Nat → List (List UInt8)) (t t' : Turn) : Prop where
  result : t'.result = t.result
  signals : t'.signals = t.signals
  requests : t'.remote.requests = t.remote.requests
  manager : t.manager.Beside pings t'.manager

def Turn.nothing (m : Manager) : Turn := ⟨.ok (), m, [], .ofReplies []⟩

def lacing (net : Network) : Course Entry Action Manager Turn where
  act m a := m.act net a
  state := Turn.manager
  nothing := Turn.nothing
  plain? := Entry.plain?
  laced := Entry.laced
  Admitted m e := e.Admitted m
  answers m e := e.answers net m

instance (net : Network) (m : Manager) (e : Entry) : Decidable ((lacing net).Admitted m e) :=
  inferInstanceAs (Decidable (e.Admitted m))

section

variable {pings : Nat → List (List UInt8)} {m m' : Manager}

theorem Beside.dial_turn (h : m.Beside pings m') (net : Network) (url : Url)
    {offers : List Http.Offer}
    (hadmits : ∀ offer ∈ offers, Endpoint.fresh.Admits offer.pieces) :
    let t := m.dial net url (.ofReplies (offers.map Http.Offer.plain))
    Turn.Beside (noted pings m.links.length (greeted t.result (.first offers))) t
      (m'.dial net url (.ofReplies (offers.map Http.Offer.laced))) := by
  obtain ⟨hresult, hsignals, ⟨qs, hr, hs, -⟩, hbeside⟩ := h.dial net url offers hadmits
    (r := .ofReplies (offers.map Http.Offer.plain)) (s := .ofReplies (offers.map Http.Offer.laced))
    rfl rfl
  exact ⟨hresult, hsignals, by rw [hr, hs]; rfl, hbeside⟩

theorem offers_of_replies (replies : List Http.Reply) :
    (replies.map Http.Offer.reply).map Http.Offer.plain = replies ∧
      (replies.map Http.Offer.reply).map Http.Offer.laced = replies ∧
      (∀ offer ∈ replies.map Http.Offer.reply, Endpoint.fresh.Admits offer.pieces) ∧
      ∀ n, Piece.interludes (Http.Offer.first ((replies.map .reply).drop n)).pieces = [] := by
  refine ⟨by simp [Function.comp_def, Http.Offer.plain],
    by simp [Function.comp_def, Http.Offer.laced], ?_, ?_⟩
  · intro offer hoffer
    obtain ⟨r, -, rfl⟩ := List.mem_map.1 hoffer
    cases r with
    | dropped => trivial
    | answer a => exact Or.inl rfl
  · intro n
    rw [← List.map_drop]
    cases replies.drop n with
    | nil => rfl
    | cons r replies => cases r <;> rfl

theorem Beside.act (h : m.Beside pings m') (net : Network) (a : Action) :
    Turn.Beside pings (m.act net a) (m'.act net a) := by
  cases a with
  | dial url replies =>
    obtain ⟨hplain, hlaced, hadmits, hnone⟩ := offers_of_replies replies
    have hdial := h.dial_turn net url hadmits
    have hgreeted : ∀ result, greeted result (.first (replies.map .reply)) = [] := by
      intro result
      have hfirst := hnone 0
      rw [List.drop_zero] at hfirst
      simp only [greeted, hfirst]
      cases result <;> rfl
    rw [hplain, hlaced] at hdial
    simp only [hgreeted, noted_nil] at hdial
    exact hdial
  | send text =>
    obtain ⟨hresult, hsignals, hbeside⟩ := h.send text
    exact ⟨hresult, hsignals, rfl, hbeside⟩
  | sendThrough k text =>
    obtain ⟨hresult, hsignals, hbeside⟩ := h.sendThrough k text
    exact ⟨hresult, hsignals, rfl, hbeside⟩
  | close =>
    obtain ⟨hsignals, hbeside⟩ := h.close
    exact ⟨rfl, hsignals, rfl, hbeside⟩
  | receive k bs =>
    obtain ⟨hsignals, hbeside⟩ := h.arrive k (.octets bs)
    rw [← receive_eq, ← receive_eq] at hsignals hbeside
    exact ⟨rfl, hsignals, rfl, hbeside⟩
  | hangUp k cut =>
    obtain ⟨hsignals, hbeside⟩ := h.arrive k (.hangUp cut)
    rw [← hangUp_eq, ← hangUp_eq] at hsignals hbeside
    exact ⟨rfl, hsignals, rfl, hbeside⟩

theorem Steady.settle_self (h : m.Steady) : m.settle = (m, []) := by
  cases h with
  | idle => rfl
  | closed held h => exact settle_done h
  | @opened earlier newest h hn =>
    rw [settle_eq (Steady.opened h hn).queue]
    simp only [Link.rest_opened, List.map_id']

theorem Steady.arrive_nothing (h : m.Steady) {k : Nat} {l : Link} (hl : m.links[k]? = some l)
    (hbetween : l.endpoint.Between) : m.arrive k (.octets []) = (m, []) := by
  have hself : { m with links := m.links.set k l } = m := by
    obtain ⟨hlt, rfl⟩ := List.getElem?_eq_some_iff.1 hl
    rw [List.set_getElem_self hlt]
  simp only [Manager.arrive, onLink, hl, Link.arrive_nothing hbetween, hself, h.settle_self,
    List.append_nil]

theorem Beside.turn (h : m.Beside pings m') (hm : m.Steady) (net : Network) {e : Entry}
    (he : e.Admitted m) :
    Turn.Beside ((lacing net).note pings m e) ((lacing net).turn m e) (m'.act net e.laced) := by
  cases e with
  | act a =>
    have hnote : (lacing net).note pings m (.act a) = pings := noted_nil pings 0
    rw [hnote]
    exact h.act net a
  | dial url offers => exact h.dial_turn net url he
  | receive k pieces =>
    obtain ⟨hsignals, hbeside⟩ := h.arrive_laced he
    rw [← receive_eq, ← receive_eq] at hsignals hbeside
    exact ⟨rfl, hsignals, rfl, hbeside⟩
  | insert k interludes =>
    obtain ⟨l, hl, hbetween⟩ := he
    obtain ⟨hplain, hinterludes⟩ := Piece.interludes_only interludes
    have hadmits : m.Admits k (interludes.map .interlude) := by
      intro x hx
      obtain rfl := Option.some.inj (hl.symm.trans hx)
      exact hbetween.admits interludes
    obtain ⟨hsignals, hbeside⟩ := h.arrive_laced hadmits
    rw [hplain, hm.arrive_nothing hl hbetween, ← receive_eq] at hsignals hbeside
    rw [hinterludes] at hbeside
    exact ⟨rfl, hsignals, rfl, hbeside⟩

end

theorem life_eq_lacing (net : Network) (m : Manager) (actions : List Action) :
    life net m actions = (lacing net).life m actions := by
  induction actions generalizing m with
  | nil => rfl
  | cons a actions ih => exact congrArg _ (ih _)

theorem lacing_matched (net : Network) : (lacing net).Matched Turn.Beside Beside Steady where
  state h := h.manager
  nothing _ := rfl
  kept hm a := hm.act net a
  turn h hm he := h.turn hm net he

end Manager
end Parley
