import Mathlib.Data.List.Basic
import Parley.Proofs.Splice

/-! Frames that stand between the messages of a server: whole binary messages, pings and pongs.
Whatever is read around them is read as if they were not there. All that is left of them is one pong
for each ping, as long as neither side has closed. -/

namespace Parley

inductive Interleaved {α : Type} : List α → List α → List α → Prop
  | nil : Interleaved [] [] []
  | left (x : α) {xs ys zs : List α} (h : Interleaved xs ys zs) :
      Interleaved (x :: xs) ys (x :: zs)
  | right (y : α) {xs ys zs : List α} (h : Interleaved xs ys zs) :
      Interleaved xs (y :: ys) (y :: zs)

namespace Interleaved

variable {α β : Type} {xs ys zs xs' ys' zs' : List α}

theorem refl (xs : List α) : Interleaved xs [] xs := by
  induction xs with
  | nil => exact .nil
  | cons x xs ih => exact .left x ih

theorem append (h : Interleaved xs ys zs) (h' : Interleaved xs' ys' zs') :
    Interleaved (xs ++ xs') (ys ++ ys') (zs ++ zs') := by
  induction h with
  | nil => exact h'
  | left x _ ih => exact .left x ih
  | right y _ ih => exact .right y ih

theorem filterMap (h : Interleaved xs ys zs) (f : α → Option β) :
    Interleaved (xs.filterMap f) (ys.filterMap f) (zs.filterMap f) := by
  induction h with
  | nil => exact .nil
  | left x _ ih =>
    rw [List.filterMap_cons, List.filterMap_cons]
    cases f x with
    | none => exact ih
    | some b => exact .left b ih
  | right y _ ih =>
    rw [List.filterMap_cons, List.filterMap_cons]
    cases f y with
    | none => exact ih
    | some b => exact .right b ih

end Interleaved

namespace Socket

/-- A whole binary message, a ping or a pong, in the octets it comes in. -/
structure Interlude where
  frame : Frame
  octets : List UInt8
  whole : Frame.read? octets = .ok (some (frame, []))
  final : frame.final = true
  unreserved : frame.reserved = false
  unmasked : frame.masked = false
  kind : frame.opcode = .binary ∨
    (frame.opcode = .ping ∨ frame.opcode = .pong) ∧ frame.payload.length ≤ 125

namespace Interlude

def ofPayload (opcode : Opcode) (payload : List UInt8) (hlimit : payload.length ≤ frameLimit)
    (hkind : opcode = .binary ∨ (opcode = .ping ∨ opcode = .pong) ∧ payload.length ≤ 125) :
    Interlude where
  frame := ⟨true, false, opcode, false, payload⟩
  octets := Frame.octets opcode payload
  whole := Frame.read?_octets opcode hlimit
  final := rfl
  unreserved := rfl
  unmasked := rfl
  kind := hkind

def item (x : Interlude) : Item :=
  match x.frame.opcode with
  | .ping => .ping x.frame.payload
  | .pong => .pong x.frame.payload
  | _ => .binary x.frame.payload

def ping? (x : Interlude) : Option (List UInt8) :=
  if x.frame.opcode = .ping then some x.frame.payload else none

end Interlude

/-- Items that are passed on as nothing and end nothing. -/
def Item.isInterlude : Item → Bool
  | .binary _ | .ping _ | .pong _ => true
  | _ => false

theorem Item.endCode?_of_isInterlude {item : Item} (h : item.isInterlude = true) :
    item.endCode? = none := by
  cases item with
  | binary _ | ping _ | pong _ => rfl
  | _ => exact Bool.noConfusion h

theorem Interlude.isInterlude_item (x : Interlude) : x.item.isInterlude = true := by
  unfold item
  split <;> rfl

/-- What is sent back for interludes, unless either side has closed. -/
def answered (stage : Stage) (interludes : List Interlude) : List (List UInt8) :=
  if stage = .active then interludes.filterMap Interlude.ping? else []

namespace Endpoint

/-- The server has not closed, and nothing of a further message has come. -/
structure Between (e : Endpoint) : Prop where
  canRead : e.stage.canRead = true
  unread : e.unread = []
  fragments : e.fragments = none

instance (e : Endpoint) : Decidable e.Between :=
  decidable_of_iff (e.stage.canRead = true ∧ e.unread = [] ∧ e.fragments = none)
    ⟨fun ⟨hread, hunread, hfragments⟩ => ⟨hread, hunread, hfragments⟩,
      fun h => ⟨h.canRead, h.unread, h.fragments⟩⟩

theorem accept_interlude {e : Endpoint} (h : e.Between) (x : Interlude) :
    e.accept x.frame = .ok (e, some x.item) := by
  have hfaultless : e.accept x.frame =
      if x.frame.opcode.isControl then e.control x.frame else e.data x.frame := by
    simp only [accept, h.canRead, x.unreserved, x.unmasked, not_true, Bool.false_eq_true, if_false]
  rw [hfaultless]
  rcases x.kind with hbinary | ⟨hping | hpong, hshort⟩
  · simp [hbinary, Opcode.isControl, Opcode.toNat, data, h.fragments, x.final, Interlude.item]
  · simp [hping, Opcode.isControl, Opcode.toNat, control, x.final, Nat.not_lt.2 hshort,
      Interlude.item]
  · simp [hpong, Opcode.isControl, Opcode.toNat, control, x.final, Nat.not_lt.2 hshort,
      Interlude.item]

theorem receive_nothing {e : Endpoint} (h : e.Between) : e.receive [] = (e, []) := by
  rw [receive_eq, List.append_nil]
  exact readAll_none (by rw [h.unread]; rfl)

theorem receive_interlude {e : Endpoint} (h : e.Between) (x : Interlude) :
    e.receive x.octets = (e, [x.item]) := by
  have hself : e.before [] = e := by rw [before, ← h.unread]
  have hend := Item.endCode?_of_isInterlude x.isInterlude_item
  have hnone : e.readAll = (e, []) := by
    have hnothing := receive_nothing h
    rwa [receive_eq, List.append_nil] at hnothing
  have haccept : ((e.before x.octets).before []).accept x.frame = .ok (e, some x.item) := by
    rw [← accept_interlude h x]
    exact congrArg (accept · x.frame) hself
  rw [receive_eq, h.unread, List.nil_append, readAll_some x.whole, haccept, behind_item hend, hnone]

end Endpoint

inductive Piece where
  | octets (bs : List UInt8)
  | interlude (x : Interlude)

namespace Piece

def plain (pieces : List Piece) : List UInt8 :=
  pieces.flatMap fun
    | .octets bs => bs
    | .interlude _ => []

def laced (pieces : List Piece) : List UInt8 :=
  pieces.flatMap fun
    | .octets bs => bs
    | .interlude x => x.octets

def interludes (pieces : List Piece) : List Interlude :=
  pieces.filterMap fun
    | .octets _ => none
    | .interlude x => some x

end Piece

namespace Endpoint

/-- Every interlude stands between two messages, and no end stands before it. -/
def Admits : Endpoint → List Piece → Prop
  | _, [] => True
  | e, .octets bs :: pieces =>
    pieces = [] ∨ endOf? (e.receive bs).2 = none ∧ Admits (e.receive bs).1 pieces
  | e, .interlude _ :: pieces => e.Between ∧ Admits e pieces

instance Admits.decidable : (e : Endpoint) → (pieces : List Piece) → Decidable (e.Admits pieces)
  | _, [] => .isTrue trivial
  | e, .octets bs :: pieces =>
    have := decidable (e.receive bs).1 pieces
    have : Decidable (pieces = []) := decidable_of_iff _ List.isEmpty_iff
    inferInstanceAs (Decidable (_ ∨ _ ∧ _))
  | e, .interlude _ :: pieces =>
    have := decidable e pieces
    inferInstanceAs (Decidable (_ ∧ _))

/-- Interludes leave the endpoint as it would have been, and the other items that are read too. -/
theorem receive_laced {e : Endpoint} {pieces : List Piece} (h : e.Admits pieces) :
    (e.receive (Piece.laced pieces)).1 = (e.receive (Piece.plain pieces)).1 ∧
      Interleaved (e.receive (Piece.plain pieces)).2 ((Piece.interludes pieces).map Interlude.item)
        (e.receive (Piece.laced pieces)).2 := by
  induction pieces generalizing e with
  | nil => exact ⟨rfl, .refl _⟩
  | cons piece pieces ih =>
    cases piece with
    | octets bs =>
      rcases h with rfl | ⟨hend, hrest⟩
      · exact ⟨rfl, .refl _⟩
      · obtain ⟨hsame, hitems⟩ := ih hrest
        simp only [Piece.laced, Piece.plain, Piece.interludes, List.flatMap_cons,
          List.filterMap_cons] at hsame hitems ⊢
        rw [receive_append hend, receive_append hend]
        exact ⟨hsame, (Interleaved.refl _).append hitems⟩
    | interlude x =>
      obtain ⟨hbetween, hrest⟩ := h
      obtain ⟨hsame, hitems⟩ := ih hrest
      have hx := receive_interlude hbetween x
      have hend : endOf? (e.receive x.octets).2 = none := by
        rw [hx]
        exact endOf?_cons_other (Item.endCode?_of_isInterlude x.isInterlude_item) []
      simp only [Piece.laced, Piece.plain, Piece.interludes, List.flatMap_cons,
        List.filterMap_cons, List.nil_append, List.map_cons] at hsame hitems ⊢
      rw [receive_append hend, hx]
      exact ⟨hsame, .right x.item hitems⟩

end Endpoint
end Socket

namespace Connection.Link

open Socket

/-- What is passed on is up to the items that are no interludes. -/
theorem heard_interleaved {items interludes laced : List Item}
    (h : Interleaved items interludes laced)
    (hinterludes : ∀ item ∈ interludes, item.isInterlude = true) (phase : Phase) :
    endOf? laced = endOf? items ∧ heard phase laced = heard phase items := by
  induction h with
  | nil => exact ⟨rfl, rfl⟩
  | @left item xs _ zs _ ih =>
    obtain ⟨hend, hheard⟩ := ih hinterludes
    cases hitem : item.endCode? with
    | some code =>
      have hcut : ∀ items, heard phase (item :: items) = [.closed code] := by
        intro items
        simp [heard, untilEnd_cons_end hitem, endOf?_cons_end hitem]
      rw [endOf?_cons_end hitem, endOf?_cons_end hitem, hcut, hcut]
      exact ⟨rfl, rfl⟩
    | none =>
      have hfront : endOf? [item] = none := endOf?_cons_other hitem []
      have hxs := (heard_append hfront phase xs).2
      have hzs := (heard_append hfront phase zs).2
      rw [hheard, ← hxs] at hzs
      exact ⟨by rw [endOf?_cons_other hitem, endOf?_cons_other hitem, hend], hzs⟩
  | @right item _ _ _ _ ih =>
    obtain ⟨hend, hheard⟩ := ih fun i hi => hinterludes i (List.mem_cons_of_mem _ hi)
    have hinterlude := hinterludes item List.mem_cons_self
    have hitem := Item.endCode?_of_isInterlude hinterlude
    have hnothing : Reader.reports phase item = [] := by
      cases item with
      | binary _ | ping _ | pong _ => rfl
      | _ => exact Bool.noConfusion hinterlude
    rw [endOf?_cons_other hitem, hend, ← hheard]
    simp only [heard, untilEnd_cons_other hitem, endOf?_cons_other hitem, List.flatMap_cons,
      hnothing, List.nil_append, and_self]

/-- Two links that are the same but for the pongs on these payloads, which only the second has. -/
inductive Beside (pings : List (List UInt8)) : Link → Link → Prop
  | but (queue : List Outbound) (writing reading : Bool) (endpoint : Endpoint)
      {wire wire' : List Outbound} (h : Interleaved wire (pings.map .pong) wire') :
      Beside pings ⟨queue, writing, reading, endpoint, wire⟩
        ⟨queue, writing, reading, endpoint, wire'⟩

def echoes (l : Link) (interludes : List Interlude) : List (List UInt8) :=
  if l.reading then answered l.endpoint.stage interludes else []

section Beside

variable {pings : List (List UInt8)} {l l' : Link}

theorem Beside.writeNext (h : l.Beside pings l') (phase : Phase) :
    (l'.writeNext phase).2 = (l.writeNext phase).2 ∧
      (l.writeNext phase).1.Beside pings (l'.writeNext phase).1 := by
  cases h with
  | but queue writing reading endpoint hwire =>
    unfold Link.writeNext
    cases writing with
    | false => exact ⟨rfl, .but _ _ _ _ hwire⟩
    | true =>
      cases queue with
      | nil =>
        by_cases hphase : phase = .closed
        · simp only [hphase]
          exact ⟨rfl, .but _ _ _ _ hwire⟩
        · simp only [hphase]
          exact ⟨rfl, .but _ _ _ _ hwire⟩
      | cons o queue =>
        cases hwrite : endpoint.write o with
        | error fault =>
          simp only [hwrite]
          exact ⟨rfl, .but _ _ _ _ hwire⟩
        | ok r =>
          simp only [hwrite]
          exact ⟨rfl, .but _ _ _ _ (by simpa using hwire.append (.refl r.2))⟩

theorem Beside.settle (h : l.Beside pings l') (phase : Phase) :
    (l'.settle phase).2 = (l.settle phase).2 ∧
      (l.settle phase).1.Beside pings (l'.settle phase).1 := by
  have hsteps : ∀ (n : Nat) {l l' : Link}, l.Beside pings l' →
      (writeSteps phase n l').2 = (writeSteps phase n l).2 ∧
        (writeSteps phase n l).1.Beside pings (writeSteps phase n l').1 := by
    intro n
    induction n with
    | zero => exact fun h => ⟨rfl, h⟩
    | succ n ih =>
      intro l l' h
      obtain ⟨hsignals, hnext⟩ := h.writeNext phase
      obtain ⟨hmore, hlast⟩ := ih hnext
      simp only [writeSteps, hsignals, hmore]
      exact ⟨trivial, hlast⟩
  have hqueue : l'.queue = l.queue := by
    cases h
    rfl
  unfold Link.settle
  rw [hqueue]
  exact hsteps _ h

theorem Beside.enqueue (h : l.Beside pings l') (o : Outbound) :
    l.enqueue o = .error .notConnected ∧ l'.enqueue o = .error .notConnected ∨
      ∃ x x', l.enqueue o = .ok x ∧ l'.enqueue o = .ok x' ∧ x.Beside pings x' := by
  cases h with
  | but queue writing reading endpoint hwire =>
    cases writing with
    | false => exact Or.inl ⟨rfl, rfl⟩
    | true => exact Or.inr ⟨_, _, rfl, rfl, .but _ _ _ _ hwire⟩

theorem Beside.send (h : l.Beside pings l') (phase : Phase) (text : String) :
    l.send phase text = .error .notConnected ∧ l'.send phase text = .error .notConnected ∨
      ∃ x x', l.send phase text = .ok x ∧ l'.send phase text = .ok x' ∧ x.Beside pings x' := by
  unfold Link.send
  by_cases hphase : phase = .opened
  · rw [if_pos hphase, if_pos hphase]
    exact h.enqueue _
  · rw [if_neg hphase, if_neg hphase]
    exact Or.inl ⟨rfl, rfl⟩

theorem Beside.arrive (h : l.Beside pings l') (a a' : Arrival) (more : List (List UInt8))
    (hendpoint : a'.endpoint l.endpoint = a.endpoint l.endpoint)
    (hend : endOf? (a'.items l.endpoint) = endOf? (a.items l.endpoint))
    (hheard : ∀ phase, heard phase (a'.items l.endpoint) = heard phase (a.items l.endpoint))
    (hpongs : Interleaved (Endpoint.pongs l.endpoint.stage (a.items l.endpoint)) (more.map .pong)
      (Endpoint.pongs l.endpoint.stage (a'.items l.endpoint))) (phase : Phase) :
    (l'.arrive phase a').2 = (l.arrive phase a).2 ∧
      (l.arrive phase a).1.Beside (pings ++ if l.reading then more else [])
        (l'.arrive phase a').1 := by
  cases h with
  | but queue writing reading endpoint hwire =>
    simp only at hendpoint hend hheard hpongs
    unfold Link.arrive
    cases reading with
    | false => exact ⟨rfl, by simpa using Beside.but _ _ _ _ hwire⟩
    | true =>
      simp only [if_true, hendpoint, hend, hheard]
      refine ⟨trivial, .but _ _ _ _ ?_⟩
      rw [List.map_append]
      exact hwire.append hpongs

theorem pongs_interludes (stage : Stage) (interludes : List Interlude) :
    Endpoint.pongs stage (interludes.map Interlude.item) =
      (answered stage interludes).map .pong := by
  unfold Endpoint.pongs answered
  split
  · rw [List.filterMap_map, List.map_filterMap]
    apply List.filterMap_congr
    intro x _
    rcases x.kind with hbinary | ⟨hping | hpong, -⟩
    · simp [Interlude.item, Interlude.ping?, hbinary]
    · simp [Interlude.item, Interlude.ping?, hping]
    · simp [Interlude.item, Interlude.ping?, hpong]
  · rfl

theorem pongs_interleaved {items interludes laced : List Item}
    (h : Interleaved items interludes laced) (stage : Stage) :
    Interleaved (Endpoint.pongs stage items) (Endpoint.pongs stage interludes)
      (Endpoint.pongs stage laced) := by
  unfold Endpoint.pongs
  split
  · exact h.filterMap _
  · exact .nil

theorem Beside.arrive_laced (h : l.Beside pings l') {pieces : List Piece}
    (hadmits : l.endpoint.Admits pieces) (phase : Phase) :
    (l'.arrive phase (.octets (Piece.laced pieces))).2 =
        (l.arrive phase (.octets (Piece.plain pieces))).2 ∧
      (l.arrive phase (.octets (Piece.plain pieces))).1.Beside
        (pings ++ l.echoes (Piece.interludes pieces))
        (l'.arrive phase (.octets (Piece.laced pieces))).1 := by
  obtain ⟨hendpoint, hitems⟩ := Endpoint.receive_laced hadmits
  have hinterludes : ∀ item ∈ (Piece.interludes pieces).map Interlude.item,
      item.isInterlude = true := by
    intro item hitem
    obtain ⟨x, -, rfl⟩ := List.mem_map.1 hitem
    exact x.isInterlude_item
  have hpongs := pongs_interleaved hitems l.endpoint.stage
  rw [pongs_interludes] at hpongs
  have hheard := heard_interleaved hitems hinterludes
  exact h.arrive (.octets (Piece.plain pieces)) (.octets (Piece.laced pieces)) _ hendpoint
    (hheard .opened).1 (fun phase => (hheard phase).2) hpongs phase

theorem arrive_nothing (h : l.endpoint.Between) (phase : Phase) :
    l.arrive phase (.octets []) = (l, phase, []) := by
  have hitems : (Arrival.octets []).items l.endpoint = [] :=
    congrArg Prod.snd (Endpoint.receive_nothing h)
  have hendpoint : (Arrival.octets []).endpoint l.endpoint = l.endpoint :=
    congrArg Prod.fst (Endpoint.receive_nothing h)
  have hpongs : Endpoint.pongs l.endpoint.stage [] = [] := ite_self _
  obtain ⟨queue, writing, reading, endpoint, wire⟩ := l
  cases reading with
  | false => rfl
  | true =>
    simp only [arrive, hitems, hendpoint, hpongs, List.append_nil]
    rfl

end Beside

end Connection.Link
end Parley
