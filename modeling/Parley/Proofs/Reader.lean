import Parley.Connection.Reader

/-! The reading side. A run of a reader over any items is cut at the first item that ends the
connection: what stands in front of it is passed on, the end itself is reported once, and nothing
behind it matters. An endpoint that has read on without such an end is in the stage it was in. -/

namespace Parley.Socket

/-- The code that an item ends a connection with. -/
def Item.endCode? : Item → Option Nat
  | .close code => some (code.getD noStatus)
  | .ended => some abnormal
  | _ => none

def Item.text? : Item → Option String
  | .text s => some s
  | _ => none

/-- The code of the first end. -/
def endOf? (items : List Item) : Option Nat := items.findSome? Item.endCode?

def untilEnd (items : List Item) : List Item := items.takeWhile (·.endCode?.isNone)

theorem endOf?_cons_end {item : Item} {code : Nat} (h : item.endCode? = some code)
    (items : List Item) :
    endOf? (item :: items) = some code := by
  simp [endOf?, h]

theorem endOf?_cons_other {item : Item} (h : item.endCode? = none) (items : List Item) :
    endOf? (item :: items) = endOf? items := by
  simp [endOf?, h]

theorem untilEnd_cons_end {item : Item} {code : Nat} (h : item.endCode? = some code)
    (items : List Item) :
    untilEnd (item :: items) = [] := by
  simp [untilEnd, h]

theorem untilEnd_cons_other {item : Item} (h : item.endCode? = none) (items : List Item) :
    untilEnd (item :: items) = item :: untilEnd items := by
  simp [untilEnd, h]

end Parley.Socket

namespace Parley.Connection.Reader

open Socket

/-- What an item that is no end is passed on as. -/
def reports (phase : Phase) : Item → List Signal
  | .text s => if phase = .opened then [.text s] else []
  | .failed fault => [.failed (.transport fault.message)]
  | _ => []

theorem run_stopped (phase : Phase) (items : List Item) :
    run ⟨phase, true⟩ items = (⟨phase, true⟩, []) := by
  induction items with
  | nil => rfl
  | cons item items ih => simp [run, step, ih]

theorem step_end {item : Item} {code : Nat} (h : item.endCode? = some code) (phase : Phase) :
    step ⟨phase, false⟩ item = (⟨.closed, true⟩, [.closed code]) := by
  cases item with
  | close c => simp_all [Item.endCode?, step, stop]
  | ended => simp_all [Item.endCode?, step, stop]
  | _ => simp [Item.endCode?] at h

theorem step_other {item : Item} (h : item.endCode? = none) (phase : Phase) :
    step ⟨phase, false⟩ item = (⟨phase, false⟩, reports phase item) := by
  cases item with
  | close c => simp [Item.endCode?] at h
  | ended => simp [Item.endCode?] at h
  | _ => rfl

/-- Whether a run ends is up to the items alone, and so is the code that it reports. -/
theorem run_running (phase : Phase) (items : List Item) :
    run ⟨phase, false⟩ items =
      (if (endOf? items).isSome then ⟨.closed, true⟩ else ⟨phase, false⟩,
        (untilEnd items).flatMap (reports phase) ++ (endOf? items).toList.map .closed) := by
  induction items with
  | nil => rfl
  | cons item items ih =>
    cases h : item.endCode? with
    | some code =>
      simp [run, step_end h, run_stopped, endOf?_cons_end h, untilEnd_cons_end h]
    | none =>
      simp [run, step_other h, ih, endOf?_cons_other h, untilEnd_cons_other h]

end Parley.Connection.Reader

namespace Parley.Socket.Endpoint

theorem control_stage {e e' : Endpoint} {f : Frame} {item? : Option Item}
    (h : e.control f = .ok (e', item?)) :
    e'.stage = e.stage ∨ ∃ code, item? = some (.close code) := by
  unfold control at h
  split at h
  · contradiction
  split at h
  · contradiction
  split at h
  · split at h
    · contradiction
    · rename_i code _
      obtain ⟨-, rfl⟩ := Prod.mk.inj (Except.ok.inj h)
      right
      split <;> exact ⟨_, rfl⟩
  · obtain ⟨rfl, -⟩ := Prod.mk.inj (Except.ok.inj h)
    exact Or.inl rfl
  · obtain ⟨rfl, -⟩ := Prod.mk.inj (Except.ok.inj h)
    exact Or.inl rfl

theorem continueWith_stage {e e' : Endpoint} {parts : Fragments} {f : Frame} {item? : Option Item}
    (h : e.continueWith parts f = .ok (e', item?)) : e'.stage = e.stage := by
  unfold continueWith at h
  split at h
  · contradiction
  split at h
  · split at h
    · contradiction
    · obtain ⟨rfl, -⟩ := Prod.mk.inj (Except.ok.inj h)
      rfl
  · obtain ⟨rfl, -⟩ := Prod.mk.inj (Except.ok.inj h)
    rfl

theorem data_stage {e e' : Endpoint} {f : Frame} {item? : Option Item}
    (h : e.data f = .ok (e', item?)) : e'.stage = e.stage := by
  unfold data at h
  split at h
  · exact continueWith_stage h
  · contradiction
  · contradiction
  · simp only at h
    split at h
    · exact continueWith_stage h
    split at h
    · split at h
      · contradiction
      · obtain ⟨rfl, -⟩ := Prod.mk.inj (Except.ok.inj h)
        rfl
    · obtain ⟨rfl, -⟩ := Prod.mk.inj (Except.ok.inj h)
      rfl

theorem accept_stage {e e' : Endpoint} {f : Frame} {item? : Option Item}
    (h : e.accept f = .ok (e', item?)) :
    e'.stage = e.stage ∨ ∃ code, item? = some (.close code) := by
  unfold accept at h
  split at h
  · contradiction
  split at h
  · contradiction
  split at h
  · contradiction
  split at h
  · exact control_stage h
  · exact Or.inl (data_stage h)

/-- Only a close moves an endpoint on, and a close is an end. -/
theorem readFrames_stage (n : Nat) (e : Endpoint) :
    (readFrames n e).1.stage = e.stage ∨ (endOf? (readFrames n e).2).isSome := by
  induction n generalizing e with
  | zero => exact Or.inl rfl
  | succ n ih =>
    unfold readFrames
    split
    · exact Or.inl rfl
    · exact Or.inl rfl
    · rename_i f rest _
      split
      · exact Or.inl rfl
      · rename_i e' h
        have hs : e'.stage = e.stage := by simpa using accept_stage h
        simpa [hs] using ih e'
      · simp [endOf?, Item.endCode?]
      · rename_i e' item hclose h
        have hs : e'.stage = e.stage := by
          rcases accept_stage h with hs | ⟨code, hc⟩
          · exact hs
          · exact absurd (Option.some.inj hc) (hclose code)
        cases hitem : item.endCode? with
        | some code => simp [endOf?_cons_end hitem]
        | none => simpa [endOf?_cons_other hitem, hs] using ih e'

theorem receive_stage (e : Endpoint) (bs : List UInt8) :
    (e.receive bs).1.stage = e.stage ∨ (endOf? (e.receive bs).2).isSome :=
  readFrames_stage _ { e with unread := e.unread ++ bs }

theorem close_not_active (e : Endpoint) (code : Option Nat) : (e.close code).1.stage ≠ .active := by
  unfold close
  split
  · exact Stage.noConfusion
  · exact Stage.noConfusion

theorem control_not_active {e e' : Endpoint} {f : Frame} {item? : Option Item}
    (h : e.control f = .ok (e', item?)) (he : e.stage ≠ .active) : e'.stage ≠ .active := by
  unfold control at h
  split at h
  · contradiction
  split at h
  · contradiction
  split at h
  · split at h
    · contradiction
    · obtain ⟨rfl, -⟩ := Prod.mk.inj (Except.ok.inj h)
      exact close_not_active e _
  · obtain ⟨rfl, -⟩ := Prod.mk.inj (Except.ok.inj h)
    exact he
  · obtain ⟨rfl, -⟩ := Prod.mk.inj (Except.ok.inj h)
    exact he

theorem accept_not_active {e e' : Endpoint} {f : Frame} {item? : Option Item}
    (h : e.accept f = .ok (e', item?)) (he : e.stage ≠ .active) : e'.stage ≠ .active := by
  unfold accept at h
  split at h
  · contradiction
  split at h
  · contradiction
  split at h
  · contradiction
  split at h
  · exact control_not_active h he
  · rwa [data_stage h]

theorem readFrames_not_active (n : Nat) {e : Endpoint} (he : e.stage ≠ .active) :
    (readFrames n e).1.stage ≠ .active := by
  induction n generalizing e with
  | zero => exact he
  | succ n ih =>
    unfold readFrames
    split
    · exact he
    · exact he
    · split
      · exact he
      · rename_i e' h
        exact ih (accept_not_active h he)
      · rename_i e' code h
        exact accept_not_active h he
      · rename_i e' item _ h
        exact ih (accept_not_active h he)

theorem hangUp_not_active {e : Endpoint} (he : e.stage ≠ .active) (cut : Cut) :
    (e.hangUp cut).stage ≠ .active := by
  cases cut with
  | silence => exact Stage.noConfusion
  | broken reason => exact he

theorem receive_not_active {e : Endpoint} (he : e.stage ≠ .active) (bs : List UInt8) :
    (e.receive bs).1.stage ≠ .active :=
  readFrames_not_active _ he

end Parley.Socket.Endpoint
