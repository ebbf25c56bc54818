import Parley.Connection.Link
import Parley.Proofs.Reader

/-! A reader while others move the phase it shares. Between any two items of its stream somebody
else may have closed the phase, or opened it again, and only what the reader finds when it takes a
text counts for that text. Up to the first end it tells of the texts that it found the phase open
for and of every fault, and touches nothing. With the end it closes the phase and tells of it once.
The items behind the end are never looked at. -/

namespace Parley.Connection.Reader

open Socket

/-- What a reader meets: the next item of its stream, or that somebody else has moved the phase. The
stream gives `ended` when it says that its connection is gone, and when it gives nothing more. -/
inductive Occasion where
  | item (i : Item)
  | moved (phase : Phase)
deriving DecidableEq, Repr

def meet (r : Reader) : Occasion → Reader × List Signal
  | .item i => r.step i
  | .moved phase => ({ r with phase := phase }, [])

def attend (r : Reader) : List Occasion → Reader × List Signal
  | [] => (r, [])
  | o :: os =>
    let (r, signals) := r.meet o
    let (r, more) := r.attend os
    (r, signals ++ more)

/-- With nobody else about it does what a reader does. -/
theorem attend_items (r : Reader) (items : List Item) :
    r.attend (items.map .item) = r.run items := by
  induction items generalizing r with
  | nil => rfl
  | cons item items ih => simp only [List.map_cons, attend, run, meet, ih]

theorem attend_append (r : Reader) (front behind : List Occasion) :
    r.attend (front ++ behind) =
      (((r.attend front).1.attend behind).1,
        (r.attend front).2 ++ ((r.attend front).1.attend behind).2) := by
  induction front generalizing r with
  | nil => simp [attend]
  | cons o front ih => simp only [List.cons_append, attend, ih, List.append_assoc]

def movedTo (phase : Phase) : List Occasion → Phase
  | [] => phase
  | .moved p :: os => movedTo p os
  | .item _ :: os => movedTo phase os

def found (phase : Phase) : List Occasion → List (Phase × Item)
  | [] => []
  | .moved p :: os => found p os
  | .item i :: os => (phase, i) :: found phase os

def news (phase : Phase) (os : List Occasion) : List Signal :=
  (found phase os).flatMap fun (p, i) => reports p i

def Occasion.endsIt : Occasion → Bool
  | .item i => i.endCode?.isSome
  | .moved _ => false

theorem attend_stopped (phase : Phase) (os : List Occasion) :
    attend ⟨phase, true⟩ os = (⟨movedTo phase os, true⟩, []) := by
  induction os generalizing phase with
  | nil => rfl
  | cons o os ih =>
    cases o with
    | item i => simp [attend, meet, step, ih, movedTo]
    | moved p => simp [attend, meet, ih, movedTo]

/-- No item in front of an end moves the phase or stops the reader. -/
theorem attend_endless (phase : Phase) {os : List Occasion} (h : ∀ o ∈ os, o.endsIt = false) :
    attend ⟨phase, false⟩ os = (⟨movedTo phase os, false⟩, news phase os) := by
  induction os generalizing phase with
  | nil => rfl
  | cons o os ih =>
    have hos : ∀ o ∈ os, o.endsIt = false := fun o ho => h o (List.mem_cons_of_mem _ ho)
    cases o with
    | moved p => simp only [attend, meet, ih p hos, List.nil_append, movedTo, news, found]
    | item i =>
      have hi : i.endCode? = none := by simpa [Occasion.endsIt] using h _ List.mem_cons_self
      simp only [attend, meet, step_other hi, ih phase hos, movedTo, news, found, List.flatMap_cons]

theorem attend_end (phase : Phase) {front : List Occasion} (hfront : ∀ o ∈ front, o.endsIt = false)
    {i : Item} {code : Nat} (hi : i.endCode? = some code) (behind : List Occasion) :
    attend ⟨phase, false⟩ (front ++ .item i :: behind) =
      (⟨movedTo .closed behind, true⟩, news phase front ++ [.closed code]) := by
  rw [attend_append, attend_endless phase hfront]
  simp only [attend, meet, step_end hi, attend_stopped, List.append_nil]

theorem movedTo_concat_item (phase : Phase) (os : List Occasion) (i : Item) :
    movedTo phase (os ++ [.item i]) = movedTo phase os := by
  induction os generalizing phase with
  | nil => rfl
  | cons o os ih => cases o <;> exact ih _

theorem takeWhile_endless (os : List Occasion) :
    (∀ o ∈ os.takeWhile (!·.endsIt), o.endsIt = false) ∧
      (os.dropWhile (!·.endsIt) = [] ∨
        ∃ i code behind, os.dropWhile (!·.endsIt) = .item i :: behind ∧
          i.endCode? = some code) := by
  constructor
  · intro o ho
    simpa using List.all_eq_true.1 List.all_takeWhile o ho
  · have hhead := List.head?_dropWhile_not (fun o : Occasion => !o.endsIt) os
    cases hrest : os.dropWhile (!·.endsIt) with
    | nil => exact Or.inl rfl
    | cons e behind =>
      have he : e.endsIt = true := by simpa [hrest] using hhead
      right
      cases e with
      | moved p => exact Bool.noConfusion he
      | item i =>
        obtain ⟨code, hi⟩ := Option.isSome_iff_exists.1 he
        exact ⟨i, code, behind, rfl, hi⟩

/-- All that a reader does, whatever it meets and wherever others move the phase in between: on any
part of a stream, and on a whole one, at the end of which the stream gives nothing more. It is what
the reader of a link does with the items alone. -/
theorem told_of_occasions (phase : Phase) (os : List Occasion) :
    let front := os.takeWhile (!·.endsIt)
    let rest := os.dropWhile (!·.endsIt)
    attend ⟨phase, false⟩ os =
        (match rest with
        | .item (.close code) :: behind =>
          (⟨movedTo .closed behind, true⟩, news phase front ++ [.closed (code.getD 1005)])
        | .item .ended :: behind =>
          (⟨movedTo .closed behind, true⟩, news phase front ++ [.closed 1006])
        | _ => (⟨movedTo phase os, false⟩, news phase os)) ∧
      attend ⟨phase, false⟩ (os ++ [.item .ended]) =
        (⟨movedTo .closed rest, true⟩,
          news phase front ++
            [.closed (match rest with
              | .item (.close code) :: _ => code.getD 1005
              | _ => 1006)]) ∧
      ∀ (r : Reader) (items : List Item), r.attend (items.map .item) = r.run items := by
  intro front rest
  obtain ⟨hfront, hrest⟩ := takeWhile_endless os
  have hos : front ++ rest = os := List.takeWhile_append_dropWhile
  have hwhole : os ++ [.item .ended] = front ++ (rest ++ [.item .ended]) := by
    rw [← List.append_assoc, hos]
  rw [hwhole]
  rcases hrest with hnil | ⟨i, code, behind, hcons, hi⟩
  · have hempty : rest = [] := hnil
    rw [hempty, List.append_nil] at hos
    rw [hempty, ← hos]
    exact ⟨attend_endless phase hfront, attend_end phase hfront rfl [], attend_items⟩
  · have hcut : rest = .item i :: behind := hcons
    rw [hcut] at hos ⊢
    have hpart : attend ⟨phase, false⟩ os = _ := hos ▸ attend_end phase hfront hi behind
    have hend := attend_end phase hfront hi (behind ++ [.item .ended])
    rw [movedTo_concat_item] at hend
    cases i with
    | close found =>
      obtain rfl := Option.some.inj hi
      exact ⟨hpart, hend, attend_items⟩
    | ended =>
      obtain rfl := Option.some.inj hi
      exact ⟨hpart, hend, attend_items⟩
    | _ => simp [Item.endCode?] at hi

/-- A fault and a text in an open phase, a text behind somebody else's close, and an end that hides
what stands behind it. -/
example :
    attend ⟨.opened, false⟩
        [.item (.failed .masked), .item (.text "a"), .moved .closed, .item (.text "b"),
          .item (.ping []), .item (.close none), .item (.text "c"), .moved .opened] =
      (⟨.opened, true⟩,
        [.failed (.transport Fault.masked.message), .text "a", .closed 1005]) := by
  decide

end Parley.Connection.Reader
