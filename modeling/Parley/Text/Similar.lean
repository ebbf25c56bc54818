/-! How much alike two words are. Letters match when they are equal and not too far apart; the
likeness is the mean of three shares: of the letters of either word that match, and of the matches
that stand in the same order in both. It is kept as a fraction, so comparing two of them is exact.
-/

namespace Parley.Text

def takeMatch (c : Char) (low high : Nat) : Nat → List (Char × Bool) → Option (List (Char × Bool))
  | _, [] => none
  | i, (d, taken) :: ds =>
    if low ≤ i ∧ i < high ∧ ¬ taken ∧ c = d then some ((d, true) :: ds)
    else (takeMatch c low high (i + 1) ds).map ((d, taken) :: ·)

/-- The letters of the first word that match, in order, and which of the second one they took. -/
def matchLetters (range : Nat) :
    Nat → List Char → List (Char × Bool) → List Char × List (Char × Bool)
  | _, [], ds => ([], ds)
  | i, c :: cs, ds =>
    match takeMatch c (i - range) (i + range + 1) 0 ds with
    | none => matchLetters range (i + 1) cs ds
    | some ds =>
      let (found, ds) := matchLetters range (i + 1) cs ds
      (c :: found, ds)

structure Likeness where
  num : Nat
  den : Nat
deriving DecidableEq, Repr

def likeness (a b : List Char) : Likeness :=
  let range := max a.length b.length / 2 - 1
  let (found, ds) := matchLetters range 0 a (b.map (·, false))
  let others := ds.filterMap fun (d, taken) => if taken then some d else none
  let m := found.length
  let swaps := (found.zip others).countP (fun (c, d) => c ≠ d) / 2
  if m = 0 then ⟨0, 1⟩
  else ⟨m * m * b.length + m * m * a.length + (m - swaps) * a.length * b.length,
    3 * m * a.length * b.length⟩

def Likeness.le (x y : Likeness) : Bool := decide (x.num * y.den ≤ y.num * x.den)

/-- The word most like the given one, the later of two that are equally so, if it is more than seven
tenths like it. -/
def mostAlike? (word : String) (words : List String) : Option String :=
  let scored := words.map fun w => (w, likeness word.toList w.toList)
  let close := scored.filter fun (_, l) => !l.le ⟨7, 10⟩
  (close.foldl (fun best s =>
    match best with
    | none => some s
    | some b => if b.2.le s.2 then some s else some b) none).map (·.1)

end Parley.Text
