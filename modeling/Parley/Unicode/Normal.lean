import Parley.Unicode.Composition
/-! The composed normal form of a text. Every character is divided as far as it goes, the marks
behind a character are put into the order of their classes, and then what can be composed is
composed. -/

namespace Parley.Unicode

def combiningClass (c : Char) : Nat :=
  match combiningClasses.find? (rowHolds c) with
  | some [_, _, k] => k
  | _ => 0

def divideSyllable (c : Char) : Option (List Char) :=
  let n := c.toNat
  if 0xAC00 ≤ n ∧ n ≤ 0xD7A3 then
    let s := n - 0xAC00
    let trailing := s % 28
    some ([Char.ofNat (0x1100 + s / 588), Char.ofNat (0x1161 + s % 588 / 28)] ++
      if trailing = 0 then [] else [Char.ofNat (0x11A7 + trailing)])
  else none

def composeSyllable (a b : Char) : Option Char :=
  let x := a.toNat
  let y := b.toNat
  if 0x1100 ≤ x ∧ x ≤ 0x1112 ∧ 0x1161 ≤ y ∧ y ≤ 0x1175 then
    some (Char.ofNat (0xAC00 + ((x - 0x1100) * 21 + (y - 0x1161)) * 28))
  else if 0xAC00 ≤ x ∧ x ≤ 0xD7A3 ∧ (x - 0xAC00) % 28 = 0 ∧ 0x11A8 ≤ y ∧ y ≤ 0x11C2 then
    some (Char.ofNat (x + (y - 0x11A7)))
  else none

def divideOnce (c : Char) : Option (List Char) :=
  let listed (table : List (List Nat)) : Option (List Char) :=
    (table.find? (fun row => row.head? = some c.toNat)).map fun row => row.tail.map Char.ofNat
  (divideSyllable c).or ((listed composed).or (listed divided))

/-- Divides a character as far as it goes; no character takes more than four rounds. -/
def divide : Nat → Char → List Char
  | 0, c => [c]
  | rounds + 1, c =>
    match divideOnce c with
    | some cs => cs.flatMap (divide rounds)
    | none => [c]

/-- Puts a mark behind the marks whose class is not greater. -/
def insertMark (m : Char × Nat) : List (Char × Nat) → List (Char × Nat)
  | [] => [m]
  | x :: xs => if m.2 < x.2 then m :: x :: xs else x :: insertMark m xs

def orderMarks (marks : List (Char × Nat)) : List (Char × Nat) → List (Char × Nat)
  | [] => marks
  | x :: xs =>
    if x.2 = 0 then marks ++ x :: orderMarks [] xs else orderMarks (insertMark x marks) xs

def composePair (a b : Char) : Option Char :=
  (composeSyllable a b).or
    ((composed.find? fun row => row.tail = [a.toNat, b.toNat]).bind fun row =>
      row.head?.map Char.ofNat)

/-- Composes behind a base character. `kept` are the marks that could not join it, in reverse; a
mark reaches the base only when no kept one has its class or a higher one, nor is no mark at all. -/
def compose (base : Option Char) (kept : List (Char × Nat)) : List (Char × Nat) → List Char
  | [] => base.toList ++ (kept.reverse.map (·.1))
  | (c, k) :: rest =>
    let blocked := match kept with
      | [] => false
      | (_, last) :: _ => decide (k ≤ last)
    match base.bind fun b => if blocked then none else composePair b c with
    | some joined => compose (some joined) kept rest
    | none =>
      if k = 0 then base.toList ++ kept.reverse.map (·.1) ++ compose (some c) [] rest
      else compose base ((c, k) :: kept) rest

def normalize (cs : List Char) : List Char :=
  compose none [] (orderMarks [] ((cs.flatMap (divide 5)).map fun c => (c, combiningClass c)))

end Parley.Unicode
