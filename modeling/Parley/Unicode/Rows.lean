import Parley.Text.Digits
/-! Tables of character data in a compact form: lines of rows between commas, each a few hexadecimal
numbers between blanks. Thousands of rows stay a few hundred literals this way. -/

namespace Parley.Unicode

/-- Numbers and rows finished so far are kept in reverse. -/
structure RowsState where
  rows : List (List Nat) := []
  row : List Nat := []
  number : Nat := 0

def RowsState.step (s : RowsState) (c : Char) : RowsState :=
  if c = ',' then { rows := (s.number :: s.row).reverse :: s.rows }
  else if c = ' ' then { s with row := s.number :: s.row, number := 0 }
  else { s with number := 16 * s.number + (Text.hexValue? c).getD 0 }

def lineRows (s : String) : List (List Nat) :=
  ((s.toList.foldl RowsState.step {}).step ',').rows.reverse

def rows (lines : List String) : List (List Nat) := lines.flatMap lineRows

/-- Whether a row of one number, or of the two ends of a range, holds the character. -/
def rowHolds (c : Char) : List Nat → Bool
  | [a] => c.toNat = a
  | a :: b :: _ => decide (a ≤ c.toNat) && decide (c.toNat ≤ b)
  | [] => false

def inTable (table : List (List Nat)) (c : Char) : Bool := table.any (rowHolds c)

end Parley.Unicode
