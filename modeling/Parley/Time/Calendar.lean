import Parley.Text.Digits
/-! The Gregorian calendar, carried over all years in both directions. A date and its day number
since 1970-01-01 name the same day: the year is taken to begin in March, so that the leap day is
the last of its year and the days before a month depend on the month alone. -/

namespace Parley

structure Date where
  year : Int
  month : Nat
  day : Nat
deriving DecidableEq, Repr

namespace Date

def isLeapYear (y : Int) : Bool := y % 4 == 0 && (y % 100 != 0 || y % 400 == 0)

def daysInMonth (y : Int) (m : Nat) : Nat :=
  if m = 2 then (if isLeapYear y then 29 else 28)
  else if m = 4 ∨ m = 6 ∨ m = 9 ∨ m = 11 then 30 else 31

def IsValid (d : Date) : Prop :=
  1 ≤ d.month ∧ d.month ≤ 12 ∧ 1 ≤ d.day ∧ d.day ≤ daysInMonth d.year d.month

instance (d : Date) : Decidable d.IsValid := by unfold IsValid; infer_instance

/-- Days before 1970-01-01 in the count that starts at 0000-03-01. -/
def epochShift : Int := 719468

def dayNumber (d : Date) : Int :=
  let y := if d.month ≤ 2 then d.year - 1 else d.year
  let m := if d.month ≤ 2 then d.month + 9 else d.month - 3
  365 * y + y / 4 - y / 100 + y / 400 + ((153 * m + 2) / 5 + d.day - 1 : Nat) - epochShift

/-- The date with a given day number. Inside one cycle of 400 years (146097 days) the year follows
by taking out the leap days, and the month by the five-month pattern of 153 days. -/
def ofDayNumber (n : Int) : Date :=
  let z := n + epochShift
  let cycle := z / 146097
  let d := (z % 146097).toNat
  let y := (d - d / 1460 + d / 36524 - d / 146096) / 365
  let r := d - (365 * y + y / 4 - y / 100)
  let m := (5 * r + 2) / 153
  { year := y + cycle * 400 + (if m < 10 then 0 else 1)
    month := if m < 10 then m + 3 else m - 9
    day := r - (153 * m + 2) / 5 + 1 }

def ofYearMonthDay? (y : Int) (m d : Nat) : Option Date :=
  let date : Date := ⟨y, m, d⟩
  if date.IsValid then some date else none

end Date

end Parley
