import Parley.Time.Instant
/-! Instants as text, always in UTC. The forms differ only in the fraction: frames carry as many
groups of three digits as the instant needs, the shell shows milliseconds and its log microseconds,
both cut off and never rounded. -/

namespace Parley.Instant

open Parley.Text

inductive Fraction where
  | asNeeded
  | millis
  | micros
deriving DecidableEq, Repr

def fractionText (f : Fraction) (nanos : Nat) : List Char :=
  match f with
  | .millis => '.' :: padded 3 (nanos / 1000000)
  | .micros => '.' :: padded 6 (nanos / 1000)
  | .asNeeded =>
    if nanos = 0 then []
    else if nanos % 1000000 = 0 then '.' :: padded 3 (nanos / 1000000)
    else if nanos % 1000 = 0 then '.' :: padded 6 (nanos / 1000)
    else '.' :: padded 9 nanos

/-- Four digits, and a sign for the years that four unsigned digits cannot hold. -/
def yearText (y : Int) : List Char :=
  if 0 ≤ y ∧ y ≤ 9999 then padded 4 y.toNat
  else (if y < 0 then '-' else '+') :: padded 4 y.natAbs

def dateText (d : Date) : List Char :=
  yearText d.year ++ '-' :: padded 2 d.month ++ '-' :: padded 2 d.day

def chars (f : Fraction) (t : Instant) : List Char :=
  dateText t.date ++ 'T' :: padded 2 t.hour ++ ':' :: padded 2 t.minute ++
    ':' :: padded 2 t.second ++ fractionText f t.subsecond ++ ['Z']

/-- The form frames carry. -/
def toText (t : Instant) : String := String.ofList (chars .asNeeded t)

/-- The form the shell shows. -/
def toMillisText (t : Instant) : String := String.ofList (chars .millis t)

/-- The form of the log. -/
def toMicrosText (t : Instant) : String := String.ofList (chars .micros t)

end Parley.Instant
