import Parley.Time.Calendar
/-! Instants: seconds since 1970-01-01T00:00:00Z and a fraction in nanoseconds. A fraction of a full
second or more stands for a leap second, which a day allows only behind the 59th second of a minute.
The years run from -262143 to 262142, and the type holds nothing outside them. -/

namespace Parley

structure Instant where
  secs : Int
  nanos : Nat
  in_range : -8334601228800 ≤ secs ∧ secs ≤ 8210266876799
  fraction : nanos < 1000000000 ∨ nanos < 2000000000 ∧ secs % 60 = 59
deriving DecidableEq, Repr

namespace Instant

def minYear : Int := -262143
def maxYear : Int := 262142

def ofSecs? (secs : Int) (nanos : Nat) : Option Instant :=
  if h : (-8334601228800 ≤ secs ∧ secs ≤ 8210266876799) ∧
      (nanos < 1000000000 ∨ nanos < 2000000000 ∧ secs % 60 = 59)
  then some ⟨secs, nanos, h.1, h.2⟩ else none

def epoch : Instant := ⟨0, 0, by decide, by decide⟩

def ofMillis? (millis : Int) : Option Instant :=
  ofSecs? (millis / 1000) ((millis % 1000).toNat * 1000000)

def date (t : Instant) : Date := Date.ofDayNumber (t.secs / 86400)

def secondOfDay (t : Instant) : Nat := (t.secs % 86400).toNat

def hour (t : Instant) : Nat := t.secondOfDay / 3600

def minute (t : Instant) : Nat := t.secondOfDay / 60 % 60

/-- The second shown on the clock, 60 inside a leap second. -/
def second (t : Instant) : Nat := t.secondOfDay % 60 + t.nanos / 1000000000

def subsecond (t : Instant) : Nat := t.nanos % 1000000000

theorem ofSecs?_self (t : Instant) : ofSecs? t.secs t.nanos = some t := by
  simp [ofSecs?, t.in_range, t.fraction]

end Instant

/-- A clock that stands still. -/
structure FixedClock where
  now : Instant

/-- Stands at the given millisecond, or at the epoch when no instant has it. -/
def FixedClock.ofMillis (millis : Int) : FixedClock :=
  ⟨(Instant.ofMillis? millis).getD .epoch⟩

end Parley
