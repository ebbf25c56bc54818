import Parley.Proofs.InstantText
import Parley.Shell.Display

/-! Instants and milliseconds. The text that shows an instant is cut off behind the millisecond, and
so is the instant that is read back from it: no digit is rounded up into the next second. A clock
that is set by milliseconds stands at that very instant, before the epoch too, if there is one. -/

namespace Parley.Instant

open Parley.Text

def cut (t : Instant) : Instant where
  secs := t.secs
  nanos := t.nanos / 1000000 * 1000000
  in_range := t.in_range
  fraction := by
    have := t.fraction
    omega

/-- Milliseconds since the epoch. Those of a leap second go on behind the second before it. -/
def millis (t : Instant) : Int := t.secs * 1000 + (t.nanos / 1000000 : Nat)

/-- The instant that is so many milliseconds behind the epoch: the seconds are rounded down, and
what is left counts forward. -/
structure IsAt (t : Instant) (n : Int) : Prop where
  secs : t.secs = n / 1000
  nanos : t.nanos = (n % 1000).toNat * 1000000

theorem IsAt.millis {t : Instant} {n : Int} (h : t.IsAt n) : t.millis = n := by
  rw [Instant.millis, h.secs, h.nanos]
  omega

theorem IsAt.cut {t : Instant} {n : Int} (h : t.IsAt n) : t.cut = t := by
  have hnanos : t.nanos / 1000000 * 1000000 = t.nanos := by
    rw [h.nanos]
    omega
  simp only [Instant.cut, hnanos]

example : (FixedClock.ofMillis (-1)).now.toMillisText = "1969-12-31T23:59:59.999Z" := by
  decide +kernel

end Parley.Instant
