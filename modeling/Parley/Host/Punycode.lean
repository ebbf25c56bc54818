import Parley.Text.Digits
/-! Labels with characters beyond ASCII, written in ASCII. The plain characters come first; then
every other one, in ascending order, is told by how far the walk over all characters and places has
to go from the one before, in digits whose weights adapt to the distances seen so far. -/

namespace Parley.Host.Punycode

def digit (n : Nat) : Char :=
  if n < 26 then Char.ofNat ('a'.toNat + n) else Char.ofNat ('0'.toNat + (n - 26))

def digitValue? (c : Char) : Option Nat :=
  if 'a' ≤ c ∧ c ≤ 'z' then some (c.toNat - 'a'.toNat)
  else if 'A' ≤ c ∧ c ≤ 'Z' then some (c.toNat - 'A'.toNat)
  else if '0' ≤ c ∧ c ≤ '9' then some (c.toNat - '0'.toNat + 26)
  else none

/-- The value below which the digit at a place ends its number. -/
def threshold (place bias : Nat) : Nat :=
  if place ≤ bias then 1 else if bias + 26 ≤ place then 26 else place - bias

theorem threshold_bounds (place bias : Nat) :
    1 ≤ threshold place bias ∧ threshold place bias ≤ 26 := by
  unfold threshold
  split <;> try split
  all_goals omega

def adaptFrom (distance places : Nat) : Nat :=
  if 455 < distance then adaptFrom (distance / 35) (places + 36)
  else places + 36 * distance / (distance + 38)
termination_by distance
decreasing_by omega

def adapt (distance count : Nat) (first : Bool) : Nat :=
  let d := if first then distance / 700 else distance / 2
  adaptFrom (d + d / count) 0

def numberChars (bias place n : Nat) : List Char :=
  let t := threshold place bias
  if n < t then [digit n]
  else digit (t + (n - t) % (36 - t)) :: numberChars bias (place + 36) ((n - t) / (36 - t))
termination_by n
decreasing_by
  have h := threshold_bounds place bias
  have := Nat.div_le_self (n - threshold place bias) (36 - threshold place bias)
  omega

structure Progress where
  out : List Char
  distance : Nat
  bias : Nat
  handled : Nat

def Progress.pass (basics n : Nat) (p : Progress) (c : Char) : Progress :=
  if c.toNat < n then { p with distance := p.distance + 1 }
  else if c.toNat = n then
    { out := p.out ++ numberChars p.bias 36 p.distance
      distance := 0
      bias := adapt p.distance (p.handled + 1) (p.handled = basics)
      handled := p.handled + 1 }
  else p

def isBasic (c : Char) : Bool := decide (c.toNat < 128)

def codePoints (cs : List Char) : List Nat :=
  (((cs.filter (!isBasic ·)).map Char.toNat).mergeSort (· ≤ ·)).eraseDups

/-- One round for each code point, `n` being the first one not yet passed. -/
def rounds (cs : List Char) (basics : Nat) : List Nat → Nat → Progress → List Char
  | [], _, p => p.out
  | m :: ms, n, p =>
    let q := cs.foldl (Progress.pass basics m)
      { p with distance := p.distance + (m - n) * (p.handled + 1) }
    rounds cs basics ms (m + 1) { q with distance := q.distance + 1 }

def encode (cs : List Char) : List Char :=
  let basic := cs.filter isBasic
  basic ++ (if basic.isEmpty then [] else ['-']) ++
    rounds cs basic.length (codePoints cs) 128 ⟨[], 0, 72, basic.length⟩

def readNumber (bias : Nat) : List Char → Nat → Nat → Nat → Option (Nat × List Char)
  | [], _, _, _ => none
  | c :: cs, place, weight, n => do
    let d ← digitValue? c
    let n := n + d * weight
    let t := threshold place bias
    if d < t then some (n, cs) else readNumber bias cs (place + 36) (weight * (36 - t)) n

/-- Places the characters told by the digits among those read so far. Every number takes at least
one digit, so the length of the digits bounds the rounds. -/
def insertions : Nat → List Char → Nat → Nat → Nat → List Char → Option (List Char)
  | _, [], _, _, _, out => some out
  | 0, _, _, _, _, _ => none
  | limit + 1, cs, n, i, bias, out => do
    let (next, rest) ← readNumber bias cs 36 1 i
    let count := out.length + 1
    let n := n + next / count
    let place := next % count
    if n < 0xD800 ∨ 0xDFFF < n ∧ n < 0x110000 then
      insertions limit rest n (place + 1) (adapt (next - i) count (i = 0))
        (out.take place ++ Char.ofNat n :: out.drop place)
    else none

def decode (cs : List Char) : Option (List Char) :=
  let tail := (cs.reverse.takeWhile (· ≠ '-')).reverse
  let before := cs.length - tail.length
  if before ≤ 1 then insertions cs.length cs 128 0 72 []
  else insertions tail.length tail 128 0 72 (cs.take (before - 1))

end Parley.Host.Punycode
