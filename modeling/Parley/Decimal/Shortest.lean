import Parley.Text.Digits
/-! The decimal text of a double: the fewest digits that read back to it, and of those the nearest.
The search is exact. A value m * 2^q owns the reals between its two neighbours' midpoints, and for
1, 2, … 17 digits the two grid points beside the value are tried against that interval. -/

namespace Parley.Decimal

/-- The finite value m * 2^q, and whether the gap below it is half the gap above it. -/
structure Binary where
  m : Nat
  q : Int
  narrow : Bool
deriving DecidableEq, Repr

def fractionSize : Nat := 4503599627370496

def signBit : Nat := 9223372036854775808

def Binary.ofBits (b : UInt64) : Binary :=
  let e : Nat := (b.toNat / fractionSize) % 2048
  let f : Nat := b.toNat % fractionSize
  if e = 0 then ⟨f, -1074, false⟩ else ⟨fractionSize + f, (e : Int) - 1075, decide (f = 0 ∧ 1 < e)⟩

structure Digits where
  digits : Nat
  exponent : Int
deriving DecidableEq, Repr

structure Span where
  low : Nat
  value : Nat
  high : Nat
  den : Nat
  closed : Bool

def Binary.span (x : Binary) : Span :=
  let s := Nat.pow 2 x.q.toNat
  { low := (4 * x.m - if x.narrow then 1 else 2) * s
    value := 4 * x.m * s
    high := (4 * x.m + 2) * s
    den := 4 * Nat.pow 2 (-x.q).toNat
    closed := x.m % 2 = 0 }

/-- How many digits stand before the point, counted below zero for leading zeros behind it. -/
def Span.scale (v : Span) : Int :=
  if v.den ≤ v.value then (Text.digits (v.value / v.den)).length
  else 1 - (Text.digits ((v.den - 1) / v.value)).length

def Span.inUnits (v : Span) (g : Int) : Span :=
  let up := Nat.pow 10 (-g).toNat
  { v with
    low := v.low * up
    value := v.value * up
    high := v.high * up
    den := v.den * Nat.pow 10 g.toNat }

def Span.holds (v : Span) (n : Nat) : Bool :=
  if v.closed then decide (v.low ≤ n * v.den) && decide (n * v.den ≤ v.high)
  else decide (v.low < n * v.den) && decide (n * v.den < v.high)

def Span.pick (v : Span) : Option Nat :=
  let a := v.value / v.den
  match v.holds a, v.holds (a + 1) with
  | true, true => some (if 2 * v.value ≤ (2 * a + 1) * v.den then a else a + 1)
  | true, false => some a
  | false, true => some (a + 1)
  | false, false => none

def stripZeros : Nat → Digits → Digits
  | 0, d => d
  | n + 1, d =>
    if d.digits % 10 = 0 ∧ d.digits ≠ 0 then stripZeros n ⟨d.digits / 10, d.exponent + 1⟩ else d

/-- Seventeen digits always suffice; the exact value stands in should they not. -/
def Binary.shortest (x : Binary) : Digits :=
  let v := x.span
  let p := v.scale
  let found := (List.range 17).findSome? fun n =>
    let g := p - ((n + 1 : Nat) : Int)
    (v.inUnits g).pick.map fun d => stripZeros 20 ⟨d, g⟩
  found.getD ⟨x.m * Nat.pow 2 x.q.toNat * Nat.pow 5 (-x.q).toNat, min x.q 0⟩

/-- Positional below 10^16 and down to 10^-5, with at least one digit behind the point; otherwise
one digit before the point and a signed exponent. -/
def Digits.chars (d : Digits) : List Char :=
  let ds := Text.digits d.digits
  let point := (ds.length : Int) + d.exponent
  if 0 ≤ d.exponent ∧ point ≤ 16 then ds ++ List.replicate d.exponent.toNat '0' ++ ['.', '0']
  else if 0 < point ∧ point ≤ 16 then ds.take point.toNat ++ '.' :: ds.drop point.toNat
  else if -5 < point ∧ point ≤ 0 then '0' :: '.' :: List.replicate (-point).toNat '0' ++ ds
  else
    let e := point - 1
    let exponent := 'e' :: (if e < 0 then '-' else '+') :: Text.digits e.natAbs
    match ds with
    | d :: more => d :: (if more.isEmpty then [] else '.' :: more) ++ exponent
    | [] => exponent

def ofFloat (x : Float) : String :=
  let b := x.toBits
  let sign := if b.toNat < signBit then [] else ['-']
  let v := Binary.ofBits b
  String.ofList (sign ++ if v.m = 0 then ['0', '.', '0'] else v.shortest.chars)

end Parley.Decimal
