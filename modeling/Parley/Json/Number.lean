import Parley.Decimal.Shortest
import Parley.Json.Reading
/-! Numbers. No field of a frame is a number, so a number is read only to be named in the message
that refuses it, or to be skipped. A numeral that fits 64 bits stays an integer; any other becomes a
double, from its leading digits and a power of ten. -/

namespace Parley.Json

open Parley.Text

def startsWithDigit : List Char → Bool
  | c :: _ => isDigit c
  | [] => false

def wordLimit : Nat := 18446744073709551616

def negativeLimit : Nat := 9223372036854775808

def exponentLimit : Nat := 2147483648

/-- Digits taken into a significand as long as it fits 64 bits: the significand, how many digits
were taken, and the rest. -/
def gather (significand taken : Nat) : List Char → Nat × Nat × List Char
  | [] => (significand, taken, [])
  | c :: cs =>
    let more := 10 * significand + digitValue c
    if isDigit c ∧ more < wordLimit then gather more (taken + 1) cs
    else (significand, taken, c :: cs)

def powerOfTen (n : Nat) : Float := Float.ofScientific 1 false n

/-- The value times a power of ten; none when that is too large. Each round of the recursion takes
308 powers away, and after three of them the value is zero. -/
def scaleFloat : Nat → Float → Int → Option Float
  | 0, x, _ => some x
  | rounds + 1, x, e =>
    if e.natAbs ≤ 308 then
      if 0 ≤ e then
        let y := x * powerOfTen e.natAbs
        if y.isInf then none else some y
      else some (x / powerOfTen e.natAbs)
    else if x == 0 then some x
    else if 0 ≤ e then none
    else scaleFloat rounds (x / powerOfTen 308) (e + 308)

def signed (positive : Bool) (x : Float) : Found :=
  .float (Decimal.ofFloat (if positive then x else -x))

def floatOf (positive : Bool) (significand : Nat) (e : Int) (cs : List Char) :
    Except Fault (Rest Found) :=
  match scaleFloat 4 significand.toUInt64.toFloat e with
  | some x => .ok (signed positive x, cs)
  | none => .error (.here .numberOutOfRange cs)

/-- The digits of an exponent, behind the first. One that passes 31 bits makes the number zero, or
too large. -/
def exponentDigits (positive : Bool) (significand : Nat) (negative : Bool) (start : Int) (n : Nat) :
    List Char → Except Fault (Rest Found)
  | c :: cs =>
    if isDigit c then
      let more := 10 * n + digitValue c
      if more < exponentLimit then exponentDigits positive significand negative start more cs
      else if significand ≠ 0 ∧ ¬ negative then .error (.here .numberOutOfRange cs)
      else .ok (signed positive 0, cs.dropWhile isDigit)
    else floatOf positive significand (if negative then start - n else start + n) (c :: cs)
  | [] => floatOf positive significand (if negative then start - n else start + n) []

def exponentPart (positive : Bool) (significand : Nat) (start : Int) (cs : List Char) :
    Except Fault (Rest Found) :=
  let (negative, cs) := match cs with
    | '+' :: cs => (false, cs)
    | '-' :: cs => (true, cs)
    | cs => (false, cs)
  match cs with
  | [] => .error (.here .endInValue [])
  | c :: rest =>
    if isDigit c then exponentDigits positive significand negative start (digitValue c) rest
    else .error (.next .badNumber cs)

def isExponentMark (c : Char) : Bool := c = 'e' || c = 'E'

def afterDigits (positive : Bool) (significand : Nat) (e : Int) :
    List Char → Except Fault (Rest Found)
  | c :: cs =>
    if isExponentMark c then exponentPart positive significand e cs
    else floatOf positive significand e (c :: cs)
  | [] => floatOf positive significand e []

/-- What follows the point. Digits beyond 64 bits are dropped. -/
def fractionPart (positive : Bool) (significand : Nat) (start : Int) (cs : List Char) :
    Except Fault (Rest Found) :=
  let (all, taken, rest) := gather significand 0 cs
  if startsWithDigit rest then afterDigits positive all (start - taken) (rest.dropWhile isDigit)
  else if taken = 0 then
    match rest with
    | [] => .error (.next .endInValue [])
    | rest => .error (.next .badNumber rest)
  else afterDigits positive all (start - taken) rest

/-- What follows the integer digits when they fit 64 bits. Zero with a minus sign is no integer. -/
def afterInteger (positive : Bool) (n : Nat) : List Char → Except Fault (Rest Found)
  | '.' :: cs => fractionPart positive n 0 cs
  | cs =>
    match cs with
    | c :: more =>
      if isExponentMark c then exponentPart positive n 0 more else .ok (plain, cs)
    | [] => .ok (plain, [])
where
  plain : Found :=
    if positive then .integer n
    else if n = 0 ∨ negativeLimit < n then signed false n.toUInt64.toFloat
    else .integer (-n)

/-- What follows the integer digits when they do not fit; the further ones count as zeros. -/
def afterLongInteger (positive : Bool) (n : Nat) (cs : List Char) : Except Fault (Rest Found) :=
  let rest := cs.dropWhile isDigit
  let e : Int := cs.length - rest.length
  match rest with
  | '.' :: more => fractionPart positive n e more
  | rest => afterDigits positive n e rest

def number (positive : Bool) : List Char → Except Fault (Rest Found)
  | [] => .error (.here .endInValue [])
  | '0' :: cs =>
    if startsWithDigit cs then .error (.next .badNumber cs) else afterInteger positive 0 cs
  | c :: cs =>
    if isDigit c then
      let (n, _, rest) := gather (digitValue c) 0 cs
      if startsWithDigit rest then afterLongInteger positive n rest
      else afterInteger positive n rest
    else .error (.next .badNumber (c :: cs))

def skipExponent (cs : List Char) : Except Fault (List Char) :=
  let cs := match cs with
    | '+' :: cs => cs
    | '-' :: cs => cs
    | cs => cs
  match cs with
  | [] => .error (.here .badNumber [])
  | c :: rest =>
    if isDigit c then .ok (rest.dropWhile isDigit) else .error (.next .badNumber cs)

def skipNumber : List Char → Except Fault (List Char)
  | [] => .error (.here .badNumber [])
  | '0' :: cs => if startsWithDigit cs then .error (.next .badNumber cs) else tail cs
  | c :: cs =>
    if isDigit c then tail (cs.dropWhile isDigit) else .error (.next .badNumber (c :: cs))
where
  tail : List Char → Except Fault (List Char)
    | '.' :: cs =>
      if startsWithDigit cs then
        match cs.dropWhile isDigit with
        | c :: more => if isExponentMark c then skipExponent more else .ok (c :: more)
        | [] => .ok []
      else .error (.next .badNumber cs)
    | c :: cs => if isExponentMark c then skipExponent cs else .ok (c :: cs)
    | [] => .ok []

end Parley.Json
