import Parley.Text.Blank
import Parley.Text.Utf8
import Parley.Time.Instant
/-! Instants read from text. The form is a date, one of the characters t, T and blank, a time and an
offset, with blanks allowed around every field. The first fault decides which error is given: a
field out of its own range is refused where it stands, a day that its month does not have only at
the end, and an instant that the offset moves out of the years that exist last of all. -/

namespace Parley.Instant

open Parley.Text

inductive ReadError where
  | badCharacter
  | endsEarly
  | trailingText
  | outOfRange
  | noSuchInstant
deriving DecidableEq, Repr

def ReadError.message : ReadError → String
  | .badCharacter => "input contains invalid characters"
  | .endsEarly => "premature end of input"
  | .trailingText => "trailing input"
  | .outOfRange => "input is out of range"
  | .noSuchInstant => "no possible date and time matching input"

abbrev Rest (α : Type) := α × List Char

def scanNumber (most : Nat) (cs : List Char) : Except ReadError (Rest Nat) :=
  match takeDigits most cs with
  | ([], _) => .error (if cs.isEmpty then .endsEarly else .badCharacter)
  | (ds, rest) => .ok (ofDigits ds, rest)

def scanField (lo hi : Nat) (cs : List Char) : Except ReadError (Rest Nat) := do
  let (n, rest) ← scanNumber 2 (trimStart cs)
  if lo ≤ n ∧ n ≤ hi then .ok (n, rest) else .error .outOfRange

/-- The largest magnitude a signed year may spell: beyond it not even the digits are read. -/
def yearLimit : Nat := 2147483648

/-- Without a sign a year has at most four digits; with one it has as many as are there. -/
def scanYear (cs : List Char) : Except ReadError (Rest Int) := do
  match trimStart cs with
  | '-' :: cs =>
    let (n, rest) ← scanNumber cs.length cs
    if n ≤ yearLimit then .ok (-(n : Int), rest) else .error .outOfRange
  | '+' :: cs =>
    let (n, rest) ← scanNumber cs.length cs
    if n < yearLimit then .ok ((n : Int), rest) else .error .outOfRange
  | cs =>
    let (n, rest) ← scanNumber 4 cs
    .ok ((n : Int), rest)

def scanMark (mark : Char) (cs : List Char) : Except ReadError (List Char) :=
  match trimStart cs with
  | [] => .error .endsEarly
  | c :: rest => if c = mark then .ok rest else .error .badCharacter

structure Fields where
  year : Int
  month : Nat
  day : Nat
  hour : Nat
  minute : Nat
  second : Nat
  nanos : Nat
  offset : Int
deriving DecidableEq, Repr

/-- Digits of a fraction beyond the ninth are read and dropped. -/
def scanFraction : List Char → Except ReadError (Rest Nat)
  | '.' :: cs => do
    let (n, rest) ← scanNumber 9 cs
    let used := (takeDigits 9 cs).1.length
    .ok (n * Nat.pow 10 (9 - used), rest.dropWhile isDigit)
  | cs => .ok (0, cs)

/-- The sign of an offset; the minus sign proper (U+2212) counts as a hyphen. -/
def scanSign : List Char → Except ReadError (Rest Int)
  | [] => .error .endsEarly
  | c :: rest =>
    if c = '+' then .ok (1, rest)
    else if c = '-' ∨ c = '\u2212' then .ok (-1, rest)
    else .error .badCharacter

def scanOffsetHours (cs : List Char) : Except ReadError (Rest Nat) :=
  if width cs < 2 then .error .endsEarly else
  match cs with
  | a :: b :: rest =>
    if isDigit a ∧ isDigit b then .ok (10 * digitValue a + digitValue b, rest)
    else .error .badCharacter
  | _ => .error .badCharacter

def scanOffsetMinutes (cs : List Char) : Except ReadError (Rest Nat) :=
  if width cs < 2 then .error .endsEarly else
  match cs with
  | a :: b :: rest =>
    if isDigit a ∧ isDigit b then
      if digitValue a < 6 then .ok (10 * digitValue a + digitValue b, rest) else .error .outOfRange
    else .error .badCharacter
  | _ => .error .badCharacter

/-- Seconds east of Greenwich: Z, UTC in any case, or hours and minutes with a sign. -/
def scanOffset (cs : List Char) : Except ReadError (Rest Int) :=
  match cs with
  | a :: b :: c :: rest =>
    if [a.toUpper, b.toUpper, c.toUpper] = ['U', 'T', 'C'] then .ok (0, rest) else numeric cs
  | _ => numeric cs
where
  numeric (cs : List Char) : Except ReadError (Rest Int) :=
    match cs with
    | 'Z' :: rest => .ok (0, rest)
    | 'z' :: rest => .ok (0, rest)
    | _ => do
      let (sign, rest) ← scanSign cs
      let (hours, rest) ← scanOffsetHours rest
      let (minutes, rest) ← scanOffsetMinutes (rest.dropWhile fun c => c = ':' || isBlank c)
      .ok (sign * (hours * 3600 + minutes * 60), rest)

def scanDateEnd : List Char → Except ReadError (List Char)
  | [] => .error .endsEarly
  | c :: rest => if c = 't' ∨ c = 'T' ∨ c = ' ' then .ok rest else .error .badCharacter

def scanFields (cs : List Char) : Except ReadError Fields := do
  let (year, cs) ← scanYear cs
  let cs ← scanMark '-' cs
  let (month, cs) ← scanField 1 12 cs
  let cs ← scanMark '-' cs
  let (day, cs) ← scanField 1 31 cs
  let cs ← scanDateEnd cs
  let (hour, cs) ← scanField 0 23 cs
  let cs ← scanMark ':' cs
  let (minute, cs) ← scanField 0 59 cs
  let cs ← scanMark ':' cs
  let (second, cs) ← scanField 0 60 cs
  let (nanos, cs) ← scanFraction cs
  let (offset, cs) ← scanOffset (trimStart cs)
  if (trimStart cs).isEmpty then .ok ⟨year, month, day, hour, minute, second, nanos, offset⟩
  else .error .trailingText

/-- The local time the fields spell, moved by the offset. Second 60 is the 59th and a fraction
of more than a second. -/
def ofFields (f : Fields) : Except ReadError Instant :=
  if f.year < minYear ∨ maxYear < f.year then .error .outOfRange else
  match Date.ofYearMonthDay? f.year f.month f.day with
  | none => .error .outOfRange
  | some date =>
    if f.offset ≤ -86400 ∨ 86400 ≤ f.offset then .error .outOfRange else
    let leap := f.second / 60
    let secs := date.dayNumber * 86400 + f.hour * 3600 + f.minute * 60 + (f.second - leap : Nat)
    match ofSecs? (secs - f.offset) (f.nanos + leap * 1000000000) with
    | some t => .ok t
    | none => .error .noSuchInstant

def ofText (s : String) : Except ReadError Instant := scanFields s.toList >>= ofFields

end Parley.Instant
