import Parley.Json.Skip
/-! Typed values read straight from the text: strings, lists and records. A record may stand as an
object, its members in any order and among unknown ones, or as a list of its fields in their own
order. Lists and records are containers; how many of them may stand inside each other is limited. -/

namespace Parley.Json

def depthLimit : Nat := 127

/-- The fault of a value that is not of the expected kind. The value itself is read first, and its
own faults win. -/
def wrongType (expected : String) (cs : List Char) : Fault :=
  let found (f : Found) (rest : List Char) : Fault := .here (.wrongType f expected) rest
  let afterWord (f : Found) (r : Except Fault (List Char)) : Fault :=
    match r with
    | .ok rest => found f rest
    | .error e => e
  let afterNumber (r : Except Fault (Rest Found)) : Fault :=
    match r with
    | .ok (f, rest) => found f rest
    | .error e => e
  match cs with
  | 'n' :: rest => afterWord .null (word ['u', 'l', 'l'] rest)
  | 't' :: rest => afterWord (.boolean true) (word ['r', 'u', 'e'] rest)
  | 'f' :: rest => afterWord (.boolean false) (word ['a', 'l', 's', 'e'] rest)
  | '-' :: rest => afterNumber (number false rest)
  | '"' :: rest =>
    match stringTail [] rest with
    | .ok (s, rest) => found (.text s) rest
    | .error e => e
  | '[' :: _ => found .sequence cs
  | '\x7b' :: _ => found .map cs
  | c :: _ =>
    if Text.isDigit c then afterNumber (number true cs) else .next .expectedValue cs
  | [] => .next .expectedValue []

def stringWith {α : Type} (expected : String) (accept : String → Except String α) : Reader α :=
  fun cs =>
    match skipSpace cs with
    | [] => .error (.next .endInValue [])
    | '"' :: rest =>
      match stringTail [] rest with
      | .error e => .error e
      | .ok (s, rest) =>
        match accept s with
        | .ok a => .ok (a, rest)
        | .error reason => .error (.here (.refused reason) rest)
    | rest => .error (wrongType expected rest)

def string : Reader String := stringWith "a string" .ok

/-- Moves to the next element of a list; false at its end, which is not passed. -/
def nextElement (first : Bool) (cs : List Char) : Except Fault (Rest Bool) :=
  match skipSpace cs with
  | [] => .error (.next .endInList [])
  | c :: rest =>
    if c = ']' then .ok (false, c :: rest)
    else if first then .ok (true, c :: rest)
    else if c = ',' then
      match skipSpace rest with
      | [] => .error (.next .endInValue [])
      | d :: more =>
        if d = ']' then .error (.next .trailingComma (d :: more)) else .ok (true, d :: more)
    else .error (.next .expectedListCommaOrEnd (c :: rest))

def nextKey (first : Bool) (cs : List Char) : Except Fault (Rest Bool) :=
  match skipSpace cs with
  | [] => .error (.next .endInObject [])
  | c :: rest =>
    if c = '\x7d' then .ok (false, c :: rest)
    else if first then
      if c = '"' then .ok (true, rest) else .error (.next .keyNotString (c :: rest))
    else if c = ',' then
      match skipSpace rest with
      | [] => .error (.next .endInValue [])
      | d :: more =>
        if d = '"' then .ok (true, more)
        else if d = '\x7d' then .error (.next .trailingComma (d :: more))
        else .error (.next .keyNotString (d :: more))
    else .error (.next .expectedObjectCommaOrEnd (c :: rest))

def colon (cs : List Char) : Except Fault (List Char) :=
  match skipSpace cs with
  | [] => .error (.next .endInObject [])
  | ':' :: rest => .ok rest
  | rest => .error (.next .expectedColon rest)

def closeList (cs : List Char) : Except Fault (List Char) :=
  match skipSpace cs with
  | [] => .error (.next .endInList [])
  | ']' :: rest => .ok rest
  | ',' :: rest =>
    match skipSpace rest with
    | ']' :: more => .error (.next .trailingComma (']' :: more))
    | more => .error (.next .trailingCharacters more)
  | rest => .error (.next .trailingCharacters rest)

/-- Where a problem of a whole container is placed: behind its closing bracket if that comes next.
-/
def behind (closer : Char) (cs : List Char) : List Char :=
  match skipSpace cs with
  | [] => []
  | c :: rest => if c = closer then rest else c :: rest

/-- The elements of a list whose opening bracket has been read. Each takes at least one character,
so the length of the text bounds their number. -/
def elements {α : Type} (item : Reader α) :
    Nat → Bool → List α → List Char → Except Fault (Rest (List α))
  | 0, _, _, _ => .error (.next .endInList [])
  | n + 1, first, read, cs =>
    match nextElement first cs with
    | .error e => .error e
    | .ok (false, cs) => .ok (read.reverse, cs)
    | .ok (true, cs) =>
      match item cs with
      | .error e => .error e
      | .ok (a, cs) => elements item n false (a :: read) cs

def list {α : Type} (item : Option (Reader α)) : Reader (List α) := fun cs =>
  match skipSpace cs with
  | [] => .error (.next .endInValue [])
  | '[' :: rest =>
    match item with
    | none => .error (.next .tooDeep ('[' :: rest))
    | some item =>
      match elements item (rest.length + 1) true [] rest with
      | .error e => .error e
      | .ok (as, rest) => (as, ·) <$> closeList rest
  | rest => .error (wrongType "a sequence" rest)

structure Slot (draft : Type) where
  name : String
  otherName : Option String
  required : Bool
  filled : draft → Bool
  read : draft → Reader draft

def Slot.answersTo {draft : Type} (s : Slot draft) (key : String) : Bool :=
  key = s.name || s.otherName = some key

/-- How a record is read: `finish` gives the record, or the name of the first field it lacks. -/
structure Schema (draft α : Type) where
  slots : List (Slot draft)
  blank : draft
  finish : draft → Except String α

inductive Halt where
  | fault (f : Fault)
  | whole (p : Problem) (cs : List Char)

def members {draft : Type} (slots : List (Slot draft)) :
    Nat → Bool → draft → List Char → Except Halt (Rest draft)
  | 0, _, _, _ => .error (.fault (.next .endInObject []))
  | n + 1, first, d, cs =>
    match nextKey first cs with
    | .error e => .error (.fault e)
    | .ok (false, cs) => .ok (d, cs)
    | .ok (true, cs) =>
      match stringTail [] cs with
      | .error e => .error (.fault e)
      | .ok (key, cs) =>
        match slots.find? (·.answersTo key) with
        | none =>
          match colon cs >>= skipValue with
          | .error e => .error (.fault e)
          | .ok cs => members slots n false d cs
        | some slot =>
          if slot.filled d then .error (.whole (.duplicateField slot.name) cs) else
          match colon cs >>= slot.read d with
          | .error e => .error (.fault e)
          | .ok (d, cs) => members slots n false d cs

def lengthText (title : String) (n : Nat) : String :=
  title ++ " with " ++ toString n ++ (if n = 1 then " element" else " elements")

def positions {draft : Type} (expected : String) :
    List (Slot draft) → Nat → draft → List Char → Except Halt (Rest draft)
  | [], _, d, cs => .ok (d, cs)
  | slot :: slots, count, d, cs =>
    match nextElement (count = 0) cs with
    | .error e => .error (.fault e)
    | .ok (false, cs) =>
      if slot.required then .error (.whole (.wrongLength count expected) cs)
      else positions expected slots (count + 1) d cs
    | .ok (true, cs) =>
      match slot.read d cs with
      | .error e => .error (.fault e)
      | .ok (d, cs) => positions expected slots (count + 1) d cs

/-- The record once its container has been read, a problem of the whole being placed behind it. -/
def conclude {draft α : Type} (finish : draft → Except String α) (closer : Char) :
    Except Halt (Rest draft) → Except Fault (Rest α)
  | .error (.fault f) => .error f
  | .error (.whole p cs) => .error (.here p (behind closer cs))
  | .ok (d, cs) =>
    match finish d with
    | .ok a => .ok (a, cs)
    | .error name => .error (.here (.missingField name) (behind closer cs))

def record {draft α : Type} (title : String) (schema : Option (Schema draft α)) : Reader α :=
  fun cs =>
    match skipSpace cs with
    | [] => .error (.next .endInValue [])
    | '[' :: rest =>
      match schema with
      | none => .error (.next .tooDeep ('[' :: rest))
      | some s => do
        let (a, rest) ← conclude s.finish ']' <|
          positions (lengthText title s.slots.length) s.slots 0 s.blank rest
        return (a, ← closeList rest)
    | '\x7b' :: rest =>
      match schema with
      | none => .error (.next .tooDeep ('\x7b' :: rest))
      | some s => do
        let (a, rest) ← conclude s.finish '\x7d' <|
          members s.slots (rest.length + 1) true s.blank rest
        return (a, behind '\x7d' rest)
    | rest => .error (wrongType title rest)

def readText {α : Type} (reader : Reader α) (text : String) : Except Refusal α :=
  let cs := text.toList
  match reader cs with
  | .error f => .error (f.locate cs)
  | .ok (a, rest) =>
    match skipSpace rest with
    | [] => .ok a
    | rest => .error ((Fault.next .trailingCharacters rest).locate cs)

end Parley.Json
