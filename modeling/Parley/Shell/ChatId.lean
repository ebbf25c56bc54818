import Parley.Text.Digits
import Parley.Text.Utf8
/-! Names of chats on the command line: numbers of thirty-two hexadecimal digits, in five groups
joined by hyphens or without any, and the grouped form in braces or behind a mark for its kind.
However an id is written, it is sent in groups and small letters. -/

namespace Parley.Shell

open Parley.Text

structure ChatId where
  value : Nat
deriving DecidableEq, Repr

namespace ChatId

inductive Problem where
  | badLength (found : Nat)
  | badCharacter (c : Char) (index : Nat)
  | badGroupCount (found : Nat)
  | badGroupLength (group expected found : Nat)
deriving DecidableEq, Repr

def Problem.message : Problem → String
  | .badLength found => "invalid length: found " ++ toString found
  | .badCharacter c index =>
    "invalid character: found `" ++ String.singleton c ++ "` at " ++ toString index
  | .badGroupCount found => "invalid group count: expected 5, found " ++ toString found
  | .badGroupLength group expected found =>
    "invalid group length in group " ++ toString group ++ ": expected " ++ toString expected ++
      ", found " ++ toString found

def groups : List Nat := [8, 4, 4, 4, 12]

def kindMark : List Char := "urn:uuid:".toList

/-- What stands inside the braces or behind the mark, the mark being in small letters or in large
ones throughout, and how many octets are in front of it. -/
def unwrap (cs : List Char) : Option (List Char × Nat) :=
  let front := cs.take kindMark.length
  if front = kindMark ∨ front = kindMark.map Char.toUpper then
    some (cs.drop kindMark.length, kindMark.length)
  else if cs.head? = some '\x7b' ∧ cs.getLast? = some '\x7d' then
    some ((cs.drop 1).dropLast, 1)
  else none

def ofHex? (cs : List Char) : Option Nat :=
  cs.foldlM (fun n c => (hexValue? c).map (n * 16 + ·)) 0

def joinGroups? : List Nat → List Char → Option (List Char)
  | [], cs => if cs.isEmpty then some [] else none
  | [n], cs => if cs.length = n then some cs else none
  | n :: ns, cs =>
    if cs[n]? = some '-' then (joinGroups? ns (cs.drop (n + 1))).map (cs.take n ++ ·) else none

def plain? (cs : List Char) : Option Nat := if cs.length = 32 then ofHex? cs else none

def grouped? (cs : List Char) : Option Nat := (joinGroups? groups cs).bind ofHex?

/-- The first character that belongs to no id, with the octets in front of it. -/
def firstStray? (index : Nat) : List Char → Option (Char × Nat)
  | [] => none
  | c :: cs =>
    if c = '-' ∨ (hexValue? c).isSome then firstStray? (index + c.utf8Size) cs
    else some (c, index)

def partLengths : List Char → List Nat
  | [] => [0]
  | c :: cs =>
    match partLengths cs with
    | [] => []
    | n :: ns => if c = '-' then 0 :: n :: ns else (n + 1) :: ns

def firstBadGroup? (index : Nat) : List Nat → List Nat → Option Problem
  | expected :: es, found :: fs =>
    if expected = found then firstBadGroup? (index + 1) es fs
    else some (.badGroupLength index expected found)
  | _, _ => none

def problem (cs : List Char) : Problem :=
  let (inner, offset) := (unwrap cs).getD (cs, 0)
  match firstStray? offset inner with
  | some (c, index) => .badCharacter c index
  | none =>
    let lengths := partLengths inner
    if lengths.length = 1 ∧ (unwrap cs).isNone then .badLength cs.length
    else if lengths.length ≠ groups.length then .badGroupCount lengths.length
    else (firstBadGroup? 0 groups lengths).getD (.badLength cs.length)

def read (s : String) : Except Problem ChatId :=
  let cs := s.toList
  let value := match unwrap cs with
    | some (inner, _) => grouped? inner
    | none => (plain? cs).or (grouped? cs)
  match value with
  | some n => .ok ⟨n⟩
  | none => .error (problem cs)

def hexDigits : Nat → Nat → List Char
  | 0, _ => []
  | k + 1, n => hexDigits k (n / 16) ++ [hexDigit (n % 16)]

def splitGroups : List Nat → List Char → List Char
  | [], cs => cs
  | [_], cs => cs
  | n :: ns, cs => cs.take n ++ '-' :: splitGroups ns (cs.drop n)

def text (id : ChatId) : String := String.ofList (splitGroups groups (hexDigits 32 id.value))

/-- The chat that is joined when none is named. -/
def standard : ChatId := ⟨0x85cca3908a8542f7b122262d0c924675⟩

end ChatId

end Parley.Shell
