import Parley.Host.Punycode
import Parley.Unicode.Direction
import Parley.Unicode.Joining
import Parley.Unicode.Mapping
import Parley.Unicode.Marks
import Parley.Unicode.Normal
import Parley.Host.Address
/-! Host names in ASCII. A name is mapped and normalised, its labels are checked, and a label that
still holds other characters is written in its coded form. Names that are ASCII to begin with lose
nothing but the case of their letters. -/

namespace Parley.Host

open Parley.Unicode

def isAscii (c : Char) : Bool := decide (c.toNat < 128)

/-- Characters that would end the host in the text of a URL, and those that nobody could see. -/
def isForbidden (c : Char) : Bool :=
  c ≤ ' ' || c = '\x7f' ||
    ['%', '#', '/', ':', '<', '>', '?', '@', '[', '\\', ']', '^', '|'].contains c

def shiftedBy (c : Char) : List Nat → Option Char
  | [lo, hi, step, target] =>
    if lo ≤ c.toNat ∧ c.toNat ≤ hi ∧ (c.toNat - lo) % step = 0 then
      some (Char.ofNat (target + (c.toNat - lo)))
    else none
  | _ => none

def mapChar (c : Char) : Option (List Char) :=
  if isAscii c then some [c.toLower]
  else if inTable refusedRanges c then none
  else if inTable ignoredRanges c then some []
  else match mappedRuns.findSome? (shiftedBy c) with
    | some d => some [d]
    | none =>
      match mappedTexts.find? (fun row => row.head? = some c.toNat) with
      | some row => some (row.tail.map Char.ofNat)
      | none => some [c]

def mapText (cs : List Char) : Option (List Char) := (·.flatten) <$> cs.mapM mapChar

/-- The hidden joiners: fine behind a virama; the one that keeps characters apart is also fine
between two that would join. -/
def joinersFit : List Char → List Char → Bool
  | _, [] => true
  | before, c :: rest =>
    let afterVirama := match before with
      | p :: _ => combiningClass p = 9
      | [] => false
    let joins (tables : List (List (List Nat))) (cs : List Char) : Bool :=
      match cs.dropWhile (inTable transparent) with
      | d :: _ => tables.any (inTable · d)
      | [] => false
    let fits :=
      if c = '\u200d' then afterVirama
      else if c = '\u200c' then
        afterVirama || (joins [joinsLeft, joinsBoth] before && joins [joinsRight, joinsBoth] rest)
      else true
    fits && joinersFit (c :: before) rest

/-- Whether a decoded label is what its own mapping would give. -/
def isStable (cs : List Char) : Bool :=
  match mapText cs with
  | some mapped => decide (mapped = cs) && decide (normalize cs = cs)
  | none => false

def labelIsValid (cs : List Char) : Bool :=
  match cs with
  | [] => true
  | c :: _ => !inTable markRanges c && joinersFit [] cs

def codedMark : List Char := ['x', 'n', '-', '-']

def codedLimit : Nat := 1000

/-- A label as characters and in ASCII. A label already in coded form must stand for something that
has no plain form. -/
def readLabel (cs : List Char) : Option (List Char × List Char) :=
  if codedMark.isPrefixOf cs then do
    let label ← Punycode.decode (cs.drop 4)
    if label.all isAscii || !isStable label || !labelIsValid label then none
    else some (label, cs)
  else if !labelIsValid cs then none
  else if cs.all isAscii then some (cs, cs)
  else if codedLimit < cs.length then none
  else some (cs, codedMark ++ Punycode.encode cs)

/-- The direction class of a character, as `directionRows` numbers them; 0 is left to right. -/
def direction (c : Char) : Nat :=
  match directionRows.find? (rowHolds c) with
  | some [_, _, k] => k
  | _ => 0

def directionFits (cs : List Char) : Bool :=
  let ds := cs.map direction
  let last := (ds.reverse.dropWhile (· = 10)).head?
  match ds with
  | [] => true
  | first :: _ =>
    if first = 1 ∨ first = 2 then
      ds.all ([1, 2, 3, 4, 5, 6, 7, 8, 9, 10].contains ·) &&
        (match last with
          | some k => [1, 2, 3, 4].contains k
          | none => false) &&
        !(ds.contains 3 && ds.contains 4)
    else if first = 0 then
      ds.all ([0, 4, 5, 6, 7, 8, 9, 10].contains ·) &&
        match last with
        | some k => [0, 4].contains k
        | none => false
    else false

def runsRightToLeft (labels : List (List Char)) : Bool :=
  labels.any fun l => l.any fun c => [1, 2, 3].contains (direction c)

def codedName (cs : List Char) : Option (List Char) := do
  let mapped := normalize (← mapText cs)
  if mapped.any fun c => isAscii c && isForbidden c then none else
  let labels ← (splitAt '.' mapped).mapM readLabel
  if runsRightToLeft (labels.map (·.1)) && !labels.all (directionFits ·.1) then none
  else some (['.'].intercalate (labels.map (·.2)))

def hasCodedLabel (cs : List Char) : Bool := (splitAt '.' cs).any (codedMark.isPrefixOf ·)

def asciiName (cs : List Char) : Option (List Char) :=
  let lower := cs.map Char.toLower
  if cs.all isAscii && !hasCodedLabel lower then
    if cs.any isForbidden then none else some lower
  else codedName cs

end Parley.Host
