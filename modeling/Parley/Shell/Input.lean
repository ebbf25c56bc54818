import Parley.Text.Blank
import Parley.Text.Utf8
/-! What is typed into the shell. Lines end at line feeds, with or without a carriage return in
front; the last one may have no end. In the line editor a backspace takes back the character before
it. Blank lines count as nothing, and a line that is no text ends the reading. -/

namespace Parley.Shell.Input

open Parley.Text

def cut : List UInt8 → List (List UInt8) × List UInt8
  | [] => ([], [])
  | b :: bs =>
    let (lines, rest) := cut bs
    if b = 10 then ([] :: lines, rest)
    else match lines with
      | [] => ([], b :: rest)
      | l :: ls => ((b :: l) :: ls, rest)

def withoutReturn (line : List UInt8) : List UInt8 :=
  if line.getLast? = some 13 then line.dropLast else line

def lines (bs : List UInt8) : List (List UInt8) :=
  let (ended, rest) := cut bs
  ended.map withoutReturn ++ if rest.isEmpty then [] else [rest]

def erase (kept : List Char) : List Char → List Char
  | [] => kept.reverse
  | c :: cs => if c = '\x08' then erase kept.tail cs else erase (c :: kept) cs

/-- What the line editor makes of a line. -/
def takeBack (line : String) : String := String.ofList (erase [] line.toList)

def message? (line : String) : Option String :=
  let cs := trim line.toList
  if cs.isEmpty then none else some (String.ofList cs)

/-- The messages in some lines, and whether one of them was no text. -/
def messages : List (List UInt8) → List String × Bool
  | [] => ([], false)
  | l :: ls =>
    match ofOctets? l with
    | none => ([], true)
    | some s =>
      let (more, broken) := messages ls
      ((message? (takeBack s)).toList ++ more, broken)

end Parley.Shell.Input
