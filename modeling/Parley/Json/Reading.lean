import Parley.Json.Problem
/-! The tokens of JSON: blanks, words and strings. A reader takes the rest of the text and gives a
value with what follows it. Strings are read in one pass, so that the first fault in the text is the
one reported; half of a surrogate pair is a fault, since it stands for no character. -/

namespace Parley.Json

open Parley.Text

abbrev Rest (α : Type) := α × List Char

abbrev Reader (α : Type) := List Char → Except Fault (Rest α)

def isSpace (c : Char) : Bool := c = ' ' || c = '\n' || c = '\t' || c = '\r'

def skipSpace (cs : List Char) : List Char := cs.dropWhile isSpace

def word : List Char → List Char → Except Fault (List Char)
  | [], cs => .ok cs
  | _ :: _, [] => .error (.here .endInValue [])
  | w :: ws, c :: cs => if w = c then word ws cs else .error (.next .expectedWord (c :: cs))

def hexUnit (a b c d : Char) : Option Nat := do
  let a ← hexValue? a
  let b ← hexValue? b
  let c ← hexValue? c
  let d ← hexValue? d
  return ((a * 16 + b) * 16 + c) * 16 + d

/-- An escape takes four octets, whatever they are; with fewer the text is over. -/
def hexFault (cs : List Char) : Fault :=
  if width cs < 4 then ⟨.endInString, 0⟩ else ⟨.badEscape, width cs - 4⟩

def isLeading (u : Nat) : Bool := decide (0xD800 ≤ u) && decide (u ≤ 0xDBFF)

def isTrailing (u : Nat) : Bool := decide (0xDC00 ≤ u) && decide (u ≤ 0xDFFF)

def joinPair (u v : Nat) : Char := Char.ofNat ((u - 0xD800) * 0x400 + (v - 0xDC00) + 0x10000)

def pairFault : List Char → Fault
  | [] => ⟨.endInString, 0⟩
  | '\\' :: [] => ⟨.endInString, 0⟩
  | '\\' :: 'u' :: cs => hexFault cs
  | '\\' :: cs => .next .endOfHexEscape cs
  | cs => .next .endOfHexEscape cs

def simpleEscape : Char → Option Char
  | '"' => some '"'
  | '\\' => some '\\'
  | '/' => some '/'
  | 'b' => some '\x08'
  | 'f' => some '\x0c'
  | 'n' => some '\n'
  | 'r' => some '\r'
  | 't' => some '\t'
  | _ => none

def stringTail (read : List Char) : List Char → Except Fault (Rest String)
  | [] => .error ⟨.endInString, 0⟩
  | '"' :: cs => .ok (String.ofList read.reverse, cs)
  | '\\' :: 'u' :: a :: b :: c :: d :: cs =>
    match hexUnit a b c d with
    | none => .error (hexFault (a :: b :: c :: d :: cs))
    | some u =>
      if isTrailing u then .error (.here .loneSurrogate cs)
      else if isLeading u then
        match cs with
        | '\\' :: 'u' :: e :: f :: g :: h :: cs =>
          match hexUnit e f g h with
          | none => .error (hexFault (e :: f :: g :: h :: cs))
          | some v =>
            if isTrailing v then stringTail (joinPair u v :: read) cs
            else .error (.here .loneSurrogate cs)
        | _ => .error (pairFault cs)
      else stringTail (Char.ofNat u :: read) cs
  | '\\' :: 'u' :: cs => .error (hexFault cs)
  | '\\' :: c :: cs =>
    match simpleEscape c with
    | some x => stringTail (x :: read) cs
    | none => .error (.next .badEscape (c :: cs))
  | ['\\'] => .error ⟨.endInString, 0⟩
  | c :: cs =>
    if c < ' ' then .error (.here .controlCharacter cs) else stringTail (c :: read) cs

/-- A string that nobody looks at: its escapes need the right form only. -/
def skipString : List Char → Except Fault (List Char)
  | [] => .error ⟨.endInString, 0⟩
  | '"' :: cs => .ok cs
  | '\\' :: 'u' :: a :: b :: c :: d :: cs =>
    if (hexUnit a b c d).isSome then skipString cs else .error (hexFault (a :: b :: c :: d :: cs))
  | '\\' :: 'u' :: cs => .error (hexFault cs)
  | '\\' :: c :: cs =>
    if (simpleEscape c).isSome then skipString cs else .error (.next .badEscape (c :: cs))
  | ['\\'] => .error ⟨.endInString, 0⟩
  | c :: cs => if c < ' ' then .error (.here .controlCharacter (c :: cs)) else skipString cs

end Parley.Json
