import Parley.Text.Quoted
import Parley.Text.Utf8
/-! What can be wrong with a JSON text, and where. While a text is being read a place is the number
of octets that follow it; only the finished refusal turns that into a line and a column, both
counted from the start of the text, the column in octets. -/

namespace Parley.Json

open Parley.Text

inductive Found where
  | null
  | boolean (b : Bool)
  | integer (n : Int)
  | float (text : String)
  | text (s : String)
  | sequence
  | map
deriving DecidableEq, Repr

inductive Problem where
  | endInList
  | endInObject
  | endInString
  | endInValue
  | expectedColon
  | expectedListCommaOrEnd
  | expectedObjectCommaOrEnd
  | expectedWord
  | expectedValue
  | badEscape
  | badNumber
  | numberOutOfRange
  | loneSurrogate
  | endOfHexEscape
  | controlCharacter
  | keyNotString
  | trailingComma
  | trailingCharacters
  | tooDeep
  | wrongType (found : Found) (expected : String)
  | missingField (name : String)
  | duplicateField (name : String)
  | wrongLength (length : Nat) (expected : String)
  | refused (reason : String)
deriving DecidableEq, Repr

def Found.message : Found → String
  | .null => "null"
  | .boolean b => "boolean `" ++ (if b then "true" else "false") ++ "`"
  | .integer n => "integer `" ++ toString n ++ "`"
  | .float t => "floating point `" ++ t ++ "`"
  | .text s => "string " ++ quoted s
  | .sequence => "sequence"
  | .map => "map"

def Problem.message : Problem → String
  | .endInList => "EOF while parsing a list"
  | .endInObject => "EOF while parsing an object"
  | .endInString => "EOF while parsing a string"
  | .endInValue => "EOF while parsing a value"
  | .expectedColon => "expected `:`"
  | .expectedListCommaOrEnd => "expected `,` or `]`"
  | .expectedObjectCommaOrEnd => "expected `,` or `\x7d`"
  | .expectedWord => "expected ident"
  | .expectedValue => "expected value"
  | .badEscape => "invalid escape"
  | .badNumber => "invalid number"
  | .numberOutOfRange => "number out of range"
  | .loneSurrogate => "lone leading surrogate in hex escape"
  | .endOfHexEscape => "unexpected end of hex escape"
  | .controlCharacter => "control character (\\u0000-\\u001F) found while parsing a string"
  | .keyNotString => "key must be a string"
  | .trailingComma => "trailing comma"
  | .trailingCharacters => "trailing characters"
  | .tooDeep => "recursion limit exceeded"
  | .wrongType found expected => "invalid type: " ++ found.message ++ ", expected " ++ expected
  | .missingField name => "missing field `" ++ name ++ "`"
  | .duplicateField name => "duplicate field `" ++ name ++ "`"
  | .wrongLength n expected => "invalid length " ++ toString n ++ ", expected " ++ expected
  | .refused reason => reason

/-- A problem and the number of octets behind its place. -/
structure Fault where
  problem : Problem
  left : Nat
deriving DecidableEq, Repr

def Fault.here (p : Problem) (rest : List Char) : Fault := ⟨p, width rest⟩

/-- The place is one octet into the rest, or its end when nothing is left. -/
def Fault.next (p : Problem) (rest : List Char) : Fault := ⟨p, width rest - 1⟩

structure Refusal where
  problem : Problem
  line : Nat
  column : Nat
deriving DecidableEq, Repr

def Refusal.message (r : Refusal) : String :=
  r.problem.message ++ " at line " ++ toString r.line ++ " column " ++ toString r.column

def place (cs : List Char) (octets line column : Nat) : Nat × Nat :=
  match cs with
  | [] => (line, column)
  | c :: cs =>
    if octets < c.utf8Size then (line, column + octets)
    else if c = '\n' then place cs (octets - 1) (line + 1) 0
    else place cs (octets - c.utf8Size) line (column + c.utf8Size)

def Fault.locate (cs : List Char) (f : Fault) : Refusal :=
  let (line, column) := place cs (width cs - f.left) 1 0
  ⟨f.problem, line, column⟩

end Parley.Json
