import Parley.Text.Digits
/-! JSON written without any blank: texts, lists and objects with their members in a given order.
Quotes, backslashes and controls are escaped, everything else stands for itself, so that what is
written is one line. -/

namespace Parley.Json

inductive Value where
  | text (s : String)
  | list (vs : List Value)
  | object (members : List (String × Value))

def escapedChar (c : Char) : List Char :=
  if c = '"' then ['\\', '"']
  else if c = '\\' then ['\\', '\\']
  else if c = '\x08' then ['\\', 'b']
  else if c = '\x0c' then ['\\', 'f']
  else if c = '\n' then ['\\', 'n']
  else if c = '\r' then ['\\', 'r']
  else if c = '\t' then ['\\', 't']
  else if c < ' ' then
    ['\\', 'u', '0', '0', Text.hexDigit (c.toNat / 16), Text.hexDigit (c.toNat % 16)]
  else [c]

def textChars (s : String) : List Char := '"' :: s.toList.flatMap escapedChar ++ ['"']

mutual

def Value.chars : Value → List Char
  | .text s => textChars s
  | .list vs => '[' :: itemChars vs ++ [']']
  | .object ms => '\x7b' :: memberChars ms ++ ['\x7d']

def itemChars : List Value → List Char
  | [] => []
  | v :: [] => v.chars
  | v :: vs => v.chars ++ ',' :: itemChars vs

def memberChars : List (String × Value) → List Char
  | [] => []
  | (k, v) :: [] => textChars k ++ ':' :: v.chars
  | (k, v) :: ms => textChars k ++ ':' :: v.chars ++ ',' :: memberChars ms

end

def Value.render (v : Value) : String := String.ofList v.chars

end Parley.Json
