import Parley.Text.Digits
import Parley.Text.Utf8
/-! Characters of a URL that cannot stand for themselves, written as the percent signs and two
hexadecimal digits of their octets. Each part of a URL has its own set of such characters; controls
and everything beyond ASCII belong to all of them. -/

namespace Parley.Url

open Parley.Text

def escapedOctet (b : UInt8) : List Char :=
  ['%', upperHexDigit (b.toNat / 16), upperHexDigit (b.toNat % 16)]

def charOctets (c : Char) : List UInt8 := String.utf8EncodeChar c

/-- The character, or its escaped form when the set holds it. -/
def escapeChar (set : Char → Bool) (c : Char) : List Char :=
  if set c then (charOctets c).flatMap escapedOctet else [c]

def escape (set : Char → Bool) (cs : List Char) : List Char := cs.flatMap (escapeChar set)

def isControl (c : Char) : Bool := c < ' ' || '~' < c

def inFragment (c : Char) : Bool := isControl c || [' ', '"', '<', '>', '`'].contains c

def inPath (c : Char) : Bool := inFragment c || ['#', '?', '\x7b', '\x7d'].contains c

def inUserInfo (c : Char) : Bool :=
  inPath c || ['/', ':', ';', '=', '@', '[', '\\', ']', '^', '|'].contains c

def inQuery (c : Char) : Bool := isControl c || [' ', '"', '#', '<', '>'].contains c

def inSpecialQuery (c : Char) : Bool := inQuery c || c = '\''

/-- The octets of a text whose escapes are undone; what is no escape stands for itself. -/
def unescape : List Char → List UInt8
  | [] => []
  | '%' :: a :: b :: cs =>
    match hexValue? a, hexValue? b with
    | some x, some y => (16 * x + y).toUInt8 :: unescape cs
    | _, _ => charOctets '%' ++ unescape (a :: b :: cs)
  | c :: cs => charOctets c ++ unescape cs

end Parley.Url
