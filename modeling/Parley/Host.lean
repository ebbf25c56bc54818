import Parley.Host.Name
import Parley.Url.Escape
/-! Hosts: names and numeric addresses, read from the authority of a URL and written back in one
normal form. -/

namespace Parley

inductive Host where
  | name (text : String)
  | octets (address : Nat)
  | pieces (address : List Nat)
deriving DecidableEq, Repr

namespace Host

inductive Problem where
  | empty
  | badName
  | badOctets
  | badPieces
  | badCharacter
deriving DecidableEq, Repr

def Problem.message : Problem → String
  | .empty => "empty host"
  | .badName => "invalid international domain name"
  | .badOctets => "invalid IPv4 address"
  | .badPieces => "invalid IPv6 address"
  | .badCharacter => "invalid domain character"

def bracketed (cs : List Char) : Except Problem Host :=
  match cs.getLast? with
  | some ']' =>
    match pieceAddress cs.dropLast with
    | some ps => .ok (.pieces ps)
    | none => .error .badPieces
  | _ => .error .badPieces

/-- The host of a URL whose scheme knows hosts. Escapes are undone first, and a name that ends in a
number has to be an address. -/
def read (cs : List Char) : Except Problem Host :=
  match cs with
  | '[' :: rest => bracketed rest
  | _ =>
    match (Text.ofOctets? (Url.unescape cs)).bind fun s => asciiName s.toList with
    | none => .error .badName
    | some [] => .error .empty
    | some ascii =>
      if endsInNumber ascii then
        match octetAddress ascii with
        | some n => .ok (.octets n)
        | none => .error .badOctets
      else .ok (.name (String.ofList ascii))

/-- The host of any other URL: a text kept as it is. -/
def readOpaque (cs : List Char) : Except Problem Host :=
  match cs with
  | '[' :: rest => bracketed rest
  | _ =>
    if cs.any (['\x00', '\t', '\n', '\r', ' ', '#', '/', ':', '<', '>', '?', '@', '[', '\\', ']',
        '^', '|'].contains ·) then .error .badCharacter
    else .ok (.name (String.ofList (Url.escape Url.isControl cs)))

def chars : Host → List Char
  | .name s => s.toList
  | .octets n => octetText n
  | .pieces ps => '[' :: pieceText ps ++ [']']

end Host

end Parley
