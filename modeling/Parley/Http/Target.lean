import Parley.Url
/-! What a URL says to a connection: the host and port to reach and the path to ask for there. The
rules for it are stricter than those for URLs, so there are URLs that no request can be made for. -/

namespace Parley.Http

open Parley.Text

inductive TargetProblem where
  | tooLong
  | schemeTooLong
  | badCharacter
  | badAuthority
  | badFormat
deriving DecidableEq, Repr

def TargetProblem.message : TargetProblem → String
  | .tooLong => "uri too long"
  | .schemeTooLong => "scheme too long"
  | .badCharacter => "invalid uri character"
  | .badAuthority => "invalid authority"
  | .badFormat => "invalid format"

structure Target where
  scheme : Option String
  /-- Host and port as they were written, the user info being left out. -/
  authority : String
  /-- The path with the query. -/
  path : String
deriving DecidableEq, Repr

namespace Target

def longest : Nat := 65534

def longestScheme : Nat := 64

def isWord (c : Char) : Bool :=
  isDigit c || decide ('a' ≤ c ∧ c ≤ 'z') || decide ('A' ≤ c ∧ c ≤ 'Z')

def cutScheme (cs : List Char) : Option (List Char × List Char) :=
  let name := cs.takeWhile fun c => isWord c || ['+', '-', '.'].contains c
  match cs.drop name.length with
  | ':' :: '/' :: '/' :: rest => some (name, rest)
  | _ => none

/-- What has been seen of an authority. Colons and escapes count anew behind an at sign and behind a
closing bracket, since user info and addresses in brackets may hold them. -/
structure Scan where
  colons : Nat := 0
  opened : Bool := false
  closed : Bool := false
  escaped : Bool := false

/-- An address of eight pieces has seven colons, and one more stands before its port. -/
def mostColons : Nat := 8

def Scan.step (s : Scan) (c : Char) : Except TargetProblem Scan :=
  if c = ':' then
    if mostColons ≤ s.colons then .error .badAuthority
    else .ok { s with colons := s.colons + 1 }
  else if c = '[' then
    if s.escaped ∨ s.opened then .error .badAuthority else .ok { s with opened := true }
  else if c = ']' then
    if ¬ s.opened ∨ s.closed then .error .badAuthority
    else .ok { s with closed := true, colons := 0, escaped := false }
  else if c = '@' then .ok { s with colons := 0, escaped := false }
  else if c = '%' then .ok { s with escaped := true }
  else if isWord c ∨ ['!', '$', '&', '\'', '(', ')', '*', '+', ',', '-', '.', ';', '=', '_',
      '~'].contains c then .ok s
  else .error .badCharacter

def checkAuthority (cs : List Char) : Except TargetProblem Unit := do
  let s ← cs.foldlM Scan.step {}
  if s.opened ≠ s.closed ∨ 1 < s.colons ∨ cs.getLast? = some '@' ∨ s.escaped then
    .error .badAuthority
  else .ok ()

def endsAuthority (c : Char) : Bool := c = '/' || c = '?' || c = '#'

def withoutUserInfo (cs : List Char) : List Char := (cs.reverse.takeWhile (· ≠ '@')).reverse

/-- A path is a slash at least, and the fragment is no part of it. -/
def pathText (cs : List Char) : String :=
  let cs := cs.takeWhile (· ≠ '#')
  String.ofList (if cs.head? = some '/' then cs else '/' :: cs)

/-- A text without a scheme is an authority from end to end; with one it has to name an authority.
-/
def read (cs : List Char) : Except TargetProblem Target := do
  if longest < cs.length then .error .tooLong else
  let (scheme, rest) := match cutScheme cs with
    | some (name, rest) => (some name, rest)
    | none => (none, cs)
  if scheme.any (longestScheme < ·.length) then .error .schemeTooLong else
  let authority := rest.takeWhile (!endsAuthority ·)
  checkAuthority authority
  if authority.isEmpty ∨ scheme.isNone ∧ authority.length < rest.length then .error .badFormat else
  return {
    scheme := scheme.map String.ofList
    authority := String.ofList (withoutUserInfo authority)
    path := pathText (rest.drop authority.length) }

def ofUrl (u : Url) : Except TargetProblem Target := read u.chars

def host (t : Target) : String :=
  let cs := t.authority.toList
  String.ofList <| match cs with
    | '[' :: rest => '[' :: rest.takeWhile (· ≠ ']') ++ [']']
    | _ => cs.takeWhile (· ≠ ':')

def port? (t : Target) : Option Nat :=
  let cs := t.authority.toList.drop t.host.length
  match cs with
  | ':' :: ds =>
    if ¬ ds.isEmpty ∧ ds.all isDigit ∧ ofDigits ds ≤ 65535 then some (ofDigits ds) else none
  | _ => none

end Target

end Parley.Http
