import Parley.Host
import Parley.Url.Form
/-! URLs in their parts, and their one written form. The port is kept only where it differs from
that of the scheme, so two URLs that name the same place are written alike. -/

namespace Parley

inductive Url.Path where
  | segments (parts : List String)
  | plain (text : String)
deriving DecidableEq, Repr

structure Url where
  scheme : String
  username : String
  password : Option String
  host : Option Host
  port : Option Nat
  path : Url.Path
  query : Option String
  fragment : Option String
deriving DecidableEq, Repr

namespace Url

/-- The port of the schemes that have one; only these schemes are special. -/
def defaultPort : String → Option Nat
  | "http" => some 80
  | "ws" => some 80
  | "https" => some 443
  | "wss" => some 443
  | "ftp" => some 21
  | _ => none

def isFile (scheme : String) : Bool := scheme = "file"

def isSpecial (scheme : String) : Bool := (defaultPort scheme).isSome || isFile scheme

def effectivePort (u : Url) : Option Nat := u.port.or (defaultPort u.scheme)

def Path.chars : Path → List Char
  | .segments parts => parts.flatMap fun p => '/' :: p.toList
  | .plain text => text.toList

def hostText (u : Url) : String := String.ofList ((u.host.map Host.chars).getD [])

def userInfoChars (u : Url) : List Char :=
  if u.username.isEmpty ∧ u.password.isNone then []
  else u.username.toList ++ (match u.password with
    | some p => ':' :: p.toList
    | none => []) ++ ['@']

def portChars (u : Url) : List Char :=
  match u.port with
  | some p => ':' :: Text.digits p
  | none => []

/-- A path that would look like an authority is kept from doing so. -/
def authorityChars (u : Url) : List Char :=
  match u.host with
  | some h => '/' :: '/' :: u.userInfoChars ++ h.chars ++ u.portChars
  | none =>
    match u.path with
    | .segments ("" :: _ :: _) => ['/', '.']
    | _ => []

def queryChars (u : Url) : List Char :=
  match u.query with
  | some q => '?' :: q.toList
  | none => []

def fragmentChars (u : Url) : List Char :=
  match u.fragment with
  | some f => '#' :: f.toList
  | none => []

def chars (u : Url) : List Char :=
  u.scheme.toList ++ ':' :: u.authorityChars ++ u.path.chars ++ u.queryChars ++ u.fragmentChars

def text (u : Url) : String := String.ofList u.chars

def withPair (u : Url) (name value : String) : Url :=
  { u with query := some (appendPair u.query name value) }

def withoutUserInfo (u : Url) : Url := { u with username := "", password := none }

end Url

end Parley
