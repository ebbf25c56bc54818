import Parley.Url
/-! URLs read from text. Controls and blanks at both ends are dropped, tabs and line ends
everywhere. The scheme decides how the rest is read: a special one always has a host and takes
backslashes for slashes, any other may have neither host nor path segments. -/

namespace Parley.Url

open Parley.Text

inductive ReadError where
  | noBase
  | badPort
  | host (problem : Host.Problem)
deriving DecidableEq, Repr

def ReadError.message : ReadError → String
  | .noBase => "relative URL without a base"
  | .badPort => "invalid port number"
  | .host p => p.message

def isEdge (c : Char) : Bool := c ≤ ' '

def isDropped (c : Char) : Bool := c = '\t' || c = '\n' || c = '\r'

def cleaned (cs : List Char) : List Char :=
  (((cs.dropWhile isEdge).reverse.dropWhile isEdge).reverse).filter (!isDropped ·)

def isLetter (c : Char) : Bool :=
  decide ('a' ≤ c ∧ c ≤ 'z') || decide ('A' ≤ c ∧ c ≤ 'Z')

def readScheme (cs : List Char) : Option (String × List Char) :=
  let name := cs.takeWhile fun c => isLetter c || isDigit c || ['+', '-', '.'].contains c
  match name, cs.drop name.length with
  | c :: _, ':' :: rest =>
    if isLetter c then some (String.ofList (name.map Char.toLower), rest) else none
  | _, _ => none

def isSlash (special : Bool) (c : Char) : Bool := c = '/' || special && c = '\\'

def endsAuthority (special : Bool) (c : Char) : Bool := isSlash special c || c = '?' || c = '#'

structure UserInfo where
  username : String
  password : Option String

def cutLastAt (cs : List Char) : Option (List Char × List Char) :=
  let after := (cs.reverse.takeWhile (· ≠ '@')).reverse
  if after.length = cs.length then none
  else some (cs.take (cs.length - after.length - 1), after)

def readUserInfo (cs : List Char) : UserInfo :=
  let escaped (cs : List Char) : String := String.ofList (escape inUserInfo cs)
  match cs.dropWhile (· ≠ ':') with
  | [] => ⟨escaped cs, none⟩
  | _ :: secret =>
    ⟨escaped (cs.takeWhile (· ≠ ':')), if secret.isEmpty then none else some (escaped secret)⟩

def takeHost (inside : Bool) : List Char → List Char
  | [] => []
  | c :: cs =>
    if c = ':' ∧ ¬ inside then []
    else c :: takeHost (if c = '[' then true else if c = ']' then false else inside) cs

/-- Digits only, at most 65535; none at all leaves the port of the scheme. -/
def readPort (scheme : String) (cs : List Char) : Except ReadError (Option Nat) :=
  if cs.all isDigit then
    let n := ofDigits cs
    if 65535 < n then .error .badPort
    else if cs.isEmpty ∨ defaultPort scheme = some n then .ok none
    else .ok (some n)
  else .error .badPort

structure Authority where
  user : UserInfo
  host : Host
  port : Option Nat

def readHost (scheme : String) (cs : List Char) : Except ReadError Host :=
  let r := if isSpecial scheme then
      if cs.isEmpty then .error .empty else Host.read cs
    else Host.readOpaque cs
  match r with
  | .ok h => .ok h
  | .error p => .error (.host p)

/-- A host may be empty only where the scheme asks for none, and then without user info or port. A
bare at sign before an empty host is refused unless it ends the whole text. -/
def readAuthority (scheme : String) (ended : Bool) (cs : List Char) :
    Except ReadError Authority := do
  let (info, rest) := match cutLastAt cs with
    | some (info, rest) => (some info, rest)
    | none => (none, cs)
  if info = some [] ∧ rest.isEmpty ∧ ¬ ended then .error (.host .empty) else
  let user := match info with
    | some info => readUserInfo info
    | none => ⟨"", none⟩
  let name := takeHost false rest
  let host ← readHost scheme name
  let after := rest.drop name.length
  let named := decide (user.username ≠ "") || user.password.isSome
  if name.isEmpty ∧ (named ∨ ¬ after.isEmpty) then .error (.host .empty) else
  let port ← readPort scheme (after.drop 1)
  return ⟨user, host, port⟩

def isOneDot (cs : List Char) : Bool := [".", "%2e"].contains (String.ofList (cs.map Char.toLower))

def isTwoDots (cs : List Char) : Bool :=
  ["..", "%2e.", ".%2e", "%2e%2e"].contains (String.ofList (cs.map Char.toLower))

def isDrive (cs : List Char) (marks : List Char) : Bool :=
  match cs with
  | [a, b] => isLetter a && marks.contains b
  | _ => false

/-- Drops the last segment, except the drive of a file. -/
def shorten (file : Bool) (kept : List String) : List String :=
  match kept with
  | [p] => if file ∧ isDrive p.toList [':'] then [p] else []
  | ps => ps.dropLast

def resolve (file : Bool) (kept : List String) : List (List Char) → List String
  | [] => kept
  | seg :: segs =>
    let isLast := segs.isEmpty
    if isTwoDots seg then
      let kept := shorten file kept
      resolve file (if isLast then kept ++ [""] else kept) segs
    else if isOneDot seg then resolve file (if isLast then kept ++ [""] else kept) segs
    else
      let seg := if file ∧ kept.isEmpty ∧ isDrive seg [':', '|'] then seg.take 1 ++ [':'] else seg
      resolve file (kept ++ [String.ofList (escape inPath seg)]) segs

def splitSegments (special : Bool) : List Char → List (List Char)
  | [] => [[]]
  | c :: cs =>
    if isSlash special c then [] :: splitSegments special cs
    else match splitSegments special cs with
      | [] => [[c]]
      | p :: ps => (c :: p) :: ps

/-- A path whose leading slash, if any, is still there. A special URL has at least one segment. -/
def readPath (scheme : String) (cs : List Char) : Path :=
  let special := isSpecial scheme
  match cs with
  | [] => .segments (if special then [""] else [])
  | c :: rest =>
    let cs := if isSlash special c then rest else cs
    .segments (resolve (isFile scheme) [] (splitSegments special cs))

def cutTail (cs : List Char) : List Char × Option (List Char) × Option (List Char) :=
  let front := cs.takeWhile (· ≠ '#')
  let fragment := match cs.dropWhile (· ≠ '#') with
    | [] => none
    | _ :: f => some f
  let query := match front.dropWhile (· ≠ '?') with
    | [] => none
    | _ :: q => some q
  (front.takeWhile (· ≠ '?'), query, fragment)

def escaped (set : Char → Bool) (cs : Option (List Char)) : Option String :=
  cs.map fun cs => String.ofList (escape set cs)

def withAuthority (scheme : String) (cs : List Char) (query fragment : Option (List Char)) :
    Except ReadError Url := do
  let authority := cs.takeWhile (!endsAuthority (isSpecial scheme) ·)
  let rest := cs.drop authority.length
  let a ← readAuthority scheme (rest.isEmpty && query.isNone && fragment.isNone) authority
  return {
    scheme := scheme
    username := a.user.username
    password := a.user.password
    host := some a.host
    port := a.port
    path := readPath scheme rest
    query := escaped (if isSpecial scheme then inSpecialQuery else inQuery) query
    fragment := escaped inFragment fragment }

def withoutHost (scheme : String) (path : Path) (query fragment : Option (List Char)) : Url where
  scheme := scheme
  username := ""
  password := none
  host := none
  port := none
  path := path
  query := escaped (if isSpecial scheme then inSpecialQuery else inQuery) query
  fragment := escaped inFragment fragment

/-- A file: its host is empty unless two slashes open one that is no drive and not this machine. -/
def readFile (cs : List Char) (query fragment : Option (List Char)) : Except ReadError Url :=
  let onDisk (cs : List Char) : Url :=
    { withoutHost "file" (readPath "file" cs) query fragment with host := some (.name "") }
  match cs with
  | a :: b :: rest =>
    if isSlash true a ∧ isSlash true b then
      let name := rest.takeWhile (!isSlash true ·)
      if isDrive name [':', '|'] ∨ name.isEmpty then .ok (onDisk rest)
      else match Host.read name with
        | .error p => .error (.host p)
        | .ok h =>
          let u := onDisk (rest.drop name.length)
          .ok (if h = .name "localhost" then u else { u with host := some h })
    else .ok (onDisk cs)
  | cs => .ok (onDisk cs)

def readBehindScheme (scheme : String) (cs : List Char) : Except ReadError Url :=
  let (front, query, fragment) := cutTail cs
  if isFile scheme then readFile front query fragment
  else if isSpecial scheme then
    withAuthority scheme (front.dropWhile (isSlash true)) query fragment
  else match front with
    | '/' :: '/' :: rest => withAuthority scheme rest query fragment
    | '/' :: _ => .ok (withoutHost scheme (readPath scheme front) query fragment)
    | rest =>
      .ok (withoutHost scheme (.plain (String.ofList (escape isControl rest))) query fragment)

def read (s : String) : Except ReadError Url :=
  match readScheme (cleaned s.toList) with
  | some (scheme, rest) => readBehindScheme scheme rest
  | none => .error .noBase

end Parley.Url
