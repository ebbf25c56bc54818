import Parley.Url.Reading
/-! References resolved against a URL whose scheme is special and is not that of files: whatever the
reference leaves out is taken over from the front of the base. -/

namespace Parley.Url

/-- The segments of a path that a reference without a leading slash is appended to. -/
def Path.folder : Path → List String
  | .segments parts => parts.dropLast
  | .plain _ => []

def resolveLocal (base : Url) (cs : List Char) : Url :=
  let (front, query, fragment) := cutTail cs
  let path := match front with
    | [] => base.path
    | c :: rest =>
      if isSlash true c then readPath base.scheme front
      else .segments (resolve false base.path.folder (splitSegments true (c :: rest)))
  { base with
    path := path
    query := if front.isEmpty ∧ query.isNone then base.query else escaped inSpecialQuery query
    fragment := escaped inFragment fragment }

def resolveRest (base : Url) (cs : List Char) : Except ReadError Url :=
  match cs with
  | a :: b :: _ =>
    if isSlash true a ∧ isSlash true b then readBehindScheme base.scheme cs
    else .ok (resolveLocal base cs)
  | cs => .ok (resolveLocal base cs)

/-- A scheme alone does not make a reference absolute: where it is that of the base, two slashes
have to follow. -/
def join (base : Url) (reference : String) : Except ReadError Url :=
  let cs := cleaned reference.toList
  match readScheme cs with
  | some (scheme, rest) =>
    match rest with
    | '/' :: '/' :: _ => readBehindScheme scheme rest
    | _ => if scheme = base.scheme then resolveRest base rest else readBehindScheme scheme rest
  | none => resolveRest base cs

end Parley.Url
