import Parley.Url.Escape
/-! Pairs of names and values in the query of a URL: blanks become plus signs, everything but
letters, digits and four marks is escaped, and an ampersand parts one pair from the next. -/

namespace Parley.Url

open Parley.Text

def isFormPlain (c : Char) : Bool :=
  isDigit c || decide ('a' ≤ c ∧ c ≤ 'z') || decide ('A' ≤ c ∧ c ≤ 'Z') ||
    ['*', '-', '.', '_'].contains c

def formChar (c : Char) : List Char :=
  if isFormPlain c then [c] else if c = ' ' then ['+'] else (charOctets c).flatMap escapedOctet

def formText (s : String) : List Char := s.toList.flatMap formChar

def formPair (name value : String) : List Char := formText name ++ '=' :: formText value

def appendPair (query : Option String) (name value : String) : String :=
  let before := (query.getD "").toList
  String.ofList ((if before.isEmpty then [] else before ++ ['&']) ++ formPair name value)

def readFormText (cs : List Char) : Option String :=
  ofOctets? (unescape (cs.map fun c => if c = '+' then ' ' else c))

def cutAt (mark : Char) (cs : List Char) : List Char × List Char :=
  (cs.takeWhile (· ≠ mark), (cs.dropWhile (· ≠ mark)).drop 1)

/-- The last pair of a query, read back. -/
def lastPair (query : List Char) : Option (String × String) :=
  let last := ((query.reverse.takeWhile (· ≠ '&'))).reverse
  let (name, value) := cutAt '=' last
  match readFormText name, readFormText value with
  | some n, some v => some (n, v)
  | _, _ => none

end Parley.Url
