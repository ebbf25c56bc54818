import Parley.Credentials
import Parley.Http
import Parley.Message.Reading
/-! What the final answers of the two calls before a connection mean. A login succeeds with any
status that says so, the identity only with the plain one; the body of a rejection is never looked
at. -/

namespace Parley

open Json

structure LoginDraft where
  token : Option String := none

def loginSchema : Schema LoginDraft Token where
  slots := [field "token" LoginDraft.token (fun d s => { d with token := some s }) string]
  blank := {}
  finish d := do return ⟨← present "token" d.token⟩

structure IdentityDraft where
  user : Option User := none

def identitySchema : Schema IdentityDraft User where
  slots :=
    [field "user" IdentityDraft.user (fun d u => { d with user := some u })
      (User.reader (depthLimit - 1))]
  blank := {}
  finish d := present "user" d.user

/-- What stands for octets in a body that are no text. Half of a surrogate pair is like them: no
fault in a string that nobody looks at, and a fault anywhere else. The mark in front of it is no
escape, so that a backslash before the octets stays a fault too. -/
def strayOctets : List Char := ['\ufffd', '\\', 'u', 'd', 'c', '0', '0']

/-- A body that came whole and is a record of the schema. -/
def bodyOf? {draft α : Type} (title : String) (schema : Schema draft α) (a : Http.Answer) :
    Option α :=
  if a.complete then
    (readText (record title (some schema)) (Text.mended strayOctets a.body)).toOption
  else none

def rejected (call : Call) (status : Nat) : Failure :=
  .auth call status (Http.reason status)

def undecoded (what : String) : Failure :=
  .unexpectedResponse (what ++ ": error decoding response body")

def Token.ofAnswer (a : Http.Answer) : Except Failure Token :=
  if ¬ Http.isSuccess a.status then .error (rejected .login a.status)
  else match bodyOf? "struct LoginResponse" loginSchema a with
    | none => .error (undecoded "login body")
    | some t =>
      if t.isEmpty then .error (.unexpectedResponse "login returned an empty token") else .ok t

def User.ofAnswer (a : Http.Answer) : Except Failure User :=
  if a.status ≠ 200 then .error (rejected .identity a.status)
  else match bodyOf? "struct MeResponse" identitySchema a with
    | none => .error (undecoded "me body")
    | some u =>
      if u.id.isEmpty ∨ u.name.isEmpty then
        .error (.unexpectedResponse "user id and name must not be empty")
      else .ok u

end Parley
