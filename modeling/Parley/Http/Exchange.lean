import Parley.Http
import Parley.Network
import Parley.Text.Base64
import Parley.Url.Resolve
/-! One question to a server and its final answer. Redirects are followed, ten at most, and the
proof of who is asking goes along only while host and port stay the same. -/

namespace Parley.Http

open Parley.Text

inductive Mishap where
  | badHeader
  | badTarget (url : String)
  | unsent (url : String)
  | tooManyHops (url : String)
deriving DecidableEq, Repr

def Mishap.message : Mishap → String
  | .badHeader => "builder error"
  | .badTarget url => "builder error for url (" ++ url ++ ")"
  | .unsent url => "error sending request for url (" ++ url ++ ")"
  | .tooManyHops url => "error following redirect for url (" ++ url ++ ")"

def basic (username password : String) : String :=
  "Basic " ++ String.ofList (Base64.encode (octets (username ++ ":" ++ password)))

def bearer (token : String) : String := "Bearer " ++ token

def hopLimit : Nat := 10

def isRedirect (status : Nat) : Bool := [301, 302, 303, 307, 308].contains status

/-- Where an answer sends the client on to; a place that cannot be read is none. -/
def Answer.next? (a : Answer) (origin : Url) : Option Url :=
  if isRedirect a.status then a.location.bind fun l => (origin.join l).toOption else none

def samePlace (u v : Url) : Bool := u.host = v.host && u.effectivePort = v.effectivePort

def follow (net : Network) :
    Nat → Url → List String → Remote → Except Mishap Answer × Remote
  | hops, url, authorization, remote =>
    match Target.ofUrl url with
    | .error _ => (.error (.badTarget url.text), remote)
    | .ok target =>
      match net.route (url.scheme = "https") target.host (url.effectivePort.getD 0) with
      | .failed _ => (.error (.unsent url.text), remote)
      | .served =>
        let (reply, remote) := remote.ask ⟨target.path, authorization, none⟩
        match reply.final? with
        | none => (.error (.unsent url.text), remote)
        | some a =>
          match a.next? url, hops with
          | none, _ => (.ok a, remote)
          | some _, 0 => (.error (.tooManyHops url.text), remote)
          | some next, hops + 1 =>
            follow net hops next (if samePlace url next then authorization else []) remote

def userInfo? (u : Url) : Option (String × Option String) := do
  let name ← ofOctets? (Url.unescape u.username.toList)
  let password := u.password.bind fun p => ofOctets? (Url.unescape p.toList)
  if name.isEmpty ∧ password.isNone then none else return (name, password)

/-- A question with one proof of who is asking. User info in the URL is moved out of it and becomes
another one in front. -/
def get (net : Network) (url : Url) (authorization : String) (remote : Remote) :
    Except Mishap Answer × Remote :=
  if ¬ isHeaderText authorization then (.error .badHeader, remote)
  else match userInfo? url with
    | some (name, password) =>
      follow net hopLimit url.withoutUserInfo [basic name (password.getD ""), authorization] remote
    | none => follow net hopLimit url [authorization] remote

end Parley.Http
