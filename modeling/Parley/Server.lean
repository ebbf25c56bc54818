import Parley.Credentials
import Parley.Url.Reading
/-! Where the chat server is, and its three places: the login, the identity of a token's owner, and
the chat itself, which takes the token in its query. Whether connections are secured decides the
scheme of all three. -/

namespace Parley

structure Server where
  host : String
  port : Nat
  secure : Bool
deriving DecidableEq, Repr

namespace Server

def defaultHost : String := "0.0.0.0"
def defaultPort : Nat := 3000

def standard : Server := ⟨defaultHost, defaultPort, false⟩

def loginPath : String := "/api/v1/auth/login"
def identityPath : String := "/api/v1/auth/me"
def chatPath : String := "/api/v1/chats"

def httpScheme (s : Server) : String := if s.secure then "https" else "http"
def socketScheme (s : Server) : String := if s.secure then "wss" else "ws"

/-- The host is taken as it is, so it may well break the text it is put into. -/
def url (s : Server) (scheme path : String) : Except Failure Url :=
  if s.host.isEmpty then .error (.config "server host must not be empty")
  else
    let raw := scheme ++ "://" ++ s.host ++ ":" ++ toString s.port ++ path
    match Url.read raw with
    | .ok u => .ok u
    | .error e => .error (.config ("invalid server url '" ++ raw ++ "': " ++ e.message))

def loginUrl (s : Server) : Except Failure Url := s.url s.httpScheme loginPath

def identityUrl (s : Server) : Except Failure Url := s.url s.httpScheme identityPath

def chatUrl (s : Server) (token : Token) : Except Failure Url :=
  match s.url s.socketScheme chatPath with
  | .ok u => .ok (u.withPair "token" token.text)
  | .error f => .error f

end Server

end Parley
