import Parley.Text.Quoted
/-! Everything that can go wrong for the user of a client, one constructor for each stage that can
fail: the caller's own input, the two calls before the connection, the opening handshake, the open
connection, and the messages on it. -/

namespace Parley

inductive Call where
  | login
  | identity
deriving DecidableEq, Repr

def Call.name : Call → String
  | .login => "LoginError"
  | .identity => "FetchMeError"

inductive Failure where
  | config (text : String)
  | auth (call : Call) (status : Nat) (reason : String)
  | http (text : String)
  | unexpectedResponse (text : String)
  | handshake (text : String)
  | transport (text : String)
  | malformedMessage (text : String)
  | notConnected
  | alreadyConnected
deriving DecidableEq, Repr

namespace Failure

def kind : Failure → String
  | config _ => "Config"
  | auth .. => "Auth"
  | http _ => "Http"
  | unexpectedResponse _ => "UnexpectedResponse"
  | handshake _ => "Handshake"
  | transport _ => "Transport"
  | malformedMessage _ => "MalformedMessage"
  | notConnected => "NotConnected"
  | alreadyConnected => "AlreadyConnected"

def message : Failure → String
  | config t => "Configuration error: " ++ t
  | auth call status reason => call.name ++ " failed: " ++ toString status ++ " " ++ reason
  | http t => "HTTP request failed: " ++ t
  | unexpectedResponse t => "Unexpected response: " ++ t
  | handshake t => "WebSocket handshake failed: " ++ t
  | transport t => "Connection error: " ++ t
  | malformedMessage t => "Malformed message: " ++ t
  | notConnected => "Not connected"
  | alreadyConnected => "Already connected"

/-- The HTTP status behind the failure: only the two calls before the connection have one. -/
def status : Failure → Option Nat
  | auth _ status _ => some status
  | _ => none

def inspect : Failure → String
  | f@(auth call status reason) =>
    f.kind ++ " \x7b endpoint: " ++ Text.quoted call.name ++ ", status: " ++ toString status ++
      ", reason: " ++ Text.quoted reason ++ " \x7d"
  | f@(config t) | f@(http t) | f@(unexpectedResponse t) | f@(handshake t) | f@(transport t)
  | f@(malformedMessage t) => f.kind ++ "(" ++ Text.quoted t ++ ")"
  | f@notConnected | f@alreadyConnected => f.kind

end Failure

end Parley
