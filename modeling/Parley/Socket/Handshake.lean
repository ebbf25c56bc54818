import Parley.Http
import Parley.Network
import Parley.Socket.Frame
/-! The opening of a connection: one request that asks to go on as a socket, and the answer that
agrees to it. What the server sends right behind that answer belongs to the socket. -/

namespace Parley.Socket

open Http

inductive Refusal where
  | target (problem : TargetProblem)
  | scheme
  | route (reason : String)
  | unanswered
  | status (n : Nat)
  | noUpgrade
  | noConnection
  | wrongKey
deriving DecidableEq, Repr

def Refusal.message : Refusal → String
  | .target p => "HTTP format error: " ++ p.message
  | .scheme => "URL error: URL scheme not supported"
  | .route reason => reason
  | .unanswered => protocolText "Handshake not finished"
  | .status n => "HTTP error: " ++ statusText n
  | .noUpgrade => protocolText "No \"Upgrade: websocket\" header"
  | .noConnection => protocolText "No \"Connection: upgrade\" header"
  | .wrongKey => protocolText "Key mismatch in \"Sec-WebSocket-Accept\" header"

def defaultPort : Option String → Option Nat
  | some "ws" => some 80
  | some "wss" => some 443
  | _ => none

def isScheme (scheme : Option String) : Bool := (defaultPort scheme).isSome

def names (header : Option String) (word : String) : Bool :=
  header.any fun s => s.toList.map Char.toLower = word.toList

/-- Agreement, with the octets behind it, or the first thing missing for one. -/
def Refusal.judge : Reply → Except Refusal (List UInt8)
  | .dropped => .error .unanswered
  | .answer a =>
    if a.status ≠ 101 then .error (.status a.status)
    else if ¬ names a.upgrade "websocket" then .error .noUpgrade
    else if ¬ names a.connection "upgrade" then .error .noConnection
    else if ¬ a.provesKey then .error .wrongKey
    else .ok a.body

/-- Shakes hands at a URL. The host is reached before its scheme is looked at, unless the port
depends on that. -/
def handshake (net : Network) (url : Url) (remote : Remote) :
    Except Refusal (List UInt8) × Remote :=
  match Target.ofUrl url with
  | .error p => (.error (.target p), remote)
  | .ok target =>
    match target.port?.or (defaultPort target.scheme) with
    | none => (.error .scheme, remote)
    | some port =>
      match net.route (target.scheme = some "wss") target.host port with
      | .failed reason => (.error (.route reason), remote)
      | .served =>
        if ¬ isScheme target.scheme then (.error .scheme, remote)
        else
          let (reply, remote) := remote.ask ⟨target.path, [], some "websocket"⟩
          (Refusal.judge reply, remote)

end Parley.Socket
