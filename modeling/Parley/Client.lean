import Parley.Connection.Tasks
import Parley.Frame
import Parley.Server.Calls
/-! A chat client: login, identity and connection in one, with a log of what was sent and of what
was received. Every successful connect opens a connection under a manager of its own, so the end of
an earlier connection leaves the current one alone. -/

namespace Parley

inductive Event where
  | connected (user : User)
  | message (m : Message)
  | failed (f : Failure)
  | disconnected (code : Nat)

/-- Who listens: somebody, somebody who has gone, or from the start nobody. -/
inductive Audience where
  | listening
  | gone
  | silent
deriving DecidableEq, Repr

structure Session where
  user : User
  manager : Manager

structure Client where
  server : Server
  clock : FixedClock
  audience : Audience
  /-- Every connection that was opened, the current one last. -/
  sessions : List Session
  token : Option Token
  user : Option User
  sent : List Envelope
  received : List Message

namespace Client

open Manager (Conduct)

def fresh (server : Server) (clock : FixedClock) (audience : Audience) : Client :=
  ⟨server, clock, audience, [], none, none, [], []⟩

def phase (c : Client) : Phase := (c.sessions.getLast?.map (·.manager.phase)).getD .idle

structure Attempt where
  result : Except Failure User
  client : Client
  events : List Event
  remote : Http.Remote

/-- What one signal of a connection becomes. Only texts that are messages enter the log. -/
def hearOne (c : Client) (user : User) : Signal → Client × Event
  | .opened => (c, .connected user)
  | .text s =>
    match Message.ofFrame s with
    | .ok m => ({ c with received := c.received ++ [m] }, .message m)
    | .error f => (c, .failed f)
  | .failed f => (c, .failed f)
  | .closed code => (c, .disconnected code)

def hear (c : Client) (user : User) : List Signal → Client × List Event
  | [] => (c, [])
  | s :: signals =>
    let (c, event) := c.hearOne user s
    let (c, events) := c.hear user signals
    (c, event :: events)

def onSession (c : Client) (k : Nat) (f : Manager → Manager × List Signal) :
    Client × List Event :=
  match c.sessions[k]? with
  | none => (c, [])
  | some s =>
    let (m, signals) := f s.manager
    hear { c with sessions := c.sessions.set k { s with manager := m } } s.user signals

def closeLast (c : Client) (conduct : Conduct := .settled) : Client × List Event :=
  c.onSession (c.sessions.length - 1) conduct.close

/-- The identity of the token's owner, and then the connection. The session before has ended by now.
-/
def openWith (c : Client) (net : Network) (token : Token) (remote : Http.Remote)
    (conduct : Conduct := .settled) : Attempt :=
  match c.server.identify net token remote with
  | (.error f, remote) => ⟨.error f, c, [], remote⟩
  | (.ok user, remote) =>
    match c.server.chatUrl token with
    | .error f => ⟨.error f, c, [], remote⟩
    | .ok url =>
      let turn := Manager.fresh.dial net url remote conduct.establish
      let (heard, events) := c.hear user turn.signals
      match turn.result with
      | .error f => ⟨.error f, heard, events, turn.remote⟩
      | .ok () =>
        let (closed, more) := heard.closeLast conduct
        let client := {
          closed with
          sessions := closed.sessions ++ [⟨user, turn.manager⟩]
          token := some token
          user := some user }
        ⟨.ok user, client, events ++ more, turn.remote⟩

def connect (c : Client) (net : Network) (username password : String) (remote : Http.Remote)
    (conduct : Conduct := .settled) : Attempt :=
  match Credentials.make username password with
  | .error f => ⟨.error f, c, [], remote⟩
  | .ok credentials =>
    if c.phase.isLive then ⟨.error .alreadyConnected, c, [], remote⟩
    else match c.server.login net credentials remote with
      | (.error f, remote) => ⟨.error f, c, [], remote⟩
      | (.ok token, remote) => c.openWith net token remote conduct

def connectWithToken (c : Client) (net : Network) (token : Token) (remote : Http.Remote)
    (conduct : Conduct := .settled) : Attempt :=
  if token.isEmpty then ⟨.error (.config "token must not be empty"), c, [], remote⟩
  else if c.phase.isLive then ⟨.error .alreadyConnected, c, [], remote⟩
  else c.openWith net token remote conduct

def disconnect (c : Client) (conduct : Conduct := .settled) : Client × List Event :=
  let (c, events) := c.closeLast conduct
  ({ c with token := none, user := none }, events)

def sendOn (c : Client) (k : Nat) (f : Manager → Except Failure Unit × Manager × List Signal) :
    Except Failure Unit × Client × List Event :=
  match c.sessions[k]? with
  | none => (.error .notConnected, c, [])
  | some s =>
    let (result, m, signals) := f s.manager
    (result, hear { c with sessions := c.sessions.set k { s with manager := m } } s.user signals)

/-- Sends through the handle of one connection. Nothing of it is logged. -/
def sendThrough (c : Client) (k : Nat) (text : String) (conduct : Conduct := .settled) :
    Except Failure Unit × Client × List Event :=
  c.sendOn k (conduct.sendThrough · 0 text)

def send (c : Client) (chatId text : String) (conduct : Conduct := .settled) :
    Except Failure Unit × Client × List Event :=
  match c.user with
  | none => (.error .notConnected, c, [])
  | some user =>
    if c.phase ≠ .opened then (.error .notConnected, c, [])
    else
      let envelope := Envelope.seal user chatId text c.clock.now
      match c.sendOn (c.sessions.length - 1) (·.send envelope.toFrame conduct.sendThrough) with
      | (.error f, c, events) => (.error f, c, events)
      | (.ok (), c, events) => (.ok (), { c with sent := c.sent ++ [envelope] }, events)

def clear (c : Client) : Client := { c with sent := [], received := [] }

end Client

end Parley
