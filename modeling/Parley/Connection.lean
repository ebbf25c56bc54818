import Parley.Connection.Link
import Parley.Socket.Handshake
/-! A manager of connections to a server, at most one of which it can send on and close. All
connections it ever opened share its one phase: each of them closes it when it ends, and each of
them passes on texts while it is open. -/

namespace Parley

open Connection

structure Manager where
  phase : Phase
  /-- The connection to send on and to close: the one opened last, until it is closed. -/
  held : Option Nat
  links : List Link
deriving DecidableEq, Repr

namespace Manager

def fresh : Manager := ⟨.idle, none, []⟩

structure Turn where
  result : Except Failure Unit
  manager : Manager
  signals : List Signal
  remote : Http.Remote

def settle (m : Manager) : Manager × List Signal :=
  let settled := m.links.map (·.settle m.phase)
  ({ m with links := settled.map (·.1) }, settled.flatMap (·.2))

def onLink (m : Manager) (k : Nat) (f : Link → Phase → Link × Phase × List Signal) :
    Manager × List Signal :=
  match m.links[k]? with
  | none => (m, [])
  | some l =>
    let (l, phase, signals) := f l m.phase
    let (m, more) := settle { m with phase := phase, links := m.links.set k l }
    (m, signals ++ more)

def receive (m : Manager) (k : Nat) (bs : List UInt8) : Manager × List Signal :=
  m.onLink k fun l phase => l.receive phase bs

def hangUp (m : Manager) (k : Nat) (cut : Socket.Cut) : Manager × List Signal :=
  m.onLink k fun l phase => l.hangUp phase cut

def begin (m : Manager) : Manager := { m with phase := .connecting }

def giveUp (m : Manager) (reason : String) : Except Failure Unit × Manager × List Signal :=
  (.error (.handshake reason), { m with phase := .closed }, [.failed (.handshake reason)])

/-- The handshake is over, and the server may have sent octets behind it already. Nothing of them is
passed on before the opening. -/
def establish (m : Manager) (greeting : List UInt8) :
    Except Failure Unit × Manager × List Signal :=
  let k := m.links.length
  let (m, signals) := receive ⟨.opened, some k, m.links ++ [.fresh]⟩ k greeting
  (.ok (), m, .opened :: signals)

/-- Opens a connection. While one is there or on its way, nothing happens at all. -/
def dial (m : Manager) (net : Network) (url : Url) (remote : Http.Remote)
    (establish : Manager → List UInt8 → Except Failure Unit × Manager × List Signal :=
      Manager.establish) :
    Turn :=
  if m.phase.isLive then ⟨.error .alreadyConnected, m, [], remote⟩
  else match Socket.handshake net url remote with
    | (.error refusal, remote) =>
      let (result, m, signals) := m.begin.giveUp refusal.message
      ⟨result, m, signals, remote⟩
    | (.ok greeting, remote) =>
      let (result, m, signals) := establish m.begin greeting
      ⟨result, m, signals, remote⟩

/-- Sends through the handle of one of the connections, which looks at the shared phase. -/
def sendThrough (m : Manager) (k : Nat) (text : String) :
    Except Failure Unit × Manager × List Signal :=
  match m.links[k]? with
  | none => (.error .notConnected, m, [])
  | some l =>
    match l.send m.phase text with
    | .error f => (.error f, m, [])
    | .ok l =>
      let (m, signals) := settle { m with links := m.links.set k l }
      (.ok (), m, signals)

def send (m : Manager) (text : String)
    (sendThrough : Manager → Nat → String → Except Failure Unit × Manager × List Signal :=
      Manager.sendThrough) : Except Failure Unit × Manager × List Signal :=
  match m.held with
  | none => (.error .notConnected, m, [])
  | some k => sendThrough m k text

def enqueueClose (m : Manager) (k : Nat) : Manager :=
  match m.links[k]? with
  | none => m
  | some l =>
    match l.enqueue (.close Socket.normal "") with
    | .ok l => { m with links := m.links.set k l }
    | .error _ => m

/-- Closes the held connection. Its close frame is sent only while the phase is open. -/
def close (m : Manager) : Manager × List Signal :=
  match m.held with
  | none => (m, [])
  | some k =>
    let m := if m.phase = .opened then m.enqueueClose k else m
    settle { m with phase := .closed, held := none }

inductive Action where
  | dial (url : Url) (replies : List Http.Reply)
  | send (text : String)
  | sendThrough (handle : Nat) (text : String)
  | close
  | receive (link : Nat) (octets : List UInt8)
  | hangUp (link : Nat) (cut : Socket.Cut := .silence)
deriving DecidableEq, Repr

/-- Does one action and lets everything settle. A manager that goes away closes first. -/
def act (m : Manager) (net : Network) (a : Action) : Turn :=
  let plain (r : Except Failure Unit × Manager × List Signal) : Turn :=
    ⟨r.1, r.2.1, r.2.2, .ofReplies []⟩
  let quiet (r : Manager × List Signal) : Turn := plain (.ok (), r)
  match a with
  | .dial url replies => m.dial net url (.ofReplies replies)
  | .send text => plain (m.send text)
  | .sendThrough k text => plain (m.sendThrough k text)
  | .close => quiet m.close
  | .receive k bs => quiet (m.receive k bs)
  | .hangUp k cut => quiet (m.hangUp k cut)

def life (net : Network) : Manager → List Action → List Turn
  | _, [] => []
  | m, a :: actions =>
    let turn := m.act net a
    turn :: life net turn.manager actions

end Manager

end Parley
