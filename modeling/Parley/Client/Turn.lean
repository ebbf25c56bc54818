import Parley.Client
/-! Everything that can happen to a client, as values, so that a whole life of one is a list: what
its owner asks of it, what becomes of the listener, and what the server does on any of its
connections. -/

namespace Parley.Client

inductive Action where
  | connect (username password : String) (replies : List Http.Reply)
  | connectWithToken (token : Token) (replies : List Http.Reply)
  | send (chatId text : String)
  | sendThrough (handle : Nat) (text : String)
  | disconnect
  | clear
  /-- The listener goes away. -/
  | deafen
  /-- The client itself goes away. -/
  | drop
  | receive (session : Nat) (octets : List UInt8)
  | hangUp (session : Nat) (cut : Socket.Cut := .silence)
deriving DecidableEq, Repr

structure Turn where
  /-- The user, where the action was a connect. -/
  result : Except Failure (Option User)
  client : Client
  events : List Event
  remote : Http.Remote

def heardBy (audience : Audience) (events : List Event) : List Event :=
  if audience = .listening then events else []

def Turn.ofAttempt (a : Attempt) : Turn := ⟨a.result.map some, a.client, a.events, a.remote⟩

def Turn.ofSend (r : Except Failure Unit × Client × List Event) : Turn :=
  ⟨r.1.map fun _ => none, r.2.1, r.2.2, .ofReplies []⟩

def Turn.quiet (r : Client × List Event) : Turn := ⟨.ok none, r.1, r.2, .ofReplies []⟩

/-- What an action does, whoever listens. Going away closes the connection as a disconnect does. -/
def perform (c : Client) (net : Network) (a : Action) (conduct : Manager.Conduct := .settled) :
    Turn :=
  match a with
  | .connect username password replies =>
    .ofAttempt (c.connect net username password (.ofReplies replies) conduct)
  | .connectWithToken token replies =>
    .ofAttempt (c.connectWithToken net token (.ofReplies replies) conduct)
  | .send chatId text => .ofSend (c.send chatId text conduct)
  | .sendThrough k text => .ofSend (c.sendThrough k text conduct)
  | .disconnect => .quiet (c.disconnect conduct)
  | .clear => .quiet (c.clear, [])
  | .deafen =>
    .quiet ({ c with audience := if c.audience = .silent then .silent else .gone }, [])
  | .drop => .quiet (c.disconnect conduct)
  | .receive k bs => .quiet (c.onSession k (conduct.receive · 0 bs))
  | .hangUp k cut => .quiet (c.onSession k (conduct.hangUp · 0 cut))

def act (c : Client) (net : Network) (a : Action) : Turn :=
  let turn := c.perform net a
  { turn with events := heardBy turn.client.audience turn.events }

def life (net : Network) : Client → List Action → List Turn
  | _, [] => []
  | c, a :: actions =>
    let turn := c.act net a
    turn :: life net turn.client actions

end Parley.Client
