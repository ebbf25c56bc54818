import Parley.Connection
/-! The operations of a manager by themselves, with nothing settled behind them. A text and the
close frame are left in the queue, what the server has sent behind its answer is left unread, and
the reader and the writer of each connection go on when they like. -/

namespace Parley.Manager

open Connection

def offer (m : Manager) (k : Nat) (text : String) : Except Failure Unit × Manager :=
  match m.links[k]? with
  | none => (.error .notConnected, m)
  | some l =>
    match l.send m.phase text with
    | .error f => (.error f, m)
    | .ok l => (.ok (), { m with links := m.links.set k l })

/-- Lets go of the held connection: its close frame waits with the rest, but the phase is closed. -/
def release (m : Manager) : Manager :=
  match m.held with
  | none => m
  | some k =>
    { (if m.phase = .opened then m.enqueueClose k else m) with phase := .closed, held := none }

def onTask (m : Manager) (k : Nat) (f : Link → Phase → Link × Phase × List Signal) :
    Manager × List Signal :=
  match m.links[k]? with
  | none => (m, [])
  | some l => ({ m with phase := (f l m.phase).2.1, links := m.links.set k (f l m.phase).1 },
      (f l m.phase).2.2)

def write (m : Manager) (k : Nat) : Manager × List Signal :=
  m.onTask k fun l phase => ((l.writeNext phase).1, phase, (l.writeNext phase).2)

def breakWrite (m : Manager) (k : Nat) (reason : String) : Manager × List Signal :=
  m.onTask k fun l phase => ((l.breakNext phase reason).1, phase, (l.breakNext phase reason).2)

/-- A reader takes in what is still unread before it sees that the connection breaks off. -/
def breakOff (m : Manager) (k : Nat) (cut : Socket.Cut) : Manager × List Signal :=
  m.onTask k fun l phase =>
    let (l, phase, signals) := l.receive phase []
    let (l, phase, more) := l.hangUp phase cut
    (l, phase, signals ++ more)

/-- The handshake is over. What the server has sent behind its answer waits for the reader. -/
def embark (m : Manager) (greeting : List UInt8) : Except Failure Unit × Manager × List Signal :=
  let l : Link := { Link.fresh with endpoint := { Socket.Endpoint.fresh with unread := greeting } }
  (.ok (), ⟨.opened, some m.links.length, m.links ++ [l]⟩, [.opened])

structure Conduct where
  establish : Manager → List UInt8 → Except Failure Unit × Manager × List Signal
  sendThrough : Manager → Nat → String → Except Failure Unit × Manager × List Signal
  close : Manager → Manager × List Signal
  receive : Manager → Nat → List UInt8 → Manager × List Signal
  hangUp : Manager → Nat → Socket.Cut → Manager × List Signal

namespace Conduct

/-- Everything settles before anything else happens. -/
def settled : Conduct where
  establish := Manager.establish
  sendThrough := Manager.sendThrough
  close := Manager.close
  receive := Manager.receive
  hangUp := Manager.hangUp

@[simp] theorem settled_establish : settled.establish = Manager.establish := rfl

@[simp] theorem settled_sendThrough : settled.sendThrough = Manager.sendThrough := rfl

@[simp] theorem settled_close : settled.close = Manager.close := rfl

@[simp] theorem settled_receive : settled.receive = Manager.receive := rfl

@[simp] theorem settled_hangUp : settled.hangUp = Manager.hangUp := rfl

/-- Everything else goes on when it likes. -/
def loose : Conduct where
  establish := embark
  sendThrough m k text := ((m.offer k text).1, (m.offer k text).2, [])
  close m := (m.release, [])
  receive m k bs := m.onTask k fun l phase => l.receive phase bs
  hangUp := breakOff

end Conduct

end Parley.Manager
