import Parley.Client.Turn
/-! A client whose connections go on when they like. What its owner asks of it and what the server
does is done by itself, and the writers of the connections take their steps in between. -/

namespace Parley.Client

inductive Move where
  | act (a : Action)
  | write (session : Nat)
  /-- The system does not let the writer write. -/
  | breakWrite (session : Nat) (reason : String)
deriving DecidableEq, Repr

def move (c : Client) (net : Network) : Move → Turn
  | .act a => c.perform net a .loose
  | .write k => .quiet (c.onSession k (·.write 0))
  | .breakWrite k reason => .quiet (c.onSession k (·.breakWrite 0 reason))

end Parley.Client
