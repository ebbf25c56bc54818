import Parley.Http.Target
/-! How far a client gets on its way to a host: either somebody answers there, or no connection
comes about and the system says why. Which of the two it is, is not the client's to decide, so a
network is a parameter of everything that connects. -/

namespace Parley

inductive Route where
  | served
  | failed (reason : String)
deriving DecidableEq, Repr

/-- Nothing listens at the port. -/
def Route.refused : Route := .failed "IO error: Connection refused (os error 111)"

def Route.unreachable : Route := .failed "IO error: Network is unreachable (os error 101)"

structure Network where
  route : (secure : Bool) → (host : String) → (port : Nat) → Route

def Network.none : Network := ⟨fun _ _ _ => .unreachable⟩

end Parley
