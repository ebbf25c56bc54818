import Parley.Failure
import Parley.Socket.Endpoint
/-! The reading side of a connection. It passes on texts while the phase allows it, passes on faults
at all times, and stops at the first close or end, which closes the phase. -/

namespace Parley

inductive Phase where
  | idle
  | connecting
  | opened
  | closed
deriving DecidableEq, Repr

def Phase.name : Phase → String
  | .idle => "Idle"
  | .connecting => "Connecting"
  | .opened => "Open"
  | .closed => "Closed"

def Phase.isLive : Phase → Bool
  | .connecting | .opened => true
  | .idle | .closed => false

inductive Signal where
  | opened
  | text (s : String)
  | failed (f : Failure)
  | closed (code : Nat)
deriving DecidableEq, Repr

namespace Connection

/-- A reader and the phase it shares with others, who may close it as well. -/
structure Reader where
  phase : Phase
  stopped : Bool
deriving DecidableEq, Repr

namespace Reader

def stop (_ : Reader) (code : Nat) : Reader × List Signal := (⟨.closed, true⟩, [.closed code])

/-- The code of an end without a close frame, and that of a close frame without a code, are fixed.
-/
def step (r : Reader) (item : Socket.Item) : Reader × List Signal :=
  if r.stopped then (r, [])
  else match item with
    | .text s => (r, if r.phase = .opened then [.text s] else [])
    | .close code => r.stop (code.getD Socket.noStatus)
    | .ended => r.stop Socket.abnormal
    | .failed fault => (r, [.failed (.transport fault.message)])
    | .binary _ | .ping _ | .pong _ => (r, [])

def run (r : Reader) : List Socket.Item → Reader × List Signal
  | [] => (r, [])
  | item :: items =>
    let (r, signals) := r.step item
    let (r, more) := r.run items
    (r, signals ++ more)

end Reader

end Connection

end Parley
