import Parley.Connection.Reader
/-! One opened connection. Texts and the close frame wait in a queue; a writer takes them off one at
a time and is gone after a close frame, after a fault, or once the phase is closed and nothing
waits. -/

namespace Parley.Connection

open Socket

structure Link where
  queue : List Outbound
  writing : Bool
  reading : Bool
  endpoint : Endpoint
  wire : List Outbound
deriving DecidableEq, Repr

namespace Link

def fresh : Link := ⟨[], true, true, .fresh, []⟩

def enqueue (l : Link) (o : Outbound) : Except Failure Link :=
  if l.writing then .ok { l with queue := l.queue ++ [o] } else .error .notConnected

def send (l : Link) (phase : Phase) (text : String) : Except Failure Link :=
  if phase = .opened then l.enqueue (.text text) else .error .notConnected

/-- One step of the writer. What waits goes first, whatever the phase is. -/
def writeNext (l : Link) (phase : Phase) : Link × List Signal :=
  if ¬ l.writing then (l, [])
  else match l.queue with
    | o :: queue =>
      match l.endpoint.write o with
      | .error fault =>
        ({ l with queue := [], writing := false }, [.failed (.transport fault.message)])
      | .ok (endpoint, written) =>
        ({ l with
            queue := if o.isClose then [] else queue
            writing := !o.isClose
            endpoint := endpoint
            wire := l.wire ++ written }, [])
    | [] => (if phase = .closed then { l with writing := false } else l, [])

/-- A step of the writer on which the system does not let it write. -/
def breakNext (l : Link) (phase : Phase) (reason : String) : Link × List Signal :=
  if l.writing ∧ l.queue ≠ [] then
    ({ l with queue := [], writing := false }, [.failed (.transport (Fault.broken reason).message)])
  else l.writeNext phase

def writeSteps (phase : Phase) : Nat → Link → Link × List Signal
  | 0, l => (l, [])
  | n + 1, l =>
    let (l, signals) := l.writeNext phase
    let (l, more) := writeSteps phase n l
    (l, signals ++ more)

/-- The writer has done all it can: one step for each frame that waits, and one more. -/
def settle (l : Link) (phase : Phase) : Link × List Signal :=
  writeSteps phase (l.queue.length + 1) l

def read (l : Link) (phase : Phase) (items : List Item) : Link × Phase × List Signal :=
  let (reader, signals) := Reader.run ⟨phase, !l.reading⟩ items
  ({ l with reading := !reader.stopped }, reader.phase, signals)

def receive (l : Link) (phase : Phase) (bs : List UInt8) : Link × Phase × List Signal :=
  if ¬ l.reading then (l, phase, [])
  else
    let (endpoint, items) := l.endpoint.receive bs
    let answers := Endpoint.pongs l.endpoint.stage items
    read { l with endpoint := endpoint, wire := l.wire ++ answers } phase items

def hangUp (l : Link) (phase : Phase) (cut : Cut) : Link × Phase × List Signal :=
  if ¬ l.reading then (l, phase, [])
  else read { l with endpoint := l.endpoint.hangUp cut } phase (Endpoint.hangUpItems cut)

end Link

end Parley.Connection
