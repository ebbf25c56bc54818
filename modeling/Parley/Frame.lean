import Parley.Failure
import Parley.Message.Reading
import Parley.Message.Writing
/-! Text frames. A received frame is a message in JSON with an id that is not empty; a sent frame is
an envelope in JSON. -/

namespace Parley

open Json

def Envelope.toFrame (e : Envelope) : String := e.value.render

def Message.ofFrame (frame : String) : Except Failure Message :=
  match readText (Message.reader depthLimit) frame with
  | .error r => .error (.malformedMessage r.message)
  | .ok m =>
    if m.id.isEmpty then .error (.malformedMessage "message id must not be empty") else .ok m

def Envelope.ofFrame (frame : String) : Except Failure Envelope :=
  match readText (Envelope.reader depthLimit) frame with
  | .error r => .error (.malformedMessage r.message)
  | .ok e => .ok e

end Parley
