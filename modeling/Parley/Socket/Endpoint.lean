import Parley.Socket.Frame
/-! The client's end of an open connection: octets in, messages out, and the closing of both
directions. A fault ends it at once. A ping is answered on the spot while neither side has closed.
-/

namespace Parley.Socket

open Parley.Text

/-- The codes that never stand in a close frame: none was sent, and there was no close frame. -/
def noStatus : Nat := 1005
def abnormal : Nat := 1006
def normal : Nat := 1000
def protocolViolation : Nat := 1002

def isCloseCode (code : Nat) : Bool :=
  (decide (1000 ≤ code ∧ code ≤ 1013) && !([1004, noStatus, abnormal].contains code)) ||
    decide (3000 ≤ code ∧ code ≤ 4999)

/-- Who has closed so far. It is all over once the server has stopped sending without a close. -/
inductive Stage where
  | active
  | closedByServer
  | closedByClient
  | acknowledged
  | cutOff
deriving DecidableEq, Repr

def Stage.canRead : Stage → Bool
  | .active | .closedByClient => true
  | .closedByServer | .acknowledged | .cutOff => false

/-- How a connection breaks off without a close: the server sends no more, or the system says that
the connection is broken. -/
inductive Cut where
  | silence
  | broken (reason : String)
deriving DecidableEq, Repr

def Cut.fault : Cut → Fault
  | .silence => .reset
  | .broken reason => .broken reason

/-- What the client reads from a connection; `ended` is the end of it. -/
inductive Item where
  | text (s : String)
  | binary (payload : List UInt8)
  | ping (payload : List UInt8)
  | pong (payload : List UInt8)
  | close (code : Option Nat)
  | failed (fault : Fault)
  | ended
deriving DecidableEq, Repr

inductive Outbound where
  | text (s : String)
  | close (code : Nat) (reason : String)
  | pong (payload : List UInt8)
deriving DecidableEq, Repr

def Outbound.isClose : Outbound → Bool
  | .close .. => true
  | _ => false

structure Fragments where
  isText : Bool
  octets : List UInt8
deriving DecidableEq, Repr

structure Endpoint where
  stage : Stage
  unread : List UInt8
  fragments : Option Fragments
deriving DecidableEq, Repr

def Endpoint.fresh : Endpoint := ⟨.active, [], none⟩

def messageLimit : Nat := 64 * 1024 * 1024

def breakText : Break → String
  | .wrong start length =>
    "invalid utf-8 sequence of " ++ toString length ++ " bytes from index " ++ toString start
  | .cut start => "incomplete utf-8 byte sequence from index " ++ toString start

def wholeText (bs : List UInt8) : Except Fault String :=
  match ofOctets? bs with
  | some s => .ok s
  | none => .error (.badText (((firstBreak? bs).map breakText).getD ""))

/-- Octets of a cut-off character, spelled out with their buffer of four. -/
def leftoverText (bs : List UInt8) : String :=
  let cells := (bs ++ List.replicate (4 - bs.length) 0).map fun (b : UInt8) => toString b.toNat
  "incomplete string: Incomplete \x7b buffer: [" ++ ", ".intercalate cells ++ "], buffer_len: " ++
    toString bs.length ++ " \x7d"

namespace Fragments

/-- A text may be cut inside a character, but nothing wrong may be in it. -/
def extend (f : Fragments) (bs : List UInt8) : Except Fault Fragments :=
  let all := f.octets ++ bs
  if messageLimit < all.length then .error (.tooLong all.length messageLimit)
  else match f.isText, firstBreak? all with
    | true, some (.wrong ..) => .error (.badText (String.singleton '\uFFFD'))
    | _, _ => .ok { f with octets := all }

def complete (f : Fragments) : Except Fault Item :=
  if ¬ f.isText then .ok (.binary f.octets)
  else match ofOctets? f.octets with
    | some s => .ok (.text s)
    | none =>
      match firstBreak? f.octets with
      | some (.cut start) => .error (.badText (leftoverText (f.octets.drop start)))
      | _ => .error (.badText "")

end Fragments

/-- The code in the payload of a close frame. What follows it has to be text. -/
def closeCode : List UInt8 → Except Fault (Option Nat)
  | [] => .ok none
  | [_] => .error .badClose
  | a :: b :: reason =>
    match wholeText reason with
    | .ok _ => .ok (some (a.toNat * 256 + b.toNat))
    | .error f => .error f

namespace Endpoint

/-- A close of the server's own gets a code that may be sent; one that answers the client's is taken
as it is. -/
def close (e : Endpoint) (code : Option Nat) : Endpoint × Item :=
  match e.stage with
  | .active =>
    ({ e with stage := .closedByServer },
      .close (code.map fun c => if isCloseCode c then c else protocolViolation))
  | _ => ({ e with stage := .acknowledged }, .close code)

def control (e : Endpoint) (f : Frame) : Except Fault (Endpoint × Option Item) :=
  if ¬ f.final then .error .fragmentedControl
  else if 125 < f.payload.length then .error .controlTooBig
  else match f.opcode with
    | .close =>
      match closeCode f.payload with
      | .error fault => .error fault
      | .ok code =>
        let (e, item) := e.close code
        .ok (e, some item)
    | .ping => .ok (e, some (.ping f.payload))
    | _ => .ok (e, some (.pong f.payload))

def continueWith (e : Endpoint) (parts : Fragments) (f : Frame) :
    Except Fault (Endpoint × Option Item) :=
  match parts.extend f.payload with
  | .error fault => .error fault
  | .ok parts =>
    if f.final then
      match parts.complete with
      | .error fault => .error fault
      | .ok item => .ok ({ e with fragments := none }, some item)
    else .ok ({ e with fragments := some parts }, none)

def data (e : Endpoint) (f : Frame) : Except Fault (Endpoint × Option Item) :=
  match f.opcode, e.fragments with
  | .continuation, some parts => e.continueWith parts f
  | .continuation, none => .error .nothingToContinue
  | found, some _ => .error (.expectedContinuation found)
  | opcode, none =>
    let isText := decide (opcode = .text)
    if ¬ f.final then e.continueWith ⟨isText, []⟩ f
    else if isText then
      match wholeText f.payload with
      | .error fault => .error fault
      | .ok s => .ok (e, some (.text s))
    else .ok (e, some (.binary f.payload))

def accept (e : Endpoint) (f : Frame) : Except Fault (Endpoint × Option Item) :=
  if ¬ e.stage.canRead then .error .afterClosing
  else if f.reserved then .error .reservedBits
  else if f.masked then .error .masked
  else if f.opcode.isControl then e.control f
  else e.data f

/-- Reads until the octets do not hold another frame, or a close or a fault ends the reading. A
frame takes two octets at least, so the number of octets bounds that of the frames. -/
def readFrames : Nat → Endpoint → Endpoint × List Item
  | 0, e => (e, [])
  | n + 1, e =>
    match Frame.read? e.unread with
    | .error fault => (e, [.failed fault, .ended])
    | .ok none => (e, [])
    | .ok (some (f, rest)) =>
      match accept { e with unread := rest } f with
      | .error fault => (e, [.failed fault, .ended])
      | .ok (e, none) => readFrames n e
      | .ok (e, some (.close code)) => (e, [.close code])
      | .ok (e, some item) =>
        let (e, items) := readFrames n e
        (e, item :: items)

def receive (e : Endpoint) (bs : List UInt8) : Endpoint × List Item :=
  let e := { e with unread := e.unread ++ bs }
  readFrames e.unread.length e

def hangUp (e : Endpoint) : Cut → Endpoint
  | .silence => { e with stage := .cutOff }
  | .broken _ => e

def hangUpItems (cut : Cut) : List Item := [.failed cut.fault, .ended]

def pongs (stage : Stage) (items : List Item) : List Outbound :=
  if stage = .active then
    items.filterMap fun
      | .ping payload => some (.pong payload)
      | _ => none
  else []

/-- Writes a frame. Nothing can be written behind a close of either side, no close of one's own
either. -/
def write (e : Endpoint) (o : Outbound) : Except Fault (Endpoint × List Outbound) :=
  match e.stage, o with
  | .active, .close code reason => .ok ({ e with stage := .closedByClient }, [.close code reason])
  | .active, o => .ok (e, [o])
  | .cutOff, _ => .error .alreadyClosed
  | _, _ => .error .sendAfterClosing

end Endpoint

end Parley.Socket
