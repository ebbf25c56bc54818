import Parley.Text.Utf8
/-! Frames: what the octets of a connection are cut into. A frame opens with two octets, may go on
with a longer length and a mask, and holds its payload last. Everything that can be wrong on a
connection is named here, with the one text for it. -/

namespace Parley.Socket

inductive Opcode where
  | continuation
  | text
  | binary
  | close
  | ping
  | pong
deriving DecidableEq, Repr

def Opcode.ofNat? : Nat → Option Opcode
  | 0 => some .continuation
  | 1 => some .text
  | 2 => some .binary
  | 8 => some .close
  | 9 => some .ping
  | 10 => some .pong
  | _ => none

def Opcode.toNat : Opcode → Nat
  | .continuation => 0
  | .text => 1
  | .binary => 2
  | .close => 8
  | .ping => 9
  | .pong => 10

def Opcode.isControl (o : Opcode) : Bool := decide (8 ≤ o.toNat)

def Opcode.name : Opcode → String
  | .continuation => "CONTINUE"
  | .text => "TEXT"
  | .binary => "BINARY"
  | .close => "CLOSE"
  | .ping => "PING"
  | .pong => "PONG"

inductive Fault where
  | badOpcode (n : Nat)
  | tooLong (size most : Nat)
  | afterClosing
  | reservedBits
  | masked
  | fragmentedControl
  | controlTooBig
  | nothingToContinue
  | expectedContinuation (found : Opcode)
  | badClose
  | badText (reason : String)
  | reset
  | sendAfterClosing
  | alreadyClosed
  /-- The system says that the connection is broken. -/
  | broken (reason : String)
deriving DecidableEq, Repr

def protocolText (s : String) : String := "WebSocket protocol error: " ++ s

def Fault.message : Fault → String
  | .badOpcode n => protocolText ("Encountered invalid opcode: " ++ toString n)
  | .tooLong size most =>
    "Space limit exceeded: Message too long: " ++ toString size ++ " > " ++ toString most
  | .afterClosing => protocolText "Remote sent after having closed"
  | .reservedBits => protocolText "Reserved bits are non-zero"
  | .masked => protocolText "Received a masked frame from server"
  | .fragmentedControl => protocolText "Fragmented control frame"
  | .controlTooBig =>
    protocolText "Control frame too big (payload must be 125 bytes or less)"
  | .nothingToContinue => protocolText "Continue frame but nothing to continue"
  | .expectedContinuation found =>
    protocolText ("While waiting for more fragments received: " ++ found.name)
  | .badClose => protocolText "Invalid close sequence"
  | .badText reason => "UTF-8 encoding error: " ++ reason
  | .reset => protocolText "Connection reset without closing handshake"
  | .sendAfterClosing => protocolText "Sending after closing is not allowed"
  | .alreadyClosed => "Trying to work with closed connection"
  | .broken reason => "IO error: " ++ reason

structure Frame where
  final : Bool
  reserved : Bool
  opcode : Opcode
  masked : Bool
  payload : List UInt8
deriving DecidableEq, Repr

def frameLimit : Nat := 16 * 1024 * 1024

def ofBigEndian (bs : List UInt8) : Nat := bs.foldl (fun n b => n * 256 + b.toNat) 0

def lengthWidth (second : UInt8) : Nat :=
  match second.toNat % 128 with
  | 126 => 2
  | 127 => 8
  | _ => 0

namespace Frame

/-- The first frame and what follows it; none while octets of it are missing. A bad opcode and a
length over the limit show as soon as the head is there. -/
def read? : List UInt8 → Except Fault (Option (Frame × List UInt8))
  | first :: second :: rest =>
    let width := lengthWidth second
    let masked := decide (128 ≤ second.toNat)
    let before := width + if masked then 4 else 0
    if rest.length < before then .ok none
    else match Opcode.ofNat? (first.toNat % 16) with
      | none => .error (.badOpcode (first.toNat % 16))
      | some opcode =>
        let length := if width = 0 then second.toNat % 128 else ofBigEndian (rest.take width)
        let body := rest.drop before
        if frameLimit < length then .error (.tooLong length frameLimit)
        else if body.length < length then .ok none
        else
          let frame := {
            final := decide (128 ≤ first.toNat)
            reserved := decide (first.toNat / 16 % 8 ≠ 0)
            opcode := opcode
            masked := masked
            payload := body.take length }
          .ok (some (frame, body.drop length))
  | _ => .ok none

def lengthOctets (n : Nat) : List UInt8 :=
  if n < 126 then [n.toUInt8]
  else if n < 65536 then [126, (n / 256).toUInt8, n.toUInt8]
  else 127 :: (List.range 8).reverse.map fun i => (n / Nat.pow 256 i).toUInt8

/-- A frame without a mask whose first octet is given as it is. -/
def raw (first : UInt8) (payload : List UInt8) : List UInt8 :=
  first :: lengthOctets payload.length ++ payload

def octets (opcode : Opcode) (payload : List UInt8) : List UInt8 :=
  raw (128 + opcode.toNat).toUInt8 payload

end Frame

end Parley.Socket
