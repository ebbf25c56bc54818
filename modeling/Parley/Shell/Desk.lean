import Parley.Shell.Program
/-! A talk and the reader beside it. The reader takes the lines of the input one after the other and
puts the messages in them into a channel; the talk takes from that channel, looks at events, and
leaves once the channel has come to its end, which it does with the reader. Which of them moves
next, and when the server does something, is open. So is what the line editor makes of a line. -/

namespace Parley.Shell

structure Desk where
  /-- The lines that have not been read. -/
  unread : List (List UInt8)
  reading : Bool
  /-- The messages in the channel. -/
  queue : List String
  talk : Talk

inductive Move where
  /-- The reader takes a line, or finds that the input is over. -/
  | read
  /-- The talk takes from the channel. -/
  | take
  | hear
  | arrive (octets : List UInt8)
  | hangUp (cut : Socket.Cut := .silence)
  | tick (now : Instant)
  /-- The talk has waited for the end of the connection as long as it may. -/
  | giveUp
deriving DecidableEq

namespace Desk

def start (talk : Talk) (input : List UInt8) : Desk := ⟨Input.lines input, true, [], talk⟩

/-- A line that is no text ends the reading. -/
def read (editor : String → String) (d : Desk) : Desk :=
  if ¬ d.reading then d
  else match d.unread with
    | [] => { d with reading := false }
    | l :: ls =>
      match Text.ofOctets? l with
      | none =>
        { d with unread := [], reading := false, talk := d.talk.print [Talk.brokenNotice] }
      | some s => { d with unread := ls, queue := d.queue ++ (Input.message? (editor s)).toList }

/-- An empty channel is waited on for as long as the reader is at work. -/
def take (d : Desk) : Desk :=
  if d.talk.ended ∨ d.talk.leaving then d
  else match d.queue with
    | message :: queue => { d with queue := queue, talk := d.talk.turn (.typed message) }
    | [] => if d.reading then d else { d with talk := d.talk.turn .inputOver }

def step (editor : String → String) (d : Desk) : Move → Desk
  | .read => d.read editor
  | .take => d.take
  | .hear => { d with talk := d.talk.turn .hear }
  | .arrive octets => { d with talk := d.talk.turn (.arrive octets) }
  | .hangUp cut => { d with talk := d.talk.turn (.hangUp cut) }
  | .tick now => { d with talk := d.talk.turn (.tick now) }
  | .giveUp => { d with talk := d.talk.turn .giveUp }

def run (editor : String → String) (d : Desk) (moves : List Move) : Desk :=
  moves.foldl (step editor) d

/-- The program ends with its talk, and does not wait for the reader. -/
def finish (s : Setup) (now : Instant) (d : Desk) : Option Finish :=
  if d.talk.isOver then some (s.finish d.talk now) else none

end Desk

end Parley.Shell
