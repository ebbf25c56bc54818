import Parley.Client.Turn
import Parley.Shell.Display
import Parley.Shell.Input
import Parley.Shell.Log
/-! A chat at the prompt. Typed messages and the events of the client are taken in turns, in
whatever order they become ready. Once the input is over the client disconnects, and from then on
only the end of the connection is waited for, and that not for ever: whether it is looked at before
the grace period is over is left open. -/

namespace Parley.Shell

inductive Output where
  | text (s : String)
  | notice (n : Notice)
deriving DecidableEq, Repr

def prompt : String := "> "

def helloText : String := "Type messages and press Enter to send. Press Ctrl+C to exit.\n\n"

structure Talk where
  client : Client
  user : User
  chatId : String
  /-- Events that the client has told and the shell has not yet looked at. -/
  waiting : List Event
  leaving : Bool
  /-- The end of the connection has been looked at. -/
  ended : Bool
  /-- The end has been waited for long enough. -/
  givenUp : Bool
  shown : List Output

inductive Turn where
  | typed (message : String)
  | inputOver
  /-- The input cannot be read on. -/
  | inputBroken
  | hear
  | arrive (octets : List UInt8)
  | hangUp (cut : Socket.Cut := .silence)
  | tick (now : Instant)
  /-- The grace period for the end of the connection is over. -/
  | giveUp
deriving DecidableEq, Repr

namespace Talk

def start (client : Client) (user : User) (chatId : String) (events : List Event) : Talk where
  client := client
  user := user
  chatId := chatId
  waiting := events
  leaving := false
  ended := false
  givenUp := false
  shown := [.text (connectedText user chatId), .text helloText]

def print (t : Talk) (out : List Output) : Talk := { t with shown := t.shown ++ out }

def warn (part text : String) : Output := .notice ⟨.warn, part, text⟩

/-- The notice that goes with an event, as soon as it happens. -/
def noticeOf : Event → List Output
  | .failed (.malformedMessage m) =>
    [warn "comlink_client::client"
      ("Dropping undecodable frame: " ++ (Failure.malformedMessage m).message)]
  | .failed (.transport m) => [warn "comlink_client::connection" ("Connection Error: " ++ m)]
  | _ => []

def tell (t : Talk) (client : Client) (events : List Event) : Talk :=
  { t with
    client := client
    waiting := t.waiting ++ events
    shown := t.shown ++ events.flatMap noticeOf }

def type (t : Talk) (message : String) : Talk :=
  match t.client.send t.chatId message with
  | (.ok (), client, events) =>
    let receipt : List Output := match client.sent.getLast? with
      | some e => [.text ("\n" ++ sentText e.inner.createdAt)]
      | none => []
    (t.tell client events).print (receipt ++ [.text prompt])
  | (.error f, client, events) =>
    (t.tell client events).print
      [warn "comlink_client::cli::session" ("Failed to send message: " ++ f.message), .text prompt]

def brokenNotice : Output :=
  .notice ⟨.error, "comlink_client::cli::session",
    "Readline error: stream did not contain valid UTF-8"⟩

def leave (t : Talk) : Talk :=
  let (client, events) := t.client.disconnect
  { t.tell client events with leaving := true }

def shownOf (t : Talk) : Event → List Output
  | .connected _ => []
  | .message m => [.text (messageText m t.user.id), .text prompt]
  | .failed f => [.text (failureText f), .text prompt]
  | .disconnected code => [.text (closedText code)]

def ends : Event → Bool
  | .disconnected _ => true
  | _ => false

/-- Takes the first event that waits. On the way out only the end of the connection is shown. -/
def hear (t : Talk) : Talk :=
  match t.waiting with
  | [] => t
  | e :: waiting =>
    let t := { t with waiting := waiting, ended := ends e }
    if t.leaving ∧ ¬ ends e then t else t.print (t.shownOf e)

def graceSeconds : Nat := 2

def lapseNotice : Output :=
  warn "comlink_client::cli::session"
    ("Server did not acknowledge close within " ++ toString graceSeconds ++ "s")

def giveUp (t : Talk) : Talk := { t.print [lapseNotice] with givenUp := true }

/-- Nothing is looked at any more. -/
def isOver (t : Talk) : Bool := t.ended || t.givenUp

def connection (t : Talk) : Nat := t.client.sessions.length - 1

def turn (t : Talk) : Turn → Talk
  | .typed message => if t.ended ∨ t.leaving then t else t.type message
  | .inputOver => if t.ended ∨ t.leaving then t else t.leave
  | .inputBroken => if t.ended ∨ t.leaving then t else (t.print [brokenNotice]).leave
  | .hear => if t.isOver then t else t.hear
  | .arrive octets =>
    let (client, events) := t.client.onSession t.connection (·.receive 0 octets)
    t.tell client events
  | .hangUp cut =>
    let (client, events) := t.client.onSession t.connection (·.hangUp 0 cut)
    t.tell client events
  | .tick now => { t with client := { t.client with clock := ⟨now⟩ } }
  | .giveUp => if t.leaving ∧ ¬ t.isOver then t.giveUp else t

def turns (t : Talk) (ts : List Turn) : Talk := ts.foldl turn t

/-- The turns that some lines of input take; one that is no text is the last. -/
def turnsOf (lines : List (List UInt8)) : List Turn :=
  let (messages, broken) := Input.messages lines
  messages.map .typed ++ if broken then [.inputBroken] else []

def hearAll (t : Talk) : Talk := t.turns (t.waiting.map fun _ => .hear)

end Talk

end Parley.Shell
