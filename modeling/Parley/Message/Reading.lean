import Parley.Json.Record
import Parley.Message
import Parley.Time.Reading
/-! Messages and envelopes read from JSON. A draft holds the fields that have been seen. Only a chat
has fields that may be absent: its earlier messages and its participants, and the latter go by two
names. A reader takes the number of containers that may still be opened inside each other. -/

namespace Parley

open Json

def instantReader : Reader Instant :=
  stringWith "an RFC 3339 formatted date and time string" fun s =>
    match Instant.ofText s with
    | .ok t => .ok t
    | .error e => .error e.message

/-- The value of a field that must be there. -/
def present {α : Type} (name : String) : Option α → Except String α
  | some a => .ok a
  | none => .error name

/-- A field read by `reader` into a draft. -/
def field {draft α : Type} (name : String) (get : draft → Option α) (set : draft → α → draft)
    (reader : Reader α) : Slot draft where
  name := name
  otherName := none
  required := true
  filled d := (get d).isSome
  read d cs :=
    match reader cs with
    | .ok (a, rest) => .ok (set d a, rest)
    | .error e => .error e

structure User.Draft where
  id : Option String := none
  name : Option String := none

def User.schema : Schema User.Draft User where
  slots :=
    [field "id" Draft.id (fun d s => { d with id := some s }) string,
      field "name" Draft.name (fun d s => { d with name := some s }) string]
  blank := {}
  finish d := do
    let id ← present "id" d.id
    let name ← present "name" d.name
    return ⟨id, name⟩

def User.reader : Nat → Reader User
  | 0 => record "struct User" (none : Option (Schema User.Draft User))
  | _ + 1 => record "struct User" (some User.schema)

structure Chat.Draft where
  id : Option String := none
  messages : Option (List Message) := none
  participantIds : Option (List String) := none

def Chat.schema (messages : Reader (List Message)) (participantIds : Reader (List String)) :
    Schema Chat.Draft Chat where
  slots :=
    [field "id" Draft.id (fun d s => { d with id := some s }) string,
      { field "messages" Draft.messages (fun d ms => { d with messages := some ms }) messages with
        required := false },
      { field "participants_ids" Draft.participantIds
          (fun d ps => { d with participantIds := some ps }) participantIds with
        otherName := some "participant_ids", required := false }]
  blank := {}
  finish d := do
    let id ← present "id" d.id
    return ⟨id, d.messages.getD [], d.participantIds.getD []⟩

structure Message.Draft where
  id : Option String := none
  body : Option String := none
  chat : Option Chat := none
  author : Option User := none
  createdAt : Option Instant := none

def Message.schema (chat : Reader Chat) (author : Reader User) : Schema Message.Draft Message where
  slots :=
    [field "id" Draft.id (fun d s => { d with id := some s }) string,
      field "body" Draft.body (fun d s => { d with body := some s }) string,
      field "chat" Draft.chat (fun d c => { d with chat := some c }) chat,
      field "author" Draft.author (fun d u => { d with author := some u }) author,
      field "created_at" Draft.createdAt (fun d t => { d with createdAt := some t }) instantReader]
  blank := {}
  finish d := do
    let id ← present "id" d.id
    let body ← present "body" d.body
    let chat ← present "chat" d.chat
    let author ← present "author" d.author
    let createdAt ← present "created_at" d.createdAt
    return ⟨id, body, chat, author, createdAt⟩

/-- A list of texts. -/
def textsReader : Nat → Reader (List String)
  | 0 => list none
  | _ + 1 => list (some string)

mutual

def Message.reader : Nat → Reader Message
  | 0 => record "struct Message" (none : Option (Schema Message.Draft Message))
  | n + 1 => record "struct Message" (some (Message.schema (Chat.reader n) (User.reader n)))

def Chat.reader : Nat → Reader Chat
  | 0 => record "struct Chat" (none : Option (Schema Chat.Draft Chat))
  | n + 1 => record "struct Chat" (some (Chat.schema (Message.listReader n) (textsReader n)))

def Message.listReader : Nat → Reader (List Message)
  | 0 => list none
  | n + 1 => list (some (Message.reader n))

end

structure Outgoing.Draft where
  authorId : Option String := none
  chatId : Option String := none
  body : Option String := none
  createdAt : Option Instant := none

def Outgoing.schema : Schema Outgoing.Draft Outgoing where
  slots :=
    [field "author_id" Draft.authorId (fun d s => { d with authorId := some s }) string,
      field "chat_id" Draft.chatId (fun d s => { d with chatId := some s }) string,
      field "body" Draft.body (fun d s => { d with body := some s }) string,
      field "created_at" Draft.createdAt (fun d t => { d with createdAt := some t }) instantReader]
  blank := {}
  finish d := do
    let authorId ← present "author_id" d.authorId
    let chatId ← present "chat_id" d.chatId
    let body ← present "body" d.body
    let createdAt ← present "created_at" d.createdAt
    return ⟨authorId, chatId, body, createdAt⟩

def Outgoing.reader : Nat → Reader Outgoing
  | 0 => record "struct InnerMessage" (none : Option (Schema Outgoing.Draft Outgoing))
  | _ + 1 => record "struct InnerMessage" (some Outgoing.schema)

structure Envelope.Draft where
  inner : Option Outgoing := none

def Envelope.schema (inner : Reader Outgoing) : Schema Envelope.Draft Envelope where
  slots := [field "inner" Draft.inner (fun d o => { d with inner := some o }) inner]
  blank := {}
  finish d := do return ⟨← present "inner" d.inner⟩

def Envelope.reader : Nat → Reader Envelope
  | 0 => record "struct OutgoingEnvelope" (none : Option (Schema Envelope.Draft Envelope))
  | n + 1 => record "struct OutgoingEnvelope" (some (Envelope.schema (Outgoing.reader n)))

end Parley
