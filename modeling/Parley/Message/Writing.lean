import Parley.Json.Writing
import Parley.Message
import Parley.Time.Notation
/-! Messages and envelopes as JSON, every field written out under its own name and in one order. -/

namespace Parley

open Json

def User.value (u : User) : Value := .object [("id", .text u.id), ("name", .text u.name)]

mutual

def Message.value : Message → Value
  | ⟨id, body, ⟨chatId, messages, participantIds⟩, author, createdAt⟩ =>
    .object
      [("id", .text id), ("body", .text body),
        ("chat", .object
          [("id", .text chatId), ("messages", .list (Message.values messages)),
            ("participants_ids", .list (participantIds.map .text))]),
        ("author", author.value), ("created_at", .text createdAt.toText)]

def Message.values : List Message → List Value
  | [] => []
  | m :: ms => m.value :: Message.values ms

end

def Chat.value (c : Chat) : Value :=
  .object
    [("id", .text c.id), ("messages", .list (Message.values c.messages)),
      ("participants_ids", .list (c.participantIds.map .text))]

def Outgoing.value (o : Outgoing) : Value :=
  .object
    [("author_id", .text o.authorId), ("chat_id", .text o.chatId), ("body", .text o.body),
      ("created_at", .text o.createdAt.toText)]

def Envelope.value (e : Envelope) : Value := .object [("inner", e.inner.value)]

end Parley
