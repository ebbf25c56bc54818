import Parley.Time.Instant
/-! What travels over a chat connection. The server sends messages, each naming its chat and its
author; a client sends envelopes, which carry the author's id and no message id, since the server
gives that out. A chat may hold earlier messages, and these again their chats. -/

namespace Parley

structure User where
  id : String
  name : String
deriving DecidableEq, Repr

/-- A chat room with messages of some type. -/
structure ChatOf (message : Type) where
  id : String
  messages : List message
  participantIds : List String

structure Message where
  id : String
  body : String
  chat : ChatOf Message
  author : User
  createdAt : Instant

abbrev Chat := ChatOf Message

mutual

def Message.decEq : (m n : Message) → Decidable (m = n)
  | ⟨id, body, ⟨chatId, messages, participantIds⟩, author, createdAt⟩,
    ⟨id', body', ⟨chatId', messages', participantIds'⟩, author', createdAt'⟩ =>
    have := Message.decEqs messages messages'
    decidable_of_iff
      ((id = id' ∧ body = body') ∧ (chatId = chatId' ∧ messages = messages' ∧
        participantIds = participantIds') ∧ author = author' ∧ createdAt = createdAt')
      (by simp [and_assoc])

def Message.decEqs : (ms ns : List Message) → Decidable (ms = ns)
  | [], [] => isTrue rfl
  | [], _ :: _ => isFalse nofun
  | _ :: _, [] => isFalse nofun
  | m :: ms, n :: ns =>
    have := Message.decEq m n
    have := Message.decEqs ms ns
    decidable_of_iff (m = n ∧ ms = ns) (by simp)

end

instance : DecidableEq Message := Message.decEq

structure Outgoing where
  authorId : String
  chatId : String
  body : String
  createdAt : Instant
deriving DecidableEq, Repr

structure Envelope where
  inner : Outgoing
deriving DecidableEq, Repr

/-- An envelope always has an author, since it takes a whole user to make one. -/
def Envelope.seal (author : User) (chatId body : String) (createdAt : Instant) : Envelope :=
  ⟨{ authorId := author.id, chatId := chatId, body := body, createdAt := createdAt }⟩

end Parley
