import Parley.Failure
import Parley.Message
import Parley.Time.Notation
/-! What the shell prints: the banner of an open connection, messages between two rules, the receipt
of a sent line, errors, and the end of the chat. -/

namespace Parley.Shell

def rule (c : Char) : String := String.ofList (List.replicate 60 c)

def connectedText (user : User) (chatId : String) : String :=
  "\n" ++ rule '=' ++ "\nConnected with success as " ++ user.name ++ "\nUser ID: " ++ user.id ++
    "\nChat ID: " ++ chatId ++ "\n" ++ rule '=' ++ "\n"

/-- The user's own messages are marked. -/
def messageText (m : Message) (myId : String) : String :=
  "\n\n" ++ rule '-' ++ "\n@" ++ m.author.name ++ (if m.author.id = myId then " (me)" else "") ++
    ": " ++ m.body ++ "\nsent at " ++ m.createdAt.toMillisText ++ "\n" ++ rule '-' ++ "\n"

def sentText (createdAt : Instant) : String := "sent at " ++ createdAt.toMillisText ++ "\n"

def failureText (f : Failure) : String := "\n! " ++ f.message ++ "\n"

def closedText (code : Nat) : String := "\nChat finalized (code " ++ toString code ++ ")\n"

end Parley.Shell
