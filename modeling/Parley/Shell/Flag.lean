import Parley.Server
import Parley.Shell.ChatId
/-! The options of the command line, the two words it needs, and its help. -/

namespace Parley.Shell

def standardLevel : String := "info"

inductive Flag where
  | host
  | port
  | secure
  | chatId
  | logLevel
  | help
deriving DecidableEq, Repr

namespace Flag

def all : List Flag := [host, port, secure, chatId, logLevel, help]

def long : Flag → String
  | host => "host"
  | port => "port"
  | secure => "secure"
  | chatId => "chat-id"
  | logLevel => "log-level"
  | help => "help"

def short? : Flag → Option Char
  | port => some 'p'
  | chatId => some 'c'
  | help => some 'h'
  | _ => none

/-- What the value is called, for an option that takes one. -/
def value? : Flag → Option String
  | host => some "HOST"
  | port => some "PORT"
  | chatId => some "CHAT_ID"
  | logLevel => some "LOG_LEVEL"
  | _ => none

def takesValue (f : Flag) : Bool := f.value?.isSome

/-- The environment variable that stands in for an option. -/
def variableName? : Flag → Option String
  | host => some "COMLINK_HOST"
  | port => some "COMLINK_PORT"
  | chatId => some "COMLINK_CHAT_ID"
  | _ => none

def standard? : Flag → Option String
  | host => some Server.defaultHost
  | port => some (toString Server.defaultPort)
  | chatId => some ChatId.standard.text
  | logLevel => some standardLevel
  | _ => none

def purpose : Flag → String
  | host => "Chat API host"
  | port => "Chat API port"
  | secure => "Use https / wss instead of http / ws"
  | chatId => "Chat room to send messages to"
  | logLevel => "Default log level when RUST_LOG is not set"
  | help => "Print help"

def text (f : Flag) : String :=
  "--" ++ f.long ++ (match f.value? with
    | some v => " <" ++ v ++ ">"
    | none => "")

def ofLong? (name : String) : Option Flag := all.find? (·.long = name)

def ofShort? (c : Char) : Option Flag := all.find? (·.short? = some c)

end Flag

inductive Word where
  | username
  | password
deriving DecidableEq, Repr

def Word.text : Word → String
  | .username => "<USERNAME>"
  | .password => "<PASSWORD>"

def Word.purpose : Word → String
  | .username => "Username to log in with"
  | .password => "Password to log in with"

def Word.all : List Word := [.username, .password]

def programName : String := "comlink-client"

def wordsText : String := " ".intercalate (Word.all.map Word.text)

/-- How the program is called: with the options given, or with a mark for any. -/
def usageText (options : List Flag) : String :=
  "Usage: " ++ programName ++ " " ++
    (if options.isEmpty then "[OPTIONS]" else " ".intercalate (options.map Flag.text)) ++ " " ++
    wordsText

def Flag.isGrouped (f : Flag) : Bool := f ≠ .help

/-- How the program is called by naming everything it takes, behind the options that are not part of
it. -/
def groupUsageText (options : List Flag) : String :=
  let parts := ["USERNAME", "PASSWORD"] ++ (Flag.all.filter (·.isGrouped)).map Flag.text
  let apart := (options.filter fun f => !f.isGrouped).map Flag.text
  "Usage: " ++ " ".intercalate (programName :: apart ++ ["<" ++ "|".intercalate parts ++ ">"])

def Flag.entry (f : Flag) : String :=
  (match f.short? with
    | some c => "  -" ++ String.singleton c ++ ", "
    | none => "      ") ++ f.text

def padTo (width : Nat) (s : String) : String :=
  s ++ String.ofList (List.replicate (width - s.length) ' ')

/-- The help shows what the environment holds at the moment. -/
def Flag.helpLine (environment : String → Option String) (width : Nat) (f : Flag) : String :=
  padTo width f.entry ++ "  " ++ f.purpose ++
    (match f.variableName? with
      | some v => " [env: " ++ v ++ "=" ++ (environment v).getD "" ++ "]"
      | none => "") ++
    (match f.standard? with
      | some s => " [default: " ++ s ++ "]"
      | none => "") ++ "\n"

def helpText (environment : String → Option String) : String :=
  let width := (Flag.all.map (·.entry.length)).foldl max 0
  "Minimal real-time chat client over WebSocket\n\n" ++ usageText [] ++ "\n\nArguments:\n" ++
    String.join (Word.all.map fun w => "  " ++ w.text ++ "  " ++ w.purpose ++ "\n") ++
    "\nOptions:\n" ++ String.join (Flag.all.map (·.helpLine environment width))

end Parley.Shell
