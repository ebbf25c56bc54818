import Parley.Shell.Flag
import Parley.Text.Similar
/-! The command line read into settings. A value is checked only when the next argument shows that
it is complete, so an argument that cannot be understood at all is reported before a bad value in
front of it. What the command line leaves out may come from the environment. -/

namespace Parley.Shell

open Parley.Text

structure Settings where
  username : String
  password : String
  host : String
  port : Nat
  secure : Bool
  chatId : ChatId
  logLevel : String
deriving DecidableEq, Repr

inductive Advice where
  | none
  | afterDashes
  | similar (f : Flag)
deriving DecidableEq, Repr

inductive Misuse where
  | unknown (argument : String) (advice : Advice) (used : List Flag)
  | valueRequired (f : Flag)
  | invalidValue (f : Flag) (value reason : String)
  | unexpectedValue (f : Flag) (value : String) (grouped : Bool)
  | repeated (f : Flag)
  | missing (words : List Word) (used : List Flag)
deriving DecidableEq, Repr

def Advice.text (argument : String) : Advice → String
  | .none => ""
  | .afterDashes =>
    "  tip: to pass '" ++ argument ++ "' as a value, use '-- " ++ argument ++ "'\n\n"
  | .similar f => "  tip: a similar argument exists: '--" ++ f.long ++ "'\n\n"

def missingUsage (used : List Flag) : String :=
  if used.isEmpty then "Usage: " ++ programName ++ " " ++ wordsText else usageText used

def Misuse.message (m : Misuse) : String :=
  let body := match m with
    | unknown argument advice used =>
      "unexpected argument '" ++ argument ++ "' found\n\n" ++ advice.text argument ++
        usageText used ++ "\n\n"
    | valueRequired f => "a value is required for '" ++ f.text ++ "' but none was supplied\n\n"
    | invalidValue f value reason =>
      "invalid value '" ++ value ++ "' for '" ++ f.text ++ "': " ++ reason ++ "\n\n"
    | unexpectedValue f value grouped =>
      "unexpected value '" ++ value ++ "' for '" ++ f.text ++
        "' found; no more were expected\n\n" ++
        (if grouped then groupUsageText [f] else usageText [f]) ++ "\n\n"
    | repeated f =>
      "the argument '" ++ f.text ++ "' cannot be used multiple times\n\n" ++ usageText [] ++ "\n\n"
    | missing words used =>
      "the following required arguments were not provided:\n" ++
        String.join (words.map fun w => "  " ++ w.text ++ "\n") ++ "\n" ++ missingUsage used ++
        "\n\n"
  "error: " ++ body ++ "For more information, try '--help'.\n"

inductive Stop where
  | help
  | misuse (m : Misuse)
deriving DecidableEq, Repr

inductive Slot where
  | word (w : Word)
  | flag (f : Flag)
deriving DecidableEq, Repr

/-- The largest whole number that a port is read as before its range is looked at. -/
def wholeLimit : Nat := 9223372036854775807

def readWhole (limit : Nat) (tooFar : String) : Nat → List Char → Except String Nat
  | n, [] => .ok n
  | n, c :: cs =>
    if ¬ isDigit c then .error "invalid digit found in string"
    else if limit < n * 10 + digitValue c then .error tooFar
    else readWhole limit tooFar (n * 10 + digitValue c) cs

def readInteger (cs : List Char) : Except String Int :=
  let below := "number too small to fit in target type"
  let above := "number too large to fit in target type"
  let digit := "invalid digit found in string"
  match cs with
  | [] => .error "cannot parse integer from empty string"
  | ['-'] => .error digit
  | ['+'] => .error digit
  | '-' :: ds => (fun n => -(n : Int)) <$> readWhole (wholeLimit + 1) below 0 ds
  | '+' :: ds => Int.ofNat <$> readWhole wholeLimit above 0 ds
  | ds => Int.ofNat <$> readWhole wholeLimit above 0 ds

def readPort (s : String) : Except String Nat :=
  match readInteger s.toList with
  | .error e => .error e
  | .ok n =>
    if 0 ≤ n ∧ n ≤ 65535 then .ok n.toNat
    else .error (toString n ++ " is not in 0..=65535")

structure Given where
  username : Option String := none
  password : Option String := none
  host : Option String := none
  port : Option Nat := none
  secure : Bool := false
  chatId : Option ChatId := none
  logLevel : Option String := none

def Given.setWord (g : Given) (w : Word) (value : String) : Given :=
  match w with
  | .username => { g with username := some value }
  | .password => { g with password := some value }

def Given.setFlag (g : Given) (f : Flag) (value : String) : Except Misuse Given :=
  match f with
  | .host => .ok { g with host := some value }
  | .port =>
    match readPort value with
    | .ok n => .ok { g with port := some n }
    | .error reason => .error (.invalidValue f value reason)
  | .chatId =>
    match ChatId.read value with
    | .ok id => .ok { g with chatId := some id }
    | .error p => .error (.invalidValue f value p.message)
  | .logLevel => .ok { g with logLevel := some value }
  | .secure | .help => .ok { g with secure := true }

structure Progress where
  given : Given := {}
  /-- What was given and is complete, in order. -/
  done : List Slot := []
  /-- The last argument, as long as it may still be waiting for its value. -/
  pending : Option (Slot × Option String) := none
  awaiting : Bool := false
  trailing : Bool := false
  words : Nat := 0

namespace Progress

def usedFlags (p : Progress) : List Flag :=
  p.done.filterMap fun (s : Slot) =>
    match s with
    | .flag f => some f
    | .word _ => none

/-- Records an option with its value. Even a bad value makes it a given one. -/
def record (p : Progress) (f : Flag) (value : String) : Progress × Option Misuse :=
  if (p.usedFlags).contains f then (p, some (.repeated f))
  else
    let p := { p with done := p.done ++ [Slot.flag f] }
    match p.given.setFlag f value with
    | .ok g => ({ p with given := g }, none)
    | .error m => (p, some m)

def resolve (p : Progress) : Progress × Option Misuse :=
  let cleared := { p with pending := none, awaiting := false }
  match p.pending with
  | none => (cleared, none)
  | some (.word w, value) =>
    ({ cleared with
        given := cleared.given.setWord w (value.getD "")
        done := cleared.done ++ [Slot.word w] }, none)
  | some (.flag f, none) => (cleared, some (.valueRequired f))
  | some (.flag f, some value) => cleared.record f value

def resolved (p : Progress) : Except Stop Progress :=
  match p.resolve with
  | (p, none) => .ok p
  | (_, some m) => .error (.misuse m)

def option (p : Progress) (f : Flag) (attached : Option String) : Except Stop Progress := do
  if f.takesValue then
    let p ← p.resolved
    match attached with
    | none => return { p with pending := some (.flag f, none), awaiting := true }
    | some value =>
      match p.record f value with
      | (p, none) => return p
      | (_, some m) => .error (.misuse m)
  else match attached with
    | some value => .error (.misuse (.unexpectedValue f value (!p.done.isEmpty)))
    | none =>
      let p ← p.resolved
      if f = .help then .error .help
      else match p.record f "" with
        | (p, none) => return p
        | (_, some m) => .error (.misuse m)

def unknownLong (p : Progress) (name : String) : Stop :=
  let used := p.resolve.1.usedFlags
  match (mostAlike? name (Flag.all.map Flag.long)).bind Flag.ofLong? with
  | some f =>
    .misuse (.unknown ("--" ++ name) (.similar f) (if used.contains f then used else used ++ [f]))
  | none => .misuse (.unknown ("--" ++ name) .afterDashes used)

def longOption (p : Progress) (cs : List Char) : Except Stop Progress :=
  let name := String.ofList (cs.takeWhile (· ≠ '='))
  let attached := match cs.dropWhile (· ≠ '=') with
    | [] => none
    | _ :: value => some (String.ofList value)
  match Flag.ofLong? name with
  | some f => p.option f attached
  | none => .error (p.unknownLong name)

/-- A letter behind one dash. The rest is its value, behind an equal sign or not. -/
def shortOption (p : Progress) (c : Char) (rest : List Char) : Except Stop Progress :=
  match Flag.ofShort? c with
  | none => .error (.misuse (.unknown (String.ofList ['-', c]) .afterDashes []))
  | some f =>
    if ¬ f.takesValue then p.option f none
    else match rest with
      | [] => p.option f none
      | '=' :: value => p.option f (some (String.ofList value))
      | value => p.option f (some (String.ofList value))

def plain (p : Progress) (a : String) : Except Stop Progress :=
  match Word.all[p.words]? with
  | none => .error (.misuse (.unknown a .none []))
  | some w => do
    let p ← p.resolved
    return { p with pending := some (.word w, some a), words := p.words + 1 }

def step (p : Progress) (a : String) : Except Stop Progress :=
  if p.trailing then p.plain a
  else match a.toList with
    | ['-', '-'] => .ok { p with trailing := true }
    | '-' :: '-' :: cs => p.longOption cs
    | '-' :: c :: cs => p.shortOption c cs
    | _ =>
      if p.awaiting then
        .ok { p with pending := p.pending.map fun (s, _) => (s, some a), awaiting := false }
      else p.plain a

/-- An option that the command line leaves out may be in the environment. -/
def consult (environment : String → Option String) (p : Progress) (f : Flag) :
    Except Stop Progress :=
  if p.usedFlags.contains f then .ok p
  else match f.variableName?.bind environment with
    | none => .ok p
    | some value =>
      match p.record f value with
      | (p, none) => .ok p
      | (_, some m) => .error (.misuse m)

def finish (p : Progress) : Except Stop Settings :=
  match p.given.username, p.given.password with
  | some username, some password =>
    .ok {
      username := username
      password := password
      host := p.given.host.getD Server.defaultHost
      port := p.given.port.getD Server.defaultPort
      secure := p.given.secure
      chatId := p.given.chatId.getD .standard
      logLevel := p.given.logLevel.getD standardLevel }
  | some _, none => .error (.misuse (.missing [.password] p.usedFlags))
  | none, _ => .error (.misuse (.missing Word.all p.usedFlags))

end Progress

def Settings.read (environment : String → Option String) (arguments : List String) :
    Except Stop Settings := do
  let p ← arguments.foldlM Progress.step {}
  let p ← p.resolved
  let p ← Flag.all.foldlM (Progress.consult environment) p
  p.finish

end Parley.Shell
