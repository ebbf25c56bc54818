import Parley.Shell.Arguments
import Parley.Shell.Talk
/-! The program around a talk: it reads the command line, connects, and says why if one of the two
fails. -/

namespace Parley.Shell

structure Finish where
  code : Nat
  out : String
  err : String
deriving DecidableEq, Repr

structure Setup where
  settings : Settings
  filter : Filter
  complaints : String

def filterVariable : String := "RUST_LOG"

/-- Help is no fault. -/
def Stop.finish (environment : String → Option String) : Stop → Finish
  | .help => ⟨0, helpText environment, ""⟩
  | .misuse m => ⟨2, "", m.message⟩

def prepare (environment : String → Option String) (arguments : List String) :
    Except Finish Setup :=
  match Settings.read environment arguments with
  | .error stop => .error (stop.finish environment)
  | .ok settings =>
    let (filter, complaints) := Filter.choose (environment filterVariable) settings.logLevel
    .ok ⟨settings, filter, String.join complaints⟩

def Settings.server (s : Settings) : Server := ⟨s.host, s.port, s.secure⟩

/-- The text of some output. Notices that the filter does not show leave none. -/
def Output.render (filter : Filter) (now : Instant) : Output → String
  | .text s => s
  | .notice n => if filter.shows n then n.line now else ""

def renderAll (filter : Filter) (now : Instant) (out : List Output) : String :=
  String.join (out.map (·.render filter now))

def chatPlace (s : Server) : String :=
  match s.chatUrl ⟨""⟩ with
  | .ok u => u.scheme ++ "://" ++ u.hostText ++ String.ofList u.path.chars
  | .error _ => ""

/-- The notices that a failed connect leaves, the failure itself last. -/
def connectNotices (s : Settings) (f : Failure) : List Output :=
  let before := match f with
    | .auth .login status _ =>
      [Talk.warn "comlink_client::auth"
        ("Login rejected for '" ++ s.username ++ "': " ++ Http.statusText status)]
    | .auth .identity status _ =>
      [Talk.warn "comlink_client::auth" ("Identity lookup rejected: " ++ Http.statusText status)]
    | .handshake reason =>
      [.notice ⟨.info, "comlink_client::connection", "Connecting to " ++ chatPlace s.server⟩,
        .notice ⟨.error, "comlink_client::connection", "Connect Error: " ++ reason⟩]
    | _ => []
  before ++ [.notice ⟨.error, "comlink_client", "Client error: " ++ f.message⟩]

def Setup.connect (s : Setup) (net : Network) (clock : FixedClock) (remote : Http.Remote) :
    Except Finish Talk × Http.Remote :=
  let client := Client.fresh s.settings.server clock .listening
  let attempt := client.connect net s.settings.username s.settings.password remote
  match attempt.result with
  | .error f =>
    (.error ⟨1, renderAll s.filter clock.now (connectNotices s.settings f), s.complaints⟩,
      attempt.remote)
  | .ok user =>
    (.ok (Talk.start attempt.client user s.settings.chatId.text attempt.events), attempt.remote)

def Setup.finish (s : Setup) (t : Talk) (now : Instant) : Finish :=
  ⟨0, renderAll s.filter now t.shown, s.complaints⟩

end Parley.Shell
