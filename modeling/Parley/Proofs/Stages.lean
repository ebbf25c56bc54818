import Parley.Proofs.Owner
import Parley.Proofs.Script

/-! The stages of a connect: the login, the identity, and the request that asks to go on as a
socket. Each is told by the replies it was given, the requests it made of them and what it came to,
and the next one starts only behind one that succeeded. -/

namespace Parley

open Http

/-- What a stage may do: the replies it is given, the requests it makes, and its result. -/
abbrev Stage (α : Type) := List Reply → List Request → Except Failure α → Prop

/-- One stage behind another. The second starts if the first has succeeded, and is given the replies
that the first has left. -/
inductive Stage.andThen {α β : Type} (first : Stage α) (second : α → Stage β) : Stage β
  | failed {script : List Reply} {qs : List Request} {f : Failure}
    (h : first script qs (.error f)) :
    andThen first second script qs (.error f)
  | passed {script : List Reply} {qs rs : List Request} {x : α} {result : Except Failure β}
    (h : first script qs (.ok x)) (hnext : second x (script.drop qs.length) rs result) :
    andThen first second script (qs ++ rs) result

/-- A success of the stage leaves no choice: whatever else it may have made of the same replies, it
made these requests and came to this result. -/
def Stage.Firm {α : Type} (stage : Stage α) : Prop :=
  ∀ ⦃script : List Reply⦄ ⦃qs qs' : List Request⦄ ⦃result : Except Failure α⦄ ⦃x : α⦄,
    stage script qs result → stage script qs' (.ok x) → qs' <+: qs → qs' = qs ∧ result = .ok x

theorem Stage.Firm.ok_iff {α : Type} {stage : Stage α} (hfirm : stage.Firm) {script : List Reply}
    {qs : List Request} {result : Except Failure α} (h : stage script qs result) (x : α) :
    result = .ok x ↔ stage script qs (.ok x) := by
  constructor
  · rintro rfl
    exact h
  · intro h'
    exact (hfirm h h' (List.prefix_refl qs)).2

theorem Stage.Firm.andThen {α β : Type} {first : Stage α} {second : α → Stage β}
    (hfirst : first.Firm) (hsecond : ∀ x, (second x).Firm) : (first.andThen second).Firm := by
  intro script all all' result y h h' hall
  obtain ⟨qs', rs', x', rfl, hq', hr'⟩ : ∃ qs' rs' x', all' = qs' ++ rs' ∧
      first script qs' (.ok x') ∧ second x' (script.drop qs'.length) rs' (.ok y) := by
    cases h' with
    | passed hq hr => exact ⟨_, _, _, rfl, hq, hr⟩
  have hfront : qs' <+: all := (List.prefix_append qs' rs').trans hall
  cases h with
  | failed hf => exact absurd (hfirst hf hq' hfront).2 (by simp)
  | @passed _ qs rs x _ hq hr =>
    have hsame : qs' = qs ∧ x' = x := by
      rcases List.prefix_or_prefix_of_prefix hfront (List.prefix_append qs rs) with hp | hp
      · obtain ⟨he, hx⟩ := hfirst hq hq' hp
        exact ⟨he, (Except.ok.inj hx).symm⟩
      · obtain ⟨he, hx⟩ := hfirst hq' hq hp
        exact ⟨he.symm, Except.ok.inj hx⟩
    obtain ⟨rfl, rfl⟩ := hsame
    obtain ⟨rfl, hy⟩ := hsecond x' hr hr' ((List.prefix_append_right_inj qs').1 hall)
    exact ⟨rfl, hy⟩

/-- One request for a path, and the redirects it follows. The stage goes by the answer to the last
of its requests, and succeeds with what this one means. -/
structure Asks {α : Type} (net : Network) (url : Except Failure Url) (path authorization : String)
    (meaning : Answer → Except Failure α) (script : List Reply) (qs : List Request)
    (result : Except Failure α) : Prop where
  trail : qs ≠ [] → ∃ place, url = .ok place ∧ Trail place [authorization] script qs
  few : qs.length ≤ hopLimit + 1
  first : ∀ q ∈ qs.head?, q = ⟨path, [authorization], none⟩
  silent : qs = [] → (∃ f, url = .error f) ∨ isHeaderText authorization = false ∨
    ∃ place, url = .ok place ∧ Unaskable net place
  ok_iff : ∀ x, result = .ok x ↔ ∃ a, answer? script qs = some a ∧ meaning a = .ok x
  failure : ∀ f, result = .error f →
    url = .error f ∨
      (∃ text, f = .http text ∧ ∀ a, answer? script qs = some a → isRedirect a.status = true) ∨
      ∃ a, answer? script qs = some a ∧ meaning a = .error f

/-- A request to go on as a socket where the chats are, with a token as the only pair of its query.
-/
structure CarriesToken (token : Token) (q : Request) : Prop where
  upgrade : q.upgrade = some "websocket"
  authorization : q.authorization = []
  path : ∃ query, q.path = Server.chatPath ++ "?" ++ String.ofList query ∧
    Url.readForm query = some [("token", token.text)]

/-- One request that carries the token, if it can be made at all; the reply to it decides. -/
inductive Upgrades (net : Network) (url : Except Failure Url) (token : Token) (user : User) :
    Stage User
  | unreadable (script : List Reply) {f : Failure} (hurl : url = .error f) :
    Upgrades net url token user script [] (.error f)
  | unmade (script : List Reply) {place : Url} (refusal : Socket.Refusal)
    (hurl : url = .ok place) (hplace : Unaskable net place) :
    Upgrades net url token user script [] (.error (.handshake refusal.message))
  | refused {script : List Reply} {q : Request} {refusal : Socket.Refusal}
    (hq : CarriesToken token q)
    (hreply : Socket.Refusal.judge (script.headD .dropped) = .error refusal) :
    Upgrades net url token user script [q] (.error (.handshake refusal.message))
  | agreed {script : List Reply} {q : Request} {greeting : List UInt8} (hq : CarriesToken token q)
    (hreply : Socket.Refusal.judge (script.headD .dropped) = .ok greeting) :
    Upgrades net url token user script [q] (.ok user)

namespace Server

def loggingIn (s : Server) (net : Network) (username password : String) : Stage Token :=
  Asks net s.loginUrl loginPath (basic username password) Token.ofAnswer

def identifying (s : Server) (net : Network) (token : Token) : Stage User :=
  Asks net s.identityUrl identityPath (bearer token.text) User.ofAnswer

/-- The identity and then the socket, both with one token. -/
def opening (s : Server) (net : Network) (token : Token) : Stage User :=
  (s.identifying net token).andThen (Upgrades net (s.chatUrl token) token)

/-- All three stages, the token being the one that the login gave. -/
def connecting (s : Server) (net : Network) (username password : String) : Stage User :=
  (s.loggingIn net username password).andThen (s.opening net)

theorem call_of_ok {α : Type} (net : Network) {place : Url} {authorization : String}
    (meaning : Answer → Except Failure α) {remote : Remote} {a : Answer}
    (h : (get net place authorization remote).1 = .ok a) :
    call net (.ok place) authorization meaning remote =
      (meaning a, (get net place authorization remote).2) := by
  rcases hget : get net place authorization remote with ⟨result, after⟩
  rw [hget] at h
  subst h
  simp [call, hget]

section Asks

variable {α : Type} {net : Network} {url : Except Failure Url} {path authorization : String}
  {meaning : Answer → Except Failure α} {script : List Reply}

variable {place : Url} {qs : List Request}

end Asks

theorem httpScheme_mem (s : Server) : s.httpScheme ∈ Url.serverSchemes := by
  unfold httpScheme
  split <;> decide

end Server

namespace Client

section Attempts

variable (c : Client) (net : Network) {username password : String} (token : Token)
  (remote : Remote)

end Attempts

/-- Replies to a login that is sent on once, to the identity and to the handshake. The token needs
escapes where it stands in a query. -/
def welcome : List Reply :=
  [.answer ⟨302, some "/elsewhere", none, none, true, [], true⟩,
    .answer ⟨200, none, none, none, true, Text.octets "\x7b\"token\":\"a b&c\"\x7d", true⟩,
    identity, Manager.agreement []]

end Client

end Parley
