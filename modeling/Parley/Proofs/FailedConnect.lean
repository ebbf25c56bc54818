import Parley.Proofs.Client

/-! Connects that fail, at whichever stage: the input, a connection that is there already, the
login, the identity or the handshake. The client stays what it was, so that everything after goes as
if nothing had been asked. Only the handshake is told of, and no stage before it fails with a
failure that is like its own. -/

namespace Parley

def Failure.isHandshake : Failure → Bool
  | .handshake _ => true
  | _ => false

/-- Nothing in here fails as a handshake does. -/
def BeforeHandshake {α : Type} (r : Except Failure α) : Prop :=
  ∀ f, r = .error f → f.isHandshake = false

theorem beforeHandshake_ok {α : Type} (a : α) : BeforeHandshake (.ok a) :=
  fun _ h => by simp at h

theorem beforeHandshake_error {α : Type} {f : Failure} (h : f.isHandshake = false) :
    BeforeHandshake (.error f : Except Failure α) := by
  rintro g hg
  cases hg
  exact h

theorem Credentials.make_beforeHandshake (username password : String) :
    BeforeHandshake (Credentials.make username password) := by
  unfold Credentials.make
  split
  · exact beforeHandshake_ok _
  · exact beforeHandshake_error rfl

theorem Token.ofAnswer_beforeHandshake (a : Http.Answer) : BeforeHandshake (Token.ofAnswer a) := by
  unfold Token.ofAnswer
  split
  · exact beforeHandshake_error rfl
  split
  · exact beforeHandshake_error rfl
  split
  · exact beforeHandshake_error rfl
  · exact beforeHandshake_ok _

theorem User.ofAnswer_beforeHandshake (a : Http.Answer) : BeforeHandshake (User.ofAnswer a) := by
  unfold User.ofAnswer
  split
  · exact beforeHandshake_error rfl
  split
  · exact beforeHandshake_error rfl
  split
  · exact beforeHandshake_error rfl
  · exact beforeHandshake_ok _

namespace Server

theorem url_beforeHandshake (s : Server) (scheme path : String) :
    BeforeHandshake (s.url scheme path) := by
  unfold url
  split
  · exact beforeHandshake_error rfl
  · simp only
    split
    · exact beforeHandshake_ok _
    · exact beforeHandshake_error rfl

theorem chatUrl_beforeHandshake (s : Server) (token : Token) :
    BeforeHandshake (s.chatUrl token) := by
  unfold chatUrl
  split
  · exact beforeHandshake_ok _
  · rename_i f hurl
    exact beforeHandshake_error (s.url_beforeHandshake _ _ f hurl)

theorem call_beforeHandshake {α : Type} {net : Network} {url : Except Failure Url}
    {authorization : String} {meaning : Http.Answer → Except Failure α} {remote : Http.Remote}
    (hurl : BeforeHandshake url) (hmeaning : ∀ a, BeforeHandshake (meaning a)) :
    BeforeHandshake (call net url authorization meaning remote).1 := by
  unfold call
  split
  · exact beforeHandshake_error (hurl _ rfl)
  · split
    · exact beforeHandshake_error rfl
    · exact hmeaning _

theorem login_beforeHandshake (s : Server) (net : Network) (c : Credentials)
    (remote : Http.Remote) : BeforeHandshake (s.login net c remote).1 :=
  call_beforeHandshake (s.url_beforeHandshake _ _) Token.ofAnswer_beforeHandshake

theorem identify_beforeHandshake (s : Server) (net : Network) (t : Token)
    (remote : Http.Remote) : BeforeHandshake (s.identify net t remote).1 :=
  call_beforeHandshake (s.url_beforeHandshake _ _) User.ofAnswer_beforeHandshake

end Server

namespace Client

def reports : Failure → List Event
  | .handshake text => [.failed (.handshake text)]
  | _ => []

theorem reports_eq_nil {f : Failure} (h : f.isHandshake = false) : reports f = [] := by
  cases f with
  | handshake text => simp [Failure.isHandshake] at h
  | _ => rfl

/-- If the attempt failed then nothing has come of it but what is told of the failure. -/
def FailsCleanly (c : Client) (attempt : Attempt) : Prop :=
  ∀ f, attempt.result = .error f → attempt.client = c ∧ attempt.events = reports f

theorem failsCleanly_before {c : Client} {f : Failure} (h : f.isHandshake = false)
    (remote : Http.Remote) : FailsCleanly c ⟨.error f, c, [], remote⟩ := by
  rintro g hg
  cases hg
  exact ⟨rfl, (reports_eq_nil h).symm⟩

theorem openWith_failsCleanly (c : Client) (net : Network) (token : Token)
    (remote : Http.Remote) : FailsCleanly c (c.openWith net token remote) := by
  unfold openWith
  split
  · rename_i f remote' hidentify
    refine failsCleanly_before ?_ _
    exact c.server.identify_beforeHandshake net token remote f (congrArg Prod.fst hidentify)
  · rename_i user remote' _
    split
    · rename_i f hurl
      exact failsCleanly_before (c.server.chatUrl_beforeHandshake token f hurl) _
    · rename_i url _
      -- Only here a signal has been heard, and it is no text, so that nothing enters the log.
      cases hs : Socket.handshake net url remote' with
      | mk result after =>
        cases result with
        | error refusal =>
          rw [Manager.Conduct.settled_establish, Manager.dial_fresh_refused hs]
          simp only [hear_eq]
          rintro f hf
          cases hf
          simp [reports, List.filterMap_cons, Signal.message?, Signal.event]
        | ok greeting =>
          rw [Manager.Conduct.settled_establish, Manager.dial_fresh_agreed hs]
          rintro f hf
          simp at hf

theorem connect_failsCleanly (c : Client) (net : Network) (username password : String)
    (remote : Http.Remote) : FailsCleanly c (c.connect net username password remote) := by
  unfold connect
  split
  · rename_i f hcredentials
    exact failsCleanly_before (Credentials.make_beforeHandshake _ _ f hcredentials) _
  · rename_i credentials _
    split
    · exact failsCleanly_before rfl _
    split
    · rename_i f remote' hlogin
      refine failsCleanly_before ?_ _
      exact c.server.login_beforeHandshake net credentials remote f (congrArg Prod.fst hlogin)
    · exact c.openWith_failsCleanly net _ _

theorem connectWithToken_failsCleanly (c : Client) (net : Network) (token : Token)
    (remote : Http.Remote) : FailsCleanly c (c.connectWithToken net token remote) := by
  unfold connectWithToken
  split
  · exact failsCleanly_before rfl _
  split
  · exact failsCleanly_before rfl _
  · exact c.openWith_failsCleanly net token remote

def Action.isConnect : Action → Bool
  | .connect .. | .connectWithToken .. => true
  | _ => false

theorem perform_failsCleanly {c : Client} {net : Network} {a : Action} (ha : a.isConnect = true)
    {f : Failure} (hf : (c.perform net a).result = .error f) :
    (c.perform net a).client = c ∧ (c.perform net a).events = reports f := by
  have hclean : ∀ attempt : Attempt, FailsCleanly c attempt →
      (Turn.ofAttempt attempt).result = .error f →
      (Turn.ofAttempt attempt).client = c ∧ (Turn.ofAttempt attempt).events = reports f := by
    intro attempt h hr
    cases hresult : attempt.result with
    | error g =>
      simp only [Turn.ofAttempt, hresult, Except.map, Except.error.injEq] at hr
      exact hr ▸ h g hresult
    | ok user => simp [Turn.ofAttempt, hresult, Except.map] at hr
  cases a with
  | connect username password replies => exact hclean _ (c.connect_failsCleanly net _ _ _) hf
  | connectWithToken token replies => exact hclean _ (c.connectWithToken_failsCleanly net _ _) hf
  | _ => simp [Action.isConnect] at ha

/-- A connect that fails leaves the client as it was: its phase, user and token, both logs and
every connection with what was written on it. Only a failed handshake is told of, by its own
failure, and whatever is done later goes as it would have gone. -/
theorem connect_failed (c : Client) (net : Network) (a : Action) (ha : a.isConnect = true)
    (f : Failure) (hf : (c.perform net a).result = .error f) :
    (c.perform net a).client = c ∧
      (∀ text, f = .handshake text → (c.perform net a).events = [.failed (.handshake text)]) ∧
      ((∀ text, f ≠ .handshake text) → (c.perform net a).events = []) ∧
      ∀ later, steps net (c.perform net a).client later = steps net c later := by
  obtain ⟨hclient, hevents⟩ := perform_failsCleanly ha hf
  refine ⟨hclient, ?_, ?_, fun later => by rw [hclient]⟩
  · rintro text rfl
    exact hevents
  · intro hother
    rw [hevents]
    cases f with
    | handshake text => exact absurd rfl (hother text)
    | _ => rfl

/-- A client that has sent something and has disconnected. -/
def returning : Client := after Manager.everywhere newcomer (reconnecting.take 3)

/-- A connect whose handshake the server answers with a refusal. -/
def unauthorized : Action :=
  .connectWithToken ⟨"t"⟩ [identity, .answer ⟨401, none, none, none, true, [], true⟩]

theorem connect_failed_unauthorized :
    returning.sent.length = 1 ∧ returning.phase = .closed ∧
      (returning.perform Manager.everywhere unauthorized).client = returning ∧
      (returning.perform Manager.everywhere unauthorized).events =
        [.failed (.handshake "HTTP error: 401 Unauthorized")] := by
  have hf : (returning.perform Manager.everywhere unauthorized).result =
      .error (.handshake "HTTP error: 401 Unauthorized") := by
    decide +kernel
  obtain ⟨hclient, hevents, -⟩ := connect_failed returning Manager.everywhere unauthorized rfl _ hf
  exact ⟨by decide +kernel, by decide +kernel, hclient, hevents _ rfl⟩

end Client

end Parley
