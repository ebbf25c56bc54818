import Parley.Proofs.Asking
import Parley.Proofs.Client
import Parley.Proofs.LoginHeader

/-! What becomes of a password. It goes into one header value of the requests of a login and nowhere
else, so two lives of a client that differ in passwords alone are the same in everything but that
value: in results with their texts, in events, in what the client is and in all other requests. -/

namespace Parley

open Http

theorem Server.login_twice (server : Server) (net : Network) (c d : Credentials) {r s : Remote}
    (h : Same r.replies s.replies) :
    Twice c.header d.header r s (server.login net c r) (server.login net d s) :=
  call_twice net _ ((isHeaderText_basic _ _).trans (isHeaderText_basic _ _).symm) _ h

namespace Client

/-- Two attempts that are the same but for the requests that were made before. -/
inductive Alike (r s : Remote) : Attempt → Attempt → Prop
  | made (result : Except Failure User) (client : Client) (events : List Event)
      (others : List Request) :
    Alike r s ⟨result, client, events, r.advance others⟩
      ⟨result, client, events, s.advance others⟩

theorem Alike.silent (r s : Remote) (result : Except Failure User) (client : Client)
    (events : List Event) :
    Alike r s ⟨result, client, events, r⟩ ⟨result, client, events, s⟩ := by
  have h := Alike.made (r := r) (s := s) result client events []
  rwa [Remote.advance_nil, Remote.advance_nil] at h

theorem Alike.behind {r s : Remote} (qs : List Request) {a b : Attempt}
    (h : Alike (r.advance qs) (s.advance qs) a b) : Alike r s a b := by
  cases h with
  | made result client events others =>
    rw [Remote.advance_advance, Remote.advance_advance]
    exact .made result client events (qs ++ others)

theorem openWith_alike (c : Client) (net : Network) (token : Token) {r s : Remote}
    (h : s.replies = r.replies) :
    Alike r s (c.openWith net token r) (c.openWith net token s) := by
  have hsame : Same r.replies s.replies := h ▸ .refl _
  obtain ⟨result, qs, hr, hs⟩ := c.server.identify_same net token hsame
  unfold openWith
  rw [hr, hs]
  cases result with
  | error f => exact .made _ _ _ _
  | ok user =>
    cases c.server.chatUrl token with
    | error f => exact .made _ _ _ _
    | ok url =>
      apply Alike.behind qs
      have hreplies : (s.advance qs).replies = (r.advance qs).replies := by
        rw [Remote.advance, Remote.advance, h]
      generalize r.advance qs = r at hreplies ⊢
      generalize s.advance qs = s at hreplies ⊢
      rcases Socket.handshake_uniform net url with ⟨refusal, hrefused⟩ | ⟨q, hasked⟩
      · simp only [Manager.Conduct.settled_establish, Manager.dial_fresh_refused (hrefused _)]
        exact .silent _ _ _ _ _
      · have hr := hasked r
        have hs := hasked s
        rw [hreplies] at hs
        cases hjudged : Socket.Refusal.judge (r.replies.headD .dropped) with
        | error refusal =>
          rw [hjudged] at hr hs
          simp only [Manager.Conduct.settled_establish, Manager.dial_fresh_refused hr,
            Manager.dial_fresh_refused hs]
          exact .made _ _ _ _
        | ok greeting =>
          rw [hjudged] at hr hs
          simp only [Manager.Conduct.settled_establish, Manager.dial_fresh_agreed hr,
            Manager.dial_fresh_agreed hs]
          exact .made _ _ _ _

/-- The same action, or a connect with another password. No password at all is an error of its own.
-/
inductive Action.AlikeButPassword : Action → Action → Prop
  | same (a : Action) : AlikeButPassword a a
  | connect (username : String) {password other : String} (hpassword : password ≠ "")
      (hother : other ≠ "") (replies : List Reply) :
    AlikeButPassword (.connect username password replies) (.connect username other replies)

def Action.loginHeader : Action → String
  | .connect username password _ => basic username password
  | _ => ""

/-- The requests of a step's login. There are none without a name and a password, nor while a
connection is there. -/
def Step.logins (net : Network) (s : Step) : List Request :=
  match s.action with
  | .connect username password replies =>
    match Credentials.make username password with
    | .error _ => []
    | .ok credentials =>
      if s.before.phase.isLive then []
      else (s.before.server.login net credentials (.ofReplies replies)).2.requests
  | _ => []

/-- Two steps of the same client, told apart by the header of their logins alone. -/
structure Step.SameButLogin (net : Network) (s t : Step) : Prop where
  before : t.before = s.before
  result : t.turn.result = s.turn.result
  client : t.turn.client = s.turn.client
  events : t.turn.events = s.turn.events
  replies : t.turn.remote.replies = s.turn.remote.replies
  logins : List.Forall₂ (Request.Resigned s.action.loginHeader t.action.loginHeader)
    (s.logins net) (t.logins net)
  requests : ∃ others, s.turn.remote.requests = s.logins net ++ others ∧
    t.turn.remote.requests = t.logins net ++ others

theorem Alike.step {net : Network} {c : Client} {a b : Action} {replies : List Reply}
    {qs rs : List Request} {first second : Attempt}
    (h : Alike ((Remote.ofReplies replies).advance qs) ((Remote.ofReplies replies).advance rs)
      first second)
    (hqs : List.Forall₂ (Request.Resigned a.loginHeader b.loginHeader) qs rs)
    (ha : Step.logins net ⟨c, a, .ofAttempt first⟩ = qs)
    (hb : Step.logins net ⟨c, b, .ofAttempt second⟩ = rs) :
    Step.SameButLogin net ⟨c, a, .ofAttempt first⟩ ⟨c, b, .ofAttempt second⟩ := by
  have hlength := hqs.length_eq
  cases h with
  | made result client events others =>
    refine ⟨rfl, rfl, rfl, rfl, ?_, ?_, others, ?_, ?_⟩
    · simp only [Turn.ofAttempt, Remote.advance, hlength]
    · rwa [ha, hb]
    · rw [ha]
      rfl
    · rw [hb]
      rfl

theorem connect_twice (c : Client) (net : Network) (username : String) {password other : String}
    (hpassword : password ≠ "") (hother : other ≠ "") (replies : List Reply) :
    Step.SameButLogin net
      ⟨c, .connect username password replies, c.perform net (.connect username password replies)⟩
      ⟨c, .connect username other replies, c.perform net (.connect username other replies)⟩ := by
  have hnothing : ∀ f : Failure, Alike ((Remote.ofReplies replies).advance [])
      ((Remote.ofReplies replies).advance []) ⟨.error f, c, [], .ofReplies replies⟩
      ⟨.error f, c, [], .ofReplies replies⟩ := fun f => .silent _ _ _ _ _
  by_cases hname : username = ""
  · have hmissing : ∀ p, Credentials.make username p = .error Credentials.missing :=
      fun p => dif_neg fun h => h.1 hname
    simp only [perform, connect, hmissing]
    exact (hnothing _).step .nil (by simp only [Step.logins, hmissing])
      (by simp only [Step.logins, hmissing])
  have hfirst : Credentials.make username password = .ok ⟨username, password, hname, hpassword⟩ :=
    dif_pos ⟨hname, hpassword⟩
  have hsecond : Credentials.make username other = .ok ⟨username, other, hname, hother⟩ :=
    dif_pos ⟨hname, hother⟩
  simp only [perform, connect, hfirst, hsecond]
  by_cases hlive : c.phase.isLive = true
  · simp only [if_pos hlive]
    exact (hnothing _).step .nil (by simp only [Step.logins, hfirst, if_pos hlive])
      (by simp only [Step.logins, hsecond, if_pos hlive])
  simp only [if_neg hlive]
  have hlogin := c.server.login_twice net ⟨username, password, hname, hpassword⟩
    ⟨username, other, hname, hother⟩ (Same.refl (Remote.ofReplies replies).replies)
  generalize hr : c.server.login net ⟨username, password, hname, hpassword⟩
    (.ofReplies replies) = mine at hlogin ⊢
  generalize hs : c.server.login net ⟨username, other, hname, hother⟩
    (.ofReplies replies) = yours at hlogin ⊢
  cases hlogin with
  | @made result qs rs hqs =>
    have ha : ∀ turn, Step.logins net ⟨c, .connect username password replies, turn⟩ = qs := by
      intro turn
      simp only [Step.logins, hfirst, if_neg hlive, hr]
      rfl
    have hb : ∀ turn, Step.logins net ⟨c, .connect username other replies, turn⟩ = rs := by
      intro turn
      simp only [Step.logins, hsecond, if_neg hlive, hs]
      rfl
    cases result with
    | error f => exact (Alike.silent _ _ _ _ _).step hqs (ha _) (hb _)
    | ok token =>
      have hreplies : ((Remote.ofReplies replies).advance rs).replies =
          ((Remote.ofReplies replies).advance qs).replies := by
        rw [Remote.advance, Remote.advance, hqs.length_eq]
      exact (openWith_alike c net token hreplies).step hqs (ha _) (hb _)

theorem Step.SameButLogin.refl (net : Network) (c : Client) (a : Action) :
    Step.SameButLogin net ⟨c, a, c.perform net a⟩ ⟨c, a, c.perform net a⟩ := by
  have hnone : Step.logins net ⟨c, a, c.perform net a⟩ = [] →
      Step.SameButLogin net ⟨c, a, c.perform net a⟩ ⟨c, a, c.perform net a⟩ := by
    intro h
    exact ⟨rfl, rfl, rfl, rfl, rfl, h ▸ .nil, _, by rw [h]; rfl, by rw [h]; rfl⟩
  cases a with
  | connect username password replies =>
    by_cases hpassword : password = ""
    · have hmissing : Credentials.make username password = .error Credentials.missing :=
        dif_neg fun h => h.2 hpassword
      exact hnone (by simp only [Step.logins, hmissing])
    · exact connect_twice c net username hpassword hpassword replies
  | _ => exact hnone rfl

/-- Two lives of a client that differ in passwords alone. Step by step they find the same client and
leave the same client behind, with its connections, its user and its logs, and they come to the same
results and the same events, whatever the texts of the failures are. The requests are the same too,
but for those of the logins, and these differ in the one header value only. -/
theorem password_unseen (net : Network) (c : Client) {actions others : List Action}
    (h : List.Forall₂ Action.AlikeButPassword actions others) :
    List.Forall₂ (Step.SameButLogin net) (steps net c actions) (steps net c others) := by
  induction h generalizing c with
  | nil => exact .nil
  | @cons a b actions others hab _ ih =>
    have hstep : Step.SameButLogin net ⟨c, a, c.perform net a⟩ ⟨c, b, c.perform net b⟩ := by
      cases hab with
      | same => exact .refl net c a
      | connect username hpassword hother replies =>
        exact connect_twice c net username hpassword hother replies
    refine .cons hstep ?_
    have hclient : (c.perform net b).client = (c.perform net a).client := hstep.client
    rw [hclient]
    exact ih _

def loggingIn (password : String) : List Action :=
  reconnecting.take 3 ++ [.connect "ada" password welcome]

theorem password_unseen_welcome :
    List.Forall₂ (Step.SameButLogin Manager.everywhere)
        (steps Manager.everywhere newcomer (loggingIn "secret"))
        (steps Manager.everywhere newcomer (loggingIn "other")) ∧
      (steps Manager.everywhere newcomer (loggingIn "secret")).map
          (fun s => (s.logins Manager.everywhere).length) = [0, 0, 0, 2] ∧
      (after Manager.everywhere newcomer (loggingIn "secret")).phase = .opened ∧
      (steps Manager.everywhere newcomer (loggingIn "secret")).map (·.turn.remote.requests) ≠
        (steps Manager.everywhere newcomer (loggingIn "other")).map (·.turn.remote.requests) := by
  have halike : List.Forall₂ Action.AlikeButPassword (loggingIn "secret") (loggingIn "other") :=
    .cons (.same _) (.cons (.same _) (.cons (.same _)
      (.cons (.connect "ada" (by decide) (by decide) welcome) .nil)))
  exact ⟨password_unseen Manager.everywhere newcomer halike, by decide +kernel, by decide +kernel,
    by decide +kernel⟩

end Client

end Parley
