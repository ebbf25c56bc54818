import Parley.Proofs.Events
import Parley.Proofs.FailedConnect
import Parley.Proofs.Frame
import Parley.Proofs.Script
import Parley.Proofs.SentLog
import Parley.Proofs.SharedPhase
import Parley.Proofs.Splice

/-! What a client has put into its log of received messages. Every text that is delivered on the
open connection is judged once: as a message, which is told and logged, or as a failure, which is
told and changes nothing else. So the log holds the messages that were told since the last clear.
-/

namespace Parley

open Connection Socket

/-- The texts among items, up to the first end. -/
def Socket.textsIn (items : List Item) : List String := (untilEnd items).filterMap Item.text?

def Message.inText? (text : String) : Option Message := (Message.ofFrame text).toOption

def Event.ofText (text : String) : Event :=
  match Message.ofFrame text with
  | .ok m => .message m
  | .error f => .failed f

def Event.isVerdict : Event → Bool
  | .message _ | .failed (.malformedMessage _) => true
  | _ => false

def Event.message? : Event → Option Message
  | .message m => some m
  | _ => none

theorem Manager.begun_nil : begun [] = (⟨.opened, some 0, [.fresh]⟩, []) := rfl

namespace Client

/-- What the server sent behind the reply to the last of some requests. -/
def greetingOf (script : List Http.Reply) (requests : List Http.Request) : List UInt8 :=
  match script[requests.length - 1]? with
  | some (.answer a) => a.body
  | _ => []

def Action.script : Action → List Http.Reply
  | .connect _ _ script | .connectWithToken _ script => script
  | _ => []

def Step.greeting (s : Step) : List UInt8 :=
  match s.turn.result with
  | .ok (some _) => greetingOf s.action.script s.turn.remote.requests
  | _ => []

def textsOn (s : Session) (octets : List UInt8) : List String :=
  if s.manager.phase = .opened then
    s.manager.links.flatMap fun l => textsIn (l.endpoint.receive octets).2
  else []

/-- The texts that a step delivers on an open connection: those of octets that arrive there, or
those behind the answer that has opened it. -/
def Step.delivered (s : Step) : List String :=
  match s.action with
  | .receive k octets => (s.before.sessions[k]?).toList.flatMap (textsOn · octets)
  | _ => textsIn (Endpoint.fresh.receive s.greeting).2

/-- Texts have been heard in a turn: the messages among them are logged, and each of them is told,
as a message or as a failure. -/
structure Hears (c : Client) (t : Turn) (texts : List String) : Prop where
  log : t.client.received = c.received ++ texts.filterMap Message.inText?
  told : t.events.filter Event.isVerdict = texts.map Event.ofText

theorem Hears.nothing {c : Client} {t : Turn} (hlog : t.client.received = c.received)
    (htold : t.events.filter Event.isVerdict = []) : Hears c t [] :=
  ⟨hlog.trans (List.append_nil _).symm, htold⟩

theorem messages_of_told {events : List Event} {texts : List String}
    (h : events.filter Event.isVerdict = texts.map Event.ofText) :
    events.filterMap Event.message? = texts.filterMap Message.inText? := by
  have hverdicts : events.filterMap Event.message? =
      (events.filter Event.isVerdict).filterMap Event.message? := by
    rw [List.filterMap_filter]
    apply List.filterMap_congr
    intro e _
    cases e with
    | failed f => split <;> rfl
    | _ => rfl
  rw [hverdicts, h, List.filterMap_map]
  apply List.filterMap_congr
  intro text _
  simp only [Function.comp_apply, Event.ofText, Message.inText?]
  cases Message.ofFrame text <;> rfl

theorem messages_of_signals (signals : List Signal) :
    signals.filterMap Signal.message? = (Manager.texts signals).filterMap Message.inText? := by
  unfold Manager.texts
  rw [List.filterMap_filterMap]
  apply List.filterMap_congr
  intro signal _
  cases signal <;> rfl

/-- No failure among signals is about a text. -/
def Plain (signals : List Signal) : Prop :=
  ∀ f, .failed f ∈ signals → (Event.failed f).isVerdict = false

theorem verdicts_of_signals (user : User) {signals : List Signal} (h : Plain signals) :
    (signals.map (Signal.event user)).filter Event.isVerdict =
      (Manager.texts signals).map Event.ofText := by
  induction signals with
  | nil => rfl
  | cons signal signals ih =>
    have hrest := ih fun f hf => h f (List.mem_cons_of_mem _ hf)
    rw [List.map_cons, Manager.texts, List.filterMap_cons]
    cases signal with
    | text s =>
      have hverdict : (Signal.event user (.text s)).isVerdict = true := by
        rcases Message.ofFrame_eq_ok_or s with ⟨m, hm⟩ | ⟨reason, hm⟩ <;>
          simp [Signal.event, hm, Event.isVerdict]
      rw [List.filter_cons_of_pos hverdict, hrest]
      rfl
    | failed f =>
      rw [List.filter_cons_of_neg (by simp [Signal.event, h f List.mem_cons_self]), hrest]
      rfl
    | opened | closed code =>
      rw [List.filter_cons_of_neg (by simp [Signal.event, Event.isVerdict]), hrest]
      rfl

theorem plain_heard (phase : Phase) (items : List Item) : Plain (Link.heard phase items) := by
  intro f hf
  rcases List.mem_append.1 hf with hf | hf
  · obtain ⟨item, -, hitem⟩ := List.mem_flatMap.1 hf
    cases item with
    | text s =>
      simp only [Reader.reports] at hitem
      split at hitem
      · exact absurd (List.mem_singleton.1 hitem) (by simp)
      · exact absurd hitem List.not_mem_nil
    | failed fault =>
      obtain rfl := Signal.failed.inj (List.mem_singleton.1 hitem)
      rfl
    | _ => exact absurd hitem List.not_mem_nil
  · obtain ⟨code, -, hcode⟩ := List.mem_map.1 hf
    exact absurd hcode (by simp)

theorem plain_arrive {m : Manager} (h : m.Single) (a : Link.Arrival) : Plain (m.arrive 0 a).2 := by
  obtain ⟨l, hl⟩ := h.links_eq
  rw [h.arrive_eq hl]
  unfold Link.arrive
  split
  · exact plain_heard _ _
  · exact fun f hf => absurd hf List.not_mem_nil

theorem arrive_hears {c : Client} (hc : Orderly c.sessions) (k : Nat) (a : Link.Arrival) :
    Hears c (.quiet (c.arrive k a))
      ((c.sessions[k]?).toList.flatMap fun s => Manager.texts (s.manager.arrive 0 a).2) := by
  cases hk : c.sessions[k]? with
  | none =>
    rw [arrive_none hk]
    exact .nothing rfl rfl
  | some s =>
    have hplain := plain_arrive (hc.single k s hk) a
    rw [arrive_some hk, Option.toList_some, List.flatMap_singleton]
    constructor
    · simp only [Turn.quiet, messages_of_signals]
    · exact verdicts_of_signals s.user hplain

theorem texts_of_octets {s : Session} (h : s.manager.Single) (octets : List UInt8) :
    Manager.texts (s.manager.arrive 0 (.octets octets)).2 = textsOn s octets := by
  obtain ⟨l, hl⟩ := h.links_eq
  unfold textsOn
  rw [Manager.texts_arrive h.steady (by rw [hl]; rfl)]
  by_cases hp : s.manager.phase = .opened
  · obtain ⟨found, hlive, hm⟩ := h.opened_eq hp
    obtain rfl : found = l := by simpa [hm] using hl
    rw [if_pos ⟨hlive.reading, hp⟩, if_pos hp, hl, List.flatMap_singleton]
    rfl
  · rw [if_neg fun hboth => hp hboth.2, if_neg hp]

theorem texts_of_hangUp {m : Manager} (h : m.Single) (cut : Socket.Cut) :
    Manager.texts (m.arrive 0 (.hangUp cut)).2 = [] := by
  obtain ⟨l, hl⟩ := h.links_eq
  rw [Manager.texts_arrive h.steady (by rw [hl]; rfl)]
  split <;> rfl

theorem receive_hears {c : Client} (hc : Orderly c.sessions) (net : Network) (k : Nat)
    (octets : List UInt8) :
    Hears c (c.perform net (.receive k octets))
      ((c.sessions[k]?).toList.flatMap (textsOn · octets)) := by
  have h := arrive_hears hc k (.octets octets)
  rw [perform_receive]
  cases hk : c.sessions[k]? with
  | none =>
    rw [hk] at h
    exact h
  | some s =>
    simp only [hk, Option.toList_some, List.flatMap_singleton,
      texts_of_octets (hc.single k s hk)] at h ⊢
    exact h

theorem hangUp_hears {c : Client} (hc : Orderly c.sessions) (net : Network) (k : Nat)
    (cut : Socket.Cut) : Hears c (c.perform net (.hangUp k cut)) [] := by
  have h := arrive_hears hc k (.hangUp cut)
  rw [perform_hangUp]
  cases hk : c.sessions[k]? with
  | none =>
    rw [hk] at h
    exact h
  | some s =>
    simp only [hk, Option.toList_some, List.flatMap_singleton,
      texts_of_hangUp (hc.single k s hk) cut] at h
    exact h

theorem greeting_hears {c : Client} {user : User} {token : Token}
    (hopened : Orderly (c.joined user token []).sessions) (net : Network) (greeting : List UInt8) :
    Hears c ((c.joined user token []).perform net (.receive c.sessions.length greeting))
      (textsIn (Endpoint.fresh.receive greeting).2) := by
  have htexts : ((c.joined user token []).sessions[c.sessions.length]?).toList.flatMap
      (textsOn · greeting) = textsIn (Endpoint.fresh.receive greeting).2 := by
    rw [joined_newest, Manager.begun_nil, Option.toList_some, List.flatMap_singleton]
    exact List.append_nil _
  have hreceived : (c.joined user token []).received = c.received := List.append_nil _
  have h := receive_hears hopened net c.sessions.length greeting
  rw [htexts] at h
  exact ⟨hreceived ▸ h.log, h.told⟩

theorem joined_rests (c : Client) (user : User) (token : Token) :
    (c.joined user token []).Rests c.sessions.length :=
  ⟨_, _, c.joined_newest user token [], rfl, rfl, rfl⟩

theorem perform_greeting (c : Client) (net : Network) (user : User) (token : Token)
    (greeting : List UInt8) :
    (c.joined user token []).perform net (.receive c.sessions.length greeting) =
      ⟨.ok none, c.joined user token greeting, (Manager.begun greeting).2.map (Signal.event user),
        .ofReplies []⟩ := by
  have hnewest := c.joined_newest user token []
  have hmodify : (c.joined user token []).sessions.modify c.sessions.length
      (Session.update fun m => (m.arrive 0 (.octets greeting)).1) =
        (c.joined user token greeting).sessions := by
    rw [← set_manager hnewest]
    simp only [joined]
    rw [List.set_append_right _ _ (released_length _).le, released_length, Nat.sub_self]
    rfl
  rw [perform_receive, Turn.quiet, arrive_some hnewest, hmodify]
  simp only [joined, Manager.begun_nil, List.filterMap_nil, List.append_nil]
  rfl

/-- A connect that has opened a connection: the last of its requests was answered with the greeting.
-/
inductive Greeted (c : Client) (remote : Http.Remote) : Attempt → Prop
  | behind (hl : c.phase.isLive = false) (user : User) (token : Token)
    {requests : List Http.Request} {greeting : List UInt8}
    (hne : requests ≠ []) (hg : greetingOf remote.replies requests = greeting) :
    Greeted c remote
      ⟨.ok user, c.joined user token greeting,
        .connected user :: (Manager.begun greeting).2.map (Signal.event user),
        remote.advance requests⟩

theorem greetingOf_append (script : List Http.Reply) (earlier : List Http.Request)
    {requests : List Http.Request} (hne : requests ≠ []) :
    greetingOf script (earlier ++ requests) =
      greetingOf (script.drop earlier.length) requests := by
  have hpos := List.length_pos_iff.2 hne
  unfold greetingOf
  rw [List.getElem?_drop, List.length_append, Nat.add_sub_assoc hpos]

theorem Greeted.earlier {c : Client} {remote : Http.Remote} {attempt : Attempt}
    {earlier : List Http.Request} (h : Greeted c (remote.advance earlier) attempt) :
    Greeted c remote attempt := by
  cases h with
  | behind hl user token hne hg =>
    rw [Http.Remote.advance_advance]
    refine .behind hl user token (List.append_ne_nil_of_right_ne_nil _ hne) ?_
    rw [greetingOf_append _ _ hne]
    exact hg

theorem greetingOf_agreed {replies : List Http.Reply} {q : Http.Request} {greeting : List UInt8}
    (h : Refusal.judge (replies.headD .dropped) = .ok greeting) :
    greetingOf replies [q] = greeting := by
  obtain ⟨a, ha, rfl⟩ := Refusal.judge_eq_ok h
  cases replies with
  | nil => exact Http.Reply.noConfusion ha
  | cons reply replies =>
    rw [List.headD_cons] at ha
    rw [ha]
    rfl

/-- If the attempt has opened a connection then the greeting has been heard on it. -/
def Greets (c : Client) (remote : Http.Remote) (attempt : Attempt) : Prop :=
  ∀ user, attempt.result = .ok user → Greeted c remote attempt

theorem greets_error {c client : Client} {remote after : Http.Remote} {f : Failure}
    {events : List Event} : Greets c remote ⟨.error f, client, events, after⟩ := by
  intro user hok
  simp at hok

theorem openWith_greets {c : Client} (hc : Orderly c.sessions) (hl : c.phase.isLive = false)
    (net : Network) (token : Token) (remote : Http.Remote) :
    Greets c remote (c.openWith net token remote) := by
  obtain ⟨earlier, hearlier⟩ : ∃ qs, (c.server.identify net token remote).2 = remote.advance qs :=
    Server.call_advances ..
  rcases hidentify : c.server.identify net token remote with ⟨found, before⟩
  rw [hidentify] at hearlier
  cases found with
  | error f =>
    simp only [openWith, hidentify]
    exact greets_error
  | ok user =>
    cases hurl : c.server.chatUrl token with
    | error f =>
      simp only [openWith, hidentify, hurl]
      exact greets_error
    | ok url =>
      rcases hs : handshake net url before with ⟨result, after⟩
      cases result with
      | error refusal =>
        simp only [openWith, hidentify, hurl, Manager.Conduct.settled_establish,
          Manager.dial_fresh_refused hs]
        exact greets_error
      | ok greeting =>
        rcases handshake_cases net url before with ⟨refusal, hrefused, -⟩ | ⟨target, -, hasked⟩
        · rw [hs] at hrefused
          simp at hrefused
        · rw [openWith_agreed hc hidentify hurl hs]
          rw [hs, Prod.mk.injEq] at hasked
          obtain ⟨hjudged, rfl⟩ := hasked
          obtain rfl : before = remote.advance earlier := hearlier
          intro _ _
          apply Greeted.earlier
          exact .behind hl user token (List.cons_ne_nil _ _) (greetingOf_agreed hjudged.symm)

theorem connect_greets {c : Client} (hc : Orderly c.sessions) (net : Network)
    (username password : String) (remote : Http.Remote) :
    Greets c remote (c.connect net username password remote) := by
  unfold connect
  split
  · exact greets_error
  rename_i credentials _
  obtain ⟨earlier, hearlier⟩ :
      ∃ qs, (c.server.login net credentials remote).2 = remote.advance qs :=
    Server.call_advances ..
  split
  · exact greets_error
  rename_i hl
  split
  · exact greets_error
  rename_i token between hlogin
  rw [hlogin] at hearlier
  obtain rfl : between = remote.advance earlier := hearlier
  intro user hok
  exact (openWith_greets hc (Bool.not_eq_true _ ▸ hl) net token _ user hok).earlier

theorem connectWithToken_greets {c : Client} (hc : Orderly c.sessions) (net : Network)
    (token : Token) (remote : Http.Remote) :
    Greets c remote (c.connectWithToken net token remote) := by
  unfold connectWithToken
  split
  · exact greets_error
  split
  · exact greets_error
  rename_i hl
  exact openWith_greets hc (Bool.not_eq_true _ ▸ hl) net token remote

theorem joined_orderly {c : Client} (hc : Orderly c.sessions) (hl : c.phase.isLive = false)
    (user : User) (token : Token) (greeting : List UInt8) :
    Orderly (c.joined user token greeting).sessions :=
  (Evolves.join (last_closed hc hl) Manager.tame_close user
    (Manager.begun_single greeting)).orderly hc

/-- A connect that succeeds opens a connection without a greeting, and the greeting arrives on it.
-/
theorem Greets.joined {c : Client} {a : Action} {attempt : Attempt}
    (h : Greets c (.ofReplies a.script) attempt) (hc : Orderly c.sessions) (net : Network)
    {user : User} (hok : attempt.result = .ok user) :
    ∃ token,
      let opened := c.joined user token []
      let arrival := opened.perform net
        (.receive c.sessions.length (Step.greeting ⟨c, a, .ofAttempt attempt⟩))
      Orderly opened.sessions ∧ attempt.client = arrival.client ∧
        attempt.events = .connected user :: arrival.events := by
  cases h user hok with
  | @behind hl owner token requests greeting hne hg =>
    obtain rfl := Except.ok.inj hok
    refine ⟨token, joined_orderly hc hl owner token [], ?_⟩
    simp only [Step.greeting, Turn.ofAttempt, Except.map, Http.Remote.advance,
      Http.Remote.ofReplies, List.nil_append]
    rw [show greetingOf a.script requests = greeting from hg, perform_greeting]
    exact ⟨rfl, rfl⟩

theorem verdicts_of_reports (f : Failure) : (reports f).filter Event.isVerdict = [] := by
  cases f <;> rfl

theorem attempt_hears {c : Client} (hc : Orderly c.sessions) (net : Network) {a : Action}
    {attempt : Attempt} (hclean : FailsCleanly c attempt)
    (hgreets : Greets c (.ofReplies a.script) attempt) :
    Hears c (.ofAttempt attempt)
      (textsIn (Endpoint.fresh.receive (Step.greeting ⟨c, a, .ofAttempt attempt⟩)).2) := by
  cases hr : attempt.result with
  | error f =>
    obtain ⟨hclient, hevents⟩ := hclean f hr
    have hnone : Step.greeting ⟨c, a, .ofAttempt attempt⟩ = [] := by
      simp [Step.greeting, Turn.ofAttempt, hr, Except.map]
    rw [hnone]
    apply Hears.nothing
    · rw [Turn.ofAttempt, hclient]
    · simp only [Turn.ofAttempt, hevents, verdicts_of_reports]
  | ok user =>
    obtain ⟨token, hopened, hclient, hevents⟩ := hgreets.joined hc net hr
    have h := greeting_hears hopened net (Step.greeting ⟨c, a, .ofAttempt attempt⟩)
    constructor
    · rw [← h.log, ← hclient]
      rfl
    · rw [← h.told, Turn.ofAttempt, hevents]
      rfl

/-- What any step but a clear puts into the log and tells of texts. -/
theorem perform_hears {c : Client} (hc : Orderly c.sessions) (net : Network) {a : Action}
    (ha : a ≠ .clear) :
    Hears c (c.perform net a) (Step.delivered ⟨c, a, c.perform net a⟩) := by
  have hdoes := perform_does hc net a
  generalize hturn : c.perform net a = turn at hdoes ⊢
  cases hdoes with
  | connect username password replies h =>
    rw [← hturn]
    exact attempt_hears hc net (c.connect_failsCleanly net _ _ _) (connect_greets hc net _ _ _)
  | connectWithToken token replies h =>
    rw [← hturn]
    exact attempt_hears hc net (c.connectWithToken_failsCleanly net _ _)
      (connectWithToken_greets hc net _ _)
  | receive k octets =>
    rw [← hturn]
    exact receive_hears hc net k octets
  | hangUp k cut =>
    rw [← hturn]
    exact hangUp_hears hc net k cut
  | clear => exact absurd rfl ha
  | released h => rcases h with rfl | rfl <;> exact .nothing rfl rfl
  | unsent | sent | unsentThrough | sentThrough | deafen => exact .nothing rfl rfl

theorem logs_received : Logs Client.received fun s => s.delivered.filterMap Message.inText? where
  clear _ := rfl
  step hc net _ ha := (perform_hears hc net ha).log

theorem told_perform {c : Client} (hc : Orderly c.sessions) (net : Network) (a : Action) :
    (c.perform net a).events.filter Event.isVerdict =
      (Step.delivered ⟨c, a, c.perform net a⟩).map Event.ofText := by
  by_cases ha : a = .clear
  · subst ha
    rfl
  · exact (perform_hears hc net ha).told

theorem listening_throughout (net : Network) (server : Server) (clock : FixedClock)
    (audience : Audience) (actions : List Action)
    (h : (after net (fresh server clock audience) actions).audience = .listening) :
    ∀ s ∈ steps net (fresh server clock audience) actions, s.told = s.turn := by
  induction actions using List.reverseRecOn with
  | nil => exact fun s hs => absurd hs List.not_mem_nil
  | append_singleton actions a ih =>
    rw [after_append_singleton] at h
    rw [steps_append_singleton]
    intro s hs
    rcases List.mem_append.1 hs with hs | hs
    · exact ih (audience_perform (orderly_after net server clock audience actions) h) s hs
    · rw [List.mem_singleton.1 hs, Step.told, heardBy, if_pos h]

theorem perform_joined {c : Client} (hc : Orderly c.sessions) {net : Network} {a : Action}
    {user : User} (hok : (c.perform net a).result = .ok (some user)) :
    ∃ token,
      let opened := c.joined user token []
      let arrival := opened.perform net
        (.receive c.sessions.length (Step.greeting ⟨c, a, c.perform net a⟩))
      Orderly opened.sessions ∧ (c.perform net a).client = arrival.client ∧
        (c.perform net a).events = .connected user :: arrival.events := by
  have hresult : ∀ attempt : Attempt, (Turn.ofAttempt attempt).result = .ok (some user) →
      attempt.result = .ok user := by
    intro attempt h
    cases hr : attempt.result with
    | error f => simp [Turn.ofAttempt, hr, Except.map] at h
    | ok found => simpa [Turn.ofAttempt, hr, Except.map] using h
  cases a with
  | connect username password replies =>
    exact Greets.joined (a := .connect username password replies)
      (connect_greets hc net username password _) hc net (hresult _ hok)
  | connectWithToken token replies =>
    exact Greets.joined (a := .connectWithToken token replies)
      (connectWithToken_greets hc net token _) hc net (hresult _ hok)
  | send chatId text => exact absurd hok (ofSend_opens_nothing _ user)
  | sendThrough k text => exact absurd hok (ofSend_opens_nothing _ user)
  | _ => simp [perform, Turn.quiet] at hok

/-- An arrival leaves alone what the client is and what it has sent, and its phase unless the
connection ends. -/
theorem perform_receive_keeps {c : Client} (hc : Orderly c.sessions) (net : Network) (k : Nat)
    (octets : List UInt8) :
    let t := c.perform net (.receive k octets)
    t.client.user = c.user ∧ t.client.sent = c.sent ∧
      ((∀ code, .disconnected code ∉ t.events) → t.client.phase = c.phase) := by
  rw [perform_receive]
  refine ⟨arrive_user c k _, arrive_sent c k _, ?_⟩
  intro hend
  exact arrive_phase hc hend

/-- The log of received messages at the end of any run: of the texts that open connections have
delivered since the last clear, those that are messages, in their order. They are what was told
meanwhile to somebody who listens. Each delivered text is told once, and one that is no message is
told as such, logs nothing, and neither changes what the client is nor what comes later. What a
server sends behind the answer that opens a connection is no different from what arrives there. -/
theorem received_of_run (net : Network) (server : Server) (clock : FixedClock) (audience : Audience)
    (actions : List Action) :
    let start := fresh server clock audience
    let run := steps net start actions
    let c := after net start actions
    c.received = (sinceClear run).flatMap (fun s => s.delivered.filterMap Message.inText?) ∧
      (c.audience = .listening →
        c.received = (sinceClear run).flatMap fun s => s.told.events.filterMap Event.message?) ∧
      (∀ s ∈ run,
        s.turn.events.filter Event.isVerdict = s.delivered.map Event.ofText ∧
        (∀ k octets, s.action = .receive k octets →
          s.turn.client.user = s.before.user ∧ s.turn.client.sent = s.before.sent ∧
            ((∀ code, .disconnected code ∉ s.turn.events) →
              s.turn.client.phase = s.before.phase)) ∧
        ∀ user, s.turn.result = .ok (some user) →
          ∃ token,
            let k := s.before.sessions.length
            let opened := s.before.joined user token []
            let arrival := opened.perform net (.receive k s.greeting)
            opened.Rests k ∧ opened.Splices net k ∧ opened.Skips net k ∧
              s.turn.client = arrival.client ∧
              s.turn.events = .connected user :: arrival.events) ∧
      (∀ k, c.Splices net k ∧ c.Skips net k) ∧
      ∀ text f, Message.ofFrame text = .error f → ∃ reason, f = .malformedMessage reason := by
  intro start run c
  have hc : Orderly c.sessions := orderly_after net server clock audience actions
  have hlog : c.received =
      (sinceClear run).flatMap fun s => s.delivered.filterMap Message.inText? :=
    logs_received.after rfl net actions
  refine ⟨hlog, ?_, ?_, fun k => ⟨splices hc net k, skips hc net k⟩, ?_⟩
  · intro hlistening
    have hall := listening_throughout net server clock audience actions hlistening
    rw [hlog]
    apply List.flatMap_congr
    intro s hs
    have hrun := mem_of_mem_sinceClear hs
    rw [hall s hrun]
    obtain ⟨earlier, a, rfl⟩ := mem_steps hrun
    have hbefore := orderly_after net server clock audience earlier
    exact (messages_of_told (told_perform hbefore net a)).symm
  · intro s hs
    obtain ⟨earlier, a, rfl⟩ := mem_steps hs
    have hbefore := orderly_after net server clock audience earlier
    refine ⟨told_perform hbefore net a, ?_, ?_⟩
    · rintro k octets rfl
      exact perform_receive_keeps hbefore net k octets
    · intro user hok
      obtain ⟨token, hopened, hclient, hevents⟩ := perform_joined hbefore hok
      exact ⟨token, joined_rests _ user token, splices hopened net _, skips hopened net _, hclient,
        hevents⟩
  · intro text f htext
    rcases Message.ofFrame_eq_ok_or text with ⟨m, hm⟩ | ⟨reason, hm⟩
    · rw [htext] at hm
      simp at hm
    · rw [htext] at hm
      exact ⟨reason, Except.error.inj hm⟩

def greetingText : String :=
  "[\"1\",\"welcome\",[\"general\"],[\"u2\",\"bob\"],\"2017-01-01T00:00:00Z\"]"

def greetingMessage : Message :=
  ⟨"1", "welcome", ⟨"general", [], []⟩, ⟨"u2", "bob"⟩, ⟨1483228800, 0, by decide, by decide⟩⟩

def textFrame (text : String) : List UInt8 := Socket.Frame.octets .text (Text.octets text)

/-- A client hears a message behind the answer, clears its logs and hears it again. -/
def hearing : List Action :=
  [.connectWithToken ⟨"t"⟩ [identity, Manager.agreement (textFrame greetingText)], .clear,
    .receive 0 (textFrame greetingText)]

theorem received_of_run_hearing :
    let c := after Manager.everywhere newcomer hearing
    let message := textFrame greetingText
    c.received = [greetingMessage] ∧
      (c.perform Manager.everywhere
          (.receive 0 (message ++ (textFrame "late" ++ message)))).client =
        (c.perform Manager.everywhere (.receive 0 (message ++ message))).client ∧
      .failed (.malformedMessage "expected value at line 1 column 1") ∈
        (c.perform Manager.everywhere
          (.receive 0 (message ++ (textFrame "late" ++ message)))).events := by
  obtain ⟨hlog, -, -, hgoes, -⟩ :=
    received_of_run Manager.everywhere .standard (.ofMillis 0) .listening hearing
  intro c message
  have hmanager : (c.perform Manager.everywhere (.receive 0 message)).client.sessions[0]?.map
      (·.manager) = some ⟨.opened, some 0, [.fresh]⟩ := by
    decide +kernel
  have htext : Message.ofFrame "late" =
      .error (.malformedMessage "expected value at line 1 column 1") := by
    decide +kernel
  obtain ⟨s, hs, hm⟩ := Option.map_eq_some_iff.1 hmanager
  have hrests : (c.perform Manager.everywhere (.receive 0 message)).client.Rests 0 :=
    ⟨s, .fresh, hs, by rw [hm], by rw [hm], rfl⟩
  have hspells : Endpoint.Spells (textFrame "late") "late" :=
    Endpoint.spells_frame "late" (by decide +kernel)
  have hskips : c.Skips Manager.everywhere 0 := (hgoes 0).2
  obtain ⟨later, -, hturn⟩ := hskips message _ message _ _ hrests hspells htext
  refine ⟨hlog.trans (by decide +kernel), by rw [hturn], ?_⟩
  rw [hturn]
  exact List.mem_append_right _ List.mem_cons_self

end Client

end Parley
