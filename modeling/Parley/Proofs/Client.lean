import Parley.Client.Turn
import Parley.Proofs.Session

/-! The runs of a client. Every action but a connect works on one session, through its manager
alone, and a connect that succeeds puts a new session behind the others; only the last session can
be open. What a client hears is the signals of one session, each told as one event. -/

namespace Parley

open Connection

def Signal.message? : Signal → Option Message
  | .text s => (Message.ofFrame s).toOption
  | _ => none

def Signal.event (user : User) : Signal → Event
  | .opened => .connected user
  | .text s =>
    match Message.ofFrame s with
    | .ok m => .message m
    | .error f => .failed f
  | .failed f => .failed f
  | .closed code => .disconnected code

def Session.update (g : Manager → Manager) (s : Session) : Session :=
  { s with manager := g s.manager }

namespace Client

open Manager (Conduct)

theorem hear_eq (c : Client) (user : User) (signals : List Signal) :
    c.hear user signals =
      ({ c with received := c.received ++ signals.filterMap Signal.message? },
        signals.map (Signal.event user)) := by
  induction signals generalizing c with
  | nil => simp [hear]
  | cons signal signals ih =>
    cases signal with
    | text s =>
      cases hm : Message.ofFrame s with
      | ok m => simp [hear, hearOne, ih, Signal.message?, Signal.event, hm, Except.toOption]
      | error f => simp [hear, hearOne, ih, Signal.message?, Signal.event, hm, Except.toOption]
    | _ => simp [hear, hearOne, ih, List.filterMap_cons, Signal.message?, Signal.event]

theorem set_manager {sessions : List Session} {k : Nat} {s : Session} (h : sessions[k]? = some s)
    (g : Manager → Manager) :
    sessions.set k { s with manager := g s.manager } = sessions.modify k (Session.update g) := by
  apply List.ext_getElem?
  intro i
  rw [List.getElem?_set, List.getElem?_modify]
  by_cases hi : k = i
  · subst hi
    rw [h, if_pos rfl, if_pos (List.getElem?_eq_some_iff.1 h).1]
    simp [Session.update]
  · simp [hi]

theorem onSession_none {c : Client} {k : Nat} (h : c.sessions[k]? = none)
    (f : Manager → Manager × List Signal) : c.onSession k f = (c, []) := by
  simp [onSession, h]

theorem onSession_some {c : Client} {k : Nat} {s : Session} (h : c.sessions[k]? = some s)
    (f : Manager → Manager × List Signal) :
    c.onSession k f =
      ({ c with
          sessions := c.sessions.modify k (Session.update fun m => (f m).1)
          received := c.received ++ (f s.manager).2.filterMap Signal.message? },
        (f s.manager).2.map (Signal.event s.user)) := by
  simp [onSession, h, hear_eq, set_manager h fun m => (f m).1]

theorem sendOn_none {c : Client} {k : Nat} (h : c.sessions[k]? = none)
    (f : Manager → Except Failure Unit × Manager × List Signal) :
    c.sendOn k f = (.error .notConnected, c, []) := by
  simp [sendOn, h]

theorem sendOn_some {c : Client} {k : Nat} {s : Session} (h : c.sessions[k]? = some s)
    (f : Manager → Except Failure Unit × Manager × List Signal) :
    c.sendOn k f =
      ((f s.manager).1,
        { c with
          sessions := c.sessions.modify k (Session.update fun m => (f m).2.1)
          received := c.received ++ (f s.manager).2.2.filterMap Signal.message? },
        (f s.manager).2.2.map (Signal.event s.user)) := by
  simp [sendOn, h, hear_eq, set_manager h fun m => (f m).2.1]

/-- Every session has its one connection, and only the last one can be open. -/
structure Orderly (sessions : List Session) (P : Manager → Prop := Manager.Single) : Prop where
  single : ∀ (k : Nat) (s : Session), sessions[k]? = some s → P s.manager
  earlier : ∀ (k : Nat) (s : Session),
    sessions[k]? = some s → k + 1 < sessions.length → s.manager.phase = .closed

section Sessions

variable {P : Manager → Prop} {sessions sessions' : List Session}

theorem Orderly.modify (h : Orderly sessions P) (k : Nat) {g : Manager → Manager}
    (hg : Manager.Tame g P) : Orderly (sessions.modify k (Session.update g)) P := by
  have hget : ∀ (i : Nat) (s : Session), (sessions.modify k (Session.update g))[i]? = some s →
      ∃ t : Session, sessions[i]? = some t ∧ (s = t ∨ s = t.update g) := by
    intro i s hs
    rw [List.getElem?_modify] at hs
    obtain ⟨t, ht, rfl⟩ := Option.map_eq_some_iff.1 hs
    refine ⟨t, ht, ?_⟩
    split
    · exact Or.inr rfl
    · exact Or.inl rfl
  constructor
  · intro i s hs
    obtain ⟨t, ht, rfl | rfl⟩ := hget i s hs
    · exact h.single i s ht
    · exact hg.single _ (h.single i t ht)
  · intro i s hs hi
    rw [List.length_modify] at hi
    obtain ⟨t, ht, rfl | rfl⟩ := hget i s hs
    · exact h.earlier i s ht hi
    · exact hg.closed _ (h.single i t ht) (h.earlier i t ht hi)

theorem Orderly.append (h : Orderly sessions P)
    (hclosed : ∀ s, sessions.getLast? = some s → s.manager.phase = .closed) {s : Session}
    (hs : P s.manager) : Orderly (sessions ++ [s]) P := by
  constructor
  · intro i t ht
    rcases getElem?_concat_cases ht with ⟨-, ht⟩ | ⟨-, rfl⟩
    · exact h.single i t ht
    · exact hs
  · intro i t ht hi
    rw [List.length_append, List.length_singleton] at hi
    rcases getElem?_concat_cases ht with ⟨hlt, ht⟩ | ⟨rfl, -⟩
    · by_cases hlast : i + 1 = sessions.length
      · apply hclosed
        rw [List.getLast?_eq_getElem?, ← hlast, Nat.add_sub_cancel, ht]
      · exact h.earlier i t ht (by omega)
    · omega

end Sessions

theorem phase_of_last {c : Client} {s : Session} (h : c.sessions.getLast? = some s) :
    c.phase = s.manager.phase := by
  simp [phase, h]

theorem phase_at_last {c : Client} {s : Session} (h : c.sessions[c.sessions.length - 1]? = some s) :
    c.phase = s.manager.phase :=
  phase_of_last (by rwa [List.getLast?_eq_getElem?])

/-- Where no connection is open or on its way, the last one is closed. -/
theorem Orderly.last_closed {c : Client} {P : Manager → Prop} (h : Orderly c.sessions P)
    (hP : ∀ m : Manager, P m → m.phase = .closed ∨ m.phase = .opened)
    (hl : c.phase.isLive = false) :
    ∀ s, c.sessions.getLast? = some s → s.manager.phase = .closed := by
  intro s hs
  rw [phase_of_last hs] at hl
  rw [List.getLast?_eq_getElem?] at hs
  rcases hP _ (h.single _ s hs) with hp | hp
  · exact hp
  · rw [hp] at hl
    exact Bool.noConfusion hl

theorem last_closed {c : Client} (h : Orderly c.sessions) (hl : c.phase.isLive = false) :
    ∀ s, c.sessions.getLast? = some s → s.manager.phase = .closed :=
  h.last_closed (fun _ hm => hm.phase_cases) hl

def released (sessions : List Session) : List Session :=
  sessions.modify (sessions.length - 1) (Session.update fun m => m.close.1)

theorem closeLast_eq {c : Client} (h : Orderly c.sessions) :
    c.closeLast = ({ c with sessions := released c.sessions }, []) := by
  simp only [closeLast, released, Conduct.settled_close]
  cases hs : c.sessions[c.sessions.length - 1]? with
  | none =>
    rw [onSession_none hs, List.modify_eq_self (List.getElem?_eq_none_iff.1 hs)]
  | some s =>
    have hquiet : s.manager.close.2 = [] := by
      rcases (h.single _ s hs).phase_cases with hp | hp
      · rw [Manager.close_single_closed (h.single _ s hs) hp]
      · obtain ⟨l, hl, hm⟩ := (h.single _ s hs).opened_eq hp
        rw [hm, Manager.close_single_opened hl]
    rw [onSession_some hs, hquiet]
    simp

theorem modify_manager_same {sessions : List Session} {k : Nat} {s : Session}
    (h : sessions[k]? = some s) {g : Manager → Manager} (hg : g s.manager = s.manager) :
    sessions.modify k (Session.update g) = sessions := by
  rw [← set_manager h, hg]
  obtain ⟨hlt, rfl⟩ := List.getElem?_eq_some_iff.1 h
  exact List.set_getElem_self hlt

def arrive (c : Client) (k : Nat) (a : Link.Arrival) : Client × List Event :=
  c.onSession k (·.arrive 0 a)

theorem arrive_none {c : Client} {k : Nat} (h : c.sessions[k]? = none) (a : Link.Arrival) :
    c.arrive k a = (c, []) :=
  onSession_none h _

theorem arrive_some {c : Client} {k : Nat} {s : Session} (h : c.sessions[k]? = some s)
    (a : Link.Arrival) :
    c.arrive k a =
      ({ c with
          sessions := c.sessions.modify k (Session.update fun m => (m.arrive 0 a).1)
          received := c.received ++ (s.manager.arrive 0 a).2.filterMap Signal.message? },
        (s.manager.arrive 0 a).2.map (Signal.event s.user)) :=
  onSession_some h _

theorem receive_eq (c : Client) (k : Nat) (bs : List UInt8) :
    c.onSession k (·.receive 0 bs) = c.arrive k (.octets bs) := by
  simp only [arrive, Manager.receive_eq]

theorem hangUp_eq (c : Client) (k : Nat) (cut : Socket.Cut) :
    c.onSession k (·.hangUp 0 cut) = c.arrive k (.hangUp cut) := by
  simp only [arrive, Manager.hangUp_eq]

theorem perform_receive (c : Client) (net : Network) (k : Nat) (bs : List UInt8) :
    c.perform net (.receive k bs) = .quiet (c.arrive k (.octets bs)) :=
  congrArg Turn.quiet (receive_eq c k bs)

theorem perform_hangUp (c : Client) (net : Network) (k : Nat) (cut : Socket.Cut) :
    c.perform net (.hangUp k cut) = .quiet (c.arrive k (.hangUp cut)) :=
  congrArg Turn.quiet (hangUp_eq c k cut)

theorem sendThrough_none {c : Client} {k : Nat} (h : c.sessions[k]? = none) (text : String) :
    c.sendThrough k text = (.error .notConnected, c, []) :=
  sendOn_none h _

theorem sendThrough_closed {c : Client} (hc : Orderly c.sessions) {k : Nat} {s : Session}
    (h : c.sessions[k]? = some s) (hp : s.manager.phase = .closed) (text : String) :
    c.sendThrough k text = (.error .notConnected, c, []) := by
  have hs := Manager.sendThrough_single_closed (hc.single k s h) hp 0 text
  simp only [sendThrough, Conduct.settled_sendThrough]
  rw [sendOn_some h, modify_manager_same h (by rw [hs]), hs]
  simp

theorem sendThrough_opened {c : Client} (hc : Orderly c.sessions) {k : Nat} {s : Session}
    (h : c.sessions[k]? = some s) (hp : s.manager.phase = .opened) (text : String) :
    c.sendThrough k text =
      (.ok (),
        { c with
          sessions := c.sessions.modify k (Session.update fun m => (m.sendThrough 0 text).2.1) },
        []) := by
  obtain ⟨l, hl, hm⟩ := (hc.single k s h).opened_eq hp
  have hs : s.manager.sendThrough 0 text = (.ok (), ⟨.opened, some 0, [l.sent text]⟩, []) := by
    rw [hm, Manager.sendThrough_single_opened hl]
  simp only [sendThrough, Conduct.settled_sendThrough]
  rw [sendOn_some h, hs]
  simp

theorem send_refused {c : Client} (h : c.user = none ∨ c.phase ≠ .opened) (chatId text : String)
    (conduct : Conduct := .settled) :
    c.send chatId text conduct = (.error .notConnected, c, []) := by
  unfold send
  split
  · rfl
  · rename_i user hu
    rcases h with h | h
    · rw [h] at hu
      exact absurd hu (by simp)
    · rw [if_pos h]

theorem last_of_opened {c : Client} (h : c.phase = .opened) :
    ∃ s, c.sessions[c.sessions.length - 1]? = some s ∧ s.manager.phase = .opened := by
  rw [← List.getLast?_eq_getElem?]
  cases hs : c.sessions.getLast? with
  | none => simp [phase, hs] at h
  | some s => exact ⟨s, rfl, (phase_of_last hs).symm.trans h⟩

theorem send_accepted {c : Client} (hc : Orderly c.sessions) {user : User} (hu : c.user = some user)
    (hp : c.phase = .opened) (chatId text : String) :
    c.send chatId text =
      (.ok (),
        { c with
          sessions := c.sessions.modify (c.sessions.length - 1)
            (Session.update fun m =>
              (m.send (Envelope.seal user chatId text c.clock.now).toFrame).2.1)
          sent := c.sent ++ [Envelope.seal user chatId text c.clock.now] }, []) := by
  obtain ⟨s, hs, hsp⟩ := last_of_opened hp
  obtain ⟨l, hl, hm⟩ := (hc.single _ s hs).opened_eq hsp
  have hsend := fun frame => Manager.send_single_opened hl frame
  unfold send
  rw [hu]
  simp only [ne_eq, hp, not_true, if_false, Conduct.settled_sendThrough]
  rw [sendOn_some hs, hm, hsend]
  simp [hu]

theorem send_cases {c : Client} (hc : Orderly c.sessions) (chatId text : String) :
    c.send chatId text = (.error .notConnected, c, []) ∨
      ∃ user, c.user = some user ∧ c.phase = .opened ∧
        c.send chatId text =
          (.ok (),
            { c with
              sessions := c.sessions.modify (c.sessions.length - 1)
                (Session.update fun m =>
                  (m.send (Envelope.seal user chatId text c.clock.now).toFrame).2.1)
              sent := c.sent ++ [Envelope.seal user chatId text c.clock.now] }, []) := by
  by_cases h : c.user = none ∨ c.phase ≠ .opened
  · exact Or.inl (send_refused h chatId text)
  · rw [not_or, not_not] at h
    obtain ⟨user, hu⟩ := Option.ne_none_iff_exists'.1 h.1
    exact Or.inr ⟨user, hu, h.2, send_accepted hc hu h.2 chatId text⟩

theorem sendThrough_cases {c : Client} (hc : Orderly c.sessions) (k : Nat) (text : String) :
    c.sendThrough k text = (.error .notConnected, c, []) ∨
      ∃ s, c.sessions[k]? = some s ∧ s.manager.phase = .opened ∧
        c.sendThrough k text =
          (.ok (),
            { c with
              sessions :=
                c.sessions.modify k (Session.update fun m => (m.sendThrough 0 text).2.1) },
            []) := by
  cases hk : c.sessions[k]? with
  | none => exact Or.inl (sendThrough_none hk text)
  | some s =>
    rcases (hc.single k s hk).phase_cases with hp | hp
    · exact Or.inl (sendThrough_closed hc hk hp text)
    · exact Or.inr ⟨s, rfl, hp, sendThrough_opened hc hk hp text⟩

theorem disconnect_eq {c : Client} (hc : Orderly c.sessions) :
    c.disconnect =
      ({ c with sessions := released c.sessions, token := none, user := none }, []) := by
  unfold disconnect
  rw [closeLast_eq hc]

/-- A further session has been put behind the others, and what its server sent behind the answer has
been heard. -/
def joined (c : Client) (user : User) (token : Token) (greeting : List UInt8) : Client :=
  { c with
    sessions := released c.sessions ++ [⟨user, (Manager.begun greeting).1⟩]
    token := some token
    user := some user
    received := c.received ++ (Manager.begun greeting).2.filterMap Signal.message? }

theorem released_length (sessions : List Session) : (released sessions).length = sessions.length :=
  List.length_modify ..

theorem joined_newest (c : Client) (user : User) (token : Token) (greeting : List UInt8) :
    (c.joined user token greeting).sessions[c.sessions.length]? =
      some ⟨user, (Manager.begun greeting).1⟩ := by
  rw [← released_length c.sessions]
  exact List.getElem?_concat_length

theorem joined_earlier (c : Client) (user : User) (token : Token) (greeting : List UInt8) {n : Nat}
    (h : n ≠ c.sessions.length) :
    (c.joined user token greeting).sessions[n]? = (released c.sessions)[n]? := by
  have hlen := released_length c.sessions
  simp only [joined]
  by_cases hn : n < (released c.sessions).length
  · exact List.getElem?_append_left hn
  · have hout :
        (released c.sessions ++ [Session.mk user (Manager.begun greeting).1]).length ≤ n := by
      rw [List.length_append, List.length_singleton]
      omega
    rw [List.getElem?_eq_none hout, List.getElem?_eq_none (by omega)]

/-- What a connect comes to: nothing at all, nothing but the report of a failed handshake, or a
session more. -/
inductive Outcome (c : Client) (net : Network) : Attempt → Prop
  | refused (f : Failure) (remote : Http.Remote) : Outcome c net ⟨.error f, c, [], remote⟩
  | unagreed (text : String) (remote : Http.Remote) :
      Outcome c net ⟨.error (.handshake text), c, [.failed (.handshake text)], remote⟩
  | joined (hl : c.phase.isLive = false) (user : User) (token : Token) {greeting : List UInt8}
      {url : Url}
      {before remote : Http.Remote} (hurl : c.server.chatUrl token = .ok url)
      (hs : Socket.handshake net url before = (.ok greeting, remote)) :
      Outcome c net
        ⟨.ok user, c.joined user token greeting,
          .connected user :: (Manager.begun greeting).2.map (Signal.event user), remote⟩

/-- What is left of a connect once the server has agreed to the handshake. -/
def adopt (c : Client) (user : User) (token : Token) (greeting : List UInt8)
    (remote : Http.Remote) (conduct : Conduct) : Attempt :=
  let (result, m, signals) := conduct.establish Manager.fresh.begin greeting
  let (heard, events) := c.hear user signals
  match result with
  | .error f => ⟨.error f, heard, events, remote⟩
  | .ok () =>
    let (closed, more) := heard.closeLast conduct
    let client := {
      closed with
      sessions := closed.sessions ++ [⟨user, m⟩]
      token := some token
      user := some user }
    ⟨.ok user, client, events ++ more, remote⟩

/-- What a connect comes to, whatever is done about the tasks: only once the server has agreed does
that make a difference. -/
inductive Reaches (c : Client) (net : Network) : (Conduct → Attempt) → Prop
  | refused (f : Failure) (remote : Http.Remote) : Reaches c net fun _ => ⟨.error f, c, [], remote⟩
  | unagreed (text : String) (remote : Http.Remote) :
      Reaches c net
        fun _ => ⟨.error (.handshake text), c, [.failed (.handshake text)], remote⟩
  | agreed (hl : c.phase.isLive = false) (user : User) (token : Token) {greeting : List UInt8}
      {url : Url} {before remote : Http.Remote} (hurl : c.server.chatUrl token = .ok url)
      (hs : Socket.handshake net url before = (.ok greeting, remote)) :
      Reaches c net (c.adopt user token greeting remote)

theorem openWith_adopt {c : Client} {net : Network} {token : Token}
    {remote before after : Http.Remote} {user : User} {url : Url} {greeting : List UInt8}
    (hidentify : c.server.identify net token remote = (.ok user, before))
    (hurl : c.server.chatUrl token = .ok url)
    (hs : Socket.handshake net url before = (.ok greeting, after)) (conduct : Conduct) :
    c.openWith net token remote conduct = c.adopt user token greeting after conduct := by
  simp only [openWith, hidentify, hurl, Manager.dial, Manager.fresh, Phase.isLive, hs, adopt]
  rfl

theorem openWith_reaches {c : Client} (hl : c.phase.isLive = false) (net : Network) (token : Token)
    (remote : Http.Remote) : Reaches c net (c.openWith net token remote ·) := by
  rcases hidentify : c.server.identify net token remote with ⟨found, before⟩
  cases found with
  | error f =>
    simp only [openWith, hidentify]
    exact .refused f before
  | ok user =>
    cases hurl : c.server.chatUrl token with
    | error f =>
      simp only [openWith, hidentify, hurl]
      exact .refused f before
    | ok url =>
      rcases hs : Socket.handshake net url before with ⟨result, after⟩
      cases result with
      | error refusal =>
        simp only [openWith, hidentify, hurl, Manager.dial_fresh_refused hs, hear_eq,
          List.filterMap_cons, Signal.message?, List.filterMap_nil, List.append_nil,
          List.map_cons, List.map_nil, Signal.event]
        exact .unagreed _ after
      | ok greeting =>
        simp only [openWith_adopt hidentify hurl hs]
        exact .agreed hl user token hurl hs

theorem connect_reaches (c : Client) (net : Network) (username password : String)
    (remote : Http.Remote) : Reaches c net (c.connect net username password remote ·) := by
  cases hmake : Credentials.make username password with
  | error f =>
    simp only [connect, hmake]
    exact .refused f remote
  | ok credentials =>
    cases hl : c.phase.isLive with
    | true =>
      simp only [connect, hmake, hl, if_true]
      exact .refused _ remote
    | false =>
      rcases hlogin : c.server.login net credentials remote with ⟨found, after⟩
      cases found with
      | error f =>
        simp only [connect, hmake, hl, hlogin, if_neg Bool.false_ne_true]
        exact .refused f after
      | ok token =>
        simp only [connect, hmake, hl, hlogin, if_neg Bool.false_ne_true]
        exact openWith_reaches hl net token after

theorem connectWithToken_reaches (c : Client) (net : Network) (token : Token)
    (remote : Http.Remote) : Reaches c net (c.connectWithToken net token remote ·) := by
  unfold connectWithToken
  by_cases htoken : token.isEmpty = true
  · simp only [if_pos htoken]
    exact .refused _ remote
  cases hl : c.phase.isLive with
  | true =>
    simp only [if_neg htoken, if_true]
    exact .refused _ remote
  | false =>
    simp only [if_neg htoken, if_neg Bool.false_ne_true]
    exact openWith_reaches hl net token remote

theorem adopt_settled {c : Client} (hc : Orderly c.sessions) (user : User) (token : Token)
    (greeting : List UInt8) (remote : Http.Remote) :
    c.adopt user token greeting remote .settled =
      ⟨.ok user, c.joined user token greeting,
        .connected user :: (Manager.begun greeting).2.map (Signal.event user), remote⟩ := by
  have hheard : Orderly { c with received :=
      c.received ++ (Manager.begun greeting).2.filterMap Signal.message? }.sessions := hc
  have hestablish : Manager.fresh.begin.establish greeting =
      (.ok (), (Manager.begun greeting).1, .opened :: (Manager.begun greeting).2) := by
    simp [Manager.establish, Manager.begin, Manager.fresh, Manager.receive_eq, Manager.begun]
  simp only [adopt, Conduct.settled_establish, hestablish, hear_eq, List.filterMap_cons,
    Signal.message?, List.map_cons, Signal.event, closeLast_eq hheard, List.append_nil]
  rfl

theorem openWith_agreed {c : Client} (hc : Orderly c.sessions) {net : Network} {token : Token}
    {remote before after : Http.Remote} {user : User} {url : Url} {greeting : List UInt8}
    (hidentify : c.server.identify net token remote = (.ok user, before))
    (hurl : c.server.chatUrl token = .ok url)
    (hs : Socket.handshake net url before = (.ok greeting, after)) :
    c.openWith net token remote =
      ⟨.ok user, c.joined user token greeting,
        .connected user :: (Manager.begun greeting).2.map (Signal.event user), after⟩ := by
  rw [openWith_adopt hidentify hurl hs, adopt_settled hc]

theorem Reaches.outcome {c : Client} {net : Network} {attempts : Conduct → Attempt}
    (h : Reaches c net attempts) (hc : Orderly c.sessions) :
    Outcome c net (attempts .settled) := by
  cases h with
  | refused f remote => exact .refused f remote
  | unagreed text remote => exact .unagreed text remote
  | agreed hl user token hurl hs =>
    rw [adopt_settled hc]
    exact .joined hl user token hurl hs

theorem connect_outcome {c : Client} (hc : Orderly c.sessions) (net : Network)
    (username password : String) (remote : Http.Remote) :
    Outcome c net (c.connect net username password remote) :=
  (c.connect_reaches net username password remote).outcome hc

theorem connectWithToken_outcome {c : Client} (hc : Orderly c.sessions) (net : Network)
    (token : Token) (remote : Http.Remote) :
    Outcome c net (c.connectWithToken net token remote) :=
  (c.connectWithToken_reaches net token remote).outcome hc

/-- What a turn can be, whatever the action. -/
inductive Does (c : Client) (net : Network) : Action → Turn → Prop
  | connect (username password : String) (replies : List Http.Reply) {attempt : Attempt}
    (h : Outcome c net attempt) :
    Does c net (.connect username password replies) (.ofAttempt attempt)
  | connectWithToken (token : Token) (replies : List Http.Reply) {attempt : Attempt}
    (h : Outcome c net attempt) :
    Does c net (.connectWithToken token replies) (.ofAttempt attempt)
  | unsent (chatId text : String) :
    Does c net (.send chatId text) ⟨.error .notConnected, c, [], .ofReplies []⟩
  | sent {user : User} (hu : c.user = some user) (hp : c.phase = .opened) (chatId text : String) :
    Does c net (.send chatId text)
      ⟨.ok none,
        { c with
          sessions := c.sessions.modify (c.sessions.length - 1)
            (Session.update fun m =>
              (m.send (Envelope.seal user chatId text c.clock.now).toFrame).2.1)
          sent := c.sent ++ [Envelope.seal user chatId text c.clock.now] },
        [], .ofReplies []⟩
  | unsentThrough (k : Nat) (text : String) :
    Does c net (.sendThrough k text) ⟨.error .notConnected, c, [], .ofReplies []⟩
  | sentThrough {k : Nat} {s : Session} (hk : c.sessions[k]? = some s)
    (hp : s.manager.phase = .opened) (text : String) :
    Does c net (.sendThrough k text)
      ⟨.ok none,
        { c with
          sessions := c.sessions.modify k (Session.update fun m => (m.sendThrough 0 text).2.1) },
        [], .ofReplies []⟩
  | released {a : Action} (ha : a = .disconnect ∨ a = .drop) :
    Does c net a
      (.quiet ({ c with sessions := Client.released c.sessions, token := none, user := none }, []))
  | clear : Does c net .clear (.quiet (c.clear, []))
  | deafen :
    Does c net .deafen
      (.quiet ({ c with audience := if c.audience = .silent then .silent else .gone }, []))
  | receive (k : Nat) (bs : List UInt8) :
    Does c net (.receive k bs) (.quiet (c.arrive k (.octets bs)))
  | hangUp (k : Nat) (cut : Socket.Cut) :
    Does c net (.hangUp k cut) (.quiet (c.arrive k (.hangUp cut)))

theorem perform_does {c : Client} (hc : Orderly c.sessions) (net : Network) (a : Action) :
    Does c net a (c.perform net a) := by
  cases a with
  | connect username password replies =>
    exact .connect username password replies (connect_outcome hc net username password _)
  | connectWithToken token replies =>
    exact .connectWithToken token replies (connectWithToken_outcome hc net token _)
  | send chatId text =>
    simp only [perform, Turn.ofSend]
    rcases send_cases hc chatId text with h | ⟨user, hu, hp, h⟩
    · rw [h]
      exact .unsent chatId text
    · rw [h]
      exact .sent hu hp chatId text
  | sendThrough k text =>
    simp only [perform, Turn.ofSend]
    rcases sendThrough_cases hc k text with h | ⟨s, hk, hp, h⟩
    · rw [h]
      exact .unsentThrough k text
    · rw [h]
      exact .sentThrough hk hp text
  | disconnect =>
    simp only [perform, disconnect_eq hc]
    exact .released (Or.inl rfl)
  | drop =>
    simp only [perform, disconnect_eq hc]
    exact .released (Or.inr rfl)
  | clear => exact .clear
  | deafen => exact .deafen
  | receive k bs =>
    rw [perform_receive]
    exact .receive k bs
  | hangUp k cut =>
    rw [perform_hangUp]
    exact .hangUp k cut

/-- What may happen to the sessions: nothing, an operation on the manager of one of them, or one
more behind a last one that has been let go of, which was closed. -/
inductive Evolves (P : Manager → Prop) (sessions : List Session) : List Session → Prop
  | same : Evolves P sessions sessions
  | modify (k : Nat) {g : Manager → Manager} (hg : Manager.Tame g P) :
      Evolves P sessions (sessions.modify k (Session.update g))
  | join (hclosed : ∀ s : Session, sessions.getLast? = some s → s.manager.phase = .closed)
      {g : Manager → Manager} (hg : Manager.Tame g P) (user : User) {m : Manager} (hm : P m) :
      Evolves P sessions
        (sessions.modify (sessions.length - 1) (Session.update g) ++ [⟨user, m⟩])

/-- A connection that was closed, or has ended. -/
def ClosedOn (sessions : List Session) (n : Nat) : Prop :=
  ∃ s, sessions[n]? = some s ∧ s.manager.phase = .closed

section Sessions

variable {P : Manager → Prop} {sessions sessions' : List Session}

theorem Evolves.orderly (h : Evolves P sessions sessions') (hc : Orderly sessions P) :
    Orderly sessions' P := by
  cases h with
  | same => exact hc
  | modify k hg => exact hc.modify k hg
  | join hclosed hg user hm =>
    refine (hc.modify _ hg).append (fun s hlast => ?_) hm
    rw [List.getLast?_eq_getElem?, List.length_modify, List.getElem?_modify_eq] at hlast
    obtain ⟨t, ht, rfl⟩ := Option.map_eq_some_iff.1 hlast
    have hp := hclosed t (by rwa [List.getLast?_eq_getElem?])
    exact hg.closed _ (hc.single _ t ht) hp

theorem ClosedOn.evolves {n : Nat} (h : ClosedOn sessions n) (he : Evolves P sessions sessions')
    (hc : Orderly sessions P) : ClosedOn sessions' n := by
  have hmodify : ∀ (k : Nat) (g : Manager → Manager), Manager.Tame g P →
      ClosedOn (sessions.modify k (Session.update g)) n := by
    intro k g hg
    obtain ⟨s, hs, hp⟩ := h
    by_cases hk : k = n
    · subst hk
      exact ⟨s.update g, by simp [hs], hg.closed _ (hc.single k s hs) hp⟩
    · exact ⟨s, by simp [hk, hs], hp⟩
  cases he with
  | same => exact h
  | modify k hg => exact hmodify k _ hg
  | join hclosed hg user hm =>
    obtain ⟨s, hs, hp⟩ := hmodify (sessions.length - 1) _ hg
    have hlt := (List.getElem?_eq_some_iff.1 hs).1
    exact ⟨s, by rw [List.getElem?_append_left hlt, hs], hp⟩

end Sessions

theorem Outcome.evolves {c : Client} {net : Network} {attempt : Attempt} (hc : Orderly c.sessions)
    (h : Outcome c net attempt) :
    Evolves Manager.Single c.sessions attempt.client.sessions := by
  cases h with
  | refused f remote => exact .same
  | unagreed text remote => exact .same
  | joined hl user token hurl hs =>
    exact .join (last_closed hc hl) Manager.tame_close user (Manager.begun_single _)

theorem arrive_evolves (c : Client) (k : Nat) (a : Link.Arrival) :
    Evolves Manager.Single c.sessions (c.arrive k a).1.sessions := by
  cases hk : c.sessions[k]? with
  | none =>
    rw [arrive_none hk]
    exact .same
  | some s =>
    rw [arrive_some hk]
    exact .modify k (Manager.tame_arrive a)

theorem perform_evolves {c : Client} (hc : Orderly c.sessions) (net : Network) (a : Action) :
    Evolves Manager.Single c.sessions (c.perform net a).client.sessions := by
  have hdoes := perform_does hc net a
  generalize c.perform net a = turn at hdoes ⊢
  cases hdoes with
  | connect _ _ _ h | connectWithToken _ _ h => exact h.evolves hc
  | unsent | unsentThrough | clear | deafen => exact .same
  | sent hu hp chatId text => exact .modify _ (Manager.tame_send _)
  | sentThrough hk hp text => exact .modify _ (Manager.tame_sendThrough text)
  | released ha => exact .modify _ Manager.tame_close
  | receive k bs => exact arrive_evolves c k _
  | hangUp k cut => exact arrive_evolves c k _

theorem Outcome.failed {c : Client} {net : Network} {attempt : Attempt} (h : Outcome c net attempt)
    {f : Failure} (hf : attempt.result.map some = .error f) :
    attempt.client.sessions = c.sessions := by
  cases h with
  | refused g remote => rfl
  | unagreed text remote => rfl
  | joined hl user token hurl hs => simp [Except.map] at hf

/-- An action that fails leaves every connection as it was. -/
theorem perform_failed {c : Client} (hc : Orderly c.sessions) {net : Network} {a : Action}
    {f : Failure}
    (h : (c.perform net a).result = .error f) : (c.perform net a).client.sessions = c.sessions := by
  have hdoes := perform_does hc net a
  generalize c.perform net a = turn at h hdoes ⊢
  cases hdoes with
  | connect _ _ _ ho | connectWithToken _ _ ho => exact ho.failed h
  | unsent | unsentThrough => rfl
  | _ => simp [Turn.quiet] at h

theorem not_closedOn_last {c : Client} (hp : c.phase = .opened) :
    ¬ ClosedOn c.sessions (c.sessions.length - 1) := by
  rintro ⟨s, hs, hsp⟩
  obtain ⟨t, ht, htp⟩ := last_of_opened hp
  rw [hs, Option.some.injEq] at ht
  rw [← ht, hsp] at htp
  exact Phase.noConfusion htp

theorem closedOn_released {c : Client} (hc : Orderly c.sessions) (h : c.sessions ≠ []) :
    ClosedOn (released c.sessions) (c.sessions.length - 1) := by
  have hlt : c.sessions.length - 1 < c.sessions.length := by
    have := List.length_pos_iff.2 h
    omega
  have hs := List.getElem?_eq_getElem hlt
  refine ⟨_, by rw [released, List.getElem?_modify_eq, hs]; rfl, ?_⟩
  have hsingle := hc.single _ _ hs
  rcases hsingle.phase_cases with hp | hp
  · exact Manager.tame_close.closed _ hsingle hp
  · obtain ⟨l, hl, hm⟩ := hsingle.opened_eq hp
    simp [Session.update, hm, Manager.close_single_opened hl]

theorem perform_released {c : Client} (hc : Orderly c.sessions) (net : Network) {a : Action}
    (ha : a = .disconnect ∨ a = .drop) :
    (c.perform net a).client.sessions = released c.sessions := by
  rcases ha with rfl | rfl
  · simp only [perform, Turn.quiet, disconnect_eq hc]
  · simp only [perform, Turn.quiet, disconnect_eq hc]

theorem all_closed {c : Client} (hc : Orderly c.sessions) (net : Network) {a : Action}
    (ha : a = .disconnect ∨ a = .drop) {n : Nat} (h : n < c.sessions.length) :
    ClosedOn (c.perform net a).client.sessions n := by
  rw [perform_released hc net ha]
  by_cases hn : n + 1 = c.sessions.length
  · have hne : c.sessions ≠ [] := List.ne_nil_of_length_pos (by omega)
    have := closedOn_released hc hne
    rwa [← hn] at this
  · have hs := List.getElem?_eq_getElem h
    have hearlier : ClosedOn c.sessions n := ⟨_, hs, hc.earlier n _ hs (by omega)⟩
    exact hearlier.evolves (.modify _ Manager.tame_close) hc

theorem phase_of_released {c d : Client} (hc : Orderly c.sessions)
    (h : d.sessions = released c.sessions) :
    d.phase ≠ .opened := by
  intro hp
  by_cases hne : c.sessions = []
  · simp [phase, h, hne, released] at hp
  · apply not_closedOn_last hp
    have hlen : d.sessions.length = c.sessions.length := by rw [h, released, List.length_modify]
    rw [hlen, h]
    exact closedOn_released hc hne

/-- An action with the client it found and with all it did, whoever listens. -/
structure Step where
  before : Client
  action : Action
  turn : Turn

def steps (net : Network) : Client → List Action → List Step
  | _, [] => []
  | c, a :: actions => ⟨c, a, c.perform net a⟩ :: steps net (c.perform net a).client actions

def Step.told (s : Step) : Turn :=
  { s.turn with events := heardBy s.turn.client.audience s.turn.events }

theorem life_eq (net : Network) (c : Client) (actions : List Action) :
    life net c actions = (steps net c actions).map Step.told := by
  induction actions generalizing c with
  | nil => rfl
  | cons a actions ih => simp only [life, steps, List.map_cons, ih]; rfl

def after (net : Network) (c : Client) (actions : List Action) : Client :=
  actions.foldl (fun c a => (c.perform net a).client) c

theorem after_append_singleton (net : Network) (c : Client) (actions : List Action) (a : Action) :
    after net c (actions ++ [a]) = ((after net c actions).perform net a).client := by
  simp [after]

theorem steps_append_singleton (net : Network) (c : Client) (actions : List Action) (a : Action) :
    steps net c (actions ++ [a]) =
      steps net c actions ++ [⟨after net c actions, a, (after net c actions).perform net a⟩] := by
  induction actions generalizing c with
  | nil => rfl
  | cons b actions ih =>
    simp only [List.cons_append, steps, ih]
    rfl

theorem Orderly.after {c : Client} (hc : Orderly c.sessions) (net : Network)
    (actions : List Action) :
    Orderly (Client.after net c actions).sessions := by
  induction actions using List.reverseRecOn with
  | nil => exact hc
  | append_singleton actions a ih =>
    rw [after_append_singleton]
    exact (perform_evolves ih net a).orderly ih

theorem orderly_after (net : Network) (server : Server) (clock : FixedClock) (audience : Audience)
    (actions : List Action) : Orderly (after net (fresh server clock audience) actions).sessions :=
  Orderly.after ⟨fun _ _ h => by simp [fresh] at h, fun _ _ h => by simp [fresh] at h⟩ net actions

theorem ClosedOn.after {c : Client} {n : Nat} (h : ClosedOn c.sessions n) (hc : Orderly c.sessions)
    (net : Network) (actions : List Action) : ClosedOn (Client.after net c actions).sessions n := by
  induction actions using List.reverseRecOn with
  | nil => exact h
  | append_singleton actions a ih =>
    have ho := hc.after net actions
    rw [after_append_singleton]
    exact ih.evolves (perform_evolves ho net a) ho

/-- Every step of a run is taken by a client that a run has left behind. -/
theorem mem_steps {net : Network} {c : Client} {actions : List Action} {s : Step}
    (h : s ∈ steps net c actions) :
    ∃ earlier a, s = ⟨after net c earlier, a, (after net c earlier).perform net a⟩ := by
  induction actions using List.reverseRecOn with
  | nil => simp [steps] at h
  | append_singleton actions a ih =>
    rw [steps_append_singleton, List.mem_append, List.mem_singleton] at h
    rcases h with h | h
    · exact ih h
    · exact ⟨actions, a, h⟩

def identity : Http.Reply :=
  .answer ⟨200, none, none, none, true,
    Text.octets "\x7b\"user\":\x7b\"id\":\"u1\",\"name\":\"ada\"\x7d\x7d", true⟩

def newcomer : Client := fresh .standard (.ofMillis 0) .listening

/-- A client sends, disconnects and connects again, before its first connection ends. -/
def reconnecting : List Action :=
  [.connectWithToken ⟨"t"⟩ [identity, Manager.agreement []], .send "general" "hello", .disconnect,
    .connectWithToken ⟨"t"⟩ [identity, Manager.agreement []], .sendThrough 1 "raw", .hangUp 0]

end Client

end Parley
