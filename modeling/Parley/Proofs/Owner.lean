import Parley.Proofs.Events
import Parley.Proofs.Wire

/-! Whose a client is, and which of its connections is live. The owner is the user of the last
connect that succeeded, until a disconnect. A connection is live while its end has not been told and
no close frame stands on it: only the newest can be live, and it is so exactly while the client is
open. -/

namespace Parley

open Connection Socket

namespace Manager

/-- What a connection has from its opening on, and what nothing that is done on it takes away. -/
structure Kept (P : Manager → Prop) : Prop where
  begun : ∀ greeting, P (Manager.begun greeting).1
  arrive : ∀ {m : Manager}, m.Single → P m → ∀ a, P (m.arrive 0 a).1
  sendThrough : ∀ {m : Manager}, m.Single → P m → ∀ text, P (m.sendThrough 0 text).2.1
  close : ∀ {m : Manager}, m.Single → P m → P m.close.1

theorem send_single {m : Manager} (h : m.Single) (text : String) :
    m.send text = m.sendThrough 0 text := by
  cases h with
  | closed held h =>
    rw [send_single_closed (.closed held h) rfl, sendThrough_single_closed (.closed held h) rfl]
  | opened h => rfl

/-- The phase tells whether either side has ended the connection. -/
def Candid (m : Manager) : Prop :=
  m.phase = .opened ↔ m.reading = true ∧ .close normal "" ∉ m.frames

theorem arrive_phase_iff {m : Manager} (h : m.Single) (a : Link.Arrival) :
    (m.arrive 0 a).1.phase = .opened ↔ m.phase = .opened ∧ (m.arrive 0 a).1.reading = true := by
  obtain ⟨l, hl⟩ := h.links_eq
  rw [h.arrive_eq hl]
  simp only [reading, List.any_cons, List.any_nil, Bool.or_false, Link.rest_reading, Link.arrive]
  cases hr : l.reading with
  | false =>
    have hp : m.phase = .closed := h.phase_of_stopped (by simp [reading, hl, hr])
    simp [hp]
  | true => cases endOf? (a.items l.endpoint) <;> simp

theorem arrive_reading {m : Manager} (h : m.Single) {a : Link.Arrival}
    (hr : (m.arrive 0 a).1.reading = true) : m.reading = true := by
  obtain ⟨l, hl⟩ := h.links_eq
  rw [h.arrive_eq hl] at hr
  simp only [reading, hl, List.any_cons, List.any_nil, Bool.or_false, Link.rest_reading,
    Link.arrive] at hr ⊢
  by_contra hstopped
  rw [if_neg hstopped] at hr
  exact hstopped hr

theorem candid_arrive {m : Manager} (h : m.Single) (hm : m.Candid) (a : Link.Arrival) :
    (m.arrive 0 a).1.Candid := by
  unfold Candid at hm ⊢
  rw [arrive_phase_iff h a, frames_arrive h, hm]
  constructor
  · rintro ⟨⟨-, hframes⟩, hr⟩
    exact ⟨hr, hframes⟩
  · rintro ⟨hr, hframes⟩
    exact ⟨⟨arrive_reading h hr, hframes⟩, hr⟩

theorem candid_kept : Kept Candid where
  begun greeting := by
    refine candid_arrive (.opened Link.fresh_live) ?_ (.octets greeting)
    simp [Candid, reading, frames_single, Link.fresh]
  arrive h hm a := candid_arrive h hm a
  sendThrough h hm text := by
    cases h with
    | closed held h =>
      rw [sendThrough_single_closed (.closed held h) rfl]
      exact hm
    | @opened l h =>
      rw [sendThrough_single_opened h]
      have hr : reading ⟨.opened, some 0, [l.sent text]⟩ = reading ⟨.opened, some 0, [l]⟩ := rfl
      unfold Candid at hm ⊢
      rw [hr, frames_sent]
      simpa using hm
  close h hm := by
    cases h with
    | closed held h =>
      rw [close_single_closed (.closed held h) rfl]
      exact hm
    | @opened l h =>
      rw [close_single_opened h]
      simp [Candid, frames_single, Link.shut, List.filter_append, Outbound.isPong]

end Manager

namespace Client

theorem forall_modify {P : Manager → Prop} {sessions : List Session} {k : Nat}
    {g : Manager → Manager} (hP : ∀ s ∈ sessions, P s.manager)
    (hg : ∀ s ∈ sessions, P (g s.manager)) :
    ∀ s ∈ sessions.modify k (Session.update g), P s.manager := by
  intro s hs
  obtain ⟨i, hi⟩ := List.mem_iff_getElem?.1 hs
  rw [List.getElem?_modify] at hi
  obtain ⟨t, ht, rfl⟩ := Option.map_eq_some_iff.1 hi
  have hmem := List.mem_of_getElem? ht
  split
  · exact hg t hmem
  · exact hP t hmem

theorem Orderly.of_mem {sessions : List Session} (h : Orderly sessions) {s : Session}
    (hs : s ∈ sessions) : s.manager.Single := by
  obtain ⟨k, hk⟩ := List.mem_iff_getElem?.1 hs
  exact h.single k s hk

section Kept

variable {P : Manager → Prop} {c : Client}

theorem kept_released (hP : Manager.Kept P) (hc : Orderly c.sessions)
    (h : ∀ s ∈ c.sessions, P s.manager) : ∀ s ∈ released c.sessions, P s.manager :=
  forall_modify h fun s hs => hP.close (hc.of_mem hs) (h s hs)

theorem kept_outcome (hP : Manager.Kept P) (hc : Orderly c.sessions)
    (h : ∀ s ∈ c.sessions, P s.manager) {net : Network} {attempt : Attempt}
    (ho : Outcome c net attempt) : ∀ s ∈ attempt.client.sessions, P s.manager := by
  cases ho with
  | refused f remote => exact h
  | unagreed text remote => exact h
  | joined hl user token hurl hs =>
    intro s hs
    rcases List.mem_append.1 hs with hs | hs
    · exact kept_released hP hc h s hs
    · rw [List.mem_singleton.1 hs]
      exact hP.begun _

theorem kept_arrive (hP : Manager.Kept P) (hc : Orderly c.sessions)
    (h : ∀ s ∈ c.sessions, P s.manager) (k : Nat) (a : Link.Arrival) :
    ∀ s ∈ (c.arrive k a).1.sessions, P s.manager := by
  cases hk : c.sessions[k]? with
  | none =>
    rw [arrive_none hk]
    exact h
  | some s =>
    rw [arrive_some hk]
    exact forall_modify h fun s hs => hP.arrive (hc.of_mem hs) (h s hs) a

theorem kept_perform (hP : Manager.Kept P) (hc : Orderly c.sessions)
    (h : ∀ s ∈ c.sessions, P s.manager) (net : Network) (a : Action) :
    ∀ s ∈ (c.perform net a).client.sessions, P s.manager := by
  have hdoes := perform_does hc net a
  generalize c.perform net a = turn at hdoes ⊢
  cases hdoes with
  | connect _ _ _ ho | connectWithToken _ _ ho => exact kept_outcome hP hc h ho
  | unsent | unsentThrough | clear | deafen => exact h
  | sent hu hp chatId text =>
    refine forall_modify h fun s hs => ?_
    rw [Manager.send_single (hc.of_mem hs)]
    exact hP.sendThrough (hc.of_mem hs) (h s hs) _
  | sentThrough hk hp text =>
    exact forall_modify h fun s hs => hP.sendThrough (hc.of_mem hs) (h s hs) _
  | released ha => exact kept_released hP hc h
  | receive k bs => exact kept_arrive hP hc h k _
  | hangUp k cut => exact kept_arrive hP hc h k _

theorem kept_after (hP : Manager.Kept P) (net : Network) (server : Server) (clock : FixedClock)
    (audience : Audience) (actions : List Action) :
    ∀ s ∈ (after net (fresh server clock audience) actions).sessions, P s.manager := by
  induction actions using List.reverseRecOn with
  | nil => exact fun s hs => absurd hs List.not_mem_nil
  | append_singleton actions a ih =>
    rw [after_append_singleton]
    exact kept_perform hP (orderly_after net server clock audience actions) ih net a

end Kept

/-- The server, the clock and who listens. Only the last can change, and only by going away. -/
def settings (c : Client) : Server × FixedClock × Audience := (c.server, c.clock, c.audience)

theorem Outcome.settings {c : Client} {net : Network} {attempt : Attempt}
    (h : Outcome c net attempt) : attempt.client.settings = c.settings := by
  cases h <;> rfl

theorem arrive_settings (c : Client) (k : Nat) (a : Link.Arrival) :
    (c.arrive k a).1.settings = c.settings := by
  cases hk : c.sessions[k]? with
  | none => rw [arrive_none hk]
  | some s =>
    rw [arrive_some hk]
    rfl

theorem settings_perform {c : Client} (hc : Orderly c.sessions) (net : Network) {a : Action}
    (ha : a ≠ .deafen) : (c.perform net a).client.settings = c.settings := by
  have hdoes := perform_does hc net a
  generalize c.perform net a = turn at hdoes ⊢
  cases hdoes with
  | connect _ _ _ h | connectWithToken _ _ h => exact h.settings
  | deafen => exact absurd rfl ha
  | receive k bs => exact arrive_settings c k _
  | hangUp k cut => exact arrive_settings c k _
  | _ => rfl

theorem audience_perform {c : Client} (hc : Orderly c.sessions) {net : Network} {a : Action}
    (h : (c.perform net a).client.audience = .listening) : c.audience = .listening := by
  by_cases ha : a = .deafen
  · subst ha
    simp only [perform, Turn.quiet] at h
    split at h <;> exact Audience.noConfusion h
  · exact (congrArg (·.2.2) (settings_perform hc net ha)).symm.trans h

/-- The user that a step's connect gave, if it was one and succeeded. -/
def Step.joined? (s : Step) : Option User :=
  match s.turn.result with
  | .ok user? => user?
  | .error _ => none

/-- The owner behind a step, from the owner in front of it. -/
def Step.owner (owner : Option User) (s : Step) : Option User :=
  match s.action with
  | .disconnect | .drop => none
  | _ => s.joined?.or owner

/-- Whom the last connect that succeeded gave, unless a disconnect came after it. -/
def ownerOf (run : List Step) : Option User := run.foldl Step.owner none

theorem Outcome.user {c : Client} {net : Network} {attempt : Attempt} (h : Outcome c net attempt)
    (a : Action) :
    attempt.client.user = (Step.joined? ⟨c, a, .ofAttempt attempt⟩).or c.user := by
  cases h with
  | refused f remote => rfl
  | unagreed text remote => rfl
  | joined hl user token hurl hs => rfl

theorem arrive_user (c : Client) (k : Nat) (a : Link.Arrival) : (c.arrive k a).1.user = c.user := by
  cases hk : c.sessions[k]? with
  | none => rw [arrive_none hk]
  | some s => rw [arrive_some hk]

theorem owner_perform {c : Client} (hc : Orderly c.sessions) (net : Network) (a : Action) :
    (c.perform net a).client.user = Step.owner c.user ⟨c, a, c.perform net a⟩ := by
  have hdoes := perform_does hc net a
  generalize c.perform net a = turn at hdoes ⊢
  cases hdoes with
  | connect _ _ _ h | connectWithToken _ _ h => exact h.user _
  | released ha => rcases ha with rfl | rfl <;> rfl
  | receive k bs => exact arrive_user c k _
  | hangUp k cut => exact arrive_user c k _
  | _ => rfl

theorem owner_after (net : Network) (server : Server) (clock : FixedClock) (audience : Audience)
    (actions : List Action) :
    (after net (fresh server clock audience) actions).user =
      ownerOf (steps net (fresh server clock audience) actions) := by
  induction actions using List.reverseRecOn with
  | nil => rfl
  | append_singleton actions a ih =>
    rw [after_append_singleton, owner_perform (orderly_after net server clock audience actions),
      steps_append_singleton, ownerOf, List.foldl_append, ih]
    rfl

theorem users_modify (sessions : List Session) (k : Nat) (g : Manager → Manager) :
    (sessions.modify k (Session.update g)).map (·.user) = sessions.map (·.user) := by
  apply List.ext_getElem?
  intro i
  rw [List.getElem?_map, List.getElem?_map, List.getElem?_modify]
  cases sessions[i]? with
  | none => rfl
  | some s =>
    simp only [Option.map_eq_map, Option.map_some]
    split <;> rfl

theorem Outcome.users {c : Client} {net : Network} {attempt : Attempt} (h : Outcome c net attempt)
    (a : Action) :
    attempt.client.sessions.map (·.user) =
      c.sessions.map (·.user) ++ (Step.joined? ⟨c, a, .ofAttempt attempt⟩).toList := by
  cases h with
  | refused f remote => exact (List.append_nil _).symm
  | unagreed text remote => exact (List.append_nil _).symm
  | joined hl user token hurl hs =>
    simp only [Client.joined, released, List.map_append, users_modify]
    rfl

theorem arrive_users (c : Client) (k : Nat) (a : Link.Arrival) :
    (c.arrive k a).1.sessions.map (·.user) = c.sessions.map (·.user) := by
  cases hk : c.sessions[k]? with
  | none => rw [arrive_none hk]
  | some s =>
    rw [arrive_some hk]
    exact users_modify _ _ _

/-- A connect that succeeds adds one connection, and nothing else does. -/
theorem users_perform {c : Client} (hc : Orderly c.sessions) (net : Network) (a : Action) :
    (c.perform net a).client.sessions.map (·.user) =
      c.sessions.map (·.user) ++ (Step.joined? ⟨c, a, c.perform net a⟩).toList := by
  have hdoes := perform_does hc net a
  generalize c.perform net a = turn at hdoes ⊢
  cases hdoes with
  | connect _ _ _ h | connectWithToken _ _ h => exact h.users _
  | unsent | unsentThrough | clear | deafen => exact (List.append_nil _).symm
  | sent | sentThrough | released =>
    exact (users_modify _ _ _).trans (List.append_nil _).symm
  | receive k bs => exact (arrive_users c k _).trans (List.append_nil _).symm
  | hangUp k cut => exact (arrive_users c k _).trans (List.append_nil _).symm

theorem users_after (net : Network) (server : Server) (clock : FixedClock) (audience : Audience)
    (actions : List Action) :
    (after net (fresh server clock audience) actions).sessions.map (·.user) =
      (steps net (fresh server clock audience) actions).filterMap Step.joined? := by
  induction actions using List.reverseRecOn with
  | nil => rfl
  | append_singleton actions a ih =>
    have hlast : ∀ s : Step, [s].filterMap Step.joined? = s.joined?.toList := by
      intro s
      cases h : s.joined? <;> simp [h]
    rw [after_append_singleton, users_perform (orderly_after net server clock audience actions), ih,
      steps_append_singleton, List.filterMap_append, hlast]

theorem phase_cases {c : Client} (hc : Orderly c.sessions) :
    c.sessions = [] ∧ c.phase = .idle ∨
      c.sessions ≠ [] ∧ (c.phase = .closed ∨ c.phase = .opened) := by
  cases hs : c.sessions.getLast? with
  | none =>
    have hnil := List.getLast?_eq_none_iff.1 hs
    exact Or.inl ⟨hnil, by simp [phase, hnil]⟩
  | some s =>
    right
    rw [phase_of_last hs]
    have hmem := List.mem_of_getLast? hs
    exact ⟨List.ne_nil_of_mem hmem, (hc.of_mem hmem).phase_cases⟩

/-- An open client was open before, unless a connect has just succeeded. -/
theorem opened_before {c : Client} (hc : Orderly c.sessions) {net : Network} {a : Action}
    (hp : (c.perform net a).client.phase = .opened)
    (hj : Step.joined? ⟨c, a, c.perform net a⟩ = none) : c.phase = .opened := by
  have hlen : (c.perform net a).client.sessions.length = c.sessions.length := by
    have := congrArg List.length (users_perform hc net a)
    simpa [hj] using this
  by_contra hnot
  have hlast := not_closedOn_last hp
  rw [hlen] at hlast
  have hclosed : ClosedOn c.sessions (c.sessions.length - 1) := by
    rcases phase_cases hc with ⟨hnil, -⟩ | ⟨hne, hc' | hc'⟩
    · have hnone : (c.perform net a).client.sessions = [] := by
        rw [← List.length_eq_zero_iff, hlen, hnil, List.length_nil]
      simp [phase, hnone] at hp
    · have hs := List.getLast?_eq_some_getLast hne
      rw [phase_of_last hs] at hc'
      rw [List.getLast?_eq_getElem?] at hs
      exact ⟨_, hs, hc'⟩
    · exact absurd hc' hnot
  exact hlast (hclosed.evolves (perform_evolves hc net a) hc)

/-- The owner of an open client is whom its newest connection was opened for. -/
def Owned (c : Client) : Prop :=
  c.phase = .opened → c.user = (c.sessions.map (·.user)).getLast?

theorem owned_perform {c : Client} (hc : Orderly c.sessions) (h : c.Owned) (net : Network)
    (a : Action) : (c.perform net a).client.Owned := by
  intro hp
  have hreleased : ∀ d : Client, d.sessions = released c.sessions → d.phase ≠ .opened :=
    fun d => phase_of_released hc
  have hgoes : Step.owner c.user ⟨c, a, c.perform net a⟩ =
      (Step.joined? ⟨c, a, c.perform net a⟩).or c.user := by
    cases a with
    | disconnect => exact absurd hp (hreleased _ (perform_released hc net (Or.inl rfl)))
    | drop => exact absurd hp (hreleased _ (perform_released hc net (Or.inr rfl)))
    | _ => rfl
  rw [owner_perform hc, users_perform hc, hgoes]
  cases hj : Step.joined? ⟨c, a, c.perform net a⟩ with
  | none => simpa using h (opened_before hc hp hj)
  | some user => simp

theorem owned_after (net : Network) (server : Server) (clock : FixedClock) (audience : Audience)
    (actions : List Action) : (after net (fresh server clock audience) actions).Owned := by
  induction actions using List.reverseRecOn with
  | nil => exact fun hp => Phase.noConfusion hp
  | append_singleton actions a ih =>
    rw [after_append_singleton]
    exact owned_perform (orderly_after net server clock audience actions) ih net a

theorem Owned.user {c : Client} (h : c.Owned) (hp : c.phase = .opened) :
    ∃ s, c.sessions.getLast? = some s ∧ c.user = some s.user := by
  obtain ⟨s, hs, -⟩ := last_of_opened hp
  rw [← List.getLast?_eq_getElem?] at hs
  refine ⟨s, hs, ?_⟩
  rw [h hp, List.getLast?_map, hs]
  rfl

/-- Whether a connection is live, to whoever listens and looks at the wire: no end of it has been
told, and the client has not sent its close frame on it. -/
def IsLive (run : List Step) (n : Nat) (s : Session) : Prop :=
  (∀ code, .disconnected code ∉ run.flatMap (Step.eventsOn n)) ∧ .close normal "" ∉ s.manager.frames

theorem InOrder.told_end {user : User} {reading : Bool} {events : List Event}
    (h : InOrder user reading events) :
    (∀ code, .disconnected code ∉ events) ↔ reading = true := by
  obtain ⟨reports, ending, rfl, hreports, hending⟩ := h
  have hnone : ∀ code, .disconnected code ∉ reports := by
    intro code hin
    exact absurd (hreports _ hin) (by simp [Event.isReport])
  cases reading with
  | true =>
    rw [if_pos rfl] at hending
    simp [hending, hnone]
  | false =>
    obtain ⟨code, rfl⟩ : ∃ code, ending = [.disconnected code] := by simpa using hending
    simpa using ⟨code, by simp⟩

theorem isLive_iff (net : Network) (server : Server) (clock : FixedClock) (audience : Audience)
    (actions : List Action) {n : Nat} {s : Session}
    (hs : (after net (fresh server clock audience) actions).sessions[n]? = some s) :
    IsLive (steps net (fresh server clock audience) actions) n s ↔ s.manager.phase = .opened := by
  have hrun := unfolds_after net server clock audience actions n
  rw [hs] at hrun
  have hcandid :=
    kept_after Manager.candid_kept net server clock audience actions s (List.mem_of_getElem? hs)
  rw [IsLive, hrun.inOrder.told_end]
  exact hcandid.symm

/-- What a client says of itself at the end of any run. It is never on its way between two steps. It
is idle exactly if no connect has succeeded so far. Its user is the one that the last successful
connect gave, until a disconnect, so that an open client has one. Of its connections only the newest
can be live, and it is live exactly if the client is open. -/
theorem state_of_run (net : Network) (server : Server) (clock : FixedClock) (audience : Audience)
    (actions : List Action) :
    let start := fresh server clock audience
    let run := steps net start actions
    let c := after net start actions
    c.phase ≠ .connecting ∧
      (c.phase = .idle ↔ ∀ step ∈ run, ∀ user, step.turn.result ≠ .ok (some user)) ∧
      c.user = ownerOf run ∧
      (c.phase = .opened → ∃ user, c.user = some user) ∧
      ∀ n s, c.sessions[n]? = some s →
        (IsLive run n s ↔ n + 1 = c.sessions.length ∧ c.phase = .opened) := by
  intro start run c
  have hc := orderly_after net server clock audience actions
  have husers := users_after net server clock audience actions
  have hcases := phase_cases hc
  refine ⟨?_, ?_, owner_after net server clock audience actions, ?_, ?_⟩
  · rcases hcases with ⟨-, hp⟩ | ⟨-, hp | hp⟩ <;> simp [c, start, hp]
  · have hnil : c.sessions = [] ↔ ∀ step ∈ run, ∀ user, step.turn.result ≠ .ok (some user) := by
      rw [← List.map_eq_nil_iff (f := (·.user)), husers, List.filterMap_eq_nil_iff]
      refine forall₂_congr fun step _ => ?_
      cases hr : step.turn.result with
      | error f => simp [Step.joined?, hr]
      | ok user? => cases user? <;> simp [Step.joined?, hr]
    rw [← hnil]
    rcases hcases with ⟨hs, hp⟩ | ⟨hs, hp | hp⟩ <;> simp [c, start, hs, hp]
  · intro hp
    obtain ⟨s, -, hu⟩ := (owned_after net server clock audience actions).user hp
    exact ⟨s.user, hu⟩
  · intro n s hs
    rw [isLive_iff net server clock audience actions hs]
    constructor
    · intro hp
      have hlast : n + 1 = c.sessions.length := by
        by_contra hne
        have hlt := (List.getElem?_eq_some_iff.1 hs).1
        rw [hc.earlier n s hs (Nat.lt_of_le_of_ne hlt hne)] at hp
        exact Phase.noConfusion hp
      refine ⟨hlast, ?_⟩
      rw [← hp]
      exact phase_at_last (by rw [← hlast, Nat.add_sub_cancel, hs])
    · rintro ⟨hlast, hp⟩
      rw [← hp]
      exact (phase_at_last (by rw [← hlast, Nat.add_sub_cancel, hs])).symm

theorem state_of_run_reconnecting :
    (after Manager.everywhere newcomer reconnecting).phase = .opened ∧
      (∃ user, (after Manager.everywhere newcomer reconnecting).user = some user) ∧
      ∀ n s, (after Manager.everywhere newcomer reconnecting).sessions[n]? = some s →
        (IsLive (steps Manager.everywhere newcomer reconnecting) n s ↔ n = 1) := by
  obtain ⟨-, -, -, howner, hlive⟩ :=
    state_of_run Manager.everywhere .standard (.ofMillis 0) .listening reconnecting
  have hp : (after Manager.everywhere newcomer reconnecting).phase = .opened := by decide +kernel
  have hlen : (after Manager.everywhere newcomer reconnecting).sessions.length = 2 := by
    decide +kernel
  refine ⟨hp, howner hp, fun n s hs => (hlive n s hs).trans ?_⟩
  constructor
  · rintro ⟨hn, -⟩
    exact Nat.succ.inj (hn.trans hlen)
  · rintro rfl
    exact ⟨hlen.symm, hp⟩

end Client

end Parley
