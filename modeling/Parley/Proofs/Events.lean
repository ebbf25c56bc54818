import Parley.Proofs.Client

/-! What a client tells of its connections where everything settles before anything else happens.
Each one is told as opened, then as messages and failures, then as ended, and no more of it after
that. -/

namespace Parley

open Connection Socket

def Event.isReport : Event → Bool
  | .message _ | .failed _ => true
  | .connected _ | .disconnected _ => false

theorem Signal.isReport_text (user : User) (s : String) :
    (Signal.event user (.text s)).isReport = true := by
  cases h : Message.ofFrame s with
  | ok m => simp [event, h, Event.isReport]
  | error f => simp [event, h, Event.isReport]

namespace Manager

def reading (m : Manager) : Bool := m.links.any (·.reading)

theorem Single.reading_close {m : Manager} (h : m.Single) : m.close.1.reading = m.reading := by
  cases h with
  | closed held h => rw [close_single_closed (.closed held h) rfl]; rfl
  | opened h => rw [close_single_opened h]; rfl

theorem Single.phase_of_stopped {m : Manager} (h : m.Single) (hr : m.reading = false) :
    m.phase = .closed := by
  cases h with
  | closed held h => rfl
  | opened h => simp [reading, h.reading] at hr

end Manager

namespace Client

/-- How a connection that has been told of goes on, from whether its reader is at work to whether it
still is: nothing comes from a reader that has stopped, and one that stops tells the end last. -/
inductive GoesOn : Bool → Bool → List Event → Prop
  | nothing (reading : Bool) : GoesOn reading reading []
  | reports {events : List Event} (h : ∀ e ∈ events, e.isReport = true) : GoesOn true true events
  | ends {events : List Event} (h : ∀ e ∈ events, e.isReport = true) (code : Nat) :
      GoesOn true false (events ++ [.disconnected code])

theorem GoesOn.prepend {events more : List Event} {reading : Bool}
    (he : ∀ e ∈ events, e.isReport = true)
    (h : GoesOn true reading more) : GoesOn true reading (events ++ more) := by
  have happend : ∀ {reports : List Event}, (∀ e ∈ reports, e.isReport = true) →
      ∀ e ∈ events ++ reports, e.isReport = true := by
    intro reports hr e hin
    rcases List.mem_append.1 hin with hin | hin
    · exact he e hin
    · exact hr e hin
  cases h with
  | nothing => exact .reports (by simpa using he)
  | reports h => exact .reports (happend h)
  | ends h code =>
    rw [← List.append_assoc]
    exact .ends (happend h) code

theorem GoesOn.trans {r s t : Bool} {events more : List Event} (h : GoesOn r s events)
    (hm : GoesOn s t more) : GoesOn r t (events ++ more) := by
  cases h with
  | nothing => exact hm
  | reports h => exact hm.prepend h
  | ends h code =>
    cases hm with
    | nothing => simpa using GoesOn.ends h code

/-- What becomes of a place among the connections, and what is told of it. -/
inductive Unfolds : Option Session → Option Session → List Event → Prop
  | unopened : Unfolds none none []
  | opens {s : Session} {events : List Event} (h : GoesOn true s.manager.reading events) :
      Unfolds none (some s) (.connected s.user :: events)
  | goesOn {s t : Session} {events : List Event} (hu : t.user = s.user)
      (h : GoesOn s.manager.reading t.manager.reading events) : Unfolds (some s) (some t) events

theorem Unfolds.trans {a b c : Option Session} {events more : List Event} (h : Unfolds a b events)
    (hm : Unfolds b c more) : Unfolds a c (events ++ more) := by
  cases h with
  | unopened => exact hm
  | opens h =>
    cases hm with
    | goesOn hu hm =>
      rw [List.cons_append, ← hu]
      exact .opens (h.trans hm)
  | goesOn hu h =>
    cases hm with
    | goesOn hv hm => exact .goesOn (hv.trans hu) (h.trans hm)

theorem Unfolds.quiet (s? : Option Session) : Unfolds s? s? [] := by
  cases s? with
  | none => exact .unopened
  | some s => exact .goesOn rfl (.nothing _)

theorem Unfolds.modify {sessions : List Session} {k : Nat} {g : Manager → Manager}
    (hg : ∀ s, sessions[k]? = some s → (g s.manager).reading = s.manager.reading) (n : Nat) :
    Unfolds sessions[n]? (sessions.modify k (Session.update g))[n]? [] := by
  rw [List.getElem?_modify]
  cases hs : sessions[n]? with
  | none => exact .unopened
  | some s =>
    simp only [Option.map_eq_map, Option.map_some]
    split
    · rename_i hk
      refine .goesOn rfl ?_
      have := hg s (hk ▸ hs)
      simp only [Session.update, this]
      exact .nothing _
    · exact .goesOn rfl (.nothing _)

theorem heard_goesOn (user : User) (phase : Phase) (items : List Item) :
    GoesOn true (endOf? items).isNone ((Link.heard phase items).map (Signal.event user)) := by
  have hreports : ∀ e ∈ ((untilEnd items).flatMap (Reader.reports phase)).map (Signal.event user),
      e.isReport = true := by
    intro e he
    obtain ⟨signal, hs, rfl⟩ := List.mem_map.1 he
    obtain ⟨item, -, hi⟩ := List.mem_flatMap.1 hs
    cases item with
    | text s =>
      simp only [Reader.reports] at hi
      split at hi
      · rw [List.mem_singleton.1 hi]
        exact Signal.isReport_text user s
      · exact absurd hi List.not_mem_nil
    | failed fault => rw [List.mem_singleton.1 hi]; rfl
    | _ => exact absurd hi List.not_mem_nil
  unfold Link.heard
  cases endOf? items with
  | none => simpa using GoesOn.reports hreports
  | some code => simpa [Signal.event] using GoesOn.ends hreports code

theorem arrive_goesOn {m : Manager} (h : m.Single) (user : User) (a : Link.Arrival) :
    GoesOn m.reading (m.arrive 0 a).1.reading ((m.arrive 0 a).2.map (Signal.event user)) := by
  obtain ⟨l, hl⟩ := h.links_eq
  have hk : m.links[0]? = some l := by rw [hl]; rfl
  rw [Manager.arrive_some h.steady.queue hk]
  simp only [Manager.reading, hl, List.set_cons_zero, List.map_cons, List.map_nil, List.any_cons,
    List.any_nil, Bool.or_false, Link.rest_reading, Link.arrive]
  split
  · rename_i hr
    rw [hr]
    exact heard_goesOn user m.phase _
  · exact .nothing _

/-- The connection that the events of a step are about. A connect is about the one that it opens. -/
def Step.connection (s : Step) : Option Nat :=
  match s.action with
  | .connect .. | .connectWithToken .. => some s.before.sessions.length
  | .send .. | .disconnect | .drop => some (s.before.sessions.length - 1)
  | .sendThrough k _ | .receive k _ | .hangUp k _ => some k
  | .clear | .deafen => none

/-- The events of a step that belong to a connection. Those of a connect that has failed belong to
none. -/
def Step.eventsOn (n : Nat) (s : Step) : List Event :=
  if s.connection = some n ∧ n < s.turn.client.sessions.length then s.turn.events else []

theorem Step.eventsOn_of_quiet {s : Step} (h : s.turn.events = []) (n : Nat) :
    s.eventsOn n = [] := by
  unfold eventsOn
  split
  · exact h
  · rfl

def Action.arrival? : Action → Option (Nat × Link.Arrival)
  | .receive k bs => some (k, .octets bs)
  | .hangUp k cut => some (k, .hangUp cut)
  | _ => none

theorem released_unfolds {sessions : List Session} (hc : Orderly sessions) (n : Nat) :
    Unfolds sessions[n]? (released sessions)[n]? [] :=
  .modify (fun s hs => (hc.single _ s hs).reading_close) n

theorem Outcome.unfolds {c : Client} {net : Network} {attempt : Attempt} (hc : Orderly c.sessions)
    (h : Outcome c net attempt) {a : Action}
    (ha : ∀ t, Step.connection ⟨c, a, t⟩ = some c.sessions.length) (n : Nat) :
    Unfolds c.sessions[n]? attempt.client.sessions[n]?
      (Step.eventsOn n ⟨c, a, .ofAttempt attempt⟩) := by
  have hnone : ∀ (f : Failure) (events : List Event) (remote : Http.Remote),
      Step.eventsOn n ⟨c, a, .ofAttempt ⟨.error f, c, events, remote⟩⟩ = [] := by
    intro f events remote
    have hout : ¬ (c.sessions.length = n ∧ n < c.sessions.length) := by omega
    simpa [Step.eventsOn, ha, Turn.ofAttempt] using fun h hlt => absurd ⟨h, hlt⟩ hout
  cases h with
  | refused f remote => rw [hnone]; exact .quiet _
  | unagreed text remote => rw [hnone]; exact .quiet _
  | @joined hl user token greeting url before remote hurl hs =>
    have hlen : (c.joined user token greeting).sessions.length = c.sessions.length + 1 := by
      simp [Client.joined, released_length]
    simp only [Step.eventsOn, ha, Turn.ofAttempt, Option.some.injEq, hlen]
    by_cases hn : c.sessions.length = n
    · subst hn
      rw [joined_newest, List.getElem?_eq_none (Nat.le_refl _), if_pos ⟨rfl, Nat.lt_succ_self _⟩]
      exact .opens (arrive_goesOn (.opened Link.fresh_live) user (.octets greeting))
    · rw [joined_earlier c user token greeting (Ne.symm hn), if_neg fun h => hn h.1]
      exact released_unfolds hc n

theorem arrive_unfolds {c : Client} (hc : Orderly c.sessions) (k : Nat) (a : Link.Arrival)
    {action : Action} (ha : Step.connection ⟨c, action, .quiet (c.arrive k a)⟩ = some k) (n : Nat) :
    Unfolds c.sessions[n]? (c.arrive k a).1.sessions[n]?
      (Step.eventsOn n ⟨c, action, .quiet (c.arrive k a)⟩) := by
  cases hk : c.sessions[k]? with
  | none =>
    rw [Step.eventsOn_of_quiet (by simp [Turn.quiet, arrive_none hk]), arrive_none hk]
    exact .quiet _
  | some s =>
    unfold Step.eventsOn
    rw [ha]
    simp only [Turn.quiet, arrive_some hk, List.getElem?_modify, Option.some.injEq,
      List.length_modify]
    by_cases hn : k = n
    · subst hn
      rw [if_pos ⟨rfl, (List.getElem?_eq_some_iff.1 hk).1⟩, hk]
      simp only [Option.map_eq_map, Option.map_some, if_true]
      exact .goesOn rfl (arrive_goesOn (hc.single k s hk) s.user a)
    · simp only [hn, false_and, if_false, id_map']
      exact .quiet _

/-- What a step can be: a connect, an arrival, or something of which nothing is told and that leaves
the readers alone. -/
inductive Source (c : Client) (net : Network) (a : Action) : Turn → Prop
  | attempt {attempt : Attempt} (h : Outcome c net attempt)
      (ha : ∀ t, Step.connection ⟨c, a, t⟩ = some c.sessions.length) :
      Source c net a (.ofAttempt attempt)
  | arrival (k : Nat) (arrival : Link.Arrival) (ha : a.arrival? = some (k, arrival))
      (hk : ∀ t, Step.connection ⟨c, a, t⟩ = some k) : Source c net a (.quiet (c.arrive k arrival))
  | quiet {t : Turn} (ht : t.events = [])
      (hu : ∀ n : Nat, Unfolds c.sessions[n]? t.client.sessions[n]? []) : Source c net a t

theorem send_source {c : Client} (hc : Orderly c.sessions) (net : Network) (chatId text : String)
    (a : Action) :
    Source c net a (.ofSend (c.send chatId text)) := by
  rcases send_cases hc chatId text with h | ⟨user, -, hp, h⟩
  · rw [h]
    exact .quiet rfl fun _ => .quiet _
  · rw [h]
    refine .quiet rfl fun n => .modify (fun s hs => ?_) n
    obtain ⟨l, hl, hm⟩ := (hc.single _ s hs).opened_eq ((phase_at_last hs).symm.trans hp)
    rw [hm, Manager.send_single_opened hl]
    rfl

theorem sendThrough_source {c : Client} (hc : Orderly c.sessions) (net : Network) (k : Nat)
    (text : String) (a : Action) : Source c net a (.ofSend (c.sendThrough k text)) := by
  rcases sendThrough_cases hc k text with h | ⟨s, hk, hp, h⟩
  · rw [h]
    exact .quiet rfl fun _ => .quiet _
  · rw [h]
    refine .quiet rfl fun n => .modify (fun t ht => ?_) n
    rw [hk, Option.some.injEq] at ht
    obtain ⟨l, hl, hm⟩ := (hc.single k s hk).opened_eq hp
    rw [← ht, hm, Manager.sendThrough_single_opened hl]
    rfl

theorem disconnect_source {c : Client} (hc : Orderly c.sessions) (net : Network) (a : Action) :
    Source c net a (.quiet c.disconnect) := by
  rw [disconnect_eq hc]
  exact .quiet rfl (released_unfolds hc)

theorem perform_source {c : Client} (hc : Orderly c.sessions) (net : Network) (a : Action) :
    Source c net a (c.perform net a) := by
  cases a with
  | connect username password replies =>
    exact .attempt (connect_outcome hc net username password _) fun _ => rfl
  | connectWithToken token replies =>
    exact .attempt (connectWithToken_outcome hc net token _) fun _ => rfl
  | send chatId text => exact send_source hc net chatId text _
  | sendThrough k text => exact sendThrough_source hc net k text _
  | disconnect | drop => exact disconnect_source hc net _
  | clear | deafen => exact .quiet rfl fun _ => .quiet _
  | receive k bs =>
    rw [perform_receive]
    exact .arrival k (.octets bs) rfl fun _ => rfl
  | hangUp k cut =>
    rw [perform_hangUp]
    exact .arrival k (.hangUp cut) rfl fun _ => rfl

theorem unfolds_perform {c : Client} (hc : Orderly c.sessions) (net : Network) (a : Action)
    (n : Nat) :
    Unfolds c.sessions[n]? (c.perform net a).client.sessions[n]?
      (Step.eventsOn n ⟨c, a, c.perform net a⟩) := by
  have hsource := perform_source hc net a
  generalize c.perform net a = turn at hsource ⊢
  cases hsource with
  | attempt h ha => exact h.unfolds hc ha n
  | arrival k arrival ha hk => exact arrive_unfolds hc k arrival (hk _) n
  | quiet ht hu =>
    rw [Step.eventsOn_of_quiet ht]
    exact hu n

theorem unfolds_after (net : Network) (server : Server) (clock : FixedClock) (audience : Audience)
    (actions : List Action) (n : Nat) :
    Unfolds none (after net (fresh server clock audience) actions).sessions[n]?
      ((steps net (fresh server clock audience) actions).flatMap (Step.eventsOn n)) := by
  induction actions using List.reverseRecOn with
  | nil => exact .unopened
  | append_singleton actions a ih =>
    have hstep := unfolds_perform (orderly_after net server clock audience actions) net a n
    rw [after_append_singleton, steps_append_singleton, List.flatMap_append, List.flatMap_singleton]
    exact ih.trans hstep

theorem ofSend_opens_nothing (r : Except Failure Unit × Client × List Event) (user : User) :
    (Turn.ofSend r).result ≠ .ok (some user) := by
  cases hr : r.1 with
  | error f => simp [Turn.ofSend, hr, Except.map]
  | ok _ => simp [Turn.ofSend, hr, Except.map]

theorem GoesOn.stopped {r s : Bool} {events : List Event} (h : GoesOn r s events) {code : Nat}
    (hd : .disconnected code ∈ events) : s = false := by
  cases h with
  | nothing => exact absurd hd List.not_mem_nil
  | reports h => exact absurd (h _ hd) (by simp [Event.isReport])
  | ends h found => rfl

theorem Unfolds.stopped {a b : Option Session} {events : List Event} (h : Unfolds a b events)
    {code : Nat}
    (hd : .disconnected code ∈ events) : ∃ s, b = some s ∧ s.manager.reading = false := by
  cases h with
  | unopened => exact absurd hd List.not_mem_nil
  | opens h => exact ⟨_, rfl, h.stopped (by simpa using hd)⟩
  | goesOn hu h => exact ⟨_, rfl, h.stopped hd⟩

/-- A connection whose end is told is closed from then on. -/
theorem closedOn_of_disconnected {c : Client} (hc : Orderly c.sessions) {net : Network} {a : Action}
    {n code : Nat} (h : .disconnected code ∈ Step.eventsOn n ⟨c, a, c.perform net a⟩) :
    ClosedOn (c.perform net a).client.sessions n := by
  obtain ⟨s, hs, hr⟩ := (unfolds_perform hc net a n).stopped h
  refine ⟨s, hs, ?_⟩
  exact (((perform_evolves hc net a).orderly hc).single n s hs).phase_of_stopped hr

/-- The events of one connection in their order: that it is open, then messages and failures, and
that it has ended once its reader has stopped. -/
def InOrder (user : User) (reading : Bool) (events : List Event) : Prop :=
  ∃ reports ending : List Event, events = .connected user :: (reports ++ ending) ∧
    (∀ e ∈ reports, e.isReport = true) ∧
    if reading then ending = [] else ∃ code, ending = [.disconnected code]

theorem GoesOn.inOrder {reading : Bool} {events : List Event} (h : GoesOn true reading events)
    (user : User) :
    InOrder user reading (.connected user :: events) := by
  cases h with
  | nothing => exact ⟨[], [], rfl, fun _ h => absurd h List.not_mem_nil, rfl⟩
  | reports h => exact ⟨events, [], by rw [List.append_nil], h, rfl⟩
  | @ends reports h code => exact ⟨reports, [.disconnected code], rfl, h, code, rfl⟩

theorem Unfolds.inOrder {s : Session} {events : List Event} (h : Unfolds none (some s) events) :
    InOrder s.user s.manager.reading events := by
  cases h with
  | opens h => exact h.inOrder s.user

end Client

end Parley
