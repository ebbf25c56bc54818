import Parley.Proofs.Moves

/-! What a client tells of its connections while the tasks of each go on when they like. Each
connection is told as opened, then as messages and failures, then as ended by its reader. Behind
that comes at most one thing more: the writer may still have had a frame to write, and tells that it
could not. Messages come from the newest connection alone and only while it is open. -/

namespace Parley

open Connection Socket

namespace Client

open Manager (Conduct)

/-- The events of a move that belong to a connection. Those of a connect that has failed belong to
none. -/
def Stride.eventsOn (n : Nat) (s : Stride) : List Event :=
  if s.move.connection s.before = some n ∧ n < s.turn.client.sessions.length then s.turn.events
  else []

/-- What has been told of one connection. Its reader, while it is at work, goes on with messages and
failures, and tells the end last. A writer that tells of its failure behind that is gone. -/
inductive Chronicle (user : User) (l : Link) : List Event → Prop
  | goesOn {reports : List Event} (hr : l.reading = true)
      (h : ∀ e ∈ reports, e.isReport = true) : Chronicle user l (.connected user :: reports)
  | ended {reports : List Event} (hr : l.reading = false) (h : ∀ e ∈ reports, e.isReport = true)
      (code : Nat) : Chronicle user l (.connected user :: (reports ++ [.disconnected code]))
  | failedLate {reports : List Event} (hr : l.reading = false) (hw : l.writing = false)
      (h : ∀ e ∈ reports, e.isReport = true) (code : Nat) (fault : Fault) :
      Chronicle user l
        (.connected user ::
          (reports ++ [.disconnected code, .failed (.transport fault.message)]))

theorem Chronicle.stirs {user : User} {l l' : Link} {phase phase' : Phase} {items : List Item}
    {events : List Event} {signals : List Signal} (h : Chronicle user l events)
    (hs : l.Stirs phase items l' phase' signals) :
    Chronicle user l' (events ++ signals.map (Signal.event user)) := by
  cases h with
  | @goesOn reports hr h =>
    have hmore : ∀ {more : List Event}, (∀ e ∈ more, e.isReport = true) →
        ∀ e ∈ reports ++ more, e.isReport = true := by
      intro more hmore e he
      rcases List.mem_append.1 he with he | he
      · exact h e he
      · exact hmore e he
    cases hs with
    | quiet hi hr' hw hp => simpa using Chronicle.goesOn (hr'.trans hr) h
    | fails hi fault hr' hw hw' =>
      exact .goesOn (hr'.trans hr) (hmore fun e he => by rw [List.mem_singleton.1 he]; rfl)
    | hears hr hr' hw hp =>
      have hheard := heard_goesOn user phase items
      rw [← hr'] at hheard
      generalize hl : l'.reading = reading, (Link.heard phase items).map (Signal.event user) = more
        at hheard ⊢
      rw [List.cons_append]
      cases hheard with
      | nothing => simpa using Chronicle.goesOn hl h
      | reports h' => exact .goesOn hl (hmore h')
      | ends h' code =>
        rw [← List.append_assoc]
        exact .ended hl (hmore h') code
  | ended hr h code =>
    cases hs with
    | quiet hi hr' hw hp => simpa using Chronicle.ended (hr'.trans hr) h code
    | fails hi fault hr' hw hw' =>
      simpa [Signal.event] using Chronicle.failedLate (hr'.trans hr) hw' h code fault
    | hears hr' => simp [hr] at hr'
  | failedLate hr hw h code fault =>
    cases hs with
    | quiet hi hr' hw' hp =>
      have hgone : l'.writing = false := by
        by_contra hl
        simp [hw] at hw'
        simp [hw'] at hl
      simpa using Chronicle.failedLate (hr'.trans hr) hgone h code fault
    | fails hi fault' hr' hw' => simp [hw] at hw'
    | hears hr' => simp [hr] at hr'

/-- What has been told of a place among the connections. -/
inductive Told : Option Session → List Event → Prop
  | unopened : Told none []
  | opened {s : Session} {l : Link} {events : List Event} (hl : s.manager.links = [l])
      (h : Chronicle s.user l events) : Told (some s) events

theorem Told.modify {sessions : List Session} {n : Nat} {events : List Event}
    (h : Told sessions[n]? events) {items : Endpoint → List Item}
    {f : Manager → Manager × List Signal} (hf : Manager.Stirring items f) {k : Nat}
    {s : Session} (hk : sessions[k]? = some s) :
    Told (sessions.modify k (Session.update fun m => (f m).1))[n]?
      (events ++ if k = n then (f s.manager).2.map (Signal.event s.user) else []) := by
  rw [List.getElem?_modify]
  by_cases hn : k = n
  · subst hn
    rw [hk] at h ⊢
    cases h with
    | opened hl h =>
      obtain ⟨l', hl', hs, -⟩ := hf s.manager _ hl
      simpa using Told.opened (s := s.update fun m => (f m).1) hl' (h.stirs hs)
  · simpa [hn] using h

theorem eventsOn_of_quiet {s : Stride} (h : s.turn.events = []) (n : Nat) : s.eventsOn n = [] := by
  unfold Stride.eventsOn
  split
  · exact h
  · rfl

theorem Told.closed {c : Client} {n : Nat} {events : List Event} (h : Told c.sessions[n]? events) :
    Told (c.sessions.modify (c.sessions.length - 1)
      (Session.update fun m => (Conduct.loose.close m).1))[n]? events := by
  cases hs : c.sessions[c.sessions.length - 1]? with
  | none => rwa [List.modify_eq_self (List.getElem?_eq_none_iff.1 hs)]
  | some s => simpa [Conduct.loose] using h.modify Manager.stirring_close hs

theorem Happens.told {c : Client} {mv : Move} {t : Turn} (h : Happens c mv t) {n : Nat}
    {events : List Event} (ht : Told c.sessions[n]? events) :
    Told t.client.sessions[n]? (events ++ Stride.eventsOn n ⟨c, mv, t⟩) := by
  cases h with
  | idle h =>
    rw [eventsOn_of_quiet h.events, h.sessions, List.append_nil]
    exact ht
  | unagreed text remote hk =>
    have hnone : Stride.eventsOn n ⟨c, mv, ⟨.error (.handshake text), c,
        [.failed (.handshake text)], remote⟩⟩ = [] := by
      refine if_neg fun hon => ?_
      have hlen : c.sessions.length = n := by simpa [hk] using hon.1
      exact absurd hon.2 (by simp [hlen])
    rw [hnone, List.append_nil]
    exact ht
  | embarks hl user token greeting remote hk =>
    simp only [Stride.eventsOn, hk, Option.some.injEq, embarked_length]
    by_cases hn : c.sessions.length = n
    · subst hn
      rw [List.getElem?_eq_none (Nat.le_refl _)] at ht
      cases ht
      rw [embarked_newest, if_pos ⟨rfl, Nat.lt_succ_self _⟩]
      exact .opened rfl (.goesOn rfl fun _ he => absurd he List.not_mem_nil)
    · rw [embarked_earlier c user token greeting hn, if_neg fun hon => hn hon.1, List.append_nil]
      exact ht.closed
  | @works _ k s f h =>
    have hlt := (List.getElem?_eq_some_iff.1 h.place).1
    have hon : Stride.eventsOn n ⟨c, mv, t⟩ =
        if k = n then (f s.manager).2.map (Signal.event s.user) else [] := by
      simp only [Stride.eventsOn, h.connection, h.sessions, h.events, List.length_modify,
        Option.some.injEq]
      by_cases hn : k = n
      · subst hn
        simp [hlt]
      · simp [hn]
    rw [hon, h.sessions]
    exact ht.modify h.stirring h.place

theorem told_course (net : Network) (server : Server) (clock : FixedClock) (audience : Audience)
    (moves : List Move) (n : Nat) :
    Told (course net (fresh server clock audience) moves).sessions[n]?
      ((strides net (fresh server clock audience) moves).flatMap (Stride.eventsOn n)) := by
  induction moves using List.reverseRecOn with
  | nil => exact .unopened
  | append_singleton moves mv ih =>
    rw [course_append, strides_append_singleton, List.flatMap_append, List.flatMap_singleton]
    exact (move_happens _ net mv).told ih

theorem Evolves.user {P : Manager → Prop} {sessions sessions' : List Session}
    (h : Evolves P sessions sessions') {n : Nat} {s : Session} (hs : sessions[n]? = some s) :
    ∃ t, sessions'[n]? = some t ∧ t.user = s.user := by
  have hmodify : ∀ (k : Nat) (g : Manager → Manager),
      ∃ t, (sessions.modify k (Session.update g))[n]? = some t ∧ t.user = s.user := by
    intro k g
    rw [List.getElem?_modify, hs]
    by_cases hk : k = n
    · exact ⟨s.update g, by simp [hk], rfl⟩
    · exact ⟨s, by simp [hk], rfl⟩
  cases h with
  | same => exact ⟨s, hs, rfl⟩
  | modify k hg => exact hmodify k _
  | @join hclosed g hg user m hm =>
    obtain ⟨t, ht, hu⟩ := hmodify (sessions.length - 1) g
    have hlt := (List.getElem?_eq_some_iff.1 ht).1
    exact ⟨t, by rw [List.getElem?_append_left hlt, ht], hu⟩

theorem Happens.opens {c : Client} {mv : Move} {t : Turn} (h : Happens c mv t) {user : User}
    (hok : t.result = .ok (some user)) :
    ∃ s, t.client.sessions[c.sessions.length]? = some s ∧ s.user = user := by
  cases h with
  | idle h => exact absurd hok (h.result user)
  | unagreed text remote hk => simp at hok
  | embarks hl found token greeting remote hk =>
    simp only [Except.ok.injEq, Option.some.injEq] at hok
    exact ⟨_, embarked_newest c found token greeting, hok⟩
  | works h => exact absurd hok (h.result user)

theorem opened_course {net : Network} {server : Server} {clock : FixedClock} {audience : Audience}
    {moves : List Move} {s : Stride} (hs : s ∈ strides net (fresh server clock audience) moves)
    {user : User} (hok : s.turn.result = .ok (some user)) :
    ∃ t, (course net (fresh server clock audience) moves).sessions[s.before.sessions.length]? =
      some t ∧ t.user = user := by
  induction moves using List.reverseRecOn with
  | nil => simp [strides] at hs
  | append_singleton moves mv ih =>
    have hhappens := move_happens (course net (fresh server clock audience) moves) net mv
    rw [course_append]
    rw [strides_append_singleton, List.mem_append, List.mem_singleton] at hs
    rcases hs with hs | rfl
    · obtain ⟨t, ht, hu⟩ := ih hs
      have hc := orderly_course net server clock audience moves
      obtain ⟨t', ht', hu'⟩ := (hhappens.evolves hc).user ht
      exact ⟨t', ht', hu'.trans hu⟩
    · exact hhappens.opens hok

/-- What is told in a move is told of one connection, unless it is why a connect has failed. -/
theorem Happens.told_of_one {c : Client} {mv : Move} {t : Turn} (h : Happens c mv t) :
    (∃ n, Stride.eventsOn n ⟨c, mv, t⟩ = t.events) ∨
      ∃ f, t.result = .error f ∧ t.events = [.failed f] := by
  cases h with
  | idle h => exact Or.inl ⟨0, by rw [eventsOn_of_quiet h.events, h.events]⟩
  | unagreed text remote hk => exact Or.inr ⟨_, rfl, rfl⟩
  | embarks hl user token greeting remote hk =>
    refine Or.inl ⟨c.sessions.length, if_pos ⟨hk, ?_⟩⟩
    rw [embarked_length]
    exact Nat.lt_succ_self _
  | works h =>
    refine Or.inl ⟨_, if_pos ⟨h.connection, ?_⟩⟩
    simpa [h.sessions] using (List.getElem?_eq_some_iff.1 h.place).1

theorem plain_stirs {l l' : Link} {phase phase' : Phase} {items : List Item}
    {signals : List Signal} (h : l.Stirs phase items l' phase' signals) : Plain signals := by
  cases h with
  | quiet => exact fun f hf => absurd hf List.not_mem_nil
  | hears => exact plain_heard phase items
  | fails hi fault =>
    intro f hf
    obtain rfl := Signal.failed.inj (List.mem_singleton.1 hf)
    rfl

/-- Each text that is delivered is told once, in its place. -/
theorem Happens.verdicts {c : Client} {mv : Move} {t : Turn} (h : Happens c mv t)
    (hc : Orderly c.sessions Manager.Lone) :
    t.events.filter Event.isVerdict = (Stride.delivered ⟨c, mv, t⟩).map Event.ofText := by
  cases h with
  | idle h => rw [h.events, h.delivered]; rfl
  | unagreed text remote hk =>
    rw [delivered_of_none hk (List.getElem?_eq_none (Nat.le_refl _))]
    rfl
  | embarks hl user token greeting remote hk =>
    rw [delivered_of_none hk (List.getElem?_eq_none (Nat.le_refl _))]
    rfl
  | @works _ k s f h =>
    have hlone := hc.single k s h.place
    obtain ⟨l, hl⟩ := hlone.links
    obtain ⟨l', -, hs, -⟩ := h.stirring s.manager l hl
    have hdelivered : Stride.delivered ⟨c, mv, t⟩ = Manager.texts (f s.manager).2 := by
      simp only [Stride.delivered, h.connection, Option.bind_some, h.place, Option.toList_some,
        List.flatMap_singleton, textsAmong, hl]
      rw [hs.texts]
      rcases hlone.phase l hl with hp | ⟨hp, hr⟩
      · simp [hp]
      · rw [if_pos hp, if_pos ⟨hp, hr⟩]
        rfl
    rw [h.events, hdelivered]
    exact verdicts_of_signals s.user (plain_stirs hs)

theorem delivered_live {c : Client} (hc : Orderly c.sessions Manager.Lone) {mv : Move} {t : Turn}
    (h : Stride.delivered ⟨c, mv, t⟩ ≠ []) :
    c.phase = .opened ∧ mv.connection c = some (c.sessions.length - 1) := by
  unfold Stride.delivered at h
  cases hk : mv.connection c with
  | none => simp [hk] at h
  | some k =>
    cases hs : c.sessions[k]? with
    | none => simp [hk, hs] at h
    | some s =>
      have hp : s.manager.phase = .opened := by
        by_contra hp
        simp [hk, hs, textsAmong, hp] at h
      have hlast : k = c.sessions.length - 1 := by
        by_contra hne
        have hlt := (List.getElem?_eq_some_iff.1 hs).1
        rw [hc.earlier k s hs (by omega)] at hp
        exact Phase.noConfusion hp
      subst hlast
      exact ⟨(phase_at_last hs).trans hp, rfl⟩

theorem not_delivered {s : Stride} (h : s.delivered = [])
    (hv : s.turn.events.filter Event.isVerdict = s.delivered.map Event.ofText) (m : Message) :
    .message m ∉ s.turn.events := by
  intro hm
  rw [h, List.map_nil, List.filter_eq_nil_iff] at hv
  exact hv _ hm rfl

theorem no_message_of_closed {c : Client} (hc : Orderly c.sessions Manager.Lone) {n : Nat}
    (hn : ClosedOn c.sessions n) (net : Network) (mv : Move) (m : Message) :
    .message m ∉ Stride.eventsOn n ⟨c, mv, c.move net mv⟩ := by
  intro hm
  unfold Stride.eventsOn at hm
  split at hm
  · rename_i hon
    refine not_delivered ?_ ((move_happens c net mv).verdicts hc) m hm
    by_contra hne
    obtain ⟨hp, hk⟩ := delivered_live hc hne
    obtain rfl : n = c.sessions.length - 1 := Option.some.inj (hon.1.symm.trans hk)
    exact not_closedOn_last hp hn
  · exact absurd hm List.not_mem_nil

theorem Signal.closed_of_disconnected {user : User} {signal : Signal} {code : Nat}
    (h : signal.event user = .disconnected code) : signal = .closed code := by
  cases signal with
  | text s =>
    simp only [Signal.event] at h
    split at h <;> simp at h
  | closed found => exact congrArg Signal.closed (Event.disconnected.inj h)
  | _ => simp [Signal.event] at h

theorem Happens.ended {c : Client} {mv : Move} {t : Turn} (h : Happens c mv t)
    (hc : Orderly c.sessions Manager.Lone) {n code : Nat}
    (hd : .disconnected code ∈ Stride.eventsOn n ⟨c, mv, t⟩) : ClosedOn t.client.sessions n := by
  unfold Stride.eventsOn at hd
  split at hd
  · rename_i hon
    cases h with
    | idle h => simp [h.events] at hd
    | unagreed text remote hk => simp at hd
    | embarks hl user token greeting remote hk => simp at hd
    | @works _ k s f h =>
      obtain rfl : k = n := Option.some.inj (h.connection.symm.trans hon.1)
      obtain ⟨l, hl⟩ := (hc.single k s h.place).links
      obtain ⟨l', -, hs, -⟩ := h.stirring s.manager l hl
      rw [h.events] at hd
      obtain ⟨signal, hin, hsignal⟩ := List.mem_map.1 hd
      rw [Signal.closed_of_disconnected hsignal] at hin
      exact ⟨s.update fun m => (f m).1, by simp [h.sessions, h.place], hs.ended hin⟩
  · exact absurd hd List.not_mem_nil

theorem disconnect_closes {c : Client} (hc : Orderly c.sessions Manager.Lone) {n : Nat}
    (hn : n < c.sessions.length) : ClosedOn (c.disconnect .loose).1.sessions n := by
  have hs := List.getElem?_eq_getElem hn
  unfold disconnect
  rw [closeLast_loose]
  simp only [ClosedOn, List.getElem?_modify, hs]
  by_cases hlast : c.sessions.length - 1 = n
  · exact ⟨c.sessions[n].update fun m => (Conduct.loose.close m).1, by simp [hlast],
      (hc.single n _ hs).release_closed⟩
  · exact ⟨_, by simp [hlast], hc.earlier n _ hs (by omega)⟩

theorem move_released {c : Client} (hc : Orderly c.sessions Manager.Lone) (net : Network)
    {mv : Move} (h : mv = .act .disconnect ∨ mv = .act .drop) {n : Nat}
    (hn : n < c.sessions.length) : ClosedOn (c.move net mv).client.sessions n := by
  rcases h with rfl | rfl <;> exact disconnect_closes hc hn

/-- A move about an earlier connection changes that connection alone. Of it only failures are told,
and the end where its reader, still at work, comes to it. -/
structure Aside (s : Stride) (k : Nat) : Prop where
  rest : s.turn.client = { s.before with sessions := s.turn.client.sessions }
  others : ∀ n, n ≠ k → s.turn.client.sessions[n]? = s.before.sessions[n]?
  phase : s.turn.client.phase = s.before.phase
  told : ∀ (t : Session) (l : Link), s.before.sessions[k]? = some t → t.manager.links = [l] →
    ∃ failures : List Failure, s.turn.events = failures.map .failed ++
      if l.reading then (endOf? (s.move.items l.endpoint)).toList.map .disconnected else []

theorem Happens.aside {c : Client} {mv : Move} {t : Turn} (h : Happens c mv t)
    (hc : Orderly c.sessions Manager.Lone) {k : Nat} (hk : mv.connection c = some k)
    (hlate : k + 1 < c.sessions.length) : Aside ⟨c, mv, t⟩ k := by
  cases h with
  | idle h => exact absurd hlate (Nat.not_lt.2 (h.late k hk))
  | unagreed text remote hconn | embarks hl user token greeting remote hconn =>
    have := hk.symm.trans hconn
    simp only [Option.some.injEq] at this
    omega
  | @works _ j s f h =>
    obtain rfl : j = k := Option.some.inj (h.connection.symm.trans hk)
    have hp := hc.earlier j s h.place hlate
    obtain ⟨l, hl⟩ := (hc.single j s h.place).links
    obtain ⟨l', -, hs, -⟩ := h.stirring s.manager l hl
    have hothers : ∀ n, n ≠ j → t.client.sessions[n]? = c.sessions[n]? := by
      intro n hn
      rw [h.sessions]
      simp [Ne.symm hn]
    have hnone : (f s.manager).2.filterMap Signal.message? = [] := by
      rw [messages_of_signals, hs.texts]
      simp [hp]
    have hlen : t.client.sessions.length = c.sessions.length := by simp [h.sessions]
    refine ⟨?_, hothers, ?_, fun found l hfound hlinks => ?_⟩
    · have hrest := h.rest hlate
      rwa [hnone, List.append_nil] at hrest
    · simp only [phase, List.getLast?_eq_getElem?, hlen]
      rw [hothers _ (by omega)]
    · obtain rfl : s = found := Option.some.inj (h.place.symm.trans hfound)
      obtain ⟨l', -, hs, -⟩ := h.stirring s.manager l hlinks
      rw [hp] at hs
      obtain ⟨failures, hsignals⟩ := hs.told
      refine ⟨failures, ?_⟩
      simp only [h.events, hsignals, List.map_append, List.map_map]
      congr 1
      split <;> simp [Function.comp_def, Signal.event]

theorem Happens.audience {c : Client} {mv : Move} {t : Turn} (h : Happens c mv t)
    (ha : t.client.audience = .listening) : c.audience = .listening := by
  cases h with
  | idle h => exact (h.audience.resolve_right fun hne => hne ha).symm.trans ha
  | unagreed text remote hk => exact ha
  | embarks hl user token greeting remote hk => exact ha
  | works h => exact h.audience.symm.trans ha

theorem heard_throughout {net : Network} {c : Client} {moves : List Move}
    (h : (course net c moves).audience = .listening) :
    ∀ s ∈ strides net c moves, heardBy s.turn.client.audience s.turn.events = s.turn.events := by
  induction moves using List.reverseRecOn with
  | nil => exact fun s hs => absurd hs List.not_mem_nil
  | append_singleton moves mv ih =>
    rw [course_append] at h
    rw [strides_append_singleton]
    intro s hs
    rcases List.mem_append.1 hs with hs | hs
    · exact ih ((move_happens _ net mv).audience h) s hs
    · rw [List.mem_singleton.1 hs]
      exact if_pos h

/-- What is told while owner, readers and writers go on in any order. Of every connection that a
connect has opened, with the user that it gave, the events make up its chronicle, and all that is
told is told of one connection or says why a connect has failed. Each text that is delivered is told
once, and texts are delivered by the last connection alone and only while it is open. A connection
of which the end is told is closed, a disconnect closes all of them, and a closed one brings no
message ever after. What goes on at a connection behind the last one changes that one alone, and
tells its end if its reader comes to it. Whoever listens at the end has heard all of this. -/
theorem events_of_schedule (net : Network) (server : Server) (clock : FixedClock)
    (audience : Audience) (moves : List Move) :
    let start := fresh server clock audience
    let run := strides net start moves
    let c := course net start moves
    (∀ s ∈ run,
      (∀ user, s.turn.result = .ok (some user) →
        ∃ t l, c.sessions[s.before.sessions.length]? = some t ∧ t.user = user ∧
          t.manager.links = [l] ∧
          Chronicle user l (run.flatMap (Stride.eventsOn s.before.sessions.length))) ∧
      ((∃ n, s.eventsOn n = s.turn.events) ∨
        ∃ f, s.turn.result = .error f ∧ s.turn.events = [.failed f]) ∧
      s.turn.events.filter Event.isVerdict = s.delivered.map Event.ofText ∧
      (s.delivered ≠ [] →
        s.before.phase = .opened ∧
          s.move.connection s.before = some (s.before.sessions.length - 1)) ∧
      (∀ n code, .disconnected code ∈ s.eventsOn n → ClosedOn s.turn.client.sessions n) ∧
      (s.move = .act .disconnect ∨ s.move = .act .drop →
        ∀ n, n < s.before.sessions.length → ClosedOn s.turn.client.sessions n) ∧
      (∀ k, s.move.connection s.before = some k → k + 1 < s.before.sessions.length →
        Aside s k)) ∧
    (∀ earlier later n, moves = earlier ++ later → ClosedOn (course net start earlier).sessions n →
      ∀ s ∈ strides net (course net start earlier) later, ∀ m, .message m ∉ s.eventsOn n) ∧
    (c.audience = .listening →
      ∀ s ∈ run, heardBy s.turn.client.audience s.turn.events = s.turn.events) := by
  intro start run c
  refine ⟨fun s hs => ?_, ?_, fun h => heard_throughout h⟩
  · have hopened := fun user => @opened_course net server clock audience moves s hs user
    obtain ⟨earlier, mv, rfl⟩ := mem_strides hs
    have hc := orderly_course net server clock audience earlier
    have h := move_happens (course net start earlier) net mv
    refine ⟨fun user hok => ?_, h.told_of_one, h.verdicts hc, delivered_live hc,
      fun n code hd => h.ended hc hd, fun ha n hn => move_released hc net ha hn,
      fun k hk hlate => h.aside hc hk hlate⟩
    obtain ⟨t, ht, rfl⟩ := hopened user hok
    have htold :=
      told_course net server clock audience moves (course net start earlier).sessions.length
    rw [ht] at htold
    cases htold with
    | opened hl h => exact ⟨t, _, ht, rfl, hl, h⟩
  · intro earlier later n hsplit hclosed s hs m
    have hc := orderly_course net server clock audience earlier
    obtain ⟨between, mv, rfl⟩ := mem_strides hs
    exact no_message_of_closed (hc.course net between) (hclosed.course hc net between) net mv m

def boarding (greeting : List UInt8) : Move :=
  .act (.connectWithToken ⟨"t"⟩ [identity, Manager.agreement greeting])

def closeFrame : List UInt8 := Frame.octets .close [3, 233]

/-- The server closes while a text waits for the writer. The owner connects again and is sent a
message with the answer, and only then does the first writer go on. -/
def overtaken : List Move :=
  [boarding [], .act (.send "general" "hello"), .act (.receive 0 closeFrame),
    boarding (textFrame greetingText), .act (.receive 1 []), .write 0]

theorem events_of_schedule_overtaken :
    let run := strides Manager.everywhere newcomer overtaken
    (∃ l, Chronicle ⟨"u1", "ada"⟩ l (run.flatMap (Stride.eventsOn 0))) ∧
      (run.flatMap (Stride.eventsOn 0)).length = 3 ∧
      (∃ l, Chronicle ⟨"u1", "ada"⟩ l (run.flatMap (Stride.eventsOn 1))) ∧
      (run.flatMap Stride.delivered) = [greetingText] ∧
      ∀ s ∈ strides Manager.everywhere (course Manager.everywhere newcomer (overtaken.take 3))
          (overtaken.drop 3), ∀ m, .message m ∉ s.eventsOn 0 := by
  intro run
  obtain ⟨hsteps, hclosed, -⟩ :=
    events_of_schedule Manager.everywhere .standard (.ofMillis 0) .listening overtaken
  have hchronicle : ∀ (k : Nat) (hk : k < run.length),
      run[k].turn.result = .ok (some ⟨"u1", "ada"⟩) →
        ∃ l, Chronicle ⟨"u1", "ada"⟩ l
          (run.flatMap (Stride.eventsOn run[k].before.sessions.length)) := by
    intro k hk hok
    obtain ⟨-, l, -, -, -, h⟩ := (hsteps _ (List.getElem_mem hk)).1 _ hok
    exact ⟨l, h⟩
  refine ⟨hchronicle 0 (by decide) (by decide +kernel), by decide +kernel,
    hchronicle 3 (by decide) (by decide +kernel), by decide +kernel, ?_⟩
  apply hclosed (overtaken.take 3) (overtaken.drop 3) 0 rfl
  have hphase : (course Manager.everywhere newcomer (overtaken.take 3)).sessions[0]?.map
      (·.manager.phase) = some .closed := by
    decide +kernel
  exact Option.map_eq_some_iff.1 hphase

def Stride.heardOn (n : Nat) (s : Stride) : List Event :=
  heardBy s.turn.client.audience (s.eventsOn n)

/-- Every connection is heard of as opened, then by messages and failures, and by nothing behind an
end. -/
def EndsLast (moves : List Move) : Prop :=
  let run := strides Manager.everywhere newcomer moves
  ∀ s ∈ run, ∀ user, s.turn.result = .ok (some user) →
    ∃ reports ending : List Event,
      run.flatMap (Stride.heardOn s.before.sessions.length) =
        .connected user :: (reports ++ ending) ∧
      (∀ e ∈ reports, e.isReport = true) ∧ ending.length ≤ 1 ∧
        ∀ e ∈ ending, ∃ code, e = .disconnected code

/-- The writer tells of its failure behind the end, and somebody who has gone hears nothing. -/
theorem not_endsLast : ¬ EndsLast overtaken ∧ ¬ EndsLast [.act .deafen, boarding []] := by
  constructor
  · intro h
    obtain ⟨reports, ending, hevents, hreports, hlen, hending⟩ :=
      h _ List.mem_cons_self ⟨"u1", "ada"⟩ (by decide +kernel)
    have hlast : ((strides Manager.everywhere newcomer overtaken).flatMap
        (Stride.heardOn newcomer.sessions.length)).map Event.isReport = [false, false, true] := by
      decide +kernel
    have hall := (congrArg (List.map Event.isReport) hevents).symm.trans hlast
    match ending with
    | [] =>
      match reports with
      | [] => simp at hall
      | e :: _ =>
        have := hreports e List.mem_cons_self
        simp [this] at hall
    | [e] =>
      obtain ⟨code, rfl⟩ := hending e List.mem_cons_self
      have := congrArg List.getLast? hall
      simp [List.getLast?_cons, Event.isReport] at this
    | _ :: _ :: _ => simp at hlen
  · intro h
    obtain ⟨reports, ending, hevents, -⟩ :=
      h _ (List.mem_cons_of_mem _ List.mem_cons_self) ⟨"u1", "ada"⟩ (by decide +kernel)
    have hnone : ((strides Manager.everywhere newcomer [.act .deafen, boarding []]).flatMap
        (Stride.heardOn 0)).length = 0 := by
      decide +kernel
    have hsome := congrArg List.length hevents
    exact absurd (hsome.symm.trans hnone) (by simp)

end Client

end Parley
