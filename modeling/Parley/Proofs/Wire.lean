import Parley.Proofs.Client

/-! What a client writes. On each of its connections stand, pongs aside, the frames of the sends
that were accepted for it, in the order of the calls, and behind them one close frame if the client
closed it while it was open. -/

namespace Parley

open Connection Socket

def Socket.Outbound.isPong : Outbound → Bool
  | .pong _ => true
  | _ => false

namespace Manager

/-- What was written on the connections of a manager, pongs aside. -/
def frames (m : Manager) : List Outbound := (m.links.flatMap (·.wire)).filter (!·.isPong)

theorem frames_single (phase : Phase) (held : Option Nat) (l : Link) :
    frames ⟨phase, held, [l]⟩ = l.wire.filter (!·.isPong) := by
  simp [frames]

theorem filter_pongs (stage : Stage) (items : List Item) :
    (Endpoint.pongs stage items).filter (!·.isPong) = [] := by
  unfold Endpoint.pongs
  split
  · rw [List.filter_eq_nil_iff]
    intro o ho
    obtain ⟨item, -, hi⟩ := List.mem_filterMap.1 ho
    split at hi
    · rw [← Option.some.inj hi]
      simp [Outbound.isPong]
    · simp at hi
  · rfl

end Manager

namespace Connection.Link

def written (l : Link) : List Outbound := l.wire.filter (!·.isPong)

/-- The server brings nothing but pongs there. -/
theorem arrive_written (l : Link) (phase : Phase) (a : Arrival) :
    (l.arrive phase a).1.written = l.written := by
  unfold arrive
  split
  · simp only [written, List.filter_append, Manager.filter_pongs, List.append_nil]
  · rfl

end Connection.Link

namespace Manager

theorem frames_arrive {m : Manager} (h : m.Single) (a : Link.Arrival) :
    (m.arrive 0 a).1.frames = m.frames := by
  obtain ⟨l, hl⟩ := h.links_eq
  have hk : m.links[0]? = some l := by rw [hl]; rfl
  rw [arrive_some h.steady.queue hk]
  simp only [frames, hl, List.set_cons_zero, List.map_cons, List.map_nil, List.flatMap_cons,
    List.flatMap_nil, List.append_nil, Link.rest_wire, Link.arrive]
  split
  · rw [List.filter_append, filter_pongs, List.append_nil]
  · rfl

theorem frames_begun (greeting : List UInt8) : (begun greeting).1.frames = [] :=
  frames_arrive (.opened Link.fresh_live) (.octets greeting)

theorem frames_sent (held : Option Nat) (l : Link) (text : String) :
    frames ⟨.opened, held, [l.sent text]⟩ = frames ⟨.opened, held, [l]⟩ ++ [.text text] := by
  simp [frames_single, Link.sent, List.filter_append, Outbound.isPong]

theorem frames_close {m : Manager} (h : m.Single) :
    m.close.1.frames = m.frames ++ if m.phase = .opened then [.close normal ""] else [] := by
  rcases h.phase_cases with hp | hp
  · rw [close_single_closed h hp]
    simp [frames, hp]
  · obtain ⟨l, hl, rfl⟩ := h.opened_eq hp
    rw [close_single_opened hl]
    simp [frames_single, Link.shut, List.filter_append, Outbound.isPong]

end Manager

namespace Client

/-- What was written on a connection, pongs aside. -/
def framesOn (sessions : List Session) (n : Nat) : List Outbound :=
  match sessions[n]? with
  | some s => s.manager.frames
  | none => []

/-- The frames that a step was asked to write on a connection and has accepted. A send of the
client's own is the frame of what it put into the log. -/
def Step.accepted (n : Nat) (s : Step) : List Outbound :=
  match s.action, s.turn.result with
  | .send .., .ok _ =>
    if n + 1 = s.before.sessions.length then
      (s.turn.client.sent.drop s.before.sent.length).map (.text ·.toFrame)
    else []
  | .sendThrough k text, .ok _ => if k = n then [.text text] else []
  | _, _ => []

/-- Whether a step closes a connection: it is the last one, and it is open. -/
def Step.closes (n : Nat) (s : Step) : Bool :=
  match s.action with
  | .disconnect | .drop => decide (n + 1 = s.before.sessions.length ∧ s.before.phase = .opened)
  | _ => false

theorem framesOn_modify {sessions : List Session} {k : Nat} {s : Session}
    (hk : sessions[k]? = some s) (g : Manager → Manager) {new : List Outbound}
    (hg : (g s.manager).frames = s.manager.frames ++ new) (n : Nat) :
    framesOn (sessions.modify k (Session.update g)) n =
      framesOn sessions n ++ if k = n then new else [] := by
  unfold framesOn
  by_cases hn : k = n
  · subst hn
    simp [hk, hg, Session.update]
  · simp [hn]

def Step.closing (n : Nat) (s : Step) : List Outbound :=
  if s.closes n then [.close normal ""] else []

theorem framesOn_released {c : Client} (hc : Orderly c.sessions) (n : Nat) :
    framesOn (released c.sessions) n =
      framesOn c.sessions n ++
        if n + 1 = c.sessions.length ∧ c.phase = .opened then [.close normal ""] else [] := by
  cases hs : c.sessions[c.sessions.length - 1]? with
  | none =>
    have hnil : c.sessions = [] := by
      have := List.getElem?_eq_none_iff.1 hs
      exact List.length_eq_zero_iff.1 (by omega)
    simp [framesOn, released, hnil]
  | some s =>
    have hlen := (List.getElem?_eq_some_iff.1 hs).1
    have hk : c.sessions.length - 1 = n ↔ n + 1 = c.sessions.length := by omega
    rw [released, framesOn_modify hs _ (Manager.frames_close (hc.single _ s hs)), phase_at_last hs]
    by_cases hn : n + 1 = c.sessions.length
    · rw [if_pos (hk.2 hn)]
      simp [hn]
    · rw [if_neg (mt hk.1 hn), if_neg fun h => hn h.1]

theorem Outcome.framesOn {c : Client} {net : Network} {attempt : Attempt} (hc : Orderly c.sessions)
    (h : Outcome c net attempt) (n : Nat) :
    Client.framesOn attempt.client.sessions n = Client.framesOn c.sessions n := by
  cases h with
  | refused f remote => rfl
  | unagreed text remote => rfl
  | @joined hl user token greeting url before remote hurl hs =>
    have hold := framesOn_released hc n
    have hp : c.phase ≠ .opened := by
      intro hp
      rw [hp] at hl
      exact Bool.noConfusion hl
    rw [if_neg fun h => hp h.2, List.append_nil] at hold
    rw [← hold]
    unfold Client.framesOn
    by_cases hn : n = c.sessions.length
    · subst hn
      rw [joined_newest, List.getElem?_eq_none (Nat.le_of_eq (released_length _))]
      exact Manager.frames_begun greeting
    · rw [joined_earlier c user token greeting hn]

theorem framesOn_arrive {c : Client} (hc : Orderly c.sessions) (k : Nat) (a : Link.Arrival)
    (n : Nat) :
    framesOn (c.arrive k a).1.sessions n = framesOn c.sessions n := by
  cases hk : c.sessions[k]? with
  | none => rw [arrive_none hk]
  | some s =>
    have hsame : (s.manager.arrive 0 a).1.frames = s.manager.frames ++ [] := by
      rw [Manager.frames_arrive (hc.single k s hk), List.append_nil]
    rw [arrive_some hk, framesOn_modify hk _ hsame, ite_self, List.append_nil]

/-- What stands on a connection behind a step: what stood there, what the step was asked to write
and has accepted, and its close frame. -/
theorem framesOn_perform {c : Client} (hc : Orderly c.sessions) (net : Network) (a : Action)
    (n : Nat) :
    framesOn (c.perform net a).client.sessions n =
      framesOn c.sessions n ++
        (Step.accepted n ⟨c, a, c.perform net a⟩ ++ Step.closing n ⟨c, a, c.perform net a⟩) := by
  cases a with
  | connect username password replies =>
    have := (connect_outcome hc net username password (.ofReplies replies)).framesOn hc n
    simpa [Client.perform, Turn.ofAttempt, Step.accepted, Step.closing, Step.closes] using this
  | connectWithToken token replies =>
    have := (connectWithToken_outcome hc net token (.ofReplies replies)).framesOn hc n
    simpa [Client.perform, Turn.ofAttempt, Step.accepted, Step.closing, Step.closes] using this
  | send chatId text =>
    rcases send_cases hc chatId text with h | ⟨user, -, hp, h⟩
    · simp [Client.perform, Turn.ofSend, h, Step.accepted, Step.closing, Step.closes, Except.map]
    · obtain ⟨s, hs, hsp⟩ := last_of_opened hp
      obtain ⟨l, hl, hm⟩ := (hc.single _ s hs).opened_eq hsp
      have hg : (s.manager.send (Envelope.seal user chatId text c.clock.now).toFrame).2.1.frames =
          s.manager.frames ++ [.text (Envelope.seal user chatId text c.clock.now).toFrame] := by
        rw [hm, Manager.send_single_opened hl, Manager.frames_sent]
      have hlen := (List.getElem?_eq_some_iff.1 hs).1
      have hk : c.sessions.length - 1 = n ↔ n + 1 = c.sessions.length := by omega
      have := framesOn_modify hs (fun m => (m.send _).2.1) hg n
      simp only [hk] at this
      simpa [Client.perform, Turn.ofSend, h, Step.accepted, Step.closing, Step.closes,
        Except.map] using this
  | sendThrough k text =>
    rcases sendThrough_cases hc k text with h | ⟨s, hk, hp, h⟩
    · simp [Client.perform, Turn.ofSend, h, Step.accepted, Step.closing, Step.closes, Except.map]
    · obtain ⟨l, hl, hm⟩ := (hc.single k s hk).opened_eq hp
      have hg : (s.manager.sendThrough 0 text).2.1.frames = s.manager.frames ++ [.text text] := by
        rw [hm, Manager.sendThrough_single_opened hl, Manager.frames_sent]
      have := framesOn_modify hk (fun m => (m.sendThrough 0 text).2.1) hg n
      simpa [Client.perform, Turn.ofSend, h, Step.accepted, Step.closing, Step.closes,
        Except.map] using this
  | disconnect | drop =>
    have := framesOn_released hc n
    simpa [Client.perform, Turn.quiet, disconnect_eq hc, Step.accepted, Step.closing,
      Step.closes] using this
  | clear | deafen =>
    simp [Client.perform, Turn.quiet, Step.accepted, Step.closing, Step.closes, Client.clear]
  | receive k bs =>
    have := framesOn_arrive hc k (.octets bs) n
    simpa [Client.perform, Turn.quiet, receive_eq, Step.accepted, Step.closing,
      Step.closes] using this
  | hangUp k cut =>
    have := framesOn_arrive hc k (.hangUp cut) n
    simpa [Client.perform, Turn.quiet, hangUp_eq, Step.accepted, Step.closing,
      Step.closes] using this

theorem accepted_of_closedOn {c : Client} (hc : Orderly c.sessions) {n : Nat}
    (h : ClosedOn c.sessions n)
    (net : Network) (a : Action) : Step.accepted n ⟨c, a, c.perform net a⟩ = [] := by
  cases a with
  | send chatId text =>
    rcases send_cases hc chatId text with hs | ⟨user, -, hp, hs⟩
    · simp [Client.perform, Turn.ofSend, hs, Step.accepted, Except.map]
    · have hn : n + 1 ≠ c.sessions.length := by
        intro hn
        apply not_closedOn_last hp
        rwa [← hn]
      simp [Client.perform, Turn.ofSend, hs, Step.accepted, Except.map, hn]
  | sendThrough k text =>
    rcases sendThrough_cases hc k text with hs | ⟨s, hk, hp, hs⟩
    · simp [Client.perform, Turn.ofSend, hs, Step.accepted, Except.map]
    · have hn : k ≠ n := by
        rintro rfl
        obtain ⟨t, ht, htp⟩ := h
        rw [hk, Option.some.injEq] at ht
        rw [← ht, hp] at htp
        exact Phase.noConfusion htp
      simp [Client.perform, Turn.ofSend, hs, Step.accepted, Except.map, hn]
  | _ => rfl

theorem closes_of_closedOn {c : Client} {n : Nat} (h : ClosedOn c.sessions n) (a : Action)
    (t : Turn) :
    Step.closes n ⟨c, a, t⟩ = false := by
  have hnot : ¬ (n + 1 = c.sessions.length ∧ c.phase = .opened) := by
    rintro ⟨hn, hp⟩
    apply not_closedOn_last hp
    rwa [← hn]
  cases a with
  | disconnect | drop => simpa [Step.closes] using hnot
  | _ => rfl

theorem closedOn_of_closes {c : Client} (hc : Orderly c.sessions) {n : Nat} {net : Network}
    {a : Action} (h : Step.closes n ⟨c, a, c.perform net a⟩ = true) :
    ClosedOn (c.perform net a).client.sessions n := by
  have hclosed : n + 1 = c.sessions.length ∧ c.phase = .opened →
      ClosedOn (released c.sessions) n := by
    rintro ⟨hn, -⟩
    have hne : c.sessions ≠ [] := List.ne_nil_of_length_pos (by omega)
    have := closedOn_released hc hne
    rwa [← hn] at this
  cases a with
  | disconnect | drop =>
    simp only [Client.perform, Turn.quiet, disconnect_eq hc]
    exact hclosed (of_decide_eq_true h)
  | _ => exact Bool.noConfusion h

def closingOf (n : Nat) (run : List Step) : List Outbound :=
  if run.any (Step.closes n) then [.close normal ""] else []

/-- Of a run: a connection that it has closed stays closed, and what stands on every connection is
what the run was asked to write there and has accepted, with the close frame behind. -/
theorem framesOn_after (net : Network) (server : Server) (clock : FixedClock) (audience : Audience)
    (actions : List Action) (n : Nat) :
    ((steps net (fresh server clock audience) actions).any (Step.closes n) = true →
        ClosedOn (after net (fresh server clock audience) actions).sessions n) ∧
      framesOn (after net (fresh server clock audience) actions).sessions n =
        (steps net (fresh server clock audience) actions).flatMap (Step.accepted n) ++
          closingOf n (steps net (fresh server clock audience) actions) := by
  induction actions using List.reverseRecOn with
  | nil => simp [after, fresh, steps, framesOn, closingOf]
  | append_singleton actions a ih =>
    obtain ⟨hclosed, hframes⟩ := ih
    have hc := orderly_after net server clock audience actions
    have hstep := framesOn_perform hc net a n
    rw [after_append_singleton, steps_append_singleton, closingOf, List.any_append,
      List.flatMap_append]
    unfold closingOf at hframes
    generalize steps net (fresh server clock audience) actions = run at *
    generalize after net (fresh server clock audience) actions = c at *
    by_cases hrun : run.any (Step.closes n) = true
    · -- nothing is accepted behind the close frame, and none follows it
      have hn := hclosed hrun
      rw [hframes, if_pos hrun, accepted_of_closedOn hc hn net a, Step.closing,
        closes_of_closedOn hn] at hstep
      constructor
      · exact fun _ => hn.evolves (perform_evolves hc net a) hc
      · simp [hstep, hrun, accepted_of_closedOn hc hn net a]
    · rw [hframes, if_neg hrun, List.append_nil, Step.closing] at hstep
      constructor
      · intro h
        simp only [hrun, List.any_cons, List.any_nil, Bool.or_false, Bool.false_or] at h
        exact closedOn_of_closes hc h
      · simp [hstep, hrun]

theorem send_ok_iff {c : Client} (hc : Orderly c.sessions) (net : Network) (chatId text : String) :
    (∃ result, (c.perform net (.send chatId text)).result = .ok result) ↔
      c.user ≠ none ∧ c.phase = .opened := by
  simp only [perform, Turn.ofSend]
  by_cases h : c.user = none ∨ c.phase ≠ .opened
  · rw [send_refused h]
    rw [← not_not (a := c.phase = .opened), ← not_or]
    simp [h, Except.map]
  · rw [not_or, not_not] at h
    obtain ⟨user, hu⟩ := Option.ne_none_iff_exists'.1 h.1
    rw [send_accepted hc hu h.2]
    exact ⟨fun _ => h, fun _ => ⟨none, rfl⟩⟩

theorem sendThrough_ok_iff {c : Client} (hc : Orderly c.sessions) (net : Network) (k : Nat)
    (text : String) :
    (∃ result, (c.perform net (.sendThrough k text)).result = .ok result) ↔
      ∃ s, c.sessions[k]? = some s ∧ s.manager.phase = .opened := by
  simp only [perform, Turn.ofSend]
  cases hk : c.sessions[k]? with
  | none => simp [sendThrough_none hk, Except.map]
  | some s =>
    rcases (hc.single k s hk).phase_cases with hp | hp
    · simp [sendThrough_closed hc hk hp, hp, Except.map]
    · rw [sendThrough_opened hc hk hp]
      exact ⟨fun _ => ⟨s, rfl, hp⟩, fun _ => ⟨none, rfl⟩⟩

theorem perform_sent {c : Client} (hc : Orderly c.sessions) {net : Network} {chatId text : String}
    {result : Option User} (h : (c.perform net (.send chatId text)).result = .ok result) :
    ∃ user, c.user = some user ∧
      (c.perform net (.send chatId text)).client.sent =
        c.sent ++ [Envelope.seal user chatId text c.clock.now] := by
  simp only [perform, Turn.ofSend] at h ⊢
  rcases send_cases hc chatId text with hs | ⟨user, hu, -, hs⟩
  · simp [hs, Except.map] at h
  · exact ⟨user, hu, by rw [hs]⟩

/-- What a client has written on each of its connections at the end of any run. It is what the
sends that were accepted for the connection ask for, one frame each and in their order, and one
close frame behind them exactly if the client closed the connection while it was open. A send is
accepted exactly if its connection is open, and then it puts one envelope into the log. A call that
fails changes no connection, and neither does closing anew. -/
theorem written_by_run (net : Network) (server : Server) (clock : FixedClock) (audience : Audience)
    (actions : List Action) :
    let run := steps net (fresh server clock audience) actions
    (∀ (n : Nat) (s : Session),
      (after net (fresh server clock audience) actions).sessions[n]? = some s →
      s.manager.frames =
        run.flatMap (Step.accepted n) ++
          if run.any (Step.closes n) then [.close normal ""] else []) ∧
    ∀ step ∈ run,
      (∀ chatId text, step.action = .send chatId text →
        ((∃ result, step.turn.result = .ok result) ↔
          step.before.user ≠ none ∧ step.before.phase = .opened)) ∧
      (∀ k text, step.action = .sendThrough k text →
        ((∃ result, step.turn.result = .ok result) ↔
          ∃ s, step.before.sessions[k]? = some s ∧ s.manager.phase = .opened)) ∧
      (∀ chatId text result, step.action = .send chatId text → step.turn.result = .ok result →
        ∃ user, step.before.user = some user ∧
          step.turn.client.sent =
            step.before.sent ++ [Envelope.seal user chatId text step.before.clock.now]) ∧
      (∀ f, step.turn.result = .error f → step.turn.client.sessions = step.before.sessions) ∧
      (step.action = .disconnect ∨ step.action = .drop →
        step.turn.client.phase ≠ .opened ∧
          (step.before.phase ≠ .opened →
            ∀ n, framesOn step.turn.client.sessions n = framesOn step.before.sessions n)) := by
  intro run
  constructor
  · intro n s hs
    have := (framesOn_after net server clock audience actions n).2
    rwa [framesOn, hs] at this
  · intro step hstep
    obtain ⟨earlier, a, rfl⟩ := mem_steps hstep
    have hc := orderly_after net server clock audience earlier
    refine ⟨?_, ?_, ?_, fun f hf => perform_failed hc hf, ?_⟩
    · intro chatId text ha
      simp only at ha
      subst ha
      exact send_ok_iff hc net chatId text
    · intro k text ha
      simp only at ha
      subst ha
      exact sendThrough_ok_iff hc net k text
    · intro chatId text result ha hok
      simp only at ha hok
      subst ha
      exact perform_sent hc hok
    · intro ha
      have hgone := perform_released hc net ha
      refine ⟨phase_of_released hc hgone, fun hp n => ?_⟩
      rw [hgone, framesOn_released hc, if_neg fun h => hp h.2, List.append_nil]

theorem written_by_run_reconnecting :
    (after Manager.everywhere newcomer reconnecting).sessions.length = 2 ∧
      ∀ s, (after Manager.everywhere newcomer reconnecting).sessions[0]? = some s →
        s.manager.frames =
          [.text (Envelope.seal ⟨"u1", "ada"⟩ "general" "hello" newcomer.clock.now).toFrame,
            .close normal ""] := by
  refine ⟨by decide +kernel, fun s hs => ?_⟩
  rw [(written_by_run Manager.everywhere _ _ _ reconnecting).1 0 s hs]
  decide +kernel

end Client

end Parley
