import Parley.Proofs.Events
import Parley.Proofs.SharedPhase
import Parley.Proofs.Wire

/-! Handles of connections. A handle outlives its connection, and the phase it looks at may have
been opened again by a later connection of the same manager, so the phase does not tell it that its
own connection is gone. The writer does, which every close and every end send away for good. Three
facts carry this: a send is accepted by the newest connection alone, and while the phase is open; a
connection that was closed or has ended is never that one; and what was closed or has ended remains
so. -/

namespace Parley

open Connection Socket

namespace Manager

/-- What a send through the handle of one connection comes to. An accepted one is written on that
connection; one that is refused changes nothing. -/
inductive Sends (m : Manager) (k : Nat) (text : String) :
    Except Failure Unit × Manager × List Signal → Prop
  | accepted {l : Link} (hp : m.phase = .opened) (hk : k + 1 = m.links.length)
      (hl : m.links[k]? = some l) :
      Sends m k text (.ok (), { m with links := m.links.set k (l.sent text) }, [])
  | refused (h : ¬ (m.phase = .opened ∧ k + 1 = m.links.length)) :
      Sends m k text (.error .notConnected, m, [])

theorem Steady.sends {m : Manager} (h : m.Steady) (k : Nat) (text : String) :
    Sends m k text (m.sendThrough k text) := by
  cases h with
  | idle =>
    apply Sends.refused
    rintro ⟨hp, -⟩
    exact Phase.noConfusion hp
  | closed held hd =>
    rw [sendThrough_done fun l hl => hd l (List.mem_of_getElem? hl)]
    apply Sends.refused
    rintro ⟨hp, -⟩
    exact Phase.noConfusion hp
  | @opened earlier newest hd hn =>
    by_cases hk : k = earlier.length
    · subst hk
      have hset : (earlier ++ [newest]).set earlier.length (newest.sent text) =
          earlier ++ [newest.sent text] := by
        rw [List.set_append_right _ _ (Nat.le_refl _), Nat.sub_self, List.set_cons_zero]
      rw [sendThrough_newest hd hn, ← hset]
      exact .accepted rfl (by simp) List.getElem?_concat_length
    · rw [sendThrough_done (sender_done hd hk)]
      apply Sends.refused
      rintro ⟨-, hlast⟩
      rw [List.length_append, List.length_singleton] at hlast
      exact hk (Nat.succ.inj hlast)

namespace Sends

variable {m : Manager} {k : Nat} {text : String} {r : Except Failure Unit × Manager × List Signal}

theorem others (h : Sends m k text r) {j : Nat} (hj : j ≠ k) : r.2.1.links[j]? = m.links[j]? := by
  cases h with
  | accepted hp hk hl => exact List.getElem?_set_ne (Ne.symm hj)
  | refused h => rfl

theorem ok_iff (h : Sends m k text r) :
    r.1 = .ok () ↔ m.phase = .opened ∧ k + 1 = m.links.length := by
  cases h with
  | accepted hp hk hl => exact ⟨fun _ => ⟨hp, hk⟩, fun _ => rfl⟩
  | refused h => exact ⟨fun hok => absurd hok (by simp), fun hlast => absurd hlast h⟩

theorem written (h : Sends m k text r) (hok : r.1 = .ok ()) :
    ∃ l, m.links[k]? = some l ∧ r.2.1.links[k]? = some (l.sent text) := by
  cases h with
  | accepted hp hk hl =>
    have hlt := (List.getElem?_eq_some_iff.1 hl).1
    exact ⟨_, hl, List.getElem?_set_self hlt⟩
  | refused h => simp at hok

theorem eq_of_refused (h : Sends m k text r)
    (hgone : ¬ (m.phase = .opened ∧ k + 1 = m.links.length)) :
    r = (.error .notConnected, m, []) := by
  cases h with
  | accepted hp hk hl => exact absurd ⟨hp, hk⟩ hgone
  | refused h => rfl

end Sends

/-- While the phase is open, the newest connection was neither closed nor has it ended. -/
theorem Ledger.Tracks.gone {fs : Ledger} {m : Manager} (h : fs.Tracks m) {k : Nat} {f : Fate}
    (hf : fs[k]? = some f) (hgone : f.shut = true ∨ f.finished = true) :
    ¬ (m.phase = .opened ∧ k + 1 = m.links.length) := by
  rintro ⟨hp, hk⟩
  obtain ⟨newest, hnewest, hlive, -⟩ := (Ledger.isUsable_iff fs).1 (h.usable.1 hp)
  have hlast : fs.length - 1 = k := by rw [h.length_eq, ← hk, Nat.add_sub_cancel]
  rw [List.getLast?_eq_getElem?, hlast, hf, Option.some.injEq] at hnewest
  subst hnewest
  simp only [Fate.isLive, Bool.and_eq_true, Bool.not_eq_true'] at hlive
  simp [hlive] at hgone

/-- A send through the handle of a connection that was closed or has ended earlier in the run. -/
theorem act_sendThrough_gone (net : Network) (earlier later : List Action) {k : Nat} {f : Fate}
    (hf : (ledger net earlier)[k]? = some f) (hgone : f.shut = true ∨ f.finished = true)
    (text : String) :
    (after net fresh (earlier ++ later)).act net (.sendThrough k text) =
      ⟨.error .notConnected, after net fresh (earlier ++ later), [], .ofReplies []⟩ := by
  obtain ⟨g, hg, hfg⟩ := ledger_precedes net earlier later hf
  have hstill : g.shut = true ∨ g.finished = true := hgone.imp hfg.shut hfg.finished
  have hnot := (ledger_tracks net (earlier ++ later)).gone hg hstill
  have hsends := (steady_after net (earlier ++ later)).sends k text
  simp only [act, hsends.eq_of_refused hnot]

end Manager

namespace Client

/-- Whether a connection is over with a step: the client closes all that it has, or goes away, or
the end of that one is told. -/
def Step.Finishes (n : Nat) (s : Step) : Prop :=
  (s.action = .disconnect ∨ s.action = .drop) ∧ n < s.before.sessions.length ∨
    ∃ code, .disconnected code ∈ s.eventsOn n

theorem Step.Finishes.closedOn {c : Client} (hc : Orderly c.sessions) {net : Network} {a : Action}
    {n : Nat} (h : Step.Finishes n ⟨c, a, c.perform net a⟩) :
    ClosedOn (c.perform net a).client.sessions n := by
  rcases h with ⟨ha, hn⟩ | ⟨code, hd⟩
  · exact all_closed hc net ha hn
  · exact closedOn_of_disconnected hc hd

theorem Step.Finishes.after {c : Client} (hc : Orderly c.sessions) {net : Network} {a : Action}
    {n : Nat} (h : Step.Finishes n ⟨c, a, c.perform net a⟩) (later : List Action) :
    ClosedOn (Client.after net c (a :: later)).sessions n := by
  have hnext : Orderly (c.perform net a).client.sessions := (perform_evolves hc net a).orderly hc
  exact (h.closedOn hc).after hnext net later

theorem Orderly.opened_iff {c : Client} (hc : Orderly c.sessions) (n : Nat) :
    (∃ s, c.sessions[n]? = some s ∧ s.manager.phase = .opened) ↔
      c.phase = .opened ∧ n + 1 = c.sessions.length := by
  constructor
  · rintro ⟨s, hs, hp⟩
    have hlt := (List.getElem?_eq_some_iff.1 hs).1
    have hlast : n + 1 = c.sessions.length := by
      by_contra hne
      rw [hc.earlier n s hs (by omega)] at hp
      exact Phase.noConfusion hp
    refine ⟨?_, hlast⟩
    rw [phase_at_last (by rw [← hlast, Nat.add_sub_cancel, hs]), hp]
  · rintro ⟨hp, hlast⟩
    obtain ⟨s, hs, hsp⟩ := last_of_opened hp
    rw [← hlast, Nat.add_sub_cancel] at hs
    exact ⟨s, hs, hsp⟩

theorem perform_sendThrough_others {c : Client} (hc : Orderly c.sessions) (net : Network)
    {n j : Nat} (hj : j ≠ n) (text : String) :
    (c.perform net (.sendThrough n text)).client.sessions[j]? = c.sessions[j]? := by
  rcases sendThrough_cases hc n text with hs | ⟨s, -, -, hs⟩
  · simp only [perform, Turn.ofSend, hs]
  · simp [perform, Turn.ofSend, hs, Ne.symm hj]

theorem perform_sendThrough_opened {c : Client} (hc : Orderly c.sessions) (net : Network) {n : Nat}
    {s : Session} (hs : c.sessions[n]? = some s) (hp : s.manager.phase = .opened) (text : String) :
    (c.perform net (.sendThrough n text)).result = .ok none ∧
    ∃ l, s.manager.links = [l] ∧
      (c.perform net (.sendThrough n text)).client.sessions[n]? =
        some (s.update fun m => { m with links := [l.sent text] }) := by
  obtain ⟨l, hl, hm⟩ := (hc.single n s hs).opened_eq hp
  have hsent : (s.manager.sendThrough 0 text).2.1 = { s.manager with links := [l.sent text] } := by
    rw [hm, Manager.sendThrough_single_opened hl]
  simp only [perform, Turn.ofSend, sendThrough_opened hc hs hp]
  refine ⟨rfl, l, by rw [hm], ?_⟩
  rw [List.getElem?_modify_eq, hs]
  simp only [Option.map_eq_map, Option.map_some, Session.update, hsent]

theorem perform_sendThrough_closed {c : Client} (hc : Orderly c.sessions) (net : Network) {n : Nat}
    (h : ClosedOn c.sessions n) (text : String) :
    c.perform net (.sendThrough n text) = ⟨.error .notConnected, c, [], .ofReplies []⟩ := by
  obtain ⟨s, hs, hp⟩ := h
  simp only [perform, sendThrough_closed hc hs hp]
  rfl

theorem perform_sendThrough_ok_iff {c : Client} (hc : Orderly c.sessions) (net : Network) (n : Nat)
    (text : String) :
    (c.perform net (.sendThrough n text)).result = .ok none ↔
      c.phase = .opened ∧ n + 1 = c.sessions.length := by
  constructor
  · intro hok
    exact (hc.opened_iff n).1 ((sendThrough_ok_iff hc net n text).1 ⟨none, hok⟩)
  · intro hlast
    obtain ⟨s, hs, hp⟩ := (hc.opened_iff n).2 hlast
    exact (perform_sendThrough_opened hc net hs hp text).1

theorem perform_sendThrough_written {c : Client} (hc : Orderly c.sessions) (net : Network) {n : Nat}
    {text : String} (hok : (c.perform net (.sendThrough n text)).result = .ok none) :
    ∃ s l, c.sessions[n]? = some s ∧ s.manager.links = [l] ∧
      (c.perform net (.sendThrough n text)).client.sessions[n]? =
        some (s.update fun m => { m with links := [l.sent text] }) := by
  obtain ⟨s, hs, hp⟩ := (sendThrough_ok_iff hc net n text).1 ⟨none, hok⟩
  obtain ⟨-, l, hl, hsent⟩ := perform_sendThrough_opened hc net hs hp text
  exact ⟨s, l, hs, hl, hsent⟩

end Client

/-- Of handles, in any run of a manager and in any run of a client. A send through the handle of a
connection, or through a copy of it, touches no other connection. It is accepted exactly if its
connection is the newest one and the phase is open, and then its frame stands behind what was
written on that connection. Once the connection was closed, be it because its owner went away, or
its end was told, every send is refused and changes nothing, whatever the phase has become since
then. -/
theorem handle_of_run (net : Network) :
    (∀ (actions : List Manager.Action) (k : Nat) (text : String),
      let m := Manager.after net .fresh actions
      let turn := m.act net (.sendThrough k text)
      (∀ j, j ≠ k → turn.manager.links[j]? = m.links[j]?) ∧
      (turn.result = .ok () ↔ m.phase = .opened ∧ k + 1 = m.links.length) ∧
      (turn.result = .ok () →
        ∃ l, m.links[k]? = some l ∧ turn.manager.links[k]? = some (l.sent text)) ∧
      ∀ earlier later f, actions = earlier ++ later → (Manager.ledger net earlier)[k]? = some f →
        f.shut = true ∨ f.finished = true →
        turn = ⟨.error .notConnected, m, [], .ofReplies []⟩) ∧
    ∀ (server : Server) (clock : FixedClock) (audience : Audience) (actions : List Client.Action)
      (n : Nat) (text : String),
      let start := Client.fresh server clock audience
      let c := Client.after net start actions
      let turn := c.perform net (.sendThrough n text)
      (∀ j, j ≠ n → turn.client.sessions[j]? = c.sessions[j]?) ∧
      (turn.result = .ok none ↔ c.phase = .opened ∧ n + 1 = c.sessions.length) ∧
      (turn.result = .ok none →
        ∃ s l, c.sessions[n]? = some s ∧ s.manager.links = [l] ∧
          turn.client.sessions[n]? = some (s.update fun m => { m with links := [l.sent text] })) ∧
      ∀ earlier a later, actions = earlier ++ a :: later →
        Client.Step.Finishes n
          ⟨Client.after net start earlier, a, (Client.after net start earlier).perform net a⟩ →
        turn = ⟨.error .notConnected, c, [], .ofReplies []⟩ := by
  constructor
  · intro actions k text m turn
    have hsends : m.Sends k text (m.sendThrough k text) :=
      (Manager.steady_after net actions).sends k text
    refine ⟨fun j hj => hsends.others hj, hsends.ok_iff, hsends.written, ?_⟩
    rintro earlier later f rfl hf hgone
    exact Manager.act_sendThrough_gone net earlier later hf hgone text
  · intro server clock audience actions n text start c turn
    have hc : Client.Orderly c.sessions :=
      Client.orderly_after net server clock audience actions
    refine ⟨fun j hj => Client.perform_sendThrough_others hc net hj text,
      Client.perform_sendThrough_ok_iff hc net n text,
      Client.perform_sendThrough_written hc net, ?_⟩
    intro earlier a later hsplit hfinishes
    have hbefore : Client.Orderly (Client.after net start earlier).sessions :=
      Client.orderly_after net server clock audience earlier
    have hclosed := hfinishes.after hbefore later
    have hrest : Client.after net (Client.after net start earlier) (a :: later) = c := by
      simp only [c, hsplit, Client.after, List.foldl_append]
    rw [hrest] at hclosed
    exact Client.perform_sendThrough_closed hc net hclosed text

/-- The first of two connections is refused what is sent through its handle while the second one is
open, under the same manager or under a further one of the same client. -/
theorem handle_of_run_reopened :
    let m := Manager.after Manager.everywhere .fresh Manager.reopening
    let c := Client.after Manager.everywhere Client.newcomer Client.reconnecting
    m.phase = .opened ∧
      m.act Manager.everywhere (.sendThrough 0 "late") =
        ⟨.error .notConnected, m, [], .ofReplies []⟩ ∧
    c.phase = .opened ∧
      c.perform Manager.everywhere (.sendThrough 0 "late") =
        ⟨.error .notConnected, c, [], .ofReplies []⟩ := by
  obtain ⟨hmanager, hclient⟩ := handle_of_run Manager.everywhere
  refine ⟨by decide, ?_, by decide +kernel, ?_⟩
  · apply (hmanager Manager.reopening 0 "late").2.2.2 (Manager.reopening.take 2)
      (Manager.reopening.drop 2) ⟨true, false, false⟩ rfl
    · decide
    · exact Or.inl rfl
  · apply (hclient .standard (.ofMillis 0) .listening Client.reconnecting 0 "late").2.2.2
      (Client.reconnecting.take 2) .disconnect (Client.reconnecting.drop 3) rfl
    exact Or.inl ⟨Or.inl rfl, by decide +kernel⟩

end Parley
