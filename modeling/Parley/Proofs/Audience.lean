import Parley.Proofs.Owner

/-! Who listens to a client. Nothing that a client does looks at that, so a listener who goes away,
or never was there, takes nothing away but the events that would have been seen. -/

namespace Parley.Client

def facing (audience : Audience) (c : Client) : Client := { c with audience }

def Attempt.facing (audience : Audience) (a : Attempt) : Attempt :=
  { a with client := a.client.facing audience }

def Turn.facing (audience : Audience) (t : Turn) : Turn :=
  { t with client := t.client.facing audience }

section Facing

variable (audience : Audience) (c : Client) (net : Network)

@[simp] theorem facing_phase : (c.facing audience).phase = c.phase := rfl

@[simp] theorem facing_server : (c.facing audience).server = c.server := rfl

@[simp] theorem facing_sessions : (c.facing audience).sessions = c.sessions := rfl

@[simp] theorem facing_clock : (c.facing audience).clock = c.clock := rfl

theorem hear_facing (user : User) (signals : List Signal) :
    (c.facing audience).hear user signals =
      ((c.hear user signals).1.facing audience, (c.hear user signals).2) := by
  rw [hear_eq, hear_eq]
  rfl

theorem onSession_facing (k : Nat) (f : Manager → Manager × List Signal) :
    (c.facing audience).onSession k f =
      ((c.onSession k f).1.facing audience, (c.onSession k f).2) := by
  cases hk : c.sessions[k]? with
  | none => rw [onSession_none hk, onSession_none (c := c.facing audience) hk]
  | some s =>
    rw [onSession_some hk, onSession_some (c := c.facing audience) hk]
    rfl

theorem sendOn_facing (k : Nat) (f : Manager → Except Failure Unit × Manager × List Signal) :
    (c.facing audience).sendOn k f =
      ((c.sendOn k f).1, (c.sendOn k f).2.1.facing audience, (c.sendOn k f).2.2) := by
  cases hk : c.sessions[k]? with
  | none => rw [sendOn_none hk, sendOn_none (c := c.facing audience) hk]
  | some s =>
    rw [sendOn_some hk, sendOn_some (c := c.facing audience) hk]
    rfl

theorem closeLast_facing :
    (c.facing audience).closeLast = (c.closeLast.1.facing audience, c.closeLast.2) :=
  onSession_facing audience c _ _

theorem disconnect_facing :
    (c.facing audience).disconnect = (c.disconnect.1.facing audience, c.disconnect.2) := by
  unfold disconnect
  rw [closeLast_facing]
  rfl

theorem send_facing (chatId text : String) :
    (c.facing audience).send chatId text =
      ((c.send chatId text).1, (c.send chatId text).2.1.facing audience,
        (c.send chatId text).2.2) := by
  by_cases h : c.user = none ∨ c.phase ≠ .opened
  · rw [send_refused h, send_refused (c := c.facing audience) h]
  rw [not_or, not_not] at h
  obtain ⟨user, hu⟩ := Option.ne_none_iff_exists'.1 h.1
  have hfacing : (c.facing audience).user = some user := hu
  simp only [send, hu, hfacing, facing_phase, h.2, ne_eq, not_true, if_false, sendOn_facing,
    facing_sessions, facing_clock]
  generalize c.sendOn _ _ = r
  obtain ⟨result, d, events⟩ := r
  cases result with
  | error f => rfl
  | ok _ => rfl

theorem openWith_facing (token : Token) (remote : Http.Remote) :
    (c.facing audience).openWith net token remote =
      (c.openWith net token remote).facing audience := by
  unfold openWith
  rw [facing_server]
  split
  · rfl
  split
  · rfl
  · rename_i url _
    generalize Manager.fresh.dial net url _ _ = turn
    simp only [hear_facing, closeLast_facing]
    cases turn.result with
    | error f => rfl
    | ok _ => rfl

theorem connect_facing (username password : String) (remote : Http.Remote) :
    (c.facing audience).connect net username password remote =
      (c.connect net username password remote).facing audience := by
  unfold connect
  rw [facing_phase, facing_server]
  split
  · rfl
  split
  · rfl
  split
  · rfl
  · exact openWith_facing audience c net _ _

theorem connectWithToken_facing (token : Token) (remote : Http.Remote) :
    (c.facing audience).connectWithToken net token remote =
      (c.connectWithToken net token remote).facing audience := by
  unfold connectWithToken
  rw [facing_phase]
  split
  · rfl
  split
  · rfl
  · exact openWith_facing audience c net token remote

/-- Whatever is done, it is done the same. Only a listener can go away, so that the audience that
is put in its place is no listener. -/
theorem perform_facing (haudience : audience ≠ .listening) (a : Action) :
    (c.facing audience).perform net a = (c.perform net a).facing audience := by
  cases a with
  | connect username password replies =>
    simp only [perform, connect_facing]
    rfl
  | connectWithToken token replies =>
    simp only [perform, connectWithToken_facing]
    rfl
  | send chatId text =>
    simp only [perform, send_facing]
    rfl
  | sendThrough k text =>
    simp only [perform, sendThrough, sendOn_facing]
    rfl
  | disconnect | drop =>
    simp only [perform, disconnect_facing]
    rfl
  | clear => rfl
  | deafen =>
    cases audience with
    | listening => exact absurd rfl haudience
    | gone => rfl
    | silent => rfl
  | receive k bs | hangUp k cut =>
    simp only [perform, onSession_facing]
    rfl

end Facing

def Turn.unheard (audience : Audience) (t : Turn) : Turn :=
  { t.facing audience with events := [] }

theorem act_facing {audience : Audience} (haudience : audience ≠ .listening) (c : Client)
    (net : Network) (a : Action) :
    (c.facing audience).act net a = (c.act net a).unheard audience := by
  have hnothing : heardBy ((c.perform net a).facing audience).client.audience
      (c.perform net a).events = [] := if_neg haudience
  unfold act
  rw [perform_facing audience c net haudience]
  exact congrArg (fun events => { (c.perform net a).facing audience with events }) hnothing

theorem life_facing {audience : Audience} (haudience : audience ≠ .listening) (c : Client)
    (net : Network) (actions : List Action) :
    life net (c.facing audience) actions = (life net c actions).map (Turn.unheard audience) := by
  induction actions generalizing c with
  | nil => rfl
  | cons a actions ih =>
    simp only [life, act_facing haudience, List.map_cons]
    exact congrArg _ (ih _)

/-- A listener who has gone was there. -/
theorem not_silent_after (net : Network) (server : Server) (clock : FixedClock)
    (actions : List Action) :
    (after net (fresh server clock .listening) actions).audience ≠ .silent := by
  induction actions using List.reverseRecOn with
  | nil => exact Audience.noConfusion
  | append_singleton actions a ih =>
    rw [after_append_singleton]
    by_cases ha : a = .deafen
    · subst ha
      simp only [perform, Turn.quiet, if_neg ih]
      exact Audience.noConfusion
    · have horderly := orderly_after net server clock .listening actions
      have hsame := congrArg (·.2.2) (settings_perform horderly net ha)
      exact fun h => ih (hsame.symm.trans h)

theorem life_append (net : Network) (c : Client) (earlier later : List Action) :
    life net c (earlier ++ later) = life net c earlier ++ life net (after net c earlier) later := by
  induction earlier generalizing c with
  | nil => rfl
  | cons a earlier ih =>
    simp only [List.cons_append, life, ih]
    rfl

theorem life_length (net : Network) (c : Client) (actions : List Action) :
    (life net c actions).length = actions.length := by
  induction actions generalizing c with
  | nil => rfl
  | cons a actions ih => simp only [life, List.length_cons, ih]

/-- That the listener goes away, at any point of any life, is a turn of its own and changes none of
the others: the calls come to the same results with the same requests, and they leave the same
client behind, with its connections and all that is written on them, its user and its logs. Only the
events behind it are seen by nobody. Nor does it change anything that from the start nobody listens.
A handle that a listener was never told of is used in here as well, and nothing hangs on that. -/
theorem life_unheard (net : Network) (server : Server) (clock : FixedClock) :
    let start := fresh server clock .listening
    (∀ earlier later : List Action,
      life net start (earlier ++ .deafen :: later) =
        (life net start (earlier ++ later)).take earlier.length ++
          .quiet ((after net start earlier).facing .gone, []) ::
          ((life net start (earlier ++ later)).drop earlier.length).map (Turn.unheard .gone)) ∧
    ∀ actions : List Action,
      life net (fresh server clock .silent) actions =
        (life net start actions).map (Turn.unheard .silent) := by
  intro start
  refine ⟨fun earlier later => ?_, life_facing Audience.noConfusion start net⟩
  have hlength := life_length net start earlier
  have hgone : (after net start earlier).act net .deafen =
      .quiet ((after net start earlier).facing .gone, []) := by
    simp only [act, perform, Turn.quiet, heardBy,
      if_neg (not_silent_after net server clock earlier), start]
    rfl
  rw [life_append, life_append, ← hlength, List.take_left, List.drop_left, life, hgone]
  exact congrArg (_ ++ _ :: ·) (life_facing Audience.noConfusion _ net later)

end Parley.Client
