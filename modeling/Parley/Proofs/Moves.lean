import Parley.Client.Tasks
import Parley.Proofs.ReceivedLog
import Parley.Proofs.Stirring

/-! The moves of a client whose connections go on when they like. Each of them is one operation on
one connection, a connect that adds one, or nothing that a connection notices. So of the connections
only the last one can be open, as it is where everything settles. -/

namespace Parley

open Connection Socket

namespace Client

open Manager (Conduct)

/-- A move with the client that it found and with all it did, whoever listens. -/
structure Stride where
  before : Client
  move : Move
  turn : Turn

def strides (net : Network) : Client → List Move → List Stride
  | _, [] => []
  | c, mv :: moves => ⟨c, mv, c.move net mv⟩ :: strides net (c.move net mv).client moves

def course (net : Network) (c : Client) (moves : List Move) : Client :=
  moves.foldl (fun c mv => (c.move net mv).client) c

theorem course_append (net : Network) (c : Client) (moves more : List Move) :
    course net c (moves ++ more) = course net (course net c moves) more :=
  List.foldl_append

theorem strides_append (net : Network) (c : Client) (moves more : List Move) :
    strides net c (moves ++ more) =
      strides net c moves ++ strides net (course net c moves) more := by
  induction moves generalizing c with
  | nil => rfl
  | cons mv moves ih =>
    simp only [List.cons_append, strides, ih]
    rfl

theorem strides_append_singleton (net : Network) (c : Client) (moves : List Move) (mv : Move) :
    strides net c (moves ++ [mv]) =
      strides net c moves ++ [⟨course net c moves, mv, (course net c moves).move net mv⟩] :=
  strides_append net c moves [mv]

theorem mem_strides {net : Network} {c : Client} {moves : List Move} {s : Stride}
    (h : s ∈ strides net c moves) :
    ∃ earlier mv, s = ⟨course net c earlier, mv, (course net c earlier).move net mv⟩ := by
  induction moves using List.reverseRecOn with
  | nil => simp [strides] at h
  | append_singleton moves mv ih =>
    rw [strides_append_singleton, List.mem_append, List.mem_singleton] at h
    rcases h with h | h
    · exact ih h
    · exact ⟨moves, mv, h⟩

/-- The connection that a move is about. A connect is about the one that it opens. -/
def Move.connection (mv : Move) (c : Client) : Option Nat :=
  match mv with
  | .act (.connect ..) | .act (.connectWithToken ..) => some c.sessions.length
  | .act (.send ..) | .act .disconnect | .act .drop => some (c.sessions.length - 1)
  | .act (.sendThrough k _) | .act (.receive k _) | .act (.hangUp k _) | .write k
  | .breakWrite k _ => some k
  | .act .clear | .act .deafen => none

/-- What a move brings for the reader of the connection that it is about. -/
def Move.items (mv : Move) (e : Endpoint) : List Item :=
  match mv with
  | .act (.receive _ octets) => (e.receive octets).2
  | .act (.hangUp _ cut) => (e.receive []).2 ++ Endpoint.hangUpItems cut
  | _ => []

/-- The texts among items for the reader of a connection, if it is open. -/
def textsAmong (s : Session) (items : Endpoint → List Item) : List String :=
  if s.manager.phase = .opened then s.manager.links.flatMap fun l => textsIn (items l.endpoint)
  else []

def Stride.delivered (s : Stride) : List String :=
  ((s.move.connection s.before).bind (s.before.sessions[·]?)).toList.flatMap
    (textsAmong · s.move.items)

/-- The last session lets go of its connection, and a further one stands behind it, with what its
server has sent not yet read. -/
def embarked (c : Client) (user : User) (token : Token) (greeting : List UInt8) : Client :=
  { c with
    sessions :=
      c.sessions.modify (c.sessions.length - 1)
          (Session.update fun m => (Conduct.loose.close m).1) ++
        [⟨user, (Manager.embark Manager.fresh greeting).2.1⟩]
    token := some token
    user := some user }

theorem embarked_length (c : Client) (user : User) (token : Token) (greeting : List UInt8) :
    (c.embarked user token greeting).sessions.length = c.sessions.length + 1 := by
  simp [embarked]

theorem embarked_newest (c : Client) (user : User) (token : Token) (greeting : List UInt8) :
    (c.embarked user token greeting).sessions[c.sessions.length]? =
      some ⟨user, (Manager.embark Manager.fresh greeting).2.1⟩ := by
  simp [embarked]

theorem embarked_earlier (c : Client) (user : User) (token : Token) (greeting : List UInt8)
    {n : Nat} (h : c.sessions.length ≠ n) :
    (c.embarked user token greeting).sessions[n]? =
      (c.sessions.modify (c.sessions.length - 1)
        (Session.update fun m => (Conduct.loose.close m).1))[n]? := by
  simp only [embarked]
  rcases Nat.lt_or_ge n c.sessions.length with hn | hn
  · rw [List.getElem?_append_left (by simpa using hn)]
  · rw [List.getElem?_eq_none (by simp; omega), List.getElem?_eq_none (by simpa using hn)]

/-- A move of which nothing is told and that leaves every connection as it was. -/
structure Idle (c : Client) (mv : Move) (t : Turn) : Prop where
  sessions : t.client.sessions = c.sessions
  events : t.events = []
  delivered : Stride.delivered ⟨c, mv, t⟩ = []
  result : ∀ user, t.result ≠ .ok (some user)
  late : ∀ k, mv.connection c = some k → c.sessions.length ≤ k + 1
  audience : t.client.audience = c.audience ∨ t.client.audience ≠ .listening

/-- A move that is one operation on the connection of one session. -/
structure Works (c : Client) (mv : Move) (k : Nat) (s : Session)
    (f : Manager → Manager × List Signal) (t : Turn) : Prop where
  place : c.sessions[k]? = some s
  connection : mv.connection c = some k
  stirring : Manager.Stirring mv.items f
  sessions : t.client.sessions = c.sessions.modify k (Session.update fun m => (f m).1)
  events : t.events = (f s.manager).2.map (Signal.event s.user)
  result : ∀ user, t.result ≠ .ok (some user)
  rest : k + 1 < c.sessions.length →
    t.client =
      { c with
        sessions := t.client.sessions
        received := c.received ++ (f s.manager).2.filterMap Signal.message? }
  audience : t.client.audience = c.audience

/-- All that a move can be. -/
inductive Happens (c : Client) (mv : Move) : Turn → Prop
  | idle {t : Turn} (h : Idle c mv t) : Happens c mv t
  | unagreed (text : String) (remote : Http.Remote)
      (hc : mv.connection c = some c.sessions.length) :
      Happens c mv ⟨.error (.handshake text), c, [.failed (.handshake text)], remote⟩
  | embarks (hl : c.phase.isLive = false) (user : User) (token : Token) (greeting : List UInt8)
      (remote : Http.Remote) (hc : mv.connection c = some c.sessions.length) :
      Happens c mv ⟨.ok (some user), c.embarked user token greeting, [.connected user], remote⟩
  | works {t : Turn} {k : Nat} {s : Session} {f : Manager → Manager × List Signal}
      (h : Works c mv k s f t) : Happens c mv t

section Happens

variable {c : Client} {mv : Move} {k : Nat}

theorem delivered_of_none (hc : mv.connection c = some k) (hk : c.sessions[k]? = none) (t : Turn) :
    Stride.delivered ⟨c, mv, t⟩ = [] := by
  simp [Stride.delivered, hc, hk]

theorem delivered_of_quiet (hquiet : mv.items = fun _ => []) (t : Turn) :
    Stride.delivered ⟨c, mv, t⟩ = [] := by
  simp [Stride.delivered, textsAmong, hquiet, textsIn, untilEnd]

theorem Idle.nowhere {t : Turn} (hc : mv.connection c = some k) (hk : c.sessions[k]? = none)
    (ht : t.client = c) (he : t.events = []) (ho : ∀ user, t.result ≠ .ok (some user)) :
    Idle c mv t where
  sessions := by rw [ht]
  events := he
  delivered := delivered_of_none hc hk t
  result := ho
  late j hj := by
    rw [Option.some.inj (hj.symm.trans hc)]
    exact Nat.le_succ_of_le (List.getElem?_eq_none_iff.1 hk)
  audience := Or.inl (by rw [ht])

theorem Idle.refused {t : Turn} (hquiet : mv.items = fun _ => [])
    (hc : ∀ k, mv.connection c = some k → c.sessions.length ≤ k + 1)
    (ht : t.client.sessions = c.sessions) (ha : t.client.audience = c.audience)
    (he : t.events = []) (ho : ∀ user, t.result ≠ .ok (some user)) : Idle c mv t :=
  ⟨ht, he, delivered_of_quiet hquiet t, ho, hc, Or.inl ha⟩

theorem onSession_happens {f : Manager → Manager × List Signal}
    (hc : mv.connection c = some k) (hf : Manager.Stirring mv.items f) :
    Happens c mv (.quiet (c.onSession k f)) := by
  have hresult : ∀ user, (Turn.quiet (c.onSession k f)).result ≠ .ok (some user) := by
    simp [Turn.quiet]
  cases hk : c.sessions[k]? with
  | none =>
    rw [onSession_none hk] at hresult ⊢
    exact .idle (.nowhere hc hk rfl rfl hresult)
  | some s =>
    rw [onSession_some hk] at hresult ⊢
    exact .works ⟨hk, hc, hf, rfl, rfl, hresult, fun _ => rfl, rfl⟩

theorem closeLast_loose (c : Client) :
    c.closeLast .loose =
      ({ c with
          sessions := c.sessions.modify (c.sessions.length - 1)
            (Session.update fun m => (Conduct.loose.close m).1) }, []) := by
  unfold closeLast
  cases hs : c.sessions[c.sessions.length - 1]? with
  | none => rw [onSession_none hs, List.modify_eq_self (List.getElem?_eq_none_iff.1 hs)]
  | some s =>
    rw [onSession_some hs]
    simp [Conduct.loose]

theorem adopt_loose (c : Client) (user : User) (token : Token) (greeting : List UInt8)
    (remote : Http.Remote) :
    c.adopt user token greeting remote .loose =
      ⟨.ok user, c.embarked user token greeting, [.connected user], remote⟩ := by
  simp only [adopt, Conduct.loose, Manager.embark, hear, hearOne]
  rw [← Conduct.loose, closeLast_loose]
  rfl

theorem Reaches.happens {net : Network} {attempts : Conduct → Attempt} (h : Reaches c net attempts)
    (hc : mv.connection c = some c.sessions.length) :
    Happens c mv (.ofAttempt (attempts .loose)) := by
  cases h with
  | refused f remote =>
    have hnone := List.getElem?_eq_none (Nat.le_refl c.sessions.length)
    exact .idle (.nowhere hc hnone rfl rfl (by simp [Turn.ofAttempt, Except.map]))
  | unagreed text remote => exact .unagreed text remote hc
  | agreed hl user token hurl hs =>
    rw [adopt_loose]
    exact .embarks hl user token _ _ hc

theorem send_happens (hc : mv.connection c = some (c.sessions.length - 1))
    (hquiet : mv.items = fun _ => []) (chatId text : String) :
    Happens c mv (.ofSend (c.send chatId text .loose)) := by
  have hlate : ∀ k, mv.connection c = some k → c.sessions.length ≤ k + 1 := by
    intro k hk
    have := hk.symm.trans hc
    simp only [Option.some.injEq] at this
    omega
  unfold send
  split
  · exact .idle (.refused hquiet hlate rfl rfl rfl (ofSend_opens_nothing _))
  split
  · exact .idle (.refused hquiet hlate rfl rfl rfl (ofSend_opens_nothing _))
  rename_i user hu hp
  rw [ne_eq, not_not] at hp
  obtain ⟨s, hs, -⟩ := last_of_opened hp
  have hf := Manager.stirring_send (Envelope.seal user chatId text c.clock.now).toFrame
  rw [← hquiet] at hf
  have hlast : ¬ c.sessions.length - 1 + 1 < c.sessions.length := by omega
  simp only [sendOn_some hs]
  cases (s.manager.send (Envelope.seal user chatId text c.clock.now).toFrame
    Conduct.loose.sendThrough).1 with
  | error f =>
    exact .works ⟨hs, hc, hf, rfl, rfl, ofSend_opens_nothing _, fun h => absurd h hlast, rfl⟩
  | ok _ =>
    exact .works ⟨hs, hc, hf, rfl, rfl, ofSend_opens_nothing _, fun h => absurd h hlast, rfl⟩

theorem sendThrough_happens (hc : mv.connection c = some k) (hquiet : mv.items = fun _ => [])
    (text : String) : Happens c mv (.ofSend (c.sendThrough k text .loose)) := by
  have hresult := ofSend_opens_nothing (c.sendThrough k text .loose)
  unfold sendThrough at hresult ⊢
  cases hk : c.sessions[k]? with
  | none =>
    rw [sendOn_none hk] at hresult ⊢
    exact .idle (.nowhere hc hk rfl rfl hresult)
  | some s =>
    have hf := Manager.stirring_sendThrough text
    rw [← hquiet] at hf
    rw [sendOn_some hk] at hresult ⊢
    exact .works ⟨hk, hc, hf, rfl, rfl, hresult, fun _ => rfl, rfl⟩

theorem disconnect_happens (hc : mv.connection c = some (c.sessions.length - 1))
    (hquiet : mv.items = fun _ => []) : Happens c mv (.quiet (c.disconnect .loose)) := by
  have hf := Manager.stirring_close
  rw [← hquiet] at hf
  have hresult : ∀ user, (Turn.quiet (c.disconnect .loose)).result ≠ .ok (some user) := by
    simp [Turn.quiet]
  have hlast : ¬ c.sessions.length - 1 + 1 < c.sessions.length := by omega
  unfold disconnect at hresult ⊢
  rw [closeLast_loose] at hresult ⊢
  cases hs : c.sessions[c.sessions.length - 1]? with
  | none =>
    have hsame := List.modify_eq_self (f := Session.update fun m => (Conduct.loose.close m).1)
      (List.getElem?_eq_none_iff.1 hs)
    refine .idle (.refused hquiet (fun k hk => ?_) hsame rfl rfl hresult)
    have := hk.symm.trans hc
    simp only [Option.some.injEq] at this
    omega
  | some s => exact .works ⟨hs, hc, hf, rfl, rfl, hresult, fun h => absurd h hlast, rfl⟩

end Happens

theorem move_happens (c : Client) (net : Network) (mv : Move) : Happens c mv (c.move net mv) := by
  cases mv with
  | write k => exact onSession_happens rfl Manager.stirring_write
  | breakWrite k reason => exact onSession_happens rfl (Manager.stirring_breakWrite reason)
  | act a =>
    cases a with
    | connect username password replies =>
      exact (c.connect_reaches net username password _).happens rfl
    | connectWithToken token replies => exact (c.connectWithToken_reaches net token _).happens rfl
    | send chatId text => exact send_happens rfl rfl chatId text
    | sendThrough k text => exact sendThrough_happens rfl rfl text
    | disconnect | drop => exact disconnect_happens rfl rfl
    | clear =>
      exact .idle (.refused rfl (by simp [Move.connection]) rfl rfl rfl
        (by simp [move, perform, Turn.quiet]))
    | deafen =>
      refine .idle ⟨rfl, rfl, rfl, by simp [move, perform, Turn.quiet],
        by simp [Move.connection], Or.inr ?_⟩
      simp only [move, perform, Turn.quiet]
      split <;> simp
    | receive k bs =>
      apply onSession_happens rfl
      simp only [Conduct.loose, Link.receive_eq]
      exact Manager.stirring_reader (Link.reads_arrive (.octets bs))
    | hangUp k cut =>
      exact onSession_happens rfl (Manager.stirring_reader (Link.reads_breakOff cut))

theorem embark_lone (greeting : List UInt8) :
    (Manager.embark Manager.fresh greeting).2.1.Lone :=
  ⟨⟨_, rfl⟩, fun _ hl => Or.inr ⟨rfl, List.singleton_inj.1 hl ▸ rfl⟩,
    Or.inr (by simp [Manager.embark])⟩

theorem Happens.evolves {c : Client} {mv : Move} {t : Turn} (h : Happens c mv t)
    (hc : Orderly c.sessions Manager.Lone) :
    Evolves Manager.Lone c.sessions t.client.sessions := by
  cases h with
  | idle h =>
    rw [h.sessions]
    exact .same
  | unagreed text remote hk => exact .same
  | embarks hl user token greeting remote hk =>
    exact .join (hc.last_closed (fun _ hm => hm.phase_cases) hl) Manager.stirring_close.tame user
      (embark_lone greeting)
  | works h =>
    rw [h.sessions]
    exact .modify _ h.stirring.tame

theorem Orderly.course {c : Client} (hc : Orderly c.sessions Manager.Lone) (net : Network)
    (moves : List Move) : Orderly (Client.course net c moves).sessions Manager.Lone := by
  induction moves using List.reverseRecOn with
  | nil => exact hc
  | append_singleton moves mv ih =>
    rw [course_append]
    exact ((move_happens _ net mv).evolves ih).orderly ih

theorem orderly_course (net : Network) (server : Server) (clock : FixedClock)
    (audience : Audience) (moves : List Move) :
    Orderly (course net (fresh server clock audience) moves).sessions Manager.Lone :=
  Orderly.course ⟨fun _ _ h => by simp [fresh] at h, fun _ _ h => by simp [fresh] at h⟩ net moves

theorem ClosedOn.course {c : Client} {n : Nat} (h : ClosedOn c.sessions n)
    (hc : Orderly c.sessions Manager.Lone) (net : Network) (moves : List Move) :
    ClosedOn (Client.course net c moves).sessions n := by
  induction moves using List.reverseRecOn with
  | nil => exact h
  | append_singleton moves mv ih =>
    have ho := hc.course net moves
    rw [course_append]
    exact ih.evolves ((move_happens _ net mv).evolves ho) ho

end Client

end Parley
