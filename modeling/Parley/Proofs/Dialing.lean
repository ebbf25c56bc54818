import Parley.Proofs.SharedPhase
import Parley.Proofs.Wire

/-! What a dial comes to. The manager takes no calls while it waits for a handshake, but its earlier
connections may still bring something and their handles may still be used, and the phase in which
the handshake is awaited is shared with them. Nothing of this decides what comes of the dial: it is
up to the phase it finds and to the answer of the server. -/

namespace Parley.Manager

open Connection Socket

/-- What others may do while a handshake is awaited. -/
def Action.isAside : Action → Bool
  | .sendThrough .. | .receive .. | .hangUp .. => true
  | .dial .. | .send _ | .close => false

/-- A dial during whose handshake others act. The signals of what they do are not among its own. -/
def dialAmid (m : Manager) (net : Network) (url : Url) (remote : Http.Remote)
    (meanwhile : List Action) : Turn :=
  if m.phase.isLive then ⟨.error .alreadyConnected, m, [], remote⟩
  else
    let waiting := after net m.begin meanwhile
    match handshake net url remote with
    | (.error refusal, remote) =>
      let (result, m, signals) := waiting.giveUp refusal.message
      ⟨result, m, signals, remote⟩
    | (.ok greeting, remote) =>
      let (result, m, signals) := waiting.establish greeting
      ⟨result, m, signals, remote⟩

theorem dialAmid_nothing (m : Manager) (net : Network) (url : Url) (remote : Http.Remote) :
    m.dialAmid net url remote [] = m.dial net url remote := rfl

/-- Every state that a manager can be in between two calls. -/
inductive Reached (net : Network) : Manager → Prop
  | fresh : Reached net fresh
  | act {m : Manager} (h : Reached net m) (a : Action) : Reached net (m.act net a).manager
  | dialAmid {m : Manager} (h : Reached net m) (url : Url) (remote : Http.Remote)
      {meanwhile : List Action} (hm : ∀ a ∈ meanwhile, a.isAside = true) :
      Reached net (m.dialAmid net url remote meanwhile).manager

theorem reached_after (net : Network) (actions : List Action) :
    Reached net (after net fresh actions) := by
  induction actions using List.reverseRecOn with
  | nil => exact .fresh
  | append_singleton actions a ih =>
    rw [after_append_singleton]
    exact ih.act a

def framesEach (m : Manager) : List (List Outbound) :=
  m.links.map (·.written)

/-- Nobody writes anywhere, and the phase is not open. -/
structure Waits (m : Manager) : Prop where
  done : ∀ l ∈ m.links, l.Done
  phase : m.phase ≠ .opened

theorem Waits.queue {m : Manager} (h : m.Waits) : ∀ l ∈ m.links, l.queue = [] :=
  fun l hl => (h.done l hl).queue

theorem Steady.waits {m : Manager} (h : m.Steady) (hl : m.phase.isLive = false) :
    m.begin.Waits := by
  constructor
  · exact h.done hl
  · exact Phase.noConfusion

theorem arrive_framesEach {m : Manager} (hq : ∀ l ∈ m.links, l.queue = []) (k : Nat)
    (a : Link.Arrival) : (m.arrive k a).1.framesEach = m.framesEach := by
  cases hk : m.links[k]? with
  | none => rw [arrive_none hk]
  | some l =>
    obtain ⟨hlt, rfl⟩ := List.getElem?_eq_some_iff.1 hk
    have hrest : ∀ (l : Link) (phase : Phase), (l.rest phase).written = l.written := by
      intro l phase
      rw [Link.written, Link.rest_wire, Link.written]
    rw [arrive_some hq hk]
    simp only [framesEach, List.map_map, Function.comp_def, hrest, List.map_set,
      Link.arrive_written]
    rw [← List.getElem_map Link.written (h := by simpa using hlt)]
    exact List.set_getElem_self _

theorem not_opened_of_heard (phase : Phase) (items : List Item) :
    .opened ∉ Link.heard phase items := by
  intro h
  rcases List.mem_append.1 h with h | h
  · obtain ⟨item, -, hs⟩ := List.mem_flatMap.1 h
    cases item with
    | text s =>
      simp only [Reader.reports] at hs
      split at hs <;> simp at hs
    | failed fault => simp [Reader.reports] at hs
    | _ => exact absurd hs List.not_mem_nil
  · simp at h

theorem Waits.arrive {m : Manager} (h : m.Waits) (k : Nat) (a : Link.Arrival) :
    (m.arrive k a).1.Waits ∧ .opened ∉ (m.arrive k a).2 ∧ texts (m.arrive k a).2 = [] := by
  cases hk : m.links[k]? with
  | none =>
    rw [arrive_none hk]
    exact ⟨h, List.not_mem_nil, rfl⟩
  | some l =>
    have hl : l.Done := h.done l (List.mem_of_getElem? hk)
    rw [arrive_some h.queue hk]
    refine ⟨⟨?_, ?_⟩, ?_, ?_⟩
    · intro x hx
      obtain ⟨y, hy, rfl⟩ := List.mem_map.1 hx
      have hdone : y.Done := by
        rcases List.mem_or_eq_of_mem_set hy with hy | rfl
        · exact h.done y hy
        · exact hl.arrive m.phase a
      rwa [hdone.rest]
    · rcases l.arrive_phase m.phase a with hp | ⟨hp, -⟩
      · simp [hp]
      · simpa [hp] using h.phase
    · unfold Link.arrive
      split
      · exact not_opened_of_heard m.phase _
      · exact List.not_mem_nil
    · unfold Link.arrive
      split
      · rw [texts_heard, if_neg h.phase]
      · rfl

theorem Waits.act {m : Manager} (h : m.Waits) (net : Network) {a : Action}
    (ha : a.isAside = true) :
    (m.act net a).manager.Waits ∧ (m.act net a).manager.framesEach = m.framesEach ∧
      .opened ∉ (m.act net a).signals ∧ texts (m.act net a).signals = [] := by
  cases a with
  | sendThrough k text =>
    have hdone : ∀ l, m.links[k]? = some l → l.Done :=
      fun l hl => h.done l (List.mem_of_getElem? hl)
    have hturn : m.act net (.sendThrough k text) =
        ⟨.error .notConnected, m, [], .ofReplies []⟩ := by
      simp only [Manager.act, sendThrough_done hdone]
    rw [hturn]
    exact ⟨h, rfl, List.not_mem_nil, rfl⟩
  | receive k bs =>
    simp only [Manager.act, receive_eq]
    obtain ⟨hwaits, hsignals⟩ := h.arrive k (.octets bs)
    exact ⟨hwaits, arrive_framesEach h.queue k _, hsignals⟩
  | hangUp k cut =>
    simp only [Manager.act, hangUp_eq]
    obtain ⟨hwaits, hsignals⟩ := h.arrive k (.hangUp cut)
    exact ⟨hwaits, arrive_framesEach h.queue k _, hsignals⟩
  | _ => simp [Action.isAside] at ha

theorem Waits.after {m : Manager} (h : m.Waits) (net : Network) {meanwhile : List Action}
    (hm : ∀ a ∈ meanwhile, a.isAside = true) :
    (after net m meanwhile).Waits ∧ (after net m meanwhile).framesEach = m.framesEach ∧
      ∀ turn ∈ life net m meanwhile, .opened ∉ turn.signals ∧ texts turn.signals = [] := by
  induction meanwhile generalizing m with
  | nil => exact ⟨h, rfl, fun turn ht => absurd ht List.not_mem_nil⟩
  | cons a meanwhile ih =>
    obtain ⟨hwaits, hframes, hsignals⟩ := h.act net (hm a List.mem_cons_self)
    obtain ⟨hend, hframes', hrest⟩ := ih hwaits fun b hb => hm b (List.mem_cons_of_mem a hb)
    refine ⟨hend, hframes'.trans hframes, ?_⟩
    intro turn ht
    rcases List.mem_cons.1 ht with rfl | ht
    · exact hsignals
    · exact hrest turn ht

/-- Nothing but the answer of a server keeps a connection from being opened. -/
def Ready (m : Manager) (net : Network) : Prop :=
  ∀ (url : Url) (remote : Http.Remote) (meanwhile : List Action) (greeting : List UInt8)
    (rest : Http.Remote), handshake net url remote = (.ok greeting, rest) →
      (m.dialAmid net url remote meanwhile).result = .ok ()

/-- A dial has opened a connection. The opening is told first and only once, and behind it what the
server sent along with its answer is heard in an open phase. -/
structure Opens (m : Manager) (greeting : List UInt8) (turn : Turn) : Prop where
  result : turn.result = .ok ()
  signals : turn.signals = .opened :: Link.heard .opened (Endpoint.fresh.receive greeting).2
  once : turn.signals.count .opened = 1
  phase : turn.manager.phase = if ended turn.signals then .closed else .opened
  frames : turn.manager.framesEach = m.framesEach ++ [[]]

structure FailsWith (m : Manager) (net : Network) (reason : String) (turn : Turn) : Prop where
  result : turn.result = .error (.handshake reason)
  signals : turn.signals = [.failed (.handshake reason)]
  phase : turn.manager.phase = .closed
  frames : turn.manager.framesEach = m.framesEach
  ready : turn.manager.Ready net

theorem ready_of_not_live {m : Manager} (hl : m.phase.isLive = false) (net : Network) :
    m.Ready net := by
  intro url remote meanwhile greeting rest hs
  simp [dialAmid, hl, hs, establish]

theorem establish_eq (m : Manager) (greeting : List UInt8) :
    m.establish greeting =
      (.ok (), ((opening m.links).arrive m.links.length (.octets greeting)).1,
        .opened :: ((opening m.links).arrive m.links.length (.octets greeting)).2) := by
  simp only [establish, opening, receive_eq]

theorem Waits.steady_opening {m : Manager} (h : m.Waits) : (opening m.links).Steady :=
  .opened h.done Link.fresh_live

theorem Waits.greeted {m : Manager} (h : m.Waits) (greeting : List UInt8) :
    let r := (opening m.links).arrive m.links.length (.octets greeting)
    r.2 = Link.heard .opened (Endpoint.fresh.receive greeting).2 ∧
      r.1.phase = if ended r.2 then .closed else .opened := by
  intro r
  have hnew : (opening m.links).links[m.links.length]? = some .fresh := List.getElem?_concat_length
  have hr : r = _ := arrive_some h.steady_opening.queue hnew (.octets greeting)
  have hend : ended (Link.heard .opened (Endpoint.fresh.receive greeting).2) =
      (endOf? (Endpoint.fresh.receive greeting).2).isSome := ended_heard .opened _
  have hsignals : r.2 = Link.heard .opened (Endpoint.fresh.receive greeting).2 := by
    rw [hr]
    rfl
  refine ⟨hsignals, ?_⟩
  rw [hsignals, hend, hr]
  rfl

theorem Waits.establish {m : Manager} (h : m.Waits) (greeting : List UInt8) (remote : Http.Remote) :
    Opens m greeting ⟨(m.establish greeting).1, (m.establish greeting).2.1,
      (m.establish greeting).2.2, remote⟩ := by
  obtain ⟨hsignals, hphase⟩ := h.greeted greeting
  rw [establish_eq]
  constructor
  · rfl
  · rw [hsignals]
  · have hnone := not_opened_of_heard .opened (Endpoint.fresh.receive greeting).2
    simp only [hsignals, List.count_cons_self, List.count_eq_zero.2 hnone]
  · exact hphase
  · rw [arrive_framesEach h.steady_opening.queue]
    simp [framesEach, Manager.opening, Link.fresh, Link.written]

theorem dialAmid_live {m : Manager} (hp : m.phase = .opened) (net : Network) (url : Url)
    (remote : Http.Remote) (meanwhile : List Action) :
    m.dialAmid net url remote meanwhile = ⟨.error .alreadyConnected, m, [], remote⟩ := by
  simp [dialAmid, hp, Phase.isLive]

theorem dialAmid_refused {m : Manager} {net : Network} {url : Url} {remote after : Http.Remote}
    {refusal : Refusal} (hl : m.phase.isLive = false)
    (hs : handshake net url remote = (.error refusal, after)) (meanwhile : List Action) :
    m.dialAmid net url remote meanwhile =
      ⟨.error (.handshake refusal.message),
        { Manager.after net m.begin meanwhile with phase := .closed },
        [.failed (.handshake refusal.message)], after⟩ := by
  simp [dialAmid, hl, hs, giveUp]

theorem dialAmid_agreed {m : Manager} {net : Network} {url : Url} {remote after : Http.Remote}
    {greeting : List UInt8} (hl : m.phase.isLive = false)
    (hs : handshake net url remote = (.ok greeting, after)) (meanwhile : List Action) :
    m.dialAmid net url remote meanwhile =
      ⟨((Manager.after net m.begin meanwhile).establish greeting).1,
        ((Manager.after net m.begin meanwhile).establish greeting).2.1,
        ((Manager.after net m.begin meanwhile).establish greeting).2.2, after⟩ := by
  simp [dialAmid, hl, hs]

theorem Steady.dialAmid {m : Manager} (h : m.Steady) (net : Network) (url : Url)
    (remote : Http.Remote) {meanwhile : List Action} (hm : ∀ a ∈ meanwhile, a.isAside = true) :
    (m.dialAmid net url remote meanwhile).manager.Steady := by
  cases hl : m.phase.isLive with
  | true =>
    rw [dialAmid_live (h.isLive_iff.1 hl)]
    exact h
  | false =>
    obtain ⟨hwaits, -, -⟩ := (h.waits hl).after net hm
    cases hs : handshake net url remote with
    | mk result after =>
      cases result with
      | error refusal =>
        rw [dialAmid_refused hl hs]
        exact .closed _ hwaits.done
      | ok greeting =>
        rw [dialAmid_agreed hl hs, establish_eq]
        exact hwaits.steady_opening.arrive _ _

theorem Reached.steady {net : Network} {m : Manager} (h : Reached net m) : m.Steady := by
  induction h with
  | fresh => exact .idle
  | act h a ih => exact ih.act net a
  | dialAmid h url remote hm ih => exact ih.dialAmid net url remote hm

theorem Steady.not_connecting {m : Manager} (h : m.Steady) : m.phase ≠ .connecting := by
  cases h with
  | idle => exact Phase.noConfusion
  | closed held h => exact Phase.noConfusion
  | opened h hn => exact Phase.noConfusion

/-- A dial that the phase lets through comes to what the server answers. -/
theorem Steady.dialAmid_cases {m : Manager} (h : m.Steady) (hl : m.phase.isLive = false)
    (net : Network) (url : Url) (remote : Http.Remote) {meanwhile : List Action}
    (hm : ∀ a ∈ meanwhile, a.isAside = true) :
    let turn := m.dialAmid net url remote meanwhile
    (∃ greeting, handshake net url remote = (.ok greeting, turn.remote) ∧ m.Opens greeting turn) ∨
      ∃ refusal, handshake net url remote = (.error refusal, turn.remote) ∧
        m.FailsWith net refusal.message turn := by
  intro turn
  obtain ⟨hwaits, hframes, -⟩ := (h.waits hl).after net hm
  have hsame : (after net m.begin meanwhile).framesEach = m.framesEach := hframes
  cases hs : handshake net url remote with
  | mk result rest =>
    cases result with
    | error refusal =>
      right
      have hturn : turn = _ := dialAmid_refused hl hs meanwhile
      rw [hturn]
      exact ⟨refusal, rfl, rfl, rfl, rfl, hsame, ready_of_not_live rfl net⟩
    | ok greeting =>
      left
      have hturn : turn = _ := dialAmid_agreed hl hs meanwhile
      rw [hturn]
      have hopens := hwaits.establish greeting rest
      exact ⟨greeting, rfl, { hopens with frames := hsame ▸ hopens.frames }⟩

/-- Of every dial, whatever the manager has been through and whatever its earlier connections do in
the meantime; if they do nothing it is just a dial. While the phase is open it does nothing at all,
and the connection that is there can be used as before. Otherwise it opens a connection or fails as
the handshake does, writes nothing on any other connection, and until then neither an opening nor a
text is told by anybody. No call leaves the manager waiting for a handshake, so a failure never
keeps a later dial from opening a connection. -/
theorem dial_of_reached {net : Network} {m : Manager} (h : Reached net m) (url : Url)
    (remote : Http.Remote) {meanwhile : List Action} (hm : ∀ a ∈ meanwhile, a.isAside = true) :
    let turn := m.dialAmid net url remote meanwhile
    (meanwhile = [] → turn = m.dial net url remote) ∧
    (m.phase = .opened →
      turn = ⟨.error .alreadyConnected, m, [], remote⟩ ∧ turn.manager.Serves net) ∧
    (m.phase ≠ .opened →
      ((∃ greeting, handshake net url remote = (.ok greeting, turn.remote) ∧
          m.Opens greeting turn) ∨
        ∃ refusal, handshake net url remote = (.error refusal, turn.remote) ∧
          m.FailsWith net refusal.message turn) ∧
      ∀ t ∈ life net m.begin meanwhile, .opened ∉ t.signals ∧ texts t.signals = []) ∧
    turn.manager.phase ≠ .connecting ∧ ∀ a, (m.act net a).manager.phase ≠ .connecting := by
  intro turn
  have hsteady := h.steady
  refine ⟨?_, ?_, ?_, ?_, ?_⟩
  · rintro rfl
    exact dialAmid_nothing m net url remote
  · intro hp
    have hturn : turn = ⟨.error .alreadyConnected, m, [], remote⟩ :=
      dialAmid_live hp net url remote meanwhile
    rw [hturn]
    exact ⟨rfl, hsteady.serves hp net⟩
  · intro hp
    have hl : m.phase.isLive = false := by
      rw [← Bool.not_eq_true, hsteady.isLive_iff]
      exact hp
    obtain ⟨-, -, hsignals⟩ := (hsteady.waits hl).after net hm
    exact ⟨hsteady.dialAmid_cases hl net url remote hm, hsignals⟩
  · exact (hsteady.dialAmid net url remote hm).not_connecting
  · intro a
    exact (hsteady.act net a).not_connecting

/-- The server turns a manager away, and acknowledges an earlier close while it is about to. -/
theorem dial_of_reached_unauthorized :
    let m := after everywhere fresh (reopening.take 2)
    let remote := Http.Remote.ofReplies [.answer ⟨401, none, none, none, true, [], true⟩]
    m.phase = .closed ∧
      m.FailsWith everywhere "HTTP error: 401 Unauthorized"
        (m.dialAmid everywhere chatUrl remote [acknowledgement]) := by
  intro m remote
  have hp : m.phase = .closed := by decide
  refine ⟨hp, ?_⟩
  have hs : handshake everywhere chatUrl remote =
      (.error (.status 401), ⟨[], [⟨"/s", [], some "websocket"⟩]⟩) := by
    decide +kernel
  have hm : ∀ a ∈ [acknowledgement], a.isAside = true := by decide
  obtain ⟨-, -, hdial, -⟩ := dial_of_reached (reached_after everywhere (reopening.take 2)) chatUrl
    remote hm
  obtain ⟨⟨greeting, hok, -⟩ | ⟨refusal, hrefused, hfails⟩, -⟩ := hdial (by rw [hp]; decide)
  · rw [hs] at hok
    exact absurd (Prod.mk.inj hok).1 (by simp)
  · rw [hs] at hrefused
    rwa [← Except.error.inj (Prod.mk.inj hrefused).1] at hfails

end Parley.Manager
