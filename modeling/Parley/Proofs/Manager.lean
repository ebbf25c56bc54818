import Mathlib.Data.List.Induction
import Parley.Connection
import Parley.Proofs.Link

/-! The states a manager rests in between two actions. There are three kinds: nothing was opened
yet; the phase is closed and nobody writes anywhere; the phase is open, and then it is the newest
link that is held, that reads and writes and that nobody has closed, while nobody writes on the
others. Each operation is described once over these states, and everything about runs is derived
from that. -/

namespace Parley

theorem getElem?_concat_cases {α : Type} {xs : List α} {x y : α} {k : Nat}
    (h : (xs ++ [x])[k]? = some y) :
    k < xs.length ∧ xs[k]? = some y ∨ k = xs.length ∧ x = y := by
  rcases Nat.lt_trichotomy k xs.length with hlt | rfl | hgt
  · rw [List.getElem?_append_left hlt] at h
    exact Or.inl ⟨hlt, h⟩
  · rw [List.getElem?_concat_length] at h
    exact Or.inr ⟨rfl, Option.some.inj h⟩
  · obtain ⟨hk, -⟩ := List.getElem?_eq_some_iff.1 h
    rw [List.length_append, List.length_singleton] at hk
    omega

end Parley

namespace Parley.Connection.Link

open Socket

/-- A link on which nothing will be written any more. -/
structure Done (l : Link) : Prop where
  queue : l.queue = []
  writing : l.writing = false

/-- A link on which both sides are at work and neither side has closed. -/
structure Live (l : Link) : Prop where
  queue : l.queue = []
  writing : l.writing = true
  reading : l.reading = true
  stage : l.endpoint.stage = .active

theorem fresh_live : fresh.Live := ⟨rfl, rfl, rfl, rfl⟩

def sent (l : Link) (text : String) : Link := { l with wire := l.wire ++ [.text text] }

/-- The close frame has been written, and the writer is gone. -/
def shut (l : Link) : Link :=
  { l with
    writing := false
    endpoint := { l.endpoint with stage := .closedByClient }
    wire := l.wire ++ [.close normal ""] }

theorem Live.sent {l : Link} (h : l.Live) (text : String) : (l.sent text).Live :=
  ⟨h.queue, h.writing, h.reading, h.stage⟩

theorem Live.shut {l : Link} (h : l.Live) : l.shut.Done := ⟨h.queue, rfl⟩

theorem Done.arrive {l : Link} (h : l.Done) (phase : Phase) (a : Arrival) :
    (l.arrive phase a).1.Done := by
  obtain ⟨hq, hw⟩ := arrive_fst l phase a
  exact ⟨hq.trans h.queue, hw.trans h.writing⟩

/-- What an arrival does not end stays alive, because only a close moves the endpoint on. -/
theorem Live.arrive {l : Link} (h : l.Live) {a : Arrival}
    (hend : endOf? (a.items l.endpoint) = none) (phase : Phase) : (l.arrive phase a).1.Live := by
  obtain ⟨hq, hw⟩ := arrive_fst l phase a
  refine ⟨hq.trans h.queue, hw.trans h.writing, ?_, ?_⟩
  · simp [Link.arrive, h.reading, hend]
  · have hs : (a.endpoint l.endpoint).stage = l.endpoint.stage := by
      simpa [hend] using a.endpoint_stage l.endpoint
    simp [Link.arrive, h.reading, hs, h.stage]

/-- An arrival closes the phase or leaves it and whoever is alive alone. -/
theorem arrive_phase (l : Link) (phase : Phase) (a : Arrival) :
    (l.arrive phase a).2.1 = .closed ∨
      (l.arrive phase a).2.1 = phase ∧ (l.Live → (l.arrive phase a).1.Live) := by
  cases hend : endOf? (a.items l.endpoint) with
  | none =>
    right
    refine ⟨?_, fun h => h.arrive hend phase⟩
    simp [Link.arrive, hend]
    split <;> rfl
  | some code =>
    cases hr : l.reading with
    | true => simp [Link.arrive, hr, hend]
    | false => simp [Link.arrive, hr]

theorem Done.rest {l : Link} (h : l.Done) (phase : Phase) : l.rest phase = l :=
  rest_of_not_writing h.writing phase

theorem done_rest_closed {l : Link} (hq : l.queue = []) : (l.rest .closed).Done := ⟨hq, rfl⟩

end Parley.Connection.Link

namespace Parley.Manager

open Connection Socket

inductive Steady : Manager → Prop
  | idle : Steady fresh
  | closed (held : Option Nat) {links : List Link} (h : ∀ l ∈ links, l.Done) :
      Steady ⟨.closed, held, links⟩
  | opened {earlier : List Link} {newest : Link} (h : ∀ l ∈ earlier, l.Done) (hn : newest.Live) :
      Steady ⟨.opened, some earlier.length, earlier ++ [newest]⟩

theorem Steady.queue {m : Manager} (h : m.Steady) : ∀ l ∈ m.links, l.queue = [] := by
  intro l hl
  cases h with
  | idle => simp [fresh] at hl
  | closed held h => exact (h l hl).queue
  | opened h hn =>
    rcases List.mem_append.1 hl with hl | hl
    · exact (h l hl).queue
    · rw [List.mem_singleton.1 hl]
      exact hn.queue

theorem settle_eq {m : Manager} (h : ∀ l ∈ m.links, l.queue = []) :
    m.settle = ({ m with links := m.links.map (·.rest m.phase) }, []) := by
  have hmap : m.links.map (·.settle m.phase) = m.links.map fun l => (l.rest m.phase, []) :=
    List.map_congr_left fun l hl => Link.settle_empty (h l hl) m.phase
  unfold settle
  simp [hmap, Function.comp_def]

theorem settle_done {m : Manager} (h : ∀ l ∈ m.links, l.Done) : m.settle = (m, []) := by
  have hmap : m.links.map (·.rest m.phase) = m.links :=
    (List.map_congr_left fun l hl => (h l hl).rest m.phase).trans (List.map_id' _)
  rw [settle_eq fun l hl => (h l hl).queue, hmap]

theorem settle_append_singleton {phase : Phase} (held : Option Nat) {earlier : List Link}
    {l l' : Link} (h : ∀ l ∈ earlier, l.Done) (hl : l.settle phase = (l', [])) :
    settle ⟨phase, held, earlier ++ [l]⟩ = (⟨phase, held, earlier ++ [l']⟩, []) := by
  have hmap : earlier.map (·.settle phase) = earlier.map fun l => (l, []) :=
    List.map_congr_left fun l hl => by rw [Link.settle_empty (h l hl).queue, (h l hl).rest]
  unfold settle
  simp [hmap, hl, Function.comp_def]

def arrive (m : Manager) (k : Nat) (a : Link.Arrival) : Manager × List Signal :=
  m.onLink k fun l phase => l.arrive phase a

theorem receive_eq (m : Manager) (k : Nat) (bs : List UInt8) :
    m.receive k bs = m.arrive k (.octets bs) := by
  unfold receive arrive
  simp only [Link.receive_eq]

theorem hangUp_eq (m : Manager) (k : Nat) (cut : Cut) :
    m.hangUp k cut = m.arrive k (.hangUp cut) := by
  unfold hangUp arrive
  simp only [Link.hangUp_eq]

theorem arrive_none {m : Manager} {k : Nat} (h : m.links[k]? = none) (a : Link.Arrival) :
    m.arrive k a = (m, []) := by
  simp [arrive, onLink, h]

theorem set_queue {m : Manager} (hq : ∀ l ∈ m.links, l.queue = []) {k : Nat} {l : Link}
    (h : m.links[k]? = some l) (a : Link.Arrival) :
    ∀ x ∈ m.links.set k (l.arrive m.phase a).1, x.queue = [] := by
  intro x hx
  rcases List.mem_or_eq_of_mem_set hx with hx | rfl
  · exact hq x hx
  · rw [(Link.arrive_fst l m.phase a).1]
    exact hq l (List.mem_of_getElem? h)

theorem arrive_some {m : Manager} (hq : ∀ l ∈ m.links, l.queue = []) {k : Nat} {l : Link}
    (h : m.links[k]? = some l) (a : Link.Arrival) :
    m.arrive k a =
      ({ m with
          phase := (l.arrive m.phase a).2.1
          links := (m.links.set k (l.arrive m.phase a).1).map (·.rest (l.arrive m.phase a).2.1) },
        (l.arrive m.phase a).2.2) := by
  have hs := settle_eq
    (m := { m with
      phase := (l.arrive m.phase a).2.1, links := m.links.set k (l.arrive m.phase a).1 })
    (set_queue hq h a)
  simp [arrive, onLink, h, hs]

/-- An end sends every writer away. -/
theorem steady_of_end (held : Option Nat) {links : List Link} (hq : ∀ l ∈ links, l.queue = []) :
    Steady ⟨.closed, held, links.map (·.rest .closed)⟩ := by
  refine .closed held fun l hl => ?_
  obtain ⟨x, hx, rfl⟩ := List.mem_map.1 hl
  exact Link.done_rest_closed (hq x hx)

theorem Steady.arrive {m : Manager} (h : m.Steady) (k : Nat) (a : Link.Arrival) :
    (m.arrive k a).1.Steady := by
  cases hk : m.links[k]? with
  | none => rwa [arrive_none hk]
  | some l =>
    rw [arrive_some h.queue hk]
    have hset := set_queue h.queue hk a
    cases h with
    | idle => simp [fresh] at hk
    | closed held h =>
      have hp : (l.arrive .closed a).2.1 = .closed := by
        rcases l.arrive_phase .closed a with hp | ⟨hp, -⟩ <;> exact hp
      simp only [hp]
      exact steady_of_end held hset
    | @opened earlier newest h hn =>
      rcases l.arrive_phase .opened a with hp | ⟨hp, hlive⟩
      · simp only [hp]
        exact steady_of_end _ hset
      simp only [hp, Link.rest_opened, List.map_id']
      rcases getElem?_concat_cases hk with ⟨hlt, hk⟩ | ⟨rfl, rfl⟩
      · have h' : ∀ x ∈ earlier.set k (l.arrive .opened a).1, x.Done := by
          intro x hx
          rcases List.mem_or_eq_of_mem_set hx with hx | rfl
          · exact h x hx
          · exact (h l (List.mem_of_getElem? hk)).arrive .opened a
        rw [List.set_append_left _ _ hlt]
        simpa using Steady.opened h' hn
      · rw [List.set_append_right _ _ (Nat.le_refl _)]
        simpa using Steady.opened h (hlive hn)

theorem sendThrough_done {m : Manager} {k : Nat} (h : ∀ l, m.links[k]? = some l → l.Done)
    (text : String) :
    m.sendThrough k text = (.error .notConnected, m, []) := by
  unfold sendThrough
  split
  · rfl
  · rename_i l hl
    have hs : l.send m.phase text = .error .notConnected := by
      simp [Link.send, Link.enqueue, (h l hl).writing]
    rw [hs]

theorem sendThrough_newest {earlier : List Link} {newest : Link} (h : ∀ l ∈ earlier, l.Done)
    (hn : newest.Live) (held : Option Nat) (text : String) :
    sendThrough ⟨.opened, held, earlier ++ [newest]⟩ earlier.length text =
      (.ok (), ⟨.opened, held, earlier ++ [newest.sent text]⟩, []) := by
  have hs : newest.send .opened text =
      .ok { newest with queue := newest.queue ++ [.text text] } := by
    simp [Link.send, Link.enqueue, hn.writing]
  have hq := Link.settle_text hn.queue hn.writing hn.stage text .opened
  have hm := settle_append_singleton held h hq
  simp only [sendThrough, List.getElem?_concat_length, hs,
    List.set_append_right _ _ (Nat.le_refl _), Nat.sub_self, List.set_cons_zero, hm]
  rfl

/-- Only on the newest link of an open manager does anybody write. -/
theorem sender_done {earlier : List Link} {newest : Link} (h : ∀ l ∈ earlier, l.Done) {k : Nat}
    (hk : k ≠ earlier.length) : ∀ l, (earlier ++ [newest])[k]? = some l → l.Done := by
  intro l hl
  rcases getElem?_concat_cases hl with ⟨-, hl⟩ | ⟨rfl, -⟩
  · exact h l (List.mem_of_getElem? hl)
  · exact absurd rfl hk

theorem send_closed {held : Option Nat} {links : List Link} (h : ∀ l ∈ links, l.Done)
    (text : String) :
    send ⟨.closed, held, links⟩ text = (.error .notConnected, ⟨.closed, held, links⟩, []) := by
  unfold send
  split
  · rfl
  · exact sendThrough_done (fun l hl => h l (List.mem_of_getElem? hl)) text

theorem close_closed {held : Option Nat} {links : List Link} (h : ∀ l ∈ links, l.Done) :
    close ⟨.closed, held, links⟩ = (⟨.closed, none, links⟩, []) := by
  cases held with
  | none => rfl
  | some k => exact settle_done (m := ⟨.closed, none, links⟩) h

theorem close_opened {earlier : List Link} {newest : Link} (h : ∀ l ∈ earlier, l.Done)
    (hn : newest.Live) :
    close ⟨.opened, some earlier.length, earlier ++ [newest]⟩ =
      (⟨.closed, none, earlier ++ [newest.shut]⟩, []) := by
  have hs : newest.enqueue (.close normal "") =
      .ok { newest with queue := newest.queue ++ [.close normal ""] } := by
    simp [Link.enqueue, hn.writing]
  have hq := Link.settle_close hn.queue hn.writing hn.stage normal "" .closed
  have hm := settle_append_singleton none h hq
  simp only [close, if_true, enqueueClose, List.getElem?_concat_length, hs,
    List.set_append_right _ _ (Nat.le_refl _), Nat.sub_self, List.set_cons_zero, hm]
  rfl

theorem Steady.sendThrough {m : Manager} (h : m.Steady) (k : Nat) (text : String) :
    (m.sendThrough k text).2.1.Steady := by
  cases h with
  | idle => exact .idle
  | closed held h =>
    rw [sendThrough_done fun l hl => h l (List.mem_of_getElem? hl)]
    exact .closed held h
  | @opened earlier newest h hn =>
    by_cases hk : k = earlier.length
    · rw [hk, sendThrough_newest h hn]
      exact .opened h (hn.sent text)
    · rw [sendThrough_done (sender_done h hk)]
      exact .opened h hn

theorem Steady.send {m : Manager} (h : m.Steady) (text : String) : (m.send text).2.1.Steady := by
  unfold Manager.send
  split
  · exact h
  · exact h.sendThrough _ text

theorem Steady.close {m : Manager} (h : m.Steady) : m.close.1.Steady := by
  cases h with
  | idle => exact .idle
  | closed held h =>
    rw [close_closed h]
    exact .closed none h
  | opened h hn =>
    rw [close_opened h hn]
    refine .closed none fun l hl => ?_
    rcases List.mem_append.1 hl with hl | hl
    · exact h l hl
    · rw [List.mem_singleton.1 hl]
      exact hn.shut

theorem dial_live {m : Manager} (h : m.phase = .opened) (net : Network) (url : Url)
    (remote : Http.Remote) :
    m.dial net url remote = ⟨.error .alreadyConnected, m, [], remote⟩ := by
  simp [dial, h, Phase.isLive]

theorem dial_refused {m : Manager} {net : Network} {url : Url} {remote after : Http.Remote}
    {refusal : Refusal} (h : m.phase.isLive = false)
    (hs : handshake net url remote = (.error refusal, after))
    (establish : Manager → List UInt8 → Except Failure Unit × Manager × List Signal) :
    m.dial net url remote establish =
      ⟨.error (.handshake refusal.message), { m with phase := .closed },
        [.failed (.handshake refusal.message)], after⟩ := by
  simp [dial, h, hs, begin, giveUp]

/-- A connection has just been opened behind others, and nothing has been heard of it yet. -/
def opening (earlier : List Link) : Manager :=
  ⟨.opened, some earlier.length, earlier ++ [.fresh]⟩

theorem dial_agreed {m : Manager} {net : Network} {url : Url} {remote after : Http.Remote}
    {greeting : List UInt8} (h : m.phase.isLive = false)
    (hs : handshake net url remote = (.ok greeting, after)) :
    m.dial net url remote =
      ⟨.ok (),
        (arrive ⟨.opened, some m.links.length, m.links ++ [.fresh]⟩ m.links.length
          (.octets greeting)).1,
        .opened :: (arrive ⟨.opened, some m.links.length, m.links ++ [.fresh]⟩ m.links.length
          (.octets greeting)).2, after⟩ := by
  simp [dial, h, hs, begin, establish, receive_eq]

/-- While no connection is there, nobody writes on any link. -/
theorem Steady.done {m : Manager} (h : m.Steady) (hp : m.phase.isLive = false) :
    ∀ l ∈ m.links, l.Done := by
  cases h with
  | idle => simp [fresh]
  | closed held h => exact h
  | opened h hn => simp [Phase.isLive] at hp

theorem Steady.isLive_iff {m : Manager} (h : m.Steady) :
    m.phase.isLive = true ↔ m.phase = .opened := by
  cases h <;> simp [fresh, Phase.isLive]

/-- Once a connection was opened, the phase is open or closed. -/
theorem Steady.phase_closed {m : Manager} (h : m.Steady) (hl : m.links ≠ [])
    (hp : m.phase ≠ .opened) :
    m.phase = .closed := by
  cases h with
  | idle => exact absurd rfl hl
  | closed held h => rfl
  | opened h hn => exact absurd rfl hp

theorem Steady.dial {m : Manager} (h : m.Steady) (net : Network) (url : Url)
    (remote : Http.Remote) :
    (m.dial net url remote).manager.Steady := by
  cases hl : m.phase.isLive with
  | true =>
    rw [dial_live (h.isLive_iff.1 hl)]
    exact h
  | false =>
    have hd := h.done hl
    cases hs : handshake net url remote with
    | mk result after =>
      cases result with
      | error refusal =>
        rw [dial_refused hl hs]
        exact .closed m.held hd
      | ok greeting =>
        rw [dial_agreed hl hs]
        exact (Steady.opened hd Link.fresh_live).arrive _ _

theorem Steady.act {m : Manager} (h : m.Steady) (net : Network) (a : Action) :
    (m.act net a).manager.Steady := by
  cases a with
  | dial url replies => exact h.dial net url _
  | send text => exact h.send text
  | sendThrough k text => exact h.sendThrough k text
  | close => exact h.close
  | receive k bs =>
    have := h.arrive k (.octets bs)
    rwa [← receive_eq] at this
  | hangUp k cut =>
    have := h.arrive k (.hangUp cut)
    rwa [← hangUp_eq] at this

def after (net : Network) (m : Manager) (actions : List Action) : Manager :=
  actions.foldl (fun m a => (m.act net a).manager) m

theorem after_append_singleton (net : Network) (m : Manager) (actions : List Action) (a : Action) :
    after net m (actions ++ [a]) = ((after net m actions).act net a).manager := by
  simp [after]

theorem life_append_singleton (net : Network) (m : Manager) (actions : List Action) (a : Action) :
    life net m (actions ++ [a]) = life net m actions ++ [(after net m actions).act net a] := by
  induction actions generalizing m with
  | nil => rfl
  | cons b actions ih =>
    simp only [List.cons_append, life, ih]
    rfl

theorem steady_after (net : Network) (actions : List Action) :
    (after net fresh actions).Steady := by
  induction actions using List.reverseRecOn with
  | nil => exact .idle
  | append_singleton actions a ih =>
    rw [after_append_singleton]
    exact ih.act net a

def everywhere : Network := ⟨fun _ _ _ => .served⟩

def agreement (greeting : List UInt8) : Http.Reply :=
  .answer ⟨101, none, some "Upgrade", some "websocket", true, greeting, true⟩

end Parley.Manager
