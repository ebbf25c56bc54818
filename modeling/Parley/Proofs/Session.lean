import Parley.Proofs.Manager

/-! The managers of a client. Each of them opens one connection only, so its phase is that of this
one connection and only moves forward: what an operation finds closed it leaves closed. -/

namespace Parley.Manager

open Connection Socket

inductive Single : Manager → Prop
  | closed (held : Option Nat) {l : Link} (h : l.Done) : Single ⟨.closed, held, [l]⟩
  | opened {l : Link} (h : l.Live) : Single ⟨.opened, some 0, [l]⟩

theorem Single.steady {m : Manager} (h : m.Single) : m.Steady := by
  cases h with
  | closed held h => exact .closed held fun l hl => List.mem_singleton.1 hl ▸ h
  | @opened l h => exact @Steady.opened [] l (fun _ hl => absurd hl List.not_mem_nil) h

theorem Steady.single {m : Manager} (h : m.Steady) (hl : m.links.length = 1) : m.Single := by
  cases h with
  | idle => simp [fresh] at hl
  | @closed held links h =>
    obtain ⟨l, rfl⟩ := List.length_eq_one_iff.1 hl
    exact .closed held (h l List.mem_cons_self)
  | @opened earlier newest h hn =>
    have he : earlier = [] := by simpa using hl
    subst he
    exact .opened hn

theorem Single.phase_cases {m : Manager} (h : m.Single) :
    m.phase = .closed ∨ m.phase = .opened := by
  cases h with
  | closed held h => exact Or.inl rfl
  | opened h => exact Or.inr rfl

theorem Single.opened_eq {m : Manager} (h : m.Single) (hp : m.phase = .opened) :
    ∃ l : Link, l.Live ∧ m = ⟨.opened, some 0, [l]⟩ := by
  cases h with
  | closed held h => simp at hp
  | opened h => exact ⟨_, h, rfl⟩

theorem arrive_length (m : Manager) (k : Nat) (a : Link.Arrival) :
    (m.arrive k a).1.links.length = m.links.length := by
  unfold arrive onLink
  split
  · rfl
  · simp [settle]

/-- The one link. -/
theorem Single.links_eq {m : Manager} (h : m.Single) : ∃ l, m.links = [l] := by
  cases h with
  | closed held h => exact ⟨_, rfl⟩
  | opened h => exact ⟨_, rfl⟩

/-- What arrives is for the one link. -/
theorem Single.arrive_eq {m : Manager} (h : m.Single) {l : Link} (hl : m.links = [l])
    (a : Link.Arrival) :
    m.arrive 0 a =
      ({ m with
          phase := (l.arrive m.phase a).2.1
          links := [(l.arrive m.phase a).1.rest (l.arrive m.phase a).2.1] },
        (l.arrive m.phase a).2.2) := by
  have hk : m.links[0]? = some l := by rw [hl]; rfl
  rw [arrive_some h.steady.queue hk, hl]
  rfl

/-- An operation that leaves a manager with its one connection, and a closed one closed. -/
structure Tame (f : Manager → Manager) (P : Manager → Prop := Single) : Prop where
  single : ∀ m, P m → P (f m)
  closed : ∀ m, P m → m.phase = .closed → (f m).phase = .closed

theorem tame_arrive (a : Link.Arrival) : Tame fun m => (m.arrive 0 a).1 where
  single m h := by
    obtain ⟨l, hl⟩ := h.links_eq
    exact (h.steady.arrive 0 a).single (by rw [arrive_length, hl]; rfl)
  closed m h hp := by
    obtain ⟨l, hl⟩ := h.links_eq
    have hk : m.links[0]? = some l := by rw [hl]; rfl
    rw [arrive_some h.steady.queue hk]
    rcases l.arrive_phase m.phase a with hc | ⟨hc, -⟩
    · exact hc
    · exact hc.trans hp

theorem sendThrough_single_closed {m : Manager} (h : m.Single) (hp : m.phase = .closed) (k : Nat)
    (text : String) :
    m.sendThrough k text = (.error .notConnected, m, []) := by
  cases h with
  | closed held h =>
    refine sendThrough_done (fun l hl => ?_) text
    exact List.mem_singleton.1 (List.mem_of_getElem? hl) ▸ h
  | opened h => simp at hp

theorem sendThrough_single_opened {l : Link} (h : l.Live) (text : String) :
    sendThrough ⟨.opened, some 0, [l]⟩ 0 text = (.ok (), ⟨.opened, some 0, [l.sent text]⟩, []) :=
  @sendThrough_newest [] l (fun _ hl => absurd hl List.not_mem_nil) h (some 0) text

theorem send_single_closed {m : Manager} (h : m.Single) (hp : m.phase = .closed) (text : String) :
    m.send text = (.error .notConnected, m, []) := by
  cases h with
  | closed held h => exact send_closed (fun l hl => List.mem_singleton.1 hl ▸ h) text
  | opened h => simp at hp

theorem send_single_opened {l : Link} (h : l.Live) (text : String) :
    send ⟨.opened, some 0, [l]⟩ text = (.ok (), ⟨.opened, some 0, [l.sent text]⟩, []) :=
  sendThrough_single_opened h text

theorem close_single_closed {m : Manager} (h : m.Single) (hp : m.phase = .closed) :
    m.close = ({ m with held := none }, []) := by
  cases h with
  | closed held h => exact close_closed fun l hl => List.mem_singleton.1 hl ▸ h
  | opened h => simp at hp

theorem close_single_opened {l : Link} (h : l.Live) :
    close ⟨.opened, some 0, [l]⟩ = (⟨.closed, none, [l.shut]⟩, []) :=
  @close_opened [] l (fun _ hl => absurd hl List.not_mem_nil) h

theorem tame_send (text : String) : Tame fun m => (m.send text).2.1 where
  single m h := by
    cases h with
    | closed held h =>
      rw [send_single_closed (.closed held h) rfl]
      exact .closed held h
    | opened h =>
      rw [send_single_opened h]
      exact .opened (h.sent text)
  closed m h hp := by rw [send_single_closed h hp]; exact hp

theorem tame_sendThrough (text : String) : Tame fun m => (m.sendThrough 0 text).2.1 where
  single m h := by
    cases h with
    | closed held h =>
      rw [sendThrough_single_closed (.closed held h) rfl]
      exact .closed held h
    | opened h =>
      rw [sendThrough_single_opened h]
      exact .opened (h.sent text)
  closed m h hp := by rw [sendThrough_single_closed h hp]; exact hp

theorem tame_close : Tame fun m => m.close.1 where
  single m h := by
    cases h with
    | closed held h =>
      rw [close_single_closed (.closed held h) rfl]
      exact .closed none h
    | opened h =>
      rw [close_single_opened h]
      exact .closed none h.shut
  closed m h hp := by rw [close_single_closed h hp]; exact hp

/-- The manager of a connection that has just been opened, with what was heard behind the answer. -/
def begun (greeting : List UInt8) : Manager × List Signal :=
  arrive ⟨.opened, some 0, [.fresh]⟩ 0 (.octets greeting)

theorem begun_single (greeting : List UInt8) : (begun greeting).1.Single :=
  (tame_arrive (.octets greeting)).single _ (.opened Link.fresh_live)

theorem dial_fresh_refused {net : Network} {url : Url} {remote after : Http.Remote}
    {refusal : Refusal} (hs : handshake net url remote = (.error refusal, after))
    (establish : Manager → List UInt8 → Except Failure Unit × Manager × List Signal) :
    fresh.dial net url remote establish =
      ⟨.error (.handshake refusal.message), { fresh with phase := .closed },
        [.failed (.handshake refusal.message)], after⟩ :=
  dial_refused rfl hs establish

theorem dial_fresh_agreed {net : Network} {url : Url} {remote after : Http.Remote}
    {greeting : List UInt8} (hs : handshake net url remote = (.ok greeting, after)) :
    fresh.dial net url remote =
      ⟨.ok (), (begun greeting).1, .opened :: (begun greeting).2, after⟩ :=
  dial_agreed rfl hs

end Parley.Manager
