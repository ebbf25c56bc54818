import Parley.Proofs.Ledger
import Parley.Proofs.Wire

/-! One connection whose owner, writer and server each go on when they like. A send and a close only
put a frame into the queue, and a close then closes the phase at once, while frames may still wait.
The writer takes one frame with each of its steps and leaves only when it finds none. So whatever
the order of all this, what was written and what waits are together what was accepted, in the order
of the calls, and the close frame stands last. -/

namespace Parley.Connection.Link

open Socket

/-- Nothing stands behind a close, and no pong waits in a queue. -/
structure IsDue (due : List Outbound) : Prop where
  plain : ∀ o ∈ due, o.isPong = false
  last : ∀ o ∈ due.dropLast, o.isClose = false

theorem isDue_texts (texts : List String) : IsDue (texts.map .text) := by
  constructor
  · intro o ho
    obtain ⟨s, -, rfl⟩ := List.mem_map.1 ho
    rfl
  · intro o ho
    obtain ⟨s, -, rfl⟩ := List.mem_map.1 (List.dropLast_subset _ ho)
    rfl

theorem isDue_closed (texts : List String) (code : Nat) (reason : String) :
    IsDue (texts.map .text ++ [.close code reason]) := by
  constructor
  · intro o ho
    rcases List.mem_append.1 ho with ho | ho
    · exact (isDue_texts texts).plain o ho
    · rw [List.mem_singleton.1 ho]
      rfl
  · intro o ho
    rw [List.dropLast_concat] at ho
    obtain ⟨s, -, rfl⟩ := List.mem_map.1 ho
    rfl

theorem IsDue.behind_close {front behind : List Outbound} {o : Outbound}
    (h : IsDue (front ++ o :: behind)) (ho : o.isClose = true) : behind = [] := by
  by_contra hne
  have hmem : o ∈ (front ++ o :: behind).dropLast := by
    rw [List.dropLast_append_of_ne_nil (List.cons_ne_nil o behind),
      List.dropLast_cons_of_ne_nil hne]
    exact List.mem_append_right _ List.mem_cons_self
  rw [h.last o hmem] at ho
  exact Bool.noConfusion ho

/-- No close frame but the last frame of all, and none as long as neither side has closed. -/
structure Sealed (l : Link) : Prop where
  last : ∀ o ∈ l.wire.dropLast, o.isClose = false
  active : l.endpoint.stage = .active → ∀ o ∈ l.wire, o.isClose = false

theorem fresh_sealed : fresh.Sealed :=
  ⟨fun _ ho => absurd ho List.not_mem_nil, fun _ _ ho => absurd ho List.not_mem_nil⟩

/-- Where a close frame stands, it stands last. -/
theorem Sealed.getLast? {l : Link} (h : l.Sealed) {o : Outbound} (ho : o ∈ l.wire)
    (hc : o.isClose = true) : l.wire.getLast? = some o := by
  cases hwire : l.wire using List.reverseRecOn with
  | nil =>
    rw [hwire] at ho
    exact absurd ho List.not_mem_nil
  | append_singleton front last =>
    have hfront := h.last o
    rw [hwire, List.dropLast_concat] at hfront
    rw [hwire, List.mem_append, List.mem_singleton] at ho
    rcases ho with ho | rfl
    · exact absurd (hc.symm.trans (hfront ho)) Bool.noConfusion
    · exact List.getLast?_concat

/-- What a writer still has to do: what is due and not yet written waits, and a writer that is gone
has left nothing behind unless it has failed. -/
structure Owes (l : Link) (due : List Outbound) (failed : Bool) : Prop where
  waiting : l.writing = true → l.written ++ l.queue = due
  gone : l.writing = false → l.queue = [] ∧ l.written <+: due ∧ (failed = false → l.written = due)
  sealed : l.Sealed

theorem Owes.of_writing {l : Link} {due : List Outbound} {failed : Bool} (h : l.Owes due failed)
    (hw : l.writing = true) (failed' : Bool) : l.Owes due failed' :=
  ⟨h.waiting, fun hgone => absurd (hw.symm.trans hgone) Bool.noConfusion, h.sealed⟩

theorem Owes.prefix_due {l : Link} {due : List Outbound} {failed : Bool} (h : l.Owes due failed) :
    l.written <+: due := by
  cases hw : l.writing with
  | true => exact ⟨l.queue, h.waiting hw⟩
  | false => exact (h.gone hw).2.1

theorem written_behind {l l' : Link} {o : Outbound} (ho : o.isPong = false)
    (h : l'.wire = l.wire ++ [o]) : l'.written = l.written ++ [o] := by
  simp [written, h, List.filter_append, ho]

/-- What an endpoint takes it writes as it is, and behind a close it takes nothing. -/
theorem write_eq_ok {e e' : Endpoint} {o : Outbound} {frames : List Outbound}
    (h : e.write o = .ok (e', frames)) :
    frames = [o] ∧ e.stage = .active ∧ (o.isClose = true → e'.stage ≠ .active) := by
  unfold Endpoint.write at h
  cases hs : e.stage with
  | active =>
    cases o with
    | close code reason =>
      simp only [hs] at h
      obtain ⟨rfl, rfl⟩ := Prod.mk.inj (Except.ok.inj h)
      exact ⟨rfl, rfl, fun _ => Stage.noConfusion⟩
    | _ =>
      simp only [hs] at h
      obtain ⟨rfl, rfl⟩ := Prod.mk.inj (Except.ok.inj h)
      exact ⟨rfl, rfl, fun ho => Bool.noConfusion ho⟩
  | _ => simp [hs] at h

theorem Sealed.rest {l : Link} (h : l.Sealed) (phase : Phase) : (l.rest phase).Sealed :=
  ⟨by simpa using h.last, by simpa using h.active⟩

theorem Sealed.writeNext {l : Link} (h : l.Sealed) (phase : Phase) :
    (l.writeNext phase).1.Sealed := by
  cases hw : l.writing with
  | false => simpa [Link.writeNext, hw] using h
  | true =>
    cases hq : l.queue with
    | nil =>
      rw [writeNext_empty hq]
      exact h.rest phase
    | cons o queue =>
      unfold Link.writeNext
      simp only [hw, hq]
      cases he : l.endpoint.write o with
      | error fault => exact ⟨h.last, h.active⟩
      | ok r =>
        obtain ⟨endpoint, frames⟩ := r
        obtain ⟨rfl, hactive, hclosing⟩ := write_eq_ok he
        constructor
        · intro x hx
          simp only [not_true, if_false, List.dropLast_concat] at hx
          exact h.active hactive x hx
        · intro hs x hx
          rcases List.mem_append.1 hx with hx | hx
          · exact h.active hactive x hx
          · rw [List.mem_singleton.1 hx, ← Bool.not_eq_true]
            exact fun ho => hclosing ho hs

theorem pongs_not_close {stage : Stage} {items : List Item} {o : Outbound}
    (ho : o ∈ Endpoint.pongs stage items) : o.isClose = false := by
  unfold Endpoint.pongs at ho
  split at ho
  · obtain ⟨item, -, hi⟩ := List.mem_filterMap.1 ho
    split at hi
    · rw [← Option.some.inj hi]
      rfl
    · contradiction
  · exact absurd ho List.not_mem_nil

theorem Sealed.arrive {l : Link} (h : l.Sealed) (phase : Phase) (a : Arrival) :
    (l.arrive phase a).1.Sealed := by
  unfold Link.arrive
  split
  · by_cases hs : l.endpoint.stage = .active
    · have hnone : ∀ o ∈ l.wire ++ Endpoint.pongs l.endpoint.stage (a.items l.endpoint),
          o.isClose = false := by
        intro o ho
        rcases List.mem_append.1 ho with ho | ho
        · exact h.active hs o ho
        · exact pongs_not_close ho
      exact ⟨fun o ho => hnone o (List.dropLast_subset _ ho), fun _ => hnone⟩
    · have hstill : (a.endpoint l.endpoint).stage ≠ .active := by
        cases a with
        | octets bs => exact Endpoint.receive_not_active hs bs
        | hangUp cut => exact Endpoint.hangUp_not_active hs cut
      refine ⟨?_, fun hactive => absurd hactive hstill⟩
      simpa [Endpoint.pongs, hs] using h.last
  · exact h

theorem Owes.writeNext {l : Link} {due : List Outbound} {failed : Bool} (h : l.Owes due failed)
    (hdue : IsDue due) (phase : Phase) :
    (l.writeNext phase).1.Owes due (failed || !(l.writeNext phase).2.isEmpty) := by
  have hsealed := h.sealed.writeNext phase
  cases hw : l.writing with
  | false => simpa [Link.writeNext, hw] using h
  | true =>
    have hall := h.waiting hw
    cases hq : l.queue with
    | nil =>
      rw [writeNext_empty hq, rest] at hsealed ⊢
      rw [hq, List.append_nil] at hall
      split
      · exact ⟨fun hw => Bool.noConfusion hw, fun _ => ⟨hq, hall ▸ List.prefix_rfl, fun _ => hall⟩,
          h.sealed.rest .closed⟩
      · simpa using h
    | cons o queue =>
      rw [hq] at hall
      cases he : l.endpoint.write o with
      | error fault =>
        have hnext : l.writeNext phase =
            ({ l with queue := [], writing := false }, [.failed (.transport fault.message)]) := by
          simp [Link.writeNext, hw, hq, he]
        rw [hnext] at hsealed ⊢
        exact ⟨fun hw => Bool.noConfusion hw, fun _ => ⟨rfl, ⟨_, hall⟩, by simp⟩, hsealed⟩
      | ok r =>
        obtain ⟨endpoint, frames⟩ := r
        obtain ⟨rfl, -⟩ := write_eq_ok he
        have hnext : l.writeNext phase =
            ({ l with
                queue := if o.isClose then [] else queue
                writing := !o.isClose
                endpoint := endpoint
                wire := l.wire ++ [o] }, []) := by
          simp [Link.writeNext, hw, hq, he]
        have hplain : o.isPong = false := hdue.plain o (by simp [← hall])
        have hwritten : (l.writeNext phase).1.written = l.written ++ [o] :=
          written_behind hplain (by rw [hnext])
        rw [hnext] at hwritten hsealed ⊢
        cases ho : o.isClose with
        | false =>
          simp only [ho] at hwritten hsealed ⊢
          refine ⟨fun _ => ?_, fun hw => Bool.noConfusion hw, hsealed⟩
          rw [hwritten, ← hall]
          simp
        | true =>
          have hbehind : queue = [] := (hall ▸ hdue).behind_close ho
          simp only [ho] at hwritten hsealed ⊢
          rw [hbehind] at hall
          have hdone := hwritten.trans hall
          exact ⟨fun hw => Bool.noConfusion hw,
            fun _ => ⟨rfl, hdone ▸ List.prefix_rfl, fun _ => hdone⟩, hsealed⟩

/-- A link on which both sides are at work and neither side has closed, whatever waits. -/
structure Busy (l : Link) : Prop where
  writing : l.writing = true
  reading : l.reading = true
  stage : l.endpoint.stage = .active

/-- While texts alone wait, nothing stops the writer. -/
theorem Busy.writeNext {l : Link} (h : l.Busy) {texts : List String}
    (ho : l.Owes (texts.map .text) false) :
    (l.writeNext .opened).1.Busy ∧ (l.writeNext .opened).2 = [] := by
  cases hq : l.queue with
  | nil =>
    rw [writeNext_empty hq]
    exact ⟨h, rfl⟩
  | cons o queue =>
    have hmem : o ∈ texts.map Outbound.text := by
      rw [← ho.waiting h.writing, hq]
      exact List.mem_append_right _ List.mem_cons_self
    obtain ⟨s, -, rfl⟩ := List.mem_map.1 hmem
    have he : l.endpoint.write (.text s) = .ok (l.endpoint, [.text s]) := by
      unfold Endpoint.write
      rw [h.stage]
    have hnext : l.writeNext .opened =
        ({ l with queue := queue, wire := l.wire ++ [.text s] }, []) := by
      simp [Link.writeNext, h.writing, hq, he, Outbound.isClose]
    rw [hnext]
    exact ⟨⟨h.writing, h.reading, h.stage⟩, rfl⟩

theorem Owes.arrive {l : Link} {due : List Outbound} {failed : Bool} (h : l.Owes due failed)
    (phase : Phase) (a : Arrival) : (l.arrive phase a).1.Owes due failed := by
  obtain ⟨hq, hw⟩ := arrive_fst l phase a
  have hwritten := arrive_written l phase a
  constructor
  · rw [hq, hw, hwritten]
    exact h.waiting
  · rw [hq, hw, hwritten]
    exact h.gone
  · exact h.sealed.arrive phase a

theorem Busy.arrive {l : Link} (h : l.Busy) {a : Arrival}
    (hend : endOf? (a.items l.endpoint) = none) (phase : Phase) :
    (l.arrive phase a).1.Busy := by
  have hs : (a.endpoint l.endpoint).stage = l.endpoint.stage := by
    simpa [hend] using a.endpoint_stage l.endpoint
  refine ⟨(arrive_fst l phase a).2.trans h.writing, ?_, ?_⟩
  · simp [Link.arrive, h.reading, hend]
  · simp [Link.arrive, h.reading, hs, h.stage]

theorem Owes.enqueue {l : Link} {due : List Outbound} {failed : Bool} (h : l.Owes due failed)
    (hw : l.writing = true) (o : Outbound) :
    Owes { l with queue := l.queue ++ [o] } (due ++ [o]) failed := by
  constructor
  · intro _
    rw [← h.waiting hw, List.append_assoc]
    rfl
  · intro hgone
    exact absurd (hw.symm.trans hgone) Bool.noConfusion
  · exact ⟨h.sealed.last, h.sealed.active⟩

theorem writeSteps_gone {l : Link} (h : l.writing = false) (phase : Phase) (n : Nat) :
    writeSteps phase n l = (l, []) := by
  induction n with
  | zero => rfl
  | succ n ih => simp [writeSteps, Link.writeNext, h, ih]

/-- In a closed phase each step takes a frame from the queue or is the last. -/
theorem writeNext_closed (l : Link) :
    (l.writeNext .closed).1.writing = false ∨
      (l.writeNext .closed).1.queue.length < l.queue.length := by
  cases hw : l.writing with
  | false => simp [Link.writeNext, hw]
  | true =>
    cases hq : l.queue with
    | nil =>
      rw [writeNext_empty hq]
      exact Or.inl rfl
    | cons o queue =>
      unfold Link.writeNext
      simp only [hw, hq]
      cases he : l.endpoint.write o with
      | error fault => simp
      | ok r => cases o.isClose <;> simp

theorem writeSteps_closed {l : Link} {n : Nat} (h : l.queue.length < n) :
    (writeSteps .closed n l).1.writing = false := by
  induction n generalizing l with
  | zero => exact absurd h (Nat.not_lt_zero _)
  | succ n ih =>
    change (writeSteps .closed n (l.writeNext .closed).1).1.writing = false
    rcases writeNext_closed l with hgone | hless
    · rw [writeSteps_gone hgone]
      exact hgone
    · exact ih (by omega)

end Parley.Connection.Link

namespace Parley.Manager

open Connection Socket

/-- What can happen to a connection next. Its manager closes it also by going away, a handle of it
may be any of its copies, and the server does what it likes. -/
inductive Move where
  | send (text : String)
  | sendThrough (text : String)
  | close
  | write
  | arrive (a : Link.Arrival)

def Move.isClose : Move → Bool
  | .close => true
  | _ => false

theorem sendThrough_eq_offer (m : Manager) (k : Nat) (text : String) :
    m.sendThrough k text =
      match m.offer k text with
      | (.error f, m) => (.error f, m, [])
      | (.ok (), m) => (.ok (), m.settle) := by
  unfold sendThrough offer
  cases m.links[k]? with
  | none => rfl
  | some l => cases hs : l.send m.phase text <;> simp [hs]

theorem close_eq_release (m : Manager) :
    m.close = if m.held = none then (m, []) else m.release.settle := by
  unfold close release
  cases m.held with
  | none => rfl
  | some k => rfl

theorem onLink_eq_onTask {m : Manager} {k : Nat} {l : Link} (h : m.links[k]? = some l)
    (f : Link → Phase → Link × Phase × List Signal) :
    m.onLink k f = ((m.onTask k f).1.settle.1, (m.onTask k f).2 ++ (m.onTask k f).1.settle.2) := by
  simp [onLink, onTask, h]

def move (m : Manager) (k : Nat) : Move → Except Failure Unit × Manager × List Signal
  | .send text =>
    match m.held with
    | none => (.error .notConnected, m, [])
    | some j => ((m.offer j text).1, (m.offer j text).2, [])
  | .sendThrough text => ((m.offer k text).1, (m.offer k text).2, [])
  | .close => (.ok (), m.release, [])
  | .write =>
    (.ok (), m.onTask k fun l phase => ((l.writeNext phase).1, phase, (l.writeNext phase).2))
  | .arrive a => (.ok (), m.onTask k fun l phase => l.arrive phase a)

structure Stride where
  before : Manager
  move : Move
  result : Except Failure Unit
  after : Manager
  signals : List Signal

def stride (k : Nat) (m : Manager) (a : Move) : Stride :=
  ⟨m, a, (m.move k a).1, (m.move k a).2.1, (m.move k a).2.2⟩

def strides (k : Nat) : Manager → List Move → List Stride
  | _, [] => []
  | m, a :: moves => m.stride k a :: strides k (m.stride k a).after moves

def course (k : Nat) (m : Manager) (moves : List Move) : Manager :=
  moves.foldl (fun m a => (m.stride k a).after) m

theorem course_append (k : Nat) (m : Manager) (moves more : List Move) :
    course k m (moves ++ more) = course k (course k m moves) more :=
  List.foldl_append

theorem strides_append_singleton (k : Nat) (m : Manager) (moves : List Move) (a : Move) :
    strides k m (moves ++ [a]) = strides k m moves ++ [(course k m moves).stride k a] := by
  induction moves generalizing m with
  | nil => rfl
  | cons b moves ih =>
    simp only [List.cons_append, strides, ih]
    rfl

namespace Stride

def accepted (s : Stride) : List String :=
  match s.move, s.result with
  | .send text, .ok _ | .sendThrough text, .ok _ => [text]
  | _, _ => []

def closes (s : Stride) : Bool :=
  s.move.isClose && s.before.held.isSome && decide (s.before.phase = .opened)

def fails (s : Stride) : Bool :=
  match s.move with
  | .write => !s.signals.isEmpty
  | _ => false

end Stride

def accepted (run : List Stride) : List String := run.flatMap Stride.accepted

/-- All that was asked for and accepted: those texts, and the close frame. -/
def due (run : List Stride) : List Outbound :=
  (accepted run).map .text ++ if run.any Stride.closes then [.close normal ""] else []

/-- Whether an end was reported before the manager was asked to close. -/
def forced (run : List Stride) : Bool :=
  (run.takeWhile (!·.move.isClose)).any fun s => ended s.signals

theorem isDue_due (run : List Stride) : Link.IsDue (due run) := by
  unfold due
  split
  · exact Link.isDue_closed _ _ _
  · rw [List.append_nil]
    exact Link.isDue_texts _

theorem accepted_append_singleton (run : List Stride) (s : Stride) :
    accepted (run ++ [s]) = accepted run ++ s.accepted := by
  simp [accepted]

theorem due_same {run : List Stride} {s : Stride} (hs : s.accepted = []) (hc : s.closes = false) :
    due (run ++ [s]) = due run := by
  simp [due, accepted_append_singleton, hs, hc]

theorem due_closed {run : List Stride} {s : Stride} (hs : s.accepted = []) (hc : s.closes = true) :
    due (run ++ [s]) = (accepted run).map .text ++ [.close normal ""] := by
  simp [due, accepted_append_singleton, hs, hc]

theorem forced_append_singleton (run : List Stride) (s : Stride) :
    forced (run ++ [s]) =
      (forced run || !run.any (·.move.isClose) && (!s.move.isClose && ended s.signals)) := by
  induction run with
  | nil => cases hs : s.move.isClose <;> simp [forced, hs]
  | cons t run ih =>
    unfold forced at ih ⊢
    cases ht : t.move.isClose with
    | true => simp [ht]
    | false => simp [ht, ih, Bool.or_assoc]

section Newest

variable {earlier : List Link} {l : Link} {phase : Phase} {held : Option Nat}

theorem offer_closed {m : Manager} (h : m.phase = .closed) (k : Nat) (text : String) :
    m.offer k text = (.error .notConnected, m) := by
  unfold offer
  cases m.links[k]? with
  | none => rfl
  | some l => simp [Link.send, h]

theorem offer_newest (hw : l.writing = true) (text : String) :
    offer ⟨.opened, held, earlier ++ [l]⟩ earlier.length text =
      (.ok (), ⟨.opened, held, earlier ++ [{ l with queue := l.queue ++ [.text text] }]⟩) := by
  simp [offer, Link.send, Link.enqueue, hw]

theorem release_closed (links : List Link) :
    release ⟨.closed, held, links⟩ = ⟨.closed, none, links⟩ := by
  cases held <;> rfl

theorem release_newest (hw : l.writing = true) :
    release ⟨.opened, some earlier.length, earlier ++ [l]⟩ =
      ⟨.closed, none, earlier ++ [{ l with queue := l.queue ++ [.close normal ""] }]⟩ := by
  simp [release, enqueueClose, Link.enqueue, hw]

theorem onTask_newest (f : Link → Phase → Link × Phase × List Signal) :
    onTask ⟨phase, held, earlier ++ [l]⟩ earlier.length f =
      (⟨(f l phase).2.1, held, earlier ++ [(f l phase).1]⟩, (f l phase).2.2) := by
  simp [onTask]

end Newest

/-- Where a connection stands under way. It is live until it is closed from either side, and then
the writer is left with what is due. What the server has not forced is closed by the owner's close.
-/
inductive Underway (earlier : List Link) (run : List Stride) : Manager → Prop
  | live {l : Link} (hbusy : l.Busy) (howes : l.Owes ((accepted run).map .text) false)
      (hclose : run.any (·.move.isClose) = false) (hforced : forced run = false) :
      Underway earlier run ⟨.opened, some earlier.length, earlier ++ [l]⟩
  | closed (held : Option Nat) {l : Link} (howes : l.Owes (due run) (run.any Stride.fails))
      (hcloses : forced run = false → run.any Stride.closes = true) :
      Underway earlier run ⟨.closed, held, earlier ++ [l]⟩

section Underway

variable {earlier : List Link} {run : List Stride}

theorem closes_of_no_close (h : run.any (·.move.isClose) = false) :
    run.any Stride.closes = false := by
  rw [List.any_eq_false] at h ⊢
  intro s hs hc
  apply h s hs
  simp only [Stride.closes, Bool.and_eq_true] at hc
  exact hc.1.1

theorem due_of_no_close (h : run.any (·.move.isClose) = false) :
    due run = (accepted run).map .text := by
  simp [due, closes_of_no_close h]

theorem Underway.live_append {l : Link} {s : Stride} (hclose : run.any (·.move.isClose) = false)
    (hforced : forced run = false) (hs : s.move.isClose = false) (hend : ended s.signals = false)
    (hbusy : l.Busy) (howes : l.Owes ((accepted run ++ s.accepted).map .text) false) :
    Underway earlier (run ++ [s]) ⟨.opened, some earlier.length, earlier ++ [l]⟩ := by
  refine .live hbusy ?_ ?_ ?_
  · rw [accepted_append_singleton]
    exact howes
  · simp [hclose, hs]
  · simp [forced_append_singleton, hforced, hend]

theorem Underway.closed_append {held : Option Nat} {l : Link} {s : Stride}
    (hcloses : forced run = false → run.any Stride.closes = true)
    (ha : s.accepted = []) (hc : s.closes = false)
    (howes : l.Owes (due run) (run.any Stride.fails || s.fails)) :
    Underway earlier (run ++ [s]) ⟨.closed, held, earlier ++ [l]⟩ := by
  refine .closed held ?_ fun h => ?_
  · rw [due_same ha hc, List.any_append, List.any_cons, List.any_nil, Bool.or_false]
    exact howes
  · rw [forced_append_singleton, Bool.or_eq_false_iff] at h
    rw [List.any_append, hcloses h.1]
    rfl

theorem move_send_closed {m : Manager} (h : m.phase = .closed) (k : Nat) (text : String) :
    m.move k (.send text) = (.error .notConnected, m, []) := by
  unfold move
  cases m.held with
  | none => rfl
  | some j => simp [offer_closed h]

theorem move_sendThrough_closed {m : Manager} (h : m.phase = .closed) (k : Nat) (text : String) :
    m.move k (.sendThrough text) = (.error .notConnected, m, []) := by
  simp [move, offer_closed h]

/-- While the connection is live a send is accepted, and the two sides can close it. -/
theorem Underway.stride_live {l : Link} (hbusy : l.Busy)
    (howes : l.Owes ((accepted run).map .text) false)
    (hclose : run.any (·.move.isClose) = false) (hforced : forced run = false) (a : Move) :
    let m : Manager := ⟨.opened, some earlier.length, earlier ++ [l]⟩
    Underway earlier (run ++ [m.stride earlier.length a]) (m.stride earlier.length a).after := by
  have hmore : ∀ text : String, Link.Owes { l with queue := l.queue ++ [.text text] }
      ((accepted run ++ [text]).map .text) false := by
    intro text
    rw [List.map_append]
    exact howes.enqueue hbusy.writing (.text text)
  have hqueued : ∀ text : String, Link.Busy { l with queue := l.queue ++ [.text text] } :=
    fun _ => ⟨hbusy.writing, hbusy.reading, hbusy.stage⟩
  cases a with
  | send text =>
    simp only [stride, move, offer_newest hbusy.writing]
    exact .live_append hclose hforced rfl rfl (hqueued text) (hmore text)
  | sendThrough text =>
    simp only [stride, move, offer_newest hbusy.writing]
    exact .live_append hclose hforced rfl rfl (hqueued text) (hmore text)
  | close =>
    simp only [stride, move, release_newest hbusy.writing]
    refine .closed none ?_ fun _ => ?_
    · rw [due_closed rfl rfl]
      exact (howes.enqueue hbusy.writing _).of_writing hbusy.writing _
    · rw [List.any_append, Bool.or_eq_true]
      exact Or.inr rfl
  | write =>
    obtain ⟨hnext, hquiet⟩ := hbusy.writeNext howes
    have hleft := howes.writeNext (Link.isDue_texts _) .opened
    rw [hquiet] at hleft
    simp only [stride, move, onTask_newest, hquiet]
    refine .live_append hclose hforced rfl rfl hnext ?_
    simpa [Stride.accepted] using hleft
  | arrive a =>
    have hsignals : (l.arrive .opened a).2.2 = Link.heard .opened (a.items l.endpoint) := by
      simp [Link.arrive, hbusy.reading]
    have hphase : (l.arrive .opened a).2.1 =
        if (endOf? (a.items l.endpoint)).isSome then .closed else .opened := by
      simp [Link.arrive, hbusy.reading]
    have hended := ended_heard .opened (a.items l.endpoint)
    simp only [stride, move, onTask_newest, hsignals, hphase]
    cases hend : endOf? (a.items l.endpoint) with
    | none =>
      rw [hend] at hended
      refine .live_append hclose hforced rfl hended (hbusy.arrive hend _) ?_
      simpa [Stride.accepted] using howes.arrive .opened a
    | some code =>
      rw [hend] at hended
      refine .closed _ ?_ fun h => ?_
      · have hw := (Link.arrive_fst l .opened a).2.trans hbusy.writing
        rw [due_same rfl rfl, due_of_no_close hclose]
        exact (howes.arrive .opened a).of_writing hw _
      · rw [forced_append_singleton, hclose, hended] at h
        simp [Move.isClose] at h

/-- Once the phase is closed nothing more is accepted, and only the writer goes on. -/
theorem Underway.stride_closed {held : Option Nat} {l : Link}
    (howes : l.Owes (due run) (run.any Stride.fails))
    (hcloses : forced run = false → run.any Stride.closes = true) (a : Move) :
    let m : Manager := ⟨.closed, held, earlier ++ [l]⟩
    Underway earlier (run ++ [m.stride earlier.length a]) (m.stride earlier.length a).after := by
  cases a with
  | send text =>
    simp only [stride, move_send_closed]
    exact .closed_append hcloses rfl rfl (by simpa [Stride.fails] using howes)
  | sendThrough text =>
    simp only [stride, move_sendThrough_closed]
    exact .closed_append hcloses rfl rfl (by simpa [Stride.fails] using howes)
  | close =>
    simp only [stride, move, release_closed]
    exact .closed_append hcloses rfl (by simp [Stride.closes]) (by simpa [Stride.fails] using howes)
  | write =>
    simp only [stride, move, onTask_newest]
    exact .closed_append hcloses rfl rfl (howes.writeNext (isDue_due run) .closed)
  | arrive a =>
    have hphase : (l.arrive .closed a).2.1 = .closed := by
      rcases l.arrive_phase .closed a with hp | ⟨hp, -⟩ <;> exact hp
    simp only [stride, move, onTask_newest, hphase]
    exact .closed_append hcloses rfl rfl (by simpa [Stride.fails] using howes.arrive .closed a)

theorem Underway.stride {m : Manager} (h : Underway earlier run m) (a : Move) :
    Underway earlier (run ++ [m.stride earlier.length a]) (m.stride earlier.length a).after := by
  cases h with
  | live hbusy howes hclose hforced => exact stride_live hbusy howes hclose hforced a
  | closed held howes hcloses => exact stride_closed howes hcloses a

end Underway

theorem underway_course (earlier : List Link) (moves : List Move) :
    Underway earlier (strides earlier.length (opening earlier) moves)
      (course earlier.length (opening earlier) moves) := by
  induction moves using List.reverseRecOn with
  | nil =>
    have howes : Link.fresh.Owes [] false :=
      ⟨fun _ => rfl, fun hw => Bool.noConfusion hw, Link.fresh_sealed⟩
    exact .live ⟨rfl, rfl, rfl⟩ howes rfl rfl
  | append_singleton moves a ih =>
    rw [strides_append_singleton, course_append]
    exact ih.stride a

theorem course_writes (earlier : List Link) (l : Link) (phase : Phase) (held : Option Nat)
    (n : Nat) :
    course earlier.length ⟨phase, held, earlier ++ [l]⟩ (List.replicate n .write) =
      ⟨phase, held, earlier ++ [(Link.writeSteps phase n l).1]⟩ := by
  induction n generalizing l with
  | zero => rfl
  | succ n ih =>
    have hfirst : (stride earlier.length ⟨phase, held, earlier ++ [l]⟩ .write).after =
        ⟨phase, held, earlier ++ [(l.writeNext phase).1]⟩ := by
      simp only [stride, move, onTask_newest]
    rw [List.replicate_succ, course, List.foldl_cons, hfirst]
    exact ih _

/-- Where nothing else is written, settling is the writer going on until it has done all it can. -/
theorem settle_eq_course {earlier : List Link} (h : ∀ x ∈ earlier, x.Done) (l : Link)
    (phase : Phase) (held : Option Nat) :
    (settle ⟨phase, held, earlier ++ [l]⟩).1 =
      course earlier.length ⟨phase, held, earlier ++ [l]⟩
        (List.replicate (l.queue.length + 1) .write) := by
  have hmap : earlier.map (fun x => (x.settle phase).1) = earlier := by
    refine (List.map_congr_left fun x hx => ?_).trans (List.map_id' _)
    rw [Link.settle_empty (h x hx).queue, (h x hx).rest]
  rw [course_writes]
  simp only [settle, List.map_append, List.map_map, Function.comp_def, hmap]
  rfl

theorem Steady.newest {earlier : List Link} {l : Link} {phase : Phase} {held : Option Nat}
    (h : Steady ⟨phase, held, earlier ++ [l]⟩) :
    (∀ x ∈ earlier, x.Done) ∧
      (phase = .closed ∨ phase = .opened ∧ held = some earlier.length ∧ l.writing = true) := by
  generalize hm : Manager.mk phase held (earlier ++ [l]) = m at h
  cases h with
  | idle => simp [fresh] at hm
  | closed _ hd =>
    obtain ⟨rfl, -, rfl⟩ := Manager.mk.inj hm
    exact ⟨fun x hx => hd x (List.mem_append_left _ hx), Or.inl rfl⟩
  | opened hd hn =>
    obtain ⟨rfl, rfl, hlinks⟩ := Manager.mk.inj hm
    obtain ⟨rfl, hl⟩ := List.append_inj' hlinks rfl
    exact ⟨hd, Or.inr ⟨rfl, rfl, List.singleton_inj.1 hl ▸ hn.writing⟩⟩

/-- So each operation of a manager is one move, with the writer going on behind it. -/
theorem Steady.courses {earlier : List Link} {l : Link} {phase : Phase} {held : Option Nat}
    (hm : Steady ⟨phase, held, earlier ++ [l]⟩) :
    let k := earlier.length
    let m : Manager := ⟨phase, held, earlier ++ [l]⟩
    (∀ text, ∃ n,
      (m.sendThrough k text).2.1 = course k m (.sendThrough text :: List.replicate n .write)) ∧
    (∃ n, m.close.1 = course k m (.close :: List.replicate n .write)) ∧
    ∀ a, ∃ n, (m.arrive k a).1 = course k m (.arrive a :: List.replicate n .write) := by
  intro k m
  obtain ⟨hdone, hphase⟩ := hm.newest
  -- What a move leaves is settled by as many further moves as the writer needs.
  have hcourse : ∀ (a : Move) (phase' : Phase) (held' : Option Nat) (l' : Link),
      (m.stride k a).after = ⟨phase', held', earlier ++ [l']⟩ →
      ∃ n, (settle ⟨phase', held', earlier ++ [l']⟩).1 =
        course k m (a :: List.replicate n .write) := by
    intro a phase' held' l' ha
    refine ⟨l'.queue.length + 1, ?_⟩
    rw [settle_eq_course hdone, ← ha]
    rfl
  refine ⟨fun text => ?_, ?_, fun a => ?_⟩
  · rw [sendThrough_eq_offer]
    rcases hphase with hp | ⟨rfl, rfl, hw⟩
    · have hclosed : m.phase = .closed := hp
      rw [offer_closed hclosed]
      exact ⟨0, by simp [course, stride, move_sendThrough_closed hclosed]⟩
    · rw [offer_newest hw]
      exact hcourse _ _ _ _ (by simp [m, k, stride, move, offer_newest hw])
  · rw [close_eq_release]
    split
    · rename_i hheld
      exact ⟨0, by simp [course, stride, move, release, hheld]⟩
    · rcases hphase with rfl | ⟨rfl, rfl, hw⟩
      · rw [release_closed]
        exact hcourse _ _ _ _ (by simp [m, stride, move, release_closed])
      · rw [release_newest hw]
        exact hcourse _ _ _ _ (by simp [m, stride, move, release_newest hw])
  · have hk : m.links[k]? = some l := List.getElem?_concat_length
    unfold Manager.arrive
    rw [onLink_eq_onTask hk, onTask_newest]
    exact hcourse _ _ _ _ (by simp only [m, k, stride, move, onTask_newest])

/-- Of a connection on which its owner, its writer and its server have gone on in any order: what
was written is the beginning of what was accepted, and what is missing of that still waits for a
writer that is still there. Until one of the two sides closes, every send is accepted. Once the
owner has closed, the phase is closed, whatever still waits, no further send is accepted, and the
writer has only so many steps to go as frames wait, and one more. If the server did not end the
connection first and no write has failed, a writer that is gone has written every text that was
accepted, then the close frame, and nothing else, and no pong stands behind it. -/
theorem written_in_order (earlier : List Link) (moves : List Move) :
    let k := earlier.length
    let run := strides k (opening earlier) moves
    let m := course k (opening earlier) moves
    ∃ l, m.links = earlier ++ [l] ∧
      l.written <+: due run ∧
      (l.writing = true → l.written ++ l.queue = due run) ∧
      (run.any (·.move.isClose) = false → forced run = false → ∀ text,
        (m.move k (.send text)).1 = .ok () ∧ (m.move k (.sendThrough text)).1 = .ok ()) ∧
      (run.any (·.move.isClose) = true →
        m.phase = .closed ∧
        (∀ text,
          m.move k (.send text) = (.error .notConnected, m, []) ∧
          m.move k (.sendThrough text) = (.error .notConnected, m, [])) ∧
        (∃ l', l'.writing = false ∧
          course k m (List.replicate (l.queue.length + 1) .write) =
            { m with links := earlier ++ [l'] }) ∧
        (forced run = false → run.any Stride.fails = false →
          due run = (accepted run).map .text ++ [.close normal ""] ∧
          (l.writing = false →
            l.written = due run ∧ l.wire.getLast? = some (.close normal "")))) := by
  intro k run m
  have hunderway : Underway earlier run m := underway_course earlier moves
  generalize run = run, m = m at hunderway ⊢
  cases hunderway with
  | live hbusy howes hclose hforced =>
    rw [due_of_no_close hclose]
    refine ⟨_, rfl, howes.prefix_due, howes.waiting, fun _ _ text => ?_, fun h => ?_⟩
    · simp [move, k, offer_newest hbusy.writing]
    · rw [hclose] at h
      exact Bool.noConfusion h
  | @closed held l howes hcloses =>
    refine ⟨l, rfl, howes.prefix_due, howes.waiting, fun hopen hforced => ?_,
      fun _ => ⟨rfl, fun text => ?_, ?_, ?_⟩⟩
    · have hnone := closes_of_no_close hopen
      rw [hcloses hforced] at hnone
      exact Bool.noConfusion hnone
    · exact ⟨move_send_closed rfl k text, move_sendThrough_closed rfl k text⟩
    · exact ⟨_, Link.writeSteps_closed (Nat.lt_succ_self _), course_writes earlier l .closed held _⟩
    · intro hforced hfails
      have hdue : due run = (accepted run).map .text ++ [.close normal ""] := by
        rw [due, hcloses hforced, if_pos rfl]
      refine ⟨hdue, fun hw => ?_⟩
      have hwritten : l.written = due run := (howes.gone hw).2.2 hfails
      have hmem : .close normal "" ∈ l.written := by
        rw [hwritten, hdue]
        exact List.mem_append_right _ (List.mem_singleton_self _)
      exact ⟨hwritten, howes.sealed.getLast? (List.mem_filter.1 hmem).1 rfl⟩

/-- A close finds a text that still waits, and a handle is used behind it. -/
def backlog : List Move := [.sendThrough "a", .send "b", .write, .close, .sendThrough "c"]

theorem written_in_order_backlog :
    ((course 0 (opening []) backlog).phase = .closed ∧
      (course 0 (opening []) backlog).links.map (·.queue) = [[.text "b", .close normal ""]]) ∧
    ∃ l, (course 0 (opening []) (backlog ++ [.write, .write])).links = [l] ∧
      l.written = [.text "a", .text "b", .close normal ""] ∧
      l.wire.getLast? = some (.close normal "") := by
  refine ⟨by decide, ?_⟩
  obtain ⟨l, hl, -, -, -, hclosed⟩ := written_in_order [] (backlog ++ [.write, .write])
  obtain ⟨-, -, -, hall⟩ := hclosed (by decide)
  obtain ⟨hdue, hwritten⟩ := hall (by decide) (by decide)
  have hgone :
      (course 0 (opening []) (backlog ++ [.write, .write])).links.map (·.writing) = [false] := by
    decide
  replace hl : (course 0 (opening []) (backlog ++ [.write, .write])).links = [l] := hl
  rw [hl] at hgone
  obtain ⟨hall, hlast⟩ := hwritten (by simpa using hgone)
  refine ⟨l, hl, ?_, hlast⟩
  rw [hall, hdue]
  decide

end Parley.Manager
