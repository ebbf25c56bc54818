import Parley.Connection.Link
import Parley.Proofs.Reader

/-! The writing side, and a link as a whole. Between two steps of a manager nothing waits on any
link, so a writer that settles has at most the one frame of that step to write: it writes it, goes
away behind a close frame, and goes away once the phase is closed. -/

namespace Parley.Connection.Link

open Socket

/-- What settling leaves of a link on which nothing waits: only a closed phase sends its writer
away. -/
def rest (l : Link) (phase : Phase) : Link :=
  if phase = .closed then { l with writing := false } else l

theorem rest_opened (l : Link) : l.rest .opened = l := rfl

@[simp] theorem rest_queue (l : Link) (phase : Phase) : (l.rest phase).queue = l.queue := by
  unfold rest; split <;> rfl

@[simp] theorem rest_reading (l : Link) (phase : Phase) : (l.rest phase).reading = l.reading := by
  unfold rest; split <;> rfl

@[simp] theorem rest_endpoint (l : Link) (phase : Phase) :
    (l.rest phase).endpoint = l.endpoint := by
  unfold rest; split <;> rfl

@[simp] theorem rest_wire (l : Link) (phase : Phase) : (l.rest phase).wire = l.wire := by
  unfold rest; split <;> rfl

theorem rest_of_not_writing {l : Link} (h : l.writing = false) (phase : Phase) :
    l.rest phase = l := by
  unfold rest
  split
  · rw [← h]
  · rfl

theorem writeNext_empty {l : Link} (hq : l.queue = []) (phase : Phase) :
    l.writeNext phase = (l.rest phase, []) := by
  cases hw : l.writing with
  | false => simp [writeNext, hw, rest_of_not_writing hw]
  | true =>
    unfold writeNext rest
    rw [hq]
    simp only [hw, not_true, if_false]

theorem settle_empty {l : Link} (hq : l.queue = []) (phase : Phase) :
    l.settle phase = (l.rest phase, []) := by
  simp [settle, hq, writeSteps, writeNext_empty hq]

/-- A frame that nothing stands in the way of is written, and the writer looks at the phase again
unless it was a close. -/
theorem settle_single {l : Link} {o : Outbound} {endpoint : Endpoint} {written : List Outbound}
    (hq : l.queue = [o]) (hw : l.writing = true) (he : l.endpoint.write o = .ok (endpoint, written))
    (phase : Phase) :
    l.settle phase =
      (rest { l with
          queue := [], writing := !o.isClose, endpoint := endpoint
          wire := l.wire ++ written } phase,
        []) := by
  have hfirst : l.writeNext phase =
      ({ l with
          queue := [], writing := !o.isClose, endpoint := endpoint
          wire := l.wire ++ written }, []) := by
    unfold writeNext
    rw [hq]
    simp only [hw, he, not_true, if_false]
    split <;> rfl
  unfold settle
  rw [hq]
  simp only [List.length_singleton, writeSteps, hfirst]
  rw [writeNext_empty rfl]
  simp

theorem settle_text {l : Link} (hq : l.queue = []) (hw : l.writing = true)
    (hs : l.endpoint.stage = .active) (s : String) (phase : Phase) :
    settle { l with queue := l.queue ++ [.text s] } phase =
      (rest { l with wire := l.wire ++ [.text s] } phase, []) := by
  have he : l.endpoint.write (.text s) = .ok (l.endpoint, [.text s]) := by
    unfold Endpoint.write
    rw [hs]
  have hsettle :=
    settle_single (l := { l with queue := l.queue ++ [.text s] }) (by simp [hq]) hw he phase
  rw [hsettle, ← hq]
  simp [Outbound.isClose, hw]

theorem settle_close {l : Link} (hq : l.queue = []) (hw : l.writing = true)
    (hs : l.endpoint.stage = .active) (code : Nat) (reason : String) (phase : Phase) :
    settle { l with queue := l.queue ++ [.close code reason] } phase =
      ({ l with
          writing := false
          endpoint := { l.endpoint with stage := .closedByClient }
          wire := l.wire ++ [.close code reason] }, []) := by
  have he : l.endpoint.write (.close code reason) =
      .ok ({ l.endpoint with stage := .closedByClient }, [.close code reason]) := by
    unfold Endpoint.write
    rw [hs]
  have hsettle := settle_single (l := { l with queue := l.queue ++ [.close code reason] })
    (by simp [hq]) hw he phase
  rw [hsettle, rest_of_not_writing rfl, ← hq]
  rfl

inductive Arrival where
  | octets (bs : List UInt8)
  | hangUp (cut : Cut)

namespace Arrival

def endpoint (a : Arrival) (e : Endpoint) : Endpoint :=
  match a with
  | octets bs => (e.receive bs).1
  | hangUp cut => e.hangUp cut

def items (a : Arrival) (e : Endpoint) : List Item :=
  match a with
  | octets bs => (e.receive bs).2
  | hangUp cut => Endpoint.hangUpItems cut

theorem endpoint_stage (a : Arrival) (e : Endpoint) :
    (a.endpoint e).stage = e.stage ∨ (endOf? (a.items e)).isSome := by
  cases a with
  | octets bs => exact e.receive_stage bs
  | hangUp cut => exact Or.inr rfl

end Arrival

/-- What is passed on of items: what stands in front of the first end, and that end. -/
def heard (phase : Phase) (items : List Item) : List Signal :=
  (untilEnd items).flatMap (Reader.reports phase) ++ (endOf? items).toList.map .closed

/-- The one account of both things a server can do: a running reader takes the items in and closes
the phase with the first end, and a reader that has stopped takes in nothing. -/
def arrive (l : Link) (phase : Phase) (a : Arrival) : Link × Phase × List Signal :=
  let items := a.items l.endpoint
  if l.reading then
    ({ l with
        endpoint := a.endpoint l.endpoint
        wire := l.wire ++ Endpoint.pongs l.endpoint.stage items
        reading := (endOf? items).isNone },
      if (endOf? items).isSome then .closed else phase, heard phase items)
  else (l, phase, [])

theorem read_running {l : Link} (hr : l.reading = true) (phase : Phase) (items : List Item) :
    l.read phase items =
      ({ l with reading := (endOf? items).isNone },
        if (endOf? items).isSome then .closed else phase,
        heard phase items) := by
  unfold read heard
  rw [hr, Bool.not_true, Reader.run_running]
  cases endOf? items <;> rfl

theorem read_stopped {l : Link} (hr : l.reading = false) (phase : Phase) (items : List Item) :
    l.read phase items = (l, phase, []) := by
  unfold read
  rw [hr, Bool.not_false, Reader.run_stopped]
  simp [← hr]

theorem receive_eq (l : Link) (phase : Phase) (bs : List UInt8) :
    l.receive phase bs = l.arrive phase (.octets bs) := by
  cases hr : l.reading with
  | false => simp [receive, arrive, hr]
  | true =>
    unfold receive arrive
    simp only [hr, not_true, if_false, if_true]
    rw [read_running rfl]
    rfl

theorem pongs_hangUp (stage : Stage) (cut : Cut) :
    Endpoint.pongs stage (Endpoint.hangUpItems cut) = [] := by
  simp [Endpoint.pongs, Endpoint.hangUpItems]

theorem hangUp_eq (l : Link) (phase : Phase) (cut : Cut) :
    l.hangUp phase cut = l.arrive phase (.hangUp cut) := by
  cases hr : l.reading with
  | false => simp [hangUp, arrive, hr]
  | true =>
    unfold hangUp arrive
    simp only [hr, not_true, if_false, if_true]
    rw [read_running rfl]
    simp only [Arrival.endpoint, Arrival.items, pongs_hangUp, List.append_nil]
    rfl

/-- An arrival leaves what waits and who writes alone. -/
theorem arrive_fst (l : Link) (phase : Phase) (a : Arrival) :
    (l.arrive phase a).1.queue = l.queue ∧ (l.arrive phase a).1.writing = l.writing := by
  unfold arrive
  split <;> exact ⟨rfl, rfl⟩

end Parley.Connection.Link
