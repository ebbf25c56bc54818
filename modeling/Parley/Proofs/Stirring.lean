import Parley.Connection.Tasks
import Parley.Proofs.Session
import Parley.Proofs.SharedPhase
import Parley.Proofs.Splice

/-! One connection on which the owner, the reader and the writer each go on when they like. Whatever
happens there is one of three things: nothing is told of it, the reader takes in what the server has
sent, or the writer fails, which it does once because it is gone then. -/

namespace Parley.Connection.Link

open Socket

/-- What one thing that happens makes of a connection and of its phase, and what is told of it. The
items are those for its reader, which takes them in unless it has stopped. -/
inductive Stirs (l : Link) (phase : Phase) (items : List Item) :
    Link → Phase → List Signal → Prop
  | quiet {l' : Link} {phase' : Phase} (hi : l.reading = true → items = [])
      (hr : l'.reading = l.reading) (hw : l'.writing = true → l.writing = true)
      (hp : phase' = phase ∨ phase' = .closed) : Stirs l phase items l' phase' []
  | hears {l' : Link} {phase' : Phase} (hr : l.reading = true)
      (hr' : l'.reading = (endOf? items).isNone) (hw : l'.writing = l.writing)
      (hp : phase' = if (endOf? items).isSome then .closed else phase) :
      Stirs l phase items l' phase' (heard phase items)
  | fails {l' : Link} (hi : items = []) (fault : Fault) (hr : l'.reading = l.reading)
      (hw : l.writing = true) (hw' : l'.writing = false) :
      Stirs l phase items l' phase [.failed (.transport fault.message)]

section Stirs

variable {l l' : Link} {phase phase' : Phase} {items : List Item} {signals : List Signal}

theorem Stirs.closed (h : l.Stirs phase items l' phase' signals) (hp : phase = .closed) :
    phase' = .closed := by
  cases h with
  | quiet hi hr hw hp' => rcases hp' with rfl | rfl <;> simp [hp]
  | hears hr hr' hw hp' => simp [hp', hp]
  | fails hi fault hr hw hw' => exact hp

/-- The phase is not open behind a reader that has stopped. -/
theorem Stirs.reader (h : l.Stirs phase items l' phase' signals)
    (hl : phase = .closed ∨ phase = .opened ∧ l.reading = true) :
    phase' = .closed ∨ phase' = .opened ∧ l'.reading = true := by
  rcases hl with hp | ⟨hp, hreading⟩
  · exact Or.inl (h.closed hp)
  cases h with
  | quiet hi hr hw hp' =>
    rcases hp' with rfl | rfl
    · exact Or.inr ⟨hp, hr.trans hreading⟩
    · exact Or.inl rfl
  | hears hr hr' hw hp' =>
    cases hend : endOf? items with
    | none => exact Or.inr ⟨by simp [hp', hend, hp], by simp [hr', hend]⟩
    | some code => exact Or.inl (by simp [hp', hend])
  | fails hi fault hr hw hw' => exact Or.inr ⟨hp, hr.trans hreading⟩

/-- An end is told of a connection only as its phase is closed. -/
theorem Stirs.ended (h : l.Stirs phase items l' phase' signals) {code : Nat}
    (hc : .closed code ∈ signals) : phase' = .closed := by
  cases h with
  | quiet => exact absurd hc List.not_mem_nil
  | fails => exact absurd (List.mem_singleton.1 hc) (by simp)
  | hears hr hr' hw hp =>
    have hended := Manager.ended_heard phase items
    rw [hp, ← hended, if_pos]
    exact List.any_eq_true.2 ⟨_, hc, rfl⟩

/-- Texts are passed on only by a reader at work, and while the phase is open. -/
theorem Stirs.texts (h : l.Stirs phase items l' phase' signals) :
    Manager.texts signals =
      if phase = .opened ∧ l.reading = true then (untilEnd items).filterMap Item.text? else [] := by
  cases h with
  | quiet hi hr hw hp =>
    split
    · rename_i hboth
      rw [hi hboth.2]
      rfl
    · rfl
  | hears hr hr' hw hp => simp [Manager.texts_heard, hr]
  | fails hi fault hr hw hw' => simp [hi, Manager.texts, untilEnd]

end Stirs

theorem reports_closed (items : List Item) :
    ∃ failures : List Failure, items.flatMap (Reader.reports .closed) = failures.map .failed := by
  induction items with
  | nil => exact ⟨[], rfl⟩
  | cons item items ih =>
    obtain ⟨failures, h⟩ := ih
    rw [List.flatMap_cons, h]
    cases item with
    | failed fault => exact ⟨.transport fault.message :: failures, rfl⟩
    | _ => exact ⟨failures, rfl⟩

theorem heard_closed (items : List Item) :
    ∃ failures : List Failure,
      heard .closed items = failures.map .failed ++ (endOf? items).toList.map .closed := by
  obtain ⟨failures, h⟩ := reports_closed (untilEnd items)
  exact ⟨failures, by rw [heard, h]⟩

/-- Of a closed connection only failures are told, and the end where its reader comes to it. -/
theorem Stirs.told {l l' : Link} {phase' : Phase} {items : List Item} {signals : List Signal}
    (h : l.Stirs .closed items l' phase' signals) :
    ∃ failures : List Failure, signals = failures.map .failed ++
      if l.reading then (endOf? items).toList.map .closed else [] := by
  cases h with
  | quiet hi hr hw hp =>
    refine ⟨[], ?_⟩
    split
    · rename_i hreading
      simp [hi hreading, endOf?]
    · rfl
  | hears hr hr' hw hp =>
    obtain ⟨failures, h⟩ := heard_closed items
    exact ⟨failures, by rw [h, if_pos hr]⟩
  | fails hi fault hr hw hw' => exact ⟨[.transport fault.message], by simp [hi, endOf?]⟩

/-- A reader that takes in what it finds, and nothing once it has stopped. -/
structure Reads (items : Endpoint → List Item) (g : Link → Phase → Link × Phase × List Signal) :
    Prop where
  running : ∀ (l : Link) (phase : Phase), l.reading = true →
    (g l phase).1.reading = (endOf? (items l.endpoint)).isNone ∧
      (g l phase).1.writing = l.writing ∧
      (g l phase).2 =
        (if (endOf? (items l.endpoint)).isSome then .closed else phase,
          heard phase (items l.endpoint))
  stopped : ∀ (l : Link) (phase : Phase), l.reading = false → g l phase = (l, phase, [])

theorem Reads.stirs {items : Endpoint → List Item}
    {g : Link → Phase → Link × Phase × List Signal} (h : Reads items g) (l : Link) (phase : Phase) :
    l.Stirs phase (items l.endpoint) (g l phase).1 (g l phase).2.1 (g l phase).2.2 := by
  cases hr : l.reading with
  | true =>
    obtain ⟨hr', hw, hrest⟩ := h.running l phase hr
    rw [hrest]
    exact .hears hr hr' hw rfl
  | false =>
    rw [h.stopped l phase hr]
    exact .quiet (fun hr' => absurd (hr.symm.trans hr') Bool.noConfusion) rfl id (Or.inl rfl)

theorem reads_arrive (a : Arrival) : Reads a.items (·.arrive · a) where
  running l phase hr := by simp [arrive, hr]
  stopped l phase hr := by simp [arrive, hr]

/-- Behind an end nothing is heard. -/
theorem heard_behind_end {items : List Item} {code : Nat} (h : endOf? items = some code)
    (phase : Phase) (more : List Item) :
    endOf? (items ++ more) = some code ∧ heard phase (items ++ more) = heard phase items := by
  have hend : endOf? (items ++ more) = some code := by
    unfold endOf? at h ⊢
    rw [List.findSome?_append, h, Option.some_or]
  have huntil : untilEnd (items ++ more) = untilEnd items := by
    clear hend
    induction items with
    | nil => simp [endOf?] at h
    | cons item items ih =>
      cases hitem : item.endCode? with
      | some c => rw [List.cons_append, untilEnd_cons_end hitem, untilEnd_cons_end hitem]
      | none =>
        rw [endOf?_cons_other hitem] at h
        rw [List.cons_append, untilEnd_cons_other hitem, untilEnd_cons_other hitem, ih h]
  exact ⟨hend, by simp only [heard, hend, huntil, h]⟩

theorem reads_breakOff (cut : Cut) :
    Reads (fun e => (e.receive []).2 ++ Endpoint.hangUpItems cut) fun l phase =>
      let first := l.receive phase []
      let second := first.1.hangUp first.2.1 cut
      (second.1, second.2.1, first.2.2 ++ second.2.2) where
  running l phase hr := by
    simp only [receive_eq, hangUp_eq]
    cases hend : endOf? (l.endpoint.receive []).2 with
    | some code =>
      obtain ⟨hall, hheard⟩ := heard_behind_end hend phase (Endpoint.hangUpItems cut)
      simp [arrive, hr, hend, hall, hheard, Arrival.items]
    | none =>
      obtain ⟨hall, hheard⟩ := heard_append hend phase (Endpoint.hangUpItems cut)
      simp [arrive, hr, hend, hall, hheard, Arrival.items]
  stopped l phase hr := by simp [receive_eq, hangUp_eq, arrive, hr]

/-- What a step of the writer is, whether it may write or not. -/
inductive Writes (l : Link) : Link × List Signal → Prop
  | goesOn {l' : Link} (hr : l'.reading = l.reading) (hw : l'.writing = true → l.writing = true) :
      Writes l (l', [])
  | fails (fault : Fault) (hw : l.writing = true) :
      Writes l ({ l with queue := [], writing := false }, [.failed (.transport fault.message)])

theorem writeNext_writes (l : Link) (phase : Phase) : l.Writes (l.writeNext phase) := by
  cases hw : l.writing with
  | false =>
    rw [show l.writeNext phase = (l, []) by simp [writeNext, hw]]
    exact .goesOn rfl id
  | true =>
    cases hq : l.queue with
    | nil =>
      rw [writeNext_empty hq]
      exact .goesOn (rest_reading l phase) fun _ => hw
    | cons o queue =>
      unfold writeNext
      simp only [hw, hq]
      cases l.endpoint.write o with
      | error fault => exact .fails fault hw
      | ok r => exact .goesOn rfl fun _ => hw

theorem breakNext_writes (l : Link) (phase : Phase) (reason : String) :
    l.Writes (l.breakNext phase reason) := by
  unfold breakNext
  split
  · rename_i h
    exact .fails _ h.1
  · exact l.writeNext_writes phase

theorem Writes.stirs {l : Link} {r : Link × List Signal} (h : l.Writes r) (phase : Phase) :
    l.Stirs phase [] r.1 phase r.2 := by
  cases h with
  | goesOn hr hw => exact .quiet (fun _ => rfl) hr hw (Or.inl rfl)
  | fails fault hw => exact .fails rfl fault rfl hw rfl

end Parley.Connection.Link

namespace Parley.Manager

open Connection Socket

/-- A manager of one connection, which holds it and whose reader is at work while it is open. -/
structure Lone (m : Manager) : Prop where
  links : ∃ l, m.links = [l]
  phase : ∀ l, m.links = [l] → m.phase = .closed ∨ m.phase = .opened ∧ l.reading = true
  held : m.phase = .closed ∨ m.held ≠ none

theorem Lone.phase_cases {m : Manager} (h : m.Lone) : m.phase = .closed ∨ m.phase = .opened := by
  obtain ⟨l, hl⟩ := h.links
  exact (h.phase l hl).imp_right And.left

theorem Single.lone {m : Manager} (h : m.Single) : m.Lone := by
  cases h with
  | closed held h => exact ⟨⟨_, rfl⟩, fun _ _ => Or.inl rfl, Or.inl rfl⟩
  | opened h =>
    exact ⟨⟨_, rfl⟩, fun l hl => Or.inr ⟨rfl, List.singleton_inj.1 hl ▸ h.reading⟩,
      Or.inr (by simp)⟩

theorem Lone.release_closed {m : Manager} (h : m.Lone) : m.release.phase = .closed := by
  unfold release
  split
  · rename_i hheld
    exact h.held.resolve_right fun hne => hne hheld
  · rfl

/-- An operation that does one thing to the one connection of a manager, with these items for the
reader. -/
def Stirring (items : Endpoint → List Item) (f : Manager → Manager × List Signal) : Prop :=
  ∀ (m : Manager) (l : Link), m.links = [l] →
    ∃ l', (f m).1.links = [l'] ∧
      l.Stirs m.phase (items l.endpoint) l' (f m).1.phase (f m).2 ∧
      ((f m).1.phase = .closed ∨ (f m).1.held = m.held)

theorem Stirring.tame {items : Endpoint → List Item} {f : Manager → Manager × List Signal}
    (h : Stirring items f) : Tame (fun m => (f m).1) Lone where
  single m hm := by
    obtain ⟨l, hl⟩ := hm.links
    obtain ⟨l', hl', hs, hheld⟩ := h m l hl
    refine ⟨⟨l', hl'⟩, fun x hx => ?_, ?_⟩
    · obtain rfl : l' = x := List.singleton_inj.1 (hl'.symm.trans hx)
      exact hs.reader (hm.phase l hl)
    · rcases hm.held with hp | hp
      · exact Or.inl (hs.closed hp)
      · exact hheld.imp_right fun hsame => by rwa [hsame]
  closed m hm hp := by
    obtain ⟨l, hl⟩ := hm.links
    obtain ⟨l', -, hs, -⟩ := h m l hl
    exact hs.closed hp

theorem stirring_quiet {f : Manager → Manager}
    (h : ∀ (m : Manager) (l : Link), m.links = [l] → ∃ l', (f m).links = [l'] ∧
      l'.reading = l.reading ∧ (l'.writing = true → l.writing = true) ∧
        ((f m).phase = .closed ∨ (f m).phase = m.phase ∧ (f m).held = m.held)) :
    Stirring (fun _ => []) fun m => (f m, []) := by
  intro m l hl
  obtain ⟨l', hl', hr, hw, hp⟩ := h m l hl
  exact ⟨l', hl', .quiet (fun _ => rfl) hr hw (hp.symm.imp_left And.left), hp.imp_right And.right⟩

theorem enqueue_writing {l l' : Link} {o : Outbound} (h : l.enqueue o = .ok l') :
    l'.reading = l.reading ∧ l'.writing = l.writing := by
  unfold Link.enqueue at h
  split at h
  · rw [← Except.ok.inj h]
    exact ⟨rfl, rfl⟩
  · contradiction

theorem place_single {m : Manager} {l found : Link} {k : Nat} (h : m.links = [l])
    (hk : m.links[k]? = some found) : k = 0 ∧ found = l := by
  rw [h, List.getElem?_singleton] at hk
  split at hk
  · rename_i hzero
    exact ⟨hzero, (Option.some.inj hk).symm⟩
  · contradiction

theorem offer_single {m : Manager} {l : Link} (h : m.links = [l]) (k : Nat) (text : String) :
    ∃ l', (m.offer k text).2.links = [l'] ∧ l'.reading = l.reading ∧ l'.writing = l.writing ∧
      (m.offer k text).2.phase = m.phase ∧ (m.offer k text).2.held = m.held := by
  unfold offer
  split
  · exact ⟨l, h, rfl, rfl, rfl, rfl⟩
  · rename_i found hk
    obtain ⟨rfl, rfl⟩ := place_single h hk
    split
    · exact ⟨found, h, rfl, rfl, rfl, rfl⟩
    · rename_i l' hs
      unfold Link.send at hs
      split at hs
      · obtain ⟨hr, hw⟩ := enqueue_writing hs
        exact ⟨l', by simp [h], hr, hw, rfl, rfl⟩
      · contradiction

theorem enqueueClose_single {m : Manager} {l : Link} (h : m.links = [l]) (k : Nat) :
    ∃ l', (m.enqueueClose k).links = [l'] ∧ l'.reading = l.reading ∧ l'.writing = l.writing := by
  unfold enqueueClose
  split
  · exact ⟨l, h, rfl, rfl⟩
  · rename_i found hk
    obtain ⟨rfl, rfl⟩ := place_single h hk
    split
    · rename_i l' he
      obtain ⟨hr, hw⟩ := enqueue_writing he
      exact ⟨l', by simp [h], hr, hw⟩
    · exact ⟨found, h, rfl, rfl⟩

theorem stirring_sendThrough (text : String) :
    Stirring (fun _ => []) fun m => (Conduct.loose.sendThrough m 0 text).2 := by
  apply stirring_quiet (f := fun m => (m.offer 0 text).2)
  intro m l hl
  obtain ⟨l', hl', hr, hw, hp⟩ := offer_single hl 0 text
  exact ⟨l', hl', hr, fun h => hw.symm.trans h, Or.inr hp⟩

theorem send_loose (m : Manager) (text : String) :
    (m.send text Conduct.loose.sendThrough).2 =
      (m.held.elim m fun k => (m.offer k text).2, []) := by
  unfold Manager.send
  cases m.held <;> rfl

theorem stirring_send (text : String) :
    Stirring (fun _ => []) fun m => (m.send text Conduct.loose.sendThrough).2 := by
  simp only [send_loose]
  apply stirring_quiet
  intro m l hl
  cases hk : m.held with
  | none => exact ⟨l, hl, rfl, id, Or.inr ⟨rfl, hk⟩⟩
  | some k =>
    obtain ⟨l', hl', hr, hw, hp, hheld⟩ := offer_single hl k text
    exact ⟨l', hl', hr, fun h => hw.symm.trans h, Or.inr ⟨hp, hheld.trans hk⟩⟩

theorem stirring_close : Stirring (fun _ => []) Conduct.loose.close := by
  apply stirring_quiet (f := release)
  intro m l hl
  unfold release
  split
  · exact ⟨l, hl, rfl, id, Or.inr ⟨rfl, rfl⟩⟩
  · rename_i k _
    split
    · obtain ⟨l', hl', hr, hw⟩ := enqueueClose_single hl k
      exact ⟨l', hl', hr, fun h => hw.symm.trans h, Or.inl rfl⟩
    · exact ⟨l, hl, rfl, id, Or.inl rfl⟩

theorem stirring_task {items : Endpoint → List Item}
    {g : Link → Phase → Link × Phase × List Signal}
    (hg : ∀ (l : Link) (phase : Phase),
      l.Stirs phase (items l.endpoint) (g l phase).1 (g l phase).2.1 (g l phase).2.2) :
    Stirring items (·.onTask 0 g) := by
  intro m l hl
  have htask : m.onTask 0 g =
      ({ m with phase := (g l m.phase).2.1, links := [(g l m.phase).1] }, (g l m.phase).2.2) := by
    simp [onTask, hl]
  simp only [htask]
  exact ⟨_, rfl, hg l m.phase, Or.inr trivial⟩

theorem stirring_reader {items : Endpoint → List Item}
    {g : Link → Phase → Link × Phase × List Signal} (hg : Link.Reads items g) :
    Stirring items (·.onTask 0 g) :=
  stirring_task hg.stirs

theorem stirring_writer {g : Link → Phase → Link × List Signal}
    (hg : ∀ (l : Link) (phase : Phase), l.Writes (g l phase)) :
    Stirring (fun _ => []) (·.onTask 0 fun l phase => ((g l phase).1, phase, (g l phase).2)) :=
  stirring_task fun l phase => (hg l phase).stirs phase

theorem stirring_write : Stirring (fun _ => []) (·.write 0) :=
  stirring_writer fun l phase => l.writeNext_writes phase

theorem stirring_breakWrite (reason : String) : Stirring (fun _ => []) (·.breakWrite 0 reason) :=
  stirring_writer fun l phase => l.breakNext_writes phase reason

end Parley.Manager
