import Parley.Proofs.Conversation
import Parley.Proofs.Lines
import Parley.Shell.Desk

/-! A session over an input that is text. What is sent by then, what is in the channel and what is
unread make up the messages of the input at any time, so nothing is lost or changes places, and the
talk cannot leave before everything is sent. Each read leaves less unread, each take less in the
channel and each look fewer events, so reader and talk come to their ends in whatever order they
move. -/

namespace Parley.Shell.Desk

open Connection Socket

/-- No end of the connection is told before the talk leaves. -/
def Quiet (d : Desk) : Prop :=
  d.talk.leaving = false → ∀ e ∈ d.talk.waiting, Talk.ends e = false

instance (d : Desk) : Decidable d.Quiet :=
  inferInstanceAs (Decidable (d.talk.leaving = false → ∀ e ∈ d.talk.waiting, Talk.ends e = false))

/-- The server does not close first. -/
def ServerWaits (editor : String → String) (d : Desk) : List Move → Prop
  | [] => d.Quiet
  | m :: moves => d.Quiet ∧ ServerWaits editor (d.step editor m) moves

def ServerWaits.decide (editor : String → String) :
    (d : Desk) → (moves : List Move) → Decidable (ServerWaits editor d moves)
  | d, [] => inferInstanceAs (Decidable d.Quiet)
  | d, m :: moves =>
    have := ServerWaits.decide editor (d.step editor m) moves
    inferInstanceAs (Decidable (d.Quiet ∧ ServerWaits editor (d.step editor m) moves))

instance (editor : String → String) (d : Desk) (moves : List Move) :
    Decidable (ServerWaits editor d moves) :=
  ServerWaits.decide editor d moves

def endBy (d : Desk) : Move → Option Nat
  | .arrive octets => d.talk.endBy (.octets octets)
  | .hangUp cut => d.talk.endBy (.hangUp cut)
  | _ => none

/-- The code with which the server ends the connection in some moves. -/
def endedBy (editor : String → String) (d : Desk) : List Move → Option Nat
  | [] => none
  | m :: moves => (d.endBy m).or (endedBy editor (d.step editor m) moves)

/-- The talk goes on: the messages of the input have been sent, or are in the channel, or are in
lines that are not read yet. -/
structure Serves (editor : String → String) (d : Desk) (messages : List String)
    (envelopes : List Envelope) : Prop where
  talk : d.talk.Serving envelopes
  input : ∃ ls : List String, d.unread = ls.map Text.octets ∧ (d.reading = false → ls = []) ∧
    messages = envelopes.map (·.inner.body) ++
      (d.queue ++ ls.filterMap fun l => Input.message? (editor l))

/-- The talk has left, behind all messages of the input. -/
structure Closes (d : Desk) (messages : List String) (envelopes : List Envelope)
    (code : Option Nat) : Prop where
  talk : d.talk.Closing envelopes code
  reading : d.reading = false
  sent : envelopes.map (·.inner.body) = messages

variable {editor : String → String}

theorem read_stopped {d : Desk} (h : d.reading = false) : d.read editor = d := by
  simp [Desk.read, h]

theorem read_over {d : Desk} (h : d.unread = []) : d.read editor = { d with reading := false } := by
  cases d with
  | mk unread reading queue talk => cases reading <;> simp_all [Desk.read]

theorem read_text {d : Desk} {l : List UInt8} {ls : List (List UInt8)} {s : String}
    (hreading : d.reading = true) (hunread : d.unread = l :: ls)
    (htext : Text.ofOctets? l = some s) :
    d.read editor =
      { d with unread := ls, queue := d.queue ++ (Input.message? (editor s)).toList } := by
  simp [Desk.read, hreading, hunread, htext]

theorem read_broken {d : Desk} {l : List UInt8} {ls : List (List UInt8)}
    (hreading : d.reading = true) (hunread : d.unread = l :: ls)
    (hbroken : Text.ofOctets? l = none) :
    d.read editor =
      { d with unread := [], reading := false, talk := d.talk.print [Talk.brokenNotice] } := by
  simp [Desk.read, hreading, hunread, hbroken]

theorem take_gone {d : Desk} (h : d.talk.ended = true ∨ d.talk.leaving = true) : d.take = d :=
  if_pos h

section
variable {d : Desk} (hstays : ¬ (d.talk.ended = true ∨ d.talk.leaving = true))
include hstays

theorem take_message {message : String} {queue : List String}
    (hqueue : d.queue = message :: queue) :
    d.take = { d with queue := queue, talk := d.talk.turn (.typed message) } := by
  simp only [Desk.take, if_neg hstays, hqueue]

theorem take_waiting (hqueue : d.queue = []) (hreading : d.reading = true) : d.take = d := by
  simp only [Desk.take, if_neg hstays, hqueue, hreading, if_true]

theorem take_over (hqueue : d.queue = []) (hreading : d.reading = false) :
    d.take = { d with talk := d.talk.turn .inputOver } := by
  simp only [Desk.take, if_neg hstays, hqueue, hreading, Bool.false_eq_true, if_false]

end

theorem Serves.read {d : Desk} {messages : List String} {envelopes : List Envelope}
    (h : d.Serves editor messages envelopes) :
    (d.read editor).Serves editor messages envelopes := by
  obtain ⟨ls, hunread, hover, hmessages⟩ := h.input
  cases hreading : d.reading with
  | false =>
    rw [read_stopped hreading]
    exact h
  | true =>
    cases ls with
    | nil =>
      rw [read_over hunread]
      exact ⟨h.talk, [], hunread, fun _ => rfl, hmessages⟩
    | cons l ls =>
      rw [read_text hreading hunread (Text.ofOctets?_octets l)]
      refine ⟨h.talk, ls, rfl, fun hstopped => ?_, ?_⟩
      · exact absurd (hreading.symm.trans hstopped) (by decide)
      · rw [hmessages, List.append_assoc]
        cases hm : Input.message? (editor l) <;> simp [hm]

/-- The talk leaves only an empty channel behind a reader that has read everything. -/
theorem Serves.take {d : Desk} {messages : List String} {envelopes : List Envelope}
    (h : d.Serves editor messages envelopes) :
    (∃ envelopes, d.take.Serves editor messages envelopes) ∨
      d.take.Closes messages envelopes none := by
  obtain ⟨ls, hunread, hover, hmessages⟩ := h.input
  cases hqueue : d.queue with
  | cons message queue =>
    left
    rw [take_message h.talk.stays hqueue]
    refine ⟨_, h.talk.typed message, ls, hunread, hover, ?_⟩
    rw [hmessages, hqueue, List.map_append, List.append_assoc]
    rfl
  | nil =>
    cases hreading : d.reading with
    | true =>
      left
      rw [take_waiting h.talk.stays hqueue hreading]
      exact ⟨envelopes, h⟩
    | false =>
      right
      -- nothing is unread and nothing waits, so what has been sent is everything
      rw [hover hreading, hqueue] at hmessages
      rw [take_over h.talk.stays hqueue hreading]
      exact ⟨h.talk.leave, hreading, by simpa using hmessages.symm⟩

theorem Serves.arriving {d : Desk} {messages : List String} {envelopes : List Envelope}
    (h : d.Serves editor messages envelopes) {a : Link.Arrival}
    (hquiet : Quiet { d with talk := d.talk.arriving a }) :
    d.talk.endBy a = none ∧
      Serves editor { d with talk := d.talk.arriving a } messages envelopes := by
  obtain ⟨hend, htalk⟩ := h.talk.arriving (hquiet h.talk.leaving)
  exact ⟨hend, htalk, h.input⟩

theorem Serves.step {d : Desk} {messages : List String} {envelopes : List Envelope}
    (h : d.Serves editor messages envelopes) (m : Move) (hquiet : (d.step editor m).Quiet) :
    d.endBy m = none ∧
      ((∃ envelopes, (d.step editor m).Serves editor messages envelopes) ∨
        (d.step editor m).Closes messages envelopes none) := by
  cases m with
  | read => exact ⟨rfl, .inl ⟨envelopes, h.read⟩⟩
  | take => exact ⟨rfl, h.take⟩
  | hear => exact ⟨rfl, .inl ⟨envelopes, h.talk.hear, h.input⟩⟩
  | tick now => exact ⟨rfl, .inl ⟨envelopes, h.talk.tick now, h.input⟩⟩
  | giveUp => exact ⟨rfl, .inl ⟨envelopes, h.talk.giveUp, h.input⟩⟩
  | arrive octets =>
    rw [Desk.step, Talk.turn_arrive] at hquiet ⊢
    obtain ⟨hend, hserves⟩ := h.arriving hquiet
    exact ⟨hend, .inl ⟨envelopes, hserves⟩⟩
  | hangUp cut =>
    rw [Desk.step, Talk.turn_hangUp] at hquiet ⊢
    obtain ⟨hend, hserves⟩ := h.arriving hquiet
    exact ⟨hend, .inl ⟨envelopes, hserves⟩⟩

theorem Closes.step {d : Desk} {messages : List String} {envelopes : List Envelope}
    {code : Option Nat} (h : d.Closes messages envelopes code) (m : Move) :
    (d.step editor m).Closes messages envelopes (code.or (d.endBy m)) := by
  have hkeeps : code.or none = code := Option.or_none
  cases m with
  | read =>
    rw [Desk.step, read_stopped h.reading]
    exact hkeeps.symm ▸ h
  | take =>
    rw [Desk.step, take_gone (.inr h.talk.leaving)]
    exact hkeeps.symm ▸ h
  | hear => exact ⟨hkeeps.symm ▸ h.talk.hear, h.reading, h.sent⟩
  | tick now => exact ⟨hkeeps.symm ▸ h.talk.tick now, h.reading, h.sent⟩
  | giveUp => exact ⟨hkeeps.symm ▸ h.talk.giveUp.2, h.reading, h.sent⟩
  | arrive octets =>
    refine ⟨?_, h.reading, h.sent⟩
    rw [Desk.step, Talk.turn_arrive]
    exact h.talk.arriving _
  | hangUp cut =>
    refine ⟨?_, h.reading, h.sent⟩
    rw [Desk.step, Talk.turn_hangUp]
    exact h.talk.arriving _

theorem ServerWaits.quiet {d : Desk} {moves : List Move} (h : ServerWaits editor d moves) :
    d.Quiet := by
  cases moves with
  | nil => exact h
  | cons m moves => exact h.1

theorem serverWaits_append {d : Desk} {front back : List Move} :
    ServerWaits editor d (front ++ back) ↔
      ServerWaits editor d front ∧ ServerWaits editor (d.run editor front) back := by
  induction front generalizing d with
  | nil => exact ⟨fun h => ⟨h.quiet, h⟩, fun h => h.2⟩
  | cons m front ih =>
    simp only [List.cons_append, ServerWaits, ih, and_assoc]
    rfl

theorem run_append (d : Desk) (front back : List Move) :
    d.run editor (front ++ back) = (d.run editor front).run editor back :=
  List.foldl_append ..

theorem Closes.run {d : Desk} {messages : List String} {envelopes : List Envelope}
    {code : Option Nat} (h : d.Closes messages envelopes code) (moves : List Move) :
    (d.run editor moves).Closes messages envelopes (code.or (d.endedBy editor moves)) := by
  induction moves generalizing d code with
  | nil =>
    rw [endedBy, Option.or_none]
    exact h
  | cons m moves ih =>
    rw [endedBy, ← Option.or_assoc]
    exact ih (h.step m)

/-- The talk goes on, and the server has not ended the connection, or it has left. -/
theorem Serves.run {d : Desk} {messages : List String} {envelopes : List Envelope}
    (h : d.Serves editor messages envelopes) {moves : List Move}
    (hwaits : ServerWaits editor d moves) :
    (d.endedBy editor moves = none ∧
        ∃ envelopes, (d.run editor moves).Serves editor messages envelopes) ∨
      ∃ envelopes, (d.run editor moves).Closes messages envelopes (d.endedBy editor moves) := by
  induction moves generalizing d envelopes with
  | nil => exact .inl ⟨rfl, envelopes, h⟩
  | cons m moves ih =>
    obtain ⟨hend, hserves | hcloses⟩ := h.step m hwaits.2.quiet
    · obtain ⟨envelopes', hserves⟩ := hserves
      rw [endedBy, hend, Option.none_or]
      exact ih hserves hwaits.2
    · -- the talk has left with this move, and the others come on its way out
      rw [endedBy, hend, Option.none_or]
      exact .inr ⟨envelopes, hcloses.run moves⟩

/-- The reads that are left. -/
def left (d : Desk) : Nat := if d.reading then d.unread.length + 1 else 0

/-- The takes that are left once the reader is done. -/
def due (d : Desk) : Nat := if d.talk.ended ∨ d.talk.leaving then 0 else d.queue.length + 1

/-- The events that are left once the connection has ended. -/
def unheard (d : Desk) : Nat := if d.talk.isOver then 0 else d.talk.waiting.length

theorem left_eq_zero {d : Desk} : d.left = 0 ↔ d.reading = false := by
  cases h : d.reading <;> simp [left, h]

theorem left_read (d : Desk) : (d.read editor).left ≤ d.left - 1 := by
  cases hreading : d.reading with
  | false =>
    rw [read_stopped hreading, left_eq_zero.2 hreading]
  | true =>
    cases hunread : d.unread with
    | nil =>
      rw [read_over hunread]
      exact Nat.zero_le _
    | cons l ls =>
      cases htext : Text.ofOctets? l with
      | none =>
        rw [read_broken hreading hunread htext]
        exact Nat.zero_le _
      | some s =>
        rw [read_text hreading hunread htext]
        simp [left, hreading, hunread]

theorem left_take (d : Desk) : d.take.left = d.left := by
  unfold Desk.take
  split
  · rfl
  · split
    · rfl
    · split <;> rfl

theorem left_step (editor : String → String) (d : Desk) (m : Move) :
    (d.step editor m).left ≤ d.left - [m].count .read := by
  cases m with
  | read => exact left_read d
  | take => exact (left_take d).le
  | _ => exact Nat.le_refl d.left

theorem reading_step {d : Desk} (h : d.reading = false) (m : Move) :
    (d.step editor m).reading = false := by
  have hstep := left_step editor d m
  rw [left_eq_zero.2 h, Nat.zero_sub, Nat.le_zero] at hstep
  exact left_eq_zero.1 hstep

theorem due_turn (d : Desk) (a : Turn) : due { d with talk := d.talk.turn a } ≤ d.due := by
  have hpasses := d.talk.passes a
  unfold due
  split
  · exact Nat.zero_le _
  · rename_i hstays
    rw [if_neg]
    rintro (hended | hleaving)
    · exact hstays (.inl (by rw [hpasses.ended, hended, Bool.true_or]))
    · exact hstays (.inr (hpasses.leaving hleaving))

theorem due_take {d : Desk} (h : d.reading = false) : d.take.due ≤ d.due - 1 := by
  by_cases hstays : d.talk.ended = true ∨ d.talk.leaving = true
  · have hover : d.due = 0 := if_pos hstays
    rw [take_gone hstays, hover]
  · have hdue : d.due = d.queue.length + 1 := if_neg hstays
    cases hqueue : d.queue with
    | cons message queue =>
      have hturn := due_turn { d with queue := queue } (.typed message)
      have hrest : due { d with queue := queue } = queue.length + 1 := if_neg hstays
      rw [take_message hstays hqueue, hdue, hqueue]
      exact hturn.trans hrest.le
    | nil =>
      have hleaves : (d.talk.turn .inputOver).leaving = true := by
        simp only [Talk.turn, if_neg hstays]
        rfl
      rw [take_over hstays hqueue h]
      simp [due, hleaves]

theorem due_step {d : Desk} (h : d.reading = false) (m : Move) :
    (d.step editor m).due ≤ d.due - [m].count .take := by
  cases m with
  | read =>
    rw [Desk.step, read_stopped h]
    exact Nat.le_refl d.due
  | take => exact due_take h
  | hear => exact due_turn d _
  | arrive octets => exact due_turn d _
  | hangUp cut => exact due_turn d _
  | tick now => exact due_turn d _
  | giveUp => exact due_turn d _

/-- Where each move of one kind takes one from a measure, some moves take as many as there are of
that kind among them. -/
theorem falls (editor : String → String) {f : Desk → Nat} {kind : Move} {p : Desk → Prop}
    (hkeeps : ∀ d m, p d → p (d.step editor m))
    (hstep : ∀ d m, p d → f (d.step editor m) ≤ f d - [m].count kind)
    {d : Desk} (h : p d) (moves : List Move) :
    f (d.run editor moves) ≤ f d - moves.count kind := by
  induction moves generalizing d with
  | nil => exact Nat.le_refl _
  | cons m moves ih =>
    have hcount : (m :: moves).count kind = [m].count kind + moves.count kind :=
      @List.count_append _ _ _ [m] moves
    calc f ((d.step editor m).run editor moves)
        ≤ f (d.step editor m) - moves.count kind := ih (hkeeps d m h)
      _ ≤ f d - [m].count kind - moves.count kind := Nat.sub_le_sub_right (hstep d m h) _
      _ = f d - (m :: moves).count kind := by omega

theorem left_run (editor : String → String) (d : Desk) (moves : List Move) :
    (d.run editor moves).left ≤ d.left - moves.count .read :=
  falls editor (p := fun _ => True) (fun _ _ => id) (fun d m _ => left_step editor d m) trivial
    moves

theorem due_run (editor : String → String) {d : Desk} (h : d.reading = false)
    (moves : List Move) : (d.run editor moves).due ≤ d.due - moves.count .take :=
  falls editor (p := fun d => d.reading = false) (fun _ m hreading => reading_step hreading m)
    (fun _ m hreading => due_step hreading m) h moves

theorem unheard_le (d : Desk) : d.unheard ≤ d.talk.waiting.length := by
  unfold unheard
  split
  · exact Nat.zero_le _
  · exact Nat.le_refl _

theorem unheard_hear (d : Desk) : unheard { d with talk := d.talk.turn .hear } ≤ d.unheard - 1 := by
  have hpasses := d.talk.passes .hear
  cases hover : d.talk.isOver with
  | true =>
    have hstill : (d.talk.turn .hear).isOver = true := Talk.isOver_turn hover .hear
    have hnone : unheard { d with talk := d.talk.turn .hear } = 0 := if_pos hstill
    exact hnone ▸ Nat.zero_le _
  | false =>
    have hall : d.unheard = d.talk.waiting.length := if_neg (by simp [hover])
    have htaken : d.talk.taken .hear = d.talk.waiting.head?.toList := by simp [Talk.taken, hover]
    have hchannel := congrArg List.length hpasses.channel
    rw [htaken, Talk.told, List.append_nil, List.length_append] at hchannel
    have hrest : (d.talk.turn .hear).waiting.length = d.talk.waiting.length - 1 := by
      have hfirst : d.talk.waiting.head?.toList.length = min 1 d.talk.waiting.length := by
        cases d.talk.waiting <;> simp
      omega
    rw [hall, ← hrest]
    exact unheard_le { d with talk := d.talk.turn .hear }

theorem Closes.unheard_step {d : Desk} {messages : List String} {envelopes : List Envelope}
    {code : Nat} (h : d.Closes messages envelopes (some code)) (m : Move) :
    (d.step editor m).unheard ≤ d.unheard - [m].count .hear := by
  have harriving : ∀ a, unheard { d with talk := d.talk.arriving a } ≤ d.unheard := by
    intro a
    have hwaiting := h.talk.arriving_waiting a
    have hover : (d.talk.arriving a).isOver = d.talk.isOver := rfl
    simp only [unheard, hwaiting, hover, Nat.le_refl]
  cases m with
  | read =>
    rw [Desk.step, read_stopped h.reading]
    exact Nat.le_refl d.unheard
  | take =>
    rw [Desk.step, take_gone (.inr h.talk.leaving)]
    exact Nat.le_refl d.unheard
  | hear => exact unheard_hear d
  | tick now => exact Nat.le_refl d.unheard
  | giveUp =>
    have hnone : unheard { d with talk := d.talk.turn .giveUp } = 0 := if_pos h.talk.giveUp.1
    exact hnone ▸ Nat.zero_le _
  | arrive octets =>
    rw [Desk.step, Talk.turn_arrive]
    exact harriving _
  | hangUp cut =>
    rw [Desk.step, Talk.turn_hangUp]
    exact harriving _

/-- Once the connection has ended and the talk has looked at everything, the talk is over. -/
theorem Closes.ends {d : Desk} {messages : List String} {envelopes : List Envelope} {code : Nat}
    (h : d.Closes messages envelopes (some code)) {moves : List Move}
    (hhears : d.talk.waiting.length ≤ moves.count .hear) :
    (d.run editor moves).talk.isOver = true := by
  have hfalls := falls editor (f := unheard) (p := fun d => d.Closes messages envelopes (some code))
    (fun _ m hcloses => hcloses.step m) (fun _ m hcloses => hcloses.unheard_step m) h moves
  have hstart := unheard_le d
  have hcloses : (d.run editor moves).Closes messages envelopes (some code) := h.run moves
  cases hcloses.talk.told with
  | shown hended _ _ _ => exact Talk.isOver_eq_true.2 (.inl hended)
  | lapsed _ hgivenUp _ _ => exact Talk.isOver_eq_true.2 (.inr hgivenUp)
  | waiting hover _ hwaiting _ =>
    have hleft : (d.run editor moves).unheard = (d.run editor moves).talk.waiting.length := by
      simp [unheard, hover]
    rw [hwaiting, List.length_append, List.length_singleton] at hleft
    omega

theorem Serves.due {d : Desk} {messages : List String} {envelopes : List Envelope}
    (h : d.Serves editor messages envelopes) : d.due = d.queue.length + 1 :=
  if_neg h.talk.stays

/-- Once the reader has come to the end of the input, and the talk to that of the channel, the talk
has left. -/
theorem Serves.leaves {d : Desk} {messages : List String} {envelopes : List Envelope}
    (h : d.Serves editor messages envelopes) {front back : List Move}
    (hwaits : ServerWaits editor d (front ++ back))
    (hreads : d.unread.length < front.count .read) (htakes : messages.length < back.count .take) :
    (d.run editor (front ++ back)).talk.leaving = true := by
  obtain ⟨hfront, hback⟩ := serverWaits_append.1 hwaits
  rw [run_append]
  obtain ⟨-, envelopes', hserves⟩ | ⟨envelopes', hcloses⟩ := h.run hfront
  · have hreading : (d.run editor front).reading = false := by
      have hleft := left_run editor d front
      have hstart : d.left ≤ d.unread.length + 1 := by unfold left; split <;> omega
      exact left_eq_zero.1 (by omega)
    obtain ⟨-, envelopes'', hstill⟩ | ⟨envelopes'', hcloses⟩ := hserves.run hback
    · -- a talk that still goes on would have a take left
      exfalso
      obtain ⟨ls, -, -, hmessages⟩ := hserves.input
      have hqueue : (d.run editor front).queue.length ≤ messages.length := by
        rw [hmessages, List.length_append, List.length_append]
        omega
      have hdue := due_run editor hreading back
      rw [hserves.due, hstill.due] at hdue
      omega
    · exact hcloses.talk.leaving
  · exact (hcloses.run back).talk.leaving

/-- The messages in a text: its lines that are not blank, without the blanks around them. -/
def messagesOf (editor : String → String) (text : String) : List String :=
  ((Input.linesOf text).map fun l => Input.trimmed (editor l)).filter (· ≠ "")

def setup : Setup :=
  ⟨⟨"ada", "secret", "localhost", 3000, false, .standard, "info"⟩, Filter.bare, ""⟩

theorem run_reads (editor : String → String) {d : Desk} {ls : List String}
    (hreading : d.reading = true) (hunread : d.unread = ls.map Text.octets) :
    d.run editor (List.replicate (ls.length + 1) .read) =
      ⟨[], false, d.queue ++ ls.filterMap fun l => Input.message? (editor l), d.talk⟩ := by
  induction ls generalizing d with
  | nil =>
    have hstep : d.run editor [.read] = { d with reading := false } := read_over hunread
    have hnone : d.unread = [] := hunread
    rw [List.filterMap_nil, List.append_nil, ← hnone]
    exact hstep
  | cons l ls ih =>
    have hstep : d.step editor .read =
        { d with unread := ls.map Text.octets
                 queue := d.queue ++ (Input.message? (editor l)).toList } :=
      read_text hreading hunread (Text.ofOctets?_octets l)
    have hrest := ih (d := d.step editor .read) (by rw [hstep]; exact hreading) (by rw [hstep])
    rw [List.length_cons, List.replicate_succ]
    refine hrest.trans ?_
    rw [hstep]
    cases hm : Input.message? (editor l) <;> simp [hm]

theorem run_takes {d : Desk} (hreading : d.reading = false)
    (hstays : ¬ (d.talk.ended = true ∨ d.talk.leaving = true)) :
    (d.run editor (List.replicate (d.queue.length + 1) .take)).talk =
      d.talk.turns (d.queue.map .typed ++ [.inputOver]) := by
  cases d with
  | mk unread reading queue talk =>
    induction queue generalizing talk with
    | nil => exact congrArg Desk.talk (take_over hstays rfl hreading)
    | cons message queue ih =>
      have hturn : talk.turn (.typed message) = talk.type message := if_neg hstays
      obtain ⟨hended, -, hleaving⟩ := talk.type_same message
      have hrest := ih (talk.turn (.typed message)) hreading
        (by rw [hturn, hended, hleaving]; exact hstays)
      have hstep : Desk.step editor ⟨unread, reading, message :: queue, talk⟩ .take =
          ⟨unread, reading, queue, talk.turn (.typed message)⟩ :=
        take_message hstays rfl
      rw [List.length_cons, List.replicate_succ]
      refine Eq.trans ?_ hrest
      rw [run, List.foldl_cons, hstep]
      rfl

/-- Where the reader goes first and the talk then, the talk takes the turns of the program. -/
theorem run_in_order {talk : Talk} (hstays : ¬ (talk.ended = true ∨ talk.leaving = true))
    (text : String) :
    ((start talk (Text.octets text)).run Input.takeBack
        (List.replicate ((Input.linesOf text).length + 1) .read ++
          List.replicate ((messagesOf Input.takeBack text).length + 1) .take)).talk =
      talk.turns (Talk.turnsOf (Input.lines (Text.octets text)) ++ [.inputOver]) := by
  have hreads := run_reads Input.takeBack (d := start talk (Text.octets text)) rfl
    (Input.lines_octets text)
  have hmessages := Input.filterMap_message? Input.takeBack (Input.linesOf text)
  rw [run_append, hreads, Input.turnsOf_octets, hmessages]
  exact run_takes (d := ⟨[], false, messagesOf Input.takeBack text, talk⟩) rfl hstays

end Parley.Shell.Desk
