import Parley.Proofs.ReceivedLog
import Parley.Shell.Talk

/-! What a talk shows of the events that its client tells it. They wait in a channel, are taken off
it in their order, and each that is taken while the talk goes on is shown. Behind the end of the
input all are passed over but the end of the connection: what waits by then, and what comes later,
is never shown. The kinds of output are told apart by the text itself, by the character behind the
line feed that it starts with. -/

namespace Parley

deriving instance DecidableEq for Event

namespace Shell

/-- The character behind the line feed in front of a text. -/
def Output.mark : Output → Option Char
  | .text s => if s.toList.head? = some '\n' then s.toList.tail.head? else none
  | .notice _ => none

def Output.isReport (out : Output) : Bool :=
  out.mark = some '\n' ∨ out.mark = some '!' ∨ out.mark = some 'C'

namespace Talk

def report (me : String) : Event → Option Output
  | .connected _ => none
  | .message m => some (.text (messageText m me))
  | .failed f => some (.text (failureText f))
  | .disconnected code => some (.text (closedText code))

theorem isOver_eq_true {t : Talk} : t.isOver = true ↔ t.ended = true ∨ t.givenUp = true :=
  Bool.or_eq_true_iff

theorem isOver_eq_false {t : Talk} : t.isOver = false ↔ t.ended = false ∧ t.givenUp = false :=
  Bool.or_eq_false_iff

/-- The events that a turn puts into the channel. -/
def told (t : Talk) : Turn → List Event
  | .typed message => if t.ended ∨ t.leaving then [] else (t.client.send t.chatId message).2.2
  | .inputOver | .inputBroken => if t.ended ∨ t.leaving then [] else t.client.disconnect.2
  | .arrive octets => (t.client.onSession t.connection (·.receive 0 octets)).2
  | .hangUp cut => (t.client.onSession t.connection (·.hangUp 0 cut)).2
  | .hear | .tick _ | .giveUp => []

/-- The event that a turn takes off the channel. -/
def taken (t : Talk) : Turn → List Event
  | .hear => if t.isOver then [] else t.waiting.head?.toList
  | _ => []

structure Step where
  before : Talk
  turn : Turn

def steps : Talk → List Turn → List Step
  | _, [] => []
  | t, a :: ts => ⟨t, a⟩ :: steps (t.turn a) ts

namespace Step

def told (s : Step) : List Event := s.before.told s.turn

def taken (s : Step) : List Event := s.before.taken s.turn

/-- The event that is taken while the talk goes on. -/
def seen (s : Step) : List Event := if s.before.leaving then [] else s.taken

/-- The event that is taken on the way out. -/
def drained (s : Step) : List Event := if s.before.leaving then s.taken else []

def reported (s : Step) : List Event := s.taken.filter fun e => !s.before.leaving || ends e

end Step

/-- Everything in front of the end of the connection is shown, once and in its order, and then the
end. -/
def ShowsAll (t : Talk) (events : List Event) : Prop :=
  ∃ front code later, events = front ++ .disconnected code :: later ∧
    (∀ e ∈ front, ends e = false) ∧
    t.shown.filter Output.isReport =
      front.filterMap (report t.user.id) ++ [.text (closedText code)]

theorem mark_append {s : String} {c : Char} (h : (Output.text s).mark = some c) (s' : String) :
    (Output.text (s ++ s')).mark = some c := by
  obtain ⟨hfirst, hsecond⟩ : s.toList.head? = some '\n' ∧ s.toList.tail.head? = some c := by
    simpa [Output.mark] using h
  cases hs : s.toList with
  | nil => simp [hs] at hfirst
  | cons d cs =>
    cases cs with
    | nil => simp [hs] at hsecond
    | cons e cs =>
      rw [hs] at hfirst hsecond
      simpa [Output.mark, hs] using And.intro hfirst hsecond

theorem mark_messageText (m : Message) (me : String) :
    (Output.text (messageText m me)).mark = some '\n' := by
  unfold messageText
  iterate 10 apply mark_append
  decide

theorem mark_failureText (f : Failure) : (Output.text (failureText f)).mark = some '!' := by
  unfold failureText
  iterate 2 apply mark_append
  decide

theorem mark_closedText (code : Nat) : (Output.text (closedText code)).mark = some 'C' := by
  unfold closedText
  iterate 2 apply mark_append
  decide

theorem mark_receipt (createdAt : Instant) :
    (Output.text ("\n" ++ sentText createdAt)).mark = some 's' := by
  unfold sentText
  rw [← String.append_assoc, ← String.append_assoc]
  iterate 2 apply mark_append
  decide

theorem mark_connectedText (user : User) (chatId : String) :
    (Output.text (connectedText user chatId)).mark = some '=' := by
  unfold connectedText
  iterate 9 apply mark_append
  decide

theorem mark_helloText : (Output.text helloText).mark = none := by decide

theorem mark_prompt : (Output.text prompt).mark = none := by decide

theorem isReport_of_mark {out : Output} {c : Option Char} (h : out.mark = c) :
    out.isReport = decide (c = some '\n' ∨ c = some '!' ∨ c = some 'C') := by
  rw [Output.isReport, h]

theorem reports_shownOf (t : Talk) (e : Event) :
    (t.shownOf e).filter Output.isReport = (report t.user.id e).toList := by
  have hprompt : (Output.text prompt).isReport = false := isReport_of_mark mark_prompt
  cases e with
  | connected user => rfl
  | message m =>
    have hreport := isReport_of_mark (mark_messageText m t.user.id)
    simp [shownOf, report, hprompt, hreport]
  | failed f =>
    have hreport := isReport_of_mark (mark_failureText f)
    simp [shownOf, report, hprompt, hreport]
  | disconnected code =>
    have hreport := isReport_of_mark (mark_closedText code)
    simp [shownOf, report, hreport]

theorem filter_notices {p : Output → Bool} (h : ∀ n, p (.notice n) = false)
    (events : List Event) : (events.flatMap noticeOf).filter p = [] := by
  rw [List.filter_flatMap, List.flatMap_eq_nil_iff]
  intro e _
  cases e with
  | failed f => cases f <;> simp [noticeOf, warn, h]
  | _ => rfl

theorem reports_notices (events : List Event) :
    (events.flatMap noticeOf).filter Output.isReport = [] :=
  filter_notices (fun _ => rfl) events

/-- What one turn does to the channel and to what is shown of it. -/
structure Passes (t : Talk) (a : Turn) : Prop where
  channel : t.waiting ++ t.told a = t.taken a ++ (t.turn a).waiting
  shown : (t.turn a).shown.filter Output.isReport =
    t.shown.filter Output.isReport ++
      (Step.reported ⟨t, a⟩).filterMap (report t.user.id)
  ended : (t.turn a).ended = (t.ended || (t.taken a).any ends)
  user : (t.turn a).user = t.user
  leaving : t.leaving = true → (t.turn a).leaving = true

theorem Passes.of_quiet {t : Talk} {a : Turn} {out : List Output} (htaken : t.taken a = [])
    (hwaiting : (t.turn a).waiting = t.waiting ++ t.told a)
    (hshown : (t.turn a).shown = t.shown ++ out) (hout : out.filter Output.isReport = [])
    (hended : (t.turn a).ended = t.ended) (huser : (t.turn a).user = t.user)
    (hleaving : t.leaving = true → (t.turn a).leaving = true) : t.Passes a where
  channel := by rw [hwaiting, htaken, List.nil_append]
  shown := by simp [hshown, Step.reported, Step.taken, htaken, hout]
  ended := by simp [hended, htaken]
  user := huser
  leaving := hleaving

theorem Passes.of_idle {t : Talk} {a : Turn} (h : t.turn a = t) (htold : t.told a = [])
    (htaken : t.taken a = []) : t.Passes a :=
  .of_quiet htaken (by rw [h, htold, List.append_nil]) (by rw [h, List.append_nil])
    List.filter_nil (by rw [h]) (by rw [h]) (by rw [h]; exact id)

theorem type_shown (t : Talk) (message : String) :
    ∃ out, (t.type message).shown = t.shown ++ out ∧ out.filter Output.isReport = [] := by
  have hprompt : (Output.text prompt).isReport = false := isReport_of_mark mark_prompt
  unfold type
  split
  · rename_i client events _
    refine ⟨_, by rw [print, tell, List.append_assoc], ?_⟩
    rw [List.filter_append, reports_notices, List.nil_append, List.filter_append]
    split
    · rename_i e _
      have hreceipt := isReport_of_mark (mark_receipt e.inner.createdAt)
      simp [hreceipt, hprompt]
    · simp [hprompt]
  · refine ⟨_, by rw [print, tell, List.append_assoc], ?_⟩
    rw [List.filter_append, reports_notices, List.nil_append]
    have hwarn (part text : String) : (warn part text).isReport = false := rfl
    simp [hwarn, hprompt]

theorem type_waiting (t : Talk) (message : String) :
    (t.type message).waiting = t.waiting ++ (t.client.send t.chatId message).2.2 := by
  unfold type
  split <;> rename_i h <;> rw [h] <;> rfl

theorem type_same (t : Talk) (message : String) :
    (t.type message).ended = t.ended ∧ (t.type message).user = t.user ∧
      (t.type message).leaving = t.leaving := by
  unfold type
  split <;> exact ⟨rfl, rfl, rfl⟩

theorem hear_passes (t : Talk) : t.Passes .hear := by
  cases hover : t.isOver with
  | true => exact .of_idle (by simp [turn, hover]) rfl (by simp [taken, hover])
  | false =>
    obtain ⟨hended, -⟩ := isOver_eq_false.1 hover
    cases hwaiting : t.waiting with
    | nil =>
      exact .of_idle (by simp [turn, hear, hwaiting]) rfl (by simp [taken, hwaiting])
    | cons e waiting =>
      have htaken : t.taken .hear = [e] := by simp [taken, hover, hwaiting]
      have hturn : t.turn .hear = if t.leaving ∧ ¬ ends e then
          { t with waiting := waiting, ended := ends e }
          else { t with waiting := waiting, ended := ends e }.print
            ({ t with waiting := waiting, ended := ends e }.shownOf e) := by
        simp only [turn, hover, Bool.false_eq_true, if_false, hear, hwaiting]
      by_cases hpassed : t.leaving ∧ ¬ ends e
      · -- on the way out nothing is shown but the end
        rw [if_pos hpassed] at hturn
        obtain ⟨hleaving, hgoes⟩ := hpassed
        refine ⟨?_, ?_, ?_, ?_, ?_⟩
        · rw [hturn, htaken, hwaiting, told, List.append_nil]
          rfl
        · rw [hturn, Step.reported, Step.taken, htaken]
          simp [hleaving, hgoes]
        · rw [hturn, htaken]
          simp [hended]
        · rw [hturn]
        · rw [hturn]
          exact id
      · rw [if_neg hpassed] at hturn
        have hshows : (!t.leaving || ends e) = true := by
          cases hl : t.leaving
          · rfl
          · simpa [hl] using hpassed
        refine ⟨?_, ?_, ?_, ?_, ?_⟩
        · rw [hturn, htaken, hwaiting, told, List.append_nil]
          rfl
        · have hfilter : [e].filter (fun e => !t.leaving || ends e) = [e] :=
            List.filter_cons_of_pos (p := fun e => !t.leaving || ends e) hshows
          rw [hturn, Step.reported, Step.taken, htaken, hfilter]
          simp only [print, List.filter_append, reports_shownOf]
          cases hreport : report t.user.id e <;> simp [hreport]
        · rw [hturn, htaken]
          simp [hended, print]
        · rw [hturn]
          rfl
        · rw [hturn]
          exact id

theorem passes (t : Talk) (a : Turn) : t.Passes a := by
  cases a with
  | typed message =>
    by_cases hover : t.ended ∨ t.leaving
    · exact .of_idle (by simp [turn, hover]) (by simp [told, hover]) rfl
    · have hturn : t.turn (.typed message) = t.type message := by simp only [turn, if_neg hover]
      obtain ⟨out, hshown, hout⟩ := t.type_shown message
      obtain ⟨hended, huser, hleaving⟩ := t.type_same message
      have hwaiting := t.type_waiting message
      rw [← hturn] at hshown hended huser hleaving hwaiting
      exact .of_quiet rfl (by rw [hwaiting, told, if_neg hover]) hshown hout hended huser
        fun h => hleaving.trans h
  | inputOver =>
    by_cases hover : t.ended ∨ t.leaving
    · exact .of_idle (by simp [turn, hover]) (by simp [told, hover]) rfl
    · have hturn : t.turn .inputOver = t.leave := by simp only [turn, if_neg hover]
      exact .of_quiet rfl (by rw [hturn, told, if_neg hover]; rfl) (by rw [hturn]; rfl)
        (reports_notices _) (by rw [hturn]; rfl) (by rw [hturn]; rfl)
        (by rw [hturn]; exact fun _ => rfl)
  | inputBroken =>
    by_cases hover : t.ended ∨ t.leaving
    · exact .of_idle (by simp [turn, hover]) (by simp [told, hover]) rfl
    · have hturn : t.turn .inputBroken = (t.print [brokenNotice]).leave := by
        simp only [turn, if_neg hover]
      have hshown : (t.turn .inputBroken).shown =
          t.shown ++ (brokenNotice :: t.client.disconnect.2.flatMap noticeOf) := by
        rw [hturn]
        simp [leave, tell, print]
      exact .of_quiet rfl (by rw [hturn, told, if_neg hover]; rfl) hshown
        (reports_notices _) (by rw [hturn]; rfl) (by rw [hturn]; rfl)
        (by rw [hturn]; exact fun _ => rfl)
  | hear => exact t.hear_passes
  | arrive octets => exact .of_quiet rfl rfl rfl (reports_notices _) rfl rfl id
  | hangUp cut => exact .of_quiet rfl rfl rfl (reports_notices _) rfl rfl id
  | tick now =>
    exact .of_quiet rfl (List.append_nil _).symm (List.append_nil _).symm List.filter_nil rfl rfl id
  | giveUp =>
    by_cases hlapses : t.leaving ∧ ¬ t.isOver
    · have hturn : t.turn .giveUp = t.giveUp := if_pos hlapses
      exact .of_quiet rfl (by rw [hturn, told, List.append_nil]; rfl) (by rw [hturn]; rfl) rfl
        (by rw [hturn]; rfl) (by rw [hturn]; rfl) (by rw [hturn]; exact id)
    · exact .of_idle (if_neg hlapses) rfl rfl

theorem channel_of_run (t : Talk) (ts : List Turn) :
    t.waiting ++ (t.steps ts).flatMap Step.told =
      (t.steps ts).flatMap Step.taken ++ (t.turns ts).waiting := by
  induction ts generalizing t with
  | nil => simp [steps, turns]
  | cons a ts ih =>
    calc t.waiting ++ (t.told a ++ ((t.turn a).steps ts).flatMap Step.told)
        = t.taken a ++ ((t.turn a).waiting ++ ((t.turn a).steps ts).flatMap Step.told) := by
          rw [← List.append_assoc, (t.passes a).channel, List.append_assoc]
      _ = t.taken a ++ (((t.turn a).steps ts).flatMap Step.taken ++
            ((t.turn a).turns ts).waiting) := by rw [ih]
      _ = _ := (List.append_assoc _ _ _).symm

theorem user_of_run (t : Talk) (ts : List Turn) : (t.turns ts).user = t.user := by
  induction ts generalizing t with
  | nil => rfl
  | cons a ts ih => exact (ih (t.turn a)).trans (t.passes a).user

theorem shown_of_run (t : Talk) (ts : List Turn) :
    (t.turns ts).shown.filter Output.isReport =
      t.shown.filter Output.isReport ++
        ((t.steps ts).flatMap Step.reported).filterMap (report t.user.id) := by
  induction ts generalizing t with
  | nil => simp [steps, turns]
  | cons a ts ih =>
    have hrest := ih (t.turn a)
    rw [(t.passes a).user, (t.passes a).shown, List.append_assoc, ← List.filterMap_append] at hrest
    exact hrest

theorem ended_of_run (t : Talk) (ts : List Turn) :
    (t.turns ts).ended = (t.ended || ((t.steps ts).flatMap Step.taken).any ends) := by
  induction ts generalizing t with
  | nil => simp [steps, turns]
  | cons a ts ih =>
    have hrest := ih (t.turn a)
    rw [(t.passes a).ended, Bool.or_assoc, ← List.any_append] at hrest
    exact hrest

theorem taken_of_ended {t : Talk} (h : t.ended = true) (ts : List Turn) :
    (t.steps ts).flatMap Step.taken = [] := by
  induction ts generalizing t with
  | nil => rfl
  | cons a ts ih =>
    have hover : t.isOver = true := isOver_eq_true.2 (.inl h)
    have hnow : t.taken a = [] := by cases a <;> simp [taken, hover]
    have hthen : (t.turn a).ended = true := by rw [(t.passes a).ended, h, Bool.true_or]
    exact List.append_eq_nil_iff.2 ⟨hnow, ih hthen⟩

theorem taken_cases (t : Talk) (a : Turn) : t.taken a = [] ∨ ∃ e, t.taken a = [e] := by
  cases a with
  | hear =>
    cases hover : t.isOver with
    | true => simp [taken, hover]
    | false => cases hwaiting : t.waiting <;> simp [taken, hover, hwaiting]
  | _ => exact .inl rfl

/-- The end of the connection is the last event that is taken. -/
theorem taken_goes_on (t : Talk) (ts : List Turn) :
    ∀ e ∈ ((t.steps ts).flatMap Step.taken).dropLast, ends e = false := by
  induction ts generalizing t with
  | nil => simp [steps]
  | cons a ts ih =>
    have hcons : (t.steps (a :: ts)).flatMap Step.taken =
        t.taken a ++ ((t.turn a).steps ts).flatMap Step.taken := rfl
    rw [hcons]
    rcases t.taken_cases a with htaken | ⟨e, htaken⟩
    · rw [htaken]
      exact ih (t.turn a)
    · rw [htaken]
      cases hrest : ((t.turn a).steps ts).flatMap Step.taken with
      | nil => simp
      | cons e' rest =>
        have hgoes : ends e = false := by
          by_contra hends
          have hended : (t.turn a).ended = true := by
            rw [(t.passes a).ended, htaken]
            simpa using Or.inr hends
          rw [taken_of_ended hended ts] at hrest
          exact List.cons_ne_nil _ _ hrest.symm
        have hlater := ih (t.turn a)
        rw [hrest] at hlater
        rw [List.singleton_append, List.dropLast_cons_cons]
        exact List.forall_mem_cons.2 ⟨hgoes, hlater⟩

theorem seen_of_leaving {t : Talk} (h : t.leaving = true) (ts : List Turn) :
    (t.steps ts).flatMap Step.seen = [] := by
  induction ts generalizing t with
  | nil => rfl
  | cons a ts ih =>
    have hnow : Step.seen ⟨t, a⟩ = [] := if_pos h
    exact List.append_eq_nil_iff.2 ⟨hnow, ih ((t.passes a).leaving h)⟩

/-- What is taken is what is seen and, behind it, what is taken on the way out. -/
theorem taken_split (t : Talk) (ts : List Turn) :
    (t.steps ts).flatMap Step.taken =
      (t.steps ts).flatMap Step.seen ++ (t.steps ts).flatMap Step.drained := by
  induction ts generalizing t with
  | nil => rfl
  | cons a ts ih =>
    simp only [steps, List.flatMap_cons, ih]
    cases hleaving : t.leaving with
    | true =>
      rw [seen_of_leaving ((t.passes a).leaving hleaving)]
      simp [Step.seen, Step.drained, hleaving]
    | false => simp [Step.seen, Step.drained, hleaving]

theorem reported_split (t : Talk) (ts : List Turn) :
    (t.steps ts).flatMap Step.reported =
      (t.steps ts).flatMap Step.seen ++ ((t.steps ts).flatMap Step.drained).filter ends := by
  induction ts generalizing t with
  | nil => rfl
  | cons a ts ih =>
    simp only [steps, List.flatMap_cons, ih]
    cases hleaving : t.leaving with
    | true =>
      rw [seen_of_leaving ((t.passes a).leaving hleaving)]
      simp [Step.seen, Step.drained, Step.reported, hleaving]
    | false => simp [Step.seen, Step.drained, Step.reported, hleaving]

theorem leaving_of_run {t : Talk} (h : t.leaving = true) (ts : List Turn) :
    (t.turns ts).leaving = true := by
  induction ts generalizing t with
  | nil => exact h
  | cons a ts ih => exact ih ((t.passes a).leaving h)

theorem drained_of_staying {t : Talk} {ts : List Turn} (h : (t.turns ts).leaving = false) :
    (t.steps ts).flatMap Step.drained = [] := by
  induction ts generalizing t with
  | nil => rfl
  | cons a ts ih =>
    cases hleaving : t.leaving with
    | true =>
      rw [leaving_of_run hleaving] at h
      exact Bool.noConfusion h
    | false =>
      have hnow : Step.drained ⟨t, a⟩ = [] := by simp [Step.drained, hleaving]
      exact List.append_eq_nil_iff.2 ⟨hnow, ih h⟩

theorem ends_iff {e : Event} : ends e = true ↔ ∃ code, e = .disconnected code := by
  cases e <;> simp [ends]

/-- The talk has ended where the end of the connection was taken, behind everything else. -/
theorem ended_iff {t : Talk} (hstart : t.ended = false) (ts : List Turn) :
    (t.turns ts).ended = true ↔
      ∃ front code, (t.steps ts).flatMap Step.taken = front ++ [.disconnected code] := by
  rw [ended_of_run, hstart, Bool.false_or, List.any_eq_true]
  constructor
  · rintro ⟨e, he, hends⟩
    have hne := List.ne_nil_of_mem he
    rw [← List.dropLast_concat_getLast hne, List.mem_append, List.mem_singleton] at he
    rcases he with he | he
    · rw [t.taken_goes_on ts e he] at hends
      exact Bool.noConfusion hends
    · obtain ⟨code, hcode⟩ := ends_iff.1 hends
      refine ⟨((t.steps ts).flatMap Step.taken).dropLast, code, ?_⟩
      rw [← hcode, he, List.dropLast_concat_getLast]
  · rintro ⟨front, code, h⟩
    exact ⟨.disconnected code, by rw [h]; exact List.mem_append_right _ List.mem_cons_self, rfl⟩

theorem start_reports (client : Client) (user : User) (chatId : String) (events : List Event) :
    (start client user chatId events).shown.filter Output.isReport = [] := by
  have hbanner := isReport_of_mark (mark_connectedText user chatId)
  have hhello := isReport_of_mark mark_helloText
  simp [start, hbanner, hhello]

/-- What a talk shows of its events, whatever the order of the turns. They leave the channel as they
have entered it. Each that is taken before the end of the input is shown, once and in this order; of
those taken behind it only the end of the connection is. The end is the last event taken, so where
the input has not ended first everything in front of the end has been shown. -/
theorem reports_of_run (client : Client) (user : User) (chatId : String) (events : List Event)
    (ts : List Turn) :
    let first := start client user chatId events
    let t := first.turns ts
    let told := events ++ (first.steps ts).flatMap Step.told
    let seen := (first.steps ts).flatMap Step.seen
    let drained := (first.steps ts).flatMap Step.drained
    told = seen ++ (drained ++ t.waiting) ∧
      t.shown.filter Output.isReport = (seen ++ drained.filter ends).filterMap (report user.id) ∧
      (∀ e ∈ (seen ++ drained).dropLast, ends e = false) ∧
      (t.ended = true ↔ ∃ front code, seen ++ drained = front ++ [.disconnected code]) ∧
      (t.leaving = false → drained = []) ∧
      (t.ended = true → t.leaving = false → t.ShowsAll told) := by
  intro first t told seen drained
  have hsplit : (first.steps ts).flatMap Step.taken = seen ++ drained := taken_split first ts
  have hchannel : told = seen ++ (drained ++ t.waiting) := by
    rw [← List.append_assoc, ← hsplit]
    exact channel_of_run first ts
  have hshown : t.shown.filter Output.isReport =
      (seen ++ drained.filter ends).filterMap (report user.id) := by
    have hrun := shown_of_run first ts
    rwa [start_reports, List.nil_append, reported_split] at hrun
  have hgoes : ∀ e ∈ (seen ++ drained).dropLast, ends e = false := by
    rw [← hsplit]
    exact first.taken_goes_on ts
  have hended : t.ended = true ↔ ∃ front code, seen ++ drained = front ++ [.disconnected code] := by
    rw [← hsplit]
    exact ended_iff rfl ts
  refine ⟨hchannel, hshown, hgoes, hended, drained_of_staying, ?_⟩
  intro hend hstay
  obtain ⟨front, code, htaken⟩ := hended.1 hend
  have hnone : drained = [] := drained_of_staying hstay
  rw [htaken, List.dropLast_concat] at hgoes
  refine ⟨front, code, t.waiting, ?_, hgoes, ?_⟩
  · rw [hchannel, ← List.append_assoc, htaken, List.append_assoc, List.singleton_append]
  · rw [hnone, List.append_nil] at htaken
    rw [hshown, hnone, List.filter_nil, List.append_nil, htaken, List.filterMap_append,
      show t.user = user from user_of_run first ts]
    rfl

def greeted : Client.Turn :=
  Client.newcomer.perform Manager.everywhere
    (.connectWithToken ⟨"t"⟩
      [Client.identity, Manager.agreement (Client.textFrame Client.greetingText)])

/-- The input is over before the message is looked at. In front of its close the server breaks the
protocol. -/
def abandoned : List Turn :=
  [.hear, .inputOver, .arrive (131 :: 0 :: Socket.Frame.octets .close [3, 232]), .hear, .hear,
    .hear]

theorem ShowsAll.shown {t : Talk} {events : List Event} (h : t.ShowsAll events) :
    ∃ code, t.shown.filter Output.isReport =
      (events.takeWhile fun e => !ends e).filterMap (report t.user.id) ++
        [.text (closedText code)] := by
  obtain ⟨front, code, later, rfl, hgoes, hshown⟩ := h
  have hfront : (front ++ .disconnected code :: later).takeWhile (fun e => !ends e) = front := by
    rw [List.takeWhile_append_of_pos fun e he => by rw [hgoes e he]; rfl]
    simp [ends]
  exact ⟨code, by rw [hfront, hshown]⟩

/-- Neither the message, which is in the log, nor the failure is ever shown. -/
theorem message_thrown_away :
    let first := start greeted.client ⟨"u1", "ada"⟩ "lobby" greeted.events
    let t := first.turns abandoned
    let told := greeted.events ++ (first.steps abandoned).flatMap Step.told
    t.ended = true ∧ t.client.received = [Client.greetingMessage] ∧
      told = [.connected ⟨"u1", "ada"⟩, .message Client.greetingMessage,
        .failed (.transport "WebSocket protocol error: Encountered invalid opcode: 3"),
        .disconnected 1006] ∧
      t.shown.filter Output.isReport = [.text (closedText 1006)] ∧ ¬ t.ShowsAll told := by
  intro first t told
  have hrun : t.ended = true ∧ t.client.received = [Client.greetingMessage] ∧
      told = [.connected ⟨"u1", "ada"⟩, .message Client.greetingMessage,
        .failed (.transport "WebSocket protocol error: Encountered invalid opcode: 3"),
        .disconnected 1006] ∧
      t.shown.filter Output.isReport = [.text (closedText 1006)] := by
    decide +kernel
  obtain ⟨hended, hlog, htold, hshown⟩ := hrun
  refine ⟨hended, hlog, htold, hshown, ?_⟩
  intro hall
  obtain ⟨code, hcode⟩ := hall.shown
  have hlength := congrArg List.length hcode
  rw [hshown, htold] at hlength
  simp [ends, report] at hlength

end Talk

end Shell

end Parley
