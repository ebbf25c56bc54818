import Parley.Proofs.Reports
import Parley.Proofs.Wire

/-! A talk over its one connection. It is in one of two states. While it goes on the connection is
open, and all that was ever written there are the envelopes of the typed messages, each of which was
confirmed. From the end of the input on the close frame is the last that was written, and what the
server sends can only bring the end, once; a talk that has looked at it is over, and so is one that
has waited for it as long as it may. Each turn leads from one of these states to one of them. -/

namespace Parley

open Connection Socket

namespace Manager

/-- An arrival that does not end an open connection leaves it open. -/
theorem arrive_live {l : Link} (h : l.Live) {a : Link.Arrival}
    (hend : ∀ code, .closed code ∉ (arrive ⟨.opened, some 0, [l]⟩ 0 a).2) :
    endOf? (a.items l.endpoint) = none ∧ ∃ l' : Link, l'.Live ∧ l'.written = l.written ∧
      (arrive ⟨.opened, some 0, [l]⟩ 0 a).1 = ⟨.opened, some 0, [l']⟩ := by
  have hsingle : Single ⟨.opened, some 0, [l]⟩ := .opened h
  have hnone := hsingle.endOf?_items rfl hend h.reading
  have hphase : (l.arrive .opened a).2.1 = .opened := by
    simp [Link.arrive, h.reading, hnone]
  refine ⟨hnone, (l.arrive .opened a).1, h.arrive hnone .opened, l.arrive_written .opened a, ?_⟩
  rw [hsingle.arrive_link rfl hphase]

/-- On a closed connection an arrival can bring failures and the end, if it is still read. -/
theorem arrive_done {l : Link} (h : l.Done) (held : Option Nat) (a : Link.Arrival) :
    ∃ l' : Link, l'.Done ∧ l'.written = l.written ∧
      l'.reading = (l.reading && (endOf? (a.items l.endpoint)).isNone) ∧
      arrive ⟨.closed, held, [l]⟩ 0 a =
        (⟨.closed, held, [l']⟩,
          if l.reading then Link.heard .closed (a.items l.endpoint) else []) := by
  have hphase : (l.arrive .closed a).2.1 = .closed := by
    unfold Link.arrive
    split <;> simp
  refine ⟨(l.arrive .closed a).1, h.arrive .closed a, l.arrive_written .closed a, ?_, ?_⟩
  · cases hr : l.reading <;> simp [Link.arrive, hr]
  · rw [(Single.closed held h).arrive_link rfl hphase]
    cases hr : l.reading <;> simp [Link.arrive, hr]

end Manager

namespace Shell

def marked (c : Char) (out : List Output) : List Output := out.filter fun o => o.mark = some c

theorem marked_append (c : Char) (out out' : List Output) :
    marked c (out ++ out') = marked c out ++ marked c out' :=
  List.filter_append ..

theorem marked_text {c d : Char} {s : String} (h : (Output.text s).mark = some d) :
    marked c [.text s] = if d = c then [.text s] else [] := by
  simp [marked, h, List.filter_cons]

theorem marked_plain (c : Char) {s : String} (h : (Output.text s).mark = none) :
    marked c [.text s] = [] := by
  simp [marked, h]

namespace Talk

theorem marked_notices (c : Char) (events : List Event) :
    marked c (events.flatMap noticeOf) = [] :=
  filter_notices (fun _ => rfl) events

theorem marked_shownOf {c : Char} (t : Talk) {e : Event}
    (hc : c ≠ '\n' ∧ c ≠ '!') (h : ends e = false) : marked c (t.shownOf e) = [] := by
  have hprompt : marked c [.text prompt] = [] := marked_plain c mark_prompt
  cases e with
  | connected user => rfl
  | message m =>
    have hm := marked_text (c := c) (mark_messageText m t.user.id)
    rw [if_neg hc.1.symm] at hm
    rw [shownOf, ← List.singleton_append, marked_append, hm, hprompt, List.append_nil]
  | failed f =>
    have hf := marked_text (c := c) (mark_failureText f)
    rw [if_neg hc.2.symm] at hf
    rw [shownOf, ← List.singleton_append, marked_append, hf, hprompt, List.append_nil]
  | disconnected code => exact Bool.noConfusion h

def written (t : Talk) : List Outbound := t.client.sessions.flatMap (·.manager.frames)

def receipts (t : Talk) : List Output := marked 's' t.shown

def closings (t : Talk) : List Output := marked 'C' t.shown

def receipt (e : Envelope) : Output := .text ("\n" ++ sentText e.inner.createdAt)

/-- The code with which something ends the connection of a talk, if that is still read. -/
def endBy (t : Talk) (a : Link.Arrival) : Option Nat :=
  t.client.sessions.findSome? fun s =>
    s.manager.links.findSome? fun l => if l.reading then endOf? (a.items l.endpoint) else none

structure Confirms (t : Talk) (envelopes : List Envelope) : Prop where
  sent : t.client.sent = envelopes
  receipts : t.receipts = envelopes.map receipt
  sealed : ∀ e ∈ envelopes, e.inner.authorId = t.user.id ∧ e.inner.chatId = t.chatId

structure Serving (t : Talk) (envelopes : List Envelope) : Prop extends Confirms t envelopes where
  link : ∃ l : Link, l.Live ∧ t.client.sessions = [⟨t.user, ⟨.opened, some 0, [l]⟩⟩] ∧
    l.written = envelopes.map (.text ·.toFrame)
  owner : t.client.user = some t.user
  leaving : t.leaving = false
  notOver : t.isOver = false
  waiting : ∀ e ∈ t.waiting, ends e = false
  closings : t.closings = []

/-- The end of a connection that was ended with a code: it waits behind everything else, or it has
been looked at, or it is not looked at any more. -/
inductive Told (t : Talk) : Option Nat → Prop
  | not (hover : t.isOver = false) (hwaiting : ∀ e ∈ t.waiting, ends e = false)
    (hclosings : t.closings = []) : Told t none
  | waiting {front : List Event} {code : Nat} (hover : t.isOver = false)
    (hfront : ∀ e ∈ front, ends e = false) (hwaiting : t.waiting = front ++ [.disconnected code])
    (hclosings : t.closings = []) : Told t (some code)
  | shown {code : Nat} (hended : t.ended = true) (hgivenUp : t.givenUp = false)
    (hwaiting : t.waiting = []) (hclosings : t.closings = [.text (closedText code)]) :
    Told t (some code)
  | lapsed {code : Option Nat} (hended : t.ended = false) (hgivenUp : t.givenUp = true)
    (hnotice : lapseNotice ∈ t.shown) (hclosings : t.closings = []) : Told t code

/-- The input is over, and the connection has been closed. The server may have ended it since. -/
structure Closing (t : Talk) (envelopes : List Envelope) (code : Option Nat) : Prop
    extends Confirms t envelopes where
  link : ∃ l : Link, l.Done ∧ l.reading = code.isNone ∧
    t.client.sessions = [⟨t.user, ⟨.closed, none, [l]⟩⟩] ∧
    l.written = envelopes.map (.text ·.toFrame) ++ [.close normal ""]
  leaving : t.leaving = true
  told : t.Told code

theorem Serving.stays {t : Talk} {envelopes : List Envelope} (h : t.Serving envelopes) :
    ¬ (t.ended = true ∨ t.leaving = true) := by
  rintro (hended | hleaving)
  · exact Bool.false_ne_true (h.notOver.symm.trans (isOver_eq_true.2 (.inl hended)))
  · exact Bool.false_ne_true (h.leaving.symm.trans hleaving)

def arriving (t : Talk) (a : Link.Arrival) : Talk :=
  t.tell (t.client.arrive t.connection a).1 (t.client.arrive t.connection a).2

theorem turn_arrive (t : Talk) (octets : List UInt8) :
    t.turn (.arrive octets) = t.arriving (.octets octets) := by
  simp only [turn, arriving, Client.receive_eq]

theorem turn_hangUp (t : Talk) (cut : Socket.Cut) :
    t.turn (.hangUp cut) = t.arriving (.hangUp cut) := by
  simp only [turn, arriving, Client.hangUp_eq]

theorem arriving_eq {t : Talk} {user : User} {m : Manager} (h : t.client.sessions = [⟨user, m⟩])
    (a : Link.Arrival) :
    t.arriving a =
      t.tell
        { t.client with
          sessions := [⟨user, (m.arrive 0 a).1⟩]
          received := t.client.received ++ (m.arrive 0 a).2.filterMap Signal.message? }
        ((m.arrive 0 a).2.map (Signal.event user)) := by
  have hk : t.client.sessions[t.connection]? = some ⟨user, m⟩ := by rw [connection, h]; rfl
  have hsessions : t.client.sessions.modify t.connection
      (Session.update fun m => (m.arrive 0 a).1) = [⟨user, (m.arrive 0 a).1⟩] := by
    rw [connection, h]
    rfl
  rw [arriving, Client.arrive_some hk, hsessions]

theorem endBy_eq {t : Talk} {user : User} {phase : Phase} {held : Option Nat} {l : Link}
    (h : t.client.sessions = [⟨user, ⟨phase, held, [l]⟩⟩]) (a : Link.Arrival) :
    t.endBy a = if l.reading then endOf? (a.items l.endpoint) else none := by
  rw [endBy, h]
  simp

theorem ends_event {user : User} {signal : Signal} :
    ends (signal.event user) = true ↔ ∃ code, signal = .closed code := by
  cases signal with
  | text s => cases hm : Message.ofFrame s <;> simp [Signal.event, ends, hm]
  | _ => simp [Signal.event, ends]

theorem receipts_tell (t : Talk) (client : Client) (events : List Event) :
    (t.tell client events).receipts = t.receipts := by
  rw [receipts, tell, marked_append, marked_notices, List.append_nil, receipts]

theorem closings_tell (t : Talk) (client : Client) (events : List Event) :
    (t.tell client events).closings = t.closings := by
  rw [closings, tell, marked_append, marked_notices, List.append_nil, closings]

theorem receipts_print (t : Talk) (out : List Output) :
    (t.print out).receipts = t.receipts ++ marked 's' out :=
  marked_append ..

theorem closings_print (t : Talk) (out : List Output) :
    (t.print out).closings = t.closings ++ marked 'C' out :=
  marked_append ..

theorem Confirms.tell {t : Talk} {envelopes : List Envelope} (h : t.Confirms envelopes)
    (client : Client) (hsent : client.sent = t.client.sent) (events : List Event) :
    (t.tell client events).Confirms envelopes where
  sent := hsent.trans h.sent
  receipts := (receipts_tell t client events).trans h.receipts
  sealed := h.sealed

theorem Serving.arriving {t : Talk} {envelopes : List Envelope} (h : t.Serving envelopes)
    {a : Link.Arrival} (hstay : ∀ e ∈ (t.arriving a).waiting, ends e = false) :
    t.endBy a = none ∧ (t.arriving a).Serving envelopes := by
  obtain ⟨l, hlive, hsessions, hwritten⟩ := h.link
  rw [arriving_eq hsessions] at hstay ⊢
  rw [endBy_eq hsessions, if_pos hlive.reading]
  have hend : ∀ code, .closed code ∉ (Manager.arrive ⟨.opened, some 0, [l]⟩ 0 a).2 := by
    intro code hin
    have hgoes := hstay _ (List.mem_append_right _ (List.mem_map_of_mem hin))
    exact Bool.noConfusion hgoes
  obtain ⟨hnone, l', hlive', hwritten', harrive⟩ := Manager.arrive_live hlive hend
  refine ⟨hnone, ?_⟩
  exact
    { h.toConfirms.tell _ rfl _ with
      link := ⟨l', hlive', by rw [harrive]; rfl, hwritten'.trans hwritten⟩
      owner := h.owner
      leaving := h.leaving
      notOver := h.notOver
      waiting := hstay
      closings := (closings_tell _ _ _).trans h.closings }

theorem Told.tell {t : Talk} (h : t.Told none) {front : List Event}
    (hfront : ∀ e ∈ front, ends e = false) (client : Client) (code : Option Nat) :
    (t.tell client (front ++ code.toList.map .disconnected)).Told code := by
  have hclosed := closings_tell t client (front ++ code.toList.map .disconnected)
  cases h with
  | not hover hwaiting hclosings =>
    have hall : ∀ e ∈ t.waiting ++ front, ends e = false := by
      intro e he
      rcases List.mem_append.1 he with he | he
      · exact hwaiting e he
      · exact hfront e he
    cases code with
    | none =>
      refine .not hover ?_ (hclosed.trans hclosings)
      simpa [Talk.tell] using hall
    | some code =>
      refine .waiting hover hall ?_ (hclosed.trans hclosings)
      simp [Talk.tell]
  | lapsed hended hgivenUp hnotice hclosings =>
    exact .lapsed hended hgivenUp (List.mem_append_left _ hnotice) (hclosed.trans hclosings)

/-- The same holds of a talk in which the same waits, and of which nothing else has been shown than
notices. -/
theorem Told.congr {t t' : Talk} {code : Option Nat} (h : t.Told code)
    (hended : t'.ended = t.ended) (hgivenUp : t'.givenUp = t.givenUp)
    (hwaiting : t'.waiting = t.waiting) (hclosings : t'.closings = t.closings)
    (hshown : t.shown ⊆ t'.shown) : t'.Told code := by
  have hover : t'.isOver = t.isOver := by rw [isOver, isOver, hended, hgivenUp]
  cases h with
  | not hgoes hquiet hnone =>
    exact .not (hover.trans hgoes) (hwaiting ▸ hquiet) (hclosings.trans hnone)
  | waiting hgoes hfront hlast hnone =>
    exact .waiting (hover.trans hgoes) hfront (hwaiting.trans hlast) (hclosings.trans hnone)
  | shown hheard hpatient hall hcode =>
    exact .shown (hended.trans hheard) (hgivenUp.trans hpatient) (hwaiting.trans hall)
      (hclosings.trans hcode)
  | lapsed hunheard hlapsed hnotice hnone =>
    exact .lapsed (hended.trans hunheard) (hgivenUp.trans hlapsed) (hshown hnotice)
      (hclosings.trans hnone)

theorem Told.tell_nothing {t : Talk} {code : Option Nat} (h : t.Told code) (client : Client) :
    (t.tell client []).Told code :=
  h.congr rfl rfl (List.append_nil _) (closings_tell t client []) (List.subset_append_left _ _)

/-- Failures may be told on the way out, and the end. -/
theorem heard_events (user : User) (items : List Item) :
    ∃ front, (∀ e ∈ front, ends e = false) ∧
      (Link.heard .closed items).map (Signal.event user) =
        front ++ (endOf? items).toList.map .disconnected := by
  refine ⟨((untilEnd items).flatMap (Reader.reports .closed)).map (Signal.event user), ?_, ?_⟩
  · intro e he
    obtain ⟨signal, hsignal, rfl⟩ := List.mem_map.1 he
    obtain ⟨item, -, hitem⟩ := List.mem_flatMap.1 hsignal
    by_contra hends
    obtain ⟨code, rfl⟩ := ends_event.1 (Bool.not_eq_false _ ▸ hends)
    cases item <;> simp [Reader.reports] at hitem
  · rw [Link.heard, List.map_append, List.map_map]
    rfl

theorem Closing.arriving {t : Talk} {envelopes : List Envelope} {code : Option Nat}
    (h : t.Closing envelopes code) (a : Link.Arrival) :
    (t.arriving a).Closing envelopes (code.or (t.endBy a)) := by
  obtain ⟨l, hdone, hreading, hsessions, hwritten⟩ := h.link
  obtain ⟨l', hdone', hwritten', hreading', harrive⟩ := Manager.arrive_done hdone none a
  rw [arriving_eq hsessions, endBy_eq hsessions]
  cases code with
  | none =>
    have hr : l.reading = true := hreading
    obtain ⟨front, hfront, hevents⟩ := heard_events t.user (a.items l.endpoint)
    rw [harrive, if_pos hr, if_pos hr, hevents, Option.none_or]
    exact
      { h.toConfirms.tell _ rfl _ with
        link := ⟨l', hdone', by rw [hreading', hr, Bool.true_and], rfl, hwritten'.trans hwritten⟩
        leaving := h.leaving
        told := h.told.tell hfront _ _ }
  | some code =>
    have hr : l.reading = false := hreading
    rw [harrive, if_neg (by simp [hr]), if_neg (by simp [hr]), Option.or_none]
    exact
      { h.toConfirms.tell _ rfl _ with
        link := ⟨l', hdone', by rw [hreading', hr]; rfl, rfl, hwritten'.trans hwritten⟩
        leaving := h.leaving
        told := h.told.tell_nothing _ }

theorem Closing.arriving_waiting {t : Talk} {envelopes : List Envelope} {code : Nat}
    (h : t.Closing envelopes (some code)) (a : Link.Arrival) :
    (t.arriving a).waiting = t.waiting := by
  obtain ⟨l, hdone, hreading, hsessions, -⟩ := h.link
  obtain ⟨l', -, -, -, harrive⟩ := Manager.arrive_done hdone none a
  have hr : l.reading = false := hreading
  rw [arriving_eq hsessions, harrive, if_neg (by simp [hr])]
  exact List.append_nil _

/-- The chat of a talk stays the same, and nothing but the end of the grace period makes it give
up. -/
theorem turn_keeps (t : Talk) (a : Turn) :
    (t.turn a).chatId = t.chatId ∧ (a ≠ .giveUp → (t.turn a).givenUp = t.givenUp) := by
  have htype : ∀ message,
      (t.type message).chatId = t.chatId ∧ (t.type message).givenUp = t.givenUp := by
    intro message
    unfold type
    split <;> exact ⟨rfl, rfl⟩
  have hhear : t.hear.chatId = t.chatId ∧ t.hear.givenUp = t.givenUp := by
    unfold hear
    split
    · exact ⟨rfl, rfl⟩
    · simp only
      split <;> exact ⟨rfl, rfl⟩
  cases a with
  | typed message =>
    rw [turn]
    split
    · exact ⟨rfl, fun _ => rfl⟩
    · exact ⟨(htype message).1, fun _ => (htype message).2⟩
  | hear =>
    rw [turn]
    split
    · exact ⟨rfl, fun _ => rfl⟩
    · exact ⟨hhear.1, fun _ => hhear.2⟩
  | inputOver | inputBroken =>
    rw [turn]
    split <;> exact ⟨rfl, fun _ => rfl⟩
  | giveUp =>
    refine ⟨?_, fun h => absurd rfl h⟩
    rw [turn]
    split <;> rfl
  | _ => exact ⟨rfl, fun _ => rfl⟩

theorem isOver_turn {t : Talk} (h : t.isOver = true) (a : Turn) : (t.turn a).isOver = true := by
  rcases isOver_eq_true.1 h with hended | hgivenUp
  · exact isOver_eq_true.2 (.inl (by rw [(t.passes a).ended, hended, Bool.true_or]))
  · by_cases ha : a = .giveUp
    · have hturn : t.turn a = t := by simp [ha, turn, h]
      rw [hturn, h]
    · exact isOver_eq_true.2 (.inr (((t.turn_keeps a).2 ha).trans hgivenUp))

theorem orderly_single {s : Session} (h : s.manager.Single) : Client.Orderly [s] where
  single k t ht := by
    obtain ⟨-, rfl⟩ : k = 0 ∧ s = t := by
      cases k with
      | zero => exact ⟨rfl, Option.some.inj ht⟩
      | succ k => simp at ht
    exact h
  earlier k t _ hk := by simp at hk

theorem marked_sent (c : Char) (e : Envelope) :
    marked c [receipt e, .text prompt] = if 's' = c then [receipt e] else [] := by
  have hreceipt := marked_text (c := c) (mark_receipt e.inner.createdAt)
  rw [← List.singleton_append, marked_append, marked_plain c mark_prompt, List.append_nil]
  exact hreceipt

/-- A message that is typed is sent with the instant of its receipt. -/
theorem Serving.typed {t : Talk} {envelopes : List Envelope} (h : t.Serving envelopes)
    (message : String) :
    (t.turn (.typed message)).Serving
      (envelopes ++ [Envelope.seal t.user t.chatId message t.client.clock.now]) := by
  obtain ⟨l, hlive, hsessions, hwritten⟩ := h.link
  have horderly : Client.Orderly t.client.sessions := by
    rw [hsessions]
    exact orderly_single (.opened hlive)
  have hphase : t.client.phase = .opened := by rw [Client.phase, hsessions]; rfl
  have hsend := Client.send_accepted horderly h.owner hphase t.chatId message
  have hsessions' : ∀ frame, t.client.sessions.modify (t.client.sessions.length - 1)
      (Session.update fun m => (m.send frame).2.1) =
        [⟨t.user, ⟨.opened, some 0, [l.sent frame]⟩⟩] := by
    intro frame
    rw [hsessions]
    simp [Session.update, Manager.send_single_opened hlive]
  rw [hsessions'] at hsend
  have hturn : t.turn (.typed message) = t.type message := if_neg h.stays
  let e := Envelope.seal t.user t.chatId message t.client.clock.now
  let client : Client := { t.client with
    sessions := [⟨t.user, ⟨.opened, some 0, [l.sent e.toFrame]⟩⟩], sent := t.client.sent ++ [e] }
  have htype : t.type message = (t.tell client []).print [receipt e, .text prompt] := by
    rw [type, hsend]
    simp only [List.getLast?_concat, List.singleton_append]
    rfl
  rw [hturn, htype]
  exact
    { sent := congrArg (· ++ [e]) h.sent
      receipts := by
        rw [receipts_print, receipts_tell, h.receipts, marked_sent, if_pos rfl, List.map_append]
        rfl
      sealed := by
        intro e' he
        rcases List.mem_append.1 he with he | he
        · exact h.sealed e' he
        · rw [List.mem_singleton.1 he]
          exact ⟨rfl, rfl⟩
      link := by
        refine ⟨_, hlive.sent _, rfl, ?_⟩
        rw [List.map_append, ← hwritten, Link.written, Link.sent, List.filter_append]
        rfl
      owner := h.owner
      leaving := h.leaving
      notOver := h.notOver
      waiting := by
        intro e' he
        exact h.waiting e' (by simpa [print, tell] using he)
      closings := by
        rw [closings_print, closings_tell, h.closings, marked_sent, if_neg (by decide)]
        rfl }

/-- At the end of the input the connection is closed behind everything that was sent. -/
theorem Serving.leave {t : Talk} {envelopes : List Envelope} (h : t.Serving envelopes) :
    (t.turn .inputOver).Closing envelopes none := by
  obtain ⟨l, hlive, hsessions, hwritten⟩ := h.link
  have horderly : Client.Orderly t.client.sessions := by
    rw [hsessions]
    exact orderly_single (.opened hlive)
  have hreleased : Client.released t.client.sessions =
      [⟨t.user, ⟨.closed, none, [l.shut]⟩⟩] := by
    rw [hsessions, Client.released]
    simp [Session.update, Manager.close_single_opened hlive]
  have hturn : t.turn .inputOver = t.leave := if_neg h.stays
  rw [hturn, Talk.leave, Client.disconnect_eq horderly, hreleased]
  let client : Client := { t.client with
    sessions := [⟨t.user, ⟨.closed, none, [l.shut]⟩⟩], token := none, user := none }
  have hconfirms := h.toConfirms.tell client rfl []
  have htold : t.Told none := .not h.notOver h.waiting h.closings
  exact
    { sent := hconfirms.sent
      receipts := hconfirms.receipts
      sealed := hconfirms.sealed
      link := by
        refine ⟨l.shut, hlive.shut, hlive.reading, rfl, ?_⟩
        rw [← hwritten, Link.written, Link.shut, List.filter_append]
        rfl
      leaving := rfl
      told := htold.congr rfl rfl (List.append_nil _) (closings_tell t client [])
        (List.subset_append_left _ _) }

theorem Serving.hear {t : Talk} {envelopes : List Envelope} (h : t.Serving envelopes) :
    (t.turn .hear).Serving envelopes := by
  cases hwaiting : t.waiting with
  | nil =>
    have hturn : t.turn .hear = t := by simp [turn, Talk.hear, hwaiting]
    rw [hturn]
    exact h
  | cons e waiting =>
    obtain ⟨hgoes, hrest⟩ := List.forall_mem_cons.1 (hwaiting ▸ h.waiting)
    have hturn : t.turn .hear =
        { t with waiting := waiting, ended := false }.print (t.shownOf e) := by
      simp only [turn, h.notOver, Bool.false_eq_true, if_false, Talk.hear, hwaiting, h.leaving,
        false_and, hgoes]
      cases e <;> rfl
    rw [hturn]
    exact
      { sent := h.sent
        receipts := by
          rw [receipts_print, marked_shownOf t (by decide) hgoes, List.append_nil]
          exact h.receipts
        sealed := h.sealed
        link := h.link
        owner := h.owner
        leaving := h.leaving
        notOver := isOver_eq_false.2 ⟨rfl, (isOver_eq_false.1 h.notOver).2⟩
        waiting := hrest
        closings := by
          rw [closings_print, marked_shownOf t (by decide) hgoes, List.append_nil]
          exact h.closings }

theorem Serving.tick {t : Talk} {envelopes : List Envelope} (h : t.Serving envelopes)
    (now : Instant) : (t.turn (.tick now)).Serving envelopes :=
  { h with }

theorem Serving.giveUp {t : Talk} {envelopes : List Envelope} (h : t.Serving envelopes) :
    (t.turn .giveUp).Serving envelopes := by
  have hturn : t.turn .giveUp = t := by simp [turn, h.leaving]
  rw [hturn]
  exact h

/-- On the way out events are passed over until the end of the connection is there. -/
theorem Closing.hear {t : Talk} {envelopes : List Envelope} {code : Option Nat}
    (h : t.Closing envelopes code) : (t.turn .hear).Closing envelopes code := by
  have hstays : t.isOver = true → t.turn .hear = t := fun hover => if_pos hover
  have hpass : ∀ e waiting, t.isOver = false → t.waiting = e :: waiting → ends e = false →
      t.turn .hear = { t with waiting := waiting, ended := false } := by
    intro e waiting hover hwaiting hgoes
    simp [turn, hover, Talk.hear, hwaiting, h.leaving, hgoes]
  cases h.told with
  | not hover hwaiting hclosings =>
    have hgivenUp := (isOver_eq_false.1 hover).2
    cases hevents : t.waiting with
    | nil =>
      have hturn : t.turn .hear = t := by simp [turn, Talk.hear, hevents]
      rw [hturn]
      exact h
    | cons e waiting =>
      obtain ⟨hgoes, hrest⟩ := List.forall_mem_cons.1 (hevents ▸ hwaiting)
      rw [hpass e waiting hover hevents hgoes]
      exact { h with told := .not (isOver_eq_false.2 ⟨rfl, hgivenUp⟩) hrest hclosings }
  | @waiting front code hover hfront hwaiting hclosings =>
    have hgivenUp := (isOver_eq_false.1 hover).2
    cases front with
    | nil =>
      have hturn : t.turn .hear =
          { t with waiting := [], ended := true }.print [.text (closedText code)] := by
        simp [turn, hover, Talk.hear, hwaiting, ends, shownOf]
      have hreceipts : marked 's' [.text (closedText code)] = [] :=
        marked_text (mark_closedText code)
      have hcloses : marked 'C' [.text (closedText code)] = [.text (closedText code)] :=
        marked_text (mark_closedText code)
      rw [hturn]
      exact
        { sent := h.sent
          receipts := by
            rw [receipts_print, hreceipts, List.append_nil]
            exact h.receipts
          sealed := h.sealed
          link := h.link
          leaving := h.leaving
          told := .shown rfl hgivenUp rfl (by
            rw [closings_print, hcloses]
            exact congrArg (· ++ _) hclosings) }
    | cons e front =>
      obtain ⟨hgoes, hrest⟩ := List.forall_mem_cons.1 hfront
      rw [hpass e _ hover hwaiting hgoes]
      exact { h with
        told := .waiting (isOver_eq_false.2 ⟨rfl, hgivenUp⟩) hrest rfl hclosings }
  | shown hended _ _ _ =>
    rw [hstays (isOver_eq_true.2 (.inl hended))]
    exact h
  | lapsed _ hgivenUp _ _ =>
    rw [hstays (isOver_eq_true.2 (.inr hgivenUp))]
    exact h

/-- Where the end has not been looked at in time it never is, and a notice says so. -/
theorem Closing.giveUp {t : Talk} {envelopes : List Envelope} {code : Option Nat}
    (h : t.Closing envelopes code) :
    (t.turn .giveUp).isOver = true ∧ (t.turn .giveUp).Closing envelopes code := by
  cases hover : t.isOver with
  | true =>
    have hturn : t.turn .giveUp = t := by simp [turn, hover]
    rw [hturn]
    exact ⟨hover, h⟩
  | false =>
    have hturn : t.turn .giveUp = t.giveUp := by simp [turn, hover, h.leaving]
    have hplain : ∀ c, marked c [lapseNotice] = [] := fun c => rfl
    have hnone : t.closings = [] := by
      cases h.told with
      | not _ _ hclosings => exact hclosings
      | waiting _ _ _ hclosings => exact hclosings
      | lapsed _ _ _ hclosings => exact hclosings
      | shown hended _ _ _ => exact absurd (isOver_eq_true.2 (.inl hended)) (by simp [hover])
    rw [hturn]
    refine ⟨isOver_eq_true.2 (.inr rfl), ?_⟩
    exact
      { sent := h.sent
        receipts := by
          have hprint := receipts_print t [lapseNotice]
          rw [hplain, List.append_nil] at hprint
          exact hprint.trans h.receipts
        sealed := h.sealed
        link := h.link
        leaving := h.leaving
        told := .lapsed (isOver_eq_false.1 hover).1 rfl
          (List.mem_append_right _ List.mem_cons_self) (by
            have hprint := closings_print t [lapseNotice]
            rw [hplain, List.append_nil] at hprint
            exact hprint.trans hnone) }

theorem Closing.tick {t : Talk} {envelopes : List Envelope} {code : Option Nat}
    (h : t.Closing envelopes code) (now : Instant) :
    (t.turn (.tick now)).Closing envelopes code :=
  { h with told := h.told.congr rfl rfl rfl rfl (List.Subset.refl _) }

end Talk

end Shell

end Parley
