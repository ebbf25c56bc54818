import Parley.Proofs.Interleaving
import Parley.Proofs.Schedules

/-! Actions as schedules. Where everything settles, an action of a client is the operation by
itself, then its reader with what came behind the answer, and then one step of the writer. One is
enough: between two actions nothing waits, and nothing whole is left unread. So every run is a
schedule, with the same client at its end and the same events. -/

namespace Parley

namespace Socket.Endpoint

/-- A reader that nothing has stopped leaves nothing whole unread. -/
theorem readAll_drained {e : Endpoint} (h : endOf? e.readAll.2 = none) :
    Frame.read? e.readAll.1.unread = .ok none := by
  induction hlen : e.unread.length using Nat.strongRecOn generalizing e with
  | ind n ih =>
    match hread : Frame.read? e.unread with
    | .error fault =>
      rw [readAll_error hread] at h
      simp [endOf?, Item.endCode?] at h
    | .ok none =>
      rw [readAll_none hread]
      exact hread
    | .ok (some (f, rest)) =>
      obtain ⟨hshort, -⟩ := Frame.read?_append hread []
      rw [readAll_some hread] at h ⊢
      cases haccept : (e.before rest).accept f with
      | error fault =>
        rw [haccept] at h
        simp [behind, endOf?, Item.endCode?] at h
      | ok r =>
        obtain ⟨e', item?⟩ := r
        have hunread : e'.unread = rest := accept_unread haccept
        have hrest := fun h => ih e'.unread.length (by rw [hunread]; omega) (e := e') h rfl
        rw [haccept] at h
        cases item? with
        | none => exact hrest h
        | some item =>
          cases hitem : item.endCode? with
          | some code =>
            rw [behind_end hitem] at h
            simp at h
          | none =>
            rw [behind_item hitem] at h ⊢
            exact hrest ((endOf?_cons_other hitem _).symm.trans h)

end Socket.Endpoint

open Connection Socket

namespace Connection.Link

/-- Nothing whole is left unread by a reader at work. -/
def Drained (l : Link) : Prop := l.reading = true → Frame.read? l.endpoint.unread = .ok none

theorem Drained.rest {l : Link} (h : l.Drained) (phase : Phase) : (l.rest phase).Drained := by
  simpa [Drained] using h

theorem Drained.arrive {l : Link} (h : l.Drained) (phase : Phase) (a : Arrival) :
    (l.arrive phase a).1.Drained := by
  cases hr : l.reading with
  | false => simpa [Link.arrive, hr] using h
  | true =>
    intro hreading
    have hend : endOf? (a.items l.endpoint) = none := by simpa [Link.arrive, hr] using hreading
    cases a with
    | octets bs =>
      simp only [Link.arrive, hr, if_true, Arrival.endpoint]
      exact Endpoint.readAll_drained hend
    | hangUp cut => simp [Arrival.items, Endpoint.hangUpItems, endOf?, Item.endCode?] at hend

theorem Drained.receive_nil {l : Link} (h : l.Drained) (phase : Phase) :
    l.receive phase [] = (l, phase, []) := by
  rw [receive_eq]
  cases hr : l.reading with
  | false => simp [Link.arrive, hr]
  | true =>
    have hsame : l.endpoint.before (l.endpoint.unread ++ []) = l.endpoint := by
      rw [List.append_nil]
      rfl
    have hnone : l.endpoint.receive [] = (l.endpoint, []) := by
      rw [Endpoint.receive_eq, hsame, Endpoint.readAll_none (h hr)]
    simp [Link.arrive, hr, Arrival.items, Arrival.endpoint, hnone, Endpoint.pongs, endOf?, heard,
      untilEnd]
    rw [← hr]

theorem writeNext_gone {l : Link} (h : l.writing = false) (phase : Phase) :
    l.writeNext phase = (l, []) := by
  simp [writeNext, h]

theorem Live.write_text {l : Link} (h : l.Live) (text : String) :
    writeNext { l with queue := l.queue ++ [.text text] } .opened = (l.sent text, []) := by
  have hactive : l.endpoint.write (.text text) = .ok (l.endpoint, [.text text]) := by
    unfold Endpoint.write
    rw [h.stage]
  simp [writeNext, h.writing, h.queue, hactive, Outbound.isClose, Link.sent]

theorem Live.write_close {l : Link} (h : l.Live) :
    writeNext { l with queue := l.queue ++ [.close normal ""] } .closed = (l.shut, []) := by
  have hactive : l.endpoint.write (.close normal "") =
      .ok ({ l.endpoint with stage := .closedByClient }, [.close normal ""]) := by
    unfold Endpoint.write
    rw [h.stage]
  simp [writeNext, h.writing, h.queue, hactive, Outbound.isClose, Link.shut]

end Connection.Link

namespace Manager

/-- What a manager of one connection is between two actions. -/
structure AtRest (m : Manager) : Prop where
  single : m.Single
  drained : ∀ l ∈ m.links, l.Drained

theorem Tame.atRest {f : Manager → Manager} (h : Tame f)
    (hd : ∀ m l, m.Single → m.links = [l] → l.Drained → ∀ l' ∈ (f m).links, l'.Drained) :
    Tame f AtRest where
  single m hm := by
    obtain ⟨l, hl⟩ := hm.single.links_eq
    exact ⟨h.single m hm.single, hd m l hm.single hl (hm.drained l (by simp [hl]))⟩
  closed m hm hp := h.closed m hm.single hp

theorem tame_arrive_atRest (a : Link.Arrival) : Tame (fun m => (m.arrive 0 a).1) AtRest := by
  refine (tame_arrive a).atRest fun m l hm hl hdrained l' hl' => ?_
  rw [hm.arrive_eq hl, List.mem_singleton] at hl'
  rw [hl']
  exact (hdrained.arrive m.phase a).rest _

/-- An operation that does nothing but change the link of an open manager. -/
theorem Tame.atRest_of_opened {f : Manager → Manager} (h : Tame f) {g : Link → Link}
    (hclosed : ∀ m, m.Single → m.phase = .closed → (f m).links = m.links)
    (hopened : ∀ l : Link, l.Live → (f ⟨.opened, some 0, [l]⟩).links = [g l])
    (hdrained : ∀ l : Link, l.Drained → (g l).Drained) : Tame f AtRest := by
  refine h.atRest fun m l hm hl hdrained' l' hl' => ?_
  rcases hm.phase_cases with hp | hp
  · rw [hclosed m hm hp, hl, List.mem_singleton] at hl'
    exact hl' ▸ hdrained'
  · obtain ⟨found, hlive, rfl⟩ := hm.opened_eq hp
    obtain rfl : found = l := List.singleton_inj.1 hl
    rw [hopened found hlive, List.mem_singleton] at hl'
    exact hl' ▸ hdrained found hdrained'

theorem tame_sendThrough_atRest (text : String) :
    Tame (fun m => (m.sendThrough 0 text).2.1) AtRest := by
  refine (tame_sendThrough text).atRest_of_opened (g := (·.sent text)) ?_ ?_ fun _ => id
  · intro m hm hp
    rw [sendThrough_single_closed hm hp]
  · intro l hl
    rw [sendThrough_single_opened hl]

theorem tame_send_atRest (text : String) : Tame (fun m => (m.send text).2.1) AtRest := by
  refine (tame_send text).atRest_of_opened (g := (·.sent text)) ?_ ?_ fun _ => id
  · intro m hm hp
    rw [send_single_closed hm hp]
  · intro l hl
    rw [send_single_opened hl]

theorem tame_close_atRest : Tame (fun m => m.close.1) AtRest := by
  refine tame_close.atRest_of_opened (g := Link.shut) ?_ ?_ fun _ => id
  · intro m hm hp
    rw [close_single_closed hm hp]
  · intro l hl
    rw [close_single_opened hl]

theorem begun_atRest (greeting : List UInt8) : (begun greeting).1.AtRest := by
  refine (tame_arrive_atRest (.octets greeting)).single _ ⟨.opened Link.fresh_live, ?_⟩
  intro l hl
  rw [List.mem_singleton.1 hl]
  exact fun _ => rfl

/-- An operation that settles is one that does not, with one step of the writer behind it. -/
def Settles (f g : Manager → Manager × List Signal) (m : Manager) : Prop :=
  f m = (((g m).1.write 0).1, (g m).2) ∧ ((g m).1.write 0).2 = []

theorem settles_of_write (phase : Phase) (held : Option Nat)
    {f g : Manager → Manager × List Signal} {m : Manager} {l l' : Link}
    (hg : (g m).1 = ⟨phase, held, [l]⟩) (hw : l.writeNext phase = (l', []))
    (hf : f m = (⟨phase, held, [l']⟩, (g m).2)) : Settles f g m := by
  have hwrite : (g m).1.write 0 = (⟨phase, held, [l']⟩, []) := by
    rw [hg]
    simp [write, onTask, hw]
  exact ⟨by rw [hf, hwrite], by rw [hwrite]⟩

theorem Single.settles_arrive {m : Manager} (h : m.Single) {l : Link} (hl : m.links = [l])
    {a : Link.Arrival} {g : Link → Phase → Link × Phase × List Signal}
    (hg : g l m.phase = l.arrive m.phase a) : Settles (·.arrive 0 a) (·.onTask 0 g) m := by
  have hq : (l.arrive m.phase a).1.queue = [] :=
    (Link.arrive_fst l m.phase a).1.trans (h.steady.queue l (by simp [hl]))
  have hloose : m.onTask 0 g =
      (⟨(l.arrive m.phase a).2.1, m.held, [(l.arrive m.phase a).1]⟩, (l.arrive m.phase a).2.2) := by
    simp [onTask, hl, hg]
  refine settles_of_write _ _ (by rw [hloose]) (Link.writeNext_empty hq _) ?_
  rw [h.arrive_eq hl, hloose]

theorem AtRest.settles_receive {m : Manager} (h : m.AtRest) (bs : List UInt8) :
    Settles (·.receive 0 bs) (Conduct.loose.receive · 0 bs) m := by
  obtain ⟨l, hl⟩ := h.single.links_eq
  simp only [receive_eq]
  exact h.single.settles_arrive hl (l.receive_eq m.phase bs)

theorem AtRest.settles_hangUp {m : Manager} (h : m.AtRest) (cut : Cut) :
    Settles (·.hangUp 0 cut) (Conduct.loose.hangUp · 0 cut) m := by
  obtain ⟨l, hl⟩ := h.single.links_eq
  have hdrained := h.drained l (by simp [hl])
  simp only [hangUp_eq]
  refine h.single.settles_arrive hl ?_
  simp only [hdrained.receive_nil, Link.hangUp_eq, List.nil_append]

theorem offer_live {l : Link} (h : l.Live) (text : String) :
    offer ⟨.opened, some 0, [l]⟩ 0 text =
      (.ok (), ⟨.opened, some 0, [{ l with queue := l.queue ++ [.text text] }]⟩) := by
  simp [offer, Link.send, Link.enqueue, h.writing]

theorem Single.settles_sendThrough {m : Manager} (h : m.Single) (text : String) :
    (m.sendThrough 0 text).1 = (Conduct.loose.sendThrough m 0 text).1 ∧
      Settles (fun m => (m.sendThrough 0 text).2)
        (fun m => (Conduct.loose.sendThrough m 0 text).2) m := by
  cases h with
  | @closed held l h =>
    have hsend := sendThrough_single_closed (.closed held h) rfl 0 text
    have hoffer : offer ⟨.closed, held, [l]⟩ 0 text =
        (.error .notConnected, ⟨.closed, held, [l]⟩) :=
      offer_closed rfl 0 text
    refine ⟨by simp only [hsend, Conduct.loose, hoffer], settles_of_write .closed held ?_
      (Link.writeNext_gone h.writing .closed) ?_⟩
    · simp only [Conduct.loose, hoffer]
    · rw [hsend]
      rfl
  | @opened l h =>
    have hsend := sendThrough_single_opened h text
    have hoffer := offer_live h text
    refine ⟨by simp only [hsend, Conduct.loose, hoffer], settles_of_write .opened (some 0)
      ?_ (h.write_text text) ?_⟩
    · simp only [Conduct.loose, hoffer]
    · rw [hsend]
      rfl

theorem Single.settles_close {m : Manager} (h : m.Single) :
    Settles Manager.close Conduct.loose.close m := by
  cases h with
  | @closed held l h =>
    have hrelease : release ⟨.closed, held, [l]⟩ = ⟨.closed, none, [l]⟩ := release_closed _
    exact settles_of_write .closed none hrelease (Link.writeNext_gone h.writing .closed)
      (close_single_closed (.closed held h) rfl)
  | @opened l h =>
    have hrelease : release ⟨.opened, some 0, [l]⟩ =
        ⟨.closed, none, [{ l with queue := l.queue ++ [.close normal ""] }]⟩ := by
      simp [release, enqueueClose, Link.enqueue, h.writing]
    exact settles_of_write .closed none hrelease h.write_close (close_single_opened h)

end Manager

namespace Client

open Manager (Conduct)

theorem onSession_settles {c : Client} {k : Nat} {f g : Manager → Manager × List Signal}
    (h : ∀ s, c.sessions[k]? = some s → Manager.Settles f g s.manager) :
    let first := c.onSession k g
    let second := first.1.onSession k (·.write 0)
    c.onSession k f = (second.1, first.2) ∧ second.2 = [] := by
  cases hk : c.sessions[k]? with
  | none => simp [onSession_none hk]
  | some s =>
    obtain ⟨hf, hquiet⟩ := h s hk
    obtain ⟨hlt, rfl⟩ := List.getElem?_eq_some_iff.1 hk
    simp [onSession, hear_eq, hf, hquiet, hlt, List.set_set]

theorem sendOn_settles {c : Client} {k : Nat}
    {f g : Manager → Except Failure Unit × Manager × List Signal}
    (h : ∀ s, c.sessions[k]? = some s →
      (f s.manager).1 = (g s.manager).1 ∧
        Manager.Settles (fun m => (f m).2) (fun m => (g m).2) s.manager) :
    let first := c.sendOn k g
    let second := first.2.1.onSession k (·.write 0)
    c.sendOn k f = (first.1, second.1, first.2.2) ∧ second.2 = [] := by
  cases hk : c.sessions[k]? with
  | none => simp [sendOn_none hk, onSession_none hk]
  | some s =>
    obtain ⟨hresult, hf, hquiet⟩ := h s hk
    obtain ⟨hlt, rfl⟩ := List.getElem?_eq_some_iff.1 hk
    simp only at hf hquiet
    simp [sendOn, onSession, hear_eq, hresult, hf, hquiet, hlt, List.set_set]

/-- What comes behind the answer is read in a second move, and settles in a third. -/
theorem settles_greeting (greeting : List UInt8) :
    Manager.Settles (fun _ => Manager.begun greeting) (Conduct.loose.receive · 0 [])
      (Manager.embark Manager.fresh greeting).2.1 := by
  have hboth : Link.fresh.arrive .opened (.octets greeting) =
      Link.receive { Link.fresh with endpoint := { Endpoint.fresh with unread := greeting } }
        .opened [] := by
    have hsame : Endpoint.receive { Endpoint.fresh with unread := greeting } [] =
        Endpoint.fresh.receive greeting := by
      rw [Endpoint.receive_eq, Endpoint.receive_eq, List.append_nil]
      rfl
    rw [Link.receive_eq]
    simp only [Link.arrive, Link.fresh, Link.Arrival.items, Link.Arrival.endpoint, hsame]
    rfl
  have hsingle : Manager.Single ⟨.opened, some 0, [Link.fresh]⟩ := .opened Link.fresh_live
  have hq : (Link.fresh.arrive .opened (.octets greeting)).1.queue = [] := (Link.arrive_fst ..).1
  have hloose : Conduct.loose.receive (Manager.embark Manager.fresh greeting).2.1 0 [] =
      (⟨(Link.fresh.arrive .opened (.octets greeting)).2.1, some 0,
        [(Link.fresh.arrive .opened (.octets greeting)).1]⟩,
        (Link.fresh.arrive .opened (.octets greeting)).2.2) := by
    rw [hboth]
    rfl
  refine Manager.settles_of_write _ _ (by rw [hloose]) (Link.writeNext_empty hq _) ?_
  simp only [Manager.begun]
  rw [hsingle.arrive_eq rfl, hloose]

/-- The connection before has ended, so letting go of it leaves nothing to settle. -/
theorem released_eq {c : Client} (hc : Orderly c.sessions) (hl : c.phase.isLive = false) :
    c.sessions.modify (c.sessions.length - 1)
      (Session.update fun m => (Conduct.loose.close m).1) = released c.sessions := by
  unfold released
  cases hs : c.sessions[c.sessions.length - 1]? with
  | none =>
    have hle := List.getElem?_eq_none_iff.1 hs
    rw [List.modify_eq_self hle, List.modify_eq_self hle]
  | some s =>
    have hsingle := hc.single _ s hs
    have hp := last_closed hc hl s (by rwa [List.getLast?_eq_getElem?])
    have hsame : (Conduct.loose.close s.manager).1 = s.manager.close.1 := by
      obtain ⟨l, hlinks⟩ := hsingle.links_eq
      rw [Manager.close_single_closed hsingle hp]
      generalize s.manager = m at hp
      obtain ⟨phase, held, links⟩ := m
      obtain rfl : phase = .closed := hp
      exact Manager.release_closed links
    rw [← set_manager hs fun m => (Conduct.loose.close m).1, hsame,
      set_manager hs fun m => m.close.1]

theorem embarked_settles {c : Client} (hc : Orderly c.sessions) (hl : c.phase.isLive = false)
    (user : User) (token : Token) (greeting : List UInt8) :
    let k := c.sessions.length
    let second := (c.embarked user token greeting).onSession k (Conduct.loose.receive · 0 [])
    let third := second.1.onSession k (·.write 0)
    third.1 = c.joined user token greeting ∧
      second.2 = (Manager.begun greeting).2.map (Signal.event user) ∧ third.2 = [] := by
  intro k second third
  have hnewest := embarked_newest c user token greeting
  obtain ⟨hsettled, hquiet⟩ := onSession_settles (c := c.embarked user token greeting) (k := k)
    (f := fun _ => Manager.begun greeting) (g := (Conduct.loose.receive · 0 [])) (by
      intro s hs
      rw [hnewest, Option.some.injEq] at hs
      rw [← hs]
      exact settles_greeting greeting)
  rw [onSession_some hnewest] at hsettled
  obtain ⟨hclient, hevents⟩ := Prod.mk.inj hsettled
  refine ⟨hclient.symm.trans ?_, hevents.symm, hquiet⟩
  have hsessions : (c.embarked user token greeting).sessions.modify k
      (Session.update fun _ => (Manager.begun greeting).1) =
        (c.joined user token greeting).sessions := by
    rw [← set_manager hnewest fun _ => (Manager.begun greeting).1]
    simp only [embarked, joined, released_eq hc hl]
    rw [← released_length c.sessions, List.set_append_right _ _ (Nat.le_refl _), Nat.sub_self]
    rfl
  rw [hsessions]
  rfl

/-- The schedule of an action that settles. -/
def Action.schedule (c : Client) (a : Action) : List Move :=
  .act a ::
    match a with
    | .connect .. | .connectWithToken .. =>
      [.act (.receive c.sessions.length []), .write c.sessions.length]
    | .send .. | .disconnect | .drop => [.write (c.sessions.length - 1)]
    | .sendThrough k _ | .receive k _ | .hangUp k _ => [.write k]
    | .clear | .deafen => []

structure Amounts (c : Client) (net : Network) (moves : List Move) (t : Turn) : Prop where
  client : course net c moves = t.client
  events : (strides net c moves).flatMap (·.turn.events) = t.events

theorem amounts_of_settled {c : Client} {net : Network} {a : Action} {k : Nat} {t : Turn}
    (hclient : t.client = ((c.move net (.act a)).client.onSession k (·.write 0)).1)
    (hevents : t.events = (c.move net (.act a)).events)
    (hquiet : ((c.move net (.act a)).client.onSession k (·.write 0)).2 = []) :
    Amounts c net [.act a, .write k] t where
  client := hclient.symm
  events := by
    have hwrite : ((c.move net (.act a)).client.move net (.write k)).events = [] := hquiet
    simp [strides, hevents, hwrite]

theorem amounts_of_greeted {c : Client} {net : Network} {a : Action} {k : Nat} {t first : Turn}
    (hfirst : c.move net (.act a) = first)
    (hclient : (((first.client.onSession k (Conduct.loose.receive · 0 [])).1).onSession k
      (·.write 0)).1 = t.client)
    (hevents : first.events ++ (first.client.onSession k (Conduct.loose.receive · 0 [])).2 =
      t.events)
    (hquiet : (((first.client.onSession k (Conduct.loose.receive · 0 [])).1).onSession k
      (·.write 0)).2 = []) :
    Amounts c net [.act a, .act (.receive k []), .write k] t where
  client := by
    rw [← hclient, ← hfirst]
    rfl
  events := by
    rw [← hevents, ← List.append_nil (_ ++ _), ← hquiet, ← hfirst]
    simp [strides, move, perform, Turn.quiet]

theorem Reaches.amounts {c : Client} {net : Network} {attempts : Conduct → Attempt}
    (h : Reaches c net attempts) (hc : Orderly c.sessions) {a : Action}
    (ha : ∀ conduct, c.perform net a conduct = .ofAttempt (attempts conduct)) :
    let k := c.sessions.length
    Amounts c net [.act a, .act (.receive k []), .write k] (c.perform net a) := by
  intro k
  have hfirst : c.move net (.act a) = .ofAttempt (attempts .loose) := ha .loose
  rw [ha .settled]
  have hnone := List.getElem?_eq_none (Nat.le_refl c.sessions.length)
  cases h with
  | refused f remote | unagreed text remote =>
    apply amounts_of_greeted hfirst <;> simp [Turn.ofAttempt, onSession_none hnone, k]
  | @agreed hl user token greeting url before remote hurl hs =>
    obtain ⟨hclient, hevents, hquiet⟩ := embarked_settles hc hl user token greeting
    rw [adopt_loose] at hfirst
    rw [adopt_settled hc]
    have hall := congrArg (List.cons (Event.connected user)) hevents
    exact amounts_of_greeted hfirst hclient hall hquiet

/-- Between two actions no writer has anything to do. -/
theorem write_at_rest {c : Client} (hc : Orderly c.sessions) (k : Nat) :
    c.onSession k (·.write 0) = (c, []) := by
  cases hk : c.sessions[k]? with
  | none => exact onSession_none hk _
  | some s =>
    have hwrite : s.manager.write 0 = (s.manager, []) := by
      have hsingle := hc.single k s hk
      generalize s.manager = m at hsingle
      cases hsingle with
      | @closed held l h =>
        simp [Manager.write, Manager.onTask, Link.writeNext_gone h.writing]
      | @opened l h =>
        simp [Manager.write, Manager.onTask, Link.writeNext_empty h.queue, Link.rest_opened]
    rw [onSession_some hk, modify_manager_same hk (congrArg Prod.fst hwrite), hwrite]
    simp

theorem send_of_manager {c : Client} {user : User} (hu : c.user = some user)
    (hp : c.phase = .opened) {s : Session} (hs : c.sessions[c.sessions.length - 1]? = some s)
    (chatId text : String) (conduct : Conduct) {m : Manager}
    (hm : s.manager.send (Envelope.seal user chatId text c.clock.now).toFrame conduct.sendThrough =
      (.ok (), m, [])) :
    c.send chatId text conduct =
      (.ok (),
        { c with
          sessions := c.sessions.set (c.sessions.length - 1) { s with manager := m }
          sent := c.sent ++ [Envelope.seal user chatId text c.clock.now] }, []) := by
  unfold send
  rw [hu]
  simp [hp, sendOn, hs, hm, hear, hu]

theorem send_amounts {c : Client} (hc : Orderly c.sessions) (net : Network)
    (chatId text : String) :
    Amounts c net [.act (.send chatId text), .write (c.sessions.length - 1)]
      (c.perform net (.send chatId text)) := by
  have hfirst : c.move net (.act (.send chatId text)) = .ofSend (c.send chatId text .loose) := rfl
  by_cases h : c.user = none ∨ c.phase ≠ .opened
  · have hrest := write_at_rest hc (c.sessions.length - 1)
    rw [send_refused h chatId text .loose] at hfirst
    simp only [perform, send_refused h]
    exact amounts_of_settled (by rw [hfirst]; exact (congrArg (·.1) hrest).symm) (by rw [hfirst])
      (by rw [hfirst]; exact congrArg (·.2) hrest)
  · rw [not_or, not_not] at h
    obtain ⟨user, hu⟩ := Option.ne_none_iff_exists'.1 h.1
    obtain ⟨s, hs, hp⟩ := last_of_opened h.2
    obtain ⟨l, hl, hm⟩ := (hc.single _ s hs).opened_eq hp
    have hlt := (List.getElem?_eq_some_iff.1 hs).1
    have hsettled := send_of_manager hu h.2 hs chatId text .settled
      (by rw [hm]; exact Manager.send_single_opened hl _)
    have hloose := send_of_manager hu h.2 hs chatId text .loose
      (m := ⟨.opened, some 0, [{ l with
        queue := l.queue ++ [.text (Envelope.seal user chatId text c.clock.now).toFrame] }]⟩)
      (by rw [hm]; simp only [Manager.send, Conduct.loose, Manager.offer_live hl])
    rw [hloose] at hfirst
    simp only [perform, hsettled]
    apply amounts_of_settled
    · simp [hfirst, Turn.ofSend, onSession, hlt, Manager.write, Manager.onTask, hl.write_text, hear,
        List.set_set]
    · rw [hfirst]
      rfl
    · simp [hfirst, Turn.ofSend, onSession, hlt, Manager.write, Manager.onTask, hl.write_text, hear]

theorem onSession_forgotten (c : Client) (k : Nat) (f : Manager → Manager × List Signal) :
    onSession { c with token := none, user := none } k f =
      ({ (c.onSession k f).1 with token := none, user := none }, (c.onSession k f).2) := by
  cases hk : c.sessions[k]? with
  | none => simp [onSession, hk]
  | some s => simp [onSession, hk, hear_eq]

theorem disconnect_amounts {c : Client} (hc : Orderly c.sessions) {net : Network} {a : Action}
    (ha : ∀ conduct, c.perform net a conduct = .quiet (c.disconnect conduct)) :
    Amounts c net [.act a, .write (c.sessions.length - 1)] (c.perform net a) := by
  obtain ⟨hclose, hquiet⟩ := onSession_settles (c := c) (k := c.sessions.length - 1)
    (f := Conduct.settled.close) (g := Conduct.loose.close)
    fun s hs => (hc.single _ s hs).settles_close
  have hfirst : c.move net (.act a) = .quiet (c.disconnect .loose) := ha .loose
  have hwrite := onSession_forgotten (c.closeLast .loose).1 (c.sessions.length - 1) (·.write 0)
  have hclient := congrArg (·.1) hclose
  rw [ha .settled]
  apply amounts_of_settled
  · rw [hfirst]
    refine Eq.trans ?_ (congrArg (·.1) hwrite).symm
    exact congrArg (fun d : Client => { d with token := none, user := none }) hclient
  · rw [hfirst]
    exact congrArg (·.2) hclose
  · rw [hfirst]
    exact (congrArg (·.2) hwrite).trans hquiet

theorem perform_amounts {c : Client} (hc : Orderly c.sessions Manager.AtRest) (net : Network)
    (a : Action) : Amounts c net (a.schedule c) (c.perform net a) := by
  have hsingle : Orderly c.sessions := ⟨fun k s hs => (hc.single k s hs).single, hc.earlier⟩
  cases a with
  | connect username password replies =>
    exact (c.connect_reaches net username password _).amounts hsingle fun _ => rfl
  | connectWithToken token replies =>
    exact (c.connectWithToken_reaches net token _).amounts hsingle fun _ => rfl
  | send chatId text => exact send_amounts hsingle net chatId text
  | sendThrough k text =>
    obtain ⟨hsend, hquiet⟩ := sendOn_settles (c := c) (k := k)
      (f := (Conduct.settled.sendThrough · 0 text)) (g := (Conduct.loose.sendThrough · 0 text))
      fun s hs => (hc.single k s hs).single.settles_sendThrough text
    exact amounts_of_settled (congrArg (·.2.1) hsend) (congrArg (·.2.2) hsend) hquiet
  | disconnect | drop => exact disconnect_amounts hsingle fun _ => rfl
  | clear | deafen => exact ⟨rfl, rfl⟩
  | receive k bs =>
    obtain ⟨hreceive, hquiet⟩ := onSession_settles (c := c) (k := k)
      (f := (Conduct.settled.receive · 0 bs)) (g := (Conduct.loose.receive · 0 bs))
      fun s hs => (hc.single k s hs).settles_receive bs
    exact amounts_of_settled (congrArg (·.1) hreceive) (congrArg (·.2) hreceive) hquiet
  | hangUp k cut =>
    obtain ⟨hcut, hquiet⟩ := onSession_settles (c := c) (k := k)
      (f := (Conduct.settled.hangUp · 0 cut)) (g := (Conduct.loose.hangUp · 0 cut))
      fun s hs => (hc.single k s hs).settles_hangUp cut
    exact amounts_of_settled (congrArg (·.1) hcut) (congrArg (·.2) hcut) hquiet

theorem perform_atRest {c : Client} (hc : Orderly c.sessions Manager.AtRest) (net : Network)
    (a : Action) : Orderly (c.perform net a).client.sessions Manager.AtRest := by
  have hsingle : Orderly c.sessions := ⟨fun k s hs => (hc.single k s hs).single, hc.earlier⟩
  have hjoined : ∀ {attempt : Attempt}, Outcome c net attempt →
      Orderly attempt.client.sessions Manager.AtRest := by
    intro attempt h
    cases h with
    | refused | unagreed => exact hc
    | joined hl user token hurl hs =>
      exact (Evolves.join (last_closed hsingle hl) Manager.tame_close_atRest user
        (Manager.begun_atRest _)).orderly hc
  have harrive : ∀ (k : Nat) (arrival : Link.Arrival),
      Orderly (c.arrive k arrival).1.sessions Manager.AtRest := by
    intro k arrival
    cases hk : c.sessions[k]? with
    | none =>
      rw [arrive_none hk]
      exact hc
    | some s =>
      rw [arrive_some hk]
      exact hc.modify k (Manager.tame_arrive_atRest arrival)
  have hdoes := perform_does hsingle net a
  generalize c.perform net a = turn at hdoes ⊢
  cases hdoes with
  | connect _ _ _ h | connectWithToken _ _ h => exact hjoined h
  | unsent | unsentThrough | clear | deafen => exact hc
  | sent hu hp chatId text => exact hc.modify _ (Manager.tame_send_atRest _)
  | sentThrough hk hp text => exact hc.modify _ (Manager.tame_sendThrough_atRest text)
  | released ha => exact hc.modify _ Manager.tame_close_atRest
  | receive k bs => exact harrive k (.octets bs)
  | hangUp k cut => exact harrive k (.hangUp cut)

def schedule (net : Network) : Client → List Action → List Move
  | _, [] => []
  | c, a :: actions => a.schedule c ++ schedule net (c.perform net a).client actions

/-- A run in which everything settles is a schedule of the tasks, with the same client behind it and
the same events. -/
theorem after_eq_course (net : Network) (server : Server) (clock : FixedClock)
    (audience : Audience) (actions : List Action) :
    let start := fresh server clock audience
    let moves := schedule net start actions
    course net start moves = after net start actions ∧
      (strides net start moves).flatMap (·.turn.events) =
        (steps net start actions).flatMap (·.turn.events) := by
  have hrun : ∀ c : Client, Orderly c.sessions Manager.AtRest →
      course net c (schedule net c actions) = after net c actions ∧
        (strides net c (schedule net c actions)).flatMap (·.turn.events) =
          (steps net c actions).flatMap (·.turn.events) := by
    induction actions with
    | nil => exact fun _ _ => ⟨rfl, rfl⟩
    | cons a actions ih =>
      intro c hc
      have hfirst := perform_amounts hc net a
      obtain ⟨hclient, hevents⟩ := ih _ (perform_atRest hc net a)
      simp only [schedule]
      rw [course_append, strides_append, List.flatMap_append, hfirst.client, hfirst.events, hclient,
        hevents]
      exact ⟨rfl, rfl⟩
  exact hrun _ ⟨fun _ _ h => by simp [fresh] at h, fun _ _ h => by simp [fresh] at h⟩

end Client

end Parley
