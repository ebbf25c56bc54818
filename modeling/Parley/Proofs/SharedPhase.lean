import Parley.Proofs.Ledger

/-! What it means that all connections of a manager share one phase. The phase is open exactly while
the newest connection is live and not undercut, and then the newest can be sent on and closed and
keeps a further one from being opened. A live connection that was undercut can do none of this. And
since the reader of a closed connection looks at the same phase, it passes late texts on again as
soon as a further connection has opened it. -/

namespace Parley.Manager

open Connection Socket

def wires (m : Manager) : List (List Outbound) := m.links.map (·.wire)

/-- The newest connection can be sent on, keeps others from being opened, and is closed with the one
close frame. -/
def Serves (m : Manager) (net : Network) : Prop :=
  ∃ earlier newest, m.wires = earlier ++ [newest] ∧
    (∀ text, ∃ m',
      m.send text = (.ok (), m', []) ∧ m'.wires = earlier ++ [newest ++ [.text text]]) ∧
    (∀ url remote, m.dial net url remote = ⟨.error .alreadyConnected, m, [], remote⟩) ∧
    m.close.1.wires = earlier ++ [newest ++ [.close normal ""]]

/-- The newest connection can neither be sent on nor closed, and others may be opened beside it. -/
def Strands (m : Manager) (net : Network) : Prop :=
  m.phase = .closed ∧
    (∀ text, m.send text = (.error .notConnected, m, [])) ∧
    (∀ url remote, (m.dial net url remote).result ≠ .error .alreadyConnected) ∧
    m.close.1.wires = m.wires

theorem Steady.serves {m : Manager} (h : m.Steady) (hp : m.phase = .opened) (net : Network) :
    m.Serves net := by
  cases h with
  | idle => simp [fresh] at hp
  | closed held h => simp at hp
  | @opened earlier newest h hn =>
    refine ⟨earlier.map (·.wire), newest.wire, by simp [wires], fun text => ?_,
      fun url remote => ?_, ?_⟩
    · exact ⟨_, sendThrough_newest h hn _ text, by simp [wires, Link.sent]⟩
    · exact dial_live rfl net url remote
    · rw [close_opened h hn]
      simp [wires, Link.shut]

theorem Steady.strands {m : Manager} (h : m.Steady) (hp : m.phase = .closed) (net : Network) :
    m.Strands net := by
  cases h with
  | idle => simp [fresh] at hp
  | opened h hn => simp at hp
  | @closed held links h =>
    refine ⟨rfl, send_closed h, fun url remote => ?_, by rw [close_closed h]; rfl⟩
    have hl : (phase ⟨.closed, held, links⟩).isLive = false := rfl
    cases hs : handshake net url remote with
    | mk result after =>
      cases result with
      | error refusal => simp [dial_refused hl hs]
      | ok greeting => simp [dial_agreed hl hs]

theorem Ledger.isUsable_iff (fs : Ledger) :
    fs.isUsable = true ↔ ∃ f, fs.getLast? = some f ∧ f.isLive = true ∧ f.undercut = false := by
  simp [isUsable, Fate.isUsable, Option.any_eq_true]

/-- The phase follows the newest connection up to the late ends of earlier ones, and so does all
that can be done with it. -/
theorem phase_opened_iff (net : Network) (actions : List Action) :
    ((after net fresh actions).phase = .opened ↔
      ∃ f, (ledger net actions).getLast? = some f ∧ f.isLive = true ∧ f.undercut = false) ∧
    ∀ f, (ledger net actions).getLast? = some f → f.isLive = true →
      (f.undercut = false → (after net fresh actions).Serves net) ∧
      (f.undercut = true → (after net fresh actions).Strands net) := by
  have htracks := ledger_tracks net actions
  have hsteady := steady_after net actions
  have hiff := htracks.usable.trans (Ledger.isUsable_iff _)
  refine ⟨hiff, fun f hf hlive => ⟨fun hu => ?_, fun hu => ?_⟩⟩
  · exact hsteady.serves (hiff.2 ⟨f, hf, hlive, hu⟩) net
  · have hnot : (after net fresh actions).phase ≠ .opened := by
      intro hp
      obtain ⟨g, hg, -, hgu⟩ := hiff.1 hp
      rw [hf, Option.some.injEq] at hg
      rw [← hg, hu] at hgu
      exact Bool.noConfusion hgu
    have hlinks : (after net fresh actions).links ≠ [] := by
      intro h
      have hlen := htracks.length_eq
      rw [h, List.length_nil, List.length_eq_zero_iff] at hlen
      simp [hlen] at hf
    exact hsteady.strands (hsteady.phase_closed hlinks hnot) net

def chatUrl : Url := ⟨"ws", "", none, some (.name "chat"), some 3000, .segments ["s"], none, none⟩

/-- A connection is closed and another one opened before the server acknowledges. -/
def reopening : List Action := [.dial chatUrl [agreement []], .close, .dial chatUrl [agreement []]]

def acknowledgement : Action := .receive 0 (Frame.octets .close [3, 232])

theorem phase_opened_iff_reopening :
    (after everywhere fresh reopening).Serves everywhere ∧
      (after everywhere fresh (reopening ++ [acknowledgement])).Strands everywhere :=
  ⟨((phase_opened_iff everywhere reopening).2 ⟨false, false, false⟩ (by decide)
      (by decide)).1 (by decide),
    ((phase_opened_iff everywhere (reopening ++ [acknowledgement])).2 ⟨false, false, true⟩
      (by decide) (by decide)).2 (by decide)⟩

/-- The acknowledgement of the first close takes the phase away from the second connection, which
was neither closed nor has ended. -/
theorem live_newest_not_opened :
    ¬ ∀ (net : Network) (actions : List Action),
      (after net fresh actions).phase = .opened ↔
        ∃ f, (ledger net actions).getLast? = some f ∧ f.isLive = true := by
  intro h
  have hlive : (ledger everywhere (reopening ++ [acknowledgement])).getLast? =
      some ⟨false, false, true⟩ := by
    decide
  have hopened := (h everywhere (reopening ++ [acknowledgement])).2 ⟨_, hlive, rfl⟩
  have hclosed : (after everywhere fresh (reopening ++ [acknowledgement])).phase = .closed := by
    decide
  rw [hclosed] at hopened
  exact Phase.noConfusion hopened

def texts (signals : List Signal) : List String :=
  signals.filterMap fun
    | .text s => some s
    | _ => none

/-- The connection whose octets an action brings. A dial brings those of the connection it opens, of
which there is none yet. -/
def Action.source? (opened : Nat) : Action → Option Nat
  | .dial .. => some opened
  | .receive k _ | .hangUp k _ => some k
  | .send _ | .sendThrough .. | .close => none

def delivered (net : Network) (actions : List Action) (k : Nat) (a : Action) : List String :=
  if a.source? (ledger net actions).length = some k then
    texts ((after net fresh actions).act net a).signals
  else []

/-- The texts of one connection that an action brings: those in the frames read from it. -/
def offered (m : Manager) (k : Nat) : Action → List String
  | .receive j bs =>
    if j = k then
      match m.links[k]? with
      | some l => (untilEnd (l.endpoint.receive bs).2).filterMap Item.text?
      | none => []
    else []
  | _ => []

theorem texts_reports (phase : Phase) (items : List Item) :
    texts (items.flatMap (Reader.reports phase)) =
      if phase = .opened then items.filterMap Item.text? else [] := by
  induction items with
  | nil => simp [texts]
  | cons item items ih =>
    simp only [texts, List.flatMap_cons, List.filterMap_append] at ih ⊢
    rw [ih]
    cases item <;> by_cases hp : phase = .opened <;>
      simp [Reader.reports, List.filterMap_cons, Item.text?, hp]

theorem texts_heard (phase : Phase) (items : List Item) :
    texts (Link.heard phase items) =
      if phase = .opened then (untilEnd items).filterMap Item.text? else [] := by
  have h := texts_reports phase (untilEnd items)
  unfold texts at h ⊢
  rw [Link.heard, List.filterMap_append, h]
  cases endOf? items <;> simp

/-- The texts of an arrival are passed on while its own reader runs and the shared phase is open. -/
theorem texts_arrive {m : Manager} (hm : m.Steady) {k : Nat} {l : Link} (hk : m.links[k]? = some l)
    (a : Link.Arrival) :
    texts (m.arrive k a).2 =
      if l.reading = true ∧ m.phase = .opened then
        (untilEnd (a.items l.endpoint)).filterMap Item.text?
      else [] := by
  rw [arrive_some hm.queue hk]
  cases hr : l.reading with
  | false => simp [Link.arrive, hr, texts]
  | true => simp [Link.arrive, hr, texts_heard]

theorem Ledger.Tracks.reading {fs : Ledger} {m : Manager} (h : fs.Tracks m) {k : Nat} {f : Fate}
    (hf : fs[k]? = some f) : ∃ l, m.links[k]? = some l ∧ l.reading = !f.finished := by
  have hk := congrArg (·[k]?) h.finished
  simp only [List.getElem?_map, hf, Option.map_some] at hk
  cases hl : m.links[k]? with
  | none => simp [hl] at hk
  | some l =>
    simp only [hl, Option.map_some, Option.some.injEq] at hk
    exact ⟨l, rfl, by rw [hk, Bool.not_not]⟩

theorem delivered_eq (net : Network) (actions : List Action) {k : Nat} {f : Fate}
    (hf : (ledger net actions)[k]? = some f) (a : Action) :
    delivered net actions k a =
      if f.finished = false ∧ (ledger net actions).isUsable = true then
        offered (after net fresh actions) k a
      else [] := by
  have htracks := ledger_tracks net actions
  have hsteady := steady_after net actions
  obtain ⟨l, hl, hr⟩ := htracks.reading hf
  have harrive := fun b => texts_arrive hsteady hl b
  simp only [htracks.usable, hr, Bool.not_eq_true'] at harrive
  have hlt : k < (ledger net actions).length := (List.getElem?_eq_some_iff.1 hf).1
  cases a with
  | dial url replies =>
    have hne : (ledger net actions).length ≠ k := Nat.ne_of_gt hlt
    simp [delivered, Action.source?, hne, offered]
  | send text => simp [delivered, Action.source?, offered]
  | sendThrough j text => simp [delivered, Action.source?, offered]
  | close => simp [delivered, Action.source?, offered]
  | receive j bs =>
    by_cases hj : j = k
    · subst hj
      have hturn : ((after net fresh actions).act net (.receive j bs)).signals =
          ((after net fresh actions).arrive j (.octets bs)).2 := by rw [← receive_eq]; rfl
      simp only [delivered, Action.source?, offered, hl, if_true, hturn, harrive,
        Link.Arrival.items]
    · simp [delivered, Action.source?, offered, hj]
  | hangUp j cut =>
    by_cases hj : j = k
    · subst hj
      have hturn : ((after net fresh actions).act net (.hangUp j cut)).signals =
          ((after net fresh actions).arrive j (.hangUp cut)).2 := by rw [← hangUp_eq]; rfl
      simp [delivered, Action.source?, offered, hturn, harrive, Link.Arrival.items,
        Endpoint.hangUpItems, untilEnd, Item.endCode?, Item.text?]
    · simp [delivered, Action.source?, offered, hj]

/-- Behind a close a connection stays closed, and its late texts are passed on if and only if its
own end has not been reported yet and a later connection is live and not undercut. -/
theorem delivered_behind_close (net : Network) (actions later : List Action) {k : Nat} {f : Fate}
    (hf : (ledger net actions)[k]? = some f) (hclosed : f.shut = true ∨ f.finished = true)
    (a : Action) :
    ∃ g, (ledger net (actions ++ later))[k]? = some g ∧ (g.shut = true ∨ g.finished = true) ∧
      delivered net (actions ++ later) k a =
        (if g.finished = false ∧ (ledger net (actions ++ later)).isUsable = true then
          offered (after net fresh (actions ++ later)) k a
        else []) ∧
      (delivered net (actions ++ later) k a ≠ [] →
        k + 1 < (ledger net (actions ++ later)).length) := by
  obtain ⟨g, hg, hfg⟩ := ledger_precedes net actions later hf
  have hgclosed : g.shut = true ∨ g.finished = true := hclosed.imp hfg.shut hfg.finished
  have heq := delivered_eq net (actions ++ later) hg a
  refine ⟨g, hg, hgclosed, heq, fun hne => ?_⟩
  rw [heq] at hne
  split at hne
  · rename_i hopen
    obtain ⟨hfinished, husable⟩ := hopen
    obtain ⟨n, hn, hlive, -⟩ := (Ledger.isUsable_iff _).1 husable
    have hlt : k < (ledger net (actions ++ later)).length := (List.getElem?_eq_some_iff.1 hg).1
    -- Were it the newest itself, it would be live.
    have hlast : k + 1 ≠ (ledger net (actions ++ later)).length := by
      intro hk
      have hidx : (ledger net (actions ++ later)).length - 1 = k := by omega
      rw [List.getLast?_eq_getElem?, hidx, hg, Option.some.injEq] at hn
      subst hn
      simp only [Fate.isLive, Bool.and_eq_true, Bool.not_eq_true'] at hlive
      simp [hlive] at hgclosed
    omega
  · exact absurd rfl hne

def lateText : Action := .receive 0 (Frame.octets .text [108, 97, 116, 101])

theorem delivered_behind_close_reopening :
    ∃ g, (ledger everywhere (reopening.take 2 ++ reopening.drop 2))[0]? = some g ∧
      (g.shut = true ∨ g.finished = true) ∧
      delivered everywhere (reopening.take 2 ++ reopening.drop 2) 0 lateText =
        (if g.finished = false ∧
          (ledger everywhere (reopening.take 2 ++ reopening.drop 2)).isUsable = true then
          offered (after everywhere fresh (reopening.take 2 ++ reopening.drop 2)) 0 lateText
        else []) ∧
      (delivered everywhere (reopening.take 2 ++ reopening.drop 2) 0 lateText ≠ [] →
        0 + 1 < (ledger everywhere (reopening.take 2 ++ reopening.drop 2)).length) :=
  delivered_behind_close everywhere (reopening.take 2) (reopening.drop 2)
    (f := ⟨true, false, false⟩) (by decide) (Or.inl rfl) lateText

theorem late_text_delivered :
    ¬ ∀ (net : Network) (actions later : List Action) (k : Nat) (f : Fate),
      (ledger net actions)[k]? = some f → f.shut = true ∨ f.finished = true →
        ∀ a, delivered net (actions ++ later) k a = [] := by
  intro h
  have hnone := h everywhere (reopening.take 2) (reopening.drop 2) 0 ⟨true, false, false⟩
    (by decide) (Or.inl rfl) lateText
  have hsome : delivered everywhere (reopening.take 2 ++ reopening.drop 2) 0 lateText =
      ["late"] := by
    decide
  rw [hsome] at hnone
  exact List.cons_ne_nil _ _ hnone

end Parley.Manager
