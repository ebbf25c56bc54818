import Parley.Proofs.Manager

/-! A ledger of the connections of one manager, kept from outside: what was asked, what came of it
and which ends were reported, but never the phase. A connection is live until it is closed or has
ended. The phase is shared by all of them, so an earlier connection that ends late closes it under
the newest one: the newest is undercut, and the ledger says exactly when that happens. -/

namespace Parley.Manager

open Connection Socket

structure Step where
  action : Action
  turn : Turn

def steps (net : Network) (m : Manager) (actions : List Action) : List Step :=
  List.zipWith Step.mk actions (life net m actions)

theorem life_length (net : Network) (m : Manager) (actions : List Action) :
    (life net m actions).length = actions.length := by
  induction actions generalizing m with
  | nil => rfl
  | cons a actions ih => simp [life, ih]

theorem steps_append_singleton (net : Network) (m : Manager) (actions : List Action) (a : Action) :
    steps net m (actions ++ [a]) =
      steps net m actions ++ [⟨a, (after net m actions).act net a⟩] := by
  unfold steps
  rw [life_append_singleton, List.zipWith_append (life_length net m actions).symm]
  rfl

/-- What is known of one connection. -/
structure Fate where
  /-- It was the newest when the manager was asked to close. -/
  shut : Bool
  /-- Its end was reported. -/
  finished : Bool
  /-- It was the newest when the end of an earlier one was reported. -/
  undercut : Bool
deriving DecidableEq, Repr

def Fate.isLive (f : Fate) : Bool := !f.shut && !f.finished

def Fate.isUsable (f : Fate) : Bool := f.isLive && !f.undercut

def ended (signals : List Signal) : Bool :=
  signals.any fun
    | .closed _ => true
    | _ => false

/-- The connections in the order they were opened. -/
abbrev Ledger := List Fate

namespace Ledger

def shutNewest (fs : Ledger) : Ledger :=
  fs.mapIdx fun i f => if i + 1 = fs.length then { f with shut := true } else f

def noteEnd (fs : Ledger) (k : Nat) : Ledger :=
  fs.mapIdx fun i f =>
    if i = k then { f with finished := true }
    else if i + 1 = fs.length then { f with undercut := true }
    else f

def note (fs : Ledger) (s : Step) : Ledger :=
  match s.action with
  | .dial .. =>
    match s.turn.result with
    | .ok () => fs ++ [⟨false, ended s.turn.signals, false⟩]
    | .error _ => fs
  | .close => fs.shutNewest
  | .receive k _ | .hangUp k _ => if ended s.turn.signals then fs.noteEnd k else fs
  | .send _ | .sendThrough .. => fs

def ofSteps (steps : List Step) : Ledger := steps.foldl note []

/-- Whether the newest connection is live and not undercut. -/
def isUsable (fs : Ledger) : Bool := fs.getLast?.any Fate.isUsable

theorem shutNewest_finished (fs : Ledger) :
    fs.shutNewest.map (·.finished) = fs.map (·.finished) := by
  apply List.ext_getElem (by simp [shutNewest])
  intro i h _
  simp only [shutNewest, List.getElem_map, List.getElem_mapIdx]
  split <;> rfl

theorem shutNewest_not_usable (fs : Ledger) : fs.shutNewest.isUsable = false := by
  cases fs using List.reverseRecOn with
  | nil => rfl
  | append_singleton fs f => simp [shutNewest, isUsable, Fate.isUsable, Fate.isLive]

theorem noteEnd_finished (fs : Ledger) (k : Nat) :
    (fs.noteEnd k).map (·.finished) = (fs.map (·.finished)).set k true := by
  apply List.ext_getElem (by simp [noteEnd])
  intro i h _
  simp only [noteEnd, List.getElem_map, List.getElem_mapIdx, List.getElem_set]
  by_cases hik : i = k
  · simp [hik]
  · rw [if_neg hik, if_neg (Ne.symm hik)]
    split <;> rfl

theorem noteEnd_not_usable (fs : Ledger) (k : Nat) : (fs.noteEnd k).isUsable = false := by
  cases fs using List.reverseRecOn with
  | nil => rfl
  | append_singleton fs f =>
    simp only [noteEnd, isUsable, List.mapIdx_append, List.mapIdx_cons, List.mapIdx_nil,
      List.getLast?_append]
    by_cases hk : fs.length = k <;> simp [hk, Fate.isUsable, Fate.isLive]

/-- Nothing is earlier than the newest when the newest itself ends. -/
theorem noteEnd_newest (fs : Ledger) (f : Fate) :
    noteEnd (fs ++ [f]) fs.length = fs ++ [{ f with finished := true }] := by
  unfold noteEnd
  rw [List.mapIdx_append, List.mapIdx_cons, List.mapIdx_nil, Nat.zero_add, if_pos rfl]
  congr 1
  apply List.ext_getElem (by simp)
  intro i _ hi
  have hne : i ≠ fs.length := Nat.ne_of_lt hi
  simp [hne]

end Ledger

theorem ended_reports (phase : Phase) (items : List Item) :
    ended (items.flatMap (Reader.reports phase)) = false := by
  simp only [ended, List.any_eq_false, List.mem_flatMap]
  rintro signal ⟨item, -, hs⟩
  unfold Reader.reports at hs
  split at hs
  · split at hs
    · simp_all
    · simp at hs
  · simp_all
  · simp at hs

theorem ended_heard (phase : Phase) (items : List Item) :
    ended (Link.heard phase items) = (endOf? items).isSome := by
  have h := ended_reports phase (untilEnd items)
  unfold ended at h ⊢
  rw [Link.heard, List.any_append, h, Bool.false_or]
  cases endOf? items <;> rfl

/-- The ledger says of every link whether its reader has stopped, and of the phase whether it is
open. -/
structure Ledger.Tracks (fs : Ledger) (m : Manager) : Prop where
  finished : fs.map (·.finished) = m.links.map (!·.reading)
  usable : m.phase = .opened ↔ fs.isUsable = true

namespace Ledger.Tracks

variable {fs : Ledger} {m : Manager}

theorem length_eq (h : fs.Tracks m) : fs.length = m.links.length := by
  have := congrArg List.length h.finished
  simpa using this

/-- An arrival that reports no end changes nothing the ledger speaks of; one that does stops its own
reader and takes the phase away from whoever is the newest. -/
theorem arrive (h : fs.Tracks m) (hm : m.Steady) (k : Nat) (a : Link.Arrival) :
    Tracks (if ended (m.arrive k a).2 then fs.noteEnd k else fs) (m.arrive k a).1 := by
  cases hk : m.links[k]? with
  | none =>
    rw [arrive_none hk]
    exact h
  | some l =>
    have hsame : (m.links.map (!·.reading)).set k (!l.reading) = m.links.map (!·.reading) := by
      obtain ⟨hlt, rfl⟩ := List.getElem?_eq_some_iff.1 hk
      rw [← List.getElem_map (fun x : Link => !x.reading) (h := by simpa using hlt)]
      exact List.set_getElem_self _
    rw [arrive_some hm.queue hk]
    cases hr : l.reading with
    | false =>
      rw [hr] at hsame
      refine ⟨?_, ?_⟩
      · simpa [Link.arrive, hr, ended, h.finished, Function.comp_def, List.map_set] using hsame.symm
      · simpa [Link.arrive, hr, ended] using h.usable
    | true =>
      rw [hr] at hsame
      cases hend : endOf? (a.items l.endpoint) with
      | none =>
        refine ⟨?_, ?_⟩
        · simpa [Link.arrive, hr, ended_heard, hend, h.finished, Function.comp_def,
          List.map_set] using
            hsame.symm
        · simpa [Link.arrive, hr, ended_heard, hend] using h.usable
      | some code =>
        refine ⟨?_, ?_⟩
        · simp [Link.arrive, hr, ended_heard, hend, h.finished, noteEnd_finished, Function.comp_def,
          List.map_set]
        · simp [Link.arrive, hr, ended_heard, hend, noteEnd_not_usable]

theorem dial (h : fs.Tracks m) (hm : m.Steady) (net : Network) (url : Url)
    (replies : List Http.Reply) :
    Tracks (fs.note ⟨.dial url replies, m.dial net url (.ofReplies replies)⟩)
      (m.dial net url (.ofReplies replies)).manager := by
  cases hl : m.phase.isLive with
  | true =>
    rw [dial_live (hm.isLive_iff.1 hl)]
    exact h
  | false =>
    cases hs : handshake net url (.ofReplies replies) with
    | mk result after =>
      cases result with
      | error refusal =>
        rw [dial_refused hl hs]
        have hnot : fs.isUsable = false := by
          rw [← Bool.not_eq_true, ← h.usable, ← hm.isLive_iff, hl]
          exact Bool.false_ne_true
        refine ⟨h.finished, ?_⟩
        simp [note, hnot]
      | ok greeting =>
        rw [dial_agreed hl hs]
        -- The new connection is noted as if it had stood there before its first octets came.
        have hnew : Tracks (fs ++ [⟨false, false, false⟩])
            ⟨.opened, some m.links.length, m.links ++ [.fresh]⟩ :=
          ⟨by simp [h.finished, Link.fresh], by simp [isUsable, Fate.isUsable, Fate.isLive]⟩
        have hsteady := Steady.opened (hm.done hl) Link.fresh_live
        have hafter := hnew.arrive hsteady m.links.length (.octets greeting)
        have hlen : m.links.length = List.length fs := h.length_eq.symm
        have hended : ∀ signals, ended (.opened :: signals) = ended signals := fun _ => rfl
        simp only [note, hended]
        split at hafter
        · rename_i he
          rw [he]
          rwa [hlen, noteEnd_newest, ← hlen] at hafter
        · rename_i he
          rw [Bool.not_eq_true] at he
          rwa [he]

theorem shutNewest (h : fs.Tracks m) (hm : m.Steady) : Tracks fs.shutNewest m.close.1 := by
  refine ⟨?_, ?_⟩
  · rw [shutNewest_finished, h.finished]
    cases hm with
    | idle => rfl
    | closed held hd => rw [close_closed hd]
    | opened hd hn => simp [close_opened hd hn, Link.shut]
  · rw [shutNewest_not_usable]
    cases hm with
    | idle => simp [fresh, close]
    | closed held hd => simp [close_closed hd]
    | opened hd hn => simp [close_opened hd hn]

theorem sendThrough (h : fs.Tracks m) (hm : m.Steady) (k : Nat) (text : String) :
    fs.Tracks (m.sendThrough k text).2.1 := by
  cases hm with
  | idle => exact h
  | closed held hd =>
    rw [sendThrough_done fun l hl => hd l (List.mem_of_getElem? hl)]
    exact h
  | @opened earlier newest hd hn =>
    by_cases hk : k = earlier.length
    · rw [hk, sendThrough_newest hd hn]
      refine ⟨?_, h.usable⟩
      rw [h.finished]
      simp [Link.sent]
    · rw [sendThrough_done (sender_done hd hk)]
      exact h

theorem send (h : fs.Tracks m) (hm : m.Steady) (text : String) : fs.Tracks (m.send text).2.1 := by
  unfold Manager.send
  split
  · exact h
  · exact h.sendThrough hm _ text

theorem note (h : fs.Tracks m) (hm : m.Steady) (net : Network) (a : Action) :
    (fs.note ⟨a, m.act net a⟩).Tracks (m.act net a).manager := by
  cases a with
  | dial url replies => exact h.dial hm net url replies
  | send text => exact h.send hm text
  | sendThrough k text => exact h.sendThrough hm k text
  | close => exact h.shutNewest hm
  | receive k bs =>
    have := h.arrive hm k (.octets bs)
    rwa [← receive_eq] at this
  | hangUp k cut =>
    have := h.arrive hm k (.hangUp cut)
    rwa [← hangUp_eq] at this

end Ledger.Tracks

/-- What is known of a connection is never taken back. -/
structure Fate.Precedes (f g : Fate) : Prop where
  shut : f.shut = true → g.shut = true
  finished : f.finished = true → g.finished = true

theorem Fate.Precedes.refl (f : Fate) : f.Precedes f := ⟨id, id⟩

theorem Fate.Precedes.trans {f g h : Fate} (hfg : f.Precedes g) (hgh : g.Precedes h) :
    f.Precedes h :=
  ⟨hgh.shut ∘ hfg.shut, hgh.finished ∘ hfg.finished⟩

namespace Ledger

theorem shutNewest_precedes {fs : Ledger} {k : Nat} {f : Fate} (h : fs[k]? = some f) :
    ∃ g, fs.shutNewest[k]? = some g ∧ f.Precedes g := by
  simp only [shutNewest, List.getElem?_mapIdx, h, Option.map_some]
  split
  · exact ⟨_, rfl, fun _ => rfl, id⟩
  · exact ⟨_, rfl, .refl f⟩

theorem noteEnd_precedes {fs : Ledger} {k : Nat} {f : Fate} (h : fs[k]? = some f) (j : Nat) :
    ∃ g, (fs.noteEnd j)[k]? = some g ∧ f.Precedes g := by
  simp only [noteEnd, List.getElem?_mapIdx, h, Option.map_some]
  split
  · exact ⟨_, rfl, id, fun _ => rfl⟩
  split
  · exact ⟨_, rfl, id, id⟩
  · exact ⟨_, rfl, .refl f⟩

theorem note_precedes {fs : Ledger} {k : Nat} {f : Fate} (h : fs[k]? = some f) (s : Step) :
    ∃ g, (fs.note s)[k]? = some g ∧ f.Precedes g := by
  have hsame : ∃ g, fs[k]? = some g ∧ f.Precedes g := ⟨f, h, .refl f⟩
  obtain ⟨a, turn⟩ := s
  cases a with
  | dial url replies =>
    simp only [note]
    split
    · rwa [List.getElem?_append_left (List.getElem?_eq_some_iff.1 h).1]
    · exact hsame
  | send text => exact hsame
  | sendThrough j text => exact hsame
  | close => exact shutNewest_precedes h
  | receive j bs =>
    simp only [note]
    split
    · exact noteEnd_precedes h j
    · exact hsame
  | hangUp j =>
    simp only [note]
    split
    · exact noteEnd_precedes h j
    · exact hsame

end Ledger

/-- The ledger of a run. -/
def ledger (net : Network) (actions : List Action) : Ledger := .ofSteps (steps net fresh actions)

theorem ledger_append_singleton (net : Network) (actions : List Action) (a : Action) :
    ledger net (actions ++ [a]) =
      (ledger net actions).note ⟨a, (after net fresh actions).act net a⟩ := by
  simp [ledger, Ledger.ofSteps, steps_append_singleton]

theorem ledger_tracks (net : Network) (actions : List Action) :
    (ledger net actions).Tracks (after net fresh actions) := by
  induction actions using List.reverseRecOn with
  | nil => exact ⟨rfl, by simp [after, fresh, ledger, steps, life, Ledger.ofSteps, Ledger.isUsable]⟩
  | append_singleton actions a ih =>
    rw [ledger_append_singleton, after_append_singleton]
    exact ih.note (steady_after net actions) net a

theorem ledger_precedes (net : Network) (actions later : List Action) {k : Nat} {f : Fate}
    (h : (ledger net actions)[k]? = some f) :
    ∃ g, (ledger net (actions ++ later))[k]? = some g ∧ f.Precedes g := by
  induction later using List.reverseRecOn with
  | nil => exact ⟨f, by rwa [List.append_nil], .refl f⟩
  | append_singleton later a ih =>
    obtain ⟨g, hg, hfg⟩ := ih
    rw [← List.append_assoc, ledger_append_singleton]
    obtain ⟨g', hg', hgg'⟩ := Ledger.note_precedes hg ⟨a, _⟩
    exact ⟨g', hg', hfg.trans hgg'⟩

end Parley.Manager
