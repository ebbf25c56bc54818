import Parley.Proofs.Members

/-! Records against the grammar. An object and a list say the same of a draft: of each field, which
document gives it, if any. Where a list is too short its last fields are absent. -/

namespace Parley.Json

variable {draft α : Type} {schema : Schema draft α} {columns : List (Column draft)}

/-- At the end of a list all fields that are still to come are absent. -/
theorem positions_end_sound {expected : String} {slots : List (Slot draft)} {count : Nat}
    {d e : draft} {cs after mid : List Char} (hs : skipSpace cs = ']' :: after)
    (hp : positions expected slots count d cs = .ok (e, mid)) :
    e = d ∧ skipSpace mid = ']' :: after := by
  induction slots generalizing count cs with
  | nil =>
    cases hp
    exact ⟨rfl, hs⟩
  | cons slot slots ih =>
    simp only [positions, nextElement_end hs] at hp
    split at hp
    · simp at hp
    · exact ih (skipSpace_of_not (by decide) after) hp

theorem positions_end_complete (expected : String) {slots : List (Slot draft)} (count : Nat)
    (d : draft) {cs after : List Char} (hs : skipSpace cs = ']' :: after)
    (hopt : ∀ slot ∈ slots, slot.required = false) :
    ∃ mid, positions expected slots count d cs = .ok (d, mid) ∧ skipSpace mid = ']' :: after := by
  induction slots generalizing count cs with
  | nil => exact ⟨cs, rfl, hs⟩
  | cons slot slots ih =>
    simp only [positions, nextElement_end hs, hopt slot List.mem_cons_self, Bool.false_eq_true,
      if_false]
    exact ih _ (skipSpace_of_not (by decide) after) fun s h => hopt s (List.mem_cons_of_mem _ h)

theorem forall₂_byPosition_nil {R : Column draft → Option Doc → Prop}
    {cols : List (Column draft)} :
    List.Forall₂ R cols (byPosition [] cols.length) ↔ ∀ c ∈ cols, R c none := by
  induction cols with
  | nil => simp [byPosition]
  | cons c cols ih => simpa [byPosition, List.replicate_succ] using fun _ => ih

theorem positions_sound {expected : String} {cols : List (Column draft)}
    (hapart : cols.Pairwise Column.Apart) {count : Nat} {d e : draft} {cs mid rest : List Char}
    (hempty : ∀ c ∈ cols, c.get d = none)
    (hp : positions expected (cols.map Column.slot) count d cs = .ok (e, mid))
    (hclose : skipSpace mid = ']' :: rest) :
    ∃ ds tail, SpellsItems (count = 0) ds cs tail ∧ skipSpace tail = ']' :: rest ∧
      ds.length ≤ cols.length ∧
      List.Forall₂ (fun c v => c.Given e v) cols (byPosition ds cols.length) ∧
      ∀ c : Column draft, (∀ c' ∈ cols, c.Apart c') → c.get e = c.get d := by
  induction cols generalizing count d cs with
  | nil =>
    cases hp
    exact ⟨[], mid, rfl, hclose, Nat.le_refl _, .nil, fun _ _ => rfl⟩
  | cons c cols ih =>
    obtain ⟨hc, hapart⟩ := List.pairwise_cons.1 hapart
    simp only [List.map_cons, positions] at hp
    split at hp
    · simp at hp
    · rename_i end' hn
      obtain ⟨-, after, hs, rfl⟩ | ⟨hfalse, -⟩ := nextElement_sound hn
      · split at hp
        · simp at hp
        obtain ⟨rfl, hend⟩ := positions_end_sound (skipSpace_of_not (by decide) after) hp
        rw [hclose] at hend
        exact ⟨[], cs, rfl, hs.trans hend.symm, Nat.zero_le _, forall₂_byPosition_nil.2 hempty,
          fun _ _ => rfl⟩
      · exact Bool.noConfusion hfalse
    · rename_i next hn
      obtain ⟨hfalse, -⟩ | ⟨-, start, hstart, rfl⟩ := nextElement_sound hn
      · exact Bool.noConfusion hfalse
      split at hp
      · simp at hp
      · rename_i d' behind hread
        obtain ⟨a, hreader, rfl⟩ := c.slot_read_eq_ok.1 hread
        obtain ⟨doc, hd, ha⟩ := c.reads.sound hreader
        have hleft : ∀ c' ∈ cols, c'.get (c.set d a) = none := fun c' h => by
          rw [(hc c' h).right, hempty c' (List.mem_cons_of_mem _ h)]
        obtain ⟨ds, tail, hitems, htail, hlen, hgiven, hframe⟩ := ih hapart hleft hp
        refine ⟨doc :: ds, tail, ⟨start, behind, hstart, spells_skipSpace.1 hd, hitems⟩, htail,
          Nat.succ_le_succ hlen, ?_, fun c' h => ?_⟩
        · rw [List.length_cons, byPosition_cons]
          exact .cons ⟨a, ha, (hframe c hc).trans (c.get_set d a)⟩ hgiven
        · rw [hframe c' fun e he => h e (List.mem_cons_of_mem _ he),
            (h c List.mem_cons_self).left]

/-- The draft is complete but for the fields that are still to come. -/
theorem Table.positions_complete (h : Table schema columns) (expected : String) (count : Nat)
    {cols : List (Column draft)} (hcols : cols ⊆ columns) {d e : draft}
    {cs tail rest : List Char} {ds : List Doc} (hitems : SpellsItems (count = 0) ds cs tail)
    (hclose : skipSpace tail = ']' :: rest) (hlen : ds.length ≤ cols.length)
    (hgiven : List.Forall₂ (fun c v => c.Given e v) cols (byPosition ds cols.length))
    (hrequired : ∀ c ∈ cols, c.required = true → c.get e ≠ none)
    (hdone : ∀ c ∈ columns, c ∈ cols ∧ c.get d = none ∨ c.get e = c.get d) :
    ∃ mid, positions expected (cols.map Column.slot) count d cs = .ok (e, mid) ∧
      skipSpace mid = ']' :: rest := by
  induction ds generalizing cols count d cs with
  | nil =>
    -- What is still to come is absent, and empty in the draft, which is therefore complete.
    obtain rfl : cs = tail := hitems
    rw [forall₂_byPosition_nil] at hgiven
    obtain rfl : e = d := by
      refine h.ext _ _ fun c hc => ?_
      rcases hdone c hc with ⟨hleft, hnone⟩ | hsame
      · exact (hgiven c hleft).trans hnone.symm
      · exact hsame
    refine positions_end_complete expected count e hclose fun slot hslot => ?_
    obtain ⟨c, hc, rfl⟩ := List.mem_map.1 hslot
    by_contra hreq
    exact hrequired c hc (by simpa [Column.slot] using hreq) (hgiven c hc)
  | cons doc ds ih =>
    cases cols with
    | nil => simp at hlen
    | cons c cols =>
      rw [List.length_cons, byPosition_cons] at hgiven
      obtain ⟨⟨a, ha, hget⟩, hgiven⟩ := List.forall₂_cons.1 hgiven
      obtain ⟨hc, hcols⟩ := List.cons_subset.1 hcols
      obtain ⟨start, behind, hstart, hd, hitems⟩ := hitems
      obtain ⟨first, more, hs, hne⟩ := hd.head
      have hread : c.slot.read d (first :: more) = .ok (c.set d a, behind) :=
        c.slot_read_eq_ok.2 ⟨a, c.reads.complete (hs ▸ spells_skipSpace.2 hd) ha, rfl⟩
      have hdone : ∀ c' ∈ columns,
          c' ∈ cols ∧ c'.get (c.set d a) = none ∨ c'.get e = c'.get (c.set d a) := by
        intro c' hc'
        by_cases heq : c' = c
        · subst heq
          exact Or.inr (hget.trans (c'.get_set d a).symm)
        · rw [(h.apart_of_ne hc' hc heq).left]
          simpa [heq] using hdone c' hc'
      simp only [List.map_cons, positions, nextElement_more hstart hs hne, hread]
      exact ih _ hcols hitems (Nat.le_of_succ_le_succ hlen) hgiven
        (fun c' hc' => hrequired c' (List.mem_cons_of_mem _ hc')) hdone

theorem conclude_eq_ok {finish : draft → Except String α} {closer : Char}
    {r : Except Halt (Rest draft)} {a : α} {rest : List Char} :
    conclude finish closer r = .ok (a, rest) ↔ ∃ d, r = .ok (d, rest) ∧ finish d = .ok a := by
  constructor
  · intro h
    unfold conclude at h
    split at h
    · simp at h
    · simp at h
    · split at h
      · rename_i hf
        cases h
        exact ⟨_, rfl, hf⟩
      · simp at h
  · rintro ⟨d, rfl, hf⟩
    simp [conclude, hf]

theorem behind_closer {cs rest : List Char} {closer : Char} (h : skipSpace cs = closer :: rest) :
    behind closer cs = rest := by
  simp [behind, h]

theorem exists_forall₂ {β γ : Type*} {R : β → γ → Prop} {bs : List β} :
    (∃ vs, List.Forall₂ R bs vs) ↔ ∀ b ∈ bs, ∃ v, R b v := by
  induction bs with
  | nil => simp
  | cons b bs ih =>
    rw [List.forall_mem_cons, ← ih]
    constructor
    · rintro ⟨vs, h⟩
      cases h with
      | cons hb hbs => exact ⟨⟨_, hb⟩, _, hbs⟩
    · rintro ⟨⟨v, hb⟩, vs, hbs⟩
      exact ⟨v :: vs, .cons hb hbs⟩

/-- The documents of a record: what they give for the fields makes a draft that can be finished. -/
def Column.Form (columns : List (Column draft)) (finish : draft → Except String α) (doc : Doc)
    (a : α) : Prop :=
  ∃ vs d, doc.Fields (columns.map Column.names) vs ∧
    List.Forall₂ (fun c v => c.Given d v) columns vs ∧ finish d = .ok a

theorem Table.takes_blank (h : Table schema columns) {keyed : List (String × Doc)} {d : draft} :
    (∀ c ∈ columns, c.Takes schema.blank d (named c.names keyed)) ↔
      ∃ vs, List.Forall₂ (fun ns v => named ns keyed = v.toList) (columns.map Column.names) vs ∧
        List.Forall₂ (fun c v => c.Given d v) columns vs := by
  have htakes : (∀ c ∈ columns, c.Takes schema.blank d (named c.names keyed)) ↔
      ∀ c ∈ columns, ∃ v : Option Doc, named c.names keyed = v.toList ∧ c.Given d v :=
    forall₂_congr fun c hc => Column.takes_empty (h.blank c hc) _
  rw [htakes, ← exists_forall₂]
  simp only [List.forall₂_map_left_iff]
  constructor
  · rintro ⟨vs, hvs⟩
    exact ⟨vs, hvs.imp fun _ _ => And.left, hvs.imp fun _ _ => And.right⟩
  · rintro ⟨vs, hnamed, hgiven⟩
    exact ⟨vs, hnamed.mp (fun _ _ => And.intro) hgiven⟩

theorem Table.reads (h : Table schema columns) (title : String) :
    Reads (record title (some schema)) (Column.Form columns schema.finish) where
  sound {cs rest a} hr := by
    unfold record at hr
    split at hr
    · simp at hr
    · rename_i inner hopen
      obtain ⟨⟨b, mid⟩, hpos, hr⟩ := bind_eq_ok.1 hr
      obtain ⟨last, hclose, heq⟩ := bind_eq_ok.1 hr
      cases heq
      obtain ⟨d, hpos, hf⟩ := conclude_eq_ok.1 hpos
      rw [h.slots] at hpos
      obtain ⟨ds, tail, hitems, htail, hlen, hgiven, -⟩ :=
        positions_sound h.apart h.blank hpos (closeList_iff.1 hclose)
      exact ⟨.list ds, ⟨inner, tail, hopen, hitems, htail⟩, _, d,
        .list (by simpa using hlen), by simpa using hgiven, hf⟩
    · rename_i inner hopen
      obtain ⟨⟨b, mid⟩, hmem, hr⟩ := bind_eq_ok.1 hr
      cases hr
      obtain ⟨d, hmem, hf⟩ := conclude_eq_ok.1 hmem
      obtain ⟨ms, keyed, tail, after, hmembers, hkeys, ht, hclose, rfl⟩ := h.members_sound hmem
      obtain ⟨vs, hnamed, hgiven⟩ := h.takes_blank.1 ht
      exact ⟨.object ms, ⟨inner, tail, hopen, hmembers, hclose⟩, vs, d, .object hkeys hnamed,
        hgiven, hf⟩
    · simp at hr
  complete {doc cs rest a} hd := by
    rintro ⟨vs, d, hfields, hgiven, hf⟩
    cases hfields with
    | @object ms keyed vs hkeys hnamed =>
      obtain ⟨inner, tail, hopen, hmembers, hclose⟩ := hd
      have hmem : members schema.slots (inner.length + 1) true schema.blank inner =
          .ok (d, '\x7d' :: rest) :=
        h.members_complete (Nat.lt_succ_self _) hmembers hkeys
          (h.takes_blank.2 ⟨vs, hnamed, hgiven⟩) hclose
      have hend : behind '\x7d' ('\x7d' :: rest) = rest :=
        behind_closer (skipSpace_of_not (by decide) rest)
      simp [record, hopen, hmem, conclude, hf, hend, bind, Except.bind, pure, Except.pure]
    | @list ds hlen =>
      obtain ⟨inner, tail, hopen, hitems, hclose⟩ := hd
      obtain ⟨mid, hpos, hmid⟩ := h.positions_complete
        (lengthText title schema.slots.length) 0 (List.Subset.refl _) hitems hclose
        (by simpa using hlen) (by simpa using hgiven)
        (fun c hc hreq => h.required c hc hreq d a hf) fun c hc => Or.inl ⟨hc, h.blank c hc⟩
      rw [← h.slots] at hpos
      simp [record, hopen, hpos, conclude, hf, closeList_iff.2 hmid, bind, Except.bind, pure,
        Except.pure]

theorem reads_record_none (draft α : Type) (title : String) :
    Reads (record title (none : Option (Schema draft α))) fun _ _ => False where
  sound {cs rest a} hr := by
    unfold record at hr
    split at hr <;> simp at hr
  complete _ hd := hd.elim

theorem rel_none_iff {α β : Type} {r : α → β → Prop} {v : Option α} :
    Option.Rel r v none ↔ v = none := by
  constructor
  · rintro ⟨⟩
    rfl
  · rintro rfl
    exact .none

theorem rel_some_iff {α β : Type} {r : α → β → Prop} {v : Option α} {b : β} :
    Option.Rel r v (some b) ↔ ∃ a, v = some a ∧ r a b := by
  constructor
  · rintro ⟨⟩
    exact ⟨_, rfl, ‹_›⟩
  · rintro ⟨a, rfl, h⟩
    exact .some h

theorem Column.given_iff (c : Column draft) (d : draft) (v : Option Doc) :
    c.Given d v ↔ Option.Rel c.form v (c.get d) := by
  cases h : c.get d with
  | none => cases v <;> simp [Given, h, rel_none_iff]
  | some a => cases v <;> simp [Given, h, rel_some_iff]

/-- A field that a draft has is given by a document. -/
theorem Column.given_cons {c : Column draft} {cols : List (Column draft)}
    {d : draft} {a : c.Value} {vs : List (Option Doc)} (hget : c.get d = some a)
    (h : List.Forall₂ (fun c v => c.Given d v) (c :: cols) vs) :
    ∃ doc vs', vs = some doc :: vs' ∧ c.form doc a ∧
      List.Forall₂ (fun c v => c.Given d v) cols vs' := by
  obtain ⟨v, vs, hv, hvs, rfl⟩ := List.forall₂_cons_left_iff.1 h
  rw [given_iff, hget, rel_some_iff] at hv
  obtain ⟨doc, rfl, ha⟩ := hv
  exact ⟨doc, vs, rfl, ha, hvs⟩

/-- A text that is one value, with blanks around it. -/
def Doc.IsWhole (d : Doc) (text : String) : Prop :=
  ∃ rest, Spells d text.toList rest ∧ skipSpace rest = []

theorem Reads.readText_eq_ok {reader : Reader α} {form : Doc → α → Prop}
    (h : Reads reader form) {text : String} {a : α} :
    readText reader text = .ok a ↔ ∃ d : Doc, d.IsWhole text ∧ form d a := by
  constructor
  · intro hr
    unfold readText at hr
    simp only at hr
    split at hr
    · simp at hr
    · rename_i b rest hread
      obtain ⟨d, hd, ha⟩ := h.sound hread
      split at hr
      · rename_i hend
        cases hr
        exact ⟨d, ⟨rest, hd, hend⟩, ha⟩
      · simp at hr
  · rintro ⟨d, ⟨rest, hd, hend⟩, ha⟩
    simp [readText, h.complete hd ha, hend]

end Parley.Json
