import Mathlib.Data.List.Forall2
import Parley.Json.Record
import Parley.Proofs.Skipping

/-! Typed readers against the grammar: a reader of a form accepts the documents of that form and no
others, with the value that the form gives them. Strings and lists come first; records follow in a
module of their own. -/

namespace Parley.Json

open Parley.Text

/-- A reader accepts exactly the documents of a form. -/
structure Reads {α : Type} (reader : Reader α) (form : Doc → α → Prop) : Prop where
  sound : ∀ {cs rest : List Char} {a : α}, reader cs = .ok (a, rest) →
    ∃ d, Spells d cs rest ∧ form d a
  complete : ∀ {d : Doc} {cs rest : List Char} {a : α}, Spells d cs rest → form d a →
    reader cs = .ok (a, rest)

theorem Reads.congr {α : Type} {reader : Reader α} {form form' : Doc → α → Prop}
    (h : Reads reader form) (hf : ∀ d a, form d a ↔ form' d a) : Reads reader form' where
  sound hr :=
    let ⟨d, hd, ha⟩ := h.sound hr
    ⟨d, hd, (hf d _).1 ha⟩
  complete hd ha := h.complete hd ((hf _ _).2 ha)

def Doc.IsText : Doc → String → Prop
  | .text b, s => Means b s.toList
  | _, _ => False

theorem means_of_stringTail {cs rest : List Char} {s : String}
    (h : stringTail [] cs = .ok (s, rest)) : ∃ b, Means b s.toList ∧ cs = b ++ '"' :: rest := by
  obtain ⟨b, t, hm, rfl, rfl⟩ := stringTail_sound h
  exact ⟨b, by simpa using hm, rfl⟩

theorem stringTail_of_means {b : List Char} {s : String} (h : Means b s.toList)
    (rest : List Char) : stringTail [] (b ++ '"' :: rest) = .ok (s, rest) := by
  simpa using stringTail_complete h [] rest

theorem reads_stringWith {α : Type} (expected : String) (accept : String → Except String α) :
    Reads (stringWith expected accept) fun d a => ∃ s, d.IsText s ∧ accept s = .ok a where
  sound {cs rest a} h := by
    unfold stringWith at h
    split at h
    · simp at h
    · rename_i inner hs
      split at h
      · simp at h
      · rename_i s after htail
        obtain ⟨b, hm, rfl⟩ := means_of_stringTail htail
        split at h
        · rename_i a' ha
          cases h
          exact ⟨.text b, ⟨hm.isBody, hs⟩, s, hm, ha⟩
        · simp at h
    · simp at h
  complete {d cs rest a} h := by
    rintro ⟨s, hd, ha⟩
    cases d with
    | text b => simp [stringWith, h.2, stringTail_of_means hd, ha]
    | _ => exact hd.elim

theorem reads_string : Reads string Doc.IsText where
  sound h := by
    obtain ⟨d, hd, s, hs, heq⟩ := (reads_stringWith _ _).sound h
    cases heq
    exact ⟨d, hd, hs⟩
  complete h hd := (reads_stringWith _ _).complete h ⟨_, hd, rfl⟩

def Doc.IsList {α : Type} (form : Doc → α → Prop) (d : Doc) (as : List α) : Prop :=
  ∃ ds, d = .list ds ∧ List.Forall₂ form ds as

theorem Doc.IsList.exists_of_mem {α : Type} {form : Doc → α → Prop} {d : Doc} {as : List α}
    (h : d.IsList form as) : ∀ a ∈ as, ∃ d', form d' a := by
  obtain ⟨ds, -, h⟩ := h
  induction h with
  | nil => simp
  | cons ha _ ih =>
    rw [List.forall_mem_cons]
    exact ⟨⟨_, ha⟩, ih⟩

theorem nextElement_end {cs more : List Char} (h : skipSpace cs = ']' :: more) (first : Bool) :
    nextElement first cs = .ok (false, ']' :: more) := by
  simp [nextElement, h]

theorem nextElement_more {first : Bool} {cs start more : List Char} {c : Char}
    (hstart : Follows first cs start) (hs : skipSpace start = c :: more) (hc : c ≠ ']') :
    nextElement first cs = .ok (true, c :: more) := by
  cases first with
  | true =>
    obtain rfl : start = cs := hstart
    simp [nextElement, hs, hc]
  | false =>
    have hcomma : skipSpace cs = ',' :: start := hstart
    simp [nextElement, hcomma, hs, hc]

/-- The next element is the end, or stands where the text goes on. -/
theorem nextElement_sound {first : Bool} {cs rest : List Char} {more : Bool}
    (h : nextElement first cs = .ok (more, rest)) :
    more = false ∧ (∃ after, skipSpace cs = ']' :: after ∧ rest = ']' :: after) ∨
      more = true ∧ ∃ start, Follows first cs start ∧ rest = skipSpace start := by
  cases hs : skipSpace cs with
  | nil => simp [nextElement, hs] at h
  | cons c after =>
    by_cases hc : c = ']'
    · subst hc
      simp only [nextElement_end hs, Except.ok.injEq, Prod.mk.injEq] at h
      exact Or.inl ⟨h.1.symm, after, rfl, h.2.symm⟩
    cases first with
    | true =>
      have hmore : nextElement true cs = .ok (true, c :: after) := nextElement_more rfl hs hc
      simp only [hmore, Except.ok.injEq, Prod.mk.injEq] at h
      exact Or.inr ⟨h.1.symm, cs, rfl, by rw [hs, h.2]⟩
    | false =>
      by_cases hcomma : c = ','
      · subst hcomma
        cases hd : skipSpace after with
        | nil => simp [nextElement, hs, hd] at h
        | cons d last =>
          by_cases hclose : d = ']'
          · simp [nextElement, hs, hd, hclose] at h
          · have hmore : nextElement false cs = .ok (true, d :: last) :=
              nextElement_more hs hd hclose
            simp only [hmore, Except.ok.injEq, Prod.mk.injEq] at h
            exact Or.inr ⟨h.1.symm, after, hs, by rw [hd, h.2]⟩
      · simp [nextElement, hs, hc, hcomma] at h

theorem closeList_iff {cs rest : List Char} :
    closeList cs = .ok rest ↔ skipSpace cs = ']' :: rest := by
  constructor
  · intro h
    unfold closeList at h
    split at h
    · simp at h
    · rename_i hs
      cases h
      exact hs
    · split at h <;> simp at h
    · simp at h
  · intro h
    simp [closeList, h]

theorem elements_sound {α : Type} {item : Reader α} {form : Doc → α → Prop} (h : Reads item form)
    {rounds : Nat} {first : Bool} {read as : List α} {cs rest : List Char}
    (he : elements item rounds first read cs = .ok (as, rest)) :
    ∃ ds bs tail after, SpellsItems first ds cs tail ∧ List.Forall₂ form ds bs ∧
      as = read.reverse ++ bs ∧ skipSpace tail = ']' :: after ∧ rest = ']' :: after := by
  induction rounds generalizing first read cs with
  | zero => simp [elements] at he
  | succ rounds ih =>
    unfold elements at he
    split at he
    · simp at he
    · rename_i end' hn
      cases he
      obtain ⟨-, after, hs, rfl⟩ | ⟨hfalse, -⟩ := nextElement_sound hn
      · exact ⟨[], [], cs, after, rfl, .nil, by simp, hs, rfl⟩
      · exact Bool.noConfusion hfalse
    · rename_i next hn
      obtain ⟨hfalse, -⟩ | ⟨-, start, hstart, rfl⟩ := nextElement_sound hn
      · exact Bool.noConfusion hfalse
      split at he
      · simp at he
      · rename_i a behind ha
        obtain ⟨d, hd, hf⟩ := h.sound ha
        obtain ⟨ds, bs, tail, after, hitems, hforms, rfl, hs, rfl⟩ := ih he
        exact ⟨d :: ds, a :: bs, tail, after,
          ⟨start, behind, hstart, spells_skipSpace.1 hd, hitems⟩, .cons hf hforms, by simp, hs, rfl⟩

theorem elements_complete {α : Type} {item : Reader α} {form : Doc → α → Prop}
    (h : Reads item form) {rounds : Nat} {first : Bool} {read as : List α} {ds : List Doc}
    {cs tail after : List Char} (hlen : cs.length < rounds) (hitems : SpellsItems first ds cs tail)
    (hforms : List.Forall₂ form ds as) (hs : skipSpace tail = ']' :: after) :
    elements item rounds first read cs = .ok (read.reverse ++ as, ']' :: after) := by
  induction rounds generalizing first read cs ds as with
  | zero => omega
  | succ rounds ih =>
    cases hforms with
    | nil =>
      obtain rfl : cs = tail := hitems
      simp [elements, nextElement_end hs]
    | cons hf hforms =>
      obtain ⟨start, behind, hstart, hd, hitems⟩ := hitems
      obtain ⟨c, more, hc, hne⟩ := hd.head
      have hitem := h.complete (spells_skipSpace.2 hd) hf
      rw [hc] at hitem
      have := hstart.length_le
      have := hd.length_lt
      simp [elements, nextElement_more hstart hc hne, hitem, ih (by omega) hitems hforms]

theorem reads_list {α : Type} {item : Reader α} {form : Doc → α → Prop} (h : Reads item form) :
    Reads (list (some item)) (Doc.IsList form) where
  sound {cs rest as} hl := by
    unfold list at hl
    split at hl
    · simp at hl
    · rename_i inner hopen
      simp only at hl
      split at hl
      · simp at hl
      · rename_i bs end' he
        obtain ⟨ds, as', tail, after, hitems, hforms, rfl, hs, rfl⟩ := elements_sound h he
        obtain ⟨last, hclose, heq⟩ := map_eq_ok.1 hl
        cases heq
        rw [closeList_iff, ← hs, skipSpace_skipSpace] at hclose
        exact ⟨.list ds, ⟨inner, tail, hopen, hitems, hclose⟩, ds, rfl, by simpa using hforms⟩
    · simp at hl
  complete {d cs rest as} hd := by
    rintro ⟨ds, rfl, hforms⟩
    obtain ⟨inner, tail, hopen, hitems, hclose⟩ := hd
    have he : elements item (inner.length + 1) true [] inner = .ok (as, ']' :: rest) :=
      elements_complete h (Nat.lt_succ_self _) hitems hforms hclose
    have hend : closeList (']' :: rest) = .ok rest := rfl
    simp [list, hopen, he, hend]

/-- Where no further container may be opened, no list is read. -/
theorem reads_list_none {α : Type} : Reads (list (none : Option (Reader α))) fun _ _ => False where
  sound {cs rest as} hl := by
    unfold list at hl
    split at hl <;> simp at hl
  complete _ hd := hd.elim

end Parley.Json
