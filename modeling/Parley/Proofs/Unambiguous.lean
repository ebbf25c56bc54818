import Parley.Proofs.Written

/-! A text is one document at most. Where a value ends does not depend on what it is, since skipping
it passes over the same characters; what it is, is told by its first character, and then its parts
are compared one after the other. -/

namespace Parley.Json

open Parley.Text

theorem IsBody.unique {b b' rest rest' : List Char} (h : IsBody b) (h' : IsBody b')
    (heq : b ++ '"' :: rest = b' ++ '"' :: rest') : b = b' ∧ rest = rest' := by
  have hskip := skipString_complete h rest
  rw [heq, skipString_complete h' rest', Except.ok.injEq] at hskip
  subst hskip
  exact ⟨List.append_cancel_right heq, rfl⟩

theorem Means.unique {b s s' : List Char} (h : Means b s) (h' : Means b s') : s = s' := by
  have hread := stringTail_complete h [] []
  rw [stringTail_complete h' [] [], Except.ok.injEq, Prod.mk.injEq] at hread
  exact (String.ofList_inj.1 hread.1).symm

/-- Where a value ends is up to the text alone. -/
theorem Spells.rest_unique {d d' : Doc} {cs rest rest' : List Char} (h : Spells d cs rest)
    (hrest : Delimited rest) (h' : Spells d' cs rest') (hrest' : Delimited rest') :
    rest = rest' := by
  have hskip := skipValue_complete h hrest
  rw [skipValue_complete h' hrest', Except.ok.injEq] at hskip
  exact hskip.symm

theorem Follows.unique {first : Bool} {cs start start' : List Char} (h : Follows first cs start)
    (h' : Follows first cs start') : start = start' := by
  cases first with
  | true => exact Eq.trans h h'.symm
  | false => exact (List.cons.inj (Eq.trans (Eq.symm h) h')).2

inductive Kind where
  | word
  | number
  | text
  | list
  | object
deriving DecidableEq

def Doc.kind : Doc → Kind
  | .word _ => .word
  | .number _ => .number
  | .text _ => .text
  | .list _ => .list
  | .object _ => .object

/-- What a value is that starts with a character. -/
def kindOf (c : Char) : Kind :=
  if c = '"' then .text
  else if c = '[' then .list
  else if c = '\x7b' then .object
  else if isDigit c || c = '-' then .number
  else .word

theorem kindOf_digit {c : Char} (h : isDigit c = true) : kindOf c = .number := by
  have hmark : ∀ d ∈ ['"', '[', '\x7b'], c ≠ d := by
    rintro d hd rfl
    have hall : ∀ d ∈ ['"', '[', '\x7b'], isDigit d = false := by simp [isDigit]
    rw [hall c hd] at h
    exact Bool.noConfusion h
  simp only [List.mem_cons, List.not_mem_nil, or_false, forall_eq_or_imp, forall_eq] at hmark
  simp [kindOf, hmark, h]

theorem Spells.kind {d : Doc} {cs rest : List Char} (h : Spells d cs rest) :
    ∃ c more, skipSpace cs = c :: more ∧ kindOf c = d.kind := by
  cases d with
  | word w =>
    obtain ⟨hw, hs⟩ := h
    simp only [words, List.mem_cons, List.not_mem_nil, or_false] at hw
    rcases hw with rfl | rfl | rfl <;> exact ⟨_, _, hs, by decide⟩
  | number n =>
    obtain ⟨hm | ⟨m, -, rfl⟩, hs⟩ := h
    · obtain ⟨c, m, rfl, hc⟩ := hm.head
      exact ⟨c, _, hs, kindOf_digit hc⟩
    · exact ⟨_, _, hs, rfl⟩
  | text b => exact ⟨_, _, h.2, rfl⟩
  | list ds =>
    obtain ⟨inner, -, hs, -, -⟩ := h
    exact ⟨_, _, hs, rfl⟩
  | object ms =>
    obtain ⟨inner, -, hs, -, -⟩ := h
    exact ⟨_, _, hs, rfl⟩

theorem Spells.kind_eq {d d' : Doc} {cs rest rest' : List Char} (h : Spells d cs rest)
    (h' : Spells d' cs rest') : d.kind = d'.kind := by
  obtain ⟨c, more, hs, hk⟩ := h.kind
  obtain ⟨c', more', hs', hk'⟩ := h'.kind
  obtain ⟨rfl, -⟩ := List.cons.inj (hs.symm.trans hs')
  exact hk.symm.trans hk'

/-- Where a list ends no element follows. -/
theorem not_follows_end {first : Bool} {d : Doc} {cs start rest after : List Char}
    (hend : skipSpace cs = ']' :: after) (hstart : Follows first cs start)
    (h : Spells d start rest) : False := by
  cases first with
  | true =>
    obtain rfl : start = cs := hstart
    obtain ⟨c, more, hs, hne⟩ := h.head
    rw [hend] at hs
    exact hne (List.cons.inj hs).1.symm
  | false =>
    have hcomma : skipSpace cs = ',' :: start := hstart
    rw [hend] at hcomma
    exact absurd (List.cons.inj hcomma).1 (by decide)

/-- Where an object ends no key follows. -/
theorem not_follows_close {first : Bool} {cs start more after : List Char}
    (hend : skipSpace cs = '\x7d' :: after) (hstart : Follows first cs start)
    (h : skipSpace start = '"' :: more) : False := by
  cases first with
  | true =>
    obtain rfl : start = cs := hstart
    rw [hend] at h
    exact absurd (List.cons.inj h).1 (by decide)
  | false =>
    have hcomma : skipSpace cs = ',' :: start := hstart
    rw [hend] at hcomma
    exact absurd (List.cons.inj hcomma).1 (by decide)

mutual

theorem Spells.unique {d d' : Doc} {cs rest rest' : List Char} (h : Spells d cs rest)
    (hrest : Delimited rest) (h' : Spells d' cs rest') (hrest' : Delimited rest') : d = d' := by
  have hkind := h.kind_eq h'
  obtain rfl := h.rest_unique hrest h' hrest'
  match d, d', h, h' with
  | .word w, .word w', h, h' =>
    rw [List.append_cancel_right (h.2.symm.trans h'.2)]
  | .number n, .number n', h, h' =>
    rw [List.append_cancel_right (h.2.symm.trans h'.2)]
  | .text b, .text b', h, h' =>
    have heq := (List.cons.inj (h.2.symm.trans h'.2)).2
    rw [List.append_cancel_right heq]
  | .list ds, .list ds', h, h' =>
    obtain ⟨inner, tail, hopen, hitems, hclose⟩ := h
    obtain ⟨inner', tail', hopen', hitems', hclose'⟩ := h'
    obtain rfl := (List.cons.inj (hopen.symm.trans hopen')).2
    rw [hitems.unique hclose hitems' hclose']
  | .object ms, .object ms', h, h' =>
    obtain ⟨inner, tail, hopen, hmembers, hclose⟩ := h
    obtain ⟨inner', tail', hopen', hmembers', hclose'⟩ := h'
    obtain rfl := (List.cons.inj (hopen.symm.trans hopen')).2
    rw [hmembers.unique hclose hmembers' hclose']

theorem SpellsItems.unique {first : Bool} {ds ds' : List Doc}
    {cs tail tail' after after' : List Char} (h : SpellsItems first ds cs tail)
    (hclose : skipSpace tail = ']' :: after) (h' : SpellsItems first ds' cs tail')
    (hclose' : skipSpace tail' = ']' :: after') : ds = ds' := by
  match ds, ds', h, h' with
  | [], [], _, _ => rfl
  | [], d' :: ds', h, h' =>
    obtain rfl : cs = tail := h
    obtain ⟨start, next, hstart, hd, -⟩ := h'
    exact (not_follows_end hclose hstart hd).elim
  | d :: ds, [], h, h' =>
    obtain rfl : cs = tail' := h'
    obtain ⟨start, next, hstart, hd, -⟩ := h
    exact (not_follows_end hclose' hstart hd).elim
  | d :: ds, d' :: ds', h, h' =>
    obtain ⟨start, next, hstart, hd, hitems⟩ := h
    obtain ⟨start', next', hstart', hd', hitems'⟩ := h'
    obtain rfl := hstart.unique hstart'
    have hnext := hitems.delimited hclose
    have hnext' := hitems'.delimited hclose'
    obtain rfl := hd.rest_unique hnext hd' hnext'
    rw [hd.unique hnext hd' hnext', hitems.unique hclose hitems' hclose']

theorem SpellsMembers.unique {first : Bool} {ms ms' : List (List Char × Doc)}
    {cs tail tail' after after' : List Char} (h : SpellsMembers first ms cs tail)
    (hclose : skipSpace tail = '\x7d' :: after) (h' : SpellsMembers first ms' cs tail')
    (hclose' : skipSpace tail' = '\x7d' :: after') : ms = ms' := by
  match ms, ms', h, h' with
  | [], [], _, _ => rfl
  | [], (key', d') :: ms', h, h' =>
    obtain rfl : cs = tail := h
    obtain ⟨start, behind, -, -, hstart, -, hkey, -⟩ := h'
    exact (not_follows_close hclose hstart hkey).elim
  | (key, d) :: ms, [], h, h' =>
    obtain rfl : cs = tail' := h'
    obtain ⟨start, behind, -, -, hstart, -, hkey, -⟩ := h
    exact (not_follows_close hclose' hstart hkey).elim
  | (key, d) :: ms, (key', d') :: ms', h, h' =>
    obtain ⟨start, behind, value, next, hstart, hb, hkey, hcolon, hd, hmembers⟩ := h
    obtain ⟨start', behind', value', next', hstart', hb', hkey', hcolon', hd', hmembers'⟩ := h'
    obtain rfl := hstart.unique hstart'
    obtain ⟨rfl, rfl⟩ := hb.unique hb' (List.cons.inj (hkey.symm.trans hkey')).2
    obtain rfl := (List.cons.inj (hcolon.symm.trans hcolon')).2
    have hnext := hmembers.delimited hclose
    have hnext' := hmembers'.delimited hclose'
    obtain rfl := hd.rest_unique hnext hd' hnext'
    rw [hd.unique hnext hd' hnext', hmembers.unique hclose hmembers' hclose']

end

theorem delimited_of_blank {rest : List Char} (h : skipSpace rest = []) : Delimited rest := by
  intro c hc
  cases rest with
  | nil => simp at hc
  | cons d rest =>
    obtain rfl : d = c := by simpa using hc
    left
    by_contra hspace
    rw [skipSpace_of_not (Bool.not_eq_true _ ▸ hspace)] at h
    exact List.cons_ne_nil d rest h

theorem Doc.IsWhole.unique {d d' : Doc} {text : String} (h : d.IsWhole text)
    (h' : d'.IsWhole text) : d = d' := by
  obtain ⟨rest, hd, hend⟩ := h
  obtain ⟨rest', hd', hend'⟩ := h'
  exact hd.unique (delimited_of_blank hend) hd' (delimited_of_blank hend')

/-- What has been written is a text of the one document it was written for. -/
theorem Value.isWhole_render_iff (v : Value) (d : Doc) : d.IsWhole v.render ↔ d = v.doc := by
  constructor
  · intro h
    exact h.unique v.isWhole_render
  · rintro rfl
    exact v.isWhole_render

end Parley.Json
