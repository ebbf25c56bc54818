import Parley.Proofs.Token

/-! Skipping a value passes over exactly one value of the grammar, however deep it nests. The reader
has no recursion but a stack of open brackets, so the grammar is stated over such stacks as well:
what a text must still hold to close all of them. Both directions follow the rounds of the reader.
-/

namespace Parley.Json

open Parley.Text

/-- The brackets are closed as far as they end here, and what is left of them is gone on with. -/
def skipOn (rounds : Nat) (filled : Bool) (frames : List Bracket) (cs : List Char) :
    Except Fault (List Char) := do
  match ← skipClosers filled frames cs with
  | ([], cs) => .ok cs
  | (b :: frames, cs) => skipFrom rounds (b :: frames) (← skipKey b cs)

theorem skipFrom_succ (rounds : Nat) (frames : List Bracket) (cs : List Char) :
    skipFrom (rounds + 1) frames cs =
      (skipAtom (skipSpace cs) >>= fun (opened, cs) =>
        skipOn rounds opened.isNone (opened.toList ++ frames) cs) := rfl

theorem skipOn_close {b : Bracket} {cs rest : List Char} (h : skipSpace cs = b.closer :: rest)
    (rounds : Nat) (filled : Bool) (frames : List Bracket) :
    skipOn rounds filled (b :: frames) cs = skipOn rounds true frames rest := by
  simp [skipOn, skipClosers, h]

theorem skipOn_comma {b : Bracket} {cs rest : List Char} (h : skipSpace cs = ',' :: rest)
    (rounds : Nat) (frames : List Bracket) :
    skipOn rounds true (b :: frames) cs = (skipKey b rest >>= skipFrom rounds (b :: frames)) := by
  cases b <;> simp [skipOn, skipClosers, h, Bracket.closer, bind, Except.bind]

theorem skipOn_first {b : Bracket} {cs rest : List Char} {c : Char} (h : skipSpace cs = c :: rest)
    (hc : c ≠ b.closer) (rounds : Nat) (frames : List Bracket) :
    skipOn rounds false (b :: frames) cs =
      (skipKey b (c :: rest) >>= skipFrom rounds (b :: frames)) := by
  simp [skipOn, skipClosers, h, hc, bind, Except.bind]

/-- Behind a value, a bracket goes on in one of two ways. -/
theorem skipOn_filled {b : Bracket} {cs rest : List Char} {rounds : Nat} {frames : List Bracket}
    (h : skipOn rounds true (b :: frames) cs = .ok rest) :
    (∃ after, skipSpace cs = b.closer :: after ∧ skipOn rounds true frames after = .ok rest) ∨
      ∃ start value, skipSpace cs = ',' :: start ∧ skipKey b start = .ok value ∧
        skipFrom rounds (b :: frames) value = .ok rest := by
  cases hs : skipSpace cs with
  | nil => simp [skipOn, skipClosers, hs, bind, Except.bind] at h
  | cons c after =>
    by_cases hc : c = b.closer
    · subst hc
      rw [skipOn_close hs] at h
      exact Or.inl ⟨after, rfl, h⟩
    by_cases hcomma : c = ','
    · subst hcomma
      rw [skipOn_comma hs, bind_eq_ok] at h
      obtain ⟨value, hk, h⟩ := h
      exact Or.inr ⟨after, value, rfl, hk, h⟩
    · simp [skipOn, skipClosers, hs, hc, hcomma, bind, Except.bind] at h

/-- Behind its opening, a bracket ends or holds a first value. -/
theorem skipOn_opened {b : Bracket} {cs rest : List Char} {rounds : Nat} {frames : List Bracket}
    (h : skipOn rounds false (b :: frames) cs = .ok rest) :
    (∃ after, skipSpace cs = b.closer :: after ∧ skipOn rounds true frames after = .ok rest) ∨
      ∃ value, skipKey b (skipSpace cs) = .ok value ∧
        skipFrom rounds (b :: frames) value = .ok rest := by
  cases hs : skipSpace cs with
  | nil => simp [skipOn, skipClosers, hs, bind, Except.bind] at h
  | cons c after =>
    by_cases hc : c = b.closer
    · subst hc
      rw [skipOn_close hs] at h
      exact Or.inl ⟨after, rfl, h⟩
    · rw [skipOn_first hs hc, bind_eq_ok] at h
      obtain ⟨value, hk, h⟩ := h
      exact Or.inr ⟨value, hk, h⟩

theorem skipKey_object_sound {cs value : List Char} (h : skipKey .object cs = .ok value) :
    ∃ key behind, IsBody key ∧ skipSpace cs = '"' :: (key ++ '"' :: behind) ∧
      skipSpace behind = ':' :: value := by
  simp only [skipKey] at h
  split at h
  · simp at h
  · rename_i cs' hs
    rw [bind_eq_ok] at h
    obtain ⟨behind, hk, h⟩ := h
    obtain ⟨key, hb, rfl⟩ := skipString_sound hk
    split at h
    · simp at h
    · rename_i more hcolon
      cases h
      exact ⟨key, behind, hb, hs, hcolon⟩
    · simp at h
  · simp at h

theorem skipKey_object_complete {cs key behind value : List Char} (hb : IsBody key)
    (hs : skipSpace cs = '"' :: (key ++ '"' :: behind)) (hcolon : skipSpace behind = ':' :: value) :
    skipKey .object cs = .ok value := by
  simp [skipKey, hs, skipString_complete hb, hcolon, bind, Except.bind]

def Bracket.opener : Bracket → Char
  | .list => '['
  | .object => '\x7b'

theorem skipAtom_opened {cs rest : List Char} {b : Bracket}
    (h : skipAtom cs = .ok (some b, rest)) : cs = b.opener :: rest := by
  have hnone : ∀ x : Except Fault (List Char), Prod.mk none <$> x ≠ .ok (some b, rest) := by
    intro x hx
    obtain ⟨a, -, ha⟩ := map_eq_ok.1 hx
    simp at ha
  unfold skipAtom at h
  split at h
  · simp at h
  · exact absurd h (hnone _)
  · exact absurd h (hnone _)
  · exact absurd h (hnone _)
  · exact absurd h (hnone _)
  · exact absurd h (hnone _)
  · cases h
    rfl
  · cases h
    rfl
  · split at h
    · exact absurd h (hnone _)
    · simp at h

theorem skipAtom_sound {cs rest : List Char} (h : skipAtom (skipSpace cs) = .ok (none, rest)) :
    ∃ d, Spells d cs rest := by
  have hread : ∀ x : Except Fault (List Char),
      Prod.mk (none : Option Bracket) <$> x = .ok (none, rest) → x = .ok rest := by
    intro x hx
    obtain ⟨a, hx, ha⟩ := map_eq_ok.1 hx
    rw [hx, (Prod.mk.inj ha).2]
  unfold skipAtom at h
  split at h
  · simp at h
  · rename_i hs
    exact ⟨.word ['n', 'u', 'l', 'l'], by simp [Spells, words, hs, word_sound (hread _ h)]⟩
  · rename_i hs
    exact ⟨.word ['t', 'r', 'u', 'e'], by simp [Spells, words, hs, word_sound (hread _ h)]⟩
  · rename_i hs
    exact ⟨.word ['f', 'a', 'l', 's', 'e'], by simp [Spells, words, hs, word_sound (hread _ h)]⟩
  · rename_i hs
    obtain ⟨m, hm, rfl⟩ := skipNumber_sound (hread _ h)
    exact ⟨.number ('-' :: m), .inr ⟨m, hm, rfl⟩, hs⟩
  · rename_i hs
    obtain ⟨b, hb, rfl⟩ := skipString_sound (hread _ h)
    exact ⟨.text b, hb, hs⟩
  · simp at h
  · simp at h
  · rename_i hs
    split at h
    · obtain ⟨m, hm, heq⟩ := skipNumber_sound (hread _ h)
      exact ⟨.number m, .inl hm, hs.trans heq⟩
    · simp at h

theorem IsMagnitude.head {m : List Char} (h : IsMagnitude m) :
    ∃ c cs, m = c :: cs ∧ isDigit c = true := by
  obtain ⟨i, f, e, rfl | ⟨⟨hne, hd⟩, -⟩, -, -, rfl⟩ := h
  · exact ⟨'0', _, rfl, rfl⟩
  · cases i with
    | nil => exact absurd rfl hne
    | cons c i => exact ⟨c, _, rfl, hd c List.mem_cons_self⟩

theorem skipAtom_digit {c : Char} (h : isDigit c = true) (cs : List Char) :
    skipAtom (c :: cs) = Prod.mk none <$> skipNumber (c :: cs) := by
  have hne : ∀ d ∈ ['n', 't', 'f', '-', '"', '[', '\x7b'], c ≠ d := by
    rintro d hd rfl
    have hall : ∀ d ∈ ['n', 't', 'f', '-', '"', '[', '\x7b'], isDigit d = false := by
      simp [isDigit]
    rw [hall c hd] at h
    exact Bool.noConfusion h
  simp only [List.mem_cons, List.not_mem_nil, or_false, forall_eq_or_imp, forall_eq] at hne
  simp [skipAtom, h, hne]

theorem skipAtom_number {n rest : List Char} (h : IsNumeral n) (hrest : EndsNumber rest) :
    skipAtom (n ++ rest) = .ok (none, rest) := by
  rcases h with hm | ⟨m, hm, rfl⟩
  · have hskip := skipNumber_complete hm hrest
    obtain ⟨c, cs, rfl, hc⟩ := hm.head
    rw [List.cons_append] at hskip ⊢
    rw [skipAtom_digit hc, hskip]
    rfl
  · simp [skipAtom, skipNumber_complete hm hrest]

def Doc.isAtom : Doc → Bool
  | .word _ | .number _ | .text _ => true
  | .list _ | .object _ => false

theorem skipAtom_complete {d : Doc} {cs rest : List Char} (hd : d.isAtom = true)
    (h : Spells d cs rest) (hrest : Delimited rest) :
    skipAtom (skipSpace cs) = .ok (none, rest) := by
  cases d with
  | word w =>
    obtain ⟨hw, hs⟩ := h
    simp only [words, List.mem_cons, List.not_mem_nil, or_false] at hw
    rw [hs]
    rcases hw with rfl | rfl | rfl
    · exact congrArg (Prod.mk none <$> ·) (word_complete ['u', 'l', 'l'] rest)
    · exact congrArg (Prod.mk none <$> ·) (word_complete ['r', 'u', 'e'] rest)
    · exact congrArg (Prod.mk none <$> ·) (word_complete ['a', 'l', 's', 'e'] rest)
  | number n => rw [h.2, skipAtom_number h.1 hrest.endsNumber]
  | text b => simp [h.2, skipAtom, skipString_complete h.1]
  | list ds => exact Bool.noConfusion hd
  | object ms => exact Bool.noConfusion hd

/-- The text behind a value goes on to close the brackets around it. -/
def Closes : List Bracket → List Char → List Char → Prop
  | [], cs, rest => cs = rest
  | .list :: frames, cs, rest =>
    ∃ ds tail after, SpellsItems false ds cs tail ∧ skipSpace tail = ']' :: after ∧
      Closes frames after rest
  | .object :: frames, cs, rest =>
    ∃ ms tail after, SpellsMembers false ms cs tail ∧ skipSpace tail = '\x7d' :: after ∧
      Closes frames after rest

theorem Closes.closer {b : Bracket} {frames : List Bracket} {cs after rest : List Char}
    (hs : skipSpace cs = b.closer :: after) (h : Closes frames after rest) :
    Closes (b :: frames) cs rest := by
  cases b with
  | list => exact ⟨[], cs, after, rfl, hs, h⟩
  | object => exact ⟨[], cs, after, rfl, hs, h⟩

theorem Closes.comma {b : Bracket} {frames : List Bracket} {cs start value after rest : List Char}
    {d : Doc} (hs : skipSpace cs = ',' :: start) (hk : skipKey b start = .ok value)
    (hd : Spells d value after) (h : Closes (b :: frames) after rest) :
    Closes (b :: frames) cs rest := by
  cases b with
  | list =>
    cases hk
    obtain ⟨ds, tail, last, hitems, hclose, h⟩ := h
    exact ⟨d :: ds, tail, last, ⟨start, after, hs, hd, hitems⟩, hclose, h⟩
  | object =>
    obtain ⟨key, behind, hb, hkey, hcolon⟩ := skipKey_object_sound hk
    obtain ⟨ms, tail, last, hmembers, hclose, h⟩ := h
    exact ⟨(key, d) :: ms, tail, last,
      ⟨start, behind, value, after, hs, hb, hkey, hcolon, hd, hmembers⟩, hclose, h⟩

/-- The rounds that are left find a value and what closes the brackets around it. -/
def RoundsSound (rounds : Nat) : Prop :=
  ∀ {frames : List Bracket} {cs rest : List Char}, skipFrom rounds frames cs = .ok rest →
    ∃ d after, Spells d cs after ∧ Closes frames after rest

theorem skipOn_sound {rounds : Nat} (ih : RoundsSound rounds) {frames : List Bracket}
    {cs rest : List Char} (h : skipOn rounds true frames cs = .ok rest) :
    Closes frames cs rest := by
  induction frames generalizing cs with
  | nil => exact Except.ok.inj h
  | cons b frames ihf =>
    rcases skipOn_filled h with ⟨after, hs, h⟩ | ⟨start, value, hs, hk, h⟩
    · exact .closer hs (ihf h)
    · obtain ⟨d, after, hd, hc⟩ := ih h
      exact hc.comma hs hk hd

/-- What stands behind an opened bracket is the rest of a list or an object. -/
theorem skipOn_opened_sound {rounds : Nat} (ih : RoundsSound rounds) {b : Bracket}
    {frames : List Bracket} {cs inner rest : List Char} (hopen : skipSpace cs = b.opener :: inner)
    (h : skipOn rounds false (b :: frames) inner = .ok rest) :
    ∃ d after, Spells d cs after ∧ Closes frames after rest := by
  rcases skipOn_opened h with ⟨after, hs, h⟩ | ⟨value, hk, h⟩
  · have hc := skipOn_sound ih h
    cases b with
    | list => exact ⟨.list [], after, ⟨inner, inner, hopen, rfl, hs⟩, hc⟩
    | object => exact ⟨.object [], after, ⟨inner, inner, hopen, rfl, hs⟩, hc⟩
  · obtain ⟨d, after, hd, hc⟩ := ih h
    cases b with
    | list =>
      cases hk
      rw [spells_skipSpace] at hd
      obtain ⟨ds, tail, last, hitems, hclose, hc⟩ := hc
      exact ⟨.list (d :: ds), last,
        ⟨inner, tail, hopen, ⟨inner, after, rfl, hd, hitems⟩, hclose⟩, hc⟩
    | object =>
      obtain ⟨key, behind, hb, hkey, hcolon⟩ := skipKey_object_sound hk
      rw [skipSpace_skipSpace] at hkey
      obtain ⟨ms, tail, last, hmembers, hclose, hc⟩ := hc
      exact ⟨.object ((key, d) :: ms), last,
        ⟨inner, tail, hopen, ⟨inner, behind, value, after, rfl, hb, hkey, hcolon, hd, hmembers⟩,
          hclose⟩, hc⟩

theorem skipFrom_sound (rounds : Nat) : RoundsSound rounds := by
  induction rounds with
  | zero =>
    intro frames cs rest h
    simp [skipFrom] at h
  | succ rounds ih =>
    intro frames cs rest h
    rw [skipFrom_succ, bind_eq_ok] at h
    obtain ⟨⟨opened, inner⟩, ha, h⟩ := h
    cases opened with
    | none =>
      obtain ⟨d, hd⟩ := skipAtom_sound ha
      exact ⟨d, inner, hd, skipOn_sound ih h⟩
    | some b => exact skipOn_opened_sound ih (skipAtom_opened ha) h

theorem skipValue_sound {cs rest : List Char} (h : skipValue cs = .ok rest) :
    ∃ d, Spells d cs rest := by
  obtain ⟨d, after, hd, rfl⟩ := skipFrom_sound _ h
  exact ⟨d, hd⟩

theorem SpellsItems.delimited {ds : List Doc} {cs tail after : List Char}
    (h : SpellsItems false ds cs tail) (hclose : skipSpace tail = ']' :: after) : Delimited cs := by
  cases ds with
  | nil =>
    obtain rfl : cs = tail := h
    exact delimited_of_skipSpace (by simp) hclose
  | cons d ds =>
    obtain ⟨start, -, hs, -, -⟩ := h
    exact delimited_of_skipSpace (by simp) hs

theorem SpellsMembers.delimited {ms : List (List Char × Doc)} {cs tail after : List Char}
    (h : SpellsMembers false ms cs tail) (hclose : skipSpace tail = '\x7d' :: after) :
    Delimited cs := by
  cases ms with
  | nil =>
    obtain rfl : cs = tail := h
    exact delimited_of_skipSpace (by simp) hclose
  | cons m ms =>
    obtain ⟨start, -, -, -, hs, -⟩ := h
    exact delimited_of_skipSpace (by simp) hs

/-- No value starts with what closes a list. -/
theorem Spells.head {d : Doc} {cs rest : List Char} (h : Spells d cs rest) :
    ∃ c more, skipSpace cs = c :: more ∧ c ≠ ']' := by
  cases d with
  | word w =>
    obtain ⟨hw, hs⟩ := h
    simp only [words, List.mem_cons, List.not_mem_nil, or_false] at hw
    rcases hw with rfl | rfl | rfl
    · exact ⟨_, _, hs, by decide⟩
    · exact ⟨_, _, hs, by decide⟩
    · exact ⟨_, _, hs, by decide⟩
  | number n =>
    obtain ⟨hm | ⟨m, -, rfl⟩, hs⟩ := h
    · obtain ⟨c, m, rfl, hc⟩ := hm.head
      refine ⟨c, _, hs, ?_⟩
      rintro rfl
      exact absurd hc (by decide)
    · exact ⟨_, _, hs, by decide⟩
  | text b => exact ⟨_, _, h.2, by decide⟩
  | list ds =>
    obtain ⟨inner, -, hs, -, -⟩ := h
    exact ⟨_, _, hs, by decide⟩
  | object ms =>
    obtain ⟨inner, -, hs, -, -⟩ := h
    exact ⟨_, _, hs, by decide⟩

/-- So many rounds are enough for a text of less characters. -/
def RoundsComplete (rounds : Nat) : Prop :=
  ∀ {d : Doc} {frames : List Bracket} {cs after rest : List Char}, cs.length < rounds →
    Spells d cs after → Delimited after → Closes frames after rest →
    skipFrom rounds frames cs = .ok rest

theorem skipOn_complete {rounds : Nat} (ih : RoundsComplete rounds) {frames : List Bracket}
    {cs rest : List Char} (hlen : cs.length < rounds) (h : Closes frames cs rest) :
    skipOn rounds true frames cs = .ok rest := by
  induction frames generalizing cs with
  | nil => exact congrArg Except.ok h
  | cons b frames ihf =>
    cases b with
    | list =>
      obtain ⟨ds, tail, after, hitems, hclose, h⟩ := h
      cases ds with
      | nil =>
        obtain rfl : cs = tail := hitems
        have := length_of_skipSpace hclose
        rw [skipOn_close (b := .list) hclose, ihf (by omega) h]
      | cons d ds =>
        obtain ⟨start, next, hs, hd, hitems⟩ := hitems
        have := length_of_skipSpace hs
        rw [skipOn_comma hs]
        exact ih (by omega) hd (hitems.delimited hclose) ⟨ds, tail, after, hitems, hclose, h⟩
    | object =>
      obtain ⟨ms, tail, after, hmembers, hclose, h⟩ := h
      cases ms with
      | nil =>
        obtain rfl : cs = tail := hmembers
        have := length_of_skipSpace hclose
        rw [skipOn_close (b := .object) hclose, ihf (by omega) h]
      | cons m ms =>
        obtain ⟨start, behind, value, next, hs, hb, hkey, hcolon, hd, hmembers⟩ := hmembers
        have := length_of_skipSpace hs
        have := length_of_skipSpace hkey
        have := length_of_skipSpace hcolon
        simp only [List.length_append, List.length_cons] at *
        rw [skipOn_comma hs, skipKey_object_complete hb hkey hcolon]
        exact ih (by omega) hd (hmembers.delimited hclose)
          ⟨ms, tail, after, hmembers, hclose, h⟩

theorem skipFrom_complete (rounds : Nat) : RoundsComplete rounds := by
  induction rounds with
  | zero =>
    intro d frames cs after rest hlen
    omega
  | succ rounds ih =>
    intro d frames cs after rest hlen h hafter hc
    have hshort := h.length_lt
    have hon := skipOn_complete ih (by omega) hc
    rw [skipFrom_succ]
    by_cases hatom : d.isAtom = true
    · rw [skipAtom_complete hatom h hafter]
      exact hon
    cases d with
    | word | number | text => exact absurd rfl hatom
    | list ds =>
      obtain ⟨inner, tail, hopen, hitems, hclose⟩ := h
      have := length_of_skipSpace hopen
      rw [hopen]
      change skipOn rounds false (.list :: frames) inner = .ok rest
      cases ds with
      | nil =>
        obtain rfl : inner = tail := hitems
        rw [skipOn_close (b := .list) hclose, hon]
      | cons d ds =>
        obtain ⟨start, next, rfl, hd, hitems⟩ := hitems
        obtain ⟨c, more, hs, hne⟩ := hd.head
        have := length_skipSpace_le start
        rw [skipOn_first (b := .list) hs hne, ← hs]
        exact ih (by omega) (spells_skipSpace.2 hd) (hitems.delimited hclose)
          ⟨ds, tail, after, hitems, hclose, hc⟩
    | object ms =>
      obtain ⟨inner, tail, hopen, hmembers, hclose⟩ := h
      have := length_of_skipSpace hopen
      rw [hopen]
      change skipOn rounds false (.object :: frames) inner = .ok rest
      cases ms with
      | nil =>
        obtain rfl : inner = tail := hmembers
        rw [skipOn_close (b := .object) hclose, hon]
      | cons m ms =>
        obtain ⟨start, behind, value, next, rfl, hb, hkey, hcolon, hd, hmembers⟩ := hmembers
        have := length_of_skipSpace hkey
        have := length_of_skipSpace hcolon
        simp only [List.length_append, List.length_cons] at *
        rw [skipOn_first hkey (by decide), skipKey_object_complete hb
          (by rw [← hkey, skipSpace_skipSpace]) hcolon]
        exact ih (by omega) hd (hmembers.delimited hclose)
          ⟨ms, tail, after, hmembers, hclose, hc⟩

theorem skipValue_complete {d : Doc} {cs rest : List Char} (h : Spells d cs rest)
    (hrest : Delimited rest) : skipValue cs = .ok rest :=
  skipFrom_complete _ (Nat.lt_succ_self _) h hrest rfl

end Parley.Json
