import Mathlib.Algebra.Group.Nat.Defs
import Parley.Text.Blank
import Parley.Text.Digits

/-! Decimal numerals read back. A reader of digits stops at the first character that is none, or
when it has as many as it wants; a numeral padded with zeros has a known width and keeps its value.
-/

namespace Parley.Text

theorem isDigit_iff {c : Char} : isDigit c = true ↔ 48 ≤ c.toNat ∧ c.toNat ≤ 57 := by
  rw [isDigit, Bool.and_eq_true, decide_eq_true_eq, decide_eq_true_eq]
  exact Iff.rfl

theorem isDigit_of_mem_padded {width n : Nat} {c : Char} (h : c ∈ padded width n) :
    isDigit c = true := by
  rcases List.mem_append.1 h with h | h
  · rw [List.eq_of_mem_replicate h]
    rfl
  · exact Nat.isDigit_of_mem_toDigits (by decide) (by decide) h

theorem ofDigits_padded (width n : Nat) : ofDigits (padded width n) = n := by
  change Nat.ofDigitChars 10 (padded width n) 0 = n
  rw [padded, Nat.ofDigitChars_append, Nat.ofDigitChars_replicate_zero, Nat.mul_zero, digits,
    Nat.ofDigitChars_toDigits (by decide) (by decide)]

theorem padded_ne_nil (width n : Nat) : padded width n ≠ [] :=
  List.append_ne_nil_of_right_ne_nil _ (List.ne_nil_of_length_pos Nat.length_toDigits_pos)

theorem length_padded {width n : Nat} (hw : 0 < width) (h : n < 10 ^ width) :
    (padded width n).length = width := by
  have : (digits n).length ≤ width := (Nat.length_toDigits_le_iff (by decide) hw).2 h
  rw [padded, List.length_append, List.length_replicate]
  omega

/-- The text goes on with something else than a digit, or ends. -/
def NoDigit (cs : List Char) : Prop := ∀ c ∈ cs.head?, isDigit c = false

theorem NoDigit.take {cs : List Char} (h : NoDigit cs) (n : Nat) : NoDigit (cs.take n) := by
  intro c hc
  rw [List.head?_take] at hc
  split at hc
  · simp at hc
  · exact h c hc

theorem takeWhile_digits {ds rest : List Char} (hd : ∀ c ∈ ds, isDigit c = true)
    (hrest : NoDigit rest) :
    (ds ++ rest).takeWhile isDigit = ds ∧ (ds ++ rest).dropWhile isDigit = rest := by
  rw [List.takeWhile_append_of_pos hd, List.dropWhile_append_of_pos hd]
  cases rest with
  | nil => simp
  | cons c rest => simp [hrest c rfl]

/-- All digits are taken if what follows is none, and none of the rest if the number of digits is
the most that may be taken. -/
theorem takeDigits_append {most : Nat} {ds rest : List Char} (hd : ∀ c ∈ ds, isDigit c = true)
    (h : ds.length = most ∨ ds.length ≤ most ∧ NoDigit rest) :
    takeDigits most (ds ++ rest) = (ds, rest) := by
  have htake : ((ds ++ rest).take most).takeWhile isDigit = ds := by
    rcases h with rfl | ⟨hlen, hrest⟩
    · rw [List.take_left]
      have hnil : NoDigit [] := by simp [NoDigit]
      simpa using (takeWhile_digits hd hnil).1
    · rw [List.take_append, List.take_of_length_le hlen]
      exact (takeWhile_digits hd (hrest.take _)).1
  rw [takeDigits, htake, List.drop_left]

/-- A digit is no blank, so nothing is skipped in front of a numeral. -/
theorem isBlank_of_isDigit {c : Char} (h : isDigit c = true) : isBlank c = false := by
  have := isDigit_iff.1 h
  simp only [isBlank, blankRanges, List.any_cons, List.any_nil, Bool.or_false, Bool.or_eq_false_iff,
    Bool.and_eq_false_iff, decide_eq_false_iff_not]
  omega

theorem trimStart_padded (width n : Nat) (rest : List Char) :
    trimStart (padded width n ++ rest) = padded width n ++ rest := by
  cases h : padded width n with
  | nil => exact absurd h (padded_ne_nil width n)
  | cons c cs =>
    have hc : c ∈ padded width n := by simp [h]
    exact trimStart_eq_self (isBlank_of_isDigit (isDigit_of_mem_padded hc)) _

end Parley.Text
