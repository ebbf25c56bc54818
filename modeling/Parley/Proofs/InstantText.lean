import Parley.Proofs.Calendar
import Parley.Proofs.Digits
import Parley.Time.Notation
import Parley.Time.Reading

/-! Every instant is read back from its text: before 1970 and in leap seconds, with any fraction and
in years of any sign. Each scanner is run on what the notation writes for it, and what it leaves is
the text of the next one. -/

namespace Parley.Instant

open Parley.Text

theorem scanNumber_append {most : Nat} {ds rest : List Char} (hne : ds ≠ [])
    (hd : ∀ c ∈ ds, isDigit c = true)
    (h : ds.length = most ∨ ds.length ≤ most ∧ NoDigit rest) :
    scanNumber most (ds ++ rest) = .ok (ofDigits ds, rest) := by
  rw [scanNumber, takeDigits_append hd h]
  cases ds with
  | nil => exact absurd rfl hne
  | cons d ds => rfl

/-- A padded numeral of known width is read whatever follows it. -/
theorem scanNumber_padded (width : Nat) {n : Nat} (hw : 0 < width) (hn : n < 10 ^ width)
    (rest : List Char) : scanNumber width (padded width n ++ rest) = .ok (n, rest) := by
  rw [scanNumber_append (padded_ne_nil width n) (fun _ hc => isDigit_of_mem_padded hc)
    (.inl (length_padded hw hn)), ofDigits_padded]

/-- A padded numeral of any width is read up to what is no digit. -/
theorem scanNumber_long (width n : Nat) {rest : List Char} (hrest : NoDigit rest) :
    scanNumber (padded width n ++ rest).length (padded width n ++ rest) = .ok (n, rest) := by
  rw [scanNumber_append (padded_ne_nil width n) (fun _ hc => isDigit_of_mem_padded hc)
    (.inr ⟨by simp, hrest⟩), ofDigits_padded]

theorem scanField_padded {lo hi n : Nat} (hlo : lo ≤ n) (hhi : n ≤ hi) (hn : n < 100)
    (rest : List Char) : scanField lo hi (padded 2 n ++ rest) = .ok (n, rest) := by
  rw [scanField, trimStart_padded, scanNumber_padded 2 (by decide) hn]
  exact if_pos ⟨hlo, hhi⟩

theorem scanMark_self (mark : Char) (h : isBlank mark = false) (rest : List Char) :
    scanMark mark (mark :: rest) = .ok rest := by
  rw [scanMark, trimStart_eq_self h]
  exact if_pos rfl

/-- A year without a sign does not look like one with a sign. -/
theorem scanYear_unsigned {y : Nat} (h : y ≤ 9999) (rest : List Char) :
    scanYear (padded 4 y ++ rest) = .ok ((y : Int), rest) := by
  have hnum := scanNumber_padded 4 (by decide) (show y < 10 ^ 4 by omega) rest
  rw [scanYear, trimStart_padded]
  cases hp : padded 4 y with
  | nil => exact absurd hp (padded_ne_nil 4 y)
  | cons c cs =>
    have hc : isDigit c = true := isDigit_of_mem_padded (hp ▸ List.mem_cons_self)
    rw [hp] at hnum
    rw [List.cons_append] at hnum ⊢
    split
    · rename_i heq
      rw [(List.cons.inj heq).1] at hc
      exact absurd hc (by decide)
    · rename_i heq
      rw [(List.cons.inj heq).1] at hc
      exact absurd hc (by decide)
    · rw [hnum]
      rfl

theorem scanYear_yearText {y : Int} (hlow : -yearLimit ≤ y) (hhigh : y < yearLimit)
    (rest : List Char) : scanYear (yearText y ++ '-' :: rest) = .ok (y, '-' :: rest) := by
  have hmark : NoDigit ('-' :: rest) := by simp [NoDigit, isDigit]
  unfold yearText
  split
  · rename_i hy
    rw [scanYear_unsigned (by omega), Int.toNat_of_nonneg hy.1]
  split
  · rename_i hneg
    have htrim := trimStart_eq_self (c := '-') (by decide) (padded 4 y.natAbs ++ '-' :: rest)
    have hle : y.natAbs ≤ yearLimit := by omega
    rw [scanYear, List.cons_append, htrim]
    simp only [scanNumber_long 4 y.natAbs hmark, bind, Except.bind, hle, if_true]
    rw [show -(y.natAbs : Int) = y by omega]
  · rename_i hpos
    have htrim := trimStart_eq_self (c := '+') (by decide) (padded 4 y.natAbs ++ '-' :: rest)
    have hlt : y.natAbs < yearLimit := by omega
    rw [scanYear, List.cons_append, htrim]
    simp only [scanNumber_long 4 y.natAbs hmark, bind, Except.bind, hlt, if_true]
    rw [show (y.natAbs : Int) = y by omega]

/-- A fraction of some digits is scaled up to nanoseconds. -/
theorem scanFraction_padded {width n : Nat} (hw : 0 < width) (hle : width ≤ 9)
    (hn : n < 10 ^ width) {rest : List Char} (hrest : NoDigit rest) :
    scanFraction ('.' :: padded width n ++ rest) = .ok (n * 10 ^ (9 - width), rest) := by
  have hd : ∀ c ∈ padded width n, isDigit c = true := fun _ hc => isDigit_of_mem_padded hc
  have hlen := length_padded hw hn
  have hscan : scanNumber 9 (padded width n ++ rest) = .ok (n, rest) := by
    rw [scanNumber_append (padded_ne_nil width n) hd (.inr ⟨by omega, hrest⟩), ofDigits_padded]
  have htake : takeDigits 9 (padded width n ++ rest) = (padded width n, rest) :=
    takeDigits_append hd (.inr ⟨by omega, hrest⟩)
  have hdrop : rest.dropWhile isDigit = rest := by
    simpa using (takeWhile_digits (List.forall_mem_nil _) hrest).2
  simp only [List.cons_append, scanFraction, hscan, htake, hlen, hdrop, bind, Except.bind]
  rfl

theorem scanFraction_text {n : Nat} (hn : n < 1000000000) {rest : List Char} (hrest : NoDigit rest)
    (hpoint : rest.head? ≠ some '.') :
    scanFraction (fractionText .asNeeded n ++ rest) = .ok (n, rest) := by
  simp only [fractionText]
  split
  · rename_i h0
    rw [h0, List.nil_append]
    unfold scanFraction
    split
    · simp at hpoint
    · rfl
  split
  · rw [scanFraction_padded (by decide) (by decide) (by omega) hrest]
    congr 2
    omega
  split
  · rw [scanFraction_padded (by decide) (by decide) (by omega) hrest]
    congr 2
    omega
  · rw [scanFraction_padded (by decide) (by decide) (by omega) hrest]
    congr 2
    omega

theorem secondOfDay_lt (t : Instant) : t.secondOfDay < 86400 := by
  unfold secondOfDay
  omega

theorem hour_le (t : Instant) : t.hour ≤ 23 := by
  have := t.secondOfDay_lt
  unfold hour
  omega

theorem minute_le (t : Instant) : t.minute ≤ 59 := by
  unfold minute
  omega

theorem nanos_lt (t : Instant) : t.nanos < 2000000000 := by
  have := t.fraction
  omega

theorem second_le (t : Instant) : t.second ≤ 60 := by
  have hn := t.nanos_lt
  have hf := t.fraction
  unfold second secondOfDay
  omega

theorem subsecond_lt (t : Instant) : t.subsecond < 1000000000 := Nat.mod_lt _ (by decide)

theorem date_year_bounds (t : Instant) : minYear ≤ t.date.year ∧ t.date.year ≤ maxYear := by
  have := t.in_range
  exact Date.year_ofDayNumber_bounds (by omega) (by omega)

/-- What the text of an instant spells. -/
def fields (t : Instant) : Fields :=
  ⟨t.date.year, t.date.month, t.date.day, t.hour, t.minute, t.second, t.subsecond, 0⟩

/-- Whatever fraction is written, the fields in front of it are those of the instant. -/
theorem scanFields_fraction (t : Instant) {f : Fraction} {n : Nat}
    (hfraction : scanFraction (fractionText f t.subsecond ++ ['Z']) = .ok (n, ['Z'])) :
    scanFields (chars f t) = .ok { t.fields with nanos := n } := by
  obtain ⟨hmonth, hmonth', hday, hday'⟩ : t.date.IsValid := Date.isValid_ofDayNumber _
  have hdays := Date.daysInMonth_le t.date.year t.date.month
  obtain ⟨hlow, hhigh⟩ := t.date_year_bounds
  have hyear := fun rest => scanYear_yearText (y := t.date.year)
    (by simp only [yearLimit, minYear] at hlow ⊢; omega)
    (by simp only [yearLimit, maxYear] at hhigh ⊢; omega) rest
  have hmark := fun rest => scanMark_self '-' (by decide) rest
  have hcolon := fun rest => scanMark_self ':' (by decide) rest
  have hm := fun rest => scanField_padded (n := t.date.month) hmonth hmonth' (by omega) rest
  have hd := fun rest =>
    scanField_padded hday (show t.date.day ≤ 31 by omega) (by omega) rest
  have hhour := fun rest => scanField_padded (Nat.zero_le _) t.hour_le
    (by have := t.hour_le; omega) rest
  have hminute := fun rest => scanField_padded (Nat.zero_le _) t.minute_le
    (by have := t.minute_le; omega) rest
  have hsecond := fun rest => scanField_padded (Nat.zero_le _) t.second_le
    (by have := t.second_le; omega) rest
  have hsplit : ∀ rest, scanDateEnd ('T' :: rest) = .ok rest := fun _ => rfl
  have hend : scanOffset (trimStart ['Z']) = .ok (0, []) := by decide
  simp only [chars, dateText, List.append_assoc, List.cons_append, scanFields,
    hyear, hmark, hcolon, hm, hd, hhour, hminute, hsecond, hfraction, hend, hsplit, bind,
    Except.bind]
  rfl

theorem scanFields_chars (t : Instant) : scanFields (chars .asNeeded t) = .ok t.fields :=
  t.scanFields_fraction (scanFraction_text t.subsecond_lt (by simp [NoDigit, isDigit]) (by decide))

/-- The second is 60 inside a leap second only. -/
theorem second_div (t : Instant) : t.second / 60 = t.nanos / 1000000000 := by
  have hn := t.nanos_lt
  have hf := t.fraction
  unfold second secondOfDay
  omega

theorem secs_eq (t : Instant) :
    t.secs / 86400 * 86400 + t.hour * 3600 + t.minute * 60 +
      (t.second - t.second / 60 : Nat) = t.secs := by
  have hn := t.nanos_lt
  have hf := t.fraction
  rw [second_div]
  unfold hour minute second secondOfDay
  omega

theorem nanos_eq (t : Instant) : t.subsecond + t.second / 60 * 1000000000 = t.nanos := by
  rw [second_div, subsecond]
  omega

theorem ofFields_fields (t : Instant) : ofFields t.fields = .ok t := by
  obtain ⟨hlow, hhigh⟩ := t.date_year_bounds
  have hyear : ¬ (t.date.year < minYear ∨ maxYear < t.date.year) := by omega
  have hvalid : Date.ofYearMonthDay? t.date.year t.date.month t.date.day = some t.date :=
    if_pos (Date.isValid_ofDayNumber _)
  have hday : t.date.dayNumber = t.secs / 86400 := Date.dayNumber_ofDayNumber _
  simp only [ofFields, fields, hyear, if_false, hvalid, hday, secs_eq, nanos_eq, Int.sub_zero,
    ofSecs?_self]
  rfl

theorem ofText_toText (t : Instant) : ofText t.toText = .ok t := by
  rw [ofText, toText, String.toList_ofList, scanFields_chars]
  exact t.ofFields_fields

end Parley.Instant
