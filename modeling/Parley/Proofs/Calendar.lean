import Mathlib.Tactic.IntervalCases
import Parley.Time.Calendar

/-! Day numbers and dates name the same days. A cycle of 400 years is taken apart into centuries,
groups of four years, years and days; in these parts every division of the conversion has a known
quotient, so both directions of it are linear. -/

namespace Parley.Date

/-- Where a day of a cycle stands: the centuries, groups of four years, years and days before it.
A year has its leap day at its end. -/
structure InCycle (d c q y r : Nat) : Prop where
  century : c ≤ 3
  four : q ≤ 24
  year : y ≤ 3
  day : r ≤ 365
  leap : r = 365 → y = 3 ∧ (q < 24 ∨ c = 3)
  sum : d = 36524 * c + 1461 * q + 365 * y + r

theorem exists_inCycle {d : Nat} (h : d < 146097) : ∃ c q y r, InCycle d c q y r := by
  by_cases hlast : d = 146096
  · exact ⟨3, 24, 3, 365, by omega, by omega, by omega, by omega, fun _ => ⟨rfl, .inr rfl⟩,
      by omega⟩
  by_cases hleap : d % 36524 % 1461 = 1460
  · exact ⟨d / 36524, d % 36524 / 1461, 3, 365, by omega, by omega, by omega, by omega,
      fun _ => ⟨rfl, .inl (by omega)⟩, by omega⟩
  · exact ⟨d / 36524, d % 36524 / 1461, d % 36524 % 1461 / 365, d % 36524 % 1461 % 365,
      by omega, by omega, by omega, by omega, by omega, by omega⟩

/-- Taking out the leap days gives the year. In the fourth year of a group the days before may hold
one more group of 1460 days than there were leap days. -/
theorem InCycle.year_eq {d c q y r : Nat} (h : InCycle d c q y r) :
    (d - d / 1460 + d / 36524 - d / 146096) / 365 = 100 * c + 4 * q + y := by
  obtain ⟨hc, hq, hy, hr, hl, hd⟩ := h
  by_cases hlast : d = 146096
  · obtain ⟨rfl, rfl, rfl⟩ : c = 3 ∧ q = 24 ∧ y = 3 := by omega
    rw [hlast]
  have hcentury : d / 36524 = c := by omega
  have hcycle : d / 146096 = 0 := by omega
  rw [hcentury, hcycle, Nat.sub_zero]
  by_cases hover : 24 * c + q + 365 * y + r < 1460
  · have hfour : d / 1460 = 25 * c + q := by omega
    have hsum : d - (25 * c + q) + c = 365 * (100 * c + 4 * q + y) + r := by omega
    rw [hfour, hsum]
    omega
  · have hfour : d / 1460 = 25 * c + q + 1 := by omega
    have hsum : d - (25 * c + q + 1) + c = 365 * (100 * c + 4 * q + y) + (r - 1) := by omega
    rw [hfour, hsum]
    omega

theorem InCycle.rest_eq {d c q y r : Nat} (h : InCycle d c q y r) :
    d - (365 * (100 * c + 4 * q + y) + (100 * c + 4 * q + y) / 4 - (100 * c + 4 * q + y) / 100) =
      r := by
  obtain ⟨hc, hq, hy, -, -, hd⟩ := h
  have hfour : (100 * c + 4 * q + y) / 4 = 25 * c + q := by omega
  have hcentury : (100 * c + 4 * q + y) / 100 = c := by omega
  rw [hfour, hcentury]
  omega

def ofMarch (year : Int) (r : Nat) : Date :=
  let m := (5 * r + 2) / 153
  { year := year + (if m < 10 then 0 else 1)
    month := if m < 10 then m + 3 else m - 9
    day := r - (153 * m + 2) / 5 + 1 }

theorem ofDayNumber_eq (n : Int) :
    ∃ (k : Int) (c q y r : Nat),
      InCycle ((n + epochShift) % 146097).toNat c q y r ∧
      n = 146097 * k + (36524 * c + 1461 * q + 365 * y + r : Nat) - epochShift ∧
      ofDayNumber n = ofMarch ((100 * c + 4 * q + y : Nat) + k * 400) r := by
  have hlt : ((n + epochShift) % 146097).toNat < 146097 := by omega
  obtain ⟨c, q, y, r, h⟩ := exists_inCycle hlt
  refine ⟨(n + epochShift) / 146097, c, q, y, r, h, ?_, ?_⟩
  · have := h.sum
    omega
  · simp only [ofDayNumber, h.year_eq, h.rest_eq, ofMarch]

/-- The five-month pattern gives the months their lengths, February apart, which is the last. -/
theorem isValid_ofMarch {year : Int} {r : Nat} (h : r < 365 ∨ r = 365 ∧ isLeapYear (year + 1)) :
    (ofMarch year r).IsValid := by
  have hr : r ≤ 365 := by omega
  have hm : (5 * r + 2) / 153 ≤ 11 := by omega
  have hlow : 153 * ((5 * r + 2) / 153) ≤ 5 * r + 2 := by omega
  have hhigh : 5 * r + 2 < 153 * ((5 * r + 2) / 153 + 1) := by omega
  simp only [IsValid, ofMarch]
  generalize (5 * r + 2) / 153 = m at hm hlow hhigh ⊢
  by_cases hfeb : m = 11
  · subst hfeb
    by_cases hl : isLeapYear (year + 1)
    · simp [daysInMonth, hl]
      omega
    · have : r < 365 := by tauto
      simp [daysInMonth, hl]
      omega
  · interval_cases m <;> simp [daysInMonth] <;> omega

theorem dayNumber_ofMarch (year : Int) {r : Nat} (h : r ≤ 365) :
    (ofMarch year r).dayNumber =
      365 * year + year / 4 - year / 100 + year / 400 + r - epochShift := by
  by_cases h10 : (5 * r + 2) / 153 < 10
  · have hmonth : ¬ (5 * r + 2) / 153 + 3 ≤ 2 := by omega
    simp only [dayNumber, ofMarch, h10, if_true, hmonth, if_false, Int.add_zero,
      Nat.add_sub_cancel]
    omega
  · have hmonth : (5 * r + 2) / 153 - 9 ≤ 2 := by omega
    simp only [dayNumber, ofMarch, h10, if_false, hmonth, if_true, Int.add_sub_cancel,
      Nat.sub_add_cancel (show 9 ≤ (5 * r + 2) / 153 by omega)]
    omega

theorem daysInMonth_le (y : Int) (m : Nat) : daysInMonth y m ≤ 31 := by
  unfold daysInMonth
  split
  · split <;> decide
  · split <;> decide

theorem InCycle.isLeapYear {d c q y r : Nat} (h : InCycle d c q y r) (hr : r = 365) (k : Int) :
    isLeapYear ((100 * c + 4 * q + y : Nat) + k * 400 + 1) := by
  obtain ⟨hc, hq, hy, -, hl, -⟩ := h
  obtain ⟨rfl, hcycle⟩ := hl hr
  simp only [Date.isLeapYear, Bool.and_eq_true, Bool.or_eq_true, beq_iff_eq, bne_iff_ne]
  omega

theorem isValid_ofDayNumber (n : Int) : (ofDayNumber n).IsValid := by
  obtain ⟨k, c, q, y, r, h, -, hdate⟩ := ofDayNumber_eq n
  rw [hdate]
  apply isValid_ofMarch
  have := h.day
  by_cases hr : r = 365
  · exact Or.inr ⟨hr, h.isLeapYear hr k⟩
  · exact Or.inl (by omega)

theorem dayNumber_ofDayNumber (n : Int) : (ofDayNumber n).dayNumber = n := by
  obtain ⟨k, c, q, y, r, h, hn, hdate⟩ := ofDayNumber_eq n
  obtain ⟨hc, hq, hy, hr, -, -⟩ := h
  rw [hdate, dayNumber_ofMarch _ hr]
  have hfour : ((100 * c + 4 * q + y : Nat) + k * 400) / 4 = 25 * c + q + 100 * k := by omega
  have hcentury : ((100 * c + 4 * q + y : Nat) + k * 400) / 100 = c + 4 * k := by omega
  have hcycle : ((100 * c + 4 * q + y : Nat) + k * 400) / 400 = k := by omega
  rw [hfour, hcentury, hcycle]
  omega

/-- The last day of year 262142, counted so, is 305 days behind its first of March. -/
theorem year_ofMarch_bounds {year : Int} {r : Nat} (hr : r ≤ 365)
    (hlow : -96465292 ≤ (ofMarch year r).dayNumber)
    (hhigh : (ofMarch year r).dayNumber ≤ 95026236) :
    -262143 ≤ (ofMarch year r).year ∧ (ofMarch year r).year ≤ 262142 := by
  rw [dayNumber_ofMarch year hr, epochShift] at hlow hhigh
  simp only [ofMarch]
  have hbelow : -262144 ≤ year := by omega
  have habove : year ≤ 262142 := by omega
  constructor
  · by_cases hfirst : year = -262144
    · subst hfirst
      split <;> omega
    · split <;> omega
  · by_cases hlast : year = 262142
    · subst hlast
      split <;> omega
    · split <;> omega

theorem year_ofDayNumber_bounds {n : Int} (hlow : -96465292 ≤ n) (hhigh : n ≤ 95026236) :
    -262143 ≤ (ofDayNumber n).year ∧ (ofDayNumber n).year ≤ 262142 := by
  have hn := dayNumber_ofDayNumber n
  obtain ⟨k, c, q, y, r, h, -, hdate⟩ := ofDayNumber_eq n
  rw [hdate] at hn ⊢
  exact year_ofMarch_bounds h.day (hn ▸ hlow) (hn ▸ hhigh)

end Parley.Date
