import Parley.Json.Skip
import Parley.Proofs.Document

/-! The token readers against the grammar. Each accepts exactly what the grammar allows and leaves
exactly what follows it; a number is read as far as it goes, so for it what follows must not go on
with it. -/

namespace Parley.Json

open Parley.Text

theorem bind_eq_ok {ε α β : Type} {x : Except ε α} {f : α → Except ε β} {b : β} :
    x >>= f = .ok b ↔ ∃ a, x = .ok a ∧ f a = .ok b := by
  cases x with
  | error e => simp [bind, Except.bind]
  | ok a => simp [bind, Except.bind]

theorem map_eq_ok {ε α β : Type} {x : Except ε α} {f : α → β} {b : β} :
    f <$> x = .ok b ↔ ∃ a, x = .ok a ∧ f a = b := by
  cases x with
  | error e => simp [Functor.map, Except.map]
  | ok a => simp [Functor.map, Except.map]

@[simp] theorem map_ok {ε α β : Type} (f : α → β) (a : α) :
    f <$> (.ok a : Except ε α) = .ok (f a) := rfl

theorem word_sound {w cs rest : List Char} (h : word w cs = .ok rest) : cs = w ++ rest := by
  induction w generalizing cs with
  | nil => simpa [word] using h
  | cons a w ih =>
    cases cs with
    | nil => simp [word] at h
    | cons c cs =>
      simp only [word] at h
      split at h
      · rename_i hc
        rw [hc, ih h, List.cons_append]
      · simp at h

theorem word_complete (w rest : List Char) : word w (w ++ rest) = .ok rest := by
  induction w with
  | nil => rfl
  | cons a w ih => simpa [word] using ih

theorem simpleEscape_ne {c x : Char} (h : simpleEscape c = some x) : c ≠ 'u' := by
  rintro rfl
  simp [simpleEscape] at h

theorem ne_backslash {c : Char} {cs : List Char}
    (h : ∀ (d : Char) (ds : List Char), c = '\\' → cs = d :: ds → False)
    (hnil : c = '\\' → cs = [] → False) : c ≠ '\\' := by
  intro hc
  cases cs with
  | nil => exact hnil hc rfl
  | cons d ds => exact h d ds hc rfl

theorem skipString_sound {cs rest : List Char} (h : skipString cs = .ok rest) :
    ∃ b, IsBody b ∧ cs = b ++ '"' :: rest := by
  fun_induction skipString cs with
  | case2 cs =>
    cases h
    exact ⟨[], .nil, rfl⟩
  | case3 a b c d cs hu ih =>
    obtain ⟨body, hb, rfl⟩ := ih h
    obtain ⟨u, hu⟩ := Option.isSome_iff_exists.1 hu
    exact ⟨_, .unit hu hb, rfl⟩
  | case6 c cs _ _ hx ih =>
    obtain ⟨body, hb, rfl⟩ := ih h
    obtain ⟨x, hx⟩ := Option.isSome_iff_exists.1 hx
    exact ⟨_, .escape hx hb, rfl⟩
  | case10 c cs hq _ _ hescape hend hlow ih =>
    obtain ⟨body, hb, rfl⟩ := ih h
    exact ⟨_, .plain hq (ne_backslash hescape hend) hlow hb, rfl⟩
  | case1 | case4 | case5 | case7 | case8 | case9 => simp at h

theorem skipString_complete {b : List Char} (h : IsBody b) (rest : List Char) :
    skipString (b ++ '"' :: rest) = .ok rest := by
  induction h with
  | nil => rfl
  | plain _ hb hc _ ih => simp [skipString, hb, hc, ih]
  | escape hx _ ih => simp [skipString, simpleEscape_ne hx, hx, ih]
  | unit hu _ ih => simp [skipString, hu, ih]

theorem stringTail_sound {read cs rest : List Char} {s : String}
    (h : stringTail read cs = .ok (s, rest)) :
    ∃ b t, Means b t ∧ cs = b ++ '"' :: rest ∧ s = String.ofList (read.reverse ++ t) := by
  fun_induction stringTail read cs with
  | case2 read cs =>
    cases h
    exact ⟨[], [], .nil, rfl, by simp⟩
  | case6 read a b c d u hu ht hl e f g i cs v hv hv' ih =>
    obtain ⟨body, t, hm, rfl, rfl⟩ := ih h
    exact ⟨_, _, .pair hu (Bool.not_eq_true _ ▸ ht) hl hv hv' hm, rfl, by simp⟩
  | case9 read a b c d cs u hu ht hl ih =>
    obtain ⟨body, t, hm, rfl, rfl⟩ := ih h
    exact ⟨_, _, .unit hu (Bool.not_eq_true _ ▸ ht) (Bool.not_eq_true _ ▸ hl) hm, rfl, by simp⟩
  | case11 read c cs _ _ x hx ih =>
    obtain ⟨body, t, hm, rfl, rfl⟩ := ih h
    exact ⟨_, _, .escape hx hm, rfl, by simp⟩
  | case15 read c cs hq _ _ hescape hend hlow ih =>
    obtain ⟨body, t, hm, rfl, rfl⟩ := ih h
    exact ⟨_, _, .plain hq (ne_backslash hescape hend) hlow hm, rfl, by simp⟩
  | case1 | case3 | case4 | case5 | case7 | case8 | case10 | case12 | case13 | case14 => simp at h

theorem stringTail_complete {b t : List Char} (h : Means b t) (read rest : List Char) :
    stringTail read (b ++ '"' :: rest) = .ok (String.ofList (read.reverse ++ t), rest) := by
  induction h generalizing read with
  | nil => simp [stringTail]
  | plain _ hb hc _ ih => simp [stringTail, hb, hc, ih]
  | escape hx _ ih => simp [stringTail, simpleEscape_ne hx, hx, ih]
  | unit hu ht hl _ ih => simp [stringTail, hu, ht, hl, ih]
  | pair hu ht hl hv hv' _ ih => simp [stringTail, hu, ht, hl, hv, hv', ih]

/-- What follows a number does not go on with it. -/
structure EndsNumber (rest : List Char) : Prop where
  digit : NoDigit rest
  point : '.' ∉ rest.head?
  mark : ∀ c ∈ rest.head?, isExponentMark c = false

theorem Delimited.endsNumber {rest : List Char} (h : Delimited rest) : EndsNumber rest := by
  have hhead : ∀ c ∈ rest.head?, c ∈ [' ', '\n', '\t', '\r', ',', ']', '\x7d'] := by
    intro c hc
    have := h c hc
    simp only [isSpace, Bool.or_eq_true, decide_eq_true_eq, List.mem_cons] at this ⊢
    simpa only [or_assoc] using this
  refine ⟨fun c hc => ?_, fun hc => ?_, fun c hc => ?_⟩
  · have hall : ∀ d ∈ [' ', '\n', '\t', '\r', ',', ']', '\x7d'], isDigit d = false := by
      simp [isDigit]
    exact hall c (hhead c hc)
  · exact absurd (hhead '.' hc) (by decide)
  · have hall : ∀ d ∈ [' ', '\n', '\t', '\r', ',', ']', '\x7d'], isExponentMark d = false := by
      simp [isExponentMark]
    exact hall c (hhead c hc)

theorem areDigits_takeWhile {cs : List Char} (h : startsWithDigit cs = true) :
    AreDigits (cs.takeWhile isDigit) := by
  refine ⟨?_, fun c hc => List.all_eq_true.1 List.all_takeWhile c hc⟩
  cases cs with
  | nil => simp [startsWithDigit] at h
  | cons c cs =>
    rw [List.takeWhile_cons_of_pos (show isDigit c = true from h)]
    exact List.cons_ne_nil _ _

theorem startsWithDigit_append {ds : List Char} (h : AreDigits ds) (rest : List Char) :
    startsWithDigit (ds ++ rest) = true := by
  obtain ⟨hne, hd⟩ := h
  cases ds with
  | nil => exact absurd rfl hne
  | cons d ds => exact hd d List.mem_cons_self

theorem startsWithDigit_of_noDigit {cs : List Char} (h : NoDigit cs) :
    startsWithDigit cs = false := by
  cases cs with
  | nil => rfl
  | cons c cs => exact h c rfl

/-- What follows the sign of an exponent. -/
def skipDigits (cs : List Char) : Except Fault (List Char) :=
  match cs with
  | [] => .error (.here .badNumber [])
  | c :: rest => if isDigit c then .ok (rest.dropWhile isDigit) else .error (.next .badNumber cs)

theorem skipDigits_eq {cs : List Char} (h : startsWithDigit cs = true) :
    skipDigits cs = .ok (cs.dropWhile isDigit) := by
  cases cs with
  | nil => simp [startsWithDigit] at h
  | cons c cs =>
    have hc : isDigit c = true := h
    rw [List.dropWhile_cons_of_pos hc]
    exact if_pos hc

theorem skipDigits_sound {cs rest : List Char} (h : skipDigits cs = .ok rest) :
    ∃ ds, AreDigits ds ∧ cs = ds ++ rest := by
  cases hs : startsWithDigit cs with
  | true =>
    rw [skipDigits_eq hs] at h
    cases h
    exact ⟨_, areDigits_takeWhile hs, List.takeWhile_append_dropWhile.symm⟩
  | false =>
    cases cs with
    | nil => simp [skipDigits] at h
    | cons c cs => simp [skipDigits, show isDigit c = false from hs] at h

def dropSign : List Char → List Char
  | '+' :: cs => cs
  | '-' :: cs => cs
  | cs => cs

theorem skipExponent_eq (cs : List Char) : skipExponent cs = skipDigits (dropSign cs) := rfl

theorem dropSign_sound (cs : List Char) :
    ∃ sign, sign ∈ [[], ['+'], ['-']] ∧ cs = sign ++ dropSign cs := by
  unfold dropSign
  split
  · exact ⟨['+'], by simp, rfl⟩
  · exact ⟨['-'], by simp, rfl⟩
  · exact ⟨[], by simp, rfl⟩

theorem dropSign_complete {sign cs : List Char} (hs : sign ∈ [[], ['+'], ['-']])
    (h : startsWithDigit cs = true) : dropSign (sign ++ cs) = cs := by
  simp only [List.mem_cons, List.not_mem_nil, or_false] at hs
  rcases hs with rfl | rfl | rfl
  · rw [List.nil_append]
    unfold dropSign
    split
    · exact Bool.noConfusion h
    · exact Bool.noConfusion h
    · rfl
  · rfl
  · rfl

theorem skipExponent_sound {cs rest : List Char} (h : skipExponent cs = .ok rest) :
    ∃ sign ds, sign ∈ [[], ['+'], ['-']] ∧ AreDigits ds ∧ cs = sign ++ (ds ++ rest) := by
  obtain ⟨sign, hs, heq⟩ := dropSign_sound cs
  obtain ⟨ds, hd, hdrop⟩ := skipDigits_sound h
  exact ⟨sign, ds, hs, hd, hdrop ▸ heq⟩

/-- What follows the digits of a number and of its fraction. -/
def skipMark (cs : List Char) : Except Fault (List Char) :=
  match cs with
  | c :: more => if isExponentMark c then skipExponent more else .ok (c :: more)
  | [] => .ok []

theorem skipMark_sound {cs rest : List Char} (h : skipMark cs = .ok rest) :
    ∃ e, IsExponent e ∧ cs = e ++ rest := by
  unfold skipMark at h
  split at h
  · rename_i c more
    split at h
    · rename_i hc
      obtain ⟨sign, ds, hs, hd, rfl⟩ := skipExponent_sound h
      exact ⟨_, .inr ⟨c, sign, ds, hc, hs, hd, rfl⟩, by simp⟩
    · cases h
      exact ⟨[], .inl rfl, rfl⟩
  · cases h
    exact ⟨[], .inl rfl, rfl⟩

theorem skipNumber_tail_point (cs : List Char) :
    skipNumber.tail ('.' :: cs) =
      if startsWithDigit cs then skipMark (cs.dropWhile isDigit)
      else .error (.next .badNumber cs) := rfl

theorem skipNumber_tail_other {cs : List Char} (h : '.' ∉ cs.head?) :
    skipNumber.tail cs = skipMark cs := by
  unfold skipNumber.tail
  split
  · exact absurd rfl h
  · rfl
  · rfl

theorem skipNumber_tail_sound {cs rest : List Char} (h : skipNumber.tail cs = .ok rest) :
    ∃ f e, IsFraction f ∧ IsExponent e ∧ cs = f ++ (e ++ rest) := by
  by_cases hpoint : '.' ∈ cs.head?
  · obtain ⟨cs, rfl⟩ := List.head?_eq_some_iff.1 hpoint
    rw [skipNumber_tail_point] at h
    split at h
    · rename_i hs
      obtain ⟨e, he, heq⟩ := skipMark_sound h
      exact ⟨_, e, .inr ⟨_, areDigits_takeWhile hs, rfl⟩, he,
        by rw [← heq, List.cons_append, List.takeWhile_append_dropWhile]⟩
    · simp at h
  · rw [skipNumber_tail_other hpoint] at h
    obtain ⟨e, he, rfl⟩ := skipMark_sound h
    exact ⟨[], e, .inl rfl, he, rfl⟩

theorem skipNumber_sound {cs rest : List Char} (h : skipNumber cs = .ok rest) :
    ∃ m, IsMagnitude m ∧ cs = m ++ rest := by
  unfold skipNumber at h
  split at h
  · simp at h
  · split at h
    · simp at h
    · obtain ⟨f, e, hf, he, rfl⟩ := skipNumber_tail_sound h
      exact ⟨_, ⟨['0'], f, e, .inl rfl, hf, he, rfl⟩, by simp⟩
  · rename_i c cs hzero
    split at h
    · rename_i hc
      obtain ⟨f, e, hf, he, heq⟩ := skipNumber_tail_sound h
      have hi : IsInteger ((c :: cs).takeWhile isDigit) := by
        refine .inr ⟨areDigits_takeWhile hc, ?_⟩
        rw [List.takeWhile_cons_of_pos hc]
        simpa using hzero
      refine ⟨_, ⟨_, f, e, hi, hf, he, rfl⟩, ?_⟩
      rw [List.takeWhile_cons_of_pos hc]
      simp [← heq]
    · simp at h

theorem IsExponent.noDigit {e rest : List Char} (h : IsExponent e) (hrest : NoDigit rest) :
    NoDigit (e ++ rest) := by
  obtain rfl | ⟨mark, sign, ds, hm, -, -, rfl⟩ := h
  · exact hrest
  · intro c hc
    obtain rfl : mark = c := by simpa using hc
    simp only [isExponentMark, Bool.or_eq_true, decide_eq_true_eq] at hm
    rcases hm with rfl | rfl <;> decide

theorem IsFraction.noDigit {f rest : List Char} (h : IsFraction f) (hrest : NoDigit rest) :
    NoDigit (f ++ rest) := by
  obtain rfl | ⟨ds, -, rfl⟩ := h
  · exact hrest
  · intro c hc
    obtain rfl : '.' = c := by simpa using hc
    decide

theorem dropWhile_digits {ds rest : List Char} (h : AreDigits ds) (hrest : NoDigit rest) :
    (ds ++ rest).dropWhile isDigit = rest :=
  (takeWhile_digits h.2 hrest).2

theorem skipDigits_complete {ds rest : List Char} (h : AreDigits ds) (hrest : NoDigit rest) :
    skipDigits (ds ++ rest) = .ok rest := by
  rw [skipDigits_eq (startsWithDigit_append h rest), dropWhile_digits h hrest]

theorem skipExponent_complete {sign ds rest : List Char} (hs : sign ∈ [[], ['+'], ['-']])
    (h : AreDigits ds) (hrest : NoDigit rest) : skipExponent (sign ++ (ds ++ rest)) = .ok rest := by
  rw [skipExponent_eq, dropSign_complete hs (startsWithDigit_append h rest)]
  exact skipDigits_complete h hrest

theorem skipMark_complete {e rest : List Char} (h : IsExponent e) (hrest : EndsNumber rest) :
    skipMark (e ++ rest) = .ok rest := by
  obtain rfl | ⟨mark, sign, ds, hm, hs, hd, rfl⟩ := h
  · cases rest with
    | nil => rfl
    | cons c rest => simp [skipMark, hrest.mark c rfl]
  · simp [skipMark, hm, skipExponent_complete hs hd hrest.digit]

/-- Neither an exponent nor what follows a number starts with a point. -/
theorem IsExponent.no_point {e rest : List Char} (h : IsExponent e) (hrest : EndsNumber rest) :
    '.' ∉ (e ++ rest).head? := by
  obtain rfl | ⟨mark, sign, ds, hm, -, -, rfl⟩ := h
  · exact hrest.point
  · intro hc
    obtain rfl : mark = '.' := by simpa using hc
    exact absurd hm (by decide)

theorem skipNumber_tail_complete {f e rest : List Char} (hf : IsFraction f) (he : IsExponent e)
    (hrest : EndsNumber rest) : skipNumber.tail (f ++ (e ++ rest)) = .ok rest := by
  have hmark := skipMark_complete he hrest
  obtain rfl | ⟨ds, hd, rfl⟩ := hf
  · rw [List.nil_append, skipNumber_tail_other (he.no_point hrest), hmark]
  · rw [List.cons_append, skipNumber_tail_point, if_pos (startsWithDigit_append hd _),
      dropWhile_digits hd (he.noDigit hrest.digit), hmark]

theorem skipNumber_complete {m rest : List Char} (h : IsMagnitude m) (hrest : EndsNumber rest) :
    skipNumber (m ++ rest) = .ok rest := by
  obtain ⟨i, f, e, hi, hf, he, rfl⟩ := h
  have htail := skipNumber_tail_complete hf he hrest
  have hno := hf.noDigit (he.noDigit hrest.digit)
  rw [List.append_assoc, List.append_assoc]
  obtain rfl | ⟨hd, hzero⟩ := hi
  · simp [skipNumber, startsWithDigit_of_noDigit hno, htail]
  · have hstart := startsWithDigit_append hd (f ++ (e ++ rest))
    have hdrop := dropWhile_digits hd hno
    cases i with
    | nil => exact absurd rfl hd.1
    | cons c i =>
      have hc : isDigit c = true := hstart
      rw [List.cons_append, List.dropWhile_cons_of_pos hc] at hdrop
      rw [List.cons_append, skipNumber.eq_def]
      split
      · rename_i heq
        simp at heq
      · rename_i heq
        exact absurd (by simp [(List.cons.inj heq).1]) hzero
      · rename_i heq
        obtain ⟨rfl, rfl⟩ := List.cons.inj heq
        rw [if_pos hc, hdrop, htail]

end Parley.Json
