import Parley.Host
import Parley.Http.Target

/-! Hosts as they are written. Whatever a host was read from, no character of it opens another part
of a URL: names have lost all such characters, and addresses are digits, points and colons. -/

namespace Parley.Host

open Parley.Text Http.Target

/-- Nothing in the text ends an authority. -/
def StaysInside (cs : List Char) : Prop := ∀ c ∈ cs, endsAuthority c = false

instance (cs : List Char) : Decidable (StaysInside cs) := List.decidableBAll _ cs

theorem staysInside_append {xs ys : List Char} (hx : StaysInside xs) (hy : StaysInside ys) :
    StaysInside (xs ++ ys) := by
  intro c hc
  rcases List.mem_append.1 hc with hc | hc
  · exact hx c hc
  · exact hy c hc

theorem staysInside_nil : StaysInside [] := fun _ hc => absurd hc List.not_mem_nil

theorem staysInside_cons {c : Char} {cs : List Char} (hc : endsAuthority c = false)
    (h : StaysInside cs) : StaysInside (c :: cs) := by
  intro d hd
  rcases List.mem_cons.1 hd with rfl | hd
  · exact hc
  · exact h d hd

theorem endsAuthority_digitChar (n : Nat) : endsAuthority (Nat.digitChar n) = false := by
  simp [endsAuthority, Nat.digitChar_ne]

theorem staysInside_toDigits {base : Nat} (hb : 1 < base) (n : Nat) :
    StaysInside (Nat.toDigits base n) := by
  induction n using Nat.strongRecOn with
  | ind n ih =>
    have hdigit (d : Nat) : StaysInside [Nat.digitChar d] :=
      staysInside_cons (endsAuthority_digitChar d) staysInside_nil
    rw [Nat.toDigits_eq_if hb]
    split
    · exact hdigit n
    · rename_i hlarge
      have hlt : n / base < n := Nat.div_lt_self (by omega) hb
      exact staysInside_append (ih _ hlt) (hdigit _)

theorem staysInside_digits (n : Nat) : StaysInside (digits n) := staysInside_toDigits (by decide) n

theorem staysInside_octetText (n : Nat) : StaysInside (octetText n) := by
  have hdot (m : Nat) : StaysInside ('.' :: digits m) :=
    staysInside_cons (by decide) (staysInside_digits m)
  unfold octetText
  refine staysInside_append ?_ (hdot _)
  refine staysInside_append ?_ (hdot _)
  exact staysInside_append (staysInside_digits _) (hdot _)

theorem staysInside_joinPieces (ps : List Nat) : StaysInside (joinPieces ps) := by
  cases ps with
  | nil => exact staysInside_nil
  | cons p ps =>
    refine staysInside_append (staysInside_toDigits (by decide) p) fun c hc => ?_
    obtain ⟨q, -, hq⟩ := List.mem_flatMap.1 hc
    exact staysInside_cons (by decide) (staysInside_toDigits (by decide) q) c hq

theorem staysInside_pieceText (ps : List Nat) : StaysInside (pieceText ps) := by
  unfold pieceText
  simp only
  split
  · exact staysInside_joinPieces ps
  · refine staysInside_append (staysInside_append (staysInside_joinPieces _) ?_)
      (staysInside_joinPieces _)
    exact staysInside_cons (by decide) (staysInside_cons (by decide) staysInside_nil)

theorem endsAuthority_toLower {c : Char} (h : endsAuthority c = false) (ha : isAscii c = true) :
    endsAuthority c.toLower = false := by
  have hall : ∀ n < 128, endsAuthority (Char.ofNat n) = false →
      endsAuthority (Char.ofNat n).toLower = false := by
    decide
  have := hall c.toNat (of_decide_eq_true ha)
  rw [Char.ofNat_toNat] at this
  exact this h

theorem isForbidden_of_endsAuthority {c : Char} (h : endsAuthority c = true) :
    isAscii c = true ∧ isForbidden c = true := by
  simp only [endsAuthority, Bool.or_eq_true, decide_eq_true_eq] at h
  rcases h with (rfl | rfl) | rfl <;> decide

theorem staysInside_of_any {cs : List Char} (h : ¬ cs.any (fun c => isAscii c && isForbidden c)) :
    StaysInside cs := by
  intro c hc
  cases he : endsAuthority c with
  | false => rfl
  | true =>
    obtain ⟨hascii, hforbidden⟩ := isForbidden_of_endsAuthority he
    exact absurd (List.any_eq_true.2 ⟨c, hc, by rw [hascii, hforbidden]; rfl⟩) h

theorem mem_of_mem_splitAt {mark : Char} {cs part : List Char} (hp : part ∈ splitAt mark cs)
    {c : Char} (hc : c ∈ part) : c ∈ cs := by
  induction cs generalizing part with
  | nil =>
    rw [List.mem_singleton.1 hp] at hc
    exact hc
  | cons d cs ih =>
    unfold splitAt at hp
    split at hp
    · rcases List.mem_cons.1 hp with rfl | hp
      · exact absurd hc List.not_mem_nil
      · exact List.mem_cons_of_mem d (ih hp hc)
    · split at hp
      · rw [List.mem_singleton.1 hp] at hc
        exact List.mem_cons.2 (Or.inl (List.mem_singleton.1 hc))
      · rename_i p ps hsplit
        rcases List.mem_cons.1 hp with rfl | hp
        · rcases List.mem_cons.1 hc with rfl | hc
          · exact List.mem_cons_self
          · exact List.mem_cons_of_mem d (ih (hsplit ▸ List.mem_cons_self) hc)
        · exact List.mem_cons_of_mem d (ih (hsplit ▸ List.mem_cons_of_mem p hp) hc)

namespace Punycode

theorem endsAuthority_digit {n : Nat} (h : n < 36) : endsAuthority (digit n) = false := by
  revert n
  decide

theorem staysInside_numberChars (bias place n : Nat) : StaysInside (numberChars bias place n) := by
  have hbounds := threshold_bounds
  induction place, n using numberChars.induct bias with
  | case1 place n t hlt =>
    unfold numberChars
    rw [if_pos hlt]
    have := hbounds place bias
    exact staysInside_cons (endsAuthority_digit (by omega)) staysInside_nil
  | case2 place n t hlt ih =>
    unfold numberChars
    rw [if_neg hlt]
    have := hbounds place bias
    refine staysInside_cons (endsAuthority_digit ?_) ih
    have hmod := Nat.mod_lt (n - threshold place bias)
      (show 36 - threshold place bias > 0 by omega)
    omega

theorem staysInside_pass {p : Progress} (h : StaysInside p.out) (basics n : Nat) (c : Char) :
    StaysInside (p.pass basics n c).out := by
  unfold Progress.pass
  split
  · exact h
  split
  · exact staysInside_append h (staysInside_numberChars _ _ _)
  · exact h

theorem staysInside_passes (basics n : Nat) (cs : List Char) {p : Progress}
    (h : StaysInside p.out) : StaysInside (cs.foldl (Progress.pass basics n) p).out := by
  induction cs generalizing p with
  | nil => exact h
  | cons c cs ih => exact ih (staysInside_pass h basics n c)

theorem staysInside_rounds (cs : List Char) (basics : Nat) (ms : List Nat) (n : Nat) {p : Progress}
    (h : StaysInside p.out) : StaysInside (rounds cs basics ms n p) := by
  induction ms generalizing n p with
  | nil => exact h
  | cons m ms ih => exact ih (m + 1) (staysInside_passes basics m cs h)

theorem staysInside_encode {cs : List Char} (h : StaysInside cs) : StaysInside (encode cs) := by
  unfold encode
  refine staysInside_append (staysInside_append ?_ ?_) (staysInside_rounds _ _ _ _ ?_)
  · exact fun c hc => h c ((List.mem_filter.1 hc).1)
  · split
    · exact staysInside_nil
    · exact staysInside_cons (by decide) staysInside_nil
  · exact staysInside_nil

end Punycode

theorem staysInside_readLabel {cs : List Char} {label : List Char × List Char}
    (h : readLabel cs = some label) (hcs : StaysInside cs) : StaysInside label.2 := by
  unfold readLabel at h
  split at h
  · obtain ⟨decoded, -, h⟩ := Option.bind_eq_some_iff.1 h
    split at h
    · simp at h
    · rw [← Option.some.inj h]
      exact hcs
  split at h
  · simp at h
  split at h
  · rw [← Option.some.inj h]
    exact hcs
  split at h
  · simp at h
  · rw [← Option.some.inj h]
    exact staysInside_append (by decide) (Punycode.staysInside_encode hcs)

theorem mapM_all {α β : Type} {f : α → Option β} {P : β → Prop} {xs : List α} {ys : List β}
    (h : xs.mapM f = some ys) (hf : ∀ x ∈ xs, ∀ y, f x = some y → P y) : ∀ y ∈ ys, P y := by
  induction xs generalizing ys with
  | nil =>
    rw [← Option.some.inj (h : some [] = some ys)]
    exact fun _ hy => absurd hy List.not_mem_nil
  | cons x xs ih =>
    rw [List.mapM_cons] at h
    obtain ⟨z, hz, h⟩ := Option.bind_eq_some_iff.1 h
    obtain ⟨zs, hzs, h⟩ := Option.bind_eq_some_iff.1 h
    rw [← Option.some.inj h]
    intro y hy
    rcases List.mem_cons.1 hy with rfl | hy
    · exact hf x List.mem_cons_self y hz
    · exact ih hzs (fun w hw => hf w (List.mem_cons_of_mem x hw)) y hy

theorem staysInside_intercalate {parts : List (List Char)} (h : ∀ p ∈ parts, StaysInside p) :
    StaysInside (['.'].intercalate parts) := by
  induction parts with
  | nil => exact staysInside_nil
  | cons p parts ih =>
    cases parts with
    | nil => simpa using h
    | cons q parts =>
      rw [List.intercalate_cons_cons]
      refine staysInside_append (staysInside_append (h p List.mem_cons_self) ?_) ?_
      · exact staysInside_cons (by decide) staysInside_nil
      · exact ih fun r hr => h r (List.mem_cons_of_mem p hr)

theorem staysInside_codedName {cs name : List Char} (h : codedName cs = some name) :
    StaysInside name := by
  unfold codedName at h
  obtain ⟨mapped, -, h⟩ := Option.bind_eq_some_iff.1 h
  simp only at h
  split at h
  · simp at h
  rename_i hnone
  have hinside : StaysInside (Unicode.normalize mapped) := staysInside_of_any hnone
  obtain ⟨labels, hlabels, h⟩ := Option.bind_eq_some_iff.1 h
  split at h
  · simp at h
  rw [← Option.some.inj h]
  refine staysInside_intercalate fun p hp => ?_
  obtain ⟨label, hlabel, rfl⟩ := List.mem_map.1 hp
  refine mapM_all (P := fun label => StaysInside label.2) hlabels ?_ label hlabel
  intro part hpart label hread
  exact staysInside_readLabel hread fun c hc => hinside c (mem_of_mem_splitAt hpart hc)

theorem staysInside_asciiName {cs name : List Char} (h : asciiName cs = some name) :
    StaysInside name := by
  unfold asciiName at h
  simp only at h
  split at h
  · rename_i hascii
    split at h
    · simp at h
    rename_i hnone
    rw [Bool.and_eq_true, List.all_eq_true] at hascii
    have hinside : StaysInside cs := staysInside_of_any fun hany => hnone <| by
      obtain ⟨c, hc, hboth⟩ := List.any_eq_true.1 hany
      exact List.any_eq_true.2 ⟨c, hc, (Bool.and_eq_true _ _ ▸ hboth).2⟩
    rw [← Option.some.inj h]
    intro c hc
    obtain ⟨d, hd, rfl⟩ := List.mem_map.1 hc
    exact endsAuthority_toLower (hinside d hd) (hascii.1 d hd)
  · exact staysInside_codedName h

/-- Every host that can be read is written without a character that ends an authority. -/
theorem staysInside_read {cs : List Char} {h : Host} (hread : Host.read cs = .ok h) :
    StaysInside h.chars := by
  unfold Host.read at hread
  split at hread
  · unfold bracketed at hread
    split at hread
    · split at hread
      · rw [← Except.ok.inj hread]
        refine staysInside_append (staysInside_cons (by decide) (staysInside_pieceText _)) ?_
        exact staysInside_cons (by decide) staysInside_nil
      · simp at hread
    · simp at hread
  · split at hread
    · simp at hread
    · simp at hread
    · rename_i ascii _ hname
      obtain ⟨s, -, hname⟩ := Option.bind_eq_some_iff.1 hname
      split at hread
      · split at hread
        · rw [← Except.ok.inj hread]
          exact staysInside_octetText _
        · simp at hread
      · rw [← Except.ok.inj hread]
        simpa [chars] using staysInside_asciiName hname

end Parley.Host
