import Parley.Proofs.Query

/-! A host has no colon in it unless it is an address in brackets. Undoing escapes, mapping and
normalising change many characters, but none of them touches a colon: it is no mark, it is made of
nothing else, and nothing else is made of it. So the colon is still there when a name is refused for
it. The tables of characters are gone through line by line. -/

namespace Parley

namespace Unicode

theorem all_rows_cons {p : List Nat → Bool} {cs : List Char} {lines : List String}
    (h : ((cs.foldl RowsState.step {}).step ',').rows.all p = true)
    (hs : (rows lines).all p = true) : (rows (String.ofList cs :: lines)).all p = true := by
  rw [rows, List.flatMap_cons, List.all_append, lineRows, String.toList_ofList, List.all_reverse, h]
  exact hs

theorem composed_no_colon : composed.all (fun row => !row.contains ':'.toNat) = true := by
  unfold composed
  repeat refine all_rows_cons (by decide +kernel) ?_
  rfl

theorem divided_no_colon : divided.all (fun row => !row.contains ':'.toNat) = true := by
  unfold divided
  repeat refine all_rows_cons (by decide +kernel) ?_
  rfl

theorem combiningClasses_no_colon :
    combiningClasses.all (fun row => !rowHolds ':' row) = true := by
  unfold combiningClasses
  repeat refine all_rows_cons (by decide +kernel) ?_
  rfl

/-- A character that normalising leaves alone: it is no mark, has no parts and is no part. -/
structure Inert (c : Char) : Prop where
  class_eq : combiningClass c = 0
  whole : divideOnce c = none
  left : ∀ d, composePair c d = none
  right : ∀ d, composePair d c = none

theorem not_mem_of_all {table : List (List Nat)} {n : Nat}
    (h : table.all (fun row => !row.contains n) = true) : ∀ row ∈ table, n ∉ row := by
  intro row hrow hn
  have := List.all_eq_true.1 h row hrow
  simp [hn] at this

theorem inert_colon : Inert ':' := by
  have hcomposed := not_mem_of_all composed_no_colon
  have hdivided := not_mem_of_all divided_no_colon
  have hhead : ∀ table : List (List Nat), (∀ row ∈ table, ':'.toNat ∉ row) →
      table.find? (fun row => row.head? = some ':'.toNat) = none := by
    intro table htable
    rw [List.find?_eq_none]
    intro row hrow hhead
    exact htable row hrow (List.mem_of_head? (of_decide_eq_true hhead))
  have htail : ∀ a b : Char, a = ':' ∨ b = ':' →
      composed.find? (fun row => row.tail = [a.toNat, b.toNat]) = none := by
    intro a b hab
    rw [List.find?_eq_none]
    intro row hrow hpair
    have hpart : ':'.toNat ∈ row.tail := by
      rw [of_decide_eq_true hpair]
      rcases hab with rfl | rfl <;> simp
    exact hcomposed row hrow (List.mem_of_mem_tail hpart)
  refine ⟨?_, ?_, fun d => ?_, fun d => ?_⟩
  · have hnone : combiningClasses.find? (rowHolds ':') = none := by
      rw [List.find?_eq_none]
      intro row hrow hholds
      have := List.all_eq_true.1 combiningClasses_no_colon row hrow
      simp [hholds] at this
    rw [combiningClass, hnone]
  · have hsyllable : divideSyllable ':' = none := by decide
    simp only [divideOnce, hsyllable, hhead composed hcomposed, hhead divided hdivided]
    rfl
  · have hsyllable : composeSyllable ':' d = none := by
      have : ':'.toNat = 58 := rfl
      unfold composeSyllable
      simp only [this]
      rw [if_neg (by omega), if_neg (by omega)]
    rw [composePair, hsyllable, htail _ _ (Or.inl rfl)]
    rfl
  · have hsyllable : composeSyllable d ':' = none := by
      have : ':'.toNat = 58 := rfl
      unfold composeSyllable
      simp only [this]
      rw [if_neg (by omega), if_neg (by omega)]
    rw [composePair, hsyllable, htail _ _ (Or.inr rfl)]
    rfl

theorem mem_insertMark {m x : Char × Nat} {xs : List (Char × Nat)} :
    x ∈ insertMark m xs ↔ x = m ∨ x ∈ xs := by
  induction xs with
  | nil => simp [insertMark]
  | cons y ys ih =>
    unfold insertMark
    split
    · simp
    · simp only [List.mem_cons, ih]
      exact or_left_comm

theorem mem_orderMarks {x : Char × Nat} {marks xs : List (Char × Nat)} :
    x ∈ orderMarks marks xs ↔ x ∈ marks ∨ x ∈ xs := by
  induction xs generalizing marks with
  | nil => simp [orderMarks]
  | cons y ys ih =>
    unfold orderMarks
    split
    · simp [ih]
    · simp only [ih, mem_insertMark, List.mem_cons]
      rw [or_assoc, or_left_comm]

/-- A step of composing; whether the base can be reached is left open. -/
theorem compose_cons (base : Option Char) (kept : List (Char × Nat)) (c : Char) (k : Nat)
    (rest : List (Char × Nat)) :
    ∃ blocked : Bool, compose base kept ((c, k) :: rest) =
      match base.bind fun b => if blocked then none else composePair b c with
      | some joined => compose (some joined) kept rest
      | none =>
        if k = 0 then base.toList ++ kept.reverse.map Prod.fst ++ compose (some c) [] rest
        else compose base ((c, k) :: kept) rest := by
  cases kept with
  | nil => exact ⟨false, rfl⟩
  | cons m kept => exact ⟨decide (k ≤ m.2), rfl⟩

/-- What cannot be composed with anything comes out again, wherever it stands. -/
theorem Inert.mem_compose {c : Char} (h : Inert c) {base : Option Char}
    {kept rest : List (Char × Nat)}
    (hc : c ∈ base ∨ c ∈ kept.map Prod.fst ∨ c ∈ rest.map Prod.fst) :
    c ∈ compose base kept rest := by
  induction rest generalizing base kept with
  | nil =>
    rcases hc with hc | hc | hc
    · simp [compose, Option.mem_def.1 hc]
    · simp only [compose, List.mem_append, List.map_reverse, List.mem_reverse]
      exact Or.inr hc
    · simp at hc
  | cons m rest ih =>
    obtain ⟨d, k⟩ := m
    obtain ⟨blocked, hstep⟩ := compose_cons base kept d k rest
    rw [hstep]
    split
    · rename_i joined hjoined
      obtain ⟨b, rfl, hpair⟩ := Option.bind_eq_some_iff.1 hjoined
      have hpair : composePair b d = some joined := by
        split at hpair
        · simp at hpair
        · exact hpair
      -- Neither of the two that were composed is the character, so it is one of the others.
      have hb : c ≠ b := by
        rintro rfl
        simp [h.left] at hpair
      have hd : c ≠ d := by
        rintro rfl
        simp [h.right] at hpair
      refine ih (Or.inr ?_)
      simpa [hb.symm, hd] using hc
    split
    · simp only [List.mem_append, List.map_reverse, List.mem_reverse, Option.mem_toList]
      rcases hc with hc | hc | hc
      · exact Or.inl (Or.inl hc)
      · exact Or.inl (Or.inr hc)
      rcases List.mem_cons.1 hc with rfl | hc
      · exact Or.inr (ih (Or.inl rfl))
      · exact Or.inr (ih (Or.inr (Or.inr hc)))
    · refine ih ?_
      rcases hc with hc | hc | hc
      · exact Or.inl hc
      · exact Or.inr (Or.inl (List.mem_cons_of_mem _ hc))
      rcases List.mem_cons.1 hc with rfl | hc
      · exact Or.inr (Or.inl List.mem_cons_self)
      · exact Or.inr (Or.inr hc)

theorem Inert.mem_normalize {c : Char} (h : Inert c) {cs : List Char} (hc : c ∈ cs) :
    c ∈ normalize cs := by
  refine h.mem_compose (Or.inr (Or.inr ?_))
  have hdivide : c ∈ divide 5 c := by
    simp [divide, h.whole]
  refine List.mem_map.2 ⟨(c, combiningClass c), ?_, rfl⟩
  rw [mem_orderMarks]
  exact Or.inr (List.mem_map.2 ⟨c, List.mem_flatMap.2 ⟨c, hc, hdivide⟩, rfl⟩)

end Unicode

theorem Text.octets_of_ofOctets? {bs : List UInt8} {s : String} (h : ofOctets? bs = some s) :
    octets s = bs := by
  unfold ofOctets? String.fromUTF8? at h
  split at h
  · obtain rfl := Option.some.inj h
    simp [octets, String.fromUTF8]
  · simp at h

theorem Text.toNat_of_mem_charOctets {c : Char} {b : UInt8} (h : b ∈ Url.charOctets c)
    (hb : b.toNat < 128) : c.toNat = b.toNat := by
  have hc : c.val.toNat = c.toNat := rfl
  simp only [Url.charOctets, String.utf8EncodeChar, hc] at h
  split at h
  · rw [List.mem_singleton.1 h, UInt8.toNat_ofNat']
    omega
  split at h
  · simp only [List.mem_cons, List.not_mem_nil, or_false] at h
    rcases h with rfl | rfl <;> rw [UInt8.toNat_ofNat'] at hb <;> omega
  split at h
  · simp only [List.mem_cons, List.not_mem_nil, or_false] at h
    rcases h with rfl | rfl | rfl <;> rw [UInt8.toNat_ofNat'] at hb <;> omega
  · simp only [List.mem_cons, List.not_mem_nil, or_false] at h
    rcases h with rfl | rfl | rfl | rfl <;> rw [UInt8.toNat_ofNat'] at hb <;> omega

namespace Url

open Text

/-- A colon is no part of an escape. -/
theorem colon_mem_unescape {cs : List Char} (h : ':' ∈ cs) : 58 ∈ unescape cs := by
  have hcolon : hexValue? ':' = none := by decide
  induction cs using unescape.induct with
  | case1 => simp at h
  | case2 a b cs x y hb ha ih =>
    have hna : ':' ≠ a := by
      rintro rfl
      simp [hcolon] at ha
    have hnb : ':' ≠ b := by
      rintro rfl
      simp [hcolon] at hb
    simp only [unescape, ha, hb]
    refine List.mem_cons_of_mem _ (ih ?_)
    simpa [hna, hnb] using h
  | case3 a b cs hno ih =>
    rw [unescape]
    split
    · rename_i x y ha hb
      exact absurd hb (fun hb => hno x y ha hb)
    · exact List.mem_append_right _ (ih (by simpa using h))
  | case4 c cs hc ih =>
    rw [unescape.eq_3 _ _ hc]
    rcases List.mem_cons.1 h with rfl | h
    · exact List.mem_append_left _ (by decide)
    · exact List.mem_append_right _ (ih h)

end Url

namespace Host

open Unicode

theorem mem_of_mapM {α β : Type} {f : α → Option β} {xs : List α} {ys : List β}
    (h : xs.mapM f = some ys) {x : α} (hx : x ∈ xs) {y : β} (hy : f x = some y) : y ∈ ys := by
  induction xs generalizing ys with
  | nil => simp at hx
  | cons z zs ih =>
    rw [List.mapM_cons] at h
    obtain ⟨w, hw, h⟩ := Option.bind_eq_some_iff.1 h
    obtain ⟨ws, hws, h⟩ := Option.bind_eq_some_iff.1 h
    obtain rfl := Option.some.inj h
    rcases List.mem_cons.1 hx with rfl | hx
    · obtain rfl := Option.some.inj (hw.symm.trans hy)
      exact List.mem_cons_self
    · exact List.mem_cons_of_mem _ (ih hws hx)

theorem codedName_colon {cs : List Char} (h : ':' ∈ cs) : codedName cs = none := by
  cases hname : codedName cs with
  | none => rfl
  | some name =>
    unfold codedName at hname
    obtain ⟨mapped, hmapped, hname⟩ := Option.bind_eq_some_iff.1 hname
    obtain ⟨parts, hparts, rfl⟩ := Option.map_eq_some_iff.1 hmapped
    have hcolon : ':' ∈ parts.flatten :=
      List.mem_flatten.2 ⟨[':'], mem_of_mapM hparts h (by decide), by simp⟩
    have hany : (normalize parts.flatten).any (fun c => isAscii c && isForbidden c) = true :=
      List.any_eq_true.2 ⟨':', inert_colon.mem_normalize hcolon, by decide⟩
    simp [hany] at hname

theorem asciiName_colon {cs : List Char} (h : ':' ∈ cs) : asciiName cs = none := by
  unfold asciiName
  simp only
  split
  · exact if_pos (List.any_eq_true.2 ⟨':', h, by decide⟩)
  · exact codedName_colon h

/-- Only an address in brackets may have a colon in it. -/
theorem read_colon {cs : List Char} (h : ':' ∈ cs) (hlast : cs.getLast? ≠ some ']') (a : Host) :
    Host.read cs ≠ .ok a := by
  intro hread
  unfold Host.read at hread
  split at hread
  · rename_i rest
    unfold bracketed at hread
    split at hread
    · rename_i hclosed
      exact hlast (by rw [List.getLast?_cons, hclosed]; rfl)
    · simp at hread
  · have hname : (Text.ofOctets? (Url.unescape cs)).bind (fun s => asciiName s.toList) = none := by
      cases htext : Text.ofOctets? (Url.unescape cs) with
      | none => rfl
      | some s =>
        have hcolon : 58 ∈ Text.octets s :=
          Text.octets_of_ofOctets? htext ▸ Url.colon_mem_unescape h
        rw [Url.octets_eq] at hcolon
        obtain ⟨c, hc, hoctet⟩ := List.mem_flatMap.1 hcolon
        have hnat := Text.toNat_of_mem_charOctets hoctet (by decide)
        obtain rfl : c = ':' := Char.toNat_inj.1 hnat
        exact asciiName_colon hc
    simp [hname] at hread

end Host

end Parley
