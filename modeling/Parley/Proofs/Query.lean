import Parley.Host
import Parley.Url.Form

/-! The query of a URL, written and read back. What is written of a text is letters, digits and a
few marks, none of which parts one pair from the next or a name from its value; so a query that was
made of one pair is read back as that pair, whatever is in it. -/

namespace Parley.Url

open Parley.Text

theorem hexValue?_upperHexDigit {n : Nat} (h : n < 16) : hexValue? (upperHexDigit n) = some n := by
  revert n
  decide

theorem unescape_cons {c : Char} (h : c ≠ '%') (cs : List Char) :
    unescape (c :: cs) = charOctets c ++ unescape cs := by
  rw [unescape.eq_3]
  rintro a b rest rfl
  exact absurd rfl h

theorem unescape_escapedOctet (b : UInt8) (cs : List Char) :
    unescape (escapedOctet b ++ cs) = b :: unescape cs := by
  have hb : b.toNat < 256 := b.toNat_lt
  have hhigh := hexValue?_upperHexDigit (n := b.toNat / 16) (by omega)
  have hlow := hexValue?_upperHexDigit (n := b.toNat % 16) (by omega)
  simp only [escapedOctet, List.cons_append, List.nil_append, unescape, hhigh, hlow]
  rw [Nat.div_add_mod]
  exact congrArg (· :: unescape cs) (UInt8.ofNat_toNat)

theorem unescape_escapedOctets (bs : List UInt8) (cs : List Char) :
    unescape (bs.flatMap escapedOctet ++ cs) = bs ++ unescape cs := by
  induction bs with
  | nil => rfl
  | cons b bs ih =>
    rw [List.flatMap_cons, List.append_assoc, unescape_escapedOctet, ih, List.cons_append]

theorem octets_eq (s : String) : octets s = s.toList.flatMap charOctets := by
  conv => lhs; rw [← String.ofList_toList (s := s)]
  simp only [octets, String.toUTF8_eq_toByteArray, String.toByteArray_ofList, List.utf8Encode,
    List.data_toByteArray, List.toList_toArray]
  rfl

/-- A plus sign stands for a blank. -/
def blankOf (c : Char) : Char := if c = '+' then ' ' else c

theorem readFormText_eq (cs : List Char) :
    readFormText cs = ofOctets? (unescape (cs.map blankOf)) := rfl

/-- What stands in a text that was written for a query. -/
def isFormMark (c : Char) : Bool := isFormPlain c || c = '+' || c = '%'

theorem isFormPlain_upperHexDigit {n : Nat} (h : n < 16) :
    isFormPlain (upperHexDigit n) = true := by
  revert n
  decide

theorem escapedOctet_cases {b : UInt8} {c : Char} (h : c ∈ escapedOctet b) :
    c = '%' ∨ isFormPlain c = true := by
  have hb : b.toNat < 256 := b.toNat_lt
  simp only [escapedOctet, List.mem_cons, List.not_mem_nil, or_false] at h
  rcases h with rfl | rfl | rfl
  · exact Or.inl rfl
  · exact Or.inr (isFormPlain_upperHexDigit (by omega))
  · exact Or.inr (isFormPlain_upperHexDigit (by omega))

theorem blankOf_of_isFormPlain {c : Char} (h : isFormPlain c = true) : blankOf c = c := by
  unfold blankOf
  split
  · rename_i hc
    subst hc
    exact absurd h (by decide)
  · rfl

theorem map_blankOf_escaped (bs : List UInt8) :
    (bs.flatMap escapedOctet).map blankOf = bs.flatMap escapedOctet := by
  conv => rhs; rw [← List.map_id (bs.flatMap escapedOctet)]
  refine List.map_congr_left fun c hc => ?_
  obtain ⟨b, -, hb⟩ := List.mem_flatMap.1 hc
  rcases escapedOctet_cases hb with rfl | hplain
  · rfl
  · exact blankOf_of_isFormPlain hplain

theorem unescape_formChar (c : Char) (cs : List Char) :
    unescape ((formChar c).map blankOf ++ cs) = charOctets c ++ unescape cs := by
  unfold formChar
  split
  · rename_i h
    rw [List.map_singleton, blankOf_of_isFormPlain h, List.singleton_append, unescape_cons]
    rintro rfl
    exact absurd h (by decide)
  split
  · rename_i h
    subst h
    exact unescape_cons (by decide) cs
  · rw [map_blankOf_escaped, unescape_escapedOctets]

theorem unescape_formChars (cs : List Char) :
    unescape ((cs.flatMap formChar).map blankOf) = cs.flatMap charOctets := by
  induction cs with
  | nil => rfl
  | cons c cs ih =>
    rw [List.flatMap_cons, List.map_append, unescape_formChar, ih, List.flatMap_cons]

theorem readFormText_formText (s : String) : readFormText (formText s) = some s := by
  rw [readFormText_eq, formText, unescape_formChars, ← octets_eq, ofOctets?_octets]

theorem isFormMark_of_mem_formText {s : String} {c : Char} (h : c ∈ formText s) :
    isFormMark c = true := by
  obtain ⟨d, -, hd⟩ := List.mem_flatMap.1 h
  unfold formChar at hd
  split at hd
  · rename_i hplain
    rw [List.mem_singleton.1 hd]
    simp [isFormMark, hplain]
  split at hd
  · rw [List.mem_singleton.1 hd]
    rfl
  · obtain ⟨b, -, hb⟩ := List.mem_flatMap.1 hd
    rcases escapedOctet_cases hb with rfl | hplain
    · rfl
    · simp [isFormMark, hplain]

/-- A mark that never stands for itself in a written text. -/
theorem not_mem_formText {c : Char} (hc : isFormMark c = false) (s : String) : c ∉ formText s := by
  intro h
  rw [isFormMark_of_mem_formText h] at hc
  exact Bool.noConfusion hc

theorem cutAt_append {mark : Char} {front : List Char} (h : mark ∉ front) (rest : List Char) :
    cutAt mark (front ++ mark :: rest) = (front, rest) := by
  have hpos : ∀ c ∈ front, decide (c ≠ mark) = true := by
    intro c hc
    exact decide_eq_true fun he => h (he ▸ hc)
  unfold cutAt
  rw [List.takeWhile_append_of_pos hpos, List.dropWhile_append_of_pos hpos]
  simp

theorem splitAt_of_not_mem {mark : Char} {cs : List Char} (h : mark ∉ cs) :
    Host.splitAt mark cs = [cs] := by
  induction cs with
  | nil => rfl
  | cons c cs ih =>
    obtain ⟨hc, hcs⟩ := not_or.1 (mt List.mem_cons.2 h)
    rw [Host.splitAt, if_neg (Ne.symm hc), ih hcs]

def readPair (cs : List Char) : Option (String × String) := do
  let (name, value) := cutAt '=' cs
  return (← readFormText name, ← readFormText value)

/-- All pairs of a query; where nothing stands there is none. -/
def readForm (query : List Char) : Option (List (String × String)) :=
  ((Host.splitAt '&' query).filter (!·.isEmpty)).mapM readPair

theorem not_mem_formPair {c : Char} (hc : isFormMark c = false) (hne : c ≠ '=')
    (name value : String) : c ∉ formPair name value := by
  intro h
  rcases List.mem_append.1 h with h | h
  · exact not_mem_formText hc name h
  rcases List.mem_cons.1 h with h | h
  · exact hne h
  · exact not_mem_formText hc value h

theorem ampersand_not_mem_formPair (name value : String) : '&' ∉ formPair name value :=
  not_mem_formPair (by decide) (by decide) name value

theorem cutAt_formPair (name value : String) :
    cutAt '=' (formPair name value) = (formText name, formText value) :=
  cutAt_append (not_mem_formText (by decide) name) _

end Parley.Url
