import Mathlib.Data.List.Basic
import Parley.Proofs.HostColon
import Parley.Proofs.Query
import Parley.Shell.Talk

/-! The lines of an input that is text. They are cut out of its octets, at octets that stand for
line feeds only, so each line is a text again, and the messages in an input are those of the lines
of the text: each line that is not blank, without the blanks around it. -/

namespace Parley.Shell.Input

open Parley.Text Parley.Url

def withoutReturnChar (line : List Char) : List Char :=
  if line.getLast? = some '\r' then line.dropLast else line

/-- The lines of a text, as they stand between its line feeds. Where nothing follows the last line
feed there is no line more. -/
def linesOf (text : String) : List String :=
  let pieces := text.toList.splitOn '\n'
  let last := pieces.getLastD []
  (pieces.dropLast.map withoutReturnChar ++ if last.isEmpty then [] else [last]).map String.ofList

def trimmed (line : String) : String := String.ofList (trim line.toList)

theorem splitOn_cons {α : Type} [BEq α] (sep x : α) (xs : List α) :
    (x :: xs).splitOn sep =
      if x == sep then [] :: xs.splitOn sep else (xs.splitOn sep).modifyHead (x :: ·) := by
  simp only [List.splitOn_eq_splitOnP]
  exact List.splitOnP_cons_eq_if_modifyHead x xs

theorem splitOn_append {α : Type} [BEq α] {sep : α} {front : List α}
    (h : ∀ x ∈ front, (x == sep) = false) (xs : List α) :
    (front ++ xs).splitOn sep = (xs.splitOn sep).modifyHead (front ++ ·) := by
  induction front with
  | nil => cases hpieces : xs.splitOn sep <;> simp [hpieces]
  | cons x front ih =>
    obtain ⟨hx, hfront⟩ := List.forall_mem_cons.1 h
    rw [List.cons_append, splitOn_cons, if_neg (Bool.eq_false_iff.1 hx), ih hfront,
      List.modifyHead_modifyHead]
    rfl

theorem cut_eq (bs : List UInt8) :
    cut bs = ((bs.splitOn 10).dropLast, (bs.splitOn 10).getLastD []) := by
  induction bs with
  | nil => rfl
  | cons b bs ih =>
    have hne : bs.splitOn 10 ≠ [] := List.splitOn_ne_nil 10 bs
    rw [splitOn_cons]
    simp only [cut, ih]
    cases hpieces : bs.splitOn 10 with
    | nil => exact absurd hpieces hne
    | cons piece pieces =>
      by_cases hb : b = 10
      · subst hb
        simp
      · cases pieces <;> simp [hb]

theorem splitOn_octets (cs : List Char) :
    (cs.flatMap charOctets).splitOn 10 = (cs.splitOn '\n').map (·.flatMap charOctets) := by
  induction cs with
  | nil => rfl
  | cons c cs ih =>
    rw [List.flatMap_cons, splitOn_cons]
    by_cases hc : c = '\n'
    · subst hc
      have hfeed : charOctets '\n' = [10] := rfl
      rw [hfeed, List.singleton_append, splitOn_cons, ih]
      rfl
    · have hother : ∀ b ∈ charOctets c, (b == 10) = false := by
        intro b hb
        refine beq_eq_false_iff_ne.2 ?_
        rintro rfl
        have hten : c.toNat = '\n'.toNat := toNat_of_mem_charOctets hb (by decide)
        exact hc (Char.toNat_inj.1 hten)
      rw [splitOn_append hother, ih, if_neg (by simpa using hc)]
      cases cs.splitOn '\n' <;> simp

/-- Only a carriage return ends with the octet of a carriage return. -/
theorem withoutReturn_octets (cs : List Char) :
    withoutReturn (cs.flatMap charOctets) = (withoutReturnChar cs).flatMap charOctets := by
  rcases List.eq_nil_or_concat' cs with rfl | ⟨front, c, rfl⟩
  · rfl
  · by_cases hc : c = '\r'
    · subst hc
      have hreturn : charOctets '\r' = [13] := rfl
      simp [withoutReturn, withoutReturnChar, hreturn]
    · have hkept : withoutReturnChar (front ++ [c]) = front ++ [c] := by
        simp [withoutReturnChar, hc]
      have hlast : ((front ++ [c]).flatMap charOctets).getLast? ≠ some 13 := by
        intro hlast
        have hne : charOctets c ≠ [] := String.utf8EncodeChar_ne_nil
        rw [List.flatMap_append, List.flatMap_singleton, List.getLast?_append_of_ne_nil _ hne]
          at hlast
        have hthirteen : c.toNat = '\r'.toNat :=
          toNat_of_mem_charOctets (List.mem_of_getLast? hlast) (by decide)
        exact hc (Char.toNat_inj.1 hthirteen)
      rw [hkept, withoutReturn, if_neg hlast]

theorem octets_ofList (cs : List Char) : octets (String.ofList cs) = cs.flatMap charOctets := by
  rw [octets_eq, String.toList_ofList]

/-- The lines of the octets of a text are the octets of its lines. -/
theorem lines_octets (text : String) : lines (octets text) = (linesOf text).map octets := by
  have hpieces := splitOn_octets text.toList
  rw [← octets_eq] at hpieces
  have hended : (((octets text).splitOn 10).dropLast).map withoutReturn =
      ((text.toList.splitOn '\n').dropLast.map withoutReturnChar).map (·.flatMap charOctets) := by
    rw [hpieces, ← List.map_dropLast, List.map_map, List.map_map]
    exact List.map_congr_left fun cs _ => withoutReturn_octets cs
  have hlast : ((octets text).splitOn 10).getLastD [] =
      ((text.toList.splitOn '\n').getLastD []).flatMap charOctets := by
    rw [hpieces]
    exact List.getLastD_map (f := fun cs => cs.flatMap charOctets) (a := [])
  simp only [lines, cut_eq, hended, hlast, linesOf, List.map_map, List.map_append]
  congr 1
  · exact List.map_congr_left fun cs _ => (octets_ofList (withoutReturnChar cs)).symm
  · cases hrest : (text.toList.splitOn '\n').getLastD [] with
    | nil => rfl
    | cons c cs =>
      have hne : (c :: cs).flatMap charOctets ≠ [] := by
        rw [List.flatMap_cons]
        exact List.append_ne_nil_of_left_ne_nil String.utf8EncodeChar_ne_nil _
      rw [if_neg (mt List.isEmpty_iff.1 hne), if_neg (by simp), List.map_singleton,
        Function.comp_apply, octets_ofList]

theorem message?_eq (line : String) :
    (message? line).toList = [trimmed line].filter (· ≠ "") := by
  unfold message? trimmed
  cases htrim : trim line.toList with
  | nil => rfl
  | cons c cs => simp

theorem filterMap_message? (editor : String → String) (ls : List String) :
    ls.filterMap (fun l => message? (editor l)) =
      (ls.map fun l => trimmed (editor l)).filter (· ≠ "") := by
  induction ls with
  | nil => rfl
  | cons l ls ih =>
    have hl := message?_eq (editor l)
    rw [List.map_cons, ← List.singleton_append (l := List.map _ ls), List.filter_append, ← hl, ← ih]
    cases hm : message? (editor l) <;> simp [hm]

theorem messages_map_octets (ls : List String) :
    messages (ls.map octets) = (ls.filterMap fun l => message? (takeBack l), false) := by
  induction ls with
  | nil => rfl
  | cons l ls ih =>
    simp only [List.map_cons, messages, ofOctets?_octets, ih]
    cases hm : message? (takeBack l) <;> simp [hm]

/-- An input that is text is read to its end. -/
theorem turnsOf_octets (text : String) :
    Talk.turnsOf (lines (octets text)) =
      ((linesOf text).filterMap fun l => message? (takeBack l)).map .typed := by
  rw [Talk.turnsOf, lines_octets, messages_map_octets]
  exact List.append_nil _

end Parley.Shell.Input
