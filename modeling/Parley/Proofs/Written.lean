import Parley.Json.Writing
import Parley.Proofs.Record

/-! What is written is a text of the grammar, and strings and keys in it mean what they were written
for. The document of a value is the value with its strings as they stand in the text. -/

namespace Parley.Json

open Parley.Text

theorem hexUnit_control {n : Nat} (h : n < 32) :
    hexUnit '0' '0' (hexDigit (n / 16)) (hexDigit (n % 16)) = some n := by
  have hall : ∀ n < 32, hexUnit '0' '0' (hexDigit (n / 16)) (hexDigit (n % 16)) = some n := by
    decide
  exact hall n h

/-- Every character is one piece of a string, whatever follows it. -/
theorem means_escapedChar (c : Char) {b s : List Char} (h : Means b s) :
    Means (escapedChar c ++ b) (c :: s) := by
  by_cases hq : c = '"'
  · subst hq
    exact .escape rfl h
  by_cases hb : c = '\\'
  · subst hb
    exact .escape rfl h
  by_cases h8 : c = '\x08'
  · subst h8
    exact .escape rfl h
  by_cases hff : c = '\x0c'
  · subst hff
    exact .escape rfl h
  by_cases hn : c = '\n'
  · subst hn
    exact .escape rfl h
  by_cases hr : c = '\r'
  · subst hr
    exact .escape rfl h
  by_cases ht : c = '\t'
  · subst ht
    exact .escape rfl h
  by_cases hlow : c < ' '
  · have hlt : c.toNat < 32 := hlow
    have hunit := Means.unit (hexUnit_control hlt) (by simp [isTrailing]; omega)
      (by simp [isLeading]; omega) h
    rw [Char.ofNat_toNat] at hunit
    simpa [escapedChar, hq, hb, h8, hff, hn, hr, ht, hlow] using hunit
  · simpa [escapedChar, hq, hb, h8, hff, hn, hr, ht, hlow] using Means.plain hq hb hlow h

theorem means_escaped (s : List Char) : Means (s.flatMap escapedChar) s := by
  induction s with
  | nil => exact .nil
  | cons c s ih => exact means_escapedChar c ih

/-- A text as it stands between its quotes. -/
def written (s : String) : List Char := s.toList.flatMap escapedChar

theorem means_written (s : String) : Means (written s) s.toList := means_escaped s.toList

mutual

def Value.doc : Value → Doc
  | .text s => .text (written s)
  | .list vs => .list (itemDocs vs)
  | .object ms => .object (memberDocs ms)

def itemDocs : List Value → List Doc
  | [] => []
  | v :: vs => v.doc :: itemDocs vs

def memberDocs : List (String × Value) → List (List Char × Doc)
  | [] => []
  | (k, v) :: ms => (written k, v.doc) :: memberDocs ms

end

theorem SpellsItems.behind_comma {ds : List Doc} {start rest : List Char} (hne : ds ≠ [])
    (h : SpellsItems true ds start rest) : SpellsItems false ds (',' :: start) rest := by
  cases ds with
  | nil => exact absurd rfl hne
  | cons d ds =>
    obtain ⟨_, tail, rfl, hd, hitems⟩ := h
    exact ⟨_, tail, rfl, hd, hitems⟩

theorem SpellsMembers.behind_comma {ms : List (List Char × Doc)} {start rest : List Char}
    (hne : ms ≠ []) (h : SpellsMembers true ms start rest) :
    SpellsMembers false ms (',' :: start) rest := by
  cases ms with
  | nil => exact absurd rfl hne
  | cons m ms =>
    obtain ⟨_, behind, value, tail, rfl, hmember⟩ := h
    exact ⟨_, behind, value, tail, rfl, hmember⟩

mutual

theorem Value.spells (v : Value) (rest : List Char) : Spells v.doc (v.chars ++ rest) rest := by
  match v with
  | .text s =>
    refine ⟨(means_written s).isBody, ?_⟩
    simp [Value.chars, textChars, written, skipSpace_of_not, isSpace]
  | .list vs =>
    refine ⟨itemChars vs ++ ']' :: rest, ']' :: rest, ?_, spells_items vs _, rfl⟩
    simp [Value.chars, skipSpace_of_not, isSpace]
  | .object ms =>
    refine ⟨memberChars ms ++ '\x7d' :: rest, '\x7d' :: rest, ?_, spells_members ms _, rfl⟩
    simp [Value.chars, skipSpace_of_not, isSpace]

theorem spells_items (vs : List Value) (rest : List Char) :
    SpellsItems true (itemDocs vs) (itemChars vs ++ rest) rest := by
  match vs with
  | [] => rfl
  | [v] => exact ⟨_, rest, rfl, v.spells rest, rfl⟩
  | v :: w :: vs =>
    have hmore := (spells_items (w :: vs) rest).behind_comma (by simp [itemDocs])
    refine ⟨_, _, rfl, ?_, hmore⟩
    simpa [itemChars] using v.spells (',' :: (itemChars (w :: vs) ++ rest))

theorem spells_members (ms : List (String × Value)) (rest : List Char) :
    SpellsMembers true (memberDocs ms) (memberChars ms ++ rest) rest := by
  match ms with
  | [] => rfl
  | [(k, v)] =>
    refine ⟨_, ':' :: (v.chars ++ rest), v.chars ++ rest, rest, rfl, (means_written k).isBody, ?_,
      rfl, v.spells rest, rfl⟩
    simp [memberChars, textChars, written, skipSpace_of_not, isSpace]
  | (k, v) :: m :: ms =>
    have hmore := (spells_members (m :: ms) rest).behind_comma (by simp [memberDocs])
    refine ⟨_, ':' :: (v.chars ++ ',' :: (memberChars (m :: ms) ++ rest)), _, _, rfl,
      (means_written k).isBody, ?_, rfl, v.spells _, hmore⟩
    simp [memberChars, textChars, written, skipSpace_of_not, isSpace]

end

theorem Value.spells_render (v : Value) : Spells v.doc v.render.toList [] := by
  simpa [Value.render] using v.spells []

theorem Value.isWhole_render (v : Value) : v.doc.IsWhole v.render :=
  ⟨[], v.spells_render, rfl⟩

theorem Value.isText_text (s : String) : (Value.text s).doc.IsText s := means_written s

theorem itemDocs_eq (vs : List Value) : itemDocs vs = vs.map Value.doc := by
  induction vs with
  | nil => rfl
  | cons v vs ih => rw [itemDocs, ih, List.map_cons]

theorem keys_memberDocs (ms : List (String × Value)) :
    Keys (memberDocs ms) (ms.map fun m => (m.1, m.2.doc)) := by
  induction ms with
  | nil => exact .nil
  | cons m ms ih => exact .cons ⟨means_written m.1, rfl⟩ ih

/-- A written object gives for each field what stands under its name. -/
theorem Value.fields_object {ms : List (String × Value)} {names : List (List String)}
    {vs : List (Option Doc)}
    (h : List.Forall₂ (fun ns v => named ns (ms.map fun m => (m.1, m.2.doc)) = v.toList) names vs) :
    (Value.object ms).doc.Fields names vs :=
  .object (keys_memberDocs ms) h

theorem isList_values {α : Type} {form : Doc → α → Prop} {value : α → Value} {as : List α}
    (h : ∀ a ∈ as, form (value a).doc a) : (Value.list (as.map value)).doc.IsList form as := by
  refine ⟨_, rfl, ?_⟩
  rw [itemDocs_eq, List.forall₂_map_left_iff, List.forall₂_map_left_iff, List.forall₂_same]
  exact h

end Parley.Json
