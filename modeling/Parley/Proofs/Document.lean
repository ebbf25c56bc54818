import Parley.Json.Number
import Parley.Proofs.Digits

/-! The grammar of JSON texts, stated apart from any reader. A document keeps strings and numbers as
they are written, so that what a value means is a second question. A relation between texts and
documents names what it leaves of the text; blanks may stand in front of every token. -/

namespace Parley.Json

open Parley.Text

inductive Doc where
  | word (w : List Char)
  | number (numeral : List Char)
  | text (body : List Char)
  | list (items : List Doc)
  | object (members : List (List Char × Doc))

def words : List (List Char) :=
  [['n', 'u', 'l', 'l'], ['t', 'r', 'u', 'e'], ['f', 'a', 'l', 's', 'e']]

/-- What may stand between the quotes of a string. -/
inductive IsBody : List Char → Prop
  | nil : IsBody []
  | plain {c : Char} {cs : List Char} (hq : c ≠ '"') (hb : c ≠ '\\') (hc : ¬ c < ' ')
      (h : IsBody cs) : IsBody (c :: cs)
  | escape {c x : Char} {cs : List Char} (hx : simpleEscape c = some x) (h : IsBody cs) :
      IsBody ('\\' :: c :: cs)
  | unit {a b c d : Char} {u : Nat} {cs : List Char} (hu : hexUnit a b c d = some u)
      (h : IsBody cs) : IsBody ('\\' :: 'u' :: a :: b :: c :: d :: cs)

/-- The characters that the body of a string stands for. Half of a surrogate pair stands for none.
-/
inductive Means : List Char → List Char → Prop
  | nil : Means [] []
  | plain {c : Char} {cs s : List Char} (hq : c ≠ '"') (hb : c ≠ '\\') (hc : ¬ c < ' ')
      (h : Means cs s) : Means (c :: cs) (c :: s)
  | escape {c x : Char} {cs s : List Char} (hx : simpleEscape c = some x) (h : Means cs s) :
      Means ('\\' :: c :: cs) (x :: s)
  | unit {a b c d : Char} {u : Nat} {cs s : List Char} (hu : hexUnit a b c d = some u)
      (ht : isTrailing u = false) (hl : isLeading u = false) (h : Means cs s) :
      Means ('\\' :: 'u' :: a :: b :: c :: d :: cs) (Char.ofNat u :: s)
  | pair {a b c d e f g i : Char} {u v : Nat} {cs s : List Char} (hu : hexUnit a b c d = some u)
      (ht : isTrailing u = false) (hl : isLeading u = true) (hv : hexUnit e f g i = some v)
      (hv' : isTrailing v = true) (h : Means cs s) :
      Means ('\\' :: 'u' :: a :: b :: c :: d :: '\\' :: 'u' :: e :: f :: g :: i :: cs)
        (joinPair u v :: s)

theorem Means.isBody {b s : List Char} (h : Means b s) : IsBody b := by
  induction h with
  | nil => exact .nil
  | plain hq hb hc _ ih => exact .plain hq hb hc ih
  | escape hx _ ih => exact .escape hx ih
  | unit hu _ _ _ ih => exact .unit hu ih
  | pair hu _ _ hv _ _ ih => exact .unit hu (.unit hv ih)

def AreDigits (ds : List Char) : Prop := ds ≠ [] ∧ ∀ c ∈ ds, isDigit c = true

/-- A zero stands in front only when it stands alone. -/
def IsInteger (cs : List Char) : Prop := cs = ['0'] ∨ AreDigits cs ∧ cs.head? ≠ some '0'

def IsFraction (cs : List Char) : Prop := cs = [] ∨ ∃ ds, AreDigits ds ∧ cs = '.' :: ds

def IsExponent (cs : List Char) : Prop :=
  cs = [] ∨ ∃ mark sign ds, isExponentMark mark = true ∧ sign ∈ [[], ['+'], ['-']] ∧
    AreDigits ds ∧ cs = mark :: (sign ++ ds)

def IsMagnitude (cs : List Char) : Prop :=
  ∃ integer fraction exponent, IsInteger integer ∧ IsFraction fraction ∧ IsExponent exponent ∧
    cs = integer ++ (fraction ++ exponent)

def IsNumeral (cs : List Char) : Prop := IsMagnitude cs ∨ ∃ m, IsMagnitude m ∧ cs = '-' :: m

/-- All elements of a container but the first stand behind a comma. -/
def Follows (first : Bool) (cs start : List Char) : Prop :=
  if first then start = cs else skipSpace cs = ',' :: start

mutual

def Spells : Doc → List Char → List Char → Prop
  | .word w, cs, rest => w ∈ words ∧ skipSpace cs = w ++ rest
  | .number n, cs, rest => IsNumeral n ∧ skipSpace cs = n ++ rest
  | .text b, cs, rest => IsBody b ∧ skipSpace cs = '"' :: (b ++ '"' :: rest)
  | .list ds, cs, rest =>
    ∃ inner tail, skipSpace cs = '[' :: inner ∧ SpellsItems true ds inner tail ∧
      skipSpace tail = ']' :: rest
  | .object ms, cs, rest =>
    ∃ inner tail, skipSpace cs = '\x7b' :: inner ∧ SpellsMembers true ms inner tail ∧
      skipSpace tail = '\x7d' :: rest

def SpellsItems : Bool → List Doc → List Char → List Char → Prop
  | _, [], cs, rest => cs = rest
  | first, d :: ds, cs, rest =>
    ∃ start tail, Follows first cs start ∧ Spells d start tail ∧ SpellsItems false ds tail rest

def SpellsMembers : Bool → List (List Char × Doc) → List Char → List Char → Prop
  | _, [], cs, rest => cs = rest
  | first, (key, d) :: ms, cs, rest =>
    ∃ start behind value tail, Follows first cs start ∧ IsBody key ∧
      skipSpace start = '"' :: (key ++ '"' :: behind) ∧ skipSpace behind = ':' :: value ∧
      Spells d value tail ∧ SpellsMembers false ms tail rest

end

/-- A value ends before a blank, before what goes on behind it, or with the text. -/
def Delimited (rest : List Char) : Prop :=
  ∀ c ∈ rest.head?, isSpace c = true ∨ c ∈ [',', ']', '\x7d']

theorem skipSpace_of_not {c : Char} (h : isSpace c = false) (cs : List Char) :
    skipSpace (c :: cs) = c :: cs := by
  simp [skipSpace, h]

theorem skipSpace_cons_not {cs rest : List Char} {c : Char} (h : skipSpace cs = c :: rest) :
    isSpace c = false := by
  have := List.head?_dropWhile_not isSpace cs
  rw [← skipSpace, h] at this
  simpa using this

theorem skipSpace_skipSpace (cs : List Char) : skipSpace (skipSpace cs) = skipSpace cs := by
  cases h : skipSpace cs with
  | nil => rfl
  | cons c rest => exact skipSpace_of_not (skipSpace_cons_not h) rest

theorem length_skipSpace_le (cs : List Char) : (skipSpace cs).length ≤ cs.length :=
  (List.dropWhile_suffix _).length_le

theorem spells_skipSpace {d : Doc} {cs rest : List Char} :
    Spells d (skipSpace cs) rest ↔ Spells d cs rest := by
  cases d <;> simp only [Spells, skipSpace_skipSpace]

theorem length_of_skipSpace {cs rest : List Char} {c : Char} (h : skipSpace cs = c :: rest) :
    rest.length < cs.length := by
  have := length_skipSpace_le cs
  rw [h, List.length_cons] at this
  omega

theorem Follows.length_le {first : Bool} {cs start : List Char} (h : Follows first cs start) :
    start.length ≤ cs.length := by
  cases first with
  | true => exact Nat.le_of_eq (congrArg List.length h)
  | false => exact Nat.le_of_lt (length_of_skipSpace h)

theorem IsMagnitude.ne_nil {m : List Char} (h : IsMagnitude m) : m ≠ [] := by
  obtain ⟨i, f, e, rfl | ⟨⟨hne, -⟩, -⟩, -, -, rfl⟩ := h
  · exact List.cons_ne_nil _ _
  · exact List.append_ne_nil_of_left_ne_nil hne _

theorem IsNumeral.ne_nil {n : List Char} (h : IsNumeral n) : n ≠ [] := by
  rcases h with h | ⟨m, -, rfl⟩
  · exact h.ne_nil
  · exact List.cons_ne_nil _ _

mutual

/-- Every value takes some of the text. -/
theorem Spells.length_lt {d : Doc} {cs rest : List Char} (h : Spells d cs rest) :
    rest.length < cs.length := by
  have hlen := length_skipSpace_le cs
  match d, h with
  | .word w, h =>
    obtain ⟨hw, hs⟩ := h
    simp only [words, List.mem_cons, List.not_mem_nil, or_false] at hw
    rw [hs] at hlen
    rcases hw with rfl | rfl | rfl <;> simp at hlen <;> omega
  | .number n, h =>
    obtain ⟨hn, hs⟩ := h
    have := List.length_pos_iff.2 hn.ne_nil
    rw [hs, List.length_append] at hlen
    omega
  | .text b, h =>
    rw [h.2] at hlen
    simp at hlen
    omega
  | .list ds, h =>
    obtain ⟨inner, tail, hopen, hitems, hclose⟩ := h
    have := hitems.length_le
    have := length_of_skipSpace hopen
    have := length_of_skipSpace hclose
    omega
  | .object ms, h =>
    obtain ⟨inner, tail, hopen, hmembers, hclose⟩ := h
    have := hmembers.length_le
    have := length_of_skipSpace hopen
    have := length_of_skipSpace hclose
    omega

theorem SpellsItems.length_le {first : Bool} {ds : List Doc} {cs rest : List Char}
    (h : SpellsItems first ds cs rest) : rest.length ≤ cs.length := by
  match ds, h with
  | [], h => exact Nat.le_of_eq (congrArg List.length h.symm)
  | d :: ds, h =>
    obtain ⟨start, tail, hstart, hd, hitems⟩ := h
    have := hstart.length_le
    have := hd.length_lt
    have := hitems.length_le
    omega

theorem SpellsMembers.length_le {first : Bool} {ms : List (List Char × Doc)} {cs rest : List Char}
    (h : SpellsMembers first ms cs rest) : rest.length ≤ cs.length := by
  match ms, h with
  | [], h => exact Nat.le_of_eq (congrArg List.length h.symm)
  | (key, d) :: ms, h =>
    obtain ⟨start, behind, value, tail, hstart, -, hkey, hcolon, hd, hmembers⟩ := h
    have := hstart.length_le
    have := length_of_skipSpace hkey
    have := length_of_skipSpace hcolon
    have := hd.length_lt
    have := hmembers.length_le
    simp at *
    omega

end

theorem delimited_of_skipSpace {cs rest : List Char} {c : Char} (hc : c ∈ [',', ']', '\x7d'])
    (h : skipSpace cs = c :: rest) : Delimited cs := by
  intro d hd
  cases cs with
  | nil => simp at hd
  | cons e cs =>
    obtain rfl : e = d := by simpa using hd
    by_cases hs : isSpace e = true
    · exact Or.inl hs
    · rw [skipSpace_of_not (Bool.not_eq_true _ ▸ hs)] at h
      exact Or.inr ((List.cons.inj h).1 ▸ hc)

end Parley.Json
