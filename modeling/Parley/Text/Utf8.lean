/-! Texts as octets: how many octets a text takes, which they are, and which octets are a text. -/

namespace Parley.Text

def width (cs : List Char) : Nat := cs.foldr (fun c n => c.utf8Size + n) 0

def octets (s : String) : List UInt8 := s.toUTF8.data.toList

def ofOctets? (bs : List UInt8) : Option String := String.fromUTF8? ⟨bs.toArray⟩

/-- The octets that may follow the first one of a character, or none where no character starts so.
-/
def tailRanges (first : Nat) : Option (List (Nat × Nat)) :=
  let any := (0x80, 0xBF)
  if first < 0x80 then some []
  else if 0xC2 ≤ first ∧ first ≤ 0xDF then some [any]
  else if first = 0xE0 then some [(0xA0, 0xBF), any]
  else if first = 0xED then some [(0x80, 0x9F), any]
  else if 0xE1 ≤ first ∧ first ≤ 0xEF then some [any, any]
  else if first = 0xF0 then some [(0x90, 0xBF), any, any]
  else if first = 0xF4 then some [(0x80, 0x8F), any, any]
  else if 0xF1 ≤ first ∧ first ≤ 0xF3 then some [any, any, any]
  else none

/-- Where octets stop being text: behind so many of them, with so many that are wrong, or with a
character that is cut off. -/
inductive Break where
  | wrong (start length : Nat)
  | cut (start : Nat)
deriving DecidableEq, Repr

def breakIn (start seen : Nat) : List (Nat × Nat) → List UInt8 → Option Break
  | [], _ => none
  | _ :: _, [] => some (.cut start)
  | r :: rs, b :: bs =>
    if r.1 ≤ b.toNat ∧ b.toNat ≤ r.2 then breakIn start (seen + 1) rs bs
    else some (.wrong start seen)

/-- The first place where the octets are no text; each character takes one octet at least. -/
def break? (start : Nat) : Nat → List UInt8 → Option Break
  | 0, _ => none
  | _ + 1, [] => none
  | n + 1, b :: bs =>
    match tailRanges b.toNat with
    | none => some (.wrong start 1)
    | some rs =>
      match breakIn start 1 rs bs with
      | some e => some e
      | none => break? (start + 1 + rs.length) n (bs.drop rs.length)

def firstBreak? (bs : List UInt8) : Option Break := break? 0 bs.length bs

def mendBreaks (standIn : List Char) : Nat → List UInt8 → List Char
  | 0, _ => []
  | n + 1, bs =>
    let kept (bs : List UInt8) : List Char := ((ofOctets? bs).getD "").toList
    match firstBreak? bs with
    | none => kept bs
    | some (.cut start) => kept (bs.take start) ++ standIn
    | some (.wrong start length) =>
      kept (bs.take start) ++ standIn ++ mendBreaks standIn n (bs.drop (start + length))

def mended (standIn : List Char) (bs : List UInt8) : String :=
  match ofOctets? bs with
  | some s => s
  | none => String.ofList (mendBreaks standIn bs.length bs)

@[simp] theorem width_nil : width [] = 0 := rfl

@[simp] theorem width_cons (c : Char) (cs : List Char) :
    width (c :: cs) = c.utf8Size + width cs := by
  simp [width]

@[simp] theorem width_append (xs ys : List Char) : width (xs ++ ys) = width xs + width ys := by
  induction xs with
  | nil => simp
  | cons c xs ih => simp [ih, Nat.add_assoc]

@[simp] theorem ofOctets?_octets (s : String) : ofOctets? (octets s) = some s := by
  unfold ofOctets? octets String.fromUTF8?
  split
  · simp [String.fromUTF8]
  · rename_i h; exact absurd (by simpa using s.isValidUTF8) h

@[simp] theorem mended_octets (standIn : List Char) (s : String) :
    mended standIn (octets s) = s := by
  simp [mended]

end Parley.Text
