import Mathlib.Data.List.Forall2
import Mathlib.Data.List.Pairwise
import Mathlib.Tactic.MkIffOfInductiveProp
import Parley.Message.Reading
import Parley.Proofs.Typed

/-! The fields of a record and the members of an object. A field is a lens on the draft together
with the form of its values, and a table is a schema whose fields are such lenses, apart from each
other. Members may come in any order, so the invariant speaks of each field on its own: what it
still takes from the members that are left. -/

namespace Parley.Json

def Keys (ms : List (List Char × Doc)) (keyed : List (String × Doc)) : Prop :=
  List.Forall₂ (fun m k => Means m.1 k.1.toList ∧ m.2 = k.2) ms keyed

/-- The values of the members that go by one of some names. -/
def named (names : List String) (keyed : List (String × Doc)) : List Doc :=
  (keyed.filter (·.1 ∈ names)).map Prod.snd

/-- What the elements of a list give for some fields. -/
def byPosition (ds : List Doc) (fields : Nat) : List (Option Doc) :=
  ds.map some ++ List.replicate (fields - ds.length) none

/-- What a document gives for each field of a record, the names of which are known. An object has
at most one member for a field; a list leaves out fields at its end only. -/
inductive Doc.Fields (names : List (List String)) : Doc → List (Option Doc) → Prop
  | object {ms : List (List Char × Doc)} {keyed : List (String × Doc)} {vs : List (Option Doc)}
      (hk : Keys ms keyed) (h : List.Forall₂ (fun ns v => named ns keyed = v.toList) names vs) :
      Doc.Fields names (.object ms) vs
  | list {ds : List Doc} (h : ds.length ≤ names.length) :
      Doc.Fields names (.list ds) (byPosition ds names.length)

@[simp] theorem byPosition_cons (d : Doc) (ds : List Doc) (fields : Nat) :
    byPosition (d :: ds) (fields + 1) = some d :: byPosition ds fields := by
  simp [byPosition]

theorem named_cons_of_mem {names : List String} {key : String} (h : key ∈ names) (d : Doc)
    (keyed : List (String × Doc)) : named names ((key, d) :: keyed) = d :: named names keyed := by
  simp [named, h]

theorem named_cons_of_not_mem {names : List String} {key : String} (h : key ∉ names) (d : Doc)
    (keyed : List (String × Doc)) : named names ((key, d) :: keyed) = named names keyed := by
  simp [named, h]

/-- A field of a record: where its value stands in a draft, and how it is read. -/
structure Column (draft : Type) where
  name : String
  otherName : Option String := none
  required : Bool := true
  Value : Type
  get : draft → Option Value
  set : draft → Value → draft
  reader : Reader Value
  form : Doc → Value → Prop
  reads : Reads reader form
  get_set : ∀ d a, get (set d a) = some a

variable {draft α : Type}

def Column.of {reader : Reader α} {form : Doc → α → Prop} (name : String)
    (get : draft → Option α) (set : draft → α → draft) (reads : Reads reader form)
    (get_set : ∀ d a, get (set d a) = some a) : Column draft where
  name := name
  Value := α
  get := get
  set := set
  reader := reader
  form := form
  reads := reads
  get_set := get_set

def Column.slot (c : Column draft) : Slot draft :=
  { field c.name c.get c.set c.reader with otherName := c.otherName, required := c.required }

def Column.names (c : Column draft) : List String := c.name :: c.otherName.toList

/-- No key means both fields, and to fill one leaves the other as it is. -/
@[mk_iff]
structure Column.Apart (c e : Column draft) : Prop where
  names : ∀ key ∈ c.names, key ∉ e.names
  left : ∀ d a, c.get (e.set d a) = c.get d
  right : ∀ d a, e.get (c.set d a) = e.get d

theorem Column.Apart.symm {c e : Column draft} (h : c.Apart e) : e.Apart c :=
  ⟨fun key he hc => h.names key hc he, h.right, h.left⟩

/-- A field of a finished draft holds what a document gives for it. -/
def Column.Given (c : Column draft) (d : draft) : Option Doc → Prop
  | none => c.get d = none
  | some doc => ∃ a, c.form doc a ∧ c.get d = some a

structure Table (schema : Schema draft α) (columns : List (Column draft)) : Prop where
  slots : schema.slots = columns.map Column.slot
  apart : columns.Pairwise Column.Apart
  blank : ∀ c ∈ columns, c.get schema.blank = none
  ext : ∀ d e, (∀ c ∈ columns, c.get d = c.get e) → d = e
  required : ∀ c ∈ columns, c.required = true → ∀ d a, schema.finish d = .ok a → c.get d ≠ none

theorem Column.slot_answersTo (c : Column draft) (key : String) :
    c.slot.answersTo key = true ↔ key ∈ c.names := by
  change (decide (key = c.name) || decide (c.otherName = some key)) = true ↔ _
  simp [names, Option.mem_toList]

theorem Column.slot_filled (c : Column draft) (d : draft) : c.slot.filled d = (c.get d).isSome :=
  rfl

theorem Column.slot_read_eq_ok (c : Column draft) {d e : draft} {cs rest : List Char} :
    c.slot.read d cs = .ok (e, rest) ↔ ∃ a, c.reader cs = .ok (a, rest) ∧ e = c.set d a := by
  unfold slot field
  simp only
  split
  · rename_i a rest' h
    constructor
    · rintro heq
      cases heq
      exact ⟨a, h, rfl⟩
    · rintro ⟨b, hb, rfl⟩
      cases h.symm.trans hb
      rfl
  · rename_i h
    simp [h]

variable {schema : Schema draft α} {columns : List (Column draft)}

theorem Table.apart_of_ne (h : Table schema columns) {c e : Column draft} (hc : c ∈ columns)
    (he : e ∈ columns) (hne : c ≠ e) : c.Apart e :=
  have : Std.Symm (@Column.Apart draft) := ⟨fun _ _ => Column.Apart.symm⟩
  h.apart.forall hc he hne

theorem nextKey_end {cs more : List Char} (h : skipSpace cs = '\x7d' :: more) (first : Bool) :
    nextKey first cs = .ok (false, '\x7d' :: more) := by
  simp [nextKey, h]

theorem nextKey_more {first : Bool} {cs start more : List Char} (hstart : Follows first cs start)
    (hs : skipSpace start = '"' :: more) : nextKey first cs = .ok (true, more) := by
  cases first with
  | true =>
    obtain rfl : start = cs := hstart
    simp [nextKey, hs]
  | false =>
    have hcomma : skipSpace cs = ',' :: start := hstart
    simp [nextKey, hcomma, hs]

theorem nextKey_sound {first : Bool} {cs rest : List Char} {more : Bool}
    (h : nextKey first cs = .ok (more, rest)) :
    more = false ∧ (∃ after, skipSpace cs = '\x7d' :: after ∧ rest = '\x7d' :: after) ∨
      more = true ∧ ∃ start, Follows first cs start ∧ skipSpace start = '"' :: rest := by
  cases hs : skipSpace cs with
  | nil => simp [nextKey, hs] at h
  | cons c after =>
    by_cases hc : c = '\x7d'
    · subst hc
      simp only [nextKey_end hs, Except.ok.injEq, Prod.mk.injEq] at h
      exact Or.inl ⟨h.1.symm, after, rfl, h.2.symm⟩
    cases first with
    | true =>
      by_cases hq : c = '"'
      · subst hq
        have hmore : nextKey true cs = .ok (true, after) := nextKey_more rfl hs
        simp only [hmore, Except.ok.injEq, Prod.mk.injEq] at h
        exact Or.inr ⟨h.1.symm, cs, rfl, by rw [hs, h.2]⟩
      · simp [nextKey, hs, hc, hq] at h
    | false =>
      by_cases hcomma : c = ','
      · subst hcomma
        cases hd : skipSpace after with
        | nil => simp [nextKey, hs, hd] at h
        | cons d last =>
          by_cases hq : d = '"'
          · subst hq
            have hmore : nextKey false cs = .ok (true, last) := nextKey_more hs hd
            simp only [hmore, Except.ok.injEq, Prod.mk.injEq] at h
            exact Or.inr ⟨h.1.symm, after, hs, by rw [hd, h.2]⟩
          · by_cases hclose : d = '\x7d' <;> simp [nextKey, hs, hd, hq, hclose] at h
      · simp [nextKey, hs, hc, hcomma] at h

theorem colon_iff {cs rest : List Char} :
    colon cs = .ok rest ↔ skipSpace cs = ':' :: rest := by
  constructor
  · intro h
    unfold colon at h
    split at h
    · simp at h
    · rename_i hs
      cases h
      exact hs
    · simp at h
  · intro h
    simp [colon, h]

/-- What a field still takes from the members of an object: nothing once it is filled. -/
def Column.Takes (c : Column draft) (d e : draft) (docs : List Doc) : Prop :=
  match c.get d with
  | some a => docs = [] ∧ c.get e = some a
  | none => ∃ v : Option Doc, docs = v.toList ∧ c.Given e v

theorem Column.takes_filled {c : Column draft} {d e : draft} {a : c.Value} (h : c.get d = some a)
    (docs : List Doc) : c.Takes d e docs ↔ docs = [] ∧ c.get e = some a := by
  simp [Takes, h]

theorem Column.takes_empty {c : Column draft} {d e : draft} (h : c.get d = none)
    (docs : List Doc) : c.Takes d e docs ↔ ∃ v : Option Doc, docs = v.toList ∧ c.Given e v := by
  simp [Takes, h]

theorem Column.takes_nil {c : Column draft} {d e : draft} : c.Takes d e [] ↔ c.get e = c.get d := by
  cases h : c.get d with
  | some a => simp [takes_filled h]
  | none =>
    rw [takes_empty h]
    constructor
    · rintro ⟨v, hv, hg⟩
      cases v with
      | none => exact hg
      | some doc => simp at hv
    · exact fun hg => ⟨none, rfl, hg⟩

/-- A field takes a document while it is empty, and nothing afterwards. -/
theorem Column.takes_cons {c : Column draft} {d e : draft} {doc : Doc} {docs : List Doc} :
    c.Takes d e (doc :: docs) ↔
      c.get d = none ∧ ∃ a, c.form doc a ∧ c.Takes (c.set d a) e docs := by
  cases h : c.get d with
  | some a => simp [takes_filled h]
  | none =>
    rw [takes_empty h]
    constructor
    · rintro ⟨v, hv, hg⟩
      cases v with
      | none => simp at hv
      | some doc' =>
        obtain ⟨rfl, rfl⟩ : doc = doc' ∧ docs = [] := by simpa using hv
        obtain ⟨a, ha, hget⟩ := hg
        exact ⟨rfl, a, ha, (takes_filled (c.get_set d a) _).2 ⟨rfl, hget⟩⟩
    · rintro ⟨-, a, ha, ht⟩
      obtain ⟨rfl, hget⟩ := (takes_filled (c.get_set d a) _).1 ht
      exact ⟨some doc, rfl, a, ha, hget⟩

theorem Column.takes_congr {c : Column draft} {d d' e : draft} (h : c.get d = c.get d')
    (docs : List Doc) : c.Takes d e docs ↔ c.Takes d' e docs := by
  simp only [Takes, h]

theorem Table.find_none {key : String}
    (hf : (columns.map Column.slot).find? (·.answersTo key) = none) {c : Column draft}
    (hc : c ∈ columns) : key ∉ c.names := by
  rw [List.find?_eq_none] at hf
  rw [← c.slot_answersTo]
  exact hf _ (List.mem_map_of_mem hc)

theorem Table.find_some {key : String} {slot : Slot draft}
    (hf : (columns.map Column.slot).find? (·.answersTo key) = some slot) :
    ∃ c ∈ columns, slot = c.slot ∧ key ∈ c.names := by
  obtain ⟨c, hc, rfl⟩ := List.mem_map.1 (List.mem_of_find?_eq_some hf)
  have hans := List.find?_some hf
  exact ⟨c, hc, rfl, (c.slot_answersTo key).1 hans⟩

/-- A member for one field is for no other. -/
theorem Table.takes_known (h : Table schema columns) {c : Column draft} (hc : c ∈ columns)
    {key : String} (hkey : key ∈ c.names) {doc : Doc} {keyed : List (String × Doc)} {d e : draft} :
    (∀ c' ∈ columns, c'.Takes d e (named c'.names ((key, doc) :: keyed))) ↔
      c.get d = none ∧ ∃ a, c.form doc a ∧
        ∀ c' ∈ columns, c'.Takes (c.set d a) e (named c'.names keyed) := by
  have hother : ∀ c' ∈ columns, c' ≠ c → ∀ a,
      (c'.Takes d e (named c'.names ((key, doc) :: keyed)) ↔
        c'.Takes (c.set d a) e (named c'.names keyed)) := by
    -- Another field neither answers to the key nor is changed by the filling of this one.
    intro c' hc' hne a
    have hapart := h.apart_of_ne hc hc' hne.symm
    rw [named_cons_of_not_mem (hapart.names key hkey)]
    exact Column.takes_congr (hapart.right d a).symm _
  constructor
  · intro ht
    have hown := ht c hc
    rw [named_cons_of_mem hkey, Column.takes_cons] at hown
    obtain ⟨hempty, a, ha, hown⟩ := hown
    refine ⟨hempty, a, ha, fun c' hc' => ?_⟩
    by_cases heq : c' = c
    · subst heq
      exact hown
    · exact (hother c' hc' heq a).1 (ht c' hc')
  · rintro ⟨hempty, a, ha, ht⟩ c' hc'
    by_cases heq : c' = c
    · subst heq
      rw [named_cons_of_mem hkey, Column.takes_cons]
      exact ⟨hempty, a, ha, ht c' hc'⟩
    · exact (hother c' hc' heq a).2 (ht c' hc')

/-- What one member does to a draft: a key that no field answers to has its value skipped. -/
def Enters (slots : List (Slot draft)) (key : String) (d : draft) (value : List Char) (d' : draft)
    (next : List Char) : Prop :=
  match slots.find? (·.answersTo key) with
  | none => d' = d ∧ skipValue value = .ok next
  | some slot => slot.filled d = false ∧ slot.read d value = .ok (d', next)

theorem members_round_sound {slots : List (Slot draft)} {rounds : Nat} {first : Bool}
    {d e : draft} {cs rest : List Char}
    (hm : members slots (rounds + 1) first d cs = .ok (e, rest)) :
    (e = d ∧ ∃ after, skipSpace cs = '\x7d' :: after ∧ rest = '\x7d' :: after) ∨
      ∃ start b key behind value d' next, Follows first cs start ∧ Means b key.toList ∧
        skipSpace start = '"' :: (b ++ '"' :: behind) ∧ skipSpace behind = ':' :: value ∧
        Enters slots key d value d' next ∧ members slots rounds false d' next = .ok (e, rest) := by
  unfold members at hm
  split at hm
  · simp at hm
  · rename_i end' hn
    cases hm
    obtain ⟨-, hend⟩ | ⟨hfalse, -⟩ := nextKey_sound hn
    · exact Or.inl ⟨rfl, hend⟩
    · exact Bool.noConfusion hfalse
  · rename_i opened hn
    obtain ⟨hfalse, -⟩ | ⟨-, start, hstart, hs⟩ := nextKey_sound hn
    · exact Bool.noConfusion hfalse
    split at hm
    · simp at hm
    · rename_i key behind htail
      obtain ⟨b, hb, rfl⟩ := means_of_stringTail htail
      right
      split at hm
      · rename_i hf
        split at hm
        · simp at hm
        · rename_i next hskip
          obtain ⟨value, hcolon, hskip⟩ := bind_eq_ok.1 hskip
          exact ⟨start, b, key, behind, value, d, next, hstart, hb, hs, colon_iff.1 hcolon,
            by simp [Enters, hf, hskip], hm⟩
      · rename_i slot hf
        split at hm
        · simp at hm
        · rename_i hempty
          split at hm
          · simp at hm
          · rename_i d' next hread
            obtain ⟨value, hcolon, hread⟩ := bind_eq_ok.1 hread
            exact ⟨start, b, key, behind, value, d', next, hstart, hb, hs, colon_iff.1 hcolon,
              by simp [Enters, hf, hread, hempty], hm⟩

theorem members_round_complete {slots : List (Slot draft)} {first : Bool} {d d' : draft}
    {cs start b behind value next : List Char} {key : String} (hstart : Follows first cs start)
    (hb : Means b key.toList) (hs : skipSpace start = '"' :: (b ++ '"' :: behind))
    (hcolon : skipSpace behind = ':' :: value) (he : Enters slots key d value d' next)
    (rounds : Nat) :
    members slots (rounds + 1) first d cs = members slots rounds false d' next := by
  simp only [members, nextKey_more hstart hs, stringTail_of_means hb]
  unfold Enters at he
  cases hf : slots.find? (·.answersTo key) with
  | none =>
    obtain ⟨rfl, hskip⟩ := hf ▸ he
    simp [colon_iff.2 hcolon, hskip, bind, Except.bind]
  | some slot =>
    obtain ⟨hempty, hread⟩ := hf ▸ he
    simp [hempty, colon_iff.2 hcolon, hread, bind, Except.bind]

theorem Table.enters_sound (h : Table schema columns) {key : String} {d d' : draft}
    {value next : List Char} (he : Enters schema.slots key d value d' next) :
    ∃ doc, Spells doc value next ∧ ∀ (e : draft) (keyed : List (String × Doc)),
      (∀ c ∈ columns, c.Takes d' e (named c.names keyed)) →
      ∀ c ∈ columns, c.Takes d e (named c.names ((key, doc) :: keyed)) := by
  rw [h.slots] at he
  unfold Enters at he
  split at he
  · rename_i hf
    obtain ⟨rfl, hskip⟩ := he
    obtain ⟨doc, hd⟩ := skipValue_sound hskip
    refine ⟨doc, hd, fun e keyed ht c hc => ?_⟩
    rw [named_cons_of_not_mem (Table.find_none hf hc)]
    exact ht c hc
  · rename_i slot hf
    obtain ⟨c, hc, rfl, hkey⟩ := Table.find_some hf
    obtain ⟨a, hread, rfl⟩ := c.slot_read_eq_ok.1 he.2
    obtain ⟨doc, hd, ha⟩ := c.reads.sound hread
    have hempty : c.get d = none := by simpa [Column.slot_filled] using he.1
    exact ⟨doc, hd, fun e keyed ht => (h.takes_known hc hkey).2 ⟨hempty, a, ha, ht⟩⟩

theorem Table.enters_complete (h : Table schema columns) {key : String} {d e : draft} {doc : Doc}
    {value next : List Char} {keyed : List (String × Doc)} (hd : Spells doc value next)
    (hnext : Delimited next)
    (ht : ∀ c ∈ columns, c.Takes d e (named c.names ((key, doc) :: keyed))) :
    ∃ d', Enters schema.slots key d value d' next ∧
      ∀ c ∈ columns, c.Takes d' e (named c.names keyed) := by
  rw [h.slots]
  cases hf : (columns.map Column.slot).find? (·.answersTo key) with
  | none =>
    refine ⟨d, by simp [Enters, hf, skipValue_complete hd hnext], fun c hc => ?_⟩
    rw [← named_cons_of_not_mem (Table.find_none hf hc) doc]
    exact ht c hc
  | some slot =>
    obtain ⟨c, hc, rfl, hkey⟩ := Table.find_some hf
    obtain ⟨hempty, a, ha, hrest⟩ := (h.takes_known hc hkey).1 ht
    have hread : c.slot.read d value = .ok (c.set d a, next) :=
      c.slot_read_eq_ok.2 ⟨a, c.reads.complete hd ha, rfl⟩
    exact ⟨c.set d a, by simp [Enters, hf, Column.slot_filled, hempty, hread], hrest⟩

theorem Table.members_sound (h : Table schema columns) {rounds : Nat} {first : Bool}
    {d e : draft} {cs rest : List Char}
    (hm : members schema.slots rounds first d cs = .ok (e, rest)) :
    ∃ ms keyed tail after, SpellsMembers first ms cs tail ∧ Keys ms keyed ∧
      (∀ c ∈ columns, c.Takes d e (named c.names keyed)) ∧
      skipSpace tail = '\x7d' :: after ∧ rest = '\x7d' :: after := by
  induction rounds generalizing first d cs with
  | zero => simp [members] at hm
  | succ rounds ih =>
    rcases members_round_sound hm with ⟨rfl, after, hs, rfl⟩ |
      ⟨start, b, key, behind, value, d', next, hstart, hb, hs, hcolon, he, hm⟩
    · exact ⟨[], [], cs, after, rfl, .nil, fun c _ => Column.takes_nil.2 rfl, hs, rfl⟩
    · obtain ⟨doc, hd, hback⟩ := h.enters_sound he
      obtain ⟨ms, keyed, tail, after, hmembers, hkeys, ht, hclose, rfl⟩ := ih hm
      exact ⟨(b, doc) :: ms, (key, doc) :: keyed, tail, after,
        ⟨start, behind, value, next, hstart, hb.isBody, hs, hcolon, hd, hmembers⟩,
        .cons ⟨hb, rfl⟩ hkeys, hback e keyed ht, hclose, rfl⟩

theorem Table.members_complete (h : Table schema columns) {rounds : Nat} {first : Bool}
    {d e : draft} {cs tail after : List Char} {ms : List (List Char × Doc)}
    {keyed : List (String × Doc)} (hlen : cs.length < rounds)
    (hmembers : SpellsMembers first ms cs tail) (hkeys : Keys ms keyed)
    (ht : ∀ c ∈ columns, c.Takes d e (named c.names keyed))
    (hclose : skipSpace tail = '\x7d' :: after) :
    members schema.slots rounds first d cs = .ok (e, '\x7d' :: after) := by
  -- Every member takes some of the text, so the rounds do not run out before the members do.
  induction rounds generalizing first d cs ms keyed with
  | zero => omega
  | succ rounds ih =>
    cases hkeys with
    | nil =>
      obtain rfl : cs = tail := hmembers
      obtain rfl : e = d := h.ext _ _ fun c hc => Column.takes_nil.1 (ht c hc)
      simp [members, nextKey_end hclose]
    | @cons m k ms keyed hk hkeys =>
      obtain ⟨b, doc⟩ := m
      obtain ⟨key, doc'⟩ := k
      obtain ⟨hb, rfl⟩ : Means b key.toList ∧ doc = doc' := hk
      obtain ⟨start, behind, value, next, hstart, -, hs, hcolon, hd, hmembers⟩ := hmembers
      obtain ⟨d', he, hrest⟩ := h.enters_complete hd (hmembers.delimited hclose) ht
      have := hstart.length_le
      have := length_of_skipSpace hs
      have := length_of_skipSpace hcolon
      have := hd.length_lt
      simp only [List.length_append, List.length_cons] at *
      rw [members_round_complete hstart hb hs hcolon he]
      exact ih (by omega) hmembers hkeys hrest

end Parley.Json
