import Parley.Proofs.HostColon
import Parley.Proofs.Place

/-! The authority of a URL and what stands behind it, read from one text. The authority ends at the
first slash, question mark or hash, and nothing before the last at sign or behind the last colon can
be part of its host. So a port at the end of the authority is the port that is read, and what the
authority does not hold is path, query or fragment. -/

namespace Parley.Url

open Parley.Text

theorem dropWhile_ne_append {mark : Char} {front : List Char} (h : mark ∉ front)
    (back : List Char) : (front ++ mark :: back).dropWhile (· ≠ mark) = mark :: back := by
  rw [List.dropWhile_append_of_pos, List.dropWhile_cons_of_neg (by simp)]
  intro c hc
  exact decide_eq_true fun he => h (he ▸ hc)

def authorityPart (cs : List Char) : List Char := cs.takeWhile (!endsAuthority true ·)

def behindAuthority (cs : List Char) : List Char := cs.dropWhile (!endsAuthority true ·)

/-- A URL with an authority that was read, and a text behind it that is still to be cut. -/
def joined (scheme : String) (a : Authority) (behind : List Char) : Url where
  scheme := scheme
  username := a.user.username
  password := a.user.password
  host := some a.host
  port := a.port
  path := readPath scheme (cutTail behind).1
  query := escaped inSpecialQuery (cutTail behind).2.1
  fragment := escaped inFragment (cutTail behind).2.2

theorem cutTail_cons {c : Char} (hf : c ≠ '#') (hq : c ≠ '?') (cs : List Char) :
    cutTail (c :: cs) = (c :: (cutTail cs).1, (cutTail cs).2.1, (cutTail cs).2.2) := by
  simp [cutTail, hf, hq]

theorem ne_of_isSlash {c : Char} (h : isSlash true c = true) : c ≠ '#' ∧ c ≠ '?' := by
  constructor <;> rintro rfl <;> exact absurd h (by decide)

theorem endsAuthority_eq_false {c : Char} :
    endsAuthority true c = false ↔ c ∉ ['/', '\\', '?', '#'] := by
  simp [endsAuthority, isSlash, and_assoc]

theorem ne_of_goes_on {c : Char} (h : endsAuthority true c = false) : c ≠ '#' ∧ c ≠ '?' := by
  constructor <;> rintro rfl <;> exact absurd h (by decide)

theorem cutTail_dropSlashes (cs : List Char) :
    ((cutTail cs).1.dropWhile (isSlash true), (cutTail cs).2.1, (cutTail cs).2.2) =
      cutTail (cs.dropWhile (isSlash true)) := by
  induction cs with
  | nil => rfl
  | cons c cs ih =>
    cases hc : isSlash true c with
    | true =>
      obtain ⟨hf, hq⟩ := ne_of_isSlash hc
      rw [cutTail_cons hf hq, List.dropWhile_cons_of_pos hc, List.dropWhile_cons_of_pos hc, ← ih]
    | false =>
      have hstart : (cutTail (c :: cs)).1.dropWhile (isSlash true) = (cutTail (c :: cs)).1 := by
        by_cases hmark : c = '#' ∨ c = '?'
        · rcases hmark with rfl | rfl <;> simp [cutTail]
        · obtain ⟨hf, hq⟩ := not_or.1 hmark
          rw [cutTail_cons hf hq]
          exact List.dropWhile_cons_of_neg (by simp [hc])
      rw [hstart, List.dropWhile_cons_of_neg (by simp [hc])]

/-- The marks of query and fragment end an authority, so cutting them off changes nothing in it. -/
theorem cutTail_authority (cs : List Char) :
    (cutTail cs).1.takeWhile (!endsAuthority true ·) = authorityPart cs ∧
      (cutTail cs).1.drop (authorityPart cs).length = (cutTail (behindAuthority cs)).1 ∧
      (cutTail cs).2 = (cutTail (behindAuthority cs)).2 := by
  induction cs with
  | nil => exact ⟨rfl, rfl, rfl⟩
  | cons c cs ih =>
    obtain ⟨hauthority, hfront, htail⟩ := ih
    unfold authorityPart behindAuthority
    cases hc : endsAuthority true c with
    | false =>
      obtain ⟨hf, hq⟩ := ne_of_goes_on hc
      rw [List.takeWhile_cons_of_pos (by simp [hc]), List.dropWhile_cons_of_pos (by simp [hc]),
        cutTail_cons hf hq, List.takeWhile_cons_of_pos (by simp [hc])]
      exact ⟨congrArg (c :: ·) hauthority, hfront, htail⟩
    | true =>
      rw [List.takeWhile_cons_of_neg (by simp [hc]), List.dropWhile_cons_of_neg (by simp [hc])]
      refine ⟨?_, rfl, rfl⟩
      by_cases hmark : c = '#' ∨ c = '?'
      · rcases hmark with rfl | rfl <;> simp [cutTail]
      · obtain ⟨hf, hq⟩ := not_or.1 hmark
        rw [cutTail_cons hf hq]
        exact List.takeWhile_cons_of_neg (by simp [hc])

theorem cutTail_nonempty {cs : List Char} (h : cs ≠ []) :
    ((cutTail cs).1.isEmpty && (cutTail cs).2.1.isNone && (cutTail cs).2.2.isNone) = false := by
  obtain ⟨c, cs, rfl⟩ := List.exists_cons_of_ne_nil h
  by_cases hf : c = '#'
  · simp [cutTail, hf]
  by_cases hq : c = '?'
  · simp [cutTail, hq]
  · simp [cutTail_cons hf hq]

/-- Reading behind a special scheme: slashes are passed, then the authority is read. -/
theorem readBehindScheme_eq {scheme : String} (hspecial : isSpecial scheme = true)
    (hfile : isFile scheme = false) {cs : List Char}
    (hbehind : behindAuthority (cs.dropWhile (isSlash true)) ≠ []) :
    readBehindScheme scheme cs =
      (fun a => joined scheme a (behindAuthority (cs.dropWhile (isSlash true)))) <$>
        readAuthority scheme false (authorityPart (cs.dropWhile (isSlash true))) := by
  have hslashes := cutTail_dropSlashes cs
  generalize cs.dropWhile (isSlash true) = rest at *
  simp only [Prod.ext_iff] at hslashes
  obtain ⟨hfront, hquery, hfragment⟩ := hslashes
  obtain ⟨hauthority, hdrop, htail⟩ := cutTail_authority rest
  have hended := cutTail_nonempty hbehind
  simp only [readBehindScheme, hfile, hspecial, withAuthority, hfront, hquery, hfragment,
    hauthority, hdrop, htail, hended, if_true, Bool.false_eq_true, if_false]
  cases readAuthority scheme false (authorityPart rest) <;> rfl

/-- What is read of an authority depends on the scheme only through its port. -/
theorem readAuthority_congr {a b : String} (h : defaultPort a = defaultPort b)
    (ha : isSpecial a = true) (hb : isSpecial b = true) (ended : Bool) (cs : List Char) :
    readAuthority a ended cs = readAuthority b ended cs := by
  have hhost : readHost a = readHost b := by
    funext cs
    simp only [readHost, ha, hb]
  have hport : readPort a = readPort b := by
    funext cs
    simp only [readPort, h]
  simp only [readAuthority, hhost, hport]

theorem cutLastAt_append {rest : List Char} (h : '@' ∉ rest) (info : List Char) :
    cutLastAt (info ++ '@' :: rest) = some (info, rest) := by
  have hrest : '@' ∉ rest.reverse := fun hc => h (List.mem_reverse.1 hc)
  have hafter : ((info ++ '@' :: rest).reverse.takeWhile (· ≠ '@')).reverse = rest := by
    rw [List.reverse_append, List.reverse_cons, List.append_assoc, List.singleton_append,
      List.takeWhile_append_of_pos]
    · simp
    · intro c hc
      exact decide_eq_true fun he => hrest (he ▸ hc)
  have hlength : info.length + (rest.length + 1) - rest.length - 1 = info.length := by omega
  simp only [cutLastAt, hafter, List.length_append, List.length_cons, hlength, List.take_left]
  rw [if_neg (by omega)]

def hostPart (cs : List Char) : List Char :=
  match cutLastAt cs with
  | some (_, rest) => rest
  | none => cs

def userPart (cs : List Char) : UserInfo :=
  match cutLastAt cs with
  | some (info, _) => readUserInfo info
  | none => ⟨"", none⟩

theorem readAuthority_parts {scheme : String} {ended : Bool} {cs : List Char} {a : Authority}
    (h : readAuthority scheme ended cs = .ok a) :
    a.user = userPart cs ∧ readHost scheme (takeHost false (hostPart cs)) = .ok a.host ∧
      readPort scheme (((hostPart cs).drop (takeHost false (hostPart cs)).length).drop 1) =
        .ok a.port := by
  unfold readAuthority at h
  unfold userPart hostPart
  cases hcut : cutLastAt cs with
  | none =>
    simp only [hcut] at h ⊢
    rw [if_neg (by simp)] at h
    obtain ⟨host, hhost, h⟩ := Json.bind_eq_ok.1 h
    split at h
    · simp at h
    obtain ⟨port, hport, h⟩ := Json.bind_eq_ok.1 h
    obtain rfl := Except.ok.inj h
    exact ⟨rfl, hhost, hport⟩
  | some cut =>
    simp only [hcut] at h ⊢
    split at h
    · simp at h
    obtain ⟨host, hhost, h⟩ := Json.bind_eq_ok.1 h
    split at h
    · simp at h
    obtain ⟨port, hport, h⟩ := Json.bind_eq_ok.1 h
    obtain rfl := Except.ok.inj h
    exact ⟨rfl, hhost, hport⟩

/-- There is a host, and its text stays inside the authority. -/
theorem staysInside_of_readAuthority {scheme : String} (hs : isSpecial scheme = true) {ended : Bool}
    {cs : List Char} {a : Authority} (h : readAuthority scheme ended cs = .ok a) :
    Host.StaysInside a.host.chars :=
  Host.staysInside_read (readHost_special hs (readAuthority_parts h).2.1)

theorem escape_eq_nil {set : Char → Bool} {cs : List Char} : escape set cs = [] ↔ cs = [] := by
  constructor
  · intro h
    cases cs with
    | nil => rfl
    | cons c cs =>
      obtain ⟨hc, -⟩ := List.append_eq_nil_iff.1 h
      unfold escapeChar at hc
      split at hc
      · cases hoctets : charOctets c with
        | nil => simp [charOctets] at hoctets
        | cons b bs => simp [hoctets, escapedOctet] at hc
      · simp at hc
  · rintro rfl
    rfl

/-- No name and no password are read from nothing, and from a colon alone. -/
theorem readUserInfo_eq_empty {cs : List Char} :
    readUserInfo cs = ⟨"", none⟩ ↔ cs = [] ∨ cs = [':'] := by
  have hcut := List.takeWhile_append_dropWhile (p := (· ≠ ':')) (l := cs)
  unfold readUserInfo
  cases hcolon : cs.dropWhile (· ≠ ':') with
  | nil =>
    have hno : cs ≠ [':'] := by
      rintro rfl
      simp at hcolon
    simp [escape_eq_nil, hno]
  | cons colon secret =>
    have hmark : colon = ':' := by
      have hhead := List.head?_dropWhile_not (· ≠ ':') cs
      rw [hcolon] at hhead
      simpa using hhead
    rw [hcolon, hmark] at hcut
    simp only [UserInfo.mk.injEq, String.ofList_eq_empty_iff, escape_eq_nil, ite_eq_left_iff,
      reduceCtorEq, imp_false, not_not, List.isEmpty_iff]
    constructor
    · rintro ⟨hname, rfl⟩
      rw [← hcut, hname]
      exact Or.inr rfl
    · rintro (rfl | rfl)
      · simp at hcut
      · simp at hcolon
        simp [hcolon]

theorem takeHost_inside {cs : List Char} (h : ']' ∉ cs) : takeHost true cs = cs := by
  induction cs with
  | nil => rfl
  | cons c cs ih =>
    obtain ⟨hc, hcs⟩ := not_or.1 (mt List.mem_cons.2 h)
    simp [takeHost, Ne.symm hc, ih hcs]

/-- Before a port the host ends there, or at a colon before that, or it takes the port in. -/
theorem takeHost_port (inside : Bool) (host : List Char) {port : List Char} (h : ']' ∉ port) :
    takeHost inside (host ++ ':' :: port) = host ∨
      takeHost inside (host ++ ':' :: port) = host ++ ':' :: port ∨
      ∃ front more, host = front ++ ':' :: more ∧
        takeHost inside (host ++ ':' :: port) = front := by
  induction host generalizing inside with
  | nil =>
    cases inside with
    | false => exact Or.inl rfl
    | true => exact Or.inr (Or.inl (by simp [takeHost, takeHost_inside h]))
  | cons c host ih =>
    rw [List.cons_append, takeHost]
    split
    · rename_i hc
      exact Or.inr (Or.inr ⟨[], host, by rw [hc.1]; rfl, rfl⟩)
    · rcases ih (if c = '[' then true else if c = ']' then false else inside) with
        hhost | hall | ⟨front, more, hfront, hhost⟩
      · exact Or.inl (by rw [hhost])
      · exact Or.inr (Or.inl (by rw [hall]))
      · exact Or.inr (Or.inr ⟨c :: front, more, by rw [hfront]; rfl, by rw [hhost]⟩)

theorem isDigit_of_mem_digits {n : Nat} {c : Char} (h : c ∈ digits n) : isDigit c = true :=
  Nat.isDigit_of_mem_toDigits (by decide) (by decide) h

theorem goes_on_port {n : Nat} {c : Char} (h : c ∈ ':' :: digits n) :
    endsAuthority true c = false := by
  rcases List.mem_cons.1 h with rfl | h
  · rfl
  · have hdigit := isDigit_of_mem_digits h
    rw [endsAuthority_eq_false]
    intro hmark
    simp only [List.mem_cons, List.not_mem_nil, or_false] at hmark
    rcases hmark with rfl | rfl | rfl | rfl <;> exact absurd hdigit (by decide)

theorem readPort_digits {scheme : String} {n : Nat} {port : Option Nat}
    (h : readPort scheme (digits n) = .ok port) : port.or (defaultPort scheme) = some n := by
  have hall : (digits n).all isDigit = true := List.all_eq_true.2 fun c => isDigit_of_mem_digits
  have hvalue : ofDigits (digits n) = n := by
    have := ofDigits_padded 0 n
    simpa [padded] using this
  have hne : (digits n).isEmpty = false := by
    have := padded_ne_nil 0 n
    simpa [padded] using this
  simp only [readPort, hall, hvalue, hne, if_true, Bool.false_eq_true, false_or] at h
  split at h
  · simp at h
  split at h
  · rename_i hdefault
    rw [← Except.ok.inj h, hdefault]
    rfl
  · rw [← Except.ok.inj h]
    rfl

theorem port_of_readAuthority {scheme : String} (hs : isSpecial scheme = true) {ended : Bool}
    {cs host : List Char} {n : Nat} (hcs : hostPart cs = host ++ ':' :: digits n) {a : Authority}
    (h : readAuthority scheme ended cs = .ok a) : a.port.or (defaultPort scheme) = some n := by
  obtain ⟨-, hhost, hport⟩ := readAuthority_parts h
  have hdigit : ∀ {c : Char}, c ∈ digits n → isDigit c = true := isDigit_of_mem_digits
  have hclose : ']' ∉ digits n := fun hc => absurd (hdigit hc) (by decide)
  rw [hcs] at hhost hport
  rcases takeHost_port false host hclose with hname | hname | ⟨front, more, rfl, hname⟩
  · rw [hname, List.drop_left] at hport
    exact readPort_digits hport
  -- A bracket that is never closed would have to be closed by the last digit of the port.
  · rw [hname] at hhost
    refine absurd (readHost_special hs hhost) (Host.read_colon (by simp) ?_ _)
    intro hlast
    have hmem : ']' ∈ ':' :: digits n := by
      apply List.mem_of_getLast?
      simpa [List.getLast?_append, List.getLast?_cons] using hlast
    simp [hclose] at hmem
  -- Behind an earlier colon there would have to be nothing but digits.
  · rw [hname, List.append_assoc, List.drop_left, List.cons_append, List.drop_succ_cons,
      List.drop_zero] at hport
    have hall : (more ++ ':' :: digits n).all isDigit = false := by
      rw [List.all_eq_false]
      exact ⟨':', by simp, by decide⟩
    simp [readPort, hall] at hport

theorem splitSegments_ne_nil (special : Bool) (cs : List Char) : splitSegments special cs ≠ [] := by
  cases cs with
  | nil => simp [splitSegments]
  | cons c cs =>
    unfold splitSegments
    split
    · simp
    · split <;> simp

theorem splitSegments_append (special : Bool) (xs ys : List Char) :
    splitSegments special (xs ++ '/' :: ys) =
      splitSegments special xs ++ splitSegments special ys := by
  induction xs with
  | nil => simp [splitSegments, isSlash]
  | cons c xs ih =>
    rw [List.cons_append, splitSegments, splitSegments, ih]
    split
    · rfl
    · cases hsplit : splitSegments special xs with
      | nil => exact absurd hsplit (splitSegments_ne_nil special xs)
      | cons p ps => rfl

theorem splitSegments_last (special : Bool) (xs : List Char) {ys : List Char}
    (h : ∀ c ∈ ys, isSlash special c = false) :
    ∃ front part, splitSegments special (xs ++ ys) = front ++ [part ++ ys] := by
  induction xs with
  | nil =>
    refine ⟨[], [], ?_⟩
    induction ys with
    | nil => rfl
    | cons c ys ih =>
      have hys := ih fun d hd => h d (List.mem_cons_of_mem c hd)
      simp only [List.nil_append] at hys ⊢
      simp [splitSegments, h c List.mem_cons_self, hys]
  | cons c xs ih =>
    obtain ⟨front, part, hsplit⟩ := ih
    rw [List.cons_append, splitSegments, hsplit]
    split
    · exact ⟨[] :: front, part, rfl⟩
    · cases front with
      | nil => exact ⟨[], c :: part, rfl⟩
      | cons p front => exact ⟨(c :: p) :: front, part, rfl⟩

/-- Segments that are kept stay where no segment behind them is two dots. -/
theorem mem_resolve_of_mem {kept : List String} {p : String} (hp : p ∈ kept)
    {segs : List (List Char)} (h : ∀ seg ∈ segs, isTwoDots seg = false) :
    p ∈ resolve false kept segs := by
  induction segs generalizing kept with
  | nil => exact hp
  | cons seg segs ih =>
    have hsegs := fun s hs => h s (List.mem_cons_of_mem seg hs)
    rw [resolve, h seg List.mem_cons_self]
    simp only [Bool.false_eq_true, if_false]
    split
    · refine ih ?_ hsegs
      split
      · exact List.mem_append_left _ hp
      · exact hp
    · exact ih (List.mem_append_left _ hp) hsegs

theorem mem_resolve (kept : List String) (before : List (List Char)) {after : List (List Char)}
    {seg : List Char} (hone : isOneDot seg = false) (htwo : isTwoDots seg = false)
    (h : ∀ s ∈ after, isTwoDots s = false) :
    String.ofList (escape inPath seg) ∈ resolve false kept (before ++ seg :: after) := by
  induction before generalizing kept with
  | nil =>
    rw [List.nil_append, resolve, hone, htwo]
    simp only [Bool.false_eq_true, if_false, false_and]
    exact mem_resolve_of_mem (by simp) h
  | cons s before ih =>
    rw [List.cons_append, resolve]
    split
    · exact ih _
    split
    · exact ih _
    · exact ih _

end Parley.Url
