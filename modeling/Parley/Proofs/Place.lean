import Mathlib.Data.List.TakeWhile
import Parley.Http.Exchange
import Parley.Proofs.HostText
import Parley.Proofs.Query
import Parley.Proofs.Token
import Parley.Server

/-! The places of a server whose host is a plain name or address. Such a host ends nowhere but at
the port behind it, so the URL that is read from the whole text has the path that was written and
nothing else, and a request made for it asks for this path with whatever query was added. -/

namespace Parley

open Text

/-- Nothing in the host marks off another part of a URL. -/
def Server.IsPlain (s : Server) : Prop := ∀ c ∈ s.host.toList, c ∉ ['/', '\\', '?', '#', '@']

instance (s : Server) : Decidable s.IsPlain := List.decidableBAll _ s.host.toList

namespace Url

theorem takeWhile_ne_of_not_mem {mark : Char} {cs : List Char} (h : mark ∉ cs) :
    cs.takeWhile (· ≠ mark) = cs := by
  refine List.takeWhile_eq_self_iff.2 fun c hc => ?_
  exact decide_eq_true fun he => h (he ▸ hc)

theorem dropWhile_ne_of_not_mem {mark : Char} {cs : List Char} (h : mark ∉ cs) :
    cs.dropWhile (· ≠ mark) = [] := by
  refine List.dropWhile_eq_nil_iff.2 fun c hc => ?_
  exact decide_eq_true fun he => h (he ▸ hc)

theorem cutTail_of_not_mem {cs : List Char} (hf : '#' ∉ cs) (hq : '?' ∉ cs) :
    cutTail cs = (cs, none, none) := by
  simp only [cutTail, takeWhile_ne_of_not_mem hf, dropWhile_ne_of_not_mem hf,
    takeWhile_ne_of_not_mem hq, dropWhile_ne_of_not_mem hq]

theorem cutLastAt_of_not_mem {cs : List Char} (h : '@' ∉ cs) : cutLastAt cs = none := by
  have hr : '@' ∉ cs.reverse := fun hc => h (List.mem_reverse.1 hc)
  unfold cutLastAt
  rw [takeWhile_ne_of_not_mem hr, List.reverse_reverse]
  exact if_pos rfl

theorem dropWhile_isEdge {cs : List Char} {c : Char} (h : cs.head? = some c)
    (hc : isEdge c = false) : cs.dropWhile isEdge = cs := by
  cases cs with
  | nil => rfl
  | cons d cs =>
    obtain rfl := Option.some.inj h
    exact List.dropWhile_cons_of_neg (by simp [hc])

theorem cleaned_eq {cs : List Char} {first last : Char} (hf : cs.head? = some first)
    (hl : cs.getLast? = some last) (hfirst : isEdge first = false) (hlast : isEdge last = false) :
    cleaned cs = cs.filter (!isDropped ·) := by
  unfold cleaned
  rw [dropWhile_isEdge hf hfirst, dropWhile_isEdge (List.head?_reverse.trans hl) hlast,
    List.reverse_reverse]

/-- Nothing in the text is dropped before it is read. -/
def Kept (cs : List Char) : Prop := ∀ c ∈ cs, isDropped c = false

instance (cs : List Char) : Decidable (Kept cs) := List.decidableBAll _ cs

def serverSchemes : List String := ["http", "https", "ws", "wss"]

def serverPaths : List String := [Server.loginPath, Server.identityPath, Server.chatPath]

/-- Every reader takes the scheme off, and knows that a host follows. -/
structure IsServerScheme (scheme : String) : Prop where
  read : ∀ rest, readScheme (scheme.toList ++ ':' :: rest) = some (scheme, rest)
  cut : ∀ rest, Http.Target.cutScheme (scheme.toList ++ ':' :: '/' :: '/' :: rest) =
    some (scheme.toList, rest)
  special : isSpecial scheme = true
  file : isFile scheme = false
  first : ∃ c, scheme.toList.head? = some c ∧ isEdge c = false
  kept : Kept scheme.toList

theorem isServerScheme {scheme : String} (h : scheme ∈ serverSchemes) : IsServerScheme scheme := by
  simp only [serverSchemes, List.mem_cons, List.not_mem_nil, or_false] at h
  rcases h with rfl | rfl | rfl | rfl
  all_goals exact ⟨fun _ => rfl, fun _ => rfl, rfl, rfl, ⟨_, rfl, rfl⟩, by decide⟩

/-- A path that is read as it is written, and that nothing else in a URL is taken for. -/
structure IsServerPath (path : String) : Prop where
  opened : ∃ cs, path.toList = '/' :: cs
  read : ∀ {scheme}, isSpecial scheme = true → isFile scheme = false →
    (readPath scheme path.toList).chars = path.toList
  last : ∃ c, path.toList.getLast? = some c ∧ isEdge c = false
  kept : Kept path.toList
  marks : '?' ∉ path.toList ∧ '#' ∉ path.toList

theorem isServerPath {path : String} (h : path ∈ serverPaths) : IsServerPath path := by
  simp only [serverPaths, List.mem_cons, List.not_mem_nil, or_false] at h
  rcases h with rfl | rfl | rfl
  all_goals
    refine ⟨⟨_, rfl⟩, fun hspecial hfile => ?_, ⟨_, rfl, rfl⟩, by decide, by decide⟩
    simp only [readPath, hspecial, hfile]
    rfl

/-- Where a server is asked: a host that stays inside its authority, a path and maybe a query. -/
structure IsPlace (u : Url) (scheme path : String) (query : Option String) : Prop where
  scheme_eq : u.scheme = scheme
  username_eq : u.username = ""
  password_eq : u.password = none
  host : ∃ h, u.host = some h ∧ Host.StaysInside h.chars
  path_eq : u.path.chars = path.toList
  query_eq : u.query = query
  fragment_eq : u.fragment = none

theorem readHost_special {scheme : String} (hs : isSpecial scheme = true) {cs : List Char}
    {h : Host} (hread : readHost scheme cs = .ok h) : Host.read cs = .ok h := by
  simp only [readHost, hs] at hread
  by_cases hcs : cs.isEmpty = true
  · simp [hcs] at hread
  · cases hr : Host.read cs with
    | error p => simp [hcs, hr] at hread
    | ok g => simpa [hcs, hr] using hread

/-- Without an at sign there is no user info, and the host is read from a part of the text. -/
theorem readAuthority_of_not_mem {scheme : String} (hs : isSpecial scheme = true) {ended : Bool}
    {cs : List Char} (hat : '@' ∉ cs) {a : Authority} (h : readAuthority scheme ended cs = .ok a) :
    a.user = ⟨"", none⟩ ∧ Host.StaysInside a.host.chars := by
  simp only [readAuthority, cutLastAt_of_not_mem hat] at h
  rw [if_neg (by simp)] at h
  obtain ⟨host, hhost, h⟩ := Json.bind_eq_ok.1 h
  split at h
  · simp at h
  obtain ⟨port, -, h⟩ := Json.bind_eq_ok.1 h
  obtain rfl := Except.ok.inj h
  exact ⟨rfl, Host.staysInside_read (readHost_special hs hhost)⟩

/-- The marks that no plain host holds. -/
def Unmarked (cs : List Char) : Prop := ∀ c ∈ cs, c ∉ ['/', '\\', '?', '#', '@']

theorem Unmarked.not_mem {cs : List Char} (h : Unmarked cs) {c : Char}
    (hc : c ∈ ['/', '\\', '?', '#', '@']) : c ∉ cs := fun hmem => h c hmem hc

theorem Unmarked.goes_on {cs : List Char} (h : Unmarked cs) :
    ∀ c ∈ cs, (!endsAuthority true c) = true := by
  intro c hc
  have hne := h c hc
  simp only [List.mem_cons, List.not_mem_nil, or_false, not_or] at hne
  simp [endsAuthority, isSlash, hne]

theorem takeWhile_authority {authority path : List Char} (h : Unmarked authority)
    (hp : ∃ cs, path = '/' :: cs) :
    (authority ++ path).takeWhile (!endsAuthority true ·) = authority := by
  obtain ⟨cs, rfl⟩ := hp
  rw [List.takeWhile_append_of_pos h.goes_on, List.takeWhile_cons_of_neg (by decide),
    List.append_nil]

theorem withAuthority_isPlace {scheme path : String} (hs : IsServerScheme scheme)
    (hp : IsServerPath path) {authority : List Char} (ha : Unmarked authority) {u : Url}
    (h : withAuthority scheme (authority ++ path.toList) none none = .ok u) :
    IsPlace u scheme path none := by
  simp only [withAuthority, hs.special, takeWhile_authority ha hp.opened, List.drop_left] at h
  obtain ⟨a, hread, h⟩ := Json.bind_eq_ok.1 h
  obtain ⟨huser, hhost⟩ := readAuthority_of_not_mem hs.special (ha.not_mem (by simp)) hread
  obtain rfl := Except.ok.inj h
  exact {
    scheme_eq := rfl
    username_eq := congrArg UserInfo.username huser
    password_eq := congrArg UserInfo.password huser
    host := ⟨a.host, rfl, hhost⟩
    path_eq := hp.read hs.special hs.file
    query_eq := rfl
    fragment_eq := rfl }

theorem readBehindScheme_isPlace {scheme path : String} (hs : IsServerScheme scheme)
    (hp : IsServerPath path) {authority : List Char} (ha : Unmarked authority)
    (hne : authority ≠ []) {u : Url}
    (h : readBehindScheme scheme ('/' :: '/' :: (authority ++ path.toList)) = .ok u) :
    IsPlace u scheme path none := by
  have htail : cutTail ('/' :: '/' :: (authority ++ path.toList)) =
      ('/' :: '/' :: (authority ++ path.toList), none, none) := by
    refine cutTail_of_not_mem ?_ ?_
    · simp [ha.not_mem (c := '#') (by simp), hp.marks]
    · simp [ha.not_mem (c := '?') (by simp), hp.marks]
  have hslashes : ('/' :: '/' :: (authority ++ path.toList)).dropWhile (isSlash true) =
      authority ++ path.toList := by
    obtain ⟨c, cs, rfl⟩ := List.exists_cons_of_ne_nil hne
    have hc := ha c List.mem_cons_self
    simp only [List.mem_cons, List.not_mem_nil, or_false, not_or] at hc
    simp [isSlash, hc]
  simp only [readBehindScheme, htail, hs.file, hs.special, hslashes] at h
  exact withAuthority_isPlace hs hp ha h

theorem IsPlace.withPair {u : Url} {scheme path : String} (h : IsPlace u scheme path none)
    (name value : String) :
    IsPlace (u.withPair name value) scheme path (some (String.ofList (formPair name value))) where
  scheme_eq := h.scheme_eq
  username_eq := h.username_eq
  password_eq := h.password_eq
  host := h.host
  path_eq := h.path_eq
  query_eq := by simp [Url.withPair, h.query_eq, appendPair]
  fragment_eq := h.fragment_eq

theorem IsPlace.userInfo {u : Url} {scheme path : String} {query : Option String}
    (h : IsPlace u scheme path query) : Http.userInfo? u = none := by
  unfold Http.userInfo?
  rw [h.username_eq, h.password_eq]
  rfl

theorem staysInside_portChars (u : Url) : Host.StaysInside u.portChars := by
  unfold portChars
  split
  · exact Host.staysInside_cons (by decide) (Host.staysInside_digits _)
  · exact Host.staysInside_nil

theorem pathText_eq {cs : List Char} (h : ∃ rest, cs = '/' :: rest) (hf : '#' ∉ cs) :
    Http.Target.pathText cs = String.ofList cs := by
  obtain ⟨rest, rfl⟩ := h
  simp only [Http.Target.pathText, takeWhile_ne_of_not_mem hf, List.head?_cons, if_true]

/-- A request that can be made for the place is for its scheme, its path and its query. -/
theorem IsPlace.target {u : Url} {scheme path : String} {query : Option String}
    (h : IsPlace u scheme path query) (hs : IsServerScheme scheme) (hp : IsServerPath path)
    (hq : '#' ∉ u.queryChars) {t : Http.Target} (ht : Http.Target.ofUrl u = .ok t) :
    t.scheme = some scheme ∧ t.path = String.ofList (path.toList ++ u.queryChars) := by
  obtain ⟨host, hhost, hinside⟩ := h.host
  have hchars : u.chars =
      scheme.toList ++ ':' :: '/' :: '/' ::
        (host.chars ++ u.portChars ++ (path.toList ++ u.queryChars)) := by
    simp [chars, authorityChars, userInfoChars, fragmentChars, hhost, h.scheme_eq, h.username_eq,
      h.password_eq, h.path_eq, h.fragment_eq]
  have hgoes : ∀ c ∈ host.chars ++ u.portChars, (!Http.Target.endsAuthority c) = true := by
    intro c hc
    simp [Host.staysInside_append hinside (staysInside_portChars u) c hc]
  obtain ⟨cs, hpath⟩ := hp.opened
  have hstop : (path.toList ++ u.queryChars).takeWhile (!Http.Target.endsAuthority ·) = [] := by
    rw [hpath, List.cons_append, List.takeWhile_cons_of_neg (by decide)]
  have hcut := hs.cut (host.chars ++ u.portChars ++ (path.toList ++ u.queryChars))
  simp only [Http.Target.ofUrl, Http.Target.read, hchars, hcut,
    List.takeWhile_append_of_pos hgoes, hstop, List.append_nil, List.drop_left] at ht
  split at ht
  · simp at ht
  split at ht
  · simp at ht
  obtain ⟨-, -, ht⟩ := Json.bind_eq_ok.1 ht
  split at ht
  · simp at ht
  obtain rfl := Except.ok.inj ht
  refine ⟨congrArg some String.ofList_toList, pathText_eq ⟨cs ++ u.queryChars, ?_⟩ ?_⟩
  · rw [hpath, List.cons_append]
  · simp [hp.marks, hq]

end Url

namespace Server

open Url

def authority (s : Server) : List Char :=
  s.host.toList.filter (!isDropped ·) ++ ':' :: digits s.port

theorem unmarked_authority {s : Server} (h : s.IsPlain) : Unmarked s.authority := by
  intro c hc
  rcases List.mem_append.1 hc with hc | hc
  · exact h c (List.mem_filter.1 hc).1
  rcases List.mem_cons.1 hc with rfl | hc
  · decide
  · have hdigit : c.isDigit := Nat.isDigit_of_mem_toDigits (by decide) (by decide) hc
    intro hmark
    simp only [List.mem_cons, List.not_mem_nil, or_false] at hmark
    rcases hmark with rfl | rfl | rfl | rfl | rfl <;> exact absurd hdigit (by decide)

theorem filter_eq_self_of_kept {cs : List Char} (h : Kept cs) :
    cs.filter (!isDropped ·) = cs :=
  List.filter_eq_self.2 fun c hc => by simp [h c hc]

theorem filter_cons_of_kept {c : Char} (h : isDropped c = false) (cs : List Char) :
    (c :: cs).filter (!isDropped ·) = c :: cs.filter (!isDropped ·) :=
  List.filter_cons_of_pos (by simp [h])

theorem isDropped_digit {n : Nat} {c : Char} (h : c ∈ digits n) : isDropped c = false := by
  have hdigit : c.isDigit := Nat.isDigit_of_mem_toDigits (by decide) (by decide) h
  cases hd : isDropped c with
  | false => rfl
  | true =>
    simp only [isDropped, Bool.or_eq_true, decide_eq_true_eq] at hd
    rcases hd with (rfl | rfl) | rfl <;> exact absurd hdigit (by decide)

theorem toList_raw (scheme path : String) (s : Server) :
    (scheme ++ "://" ++ s.host ++ ":" ++ toString s.port ++ path).toList =
      scheme.toList ++ ':' :: '/' :: '/' ::
        (s.host.toList ++ ':' :: (digits s.port ++ path.toList)) := by
  have hport : (toString s.port).toList = digits s.port := Nat.toList_repr
  simp only [String.toList_append, hport, List.append_assoc]
  rfl

/-- Line ends and tabs inside the host are dropped, and everything else is read. -/
theorem read_raw {scheme path : String} (hs : IsServerScheme scheme) (hp : IsServerPath path)
    (s : Server) :
    Url.read (scheme ++ "://" ++ s.host ++ ":" ++ toString s.port ++ path) =
      readBehindScheme scheme ('/' :: '/' :: (s.authority ++ path.toList)) := by
  obtain ⟨first, hfirst, hf⟩ := hs.first
  obtain ⟨last, hlast, hl⟩ := hp.last
  have hhead : (scheme ++ "://" ++ s.host ++ ":" ++ toString s.port ++ path).toList.head? =
      some first := by
    rw [toList_raw, List.head?_append, hfirst, Option.some_or]
  have htail : (scheme ++ "://" ++ s.host ++ ":" ++ toString s.port ++ path).toList.getLast? =
      some last := by
    simp [List.getLast?_append, List.getLast?_cons, hlast]
  have hclean : cleaned (scheme ++ "://" ++ s.host ++ ":" ++ toString s.port ++ path).toList =
      scheme.toList ++ ':' :: '/' :: '/' :: (s.authority ++ path.toList) := by
    rw [cleaned_eq hhead htail hf hl, toList_raw, List.filter_append,
      filter_eq_self_of_kept hs.kept, filter_cons_of_kept rfl, filter_cons_of_kept rfl,
      filter_cons_of_kept rfl, List.filter_append, filter_cons_of_kept rfl, List.filter_append,
      filter_eq_self_of_kept fun _ => isDropped_digit, filter_eq_self_of_kept hp.kept, authority,
      List.append_assoc, List.cons_append]
  simp only [Url.read, hclean, hs.read]

theorem url_isPlace {s : Server} (h : s.IsPlain) {scheme path : String}
    (hs : scheme ∈ serverSchemes) (hp : path ∈ serverPaths) {u : Url}
    (hu : s.url scheme path = .ok u) : IsPlace u scheme path none := by
  unfold url at hu
  split at hu
  · simp at hu
  simp only [read_raw (isServerScheme hs) (isServerPath hp)] at hu
  split at hu
  · rename_i v hread
    rw [← Except.ok.inj hu]
    exact readBehindScheme_isPlace (isServerScheme hs) (isServerPath hp) (unmarked_authority h)
      (by simp [authority]) hread
  · simp at hu

end Server

end Parley
