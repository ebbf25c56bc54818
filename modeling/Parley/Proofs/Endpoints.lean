import Parley.Proofs.Authority

/-! The three URLs of a server, whatever its host is. The host is pasted into a text and the text is
read again, so all three are refused or none is, and what is read before the path is the same in all
of them. They lead to the places of the server exactly where nothing that is read of the host marks
off another part of a URL; any other host that is accepted moves port or path, or adds to what is
asked for. -/

namespace Parley

open Text Url

namespace Server

/-- What is read of the host: no tabs and line ends, and none of the slashes in front of it. -/
def seenHost (s : Server) : List Char :=
  (s.host.toList.filter (!isDropped ·)).dropWhile (isSlash true)

/-- Nothing that is read of the host ends the authority, and what may stand before an at sign is
neither a name nor a password. -/
structure IsBare (s : Server) : Prop where
  whole : ∀ c ∈ s.seenHost, c ∉ ['/', '\\', '?', '#']
  nameless : ∀ info host, s.seenHost = info ++ '@' :: host → '@' ∉ host →
    info = [] ∨ info = [':']

/-- The URL leads to a place of the server, at the port of the server. -/
structure Keeps (s : Server) (u : Url) (scheme path : String) (query : Option String) : Prop where
  place : IsPlace u scheme path query
  port_eq : u.effectivePort = some s.port

/-- Two URLs for which a connection is made to the same place and with the same user info. -/
structure SameAuthority (u v : Url) : Prop where
  username_eq : u.username = v.username
  password_eq : u.password = v.password
  host_eq : u.host = v.host
  port_eq : u.effectivePort = v.effectivePort

def schemes (s : Server) : List String := [s.httpScheme, s.socketScheme]

theorem isServerScheme_of_mem {s : Server} {scheme : String} (h : scheme ∈ s.schemes) :
    IsServerScheme scheme ∧ Url.defaultPort scheme = Url.defaultPort s.httpScheme := by
  obtain ⟨host, port, secure⟩ := s
  have hscheme : scheme ∈ serverSchemes ∧ Url.defaultPort scheme = Url.defaultPort
      (Server.httpScheme ⟨host, port, secure⟩) := by
    simp only [schemes, List.mem_cons, List.not_mem_nil, or_false] at h
    cases secure <;> rcases h with rfl | rfl <;>
      exact ⟨by simp [httpScheme, socketScheme, serverSchemes], rfl⟩
  exact ⟨isServerScheme hscheme.1, hscheme.2⟩

theorem isServerScheme_http (s : Server) : IsServerScheme s.httpScheme :=
  (isServerScheme_of_mem List.mem_cons_self).1

def seenAuthority (s : Server) : List Char := s.seenHost ++ ':' :: digits s.port

def reading (s : Server) : Except ReadError Authority :=
  readAuthority s.httpScheme false (authorityPart s.seenAuthority)

def behind (s : Server) (path : String) : List Char :=
  behindAuthority (s.seenAuthority ++ path.toList)

theorem dropWhile_authority (s : Server) (path : String) :
    ('/' :: '/' :: (s.authority ++ path.toList)).dropWhile (isSlash true) =
      s.seenAuthority ++ path.toList := by
  have hslash : isSlash true '/' = true := by decide
  have hcolon : ¬ isSlash true ':' = true := by decide
  rw [List.dropWhile_cons_of_pos hslash, List.dropWhile_cons_of_pos hslash, authority,
    seenAuthority, seenHost, List.append_assoc, List.append_assoc, List.dropWhile_append,
    List.cons_append, List.dropWhile_cons_of_neg hcolon]
  split
  · rename_i hempty
    rw [List.isEmpty_iff.1 hempty, List.nil_append]
  · rfl

theorem authorityPart_append (cs : List Char) {path : List Char}
    (hp : ∃ rest, path = '/' :: rest) : authorityPart (cs ++ path) = authorityPart cs := by
  obtain ⟨rest, rfl⟩ := hp
  unfold authorityPart
  induction cs with
  | nil => rfl
  | cons c cs ih =>
    rw [List.cons_append, List.takeWhile_cons, List.takeWhile_cons, ih]

theorem behind_ne_nil (s : Server) {path : String} (hp : IsServerPath path) :
    s.behind path ≠ [] := by
  obtain ⟨rest, hpath⟩ := hp.opened
  intro hnil
  have hslash : '/' ∈ s.seenAuthority ++ path.toList := by simp [hpath]
  exact absurd (List.dropWhile_eq_nil_iff.1 hnil '/' hslash) (by decide)

theorem read_raw_eq (s : Server) {scheme path : String} (hs : scheme ∈ s.schemes)
    (hp : path ∈ serverPaths) :
    Url.read (scheme ++ "://" ++ s.host ++ ":" ++ toString s.port ++ path) =
      (joined scheme · (s.behind path)) <$> s.reading := by
  obtain ⟨hscheme, hport⟩ := isServerScheme_of_mem hs
  have hpath := isServerPath hp
  have hhttp := s.isServerScheme_http
  have hbehind := s.behind_ne_nil hpath
  rw [behind, ← dropWhile_authority] at hbehind
  rw [read_raw hscheme hpath, readBehindScheme_eq hscheme.special hscheme.file hbehind,
    dropWhile_authority, authorityPart_append _ hpath.opened,
    readAuthority_congr hport hscheme.special hhttp.special]
  rfl

theorem url_of_reading {s : Server} (hhost : s.host ≠ "") {scheme path : String}
    (hs : scheme ∈ s.schemes) (hp : path ∈ serverPaths) {a : Authority} (h : s.reading = .ok a) :
    s.url scheme path = .ok (joined scheme a (s.behind path)) := by
  unfold url
  rw [if_neg (by simpa using hhost)]
  simp only [read_raw_eq s hs hp, h]
  rfl

theorem url_of_refused {s : Server} (h : s.host = "" ∨ ∃ e, s.reading = .error e)
    {scheme path : String} (hs : scheme ∈ s.schemes) (hp : path ∈ serverPaths) :
    ∃ text, s.url scheme path = .error (.config text) := by
  unfold url
  split
  · exact ⟨_, rfl⟩
  · rename_i hhost
    rcases h with h | ⟨e, h⟩
    · simp [h] at hhost
    · simp only [read_raw_eq s hs hp, h]
      exact ⟨_, rfl⟩

theorem chatUrl_of_url {s : Server} {u : Url} (h : s.url s.socketScheme chatPath = .ok u)
    (token : Token) : s.chatUrl token = .ok (u.withPair "token" token.text) := by
  rw [chatUrl, h]

theorem not_mem_digits {c : Char} (hc : isDigit c = false) (n : Nat) : c ∉ digits n := by
  intro h
  rw [isDigit_of_mem_digits h] at hc
  exact Bool.noConfusion hc

/-- Only what is read of the host can end the authority before the path. -/
theorem seenAuthority_goes_on {s : Server} (h : ∀ c ∈ s.seenHost, c ∉ ['/', '\\', '?', '#']) :
    ∀ c ∈ s.seenAuthority, (!endsAuthority true c) = true := by
  intro c hc
  rw [Bool.not_eq_true']
  rcases List.mem_append.1 hc with hc | hc
  · exact endsAuthority_eq_false.2 (h c hc)
  · exact goes_on_port hc

theorem seenAuthority_whole {s : Server} (h : ∀ c ∈ s.seenHost, c ∉ ['/', '\\', '?', '#']) :
    authorityPart s.seenAuthority = s.seenAuthority ∧
      ∀ {path : String}, (∃ rest, path.toList = '/' :: rest) → s.behind path = path.toList := by
  have hgoes := seenAuthority_goes_on h
  refine ⟨List.takeWhile_eq_self_iff.2 hgoes, fun {path} hpath => ?_⟩
  obtain ⟨rest, hpath⟩ := hpath
  rw [behind, behindAuthority, List.dropWhile_append_of_pos hgoes, hpath,
    List.dropWhile_cons_of_neg (by decide)]

theorem last_split {mark : Char} {cs : List Char} (h : mark ∈ cs) :
    ∃ front back, cs = front ++ mark :: back ∧ mark ∉ back := by
  obtain ⟨back, front, hsplit, hback⟩ := List.eq_append_cons_of_mem (List.mem_reverse.2 h)
  refine ⟨front.reverse, back.reverse, ?_, by simpa using hback⟩
  rw [← List.reverse_reverse cs, hsplit]
  simp

theorem seenAuthority_parts (s : Server) :
    (∃ host, hostPart s.seenAuthority = host ++ ':' :: digits s.port) ∧
      (userPart s.seenAuthority = ⟨"", none⟩ ↔
        ∀ info host, s.seenHost = info ++ '@' :: host → '@' ∉ host →
          info = [] ∨ info = [':']) := by
  have hport : '@' ∉ ':' :: digits s.port := by
    rw [List.mem_cons, not_or]
    exact ⟨by decide, not_mem_digits (by decide) s.port⟩
  have hcut : ∀ info host, s.seenHost = info ++ '@' :: host → '@' ∉ host →
      cutLastAt s.seenAuthority = some (info, host ++ ':' :: digits s.port) := by
    intro info host hsplit hhost
    rw [seenAuthority, hsplit, List.append_assoc, List.cons_append]
    refine cutLastAt_append ?_ info
    rw [List.mem_append, not_or]
    exact ⟨hhost, hport⟩
  by_cases hat : '@' ∈ s.seenHost
  · obtain ⟨info, host, hsplit, hhost⟩ := last_split hat
    have hinfo := hcut info host hsplit hhost
    refine ⟨⟨host, by rw [hostPart, hinfo]⟩, ?_⟩
    rw [userPart, hinfo]
    simp only [readUserInfo_eq_empty]
    constructor
    · intro hempty info' host' hsplit' hhost'
      have hsame := (hcut info' host' hsplit' hhost').symm.trans hinfo
      simp only [Option.some.injEq, Prod.mk.injEq] at hsame
      rwa [hsame.1]
    · intro hempty
      exact hempty info host hsplit hhost
  · have hnone : cutLastAt s.seenAuthority = none := by
      refine cutLastAt_of_not_mem ?_
      rw [seenAuthority, List.mem_append, not_or]
      exact ⟨hat, hport⟩
    refine ⟨⟨s.seenHost, by rw [hostPart, hnone]; rfl⟩, ?_⟩
    rw [userPart, hnone]
    refine iff_of_true rfl fun info host hsplit => ?_
    rw [hsplit] at hat
    simp at hat

theorem keeps_of_isBare {s : Server} (hbare : s.IsBare) {scheme path : String}
    (hs : scheme ∈ s.schemes) (hp : path ∈ serverPaths) {a : Authority} (h : s.reading = .ok a) :
    s.Keeps (joined scheme a (s.behind path)) scheme path none := by
  obtain ⟨hscheme, hdefault⟩ := isServerScheme_of_mem hs
  have hhttp := s.isServerScheme_http
  have hpath := isServerPath hp
  obtain ⟨hwhole, hbehind⟩ := seenAuthority_whole hbare.whole
  obtain ⟨⟨host, hhost⟩, huser⟩ := s.seenAuthority_parts
  rw [reading, hwhole] at h
  have hinfo : a.user = ⟨"", none⟩ :=
    (readAuthority_parts h).1.trans (huser.2 hbare.nameless)
  have htail : cutTail path.toList = (path.toList, none, none) :=
    cutTail_of_not_mem hpath.marks.2 hpath.marks.1
  rw [hbehind hpath.opened]
  constructor
  · exact {
      scheme_eq := rfl
      username_eq := congrArg UserInfo.username hinfo
      password_eq := congrArg UserInfo.password hinfo
      host := ⟨a.host, rfl, staysInside_of_readAuthority hhttp.special h⟩
      path_eq := by
        simp only [joined, htail]
        exact hpath.read hscheme.special hscheme.file
      query_eq := by simp only [joined, htail, escaped, Option.map_none]
      fragment_eq := by simp only [joined, htail, escaped, Option.map_none] }
  · have hport := port_of_readAuthority hhttp.special hhost h
    rw [← hdefault] at hport
    exact hport

theorem colon_ne_dots {seg : List Char} (h : ':' ∈ seg) :
    isOneDot seg = false ∧ isTwoDots seg = false := by
  have hlower : ':' ∈ seg.map Char.toLower := List.mem_map.2 ⟨':', h, by decide⟩
  have hne : ∀ dots : String, ':' ∉ dots.toList → String.ofList (seg.map Char.toLower) ≠ dots := by
    rintro dots hdots rfl
    rw [String.toList_ofList] at hdots
    exact hdots hlower
  constructor
  · simp [isOneDot, hne]
  · simp [isTwoDots, hne]

theorem serverPath_steps {path : String} (h : path ∈ serverPaths) :
    ':' ∉ path.toList ∧ ∃ rest, path.toList = '/' :: rest ∧
      ∀ seg ∈ splitSegments true rest, isTwoDots seg = false := by
  simp only [serverPaths, List.mem_cons, List.not_mem_nil, or_false] at h
  rcases h with rfl | rfl | rfl <;> exact ⟨by decide, _, rfl, by decide⟩

/-- A slash inside the host makes the port a part of the path. -/
theorem colon_mem_path {scheme path : String} (hspecial : isSpecial scheme = true)
    (hfile : isFile scheme = false) (hp : path ∈ serverPaths) {c : Char}
    (hc : isSlash true c = true) (more : List Char) (port : Nat) :
    ':' ∈ (readPath scheme (c :: (more ++ ':' :: digits port ++ path.toList))).chars := by
  obtain ⟨-, rest, hpath, hsteps⟩ := serverPath_steps hp
  have hslashes : ∀ d ∈ ':' :: digits port, isSlash true d = false := by
    intro d hd
    exact (Bool.or_eq_false_iff.1 (Bool.or_eq_false_iff.1 (goes_on_port hd)).1).1
  obtain ⟨before, part, hlast⟩ := splitSegments_last true more hslashes
  have hcolon : ':' ∈ part ++ ':' :: digits port := by simp
  obtain ⟨hone, htwo⟩ := colon_ne_dots hcolon
  have hsplit : splitSegments true (more ++ ':' :: digits port ++ '/' :: rest) =
      before ++ (part ++ ':' :: digits port) :: splitSegments true rest := by
    rw [splitSegments_append, hlast, List.append_assoc]
    rfl
  have hmem := mem_resolve [] before hone htwo hsteps
  simp only [readPath, hspecial, hfile, hc, if_true, Path.chars, hpath, hsplit]
  refine List.mem_flatMap.2 ⟨_, hmem, List.mem_cons_of_mem _ ?_⟩
  rw [String.toList_ofList]
  exact List.mem_flatMap.2 ⟨':', hcolon, by decide⟩

theorem query_ne_nil {xs ys : List Char} (hf : '#' ∉ xs ++ ys) (hx : '?' ∈ xs) (hy : ys ≠ []) :
    ∃ q, q ≠ [] ∧ (cutTail (xs ++ ys)).2.1 = some q := by
  obtain ⟨front, back, rfl, hfront⟩ := List.eq_append_cons_of_mem hx
  refine ⟨back ++ ys, by simp [hy], ?_⟩
  rw [List.append_assoc, List.cons_append] at hf ⊢
  simp only [cutTail, takeWhile_ne_of_not_mem hf, dropWhile_ne_append hfront]

theorem hash_not_mem {cs : List Char} (h : (cutTail cs).2.2 = none) : '#' ∉ cs := by
  intro hmem
  obtain ⟨front, back, rfl, hfront⟩ := List.eq_append_cons_of_mem hmem
  simp only [cutTail, dropWhile_ne_append hfront] at h
  simp at h

theorem behind_of_mark {s : Server} (h : ¬ ∀ c ∈ s.seenHost, c ∉ ['/', '\\', '?', '#']) :
    ∃ c more, endsAuthority true c = true ∧
      ∀ path : String, s.behind path = c :: (more ++ ':' :: digits s.port ++ path.toList) := by
  have hends : s.seenHost.dropWhile (!endsAuthority true ·) ≠ [] := by
    rw [Ne, List.dropWhile_eq_nil_iff]
    intro hgoes
    exact h fun c hc => endsAuthority_eq_false.1 (by simpa using hgoes c hc)
  obtain ⟨c, more, hcut⟩ := List.exists_cons_of_ne_nil hends
  refine ⟨c, more, ?_, fun path => ?_⟩
  · have hhead := List.head?_dropWhile_not (!endsAuthority true ·) s.seenHost
    rw [hcut] at hhead
    simpa using hhead
  · rw [behind, behindAuthority, seenAuthority, List.append_assoc, List.dropWhile_append, hcut]
    simp

/-- A mark in the host shows in the URL: as a fragment, as a query or by a longer path. -/
theorem whole_of_joined {s : Server} {scheme path : String} (hscheme : IsServerScheme scheme)
    (hp : path ∈ serverPaths) {a : Authority}
    (hpath : (joined scheme a (s.behind path)).path.chars = path.toList)
    (hquery : (joined scheme a (s.behind path)).query.getD "" = "")
    (hfragment : (joined scheme a (s.behind path)).fragment = none) :
    ∀ c ∈ s.seenHost, c ∉ ['/', '\\', '?', '#'] := by
  by_contra hmarks
  obtain ⟨c, more, hc, hbehind⟩ := behind_of_mark hmarks
  rw [hbehind path] at hpath hquery hfragment
  have hhash : '#' ∉ c :: (more ++ ':' :: digits s.port ++ path.toList) :=
    hash_not_mem (Option.map_eq_none_iff.1 hfragment)
  have hmark : '?' ∉ c :: (more ++ ':' :: digits s.port ++ path.toList) := by
    rw [← List.cons_append]
    intro hmem
    obtain ⟨rest, hopened⟩ := (isServerPath hp).opened
    have hfront := (List.mem_append.1 hmem).resolve_right (isServerPath hp).marks.1
    obtain ⟨q, hq, hcut⟩ := query_ne_nil hhash hfront (by simp [hopened])
    rw [List.cons_append] at hcut
    simp only [joined, hcut] at hquery
    exact hq (escape_eq_nil.1 (String.ofList_eq_empty_iff.1 hquery))
  have hslash : isSlash true c = true := by
    simp only [endsAuthority, Bool.or_eq_true, decide_eq_true_eq] at hc
    rcases hc with (hc | rfl) | rfl
    · exact hc
    · exact absurd List.mem_cons_self hmark
    · exact absurd List.mem_cons_self hhash
  simp only [joined, cutTail_of_not_mem hhash hmark] at hpath
  have hcolon := colon_mem_path hscheme.special hscheme.file hp hslash more s.port
  rw [hpath] at hcolon
  exact (serverPath_steps hp).1 hcolon

/-- Where nothing is moved and nothing added, the host has nothing else in it. -/
theorem isBare_of_joined {s : Server} {scheme path : String} (hs : scheme ∈ s.schemes)
    (hp : path ∈ serverPaths) {a : Authority} (h : s.reading = .ok a)
    (hinfo : a.user = ⟨"", none⟩)
    (hpath : (joined scheme a (s.behind path)).path.chars = path.toList)
    (hquery : (joined scheme a (s.behind path)).query.getD "" = "")
    (hfragment : (joined scheme a (s.behind path)).fragment = none) : s.IsBare := by
  have hwhole := whole_of_joined (isServerScheme_of_mem hs).1 hp hpath hquery hfragment
  rw [reading, (seenAuthority_whole hwhole).1] at h
  exact ⟨hwhole, s.seenAuthority_parts.2.1 ((readAuthority_parts h).1.symm.trans hinfo)⟩

theorem user_eq_empty {user : UserInfo} (hname : user.username = "")
    (hpassword : user.password = none) : user = ⟨"", none⟩ := by
  cases user
  exact congrArg₂ UserInfo.mk hname hpassword

theorem keeps_iff {s : Server} {scheme path : String} (hs : scheme ∈ s.schemes)
    (hp : path ∈ serverPaths) {a : Authority} (h : s.reading = .ok a) :
    s.Keeps (joined scheme a (s.behind path)) scheme path none ↔ s.IsBare := by
  refine ⟨fun hkeeps => ?_, fun hbare => keeps_of_isBare hbare hs hp h⟩
  have hplace := hkeeps.place
  exact isBare_of_joined hs hp h (user_eq_empty hplace.username_eq hplace.password_eq)
    hplace.path_eq (by rw [hplace.query_eq]; rfl) hplace.fragment_eq

theorem appendPair_eq {query : Option String} {name value : String}
    (h : appendPair query name value = String.ofList (formPair name value)) :
    query.getD "" = "" := by
  have hlength := congrArg (fun q : String => q.toList.length) h
  simp only [appendPair, String.toList_ofList, List.length_append] at hlength
  cases hempty : (query.getD "").toList.isEmpty with
  | true => exact String.toList_inj.1 (List.isEmpty_iff.1 hempty)
  | false =>
    simp only [hempty, Bool.false_eq_true, if_false, List.length_append, List.length_cons]
      at hlength
    omega

theorem parts_of_withPair {u : Url} {scheme path name value : String}
    (h : IsPlace (u.withPair name value) scheme path (some (String.ofList (formPair name value)))) :
    u.username = "" ∧ u.password = none ∧ u.path.chars = path.toList ∧ u.query.getD "" = "" ∧
      u.fragment = none :=
  ⟨h.username_eq, h.password_eq, h.path_eq, appendPair_eq (Option.some.inj h.query_eq),
    h.fragment_eq⟩

theorem Keeps.withPair {s : Server} {u : Url} {scheme path : String}
    (h : s.Keeps u scheme path none) (name value : String) :
    s.Keeps (u.withPair name value) scheme path (some (String.ofList (formPair name value))) :=
  ⟨h.place.withPair name value, h.port_eq⟩

theorem keeps_withPair_iff {s : Server} {scheme path : String} (hs : scheme ∈ s.schemes)
    (hp : path ∈ serverPaths) {a : Authority} (h : s.reading = .ok a) (name value : String) :
    s.Keeps ((joined scheme a (s.behind path)).withPair name value) scheme path
      (some (String.ofList (formPair name value))) ↔ s.IsBare := by
  refine ⟨fun hkeeps => ?_, fun hbare => (keeps_of_isBare hbare hs hp h).withPair name value⟩
  obtain ⟨hname, hpassword, hpath, hquery, hfragment⟩ := parts_of_withPair hkeeps.place
  exact isBare_of_joined hs hp h (user_eq_empty hname hpassword) hpath hquery hfragment

theorem sameAuthority_joined {x y : String} (h : Url.defaultPort x = Url.defaultPort y)
    (a : Authority) (xs ys : List Char) : SameAuthority (joined x a xs) (joined y a ys) where
  username_eq := rfl
  password_eq := rfl
  host_eq := rfl
  port_eq := congrArg a.port.or h

theorem SameAuthority.withPair {u v : Url} (h : SameAuthority u v) (name value : String) :
    SameAuthority (u.withPair name value) v :=
  ⟨h.username_eq, h.password_eq, h.host_eq, h.port_eq⟩

/-- All three URLs are refused as a mistake of the caller, or none is. If none is, they share host,
port and user info, and their schemes are those of the server. Each of them then leads to its own
place at the server's own port exactly if nothing in the host marks off another part of a URL. -/
theorem urls_of_host (s : Server) (token : Token) :
    (∃ login identity chat, s.loginUrl = .error (.config login) ∧
      s.identityUrl = .error (.config identity) ∧ s.chatUrl token = .error (.config chat)) ∨
    ∃ login identity chat, s.loginUrl = .ok login ∧ s.identityUrl = .ok identity ∧
      s.chatUrl token = .ok chat ∧
      login.scheme = s.httpScheme ∧ identity.scheme = s.httpScheme ∧
      chat.scheme = s.socketScheme ∧
      SameAuthority identity login ∧ SameAuthority chat login ∧
      (s.Keeps login s.httpScheme loginPath none ↔ s.IsBare) ∧
      (s.Keeps identity s.httpScheme identityPath none ↔ s.IsBare) ∧
      (s.Keeps chat s.socketScheme chatPath
        (some (String.ofList (formPair "token" token.text))) ↔ s.IsBare) := by
  have hhttp : s.httpScheme ∈ s.schemes := by simp [schemes]
  have hsocket : s.socketScheme ∈ s.schemes := by simp [schemes]
  have hlogin : loginPath ∈ serverPaths := by decide
  have hidentity : identityPath ∈ serverPaths := by decide
  have hchat : chatPath ∈ serverPaths := by decide
  by_cases hrefused : s.host = "" ∨ ∃ e, s.reading = .error e
  · obtain ⟨login, hlogin⟩ := url_of_refused hrefused hhttp hlogin
    obtain ⟨identity, hidentity⟩ := url_of_refused hrefused hhttp hidentity
    obtain ⟨chat, hchat⟩ := url_of_refused hrefused hsocket hchat
    exact Or.inl ⟨login, identity, chat, hlogin, hidentity, by rw [chatUrl, hchat]⟩
  · obtain ⟨hhost, hread⟩ := not_or.1 hrefused
    obtain ⟨a, ha⟩ : ∃ a, s.reading = .ok a := by
      cases hreading : s.reading with
      | error e => exact absurd ⟨e, hreading⟩ hread
      | ok a => exact ⟨a, rfl⟩
    have hsame := sameAuthority_joined (isServerScheme_of_mem hsocket).2 a (s.behind chatPath)
      (s.behind loginPath)
    exact Or.inr ⟨_, _, _, url_of_reading hhost hhttp hlogin ha,
      url_of_reading hhost hhttp hidentity ha,
      chatUrl_of_url (url_of_reading hhost hsocket hchat ha) token, rfl, rfl, rfl,
      sameAuthority_joined rfl a _ _, hsame.withPair _ _, keeps_iff hhttp hlogin ha,
      keeps_iff hhttp hidentity ha, keeps_withPair_iff hsocket hchat ha _ _⟩

/-- A slash in the host: the request goes to another port and another path. -/
theorem urls_of_host_slashed :
    ∃ login, Server.loginUrl ⟨"a/b", 3000, false⟩ = .ok login ∧
      login.text = "http://a/b:3000/api/v1/auth/login" ∧
      login.effectivePort = some 80 ∧
      login.path = .segments ["b:3000", "api", "v1", "auth", "login"] := by
  refine ⟨⟨"http", "", none, some (.name "a"), none,
    .segments ["b:3000", "api", "v1", "auth", "login"], none, none⟩, ?_, ?_, ?_, ?_⟩ <;>
    decide +kernel

end Server

end Parley
