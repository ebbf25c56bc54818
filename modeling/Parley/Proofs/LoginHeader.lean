import Parley.Proofs.Stages

/-! The header of a login, read by the other side: the text behind the name of the scheme is decoded
and cut at its first colon. The header is made of the name, a colon and the password, so that much
of it can be told from the header, and where the name ends if there is no colon in it. -/

namespace Parley

open Text

namespace Text.Base64

theorem digit_ne_equals {n : Nat} (h : n < 64) : digit n ≠ '=' := by
  revert n
  decide

theorem isHeaderText_digit {n : Nat} (h : n < 64) : ' ' ≤ digit n ∧ digit n ≠ '\x7f' := by
  revert n
  decide

/-- Three octets are four numbers below sixty-four, and these give them back. -/
theorem sextets (a b c : UInt8) :
    a.toNat / 4 < 64 ∧ a.toNat % 4 * 16 + b.toNat / 16 < 64 ∧
      b.toNat % 16 * 4 + c.toNat / 64 < 64 ∧ c.toNat % 64 < 64 := by
  have := a.toNat_lt
  have := b.toNat_lt
  have := c.toNat_lt
  omega

theorem first_octet (a b : UInt8) :
    (a.toNat / 4 * 4 + (a.toNat % 4 * 16 + b.toNat / 16) / 16).toUInt8 = a := by
  have := b.toNat_lt
  rw [show a.toNat / 4 * 4 + (a.toNat % 4 * 16 + b.toNat / 16) / 16 = a.toNat by omega]
  exact UInt8.ofNat_toNat

theorem second_octet (a b c : UInt8) :
    ((a.toNat % 4 * 16 + b.toNat / 16) % 16 * 16 + (b.toNat % 16 * 4 + c.toNat / 64) / 4).toUInt8 =
      b := by
  have := b.toNat_lt
  have := c.toNat_lt
  rw [show (a.toNat % 4 * 16 + b.toNat / 16) % 16 * 16 + (b.toNat % 16 * 4 + c.toNat / 64) / 4 =
    b.toNat by omega]
  exact UInt8.ofNat_toNat

theorem third_octet (b c : UInt8) :
    ((b.toNat % 16 * 4 + c.toNat / 64) % 4 * 64 + c.toNat % 64).toUInt8 = c := by
  have := c.toNat_lt
  rw [show (b.toNat % 16 * 4 + c.toNat / 64) % 4 * 64 + c.toNat % 64 = c.toNat by omega]
  exact UInt8.ofNat_toNat

theorem decode?_cons {w x y z : Nat} (hw : w < 64) (hx : x < 64) (hy : y < 64) (hz : z < 64)
    (cs : List Char) :
    decode? (digit w :: digit x :: digit y :: digit z :: cs) =
      (decode? cs).map fun bs => (w * 4 + x / 16).toUInt8 :: (x % 16 * 16 + y / 4).toUInt8 ::
        (y % 4 * 64 + z).toUInt8 :: bs := by
  rw [decode?.eq_4]
  · simp only [value?_digit, hw, hx, hy, hz]
    cases decode? cs <;> rfl
  · intro _ h
    exact absurd h (digit_ne_equals hz)
  · intro h
    exact absurd h (digit_ne_equals hz)

theorem decode?_encode (bs : List UInt8) : decode? (encode bs) = some bs := by
  induction bs using encode.induct with
  | case1 => rfl
  | case2 a =>
    -- The octets that are not there count as zeros.
    obtain ⟨hw, hx, -, -⟩ := sextets a 0 0
    have hfirst := first_octet a 0
    simp only [UInt8.toNat_zero, Nat.zero_div, Nat.add_zero] at hx hfirst
    simp only [encode, decode?.eq_2, value?_digit hw, value?_digit hx, Option.bind_eq_bind,
      Option.bind_some, Option.pure_def, hfirst]
  | case3 a b =>
    obtain ⟨hw, hx, hy, -⟩ := sextets a b 0
    have hsecond := second_octet a b 0
    simp only [UInt8.toNat_zero, Nat.zero_div, Nat.add_zero] at hy hsecond
    rw [encode, decode?.eq_3 _ _ _ (digit_ne_equals hy)]
    simp only [value?_digit hw, value?_digit hx, value?_digit hy, Option.bind_eq_bind,
      Option.bind_some, Option.pure_def, first_octet, hsecond]
  | case4 a b c bs ih =>
    obtain ⟨hw, hx, hy, hz⟩ := sextets a b c
    rw [encode, decode?_cons hw hx hy hz, ih, first_octet, second_octet, third_octet,
      Option.map_some]

theorem isHeaderText_encode (bs : List UInt8) :
    ∀ c ∈ encode bs, ' ' ≤ c ∧ c ≠ '\x7f' := by
  induction bs using encode.induct with
  | case1 => simp [encode]
  | case2 a =>
    obtain ⟨hw, hx, -, -⟩ := sextets a 0 0
    simp only [UInt8.toNat_zero, Nat.zero_div, Nat.add_zero] at hx
    simp only [encode, List.forall_mem_cons]
    exact ⟨isHeaderText_digit hw, isHeaderText_digit hx, by decide, by decide, by simp⟩
  | case3 a b =>
    obtain ⟨hw, hx, hy, -⟩ := sextets a b 0
    simp only [UInt8.toNat_zero, Nat.zero_div, Nat.add_zero] at hy
    simp only [encode, List.forall_mem_cons]
    exact ⟨isHeaderText_digit hw, isHeaderText_digit hx, isHeaderText_digit hy, by decide,
      by simp⟩
  | case4 a b c bs ih =>
    obtain ⟨hw, hx, hy, hz⟩ := sextets a b c
    simp only [encode, List.forall_mem_cons]
    exact ⟨isHeaderText_digit hw, isHeaderText_digit hx, isHeaderText_digit hy,
      isHeaderText_digit hz, ih⟩

end Text.Base64

namespace Http

/-- What the other side makes of a header: a name and a password. -/
def basicPair? (header : String) : Option (String × String) :=
  let scheme := "Basic ".toList
  if scheme.isPrefixOf header.toList then do
    let text ← ofOctets? (← Base64.decode? (header.toList.drop scheme.length))
    let (name, password) := Url.cutAt ':' text.toList
    return (String.ofList name, String.ofList password)
  else none

theorem toList_basic (name password : String) :
    (basic name password).toList =
      "Basic ".toList ++ Base64.encode (octets (name ++ ":" ++ password)) := by
  simp only [basic, String.toList_append, String.toList_ofList]

theorem basicPair?_basic (name password : String) :
    basicPair? (basic name password) =
      some ((fun p => (String.ofList p.1, String.ofList p.2))
        (Url.cutAt ':' (name.toList ++ ':' :: password.toList))) := by
  have hscheme : "Basic ".toList.isPrefixOf (basic name password).toList = true := by
    rw [toList_basic, List.isPrefixOf_iff_prefix]
    exact List.prefix_append _ _
  have hcode : (basic name password).toList.drop "Basic ".toList.length =
      Base64.encode (octets (name ++ ":" ++ password)) := by
    rw [toList_basic, List.drop_left]
  have htext : (name ++ ":" ++ password).toList = name.toList ++ ':' :: password.toList := by
    simp
  simp only [basicPair?, hscheme, if_true, hcode, Base64.decode?_encode, Option.bind_eq_bind,
    Option.bind_some, ofOctets?_octets, htext]
  rfl

/-- The name is told from the password exactly if there is no colon in it. -/
theorem basicPair?_eq_iff (name password : String) :
    basicPair? (basic name password) = some (name, password) ↔ ':' ∉ name.toList := by
  rw [basicPair?_basic]
  constructor
  · intro h hmem
    have hname := (Prod.mk.inj (Option.some.inj h)).1
    rw [← hname, String.toList_ofList] at hmem
    have := List.mem_takeWhile_imp hmem
    simp at this
  · intro h
    simp [Url.cutAt_append h]

theorem isHeaderText_basic (name password : String) :
    isHeaderText (basic name password) = true := by
  rw [isHeaderText, List.all_eq_true, toList_basic]
  intro c hc
  rcases List.mem_append.1 hc with hc | hc
  · have hall : "Basic ".toList.all
        (fun d => decide (d = '\t') || decide (' ' ≤ d) && decide (d ≠ '\x7f')) = true := by
      decide
    exact List.all_eq_true.1 hall c hc
  · have := Base64.isHeaderText_encode _ c hc
    simp [this]

end Http

namespace Credentials

def header (c : Credentials) : String := Http.basic c.username c.password

/-- What the other side can tell from the header of a login: the name and the password if there is
no colon in the name, and only then. The header can always be sent, and the first request of a login
has it, behind one for the user info in the host if there is any. -/
theorem header_read (c : Credentials) :
    Http.isHeaderText c.header = true ∧
      (∀ (s : Server) (net : Network) (remote : Http.Remote),
        ∃ qs, (s.login net c remote).2 = remote.advance qs ∧
          ∀ q ∈ qs.head?, q.authorization.getLast? = some c.header ∧
            (s.IsPlain → q.authorization = [c.header])) ∧
      (Http.basicPair? c.header = some (c.username, c.password) ↔ ':' ∉ c.username.toList) ∧
      ∀ d : Credentials, ':' ∉ c.username.toList → ':' ∉ d.username.toList →
        c.header = d.header → c.username = d.username ∧ c.password = d.password := by
  refine ⟨Http.isHeaderText_basic _ _, fun s net remote => ?_, Http.basicPair?_eq_iff _ _, ?_⟩
  · obtain ⟨qs, hremote, hfirst⟩ :=
      Server.call_first net s.loginUrl c.header Token.ofAnswer remote
    refine ⟨qs, hremote, fun q hq => ⟨(hfirst q hq).1, fun hplain => (hfirst q hq).2 ?_⟩⟩
    intro place hplace
    exact (Server.url_isPlace hplain s.httpScheme_mem (by decide) hplace).userInfo
  · intro d hc hd hsame
    have hread := (Http.basicPair?_eq_iff c.username c.password).2 hc
    have hread' := (Http.basicPair?_eq_iff d.username d.password).2 hd
    rw [← header, hsame, header, hread'] at hread
    obtain ⟨hname, hpassword⟩ := Prod.mk.inj (Option.some.inj hread)
    exact ⟨hname.symm, hpassword.symm⟩

theorem header_read_password :
    ':' ∉ "ada".toList ∧
      Http.basicPair? (header ⟨"ada", "b:c", by decide, by decide⟩) = some ("ada", "b:c") :=
  have hname : ':' ∉ "ada".toList := by decide
  ⟨hname, (header_read ⟨"ada", "b:c", by decide, by decide⟩).2.2.1.2 hname⟩

/-- A name with a colon in it is accepted, and goes by the header of another one. -/
theorem header_of_colon :
    ∃ c d : Credentials, make "a:b" "c" = .ok c ∧ make "a" "b:c" = .ok d ∧ c.header = d.header ∧
      c.username ≠ d.username ∧ Http.basicPair? c.header = some (d.username, d.password) :=
  ⟨⟨"a:b", "c", by decide, by decide⟩, ⟨"a", "b:c", by decide, by decide⟩, rfl, rfl, by
    decide +kernel, by decide, by decide +kernel⟩

end Credentials

end Parley
