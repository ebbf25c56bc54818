import Parley.Proofs.MessageForm
import Parley.Proofs.Stages

/-! What the two calls before a connection make of their final answers. The status comes first, and
the two calls do not accept the same ones; only then the body counts, which has to be a document of
the form that the call asks for. Whatever else an answer is, it falls under one failure. -/

namespace Parley

open Json

def Token.Form (d : Doc) (t : Token) : Prop :=
  ∃ v, d.Fields [["token"]] [some v] ∧ v.IsText t.text

def User.OwnerForm (d : Doc) (u : User) : Prop :=
  ∃ v, d.Fields [["user"]] [some v] ∧ User.Form (depthLimit - 1) v u

/-- The answer came whole, and its body is one document of the form of the value. -/
def Http.Answer.Gives {α : Type} (a : Http.Answer) (form : Doc → α → Prop) (x : α) : Prop :=
  a.complete = true ∧ ∃ d : Doc, d.IsWhole (Text.mended strayOctets a.body) ∧ form d x

theorem bodyOf?_eq_some {draft α : Type} {title : String} {schema : Schema draft α}
    {form : Doc → α → Prop} (h : Reads (record title (some schema)) form) (a : Http.Answer)
    (x : α) : bodyOf? title schema a = some x ↔ a.Gives form x := by
  unfold bodyOf? Http.Answer.Gives
  rw [← h.readText_eq_ok]
  split
  · rename_i hcomplete
    cases readText (record title (some schema)) (Text.mended strayOctets a.body) with
    | error e => simp [Except.toOption]
    | ok y => simp [Except.toOption, hcomplete]
  · rename_i hcut
    constructor
    · intro h
      simp at h
    · rintro ⟨hcomplete, -⟩
      exact absurd hcomplete hcut

def LoginDraft.columns : List (Column LoginDraft) :=
  [.of "token" LoginDraft.token (fun d s => { d with token := some s }) reads_string fun _ _ => rfl]

theorem loginSchema_finish {d : LoginDraft} {t : Token} :
    loginSchema.finish d = .ok t ↔ d = ⟨some t.text⟩ := by
  obtain ⟨token⟩ := d
  obtain ⟨text⟩ := t
  simp [loginSchema, bind_eq_ok, pure, Except.pure]

theorem loginSchema_table : Table loginSchema LoginDraft.columns where
  slots := rfl
  apart := by simp [LoginDraft.columns]
  blank := by simp [LoginDraft.columns, Column.of, loginSchema]
  ext := by
    rintro ⟨_⟩ ⟨_⟩
    simp [LoginDraft.columns, Column.of]
  required := by simp [LoginDraft.columns, Column.of, loginSchema_finish]

theorem loginSchema_reads (title : String) :
    Reads (record title (some loginSchema)) Token.Form :=
  (loginSchema_table.reads title).congr fun d t => by
    simp [Column.Form, LoginDraft.columns, List.forall₂_cons_left_iff, loginSchema_finish,
      Column.of, Column.given_iff, rel_some_iff, Column.names, Token.Form]

def IdentityDraft.columns : List (Column IdentityDraft) :=
  [.of "user" IdentityDraft.user (fun d u => { d with user := some u })
    (User.reader_reads (depthLimit - 1)) fun _ _ => rfl]

theorem identitySchema_finish {d : IdentityDraft} {u : User} :
    identitySchema.finish d = .ok u ↔ d = ⟨some u⟩ := by
  obtain ⟨user⟩ := d
  simp [identitySchema, present_eq_ok]

theorem identitySchema_table : Table identitySchema IdentityDraft.columns where
  slots := rfl
  apart := by simp [IdentityDraft.columns]
  blank := by simp [IdentityDraft.columns, Column.of, identitySchema]
  ext := by
    rintro ⟨_⟩ ⟨_⟩
    simp [IdentityDraft.columns, Column.of]
  required := by simp [IdentityDraft.columns, Column.of, identitySchema_finish]

theorem identitySchema_reads (title : String) :
    Reads (record title (some identitySchema)) User.OwnerForm :=
  (identitySchema_table.reads title).congr fun d u => by
    simp [Column.Form, IdentityDraft.columns, List.forall₂_cons_left_iff, identitySchema_finish,
      Column.of, Column.given_iff, rel_some_iff, Column.names, User.OwnerForm]

/-- What a call makes of an answer. Without an accepted status it is a rejection, whatever the body;
with one the result is what the body gives, and a body that gives nothing is unexpected. Only a
rejection has the status of the answer. -/
structure Judges {α : Type} (call : Call) (accepted : Prop) (gives : α → Prop) (status : Nat)
    (result : Except Failure α) : Prop where
  rejected : ¬ accepted → result = .error (.auth call status (Http.reason status))
  ok_iff : ∀ x, result = .ok x ↔ accepted ∧ gives x
  unexpected : accepted → (∀ x, ¬ gives x) → ∃ text, result = .error (.unexpectedResponse text)
  status_iff : ∀ f, result = .error f →
    (f.status = some status ↔ ¬ accepted) ∧ (f.status = none ↔ accepted)

variable {α : Type} {call : Call} {accepted : Prop} {gives : α → Prop} {status : Nat}

theorem judges_rejected (h : ¬ accepted) :
    Judges call accepted gives status (.error (rejected call status)) where
  rejected _ := rfl
  ok_iff x := by simp [h]
  unexpected hacc := absurd hacc h
  status_iff := by
    rintro f ⟨⟩
    simp [Failure.status, rejected, h]

theorem judges_refused (h : accepted) (hnone : ∀ x, ¬ gives x) (text : String) :
    Judges call accepted gives status (.error (.unexpectedResponse text)) where
  rejected hnot := absurd h hnot
  ok_iff x := by simp [hnone]
  unexpected _ _ := ⟨text, rfl⟩
  status_iff := by
    rintro f ⟨⟩
    simp [Failure.status, h]

theorem judges_given (h : accepted) {x : α} (hx : gives x) (honly : ∀ y, gives y → x = y) :
    Judges call accepted gives status (.ok x) where
  rejected hnot := absurd h hnot
  ok_iff y := by
    constructor
    · rintro ⟨⟩
      exact ⟨h, hx⟩
    · rintro ⟨-, hy⟩
      rw [honly y hy]
  unexpected _ hnone := absurd hx (hnone x)
  status_iff f hf := by simp at hf

theorem Token.ofAnswer_judges (a : Http.Answer) :
    Judges .login (200 ≤ a.status ∧ a.status < 300)
      (fun t => t.text ≠ "" ∧ a.Gives Token.Form t) a.status (Token.ofAnswer a) := by
  have hbody := bodyOf?_eq_some (loginSchema_reads "struct LoginResponse") a
  have hsuccess : Http.isSuccess a.status = true ↔ 200 ≤ a.status ∧ a.status < 300 := by
    simp [Http.isSuccess]
  unfold ofAnswer
  split
  · rename_i hstatus
    exact judges_rejected (mt hsuccess.2 hstatus)
  rename_i hstatus
  have hacc := hsuccess.1 (not_not.1 hstatus)
  split
  · rename_i hnone
    refine judges_refused hacc ?_ _
    rintro t ⟨-, ht⟩
    exact absurd (hnone.symm.trans ((hbody t).2 ht)) (by simp)
  rename_i t ht
  have honly : ∀ u, a.Gives Form u → t = u :=
    fun u hu => Option.some.inj (ht.symm.trans ((hbody u).2 hu))
  split
  · rename_i hempty
    refine judges_refused hacc ?_ _
    rintro u ⟨hu, hgives⟩
    exact hu (honly u hgives ▸ String.isEmpty_iff.1 hempty)
  · rename_i hfull
    exact judges_given hacc ⟨fun h => hfull (String.isEmpty_iff.2 h), (hbody t).1 ht⟩
      fun u hu => honly u hu.2

theorem User.ofAnswer_judges (a : Http.Answer) :
    Judges .identity (a.status = 200)
      (fun u => u.id ≠ "" ∧ u.name ≠ "" ∧ a.Gives User.OwnerForm u) a.status
      (User.ofAnswer a) := by
  have hbody := bodyOf?_eq_some (identitySchema_reads "struct MeResponse") a
  unfold ofAnswer
  split
  · rename_i hstatus
    exact judges_rejected hstatus
  rename_i hstatus
  have hacc := not_not.1 hstatus
  split
  · rename_i hnone
    refine judges_refused hacc ?_ _
    rintro u ⟨-, -, hu⟩
    exact absurd (hnone.symm.trans ((hbody u).2 hu)) (by simp)
  rename_i u hu
  have honly : ∀ v, a.Gives OwnerForm v → u = v :=
    fun v hv => Option.some.inj (hu.symm.trans ((hbody v).2 hv))
  simp only [String.isEmpty_iff]
  split
  · rename_i hempty
    refine judges_refused hacc ?_ _
    rintro v ⟨hid, hname, hgives⟩
    obtain rfl := honly v hgives
    exact hempty.elim hid hname
  · rename_i hfull
    rw [not_or] at hfull
    exact judges_given hacc ⟨hfull.1, hfull.2, (hbody u).1 hu⟩ fun v hv => honly v hv.2.2

/-- Whatever the final answer to a call is, the call comes to one outcome. A login accepts every
status that tells of success, and its token is not empty; an identity accepts one status only, and
neither the id nor the name of its user is empty. -/
theorem Server.answers_judged (s : Server) (net : Network) (remote : Http.Remote)
    (a : Http.Answer) :
    (∀ (c : Credentials) (place : Url), s.loginUrl = .ok place →
      (Http.get net place (Http.basic c.username c.password) remote).1 = .ok a →
      Judges .login (200 ≤ a.status ∧ a.status < 300)
        (fun t : Token => t.text ≠ "" ∧ a.Gives Token.Form t) a.status (s.login net c remote).1) ∧
    ∀ (t : Token) (place : Url), s.identityUrl = .ok place →
      (Http.get net place (Http.bearer t.text) remote).1 = .ok a →
      Judges .identity (a.status = 200)
        (fun u : User => u.id ≠ "" ∧ u.name ≠ "" ∧ a.Gives User.OwnerForm u) a.status
        (s.identify net t remote).1 := by
  constructor
  · intro c place hurl hanswer
    rw [login, hurl, call_of_ok net Token.ofAnswer hanswer]
    exact Token.ofAnswer_judges a
  · intro t place hurl hanswer
    rw [identify, hurl, call_of_ok net User.ofAnswer hanswer]
    exact User.ofAnswer_judges a

/-- A login beside a member that is not known and whose value is no text. -/
def strayLogin : Http.Answer :=
  ⟨201, none, none, none, true,
    Text.octets "\x7b\"seen\":\"" ++ 255 :: Text.octets "\",\"token\":\"t\"\x7d", true⟩

/-- An identity with another status than the one that is accepted. -/
def movedIdentity : Http.Answer :=
  ⟨203, none, none, none, true, Text.octets "\x7b\"user\":[\"u1\",\"ada\"]\x7d", true⟩

def Credentials.ada : Credentials := ⟨"ada", "secret", by decide, by decide⟩

def standardPlace (parts : List String) : Url :=
  ⟨"http", "", none, some (.octets 0), some 3000, .segments parts, none, none⟩

theorem Server.answers_judged_stray :
    strayLogin.Gives Token.Form ⟨"t"⟩ ∧
      (Server.standard.login Manager.everywhere .ada (.ofReplies [.answer strayLogin])).1 =
        .ok ⟨"t"⟩ ∧
      (Server.standard.identify Manager.everywhere ⟨"t"⟩ (.ofReplies [.answer movedIdentity])).1 =
        .error (.auth .identity 203 "Non Authoritative Information") := by
  have hlogin : Server.standard.loginUrl =
      .ok (standardPlace ["api", "v1", "auth", "login"]) := by
    decide +kernel
  have hidentity : Server.standard.identityUrl =
      .ok (standardPlace ["api", "v1", "auth", "me"]) := by
    decide +kernel
  have htoken : (Server.standard.login Manager.everywhere .ada
      (.ofReplies [.answer strayLogin])).1 = .ok ⟨"t"⟩ := by
    decide +kernel
  have hstray := (Server.answers_judged .standard Manager.everywhere
    (.ofReplies [.answer strayLogin]) strayLogin).1 .ada _ hlogin (by decide +kernel)
  have hmoved := (Server.answers_judged .standard Manager.everywhere
    (.ofReplies [.answer movedIdentity]) movedIdentity).2 ⟨"t"⟩ _ hidentity (by decide +kernel)
  exact ⟨((hstray.ok_iff _).1 htoken).2.2, htoken, hmoved.rejected (by decide)⟩

end Parley
