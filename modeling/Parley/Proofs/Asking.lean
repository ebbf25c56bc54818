import Mathlib.Data.List.Forall2
import Parley.Proofs.Script

/-! A call that is made twice, by two askers and to two servers whose replies mean the same. Its
result is the same, and so are its requests but for the header that says who is asking. A handshake
says nothing of that, and how far it gets is up to the reply to its one request. -/

namespace Parley

namespace Http

/-- Header values of two requests that are made in the name of different askers. What a URL has
brought stands in front of the asker's own value, and on the way to another place all of them are
left out. -/
inductive Resigned (own other : String) : List String → List String → Prop
  | dropped : Resigned own other [] []
  | signed (front : List String) : Resigned own other (front ++ [own]) (front ++ [other])

theorem Resigned.eq {own : String} {mine yours : List String} (h : Resigned own own mine yours) :
    yours = mine := by
  cases h <;> rfl

structure Request.Resigned (own other : String) (q r : Request) : Prop where
  path : r.path = q.path
  upgrade : r.upgrade = q.upgrade
  authorization : Http.Resigned own other q.authorization r.authorization

theorem Request.Resigned.eq {own : String} {qs rs : List Request}
    (h : List.Forall₂ (Request.Resigned own own) qs rs) : rs = qs := by
  induction h with
  | nil => rfl
  | @cons q r qs rs hq _ ih =>
    obtain ⟨hpath, hupgrade, hsigned⟩ := hq
    obtain ⟨path, authorization, upgrade⟩ := q
    obtain ⟨path', authorization', upgrade'⟩ := r
    simp only at hpath hupgrade hsigned
    rw [ih, hpath, hupgrade, hsigned.eq]

theorem Resigned.request {own other : String} {mine yours : List String}
    (h : Resigned own other mine yours) (path : String) :
    Request.Resigned own other ⟨path, mine, none⟩ ⟨path, yours, none⟩ :=
  ⟨rfl, rfl, h⟩

/-- Scripts that mean the same to plain requests. -/
def Same (replies others : List Reply) : Prop :=
  List.Forall₂ (fun x y => Reply.final? y = Reply.final? x) replies others

theorem Same.refl (replies : List Reply) : Same replies replies :=
  List.forall₂_same.2 fun _ _ => rfl

theorem Same.head {replies others : List Reply} (h : Same replies others) :
    (others.headD .dropped).final? = (replies.headD .dropped).final? := by
  cases h with
  | nil => rfl
  | cons h _ => exact h

theorem Same.advance {r s : Remote} (h : Same r.replies s.replies) {qs rs : List Request}
    (hlength : rs.length = qs.length) : Same (r.advance qs).replies (s.advance rs).replies := by
  rw [Remote.advance, Remote.advance, hlength]
  exact List.forall₂_drop _ h

theorem Same.ask {r s : Remote} (h : Same r.replies s.replies) {q : Request} (q' : Request)
    {reply : Reply} {after : Remote} (hask : r.ask q = (reply, after)) :
    after = r.advance [q] ∧
      ∃ other, s.ask q' = (other, s.advance [q']) ∧ other.final? = reply.final? := by
  rw [Remote.ask_eq, Prod.mk.injEq] at hask
  obtain ⟨rfl, rfl⟩ := hask
  exact ⟨rfl, _, Remote.ask_eq _ _, h.head⟩

/-- The same result, of the same requests but for the name in which they are made. -/
inductive Twice (own other : String) (r s : Remote) {α : Type} : α × Remote → α × Remote → Prop
  | made (result : α) {qs rs : List Request}
      (h : List.Forall₂ (Request.Resigned own other) qs rs) :
      Twice own other r s (result, r.advance qs) (result, s.advance rs)

section Twice

variable {own other : String} {r s : Remote} {α : Type}

theorem Twice.silent (result : α) : Twice own other r s (result, r) (result, s) := by
  have h : Twice own other r s (result, r.advance []) (result, s.advance []) := .made result .nil
  rwa [Remote.advance_nil, Remote.advance_nil] at h

theorem Twice.behind {q q' : Request} (hq : Request.Resigned own other q q') {a b : α × Remote}
    (h : Twice own other (r.advance [q]) (s.advance [q']) a b) : Twice own other r s a b := by
  cases h with
  | made result h =>
    rw [Remote.advance_advance, Remote.advance_advance]
    exact .made result (.cons hq h)

/-- Where a redirect leads does not hang on who asks, nor does whether that is told there. -/
theorem follow_twice (net : Network) (hops : Nat) (url : Url) {mine yours : List String}
    (hsigned : Resigned own other mine yours) (h : Same r.replies s.replies) :
    Twice own other r s (follow net hops url mine r) (follow net hops url yours s) := by
  fun_induction follow net hops url mine r generalizing yours s with
  | case1 hops url mine r problem htarget =>
    unfold follow
    simp only [htarget]
    exact .silent _
  | case2 hops url mine r target htarget reason hroute =>
    unfold follow
    simp only [htarget, hroute]
    exact .silent _
  | case3 hops url mine r target htarget hroute reply after hask hfinal =>
    obtain ⟨rfl, other, hother, hsame⟩ := h.ask ⟨target.path, yours, none⟩ hask
    unfold follow
    simp only [htarget, hroute, hother, hsame, hfinal]
    exact .behind (hsigned.request target.path) (.silent _)
  | case4 hops url mine r target htarget hroute reply after hask a hfinal hnext =>
    obtain ⟨rfl, other, hother, hsame⟩ := h.ask ⟨target.path, yours, none⟩ hask
    unfold follow
    simp only [htarget, hroute, hother, hsame, hfinal, hnext]
    exact .behind (hsigned.request target.path) (.silent _)
  | case5 url mine r target htarget hroute reply after hask a hfinal next hnext =>
    obtain ⟨rfl, other, hother, hsame⟩ := h.ask ⟨target.path, yours, none⟩ hask
    unfold follow
    simp only [htarget, hroute, hother, hsame, hfinal, hnext]
    exact .behind (hsigned.request target.path) (.silent _)
  | case6 url mine r target htarget hroute reply after hask a hfinal next hops hnext ih =>
    obtain ⟨rfl, other, hother, hsame⟩ := h.ask ⟨target.path, yours, none⟩ hask
    have hon : follow net (hops + 1) url yours s =
        follow net hops next (if samePlace url next then yours else [])
          (s.advance [⟨target.path, yours, none⟩]) := by
      rw [follow]
      simp only [htarget, hroute, hother, hsame, hfinal, hnext]
    rw [hon]
    refine .behind (hsigned.request target.path) (ih ?_ (h.advance rfl))
    split
    · exact hsigned
    · exact .dropped

theorem get_twice (net : Network) (url : Url) (hheader : isHeaderText other = isHeaderText own)
    (h : Same r.replies s.replies) :
    Twice own other r s (get net url own r) (get net url other s) := by
  unfold get
  rw [hheader]
  split
  · exact .silent _
  split
  · exact follow_twice net hopLimit _ (.signed [_]) h
  · exact follow_twice net hopLimit url (.signed []) h

end Twice

end Http

open Http

theorem Server.call_twice {α : Type} (net : Network) (url : Except Failure Url)
    {own other : String} (hheader : isHeaderText other = isHeaderText own)
    (meaning : Answer → Except Failure α) {r s : Remote} (h : Same r.replies s.replies) :
    Twice own other r s (call net url own meaning r) (call net url other meaning s) := by
  unfold call
  cases url with
  | error f => exact .silent _
  | ok place =>
    have hget := get_twice net place hheader h
    simp only
    generalize get net place own r = a at hget ⊢
    generalize get net place other s = b at hget ⊢
    cases hget with
    | made result hqs =>
      cases result with
      | error m => exact .made _ hqs
      | ok answer => exact .made _ hqs

theorem Server.call_same {α : Type} (net : Network) (url : Except Failure Url)
    (authorization : String) (meaning : Answer → Except Failure α) {r s : Remote}
    (h : Same r.replies s.replies) :
    ∃ result qs, call net url authorization meaning r = (result, r.advance qs) ∧
      call net url authorization meaning s = (result, s.advance qs) := by
  have htwice := call_twice net url (rfl : isHeaderText authorization = _) meaning h
  generalize call net url authorization meaning r = a at htwice ⊢
  generalize call net url authorization meaning s = b at htwice ⊢
  cases htwice with
  | @made result qs rs hqs =>
    obtain rfl := Request.Resigned.eq hqs
    exact ⟨result, rs, rfl, rfl⟩

theorem Server.identify_same (server : Server) (net : Network) (token : Token) {r s : Remote}
    (h : Same r.replies s.replies) :
    ∃ result qs, server.identify net token r = (result, r.advance qs) ∧
      server.identify net token s = (result, s.advance qs) :=
  call_same net _ _ _ h

theorem Server.login_same (server : Server) (net : Network) (c : Credentials) {r s : Remote}
    (h : Same r.replies s.replies) :
    ∃ result qs, server.login net c r = (result, r.advance qs) ∧
      server.login net c s = (result, s.advance qs) :=
  call_same net _ _ _ h

/-- A handshake is refused without being asked for, or it goes by the reply to one request. -/
theorem Socket.handshake_uniform (net : Network) (url : Url) :
    (∃ refusal, ∀ remote, handshake net url remote = (.error refusal, remote)) ∨
      ∃ q, ∀ remote, handshake net url remote =
        (Refusal.judge (remote.replies.headD .dropped), remote.advance [q]) := by
  unfold handshake
  split
  · exact Or.inl ⟨_, fun _ => rfl⟩
  rename_i target _
  split
  · exact Or.inl ⟨_, fun _ => rfl⟩
  split
  · exact Or.inl ⟨_, fun _ => rfl⟩
  split
  · exact Or.inl ⟨_, fun _ => rfl⟩
  · refine Or.inr ⟨⟨target.path, [], some "websocket"⟩, fun remote => ?_⟩
    simp only [Remote.ask_eq]

end Parley
