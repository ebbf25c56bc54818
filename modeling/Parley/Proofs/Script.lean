import Parley.Proofs.Place
import Parley.Server.Calls
import Parley.Socket.Handshake

/-! Requests against a script of replies. Each request takes the next reply, so what a call does is
told by the requests it made: all but the last were answered with a redirect, which the next one
follows, and the answer to the last one is what the call goes by. -/

namespace Parley

namespace Http

def Remote.advance (r : Remote) (qs : List Request) : Remote :=
  ⟨r.replies.drop qs.length, r.requests ++ qs⟩

theorem Remote.advance_nil (r : Remote) : r.advance [] = r := by
  rw [advance, List.append_nil, List.length_nil, List.drop_zero]

theorem Remote.advance_advance (r : Remote) (qs rs : List Request) :
    (r.advance qs).advance rs = r.advance (qs ++ rs) := by
  simp [advance, List.drop_drop]

theorem Remote.ask_eq (r : Remote) (q : Request) :
    r.ask q = (r.replies.headD .dropped, r.advance [q]) := by
  simp [ask, advance]

/-- No request can be made for the place, or its host cannot be reached. -/
def Unaskable (net : Network) (place : Url) : Prop :=
  (∃ problem, Target.ofUrl place = .error problem) ∨
    ∃ target secure port reason, Target.ofUrl place = .ok target ∧
      net.route secure target.host port = .failed reason

/-- The final answer to the last of some requests. -/
def answer? (script : List Reply) : List Request → Option Answer
  | [] => none
  | [_] => script.head?.bind Reply.final?
  | _ :: qs => answer? script.tail qs

/-- Requests from a place on, each behind the first following the redirect of the one before. Who
asks may be told to the next place or not. -/
inductive Trail : Url → List String → List Reply → List Request → Prop
  | silent (place : Url) (authorization : List String) (script : List Reply) :
    Trail place authorization script []
  | asked {place : Url} {target : Target} (authorization : List String) (script : List Reply)
    (htarget : Target.ofUrl place = .ok target) :
    Trail place authorization script [⟨target.path, authorization, none⟩]
  | redirected {place next : Url} {target : Target} {authorization told : List String}
    {script : List Reply} {a : Answer} {qs : List Request}
    (htarget : Target.ofUrl place = .ok target)
    (hanswer : script.head?.bind Reply.final? = some a) (hnext : a.next? place = some next)
    (htold : told = authorization ∨ told = []) (htrail : Trail next told script.tail qs) :
    Trail place authorization script (⟨target.path, authorization, none⟩ :: qs)

/-- What a call came to: the requests of a trail, and the last answer unless that leads on. There is
no request only where none can be made. -/
structure Follows (net : Network) (place : Url) (authorization : List String) (script : List Reply)
    (qs : List Request) (result : Except Mishap Answer) : Prop where
  trail : Trail place authorization script qs
  silent : qs = [] → Unaskable net place
  answered : ∀ a, result = .ok a → answer? script qs = some a
  unanswered : ∀ m, result = .error m → ∀ a, answer? script qs = some a → isRedirect a.status = true

theorem Remote.of_ask {r after : Remote} {q : Request} {reply : Reply}
    (h : r.ask q = (reply, after)) :
    after = r.advance [q] ∧ r.replies.head?.bind Reply.final? = reply.final? := by
  rw [ask_eq, Prod.mk.injEq] at h
  obtain ⟨rfl, rfl⟩ := h
  refine ⟨rfl, ?_⟩
  cases r.replies <;> rfl

theorem status_of_next {a : Answer} {place next : Url} (h : a.next? place = some next) :
    isRedirect a.status = true := by
  unfold Answer.next? at h
  split at h
  · assumption
  · simp at h

theorem Follows.of_unaskable {net : Network} {place : Url} (h : Unaskable net place)
    (authorization : List String) (script : List Reply) (m : Mishap) :
    Follows net place authorization script [] (.error m) where
  trail := .silent _ _ _
  silent _ := h
  answered a h := by simp at h
  unanswered _ _ a h := by simp [answer?] at h

theorem Follows.redirected {net : Network} {place next : Url} {target : Target}
    {authorization told : List String} {script : List Reply} {a : Answer} {qs : List Request}
    {result : Except Mishap Answer}
    (h : Follows net next told script.tail qs result) (htarget : Target.ofUrl place = .ok target)
    (hanswer : script.head?.bind Reply.final? = some a) (hnext : a.next? place = some next)
    (htold : told = authorization ∨ told = []) :
    Follows net place authorization script (⟨target.path, authorization, none⟩ :: qs) result where
  trail := .redirected htarget hanswer hnext htold h.trail
  silent hnil := by simp at hnil
  answered b hb := by
    cases qs with
    | nil => simpa [answer?] using h.answered b hb
    | cons q qs => exact h.answered b hb
  unanswered m hm b hb := by
    cases qs with
    | nil =>
      rw [answer?, hanswer] at hb
      exact Option.some.inj hb ▸ status_of_next hnext
    | cons q qs => exact h.unanswered m hm b hb

theorem follow_follows (net : Network) (hops : Nat) (place : Url) (authorization : List String)
    (remote : Remote) :
    ∃ qs, (follow net hops place authorization remote).2 = remote.advance qs ∧
      qs.length ≤ hops + 1 ∧
      Follows net place authorization remote.replies qs
        (follow net hops place authorization remote).1 := by
  fun_induction follow net hops place authorization remote with
  | case1 hops place authorization remote problem htarget =>
    exact ⟨[], remote.advance_nil.symm, Nat.zero_le _, .of_unaskable (.inl ⟨_, htarget⟩) _ _ _⟩
  | case2 hops place authorization remote target htarget reason hroute =>
    have hfails : Unaskable net place := .inr ⟨_, _, _, _, htarget, hroute⟩
    exact ⟨[], remote.advance_nil.symm, Nat.zero_le _, .of_unaskable hfails _ _ _⟩
  | case3 hops place authorization remote target htarget hroute reply after hask hfinal =>
    obtain ⟨hafter, hanswer⟩ := Remote.of_ask hask
    refine ⟨_, hafter, Nat.succ_le_succ (Nat.zero_le _), .asked _ _ htarget, by simp, ?_, ?_⟩
    · intro a h
      simp at h
    · intro m _ a h
      rw [answer?, hanswer, hfinal] at h
      simp at h
  | case4 hops place authorization remote target htarget hroute reply after hask a hfinal hnext =>
    obtain ⟨hafter, hanswer⟩ := Remote.of_ask hask
    refine ⟨_, hafter, Nat.succ_le_succ (Nat.zero_le _), .asked _ _ htarget, by simp, ?_, ?_⟩
    · rintro _ ⟨⟩
      rw [answer?, hanswer, hfinal]
    · intro m h
      simp at h
  | case5 place authorization remote target htarget hroute reply after hask a hfinal next hnext =>
    obtain ⟨hafter, hanswer⟩ := Remote.of_ask hask
    refine ⟨_, hafter, Nat.le_refl 1, .asked _ _ htarget, by simp, ?_, ?_⟩
    · intro b h
      simp at h
    · intro m _ b h
      rw [answer?, hanswer, hfinal] at h
      rw [← Option.some.inj h]
      exact status_of_next hnext
  | case6 place authorization remote target htarget hroute reply after hask a hfinal next hops hnext
      ih =>
    obtain ⟨rfl, hanswer⟩ := Remote.of_ask hask
    obtain ⟨qs, hremote, hlength, hfollows⟩ := ih
    refine ⟨_ :: qs, hremote.trans (Remote.advance_advance _ _ _), Nat.succ_le_succ hlength, ?_⟩
    have htail : (remote.advance [⟨target.path, authorization, none⟩]).replies =
        remote.replies.tail := List.drop_one
    refine Follows.redirected (htail ▸ hfollows) htarget (hanswer.trans hfinal) hnext ?_
    split
    · exact Or.inl rfl
    · exact Or.inr rfl

theorem Trail.first {place : Url} {authorization : List String} {script : List Reply}
    {qs : List Request} (h : Trail place authorization script qs) :
    ∀ q ∈ qs.head?, ∃ target, Target.ofUrl place = .ok target ∧
      q = ⟨target.path, authorization, none⟩ := by
  cases h with
  | silent => intro q hq; simp at hq
  | asked _ _ htarget =>
    rintro q ⟨⟩
    exact ⟨_, htarget, rfl⟩
  | redirected htarget =>
    rintro q ⟨⟩
    exact ⟨_, htarget, rfl⟩

/-- What a call begins with: who asks is told behind the user info of the URL, if it has any. -/
theorem get_first (net : Network) (place : Url) (authorization : String) (remote : Remote) :
    ∃ qs, (get net place authorization remote).2 = remote.advance qs ∧
      ∀ q ∈ qs.head?, q.authorization.getLast? = some authorization ∧
        (userInfo? place = none → q.authorization = [authorization]) := by
  unfold get
  split
  · exact ⟨[], remote.advance_nil.symm, fun q hq => by simp at hq⟩
  split
  · rename_i name password huser
    obtain ⟨qs, hremote, -, hfollows⟩ := follow_follows net hopLimit place.withoutUserInfo
      [basic name (password.getD ""), authorization] remote
    refine ⟨qs, hremote, fun q hq => ?_⟩
    obtain ⟨target, -, rfl⟩ := hfollows.trail.first q hq
    exact ⟨rfl, fun hnone => absurd (huser.symm.trans hnone) (by simp)⟩
  · obtain ⟨qs, hremote, -, hfollows⟩ := follow_follows net hopLimit place [authorization] remote
    refine ⟨qs, hremote, fun q hq => ?_⟩
    obtain ⟨target, -, rfl⟩ := hfollows.trail.first q hq
    exact ⟨rfl, fun _ => rfl⟩

end Http

namespace Socket

open Http

/-- A handshake makes one request, and the reply to it decides; otherwise it fails without asking.
-/
theorem handshake_cases (net : Network) (url : Url) (remote : Remote) :
    (∃ refusal, handshake net url remote = (.error refusal, remote) ∧
        (Unaskable net url ∨
          ∃ target, Target.ofUrl url = .ok target ∧ isScheme target.scheme = false)) ∨
      ∃ target, Target.ofUrl url = .ok target ∧
        handshake net url remote =
          (Refusal.judge (remote.replies.headD .dropped),
            remote.advance [⟨target.path, [], some "websocket"⟩]) := by
  unfold handshake
  split
  · rename_i problem htarget
    exact Or.inl ⟨_, rfl, Or.inl (.inl ⟨problem, htarget⟩)⟩
  rename_i target htarget
  split
  · rename_i hport
    refine Or.inl ⟨_, rfl, Or.inr ⟨target, htarget, ?_⟩⟩
    rw [isScheme, (Option.or_eq_none_iff.1 hport).2]
    rfl
  split
  · rename_i reason hroute
    exact Or.inl ⟨_, rfl, Or.inl (.inr ⟨_, _, _, reason, htarget, hroute⟩)⟩
  split
  · rename_i hscheme
    exact Or.inl ⟨_, rfl, Or.inr ⟨target, htarget, by simpa using hscheme⟩⟩
  · exact Or.inr ⟨target, htarget, by rw [Remote.ask_eq]⟩

theorem Refusal.judge_eq_ok {reply : Reply} {greeting : List UInt8}
    (h : Refusal.judge reply = .ok greeting) : ∃ a, reply = .answer a ∧ a.body = greeting := by
  cases reply with
  | dropped => simp [judge] at h
  | answer a =>
    refine ⟨a, rfl, ?_⟩
    simp only [judge] at h
    split at h
    · simp at h
    split at h
    · simp at h
    split at h
    · simp at h
    split at h
    · simp at h
    · exact Except.ok.inj h

end Socket

theorem Server.call_first {α : Type} (net : Network) (url : Except Failure Url)
    (authorization : String) (meaning : Http.Answer → Except Failure α) (remote : Http.Remote) :
    ∃ qs, (call net url authorization meaning remote).2 = remote.advance qs ∧
      ∀ q ∈ qs.head?, q.authorization.getLast? = some authorization ∧
        ((∀ place, url = .ok place → Http.userInfo? place = none) →
          q.authorization = [authorization]) := by
  unfold call
  split
  · exact ⟨[], remote.advance_nil.symm, fun q hq => by simp at hq⟩
  · rename_i place
    obtain ⟨qs, hremote, hfirst⟩ := Http.get_first net place authorization remote
    refine ⟨qs, ?_, fun q hq => ⟨(hfirst q hq).1, fun hplain => (hfirst q hq).2 (hplain place rfl)⟩⟩
    split
    · rename_i m after hget
      rwa [hget] at hremote
    · rename_i a after hget
      rwa [hget] at hremote

theorem Server.call_advances {α : Type} (net : Network) (url : Except Failure Url)
    (authorization : String) (meaning : Http.Answer → Except Failure α) (remote : Http.Remote) :
    ∃ qs, (call net url authorization meaning remote).2 = remote.advance qs :=
  let ⟨qs, h, _⟩ := call_first net url authorization meaning remote
  ⟨qs, h⟩

end Parley
