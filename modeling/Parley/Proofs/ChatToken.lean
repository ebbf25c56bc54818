import Parley.Proofs.Endpoints

/-! The token in the URL of a chat. It is added as one more pair to a URL that was read without it,
so everything else in the URL is the same for all tokens, and a form decoder reads the pairs that
were there before and then the token itself. -/

namespace Parley

open Text

namespace Url

/-- A text in a query; octets that are no text are replaced. -/
def decodedText (cs : List Char) : String := mended ['\ufffd'] (unescape (cs.map blankOf))

def decodedPair (cs : List Char) : String × String :=
  let (name, value) := cutAt '=' cs
  (decodedText name, decodedText value)

/-- All pairs of a query; where nothing stands there is none. -/
def decodedForm (query : List Char) : List (String × String) :=
  ((Host.splitAt '&' query).filter (!·.isEmpty)).map decodedPair

theorem decodedText_formText (s : String) : decodedText (formText s) = s := by
  rw [decodedText, formText, unescape_formChars, ← octets_eq, mended_octets]

theorem decodedForm_formPair (name value : String) :
    decodedForm (formPair name value) = [(name, value)] := by
  have hne : (formPair name value).isEmpty = false := by simp [formPair]
  rw [decodedForm, splitAt_of_not_mem (ampersand_not_mem_formPair name value)]
  simp [hne, decodedPair, cutAt_formPair, decodedText_formText]

theorem splitAt_ne_nil (mark : Char) (cs : List Char) : Host.splitAt mark cs ≠ [] := by
  cases cs with
  | nil => simp [Host.splitAt]
  | cons c cs =>
    unfold Host.splitAt
    split
    · simp
    · split <;> simp

theorem splitAt_append (mark : Char) (xs ys : List Char) :
    Host.splitAt mark (xs ++ mark :: ys) = Host.splitAt mark xs ++ Host.splitAt mark ys := by
  induction xs with
  | nil => simp [Host.splitAt]
  | cons c xs ih =>
    rw [List.cons_append, Host.splitAt, Host.splitAt, ih]
    split
    · rfl
    · cases hsplit : Host.splitAt mark xs with
      | nil => exact absurd hsplit (splitAt_ne_nil mark xs)
      | cons p ps => rfl

theorem decodedForm_append (xs ys : List Char) :
    decodedForm (xs ++ '&' :: ys) = decodedForm xs ++ decodedForm ys := by
  simp only [decodedForm, splitAt_append, List.filter_append, List.map_append]

def pairFront (query : Option String) : List Char :=
  if (query.getD "").toList.isEmpty then [] else (query.getD "").toList ++ ['&']

theorem toList_appendPair (query : Option String) (name value : String) :
    (appendPair query name value).toList = pairFront query ++ formPair name value :=
  String.toList_ofList

/-- The pairs that were there are read as before, and the new one behind them. -/
theorem decodedForm_appendPair (query : Option String) (name value : String) :
    decodedForm (appendPair query name value).toList =
      decodedForm (query.getD "").toList ++ [(name, value)] := by
  rw [toList_appendPair, pairFront]
  split
  · rename_i hempty
    rw [List.isEmpty_iff.1 hempty, List.nil_append, decodedForm_formPair]
    rfl
  · rw [List.append_assoc, List.singleton_append, decodedForm_append, decodedForm_formPair]

theorem lastPair_appendPair (query : Option String) (name value : String) :
    lastPair (appendPair query name value).toList = some (name, value) := by
  have hgoes : ∀ c ∈ (formPair name value).reverse, decide (c ≠ '&') = true := by
    intro c hc
    refine decide_eq_true fun he => ampersand_not_mem_formPair name value ?_
    exact he ▸ List.mem_reverse.1 hc
  have hfront : (pairFront query).reverse.takeWhile (· ≠ '&') = [] := by
    unfold pairFront
    split <;> simp
  have hlast : ((appendPair query name value).toList.reverse.takeWhile (· ≠ '&')).reverse =
      formPair name value := by
    rw [toList_appendPair, List.reverse_append, List.takeWhile_append_of_pos hgoes, hfront,
      List.append_nil, List.reverse_reverse]
  simp only [lastPair, hlast, cutAt_formPair, readFormText_formText]

theorem formPair_injective {name v w : String} (h : formPair name v = formPair name w) :
    v = w := by
  have hforms := congrArg decodedForm h
  simpa [decodedForm_formPair] using hforms

theorem chars_withPair (u : Url) (name value : String) :
    (u.withPair name value).chars =
      (u.scheme.toList ++ ':' :: u.authorityChars ++ u.path.chars ++ '?' :: pairFront u.query) ++
        formPair name value ++ u.fragmentChars := by
  have hquery : (u.withPair name value).queryChars =
      '?' :: (pairFront u.query ++ formPair name value) :=
    congrArg ('?' :: ·) (toList_appendPair u.query name value)
  rw [chars, hquery]
  simp only [List.append_assoc, List.cons_append]
  rfl

end Url

namespace Server

open Url

/-- Whether there is a URL for the chat does not depend on the token. If there is one, the token
goes to a place of its own in its text: everything before and behind is the same for all tokens,
as are all parts but the query, the pairs that were read from the query before are read from it
still, and the last one gives the token back. What is written for a token has no mark in it that
would end the pair, the query or the path. -/
theorem chat_of_token (s : Server) :
    (∃ failure, ∀ token, s.chatUrl token = .error failure) ∨
    ∃ (place : Url) (front back : List Char), ∀ token, ∃ query,
      s.chatUrl token = .ok { place with query := some query } ∧
      lastPair query.toList = some ("token", token.text) ∧
      decodedForm query.toList =
        decodedForm (place.query.getD "").toList ++ [("token", token.text)] ∧
      Url.chars { place with query := some query } =
        front ++ formPair "token" token.text ++ back ∧
      (∀ c ∈ formPair "token" token.text, c ∉ ['&', '#', '?', '/']) ∧
      ∀ other u, s.chatUrl other = .ok u →
        u.text = Url.text { place with query := some query } → other = token := by
  cases hplace : s.url s.socketScheme chatPath with
  | error failure => exact Or.inl ⟨failure, fun token => by rw [chatUrl, hplace]⟩
  | ok place =>
    refine Or.inr ⟨place, _, place.fragmentChars, fun token =>
      ⟨appendPair place.query "token" token.text, chatUrl_of_url hplace token,
        lastPair_appendPair _ _ _, decodedForm_appendPair _ _ _, chars_withPair place _ _, ?_, ?_⟩⟩
    · intro c hc hmark
      simp only [List.mem_cons, List.not_mem_nil, or_false] at hmark
      rcases hmark with rfl | rfl | rfl | rfl <;>
        exact not_mem_formPair (by decide) (by decide) _ _ hc
    · intro other u hother htext
      obtain rfl := Except.ok.inj ((chatUrl_of_url hplace other).symm.trans hother)
      have hchars : (place.withPair "token" other.text).chars =
          (place.withPair "token" token.text).chars := String.ofList_injective htext
      rw [chars_withPair, chars_withPair] at hchars
      have hpair := formPair_injective (List.append_cancel_left (List.append_cancel_right hchars))
      cases other
      cases token
      exact congrArg Token.mk hpair

end Server

end Parley
