import Parley.Proofs.ReceivedLog
import Parley.Proofs.Unambiguous

/-! What a text written by the writer can be taken for. It is one line, whatever its strings hold,
and a text of one document only, the members of which are those that were written. So a frame of one
direction lacks a field that the other direction requires, and no content of a string makes up for
it. -/

namespace Parley.Json

def IsLine (cs : List Char) : Prop := ∀ c ∈ cs, ' ' ≤ c

theorem IsLine.append {cs ds : List Char} (h : IsLine cs) (h' : IsLine ds) : IsLine (cs ++ ds) := by
  intro c hc
  rcases List.mem_append.1 hc with hc | hc
  · exact h c hc
  · exact h' c hc

theorem IsLine.cons {c : Char} {cs : List Char} (hc : ' ' ≤ c) (h : IsLine cs) : IsLine (c :: cs) :=
  List.forall_mem_cons.2 ⟨hc, h⟩

theorem isLine_mark {c : Char} (hc : ' ' ≤ c) : IsLine [c] :=
  .cons hc fun _ h => absurd h List.not_mem_nil

theorem hexDigit_isLine {n : Nat} (h : n < 16) : ' ' ≤ Text.hexDigit n := by
  have hall : ∀ n < 16, ' ' ≤ Text.hexDigit n := by decide
  exact hall n h

theorem escapedChar_isLine (c : Char) : IsLine (escapedChar c) := by
  unfold escapedChar
  by_cases hlow : c < ' '
  · have hlt : c.toNat < 32 := hlow
    have hunit : IsLine ['\\', 'u', '0', '0', Text.hexDigit (c.toNat / 16),
        Text.hexDigit (c.toNat % 16)] :=
      .cons (by decide) <| .cons (by decide) <| .cons (by decide) <| .cons (by decide) <|
        .cons (hexDigit_isLine (by omega)) <| isLine_mark (hexDigit_isLine (by omega))
    simp only [if_pos hlow]
    split_ifs
    all_goals first | exact hunit | exact .cons (by decide) (isLine_mark (by decide))
  · have hself : IsLine [c] := isLine_mark (Char.not_lt.1 hlow)
    simp only [if_neg hlow]
    split_ifs
    all_goals first | exact hself | exact .cons (by decide) (isLine_mark (by decide))

theorem textChars_isLine (s : String) : IsLine (textChars s) := by
  have hbody : IsLine (s.toList.flatMap escapedChar) := by
    intro c hc
    obtain ⟨d, -, hd⟩ := List.mem_flatMap.1 hc
    exact escapedChar_isLine d c hd
  exact (IsLine.cons (by decide) hbody).append (isLine_mark (by decide))

mutual

theorem Value.chars_isLine (v : Value) : IsLine v.chars := by
  match v with
  | .text s =>
    rw [Value.chars]
    exact textChars_isLine s
  | .list vs =>
    rw [Value.chars]
    exact (IsLine.cons (by decide) (itemChars_isLine vs)).append (isLine_mark (by decide))
  | .object ms =>
    rw [Value.chars]
    exact (IsLine.cons (by decide) (memberChars_isLine ms)).append (isLine_mark (by decide))

theorem itemChars_isLine (vs : List Value) : IsLine (itemChars vs) := by
  match vs with
  | [] => exact fun _ h => absurd h List.not_mem_nil
  | [v] => exact v.chars_isLine
  | v :: w :: vs =>
    have hrest := itemChars_isLine (w :: vs)
    exact v.chars_isLine.append (.cons (by decide) hrest)

theorem memberChars_isLine (ms : List (String × Value)) : IsLine (memberChars ms) := by
  match ms with
  | [] => exact fun _ h => absurd h List.not_mem_nil
  | [(k, v)] => exact (textChars_isLine k).append (.cons (by decide) v.chars_isLine)
  | (k, v) :: m :: ms =>
    have hmember := (textChars_isLine k).append (.cons (c := ':') (by decide) v.chars_isLine)
    exact hmember.append (.cons (by decide) (memberChars_isLine (m :: ms)))

end

theorem Value.render_isLine (v : Value) : IsLine v.render.toList := by
  rw [Value.render, String.toList_ofList]
  exact v.chars_isLine

theorem Value.isText_text_iff {s s' : String} : (Value.text s).doc.IsText s' ↔ s' = s := by
  constructor
  · intro h
    exact String.toList_injective (Means.unique h (means_written s))
  · rintro rfl
    exact Value.isText_text _

/-- The keys of a written object are the names that were written, and nothing else. -/
theorem keys_memberDocs_eq {ms : List (String × Value)} {keyed : List (String × Doc)}
    (h : Keys (memberDocs ms) keyed) : keyed = ms.map fun m => (m.1, m.2.doc) := by
  induction ms generalizing keyed with
  | nil =>
    cases h
    rfl
  | cons m ms ih =>
    cases h with
    | @cons _ k _ keyed hm h =>
      have hname : k.1 = m.1 := String.toList_injective (hm.1.unique (means_written m.1))
      have hdoc : k.2 = m.2.doc := hm.2.symm
      rw [ih h, List.map_cons, ← hname, ← hdoc]

/-- A written object gives for a field what stands under its names, and for no field more. -/
theorem Value.fields_object_iff {ms : List (String × Value)} {names : List (List String)}
    {vs : List (Option Doc)} :
    (Value.object ms).doc.Fields names vs ↔
      List.Forall₂ (fun ns v => named ns (ms.map fun m => (m.1, m.2.doc)) = v.toList) names vs := by
  constructor
  · intro h
    cases h with
    | object hk h => rwa [keys_memberDocs_eq hk] at h
  · exact Value.fields_object

end Parley.Json

namespace Parley

open Json

def Envelope.document (authorId chatId body createdAt : List Char) : Doc :=
  .object [("inner".toList, .object
    [("author_id".toList, .text authorId), ("chat_id".toList, .text chatId),
      ("body".toList, .text body), ("created_at".toList, .text createdAt)])]

theorem Envelope.value_doc (e : Envelope) :
    e.value.doc = document (written e.inner.authorId) (written e.inner.chatId)
      (written e.inner.body) (written e.inner.createdAt.toText) := by
  simp only [value, Outgoing.value, Value.doc, memberDocs, document]
  rfl

theorem isInstant_text_iff {t t' : Instant} : (Value.text t.toText).doc.IsInstant t' ↔ t' = t := by
  constructor
  · rintro ⟨s, hs, ht⟩
    rw [Value.isText_text_iff.1 hs, t.ofText_toText, Except.ok.injEq] at ht
    exact ht.symm
  · rintro rfl
    exact isInstant_text t'

/-- A sent frame is one line and one object. Whatever its strings hold, it has one member, an object
of four texts in this order, and each of them means what the envelope holds and nothing else. -/
theorem Envelope.toFrame_shape (e : Envelope) :
    (∀ c ∈ e.toFrame.toList, ' ' ≤ c) ∧
      ∃ authorId chatId body createdAt : List Char,
        (∀ d : Doc, d.IsWhole e.toFrame ↔ d = document authorId chatId body createdAt) ∧
        (∀ s : String, (Doc.text authorId).IsText s ↔ s = e.inner.authorId) ∧
        (∀ s : String, (Doc.text chatId).IsText s ↔ s = e.inner.chatId) ∧
        (∀ s : String, (Doc.text body).IsText s ↔ s = e.inner.body) ∧
        (∀ s : String, (Doc.text createdAt).IsText s ↔ s = e.inner.createdAt.toText) ∧
        ∀ t : Instant, (Doc.text createdAt).IsInstant t ↔ t = e.inner.createdAt := by
  refine ⟨e.value.render_isLine, _, _, _, _, ?_, fun s => Value.isText_text_iff,
    fun s => Value.isText_text_iff, fun s => Value.isText_text_iff, fun s => Value.isText_text_iff,
    fun t => isInstant_text_iff⟩
  intro d
  rw [← e.value_doc]
  exact e.value.isWhole_render_iff d

/-- A body that tries to end its string and to add an id stays the text of the body. -/
example :
    (Envelope.seal ⟨"u1", "ada"⟩ "lobby" "\"\x7d,\"id\":\"1\n" leapSecond).toFrame =
      "\x7b\"inner\":\x7b\"author_id\":\"u1\",\"chat_id\":\"lobby\"," ++
        "\"body\":\"\\\"\x7d,\\\"id\\\":\\\"1\\n\"," ++
        "\"created_at\":\"2016-12-31T23:59:60.500Z\"\x7d\x7d" := by
  decide +kernel

/-- A sent frame holds no message: it has no member for the id. -/
theorem Message.not_isIn_toFrame (m : Message) (e : Envelope) : ¬ m.IsIn e.toFrame := by
  rintro ⟨-, d, hwhole, id, body, chat, author, createdAt, hfields, -⟩
  rw [(e.value.isWhole_render_iff d).1 hwhole] at hfields
  have hid := (List.forall₂_cons.1 (Value.fields_object_iff.1 hfields)).1
  simp [named] at hid

theorem Message.ofFrame_toFrame (e : Envelope) :
    ∃ reason, ofFrame e.toFrame = .error (.malformedMessage reason) := by
  rcases ofFrame_eq_ok_or e.toFrame with ⟨m, hm⟩ | h
  · exact (m.not_isIn_toFrame e (ofFrame_eq_ok.1 hm)).elim
  · exact h

/-- A message that is written out has no member for the content of an envelope. -/
theorem Envelope.ofFrame_message (m : Message) :
    ∃ reason, ofFrame m.value.render = .error (.malformedMessage reason) := by
  unfold ofFrame
  cases hread : readText (reader depthLimit) m.value.render with
  | error r => exact ⟨_, rfl⟩
  | ok e =>
    obtain ⟨d, hwhole, inner, hfields, -⟩ := (reader_reads depthLimit).readText_eq_ok.1 hread
    rw [(m.value.isWhole_render_iff d).1 hwhole, m.value_eq] at hfields
    have hinner := (List.forall₂_cons.1 (Value.fields_object_iff.1 hfields)).1
    simp [named] at hinner

namespace Client

/-- No frame of one direction is taken for one of the other, whatever its texts hold. A client that
is sent its own frame tells so, and whatever was logged, in any run, came in some other text. -/
theorem directions_apart :
    (∀ e : Envelope, ∃ reason, Message.ofFrame e.toFrame = .error (.malformedMessage reason)) ∧
      (∀ m : Message, ∃ reason,
        Envelope.ofFrame m.value.render = .error (.malformedMessage reason)) ∧
      ∀ (net : Network) (server : Server) (clock : FixedClock) (audience : Audience)
        (actions : List Action),
        let start := fresh server clock audience
        let run := steps net start actions
        (∀ m ∈ (after net start actions).received,
          ∃ s ∈ run, ∃ text ∈ s.delivered, Message.ofFrame text = .ok m ∧
            ∀ e : Envelope, text ≠ e.toFrame) ∧
        ∀ s ∈ run, ∀ e : Envelope, e.toFrame ∈ s.delivered →
          ∃ reason, .failed (.malformedMessage reason) ∈ s.turn.events := by
  refine ⟨Message.ofFrame_toFrame, Envelope.ofFrame_message, ?_⟩
  intro net server clock audience actions start run
  constructor
  · intro m hm
    rw [logs_received.after rfl net actions] at hm
    obtain ⟨s, hs, htext⟩ := List.mem_flatMap.1 hm
    obtain ⟨text, hdelivered, hin⟩ := List.mem_filterMap.1 htext
    have hok : Message.ofFrame text = .ok m := by
      unfold Message.inText? at hin
      cases hread : Message.ofFrame text with
      | error f => simp [hread, Except.toOption] at hin
      | ok m' => simpa [hread, Except.toOption] using hin
    refine ⟨s, mem_of_mem_sinceClear hs, text, hdelivered, hok, ?_⟩
    rintro e rfl
    exact m.not_isIn_toFrame e (Message.ofFrame_eq_ok.1 hok)
  · intro s hs e he
    obtain ⟨earlier, a, rfl⟩ := mem_steps hs
    obtain ⟨reason, hreason⟩ := Message.ofFrame_toFrame e
    have htold := told_perform (orderly_after net server clock audience earlier) net a
    have hverdict : Event.ofText e.toFrame ∈
        ((after net start earlier).perform net a).events.filter Event.isVerdict := by
      rw [htold]
      exact List.mem_map_of_mem he
    refine ⟨reason, ?_⟩
    simpa [Event.ofText, hreason] using (List.mem_filter.1 hverdict).1

end Client

end Parley
