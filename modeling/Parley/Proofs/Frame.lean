import Parley.Proofs.InstantText
import Parley.Proofs.MessageForm
import Parley.Proofs.Written

/-! Text frames. A sent frame is read back as the envelope it was made from; a received frame is a
message exactly when it is a document of that form with an id that is not empty; and what has been
received may be written out in full and is received as the same message, however deep its chats are
nested. For the last, every message takes three containers: itself, its chat and a list in it. -/

namespace Parley

open Json

theorem isInstant_text (t : Instant) : (Value.text t.toText).doc.IsInstant t :=
  ⟨t.toText, Value.isText_text _, t.ofText_toText⟩

theorem User.form_value (n : Nat) (u : User) : Form (n + 1) u.value.doc u :=
  ⟨_, _, Value.fields_object (by simp [named]), Value.isText_text _, Value.isText_text _⟩

theorem textsForm_values (n : Nat) (ss : List String) :
    TextsForm (n + 1) (Value.list (ss.map .text)).doc ss :=
  isList_values fun s _ => Value.isText_text s

theorem Outgoing.form_value (n : Nat) (o : Outgoing) : Form (n + 1) o.value.doc o :=
  ⟨_, _, _, _, Value.fields_object (by simp [named]), Value.isText_text _, Value.isText_text _,
    Value.isText_text _, isInstant_text _⟩

theorem Envelope.form_value (n : Nat) (e : Envelope) : Form (n + 2) e.value.doc e :=
  ⟨_, Value.fields_object (by simp [named]), e.inner.form_value n⟩

theorem Message.values_eq (ms : List Message) : Message.values ms = ms.map Message.value := by
  induction ms with
  | nil => rfl
  | cons m ms ih => rw [Message.values, ih, List.map_cons]

theorem Message.value_eq (m : Message) :
    m.value = .object
      [("id", .text m.id), ("body", .text m.body), ("chat", Chat.value m.chat),
        ("author", m.author.value), ("created_at", .text m.createdAt.toText)] := by
  obtain ⟨id, body, ⟨chatId, messages, participantIds⟩, author, createdAt⟩ := m
  simp only [Message.value, Chat.value]

/-- A chat is written with both of its lists, so that it takes a container more than itself. -/
theorem Chat.form_value {n : Nat} (c : Chat)
    (h : ∀ m ∈ c.messages, Message.Form n m.value.doc m) :
    Form (n + 2) (Chat.value c).doc c := by
  refine ⟨(Value.text c.id).doc, some (Value.list (Message.values c.messages)).doc,
    some (Value.list (c.participantIds.map .text)).doc, Value.fields_object (by simp [named]),
    Value.isText_text _, ?_, textsForm_values n _⟩
  rw [Message.values_eq]
  exact isList_values h

theorem Message.form_value (k : Nat) {d : Doc} {m : Message} (h : Form (3 * k + 1) d m) :
    Form (3 * k + 1) m.value.doc m := by
  -- A message takes three containers at a time, so where there is room for its chat there is room
  -- for both lists of the chat as well, though the text that was read may have had neither.
  induction k generalizing d m with
  | zero =>
    obtain ⟨-, -, chat, -, -, -, -, -, hchat, -⟩ := h
    exact hchat.elim
  | succ k ih =>
    obtain ⟨-, -, chat, -, -, -, -, -, ⟨-, messages, -, -, -, hmessages, -⟩, -⟩ := h
    have hwritten : ∀ m' ∈ m.chat.messages, Form (3 * k + 1) m'.value.doc m' := by
      intro m' hm'
      cases messages with
      | none =>
        rw [show m.chat.messages = [] from hmessages] at hm'
        simp at hm'
      | some doc =>
        obtain ⟨d', hd'⟩ := Doc.IsList.exists_of_mem hmessages m' hm'
        exact ih hd'
    rw [m.value_eq]
    exact ⟨_, _, _, _, _, Value.fields_object (by simp [named]), Value.isText_text _,
      Value.isText_text _, Chat.form_value m.chat hwritten, m.author.form_value _, isInstant_text _⟩

theorem Envelope.ofFrame_toFrame (e : Envelope) : ofFrame e.toFrame = .ok e := by
  have hread : readText (reader depthLimit) e.toFrame = .ok e :=
    (reader_reads depthLimit).readText_eq_ok.2 ⟨_, Value.isWhole_render _, e.form_value 125⟩
  simp [ofFrame, hread]

/-- A text holds a message: it is one value of the form of the message, which has an id. -/
def Message.IsIn (m : Message) (frame : String) : Prop :=
  m.id ≠ "" ∧ ∃ d : Doc, d.IsWhole frame ∧ Form depthLimit d m

theorem Message.ofFrame_eq_ok {frame : String} {m : Message} :
    ofFrame frame = .ok m ↔ m.IsIn frame := by
  unfold IsIn
  rw [← (reader_reads depthLimit).readText_eq_ok]
  unfold ofFrame
  cases readText (reader depthLimit) frame with
  | error r => simp
  | ok m' =>
    simp only
    split
    · rename_i hid
      constructor
      · intro h
        simp at h
      · rintro ⟨hne, ⟨⟩⟩
        exact absurd (String.isEmpty_iff.1 hid) hne
    · rename_i hid
      constructor
      · rintro ⟨⟩
        exact ⟨fun h => hid (String.isEmpty_iff.2 h), rfl⟩
      · rintro ⟨-, ⟨⟩⟩
        rfl

theorem Message.ofFrame_eq_ok_or (frame : String) :
    (∃ m, ofFrame frame = .ok m) ∨ ∃ text, ofFrame frame = .error (.malformedMessage text) := by
  unfold ofFrame
  split
  · exact .inr ⟨_, rfl⟩
  · split
    · exact .inr ⟨_, rfl⟩
    · exact .inl ⟨_, rfl⟩

/-- A frame is received exactly as the message that is in it, and refused where none is. -/
theorem Message.received_iff (frame : String) :
    (∀ m, ofFrame frame = .ok m ↔ m.IsIn frame) ∧
      ((∃ m : Message, m.IsIn frame) ∨
        ∃ text, ofFrame frame = .error (.malformedMessage text)) := by
  refine ⟨fun _ => ofFrame_eq_ok, ?_⟩
  simpa only [ofFrame_eq_ok] using ofFrame_eq_ok_or frame

/-- What was received may be written out and received again: it is the same message. -/
theorem Message.received_again {frame : String} {m : Message} (h : ofFrame frame = .ok m) :
    ofFrame m.value.render = .ok m := by
  obtain ⟨hid, d, -, hform⟩ := ofFrame_eq_ok.1 h
  exact ofFrame_eq_ok.2 ⟨hid, m.value.doc, Value.isWhole_render _, form_value 42 hform⟩

def leapSecond : Instant := ⟨1483228799, 1500000000, by decide, by decide⟩

def reply : Message :=
  let ada : User := ⟨"u1", "ada"⟩
  ⟨"2", "well?", ⟨"lobby", [⟨"1", "hello", ⟨"lobby", [], []⟩, ada, leapSecond⟩], ["u1"]⟩, ada,
    leapSecond⟩

/-- The same reply with records as lists, a chat without its lists, members in another order and
under another name, and the instant told in two other ways. -/
def replySpelling : Value :=
  let ada : Value := .list [.text "u1", .text "ada"]
  let hello : Value :=
    .list [.text "1", .text "hello", .list [.text "lobby"], ada,
      .text "2017-01-01t01:59:60.5+02:00"]
  .list
    [.text "2", .text "well?",
      .object [("participant_ids", .list [.text "u1"]), ("messages", .list [hello]),
        ("id", .text "lobby")],
      ada, .text "2016-12-31 23:59:60.500z"]

theorem Message.received_again_reply :
    ofFrame replySpelling.render = .ok reply ∧ ofFrame reply.value.render = .ok reply :=
  have h : ofFrame replySpelling.render = .ok reply := by decide +kernel
  ⟨h, received_again h⟩

end Parley
