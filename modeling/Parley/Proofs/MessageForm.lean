import Parley.Frame
import Parley.Proofs.Record

/-! The documents of messages and envelopes, stated without readers: which fields a record has, what
stands in each, and which may be absent. A form takes the number of containers that may still be
opened inside each other, and the reader for that number accepts its documents and no others. -/

namespace Parley

open Json

def Json.Doc.IsInstant (d : Doc) (t : Instant) : Prop :=
  ∃ s, d.IsText s ∧ Instant.ofText s = .ok t

/-- An absent field stands for no elements. -/
def orEmpty {α : Type} (form : Doc → List α → Prop) : Option Doc → List α → Prop
  | none, as => as = []
  | some d, as => form d as

def User.Form : Nat → Doc → User → Prop
  | 0, _, _ => False
  | _ + 1, d, u => ∃ id name, d.Fields [["id"], ["name"]] [some id, some name] ∧
      id.IsText u.id ∧ name.IsText u.name

def TextsForm : Nat → Doc → List String → Prop
  | 0, _, _ => False
  | _ + 1, d, ss => d.IsList Doc.IsText ss

mutual

def Message.Form : Nat → Doc → Message → Prop
  | 0, _, _ => False
  | n + 1, d, m => ∃ id body chat author createdAt,
      d.Fields [["id"], ["body"], ["chat"], ["author"], ["created_at"]]
        [some id, some body, some chat, some author, some createdAt] ∧
      id.IsText m.id ∧ body.IsText m.body ∧ Chat.Form n chat m.chat ∧
      User.Form n author m.author ∧ createdAt.IsInstant m.createdAt

/-- The participants go by two names. -/
def Chat.Form : Nat → Doc → Chat → Prop
  | 0, _, _ => False
  | n + 1, d, c => ∃ id messages participants,
      d.Fields [["id"], ["messages"], ["participants_ids", "participant_ids"]]
        [some id, messages, participants] ∧
      id.IsText c.id ∧ orEmpty (Message.ListForm n) messages c.messages ∧
      orEmpty (TextsForm n) participants c.participantIds

def Message.ListForm : Nat → Doc → List Message → Prop
  | 0, _, _ => False
  | n + 1, d, ms => d.IsList (Message.Form n) ms

end

def Outgoing.Form : Nat → Doc → Outgoing → Prop
  | 0, _, _ => False
  | _ + 1, d, o => ∃ authorId chatId body createdAt,
      d.Fields [["author_id"], ["chat_id"], ["body"], ["created_at"]]
        [some authorId, some chatId, some body, some createdAt] ∧
      authorId.IsText o.authorId ∧ chatId.IsText o.chatId ∧ body.IsText o.body ∧
      createdAt.IsInstant o.createdAt

def Envelope.Form : Nat → Doc → Envelope → Prop
  | 0, _, _ => False
  | n + 1, d, e => ∃ inner, d.Fields [["inner"]] [some inner] ∧ Outgoing.Form n inner e.inner

theorem reads_instant : Reads instantReader Doc.IsInstant := by
  refine (reads_stringWith _ _).congr fun d t => exists_congr fun s => and_congr_right fun _ => ?_
  split <;> simp [*]

theorem textsReader_reads (n : Nat) : Reads (textsReader n) (TextsForm n) :=
  match n with
  | 0 => reads_list_none
  | _ + 1 => reads_list reads_string

@[simp] theorem present_eq_ok {α : Type} {name : String} {v : Option α} {a : α} :
    present name v = .ok a ↔ v = some a := by
  cases v <;> simp [present]

theorem orEmpty_iff {α : Type} {form : Doc → List α → Prop} {v : Option Doc} {as : List α} :
    orEmpty form v as ↔ ∃ o, Option.Rel form v o ∧ o.getD [] = as := by
  cases v with
  | none =>
    constructor
    · rintro rfl
      exact ⟨none, .none, rfl⟩
    · rintro ⟨o, ⟨⟩, rfl⟩
      rfl
  | some d =>
    constructor
    · intro h
      exact ⟨some as, .some h, rfl⟩
    · rintro ⟨o, ⟨⟩, rfl⟩
      assumption

def User.columns : List (Column User.Draft) :=
  [.of "id" Draft.id (fun d s => { d with id := some s }) reads_string fun _ _ => rfl,
    .of "name" Draft.name (fun d s => { d with name := some s }) reads_string fun _ _ => rfl]

theorem User.finish_eq_ok {d : Draft} {u : User} :
    schema.finish d = .ok u ↔ d = ⟨some u.id, some u.name⟩ := by
  obtain ⟨id, name⟩ := d
  obtain ⟨id', name'⟩ := u
  simp [schema, bind_eq_ok, pure, Except.pure]

theorem User.table : Table schema columns where
  slots := rfl
  apart := by simp [columns, Column.apart_iff, Column.of, Column.names]
  blank := by simp [columns, Column.of, schema]
  ext := by
    rintro ⟨_, _⟩ ⟨_, _⟩
    simp [columns, Column.of]
  required := by simp [columns, Column.of, finish_eq_ok]

theorem User.reader_reads : ∀ n, Reads (User.reader n) (User.Form n)
  | 0 => reads_record_none Draft User _
  | n + 1 => (table.reads "struct User").congr fun d u => by
    simp [Column.Form, columns, List.forall₂_cons_left_iff, finish_eq_ok, Column.of,
      Column.given_iff, rel_some_iff, Column.names, Form]

section Chat

variable {messages : Reader (List Message)} {messageForm : Doc → List Message → Prop}
  {participantIds : Reader (List String)} {participantForm : Doc → List String → Prop}

def Chat.columns (hm : Reads messages messageForm) (hp : Reads participantIds participantForm) :
    List (Column Chat.Draft) :=
  [.of "id" Draft.id (fun d s => { d with id := some s }) reads_string fun _ _ => rfl,
    { Column.of "messages" Draft.messages (fun d ms => { d with messages := some ms }) hm
        fun _ _ => rfl with
      required := false },
    { Column.of "participants_ids" Draft.participantIds
        (fun d ps => { d with participantIds := some ps }) hp fun _ _ => rfl with
      otherName := some "participant_ids", required := false }]

theorem Chat.finish_eq_ok {d : Draft} {c : Chat} :
    (schema messages participantIds).finish d = .ok c ↔
      d.id = some c.id ∧ d.messages.getD [] = c.messages ∧
        d.participantIds.getD [] = c.participantIds := by
  obtain ⟨id, ms, ps⟩ := d
  obtain ⟨id', ms', ps'⟩ := c
  simp [schema, bind_eq_ok, pure, Except.pure]

theorem Chat.table (hm : Reads messages messageForm) (hp : Reads participantIds participantForm) :
    Table (schema messages participantIds) (columns hm hp) where
  slots := rfl
  apart := by simp [columns, Column.apart_iff, Column.of, Column.names]
  blank := by simp [columns, Column.of, schema]
  ext := by
    rintro ⟨_, _, _⟩ ⟨_, _, _⟩
    simp [columns, Column.of]
  required := by simp +contextual [columns, Column.of, finish_eq_ok]

theorem Chat.form_iff (hm : Reads messages messageForm) (hp : Reads participantIds participantForm)
    (d : Doc) (c : Chat) :
    Column.Form (columns hm hp) (schema messages participantIds).finish d c ↔
      ∃ id messages participants,
        d.Fields [["id"], ["messages"], ["participants_ids", "participant_ids"]]
          [some id, messages, participants] ∧
        id.IsText c.id ∧ orEmpty messageForm messages c.messages ∧
        orEmpty participantForm participants c.participantIds := by
  have hgiven : ∀ vs e, List.Forall₂ (fun c v => c.Given e v) (columns hm hp) vs ↔
      ∃ id ms ps, vs = [id, ms, ps] ∧ Option.Rel Doc.IsText id e.id ∧
        Option.Rel messageForm ms e.messages ∧ Option.Rel participantForm ps e.participantIds := by
    intro vs e
    simp only [columns, List.forall₂_cons_left_iff, List.forall₂_nil_left_iff, Column.given_iff]
    constructor
    · rintro ⟨id, _, hid, ⟨ms, _, hms, ⟨ps, _, hps, rfl, rfl⟩, rfl⟩, rfl⟩
      exact ⟨id, ms, ps, rfl, hid, hms, hps⟩
    · rintro ⟨id, ms, ps, rfl, hid, hms, hps⟩
      exact ⟨id, _, hid, ⟨ms, _, hms, ⟨ps, _, hps, rfl, rfl⟩, rfl⟩, rfl⟩
  simp only [Column.Form, hgiven, finish_eq_ok, orEmpty_iff]
  constructor
  · rintro ⟨_, ⟨_, ms, ps⟩, hf, ⟨_, vm, vp, rfl, hrel, hms, hps⟩, rfl, hm, hp⟩
    obtain ⟨id, rfl, hid⟩ := rel_some_iff.1 hrel
    exact ⟨id, vm, vp, hf, hid, ⟨ms, hms, hm⟩, ps, hps, hp⟩
  · rintro ⟨id, vm, vp, hf, hid, ⟨ms, hms, hm⟩, ps, hps, hp⟩
    exact ⟨_, ⟨some c.id, ms, ps⟩, hf, ⟨some id, vm, vp, rfl, .some hid, hms, hps⟩, rfl,
      hm, hp⟩

end Chat

section Message

variable {chat : Reader Chat} {chatForm : Doc → Chat → Prop} {author : Reader User}
  {authorForm : Doc → User → Prop}

def Message.columns (hc : Reads chat chatForm) (ha : Reads author authorForm) :
    List (Column Message.Draft) :=
  [.of "id" Draft.id (fun d s => { d with id := some s }) reads_string fun _ _ => rfl,
    .of "body" Draft.body (fun d s => { d with body := some s }) reads_string fun _ _ => rfl,
    .of "chat" Draft.chat (fun d c => { d with chat := some c }) hc fun _ _ => rfl,
    .of "author" Draft.author (fun d u => { d with author := some u }) ha fun _ _ => rfl,
    .of "created_at" Draft.createdAt (fun d t => { d with createdAt := some t }) reads_instant
      fun _ _ => rfl]

theorem Message.finish_eq_ok {d : Draft} {m : Message} :
    (schema chat author).finish d = .ok m ↔
      d = ⟨some m.id, some m.body, some m.chat, some m.author, some m.createdAt⟩ := by
  obtain ⟨id, body, chat, author, createdAt⟩ := d
  obtain ⟨id', body', chat', author', createdAt'⟩ := m
  simp [schema, bind_eq_ok, pure, Except.pure]

theorem Message.table (hc : Reads chat chatForm) (ha : Reads author authorForm) :
    Table (schema chat author) (columns hc ha) where
  slots := rfl
  apart := by simp [columns, Column.apart_iff, Column.of, Column.names]
  blank := by simp [columns, Column.of, schema]
  ext := by
    rintro ⟨_, _, _, _, _⟩ ⟨_, _, _, _, _⟩
    simp [columns, Column.of]
  required := by simp [columns, Column.of, finish_eq_ok]

theorem Message.form_iff (hc : Reads chat chatForm) (ha : Reads author authorForm) (d : Doc)
    (m : Message) :
    Column.Form (columns hc ha) (schema chat author).finish d m ↔
      ∃ id body chat author createdAt,
        d.Fields [["id"], ["body"], ["chat"], ["author"], ["created_at"]]
          [some id, some body, some chat, some author, some createdAt] ∧
        id.IsText m.id ∧ body.IsText m.body ∧ chatForm chat m.chat ∧ authorForm author m.author ∧
        createdAt.IsInstant m.createdAt := by
  constructor
  · rintro ⟨vs, d, hf, hgiven, hfinish⟩
    obtain rfl := finish_eq_ok.1 hfinish
    obtain ⟨id, _, rfl, hid, hgiven⟩ := Column.given_cons rfl hgiven
    obtain ⟨body, _, rfl, hbody, hgiven⟩ := Column.given_cons rfl hgiven
    obtain ⟨chat, _, rfl, hchat, hgiven⟩ := Column.given_cons rfl hgiven
    obtain ⟨author, _, rfl, hauthor, hgiven⟩ := Column.given_cons rfl hgiven
    obtain ⟨createdAt, _, rfl, htime, ⟨⟩⟩ := Column.given_cons rfl hgiven
    exact ⟨id, body, chat, author, createdAt, hf, hid, hbody, hchat, hauthor, htime⟩
  · rintro ⟨id, body, chat, author, createdAt, hf, hid, hbody, hchat, hauthor, htime⟩
    exact ⟨_, _, hf, .cons ⟨_, hid, rfl⟩ <| .cons ⟨_, hbody, rfl⟩ <| .cons ⟨_, hchat, rfl⟩ <|
      .cons ⟨_, hauthor, rfl⟩ <| .cons ⟨_, htime, rfl⟩ .nil, finish_eq_ok.2 rfl⟩

end Message

mutual

theorem Message.reader_reads : ∀ n, Reads (Message.reader n) (Message.Form n)
  | 0 => reads_record_none Message.Draft Message _
  | n + 1 =>
    ((Message.table (Chat.reader_reads n) (User.reader_reads n)).reads _).congr
      (Message.form_iff _ _)

theorem Chat.reader_reads : ∀ n, Reads (Chat.reader n) (Chat.Form n)
  | 0 => reads_record_none Chat.Draft Chat _
  | n + 1 =>
    ((Chat.table (Message.listReader_reads n) (textsReader_reads n)).reads _).congr
      (Chat.form_iff _ _)

theorem Message.listReader_reads : ∀ n, Reads (Message.listReader n) (Message.ListForm n)
  | 0 => reads_list_none
  | n + 1 => reads_list (Message.reader_reads n)

end

def Outgoing.columns : List (Column Outgoing.Draft) :=
  [.of "author_id" Draft.authorId (fun d s => { d with authorId := some s }) reads_string
      fun _ _ => rfl,
    .of "chat_id" Draft.chatId (fun d s => { d with chatId := some s }) reads_string
      fun _ _ => rfl,
    .of "body" Draft.body (fun d s => { d with body := some s }) reads_string fun _ _ => rfl,
    .of "created_at" Draft.createdAt (fun d t => { d with createdAt := some t }) reads_instant
      fun _ _ => rfl]

theorem Outgoing.finish_eq_ok {d : Draft} {o : Outgoing} :
    schema.finish d = .ok o ↔
      d = ⟨some o.authorId, some o.chatId, some o.body, some o.createdAt⟩ := by
  obtain ⟨authorId, chatId, body, createdAt⟩ := d
  obtain ⟨authorId', chatId', body', createdAt'⟩ := o
  simp [schema, bind_eq_ok, pure, Except.pure]

theorem Outgoing.table : Table schema columns where
  slots := rfl
  apart := by simp [columns, Column.apart_iff, Column.of, Column.names]
  blank := by simp [columns, Column.of, schema]
  ext := by
    rintro ⟨_, _, _, _⟩ ⟨_, _, _, _⟩
    simp [columns, Column.of]
  required := by simp [columns, Column.of, finish_eq_ok]

theorem Outgoing.reader_reads : ∀ n, Reads (Outgoing.reader n) (Outgoing.Form n)
  | 0 => reads_record_none Draft Outgoing _
  | n + 1 => (table.reads "struct InnerMessage").congr fun d o => by
    constructor
    · rintro ⟨vs, d, hf, hgiven, hfinish⟩
      obtain rfl := finish_eq_ok.1 hfinish
      obtain ⟨authorId, _, rfl, hauthor, hgiven⟩ := Column.given_cons rfl hgiven
      obtain ⟨chatId, _, rfl, hchat, hgiven⟩ := Column.given_cons rfl hgiven
      obtain ⟨body, _, rfl, hbody, hgiven⟩ := Column.given_cons rfl hgiven
      obtain ⟨createdAt, _, rfl, htime, ⟨⟩⟩ := Column.given_cons rfl hgiven
      exact ⟨authorId, chatId, body, createdAt, hf, hauthor, hchat, hbody, htime⟩
    · rintro ⟨authorId, chatId, body, createdAt, hf, hauthor, hchat, hbody, htime⟩
      exact ⟨_, _, hf, .cons ⟨_, hauthor, rfl⟩ <| .cons ⟨_, hchat, rfl⟩ <|
        .cons ⟨_, hbody, rfl⟩ <| .cons ⟨_, htime, rfl⟩ .nil, finish_eq_ok.2 rfl⟩

section Envelope

variable {inner : Reader Outgoing} {innerForm : Doc → Outgoing → Prop}

def Envelope.columns (h : Reads inner innerForm) : List (Column Envelope.Draft) :=
  [.of "inner" Draft.inner (fun d o => { d with inner := some o }) h fun _ _ => rfl]

theorem Envelope.finish_eq_ok {d : Draft} {e : Envelope} :
    (schema inner).finish d = .ok e ↔ d = ⟨some e.inner⟩ := by
  obtain ⟨o⟩ := d
  obtain ⟨o'⟩ := e
  simp [schema, bind_eq_ok, pure, Except.pure]

theorem Envelope.table (h : Reads inner innerForm) : Table (schema inner) (columns h) where
  slots := rfl
  apart := by simp [columns]
  blank := by simp [columns, Column.of, schema]
  ext := by
    rintro ⟨_⟩ ⟨_⟩
    simp [columns, Column.of]
  required := by simp [columns, Column.of, finish_eq_ok]

end Envelope

theorem Envelope.reader_reads : ∀ n, Reads (Envelope.reader n) (Envelope.Form n)
  | 0 => reads_record_none Draft Envelope _
  | n + 1 => ((table (Outgoing.reader_reads n)).reads "struct OutgoingEnvelope").congr fun d e => by
    simp [Column.Form, columns, List.forall₂_cons_left_iff, finish_eq_ok, Column.of,
      Column.given_iff, rel_some_iff, Column.names, Form]

end Parley
