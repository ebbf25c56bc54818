import Parley.Proofs.BesideClient
import Parley.Proofs.ReceivedLog

/-! Lives of clients, with interludes of the servers and without. Nothing comes of the interludes in
any life of a client or of a manager, but for the pongs. -/

namespace Parley

open Connection Socket

namespace Client

/-- What happens to a client: the same to both, or to the second with interludes in between. -/
inductive Entry where
  | act (a : Action)
  | connect (username password : String) (offers : List Http.Offer)
  | connectWithToken (token : Token) (offers : List Http.Offer)
  | receive (session : Nat) (pieces : List Piece)
  /-- Nothing but interludes comes, and to the second client only. -/
  | insert (session : Nat) (interludes : List Interlude)

/-- What the interludes of an arrival are answered with. -/
def echoes (c : Client) (k : Nat) (interludes : List Interlude) : List (List UInt8) :=
  match c.sessions[k]? with
  | none => []
  | some s => s.manager.echoes 0 interludes

namespace Entry

def plain? : Entry → Option Action
  | .act a => some a
  | .connect username password offers =>
    some (.connect username password (offers.map Http.Offer.plain))
  | .connectWithToken token offers => some (.connectWithToken token (offers.map Http.Offer.plain))
  | .receive k pieces => some (.receive k (Piece.plain pieces))
  | .insert _ _ => none

def laced : Entry → Action
  | .act a => a
  | .connect username password offers =>
    .connect username password (offers.map Http.Offer.laced)
  | .connectWithToken token offers => .connectWithToken token (offers.map Http.Offer.laced)
  | .receive k pieces => .receive k (Piece.laced pieces)
  | .insert k interludes => .receive k (Piece.laced (interludes.map .interlude))

/-- Every interlude stands between two messages of its connection, and before the end of it. -/
def Admitted (c : Client) : Entry → Prop
  | .act _ => True
  | .connect _ _ offers | .connectWithToken _ offers =>
    ∀ offer ∈ offers, Endpoint.fresh.Admits offer.pieces
  | .receive k pieces => ∀ s ∈ c.sessions[k]?, s.manager.Admits 0 pieces
  | .insert k _ => ∃ s ∈ c.sessions[k]?, ∃ l ∈ s.manager.links[0]?, l.endpoint.Between

instance (c : Client) : (e : Entry) → Decidable (e.Admitted c)
  | .act _ => .isTrue trivial
  | .connect _ _ offers | .connectWithToken _ offers =>
    inferInstanceAs (Decidable (∀ offer ∈ offers, Endpoint.fresh.Admits offer.pieces))
  | .receive k pieces =>
    inferInstanceAs (Decidable
      (∀ s ∈ c.sessions[k]?, ∀ l ∈ s.manager.links[0]?, l.endpoint.Admits pieces))
  | .insert k _ =>
    inferInstanceAs (Decidable
      (∃ s ∈ c.sessions[k]?, ∃ l ∈ s.manager.links[0]?, l.endpoint.Between))

/-- The session that the interludes of an entry come to, and what they are answered with. -/
def answers (net : Network) (c : Client) : Entry → Nat × List (List UInt8)
  | .act _ => (0, [])
  | .connect username password offers =>
    let attempt :=
      c.connect net username password (.ofReplies (offers.map Http.Offer.plain))
    (c.sessions.length, greeted attempt.result offers attempt.remote.requests)
  | .connectWithToken token offers =>
    let attempt := c.connectWithToken net token (.ofReplies (offers.map Http.Offer.plain))
    (c.sessions.length, greeted attempt.result offers attempt.remote.requests)
  | .receive k pieces => (k, c.echoes k (Piece.interludes pieces))
  | .insert k interludes => (k, c.echoes k interludes)

end Entry

/-- Two turns that come to the same but for pongs. -/
structure Turn.Beside (pings : Nat → List (List UInt8)) (t t' : Turn) : Prop where
  result : t'.result = t.result
  events : t'.events = t.events
  requests : t'.remote.requests = t.remote.requests
  client : t.client.Beside pings t'.client

def Turn.nothing (c : Client) : Turn := .quiet (c, [])

def lacing (net : Network) : Course Entry Action Client Turn where
  act c a := c.act net a
  state := Turn.client
  nothing := Turn.nothing
  plain? := Entry.plain?
  laced := Entry.laced
  Admitted c e := e.Admitted c
  answers c e := e.answers net c

instance (net : Network) (c : Client) (e : Entry) : Decidable ((lacing net).Admitted c e) :=
  inferInstanceAs (Decidable (e.Admitted c))

section

variable {pings : Nat → List (List UInt8)} {c c' : Client}

theorem Attempt.Beside.turn {k : Nat} {offers : List Http.Offer} {t t' : Attempt}
    (h : Attempt.Beside pings k offers (.ofReplies (offers.map Http.Offer.plain))
      (.ofReplies (offers.map Http.Offer.laced)) t t') :
    Turn.Beside (noted pings k (greeted t.result offers t.remote.requests)) (.ofAttempt t)
      (.ofAttempt t') := by
  obtain ⟨hresult, hevents, qs, hr, hs, -, hclient⟩ := h
  refine ⟨congrArg (Except.map some) hresult, hevents, ?_, ?_⟩
  · simp only [Turn.ofAttempt, hr, hs]
    rfl
  · rw [hr]
    exact hclient

theorem greeted_replies (result : Except Failure User) (replies : List Http.Reply)
    (requests : List Http.Request) :
    greeted result (replies.map .reply) requests = [] := by
  obtain ⟨-, -, -, hnone⟩ := Manager.offers_of_replies replies
  cases result with
  | error f => rfl
  | ok user =>
    simp only [greeted, hnone]
    rfl

theorem Beside.receive_laced (h : c.Beside pings c') {k : Nat} {pieces : List Piece}
    (hadmits : ∀ s ∈ c.sessions[k]?, s.manager.Admits 0 pieces) :
    (c'.onSession k (·.receive 0 (Piece.laced pieces))).2 =
        (c.onSession k (·.receive 0 (Piece.plain pieces))).2 ∧
      (c.onSession k (·.receive 0 (Piece.plain pieces))).1.Beside
        (noted pings k (c.echoes k (Piece.interludes pieces)))
        (c'.onSession k (·.receive 0 (Piece.laced pieces))).1 := by
  refine h.onSession k _ _ _ (fun hs => by simp only [echoes, hs]) fun s m' hs hm => ?_
  have hechoes : c.echoes k (Piece.interludes pieces) =
      s.manager.echoes 0 (Piece.interludes pieces) := by
    simp only [echoes, hs]
  have hlaced := hm.arrive_laced (hadmits s hs)
  rw [Manager.noted_single] at hlaced
  rw [hechoes, Manager.receive_eq, Manager.receive_eq]
  exact hlaced

theorem Beside.arrive (h : c.Beside pings c') (k : Nat) (a : Link.Arrival) :
    (c'.arrive k a).2 = (c.arrive k a).2 ∧ (c.arrive k a).1.Beside pings (c'.arrive k a).1 := by
  have harrive := h.onSession k (·.arrive 0 a) (·.arrive 0 a) [] (fun _ => rfl) fun s m' _ hm => by
    rw [List.append_nil]
    exact hm.arrive 0 a
  rwa [noted_nil] at harrive

theorem Beside.perform (h : c.Beside pings c') (net : Network) (a : Action) :
    Turn.Beside pings (c.perform net a) (c'.perform net a) := by
  cases a with
  | connect username password replies =>
    obtain ⟨hplain, hlaced, hadmits, -⟩ := Manager.offers_of_replies replies
    have hturn := (h.connect net username password hadmits
      (r := .ofReplies _) (s := .ofReplies _) rfl rfl).turn
    rwa [greeted_replies, noted_nil, hplain, hlaced] at hturn
  | connectWithToken token replies =>
    obtain ⟨hplain, hlaced, hadmits, -⟩ := Manager.offers_of_replies replies
    have hturn := (h.connectWithToken net token hadmits
      (r := .ofReplies _) (s := .ofReplies _) rfl rfl).turn
    rwa [greeted_replies, noted_nil, hplain, hlaced] at hturn
  | send chatId text =>
    obtain ⟨hresult, hevents, hclient⟩ := h.send chatId text
    exact ⟨congrArg (Except.map fun _ => none) hresult, hevents, rfl, hclient⟩
  | sendThrough k text =>
    obtain ⟨hresult, hevents, hclient⟩ :=
      h.sendOn k (·.sendThrough 0 text) fun hm => hm.sendThrough 0 text
    exact ⟨congrArg (Except.map fun _ => none) hresult, hevents, rfl, hclient⟩
  | disconnect | drop =>
    obtain ⟨hevents, hclient⟩ := h.disconnect
    exact ⟨rfl, hevents, rfl, hclient⟩
  | clear =>
    cases h with
    | but _ _ _ _ _ _ _ h hbeyond => exact ⟨rfl, rfl, rfl, .but _ _ _ _ _ _ _ h hbeyond⟩
  | deafen =>
    cases h with
    | but _ _ _ _ _ _ _ h hbeyond => exact ⟨rfl, rfl, rfl, .but _ _ _ _ _ _ _ h hbeyond⟩
  | receive k bs =>
    obtain ⟨hevents, hclient⟩ := h.arrive k (.octets bs)
    simp only [perform_receive]
    exact ⟨rfl, hevents, rfl, hclient⟩
  | hangUp k cut =>
    obtain ⟨hevents, hclient⟩ := h.arrive k (.hangUp cut)
    simp only [perform_hangUp]
    exact ⟨rfl, hevents, rfl, hclient⟩

theorem Turn.Beside.heard {t t' : Turn} (h : t.Beside pings t') :
    Turn.Beside pings { t with events := heardBy t.client.audience t.events }
      { t' with events := heardBy t'.client.audience t'.events } := by
  have hevents : heardBy t'.client.audience t'.events = heardBy t.client.audience t.events := by
    rw [h.client.audience, h.events]
  exact ⟨h.result, hevents, h.requests, h.client⟩

theorem Orderly.receive_nothing (hc : Orderly c.sessions) {k : Nat} {s : Session} {l : Link}
    (hs : c.sessions[k]? = some s) (hl : s.manager.links[0]? = some l)
    (hbetween : l.endpoint.Between) : c.onSession k (·.receive 0 []) = (c, []) := by
  have hnothing := (hc.single k s hs).steady.arrive_nothing hl hbetween
  have hsame : (s.manager.arrive 0 (.octets [])).1 = s.manager := congrArg Prod.fst hnothing
  rw [receive_eq, arrive_some hs, modify_manager_same hs hsame, hnothing]
  simp

theorem Beside.turn (h : c.Beside pings c') (hc : Orderly c.sessions) (net : Network) {e : Entry}
    (he : e.Admitted c) :
    Turn.Beside ((lacing net).note pings c e) ((lacing net).turn c e) (c'.act net e.laced) := by
  cases e with
  | act a =>
    have hnote : (lacing net).note pings c (.act a) = pings := noted_nil pings 0
    rw [hnote]
    exact (h.perform net a).heard
  | connect username password offers =>
    exact (h.connect net username password he rfl rfl).turn.heard
  | connectWithToken token offers => exact (h.connectWithToken net token he rfl rfl).turn.heard
  | receive k pieces =>
    obtain ⟨hevents, hclient⟩ := h.receive_laced he
    have hturn : Turn.Beside _ (.quiet (c.onSession k (·.receive 0 (Piece.plain pieces))))
        (.quiet (c'.onSession k (·.receive 0 (Piece.laced pieces)))) :=
      ⟨rfl, hevents, rfl, hclient⟩
    exact hturn.heard
  | insert k interludes =>
    obtain ⟨s, hs, l, hl, hbetween⟩ := he
    obtain ⟨hplain, hinterludes⟩ := Piece.interludes_only interludes
    have hadmits : ∀ x ∈ c.sessions[k]?, x.manager.Admits 0 (interludes.map .interlude) := by
      intro x hx y hy
      obtain rfl := Option.some.inj (hs.symm.trans hx)
      obtain rfl := Option.some.inj (hl.symm.trans hy)
      exact hbetween.admits interludes
    obtain ⟨hevents, hclient⟩ := h.receive_laced hadmits
    rw [hplain, hc.receive_nothing hs hl hbetween] at hevents hclient
    rw [hinterludes] at hclient
    have hturn : Turn.Beside _ (Turn.nothing c)
        (.quiet (c'.onSession k (·.receive 0 (Piece.laced (interludes.map .interlude))))) :=
      ⟨rfl, hevents, rfl, hclient⟩
    have hsilence : heardBy c.audience [] = [] := ite_self _
    have hheard := hturn.heard
    simp only [Turn.nothing, Turn.quiet, hsilence] at hheard
    exact hheard

end

theorem life_eq_lacing (net : Network) (c : Client) (actions : List Action) :
    life net c actions = (lacing net).life c actions := by
  induction actions generalizing c with
  | nil => rfl
  | cons a actions ih => exact congrArg _ (ih _)

theorem lacing_matched (net : Network) :
    (lacing net).Matched Turn.Beside Beside fun c => Orderly c.sessions where
  state h := h.client
  nothing _ := rfl
  kept hc a := (perform_evolves hc net a).orderly hc
  turn h hc he := h.turn hc net he

end Client

/-- However long a manager or a client lives, and wherever whole binary messages, pings and pongs
come to it between two messages of a connection: where nothing else comes it is as if nothing had
been done, and every other turn has the same result, the same requests and the same events. All that
a turn leaves behind is the same too, with the logs, the user and the frames on every wire, but that
between these stands one pong for each ping that came while neither side had closed. -/
theorem interludes_unnoticed (net : Network) :
    (∀ script : List Manager.Entry, (Manager.lacing net).Follows .fresh script →
      (Manager.lacing net).Abreast Manager.Turn.Beside (fun _ => []) .fresh script
        (Manager.life net .fresh (script.filterMap Manager.Entry.plain?))
        (Manager.life net .fresh (script.map Manager.Entry.laced))) ∧
    ∀ (server : Server) (clock : FixedClock) (audience : Audience) (script : List Client.Entry),
      let start := Client.fresh server clock audience
      (Client.lacing net).Follows start script →
        (Client.lacing net).Abreast Client.Turn.Beside (fun _ => []) start script
          (Client.life net start (script.filterMap Client.Entry.plain?))
          (Client.life net start (script.map Client.Entry.laced)) := by
  refine ⟨?_, ?_⟩
  · intro script hscript
    rw [Manager.life_eq_lacing, Manager.life_eq_lacing]
    exact (Manager.lacing_matched net).abreast Manager.fresh_beside .idle hscript
  · intro server clock audience script start hscript
    have horderly : Client.Orderly start.sessions :=
      Client.orderly_after net server clock audience []
    have hbeside : start.Beside (fun _ => []) start :=
      .but _ _ _ _ _ _ _ ⟨rfl, fun k x y hx => by simp at hx⟩ fun _ _ => rfl
    rw [Client.life_eq_lacing, Client.life_eq_lacing]
    exact (Client.lacing_matched net).abreast hbeside horderly hscript

def Socket.Interlude.pinging (n : UInt8) : Interlude :=
  .ofPayload .ping [n] (by simp [frameLimit]) (.inr ⟨.inl rfl, by simp⟩)

def Socket.Interlude.blob : Interlude := .ofPayload .binary [0, 255] (by decide) (.inl rfl)

def lacedAgreement (text : String) : Http.Offer :=
  .greeting ⟨101, none, some "Upgrade", some "websocket", true, [], true⟩ rfl
    [.interlude (.pinging 1), .octets (Client.textFrame text), .interlude .blob]

/-- A manager closes its first link, which brings a text and the close frame of the server yet, and
opens a second one. -/
def Manager.interrupted : List Manager.Entry :=
  [.dial chatUrl [lacedAgreement "a"], .insert 0 [.pinging 2, .blob], .act (.send "b"),
    .act .close, .insert 0 [.pinging 3],
    .receive 0 [.octets (Client.textFrame "late"), .interlude (.pinging 4),
      .octets (Frame.octets .close [3, 232])],
    .dial chatUrl [lacedAgreement "c"], .receive 1 [.interlude (.pinging 5), .octets [0x81]],
    .act (.hangUp 1)]

/-- A client sends, hears a bad text and a good one, and disconnects. On its second connection the
server closes. -/
def Client.interrupted : List Client.Entry :=
  [.connectWithToken ⟨"t"⟩ [.reply identity, lacedAgreement greetingText],
    .insert 0 [.pinging 2, .blob], .act (.send "general" "hello"),
    .receive 0 [.octets (textFrame "bad"), .interlude (.pinging 3),
      .octets (textFrame greetingText)],
    .act .disconnect, .insert 0 [.pinging 4],
    .connectWithToken ⟨"t"⟩ [.reply identity, lacedAgreement "bad"],
    .act (.receive 0 (textFrame greetingText)),
    .receive 1 [.interlude (.pinging 5), .octets (Frame.octets .close [3, 232])]]

theorem interludes_unnoticed_interrupted :
    (let net := Manager.everywhere
      let plain := Manager.interrupted.filterMap Manager.Entry.plain?
      let laced := Manager.interrupted.map Manager.Entry.laced
      (Manager.lacing net).Abreast Manager.Turn.Beside (fun _ => []) .fresh Manager.interrupted
          (Manager.life net .fresh plain) (Manager.life net .fresh laced) ∧
        (Manager.after net .fresh plain).links.map (·.wire) =
          [[.text "b", .close normal ""], []] ∧
        (Manager.after net .fresh laced).links.map (·.wire) =
          [[.pong [1], .pong [2], .text "b", .close normal ""], [.pong [1], .pong [5]]]) ∧
    (let net := Manager.everywhere
      let start := Client.newcomer
      let plain := Client.interrupted.filterMap Client.Entry.plain?
      let laced := Client.interrupted.map Client.Entry.laced
      (Client.lacing net).Abreast Client.Turn.Beside (fun _ => []) start Client.interrupted
          (Client.life net start plain) (Client.life net start laced) ∧
        (Client.after net start plain).sessions.flatMap
          (·.manager.links.map (·.wire.length)) = [2, 0] ∧
        (Client.after net start laced).sessions.flatMap
          (·.manager.links.map (·.wire.length)) = [5, 2]) := by
  have hall := interludes_unnoticed Manager.everywhere
  refine ⟨⟨?_, by decide +kernel, by decide +kernel⟩, ?_, by decide +kernel, by decide +kernel⟩
  · exact hall.1 Manager.interrupted (by decide +kernel)
  · exact hall.2 .standard (.ofMillis 0) .listening Client.interrupted (by decide +kernel)

end Parley
