import Parley.Proofs.Abreast
import Parley.Proofs.Client

/-! Two clients that went through the same, but that the servers of the second have sent frames
between their messages as well. -/

namespace Parley

open Connection Socket

namespace Manager

def single (pings : List (List UInt8)) : Nat → List (List UInt8) := noted (fun _ => []) 0 pings

theorem noted_single (pings more : List (List UInt8)) :
    noted (single pings) 0 more = single (pings ++ more) :=
  noted_noted _ _ _ _

theorem fresh_beside : Beside (fun _ => []) fresh fresh :=
  .but _ _ ⟨rfl, fun k x y hx => by simp at hx⟩ fun _ _ => rfl

end Manager

inductive Session.Beside (pings : List (List UInt8)) : Session → Session → Prop
  | but (user : User) {m m' : Manager} (h : m.Beside (Manager.single pings) m') :
      Beside pings ⟨user, m⟩ ⟨user, m'⟩

namespace Client

/-- Two clients that are the same but for these pongs on the connections of the second. -/
inductive Beside (pings : Nat → List (List UInt8)) : Client → Client → Prop
  | but (server : Server) (clock : FixedClock) (audience : Audience) (token : Option Token)
      (user : Option User) (sent : List Envelope) (received : List Message)
      {sessions sessions' : List Session}
      (h : Rowwise (fun k => Session.Beside (pings k)) sessions sessions')
      (hbeyond : ∀ k, sessions.length ≤ k → pings k = []) :
      Beside pings ⟨server, clock, audience, sessions, token, user, sent, received⟩
        ⟨server, clock, audience, sessions', token, user, sent, received⟩

section Beside

variable {pings : Nat → List (List UInt8)} {c c' : Client}

theorem Beside.length (h : c.Beside pings c') : c'.sessions.length = c.sessions.length := by
  cases h with
  | but _ _ _ _ _ _ _ h _ => exact h.length

theorem Beside.server (h : c.Beside pings c') : c'.server = c.server := by
  cases h
  rfl

theorem Beside.audience (h : c.Beside pings c') : c'.audience = c.audience := by
  cases h
  rfl

theorem Beside.phase (h : c.Beside pings c') : c'.phase = c.phase := by
  cases h with
  | @but _ _ _ _ _ _ _ sessions sessions' h _ =>
    have hphases : sessions'.map (·.manager.phase) = sessions.map (·.manager.phase) :=
      h.map_eq fun k s s' hs => by
        cases hs with
        | but user hm => exact hm.phase
    simp only [Client.phase, ← List.getLast?_map, hphases]

theorem Beside.hear (h : c.Beside pings c') (user : User) (signals : List Signal) :
    (c'.hear user signals).2 = (c.hear user signals).2 ∧
      (c.hear user signals).1.Beside pings (c'.hear user signals).1 := by
  rw [hear_eq, hear_eq]
  cases h with
  | but _ _ _ _ _ _ _ h hbeyond => exact ⟨rfl, .but _ _ _ _ _ _ _ h hbeyond⟩

theorem Beside.place (h : c.Beside pings c') (k : Nat) :
    c.sessions[k]? = none ∧ c'.sessions[k]? = none ∨
      ∃ s s', c.sessions[k]? = some s ∧ c'.sessions[k]? = some s' ∧ s.Beside (pings k) s' := by
  cases h with
  | but _ _ _ _ _ _ _ h _ => exact h.place k

theorem Beside.set (h : c.Beside pings c') {k : Nat} {s x x' : Session}
    {more : List (List UInt8)} (hs : c.sessions[k]? = some s) (hx : x.Beside (pings k ++ more) x') :
    Beside (noted pings k more) { c with sessions := c.sessions.set k x }
      { c' with sessions := c'.sessions.set k x' } := by
  cases h with
  | but _ _ _ _ _ _ _ h hbeyond =>
    refine .but _ _ _ _ _ _ _ (h.set hx) ?_
    rw [List.length_set]
    exact noted_beyond hbeyond (List.getElem?_eq_some_iff.1 hs).1 more

theorem Beside.onSession (h : c.Beside pings c') (k : Nat)
    (f f' : Manager → Manager × List Signal) (more : List (List UInt8))
    (hmore : c.sessions[k]? = none → more = [])
    (hf : ∀ s m', c.sessions[k]? = some s → s.manager.Beside (Manager.single (pings k)) m' →
      (f' m').2 = (f s.manager).2 ∧
        (f s.manager).1.Beside (Manager.single (pings k ++ more)) (f' m').1) :
    (c'.onSession k f').2 = (c.onSession k f).2 ∧
      (c.onSession k f).1.Beside (noted pings k more) (c'.onSession k f').1 := by
  unfold Client.onSession
  rcases h.place k with ⟨hs, hs'⟩ | ⟨s, s', hs, hs', hss'⟩
  · rw [hmore hs, noted_nil, hs, hs']
    exact ⟨rfl, h⟩
  · cases hss' with
    | @but owner m m' hm =>
      obtain ⟨hsignals, hmanagers⟩ := hf _ m' hs hm
      simp only [hs, hs', hsignals]
      exact (h.set hs (.but owner hmanagers)).hear _ _

theorem Beside.sendOn (h : c.Beside pings c') (k : Nat)
    (f : Manager → Except Failure Unit × Manager × List Signal)
    (hf : ∀ {qs m m'}, Manager.Beside qs m m' → (f m').1 = (f m).1 ∧ (f m').2.2 = (f m).2.2 ∧
      (f m).2.1.Beside qs (f m').2.1) :
    (c'.sendOn k f).1 = (c.sendOn k f).1 ∧ (c'.sendOn k f).2.2 = (c.sendOn k f).2.2 ∧
      (c.sendOn k f).2.1.Beside pings (c'.sendOn k f).2.1 := by
  unfold Client.sendOn
  rcases h.place k with ⟨hs, hs'⟩ | ⟨s, s', hs, hs', hss'⟩
  · simp only [hs, hs']
    exact ⟨trivial, trivial, h⟩
  · cases hss' with
    | @but owner m m' hm =>
      obtain ⟨hresult, hsignals, hmanagers⟩ := hf hm
      rw [← List.append_nil (pings k)] at hmanagers
      have hset := h.set hs (.but owner hmanagers)
      rw [noted_nil] at hset
      simp only [hs, hs', hresult, hsignals]
      exact ⟨trivial, hset.hear _ _⟩

theorem Beside.closeLast (h : c.Beside pings c') :
    c'.closeLast.2 = c.closeLast.2 ∧ c.closeLast.1.Beside pings c'.closeLast.1 := by
  unfold Client.closeLast
  rw [h.length]
  have hclosed := h.onSession (c.sessions.length - 1) (·.close) (·.close) [] (fun _ => rfl)
    fun s m' _ hm => by
      rw [List.append_nil]
      exact hm.close
  rwa [noted_nil] at hclosed

theorem Beside.disconnect (h : c.Beside pings c') :
    c'.disconnect.2 = c.disconnect.2 ∧ c.disconnect.1.Beside pings c'.disconnect.1 := by
  obtain ⟨hevents, hclosed⟩ := h.closeLast
  refine ⟨hevents, ?_⟩
  simp only [Client.disconnect]
  generalize c.closeLast.1 = d at hclosed ⊢
  generalize c'.closeLast.1 = d' at hclosed ⊢
  cases hclosed with
  | but _ _ _ _ _ _ _ h hbeyond => exact .but _ _ _ _ _ _ _ h hbeyond

theorem Beside.send (h : c.Beside pings c') (chatId text : String) :
    (c'.send chatId text).1 = (c.send chatId text).1 ∧
      (c'.send chatId text).2.2 = (c.send chatId text).2.2 ∧
      (c.send chatId text).2.1.Beside pings (c'.send chatId text).2.1 := by
  have huser : c'.user = c.user := by
    cases h
    rfl
  have hclock : c'.clock = c.clock := by
    cases h
    rfl
  unfold Client.send
  rw [huser, hclock, h.phase, h.length]
  split
  · exact ⟨rfl, rfl, h⟩
  split
  · exact ⟨rfl, rfl, h⟩
  · rename_i user _ _
    obtain ⟨hresult, hevents, hsent⟩ := h.sendOn (c.sessions.length - 1)
      (·.send (Envelope.seal user chatId text c.clock.now).toFrame) fun hm => hm.send _
    simp only [Manager.Conduct.settled_sendThrough]
    generalize c.sendOn (c.sessions.length - 1) _ = r at hresult hevents hsent ⊢
    generalize c'.sendOn (c.sessions.length - 1) _ = r' at hresult hevents hsent ⊢
    obtain ⟨result, d, events⟩ := r
    obtain ⟨result', d', events'⟩ := r'
    obtain rfl : result' = result := hresult
    obtain rfl : events' = events := hevents
    cases result' with
    | error f => exact ⟨rfl, rfl, hsent⟩
    | ok _ =>
      cases hsent with
      | but _ _ _ _ _ _ _ h hbeyond => exact ⟨rfl, rfl, .but _ _ _ _ _ _ _ h hbeyond⟩

/-- What the interludes behind the answer that has opened a connection are answered with. -/
def greeted (result : Except Failure User) (offers : List Http.Offer)
    (requests : List Http.Request) : List (List UInt8) :=
  match result with
  | .ok _ =>
    answered .active
      (Piece.interludes (Http.Offer.first (offers.drop (requests.length - 1))).pieces)
  | .error _ => []

/-- Two attempts that come to the same but for pongs on the connection that they have opened. -/
structure Attempt.Beside (pings : Nat → List (List UInt8)) (k : Nat) (offers : List Http.Offer)
    (r s : Http.Remote) (t t' : Attempt) : Prop where
  result : t'.result = t.result
  events : t'.events = t.events
  made : ∃ qs, t.remote = r.advance qs ∧ t'.remote = s.advance qs ∧
    (∀ user, t.result = .ok user → qs ≠ []) ∧
    t.client.Beside (noted pings k (greeted t.result offers qs)) t'.client

theorem Attempt.Beside.failed (h : c.Beside pings c') (k : Nat) (offers : List Http.Offer)
    {r s : Http.Remote} (f : Failure) (events : List Event) (qs : List Http.Request) :
    Attempt.Beside pings k offers r s ⟨.error f, c, events, r.advance qs⟩
      ⟨.error f, c', events, s.advance qs⟩ :=
  ⟨rfl, rfl, qs, rfl, rfl, fun _ h => by simp at h, by rwa [greeted, noted_nil]⟩

theorem Attempt.Beside.refused (h : c.Beside pings c') (k : Nat) (offers : List Http.Offer)
    (r s : Http.Remote) (f : Failure) :
    Attempt.Beside pings k offers r s ⟨.error f, c, [], r⟩ ⟨.error f, c', [], s⟩ := by
  have hfailed := failed h k offers f [] [] (r := r) (s := s)
  rwa [Http.Remote.advance_nil, Http.Remote.advance_nil] at hfailed

theorem Attempt.Beside.earlier {k : Nat} {offers : List Http.Offer} {r s : Http.Remote}
    {t t' : Attempt} (qs : List Http.Request)
    (h : Attempt.Beside pings k (offers.drop qs.length) (r.advance qs) (s.advance qs) t t') :
    Attempt.Beside pings k offers r s t t' := by
  obtain ⟨hresult, hevents, rs, hr, hs, hne, hclient⟩ := h
  refine ⟨hresult, hevents, qs ++ rs, ?_, ?_, ?_, ?_⟩
  · rw [hr, Http.Remote.advance_advance]
  · rw [hs, Http.Remote.advance_advance]
  · intro user huser
    exact List.append_ne_nil_of_right_ne_nil qs (hne user huser)
  · cases hresult : t.result with
    | error f => simpa [hresult, greeted] using hclient
    | ok user =>
      have hpos := List.length_pos_iff.2 (hne user hresult)
      have hlast : (qs ++ rs).length - 1 = qs.length + (rs.length - 1) := by
        rw [List.length_append]
        omega
      rw [hresult] at hclient
      simp only [greeted, List.drop_drop] at hclient ⊢
      rwa [hlast]

theorem onSession_length (c : Client) (k : Nat) (f : Manager → Manager × List Signal) :
    (c.onSession k f).1.sessions.length = c.sessions.length := by
  cases hk : c.sessions[k]? with
  | none => rw [onSession_none hk]
  | some s =>
    rw [onSession_some hk]
    exact List.length_modify ..

/-- A further session each, with the pongs that have been written on it already. -/
theorem Beside.joined (h : c.Beside pings c') {qs : List (List UInt8)} {m m' : Manager}
    (hm : m.Beside (Manager.single qs) m') (token : Token) (user : User) :
    Beside (noted pings c.sessions.length qs)
      { c with sessions := c.sessions ++ [⟨user, m⟩], token := some token, user := some user }
      { c' with
        sessions := c'.sessions ++ [⟨user, m'⟩], token := some token, user := some user } := by
  cases h with
  | but _ _ _ _ _ _ _ h hbeyond =>
    refine .but _ _ _ _ _ _ _ (h.concat_noted (hbeyond _ (Nat.le_refl _)) (.but user hm)) ?_
    intro n hn
    rw [List.length_append, List.length_singleton] at hn
    have hne : n ≠ _ := Nat.ne_of_gt hn
    rw [noted, if_neg hne, hbeyond n (Nat.le_of_succ_le hn), List.append_nil]

theorem Beside.openWith (h : c.Beside pings c') (net : Network) (token : Token)
    {offers : List Http.Offer} (hadmits : ∀ offer ∈ offers, Endpoint.fresh.Admits offer.pieces)
    {r s : Http.Remote} (hr : r.replies = offers.map Http.Offer.plain)
    (hs : s.replies = offers.map Http.Offer.laced) :
    Attempt.Beside pings c.sessions.length offers r s (c.openWith net token r)
      (c'.openWith net token s) := by
  have hsame := Http.Offer.same_replies hr hs
  obtain ⟨result, qs, hmine, hyours⟩ := c.server.identify_same net token hsame
  unfold Client.openWith
  rw [h.server, hmine, hyours]
  cases result with
  | error f => exact .failed h _ _ _ _ _
  | ok user =>
    cases c.server.chatUrl token with
    | error f => exact .failed h _ _ _ _ _
    | ok url =>
      apply Attempt.Beside.earlier qs
      obtain ⟨hresult, hsignals, ⟨rs, hremote, hremote', hone⟩, hmanager⟩ :=
        Manager.fresh_beside.dial net url (offers.drop qs.length)
          (fun offer hoffer => hadmits offer (List.mem_of_mem_drop hoffer))
          (r := r.advance qs) (s := s.advance qs)
          (by rw [Http.Remote.advance, hr, List.map_drop])
          (by rw [Http.Remote.advance, hs, List.map_drop])
      simp only [Manager.Conduct.settled_establish]
      generalize Manager.fresh.dial net url (r.advance qs) = turn at *
      generalize Manager.fresh.dial net url (s.advance qs) = turn' at *
      obtain ⟨hevents, hheard⟩ := h.hear user turn.signals
      rw [hresult, hsignals]
      cases hturn : turn.result with
      | error f =>
        simp only [hevents, hremote, hremote']
        exact .failed hheard _ _ _ _ _
      | ok _ =>
        obtain ⟨hmore, hclosed⟩ := hheard.closeLast
        simp only [hevents, hmore, hremote, hremote']
        refine ⟨rfl, rfl, rs, rfl, rfl, ?_, ?_⟩
        · intro _ _
          exact List.ne_nil_of_length_pos (by rw [hone hturn]; exact Nat.one_pos)
        · have hlength : (c.hear user turn.signals).1.closeLast.1.sessions.length =
              c.sessions.length := by
            rw [Client.closeLast, onSession_length, hear_eq]
          have hopened : turn.manager.Beside
              (Manager.single (greeted (.ok user) (offers.drop qs.length) rs)) turn'.manager := by
            simp only [greeted, hone hturn, Nat.sub_self, List.drop_zero]
            rwa [hturn] at hmanager
          rw [← hlength]
          exact hclosed.joined hopened token user

theorem Beside.connect (h : c.Beside pings c') (net : Network) (username password : String)
    {offers : List Http.Offer} (hadmits : ∀ offer ∈ offers, Endpoint.fresh.Admits offer.pieces)
    {r s : Http.Remote} (hr : r.replies = offers.map Http.Offer.plain)
    (hs : s.replies = offers.map Http.Offer.laced) :
    Attempt.Beside pings c.sessions.length offers r s (c.connect net username password r)
      (c'.connect net username password s) := by
  have hsame := Http.Offer.same_replies hr hs
  unfold Client.connect
  rw [h.server, h.phase]
  cases Credentials.make username password with
  | error f => exact .refused h _ _ _ _ _
  | ok credentials =>
    by_cases hlive : c.phase.isLive = true
    · simp only [if_pos hlive]
      exact .refused h _ _ _ _ _
    obtain ⟨result, qs, hmine, hyours⟩ := c.server.login_same net credentials hsame
    simp only [if_neg hlive, hmine, hyours]
    cases result with
    | error f => exact .failed h _ _ _ _ _
    | ok token =>
      apply Attempt.Beside.earlier qs
      exact h.openWith net token (fun offer hoffer => hadmits offer (List.mem_of_mem_drop hoffer))
        (by rw [Http.Remote.advance, hr, List.map_drop])
        (by rw [Http.Remote.advance, hs, List.map_drop])

theorem Beside.connectWithToken (h : c.Beside pings c') (net : Network) (token : Token)
    {offers : List Http.Offer} (hadmits : ∀ offer ∈ offers, Endpoint.fresh.Admits offer.pieces)
    {r s : Http.Remote} (hr : r.replies = offers.map Http.Offer.plain)
    (hs : s.replies = offers.map Http.Offer.laced) :
    Attempt.Beside pings c.sessions.length offers r s (c.connectWithToken net token r)
      (c'.connectWithToken net token s) := by
  unfold Client.connectWithToken
  rw [h.phase]
  split
  · exact .refused h _ _ _ _ _
  split
  · exact .refused h _ _ _ _ _
  · exact h.openWith net token hadmits hr hs

end Beside

end Client

end Parley
