import Parley.Proofs.Events

/-! Octets as they come in. How they are cut into arrivals makes no difference, as long as nothing
ends the reading; and a text that came whole leaves the endpoint as it was, so that what follows is
read as if the text had not been there. -/

namespace Parley.Socket

namespace Frame

def room (second : UInt8) : Nat :=
  lengthWidth second + if decide (128 ≤ second.toNat) = true then 4 else 0

def announced (second : UInt8) (bs : List UInt8) : Nat :=
  if lengthWidth second = 0 then second.toNat % 128 else ofBigEndian (bs.take (lengthWidth second))

def cut (first second : UInt8) (opcode : Opcode) (bs : List UInt8) : Frame × List UInt8 :=
  ({ final := decide (128 ≤ first.toNat)
     reserved := decide (first.toNat / 16 % 8 ≠ 0)
     opcode := opcode
     masked := decide (128 ≤ second.toNat)
     payload := (bs.drop (room second)).take (announced second bs) },
    (bs.drop (room second)).drop (announced second bs))

theorem read?_cons (first second : UInt8) (bs : List UInt8) :
    read? (first :: second :: bs) =
      if bs.length < room second then .ok none
      else match Opcode.ofNat? (first.toNat % 16) with
        | none => .error (.badOpcode (first.toNat % 16))
        | some opcode =>
          if frameLimit < announced second bs then
            .error (.tooLong (announced second bs) frameLimit)
          else if (bs.drop (room second)).length < announced second bs then .ok none
          else .ok (some (cut first second opcode bs)) := rfl

theorem announced_append {second : UInt8} {bs : List UInt8} (h : room second ≤ bs.length)
    (more : List UInt8) : announced second (bs ++ more) = announced second bs := by
  have hwidth : lengthWidth second ≤ bs.length := Nat.le_trans (Nat.le_add_right _ _) h
  rw [announced, announced, List.take_append_of_le_length hwidth]

theorem cut_append {second : UInt8} {bs : List UInt8} (h : room second ≤ bs.length)
    (hbody : announced second bs ≤ (bs.drop (room second)).length) (first : UInt8)
    (opcode : Opcode) (more : List UInt8) :
    cut first second opcode (bs ++ more) =
      ((cut first second opcode bs).1, (cut first second opcode bs).2 ++ more) := by
  simp only [cut, announced_append h, List.drop_append_of_le_length h,
    List.take_append_of_le_length hbody, List.drop_append_of_le_length hbody]

/-- A frame that has come whole stays the first one, whatever follows it. -/
theorem read?_append {bs rest : List UInt8} {f : Frame} (h : read? bs = .ok (some (f, rest)))
    (more : List UInt8) :
    rest.length < bs.length ∧ read? (bs ++ more) = .ok (some (f, rest ++ more)) := by
  match bs with
  | [] => simp [read?] at h
  | [_] => simp [read?] at h
  | first :: second :: bs =>
    rw [read?_cons] at h
    split at h
    · simp at h
    rename_i hroom
    split at h
    · simp at h
    rename_i opcode hopcode
    split at h
    · simp at h
    rename_i hlimit
    split at h
    · simp at h
    rename_i hbody
    have hcut := Option.some.inj (Except.ok.inj h)
    rw [Nat.not_lt] at hroom hbody
    constructor
    · obtain rfl : _ = rest := congrArg Prod.snd hcut
      simp only [cut, List.length_drop, List.length_cons]
      omega
    · have hlong : ¬ (bs ++ more).length < room second := by
        rw [List.length_append]
        omega
      have hbodies : ¬ ((bs ++ more).drop (room second)).length < announced second bs := by
        rw [List.drop_append_of_le_length hroom, List.length_append]
        omega
      rw [List.cons_append, List.cons_append, read?_cons, if_neg hlong, announced_append hroom,
        hopcode]
      simp only
      rw [if_neg hlimit, if_neg hbodies, cut_append hroom hbody, hcut]

/-- A length as the octets of a head: the second one, and those behind it. -/
structure Announces (n : Nat) (second : UInt8) (more : List UInt8) : Prop where
  unmasked : second.toNat < 128
  width : lengthWidth second = more.length
  value : (if more = [] then second.toNat else ofBigEndian more) = n

theorem lengthOctets_announces {n : Nat} (h : n ≤ frameLimit) :
    ∃ second more, lengthOctets n = second :: more ∧ Announces n second more := by
  have hlimit : n ≤ 16777216 := h
  unfold lengthOctets
  split
  · rename_i hn
    have hsecond : n.toUInt8.toNat = n := Nat.mod_eq_of_lt (by omega)
    refine ⟨_, [], rfl, by omega, ?_, by rw [if_pos rfl, hsecond]⟩
    unfold lengthWidth
    rw [hsecond, Nat.mod_eq_of_lt (by omega)]
    split
    · omega
    · omega
    · rfl
  split
  · rename_i hn
    have hhigh : (n / 256).toUInt8.toNat = n / 256 := Nat.mod_eq_of_lt (by omega)
    have hlow : n.toUInt8.toNat = n % 256 := rfl
    refine ⟨126, _, rfl, by decide, rfl, ?_⟩
    simp only [ofBigEndian, List.foldl_cons, List.foldl_nil, hhigh, hlow]
    simp
    omega
  · refine ⟨127, _, rfl, by decide, rfl, ?_⟩
    simp [ofBigEndian, List.range, List.range.loop]
    omega

theorem read?_octets (opcode : Opcode) {payload : List UInt8} (h : payload.length ≤ frameLimit) :
    read? (octets opcode payload) = .ok (some (⟨true, false, opcode, false, payload⟩, [])) := by
  obtain ⟨second, more, hoctets, hsecond⟩ := lengthOctets_announces h
  have hroom : room second = more.length := by
    simp [room, hsecond.width, hsecond.unmasked]
  have hlength : announced second (more ++ payload) = payload.length := by
    have hvalue := hsecond.value
    have := hsecond.unmasked
    unfold announced
    rw [hsecond.width]
    cases more with
    | nil =>
      rw [if_pos rfl] at hvalue
      rw [List.length_nil, if_pos rfl, ← hvalue]
      omega
    | cons b more =>
      rw [if_neg (List.cons_ne_nil b more)] at hvalue
      rw [if_neg (by simp), List.take_left, hvalue]
  have hfirst : ∀ o : Opcode, Opcode.ofNat? ((128 + o.toNat).toUInt8.toNat % 16) = some o ∧
      128 ≤ (128 + o.toNat).toUInt8.toNat ∧ (128 + o.toNat).toUInt8.toNat / 16 % 8 = 0 := by
    intro o
    cases o <;> decide
  obtain ⟨hopcode, hfinal, hreserved⟩ := hfirst opcode
  have hlimit : ¬ frameLimit < payload.length := Nat.not_lt.2 h
  rw [octets, raw, hoctets, List.cons_append, List.cons_append, read?_cons, hroom, hlength, hopcode]
  generalize (128 + opcode.toNat).toUInt8 = first at hfinal hreserved ⊢
  simp only
  rw [if_neg (by simp), if_neg hlimit, List.drop_left, if_neg (Nat.lt_irrefl _)]
  simp [cut, hroom, hlength, hfinal, hreserved, hsecond.unmasked]

end Frame

namespace Endpoint

def before (e : Endpoint) (bs : List UInt8) : Endpoint := { e with unread := bs }

def taken (bs : List UInt8) (r : Endpoint × Option Item) : Endpoint × Option Item :=
  (r.1.before bs, r.2)

theorem close_before (e : Endpoint) (bs : List UInt8) (code : Option Nat) :
    (e.before bs).close code = ((e.close code).1.before bs, (e.close code).2) := by
  unfold close before
  cases e.stage <;> rfl

theorem control_before (e : Endpoint) (bs : List UInt8) (f : Frame) :
    (e.before bs).control f = (e.control f).map (taken bs) := by
  unfold control
  split
  · rfl
  split
  · rfl
  split
  · split
    · rfl
    · simp only [close_before]
      rfl
  · rfl
  · rfl

theorem continueWith_before (e : Endpoint) (bs : List UInt8) (parts : Fragments) (f : Frame) :
    (e.before bs).continueWith parts f = (e.continueWith parts f).map (taken bs) := by
  unfold continueWith
  split
  · rfl
  split
  · split <;> rfl
  · rfl

theorem data_before (e : Endpoint) (bs : List UInt8) (f : Frame) :
    (e.before bs).data f = (e.data f).map (taken bs) := by
  have hparts : (e.before bs).fragments = e.fragments := rfl
  unfold data
  rw [hparts]
  split
  · exact continueWith_before _ _ _ _
  · rfl
  · rfl
  simp only
  split
  · exact continueWith_before _ _ _ _
  split
  · split <;> rfl
  · rfl

theorem accept_before (e : Endpoint) (bs : List UInt8) (f : Frame) :
    (e.before bs).accept f = (e.accept f).map (taken bs) := by
  have hstage : (e.before bs).stage = e.stage := rfl
  unfold accept
  rw [hstage]
  split
  · rfl
  split
  · rfl
  split
  · rfl
  split
  · exact control_before e bs f
  · exact data_before e bs f

theorem accept_unread {e e' : Endpoint} {f : Frame} {item? : Option Item}
    (h : e.accept f = .ok (e', item?)) : e'.unread = e.unread := by
  have hself : e.before e.unread = e := rfl
  have hbefore := accept_before e e.unread f
  rw [hself, h] at hbefore
  exact congrArg (fun r => r.1.unread) (Except.ok.inj hbefore)

/-- What is left of the reading behind a frame, `go` being the reading of what follows it. -/
def behind (e : Endpoint) (go : Endpoint → Endpoint × List Item) :
    Except Fault (Endpoint × Option Item) → Endpoint × List Item
  | .error fault => (e, [.failed fault, .ended])
  | .ok (e, none) => go e
  | .ok (e, some (.close code)) => (e, [.close code])
  | .ok (e, some item) => ((go e).1, item :: (go e).2)

section

variable {e : Endpoint} {n : Nat}

theorem readFrames_error {fault : Fault} (h : Frame.read? e.unread = .error fault) :
    readFrames (n + 1) e = (e, [.failed fault, .ended]) := by
  rw [readFrames, h]

theorem readFrames_none (h : Frame.read? e.unread = .ok none) : readFrames n e = (e, []) := by
  cases n with
  | zero => rfl
  | succ n => rw [readFrames, h]

theorem readFrames_some {f : Frame} {rest : List UInt8}
    (h : Frame.read? e.unread = .ok (some (f, rest))) :
    readFrames (n + 1) e = behind e (readFrames n) ((e.before rest).accept f) := by
  rw [readFrames, h, before]
  simp only
  cases accept { e with unread := rest } f with
  | error fault => rfl
  | ok r =>
    obtain ⟨e', item?⟩ := r
    cases item? with
    | none => rfl
    | some item => cases item <;> rfl

end

theorem behind_congr {e : Endpoint} {f : Frame} {rest : List UInt8}
    {go go' : Endpoint → Endpoint × List Item} (h : ∀ e', e'.unread = rest → go e' = go' e') :
    behind e go ((e.before rest).accept f) = behind e go' ((e.before rest).accept f) := by
  cases haccept : (e.before rest).accept f with
  | error fault => rfl
  | ok r =>
    obtain ⟨e', item?⟩ := r
    have hsame := h e' (accept_unread haccept)
    cases item? with
    | none => exact hsame
    | some item => cases item <;> simp [behind, hsame]

/-- As many rounds as there are octets are enough. -/
theorem readFrames_enough {n m : Nat} {e : Endpoint} (hn : e.unread.length ≤ n)
    (hm : e.unread.length ≤ m) : readFrames n e = readFrames m e := by
  induction n generalizing m e with
  | zero =>
    have hnil : e.unread = [] := List.length_eq_zero_iff.1 (Nat.le_zero.1 hn)
    have hnone : Frame.read? e.unread = .ok none := by rw [hnil]; rfl
    rw [readFrames_none hnone, readFrames_none hnone]
  | succ n ih =>
    cases m with
    | zero =>
      have hnil : e.unread = [] := List.length_eq_zero_iff.1 (Nat.le_zero.1 hm)
      have hnone : Frame.read? e.unread = .ok none := by rw [hnil]; rfl
      rw [readFrames_none hnone, readFrames_none hnone]
    | succ m =>
      match hread : Frame.read? e.unread with
      | .error fault => rw [readFrames_error hread, readFrames_error hread]
      | .ok none => rw [readFrames_none hread, readFrames_none hread]
      | .ok (some (f, rest)) =>
        have hshort := (Frame.read?_append hread []).1
        rw [readFrames_some hread, readFrames_some hread]
        refine behind_congr fun e' hunread => ?_
        refine ih ?_ ?_
        · rw [hunread]
          omega
        · rw [hunread]
          omega

def readAll (e : Endpoint) : Endpoint × List Item := readFrames e.unread.length e

theorem readAll_error {e : Endpoint} {fault : Fault} (h : Frame.read? e.unread = .error fault) :
    e.readAll = (e, [.failed fault, .ended]) := by
  rw [readAll, readFrames_enough (Nat.le_refl _) (Nat.le_succ _), readFrames_error h]

theorem readAll_none {e : Endpoint} (h : Frame.read? e.unread = .ok none) : e.readAll = (e, []) :=
  readFrames_none h

theorem readAll_some {e : Endpoint} {f : Frame} {rest : List UInt8}
    (h : Frame.read? e.unread = .ok (some (f, rest))) :
    e.readAll = behind e readAll ((e.before rest).accept f) := by
  have hshort := (Frame.read?_append h []).1
  rw [readAll, readFrames_enough (Nat.le_refl _) (Nat.le_succ _), readFrames_some h]
  refine behind_congr fun e' hunread => readFrames_enough ?_ (Nat.le_refl _)
  rw [hunread]
  omega

theorem behind_item {item : Item} (h : item.endCode? = none) (e e' : Endpoint)
    (go : Endpoint → Endpoint × List Item) :
    behind e go (.ok (e', some item)) = ((go e').1, item :: (go e').2) := by
  cases item with
  | close code => simp [Item.endCode?] at h
  | _ => rfl

theorem behind_end {item : Item} {code : Nat} (h : item.endCode? = some code) (e e' : Endpoint)
    (go : Endpoint → Endpoint × List Item) :
    endOf? (behind e go (.ok (e', some item))).2 = some code := by
  cases item with
  | close c => exact endOf?_cons_end h _
  | ended => exact endOf?_cons_end h _
  | _ => simp [Item.endCode?] at h

/-- Octets behind others are read as if they had come later, if nothing ends the reading before. -/
theorem readAll_append {e : Endpoint} (more : List UInt8) (h : endOf? e.readAll.2 = none) :
    (e.before (e.unread ++ more)).readAll =
      ((e.readAll.1.before (e.readAll.1.unread ++ more)).readAll.1,
        e.readAll.2 ++ (e.readAll.1.before (e.readAll.1.unread ++ more)).readAll.2) := by
  induction hlen : e.unread.length using Nat.strongRecOn generalizing e with
  | ind n ih =>
    match hread : Frame.read? e.unread with
    | .error fault =>
      rw [readAll_error hread] at h
      simp [endOf?, Item.endCode?] at h
    | .ok none =>
      rw [readAll_none hread]
      rfl
    | .ok (some (f, rest)) =>
      obtain ⟨hshort, happend⟩ := Frame.read?_append hread more
      have hmore : ((e.before (e.unread ++ more)).before (rest ++ more)).accept f =
          ((e.before rest).accept f).map (taken (rest ++ more)) :=
        accept_before (e.before rest) (rest ++ more) f
      rw [readAll_some hread] at h ⊢
      rw [readAll_some (e := e.before (e.unread ++ more)) happend, hmore]
      cases haccept : (e.before rest).accept f with
      | error fault =>
        rw [haccept] at h
        simp [behind, endOf?, Item.endCode?] at h
      | ok r =>
        obtain ⟨e', item?⟩ := r
        have hunread : e'.unread = rest := accept_unread haccept
        rw [haccept] at h
        have hrest := fun h => ih e'.unread.length (by rw [hunread]; omega) (e := e') h rfl
        rw [hunread] at hrest
        cases item? with
        | none => exact hrest h
        | some item =>
          cases hitem : item.endCode? with
          | some code =>
            rw [behind_end hitem] at h
            simp at h
          | none =>
            rw [behind_item hitem] at h ⊢
            simp only [Except.map, taken]
            rw [behind_item hitem, hrest ((endOf?_cons_other hitem _).symm.trans h)]
            rfl

theorem receive_eq (e : Endpoint) (bs : List UInt8) :
    e.receive bs = (e.before (e.unread ++ bs)).readAll := rfl

/-- How octets are cut into arrivals makes no difference while nothing ends the reading. -/
theorem receive_append {e : Endpoint} {bs : List UInt8} (h : endOf? (e.receive bs).2 = none)
    (more : List UInt8) :
    e.receive (bs ++ more) =
      (((e.receive bs).1.receive more).1,
        (e.receive bs).2 ++ ((e.receive bs).1.receive more).2) := by
  have hall := readAll_append (e := e.before (e.unread ++ bs)) more h
  rw [receive_eq, ← List.append_assoc]
  exact hall

/-- Octets that a whole text message comes in, in one frame or in many. -/
def Spells (bs : List UInt8) (s : String) : Prop := fresh.receive bs = (fresh, [.text s])

theorem spells_frame (s : String) (h : (Text.octets s).length ≤ frameLimit) :
    Spells (Frame.octets .text (Text.octets s)) s := by
  have hread : Frame.read? (fresh.before (Frame.octets .text (Text.octets s))).unread =
      .ok (some (⟨true, false, .text, false, Text.octets s⟩, [])) := Frame.read?_octets .text h
  have htext : wholeText (Text.octets s) = .ok s := by rw [wholeText, Text.ofOctets?_octets]
  have haccept : ((fresh.before (Frame.octets .text (Text.octets s))).before []).accept
      ⟨true, false, .text, false, Text.octets s⟩ = .ok (fresh, some (.text s)) := by
    simp [accept, data, before, fresh, Stage.canRead, Opcode.isControl, Opcode.toNat, htext]
  change (fresh.before ([] ++ _)).readAll = _
  rw [List.nil_append, readAll_some hread, haccept, behind_item rfl]
  rfl

theorem pongs_append (stage : Stage) (items more : List Item) :
    pongs stage (items ++ more) = pongs stage items ++ pongs stage more := by
  unfold pongs
  split
  · exact List.filterMap_append
  · rfl

end Endpoint

end Parley.Socket

namespace Parley.Connection.Link

open Socket

theorem heard_append {items : List Item} (h : endOf? items = none) (phase : Phase)
    (more : List Item) :
    endOf? (items ++ more) = endOf? more ∧
      heard phase (items ++ more) = heard phase items ++ heard phase more := by
  have hall : ∀ item ∈ items, item.endCode?.isNone = true := by
    intro item hitem
    simpa using List.findSome?_eq_none_iff.1 h item hitem
  have huntil : ∀ more, untilEnd (items ++ more) = items ++ untilEnd more :=
    fun _ => List.takeWhile_append_of_pos hall
  have hitems : untilEnd items = items := by
    have hnil := huntil []
    rwa [List.append_nil, show untilEnd [] = [] from rfl, List.append_nil] at hnil
  have hend : endOf? (items ++ more) = endOf? more := by
    unfold endOf? at h ⊢
    rw [List.findSome?_append, h, Option.none_or]
  refine ⟨hend, ?_⟩
  simp only [heard, hend, huntil, hitems, h, List.flatMap_append, Option.toList_none, List.map_nil,
    List.append_nil, List.append_assoc]

theorem arrive_append {l : Link} {front : List UInt8}
    (h : l.reading = true → endOf? (l.endpoint.receive front).2 = none) (phase : Phase)
    (back : List UInt8) :
    let first := l.arrive phase (.octets front)
    let second := first.1.arrive phase (.octets back)
    first.2.1 = phase ∧
      l.arrive phase (.octets (front ++ back)) =
        (second.1, second.2.1, first.2.2 ++ second.2.2) := by
  cases hr : l.reading with
  | false => simp [arrive, hr]
  | true =>
    have hend := h hr
    have hstage : (l.endpoint.receive front).1.stage = l.endpoint.stage := by
      rcases l.endpoint.receive_stage front with hs | hs
      · exact hs
      · rw [hend] at hs
        exact absurd hs Bool.false_ne_true
    simp only [arrive, hr, Arrival.items, Arrival.endpoint, Endpoint.receive_append hend back]
    obtain ⟨he, hheard⟩ := heard_append hend phase ((l.endpoint.receive front).1.receive back).2
    simp [he, hheard, hend, hstage, Endpoint.pongs_append]

end Parley.Connection.Link

namespace Parley.Manager

open Connection Socket

/-- On a manager with one link, a phase that an arrival keeps leaves the writer alone. -/
theorem Single.arrive_link {m : Manager} (h : m.Single) {l : Link} (hl : m.links = [l])
    {a : Link.Arrival} (hphase : (l.arrive m.phase a).2.1 = m.phase) :
    m.arrive 0 a = ({ m with links := [(l.arrive m.phase a).1] }, (l.arrive m.phase a).2.2) := by
  have hrest : (l.arrive m.phase a).1.rest m.phase = (l.arrive m.phase a).1 := by
    cases h with
    | @closed held found hdone =>
      obtain rfl : found = l := List.singleton_inj.1 hl
      exact Link.rest_of_not_writing (hdone.arrive .closed a).writing _
    | opened hlive => exact Link.rest_opened _
  rw [h.arrive_eq hl, hphase, hrest]

theorem Single.endOf?_items {m : Manager} (h : m.Single) {l : Link} (hl : m.links = [l])
    {a : Link.Arrival} (hend : ∀ code, .closed code ∉ (m.arrive 0 a).2) (hr : l.reading = true) :
    endOf? (a.items l.endpoint) = none := by
  cases hcode : endOf? (a.items l.endpoint) with
  | none => rfl
  | some code =>
    refine absurd ?_ (hend code)
    rw [h.arrive_eq hl]
    simp [Link.arrive, hr, Link.heard, hcode]

theorem Single.arrive_phase {m : Manager} (h : m.Single) {a : Link.Arrival}
    (hend : ∀ code, .closed code ∉ (m.arrive 0 a).2) : (m.arrive 0 a).1.phase = m.phase := by
  obtain ⟨l, hl⟩ := h.links_eq
  have hnone := h.endOf?_items hl hend
  rw [h.arrive_eq hl]
  cases hr : l.reading with
  | false => simp [Link.arrive, hr]
  | true => simp [Link.arrive, hr, hnone hr]

theorem Single.arrive_append {m : Manager} (h : m.Single) {front : List UInt8}
    (hend : ∀ code, .closed code ∉ (m.arrive 0 (.octets front)).2) (back : List UInt8) :
    let first := m.arrive 0 (.octets front)
    let second := first.1.arrive 0 (.octets back)
    m.arrive 0 (.octets (front ++ back)) = (second.1, first.2 ++ second.2) := by
  obtain ⟨l, hl⟩ := h.links_eq
  obtain ⟨hphase, hboth⟩ := Link.arrive_append (h.endOf?_items hl hend) m.phase back
  have hfirst := h.arrive_link hl hphase
  have hsingle := (tame_arrive (.octets front)).single m h
  simp only [hfirst] at hsingle ⊢
  rw [h.arrive_eq hl, hsingle.arrive_eq rfl, hboth]

end Parley.Manager

namespace Parley.Client

open Connection Socket

theorem closed_of_disconnected {c : Client} {k : Nat} {s : Session} (hk : c.sessions[k]? = some s)
    {a : Link.Arrival} (hend : ∀ code, .disconnected code ∉ (c.arrive k a).2) :
    ∀ code, .closed code ∉ (s.manager.arrive 0 a).2 := by
  intro code hin
  apply hend code
  rw [arrive_some hk]
  exact List.mem_map.2 ⟨_, hin, rfl⟩

/-- An arrival that does not end a connection leaves the client in its phase. -/
theorem arrive_phase {c : Client} (hc : Orderly c.sessions) {k : Nat} {a : Link.Arrival}
    (hend : ∀ code, .disconnected code ∉ (c.arrive k a).2) : (c.arrive k a).1.phase = c.phase := by
  cases hk : c.sessions[k]? with
  | none => rw [arrive_none hk]
  | some s =>
    have hphase := (hc.single k s hk).arrive_phase (closed_of_disconnected hk hend)
    have hphases : (c.arrive k a).1.sessions.map (·.manager.phase) =
        c.sessions.map (·.manager.phase) := by
      obtain ⟨hlt, rfl⟩ := List.getElem?_eq_some_iff.1 hk
      rw [arrive_some hk]
      simp only
      rw [← set_manager hk, List.map_set, hphase]
      apply List.ext_getElem (by simp)
      intro i hi hi'
      rw [List.getElem_set, List.getElem_map]
      split
      · subst_vars
        rfl
      · rfl
    unfold phase
    rw [← List.getLast?_map, ← List.getLast?_map, hphases]

/-- How the octets of the server are cut into arrivals makes no difference while the connection goes
on. -/
def Splices (c : Client) (net : Network) (k : Nat) : Prop :=
  ∀ front back : List UInt8,
    (∀ code, .disconnected code ∉ (c.perform net (.receive k front)).events) →
    let first := c.perform net (.receive k front)
    let second := first.client.perform net (.receive k back)
    c.perform net (.receive k (front ++ back)) =
      ⟨.ok none, second.client, first.events ++ second.events, .ofReplies []⟩

theorem splices {c : Client} (hc : Orderly c.sessions) (net : Network) (k : Nat) :
    c.Splices net k := by
  intro front back hend
  simp only [perform_receive, Turn.quiet] at hend ⊢
  cases hk : c.sessions[k]? with
  | none => simp [arrive_none hk]
  | some s =>
    have happend := (hc.single k s hk).arrive_append (closed_of_disconnected hk hend) back
    have hset := fun (g : Manager → Manager) => (set_manager hk g).symm
    have hthere : (c.sessions.set k
        ⟨s.user, (s.manager.arrive 0 (.octets front)).1⟩)[k]? =
          some ⟨s.user, (s.manager.arrive 0 (.octets front)).1⟩ :=
      List.getElem?_set_self (List.getElem?_eq_some_iff.1 hk).1
    have hfirst : (c.arrive k (.octets front)).1.sessions[k]? =
        some ⟨s.user, (s.manager.arrive 0 (.octets front)).1⟩ := by
      rw [arrive_some hk, hset]
      exact hthere
    rw [arrive_some hfirst, arrive_some hk, arrive_some hk]
    simp only [happend, hset, List.filterMap_append, List.map_append, List.append_assoc]
    rw [← set_manager hthere, List.set_set]

/-- A connection that is open and stands between two messages. -/
def Rests (c : Client) (k : Nat) : Prop :=
  ∃ s l, c.sessions[k]? = some s ∧ s.manager.phase = .opened ∧ s.manager.links = [l] ∧
    l.endpoint = .fresh

/-- A whole text that is no message is reported, and leaves everything as it was. -/
theorem perform_rejected {c : Client} (hc : Orderly c.sessions) (net : Network) {k : Nat}
    (hrests : c.Rests k) {octets : List UInt8} {text : String} {f : Failure}
    (hoctets : Endpoint.Spells octets text) (htext : Message.ofFrame text = .error f) :
    c.perform net (.receive k octets) = ⟨.ok none, c, [.failed f], .ofReplies []⟩ := by
  obtain ⟨s, l, hk, hp, hl, he⟩ := hrests
  obtain ⟨found, hlive, hm⟩ := (hc.single k s hk).opened_eq hp
  obtain rfl : found = l := by simpa [hm] using hl
  have hread : found.endpoint.receive octets = (found.endpoint, [.text text]) := by
    rw [he]
    exact hoctets
  have hlink : found.arrive .opened (.octets octets) = (found, .opened, [.text text]) := by
    have hitems : (Link.Arrival.octets octets).items found.endpoint = [.text text] := by
      rw [Link.Arrival.items, hread]
    have hafter : (Link.Arrival.octets octets).endpoint found.endpoint = found.endpoint := by
      rw [Link.Arrival.endpoint, hread]
    have hpongs : Endpoint.pongs found.endpoint.stage [.text text] = [] := by
      simp [Endpoint.pongs]
    have hsame : { found with reading := (endOf? [Item.text text]).isNone } = found := by
      rw [show (endOf? [Item.text text]).isNone = found.reading from hlive.reading.symm]
    simp only [Link.arrive, if_pos hlive.reading, hitems, hafter, hpongs, List.append_nil, hsame]
    rfl
  have hmanager : s.manager.arrive 0 (.octets octets) = (s.manager, [.text text]) := by
    rw [hm, Manager.Single.arrive_link (.opened hlive) rfl (congrArg (·.2.1) hlink), hlink]
  have hsame := modify_manager_same hk (g := fun m => (m.arrive 0 (.octets octets)).1)
    (congrArg Prod.fst hmanager)
  simp only [perform_receive, Turn.quiet, arrive_some hk, hsame, hmanager]
  simp [Signal.message?, Signal.event, htext, Except.toOption]

/-- A whole text that is no message is reported in its place, and all the rest goes as if it had not
been there. -/
def Skips (c : Client) (net : Network) (k : Nat) : Prop :=
  ∀ (front octets back : List UInt8) (text : String) (f : Failure),
    (c.perform net (.receive k front)).client.Rests k → Endpoint.Spells octets text →
    Message.ofFrame text = .error f →
    let first := c.perform net (.receive k front)
    let whole := c.perform net (.receive k (front ++ back))
    ∃ later, whole.events = first.events ++ later ∧
      c.perform net (.receive k (front ++ (octets ++ back))) =
        { whole with events := first.events ++ .failed f :: later }

theorem Rests.goes_on {c : Client} (hc : Orderly c.sessions) {net : Network} {k : Nat}
    {octets : List UInt8} (h : (c.perform net (.receive k octets)).client.Rests k) :
    ∀ code, .disconnected code ∉ (c.perform net (.receive k octets)).events := by
  intro code hin
  obtain ⟨s, l, hk, hp, -⟩ := h
  have hon : Step.eventsOn k ⟨c, .receive k octets, c.perform net (.receive k octets)⟩ =
      (c.perform net (.receive k octets)).events :=
    if_pos ⟨rfl, (List.getElem?_eq_some_iff.1 hk).1⟩
  rw [← hon] at hin
  obtain ⟨t, ht, htp⟩ := closedOn_of_disconnected hc hin
  rw [hk, Option.some.injEq] at ht
  rw [← ht, hp] at htp
  exact Phase.noConfusion htp

theorem skips {c : Client} (hc : Orderly c.sessions) (net : Network) (k : Nat) :
    c.Skips net k := by
  intro front octets back text f hrests hoctets htext first whole
  have hfirst : Orderly first.client.sessions := (perform_evolves hc net _).orderly hc
  have hrejected := perform_rejected hfirst net hrests hoctets htext
  -- the text is cut out on both sides, and what is left in front of it and behind it is joined
  have hwhole := splices hc net k front back (hrests.goes_on hc)
  have hwith := splices hc net k front (octets ++ back) (hrests.goes_on hc)
  have hbehind := splices hfirst net k octets back (by rw [hrejected]; simp)
  rw [hrejected] at hbehind
  refine ⟨_, congrArg Turn.events hwhole, ?_⟩
  rw [hwith, hbehind]
  simp only [whole, hwhole]
  rfl

end Parley.Client
