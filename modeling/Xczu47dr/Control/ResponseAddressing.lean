import Xczu47dr.Control.ResponsePath

/-! # Where responses go

`rfctrl2_udp_response_tx` watches the received packets and keeps the address of
one request.  Responses are presented to it one after the other, in any order;
which request a response answers is written in its words.
-/

namespace Xczu47dr.Control

open Clocked

deriving instance DecidableEq for Requester

inductive ControlProtocol
  | rfctrl2
  | wavectr0
  deriving DecidableEq

/-- What a response repeats of its request. -/
structure RequestKey where
  protocol : ControlProtocol
  opcode : BitVec 32
  sequence : BitVec 32
  deriving DecidableEq

/-- The key in the second and third word of a packet. -/
def keyOf (protocol : ControlProtocol) (hdr0 hdr1 : BitVec 64) : RequestKey :=
  ⟨protocol, hdr0.extractLsb' 32 32, hdr1.extractLsb' 0 32⟩

/-- The request a packet carries that begins with these words. -/
def requestOf : List (BitVec 64) → Option RequestKey
  | magic :: hdr0 :: hdr1 :: _ =>
    if magic = 0x00324C5254434652 then some (keyOf .rfctrl2 hdr0 hdr1)
    else if magic = 0x5741564543545230 then some (keyOf .wavectr0 hdr0 hdr1)
    else none
  | _ => none

def answeredBy : List (BitVec 64) → Option RequestKey
  | magic :: hdr0 :: hdr1 :: _ =>
    if magic = rfresp2Magic then some (keyOf .rfctrl2 hdr0 hdr1)
    else if magic = WaveEvent.magic then some (keyOf .wavectr0 hdr0 hdr1)
    else none
  | _ => none

/-! ## The transmitter and its responses -/

/-- The transmitter and the response presented to it, with the place of its next word. -/
structure AnsweringTx where
  tx : ResponseTx
  presented : Option (List (BitVec 64) × Nat)

/-- What the transmitter samples, and the response that is presented next. -/
structure AnsweringIn where
  tx : TxIn
  response : List (BitVec 64)
  deriving Inhabited

/-- What happens on the link.  A response begins when its address is latched, with the
    request it answers; it ends with its last word. -/
inductive LinkEvent
  | begins (answers : Option RequestKey) (ip : BitVec 32) (port : BitVec 16)
  | header (sender : Requester)
  | word (data : BitVec 64)
  | ends
  deriving DecidableEq

namespace AnsweringTx

variable (s : AnsweringTx) (i : AnsweringIn)

def reset : AnsweringTx := ⟨.reset, none⟩

def offer : Offer :=
  match s.presented with
  | none => ⟨false, 0, false, 0⟩
  | some (words, place) => ⟨true, words.getD place 0, place + 1 == words.length, words.length⟩

def step : AnsweringTx where
  tx := s.tx.step i.tx s.offer
  presented :=
    match s.presented with
    | none => if i.response.isEmpty then none else some (i.response, 0)
    | some (words, place) =>
      if s.tx.fires i.tx s.offer then
        if place + 1 = words.length then none else some (words, place + 1)
      else some (words, place)

/-- The response whose address is latched in this cycle. -/
def begun : List LinkEvent :=
  if s.tx.latches i.tx s.offer then
    [.begins (answeredBy ((s.presented.map Prod.fst).getD [])) (s.tx.step i.tx s.offer).destIp
      (s.tx.step i.tx s.offer).destPort]
  else []

/-- What is received in this cycle, and the end of a response. -/
def received : List LinkEvent :=
  (if i.tx.rxHeaderFire then [.header i.tx.rx] else []) ++
  ((if i.tx.rxPayloadFire then [.word i.tx.rxPayloadData] else []) ++
  (if s.tx.fires i.tx s.offer && s.tx.final s.offer then [.ends] else []))

/-- An address is latched from the registers as they are before the cycle, so a response
    begins before what is received in the same cycle. -/
def events : List LinkEvent := s.begun i ++ s.received i

end AnsweringTx

def answeringTx : Machine AnsweringIn AnsweringTx where
  reset := .reset
  step := AnsweringTx.step

/-! ## Who asked, and who was heard -/

/-- The packet being received and the requests received so far. -/
structure Ledger where
  sender : Requester
  words : List (BitVec 64)
  requests : List (RequestKey × Requester)

namespace Ledger

/-- A request is received with its third word. -/
def next (l : Ledger) : LinkEvent → Ledger
  | .header sender => { l with sender := sender, words := [] }
  | .word data =>
    { l with
      words := l.words ++ [data]
      requests := if l.words.length = 2 then
          ((requestOf (l.words ++ [data])).map fun key => (key, l.sender)).toList ++ l.requests
        else l.requests }
  | _ => l

end Ledger

/-- The requests received, the latest first. -/
def requestsReceived (log : List LinkEvent) : List (RequestKey × Requester) :=
  (log.foldl Ledger.next ⟨defaultRequester, [], []⟩).requests

/-- Who asked for the response to `key`. -/
def asker (log : List LinkEvent) (key : RequestKey) : Option Requester := (requestsReceived log).lookup key

/-- Every response goes to the address its request came from. -/
def ToRequester (log : List LinkEvent) : Prop :=
  ∀ before key ip port after, log = before ++ .begins (some key) ip port :: after →
    ∀ host, asker before key = some host → ip = host.sourceIp ∧ port = host.sourcePort

/-- The sender of the last packet, and the sender of the first word since the last response
    ended that looks like a request. -/
structure Heard where
  last : Requester
  first : Option Requester

/-- One of the four magics the transmitter knows. -/
def isRequestMagic (data : BitVec 64) : Bool :=
  ResponseTx.requestMagic { (default : TxIn) with rxPayloadData := data }

namespace Heard

def next (h : Heard) : LinkEvent → Heard
  | .header sender => { h with last := sender }
  | .word data => if h.first.isNone && isRequestMagic data then { h with first := some h.last } else h
  | .ends => { h with first := none }
  | .begins _ _ _ => h

end Heard

def heard (log : List LinkEvent) : Heard := log.foldl Heard.next ⟨defaultRequester, none⟩

/-- Responses are begun while the one who asked is the one who was heard: the first magic
    word since the last response ended came from there or, without any, the last packet. -/
def AnsweredInTurn (log : List LinkEvent) : Prop :=
  ∀ before key ip port after, log = before ++ .begins (some key) ip port :: after →
    ∀ host, asker before key = some host →
      (∀ other, (heard before).first = some other →
        other.sourceIp = host.sourceIp ∧ other.sourcePort = host.sourcePort) ∧
      ((heard before).first = none →
        (heard before).last.sourceIp = host.sourceIp ∧ (heard before).last.sourcePort = host.sourcePort)

/-! ## The latch keeps whom it has heard -/

namespace AnsweringTx

/-- The requester registers say who was heard. -/
structure Tracks (s : AnsweringTx) (h : Heard) : Prop where
  pending : s.tx.pending = h.last
  request : h.first = if s.tx.requestInflight then some s.tx.request else none

variable {s : AnsweringTx} {i : AnsweringIn} {h : Heard}

theorem Tracks.address (tracks : s.Tracks h) (latches : s.tx.latches i.tx s.offer = true) :
    (∀ other, h.first = some other → (s.tx.step i.tx s.offer).destIp = other.sourceIp ∧
      (s.tx.step i.tx s.offer).destPort = other.sourcePort) ∧
    (h.first = none → (s.tx.step i.tx s.offer).destIp = h.last.sourceIp ∧
      (s.tx.step i.tx s.offer).destPort = h.last.sourcePort) := by
  have idle : s.tx.state = .idle := by
    simp only [ResponseTx.latches, Bool.and_eq_true, beq_iff_eq] at latches
    exact latches.1.1.1
  have request := tracks.request
  simp only [ResponseTx.step, idle, latches, if_true]
  cases inflight : s.tx.requestInflight with
  | true =>
    rw [inflight, if_pos rfl] at request
    rw [request]
    refine ⟨fun other same => ?_, nofun⟩
    cases same
    exact ⟨rfl, rfl⟩
  | false =>
    rw [inflight, if_neg Bool.false_ne_true] at request
    rw [request]
    refine ⟨nofun, fun _ => ?_⟩
    rw [← tracks.pending]
    exact ⟨rfl, rfl⟩

/-- The requester registers after the bookkeeping. -/
theorem receive_tracks (t : ResponseTx) (i : TxIn) :
    (t.receive i).pending = (if i.rxHeaderFire then i.rx else t.pending) ∧
    (t.receive i).requestInflight = (t.requestInflight || (i.rxPayloadFire && isRequestMagic i.rxPayloadData)) ∧
    (t.receive i).request =
      if !t.requestInflight && (i.rxPayloadFire && isRequestMagic i.rxPayloadData) then (t.receive i).pending
      else t.request := by
  have magic : ResponseTx.requestMagic i = isRequestMagic i.rxPayloadData := rfl
  unfold ResponseTx.receive
  rw [magic]
  cases t.requestInflight <;> cases i.rxPayloadFire <;> cases isRequestMagic i.rxPayloadData <;> simp

/-- The state machine leaves the requester registers alone, but for the end of a response. -/
theorem step_tracks (t : ResponseTx) (i : TxIn) (o : Offer) :
    (t.step i o).pending = (t.receive i).pending ∧ (t.step i o).request = (t.receive i).request ∧
      (t.step i o).requestInflight = ((t.receive i).requestInflight && !(t.fires i o && t.final o)) := by
  have only_payload : t.state ≠ .payload → t.fires i o = false := fun other => by
    rw [ResponseTx.fires, ResponseTx.ready, beq_eq_false_iff_ne.mpr other, Bool.false_and, Bool.and_false]
  unfold ResponseTx.step
  cases at_ : t.state with
  | idle =>
    rw [only_payload (by rw [at_]; decide)]
    cases t.latches i o <;> simp
  | header =>
    rw [only_payload (by rw [at_]; decide)]
    cases t.headerValid && i.headerReady <;> simp
  | payload =>
    cases t.fires i o <;> cases t.final o <;> simp

theorem Tracks.step (tracks : s.Tracks h) : (s.step i).Tracks ((s.events i).foldl Heard.next h) := by
  obtain ⟨pending, request, inflight⟩ := step_tracks s.tx i.tx s.offer
  obtain ⟨context, locks, owner⟩ := receive_tracks s.tx i.tx
  have first := tracks.request
  have last := tracks.pending
  -- the context after the header, then the lock after the word, then its release
  obtain ⟨opened, opened_eq, opened_last, opened_first⟩ : ∃ opened : Heard,
      (if i.tx.rxHeaderFire then [LinkEvent.header i.tx.rx] else []).foldl Heard.next h = opened ∧
        opened.last = (s.tx.receive i.tx).pending ∧ opened.first = h.first := by
    cases fire : i.tx.rxHeaderFire with
    | true => exact ⟨_, rfl, by rw [context, fire]; rfl, rfl⟩
    | false => exact ⟨_, rfl, by rw [context, fire, if_neg Bool.false_ne_true, last]; rfl, rfl⟩
  obtain ⟨locked, locked_eq, locked_last, locked_first⟩ : ∃ locked : Heard,
      (if i.tx.rxPayloadFire then [LinkEvent.word i.tx.rxPayloadData] else []).foldl Heard.next opened = locked ∧
        locked.last = (s.tx.receive i.tx).pending ∧ locked.first =
          if (s.tx.receive i.tx).requestInflight then some (s.tx.receive i.tx).request else none := by
    rw [owner, locks, ← opened_last]
    cases fire : i.tx.rxPayloadFire with
    | false =>
      refine ⟨opened, rfl, rfl, ?_⟩
      rw [opened_first, first]
      simp
    | true =>
      cases magic : isRequestMagic i.tx.rxPayloadData with
      | false => exact ⟨opened, by simp [Heard.next, magic], rfl, by rw [opened_first, first]; simp⟩
      | true =>
        cases held : s.tx.requestInflight with
        | true =>
          rw [held, if_pos rfl] at first
          exact ⟨opened, by simp [Heard.next, magic, opened_first, first], rfl, by rw [opened_first, first]; simp⟩
        | false =>
          rw [held, if_neg Bool.false_ne_true] at first
          exact ⟨{ opened with first := some opened.last }, by simp [Heard.next, magic, opened_first, first], rfl, by simp⟩
  have begun : (s.begun i).foldl Heard.next h = h := by
    unfold begun
    cases s.tx.latches i.tx s.offer <;> rfl
  rw [events, List.foldl_append, begun, received, List.foldl_append, opened_eq, List.foldl_append, locked_eq]
  constructor
  · change (s.tx.step i.tx s.offer).pending = _
    rw [pending, ← locked_last]
    cases s.tx.fires i.tx s.offer && s.tx.final s.offer <;> rfl
  · change _ = if (s.tx.step i.tx s.offer).requestInflight then some (s.tx.step i.tx s.offer).request else none
    rw [inflight, request]
    cases s.tx.fires i.tx s.offer && s.tx.final s.offer with
    | true =>
      rw [Bool.not_true, Bool.and_false]
      rfl
    | false =>
      rw [Bool.not_false, Bool.and_true]
      exact locked_first

theorem not_begins_received (key : Option RequestKey) (ip : BitVec 32) (port : BitVec 16) :
    LinkEvent.begins key ip port ∉ s.received i := by
  unfold received
  cases i.tx.rxHeaderFire <;> cases i.tx.rxPayloadFire <;>
    cases s.tx.fires i.tx s.offer && s.tx.final s.offer <;> simp

/-- Only the first event of a cycle can be the beginning of a response. -/
theorem begins_in_events {front after : List LinkEvent} {key : Option RequestKey} {ip : BitVec 32}
    {port : BitVec 16} (found : s.events i = front ++ .begins key ip port :: after) :
    front = [] ∧ s.tx.latches i.tx s.offer = true ∧ (s.tx.step i.tx s.offer).destIp = ip ∧
      (s.tx.step i.tx s.offer).destPort = port := by
  have elsewhere := not_begins_received (s := s) (i := i) key ip port
  unfold events begun at found
  cases latches : s.tx.latches i.tx s.offer with
  | false =>
    rw [latches, if_neg Bool.false_ne_true, List.nil_append] at found
    exact absurd (found ▸ List.mem_append_right front List.mem_cons_self) elsewhere
  | true =>
    rw [latches, if_pos rfl, List.singleton_append] at found
    cases front with
    | nil =>
      rw [List.nil_append, List.cons.injEq, LinkEvent.begins.injEq] at found
      exact ⟨rfl, rfl, found.1.2.1, found.1.2.2⟩
    | cons first front =>
      rw [List.cons_append, List.cons.injEq] at found
      exact absurd (found.2 ▸ List.mem_append_right front List.mem_cons_self) elsewhere

end AnsweringTx

/-- The registers say who was heard in the run. -/
theorem tracks_run (inputs : List AnsweringIn) :
    (answeringTx.run answeringTx.reset inputs).Tracks
      (heard (answeringTx.log AnsweringTx.events answeringTx.reset inputs)) := by
  induction inputs using List.reverseRecOn with
  | nil => exact ⟨rfl, rfl⟩
  | append_singleton is i ih =>
    rw [Machine.run_append, Machine.log_append, heard, List.foldl_append]
    simp only [Machine.log_cons, Machine.log_nil, List.append_nil]
    exact ih.step

/-- The address of a packet does not change once its response has begun. -/
theorem address_held (t : ResponseTx) (i : TxIn) (o : Offer) (latches : t.latches i o = false) :
    (t.step i o).destIp = t.destIp ∧ (t.step i o).destPort = t.destPort := by
  have kept : (t.receive i).destIp = t.destIp ∧ (t.receive i).destPort = t.destPort := by
    unfold ResponseTx.receive
    split <;> split <;> exact ⟨rfl, rfl⟩
  unfold ResponseTx.step
  cases t.state with
  | idle =>
    rw [latches]
    exact kept
  | header => cases t.headerValid && i.headerReady <;> exact kept
  | payload => cases t.fires i o <;> cases t.final o <;> exact kept

/-- Where a response goes that begins in a run. -/
theorem begins_run (inputs : List AnsweringIn) {before after : List LinkEvent} {key : Option RequestKey}
    {ip : BitVec 32} {port : BitVec 16}
    (found : answeringTx.log AnsweringTx.events answeringTx.reset inputs = before ++ .begins key ip port :: after) :
    (∀ other, (heard before).first = some other → ip = other.sourceIp ∧ port = other.sourcePort) ∧
      ((heard before).first = none → ip = (heard before).last.sourceIp ∧ port = (heard before).last.sourcePort) := by
  induction inputs using List.reverseRecOn generalizing after with
  | nil => simp at found
  | append_singleton is i ih =>
    have tracks := tracks_run is
    rw [Machine.log_append] at found
    simp only [Machine.log_cons, Machine.log_nil, List.append_nil] at found
    rcases List.append_eq_append_iff.mp found with ⟨front, before_eq, events_eq⟩ | ⟨later, earlier, rest⟩
    · -- the response begins in the last cycle
      obtain ⟨none, latches, rfl, rfl⟩ := AnsweringTx.begins_in_events events_eq
      rw [before_eq, none, List.append_nil]
      exact tracks.address latches
    · cases later with
      | nil =>
        rw [List.append_nil] at earlier
        obtain ⟨-, latches, rfl, rfl⟩ := AnsweringTx.begins_in_events (rest.symm.trans (List.nil_append _).symm)
        rw [← earlier]
        exact tracks.address latches
      | cons first later =>
        rw [List.cons_append, List.cons.injEq] at rest
        rw [← rest.1] at earlier
        exact ih earlier

/-- Every response goes to its requester exactly if all are answered in turn. -/
theorem toRequester_iff_answeredInTurn (inputs : List AnsweringIn) :
    ToRequester (answeringTx.log AnsweringTx.events answeringTx.reset inputs) ↔
      AnsweredInTurn (answeringTx.log AnsweringTx.events answeringTx.reset inputs) := by
  constructor
  · intro requesters before key ip port after found host asked
    obtain ⟨locked, unlocked⟩ := begins_run inputs found
    obtain ⟨rfl, rfl⟩ := requesters before key ip port after found host asked
    exact ⟨fun other first => ⟨(locked other first).1.symm, (locked other first).2.symm⟩,
      fun none => ⟨(unlocked none).1.symm, (unlocked none).2.symm⟩⟩
  · intro in_turn before key ip port after found host asked
    obtain ⟨locked, unlocked⟩ := begins_run inputs found
    obtain ⟨when_locked, when_not⟩ := in_turn before key ip port after found host asked
    cases first : (heard before).first with
    | some other =>
      rw [(locked other first).1, (locked other first).2]
      exact when_locked other first
    | none =>
      rw [(unlocked first).1, (unlocked first).2]
      exact when_not first

/-! ## A, B, A -/

def hostA : Requester := ⟨0xC0A8010A, 49152, 1234⟩

def hostB : Requester := ⟨0xC0A8010B, 49153, 1234⟩

/-- A cycle without anything to send, the link being ready. -/
def linkQuiet : AnsweringIn := ⟨{ (default : TxIn) with pathEnable := true, headerReady := true, payloadReady := true }, []⟩

/-- The packet of a HELLO with a sequence number. -/
def helloFrom (host : Requester) (sequence : BitVec 32) : List AnsweringIn :=
  ⟨{ linkQuiet.tx with rxHeaderFire := true, rx := host }, []⟩ ::
    [0x00324C5254434652, 0x0000000100000003, 0#32 ++ sequence].map fun data =>
      ⟨{ linkQuiet.tx with rxPayloadFire := true, rxPayloadData := data }, []⟩

/-- The response to it is presented and sent. -/
def helloAnswered (sequence : BitVec 32) : List AnsweringIn :=
  ⟨linkQuiet.tx, [rfresp2Magic, 0x0000000100000003, 8#32 ++ sequence, 0]⟩ :: List.replicate 6 linkQuiet

/-- While the first request of A is unanswered B asks, and A asks again; the answers come
    in the order of the requests. -/
def interleavedHosts : List AnsweringIn :=
  helloFrom hostA 1 ++ helloFrom hostB 2 ++ helloFrom hostA 3 ++ helloAnswered 1 ++ helloAnswered 2

theorem interleavedHosts_not_toRequester :
    ¬ ToRequester (answeringTx.log AnsweringTx.events answeringTx.reset interleavedHosts) := by
  have sent : answeringTx.log AnsweringTx.events answeringTx.reset interleavedHosts =
      (answeringTx.log AnsweringTx.events answeringTx.reset interleavedHosts).take 14 ++
        .begins (some ⟨.rfctrl2, 1, 2⟩) hostA.sourceIp hostA.sourcePort ::
          (answeringTx.log AnsweringTx.events answeringTx.reset interleavedHosts).drop 15 := by decide
  intro requesters
  have asked : asker ((answeringTx.log AnsweringTx.events answeringTx.reset interleavedHosts).take 14)
      ⟨.rfctrl2, 1, 2⟩ = some hostB := by decide
  exact absurd (requesters _ _ _ _ _ sent hostB asked).1 (by decide)

end Xczu47dr.Control
