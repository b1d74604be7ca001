import Xczu47dr.Control.ResponsePath
import Xczu47dr.Control.ResponseQueue

/-! # Whole response packets

As long as the serializer takes no event while the transmitter is busy with a packet
of `pl_riscv_control_v1`, the mux keeps its choice for a whole packet and what the
transmitter sends are whole packets, each announced with its own length.
-/

namespace Xczu47dr.Control

open Clocked Machine

inductive Producer
  | control
  | wave
  deriving DecidableEq

abbrev Packet := Producer × List (BitVec 64)

/-- What the UDP stack gets: a header with the announced length, and words. -/
inductive TxEvent
  | header (length : Nat)
  | word (data : BitVec 64) (last : Bool)
  deriving DecidableEq

def wordEvents (words : List (BitVec 64)) : List TxEvent := (framed words).map fun w => .word w.1 w.2

/-- A packet as it should be sent: the UDP length counts the UDP header too. -/
def packetEvents (packet : Packet) : List TxEvent :=
  .header (packet.2.length * 8 + 8) :: wordEvents packet.2

/-! ## The transmitter and one packet -/

/-- The offer is the word of `words` at `index`. -/
structure Presents (o : Offer) (words : List (BitVec 64)) (index : Nat) : Prop where
  valid : o.valid = true
  wordCount : o.wordCount = words.length
  short : words.length < 64
  next : ∃ rest, words.drop index = o.data :: rest ∧ o.last = rest.isEmpty

theorem Presents.index_lt {o : Offer} {words : List (BitVec 64)} {index : Nat}
    (presents : Presents o words index) : index < words.length := by
  obtain ⟨rest, drop, -⟩ := presents.next
  by_contra beyond
  rw [List.drop_eq_nil_of_le (by omega)] at drop
  contradiction

namespace ResponseTx

variable (s : ResponseTx) (i : TxIn) (o : Offer)

/-- What one clock edge hands to the UDP stack. -/
def sent : List TxEvent :=
  (if s.headerValid && i.headerReady then [.header s.length] else []) ++
    if s.fires i o then [.word o.data (s.final o)] else []

/-- What is left of the packet under way when its words from `index` on are. -/
def owed (words : List (BitVec 64)) (index : Nat) : List TxEvent :=
  match s.state with
  | .idle => []
  | .header => .header s.length :: wordEvents (words.drop index)
  | .payload => wordEvents (words.drop index)

/-- The transmitter is busy with these words and has passed on `index` of them. -/
structure Sending (words : List (BitVec 64)) (index : Nat) : Prop where
  busy : s.state ≠ .idle
  headerValid : s.headerValid = (s.state == .header)
  count : s.payloadWords = words.length
  position : s.payloadIndex = index
  length : s.state = .header → index = 0 ∧ s.length = words.length * 8 + 8

variable {s i o}
variable {words : List (BitVec 64)} {index : Nat}

/-- The last word is recognised by its mark and by its position alike. -/
theorem Sending.final (sending : s.Sending words index) (presents : Presents o words index) :
    s.final o = o.last := by
  obtain ⟨rest, drop, last⟩ := presents.next
  have short := presents.short
  have inside := presents.index_lt
  have length := congrArg List.length drop
  rw [List.length_drop, List.length_cons] at length
  have counted : (s.payloadIndex == (s.payloadWords + (2 ^ 16 - 1)) % 2 ^ 16) = rest.isEmpty := by
    rw [sending.count, sending.position]
    cases rest with
    | nil =>
      simp only [List.length_nil] at length
      rw [List.isEmpty_nil, beq_iff_eq]
      omega
    | cons _ rest =>
      simp only [List.length_cons] at length
      rw [List.isEmpty_cons, beq_eq_false_iff_ne]
      omega
  have some : (s.payloadWords != 0) = true := by
    rw [sending.count, bne_iff_ne]
    omega
  rw [ResponseTx.final, counted, some, last, Bool.true_and, Bool.or_self]

theorem Sending.waits (sending : s.Sending words index) (waits : s.fires i o = false) :
    (s.step i o).Sending words index ∧
      s.sent i o ++ (s.step i o).owed words index = s.owed words index := by
  obtain ⟨state, valid, count, position, length⟩ := s.receive_keeps i
  cases at_ : s.state with
  | idle => exact absurd at_ sending.busy
  | header =>
    have headerValid : s.headerValid = true := by rw [sending.headerValid, at_]; rfl
    obtain ⟨zero, announced⟩ := sending.length at_
    cases ready : i.headerReady with
    | false =>
      have next : s.step i o = s.receive i := by simp [step, at_, ready]
      rw [next]
      refine ⟨⟨by rw [state]; exact sending.busy, by rw [state, valid]; exact sending.headerValid,
        count.trans sending.count, position.trans sending.position, fun _ => ⟨zero, length.trans announced⟩⟩, ?_⟩
      simp [sent, owed, ready, waits, state, at_, length]
    | true =>
      have next : s.step i o = { s.receive i with headerValid := false, state := .payload } := by
        simp [step, at_, ready, headerValid]
      rw [next]
      refine ⟨⟨by simp, rfl, count.trans sending.count, position.trans sending.position, by simp⟩, ?_⟩
      simp [sent, owed, ready, headerValid, waits, at_]
  | payload =>
    have headerValid : s.headerValid = false := by rw [sending.headerValid, at_]; rfl
    have next : s.step i o = s.receive i := by simp [step, at_, waits]
    rw [next]
    refine ⟨⟨by rw [state]; exact sending.busy, by rw [state, valid]; exact sending.headerValid,
      count.trans sending.count, position.trans sending.position, by rw [state, at_]; simp⟩, ?_⟩
    simp [sent, owed, headerValid, waits, state, at_]

theorem Sending.passes (sending : s.Sending words index) (presents : Presents o words index)
    (fires : s.fires i o = true) :
    (if o.last = true then (s.step i o).state = .idle ∧ (s.step i o).headerValid = false
      else (s.step i o).Sending words (index + 1)) ∧
      s.sent i o ++ (s.step i o).owed words (index + 1) = s.owed words index := by
  obtain ⟨state, valid, count, position, -⟩ := s.receive_keeps i
  have final := sending.final presents
  obtain ⟨rest, drop, last⟩ := presents.next
  have inside := presents.index_lt
  have short := presents.short
  have at_ : s.state = .payload := by
    rw [ResponseTx.fires, ready, Bool.and_eq_true, Bool.and_eq_true, beq_iff_eq] at fires
    exact fires.2.1
  have headerValid : s.headerValid = false := by rw [sending.headerValid, at_]; rfl
  have behind : words.drop (index + 1) = rest := by
    rw [← List.drop_drop, drop]
    rfl
  cases marked : o.last with
  | true =>
    have next : s.step i o =
        { s.receive i with payloadIndex := 0, requestInflight := false, state := .idle } := by
      simp [step, at_, fires, final, marked]
    obtain rfl : rest = [] := by rw [marked] at last; simpa using last.symm
    rw [next, if_pos rfl]
    refine ⟨⟨rfl, valid.trans headerValid⟩, ?_⟩
    simp [sent, owed, headerValid, fires, at_, final, marked, drop, wordEvents, framed]
  | false =>
    have next : s.step i o = { s.receive i with payloadIndex := (s.payloadIndex + 1) % 2 ^ 16 } := by
      simp [step, at_, fires, final, marked]
    have more : rest.isEmpty = false := by rw [← last, marked]
    rw [next, if_neg Bool.false_ne_true]
    refine ⟨⟨by simp [state, at_], ?_, count.trans sending.count, ?_, by simp [state, at_]⟩, ?_⟩
    · simp [state, valid, at_, headerValid]
    · rw [sending.position]
      exact Nat.mod_eq_of_lt (by omega)
    · simp [sent, owed, headerValid, fires, at_, final, marked, drop, state, behind, wordEvents, framed_cons, more]

theorem sending_of_latches (latches : s.latches i o = true) (wordCount : o.wordCount = words.length)
    (short : words.length < 64) :
    (s.step i o).Sending words 0 ∧ (s.step i o).owed words 0 = .header (words.length * 8 + 8) :: wordEvents words := by
  have at_ : s.state = .idle := by
    simp only [ResponseTx.latches, Bool.and_eq_true, beq_iff_eq] at latches
    exact latches.1.1.1
  have length : (words.length * 8 + 8) % 2 ^ 16 = words.length * 8 + 8 := Nat.mod_eq_of_lt (by omega)
  simp only [step, at_, latches, wordCount, length]
  exact ⟨⟨by simp, rfl, rfl, rfl, fun _ => ⟨rfl, rfl⟩⟩, rfl⟩

/-- Nothing is latched: the transmitter stays idle. -/
theorem idle_of_not_latches (at_ : s.state = .idle) (latches : s.latches i o = false) :
    (s.step i o).state = .idle ∧ (s.step i o).headerValid = false := by
  obtain ⟨state, -⟩ := s.receive_keeps i
  simp only [step, at_, latches]
  exact ⟨state.trans at_, rfl⟩

end ResponseTx

/-! ## The producers -/

namespace ResponseSerializer

variable (s : ResponseSerializer)

/-- While the serializer is active its registers agree with each other. -/
structure Ok : Prop where
  count : s.active = true → s.wordCount = s.words.length
  index : s.active = true → s.wordIndex < s.words.length
  short : s.active = true → s.words.length < 32

variable {s}

theorem ok_reset : reset.Ok := ⟨fun active => Bool.noConfusion active, fun active => Bool.noConfusion active,
  fun active => Bool.noConfusion active⟩

theorem presents_word (ok : s.Ok) (active : s.active = true) (o : Offer) (valid : o.valid = true)
    (data : o.data = s.data) (last : o.last = s.last) (wordCount : o.wordCount = s.responseWordCount) :
    Presents o s.words s.wordIndex := by
  have count := ok.count active
  have index := ok.index active
  have short := ok.short active
  refine ⟨valid, ?_, by omega, s.words.drop (s.wordIndex + 1), ?_, ?_⟩
  · rw [wordCount, responseWordCount, if_pos active, count]
  · rw [data, ResponseSerializer.data, if_pos active, List.getD_eq_getElem?_getD, List.getElem?_eq_getElem index]
    exact (List.getElem_cons_drop index).symm
  · rw [last, ResponseSerializer.last, active, Bool.true_and, atEnd, count, Bool.eq_iff_iff, beq_iff_eq,
      List.isEmpty_iff, List.drop_eq_nil_iff]
    omega

/-- The words of an active serializer are those of its event until it ends. -/
theorem step_active (ok : s.Ok) (active : s.active = true) (eventValid : Bool) (event : WaveEvent) (ready : Bool) :
    (s.step eventValid event ready).Ok ∧
      s.step eventValid event ready =
        if ready = false then s
        else if s.last = true then { s with active := false, wordIndex := 0 }
        else { s with wordIndex := s.wordIndex + 1 } := by
  have count := ok.count active
  have index := ok.index active
  have short := ok.short active
  have takes : s.takes eventValid = false := by simp [ResponseSerializer.takes, active]
  have last : s.last = s.atEnd := by rw [ResponseSerializer.last, active, Bool.true_and]
  cases ready with
  | false =>
    have next : s.step eventValid event false = s := by simp [step, takes]
    rw [next]
    exact ⟨ok, rfl⟩
  | true =>
    cases ends : s.atEnd with
    | true =>
      have next : s.step eventValid event true = { s with active := false, wordIndex := 0 } := by
        simp [step, takes, active, ends]
      rw [next, last, ends]
      exact ⟨⟨fun later => Bool.noConfusion later, fun later => Bool.noConfusion later,
        fun later => Bool.noConfusion later⟩, rfl⟩
    | false =>
      have inside : s.wordIndex + 1 < s.words.length := by
        rw [atEnd, count, beq_eq_false_iff_ne] at ends
        omega
      have wrap : (s.wordIndex + 1) % 32 = s.wordIndex + 1 := Nat.mod_eq_of_lt (by omega)
      have next : s.step eventValid event true = { s with wordIndex := s.wordIndex + 1 } := by
        simp [step, takes, active, ends, wrap]
      rw [next, last, ends]
      exact ⟨⟨fun _ => count, fun _ => inside, fun _ => short⟩, rfl⟩

/-- An idle serializer takes an event or stays idle. -/
theorem step_inactive (active : s.active = false) (eventValid : Bool) (event : WaveEvent) (ready : Bool) :
    (s.step eventValid event ready).Ok ∧
      s.step eventValid event ready =
        if eventValid then ⟨event.words, event.words.length, 0, true⟩ else s := by
  have takes : s.takes eventValid = eventValid := by simp [ResponseSerializer.takes, active]
  cases eventValid with
  | true =>
    have next : s.step true event ready = ⟨event.words, event.words.length, 0, true⟩ := by simp [step, takes]
    have lengths := event.length_words
    rw [next]
    exact ⟨⟨fun _ => rfl, fun _ => by change 0 < event.words.length; omega,
      fun _ => by change event.words.length < 32; omega⟩, rfl⟩
  | false =>
    have next : s.step false event ready = s := by simp [step, takes, active]
    rw [next]
    exact ⟨⟨fun later => by simp [active] at later, fun later => by simp [active] at later,
      fun later => by simp [active] at later⟩, rfl⟩

end ResponseSerializer

namespace ResponseOutput

variable {s : ResponseOutput}

/-- The output stage shows the next word and announces the packet it belongs to. -/
structure Announces (s : ResponseOutput) : Prop where
  shows : s.Shows
  wordCount : s.tvalid = true → s.wordCount = s.words.length

theorem announces_reset : reset.Announces := ⟨shows_reset, fun valid => Bool.noConfusion valid⟩

theorem Announces.presents (announces : s.Announces) (valid : s.tvalid = true) (o : Offer) (offers : o.valid = true)
    (data : o.data = s.tdata) (last : o.last = s.tlast) (wordCount : o.wordCount = s.wordCount) :
    Presents o s.words s.index := by
  obtain ⟨-, short, rest, drop, final⟩ := announces.shows valid
  exact ⟨offers, wordCount.trans (announces.wordCount valid), short, rest, by rw [drop, data], by rw [last, final]⟩

/-- The words of a valid output stage are those of its packet until it ends. -/
theorem Announces.step (announces : s.Announces) (valid : s.tvalid = true) (tready : Bool) :
    (s.step none tready).Announces ∧
      if tready = false then s.step none tready = s
      else if s.tlast = true then (s.step none tready).tvalid = false
      else (s.step none tready).tvalid = true ∧ (s.step none tready).words = s.words ∧
        (s.step none tready).index = s.index + 1 := by
  cases tready with
  | false =>
    have next : s.step none false = s := by simp [ResponseOutput.step]
    rw [next]
    exact ⟨announces, rfl⟩
  | true =>
    have next : s.step none true = s.advance := by simp [ResponseOutput.step, valid]
    obtain ⟨-, short, rest, drop, -⟩ := announces.shows valid
    have inside : s.index < s.words.length := by
      by_contra beyond
      rw [List.drop_eq_nil_of_le (by omega)] at drop
      contradiction
    rw [next]
    refine ⟨⟨(shows_advance announces.shows valid).1, ?_⟩, ?_⟩
    · cases last : s.tlast with
      | true => simp [advance, last]
      | false => simpa [advance, last] using announces.wordCount
    · cases last : s.tlast with
      | true => simp [advance, last]
      | false =>
        have wrap : (s.index + 1) % 64 = s.index + 1 := Nat.mod_eq_of_lt (by omega)
        simp [advance, last, valid, wrap]

theorem announces_load {words : List (BitVec 64)} (lengths : 2 ≤ words.length ∧ words.length < 64) (tready : Bool) :
    (s.step (some words) tready).Announces := ⟨shows_load lengths.1 lengths.2, fun _ => rfl⟩

end ResponseOutput

namespace ResponsePath

variable (ids : BuildIds) (s : ResponsePath) (i : ResponsePathIn)

/-- What one clock edge hands to the UDP stack. -/
def sent : List TxEvent := s.tx.sent i.tx s.offer

/-- The packet whose header is latched at this clock edge. -/
def begun : List Packet :=
  if s.tx.latches i.tx s.offer then
    [if s.serializer.active then (.wave, s.serializer.words) else (.control, s.control.output.words)]
  else []

/-- The packets the producers put up at this clock edge. -/
def taken : List Packet := if s.serializer.takes i.eventValid then [(.wave, i.event.words)] else []

def loaded : List Packet := ((s.control.loadedWords ids (s.controlIn i)).toList).map fun words => (.control, words)

/-- What is left of the packet under way, the one the mux shows. -/
def owed : List TxEvent :=
  if s.serializer.active then s.tx.owed s.serializer.words s.serializer.wordIndex
  else s.tx.owed s.control.output.words s.control.output.index

/-- The packets the producers show and that have not been begun. -/
def waveWaiting : List Packet :=
  if s.serializer.active && s.tx.state == .idle then [(.wave, s.serializer.words)] else []

def controlWaiting : List Packet :=
  if s.control.output.tvalid && (s.serializer.active || s.tx.state == .idle) then
    [(.control, s.control.output.words)]
  else []

/-- The transmitter is busy with a packet of `pl_riscv_control_v1`, or latches its
    header. -/
def sendsControl : Bool := !s.serializer.active && (s.tx.state != .idle || s.tx.latches i.tx s.offer)

/-- The serializer takes no event meanwhile. -/
def Exclusive : Prop := s.sendsControl i = true → s.serializer.takes i.eventValid = false

/-! ## The invariant -/

/-- The packet that is being sent is the one the mux shows, and a packet that is not
    being sent stands at its first word. -/
inductive Phase (s : ResponsePath) : Prop
  | idle : s.tx.state = .idle → s.tx.headerValid = false →
      (s.serializer.active = true → s.serializer.wordIndex = 0) →
      (s.control.output.tvalid = true → s.control.output.index = 0) → Phase s
  | wave : s.serializer.active = true → s.tx.Sending s.serializer.words s.serializer.wordIndex →
      (s.control.output.tvalid = true → s.control.output.index = 0) → Phase s
  | control : s.serializer.active = false → s.control.output.tvalid = true →
      s.tx.Sending s.control.output.words s.control.output.index → Phase s

structure Whole (s : ResponsePath) : Prop where
  serializer : s.serializer.Ok
  output : s.control.output.Announces
  phase : Phase s

/-- What one clock edge does to the packets. -/
structure Conserves (s : ResponsePath) (i : ResponsePathIn) (s' : ResponsePath) (loaded : List Packet) : Prop where
  whole : Whole s'
  events : s.sent i ++ s'.owed = s.owed ++ (s.begun i).flatMap packetEvents
  wave : (s.begun i).filter (·.1 = .wave) ++ s'.waveWaiting = s.waveWaiting ++ s.taken i
  control : (s.begun i).filter (·.1 = .control) ++ s'.controlWaiting = s.controlWaiting ++ loaded

variable {ids s i}

theorem presents_wave (whole : Whole s) (active : s.serializer.active = true) :
    Presents s.offer s.serializer.words s.serializer.wordIndex :=
  ResponseSerializer.presents_word whole.serializer active s.offer (by simp [offer, active])
    (by simp [offer, active]) (by simp [offer, active]) (by simp [offer, active])

theorem presents_control (whole : Whole s) (active : s.serializer.active = false)
    (valid : s.control.output.tvalid = true) :
    Presents s.offer s.control.output.words s.control.output.index :=
  whole.output.presents valid s.offer (by simp [offer, active, valid]) (by simp [offer, active])
    (by simp [offer, active]) (by simp [offer, active])

/-- The output stage of the control machine at one clock edge. -/
theorem step_output : (s.step ids i).control.output =
    s.control.output.step (s.control.loadedWords ids (s.controlIn i)) (s.controlReady i) := rfl

theorem loadedWords_of_valid (valid : s.control.output.tvalid = true) (c : RiscvIn) :
    s.control.loadedWords ids c = none := by
  simp [RiscvControl.loadedWords, RiscvControl.loads, valid]

def shownControl (s : ResponsePath) : List Packet :=
  if s.control.output.tvalid then [(.control, s.control.output.words)] else []

variable (ids) in
/-- While the mux does not read the output stage, it keeps its packet or loads one. -/
theorem control_rests (whole : Whole s) (rests : s.controlReady i = false) :
    (s.step ids i).control.output.Announces ∧
      (s.step ids i).shownControl = s.shownControl ++ s.loaded ids i ∧
      (s.control.output.tvalid = true → (s.step ids i).control.output = s.control.output) ∧
      ((s.control.output.tvalid = true → s.control.output.index = 0) →
        (s.step ids i).control.output.tvalid = true → (s.step ids i).control.output.index = 0) := by
  unfold shownControl loaded
  rw [step_output, rests]
  cases valid : s.control.output.tvalid with
  | true =>
    rw [loadedWords_of_valid valid]
    have same : s.control.output.step none false = s.control.output := by simp [ResponseOutput.step]
    rw [same, valid]
    exact ⟨whole.output, rfl, fun _ => rfl, fun first _ => first rfl⟩
  | false =>
    cases request : s.control.loadedWords ids (s.controlIn i) with
    | none =>
      have same : s.control.output.step none false = s.control.output := by simp [ResponseOutput.step]
      rw [same, valid]
      exact ⟨whole.output, rfl, fun later => Bool.noConfusion later, fun _ later => Bool.noConfusion later⟩
    | some words =>
      have lengths : 2 ≤ words.length ∧ words.length < 64 := by
        unfold RiscvControl.loadedWords at request
        split_ifs at request
        obtain ⟨q, -, rfl⟩ := Option.map_eq_some_iff.mp request
        have bounds := ResponseRequest.words_length q ids (s.controlIn i).status s.control.diagGeneration
        omega
      exact ⟨ResponseOutput.announces_load lengths _, rfl, fun later => Bool.noConfusion later, fun _ _ => rfl⟩

theorem owed_idle (at_ : s.tx.state = .idle) : s.owed = [] := by simp [owed, ResponseTx.owed, at_]

theorem not_ready_of_idle (at_ : s.tx.state = .idle) : s.tx.ready i.tx = false := by
  simp [ResponseTx.ready, at_]

theorem not_begun_of_busy (busy : s.tx.state ≠ .idle) : s.begun i = [] := by
  simp [begun, ResponseTx.latches, busy]

/-- The transmitter is idle: it latches the packet the mux shows, or waits. -/
theorem conserves_idle (whole : Whole s) (exclusive : s.Exclusive i) (at_ : s.tx.state = .idle)
    (header : s.tx.headerValid = false)
    (waveFirst : s.serializer.active = true → s.serializer.wordIndex = 0)
    (controlFirst : s.control.output.tvalid = true → s.control.output.index = 0) :
    Conserves s i (s.step ids i) (s.loaded ids i) := by
  have unread : s.tx.ready i.tx = false := not_ready_of_idle at_
  obtain ⟨announces, queue, keeps, first⟩ := control_rests ids whole
    (show s.controlReady i = false by rw [controlReady, unread, Bool.and_false])
  have owed : s.owed = [] := owed_idle at_
  have nothing : s.sent i = [] := by simp [sent, ResponseTx.sent, ResponseTx.fires, header, unread]
  have serializer : (s.step ids i).serializer = s.serializer.step i.eventValid i.event false := by
    simp [step, waveReady, unread]
  have tx : (s.step ids i).tx = s.tx.step i.tx s.offer := rfl
  have waiting : s.controlWaiting = s.shownControl := by simp [controlWaiting, shownControl, at_]
  cases active : s.serializer.active with
  | true =>
    have same : (s.step ids i).serializer = s.serializer := by
      rw [serializer, (ResponseSerializer.step_active whole.serializer active ..).2, if_pos rfl]
    have none : s.taken i = [] := by simp [taken, ResponseSerializer.takes, active]
    have presents := presents_wave whole active
    cases latches : s.tx.latches i.tx s.offer with
    | true =>
      obtain ⟨sending, owes⟩ := ResponseTx.sending_of_latches latches presents.wordCount presents.short
      have begins : s.begun i = [(.wave, s.serializer.words)] := by simp [begun, latches, active]
      rw [← tx] at sending owes
      have busy : ((s.step ids i).tx.state == .idle) = false := by simpa using sending.busy
      refine ⟨⟨same ▸ whole.serializer, announces, .wave (same ▸ active) ?_ (first controlFirst)⟩, ?_, ?_, ?_⟩
      · rw [same, waveFirst active]
        exact sending
      · rw [nothing, owed, begins, ResponsePath.owed, same, active, if_pos rfl, waveFirst active, owes]
        simp [packetEvents]
      · simp [begins, waveWaiting, same, active, at_, busy, none]
      · rw [waiting, ← queue, begins]
        simp [controlWaiting, shownControl, same, active]
    | false =>
      obtain ⟨idle, silent⟩ := ResponseTx.idle_of_not_latches at_ latches
      rw [← tx] at idle silent
      have begins : s.begun i = [] := by simp [begun, latches]
      refine ⟨⟨same ▸ whole.serializer, announces, .idle idle silent (same ▸ waveFirst) (first controlFirst)⟩, ?_, ?_, ?_⟩
      · rw [nothing, owed, begins, owed_idle idle]
        rfl
      · simp [begins, waveWaiting, same, active, at_, idle, none]
      · rw [waiting, ← queue, begins]
        simp [controlWaiting, shownControl, idle]
  | false =>
    obtain ⟨ok, next⟩ := ResponseSerializer.step_inactive active i.eventValid i.event false
    rw [← serializer] at ok next
    cases latches : s.tx.latches i.tx s.offer with
    | true =>
      have deaf : i.eventValid = false := by
        have takes := exclusive (by simp [sendsControl, active, latches])
        simpa [ResponseSerializer.takes, active] using takes
      have same : (s.step ids i).serializer = s.serializer := by simpa [deaf] using next
      have valid : s.control.output.tvalid = true := by
        simp only [ResponseTx.latches, Bool.and_eq_true] at latches
        simpa [offer, active] using latches.1.2
      have presents := presents_control whole active valid
      obtain ⟨sending, owes⟩ := ResponseTx.sending_of_latches latches presents.wordCount presents.short
      have begins : s.begun i = [(.control, s.control.output.words)] := by simp [begun, latches, active]
      rw [← tx] at sending owes
      have busy : ((s.step ids i).tx.state == .idle) = false := by simpa using sending.busy
      have output := keeps valid
      have none : s.loaded ids i = [] := by simp [loaded, loadedWords_of_valid valid]
      refine ⟨⟨same ▸ whole.serializer, announces, .control (same ▸ active) (output ▸ valid) ?_⟩, ?_, ?_, ?_⟩
      · rw [output, controlFirst valid]
        exact sending
      · rw [nothing, owed, begins, ResponsePath.owed, same, active, if_neg Bool.false_ne_true, output,
          controlFirst valid, owes]
        simp [packetEvents]
      · simp [begins, waveWaiting, same, active, taken, ResponseSerializer.takes, deaf]
      · simp [begins, controlWaiting, same, active, output, valid, at_, busy, none]
    | false =>
      obtain ⟨idle, silent⟩ := ResponseTx.idle_of_not_latches at_ latches
      rw [← tx] at idle silent
      have begins : s.begun i = [] := by simp [begun, latches]
      have opens : (s.step ids i).serializer.active = true → (s.step ids i).serializer.wordIndex = 0 := by
        rw [next]
        cases i.eventValid with
        | true => exact fun _ => rfl
        | false => simp [active]
      refine ⟨⟨ok, announces, .idle idle silent opens (first controlFirst)⟩, ?_, ?_, ?_⟩
      · rw [nothing, owed, begins, owed_idle idle]
        rfl
      · cases valid : i.eventValid <;>
          simp [begins, waveWaiting, next, active, idle, taken, ResponseSerializer.takes, valid]
      · rw [waiting, ← queue, begins]
        simp [controlWaiting, shownControl, idle]

/-- A packet of the serializer is being sent. -/
theorem conserves_wave (whole : Whole s) (active : s.serializer.active = true)
    (sending : s.tx.Sending s.serializer.words s.serializer.wordIndex)
    (controlFirst : s.control.output.tvalid = true → s.control.output.index = 0) :
    Conserves s i (s.step ids i) (s.loaded ids i) := by
  obtain ⟨announces, queue, -, first⟩ := control_rests ids (i := i) whole
    (show s.controlReady i = false by simp [controlReady, active])
  have presents := presents_wave whole active
  have none : s.taken i = [] := by simp [taken, ResponseSerializer.takes, active]
  have begins : s.begun i = [] := not_begun_of_busy sending.busy
  have tx : (s.step ids i).tx = s.tx.step i.tx s.offer := rfl
  have fires : s.tx.fires i.tx s.offer = s.tx.ready i.tx := by
    rw [ResponseTx.fires, presents.valid, Bool.true_and]
  obtain ⟨ok, next⟩ := ResponseSerializer.step_active whole.serializer active i.eventValid i.event (s.waveReady i)
  rw [show s.serializer.step i.eventValid i.event (s.waveReady i) = (s.step ids i).serializer from rfl,
    waveReady, active, Bool.true_and] at next
  have last : s.serializer.last = s.offer.last := by simp [offer, active]
  have waiting : s.controlWaiting = s.shownControl := by simp [controlWaiting, shownControl, active]
  have owes : s.owed = s.tx.owed s.serializer.words s.serializer.wordIndex := by rw [owed, if_pos active]
  have idle : (s.tx.state == .idle) = false := by simpa using sending.busy
  cases ready : s.tx.ready i.tx with
  | false =>
    rw [ready] at next fires
    have same : (s.step ids i).serializer = s.serializer := next
    obtain ⟨sends, events⟩ := sending.waits fires
    rw [← tx] at sends events
    have busy : ((s.step ids i).tx.state == .idle) = false := by simpa using sends.busy
    refine ⟨⟨ok, announces, .wave (same ▸ active) (same ▸ sends) (first controlFirst)⟩, ?_, ?_, ?_⟩
    · rw [begins, owes, owed, same, if_pos active, sent, events]
      simp
    · simp [begins, none, waveWaiting, same, idle, busy]
    · rw [waiting, ← queue, begins]
      simp [controlWaiting, shownControl, same, active]
  | true =>
    rw [ready] at next fires
    obtain ⟨passes, events⟩ := sending.passes presents fires
    rw [← tx] at passes events
    cases final : s.offer.last with
    | true =>
      rw [final, if_pos rfl] at passes
      have ends : (s.step ids i).serializer.active = false := by simp [next, last, final]
      refine ⟨⟨ok, announces, .idle passes.1 passes.2 (fun later => by simp [ends] at later)
        (first controlFirst)⟩, ?_, ?_, ?_⟩
      · have gone : (s.step ids i).tx.owed s.serializer.words (s.serializer.wordIndex + 1) = [] := by
          simp [ResponseTx.owed, passes.1]
        rw [gone] at events
        rw [begins, owes, owed_idle passes.1, sent, events]
        simp
      · simp [begins, none, waveWaiting, ends, idle]
      · rw [waiting, ← queue, begins]
        simp [controlWaiting, shownControl, passes.1]
    | false =>
      rw [final, if_neg Bool.false_ne_true] at passes
      have same : (s.step ids i).serializer = { s.serializer with wordIndex := s.serializer.wordIndex + 1 } := by
        simpa [last, final, active] using next
      have busy : ((s.step ids i).tx.state == .idle) = false := by simpa using passes.busy
      have still : (s.step ids i).serializer.active = true := by rw [same]; exact active
      refine ⟨⟨ok, announces, .wave still ?_ (first controlFirst)⟩, ?_, ?_, ?_⟩
      · rw [same]
        exact passes
      · rw [begins, owes, owed, if_pos still, same, sent, events]
        simp
      · simp [begins, none, waveWaiting, idle, busy]
      · rw [waiting, ← queue, begins]
        simp [controlWaiting, shownControl, still]

/-- A packet of the control machine is being sent. -/
theorem conserves_control (whole : Whole s) (exclusive : s.Exclusive i) (active : s.serializer.active = false)
    (valid : s.control.output.tvalid = true)
    (sending : s.tx.Sending s.control.output.words s.control.output.index) :
    Conserves s i (s.step ids i) (s.loaded ids i) := by
  have presents := presents_control whole active valid
  have deaf : i.eventValid = false := by
    have takes := exclusive (by simp [sendsControl, active, sending.busy])
    simpa [ResponseSerializer.takes, active] using takes
  have begins : s.begun i = [] := not_begun_of_busy sending.busy
  have none : s.loaded ids i = [] := by simp [loaded, loadedWords_of_valid valid]
  have tx : (s.step ids i).tx = s.tx.step i.tx s.offer := rfl
  have fires : s.tx.fires i.tx s.offer = s.tx.ready i.tx := by
    rw [ResponseTx.fires, presents.valid, Bool.true_and]
  have silent : s.taken i = [] := by simp [taken, ResponseSerializer.takes, deaf]
  have same : (s.step ids i).serializer = s.serializer := by
    have next := (ResponseSerializer.step_inactive active i.eventValid i.event (s.waveReady i)).2
    rw [deaf] at next
    rw [show (s.step ids i).serializer = s.serializer.step i.eventValid i.event (s.waveReady i) from rfl, deaf]
    exact next
  have output : (s.step ids i).control.output = s.control.output.step .none (s.tx.ready i.tx) := by
    rw [step_output, loadedWords_of_valid valid, controlReady, active]
    rfl
  obtain ⟨announces, next⟩ := whole.output.step valid (s.tx.ready i.tx)
  rw [← output] at announces next
  have last : s.control.output.tlast = s.offer.last := by simp [offer, active]
  have owes : s.owed = s.tx.owed s.control.output.words s.control.output.index := by
    rw [owed, active, if_neg Bool.false_ne_true]
  have idle : (s.tx.state == .idle) = false := by simpa using sending.busy
  have inactive : (s.step ids i).serializer.active = false := same ▸ active
  cases ready : s.tx.ready i.tx with
  | false =>
    rw [ready] at next fires
    have kept : (s.step ids i).control.output = s.control.output := next
    obtain ⟨sends, events⟩ := sending.waits fires
    rw [← tx] at sends events
    have busy : ((s.step ids i).tx.state == .idle) = false := by simpa using sends.busy
    refine ⟨⟨same ▸ whole.serializer, announces, .control inactive (kept ▸ valid) (kept ▸ sends)⟩, ?_, ?_, ?_⟩
    · rw [begins, owes, owed, inactive, if_neg Bool.false_ne_true, kept, sent, events]
      simp
    · simp [begins, silent, waveWaiting, inactive, active]
    · simp [begins, none, controlWaiting, inactive, active, idle, busy]
  | true =>
    rw [ready] at next fires
    obtain ⟨passes, events⟩ := sending.passes presents fires
    rw [← tx] at passes events
    rw [last] at next
    cases final : s.offer.last with
    | true =>
      rw [final, if_pos rfl] at passes
      have ends : (s.step ids i).control.output.tvalid = false := by simpa [final] using next
      refine ⟨⟨same ▸ whole.serializer, announces, .idle passes.1 passes.2
        (fun later => by simp [inactive] at later) (fun later => by simp [ends] at later)⟩, ?_, ?_, ?_⟩
      · have gone : (s.step ids i).tx.owed s.control.output.words (s.control.output.index + 1) = [] := by
          simp [ResponseTx.owed, passes.1]
        rw [gone] at events
        rw [begins, owes, owed_idle passes.1, sent, events]
        simp
      · simp [begins, silent, waveWaiting, inactive, active]
      · simp [begins, none, controlWaiting, ends, active, idle]
    | false =>
      rw [final, if_neg Bool.false_ne_true] at passes
      obtain ⟨still, words, index⟩ : (s.step ids i).control.output.tvalid = true ∧
          (s.step ids i).control.output.words = s.control.output.words ∧
          (s.step ids i).control.output.index = s.control.output.index + 1 := by simpa [final] using next
      have busy : ((s.step ids i).tx.state == .idle) = false := by simpa using passes.busy
      refine ⟨⟨same ▸ whole.serializer, announces, .control inactive still ?_⟩, ?_, ?_, ?_⟩
      · rw [words, index]
        exact passes
      · rw [begins, owes, owed, inactive, if_neg Bool.false_ne_true, words, index, sent, events]
        simp
      · simp [begins, silent, waveWaiting, inactive, active]
      · simp [begins, none, controlWaiting, inactive, active, idle, busy]

theorem conserves_step (whole : Whole s) (exclusive : s.Exclusive i) :
    Conserves s i (s.step ids i) (s.loaded ids i) := by
  cases whole.phase with
  | idle at_ header waveFirst controlFirst =>
    exact conserves_idle whole exclusive at_ header waveFirst controlFirst
  | wave active sending controlFirst => exact conserves_wave whole active sending controlFirst
  | control active valid sending => exact conserves_control whole exclusive active valid sending

/-! ## Whole runs -/

theorem whole_reset : Whole reset :=
  ⟨ResponseSerializer.ok_reset, ResponseOutput.announces_reset,
    .idle rfl rfl (fun active => Bool.noConfusion active) (fun valid => Bool.noConfusion valid)⟩

abbrev pathRun (ids : BuildIds) (is : List ResponsePathIn) : ResponsePath := (responsePath ids).run reset is

abbrev pathEvents {Event : Type} (ids : BuildIds) (emit : ResponsePath → ResponsePathIn → List Event)
    (is : List ResponsePathIn) : List Event :=
  (responsePath ids).log emit reset is

/-- What was sent, with what is left of the packet under way, is one whole packet after
    the other, each behind a header with its own length; and the packets of each producer
    are the ones it put up, in its order, the one it shows perhaps not begun. -/
structure WholePackets (ids : BuildIds) (is : List ResponsePathIn) : Prop where
  stream : pathEvents ids sent is ++ (pathRun ids is).owed = (pathEvents ids begun is).flatMap packetEvents
  wave : (pathEvents ids begun is).filter (·.1 = .wave) ++ (pathRun ids is).waveWaiting = pathEvents ids taken is
  control : (pathEvents ids begun is).filter (·.1 = .control) ++ (pathRun ids is).controlWaiting =
    pathEvents ids (loaded ids) is

/-- What is sent are whole packets, in every run in which the serializer takes no event
    while a packet of the control machine is being sent. -/
theorem wholePackets_of_exclusive (ids : BuildIds) (is : List ResponsePathIn)
    (exclusive : (responsePath ids).Along Exclusive reset is) : WholePackets ids is := by
  have step (s : ResponsePath) (i : ResponsePathIn) (whole : Whole s) (exclusive : s.Exclusive i) :
      Conserves s i (s.step ids i) (s.loaded ids i) := conserves_step whole exclusive
  refine ⟨?_, ?_, ?_⟩
  · have events := (responsePath ids).log_conserved sent _ owed
      (fun s i whole now => ⟨(step s i whole now).whole, (step s i whole now).events⟩) whole_reset is exclusive
    rw [log_flatMap] at events
    exact events
  · have packets := (responsePath ids).log_conserved _ taken waveWaiting
      (fun s i whole now => ⟨(step s i whole now).whole, (step s i whole now).wave⟩) whole_reset is exclusive
    rw [log_filter] at packets
    exact packets
  · have packets := (responsePath ids).log_conserved _ (loaded ids) controlWaiting
      (fun s i whole now => ⟨(step s i whole now).whole, (step s i whole now).control⟩) whole_reset is exclusive
    rw [log_filter] at packets
    exact packets

instance : Decidable (s.Exclusive i) := inferInstanceAs (Decidable (_ → _))

/-- A status request, the transmitter always ready. -/
def statusCycles (idle : Nat) : List ResponsePathIn :=
  ((RiscvControl.bareCommand rf2OpStatus 1 ++ List.replicate idle default).map fun c =>
    { (default : ResponsePathIn) with
      control := c
      tx := { (default : TxIn) with pathEnable := true, headerReady := true, payloadReady := true } })

/-- An event of the upload writer, the transmitter ready. -/
def eventCycle : ResponsePathIn :=
  { (default : ResponsePathIn) with
    eventValid := true
    tx := { (default : TxIn) with pathEnable := true, headerReady := true, payloadReady := true } }

/-- The event comes when the response to the request has been sent. -/
theorem eventAfterResponse_wholePackets :
    WholePackets ⟨0, 0, 0⟩ (statusCycles 30 ++ [eventCycle, eventCycle, eventCycle]) :=
  wholePackets_of_exclusive _ _ (by decide)

/-- The event comes in the middle of the response: its words go out inside it. -/
theorem eventDuringResponse_not_wholePackets :
    ¬ WholePackets ⟨0, 0, 0⟩ (statusCycles 10 ++ [eventCycle, eventCycle, eventCycle]) := by
  intro whole
  have stream := whole.stream
  revert stream
  decide

end ResponsePath

end Xczu47dr.Control
