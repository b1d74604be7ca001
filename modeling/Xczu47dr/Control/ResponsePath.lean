import Xczu47dr.Control.RiscvControl

/-! # The response path

Two producers share the UDP transmitter: `pl_riscv_control_v1` and
`waveform_response_serializer`.  A combinational mux in `Top` gives the serializer
priority and has no memory; `rfctrl2_udp_response_tx` announces the length of the
packet it sees when it leaves its idle state and then passes words on.
-/

namespace Xczu47dr.Control

/-! ## `waveform_response_serializer` -/

/-- `event_*` -/
structure WaveEvent where
  seq : BitVec 32
  opcode : BitVec 32
  status : BitVec 16
  errorCode : BitVec 32
  session : BitVec 32
  state : BitVec 32
  descriptor : BitVec 32
  errorOffset : BitVec 64
  ackPacketSeq : BitVec 32
  nextExpectedSequence : BitVec 32
  receivedBytes : BitVec 64
  firstErrorOffset : BitVec 64
  expectedCrc : BitVec 32
  actualCrc : BitVec 32
  currentBeat : BitVec 32
  loopPosition : BitVec 32
  loopCount : BitVec 32
  channelMask : BitVec 8
  layout : BitVec 8
  fifoLevels : BitVec 128
  errorCount : BitVec 32
  underflowCount : BitVec 32
  triggerSeenCount : BitVec 32
  triggerDroppedCount : BitVec 32
  triggerFireCount : BitVec 32
  deriving Inhabited

namespace WaveEvent

variable (e : WaveEvent)

def magic : BitVec 64 := 0x5741564552535030

/-- `words[0]` to `words[5]` -/
def commonWords : List (BitVec 64) :=
  [magic,
    e.opcode ++ e.status ++ 1#16,
    (if e.opcode = 2 then 60#32 else if e.opcode = 8 then 80#32 else 28#32) ++ e.seq,
    e.state ++ e.session,
    e.errorCode ++ 0#16 ++ e.status,
    e.errorOffset.extractLsb' 0 32 ++ e.descriptor]

/-- `words[0]` to `words[word_count - 1]` -/
def words : List (BitVec 64) :=
  e.commonWords ++
    if e.opcode = 2 then
      [e.ackPacketSeq ++ e.errorOffset.extractLsb' 32 32,
        e.receivedBytes.extractLsb' 0 32 ++ e.nextExpectedSequence,
        e.firstErrorOffset.extractLsb' 0 32 ++ e.receivedBytes.extractLsb' 32 32,
        e.expectedCrc ++ e.firstErrorOffset.extractLsb' 32 32,
        0#32 ++ e.actualCrc]
    else if e.opcode = 8 then
      [e.currentBeat ++ e.errorOffset.extractLsb' 32 32,
        e.loopCount ++ e.loopPosition,
        e.fifoLevels.extractLsb' 0 32 ++ 0#16 ++ e.layout ++ e.channelMask,
        e.fifoLevels.extractLsb' 64 32 ++ e.fifoLevels.extractLsb' 32 32,
        e.errorCount ++ e.fifoLevels.extractLsb' 96 32,
        e.triggerSeenCount ++ e.underflowCount,
        e.triggerFireCount ++ e.triggerDroppedCount]
    else [0#32 ++ e.errorOffset.extractLsb' 32 32]

theorem length_words : 7 ≤ e.words.length ∧ e.words.length ≤ 13 := by
  unfold words
  split_ifs <;> simp [commonWords]

end WaveEvent

/-- The registers of the serializer. -/
structure ResponseSerializer where
  words : List (BitVec 64)
  wordCount : Nat
  wordIndex : Nat
  active : Bool

namespace ResponseSerializer

def reset : ResponseSerializer where
  words := []
  wordCount := 0
  wordIndex := 0
  active := false

variable (s : ResponseSerializer)

/-- `response_data` -/
def data : BitVec 64 := if s.active then s.words.getD s.wordIndex 0 else 0

/-- `word_index == word_count - 1'b1` -/
def atEnd : Bool := s.wordIndex == (s.wordCount + 31) % 32

/-- `response_last` -/
def last : Bool := s.active && s.atEnd

/-- `response_word_count` -/
def responseWordCount : Nat := if s.active then s.wordCount else 0

def takes (eventValid : Bool) : Bool := !s.active && eventValid

def step (eventValid : Bool) (event : WaveEvent) (ready : Bool) : ResponseSerializer :=
  if s.takes eventValid then
    { words := event.words, wordCount := event.words.length, wordIndex := 0, active := true }
  else if s.active && ready then
    if s.atEnd then { s with active := false, wordIndex := 0 }
    else { s with wordIndex := (s.wordIndex + 1) % 32 }
  else s

end ResponseSerializer

/-! ## `rfctrl2_udp_response_tx` -/

inductive TxState
  | idle
  | header
  | payload
  deriving DecidableEq

/-- Addresses of a request. -/
structure Requester where
  sourceIp : BitVec 32
  sourcePort : BitVec 16
  destPort : BitVec 16
  deriving Inhabited

/-- `DEFAULT_DEST_IP`, `DEFAULT_DEST_PORT` and `DEFAULT_SOURCE_PORT` -/
def defaultRequester : Requester := ⟨0xC0A80103, 1234, 1234⟩

/-- The registers of the transmitter. -/
structure ResponseTx where
  state : TxState
  pending : Requester
  request : Requester
  requestInflight : Bool
  payloadWords : Nat
  payloadIndex : Nat
  headerValid : Bool
  destIp : BitVec 32
  sourcePort : BitVec 16
  destPort : BitVec 16
  length : Nat

/-- What the transmitter samples besides the response. -/
structure TxIn where
  rxHeaderFire : Bool
  rx : Requester
  rxPayloadFire : Bool
  rxPayloadData : BitVec 64
  pathEnable : Bool
  headerReady : Bool
  payloadReady : Bool
  deriving Inhabited

/-- A response word offered to the transmitter. -/
structure Offer where
  valid : Bool
  data : BitVec 64
  last : Bool
  wordCount : Nat

namespace ResponseTx

def reset : ResponseTx where
  state := .idle
  pending := defaultRequester
  request := defaultRequester
  requestInflight := false
  payloadWords := 0
  payloadIndex := 0
  headerValid := false
  destIp := 0xC0A80103
  sourcePort := 1234
  destPort := 1234
  length := 8

variable (s : ResponseTx) (i : TxIn) (o : Offer)

/-- `request_magic` -/
def requestMagic : Bool :=
  [(0x00304C5254435652 : BitVec 64), 0x00314C5254435652, 0x00324C5254434652, 0x5741564543545230].contains
    i.rxPayloadData

/-- `response_ready` -/
def ready : Bool := s.state == .payload && i.payloadReady

/-- `response_fire` -/
def fires : Bool := o.valid && s.ready i

/-- `final_response_word` -/
def final : Bool :=
  o.last || (s.payloadWords != 0 && s.payloadIndex == (s.payloadWords + (2 ^ 16 - 1)) % 2 ^ 16)

/-- A response is seen and its header latched. -/
def latches : Bool := s.state == .idle && i.pathEnable && o.valid && o.wordCount != 0

/-- The requester bookkeeping, before the state machine. -/
def receive : ResponseTx :=
  let context := if i.rxHeaderFire then i.rx else s.pending
  if !s.requestInflight && i.rxPayloadFire && requestMagic i then
    { s with pending := context, request := context, requestInflight := true }
  else { s with pending := context }

/-- The bookkeeping leaves the packet under way alone. -/
theorem receive_keeps : (s.receive i).state = s.state ∧ (s.receive i).headerValid = s.headerValid ∧
    (s.receive i).payloadWords = s.payloadWords ∧ (s.receive i).payloadIndex = s.payloadIndex ∧
    (s.receive i).length = s.length := by
  unfold receive
  split_ifs <;> exact ⟨rfl, rfl, rfl, rfl, rfl⟩

def step : ResponseTx :=
  match s.state with
  | .idle =>
    if s.latches i o then
      { s.receive i with
        headerValid := true
        payloadIndex := 0
        payloadWords := o.wordCount
        destIp := if s.requestInflight then s.request.sourceIp else s.pending.sourceIp
        sourcePort := if s.requestInflight then s.request.destPort else s.pending.destPort
        destPort := if s.requestInflight then s.request.sourcePort else s.pending.sourcePort
        length := (o.wordCount * 8 + 8) % 2 ^ 16
        state := .header }
    else { s.receive i with headerValid := false, payloadIndex := 0 }
  | .header =>
    if s.headerValid && i.headerReady then { s.receive i with headerValid := false, state := .payload }
    else s.receive i
  | .payload =>
    if s.fires i o then
      if s.final o then
        { s.receive i with payloadIndex := 0, requestInflight := false, state := .idle }
      else { s.receive i with payloadIndex := (s.payloadIndex + 1) % 2 ^ 16 }
    else s.receive i

end ResponseTx

/-! ## The producers, the mux and the transmitter -/

structure ResponsePath where
  control : RiscvControl
  serializer : ResponseSerializer
  tx : ResponseTx

structure ResponsePathIn where
  control : RiscvIn
  eventValid : Bool
  event : WaveEvent
  tx : TxIn
  deriving Inhabited

namespace ResponsePath

variable (ids : BuildIds) (s : ResponsePath) (i : ResponsePathIn)

def reset : ResponsePath := ⟨.reset, .reset, .reset⟩

/-- `udp_resp_*` -/
def offer : Offer where
  valid := if s.serializer.active then true else s.control.output.tvalid
  data := if s.serializer.active then s.serializer.data else s.control.output.tdata
  last := if s.serializer.active then s.serializer.last else s.control.output.tlast
  wordCount := if s.serializer.active then s.serializer.responseWordCount else s.control.output.wordCount

/-- `wave_resp_ready` -/
def waveReady : Bool := s.serializer.active && s.tx.ready i.tx

/-- `rvresp64_tready` -/
def controlReady : Bool := !s.serializer.active && s.tx.ready i.tx

def controlIn : RiscvIn := { i.control with rvrespReady := s.controlReady i }

def step : ResponsePath where
  control := s.control.step ids (s.controlIn i)
  serializer := s.serializer.step i.eventValid i.event (s.waveReady i)
  tx := s.tx.step i.tx s.offer

end ResponsePath

def responsePath (ids : BuildIds) : Clocked.Machine ResponsePathIn ResponsePath where
  reset := .reset
  step s i := s.step ids i

end Xczu47dr.Control
