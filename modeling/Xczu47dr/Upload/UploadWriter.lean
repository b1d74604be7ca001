import Mathlib.Logic.Function.Basic
import Xczu47dr.Clocked.Machine

/-! # The waveform upload writer

`waveform_upload_writer`: WAVECTR0 packets arrive as 64-bit words that cannot be
held back.  A packet is parsed word by word, judged when its last word is
registered, and answered; the data of a DATA packet is buffered, checked against
its CRC and only then written to the DDR, 32 bytes an AXI write.
-/

namespace Xczu47dr.Upload

abbrev Word := BitVec 64

/-- `word[31:0]` -/
def low (w : Word) : Nat := (w.extractLsb' 0 32).toNat

/-- `word[63:32]` -/
def high (w : Word) : Nat := (w.extractLsb' 32 32).toNat

def ctrlMagic : Word := 0x5741564543545230

def maxPayloadBytes : Nat := 1408

def ddrCapacityBytes : Nat := 0x1fff00000

/-- `MAX_DATA_WORDS` -/
def maxDataWords : Nat := (maxPayloadBytes + 7) / 8

/-- The parameters an instance sets; `AXI_TIMEOUT_CYCLES` is a Verilog integer. -/
structure WriterParams where
  ddrAddrBase : Nat
  axiTimeoutCycles : Nat
  timeout_pos : 1 ≤ axiTimeoutCycles
  timeout_lt : axiTimeoutCycles < 2 ^ 31

theorem topTimeout_pos : 1 ≤ 300000 := by decide

/-- `EXT_DDR_ADDR_BASE` and the default timeout. -/
def topWriterParams : WriterParams := ⟨0x4800000000, 300000, topTimeout_pos, by decide⟩

/-! ## Codes -/

def opBegin : Nat := 1
def opData : Nat := 2
def opCommit : Nat := 3
def opPlay : Nat := 4
def opPause : Nat := 5
def opStop : Nat := 6
def opAbort : Nat := 7
def opStatus : Nat := 8

def statusOk : Nat := 0
def statusBadRequest : Nat := 2
def statusIncomplete : Nat := 4
def statusSequence : Nat := 5
def statusOffset : Nat := 6
def statusCrc : Nat := 7
def statusRange : Nat := 8
def statusAxiError : Nat := 9
def statusTimeout : Nat := 10
def statusUnsafe : Nat := 11

/-- The command pulses: `begin_valid` to `abort_valid`. -/
inductive PlaybackCommand
  | begin
  | commit
  | play
  | pause
  | stop
  | abort
  deriving DecidableEq

inductive WriterState
  | idle
  | hdr0
  | hdr1
  | payload
  | write
  | crc
  | crcDone
  | final
  | emit
  | drop
  | readWait
  | readLoad
  deriving DecidableEq

/-! ## What a session is -/

/-- `last_data_*` -/
structure DataRecord where
  request : Nat
  packet : Nat
  offset : Nat
  length : Nat
  crc : Nat
  deriving DecidableEq

/-- The registers of the session: the descriptor, the progress of its upload, and the
    requests that are remembered as processed. -/
structure UploadCore where
  session : Nat
  descriptor : Nat
  ddrBaseAddr : Nat
  totalBytes : Nat
  totalBeats : Nat
  channelMask : Nat
  loopCount : Nat
  receivedBytes : Nat
  nextPacketSeq : Nat
  uploadActive : Bool
  committed : Bool
  generation : Nat
  lastDataValid : Bool
  lastData : DataRecord
  lastPlayValid : Bool
  lastPlayRequest : Nat
  lastCommitRequest : Nat
  lastBeginRequest : Nat
  deriving DecidableEq

/-- `begin_*` -/
structure BeginFields where
  session : Nat
  totalBytes : Nat
  channelMask : Nat
  layout : Nat
  reserved : Nat
  totalBeats : Nat
  loopCount : Nat
  bytesPerBeat : Nat
  deriving DecidableEq

/-- `data_*` -/
structure DataFields where
  session : Nat
  packetSeq : Nat
  offset : Nat
  length : Nat
  crcExpected : Nat
  rangeOk : Bool
  offsetOk : Bool
  deriving DecidableEq

/-- The parsed request. -/
structure UploadRequest where
  opcode : Nat
  seq : Nat
  begin : BeginFields
  data : DataFields
  sessionWord : Word
  deriving DecidableEq

namespace UploadCore

def reset (p : WriterParams) : UploadCore where
  session := 0
  descriptor := 0
  ddrBaseAddr := p.ddrAddrBase
  totalBytes := 0
  totalBeats := 0
  channelMask := 0
  loopCount := 0
  receivedBytes := 0
  nextPacketSeq := 0
  uploadActive := false
  committed := false
  generation := 0
  lastDataValid := false
  lastData := ⟨0, 0, 0, 0, 0⟩
  lastPlayValid := false
  lastPlayRequest := 0
  lastCommitRequest := 0
  lastBeginRequest := 0

variable (p : WriterParams) (c : UploadCore) (r : UploadRequest)

/-- `next_generation` -/
def nextGeneration : Nat := if c.generation = 2 ^ 32 - 1 then 1 else c.generation + 1

/-! What accepted requests make of the session. -/

def begun : UploadCore :=
  { c with
    session := r.begin.session
    totalBytes := r.begin.totalBytes
    totalBeats := r.begin.totalBeats
    channelMask := r.begin.channelMask
    loopCount := r.begin.loopCount
    ddrBaseAddr := p.ddrAddrBase
    receivedBytes := 0
    nextPacketSeq := 0
    descriptor := 0
    uploadActive := true
    committed := false
    lastDataValid := false
    lastPlayValid := false
    lastBeginRequest := r.seq }

def commits : UploadCore :=
  { c with
    generation := c.nextGeneration
    descriptor := c.nextGeneration
    committed := true
    uploadActive := false
    lastCommitRequest := r.seq }

def plays : UploadCore := { c with lastPlayRequest := r.seq, lastPlayValid := true }

/-- `STOP` while an upload is going on. -/
def dropsUpload : UploadCore :=
  { c with
    session := 0
    descriptor := 0
    uploadActive := false
    receivedBytes := 0
    nextPacketSeq := 0
    lastDataValid := false }

def aborts : UploadCore :=
  { c with
    session := 0
    descriptor := 0
    receivedBytes := 0
    nextPacketSeq := 0
    committed := false
    uploadActive := false
    lastDataValid := false
    lastPlayValid := false }

/-- The last AXI write of a DATA packet has been confirmed; `length` is `write_length`. -/
def stores (length : Nat) : UploadCore :=
  { c with
    receivedBytes := (c.receivedBytes + length) % 2 ^ 64
    nextPacketSeq := (c.nextPacketSeq + 1) % 2 ^ 32
    lastDataValid := true
    lastData := ⟨r.seq, r.data.packetSeq, r.data.offset, r.data.length, r.data.crcExpected⟩ }

def fails : UploadCore := { c with uploadActive := false, committed := false }

end UploadCore

/-! ## The judgement of a request -/

/-- What `ST_FINAL` decides about a request. -/
inductive Verdict
  | refuse (status offset : Nat)
  | accept (core : UploadCore) (pulse : Option PlaybackCommand)
  | check (duplicate : Bool)

namespace UploadRequest

variable (p : WriterParams) (c : UploadCore) (r : UploadRequest) (playback : Nat)

def beginMalformed : Bool :=
  decide (r.begin.session = 0 ∨ r.begin.channelMask = 0 ∨ r.begin.layout ≠ 1 ∨ r.begin.reserved ≠ 0 ∨
    r.begin.bytesPerBeat ≠ 64 ∨ r.begin.loopCount = 0 ∨ r.begin.totalBytes = 0 ∨
    ddrCapacityBytes < r.begin.totalBytes ∨ r.begin.totalBytes ≠ r.begin.totalBeats * 256)

def beginRepeated : Bool :=
  decide (c.session = r.begin.session ∧ c.lastBeginRequest = r.seq) && (c.uploadActive || c.committed)

def beginDiffers : Bool :=
  decide (c.totalBytes ≠ r.begin.totalBytes ∨ c.totalBeats ≠ r.begin.totalBeats ∨
    c.channelMask ≠ r.begin.channelMask ∨ c.loopCount ≠ r.begin.loopCount)

def dataRepeated : Bool :=
  c.lastDataValid &&
    decide (c.lastData = ⟨r.seq, r.data.packetSeq, r.data.offset, r.data.length, r.data.crcExpected⟩)

/-- The session word of a command names another session. -/
def sessionDiffers : Bool :=
  decide (high r.sessionWord ≠ 0 ∨ (low r.sessionWord ≠ 0 ∧ low r.sessionWord ≠ c.session))

def judgeBegin : Verdict :=
  if r.beginMalformed then .refuse statusBadRequest 0
  else if r.beginRepeated c then
    if r.beginDiffers c then .refuse statusBadRequest 0 else .accept c none
  else .accept (c.begun p r) (some .begin)

def judgeData : Verdict :=
  if r.data.session ≠ c.session ∨ c.uploadActive = false ∨ playback = 8 then
    .refuse statusBadRequest r.data.offset
  else if r.data.rangeOk = false then .refuse statusRange r.data.offset
  else if r.dataRepeated c then .check true
  else if r.data.packetSeq ≠ c.nextPacketSeq then .refuse statusSequence r.data.offset
  else if r.data.offsetOk = false then .refuse statusOffset r.data.offset
  else .check false

def judgeCommit : Verdict :=
  if c.committed ∧ c.lastCommitRequest = r.seq then .accept c none
  else if c.uploadActive = false ∨ c.session = 0 ∨ playback = 8 then .refuse statusBadRequest c.receivedBytes
  else if c.receivedBytes ≠ c.totalBytes then .refuse statusIncomplete c.receivedBytes
  else .accept (c.commits r) (some .commit)

def judgePlay : Verdict :=
  if c.lastPlayValid ∧ c.lastPlayRequest = r.seq then .accept c none
  else if c.committed = false ∨ ¬ (playback = 2 ∨ playback = 3 ∨ playback = 4 ∨ playback = 7) then
    .refuse statusUnsafe 0
  else .accept (c.plays r) (some .play)

def judgeHalt : Verdict :=
  if c.uploadActive ∧ r.opcode = opStop then .accept c.dropsUpload (some .stop)
  else if c.committed = false ∨ playback = 8 then .refuse statusUnsafe 0
  else if r.opcode = opStop then .accept c (some .stop)
  else .accept c (some .pause)

def judge : Verdict :=
  if r.opcode = opBegin then r.judgeBegin p c
  else if r.opcode = opData then r.judgeData c playback
  else if r.sessionDiffers c then .refuse statusBadRequest c.receivedBytes
  else if r.opcode = opCommit then r.judgeCommit c playback
  else if r.opcode = opPlay then r.judgePlay c playback
  else if r.opcode = opPause ∨ r.opcode = opStop then r.judgeHalt c playback
  else if r.opcode = opAbort then .accept c.aborts (some .abort)
  else .accept c none

end UploadRequest

/-! ## Registers -/

/-- `status_snapshot_*` and the registers that latch it. -/
structure StatusSnapshot where
  state : Nat
  status : Nat
  errorCode : Nat
  errorOffset : Nat
  deriving DecidableEq, Inhabited

/-- `response_*` -/
structure WriterResponse where
  valid : Bool
  seq : Nat
  opcode : Nat
  status : Nat
  errorCode : Nat
  errorOffset : Nat
  state : Nat
  ackPacketSeq : Nat
  nextExpectedSequence : Nat
  receivedBytes : Nat
  firstErrorOffset : Nat
  expectedCrc : Nat
  actualCrc : Nat
  deriving DecidableEq

/-- The AXI write channels; every write is one beat with all its strobes set. -/
structure WriteChannels where
  awaddr : Nat
  awvalid : Bool
  wdata : BitVec 256
  wvalid : Bool
  wlast : Bool
  deriving DecidableEq

structure UploadWriter where
  state : WriterState
  rxActive : Bool
  core : UploadCore
  request : UploadRequest
  payloadBytes : Nat
  payloadWords : Nat
  payloadIndex : Nat
  packetError : Bool
  duplicatePacket : Bool
  /-- the four banks of `data_mem`, word after word -/
  dataMem : Nat → Word
  dataWordIndex : Nat
  packetReadAddr : Nat
  packetReadData : BitVec 256
  crcShift : BitVec 256
  readingCrc : Bool
  dataCrcRunning : BitVec 32
  crcCheckBitIndex : Nat
  crcCheckTotalBits : Nat
  crcResultOk : Bool
  statusRequest : Bool
  statusRequested : Bool
  statusResponseLatched : Bool
  statusLatched : StatusSnapshot
  response : WriterResponse
  /-- the command that is pulsed, at most one a cycle -/
  pulse : Option PlaybackCommand
  errorOffset : Nat
  errorCount : Nat
  writeIndex : Nat
  writeWordsTotal : Nat
  writeLength : Nat
  writeOffset : Nat
  writeAwDone : Bool
  writeWDone : Bool
  writeFailed : Bool
  axiTimer : Nat
  channels : WriteChannels

/-- The inputs sampled at one clock edge. -/
structure WriterIn where
  responseReady : Bool
  statusRequestReady : Bool
  statusSnapshotValid : Bool
  statusSnapshot : StatusSnapshot
  commandReady : Bool
  tvalid : Bool
  tdata : Word
  tlast : Bool
  playbackState : Nat
  awready : Bool
  wready : Bool
  bvalid : Bool
  bresp : Nat
  deriving Inhabited

/-- `crc32_bit` -/
def crc32Bit (c : BitVec 32) (bit : Bool) : BitVec 32 :=
  if (c.getLsbD 0 ^^ bit) = true then (c >>> 1) ^^^ 0xEDB88320 else c >>> 1

/-- The 256-bit word at `addr`, one 64-bit word from each bank. -/
def bankWord (mem : Nat → Word) (addr : Nat) : BitVec 256 :=
  mem (4 * addr + 3) ++ mem (4 * addr + 2) ++ mem (4 * addr + 1) ++ mem (4 * addr)

namespace UploadWriter

variable (p : WriterParams) (s n : UploadWriter) (i : WriterIn)

def reset : UploadWriter where
  state := .idle
  rxActive := false
  core := .reset p
  request := ⟨0, 0, ⟨0, 0, 0, 0, 0, 0, 0, 0⟩, ⟨0, 0, 0, 0, 0, false, false⟩, 0⟩
  payloadBytes := 0
  payloadWords := 0
  payloadIndex := 0
  packetError := false
  duplicatePacket := false
  dataMem := fun _ => 0
  dataWordIndex := 0
  packetReadAddr := 0
  packetReadData := 0
  crcShift := 0
  readingCrc := false
  dataCrcRunning := 0xFFFFFFFF
  crcCheckBitIndex := 0
  crcCheckTotalBits := 0
  crcResultOk := false
  statusRequest := false
  statusRequested := false
  statusResponseLatched := false
  statusLatched := ⟨0, statusOk, 0, 0⟩
  response := ⟨false, 0, 0, statusOk, 0, 0, 0, 0, 0, 0, 0, 0, 0⟩
  pulse := none
  errorOffset := 0
  errorCount := 0
  writeIndex := 0
  writeWordsTotal := 0
  writeLength := 0
  writeOffset := 0
  writeAwDone := false
  writeWDone := false
  writeFailed := false
  axiTimer := 0
  channels := ⟨0, false, 0, false, false⟩

/-! ## Wires -/

def awFires : Bool := s.channels.awvalid && i.awready

def wFires : Bool := s.channels.wvalid && i.wready

/-- `m_axi_bready`: a response may come with the last handshake of its write. -/
def bready : Bool := s.state == .write && (s.writeAwDone || s.awFires i) && (s.writeWDone || s.wFires i)

def bFires : Bool := i.bvalid && s.bready i

def packetWrite : Bool :=
  i.tvalid && s.state == .payload && s.request.opcode == opData && decide (3 ≤ s.payloadIndex) &&
    decide (s.dataWordIndex < maxDataWords)

/-- `command_opcode_requires_admission` -/
def requiresAdmission : Bool :=
  decide (s.request.opcode = opBegin ∨ s.request.opcode = opCommit ∨ s.request.opcode = opPlay ∨
    s.request.opcode = opPause ∨ s.request.opcode = opStop ∨ s.request.opcode = opAbort)

/-- `write_offset + (write_index << 5)` -/
def failingOffset : Nat := (s.writeOffset + s.writeIndex * 32) % 2 ^ 64

def timesOut : Bool :=
  s.state == .write && !(s.awFires i || s.wFires i || s.bFires i) && !s.writeFailed &&
    s.axiTimer == p.axiTimeoutCycles - 1

/-! ## The parts of a cycle -/

/-- What every cycle does, whatever the state. -/
def common : UploadWriter :=
  { s with
    rxActive := if i.tvalid then !i.tlast else s.rxActive
    response := { s.response with valid := s.response.valid && !i.responseReady }
    statusRequest := false
    pulse := none
    dataMem := if s.packetWrite i then Function.update s.dataMem s.dataWordIndex i.tdata else s.dataMem
    packetReadData := bankWord s.dataMem s.packetReadAddr
    channels := { s.channels with
      awvalid := s.channels.awvalid && !i.awready
      wvalid := s.channels.wvalid && !i.wready
      wlast := s.channels.wlast && !s.wFires i }
    writeAwDone := s.awFires i || s.writeAwDone
    writeWDone := s.wFires i || s.writeWDone
    axiTimer :=
      if s.state ≠ .write ∨ (s.awFires i || s.wFires i || s.bFires i) then 0
      else if s.writeFailed || s.axiTimer == p.axiTimeoutCycles - 1 then s.axiTimer
      else (s.axiTimer + 1) % 2 ^ 32 }

/-- `set_error`: the first error of a packet is kept.  `n` is the state assigned so far. -/
def setError (status offset : Nat) : UploadWriter :=
  if s.packetError then { n with packetError := true }
  else
    { n with
      response := { n.response with status := status, errorCode := status }
      errorOffset := offset
      errorCount := (s.errorCount + 1) % 2 ^ 32
      packetError := true }

/-- `ST_WRITE` -/
def stepWrite : UploadWriter :=
  let t := s.common p i
  if s.bFires i then
    let t := { t with writeAwDone := false, writeWDone := false }
    if s.writeFailed then { t with state := .idle }
    else if i.bresp ≠ 0 then
      { t with
        response := { t.response with status := statusAxiError, errorCode := statusAxiError }
        errorOffset := s.failingOffset
        errorCount := (s.errorCount + 1) % 2 ^ 32
        core := s.core.fails
        state := .emit }
    else if s.writeWordsTotal ≤ s.writeIndex + 1 then
      { t with
        core := s.core.stores s.request s.writeLength
        response := { t.response with status := statusOk, errorCode := 0 }
        state := .emit }
    else
      { t with
        writeIndex := (s.writeIndex + 1) % 2 ^ 32
        packetReadAddr := (s.packetReadAddr + 1) % 2 ^ 6
        state := .readWait }
  else if s.timesOut p i then
    -- AXI cannot be cancelled: the write stays under way, the answer does not wait for it
    { t with
      writeFailed := true
      core := s.core.fails
      errorOffset := s.failingOffset
      errorCount := (s.errorCount + 1) % 2 ^ 32
      response := { t.response with
        valid := true
        seq := s.request.seq
        opcode := s.request.opcode
        status := statusTimeout
        errorCode := statusTimeout
        errorOffset := s.failingOffset
        state := i.playbackState
        receivedBytes := s.core.receivedBytes
        nextExpectedSequence := s.core.nextPacketSeq
        firstErrorOffset := s.failingOffset
        ackPacketSeq := (s.core.nextPacketSeq + 2 ^ 32 - 1) % 2 ^ 32 } }
  else t

/-- `ST_READ_LOAD` -/
def stepReadLoad : UploadWriter :=
  let t := s.common p i
  if s.readingCrc then { t with crcShift := s.packetReadData, state := .crc }
  else
    { t with
      channels :=
        { awaddr := (p.ddrAddrBase + s.writeOffset + s.writeIndex * 32) % 2 ^ 64
          awvalid := true
          wdata := s.packetReadData
          wvalid := true
          wlast := true }
      writeAwDone := false
      writeWDone := false
      state := .write }

/-- `ST_CRC`: one bit a cycle. -/
def stepCrc : UploadWriter :=
  let t := { s.common p i with
    dataCrcRunning := crc32Bit s.dataCrcRunning (s.crcShift.getLsbD 0)
    crcShift := s.crcShift >>> 1
    crcCheckBitIndex := (s.crcCheckBitIndex + 1) % 2 ^ 14 }
  if s.crcCheckTotalBits ≤ s.crcCheckBitIndex + 1 then
    { t with
      crcResultOk :=
        (crc32Bit s.dataCrcRunning (s.crcShift.getLsbD 0) ^^^ 0xFFFFFFFF).toNat == s.request.data.crcExpected
      state := .crcDone }
  else if s.crcCheckBitIndex % 256 = 255 then
    { t with packetReadAddr := (s.packetReadAddr + 1) % 2 ^ 6, state := .readWait }
  else t

/-- `ST_CRC_DONE` -/
def stepCrcDone : UploadWriter :=
  let t := s.common p i
  let t := { t with response := { t.response with actualCrc := (s.dataCrcRunning ^^^ 0xFFFFFFFF).toNat } }
  if s.crcResultOk = false then
    { t with
      response := { t.response with status := statusCrc, errorCode := statusCrc }
      errorOffset := s.request.data.offset
      errorCount := (s.errorCount + 1) % 2 ^ 32
      state := .emit }
  else if s.duplicatePacket then { t with state := .emit }
  else
    { t with
      writeIndex := 0
      writeWordsTotal := s.request.data.length / 32
      writeLength := s.request.data.length
      writeOffset := s.request.data.offset
      writeAwDone := false
      writeWDone := false
      writeFailed := false
      packetReadAddr := 0
      readingCrc := false
      state := .readWait }

/-- `ST_EMIT` -/
def stepEmit : UploadWriter :=
  let t := s.common p i
  let answered : WriterResponse :=
    { t.response with
      valid := true
      seq := s.request.seq
      opcode := s.request.opcode
      ackPacketSeq := (s.core.nextPacketSeq + 2 ^ 32 - 1) % 2 ^ 32
      nextExpectedSequence := s.core.nextPacketSeq
      receivedBytes := s.core.receivedBytes }
  if s.request.opcode = opStatus ∧ s.statusResponseLatched then
    { t with
      response := { answered with
        state := s.statusLatched.state
        status := s.statusLatched.status
        errorCode := s.statusLatched.errorCode
        errorOffset := s.statusLatched.errorOffset
        firstErrorOffset := s.statusLatched.errorOffset }
      state := .idle }
  else
    { t with
      response := { answered with
        state := i.playbackState
        errorOffset := s.errorOffset
        firstErrorOffset := s.errorOffset }
      state := .idle }

/-- What a verdict does; a request that is not checked further goes to `ST_EMIT`. -/
def applyVerdict (verdict : Verdict) : UploadWriter :=
  match verdict with
  | .refuse status offset => s.setError n status offset
  | .accept core pulse =>
    { n with
      core := core
      pulse := pulse
      errorOffset := if pulse = some .begin ∨ pulse = some .abort then 0 else n.errorOffset
      errorCount := if pulse = some .abort then 0 else n.errorCount }
  | .check duplicate =>
    { n with
      duplicatePacket := duplicate || n.duplicatePacket
      dataCrcRunning := 0xFFFFFFFF
      crcCheckBitIndex := 0
      crcCheckTotalBits := s.request.data.length % 2 ^ 14 * 8 % 2 ^ 15
      packetReadAddr := 0
      readingCrc := true
      state := .readWait }

/-- `ST_FINAL` -/
def stepFinal : UploadWriter :=
  let t := s.common p i
  if s.request.opcode = opStatus ∧ s.packetError = false then
    if s.statusRequested = false then
      if i.statusRequestReady then { t with statusRequest := true, statusRequested := true } else t
    else if i.statusSnapshotValid then
      { t with statusLatched := i.statusSnapshot, statusResponseLatched := true, state := .emit }
    else t
  else if s.requiresAdmission && !i.commandReady then t
  else if s.packetError then { t with state := .emit }
  else
    let t := { t with state := .emit }
    let t := if s.request.opcode = opData then
        { t with response := { t.response with expectedCrc := s.request.data.crcExpected } }
      else t
    s.applyVerdict t (s.request.judge p s.core i.playbackState)

/-- `ST_IDLE` -/
def stepIdle : UploadWriter :=
  let t := s.common p i
  if i.tvalid && !s.rxActive && !s.response.valid && !i.tlast && i.tdata == ctrlMagic then
    { t with
      state := .hdr0
      packetError := false
      response := { t.response with status := statusOk, errorCode := 0, expectedCrc := 0, actualCrc := 0 } }
  else t

/-- The version or the opcode of the first header word is not known. -/
def badHeader (w : Word) : Bool := decide (low w ≠ 1 ∨ high w < 1 ∨ 8 < high w)

/-- `ST_HDR0` -/
def stepHdr0 : UploadWriter :=
  let t := s.common p i
  if i.tvalid then
    let t := if badHeader i.tdata then s.setError t statusBadRequest 0 else t
    { t with
      request := { s.request with opcode := high i.tdata }
      statusRequested := false
      statusResponseLatched := false
      state := if i.tlast then .idle else .hdr1 }
  else t

/-- The length a request declares is not one of its opcode. -/
def badLength (opcode bytes : Nat) : Bool :=
  decide ((opcode = opBegin ∧ bytes ≠ 28) ∨ (opcode = opData ∧ (bytes < 56 ∨ maxPayloadBytes + 24 < bytes)) ∨
    (opCommit ≤ opcode ∧ bytes ≠ 4))

/-- `ST_HDR1` -/
def stepHdr1 : UploadWriter :=
  let t := s.common p i
  if i.tvalid then
    let t := { t with
      request := { s.request with seq := low i.tdata }
      payloadBytes := high i.tdata
      payloadWords := high i.tdata / 8 + if high i.tdata % 8 ≠ 0 then 1 else 0
      payloadIndex := 0
      dataWordIndex := 0
      duplicatePacket := false }
    if i.tlast then { s.setError t statusBadRequest 0 with state := .emit }
    else if badLength s.request.opcode (high i.tdata) then { s.setError t statusBadRequest 0 with state := .drop }
    else { t with state := .payload }
  else t

def takeBegin (b : BeginFields) (index : Nat) (w : Word) : BeginFields :=
  match index with
  | 0 => { b with session := low w, totalBytes := b.totalBytes / 2 ^ 32 * 2 ^ 32 + high w }
  | 1 => { b with
      totalBytes := low w * 2 ^ 32 + b.totalBytes % 2 ^ 32
      channelMask := (w.extractLsb' 32 8).toNat
      layout := (w.extractLsb' 40 8).toNat
      reserved := (w.extractLsb' 48 16).toNat }
  | 2 => { b with totalBeats := low w, loopCount := high w }
  | 3 => { b with bytesPerBeat := low w }
  | _ => b

/-- A payload word of a DATA; the wide checks are registered with its last header word. -/
def takeData (c : UploadCore) (payloadBytes : Nat) (d : DataFields) (index : Nat) (w : Word) : DataFields :=
  match index with
  | 0 => { d with session := low w, packetSeq := high w }
  | 1 => { d with offset := w.toNat }
  | 2 => { d with
      length := low w
      crcExpected := high w
      rangeOk := decide (low w ≠ 0 ∧ low w ≤ maxPayloadBytes ∧ low w % 32 = 0 ∧
        payloadBytes = (low w + 24) % 2 ^ 32)
      offsetOk := decide (d.offset % 32 = 0 ∧ d.offset = c.receivedBytes ∧ d.offset ≤ c.totalBytes ∧
        low w ≤ c.totalBytes - d.offset) }
  | _ => d

def takePayload (w : Word) : UploadRequest :=
  if s.request.opcode = opBegin then { s.request with begin := takeBegin s.request.begin s.payloadIndex w }
  else if s.request.opcode = opData then
    { s.request with data := takeData s.core s.payloadBytes s.request.data s.payloadIndex w }
  else { s.request with sessionWord := w }

/-- `ST_PAYLOAD` -/
def stepPayload : UploadWriter :=
  let t := s.common p i
  if i.tvalid then
    let t := { t with
      request := s.takePayload i.tdata
      dataWordIndex :=
        if s.request.opcode = opData ∧ 3 ≤ s.payloadIndex ∧ s.dataWordIndex < maxDataWords then s.dataWordIndex + 1
        else s.dataWordIndex }
    let t := if s.request.opcode = opBegin ∧ s.payloadIndex = 3 ∧ high i.tdata ≠ 0 then
        s.setError t statusBadRequest 0
      else t
    if i.tlast then
      let t := if s.payloadIndex + 1 ≠ s.payloadWords then s.setError t statusBadRequest 0 else t
      { t with state := .final }
    else if s.payloadWords ≤ s.payloadIndex + 1 then { s.setError t statusBadRequest 0 with state := .drop }
    else { t with payloadIndex := s.payloadIndex + 1 }
  else t

/-- One clock edge of `waveform_upload_writer`. -/
def step : UploadWriter :=
  match s.state with
  | .idle => s.stepIdle p i
  | .hdr0 => s.stepHdr0 p i
  | .hdr1 => s.stepHdr1 p i
  | .payload => s.stepPayload p i
  | .write => s.stepWrite p i
  | .crc => s.stepCrc p i
  | .crcDone => s.stepCrcDone p i
  | .final => s.stepFinal p i
  | .emit => s.stepEmit p i
  | .drop => if i.tvalid && i.tlast then { s.common p i with state := .emit } else s.common p i
  | .readWait => { s.common p i with state := .readLoad }
  | .readLoad => s.stepReadLoad p i

end UploadWriter

def uploadWriter (p : WriterParams) : Clocked.Machine WriterIn UploadWriter where
  reset := .reset p
  step := .step p

end Xczu47dr.Upload
