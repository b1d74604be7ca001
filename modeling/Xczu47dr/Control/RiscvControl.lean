import Mathlib.Logic.Function.Basic
import Xczu47dr.Control.Framer
import Xczu47dr.Control.Response

/-! # The control command machine

`pl_riscv_control_v1` as the production build instantiates it: `udp_rvctrl_framer`
drives it with protocol RF2 only and MMIO is disabled, so the decoders of the two
older protocols and the MMIO engine are left out.  One clocked process receives a
command into a payload buffer, processes it, decodes it and queues the responses;
every stage reads the registers of the cycle before, and where two stages assign
the same register the later one wins.
-/

namespace Xczu47dr.Control

/-- `MAX_PAYLOAD_WORDS` -/
def maxPayloadWords : Nat := 64

/-- `TDC_REG_TIMEOUT_CYCLES` -/
def tdcRegTimeoutCycles : Nat := 1000000

/-- The `DEC_` codes an RFCTRL2 opcode decodes to. -/
inductive CommandKind
  | unsupported
  | hello
  | status
  | networkGet
  | networkApply
  | networkRestart
  | rfdcApply
  | rfdcGet
  | syncEpoch
  | tdcReg
  | diagSnapshot
  | diagControl
  deriving DecidableEq

/-- `decode_kind` for `is_v2`. -/
def decodeKind (opcode : BitVec 32) : CommandKind :=
  if opcode = rf2OpHello then .hello
  else if opcode = rf2OpStatus then .status
  else if opcode = rf2OpNetworkGet then .networkGet
  else if opcode = rf2OpNetworkApply then .networkApply
  else if opcode = rf2OpNetworkRestart then .networkRestart
  else if opcode = rf2OpRfdcApply then .rfdcApply
  else if opcode = rf2OpRfdcGetConfig then .rfdcGet
  else if opcode = rf2OpSyncEpoch then .syncEpoch
  else if opcode = rf2OpTdcReg then .tdcReg
  else if opcode = rf2OpDiagSnapshot then .diagSnapshot
  else if opcode = rf2OpDiagControl then .diagControl
  else .unsupported

/-- `rfdc_apply_*`: the arguments of an RFDC apply. -/
structure RfdcRequest where
  sequence : BitVec 32
  revision : BitVec 32
  channelMask : BitVec 8
  ncoHz : Fin 8 → BitVec 64
  nyquistZone : Fin 8 → BitVec 2
  phaseMdeg : Fin 8 → BitVec 32
  currentUa : Fin 8 → BitVec 32

/-- `network_apply_*`: the arguments of a network apply. -/
structure NetworkRequest where
  revision : BitVec 32
  ip : BitVec 32
  mac : BitVec 64
  subnet : BitVec 32
  gateway : BitVec 32
  port : BitVec 16

/-- The two-entry response request FIFO: `resp_request_*` and `resp_request_*2`. -/
structure ResponseSlots where
  first : Option ResponseRequest
  second : Option ResponseRequest

/-- The registers of `pl_riscv_control_v1`, the debug counters and the MMIO engine
    left out. -/
structure RiscvControl where
  payloadWords : Nat → BitVec 32
  rxIndex : Nat
  rxExpectedWords : Nat
  rxDrop : Bool
  processPending : Bool
  decodePending : Bool
  rfdcPayloadFieldsInvalid : Bool
  cmdOpcode : BitVec 32
  cmdSeq : BitVec 32
  cmdFlags : BitVec 32
  cmdPayloadBytes : BitVec 32
  cmdVersionValid : Bool
  cmdKind : CommandKind
  slots : ResponseSlots
  output : ResponseOutput
  rfdcApplyStart : Bool
  rfdcRequest : RfdcRequest
  rfdcResponsePending : Bool
  rfdcResponseSequence : BitVec 32
  rfdcResponseOpcode : BitVec 32
  networkApplyStart : Bool
  networkRestartStart : Bool
  networkRequest : NetworkRequest
  networkResponsePending : Bool
  networkResponseSequence : BitVec 32
  networkResponseOpcode : BitVec 32
  tdcRegValid : Bool
  tdcRegWrite : Bool
  tdcRegAddr : BitVec 16
  tdcRegWdata : BitVec 32
  tdcRegTimeout : Nat
  tdcResponseSequence : BitVec 32
  tdcResponsePending : Bool
  tdcResponseData : BitVec 32
  tdcResponseError : BitVec 16
  diagGeneration : BitVec 64
  diagSnapshotWait : Bool
  diagSnapshotPendingSeq : BitVec 32
  diagSnapshotAckSeen : Bool
  diagSnapshotRequestToggle : Bool
  diagClearEventsPulse : Bool
  diagClearCountersPulse : Bool
  syncEpochPulse : Bool
  epoch : BitVec 64

/-- What `pl_riscv_control_v1` samples at one clock edge. -/
structure RiscvIn where
  rvctrlValid : Bool
  rvctrl : RvctrlWord
  rvrespReady : Bool
  rfdcApplyDone : Bool
  networkBusy : Bool
  networkDone : Bool
  tdcRegReady : Bool
  tdcRegRdata : BitVec 32
  tdcRegError : BitVec 16
  diagSnapshotAckToggle : Bool
  status : ControlStatus
  deriving Inhabited

namespace RiscvControl

def reset : RiscvControl where
  payloadWords := fun _ => 0
  rxIndex := 0
  rxExpectedWords := 0
  rxDrop := false
  processPending := false
  decodePending := false
  rfdcPayloadFieldsInvalid := false
  cmdOpcode := 0
  cmdSeq := 0
  cmdFlags := 0
  cmdPayloadBytes := 0
  cmdVersionValid := false
  cmdKind := .unsupported
  slots := ⟨none, none⟩
  output := .reset
  rfdcApplyStart := false
  rfdcRequest := ⟨0, 0, 0, fun _ => 0, fun _ => 0, fun _ => 0, fun _ => 0⟩
  rfdcResponsePending := false
  rfdcResponseSequence := 0
  rfdcResponseOpcode := rf2OpRfdcApply
  networkApplyStart := false
  networkRestartStart := false
  networkRequest := ⟨0, 0, 0, 0, 0, 0⟩
  networkResponsePending := false
  networkResponseSequence := 0
  networkResponseOpcode := rf2OpNetworkApply
  tdcRegValid := false
  tdcRegWrite := false
  tdcRegAddr := 0
  tdcRegWdata := 0
  tdcRegTimeout := 0
  tdcResponseSequence := 0
  tdcResponsePending := false
  tdcResponseData := 0
  tdcResponseError := 0
  diagGeneration := 0
  diagSnapshotWait := false
  diagSnapshotPendingSeq := 0
  diagSnapshotAckSeen := false
  diagSnapshotRequestToggle := false
  diagClearEventsPulse := false
  diagClearCountersPulse := false
  syncEpochPulse := false
  epoch := 0

variable (ids : BuildIds) (s : RiscvControl) (i : RiscvIn)

/-! ## The receive counters -/

/-- `rx_word_count_narrow` -/
def wordCountNarrow : Nat := i.rvctrl.wordCount % 128

/-- `first_count_ok` -/
def firstCountOk : Bool := i.rvctrl.wordCount / 128 == 0 && decide (wordCountNarrow i ≤ maxPayloadWords)

/-- `active_rx_index` -/
def activeIndex : Nat := if i.rvctrl.tfirst then 0 else s.rxIndex

/-- `active_expected_words` -/
def activeExpected : Nat := if i.rvctrl.tfirst then wordCountNarrow i else s.rxExpectedWords

/-- `active_count_ok && !active_drop` -/
def activeOk : Bool := if i.rvctrl.tfirst then firstCountOk i else !s.rxDrop

/-- `active_second_index` -/
def secondIndex : Nat := (s.activeIndex i + 1) % 128

/-- `active_second_word` -/
def hasSecond : Bool := decide (s.secondIndex i < s.activeExpected i)

/-- `active_words_after_beat` -/
def wordsAfterBeat : Nat := (s.activeIndex i + if s.hasSecond i then 2 else 1) % 128

/-- A field of an RFDC apply that must be zero is not. -/
def fieldInvalid : Bool :=
  (s.secondIndex i == 5 && i.rvctrl.tdata.extractLsb' 40 24 != 0) ||
    ([11, 17, 23, 29, 35, 41, 47, 53].contains (s.secondIndex i) &&
      i.rvctrl.tdata.extractLsb' 32 32 != 0)

/-! ## The priority chain -/

/-- A command word arrives and is not ignored. -/
def receives : Bool := i.rvctrlValid && !s.rfdcResponsePending

/-- The diagnostic snapshot is complete and the response path is empty. -/
def diagCompletes : Bool :=
  s.diagSnapshotWait && i.diagSnapshotAckToggle == !s.diagSnapshotAckSeen && s.slots.first.isNone &&
    s.slots.second.isNone && !s.output.tvalid

/-- The TDC access is complete and its response can be queued. -/
def tdcCompletes : Bool :=
  s.tdcResponsePending && s.slots.first.isNone && s.slots.second.isNone &&
    !(s.rfdcResponsePending && i.rfdcApplyDone) && !(s.networkResponsePending && i.networkDone)

/-- `queue_resp0` -/
def resp0 (opcode : BitVec 32) (status : BitVec 16) (sequence : BitVec 32) : ResponseRequest :=
  ⟨.resp0, rfresp2Magic, rf2Version, opcode, status, sequence, 0, 0, 0⟩

/-- `queue_resp1` -/
def resp1 (opcode : BitVec 32) (status : BitVec 16) (sequence payloadBytes : BitVec 32)
    (payload0 : BitVec 64) : ResponseRequest :=
  ⟨.resp1, rfresp2Magic, rf2Version, opcode, status, sequence, payloadBytes, payload0, 0⟩

/-- `queue_rf2_status` -/
def rf2Status (opcode sequence : BitVec 32) : ResponseRequest :=
  ⟨.status, rfresp2Magic, rf2Version, opcode, 0, sequence, 128, 0, 0⟩

/-- `queue_rf2_diag` -/
def rf2Diag (opcode sequence : BitVec 32) : ResponseRequest :=
  ⟨.diag, rfresp2Magic, rf2Version, opcode, 0, sequence, 152, 0, 0⟩

/-- `queue_rfdc_response` -/
def rfdcResponse (opcode sequence : BitVec 32) : ResponseRequest :=
  ⟨.rfdc, rfresp2Magic, rf2Version, opcode, 0, sequence, 352, 0, 0⟩

/-- `queue_network_response` -/
def networkResponse (opcode sequence : BitVec 32) : ResponseRequest :=
  ⟨.network, rfresp2Magic, rf2Version, opcode, i.status.networkStatus, sequence, 80, 0, 0⟩

/-! ## The stages of a cycle

Each stage reads the registers `s` of the cycle before and updates `t`, what the
earlier stages have made of them. -/

variable (t : RiscvControl)

/-- The pulses last one cycle.  (The two diagnostic clears are not among them.) -/
def clearPulses : RiscvControl :=
  { s with
    syncEpochPulse := false
    rfdcApplyStart := false
    networkApplyStart := false
    networkRestartStart := false }

/-- `rfdc_response_pending && rfdc_apply_done` -/
def rfdcCompletes : Bool := s.rfdcResponsePending && i.rfdcApplyDone

/-- `network_response_pending && network_done` -/
def networkCompletes : Bool := s.networkResponsePending && i.networkDone

/-- The completions that do not wait for the queue. -/
def complete : RiscvControl :=
  { t with
    rfdcResponsePending := t.rfdcResponsePending && !s.rfdcCompletes i
    networkResponsePending := t.networkResponsePending && !s.networkCompletes i }

/-- The TDC register access, or its timeout. -/
def accessTdc : RiscvControl :=
  if s.tdcRegValid then
    if i.tdcRegReady || decide (tdcRegTimeoutCycles - 1 ≤ s.tdcRegTimeout) then
      { t with
        tdcRegValid := false
        tdcResponsePending := true
        tdcResponseData := if i.tdcRegReady then i.tdcRegRdata else 0
        tdcResponseError := if i.tdcRegReady then i.tdcRegError else 9 }
    else { t with tdcRegTimeout := (s.tdcRegTimeout + 1) % 2 ^ 32 }
  else t

/-- A command word goes to the payload buffer. -/
def receive : RiscvControl :=
  let first := s.activeIndex i
  let second := s.secondIndex i
  let stored := if s.activeOk i && decide (first < maxPayloadWords) then
      Function.update s.payloadWords first (i.rvctrl.tdata.extractLsb' 0 32)
    else s.payloadWords
  { t with
    payloadWords := if s.activeOk i && s.hasSecond i && decide (second < maxPayloadWords) then
        Function.update stored second (i.rvctrl.tdata.extractLsb' 32 32)
      else stored
    rxIndex := if first < maxPayloadWords then (first + 2) % 128 else maxPayloadWords
    rxExpectedWords := s.activeExpected i
    rxDrop := if i.rvctrl.tfirst then !firstCountOk i else s.rxDrop
    rfdcPayloadFieldsInvalid := (s.activeOk i && s.fieldInvalid i) ||
      (!i.rvctrl.tfirst && s.rfdcPayloadFieldsInvalid)
    processPending := if i.rvctrl.tlast then
        s.activeOk i && s.wordsAfterBeat i == s.activeExpected i
      else s.processPending }

/-- The header fields of the payload buffer become the command. -/
def process : RiscvControl :=
  { t with
    processPending := false
    decodePending := true
    cmdFlags := (s.payloadWords 0).extractLsb' 16 16 |>.zeroExtend 32
    cmdOpcode := s.payloadWords 1
    cmdSeq := s.payloadWords 2
    cmdPayloadBytes := s.payloadWords 3
    cmdVersionValid := (s.payloadWords 0).extractLsb' 0 16 == rf2Version
    cmdKind := decodeKind (s.payloadWords 1) }

/-- The diagnostic snapshot has been acknowledged. -/
def completeDiag : RiscvControl :=
  { t with
    diagSnapshotAckSeen := i.diagSnapshotAckToggle
    diagSnapshotWait := false
    diagGeneration := s.diagGeneration + 1 }

/-! ## The decoder -/

/-- What the decoder does with a command: its registers and, unless the answer is
    deferred, the response it queues. -/
structure Decoded where
  next : RiscvControl
  response : Option ResponseRequest

def refuse (opcode : BitVec 32) (code : BitVec 16) : Decoded :=
  ⟨t, some (resp0 opcode code s.cmdSeq)⟩

def decodeTdcReg : Decoded :=
  if s.cmdPayloadBytes ≠ 16 ∨ s.rxExpectedWords ≠ 8 ∨ s.cmdFlags ≠ 0 ∨ 1 < (s.payloadWords 4).toNat ∨
      (s.payloadWords 5).extractLsb' 16 16 ≠ 0 ∨ (s.payloadWords 5).extractLsb' 0 2 ≠ 0 ∨
      s.payloadWords 7 ≠ 0 then
    s.refuse t rf2OpTdcReg 3
  else if s.tdcRegValid || s.tdcResponsePending then s.refuse t rf2OpTdcReg 4
  else
    ⟨{ t with
        tdcRegValid := true
        tdcRegWrite := (s.payloadWords 4).getLsbD 0
        tdcRegAddr := (s.payloadWords 5).extractLsb' 0 16
        tdcRegWdata := s.payloadWords 6
        tdcRegTimeout := 0
        tdcResponseSequence := s.cmdSeq }, none⟩

def decodeDiagSnapshot : Decoded :=
  if s.cmdPayloadBytes ≠ 0 ∨ s.rxExpectedWords ≠ 4 then s.refuse t rf2OpDiagSnapshot 3
  else if s.diagSnapshotWait || s.output.tvalid || s.slots.first.isSome || s.slots.second.isSome then
    s.refuse t rf2OpDiagSnapshot 4
  else
    ⟨{ t with
        diagSnapshotPendingSeq := s.cmdSeq
        diagSnapshotRequestToggle := !s.diagSnapshotRequestToggle
        diagSnapshotWait := true }, none⟩

def decodeDiagControl : Decoded :=
  if s.cmdPayloadBytes ≠ 8 ∨ s.rxExpectedWords ≠ 6 then s.refuse t rf2OpDiagControl 3
  else
    ⟨{ t with
        diagClearEventsPulse := s.payloadWords 4 != 0
        diagClearCountersPulse := (s.payloadWords 5).getLsbD 0 },
      some (resp0 rf2OpDiagControl 0 s.cmdSeq)⟩

def decodeNetworkApply : Decoded :=
  if s.cmdPayloadBytes ≠ 32 ∨ s.rxExpectedWords ≠ 12 then s.refuse t rf2OpNetworkApply 3
  else if i.networkBusy then s.refuse t rf2OpNetworkApply 4
  else
    ⟨{ t with
        networkRequest :=
          { revision := s.payloadWords 4
            ip := s.payloadWords 5
            mac := s.payloadWords 7 ++ s.payloadWords 6
            subnet := s.payloadWords 8
            gateway := s.payloadWords 9
            port := (s.payloadWords 10).extractLsb' 0 16 }
        networkApplyStart := true
        networkResponsePending := true
        networkResponseSequence := s.cmdSeq
        networkResponseOpcode := rf2OpNetworkApply }, none⟩

def decodeNetworkRestart : Decoded :=
  if s.cmdPayloadBytes ≠ 0 ∨ s.rxExpectedWords ≠ 4 then s.refuse t rf2OpNetworkRestart 3
  else if i.networkBusy then s.refuse t rf2OpNetworkRestart 4
  else
    ⟨{ t with
        networkRestartStart := true
        networkResponsePending := true
        networkResponseSequence := s.cmdSeq
        networkResponseOpcode := rf2OpNetworkRestart }, none⟩

/-- The payload of an RFDC apply: six words for each channel. -/
def rfdcArguments : RfdcRequest where
  sequence := s.cmdSeq
  revision := s.payloadWords 4
  channelMask := (s.payloadWords 5).extractLsb' 0 8
  ncoHz r := s.payloadWords (6 + r.val * 6 + 1) ++ s.payloadWords (6 + r.val * 6)
  nyquistZone r := (s.payloadWords (6 + r.val * 6 + 2)).extractLsb' 0 2
  phaseMdeg r := s.payloadWords (6 + r.val * 6 + 3)
  currentUa r := s.payloadWords (6 + r.val * 6 + 4)

def decodeRfdcApply : Decoded :=
  if s.cmdPayloadBytes ≠ 200 ∨ s.rxExpectedWords ≠ 54 ∨ s.rfdcPayloadFieldsInvalid = true then
    s.refuse t rf2OpRfdcApply 3
  else if !i.status.rfdcReady || !i.status.dacMtsReady || i.status.dacMtsFailed ||
      i.status.syncAlignBusy || i.status.syncAlignFailed then
    s.refuse t rf2OpRfdcApply 5
  else if i.status.rfdcApplyBusy then s.refuse t rf2OpRfdcApply 4
  else
    ⟨{ t with
        rfdcRequest := s.rfdcArguments
        rfdcApplyStart := true
        rfdcResponsePending := true
        rfdcResponseSequence := s.cmdSeq
        rfdcResponseOpcode := rf2OpRfdcApply }, none⟩

def decodeSyncEpoch : Decoded :=
  if s.cmdPayloadBytes ≠ 8 ∨ i.status.syncRoleMaster = false ∨ i.status.syncBypass = true then
    s.refuse t rf2OpSyncEpoch 6
  else if i.status.syncAlignBusy && !i.status.syncAlignFailed then s.refuse t rf2OpSyncEpoch 4
  else
    ⟨{ t with epoch := s.payloadWords 5 ++ s.payloadWords 4, syncEpochPulse := true },
      some (resp1 rf2OpSyncEpoch 0 s.cmdSeq 8 (s.payloadWords 5 ++ s.payloadWords 4))⟩

def decode : Decoded :=
  let t := { t with decodePending := false }
  if !s.cmdVersionValid then s.refuse t s.cmdOpcode 1
  else
    match s.cmdKind with
    | .tdcReg => s.decodeTdcReg t
    | .diagSnapshot => s.decodeDiagSnapshot t
    | .diagControl => s.decodeDiagControl t
    | .hello => ⟨t, some (rf2Status rf2OpHello s.cmdSeq)⟩
    | .status => ⟨t, some (rf2Status rf2OpStatus s.cmdSeq)⟩
    | .networkGet => ⟨t, some (networkResponse i rf2OpNetworkGet s.cmdSeq)⟩
    | .networkApply => s.decodeNetworkApply i t
    | .networkRestart => s.decodeNetworkRestart i t
    | .rfdcApply => s.decodeRfdcApply i t
    | .rfdcGet => ⟨t, some (rfdcResponse rf2OpRfdcGetConfig s.cmdSeq)⟩
    | .syncEpoch => s.decodeSyncEpoch i t
    | .unsupported => s.refuse t s.cmdOpcode 2

/-- The response of a completed TDC access. -/
def tdcResponse : ResponseRequest :=
  resp1 rf2OpTdcReg s.tdcResponseError s.tdcResponseSequence 8
    (s.tdcResponseData ++ 0#16 ++ s.tdcRegAddr)

/-- The priority chain: receive, process, the two waiting completions, decode. -/
def chain : Decoded :=
  if s.receives i then ⟨s.receive i t, none⟩
  else if s.processPending then ⟨s.process t, none⟩
  else if s.diagCompletes i then
    ⟨s.completeDiag i t, some (rf2Diag rf2OpDiagSnapshot s.diagSnapshotPendingSeq)⟩
  else if s.tdcCompletes i then ⟨{ t with tdcResponsePending := false }, some s.tdcResponse⟩
  else if s.decodePending then s.decode i t
  else ⟨t, none⟩

def decodes : Bool :=
  !s.receives i && !s.processPending && !s.diagCompletes i && !s.tdcCompletes i && s.decodePending

/-! ## The response queue -/

/-- The head of the queue goes to the output stage. -/
def loads : Bool := s.slots.first.isSome && !s.output.tvalid

/-- `request_response` calls of this cycle, in the order they are made. -/
def requests : List ResponseRequest :=
  (if s.rfdcCompletes i then [rfdcResponse s.rfdcResponseOpcode s.rfdcResponseSequence] else []) ++
  (if s.networkCompletes i then
    [networkResponse i s.networkResponseOpcode s.networkResponseSequence] else []) ++
  (s.chain i s).response.toList

end RiscvControl

namespace ResponseSlots

variable (q : ResponseSlots)

/-- The head leaves and the second entry moves up. -/
def shift : ResponseSlots := ⟨q.second, none⟩

/-- One cycle: the calls of `request_response` look at the entries before the shift,
    and the last call overrides the others and the shift where they meet. -/
def step (shifts : Bool) (calls : List ResponseRequest) : ResponseSlots :=
  let moved := if shifts then q.shift else q
  match calls.getLast? with
  | none => moved
  | some call =>
    if q.first.isNone then { moved with first := some call }
    else if q.second.isNone then { moved with second := some call }
    else moved

end ResponseSlots

namespace RiscvControl

variable (ids : BuildIds) (s : RiscvControl) (i : RiscvIn)

/-- The words of the response that is loaded in this cycle. -/
def loadedWords : Option (List (BitVec 64)) :=
  if s.loads then s.slots.first.map fun q => q.words ids i.status s.diagGeneration else none

/-- One clock edge of `pl_riscv_control_v1`. -/
def step : RiscvControl :=
  let t := s.accessTdc i (s.complete i s.clearPulses)
  { (s.chain i t).next with
    slots := s.slots.step s.loads (s.requests i)
    output := s.output.step (s.loadedWords ids i) i.rvrespReady }

/-! ## What the stages leave alone -/

variable {s i}

/-- The payload buffer, the receive counters and the header fields of the command. -/
structure CommandRegisters where
  payloadWords : Nat → BitVec 32
  rxIndex : Nat
  rxExpectedWords : Nat
  rxDrop : Bool
  rfdcPayloadFieldsInvalid : Bool
  processPending : Bool
  cmdOpcode : BitVec 32
  cmdSeq : BitVec 32
  cmdFlags : BitVec 32
  cmdPayloadBytes : BitVec 32
  cmdVersionValid : Bool
  cmdKind : CommandKind

def command (s : RiscvControl) : CommandRegisters where
  payloadWords := s.payloadWords
  rxIndex := s.rxIndex
  rxExpectedWords := s.rxExpectedWords
  rxDrop := s.rxDrop
  rfdcPayloadFieldsInvalid := s.rfdcPayloadFieldsInvalid
  processPending := s.processPending
  cmdOpcode := s.cmdOpcode
  cmdSeq := s.cmdSeq
  cmdFlags := s.cmdFlags
  cmdPayloadBytes := s.cmdPayloadBytes
  cmdVersionValid := s.cmdVersionValid
  cmdKind := s.cmdKind

/-- The registers the priority chain starts from. -/
def settled (s : RiscvControl) (i : RiscvIn) : RiscvControl := s.accessTdc i (s.complete i s.clearPulses)

@[simp] theorem settled_command : (s.settled i).command = s.command := by
  unfold settled accessTdc
  split_ifs <;> rfl

@[simp] theorem settled_decodePending : (s.settled i).decodePending = s.decodePending := by
  unfold settled accessTdc
  split_ifs <;> rfl

@[simp] theorem settled_rfdcResponsePending :
    (s.settled i).rfdcResponsePending = (s.rfdcResponsePending && !s.rfdcCompletes i) := by
  unfold settled accessTdc
  split_ifs <;> rfl

variable {t u : RiscvControl}

/-- The decoder leaves the command alone and is done with it. -/
theorem decode_command :
    (s.decode i t).next.command = t.command ∧ (s.decode i t).next.decodePending = false := by
  unfold decode
  split
  · exact ⟨rfl, rfl⟩
  · cases s.cmdKind
    case tdcReg =>
      dsimp only [decodeTdcReg]
      split_ifs <;> exact ⟨rfl, rfl⟩
    case diagSnapshot =>
      dsimp only [decodeDiagSnapshot]
      split_ifs <;> exact ⟨rfl, rfl⟩
    case diagControl =>
      dsimp only [decodeDiagControl]
      split_ifs <;> exact ⟨rfl, rfl⟩
    case networkApply =>
      dsimp only [decodeNetworkApply]
      split_ifs <;> exact ⟨rfl, rfl⟩
    case networkRestart =>
      dsimp only [decodeNetworkRestart]
      split_ifs <;> exact ⟨rfl, rfl⟩
    case rfdcApply =>
      dsimp only [decodeRfdcApply]
      split_ifs <;> exact ⟨rfl, rfl⟩
    case syncEpoch =>
      dsimp only [decodeSyncEpoch]
      split_ifs <;> exact ⟨rfl, rfl⟩
    all_goals exact ⟨rfl, rfl⟩

/-- The response of a command depends on the registers of the cycle before only. -/
theorem decode_response : (s.decode i t).response = (s.decode i u).response := by
  unfold decode
  split
  · rfl
  · cases s.cmdKind
    case tdcReg => dsimp only [decodeTdcReg]; split_ifs <;> rfl
    case diagSnapshot => dsimp only [decodeDiagSnapshot]; split_ifs <;> rfl
    case diagControl => dsimp only [decodeDiagControl]; split_ifs <;> rfl
    case networkApply => dsimp only [decodeNetworkApply]; split_ifs <;> rfl
    case networkRestart => dsimp only [decodeNetworkRestart]; split_ifs <;> rfl
    case rfdcApply => dsimp only [decodeRfdcApply]; split_ifs <;> rfl
    case syncEpoch => dsimp only [decodeSyncEpoch]; split_ifs <;> rfl
    all_goals rfl

theorem chain_response : (s.chain i t).response = (s.chain i u).response := by
  unfold chain
  split_ifs <;> first | rfl | exact decode_response

end RiscvControl

/-- `pl_riscv_control_v1` as a machine. -/
def riscvControl (ids : BuildIds) : Clocked.Machine RiscvIn RiscvControl where
  reset := .reset
  step s i := s.step ids i

end Xczu47dr.Control
