import Mathlib.Data.Fintype.Fin
import Mathlib.Data.List.FinRange
import Xczu47dr.Clocked.Indices

/-! # RFRESP2 responses

What `pl_riscv_control_v1` answers: the queued request, the words a request is
expanded to when it reaches the output stage, and the output stage itself.  The
expansion samples the status inputs of the cycle it happens in.
-/

namespace Xczu47dr.Control

/-- `RFRESP2_MAGIC`. -/
def rfresp2Magic : BitVec 64 := 0x0032505345524652

/-- `RF2_VERSION`. -/
def rf2Version : BitVec 16 := 3

/-- `RF2_CAPABILITIES`. -/
def rf2Capabilities : BitVec 32 := 0x00FF0000

def rf2OpHello : BitVec 32 := 0x01
def rf2OpStatus : BitVec 32 := 0x02
def rf2OpRfdcApply : BitVec 32 := 0x03
def rf2OpSyncEpoch : BitVec 32 := 0x07
def rf2OpRfdcGetConfig : BitVec 32 := 0x0B
def rf2OpNetworkGet : BitVec 32 := 0x0C
def rf2OpNetworkApply : BitVec 32 := 0x0D
def rf2OpNetworkRestart : BitVec 32 := 0x0E
def rf2OpTdcReg : BitVec 32 := 0x11
def rf2OpDiagSnapshot : BitVec 32 := 0x12
def rf2OpDiagControl : BitVec 32 := 0x13

/-- `RESP_REQ_0` to `RESP_REQ_DIAG`. -/
inductive RequestKind
  | resp0
  | resp1
  | resp2
  | status
  | rfdc
  | network
  | diag
  deriving DecidableEq

/-- One entry of the response request queue. -/
structure ResponseRequest where
  kind : RequestKind
  magic : BitVec 64
  version : BitVec 16
  opcode : BitVec 32
  status : BitVec 16
  sequence : BitVec 32
  payloadBytes : BitVec 32
  payload0 : BitVec 64
  payload1 : BitVec 64
  deriving DecidableEq

/-- The identification parameters of `pl_riscv_control_v1`. -/
structure BuildIds where
  buildProfileId : BitVec 32
  triggerPathVersion : BitVec 32
  sourceCommitId : BitVec 32

/-- The read-back values of one RFDC channel. -/
structure RfdcChannel where
  actualNcoHz : BitVec 64
  actualNyquistZone : BitVec 2
  actualPhaseMdeg : BitVec 32
  actualCurrentUa : BitVec 32
  channelStatus : BitVec 32
  actualNcoWord : BitVec 64
  actualPhaseWord : BitVec 32
  actualVopCode : BitVec 32
  deriving Inhabited

/-- The inputs the decoder and the responses read. -/
structure ControlStatus where
  rfdcApplyBusy : Bool
  rfdcApplyStatus : BitVec 16
  rfdcResultRevision : BitVec 32
  rfdcResultAppliedMask : BitVec 8
  rfdcResultErrorMask : BitVec 8
  rfdcConfigValidMask : BitVec 8
  rfdcFailureStage : BitVec 32
  rfdcFailureAddress : BitVec 18
  rfdcFailureAxiResponse : BitVec 2
  rfdcReady : Bool
  dacMtsRequired : Bool
  dacMtsReady : Bool
  dacMtsFailed : Bool
  dacMtsTileMask : BitVec 4
  dacMtsError : BitVec 16
  ncoSyncReady : Bool
  ncoSyncEpoch : BitVec 32
  playbackArmed : Bool
  playbackPrepared : Bool
  playbackRunning : Bool
  syncRoleMaster : Bool
  syncBypass : Bool
  syncSeen : Bool
  syncLinkReady : Bool
  syncAlignBusy : Bool
  syncAlignFailed : Bool
  syncAlignmentEpoch : BitVec 6
  syncAlignmentError : BitVec 16
  triggerInputCount : BitVec 32
  triggerAcceptedCount : BitVec 32
  triggerOutputCount : BitVec 32
  extTriggerPhaseSlot : BitVec 3
  extTriggerPhaseValid : Bool
  extTriggerPhaseOverflow : Bool
  extTriggerPhaseMetastable : Bool
  extTriggerTapIndex : BitVec 8
  extTriggerPhasePsX10 : BitVec 16
  playbackAdmittedCount : BitVec 32
  playbackSkippedCount : BitVec 32
  rfdcChannels : Fin 8 → RfdcChannel
  networkStatus : BitVec 16
  networkResultRevision : BitVec 32
  networkCurrentIp : BitVec 32
  networkCurrentMac : BitVec 64
  networkCurrentSubnet : BitVec 32
  networkCurrentGateway : BitVec 32
  networkCurrentPort : BitVec 16
  networkDeviceUid : BitVec 64
  networkBootstrapMac : BitVec 64
  networkBootstrapIp : BitVec 32
  networkCapabilities : BitVec 32
  networkStatusFlags : BitVec 32
  networkLinkState : BitVec 16
  playConfigChannelMask : BitVec 8
  playFifoValidMask : BitVec 8
  playFifoReadyMask : BitVec 8
  playExecutorState : BitVec 8
  playDdrReadCounter : BitVec 32
  playBadInstrCount : BitVec 32
  playPrefillReady : Bool
  playActiveValid : Bool
  playPendingValid : Bool
  diagTriggerCaptureTick : BitVec 64
  diagTriggerLaunchTick : BitVec 64
  diagPlaybackStartTick : BitVec 64
  diagFirstValidTick : BitVec 64
  diagDirectInputCount : BitVec 32
  diagDirectAcceptCount : BitVec 32
  diagTriggerPulse : Bool
  diagTriggerLaunch : Bool
  diagPreparedDac : Bool
  diagOutputPermittedDac : Bool
  diagUnderflowMask : BitVec 8
  diagReplayReady : Bool
  diagReplayActive : Bool
  deriving Inhabited

/-! ## Response words -/

def bit (flag : Bool) : BitVec 1 := BitVec.ofBool flag

namespace ControlStatus

variable (st : ControlStatus)

/-- `state_flags` of the status response. -/
def statusFlags : BitVec 32 :=
  0#23 ++ bit st.dacMtsRequired ++ bit st.ncoSyncReady ++ bit st.dacMtsFailed ++ bit st.dacMtsReady ++
    bit st.playbackPrepared ++ bit st.playbackRunning ++ bit st.playbackArmed ++ bit st.rfdcApplyBusy ++
    bit st.rfdcReady

/-- `state_flags` of the RFDC response. -/
def rfdcFlags : BitVec 32 :=
  0#27 ++ bit st.playbackPrepared ++ bit st.playbackRunning ++ bit st.playbackArmed ++
    bit st.rfdcApplyBusy ++ bit st.rfdcReady

/-- The payload of `load_rf2_status`. -/
def statusPayload (ids : BuildIds) : List (BitVec 64) :=
  [st.statusFlags ++ rf2Capabilities,
    st.rfdcResultRevision ++ 0#24 ++ st.rfdcConfigValidMask,
    st.rfdcFailureStage ++ 0#16 ++ st.rfdcApplyStatus,
    0#32 ++ 0#14 ++ st.rfdcFailureAddress,
    0#24 ++ st.playFifoValidMask ++ 0#24 ++ st.playConfigChannelMask,
    0#24 ++ st.playExecutorState ++ 0#24 ++ st.playFifoReadyMask,
    st.playBadInstrCount ++ st.playDdrReadCounter,
    0#30 ++ bit st.playActiveValid ++ bit st.playPendingValid ++ 0#31 ++ bit st.playPrefillReady,
    st.ncoSyncEpoch ++ st.dacMtsError ++ 0#8 ++ st.dacMtsTileMask ++ 0#1 ++ bit st.dacMtsRequired ++
      bit st.dacMtsFailed ++ bit st.dacMtsReady,
    ids.triggerPathVersion ++ 0#28 ++ bit st.syncRoleMaster ++ bit st.syncBypass ++
      bit st.syncLinkReady ++ bit st.syncSeen,
    st.triggerAcceptedCount ++ st.triggerInputCount,
    0#32 ++ st.triggerOutputCount,
    0#32 ++ 0#8 ++ bit st.syncAlignFailed ++ bit st.syncAlignBusy ++ 0#16 ++ st.syncAlignmentEpoch,
    ids.sourceCommitId ++ ids.buildProfileId.extractLsb' 0 16 ++ st.syncAlignmentError,
    0#32 ++ st.extTriggerPhasePsX10 ++ st.extTriggerTapIndex ++ 0#2 ++ bit st.extTriggerPhaseMetastable ++
      bit st.extTriggerPhaseOverflow ++ bit st.extTriggerPhaseValid ++ st.extTriggerPhaseSlot,
    st.playbackSkippedCount ++ st.playbackAdmittedCount]

/-- The payload of `load_rf2_diag`. -/
def diagPayload (ids : BuildIds) (diagGeneration : BitVec 64) : List (BitVec 64) :=
  [diagGeneration,
    0#32 ++ st.triggerInputCount,
    st.diagTriggerCaptureTick,
    0#32 ++ st.triggerAcceptedCount,
    0#32 ++ st.playbackSkippedCount,
    0#64,
    st.diagTriggerLaunchTick,
    st.diagPlaybackStartTick,
    st.diagFirstValidTick,
    0#32 ++ (st.diagTriggerLaunchTick.extractLsb' 0 32 - st.diagTriggerCaptureTick.extractLsb' 0 32),
    0#32 ++ (st.diagFirstValidTick.extractLsb' 0 32 - st.diagTriggerLaunchTick.extractLsb' 0 32),
    0#48 ++ st.diagUnderflowMask ++ 0#2 ++ bit st.diagOutputPermittedDac ++ bit st.diagPreparedDac ++
      bit st.diagTriggerLaunch ++ bit st.diagTriggerPulse ++ bit st.diagReplayActive ++
      bit st.diagReplayReady,
    0#32 ++ st.rfdcApplyStatus ++ st.rfdcFailureStage.extractLsb' 0 16,
    0#44 ++ st.rfdcFailureAxiResponse ++ st.rfdcFailureAddress,
    st.diagDirectAcceptCount ++ st.diagDirectInputCount,
    0#32 ++ st.playDdrReadCounter,
    0#32 ++ st.playDdrReadCounter,
    0#32 ++ bit st.diagTriggerPulse ++ bit st.diagTriggerLaunch ++ 0#6 ++
      ids.sourceCommitId.extractLsb' 0 24,
    0#32 ++ ids.triggerPathVersion]

/-- The five words `load_rfdc_response` writes for each channel. -/
def rfdcChannelWords (channel : Fin 8) : List (BitVec 64) :=
  let ch := st.rfdcChannels channel
  [ch.actualNcoHz,
    ch.actualPhaseMdeg ++ 0#30 ++ ch.actualNyquistZone,
    ch.channelStatus ++ ch.actualCurrentUa,
    ch.actualNcoWord,
    ch.actualVopCode ++ ch.actualPhaseWord]

/-- The payload of `load_rfdc_response`. -/
def rfdcPayload : List (BitVec 64) :=
  [0#24 ++ st.rfdcResultAppliedMask ++ st.rfdcResultRevision,
    0#24 ++ st.rfdcConfigValidMask ++ (0#24 ++ st.rfdcResultErrorMask),
    0#14 ++ st.rfdcFailureAddress ++ st.rfdcFailureStage,
    st.rfdcFlags ++ 0#30 ++ st.rfdcFailureAxiResponse] ++
    (List.finRange 8).flatMap st.rfdcChannelWords

/-- The payload of `load_network_response`. -/
def networkPayload (ids : BuildIds) : List (BitVec 64) :=
  [st.networkDeviceUid,
    st.networkBootstrapIp ++ st.networkCurrentIp,
    st.networkCurrentMac,
    st.networkLinkState ++ st.networkCurrentPort ++ st.networkResultRevision,
    st.networkStatusFlags ++ st.networkCapabilities,
    st.networkBootstrapMac,
    0#32 ++ st.networkCurrentSubnet,
    0#32 ++ st.networkCurrentGateway,
    st.networkStatusFlags ++ ids.buildProfileId,
    0#56 ++ st.rfdcConfigValidMask]

end ControlStatus

namespace ResponseRequest

variable (q : ResponseRequest)

def header (status : BitVec 16) (payloadBytes : BitVec 32) : List (BitVec 64) :=
  [q.magic, q.opcode ++ status ++ q.version, payloadBytes ++ q.sequence]

/-- The words the `load_` task of this kind puts into `resp_words`. -/
def words (ids : BuildIds) (st : ControlStatus) (diagGeneration : BitVec 64) : List (BitVec 64) :=
  match q.kind with
  | .resp0 => q.header q.status 0
  | .resp1 => q.header q.status q.payloadBytes ++ [q.payload0]
  | .resp2 => q.header q.status q.payloadBytes ++ [q.payload0, q.payload1]
  | .status => q.header 0 q.payloadBytes ++ st.statusPayload ids
  | .rfdc =>
    q.header (if q.opcode = rf2OpRfdcGetConfig then 0 else st.rfdcApplyStatus) q.payloadBytes ++
      st.rfdcPayload
  | .network => q.header q.status q.payloadBytes ++ st.networkPayload ids
  | .diag => q.header 0 152 ++ st.diagPayload ids diagGeneration

end ResponseRequest

/-! ## The output stage -/

/-- `rvresp_*`, `resp_words`, `resp_index` and `resp_count`. -/
structure ResponseOutput where
  tdata : BitVec 64
  tvalid : Bool
  tlast : Bool
  wordCount : Nat
  words : List (BitVec 64)
  index : Nat
  count : Nat

namespace ResponseOutput

def reset : ResponseOutput where
  tdata := 0
  tvalid := false
  tlast := false
  wordCount := 0
  words := []
  index := 0
  count := 0

variable (s : ResponseOutput)

/-- A response is loaded: `resp_words` is written and its first word put out. -/
def load (words : List (BitVec 64)) : ResponseOutput where
  tdata := words.headD 0
  tvalid := true
  tlast := false
  wordCount := words.length
  words := words
  index := 0
  count := words.length

/-- `rvresp_tvalid && rvresp_tready`: the next word, or the end. -/
def advance : ResponseOutput :=
  if s.tlast then
    { s with tvalid := false, tlast := false, tdata := 0, index := 0, count := 0, wordCount := 0 }
  else
    { s with
      index := (s.index + 1) % 64
      tdata := s.words.getD ((s.index + 1) % 64) 0
      tlast := (s.index + 1) % 64 == (s.count + 63) % 64 }

/-- One clock edge, with the response to be loaded if there is one. -/
def step (request : Option (List (BitVec 64))) (tready : Bool) : ResponseOutput :=
  match request with
  | some words => load words
  | none => if s.tvalid && tready then s.advance else s

/-- The word handed over in this cycle, with its `tlast`. -/
def delivered (tready : Bool) : List (BitVec 64 × Bool) :=
  if s.tvalid && tready then [(s.tdata, s.tlast)] else []

end ResponseOutput

end Xczu47dr.Control
