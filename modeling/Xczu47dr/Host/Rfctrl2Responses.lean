import Xczu47dr.Host.WaveProtocol

/-! # The typed control responses on the host

`parse_rfresp2_packet` and the payload parsers of `protocol.py`.  A payload that is too
short for a group of fields leaves them at their defaults.
-/

namespace Xczu47dr.Host

open Wire

def udpRfresp2Magic : Nat := 0x0032505345524652
def rfctrl2Version : Nat := 3

def rf2StatusRfdcReady : Nat := 0x00000001
def rf2StatusRfdcBusy : Nat := 0x00000002
def rf2StatusArmed : Nat := 0x00000004
def rf2StatusRunning : Nat := 0x00000008
def rf2StatusPrepared : Nat := 0x00000010
def rf2StatusDacMtsReady : Nat := 0x00000020
def rf2StatusDacMtsFailed : Nat := 0x00000040
def rf2StatusNcoSyncReady : Nat := 0x00000080
def rf2StatusDacMtsRequired : Nat := 0x00000100
def rf2NetStatusHmcDone : Nat := 0x00000020
def rf2NetStatusSyncDone : Nat := 0x00000040

def rf2StatusOk : Nat := 0
def rfdcApplyChannels : Nat := 8
def rfdcApplyResponseHeaderBytes : Nat := 32
def rfdcApplyResponseEntryBytes : Nat := 40
def networkResponseBytes : Nat := 64
def networkExtResponseBytes : Nat := 80

/-- `RF2_BUILD_PROFILE_NAMES.get(…, "")` -/
def rf2BuildProfileName : Nat → String
  | 1 => "custom_xczu47dr"
  | 3 => "custom_xczu47dr_bw"
  | _ => ""

/-- `bool` of a number. -/
def truth (value : Nat) : Bool := decide (value ≠ 0)

/-- The unsigned field of `width` bytes at `offset`. -/
def unpackAt (payload : List Wire.Byte) (offset width : Nat) : Nat :=
  ofLittleEndian ((payload.drop offset).take width)

def unpackSignedAt (payload : List Wire.Byte) (offset width : Nat) : Int :=
  (BitVec.ofNat (8 * width) (unpackAt payload offset width)).toInt

/-! ## The envelope -/

/-- The result of `parse_rfresp2_packet`. -/
structure Rfresp2 where
  version : Nat
  status : Nat
  opcode : Nat
  flags : Nat
  seq : Nat
  payloadBytes : Nat
  payload : List Wire.Byte
  deriving DecidableEq

def parseRfresp2Packet (raw : List Wire.Byte) (validateVersion : Bool) : Except ProtocolError Rfresp2 := do
  if raw.length < 24 then throw (.protocol "RFRESP2 packet is too short")
  let magic := unpackAt raw 0 8
  let hdr0 := unpackAt raw 8 8
  let hdr1 := unpackAt raw 16 8
  if magic ≠ udpRfresp2Magic then throw (.protocol s!"unexpected RFRESP2 magic {hexWord magic}")
  let version := hdr0 &&& 0xFFFF
  if validateVersion ∧ version ≠ rfctrl2Version then
    throw (.protocolVersion
      s!"RFRESP2 protocol version {version} is not supported (expected {rfctrl2Version})")
  let payloadBytes := (hdr1 >>> 32) &&& 0xFFFFFFFF
  if raw.length < 24 + payloadBytes then
    throw (.protocol s!"RFRESP2 payload is truncated: expected {payloadBytes} bytes")
  return {
    version := version
    status := (hdr0 >>> 16) &&& 0xFFFF
    opcode := (hdr0 >>> 32) &&& 0xFFFFFFFF
    flags := (hdr0 >>> 16) &&& 0xFFFF
    seq := hdr1 &&& 0xFFFFFFFF
    payloadBytes := payloadBytes
    payload := (raw.drop 24).take payloadBytes }

/-! ## STATUS -/

/-- The result of `parse_rfctrl2_status_payload`. -/
structure Rfctrl2Status where
  response : Rfresp2
  capabilities : Nat := 0
  stateFlags : Nat := 0
  configValidMask : Nat := 0
  lastRevision : Nat := 0
  lastError : Nat := 0
  lastErrorStage : Nat := 0
  lastErrorAddr : Nat := 0
  playConfigChannelMask : Nat := 0
  playFifoValidMask : Nat := 0
  playFifoReadyMask : Nat := 0
  playExecutorState : Nat := 0
  playDdrReadCounter : Nat := 0
  playBadInstrCount : Nat := 0
  playPrefillReady : Bool := false
  playActiveValid : Bool := false
  playPendingValid : Bool := false
  dacMtsRequired : Bool := false
  dacMtsReady : Bool := false
  dacMtsFailed : Bool := false
  dacMtsTileMask : Nat := 0
  dacMtsError : Nat := 0
  ncoSyncReady : Bool := false
  ncoSyncEpoch : Nat := 0
  syncStatus : Nat := 0
  triggerInputCount : Nat := 0
  triggerAcceptedCount : Nat := 0
  triggerOutputCount : Nat := 0
  extTriggerPhaseSlot : Nat := 0
  extTriggerPhaseValid : Bool := false
  extTriggerPhaseOverflow : Bool := false
  extTriggerPhaseMetastable : Bool := false
  extTriggerTapIndex : Nat := 0
  extTriggerPhasePsX10 : Nat := 0
  playbackAdmittedCount : Nat := 0
  playbackSkippedCount : Nat := 0
  buildProfileId : Nat := 0
  buildProfile : String := ""
  sourceCommitId : Nat := 0
  triggerPathVersion : Nat := 0
  rfdcReady : Bool := false
  rfdcBusy : Bool := false
  armed : Bool := false
  running : Bool := false
  prepared : Bool := false
  deriving DecidableEq

namespace Rfctrl2Status

variable (payload : List Wire.Byte) (result : Rfctrl2Status)

def parseLegacy : Rfctrl2Status :=
  let result := if 32 ≤ payload.length then
      { result with
        capabilities := unpackAt payload 0 4
        stateFlags := unpackAt payload 4 4
        configValidMask := unpackAt payload 8 4
        lastRevision := unpackAt payload 12 4
        lastError := unpackAt payload 16 4
        lastErrorStage := unpackAt payload 20 4
        lastErrorAddr := unpackAt payload 24 4 }
    else result
  let result := if 64 ≤ payload.length then
      { result with
        playConfigChannelMask := unpackAt payload 32 8 &&& 0xFF
        playFifoValidMask := (unpackAt payload 32 8 >>> 32) &&& 0xFF
        playFifoReadyMask := unpackAt payload 40 8 &&& 0xFF
        playExecutorState := (unpackAt payload 40 8 >>> 32) &&& 0xFF
        playDdrReadCounter := unpackAt payload 48 8 &&& 0xFFFFFFFF
        playBadInstrCount := (unpackAt payload 48 8 >>> 32) &&& 0xFFFFFFFF
        playPrefillReady := truth (unpackAt payload 56 8 &&& 1)
        playPendingValid := truth ((unpackAt payload 56 8 >>> 32) &&& 1)
        playActiveValid := truth ((unpackAt payload 56 8 >>> 33) &&& 1) }
    else result
  let result := if 72 ≤ payload.length then
      { result with
        ncoSyncEpoch := unpackAt payload 68 4
        dacMtsReady := truth (unpackAt payload 64 4 &&& 1)
        dacMtsFailed := truth (unpackAt payload 64 4 &&& 2)
        dacMtsRequired := truth (unpackAt payload 64 4 &&& 4)
        dacMtsTileMask := (unpackAt payload 64 4 >>> 4) &&& 0xF
        dacMtsError := (unpackAt payload 64 4 >>> 16) &&& 0xFFFF }
    else result
  let result := if 80 ≤ payload.length then
      { result with
        syncStatus := unpackAt payload 72 4
        triggerPathVersion := (unpackAt payload 72 8 >>> 32) &&& 0xFFFFFFFF }
    else result
  let result := if 88 ≤ payload.length then
      { result with
        triggerInputCount := unpackAt payload 80 4
        triggerAcceptedCount := unpackAt payload 84 4 }
    else result
  if 96 ≤ payload.length then { result with triggerOutputCount := unpackAt payload 88 4 } else result

def parseExtensions : Rfctrl2Status :=
  let result := if 112 ≤ payload.length then
      { result with
        sourceCommitId := (unpackAt payload 104 8 >>> 32) &&& 0xFFFFFFFF
        buildProfileId := (unpackAt payload 104 8 >>> 16) &&& 0xFFFF
        buildProfile := rf2BuildProfileName ((unpackAt payload 104 8 >>> 16) &&& 0xFFFF) }
    else result
  let result := if 120 ≤ payload.length then
      { result with
        extTriggerPhaseSlot := unpackAt payload 112 8 &&& 0x7
        extTriggerPhaseValid := truth ((unpackAt payload 112 8 >>> 3) &&& 1)
        extTriggerPhaseOverflow := truth ((unpackAt payload 112 8 >>> 4) &&& 1)
        extTriggerPhaseMetastable := truth ((unpackAt payload 112 8 >>> 5) &&& 1)
        extTriggerTapIndex := (unpackAt payload 112 8 >>> 8) &&& 0xFF
        extTriggerPhasePsX10 := (unpackAt payload 112 8 >>> 16) &&& 0xFFFF }
    else result
  if 128 ≤ payload.length then
    { result with
      playbackAdmittedCount := unpackAt payload 120 4
      playbackSkippedCount := unpackAt payload 124 4 }
  else result

/-- The flags of `state_flags`. -/
def parseStateFlags : Rfctrl2Status :=
  { result with
    rfdcReady := truth (result.stateFlags &&& rf2StatusRfdcReady)
    rfdcBusy := truth (result.stateFlags &&& rf2StatusRfdcBusy)
    armed := truth (result.stateFlags &&& rf2StatusArmed)
    running := truth (result.stateFlags &&& rf2StatusRunning)
    prepared := truth (result.stateFlags &&& rf2StatusPrepared)
    dacMtsReady := result.dacMtsReady || truth (result.stateFlags &&& rf2StatusDacMtsReady)
    dacMtsFailed := result.dacMtsFailed || truth (result.stateFlags &&& rf2StatusDacMtsFailed)
    ncoSyncReady := truth (result.stateFlags &&& rf2StatusNcoSyncReady)
    dacMtsRequired := result.dacMtsRequired || truth (result.stateFlags &&& rf2StatusDacMtsRequired) }

end Rfctrl2Status

def parseRfctrl2StatusPayload (response : Rfresp2) : Rfctrl2Status :=
  Rfctrl2Status.parseStateFlags (.parseExtensions response.payload (.parseLegacy response.payload { response := response }))

/-! ## DIAG_SNAPSHOT -/

/-- The result of `parse_rfctrl2_diagnostics_payload`. -/
structure Rfctrl2Diagnostics where
  response : Rfresp2
  generation : Nat := 0
  triggerInputCount : Nat := 0
  triggerCaptureTick : Nat := 0
  triggerAcceptedCount : Nat := 0
  triggerSkippedCount : Nat := 0
  triggerRejectedCount : Nat := 0
  triggerLaunchTick : Nat := 0
  playbackStartTick : Nat := 0
  firstValidTick : Nat := 0
  triggerToLaunchLast : Nat := 0
  launchToFirstValidLast : Nat := 0
  replayReady : Bool := false
  replayActive : Bool := false
  fifoLevel : List Nat := []
  preparedDac : Bool := false
  outputPermittedDac : Bool := false
  underflowMask : Nat := 0
  mute : Bool := false
  abort : Bool := false
  rfdcStatus : Nat := 0
  rfdcFailureStage : Nat := 0
  rfdcFailureAddress : Nat := 0
  rfdcAxiResponse : Nat := 0
  dmaChunkBeats : Nat := 0
  dmaOutstandingBeats : Nat := 0
  refillStartTick : Nat := 0
  refillDoneTick : Nat := 0
  dacDirectInputCount : Nat := 0
  dacDirectAcceptCount : Nat := 0
  dacDirectTriggerPulse : Bool := false
  dacTriggerLaunch : Bool := false
  deriving DecidableEq

namespace Rfctrl2Diagnostics

variable (payload : List Wire.Byte) (result : Rfctrl2Diagnostics)

/-- A word of `fields`, or its default. -/
def wordAt (index : Nat) : Nat := if (index + 1) * 8 ≤ payload.length then unpackAt payload (index * 8) 8 else 0

def parseTicks : Rfctrl2Diagnostics :=
  { result with
    generation := wordAt payload 0
    triggerInputCount := wordAt payload 1
    triggerCaptureTick := wordAt payload 2
    triggerAcceptedCount := wordAt payload 3
    triggerSkippedCount := wordAt payload 4
    triggerRejectedCount := wordAt payload 5
    triggerLaunchTick := wordAt payload 6
    playbackStartTick := wordAt payload 7
    firstValidTick := wordAt payload 8 }

def parseFlags : Rfctrl2Diagnostics :=
  if 96 ≤ payload.length then
    { result with
      replayReady := truth (unpackAt payload 88 8 &&& 1)
      replayActive := truth (unpackAt payload 88 8 &&& 2)
      dacDirectTriggerPulse := truth ((unpackAt payload 88 8 >>> 2) &&& 1)
      dacTriggerLaunch := truth ((unpackAt payload 88 8 >>> 3) &&& 1)
      preparedDac := truth ((unpackAt payload 88 8 >>> 4) &&& 1)
      outputPermittedDac := truth ((unpackAt payload 88 8 >>> 5) &&& 1)
      underflowMask := (unpackAt payload 88 8 >>> 8) &&& 0xFF
      mute := truth ((unpackAt payload 88 8 >>> 6) &&& 1)
      abort := truth ((unpackAt payload 88 8 >>> 7) &&& 1) }
  else result

def parseRfdc : Rfctrl2Diagnostics :=
  let result := if 104 ≤ payload.length then
      { result with
        triggerToLaunchLast := unpackAt payload 72 8
        launchToFirstValidLast := unpackAt payload 80 8
        rfdcFailureStage := unpackAt payload 96 8 &&& 0xFFFF
        rfdcStatus := (unpackAt payload 96 8 >>> 16) &&& 0xFFFF }
    else result
  if 112 ≤ payload.length then
    { result with
      rfdcFailureAddress := unpackAt payload 104 8 &&& 0x3FFFF
      rfdcAxiResponse := (unpackAt payload 104 8 >>> 18) &&& 0x3 }
  else result

def parseDac : Rfctrl2Diagnostics :=
  let result := if 120 ≤ payload.length then
      { result with
        dacDirectInputCount := unpackAt payload 112 8 &&& 0xFFFFFFFF
        dacDirectAcceptCount := (unpackAt payload 112 8 >>> 32) &&& 0xFFFFFFFF }
    else result
  let result := if 128 ≤ payload.length then
      { result with dmaChunkBeats := unpackAt payload 120 8 &&& 0xFFFFFFFF }
    else result
  let result := if 136 ≤ payload.length then
      { result with dmaOutstandingBeats := unpackAt payload 128 8 &&& 0xFFFFFFFF }
    else result
  if 144 ≤ payload.length then
    { result with
      dacDirectTriggerPulse := result.dacDirectTriggerPulse || truth ((unpackAt payload 136 8 >>> 32) &&& 1)
      dacTriggerLaunch := result.dacTriggerLaunch || truth ((unpackAt payload 136 8 >>> 33) &&& 1) }
  else result

end Rfctrl2Diagnostics

def parseRfctrl2DiagnosticsPayload (response : Rfresp2) : Rfctrl2Diagnostics :=
  .parseDac response.payload (.parseRfdc response.payload (.parseFlags response.payload
    (.parseTicks response.payload { response := response })))

/-! ## RFDC_APPLY and RFDC_GET_CONFIG -/

/-- An entry of `channels`. -/
structure RfdcChannelConfig where
  channel : Nat
  ncoHz : Int
  nyquistZone : Nat
  ncoPhaseMdeg : Int
  dacOutputCurrentUa : Nat
  status : Nat
  ncoWord : Nat
  phaseWord : Nat
  vopCode : Nat
  deriving DecidableEq

/-- The result of `parse_rfctrl2_rfdc_config_response`. -/
structure Rfctrl2RfdcConfig where
  response : Rfresp2
  revision : Nat := 0
  appliedMask : Nat := 0
  errorMask : Nat := 0
  configValidMask : Nat := 0
  failureStage : Nat := 0
  failureAddress : Nat := 0
  axiResponse : Nat := 0
  stateFlags : Nat := 0
  channels : List RfdcChannelConfig := []
  deriving DecidableEq

/-- The entry of a channel at `offset`. -/
def parseRfdcChannel (payload : List Wire.Byte) (offset channel : Nat) : RfdcChannelConfig where
  channel := channel
  ncoHz := unpackSignedAt payload offset 8
  nyquistZone := unpackAt payload (offset + 8) 4
  ncoPhaseMdeg := unpackSignedAt payload (offset + 12) 4
  dacOutputCurrentUa := unpackAt payload (offset + 16) 4
  status := unpackAt payload (offset + 20) 4
  ncoWord := unpackAt payload (offset + 24) 8
  phaseWord := unpackAt payload (offset + 32) 4
  vopCode := unpackAt payload (offset + 36) 4

def parseRfctrl2RfdcConfigResponse (response : Rfresp2) : Except ProtocolError Rfctrl2RfdcConfig :=
  let payload := response.payload
  let size := payload.length
  let expected := rfdcApplyResponseHeaderBytes + rfdcApplyChannels * rfdcApplyResponseEntryBytes
  if payload = [] ∧ response.status ≠ rf2StatusOk then .ok { response := response }
  else if size ≠ expected then
    .error (.protocol s!"RFDC response payload must be {expected} bytes, got {size}")
  else
    .ok {
      response := response
      revision := unpackAt payload 0 4
      appliedMask := unpackAt payload 4 4
      errorMask := unpackAt payload 8 4
      configValidMask := unpackAt payload 12 4
      failureStage := unpackAt payload 16 4
      failureAddress := unpackAt payload 20 4
      axiResponse := unpackAt payload 24 4
      stateFlags := unpackAt payload 28 4
      channels := (List.range rfdcApplyChannels).map fun k =>
        parseRfdcChannel payload (rfdcApplyResponseHeaderBytes + k * rfdcApplyResponseEntryBytes) (k + 1) }

/-! ## NETWORK_GET, NETWORK_APPLY and NETWORK_RESTART -/

/-- `f"{value:0{width}x}"` -/
def lowerHex (width value : Nat) : List Char :=
  let digits := Nat.toDigits 16 value
  List.replicate (width - digits.length) '0' ++ digits

/-- `_u32_ipv4` -/
def u32Ipv4 (value : Nat) : String :=
  let value := value &&& 0xFFFFFFFF
  s!"{value >>> 24}.{(value >>> 16) &&& 0xFF}.{(value >>> 8) &&& 0xFF}.{value &&& 0xFF}"

/-- `_u64_mac` -/
def u64Mac (value : Nat) : String :=
  let raw := lowerHex 12 (value &&& 0xFFFFFFFFFFFF)
  ":".intercalate ((List.range 6).map fun index => String.ofList ((raw.drop (2 * index)).take 2))

/-- The result of `parse_rfctrl2_network_response`. -/
structure Rfctrl2Network where
  response : Rfresp2
  deviceUid : String := ""
  currentIp : String := ""
  currentMac : String := ""
  bootstrapIp : String := "192.168.254.254"
  revision : Nat := 0
  port : Nat := 1234
  statusFlags : Nat := 0
  capabilities : Nat := 0
  bootstrapMac : String := ""
  subnetMask : String := "255.255.255.0"
  gateway : String := "0.0.0.0"
  linkState : Nat := 0
  buildProfileId : Nat := 0
  buildProfile : String := ""
  playbackState : Nat := 0
  playbackArmed : Bool := false
  playbackPrepared : Bool := false
  playbackRunning : Bool := false
  rfdcConfigValidMask : Nat := 0
  hmcDone : Bool := false
  syncDone : Bool := false
  deriving DecidableEq

namespace Rfctrl2Network

variable (payload : List Wire.Byte) (result : Rfctrl2Network)

def parseWords : Rfctrl2Network :=
  { result with
    deviceUid := String.ofList (lowerHex 16 (unpackAt payload 0 8))
    currentIp := u32Ipv4 (unpackAt payload 8 8 &&& 0xFFFFFFFF)
    bootstrapIp := u32Ipv4 ((unpackAt payload 8 8 >>> 32) &&& 0xFFFFFFFF)
    currentMac := u64Mac (unpackAt payload 16 8)
    revision := unpackAt payload 24 8 &&& 0xFFFFFFFF
    port := (unpackAt payload 24 8 >>> 32) &&& 0xFFFF
    linkState := (unpackAt payload 24 8 >>> 48) &&& 0xFFFF
    capabilities := unpackAt payload 32 8 &&& 0xFFFFFFFF
    statusFlags := (unpackAt payload 32 8 >>> 32) &&& 0xFFFFFFFF
    bootstrapMac := u64Mac (unpackAt payload 40 8)
    subnetMask := u32Ipv4 (unpackAt payload 48 8)
    gateway := u32Ipv4 (unpackAt payload 56 8) }

/-- The two words of the extended response. -/
def parseExtension : Rfctrl2Network :=
  if 10 ≤ payload.length / 8 then
    { result with
      buildProfileId := unpackAt payload 64 8 &&& 0xFFFFFFFF
      buildProfile := rf2BuildProfileName (unpackAt payload 64 8 &&& 0xFFFFFFFF)
      playbackState := (unpackAt payload 64 8 >>> 32) &&& 0xFFFFFFFF
      rfdcConfigValidMask := unpackAt payload 72 8 &&& 0xFF }
  else result

def parseFlags : Rfctrl2Network :=
  { result with
    playbackArmed := truth (result.playbackState &&& rf2StatusArmed)
    playbackPrepared := truth (result.playbackState &&& rf2StatusPrepared)
    playbackRunning := truth (result.playbackState &&& rf2StatusRunning)
    hmcDone := truth (result.statusFlags &&& rf2NetStatusHmcDone)
    syncDone := truth (result.statusFlags &&& rf2NetStatusSyncDone) }

end Rfctrl2Network

def parseRfctrl2NetworkResponse (response : Rfresp2) : Except ProtocolError Rfctrl2Network :=
  let payload := response.payload
  let size := payload.length
  if payload = [] ∧ response.status ≠ rf2StatusOk then .ok { response := response }
  else if size ≠ networkResponseBytes ∧ size ≠ networkExtResponseBytes then
    .error (.protocol
      s!"network response payload must be {networkResponseBytes} or {networkExtResponseBytes} bytes, got {size}")
  else .ok (.parseFlags (.parseExtension payload (.parseWords payload { response := response })))

end Xczu47dr.Host
