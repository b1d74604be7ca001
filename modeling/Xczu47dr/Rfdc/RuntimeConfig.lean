import Mathlib.Data.Fintype.Fin
import Mathlib.Logic.Function.Basic
import Xczu47dr.Clocked.RestoringDivider
import Xczu47dr.Control.RiscvControl
import Xczu47dr.Rfdc.AxilTransaction
import Xczu47dr.Rfdc.VopTables

/-! # The RFDC runtime controller

`rfdc_runtime_config_pl`: it applies a validated request channel by channel with
AXI-Lite accesses, commits the NCOs of all of them together, and from time to time
probes the converter tiles.  The states no other state leads to (`S_UPDMODE_*`,
`S_NCO_LO_*` to `S_DYN_COMMIT_WAIT`, `S_RB_NCO_*`, `S_RB_PHASE_*`) and the registers
that are never read (`staged_mask`, `readback_cfg3` and those of the states left
out) are not modelled.
-/

namespace Xczu47dr.Rfdc

open Clocked Control

/-- The parameters of `rfdc_runtime_config_pl`. -/
structure RuntimeParams where
  clockHz : Nat
  axiTimeoutCycles : Nat
  readyProbeIntervalCycles : Nat
  timeout_pos : 0 < axiTimeoutCycles
  timeout_lt : axiTimeoutCycles < 2 ^ 31
  interval_pos : 0 < readyProbeIntervalCycles
  interval_lt : readyProbeIntervalCycles < 2 ^ 31

/-- `WAIT_1US_CYCLES` -/
def RuntimeParams.wait1usCycles (p : RuntimeParams) : Nat :=
  if p.clockHz < 1000000 then 1 else (p.clockHz + 999999) / 1000000

def stOk : BitVec 16 := 0x0000
def stBadRequest : BitVec 16 := 0x0003
def stRfdcNotReady : BitVec 16 := 0x0005
def stUnsafeState : BitVec 16 := 0x0006
def stRange : BitVec 16 := 0x0007
def stAxiError : BitVec 16 := 0x0008
def stAxiTimeout : BitVec 16 := 0x0009
def stReadback : BitVec 16 := 0x000A
def stPartial : BitVec 16 := 0x000B
def stNcoSync : BitVec 16 := 0x000C

def stageValidate : BitVec 32 := 1
def stageReady : BitVec 32 := 2
def stageNyquist : BitVec 32 := 3
def stageUpdate : BitVec 32 := 6
def stageVop : BitVec 32 := 7
def stageReadback : BitVec 32 := 8

def offCurrentState : BitVec 18 := 0x0000C
def offVopCtrl : BitVec 18 := 0x00198
def offCfg0 : BitVec 18 := 0x001C4
def offCfg2 : BitVec 18 := 0x001CC
def offCfg3 : BitVec 18 := 0x001D0

def nyquistMask : BitVec 16 := 0x0002
def cfg0CasBldrMask : BitVec 16 := 0xE000
def cfg2VopMask : BitVec 16 := 0xFFDF
def cfg3VopMask : BitVec 16 := 0xFFDF
def cfg3UpdateMask : BitVec 16 := 0x0020

/-- `channel_block_base` -/
def channelBlockBase (channel : Fin 8) : BitVec 18 :=
  BitVec.ofNat 18 (0x06000 + channel / 2 * 2 ^ 14 + if channel.val % 2 = 1 then 0x00800 else 0)

/-- `tile_base_from_index` -/
def tileBaseFromIndex (tile : Fin 4) : BitVec 18 := BitVec.ofNat 18 (0x04000 + tile * 2 ^ 14)

/-- `channel[2:1]` -/
def tileOf (channel : Fin 8) : Fin 4 := ⟨channel / 2, by omega⟩

/-- `channel_tile_base` -/
def channelTileBase (channel : Fin 8) : BitVec 18 := tileBaseFromIndex (tileOf channel)

/-- The AXI-Lite accesses; each has a state that launches it and one that awaits its
    end. -/
inductive Access
  | readyProbe
  | tile
  | nyqRead
  | nyqWrite
  | vopCtrlRead
  | vopCtrlWrite
  | vopInit
  | vopCfg0Read
  | vopCfg0Write
  | vopCfg2Read
  | vopCfg2Write
  | vopCfg3Read
  | vopCfg3Write
  | vopUpdateRead
  | vopUpdateWrite
  | rbCfg0
  | rbCfg2
  | rbCfg3
  deriving DecidableEq

/-- The divisions; each has a `_STEP` state and a `_DONE` state. -/
inductive Division
  | nco
  | phase
  | ramp
  | vopQuant
  deriving DecidableEq

/-- The states: `launch a` and `await a` are the `_READ` or `_WRITE` state and the
    `_WAIT` state of the access `a`. -/
inductive RuntimeState
  | idle
  | validate
  | select
  | ncoCalcInit
  | phaseCalcInit
  | vopPrep
  | vopQuantInit
  | calcStep (d : Division)
  | calcDone (d : Division)
  | launch (a : Access)
  | await (a : Access)
  | vopDelay
  | channelDone
  | ncoCommitStart
  | ncoCommitWait
  | finish
  deriving DecidableEq

/-- `request_*` -/
structure RuntimeRequest where
  mask : BitVec 8
  sequence : BitVec 32
  ncoHz : Fin 8 → BitVec 64
  zone : Fin 8 → BitVec 2
  phase : Fin 8 → BitVec 32
  current : Fin 8 → BitVec 32
  validationErrorMask : BitVec 8

/-- `selected_*`, and the bases of the selected channel. -/
structure Selected where
  blockBase : BitVec 18
  tileBase : BitVec 18
  ncoHz : BitVec 64
  phaseMdeg : BitVec 32
  currentUa : Nat
  zone : BitVec 2

/-- `actual_*` and `staged_actual_*`, by channel. -/
structure Actual where
  ncoHz : Fin 8 → BitVec 64
  nyquistZone : Fin 8 → BitVec 2
  phaseMdeg : Fin 8 → BitVec 32
  currentUa : Fin 8 → BitVec 32
  ncoWord : Fin 8 → BitVec 64
  phaseWord : Fin 8 → BitVec 32
  vopCode : Fin 8 → BitVec 32

/-- The result of an apply, as the response reports it. -/
structure ApplyResult where
  status : BitVec 16
  revision : BitVec 32
  appliedMask : BitVec 8
  errorMask : BitVec 8
  configValidMask : BitVec 8
  failureStage : BitVec 32
  failureAddress : BitVec 18
  failureAxiResponse : BitVec 2
  channelStatus : Fin 8 → BitVec 32

/-- `nco_commit_*` -/
structure NcoCommit where
  start : Bool
  mask : BitVec 8
  freqWords : Fin 8 → BitVec 48
  phaseWords : Fin 8 → BitVec 18

/-- The registers of `rfdc_runtime_config_pl`. -/
structure RuntimeConfig where
  state : RuntimeState
  busy : Bool
  done : Bool
  forceMutePulse : Bool
  result : ApplyResult
  rfdcReady : Bool
  actual : Actual
  staged : Actual
  ncoCommit : NcoCommit
  request : RuntimeRequest
  channelIndex : Fin 8
  selected : Selected
  expectedNcoWord : BitVec 48
  expectedPhaseWord : BitVec 18
  divider : Divider
  calcIteration : Nat
  calcNegative : Bool
  rmwValue : BitVec 16
  expectedCfg0 : BitVec 16
  expectedCfg2 : BitVec 16
  expectedCfg3 : BitVec 16
  readbackCfg0 : BitVec 16
  readbackCfg2 : BitVec 16
  rampCurrentUa : Nat
  rampNextUa : Nat
  rampUp : Bool
  vopReadbackOnly : Bool
  vopWritePerformed : Bool
  vopCode : BitVec 16
  vopOptIndex : Nat
  vopCurrentScaled : BitVec 32
  delayCount : Nat
  cachedSequence : BitVec 32
  cachedRevision : BitVec 32
  cachedResponseValid : Bool
  readyProbeCount : Nat
  readyProbeTile : Fin 4
  readyProbeMask : Fin 4 → Bool
  axi : AxilCommand
  transaction : AxilTransaction

/-- What `rfdc_runtime_config_pl` samples at one clock edge. -/
structure RuntimeIn where
  start : Bool
  cmd : RfdcRequest
  playbackArmed : Bool
  playbackRunning : Bool
  ncoCommitBusy : Bool
  ncoCommitDone : Bool
  ncoCommitError : BitVec 2
  axil : AxilIn

namespace RuntimeConfig

def noActual : Actual :=
  ⟨fun _ => 0, fun _ => 0, fun _ => 0, fun _ => 0, fun _ => 0, fun _ => 0, fun _ => 0⟩

def reset (p : RuntimeParams) : RuntimeConfig where
  state := .idle
  busy := false
  done := false
  forceMutePulse := false
  result := ⟨stOk, 0, 0, 0, 0, 0, 0, 0, fun _ => 0⟩
  rfdcReady := false
  actual := noActual
  staged := noActual
  ncoCommit := ⟨false, 0, fun _ => 0, fun _ => 0⟩
  request := ⟨0, 0, fun _ => 0, fun _ => 0, fun _ => 0, fun _ => 0, 0⟩
  channelIndex := 0
  selected := ⟨0, 0, 0, 0, 0, 1⟩
  expectedNcoWord := 0
  expectedPhaseWord := 0
  divider := ⟨0, 0, 0, 0⟩
  calcIteration := 0
  calcNegative := false
  rmwValue := 0
  expectedCfg0 := 0
  expectedCfg2 := 0
  expectedCfg3 := 0
  readbackCfg0 := 0
  readbackCfg2 := 0
  rampCurrentUa := 0
  rampNextUa := 0
  rampUp := false
  vopReadbackOnly := false
  vopWritePerformed := false
  vopCode := 0
  vopOptIndex := 0
  vopCurrentScaled := 0
  delayCount := 0
  cachedSequence := 0
  cachedRevision := 0
  cachedResponseValid := false
  readyProbeCount := p.readyProbeIntervalCycles - 1
  readyProbeTile := 0
  readyProbeMask := fun _ => false
  axi := ⟨false, false, 0, 0, 3⟩
  transaction := .reset

/-! ## Validation -/

/-- The range of the output current of a channel, in microamperes. -/
def currentRange (channel : Fin 8) : Nat × Nat :=
  if dcCoupled channel then (6400, 32000) else (2250, 40500)

/-- A channel of the request is out of range. -/
def outOfRange (cmd : RfdcRequest) (r : Fin 8) : Bool :=
  decide ((cmd.ncoHz r).toInt < -3200000000) || decide (3200000000 < (cmd.ncoHz r).toInt) ||
    (cmd.nyquistZone r != 1 && cmd.nyquistZone r != 2) ||
    decide ((cmd.phaseMdeg r).toInt < -180000) || decide (180000 ≤ (cmd.phaseMdeg r).toInt) ||
    decide ((cmd.currentUa r).toNat < (currentRange r).1) ||
    decide ((currentRange r).2 < (cmd.currentUa r).toNat)

def maskOf (f : Fin 8 → Bool) : BitVec 8 := (BitVec.ofBoolListLE (List.ofFn f)).setWidth 8

/-- `validation_error_mask` -/
def validationErrorMask (cmd : RfdcRequest) : BitVec 8 :=
  maskOf fun r => cmd.channelMask.getLsbD r && outOfRange cmd r

/-! ## The accesses -/

variable (p : RuntimeParams) (s : RuntimeConfig) (i : RuntimeIn)

/-- `launch_read` -/
def launchRead (address : BitVec 18) : AxilCommand := ⟨true, false, address, 0, 3⟩

/-- `launch_write16` -/
def launchWrite16 (address : BitVec 18) (value : BitVec 16) : AxilCommand :=
  ⟨true, true, address, 0#16 ++ value, 3⟩

/-- What the access puts on the AXI-Lite port. -/
def command : Access → AxilCommand
  | .readyProbe => launchRead (tileBaseFromIndex s.readyProbeTile + offCurrentState)
  | .tile => launchRead (s.selected.tileBase + offCurrentState)
  | .nyqRead => launchRead (s.selected.blockBase + offCfg0)
  | .nyqWrite => launchWrite16 (s.selected.blockBase + offCfg0) s.rmwValue
  | .vopCtrlRead => launchRead (s.selected.blockBase + offVopCtrl)
  | .vopCtrlWrite => launchWrite16 (s.selected.blockBase + offVopCtrl) s.rmwValue
  | .vopInit => launchRead (s.selected.blockBase + offCfg3)
  | .vopCfg0Read => launchRead (s.selected.blockBase + offCfg0)
  | .vopCfg0Write => launchWrite16 (s.selected.blockBase + offCfg0) s.expectedCfg0
  | .vopCfg2Read => launchRead (s.selected.blockBase + offCfg2)
  | .vopCfg2Write => launchWrite16 (s.selected.blockBase + offCfg2) s.expectedCfg2
  | .vopCfg3Read => launchRead (s.selected.blockBase + offCfg3)
  | .vopCfg3Write => launchWrite16 (s.selected.blockBase + offCfg3) s.expectedCfg3
  | .vopUpdateRead => launchRead (s.selected.blockBase + offCfg3)
  | .vopUpdateWrite => launchWrite16 (s.selected.blockBase + offCfg3) s.rmwValue
  | .rbCfg0 => launchRead (s.selected.blockBase + offCfg0)
  | .rbCfg2 => launchRead (s.selected.blockBase + offCfg2)
  | .rbCfg3 => launchRead (s.selected.blockBase + offCfg3)

/-- The stage a failed access is reported with; a failed probe is not reported. -/
def stage : Access → BitVec 32
  | .readyProbe | .tile => stageReady
  | .nyqRead | .nyqWrite => stageNyquist
  | .rbCfg0 | .rbCfg2 | .rbCfg3 => stageReadback
  | _ => stageVop

/-- `status` once something has failed: partial when channels have been applied. -/
def failureStatus (code : BitVec 16) : BitVec 16 := if s.result.appliedMask ≠ 0 then stPartial else code

variable (t : RuntimeConfig)

/-- `fail_transaction` -/
def failTransaction (stage : BitVec 32) : RuntimeConfig :=
  let code := if s.transaction.error = 3 then stAxiTimeout else stAxiError
  { t with
    result := { s.result with
      failureStage := stage
      failureAddress := s.axi.address
      failureAxiResponse := s.transaction.response
      errorMask := s.request.mask &&& ~~~s.result.appliedMask
      channelStatus := Function.update s.result.channelStatus s.channelIndex (0#16 ++ code)
      status := s.failureStatus code }
    forceMutePulse := true
    state := .finish }

/-- The tile of the channel is not up, or the readback does not match. -/
def failCheck (code : BitVec 16) (stage : BitVec 32) : RuntimeConfig :=
  { t with
    result := { s.result with
      status := s.failureStatus code
      errorMask := s.request.mask &&& ~~~s.result.appliedMask
      failureStage := stage
      failureAddress := s.axi.address }
    forceMutePulse := true
    state := .finish }

def readHalf : BitVec 16 := s.transaction.readData.extractLsb' 0 16

def tileUp : Bool := s.transaction.readData.extractLsb' 0 4 == 0xF

/-- `S_READY_PROBE_WAIT` once the access is done. -/
def probed : RuntimeConfig :=
  let up := s.transaction.error == 0 && s.tileUp
  let t := { t with readyProbeMask := Function.update s.readyProbeMask s.readyProbeTile up }
  if s.readyProbeTile = 3 then
    { t with
      rfdcReady := s.readyProbeMask 0 && s.readyProbeMask 1 && s.readyProbeMask 2 && up
      busy := false
      state := .idle }
  else { t with readyProbeTile := s.readyProbeTile + 1, state := .launch .readyProbe }

/-- `S_TILE_WAIT` once the access has succeeded. -/
def tileRead : RuntimeConfig :=
  let mask := Function.update s.readyProbeMask (tileOf s.channelIndex)
  if s.tileUp then
    { t with
      readyProbeMask := mask true
      rfdcReady := s.rfdcReady || decide (∀ tile, mask true tile = true)
      state := .launch .nyqRead }
  else
    { s.failCheck t stRfdcNotReady stageReady with
      readyProbeMask := mask false
      rfdcReady := false }

/-- The readback of the channel does not show what was written. -/
def readbackWrong : Bool :=
  s.readbackCfg0 &&& nyquistMask != (if s.selected.zone = 2 then nyquistMask else 0) ||
    s.vopWritePerformed &&
      (s.readbackCfg2 &&& cfg2VopMask != s.expectedCfg2 &&& cfg2VopMask ||
        s.readHalf &&& cfg3VopMask != s.expectedCfg3 &&& cfg3VopMask)

def accessed : Access → RuntimeConfig
  | .readyProbe => s.probed t
  | .tile => s.tileRead t
  | .nyqRead =>
    { t with
      rmwValue := if s.selected.zone = 2 then s.readHalf ||| nyquistMask else s.readHalf &&& ~~~nyquistMask
      state := .launch .nyqWrite }
  | .nyqWrite => { t with state := .launch .vopCtrlRead }
  | .vopCtrlRead => { t with rmwValue := s.readHalf &&& 0xFFFC, state := .launch .vopCtrlWrite }
  | .vopCtrlWrite => { t with state := .launch .vopInit }
  | .vopInit =>
    { t with
      rampCurrentUa := 1400 + (s.readHalf.extractLsb' 6 10).toNat * 175 / 4
      state := .vopPrep }
  | .vopCfg0Read =>
    { t with
      expectedCfg0 := s.readHalf &&& ~~~cfg0CasBldrMask |||
        if dcCoupled s.channelIndex then cscBldrDc s.vopOptIndex else cscBldrAc s.vopOptIndex
      state := .launch .vopCfg0Write }
  | .vopCfg0Write => { t with state := .launch .vopCfg2Read }
  | .vopCfg2Read =>
    { t with
      expectedCfg2 := s.readHalf &&& ~~~cfg2VopMask |||
        (if dcCoupled s.channelIndex then bldrDc s.vopOptIndex else bldrAc s.vopOptIndex) |||
          (s.vopCode &&& 0x000F) <<< 6
      state := .launch .vopCfg2Write }
  | .vopCfg2Write => { t with state := .launch .vopCfg3Read }
  | .vopCfg3Read =>
    { t with
      expectedCfg3 := s.readHalf &&& ~~~cfg3VopMask ||| s.vopCode <<< 6 |||
        (if dcCoupled s.channelIndex then cscBiasDc s.vopOptIndex
          else cscBiasAc s.vopOptIndex).zeroExtend 16
      state := .launch .vopCfg3Write }
  | .vopCfg3Write => { t with state := .launch .vopUpdateRead }
  | .vopUpdateRead => { t with rmwValue := s.readHalf ||| cfg3UpdateMask, state := .launch .vopUpdateWrite }
  | .vopUpdateWrite => { t with delayCount := p.wait1usCycles, state := .vopDelay }
  | .rbCfg0 => { t with readbackCfg0 := s.readHalf, state := .launch .rbCfg2 }
  | .rbCfg2 => { t with readbackCfg2 := s.readHalf, state := .launch .rbCfg3 }
  | .rbCfg3 =>
    if s.readbackWrong then s.failCheck t stReadback stageReadback
    else
      { t with
        vopCurrentScaled := s.vopCode.zeroExtend 32 * 175
        state := .channelDone }

/-- A `_WAIT` state once the access is done. -/
def finishAccess (a : Access) : RuntimeConfig :=
  if a ≠ .readyProbe ∧ s.transaction.error ≠ 0 then s.failTransaction t (stage a) else s.accessed p t a

/-! ## The states -/

/-- The request is answered at once: `done` and a status, or the answer of the same
    request once more. -/
def answerAtOnce (result : ApplyResult) (mutes : Bool) : RuntimeConfig :=
  { t with result := result, forceMutePulse := mutes, done := true, cachedResponseValid := false }

/-- `S_IDLE` with `start`. -/
def accept : RuntimeConfig :=
  let t := { t with busy := false, readyProbeCount := p.readyProbeIntervalCycles - 1 }
  if s.cachedResponseValid && i.cmd.sequence == s.cachedSequence && i.cmd.revision == s.cachedRevision then
    { t with done := true }
  else if i.cmd.channelMask = 0 then
    answerAtOnce t { s.result with
      status := stBadRequest
      errorMask := 0
      failureStage := stageValidate
      revision := i.cmd.revision } false
  else if i.playbackArmed || i.playbackRunning then
    answerAtOnce t { s.result with
      status := stUnsafeState
      errorMask := i.cmd.channelMask
      failureStage := stageValidate
      revision := i.cmd.revision } true
  else
    { t with
      busy := true
      result := { s.result with status := stOk, revision := i.cmd.revision }
      request :=
        { mask := i.cmd.channelMask
          sequence := i.cmd.sequence
          ncoHz := i.cmd.ncoHz
          zone := i.cmd.nyquistZone
          phase := i.cmd.phaseMdeg
          current := i.cmd.currentUa
          validationErrorMask := validationErrorMask i.cmd }
      state := .validate }

/-- `S_IDLE` -/
def idle : RuntimeConfig :=
  if i.start then s.accept p i t
  else if s.readyProbeCount = 0 then
    -- the probe starts by itself, whatever the command machine is about to do
    { t with
      busy := true
      readyProbeTile := 0
      readyProbeMask := fun _ => false
      readyProbeCount := p.readyProbeIntervalCycles - 1
      state := .launch .readyProbe }
  else { t with busy := false, readyProbeCount := s.readyProbeCount - 1 }

/-- `S_VALIDATE` -/
def validate : RuntimeConfig :=
  if s.request.validationErrorMask ≠ 0 then
    { t with
      result := { s.result with
        status := stRange
        errorMask := s.request.validationErrorMask
        failureStage := stageValidate }
      done := true
      busy := false
      cachedResponseValid := false
      forceMutePulse := true
      state := .idle }
  else
    { t with
      result := { s.result with
        appliedMask := 0
        errorMask := 0
        failureStage := 0
        failureAddress := 0
        failureAxiResponse := 0
        configValidMask := s.result.configValidMask &&& ~~~s.request.mask
        channelStatus := fun _ => 0 }
      channelIndex := 0
      staged := s.actual
      ncoCommit :=
        { start := false
          mask := s.request.mask
          freqWords := fun r => (s.actual.ncoWord r).extractLsb' 0 48
          phaseWords := fun r => (s.actual.phaseWord r).extractLsb' 0 18 }
      forceMutePulse := true
      state := .select }

/-- `S_SELECT` -/
def select : RuntimeConfig :=
  let r := s.channelIndex
  if !s.request.mask.getLsbD r then
    if r = 7 then { t with state := .ncoCommitStart } else { t with channelIndex := r + 1 }
  else
    { t with
      selected :=
        { blockBase := channelBlockBase r
          tileBase := channelTileBase r
          ncoHz := s.request.ncoHz r
          phaseMdeg := s.request.phase r
          currentUa := (s.request.current r).toNat
          zone := s.request.zone r }
      vopWritePerformed := false
      state := .ncoCalcInit }

def divide (dividend divisor iteration : Nat) (d : Division) : RuntimeConfig :=
  { t with divider := ⟨dividend, 0, 0, divisor⟩, calcIteration := iteration, state := .calcStep d }

/-- `S_NCO_CALC_INIT`: by 2^34 / 390625 -/
def ncoCalcInit : RuntimeConfig :=
  let negative := s.selected.ncoHz.msb
  let low := s.selected.ncoHz.extractLsb' 0 32
  divide { t with calcNegative := negative } ((if negative then -low else low).toNat * 2 ^ 34) 390625 65 .nco

/-- `S_PHASE_CALC_INIT`: by 2^12 / 5625 -/
def phaseCalcInit : RuntimeConfig :=
  let negative := s.selected.phaseMdeg.msb
  let low := s.selected.phaseMdeg.extractLsb' 0 18
  divide { t with calcNegative := negative } ((if negative then -low else low).toNat * 2 ^ 48) 5625 29 .phase

/-- `S_VOP_PREP`: a tenth of the current is the next step of the ramp. -/
def vopPrep : RuntimeConfig :=
  if s.rampCurrentUa = s.selected.currentUa then
    { t with vopReadbackOnly := true, state := .vopQuantInit }
  else
    divide { t with rampUp := decide (s.rampCurrentUa < s.selected.currentUa), vopReadbackOnly := false }
      (s.rampCurrentUa % 2 ^ 16 * 2 ^ 50) 10 15 .ramp

/-- `S_VOP_QUANT_INIT` -/
def vopQuantInit : RuntimeConfig :=
  let current := if s.vopReadbackOnly then s.selected.currentUa else s.rampNextUa
  divide t ((current % 2 ^ 16 + (2 ^ 16 - 1400)) % 2 ^ 16 * 2 ^ 50) 175 17 .vopQuant

/-- The `_STEP` state of a division. -/
def calcStep (d : Division) : RuntimeConfig :=
  { t with
    divider := s.divider.step 66 19
    calcIteration := if s.calcIteration = 0 then 0 else s.calcIteration - 1
    state := if s.calcIteration = 0 then .calcDone d else .calcStep d }

/-- The sum or the difference, cut off at the selected current. -/
def rampNext : Nat :=
  let tenth := s.divider.quotient % 2 ^ 16
  if s.rampUp then
    let next := (s.rampCurrentUa + tenth) % 2 ^ 32
    if s.selected.currentUa < next then s.selected.currentUa else next
  else
    let next := (s.rampCurrentUa + (2 ^ 32 - tenth)) % 2 ^ 32
    if next < s.selected.currentUa then s.selected.currentUa else next

/-- The `_DONE` state of a division. -/
def calcDone : Division → RuntimeConfig
  | .nco =>
    let word := BitVec.ofNat 48 s.divider.quotient
    { t with expectedNcoWord := if s.calcNegative then -word else word, state := .phaseCalcInit }
  | .phase =>
    let quotient := BitVec.ofNat 18 s.divider.quotient
    let word := if s.calcNegative then -quotient else quotient
    { t with
      expectedPhaseWord := word
      ncoCommit := { t.ncoCommit with
        freqWords := Function.update s.ncoCommit.freqWords s.channelIndex s.expectedNcoWord
        phaseWords := Function.update s.ncoCommit.phaseWords s.channelIndex word }
      state := .launch .tile }
  | .ramp => { t with rampNextUa := s.rampNext, state := .vopQuantInit }
  | .vopQuant =>
    { t with
      vopCode := BitVec.ofNat 16 s.divider.quotient
      vopOptIndex := s.divider.quotient / 2 ^ 4 % 2 ^ 6
      state := if s.vopReadbackOnly then .launch .rbCfg0 else .launch .vopCfg0Read }

/-- A `_READ` or `_WRITE` state. -/
def launch (a : Access) : RuntimeConfig :=
  { t with
    axi := s.command a
    vopWritePerformed := s.vopWritePerformed || a == .vopCfg0Read
    state := .await a }

/-- `S_VOP_DELAY` -/
def vopDelay : RuntimeConfig :=
  if s.delayCount = 0 then { t with rampCurrentUa := s.rampNextUa, state := .vopPrep }
  else { t with delayCount := s.delayCount - 1 }

/-- `S_CHANNEL_DONE` -/
def channelDone : RuntimeConfig :=
  let r := s.channelIndex
  let t := { t with
    staged :=
      { ncoHz := Function.update s.staged.ncoHz r s.selected.ncoHz
        nyquistZone := Function.update s.staged.nyquistZone r
          (if s.readbackCfg0 &&& nyquistMask ≠ 0 then 2 else 1)
        phaseMdeg := Function.update s.staged.phaseMdeg r s.selected.phaseMdeg
        currentUa := Function.update s.staged.currentUa r (1400 + s.vopCurrentScaled >>> 2)
        ncoWord := Function.update s.staged.ncoWord r (0#16 ++ s.expectedNcoWord)
        phaseWord := Function.update s.staged.phaseWord r (0#14 ++ s.expectedPhaseWord)
        vopCode := Function.update s.staged.vopCode r (0#16 ++ s.vopCode) }
    result := { s.result with channelStatus := Function.update s.result.channelStatus r 0 } }
  if r = 7 then { t with state := .ncoCommitStart } else { t with channelIndex := r + 1, state := .select }

/-- `S_NCO_COMMIT_START` -/
def ncoCommitStart : RuntimeConfig :=
  if !i.ncoCommitBusy then { t with ncoCommit := { s.ncoCommit with start := true }, state := .ncoCommitWait }
  else t

/-- `S_NCO_COMMIT_WAIT` -/
def ncoCommitWait : RuntimeConfig :=
  if !i.ncoCommitDone then t
  else if i.ncoCommitError ≠ 0 then
    { t with
      result := { s.result with
        status := stNcoSync
        errorMask := s.request.mask
        failureStage := stageUpdate
        failureAddress := 0
        failureAxiResponse := i.ncoCommitError }
      forceMutePulse := true
      state := .finish }
  else
    { t with
      result := { s.result with
        appliedMask := s.request.mask
        configValidMask := s.result.configValidMask ||| s.request.mask }
      actual := s.staged
      state := .finish }

/-- `S_FINISH` -/
def finish : RuntimeConfig :=
  { t with
    busy := false
    cachedSequence := s.request.sequence
    cachedRevision := s.result.revision
    cachedResponseValid := true
    done := true
    state := .idle }

def clearPulses : RuntimeConfig :=
  { s with
    done := false
    forceMutePulse := false
    axi := { s.axi with start := false }
    ncoCommit := { s.ncoCommit with start := false } }

def act : RuntimeConfig :=
  let t := s.clearPulses
  match s.state with
  | .idle => s.idle p i t
  | .validate => s.validate t
  | .select => s.select t
  | .ncoCalcInit => s.ncoCalcInit t
  | .phaseCalcInit => s.phaseCalcInit t
  | .vopPrep => s.vopPrep t
  | .vopQuantInit => s.vopQuantInit t
  | .calcStep d => s.calcStep t d
  | .calcDone d => s.calcDone t d
  | .launch a => s.launch t a
  | .await a => if s.transaction.done then s.finishAccess p t a else t
  | .vopDelay => s.vopDelay t
  | .channelDone => s.channelDone t
  | .ncoCommitStart => s.ncoCommitStart i t
  | .ncoCommitWait => s.ncoCommitWait i t
  | .finish => s.finish t

/-- One clock edge of `rfdc_runtime_config_pl`. -/
def step : RuntimeConfig :=
  { s.act p i with transaction := s.transaction.step p.axiTimeoutCycles s.axi i.axil }

end RuntimeConfig

/-- `rfdc_runtime_config_pl` as a machine. -/
def runtimeConfig (p : RuntimeParams) : Machine RuntimeIn RuntimeConfig where
  reset := .reset p
  step s i := s.step p i

end Xczu47dr.Rfdc
