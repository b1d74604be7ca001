import Mathlib.Data.List.Sort
import Xczu47dr.Clocked.Machine
import Xczu47dr.Signed.Rounding

/-! # The RFDC configurations of the web service

`RfdcConfigService`: one stored record a board. `get` reads it, and the board
if asked to; `apply` stores the request as pending, sends it to the board and
stores what came of it.
-/

namespace Xczu47dr.Webapp

open Signed

/-! ## The records -/

/-- What a channel was read back with. -/
structure Actual where
  actualNcoHz : Option ℚ := none
  actualNyquistZone : Option Int := none
  actualNcoPhaseDeg : Option ℚ := none
  actualDacOutputCurrentMa : Option ℚ := none
  ncoWord : Option Int := none
  phaseWord : Option Int := none
  vopCode : Option Int := none
  hardwareStatus : Int := 0
  deriving DecidableEq

structure RfdcChannelConfig extends Actual where
  channel : Nat
  dacOutputCurrentMa : ℚ := 20
  targetRfHz : ℚ := 0
  ncoHz : ℚ := 0
  nyquistZone : Nat := 1
  dataOffsetHz : ℚ := 0
  dataAmplitude : ℚ := 1 / 2
  dataPhaseDeg : ℚ := 0
  ncoPhaseDeg : ℚ := 0
  calibrationPhaseDeg : ℚ := 0
  deriving DecidableEq

def RfdcChannelConfig.InRange (item : RfdcChannelConfig) : Prop :=
  (1 ≤ item.channel ∧ item.channel ≤ 8) ∧
  (9 / 4 ≤ item.dacOutputCurrentMa ∧ item.dacOutputCurrentMa ≤ 81 / 2) ∧
  (0 ≤ item.targetRfHz ∧ item.targetRfHz ≤ 6400000000) ∧
  (-3200000000 ≤ item.ncoHz ∧ item.ncoHz ≤ 3200000000) ∧
  (item.nyquistZone = 1 ∨ item.nyquistZone = 2) ∧
  (-160000000 ≤ item.dataOffsetHz ∧ item.dataOffsetHz ≤ 160000000) ∧
  (-1 ≤ item.dataAmplitude ∧ item.dataAmplitude ≤ 1) ∧
  (-3600 ≤ item.dataPhaseDeg ∧ item.dataPhaseDeg ≤ 3600) ∧
  (-3600 ≤ item.ncoPhaseDeg ∧ item.ncoPhaseDeg ≤ 3600) ∧
  (-3600 ≤ item.calibrationPhaseDeg ∧ item.calibrationPhaseDeg ≤ 3600) ∧
  (∀ zone ∈ item.actualNyquistZone, 1 ≤ zone ∧ zone ≤ 2)

instance (item : RfdcChannelConfig) : Decidable item.InRange := by
  unfold RfdcChannelConfig.InRange
  infer_instance

inductive ApplyStatus
  | unknown
  | pending
  | applied
  | partly
  | failed
  deriving DecidableEq

def channelsOf (channels : List RfdcChannelConfig) : List RfdcChannelConfig :=
  channels.insertionSort (·.channel ≤ ·.channel)

/-- Exactly one configuration for CH1..CH8. -/
def Numbered (channels : List RfdcChannelConfig) : Prop :=
  (channels.map RfdcChannelConfig.channel).insertionSort (· ≤ ·) = List.range' 1 8

instance (channels : List RfdcChannelConfig) : Decidable (Numbered channels) := inferInstanceAs (Decidable (_ = _))

structure BoardRfdcConfig where
  boardId : String
  channels : List RfdcChannelConfig
  revision : Int := 0
  appliedAt : Option String := none
  applyStatus : ApplyStatus := .unknown
  applyError : String := ""
  requestedMask : Nat := 0xFF
  appliedMask : Nat := 0
  errorMask : Nat := 0
  configValidMask : Nat := 0
  failureStage : Int := 0
  failureAddress : Int := 0
  axiResponse : Int := 0
  deriving DecidableEq

/-- What is checked when a stored record is loaded. -/
def BoardRfdcConfig.Valid (config : BoardRfdcConfig) : Prop :=
  (∀ item ∈ config.channels, item.InRange) ∧ Numbered config.channels ∧
    (1 ≤ config.requestedMask ∧ config.requestedMask ≤ 0xFF) ∧ config.appliedMask ≤ 0xFF ∧
      config.errorMask ≤ 0xFF ∧ config.configValidMask ≤ 0xFF

instance (config : BoardRfdcConfig) : Decidable config.Valid := by
  unfold BoardRfdcConfig.Valid
  infer_instance

/-- A request its validators have let pass. -/
structure RfdcConfigApplyRequest where
  channels : List RfdcChannelConfig
  channelMask : Nat := 0xFF
  inRange : ∀ item ∈ channels, item.InRange
  masked : 1 ≤ channelMask ∧ channelMask ≤ 0xFF
  numbered : Numbered channels
  coupled : ∀ item ∈ channels, item.channel = 5 ∨ item.channel = 6 →
    32 / 5 ≤ item.dacOutputCurrentMa ∧ item.dacOutputCurrentMa ≤ 32

/-! ## What the board sends -/

/-- An entry of `channels` in a response. -/
structure Report where
  channel : Nat
  ncoHz : ℚ
  nyquistZone : Int
  ncoPhaseDeg : ℚ
  dacOutputCurrentMa : ℚ
  ncoWord : Int
  phaseWord : Int
  vopCode : Int
  status : Int
  deriving DecidableEq

def Report.actual (report : Report) : Actual where
  actualNcoHz := some report.ncoHz
  actualNyquistZone := some report.nyquistZone
  actualNcoPhaseDeg := some report.ncoPhaseDeg
  actualDacOutputCurrentMa := some report.dacOutputCurrentMa
  ncoWord := some report.ncoWord
  phaseWord := some report.phaseWord
  vopCode := some report.vopCode
  hardwareStatus := report.status

/-- A response's entries; what is not there has a default. -/
structure RfdcResponse where
  status : Option Nat
  revision : Option Int := none
  appliedMask : Option Nat := none
  errorMask : Option Nat := none
  configValidMask : Option Nat := none
  failureStage : Option Int := none
  failureAddress : Option Nat := none
  axiResponse : Option Nat := none
  channels : List Report := []
  deriving DecidableEq

structure BoardStatus where
  online : Bool
  message : String
  dacMtsRequired : Bool
  dacMtsReady : Bool
  dacMtsFailed : Bool
  dacMtsError : Nat
  playbackArmed : Bool
  playbackPrepared : Bool
  playbackRunning : Bool
  deriving DecidableEq

structure BoardProfile where
  ip : String
  port : Nat
  udpInterface : String
  udpSourceIp : String
  deriving DecidableEq

namespace RfdcResponse

variable (response : RfdcResponse)

def statusCode : Nat := response.status.getD 0x0003

def validMask : Nat := response.configValidMask.getD 0 &&& 0xFF

/-- `RFDC_STATUS_MESSAGES` -/
def statusMessage : Nat → Option String
  | 0x0001 => some "RFCTRL2 protocol version is not supported by the PL"
  | 0x0002 => some "installed bitstream does not support PL RFDC runtime configuration"
  | 0x0003 => some "PL rejected the RFDC request format"
  | 0x0004 => some "PL RFDC configuration controller is busy"
  | 0x0005 => some "RFDC tiles are not ready"
  | 0x0006 => some "RFDC configuration requires playback to be muted and disarmed"
  | 0x0007 => some "one or more RFDC channel parameters are outside the hardware range"
  | 0x0008 => some "RFDC AXI-Lite transaction failed"
  | 0x0009 => some "RFDC AXI-Lite transaction timed out"
  | 0x000A => some "RFDC register readback did not match the requested configuration"
  | 0x000B => some "only part of the RFDC channel configuration was applied"
  | _ => none

/-- `f"{value:0{width}X}"` and its like for other bases. -/
def padded (base width value : Nat) : String :=
  let digits := (Nat.toDigits base value).map Char.toUpper
  String.ofList (List.replicate (width - digits.length) '0' ++ digits)

/-- `_response_error` -/
def error : String :=
  let errorMask := response.errorMask.getD 0 &&& 0xFF
  let stage := response.failureStage.getD 0
  let address := response.failureAddress.getD 0
  let axiResponse := response.axiResponse.getD 0
  let message := (statusMessage response.statusCode).getD
    s!"PL RFDC configuration failed with status 0x{padded 16 4 response.statusCode}"
  let details :=
    (if errorMask ≠ 0 then [s!"error_mask=0x{padded 16 2 errorMask}"] else []) ++
    (if stage ≠ 0 then [s!"stage={stage}"] else []) ++
    (if address ≠ 0 then [s!"address=0x{padded 16 5 address}"] else []) ++
    (if axiResponse ≠ 0 then [s!"AXI response=0b{padded 2 2 axiResponse}"] else [])
  let joined := ", ".intercalate details
  if details ≠ [] then s!"{message} ({joined})" else message

end RfdcResponse

/-- `_config_from_hardware` -/
def configFromHardware (base : BoardRfdcConfig) (response : RfdcResponse) (applyStatus : ApplyStatus)
    (now : String) : BoardRfdcConfig :=
  { base with
    channels := (channelsOf base.channels).map fun requested =>
      -- of two entries for one channel the later one counts
      match response.channels.reverse.find? (·.channel = requested.channel) with
      | none => requested
      | some report =>
          if response.validMask.testBit (requested.channel - 1) then { requested with toActual := report.actual }
          else requested
    revision := response.revision.getD base.revision
    appliedAt := some now
    applyStatus := applyStatus
    applyError := ""
    appliedMask := response.appliedMask.getD 0 &&& 0xFF
    errorMask := response.errorMask.getD 0 &&& 0xFF
    configValidMask := response.validMask
    failureStage := response.failureStage.getD 0
    failureAddress := response.failureAddress.getD 0
    axiResponse := response.axiResponse.getD 0 }

/-! ## The service -/

/-- What happens, the responses of the boards included. -/
inductive Event
  | responded (boardId : String) (response : RfdcResponse)
  | saved (record : BoardRfdcConfig)

structure World where
  store : String → Option BoardRfdcConfig
  journal : List Event

namespace World

def fresh : World := ⟨fun _ => none, []⟩

variable (world : World)

def hear (boardId : String) (response : RfdcResponse) : World :=
  { world with journal := .responded boardId response :: world.journal }

/-- `save_rfdc_config` -/
def save (record : BoardRfdcConfig) : World where
  store boardId := if boardId = record.boardId then some record else world.store boardId
  journal := .saved record :: world.journal

/-- `load_rfdc_config` -/
def load (boardId : String) : Except String (Option BoardRfdcConfig) :=
  match world.store boardId with
  | none => .ok none
  | some record =>
      if record.Valid then .ok (some { record with boardId := boardId })
      else .error "validation error for BoardRfdcConfig"

end World

/-- `rfdc_nco_plan_for_target` of a target within the sample rate, both in GHz: the NCO and the
Nyquist zone. -/
def rfdcNcoPlanForTarget (target : ℚ) : ℚ × Nat :=
  if target < 32 / 10 then (target, 1) else (target - 64 / 10, 2)

/-- `default_rfdc_config` -/
def defaultRfdcConfig (boardId : String) : BoardRfdcConfig where
  boardId := boardId
  channels := [(1, 45 / 10), (2, 45 / 10), (3, 45 / 10), (4, 45 / 10), (5, 0), (6, 0), (7, 58 / 10), (8, 62 / 10)].map
    fun ((channel, target) : Nat × ℚ) =>
      { channel := channel, targetRfHz := target * 1000000000,
        ncoHz := (rfdcNcoPlanForTarget target).1 * 1000000000, nyquistZone := (rfdcNcoPlanForTarget target).2 }

/-- What is sent to a board. -/
structure ApplyCommand where
  channels : List RfdcChannelConfig
  revision : Int
  channelMask : Nat

/-- What the surroundings of one call answer. -/
structure Surroundings where
  profile : Except String BoardProfile
  status : Except String BoardStatus
  /-- the stored phase calibrations by frequency and channel -/
  calibration : Int → Nat → Option ℚ
  reading : Except String RfdcResponse
  answer : ApplyCommand → Except String RfdcResponse
  savingPending : Except String Unit := .ok ()
  savingResult : Except String Unit := .ok ()
  savingFailed : Except String Unit := .ok ()
  now : String := ""

/-- `_annotate_calibrations` -/
def annotateCalibrations (calibration : Int → Nat → Option ℚ) (channels : List RfdcChannelConfig) :
    List RfdcChannelConfig :=
  channels.map fun item =>
    { item with calibrationPhaseDeg := (calibration (roundHalfEven item.targetRfHz) item.channel).getD 0 }

section Calls

variable (around : Surroundings) (boardId : String) (world : World)

def current : Except String BoardRfdcConfig := do
  let _ ← around.profile
  let stored ← world.load boardId
  let config := stored.getD (defaultRfdcConfig boardId)
  pure { config with channels := annotateCalibrations around.calibration config.channels }

/-- `get` with `refresh`, once the record is loaded. -/
def refresh (config : BoardRfdcConfig) : Except String BoardRfdcConfig × World :=
  match around.reading with
  | .error reason => (.error reason, world)
  | .ok response =>
      let heard := world.hear boardId response
      if response.statusCode ≠ 0 then (.error response.error, heard)
      else
        let refreshed := configFromHardware config response .applied around.now
        match around.savingResult with
        | .error reason => (.error reason, heard)
        | .ok () => (.ok refreshed, heard.save refreshed)

/-- `get` -/
def get (refreshed : Bool) : Except String BoardRfdcConfig × World :=
  match current around boardId world with
  | .error reason => (.error reason, world)
  | .ok config => if refreshed then refresh around boardId world config else (.ok config, world)

def flag (value : Bool) : String := if value then "True" else "False"

/-- A board is configured only while it is muted, online and synchronised. -/
def checkStatus (profile : BoardProfile) (status : BoardStatus) : Except String Unit := do
  if status.playbackArmed ∨ status.playbackPrepared ∨ status.playbackRunning then
    let armed := flag status.playbackArmed
    let prepared := flag status.playbackPrepared
    let running := flag status.playbackRunning
    throw ("RFDC parameters require playback to be muted and disarmed " ++
      s!"(ARM={armed}, PREPARED={prepared}, RUNNING={running})")
  if ¬ status.online then
    let message := if status.message ≠ "" then status.message else "PL 未响应"
    throw (s!"RFCTRL2 UDP 控制不可用：{profile.udpInterface} / {profile.udpSourceIp} " ++
      s!"-> {profile.ip}:{profile.port}；{message}")
  if ¬ status.dacMtsRequired then
    throw "installed bitstream/firmware does not declare mandatory DAC MTS; refusing RFDC configuration"
  if ¬ status.dacMtsReady ∨ status.dacMtsFailed then
    let code := RfdcResponse.padded 16 4 status.dacMtsError
    let detail := if status.dacMtsError ≠ 0 then s!" error=0x{code}" else ""
    throw s!"DAC MTS is not ready; refusing RFDC configuration.{detail}"

/-- The record a request is stored as before it is sent. -/
def pendingConfig (request : RfdcConfigApplyRequest) (config : BoardRfdcConfig) : BoardRfdcConfig where
  boardId := boardId
  channels := annotateCalibrations around.calibration (channelsOf request.channels)
  revision := config.revision + 1
  applyStatus := .pending
  requestedMask := request.channelMask
  configValidMask := config.configValidMask

/-- The command a pending record is sent as: the calibrations are added to the phases. -/
def applyCommand (pending : BoardRfdcConfig) : ApplyCommand where
  channels := pending.channels.map fun item =>
    { item with ncoPhaseDeg := item.ncoPhaseDeg + item.calibrationPhaseDeg }
  revision := pending.revision
  channelMask := pending.requestedMask

def prepare (request : RfdcConfigApplyRequest) : Except String BoardRfdcConfig := do
  let profile ← around.profile
  let config ← current around boardId world
  let status ← around.status
  checkStatus profile status
  pure (pendingConfig around boardId request config)

/-- Whether the response says that all of the mask was applied, and whether some of it was. -/
def RfdcResponse.complete (response : RfdcResponse) (channelMask : Nat) : Bool :=
  response.statusCode = 0 ∧ response.appliedMask.getD 0 &&& channelMask = channelMask ∧
    response.errorMask.getD 0 &&& channelMask = 0

def RfdcResponse.someApplied (response : RfdcResponse) (channelMask : Nat) : Bool :=
  response.appliedMask.getD 0 &&& channelMask ≠ 0

def resultConfig (pending : BoardRfdcConfig) (response : RfdcResponse) : Except String BoardRfdcConfig :=
  if response.complete pending.requestedMask then
    .ok (configFromHardware pending response .applied around.now)
  else if response.someApplied pending.requestedMask then
    .ok { configFromHardware pending response .partly around.now with applyError := response.error }
  else .error response.error

/-- The part of `apply` whose exceptions are caught. -/
def attempt (pending : BoardRfdcConfig) : Except String BoardRfdcConfig × World :=
  match around.answer (applyCommand pending) with
  | .error reason => (.error reason, world)
  | .ok response =>
      let heard := world.hear boardId response
      match resultConfig around pending response with
      | .error reason => (.error reason, heard)
      | .ok result =>
          match around.savingResult with
          | .error reason => (.error reason, heard)
          | .ok () => (.ok result, heard.save result)

/-- `apply` -/
def apply (request : RfdcConfigApplyRequest) : Except String BoardRfdcConfig × World :=
  match prepare around boardId world request with
  | .error reason => (.error reason, world)
  | .ok pending =>
      match around.savingPending with
      | .error reason => (.error reason, world)
      | .ok () =>
          match attempt around boardId (world.save pending) pending with
          | (.ok result, after) => (.ok result, after)
          | (.error reason, after) =>
              match around.savingFailed with
              | .error fault => (.error fault, after)
              | .ok () => (.error reason, after.save { pending with applyStatus := .failed, applyError := reason })

end Calls

/-! ## Histories -/

inductive Call
  | get (boardId : String) (around : Surroundings) (refreshed : Bool)
  | apply (boardId : String) (around : Surroundings) (request : RfdcConfigApplyRequest)

def Call.made (world : World) : Call → Except String BoardRfdcConfig × World
  | .get boardId around refreshed => Webapp.get around boardId world refreshed
  | .apply boardId around request => Webapp.apply around boardId world request

/-- The service, one call after the other, from an empty store. -/
def service : Clocked.Machine Call World where
  reset := .fresh
  step world call := (call.made world).2

end Xczu47dr.Webapp
