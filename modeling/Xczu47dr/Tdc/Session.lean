import Xczu47dr.Playback.PlaybackController
import Xczu47dr.Tdc.ConstantLatency

/-! # Sessions in TDC mode

`tdc_trigger_request_mux`, the compensating trigger and the playback controller,
wired as in `Top`: an event is admitted on the registered level
`waveform_prepared_dac`, and the launch is the trigger of the controller.
-/

namespace Xczu47dr.Tdc

open Xczu47dr.Playback

/-- What the three modules sample besides each other's registers. -/
structure SessionIn where
  /-- The commands, the prefetch levels and the beats; the trigger is the launch. -/
  controller : ControllerIn
  /-- `wave_control_abort_dac` -/
  controlAbort : Bool
  syncBypass : Bool
  syncReady : Bool
  externalValid : Bool
  external : TdcEvent
  softwarePulse : Bool
  softwareIsExternal : Bool
  calibrated : Bool
  referenceReady : Bool
  runtimeFault : Bool
  outputBusy : Bool
  phaseOffset : Int
  clipPulse : BitVec 8
  clearStatistics : Bool

/-- The trigger and the controller, and the registers of `Top` between them. -/
structure Session where
  beat : BeatTrigger
  controller : PlaybackController
  /-- `waveform_prepared_dac_reg` -/
  prepared : Bool
  /-- `pc_started_dac_reg` -/
  started : Bool
  /-- `wave_done_prev_dac` -/
  donePrev : Bool
  /-- `pc_done_pulse_reg` -/
  donePulse : Bool

namespace Session

def reset (start : Int) : Session where
  beat := ⟨BitVec.ofInt 32 start, .reset⟩
  controller := .reset
  prepared := false
  started := false
  donePrev := false
  donePulse := false

variable (isMaster : Bool) (s : Session) (i : SessionIn)

/-! ## The request mux -/

def localRequest : Bool := i.softwarePulse && !i.softwareIsExternal

def selectExternal : Bool := i.externalValid && (i.external.good || !localRequest i)

def admissionOpen : Bool := s.prepared && (isMaster || i.syncBypass || i.syncReady)

def requestValid : Bool := i.externalValid || localRequest i

def requestGood : Bool := if selectExternal i then i.external.good else true

def requestEpoch : BitVec 32 := if selectExternal i then i.external.epoch else s.beat.epoch

def requestPhase : Nat := if selectExternal i then i.external.phase else 0

/-! ## The wiring -/

/-- `tdc_clear`: `waveform_play_abort`, `waveform_play_prepare` being low. -/
def clear : Bool := i.controlAbort || s.controller.state = .error

/-- The inputs of `u_tdc_scheduler`, TDC mode being on. -/
def triggerIn : TriggerIn where
  clear := s.clear i
  enable := true
  calibrated := i.calibrated
  referenceReady := i.referenceReady
  prepared := s.admissionOpen isMaster i
  sourceRunning := s.started
  outputBusy := i.outputBusy
  sourceDone := s.donePulse
  loopEnable := 1 < i.controller.loopCount
  runtimeFault := i.runtimeFault
  clipPulse := i.clipPulse
  eventValid := requestValid i
  eventGood := requestGood i
  eventEpoch := s.requestEpoch i
  eventPhase := requestPhase i
  phaseOffset := i.phaseOffset
  clearStatistics := i.clearStatistics

/-- The inputs of `u_controller`: in TDC mode only the launch is a trigger. -/
def controllerIn : ControllerIn := { i.controller with triggerEvent := s.beat.trigger.launch }

def step (targetBeats : Nat) : Session where
  beat := s.beat.step targetBeats (s.triggerIn isMaster i)
  controller := s.controller.step (s.controllerIn i)
  prepared := s.controller.state = .waitTrigger || s.controller.state = .playing ||
    s.controller.state = .draining || s.controller.state = .done
  started := s.controller.dacGate
  donePrev := s.controller.state = .done
  donePulse := decide (s.controller.state = .done) && !s.donePrev

end Session

/-- A session in TDC mode, released from reset in beat `start`. -/
def session (isMaster : Bool) (targetBeats : Nat) (start : Int) : Clocked.Machine SessionIn Session where
  reset := .reset start
  step s i := s.step isMaster i targetBeats

end Xczu47dr.Tdc
