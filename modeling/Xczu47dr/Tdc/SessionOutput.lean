import Xczu47dr.Playback.DacStream
import Xczu47dr.Tdc.EventPlays
import Xczu47dr.Tdc.FilterBusy

/-! # The output of a session in TDC mode

The session with the descriptor it plays, the DAC stream it gates and the filters
behind the stream, wired as in `Top` and `waveform_playback_path`.  The filters
take every beat of an enabled lane that is valid and ready, and the scheduler is
told that the output is busy as long as one of them is.
-/

namespace Xczu47dr.Tdc

open Xczu47dr.Playback

/-- A descriptor as it crosses into the DAC domain. -/
structure Descriptor where
  mask : Channel → Bool
  totalBeats : BitVec 32
  loopCount : BitVec 32

/-- What the output path samples at one edge of the DAC clock. -/
structure OutputIn where
  beginDac : Bool
  commitDac : Bool
  playDac : Bool
  pauseDac : Bool
  stopDac : Bool
  abortDac : Bool
  descriptorValid : Bool
  descriptor : Descriptor
  prefetchDone : Bool
  fifoSafe : Bool
  axiError : Bool
  fifoValid : Channel → Bool
  dacReady : Channel → Bool
  /-- `tdc_channel_arm` -/
  arm : Channel → Bool
  /-- `rfdc_output_permitted_dac` -/
  permitted : Bool
  /-- `tdc_loss_sync` -/
  fifoLoss : Bool
  controlAbort : Bool
  syncBypass : Bool
  syncReady : Bool
  externalValid : Bool
  external : TdcEvent
  softwarePulse : Bool
  softwareIsExternal : Bool
  calibrated : Bool
  referenceReady : Bool
  phaseOffset : Int
  clipPulse : BitVec 8
  clearStatistics : Bool

structure SessionOutput where
  session : Session
  /-- `mask_dac`, `total_beats_dac` and `descriptor_loop_count_dac` -/
  descriptor : Descriptor
  descriptorLoaded : Bool
  commitPending : Bool
  stream : DacStream
  filter : Channel → ChannelFilter

namespace SessionOutput

def reset (start : Int) : SessionOutput where
  session := .reset start
  descriptor := ⟨fun _ => false, 0, 0⟩
  descriptorLoaded := false
  commitPending := false
  stream := .reset
  filter := fun _ => .reset

variable (isMaster : Bool) (s : SessionOutput) (i : OutputIn)

def controllerCommit : Bool := s.descriptorLoaded && s.commitPending

/-- The inputs of `u_dac_stream`. -/
def streamIn : DacStreamIn where
  playing := s.session.controller.dacGate
  clear := i.beginDac || i.abortDac || i.stopDac || i.pauseDac || s.session.controller.loopRestart ||
    s.session.controller.state = .prefetch
  channelMask := s.descriptor.mask
  totalBeats := s.descriptor.totalBeats
  fifoValid := i.fifoValid
  dacReady := i.dacReady

def anyFifoEmpty : Bool := DacStream.anyLane fun ch => !i.fifoValid ch && s.descriptor.mask ch

/-- The inputs of `u_controller`, the trigger aside. -/
def controllerIn : ControllerIn where
  beginCmd := i.beginDac
  commitCmd := i.commitDac
  playCmd := i.playDac
  pauseCmd := i.pauseDac
  stopCmd := i.stopDac
  abortCmd := i.abortDac
  triggerEvent := false
  prefetchDone := i.prefetchDone
  fifoSafe := i.fifoSafe
  fifoEmpty := s.stream.underflow (s.streamIn i) || s.anyFifoEmpty i
  axiError := i.axiError
  beatValid := s.stream.beatFire (s.streamIn i)
  beatReady := true
  beatLast := s.stream.beatLast (s.streamIn i)
  loopCount := s.descriptor.loopCount

/-- `tdc_runtime_fault` -/
def runtimeFault : Bool :=
  s.session.beat.trigger.active &&
    ((DacStream.anyLane fun ch => s.descriptor.mask ch && !s.stream.dacValid (s.streamIn i) ch) ||
      (DacStream.anyLane fun ch => i.arm ch && !i.dacReady ch) || !i.permitted || i.fifoLoss)

/-- `tdc_clear` -/
def clear : Bool := i.controlAbort || s.session.controller.state = .error

/-- `tdc_output_mute` -/
def outputMute : Bool :=
  s.session.beat.trigger.fault || s.runtimeFault i || !i.referenceReady || !i.calibrated || s.clear i

/-- The inputs of `u_delay` and `u_phase` of one channel. -/
def filterIn (ch : Channel) : FilterIn where
  clear := s.clear i || s.outputMute i
  configValid := s.session.beat.trigger.configValid
  sourceValid := s.descriptor.mask ch && s.stream.dacValid (s.streamIn i) ch && i.dacReady ch && !s.outputMute i

/-- `|tdc_filter_busy` -/
def outputBusy : Bool := DacStream.anyLane fun ch => (s.filter ch).busy (s.filterIn i ch)

def sessionIn : SessionIn where
  controller := s.controllerIn i
  controlAbort := i.controlAbort
  syncBypass := i.syncBypass
  syncReady := i.syncReady
  externalValid := i.externalValid
  external := i.external
  softwarePulse := i.softwarePulse
  softwareIsExternal := i.softwareIsExternal
  calibrated := i.calibrated
  referenceReady := i.referenceReady
  runtimeFault := s.runtimeFault i
  outputBusy := s.outputBusy i
  phaseOffset := i.phaseOffset
  clipPulse := i.clipPulse
  clearStatistics := i.clearStatistics

/-- The descriptor registers of `waveform_playback_path`. -/
def loadDescriptor : SessionOutput :=
  if i.abortDac then
    { s with
      descriptor := ⟨fun _ => false, 0, 0⟩
      descriptorLoaded := false
      commitPending := false }
  else
    { s with
      descriptor := if i.descriptorValid then i.descriptor else s.descriptor
      descriptorLoaded := i.descriptorValid || (s.descriptorLoaded && !i.commitDac)
      commitPending := if s.controllerCommit then false else i.commitDac || s.commitPending }

def step (targetBeats : Nat) : SessionOutput :=
  { s.loadDescriptor i with
    session := s.session.step isMaster (s.sessionIn i) targetBeats
    stream := s.stream.step (s.streamIn i)
    filter := fun ch => (s.filter ch).step (s.filterIn i ch) }

end SessionOutput

/-- The output of a session in TDC mode, released from reset in beat `start`. -/
def sessionOutput (isMaster : Bool) (targetBeats : Nat) (start : Int) :
    Clocked.Machine OutputIn SessionOutput where
  reset := .reset start
  step s i := s.step isMaster i targetBeats

end Xczu47dr.Tdc
