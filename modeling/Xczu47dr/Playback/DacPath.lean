import Xczu47dr.Playback.DacWords
import Xczu47dr.Playback.LoopPasses

/-! # The DAC side of the playback path

The controller, the stream it gates and the registers between them, wired as in
`waveform_playback_path`.  The levels that come over from the DDR clock, the
commands, the trigger and the heads of the FIFOs are inputs.
-/

namespace Xczu47dr.Playback

/-- A descriptor record, as far as the DAC side reads it. -/
structure DacDescriptor where
  mask : Channel → Bool
  totalBeats : BitVec 32
  loopCount : BitVec 32

/-- What the path samples at one edge of the DAC clock. -/
structure DacPathIn where
  beginDac : Bool
  commitDac : Bool
  playDac : Bool
  pauseDac : Bool
  stopDac : Bool
  abortDac : Bool
  descriptorValid : Bool
  descriptor : DacDescriptor
  /-- `trigger_event_seen[0] | launch_sync` -/
  trigger : Bool
  /-- `safe_sync[1]` -/
  safe : Bool
  /-- `error_sync[1]` -/
  error : Bool
  fifoValid : Channel → Bool
  fifoData : Channel → BitVec 256
  dacReady : Channel → Bool

structure DacPath where
  controller : PlaybackController
  stream : DacStream
  /-- `mask_dac`, `total_beats_dac` and `descriptor_loop_count_dac` -/
  descriptor : DacDescriptor
  descriptorLoaded : Bool
  commitPending : Bool
  /-- `prefetch_state_dac` -/
  prefetchState : Bool
  /-- `fifo_settle_count_dac` -/
  settleCount : BitVec 8

namespace DacPath

def reset : DacPath where
  controller := .reset
  stream := .reset
  descriptor := ⟨fun _ => false, 0, 0⟩
  descriptorLoaded := false
  commitPending := false
  prefetchState := false
  settleCount := 0

variable (settleCycles : BitVec 8) (s : DacPath) (i : DacPathIn)

def controllerCommit : Bool := s.descriptorLoaded && s.commitPending

/-! ## The publication guard -/

def prefetchEnter : Bool := decide (s.controller.state = .prefetch) && !s.prefetchState

/-- Every enabled lane has a beat presented to the DAC domain. -/
def lanesPublished : Bool := !DacStream.anyLane fun ch => !(i.fifoValid ch || !s.descriptor.mask ch)

def fifoPublished : Bool := settleCycles ≤ s.settleCount

def settle : BitVec 8 :=
  if s.prefetchEnter || !i.safe || !s.lanesPublished i then 0
  else if s.settleCount < settleCycles then s.settleCount + 1
  else s.settleCount

/-! ## The wiring -/

/-- `stream_clear_dac` -/
def streamClear : Bool :=
  i.beginDac || i.abortDac || i.stopDac || i.pauseDac || s.controller.loopRestart ||
    decide (s.controller.state = .prefetch)

/-- The inputs of `u_dac_stream`. -/
def streamIn : WordsIn where
  control :=
    { playing := s.controller.dacGate
      clear := s.streamClear i
      channelMask := s.descriptor.mask
      totalBeats := s.descriptor.totalBeats
      fifoValid := i.fifoValid
      dacReady := i.dacReady }
  fifoData := i.fifoData

def anyFifoEmpty : Bool := DacStream.anyLane fun ch => !i.fifoValid ch && s.descriptor.mask ch

/-- The inputs of `u_controller`. -/
def controllerIn : ControllerIn where
  beginCmd := i.beginDac
  commitCmd := i.commitDac
  playCmd := i.playDac
  pauseCmd := i.pauseDac
  stopCmd := i.stopDac
  abortCmd := i.abortDac
  triggerEvent := i.trigger
  prefetchDone := i.safe && s.fifoPublished settleCycles && s.prefetchState
  fifoSafe := i.safe
  fifoEmpty := s.stream.underflow (s.streamIn i).control || s.anyFifoEmpty i
  axiError := i.error
  beatValid := s.stream.beatFire (s.streamIn i).control
  beatReady := true
  beatLast := s.stream.beatLast (s.streamIn i).control
  loopCount := s.descriptor.loopCount

def loadDescriptor : DacPath :=
  if i.abortDac then
    { s with
      descriptor := ⟨fun _ => false, 0, 0⟩
      descriptorLoaded := false
      commitPending := false }
  else
    { s with
      descriptor := if i.descriptorValid then i.descriptor else s.descriptor
      descriptorLoaded := i.descriptorValid || (s.descriptorLoaded && !i.commitDac)
      commitPending := if s.controllerCommit then false else i.commitDac || s.commitPending }

def step : DacPath :=
  { s.loadDescriptor i with
    controller := s.controller.step (s.controllerIn settleCycles i)
    stream := s.stream.step (s.streamIn i).control
    prefetchState := s.controller.state = .prefetch
    settleCount := s.settle settleCycles i }

/-! ## The lanes -/

def dacValid (ch : Channel) : Bool := s.stream.dacValid (s.streamIn i).control ch

def dacData (ch : Channel) : BitVec 256 := s.stream.dacData (s.streamIn i) ch

def dacLast (ch : Channel) : Bool := s.stream.dacLast (s.streamIn i) ch

def fifoRead (ch : Channel) : Bool := s.stream.fifoReady (s.streamIn i) ch

end DacPath

def dacPath (settleCycles : BitVec 8) : Clocked.Machine DacPathIn DacPath where
  reset := .reset
  step := DacPath.step settleCycles

end Xczu47dr.Playback
