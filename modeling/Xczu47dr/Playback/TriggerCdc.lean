import Xczu47dr.Clocked.Machine
import Xczu47dr.Playback.DacPath

/-! # The external trigger

`waveform_trigger_cdc`: a latch that a pulse of TRIG_2 sets at any time, and the
window in which an episode that has been captured is admitted; and the DAC side of
the playback path with it, as it is wired when the trigger does not come from the TDC.
-/

namespace Xczu47dr.Playback

open Clocked Machine

/-- TRIG_2 around an edge of the DAC clock. -/
structure PadIn where
  /-- TRIG_2 has been high since the last edge. -/
  pulsed : Bool
  /-- TRIG_2 is high at the edge. -/
  level : Bool
  /-- What the first register makes of a latch that has been set since the last edge. -/
  latchCaught : Bool
  /-- What the first register makes of TRIG_2 itself. -/
  rawCaught : Bool

structure TriggerCdc where
  triggerLatch : Bool
  syncFf : BitVec 3
  rawSync : BitVec 3
  lowCycles : Nat
  waitQuietCycles : Nat
  waitHistory : BitVec 4
  armed : Bool
  triggerSeen : Bool
  triggerDropped : Bool
  triggerSeenCount : BitVec 32
  triggerDroppedCount : BitVec 32

namespace TriggerCdc

def reset : TriggerCdc where
  triggerLatch := false
  syncFf := 0
  rawSync := 0
  lowCycles := 0
  waitQuietCycles := 0
  waitHistory := 0
  armed := false
  triggerSeen := false
  triggerDropped := false
  triggerSeenCount := 0
  triggerDroppedCount := 0

variable (s : TriggerCdc) (waitTrigger : Bool) (i : PadIn)

def lowQualified : Bool := s.lowCycles == 4

def captured : Bool := s.armed && s.syncFf.getLsbD 2

def waitQualified : Bool := waitTrigger && s.waitQuietCycles == 5

def admitted : Bool := s.waitQualified waitTrigger && s.waitHistory.getLsbD 3

def triggerEvent : Bool := s.captured && s.admitted waitTrigger

/-- Both chains of registers are low, and the pad has been. -/
def quiet : Bool := s.lowQualified && !s.syncFf.getLsbD 2 && !s.rawSync.getLsbD 2

def step : TriggerCdc where
  triggerLatch := i.level || !(!s.armed && s.lowQualified) && (s.triggerLatch || i.pulsed)
  syncFf := s.syncFf.extractLsb' 0 2 ++ BitVec.ofBool (s.triggerLatch || i.pulsed && i.latchCaught)
  rawSync := s.rawSync.extractLsb' 0 2 ++ BitVec.ofBool i.rawCaught
  lowCycles := if s.rawSync.getLsbD 2 then 0 else if s.lowQualified then s.lowCycles else (s.lowCycles + 1) % 2 ^ 3
  waitQuietCycles :=
    if !waitTrigger then 0
    else if s.waitQualified waitTrigger then s.waitQuietCycles
    else if s.armed && s.quiet then (s.waitQuietCycles + 1) % 2 ^ 4
    else 0
  waitHistory := s.waitHistory.extractLsb' 0 3 ++ BitVec.ofBool (s.waitQualified waitTrigger)
  armed := !s.captured && (s.armed || s.quiet)
  triggerSeen := s.captured
  triggerDropped := s.captured && !s.admitted waitTrigger
  triggerSeenCount := if s.captured then s.triggerSeenCount + 1 else s.triggerSeenCount
  triggerDroppedCount :=
    if s.captured && !s.admitted waitTrigger then s.triggerDroppedCount + 1 else s.triggerDroppedCount

/-- An episode is captured in one cycle, and the next one not before the latch is armed again. -/
theorem captured_once (captured : s.captured = true) : (s.step waitTrigger i).armed = false := by
  change (!s.captured && (s.armed || s.quiet)) = false
  rw [captured]
  rfl

end TriggerCdc

/-- The DAC side of the playback path and `u_trigger`. -/
structure TriggeredPath where
  trigger : TriggerCdc
  path : DacPath

namespace TriggeredPath

variable (settleCycles : BitVec 8) (s : TriggeredPath) (i : PadIn × DacPathIn)

/-- `state_dac == ST_WAIT_TRIGGER_DAC` -/
def waitTrigger : Bool := s.path.controller.state = .waitTrigger

/-- What the path samples, `launch_sync` being low. -/
def pathIn : DacPathIn := { i.2 with trigger := s.trigger.triggerEvent s.waitTrigger }

def step : TriggeredPath where
  trigger := s.trigger.step s.waitTrigger i.1
  path := s.path.step settleCycles (s.pathIn i)

end TriggeredPath

/-- The path outside of the TDC's mode, released from reset. -/
def triggeredPath (settleCycles : BitVec 8) : Machine (PadIn × DacPathIn) TriggeredPath where
  reset := ⟨.reset, .reset⟩
  step := TriggeredPath.step settleCycles

end Xczu47dr.Playback
