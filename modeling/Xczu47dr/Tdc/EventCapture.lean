import Mathlib.Tactic.Common
import Xczu47dr.Clocked.Wrapping

/-! # Timestamps of captured events

The last two stages of `tdc_event_capture`: the tap of a captured event is
looked up in the calibration table, the fine time is taken off the time of the
capture slot, and what falls before the beat belongs to the beat before it.
-/

namespace Xczu47dr.Tdc

/-- What the encoder hands over: `valid_s3` to `epoch_s3`, and a write to the
    calibration table. -/
structure CaptureIn where
  valid : Bool
  good : Bool
  overflow : Bool
  bubble : Bool
  tap : Fin 2048
  slot : Fin 4
  epoch : BitVec 32
  calibWrEn : Bool
  calibWrAddr : Fin 2048
  calibWrData : BitVec 16

/-- An event as it leaves the capture and crosses the FIFO. -/
structure TdcEvent where
  good : Bool
  overflow : Bool
  bubble : Bool
  epoch : BitVec 32
  /-- `event_phase_10ps`, 11 bits -/
  phase : Nat
  tap : Fin 2048
  deriving DecidableEq, Inhabited

/-- The registers of the two stages, `valid_s4` to `fine_s4` and `event_valid` to
    `event_tap`, and the calibration table. -/
structure EventCapture where
  calibration : Fin 2048 → BitVec 16
  validS4 : Bool
  goodS4 : Bool
  overflowS4 : Bool
  bubbleS4 : Bool
  tapS4 : Fin 2048
  slotTimeS4 : Nat
  epochS4 : BitVec 32
  fineS4 : BitVec 16
  eventValid : Bool
  event : TdcEvent

namespace EventCapture

/-- The initial table is `((i + 1) * 500) / TAPS`. -/
def reset : EventCapture where
  calibration := fun tap => BitVec.ofNat 16 ((tap + 1) * 500 / 2048)
  validS4 := false
  goodS4 := false
  overflowS4 := false
  bubbleS4 := false
  tapS4 := 0
  slotTimeS4 := 0
  epochS4 := 0
  fineS4 := 0
  eventValid := false
  event := ⟨false, false, false, 0, 0, 0⟩

variable (s : EventCapture) (i : CaptureIn)

/-- The four capture slots of a beat, in units of 10 ps. -/
def slotTime : Fin 4 → Nat
  | 0 => 0
  | 1 => 500
  | 2 => 1000
  | 3 => 1500

/-- `phase_difference`, signed 18 bits wide, which no operand exceeds. -/
def phaseDifference : Int := s.slotTimeS4 - s.fineS4.toNat

def calibrationInRange : Bool := s.fineS4.toNat ≤ 600

def timestamp : TdcEvent :=
  let trusted := s.goodS4 && s.calibrationInRange
  { good := trusted
    overflow := s.overflowS4 || (s.goodS4 && !s.calibrationInRange)
    bubble := s.bubbleS4
    tap := s.tapS4
    epoch := if trusted && decide (s.phaseDifference < 0) then s.epochS4 - 1 else s.epochS4
    phase :=
      if !trusted then 0
      else if s.phaseDifference < 0 then ((s.phaseDifference + 2000) % 2 ^ 11).toNat
      else (s.phaseDifference % 2 ^ 11).toNat }

def step : EventCapture where
  calibration := if i.calibWrEn then Function.update s.calibration i.calibWrAddr i.calibWrData else s.calibration
  validS4 := i.valid
  goodS4 := i.good
  overflowS4 := i.overflow
  bubbleS4 := i.bubble
  tapS4 := i.tap
  slotTimeS4 := slotTime i.slot
  epochS4 := i.epoch
  fineS4 := s.calibration i.tap
  eventValid := s.validS4
  event := if s.validS4 then s.timestamp else s.event

end EventCapture

/-- A captured trigger: the beat and the slot in which the carry chain was
    sampled, and how long before that sample the edge arrived. -/
structure CapturedTrigger where
  beat : Int
  slot : Fin 4
  fine : Nat
  fine_le : fine ≤ 600

/-- When the trigger arrived, in units of 10 ps. -/
def CapturedTrigger.time (t : CapturedTrigger) : Int := 2000 * t.beat + 500 * (t.slot : Int) - t.fine

/-- `tdc_async_fifo` is read in every beat: it hands `t` over in beat `now`, less than
    half a turn of the beat counter after the capture. -/
def CapturedTrigger.Drained (t : CapturedTrigger) (now : Int) : Prop := now - t.time / 2000 < 2 ^ 31

/-- The event says in which beat `t` arrived, up to the wrap of the beat counter,
    and when in that beat. -/
structure TdcEvent.Stamps (e : TdcEvent) (t : CapturedTrigger) : Prop where
  good : e.good = true
  epoch : e.epoch = BitVec.ofInt 32 (t.time / 2000)
  phase : (e.phase : Int) = t.time % 2000

namespace EventCapture

variable {s : EventCapture} {i i' : CaptureIn}

theorem slotTime_eq (slot : Fin 4) : slotTime slot = 500 * (slot : Nat) := by
  revert slot
  decide

/-- The encoder hands over the capture of `t`. -/
structure Captures (s : EventCapture) (i : CaptureIn) (t : CapturedTrigger) : Prop where
  valid : i.valid = true
  good : i.good = true
  epoch : i.epoch = BitVec.ofInt 32 t.beat
  slot : i.slot = t.slot
  fine : (s.calibration i.tap).toNat = t.fine

/-- Two cycles after the encoder's capture of a trigger comes its timestamp. -/
theorem event_stamps {t : CapturedTrigger} (captured : Captures s i t) :
    ((s.step i).step i').eventValid = true ∧ ((s.step i).step i').event.Stamps t := by
  obtain ⟨valid, good, epoch, slot, fine⟩ := captured
  refine ⟨valid, ?_⟩
  have slot_lt := t.slot.isLt
  have fine_le := t.fine_le
  have in_range : (s.step i).calibrationInRange = true := by
    simpa [calibrationInRange, step, fine] using fine_le
  have trusted : ((s.step i).goodS4 && (s.step i).calibrationInRange) = true := by
    rw [in_range, Bool.and_true]
    exact good
  have difference : (s.step i).phaseDifference = 500 * (t.slot : Int) - t.fine := by
    simp [phaseDifference, step, slotTime_eq, slot, fine]
  have stamped : ((s.step i).step i').event = (s.step i).timestamp := if_pos valid
  have beat : (s.step i).epochS4 = BitVec.ofInt 32 t.beat := epoch
  rw [stamped]
  refine ⟨trusted, ?_, ?_⟩ <;>
    simp only [timestamp, trusted, difference, beat, Bool.true_and, decide_eq_true_eq, Bool.not_true,
      Bool.false_eq_true, if_false, CapturedTrigger.time]
  · split_ifs with before
    · rw [← Clocked.ofInt_one, ← Clocked.ofInt_sub]
      congr 1
      omega
    · congr 1
      omega
  · split_ifs with before
    · have narrow : (500 * (t.slot : Int) - t.fine + 2000) % 2 ^ 11 = 500 * (t.slot : Int) - t.fine + 2000 :=
        Int.emod_eq_of_lt (by omega) (by omega)
      rw [narrow]
      omega
    · have narrow : (500 * (t.slot : Int) - t.fine) % 2 ^ 11 = 500 * (t.slot : Int) - t.fine :=
        Int.emod_eq_of_lt (by omega) (by omega)
      rw [narrow]
      omega

end EventCapture

end Xczu47dr.Tdc
