import Mathlib.Data.BitVec
import Mathlib.Tactic.LinearCombination
import Mathlib.Tactic.Ring
import Xczu47dr.Clocked.Machine

/-! # The carrier correction

The angle `iq_event_phase_rotator` turns the samples of an event by.  An accumulator
follows the NCO; the beats since the event are taken off it again, and the part of a
beat is added.  The epochs are subtracted in the 48 bits of the product.
-/

namespace Xczu47dr.Tdc

open Clocked Machine

/-- The registers the angle goes through. -/
structure PhaseRotator where
  frequencyMeta : BitVec 48
  frequencySync : BitVec 48
  frequencyHold : BitVec 48
  accumulator : BitVec 48
  epochProduct : BitVec 48
  accumulatorSnapshot : BitVec 48
  fineProduct : BitVec 63
  calculationValid : BitVec 3
  correctionAngle : BitVec 48
  deriving DecidableEq

/-- What the angle depends on at one clock edge. -/
structure RotatorIn where
  clear : Bool
  configValid : Bool
  armed : Bool
  frequencyWord : BitVec 48
  currentEpoch : BitVec 32
  eventEpoch : BitVec 32
  /-- `event_phase_10ps` -/
  eventPhase : BitVec 11

namespace PhaseRotator

def reset : PhaseRotator := ⟨0, 0, 0, 0, 0, 0, 0, 0, 0⟩

variable (s : PhaseRotator) (i : RotatorIn)

/-- `fine_phase`, whose division truncates toward zero. -/
def finePhase : BitVec 63 := s.fineProduct.sdiv 125

/-- The phase the accumulator gains in a beat. -/
def gain : BitVec 48 := s.frequencyHold <<< 7

def step : PhaseRotator where
  frequencyMeta := i.frequencyWord
  frequencySync := s.frequencyMeta
  frequencyHold := if !i.armed && s.frequencySync != s.frequencyHold then s.frequencySync else s.frequencyHold
  accumulator := if !i.armed && s.frequencySync != s.frequencyHold then 0 else s.accumulator + s.gain
  calculationValid := if i.clear then 0 else s.calculationValid.shiftConcat i.configValid
  epochProduct :=
    if i.configValid then s.gain * (i.currentEpoch.zeroExtend 48 - i.eventEpoch.zeroExtend 48) else s.epochProduct
  fineProduct :=
    if i.configValid then s.frequencyHold.signExtend 63 * (0#1 ++ i.eventPhase ++ 0#3).signExtend 63
    else s.fineProduct
  accumulatorSnapshot := if i.configValid then s.accumulator else s.accumulatorSnapshot
  correctionAngle :=
    if s.calculationValid.getLsbD 0 then
      -(s.accumulatorSnapshot - s.epochProduct + s.finePhase.extractLsb' 0 48)
    else s.correctionAngle

end PhaseRotator

def phaseRotator : Machine RotatorIn PhaseRotator where
  reset := .reset
  step := PhaseRotator.step

/-! ## An event and its configuration -/

/-- From the beat of an event the rotator stays armed until the event is configured; the
    epoch counter goes on by one with every beat. -/
structure Schedule (epoch : BitVec 32) (phase : BitVec 11) where
  waiting : List RotatorIn
  config : RotatorIn
  next : RotatorIn
  armed : ∀ i ∈ waiting, i.armed = true
  configValid : config.configValid = true
  goesOn : config.clear = false
  currentEpoch : config.currentEpoch = epoch + BitVec.ofNat 32 waiting.length
  eventEpoch : config.eventEpoch = epoch
  eventPhase : config.eventPhase = phase

namespace Schedule

variable {epoch : BitVec 32} {phase : BitVec 11} (c : Schedule epoch phase)

/-- The angle for the event, two clock edges after its configuration begins. -/
def correctionAngle (s : PhaseRotator) : BitVec 48 :=
  (phaseRotator.run s (c.waiting ++ [c.config, c.next])).correctionAngle

/-- How often the epoch counter wraps around from the event to the configuration. -/
def wraps : Nat := (epoch.toNat + c.waiting.length) / 2 ^ 32

end Schedule

namespace PhaseRotator

variable {s : PhaseRotator}

/-- Minus the phase at the event: that of the accumulator in its beat, and
    `frequency * 128 * phase / 2000` truncated toward zero. -/
def eventAngle (s : PhaseRotator) (phase : BitVec 11) : BitVec 48 :=
  -(s.accumulator + BitVec.ofInt 48 ((s.frequencyHold.toInt * 128 * phase.toNat).tdiv 2000))

/-- While armed the frequency stays, and the accumulator gains the same in every beat. -/
theorem run_armed {is : List RotatorIn} (armed : ∀ i ∈ is, i.armed = true) :
    (phaseRotator.run s is).frequencyHold = s.frequencyHold ∧
      (phaseRotator.run s is).accumulator = s.accumulator + BitVec.ofNat 48 is.length * s.gain := by
  induction is generalizing s with
  | nil => exact ⟨rfl, by simp⟩
  | cons i is ih =>
    rw [List.forall_mem_cons] at armed
    obtain ⟨now, later⟩ := armed
    have hold : (s.step i).frequencyHold = s.frequencyHold := by
      rw [step, now]
      rfl
    have accumulator : (s.step i).accumulator = s.accumulator + s.gain := by
      rw [step, now]
      rfl
    have gain : (s.step i).gain = s.gain := by rw [PhaseRotator.gain, PhaseRotator.gain, hold]
    obtain ⟨kept, gained⟩ := @ih (s.step i) later
    refine ⟨kept.trans hold, gained.trans ?_⟩
    rw [accumulator, gain, List.length_cons, BitVec.ofNat_add, show BitVec.ofNat 48 1 = 1 from rfl]
    ring

/-- The part of a beat, in the phase of the carrier. -/
theorem fine_eq (f : BitVec 48) (phase : BitVec 11) :
    ((f.signExtend 63 * (0#1 ++ phase ++ 0#3).signExtend 63).sdiv 125).extractLsb' 0 48 =
      BitVec.ofInt 48 ((f.toInt * 128 * phase.toNat).tdiv 2000) := by
  have low := @BitVec.le_toInt 48 f
  have high := @BitVec.toInt_lt 48 f
  have short := phase.isLt
  have widened : (f.signExtend 63).toInt = f.toInt := BitVec.toInt_signExtend_of_le (by decide)
  have number : (0#1 ++ phase ++ 0#3).toNat = 8 * phase.toNat := by
    rw [BitVec.toNat_append, BitVec.toNat_append]
    change (0 <<< 11 ||| phase.toNat) <<< 3 ||| 0 = _
    rw [Nat.or_zero, Nat.zero_shiftLeft, Nat.zero_or, Nat.shiftLeft_eq]
    omega
  have scaled : ((0#1 ++ phase ++ 0#3).signExtend 63).toInt = 8 * phase.toNat := by
    rw [BitVec.toInt_signExtend_of_le (by decide), BitVec.toInt_eq_toNat_of_lt (by omega), number]
    rfl
  have bounded : (f.toInt * (8 * phase.toNat)).natAbs ≤ 2 ^ 47 * (8 * 2 ^ 11) := by
    rw [Int.natAbs_mul]
    exact Nat.mul_le_mul (by omega) (by omega)
  have product : (f.signExtend 63 * (0#1 ++ phase ++ 0#3).signExtend 63).toInt = f.toInt * (8 * phase.toNat) := by
    rw [BitVec.toInt_mul, widened, scaled]
    exact Int.bmod_eq_of_le (by omega) (by omega)
  have reduced : (f.toInt * 128 * phase.toNat).tdiv 2000 = (f.toInt * (8 * phase.toNat)).tdiv 125 := by
    rw [show f.toInt * 128 * phase.toNat = 16 * (f.toInt * (8 * phase.toNat)) by ring]
    exact Int.mul_tdiv_mul_of_pos _ 125 (by decide : (0 : Int) < 16)
  have quotient : ((f.signExtend 63 * (0#1 ++ phase ++ 0#3).signExtend 63).sdiv 125).toInt =
      (f.toInt * (8 * phase.toNat)).tdiv 125 := by
    have short : ((f.toInt * (8 * phase.toNat)).tdiv 125).natAbs ≤ (f.toInt * (8 * phase.toNat)).natAbs :=
      Int.natAbs_tdiv_le_natAbs ..
    rw [BitVec.toInt_sdiv, product, show (125 : BitVec 63).toInt = 125 by decide]
    exact Int.bmod_eq_of_le (by omega) (by omega)
  rw [reduced, ← quotient]
  apply BitVec.eq_of_toNat_eq
  rw [BitVec.extractLsb'_toNat, BitVec.toNat_ofInt, Nat.shiftRight_zero, BitVec.toInt_eq_toNat_cond]
  split <;> omega

theorem step_correctionAngle {i : RotatorIn} (valid : s.calculationValid.getLsbD 0 = true) : (s.step i).correctionAngle =
    -(s.accumulatorSnapshot - s.epochProduct + s.finePhase.extractLsb' 0 48) := by
  rw [step, valid]
  rfl

theorem correctionAngle_eq {epoch : BitVec 32} {phase : BitVec 11} (c : Schedule epoch phase) :
    c.correctionAngle s = -(s.accumulator + BitVec.ofNat 48 c.waiting.length * s.gain -
      s.gain * ((epoch + BitVec.ofNat 32 c.waiting.length).zeroExtend 48 - epoch.zeroExtend 48) +
        BitVec.ofInt 48 ((s.frequencyHold.toInt * 128 * phase.toNat).tdiv 2000)) := by
  obtain ⟨hold, accumulator⟩ := @run_armed s c.waiting c.armed
  have gain : (phaseRotator.run s c.waiting).gain = s.gain := by rw [PhaseRotator.gain, PhaseRotator.gain, hold]
  have scheduled : ((phaseRotator.run s c.waiting).step c.config).calculationValid.getLsbD 0 = true := by
    rw [step, c.goesOn, c.configValid]
    simp [BitVec.shiftConcat]
  have product : ((phaseRotator.run s c.waiting).step c.config).epochProduct =
      s.gain * ((epoch + BitVec.ofNat 32 c.waiting.length).zeroExtend 48 - epoch.zeroExtend 48) := by
    rw [step, c.configValid, gain, c.currentEpoch, c.eventEpoch]
    rfl
  have snapshot : ((phaseRotator.run s c.waiting).step c.config).accumulatorSnapshot =
      s.accumulator + BitVec.ofNat 48 c.waiting.length * s.gain := by
    rw [step, c.configValid, accumulator]
    rfl
  have fine : ((phaseRotator.run s c.waiting).step c.config).fineProduct =
      s.frequencyHold.signExtend 63 * (0#1 ++ phase ++ 0#3).signExtend 63 := by
    rw [step, c.configValid, hold, c.eventPhase]
    rfl
  rw [Schedule.correctionAngle, run_append]
  refine (step_correctionAngle scheduled).trans ?_
  rw [product, snapshot, finePhase, fine, fine_eq]

/-- The beats that the product loses: all those of the epochs that have wrapped around. -/
theorem beats_eq {epoch : BitVec 32} {phase : BitVec 11} (c : Schedule epoch phase) :
    BitVec.ofNat 48 c.waiting.length - ((epoch + BitVec.ofNat 32 c.waiting.length).zeroExtend 48 - epoch.zeroExtend 48) =
      BitVec.ofNat 48 (2 ^ 32 * c.wraps) := by
  have after : (epoch + BitVec.ofNat 32 c.waiting.length).zeroExtend 48 + BitVec.ofNat 48 (2 ^ 32 * c.wraps) =
      epoch.zeroExtend 48 + BitVec.ofNat 48 c.waiting.length := by
    apply BitVec.eq_of_toNat_eq
    have below := epoch.isLt
    simp only [BitVec.toNat_add, BitVec.toNat_setWidth, BitVec.toNat_ofNat, Schedule.wraps]
    omega
  rw [sub_sub_eq_add_sub, add_comm, ← after]
  ring

theorem gain_mul_eq_zero (s : PhaseRotator) (n : Nat) :
    s.gain * BitVec.ofNat 48 (2 ^ 32 * n) = 0 ↔ 2 ^ 9 ∣ s.frequencyHold.toNat * n := by
  have scaled : s.frequencyHold.toNat * 2 ^ 7 * (2 ^ 32 * n) = 2 ^ 39 * (s.frequencyHold.toNat * n) := by ring
  rw [← BitVec.toNat_inj, BitVec.toNat_mul, gain, BitVec.toNat_shiftLeft, BitVec.toNat_ofNat, Nat.shiftLeft_eq,
    ← Nat.mul_mod, scaled]
  change _ = 0 ↔ _
  rw [← Nat.dvd_iff_mod_eq_zero, show 2 ^ 48 = 2 ^ 39 * 2 ^ 9 from rfl]
  exact Nat.mul_dvd_mul_iff_left (by decide)

theorem correctionAngle_iff {epoch : BitVec 32} {phase : BitVec 11} (c : Schedule epoch phase) :
    c.correctionAngle s = s.eventAngle phase ↔ 2 ^ 9 ∣ s.frequencyHold.toNat * c.wraps := by
  rw [correctionAngle_eq, eventAngle, neg_inj, add_left_inj, ← gain_mul_eq_zero, ← beats_eq]
  constructor
  · intro same
    linear_combination same
  · intro lost
    linear_combination lost

end PhaseRotator

/-- Both angles are the angle of the event if and only if neither configuration loses
    a part of a turn to the epochs that have wrapped around. -/
theorem correction_event_only_iff (s : PhaseRotator) {epoch : BitVec 32} {phase : BitVec 11}
    (c d : Schedule epoch phase) :
    (c.correctionAngle s = d.correctionAngle s ∧ c.correctionAngle s = s.eventAngle phase) ↔
      2 ^ 9 ∣ s.frequencyHold.toNat * c.wraps ∧ 2 ^ 9 ∣ s.frequencyHold.toNat * d.wraps := by
  rw [← PhaseRotator.correctionAngle_iff, ← PhaseRotator.correctionAngle_iff]
  constructor
  · rintro ⟨same, angle⟩
    exact ⟨angle, same.symm.trans angle⟩
  · rintro ⟨angle, other⟩
    exact ⟨angle.trans other.symm, angle⟩

def unitBeat (armed : Bool) : RotatorIn where
  clear := false
  configValid := false
  armed := armed
  frequencyWord := 1
  currentEpoch := 0
  eventEpoch := 0
  eventPhase := 0

/-- The last event before the epoch counter wraps around, configured `n` beats later. -/
def lastEpoch (n : Nat) : Schedule 0xFFFFFFFF 0 where
  waiting := List.replicate n (unitBeat true)
  config := { unitBeat true with
    configValid := true
    currentEpoch := 0xFFFFFFFF + BitVec.ofNat 32 n
    eventEpoch := 0xFFFFFFFF }
  next := unitBeat true
  armed i among := by rw [(List.mem_replicate.mp among).2]; rfl
  configValid := rfl
  goesOn := rfl
  currentEpoch := by rw [List.length_replicate]
  eventEpoch := rfl
  eventPhase := rfl

/-- Its angle depends on the beat it is configured in. -/
theorem lastEpoch_shifts :
    let s := phaseRotator.run .reset [unitBeat false, unitBeat false, unitBeat false]
    (lastEpoch 0).correctionAngle s = s.eventAngle 0 ∧ (lastEpoch 1).correctionAngle s ≠ s.eventAngle 0 := by
  decide

end Xczu47dr.Tdc
