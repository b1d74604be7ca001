import Mathlib.Tactic.Common
import Mathlib.Tactic.SplitIfs
import Xczu47dr.Clocked.Machine

/-! # The compensating trigger

`tdc_compensating_trigger`: an event is admitted against the beat counter of its
capture, its launch is scheduled `TARGET_BEATS` later, and the part of a beat that
is left over becomes a sample delay and a fractional phase.
-/

namespace Xczu47dr.Tdc

/-- The inputs of `tdc_compensating_trigger` other than `current_epoch`. -/
structure TriggerIn where
  clear : Bool
  enable : Bool
  calibrated : Bool
  referenceReady : Bool
  prepared : Bool
  sourceRunning : Bool
  outputBusy : Bool
  sourceDone : Bool
  loopEnable : Bool
  runtimeFault : Bool
  clipPulse : BitVec 8
  eventValid : Bool
  eventGood : Bool
  eventEpoch : BitVec 32
  /-- `event_phase_10ps`, 11 bits -/
  eventPhase : Nat
  /-- `phase_offset_10ps`, signed -/
  phaseOffset : Int
  clearStatistics : Bool
  deriving DecidableEq

namespace TriggerIn

variable (i : TriggerIn)

/-- Eighteen signed bits hold every sum of the two operands. -/
def adjustedPhase : Int := i.eventPhase + i.phaseOffset

def negativePhase : Bool := i.adjustedPhase < 0

def overflowPhase : Bool := 2000 ≤ i.adjustedPhase

def normalizedPhase : Nat :=
  ((if i.negativePhase then i.adjustedPhase + 2000
    else if i.overflowPhase then i.adjustedPhase - 2000
    else i.adjustedPhase) % 2 ^ 18).toNat

def normalizedEpoch : BitVec 32 :=
  if i.negativePhase then i.eventEpoch - 1
  else if i.overflowPhase then i.eventEpoch + 1
  else i.eventEpoch

/-- One IQ sample is 250 units of 10 ps, and 64 steps. -/
def phaseQuantized : Nat := (i.normalizedPhase * 64 + 125) % 2 ^ 24 / 250

def targetEpoch (targetBeats : Nat) : BitVec 32 :=
  i.normalizedEpoch + BitVec.ofNat 32 targetBeats + if i.phaseQuantized = 512 then 1 else 0

/-- `runtime_fault || !reference_ready || !calibrated` -/
def unfit : Bool := i.runtimeFault || !i.referenceReady || !i.calibrated

end TriggerIn

/-- The registers of `tdc_compensating_trigger`. -/
structure CompensatingTrigger where
  launch : Bool
  configValid : Bool
  /-- `delay_samples`, 3 bits -/
  delaySamples : Nat
  /-- `fractional_phase`, 6 bits -/
  fractionalPhase : Nat
  pending : Bool
  active : Bool
  fault : Bool
  acceptedCount : BitVec 32
  completedCount : BitVec 32
  rejectedCount : BitVec 32
  lateCount : BitVec 32
  faultBits : BitVec 32
  clippedChannels : BitVec 8
  acceptedEpoch : BitVec 32
  /-- `accepted_phase_10ps`, 11 bits -/
  acceptedPhase : Nat
  preparedEpoch : BitVec 32
  deadline : BitVec 32
  preparedPrevious : Bool
  draining : Bool
  sawSource : Bool
  /-- `prepared_age`, 6 bits -/
  preparedAge : Nat
  deriving DecidableEq

namespace CompensatingTrigger

def reset : CompensatingTrigger where
  launch := false
  configValid := false
  delaySamples := 0
  fractionalPhase := 0
  pending := false
  active := false
  fault := false
  acceptedCount := 0
  completedCount := 0
  rejectedCount := 0
  lateCount := 0
  faultBits := 0
  clippedChannels := 0
  acceptedEpoch := 0
  acceptedPhase := 0
  preparedEpoch := 0
  deadline := 0
  preparedPrevious := false
  draining := false
  sawSource := false
  preparedAge := 0

variable (targetBeats : Nat) (current : BitVec 32) (s : CompensatingTrigger) (i : TriggerIn)

def admissionEpoch : BitVec 32 := if s.preparedPrevious then s.preparedEpoch else current

def eventAfterPrepare : Bool :=
  decide (32 ≤ s.preparedAge) || decide (0 ≤ (i.eventEpoch - s.admissionEpoch current).toInt)

def rejects : Bool :=
  !i.prepared || s.active || s.pending || !i.eventGood || !s.eventAfterPrepare current i

/-- An event whose launch would come too soon. -/
def late : Bool := decide ((i.targetEpoch targetBeats - current).toInt < 3)

/-- What every clock edge does first: the pulses fall, the age of the session is
    counted, clips are collected, and the statistics may be cleared. -/
def sample : CompensatingTrigger :=
  let t := { s with
    launch := false
    configValid := false
    preparedPrevious := i.prepared
    preparedAge := if !i.prepared then 0 else if s.preparedAge ≠ 63 then s.preparedAge + 1 else s.preparedAge
    preparedEpoch := if i.prepared && !s.preparedPrevious then current else s.preparedEpoch
    clippedChannels := s.clippedChannels ||| i.clipPulse }
  if i.clearStatistics then
    { t with
      acceptedCount := 0
      completedCount := 0
      rejectedCount := 0
      lateCount := 0
      faultBits := 0
      clippedChannels := 0 }
  else t

/-- The answer to an event.  `t` is what the clock edge has assigned so far. -/
def admitRequest (t : CompensatingTrigger) : CompensatingTrigger :=
  if i.eventValid then
    if s.rejects current i then { t with rejectedCount := s.rejectedCount + 1 }
    else if late targetBeats current i then
      { t with
        rejectedCount := s.rejectedCount + 1
        lateCount := s.lateCount + 1 }
    else
      { t with
        deadline := i.targetEpoch targetBeats
        delaySamples := i.phaseQuantized / 64 % 8
        fractionalPhase := i.phaseQuantized % 64
        configValid := true
        pending := true
        active := true
        sawSource := false
        draining := false
        acceptedCount := s.acceptedCount + 1
        acceptedEpoch := i.normalizedEpoch
        acceptedPhase := i.normalizedPhase % 2 ^ 11 }
  else t

/-- The beat before the deadline, in which the launch is registered. -/
def due : Bool := s.pending && decide (current = s.deadline - 1)

def overdue : Bool := !s.due current && s.pending && decide (0 ≤ (current - s.deadline).toInt)

def fire (t : CompensatingTrigger) : CompensatingTrigger :=
  if s.due current then { t with launch := true, pending := false }
  else if s.overdue current then
    { t with
      pending := false
      active := false
      fault := true
      faultBits := s.faultBits ||| 4
      lateCount := s.lateCount + 1 }
  else t

/-- The session that was launched runs, is done, and drains. -/
def finish (t : CompensatingTrigger) : CompensatingTrigger :=
  let t := if s.active && i.sourceRunning then { t with sawSource := true } else t
  let t := if s.active && s.sawSource && i.sourceDone && !i.loopEnable then { t with draining := true } else t
  if s.active && s.draining && !i.sourceRunning && !i.outputBusy then
    { t with
      active := false
      draining := false
      sawSource := false
      completedCount := s.completedCount + 1 }
  else t

/-- `pending`, `active`, `draining` and `saw_source` fall. -/
def release (t : CompensatingTrigger) : CompensatingTrigger :=
  { t with pending := false, active := false, draining := false, sawSource := false }

def step : CompensatingTrigger :=
  let t := s.sample current i
  if i.clear then { t.release with fault := false }
  else if i.enable && i.unfit then
    if s.active || s.pending then
      { t.release with
        fault := true
        faultBits := s.faultBits ||| if i.runtimeFault then 2 else 1 }
    else t.release
  else if i.enable && !s.fault then s.finish i (s.fire current (s.admitRequest targetBeats current i t))
  else if !i.enable then t.release
  else t

/-- Nothing keeps the trigger from serving events and launches. -/
def serving : Bool := !i.clear && i.enable && !i.unfit && !s.fault

/-- An event is accepted at this clock edge. -/
def accepts : Bool :=
  s.serving i && i.eventValid && !s.rejects current i && !late targetBeats current i

/-- The late-deadline branch is taken at this clock edge. -/
def missesDeadline : Bool := s.serving i && s.overdue current

/-! ## What one clock edge does -/

variable {targetBeats current s i}

theorem finish_idle (t : CompensatingTrigger) (idle : s.active = false) : s.finish i t = t := by
  simp [finish, idle]

theorem finish_eq (t : CompensatingTrigger) : ∃ active draining sawSource completedCount,
    s.finish i t = { t with
      active := active, draining := draining, sawSource := sawSource, completedCount := completedCount } := by
  unfold finish
  dsimp only
  split_ifs <;> exact ⟨_, _, _, _, rfl⟩

theorem fire_resting (t : CompensatingTrigger) (resting : s.pending = false) : s.fire current t = t := by
  simp [fire, due, overdue, resting]

theorem sample_fields (current : BitVec 32) (s : CompensatingTrigger) (i : TriggerIn) :
    (s.sample current i).launch = false ∧ (s.sample current i).configValid = false ∧
      (s.sample current i).pending = s.pending ∧ (s.sample current i).active = s.active ∧
      (s.sample current i).fault = s.fault ∧ (s.sample current i).deadline = s.deadline := by
  unfold sample
  dsimp only
  split_ifs <;> exact ⟨rfl, rfl, rfl, rfl, rfl, rfl⟩

theorem step_stopped (targetBeats : Nat) (current : BitVec 32) (stopped : s.serving i = false) :
    (s.step targetBeats current i).configValid = false ∧ (s.step targetBeats current i).launch = false ∧
      (s.step targetBeats current i).deadline = s.deadline ∧
      ((s.step targetBeats current i).pending = true → s.pending = true ∧ s.fault = true) := by
  obtain ⟨launch, configValid, pending, -, fault, deadline⟩ := sample_fields current s i
  rw [step]
  dsimp only
  split_ifs with clear unfit held runtimeFault running disabled
  · exact ⟨configValid, launch, deadline, Bool.noConfusion⟩
  · exact ⟨configValid, launch, deadline, Bool.noConfusion⟩
  · exact ⟨configValid, launch, deadline, Bool.noConfusion⟩
  · exact ⟨configValid, launch, deadline, Bool.noConfusion⟩
  · simp_all [serving]
  · exact ⟨configValid, launch, deadline, Bool.noConfusion⟩
  · refine ⟨configValid, launch, deadline, fun waits => ⟨pending ▸ waits, ?_⟩⟩
    simp_all

theorem step_serving (serving : s.serving i = true) :
    s.step targetBeats current i =
      s.finish i (s.fire current (s.admitRequest targetBeats current i (s.sample current i))) := by
  simp only [CompensatingTrigger.serving, Bool.and_eq_true, Bool.not_eq_true'] at serving
  obtain ⟨⟨⟨clear, enable⟩, fit⟩, fault⟩ := serving
  simp [step, clear, enable, fit, fault]

theorem accepts_iff : s.accepts targetBeats current i = true ↔
    s.serving i = true ∧ i.eventValid = true ∧ s.rejects current i = false ∧
      late targetBeats current i = false := by
  simp [accepts, and_assoc]

theorem rejects_eq_false : s.rejects current i = false ↔
    i.prepared = true ∧ s.active = false ∧ s.pending = false ∧ i.eventGood = true ∧
      s.eventAfterPrepare current i = true := by
  simp [rejects, and_assoc]

/-- What the accepting clock edge assigns. -/
theorem step_accepting (accepts : s.accepts targetBeats current i = true) :
    s.step targetBeats current i = { s.sample current i with
      deadline := i.targetEpoch targetBeats
      delaySamples := i.phaseQuantized / 64 % 8
      fractionalPhase := i.phaseQuantized % 64
      configValid := true
      pending := true
      active := true
      sawSource := false
      draining := false
      acceptedCount := s.acceptedCount + 1
      acceptedEpoch := i.normalizedEpoch
      acceptedPhase := i.normalizedPhase % 2 ^ 11 } := by
  obtain ⟨serving, valid, admitted, in_time⟩ := accepts_iff.mp accepts
  obtain ⟨-, idle, resting, -, -⟩ := rejects_eq_false.mp admitted
  rw [step_serving serving, finish_idle _ idle, fire_resting _ resting, admitRequest, if_pos valid, admitted, in_time]
  rfl

theorem admit_declined (declined : s.accepts targetBeats current i = false) (serving : s.serving i = true)
    (t : CompensatingTrigger) : ∃ rejectedCount lateCount,
    s.admitRequest targetBeats current i t = { t with rejectedCount := rejectedCount, lateCount := lateCount } := by
  unfold admitRequest
  split_ifs with valid rejected late
  · exact ⟨_, _, rfl⟩
  · exact ⟨_, _, rfl⟩
  · simp [accepts, serving, valid, rejected, late] at declined
  · exact ⟨_, _, rfl⟩

/-- A clock edge that accepts nothing launches what is due and keeps the rest waiting. -/
theorem step_declining (declined : s.accepts targetBeats current i = false) (serving : s.serving i = true)
    (in_time : s.overdue current = false) :
    (s.step targetBeats current i).configValid = false ∧
      (s.step targetBeats current i).launch = s.due current ∧
      (s.step targetBeats current i).deadline = s.deadline ∧
      (s.step targetBeats current i).pending = (s.pending && !s.due current) ∧
      (s.step targetBeats current i).fault = s.fault := by
  rw [step_serving serving]
  obtain ⟨rejectedCount, lateCount, answered⟩ := admit_declined declined serving (s.sample current i)
  obtain ⟨active, draining, sawSource, completedCount, finished⟩ :=
    finish_eq (s := s) (i := i) (s.fire current (s.admitRequest targetBeats current i (s.sample current i)))
  obtain ⟨launch, configValid, pending, -, fault, deadline⟩ := sample_fields current s i
  rw [finished, answered, fire]
  split_ifs with due overdue
  · exact ⟨configValid, due.symm, deadline, by rw [due, Bool.not_true, Bool.and_false], fault⟩
  · rw [in_time] at overdue
    contradiction
  · refine ⟨configValid, launch.trans (eq_false_of_ne_true due).symm, deadline, ?_, fault⟩
    rw [eq_false_of_ne_true due, Bool.not_false, Bool.and_true]
    exact pending

/-- The session that was launched is over: it has run, is done and has drained. -/
def completes (s : CompensatingTrigger) (i : TriggerIn) : Bool :=
  s.active && s.draining && !i.sourceRunning && !i.outputBusy

/-- How a clock edge that accepts nothing follows the session that was launched. -/
theorem step_following (declined : s.accepts targetBeats current i = false) (serving : s.serving i = true)
    (in_time : s.overdue current = false) :
    (s.step targetBeats current i).active = (s.active && !s.completes i) ∧
      (s.step targetBeats current i).draining =
        ((s.draining || (s.active && s.sawSource && i.sourceDone && !i.loopEnable)) && !s.completes i) ∧
      (s.step targetBeats current i).sawSource =
        ((s.sawSource || (s.active && i.sourceRunning)) && !s.completes i) := by
  have followed : (s.sample current i).active = s.active ∧ (s.sample current i).draining = s.draining ∧
      (s.sample current i).sawSource = s.sawSource := by
    unfold sample
    cases i.clearStatistics <;> exact ⟨rfl, rfl, rfl⟩
  obtain ⟨active, draining, sawSource⟩ := followed
  obtain ⟨rejectedCount, lateCount, answered⟩ := admit_declined declined serving (s.sample current i)
  have fired : (s.fire current (s.admitRequest targetBeats current i (s.sample current i))).active = s.active ∧
      (s.fire current (s.admitRequest targetBeats current i (s.sample current i))).draining = s.draining ∧
      (s.fire current (s.admitRequest targetBeats current i (s.sample current i))).sawSource = s.sawSource := by
    rw [answered, fire, in_time, if_neg Bool.false_ne_true]
    split_ifs <;> exact ⟨active, draining, sawSource⟩
  rw [step_serving serving, finish, completes]
  obtain ⟨active, draining, sawSource⟩ := fired
  cases finishes : s.active && s.draining && !i.sourceRunning && !i.outputBusy with
  | true => simp
  | false =>
    rw [if_neg Bool.false_ne_true]
    split_ifs with drains sees sees <;> simp_all

/-- What the trigger knows of the session: whether there was one, its age, and the
    beat it began in. -/
def session (t : CompensatingTrigger) : Bool × Nat × BitVec 32 :=
  (t.preparedPrevious, t.preparedAge, t.preparedEpoch)

/-- Whatever else it does, a clock edge keeps count of the session. -/
theorem step_session_eq : (s.step targetBeats current i).session = (s.sample current i).session := by
  rw [step]
  dsimp only
  split_ifs with clear unfit held runtimeFault running disabled
  · rfl
  · rfl
  · rfl
  · rfl
  · obtain ⟨active, draining, sawSource, completedCount, finished⟩ :=
      finish_eq (s := s) (i := i) (s.fire current (s.admitRequest targetBeats current i (s.sample current i)))
    rw [finished, fire]
    split_ifs <;> rw [admitRequest] <;> split_ifs <;> rfl
  · rfl
  · rfl

theorem step_session (targetBeats : Nat) (current : BitVec 32) (s : CompensatingTrigger) (i : TriggerIn) :
    (s.step targetBeats current i).session = (i.prepared,
      if !i.prepared then 0 else if s.preparedAge ≠ 63 then s.preparedAge + 1 else s.preparedAge,
      if i.prepared && !s.preparedPrevious then current else s.preparedEpoch) := by
  rw [step_session_eq, sample]
  cases i.clearStatistics <;> rfl

end CompensatingTrigger

end Xczu47dr.Tdc
