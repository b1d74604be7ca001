import Xczu47dr.Tdc.CompensatingTrigger
import Xczu47dr.Tdc.EventCapture

/-! # Constant latency

The compensating trigger beside the beat counter of the DAC clock.  An accepted
event keeps its deadline ahead of the counter until the beat before it, in which
the launch is registered; so the launch is seen in the beat of the deadline, and
the late-deadline branch is never taken.
-/

namespace Xczu47dr.Tdc

/-- The beat counter `tdc_dac_epoch` and the trigger it drives. -/
structure BeatTrigger where
  epoch : BitVec 32
  trigger : CompensatingTrigger

namespace BeatTrigger

variable (targetBeats : Nat) (s : BeatTrigger) (i : TriggerIn)

def step : BeatTrigger where
  epoch := s.epoch + 1
  trigger := s.trigger.step targetBeats s.epoch i

/-- How far the deadline is ahead of the beat counter. -/
def ahead : Int := (s.trigger.deadline - s.epoch).toInt

end BeatTrigger

/-- The trigger, released from reset in beat `start`. -/
def beatTrigger (targetBeats : Nat) (start : Int) : Clocked.Machine TriggerIn BeatTrigger where
  reset := ⟨BitVec.ofInt 32 start, .reset⟩
  step s i := s.step targetBeats i

/-- Neither clear, nor a disable, nor a fault. -/
def TriggerIn.steady (i : TriggerIn) : Bool := !i.clear && i.enable && !i.unfit

/-! ## The launch beat, the sample delay and the fractional phase -/

/-- `step` is the multiple of 1/512 beat nearest to `time`, which is in units of
    1/2000 beat; of two it is the later. -/
def NearestStep (time step : Int) : Prop := 500 * step - 250 ≤ 128 * time ∧ 128 * time < 500 * step + 250

/-- The scheduler is offered the event `e`. -/
structure TriggerIn.Offers (i : TriggerIn) (e : TdcEvent) : Prop where
  good : i.eventGood = e.good
  epoch : i.eventEpoch = e.epoch
  phase : i.eventPhase = e.phase

namespace TriggerIn

variable {i : TriggerIn} {e : TdcEvent} {t : CapturedTrigger}

/-- Both wraps taken, the event's time with the offset is in normal form again. -/
theorem normalized (offers : i.Offers e) (stamps : e.Stamps t) (low : -1999 ≤ i.phaseOffset)
    (high : i.phaseOffset ≤ 1999) :
    i.normalizedEpoch = BitVec.ofInt 32 ((t.time + i.phaseOffset) / 2000) ∧
      (i.normalizedPhase : Int) = (t.time + i.phaseOffset) % 2000 := by
  have epoch : i.eventEpoch = BitVec.ofInt 32 (t.time / 2000) := offers.epoch.trans stamps.epoch
  have adjusted : i.adjustedPhase = t.time % 2000 + i.phaseOffset := by
    rw [adjustedPhase, offers.phase, stamps.phase]
  simp only [normalizedEpoch, normalizedPhase, negativePhase, overflowPhase, decide_eq_true_eq]
  split_ifs with negative overflow
  · refine ⟨?_, by omega⟩
    rw [epoch, ← Clocked.ofInt_one, ← Clocked.ofInt_sub]
    congr 1
    omega
  · refine ⟨?_, by omega⟩
    rw [epoch, ← Clocked.ofInt_one, ← BitVec.ofInt_add]
    congr 1
    omega
  · refine ⟨?_, by omega⟩
    rw [epoch]
    congr 1
    omega

theorem phaseQuantized_eq (phase_lt : i.normalizedPhase < 2000) :
    i.phaseQuantized = (i.normalizedPhase * 64 + 125) / 250 := by
  rw [phaseQuantized, Nat.mod_eq_of_lt (by omega)]

theorem phaseQuantized_le (phase_lt : i.normalizedPhase < 2000) : i.phaseQuantized ≤ 512 := by
  rw [phaseQuantized_eq phase_lt]
  omega

theorem targetEpoch_eq (targetBeats : Nat) (offers : i.Offers e) (stamps : e.Stamps t)
    (low : -1999 ≤ i.phaseOffset) (high : i.phaseOffset ≤ 1999) :
    i.targetEpoch targetBeats = BitVec.ofInt 32
      ((t.time + i.phaseOffset) / 2000 + targetBeats + if i.phaseQuantized = 512 then 1 else 0) := by
  obtain ⟨epoch, -⟩ := normalized offers stamps low high
  rw [targetEpoch, epoch, BitVec.ofInt_add, BitVec.ofInt_add, BitVec.ofInt_natCast]
  split_ifs <;> rfl

/-- The scheduled launch is `TARGET_BEATS` after the event, to the nearest step. -/
theorem launch_time (targetBeats : Nat) (offers : i.Offers e) (stamps : e.Stamps t) (low : -1999 ≤ i.phaseOffset)
    (high : i.phaseOffset ≤ 1999) : ∃ step, NearestStep (t.time + i.phaseOffset) step ∧
      512 * ((i.targetEpoch targetBeats).toNat : Int) + 64 * (i.phaseQuantized / 64 % 8 : Nat) +
        (i.phaseQuantized % 64 : Nat) ≡ 512 * targetBeats + step [ZMOD 512 * 2 ^ 32] := by
  obtain ⟨-, phase⟩ := normalized offers stamps low high
  have phase_lt : i.normalizedPhase < 2000 := by omega
  have quantized := phaseQuantized_eq phase_lt
  have at_most := phaseQuantized_le phase_lt
  refine ⟨512 * ((t.time + i.phaseOffset) / 2000) + i.phaseQuantized, ⟨by omega, by omega⟩, ?_⟩
  have target := targetEpoch_eq targetBeats offers stamps low high
  have counted := (Clocked.ofInt_toNat_modEq (w := 32)
    ((t.time + i.phaseOffset) / 2000 + targetBeats + if i.phaseQuantized = 512 then 1 else 0)).mul_left' (c := 512)
  rw [← target] at counted
  have parts : (64 * (i.phaseQuantized / 64 % 8 : Nat) + (i.phaseQuantized % 64 : Nat) : Int) =
      i.phaseQuantized - 512 * if i.phaseQuantized = 512 then 1 else 0 := by
    split_ifs <;> omega
  have together := counted.add_right (64 * (i.phaseQuantized / 64 % 8 : Nat) + (i.phaseQuantized % 64 : Nat) : Int)
  rw [← add_assoc] at together
  have same : 512 * ((t.time + i.phaseOffset) / 2000 + targetBeats + if i.phaseQuantized = 512 then 1 else 0 : Int) +
      (64 * (i.phaseQuantized / 64 % 8 : Nat) + (i.phaseQuantized % 64 : Nat)) =
      512 * targetBeats + (512 * ((t.time + i.phaseOffset) / 2000) + i.phaseQuantized) := by
    linarith only [parts]
  rwa [same] at together

end TriggerIn

namespace BeatTrigger

variable {targetBeats : Nat} {s : BeatTrigger} {i : TriggerIn}

/-! ## The deadline stays ahead -/

/-- A pending launch has its deadline ahead and no fault latched. -/
def Waiting (s : BeatTrigger) : Prop := s.trigger.pending = true → s.trigger.fault = false ∧ 0 < s.ahead

theorem due_iff : s.trigger.due s.epoch = true ↔ s.trigger.pending = true ∧ s.ahead = 1 := by
  rw [CompensatingTrigger.due, Bool.and_eq_true, decide_eq_true_eq, ahead, Clocked.toInt_sub_eq_one_iff (by decide)]

theorem not_overdue (waiting : s.Waiting) : s.trigger.overdue s.epoch = false := by
  rw [CompensatingTrigger.overdue]
  cases pending : s.trigger.pending with
  | false => rw [Bool.and_false, Bool.false_and]
  | true =>
    obtain ⟨-, positive⟩ := waiting pending
    have behind := Clocked.toInt_sub_comm_of_pos (by decide) _ _ positive
    have negative : ¬ 0 ≤ (s.epoch - s.trigger.deadline).toInt := by
      rw [behind]
      exact not_le.mpr (neg_neg_of_pos positive)
    rw [decide_eq_false negative, Bool.and_false]

theorem ahead_succ (same : (s.step targetBeats i).trigger.deadline = s.trigger.deadline) (ahead : 0 < s.ahead) :
    (s.step targetBeats i).ahead = s.ahead - 1 := by
  rw [BeatTrigger.ahead, same]
  exact Clocked.toInt_sub_succ (by decide) _ _ ahead

theorem serving_of_steady (steady : i.steady = true) (unlatched : s.trigger.fault = false) :
    s.trigger.serving i = true := by
  simpa [TriggerIn.steady, CompensatingTrigger.serving, unlatched] using steady

/-- The event accepted at this clock edge, if any. -/
def accepts (targetBeats : Nat) (s : BeatTrigger) (i : TriggerIn) : Bool :=
  s.trigger.accepts targetBeats s.epoch i

theorem accepted_ahead (accepted : s.accepts targetBeats i = true) :
    (s.step targetBeats i).ahead = (i.targetEpoch targetBeats - s.epoch).toInt - 1 ∧
      2 ≤ (s.step targetBeats i).ahead := by
  obtain ⟨-, -, -, in_time⟩ := CompensatingTrigger.accepts_iff.mp accepted
  simp only [CompensatingTrigger.late, decide_eq_false_iff_not, not_lt] at in_time
  have one_less : (s.step targetBeats i).ahead = (i.targetEpoch targetBeats - s.epoch).toInt - 1 := by
    rw [ahead, step, CompensatingTrigger.step_accepting accepted]
    exact Clocked.toInt_sub_succ (by decide) (i.targetEpoch targetBeats) s.epoch (by omega)
  omega

theorem waiting_step (waiting : s.Waiting) : (s.step targetBeats i).Waiting := by
  intro pending
  cases serving : s.trigger.serving i with
  | false =>
    obtain ⟨-, -, -, still⟩ := CompensatingTrigger.step_stopped targetBeats s.epoch serving
    obtain ⟨before, latched⟩ := still pending
    rw [(waiting before).1] at latched
    contradiction
  | true =>
    cases accepted : s.accepts targetBeats i with
    | true =>
      obtain ⟨-, positive⟩ := accepted_ahead accepted
      refine ⟨?_, by omega⟩
      obtain ⟨-, -, -, -, fault, -⟩ :=
        CompensatingTrigger.sample_fields s.epoch s.trigger i
      rw [step, CompensatingTrigger.step_accepting accepted]
      simp only [CompensatingTrigger.serving, Bool.and_eq_true, Bool.not_eq_true'] at serving
      exact fault.trans serving.2
    | false =>
      obtain ⟨-, -, same, kept, fault⟩ :=
        CompensatingTrigger.step_declining accepted serving (not_overdue waiting)
      change (s.trigger.step targetBeats s.epoch i).pending = true at pending
      rw [kept, Bool.and_eq_true, Bool.not_eq_true'] at pending
      obtain ⟨before, undue⟩ := pending
      obtain ⟨unlatched, positive⟩ := waiting before
      refine ⟨fault.trans unlatched, ?_⟩
      have apart : s.ahead ≠ 1 := by
        intro one
        rw [due_iff.mpr ⟨before, one⟩] at undue
        contradiction
      rw [ahead_succ same positive]
      omega

theorem declines_pending (targetBeats : Nat) (i : TriggerIn) (pending : s.trigger.pending = true) : s.accepts targetBeats i = false := by
  simp [accepts, CompensatingTrigger.accepts, CompensatingTrigger.rejects, pending]

/-- A pending launch in a steady cycle waits, or is registered in the beat before its deadline. -/
theorem pending_step (targetBeats : Nat) (waiting : s.Waiting) (pending : s.trigger.pending = true) (steady : i.steady = true) :
    (s.step targetBeats i).trigger.configValid = false ∧
      (s.step targetBeats i).trigger.deadline = s.trigger.deadline ∧
      ((s.step targetBeats i).trigger.launch = true ↔ s.ahead = 1) ∧
      ((s.step targetBeats i).trigger.pending = true ↔ s.ahead ≠ 1) := by
  obtain ⟨unlatched, -⟩ := waiting pending
  obtain ⟨quiet, launch, same, kept, -⟩ := CompensatingTrigger.step_declining
    (declines_pending targetBeats i pending) (serving_of_steady steady unlatched)
    (not_overdue waiting)
  have due : s.trigger.due s.epoch = true ↔ s.ahead = 1 := by
    rw [due_iff, and_iff_right pending]
  refine ⟨quiet, same, ?_, ?_⟩
  · change (s.trigger.step targetBeats s.epoch i).launch = true ↔ _
    rw [launch, due]
  · change (s.trigger.step targetBeats s.epoch i).pending = true ↔ _
    rw [kept, pending, Bool.true_and, Bool.not_eq_true', ← Bool.not_eq_true, due]

/-- `config_valid` tells of every accepted event. -/
theorem configValid_step (waiting : s.Waiting) :
    (s.step targetBeats i).trigger.configValid = s.accepts targetBeats i := by
  change (s.trigger.step targetBeats s.epoch i).configValid = _
  cases serving : s.trigger.serving i with
  | false =>
    rw [(CompensatingTrigger.step_stopped targetBeats s.epoch serving).1, accepts, CompensatingTrigger.accepts, serving]
    rfl
  | true =>
    cases accepted : s.accepts targetBeats i with
    | true => rw [CompensatingTrigger.step_accepting accepted]
    | false => rw [(CompensatingTrigger.step_declining accepted serving (not_overdue waiting)).1]

theorem launch_step (waiting : s.Waiting) (launch : (s.step targetBeats i).trigger.launch = true) :
    s.trigger.pending = true ∧ i.steady = true ∧ s.ahead = 1 := by
  change (s.trigger.step targetBeats s.epoch i).launch = true at launch
  cases serving : s.trigger.serving i with
  | false =>
    rw [(CompensatingTrigger.step_stopped targetBeats s.epoch serving).2.1] at launch
    contradiction
  | true =>
    cases accepted : s.accepts targetBeats i with
    | true =>
      obtain ⟨quiet, -⟩ := CompensatingTrigger.sample_fields s.epoch s.trigger i
      rw [CompensatingTrigger.step_accepting accepted] at launch
      exact Bool.noConfusion (quiet.symm.trans launch)
    | false =>
      obtain ⟨-, launched, -⟩ := CompensatingTrigger.step_declining accepted serving (not_overdue waiting)
      obtain ⟨pending, next⟩ := due_iff.mp (launched.symm.trans launch)
      simp only [CompensatingTrigger.serving, Bool.and_eq_true] at serving
      exact ⟨pending, by simpa [TriggerIn.steady] using serving.1, next⟩

/-- What is pending and was not just accepted was pending before. -/
theorem pending_before (waiting : s.Waiting) (declined : s.accepts targetBeats i = false)
    (pending : (s.step targetBeats i).trigger.pending = true) :
    s.trigger.pending = true ∧ i.steady = true := by
  change (s.trigger.step targetBeats s.epoch i).pending = true at pending
  cases serving : s.trigger.serving i with
  | false =>
    obtain ⟨-, -, -, still⟩ := CompensatingTrigger.step_stopped targetBeats s.epoch serving
    obtain ⟨before, latched⟩ := still pending
    exact Bool.noConfusion ((waiting before).1.symm.trans latched)
  | true =>
    obtain ⟨-, -, -, kept, -⟩ := CompensatingTrigger.step_declining declined serving (not_overdue waiting)
    rw [kept, Bool.and_eq_true] at pending
    simp only [CompensatingTrigger.serving, Bool.and_eq_true] at serving
    exact ⟨pending.1, by simpa [TriggerIn.steady] using serving.1⟩

theorem epoch_ne_deadline (waiting : s.Waiting) (pending : s.trigger.pending = true) :
    s.epoch ≠ s.trigger.deadline := by
  intro reached
  obtain ⟨-, positive⟩ := waiting pending
  rw [ahead, reached, sub_self] at positive
  exact absurd positive (by decide)

/-! ## Runs -/

section Runs

variable (targetBeats : Nat) (start : Int) (inputs : Nat → TriggerIn)

/-- The state at the start of cycle `n`, which is beat `start + n`. -/
def stateAt (n : Nat) : BeatTrigger := (beatTrigger targetBeats start).trace inputs n

/-- The event of cycle `n` is accepted. -/
def Accepted (n : Nat) : Prop := (stateAt targetBeats start inputs (n + 1)).trigger.configValid = true

/-- Neither clear, nor a disable, nor a fault, after cycle `n` and before cycle `k`. -/
def SteadyBetween (n k : Nat) : Prop := ∀ l, n < l → l < k → (inputs l).steady = true

variable {targetBeats start inputs}

theorem stateAt_succ (n : Nat) :
    stateAt targetBeats start inputs (n + 1) = (stateAt targetBeats start inputs n).step targetBeats (inputs n) := rfl

theorem epoch_at (n : Nat) : (stateAt targetBeats start inputs n).epoch = BitVec.ofInt 32 (start + n) := by
  induction n with
  | zero =>
    rw [Nat.cast_zero, add_zero]
    rfl
  | succ n ih =>
    rw [stateAt_succ, step, ih, Nat.cast_succ, ← add_assoc, BitVec.ofInt_add _ 1, Clocked.ofInt_one]

theorem waiting_at (n : Nat) : (stateAt targetBeats start inputs n).Waiting :=
  (beatTrigger targetBeats start).trace_invariant inputs (fun pending => Bool.noConfusion pending)
    (fun _ _ waiting => waiting_step waiting) n

theorem accepted_iff (n : Nat) : Accepted targetBeats start inputs n ↔
    (stateAt targetBeats start inputs n).accepts targetBeats (inputs n) = true := by
  rw [Accepted, stateAt_succ, configValid_step (waiting_at n)]

/-- The beat of an accepted event's deadline is at least three beats away. -/
theorem accepted_deadline {n : Nat} (accepted : Accepted targetBeats start inputs n) :
    ∃ wait : Nat, 2 ≤ wait ∧ wait < 2 ^ 31 ∧
      (stateAt targetBeats start inputs (n + 1)).trigger.deadline = BitVec.ofInt 32 (start + (n + 1 + wait : Nat)) := by
  obtain ⟨-, at_least⟩ := accepted_ahead ((accepted_iff n).mp accepted)
  rw [← stateAt_succ] at at_least
  have below : (stateAt targetBeats start inputs (n + 1)).ahead < 2 ^ 31 := BitVec.toInt_lt
  obtain ⟨wait, is_ahead⟩ := Int.eq_ofNat_of_zero_le (show 0 ≤ (stateAt targetBeats start inputs (n + 1)).ahead by omega)
  refine ⟨wait, by omega, by omega, ?_⟩
  have apart : BitVec.ofInt 32 wait = (stateAt targetBeats start inputs (n + 1)).trigger.deadline -
      (stateAt targetBeats start inputs (n + 1)).epoch := by
    rw [← is_ahead, ahead, BitVec.ofInt_toInt]
  rw [Nat.cast_add, ← add_assoc, BitVec.ofInt_add, apart, epoch_at]
  exact (add_sub_cancel _ _).symm

theorem epoch_approaches (targetBeats : Nat) (start : Int) (inputs : Nat → TriggerIn) {n wait k : Nat} (short : wait < 2 ^ 31) (after : n < k) (until_then : k ≤ n + 1 + wait) :
    (BitVec.ofInt 32 (start + (n + 1 + wait : Nat)) - (stateAt targetBeats start inputs k).epoch).toInt =
      (n + 1 + wait : Nat) - (k : Int) := by
  rw [epoch_at, Clocked.toInt_sub_ofInt (by decide) (by omega) (by omega)]
  omega

/-- An accepted event waits for the beat before its deadline. -/
theorem accepted_waits {n wait k : Nat} (accepted : Accepted targetBeats start inputs n) (short : wait < 2 ^ 31)
    (scheduled : (stateAt targetBeats start inputs (n + 1)).trigger.deadline =
      BitVec.ofInt 32 (start + (n + 1 + wait : Nat)))
    (after : n + 1 ≤ k) (before : k < n + 1 + wait) (steady : SteadyBetween inputs n k) :
    (stateAt targetBeats start inputs k).trigger.pending = true ∧
      (stateAt targetBeats start inputs k).trigger.deadline = BitVec.ofInt 32 (start + (n + 1 + wait : Nat)) := by
  induction k, after using Nat.le_induction with
  | base =>
    refine ⟨?_, scheduled⟩
    rw [stateAt_succ, step, CompensatingTrigger.step_accepting ((accepted_iff n).mp accepted)]
  | succ k after ih =>
    obtain ⟨pending, same⟩ := ih (by omega) fun l later earlier => steady l later (by omega)
    obtain ⟨-, kept, -, waits⟩ := pending_step targetBeats (waiting_at k) pending (steady k after (by omega))
    have apart := epoch_approaches targetBeats start inputs short after
      (Nat.le_of_lt (by omega))
    rw [← same] at apart
    rw [stateAt_succ]
    refine ⟨waits.mpr ?_, kept.trans same⟩
    rw [ahead, apart]
    omega

/-- After an accepted event the launch pulses in the beat of the deadline and in none before it. -/
theorem launch_at_deadline {n wait k : Nat} (accepted : Accepted targetBeats start inputs n) (long : 2 ≤ wait)
    (short : wait < 2 ^ 31) (scheduled : (stateAt targetBeats start inputs (n + 1)).trigger.deadline =
      BitVec.ofInt 32 (start + (n + 1 + wait : Nat)))
    (after : n < k) (until_then : k ≤ n + 1 + wait) (steady : SteadyBetween inputs n k) :
    (stateAt targetBeats start inputs k).trigger.launch = true ↔ k = n + 1 + wait := by
  obtain ⟨before, rfl⟩ : ∃ before, k = before + 1 := ⟨k - 1, by omega⟩
  rw [stateAt_succ]
  rcases Nat.lt_or_ge n before with later | first
  · obtain ⟨pending, same⟩ := accepted_waits accepted short scheduled later (by omega)
      fun l from_n earlier => steady l from_n (by omega)
    obtain ⟨-, -, launches, -⟩ := pending_step targetBeats (waiting_at before) pending
      (steady before later (by omega))
    have apart := epoch_approaches targetBeats start inputs short later
      (by omega)
    rw [← same] at apart
    rw [launches, ahead, apart]
    omega
  · obtain rfl : before = n := by omega
    obtain ⟨quiet, -⟩ := CompensatingTrigger.sample_fields (stateAt targetBeats start inputs before).epoch
      (stateAt targetBeats start inputs before).trigger (inputs before)
    rw [step, CompensatingTrigger.step_accepting ((accepted_iff before).mp accepted)]
    constructor
    · intro launch
      exact Bool.noConfusion (quiet.symm.trans launch)
    · intro
      omega

/-- A pending launch is that of an accepted event. -/
theorem pending_origin (k : Nat) (pending : (stateAt targetBeats start inputs k).trigger.pending = true) :
    ∃ n, n < k ∧ Accepted targetBeats start inputs n ∧ SteadyBetween inputs n k ∧
      (stateAt targetBeats start inputs k).trigger.deadline =
        (stateAt targetBeats start inputs (n + 1)).trigger.deadline ∧
      ∀ l, n < l → l ≤ k → (stateAt targetBeats start inputs l).epoch ≠
        (stateAt targetBeats start inputs (n + 1)).trigger.deadline := by
  induction k with
  | zero => exact Bool.noConfusion pending
  | succ k ih =>
    have here := epoch_ne_deadline (waiting_at (k + 1)) pending
    by_cases accepted : Accepted targetBeats start inputs k
    · refine ⟨k, Nat.lt_succ_self k, accepted, fun l later earlier => by omega, rfl, fun l later at_most => ?_⟩
      obtain rfl : l = k + 1 := by omega
      exact here
    · have declined := eq_false_of_ne_true (mt (accepted_iff k).mpr accepted)
      obtain ⟨before, steady⟩ := pending_before (waiting_at k) declined pending
      obtain ⟨n, earlier, origin, between, same, apart⟩ := ih before
      have kept : (stateAt targetBeats start inputs (k + 1)).trigger.deadline =
          (stateAt targetBeats start inputs (n + 1)).trigger.deadline :=
        (pending_step targetBeats (waiting_at k) before steady).2.1.trans same
      refine ⟨n, by omega, origin, fun l later within => ?_, kept, fun l later at_most => ?_⟩
      · rcases Nat.lt_succ_iff_lt_or_eq.mp within with within | rfl
        · exact between l later within
        · exact steady
      · rcases Nat.le_succ_iff.mp at_most with at_most | rfl
        · exact apart l later at_most
        · rwa [kept] at here

/-- Every launch is that of an accepted event, in the first beat that is its deadline. -/
theorem launch_origin (k : Nat) (launch : (stateAt targetBeats start inputs k).trigger.launch = true) :
    ∃ n, n < k ∧ Accepted targetBeats start inputs n ∧ SteadyBetween inputs n k ∧
      (stateAt targetBeats start inputs k).epoch = (stateAt targetBeats start inputs (n + 1)).trigger.deadline ∧
      ∀ l, n < l → l < k → (stateAt targetBeats start inputs l).epoch ≠
        (stateAt targetBeats start inputs (n + 1)).trigger.deadline := by
  cases k with
  | zero => exact Bool.noConfusion launch
  | succ k =>
    obtain ⟨pending, steady, next⟩ := launch_step (waiting_at k) launch
    obtain ⟨n, earlier, accepted, between, same, apart⟩ := pending_origin k pending
    refine ⟨n, by omega, accepted, fun l later within => ?_, ?_, fun l later within => apart l later (by omega)⟩
    · rcases Nat.lt_succ_iff_lt_or_eq.mp within with within | rfl
      · exact between l later within
      · exact steady
    · rw [← same, stateAt_succ]
      have reached := (Clocked.toInt_sub_eq_one_iff (by decide) _ _).mp next
      rw [step, reached]
      exact sub_add_cancel _ _

/-! ## The age of a session -/

/-- What the trigger knows of the session it is prepared for: the cycle it was
    prepared in, and its age as far as it is counted. -/
structure Prepared (start : Int) (inputs : Nat → TriggerIn) (n p : Nat) (t : CompensatingTrigger) : Prop where
  before : p < n
  since : ∀ k, p ≤ k → k < n → (inputs k).prepared = true
  epoch : t.preparedEpoch = BitVec.ofInt 32 (start + p)
  age : t.preparedAge = min (n - p) 63

theorem session_at (targetBeats : Nat) (start : Int) (inputs : Nat → TriggerIn) (n : Nat) :
    ((stateAt targetBeats start inputs n).trigger.preparedPrevious = true →
      ∃ p, Prepared start inputs n p (stateAt targetBeats start inputs n).trigger) ∧
    ((stateAt targetBeats start inputs n).trigger.preparedPrevious = false →
      (stateAt targetBeats start inputs n).trigger.preparedAge = 0) := by
  induction n with
  | zero => exact ⟨fun prepared => Bool.noConfusion prepared, fun _ => rfl⟩
  | succ n ih =>
    obtain ⟨known, fresh⟩ := ih
    have session := CompensatingTrigger.step_session targetBeats (stateAt targetBeats start inputs n).epoch
      (stateAt targetBeats start inputs n).trigger (inputs n)
    simp only [CompensatingTrigger.session, Prod.mk.injEq] at session
    obtain ⟨previous, age, epoch⟩ := session
    rw [stateAt_succ, step]
    dsimp only
    rw [previous, age]
    refine ⟨fun prepared => ?_, fun unprepared => by rw [unprepared]; rfl⟩
    rw [prepared] at age epoch
    simp only [Bool.not_true, Bool.false_eq_true, if_false, Bool.true_and] at age epoch
    cases before : (stateAt targetBeats start inputs n).trigger.preparedPrevious with
    | true =>
      obtain ⟨p, earlier, since, at_epoch, at_age⟩ := known before
      rw [before] at epoch
      refine ⟨p, by omega, fun k later within => ?_, epoch.trans at_epoch, ?_⟩
      · rcases Nat.lt_succ_iff_lt_or_eq.mp within with within | rfl
        · exact since k later within
        · exact prepared
      · rw [age, at_age]
        split_ifs <;> omega
    | false =>
      rw [before] at epoch
      refine ⟨n, Nat.lt_succ_self n, fun k later within => ?_, epoch.trans (epoch_at n), ?_⟩
      · obtain rfl : k = n := by omega
        exact prepared
      · rw [age, fresh before]
        split_ifs <;> omega

/-- An accepting cycle belongs to a session, and its admission epoch is the beat the
    session was prepared in. -/
theorem accepted_session {n : Nat} (accepted : Accepted targetBeats start inputs n) :
    ∃ p, p ≤ n ∧ (∀ k, p ≤ k → k ≤ n → (inputs k).prepared = true) ∧
      (stateAt targetBeats start inputs n).trigger.admissionEpoch (stateAt targetBeats start inputs n).epoch =
        BitVec.ofInt 32 (start + p) ∧
      (stateAt targetBeats start inputs n).trigger.preparedAge = min (n - p) 63 := by
  obtain ⟨-, -, admitted, -⟩ := CompensatingTrigger.accepts_iff.mp ((accepted_iff n).mp accepted)
  obtain ⟨prepared, -⟩ := CompensatingTrigger.rejects_eq_false.mp admitted
  obtain ⟨known, fresh⟩ := session_at targetBeats start inputs n
  rw [CompensatingTrigger.admissionEpoch]
  cases before : (stateAt targetBeats start inputs n).trigger.preparedPrevious with
  | true =>
    obtain ⟨p, earlier, since, epoch, age⟩ := known before
    refine ⟨p, by omega, fun k later at_most => ?_, epoch, age⟩
    rcases Nat.lt_or_eq_of_le at_most with within | rfl
    · exact since k later within
    · exact prepared
  | false =>
    refine ⟨n, Nat.le_refl n, fun k later at_most => ?_, epoch_at n, by rw [fresh before]; omega⟩
    obtain rfl : k = n := by omega
    exact prepared

/-- An accepted event was captured in the session it is accepted in. -/
theorem accepted_captured {n : Nat} (near : targetBeats ≤ 34) (accepted : Accepted targetBeats start inputs n)
    {e : TdcEvent} {t : CapturedTrigger} (offers : (inputs n).Offers e) (stamps : e.Stamps t)
    (low : -1999 ≤ (inputs n).phaseOffset) (high : (inputs n).phaseOffset ≤ 1999)
    (drained : t.Drained (start + n)) :
    start ≤ t.time / 2000 ∧ ∀ k ≤ n, t.time / 2000 ≤ start + k → (inputs k).prepared = true := by
  obtain ⟨p, from_p, since, admission, age⟩ := accepted_session accepted
  obtain ⟨-, -, admitted, in_time⟩ := CompensatingTrigger.accepts_iff.mp ((accepted_iff n).mp accepted)
  obtain ⟨-, -, -, -, after_prepare⟩ := CompensatingTrigger.rejects_eq_false.mp admitted
  unfold CapturedTrigger.Drained at drained
  suffices inside : start + p ≤ t.time / 2000 from
    ⟨by omega, fun k at_most from_capture => since k (by omega) at_most⟩
  by_contra outside
  rw [CompensatingTrigger.eventAfterPrepare, Bool.or_eq_true, decide_eq_true_eq, decide_eq_true_eq, admission,
    offers.epoch, stamps.epoch] at after_prepare
  rcases after_prepare with old | later
  · -- the age is no longer checked, and the launch would come too soon
    obtain ⟨-, phase⟩ := TriggerIn.normalized offers stamps low high
    have quantized := TriggerIn.phaseQuantized_eq (i := inputs n) (by omega)
    simp only [CompensatingTrigger.late, decide_eq_false_iff_not, not_lt] at in_time
    rw [TriggerIn.targetEpoch_eq targetBeats offers stamps low high, epoch_at] at in_time
    rw [Clocked.toInt_sub_ofInt (by decide) (by split_ifs <;> omega) (by split_ifs <;> omega)] at in_time
    split_ifs at in_time <;> omega
  · rw [Clocked.toInt_sub_ofInt (by decide) (by omega) (by omega)] at later
    omega

/-- The event of an accepting cycle decides the launch beat, the sample delay and the phase. -/
theorem accepted_time {n : Nat} (accepted : Accepted targetBeats start inputs n)
    {e : TdcEvent} {t : CapturedTrigger} (offers : (inputs n).Offers e) (stamps : e.Stamps t)
    (low : -1999 ≤ (inputs n).phaseOffset) (high : (inputs n).phaseOffset ≤ 1999) :
    (∃ step, NearestStep (t.time + (inputs n).phaseOffset) step ∧
      512 * ((stateAt targetBeats start inputs (n + 1)).trigger.deadline.toNat : Int) +
        64 * (stateAt targetBeats start inputs (n + 1)).trigger.delaySamples +
        (stateAt targetBeats start inputs (n + 1)).trigger.fractionalPhase ≡
        512 * targetBeats + step [ZMOD 512 * 2 ^ 32]) ∧
      (stateAt targetBeats start inputs (n + 1)).trigger.delaySamples < 8 ∧
      (stateAt targetBeats start inputs (n + 1)).trigger.fractionalPhase < 64 := by
  rw [stateAt_succ, step, CompensatingTrigger.step_accepting ((accepted_iff n).mp accepted)]
  exact ⟨TriggerIn.launch_time targetBeats offers stamps low high, Nat.mod_lt _ (by decide), Nat.mod_lt _ (by decide)⟩

/-- An accepted event has one launch beat, and its launch pulses there and nowhere before. -/
theorem accepted_launch {n : Nat} (accepted : Accepted targetBeats start inputs n) :
    ∃ j, n + 3 ≤ j ∧
      (stateAt targetBeats start inputs j).epoch = (stateAt targetBeats start inputs (n + 1)).trigger.deadline ∧
      (∀ l, n < l → l < j → (stateAt targetBeats start inputs l).epoch ≠
        (stateAt targetBeats start inputs (n + 1)).trigger.deadline) ∧
      ∀ k, n < k → k ≤ j → SteadyBetween inputs n k →
        ((stateAt targetBeats start inputs k).trigger.launch = true ↔ k = j) := by
  obtain ⟨wait, long, short, scheduled⟩ := accepted_deadline accepted
  refine ⟨n + 1 + wait, by omega, by rw [epoch_at, scheduled], fun l later earlier reached => ?_,
    fun k later at_most steady => launch_at_deadline accepted long short scheduled later at_most steady⟩
  have apart := epoch_approaches targetBeats start inputs short later
    (Nat.le_of_lt earlier)
  rw [reached, scheduled, sub_self, show (0 : BitVec 32).toInt = 0 from rfl] at apart
  omega

end Runs

end BeatTrigger

open BeatTrigger in
/-- A trigger has constant latency, whatever its fine time, its slot and its beat, the
    phase offset, the beat counter and the delay of the FIFO. -/
theorem constant_latency (targetBeats : Nat) (start : Int) (inputs : Nat → TriggerIn) :
    -- the launch beat, the sample delay and the fractional phase
    (∀ n capture captureIn captureIn' t, EventCapture.Captures capture captureIn t →
      (inputs n).Offers ((capture.step captureIn).step captureIn').event →
      -1999 ≤ (inputs n).phaseOffset → (inputs n).phaseOffset ≤ 1999 →
      Accepted targetBeats start inputs n →
      (∃ step, NearestStep (t.time + (inputs n).phaseOffset) step ∧
        512 * ((stateAt targetBeats start inputs (n + 1)).trigger.deadline.toNat : Int) +
          64 * (stateAt targetBeats start inputs (n + 1)).trigger.delaySamples +
          (stateAt targetBeats start inputs (n + 1)).trigger.fractionalPhase ≡
          512 * targetBeats + step [ZMOD 512 * 2 ^ 32]) ∧
        (stateAt targetBeats start inputs (n + 1)).trigger.delaySamples < 8 ∧
        (stateAt targetBeats start inputs (n + 1)).trigger.fractionalPhase < 64) ∧
    -- an accepted event launches in its launch beat
    (∀ n, Accepted targetBeats start inputs n → ∃ j, n + 3 ≤ j ∧
      (stateAt targetBeats start inputs j).epoch = (stateAt targetBeats start inputs (n + 1)).trigger.deadline ∧
      (∀ l, n < l → l < j → (stateAt targetBeats start inputs l).epoch ≠
        (stateAt targetBeats start inputs (n + 1)).trigger.deadline) ∧
      ∀ k, n < k → k ≤ j → SteadyBetween inputs n k →
        ((stateAt targetBeats start inputs k).trigger.launch = true ↔ k = j)) ∧
    -- and nothing else launches
    (∀ k, (stateAt targetBeats start inputs k).trigger.launch = true →
      ∃ n, n < k ∧ Accepted targetBeats start inputs n ∧ SteadyBetween inputs n k ∧
        (stateAt targetBeats start inputs k).epoch = (stateAt targetBeats start inputs (n + 1)).trigger.deadline ∧
        ∀ l, n < l → l < k → (stateAt targetBeats start inputs l).epoch ≠
          (stateAt targetBeats start inputs (n + 1)).trigger.deadline) ∧
    -- no deadline is missed
    (∀ n, (stateAt targetBeats start inputs n).trigger.missesDeadline
      (stateAt targetBeats start inputs n).epoch (inputs n) = false) ∧
    -- what was captured before the session was prepared is not accepted
    (targetBeats ≤ 34 → ∀ n capture captureIn captureIn' t, EventCapture.Captures capture captureIn t →
      (inputs n).Offers ((capture.step captureIn).step captureIn').event →
      -1999 ≤ (inputs n).phaseOffset → (inputs n).phaseOffset ≤ 1999 →
      t.Drained (start + n) → Accepted targetBeats start inputs n →
      start ≤ t.time / 2000 ∧ ∀ k ≤ n, t.time / 2000 ≤ start + k → (inputs k).prepared = true) := by
  refine ⟨?_, fun n accepted => accepted_launch accepted, launch_origin, ?_, ?_⟩
  · intro n capture captureIn captureIn' t captured offers low high accepted
    exact accepted_time accepted offers (EventCapture.event_stamps captured).2 low high
  · intro n
    rw [CompensatingTrigger.missesDeadline, not_overdue (waiting_at n), Bool.and_false]
  · intro near n capture captureIn captureIn' t captured offers low high drained accepted
    exact accepted_captured near accepted offers (EventCapture.event_stamps captured).2 low high drained

/-! ## One trigger -/

/-- Captured 244 units before slot 2 of beat 5. -/
def lateInBeat : CapturedTrigger := ⟨5, 2, 244, by decide⟩

def lateInBeatIn : CaptureIn where
  valid := true
  good := true
  overflow := false
  bubble := false
  tap := 999
  slot := 2
  epoch := 5
  calibWrEn := false
  calibWrAddr := 0
  calibWrData := 0

def lateInBeatEvent : TdcEvent := ((EventCapture.reset.step lateInBeatIn).step lateInBeatIn).event

/-- A session prepared from beat 3 on, which is offered the event in beat 10. -/
def offered (n : Nat) : TriggerIn where
  clear := false
  enable := true
  calibrated := true
  referenceReady := true
  prepared := 3 ≤ n
  sourceRunning := false
  outputBusy := false
  sourceDone := false
  loopEnable := false
  runtimeFault := false
  clipPulse := 0
  eventValid := n = 10
  eventGood := lateInBeatEvent.good
  eventEpoch := lateInBeatEvent.epoch
  eventPhase := lateInBeatEvent.phase
  phaseOffset := -800
  clearStatistics := false

open BeatTrigger in
theorem constant_latency_offered :
    (∃ step, NearestStep (lateInBeat.time - 800) step ∧
      512 * ((stateAt 32 0 offered 11).trigger.deadline.toNat : Int) +
        64 * (stateAt 32 0 offered 11).trigger.delaySamples + (stateAt 32 0 offered 11).trigger.fractionalPhase ≡
        512 * (32 : Nat) + step [ZMOD 512 * 2 ^ 32]) ∧
      (∀ k : Nat, k ≤ 10 → (5 : Int) ≤ 0 + k → (offered k).prepared = true) ∧
      ∃ j, (stateAt 32 0 offered j).epoch = (stateAt 32 0 offered 11).trigger.deadline := by
  have captured : EventCapture.Captures .reset lateInBeatIn lateInBeat := ⟨rfl, rfl, rfl, rfl, by decide⟩
  have accepted : Accepted 32 0 offered 10 := by
    unfold Accepted
    decide
  obtain ⟨time, launch, -, -, session⟩ := constant_latency 32 0 offered
  refine ⟨?_, ?_, ?_⟩
  · exact (time 10 _ lateInBeatIn lateInBeatIn _ captured ⟨rfl, rfl, rfl⟩ (by decide) (by decide) accepted).1
  · exact (session (by decide) 10 _ lateInBeatIn lateInBeatIn _ captured ⟨rfl, rfl, rfl⟩ (by decide) (by decide)
      (by unfold CapturedTrigger.Drained; decide) accepted).2
  · obtain ⟨j, -, reached, -⟩ := launch 10 accepted
    exact ⟨j, reached⟩

end Xczu47dr.Tdc
