import Mathlib.Data.Nat.Count
import Mathlib.Order.Monotone.Basic
import Xczu47dr.Playback.TriggerCdc

/-! # The episodes of the external trigger

TRIG_2 as a waveform over time: the rising edges that set the latch, and what
`waveform_trigger_cdc` makes of them.
-/

namespace Xczu47dr.Playback

open Clocked

namespace TriggerCdc

/-- Out of reset; the latch is as TRIG_2 has left it. -/
def start (latched : Bool) : TriggerCdc := { reset with triggerLatch := latched }

variable (s : TriggerCdc) (waitTrigger : Bool) (i : PadIn)

/-- What the first register makes of the latch. -/
def sample : Bool := s.triggerLatch || i.pulsed && i.latchCaught

theorem getLsbD_shifted {width : Nat} (bits : BitVec (width + 1)) (b : Bool) :
    (bits.extractLsb' 0 width ++ BitVec.ofBool b).getLsbD 0 = b ∧
      ∀ k < width, (bits.extractLsb' 0 width ++ BitVec.ofBool b).getLsbD (k + 1) = bits.getLsbD k := by
  constructor
  · simp only [BitVec.getLsbD_append, BitVec.getLsbD_ofBool]
    simp
  · intro k inside
    simp only [BitVec.getLsbD_append, BitVec.getLsbD_extractLsb']
    simp [inside]

end TriggerCdc

/-! ## The waveform -/

/-- TRIG_2 over time, the edges of the DAC clock, `wait_trigger` in each cycle, and what the first
registers make of a level that changes in front of them. -/
structure PadWave (Time : Type) [LinearOrder Time] where
  wave : Time → Prop
  edge : Nat → Time
  ascending : StrictMono edge
  waitTrigger : Nat → Bool
  latchCaught : Nat → Bool
  rawCaught : Nat → Bool

namespace PadWave

variable {Time : Type} [LinearOrder Time] (w : PadWave Time)

/-- TRIG_2 is high at some time after the edge that starts the cycle. -/
def High (n : Nat) : Prop := ∃ t, w.edge n < t ∧ t ≤ w.edge (n + 1) ∧ w.wave t

/-- TRIG_2 is low at the edge that starts the cycle and rises after it. -/
def Rises (n : Nat) : Prop := ¬ w.wave (w.edge n) ∧ w.High n

open Classical in
/-- What is sampled at the edge that ends the cycle: TRIG_2 itself as it is, if it does not change. -/
noncomputable def pad (n : Nat) : PadIn where
  pulsed := decide (w.High n)
  level := decide (w.wave (w.edge (n + 1)))
  latchCaught := w.latchCaught n
  rawCaught :=
    if ∀ t, w.edge n ≤ t → t ≤ w.edge (n + 1) → w.wave t then true
    else if ∀ t, w.edge n ≤ t → t ≤ w.edge (n + 1) → ¬ w.wave t then false
    else w.rawCaught n

/-- `u_trigger` in each cycle. -/
noncomputable def trigger (latched : Bool) : Nat → TriggerCdc
  | 0 => .start latched
  | n + 1 => (trigger latched n).step (w.waitTrigger n) (w.pad n)

variable {w} {latched : Bool} {n : Nat}

open Classical in
theorem level_iff : (w.pad n).level = true ↔ w.wave (w.edge (n + 1)) := decide_eq_true_iff

open Classical in
theorem pulsed_iff : (w.pad n).pulsed = true ↔ w.High n := decide_eq_true_iff

theorem pulsed_of_level (level : (w.pad n).level = true) : (w.pad n).pulsed = true :=
  pulsed_iff.mpr ⟨_, w.ascending (Nat.lt_succ_self n), le_rfl, level_iff.mp level⟩

/-! ## The synchronizer -/

section Cycles

variable (w latched)

/-- The bits of the synchronizer are the samples of the last three cycles. -/
theorem sync_ff (n : Nat) :
    (w.trigger latched (n + 1)).syncFf.getLsbD 0 = (w.trigger latched n).sample (w.pad n) ∧
      (w.trigger latched (n + 2)).syncFf.getLsbD 1 = (w.trigger latched n).sample (w.pad n) ∧
        (w.trigger latched (n + 3)).syncFf.getLsbD 2 = (w.trigger latched n).sample (w.pad n) := by
  have first := TriggerCdc.getLsbD_shifted (w.trigger latched n).syncFf ((w.trigger latched n).sample (w.pad n))
  have second := TriggerCdc.getLsbD_shifted (w.trigger latched (n + 1)).syncFf
    ((w.trigger latched (n + 1)).sample (w.pad (n + 1)))
  have third := TriggerCdc.getLsbD_shifted (w.trigger latched (n + 2)).syncFf
    ((w.trigger latched (n + 2)).sample (w.pad (n + 2)))
  exact ⟨first.1, (second.2 0 (by decide)).trans first.1,
    (third.2 1 (by decide)).trans ((second.2 0 (by decide)).trans first.1)⟩

theorem wait_history (n : Nat) :
    (w.trigger latched (n + 4)).waitHistory.getLsbD 3 = (w.trigger latched n).waitQualified (w.waitTrigger n) := by
  have shifted (m : Nat) := TriggerCdc.getLsbD_shifted (w.trigger latched m).waitHistory
    ((w.trigger latched m).waitQualified (w.waitTrigger m))
  exact ((shifted (n + 3)).2 2 (by decide)).trans (((shifted (n + 2)).2 1 (by decide)).trans
    (((shifted (n + 1)).2 0 (by decide)).trans (shifted n).1))

theorem armed_succ (n : Nat) : (w.trigger latched (n + 1)).armed =
    (!(w.trigger latched n).captured && ((w.trigger latched n).armed || (w.trigger latched n).quiet)) := rfl

theorem latch_succ (n : Nat) : (w.trigger latched (n + 1)).triggerLatch =
    ((w.pad n).level || !(!(w.trigger latched n).armed && (w.trigger latched n).lowQualified) &&
      ((w.trigger latched n).triggerLatch || (w.pad n).pulsed)) := rfl

end Cycles

/-- Where nothing has been captured, what is armed stays armed. -/
theorem armed_of_armed (armed : (w.trigger latched n).armed = true)
    (uncaptured : (w.trigger latched n).captured = false) : (w.trigger latched (n + 1)).armed = true := by
  rw [armed_succ, uncaptured, armed]
  rfl

/-- In the cycle before a capture the last register was low. -/
theorem low_before (captured : (w.trigger latched (n + 1)).captured = true) :
    (w.trigger latched n).syncFf.getLsbD 2 = false := by
  have armed := (Bool.and_eq_true_iff.mp captured).1
  rw [armed_succ, Bool.and_eq_true_iff, Bool.or_eq_true_iff] at armed
  obtain ⟨uncaptured, armed | quiet⟩ := armed
  · rw [TriggerCdc.captured, armed, Bool.true_and, Bool.not_eq_true'] at uncaptured
    exact uncaptured
  · rw [TriggerCdc.quiet, Bool.and_eq_true_iff, Bool.and_eq_true_iff, Bool.not_eq_true'] at quiet
    exact quiet.1.2

/-- Nothing is captured in the first cycles: the latch is not armed before TRIG_2 has been low. -/
theorem low_cycles_le (n : Nat) : (w.trigger latched n).lowCycles ≤ n := by
  induction n with
  | zero => exact Nat.le_refl 0
  | succ n ih =>
    change (if (w.trigger latched n).rawSync.getLsbD 2 then 0 else if (w.trigger latched n).lowQualified then
      (w.trigger latched n).lowCycles else ((w.trigger latched n).lowCycles + 1) % 2 ^ 3) ≤ n + 1
    split_ifs <;> omega

theorem late_of_armed (armed : (w.trigger latched n).armed = true) : 5 ≤ n := by
  induction n with
  | zero => cases armed
  | succ n ih =>
    rw [armed_succ, Bool.and_eq_true_iff, Bool.or_eq_true_iff] at armed
    obtain ⟨-, armed | quiet⟩ := armed
    · exact Nat.le_succ_of_le (ih armed)
    · rw [TriggerCdc.quiet, Bool.and_eq_true_iff, Bool.and_eq_true_iff, TriggerCdc.lowQualified, beq_iff_eq] at quiet
      have late := @low_cycles_le _ _ w latched n
      omega

/-! ## The rise of an episode -/

/-- The edge that has set the latch for the episode captured in cycle `n` is that of cycle `m`. -/
structure RisesFor (w : PadWave Time) (latched : Bool) (n m : Nat) : Prop where
  rises : w.Rises m
  unlatched : (w.trigger latched m).triggerLatch = false
  early : m + 3 ≤ n
  late : n ≤ m + 4

/-- The latch is low at a sample that is low, and has been set by an edge when the next one is high. -/
theorem rises_of_samples (before : (w.trigger latched n).sample (w.pad n) = false)
    (after : (w.trigger latched (n + 1)).sample (w.pad (n + 1)) = true) (positive : 0 < n) :
    ∃ m, (m = n ∨ m = n + 1) ∧ w.Rises m ∧ (w.trigger latched m).triggerLatch = false := by
  have low {m : Nat} (unlatched : (w.trigger latched (m + 1)).triggerLatch = false) : ¬ w.wave (w.edge (m + 1)) := by
    intro high
    rw [latch_succ, level_iff.mpr high] at unlatched
    cases unlatched
  obtain ⟨unlatched, -⟩ := Bool.or_eq_false_iff.mp before
  obtain ⟨n, rfl⟩ := Nat.exists_eq_succ_of_ne_zero positive.ne'
  cases latch : (w.trigger latched (n + 2)).triggerLatch with
  | false =>
    rw [TriggerCdc.sample, latch, Bool.false_or, Bool.and_eq_true_iff] at after
    exact ⟨n + 2, .inr rfl, ⟨low latch, pulsed_iff.mp after.1⟩, latch⟩
  | true =>
    refine ⟨n + 1, .inl rfl, ⟨low unlatched, ?_⟩, unlatched⟩
    rw [latch_succ, unlatched, Bool.false_or, Bool.or_eq_true_iff, Bool.and_eq_true_iff] at latch
    rcases latch with level | ⟨-, pulsed⟩
    · exact pulsed_iff.mp (pulsed_of_level level)
    · exact pulsed_iff.mp pulsed

/-- What is captured has risen three or four cycles before. -/
theorem rises_of_captured (captured : (w.trigger latched n).captured = true) : ∃ m, RisesFor w latched n m := by
  have late := late_of_armed (Bool.and_eq_true_iff.mp captured).1
  obtain ⟨k, rfl⟩ := Nat.exists_eq_add_of_le' (show 4 ≤ n by omega)
  have before := low_before captured
  have now := (Bool.and_eq_true_iff.mp captured).2
  rw [(sync_ff w latched k).2.2] at before
  rw [(sync_ff w latched (k + 1)).2.2] at now
  obtain ⟨m, near, rises, unlatched⟩ := rises_of_samples before now (by omega)
  exact ⟨m, rises, unlatched, by omega, by omega⟩

/-- Two captures are at least two cycles apart. -/
theorem captured_apart {m : Nat} (first : (w.trigger latched n).captured = true)
    (second : (w.trigger latched m).captured = true) (later : n < m) : n + 2 ≤ m := by
  have disarmed : (w.trigger latched (n + 1)).armed = false := TriggerCdc.captured_once _ _ _ first
  by_contra close
  obtain rfl : m = n + 1 := by omega
  rw [TriggerCdc.captured, disarmed] at second
  cases second

/-! ## The window -/

/-- The window has been open in at least as many cycles as `wait_quiet_cycles` counts. -/
theorem window_open (n : Nat) : (w.trigger latched n).waitQuietCycles ≤ 5 ∧
    (w.trigger latched n).waitQuietCycles ≤ n ∧
      ∀ k, n ≤ k + (w.trigger latched n).waitQuietCycles → k < n → w.waitTrigger k = true := by
  induction n with
  | zero => exact ⟨Nat.zero_le 5, Nat.le_refl 0, fun k _ before => absurd before (Nat.not_lt_zero k)⟩
  | succ n ih =>
    obtain ⟨few, inside, opened⟩ := ih
    have counts : (w.trigger latched (n + 1)).waitQuietCycles =
        if !w.waitTrigger n then 0
        else if (w.trigger latched n).waitQualified (w.waitTrigger n) then (w.trigger latched n).waitQuietCycles
        else if (w.trigger latched n).armed && (w.trigger latched n).quiet then
          ((w.trigger latched n).waitQuietCycles + 1) % 2 ^ 4
        else 0 := rfl
    rw [TriggerCdc.waitQualified] at counts
    cases waits : w.waitTrigger n with
    | false =>
      rw [waits] at counts
      refine ⟨by rw [counts]; exact Nat.zero_le 5, by rw [counts]; exact Nat.zero_le _, fun k near before => ?_⟩
      rw [counts] at near
      exact absurd before (Nat.not_lt.mpr near)
    | true =>
      have upTo (k : Nat) (near : n ≤ k + (w.trigger latched n).waitQuietCycles) (before : k < n + 1) :
          w.waitTrigger k = true := by
        rcases Nat.lt_succ_iff_lt_or_eq.mp before with earlier | rfl
        · exact opened k near earlier
        · exact waits
      have grows : (w.trigger latched (n + 1)).waitQuietCycles ≤ (w.trigger latched n).waitQuietCycles + 1 ∧
          (w.trigger latched (n + 1)).waitQuietCycles ≤ 5 := by
        rw [counts, waits]
        simp only [Bool.not_true, Bool.false_eq_true, if_false, Bool.true_and, beq_iff_eq]
        split_ifs <;> omega
      exact ⟨grows.2, by omega, fun k near before => upTo k (by omega) before⟩

/-- What is admitted has found the window open for nine cycles. -/
theorem open_of_admitted (admitted : (w.trigger latched n).admitted (w.waitTrigger n) = true) :
    ∀ k, n ≤ k + 9 → k ≤ n → w.waitTrigger k = true := by
  obtain ⟨qualified, history⟩ := Bool.and_eq_true_iff.mp admitted
  obtain ⟨waits, counted⟩ := Bool.and_eq_true_iff.mp qualified
  have full := beq_iff_eq.mp counted
  obtain ⟨-, inside, opened⟩ := @window_open _ _ w latched n
  rw [full] at inside opened
  obtain ⟨m, rfl⟩ := Nat.exists_eq_add_of_le' (show 4 ≤ n by omega)
  rw [wait_history, TriggerCdc.waitQualified, Bool.and_eq_true_iff, beq_iff_eq] at history
  obtain ⟨-, -, before⟩ := @window_open _ _ w latched m
  rw [history.2] at before
  intro k near upTo
  rcases Nat.lt_or_ge k m with earlier | later
  · exact before k (by omega) earlier
  · rcases Nat.lt_or_eq_of_le upTo with within | rfl
    · rcases Nat.lt_or_eq_of_le later with inner | rfl
      · exact opened k (by omega) within
      · exact history.1
    · exact waits

/-- While it is armed, no rising edge is missed. -/
theorem captured_of_rises (armed : (w.trigger latched n).armed = true) (rises : w.Rises n) :
    ∃ m, n ≤ m ∧ m ≤ n + 4 ∧ (w.trigger latched m).captured = true := by
  by_contra none_captured
  have uncaptured (m : Nat) (later : n ≤ m) (near : m ≤ n + 4) : (w.trigger latched m).captured = false :=
    Bool.eq_false_iff.mpr fun captured => none_captured ⟨m, later, near, captured⟩
  have armed1 := armed_of_armed armed (uncaptured n (by omega) (by omega))
  have armed2 := armed_of_armed armed1 (uncaptured (n + 1) (by omega) (by omega))
  have armed3 := armed_of_armed armed2 (uncaptured (n + 2) (by omega) (by omega))
  have armed4 := armed_of_armed armed3 (uncaptured (n + 3) (by omega) (by omega))
  have latch : (w.trigger latched (n + 1)).triggerLatch = true := by
    rw [latch_succ, armed, pulsed_iff.mpr rises.2]
    simp
  have last : (w.trigger latched (n + 4)).syncFf.getLsbD 2 = true := by
    rw [(sync_ff w latched (n + 1)).2.2, TriggerCdc.sample, latch]
    rfl
  have captured := uncaptured (n + 4) (by omega) (by omega)
  rw [TriggerCdc.captured, armed4, last] at captured
  cases captured

/-! ## The accounts -/

theorem counted (n : Nat) :
    (w.trigger latched n).triggerSeenCount =
        BitVec.ofNat 32 (Nat.count (fun k => (w.trigger latched k).captured = true) n) ∧
      (w.trigger latched n).triggerDroppedCount = BitVec.ofNat 32 (Nat.count (fun k =>
        (w.trigger latched k).captured = true ∧ (w.trigger latched k).triggerEvent (w.waitTrigger k) = false) n) := by
  induction n with
  | zero => exact ⟨rfl, rfl⟩
  | succ n ih =>
    have seen : (w.trigger latched (n + 1)).triggerSeenCount =
        if (w.trigger latched n).captured then (w.trigger latched n).triggerSeenCount + 1
        else (w.trigger latched n).triggerSeenCount := rfl
    have dropped : (w.trigger latched (n + 1)).triggerDroppedCount =
        if (w.trigger latched n).captured && !(w.trigger latched n).admitted (w.waitTrigger n) then
          (w.trigger latched n).triggerDroppedCount + 1
        else (w.trigger latched n).triggerDroppedCount := rfl
    rw [ih.1] at seen
    rw [ih.2] at dropped
    rw [seen, dropped, Nat.count_succ, Nat.count_succ, TriggerCdc.triggerEvent]
    cases (w.trigger latched n).captured with
    | false => exact ⟨rfl, rfl⟩
    | true =>
      refine ⟨(BitVec.ofNat_add _ 1).symm, ?_⟩
      cases (w.trigger latched n).admitted (w.waitTrigger n) with
      | false => exact (BitVec.ofNat_add _ 1).symm
      | true => rfl

/-- Every capture is of an episode of its own, an event only of one that has risen in the open
window, and `trigger_seen` and `trigger_dropped` account for each. -/
structure Accounts (w : PadWave Time) (latched : Bool) (rise : Nat → Nat) : Prop where
  rises : ∀ n, (w.trigger latched n).captured = true → RisesFor w latched n (rise n)
  once : ∀ n m, (w.trigger latched n).captured = true → (w.trigger latched m).captured = true → n < m →
    rise n < rise m
  event : ∀ n, (w.trigger latched n).triggerEvent (w.waitTrigger n) = true →
    (w.trigger latched n).captured = true ∧ ∀ k, rise n ≤ k + 5 → k ≤ n → w.waitTrigger k = true
  seen : ∀ n, (w.trigger latched (n + 1)).triggerSeen = (w.trigger latched n).captured
  dropped : ∀ n, (w.trigger latched (n + 1)).triggerDropped =
    ((w.trigger latched n).captured && !(w.trigger latched n).triggerEvent (w.waitTrigger n))
  seenCount : ∀ n, (w.trigger latched n).triggerSeenCount =
    BitVec.ofNat 32 (Nat.count (fun k => (w.trigger latched k).captured = true) n)
  droppedCount : ∀ n, (w.trigger latched n).triggerDroppedCount = BitVec.ofNat 32 (Nat.count (fun k =>
    (w.trigger latched k).captured = true ∧ (w.trigger latched k).triggerEvent (w.waitTrigger k) = false) n)
  complete : ∀ n, (w.trigger latched n).armed = true → w.Rises n →
    ∃ m, n ≤ m ∧ m ≤ n + 4 ∧ (w.trigger latched m).captured = true

open Classical in
theorem episodes_accounted (w : PadWave Time) (latched : Bool) : ∃ rise, Accounts w latched rise := by
  have chosen (n : Nat) (captured : (w.trigger latched n).captured = true) := rises_of_captured captured
  refine ⟨fun n => if captured : (w.trigger latched n).captured = true then (chosen n captured).choose else 0, ?_⟩
  have rises (n : Nat) (captured : (w.trigger latched n).captured = true) : RisesFor w latched n
      (if captured : (w.trigger latched n).captured = true then (chosen n captured).choose else 0) := by
    rw [dif_pos captured]
    exact (chosen n captured).choose_spec
  refine ⟨rises, fun n m first second later => ?_, fun n event => ?_, fun _ => rfl, fun n => ?_,
    fun n => (counted n).1, fun n => (counted n).2, fun n => captured_of_rises⟩
  · have apart := captured_apart first second later
    have before := (rises n first).early
    have after := (rises m second).late
    omega
  · obtain ⟨captured, admitted⟩ := Bool.and_eq_true_iff.mp event
    have late := (rises n captured).late
    exact ⟨captured, fun k near upTo => open_of_admitted admitted k (by omega) upTo⟩
  · change ((w.trigger latched n).captured && !(w.trigger latched n).admitted (w.waitTrigger n)) = _
    rw [TriggerCdc.triggerEvent]
    cases (w.trigger latched n).captured <;> rfl

end PadWave

end Xczu47dr.Playback
