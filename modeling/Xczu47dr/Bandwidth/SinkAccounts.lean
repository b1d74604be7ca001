import Xczu47dr.Bandwidth.Sink

/-! # What the counters of the sink conserve

The totals against the counts of the channels and of the sample windows, the levels
against what has been filled and consumed, in every run.
-/

namespace Xczu47dr.Bandwidth

open Clocked

def sumOfChannels {Count : Type} [Add Count] [Zero Count] (count : Fin 8 → Count) : Count :=
  ((List.finRange 8).map count).sum

/-- The counters are those of the ledger, each modulo its width. -/
structure Conserved (p : SinkParams) (s : BandwidthSink × SinkLedger) : Prop where
  underflows : s.1.totalUnderflows = sumOfChannels s.1.chUnderflowCount
  bytes : s.1.totalBytes = BitVec.ofNat 64 (s.2.beats * (p.dataWidth / 8))
  sampleBytes : s.2.bytes + s.1.sampleBytesAccum = s.1.totalBytes
  sampleStalls : s.2.stalls + s.1.sampleStallsAccum = s.1.totalStallCycles
  sampleUnderflows : s.2.underflows + s.1.sampleUnderflowsAccum = s.1.totalUnderflows
  bounded : ∀ channel, s.1.chLevel channel ≤ p.depth
  level : ∀ channel, s.1.chLevel channel + s.2.consumptions channel + s.2.dropped channel =
    s.2.fills channel + s.2.missed channel
  min : ∀ channel, s.1.chMinLevel channel = (s.2.levels channel).foldr Nat.min p.depth
  max : ∀ channel, s.1.chMaxLevel channel = (s.2.levels channel).foldr Nat.max 0

namespace BandwidthSink

variable {p : SinkParams} {s : BandwidthSink} {i : SinkTick}

/-- At most one channel underflows, and no event falls into a cycle in which its window closes
with something in the accumulator. -/
structure Separate (p : SinkParams) (s : BandwidthSink) (i : SinkTick) : Prop where
  once : (List.finRange 8).countP (s.underflows p i) ≤ 1
  bytes : s.closes i = true → s.beatFire p i = true → s.sampleBytesAccum = 0
  stalls : s.closes i = true → s.stalled p i = true → s.sampleStallsAccum = 0
  underflows : s.closes i = true → (List.finRange 8).any (s.underflows p i) = true → s.sampleUnderflowsAccum = 0

/-! ## The levels -/

theorem level_step (bounded : s.chLevel channel ≤ p.depth) :
    s.nextLevel p i channel ≤ p.depth ∧
      s.nextLevel p i channel + (s.consumeDue p i channel).toNat +
          (s.fillDue p i channel && !s.consumeDue p i channel && s.chLevel channel == p.depth).toNat =
        s.chLevel channel + (s.fillDue p i channel).toNat + (s.underflows p i channel).toNat := by
  have small : p.depth < 2 ^ 16 := Nat.mod_lt _ (by decide)
  rw [nextLevel, underflows]
  cases s.consumeDue p i channel with
  | true =>
      cases s.fillDue p i channel with
      | true => exact ⟨bounded, rfl⟩
      | false =>
          by_cases empty : s.chLevel channel = 0
          · simp [empty]
          · simp only [empty, bne_iff_ne, ne_eq, not_false_eq_true, if_true, Bool.and_false, Bool.false_eq_true, if_false,
              Bool.toNat_true, Bool.not_false, Bool.false_and, Bool.toNat_false, Bool.and_true,
              beq_eq_false_iff_ne.mpr empty]
            omega
  | false =>
      cases s.fillDue p i channel with
      | false => exact ⟨bounded, rfl⟩
      | true =>
          by_cases full : s.chLevel channel = p.depth
          · simp [full]
          · simp only [full, bne_iff_ne, ne_eq, not_false_eq_true, if_true, Bool.and_false, Bool.false_eq_true, if_false,
              Bool.toNat_true, Bool.not_false, Bool.false_and, Bool.toNat_false, Bool.and_true, Bool.true_and,
              beq_eq_false_iff_ne.mpr full]
            rw [Nat.mod_eq_of_lt (by omega)]
            omega

/-! ## The underflows -/

/-- The counts of the channels grow by the number of those that underflow. -/
theorem sum_underflows (counts : Fin 8 → BitVec 32) (happens : Fin 8 → Bool) :
    sumOfChannels (fun channel => if happens channel then counts channel + 1 else counts channel) =
      sumOfChannels counts + BitVec.ofNat 32 ((List.finRange 8).countP happens) := by
  unfold sumOfChannels
  generalize List.finRange 8 = channels
  induction channels with
  | nil => simp
  | cons channel channels ih =>
      rw [List.map_cons, List.sum_cons, ih, List.map_cons, List.sum_cons, List.countP_cons, BitVec.ofNat_add]
      cases happens channel with
      | true =>
          simp only [if_true]
          ac_rfl
      | false =>
          simp only [Bool.false_eq_true, if_false]
          ac_rfl

/-- One is added to the total, whatever the number of underflows. -/
theorem totalUnderflows_iff {total : BitVec 32} (counts : Fin 8 → BitVec 32) (happens : Fin 8 → Bool)
    (same : total = sumOfChannels counts) :
    (if (List.finRange 8).any happens then total + 1 else total) =
        sumOfChannels (fun channel => if happens channel then counts channel + 1 else counts channel) ↔
      (List.finRange 8).countP happens ≤ 1 := by
  have few : (List.finRange 8).countP happens ≤ 8 := List.countP_le_length
  rw [sum_underflows, ← same]
  cases any : (List.finRange 8).any happens with
  | true =>
      have some : 0 < (List.finRange 8).countP happens := by
        rw [List.countP_pos_iff]
        exact List.any_eq_true.mp any
      rw [if_pos rfl, add_right_inj]
      constructor
      · intro one
        have sizes := congrArg BitVec.toNat one
        rw [BitVec.toNat_ofNat, Nat.mod_eq_of_lt (by omega)] at sizes
        exact Nat.le_of_eq sizes.symm
      · intro atMost
        rw [show (List.finRange 8).countP happens = 1 by omega]
        rfl
  | false =>
      have none : (List.finRange 8).countP happens = 0 := by
        rw [List.countP_eq_zero]
        intro channel mem
        rw [List.any_eq_false] at any
        exact any channel mem
      rw [none]
      simp

/-! ## One cycle -/

section Windows

variable (p s i) (l : SinkLedger)

/-- A window is entered with what its accumulator held when it closed. -/
theorem recorded (running : i.clear = false) :
    (l.record p s i (s.step p i)).bytes = (if s.closes i then l.bytes + s.sampleBytesAccum else l.bytes) ∧
      (l.record p s i (s.step p i)).stalls = (if s.closes i then l.stalls + s.sampleStallsAccum else l.stalls) ∧
        (l.record p s i (s.step p i)).underflows =
          (if s.closes i then l.underflows + s.sampleUnderflowsAccum else l.underflows) := by
  rw [SinkLedger.record, step, running, if_neg Bool.false_ne_true, if_neg Bool.false_ne_true]
  cases closing : s.closes i with
  | true =>
      refine ⟨?_, rfl, rfl⟩
      exact congrArg (l.bytes + ·) BitVec.extractLsb'_append_extractLsb'
  | false => exact ⟨rfl, rfl, rfl⟩

end Windows

theorem conserved_reset (p : SinkParams) : Conserved p (ledgeredSink p).reset where
  underflows := rfl
  bytes := by
    change (0 : BitVec 64) = BitVec.ofNat 64 (0 * _)
    rw [Nat.zero_mul]
    rfl
  sampleBytes := rfl
  sampleStalls := rfl
  sampleUnderflows := rfl
  bounded _ := Nat.zero_le _
  level _ := rfl
  min _ := rfl
  max _ := rfl

theorem conserved_step_iff {s : BandwidthSink × SinkLedger} (conserved : Conserved p s) (i : SinkTick) :
    Conserved p ((ledgeredSink p).step s i) ↔ (i.clear = false → Separate p s.1 i) := by
  obtain ⟨s, l⟩ := s
  change Conserved p (s.step p i, l.record p s i (s.step p i)) ↔ _
  cases clears : i.clear with
  | true =>
      have cleared : (s.step p i, l.record p s i (s.step p i)) = (ledgeredSink p).reset := by
        rw [SinkLedger.record, step, clears]
        rfl
      rw [cleared]
      exact ⟨fun _ => nofun, fun _ => conserved_reset p⟩
  | false =>
      obtain ⟨bytes', stalls', underflows'⟩ := recorded p s i l clears
      have windowBytes := window_conserved (s.closes i = true) (s.beatFire p i = true) p.beatBytes conserved.sampleBytes
      have windowStalls := window_conserved (s.closes i = true) (s.stalled p i = true) 1 conserved.sampleStalls
      have windowUnderflows := window_conserved (s.closes i = true)
        ((List.finRange 8).any (s.underflows p i) = true) 1 conserved.sampleUnderflows
      have total := totalUnderflows_iff s.chUnderflowCount (s.underflows p i) conserved.underflows
      rw [← bytes'] at windowBytes
      rw [← stalls'] at windowStalls
      rw [← underflows'] at windowUnderflows
      constructor
      · intro kept _
        have kept_underflows := kept.underflows
        have kept_bytes := kept.sampleBytes
        have kept_stalls := kept.sampleStalls
        have kept_windows := kept.sampleUnderflows
        simp only [step, clears, Bool.false_eq_true, if_false] at kept_underflows kept_bytes kept_stalls kept_windows
        simp only [step, clears, Bool.false_eq_true, if_false] at windowBytes windowStalls windowUnderflows
        exact ⟨total.mp kept_underflows, windowBytes.mp kept_bytes, windowStalls.mp kept_stalls,
          windowUnderflows.mp kept_windows⟩
      · intro separate
        obtain ⟨once, separateBytes, separateStalls, separateUnderflows⟩ := separate rfl
        simp only [step, SinkLedger.record, clears, Bool.false_eq_true, if_false] at windowBytes windowStalls windowUnderflows ⊢
        refine ⟨total.mpr once, ?_, windowBytes.mpr separateBytes, windowStalls.mpr separateStalls,
          windowUnderflows.mpr separateUnderflows, ?_, ?_, ?_, ?_⟩
        · dsimp only
          rw [conserved.bytes]
          cases s.beatFire p i with
          | true =>
            rw [if_pos rfl, Bool.toNat_true, Nat.add_mul, Nat.one_mul, BitVec.ofNat_add]
            rfl
          | false => rfl
        · exact fun channel => (level_step (conserved.bounded channel)).1
        · intro channel
          have moved := (@level_step p s i channel (conserved.bounded channel)).2
          have level := conserved.level channel
          dsimp only at level ⊢
          omega
        · intro channel
          dsimp only
          rw [List.foldr_cons, ← conserved.min channel]
          dsimp only
          split_ifs with less
          · exact (Nat.min_eq_left (Nat.le_of_lt less)).symm
          · exact (Nat.min_eq_right (Nat.not_lt.mp less)).symm
        · intro channel
          dsimp only
          rw [List.foldr_cons, ← conserved.max channel]
          dsimp only
          split_ifs with less
          · exact (Nat.max_eq_left (Nat.le_of_lt less)).symm
          · exact (Nat.max_eq_right (Nat.not_lt.mp less)).symm

end BandwidthSink

/-! ## Runs -/

/-- The counters are those of the ledger after every cycle of exactly the runs in which no two
channels underflow at once and no event falls into the closing of a window that has counted. -/
theorem counts_conserved_iff (p : SinkParams) (ticks : List SinkTick) :
    (ledgeredSink p).Along (fun s i => Conserved p ((ledgeredSink p).step s i)) (ledgeredSink p).reset ticks ↔
      (ledgeredSink p).Along (fun s i => i.clear = false → s.1.Separate p i) (ledgeredSink p).reset ticks :=
  (ledgeredSink p).along_kept_iff (P := Conserved p) (C := fun s i => i.clear = false → s.1.Separate p i)
    (fun _ i conserved => BandwidthSink.conserved_step_iff conserved i) (BandwidthSink.conserved_reset p) ticks

def beatInWindow : SinkTick := ⟨false, 0, true, fun _ => true, 1⟩

/-- The second window is reported with the first beat, which stays in the accumulator. -/
theorem window_counts_twice : ¬ (ledgeredSink deployedSink).Along
    (fun s i => Conserved deployedSink ((ledgeredSink deployedSink).step s i))
    (ledgeredSink deployedSink).reset [beatInWindow, beatInWindow] := by
  intro conserved
  exact absurd conserved.2.1.sampleBytes (by decide)

end Xczu47dr.Bandwidth
