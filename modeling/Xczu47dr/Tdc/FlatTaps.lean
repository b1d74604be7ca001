import Xczu47dr.Tdc.TapEncoder

/-! # The encoder, seen flat

What the two-level encoder makes of a sample in terms of the filtered code as a whole,
and which of the samples become events.
-/

namespace Xczu47dr.Tdc

open Clocked Machine Codes TapEncoder

variable {groupBits : Nat}

/-! ## The specification -/

namespace Sample

variable (x : Sample groupBits)

def code : Nat → Bool := filtered x.carry

def Zero : Prop := ∀ i < tapCount groupBits, x.code i = false

def Full : Prop := ∀ i < tapCount groupBits, x.code i = true

def FallsAt (tap : Nat) : Prop := Falls (tapCount groupBits) x.code tap

def Bubbled : Prop := ∃ p q, p < q ∧ p / 8 = q / 8 ∧ x.FallsAt p ∧ x.FallsAt q

def Good : Prop := x.code 0 = true ∧ ¬ x.Full ∧ (∃ tap, x.FallsAt tap) ∧ ¬ x.Bubbled

end Sample

/-- The samples from `start` to `last` are not zero, and the one before them is. -/
def Episode (samples : Nat → Sample groupBits) (start last : Nat) : Prop :=
  (∀ m, m + 1 = start → (samples m).Zero) ∧ ∀ k, start ≤ k → k ≤ last → ¬ (samples k).Zero

/-- The first sample of its non-zero episode that is taken while ready. -/
def FirstReady (samples : Nat → Sample groupBits) (n : Nat) : Prop :=
  ∃ start ≤ n, Episode samples start n ∧ (samples n).ready = true ∧
    ∀ k, start ≤ k → k < n → (samples k).ready = false

/-- The event in stage 3 is the one of the sample. -/
structure EventOf (s : TapEncoder groupBits) (x : Sample groupBits) : Prop where
  good : s.goodS3 = true ↔ x.Good
  overflow : s.overflowS3 = true ↔ x.Full
  bubble : s.bubbleS3 = true ↔ ¬ x.Full ∧ ¬ x.Good
  tap : x.Good → IsGreatest {tap | x.FallsAt tap} s.tapS3
  slot : s.slotS3 = x.slot
  epoch : s.epochS3 = x.epoch

/-! ## One group -/

section Group

variable (sampled : BitVec (tapCount groupBits))

theorem getLsbD_octet (wire : Nat → Bool) (low : Nat) {q : Nat} (within : q < 8) :
    (octet wire low).getLsbD q = wire (low + q) := by
  have bit : (octet wire low).getLsbD q = ((List.range 8).map fun q => wire (low + q)).getD q false :=
    BitVec.getLsbD_ofBoolListLE
  rw [bit, List.getD_eq_getElem _ _ (by simpa using within), List.getElem_map, List.getElem_range]

theorem octet_ne_zero (b : BitVec 8) : (b != 0) = true ↔ ∃ q < 8, b.getLsbD q = true := by
  rw [bne_iff_ne]
  constructor
  · intro nonzero
    by_contra none
    push Not at none
    refine nonzero (BitVec.eq_of_getLsbD_eq fun q within => ?_)
    rw [Bool.eq_false_of_not_eq_true (none q within)]
    exact BitVec.getLsbD_zero.symm
  · rintro ⟨q, -, set⟩ rfl
    rw [BitVec.ofNat_eq_ofNat, BitVec.getLsbD_zero] at set
    exact Bool.noConfusion set

theorem octet_full (b : BitVec 8) : (b == BitVec.allOnes 8) = true ↔ ∀ q < 8, b.getLsbD q = true := by
  rw [beq_iff_eq]
  constructor
  · rintro rfl q within
    rw [BitVec.getLsbD_allOnes, decide_eq_true within]
  · intro all
    refine BitVec.eq_of_getLsbD_eq fun q within => ?_
    rw [all q within, BitVec.getLsbD_allOnes, decide_eq_true within]

/-- A boundary of a group is a fall of the whole code. -/
theorem boundary_bit {g q : Nat} (inside : g < groupCount groupBits) (within : q < 8) :
    (boundary sampled g).getLsbD q = true ↔ Falls (tapCount groupBits) (filtered sampled) (g * 8 + q) := by
  have next : g * 8 + 1 + q = g * 8 + q + 1 := by omega
  rw [boundary, BitVec.getLsbD_and, BitVec.getLsbD_not, bitsLocal, bitsNext, getLsbD_octet _ _ within,
    getLsbD_octet _ _ within, sampledExtended, next, decide_eq_true within, Bool.true_and, Bool.and_eq_true,
    Bool.not_eq_true', Falls]
  have short : g * 8 + q < tapCount groupBits := by
    change g * 8 + q < groupCount groupBits * 8
    omega
  constructor
  · rintro ⟨now, clear⟩
    refine ⟨short, now, fun more => ?_⟩
    rw [if_pos more] at clear
    exact clear
  · rintro ⟨-, now, clear⟩
    refine ⟨now, ?_⟩
    split_ifs with more
    · exact clear more
    · rfl

theorem group_lt {tap : Nat} (short : tap < tapCount groupBits) : tap / 8 < groupCount groupBits :=
  (Nat.div_lt_iff_lt_mul (by decide)).mpr short

theorem boundary_tap {tap : Nat} (short : tap < tapCount groupBits) :
    (boundary sampled (tap / 8)).getLsbD (tap % 8) = true ↔ Falls (tapCount groupBits) (filtered sampled) tap := by
  rw [boundary_bit sampled (group_lt short) (Nat.mod_lt _ (by decide)), Nat.div_add_mod']

theorem forall_taps {P : Nat → Prop} :
    (∀ tap < tapCount groupBits, P tap) ↔ ∀ g < groupCount groupBits, ∀ q < 8, P (g * 8 + q) := by
  constructor
  · intro all g inside q within
    refine all _ ?_
    change g * 8 + q < groupCount groupBits * 8
    omega
  · intro all tap short
    have here := all _ (group_lt short) _ (Nat.mod_lt tap (by decide))
    rw [Nat.div_add_mod'] at here
    exact here

theorem exists_taps {P : Nat → Prop} :
    (∃ tap < tapCount groupBits, P tap) ↔ ∃ g < groupCount groupBits, ∃ q < 8, P (g * 8 + q) := by
  have none := @forall_taps groupBits fun tap => ¬ P tap
  rw [← not_iff_not]
  push Not
  exact none

end Group

/-! ## The groups of a sample -/

/-- The registers of the groups, and what goes with them, are those of the sample. -/
structure Encodes (s : TapEncoder groupBits) (x : Sample groupBits) : Prop where
  nonzero : ∀ g, s.groupNonzero g = (bitsLocal x.carry g != 0)
  full : ∀ g, s.groupFull g = (bitsLocal x.carry g == BitVec.allOnes 8)
  falling : ∀ g, s.groupBoundary g = (boundary x.carry g != 0)
  multi : ∀ g, s.groupMultiBoundary g =
    (boundary x.carry g != 0 && (boundary x.carry g &&& (boundary x.carry g - 1)) != 0)
  index : ∀ g, s.groupIndex g = highestBoundaryIndex (boundary x.carry g)
  head : s.headS2 = x.code 0
  slot : s.slotS2 = x.slot
  epoch : s.epochS2 = x.epoch
  ready : s.readyS2 = x.ready

namespace Encodes

variable {s : TapEncoder groupBits} {x : Sample groupBits} (encodes : Encodes s x)

include encodes

theorem sampleZero : s.sampleZero = true ↔ x.Zero := by
  rw [TapEncoder.sampleZero, Bool.not_eq_true', List.any_eq_false, Sample.Zero, forall_taps]
  refine ⟨fun none g inside q within => ?_, fun zero g inside nonzero => ?_⟩
  · have empty := none g (List.mem_range.mpr inside)
    rw [encodes.nonzero, octet_ne_zero] at empty
    refine Bool.eq_false_of_not_eq_true fun set => empty ⟨q, within, ?_⟩
    rw [bitsLocal, getLsbD_octet _ _ within]
    exact set
  · rw [encodes.nonzero, octet_ne_zero] at nonzero
    obtain ⟨q, within, set⟩ := nonzero
    rw [bitsLocal, getLsbD_octet _ _ within] at set
    exact Bool.noConfusion ((zero g (List.mem_range.mp inside) q within).symm.trans set)

theorem sampleFull : s.sampleFull = true ↔ x.Full := by
  rw [TapEncoder.sampleFull, List.all_eq_true, Sample.Full, forall_taps]
  refine forall_congr' fun g => ?_
  rw [List.mem_range, encodes.full, octet_full]
  refine imp_congr_right fun inside => forall₂_congr fun q within => ?_
  rw [bitsLocal, getLsbD_octet _ _ within]
  rfl

theorem groupBoundary {g : Nat} (inside : g < groupCount groupBits) :
    s.groupBoundary g = true ↔ ∃ q < 8, x.FallsAt (g * 8 + q) := by
  rw [encodes.falling, octet_ne_zero]
  exact exists_congr fun q => and_congr_right fun within => boundary_bit x.carry inside within

theorem boundaryFound : s.boundaryFound = true ↔ ∃ tap, x.FallsAt tap := by
  have within : (∃ tap, x.FallsAt tap) ↔ ∃ tap < tapCount groupBits, x.FallsAt tap :=
    exists_congr fun tap => ⟨fun falls => ⟨falls.1, falls⟩, fun falls => falls.2⟩
  rw [TapEncoder.boundaryFound, List.any_eq_true, within, exists_taps]
  refine exists_congr fun g => ?_
  rw [List.mem_range]
  exact and_congr_right fun inside => encodes.groupBoundary inside

theorem multiBoundary :
    (List.range (groupCount groupBits)).any s.groupMultiBoundary = true ↔ x.Bubbled := by
  rw [List.any_eq_true]
  constructor
  · rintro ⟨g, inside, more⟩
    rw [List.mem_range] at inside
    rw [encodes.multi, Bool.and_eq_true, bne_iff_ne, bne_iff_ne] at more
    obtain ⟨p, q, before, first, second⟩ := (and_pred_ne_zero _).mp more
    have short : q < 8 := BitVec.lt_of_getLsbD second
    refine ⟨g * 8 + p, g * 8 + q, by omega, by omega, ?_, ?_⟩
    · exact (boundary_bit x.carry inside (by omega)).mp first
    · exact (boundary_bit x.carry inside short).mp second
  · rintro ⟨p, q, before, same, first, second⟩
    refine ⟨p / 8, List.mem_range.mpr (group_lt first.1), ?_⟩
    rw [encodes.multi, Bool.and_eq_true, bne_iff_ne, bne_iff_ne]
    refine (and_pred_ne_zero _).mpr ⟨p % 8, q % 8, by omega, (boundary_tap x.carry first.1).mpr first, ?_⟩
    rw [same]
    exact (boundary_tap x.carry second.1).mpr second

theorem sampleBad : s.sampleBad = false ↔ x.Good := by
  rw [TapEncoder.sampleBad, Bool.or_eq_false_iff, Bool.or_eq_false_iff, Bool.or_eq_false_iff, Bool.not_eq_false',
    Bool.not_eq_false', encodes.boundaryFound, encodes.head, ← Bool.not_eq_true, encodes.sampleFull,
    ← Bool.not_eq_true (List.any _ _), encodes.multiBoundary, Sample.Good]
  exact ⟨fun ⟨⟨⟨head, falls⟩, short⟩, single⟩ => ⟨head, short, falls, single⟩,
    fun ⟨head, short, falls, single⟩ => ⟨⟨⟨head, falls⟩, short⟩, single⟩⟩

/-- The two loops lead to the highest fall. -/
theorem decodedTap {tap : Nat} (falls : x.FallsAt tap) (last : ∀ later, tap < later → ¬ x.FallsAt later) :
    s.decodedTap = tap := by
  have inside := group_lt falls.1
  have hits : s.groupBoundary (tap / 8) = true := by
    refine (encodes.groupBoundary inside).mpr ⟨tap % 8, Nat.mod_lt _ (by decide), ?_⟩
    rw [Nat.div_add_mod']
    exact falls
  have highest : ∀ g, tap / 8 < g → g < groupCount groupBits → s.groupBoundary g = false := by
    intro g after inside
    refine Bool.eq_false_of_not_eq_true fun hit => ?_
    obtain ⟨q, -, falls⟩ := (encodes.groupBoundary inside).mp hit
    exact last (g * 8 + q) (by omega) falls
  have index : s.groupIndex (tap / 8) = tap % 8 := by
    have short : tap % 8 < 8 := Nat.mod_lt _ (by decide)
    rw [encodes.index, highestBoundaryIndex, lastHit_eq short ((boundary_tap x.carry falls.1).mpr falls), id]
    intro q after within
    refine Bool.eq_false_of_not_eq_true fun set => ?_
    exact last (tap / 8 * 8 + q) (by omega) ((boundary_bit x.carry inside within).mp set)
  rw [TapEncoder.decodedTap, encodedGroup, encodedLocal, lastHit_eq inside hits highest,
    lastHit_eq inside hits highest, index, Nat.mod_eq_of_lt inside, Nat.div_add_mod']

end Encodes

/-! ## Whole runs -/

section Runs

variable (samples : Nat → Sample groupBits)

/-- A sample reaches the groups two edges after it is taken, with all that goes with it. -/
theorem encodes_trace (n : Nat) : Encodes ((tapEncoder groupBits).trace samples (n + 2)) (samples n) :=
  ⟨fun _ => rfl, fun _ => rfl, fun _ => rfl, fun _ => rfl, fun _ => rfl, rfl, rfl, rfl, rfl⟩

theorem bitsLocal_zero (g : Nat) : bitsLocal (0 : BitVec (tapCount groupBits)) g = 0 := by
  refine BitVec.eq_of_getLsbD_eq fun q within => ?_
  rw [bitsLocal, getLsbD_octet _ _ within, filtered]
  split_ifs <;> simp

theorem captures_reset : ((tapEncoder groupBits).trace samples 0).captures = false ∧
    ((tapEncoder groupBits).trace samples 1).captures = false := by
  have none : ((tapEncoder groupBits).trace samples 0).sampleZero = true ∧
      ((tapEncoder groupBits).trace samples 1).sampleZero = true := by
    rw [sampleZero, sampleZero, Bool.not_eq_true', Bool.not_eq_true', List.any_eq_false, List.any_eq_false]
    refine ⟨fun g _ => Bool.false_ne_true, fun g _ set => ?_⟩
    change (bitsLocal (0 : BitVec (tapCount groupBits)) g != 0) = true at set
    rw [bitsLocal_zero] at set
    exact Bool.noConfusion set
  rw [captures, captures, none.1, none.2]
  exact ⟨rfl, rfl⟩

theorem armed_step {s : TapEncoder groupBits} (quiet : s.captures = false) (armed : s.armed = true)
    (i : Sample groupBits) : (s.step i).armed = true := by
  rw [TapEncoder.step, quiet, armed]
  cases s.sampleZero <;> rfl

/-- The encoder is armed as long as no sample was ready since the last all-zero one. -/
theorem armed_trace (n : Nat) : ((tapEncoder groupBits).trace samples (n + 2)).armed = true ↔
    ∀ k < n, (samples k).ready = true → (samples k).Zero ∨ ∃ j, k < j ∧ j < n ∧ (samples j).Zero := by
  induction n with
  | zero =>
    obtain ⟨first, second⟩ := captures_reset samples
    have armed := armed_step second (armed_step first rfl (samples 0)) (samples 1)
    exact iff_of_true armed fun k before => absurd before (Nat.not_lt_zero k)
  | succ n ih =>
    have encodes := encodes_trace samples n
    have armed : ((tapEncoder groupBits).trace samples (n + 1 + 2)).armed =
        if ((tapEncoder groupBits).trace samples (n + 2)).sampleZero then true
        else if ((tapEncoder groupBits).trace samples (n + 2)).captures then false
        else ((tapEncoder groupBits).trace samples (n + 2)).armed := rfl
    rw [armed]
    by_cases zero : (samples n).Zero
    · rw [encodes.sampleZero.mpr zero, if_pos rfl]
      refine iff_of_true rfl fun k before _ => ?_
      rcases Nat.lt_succ_iff_lt_or_eq.mp before with earlier | rfl
      · exact .inr ⟨n, earlier, Nat.lt_succ_self n, zero⟩
      · exact .inl zero
    · have shows := Bool.eq_false_of_not_eq_true fun shows => zero (encodes.sampleZero.mp shows)
      rw [shows, if_neg Bool.false_ne_true, captures, shows, encodes.ready, Bool.not_false, Bool.true_and]
      -- a sample before it is followed by the same zeros, and it is none itself
      have earlier :
          (∀ k < n, (samples k).ready = true → (samples k).Zero ∨ ∃ j, k < j ∧ j < n ∧ (samples j).Zero) ↔
            ∀ k < n, (samples k).ready = true → (samples k).Zero ∨ ∃ j, k < j ∧ j < n + 1 ∧ (samples j).Zero := by
        refine forall₂_congr fun k before => imp_congr_right fun _ => or_congr_right (exists_congr fun j => ?_)
        refine and_congr_right fun _ => ⟨fun between => ⟨Nat.lt_succ_of_lt between.1, between.2⟩, fun between => ?_⟩
        rcases Nat.lt_succ_iff_lt_or_eq.mp between.1 with before | rfl
        · exact ⟨before, between.2⟩
        · exact absurd between.2 zero
      rw [Nat.forall_lt_succ_right, ← earlier, ← ih]
      have last : ((samples n).ready = true → (samples n).Zero ∨ ∃ j, n < j ∧ j < n + 1 ∧ (samples j).Zero) ↔
          (samples n).ready = false := by
        rw [← Bool.not_eq_true]
        refine imp_congr_right fun _ => iff_of_false ?_ id
        rintro (none | ⟨j, after, before, -⟩)
        · exact zero none
        · omega
      rw [last]
      cases ((tapEncoder groupBits).trace samples (n + 2)).armed <;> cases (samples n).ready <;> simp

/-- A sample becomes an event if and only if it is the first ready one of its episode. -/
theorem captures_trace (n : Nat) :
    ((tapEncoder groupBits).trace samples (n + 2)).captures = true ↔ FirstReady samples n := by
  have encodes := encodes_trace samples n
  rw [captures, Bool.and_eq_true, Bool.and_eq_true, Bool.not_eq_true', encodes.ready, armed_trace samples n,
    ← Bool.not_eq_true, encodes.sampleZero]
  constructor
  · rintro ⟨⟨nonzero, armed⟩, ready⟩
    by_cases once : ∃ m < n, (samples m).Zero
    · -- the episode starts after the last all-zero sample
      obtain ⟨m, before, zero, last⟩ := exists_last once
      refine ⟨m + 1, before, ⟨fun k same => ?_, fun k after upto => ?_⟩, ready, fun k after upto => ?_⟩
      · rw [Nat.succ.inj same]
        exact zero
      · rcases Nat.eq_or_lt_of_le upto with rfl | upto
        · exact nonzero
        · exact last k after upto
      · refine Bool.eq_false_of_not_eq_true fun taken => ?_
        rcases armed k upto taken with none | ⟨j, later, within, none⟩
        · exact last k after upto none
        · exact last j (by omega) within none
    · push Not at once
      refine ⟨0, Nat.zero_le n, ⟨fun m same => absurd same (Nat.succ_ne_zero m), fun k _ upto => ?_⟩, ready,
        fun k _ upto => ?_⟩
      · rcases Nat.eq_or_lt_of_le upto with rfl | upto
        · exact nonzero
        · exact once k upto
      · refine Bool.eq_false_of_not_eq_true fun taken => ?_
        rcases armed k upto taken with none | ⟨j, -, within, none⟩
        · exact once k upto none
        · exact once j within none
  · rintro ⟨start, before, ⟨opened, nonzero⟩, ready, first⟩
    refine ⟨⟨nonzero n before (Nat.le_refl n), fun k earlier taken => ?_⟩, ready⟩
    rcases Nat.lt_or_ge k start with outside | inside
    · obtain ⟨m, rfl⟩ := Nat.exists_eq_succ_of_ne_zero (Nat.ne_zero_of_lt outside)
      rcases Nat.lt_succ_iff_lt_or_eq.mp outside with earlier | rfl
      · exact .inr ⟨m, earlier, by omega, opened m rfl⟩
      · exact .inl (opened k rfl)
    · exact Bool.noConfusion ((first k inside earlier).symm.trans taken)

/-- The event of a sample that is captured. -/
theorem event_step {s : TapEncoder groupBits} {x : Sample groupBits} (encodes : Encodes s x)
    (captured : s.captures = true) (i : Sample groupBits) : EventOf (s.step i) x := by
  have good : (!s.sampleFull && !s.sampleBad) = true ↔ x.Good := by
    rw [Bool.and_eq_true, Bool.not_eq_true', Bool.not_eq_true', encodes.sampleBad, ← Bool.not_eq_true,
      encodes.sampleFull]
    exact and_iff_right_of_imp fun good => good.2.1
  have event : (s.step i).goodS3 = (!s.sampleFull && !s.sampleBad) ∧ (s.step i).overflowS3 = s.sampleFull ∧
      (s.step i).bubbleS3 = (!s.sampleFull && s.sampleBad) ∧
        (s.step i).tapS3 = (if s.sampleBad then 0 else s.decodedTap) ∧
          (s.step i).slotS3 = s.slotS2 ∧ (s.step i).epochS3 = s.epochS2 := by
    rw [TapEncoder.step, captured]
    exact ⟨rfl, rfl, rfl, rfl, rfl, rfl⟩
  obtain ⟨isGood, overflow, bubble, tap, slot, epoch⟩ := event
  constructor
  case good => rw [isGood, good]
  case overflow => rw [overflow, encodes.sampleFull]
  case bubble =>
    rw [bubble, Bool.and_eq_true, Bool.not_eq_true', ← Bool.not_eq_true, encodes.sampleFull, ← encodes.sampleBad,
      Bool.not_eq_false]
  case tap =>
    intro good
    obtain ⟨first, falls⟩ := good.2.2.1
    obtain ⟨highest, -, falls, last⟩ := exists_last ⟨first, falls.1, falls⟩
    rw [tap, encodes.sampleBad.mpr good, if_neg Bool.false_ne_true,
      encodes.decodedTap falls fun later after falls => last later after falls.1 falls]
    exact ⟨falls, fun other falls => Nat.le_of_not_lt fun after => last other after falls.1 falls⟩
  case slot => rw [slot, encodes.slot]
  case epoch => rw [epoch, encodes.epoch]

variable {samples} in
/-- An episode that meets a ready sample has one first one. -/
theorem firstReady_unique {start last : Nat} (episode : Episode samples start last)
    (meets : ∃ k, start ≤ k ∧ k ≤ last ∧ (samples k).ready = true) :
    ∃! n, start ≤ n ∧ n ≤ last ∧ FirstReady samples n := by
  obtain ⟨k, after, upto, ready⟩ := meets
  obtain ⟨n, later, taken, first⟩ := exists_first (Q := fun k => (samples k).ready = true) ⟨k, after, ready⟩
  have within : n ≤ last := Nat.le_trans (Nat.le_of_not_lt fun before => first k after before ready) upto
  have untaken := fun k after before => Bool.eq_false_of_not_eq_true (first k after before)
  refine ⟨n, ⟨later, within, start, later, ⟨episode.1, fun k after upto => ?_⟩, taken, untaken⟩, ?_⟩
  · exact episode.2 k after (Nat.le_trans upto within)
  · rintro other ⟨after, upto, begin, from_begin, own, ready, only⟩
    -- both episodes have the one all-zero sample before them
    have same : begin = start := by
      rcases Nat.lt_trichotomy begin start with before | same | before
      · obtain ⟨m, rfl⟩ := Nat.exists_eq_succ_of_ne_zero (Nat.ne_zero_of_lt before)
        exact absurd (episode.1 m rfl) (own.2 m (by omega) (by omega))
      · exact same
      · obtain ⟨m, rfl⟩ := Nat.exists_eq_succ_of_ne_zero (Nat.ne_zero_of_lt before)
        exact absurd (own.1 m rfl) (episode.2 m (by omega) (by omega))
    subst same
    rcases Nat.lt_trichotomy other n with before | same | before
    · exact absurd ready (first other after before)
    · exact same
    · exact Bool.noConfusion ((only n later before).symm.trans taken)

theorem event_trace {n : Nat} (first : FirstReady samples n) :
    EventOf ((tapEncoder groupBits).trace samples (n + 3)) (samples n) :=
  event_step (encodes_trace samples n) ((captures_trace samples n).mpr first) (samples (n + 2))

/-- The encoder is its flat specification: the first ready sample of each episode becomes an
    event, three edges later, and no other sample does. -/
theorem encoder_flat :
    (∀ n < 3, ((tapEncoder groupBits).trace samples n).validS3 = false) ∧
    (∀ n, ((tapEncoder groupBits).trace samples (n + 3)).validS3 = true ↔ FirstReady samples n) ∧
    (∀ n, FirstReady samples n → EventOf ((tapEncoder groupBits).trace samples (n + 3)) (samples n)) ∧
    ∀ start last, Episode samples start last → (∃ k, start ≤ k ∧ k ≤ last ∧ (samples k).ready = true) →
      ∃! n, start ≤ n ∧ n ≤ last ∧ ((tapEncoder groupBits).trace samples (n + 3)).validS3 = true := by
  refine ⟨fun n early => ?_, captures_trace samples, fun _ => event_trace samples,
    fun start last episode meets => ?_⟩
  · obtain ⟨first, second⟩ := captures_reset samples
    match n, early with
    | 0, _ => rfl
    | 1, _ => exact first
    | 2, _ => exact second
  · obtain ⟨n, one, only⟩ := firstReady_unique episode meets
    refine ⟨n, ⟨one.1, one.2.1, (captures_trace samples n).mpr one.2.2⟩, fun other event => ?_⟩
    exact only other ⟨event.1, event.2.1, (captures_trace samples other).mp event.2.2⟩

end Runs

end Xczu47dr.Tdc
