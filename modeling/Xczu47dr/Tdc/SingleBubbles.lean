import Xczu47dr.Tdc.FlatTaps

/-! # One bubble

A thermometer code with one tap flipped, and how far the tap of its event is from the
edge.  The bubble filter passes the last tap, and the check for several boundaries looks
at one group at a time: a flip of the last tap is taken for the edge where the edge is
in another group.
-/

namespace Xczu47dr.Tdc

open Clocked Machine Codes TapEncoder

variable {groupBits e f : Nat}

/-- Taps 0 to `e`, and tap `f` flipped. -/
def flippedEdge (groupBits e f : Nat) : BitVec (tapCount groupBits) :=
  BitVec.ofNat _ (2 ^ (e + 1) - 1) ^^^ BitVec.twoPow _ f

/-- A good event of the code has a tap within one of its edge. -/
def WithinOne (groupBits e f : Nat) : Prop :=
  ∀ (samples : Nat → Sample groupBits) (n : Nat), (samples n).carry = flippedEdge groupBits e f →
    ((tapEncoder groupBits).trace samples (n + 3)).validS3 = true →
    ((tapEncoder groupBits).trace samples (n + 3)).goodS3 = true →
      ((tapEncoder groupBits).trace samples (n + 3)).tapS3 ≤ e + 1 ∧
        e ≤ ((tapEncoder groupBits).trace samples (n + 3)).tapS3 + 1

theorem getLsbD_flippedEdge (short : e < tapCount groupBits) (within : f < tapCount groupBits) :
    (flippedEdge groupBits e f).getLsbD = flipAt (thermometer e) f := by
  funext i
  rw [flippedEdge, BitVec.getLsbD_xor, BitVec.getLsbD_ofNat, BitVec.getLsbD_twoPow, Nat.testBit_two_pow_sub_one,
    flipAt, thermometer]
  by_cases same : i = f
  · rw [if_pos same, same, decide_eq_true within, decide_eq_true rfl, Bool.true_and, Bool.and_true, Bool.xor_true]
    congr 1
    exact decide_eq_decide.mpr Nat.lt_succ_iff
  · rw [if_neg same, decide_eq_false (Ne.symm same), Bool.and_false, Bool.xor_false]
    by_cases inside : i < tapCount groupBits
    · rw [decide_eq_true inside, Bool.true_and]
      exact decide_eq_decide.mpr Nat.lt_succ_iff
    · rw [decide_eq_false inside, Bool.false_and]
      exact (decide_eq_false (by omega)).symm

theorem code_flippedEdge {x : Sample groupBits} (short : e < tapCount groupBits) (within : f < tapCount groupBits)
    (carry : x.carry = flippedEdge groupBits e f) (i : Nat) :
    x.code i = medianFilter (tapCount groupBits) (flipAt (thermometer e) f) i := by
  rw [← getLsbD_flippedEdge short within, ← carry]
  rfl

/-- The flip of the last tap stays in the filtered code, as a second boundary. -/
theorem fallsAt_ends {x : Sample groupBits} {e k : Nat} (apart : e + 3 ≤ k) (ends : k + 1 = tapCount groupBits)
    (code : ∀ i < tapCount groupBits, x.code i = (thermometer e i || decide (i = k))) (tap : Nat) :
    x.FallsAt tap ↔ tap = e ∨ tap = k := by
  rw [Sample.FallsAt, falls_congr code, Falls, Bool.or_eq_true, Bool.or_eq_false_iff, thermometer, thermometer,
    decide_eq_true_iff, decide_eq_true_iff, decide_eq_false_iff_not, decide_eq_false_iff_not]
  omega

/-- The two boundaries are in one group if and only if the edge is in the last one. -/
theorem bubbled_ends {x : Sample groupBits} {e k : Nat} (apart : e + 3 ≤ k) (ends : k + 1 = tapCount groupBits)
    (code : ∀ i < tapCount groupBits, x.code i = (thermometer e i || decide (i = k))) :
    x.Bubbled ↔ tapCount groupBits ≤ e + 8 := by
  have size : tapCount groupBits = groupCount groupBits * 8 := rfl
  constructor
  · rintro ⟨p, q, before, same, first, second⟩
    rw [fallsAt_ends apart ends code] at first second
    omega
  · intro near
    refine ⟨e, k, by omega, by omega, ?_, ?_⟩
    · exact (fallsAt_ends apart ends code e).mpr (.inl rfl)
    · exact (fallsAt_ends apart ends code k).mpr (.inr rfl)

/-- A flip of the last tap makes a good event, with that tap, where the edge is outside of the
    last group. -/
theorem good_ends {x : Sample groupBits} {k : Nat} (apart : e + 8 ≤ k) (ends : k + 1 = tapCount groupBits)
    (carry : x.carry = flippedEdge groupBits e k) : x.Good ∧ x.FallsAt k := by
  have code : ∀ i < tapCount groupBits, x.code i = (thermometer e i || decide (i = k)) := by
    intro i inside
    rw [code_flippedEdge (by omega) (by omega) carry]
    exact medianFilter_flipAt_last (by omega) ends i inside
  have falls := (fallsAt_ends (by omega) ends code k).mpr (.inr rfl)
  refine ⟨⟨?_, fun full => ?_, ⟨k, falls⟩, fun bubbled => ?_⟩, falls⟩
  · rw [code 0 (by omega)]
    rfl
  · have next := full (e + 1) (by omega)
    rw [code (e + 1) (by omega), thermometer, decide_eq_false (by omega), decide_eq_false (by omega)] at next
    exact Bool.noConfusion next
  · have near := (bubbled_ends (by omega) ends code).mp bubbled
    omega

/-- A good event of any other flip is next to the edge. -/
theorem tap_near {x : Sample groupBits} {tap : Nat} (short : e + 1 < tapCount groupBits)
    (within : f < tapCount groupBits) (near : f + 1 = tapCount groupBits → tapCount groupBits ≤ e + 8)
    (carry : x.carry = flippedEdge groupBits e f) (good : x.Good) (falls : x.FallsAt tap) :
    tap ≤ e + 1 ∧ e ≤ tap + 1 := by
  have code := fun i (_ : i < tapCount groupBits) => code_flippedEdge (x := x) (by omega) within carry i
  have inner : 0 < f := by
    -- with the first tap flipped the code has no head
    refine Nat.pos_of_ne_zero fun first => ?_
    have head := good.1
    rw [code 0 (by omega), medianFilter, if_pos (.inl rfl), flipAt, if_pos first.symm, thermometer] at head
    exact Bool.noConfusion head
  rcases medianFilter_flipAt short within inner with ⟨d, above, below, shape⟩ | full | ⟨apart, ends⟩
  · have moved := (falls_congr (fun i inside => (code i inside).trans (shape i inside)) tap).mp falls
    rw [falls_thermometer (by omega)] at moved
    exact moved ▸ ⟨above, below⟩
  · exact absurd (fun i inside => (code i inside).trans (full i inside)) good.2.1
  · -- both boundaries are in the last group
    refine absurd ((bubbled_ends apart ends fun i inside => ?_).mpr (near ends)) good.2.2.2
    exact (code i inside).trans (medianFilter_flipAt_last apart ends i inside)

/-- One bubble keeps the tap within one of the edge, unless it is the last tap and the edge is
    outside of the last group. -/
theorem single_bubble (short : e + 1 < tapCount groupBits) (within : f < tapCount groupBits) :
    WithinOne groupBits e f ↔ ¬ (f + 1 = tapCount groupBits ∧ e + 8 < tapCount groupBits) := by
  constructor
  · rintro holds ⟨ends, far⟩
    -- the flipped code for ever: its first sample becomes an event
    let x : Sample groupBits := ⟨flippedEdge groupBits e f, true, 0, 0⟩
    obtain ⟨good, falls⟩ := good_ends (x := x) (by omega) ends rfl
    have first : FirstReady (fun _ => x) 0 := by
      refine ⟨0, Nat.le_refl 0, ⟨fun m same => absurd same (Nat.succ_ne_zero m), fun _ _ _ zero => ?_⟩, rfl,
        fun k _ before => absurd before (Nat.not_lt_zero k)⟩
      exact Bool.noConfusion ((zero 0 (by omega)).symm.trans good.1)
    have event := event_trace (fun _ => x) first
    have tap := holds (fun _ => x) 0 rfl ((captures_trace _ 0).mpr first) (event.good.mpr good)
    have highest := (event.tap good).2 falls
    omega
  · intro inner samples n carry valid isGood
    have event := event_trace samples ((captures_trace samples n).mp valid)
    have good := event.good.mp isGood
    exact tap_near short within (fun ends => by omega) carry good (event.tap good).1

/-- Two groups, the edge in the first and a bubble next to it but one. -/
theorem single_bubble_inner : WithinOne 1 3 5 :=
  (@single_bubble 1 3 5 (by decide) (by decide)).mpr (by decide)

/-- Two groups, the edge in the first and a bubble at the last tap, which becomes the event. -/
theorem last_bubble_accepted : ¬ WithinOne 1 3 15 := by
  intro holds
  have near := holds (fun _ => ⟨flippedEdge 1 3 15, true, 0, 0⟩) 0 rfl (by decide) (by decide)
  exact absurd near (by decide)

end Xczu47dr.Tdc
