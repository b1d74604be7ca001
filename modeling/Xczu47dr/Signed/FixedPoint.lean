import Mathlib.Algebra.BigOperators.Group.Finset.Basic
import Mathlib.Algebra.BigOperators.Intervals
import Mathlib.Algebra.Order.Ring.Int
import Mathlib.Data.Rat.Floor
import Mathlib.Tactic.Linarith
import Mathlib.Tactic.Ring
import Xczu47dr.Clocked.Indices

/-! # Fixed-point arithmetic

Products and sums of signed words that are wide enough for the exact result, and
the rounding of a number that carries a fraction.
-/

namespace Signed

variable {w : Nat}

theorem two_mul_toInt_bounds (x : BitVec w) : -2 ^ w ≤ 2 * x.toInt ∧ 2 * x.toInt < 2 ^ w :=
  ⟨BitVec.le_two_mul_toInt, BitVec.two_mul_toInt_lt⟩

/-! ## Exact results -/

/-- A product that is as wide as both its factors together is exact. -/
theorem toInt_mul_signExtend {m n : Nat} (a : BitVec m) (b : BitVec n) :
    (a.signExtend (m + n) * b.signExtend (m + n)).toInt = a.toInt * b.toInt := by
  rw [BitVec.toInt_mul, BitVec.toInt_signExtend_of_le (Nat.le_add_right m n),
    BitVec.toInt_signExtend_of_le (Nat.le_add_left n m)]
  have first := two_mul_toInt_bounds a
  have second := two_mul_toInt_bounds b
  have bound : |2 * a.toInt| * |2 * b.toInt| ≤ 2 ^ m * 2 ^ n :=
    mul_le_mul (abs_le.mpr ⟨first.1, first.2.le⟩) (abs_le.mpr ⟨second.1, second.2.le⟩) (abs_nonneg _) (by positivity)
  rw [← abs_mul, ← pow_add, abs_le] at bound
  have pos : (0 : Int) < 2 ^ (m + n) := by positivity
  apply Int.bmod_eq_of_le_mul_two
  · push_cast
    linarith
  · push_cast
    linarith

/-- Neighbours are added, with one bit more. -/
def addPairs (f : Nat → BitVec w) (g : Nat) : BitVec (w + 1) :=
  (f (2 * g)).signExtend (w + 1) + (f (2 * g + 1)).signExtend (w + 1)

theorem toInt_addPairs (f : Nat → BitVec w) (g : Nat) :
    (addPairs f g).toInt = (f (2 * g)).toInt + (f (2 * g + 1)).toInt := by
  rw [addPairs, BitVec.toInt_add, BitVec.toInt_signExtend_of_le (Nat.le_succ w),
    BitVec.toInt_signExtend_of_le (Nat.le_succ w)]
  have first := two_mul_toInt_bounds (f (2 * g))
  have second := two_mul_toInt_bounds (f (2 * g + 1))
  have double : (2 : Int) ^ (w + 1) = 2 ^ w + 2 ^ w := by rw [pow_succ, mul_two]
  apply Int.bmod_eq_of_le_mul_two
  · push_cast
    rw [double]
    linarith
  · push_cast
    rw [double]
    linarith

/-- An adder tree of `n` layers. -/
def addTree (f : Nat → BitVec w) : (n : Nat) → Nat → BitVec (w + n)
  | 0 => f
  | n + 1 => addPairs (addTree f n)

/-- An adder tree adds the words of a block. -/
theorem toInt_addTree (f : Nat → BitVec w) (n g : Nat) :
    (addTree f n g).toInt = ∑ t ∈ Finset.range (2 ^ n), (f (2 ^ n * g + t)).toInt := by
  induction n generalizing g with
  | zero =>
    rw [pow_zero, Finset.sum_range_one, one_mul]
    rfl
  | succ n ih =>
    rw [addTree, toInt_addPairs, ih, ih, pow_succ, mul_two, Finset.sum_range_add]
    congr 1
    · refine Finset.sum_congr rfl fun t _ => ?_
      congr 2
      ring
    · refine Finset.sum_congr rfl fun t _ => ?_
      congr 2
      ring

/-! ## Rounding -/

/-- The nearest integer, and of two the one further from zero. -/
def roundHalfAway (q : ℚ) : Int := if q < 0 then -⌊-q + 1 / 2⌋ else ⌊q + 1 / 2⌋

/-- The nearest of the signed integers of `w` bits. -/
def saturate (w : Nat) (z : Int) : Int := max (-2 ^ (w - 1)) (min z (2 ^ (w - 1) - 1))

theorem floor_half (v : Int) (n : Nat) : ⌊(v : ℚ) / 2 ^ (n + 1) + 1 / 2⌋ = (v + 2 ^ n) / 2 ^ (n + 1) := by
  have same : (v : ℚ) / 2 ^ (n + 1) + 1 / 2 = ((v + 2 ^ n : Int) : ℚ) / ((2 ^ (n + 1) : Nat) : ℚ) := by
    push_cast
    field_simp
    ring
  rw [same, Rat.floor_intCast_div_natCast]
  push_cast
  rfl

/-- Half a unit is added to the magnitude, and the fraction dropped. -/
theorem roundHalfAway_div (v : Int) (n : Nat) : roundHalfAway (v / 2 ^ (n + 1)) =
    if v < 0 then -((-v + 2 ^ n) / 2 ^ (n + 1)) else (v + 2 ^ n) / 2 ^ (n + 1) := by
  have pos : (0 : ℚ) < 2 ^ (n + 1) := by positivity
  rw [roundHalfAway]
  by_cases negative : v < 0
  · rw [if_pos negative, if_pos (div_neg_of_neg_of_pos (Int.cast_lt_zero.mpr negative) pos), ← floor_half, Int.cast_neg,
      neg_div]
  · rw [if_neg negative, if_neg (not_lt.mpr (div_nonneg (Int.cast_nonneg (not_lt.mp negative)) pos.le)), floor_half]

end Signed
