import Mathlib.Data.BitVec
import Mathlib.Data.Int.ModEq
import Mathlib.Tactic.Linarith
import Xczu47dr.Clocked.Indices

/-! # Wrapping counters

A counter of `w` bits stands for every integer it is the remainder of.  Two such
counters are compared by the sign of their difference, which is right as long as
the integers are less than half a turn apart.
-/

namespace Clocked

variable {w : Nat}

theorem ofInt_sub (a b : Int) : BitVec.ofInt w (a - b) = BitVec.ofInt w a - BitVec.ofInt w b := by
  rw [sub_eq_add_neg, BitVec.ofInt_add, BitVec.ofInt_neg, BitVec.sub_eq_add_neg]

theorem ofInt_one : BitVec.ofInt w 1 = 1 := rfl

theorem ofInt_toNat_modEq (a : Int) : ((BitVec.ofInt w a).toNat : Int) ≡ a [ZMOD 2 ^ w] := by
  rw [BitVec.toNat_ofInt]
  have turn : (0 : Int) < 2 ^ w := by positivity
  rw [Int.toNat_of_nonneg (Int.emod_nonneg _ (by exact_mod_cast turn.ne'))]
  exact_mod_cast Int.mod_modEq a (2 ^ w)

/-- The difference of two counters less than half a turn apart. -/
theorem toInt_sub_ofInt (pos : 0 < w) {a b : Int} (low : -2 ^ (w - 1) ≤ a - b) (high : a - b < 2 ^ (w - 1)) :
    (BitVec.ofInt w a - BitVec.ofInt w b).toInt = a - b := by
  obtain ⟨v, rfl⟩ : ∃ v, w = v + 1 := ⟨w - 1, by omega⟩
  rw [Nat.add_sub_cancel] at low high
  rw [BitVec.toInt_sub, BitVec.toInt_ofInt, BitVec.toInt_ofInt, Int.sub_bmod_bmod, Int.bmod_sub_bmod]
  apply Int.bmod_eq_of_le_mul_two <;> rw [pow_succ] <;> push_cast <;> linarith

/-- A counter that is ahead is one less ahead after the other has counted. -/
theorem toInt_sub_succ (pos : 0 < w) (d e : BitVec w) (ahead : 0 < (d - e).toInt) :
    (d - (e + 1)).toInt = (d - e).toInt - 1 := by
  have below := BitVec.toInt_lt (x := d - e)
  have written : d - (e + 1) = BitVec.ofInt w (d - e).toInt - BitVec.ofInt w 1 := by
    rw [BitVec.ofInt_toInt, ofInt_one, BitVec.sub_sub]
  rw [written]
  apply toInt_sub_ofInt pos
  · have : (0 : Int) ≤ 2 ^ (w - 1) := by positivity
    omega
  · omega

theorem toInt_sub_comm_of_pos (pos : 0 < w) (d e : BitVec w) (ahead : 0 < (d - e).toInt) :
    (e - d).toInt = -(d - e).toInt := by
  have below := BitVec.toInt_lt (x := d - e)
  have written : e - d = BitVec.ofInt w 0 - BitVec.ofInt w (d - e).toInt := by
    rw [BitVec.ofInt_toInt]
    change e - d = 0 - (d - e)
    rw [zero_sub, neg_sub]
  rw [written, toInt_sub_ofInt pos (by omega) (by omega), zero_sub]

/-- A counter is one ahead when the other is at its predecessor. -/
theorem toInt_sub_eq_one_iff (wide : 1 < w) (d e : BitVec w) : (d - e).toInt = 1 ↔ e = d - 1 := by
  have one : (1 : BitVec w).toInt = 1 := BitVec.toInt_one wide
  rw [← one, BitVec.toInt_inj]
  constructor
  · intro apart
    rw [← apart, sub_sub_cancel]
  · intro before
    rw [before, sub_sub_cancel]

end Clocked
