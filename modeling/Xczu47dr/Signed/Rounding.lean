import Mathlib.Data.Rat.Floor
import Mathlib.RingTheory.Coprime.Lemmas
import Mathlib.Tactic.FieldSimp
import Mathlib.Tactic.Linarith
import Mathlib.Tactic.Positivity
import Mathlib.Tactic.Ring
import Xczu47dr.Clocked.Indices

/-! # Quotients and their rounding

Two quotients of signed integers, the one rounded down and the one rounded toward zero,
and the rounding of a fraction to the nearest integer, of two the even one.
-/

namespace Signed

/-- The quotient rounded toward zero is the one of the magnitudes, with the sign. -/
theorem tdiv_eq_sign_mul (a : Int) (d : Nat) : a.tdiv d = a.sign * (a.natAbs / d : Nat) := by
  rcases Int.lt_trichotomy a 0 with negative | rfl | positive
  · obtain ⟨n, rfl⟩ : ∃ n : Nat, a = -(n : Int) := ⟨a.natAbs, by omega⟩
    rw [Int.sign_eq_neg_one_of_neg negative, Int.natAbs_neg, Int.natAbs_natCast, Int.neg_one_mul, Int.neg_tdiv]
    rfl
  · rw [Int.zero_tdiv, Int.sign_zero, Int.zero_mul]
  · obtain ⟨n, rfl⟩ := Int.eq_ofNat_of_zero_le positive.le
    rw [Int.sign_eq_one_of_pos positive, Int.natAbs_natCast, Int.one_mul]
    rfl

/-- In a word the two quotients agree where the number is not negative or a multiple. -/
theorem emod_ediv_eq_tdiv {a : Int} {d m : Nat} (pos : 0 < d) (wide : 1 < m) :
    a / d % m = a.tdiv d % m ↔ 0 ≤ a ∨ (d : Int) ∣ a := by
  rw [Int.tdiv_eq_ediv, Int.sign_eq_one_of_pos (Int.natCast_pos.mpr pos)]
  split_ifs with exact
  · rw [Int.add_zero]
    exact iff_of_true rfl exact
  · refine iff_of_false (fun same => ?_) exact
    -- two neighbours are not congruent
    have apart := (Int.emod_eq_emod_iff_emod_sub_eq_zero).mp same.symm
    rw [add_sub_cancel_left] at apart
    have small := Int.le_of_dvd one_pos (Int.dvd_of_emod_eq_zero apart)
    omega

/-- What a scale and a divisor have in common does not matter. -/
theorem dvd_scaled (z : Int) {q s g : Nat} (pos : 0 < g) (coprime : Nat.Coprime q s) :
    ((q * g : Nat) : Int) ∣ z * (s * g : Nat) ↔ (q : Int) ∣ z := by
  have nonzero : (g : Int) ≠ 0 := by exact_mod_cast pos.ne'
  rw [Nat.cast_mul, Nat.cast_mul, ← mul_assoc, mul_dvd_mul_iff_right nonzero]
  exact ⟨(Nat.isCoprime_iff_coprime.mpr coprime).dvd_of_dvd_mul_right, fun whole => whole.mul_right s⟩

/-- The nearest integer, and of two the even one. -/
def roundHalfEven (q : ℚ) : Int :=
  if 2 * (q - ⌊q⌋) < 1 ∨ 2 * (q - ⌊q⌋) = 1 ∧ ⌊q⌋ % 2 = 0 then ⌊q⌋ else ⌊q⌋ + 1

/-- The integer next to a number on the side of zero. -/
def truncate (q : ℚ) : Int := if q < 0 then ⌈q⌉ else ⌊q⌋

theorem truncate_of_nonneg {q : ℚ} (nonneg : 0 ≤ q) : truncate q = ⌊q⌋ := if_neg (not_lt.mpr nonneg)

theorem roundHalfEven_intCast (z : Int) : roundHalfEven z = z := by
  rw [roundHalfEven, Int.floor_intCast, sub_self, mul_zero]
  exact if_pos (.inl one_pos)

theorem roundHalfEven_near (q : ℚ) : q - 1 / 2 ≤ roundHalfEven q ∧ (roundHalfEven q : ℚ) ≤ q + 1 / 2 := by
  have below := Int.floor_le q
  have above := Int.lt_floor_add_one q
  rw [roundHalfEven]
  split_ifs with down
  · constructor
    · rcases down with less | ⟨half, -⟩ <;> linarith
    · linarith
  · rw [not_or, not_lt] at down
    push_cast
    constructor <;> linarith [down.1]

theorem roundHalfEven_mono {p q : ℚ} (le : p ≤ q) : roundHalfEven p ≤ roundHalfEven q := by
  by_contra falls
  rw [not_le] at falls
  have near := roundHalfEven_near p
  have near' := roundHalfEven_near q
  have step : (roundHalfEven q : ℚ) + 1 ≤ roundHalfEven p := by exact_mod_cast falls
  -- the two are as far apart as can be, and so equal
  have same : p = q := by linarith
  rw [same] at falls
  exact lt_irrefl _ falls

theorem roundHalfEven_div (v : Int) {d : Nat} (pos : 0 < d) : roundHalfEven (v / d) =
    if 2 * (v % d) < d ∨ 2 * (v % d) = d ∧ v / d % 2 = 0 then v / d else v / d + 1 := by
  have floor : ⌊(v : ℚ) / d⌋ = v / d := Rat.floor_intCast_div_natCast v d
  have positive : (0 : ℚ) < d := Nat.cast_pos.mpr pos
  have rest : (v : ℚ) / d - (v / d : Int) = (v % d : Int) / d := by
    have whole := Int.mul_ediv_add_emod v d
    have cast : (d : ℚ) * (v / d : Int) + (v % d : Int) = v := by exact_mod_cast whole
    field_simp
    linarith
  have below : 2 * ((v % d : Int) / (d : ℚ)) < 1 ↔ 2 * (v % d) < d := by
    rw [← mul_div_assoc, div_lt_one positive]
    exact_mod_cast Iff.rfl
  have middle : 2 * ((v % d : Int) / (d : ℚ)) = 1 ↔ 2 * (v % d) = d := by
    rw [← mul_div_assoc, div_eq_one_iff_eq positive.ne']
    exact_mod_cast Iff.rfl
  rw [roundHalfEven, floor, rest]
  simp only [below, middle]

end Signed
