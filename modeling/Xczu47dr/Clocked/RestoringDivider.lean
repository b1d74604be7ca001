import Mathlib.Tactic.Ring
import Xczu47dr.Clocked.Indices

/-! # Restoring division

One quotient bit a clock edge: the top bit of the dividend is shifted into the
remainder, the divisor is taken off where it fits, and the quotient bit says
whether it did.  Nothing here belongs to a particular design; the widths are the
dividend's `w` and one more than the divisor's, `v + 1`.
-/

namespace Clocked

/-- The registers of a restoring divider. -/
structure Divider where
  dividend : Nat
  quotient : Nat
  remainder : Nat
  divisor : Nat
  deriving DecidableEq

namespace Divider

variable (w v : Nat) (s : Divider)

/-- The remainder with the next bit of the dividend. -/
def shifted : Nat := s.remainder % 2 ^ v * 2 + s.dividend / 2 ^ (w - 1) % 2

def step : Divider :=
  if s.divisor ≤ s.shifted w v then
    { s with
      dividend := s.dividend * 2 % 2 ^ w
      remainder := s.shifted w v - s.divisor
      quotient := (s.quotient * 2 + 1) % 2 ^ w }
  else
    { s with
      dividend := s.dividend * 2 % 2 ^ w
      remainder := s.shifted w v
      quotient := s.quotient * 2 % 2 ^ w }

variable {w v : Nat} {s : Divider}

/-- The division of `n` after `k` of its `w` bits. -/
structure Dividing (w v n k : Nat) (s : Divider) : Prop where
  short : k ≤ w
  divisor_le : s.divisor ≤ 2 ^ v
  dividend : s.dividend = n * 2 ^ k % 2 ^ w
  value : s.quotient * s.divisor + s.remainder = n / 2 ^ (w - k)
  remainder_lt : s.remainder < s.divisor
  quotient_lt : s.quotient < 2 ^ k

theorem dividing_start {n divisor : Nat} (fits : n < 2 ^ w) (divisor_pos : 0 < divisor)
    (divisor_le : divisor ≤ 2 ^ v) : Dividing w v n 0 ⟨n, 0, 0, divisor⟩ where
  short := Nat.zero_le w
  divisor_le := divisor_le
  dividend := by rw [Nat.pow_zero, Nat.mul_one, Nat.mod_eq_of_lt fits]
  value := by
    change 0 * divisor + 0 = n / 2 ^ w
    rw [Nat.div_eq_of_lt fits, Nat.zero_mul]
  remainder_lt := divisor_pos
  quotient_lt := Nat.one_pos

theorem top_bit {n k : Nat} (more : k < w) :
    n * 2 ^ k % 2 ^ w / 2 ^ (w - 1) % 2 = n / 2 ^ (w - (k + 1)) % 2 := by
  obtain ⟨d, rfl⟩ : ∃ d, w = k + 1 + d := ⟨w - (k + 1), by omega⟩
  have width : 2 ^ (k + 1 + d) = 2 ^ k * 2 ^ (d + 1) := by rw [← pow_add]; congr 1; omega
  rw [width, mul_comm n, Nat.mul_mod_mul_left, show k + 1 + d - 1 = k + d by omega, pow_add 2 k d,
    Nat.mul_div_mul_left _ _ (Nat.two_pow_pos k), show k + 1 + d - (k + 1) = d by omega, pow_succ 2 d,
    Nat.mod_mul_right_div_self, Nat.mod_mod]

theorem Dividing.step {n k : Nat} (held : Dividing w v n k s) (more : k < w) :
    Dividing w v n (k + 1) (s.step w v) ∧ (s.step w v).divisor = s.divisor := by
  have small : s.remainder % 2 ^ v = s.remainder :=
    Nat.mod_eq_of_lt (held.remainder_lt.trans_le held.divisor_le)
  have shifts : s.shifted w v = s.remainder * 2 + n / 2 ^ (w - (k + 1)) % 2 := by
    rw [shifted, small, held.dividend, top_bit more]
  have halves : n / 2 ^ (w - k) = n / 2 ^ (w - (k + 1)) / 2 := by
    rw [Nat.div_div_eq_div_mul, ← pow_succ]
    congr 2
    omega
  have value := held.value
  rw [halves] at value
  have next : s.dividend * 2 % 2 ^ w = n * 2 ^ (k + 1) % 2 ^ w := by
    rw [held.dividend, Nat.mod_mul_mod, mul_assoc, ← pow_succ]
  have room : s.quotient * 2 + 1 < 2 ^ (k + 1) := by
    have := held.quotient_lt
    rw [pow_succ]
    omega
  have wide : 2 ^ (k + 1) ≤ 2 ^ w := Nat.pow_le_pow_right Nat.two_pos more
  have remainder_lt := held.remainder_lt
  have doubled : s.quotient * 2 * s.divisor = 2 * (s.quotient * s.divisor) := by ring
  by_cases fits : s.divisor ≤ s.shifted w v
  · rw [Divider.step, if_pos fits]
    rw [shifts] at fits ⊢
    have kept : (s.quotient * 2 + 1) % 2 ^ w = s.quotient * 2 + 1 := Nat.mod_eq_of_lt (by omega)
    refine ⟨⟨more, held.divisor_le, next, ?_, ?_, kept.symm ▸ room⟩, rfl⟩
    · change (s.quotient * 2 + 1) % 2 ^ w * s.divisor + (s.remainder * 2 + n / 2 ^ (w - (k + 1)) % 2 - s.divisor) = _
      rw [kept, Nat.add_mul, doubled]
      omega
    · change s.remainder * 2 + n / 2 ^ (w - (k + 1)) % 2 - s.divisor < s.divisor
      omega
  · rw [Divider.step, if_neg fits]
    rw [shifts] at fits ⊢
    have kept : s.quotient * 2 % 2 ^ w = s.quotient * 2 := Nat.mod_eq_of_lt (by omega)
    refine ⟨⟨more, held.divisor_le, next, ?_, Nat.lt_of_not_le fits, ?_⟩, rfl⟩
    · change s.quotient * 2 % 2 ^ w * s.divisor + (s.remainder * 2 + n / 2 ^ (w - (k + 1)) % 2) = _
      rw [kept, doubled]
      omega
    · change s.quotient * 2 % 2 ^ w < 2 ^ (k + 1)
      omega

/-- After `k` bits the quotient is that of the leading `k` bits. -/
theorem Dividing.quotient_eq {n k : Nat} (held : Dividing w v n k s) :
    s.quotient = n / 2 ^ (w - k) / s.divisor := by
  have positive : 0 < s.divisor := Nat.zero_lt_of_lt held.remainder_lt
  rw [← held.value, mul_comm, Nat.mul_add_div positive, Nat.div_eq_of_lt held.remainder_lt, Nat.add_zero]

end Divider

end Clocked
