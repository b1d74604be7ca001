import Mathlib.Data.Nat.Bitwise
import Mathlib.Tactic.SplitIfs
import Xczu47dr.Clocked.Indices

/-! # Thermometer codes

A code of `n` bits is a function of the index.  A thermometer shows ones up to an edge
and zeros after it; what a reader makes of it rests on where a code falls from one to
zero, on loops in which the last hit wins, and on a filter that takes the median of
three neighbours.
-/

namespace Codes

/-! ## Loops in which the last hit wins -/

section LastHit

variable {α : Type} {hit : Nat → Bool} {value : Nat → α} {init : α}

def lastHit (hit : Nat → Bool) (value : Nat → α) (init : α) (n : Nat) : α :=
  (List.range n).foldl (fun found k => bif hit k then value k else found) init

theorem lastHit_succ (n : Nat) :
    lastHit hit value init (n + 1) = bif hit n then value n else lastHit hit value init n := by
  rw [lastHit, List.range_succ, List.foldl_append]
  rfl

theorem lastHit_eq {k n : Nat} (within : k < n) (hits : hit k = true)
    (last : ∀ j, k < j → j < n → hit j = false) : lastHit hit value init n = value k := by
  induction n with
  | zero => exact absurd within (Nat.not_lt_zero k)
  | succ n ih =>
    rw [lastHit_succ]
    rcases Nat.lt_succ_iff_lt_or_eq.mp within with before | rfl
    · rw [last n before (Nat.lt_succ_self n)]
      exact ih before fun j after within => last j after (Nat.lt_succ_of_lt within)
    · rw [hits]
      rfl

end LastHit

/-! ## Codes that fall -/

/-- The code `f` of `n` bits falls at `i`: the next bit is clear, or there is none. -/
def Falls (n : Nat) (f : Nat → Bool) (i : Nat) : Prop :=
  i < n ∧ f i = true ∧ (i + 1 < n → f (i + 1) = false)

theorem toNat_pred {w : Nat} {b : BitVec w} (pos : b ≠ 0#w) : (b - 1#w).toNat = b.toNat - 1 := by
  have positive : 0 < b.toNat := Nat.pos_of_ne_zero fun zero => pos (BitVec.eq_of_toNat_eq zero)
  have bound := b.isLt
  cases w with
  | zero => omega
  | succ w =>
    have one : 1 < 2 ^ (w + 1) := Nat.one_lt_two_pow (Nat.succ_ne_zero w)
    have wraps : 2 ^ (w + 1) - 1 + b.toNat = b.toNat - 1 + 2 ^ (w + 1) := by omega
    rw [BitVec.toNat_sub, BitVec.toNat_one (Nat.succ_pos w), wraps, Nat.add_mod_right, Nat.mod_eq_of_lt (by omega)]

theorem and_pred_eq_zero {w : Nat} {b : BitVec w} (pos : b ≠ 0#w) :
    b &&& (b - 1#w) = 0#w ↔ ∃ k, b.toNat = 2 ^ k := by
  have nonzero : b.toNat ≠ 0 := fun zero => pos (BitVec.eq_of_toNat_eq zero)
  rw [← Nat.isPowerOfTwo, ← Nat.and_sub_one_eq_zero_iff_isPowerOfTwo nonzero, ← toNat_pred pos, ← BitVec.toNat_and,
    ← BitVec.toNat_inj]
  rfl

/-- Taking one away clears the lowest bit that is set: a second one remains. -/
theorem and_pred_ne_zero {w : Nat} (b : BitVec w) :
    (b ≠ 0#w ∧ b &&& (b - 1#w) ≠ 0#w) ↔ ∃ p q, p < q ∧ b.getLsbD p = true ∧ b.getLsbD q = true := by
  constructor
  · rintro ⟨pos, more⟩
    by_contra single
    push Not at single
    -- the one bit that is set makes a power of two
    have nonzero : b.toNat ≠ 0 := fun zero => pos (BitVec.eq_of_toNat_eq zero)
    obtain ⟨k, set⟩ := Nat.exists_testBit_of_ne_zero nonzero
    refine more ((and_pred_eq_zero pos).mpr ⟨k, Nat.eq_of_testBit_eq fun i => ?_⟩)
    rw [Nat.testBit_two_pow]
    rcases Nat.lt_trichotomy i k with below | rfl | above
    · rw [decide_eq_false (Nat.ne_of_gt below)]
      exact Bool.eq_false_iff.mpr fun other => single i k below other set
    · rw [set, decide_eq_true rfl]
    · rw [decide_eq_false (Nat.ne_of_lt above)]
      exact Bool.eq_false_iff.mpr fun other => single k i above set other
  · rintro ⟨p, q, before, first, second⟩
    have pos : b ≠ 0#w := by
      rintro rfl
      rw [BitVec.getLsbD_zero] at first
      exact Bool.noConfusion first
    refine ⟨pos, fun none => ?_⟩
    obtain ⟨k, single⟩ := (and_pred_eq_zero pos).mp none
    rw [BitVec.getLsbD, single, Nat.testBit_two_pow, decide_eq_true_iff] at first second
    omega

/-! ## The median filter -/

def median (a b c : Bool) : Bool := (a && b) || (b && c) || (a && c)

/-- The median of each bit and its neighbours; the two ends pass. -/
def medianFilter (n : Nat) (f : Nat → Bool) (i : Nat) : Bool :=
  if i = 0 ∨ i + 1 = n then f i else median (f (i - 1)) (f i) (f (i + 1))

/-- Ones up to the edge `e`. -/
def thermometer (e i : Nat) : Bool := decide (i ≤ e)

/-- The code with bit `k` flipped. -/
def flipAt (f : Nat → Bool) (k i : Nat) : Bool := if i = k then !f i else f i

theorem falls_congr {n : Nat} {f g : Nat → Bool} (agree : ∀ i < n, f i = g i) (i : Nat) :
    Falls n f i ↔ Falls n g i :=
  and_congr_right fun within =>
    and_congr (by rw [agree i within]) (imp_congr_right fun more => by rw [agree _ more])

theorem falls_thermometer {n e i : Nat} (short : e < n) : Falls n (thermometer e) i ↔ i = e := by
  rw [Falls, thermometer, thermometer, decide_eq_true_iff, decide_eq_false_iff_not]
  omega

theorem medianFilter_flipAt_iff {n e k : Nat} (i : Nat) : medianFilter n (flipAt (thermometer e) k) i = true ↔
    if i = 0 ∨ i + 1 = n then (i ≤ e ↔ i ≠ k) else
      ((i - 1 ≤ e ↔ i - 1 ≠ k) ∧ (i ≤ e ↔ i ≠ k)) ∨ ((i ≤ e ↔ i ≠ k) ∧ (i + 1 ≤ e ↔ i + 1 ≠ k)) ∨
        ((i - 1 ≤ e ↔ i - 1 ≠ k) ∧ (i + 1 ≤ e ↔ i + 1 ≠ k)) := by
  simp only [medianFilter, median, flipAt, thermometer]
  grind

/-- The last bit is not filtered: a one there stays. -/
theorem medianFilter_flipAt_last {n e k : Nat} (apart : e + 3 ≤ k) (ends : k + 1 = n) (i : Nat) (inside : i < n) :
    medianFilter n (flipAt (thermometer e) k) i = (thermometer e i || decide (i = k)) := by
  rw [Bool.eq_iff_iff, medianFilter_flipAt_iff, thermometer, Bool.or_eq_true, decide_eq_true_iff,
    decide_eq_true_iff]
  split_ifs <;> omega

/-- A flipped bit moves the edge of a filtered thermometer by one at most, or fills the
    code, or it is the last bit. -/
theorem medianFilter_flipAt {n e k : Nat} (short : e + 1 < n) (within : k < n) (inner : 0 < k) :
    (∃ d, d ≤ e + 1 ∧ e ≤ d + 1 ∧ ∀ i < n, medianFilter n (flipAt (thermometer e) k) i = thermometer d i) ∨
      (∀ i < n, medianFilter n (flipAt (thermometer e) k) i = true) ∨ (e + 3 ≤ k ∧ k + 1 = n) := by
  rcases Nat.lt_or_ge k (e + 2) with near | far
  · -- the edge moves next to the flipped bit
    refine .inl ⟨if k = e + 1 then e + 1 else if k = e ∨ k + 1 = e then e - 1 else e, ?_, ?_, fun i inside => ?_⟩
    · split_ifs <;> omega
    · split_ifs <;> omega
    · rw [Bool.eq_iff_iff, medianFilter_flipAt_iff, thermometer, decide_eq_true_iff]
      split_ifs <;> omega
  · rcases Nat.eq_or_lt_of_le (Nat.succ_le_of_lt within) with ends | ends
    · rcases Nat.eq_or_lt_of_le far with touches | apart
      · -- the zero before the last bit is filled in
        refine .inr (.inl fun i inside => ?_)
        rw [medianFilter_flipAt_iff]
        split_ifs <;> omega
      · exact .inr (.inr ⟨apart, ends⟩)
    · -- an isolated one goes, and may fill the zero before it
      refine .inl ⟨if k = e + 2 then e + 1 else e, ?_, ?_, fun i inside => ?_⟩
      · split_ifs <;> omega
      · split_ifs <;> omega
      · rw [Bool.eq_iff_iff, medianFilter_flipAt_iff, thermometer, decide_eq_true_iff]
        split_ifs <;> omega

end Codes
