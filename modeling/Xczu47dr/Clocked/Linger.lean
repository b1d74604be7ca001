import Mathlib.Data.Nat.Find
import Mathlib.Tactic.Common
import Xczu47dr.Clocked.Indices

/-! # Signals that linger

What a pipeline or a countdown still knows of its input: a signal that is up as
long as another was up in the last few cycles.  Stages in a row add up.
-/

namespace Clocked

/-- Between the cycles `low` and `high`, `late` is up for `span` cycles after `source` was,
    and no longer. -/
structure Lingers (low high span : Nat) (late source : Nat → Prop) : Prop where
  holds : ∀ m n, low ≤ m → m ≤ n → n ≤ m + span → n ≤ high → source m → late n
  ends : ∀ n, low + span ≤ n → n ≤ high → late n → ∃ m, m ≤ n ∧ n ≤ m + span ∧ source m

/-- A signal that lingers behind a lingering one lingers as long as both together. -/
theorem Lingers.trans {low high first second : Nat} {last middle source : Nat → Prop}
    (late : Lingers low high second last middle) (early : Lingers low high first middle source) :
    Lingers low high (first + second) last source where
  holds m n from_low before recent to_high up := by
    -- the middle signal is up until `m + first`, and the last one sees its last cycle
    rcases Nat.lt_or_ge n (m + first) with soon | later
    · exact late.holds n n (by omega) (Nat.le_refl n) (by omega) to_high
        (early.holds m n from_low before (by omega) to_high up)
    · exact late.holds (m + first) n (by omega) later (by omega) to_high
        (early.holds m (m + first) from_low (by omega) (Nat.le_refl _) (by omega) up)
  ends n from_low to_high up := by
    obtain ⟨m, before, recent, middle⟩ := late.ends n (by omega) to_high up
    obtain ⟨l, earlier, near, source⟩ := early.ends m (by omega) (by omega) middle
    exact ⟨l, by omega, by omega, source⟩

theorem Lingers.congr {low high span : Nat} {late late' source : Nat → Prop}
    (lingers : Lingers low high span late source) (same : ∀ n, low ≤ n → n ≤ high → (late' n ↔ late n)) :
    Lingers low high span late' source where
  holds m n from_low before recent to_high up :=
    (same n (by omega) to_high).mpr (lingers.holds m n from_low before recent to_high up)
  ends n from_low to_high up := lingers.ends n from_low to_high ((same n (by omega) to_high).mp up)

section Countdown

variable {low high span : Nat} {count : Nat → Nat} {source : Nat → Bool}

/-- What is left of a countdown was set off by the source, or is left of its first value. -/
theorem lt_countdown (counts : ∀ n, low ≤ n → n < high → count (n + 1) = if source n then span else count n - 1)
    (bounded : count low ≤ span) (n : Nat) (from_low : low ≤ n) (to_high : n ≤ high) (v : Nat) :
    v < count n ↔ (∃ m, low ≤ m ∧ m < n ∧ n + v ≤ m + span ∧ source m = true) ∨ v + (n - low) < count low := by
  induction n, from_low using Nat.le_induction generalizing v with
  | base =>
    constructor
    · intro left
      exact .inr (by omega)
    · rintro (⟨m, later, before, -⟩ | left) <;> omega
  | succ n from_low ih =>
    rw [counts n from_low (by omega)]
    cases up : source n with
    | true =>
      rw [if_pos rfl]
      constructor
      · intro left
        exact .inl ⟨n, from_low, Nat.lt_succ_self n, by omega, up⟩
      · rintro (⟨m, -, before, recent, -⟩ | left) <;> omega
    | false =>
      rw [if_neg Bool.false_ne_true, show v < count n - 1 ↔ v + 1 < count n by omega, ih (by omega)]
      constructor
      · rintro (⟨m, later, before, recent, up⟩ | left)
        · exact .inl ⟨m, later, by omega, by omega, up⟩
        · exact .inr (by omega)
      · rintro (⟨m, later, before, recent, started⟩ | left)
        · have earlier : m ≠ n := by
            rintro rfl
            exact Bool.noConfusion (up.symm.trans started)
          exact .inl ⟨m, later, by omega, by omega, started⟩
        · exact .inr (by omega)

/-- A countdown lingers behind the source that sets it off. -/
theorem countdown_lingers (count : Nat → Nat) (source : Nat → Bool)
    (counts : ∀ n, low ≤ n → n < high → count (n + 1) = if source n then span else count n - 1)
    (bounded : count low ≤ span) :
    Lingers low high span (fun n => source n = true ∨ count n ≠ 0) (fun n => source n = true) := by
  have left := lt_countdown counts bounded
  constructor
  · intro m n from_low before recent to_high up
    rcases Nat.eq_or_lt_of_le before with rfl | earlier
    · exact .inl up
    · exact .inr (Nat.ne_of_gt ((left n (by omega) to_high 0).mpr (.inl ⟨m, from_low, earlier, by omega, up⟩)))
  · rintro n from_low to_high (now | still)
    · exact ⟨n, Nat.le_refl n, by omega, now⟩
    · rcases (left n (by omega) to_high 0).mp (Nat.pos_of_ne_zero still) with ⟨m, -, before, recent, up⟩ | old
      · exact ⟨m, by omega, by omega, up⟩
      · omega

end Countdown

section Shift

variable {low high width : Nat} {pipe : Nat → BitVec width} {source : Nat → Bool}

theorem shifted_bit (shifts : ∀ n, low ≤ n → n < high → pipe (n + 1) = (pipe n).shiftConcat (source n))
    (k : Nat) (inside : k < width) (n : Nat) (from_low : low + k ≤ n) (to_high : n < high) :
    (pipe (n + 1)).getLsbD k = source (n - k) := by
  induction k generalizing n with
  | zero => simp [shifts n (by omega) to_high, inside]
  | succ k ih =>
    obtain ⟨before, rfl⟩ : ∃ before, n = before + 1 := ⟨n - 1, by omega⟩
    rw [shifts _ (by omega) to_high, BitVec.getLsbD_shiftConcat, decide_eq_true inside, Bool.true_and,
      if_neg (Nat.succ_ne_zero k), Nat.add_sub_cancel, ih (by omega) before (by omega) (by omega),
      Nat.add_sub_add_right]

/-- A shift register lingers behind the source that feeds it. -/
theorem shift_lingers (pipe : Nat → BitVec width) (source : Nat → Bool)
    (shifts : ∀ n, low ≤ n → n < high → pipe (n + 1) = (pipe n).shiftConcat (source n)) :
    Lingers low high width (fun n => source n = true ∨ pipe n ≠ 0) (fun n => source n = true) := by
  constructor
  · intro m n from_low before recent to_high up
    rcases Nat.eq_or_lt_of_le before with rfl | earlier
    · exact .inl up
    · refine .inr fun empty => ?_
      obtain ⟨last, rfl⟩ : ∃ last, n = last + 1 := ⟨n - 1, by omega⟩
      have bit := shifted_bit shifts (last - m) (by omega) last (by omega) (by omega)
      rw [empty, show last - (last - m) = m by omega, up] at bit
      exact Bool.noConfusion (BitVec.getLsbD_zero.symm.trans bit)
  · rintro n from_low to_high (now | inside)
    · exact ⟨n, Nat.le_refl n, by omega, now⟩
    · obtain ⟨k, within, up⟩ : ∃ k, k < width ∧ (pipe n).getLsbD k = true := by
        by_contra none
        refine inside (BitVec.eq_of_getLsbD_eq fun k within => ?_)
        rw [eq_false_of_ne_true fun up => none ⟨k, within, up⟩]
        exact (BitVec.getLsbD_zero).symm
      obtain ⟨before, rfl⟩ : ∃ before, n = before + 1 := ⟨n - 1, by omega⟩
      rw [shifted_bit shifts k within before (by omega) (by omega)] at up
      exact ⟨before - k, by omega, by omega, up⟩

end Shift

end Clocked
