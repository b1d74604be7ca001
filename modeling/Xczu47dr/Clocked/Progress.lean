import Mathlib.Data.List.Range
import Mathlib.Data.Nat.Find
import Mathlib.Order.WellFounded
import Xczu47dr.Clocked.Indices

/-! # Progress

What must happen along an endless sequence of states: one property leads to
another if the second holds whenever the first did, at that time or later.
-/

namespace Clocked

variable {State : Type} {σ : Nat → State}

/-- Whenever `P` holds, `Q` holds then or later. -/
def LeadsTo (σ : Nat → State) (P Q : State → Prop) : Prop :=
  ∀ n, P (σ n) → ∃ m, n ≤ m ∧ Q (σ m)

/-- A measure that goes down, perhaps after a while, leads to the end. -/
theorem leadsTo_of_measure {P Q : State → Prop} {Rank : Type} [LT Rank] [WellFoundedLT Rank]
    (rank : State → Rank)
    (progress : ∀ n, P (σ n) → ∃ m, n ≤ m ∧ (Q (σ m) ∨ P (σ m) ∧ rank (σ m) < rank (σ n))) :
    LeadsTo σ P Q := by
  intro n now
  obtain ⟨r, at_rank⟩ : ∃ r, rank (σ n) = r := ⟨_, rfl⟩
  induction r using WellFoundedLT.induction generalizing n with
  | ind r ih =>
    obtain ⟨m, later, done | ⟨still, less⟩⟩ := progress n now
    · exact ⟨m, later, done⟩
    · obtain ⟨k, after, done⟩ := ih _ (at_rank ▸ less) m still rfl
      exact ⟨k, later.trans after, done⟩

/-- A measure that goes down as soon as the one whose turn it is acts, and a turn that does
    not change before, lead to the end if everyone acts again and again. -/
theorem leadsTo_of_turns {P Q : State → Prop} {Rank Turn : Type} [Preorder Rank] [WellFoundedLT Rank]
    (rank : State → Rank) (turn : State → Turn) (acts : Turn → Nat → Prop)
    (next : ∀ n, P (σ n) → Q (σ n) ∨ P (σ (n + 1)) ∧ (rank (σ (n + 1)) < rank (σ n) ∨
      rank (σ (n + 1)) = rank (σ n) ∧ turn (σ (n + 1)) = turn (σ n) ∧ ¬ acts (turn (σ n)) n))
    (fair : ∀ t n, ∃ k, n ≤ k ∧ acts t k) : LeadsTo σ P Q := by
  refine leadsTo_of_measure rank fun n now => ?_
  obtain ⟨k, later, acted⟩ := fair (turn (σ n)) n
  -- until the action, either the measure has gone down or nothing has changed
  have waits : ∀ j, n ≤ j → (∃ m, n ≤ m ∧ (Q (σ m) ∨ P (σ m) ∧ rank (σ m) < rank (σ n))) ∨
      P (σ j) ∧ rank (σ j) = rank (σ n) ∧ turn (σ j) = turn (σ n) ∧ ∀ i, n ≤ i → i < j → ¬ acts (turn (σ n)) i := by
    intro j from_n
    induction j, from_n using Nat.le_induction with
    | base => exact .inr ⟨now, rfl, rfl, fun i from_n before => absurd from_n (Nat.not_le.mpr before)⟩
    | succ j from_n ih =>
      rcases ih with found | ⟨still, same, whose, none⟩
      · exact .inl found
      · rcases next j still with done | ⟨after, less | ⟨equal, kept, idle⟩⟩
        · exact .inl ⟨j, from_n, .inl done⟩
        · exact .inl ⟨j + 1, by omega, .inr ⟨after, same ▸ less⟩⟩
        · refine .inr ⟨after, equal.trans same, kept.trans whose, fun i from_i before => ?_⟩
          rcases Nat.lt_succ_iff_lt_or_eq.mp before with earlier | rfl
          · exact none i from_i earlier
          · exact whose ▸ idle
  rcases waits (k + 1) (by omega) with found | ⟨-, -, -, none⟩
  · exact found
  · exact absurd acted (none k later (Nat.lt_succ_self k))

/-- The first time from `n` on at which a property holds. -/
theorem exists_first {Q : Nat → Prop} {n : Nat} (eventually : ∃ m, n ≤ m ∧ Q m) :
    ∃ m, n ≤ m ∧ Q m ∧ ∀ k, n ≤ k → k < m → ¬ Q k := by
  classical
  obtain ⟨later, holds⟩ := Nat.find_spec eventually
  exact ⟨Nat.find eventually, later, holds, fun k from_n before early =>
    Nat.find_min eventually before ⟨from_n, early⟩⟩

/-- The last time before `n` at which a property holds. -/
theorem exists_last {Q : Nat → Prop} {n : Nat} (once : ∃ j < n, Q j) : ∃ k < n, Q k ∧ ∀ j, k < j → j < n → ¬ Q j := by
  induction n with
  | zero => exact absurd once.choose_spec.1 (Nat.not_lt_zero _)
  | succ n ih =>
    by_cases now : Q n
    · exact ⟨n, Nat.lt_succ_self n, now, fun j after before => absurd before (by omega)⟩
    · obtain ⟨j, before, holds⟩ := once
      have earlier : j < n := by
        rcases Nat.lt_succ_iff_lt_or_eq.mp before with earlier | rfl
        · exact earlier
        · exact absurd holds now
      obtain ⟨k, before, holds, last⟩ := ih ⟨j, earlier, holds⟩
      refine ⟨k, Nat.lt_succ_of_lt before, holds, fun j after within => ?_⟩
      rcases Nat.lt_succ_iff_lt_or_eq.mp within with earlier | rfl
      · exact last j after earlier
      · exact now

/-- A property kept by every step is kept. -/
theorem lasts {P : Nat → Prop} {n : Nat} (now : P n) (m : Nat) (later : n ≤ m)
    (keeps : ∀ k, n ≤ k → k < m → P k → P (k + 1)) : P m := by
  induction m, later using Nat.le_induction with
  | base => exact now
  | succ m later ih => exact keeps m later (Nat.lt_succ_self m) (ih fun k from_n before => keeps k from_n (by omega))

/-! ## Counting -/

/-- The times from `start` on and before `n` at which a wire is high. -/
def tally (wire : Nat → Bool) (start n : Nat) : Nat := (List.range' start (n - start)).countP wire

@[simp] theorem tally_self (wire : Nat → Bool) (n : Nat) : tally wire n n = 0 := by
  rw [tally, Nat.sub_self]
  rfl

theorem tally_succ (wire : Nat → Bool) {start n : Nat} (later : start ≤ n) :
    tally wire start (n + 1) = tally wire start n + (wire n).toNat := by
  obtain ⟨count, rfl⟩ := Nat.exists_eq_add_of_le later
  have one_more : start + count + 1 - start = count + 1 := by omega
  rw [tally, tally, one_more, Nat.add_sub_cancel_left, List.range'_concat, List.countP_append, Nat.one_mul,
    List.countP_singleton]
  cases wire (start + count) <;> rfl

end Clocked
