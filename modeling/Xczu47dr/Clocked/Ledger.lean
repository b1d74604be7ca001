import Mathlib.Algebra.Group.Basic
import Xczu47dr.Clocked.Machine

/-! # Machines with a ledger

A machine together with an account of what it has done, and counts that are
reported window by window.
-/

namespace Clocked

namespace Machine

variable {Input State Book : Type}

/-- A machine and its ledger, `record` being what one clock edge enters. -/
def ledgered (m : Machine Input State) (book : Book) (record : State → Input → State → Book → Book) :
    Machine Input (State × Book) where
  reset := (m.reset, book)
  step s i := (m.step s.1 i, record s.1 i (m.step s.1 i) s.2)

/-- What one step keeps, and does besides, under exactly one condition it keeps and does at every
step of exactly the runs whose steps all meet it. -/
theorem along_kept_and_iff (m : Machine Input State) {P : State → Prop} {Q C : State → Input → Prop}
    (step : ∀ s i, P s → (P (m.step s i) ∧ Q s i ↔ C s i)) {s : State} (base : P s) (is : List Input) :
    m.Along (fun s i => P (m.step s i) ∧ Q s i) s is ↔ m.Along C s is := by
  induction is generalizing s with
  | nil => exact Iff.rfl
  | cons i is ih =>
    rw [along_cons, along_cons]
    constructor
    · rintro ⟨kept, later⟩
      exact ⟨(step s i base).mp kept, (ih kept.1).mp later⟩
    · rintro ⟨meets, later⟩
      have kept := (step s i base).mpr meets
      exact ⟨kept, (ih kept.1).mpr later⟩

theorem along_kept_iff (m : Machine Input State) {P : State → Prop} {C : State → Input → Prop}
    (step : ∀ s i, P s → (P (m.step s i) ↔ C s i)) {s : State} (base : P s) (is : List Input) :
    m.Along (fun s i => P (m.step s i)) s is ↔ m.Along C s is := by
  have both := m.along_kept_and_iff (Q := fun _ _ => True)
    (fun s i kept => (and_iff_left trivial).trans (step s i kept)) base is
  simpa only [and_true] using both

end Machine

/-- A count that an event restarts from the old accumulator although the window closes is kept
exactly if there was nothing to restart from. -/
theorem window_conserved {Count : Type} [AddCommGroup Count] (closes event : Prop) [Decidable closes]
    [Decidable event] {reported accum total : Count} (x : Count) (conserved : reported + accum = total) :
    (if closes then reported + accum else reported) +
        (if event then accum + x else if closes then 0 else accum) =
      (if event then total + x else total) ↔ (closes → event → accum = 0) := by
  subst conserved
  by_cases closing : closes
  · by_cases happens : event
    · simp only [closing, happens, if_true, true_implies]
      rw [← add_assoc, add_left_inj, add_eq_left]
    · simp [closing, happens]
  · by_cases happens : event
    · simp [closing, happens, add_assoc]
    · simp [closing, happens]

end Clocked
