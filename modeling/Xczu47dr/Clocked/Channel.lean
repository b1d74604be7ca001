import Mathlib.Tactic.Common
import Xczu47dr.Clocked.Indices

/-! # Channels with valid and ready

A sender offers a beat with `valid` and the receiver accepts it with `ready`.  A
sender with one beat to send holds it until it is accepted, and offers none after
that.
-/

namespace Clocked

/-- How far a sender is with its beat. -/
inductive Channel (α : Type)
  | quiet
  | offered (x : α)
  | taken
  deriving DecidableEq

namespace Channel

variable {α : Type} {c : Channel α} {valid ready : Bool} {x : α}

def step (c : Channel α) (valid ready : Bool) (x : α) : Channel α :=
  bif valid then bif ready then .taken else .offered x else c

/-- The sender holds the beat that it has offered, and offers no other. -/
def Holds : Channel α → Bool → α → Prop
  | quiet, _, _ => True
  | offered x, valid, y => valid = true ∧ y = x
  | taken, valid, _ => valid = false

instance [DecidableEq α] : (c : Channel α) → (valid : Bool) → (x : α) → Decidable (c.Holds valid x)
  | quiet, _, _ => inferInstanceAs (Decidable True)
  | offered _, _, _ => inferInstanceAs (Decidable (_ ∧ _))
  | taken, _, _ => inferInstanceAs (Decidable (_ = false))

/-- The beat is on offer or has been accepted. -/
def busy : Channel α → Bool
  | quiet => false
  | _ => true

@[simp] theorem step_idle : c.step false ready x = c := rfl

@[simp] theorem step_taken : c.step true true x = .taken := rfl

@[simp] theorem step_offered : c.step true false x = .offered x := rfl

theorem busy_step (busy : c.busy = true) : (c.step valid ready x).busy = true := by
  cases valid with
  | false => exact busy
  | true => cases ready <;> rfl

/-- A channel that is not accepted now has not been, if it had not. -/
theorem step_ne_taken (unaccepted : c ≠ .taken) (unready : valid = true → ready = false) :
    c.step valid ready x ≠ .taken := by
  cases valid with
  | false => exact unaccepted
  | true =>
    rw [unready rfl]
    exact fun taken => by cases taken

theorem Holds.quiet_of_taken (holds : (taken : Channel α).Holds valid x) : valid = false := holds

/-- A busy channel that has not been accepted is on offer. -/
theorem Holds.offers (holds : c.Holds valid x) (busy : c.busy = true) (unaccepted : c ≠ .taken) : valid = true := by
  cases c with
  | quiet => exact Bool.noConfusion busy
  | offered y => exact holds.1
  | taken => exact absurd rfl unaccepted

end Channel

end Clocked
