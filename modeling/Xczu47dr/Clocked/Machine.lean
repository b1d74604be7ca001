import Mathlib.Data.List.Basic
import Mathlib.Data.List.GetD
import Mathlib.Data.List.Induction
import Xczu47dr.Clocked.Indices

/-! # Clocked machines

A synchronous design is a reset state and one next-state function.  This module
names nothing of a particular design: it fixes what a run is, what it means for
every step of a run to meet a condition, and what a run has emitted so far, and
it packages the inductions that carry an invariant along a run.
-/

namespace Clocked

/-- A synchronous machine: the state after reset and the state one clock edge
    later. -/
structure Machine (Input State : Type) where
  reset : State
  step : State → Input → State

namespace Machine

variable {Input State Event : Type} (m : Machine Input State)

/-! ## Finite runs -/

def run (s : State) (inputs : List Input) : State :=
  inputs.foldl m.step s

@[simp] theorem run_nil (s : State) : m.run s [] = s := rfl

@[simp] theorem run_cons (s : State) (i : Input) (is : List Input) :
    m.run s (i :: is) = m.run (m.step s i) is := rfl

@[simp] theorem run_append (s : State) (is js : List Input) :
    m.run s (is ++ js) = m.run (m.run s is) js :=
  List.foldl_append

/-- Every step of the run from `s` meets `C`, a condition on the state before the
    clock edge and on the inputs sampled at it. -/
def Along (C : State → Input → Prop) : State → List Input → Prop
  | _, [] => True
  | s, i :: is => C s i ∧ Along C (m.step s i) is

instance decidableAlong (C : State → Input → Prop) [∀ s i, Decidable (C s i)] :
    ∀ s is, Decidable (m.Along C s is)
  | _, [] => .isTrue trivial
  | s, i :: is =>
    have := decidableAlong C (m.step s i) is
    inferInstanceAs (Decidable (C s i ∧ m.Along C (m.step s i) is))

@[simp] theorem along_nil (C : State → Input → Prop) (s : State) : m.Along C s [] := trivial

@[simp] theorem along_cons (C : State → Input → Prop) (s : State) (i : Input) (is : List Input) :
    m.Along C s (i :: is) ↔ C s i ∧ m.Along C (m.step s i) is := Iff.rfl

theorem along_append (C : State → Input → Prop) (s : State) (is js : List Input) :
    m.Along C s (is ++ js) ↔ m.Along C s is ∧ m.Along C (m.run s is) js := by
  induction is generalizing s with
  | nil => simp
  | cons i is ih => simp [ih, and_assoc]

theorem along_of_forall {C : State → Input → Prop} (holds : ∀ s i, C s i) (s : State) (is : List Input) :
    m.Along C s is := by
  induction is generalizing s with
  | nil => trivial
  | cons i is ih => exact ⟨holds s i, ih _⟩

/-- What the run has emitted, `emit` naming what one clock edge emits. -/
def log (emit : State → Input → List Event) : State → List Input → List Event
  | _, [] => []
  | s, i :: is => emit s i ++ log emit (m.step s i) is

@[simp] theorem log_nil (emit : State → Input → List Event) (s : State) :
    m.log emit s [] = [] := rfl

@[simp] theorem log_cons (emit : State → Input → List Event) (s : State) (i : Input)
    (is : List Input) : m.log emit s (i :: is) = emit s i ++ m.log emit (m.step s i) is := rfl

@[simp] theorem log_append (emit : State → Input → List Event) (s : State)
    (is js : List Input) :
    m.log emit s (is ++ js) = m.log emit s is ++ m.log emit (m.run s is) js := by
  induction is generalizing s with
  | nil => simp
  | cons i is ih => simp [ih]

theorem log_flatMap {Other : Type} (f : Event → List Other) (emit : State → Input → List Event) (s : State)
    (is : List Input) : m.log (fun s i => (emit s i).flatMap f) s is = (m.log emit s is).flatMap f := by
  induction is generalizing s with
  | nil => rfl
  | cons i is ih => rw [log_cons, log_cons, List.flatMap_append, ih]

theorem log_filter (p : Event → Bool) (emit : State → Input → List Event) (s : State) (is : List Input) :
    m.log (fun s i => (emit s i).filter p) s is = (m.log emit s is).filter p := by
  induction is generalizing s with
  | nil => rfl
  | cons i is ih => rw [log_cons, log_cons, List.filter_append, ih]

/-! ## Invariants of runs -/

/-- A property of the history and of the state it leads to, preserved by every
    step that meets `C`, holds at the end of every run along `C`. -/
theorem run_induction {C : State → Input → Prop} {P : List Input → State → Prop} {s : State}
    (base : P [] s)
    (next : ∀ is i, m.Along C s is → P is (m.run s is) → C (m.run s is) i →
      P (is ++ [i]) (m.step (m.run s is) i))
    (is : List Input) (along : m.Along C s is) : P is (m.run s is) := by
  induction is using List.reverseRecOn with
  | nil => exact base
  | append_singleton is i ih =>
    rw [along_append] at along
    obtain ⟨before, now, -⟩ := along
    rw [run_append]
    exact next is i before (ih before) now

/-- An invariant of the steps that meet `C` holds at the end of every run along
    `C`. -/
theorem invariant_run {C : State → Input → Prop} {P : State → Prop} {s : State} (base : P s)
    (next : ∀ s i, P s → C s i → P (m.step s i)) (is : List Input) (along : m.Along C s is) :
    P (m.run s is) :=
  m.run_induction (C := C) (P := fun _ => P) base (fun _ i _ ih now => next _ i ih now) is along

/-- An invariant of all steps holds at the end of every run. -/
theorem invariant {P : State → Prop} {s : State} (base : P s)
    (next : ∀ s i, P s → P (m.step s i)) (is : List Input) : P (m.run s is) := by
  induction is generalizing s with
  | nil => exact base
  | cons i is ih => exact ih (next s i base)

/-- Conditions that agree where an invariant of all steps holds hold along the same runs. -/
theorem along_congr {C D : State → Input → Prop} {P : State → Prop} (agree : ∀ s i, P s → (C s i ↔ D s i))
    (next : ∀ s i, P s → P (m.step s i)) {s : State} (base : P s) (is : List Input) :
    m.Along C s is ↔ m.Along D s is := by
  induction is generalizing s with
  | nil => exact Iff.rfl
  | cons i is ih => exact and_congr (agree s i base) (ih (next s i base))

/-- What is emitted and what is still owed is what was owed and what was taken on. -/
theorem log_conserved (out taken : State → Input → List Event) (owed : State → List Event)
    {C : State → Input → Prop} {P : State → Prop}
    (next : ∀ s i, P s → C s i → P (m.step s i) ∧ out s i ++ owed (m.step s i) = owed s ++ taken s i)
    {s : State} (base : P s) (is : List Input) (along : m.Along C s is) :
    m.log out s is ++ owed (m.run s is) = owed s ++ m.log taken s is := by
  induction is generalizing s with
  | nil => simp
  | cons i is ih =>
    obtain ⟨held, one⟩ := next s i base along.1
    rw [log_cons, log_cons, run_cons, List.append_assoc, ih held along.2, ← List.append_assoc, one,
      List.append_assoc]

/-- Two states that step alike and emit alike under the same inputs emit the same
    all along, and end alike. -/
theorem log_eq_of_alike {emit : State → Input → List Event} {R : State → State → Prop}
    (next : ∀ s t i, R s t → R (m.step s i) (m.step t i) ∧ emit s i = emit t i) {s t : State}
    (alike : R s t) (is : List Input) :
    R (m.run s is) (m.run t is) ∧ m.log emit s is = m.log emit t is := by
  induction is generalizing s t with
  | nil => exact ⟨alike, rfl⟩
  | cons i is ih =>
    obtain ⟨after, now⟩ := next s t i alike
    obtain ⟨ends, later⟩ := ih after
    exact ⟨ends, by rw [log_cons, log_cons, now, later]⟩

/-! ## Infinite runs -/

/-- The state before clock edge `n` of an endless run. -/
def trace (inputs : Nat → Input) : Nat → State
  | 0 => m.reset
  | n + 1 => m.step (trace inputs n) (inputs n)

@[simp] theorem trace_zero (inputs : Nat → Input) : m.trace inputs 0 = m.reset := rfl

@[simp] theorem trace_succ (inputs : Nat → Input) (n : Nat) :
    m.trace inputs (n + 1) = m.step (m.trace inputs n) (inputs n) := rfl

theorem trace_invariant {P : State → Prop} (inputs : Nat → Input) (base : P m.reset)
    (next : ∀ s i, P s → P (m.step s i)) (n : Nat) : P (m.trace inputs n) := by
  induction n with
  | zero => exact base
  | succ n ih => exact next _ _ ih

/-- What an endless run emits in the `count` clock edges from `start` on. -/
def traceLog (emit : State → Input → List Event) (inputs : Nat → Input) (start count : Nat) : List Event :=
  (List.range' start count).flatMap fun n => emit (m.trace inputs n) (inputs n)

@[simp] theorem traceLog_zero (emit : State → Input → List Event) (inputs : Nat → Input) (start : Nat) :
    m.traceLog emit inputs start 0 = [] := rfl

theorem traceLog_succ (emit : State → Input → List Event) (inputs : Nat → Input) (start count : Nat) :
    m.traceLog emit inputs start (count + 1) = m.traceLog emit inputs start count ++
      emit (m.trace inputs (start + count)) (inputs (start + count)) := by
  rw [traceLog, List.range'_concat, List.flatMap_append, List.flatMap_cons, List.flatMap_nil, List.append_nil,
    Nat.one_mul]
  rfl

/-- What an endless run has emitted and what is still owed is what was owed and what was taken on. -/
theorem traceLog_conserved (out taken : State → Input → List Event) (owed : State → List Event) {P : State → Prop}
    (inputs : Nat → Input) (kept : ∀ n, P (m.trace inputs n))
    (next : ∀ s i, P s → out s i ++ owed (m.step s i) = owed s ++ taken s i) (n : Nat) :
    m.traceLog out inputs 0 n ++ owed (m.trace inputs n) = owed m.reset ++ m.traceLog taken inputs 0 n := by
  induction n with
  | zero => simp
  | succ n ih =>
    have one := next _ (inputs n) (kept n)
    rw [traceLog_succ, traceLog_succ, Nat.zero_add, trace_succ, List.append_assoc, one, ← List.append_assoc, ih,
      List.append_assoc]

/-! ## Endless inputs -/

/-- The inputs `is`, and then `rest` for ever. -/
def endless (is : List Input) (rest : Input) (n : Nat) : Input := is.getD n rest

theorem trace_endless (is : List Input) (rest : Input) (n : Nat) :
    m.trace (endless is rest) n = m.run m.reset (is.take n ++ List.replicate (n - is.length) rest) := by
  induction n with
  | zero => simp
  | succ n ih =>
    rw [trace_succ, ih, endless]
    by_cases within : n < is.length
    · rw [List.take_succ_eq_append_getElem within, Nat.sub_eq_zero_of_le (Nat.le_of_lt within),
        Nat.sub_eq_zero_of_le within, List.getD_eq_getElem _ _ within, List.replicate_zero, List.append_nil,
        List.append_nil, run_append]
      rfl
    · rw [List.take_of_length_le (by omega), List.take_of_length_le (by omega),
        show n + 1 - is.length = n - is.length + 1 by omega, List.replicate_succ',
        List.getD_eq_default _ _ (by omega)]
      simp

theorem Along.at_take {C : State → Input → Prop} {s : State} {is : List Input} (along : m.Along C s is)
    {n : Nat} (within : n < is.length) : C (m.run s (is.take n)) is[n] := by
  induction is generalizing s n with
  | nil => simp at within
  | cons i is ih =>
    cases n with
    | zero => exact along.1
    | succ n => exact ih along.2 (by simpa using within)

/-- What holds along the inputs and afterwards holds at every time. -/
theorem trace_endless_along {C : State → Input → Prop} {is : List Input} {rest : Input}
    (along : m.Along C m.reset is) (after : ∀ k, C (m.run (m.run m.reset is) (List.replicate k rest)) rest)
    (n : Nat) : C (m.trace (endless is rest) n) (endless is rest n) := by
  rw [trace_endless, endless]
  by_cases within : n < is.length
  · rw [List.getD_eq_getElem _ _ within, Nat.sub_eq_zero_of_le (Nat.le_of_lt within), List.replicate_zero, List.append_nil]
    exact along.at_take m within
  · rw [List.getD_eq_default _ _ (by omega), List.take_of_length_le (by omega), run_append]
    exact after _

end Machine

end Clocked
