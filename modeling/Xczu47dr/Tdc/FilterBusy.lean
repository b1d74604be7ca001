import Xczu47dr.Clocked.Linger

/-! # How long the filters are busy

The valid bits of `iq_fractional_delay_8ppc` and of `iq_event_phase_rotator`: the
pipelines of the samples, the tail that the filter flushes after its last input,
and the `busy` that tells the scheduler whether either still works.  (The samples
themselves do not bear on it.)
-/

namespace Xczu47dr.Tdc

/-- `valid_pipe` and `tail_count` of the fractional delay, and `valid_pipe` of the
    phase rotator behind it. -/
structure ChannelFilter where
  validPipe : BitVec 7
  /-- 2 bits -/
  tailCount : Nat
  rotatorPipe : BitVec 3

/-- What the filter of one channel samples: `clear`, `config_valid` and `source_valid`. -/
structure FilterIn where
  clear : Bool
  configValid : Bool
  sourceValid : Bool

namespace ChannelFilter

def reset : ChannelFilter := ⟨0, 0, 0⟩

variable (s : ChannelFilter) (i : FilterIn)

def workValid : Bool := i.sourceValid || s.tailCount ≠ 0

/-- `busy` of the fractional delay. -/
def firBusy : Bool := !i.clear && !i.configValid && (i.sourceValid || s.tailCount ≠ 0 || s.validPipe ≠ 0)

/-- `busy` of the phase rotator, which is that of the channel. -/
def busy : Bool := !i.clear && !i.configValid && (s.firBusy i || s.rotatorPipe ≠ 0)

def step : ChannelFilter :=
  if i.clear || i.configValid then reset
  else
    { validPipe := s.validPipe.shiftConcat (s.workValid i)
      tailCount := if i.sourceValid then 3 else s.tailCount - 1
      rotatorPipe := s.rotatorPipe.shiftConcat (s.firBusy i) }

end ChannelFilter

open ChannelFilter in
/-- A filter that is neither cleared nor configured is busy for thirteen cycles after an input. -/
theorem busy_lingers {low high : Nat} {filter : Nat → ChannelFilter} {inputs : Nat → FilterIn}
    (steps : ∀ n, low ≤ n → n < high → filter (n + 1) = (filter n).step (inputs n))
    (clear : ∀ n, low ≤ n → n ≤ high → (inputs n).clear = false)
    (configValid : ∀ n, low ≤ n → n ≤ high → (inputs n).configValid = false)
    (bounded : (filter low).tailCount ≤ 3) :
    Clocked.Lingers low high 13 (fun n => (filter n).busy (inputs n) = true)
      (fun n => (inputs n).sourceValid = true) := by
  have step_eq : ∀ n, low ≤ n → n < high → (filter (n + 1)) =
      { validPipe := (filter n).validPipe.shiftConcat ((filter n).workValid (inputs n))
        tailCount := if (inputs n).sourceValid then 3 else (filter n).tailCount - 1
        rotatorPipe := (filter n).rotatorPipe.shiftConcat ((filter n).firBusy (inputs n)) } := by
    intro n from_low to_high
    rw [steps n from_low to_high, step, clear n from_low (by omega), configValid n from_low (by omega)]
    rfl
  have working : ∀ n, low ≤ n → n ≤ high → ((filter n).workValid (inputs n) = true ↔
      (inputs n).sourceValid = true ∨ (filter n).tailCount ≠ 0) := by
    intro n _ _
    simp [workValid]
  have filtering : ∀ n, low ≤ n → n ≤ high → ((filter n).firBusy (inputs n) = true ↔
      (filter n).workValid (inputs n) = true ∨ (filter n).validPipe ≠ 0) := by
    intro n from_low to_high
    simp [firBusy, workValid, clear n from_low to_high, configValid n from_low to_high]
  have rotating : ∀ n, low ≤ n → n ≤ high → ((filter n).busy (inputs n) = true ↔
      (filter n).firBusy (inputs n) = true ∨ (filter n).rotatorPipe ≠ 0) := by
    intro n from_low to_high
    simp [busy, clear n from_low to_high, configValid n from_low to_high]
  have tail := (Clocked.countdown_lingers (fun n => (filter n).tailCount) (fun n => (inputs n).sourceValid)
    (fun n from_low to_high => by rw [step_eq n from_low to_high]) bounded).congr working
  have pipe := (Clocked.shift_lingers (fun n => (filter n).validPipe) (fun n => (filter n).workValid (inputs n))
    (fun n from_low to_high => by rw [step_eq n from_low to_high])).congr filtering
  have rotator := (Clocked.shift_lingers (fun n => (filter n).rotatorPipe) (fun n => (filter n).firBusy (inputs n))
    (fun n from_low to_high => by rw [step_eq n from_low to_high])).congr rotating
  exact rotator.trans (pipe.trans tail)

end Xczu47dr.Tdc
