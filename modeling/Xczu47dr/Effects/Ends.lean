/-! # How a program ends

Programs with a state that return a value or raise an exception, and what holds of
the state at either end.
-/

namespace Effects

variable {ε σ α β : Type}

/-- From `s` the program returns with `returns`, or raises with `raises`. -/
def Ends (program : EStateM ε σ α) (s : σ) (returns : α → σ → Prop) (raises : ε → σ → Prop) : Prop :=
  match program s with
  | .ok a t => returns a t
  | .error e t => raises e t

variable {program : EStateM ε σ α} {next : α → EStateM ε σ β} {s : σ}

theorem bind_ok {a : α} {t : σ} (returned : program s = .ok a t) : (program >>= next) s = next a t := by
  change (match program s with
    | .ok a t => next a t
    | .error e t => .error e t : EStateM.Result ε σ β) = _
  rw [returned]

theorem bind_error {e : ε} {t : σ} (raised : program s = .error e t) : (program >>= next) s = .error e t := by
  change (match program s with
    | .ok a t => next a t
    | .error e t => .error e t : EStateM.Result ε σ β) = _
  rw [raised]

/-- What is raised on the way is raised by the whole. -/
theorem Ends.bind {returns : β → σ → Prop} {raises : ε → σ → Prop}
    (first : Ends program s (fun a t => Ends (next a) t returns raises) raises) :
    Ends (program >>= next) s returns raises := by
  unfold Ends at first ⊢
  cases ended : program s with
  | ok a t =>
    rw [ended] at first
    rw [bind_ok ended]
    exact first
  | error e t =>
    rw [ended] at first
    rw [bind_error ended]
    exact first

theorem Ends.mono {returns returns' : α → σ → Prop} {raises raises' : ε → σ → Prop}
    (ends : Ends program s returns raises) (later : ∀ a t, returns a t → returns' a t)
    (worse : ∀ e t, raises e t → raises' e t) : Ends program s returns' raises' := by
  unfold Ends at ends ⊢
  cases ended : program s with
  | ok a t =>
    rw [ended] at ends
    exact later a t ends
  | error e t =>
    rw [ended] at ends
    exact worse e t ends

end Effects
