import Xczu47dr.Clocked.Machine

/-! # Cascades

A machine whose registers drive another machine on the same clock.  The second one
runs as it does alone on the inputs it is driven with.
-/

namespace Clocked.Machine

variable {Input Own Drive State Target Event : Type}

/-- `a` drives `b` through `wire`, which also takes inputs of `b`'s own. -/
def cascade (a : Machine Input State) (b : Machine Drive Target) (wire : State → Own → Drive) :
    Machine (Input × Own) (State × Target) where
  reset := (a.reset, b.reset)
  step s i := (a.step s.1 i.1, b.step s.2 (wire s.1 i.2))

variable (a : Machine Input State) (b : Machine Drive Target) (wire : State → Own → Drive)

/-- The inputs `b` is driven with. -/
def driven (s : State) : List (Input × Own) → List Drive
  | [] => []
  | i :: is => wire s i.2 :: driven (a.step s i.1) is

theorem log_cascade (emit : Target → Drive → List Event) (s : State) (t : Target) (is : List (Input × Own)) :
    (cascade a b wire).log (fun s i => emit s.2 (wire s.1 i.2)) (s, t) is =
      b.log emit t (driven a wire s is) := by
  induction is generalizing s t with
  | nil => rfl
  | cons i is ih => exact congrArg _ (ih (a.step s i.1) (b.step t (wire s i.2)))

end Clocked.Machine
