/-! # Programs that return

Programs with a state that return a value or raise an exception and keep the state either way,
read backwards: what each step of one that has returned must have done.
-/

namespace Returns

variable {ε σ α β : Type} {x : ExceptT ε (StateM σ) α} {f : α → ExceptT ε (StateM σ) β} {s t : σ} {a r : α} {b : β}

theorem bind_returned : (x >>= f) s = (.ok b, t) ↔ ∃ a u, x s = (.ok a, u) ∧ f a u = (.ok b, t) := by
  have unfolded : (x >>= f) s = (match x s with
    | (.ok a, u) => f a u
    | (.error e, u) => (.error e, u)) := by
    change (match (x s).1 with
      | .ok a => f a
      | .error e => pure (.error e) : StateM σ (Except ε β)) (x s).2 = _
    obtain ⟨ended, u⟩ := x s
    cases ended <;> rfl
  rw [unfolded]
  constructor
  · intro returned
    rcases ended : x s with ⟨a | e, u⟩
    · rw [ended] at returned
      cases returned
    · rw [ended] at returned
      exact ⟨_, u, rfl, returned⟩
  · rintro ⟨a, u, first, second⟩
    rw [first]
    exact second

/-- A check that raises has let the program pass. -/
theorem check_returned {c : Prop} [Decidable c] {e : ε} {rest : α → ExceptT ε (StateM σ) β}
    {otherwise : ExceptT ε (StateM σ) β} :
    (if c then ((throw e : ExceptT ε (StateM σ) α) >>= rest) else otherwise) s = (.ok b, t) ↔
      ¬ c ∧ otherwise s = (.ok b, t) := by
  by_cases refused : c
  · rw [if_pos refused, bind_returned]
    refine ⟨?_, fun passed => absurd refused passed.1⟩
    rintro ⟨a, u, thrown, -⟩
    cases thrown
  · rw [if_neg refused]
    exact ⟨fun returned => ⟨refused, returned⟩, And.right⟩

theorem pure_returned : (pure a : ExceptT ε (StateM σ) α) s = (.ok r, t) ↔ r = a ∧ t = s := by
  constructor
  · intro returned
    cases returned
    exact ⟨rfl, rfl⟩
  · rintro ⟨rfl, rfl⟩
    rfl

theorem throw_returned {e : ε} : ¬ (throw e : ExceptT ε (StateM σ) α) s = (.ok r, t) := by
  intro returned
  cases returned

end Returns
