/-! # Checks that may refuse

How a program of checks returns or refuses, one equivalence for each way its steps are
put together.
-/

namespace Refusals

variable {ε α β : Type}

theorem bind_ok {x : Except ε α} {f : α → Except ε β} {r : β} :
    (x >>= f) = .ok r ↔ ∃ a, x = .ok a ∧ f a = .ok r := by
  cases x with
  | error e => exact ⟨nofun, fun ⟨_, bad, _⟩ => nomatch bad⟩
  | ok a =>
    refine ⟨fun result => ⟨a, rfl, result⟩, fun ⟨_, same, result⟩ => ?_⟩
    cases same
    exact result

theorem refuse_ok {c : Prop} [Decidable c] {e : ε} {k : α → Except ε β} {rest : Except ε β} {r : β} :
    (if c then (throw e >>= k) else rest) = .ok r ↔ ¬ c ∧ rest = .ok r := by
  by_cases refused : c
  · rw [if_pos refused]
    exact ⟨nofun, fun ⟨accepted, _⟩ => absurd refused accepted⟩
  · rw [if_neg refused]
    exact ⟨fun result => ⟨refused, result⟩, fun ⟨_, result⟩ => result⟩

theorem pure_ok {a r : α} : (pure a : Except ε α) = .ok r ↔ r = a :=
  ⟨fun same => by cases same; rfl, fun same => by rw [same]; rfl⟩

theorem bind_error {x : Except ε α} {f : α → Except ε β} {refusal : ε} :
    (x >>= f) = .error refusal ↔ x = .error refusal ∨ ∃ a, x = .ok a ∧ f a = .error refusal := by
  cases x with
  | error reason =>
      refine ⟨fun refused => .inl (congrArg Except.error (Except.error.inj refused)), ?_⟩
      rintro (refused | ⟨_, bad, _⟩)
      · exact congrArg Except.error (Except.error.inj refused)
      · cases bad
  | ok a =>
      refine ⟨fun refused => .inr ⟨a, rfl, refused⟩, ?_⟩
      rintro (bad | ⟨_, same, refused⟩)
      · cases bad
      · cases same
        exact refused

theorem refuse_error {c : Prop} [Decidable c] {reason refusal : ε} {k : α → Except ε β}
    {rest : Except ε β} :
    (if c then (throw reason >>= k) else rest) = .error refusal ↔
      (c ∧ reason = refusal) ∨ (¬ c ∧ rest = .error refusal) := by
  by_cases refused : c
  · rw [if_pos refused]
    refine ⟨fun same => .inl ⟨refused, Except.error.inj same⟩, ?_⟩
    rintro (⟨_, rfl⟩ | ⟨accepted, _⟩)
    · rfl
    · exact absurd refused accepted
  · rw [if_neg refused]
    refine ⟨fun same => .inr ⟨refused, same⟩, ?_⟩
    rintro (⟨bad, _⟩ | ⟨_, same⟩)
    · exact absurd bad refused
    · exact same

end Refusals
