/-!
# Computations that can fail

Of two computations in a row both succeed, or one of them fails.

Key theorems: `bind_eq_ok_iff`, `map_eq_ok`, `mapError_eq_ok_iff`, `bind_eq_error_iff`.
-/

namespace DataGovernance

variable {ε ε' α β : Type}

/-- What comes of two computations, the second one with the result of the first. -/
theorem bind_eq_ok_iff {x : Except ε α} {next : α → Except ε β} {b : β} :
    x >>= next = .ok b ↔ ∃ a, x = .ok a ∧ next a = .ok b := by
  cases x <;> simp [bind, Except.bind]

/-- A result that a function has been applied to. -/
theorem map_eq_ok {f : α → β} {x : Except ε α} {b : β} (h : f <$> x = .ok b) :
    ∃ a, x = .ok a ∧ f a = b := by
  cases x with
  | error e => cases h
  | ok a => exact ⟨a, rfl, by cases h; rfl⟩

/-- Other words for an error change no result. -/
theorem mapError_eq_ok_iff {f : ε → ε'} {x : Except ε α} {a : α} :
    x.mapError f = .ok a ↔ x = .ok a := by
  cases x with
  | error e => exact ⟨nofun, nofun⟩
  | ok b =>
    constructor <;> intro h
    · rw [Except.ok.inj h]
    · rw [Except.ok.inj h]
      rfl

/-- What is done after a check fails if the check does, or else by itself. -/
theorem bind_eq_error_iff {x : Except ε Unit} {next : Unit → Except ε β} {e : ε} :
    x >>= next = .error e ↔ x = .error e ∨ x = .ok () ∧ next () = .error e := by
  cases x <;> simp [bind, Except.bind]

end DataGovernance
