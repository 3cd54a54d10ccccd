import Mathlib.Logic.Basic

/-!
# Steps that may fail

When a computation of steps that may fail has a result: each of its steps has one.

* `eq_ok_of_bind`, `bind_eq_ok_iff`: one step behind another.
* `eq_ok_of_guard`: what stands behind a fault that was not met.
* `map_eq_ok_iff`, `mapError_eq_ok_iff`: a result, or a failure, in other words.
-/
namespace LoginRehearsal

section

variable {ε ε' α β : Type} {x : Except ε α}

theorem ok_bind (f : α → Except ε β) (a : α) : (Except.ok a >>= f) = f a := rfl

theorem eq_ok_of_bind {f : α → Except ε β} {b : β} (h : x >>= f = .ok b) : ∃ a, x = .ok a ∧ f a = .ok b := by
  cases x with
  | error e => cases h
  | ok a => exact ⟨a, rfl, h⟩

/-- A reading that gets past a fault goes on behind it. -/
theorem eq_ok_of_guard {p : Prop} [Decidable p] {e : ε} {f : PUnit → Except ε α} {a : α}
    (h : (if p then throw e >>= f else x) = .ok a) : x = .ok a := by
  split at h
  · cases h
  · exact h

theorem bind_eq_ok_iff {f : α → Except ε β} {b : β} : x >>= f = .ok b ↔ ∃ a, x = .ok a ∧ f a = .ok b := by
  refine ⟨eq_ok_of_bind, ?_⟩
  rintro ⟨a, rfl, h⟩
  exact h

theorem map_eq_ok_iff {f : α → β} {b : β} : x.map f = .ok b ↔ ∃ a, x = .ok a ∧ f a = b := by
  cases x with
  | error e => simp [Except.map]
  | ok a => simp [Except.map]

theorem mapError_eq_ok_iff {f : ε → ε'} {a : α} : x.mapError f = .ok a ↔ x = .ok a := by
  cases x with
  | error e => exact ⟨nofun, nofun⟩
  | ok b => exact ⟨fun h => congrArg Except.ok (Except.ok.inj h), fun h => congrArg Except.ok (Except.ok.inj h)⟩

end

end LoginRehearsal
