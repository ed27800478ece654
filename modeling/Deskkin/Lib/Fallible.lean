/-
# Results of fallible steps

A fallible function returns `Except`. The single rule below takes a successful
sequence of two steps apart, so that proofs about such functions follow the
sequence and never unfold the monad.
-/

import Mathlib.Data.Option.Basic

namespace Fallible

universe u v

variable {ε : Type u} {α β : Type v}

/-- A sequence succeeds exactly when its first step does and the rest succeeds
on its value. -/
@[simp]
theorem bind_eq_ok_iff {first : Except ε α} {rest : α → Except ε β} {value : β} :
    (first >>= rest) = .ok value ↔ ∃ a, first = .ok a ∧ rest a = .ok value := by
  cases first with
  | error e =>
      constructor
      · intro h
        cases h
      · rintro ⟨a, h, -⟩
        cases h
  | ok a =>
      constructor
      · intro h
        exact ⟨a, rfl, h⟩
      · rintro ⟨b, h, result⟩
        cases h
        exact result

@[simp]
theorem pure_eq_ok_iff {a b : α} : (pure a : Except ε α) = .ok b ↔ a = b := by
  constructor
  · intro h
    cases h
    rfl
  · rintro rfl
    rfl

@[simp]
theorem ok_bind (a : α) (rest : α → Except ε β) : ((.ok a : Except ε α) >>= rest) = rest a :=
  rfl

@[simp]
theorem error_bind (e : ε) (rest : α → Except ε β) :
    ((.error e : Except ε α) >>= rest) = .error e :=
  rfl

theorem map_eq_ok_iff {f : α → β} {result : Except ε α} {b : β} :
    result.map f = .ok b ↔ ∃ a, result = .ok a ∧ f a = b := by
  cases result <;> simp [Except.map]

/-- Renaming the error keeps the successes. -/
@[simp]
theorem mapError_eq_ok_iff {ε' : Type u} {rename : ε → ε'} {result : Except ε α} {a : α} :
    result.mapError rename = .ok a ↔ result = .ok a := by
  cases result <;> simp [Except.mapError]

@[simp]
theorem mapError_ok {ε' : Type u} (rename : ε → ε') (a : α) :
    (Except.ok a : Except ε α).mapError rename = .ok a :=
  rfl

@[simp]
theorem mapError_error {ε' : Type u} (rename : ε → ε') (e : ε) :
    (Except.error e : Except ε α).mapError rename = .error (rename e) :=
  rfl

end Fallible
