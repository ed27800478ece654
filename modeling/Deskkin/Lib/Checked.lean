/-
# Checked machine arithmetic

Counters of fixed width are natural numbers with an explicit greatest value.
Addition either stays within it or fails; it never wraps around.
-/

import Mathlib.Algebra.Order.Ring.Nat

namespace Checked

/-- The greatest 16-bit value. -/
def u16Max : ℕ := 2 ^ 16 - 1

/-- The greatest 32-bit value. -/
def u32Max : ℕ := 2 ^ 32 - 1

/-- The greatest 64-bit value. -/
def u64Max : ℕ := 2 ^ 64 - 1

/-- Add within a greatest value, or fail. -/
def add (greatest value amount : ℕ) : Option ℕ :=
  if value + amount ≤ greatest then some (value + amount) else none

/-- Multiply within a greatest value, or fail. -/
def mul (greatest value factor : ℕ) : Option ℕ :=
  if value * factor ≤ greatest then some (value * factor) else none

/-- Subtract without going below zero, or fail. -/
def sub (value amount : ℕ) : Option ℕ :=
  if amount ≤ value then some (value - amount) else none

@[simp]
theorem add_eq_some_iff {greatest value amount sum : ℕ} :
    add greatest value amount = some sum ↔ value + amount = sum ∧ sum ≤ greatest := by
  unfold add
  split
  · rename_i fits
    constructor
    · intro h
      cases h
      exact ⟨rfl, fits⟩
    · rintro ⟨rfl, -⟩
      rfl
  · rename_i exceeds
    constructor
    · intro h
      cases h
    · rintro ⟨rfl, fits⟩
      exact absurd fits exceeds

theorem add_of_le {greatest value amount : ℕ} (fits : value + amount ≤ greatest) :
    add greatest value amount = some (value + amount) := by
  simp [fits]

theorem mul_of_le {greatest value factor : ℕ} (fits : value * factor ≤ greatest) :
    mul greatest value factor = some (value * factor) :=
  if_pos fits

theorem sub_of_le {value amount : ℕ} (fits : amount ≤ value) :
    sub value amount = some (value - amount) :=
  if_pos fits

@[simp]
theorem add_eq_none_iff {greatest value amount : ℕ} :
    add greatest value amount = none ↔ greatest < value + amount := by
  unfold add
  split <;> simp <;> omega

end Checked
