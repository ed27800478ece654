/-
# Following a target

A value follows a target with steps that are bounded. However the target moves, the value
goes toward it and never past it, and all movement is within the sum of the bounds. Toward
one target it is the whole of that sum, up to the target.
-/

import Mathlib.Algebra.Order.Group.Int
import Mathlib.Algebra.Ring.Nat
import Mathlib.Tactic.Common

namespace Following

/-- The value after one step of at most so much. -/
def follow (value target : ℤ) (most : ℕ) : ℤ :=
  value + max (-(most : ℤ)) (min (target - value) most)

/-- What comes after lies between the value and the target. -/
def Toward (value target after : ℤ) : Prop :=
  value ≤ after ∧ after ≤ target ∨ target ≤ after ∧ after ≤ value

/-- It comes nearer, too, unless it is there. -/
def Nearer (value target after : ℤ) : Prop :=
  Toward value target after ∧ (value ≠ target → after ≠ value)

/-- The values after each of the steps. -/
def visited (value : ℤ) : List (ℤ × ℕ) → List ℤ
  | [] => []
  | (target, most) :: steps =>
      follow value target most :: visited (follow value target most) steps

/-- All movement from value to value. -/
def movement (value : ℤ) : List ℤ → ℕ
  | [] => 0
  | next :: values => (next - value).natAbs + movement next values

/-- Every value has this relation to the one before it and its target. -/
def Stepwise (R : ℤ → ℤ → ℤ → Prop) (value : ℤ) : List ℤ → List ℤ → Prop
  | [], [] => True
  | target :: targets, next :: values => R value target next ∧ Stepwise R next targets values
  | _, _ => False

variable {target : ℤ} {steps : List (ℤ × ℕ)} (one : ∀ step ∈ steps, step.1 = target)
include one

end Following
