/-
# Time in chunks

A machine that is advanced by amounts of time does not depend on how the time is cut when
advancing by a sum is advancing by the first part and then by the second. Quotients may be
handed on as they come, as long as each remainder is kept for the next.
-/

import Mathlib.Algebra.BigOperators.Group.List.Basic
import Mathlib.Algebra.Ring.Nat

universe u v

namespace Chunks

/-! ## Lists of amounts -/

section Lists

variable {σ : Type u} {α : Type v} {step : σ → α → σ} {amount : α → ℕ} {after : σ → ℕ → σ}

/-- **Advancing by all amounts is advancing by their sum.** -/
theorem foldl_eq (zero : ∀ s, after s 0 = s)
    (add : ∀ s m n, after (after s m) n = after s (m + n))
    (steps : ∀ s a, step s a = after s (amount a)) (s : σ) (amounts : List α) :
    amounts.foldl step s = after s (amounts.map amount).sum := by
  induction amounts generalizing s with
  | nil => exact (zero s).symm
  | cons a amounts ih => rw [List.foldl_cons, steps, ih, add, List.map_cons, List.sum_cons]

/-- Amounts with one sum lead to one state. -/
theorem foldl_congr (zero : ∀ s, after s 0 = s)
    (add : ∀ s m n, after (after s m) n = after s (m + n))
    (steps : ∀ s a, step s a = after s (amount a)) {first second : List α}
    (same : (first.map amount).sum = (second.map amount).sum) (s : σ) :
    first.foldl step s = second.foldl step s := by
  rw [foldl_eq zero add steps, foldl_eq zero add steps, same]

end Lists

/-! ## Remainders that are kept -/

variable {period : ℕ}

theorem carry_div (positive : 0 < period) (n more : ℕ) :
    n / period + (more + n % period) / period = (n + more) / period := by
  conv_rhs => rw [← Nat.div_add_mod n period, Nat.add_assoc, Nat.add_comm (n % period),
    Nat.mul_add_div positive]

theorem carry_mod (n more : ℕ) : (more + n % period) % period = (n + more) % period := by
  rw [Nat.add_mod_mod, Nat.add_comm]

end Chunks
