/-
# Quotients that are rounded

Integer division rounds down, so half of the divisor is added first where the nearest
integer is wanted.
-/

import Mathlib.Algebra.Order.Round
import Mathlib.Data.Rat.Floor

namespace Rounding

theorem add_half_div (a b : ℕ) : (a + b / 2) / b = (2 * a / b + 1) / 2 := by
  rcases Nat.eq_zero_or_pos b with rfl | positive
  · simp
  · calc (a + b / 2) / b
        = (2 * a + b) / 2 / b := by rw [Nat.mul_add_div (by decide)]
      _ = (2 * a + b) / b / 2 := by
          rw [Nat.div_div_eq_div_mul, Nat.div_div_eq_div_mul, Nat.mul_comm 2 b]
      _ = (2 * a / b + 1) / 2 := by rw [Nat.add_div_right _ positive]

/-- **A quotient is rounded to the nearest integer**, and up where two are as near. -/
theorem cast_add_half_div (a b : ℕ) : (((a + b / 2) / b : ℕ) : ℤ) = round ((a : ℚ) / b) := by
  have twice : (2 : ℚ) * (a / b) = ((2 * a : ℕ) : ℚ) / (b : ℕ) := by
    rw [Nat.cast_mul, Nat.cast_ofNat, mul_div_assoc]
  rw [add_half_div, round_eq_div, twice, Rat.floor_natCast_div_natCast, Int.natCast_ediv,
    Int.natCast_add, Int.natCast_ediv]
  rfl

/-- A quotient that is rounded toward zero is bounded like the exact one. -/
theorem tdiv_between {a least divisor bound : ℤ} (nonneg : 0 ≤ bound) (positive : 0 < least)
    (far : least ≤ divisor) (low : -(bound * least) ≤ a) (high : a ≤ bound * least) :
    -bound ≤ a.tdiv divisor ∧ a.tdiv divisor ≤ bound := by
  have more : bound * least ≤ bound * divisor := Int.mul_le_mul_of_nonneg_left far nonneg
  rcases le_total 0 a with up | down
  · rw [Int.tdiv_eq_ediv_of_nonneg up]
    have least : 0 ≤ a / divisor := Int.ediv_nonneg up (by omega)
    have most : a / divisor ≤ bound := Int.ediv_le_of_le_mul (by omega) (by omega)
    omega
  · have least : 0 ≤ -a / divisor := Int.ediv_nonneg (by omega) (by omega)
    have most : -a / divisor ≤ bound := Int.ediv_le_of_le_mul (by omega) (by omega)
    rw [← neg_neg a, Int.neg_tdiv, Int.tdiv_eq_ediv_of_nonneg (by omega)]
    omega

theorem tdiv_two (a : ℤ) : 0 ≤ a ∧ a.tdiv 2 = a / 2 ∨ a < 0 ∧ a.tdiv 2 = -(-a / 2) := by
  rcases le_or_gt 0 a with up | down
  · exact Or.inl ⟨up, Int.tdiv_eq_ediv_of_nonneg up⟩
  · refine Or.inr ⟨down, ?_⟩
    rw [← Int.tdiv_eq_ediv_of_nonneg (by omega), Int.neg_tdiv, neg_neg]

theorem add_ediv_le {a step divisor : ℤ} (positive : 0 < divisor) (small : step ≤ divisor) :
    (a + step) / divisor ≤ a / divisor + 1 :=
  calc (a + step) / divisor
      ≤ (a + divisor) / divisor := Int.ediv_le_ediv positive (by omega)
    _ = a / divisor + 1 := by
        rw [Int.add_ediv_of_dvd_right (Int.dvd_refl divisor), Int.ediv_self (by omega)]

/-- A step of at most the divisor moves the quotient by at most one. -/
theorem add_tdiv_le {a step divisor : ℤ} (positive : 0 < divisor) (up : 0 ≤ step)
    (small : step ≤ divisor) : (a + step).tdiv divisor ≤ a.tdiv divisor + 1 := by
  rcases le_or_gt 0 a with nonneg | negative
  · rw [Int.tdiv_eq_ediv_of_nonneg (by omega), Int.tdiv_eq_ediv_of_nonneg nonneg]
    exact add_ediv_le positive small
  · have before : a.tdiv divisor = -(-a / divisor) := by
      rw [← Int.tdiv_eq_ediv_of_nonneg (by omega), Int.neg_tdiv, neg_neg]
    rcases lt_or_ge (a + step) 0 with below | above
    · have after : (a + step).tdiv divisor = -(-(a + step) / divisor) := by
        rw [← Int.tdiv_eq_ediv_of_nonneg (by omega), Int.neg_tdiv, neg_neg]
      have bound : (-(a + step) + step) / divisor ≤ -(a + step) / divisor + 1 :=
        add_ediv_le positive small
      rw [show -(a + step) + step = -a by omega] at bound
      omega
    · have after : (a + step).tdiv divisor = 0 := by
        rw [Int.tdiv_eq_ediv_of_nonneg above, Int.ediv_eq_zero_of_lt above (by omega)]
      have bound : -a / divisor ≤ 1 :=
        Int.ediv_le_of_le_mul positive (by omega)
      omega

/-- **Opposite numbers that are rounded down have opposite quotients**, or ones that differ
by one. -/
theorem tdiv_add_tdiv {a b scale divisor : ℤ} (opposite : b = -a ∨ b = -a - 1)
    (positive : 0 < divisor) (nonneg : 0 ≤ scale) (far : scale ≤ divisor) :
    (a * scale).tdiv divisor + (b * scale).tdiv divisor = 0 ∨
      (a * scale).tdiv divisor + (b * scale).tdiv divisor = -1 := by
  rcases opposite with rfl | rfl
  · rw [Int.neg_mul, Int.neg_tdiv]
    omega
  · have next : (-a - 1) * scale = -(a * scale + scale) := by
      rw [Int.sub_mul, Int.neg_mul, Int.one_mul]
      omega
    have least : (a * scale).tdiv divisor ≤ (a * scale + scale).tdiv divisor :=
      Int.tdiv_le_tdiv positive (by omega)
    have most : (a * scale + scale).tdiv divisor ≤ (a * scale).tdiv divisor + 1 :=
      add_tdiv_le positive nonneg far
    rw [next, Int.neg_tdiv]
    omega

end Rounding
