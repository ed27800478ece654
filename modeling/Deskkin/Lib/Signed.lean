/-
# Signed machine integers

Sums and products of signed machine integers are taken in the integers first. What does not
fit is a panic, which is `none`, or goes to the nearest value that does, or wraps around.
-/

import Mathlib.Algebra.Order.Group.Int
import Mathlib.Tactic.Common

namespace Signed

/-! ## 64 bits -/

def Fits64 (value : ℤ) : Prop := -2 ^ 63 ≤ value ∧ value < 2 ^ 63

instance (value : ℤ) : Decidable (Fits64 value) := inferInstanceAs (Decidable (_ ∧ _))

/-- The value where it fits. -/
def checked64 (value : ℤ) : Option Int64 := if Fits64 value then some (.ofInt value) else none

/-- The nearest value that fits. -/
def saturated64 (value : ℤ) : Int64 := .ofInt (max (-2 ^ 63) (min value (2 ^ 63 - 1)))

theorem fits64_toInt (a : Int64) : Fits64 a.toInt := ⟨a.le_toInt, a.toInt_lt⟩

variable {value : ℤ}

theorem toInt_ofInt64 (fits : Fits64 value) : (Int64.ofInt value).toInt = value :=
  Int64.toInt_ofInt_of_le fits.1 fits.2

theorem checked64_of_fits (fits : Fits64 value) : checked64 value = some (.ofInt value) :=
  if_pos fits

theorem checked64_eq_none : checked64 value = none ↔ ¬Fits64 value := by
  rw [checked64]
  split <;> simp [*]

@[simp]
theorem toInt_saturated64 (value : ℤ) :
    (saturated64 value).toInt = max (-2 ^ 63) (min value (2 ^ 63 - 1)) :=
  toInt_ofInt64 ⟨by omega, by omega⟩

theorem saturated64_of_fits (fits : Fits64 value) : saturated64 value = .ofInt value := by
  obtain ⟨low, high⟩ := fits
  rw [saturated64, min_eq_left (by omega), max_eq_right low]

theorem saturated64_toInt (a : Int64) : saturated64 a.toInt = a := by
  rw [saturated64_of_fits (fits64_toInt a), Int64.ofInt_toInt]

/-- Sums that only go up saturate once. -/
theorem saturated64_add_add (a : Int64) {m n : ℤ} (up : 0 ≤ m) (more : 0 ≤ n) :
    saturated64 ((saturated64 (a.toInt + m)).toInt + n) = saturated64 (a.toInt + (m + n)) := by
  have low := a.le_toInt
  rw [toInt_saturated64, saturated64, saturated64]
  apply congrArg
  omega

/-! ## 32 bits -/

def Fits32 (value : ℤ) : Prop := -2 ^ 31 ≤ value ∧ value < 2 ^ 31

instance (value : ℤ) : Decidable (Fits32 value) := inferInstanceAs (Decidable (_ ∧ _))

/-- The value where it fits. -/
def checked32 (value : ℤ) : Option ℤ := if Fits32 value then some value else none

/-- The nearest value that fits. -/
def saturated32 (value : ℤ) : ℤ := max (-2 ^ 31) (min value (2 ^ 31 - 1))

/-- `as i32`: what the low 32 bits say. -/
def narrow32 (value : ℤ) : ℤ :=
  if value % 2 ^ 32 < 2 ^ 31 then value % 2 ^ 32 else value % 2 ^ 32 - 2 ^ 32

theorem fits32_toInt (a : Int32) : Fits32 a.toInt := ⟨a.le_toInt, a.toInt_lt⟩

theorem toInt_ofInt32 (fits : Fits32 value) : (Int32.ofInt value).toInt = value :=
  Int32.toInt_ofInt_of_le fits.1 fits.2

theorem checked32_of_fits (fits : Fits32 value) : checked32 value = some value :=
  if_pos fits

theorem fits32_saturated32 (value : ℤ) : Fits32 (saturated32 value) := by
  rw [Fits32, saturated32]
  omega

theorem saturated32_of_fits (fits : Fits32 value) : saturated32 value = value := by
  obtain ⟨low, high⟩ := fits
  rw [saturated32]
  omega

theorem fits32_narrow32 (value : ℤ) : Fits32 (narrow32 value) := by
  rw [Fits32, narrow32]
  split <;> omega

theorem narrow32_of_fits (fits : Fits32 value) : narrow32 value = value := by
  obtain ⟨low, high⟩ := fits
  rw [narrow32]
  split <;> omega

end Signed
