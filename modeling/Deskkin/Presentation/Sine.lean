/-
# Sines from a table

The sine of an angle is interpolated between two entries of a table of 1024 parts of a turn.
Negative angles have the sine of the positive one with the other sign, and cosines are taken
on the positive side too, so both are as symmetric as they should be, whatever the table says.
The table is made when the program is built and is a parameter here.
-/

import Deskkin.Presentation.Yaw

namespace Deskkin.Presentation

/-- Sines in parts of 32768, for every 64 units of a turn. -/
abbrev SineTable := Fin 1024 → Int16

/-- The angle between -180 degrees and 180 degrees. -/
def signedTurn (angle : ℤ) : ℤ :=
  let wrapped := angle % turnUnits
  if wrapped > turnUnits / 2 then wrapped - turnUnits else wrapped

section Sine

variable (sine : SineTable)

/-- The sums and products of two entries fit `i32`. -/
def interpolatedSinQ15 (angle : ℤ) : ℤ :=
  let wrapped := (angle % turnUnits).toNat
  let index := wrapped / 64
  let fraction : ℤ := (wrapped % 64 : ℕ)
  let first := (sine (Fin.ofNat 1024 index)).toInt
  let second := (sine (Fin.ofNat 1024 (index + 1))).toInt
  first + ((second - first) * fraction + 32).tdiv 64

def sinQ15 (angle : ℤ) : ℤ :=
  let signed := signedTurn angle
  if signed < 0 then -interpolatedSinQ15 sine (-signed) else interpolatedSinQ15 sine signed

def cosQ15 (angle : ℤ) : ℤ := interpolatedSinQ15 sine (turnUnits / 4 + |signedTurn angle|)

end Sine

/-! ## Turns -/

theorem signedTurn_congr {a b : ℤ} (same : a % turnUnits = b % turnUnits) :
    signedTurn a = signedTurn b := by
  rw [signedTurn, signedTurn, same]

theorem signedTurn_spec (angle : ℤ) : -32768 < signedTurn angle ∧ signedTurn angle ≤ 32768 ∧
    (signedTurn angle - angle) % 65536 = 0 := by
  rw [signedTurn, turnUnits]
  split <;> omega

/-- Opposite angles, but half a turn is its own opposite. -/
theorem signedTurn_opposite {a b : ℤ} (opposite : (a + b) % turnUnits = 0) :
    signedTurn b = -signedTurn a ∨ signedTurn a = 32768 ∧ signedTurn b = 32768 := by
  have first := signedTurn_spec a
  have second := signedTurn_spec b
  rw [turnUnits] at opposite
  omega

/-! ## Sizes -/

section Bounds

variable {sine : SineTable}

/-- An interpolated value lies between the two. -/
theorem interpolate_between (first second : ℤ) {fraction : ℤ} (low : 0 ≤ fraction)
    (high : fraction < 64) :
    min first second ≤ first + ((second - first) * fraction + 32).tdiv 64 ∧
      first + ((second - first) * fraction + 32).tdiv 64 ≤ max first second := by
  rcases le_total first second with up | down
  · have least : 0 ≤ (second - first) * fraction :=
      Int.mul_nonneg (by omega) low
    have most : (second - first) * fraction ≤ (second - first) * 63 :=
      Int.mul_le_mul_of_nonneg_left (by omega) (by omega)
    rw [Int.tdiv_eq_ediv_of_nonneg (by omega)]
    omega
  · have least : (first - second) * fraction ≤ (first - second) * 63 :=
      Int.mul_le_mul_of_nonneg_left (by omega) (by omega)
    have most : 0 ≤ (first - second) * fraction := Int.mul_nonneg (by omega) low
    have flipped : (second - first) * fraction = -((first - second) * fraction) := by
      rw [← Int.neg_mul, Int.neg_sub]
    rw [flipped]
    rcases le_total 0 (-((first - second) * fraction) + 32) with small | large
    · rw [Int.tdiv_eq_ediv_of_nonneg small]
      omega
    · rw [show -((first - second) * fraction) + 32 = -((first - second) * fraction - 32) by omega,
        Int.neg_tdiv, Int.tdiv_eq_ediv_of_nonneg (by omega)]
      omega

theorem interpolatedSinQ15_bounded (sine : SineTable) (angle : ℤ) :
    -32768 ≤ interpolatedSinQ15 sine angle ∧ interpolatedSinQ15 sine angle ≤ 32767 := by
  rw [interpolatedSinQ15]
  generalize sine (Fin.ofNat 1024 ((angle % turnUnits).toNat / 64)) = first
  generalize sine (Fin.ofNat 1024 ((angle % turnUnits).toNat / 64 + 1)) = second
  have between := interpolate_between first.toInt second.toInt
    (Int.natCast_nonneg ((angle % turnUnits).toNat % 64)) (by omega)
  have firstLow := first.le_toInt
  have firstHigh := first.toInt_lt
  have secondLow := second.le_toInt
  have secondHigh := second.toInt_lt
  omega

theorem sinQ15_bounded (sine : SineTable) (angle : ℤ) :
    -32768 ≤ sinQ15 sine angle ∧ sinQ15 sine angle ≤ 32768 := by
  have up := interpolatedSinQ15_bounded sine (signedTurn angle)
  have down := interpolatedSinQ15_bounded sine (-signedTurn angle)
  rw [sinQ15]
  split <;> omega

theorem cosQ15_bounded (sine : SineTable) (angle : ℤ) :
    -32768 ≤ cosQ15 sine angle ∧ cosQ15 sine angle ≤ 32768 := by
  have bounded := interpolatedSinQ15_bounded sine (turnUnits / 4 + |signedTurn angle|)
  rw [cosQ15]
  omega

/-! ## Symmetries -/

/-- **Sines only depend on the part of a turn.** -/
theorem sinQ15_congr {a b : ℤ} (same : a % turnUnits = b % turnUnits) :
    sinQ15 sine a = sinQ15 sine b := by
  rw [sinQ15, sinQ15, signedTurn_congr same]

theorem cosQ15_congr {a b : ℤ} (same : a % turnUnits = b % turnUnits) :
    cosQ15 sine a = cosQ15 sine b := by
  rw [cosQ15, cosQ15, signedTurn_congr same]

/-- At an entry of the table there is nothing to interpolate. -/
theorem interpolatedSinQ15_entry (sine : SineTable) (index : ℕ) (inside : index < 1024) :
    interpolatedSinQ15 sine (64 * index) = (sine ⟨index, inside⟩).toInt := by
  have wrapped : ((64 * index : ℤ) % turnUnits).toNat = 64 * index := by
    rw [turnUnits]
    omega
  have entry : Fin.ofNat 1024 (64 * index / 64) = ⟨index, inside⟩ := by
    rw [Nat.mul_div_cancel_left _ (by decide)]
    exact Fin.ext (Nat.mod_eq_of_lt inside)
  rw [interpolatedSinQ15, wrapped, entry, Nat.mul_mod_right, Nat.cast_zero, Int.mul_zero]
  exact Int.add_zero _

/-- **Opposite angles have opposite sines**, where the table starts with zero and is zero after
half a turn. -/
theorem sinQ15_opposite (zero : sine 0 = 0) (half : sine 512 = 0) {a b : ℤ}
    (opposite : (a + b) % turnUnits = 0) : sinQ15 sine b = -sinQ15 sine a := by
  have atZero : interpolatedSinQ15 sine 0 = 0 := by
    have entry := interpolatedSinQ15_entry sine 0 (by decide)
    rw [show (⟨0, by decide⟩ : Fin 1024) = 0 from rfl, zero] at entry
    exact entry
  have atHalf : interpolatedSinQ15 sine 32768 = 0 := by
    have entry := interpolatedSinQ15_entry sine 512 (by decide)
    rw [show (⟨512, by decide⟩ : Fin 1024) = 512 from rfl, half] at entry
    exact entry
  rw [sinQ15, sinQ15]
  rcases signedTurn_opposite opposite with negative | ⟨first, second⟩
  · rw [negative]
    rcases lt_trichotomy (signedTurn a) 0 with below | same | above
    · rw [if_neg (by omega), if_pos below, neg_neg]
    · simp [same, atZero]
    · rw [if_pos (by omega), if_neg (by omega), neg_neg]
  · rw [first, second, if_neg (by decide), atHalf, neg_zero]

theorem cosQ15_opposite {a b : ℤ} (opposite : (a + b) % turnUnits = 0) :
    cosQ15 sine b = cosQ15 sine a := by
  have same : |signedTurn b| = |signedTurn a| := by
    rcases signedTurn_opposite opposite with negative | ⟨first, second⟩
    · rw [negative, abs_neg]
    · rw [first, second]
  rw [cosQ15, cosQ15, same]

end Bounds

end Deskkin.Presentation
