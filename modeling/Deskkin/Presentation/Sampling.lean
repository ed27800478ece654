/-
# Sampling a texture

The colors of a span come from a row of the texture at native size, or from columns
and rows that a stepper has scaled. Spans are drawn onto what is there: texels without
coverage leave it as it is, opaque ones replace it, and the others are blended with it.

Words of a framebuffer are native, or in wire order with their bytes swapped.
-/

import Deskkin.Lib.Checked
import Deskkin.Presentation.Texture

namespace Deskkin.Presentation

open Loops Grid

/-! ## Colors -/

/-- Interpolate the three components, with a fraction of 65536. -/
def interpolateRgb565 (first second : UInt16) (fraction : UInt32) : UInt16 :=
  let inverse := 65536 - fraction
  let r := ((((first >>> 11) &&& 0x1f).toUInt32 * inverse +
    ((second >>> 11) &&& 0x1f).toUInt32 * fraction + 32768) >>> 16).toUInt16
  let g := ((((first >>> 5) &&& 0x3f).toUInt32 * inverse +
    ((second >>> 5) &&& 0x3f).toUInt32 * fraction + 32768) >>> 16).toUInt16
  let b := (((first &&& 0x1f).toUInt32 * inverse +
    (second &&& 0x1f).toUInt32 * fraction + 32768) >>> 16).toUInt16
  (r <<< 11) ||| (g <<< 5) ||| b

def blendRgb565 (background foreground : UInt16) (alpha : UInt8) : UInt16 :=
  interpolateRgb565 background foreground (alpha.toUInt32 * 257)

/-- `to_be` and `from_be` on a little-endian machine, for words in wire order. -/
def wireOrder (wire : Bool) (word : UInt16) : UInt16 :=
  if wire then (word >>> 8) ||| (word <<< 8) else word

/-- A color with its alpha value, onto what is there. -/
def composite (wire : Bool) (color : UInt16) (a : UInt8) (dst : UInt16) : UInt16 :=
  if a = 0 then dst
  else wireOrder wire (if a = 255 then color else blendRgb565 (wireOrder wire dst) color a)

/-! ## Steps along an axis -/

/-- A coordinate with 16 bits of fraction, and the remainder of its division. -/
structure AxisStepper where
  coordinate : ℕ
  step : ℕ
  remainder : ℕ
  remainderStep : ℕ
  denominator : ℕ
  deriving DecidableEq

namespace AxisStepper

protected def new (source : UInt16) (destination : Int32) (offset : ℤ) : Option AxisStepper := do
  let numerator := source.toNat * 2 ^ 16
  let denominator := (destination.toInt % 2 ^ 64).toNat
  let start ← Checked.mul Checked.u64Max (offset % 2 ^ 64).toNat numerator
  if denominator = 0 then none
  else
    return {
      coordinate := start / denominator % 2 ^ 32
      step := numerator / denominator % 2 ^ 32
      remainder := start % denominator % 2 ^ 32
      remainderStep := numerator % denominator % 2 ^ 32
      denominator := denominator % 2 ^ 32 }

/-- The coordinate, and the stepper at the next place. -/
def take (self : AxisStepper) : Option (ℕ × AxisStepper) := do
  let coordinate ← Checked.add Checked.u32Max self.coordinate self.step
  let remainder ← Checked.add Checked.u32Max self.remainder self.remainderStep
  if remainder ≥ self.denominator then
    let coordinate ← Checked.add Checked.u32Max coordinate 1
    return (self.coordinate, { self with
      coordinate := coordinate
      remainder := remainder - self.denominator })
  else return (self.coordinate, { self with coordinate := coordinate, remainder := remainder })

/-- The quotient that the steps add up to. -/
def quotient (source : UInt16) (destination : Int32) (place : ℕ) : ℕ :=
  place * (source.toNat * 2 ^ 16) / destination.toInt.toNat

/-- The stepper that stands at a place. -/
def placed (source : UInt16) (destination : Int32) (place : ℕ) : AxisStepper where
  coordinate := quotient source destination place
  step := source.toNat * 2 ^ 16 / destination.toInt.toNat
  remainder := place * (source.toNat * 2 ^ 16) % destination.toInt.toNat
  remainderStep := source.toNat * 2 ^ 16 % destination.toInt.toNat
  denominator := destination.toInt.toNat

variable {source : UInt16} {destination : Int32} {place : ℕ}

theorem quotient_le (inside : place ≤ destination.toInt.toNat) :
    quotient source destination place ≤ source.toNat * 2 ^ 16 := by
  apply Nat.div_le_of_le_mul
  exact Nat.mul_le_mul_right _ inside

/-- The whole part of the quotient is the scaled place. -/
theorem quotient_div :
    quotient source destination place / 2 ^ 16 =
      place * source.toNat / destination.toInt.toNat := by
  rw [quotient, Nat.div_div_eq_div_mul, Nat.mul_comm destination.toInt.toNat, ← Nat.mul_assoc,
    Nat.mul_comm _ (2 ^ 16), Nat.mul_div_mul_left _ _ (by decide)]

theorem new_eq_placed (positive : 0 < destination.toInt)
    (inside : place ≤ destination.toInt.toNat) :
    AxisStepper.new source destination place = some (placed source destination place) := by
  have sourceSmall := source.toNat_lt
  have destinationSmall := destination.toInt_lt
  have product : place * (source.toNat * 2 ^ 16) ≤ 2 ^ 31 * 2 ^ 32 :=
    Nat.mul_le_mul (by omega) (by omega)
  have coordinate : quotient source destination place % 2 ^ 32 =
      quotient source destination place :=
    Nat.mod_eq_of_lt (Nat.lt_of_le_of_lt (quotient_le inside) (by omega))
  have step : source.toNat * 2 ^ 16 / destination.toInt.toNat % 2 ^ 32 =
      source.toNat * 2 ^ 16 / destination.toInt.toNat :=
    Nat.mod_eq_of_lt (Nat.lt_of_le_of_lt (Nat.div_le_self _ _) (by omega))
  have remainder : place * (source.toNat * 2 ^ 16) % destination.toInt.toNat % 2 ^ 32 =
      place * (source.toNat * 2 ^ 16) % destination.toInt.toNat :=
    Nat.mod_eq_of_lt (Nat.lt_trans (Nat.mod_lt _ (by omega)) (by omega))
  have remainderStep : source.toNat * 2 ^ 16 % destination.toInt.toNat % 2 ^ 32 =
      source.toNat * 2 ^ 16 % destination.toInt.toNat :=
    Nat.mod_eq_of_lt (Nat.lt_trans (Nat.mod_lt _ (by omega)) (by omega))
  have denominator : (destination.toInt % 2 ^ 64).toNat = destination.toInt.toNat := by omega
  have denominatorSmall : destination.toInt.toNat % 2 ^ 32 = destination.toInt.toNat :=
    Nat.mod_eq_of_lt (by omega)
  have offset : ((place : ℤ) % 2 ^ 64).toNat = place := by omega
  rw [quotient] at coordinate
  rw [AxisStepper.new, offset, denominator, Checked.mul_of_le (by rw [Checked.u64Max]; omega)]
  simp only [Option.bind_eq_bind, Option.bind_some, coordinate, step, remainder, remainderStep,
    denominatorSmall]
  rw [if_neg (by omega)]
  rfl

/-- One step of the division, where the quotient stays within 32 bits. -/
theorem take_division {start numerator denominator : ℕ} (positive : 0 < denominator)
    (narrow : denominator < 2 ^ 31) (small : (start + numerator) / denominator < 2 ^ 32) :
    AxisStepper.take ⟨start / denominator, numerator / denominator, start % denominator,
      numerator % denominator, denominator⟩ =
      some (start / denominator, ⟨(start + numerator) / denominator, numerator / denominator,
        (start + numerator) % denominator, numerator % denominator, denominator⟩) := by
  have remainder := Nat.mod_lt start positive
  have remainderStep := Nat.mod_lt numerator positive
  have divided : (start + numerator) / denominator = start / denominator +
      numerator / denominator +
        if denominator ≤ start % denominator + numerator % denominator then 1 else 0 :=
    Nat.add_div positive
  have left := Nat.add_mod_add_ite start numerator denominator
  have coordinates : start / denominator + numerator / denominator ≤ Checked.u32Max := by
    rw [Checked.u32Max]
    omega
  have remainders : start % denominator + numerator % denominator ≤ Checked.u32Max := by
    rw [Checked.u32Max]
    omega
  simp only [take, Checked.add_of_le coordinates, Checked.add_of_le remainders]
  simp only [Option.bind_eq_bind, Option.bind_some, ge_iff_le]
  by_cases carry : denominator ≤ start % denominator + numerator % denominator
  · rw [if_pos carry] at divided left ⊢
    rw [Checked.add_of_le (by rw [Checked.u32Max]; omega), Option.bind_some, ← divided]
    rw [show start % denominator + numerator % denominator - denominator =
      (start + numerator) % denominator by omega]
    rfl
  · rw [if_neg carry] at divided left ⊢
    rw [Nat.add_zero] at divided
    rw [← divided, ← left, Nat.add_zero]
    rfl

/-- No step overflows within the destination. -/
theorem take_placed (inside : place < destination.toInt.toNat) :
    (placed source destination place).take =
      some (quotient source destination place, placed source destination (place + 1)) := by
  have sourceSmall := source.toNat_lt
  have destinationSmall := destination.toInt_lt
  have next : quotient source destination (place + 1) ≤ source.toNat * 2 ^ 16 := quotient_le inside
  rw [placed, placed, quotient, quotient]
  rw [quotient] at next
  rw [Nat.succ_mul] at next ⊢
  exact take_division (by omega) (by omega) (Nat.lt_of_le_of_lt next (by omega))

end AxisStepper

/-! ## Columns -/

/-- The texel of a column and the 16 bits of its fraction. -/
structure ColumnSample where
  first : UInt16
  fraction : UInt16
  deriving DecidableEq, Inhabited

def fillColumn (sourceX : UInt16) (start k : ℕ) :
    AxisStepper × Array ColumnSample → Option (AxisStepper × Array ColumnSample)
  | (axis, columns) => do
      let (coordinate, axis) ← axis.take
      let first ← Checked.add Checked.u16Max sourceX.toNat (coordinate / 2 ^ 16 % 2 ^ 16)
      guard (start + k < columns.size)
      return (axis, columns.setIfInBounds (start + k)
        ⟨UInt16.ofNat first, UInt16.ofNat coordinate⟩)

/-- Sample so many columns, into the buffer from `start` on. -/
def fillColumns (sourceX : UInt16) (axis : AxisStepper) (start count : ℕ)
    (columns : Array ColumnSample) : Option (Array ColumnSample) := do
  let (_, columns) ← forRange (fillColumn sourceX start) 0 count (axis, columns)
  return columns

/-- The column at a place of the destination. -/
def columnAt (sourceX source : UInt16) (destination : Int32) (place : ℕ) : ColumnSample where
  first := UInt16.ofNat
    (sourceX.toNat + AxisStepper.quotient source destination place / 2 ^ 16)
  fraction := UInt16.ofNat (AxisStepper.quotient source destination place)

section Columns

variable {sourceX source : UInt16} {destination : Int32} {place : ℕ}

/-- A place of the destination has a texel of the source. -/
theorem scaled_lt (inside : place < destination.toInt.toNat) (positive : 0 < source.toNat) :
    place * source.toNat / destination.toInt.toNat < source.toNat := by
  rw [Nat.div_lt_iff_lt_mul (by omega), Nat.mul_comm]
  exact Nat.mul_lt_mul_of_pos_left inside positive

theorem quotient_div_lt (inside : place < destination.toInt.toNat) (positive : 0 < source.toNat) :
    AxisStepper.quotient source destination place / 2 ^ 16 < source.toNat := by
  rw [AxisStepper.quotient_div]
  exact scaled_lt inside positive

variable {start count : ℕ} {columns : Array ColumnSample}

theorem fillColumn_eq_some (positive : 0 < source.toNat)
    (region : sourceX.toNat + source.toNat ≤ Checked.u16Max)
    (inside : place + count < destination.toInt.toNat) (fits : start + count < columns.size) :
    fillColumn sourceX start count (AxisStepper.placed source destination (place + count),
      fill (fun k _ => columnAt sourceX source destination (place + k)) start count columns) =
    some (AxisStepper.placed source destination (place + (count + 1)),
      fill (fun k _ => columnAt sourceX source destination (place + k)) start (count + 1)
        columns) := by
  have texel := quotient_div_lt inside positive
  have narrow := source.toNat_lt
  have whole : AxisStepper.quotient source destination (place + count) / 2 ^ 16 % 2 ^ 16 =
      AxisStepper.quotient source destination (place + count) / 2 ^ 16 :=
    Nat.mod_eq_of_lt (by omega)
  have found : columns[start + count]? = some columns[start + count] :=
    Array.getElem?_eq_getElem fits
  rw [← setIfInBounds_fill found, fillColumn, AxisStepper.take_placed inside]
  rw [Option.bind_eq_bind, Option.bind_some]
  dsimp only
  rw [whole, Option.bind_eq_bind, Checked.add_of_le (by omega), Option.bind_some, guard,
    if_pos (by rw [size_fill]; exact fits)]
  rfl

theorem fillColumns_eq_some (positive : 0 < source.toNat)
    (region : sourceX.toNat + source.toNat ≤ Checked.u16Max)
    (inside : place + count ≤ destination.toInt.toNat) (fits : start + count ≤ columns.size) :
    fillColumns sourceX (AxisStepper.placed source destination place) start count columns =
      some (fill (fun k _ => columnAt sourceX source destination (place + k)) start count
        columns) := by
  have round : ∀ k (state : AxisStepper × Array ColumnSample), 0 ≤ k → k < 0 + count →
      state = (AxisStepper.placed source destination (place + k),
        fill (fun k _ => columnAt sourceX source destination (place + k)) start k columns) →
      ∃ next, fillColumn sourceX start k state = some next ∧
        next = (AxisStepper.placed source destination (place + (k + 1)),
          fill (fun k _ => columnAt sourceX source destination (place + k)) start (k + 1)
            columns) := by
    rintro k state - upper rfl
    exact ⟨_, fillColumn_eq_some positive region (by omega) (by omega), rfl⟩
  have begins : (AxisStepper.placed source destination place, columns) =
      (AxisStepper.placed source destination (place + 0),
        fill (fun k _ => columnAt sourceX source destination (place + k)) start 0 columns) := by
    rw [fill_zero, Nat.add_zero]
  obtain ⟨last, ran, rfl⟩ := forRange_rule (fun k state => state =
    (AxisStepper.placed source destination (place + k),
      fill (fun k _ => columnAt sourceX source destination (place + k)) start k columns))
    begins round
  rw [fillColumns, ran, Nat.zero_add]
  rfl

end Columns

/-! ## Spans -/

/-- Values at the four texels around a sample. -/
structure Corners (α : Type) where
  topLeft : α
  topRight : α
  bottomLeft : α
  bottomRight : α
  deriving DecidableEq

namespace Corners

variable {α β γ : Type}

def mapM (self : Corners α) (f : α → Option β) : Option (Corners β) := do
  let topLeft ← f self.topLeft
  let topRight ← f self.topRight
  let bottomLeft ← f self.bottomLeft
  let bottomRight ← f self.bottomRight
  return ⟨topLeft, topRight, bottomLeft, bottomRight⟩

def zipWith (self : Corners α) (f : α → β → γ) (other : Corners β) : Corners γ where
  topLeft := f self.topLeft other.topLeft
  topRight := f self.topRight other.topRight
  bottomLeft := f self.bottomLeft other.bottomLeft
  bottomRight := f self.bottomRight other.bottomRight

end Corners

/-- A row of samples: the columns, the indices where its two texture rows start, the last
column that there is, and the fraction between the rows. -/
structure SampledSpan where
  texture : Texture
  columns : Array ColumnSample
  rows : ℕ × ℕ
  lastColumn : UInt16
  fractionY : UInt16
  bilinear : Bool

namespace SampledSpan

/-- The texels around a sample: its column and the next one, or the last, in both rows. -/
def corners (self : SampledSpan) (column : ColumnSample) : Option (Corners ℕ) := do
  let x := column.first.toNat
  let next ← Checked.add Checked.u16Max column.first.toNat 1
  let next := min next self.lastColumn.toNat
  return ⟨self.rows.1 + x, self.rows.1 + next, self.rows.2 + x, self.rows.2 + next⟩

def lerp (a b : UInt32) (fraction : UInt16) : UInt32 :=
  (a * (65536 - fraction.toUInt32) + b * fraction.toUInt32 + 32768) >>> 16

/-- Interpolate four values between two columns and two rows. -/
def interpolate (self : SampledSpan) (column : ColumnSample) (v : Corners UInt32) : UInt32 :=
  lerp (lerp v.topLeft v.topRight column.fraction)
    (lerp v.bottomLeft v.bottomRight column.fraction) self.fractionY

/-- One component of a filtered color, weighted with the coverage. -/
def component (self : SampledSpan) (column : ColumnSample) (colors : Corners UInt16)
    (alphas : Corners UInt32) (background : UInt16) (shift mask : UInt16) : UInt16 :=
  let coverage := self.interpolate column alphas
  let premultiplied := colors.zipWith
    (fun color alpha => ((color >>> shift) &&& mask).toUInt32 * alpha) alphas
  let value := (self.interpolate column premultiplied +
    ((background >>> shift) &&& mask).toUInt32 * (255 - coverage) + 127) / 255
  (min value mask.toUInt32).toUInt16 <<< shift

/-- Filter the colors together with their coverage. -/
def filteredAlpha (self : SampledSpan) (wire : Bool) (column : ColumnSample) (dst : UInt16) :
    Option UInt16 := do
  let indices ← self.corners column
  let alphas ← indices.mapM fun i => (self.texture.coverage.alphaAt i).map UInt8.toUInt32
  if alphas = ⟨0, 0, 0, 0⟩ then return dst
  else
    let colors ← indices.mapM fun i => self.texture.pixels[i]?
    let background := wireOrder wire dst
    return wireOrder wire (self.component column colors alphas background 11 31 |||
      self.component column colors alphas background 5 63 |||
      self.component column colors alphas background 0 31)

/-- The color of a sample, whatever its coverage. -/
def color (self : SampledSpan) (column : ColumnSample) : Option UInt16 :=
  if self.bilinear then do
    let indices ← self.corners column
    let v ← indices.mapM fun i => self.texture.pixels[i]?
    let top := interpolateRgb565 v.topLeft v.topRight column.fraction.toUInt32
    let bottom := interpolateRgb565 v.bottomLeft v.bottomRight column.fraction.toUInt32
    return interpolateRgb565 top bottom self.fractionY.toUInt32
  else self.texture.pixels[self.rows.1 + column.first.toNat]?

/-- Nearest samples, and filtered ones of an opaque texture. -/
def kind (self : SampledSpan) (wire : Bool) (column : ColumnSample) (dst : UInt16) :
    Option UInt16 := do
  let a ← (if self.texture.coverage.isAlpha
    then self.texture.coverage.alphaAt (self.rows.1 + column.first.toNat) else some 255)
  if a = 0 then return dst
  else
    let color ← self.color column
    return composite wire color a dst

def pixel (self : SampledSpan) (wire : Bool) (column : ColumnSample) (dst : UInt16) :
    Option UInt16 :=
  if self.bilinear && self.texture.coverage.isAlpha then self.filteredAlpha wire column dst
  else self.kind wire column dst

/-- Draw the span into the buffer, from `start` on. -/
def draw (self : SampledSpan) (start : ℕ) (wire : Bool) (pixels : Array UInt16) :
    Option (Array UInt16) :=
  writeSpan (fun k dst => do
    let column ← self.columns[k]?
    self.pixel wire column dst) start self.columns.size pixels

end SampledSpan

/-! ## The scalar blitter -/

namespace ScalarBlitter

/-- Texels with one bit of coverage, onto so many words from `start` on. -/
def cutout (start length : ℕ) (source : Array UInt16) (offset : ℕ) (bits : Array UInt8)
    (wire : Bool) (pixels : Array UInt16) : Option (Array UInt16) := do
  guard (divCeil (offset + length) 8 ≤ bits.size)
  let colors ← slice? source offset (offset + length)
  writeSpan (fun k dst => do
    let src ← colors[k]?
    let set ← bitAt bits (offset + k)
    return if set then wireOrder wire src else dst) start length pixels

def blit (start length : ℕ) (source : Array UInt16) (alpha : Option (Array UInt8)) (wire : Bool)
    (pixels : Array UInt16) : Option (Array UInt16) := do
  guard (length = source.size)
  guard (alpha.all fun alpha => alpha.size = source.size)
  writeSpan (fun k dst => do
    let src ← source[k]?
    let a ← (match alpha with
      | none => some 255
      | some alpha => alpha[k]?)
    return composite wire src a dst) start length pixels

def blitFrom (start length : ℕ) (source : Array UInt16) (offset : ℕ)
    (alpha : Option (Array UInt8)) (wire : Bool) (pixels : Array UInt16) :
    Option (Array UInt16) := do
  let colors ← slice? source offset (offset + length)
  let alpha ← (match alpha with
    | none => some none
    | some alpha => (slice? alpha offset (offset + length)).map some)
  blit start length colors alpha wire pixels

end ScalarBlitter

end Deskkin.Presentation
