/-
# Reducing a texture

A region is reduced by two. Every texel of the result has the average coverage of four
texels and their average color, each weighted with its coverage, so the colors of texels
that are not covered do not count. Odd edges repeat their last texel.
-/

import Deskkin.Presentation.Colors

namespace Deskkin.Presentation

open Loops Grid

def Corners.sum (self : Corners ℕ) : ℕ :=
  self.topLeft + self.topRight + self.bottomLeft + self.bottomRight

/-- The index of a texel, with the sums of `u16`. -/
def TextureRegion.index (region : TextureRegion) (y x : ℕ) : Option ℕ := do
  let v ← Checked.add Checked.u16Max region.sourceY.toNat y
  let u ← Checked.add Checked.u16Max region.sourceX.toNat x
  return v * region.stride.toNat + u

/-- One component of an average color. -/
def averaged (texels : Corners UInt16) (coverage : Corners ℕ) (shift mask : UInt16) : UInt16 :=
  let weighted := (texels.zipWith (fun texel a => ((texel >>> shift) &&& mask).toNat * a)
    coverage).sum
  UInt16.ofNat ((weighted + coverage.sum / 2) / coverage.sum) <<< shift

/-- The second of two neighbors, or the first where there is only one. -/
def pairEnd (first : ℕ) (length : UInt16) : Option ℕ := do
  let next ← Checked.add Checked.u16Max first 1
  return min next (length.toNat - 1)

section Downsample

variable (texture : Texture) (region : TextureRegion) (stride : UInt16)

/-- The average of four texels, with their rows given. -/
def downsampleTexel (y y0 y1 x : ℕ) :
    Array UInt16 × Array UInt8 → Option (Array UInt16 × Array UInt8)
  | (colors, alpha) => do
      let x0 ← Checked.mul Checked.u16Max x 2
      let x1 ← pairEnd x0 region.width
      let indices ← (⟨(y0, x0), (y0, x1), (y1, x0), (y1, x1)⟩ : Corners (ℕ × ℕ)).mapM
        fun (y, x) => region.index y x
      let coverage ← indices.mapM fun i => (texture.coverage.alphaAt i).map UInt8.toNat
      let out := y * stride.toNat + x
      guard (out < alpha.size)
      let alpha := alpha.setIfInBounds out (UInt8.ofNat ((coverage.sum + 2) / 4))
      if coverage.sum = 0 then return (colors, alpha)
      else
        let texels ← indices.mapM fun i => texture.pixels[i]?
        let old ← colors[out]?
        let color := old ||| averaged texels coverage 0 31 ||| averaged texels coverage 5 63 |||
          averaged texels coverage 11 31
        return (colors.setIfInBounds out color, alpha)

def downsampleRow (width : UInt16) (y : ℕ) (state : Array UInt16 × Array UInt8) :
    Option (Array UInt16 × Array UInt8) := do
  let y0 ← Checked.mul Checked.u16Max y 2
  let y1 ← pairEnd y0 region.height
  forRange (downsampleTexel texture region stride y y0 y1) 0 width.toNat state

/-- `div_ceil(2)` of `u16`. -/
def half (length : UInt16) : UInt16 := UInt16.ofNat (divCeil length.toNat 2)

/-- What lies beside the result in its rows is cleared. -/
def downsample (colors : Array UInt16) (alpha : Array UInt8) :
    Option (Except RasterError SourceSize × Array UInt16 × Array UInt8) :=
  match validateTexture texture region with
  | .error error => some (.error error, colors, alpha)
  | .ok () =>
      let size : SourceSize := ⟨half region.width, half region.height⟩
      let required := stride.toNat * size.height.toNat
      if stride < size.width ∨ colors.size ≠ required ∨ alpha.size ≠ required then
        some (.error .invalidTexture, colors, alpha)
      else do
        let (colors, alpha) ← forRange (downsampleRow texture region stride size.width) 0
          size.height.toNat (colors.map fun _ => 0, alpha.map fun _ => 0)
        return (.ok size, colors, alpha)

end Downsample

/-! ## What the result shows -/

/-- The four texels for a place of the result; the last row and column stand for those that
are missing. -/
def TextureRegion.quad {α : Type} (region : TextureRegion) (f : ℕ → ℕ → α) (y x : ℕ) :
    Corners α :=
  let right := min (x * 2 + 1) (region.width.toNat - 1)
  let below := min (y * 2 + 1) (region.height.toNat - 1)
  ⟨f (y * 2) (x * 2), f (y * 2) right, f below (x * 2), f below right⟩

def averageAlpha (coverage : Corners ℕ) : UInt8 := UInt8.ofNat ((coverage.sum + 2) / 4)

def averageColor (texels : Corners UInt16) (coverage : Corners ℕ) : UInt16 :=
  if coverage.sum = 0 then 0
  else averaged texels coverage 0 31 ||| averaged texels coverage 5 63 |||
    averaged texels coverage 11 31

def reducedAlpha (texture : Texture) (region : TextureRegion) : Drawing UInt8 := fun y x _ =>
  averageAlpha (region.quad (coverageIn texture region) y x)

def reducedColor (texture : Texture) (region : TextureRegion) : Drawing UInt16 := fun y x _ =>
  averageColor (region.quad (colorIn texture region) y x)
    (region.quad (coverageIn texture region) y x)

/-- The places of the result. -/
def reduced (region : TextureRegion) : Set (ℕ × ℕ) :=
  block 0 (half region.height).toNat 0 (half region.width).toNat

theorem toNat_half (length : UInt16) : (half length).toNat = (length.toNat + 1) / 2 := by
  have small := length.toNat_lt
  rw [half, UInt16.toNat_ofNat', divCeil]
  omega

section Spec

variable {texture : Texture} {region : TextureRegion} {stride : UInt16} {y x : ℕ}
  {colors : Array UInt16} {alpha : Array UInt8}

theorem pairEnd_eq {first : ℕ} {length : UInt16} (inside : first < length.toNat) :
    pairEnd first length = some (min (first + 1) (length.toNat - 1)) := by
  have small := length.toNat_lt
  rw [pairEnd, Checked.add_of_le (by rw [Checked.u16Max]; omega)]
  rfl

theorem RegionFits.index_eq (fits : RegionFits texture region) {v u : ℕ}
    (inV : v < region.height.toNat) (inU : u < region.width.toNat) :
    region.index v u = some (region.texel v u) := by
  have width := texture.size.width.toNat_lt
  have height := texture.size.height.toNat_lt
  have right := fits.right
  have bottom := fits.bottom
  rw [TextureRegion.index, Checked.add_of_le (by rw [Checked.u16Max]; omega), Option.bind_eq_bind,
    Option.bind_some, Checked.add_of_le (by rw [Checked.u16Max]; omega)]
  rfl

section

variable (inY : y < (half region.height).toNat)
include inY

variable (inX : x < (half region.width).toNat)
include inX

/-- The four texels are texels of the region. -/
theorem quad_inside :
    (region.quad Prod.mk y x).All fun place =>
      place.1 < region.height.toNat ∧ place.2 < region.width.toNat := by
  rw [toNat_half] at inY inX
  constructor <;> dsimp only [TextureRegion.quad] <;> omega

theorem quad_congr {α : Type} {f g : ℕ → ℕ → α}
    (same : ∀ v u, v < region.height.toNat → u < region.width.toNat → f v u = g v u) :
    region.quad f y x = region.quad g y x := by
  have agree : (region.quad Prod.mk y x).All fun place => f place.1 place.2 = g place.1 place.2 :=
    (quad_inside inY inX).mono fun place inside => same _ _ inside.1 inside.2
  rw [TextureRegion.quad, TextureRegion.quad, Corners.mk.injEq]
  exact ⟨agree.topLeft, agree.topRight, agree.bottomLeft, agree.bottomRight⟩

/-- Reads of four texels of the region. -/
theorem mapM_quad {α : Type} {f : ℕ × ℕ → Option α} {g : ℕ → ℕ → α}
    (reads : ∀ v u, v < region.height.toNat → u < region.width.toNat → f (v, u) = some (g v u)) :
    (region.quad Prod.mk y x).mapM f = some (region.quad g y x) := by
  have all : (region.quad Prod.mk y x).All fun place => f place = some (g place.1 place.2) :=
    (quad_inside inY inX).mono fun place inside => reads _ _ inside.1 inside.2
  rw [Corners.mapM_some all]
  rfl

/-- Reads at the indices of four texels. -/
theorem mapM_indices {α : Type} {f : ℕ → Option α} {g : ℕ → ℕ → α}
    (reads : ∀ v u, v < region.height.toNat → u < region.width.toNat →
      f (region.texel v u) = some (g v u)) :
    (region.quad region.texel y x).mapM f = some (region.quad g y x) := by
  rw [← mapM_quad inY inX (f := fun place => f (region.texel place.1 place.2)) reads]
  rfl

end

/-- What has been reduced when the next texel is (y, x). -/
noncomputable def reducedBefore (texture : Texture) (region : TextureRegion) (stride : UInt16)
    (colors : Array UInt16) (alpha : Array UInt8) (y x : ℕ) : Array UInt16 × Array UInt8 :=
  (shade 0 stride.toNat (restrict (part (reduced region) y (y + 1) x)
      (reducedColor texture region)) (colors.map fun _ => 0),
    shade 0 stride.toNat (restrict (part (reduced region) y (y + 1) x)
      (reducedAlpha texture region)) (alpha.map fun _ => 0))

section Loops

variable (fits : RegionFits texture region) (wide : (half region.width).toNat ≤ stride.toNat)
  (sizes : colors.size = stride.toNat * (half region.height).toNat ∧
    alpha.size = stride.toNat * (half region.height).toNat)

include fits wide sizes

/-- **A texel is averaged.** -/
theorem downsampleTexel_eq (inY : y < (half region.height).toNat)
    (inX : x < (half region.width).toNat) :
    Ensures (downsampleTexel texture region stride y (y * 2)
        (min (y * 2 + 1) (region.height.toNat - 1)) x
        (reducedBefore texture region stride colors alpha y x)) fun next =>
      next = reducedBefore texture region stride colors alpha y (x + 1) := by
  have narrow := region.width.toNat_lt
  have width := toNat_half region.width
  have inside : (y, x) ∈ reduced region := ⟨⟨Nat.zero_le y, inY⟩, Nat.zero_le x, inX⟩
  have row : (y + 1) * stride.toNat ≤ (half region.height).toNat * stride.toNat :=
    Nat.mul_le_mul_right _ inY
  have out : y * stride.toNat + x < stride.toNat * (half region.height).toNat := by
    rw [Nat.succ_mul, Nat.mul_comm (half region.height).toNat] at row
    omega
  have colorClear : (colors.map fun _ => (0 : UInt16))[(y - 0) * stride.toNat + x]? = some 0 := by
    rw [Array.getElem?_map, Nat.sub_zero, Array.getElem?_eq_getElem (by omega), Option.map_some]
  have alphaClear : (alpha.map fun _ => (0 : UInt8))[(y - 0) * stride.toNat + x]? = some 0 := by
    rw [Array.getElem?_map, Nat.sub_zero, Array.getElem?_eq_getElem (by omega), Option.map_some]
  have alphaNext := setIfInBounds_shade_part (reducedAlpha texture region) inside
    (Nat.zero_le y) (Nat.lt_of_lt_of_le inX wide) alphaClear
  have colorNext := setIfInBounds_shade_part (reducedColor texture region) inside
    (Nat.zero_le y) (Nat.lt_of_lt_of_le inX wide) colorClear
  have colorBefore : (shade 0 stride.toNat (restrict (part (reduced region) y (y + 1) x)
      (reducedColor texture region)) (colors.map fun _ => 0))[(y - 0) * stride.toNat + x]? =
        some 0 := by
    rw [getElem?_shade_part (Nat.zero_le y) (Nat.lt_of_lt_of_le inX wide), colorClear]
  have indices : (region.quad Prod.mk y x).mapM (fun place => region.index place.1 place.2) =
      some (region.quad region.texel y x) :=
    mapM_quad inY inX fun v u inV inU => fits.index_eq inV inU
  have coverage : (region.quad region.texel y x).mapM
      (fun i => (texture.coverage.alphaAt i).map UInt8.toNat) =
        some (region.quad (coverageIn texture region) y x) :=
    mapM_indices inY inX fun v u inV inU => by
      obtain ⟨a, found⟩ := fits.alpha inV inU
      rw [coverageIn, found]
      rfl
  have texels : (region.quad region.texel y x).mapM (fun i => texture.pixels[i]?) =
      some (region.quad (colorIn texture region) y x) :=
    mapM_indices inY inX fun v u inV inU => by
      obtain ⟨color, found⟩ := fits.color inV inU
      rw [colorIn, found]
      rfl
  rw [Nat.sub_zero] at alphaNext colorNext colorBefore
  rw [reducedBefore, downsampleTexel]
  apply Ensures.step (Checked.mul_of_le (by rw [Checked.u16Max]; omega))
  apply Ensures.step (pairEnd_eq (by omega))
  apply Ensures.step indices
  apply Ensures.step coverage
  apply Ensures.guarded (by rw [size_shade, Array.size_map, sizes.2]; exact out)
  dsimp only
  split
  · rename_i clear
    have black : reducedColor texture region y x 0 = 0 := by
      rw [reducedColor, averageColor, if_pos clear]
    have same : (shade 0 stride.toNat (restrict (part (reduced region) y (y + 1) x)
        (reducedColor texture region)) (colors.map fun _ => 0)).setIfInBounds
          (y * stride.toNat + x) 0 = _ :=
      setIfInBounds_same colorBefore
    rw [black, same] at colorNext
    refine .value ?_
    rw [reducedBefore, ← colorNext, ← alphaNext]
    rfl
  · rename_i covered
    apply Ensures.step texels
    apply Ensures.step colorBefore
    refine .value ?_
    rw [reducedBefore, ← colorNext, ← alphaNext, reducedColor, averageColor, if_neg covered,
      UInt16.zero_or]
    rfl

theorem downsampleRow_eq (inY : y < (half region.height).toNat) :
    Ensures (downsampleRow texture region stride (half region.width) y
      (reducedBefore texture region stride colors alpha y 0)) fun next =>
        next = reducedBefore texture region stride colors alpha (y + 1) 0 := by
  have high := region.height.toNat_lt
  have height := toNat_half region.height
  rw [downsampleRow]
  apply Ensures.step (Checked.mul_of_le (by rw [Checked.u16Max]; omega))
  apply Ensures.step (pairEnd_eq (by omega))
  apply (forRange_rule (fun x state =>
    state = reducedBefore texture region stride colors alpha y x) rfl _).mono
  · rintro _ rfl
    have ended : part (reduced region) y (y + 1) (0 + (half region.width).toNat) =
        part (reduced region) (y + 1) (y + 1 + 1) 0 := by
      ext ⟨v, u⟩
      rw [mem_part, mem_part]
      refine and_congr_right fun inside => ?_
      have column : u < (half region.width).toNat := inside.2.2
      omega
    rw [reducedBefore, reducedBefore, ended]
  · rintro x _ - upper rfl
    exact downsampleTexel_eq fits wide sizes inY (by omega)

end Loops

/-- Why a region is not reduced. -/
def reduceRejection (texture : Texture) (region : TextureRegion) (stride : UInt16)
    (colors alpha : ℕ) : Option RasterError :=
  match validateTexture texture region with
  | .error error => some error
  | .ok () =>
      if stride < half region.width ∨ colors ≠ stride.toNat * (half region.height).toNat ∨
          alpha ≠ stride.toNat * (half region.height).toNat then some .invalidTexture
      else none

/-- **What a region is reduced to**, whatever is given. -/
theorem downsample_eq : downsample texture region stride colors alpha =
    some (match reduceRejection texture region stride colors.size alpha.size with
    | some error => (.error error, colors, alpha)
    | none => (.ok ⟨half region.width, half region.height⟩,
        shade 0 stride.toNat (restrict (reduced region) (reducedColor texture region))
          (colors.map fun _ => 0),
        shade 0 stride.toNat (restrict (reduced region) (reducedAlpha texture region))
          (alpha.map fun _ => 0))) := by
  rw [downsample, reduceRejection]
  cases checked : validateTexture texture region with
  | error error => rfl
  | ok _ =>
      dsimp only
      split
      · rfl
      · rename_i accepted
        simp only [not_or, not_not, ne_eq, UInt16.not_lt] at accepted
        obtain ⟨wide, colorSize, alphaSize⟩ := accepted
        have begins : ((colors.map fun _ => 0, alpha.map fun _ => 0) :
            Array UInt16 × Array UInt8) = reducedBefore texture region stride colors alpha 0 0 := by
          have nothing : part (reduced region) 0 (0 + 1) 0 = ∅ := by
            ext ⟨v, u⟩
            rw [mem_part]
            constructor
            · omega
            · exact fun absurdity => absurdity.elim
          rw [reducedBefore, nothing, shade_restrict_empty, shade_restrict_empty]
        have rows : ∀ y state, 0 ≤ y → y < 0 + (half region.height).toNat →
            state = reducedBefore texture region stride colors alpha y 0 →
              Ensures (downsampleRow texture region stride (half region.width) y state)
                fun next => next = reducedBefore texture region stride colors alpha (y + 1) 0 := by
          rintro y _ - upper rfl
          exact downsampleRow_eq (regionFits_of_validate checked)
            (UInt16.le_iff_toNat_le.mp wide) ⟨colorSize, alphaSize⟩ (by omega)
        obtain ⟨_, ran, rfl⟩ := forRange_rule (fun y state =>
          state = reducedBefore texture region stride colors alpha y 0) begins rows
        have everything : part (reduced region) (0 + (half region.height).toNat)
            (0 + (half region.height).toNat + 1) 0 = reduced region := by
          ext ⟨v, u⟩
          rw [mem_part]
          refine and_iff_left_of_imp fun inside => ?_
          have row : v < (half region.height).toNat := inside.1.2
          omega
        rw [ran, reducedBefore, everything]
        rfl

end Spec

/-- Two texels that are opaque and two that are not covered come to one of their color. -/
example : downsample ⟨⟨2, 2⟩, #[0xf800, 0x001f, 0xf800, 0x001f],
    .alpha8 #[255, 0, 255, 0] ⟨⟨2, 2⟩, #[0], by decide, by decide⟩⟩ ⟨0, 0, 2, 2, 2⟩ 2
      #[7, 7] #[9, 9] = some (.ok ⟨1, 1⟩, #[0xf800, 0], #[128, 0]) := by
  decide +kernel

end Deskkin.Presentation
