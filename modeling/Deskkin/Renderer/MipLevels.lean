/-
# What the renderer's levels show

Every level shows the reduction of the one before it, whatever stands beside it in its rows
and however its coverage is kept. So the chain of a texture shows the reductions of its
picture, down to one texel.
-/

import Deskkin.Presentation.Pictures
import Deskkin.Renderer.PreparedCoverage

namespace Deskkin.Renderer

open Presentation Loops

/-! ## Rows of sixteen texels -/

theorem and_not_fifteen {n : ℕ} (small : n < 2 ^ 16) : n &&& 65520 = n / 16 * 16 := by
  apply Nat.eq_of_testBit_eq
  intro i
  have mask : (65520 : ℕ) = (2 ^ 12 - 1) <<< 4 := by decide
  have clear : n / 16 * 16 = (n >>> 4) <<< 4 := by
    rw [Nat.shiftRight_eq_div_pow, Nat.shiftLeft_eq]
  rw [Nat.testBit_and, mask, clear, Nat.testBit_shiftLeft, Nat.testBit_shiftLeft,
    Nat.testBit_two_pow_sub_one, Nat.testBit_shiftRight]
  by_cases low : 4 ≤ i
  · rw [Nat.add_sub_cancel' low, decide_eq_true low, Bool.true_and, Bool.true_and]
    by_cases high : i - 4 < 12
    · rw [decide_eq_true high, Bool.and_true]
    · have beyond : n.testBit i = false :=
        Nat.testBit_lt_two_pow (small.trans_le (Nat.pow_le_pow_right (by decide) (by omega)))
      rw [beyond, Bool.false_and]
  · simp [low]

/-- A row has room for its texels. -/
theorem rowStride_spec (width : UInt16) (small : width.toNat ≤ 65520) :
    ∃ stride, rowStride width = some stride ∧ width ≤ stride ∧ stride.toNat % 16 = 0 := by
  have padded : (UInt16.ofNat (width.toNat + 15)).toNat = width.toNat + 15 := by
    rw [UInt16.toNat_ofNat']
    exact Nat.mod_eq_of_lt (by omega)
  have stride : (UInt16.ofNat (width.toNat + 15) &&& ~~~15).toNat =
      (width.toNat + 15) / 16 * 16 := by
    rw [UInt16.toNat_and, padded, show (~~~15 : UInt16).toNat = 65520 from rfl,
      and_not_fifteen (by omega)]
  refine ⟨_, by rw [rowStride, Checked.add_of_le (by rw [Checked.u16Max]; omega)]; rfl, ?_, ?_⟩
  · rw [UInt16.le_iff_toNat_le, stride]
    omega
  · rw [stride]
    omega

theorem plane_fromFn {α : Type} {n length : ℕ} (pixel : ℕ → α) (positive : n ≠ 0)
    (whole : length % n = 0) :
    ∃ plane, Plane.fromFn n length pixel = some plane ∧ plane.size = length := by
  refine ⟨(Array.range length).map pixel, ?_, by rw [Array.size_map, Array.size_range]⟩
  rw [Plane.fromFn, guard, if_pos ⟨positive, whole⟩]
  rfl

/-! ## Levels -/

/-- The level is the picture. -/
structure MipLevel.Shows (level : MipLevel) (picture : Picture) : Prop where
  width : level.size.width.toNat = picture.width
  height : level.size.height.toNat = picture.height
  borrow : ∃ texture region, level.borrow = some (texture, region) ∧
    picture.ShownBy texture region

namespace MipChain

section Chain

variable {base : Texture} {region : TextureRegion} {levels : List MipLevel}
  {texture : Texture} {from' : TextureRegion} {picture : Picture}

/-- One texel is not reduced. -/
theorem nextLevel_texel (source : source base region levels = some (texture, from'))
    (shown : picture.ShownBy texture from') (last : picture.width ≤ 1 ∧ picture.height ≤ 1) :
    nextLevel base region levels = some (.stop levels) := by
  have small : from'.width ≤ 1 ∧ from'.height ≤ 1 := by
    rw [UInt16.le_iff_toNat_le, UInt16.le_iff_toNat_le, shown.width, shown.height]
    exact last
  rw [nextLevel, source]
  exact if_pos small

theorem Coverage.isAlpha_eq_false {coverage : Coverage} :
    coverage.isAlpha = false ↔ coverage = .fullyOpaque := by
  cases coverage <;> simp [Coverage.isAlpha]

/-- How the coverage of a level is kept. -/
theorem level_coverage {alpha : Array UInt8} {colors : Array UInt16} {stride : UInt16}
    (valid : validateTexture texture from' = .ok ())
    (result : IsReduction texture from' stride colors alpha) (wide : half from'.width ≤ stride) :
    ∃ prepared coverage, (if !texture.coverage.isAlpha then
        some ⟨⟨stride, half from'.height⟩, .fullyOpaque, #[]⟩
      else PreparedCoverage.new ⟨stride, half from'.height⟩ alpha) = some prepared ∧
      prepared.borrow = some coverage ∧
      Picture.Stores coverage ⟨stride, half from'.height⟩ (half from'.width) alpha := by
  have fits := regionFits_of_validate valid
  have narrow := UInt16.le_iff_toNat_le.mp wide
  split
  · rename_i plain
    refine ⟨_, .fullyOpaque, rfl, rfl, fun v u inV inU => ?_, fun _ _ => rfl,
      fun _ has => nomatch has⟩
    have everywhere : ∀ y x, coverageIn texture from' y x = 255 := fun y x => by
      rw [Bool.not_eq_true', Coverage.isAlpha_eq_false] at plain
      rw [coverageIn, plain]
      rfl
    have full : (from'.quad (coverageIn texture from') v u).All (· = 255) :=
      ⟨everywhere _ _, everywhere _ _, everywhere _ _, everywhere _ _⟩
    rw [(result.texels v u inV inU).2, averageAlpha_opaque full]
    rfl
  · have nonempty : stride ≠ 0 ∧ half from'.height ≠ 0 := by
      refine ⟨fun zero => fits.half_nonempty.1 ?_, fits.half_nonempty.2⟩
      rw [zero] at narrow
      exact UInt16.toNat_inj.mp (Nat.le_zero.mp narrow)
    obtain ⟨prepared, new⟩ : ∃ prepared,
        PreparedCoverage.new ⟨stride, half from'.height⟩ alpha = some prepared :=
      PreparedCoverage.new_of_plane nonempty result.alphaSize
    obtain ⟨coverage, borrowed, shows⟩ := PreparedCoverage.shows_of_new new
    refine ⟨prepared, coverage, new, borrowed, fun v u inV inU => shows.alphaAt _ ?_,
      shows.contains, shows.blocks⟩
    rw [result.alphaSize]
    exact rowMajor_lt inV (inU.trans_le narrow)

/-- **A level shows the reduction of the one before it.** -/
theorem nextLevel_larger (source : source base region levels = some (texture, from'))
    (shown : picture.ShownBy texture from') (more : ¬(picture.width ≤ 1 ∧ picture.height ≤ 1)) :
    Ensures (nextLevel base region levels) fun step =>
      ∃ level : MipLevel, step = .next (levels ++ [level]) ∧ level.Shows picture.reduce := by
  have larger : ¬(from'.width ≤ 1 ∧ from'.height ≤ 1) := by
    rw [UInt16.le_iff_toNat_le, UInt16.le_iff_toNat_le, shown.width, shown.height]
    exact more
  have width := toNat_half from'.width
  have height := toNat_half from'.height
  have bound := from'.width.toNat_lt
  obtain ⟨stride, strideIs, wide, whole⟩ := rowStride_spec (half from'.width) (by omega)
  have sixteens : stride.toNat * (half from'.height).toNat % 16 = 0 := by
    rw [Nat.mul_mod, whole, Nat.zero_mul, Nat.zero_mod]
  obtain ⟨colors, colorsAre, colorSize⟩ := plane_fromFn (fun _ => (0 : UInt16))
    (show 8 ≠ 0 by decide) (show stride.toNat * (half from'.height).toNat % 8 = 0 by omega)
  obtain ⟨alpha, alphaAre, alphaSize⟩ := plane_fromFn (fun _ => (0 : UInt8))
    (show 16 ≠ 0 by decide) sixteens
  obtain ⟨reducedColors, reducedAlpha, reduces, result⟩ :=
    downsample_reduces shown.valid wide colorSize alphaSize
  obtain ⟨prepared, coverage, kept, borrowed, stores⟩ :=
    level_coverage shown.valid result wide
  rw [nextLevel]
  apply Ensures.step source
  dsimp only
  rw [if_neg larger]
  apply Ensures.step strideIs
  apply Ensures.step colorsAre
  apply Ensures.step alphaAre
  apply Ensures.step reduces
  apply Ensures.step (show (Except.ok _ : Except RasterError SourceSize).toOption = some _ from rfl)
  have level : MipLevel.Shows ⟨⟨half from'.width, half from'.height⟩, reducedColors, prepared⟩
      picture.reduce := by
    have shows := shown.reduce result wide stores
    refine ⟨shows.width, shows.height, _, _, ?_, shows⟩
    rw [MipLevel.borrow]
    dsimp only
    rw [strideIs, borrowed]
    rfl
  split at kept
  · rename_i plain
    rw [if_pos plain]
    apply Ensures.step kept
    exact .value ⟨_, rfl, level⟩
  · rename_i covered
    rw [if_neg covered]
    apply Ensures.step kept
    exact .value ⟨_, rfl, level⟩

/-- The rounds that are left add the reductions that are left. -/
theorem levels_show {fuel : ℕ} (source : source base region levels = some (texture, from'))
    (shown : picture.ShownBy texture from') (enough : picture.width + picture.height < fuel) :
    ∃ rest, loop (nextLevel base region) fuel levels = some (levels ++ rest) ∧
      List.Forall₂ MipLevel.Shows rest picture.reductions := by
  induction fuel generalizing levels texture from' picture with
  | zero => exact absurd enough (Nat.not_lt_zero _)
  | succ fuel ih =>
      by_cases last : picture.width ≤ 1 ∧ picture.height ≤ 1
      · refine ⟨[], ?_, ?_⟩
        · rw [loop, nextLevel_texel source shown last, List.append_nil]
        · rw [Picture.reductions_of_texel last]
          exact .nil
      · obtain ⟨_, round, level, rfl, shows⟩ := nextLevel_larger source shown last
        obtain ⟨next, nextRegion, borrowed, nextShown⟩ := shows.borrow
        have nextSource : MipChain.source base region (levels ++ [level]) =
            some (next, nextRegion) := by
          rw [MipChain.source, List.getLast?_concat]
          exact borrowed
        have smaller := Picture.reduce_smaller last
        obtain ⟨rest, ran, all⟩ := ih nextSource nextShown (by omega)
        refine ⟨level :: rest, ?_, ?_⟩
        · rw [loop, round]
          dsimp only
          rw [ran, List.append_assoc, List.singleton_append]
        · rw [Picture.reductions_of_larger last]
          exact .cons shows all

/-- **The chain of a texture shows the reductions of its picture.** -/
theorem new_shows (shown : picture.ShownBy base region) :
    ∃ levels, MipChain.new base region = some levels ∧
      List.Forall₂ MipLevel.Shows levels picture.reductions := by
  have first : source base region [] = some (base, region) := rfl
  have enough : picture.width + picture.height < region.width.toNat + region.height.toNat + 1 := by
    rw [shown.width, shown.height]
    omega
  exact levels_show first shown enough

/-- What is selected shows the picture that is selected. -/
theorem select_shows {pictures : List Picture} (rect : ScreenRect)
    (all : List.Forall₂ MipLevel.Shows levels pictures) (shown : picture.ShownBy texture from') :
    ∃ chosen chosenRegion, select rect texture from' levels = some (chosen, chosenRegion) ∧
      (Picture.select rect picture pictures).ShownBy chosen chosenRegion := by
  induction all generalizing texture from' picture with
  | nil => exact ⟨texture, from', rfl, shown⟩
  | @cons level next levels pictures shows _ ih =>
      obtain ⟨nextTexture, nextRegion, borrowed, nextShown⟩ := shows.borrow
      rw [select, Picture.select, shows.width, shows.height]
      by_cases large : Picture.AtLeast next.width next.height rect
      · rw [if_neg (Picture.not_smaller_iff.mpr large), if_pos large, borrowed]
        exact ih nextShown
      · rw [if_pos (not_not.mp fun fits => large (Picture.not_smaller_iff.mp fits)),
          if_neg large]
        exact ⟨texture, from', rfl, shown⟩

end Chain

end MipChain

end Deskkin.Renderer
