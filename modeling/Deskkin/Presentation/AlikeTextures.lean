/-
# Textures that look alike

Two textures are alike if they are accepted with the same regions, cover the same texels
as much and have the same colors where they cover anything. They may hold other colors
elsewhere, or hold their coverage in another form. Whatever is drawn, prepared or reduced
from the one is the same from the other.
-/

import Deskkin.Presentation.BandFrames
import Deskkin.Presentation.DirectSampling
import Deskkin.Presentation.Mipmap

namespace Deskkin.Presentation

open Loops Grid Layers

/-- What is seen of the textures is the same. -/
structure Alike (a b : Texture) : Prop where
  validate : ∀ region, validateTexture a region = validateTexture b region
  blocks : a.coverage.blocks = b.coverage.blocks
  coverage : ∀ region v u, RegionFits a region → v < region.height.toNat →
    u < region.width.toNat → coverageIn a region v u = coverageIn b region v u
  colors : ∀ region v u, RegionFits a region → v < region.height.toNat →
    u < region.width.toNat → coverageIn a region v u ≠ 0 →
      colorIn a region v u = colorIn b region v u

namespace Alike

theorem refl (a : Texture) : Alike a a where
  validate _ := rfl
  blocks := rfl
  coverage _ _ _ _ _ _ := rfl
  colors _ _ _ _ _ _ _ := rfl

theorem isAlpha {a b : Texture} (alike : Alike a b) :
    a.coverage.isAlpha = b.coverage.isAlpha := by
  have byBlocks : ∀ coverage : Coverage, coverage.isAlpha = coverage.blocks.isSome := by
    intro coverage
    cases coverage <;> rfl
  rw [byBlocks, byBlocks, alike.blocks]

end Alike

/-! ## Validation -/

/-- What a region needs is less than what the texture has. -/
theorem required_le {right bottom width height : ℕ} (fitsX : right ≤ width)
    (fitsY : bottom ≤ height) (nonempty : 0 < bottom) :
    (bottom - 1) * width + right ≤ width * height :=
  calc (bottom - 1) * width + right
      ≤ (bottom - 1) * width + width := Nat.add_le_add_left fitsX _
    _ = bottom * width := by rw [← Nat.succ_mul, Nat.succ_eq_add_one, Nat.sub_add_cancel nonempty]
    _ ≤ height * width := Nat.mul_le_mul_right _ fitsY
    _ = width * height := Nat.mul_comm _ _

/-- Textures of one size are validated alike if they hold the same parts of it. -/
theorem validateTexture_congr {a b : Texture} (size : b.size = a.size)
    (pixels : ∀ texels, texels ≤ a.size.width.toNat * a.size.height.toNat →
      (b.pixels.size < texels ↔ a.pixels.size < texels))
    (contains : ∀ texels, texels ≤ a.size.width.toNat * a.size.height.toNat →
      b.coverage.contains texels = a.coverage.contains texels)
    (blocks : b.coverage.blocks = a.coverage.blocks) (region : TextureRegion) :
    validateTexture b region = validateTexture a region := by
  have checked : b.coverage.validate b.size = a.coverage.validate a.size := by
    rw [Coverage.validate, Coverage.validate, blocks, size]
  rw [validateTexture, validateTexture, checked, size]
  by_cases fits : region.height ≠ 0 ∧
      region.sourceX.toNat + region.width.toNat ≤ a.size.width.toNat ∧
        region.sourceY.toNat + region.height.toNat ≤ a.size.height.toNat ∧
          region.stride = a.size.width
  · obtain ⟨high, right, bottom, stride⟩ := fits
    have positive : 0 < region.height.toNat :=
      Nat.pos_of_ne_zero fun zero => high (UInt16.toNat_inj.mp zero)
    have enough := required_le right bottom (by omega)
    simp only [stride, pixels _ enough, contains _ enough]
  · have outside : ∀ rest : Prop, (region.width = 0 ∨ region.height = 0 ∨
        region.sourceX.toNat + region.width.toNat > region.stride.toNat ∨
          region.sourceX.toNat + region.width.toNat > a.size.width.toNat ∨
            region.sourceY.toNat + region.height.toNat > a.size.height.toNat ∨
              region.stride ≠ a.size.width ∨ rest) := by
      intro rest
      by_contra inside
      simp only [not_or, gt_iff_lt, not_lt, ne_eq, not_not] at inside
      exact fits ⟨inside.2.1, inside.2.2.2.1, inside.2.2.2.2.1, inside.2.2.2.2.2.1⟩
    simp only [outside, if_true]

/-! ## Colors with their coverage -/

/-- Where nothing is covered the color does not matter. -/
theorem blended_congr {wire : Bool} {color other : UInt16} {a : ℕ} {dst : UInt16}
    (same : a ≠ 0 → color = other) : blended wire color a dst = blended wire other a dst := by
  by_cases clear : a = 0
  · subst clear
    have ground : ∀ color : UInt16, (fun channel => mix (Channel.value channel (wireOrder wire dst))
        (Channel.value channel color) (0 * 257)) =
          fun channel => channel.value (wireOrder wire dst) := by
      intro color
      funext channel
      rw [mix]
      omega
    rw [blended, blended, ground, ground]
  · rw [same clear]

/-- The colors are the same, or nothing is covered. -/
def SameCovered (color other : UInt16) (a : ℕ) : Prop := a ≠ 0 → color = other

theorem SameCovered.product {color other : UInt16} {a : ℕ} (same : SameCovered color other a)
    (f : UInt16 → ℕ) : f color * a = f other * a := by
  by_cases clear : a = 0
  · rw [clear, Nat.mul_zero, Nat.mul_zero]
  · rw [same clear]

/-- Four colors that are the same where anything is covered. -/
structure SameCorners (colors others : Corners UInt16) (alphas : Corners ℕ) : Prop where
  topLeft : SameCovered colors.topLeft others.topLeft alphas.topLeft
  topRight : SameCovered colors.topRight others.topRight alphas.topRight
  bottomLeft : SameCovered colors.bottomLeft others.bottomLeft alphas.bottomLeft
  bottomRight : SameCovered colors.bottomRight others.bottomRight alphas.bottomRight

namespace SameCorners

variable {colors others : Corners UInt16} {alphas : Corners ℕ}
  (same : SameCorners colors others alphas)

include same

theorem products (f : UInt16 → ℕ) : colors.zipWith (fun color a => f color * a) alphas =
    others.zipWith (fun color a => f color * a) alphas := by
  rw [Corners.zipWith, Corners.zipWith, same.topLeft.product f, same.topRight.product f,
    same.bottomLeft.product f, same.bottomRight.product f]

theorem filteredColor_eq (background : UInt16) (fractionX fractionY : ℕ) :
    filteredColor colors alphas background fractionX fractionY =
      filteredColor others alphas background fractionX fractionY := by
  have channels : filteredChannel colors alphas background fractionX fractionY =
      filteredChannel others alphas background fractionX fractionY := by
    funext channel
    rw [filteredChannel, filteredChannel, same.products]
  rw [filteredColor, filteredColor, channels]

theorem averageColor_eq : averageColor colors alphas = averageColor others alphas := by
  have components : ∀ shift mask,
      averaged colors alphas shift mask = averaged others alphas shift mask := by
    intro shift mask
    rw [averaged, averaged, same.products fun color => ((color >>> shift) &&& mask).toNat]
  rw [averageColor, averageColor, components, components, components]

end SameCorners

/-! ## Reducing -/

/-- **Textures that are alike reduce to the same.** -/
theorem downsample_alike {a b : Texture} (alike : Alike a b) (region : TextureRegion)
    (stride : UInt16) (colors : Array UInt16) (alpha : Array UInt8) :
    downsample a region stride colors alpha = downsample b region stride colors alpha := by
  have rejection : reduceRejection a region stride colors.size alpha.size =
      reduceRejection b region stride colors.size alpha.size := by
    rw [reduceRejection, reduceRejection, alike.validate]
  rw [downsample_eq, downsample_eq, ← rejection]
  cases rejected : reduceRejection a region stride colors.size alpha.size with
  | some error => rfl
  | none =>
      have fits : RegionFits a region := by
        apply regionFits_of_validate
        rw [reduceRejection] at rejected
        split at rejected
        · cases rejected
        · assumption
      have coverage : ∀ y x, (y, x) ∈ reduced region →
          region.quad (coverageIn a region) y x = region.quad (coverageIn b region) y x :=
        fun y x inside => quad_congr inside.1.2 inside.2.2 fun v u =>
          alike.coverage region v u fits
      have alphas : restrict (reduced region) (reducedAlpha a region) =
          restrict (reduced region) (reducedAlpha b region) := by
        apply restrict_congr
        intro y x _ inside
        rw [reducedAlpha, reducedAlpha, coverage y x inside]
      have averages : restrict (reduced region) (reducedColor a region) =
          restrict (reduced region) (reducedColor b region) := by
        apply restrict_congr
        intro y x _ inside
        obtain ⟨topLeft, topRight, bottomLeft, bottomRight⟩ := quad_inside inside.1.2 inside.2.2
        have same : SameCorners (region.quad (colorIn a region) y x)
            (region.quad (colorIn b region) y x) (region.quad (coverageIn a region) y x) :=
          ⟨alike.colors region _ _ fits topLeft.1 topLeft.2,
            alike.colors region _ _ fits topRight.1 topRight.2,
            alike.colors region _ _ fits bottomLeft.1 bottomLeft.2,
            alike.colors region _ _ fits bottomRight.1 bottomRight.2⟩
        rw [reducedColor, reducedColor, ← coverage y x inside, same.averageColor_eq]
      dsimp only
      rw [alphas, averages]

/-! ## Drawing -/

/-- Boards in the same place with textures that are alike. -/
structure AlikeBoard (a b : SceneBillboard) : Prop where
  projected : a.projected = b.projected
  region : a.region = b.region
  texture : Alike a.texture b.texture

namespace AlikeBoard

variable {a b : SceneBillboard} {wire : Bool} {y x : ℕ}

theorem area (alike : AlikeBoard a b) : a.area = b.area := by
  rw [SceneBillboard.area, SceneBillboard.area, alike.projected]

theorem directPixel_eq (alike : AlikeBoard a b) (inside : (y, x) ∈ a.area) (dst : UInt16) :
    directPixel a.projected a.texture a.region wire y x dst =
      directPixel b.projected b.texture b.region wire y x dst := by
  obtain ⟨alongX, alongY⟩ := SceneBillboard.coordinates_eq inside
  have wholeX : sourceCoordinate a.projected.screenRect.x a.region.width
      a.projected.screenRect.width x / 65536 < a.region.width.toNat := by
    rw [alongX]
    exact AxisStepper.quotient_div.trans_lt (SceneBillboard.texelX_lt inside)
  have wholeY : sourceCoordinate a.projected.screenRect.y a.region.height
      a.projected.screenRect.height y / 65536 < a.region.height.toNat := by
    rw [alongY]
    exact AxisStepper.quotient_div.trans_lt (SceneBillboard.texelY_lt inside)
  rw [directPixel, directPixel, ← alike.projected, ← alike.region, ← alike.texture.isAlpha]
  generalize sourceCoordinate a.projected.screenRect.x a.region.width
    a.projected.screenRect.width x = cx at wholeX ⊢
  generalize sourceCoordinate a.projected.screenRect.y a.region.height
    a.projected.screenRect.height y = cy at wholeY ⊢
  have coverage : ∀ v u, v < a.region.height.toNat → u < a.region.width.toNat →
      coverageIn a.texture a.region v u = coverageIn b.texture a.region v u :=
    fun v u => alike.texture.coverage a.region v u a.fits
  have colors : ∀ v u, v < a.region.height.toNat → u < a.region.width.toNat →
      SameCovered (colorIn a.texture a.region v u) (colorIn b.texture a.region v u)
        (coverageIn a.texture a.region v u) :=
    fun v u => alike.texture.colors a.region v u a.fits
  have below : min (cy / 65536 + 1) (a.region.height.toNat - 1) < a.region.height.toNat := by omega
  have right : min (cx / 65536 + 1) (a.region.width.toNat - 1) < a.region.width.toNat := by omega
  cases a.projected.filter with
  | nearest =>
      dsimp only
      rw [← coverage _ _ wholeY wholeX, blended_congr (colors _ _ wholeY wholeX)]
  | bilinear =>
      cases kind : a.texture.coverage.isAlpha with
      | true =>
          have same : SameCorners ⟨_, _, _, _⟩ ⟨_, _, _, _⟩ ⟨_, _, _, _⟩ :=
            ⟨colors _ _ wholeY wholeX, colors _ _ wholeY right, colors _ _ below wholeX,
              colors _ _ below right⟩
          dsimp only
          rw [if_pos rfl, if_pos rfl, ← coverage _ _ wholeY wholeX, ← coverage _ _ wholeY right,
            ← coverage _ _ below wholeX, ← coverage _ _ below right]
          exact congrArg (wireOrder wire) (same.filteredColor_eq _ _ _)
      | false =>
          have full : ∀ v u, coverageIn a.texture a.region v u ≠ 0 := by
            intro v u
            have everywhere : a.texture.coverage = .fullyOpaque := by
              cases kept : a.texture.coverage with
              | fullyOpaque => rfl
              | cutout bits blocks =>
                  rw [kept] at kind
                  cases kind
              | alpha8 alpha blocks =>
                  rw [kept] at kind
                  cases kind
            rw [coverageIn, everywhere]
            exact show (255 : ℕ) ≠ 0 by decide
          dsimp only
          rw [if_neg Bool.false_ne_true, if_neg Bool.false_ne_true,
            colors _ _ wholeY wholeX (full _ _), colors _ _ wholeY right (full _ _),
            colors _ _ below wholeX (full _ _), colors _ _ below right (full _ _)]

/-- Boards that are alike draw the same. -/
theorem restrict_drawing (alike : AlikeBoard a b) {region : Set (ℕ × ℕ)}
    (inside : region ⊆ a.area) :
    restrict region (a.drawing wire) = restrict region (b.drawing wire) := by
  apply restrict_congr
  intro y x dst here
  have area := inside here
  rw [SceneBillboard.drawing_eq_direct area, alike.directPixel_eq area,
    SceneBillboard.drawing_eq_direct (alike.area ▸ area)]

theorem layer_eq (alike : AlikeBoard a b) : layer wire a = layer wire b := by
  funext place word
  rw [layer, layer, alike.restrict_drawing (Set.Subset.refl _), alike.area]

end AlikeBoard

section Board

variable {a b : Texture} (alike : Alike a b)

include alike

theorem acceptBillboard_alike (stride : ℕ) (projected : ProjectedBillboard)
    (region : TextureRegion) (words : ℕ) :
    (∃ rejected : Option RasterError,
      acceptBillboard stride projected a region words = rejected.map .error ∧
      acceptBillboard stride projected b region words = rejected.map .error) ∨
    ∃ board other, AlikeBoard board other ∧
      acceptBillboard stride projected a region words = some (.ok board) ∧
      acceptBillboard stride projected b region words = some (.ok other) := by
  rw [acceptBillboard, acceptBillboard]
  split
  · exact Or.inl ⟨some _, rfl, rfl⟩
  · split
    · split
      · exact Or.inl ⟨some _, rfl, rfl⟩
      · exact Or.inl ⟨none, rfl, rfl⟩
    · cases checked : SceneBillboard.new projected a region with
      | ok board =>
          obtain ⟨rfl, rfl, rfl⟩ := SceneBillboard.new_eq_ok checked
          let other : SceneBillboard := ⟨board.projected, b, board.region,
            (alike.validate _).symm.trans board.valid, board.positive⟩
          refine Or.inr ⟨board, other, ⟨rfl, rfl, alike⟩, rfl, ?_⟩
          exact congrArg some other.new_eq
      | error error =>
          refine Or.inl ⟨some error, rfl, ?_⟩
          cases again : SceneBillboard.new projected b region with
          | error late =>
              have same : late = error := by
                rcases SceneBillboard.new_eq_error checked with invalid | ⟨valid, rfl, _⟩ <;>
                  rcases SceneBillboard.new_eq_error again with invalid' | ⟨valid', rfl, _⟩
                · rw [alike.validate, invalid'] at invalid
                  exact Except.error.inj invalid
                · rw [alike.validate, valid'] at invalid
                  cases invalid
                · rw [alike.validate, invalid'] at valid
                  cases valid
                · rfl
              rw [same]
              rfl
          | ok board =>
              obtain ⟨rfl, rfl, rfl⟩ := SceneBillboard.new_eq_ok again
              have positive := board.positive
              rcases SceneBillboard.new_eq_error checked with invalid | ⟨-, -, empty⟩
              · rw [alike.validate, board.valid] at invalid
                cases invalid
              · omega

/-- **Textures that are alike draw the same**, masked or not. -/
theorem rasterBillboardMasked_alike (stride : ℕ) (projected : ProjectedBillboard)
    (region : TextureRegion) (wire : Bool) (mask : Option (Occlusion × ℕ))
    (pixels : Array UInt16) :
    rasterBillboardMasked stride projected a region wire mask pixels =
      rasterBillboardMasked stride projected b region wire mask pixels := by
  rw [rasterBillboardMasked_eq, rasterBillboardMasked_eq]
  rcases acceptBillboard_alike alike stride projected region pixels.size with
    ⟨rejected, first, second⟩ | ⟨board, other, same, first, second⟩
  · rw [first, second]
  · have seen : board.seen mask = other.seen mask := by
      rw [SceneBillboard.seen, SceneBillboard.seen, same.area]
    have drawing : restrict (board.seen mask) (board.drawing wire) =
        restrict (board.seen mask) (other.drawing wire) :=
      same.restrict_drawing fun _ here => here.1
    rw [first, second]
    show some (board.drawnOnto stride wire mask pixels) =
      some (other.drawnOnto stride wire mask pixels)
    rw [SceneBillboard.drawnOnto, SceneBillboard.drawnOnto, drawing, seen, same.projected]

end Board

end Deskkin.Presentation
