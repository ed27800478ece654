/-
# Hidden colors

The color of a texel that is not covered is never seen: not where a board is drawn, and not
in what the texture is reduced to, once or down to one texel. It has to be there, for
textures with too few colors are not accepted.
-/

import Deskkin.Presentation.AlikeTextures
import Deskkin.Renderer.MipChain
import Deskkin.Simulator.WorldTextures

namespace Deskkin.Presentation

open Loops Renderer Simulator

/-- Textures with the same coverage that hold colors for the same texels, and the same colors
for the texels that are covered. -/
structure SameCoveredColors (a b : Texture) : Prop where
  size : b.size = a.size
  coverage : b.coverage = a.coverage
  held : ∀ i, i < a.size.width.toNat * a.size.height.toNat →
    (i < b.pixels.size ↔ i < a.pixels.size)
  colors : ∀ i α, i < a.size.width.toNat * a.size.height.toNat →
    a.coverage.alphaAt i = some α → α ≠ 0 → b.pixels[i]? = a.pixels[i]?

/-- **Hidden colors do not tell textures apart.** -/
theorem SameCoveredColors.alike {a b : Texture} (same : SameCoveredColors a b) : Alike a b := by
  have blocks : b.coverage.blocks = a.coverage.blocks := by rw [same.coverage]
  refine ⟨fun region => ?_, blocks.symm, fun region v u _ _ _ => ?_,
    fun region v u fits inV inU covered => ?_⟩
  · refine (validateTexture_congr same.size (fun texels upTo => ?_) (fun _ _ => ?_) blocks
      region).symm
    · cases texels with
      | zero => exact iff_of_false (Nat.not_lt_zero _) (Nat.not_lt_zero _)
      | succ i =>
          have held := same.held i upTo
          omega
    · rw [same.coverage]
  · rw [coverageIn, coverageIn, same.coverage]
  · obtain ⟨α, found⟩ := fits.alpha inV inU
    have visible : α ≠ 0 := by
      rintro rfl
      rw [coverageIn, found] at covered
      exact covered rfl
    have inside : region.texel v u < a.size.width.toNat * a.size.height.toNat := by
      have high := fits.height_pos
      have enough := required_le fits.right fits.bottom (by omega)
      have texel := RegionFits.texel_lt inV inU
      rw [fits.stride] at texel
      omega
    rw [colorIn, colorIn, same.colors _ α inside found visible]

/-! ## Further levels -/

section Levels

variable {a b : Texture} (alike : Alike a b)

include alike

theorem nextLevel_alike (region : TextureRegion) :
    MipChain.nextLevel b region = MipChain.nextLevel a region := by
  funext levels
  rw [MipChain.nextLevel, MipChain.nextLevel, MipChain.source, MipChain.source]
  cases levels.getLast? with
  | some level => rfl
  | none =>
      simp only [Option.bind_eq_bind, Option.bind_some, downsample_alike alike, alike.isAlpha]

/-- The simulator reduces textures that are alike to the same. -/
theorem nextMip_alike {owned other : OwnedTexture} (borrowed : owned.borrow = some a)
    (borrowedOther : other.borrow = some b) (size : other.size = owned.size) :
    other.nextMip = owned.nextMip := by
  funext mips
  rw [OwnedTexture.nextMip, OwnedTexture.nextMip]
  cases mips.getLast? with
  | some mip => rfl
  | none =>
      simp only [Option.getD_none, borrowed, borrowedOther, size, Option.bind_eq_bind,
        Option.bind_some, downsample_alike alike]

end Levels

/-- **Hidden colors are not seen.** Textures with the same coverage and the same colors under it
draw the same in every way, and reduce to the same at every level. -/
theorem hidden_colors_unseen (a b : Texture) (same : SameCoveredColors a b) :
    (∀ stride projected region wire pixels,
      rasterBillboardOrdered stride projected b region wire pixels =
        rasterBillboardOrdered stride projected a region wire pixels) ∧
    (∀ region stride colors alpha,
      downsample b region stride colors alpha = downsample a region stride colors alpha) ∧
    (∀ region, MipChain.new b region = MipChain.new a region) ∧
    ∀ owned other : OwnedTexture, owned.borrow = some a → other.borrow = some b →
      other.mips = owned.mips →
        other.prepareMips.map OwnedTexture.mips = owned.prepareMips.map OwnedTexture.mips := by
  have alike := same.alike
  refine ⟨fun stride projected region wire pixels => ?_, fun region stride colors alpha => ?_,
    fun region => ?_, fun owned other borrowed borrowedOther mips => ?_⟩
  · exact (rasterBillboardMasked_alike alike stride projected region wire none pixels).symm
  · exact (downsample_alike alike region stride colors alpha).symm
  · rw [MipChain.new, MipChain.new, nextLevel_alike alike]
  · have size : other.size = owned.size := by
      rw [← OwnedTexture.size_of_borrow borrowed, ← OwnedTexture.size_of_borrow borrowedOther,
        same.size]
    have rounds := nextMip_alike alike borrowed borrowedOther size
    rw [OwnedTexture.prepareMips, OwnedTexture.prepareMips, rounds, size, mips]
    simp only [Option.bind_eq_bind, Option.map_bind]
    rfl

/-! ## Two texels -/

/-- A texel that is covered beside one that is not. -/
def twoTexels (pixels : Array UInt16) : Texture :=
  ⟨⟨2, 1⟩, pixels, .alpha8 #[255, 0] ⟨⟨2, 1⟩, #[0], by decide, by decide⟩⟩

theorem twoTexels_visible {i : ℕ} {α : UInt8}
    (found : (twoTexels #[]).coverage.alphaAt i = some α) (visible : α ≠ 0) : i = 0 := by
  match i with
  | 0 => rfl
  | 1 => exact absurd (Option.some.inj found).symm visible
  | i + 2 => cases found

theorem hidden_colors_unseen_two :
    downsample (twoTexels #[5, 9]) ⟨0, 0, 2, 1, 2⟩ 1 #[0] #[0] =
      downsample (twoTexels #[5, 7]) ⟨0, 0, 2, 1, 2⟩ 1 #[0] #[0] ∧
    MipChain.new (twoTexels #[5, 9]) ⟨0, 0, 2, 1, 2⟩ =
      MipChain.new (twoTexels #[5, 7]) ⟨0, 0, 2, 1, 2⟩ := by
  have same : SameCoveredColors (twoTexels #[5, 7]) (twoTexels #[5, 9]) := by
    refine ⟨rfl, rfl, fun _ _ => Iff.rfl, fun i α _ found visible => ?_⟩
    rw [twoTexels_visible found visible]
    rfl
  obtain ⟨-, reduced, chain, -⟩ := hidden_colors_unseen _ _ same
  exact ⟨reduced _ _ _ _, chain _⟩

/-- A texture without the texel that is not covered has the same coverage and the same colors
under it, and is refused. -/
theorem missing_texel_seen :
    (twoTexels #[5, 7]).size = (twoTexels #[5]).size ∧
    (twoTexels #[5, 7]).coverage = (twoTexels #[5]).coverage ∧
    (∀ i α, (twoTexels #[5]).coverage.alphaAt i = some α → α ≠ 0 →
      (twoTexels #[5, 7]).pixels[i]? = (twoTexels #[5]).pixels[i]?) ∧
    downsample (twoTexels #[5, 7]) ⟨0, 0, 2, 1, 2⟩ 1 #[0] #[0] =
      some (.ok ⟨1, 1⟩, #[5], #[128]) ∧
    downsample (twoTexels #[5]) ⟨0, 0, 2, 1, 2⟩ 1 #[0] #[0] =
      some (.error .invalidTexture, #[0], #[0]) := by
  refine ⟨rfl, rfl, fun i α found visible => ?_, by decide +kernel, by decide +kernel⟩
  rw [twoTexels_visible found visible]
  rfl

end Deskkin.Presentation
