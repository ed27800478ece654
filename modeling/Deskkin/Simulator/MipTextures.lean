/-
# The simulator and the renderer reduce alike

The simulator keeps rows without padding and sorts coverage by what it finds; the renderer
pads its rows, and what it finds includes the padding. Both show the reductions of the
picture they start from, and both select by the same rule, so for every rectangle they draw
from the same picture.
-/

import Deskkin.Renderer.MipLevels
import Deskkin.Simulator.WorldTextures

namespace Deskkin.Simulator

open Presentation Loops

namespace OwnedTexture

section Chain

variable {size : SourceSize} {alpha : Array UInt8}
  {self source : OwnedTexture} {mips : List OwnedTexture} {texture : Texture} {picture : Picture}

/-- **What is kept of a plane shows it.** -/
theorem withAlpha_shows (pixels : Array UInt16) (nonempty : size.width ≠ 0 ∧ size.height ≠ 0)
    (plane : alpha.size = size.width.toNat * size.height.toNat) :
    ∃ kept coverage, withAlpha size pixels alpha = some ⟨size, pixels, kept, []⟩ ∧
      borrowCoverage ⟨size, pixels, kept, []⟩ = some coverage ∧ coverage.Shows size alpha := by
  have cleared : (Array.replicate (Mask8.bytesFor size) (0 : UInt8)).size =
      Mask8.bytesFor size := Array.size_replicate
  obtain ⟨opaqueBlocks, built, marks⟩ := buildOpaqueMask_marks nonempty plane cleared
  have masked := mask_new nonempty marks.length
  have first : ∀ {β : Type} (f : Except RasterError Unit × Array UInt8 → Option β),
      (buildOpaqueMask size alpha (Array.replicate (Mask8.bytesFor size) 0) >>= f) =
        f (.ok (), opaqueBlocks) := by
    intro β f
    rw [built]
    rfl
  by_cases full : (alpha.all fun a => a = 255) = true
  · refine ⟨.fullyOpaque, .fullyOpaque, ?_, rfl, Coverage.shows_fullyOpaque full⟩
    rw [withAlpha, first]
    exact if_pos full
  · by_cases binary : (alpha.all fun a => a = 0 || a = 255) = true
    · have clearedBits : (Array.replicate (divCeil alpha.size 8) (0 : UInt8)).size =
          divCeil alpha.size 8 := Array.size_replicate
      obtain ⟨bits, packed, -⟩ := buildCutoutMask_packs clearedBits (any_of_all binary)
      refine ⟨.cutout bits opaqueBlocks, .cutout bits ⟨size, opaqueBlocks, nonempty, marks.length⟩,
        ?_, ?_, Coverage.shows_cutout packed rfl⟩
      · rw [withAlpha, first]
        simp only [Except.toOption, Option.bind_eq_bind, Option.bind_some, if_neg full,
          if_pos binary, packed]
        rfl
      · rw [borrowCoverage]
        dsimp only
        rw [masked]
        rfl
    · refine ⟨.alpha8 alpha opaqueBlocks, .alpha8 alpha ⟨size, opaqueBlocks, nonempty,
        marks.length⟩, ?_, ?_, Coverage.shows_alpha8 rfl⟩
      · rw [withAlpha, first]
        simp only [Except.toOption, Option.bind_eq_bind, Option.bind_some, if_neg full,
          if_neg binary]
        rfl
      · rw [borrowCoverage]
        dsimp only
        rw [masked]
        rfl

/-- The texture is the picture. -/
structure Shows (owned : OwnedTexture) (picture : Picture) : Prop where
  width : owned.size.width.toNat = picture.width
  height : owned.size.height.toNat = picture.height
  borrow : ∃ texture, owned.borrow = some texture ∧
    picture.ShownBy texture (fullTextureRegion owned.size)

section

variable (last : mips.getLast?.getD self = source)
include last

/-- One texel is not reduced. -/
theorem nextMip_texel (shows : source.Shows picture)
    (texel : picture.width ≤ 1 ∧ picture.height ≤ 1) : nextMip self mips = some (.stop mips) := by
  have small : source.size.width ≤ 1 ∧ source.size.height ≤ 1 := by
    rw [UInt16.le_iff_toNat_le, UInt16.le_iff_toNat_le, shows.width, shows.height]
    exact texel
  rw [nextMip]
  dsimp only
  rw [last, if_pos small]
  rfl

/-- **A reduced texture shows the reduction of the one before it.** -/
theorem nextMip_larger (shows : source.Shows picture)
    (more : ¬(picture.width ≤ 1 ∧ picture.height ≤ 1)) :
    Ensures (nextMip self mips) fun step =>
      ∃ mip : OwnedTexture, step = .next (mips ++ [mip]) ∧ mip.Shows picture.reduce := by
  have larger : ¬(source.size.width ≤ 1 ∧ source.size.height ≤ 1) := by
    rw [UInt16.le_iff_toNat_le, UInt16.le_iff_toNat_le, shows.width, shows.height]
    exact more
  obtain ⟨texture, borrowed, shown⟩ := shows.borrow
  have fits := regionFits_of_validate shown.valid
  have length : (Array.replicate ((half source.size.width).toNat *
      (half source.size.height).toNat) (0 : UInt16)).size = _ := Array.size_replicate
  have lengthAlpha : (Array.replicate (Array.replicate ((half source.size.width).toNat *
      (half source.size.height).toNat) (0 : UInt16)).size (0 : UInt8)).size =
        (half source.size.width).toNat * (half source.size.height).toNat := by
    rw [Array.size_replicate, Array.size_replicate]
  obtain ⟨colors, alpha, reduces, result⟩ :=
    downsample_reduces shown.valid (UInt16.le_refl (half source.size.width)) length lengthAlpha
  have plane : alpha.size = (half source.size.width).toNat * (half source.size.height).toNat :=
    result.alphaSize
  have nonempty : half source.size.width ≠ 0 ∧ half source.size.height ≠ 0 := fits.half_nonempty
  obtain ⟨kept, coverage, made, held, covers⟩ : ∃ kept coverage,
      withAlpha ⟨half source.size.width, half source.size.height⟩ colors alpha =
        some ⟨⟨half source.size.width, half source.size.height⟩, colors, kept, []⟩ ∧ _ ∧ _ :=
    withAlpha_shows colors nonempty plane
  have stores : Picture.Stores coverage ⟨half source.size.width, half source.size.height⟩
      (half source.size.width) alpha := by
    refine ⟨fun v u inV inU => covers.alphaAt _ ?_, covers.contains, covers.blocks⟩
    rw [plane]
    exact rowMajor_lt inV inU
  have reducedShown := shown.reduce result (UInt16.le_refl _) stores
  rw [nextMip]
  dsimp only
  rw [last, if_neg larger]
  apply Ensures.step borrowed
  apply Ensures.step reduces
  apply Ensures.step (show (Except.ok _ : Except RasterError SourceSize).toOption = some _ from rfl)
  apply Ensures.step made
  refine .value ⟨_, rfl, reducedShown.width, reducedShown.height, _, ?_, reducedShown⟩
  rw [borrow, held]
  rfl

/-- The rounds that are left add the reductions that are left. -/
theorem mips_show {fuel : ℕ} (shows : source.Shows picture)
    (enough : picture.width + picture.height < fuel) :
    ∃ rest, loop (nextMip self) fuel mips = some (mips ++ rest) ∧
      List.Forall₂ Shows rest picture.reductions := by
  induction fuel generalizing mips source picture with
  | zero => exact absurd enough (Nat.not_lt_zero _)
  | succ fuel ih =>
      by_cases texel : picture.width ≤ 1 ∧ picture.height ≤ 1
      · refine ⟨[], ?_, ?_⟩
        · rw [loop, nextMip_texel last shows texel, List.append_nil]
        · rw [Picture.reductions_of_texel texel]
          exact .nil
      · obtain ⟨_, round, mip, rfl, reduced⟩ := nextMip_larger last shows texel
        have next : (mips ++ [mip]).getLast?.getD self = mip := by
          rw [List.getLast?_concat, Option.getD_some]
        have smaller := Picture.reduce_smaller texel
        obtain ⟨rest, ran, all⟩ := ih next reduced (by omega)
        refine ⟨mip :: rest, ?_, ?_⟩
        · rw [loop, round]
          dsimp only
          rw [ran, List.append_assoc, List.singleton_append]
        · rw [Picture.reductions_of_larger texel]
          exact .cons reduced all

end

/-- **The reduced textures show the reductions of the picture.** -/
theorem prepareMips_shows (shows : self.Shows picture) (fresh : self.mips = []) :
    ∃ mips, prepareMips self = some { self with mips := mips } ∧
      List.Forall₂ Shows mips picture.reductions := by
  have first : ([] : List OwnedTexture).getLast?.getD self = self := rfl
  have enough : picture.width + picture.height <
      self.size.width.toNat + self.size.height.toNat + 1 := by
    rw [shows.width, shows.height]
    omega
  obtain ⟨mips, ran, all⟩ := mips_show first shows enough
  refine ⟨mips, ?_, all⟩
  rw [prepareMips, fresh, ran]
  rfl

/-- What is selected shows the picture that is selected. -/
theorem selectMip_shows {pictures : List Picture} (rect : ScreenRect) (isMip : Bool)
    (all : List.Forall₂ Shows mips pictures) (shows : self.Shows picture) :
    (selectMip rect self isMip mips).1.Shows (Picture.select rect picture pictures) := by
  induction all generalizing self picture isMip with
  | nil => exact shows
  | @cons mip next mips pictures nextShows _ ih =>
      rw [selectMip, Picture.select, nextShows.width, nextShows.height]
      by_cases large : Picture.AtLeast next.width next.height rect
      · rw [if_neg (Picture.not_smaller_iff.mpr large), if_pos large]
        exact ih true nextShows
      · rw [if_pos (not_not.mp fun fits => large (Picture.not_smaller_iff.mp fits)),
          if_neg large]
        exact shows

end Chain

end OwnedTexture

/-! ## Both sides -/

/-- The regions are valid, of one size, and have the same color and coverage at every texel. -/
structure SameTexels (one : Texture) (region : TextureRegion) (two : Texture)
    (other : TextureRegion) : Prop where
  valid : validateTexture one region = .ok () ∧ validateTexture two other = .ok ()
  width : region.width = other.width
  height : region.height = other.height
  color : ∀ v u, v < region.height.toNat → u < region.width.toNat →
    colorIn one region v u = colorIn two other v u
  coverage : ∀ v u, v < region.height.toNat → u < region.width.toNat →
    coverageIn one region v u = coverageIn two other v u

variable {region other : TextureRegion}

theorem sameTexels_of_shown {one two : Texture} {picture : Picture}
    (first : picture.ShownBy one region) (second : picture.ShownBy two other) :
    SameTexels one region two other := by
  refine ⟨⟨first.valid, second.valid⟩, UInt16.toNat_inj.mp (first.width.trans second.width.symm),
    UInt16.toNat_inj.mp (first.height.trans second.height.symm), fun v u inV inU => ?_,
    fun v u inV inU => ?_⟩
  all_goals rw [first.height] at inV; rw [first.width] at inU
  · rw [first.color v u inV inU, second.color v u inV inU]
  · rw [first.coverage v u inV inU, second.coverage v u inV inU]

theorem exists_picture_of_same {one two : Texture} (same : SameTexels one region two other) :
    ∃ picture : Picture, picture.ShownBy one region ∧ picture.ShownBy two other := by
  refine ⟨⟨region.width.toNat, region.height.toNat, colorIn one region, coverageIn one region⟩,
    ⟨same.valid.1, rfl, rfl, fun _ _ _ _ => rfl, fun _ _ _ _ => rfl⟩,
    same.valid.2, by rw [same.width], by rw [same.height], fun v u inV inU => ?_,
    fun v u inV inU => ?_⟩
  · exact (same.color v u inV inU).symm
  · exact (same.coverage v u inV inU).symm

/-- **The simulator and the renderer draw from the same levels.** For a texture that both have,
both build levels down to one texel, and for every rectangle both select a level of one size
with the same colors and coverage: the smallest that is at least as large, or the texture. -/
theorem mip_levels_agree {base texture : Texture} {region : TextureRegion} {owned : OwnedTexture}
    (fresh : owned.mips = []) (borrowed : owned.borrow = some texture)
    (same : SameTexels base region texture (fullTextureRegion owned.size)) :
    ∃ levels prepared, Renderer.MipChain.new base region = some levels ∧
      owned.prepareMips = some prepared ∧
      (⟨region.width, region.height⟩ :: levels.map (·.size)).getLast? = some ⟨1, 1⟩ ∧
      (owned.size :: prepared.mips.map (·.size)).getLast? = some ⟨1, 1⟩ ∧
      ∀ projected : ProjectedBillboard, ∃ device deviceRegion simulated,
        Renderer.MipChain.select projected.screenRect base region levels =
          some (device, deviceRegion) ∧
        (prepared.forProjection projected).1.borrow = some simulated ∧
        SameTexels device deviceRegion simulated
          (fullTextureRegion (prepared.forProjection projected).1.size) ∧
        Picture.SmallestSize projected.screenRect ⟨region.width, region.height⟩
          (levels.map (·.size)) ⟨deviceRegion.width, deviceRegion.height⟩ ∧
        Picture.SmallestSize projected.screenRect owned.size (prepared.mips.map (·.size))
          (prepared.forProjection projected).1.size := by
  obtain ⟨picture, deviceShown, ownShown⟩ := exists_picture_of_same same
  have shows : owned.Shows picture := ⟨ownShown.width, ownShown.height, texture, borrowed, ownShown⟩
  obtain ⟨levels, built, levelsShow⟩ := Renderer.MipChain.new_shows deviceShown
  obtain ⟨mips, prepared, mipsShow⟩ := OwnedTexture.prepareMips_shows shows fresh
  have preparedShows : OwnedTexture.Shows { owned with mips := mips } picture :=
    ⟨ownShown.width, ownShown.height, texture, borrowed, ownShown⟩
  have deviceSizes : List.Forall₂ Picture.HasSize
      (⟨region.width, region.height⟩ :: levels.map (·.size)) (picture :: picture.reductions) :=
    .cons ⟨deviceShown.width, deviceShown.height⟩
      (List.forall₂_map_left_iff.mpr (levelsShow.imp fun _ _ level => ⟨level.width, level.height⟩))
  have ownSizes : List.Forall₂ Picture.HasSize (owned.size :: mips.map (·.size))
      (picture :: picture.reductions) :=
    .cons ⟨ownShown.width, ownShown.height⟩
      (List.forall₂_map_left_iff.mpr (mipsShow.imp fun _ _ mip => ⟨mip.width, mip.height⟩))
  have fits := regionFits_of_validate deviceShown.valid
  have last := picture.reductions_last (by
    rw [← deviceShown.width, ← deviceShown.height]
    exact ⟨fits.width_pos, fits.height_pos⟩)
  refine ⟨levels, _, built, prepared, Picture.getLast?_size deviceSizes last,
    Picture.getLast?_size ownSizes last, fun projected => ?_⟩
  obtain ⟨device, deviceRegion, selected, deviceChosen⟩ :=
    Renderer.MipChain.select_shows projected.screenRect levelsShow deviceShown
  have ownChosen := OwnedTexture.selectMip_shows projected.screenRect false mipsShow
    preparedShows
  obtain ⟨simulated, held, simulatedShown⟩ := ownChosen.borrow
  have smallest := Picture.select_smallest projected.screenRect picture
  exact ⟨device, deviceRegion, simulated, selected, held,
    sameTexels_of_shown deviceChosen simulatedShown,
    smallest.size deviceSizes ⟨deviceChosen.width, deviceChosen.height⟩,
    smallest.size ownSizes ⟨ownChosen.width, ownChosen.height⟩⟩

/-- Three texels in a row, of which the renderer's are padded. -/
theorem mip_levels_agree_row :
    ∃ levels prepared, Renderer.MipChain.new
        ⟨⟨16, 1⟩, #[7, 8, 9, 0, 0, 0, 0, 0, 0, 0, 0, 0, 0, 0, 0, 0], .fullyOpaque⟩
        ⟨0, 0, 3, 1, 16⟩ = some levels ∧
      OwnedTexture.prepareMips ⟨⟨3, 1⟩, #[7, 8, 9], .fullyOpaque, []⟩ = some prepared ∧
      ∃ device deviceRegion simulated, Renderer.MipChain.select ⟨0, 0, 2, 1⟩
          ⟨⟨16, 1⟩, #[7, 8, 9, 0, 0, 0, 0, 0, 0, 0, 0, 0, 0, 0, 0, 0], .fullyOpaque⟩
          ⟨0, 0, 3, 1, 16⟩ levels = some (device, deviceRegion) ∧
        (prepared.forProjection ⟨1, ⟨0, 0, 2, 1⟩, 100, 1, .nearest⟩).1.borrow = some simulated ∧
        SameTexels device deviceRegion simulated (fullTextureRegion
          (prepared.forProjection ⟨1, ⟨0, 0, 2, 1⟩, 100, 1, .nearest⟩).1.size) := by
  have same : SameTexels
      ⟨⟨16, 1⟩, #[7, 8, 9, 0, 0, 0, 0, 0, 0, 0, 0, 0, 0, 0, 0, 0], .fullyOpaque⟩
      ⟨0, 0, 3, 1, 16⟩ ⟨⟨3, 1⟩, #[7, 8, 9], .fullyOpaque⟩ (fullTextureRegion ⟨3, 1⟩) :=
    ⟨⟨by decide, by decide⟩, rfl, rfl, fun v u inV => by
      obtain rfl : v = 0 := Nat.lt_one_iff.mp inV
      revert u
      decide, fun _ _ _ _ => rfl⟩
  obtain ⟨levels, prepared, built, ready, -, -, select⟩ := mip_levels_agree
    (show OwnedTexture.mips ⟨⟨3, 1⟩, #[7, 8, 9], .fullyOpaque, []⟩ = [] from rfl) rfl same
  obtain ⟨device, deviceRegion, simulated, selected, held, alike, -⟩ :=
    select ⟨1, ⟨0, 0, 2, 1⟩, 100, 1, .nearest⟩
  exact ⟨levels, prepared, built, ready, device, deviceRegion, simulated, selected, held, alike⟩

end Deskkin.Simulator
