/-
# Pictures and their reductions

A picture is what is seen of a region: its size, and the color and coverage of each texel.
How a texture stores them does not matter. A picture is reduced to half its size, again and
again down to one texel, and for a rectangle on the screen the last of these pictures is
taken that is at least as large.
-/

import Deskkin.Presentation.MipAverages
import Deskkin.Presentation.OpaqueBlocks

namespace Deskkin.Presentation

open Grid

structure Picture where
  width : ℕ
  height : ℕ
  color : ℕ → ℕ → UInt16
  coverage : ℕ → ℕ → ℕ

namespace Picture

/-- The four texels for a place of the reduced picture. -/
def quad {α : Type} (self : Picture) (f : ℕ → ℕ → α) (y x : ℕ) : Corners α :=
  let right := min (x * 2 + 1) (self.width - 1)
  let below := min (y * 2 + 1) (self.height - 1)
  ⟨f (y * 2) (x * 2), f (y * 2) right, f below (x * 2), f below right⟩

def reduce (self : Picture) : Picture where
  width := (self.width + 1) / 2
  height := (self.height + 1) / 2
  color y x := averageColor (self.quad self.color y x) (self.quad self.coverage y x)
  coverage y x := (averageAlpha (self.quad self.coverage y x)).toNat

/-- The pictures down to one texel. -/
def reductions (self : Picture) : List Picture :=
  if self.width ≤ 1 ∧ self.height ≤ 1 then [] else self.reduce :: self.reduce.reductions
termination_by self.width + self.height
decreasing_by
  show (self.width + 1) / 2 + (self.height + 1) / 2 < self.width + self.height
  omega

theorem reductions_of_texel {picture : Picture} (last : picture.width ≤ 1 ∧ picture.height ≤ 1) :
    picture.reductions = [] := by
  rw [reductions, if_pos last]

theorem reductions_of_larger {picture : Picture}
    (more : ¬(picture.width ≤ 1 ∧ picture.height ≤ 1)) :
    picture.reductions = picture.reduce :: picture.reduce.reductions := by
  rw [reductions, if_neg more]

theorem reduce_smaller {picture : Picture} (more : ¬(picture.width ≤ 1 ∧ picture.height ≤ 1)) :
    picture.reduce.width + picture.reduce.height < picture.width + picture.height := by
  show (picture.width + 1) / 2 + (picture.height + 1) / 2 < picture.width + picture.height
  omega

/-- At least as large as the rectangle. -/
def AtLeast (width height : ℕ) (rect : ScreenRect) : Prop :=
  rect.width.toInt ≤ width ∧ rect.height.toInt ≤ height

instance (width height : ℕ) (rect : ScreenRect) : Decidable (AtLeast width height rect) :=
  inferInstanceAs (Decidable (_ ∧ _))

theorem AtLeast.mono {width height wide high : ℕ} {rect : ScreenRect}
    (fits : AtLeast width height rect) (wider : width ≤ wide) (higher : height ≤ high) :
    AtLeast wide high rect :=
  ⟨fits.1.trans (Int.ofNat_le.mpr wider), fits.2.trans (Int.ofNat_le.mpr higher)⟩

/-- The sources ask whether a side is shorter. -/
theorem not_smaller_iff {width height : ℕ} {rect : ScreenRect} :
    ¬((width : ℤ) < rect.width.toInt ∨ (height : ℤ) < rect.height.toInt) ↔
      AtLeast width height rect := by
  rw [not_or, not_lt, not_lt, AtLeast]

/-- The last picture before one that is too small. -/
def select (rect : ScreenRect) : Picture → List Picture → Picture
  | selected, [] => selected
  | selected, level :: levels =>
      if AtLeast level.width level.height rect then select rect level levels else selected

/-! ## Sizes -/

/-- **Reductions end with one texel.** -/
theorem reductions_last (picture : Picture) (nonempty : 0 < picture.width ∧ 0 < picture.height) :
    ∃ last, (picture :: picture.reductions).getLast? = some last ∧
      last.width = 1 ∧ last.height = 1 := by
  induction picture using reductions.induct with
  | case1 picture last =>
      rw [reductions_of_texel last]
      exact ⟨picture, rfl, by omega, by omega⟩
  | case2 picture more ih =>
      rw [reductions_of_larger more, List.getLast?_cons_cons]
      apply ih
      constructor
      · show 0 < (picture.width + 1) / 2
        omega
      · show 0 < (picture.height + 1) / 2
        omega

theorem reduce_le (picture : Picture) :
    picture.reduce.width ≤ picture.width ∧ picture.reduce.height ≤ picture.height := by
  show (picture.width + 1) / 2 ≤ picture.width ∧ (picture.height + 1) / 2 ≤ picture.height
  omega

/-- No reduction is larger than the picture. -/
theorem le_of_mem_reductions {picture level : Picture} (among : level ∈ picture.reductions) :
    level.width ≤ picture.width ∧ level.height ≤ picture.height := by
  induction picture using reductions.induct with
  | case1 picture last =>
      rw [reductions_of_texel last] at among
      cases among
  | case2 picture more ih =>
      have smaller := reduce_le picture
      rw [reductions_of_larger more, List.mem_cons] at among
      rcases among with rfl | later
      · exact smaller
      · exact ⟨(ih later).1.trans smaller.1, (ih later).2.trans smaller.2⟩

theorem le_of_mem {picture level : Picture} (among : level ∈ picture :: picture.reductions) :
    level.width ≤ picture.width ∧ level.height ≤ picture.height := by
  rcases List.mem_cons.mp among with rfl | later
  · exact ⟨Nat.le_refl _, Nat.le_refl _⟩
  · exact le_of_mem_reductions later

/-- The picture for a rectangle: at least as large, unless it is the first, and the smallest of
those. -/
structure SmallestFor (rect : ScreenRect) (first : Picture) (levels : List Picture)
    (chosen : Picture) : Prop where
  among : chosen ∈ first :: levels
  fits : chosen = first ∨ AtLeast chosen.width chosen.height rect
  smallest : ∀ level ∈ first :: levels, AtLeast level.width level.height rect →
    chosen.width ≤ level.width ∧ chosen.height ≤ level.height

/-- **The smallest picture that is large enough is selected.** -/
theorem select_smallest (rect : ScreenRect) (picture : Picture) :
    SmallestFor rect picture picture.reductions (select rect picture picture.reductions) := by
  induction picture using reductions.induct with
  | case1 picture last =>
      rw [reductions_of_texel last]
      exact ⟨List.mem_singleton.mpr rfl, Or.inl rfl, fun level among _ => by
        rw [List.mem_singleton.mp among]
        exact ⟨Nat.le_refl _, Nat.le_refl _⟩⟩
  | case2 picture more ih =>
      rw [reductions_of_larger more, select]
      by_cases large : AtLeast picture.reduce.width picture.reduce.height rect
      · rw [if_pos large]
        have chosen := le_of_mem ih.among
        have smaller := reduce_le picture
        refine ⟨List.mem_cons_of_mem _ ih.among, Or.inr ?_, fun level among fits => ?_⟩
        · rcases ih.fits with same | fits
          · rw [same]
            exact large
          · exact fits
        · rcases List.mem_cons.mp among with rfl | later
          · exact ⟨chosen.1.trans smaller.1, chosen.2.trans smaller.2⟩
          · exact ih.smallest level later fits
      · rw [if_neg large]
        refine ⟨List.mem_cons_self, Or.inl rfl, fun level among fits => ?_⟩
        rcases List.mem_cons.mp among with rfl | later
        · exact ⟨Nat.le_refl _, Nat.le_refl _⟩
        · have upTo := le_of_mem later
          exact absurd (fits.mono upTo.1 upTo.2) large

/-! ## Sizes of the source -/

structure HasSize (size : SourceSize) (picture : Picture) : Prop where
  width : size.width.toNat = picture.width
  height : size.height.toNat = picture.height

/-- The size of a level for a rectangle: at least as large, unless it is the first, and the
smallest of those. -/
structure SmallestSize (rect : ScreenRect) (first : SourceSize) (sizes : List SourceSize)
    (chosen : SourceSize) : Prop where
  among : chosen ∈ first :: sizes
  fits : chosen = first ∨ AtLeast chosen.width.toNat chosen.height.toNat rect
  smallest : ∀ size ∈ first :: sizes, AtLeast size.width.toNat size.height.toNat rect →
    chosen.width ≤ size.width ∧ chosen.height ≤ size.height

section Sizes

variable {first chosen : SourceSize} {sizes : List SourceSize} {picture other : Picture}
  {pictures : List Picture} {rect : ScreenRect}

theorem HasSize.inj (one : HasSize first picture) (two : HasSize chosen other)
    (width : picture.width = other.width) (height : picture.height = other.height) :
    first = chosen := by
  cases first
  cases chosen
  rw [SourceSize.mk.injEq]
  exact ⟨UInt16.toNat_inj.mp (one.width.trans (width.trans two.width.symm)),
    UInt16.toNat_inj.mp (one.height.trans (height.trans two.height.symm))⟩

variable (all : List.Forall₂ HasSize sizes pictures)
include all

theorem exists_size (among : picture ∈ pictures) : ∃ size ∈ sizes, HasSize size picture := by
  induction all with
  | nil => cases among
  | cons here _ ih =>
      rcases List.mem_cons.mp among with rfl | later
      · exact ⟨_, List.mem_cons_self, here⟩
      · obtain ⟨size, inSizes, has⟩ := ih later
        exact ⟨size, List.mem_cons_of_mem _ inSizes, has⟩

theorem exists_picture (among : chosen ∈ sizes) : ∃ picture ∈ pictures, HasSize chosen picture := by
  induction all with
  | nil => cases among
  | cons here _ ih =>
      rcases List.mem_cons.mp among with rfl | later
      · exact ⟨_, List.mem_cons_self, here⟩
      · obtain ⟨picture, inPictures, has⟩ := ih later
        exact ⟨picture, List.mem_cons_of_mem _ inPictures, has⟩

omit all in
theorem SmallestFor.size (smallest : SmallestFor rect picture pictures other)
    (all : List.Forall₂ HasSize (first :: sizes) (picture :: pictures))
    (has : HasSize chosen other) : SmallestSize rect first sizes chosen := by
  refine ⟨?_, ?_, fun size among fits => ?_⟩
  · obtain ⟨size, among, same⟩ := exists_size all smallest.among
    rw [has.inj same rfl rfl]
    exact among
  · rw [has.width, has.height]
    refine smallest.fits.imp_left fun same => ?_
    cases all with
    | cons here _ => exact has.inj here (by rw [same]) (by rw [same])
  · obtain ⟨level, inPictures, same⟩ := exists_picture all among
    rw [same.width, same.height] at fits
    have upTo := smallest.smallest level inPictures fits
    rw [UInt16.le_iff_toNat_le, UInt16.le_iff_toNat_le, has.width, has.height, same.width,
      same.height]
    exact upTo

theorem getLast?_size
    (last : ∃ last, pictures.getLast? = some last ∧ last.width = 1 ∧ last.height = 1) :
    sizes.getLast? = some ⟨1, 1⟩ := by
  obtain ⟨last, isLast, width, height⟩ := last
  induction all with
  | nil => cases isLast
  | @cons size level sizes levels here rest ih =>
      cases rest with
      | nil =>
          cases isLast
          have texel : HasSize ⟨1, 1⟩ ⟨1, 1, fun _ _ => 0, fun _ _ => 0⟩ := ⟨rfl, rfl⟩
          rw [here.inj texel width height]
          rfl
      | cons next rest =>
          rw [List.getLast?_cons_cons] at isLast ⊢
          exact ih isLast

end Sizes

/-! ## Textures that show a picture -/

/-- The region of the texture is the picture. -/
structure ShownBy (picture : Picture) (texture : Texture) (region : TextureRegion) : Prop where
  valid : validateTexture texture region = .ok ()
  width : region.width.toNat = picture.width
  height : region.height.toNat = picture.height
  color : ∀ v u, v < picture.height → u < picture.width →
    colorIn texture region v u = picture.color v u
  coverage : ∀ v u, v < picture.height → u < picture.width →
    coverageIn texture region v u = picture.coverage v u

/-- Storage for a reduction: rows of `stride` texels, and coverage with the values of a plane. -/
structure Stores (coverage : Coverage) (size : SourceSize) (width : UInt16)
    (plane : Array UInt8) : Prop where
  alphaAt : ∀ v u, v < size.height.toNat → u < width.toNat →
    coverage.alphaAt (v * size.width.toNat + u) = plane[v * size.width.toNat + u]?
  contains : ∀ count, count ≤ plane.size → coverage.contains count = true
  blocks : ∀ blocks ∈ coverage.blocks, blocks.size = size

section Shown

variable {picture : Picture} {texture : Texture} {region : TextureRegion}

theorem ShownBy.quad {α : Type} (shown : picture.ShownBy texture region) {f g : ℕ → ℕ → α}
    {y x : ℕ} (inY : y < (half region.height).toNat) (inX : x < (half region.width).toNat)
    (same : ∀ v u, v < picture.height → u < picture.width → f v u = g v u) :
    region.quad f y x = picture.quad g y x := by
  have inside : ∀ v u, v < region.height.toNat → u < region.width.toNat → f v u = g v u := by
    rw [shown.width, shown.height]
    exact same
  rw [quad_congr inY inX inside, TextureRegion.quad, Picture.quad, shown.width, shown.height]

/-- A region that starts its texture is valid when the texture has all of its rows. -/
theorem validateTexture_whole {width height stride : UInt16} {colors : Array UInt16}
    {coverage : Coverage} (nonempty : width ≠ 0 ∧ height ≠ 0) (wide : width ≤ stride)
    (colorSize : colors.size = stride.toNat * height.toNat)
    (contains : coverage.contains ((height.toNat - 1) * stride.toNat + width.toNat) = true)
    (blocks : ∀ blocks ∈ coverage.blocks, blocks.size = ⟨stride, height⟩) :
    validateTexture ⟨⟨stride, height⟩, colors, coverage⟩ ⟨0, 0, width, height, stride⟩ =
      .ok () := by
  have widthUpTo := UInt16.le_iff_toNat_le.mp wide
  have positive : 0 < height.toNat :=
    Nat.pos_of_ne_zero fun zero => nonempty.2 (UInt16.toNat_inj.mp zero)
  have required : (height.toNat - 1) * stride.toNat + width.toNat ≤ colors.size := by
    rw [colorSize]
    exact required_le widthUpTo (Nat.le_refl _) positive
  have sameSize : coverage.blocks.any (fun blocks => blocks.size ≠ ⟨stride, height⟩) = false := by
    cases has : coverage.blocks with
    | none => rfl
    | some mask => simp [blocks mask has]
  have origin : ∀ length : UInt16, (0 : UInt16).toNat + length.toNat = length.toNat :=
    fun length => Nat.zero_add _
  rw [validateTexture, if_neg]
  · rw [Coverage.validate, if_neg (by rw [sameSize]; exact Bool.false_ne_true)]
  · simp only [origin]
    simp [nonempty.1, nonempty.2, contains]
    omega

/-- **A stored reduction shows the reduced picture.** -/
theorem ShownBy.reduce (shown : picture.ShownBy texture region) {stride : UInt16}
    {colors : Array UInt16} {alpha : Array UInt8} {coverage : Coverage}
    (result : IsReduction texture region stride colors alpha) (wide : half region.width ≤ stride)
    (stores : Stores coverage ⟨stride, half region.height⟩ (half region.width) alpha) :
    picture.reduce.ShownBy ⟨⟨stride, half region.height⟩, colors, coverage⟩
      ⟨0, 0, half region.width, half region.height, stride⟩ := by
  have fits := regionFits_of_validate shown.valid
  have width := toNat_half region.width
  have height := toNat_half region.height
  have heightPositive := fits.height_pos
  have required : ((half region.height).toNat - 1) * stride.toNat + (half region.width).toNat ≤
      alpha.size := by
    rw [result.alphaSize]
    exact required_le (UInt16.le_iff_toNat_le.mp wide) (Nat.le_refl _) (by omega)
  have texel : ∀ v u, (⟨0, 0, half region.width, half region.height, stride⟩ :
      TextureRegion).texel v u = v * stride.toNat + u := fun v u => by
    rw [TextureRegion.texel, UInt16.toNat_zero, Nat.zero_add, Nat.zero_add]
  refine ⟨validateTexture_whole fits.half_nonempty wide result.colorSize
    (stores.contains _ required)
      stores.blocks, ?_, ?_, fun v u inV inU => ?_, fun v u inV inU => ?_⟩
  · rw [width, shown.width]
    rfl
  · rw [height, shown.height]
    rfl
  all_goals
    have inV : v < (half region.height).toNat := by
      rw [height, shown.height]
      exact inV
    have inU : u < (half region.width).toNat := by
      rw [width, shown.width]
      exact inU
    obtain ⟨colorIs, alphaIs⟩ := result.texels v u inV inU
  · rw [colorIn, texel, colorIs, Option.getD_some, shown.quad inV inU shown.color,
      shown.quad inV inU shown.coverage]
    rfl
  · rw [coverageIn, texel, stores.alphaAt v u inV inU, alphaIs, Option.getD_some,
      shown.quad inV inU shown.coverage]
    rfl

end Shown

end Picture

end Deskkin.Presentation
