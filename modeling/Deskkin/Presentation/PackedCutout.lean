/-
# Packed coverage

A plane of which every value is 0 or 255 may be packed, one bit a texel. The texture with
the bits looks like the one with the plane, so scenes, bands and reductions are the same
with either.
-/

import Deskkin.Presentation.AlikeScenes

namespace Deskkin.Presentation

open Loops Grid

/-! ## The bits -/

section Pack

variable {alpha bits old : Array UInt8}

/-- The texels before this one have been packed. -/
structure PackedBefore (alpha : Array UInt8) (index : ℕ) (bits : Array UInt8) : Prop where
  length : bits.size = divCeil alpha.size 8
  packed : ∀ i, i < alpha.size →
    bitAt bits i = some (decide (i < index ∧ alpha[i]? = some 255))

theorem bit_in_length {i : ℕ} (length : bits.size = divCeil alpha.size 8)
    (inside : i < alpha.size) : i < bits.size * 8 := by
  rw [length, divCeil]
  omega

theorem packedBefore_cleared (length : old.size = divCeil alpha.size 8) :
    PackedBefore alpha 0 (old.map fun _ => 0) where
  length := by rw [Array.size_map, length]
  packed i inside := by
    have bit := bit_in_length length inside
    rw [bitAt, Array.getElem?_map, Array.getElem?_eq_getElem (by omega)]
    simp

theorem PackedBefore.pack {index : ℕ} (before : PackedBefore alpha index bits)
    (inside : index < alpha.size) : Ensures (do
      let a ← alpha[index]?
      if a = 255 then setBit bits index else some bits) (PackedBefore alpha (index + 1)) := by
  have found : alpha[index]? = some alpha[index] := Array.getElem?_eq_getElem inside
  apply Ensures.step found
  split
  · rename_i full
    obtain ⟨next, set⟩ : ∃ next, setBit bits index = some next := by
      have bit := bit_in_length before.length inside
      rw [setBit, Array.getElem?_eq_getElem (by omega)]
      exact ⟨_, rfl⟩
    refine ⟨next, set, (size_setBit set).trans before.length, fun i inAlpha => ?_⟩
    rw [bitAt_setBit set]
    by_cases here : i = index
    · subst here
      rw [if_pos rfl, found, full]
      simp
    · have order : i < index ↔ i < index + 1 := by omega
      rw [if_neg here, before.packed i inAlpha]
      simp only [order]
  · rename_i clear
    refine .value ⟨before.length, fun i inAlpha => ?_⟩
    rw [before.packed i inAlpha]
    by_cases here : i = index
    · subst here
      simp [found, clear]
    · have order : i < index ↔ i < index + 1 := by omega
      simp only [order]

/-- **Every texel keeps its coverage in its bit.** -/
theorem buildCutoutMask_packs (length : old.size = divCeil alpha.size 8)
    (binary : (alpha.any fun a => a ≠ 0 && a ≠ 255) = false) :
    ∃ bits, buildCutoutMask alpha old = some (.ok (), bits) ∧
      PackedBefore alpha alpha.size bits := by
  have texels : ∀ index bits, 0 ≤ index → index < 0 + alpha.size →
      PackedBefore alpha index bits → Ensures (do
        let a ← alpha[index]?
        if a = 255 then setBit bits index else some bits) (PackedBefore alpha (index + 1)) :=
    fun index bits _ upper before => before.pack (by omega)
  obtain ⟨bits, ran, packed⟩ := forRange_rule (PackedBefore alpha) (packedBefore_cleared length)
    texels
  rw [Nat.zero_add] at packed
  refine ⟨bits, ?_, packed⟩
  have accepted : ¬(old.size ≠ divCeil alpha.size 8 ∨
      (alpha.any fun a => a ≠ 0 && a ≠ 255) = true) := by
    simp only [not_or, ne_eq, not_not, Bool.not_eq_true]
    exact ⟨length, binary⟩
  rw [buildCutoutMask, if_neg accepted, ran]
  rfl

/-- What is packed was binary, and all of it is in the bits. -/
theorem packed_of_built (built : buildCutoutMask alpha old = some (.ok (), bits)) :
    (∀ (i : ℕ) (a : UInt8), alpha[i]? = some a → a = 0 ∨ a = 255) ∧
      PackedBefore alpha alpha.size bits := by
  by_cases rejected : old.size ≠ divCeil alpha.size 8 ∨
      (alpha.any fun a => a ≠ 0 && a ≠ 255) = true
  · rw [buildCutoutMask, if_pos rejected] at built
    cases built
  · rw [not_or, ne_eq, not_not, Bool.not_eq_true] at rejected
    obtain ⟨length, binary⟩ := rejected
    obtain ⟨_, ran, packed⟩ := buildCutoutMask_packs length binary
    rw [built] at ran
    cases ran
    refine ⟨fun i a found => ?_, packed⟩
    obtain ⟨inside, value⟩ := Array.getElem?_eq_some_iff.mp found
    rw [Array.any_eq_false] at binary
    have here := binary i inside
    rw [value] at here
    simp only [ne_eq, Bool.and_eq_true, decide_eq_true_eq, not_and, not_not] at here
    by_cases clear : a = 0
    · exact Or.inl clear
    · exact Or.inr (here clear)

end Pack

/-! ## The textures -/

/-- A texture with the bits that were packed from the plane of another. -/
structure PackedFrom (plane packed : Texture) : Prop where
  size : packed.size = plane.size
  pixels : packed.pixels = plane.pixels
  coverage : ∃ alpha bits blocks, plane.coverage = .alpha8 alpha blocks ∧
    packed.coverage = .cutout bits blocks ∧ blocks.size = plane.size ∧
    (∃ old, buildCutoutMask alpha old = some (.ok (), bits)) ∧
    ∃ old, buildOpaqueMask plane.size alpha old = some (.ok (), blocks.bits)

/-- A mask of opaque blocks is built for a plane with a value for each texel. -/
theorem plane_of_built {size : SourceSize} {alpha old bits : Array UInt8}
    (built : buildOpaqueMask size alpha old = some (.ok (), bits)) :
    alpha.size = size.width.toNat * size.height.toNat := by
  rw [buildOpaqueMask] at built
  split at built
  · cases built
  · rename_i accepted
    simp only [not_or, ne_eq, not_not] at accepted
    exact accepted.2.2.1

/-- Every texel of the plane has the same coverage in its bit. -/
theorem alphaAt_packed {alpha old bits : Array UInt8} {blocks other : Mask8} {i : ℕ}
    (built : buildCutoutMask alpha old = some (.ok (), bits)) (inside : i < alpha.size) :
    (Coverage.cutout bits blocks).alphaAt i = (Coverage.alpha8 alpha other).alphaAt i := by
  obtain ⟨binary, packed⟩ := packed_of_built built
  have found : alpha[i]? = some alpha[i] := Array.getElem?_eq_getElem inside
  rw [Coverage.alphaAt, Coverage.alphaAt, packed.packed i inside, found, Option.map_some]
  rcases binary i _ found with clear | full
  · rw [clear]
    simp
  · rw [full]
    simp [inside]

/-- **A packed texture looks like the one with the plane.** -/
theorem PackedFrom.alike {plane packed : Texture} (same : PackedFrom plane packed) :
    Alike plane packed := by
  obtain ⟨alpha, bits, blocks, planeCoverage, packedCoverage, -, ⟨old, built⟩, _, marked⟩ :=
    same.coverage
  have texels : alpha.size = plane.size.width.toNat * plane.size.height.toNat :=
    plane_of_built marked
  have length : bits.size = divCeil alpha.size 8 := (packed_of_built built).2.length
  have contains : ∀ count, count ≤ plane.size.width.toNat * plane.size.height.toNat →
      packed.coverage.contains count = plane.coverage.contains count := by
    intro count upTo
    have enough : divCeil count 8 ≤ bits.size := by
      rw [length, divCeil, divCeil]
      omega
    rw [packedCoverage, planeCoverage, Coverage.contains, Coverage.contains, decide_eq_true enough,
      decide_eq_true (texels ▸ upTo)]
  refine ⟨fun region => ?_, ?_, fun region v u fits inV inU => ?_,
    fun region v u _ _ _ _ => ?_⟩
  · exact (validateTexture_congr same.size (fun count _ => by rw [same.pixels]) contains
      (by rw [packedCoverage, planeCoverage]; rfl) region).symm
  · rw [packedCoverage, planeCoverage]
    rfl
  · have held := fits.coverage
    rw [planeCoverage, Coverage.contains, decide_eq_true_eq] at held
    have inside : region.texel v u < alpha.size :=
      (RegionFits.texel_lt inV inU).trans_le held
    rw [coverageIn, coverageIn, planeCoverage, packedCoverage, alphaAt_packed built inside]
  · rw [colorIn, colorIn, same.pixels]

/-- A board as it is, or with its plane packed. -/
def PackedBoard (a b : SceneBillboard) : Prop :=
  b = a ∨ (b.projected = a.projected ∧ b.region = a.region ∧ PackedFrom a.texture b.texture)

theorem PackedBoard.alike {a b : SceneBillboard} (board : PackedBoard a b) : AlikeBoard a b := by
  rcases board with rfl | ⟨projected, region, texture⟩
  · exact ⟨rfl, rfl, .refl _⟩
  · exact ⟨projected.symm, region.symm, texture.alike⟩

/-- **Packed coverage is the coverage of the plane.** With any boards packed a scene has the same
pixels and statistics, at once or in bands, and what a texture is reduced to stays. -/
theorem packed_renders_alike (boards others : List SceneBillboard)
    (packed : List.Forall₂ PackedBoard boards others) (background : Background) (wire : Bool)
    (occlusion : Occlusion) :
    (∀ stride pixels, rasterScene stride others background wire occlusion pixels =
      rasterScene stride boards background wire occlusion pixels) ∧
    (∀ checks room columns bands,
      renderBands checks wire others background occlusion room columns bands =
        renderBands checks wire boards background occlusion room columns bands) ∧
    ∀ plane cutout, PackedFrom plane cutout → ∀ region stride colors alpha,
      downsample cutout region stride colors alpha =
        downsample plane region stride colors alpha := by
  have alike : List.Forall₂ AlikeBoard boards others := packed.imp fun _ _ board => board.alike
  refine ⟨fun stride pixels => ?_, fun checks room columns bands => ?_,
    fun plane cutout same region stride colors alpha => ?_⟩
  · exact (rasterScene_alike alike).symm
  · exact (renderBands_alike alike).symm
  · exact (downsample_alike same.alike region stride colors alpha).symm

theorem nineTexels_nonempty :
    (⟨9, 1⟩ : SourceSize).width ≠ 0 ∧ (⟨9, 1⟩ : SourceSize).height ≠ 0 := by
  decide

theorem nineTexels_length : (#[2] : Array UInt8).size = Mask8.bytesFor ⟨9, 1⟩ := by
  decide

/-- Nine texels in a row, every other one of them clear: the last is a block of its own. -/
def stripes (coverage : Mask8 → Coverage) : Texture :=
  ⟨⟨9, 1⟩, Array.replicate 9 0x1234,
    coverage ⟨⟨9, 1⟩, #[2], nineTexels_nonempty, nineTexels_length⟩⟩

def stripedBoard : SceneBillboard where
  projected := ⟨2, ⟨8, 0, 18, 16⟩, 0, 1, .nearest⟩
  texture := stripes (.alpha8 #[255, 0, 255, 0, 255, 0, 255, 0, 255])
  region := ⟨0, 0, 9, 1, 9⟩
  valid := by decide
  positive := by decide

/-- The bits of the row go over the end of a byte. -/
def packedBoard : SceneBillboard where
  projected := stripedBoard.projected
  texture := stripes (.cutout #[85, 1])
  region := stripedBoard.region
  valid := by decide
  positive := by decide

theorem packed_renders_alike_striped :
    (rasterScene 320 [tileBoard, packedBoard] ⟨fun _ => #v[1, 2, 3, 4]⟩ true
        ⟨.eight, Array.replicate 1200 0, Array.size_replicate⟩ (Array.replicate 76800 0) =
      rasterScene 320 [tileBoard, stripedBoard] ⟨fun _ => #v[1, 2, 3, 4]⟩ true
        ⟨.eight, Array.replicate 1200 0, Array.size_replicate⟩ (Array.replicate 76800 0)) ∧
    downsample packedBoard.texture packedBoard.region 1 #[0] #[0] =
      downsample stripedBoard.texture packedBoard.region 1 #[0] #[0] := by
  have same : PackedFrom stripedBoard.texture packedBoard.texture :=
    ⟨rfl, rfl, _, _, _, rfl, rfl, rfl, ⟨#[0, 0], by decide +kernel⟩, ⟨#[0], by decide +kernel⟩⟩
  obtain ⟨scenes, -, reduced⟩ := packed_renders_alike [tileBoard, stripedBoard]
    [tileBoard, packedBoard] (.cons (.inl rfl) (.cons (.inr ⟨rfl, rfl, same⟩) .nil))
    ⟨fun _ => #v[1, 2, 3, 4]⟩ true ⟨.eight, Array.replicate 1200 0, Array.size_replicate⟩
  exact ⟨scenes 320 _, reduced _ _ same _ _ _ _⟩

end Deskkin.Presentation
