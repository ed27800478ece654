/-
# Coverage as the renderer keeps it

The renderer keeps no plane of alpha values when all are 255, one bit a texel when all are
0 or 255, and the plane otherwise. Whatever it keeps, each texel has the value that it was
given.
-/

import Deskkin.Presentation.OpaqueBlocks
import Deskkin.Renderer.MipChain

namespace Deskkin.Renderer

open Presentation

namespace PreparedCoverage

variable {size : SourceSize} {alpha : Array UInt8}

/-- How coverage is kept, when there is a mask for it. -/
theorem new_of_masked {opaqueBlocks : Array UInt8}
    (masked : (alpha.all fun a => a = 255) = false)
    (built : buildOpaqueMask size alpha (Array.replicate (Mask8.bytesFor size) 0) =
      some (.ok (), opaqueBlocks)) :
    if (alpha.all fun a => a = 0 || a = 255) = true then
      ∃ bits, buildCutoutMask alpha (Array.replicate (divCeil alpha.size 8) 0) =
          some (.ok (), bits) ∧
        PreparedCoverage.new size alpha = some ⟨size, .cutout bits, opaqueBlocks⟩
    else PreparedCoverage.new size alpha = some ⟨size, .alpha8 alpha, opaqueBlocks⟩ := by
  split
  · rename_i binary
    have cleared : (Array.replicate (divCeil alpha.size 8) (0 : UInt8)).size =
        divCeil alpha.size 8 := Array.size_replicate
    obtain ⟨bits, packed, -⟩ := buildCutoutMask_packs cleared (any_of_all binary)
    refine ⟨bits, packed, ?_⟩
    rw [PreparedCoverage.new, if_neg (by rw [masked]; exact Bool.false_ne_true), built]
    simp only [Option.bind_eq_bind, Option.bind_some, Except.toOption, if_pos binary, packed]
    rfl
  · rename_i mixed
    rw [PreparedCoverage.new, if_neg (by rw [masked]; exact Bool.false_ne_true), built]
    simp only [Option.bind_eq_bind, Option.bind_some, Except.toOption, if_neg mixed]
    rfl

theorem borrow_of_mask {plane : CoveragePlane} {opaqueBlocks : Array UInt8}
    (nonempty : size.width ≠ 0 ∧ size.height ≠ 0)
    (length : opaqueBlocks.size = Mask8.bytesFor size) :
    borrow ⟨size, plane, opaqueBlocks⟩ = some (match plane with
      | .fullyOpaque => .fullyOpaque
      | .cutout bits => .cutout bits ⟨size, opaqueBlocks, nonempty, length⟩
      | .alpha8 alpha => .alpha8 alpha ⟨size, opaqueBlocks, nonempty, length⟩) := by
  cases plane <;> simp [borrow, mask_new nonempty length, Except.toOption]

/-- A mask can only be built for a plane with a value for each texel. -/
theorem mask_of_built {old bits : Array UInt8}
    (built : buildOpaqueMask size alpha old = some (.ok (), bits)) :
    (size.width ≠ 0 ∧ size.height ≠ 0) ∧ bits.size = Mask8.bytesFor size := by
  have plane := plane_of_built built
  by_cases rejected : size.width = 0 ∨ size.height = 0 ∨
      alpha.size ≠ size.width.toNat * size.height.toNat ∨ old.size ≠ Mask8.bytesFor size
  · rw [buildOpaqueMask, if_pos rejected] at built
    cases built
  · simp only [not_or, ne_eq, not_not] at rejected
    obtain ⟨noWidth, noHeight, -, length⟩ := rejected
    obtain ⟨_, ran, marks⟩ := buildOpaqueMask_marks ⟨noWidth, noHeight⟩ plane length
    rw [built] at ran
    cases ran
    exact ⟨⟨noWidth, noHeight⟩, marks.length⟩

/-- **What is kept shows the plane.** -/
theorem shows_of_new {prepared : PreparedCoverage}
    (made : PreparedCoverage.new size alpha = some prepared) :
    ∃ coverage, prepared.borrow = some coverage ∧ coverage.Shows size alpha := by
  cases masked : alpha.all fun a => a = 255 with
  | true =>
      rw [PreparedCoverage.new, if_pos masked] at made
      cases made
      exact ⟨.fullyOpaque, rfl, Coverage.shows_fullyOpaque masked⟩
  | false =>
      obtain ⟨opaqueBlocks, built⟩ : ∃ opaqueBlocks, buildOpaqueMask size alpha
          (Array.replicate (Mask8.bytesFor size) 0) = some (.ok (), opaqueBlocks) := by
        rw [PreparedCoverage.new, if_neg (by rw [masked]; exact Bool.false_ne_true)] at made
        rw [Option.bind_eq_bind, Option.bind_eq_some_iff] at made
        obtain ⟨⟨outcome, opaqueBlocks⟩, built, rest⟩ := made
        cases outcome with
        | error error => cases rest
        | ok _ => exact ⟨opaqueBlocks, built⟩
      obtain ⟨nonempty, length⟩ := mask_of_built built
      have kept := new_of_masked masked built
      split at kept
      · obtain ⟨bits, packed, new⟩ := kept
        rw [made, Option.some.injEq] at new
        subst new
        exact ⟨_, borrow_of_mask nonempty length, Coverage.shows_cutout packed rfl⟩
      · rw [made, Option.some.injEq] at kept
        subst kept
        exact ⟨_, borrow_of_mask nonempty length, Coverage.shows_alpha8 rfl⟩

/-- A plane with a value for each texel is kept. -/
theorem new_of_plane (nonempty : size.width ≠ 0 ∧ size.height ≠ 0)
    (plane : alpha.size = size.width.toNat * size.height.toNat) :
    ∃ prepared, PreparedCoverage.new size alpha = some prepared := by
  cases masked : alpha.all fun a => a = 255 with
  | true => exact ⟨_, if_pos masked⟩
  | false =>
      have cleared : (Array.replicate (Mask8.bytesFor size) (0 : UInt8)).size =
          Mask8.bytesFor size := Array.size_replicate
      obtain ⟨opaqueBlocks, built, -⟩ := buildOpaqueMask_marks nonempty plane cleared
      have kept := new_of_masked masked built
      split at kept
      · obtain ⟨bits, -, new⟩ := kept
        exact ⟨_, new⟩
      · exact ⟨_, kept⟩

end PreparedCoverage

/-- **Masks of opaque blocks are sound, and prepared coverage is the coverage.** A rectangle is
covered exactly when every texel of every block that it meets is opaque, and then it is opaque.
Whatever is kept of a plane, each texel has its value. -/
theorem opaqueBlocks_sound (size : SourceSize) (alpha : Array UInt8) :
    (∀ old, size.width ≠ 0 → size.height ≠ 0 →
      alpha.size = size.width.toNat * size.height.toNat → old.size = Mask8.bytesFor size →
        ∃ bits mask, buildOpaqueMask size alpha old = some (.ok (), bits) ∧
          Mask8.new size bits = .ok mask ∧
          ∀ left top right bottom, left ≤ right → top ≤ bottom → right < size.width.toNat →
            bottom < size.height.toNat →
              ∃ covered, mask.covers left top right bottom = some covered ∧
                (covered = true ↔ ∀ v u, v < size.height.toNat → u < size.width.toNat →
                  SharesBlock left top right bottom v u →
                    alpha[v * size.width.toNat + u]? = some 255) ∧
                (covered = true → ∀ v u, top ≤ v → v ≤ bottom → left ≤ u → u ≤ right →
                  alpha[v * size.width.toNat + u]? = some 255)) ∧
    (size.width ≠ 0 → size.height ≠ 0 → alpha.size = size.width.toNat * size.height.toNat →
      ∃ prepared, PreparedCoverage.new size alpha = some prepared) ∧
    ∀ prepared, PreparedCoverage.new size alpha = some prepared →
      ∃ coverage, prepared.borrow = some coverage ∧
        ∀ i, i < alpha.size → coverage.alphaAt i = alpha[i]? := by
  refine ⟨fun old noWidth noHeight plane length => ?_, fun noWidth noHeight plane => ?_,
    fun prepared made => ?_⟩
  · obtain ⟨bits, mask, built, new, covers⟩ := covers_built ⟨noWidth, noHeight⟩ plane length
    refine ⟨bits, mask, built, new, fun left top right bottom ordered above wide high => ?_⟩
    obtain ⟨covered, asked, meaning⟩ := covers left top right bottom ordered above wide high
    refine ⟨covered, asked, meaning, fun all v u low upTo from' until' => ?_⟩
    exact meaning.mp all v u (by omega) (by omega)
      (sharesBlock_self ⟨low, upTo⟩ ⟨from', until'⟩)
  · exact PreparedCoverage.new_of_plane ⟨noWidth, noHeight⟩ plane
  · obtain ⟨coverage, borrowed, shows⟩ := PreparedCoverage.shows_of_new made
    exact ⟨coverage, borrowed, shows.alphaAt⟩

/-- Nine texels in a row, of which the last one is half covered. -/
theorem opaqueBlocks_sound_row :
    (∃ bits mask, buildOpaqueMask ⟨9, 1⟩ #[255, 255, 255, 255, 255, 255, 255, 255, 128] #[0] =
        some (.ok (), bits) ∧ Mask8.new ⟨9, 1⟩ bits = .ok mask ∧
      mask.covers 2 0 7 0 = some true) ∧
    ∃ prepared coverage, PreparedCoverage.new ⟨9, 1⟩
        #[255, 255, 255, 255, 255, 255, 255, 255, 128] = some prepared ∧
      prepared.borrow = some coverage ∧ coverage.alphaAt 8 = some 128 := by
  obtain ⟨masks, keeps, shows⟩ := opaqueBlocks_sound ⟨9, 1⟩
    #[255, 255, 255, 255, 255, 255, 255, 255, 128]
  constructor
  · obtain ⟨bits, mask, built, new, covers⟩ := masks #[0] (by decide) (by decide) rfl
      (by decide +kernel)
    obtain ⟨covered, asked, meaning, -⟩ := covers 2 0 7 0 (by decide) (by decide) (by decide)
      (by decide)
    refine ⟨bits, mask, built, new, ?_⟩
    rw [asked, Option.some.injEq, meaning]
    intro v u inV inU shares
    rw [sharesBlock_iff (by decide) (by decide)] at shares
    obtain rfl : v = 0 := Nat.lt_one_iff.mp inV
    have narrow : u < 8 := by omega
    clear shares inU
    revert u
    decide
  · obtain ⟨prepared, made⟩ := keeps (by decide) (by decide) rfl
    obtain ⟨coverage, borrowed, same⟩ := shows prepared made
    exact ⟨prepared, coverage, made, borrowed, same 8 (by decide)⟩

end Deskkin.Renderer
