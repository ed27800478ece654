/-
# Masks of opaque blocks

A mask that was built from a plane of alpha values covers a rectangle of texels exactly when
every texel of every block that the rectangle meets is opaque. So a covered rectangle is
opaque, and one that is not covered may still be: only whole blocks count.

A coverage shows a plane when each texel has its value in the plane, whatever the coverage
keeps.
-/

import Deskkin.Presentation.PackedCutout

namespace Deskkin.Presentation

open Loops

/-! ## Covered rectangles -/

/-- A texel of the rectangle lies in the block of this texel. -/
def SharesBlock (left top right bottom v u : ℕ) : Prop :=
  ∃ row column, top ≤ row ∧ row ≤ bottom ∧ left ≤ column ∧ column ≤ right ∧
    row / 8 = v / 8 ∧ column / 8 = u / 8

/-- The blocks that a rectangle meets are those between its corners. -/
theorem sharesBlock_iff {left top right bottom v u : ℕ} (wide : left ≤ right)
    (high : top ≤ bottom) : SharesBlock left top right bottom v u ↔
      (top / 8 ≤ v / 8 ∧ v / 8 ≤ bottom / 8) ∧ left / 8 ≤ u / 8 ∧ u / 8 ≤ right / 8 := by
  constructor
  · rintro ⟨row, column, low, upTo, from', until', sameRow, sameColumn⟩
    omega
  · rintro ⟨⟨low, upTo⟩, from', until'⟩
    refine ⟨max top (v / 8 * 8), max left (u / 8 * 8), ?_⟩
    omega

theorem sharesBlock_self {left top right bottom v u : ℕ} (inV : top ≤ v ∧ v ≤ bottom)
    (inU : left ≤ u ∧ u ≤ right) : SharesBlock left top right bottom v u :=
  ⟨v, u, inV.1, inV.2, inU.1, inU.2, rfl, rfl⟩

namespace Mask8

/-- **A rectangle is covered when all bits of its blocks are set**, and only then. -/
theorem covers_eq (mask : Mask8) (left top : ℕ) {right bottom : ℕ}
    (wide : right < mask.size.width.toNat) (high : bottom < mask.size.height.toNat) :
    ∃ covered, mask.covers left top right bottom = some covered ∧
      (covered = true ↔ ∀ y x, top / 8 ≤ y → y ≤ bottom / 8 → left / 8 ≤ x → x ≤ right / 8 →
        bitAt mask.bits (y * divCeil mask.size.width.toNat 8 + x) = some true) := by
  obtain ⟨covered, asked, sound⟩ : ∃ covered, mask.covers left top right bottom = some covered ∧
      (covered = true → ∀ y x, top / 8 ≤ y → y ≤ bottom / 8 → left / 8 ≤ x → x ≤ right / 8 →
        bitAt mask.bits (y * divCeil mask.size.width.toNat 8 + x) = some true) :=
    covers_eq_some wide high
  refine ⟨covered, asked, sound, fun all => ?_⟩
  have rows : ∀ y ∈ List.range' (top / 8) (bottom / 8 + 1 - top / 8),
      ((List.range' (left / 8) (right / 8 + 1 - left / 8)).allM fun x =>
        bitAt mask.bits (y * divCeil mask.size.width.toNat 8 + x)) = some true := by
    intro y inY
    rw [List.mem_range'_1] at inY
    rw [allM_eq_some (q := fun _ => true), List.all_eq_true.mpr fun _ _ => rfl]
    intro x inX
    rw [List.mem_range'_1] at inX
    exact all y x (by omega) (by omega) (by omega) (by omega)
  have every : mask.covers left top right bottom = some true := by
    rw [covers, allM_eq_some (q := fun _ => true) rows, List.all_eq_true.mpr fun _ _ => rfl]
  rw [every] at asked
  exact (Option.some.inj asked).symm

end Mask8

theorem mask_new {size : SourceSize} {bits : Array UInt8}
    (nonempty : size.width ≠ 0 ∧ size.height ≠ 0) (length : bits.size = Mask8.bytesFor size) :
    Mask8.new size bits = .ok ⟨size, bits, nonempty, length⟩ := by
  rw [Mask8.new, dif_pos ⟨nonempty, length⟩]

section Built

variable {size : SourceSize} {alpha old : Array UInt8}

/-- **Covered rectangles**, for a mask that was built from a plane. -/
theorem covers_built (nonempty : size.width ≠ 0 ∧ size.height ≠ 0)
    (plane : alpha.size = size.width.toNat * size.height.toNat)
    (length : old.size = Mask8.bytesFor size) :
    ∃ bits mask, buildOpaqueMask size alpha old = some (.ok (), bits) ∧
      Mask8.new size bits = .ok mask ∧
      ∀ left top right bottom, left ≤ right → top ≤ bottom → right < size.width.toNat →
        bottom < size.height.toNat →
          ∃ covered, mask.covers left top right bottom = some covered ∧
            (covered = true ↔ ∀ v u, v < size.height.toNat → u < size.width.toNat →
              SharesBlock left top right bottom v u →
                alpha[v * size.width.toNat + u]? = some 255) := by
  obtain ⟨bits, ran, marks⟩ := buildOpaqueMask_marks nonempty plane length
  have made : Mask8.new size bits = .ok ⟨size, bits, nonempty, marks.length⟩ :=
    mask_new nonempty marks.length
  refine ⟨bits, _, ran, made, fun left top right bottom ordered above wide high => ?_⟩
  obtain ⟨covered, asked, meaning⟩ :=
    Mask8.covers_eq ⟨size, bits, nonempty, marks.length⟩ left top wide high
  refine ⟨covered, asked, meaning.trans ?_⟩
  dsimp only
  constructor
  · intro set v u inV inU shares
    obtain ⟨⟨low, upTo⟩, from', until'⟩ := (sharesBlock_iff ordered above).mp shares
    obtain ⟨bit, found, full⟩ := marks.marked (v / 8) (u / 8) (div_lt_divCeil inV (by decide))
      (div_lt_divCeil inU (by decide))
    rw [set _ _ low upTo from' until', Option.some.injEq] at found
    exact (full.mp found.symm).2 v u (by omega) (by omega) (by omega) (by omega)
  · intro all y x low upTo from' until'
    have inY : y < divCeil size.height.toNat 8 := by
      have last := div_lt_divCeil high (show 0 < 8 by decide)
      omega
    have inX : x < divCeil size.width.toNat 8 := by
      have last := div_lt_divCeil wide (show 0 < 8 by decide)
      omega
    obtain ⟨bit, found, full⟩ := marks.marked y x inY inX
    have block : BlockFull size alpha y x := by
      intro v u lowV highV lowU highU
      apply all v u (by omega) (by omega)
      rw [sharesBlock_iff ordered above]
      omega
    rw [found, full.mpr ⟨Or.inl inY, block⟩]

end Built

/-! ## Coverage that shows a plane -/

/-- A plane of 0 and 255 can be packed. -/
theorem any_of_all {alpha : Array UInt8}
    (binary : (alpha.all fun a => a = 0 || a = 255) = true) :
    (alpha.any fun a => a ≠ 0 && a ≠ 255) = false := by
  rw [Array.any_eq_false]
  intro i inside
  have here := Array.all_eq_true.mp binary i inside
  rw [Bool.or_eq_true, decide_eq_true_eq, decide_eq_true_eq] at here
  rcases here with clear | full
  · simp [clear]
  · simp [full]

namespace Coverage

/-- Each texel has its value in the plane. -/
structure Shows (coverage : Coverage) (size : SourceSize) (plane : Array UInt8) : Prop where
  alphaAt : ∀ i, i < plane.size → coverage.alphaAt i = plane[i]?
  contains : ∀ count, count ≤ plane.size → coverage.contains count = true
  blocks : ∀ blocks ∈ coverage.blocks, blocks.size = size

variable {size : SourceSize} {plane : Array UInt8}

/-- A plane of 255 need not be kept. -/
theorem shows_fullyOpaque (full : (plane.all fun a => a = 255) = true) :
    fullyOpaque.Shows size plane where
  alphaAt i inside := by
    rw [Array.all_eq_true] at full
    have here : plane[i] = 255 := of_decide_eq_true (full i inside)
    rw [Coverage.alphaAt, Array.getElem?_eq_getElem inside, here]
  contains _ _ := rfl
  blocks _ has := nomatch has

/-- One bit a texel is enough for a plane of 0 and 255. -/
theorem shows_cutout {old bits : Array UInt8} {blocks : Mask8}
    (packed : buildCutoutMask plane old = some (.ok (), bits)) (sameSize : blocks.size = size) :
    (cutout bits blocks).Shows size plane where
  alphaAt i inside :=
    show _ = (alpha8 plane blocks).alphaAt i from alphaAt_packed packed inside
  contains count upTo := by
    have length : bits.size = divCeil plane.size 8 := (packed_of_built packed).2.length
    rw [Coverage.contains, decide_eq_true_eq, length, divCeil, divCeil]
    omega
  blocks _ has := by
    cases has
    exact sameSize

theorem shows_alpha8 {blocks : Mask8} (sameSize : blocks.size = size) :
    (alpha8 plane blocks).Shows size plane where
  alphaAt _ _ := rfl
  contains count upTo := by rw [Coverage.contains, decide_eq_true_eq]; exact upTo
  blocks _ has := by
    cases has
    exact sameSize

end Coverage

end Deskkin.Presentation
