/-
# Textures and their coverage

A texture has a color for each texel and a coverage: everything, one bit a texel, or
an alpha value a texel. Beside the latter two stands a mask of the 8x8 blocks that
are opaque all over. A read outside a buffer is a panic, which is `none`.
-/

import Deskkin.Lib.Grid
import Deskkin.Lib.Loops

namespace Deskkin.Presentation

open Loops Grid

inductive RasterError
  | invalidFramebuffer
  | invalidTexture
  | invalidMask
  | invalidOrder
  | insufficientScratch
  deriving DecidableEq

structure SourceSize where
  width : UInt16
  height : UInt16
  deriving DecidableEq

def divCeil (a b : ℕ) : ℕ := (a + b - 1) / b

theorem div_lt_divCeil {i n b : ℕ} (inside : i < n) (positive : 0 < b) : i / b < divCeil n b := by
  have next : (i + b) / b = i / b + 1 := Nat.add_div_right i positive
  have upTo : (i + b) / b ≤ divCeil n b := Nat.div_le_div_right (by omega)
  omega

/-- A row-major index stays within its rows. -/
theorem rowMajor_lt {width height v u : ℕ} (inV : v < height) (inU : u < width) :
    v * width + u < width * height :=
  calc v * width + u
      < (v + 1) * width := by rw [Nat.succ_mul]; omega
    _ ≤ height * width := Nat.mul_le_mul_right _ inV
    _ = width * height := Nat.mul_comm _ _

/-! ## Bits -/

/-- The bit with this number, least significant first. -/
def bitAt (bits : Array UInt8) (index : ℕ) : Option Bool :=
  bits[index / 8]?.map fun byte => byte.toNat.testBit (index % 8)

def setBit (bits : Array UInt8) (index : ℕ) : Option (Array UInt8) :=
  bits[index / 8]?.map fun byte =>
    bits.setIfInBounds (index / 8) (byte ||| (1 <<< UInt8.ofNat (index % 8)))

theorem testBit_or_shiftLeft (byte : UInt8) {k : ℕ} (small : k < 8) (j : ℕ) :
    (byte ||| (1 <<< UInt8.ofNat k)).toNat.testBit j =
      (byte.toNat.testBit j || decide (j = k)) := by
  have powers : ∀ k < 8, (1 <<< UInt8.ofNat k : UInt8).toNat = 2 ^ k := by decide
  rw [UInt8.toNat_or, Nat.testBit_or, powers k small, Nat.testBit_two_pow]
  simp [eq_comm]

theorem bitAt_setBit {bits next : Array UInt8} {index : ℕ} (set : setBit bits index = some next)
    (other : ℕ) : bitAt next other = if other = index then some true else bitAt bits other := by
  obtain ⟨byte, found, rfl⟩ := Option.map_eq_some_iff.mp set
  obtain ⟨inside, -⟩ := Array.getElem?_eq_some_iff.mp found
  rw [bitAt, bitAt, Array.getElem?_setIfInBounds]
  by_cases sameByte : index / 8 = other / 8
  · rw [if_pos sameByte, if_pos inside, ← sameByte, found, Option.map_some, Option.map_some,
      testBit_or_shiftLeft byte (Nat.mod_lt _ (by decide))]
    by_cases same : other = index
    · simp [same]
    · have apart : other % 8 ≠ index % 8 := by omega
      simp [same, apart]
  · have apart : other ≠ index := by
      rintro rfl
      exact sameByte rfl
    rw [if_neg sameByte, if_neg apart]

theorem bitAt_of_lt {bits : Array UInt8} {index : ℕ} (inside : index < bits.size * 8) :
    ∃ set, bitAt bits index = some set := by
  have byte : index / 8 < bits.size := by omega
  rw [bitAt, Array.getElem?_eq_getElem byte]
  exact ⟨_, rfl⟩

/-! ## Opaque blocks -/

/-- The number of bytes with a bit for each 8x8 block. -/
def Mask8.bytesFor (size : SourceSize) : ℕ :=
  divCeil (divCeil size.width.toNat 8 * divCeil size.height.toNat 8) 8

/-- One bit for each 8x8 block of the texture, row by row. -/
structure Mask8 where
  size : SourceSize
  bits : Array UInt8
  nonempty : size.width ≠ 0 ∧ size.height ≠ 0
  length : bits.size = Mask8.bytesFor size

namespace Mask8

theorem block_lt_bytesFor {size : SourceSize} {y x : ℕ} (inY : y < divCeil size.height.toNat 8)
    (inX : x < divCeil size.width.toNat 8) :
    y * divCeil size.width.toNat 8 + x < bytesFor size * 8 := by
  have byte := div_lt_divCeil (rowMajor_lt inY inX) (show 0 < 8 by decide)
  rw [← bytesFor] at byte
  omega

protected def new (size : SourceSize) (bits : Array UInt8) : Except RasterError Mask8 :=
  if valid : (size.width ≠ 0 ∧ size.height ≠ 0) ∧ bits.size = bytesFor size then
    .ok ⟨size, bits, valid.1, valid.2⟩
  else .error .invalidMask

/-- All blocks that the rectangle of texels meets are set. -/
def covers (self : Mask8) (left top right bottom : ℕ) : Option Bool :=
  let stride := divCeil self.size.width.toNat 8
  (List.range' (top / 8) (bottom / 8 + 1 - top / 8)).allM fun y =>
    (List.range' (left / 8) (right / 8 + 1 - left / 8)).allM fun x =>
      bitAt self.bits (y * stride + x)

/-- Rectangles within the texture are looked up, and are covered when all their blocks
are set. -/
theorem covers_eq_some {mask : Mask8} {left top right bottom : ℕ}
    (wide : right < mask.size.width.toNat) (high : bottom < mask.size.height.toNat) :
    ∃ covered, mask.covers left top right bottom = some covered ∧
      (covered = true → ∀ y x, top / 8 ≤ y → y ≤ bottom / 8 → left / 8 ≤ x → x ≤ right / 8 →
        bitAt mask.bits (y * divCeil mask.size.width.toNat 8 + x) = some true) := by
  have lookedUp : ∀ y x, y ≤ bottom / 8 → x ≤ right / 8 →
      bitAt mask.bits (y * divCeil mask.size.width.toNat 8 + x) =
        some (decide (bitAt mask.bits (y * divCeil mask.size.width.toNat 8 + x) = some true)) := by
    intro y x inY inX
    have lastRow := div_lt_divCeil high (show 0 < 8 by decide)
    have lastColumn := div_lt_divCeil wide (show 0 < 8 by decide)
    have bit := block_lt_bytesFor (show y < divCeil mask.size.height.toNat 8 by omega)
      (show x < divCeil mask.size.width.toNat 8 by omega)
    rw [← mask.length] at bit
    obtain ⟨set, found⟩ := bitAt_of_lt bit
    rw [found]
    cases set <;> rfl
  have rows : ∀ y ∈ List.range' (top / 8) (bottom / 8 + 1 - top / 8),
      ((List.range' (left / 8) (right / 8 + 1 - left / 8)).allM fun x =>
        bitAt mask.bits (y * divCeil mask.size.width.toNat 8 + x)) =
      some ((List.range' (left / 8) (right / 8 + 1 - left / 8)).all fun x =>
        bitAt mask.bits (y * divCeil mask.size.width.toNat 8 + x) = some true) := by
    intro y inY
    rw [List.mem_range'_1] at inY
    apply allM_eq_some
    intro x inX
    rw [List.mem_range'_1] at inX
    exact lookedUp y x (by omega) (by omega)
  refine ⟨_, allM_eq_some rows, fun covered y x lowY highY lowX highX => ?_⟩
  rw [List.all_eq_true] at covered
  have row := covered y (List.mem_range'_1.mpr (by omega))
  rw [List.all_eq_true] at row
  exact of_decide_eq_true (row x (List.mem_range'_1.mpr (by omega)))

end Mask8

/-- Mark a block if all its texels have alpha 255. Edge blocks end with the texture. -/
def markBlock (size : SourceSize) (alpha : Array UInt8) (blockY blockX : ℕ) (bits : Array UInt8) :
    Option (Array UInt8) := do
  let width := size.width.toNat
  let full ← (List.range' (blockY * 8)
      (min ((blockY + 1) * 8) size.height.toNat - blockY * 8)).allM fun y => do
    let row ← slice? alpha (y * width + blockX * 8) (y * width + min ((blockX + 1) * 8) width)
    return row.all fun a => a = 255
  if full then setBit bits (blockY * divCeil width 8 + blockX) else some bits

def buildOpaqueMask (size : SourceSize) (alpha bits : Array UInt8) :
    Option (Except RasterError Unit × Array UInt8) :=
  if size.width = 0 ∨ size.height = 0 ∨
      alpha.size ≠ size.width.toNat * size.height.toNat ∨ bits.size ≠ Mask8.bytesFor size then
    some (.error .invalidMask, bits)
  else do
    let bits ← forRange (fun blockY =>
      forRange (markBlock size alpha blockY) 0 (divCeil size.width.toNat 8))
      0 (divCeil size.height.toNat 8) (bits.map fun _ => 0)
    return (.ok (), bits)

/-- Pack a plane of which every value is 0 or 255, one bit a texel. -/
def buildCutoutMask (alpha bits : Array UInt8) : Option (Except RasterError Unit × Array UInt8) :=
  if bits.size ≠ divCeil alpha.size 8 ∨ alpha.any fun a => a ≠ 0 && a ≠ 255 then
    some (.error .invalidMask, bits)
  else do
    let bits ← forRange (fun index bits => do
      let a ← alpha[index]?
      if a = 255 then setBit bits index else some bits) 0 alpha.size (bits.map fun _ => 0)
    return (.ok (), bits)

/-- Every texel of the block has alpha 255; edge blocks end with the texture. -/
def BlockFull (size : SourceSize) (alpha : Array UInt8) (blockY blockX : ℕ) : Prop :=
  ∀ v u, blockY * 8 ≤ v → v < min ((blockY + 1) * 8) size.height.toNat →
    blockX * 8 ≤ u → u < min ((blockX + 1) * 8) size.width.toNat →
      alpha[v * size.width.toNat + u]? = some 255

section Build

variable {size : SourceSize} {alpha : Array UInt8}

theorem extract_all {a b : ℕ} (fits : b ≤ alpha.size) :
    ((alpha.extract a b).all fun value => value = 255) = true ↔
      ∀ i, a ≤ i → i < b → alpha[i]? = some 255 := by
  rw [Array.all_eq_true]
  constructor
  · intro all i lower upper
    have here := all (i - a) (by rw [Array.size_extract]; omega)
    rw [Array.getElem_extract] at here
    rw [Array.getElem?_eq_getElem (by omega)]
    simpa [show a + (i - a) = i by omega] using here
  · intro all k inside
    rw [Array.size_extract] at inside
    have here := all (a + k) (by omega) (by omega)
    obtain ⟨_, value⟩ := Array.getElem?_eq_some_iff.mp here
    rw [Array.getElem_extract, value]
    rfl

variable {blockY blockX : ℕ} {bits : Array UInt8}

/-- The rows of a block are scanned within the alpha plane. -/
theorem scan_block (plane : alpha.size = size.width.toNat * size.height.toNat)
    (ordered : blockX * 8 ≤ size.width.toNat) :
    ∃ full, ((List.range' (blockY * 8)
        (min ((blockY + 1) * 8) size.height.toNat - blockY * 8)).allM fun y => do
          let row ← slice? alpha (y * size.width.toNat + blockX * 8)
            (y * size.width.toNat + min ((blockX + 1) * 8) size.width.toNat)
          return row.all fun a => a = 255) = some full ∧
      (full = true ↔ BlockFull size alpha blockY blockX) := by
  have rows : ∀ y, y < size.height.toNat →
      y * size.width.toNat + size.width.toNat ≤ alpha.size := by
    intro y inside
    rw [plane]
    calc y * size.width.toNat + size.width.toNat
        = size.width.toNat * (y + 1) := by rw [Nat.mul_add_one, Nat.mul_comm]
      _ ≤ size.width.toNat * size.height.toNat := Nat.mul_le_mul_left _ inside
  have scanned : ∀ y ∈ List.range' (blockY * 8)
      (min ((blockY + 1) * 8) size.height.toNat - blockY * 8),
      (do
        let row ← slice? alpha (y * size.width.toNat + blockX * 8)
          (y * size.width.toNat + min ((blockX + 1) * 8) size.width.toNat)
        return row.all fun a => a = 255) =
      some ((alpha.extract (y * size.width.toNat + blockX * 8)
        (y * size.width.toNat + min ((blockX + 1) * 8) size.width.toNat)).all
          fun a => a = 255) := by
    intro y member
    rw [List.mem_range'_1] at member
    have row := rows y (by omega)
    rw [slice?_eq_some (by omega) (by omega)]
    rfl
  refine ⟨_, allM_eq_some scanned, ?_⟩
  rw [List.all_eq_true]
  constructor
  · intro all v u lowV highV lowU highU
    have row := rows v (by omega)
    exact (extract_all (by omega)).mp (all v (List.mem_range'_1.mpr (by omega))) _ (by omega)
      (by omega)
  · intro full v member
    rw [List.mem_range'_1] at member
    have row := rows v (by omega)
    apply (extract_all (by omega)).mpr
    intro i low high
    have here := full v (i - v * size.width.toNat) (by omega) (by omega) (by omega) (by omega)
    rwa [show v * size.width.toNat + (i - v * size.width.toNat) = i by omega] at here

/-- The blocks before this one have been looked at, row by row. -/
structure MarkedBefore (size : SourceSize) (alpha : Array UInt8) (blockY blockX : ℕ)
    (bits : Array UInt8) : Prop where
  length : bits.size = Mask8.bytesFor size
  marked : ∀ y x, y < divCeil size.height.toNat 8 → x < divCeil size.width.toNat 8 →
    ∃ set, bitAt bits (y * divCeil size.width.toNat 8 + x) = some set ∧
      (set = true ↔ (y < blockY ∨ y = blockY ∧ x < blockX) ∧ BlockFull size alpha y x)

theorem size_setBit {bits next : Array UInt8} {index : ℕ} (set : setBit bits index = some next) :
    next.size = bits.size := by
  obtain ⟨byte, -, rfl⟩ := Option.map_eq_some_iff.mp set
  exact Array.size_setIfInBounds

/-- A row-major index has one row and one column. -/
theorem rowMajor_inj {stride y x y' x' : ℕ} (narrow : x < stride) (narrow' : x' < stride)
    (same : y * stride + x = y' * stride + x') : y = y' ∧ x = x' := by
  have row := congrArg (· / stride) same
  have column := congrArg (· % stride) same
  rw [Nat.mul_comm y, Nat.mul_comm y', Nat.mul_add_div (by omega), Nat.mul_add_div (by omega),
    Nat.div_eq_of_lt narrow, Nat.div_eq_of_lt narrow'] at row
  rw [Nat.mul_comm y, Nat.mul_comm y', Nat.mul_add_mod, Nat.mul_add_mod, Nat.mod_eq_of_lt narrow,
    Nat.mod_eq_of_lt narrow'] at column
  exact ⟨row, column⟩

theorem MarkedBefore.mark {full : Bool} (before : MarkedBefore size alpha blockY blockX bits)
    (scanned : full = true ↔ BlockFull size alpha blockY blockX)
    (row : blockY < divCeil size.height.toNat 8) (column : blockX < divCeil size.width.toNat 8) :
    ∃ next, (if full then setBit bits (blockY * divCeil size.width.toNat 8 + blockX)
      else some bits) = some next ∧ MarkedBefore size alpha blockY (blockX + 1) next := by
  cases full with
  | false =>
      refine ⟨bits, rfl, before.length, fun y x inY inX => ?_⟩
      obtain ⟨set, found, meaning⟩ := before.marked y x inY inX
      refine ⟨set, found, meaning.trans ?_⟩
      constructor
      · rintro ⟨earlier, opaqueBlock⟩
        exact ⟨by omega, opaqueBlock⟩
      · rintro ⟨earlier, opaqueBlock⟩
        refine ⟨?_, opaqueBlock⟩
        rcases earlier with above | ⟨rfl, upTo⟩
        · exact Or.inl above
        · rcases Nat.lt_succ_iff_lt_or_eq.mp upTo with left | rfl
          · exact Or.inr ⟨rfl, left⟩
          · exact absurd (scanned.mpr opaqueBlock) Bool.false_ne_true
  | true =>
      obtain ⟨old, found, -⟩ := before.marked blockY blockX row column
      obtain ⟨byte, there, -⟩ := Option.map_eq_some_iff.mp found
      obtain ⟨next, set⟩ : ∃ next,
          setBit bits (blockY * divCeil size.width.toNat 8 + blockX) = some next := by
        rw [setBit, there]
        exact ⟨_, rfl⟩
      refine ⟨next, set, (size_setBit set).trans before.length, fun y x inY inX => ?_⟩
      rw [bitAt_setBit set]
      by_cases here : y = blockY ∧ x = blockX
      · obtain ⟨rfl, rfl⟩ := here
        exact ⟨true, if_pos rfl, by simp [scanned.mp rfl]⟩
      · rw [if_neg fun same => here (rowMajor_inj inX column same)]
        obtain ⟨old, found, meaning⟩ := before.marked y x inY inX
        refine ⟨old, found, meaning.trans (and_congr_left fun _ => ?_)⟩
        omega

theorem markBlock_marks (plane : alpha.size = size.width.toNat * size.height.toNat)
    (before : MarkedBefore size alpha blockY blockX bits)
    (row : blockY < divCeil size.height.toNat 8) (column : blockX < divCeil size.width.toNat 8) :
    ∃ next, markBlock size alpha blockY blockX bits = some next ∧
      MarkedBefore size alpha blockY (blockX + 1) next := by
  have ordered : blockX * 8 ≤ size.width.toNat := by
    rw [divCeil] at column
    omega
  obtain ⟨full, scanned, meaning⟩ := scan_block plane ordered
  obtain ⟨next, marked, kept⟩ := before.mark meaning row column
  refine ⟨next, ?_, kept⟩
  simp only [markBlock]
  rw [scanned]
  exact marked

theorem MarkedBefore.nextRow {blockY : ℕ}
    (before : MarkedBefore size alpha blockY (divCeil size.width.toNat 8) bits) :
    MarkedBefore size alpha (blockY + 1) 0 bits := by
  refine ⟨before.length, fun y x inY inX => ?_⟩
  obtain ⟨set, found, meaning⟩ := before.marked y x inY inX
  refine ⟨set, found, meaning.trans (and_congr_left fun _ => ?_)⟩
  omega

theorem markedBefore_cleared (length : bits.size = Mask8.bytesFor size) :
    MarkedBefore size alpha 0 0 (bits.map fun _ => 0) := by
  refine ⟨by rw [Array.size_map, length], fun y x inY inX => ⟨false, ?_, by simp⟩⟩
  have bit := Mask8.block_lt_bytesFor inY inX
  have inside : (y * divCeil size.width.toNat 8 + x) / 8 < bits.size := by
    rw [length]
    omega
  rw [bitAt, Array.getElem?_map, Array.getElem?_eq_getElem inside, Option.map_some, Option.map_some]
  simp

/-- **Opaque blocks are marked**, and no others are. -/
theorem buildOpaqueMask_marks (nonempty : size.width ≠ 0 ∧ size.height ≠ 0)
    (plane : alpha.size = size.width.toNat * size.height.toNat)
    (length : bits.size = Mask8.bytesFor size) :
    ∃ built, buildOpaqueMask size alpha bits = some (.ok (), built) ∧
      MarkedBefore size alpha (divCeil size.height.toNat 8) 0 built := by
  have rows : ∀ blockY before, 0 ≤ blockY → blockY < 0 + divCeil size.height.toNat 8 →
      MarkedBefore size alpha blockY 0 before →
        ∃ next, forRange (markBlock size alpha blockY) 0 (divCeil size.width.toNat 8) before =
          some next ∧ MarkedBefore size alpha (blockY + 1) 0 next := by
    intro blockY before _ inY marked
    have columns : ∀ blockX before, 0 ≤ blockX → blockX < 0 + divCeil size.width.toNat 8 →
        MarkedBefore size alpha blockY blockX before →
          ∃ next, markBlock size alpha blockY blockX before = some next ∧
            MarkedBefore size alpha blockY (blockX + 1) next :=
      fun blockX before _ inX marked => markBlock_marks plane marked (by omega) (by omega)
    obtain ⟨next, ran, kept⟩ := forRange_rule (MarkedBefore size alpha blockY) marked columns
    rw [Nat.zero_add] at kept
    exact ⟨next, ran, kept.nextRow⟩
  obtain ⟨built, ran, kept⟩ := forRange_rule (fun blockY => MarkedBefore size alpha blockY 0)
    (markedBefore_cleared length) rows
  rw [Nat.zero_add] at kept
  refine ⟨built, ?_, kept⟩
  have accepted : ¬(size.width = 0 ∨ size.height = 0 ∨
      alpha.size ≠ size.width.toNat * size.height.toNat ∨ bits.size ≠ Mask8.bytesFor size) := by
    simp [nonempty.1, nonempty.2, plane, length]
  rw [buildOpaqueMask, if_neg accepted, ran]
  rfl

end Build

/-! ## Coverage -/

inductive Coverage
  | fullyOpaque
  | cutout (bits : Array UInt8) (opaqueBlocks : Mask8)
  | alpha8 (alpha : Array UInt8) (opaqueBlocks : Mask8)

namespace Coverage

def isAlpha : Coverage → Bool
  | fullyOpaque => false
  | _ => true

/-- The alpha value of a texel. -/
def alphaAt (self : Coverage) (index : ℕ) : Option UInt8 :=
  match self with
  | fullyOpaque => some 255
  | cutout bits _ => (bitAt bits index).map fun set => if set then 255 else 0
  | alpha8 alpha _ => alpha[index]?

def contains (self : Coverage) (pixels : ℕ) : Bool :=
  match self with
  | fullyOpaque => true
  | cutout bits _ => divCeil pixels 8 ≤ bits.size
  | alpha8 alpha _ => pixels ≤ alpha.size

def alpha : Coverage → Array UInt8
  | alpha8 alpha _ => alpha
  | _ => #[]

def blocks : Coverage → Option Mask8
  | fullyOpaque => none
  | cutout _ opaqueBlocks => some opaqueBlocks
  | alpha8 _ opaqueBlocks => some opaqueBlocks

def validate (self : Coverage) (size : SourceSize) : Except RasterError Unit :=
  if self.blocks.any fun blocks => blocks.size ≠ size then .error .invalidMask else .ok ()

variable {coverage : Coverage}

theorem alphaAt_of_contains {pixels index : ℕ} (held : coverage.contains pixels = true)
    (inside : index < pixels) : ∃ a, coverage.alphaAt index = some a := by
  cases coverage with
  | fullyOpaque => exact ⟨255, rfl⟩
  | cutout bits blocks =>
      have enough : divCeil pixels 8 ≤ bits.size := of_decide_eq_true held
      have bit : index < bits.size * 8 := by
        rw [divCeil] at enough
        omega
      obtain ⟨set, found⟩ := bitAt_of_lt bit
      exact ⟨if set then 255 else 0, by rw [alphaAt, found, Option.map_some]⟩
  | alpha8 alpha blocks =>
      have enough : pixels ≤ alpha.size := of_decide_eq_true held
      exact ⟨alpha[index], Array.getElem?_eq_getElem (by omega)⟩

/-- A set bit guarantees alpha 255 for every texel of its block. -/
def MarksOpaque (self : Coverage) : Prop :=
  ∀ blocks ∈ self.blocks, ∀ u v, u < blocks.size.width.toNat → v < blocks.size.height.toNat →
    bitAt blocks.bits (v / 8 * divCeil blocks.size.width.toNat 8 + u / 8) = some true →
      ∀ a, self.alphaAt (v * blocks.size.width.toNat + u) = some a → a = 255

/-- A covered rectangle of texels is opaque. -/
theorem opaque_of_covers {blocks : Mask8} (marks : coverage.MarksOpaque)
    (has : blocks ∈ coverage.blocks) {left top right bottom : ℕ}
    (wide : right < blocks.size.width.toNat) (high : bottom < blocks.size.height.toNat)
    (covered : blocks.covers left top right bottom = some true) {u v : ℕ}
    (inU : left ≤ u ∧ u ≤ right) (inV : top ≤ v ∧ v ≤ bottom) {a : UInt8}
    (found : coverage.alphaAt (v * blocks.size.width.toNat + u) = some a) : a = 255 := by
  obtain ⟨answer, asked, meaning⟩ : ∃ answer, blocks.covers left top right bottom = some answer ∧
      (answer = true → ∀ y x, top / 8 ≤ y → y ≤ bottom / 8 → left / 8 ≤ x → x ≤ right / 8 →
        bitAt blocks.bits (y * divCeil blocks.size.width.toNat 8 + x) = some true) :=
    Mask8.covers_eq_some wide high
  rw [covered, Option.some.injEq] at asked
  apply marks blocks has u v (by omega) (by omega) _ a found
  exact meaning asked.symm (v / 8) (u / 8) (by omega) (by omega) (by omega) (by omega)

/-- The mask was built from a plane with the alpha values of the coverage. -/
def MaskBuilt (self : Coverage) : Prop :=
  ∀ blocks ∈ self.blocks, ∃ plane bits : Array UInt8,
    buildOpaqueMask blocks.size plane bits = some (.ok (), blocks.bits) ∧
      ∀ i a, i < plane.size → self.alphaAt i = some a → plane[i]? = some a

/-- A mask that was built from the coverage marks opaque blocks only. -/
theorem MaskBuilt.marksOpaque (mask : coverage.MaskBuilt) : coverage.MarksOpaque := by
  intro blocks has u v inU inV set a there
  obtain ⟨plane, bits, built, same⟩ := mask blocks has
  by_cases rejected : blocks.size.width = 0 ∨ blocks.size.height = 0 ∨
      plane.size ≠ blocks.size.width.toNat * blocks.size.height.toNat ∨
        bits.size ≠ Mask8.bytesFor blocks.size
  · rw [buildOpaqueMask, if_pos rejected] at built
    cases built
  · simp only [not_or, ne_eq, not_not] at rejected
    obtain ⟨noWidth, noHeight, planeSize, length⟩ := rejected
    obtain ⟨marked, ran, marks⟩ := buildOpaqueMask_marks ⟨noWidth, noHeight⟩ planeSize length
    rw [built] at ran
    cases ran
    obtain ⟨bit, isSet, meaning⟩ := marks.marked (v / 8) (u / 8)
      (div_lt_divCeil inV (by decide)) (div_lt_divCeil inU (by decide))
    rw [isSet, Option.some.injEq] at set
    have full := (meaning.mp set).2 v u (by omega) (by omega) (by omega) (by omega)
    have inside : v * blocks.size.width.toNat + u < plane.size := by
      rw [planeSize]
      exact rowMajor_lt inV inU
    have held := same _ a inside there
    rw [full, Option.some.injEq] at held
    exact held.symm

end Coverage

/-! ## Textures -/

structure Texture where
  size : SourceSize
  pixels : Array UInt16
  coverage : Coverage

structure TextureRegion where
  sourceX : UInt16
  sourceY : UInt16
  width : UInt16
  height : UInt16
  stride : UInt16
  deriving DecidableEq

def validateTexture (texture : Texture) (region : TextureRegion) : Except RasterError Unit :=
  let right := region.sourceX.toNat + region.width.toNat
  let bottom := region.sourceY.toNat + region.height.toNat
  let required := (bottom - 1) * region.stride.toNat + right
  if region.width = 0 ∨ region.height = 0 ∨ right > region.stride.toNat ∨
      right > texture.size.width.toNat ∨ bottom > texture.size.height.toNat ∨
      region.stride ≠ texture.size.width ∨ texture.pixels.size < required ∨
      !texture.coverage.contains required then
    .error .invalidTexture
  else texture.coverage.validate texture.size

/-- What a validated region is known to be. -/
structure RegionFits (texture : Texture) (region : TextureRegion) : Prop where
  width_pos : 0 < region.width.toNat
  height_pos : 0 < region.height.toNat
  right : region.sourceX.toNat + region.width.toNat ≤ texture.size.width.toNat
  bottom : region.sourceY.toNat + region.height.toNat ≤ texture.size.height.toNat
  stride : region.stride = texture.size.width
  colors : (region.sourceY.toNat + region.height.toNat - 1) * region.stride.toNat +
    (region.sourceX.toNat + region.width.toNat) ≤ texture.pixels.size
  coverage : texture.coverage.contains
    ((region.sourceY.toNat + region.height.toNat - 1) * region.stride.toNat +
      (region.sourceX.toNat + region.width.toNat)) = true
  blocks : ∀ blocks ∈ texture.coverage.blocks, blocks.size = texture.size

theorem regionFits_of_validate {texture : Texture} {region : TextureRegion}
    (valid : validateTexture texture region = .ok ()) : RegionFits texture region := by
  rw [validateTexture] at valid
  split at valid
  · cases valid
  · rename_i accepted
    simp only [not_or, gt_iff_lt, not_lt, ne_eq, not_not, Bool.not_eq_true, Bool.not_eq_false']
      at accepted
    obtain ⟨noWidth, noHeight, -, right, bottom, stride, colors, coverage⟩ := accepted
    rw [Coverage.validate] at valid
    split at valid
    · cases valid
    · rename_i sameSize
      refine ⟨?_, ?_, right, bottom, stride, colors, by simpa using coverage, ?_⟩
      · exact Nat.pos_of_ne_zero fun zero => noWidth (UInt16.toNat_inj.mp zero)
      · exact Nat.pos_of_ne_zero fun zero => noHeight (UInt16.toNat_inj.mp zero)
      · intro blocks has
        rw [Option.mem_def] at has
        rw [has] at sameSize
        simpa using sameSize

/-- The index of a texel of the region, by row and column. -/
def TextureRegion.texel (region : TextureRegion) (v u : ℕ) : ℕ :=
  (region.sourceY.toNat + v) * region.stride.toNat + (region.sourceX.toNat + u)

/-- The coverage of a texel of the region. -/
def coverageIn (texture : Texture) (region : TextureRegion) (v u : ℕ) : ℕ :=
  ((texture.coverage.alphaAt (region.texel v u)).getD 0).toNat

/-- The color of a texel of the region. -/
def colorIn (texture : Texture) (region : TextureRegion) (v u : ℕ) : UInt16 :=
  (texture.pixels[region.texel v u]?).getD 0

namespace RegionFits

variable {texture : Texture} {region : TextureRegion} (fits : RegionFits texture region) {v u : ℕ}
  (inV : v < region.height.toNat) (inU : u < region.width.toNat)

include inV inU in
theorem texel_lt : region.texel v u < (region.sourceY.toNat + region.height.toNat - 1) *
    region.stride.toNat + (region.sourceX.toNat + region.width.toNat) := by
  have rows : (region.sourceY.toNat + v) * region.stride.toNat ≤
      (region.sourceY.toNat + region.height.toNat - 1) * region.stride.toNat :=
    Nat.mul_le_mul_right _ (by omega)
  rw [TextureRegion.texel]
  omega

include fits inV inU

theorem color : ∃ color, texture.pixels[region.texel v u]? = some color := by
  have inside := texel_lt inV inU
  have colors := fits.colors
  exact ⟨_, Array.getElem?_eq_getElem (by omega)⟩

theorem alpha : ∃ a, texture.coverage.alphaAt (region.texel v u) = some a :=
  Coverage.alphaAt_of_contains fits.coverage (texel_lt inV inU)

end RegionFits

end Deskkin.Presentation
