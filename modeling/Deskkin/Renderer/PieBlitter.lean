/-
# The blitter with vector routines

A span is drawn in three parts: word by word up to the first good place for a vector routine,
by the routine as long as its blocks are in the slices, and word by word to the end. The memory
that this leaves is the one that the plain loop over the whole span leaves, and no byte outside
the span is written.

Colors and coverage are slices with the place where they lie; what is drawn onto is part of the
memory. The counters of cycles and pixels are left out.
-/

import Deskkin.Renderer.PieRuns
import Deskkin.Renderer.VectorSpans

namespace Deskkin.Renderer

open Vectors Presentation Loops Grid

/-! ## Slices -/

structure WordSlice where
  base : ℕ
  words : Array UInt16

structure ByteSlice where
  base : ℕ
  bytes : Array UInt8

/-- The words lie in the memory, and none of them is in the span. -/
structure WordSlice.Readable (src : WordSlice) (m : Memory) (dst length : ℕ) : Prop where
  even : src.base % 2 = 0
  held : m.Holds src.base src.words
  apart : src.base + 2 * src.words.size ≤ dst ∨ dst + 2 * length ≤ src.base

structure ByteSlice.Readable (src : ByteSlice) (m : Memory) (dst length : ℕ) : Prop where
  held : m.HoldsBytes src.base src.bytes
  apart : src.base + src.bytes.size ≤ dst ∨ dst + 2 * length ≤ src.base

/-! ## Plain loops -/

/-- A pixel by its color and its alpha value, or 255. -/
def pixelOf (blend : UInt16 → UInt16 → UInt8 → UInt16) (src : Array UInt16)
    (alpha : Option (Array UInt8)) (wire : Bool) (k : ℕ) (old : UInt16) : Option UInt16 := do
  let color ← src[k]?
  let a ← (match alpha with
    | none => some 255
    | some alpha => alpha[k]?)
  return compositeWith blend wire color a old

/-- `ScalarBlitter::blit`, onto words in the memory -/
def scalarBlit (dst length : ℕ) (src : Array UInt16) (alpha : Option (Array UInt8)) (wire : Bool)
    (m : Memory) : Option Memory := do
  guard (length = src.size)
  guard (alpha.all fun alpha => alpha.size = src.size)
  m.writeSpan (pixelOf blendRgb565 src alpha wire) dst length

/-- `alpha_scalar` -/
def alphaScalar (dst length : ℕ) (src : Array UInt16) (alpha : Array UInt8) (wire : Bool)
    (m : Memory) : Option Memory :=
  m.writeSpan (pixelOf alphaPixel src (some alpha) wire) dst (min length (min src.size alpha.size))

/-- `ScalarBlitter::cutout`, onto words in the memory -/
def scalarCutout (dst length : ℕ) (source : Array UInt16) (offset : ℕ) (bits : Array UInt8)
    (wire : Bool) (m : Memory) : Option Memory := do
  guard (divCeil (offset + length) 8 ≤ bits.size)
  let colors ← slice? source offset (offset + length)
  m.writeSpan (fun k old => do
    let src ← colors[k]?
    let set ← bitAt bits (offset + k)
    return if set then wireOrder wire src else old) dst length

/-! ## The blitter -/

namespace PieBlitter

variable (greatest : ℕ)

/-- The plain loop draws the ends of the span, and the routine what is between them. -/
def inParts (length : ℕ) (span : ℕ × ℕ) (plain : ℕ → ℕ → Memory → Option Memory)
    (vector : Memory → Memory) (m : Memory) : Option Memory := do
  let m ← plain 0 span.1 m
  let m := if span.2 ≠ 0 then vector m else m
  let rest ← Checked.sub length (span.1 + span.2)
  plain (span.1 + span.2) rest m

def cutout (dst length : ℕ) (src : WordSlice) (start : ℕ) (bits : ByteSlice) (wire : Bool)
    (m : Memory) : Option Memory := do
  let last ← Checked.add greatest start length
  guard (last ≤ src.words.size ∧ divCeil last 8 ≤ bits.bytes.size)
  let span ← vectorSpan greatest dst src.base src.words.size start length
  let bit := start + span.1
  inParts length span
    (fun first count =>
      scalarCutout (dst + 2 * first) count src.words (start + first) bits.bytes wire)
    (cutoutPie (dst + 2 * span.1) (src.base + 2 * bit) (bits.base + bit / 8) (span.2 / 8)
      (wire.toNat ||| (bit % 8) <<< 8)) m

/-- `q2` and `q7` are what the routine finds in its registers. -/
def blitFrom (q2 q7 : Register) (dst length : ℕ) (source : WordSlice) (start : ℕ)
    (alpha : Option ByteSlice) (wire : Bool) (m : Memory) : Option Memory := do
  let last ← Checked.add greatest start length
  let src ← slice? source.words start last
  match alpha with
  | some backing =>
      let alpha ← slice? backing.bytes start last
      let span ← alphaSpan greatest dst source.base source.words.size backing.base
        backing.bytes.size start length
      inParts length span
        (fun first count m => if count ≠ 0
          then alphaScalar (dst + 2 * first) count (src.extract first (first + count))
            (alpha.extract first (first + count)) wire m
          else some m)
        (alphaPie q2 q7 (dst + 2 * span.1) (source.base + 2 * (start + span.1))
          (backing.base + (start + span.1)) (span.2 / 8) wire) m
  | none =>
      let span ← vectorSpan greatest dst source.base source.words.size start length
      inParts length span
        (fun first count m => if count ≠ 0
          then scalarBlit (dst + 2 * first) count (src.extract first (first + count)) none wire m
          else some m)
        (copyPie (dst + 2 * span.1) (source.base + 2 * (start + span.1)) (span.2 / 8) wire) m

def blit (q2 q7 : Register) (dst length : ℕ) (src : WordSlice) (alpha : Option ByteSlice)
    (wire : Bool) (m : Memory) : Option Memory := do
  guard (length = src.words.size)
  guard (alpha.all fun alpha => alpha.bytes.size = src.words.size)
  blitFrom greatest q2 q7 dst length src 0 alpha wire m

end PieBlitter

/-! ## Slices are not written -/

section Slices

variable {m : Memory} {g : ℕ → UInt16 → UInt16} {dst length n start : ℕ} {span : ℕ × ℕ}

theorem WordSlice.Readable.word {src : WordSlice} (readable : src.Readable m dst length)
    (fewer : n ≤ length) {i : ℕ} {word : UInt16} (found : src.words[i]? = some word) :
    (m.fill g dst n).lane (src.base + 2 * i) = word := by
  obtain ⟨inside, -⟩ := Array.getElem?_eq_some_iff.mp found
  have apart := readable.apart
  rw [Memory.lane_fill_outside (by omega), readable.held i word found]

theorem ByteSlice.Readable.byte {src : ByteSlice} (readable : src.Readable m dst length)
    (fewer : n ≤ length) {i : ℕ} {byte : UInt8} (found : src.bytes[i]? = some byte) :
    m.fill g dst n (src.base + i) = byte := by
  obtain ⟨inside, -⟩ := Array.getElem?_eq_some_iff.mp found
  have apart := readable.apart
  rw [Memory.fill_outside (by omega), readable.held i byte found]

/-- Blocks of the colors are not written. -/
theorem SpanFits.untouched {src : WordSlice}
    (fits : SpanFits dst src.base src.words.size start length span)
    (readable : src.Readable m dst length) (some' : span.2 ≠ 0) :
    Untouched (src.base + 2 * (start + span.1))
      (src.base + 2 * (start + span.1) + 16 * (span.2 / 8)) (dst + 2 * span.1)
      (8 * (span.2 / 8)) := by
  have upTo := fits.upTo
  have eights := fits.eights
  have low := fits.lead.low (by omega)
  have high := fits.high (by omega)
  have apart := readable.apart
  intro x lower upper
  omega

end Slices

/-! ## Three parts of a span -/

namespace PieBlitter

section Parts

variable {m : Memory} {g : ℕ → UInt16 → UInt16} {dst length : ℕ} {span : ℕ × ℕ}
  {plain : ℕ → ℕ → Memory → Option Memory} {vector : Memory → Memory}

/-- The parts of a span leave the memory that the whole span leaves. -/
theorem inParts_eq (upTo : span.1 + span.2 ≤ length)
    (plains : ∀ first count after, first + count ≤ length → plain first count after =
      some (after.fill (fun k => g (first + k)) (dst + 2 * first) count))
    (vectors : span.2 ≠ 0 → vector (m.fill g dst span.1) =
      (m.fill g dst span.1).fill (fun k => g (span.1 + k)) (dst + 2 * span.1) span.2) :
    inParts length span plain vector m = some (m.fill g dst length) := by
  have lead := plains 0 span.1 m (by omega)
  simp only [Nat.zero_add, Nat.mul_zero, Nat.add_zero] at lead
  have bulk : (if span.2 ≠ 0 then vector (m.fill g dst span.1) else m.fill g dst span.1) =
      m.fill g dst (span.1 + span.2) := by
    split
    · rename_i some'
      rw [vectors some', ← Memory.fill_append]
    · rename_i none
      rw [not_not.mp none, Nat.add_zero]
  rw [inParts, lead, Option.bind_eq_bind, Option.bind_some]
  dsimp only
  rw [bulk, Checked.sub_of_le upTo, Option.bind_eq_bind, Option.bind_some,
    plains _ _ _ (by omega), ← Memory.fill_append, Nat.add_sub_cancel' upTo]

end Parts

end PieBlitter

/-! ## Pixels of a span -/

section Pixels

variable {blend : UInt16 → UInt16 → UInt8 → UInt16} {src : Array UInt16}
  {alpha : Option (Array UInt8)} {wire : Bool} {k : ℕ} {old : UInt16}

/-- What becomes of a pixel that has a color and an alpha value. -/
def drawn (blend : UInt16 → UInt16 → UInt8 → UInt16) (src : Array UInt16)
    (alpha : Option (Array UInt8)) (wire : Bool) (k : ℕ) (old : UInt16) : UInt16 :=
  (pixelOf blend src alpha wire k old).getD old

theorem pixelOf_eq (colors : k < src.size) (values : ∀ a ∈ alpha, k < a.size) :
    pixelOf blend src alpha wire k old = some (drawn blend src alpha wire k old) := by
  cases alpha with
  | none =>
      rw [drawn, pixelOf, Array.getElem?_eq_getElem colors]
      rfl
  | some alpha =>
      rw [drawn, pixelOf, Array.getElem?_eq_getElem colors,
        Array.getElem?_eq_getElem (values alpha rfl)]
      rfl

theorem drawn_none {color : UInt16} (found : src[k]? = some color) :
    drawn blend src none wire k old = wireOrder wire color := by
  rw [drawn, pixelOf, found]
  rfl

theorem drawn_some {values : Array UInt8} {color : UInt16} {a : UInt8}
    (found : src[k]? = some color) (value : values[k]? = some a) :
    drawn blend src (some values) wire k old = compositeWith blend wire color a old := by
  rw [drawn, pixelOf, found, value]
  rfl

/-- A part of a span has the pixels of the span. -/
theorem pixelOf_extract {first count : ℕ} (short : k < count) :
    pixelOf blend (src.extract first (first + count))
      (alpha.map fun a => a.extract first (first + count)) wire k old =
      pixelOf blend src alpha wire (first + k) old := by
  cases alpha with
  | none => rw [Option.map_none, pixelOf, pixelOf, getElem?_extract_of_lt (by omega)]
  | some alpha =>
      rw [Option.map_some, pixelOf, pixelOf, getElem?_extract_of_lt (by omega),
        getElem?_extract_of_lt (by omega)]

end Pixels

/-! ## Colors -/

namespace PieBlitter

section Blits

variable {greatest : ℕ} {q2 q7 : Register} {m : Memory} {dst length start : ℕ}
  {source : WordSlice} {wire : Bool}

/-- **A span of colors is copied.** -/
theorem blitFrom_none (room : 15 ≤ greatest) (even : dst % 2 = 0)
    (readable : source.Readable m dst length)
    (backing : source.base + 2 * source.words.size ≤ greatest)
    (inside : start + length ≤ source.words.size) :
    blitFrom greatest q2 q7 dst length source start none wire m = some (m.fill
      (drawn blendRgb565 (source.words.extract start (start + length)) none wire) dst length) := by
  obtain ⟨src, isSrc⟩ : ∃ src, source.words.extract start (start + length) = src := ⟨_, rfl⟩
  have size : src.size = length := by
    rw [← isSrc, Array.size_extract]
    omega
  have color : ∀ k, k < length → ∃ word, src[k]? = some word ∧
      source.words[start + k]? = some word := by
    intro k short
    rw [← isSrc, getElem?_extract_of_lt (by omega)]
    exact ⟨_, Array.getElem?_eq_getElem (by omega), Array.getElem?_eq_getElem (by omega)⟩
  obtain ⟨span, ran, fits⟩ := vectorSpan_fits room even readable.even backing inside
  rw [blitFrom, Checked.add_of_le (by omega), Option.bind_eq_bind, Option.bind_some,
    slice?_eq_some (by omega) inside, Option.bind_eq_bind, Option.bind_some, isSrc]
  dsimp only
  rw [ran, Option.bind_eq_bind, Option.bind_some]
  apply inParts_eq fits.upTo
  · intro first count after within
    split
    · have part : (src.extract first (first + count)).size = count := by
        rw [Array.size_extract]
        omega
      rw [scalarBlit, guard, if_pos part.symm]
      apply Memory.writeSpan_eq_some
      intro k old short
      rw [← pixelOf_eq (by omega) (by simp)]
      exact @pixelOf_extract _ _ none _ _ _ _ _ short
    · rename_i none
      rw [not_not.mp none, Memory.fill_zero]
  · intro some'
    have aligned := fits.lead.aligned (by have := fits.upTo; omega)
    have eights : 8 * (span.2 / 8) = span.2 := by
      have := fits.eights
      omega
    rw [copyPie_eq aligned (fits.untouched readable some'), eights]
    apply Memory.fill_congr
    intro k short old
    have upTo := fits.upTo
    obtain ⟨word, found, here⟩ := color (span.1 + k) (by omega)
    rw [drawn_none found, copied,
      show source.base + 2 * (start + span.1) + 2 * k = source.base + 2 * (start + (span.1 + k)) by
        omega, readable.word (by omega) here]

/-- **A span of colors is blended by its alpha values.** -/
theorem blitFrom_some {backing : ByteSlice} (room : 15 ≤ greatest) (even : dst % 2 = 0)
    (readable : source.Readable m dst length) (values : backing.Readable m dst length)
    (colorsEnd : source.base + 2 * source.words.size + 15 ≤ greatest)
    (valuesEnd : backing.base + backing.bytes.size + 15 ≤ greatest)
    (inside : start + length ≤ source.words.size) (within : start + length ≤ backing.bytes.size) :
    blitFrom greatest q2 q7 dst length source start (some backing) wire m = some (m.fill
      (drawn alphaPixel (source.words.extract start (start + length))
        (some (backing.bytes.extract start (start + length))) wire) dst length) := by
  obtain ⟨src, isSrc⟩ : ∃ src, source.words.extract start (start + length) = src := ⟨_, rfl⟩
  obtain ⟨alpha, isAlpha⟩ : ∃ alpha, backing.bytes.extract start (start + length) = alpha :=
    ⟨_, rfl⟩
  have size : src.size = length := by
    rw [← isSrc, Array.size_extract]
    omega
  have alphaSize : alpha.size = length := by
    rw [← isAlpha, Array.size_extract]
    omega
  have color : ∀ k, k < length → ∃ word, src[k]? = some word ∧
      source.words[start + k]? = some word := by
    intro k short
    rw [← isSrc, getElem?_extract_of_lt (by omega)]
    exact ⟨_, Array.getElem?_eq_getElem (by omega), Array.getElem?_eq_getElem (by omega)⟩
  have value : ∀ k, k < length → ∃ byte, alpha[k]? = some byte ∧
      backing.bytes[start + k]? = some byte := by
    intro k short
    rw [← isAlpha, getElem?_extract_of_lt (by omega)]
    exact ⟨_, Array.getElem?_eq_getElem (by omega), Array.getElem?_eq_getElem (by omega)⟩
  obtain ⟨span, ran, fits, ends⟩ :=
    alphaSpan_fits room even readable.even colorsEnd valuesEnd inside within
  have upTo := fits.upTo
  rw [blitFrom, Checked.add_of_le (by omega), Option.bind_eq_bind, Option.bind_some,
    slice?_eq_some (by omega) inside, Option.bind_eq_bind, Option.bind_some, isSrc]
  dsimp only
  rw [slice?_eq_some (by omega) within, Option.bind_eq_bind, Option.bind_some, isAlpha, ran,
    Option.bind_eq_bind, Option.bind_some]
  apply inParts_eq upTo
  · intro first count after part
    split
    · have colors : (src.extract first (first + count)).size = count := by
        rw [Array.size_extract]
        omega
      have alphas : (alpha.extract first (first + count)).size = count := by
        rw [Array.size_extract]
        omega
      rw [alphaScalar, colors, alphas, Nat.min_self, Nat.min_self]
      apply Memory.writeSpan_eq_some
      intro k old short
      rw [← pixelOf_eq (by omega) fun a here => by cases here; omega]
      exact @pixelOf_extract _ _ (some alpha) _ _ _ _ _ short
    · rename_i none
      rw [not_not.mp none, Memory.fill_zero]
  · intro some'
    obtain ⟨low, high⟩ := ends (by omega)
    have aligned := fits.lead.aligned (by omega)
    have alphaLow := low (by omega)
    have alphaApart := values.apart
    have eights : 8 * (span.2 / 8) = span.2 := by
      have := fits.eights
      omega
    have still : Untouched (backing.base + (start + span.1))
        (backing.base + (start + span.1) + 8 * (span.2 / 8)) (dst + 2 * span.1)
        (8 * (span.2 / 8)) := by
      intro x lower upper
      omega
    rw [alphaPie_eq q2 q7 aligned (fits.untouched readable some') still, eights]
    apply Memory.fill_congr
    intro k short old
    obtain ⟨word, found, here⟩ := color (span.1 + k) (by omega)
    obtain ⟨byte, valued, there⟩ := value (span.1 + k) (by omega)
    rw [drawn_some found valued, blendedAt,
      show source.base + 2 * (start + span.1) + 2 * k = source.base + 2 * (start + (span.1 + k)) by
        omega,
      show backing.base + (start + span.1) + k = backing.base + (start + (span.1 + k)) by omega,
      readable.word (by omega) here, values.byte (by omega) there]

end Blits

/-! ## Coverage -/

section Cutouts

variable {greatest : ℕ} {m : Memory} {dst length start : ℕ} {src : WordSlice} {bits : ByteSlice}
  {wire : Bool}

/-- A pixel by its color and its bit. -/
def cutPixel (words : Array UInt16) (bits : Array UInt8) (wire : Bool) (place : ℕ)
    (old : UInt16) : Option UInt16 := do
  let color ← words[place]?
  let set ← bitAt bits place
  return if set then wireOrder wire color else old

/-- A bit of coverage lies in the memory with its byte. -/
theorem covered_of_bitAt {place : ℕ} {set : Bool} {after : Memory}
    (found : bitAt bits.bytes place = some set)
    (held : ∀ byte, bits.bytes[place / 8]? = some byte → after (bits.base + place / 8) = byte) :
    covered after bits.base place = set := by
  obtain ⟨byte, here, rfl⟩ := Option.map_eq_some_iff.mp found
  rw [covered, held byte here]

theorem wireOptions (wire : Bool) {phase : ℕ} (narrow : phase < 8) :
    ((wire.toNat ||| phase <<< 8) % 2 == 1) = wire ∧
      (wire.toNat ||| phase <<< 8) / 2 ^ 8 % 2 ^ 3 = phase := by
  have small : wire.toNat < 2 ^ 8 := by cases wire <;> decide
  rw [Nat.or_comm, ← Nat.shiftLeft_add_eq_or_of_lt small, Nat.shiftLeft_eq]
  constructor
  · cases wire with
    | false => rw [beq_eq_false_iff_ne]; simp only [Bool.toNat_false]; omega
    | true => rw [beq_iff_eq]; simp only [Bool.toNat_true]; omega
  · omega

/-- **A span is drawn where its bits are set.** -/
theorem cutout_eq (room : 15 ≤ greatest) (even : dst % 2 = 0)
    (readable : src.Readable m dst length) (coverage : bits.Readable m dst length)
    (backing : src.base + 2 * src.words.size ≤ greatest)
    (inside : start + length ≤ src.words.size)
    (enough : divCeil (start + length) 8 ≤ bits.bytes.size) :
    cutout greatest dst length src start bits wire m = some (m.fill
      (fun k old => (cutPixel src.words bits.bytes wire (start + k) old).getD old) dst length) := by
  have pixel : ∀ k, k < length → ∃ color set, src.words[start + k]? = some color ∧
      bitAt bits.bytes (start + k) = some set ∧ ∀ old,
        cutPixel src.words bits.bytes wire (start + k) old =
          some (if set then wireOrder wire color else old) := by
    intro k short
    have bytes : start + k < bits.bytes.size * 8 := by
      rw [divCeil] at enough
      omega
    obtain ⟨set, found⟩ := bitAt_of_lt bytes
    refine ⟨_, set, Array.getElem?_eq_getElem (by omega), found, fun old => ?_⟩
    rw [cutPixel, Array.getElem?_eq_getElem (by omega), found]
    rfl
  obtain ⟨span, ran, fits⟩ := vectorSpan_fits room even readable.even backing inside
  have upTo := fits.upTo
  rw [cutout, Checked.add_of_le (by omega), Option.bind_eq_bind, Option.bind_some, guard,
    if_pos ⟨inside, enough⟩, ran, pure_bind, Option.bind_eq_bind, Option.bind_some]
  apply inParts_eq upTo
  · intro first count after part
    have bytes : divCeil (start + first + count) 8 ≤ bits.bytes.size :=
      (Nat.div_le_div_right (by omega)).trans enough
    rw [scalarCutout, guard, if_pos bytes, slice?_eq_some (by omega) (by omega)]
    apply Memory.writeSpan_eq_some
    intro k old short
    obtain ⟨color, set, found, bit, drawn⟩ := pixel (first + k) (by omega)
    rw [drawn old, getElem?_extract_of_lt (by omega), Nat.add_assoc, found, bit]
    rfl
  · intro some'
    have aligned := fits.lead.aligned (by omega)
    have eights : 8 * (span.2 / 8) = span.2 := by
      have := fits.eights
      omega
    obtain ⟨isWire, isPhase⟩ := wireOptions wire (Nat.mod_lt (start + span.1) (by decide))
    have still : BitsUntouched (bits.base + (start + span.1) / 8) ((start + span.1) % 8)
        (dst + 2 * span.1) (8 * (span.2 / 8)) := by
      intro k short
      have apart := coverage.apart
      rw [divCeil] at enough
      omega
    rw [cutoutPie_eq aligned isWire isPhase (fits.untouched readable some') still, eights]
    apply Memory.fill_congr
    intro k short old
    obtain ⟨color, set, found, bit, drawn⟩ := pixel (span.1 + k) (by omega)
    have bitHere : covered (m.fill (fun k old =>
        (cutPixel src.words bits.bytes wire (start + k) old).getD old) dst span.1)
        (bits.base + (start + span.1) / 8) ((start + span.1) % 8 + k) = set := by
      rw [← covered_of_bitAt bit fun byte here => coverage.byte (n := span.1) (by omega) here]
      rw [covered, covered, show bits.base + (start + span.1) / 8 +
        ((start + span.1) % 8 + k) / 8 = bits.base + (start + (span.1 + k)) / 8 by omega,
        show ((start + span.1) % 8 + k) % 8 = (start + (span.1 + k)) % 8 by omega]
    rw [drawn old, cut, bitHere,
      show src.base + 2 * (start + span.1) + 2 * k = src.base + 2 * (start + (span.1 + k)) by
        omega, readable.word (by omega) found]
    rfl

end Cutouts

end PieBlitter

end Deskkin.Renderer
