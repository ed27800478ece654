/-
# The vector blitter agrees with the plain one

What is drawn onto a buffer in memory is compared with what the portable blitter draws onto the
buffer itself. Copies, colors with a bit of coverage and samples of columns are the same words.
Blends by alpha values are those of the plain loop of the renderer; beside the portable blitter,
which rounds to the nearest, a channel is the same or one less.
-/

import Deskkin.Renderer.PieBlitter

namespace Deskkin

namespace Presentation

namespace SampledSpan

variable (blend : UInt16 → UInt16 → UInt8 → UInt16)

/-- `draw_kind`, with the blend of the caller -/
def kindWith (self : SampledSpan) (wire : Bool) (column : ColumnSample) (dst : UInt16) :
    Option UInt16 := do
  let a ← (if self.texture.coverage.isAlpha
    then self.texture.coverage.alphaAt (self.rows.1 + column.first.toNat) else some 255)
  if a = 0 then return dst
  else
    let color ← self.color column
    return Renderer.compositeWith blend wire color a dst

/-- A sample, with the blend of the caller. -/
def sampleWith (self : SampledSpan) (wire : Bool) (column : ColumnSample) (dst : UInt16) :
    Option UInt16 :=
  if self.bilinear && self.texture.coverage.isAlpha then self.filteredAlpha wire column dst
  else self.kindWith blend wire column dst

def pixelWith (self : SampledSpan) (wire : Bool) (k : ℕ) (dst : UInt16) : Option UInt16 := do
  let column ← self.columns[k]?
  self.sampleWith blend wire column dst

def drawWith (self : SampledSpan) (start : ℕ) (wire : Bool) (pixels : Array UInt16) :
    Option (Array UInt16) :=
  Grid.writeSpan (self.pixelWith blend wire) start self.columns.size pixels

def slice (self : SampledSpan) (first last : ℕ) : Option SampledSpan :=
  (Grid.slice? self.columns first last).map fun columns => { self with columns := columns }

/-- The row of the texture that nearest samples are taken from. -/
structure Nearest where
  colors : Array UInt16
  alpha : Option (Array UInt8)

/-- Filtered samples and packed coverage have no such row. -/
def nearest (self : SampledSpan) : Option (Option Nearest) :=
  match self.bilinear, self.texture.coverage with
  | true, _ => some none
  | false, .cutout _ _ => some none
  | false, coverage => do
      let last := self.rows.1 + self.lastColumn.toNat + 1
      let colors ← Grid.slice? self.texture.pixels self.rows.1 last
      let alpha ← (if coverage.isAlpha
        then (Grid.slice? coverage.alpha self.rows.1 last).map some else some none)
      return some ⟨colors, alpha⟩

end SampledSpan

end Presentation

namespace Renderer

open Vectors Presentation Loops Grid

/-! ## Blends -/

/-- No channel is greater, and none is less by more than so many. -/
def Within (most : ℕ) (drawn reference : UInt16) : Prop := ∀ channel : Channel,
  channel.value drawn ≤ channel.value reference ∧
    channel.value reference ≤ channel.value drawn + most

section Within

variable {most : ℕ} {drawn reference : UInt16}

theorem Within.refl (most : ℕ) (color : UInt16) : Within most color color :=
  fun _ => ⟨Nat.le_refl _, Nat.le_add_right _ _⟩

theorem Within.mono {more : ℕ} (near : Within most drawn reference) (fewer : most ≤ more) :
    Within more drawn reference :=
  fun channel => ⟨(near channel).1, (near channel).2.trans (Nat.add_le_add_left fewer _)⟩

theorem Within.eq (same : Within 0 drawn reference) : drawn = reference := by
  rw [← Channel.pack_value drawn, ← Channel.pack_value reference]
  apply congrArg
  funext channel
  exact Nat.le_antisymm (same channel).1 (same channel).2

/-- Words in either order are the same if their colors are. -/
theorem Within.word {wire : Bool}
    (same : Within 0 (wireOrder wire drawn) (wireOrder wire reference)) : drawn = reference := by
  rw [← wireOrder_wireOrder wire drawn, same.eq, wireOrder_wireOrder]

/-- Quotients are no further apart than what is divided. -/
theorem div_within {x y n : ℕ} (positive : 0 < n) (order : x ≤ y) (near : y ≤ x + most * n) :
    x / n ≤ y / n ∧ y / n ≤ x / n + most := by
  refine ⟨Nat.div_le_div_right order, ?_⟩
  calc y / n
      ≤ (x + most * n) / n := Nat.div_le_div_right near
    _ = x / n + most := Nat.add_mul_div_right x most positive

/-- A part of what is there is no further off than all of it. -/
theorem part_within {a b part whole : ℕ} (order : a ≤ b) (near : b ≤ a + most)
    (fewer : part ≤ whole) : a * part ≤ b * part ∧ b * part ≤ a * part + most * whole := by
  refine ⟨Nat.mul_le_mul_right part order, ?_⟩
  calc b * part
      ≤ (a + most) * part := Nat.mul_le_mul_right part near
    _ = a * part + most * part := Nat.add_mul a most part
    _ ≤ a * part + most * whole := Nat.add_le_add_left (Nat.mul_le_mul_left most fewer) _

theorem mix_within {a b s fraction : ℕ} (order : a ≤ b) (near : b ≤ a + most) :
    mix a s fraction ≤ mix b s fraction ∧ mix b s fraction ≤ mix a s fraction + most := by
  obtain ⟨below, above⟩ := part_within order near (Nat.sub_le 65536 fraction)
  exact div_within (by decide) (by omega) (by omega)

/-- The renderer's blend takes at most one more off each channel. -/
theorem alphaPixel_within (near : Within most drawn reference) (src : UInt16) (alpha : UInt8) :
    Within (most + 1) (alphaPixel drawn src alpha) (blendRgb565 reference src alpha) := by
  intro channel
  have upTo := channel.most_le
  have first := channel.value_le drawn
  have second := channel.value_le src
  have part : alpha.toNat * 257 ≤ 65536 := by
    have small := alpha.toNat_lt
    omega
  obtain ⟨below, above⟩ := near channel
  obtain ⟨mixBelow, mixAbove⟩ : mix _ (channel.value src) (alpha.toNat * 257) ≤ _ ∧ _ ≤ _ :=
    mix_within below above
  obtain ⟨blendBelow, blendAbove⟩ := toward_near alpha (first.trans upTo) (second.trans upTo)
  rw [alphaPixel_eq, blendRgb565_eq, towardColor,
    Channel.value_pack fun c => toward_le (weight_le alpha) (c.value_le drawn) (c.value_le src),
    Channel.value_pack fun c => mix_le (c.value_le reference) (c.value_le src) part]
  omega

end Within

/-- The blends of a color onto what is there, in native order. -/
theorem composite_within {most : ℕ} {wire : Bool} {dst other : UInt16}
    (near : Within most (wireOrder wire dst) (wireOrder wire other)) (color : UInt16) (a : UInt8) :
    Within (most + if a ≠ 0 ∧ a ≠ 255 then 1 else 0)
      (wireOrder wire (compositeWith alphaPixel wire color a dst))
      (wireOrder wire (composite wire color a other)) := by
  rw [compositeWith, composite]
  by_cases clear : a = 0
  · rw [if_pos clear, if_pos clear]
    exact near.mono (Nat.le_add_right _ _)
  · rw [if_neg clear, if_neg clear, wireOrder_wireOrder, wireOrder_wireOrder]
    by_cases full : a = 255
    · rw [if_pos full, if_pos full]
      exact .refl _ _
    · rw [if_neg full, if_neg full, if_pos ⟨clear, full⟩]
      exact alphaPixel_within near color a

/-- Nothing and everything are drawn alike. -/
theorem composite_ends {a : UInt8} (ends : a = 0 ∨ a = 255) (wire : Bool) (color dst : UInt16) :
    compositeWith alphaPixel wire color a dst = composite wire color a dst := by
  rw [compositeWith, composite]
  rcases ends with rfl | rfl
  · rw [if_pos rfl, if_pos rfl]
  · have some' : ¬(255 : UInt8) = 0 := by decide
    rw [if_neg some', if_neg some', if_pos rfl, if_pos rfl]

/-! ## Colors and alpha values -/

namespace PieBlitter

/-- A buffer in the memory, and a span of it that colors from a place of the source on are
drawn onto. The slices end fifteen bytes before the greatest address or earlier. -/
structure Drawable (greatest : ℕ) (m : Memory) (base : ℕ) (pixels : Array UInt16)
    (first length : ℕ) (source : WordSlice) (start : ℕ) (alpha : Option ByteSlice) : Prop where
  room : 15 ≤ greatest
  even : base % 2 = 0
  held : m.Holds base pixels
  fits : first + length ≤ pixels.size
  readable : source.Readable m (base + 2 * first) length
  ends : source.base + 2 * source.words.size + 15 ≤ greatest
  inside : start + length ≤ source.words.size
  values : ∀ backing ∈ alpha, backing.Readable m (base + 2 * first) length ∧
    backing.base + backing.bytes.size + 15 ≤ greatest ∧ start + length ≤ backing.bytes.size

section Agreement

variable {greatest : ℕ} {m : Memory} {base first length start : ℕ} {pixels : Array UInt16}
  {source : WordSlice} {alpha : Option ByteSlice}

/-- The pixels of a span have colors and alpha values. -/
theorem Drawable.pixel (drawable : Drawable greatest m base pixels first length source start alpha)
    {k : ℕ} (short : k < length) : ∃ color a,
      (∀ backing ∈ alpha, backing.bytes[start + k]? = some a) ∧ (alpha = none → a = 255) ∧
      ∀ blend wire old, pixelOf blend (source.words.extract start (start + length))
        (alpha.map fun backing => backing.bytes.extract start (start + length)) wire k old =
          some (compositeWith blend wire color a old) := by
  have inside := drawable.inside
  have color : (source.words.extract start (start + length))[k]? =
      some source.words[start + k] := by
    rw [getElem?_extract_of_lt (by omega)]
    exact Array.getElem?_eq_getElem (by omega)
  cases alpha with
  | none =>
      refine ⟨source.words[start + k], 255, fun backing same => ?_, fun _ => rfl,
        fun blend wire old => ?_⟩
      · cases same
      · rw [Option.map_none, pixelOf, color]
        rfl
  | some backing =>
      obtain ⟨-, -, within⟩ := drawable.values backing rfl
      have value : backing.bytes[start + k]? = some backing.bytes[start + k] :=
        Array.getElem?_eq_getElem (by omega)
      refine ⟨source.words[start + k], backing.bytes[start + k], fun other same => ?_,
        fun same => ?_, fun blend wire old => ?_⟩
      · cases same
        exact value
      · cases same
      · rw [Option.map_some, pixelOf, color, getElem?_extract_of_lt (by omega), value]
        rfl

/-- What becomes of the pixels of the span, by either blend. -/
def spanOf (blend : UInt16 → UInt16 → UInt8 → UInt16) (length : ℕ) (source : WordSlice)
    (start : ℕ) (alpha : Option ByteSlice) (wire : Bool) : ℕ → UInt16 → UInt16 :=
  drawn blend (source.words.extract start (start + length))
    (alpha.map fun backing => backing.bytes.extract start (start + length)) wire

section

variable (drawable : Drawable greatest m base pixels first length source start alpha)
include drawable

theorem Drawable.pixelOf_eq {k : ℕ} (short : k < length) (blend : UInt16 → UInt16 → UInt8 → UInt16)
    (wire : Bool) (old : UInt16) : pixelOf blend (source.words.extract start (start + length))
      (alpha.map fun backing => backing.bytes.extract start (start + length)) wire k old =
        some (spanOf blend length source start alpha wire k old) := by
  obtain ⟨color, a, -, -, drawn'⟩ := drawable.pixel short
  rw [spanOf, drawn, drawn', Option.getD_some]

/-- The portable blitter draws the span with its own blend. -/
theorem Drawable.reference (wire : Bool) : ScalarBlitter.blitFrom first length source.words start
      (alpha.map (·.bytes)) wire pixels = some
        (Grid.fill (spanOf blendRgb565 length source start alpha wire) first length pixels) := by
  have inside := drawable.inside
  have size : (source.words.extract start (start + length)).size = length := by
    rw [Array.size_extract]
    omega
  have written : writeSpan _ first length pixels = some (Grid.fill _ first length pixels) :=
    writeSpan_eq_some drawable.fits
      fun k old short => drawable.pixelOf_eq short blendRgb565 wire old
  cases alpha with
  | none =>
      rw [ScalarBlitter.blitFrom.eq_def, slice?_eq_some (by omega) inside]
      show ScalarBlitter.blit _ _ _ none _ _ = _
      rw [ScalarBlitter.blit, guard, if_pos size.symm]
      exact written
  | some backing =>
      obtain ⟨-, -, within⟩ := drawable.values backing rfl
      have sameSize : (backing.bytes.extract start (start + length)).size =
          (source.words.extract start (start + length)).size := by
        rw [size, Array.size_extract]
        omega
      rw [ScalarBlitter.blitFrom.eq_def, slice?_eq_some (by omega) inside, Option.map_some]
      show ((slice? backing.bytes _ _).map some >>= fun alpha =>
        ScalarBlitter.blit _ _ _ alpha _ _) = _
      rw [slice?_eq_some (by omega) within, Option.map_some, Option.bind_eq_bind,
        Option.bind_some, ScalarBlitter.blit, guard, if_pos size.symm, guard,
        if_pos (by simpa using sameSize)]
      exact written

/-- The renderer's blitter leaves its own pixels in the span. -/
theorem Drawable.drawn (q2 q7 : Register) (wire : Bool) :
    blitFrom greatest q2 q7 (base + 2 * first) length source start alpha wire m =
      some (m.fill (spanOf alphaPixel length source start alpha wire) (base + 2 * first)
        length) := by
  have even : (base + 2 * first) % 2 = 0 := by
    have := drawable.even
    omega
  have ends := drawable.ends
  cases alpha with
  | none =>
      rw [blitFrom_none drawable.room even drawable.readable (by omega) drawable.inside]
      apply congrArg
      apply Memory.fill_congr
      intro k short old
      obtain ⟨color, a, -, full, pixel⟩ := drawable.pixel short
      have other := pixel alphaPixel wire old
      have same := pixel blendRgb565 wire old
      rw [Option.map_none] at other same
      rw [spanOf, Option.map_none, Renderer.drawn, Renderer.drawn, other, same, full rfl,
        composite_ends (Or.inr rfl)]
      rfl
  | some backing =>
      obtain ⟨readable, alphaEnds, within⟩ := drawable.values backing rfl
      exact blitFrom_some drawable.room even drawable.readable readable ends alphaEnds
        drawable.inside within

end

/-- **The vector blitter agrees with the plain ones.** Whatever is in its registers at first,
wherever the slices lie and in either order of words, it leaves the memory that the renderer's
plain loop over the whole span leaves, and writes nothing else. Beside the portable blitter no
channel is greater and none is less by more than one; colors without alpha values, and those
with 0 or 255, are the same words. -/
theorem blitFrom_agrees (drawable : Drawable greatest m base pixels first length source start
    alpha) (q2 q7 : Register) (wire : Bool) : ∃ next reference,
    blitFrom greatest q2 q7 (base + 2 * first) length source start alpha wire m = some next ∧
    m.writeSpan (pixelOf alphaPixel (source.words.extract start (start + length))
      (alpha.map fun backing => backing.bytes.extract start (start + length)) wire)
        (base + 2 * first) length = some next ∧
    ScalarBlitter.blitFrom first length source.words start (alpha.map (·.bytes)) wire pixels =
      some reference ∧
    (∀ x, x < base + 2 * first ∨ base + 2 * first + 2 * length ≤ x → next x = m x) ∧
    ∀ i word, reference[i]? = some word →
      Within 1 (wireOrder wire (next.lane (base + 2 * i))) (wireOrder wire word) ∧
      ((∀ backing ∈ alpha, ∀ k, i = first + k → backing.bytes[start + k]? = some 0 ∨
        backing.bytes[start + k]? = some 255) → next.lane (base + 2 * i) = word) := by
  have own : m.writeSpan _ (base + 2 * first) length = some (m.fill _ (base + 2 * first) length) :=
    Memory.writeSpan_eq_some fun k old short => drawable.pixelOf_eq short alphaPixel wire old
  refine ⟨_, _, drawable.drawn q2 q7 wire, own, drawable.reference wire,
    fun x outside => Memory.fill_outside outside, fun i word found => ?_⟩
  rw [Grid.getElem?_fill] at found
  obtain ⟨old, was, rfl⟩ := Option.map_eq_some_iff.mp found
  have before := drawable.held i old was
  by_cases within : first ≤ i ∧ i < first + length
  · obtain ⟨k, rfl⟩ := Nat.exists_eq_add_of_le within.1
    have short : k < length := by omega
    obtain ⟨color, a, valued, full, drawn'⟩ := drawable.pixel short
    rw [if_pos within, Nat.add_sub_cancel_left, Nat.mul_add, ← Nat.add_assoc,
      Memory.lane_fill_within short, Nat.add_assoc, ← Nat.mul_add, before, spanOf, spanOf,
      Renderer.drawn, Renderer.drawn, drawn', drawn', Option.getD_some, Option.getD_some]
    refine ⟨(composite_within (.refl 0 _) color a).mono (by split <;> omega),
      fun ends => composite_ends ?_ wire color old⟩
    cases alpha with
    | none => exact Or.inr (full rfl)
    | some backing =>
        have value := ends backing rfl k rfl
        rw [valued backing rfl, Option.some.injEq, Option.some.injEq] at value
        exact value
  · rw [if_neg within, Memory.lane_fill_outside (by omega), before]
    exact ⟨.refl _ _, fun _ => rfl⟩

end Agreement

/-- Every address has its own low byte. -/
def addresses : Memory := fun x => UInt8.ofNat x

/-- Twenty pixels of a buffer at the start of this memory, with slices that do not begin at the
start of a block. -/
theorem drawable_addresses : Drawable Checked.u32Max addresses 0 (addresses.words 0 40) 3 20
    ⟨98, addresses.words 98 32⟩ 2 (some ⟨203, addresses.bytes 203 32⟩) where
  room := by decide
  even := rfl
  held := Memory.holds_words _ _
  fits := by simp
  readable := ⟨rfl, Memory.holds_words _ _, by simp⟩
  ends := by simp [Checked.u32Max]
  inside := by simp
  values backing same := by
    cases same
    exact ⟨⟨Memory.holdsBytes_bytes _ _, by simp⟩, by simp [Checked.u32Max], by simp⟩

theorem blitFrom_agrees_addresses : ∃ next,
    blitFrom Checked.u32Max (.ofBytes fun _ => 7) (.ofBytes UInt8.ofNat) 6 20
      ⟨98, addresses.words 98 32⟩ 2 (some ⟨203, addresses.bytes 203 32⟩) true addresses =
        some next ∧
    ∀ x, x < 6 ∨ 46 ≤ x → next x = addresses x := by
  obtain ⟨next, reference, ran, -, -, outside, -⟩ :=
    blitFrom_agrees drawable_addresses (.ofBytes fun _ => 7) (.ofBytes UInt8.ofNat) true
  exact ⟨next, ran, outside⟩

/-! ## Columns -/

/-- `SampledSpan::draw`, onto words in the memory -/
def drawOnto (source : SampledSpan) (dst length : ℕ) (wire : Bool) (m : Memory) :
    Option Memory := do
  guard (length = source.columns.size)
  m.writeSpan (source.pixelWith alphaPixel wire) dst length

/-- Where the texture and the columns of a span lie. -/
structure Places where
  pixels : ℕ
  alpha : ℕ
  columns : ℕ

/-- Where the row of alpha values lies, or null. -/
def Places.alphaRow (places : Places) (source : SampledSpan) (row : SampledSpan.Nearest) : ℕ :=
  if row.alpha.isSome then places.alpha + source.rows.1 else 0

def sample (places : Places) (dst length : ℕ) (source : SampledSpan) (wire : Bool) (m : Memory) :
    Option Memory := do
  match ← source.nearest with
  | some row =>
      guard (length = source.columns.size)
      let lead := min (((16 - (dst &&& 15)) &&& 15) / 2) length
      let rest ← Checked.sub length lead
      inParts length (lead, rest / 8 * 8)
        (fun first count m => do
          let part ← source.slice first (first + count)
          drawOnto part (dst + 2 * first) count wire m)
        (sampleNearestPie (dst + 2 * lead) (places.pixels + 2 * source.rows.1)
          (places.columns + 4 * lead) (places.alphaRow source row) (rest / 8 * 8 / 8) wire) m
  | none => drawOnto source dst length wire m

/-- The columns have been validated against the row. -/
structure InRange (source : SampledSpan) : Prop where
  columns : ∀ (k : ℕ) (column : ColumnSample), source.columns[k]? = some column →
    column.first.toNat ≤ source.lastColumn.toNat
  colors : source.rows.1 + source.lastColumn.toNat < source.texture.pixels.size
  alpha : ∀ alpha blocks, source.texture.coverage = .alpha8 alpha blocks →
    source.rows.1 + source.lastColumn.toNat < alpha.size

/-- A span as the rasterizer makes it. -/
structure ValidatedSpan where
  span : SampledSpan
  inRange : InRange span

/-- The texture and the columns lie in the memory, and none of them is in the span. -/
structure Places.Readable (places : Places) (source : SampledSpan) (m : Memory)
    (dst length : ℕ) : Prop where
  pixels : (WordSlice.mk places.pixels source.texture.pixels).Readable m dst length
  alpha : (ByteSlice.mk places.alpha source.texture.coverage.alpha).Readable m dst length
  present : 0 < places.alpha
  columns : ∀ (k : ℕ) (column : ColumnSample), source.columns[k]? = some column →
    m.lane (places.columns + 4 * k) = column.first
  apart : places.columns + 4 * source.columns.size ≤ dst ∨ dst + 2 * length ≤ places.columns

section Samples

variable {source : SampledSpan} {places : Places} {m : Memory} {dst length n k : ℕ} {wire : Bool}
  {g : ℕ → UInt16 → UInt16}

theorem pixelWith_part {part : SampledSpan} {first count : ℕ}
    (taken : source.slice first (first + count) = some part) (short : k < count) (old : UInt16) :
    part.pixelWith alphaPixel wire k old = source.pixelWith alphaPixel wire (first + k) old := by
  obtain ⟨columns, sliced, rfl⟩ := Option.map_eq_some_iff.mp taken
  rw [slice?] at sliced
  split at sliced
  · cases sliced
    rw [SampledSpan.pixelWith, SampledSpan.pixelWith, getElem?_extract_of_lt (by omega)]
    rfl
  · cases sliced

/-- What a column reads of the row, and what becomes of its pixel. -/
structure Sample (source : SampledSpan) (wire : Bool) (k : ℕ) (column : ColumnSample)
    (color : UInt16) (a : UInt8) : Prop where
  takes : source.columns[k]? = some column
  found : source.texture.pixels[source.rows.1 + column.first.toNat]? = some color
  clear : source.texture.coverage = .fullyOpaque → a = 255
  value : ∀ alpha blocks, source.texture.coverage = .alpha8 alpha blocks →
    alpha[source.rows.1 + column.first.toNat]? = some a
  pixel : ∀ old, source.pixelWith alphaPixel wire k old =
    some (compositeWith alphaPixel wire color a old)

variable (wire) in
/-- Every column of the span has a color and an alpha value. -/
theorem InRange.sample (range : InRange source) (near : source.bilinear = false)
    (uncut : ∀ bits blocks, source.texture.coverage ≠ .cutout bits blocks)
    (short : k < source.columns.size) : ∃ column color a, Sample source wire k column color a := by
  have found : source.columns[k]? = some source.columns[k] := Array.getElem?_eq_getElem short
  have inRow := range.columns k _ found
  have colors := range.colors
  obtain ⟨place, isPlace⟩ : ∃ place, source.rows.1 + source.columns[k].first.toNat = place :=
    ⟨_, rfl⟩
  have color : source.texture.pixels[place]? = some source.texture.pixels[place] :=
    Array.getElem?_eq_getElem (by omega)
  have drawn : ∀ {a : UInt8}, (if source.texture.coverage.isAlpha
      then source.texture.coverage.alphaAt place else some 255) = some a → ∀ old,
        source.pixelWith alphaPixel wire k old =
          some (compositeWith alphaPixel wire source.texture.pixels[place] a old) := by
    intro a value old
    rw [SampledSpan.pixelWith, found, Option.bind_eq_bind, Option.bind_some,
      SampledSpan.sampleWith, near, Bool.false_and, if_neg Bool.false_ne_true, SampledSpan.kindWith,
      isPlace, value,
      Option.bind_eq_bind, Option.bind_some, SampledSpan.color, near, if_neg Bool.false_ne_true,
      isPlace, color]
    by_cases clear : a = 0
    · rw [if_pos clear, compositeWith, if_pos clear]
      rfl
    · rw [if_neg clear]
      rfl
  cases coverage : source.texture.coverage with
  | fullyOpaque =>
      rw [coverage] at drawn
      refine ⟨_, _, 255, found, isPlace ▸ color, fun _ => rfl, fun alpha blocks same => ?_,
        drawn rfl⟩
      cases coverage.symm.trans same
  | cutout bits blocks => exact absurd coverage (uncut bits blocks)
  | alpha8 alpha blocks =>
      have within := range.alpha alpha blocks coverage
      have value : alpha[place]? = some alpha[place] := Array.getElem?_eq_getElem (by omega)
      rw [coverage] at drawn
      refine ⟨_, _, alpha[place], found, isPlace ▸ color, fun same => ?_,
        fun other blocks' same => ?_, drawn value⟩
      · cases coverage.symm.trans same
      · cases coverage.symm.trans same
        exact isPlace ▸ value

/-- Nearest samples can be drawn wherever there is room for them. -/
theorem InRange.drawWith_eq (range : InRange source) (near : source.bilinear = false)
    (uncut : ∀ bits blocks, source.texture.coverage ≠ .cutout bits blocks) {first : ℕ}
    {pixels : Array UInt16} (fits : first + source.columns.size ≤ pixels.size) :
    ∃ after, source.drawWith alphaPixel first wire pixels = some after := by
  refine ⟨_, writeSpan_eq_some (g := fun k old =>
    (source.pixelWith alphaPixel wire k old).getD old) fits fun k old short => ?_⟩
  obtain ⟨column, color, a, sample⟩ := range.sample wire near uncut short
  rw [sample.pixel old, Option.getD_some]

/-- The row of nearest samples. -/
theorem InRange.nearest_eq (range : InRange source) (near : source.bilinear = false)
    (uncut : ∀ bits blocks, source.texture.coverage ≠ .cutout bits blocks) :
    ∃ row, source.nearest = some (some row) ∧ (row.alpha.isSome = true ↔
      ∃ alpha blocks, source.texture.coverage = .alpha8 alpha blocks) := by
  have colors := range.colors
  have sliced : slice? source.texture.pixels source.rows.1
      (source.rows.1 + source.lastColumn.toNat + 1) = some _ :=
    slice?_eq_some (by omega) (by omega)
  rw [SampledSpan.nearest]
  cases coverage : source.texture.coverage with
  | fullyOpaque =>
      rw [near]
      dsimp only
      rw [sliced]
      exact ⟨_, rfl, by simp⟩
  | cutout bits blocks => exact absurd coverage (uncut bits blocks)
  | alpha8 alpha blocks =>
      have within := range.alpha alpha blocks coverage
      rw [near]
      dsimp only
      rw [sliced, Coverage.alpha, slice?_eq_some (by omega) (by omega)]
      exact ⟨_, rfl, by simp⟩

/-- Part of a span is drawn as the span. -/
theorem drawOnto_part {first count : ℕ} (within : first + count ≤ source.columns.size)
    (drawn : ∀ k, k < source.columns.size → ∀ old,
      source.pixelWith alphaPixel wire k old = some (g k old)) :
    (do
      let part ← source.slice first (first + count)
      drawOnto part dst count wire m) = some (m.fill (fun k => g (first + k)) dst count) := by
  have sliced : slice? source.columns first (first + count) =
      some (source.columns.extract first (first + count)) := slice?_eq_some (by omega) (by omega)
  have size : (source.columns.extract first (first + count)).size = count := by
    rw [Array.size_extract]
    omega
  obtain ⟨part, taken, columns⟩ : ∃ part, source.slice first (first + count) = some part ∧
      part.columns = source.columns.extract first (first + count) := by
    rw [SampledSpan.slice, sliced]
    exact ⟨_, rfl, rfl⟩
  rw [taken, Option.bind_eq_bind, Option.bind_some, drawOnto, guard, columns, if_pos size.symm]
  apply Memory.writeSpan_eq_some
  intro k old short
  rw [pixelWith_part taken short, drawn _ (by omega)]

/-- What the routine reads for a column, after the first words of the span have been drawn. -/
theorem Places.Readable.reads (readable : places.Readable source m dst source.columns.size)
    {lead : ℕ} (fewer : lead ≤ source.columns.size) {column : ColumnSample} {color : UInt16}
    {a : UInt8} (sample : Sample source wire (lead + k) column color a) :
    columnPlace (m.fill g dst lead) (places.columns + 4 * lead) k = column.first.toNat ∧
      (m.fill g dst lead).lane (places.pixels + 2 * source.rows.1 + 2 * column.first.toNat) =
        color ∧
      ((∃ alpha blocks, source.texture.coverage = .alpha8 alpha blocks) →
        m.fill g dst lead (places.alpha + source.rows.1 + column.first.toNat) = a) := by
  obtain ⟨inside, -⟩ := Array.getElem?_eq_some_iff.mp sample.takes
  have apart := readable.apart
  refine ⟨?_, ?_, ?_⟩
  · rw [columnPlace, Nat.add_assoc, ← Nat.mul_add, Memory.lane_fill_outside (by omega),
      readable.columns _ column sample.takes]
  · rw [Nat.add_assoc, ← Nat.mul_add]
    exact readable.pixels.word fewer sample.found
  · rintro ⟨alpha, blocks, coverage⟩
    rw [Nat.add_assoc]
    apply readable.alpha.byte fewer
    rw [coverage]
    exact sample.value alpha blocks coverage

section Nearest

variable (readable : places.Readable source m dst source.columns.size)
  (range : InRange source) (near : source.bilinear = false)
  (uncut : ∀ bits blocks, source.texture.coverage ≠ .cutout bits blocks)
  {row : SampledSpan.Nearest} (hasAlpha : row.alpha.isSome = true ↔
    ∃ alpha blocks, source.texture.coverage = .alpha8 alpha blocks)
  {lead bulk : ℕ} (within : lead + bulk ≤ source.columns.size)

include readable range near uncut hasAlpha within

/-- Nothing that the routine reads is in the part of the span that it writes. -/
theorem columnsUntouched : ColumnsUntouched (m.fill g dst lead) (dst + 2 * lead)
    (places.pixels + 2 * source.rows.1) (places.columns + 4 * lead)
    (places.alphaRow source row) bulk := by
  have apart := readable.apart
  have pixelsApart := readable.pixels.apart
  have alphaApart := readable.alpha.apart
  dsimp only at pixelsApart alphaApart
  refine ⟨fun k short => ?_, fun k short => ?_, fun given k short => ?_⟩
  · omega
  · obtain ⟨column, color, a, sample⟩ := range.sample false near uncut
      (show lead + k < source.columns.size by omega)
    obtain ⟨inside, -⟩ := Array.getElem?_eq_some_iff.mp sample.found
    rw [(readable.reads (by omega) sample).1]
    omega
  · obtain ⟨column, color, a, sample⟩ := range.sample false near uncut
      (show lead + k < source.columns.size by omega)
    have has : row.alpha.isSome = true := by
      by_contra none
      rw [Places.alphaRow, if_neg none] at given
      exact given rfl
    obtain ⟨alpha, blocks, coverage⟩ := hasAlpha.mp has
    obtain ⟨inside, -⟩ := Array.getElem?_eq_some_iff.mp (sample.value alpha blocks coverage)
    rw [coverage, Coverage.alpha] at alphaApart
    rw [Places.alphaRow, if_pos has, (readable.reads (by omega) sample).1]
    omega

/-- The routine draws the pixels of the span. -/
theorem sampled_eq (short : k < bulk) (old : UInt16) :
    some (sampled (m.fill g dst lead) (places.pixels + 2 * source.rows.1)
      (places.columns + 4 * lead) (places.alphaRow source row) wire k old) =
        source.pixelWith alphaPixel wire (lead + k) old := by
  obtain ⟨column, color, a, sample⟩ := range.sample wire near uncut
    (show lead + k < source.columns.size by omega)
  obtain ⟨atColumn, atColor, atValue⟩ := readable.reads (g := g) (by omega) sample
  rw [sampled, atColumn, atColor, sample.pixel old, Places.alphaRow]
  by_cases has : row.alpha.isSome = true
  · have present := readable.present
    rw [if_pos has, if_neg (by omega), atValue (hasAlpha.mp has)]
  · rw [if_neg has, if_pos rfl]
    cases coverage : source.texture.coverage with
    | fullyOpaque =>
        rw [sample.clear coverage]
        rfl
    | cutout bits blocks => exact absurd coverage (uncut bits blocks)
    | alpha8 alpha blocks => exact absurd (hasAlpha.mpr ⟨alpha, blocks, coverage⟩) has

end Nearest

/-- **Samples of columns are drawn as the plain loop draws them.** -/
theorem sample_eq (validated : ValidatedSpan) (even : dst % 2 = 0)
    (readable : places.Readable validated.span m dst validated.span.columns.size) :
    sample places dst validated.span.columns.size validated.span wire m =
      drawOnto validated.span dst validated.span.columns.size wire m := by
  obtain ⟨source, range⟩ := validated
  dsimp only at readable ⊢
  by_cases near : source.bilinear = false ∧
      ∀ bits blocks, source.texture.coverage ≠ .cutout bits blocks
  · obtain ⟨near, uncut⟩ := near
    obtain ⟨row, isRow, hasAlpha⟩ := range.nearest_eq near uncut
    obtain ⟨g, drawn⟩ : ∃ g : ℕ → UInt16 → UInt16, ∀ k, k < source.columns.size → ∀ old,
        source.pixelWith alphaPixel wire k old = some (g k old) := by
      refine ⟨fun k old => (source.pixelWith alphaPixel wire k old).getD old,
        fun k short old => ?_⟩
      obtain ⟨column, color, a, sample⟩ := range.sample wire near uncut short
      dsimp only
      rw [sample.pixel old, Option.getD_some]
    have plain : drawOnto source dst source.columns.size wire m =
        some (m.fill g dst source.columns.size) := by
      rw [drawOnto, guard, if_pos rfl]
      exact Memory.writeSpan_eq_some fun k old short => drawn k short old
    obtain ⟨lead, upTo, aligned, leadIs⟩ := lead_aligned source.columns.size even
    rw [plain, sample, isRow, Option.bind_eq_bind, Option.bind_some]
    dsimp only
    rw [guard, if_pos rfl, pure_bind, leadIs, Checked.sub_of_le upTo, Option.bind_eq_bind,
      Option.bind_some]
    obtain ⟨bulk, isBulk⟩ : ∃ bulk, (source.columns.size - lead) / 8 * 8 = bulk := ⟨_, rfl⟩
    have within : lead + bulk ≤ source.columns.size := by omega
    have eights : 8 * (bulk / 8) = bulk := by omega
    rw [isBulk]
    apply inParts_eq within
    · intro first count after part
      exact drawOnto_part part drawn
    · dsimp only
      intro some'
      have untouched := columnsUntouched (g := g) readable range near uncut hasAlpha within
      rw [← eights] at untouched
      rw [sampleNearestPie_eq (aligned (by omega)) untouched, eights]
      apply Memory.fill_congr
      intro k short old
      apply Option.some.inj
      rw [sampled_eq readable range near uncut hasAlpha within short, drawn _ (by omega)]
  · have none : source.nearest = some none := by
      rw [SampledSpan.nearest]
      cases bilinear : source.bilinear with
      | true => rfl
      | false =>
          cases coverage : source.texture.coverage with
          | fullyOpaque => exact absurd ⟨bilinear, by simp [coverage]⟩ near
          | cutout bits blocks => rfl
          | alpha8 alpha blocks => exact absurd ⟨bilinear, by simp [coverage]⟩ near
    rw [sample, none]
    rfl

/-- **Samples of columns are the same**, and nothing outside the span is written. -/
theorem sample_agrees (validated : ValidatedSpan) {base first : ℕ} {pixels after : Array UInt16}
    (even : base % 2 = 0) (held : m.Holds base pixels)
    (readable : places.Readable validated.span m (base + 2 * first) validated.span.columns.size)
    (plain : validated.span.drawWith alphaPixel first wire pixels = some after) : ∃ next,
      sample places (base + 2 * first) validated.span.columns.size validated.span wire m =
        some next ∧
      next.Holds base after ∧
      ∀ x, x < base + 2 * first ∨ base + 2 * first + 2 * validated.span.columns.size ≤ x →
        next x = m x := by
  obtain ⟨next, ran, kept⟩ := held.writeSpan plain
  refine ⟨next, ?_, kept⟩
  rw [sample_eq validated (by omega) readable, drawOnto, guard, if_pos rfl]
  exact ran

end Samples

/-- Nothing below a texture, and the same byte everywhere in it. -/
def plateau : Memory := fun x => if x < 300 then 0 else 7

/-- Nine columns of the first texel of a row of four. -/
def nineColumns : SampledSpan where
  texture := {
    size := ⟨4, 1⟩
    pixels := plateau.words 300 4
    coverage := .alpha8 (plateau.bytes 400 4) ⟨⟨4, 1⟩, #[0], by decide, by decide⟩ }
  columns := Array.replicate 9 ⟨0, 0⟩
  rows := (0, 0)
  lastColumn := 3
  fractionY := 0
  bilinear := false

theorem nineColumns_eq {k : ℕ} {column : ColumnSample}
    (found : nineColumns.columns[k]? = some column) : k < 9 ∧ column = ⟨0, 0⟩ := by
  obtain ⟨inside, here⟩ := Array.getElem?_eq_some_iff.mp found
  exact ⟨inside, here.symm.trans (Array.getElem_replicate inside)⟩

theorem nineColumns_inRange : InRange nineColumns where
  columns k column found := by
    obtain ⟨-, rfl⟩ := nineColumns_eq found
    exact Nat.zero_le _
  colors := by simp [nineColumns]
  alpha alpha blocks coverage := by
    cases coverage
    simp [nineColumns]

theorem sample_agrees_plateau : ∃ next,
    sample ⟨300, 400, 100⟩ 16 9 nineColumns true plateau = some next ∧
    ∀ x, x < 16 ∨ 34 ≤ x → next x = plateau x := by
  have readable : Places.Readable ⟨300, 400, 100⟩ nineColumns plateau (0 + 2 * 8)
      nineColumns.columns.size := by
    refine ⟨⟨rfl, Memory.holds_words _ _, ?_⟩, ⟨Memory.holdsBytes_bytes _ _, ?_⟩, by decide,
      fun k column found => ?_, ?_⟩
    · simp [nineColumns]
    · simp [nineColumns]
    · obtain ⟨short, rfl⟩ := nineColumns_eq found
      have low : 100 + 4 * k + 1 < 300 := by omega
      rw [Memory.lane, plateau, plateau, if_pos low, if_pos (Nat.lt_of_succ_lt low)]
      rfl
    · simp [nineColumns]
  obtain ⟨after, plain⟩ : ∃ after,
      nineColumns.drawWith alphaPixel 8 true (plateau.words 0 40) = some after :=
    nineColumns_inRange.drawWith_eq rfl (by simp [nineColumns]) (by simp [nineColumns])
  obtain ⟨next, ran, -, outside⟩ := sample_agrees ⟨nineColumns, nineColumns_inRange⟩ rfl
    (Memory.holds_words 0 40) readable plain
  exact ⟨next, ran, outside⟩

end PieBlitter

end Renderer

end Deskkin
