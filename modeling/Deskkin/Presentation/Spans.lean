/-
# Spans draw their pixels

A span of some rows, read from the texture at native size or from the sampled columns,
shows the drawing of the board on its block of the screen and leaves the rest as it was.
What is known of a blitter is what its rows come to; those of the scalar blitter on a buffer
are the pixels of the board.
-/

import Deskkin.Presentation.Boards

namespace Deskkin.Presentation

open Loops Grid

/-- A row of the target is in the buffer. -/
theorem BandTarget.row_fits (target : BandTarget) {size y right : ℕ}
    (fits : target.stride * target.rows ≤ size) (upper : y < target.y + target.rows)
    (lower : target.y ≤ y) (narrow : right ≤ viewportWidth) :
    (y - target.y) * target.stride + right ≤ size := by
  have wide := target.wide
  calc (y - target.y) * target.stride + right
      ≤ (y - target.y + 1) * target.stride := by rw [Nat.succ_mul]; omega
    _ ≤ target.rows * target.stride := Nat.mul_le_mul_right _ (by omega)
    _ = target.stride * target.rows := Nat.mul_comm _ _
    _ ≤ size := fits

/-- The span lies in the area of the board and in the rows of the target. -/
structure InArea (board : SceneBillboard) (target : BandTarget) (top bottom left right : ℕ) :
    Prop where
  columns : left < right
  above : target.y ≤ top
  below : bottom ≤ target.y + target.rows
  inside : ∀ y x, top ≤ y → y < bottom → left ≤ x → x < right → (y, x) ∈ board.area

namespace InArea

variable {board : SceneBillboard} {target : BandTarget} {top bottom left right y : ℕ}

section

variable (area : InArea board target top bottom left right)
include area

theorem narrow (rows : top < bottom) : right ≤ viewportWidth := by
  have columns := area.columns
  have last := area.inside top (right - 1) (Nat.le_refl _) rows (by omega) (by omega)
  rw [SceneBillboard.mem_area] at last
  omega

theorem row (lower : top ≤ y) (upper : y < bottom) {size : ℕ}
    (fits : target.stride * target.rows ≤ size) :
    target.y ≤ y ∧ right ≤ target.stride ∧
      (y - target.y) * target.stride + right ≤ size := by
  have above := area.above
  have below := area.below
  have narrow := area.narrow (Nat.lt_of_le_of_lt lower upper)
  exact ⟨by omega, narrow.trans target.wide,
    target.row_fits fits (by omega) (by omega) narrow⟩

/-- One row of an area. -/
theorem single (lower : top ≤ y) (upper : y < bottom) :
    InArea board target y (y + 1) left right where
  columns := area.columns
  above := area.above.trans lower
  below := by
    have below := area.below
    omega
  inside row x low high := area.inside row x (by omega) (by omega)

end

/-- A row that is all of an area lies in the board and in the buffer. -/
theorem line (area : InArea board target y (y + 1) left right) {size : ℕ}
    (fits : target.stride * target.rows ≤ size) :
    (∀ x, left ≤ x → x < right → (y, x) ∈ board.area) ∧ target.y ≤ y ∧ right ≤ target.stride ∧
      (y - target.y) * target.stride + right ≤ size :=
  ⟨fun x => area.inside y x (Nat.le_refl _) (Nat.lt_succ_self _),
    area.row (Nat.le_refl _) (Nat.lt_succ_self _) fits⟩

end InArea

/-! ## Native spans -/

theorem placeOf_eq {origin : Int32} {pixel : ℕ} (from' : origin.toInt ≤ pixel)
    (far : (pixel : ℤ) < origin.toInt + (2 ^ 31 - 1)) :
    placeOf pixel origin = some (placeAt origin pixel) := by
  rw [placeOf, placeAt, if_pos (by omega)]

namespace SceneBillboard

variable {board : SceneBillboard} {wire : Bool} {target : BandTarget}
  {top bottom left right y x : ℕ} {pixels : Array UInt16}

theorem placeOf_row (inside : (y, x) ∈ board.area) :
    placeOf y board.projected.screenRect.y = some (placeAt board.projected.screenRect.y y) := by
  have small := board.projected.screenRect.height.toInt_lt
  rw [mem_area, viewportHeight] at inside
  exact placeOf_eq (by omega) (by omega)

theorem placeOf_column (inside : (y, x) ∈ board.area) :
    placeOf x board.projected.screenRect.x = some (placeAt board.projected.screenRect.x x) := by
  have small := board.projected.screenRect.width.toInt_lt
  rw [mem_area, viewportWidth] at inside
  exact placeOf_eq (by omega) (by omega)

/-- The index of the texel where a native row of the screen starts. -/
def rowOffset (board : SceneBillboard) (y left : ℕ) : ℕ :=
  (board.region.sourceY.toNat + placeAt board.projected.screenRect.y y) *
      board.region.stride.toNat +
    (board.region.sourceX.toNat + placeAt board.projected.screenRect.x left)

/-- The texels of a row are next to one another. -/
theorem rowOffset_add (from' : board.projected.screenRect.x.toInt ≤ left) (k : ℕ) :
    board.rowOffset y left + k = board.region.texel (placeAt board.projected.screenRect.y y)
      (placeAt board.projected.screenRect.x (left + k)) := by
  have columns : placeAt board.projected.screenRect.x left + k =
      placeAt board.projected.screenRect.x (left + k) := by
    rw [placeAt, placeAt]
    omega
  rw [rowOffset, TextureRegion.texel, ← columns]
  omega

section NativeRow

variable (native : board.native = true) (columns : left < right)
  (inside : ∀ x, left ≤ x → x < right → (y, x) ∈ board.area)

include native columns inside

variable (wire) in
/-- The texels of a native row have their colors and their coverage. -/
theorem nativeRow_texel {k : ℕ} (short : k < right - left) (dst : UInt16) : ∃ color a,
    board.texture.pixels[board.rowOffset y left + k]? = some color ∧
      board.texture.coverage.alphaAt (board.rowOffset y left + k) = some a ∧
      composite wire color a dst = board.drawing wire y (left + k) dst := by
  have first := mem_area.mp (inside left (Nat.le_refl _) columns)
  have here := inside (left + k) (by omega) (by omega)
  obtain ⟨color, a, colorFound, alphaFound, drawn⟩ := nativePixel_eq wire native here
  rw [rowOffset_add first.2.2.1]
  refine ⟨color, a, colorFound, alphaFound, Option.some.inj ?_⟩
  rw [← drawing_native native here, drawn]

/-- A native row ends within the region. -/
theorem nativeRow_end : board.rowOffset y left + (right - left) ≤
    (board.region.sourceY.toNat + board.region.height.toNat - 1) * board.region.stride.toNat +
      (board.region.sourceX.toNat + board.region.width.toNat) := by
  have first := mem_area.mp (inside left (Nat.le_refl _) columns)
  have last := inside (right - 1) (by omega) (by omega)
  have texel := RegionFits.texel_lt (texelY_lt last) (texelX_lt last)
  rw [(texel_native native y (right - 1)).1, (texel_native native y (right - 1)).2,
    show right - 1 = left + (right - left - 1) by omega, ← rowOffset_add first.2.2.1] at texel
  omega

variable (above : target.y ≤ y) (wide : right ≤ target.stride)
  (fits : (y - target.y) * target.stride + right ≤ pixels.size)

include above wide fits

theorem cutoutRow_eq {bits : Array UInt8} {blocks : Mask8}
    (coverage : board.texture.coverage = .cutout bits blocks) :
    ScalarBlitter.cutout ((y - target.y) * target.stride + left) (right - left)
        board.texture.pixels (board.rowOffset y left) bits wire pixels =
      some (shade target.y target.stride (restrict (block y (y + 1) left right)
        (board.drawing wire)) pixels) := by
  have ends := nativeRow_end native columns inside
  have colors := board.fits.colors
  have held := board.fits.coverage
  rw [coverage] at held
  have enough : divCeil _ 8 ≤ bits.size := of_decide_eq_true held
  have bytes : divCeil (board.rowOffset y left + (right - left)) 8 ≤ bits.size :=
    (Nat.div_le_div_right (by omega)).trans enough
  rw [ScalarBlitter.cutout, guard, if_pos bytes, slice?_eq_some (by omega) (by omega)]
  apply writeSpan_row above (Nat.le_of_lt columns) wide fits
  intro k dst short
  obtain ⟨color, a, colorFound, alphaFound, drawn⟩ :=
    nativeRow_texel wire native columns inside short dst
  rw [coverage] at alphaFound
  obtain ⟨set, found, rfl⟩ := Option.map_eq_some_iff.mp alphaFound
  rw [getElem?_extract_of_lt (by omega), colorFound, Option.bind_eq_bind, Option.bind_some, found,
    ← drawn]
  cases set with
  | false => rfl
  | true => exact congrArg some (composite_full color dst).symm

variable (wire) in
theorem blitRow_eq (uncut : ∀ bits blocks, board.texture.coverage ≠ .cutout bits blocks) :
    ScalarBlitter.blitFrom ((y - target.y) * target.stride + left) (right - left)
        board.texture.pixels (board.rowOffset y left)
        (if board.texture.coverage.isAlpha then some board.texture.coverage.alpha else none) wire
        pixels =
      some (shade target.y target.stride (restrict (block y (y + 1) left right)
        (board.drawing wire)) pixels) := by
  have ends := nativeRow_end native columns inside
  have colors := board.fits.colors
  have held := board.fits.coverage
  have size : right - left = (board.texture.pixels.extract (board.rowOffset y left)
      (board.rowOffset y left + (right - left))).size := by
    rw [Array.size_extract]
    omega
  rw [ScalarBlitter.blitFrom.eq_def, slice?_eq_some (by omega) (by omega)]
  cases coverage : board.texture.coverage with
  | cutout bits blocks => exact absurd coverage (uncut bits blocks)
  | fullyOpaque =>
      show ScalarBlitter.blit _ _ _ none _ _ = _
      rw [ScalarBlitter.blit, guard, if_pos size]
      apply writeSpan_row above (Nat.le_of_lt columns) wide fits
      intro k dst short
      obtain ⟨color, a, colorFound, alphaFound, drawn⟩ :=
        nativeRow_texel wire native columns inside short dst
      rw [coverage] at alphaFound
      cases alphaFound
      rw [getElem?_extract_of_lt (by omega), colorFound, ← drawn]
      rfl
  | alpha8 alpha blocks =>
      rw [coverage] at held
      have enough : _ ≤ alpha.size := of_decide_eq_true held
      have sameSize : (alpha.extract (board.rowOffset y left)
          (board.rowOffset y left + (right - left))).size =
          (board.texture.pixels.extract (board.rowOffset y left)
            (board.rowOffset y left + (right - left))).size := by
        rw [← size, Array.size_extract]
        omega
      show ((slice? alpha _ _).map some >>= fun alpha => ScalarBlitter.blit _ _ _ alpha _ _) = _
      rw [slice?_eq_some (by omega) (by omega), Option.map_some, Option.bind_eq_bind,
        Option.bind_some, ScalarBlitter.blit, guard, if_pos size, guard,
        if_pos (by simpa using sameSize)]
      apply writeSpan_row above (Nat.le_of_lt columns) wide fits
      intro k dst short
      obtain ⟨color, a, colorFound, alphaFound, drawn⟩ :=
        nativeRow_texel wire native columns inside short dst
      rw [coverage, Coverage.alphaAt] at alphaFound
      have value : (alpha.extract (board.rowOffset y left)
          (board.rowOffset y left + (right - left)))[k]? = some a := by
        rw [getElem?_extract_of_lt (by omega), alphaFound]
      rw [getElem?_extract_of_lt (by omega), colorFound, Option.bind_eq_bind, Option.bind_some]
      dsimp only
      rw [value, ← drawn]
      rfl

end NativeRow

/-- The blitter draws rows of the board at native size. -/
def DrawsNative {σ : Type} (canvas : Canvas UInt16 σ) (s : σ) (blitter : Blitter σ)
    (board : SceneBillboard) (target : BandTarget) (wire : Bool) (draw : Drawing UInt16) : Prop :=
  ∀ y left right, InArea board target y (y + 1) left right →
    canvas.Draws s (nativeRow blitter board.texture wire ((y - target.y) * target.stride + left)
      (right - left) (board.rowOffset y left)) (restrict (block y (y + 1) left right) draw)

section Targets

variable {σ : Type} {canvas : Canvas UInt16 σ} {s : σ} {blitter : Blitter σ} {draw : Drawing UInt16}

/-- **A native span draws its block.** -/
theorem nativeSpanOn_spec (rows : DrawsNative canvas s blitter board target wire draw)
    (area : InArea board target top bottom left right) (nonempty : top < bottom) :
    canvas.Draws s (nativeSpanOn blitter target board.projected.screenRect board.texture
      board.region wire top bottom left right) (restrict (block top bottom left right) draw) := by
  intro t reached
  have columns := area.columns
  have start := area.inside top left (Nat.le_refl _) nonempty (Nat.le_refl _) columns
  have drawn : Ensures (nativeSpanOn blitter target board.projected.screenRect board.texture
      board.region wire top bottom left right t)
        (· = canvas.shade (restrict (block top bottom left right) draw) t) := by
    rw [nativeSpanOn]
    apply Ensures.step (placeOf_column start)
    apply (forRange_rule (fun y u => u = canvas.shade
      (restrict (block top y left right) draw) t) _ _).mono
    · intro u done
      rwa [Nat.add_sub_cancel' (Nat.le_of_lt nonempty)] at done
    · rw [block_self, Canvas.shade_restrict_empty]
    · rintro y _ lower upper rfl
      have row := area.single lower (by omega)
      apply Ensures.step (placeOf_row
        (row.inside y left (Nat.le_refl _) (Nat.lt_succ_self _) (Nat.le_refl _) columns))
      rw [← Canvas.shade_block_succ lower]
      exact ⟨_, rows y left right row _ (reached.shade _), rfl⟩
  obtain ⟨_, ran, rfl⟩ := drawn
  exact ran

end Targets

/-- The scalar blitter draws the rows of a native board onto a buffer. -/
theorem scalar_drawsNative (native : board.native = true)
    (fits : target.stride * target.rows ≤ pixels.size) :
    DrawsNative (Grid.rows UInt16 target.y target.stride) pixels ScalarBlitter.blitter board target
      wire (board.drawing wire) := by
  intro y left right area t reached
  rw [← size_of_reached reached] at fits
  obtain ⟨here, above, wide, inBuffer⟩ := area.line fits
  have columns := area.columns
  rw [nativeRow]
  cases coverage : board.texture.coverage with
  | cutout bits blocks =>
      exact cutoutRow_eq native columns here above wide inBuffer coverage
  | fullyOpaque =>
      have row := blitRow_eq wire native columns here above wide inBuffer
        fun bits blocks cut => by rw [coverage] at cut; cases cut
      rw [coverage] at row
      exact row
  | alpha8 alpha blocks =>
      have row := blitRow_eq wire native columns here above wide inBuffer
        fun bits blocks cut => by rw [coverage] at cut; cases cut
      rw [coverage] at row
      exact row

/-! ## Sampled rows -/

/-- The samples of the columns of a span. -/
def columnsOf (board : SceneBillboard) (left right : ℕ) : Array ColumnSample :=
  (Array.range (right - left)).map fun k => board.columnAt (left + k)

@[simp]
theorem size_columnsOf : (board.columnsOf left right).size = right - left := by
  rw [columnsOf, Array.size_map, Array.size_range]

theorem getElem?_columnsOf {k : ℕ} (short : k < right - left) :
    (board.columnsOf left right)[k]? = some (board.columnAt (left + k)) := by
  rw [columnsOf, Array.getElem?_map, Array.getElem?_range, if_pos short, Option.map_some]

/-- The rows of a block, with the stepper at the first of them. -/
def rowsOf (board : SceneBillboard) (target : BandTarget) (top bottom left right : ℕ) :
    RasterRows where
  origin := target.y
  stride := target.stride
  left := left
  top := top
  bottom := bottom
  columns := board.columnsOf left right
  y := .placed board.region.height board.projected.screenRect.height
    (placeAt board.projected.screenRect.y top)
  region := board.region

/-- The stepper goes on to the next row. -/
theorem take_row (inside : (y, x) ∈ board.area) :
    (AxisStepper.placed board.region.height board.projected.screenRect.height
      (placeAt board.projected.screenRect.y y)).take =
      some (AxisStepper.quotient board.region.height board.projected.screenRect.height
          (placeAt board.projected.screenRect.y y),
        .placed board.region.height board.projected.screenRect.height
          (placeAt board.projected.screenRect.y (y + 1))) := by
  have place := (place_lt inside).1
  have next : placeAt board.projected.screenRect.y (y + 1) =
      placeAt board.projected.screenRect.y y + 1 := by
    rw [mem_area] at inside
    rw [placeAt, placeAt]
    omega
  rw [next, AxisStepper.take_placed place]

theorem span_eq (y : ℕ) : (board.rowsOf target top bottom left right).span board.texture
    board.projected.filter (AxisStepper.quotient board.region.height
      board.projected.screenRect.height (placeAt board.projected.screenRect.y y)) =
      some { board.spanAt y with columns := board.columnsOf left right } := by
  have narrow := board.texture.size.width.toNat_lt
  have right := board.fits.right
  rw [RasterRows.span]
  dsimp only [rowsOf]
  rw [Checked.add_of_le (by rw [Checked.u16Max]; omega)]
  rfl

/-- The blitter draws rows of the board by its samples, whose columns begin there in the
scratch. -/
def DrawsSamples {σ : Type} (canvas : Canvas UInt16 σ) (s : σ) (blitter : Blitter σ)
    (columns : ℕ → ℕ) (board : SceneBillboard) (target : BandTarget) (wire : Bool)
    (draw : Drawing UInt16) : Prop :=
  ∀ y left right, InArea board target y (y + 1) left right →
    canvas.Draws s (blitter.sample ((y - target.y) * target.stride + left)
      { board.spanAt y with columns := board.columnsOf left right } (columns left) wire)
        (restrict (block y (y + 1) left right) draw)

section Targets

variable {σ : Type} {canvas : Canvas UInt16 σ} {s : σ} {blitter : Blitter σ} {draw : Drawing UInt16}
  {columns : ℕ → ℕ}

/-- **Sampled rows draw their block.** -/
theorem drawOn_spec (samples : DrawsSamples canvas s blitter columns board target wire draw)
    (area : InArea board target top bottom left right) (ordered : top ≤ bottom) :
    canvas.Draws s ((board.rowsOf target top bottom left right).drawOn blitter (columns left)
      board.texture board.projected.filter wire) (restrict (block top bottom left right) draw) := by
  intro t reached
  have drawn : Ensures ((board.rowsOf target top bottom left right).drawOn blitter (columns left)
      board.texture board.projected.filter wire t)
        (· = canvas.shade (restrict (block top bottom left right) draw) t) := by
    rw [RasterRows.drawOn]
    apply (forRange_rule (fun y state => state =
      (AxisStepper.placed board.region.height board.projected.screenRect.height
          (placeAt board.projected.screenRect.y y),
        canvas.shade (restrict (block top y left right) draw) t)) _ _).bind
    · rintro _ rfl
      apply Ensures.value
      show canvas.shade (restrict (block top (top + (bottom - top)) left right) _) _ = _
      rw [Nat.add_sub_cancel' ordered]
    · show _ = (_, canvas.shade (restrict (block top top left right) _) _)
      rw [block_self, Canvas.shade_restrict_empty]
      rfl
    · rintro y _ lower upper rfl
      have fromTop : top ≤ y := lower
      have row := area.single fromTop (upper.trans_eq (Nat.add_sub_cancel' ordered))
      have here := row.inside y left (Nat.le_refl _) (Nat.lt_succ_self _) (Nat.le_refl _)
        area.columns
      have sampled := samples y left right row _
        (reached.shade (restrict (block top y left right) draw))
      rw [Canvas.shade_block_succ fromTop] at sampled
      rw [RasterRows.drawRowOn, take_row here, Option.bind_eq_bind, Option.bind_some]
      dsimp only
      rw [span_eq]
      apply Ensures.step rfl
      exact Ensures.step sampled (.value rfl)
  obtain ⟨_, ran, rfl⟩ := drawn
  exact ran

end Targets

/-- The samples of the scalar blitter draw the rows of a board onto a buffer. -/
theorem scalar_drawsSamples (fits : target.stride * target.rows ≤ pixels.size)
    (columns : ℕ → ℕ) : DrawsSamples (Grid.rows UInt16 target.y target.stride) pixels
      ScalarBlitter.blitter columns board target wire (board.drawing wire) := by
  intro y left right area t reached
  rw [← size_of_reached reached] at fits
  obtain ⟨here, above, wide, inBuffer⟩ := area.line fits
  show SampledSpan.draw _ _ wire t = _
  rw [SampledSpan.draw]
  dsimp only
  rw [size_columnsOf]
  apply writeSpan_row above (Nat.le_of_lt area.columns) wide inBuffer
  intro k dst short
  rw [getElem?_columnsOf short, ← drawing_sampled (here (left + k) (by omega) (by omega))]
  rfl

end SceneBillboard

end Deskkin.Presentation
