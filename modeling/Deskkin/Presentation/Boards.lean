/-
# The pixels of a board

What a board does to one pixel: it takes a texel, or filters four of them, and puts
the color onto what is there. The spans, rows and loops of the renderer all come to
this drawing, restricted to the pixels that are visible.
-/

import Deskkin.Presentation.Colors
import Deskkin.Presentation.Covering

namespace Deskkin.Presentation

open Loops Grid

/-- In an opaque texture the coverage need not be looked up. -/
theorem Coverage.lookedUp {coverage : Coverage} {i : ℕ} {a : UInt8}
    (found : coverage.alphaAt i = some a) :
    (if coverage.isAlpha then coverage.alphaAt i else some 255) = some a := by
  cases coverage with
  | fullyOpaque => exact found
  | cutout bits blocks => exact found
  | alpha8 alpha blocks => exact found

theorem SampledSpan.kind_eq {span : SampledSpan} {wire : Bool} {column : ColumnSample}
    {color : UInt16} {a : UInt8} (colored : span.color column = some color)
    (covered : (if span.texture.coverage.isAlpha
      then span.texture.coverage.alphaAt (span.rows.1 + column.first.toNat) else some 255) =
        some a) (dst : UInt16) :
    span.kind wire column dst = some (composite wire color a dst) := by
  rw [kind, covered, colored, Option.bind_eq_bind, Option.bind_some]
  split
  · rename_i clear
    rw [composite, if_pos clear]
    rfl
  · rfl

namespace SceneBillboard

variable (board : SceneBillboard) (wire : Bool)

/-- At native size a pixel has a texel of its own. -/
def nativePixel (y x : ℕ) (dst : UInt16) : Option UInt16 := do
  let index := board.region.texel (placeAt board.projected.screenRect.y y)
    (placeAt board.projected.screenRect.x x)
  let color ← board.texture.pixels[index]?
  let a ← board.texture.coverage.alphaAt index
  return composite wire color a dst

/-- The rows that are sampled for a row of the screen. -/
def spanAt (y : ℕ) : SampledSpan :=
  let coordinate := AxisStepper.quotient board.region.height board.projected.screenRect.height
    (placeAt board.projected.screenRect.y y)
  let sy := coordinate / 2 ^ 16
  { texture := board.texture
    columns := #[]
    rows := ((board.region.sourceY.toNat + sy) * board.region.stride.toNat,
      (board.region.sourceY.toNat + min (sy + 1) (board.region.height.toNat - 1)) *
        board.region.stride.toNat)
    lastColumn := UInt16.ofNat (board.region.sourceX.toNat + board.region.width.toNat - 1)
    fractionY := UInt16.ofNat coordinate
    bilinear := board.projected.filter = .bilinear }

/-- The column that is sampled for a column of the screen. -/
def columnAt (x : ℕ) : ColumnSample :=
  Presentation.columnAt board.region.sourceX board.region.width board.projected.screenRect.width
    (placeAt board.projected.screenRect.x x)

def sampledPixel (y x : ℕ) (dst : UInt16) : Option UInt16 :=
  (board.spanAt y).pixel wire (board.columnAt x) dst

def native : Bool := isNative board.projected board.region

/-- What the board makes of a pixel of its area. -/
def drawing : Drawing UInt16 := fun y x dst =>
  ((if board.native then board.nativePixel wire y x dst else board.sampledPixel wire y x dst)).getD
    dst

variable {board wire} {y x : ℕ}

theorem mem_area : (y, x) ∈ board.area ↔
    (y < viewportHeight ∧ board.projected.screenRect.y.toInt ≤ y ∧
      (y : ℤ) < board.projected.screenRect.y.toInt + board.projected.screenRect.height.toInt) ∧
    x < viewportWidth ∧ board.projected.screenRect.x.toInt ≤ x ∧
      (x : ℤ) < board.projected.screenRect.x.toInt + board.projected.screenRect.width.toInt := by
  rw [area, mem_block, ScreenRect.mem_columns, ScreenRect.mem_rows]

theorem finite_area : board.area.Finite :=
  finite_block _ _ _ _

/-- The texels of the pixels in the area are in the region. -/
theorem place_lt (inside : (y, x) ∈ board.area) :
    placeAt board.projected.screenRect.y y < board.projected.screenRect.height.toInt.toNat ∧
      placeAt board.projected.screenRect.x x < board.projected.screenRect.width.toInt.toNat := by
  rw [mem_area] at inside
  rw [placeAt, placeAt]
  omega

theorem texelY_lt (inside : (y, x) ∈ board.area) : board.texelY y < board.region.height.toNat :=
  scaled_lt (place_lt inside).1 board.fits.height_pos

theorem texelX_lt (inside : (y, x) ∈ board.area) : board.texelX x < board.region.width.toNat :=
  scaled_lt (place_lt inside).2 board.fits.width_pos

/-- At native size the texels are not scaled. -/
theorem texel_native (native : board.native = true) (y x : ℕ) :
    board.texelY y = placeAt board.projected.screenRect.y y ∧
      board.texelX x = placeAt board.projected.screenRect.x x := by
  simp only [SceneBillboard.native, isNative, Bool.and_eq_true, decide_eq_true_eq] at native
  have positive := board.positive
  have width : board.projected.screenRect.width.toInt.toNat = board.region.width.toNat := by omega
  have height : board.projected.screenRect.height.toInt.toNat = board.region.height.toNat := by
    omega
  rw [texelY, texelX, scaled, scaled, width, height]
  exact ⟨Nat.mul_div_cancel _ board.fits.height_pos, Nat.mul_div_cancel _ board.fits.width_pos⟩

/-! ## Native pixels -/

variable (wire) in
theorem nativePixel_eq (native : board.native = true) (inside : (y, x) ∈ board.area) :
    ∃ color a,
      board.texture.pixels[board.region.texel (placeAt board.projected.screenRect.y y)
        (placeAt board.projected.screenRect.x x)]? = some color ∧
      board.texture.coverage.alphaAt (board.region.texel
        (placeAt board.projected.screenRect.y y) (placeAt board.projected.screenRect.x x)) =
          some a ∧
      ∀ dst, board.nativePixel wire y x dst = some (composite wire color a dst) := by
  have unscaled := texel_native native y x
  rw [← unscaled.1, ← unscaled.2]
  obtain ⟨color, colorFound⟩ := board.fits.color (texelY_lt inside) (texelX_lt inside)
  obtain ⟨a, alphaFound⟩ := board.fits.alpha (texelY_lt inside) (texelX_lt inside)
  refine ⟨color, a, colorFound, alphaFound, fun dst => ?_⟩
  rw [nativePixel, ← unscaled.1, ← unscaled.2, colorFound, Option.bind_eq_bind, Option.bind_some,
    alphaFound]
  rfl

/-! ## Sampled pixels -/

section

variable (inside : (y, x) ∈ board.area)
include inside

/-- The texels around a sample are in the region. -/
theorem corners_eq :
    (board.spanAt y).corners (board.columnAt x) = some
      ⟨board.region.texel (board.texelY y) (board.texelX x),
        board.region.texel (board.texelY y)
          (min (board.texelX x + 1) (board.region.width.toNat - 1)),
        board.region.texel (min (board.texelY y + 1) (board.region.height.toNat - 1))
          (board.texelX x),
        board.region.texel (min (board.texelY y + 1) (board.region.height.toNat - 1))
          (min (board.texelX x + 1) (board.region.width.toNat - 1))⟩ := by
  have narrow := board.texture.size.width.toNat_lt
  have right := board.fits.right
  have width := board.fits.width_pos
  have inX := texelX_lt inside
  have first : (board.columnAt x).first.toNat = board.region.sourceX.toNat + board.texelX x := by
    rw [columnAt, Presentation.columnAt, AxisStepper.quotient_div, UInt16.toNat_ofNat',
      texelX, scaled]
    rw [texelX, scaled] at inX
    exact Nat.mod_eq_of_lt (by omega)
  have last : (UInt16.ofNat (board.region.sourceX.toNat + board.region.width.toNat - 1)).toNat =
      board.region.sourceX.toNat + (board.region.width.toNat - 1) := by
    rw [UInt16.toNat_ofNat']
    omega
  have row : AxisStepper.quotient board.region.height board.projected.screenRect.height
      (placeAt board.projected.screenRect.y y) / 2 ^ 16 = board.texelY y :=
    AxisStepper.quotient_div
  have next : min (board.region.sourceX.toNat + board.texelX x + 1)
      (board.region.sourceX.toNat + (board.region.width.toNat - 1)) =
        board.region.sourceX.toNat +
          min (board.texelX x + 1) (board.region.width.toNat - 1) := by
    omega
  rw [SampledSpan.corners, Checked.add_of_le (by rw [first, Checked.u16Max]; omega)]
  simp only [Option.bind_eq_bind, Option.bind_some, first, spanAt, row, last, next]
  rfl

/-- Reads at the corners of a sample, with the texels of the region by row and column. -/
theorem corners_read {α : Type} [Inhabited α] {f : ℕ → Option α}
    (reads : ∀ v u, v < board.region.height.toNat → u < board.region.width.toNat →
      ∃ a, f (board.region.texel v u) = some a) :
    ∃ indices, (board.spanAt y).corners (board.columnAt x) = some indices ∧
      indices.mapM f = some (indices.map fun i => (f i).getD default) := by
  have inY := texelY_lt inside
  have inX := texelX_lt inside
  have read : ∀ v u, v < board.region.height.toNat → u < board.region.width.toNat →
      f (board.region.texel v u) = some ((f (board.region.texel v u)).getD default) := by
    intro v u inV inU
    obtain ⟨a, found⟩ := reads v u inV inU
    rw [found, Option.getD_some]
  refine ⟨_, corners_eq inside, Corners.mapM_some ⟨?_, ?_, ?_, ?_⟩⟩
  · exact read _ _ inY inX
  · exact read _ _ inY (by omega)
  · exact read _ _ (by omega) inX
  · exact read _ _ (by omega) (by omega)

/-- The texel of a sample, in the first of its rows. -/
theorem index_eq :
    (board.spanAt y).rows.1 + (board.columnAt x).first.toNat =
      board.region.texel (board.texelY y) (board.texelX x) := by
  have corners := corners_eq inside
  rw [SampledSpan.corners] at corners
  cases next : Checked.add Checked.u16Max (board.columnAt x).first.toNat 1 with
  | none =>
      rw [next] at corners
      cases corners
  | some _ =>
      rw [next] at corners
      exact congrArg Corners.topLeft (Option.some.inj corners)

theorem color_eq_some : ∃ color, (board.spanAt y).color (board.columnAt x) = some color := by
  rw [SampledSpan.color]
  split
  · obtain ⟨indices, found, ran⟩ := corners_read (f := fun i => board.texture.pixels[i]?) inside
      fun v u inV inU => board.fits.color inV inU
    have texture : (board.spanAt y).texture = board.texture := rfl
    rw [found, Option.bind_eq_bind, Option.bind_some, texture, ran]
    exact ⟨_, rfl⟩
  · rw [index_eq inside]
    exact board.fits.color (texelY_lt inside) (texelX_lt inside)

end

variable (wire) in
/-- Every pixel of the area is sampled. -/
theorem sampledPixel_eq_some (inside : (y, x) ∈ board.area) (dst : UInt16) :
    ∃ word, board.sampledPixel wire y x dst = some word := by
  have texture : (board.spanAt y).texture = board.texture := rfl
  rw [sampledPixel, SampledSpan.pixel]
  split
  · obtain ⟨indices, found, ran⟩ := corners_read
      (f := fun i => (board.texture.coverage.alphaAt i).map UInt8.toUInt32) inside
      fun v u inV inU => by
        obtain ⟨a, there⟩ := board.fits.alpha inV inU
        exact ⟨a.toUInt32, by rw [there, Option.map_some]⟩
    obtain ⟨indices', found', ran'⟩ := corners_read (f := fun i => board.texture.pixels[i]?) inside
      fun v u inV inU => board.fits.color inV inU
    rw [found, Option.some.injEq] at found'
    subst found'
    simp only [SampledSpan.filteredAlpha, found, Option.bind_eq_bind, Option.bind_some, texture,
      ran]
    split
    · exact ⟨dst, rfl⟩
    · rw [ran']
      exact ⟨_, rfl⟩
  · obtain ⟨color, colored⟩ := color_eq_some inside
    obtain ⟨a, found⟩ := board.fits.alpha (texelY_lt inside) (texelX_lt inside)
    rw [← index_eq inside] at found
    exact ⟨_, SampledSpan.kind_eq colored (Coverage.lookedUp found) dst⟩

/-- A nearest sample is one texel. -/
theorem sampledPixel_nearest {color : UInt16} {a : UInt8}
    (nearest : board.projected.filter = .nearest) (inside : (y, x) ∈ board.area)
    (colored : board.texture.pixels[board.region.texel (board.texelY y) (board.texelX x)]? =
      some color)
    (covered : board.texture.coverage.alphaAt (board.region.texel (board.texelY y)
      (board.texelX x)) = some a) (dst : UInt16) :
    board.sampledPixel wire y x dst = some (composite wire color a dst) := by
  have unfiltered : (board.spanAt y).bilinear = false := by
    simp [spanAt, nearest]
  rw [← index_eq inside] at colored covered
  have sampled : (board.spanAt y).color (board.columnAt x) = some color := by
    rw [SampledSpan.color, unfiltered, if_neg Bool.false_ne_true]
    exact colored
  rw [sampledPixel, SampledSpan.pixel, unfiltered, Bool.false_and, if_neg Bool.false_ne_true]
  exact SampledSpan.kind_eq sampled (Coverage.lookedUp covered) dst

theorem drawing_native (native : board.native = true) (inside : (y, x) ∈ board.area)
    (dst : UInt16) : board.nativePixel wire y x dst = some (board.drawing wire y x dst) := by
  obtain ⟨color, a, -, -, drawn⟩ := nativePixel_eq wire native inside
  rw [drawing, if_pos native, drawn, Option.getD_some]

/-- A texel of its own is the nearest one. -/
theorem sampledPixel_native (native : board.native = true) (inside : (y, x) ∈ board.area)
    (dst : UInt16) : board.sampledPixel wire y x dst = board.nativePixel wire y x dst := by
  have unscaled := texel_native native y x
  have nearest : board.projected.filter = .nearest := by
    simp only [SceneBillboard.native, isNative, Bool.and_eq_true, decide_eq_true_eq] at native
    exact native.1.1
  obtain ⟨color, a, colorFound, alphaFound, drawn⟩ := nativePixel_eq wire native inside
  rw [← unscaled.1, ← unscaled.2] at colorFound alphaFound
  rw [drawn, sampledPixel_nearest nearest inside colorFound alphaFound]

/-- Every board may be drawn by its samples, also at native size. -/
theorem drawing_sampled (inside : (y, x) ∈ board.area) (dst : UInt16) :
    board.sampledPixel wire y x dst = some (board.drawing wire y x dst) := by
  cases size : board.native with
  | true => rw [sampledPixel_native size inside, drawing_native size inside]
  | false =>
      obtain ⟨word, drawn⟩ := sampledPixel_eq_some wire inside dst
      rw [drawing, size, if_neg Bool.false_ne_true, drawn, Option.getD_some]

/-! ## Solid pixels -/

theorem composite_full (color dst : UInt16) :
    composite wire color 255 dst = wireOrder wire color := by
  rw [composite, if_neg (by decide), if_pos rfl]

/-- What is behind a solid pixel does not matter. -/
theorem drawing_of_solid (solid : board.SolidAt y x) (dst other : UInt16) :
    board.drawing wire y x dst = board.drawing wire y x other := by
  have inside := solid.inArea
  cases size : board.native with
  | true =>
      obtain ⟨color, a, -, found, drawn⟩ := nativePixel_eq wire size inside
      have unscaled := texel_native size y x
      have opaqueTexel : a = 255 := by
        rcases solid.covered with full | ⟨-, masked⟩
        · rw [full, Coverage.alphaAt] at found
          exact (Option.some.inj found).symm
        · rw [unscaled.1, unscaled.2] at masked
          exact masked a found
      apply Option.some.inj
      rw [← drawing_native size inside, ← drawing_native size inside, drawn, drawn, opaqueTexel,
        composite_full, composite_full]
  | false =>
      have sampled : ∃ color, ∀ word,
          board.sampledPixel wire y x word = some (composite wire color 255 word) := by
        rcases solid.covered with full | ⟨nearest, masked⟩
        · have noAlpha : (board.spanAt y).texture.coverage.isAlpha = false := by
            rw [show (board.spanAt y).texture = board.texture from rfl, full]
            rfl
          obtain ⟨color, colored⟩ := color_eq_some inside
          refine ⟨color, fun word => ?_⟩
          rw [sampledPixel, SampledSpan.pixel, noAlpha, Bool.and_false,
            if_neg Bool.false_ne_true]
          exact SampledSpan.kind_eq colored (by rw [noAlpha, if_neg Bool.false_ne_true]) word
        · obtain ⟨color, colored⟩ := board.fits.color (texelY_lt inside) (texelX_lt inside)
          obtain ⟨a, found⟩ := board.fits.alpha (texelY_lt inside) (texelX_lt inside)
          rw [masked a found] at found
          exact ⟨color, sampledPixel_nearest nearest inside colored found⟩
      obtain ⟨color, kind⟩ := sampled
      apply Option.some.inj
      rw [← drawing_sampled inside, ← drawing_sampled inside, kind, kind, composite_full,
        composite_full]

end SceneBillboard

end Deskkin.Presentation
