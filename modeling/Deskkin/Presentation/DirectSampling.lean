/-
# Sampling by division

The renderer steps along the columns and rows of a board and carries the remainder of
one division. The reference here divides for every pixel: the coordinate in the texture
is a quotient, its fraction weighs the texels around it, and the color goes over what is
there. Both come to the same words, at any size and position of the board.
-/

import Deskkin.Presentation.Billboards

namespace Deskkin.Presentation

open Loops Grid

/-! ## The reference -/

/-- Where a place of the screen is in the source, in parts of 65536. -/
def sourceCoordinate (origin : Int32) (source : UInt16) (destination : Int32) (place : ℕ) : ℕ :=
  (((place : ℤ) - origin.toInt) * source.toNat * 65536 / destination.toInt).toNat

/-- A color over what is there, by its alpha value. -/
def blended (wire : Bool) (color : UInt16) (a : ℕ) (dst : UInt16) : UInt16 :=
  wireOrder wire (Channel.pack fun channel =>
    mix (channel.value (wireOrder wire dst)) (channel.value color) (a * 257))

/-- What a pixel of the board becomes, from its own quotients. -/
def directPixel (projected : ProjectedBillboard) (texture : Texture) (region : TextureRegion)
    (wire : Bool) (y x : ℕ) (dst : UInt16) : UInt16 :=
  let rect := projected.screenRect
  let cx := sourceCoordinate rect.x region.width rect.width x
  let cy := sourceCoordinate rect.y region.height rect.height y
  let nextX := min (cx / 65536 + 1) (region.width.toNat - 1)
  let nextY := min (cy / 65536 + 1) (region.height.toNat - 1)
  let around {α : Type} (f : ℕ → ℕ → α) : Corners α :=
    ⟨f (cy / 65536) (cx / 65536), f (cy / 65536) nextX, f nextY (cx / 65536), f nextY nextX⟩
  match projected.filter with
  | .nearest => blended wire (colorIn texture region (cy / 65536) (cx / 65536))
      (coverageIn texture region (cy / 65536) (cx / 65536)) dst
  | .bilinear => wireOrder wire (if texture.coverage.isAlpha
      then filteredColor (around (colorIn texture region)) (around (coverageIn texture region))
        (wireOrder wire dst) (cx % 65536) (cy % 65536)
      else meanColor (around (colorIn texture region)) (cx % 65536) (cy % 65536))

/-- The coordinates of so many steps. -/
def AxisStepper.takes (self : AxisStepper) : ℕ → Option (List ℕ)
  | 0 => some []
  | count + 1 => do
      let (coordinate, next) ← self.take
      let rest ← next.takes count
      return coordinate :: rest

/-! ## Steps -/

section Steps

variable {source : UInt16} {destination : Int32}

theorem takes_placed {place count : ℕ} (inside : place + count ≤ destination.toInt.toNat) :
    (AxisStepper.placed source destination place).takes count =
      some ((List.range' place count).map (AxisStepper.quotient source destination)) := by
  induction count generalizing place with
  | zero => rfl
  | succ count ih =>
      rw [AxisStepper.takes, AxisStepper.take_placed (by omega), Option.bind_eq_bind,
        Option.bind_some]
      dsimp only
      rw [ih (by omega)]
      rfl

/-- **The stepper divides.** From any place on, its steps are the quotients, and none of
them overflows. -/
theorem takes_new {place count : ℕ} (positive : 0 < destination.toInt)
    (inside : place + count ≤ destination.toInt.toNat) :
    (do
      let stepper ← AxisStepper.new source destination place
      stepper.takes count) = some ((List.range' place count).map fun k =>
        k * source.toNat * 65536 / destination.toInt.toNat) := by
  rw [AxisStepper.new_eq_placed positive (by omega), Option.bind_eq_bind, Option.bind_some,
    takes_placed inside]
  apply congrArg
  apply List.map_congr_left
  intro k _
  rw [AxisStepper.quotient, Nat.mul_assoc]
  rfl

theorem sourceCoordinate_eq {origin : Int32} {place : ℕ} (from' : origin.toInt ≤ place)
    (positive : 0 < destination.toInt) :
    sourceCoordinate origin source destination place =
      AxisStepper.quotient source destination (placeAt origin place) := by
  have offset : (place : ℤ) - origin.toInt = (placeAt origin place : ℕ) := by
    rw [placeAt]
    omega
  have length : destination.toInt = (destination.toInt.toNat : ℕ) := by omega
  have product : (placeAt origin place : ℤ) * source.toNat * 65536 =
      (placeAt origin place * (source.toNat * 2 ^ 16) : ℕ) := by
    rw [← Nat.mul_assoc, Int.natCast_mul, Int.natCast_mul]
    rfl
  rw [sourceCoordinate, offset, length, product, ← Int.natCast_ediv, Int.toNat_natCast,
    AxisStepper.quotient]

end Steps

/-! ## Pixels -/

/-- The blend has no special cases. -/
theorem composite_eq_blended (wire : Bool) (color : UInt16) (a : UInt8) (dst : UInt16) :
    composite wire color a dst = blended wire color a.toNat dst := by
  rw [composite, blended]
  split
  · rename_i clear
    subst clear
    have background : (fun channel => mix (Channel.value channel (wireOrder wire dst))
        (Channel.value channel color) ((0 : UInt8).toNat * 257)) =
          fun channel => channel.value (wireOrder wire dst) := by
      funext channel
      show mix _ _ (0 * 257) = _
      rw [mix]
      omega
    rw [background, Channel.pack_value, wireOrder_wireOrder]
  · split
    · rename_i covered
      subst covered
      have foreground : (fun channel => mix (Channel.value channel (wireOrder wire dst))
          (Channel.value channel color) ((255 : UInt8).toNat * 257)) =
            fun channel => channel.value color := by
        funext channel
        have ground := channel.value_le (wireOrder wire dst)
        have upTo := channel.value_le color
        have most := channel.most_le
        show mix _ _ (255 * 257) = _
        rw [mix]
        omega
      rw [foreground, Channel.pack_value]
    · rw [blendRgb565_eq]

namespace SceneBillboard

variable {board : SceneBillboard} {wire : Bool} {y x : ℕ}

theorem coordinates_eq (inside : (y, x) ∈ board.area) :
    sourceCoordinate board.projected.screenRect.x board.region.width
        board.projected.screenRect.width x =
      AxisStepper.quotient board.region.width board.projected.screenRect.width
        (placeAt board.projected.screenRect.x x) ∧
    sourceCoordinate board.projected.screenRect.y board.region.height
        board.projected.screenRect.height y =
      AxisStepper.quotient board.region.height board.projected.screenRect.height
        (placeAt board.projected.screenRect.y y) := by
  have positive := board.positive
  rw [mem_area] at inside
  exact ⟨sourceCoordinate_eq inside.2.2.1 positive.1,
    sourceCoordinate_eq inside.1.2.1 positive.2⟩

/-- The fractions of a sample. -/
theorem fractions_eq (board : SceneBillboard) (y x : ℕ) : (board.columnAt x).fraction.toNat =
      AxisStepper.quotient board.region.width board.projected.screenRect.width
        (placeAt board.projected.screenRect.x x) % 65536 ∧
    (board.spanAt y).fractionY.toNat =
      AxisStepper.quotient board.region.height board.projected.screenRect.height
        (placeAt board.projected.screenRect.y y) % 65536 :=
  ⟨UInt16.toNat_ofNat', UInt16.toNat_ofNat'⟩

theorem direct_nearest (nearest : board.projected.filter = .nearest) (inside : (y, x) ∈ board.area)
    (dst : UInt16) : board.sampledPixel wire y x dst =
      some (blended wire ((board.texture.pixels[board.region.texel (board.texelY y)
        (board.texelX x)]?).getD 0) ((board.texture.coverage.alphaAt (board.region.texel
          (board.texelY y) (board.texelX x))).getD 0).toNat dst) := by
  obtain ⟨color, colored⟩ := board.fits.color (texelY_lt inside) (texelX_lt inside)
  obtain ⟨a, covered⟩ := board.fits.alpha (texelY_lt inside) (texelX_lt inside)
  rw [sampledPixel_nearest nearest inside colored covered, composite_eq_blended, colored, covered,
    Option.getD_some, Option.getD_some]

section Bilinear

variable (bilinear : board.projected.filter = .bilinear) (inside : (y, x) ∈ board.area)

include bilinear inside

theorem direct_bilinear (uncovered : board.texture.coverage.isAlpha = false) (dst : UInt16) :
    ∃ indices, (board.spanAt y).corners (board.columnAt x) = some indices ∧
      board.sampledPixel wire y x dst = some (wireOrder wire (meanColor
        (indices.map fun i => (board.texture.pixels[i]?).getD 0)
        (board.columnAt x).fraction.toNat (board.spanAt y).fractionY.toNat)) := by
  have texture : (board.spanAt y).texture = board.texture := rfl
  have filtered : (board.spanAt y).bilinear = true := by
    simp [spanAt, bilinear]
  obtain ⟨indices, found, read⟩ := corners_read inside fun v u inV inU =>
    board.fits.color inV inU
  have sampled : (board.spanAt y).color (board.columnAt x) = some (meanColor
      (indices.map fun i => (board.texture.pixels[i]?).getD 0)
      (board.columnAt x).fraction.toNat (board.spanAt y).fractionY.toNat) := by
    rw [SampledSpan.color, filtered, if_pos rfl, found, Option.bind_eq_bind, Option.bind_some,
      texture, read]
    exact congrArg some (interpolate_colors _ _ _)
  have shown : (if (board.spanAt y).texture.coverage.isAlpha then
      (board.spanAt y).texture.coverage.alphaAt ((board.spanAt y).rows.1 +
        (board.columnAt x).first.toNat) else some 255) = some 255 := by
    rw [texture, uncovered, if_neg Bool.false_ne_true]
  refine ⟨indices, found, ?_⟩
  rw [sampledPixel, SampledSpan.pixel, texture, uncovered, Bool.and_false,
    if_neg Bool.false_ne_true, SampledSpan.kind_eq sampled shown, composite_full]

theorem direct_filtered (covered : board.texture.coverage.isAlpha = true) (dst : UInt16) :
    ∃ indices, (board.spanAt y).corners (board.columnAt x) = some indices ∧
      board.sampledPixel wire y x dst = some (wireOrder wire (filteredColor
        (indices.map fun i => (board.texture.pixels[i]?).getD 0)
        (indices.map fun i => ((board.texture.coverage.alphaAt i).getD 0).toNat)
        (wireOrder wire dst) (board.columnAt x).fraction.toNat
        (board.spanAt y).fractionY.toNat)) := by
  have texture : (board.spanAt y).texture = board.texture := rfl
  have filtered : (board.spanAt y).bilinear = true := by
    simp [spanAt, bilinear]
  obtain ⟨indices, found, read⟩ := corners_read inside fun v u inV inU =>
    board.fits.color inV inU
  obtain ⟨indices', found', alphas⟩ := corners_read inside fun v u inV inU =>
    board.fits.alpha inV inU
  rw [found, Option.some.injEq] at found'
  subst found'
  refine ⟨indices, found, ?_⟩
  rw [sampledPixel, SampledSpan.pixel, texture, covered, filtered, Bool.and_true, if_pos rfl,
    SampledSpan.filteredAlpha_eq, found, Option.bind_eq_bind, Option.bind_some, texture,
    Corners.mapM_map, alphas, Option.map_some, Option.bind_some, read]
  split
  · rename_i clear
    have zero : (indices.map fun i => ((board.texture.coverage.alphaAt i).getD 0).toNat) =
        ⟨0, 0, 0, 0⟩ := clear
    rw [zero, filteredColor_clear (fraction_le _) (fraction_le _), wireOrder_wireOrder]
    rfl
  · rfl

end Bilinear

/-- **A pixel has a quotient of its own.** -/
theorem drawing_eq_direct (inside : (y, x) ∈ board.area) (dst : UInt16) :
    board.drawing wire y x dst =
      directPixel board.projected board.texture board.region wire y x dst := by
  obtain ⟨alongX, alongY⟩ := coordinates_eq inside
  obtain ⟨fractionX, fractionY⟩ := fractions_eq board y x
  have wholeX : AxisStepper.quotient board.region.width board.projected.screenRect.width
      (placeAt board.projected.screenRect.x x) / 65536 = board.texelX x :=
    AxisStepper.quotient_div
  have wholeY : AxisStepper.quotient board.region.height board.projected.screenRect.height
      (placeAt board.projected.screenRect.y y) / 65536 = board.texelY y :=
    AxisStepper.quotient_div
  have corners := corners_eq inside
  apply Option.some.inj
  rw [← drawing_sampled inside, directPixel]
  simp only [alongX, alongY, wholeX, wholeY, ← fractionX, ← fractionY]
  cases filter : board.projected.filter with
  | nearest => exact direct_nearest filter inside dst
  | bilinear =>
      cases kind : board.texture.coverage.isAlpha with
      | false =>
          obtain ⟨indices, found, drawn⟩ := direct_bilinear filter inside kind dst
          rw [corners, Option.some.injEq] at found
          subst found
          exact drawn
      | true =>
          obtain ⟨indices, found, drawn⟩ := direct_filtered filter inside kind dst
          rw [corners, Option.some.injEq] at found
          subst found
          exact drawn

end SceneBillboard

/-! ## Boards -/

/-- **Scaling divides exactly.** A board with a valid texture and a rectangle that is not
empty draws the reference at every pixel of its rectangle, wherever it lies and however
large it is, and changes no other word; and the stepper comes to the quotient at every
step, with no step that overflows. -/
theorem rasterBillboard_eq_direct (stride : ℕ) (projected : ProjectedBillboard)
    (texture : Texture) (region : TextureRegion) (wire : Bool) (pixels : Array UInt16)
    (wide : viewportWidth ≤ stride) (fits : stride * viewportHeight ≤ pixels.size)
    (valid : validateTexture texture region = .ok ())
    (positive : 0 < projected.screenRect.width.toInt ∧ 0 < projected.screenRect.height.toInt) :
    (∃ stats after,
      rasterBillboardOrdered stride projected texture region wire pixels =
        some (.ok stats, after) ∧ after.size = pixels.size ∧
      (∀ i, ¬projected.screenRect.Holds stride i → after[i]? = pixels[i]?) ∧
      ∀ y x, y < viewportHeight → x < viewportWidth → projected.screenRect.y.toInt ≤ y →
        (y : ℤ) < projected.screenRect.y.toInt + projected.screenRect.height.toInt →
          projected.screenRect.x.toInt ≤ x →
            (x : ℤ) < projected.screenRect.x.toInt + projected.screenRect.width.toInt →
              after[y * stride + x]? = pixels[y * stride + x]?.map
                (directPixel projected texture region wire y x)) ∧
    ∀ (source : UInt16) (destination : Int32) (place count : ℕ), 0 < destination.toInt →
      place + count ≤ destination.toInt.toNat →
        (do
          let stepper ← AxisStepper.new source destination place
          stepper.takes count) = some ((List.range' place count).map fun k =>
            k * source.toNat * 65536 / destination.toInt.toNat) := by
  refine ⟨?_, fun source destination place count => takes_new⟩
  let board : SceneBillboard := ⟨projected, texture, region, valid, positive⟩
  have accepted : acceptBillboard stride projected texture region pixels.size =
      some (.ok board) := by
    rw [acceptBillboard, if_neg (Nat.not_lt.mpr wide), if_neg (Nat.not_lt.mpr fits)]
    exact congrArg some board.new_eq
  have drawn : rasterBillboardOrdered stride projected texture region wire pixels =
      some (board.drawnOnto stride wire none pixels) := by
    rw [rasterBillboardOrdered, rasterBillboardMasked_eq, accepted]
    rfl
  refine ⟨_, _, drawn, size_shade _ _, fun i outside => board.drawnOnto_kept outside, ?_⟩
  intro y x inY inX top bottom left right
  have inside : (y, x) ∈ board.area :=
    SceneBillboard.mem_area.mpr ⟨⟨inY, top, bottom⟩, inX, left, right⟩
  have shown : (y, x) ∈ shownBy none := Set.mem_univ _
  have row : (board.drawnOnto stride wire none pixels).2[y * stride + x]? = _ :=
    SceneBillboard.drawnOnto_row wide inside shown
  refine row.trans ?_
  apply congrArg (Option.map · _)
  funext dst
  exact SceneBillboard.drawing_eq_direct inside dst

/-- Two texels over the whole screen and far beyond it. -/
theorem rasterBillboard_eq_direct_wide : ∃ stats after,
    rasterBillboardOrdered 320 ⟨1, ⟨-1000, 0, 100003, 7⟩, 0, 1, .bilinear⟩
        ⟨⟨2, 1⟩, #[1, 2], .fullyOpaque⟩ ⟨0, 0, 2, 1, 2⟩ true (Array.replicate 76800 7) =
      some (.ok stats, after) ∧
    after[6 * 320 + 319]? = (Array.replicate 76800 (7 : UInt16))[6 * 320 + 319]?.map (directPixel
      ⟨1, ⟨-1000, 0, 100003, 7⟩, 0, 1, .bilinear⟩ ⟨⟨2, 1⟩, #[1, 2], .fullyOpaque⟩ ⟨0, 0, 2, 1, 2⟩
        true 6 319) := by
  obtain ⟨⟨stats, after, drawn, -, -, pixel⟩, -⟩ := rasterBillboard_eq_direct 320
    ⟨1, ⟨-1000, 0, 100003, 7⟩, 0, 1, .bilinear⟩ ⟨⟨2, 1⟩, #[1, 2], .fullyOpaque⟩ ⟨0, 0, 2, 1, 2⟩
    true (Array.replicate 76800 7) (by decide) (by rw [Array.size_replicate]; decide) (by decide)
    (by decide)
  exact ⟨stats, after, drawn, pixel 6 319 (by decide) (by decide) (by decide) (by decide)
    (by decide) (by decide)⟩

end Deskkin.Presentation
