/-
# Only opaque boards hide

The preparation gives a tile the number of a board only if the board covers all of the
tile and is opaque at each of its pixels. For a board with a mask the texels of a tile
are those between the texels of its corners, as the scaling is monotone.
-/

import Deskkin.Presentation.Visibility

namespace Deskkin.Presentation

open Loops Grid

/-! ## The pixels of a rectangle -/

namespace ScreenRect

variable {r : ScreenRect} {p limit : ℕ} {origin extent : Int32}

/-- The pixels of a rectangle along an axis, up to the limit of the viewport. -/
theorem mem_axis (small : limit < 2 ^ 31) :
    (max origin.toInt 0).toNat ≤ p ∧ p < (min (saturatingSum origin extent) limit).toNat ↔
      p < limit ∧ origin.toInt ≤ p ∧ (p : ℤ) < origin.toInt + extent.toInt := by
  have lower : (max origin.toInt 0).toNat ≤ p ↔ origin.toInt ≤ p := by omega
  have least := origin.le_toInt
  rw [lower, saturatingSum]
  omega

/-- Clamping both ends to the limit leaves the same pixels. -/
theorem mem_clamped (small : limit < 2 ^ 31) :
    clampTo limit origin.toInt ≤ p ∧ p < clampTo limit (saturatingSum origin extent) ↔
      p < limit ∧ origin.toInt ≤ p ∧ (p : ℤ) < origin.toInt + extent.toInt := by
  rw [← mem_axis small, clampTo, clampTo]
  omega

/-- The columns of a rectangle in the viewport. -/
theorem mem_columns : r.left ≤ p ∧ p < r.right ↔
    p < viewportWidth ∧ r.x.toInt ≤ p ∧ (p : ℤ) < r.x.toInt + r.width.toInt :=
  mem_clamped (by decide)

theorem mem_rows : r.top ≤ p ∧ p < r.bottom ↔
    p < viewportHeight ∧ r.y.toInt ≤ p ∧ (p : ℤ) < r.y.toInt + r.height.toInt :=
  mem_clamped (by decide)

end ScreenRect

/-- The place of a pixel along an axis of a board. -/
def placeAt (origin : Int32) (pixel : ℕ) : ℕ := ((pixel : ℤ) - origin.toInt).toNat

/-- The texel at a place, without a fraction. -/
def scaled (source : UInt16) (destination : Int32) (place : ℕ) : ℕ :=
  place * source.toNat / destination.toInt.toNat

theorem scaled_mono (source : UInt16) (destination : Int32) {place later : ℕ}
    (ordered : place ≤ later) : scaled source destination place ≤ scaled source destination later :=
  Nat.div_le_div_right (Nat.mul_le_mul_right _ ordered)

/-- The texels of a tile reach from that of its first pixel to that of its last one. -/
theorem sourceSpan_eq {pixel tile : ℕ} {origin destination : Int32} {offset source : UInt16}
    (positive : 0 < source.toNat) (nonempty : 0 < tile) (lower : origin.toInt ≤ pixel)
    (upper : (pixel : ℤ) + tile ≤ origin.toInt + destination.toInt) :
    sourceSpan pixel tile origin destination offset source =
      (offset.toNat + scaled source destination (placeAt origin pixel),
        offset.toNat + scaled source destination (placeAt origin (pixel + tile - 1))) := by
  have texel : ∀ p : ℕ, origin.toInt ≤ p → (p : ℤ) < origin.toInt + destination.toInt →
      ((((p : ℤ) - origin.toInt) * source.toNat).tdiv destination.toInt % 2 ^ 64).toNat =
        scaled source destination (placeAt origin p) := by
    intro p from' upTo
    have small : scaled source destination (placeAt origin p) < source.toNat :=
      scaled_lt (by rw [placeAt]; omega) positive
    have narrow := source.toNat_lt
    have place : ((p : ℤ) - origin.toInt) = (placeAt origin p : ℤ) := by
      rw [placeAt]
      omega
    have extent : destination.toInt = (destination.toInt.toNat : ℤ) := by omega
    rw [place, extent, ← Int.natCast_mul, ← Int.ofNat_tdiv, ← scaled]
    omega
  rw [sourceSpan]
  exact congrArg₂ Prod.mk (congrArg _ (texel pixel lower (by omega)))
    (congrArg _ (texel (pixel + tile - 1) (by omega) (by omega)))

/-! ## Solid pixels -/

namespace SceneBillboard

variable {board : SceneBillboard}

theorem fits (board : SceneBillboard) : RegionFits board.texture board.region :=
  regionFits_of_validate board.valid

/-- The pixels of the board that are in the viewport. -/
def area (board : SceneBillboard) : Set (ℕ × ℕ) :=
  block board.projected.screenRect.top board.projected.screenRect.bottom
    board.projected.screenRect.left board.projected.screenRect.right

def texelX (board : SceneBillboard) (x : ℕ) : ℕ :=
  scaled board.region.width board.projected.screenRect.width
    (placeAt board.projected.screenRect.x x)

def texelY (board : SceneBillboard) (y : ℕ) : ℕ :=
  scaled board.region.height board.projected.screenRect.height
    (placeAt board.projected.screenRect.y y)

/-- The board is opaque at a pixel, whatever is behind it. -/
structure SolidAt (board : SceneBillboard) (y x : ℕ) : Prop where
  inArea : (y, x) ∈ board.area
  covered : board.texture.coverage = .fullyOpaque ∨ board.projected.filter = .nearest ∧
    ∀ a, board.texture.coverage.alphaAt (board.region.texel (board.texelY y) (board.texelX x)) =
      some a → a = 255

end SceneBillboard

/-! ## One tile -/

theorem le_mul_of_divCeil_le {a b c : ℕ} (positive : 0 < b) (upTo : divCeil a b ≤ c) :
    a ≤ c * b := by
  rw [divCeil] at upTo
  have next := Nat.lt_succ_of_le upTo
  rw [Nat.div_lt_iff_lt_mul positive, Nat.succ_mul] at next
  omega

/-- The tile lies in the rectangle and in the viewport. -/
structure InRect (r : ScreenRect) (tile : ScreenTile) (row column : ℕ) : Prop where
  top : r.top ≤ row * tile.pixels
  bottom : (row + 1) * tile.pixels ≤ r.bottom
  left : r.left ≤ column * tile.pixels
  right : (column + 1) * tile.pixels ≤ r.right

namespace InRect

variable {r : ScreenRect} {tile : ScreenTile} {row column y x : ℕ}

theorem of_bounds (top : divCeil r.top tile.pixels ≤ row) (bottom : row < r.bottom / tile.pixels)
    (left : divCeil r.left tile.pixels ≤ column) (right : column < r.right / tile.pixels) :
    InRect r tile row column where
  top := le_mul_of_divCeil_le tile.pixels_pos top
  bottom := (Nat.le_div_iff_mul_le tile.pixels_pos).mp bottom
  left := le_mul_of_divCeil_le tile.pixels_pos left
  right := (Nat.le_div_iff_mul_le tile.pixels_pos).mp right

/-- A pixel of the tile stands between its corners. -/
theorem pixel_bounds {p cell : ℕ} (inTile : p / tile.pixels = cell) :
    cell * tile.pixels ≤ p ∧ p ≤ cell * tile.pixels + tile.pixels - 1 := by
  have positive := tile.pixels_pos
  have parts := Nat.div_add_mod p tile.pixels
  have rest := Nat.mod_lt p positive
  rw [inTile, Nat.mul_comm] at parts
  omega

theorem mem_area (inside : InRect r tile row column) (inRow : y / tile.pixels = row)
    (inColumn : x / tile.pixels = column) :
    (r.top ≤ y ∧ y < r.bottom) ∧ r.left ≤ x ∧ x < r.right := by
  have positive := tile.pixels_pos
  have rows := pixel_bounds inRow
  have columns := pixel_bounds inColumn
  have bottom := inside.bottom
  have right := inside.right
  rw [Nat.succ_mul] at bottom right
  have top := inside.top
  have left := inside.left
  omega

end InRect

/-- The texels of the pixels of a tile are in its span, along one axis. -/
theorem tileSpan_spec {tile : ScreenTile} {cell limit : ℕ} {origin destination : Int32}
    {offset source : UInt16} (positive : 0 < source.toNat)
    (lower : origin.toInt ≤ (cell * tile.pixels : ℕ))
    (upper : ((cell * tile.pixels + tile.pixels : ℕ) : ℤ) ≤ origin.toInt + destination.toInt)
    (region : offset.toNat + source.toNat ≤ limit) :
    (sourceSpan (cell * tile.pixels) tile.pixels origin destination offset source).2 < limit ∧
      ∀ p, p / tile.pixels = cell →
        (sourceSpan (cell * tile.pixels) tile.pixels origin destination offset source).1 ≤
            offset.toNat + scaled source destination (placeAt origin p) ∧
          offset.toNat + scaled source destination (placeAt origin p) ≤
            (sourceSpan (cell * tile.pixels) tile.pixels origin destination offset source).2 := by
  have nonempty := tile.pixels_pos
  rw [sourceSpan_eq positive nonempty lower (by omega)]
  have last : scaled source destination
      (placeAt origin (cell * tile.pixels + tile.pixels - 1)) < source.toNat :=
    scaled_lt (by rw [placeAt]; omega) positive
  refine ⟨by dsimp only; omega, fun p inTile => ?_⟩
  obtain ⟨from', upTo⟩ := InRect.pixel_bounds inTile
  exact ⟨Nat.add_le_add_left (scaled_mono _ _ (by rw [placeAt, placeAt]; omega)) _,
    Nat.add_le_add_left (scaled_mono _ _ (by rw [placeAt, placeAt]; omega)) _⟩

namespace Occlusion

variable {board : SceneBillboard} {tile : ScreenTile} {row column : ℕ} {mask : Option Mask8}

/-- The test of a tile does not fail, and a board that passes it is solid all over the tile. -/
theorem covers_spec (hides : occluder board = some mask)
    (inside : InRect board.projected.screenRect tile row column) :
    Ensures (maskCovers mask
      (if mask.isSome then sourceSpan (column * tile.pixels) tile.pixels
        board.projected.screenRect.x board.projected.screenRect.width board.region.sourceX
        board.region.width else (0, 0))
      (if mask.isSome then sourceSpan (row * tile.pixels) tile.pixels
        board.projected.screenRect.y board.projected.screenRect.height board.region.sourceY
        board.region.height else (0, 0))) fun covered =>
      covered = true → board.texture.coverage.MarksOpaque → ∀ y x, y / tile.pixels = row →
        x / tile.pixels = column → board.SolidAt y x := by
  have fits := board.fits
  have areaOf : ∀ y x, y / tile.pixels = row → x / tile.pixels = column → (y, x) ∈ board.area :=
    fun y x inRow inColumn => inside.mem_area inRow inColumn
  rw [occluder] at hides
  cases blocks : board.texture.coverage.blocks with
  | none =>
      rw [blocks] at hides
      cases hides
      have coverage : board.texture.coverage = .fullyOpaque := by
        cases kind : board.texture.coverage with
        | fullyOpaque => rfl
        | cutout bits mask =>
            rw [kind] at blocks
            cases blocks
        | alpha8 alpha mask =>
            rw [kind] at blocks
            cases blocks
      exact .value fun _ _ y x inRow inColumn => ⟨areaOf y x inRow inColumn, Or.inl coverage⟩
  | some found =>
      rw [blocks] at hides
      dsimp only at hides
      split at hides
      · rename_i nearest
        cases hides
        have size := fits.blocks found blocks
        have top := inside.top
        have bottom := inside.bottom
        have left := inside.left
        have right := inside.right
        rw [Nat.succ_mul] at bottom right
        have positive := tile.pixels_pos
        have firstX := (ScreenRect.mem_columns (r := board.projected.screenRect)
          (p := column * tile.pixels)).mp (by omega)
        have lastX := (ScreenRect.mem_columns (r := board.projected.screenRect)
          (p := column * tile.pixels + tile.pixels - 1)).mp (by omega)
        have firstY := (ScreenRect.mem_rows (r := board.projected.screenRect)
          (p := row * tile.pixels)).mp (by omega)
        have lastY := (ScreenRect.mem_rows (r := board.projected.screenRect)
          (p := row * tile.pixels + tile.pixels - 1)).mp (by omega)
        have endX : ((column * tile.pixels + tile.pixels : ℕ) : ℤ) ≤
            board.projected.screenRect.x.toInt + board.projected.screenRect.width.toInt := by
          omega
        have endY : ((row * tile.pixels + tile.pixels : ℕ) : ℤ) ≤
            board.projected.screenRect.y.toInt + board.projected.screenRect.height.toInt := by
          omega
        have columns := tileSpan_spec fits.width_pos firstX.2.1 endX fits.right
        have rows := tileSpan_spec fits.height_pos firstY.2.1 endY fits.bottom
        rw [← size] at columns rows
        obtain ⟨covered, asked, -⟩ := Mask8.covers_eq_some columns.1 rows.1
        refine ⟨covered, asked, fun isCovered marks y x inRow inColumn =>
          ⟨areaOf y x inRow inColumn, Or.inr ⟨nearest.1, fun a there => ?_⟩⟩⟩
        subst isCovered
        apply Coverage.opaque_of_covers marks blocks columns.1 rows.1 asked (columns.2 x inColumn)
          (rows.2 y inRow)
        rw [TextureRegion.texel, fits.stride, ← size] at there
        exact there
      · cases hides

/-! ## All tiles -/

variable {self : Occlusion} {y x : ℕ}

theorem cutoffAt_mark {cutoff : UInt16} (inRow : row < viewportHeight / self.tile.pixels)
    (inColumn : column < viewportWidth / self.tile.pixels) (inX : x < viewportWidth) :
    (self.mark (row * self.columns + column) cutoff).cutoffAt y x =
      if y / self.tile.pixels = row ∧ x / self.tile.pixels = column then cutoff.toNat
      else self.cutoffAt y x := by
  have narrow : x / self.tile.pixels < self.columns := by
    rw [columns]
    cases self.tile <;> simp only [ScreenTile.pixels, viewportWidth] at inX ⊢ <;> omega
  obtain ⟨old, found, -⟩ := cutoff_cell self inRow inColumn
  obtain ⟨inside, -⟩ := Array.getElem?_eq_some_iff.mp found
  have marked : (self.mark (row * self.columns + column) cutoff).cutoffAt y x =
      (((self.cutoffs.setIfInBounds (row * self.columns + column) cutoff)[
        y / self.tile.pixels * self.columns + x / self.tile.pixels]?).getD 0).toNat :=
    rfl
  rw [marked, Array.getElem?_setIfInBounds]
  by_cases here : y / self.tile.pixels = row ∧ x / self.tile.pixels = column
  · rw [if_pos here, here.1, here.2, if_pos rfl, if_pos inside, Option.getD_some]
  · rw [if_neg here, if_neg, cutoffAt]
    intro same
    obtain ⟨rows, columns⟩ := rowMajor_inj inColumn narrow same
    exact here ⟨rows.symm, columns.symm⟩

/-- Cutoffs name boards that are solid if their masks are right,
and the statistics count the tiles that have one. -/
structure Prepared (boards : List SceneBillboard) (tile : ScreenTile)
    (state : Occlusion × SceneStats) : Prop where
  sameTile : state.1.tile = tile
  sound : ∀ y x, y < viewportHeight → x < viewportWidth → state.1.cutoffAt y x ≠ 0 →
    ∃ board, boards[state.1.cutoffAt y x - 1]? = some board ∧
      (board.texture.coverage.MarksOpaque → board.SolidAt y x)
  counted : state.2.opaqueTiles = state.1.cutoffs.countP (· ≠ 0)
  skipped : state.2.skippedBackgroundPixels = state.2.opaqueTiles * (tile.pixels * tile.pixels)
  raster : state.2.raster = {}
  scaler : state.2.scalerPreparations = 0

variable {boards : List SceneBillboard} {index : ℕ}

theorem countP_mark {cell : ℕ} {cutoff : UInt16} (found : self.cutoffs[cell]? = some 0)
    (some : cutoff ≠ 0) :
    (self.mark cell cutoff).cutoffs.countP (· ≠ 0) = self.cutoffs.countP (· ≠ 0) + 1 := by
  obtain ⟨inside, value⟩ := Array.getElem?_eq_some_iff.mp found
  have set : (self.mark cell cutoff).cutoffs = self.cutoffs.set cell cutoff := by
    exact dif_pos inside
  rw [set, Array.countP_set inside, value]
  simp [some]

theorem prepareTile_spec {state : Occlusion × SceneStats} {horizontal vertical : ℕ × ℕ}
    (prepared : Prepared boards tile state) (named : boards[index]? = some board)
    (short : index < Checked.u16Max) (inRow : row < viewportHeight / tile.pixels)
    (inColumn : column < viewportWidth / tile.pixels)
    (tested : Ensures (maskCovers mask horizontal vertical) fun covered => covered = true →
      board.texture.coverage.MarksOpaque → ∀ y x, y / tile.pixels = row →
        x / tile.pixels = column → board.SolidAt y x) :
    Ensures (prepareTile mask index (row * (viewportWidth / tile.pixels) + column) horizontal
      vertical state) (Prepared boards tile) := by
  obtain ⟨self, stats⟩ := state
  obtain ⟨rfl, sound, counted, skipped, raster, scaler⟩ := prepared
  dsimp only at *
  obtain ⟨cutoff, found, isCutoff⟩ := cutoff_cell self inRow inColumn
  rw [columns] at found
  apply Ensures.step found
  split
  · exact .value ⟨rfl, sound, counted, skipped, raster, scaler⟩
  · rename_i free
    rw [ne_eq, not_not] at free
    subst free
    apply tested.bind
    rintro (- | -) solid
    · exact .value ⟨rfl, sound, counted, skipped, raster, scaler⟩
    · have marked : (UInt16.ofNat (index + 1)).toNat = index + 1 := by
        rw [UInt16.toNat_ofNat']
        rw [Checked.u16Max] at short
        omega
      have nonzero : UInt16.ofNat (index + 1) ≠ 0 := by
        intro zero
        rw [zero] at marked
        cases marked
      have grown := countP_mark found nonzero
      have cells : (self.mark (row * (viewportWidth / self.tile.pixels) + column)
          (UInt16.ofNat (index + 1))).cutoffs.countP (· ≠ 0) ≤ self.tile.cells :=
        Array.countP_le_size.trans_eq (self.mark _ _).sized
      have most : self.tile.cells ≤ Checked.u32Max := by
        cases self.tile <;> decide
      have pixels : (stats.opaqueTiles + 1) * (self.tile.pixels * self.tile.pixels) ≤
          Checked.u32Max :=
        calc (stats.opaqueTiles + 1) * (self.tile.pixels * self.tile.pixels)
            ≤ self.tile.cells * (self.tile.pixels * self.tile.pixels) :=
              Nat.mul_le_mul_right _ (by omega)
          _ ≤ Checked.u32Max := by cases self.tile <;> decide
      rw [Nat.succ_mul, ← skipped] at pixels
      have tiles : stats.opaqueTiles + 1 ≤ Checked.u32Max := by omega
      apply Ensures.step (Checked.add_of_le tiles)
      apply Ensures.step (Checked.add_of_le pixels)
      refine .value ⟨rfl, fun y x inY inX cut => ?_, by rw [grown, counted],
        by rw [Nat.succ_mul, ← skipped], raster, scaler⟩
      have here : (self.mark (row * self.columns + column)
          (UInt16.ofNat (index + 1))).cutoffAt y x = _ := cutoffAt_mark inRow inColumn inX
      rw [columns] at here
      rw [here] at cut ⊢
      by_cases inTile : y / self.tile.pixels = row ∧ x / self.tile.pixels = column
      · rw [if_pos inTile, marked, Nat.add_sub_cancel]
        exact ⟨board, named, fun marks => solid rfl marks y x inTile.1 inTile.2⟩
      · rw [if_neg inTile] at cut ⊢
        exact sound y x inY inX cut

theorem prepareBoard_spec {state : Occlusion × SceneStats}
    (prepared : Prepared boards tile state) (named : boards[index]? = some board)
    (short : index < Checked.u16Max) :
    Ensures (prepareBoard tile board index state) (Prepared boards tile) := by
  rw [prepareBoard]
  split
  · exact .value prepared
  · rename_i mask hides
    dsimp only
    split
    · exact .value prepared
    · rename_i nonempty
      have inBottom := board.projected.screenRect.bottom_le
      have inRight := board.projected.screenRect.right_le
      have rows : board.projected.screenRect.bottom / tile.pixels ≤
          viewportHeight / tile.pixels := Nat.div_le_div_right inBottom
      have columns : board.projected.screenRect.right / tile.pixels ≤
          viewportWidth / tile.pixels := Nat.div_le_div_right inRight
      apply (forRange_rule (fun _ => Prepared boards tile) prepared _).mono fun _ done => done
      intro row state fromTop toBottom prepared
      apply (forRange_rule (fun _ => Prepared boards tile) prepared _).mono fun _ done => done
      intro column state fromLeft toRight prepared
      apply prepareTile_spec prepared named short (by omega) (by omega)
      exact covers_spec hides (.of_bounds fromTop (by omega) fromLeft (by omega))

theorem prepared_clear (self : Occlusion) (boards : List SceneBillboard) :
    Prepared boards self.tile (self.clear, {}) := by
  have zero : ∀ cutoff ∈ self.clear.cutoffs, cutoff = 0 := by
    intro cutoff member
    obtain ⟨_, -, rfl⟩ := Array.mem_map.mp member
    rfl
  refine ⟨rfl, fun y x inY inX cut => absurd ?_ cut, ?_, by simp, rfl, rfl⟩
  · obtain ⟨cutoff, found, isCutoff⟩ := cutoff_read self.clear inY inX
    rw [← isCutoff, zero cutoff (Array.mem_of_getElem? found)]
    rfl
  · apply Eq.symm
    rw [Array.countP_eq_zero]
    intro cutoff member
    simp [zero cutoff member]

/-- **The preparation is sound.** -/
theorem prepare_spec (self : Occlusion) (count : boards.length ≤ Checked.u16Max) :
    Ensures (self.prepare boards {}) (Prepared boards self.tile) := by
  apply (forEach_rule (fun _ => Prepared boards self.tile) (prepared_clear self boards) _).mono
    fun _ done => done
  rintro k ⟨board, index⟩ state found prepared
  have member := List.mem_reverse.mp (List.mem_of_getElem? found)
  obtain ⟨-, short, named⟩ := List.mem_zipIdx member
  have there : boards[index]? = some board := by
    rw [List.getElem?_eq_getElem (by omega), named]
    simp
  exact prepareBoard_spec prepared there (by omega)

end Occlusion

end Deskkin.Presentation
