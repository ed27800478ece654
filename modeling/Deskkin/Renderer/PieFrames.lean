/-
# Frames drawn with vector routines

The renderer draws the bands of a frame one after another. All of them are drawn onto the same
memory, and a buffer is used again while another one is on its way to the display; the words of
a band are taken when it is done. The textures and the columns are apart from every buffer, so
each band finds them as the first one did.

What leaves the renderer is compared with the reference that fills the whole screen with the
background and draws every board completely.
-/

import Deskkin.Renderer.PieBands

namespace Deskkin.Renderer

open Vectors Presentation Loops Grid Layers

/-- The rows of a band, where its buffer lies, and what the blitter finds in its registers. -/
structure PieBand where
  target : BandTarget
  buffer : ℕ
  registers : ℕ → ℕ → Register × Register

/-- The number of words of the band. -/
def PieBand.size (band : PieBand) : ℕ := band.target.stride * band.target.rows

/-- Draw bands one after another, and take the words of each when it is done. -/
def rasterBandsPie (layout : Layout) (checks wire : Bool) (background : Background) :
    List PieBand → PreparedScene → Memory → Option (PreparedScene × List (Array UInt16))
  | [], scene, _ => some (scene, [])
  | band :: bands, scene, m => do
      let (scene, m) ← rasterBandPie layout band.buffer band.registers checks wire background
        band.target scene m
      let (scene, rest) ← rasterBandsPie layout checks wire background bands scene m
      return (scene, m.words band.buffer band.size :: rest)

/-- The words of bands that come to a drawing. -/
noncomputable def drawnWords (draw : Drawing UInt16) : List PieBand → Memory → List (Array UInt16)
  | [], _ => []
  | band :: bands, m =>
      let m := (Memory.rows band.buffer band.target.y band.target.stride band.size).shade
        (restrict band.target.held draw) m
      m.words band.buffer band.size :: drawnWords draw bands m

section Runs

variable {layout : Layout} {scene : PreparedScene} {boards : List SceneBillboard}
  {occlusion : Occlusion} {background : Background} {m t : Memory} {bands : List PieBand}
  {checks wire : Bool} {buffer size other otherSize : ℕ}

/-- What is written to another buffer leaves the scene where it is. -/
theorem Layout.HasScene.keep (has : layout.HasScene scene m buffer size)
    (apart : layout.HasScene scene m other otherSize)
    (kept : ∀ x, x < other ∨ other + 2 * otherSize ≤ x → t x = m x) :
    layout.HasScene scene t buffer size where
  room := has.room
  even := has.even
  columns k column found := by
    obtain ⟨inside, -⟩ := Array.getElem?_eq_some_iff.mp found
    have columnsApart := apart.apart
    rw [← has.columns k column found, Memory.lane, Memory.lane, kept _ (by omega),
      kept _ (by omega)]
  apart := has.apart
  boards i board found := by
    have here := has.boards i board found
    have there := apart.boards i board found
    have colors : (WordSlice.mk (layout.colors i) board.texture.pixels).Readable t other
        otherSize := there.colors.keep kept (Nat.le_refl _) (Nat.le_refl _)
    have bytes : (ByteSlice.mk (layout.coverage i)
        (coverageBytes board.texture.coverage)).Readable t other otherSize :=
      there.coverage.keep kept (Nat.le_refl _) (Nat.le_refl _)
    exact ⟨⟨here.colors.even, colors.held, here.colors.apart⟩,
      ⟨bytes.held, here.coverage.apart⟩, here.present, here.colorsEnd, here.coverageEnd⟩

/-- **All bands of the renderer draw its own scene**, whatever is in the buffers. -/
theorem rasterBandsPie_eq (prepared : PreparedScene.Of boards occlusion scene)
    (small : scene.stats.raster.Fits)
    (has : ∀ band ∈ bands, layout.HasScene scene m band.buffer band.size) :
    rasterBandsPie layout checks wire background bands scene m =
      (addAll checks (bands.flatMap fun band => litItems scene.occlusion band.target.held 0 boards)
        scene.stats.raster).map fun raster =>
          ({ scene with stats := { scene.stats with raster := raster } },
            drawnWords (sceneDrawingBy (fun board => drawingWith board alphaPixel wire)
              scene.occlusion scene.stats.opaqueTiles boards background wire) bands m) := by
  induction bands generalizing scene m with
  | nil => rfl
  | cons band bands ih =>
      rw [rasterBandsPie, rasterBandPie_eq prepared small (has band List.mem_cons_self)
        (Nat.le_refl _), List.flatMap_cons, addAll_append]
      cases first : addAll checks (litItems scene.occlusion band.target.held 0 boards)
          scene.stats.raster with
      | none => rfl
      | some raster =>
          have later : PreparedScene.Of boards occlusion
              { scene with stats := { scene.stats with raster := raster } } :=
            ⟨prepared.sameBoards, prepared.prepared, prepared.length, prepared.entries⟩
          have hasLater : ∀ next ∈ bands, layout.HasScene
              { scene with stats := { scene.stats with raster := raster } }
              ((Memory.rows band.buffer band.target.y band.target.stride band.size).shade
                (restrict band.target.held (sceneDrawingBy
                  (fun board => drawingWith board alphaPixel wire) scene.occlusion
                    scene.stats.opaqueTiles boards background wire)) m)
              next.buffer next.size := by
            intro next member
            obtain ⟨room, even, columns, apart, textures⟩ :=
              (has next (List.mem_cons_of_mem _ member)).keep (has band List.mem_cons_self)
                fun x outside => Memory.eq_of_reached (Canvas.Reached.refl.shade _) outside
            exact ⟨room, even, columns, apart, textures⟩
          rw [Option.map_some, Option.bind_eq_bind, Option.bind_some]
          dsimp only
          rw [ih later (addAll_fits small first) hasLater]
          dsimp only [Option.bind_eq_bind, Option.bind_some]
          cases addAll checks (bands.flatMap fun band =>
              litItems scene.occlusion band.target.held 0 boards) raster with
          | none => rfl
          | some last => rfl

end Runs

/-! ## Frames -/

/-- The words of a band are those of the rows of a frame, except for what its boards blend. -/
structure NearRows (wire : Bool) (occlusion : Occlusion) (boards : List SceneBillboard)
    (stride : ℕ) (frame : Array UInt16) (band : PieBand) (words : Array UInt16) : Prop where
  size : words.size = band.size
  rows : ∀ y x, band.target.y ≤ y → y < band.target.y + band.target.rows → x < viewportWidth →
    ∃ word reference, words[(y - band.target.y) * band.target.stride + x]? = some word ∧
      frame[y * stride + x]? = some reference ∧ ∀ most, blendings occlusion (y, x) 0 boards = most →
        Within most (wireOrder wire word) (wireOrder wire reference) ∧
          (most = 0 → word = reference)

section Frames

variable {layout : Layout} {scene : PreparedScene} {boards : List SceneBillboard}
  {occlusion : Occlusion} {background : Background} {m : Memory} {bands : List PieBand}
  {wire : Bool} {stride room : ℕ} {frame painted : Array UInt16}
  {columns : Array ColumnSample}

/-- A word of the reference, whatever was there. -/
theorem painter_word {state : Occlusion × SceneStats} {tile : ScreenTile} {y x : ℕ}
    (holds : Occlusion.Prepared boards tile state)
    (marks : ∀ board ∈ boards, board.texture.coverage.MarksOpaque)
    (wide : viewportWidth ≤ stride) (fits : stride * viewportHeight ≤ frame.size)
    (drawn : painterScene stride boards background wire frame = some painted)
    (inY : y < viewportHeight) (inX : x < viewportWidth) (old : UInt16) :
    painted[y * stride + x]? = some
      (sceneDrawing state.1 state.2.opaqueTiles boards background wire y x old) := by
  obtain ⟨_, ran, rfl⟩ : Ensures (painterScene stride boards background wire frame) _ :=
    painterScene_spec wide fits
  cases drawn.symm.trans ran
  have inFrame : y * stride + (x + 1) ≤ frame.size :=
    (screen stride wide).row_fits fits (show y < 0 + viewportHeight by omega) (Nat.zero_le y)
      (Nat.succ_le_of_lt inX)
  have viewport : (y, x) ∈ block 0 viewportHeight 0 viewportWidth :=
    ⟨⟨Nat.zero_le _, inY⟩, Nat.zero_le _, inX⟩
  have word : frame[y * stride + x]? = some _ := Array.getElem?_eq_getElem inFrame
  show (shade 0 stride _ frame)[(y - 0) * stride + x]? = _
  rw [getElem?_shade_row (Nat.zero_le y) (Nat.lt_of_lt_of_le inX wide), Nat.sub_zero, word,
    Option.map_some, sceneDrawing_eq holds marks, restrict_of_mem viewport,
    restrict_of_mem viewport]
  rfl

/-- Bands that come to the renderer's own scene are near to the reference. -/
theorem drawnWords_near {opaqueTiles : ℕ}
    (reference : ∀ y x old, y < viewportHeight → x < viewportWidth → painted[y * stride + x]? =
      some (sceneDrawing occlusion opaqueTiles boards background wire y x old)) :
    List.Forall₂ (NearRows wire occlusion boards stride painted) bands
      (drawnWords (sceneDrawingBy (fun board => drawingWith board alphaPixel wire) occlusion
        opaqueTiles boards background wire) bands m) := by
  induction bands generalizing m with
  | nil => exact .nil
  | cons band bands ih =>
      refine .cons ⟨Memory.size_words _ _, fun y x above below narrow => ?_⟩ ih
      have rows := band.target.inside.2
      have inBand : (y - band.target.y) * band.target.stride + (x + 1) ≤ band.size :=
        band.target.row_fits (Nat.le_refl _) below above (Nat.succ_le_of_lt narrow)
      have held : (y, x) ∈ band.target.held := ⟨above, below⟩
      refine ⟨_, _, Memory.getElem?_words inBand, reference y x (m.lane (band.buffer +
        2 * ((y - band.target.y) * band.target.stride + x))) (by omega) narrow, ?_⟩
      rintro _ rfl
      rw [Memory.lane_shade_row above (Nat.lt_of_lt_of_le narrow band.target.wide) inBand,
        restrict_of_mem held]
      exact ⟨sceneDrawing_within _, fun none => Within.word (none ▸ sceneDrawing_within _)⟩

/-- A scene that was prepared had been accepted. -/
theorem accepted_of_new
    (prepared : PreparedScene.new boards occlusion room columns = some (.ok scene)) :
    boards.length ≤ Checked.u16Max ∧ inOrder boards = true := by
  by_cases rejected : boards.length > Checked.u16Max ∨ (!inOrder boards) = true
  · rw [PreparedScene.new, if_pos rejected] at prepared
    cases prepared
  · exact ⟨by omega, by simpa using fun out => rejected (Or.inr out)⟩

/-- **A frame of the renderer agrees with the reference.** For any bands, in any order, in new
buffers or in some that had been used, and whatever the vector registers hold, the renderer draws
all bands if the portable renderer does, with the same samples. Its words are those of the
reference that draws everything completely, but a channel may be less by the number of boards
that blend onto the pixel. -/
theorem rasterBandsPie_agrees (checks wire : Bool) (background : Background)
    (frame : Array UInt16)
    (prepared : PreparedScene.new boards occlusion room columns = some (.ok scene))
    (built : ∀ board ∈ boards, board.texture.coverage.MaskBuilt)
    (has : ∀ band ∈ bands, layout.HasScene scene m band.buffer band.size)
    (wide : viewportWidth ≤ stride) (fits : stride * viewportHeight ≤ frame.size) :
    (∀ others : List Presentation.Band, others.map (·.target) = bands.map (·.target) →
      (rasterBandsPie layout checks wire background bands scene m).map Prod.fst =
        (scene.rasterBands checks background wire others).map Prod.fst) ∧
    ∃ painted, painterScene stride boards background wire frame = some painted ∧
      ∀ last buffers, rasterBandsPie layout checks wire background bands scene m =
        some (last, buffers) →
          List.Forall₂ (NearRows wire scene.occlusion boards stride painted) bands buffers := by
  obtain ⟨short, ordered⟩ := accepted_of_new prepared
  obtain ⟨of, zero⟩ := of_prepared short ordered prepared
  have small : scene.stats.raster.Fits := zero ▸ RasterStats.fits_zero
  obtain ⟨painted, ran, -⟩ : Ensures (painterScene stride boards background wire frame) _ :=
    painterScene_spec wide fits
  rw [rasterBandsPie_eq of small has]
  refine ⟨fun others same => ?_, painted, ran, fun last buffers drawn => ?_⟩
  · have items : (others.flatMap fun band => litItems scene.occlusion band.target.held 0 boards) =
        bands.flatMap fun band => litItems scene.occlusion band.target.held 0 boards := by
      have all := congrArg (List.flatMap fun target : BandTarget =>
        litItems scene.occlusion target.held 0 boards) same
      rwa [List.flatMap_map, List.flatMap_map] at all
    rw [rasterBands_eq of small, items, Option.map_map, Option.map_map]
    rfl
  · obtain ⟨raster, -, same⟩ := Option.map_eq_some_iff.mp drawn
    cases same
    obtain ⟨stats, isState, tiles⟩ := of.prepared
    obtain ⟨_, preparedAgain, holds⟩ := occlusion.prepare_spec short
    cases isState.symm.trans preparedAgain
    rw [tiles]
    exact drawnWords_near fun y x old inY inX => painter_word holds
      (fun board member => (built board member).marksOpaque) wide fits ran inY inX old

theorem hazyBoard_maskBuilt : hazyBoard.texture.coverage.MaskBuilt := by
  rintro _ ⟨⟩
  exact ⟨#[128], #[0], by decide +kernel, fun i a _ found => found⟩

/-- Two bands in one buffer. -/
def sharedBuffer : List PieBand :=
  [⟨lowerBand.target, 0, fun _ _ => (.ofBytes fun _ => 7, .ofBytes UInt8.ofNat)⟩,
    ⟨upperBand.target, 0, fun _ _ => (.ofBytes UInt8.ofNat, .ofBytes fun _ => 9)⟩]

theorem rasterBandsPie_agrees_hazy : ∃ scene painted last buffers,
    PreparedScene.new [hazyBoard] ⟨.sixteen, Array.replicate 300 0, Array.size_replicate⟩ 1
        (Array.replicate 320 default) = some (.ok scene) ∧
    painterScene 320 [hazyBoard] ⟨fun _ => #v[1, 2, 3, 4]⟩ true (Array.replicate 76800 0) =
        some painted ∧
    rasterBandsPie shelfLayout false true ⟨fun _ => #v[1, 2, 3, 4]⟩ sharedBuffer scene
        (shelf scene.columns) = some (last, buffers) ∧
    List.Forall₂ (NearRows true scene.occlusion [hazyBoard] 320 painted) sharedBuffer buffers := by
  obtain ⟨scene, ran, of, small⟩ := hazyScene
  have built : ∀ board ∈ [hazyBoard], board.texture.coverage.MaskBuilt := by
    intro board member
    cases List.mem_singleton.mp member
    exact hazyBoard_maskBuilt
  have has : ∀ band ∈ sharedBuffer,
      shelfLayout.HasScene scene (shelf scene.columns) band.buffer band.size := by
    intro band member
    rcases List.mem_pair.mp member with rfl | rfl
    · exact shelf_hasScene of.sameBoards (by decide)
    · exact shelf_hasScene of.sameBoards (by decide)
  obtain ⟨-, painted, reference, near⟩ := rasterBandsPie_agrees false true
    ⟨fun _ => #v[1, 2, 3, 4]⟩ (Array.replicate 76800 0) ran built has
    (show viewportWidth ≤ 320 by decide) (by rw [Array.size_replicate]; decide)
  obtain ⟨raster, added⟩ : ∃ raster, addAll false (sharedBuffer.flatMap fun band =>
      litItems scene.occlusion band.target.held 0 [hazyBoard]) scene.stats.raster = some raster :=
    Option.isSome_iff_exists.mp addAll_unchecked
  have drawn : rasterBandsPie shelfLayout false true ⟨fun _ => #v[1, 2, 3, 4]⟩ sharedBuffer scene
      (shelf scene.columns) = _ := rasterBandsPie_eq of small has
  rw [added, Option.map_some] at drawn
  exact ⟨scene, painted, _, _, ran, reference, drawn, near _ _ drawn⟩

end Frames

end Deskkin.Renderer
