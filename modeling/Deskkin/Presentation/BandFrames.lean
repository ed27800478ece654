/-
# Bands and whole frames

A whole frame shows what the scene comes to at each place. The bands of a partition show
the same words, wherever they start and in whatever order they are drawn, and leave all
other words of their buffers as they were. They are drawn to the end if the samples fit
their counters, or if nothing checks whether they do.
-/

import Deskkin.Presentation.BandScene

namespace Deskkin.Presentation

open Loops Grid Layers

/-- The band shows the rows of the frame, and no other word of its buffer was changed. -/
structure ShowsRows (stride : ℕ) (frame : Array UInt16) (band : Band) (drawn : Array UInt16) :
    Prop where
  size : drawn.size = band.pixels.size
  rows : ∀ y x, band.target.y ≤ y → y < band.target.y + band.target.rows → x < viewportWidth →
    drawn[(y - band.target.y) * band.target.stride + x]? = frame[y * stride + x]?
  kept : ∀ i, (∀ y x, band.target.y ≤ y → y < band.target.y + band.target.rows →
    x < viewportWidth → i ≠ (y - band.target.y) * band.target.stride + x) →
      drawn[i]? = band.pixels[i]?

/-- All bands are drawn, and show the rows of the frame. -/
def BandsShow (checks : Bool) (background : Background) (wire : Bool) (bands : List Band)
    (scene : PreparedScene) (stride : ℕ) (frame : Array UInt16) : Prop :=
  ∃ after buffers, scene.rasterBands checks background wire bands = some (after, buffers) ∧
    List.Forall₂ (ShowsRows stride frame) bands buffers

section Rows

variable {boards : List SceneBillboard} {occlusion : Occlusion} {background : Background}
  {wire : Bool} {stride : ℕ} {frame pixels : Array UInt16} {target : BandTarget} {y x : ℕ}

/-- Nothing is drawn beside the viewport. -/
theorem sceneDrawing_outside {opaqueTiles : ℕ} (outside : viewportWidth ≤ x) (word : UInt16) :
    sceneDrawing occlusion opaqueTiles boards background wire y x word = word := by
  rw [sceneDrawing, restrict_of_notMem fun inside => Nat.not_lt.mpr outside inside.1.2.2]
  apply paint_culled_of_id
  intro _ member other
  obtain ⟨board, -, rfl⟩ := List.mem_map.mp member
  rw [layer, restrict_of_notMem]
  intro inside
  rw [SceneBillboard.mem_area] at inside
  omega

/-- A scene that was drawn had been accepted. -/
theorem rasterScene_accepted {stats : SceneStats} {painted : Array UInt16}
    (drawn : rasterScene stride boards background wire occlusion frame =
      some (.ok stats, painted)) :
    viewportWidth ≤ stride ∧ stride * viewportHeight ≤ frame.size ∧
      boards.length ≤ Checked.u16Max ∧ inOrder boards = true := by
  rw [rasterScene_eq] at drawn
  cases accepted : sceneRejection stride boards frame.size with
  | some error =>
      rw [accepted] at drawn
      cases drawn
  | none => exact sceneRejection_eq_none accepted

end Rows

section Frames

variable {boards : List SceneBillboard} {occlusion frameOcclusion : Occlusion}
  {background : Background} {checks wire : Bool} {stride : ℕ} {frame painted : Array UInt16}
  {bands : List Band} {scene : PreparedScene}

/-- The cutoffs at the start depend on the size of the tiles only. -/
theorem prepare_congr (sameTile : occlusion.tile = frameOcclusion.tile) :
    occlusion.prepare boards {} = frameOcclusion.prepare boards {} := by
  have cleared : occlusion.clear = frameOcclusion.clear := by
    obtain ⟨tile, cutoffs, sized⟩ := occlusion
    obtain ⟨frameTile, frameCutoffs, frameSized⟩ := frameOcclusion
    cases sameTile
    have same : cutoffs.map (fun _ => (0 : UInt16)) = frameCutoffs.map fun _ => 0 := by
      rw [Array.map_const', Array.map_const', sized, frameSized]
    simp only [Occlusion.clear, same]
  rw [Occlusion.prepare, Occlusion.prepare, cleared, sameTile]

/-- Bands and frame come to the same word, if the masks are right or if both start from it. -/
theorem sceneDrawing_same {state frameState : Occlusion × SceneStats} {y x : ℕ} {a b : UInt16}
    (prepared : occlusion.prepare boards {} = some state)
    (framePrepared : frameOcclusion.prepare boards {} = some frameState)
    (short : boards.length ≤ Checked.u16Max)
    (contents : (∀ board ∈ boards, board.texture.coverage.MaskBuilt) ∨
      occlusion.tile = frameOcclusion.tile ∧ a = b)
    (inY : y < viewportHeight) (inX : x < viewportWidth) :
    sceneDrawing state.1 state.2.opaqueTiles boards background wire y x a =
      sceneDrawing frameState.1 frameState.2.opaqueTiles boards background wire y x b := by
  rcases contents with built | ⟨sameTile, rfl⟩
  · have inside : (y, x) ∈ block 0 viewportHeight 0 viewportWidth :=
      ⟨⟨Nat.zero_le _, inY⟩, Nat.zero_le _, inX⟩
    have marks : ∀ board ∈ boards, board.texture.coverage.MarksOpaque :=
      fun board member => (built board member).marksOpaque
    obtain ⟨_, ran, holds⟩ := occlusion.prepare_spec short
    obtain ⟨_, frameRan, frameHolds⟩ := frameOcclusion.prepare_spec short
    rw [prepared, Option.some.injEq] at ran
    rw [framePrepared, Option.some.injEq] at frameRan
    subst ran frameRan
    rw [sceneDrawing_eq holds marks, sceneDrawing_eq frameHolds marks, restrict_of_mem inside,
      restrict_of_mem inside]
    rfl
  · rw [prepare_congr sameTile, framePrepared, Option.some.injEq] at prepared
    rw [prepared]

/-- The words of a buffer whose rows were drawn. -/
theorem showsRows_of_drawn {bandDraw frameDraw : Drawing UInt16} {band : Band}
    (wide : viewportWidth ≤ stride) (fits : stride * viewportHeight ≤ frame.size)
    (beside : ∀ y x word, viewportWidth ≤ x → bandDraw y x word = word)
    (same : ∀ y x a b, band.target.y ≤ y → y < band.target.y + band.target.rows →
      x < viewportWidth →
        band.pixels[(y - band.target.y) * band.target.stride + x]? = some a →
          frame[y * stride + x]? = some b → bandDraw y x a = frameDraw y x b) :
    ShowsRows stride (shade 0 stride frameDraw frame) band
      (shade band.target.y band.target.stride (restrict band.target.held bandDraw)
        band.pixels) where
  size := size_shade _ _
  rows := by
    intro y x above below narrow
    have inside := band.target.inside.2
    have bandFits := band.target.row_fits band.fits below above (Nat.succ_le_of_lt narrow)
    have frameFits : y * stride + (x + 1) ≤ frame.size :=
      (screen stride wide).row_fits fits (show y < 0 + viewportHeight by omega) (Nat.zero_le y)
        (Nat.succ_le_of_lt narrow)
    have word : band.pixels[(y - band.target.y) * band.target.stride + x]? = some _ :=
      Array.getElem?_eq_getElem bandFits
    have frameWord : frame[y * stride + x]? = some _ := Array.getElem?_eq_getElem frameFits
    have held : (y, x) ∈ band.target.held := ⟨above, below⟩
    have shown : (shade 0 stride frameDraw frame)[(y - 0) * stride + x]? = _ :=
      getElem?_shade_row (Nat.zero_le y) (Nat.lt_of_lt_of_le narrow wide)
    rw [Nat.sub_zero] at shown
    rw [getElem?_shade_row above (Nat.lt_of_lt_of_le narrow band.target.wide), shown, word,
      frameWord, Option.map_some, Option.map_some, restrict_of_mem held,
      same y x _ _ above below narrow word frameWord]
  kept := by
    intro i outside
    rw [getElem?_shade]
    cases band.pixels[i]? with
    | none => rfl
    | some word =>
        have place := Nat.div_add_mod i band.target.stride
        rw [Option.map_some]
        by_cases held : (band.target.y + i / band.target.stride, i % band.target.stride) ∈
            band.target.held
        · rw [restrict_of_mem held, beside]
          apply Nat.le_of_not_lt
          intro narrow
          apply outside _ _ held.1 held.2 narrow
          rw [Nat.add_sub_cancel_left, Nat.mul_comm, place]
        · rw [restrict_of_notMem held]

/-- A scene that was prepared is one for its boards. -/
theorem of_prepared {room : ℕ} {columns : Array ColumnSample}
    (short : boards.length ≤ Checked.u16Max) (ordered : inOrder boards = true)
    (prepared : PreparedScene.new boards occlusion room columns = some (.ok scene)) :
    PreparedScene.Of boards occlusion scene ∧ scene.stats.raster = {} := by
  by_cases entries : boards.length ≤ room
  · obtain ⟨result, ran, -, ready⟩ : Ensures (PreparedScene.new boards occlusion room columns) _ :=
      PreparedScene.new_spec short ordered entries
    rw [prepared, Option.some.injEq] at ran
    exact ready scene ran.symm
  · have accepted : ¬(boards.length > Checked.u16Max ∨ (!inOrder boards) = true) := by
      rw [ordered]
      simp
      exact short
    rw [PreparedScene.new, if_neg accepted, if_pos (Nat.lt_of_not_le entries)] at prepared
    cases prepared

/-- Boards in order are drawn and prepared, with enough scratch. -/
theorem drawn_and_prepared (boards : List SceneBillboard) (background : Background) (wire : Bool)
    (occlusion frameOcclusion : Occlusion) (stride room : ℕ) (frame : Array UInt16)
    (columns : Array ColumnSample) (short : boards.length ≤ Checked.u16Max)
    (ordered : inOrder boards = true) (wide : viewportWidth ≤ stride)
    (fits : stride * viewportHeight ≤ frame.size)
    (entries : boards.length ≤ room) (samples : boards.length * viewportWidth ≤ columns.size) :
    ∃ scene stats painted,
      rasterScene stride boards background wire frameOcclusion frame =
        some (.ok stats, painted) ∧
      PreparedScene.new boards occlusion room columns = some (.ok scene) := by
  obtain ⟨_, drawn, state, -, rfl⟩ : Ensures (rasterScene stride boards background wire
    frameOcclusion frame) _ := rasterScene_spec wide fits short ordered
  obtain ⟨_, ran, enough, -⟩ : Ensures (PreparedScene.new boards occlusion room columns) _ :=
    PreparedScene.new_spec short ordered entries
  obtain ⟨scene, rfl⟩ := enough samples
  exact ⟨scene, _, _, drawn, ran⟩

/-- All bands of a partition are drawn, unless a counter stops them. -/
theorem rasterBands_isSome (of : PreparedScene.Of boards occlusion scene)
    (zero : scene.stats.raster = {}) (partition : IsPartition bands) :
    (scene.rasterBands checks background wire bands).isSome = true ↔ checks = false ∨
      ∀ filter, visibleSamples filter scene.occlusion boards ≤ Checked.u32Max := by
  have small : scene.stats.raster.Fits := zero ▸ RasterStats.fits_zero
  rw [rasterBands_eq of small, Option.isSome_map]
  cases checks with
  | false => exact iff_of_true addAll_unchecked (Or.inl rfl)
  | true =>
      rw [addAll_checked small, zero]
      constructor
      · intro all
        refine Or.inr fun filter => ?_
        have fits := all filter
        rwa [total_partition partition, RasterStats.count_zero, Nat.zero_add] at fits
      · rintro (absurdity | all) filter
        · cases absurdity
        · rw [total_partition partition, RasterStats.count_zero, Nat.zero_add]
          exact all filter

/-- **Bands show what a whole frame shows**, exactly when no counter stops them: a build
that checks its arithmetic draws all bands if the visible samples of each filter fit 32
bits, and a build that does not draws them always. -/
theorem rasterBands_eq_rasterScene_iff (checks wire : Bool) (boards : List SceneBillboard)
    (background : Background) (occlusion frameOcclusion : Occlusion) (room : ℕ)
    (columns : Array ColumnSample) (scene : PreparedScene) (bands : List Band) (stride : ℕ)
    (frame painted : Array UInt16) (stats : SceneStats)
    (drawn : rasterScene stride boards background wire frameOcclusion frame =
      some (.ok stats, painted))
    (prepared : PreparedScene.new boards occlusion room columns = some (.ok scene))
    (partition : IsPartition bands)
    (contents : (∀ board ∈ boards, board.texture.coverage.MaskBuilt) ∨
      occlusion.tile = frameOcclusion.tile ∧ ∀ band ∈ bands, ∀ y x, band.target.y ≤ y →
        y < band.target.y + band.target.rows → x < viewportWidth →
          band.pixels[(y - band.target.y) * band.target.stride + x]? = frame[y * stride + x]?) :
    BandsShow checks background wire bands scene stride painted ↔
      checks = false ∨
        ∀ filter, visibleSamples filter scene.occlusion boards ≤ Checked.u32Max := by
  obtain ⟨wide, fits, short, ordered⟩ := rasterScene_accepted drawn
  obtain ⟨of, zero⟩ := of_prepared short ordered prepared
  have small : scene.stats.raster.Fits := zero ▸ RasterStats.fits_zero
  rw [← rasterBands_isSome of zero partition]
  constructor
  · rintro ⟨after, buffers, ran, -⟩
    rw [ran]
    rfl
  · intro finished
    obtain ⟨⟨after, buffers⟩, ran⟩ := Option.isSome_iff_exists.mp finished
    refine ⟨after, buffers, ran, ?_⟩
    rw [rasterBands_eq of small, Option.map_eq_some_iff] at ran
    obtain ⟨raster, -, shown⟩ := ran
    cases shown
    obtain ⟨state, bandPrepared, tiles⟩ := of.prepared
    obtain ⟨whole, ran', frameState, framePrepared, rfl⟩ : Ensures (rasterScene stride
      boards background wire frameOcclusion frame) _ := rasterScene_spec wide fits short ordered
    rw [drawn, Option.some.injEq] at ran'
    cases ran'
    rw [List.forall₂_map_right_iff, List.forall₂_same]
    intro band member
    apply showsRows_of_drawn wide fits (fun y x word beside => sceneDrawing_outside beside word)
    intro y x a b above below narrow word frameWord
    have rows := band.target.inside.2
    rw [tiles]
    apply sceneDrawing_same bandPrepared framePrepared short _ (by omega) narrow
    refine contents.imp_right fun ⟨sameTile, agree⟩ => ⟨sameTile, ?_⟩
    rw [agree band member y x above below narrow, frameWord, Option.some.injEq] at word
    exact word.symm

/-- A target takes any buffer that is large enough. -/
theorem BandTarget.new_of_fits (target : BandTarget) {pixels : Array UInt16}
    (fits : target.stride * target.rows ≤ pixels.size) :
    BandTarget.new pixels target.stride target.y target.rows = .ok target := by
  have wide := target.wide
  have inside := target.inside
  rw [BandTarget.new, dif_neg (by omega)]

/-- The lower rows of the screen. -/
def lowerBand : Band where
  target := ⟨320, 100, 140, by decide, by decide⟩
  pixels := Array.replicate 44800 7
  accepted := BandTarget.new_of_fits _ (by rw [Array.size_replicate]; decide)

/-- The upper rows of the screen, in a wider buffer. -/
def upperBand : Band where
  target := ⟨321, 0, 100, by decide, by decide⟩
  pixels := Array.replicate 40000 9
  accepted := BandTarget.new_of_fits _ (by rw [Array.size_replicate]; decide)

theorem isPartition_halves : IsPartition [lowerBand, upperBand] where
  apart := by
    rw [List.pairwise_pair, Set.disjoint_left]
    rintro ⟨y, x⟩ ⟨above, -⟩ ⟨-, below⟩
    have lower : 100 ≤ y := above
    have upper : y < 0 + 100 := below
    omega
  covers y inside := by
    by_cases upper : y < 100
    · exact ⟨upperBand, by simp, Nat.zero_le y, show y < 0 + 100 by omega⟩
    · refine ⟨lowerBand, by simp, Nat.le_of_not_lt upper, ?_⟩
      rw [viewportHeight] at inside
      show y < 100 + 140
      omega

theorem rasterBands_eq_rasterScene_halves : ∃ scene stats painted,
    rasterScene 320 [tileBoard] ⟨fun _ => #v[1, 2, 3, 4]⟩ true
        ⟨.eight, Array.replicate 1200 0, Array.size_replicate⟩ (Array.replicate 76800 0) =
      some (.ok stats, painted) ∧
    PreparedScene.new [tileBoard] ⟨.sixteen, Array.replicate 300 0, Array.size_replicate⟩ 1
        (Array.replicate 320 default) = some (.ok scene) ∧
    (BandsShow true ⟨fun _ => #v[1, 2, 3, 4]⟩ true [lowerBand, upperBand] scene 320 painted ↔
      true = false ∨
        ∀ filter, visibleSamples filter scene.occlusion [tileBoard] ≤ Checked.u32Max) := by
  obtain ⟨scene, stats, painted, drawn, ran⟩ := drawn_and_prepared [tileBoard]
    ⟨fun _ => #v[1, 2, 3, 4]⟩ true ⟨.sixteen, Array.replicate 300 0, Array.size_replicate⟩
    ⟨.eight, Array.replicate 1200 0, Array.size_replicate⟩ 320 1 (Array.replicate 76800 0)
    (Array.replicate 320 default) (by decide) (by decide) (by decide)
    (by rw [Array.size_replicate]; decide) (by decide) (by rw [Array.size_replicate]; decide)
  refine ⟨scene, stats, painted, drawn, ran, ?_⟩
  exact rasterBands_eq_rasterScene_iff true true [tileBoard] _ _ _ 1 _ scene _ 320 _ _ _ drawn
    ran isPartition_halves (Or.inl fun board member => by
      rw [List.mem_singleton] at member
      subst member
      exact tileBoard_maskBuilt)

end Frames

/-! ## More samples than a counter holds -/

section Hazy

variable {boards : List SceneBillboard} {occlusion : Occlusion}

/-- Boards that hide nothing leave the cutoffs cleared. -/
theorem prepare_of_no_occluder (hides : ∀ board ∈ boards, Occlusion.occluder board = none) :
    occlusion.prepare boards {} = some (occlusion.clear, {}) := by
  obtain ⟨state, ran, rfl⟩ : Ensures (occlusion.prepare boards {}) fun state =>
      state = (occlusion.clear, {}) := by
    rw [Occlusion.prepare]
    apply (forEach_rule (fun _ state => state = (occlusion.clear, ({} : SceneStats))) rfl _).mono
      fun _ done => done
    rintro k ⟨board, index⟩ _ found rfl
    have member := List.mem_reverse.mp (List.mem_of_getElem? found)
    obtain ⟨-, -, named⟩ := List.mem_zipIdx member
    have hidesNothing := hides board (named ▸ List.getElem_mem _)
    show Ensures (Occlusion.prepareBoard _ _ _ _) _
    rw [Occlusion.prepareBoard, hidesNothing]
    exact .value rfl
  exact ran

theorem lit_clear {board : SceneBillboard} {index : ℕ} :
    lit occlusion.clear board index = board.area := by
  ext ⟨y, x⟩
  refine and_iff_left_of_imp fun _ => ?_
  have zero : occlusion.clear.cutoffAt y x = 0 := by
    rw [Occlusion.cutoffAt]
    cases found : occlusion.clear.cutoffs[y / occlusion.clear.tile.pixels *
        occlusion.clear.columns + x / occlusion.clear.tile.pixels]? with
    | none => rfl
    | some cutoff =>
        obtain ⟨_, -, rfl⟩ := Array.mem_map.mp (Array.mem_of_getElem? found)
        rfl
  rw [Occlusion.visible, Set.mem_ofPred_eq, zero]
  exact Nat.zero_le _

theorem inOrder_replicate (board : SceneBillboard) (count : ℕ) :
    inOrder (List.replicate count board) = true := by
  rw [inOrder, List.all_eq_true]
  rintro ⟨a, b⟩ member
  obtain ⟨first, second⟩ := List.of_mem_zip member
  rw [List.eq_of_mem_replicate first, List.eq_of_mem_replicate (List.mem_of_mem_tail second)]
  simp

/-- Many boards of one filter are as many times as many samples. -/
theorem total_litItems_replicate (board : SceneBillboard) (count index : ℕ) :
    total board.projected.filter (litItems occlusion.clear Set.univ index
      (List.replicate count board)) = count * board.area.ncard := by
  induction count generalizing index with
  | zero => exact (Nat.zero_mul _).symm
  | succ count ih =>
      have everywhere : {place ∈ lit occlusion.clear board index | place ∈ Set.univ} =
          board.area := by
        rw [lit_clear]
        ext place
        exact and_iff_left trivial
      rw [List.replicate_succ, litItems, total_cons, if_pos rfl, ih, everywhere, Nat.succ_mul,
        Nat.add_comm]

/-- A texel that is half covered, all over the screen. -/
def hazyBoard : SceneBillboard where
  projected := ⟨1, ⟨0, 0, 320, 240⟩, 0, 1, .nearest⟩
  texture := ⟨⟨1, 1⟩, #[0x1234], .alpha8 #[128] ⟨⟨1, 1⟩, #[0], oneTexel_nonempty, by decide⟩⟩
  region := ⟨0, 0, 1, 1, 1⟩
  valid := by decide
  positive := by decide

theorem ncard_hazyBoard : hazyBoard.area.ncard = 76800 := by
  rw [SceneBillboard.area, ncard_block]
  decide

def wholeBand : Band where
  target := ⟨320, 0, 240, by decide, by decide⟩
  pixels := Array.replicate 76800 0
  accepted := BandTarget.new_of_fits _ (by rw [Array.size_replicate]; decide)

theorem isPartition_whole : IsPartition [wholeBand] where
  apart := List.pairwise_singleton _ _
  covers y inside := ⟨wholeBand, by simp, Nat.zero_le y, inside.trans_eq (Nat.zero_add _).symm⟩

/-- With 55925 hazy boards there are more samples than 32 bits count. -/
theorem hazy_exceeds : ∃ scene stats painted,
    rasterScene 320 (List.replicate 55925 hazyBoard) ⟨fun _ => #v[0, 0, 0, 0]⟩ false
        ⟨.eight, Array.replicate 1200 0, Array.size_replicate⟩ (Array.replicate 76800 0) =
      some (.ok stats, painted) ∧
    PreparedScene.new (List.replicate 55925 hazyBoard)
        ⟨.eight, Array.replicate 1200 0, Array.size_replicate⟩ 55925
        (Array.replicate (55925 * viewportWidth) default) = some (.ok scene) ∧
    Checked.u32Max < visibleSamples .nearest scene.occlusion
      (List.replicate 55925 hazyBoard) := by
  have short : (List.replicate 55925 hazyBoard).length ≤ Checked.u16Max := by
    rw [List.length_replicate]
    decide
  have ordered := inOrder_replicate hazyBoard 55925
  obtain ⟨scene, stats, painted, drawn, ran⟩ := drawn_and_prepared
    (List.replicate 55925 hazyBoard) ⟨fun _ => #v[0, 0, 0, 0]⟩ false
    ⟨.eight, Array.replicate 1200 0, Array.size_replicate⟩
    ⟨.eight, Array.replicate 1200 0, Array.size_replicate⟩ 320 55925 (Array.replicate 76800 0)
    (Array.replicate (55925 * viewportWidth) default) short ordered (by decide)
    (by rw [Array.size_replicate]; decide) (by rw [List.length_replicate])
    (by rw [Array.size_replicate, List.length_replicate])
  refine ⟨scene, stats, painted, drawn, ran, ?_⟩
  obtain ⟨of, -⟩ := of_prepared short ordered ran
  obtain ⟨state, prepared, -⟩ := of.prepared
  rw [prepare_of_no_occluder fun board member => by
    rw [List.eq_of_mem_replicate member]; decide +kernel] at prepared
  rw [← (Prod.mk.inj (Option.some.inj prepared)).1, visibleSamples,
    show TextureFilter.nearest = hazyBoard.projected.filter from rfl, total_litItems_replicate,
    ncard_hazyBoard]
  decide

/-- The frame is drawn with 55925 hazy boards, and a build that checks its arithmetic does
not draw the bands. -/
theorem rasterBands_stops : ∃ scene stats painted,
    rasterScene 320 (List.replicate 55925 hazyBoard) ⟨fun _ => #v[0, 0, 0, 0]⟩ false
        ⟨.eight, Array.replicate 1200 0, Array.size_replicate⟩ (Array.replicate 76800 0) =
      some (.ok stats, painted) ∧
    PreparedScene.new (List.replicate 55925 hazyBoard)
        ⟨.eight, Array.replicate 1200 0, Array.size_replicate⟩ 55925
        (Array.replicate (55925 * viewportWidth) default) = some (.ok scene) ∧
    IsPartition [wholeBand] ∧ hazyBoard.texture.coverage.MaskBuilt ∧
    ¬BandsShow true ⟨fun _ => #v[0, 0, 0, 0]⟩ false [wholeBand] scene 320 painted := by
  obtain ⟨scene, stats, painted, drawn, ran, exceeds⟩ := hazy_exceeds
  obtain ⟨-, -, short, ordered⟩ := rasterScene_accepted drawn
  obtain ⟨of, zero⟩ := of_prepared short ordered ran
  refine ⟨scene, stats, painted, drawn, ran, isPartition_whole, ?_, ?_⟩
  · rintro _ ⟨⟩
    exact ⟨#[128], #[0], by decide +kernel, fun i a _ found => found⟩
  · rintro ⟨after, buffers, finished, -⟩
    have done := (rasterBands_isSome of zero isPartition_whole).mp (by rw [finished]; rfl)
    rcases done with absurdity | fits
    · cases absurdity
    · exact absurd (fits .nearest) (Nat.not_le_of_lt exceeds)

end Hazy

end Deskkin.Presentation
