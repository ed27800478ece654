/-
# Scenes look as if they were painted

The reference fills the viewport with the background and then draws every board
completely, from far to near. A scene that is drawn with an occlusion map comes to the
same words, as what it leaves out is below an opaque board.
-/

import Deskkin.Lib.Layers
import Deskkin.Presentation.Uncovered

namespace Deskkin.Presentation

open Loops Grid Layers

/-- The whole screen as one band. -/
def screen (stride : ℕ) (wide : viewportWidth ≤ stride) : BandTarget where
  stride := stride
  y := 0
  rows := viewportHeight
  wide := wide
  inside := by decide

theorem BandTarget.new_screen {stride : ℕ} {pixels : Array UInt16} (wide : viewportWidth ≤ stride)
    (fits : stride * viewportHeight ≤ pixels.size) :
    BandTarget.new pixels stride 0 viewportHeight = .ok (screen stride wide) := by
  rw [BandTarget.new, dif_neg (by rw [viewportHeight] at *; omega)]
  rfl

/-- An accepted buffer holds the rows of its target. -/
theorem BandTarget.fits_of_new {target : BandTarget} {pixels : Array UInt16}
    (accepted : BandTarget.new pixels target.stride target.y target.rows = .ok target) :
    target.stride * target.rows ≤ pixels.size := by
  rw [BandTarget.new] at accepted
  split at accepted
  · cases accepted
  · omega

/-! ## One board -/

section Board

variable {board : SceneBillboard} {wire : Bool} {stride : ℕ} {mask : Option (Occlusion × ℕ)}
  {pixels : Array UInt16}

variable {top bottom left right : ℕ} {target : BandTarget} {buffer : Array ColumnSample}

/-- The stepper and the sampled columns of a board. -/
theorem columns_spec (clip : Clip board target top bottom left right) (rows : top < bottom)
    (columns : left < right) {start : ℕ} (room : start + (right - left) ≤ buffer.size) :
    AxisStepper.new board.region.width board.projected.screenRect.width
        (left - board.projected.screenRect.x.toInt) =
      some (.placed board.region.width board.projected.screenRect.width
        (placeAt board.projected.screenRect.x left)) ∧
    fillColumns board.region.sourceX (.placed board.region.width board.projected.screenRect.width
        (placeAt board.projected.screenRect.x left)) start (right - left) buffer =
      some (fill (fun k _ => board.columnAt (left + k)) start (right - left) buffer) := by
  have narrow := board.texture.size.width.toNat_lt
  have fits := board.fits.right
  have positive := board.positive
  have first := SceneBillboard.mem_area.mp ((clip.inside top left).mpr (by omega)).1
  have last := SceneBillboard.mem_area.mp ((clip.inside top (right - 1)).mpr (by omega)).1
  have place : (left : ℤ) - board.projected.screenRect.x.toInt =
      placeAt board.projected.screenRect.x left := by
    rw [placeAt]
    omega
  have sampled : ∀ k, board.columnAt (left + k) = columnAt board.region.sourceX
      board.region.width board.projected.screenRect.width
        (placeAt board.projected.screenRect.x left + k) := by
    intro k
    rw [SceneBillboard.columnAt]
    congr 1
    rw [placeAt, placeAt]
    omega
  constructor
  · rw [place, AxisStepper.new_eq_placed positive.1 (by rw [placeAt]; omega)]
  · rw [fillColumns_eq_some board.fits.width_pos (by rw [Checked.u16Max]; omega)
      (by rw [placeAt]; omega) room]
    simp only [sampled]

variable (board) in
theorem extract_columns {start left right : ℕ} (room : start + (right - left) ≤ buffer.size) :
    (fill (fun k _ => board.columnAt (left + k)) start (right - left) buffer).extract start
        (start + (right - left)) = board.columnsOf left right := by
  apply Array.ext_getElem?
  intro k
  by_cases short : k < right - left
  · have found : buffer[start + k]? = some buffer[start + k] := Array.getElem?_eq_getElem (by omega)
    rw [getElem?_extract_of_lt (by omega), getElem?_fill, SceneBillboard.getElem?_columnsOf short,
      found, Option.map_some, if_pos (by omega), Nat.add_sub_cancel_left]
  · rw [Array.getElem?_eq_none (by rw [Array.size_extract, size_fill]; omega),
      Array.getElem?_eq_none (by rw [SceneBillboard.size_columnsOf]; omega)]

/-- The stepper at the first row of a board in the target. -/
theorem rowStepper_eq (clip : Clip board target top bottom left right) (rows : top < bottom)
    (columns : left < right) :
    AxisStepper.new board.region.height board.projected.screenRect.height
        (top - board.projected.screenRect.y.toInt) =
      some (.placed board.region.height board.projected.screenRect.height
        (placeAt board.projected.screenRect.y top)) := by
  have positive := board.positive
  have first := SceneBillboard.mem_area.mp ((clip.inside top left).mpr (by omega)).1
  have place : (top : ℤ) - board.projected.screenRect.y.toInt =
      placeAt board.projected.screenRect.y top := by
    rw [placeAt]
    omega
  rw [place, AxisStepper.new_eq_placed positive.2 (by rw [placeAt]; omega)]

/-- **The sampler draws a board where it is shown.** -/
theorem rasterScaled_spec (clip : Clip board target top bottom left right) (rows : top < bottom)
    (columns : left < right) (fits : target.stride * target.rows ≤ pixels.size) :
    Ensures (rasterScaled target.y target.stride board.projected board.texture board.region wire
        left top right bottom mask pixels)
      (Drawn target.y target.stride (board.drawing wire) pixels (board.shown target mask)) := by
  have viewport := SceneBillboard.mem_area.mp ((clip.inside top (right - 1)).mpr (by omega)).1
  have room : 0 + (right - left) ≤
      (Array.replicate viewportWidth (default : ColumnSample)).size := by
    rw [Array.size_replicate]
    omega
  obtain ⟨stepper, sampled⟩ := columns_spec clip rows columns room
  have extracted := extract_columns board room
  rw [Nat.zero_add] at extracted
  unfold rasterScaled
  simp only [Int.toNat_natCast, Int.toNat_sub]
  apply Ensures.step stepper
  apply Ensures.step sampled
  apply Ensures.step (rowStepper_eq clip rows columns)
  rw [extracted]
  exact dispatchVisible_spec clip rows columns fits

/-- **A board is drawn where it is shown**, by the sampler or at native size, and its
pixels are counted. -/
theorem rasterBillboardBy_spec {native : Bool} (allowed : native = true → board.native = true)
    (wide : viewportWidth ≤ stride) (fits : stride * viewportHeight ≤ pixels.size) :
    Ensures (rasterBillboardBy native stride board.projected board.texture board.region wire mask
        pixels) fun after => after =
      (.ok (samplesOf board.projected.filter (board.shown (screen stride wide) mask).ncard),
        shade 0 stride (restrict (board.shown (screen stride wide) mask) (board.drawing wire))
          pixels) := by
  have positive := board.positive
  have nothing : board.shown (screen stride wide) mask = ∅ →
      (.ok (samplesOf board.projected.filter (board.shown (screen stride wide) mask).ncard),
        shade 0 stride (restrict (board.shown (screen stride wide) mask) (board.drawing wire))
          pixels) = ((.ok {}, pixels) : Except RasterError RasterStats × Array UInt16) := by
    intro empty
    rw [empty, shade_restrict_empty, Set.ncard_empty]
    cases board.projected.filter <;> rfl
  unfold rasterBillboardBy
  rw [if_neg (Nat.not_lt.mpr wide), if_neg (Nat.not_lt.mpr fits), board.valid]
  dsimp only
  rw [if_neg (by omega)]
  generalize leftIs : max board.projected.screenRect.x.toInt 0 = left
  generalize topIs : max board.projected.screenRect.y.toInt 0 = top
  generalize rightIs : min (saturatingSum board.projected.screenRect.x
    board.projected.screenRect.width) viewportWidth = right
  generalize bottomIs : min (saturatingSum board.projected.screenRect.y
    board.projected.screenRect.height) viewportHeight = bottom
  have clip : Clip board (screen stride wide) top.toNat bottom.toNat left.toNat right.toNat := by
    constructor
    intro y x
    rw [← leftIs, ← topIs, ← rightIs, ← bottomIs, ScreenRect.mem_axis (by decide),
      ScreenRect.mem_axis (by decide), ← SceneBillboard.mem_area]
    refine and_iff_left_of_imp fun inside => ?_
    rw [SceneBillboard.mem_area] at inside
    simp only [screen]
    omega
  split
  · rename_i empty
    refine .value (nothing ?_).symm
    ext ⟨y, x⟩
    refine iff_of_false (fun here => ?_) (Set.notMem_empty _)
    rw [clip.mem_shown] at here
    omega
  · rename_i nonempty
    rw [not_or, ge_iff_le, ge_iff_le, not_le, not_le] at nonempty
    have inRight : right ≤ viewportWidth := by omega
    have inBottom : bottom ≤ viewportHeight := by omega
    lift left to ℕ using by omega
    lift top to ℕ using by omega
    lift right to ℕ using by omega
    lift bottom to ℕ using by omega
    simp only [Int.toNat_natCast] at clip ⊢
    obtain ⟨columns, rows⟩ : left < right ∧ top < bottom := by omega
    refine Ensures.bind (show Ensures _ fun visible => visible = false →
      board.shown (screen stride wide) mask = ∅ from ?_) fun visible hides => ?_
    · cases mask with
      | none => exact .value fun absurdity => by cases absurdity
      | some pair =>
          apply (Occlusion.hasVisibleSpan_spec (by omega) (Nat.le_of_lt columns) (by omega)).mono
          intro found hidden missed
          ext ⟨y, x⟩
          refine iff_of_false (fun here => ?_) (Set.notMem_empty _)
          rw [clip.mem_shown] at here
          exact hidden missed y x here.1.1.1 here.1.1.2 here.1.2.1 here.1.2.2 here.2
    · cases visible with
      | false => exact .value (nothing (hides rfl)).symm
      | true =>
          cases native with
          | true =>
              have size := allowed rfl
              have corner := ((clip.inside top left).mpr (by omega)).1
              rw [BandTarget.new_screen wide fits]
              apply (rasterNative_spec size (SceneBillboard.reaches corner) fits).bind
              rintro ⟨drawn, samples⟩ ⟨shows, counted⟩
              have nearest : board.projected.filter = .nearest := by
                simp only [SceneBillboard.native, isNative, Bool.and_eq_true,
                  decide_eq_true_eq] at size
                exact size.1.1
              dsimp only at shows counted
              rw [shows, counted, nearest]
              exact .value rfl
          | false =>
              apply (rasterScaled_spec clip rows columns fits).bind
              rintro ⟨drawn, samples⟩ ⟨shows, counted⟩
              dsimp only at shows counted
              rw [shows, counted]
              exact .value rfl

theorem rasterBillboardMasked_spec (wide : viewportWidth ≤ stride)
    (fits : stride * viewportHeight ≤ pixels.size) :
    Ensures (rasterBillboardMasked stride board.projected board.texture board.region wire mask
        pixels) fun after => after =
      (.ok (samplesOf board.projected.filter (board.shown (screen stride wide) mask).ncard),
        shade 0 stride (restrict (board.shown (screen stride wide) mask) (board.drawing wire))
          pixels) :=
  rasterBillboardBy_spec id wide fits

end Board

/-! ## The scene -/

/-- Fill the viewport with the background, and then draw all boards completely. -/
def painterScene (stride : ℕ) (boards : List SceneBillboard) (background : Background)
    (wire : Bool) (pixels : Array UInt16) : Option (Array UInt16) := do
  let pixels ← forRange (fun y => Background.fill (y * stride) viewportWidth
    ((background.row y).map (wireOrder wire))) 0 viewportHeight pixels
  forEach (fun board _ pixels => do
    let (result, pixels) ← rasterBillboardMasked stride board.projected board.texture
      board.region wire none pixels
    match result with
    | .error _ => none
    | .ok _ => some pixels) 0 boards pixels

section Scene

variable {board : SceneBillboard} {boards : List SceneBillboard} {occlusion : Occlusion}
  {background : Background} {wire : Bool} {stride index : ℕ} {pixels : Array UInt16}

/-- What a board draws of a pixel, if it is in its area. -/
noncomputable def layer (wire : Bool) (board : SceneBillboard) (place : ℕ × ℕ) (word : UInt16) :
    UInt16 :=
  restrict board.area (board.drawing wire) place.1 place.2 word

/-- The places where a board of the scene is drawn. -/
def lit (occlusion : Occlusion) (board : SceneBillboard) (index : ℕ) : Set (ℕ × ℕ) :=
  {place ∈ board.area | place ∈ occlusion.visible index}

theorem shown_screen (wide : viewportWidth ≤ stride) :
    board.shown (screen stride wide) none = board.area := by
  ext ⟨y, x⟩
  rw [SceneBillboard.mem_shown]
  refine and_iff_left_of_imp fun inside => ⟨?_, trivial⟩
  rw [SceneBillboard.mem_area] at inside
  simp only [screen]
  omega

variable {stats : SceneStats}

/-- Without opaque tiles there is no cutoff. -/
theorem cutoffAt_of_none {tile : ScreenTile}
    (prepared : Occlusion.Prepared boards tile (occlusion, stats)) (none : stats.opaqueTiles = 0)
    (y x : ℕ) : occlusion.cutoffAt y x = 0 := by
  have counted := prepared.counted
  rw [none, eq_comm, Array.countP_eq_zero] at counted
  rw [Occlusion.cutoffAt]
  cases found : occlusion.cutoffs[y / occlusion.tile.pixels * occlusion.columns +
      x / occlusion.tile.pixels]? with
  | none => rfl
  | some cutoff =>
      have zero := counted cutoff (Array.mem_of_getElem? found)
      simp only [ne_eq, decide_eq_true_eq, not_not] at zero
      rw [zero]
      rfl

/-- The samples of one more board are added. -/
def countBoard (stats : RasterStats) (filter : TextureFilter) (samples : ℕ) : RasterStats where
  nearestSamples := saturatingCount stats.nearestSamples (samplesOf filter samples).nearestSamples
  bilinearSamples :=
    saturatingCount stats.bilinearSamples (samplesOf filter samples).bilinearSamples

/-- The statistics after one more board. -/
def SceneStats.addBoard (stats : SceneStats) (board : SceneBillboard) (samples : ℕ) :
    SceneStats where
  raster := countBoard stats.raster board.projected.filter samples
  skippedBackgroundPixels := stats.skippedBackgroundPixels
  opaqueTiles := stats.opaqueTiles
  coverageTests := stats.coverageTests
  scalerPreparations := stats.scalerPreparations +
    if !board.native && decide (samples > 0) then 1 else 0

/-- The statistics after all boards, each with the pixels where it is lit. -/
noncomputable def sceneStats (occlusion : Occlusion) :
    ℕ → List SceneBillboard → SceneStats → SceneStats
  | _, [], stats => stats
  | index, board :: boards, stats => sceneStats occlusion (index + 1) boards
      (stats.addBoard board (lit occlusion board index).ncard)

/-- The mask of a board leaves out what is hidden, whether it is used or not. -/
theorem mask_spec (tiles : stats.opaqueTiles = 0 → ∀ y x, occlusion.cutoffAt y x = 0) :
    Ensures (if stats.opaqueTiles ≠ 0 then occlusion.hides board.projected.screenRect index
      else some false) fun hidden => ∀ place ∈ board.area,
        place ∈ shownBy (if hidden then some (occlusion, index) else none) ↔
          place ∈ occlusion.visible index := by
  split
  · apply (occlusion.hides_spec board.projected.screenRect index).mono
    intro hidden spec place inside
    cases hidden with
    | true => exact Iff.rfl
    | false =>
        obtain ⟨⟨top, bottom⟩, left, right⟩ := inside
        exact iff_of_true trivial (spec rfl place.1 place.2 top bottom left right)
  · rename_i none
    rw [ne_eq, not_not] at none
    refine .value fun place _ => iff_of_true trivial ?_
    rw [Occlusion.visible, Set.mem_ofPred_eq, tiles none]
    exact Nat.zero_le _

/-- What is shown on the screen is lit, if the mask leaves out what is hidden. -/
theorem shown_eq_lit {mask : Option (Occlusion × ℕ)} (wide : viewportWidth ≤ stride)
    (leaves : ∀ place ∈ board.area, place ∈ shownBy mask ↔ place ∈ occlusion.visible index) :
    board.shown (screen stride wide) mask = lit occlusion board index := by
  ext ⟨y, x⟩
  rw [SceneBillboard.mem_shown]
  refine and_congr_right fun inside => ?_
  rw [← leaves _ inside]
  refine and_iff_right ?_
  rw [SceneBillboard.mem_area] at inside
  simp only [screen]
  omega

theorem samplesOf_total (filter : TextureFilter) (samples : ℕ) :
    (samplesOf filter samples).nearestSamples + (samplesOf filter samples).bilinearSamples =
      samples := by
  cases filter with
  | nearest => exact Nat.add_zero samples
  | bilinear => exact Nat.zero_add samples

/-- A board of the scene is drawn where it is lit, and counted. -/
theorem sceneBoard_spec (tiles : stats.opaqueTiles = 0 → ∀ y x, occlusion.cutoffAt y x = 0)
    (few : stats.scalerPreparations < Checked.u32Max) (wide : viewportWidth ≤ stride)
    (fits : stride * viewportHeight ≤ pixels.size) :
    Ensures (sceneBoard stride wire occlusion board index (.ok stats, pixels)) fun after =>
      after = (.ok (stats.addBoard board (lit occlusion board index).ncard), shade 0 stride
        (restrict (lit occlusion board index) (board.drawing wire)) pixels) := by
  rw [sceneBoard]
  apply (mask_spec tiles).bind
  intro hidden leaves
  have shown := shown_eq_lit wide leaves
  apply (rasterBillboardMasked_spec wide fits).bind
  rintro _ rfl
  rw [shown]
  dsimp only
  rw [samplesOf_total]
  refine Ensures.bind (show Ensures _ (· = stats.scalerPreparations +
    if !board.native && decide ((lit occlusion board index).ncard > 0) then 1 else 0) from ?_)
      fun preparations counted => ?_
  · split
    · rename_i scaled
      have scaled' : (!board.native && decide ((lit occlusion board index).ncard > 0)) = true :=
        scaled
      exact ⟨_, Checked.add_of_le (by omega), by rw [if_pos scaled']⟩
    · rename_i unscaled
      have unscaled' : ¬(!board.native && decide ((lit occlusion board index).ncard > 0)) = true :=
        unscaled
      exact .value (by rw [if_neg unscaled', Nat.add_zero])
  · subst counted
    exact .value rfl

/-- The cutoff of a place of the viewport. -/
def cutoffIn (occlusion : Occlusion) (place : ℕ × ℕ) : ℕ :=
  if place.1 < viewportHeight ∧ place.2 < viewportWidth then
    occlusion.cutoffAt place.1 place.2
  else 0

/-- Where a board is lit it is in its area and not culled. -/
theorem restrict_lit (draw : Drawing UInt16) (y x : ℕ) (word : UInt16) :
    restrict (lit occlusion board index) draw y x word =
      if index + 1 < cutoffIn occlusion (y, x) then word
      else restrict board.area draw y x word := by
  by_cases inside : (y, x) ∈ board.area
  · have viewport := SceneBillboard.mem_area.mp inside
    have cutoff : cutoffIn occlusion (y, x) = occlusion.cutoffAt y x :=
      if_pos ⟨viewport.1.1, viewport.2.1⟩
    rw [cutoff]
    by_cases hidden : index + 1 < occlusion.cutoffAt y x
    · rw [if_pos hidden, restrict_of_notMem fun here => Nat.not_le.mpr hidden here.2]
    · have here : (y, x) ∈ lit occlusion board index := ⟨inside, Nat.le_of_not_lt hidden⟩
      rw [if_neg hidden, restrict_of_mem here, restrict_of_mem inside]
  · rw [restrict_of_notMem fun here => inside here.1, restrict_of_notMem inside, ite_self]

theorem lit_layer (y x : ℕ) (word : UInt16) :
    restrict (lit occlusion board index) (board.drawing wire) y x word =
      if index + 1 < cutoffIn occlusion (y, x) then word else layer wire board (y, x) word :=
  restrict_lit _ y x word

/-- All boards of the scene draw their layers, except for what is culled, and are counted. -/
theorem sceneBoards_spec (tiles : stats.opaqueTiles = 0 → ∀ y x, occlusion.cutoffAt y x = 0)
    (few : stats.scalerPreparations + boards.length ≤ Checked.u32Max)
    (wide : viewportWidth ≤ stride) (fits : stride * viewportHeight ≤ pixels.size) :
    Ensures (forEach (sceneBoard stride wire occlusion) index boards (.ok stats, pixels))
      fun after => after = (.ok (sceneStats occlusion index boards stats), shade 0 stride
        (fun y x => paint (culled (cutoffIn occlusion) index (boards.map (layer wire))) (y, x))
          pixels) := by
  induction boards generalizing index stats pixels with
  | nil =>
      have same : shade 0 stride (fun y x => paint (culled (cutoffIn occlusion) index
          (([] : List SceneBillboard).map (layer wire))) (y, x)) pixels = pixels :=
        shade_of_id fun y x a => rfl
      exact .value (by rw [same, sceneStats])
  | cons board boards ih =>
      rw [List.length_cons] at few
      apply (sceneBoard_spec tiles (by omega) wide fits).bind
      rintro _ rfl
      have few' : (stats.addBoard board (lit occlusion board index).ncard).scalerPreparations +
          boards.length ≤ Checked.u32Max := by
        rw [SceneStats.addBoard]
        dsimp only
        split <;> omega
      have tiles' : (stats.addBoard board (lit occlusion board index).ncard).opaqueTiles = 0 →
          ∀ y x, occlusion.cutoffAt y x = 0 := tiles
      apply (ih tiles' few' (by rwa [size_shade])).mono
      rintro _ rfl
      rw [shade_shade]
      simp only [lit_layer]
      rfl

/-- The boards of the reference draw their layers. -/
theorem painterBoards_spec (wide : viewportWidth ≤ stride)
    (fits : stride * viewportHeight ≤ pixels.size) :
    Ensures (forEach (fun (board : SceneBillboard) _ pixels => do
      let (result, pixels) ← rasterBillboardMasked stride board.projected board.texture
        board.region wire none pixels
      match result with
      | .error _ => none
      | .ok _ => some pixels) index boards pixels) fun after => after =
        shade 0 stride (fun y x => paint (boards.map (layer wire)) (y, x)) pixels := by
  induction boards generalizing index pixels with
  | nil => exact .value (shade_of_id fun y x a => rfl).symm
  | cons board boards ih =>
      refine Ensures.bind (show Ensures _ fun drawn => drawn = shade 0 stride
        (restrict board.area (board.drawing wire)) pixels from ?_) fun _ here => ?_
      · apply (rasterBillboardMasked_spec wide fits).bind
        rintro _ rfl
        exact .value (by rw [shown_screen])
      · subst here
        apply (ih (by rwa [size_shade])).mono
        rintro _ rfl
        rw [shade_shade]
        rfl

/-- The viewport of the reference shows the background. -/
theorem painterBackground_spec (wide : viewportWidth ≤ stride)
    (fits : stride * viewportHeight ≤ pixels.size) :
    Ensures (forRange (fun y => Background.fill (y * stride) viewportWidth
      ((background.row y).map (wireOrder wire))) 0 viewportHeight pixels) fun after => after =
        shade 0 stride (restrict (block 0 viewportHeight 0 viewportWidth)
          (background.drawing wire)) pixels := by
  apply (forRange_rule (fun y after => after = shade 0 stride
    (restrict (block 0 y 0 viewportWidth) (background.drawing wire)) pixels) _ _).mono
  · intro after done
    rwa [Nat.zero_add] at done
  · rw [block_self, shade_restrict_empty]
  · rintro y _ lower upper rfl
    have below : y < (screen stride wide).y + (screen stride wide).rows := upper
    have fits' : (screen stride wide).stride * (screen stride wide).rows ≤
        (shade 0 stride (restrict (block 0 y 0 viewportWidth) (background.drawing wire))
          pixels).size := by
      rw [size_shade]
      exact fits
    have row : Background.fill _ _ ((background.row y).map (wireOrder wire)) _ = _ :=
      fill_eq (Nat.zero_le y) below fits' (Nat.dvd_zero 4) (Nat.zero_le viewportWidth)
        (Nat.le_refl _)
    have start : (y - (screen stride wide).y) * (screen stride wide).stride + 0 = y * stride := rfl
    rw [start, Nat.sub_zero] at row
    exact ⟨_, row, shade_block_succ lower _ _⟩

/-- What a scene makes of a pixel, with what it leaves out. -/
noncomputable def sceneDrawing (occlusion : Occlusion) (opaqueTiles : ℕ)
    (boards : List SceneBillboard) (background : Background) (wire : Bool) : Drawing UInt16 :=
  fun y x word => paint (culled (cutoffIn occlusion) 0 (boards.map (layer wire))) (y, x)
    (restrict {place ∈ block 0 viewportHeight 0 viewportWidth |
      opaqueTiles = 0 ∨ occlusion.cutoffAt place.1 place.2 = 0} (background.drawing wire) y x word)

/-- **A scene is drawn by its cutoffs.** -/
theorem rasterScene_spec (wide : viewportWidth ≤ stride)
    (fits : stride * viewportHeight ≤ pixels.size) (count : boards.length ≤ Checked.u16Max)
    (ordered : inOrder boards = true) :
    Ensures (rasterScene stride boards background wire occlusion pixels) fun after =>
      ∃ state, occlusion.prepare boards {} = some state ∧
        after = (.ok (sceneStats state.1 0 boards state.2), shade 0 stride
          (sceneDrawing state.1 state.2.opaqueTiles boards background wire) pixels) := by
  have accepted : ¬(stride < viewportWidth ∨ pixels.size < stride * viewportHeight) := by
    rw [viewportHeight] at *
    omega
  have most : Checked.u16Max ≤ Checked.u32Max := by decide
  rw [rasterScene, if_neg accepted, if_neg (Nat.not_lt.mpr count), ordered, Bool.not_true,
    if_neg Bool.false_ne_true]
  obtain ⟨⟨prepared, stats⟩, ran, holds⟩ := occlusion.prepare_spec count
  apply Ensures.step ran
  dsimp only
  rw [BandTarget.new_screen wide fits]
  apply (paintBackground_spec fits).bind
  rintro _ rfl
  have tiles := cutoffAt_of_none holds
  have scaler := holds.scaler
  dsimp only at scaler tiles
  apply (sceneBoards_spec tiles (by rw [scaler]; omega) wide (by rwa [size_shade])).mono
  rintro _ rfl
  refine ⟨_, ran, ?_⟩
  show (_, shade 0 stride _ (shade 0 stride _ pixels)) = _
  rw [shade_shade]
  rfl

/-- Why a scene is not drawn. -/
def sceneRejection (stride : ℕ) (boards : List SceneBillboard) (words : ℕ) : Option RasterError :=
  if stride < viewportWidth ∨ words < stride * viewportHeight then some .invalidFramebuffer
  else if boards.length > Checked.u16Max then some .invalidOrder
  else if !inOrder boards then some .invalidOrder
  else none

theorem sceneRejection_eq_none {words : ℕ} (accepted : sceneRejection stride boards words = none) :
    viewportWidth ≤ stride ∧ stride * viewportHeight ≤ words ∧
      boards.length ≤ Checked.u16Max ∧ inOrder boards = true := by
  rw [sceneRejection] at accepted
  split at accepted
  · cases accepted
  · rename_i fits
    split at accepted
    · cases accepted
    · rename_i count
      split at accepted
      · cases accepted
      · rename_i ordered
        exact ⟨by omega, by omega, by omega, by simpa using ordered⟩

/-- **What becomes of a scene**, whatever it is given. -/
theorem rasterScene_eq : rasterScene stride boards background wire occlusion pixels =
    match sceneRejection stride boards pixels.size with
    | some error => some (.error error, pixels)
    | none => (occlusion.prepare boards {}).map fun state =>
        (.ok (sceneStats state.1 0 boards state.2), shade 0 stride
          (sceneDrawing state.1 state.2.opaqueTiles boards background wire) pixels) := by
  by_cases size : stride < viewportWidth ∨ pixels.size < stride * viewportHeight
  · rw [rasterScene, sceneRejection, if_pos size, if_pos size]
  · by_cases count : boards.length > Checked.u16Max
    · rw [rasterScene, sceneRejection, if_neg size, if_neg size, if_pos count, if_pos count]
    · cases ordered : inOrder boards with
      | false =>
          rw [rasterScene, sceneRejection, if_neg size, if_neg size, if_neg count, if_neg count,
            ordered]
          rfl
      | true =>
          obtain ⟨_, drawn, state, prepared, rfl⟩ : Ensures (rasterScene stride boards background
              wire occlusion pixels) _ :=
            rasterScene_spec (by omega) (by omega) (by omega) ordered
          rw [drawn, sceneRejection, if_neg size, if_neg count, ordered, prepared]
          rfl

/-- The cutoffs of an accepted scene are prepared. -/
theorem prepare_of_accepted {words : ℕ} (accepted : sceneRejection stride boards words = none) :
    ∃ state, occlusion.prepare boards {} = some state := by
  obtain ⟨-, -, count, -⟩ := sceneRejection_eq_none accepted
  obtain ⟨state, ran, -⟩ := occlusion.prepare_spec count
  exact ⟨state, ran⟩

/-- The reference draws everything. -/
theorem painterScene_spec (wide : viewportWidth ≤ stride)
    (fits : stride * viewportHeight ≤ pixels.size) :
    Ensures (painterScene stride boards background wire pixels) fun after => after =
      shade 0 stride (fun y x word => paint (boards.map (layer wire)) (y, x)
        (restrict (block 0 viewportHeight 0 viewportWidth) (background.drawing wire) y x word))
          pixels := by
  apply (painterBackground_spec wide fits).bind
  rintro _ rfl
  apply (painterBoards_spec wide (by rwa [size_shade])).mono
  rintro _ rfl
  rw [shade_shade]

/-- What a scene leaves out is below an opaque board. -/
theorem sceneDrawing_eq {tile : ScreenTile} {state : Occlusion × SceneStats}
    (prepared : Occlusion.Prepared boards tile state)
    (marks : ∀ board ∈ boards, board.texture.coverage.MarksOpaque) (y x : ℕ) (word : UInt16) :
    sceneDrawing state.1 state.2.opaqueTiles boards background wire y x word =
      paint (boards.map (layer wire)) (y, x)
        (restrict (block 0 viewportHeight 0 viewportWidth) (background.drawing wire) y x word) := by
  apply paint_culled
  · intro cut
    rw [cutoffIn] at cut ⊢
    split at cut
    · rename_i inside
      rw [if_pos inside]
      obtain ⟨board, found, solid⟩ := prepared.sound y x inside.1 inside.2 cut
      have isSolid := solid (marks board (List.mem_of_getElem? found))
      refine ⟨layer wire board, by rw [List.getElem?_map, found, Option.map_some], fun a b => ?_⟩
      rw [layer, layer, restrict_of_mem isSolid.inArea, restrict_of_mem isSolid.inArea]
      exact SceneBillboard.drawing_of_solid isSolid a b
    · exact absurd rfl cut
  · intro uncut
    by_cases inside : (y, x) ∈ block 0 viewportHeight 0 viewportWidth
    · rw [cutoffIn, if_pos ⟨inside.1.2, inside.2.2⟩] at uncut
      have here : (y, x) ∈ {place ∈ block 0 viewportHeight 0 viewportWidth |
          state.2.opaqueTiles = 0 ∨ state.1.cutoffAt place.1 place.2 = 0} :=
        ⟨inside, Or.inr uncut⟩
      rw [restrict_of_mem inside, restrict_of_mem here]
    · rw [restrict_of_notMem inside, restrict_of_notMem fun here => inside here.1]

/-- **Occlusion does not show.** A scene comes to the same words as when the viewport is
filled with the background and every board is drawn completely. -/
theorem rasterScene_eq_painter (stride : ℕ) (boards : List SceneBillboard)
    (background : Background) (wire : Bool) (occlusion : Occlusion) (pixels : Array UInt16)
    (wide : viewportWidth ≤ stride) (fits : stride * viewportHeight ≤ pixels.size)
    (count : boards.length ≤ Checked.u16Max) (ordered : inOrder boards = true)
    (built : ∀ board ∈ boards, board.texture.coverage.MaskBuilt) :
    ∃ stats painted,
      rasterScene stride boards background wire occlusion pixels = some (.ok stats, painted) ∧
        painterScene stride boards background wire pixels = some painted := by
  have scene : Ensures (rasterScene stride boards background wire occlusion pixels) _ :=
    rasterScene_spec wide fits count ordered
  have reference : Ensures (painterScene stride boards background wire pixels) _ :=
    painterScene_spec wide fits
  obtain ⟨after, ran, state, prepared, rfl⟩ := scene
  obtain ⟨painted, ranReference, rfl⟩ := reference
  obtain ⟨again, preparedAgain, holds⟩ := occlusion.prepare_spec count
  rw [prepared, Option.some.injEq] at preparedAgain
  subst preparedAgain
  have same : shade 0 stride (sceneDrawing state.1 state.2.opaqueTiles boards background wire)
      pixels = _ :=
    shade_congr (sceneDrawing_eq holds fun board member => (built board member).marksOpaque)
  exact ⟨_, _, ran, by rw [ranReference, same]⟩

theorem oneTexel_nonempty : (⟨1, 1⟩ : SourceSize).width ≠ 0 ∧ (⟨1, 1⟩ : SourceSize).height ≠ 0 := by
  decide

/-- An opaque texel with a mask, over a tile of the screen. -/
def tileBoard : SceneBillboard where
  projected := ⟨1, ⟨0, 0, 16, 16⟩, 0, 1, .nearest⟩
  texture := ⟨⟨1, 1⟩, #[0x1234], .alpha8 #[255] ⟨⟨1, 1⟩, #[1], oneTexel_nonempty, by decide⟩⟩
  region := ⟨0, 0, 1, 1, 1⟩
  valid := by decide
  positive := by decide

theorem tileBoard_maskBuilt : tileBoard.texture.coverage.MaskBuilt := by
  rintro _ ⟨⟩
  exact ⟨#[255], #[0], by decide +kernel, fun i a _ found => found⟩

/-- A farther board of another color, which goes on beside the tile. -/
def farBoard : SceneBillboard where
  projected := ⟨0, ⟨0, 0, 32, 16⟩, 1, 1, .nearest⟩
  texture := ⟨⟨1, 1⟩, #[0x5678], tileBoard.texture.coverage⟩
  region := tileBoard.region
  valid := by decide
  positive := by decide

/-- The tile hides half of the board behind it. -/
theorem rasterScene_eq_painter_behind : ∃ stats painted,
    rasterScene 320 [farBoard, tileBoard] ⟨fun _ => #v[1, 2, 3, 4]⟩ true
        ⟨.eight, Array.replicate 1200 0, Array.size_replicate⟩ (Array.replicate 76800 0) =
      some (.ok stats, painted) ∧
    painterScene 320 [farBoard, tileBoard] ⟨fun _ => #v[1, 2, 3, 4]⟩ true
        (Array.replicate 76800 0) =
      some painted :=
  rasterScene_eq_painter 320 [farBoard, tileBoard] ⟨fun _ => #v[1, 2, 3, 4]⟩ true _ _ (by decide)
    (by rw [Array.size_replicate]; decide) (by decide) (by decide) fun board member => by
      have coverage : board.texture.coverage = tileBoard.texture.coverage := by
        rcases List.mem_pair.mp member with rfl | rfl <;> rfl
      rw [coverage]
      exact tileBoard_maskBuilt

end Scene

end Deskkin.Presentation
