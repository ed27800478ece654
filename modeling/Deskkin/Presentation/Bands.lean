/-
# Drawing in bands

A scene is prepared once: the cutoffs, and for each board its clipped rectangle and the
columns it samples, in scratch of the caller. Then bands of rows are drawn one by one,
each into a buffer of its own, and the samples are counted over all of them.

The counters of a prepared scene do not saturate. A build either checks its arithmetic
and stops, or lets it wrap around.
-/

import Deskkin.Presentation.Painter

namespace Deskkin.Presentation

open Loops Grid

/-- The part of a board that bands need. -/
structure PreparedBoard where
  columns : ℕ × ℕ
  left : ℕ
  top : ℕ
  bottom : ℕ
  visible : Bool
  native : Bool
  masked : Bool
  deriving DecidableEq

/-- A scene with its prepared boards. -/
structure PreparedScene where
  boards : List SceneBillboard
  prepared : List PreparedBoard
  columns : Array ColumnSample
  occlusion : Occlusion
  stats : SceneStats

/-- The entries so far, and the columns that they use. -/
structure Preparation where
  prepared : List PreparedBoard
  columns : Array ColumnSample
  used : ℕ
  stats : SceneStats

/-- `a += b` of `u32`, in a build with or without overflow checks. -/
def addCount (checks : Bool) (a b : ℕ) : Option ℕ :=
  if checks then Checked.add Checked.u32Max a b else some ((a + b) % 2 ^ 32)

/-- Count the samples for the filter of the board. -/
def addSamples (checks : Bool) (filter : TextureFilter) (stats : RasterStats) (samples : ℕ) :
    Option RasterStats :=
  match filter with
  | .nearest => (addCount checks stats.nearestSamples samples).map fun count =>
      { stats with nearestSamples := count }
  | .bilinear => (addCount checks stats.bilinearSamples samples).map fun count =>
      { stats with bilinearSamples := count }

namespace PreparedScene

/-- Clip a board, and sample its columns if it is visible and scaled. -/
def prepareEntry (occlusion : Occlusion) (board : SceneBillboard) (index : ℕ) :
    Except RasterError Preparation → Option (Except RasterError Preparation)
  | .error error => some (.error error)
  | .ok self => do
      let r := board.projected.screenRect
      let masked ← (if self.stats.opaqueTiles ≠ 0 then occlusion.hides r index else some false)
      let visible ← (if r.left < r.right ∧ r.top < r.bottom then
          if masked then occlusion.hasVisibleSpan r.top r.bottom r.left r.right index
          else some true
        else some false)
      let native := isNative board.projected board.region
      let count := if visible && !native then r.right - r.left else 0
      if count > self.columns.size - self.used then return .error .insufficientScratch
      else
        let entry : PreparedBoard := {
          columns := (self.used, self.used + count)
          left := r.left
          top := r.top
          bottom := r.bottom
          visible := visible
          native := native
          masked := masked }
        if count = 0 then return .ok { self with prepared := self.prepared ++ [entry] }
        else
          let axis ← AxisStepper.new board.region.width r.width (r.left - r.x.toInt)
          let columns ← fillColumns board.region.sourceX axis self.used count self.columns
          let preparations ← Checked.add Checked.u32Max self.stats.scalerPreparations 1
          return .ok {
            prepared := self.prepared ++ [entry]
            columns := columns
            used := self.used + count
            stats := { self.stats with scalerPreparations := preparations } }

/-- `room` is the number of boards that the scratch has entries for. -/
protected def new (boards : List SceneBillboard) (occlusion : Occlusion) (room : ℕ)
    (columns : Array ColumnSample) : Option (Except RasterError PreparedScene) :=
  if boards.length > Checked.u16Max ∨ !inOrder boards then some (.error .invalidOrder)
  else if room < boards.length then some (.error .insufficientScratch)
  else do
    let (occlusion, stats) ← occlusion.prepare boards {}
    let result ← forEach (prepareEntry occlusion) 0 boards (.ok ⟨[], columns, 0, stats⟩)
    match result with
    | .error error => return .error error
    | .ok self =>
        return .ok {
          boards := boards
          prepared := self.prepared
          columns := self.columns.extract 0 self.used
          occlusion := occlusion
          stats := self.stats }

/-- The rows of a board that are in the band, with a blitter for each board. -/
def bandBoardOn {σ : Type} (self : PreparedScene) (checks wire : Bool) (target : BandTarget)
    (blitter : ℕ → Blitter σ) (item : SceneBillboard × PreparedBoard) (index : ℕ) :
    RasterStats × σ → Option (RasterStats × σ)
  | (stats, s) =>
      let (board, entry) := item
      let top := max entry.top target.y
      let bottom := min entry.bottom (target.y + target.rows)
      if !entry.visible ∨ top ≥ bottom then some (stats, s)
      else do
        let mask := if entry.masked then some (self.occlusion, index) else none
        let (s, samples) ← (if entry.native then
            rasterNativeOn (blitter index) target board.projected.screenRect board.texture
              board.region wire mask s
          else do
            let columns ← slice? self.columns entry.columns.1 entry.columns.2
            let y ← AxisStepper.new board.region.height board.projected.screenRect.height
              (top - board.projected.screenRect.y.toInt)
            let rows : RasterRows := {
              origin := target.y
              stride := target.stride
              left := entry.left
              top := top
              bottom := bottom
              columns := columns
              y := y
              region := board.region }
            rows.dispatchVisibleOn (blitter index) entry.columns.1 board.texture
              board.projected.filter wire mask s)
        let stats ← addSamples checks board.projected.filter stats samples
        return (stats, s)

def rasterBandOn {σ : Type} (self : PreparedScene) (checks : Bool) (target : BandTarget)
    (fill : ℕ → ℕ → Vector UInt16 4 → σ → Option σ) (background : Background)
    (blitter : ℕ → Blitter σ) (wire : Bool) (s : σ) : Option (PreparedScene × σ) := do
  let s ← paintBackgroundOn fill target self.occlusion self.stats.opaqueTiles background wire s
  let (raster, s) ← forEach (self.bandBoardOn checks wire target blitter) 0
    (self.boards.zip self.prepared) (self.stats.raster, s)
  return ({ self with stats := { self.stats with raster := raster } }, s)

def rasterBand (self : PreparedScene) (checks : Bool) (target : BandTarget)
    (background : Background) (wire : Bool) (pixels : Array UInt16) :
    Option (PreparedScene × Array UInt16) :=
  self.rasterBandOn checks target Background.fill background (fun _ => ScalarBlitter.blitter)
    wire pixels

theorem rasterBandOn_scalar (self : PreparedScene) (checks : Bool) (target : BandTarget)
    (background : Background) : self.rasterBandOn checks target Background.fill background
      (fun _ => ScalarBlitter.blitter) = self.rasterBand checks target background := rfl

end PreparedScene

/-! ## Bands -/

/-- A buffer that was accepted for some rows. -/
structure Band where
  target : BandTarget
  pixels : Array UInt16
  accepted : BandTarget.new pixels target.stride target.y target.rows = .ok target

/-- Draw bands one after another, and collect their buffers. -/
def PreparedScene.rasterBands (checks : Bool) (background : Background) (wire : Bool) :
    List Band → PreparedScene → Option (PreparedScene × List (Array UInt16))
  | [], self => some (self, [])
  | band :: bands, self => do
      let (self, pixels) ← self.rasterBand checks band.target background wire band.pixels
      let (self, rest) ← rasterBands checks background wire bands self
      return (self, pixels :: rest)

end Deskkin.Presentation
