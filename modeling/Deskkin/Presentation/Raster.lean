/-
# Drawing a scene

The background and the boards are drawn row by row into a buffer that is passed
along. What an occlusion map hides is left out: the loops go through the rows of tiles
and in each of them from one visible span to the next.

A band is drawn into a buffer of its own rows; a whole framebuffer is the band of all
rows.
-/

import Deskkin.Presentation.Occlusion

namespace Deskkin.Presentation

open Loops Grid

/-! ## Targets

The loops read nothing of what they draw onto, and write to it through a background and a
blitter only. They are the same for every kind of target; buffers with the scalar blitter are
one. -/

/-- The rows of the screen that a buffer holds. -/
structure BandTarget where
  stride : ℕ
  y : ℕ
  rows : ℕ
  wide : viewportWidth ≤ stride
  inside : 0 < rows ∧ y + rows ≤ viewportHeight

protected def BandTarget.new (pixels : Array UInt16) (stride y rows : ℕ) :
    Except RasterError BandTarget :=
  if rejected : stride < viewportWidth ∨ rows = 0 ∨ y ≥ viewportHeight ∨
      rows > viewportHeight - y ∨ pixels.size < stride * rows then
    .error .invalidFramebuffer
  else .ok ⟨stride, y, rows, by omega, by omega⟩

/-- Each operation rewrites so many words of the target from `start` on. -/
structure Blitter (σ : Type) where
  cutout : (start length : ℕ) → (source : Array UInt16) → (offset : ℕ) → (bits : Array UInt8) →
    (wire : Bool) → σ → Option σ
  blitFrom : (start length : ℕ) → (source : Array UInt16) → (offset : ℕ) →
    (alpha : Option (Array UInt8)) → (wire : Bool) → σ → Option σ
  /-- `first` is where the columns begin in the scratch. -/
  sample : (start : ℕ) → (source : SampledSpan) → (first : ℕ) → (wire : Bool) → σ → Option σ

def ScalarBlitter.blitter : Blitter (Array UInt16) where
  cutout := ScalarBlitter.cutout
  blitFrom := ScalarBlitter.blitFrom
  sample start source _ wire := source.draw start wire

/-! ## The background -/

/-- The four repeating native words of each row. -/
structure Background where
  row : ℕ → Vector UInt16 4

namespace Background

/-- Repeat the colors over the span, from the first one on. -/
def fill (start length : ℕ) (colors : Vector UInt16 4) (pixels : Array UInt16) :
    Option (Array UInt16) :=
  writeSpan (fun k _ => colors[k % 4]?) start length pixels

end Background

/-- The columns of a row of tiles that no board covers. -/
def uncoveredSpans (tile columns : ℕ) (cutoffs : Array UInt16) : Option (List (ℕ × ℕ)) := do
  let (_, spans) ← loop (fun (column, spans) =>
    if column < columns then do
      let cutoff ← cutoffs[column]?
      if cutoff ≠ 0 then return .next (column + 1, spans)
      else
        let last ← loop (fun last =>
          if last < columns then do
            let cutoff ← cutoffs[last]?
            return if cutoff = 0 then .next (last + 1) else .stop last
          else some (.stop last)) (columns + 1) (column + 1)
        guard (spans.length < viewportWidth / 16)
        return .next (last, spans ++ [(column * tile, last * tile)])
    else some (.stop (column, spans))) (columns + 1) (0, [])
  return spans

/-- The words are written by `fill`. -/
def paintBackgroundOn {σ : Type} (fill : ℕ → ℕ → Vector UInt16 4 → σ → Option σ)
    (target : BandTarget)
    (occlusion : Occlusion) (opaqueTiles : ℕ) (background : Background) (wire : Bool) (s : σ) :
    Option σ := do
  let tile := occlusion.tile.pixels
  let (_, s) ← loop (fun (band, s) =>
    if band < target.y + target.rows then do
      let stop := occlusion.rowEnd band (target.y + target.rows)
      let spans ← (if opaqueTiles = 0 then some [(0, viewportWidth)]
        else do
          let cutoffs ← slice? occlusion.cutoffs (band / tile * occlusion.columns)
            (band / tile * occlusion.columns + occlusion.columns)
          uncoveredSpans tile occlusion.columns cutoffs)
      let s ← forRange (fun y s =>
        let colors := (background.row y).map (wireOrder wire)
        forEach (fun (start, stop) _ => fill ((y - target.y) * target.stride + start)
          (stop - start) colors) 0 spans s) band (stop - band) s
      return .next (stop, s)
    else some (.stop (band, s))) (target.rows + 1) (target.y, s)
  return s

def paintBackground (target : BandTarget) (occlusion : Occlusion) (opaqueTiles : ℕ)
    (background : Background) (wire : Bool) (pixels : Array UInt16) : Option (Array UInt16) :=
  paintBackgroundOn Background.fill target occlusion opaqueTiles background wire pixels

theorem paintBackgroundOn_buffer : paintBackgroundOn Background.fill = paintBackground := rfl

/-! ## Boards at native size -/

/-- `as usize` of an `i32`. -/
def asUsize (value : ℤ) : ℕ := (value % 2 ^ 64).toNat

theorem asUsize_of_nonneg {value : ℤ} (positive : 0 ≤ value) (small : value < 2 ^ 64) :
    asUsize value = value.toNat := by
  rw [asUsize, Int.emod_eq_of_lt positive small]

/-- How far a pixel is from the origin of a board. -/
def placeOf (pixel : ℕ) (origin : Int32) : Option ℕ :=
  let place := (pixel : ℤ) - origin.toInt
  if 0 ≤ place ∧ place < 2 ^ 31 then some place.toNat else none

/-- Count the pixels of a span of some rows. -/
def countSamples (samples width rows : ℕ) : Option ℕ :=
  Checked.add Checked.u32Max samples (width * rows % 2 ^ 32)

section Native

variable {σ : Type} (blitter : Blitter σ) (target : BandTarget) (rect : ScreenRect)
  (texture : Texture)
  (region : TextureRegion) (bigEndian : Bool)

/-- A row of texels at native size. -/
def nativeRow (start length source : ℕ) (s : σ) : Option σ :=
  match texture.coverage with
  | .cutout bits _ => blitter.cutout start length texture.pixels source bits bigEndian s
  | coverage => blitter.blitFrom start length texture.pixels source
      (if coverage.isAlpha then some coverage.alpha else none) bigEndian s

def nativeSpanOn (row rowEnd start stop : ℕ) (s : σ) : Option σ := do
  let placeX ← placeOf start rect.x
  let sourceX := region.sourceX.toNat + placeX
  forRange (fun y s => do
    let placeY ← placeOf y rect.y
    let source := (region.sourceY.toNat + placeY) * region.stride.toNat + sourceX
    let destination := (y - target.y) * target.stride + start
    nativeRow blitter texture bigEndian destination (stop - start) source s)
    row (rowEnd - row) s

def rasterNativeOn (mask : Option (Occlusion × ℕ)) (s : σ) : Option (σ × ℕ) := do
  let left := (max rect.x.toInt 0).toNat
  let right := asUsize (min (saturatingSum rect.x rect.width) viewportWidth)
  let top := max (max rect.y.toInt 0).toNat target.y
  let bottom := min (asUsize (min (saturatingSum rect.y rect.height) viewportHeight))
    (target.y + target.rows)
  let (_, s, samples) ← loop (fun (row, s, samples) =>
    if row < bottom then do
      let rowEnd := mask.elim bottom fun (map, _) => map.rowEnd row bottom
      let (_, s, samples) ← loop (fun (x, s, samples) =>
        if x < right then do
          let span ← (match mask with
            | none => some (some (x, right))
            | some (map, index) => map.visibleSpan row x right index)
          match span with
          | none => return .stop (x, s, samples)
          | some (start, stop) =>
              let s ← nativeSpanOn blitter target rect texture region bigEndian row rowEnd start
                stop s
              let samples ← countSamples samples (stop - start) (rowEnd - row)
              return .next (stop, s, samples)
        else some (.stop (x, s, samples))) (right - left + 1) (left, s, samples)
      return .next (rowEnd, s, samples)
    else some (.stop (row, s, samples))) (bottom - top + 1) (top, s, 0)
  return (s, samples)

end Native

def rasterNative (target : BandTarget) (rect : ScreenRect) (texture : Texture)
    (region : TextureRegion) (bigEndian : Bool) (mask : Option (Occlusion × ℕ))
    (pixels : Array UInt16) : Option (Array UInt16 × ℕ) :=
  rasterNativeOn ScalarBlitter.blitter target rect texture region bigEndian mask pixels

theorem rasterNativeOn_scalar : rasterNativeOn ScalarBlitter.blitter = rasterNative := rfl

/-! ## Scaled boards -/

/-- Rows of sampled columns, with the stepper at the first of them. -/
structure RasterRows where
  origin : ℕ
  stride : ℕ
  left : ℕ
  top : ℕ
  bottom : ℕ
  columns : Array ColumnSample
  y : AxisStepper
  region : TextureRegion

namespace RasterRows

variable {σ : Type} (blitter : Blitter σ) (first : ℕ) (self : RasterRows) (texture : Texture)
  (filter : TextureFilter) (bigEndian : Bool)

/-- The row of samples at a coordinate. -/
def span (coordinate : ℕ) : Option SampledSpan := do
  let sy := coordinate / 2 ^ 16
  let right ← Checked.add Checked.u16Max self.region.sourceX.toNat self.region.width.toNat
  let last := self.region.height.toNat - 1
  return {
    texture := texture
    columns := self.columns
    rows := ((self.region.sourceY.toNat + sy) * self.region.stride.toNat,
      (self.region.sourceY.toNat + min (sy + 1) last) * self.region.stride.toNat)
    lastColumn := UInt16.ofNat (right - 1)
    fractionY := UInt16.ofNat coordinate
    bilinear := filter = .bilinear }

def drawRowOn (destinationY : ℕ) : AxisStepper × σ → Option (AxisStepper × σ)
  | (y, s) => do
      let (coordinate, y) ← y.take
      let span ← self.span texture filter coordinate
      let start := (destinationY - self.origin) * self.stride + self.left
      let s ← blitter.sample start span first bigEndian s
      return (y, s)

def drawOn (s : σ) : Option σ := do
  let (_, s) ← forRange (self.drawRowOn blitter first texture filter bigEndian) self.top
    (self.bottom - self.top) (self.y, s)
  return s

/-- The columns begin at `first` in the scratch. -/
def dispatchVisibleOn (mask : Option (Occlusion × ℕ)) (s : σ) : Option (σ × ℕ) :=
  match mask with
  | none => do
      let s ← self.drawOn blitter first texture filter bigEndian s
      return (s, self.columns.size * (self.bottom - self.top) % 2 ^ 32)
  | some (map, index) => do
      let (_, _, s, samples) ← loop (fun (row, y, s, samples) =>
        if row < self.bottom then do
          let rowEnd := map.rowEnd row self.bottom
          let (_, s, samples) ← loop (fun (x, s, samples) => do
            let span ← map.visibleSpan row x (self.left + self.columns.size) index
            match span with
            | none => return .stop (x, s, samples)
            | some (start, stop) =>
                let columns ← slice? self.columns (start - self.left) (stop - self.left)
                let rows := { self with
                  left := start, top := row, bottom := rowEnd, columns := columns, y := y }
                let s ← rows.drawOn blitter (first + (start - self.left)) texture filter bigEndian s
                let samples ← countSamples samples (stop - start) (rowEnd - row)
                return .next (stop, s, samples))
            (self.columns.size + 1) (self.left, s, samples)
          let y ← forRange (fun _ y => y.take.map Prod.snd) row (rowEnd - row) y
          return .next (rowEnd, y, s, samples)
        else some (.stop (row, y, s, samples)))
        (self.bottom - self.top + 1) (self.top, self.y, s, 0)
      return (s, samples)

def dispatchVisible (mask : Option (Occlusion × ℕ)) (pixels : Array UInt16) :
    Option (Array UInt16 × ℕ) :=
  self.dispatchVisibleOn ScalarBlitter.blitter 0 texture filter bigEndian mask pixels

end RasterRows

/-! ## Boards and scenes -/

/-- The board is drawn without scaling. -/
def isNative (projected : ProjectedBillboard) (region : TextureRegion) : Bool :=
  projected.filter = .nearest && projected.screenRect.width.toInt = region.width.toNat &&
    projected.screenRect.height.toInt = region.height.toNat

/-- The samples count for the filter of the board. -/
def samplesOf (filter : TextureFilter) (samples : ℕ) : RasterStats :=
  match filter with
  | .nearest => { nearestSamples := samples }
  | .bilinear => { bilinearSamples := samples }

/-- The columns and rows are prepared with steppers, and drawn with the sampler. -/
def rasterScaled (origin stride : ℕ) (projected : ProjectedBillboard) (texture : Texture)
    (region : TextureRegion) (bigEndian : Bool) (left top right bottom : ℤ)
    (mask : Option (Occlusion × ℕ)) (pixels : Array UInt16) : Option (Array UInt16 × ℕ) := do
  let rect := projected.screenRect
  let x ← AxisStepper.new region.width rect.width (left - rect.x.toInt)
  let count := (right - left).toNat
  let columns ← fillColumns region.sourceX x 0 count (Array.replicate viewportWidth default)
  let y ← AxisStepper.new region.height rect.height (top - rect.y.toInt)
  let rows : RasterRows := {
    origin := origin
    stride := stride
    left := left.toNat
    top := top.toNat
    bottom := bottom.toNat
    columns := columns.extract 0 count
    y := y
    region := region }
  rows.dispatchVisible texture projected.filter bigEndian mask pixels

/-- Clip a board, and draw what is visible of it at native size or with the sampler. -/
def rasterBillboardBy (native : Bool) (stride : ℕ) (projected : ProjectedBillboard)
    (texture : Texture) (region : TextureRegion) (bigEndian : Bool)
    (mask : Option (Occlusion × ℕ)) (pixels : Array UInt16) :
    Option (Except RasterError RasterStats × Array UInt16) :=
  if stride < viewportWidth then some (.error .invalidFramebuffer, pixels)
  else if pixels.size < stride * viewportHeight then
    -- The product of `usize` may overflow. No buffer has more words than `usize` can
    -- count, so this happens only here.
    if stride * viewportHeight ≤ Checked.u64Max then some (.error .invalidFramebuffer, pixels)
    else none
  else
    match validateTexture texture region with
    | .error error => some (.error error, pixels)
    | .ok () =>
        let rect := projected.screenRect
        if rect.width.toInt ≤ 0 ∨ rect.height.toInt ≤ 0 then
          some (.error .invalidTexture, pixels)
        else
          let left := max rect.x.toInt 0
          let top := max rect.y.toInt 0
          let right := min (saturatingSum rect.x rect.width) viewportWidth
          let bottom := min (saturatingSum rect.y rect.height) viewportHeight
          if left ≥ right ∨ top ≥ bottom then some (.ok {}, pixels)
          else do
            let visible ← (match mask with
              | none => some true
              | some (map, index) =>
                  map.hasVisibleSpan top.toNat bottom.toNat left.toNat right.toNat index)
            if !visible then return (.ok {}, pixels)
            else if native then
              match BandTarget.new pixels stride 0 viewportHeight with
              | .error error => return (.error error, pixels)
              | .ok target =>
                  let (pixels, samples) ←
                    rasterNative target rect texture region bigEndian mask pixels
                  return (.ok { nearestSamples := samples }, pixels)
            else
              let (pixels, samples) ← rasterScaled 0 stride projected texture region bigEndian
                left top right bottom mask pixels
              return (.ok (samplesOf projected.filter samples), pixels)

def rasterBillboardMasked (stride : ℕ) (projected : ProjectedBillboard) (texture : Texture)
    (region : TextureRegion) (bigEndian : Bool) (mask : Option (Occlusion × ℕ))
    (pixels : Array UInt16) : Option (Except RasterError RasterStats × Array UInt16) :=
  rasterBillboardBy (isNative projected region) stride projected texture region bigEndian mask
    pixels

/-- The whole texture. -/
def fullTextureRegion (size : SourceSize) : TextureRegion where
  sourceX := 0
  sourceY := 0
  width := size.width
  height := size.height
  stride := size.width

def rasterBillboardOrdered (stride : ℕ) (projected : ProjectedBillboard) (texture : Texture)
    (region : TextureRegion) (bigEndian : Bool) (pixels : Array UInt16) :
    Option (Except RasterError RasterStats × Array UInt16) :=
  rasterBillboardMasked stride projected texture region bigEndian none pixels

def rasterBillboard (stride : ℕ) (projected : ProjectedBillboard) (texture : Texture)
    (pixels : Array UInt16) : Option (Except RasterError RasterStats × Array UInt16) :=
  rasterBillboardOrdered stride projected texture (fullTextureRegion texture.size) false pixels

/-- The words of the framebuffer are in wire order. -/
def rasterBillboardBe (stride : ℕ) (projected : ProjectedBillboard) (texture : Texture)
    (pixels : Array UInt16) : Option (Except RasterError RasterStats × Array UInt16) :=
  rasterBillboardOrdered stride projected texture (fullTextureRegion texture.size) true pixels

def rasterBillboardRegionBe (stride : ℕ) (projected : ProjectedBillboard) (texture : Texture)
    (region : TextureRegion) (pixels : Array UInt16) :
    Option (Except RasterError RasterStats × Array UInt16) :=
  rasterBillboardOrdered stride projected texture region true pixels

/-- Boards are given from far to near, and by their ids at equal depths. -/
def inOrder (boards : List SceneBillboard) : Bool :=
  (boards.zip boards.tail).all fun (a, b) =>
    !(a.projected.depth < b.projected.depth ||
      (a.projected.depth == b.projected.depth && a.projected.id > b.projected.id))

/-- Draw one board of a scene, and add to the statistics. -/
def sceneBoard (stride : ℕ) (wire : Bool) (occlusion : Occlusion) (board : SceneBillboard)
    (index : ℕ) : Except RasterError SceneStats × Array UInt16 →
      Option (Except RasterError SceneStats × Array UInt16)
  | (.error error, pixels) => some (.error error, pixels)
  | (.ok stats, pixels) => do
      let hidden ← (if stats.opaqueTiles ≠ 0
        then occlusion.hides board.projected.screenRect index else some false)
      let (result, pixels) ← rasterBillboardMasked stride board.projected board.texture
        board.region wire (if hidden then some (occlusion, index) else none) pixels
      match result with
      | .error error => return (.error error, pixels)
      | .ok result =>
          let scaled := !isNative board.projected board.region &&
            decide (result.nearestSamples + result.bilinearSamples > 0)
          let preparations ← (if scaled
            then Checked.add Checked.u32Max stats.scalerPreparations 1
            else some stats.scalerPreparations)
          return (.ok { stats with
            scalerPreparations := preparations
            raster := {
              nearestSamples :=
                saturatingCount stats.raster.nearestSamples result.nearestSamples
              bilinearSamples :=
                saturatingCount stats.raster.bilinearSamples result.bilinearSamples } }, pixels)

def rasterScene (stride : ℕ) (boards : List SceneBillboard) (background : Background)
    (wire : Bool) (occlusion : Occlusion) (pixels : Array UInt16) :
    Option (Except RasterError SceneStats × Array UInt16) :=
  if stride < viewportWidth ∨ pixels.size < stride * viewportHeight then
    some (.error .invalidFramebuffer, pixels)
  else if boards.length > Checked.u16Max then some (.error .invalidOrder, pixels)
  else if !inOrder boards then some (.error .invalidOrder, pixels)
  else do
    let (occlusion, stats) ← occlusion.prepare boards {}
    match BandTarget.new pixels stride 0 viewportHeight with
    | .error error => return (.error error, pixels)
    | .ok target =>
        let pixels ←
          paintBackground target occlusion stats.opaqueTiles background wire pixels
        forEach (sceneBoard stride wire occlusion) 0 boards (.ok stats, pixels)

end Deskkin.Presentation
