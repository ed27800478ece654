/-
# Tiles that a board hides

Boards are drawn from far to near. Before that, each screen tile is given a cutoff:
the number of the nearest board that covers the whole tile with opaque pixels, counted
from one, or zero. What is behind the cutoff of a tile is not drawn there.
-/

import Deskkin.Presentation.Sampling

namespace Deskkin.Presentation

open Loops

def viewportWidth : ℕ := 320

def viewportHeight : ℕ := 240

/-! ## Boards -/

inductive TextureFilter
  | nearest
  | bilinear
  deriving DecidableEq

structure ScreenRect where
  x : Int32
  y : Int32
  width : Int32
  height : Int32
  deriving DecidableEq

structure ProjectedBillboard where
  id : UInt16
  screenRect : ScreenRect
  depth : Int32
  source : UInt16
  filter : TextureFilter
  deriving DecidableEq

/-- A board with a validated texture and a rectangle that is not empty. -/
structure SceneBillboard where
  projected : ProjectedBillboard
  texture : Texture
  region : TextureRegion
  valid : validateTexture texture region = .ok ()
  positive : 0 < projected.screenRect.width.toInt ∧ 0 < projected.screenRect.height.toInt

protected def SceneBillboard.new (projected : ProjectedBillboard) (texture : Texture)
    (region : TextureRegion) : Except RasterError SceneBillboard :=
  match valid : validateTexture texture region with
  | .error error => .error error
  | .ok () =>
      if positive : 0 < projected.screenRect.width.toInt ∧
          0 < projected.screenRect.height.toInt then
        .ok ⟨projected, texture, region, valid, positive⟩
      else .error .invalidTexture

/-- `saturating_add` of `i32`. -/
def saturatingSum (a b : Int32) : ℤ := max (-2 ^ 31) (min (a.toInt + b.toInt) (2 ^ 31 - 1))

/-- `clamp(0, limit) as usize`. -/
def clampTo (limit : ℕ) (value : ℤ) : ℕ := (max 0 (min value limit)).toNat

namespace ScreenRect

/-! The part of a rectangle that is in the viewport. -/

def left (self : ScreenRect) : ℕ := clampTo viewportWidth self.x.toInt

def right (self : ScreenRect) : ℕ := clampTo viewportWidth (saturatingSum self.x self.width)

def top (self : ScreenRect) : ℕ := clampTo viewportHeight self.y.toInt

def bottom (self : ScreenRect) : ℕ := clampTo viewportHeight (saturatingSum self.y self.height)

end ScreenRect

/-! ## Statistics -/

structure RasterStats where
  nearestSamples : ℕ := 0
  bilinearSamples : ℕ := 0
  deriving DecidableEq

structure SceneStats where
  raster : RasterStats := {}
  skippedBackgroundPixels : ℕ := 0
  opaqueTiles : ℕ := 0
  coverageTests : ℕ := 0
  scalerPreparations : ℕ := 0
  deriving DecidableEq

/-- `saturating_add` of `u32`. -/
def saturatingCount (a b : ℕ) : ℕ := min (a + b) Checked.u32Max

/-! ## The tiles of the screen -/

inductive ScreenTile
  | eight
  | sixteen
  deriving DecidableEq

namespace ScreenTile

def pixels : ScreenTile → ℕ
  | eight => 8
  | sixteen => 16

def cells (self : ScreenTile) : ℕ :=
  (viewportWidth / self.pixels) * (viewportHeight / self.pixels)

end ScreenTile

/-- The cutoff of each tile, row by row. -/
structure Occlusion where
  tile : ScreenTile
  cutoffs : Array UInt16
  sized : cutoffs.size = tile.cells

/-- The texels of the first and the last pixel of a tile, along one axis. -/
def sourceSpan (pixel tile : ℕ) (origin destination : Int32) (offset source : UInt16) : ℕ × ℕ :=
  let map (pixel : ℕ) : ℕ :=
    offset.toNat + ((((pixel : ℤ) - origin.toInt) * source.toNat).tdiv destination.toInt %
      2 ^ 64).toNat
  (map pixel, map (pixel + tile - 1))

namespace Occlusion

protected def new (tile : ScreenTile) (cutoffs : Array UInt16) : Except RasterError Occlusion :=
  if sized : cutoffs.size = tile.cells then .ok ⟨tile, cutoffs, sized⟩ else .error .invalidMask

def columns (self : Occlusion) : ℕ := viewportWidth / self.tile.pixels

/-- Where the row of tiles ends, or the rows do. -/
def rowEnd (self : Occlusion) (y stop : ℕ) : ℕ :=
  min ((y / self.tile.pixels + 1) * self.tile.pixels) stop

def clear (self : Occlusion) : Occlusion where
  tile := self.tile
  cutoffs := self.cutoffs.map fun _ => 0
  sized := by rw [Array.size_map, self.sized]

def mark (self : Occlusion) (cell : ℕ) (cutoff : UInt16) : Occlusion where
  tile := self.tile
  cutoffs := self.cutoffs.setIfInBounds cell cutoff
  sized := by rw [Array.size_setIfInBounds, self.sized]

/-! ## Preparing the cutoffs -/

/-- The mask that decides where a board is opaque. Filtered texels mix, so with a filter
only an opaque texture hides anything. -/
def occluder (board : SceneBillboard) : Option (Option Mask8) :=
  match board.texture.coverage.blocks with
  | none => some none
  | some blocks =>
      if board.projected.filter = .nearest ∧ blocks.bits.any (· ≠ 0) then some (some blocks)
      else none

/-- Without a mask the board is opaque everywhere. -/
def maskCovers (mask : Option Mask8) (horizontal vertical : ℕ × ℕ) : Option Bool :=
  match mask with
  | none => some true
  | some mask => mask.covers horizontal.1 vertical.1 horizontal.2 vertical.2

/-- Test one tile, unless a nearer board covers it already. -/
def prepareTile (mask : Option Mask8) (index cell : ℕ) (horizontal vertical : ℕ × ℕ) :
    Occlusion × SceneStats → Option (Occlusion × SceneStats)
  | (self, stats) => do
      let cutoff ← self.cutoffs[cell]?
      if cutoff ≠ 0 then return (self, stats)
      else
        let stats := { stats with coverageTests := saturatingCount stats.coverageTests 1 }
        let covered ← maskCovers mask horizontal vertical
        if covered then
          let opaqueTiles ← Checked.add Checked.u32Max stats.opaqueTiles 1
          let skipped ← Checked.add Checked.u32Max stats.skippedBackgroundPixels
            (self.tile.pixels * self.tile.pixels)
          return (self.mark cell (UInt16.ofNat (index + 1)),
            { stats with opaqueTiles := opaqueTiles, skippedBackgroundPixels := skipped })
        else return (self, stats)

def prepareBoard (tile : ScreenTile) (board : SceneBillboard) (index : ℕ)
    (state : Occlusion × SceneStats) : Option (Occlusion × SceneStats) :=
  match occluder board with
  | none => some state
  | some mask =>
      let r := board.projected.screenRect
      let left := divCeil r.left tile.pixels
      let top := divCeil r.top tile.pixels
      let right := r.right / tile.pixels
      let bottom := r.bottom / tile.pixels
      if left ≥ right ∨ top ≥ bottom then some state
      else
        let horizontal (x : ℕ) :=
          if mask.isSome then sourceSpan (x * tile.pixels) tile.pixels r.x r.width
            board.region.sourceX board.region.width
          else (0, 0)
        let vertical (y : ℕ) :=
          if mask.isSome then sourceSpan (y * tile.pixels) tile.pixels r.y r.height
            board.region.sourceY board.region.height
          else (0, 0)
        forRange (fun y =>
          forRange (fun x => prepareTile mask index (y * (viewportWidth / tile.pixels) + x)
            (horizontal x) (vertical y)) left (right - left)) top (bottom - top) state

/-- The nearest boards are looked at first. -/
def prepare (self : Occlusion) (boards : List SceneBillboard) (stats : SceneStats) :
    Option (Occlusion × SceneStats) :=
  forEach (fun (board, index) _ => prepareBoard self.tile board index) 0 boards.zipIdx.reverse
    (self.clear, stats)

/-! ## What is visible -/

/-- Go on to the next tiles while the test holds of their cutoffs. -/
def skipTiles (self : Occlusion) (row stop : ℕ) (test : ℕ → Bool) (x : ℕ) : Option ℕ :=
  loop (fun x =>
    if x < stop then do
      let cutoff ← self.cutoffs[row + x / self.tile.pixels]?
      if test cutoff.toNat then
        return .next (min ((x / self.tile.pixels + 1) * self.tile.pixels) stop)
      else return .stop x
    else some (.stop x)) (stop - x + 1) x

/-- The next columns from `x` on where the board is not hidden. -/
def visibleSpan (self : Occlusion) (y x stop index : ℕ) : Option (Option (ℕ × ℕ)) := do
  let row := y / self.tile.pixels * self.columns
  let start ← self.skipTiles row stop (fun cutoff => cutoff > index + 1) x
  if start = stop then return none
  else
    let last ← self.skipTiles row stop (fun cutoff => cutoff ≤ index + 1) start
    return some (start, last)

def hasVisibleSpan (self : Occlusion) (top bottom left right index : ℕ) : Option Bool := do
  let (found, _) ← loop (fun (_, row) =>
    if row < bottom then do
      let span ← self.visibleSpan row left right index
      if span.isSome then return .stop (true, row)
      else return .next (false, self.rowEnd row bottom)
    else some (.stop (false, row))) (bottom - top + 1) (false, top)
  return found

/-- Some tile that the rectangle meets is hidden. -/
def hides (self : Occlusion) (r : ScreenRect) (index : ℕ) : Option Bool :=
  let tile := self.tile.pixels
  let left := r.left / tile
  let top := r.top / tile
  let right := divCeil r.right tile
  let bottom := divCeil r.bottom tile
  (List.range' top (bottom - top)).anyM fun y =>
    (List.range' left (right - left)).anyM fun x => do
      let cutoff ← self.cutoffs[y * self.columns + x]?
      return cutoff.toNat > index + 1

end Occlusion

end Deskkin.Presentation
