/-
# The renderer's reduced textures

The renderer keeps the texture of a board at half its size, at a quarter, and so on down to
one texel, with rows of a multiple of sixteen texels. Coverage is kept as a plane only where
it has values between 0 and 255.

An expectation of the source that does not hold is a panic, which is `none`. Where storage
starts in memory is left out.
-/

import Deskkin.Presentation.Mipmap
import Deskkin.Presentation.Occlusion

namespace Deskkin.Renderer

open Presentation Loops

/-- Storage for texels, in whole groups of `n`. -/
def Plane.fromFn {α : Type} (n length : ℕ) (pixel : ℕ → α) : Option (Array α) := do
  guard (n ≠ 0 ∧ length % n = 0)
  return (Array.range length).map pixel

/-! ## Coverage -/

inductive CoveragePlane
  | fullyOpaque
  | cutout (bits : Array UInt8)
  | alpha8 (alpha : Array UInt8)

structure PreparedCoverage where
  size : SourceSize
  plane : CoveragePlane
  opaqueBlocks : Array UInt8

namespace PreparedCoverage

protected def new (size : SourceSize) (alpha : Array UInt8) : Option PreparedCoverage :=
  if alpha.all fun a => a = 255 then some ⟨size, .fullyOpaque, #[]⟩
  else do
    let (built, opaqueBlocks) ← buildOpaqueMask size alpha
      (Array.replicate (Mask8.bytesFor size) 0)
    let _ ← built.toOption
    if alpha.all fun a => a = 0 || a = 255 then
      let (packed, bits) ← buildCutoutMask alpha (Array.replicate (divCeil alpha.size 8) 0)
      let _ ← packed.toOption
      return ⟨size, .cutout bits, opaqueBlocks⟩
    else return ⟨size, .alpha8 alpha, opaqueBlocks⟩

def borrow (self : PreparedCoverage) : Option Coverage :=
  match self.plane with
  | .fullyOpaque => some .fullyOpaque
  | .cutout bits => (Mask8.new self.size self.opaqueBlocks).toOption.map (.cutout bits)
  | .alpha8 alpha => (Mask8.new self.size self.opaqueBlocks).toOption.map (.alpha8 alpha)

end PreparedCoverage

/-! ## The chain -/

/-- The width, up to a multiple of sixteen. -/
def rowStride (width : UInt16) : Option UInt16 := do
  let padded ← Checked.add Checked.u16Max width.toNat 15
  return UInt16.ofNat padded &&& ~~~15

structure MipLevel where
  size : SourceSize
  colors : Array UInt16
  coverage : PreparedCoverage

def MipLevel.borrow (self : MipLevel) : Option (Texture × TextureRegion) := do
  let stride ← rowStride self.size.width
  let coverage ← self.coverage.borrow
  return (⟨⟨stride, self.size.height⟩, self.colors, coverage⟩,
    ⟨0, 0, self.size.width, self.size.height, stride⟩)

namespace MipChain

section Chain

variable (base : Texture) (region : TextureRegion)

/-- What the next level is reduced from: the last one, or the texture itself. -/
def source (levels : List MipLevel) : Option (Texture × TextureRegion) :=
  match levels.getLast? with
  | none => some (base, region)
  | some level => level.borrow

/-- Reduce once more, or stop at one texel. -/
def nextLevel (levels : List MipLevel) : Option (Step (List MipLevel)) := do
  let (texture, source) ← source base region levels
  if source.width ≤ 1 ∧ source.height ≤ 1 then return .stop levels
  else
    let height := half source.height
    let stride ← rowStride (half source.width)
    let length := stride.toNat * height.toNat
    let colors ← Plane.fromFn 8 length fun _ => 0
    let alpha ← Plane.fromFn 16 length fun _ => 0
    let (reduced, colors, alpha) ← downsample texture source stride colors alpha
    let size ← reduced.toOption
    let coverage ← if !texture.coverage.isAlpha then some ⟨⟨stride, height⟩, .fullyOpaque, #[]⟩
      else PreparedCoverage.new ⟨stride, height⟩ alpha
    return .next (levels ++ [⟨size, colors, coverage⟩])

/-- The levels of a region. Every round but the last makes the region smaller. -/
protected def new : Option (List MipLevel) :=
  loop (nextLevel base region) (region.width.toNat + region.height.toNat + 1) []

end Chain

/-- The last level before one that is smaller than the rectangle, or the texture itself. -/
def select (rect : ScreenRect) (base : Texture) (region : TextureRegion) :
    List MipLevel → Option (Texture × TextureRegion)
  | [] => some (base, region)
  | level :: levels =>
      if (level.size.width.toNat : ℤ) < rect.width.toInt ∨
          (level.size.height.toNat : ℤ) < rect.height.toInt then some (base, region)
      else do
        let (texture, source) ← level.borrow
        select rect texture source levels

end MipChain

end Deskkin.Renderer
