/-
# The simulator's reduced textures

The simulator keeps the reduced textures of a board behind the board's own, each as wide as
it has texels.

An expectation of the source that does not hold is a panic, which is `none`.
-/

import Deskkin.Presentation.Mipmap
import Deskkin.Presentation.Raster

namespace Deskkin.Simulator

open Presentation Loops

inductive OwnedCoverage
  | fullyOpaque
  | cutout (bits opaqueBlocks : Array UInt8)
  | alpha8 (alpha opaqueBlocks : Array UInt8)

structure OwnedTexture where
  size : SourceSize
  pixels : Array UInt16
  coverage : OwnedCoverage
  mips : List OwnedTexture

namespace OwnedTexture

def withAlpha (size : SourceSize) (pixels : Array UInt16) (alpha : Array UInt8) :
    Option OwnedTexture := do
  let (built, opaqueBlocks) ← buildOpaqueMask size alpha
    (Array.replicate (Mask8.bytesFor size) 0)
  let _ ← built.toOption
  if alpha.all fun a => a = 255 then return ⟨size, pixels, .fullyOpaque, []⟩
  else if alpha.all fun a => a = 0 || a = 255 then
    let (packed, bits) ← buildCutoutMask alpha (Array.replicate (divCeil alpha.size 8) 0)
    let _ ← packed.toOption
    return ⟨size, pixels, .cutout bits opaqueBlocks, []⟩
  else return ⟨size, pixels, .alpha8 alpha opaqueBlocks, []⟩

def borrowCoverage (self : OwnedTexture) : Option Coverage :=
  match self.coverage with
  | .fullyOpaque => some .fullyOpaque
  | .cutout bits opaqueBlocks => (Mask8.new self.size opaqueBlocks).toOption.map (.cutout bits)
  | .alpha8 alpha opaqueBlocks => (Mask8.new self.size opaqueBlocks).toOption.map (.alpha8 alpha)

def borrow (self : OwnedTexture) : Option Texture :=
  self.borrowCoverage.map fun coverage => ⟨self.size, self.pixels, coverage⟩

theorem size_of_borrow {self : OwnedTexture} {texture : Texture}
    (borrowed : self.borrow = some texture) : texture.size = self.size := by
  obtain ⟨coverage, -, rfl⟩ := Option.map_eq_some_iff.mp borrowed
  rfl

/-- Reduce the last texture once more, or stop at one texel. -/
def nextMip (self : OwnedTexture) (mips : List OwnedTexture) :
    Option (Step (List OwnedTexture)) := do
  let source := mips.getLast?.getD self
  if source.size.width ≤ 1 ∧ source.size.height ≤ 1 then return .stop mips
  else
    let size : SourceSize := ⟨half source.size.width, half source.size.height⟩
    let colors := Array.replicate (size.width.toNat * size.height.toNat) 0
    let alpha := Array.replicate colors.size 0
    let texture ← source.borrow
    let (reduced, colors, alpha) ← downsample texture (fullTextureRegion source.size) size.width
      colors alpha
    let _ ← reduced.toOption
    let mip ← withAlpha size colors alpha
    return .next (mips ++ [mip])

/-- Every round but the last makes the source smaller. -/
def prepareMips (self : OwnedTexture) : Option OwnedTexture := do
  let mips ← loop (nextMip self) (self.size.width.toNat + self.size.height.toNat + 1) self.mips
  return { self with mips := mips }

/-- The last texture before one that is smaller than the rectangle, and whether it is a reduced
one. -/
def selectMip (rect : ScreenRect) (selected : OwnedTexture) (isMip : Bool) :
    List OwnedTexture → OwnedTexture × Bool
  | [] => (selected, isMip)
  | mip :: mips =>
      if (mip.size.width.toNat : ℤ) < rect.width.toInt ∨
          (mip.size.height.toNat : ℤ) < rect.height.toInt then (selected, isMip)
      else selectMip rect mip true mips

def forProjection (self : OwnedTexture) (projected : ProjectedBillboard) : OwnedTexture × Bool :=
  selectMip projected.screenRect self false self.mips

end OwnedTexture

end Deskkin.Simulator
