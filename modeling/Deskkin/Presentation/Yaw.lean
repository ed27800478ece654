/-
# Yaw

Angles are counted in parts of a turn and keep on counting. Dragging on the touch screen
moves the target of the camera; the angle that is observed follows it with a bounded rate.
A sum that does not fit `i64` is a panic, which is `none`, where the source does not saturate.
-/

import Deskkin.Lib.Following
import Deskkin.Lib.Signed
import Deskkin.Presentation.Occlusion

namespace Deskkin.Presentation

open Signed Following

/-- Units of one turn. -/
def turnUnits : ℤ := 65536

structure UnwrappedAngle where
  units : Int64
  deriving DecidableEq

/-! ## Dragging -/

structure TouchYawAdapter where
  target : UnwrappedAngle
  lastX : Option Int16
  deriving DecidableEq

namespace TouchYawAdapter

protected def new (target : UnwrappedAngle) : TouchYawAdapter := ⟨target, none⟩

/-- The part of a turn for so many pixels, rounded toward zero. -/
def turned (pixels : ℤ) : ℤ := (pixels * turnUnits).tdiv viewportWidth

def sample (self : TouchYawAdapter) (x : Int16) (pressed : Bool) : Option TouchYawAdapter :=
  if !pressed then some { self with lastX := none }
  else
    match self.lastX with
    | none => some { self with lastX := some x }
    | some previous => (checked64 (self.target.units.toInt +
        turned (x.toInt - previous.toInt))).map fun units => ⟨⟨units⟩, some x⟩

end TouchYawAdapter

/-! ## Following -/

structure RateLimitedObservedYaw where
  observed : UnwrappedAngle
  deriving DecidableEq

namespace RateLimitedObservedYaw

protected def new (observed : UnwrappedAngle) : RateLimitedObservedYaw := ⟨observed⟩

def advance (self : RateLimitedObservedYaw) (target : UnwrappedAngle) (elapsedMs : UInt32) :
    RateLimitedObservedYaw :=
  let difference := (saturated64 (target.units.toInt - self.observed.units.toInt)).toInt
  let maximum := (saturated64 (turnUnits / 2 * elapsedMs.toNat)).toInt / 1000
  ⟨⟨saturated64 (self.observed.units.toInt + max (-maximum) (min difference maximum))⟩⟩

/-- The most that a call moves. -/
def most (elapsedMs : UInt32) : ℕ := 32768 * elapsedMs.toNat / 1000

/-- The states after each of the calls. -/
def advances (self : RateLimitedObservedYaw) :
    List (UnwrappedAngle × UInt32) → List RateLimitedObservedYaw
  | [] => []
  | (target, elapsedMs) :: calls =>
      self.advance target elapsedMs :: (self.advance target elapsedMs).advances calls

end RateLimitedObservedYaw

end Deskkin.Presentation
