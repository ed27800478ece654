/-
# Motion

The demo's camera goes around once in 30 seconds and keeps the fraction of a unit that is
left. The phase of everything else starts again after 120 seconds, of which all periods are
a part, and the pet shows the frames of its animation one after another.

Each has its remainder below the period it belongs to, so it does not matter in which
chunks time passes.
-/

import Deskkin.Lib.Chunks
import Deskkin.Presentation.Yaw

namespace Deskkin.Presentation

open Signed Chunks

/-! ## The camera -/

def cameraOrbitPeriodMs : ℕ := 30000

structure DemoCamera where
  touch : TouchYawAdapter
  orbit : Int64
  remainder : ℕ
  small : remainder < cameraOrbitPeriodMs

namespace DemoCamera

protected def new (initial : UnwrappedAngle) : DemoCamera :=
  ⟨TouchYawAdapter.new initial, 0, 0, by decide⟩

/-- Units of time that have passed, in parts of the period. -/
def numerator (self : DemoCamera) (elapsedMs : ℕ) : ℕ := elapsedMs * 65536 + self.remainder

def after (self : DemoCamera) (elapsedMs : ℕ) : DemoCamera where
  touch := self.touch
  orbit := saturated64 (self.orbit.toInt + (self.numerator elapsedMs / cameraOrbitPeriodMs : ℕ))
  remainder := self.numerator elapsedMs % cameraOrbitPeriodMs
  small := Nat.mod_lt _ (by decide)

def advance (self : DemoCamera) (elapsedMs : UInt32) : DemoCamera := self.after elapsedMs.toNat

theorem after_zero (self : DemoCamera) : self.after 0 = self := by
  have clear : self.numerator 0 = self.remainder := by rw [numerator, Nat.zero_mul, Nat.zero_add]
  obtain ⟨touch, orbit, remainder, small⟩ := self
  rw [after, DemoCamera.mk.injEq, clear]
  refine ⟨rfl, ?_, Nat.mod_eq_of_lt small⟩
  rw [Nat.div_eq_of_lt small, Nat.cast_zero, add_zero, saturated64_toInt]

theorem after_after (self : DemoCamera) (m n : ℕ) :
    (self.after m).after n = self.after (m + n) := by
  have next : (self.after m).numerator n =
      n * 65536 + self.numerator m % cameraOrbitPeriodMs := rfl
  have total : self.numerator m + n * 65536 = self.numerator (m + n) := by
    rw [numerator, numerator, Nat.add_mul]
    omega
  have quotient := carry_div (show 0 < cameraOrbitPeriodMs by decide) (self.numerator m) (n * 65536)
  rw [total, ← next] at quotient
  have orbit : saturated64 ((self.after m).orbit.toInt +
      ((self.after m).numerator n / cameraOrbitPeriodMs : ℕ)) = (self.after (m + n)).orbit := by
    rw [after, saturated64_add_add _ (Int.natCast_nonneg _) (Int.natCast_nonneg _),
      ← Int.natCast_add, ← after, quotient]
    rfl
  have remainder : (self.after m).numerator n % cameraOrbitPeriodMs =
      (self.after (m + n)).remainder := by
    rw [next, carry_mod, total]
    rfl
  rw [after, after, DemoCamera.mk.injEq]
  exact ⟨rfl, orbit, remainder⟩

end DemoCamera

/-! ## Everything else -/

def motionPeriodMs : ℕ := 120000

structure DemoMotion where
  phaseMs : ℕ
  small : phaseMs < motionPeriodMs

namespace DemoMotion

protected def default : DemoMotion := ⟨0, by decide⟩

def after (self : DemoMotion) (elapsedMs : ℕ) : DemoMotion where
  phaseMs := (self.phaseMs + elapsedMs) % motionPeriodMs
  small := Nat.mod_lt _ (by decide)

def advance (self : DemoMotion) (elapsedMs : UInt32) : DemoMotion := self.after elapsedMs.toNat

variable (self : DemoMotion)

theorem after_zero : self.after 0 = self := by
  obtain ⟨phase, small⟩ := self
  rw [after, DemoMotion.mk.injEq]
  exact Nat.mod_eq_of_lt small

theorem after_after (m n : ℕ) : (self.after m).after n = self.after (m + n) := by
  rw [after, after, after, DemoMotion.mk.injEq]
  dsimp only
  rw [Nat.mod_add_mod, Nat.add_assoc]

/-- Whole periods change nothing. -/
theorem after_mod (elapsedMs : ℕ) :
    self.after (elapsedMs % motionPeriodMs) = self.after elapsedMs := by
  rw [after, after, DemoMotion.mk.injEq]
  exact Nat.add_mod_mod _ _ _

end DemoMotion

/-! ## The pet -/

inductive PetAnimationState
  | idle
  | moveRight
  | moveLeft
  | attend
  deriving DecidableEq

namespace PetAnimationState

def frameCount : PetAnimationState → ℕ
  | idle | attend => 6
  | moveRight | moveLeft => 8

def framePeriodMs : PetAnimationState → ℕ
  | idle | attend => 100
  | moveRight | moveLeft => 50

theorem frameCount_pos (state : PetAnimationState) : 0 < state.frameCount := by
  cases state <;> decide

theorem framePeriodMs_pos (state : PetAnimationState) : 0 < state.framePeriodMs := by
  cases state <;> decide

end PetAnimationState

structure PetFrame where
  state : PetAnimationState
  index : ℕ
  deriving DecidableEq

structure PetAnimator where
  state : PetAnimationState
  index : ℕ
  elapsedInFrameMs : ℕ
  inLoop : index < state.frameCount
  inFrame : elapsedInFrameMs < state.framePeriodMs

namespace PetAnimator

protected def new : PetAnimator := ⟨.idle, 0, 0, by decide, by decide⟩

def frame (self : PetAnimator) : PetFrame := ⟨self.state, self.index⟩

/-- The remainders are far from the greatest values of their types. -/
def after (self : PetAnimator) (elapsedMs : ℕ) : PetAnimator where
  state := self.state
  index := (self.index + (self.elapsedInFrameMs + elapsedMs) / self.state.framePeriodMs) %
    self.state.frameCount
  elapsedInFrameMs := (self.elapsedInFrameMs + elapsedMs) % self.state.framePeriodMs
  inLoop := Nat.mod_lt _ self.state.frameCount_pos
  inFrame := Nat.mod_lt _ self.state.framePeriodMs_pos

/-- The frame to show is that of the state it comes to. -/
def advance (self : PetAnimator) (elapsedMs : UInt32) : PetAnimator × PetFrame :=
  (self.after elapsedMs.toNat, (self.after elapsedMs.toNat).frame)

theorem after_zero (self : PetAnimator) : self.after 0 = self := by
  obtain ⟨state, index, elapsed, inLoop, inFrame⟩ := self
  rw [after, PetAnimator.mk.injEq]
  dsimp only
  rw [Nat.add_zero, Nat.div_eq_of_lt inFrame, Nat.add_zero]
  exact ⟨rfl, Nat.mod_eq_of_lt inLoop, Nat.mod_eq_of_lt inFrame⟩

theorem after_after (self : PetAnimator) (m n : ℕ) :
    (self.after m).after n = self.after (m + n) := by
  have steps := carry_div self.state.framePeriodMs_pos (self.elapsedInFrameMs + m) n
  rw [after, after, after, PetAnimator.mk.injEq]
  dsimp only
  rw [Nat.mod_add_mod, Nat.mod_add_mod, Nat.add_assoc, Nat.add_comm (_ % _) n, steps,
    Nat.add_assoc]
  exact ⟨rfl, rfl, rfl⟩

end PetAnimator

end Deskkin.Presentation
