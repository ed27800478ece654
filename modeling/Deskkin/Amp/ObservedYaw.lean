/-
# The observed yaw

A thousand times a second the supervisor moves the observed yaw toward the target by at most
half a turn per second, and it carries on what is left of a unit. The difference of the two
is not checked, so a target that is further away than `int64_t` reaches has no defined
outcome, which is `none`. The presentation follows by the same rate and goes to the nearest
difference instead.
-/

import Deskkin.Lib.Chunks
import Deskkin.Presentation.Yaw

namespace Deskkin.Amp

open Signed Following Presentation

/-- `observed_yaw` and `observed_rate_remainder`. -/
structure ObservedYaw where
  observed : Int64
  remainder : ℕ
  small : remainder < 1000
  deriving DecidableEq

namespace ObservedYaw

def numerator (self : ObservedYaw) : ℕ := self.remainder + 32768

/-- The step of `update_observed_yaw`, with the target that it has read. -/
def tick (self : ObservedYaw) (targetYaw : Int64) : Option ObservedYaw := do
  let maximumStep : ℤ := (self.numerator / 1000 : ℕ)
  let difference ← checked64 (targetYaw.toInt - self.observed.toInt)
  let step := if difference.toInt > maximumStep then maximumStep
    else if difference.toInt < -maximumStep then -maximumStep
    else difference.toInt
  let observed ← checked64 (self.observed.toInt + step)
  return ⟨observed, self.numerator % 1000, Nat.mod_lt _ (by decide)⟩

/-- Where the yaw goes from here. -/
def followed (self : ObservedYaw) (target : Int64) : ObservedYaw where
  observed := .ofInt (follow self.observed.toInt target.toInt (self.numerator / 1000))
  remainder := self.numerator % 1000
  small := Nat.mod_lt _ (by decide)

section Tick

variable {self next : ObservedYaw} {target : Int64}

end Tick

/-! ## Many ticks -/

/-- The bounds of so many ticks. -/
def bounds (remainder : ℕ) : ℕ → List ℕ
  | 0 => []
  | n + 1 => (remainder + 32768) / 1000 :: bounds ((remainder + 32768) % 1000) n

/-- The targets of the ticks, with the bounds. -/
def paced (self : ObservedYaw) (targets : List Int64) : List (ℤ × ℕ) :=
  (targets.map Int64.toInt).zip (bounds self.remainder targets.length)

section Ticks

variable {self : ObservedYaw} {targets : List Int64}

/-- What it is to follow targets at half a turn per second. -/
structure Follows (self : ObservedYaw) (targets : List Int64) (states : List ObservedYaw) :
    Prop where
  movement : movement self.observed.toInt (states.map (·.observed.toInt)) ≤
    (32768 * targets.length + self.remainder) / 1000
  nearer : Stepwise Nearer self.observed.toInt (targets.map Int64.toInt)
    (states.map (·.observed.toInt))
  reached : ∀ target : Int64, (∀ t ∈ targets, t = target) →
    ((states.map (·.observed.toInt)).getLastD self.observed.toInt = target.toInt ↔
      (target.toInt - self.observed.toInt).natAbs ≤
        (32768 * targets.length + self.remainder) / 1000)

end Ticks

end ObservedYaw

end Deskkin.Amp
