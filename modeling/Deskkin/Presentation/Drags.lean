/-
# Drags on the touch screen

Every sample of a drag turns the target by its own part of a turn, and what that is rounded
by is dropped. So the change of the target depends on the samples in between, and it is what
the first and the last sample say exactly when the dropped parts add up to the one that a
single step would drop.
-/

import Deskkin.Presentation.Yaw

namespace Deskkin.Presentation

open Signed

/-- Fifths of a unit that a step of so many pixels drops: 204.8 units are a pixel. -/
def droppedFifths (pixels : ℤ) : ℤ := 5 * (pixels.tmod 5).sign - pixels.tmod 5

/-- A step loses what it drops. -/
theorem turned_add_dropped (pixels : ℤ) :
    5 * TouchYawAdapter.turned pixels + droppedFifths pixels = 1024 * pixels := by
  rw [TouchYawAdapter.turned, turnUnits, viewportWidth, droppedFifths]
  rcases le_total 0 pixels with up | down
  · rw [Int.tdiv_eq_ediv_of_nonneg (by omega), Int.tmod_eq_emod_of_nonneg up]
    rcases Int.lt_or_eq_of_le (Int.emod_nonneg pixels (show (5 : ℤ) ≠ 0 by decide)) with some | none
    · rw [Int.sign_eq_one_of_pos some]
      omega
    · rw [← none, Int.sign_zero]
      omega
  · obtain ⟨back, rfl⟩ : ∃ back, pixels = -back := ⟨-pixels, by omega⟩
    have positive : 0 ≤ back := by omega
    rw [Int.neg_mul, Int.neg_tdiv, Int.neg_tmod, Int.sign_neg,
      Int.tdiv_eq_ediv_of_nonneg (by omega), Int.tmod_eq_emod_of_nonneg positive]
    rcases Int.lt_or_eq_of_le (Int.emod_nonneg back (show (5 : ℤ) ≠ 0 by decide)) with some | none
    · rw [Int.sign_eq_one_of_pos some]
      omega
    · rw [← none, Int.sign_zero]
      omega

/-- The steps between samples. -/
def stepsFrom (x : Int16) : List Int16 → List ℤ
  | [] => []
  | y :: ys => (y.toInt - x.toInt) :: stepsFrom y ys

theorem sum_stepsFrom (x : Int16) (xs : List Int16) :
    (stepsFrom x xs).sum = (xs.getLastD x).toInt - x.toInt := by
  induction xs generalizing x with
  | nil => rw [stepsFrom, List.sum_nil, List.getLastD_nil, sub_self]
  | cons y ys ih =>
      rw [stepsFrom, List.sum_cons, ih, List.getLastD_cons]
      omega

/-- The units that the steps turn by. -/
def turnedBy (steps : List ℤ) : ℤ := (steps.map TouchYawAdapter.turned).sum

theorem turnedBy_add_dropped (steps : List ℤ) :
    5 * turnedBy steps + (steps.map droppedFifths).sum = 1024 * steps.sum := by
  rw [turnedBy]
  induction steps with
  | nil => rfl
  | cons d ds ih =>
      have here := turned_add_dropped d
      rw [List.map_cons, List.map_cons, List.sum_cons, List.sum_cons, List.sum_cons]
      omega

/-- All targets on the way are angles. -/
def TargetsFit (units : ℤ) : List ℤ → Prop
  | [] => True
  | d :: ds => Fits64 (units + TouchYawAdapter.turned d) ∧
      TargetsFit (units + TouchYawAdapter.turned d) ds

instance decidableTargetsFit : ∀ (units : ℤ) (steps : List ℤ), Decidable (TargetsFit units steps)
  | _, [] => isTrue trivial
  | units, d :: ds =>
      have := decidableTargetsFit (units + TouchYawAdapter.turned d) ds
      inferInstanceAs (Decidable (_ ∧ _))

theorem TargetsFit.last {units : ℤ} {steps : List ℤ} (all : TargetsFit units steps)
    (fits : Fits64 units) : Fits64 (units + turnedBy steps) := by
  induction steps generalizing units with
  | nil => rwa [turnedBy, List.map_nil, List.sum_nil, add_zero]
  | cons d ds ih =>
      have rest := ih all.2 all.1
      rw [turnedBy, List.map_cons, List.sum_cons, ← add_assoc]
      exact rest

namespace TouchYawAdapter

/-- Samples with the finger on the screen. -/
def drag (self : TouchYawAdapter) (xs : List Int16) : Option TouchYawAdapter :=
  xs.foldlM (fun adapter x => adapter.sample x true) self

section Drag

variable {self : TouchYawAdapter} {x : Int16}

theorem sample_held (held : self.lastX = some x) (y : Int16) : self.sample y true =
    (checked64 (self.target.units.toInt + turned (y.toInt - x.toInt))).map
      fun units => ⟨⟨units⟩, some y⟩ := by
  rw [sample, held]
  rfl

/-- A drag goes on while its targets fit, and turns by its steps. -/
theorem drag_held (held : self.lastX = some x) (xs : List Int16) :
    (TargetsFit self.target.units.toInt (stepsFrom x xs) ∧
      self.drag xs = some ⟨⟨.ofInt (self.target.units.toInt + turnedBy (stepsFrom x xs))⟩,
        some (xs.getLastD x)⟩) ∨
    (¬TargetsFit self.target.units.toInt (stepsFrom x xs) ∧ self.drag xs = none) := by
  induction xs generalizing self x with
  | nil =>
      obtain ⟨⟨units⟩, last⟩ := self
      obtain rfl : last = some x := held
      refine Or.inl ⟨trivial, ?_⟩
      rw [stepsFrom, turnedBy, List.map_nil, List.sum_nil, add_zero, Int64.ofInt_toInt]
      rfl
  | cons y ys ih =>
      rw [stepsFrom, TargetsFit, drag, List.foldlM_cons, sample_held held]
      by_cases fits : Fits64 (self.target.units.toInt + turned (y.toInt - x.toInt))
      · have next := ih (show lastX ⟨⟨.ofInt (self.target.units.toInt +
          turned (y.toInt - x.toInt))⟩, some y⟩ = some y from rfl)
        rw [toInt_ofInt64 fits] at next
        rw [checked64_of_fits fits]
        refine next.imp (fun ⟨rest, ran⟩ => ⟨⟨fits, rest⟩, ?_⟩) fun ⟨beyond, stuck⟩ =>
          ⟨fun ⟨_, rest⟩ => beyond rest, stuck⟩
        rw [turnedBy, List.map_cons, List.sum_cons, ← add_assoc, List.getLastD_cons]
        exact ran
      · rw [checked64_eq_none.mpr fits]
        exact Or.inr ⟨fun ⟨here, _⟩ => fits here, rfl⟩

end Drag

/-- **When a drag turns by what its ends say.** It does exactly when its targets fit and the
parts that its steps drop add up to the part that one step from the first to the last sample
would drop. -/
theorem drag_iff {adapter : TouchYawAdapter} (released : adapter.lastX = none) (first : Int16)
    (rest : List Int16) :
    (∃ moved, adapter.drag (first :: rest) = some moved ∧
      moved.target.units.toInt - adapter.target.units.toInt =
        turned ((rest.getLastD first).toInt - first.toInt)) ↔
    TargetsFit adapter.target.units.toInt (stepsFrom first rest) ∧
      ((stepsFrom first rest).map droppedFifths).sum =
        droppedFifths ((rest.getLastD first).toInt - first.toInt) := by
  have begun : adapter.drag (first :: rest) =
      drag { adapter with lastX := some first } rest := by
    rw [drag, List.foldlM_cons, sample, released]
    rfl
  have sum := turnedBy_add_dropped (stepsFrom first rest)
  have one := turned_add_dropped ((rest.getLastD first).toInt - first.toInt)
  rw [sum_stepsFrom] at sum
  rw [begun]
  have held : lastX { adapter with lastX := some first } = some first := rfl
  rcases drag_held held rest with ⟨fit, ran⟩ | ⟨beyond, stuck⟩
  · rw [ran]
    dsimp only at fit ⊢
    constructor
    · rintro ⟨moved, is, change⟩
      cases is
      rw [toInt_ofInt64 (fit.last (fits64_toInt _)), add_sub_cancel_left] at change
      exact ⟨fit, by omega⟩
    · rintro ⟨-, balanced⟩
      refine ⟨_, rfl, ?_⟩
      rw [toInt_ofInt64 (fit.last (fits64_toInt _)), add_sub_cancel_left]
      omega
  · rw [stuck]
    constructor
    · rintro ⟨moved, absurdity, -⟩
      cases absurdity
    · rintro ⟨fit, -⟩
      exact absurd fit beyond

/-- A drag of 320 pixels in four steps is one turn. -/
theorem drag_iff_turn : ∃ moved, drag (.new ⟨0⟩) [0, 85, 160, 235, 320] = some moved ∧
    moved.target.units.toInt = 65536 := by
  obtain ⟨moved, ran, change⟩ :=
    (drag_iff (show (TouchYawAdapter.new ⟨0⟩).lastX = none from rfl) 0 [85, 160, 235, 320]).mpr
      ⟨by decide, by decide⟩
  refine ⟨moved, ran, ?_⟩
  have turn : turned ((([85, 160, 235, 320] : List Int16).getLastD 0).toInt -
      (0 : Int16).toInt) = 65536 := by decide
  have began : (TouchYawAdapter.new ⟨0⟩).target.units.toInt = 0 := by decide
  rwa [turn, began, sub_zero] at change

/-- Two pixels to the right and one by one back again leave the target one unit further. -/
theorem drag_depends_on_samples : ¬∀ (adapter : TouchYawAdapter) (first : Int16)
    (rest other : List Int16), adapter.lastX = none →
      rest.getLastD first = other.getLastD first →
        (adapter.drag (first :: rest)).map (·.target) =
          (adapter.drag (first :: other)).map (·.target) := by
  intro same
  have forward : (drag (.new ⟨0⟩) [0, 2, 1, 0]).map (·.target) = some ⟨1⟩ := by decide
  have still : (drag (.new ⟨0⟩) [0]).map (·.target) = some ⟨0⟩ := by decide
  have equal := same (.new ⟨0⟩) 0 [2, 1, 0] [] rfl rfl
  rw [forward, still] at equal
  exact absurd equal (by decide)

end TouchYawAdapter

end Deskkin.Presentation
