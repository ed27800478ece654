/-
# The refresh cycle of a running application

A runtime drives a running application around one cycle: read, arm the refresh
timer, wait, read again. Each input of the cycle is accepted while the
availability feature stands at its place, and asks for the next effect. The
lemmas below are what a runtime may rely on at each place.
-/

import Deskkin.Application.Composition

namespace Deskkin

open Application

namespace AvailabilityFeature

/-- A transition of the feature that was applied is reported with its effect. -/
theorem transition_of_apply {self next : AvailabilityFeature} {input : Availability.Input}
    {effect : Option Availability.Effect} (applied : self.apply input = .ok (effect, next)) :
    self.transition input = .ok (next.report effect, next) := by
  simp [transition, applied, publish]

theorem apply_readCompleted {self : AvailabilityFeature} {id : LocalEffectId}
    (reading : self.state = .reading id) (left : self.nextEffectId < Checked.u64Max)
    (result : Except Availability.ReadError Availability.Availability) :
    self.apply (.readCompleted ⟨id, result⟩) =
      .ok (some ⟨⟨self.nextEffectId + 1, by omega⟩, .armRefreshTimer Availability.refreshDelayMs⟩,
        ⟨.armingRefresh ⟨self.nextEffectId + 1, by omega⟩, surfaceOf result,
          self.nextEffectId + 1⟩) := by
  have allocated : allocateId Availability.TransitionError.effectIdentityExhausted
      self.nextEffectId = .ok ⟨self.nextEffectId + 1, by omega⟩ := by
    rw [allocateId_eq_ok_iff]
    exact ⟨rfl, left⟩
  simp [apply, reading, ensureId, allocate, allocated, pure, Except.pure]

theorem apply_refreshDue {self : AvailabilityFeature} {id : LocalEffectId}
    (waiting : self.state = .waiting id) (left : self.nextEffectId < Checked.u64Max) :
    self.apply (.refreshDue ⟨id⟩) =
      .ok (some ⟨⟨self.nextEffectId + 1, by omega⟩, .readAvailability⟩,
        ⟨.reading ⟨self.nextEffectId + 1, by omega⟩, self.surface, self.nextEffectId + 1⟩) := by
  have allocated : allocateId Availability.TransitionError.effectIdentityExhausted
      self.nextEffectId = .ok ⟨self.nextEffectId + 1, by omega⟩ := by
    rw [allocateId_eq_ok_iff]
    exact ⟨rfl, left⟩
  simp [apply, waiting, ensureId, allocate, allocated, pure, Except.pure]

theorem apply_timerArmed {self : AvailabilityFeature} {id : LocalEffectId}
    (arming : self.state = .armingRefresh id) :
    self.apply (.timerArmCompleted ⟨id, .ok ()⟩) =
      .ok (none, { self with state := .waiting id }) := by
  simp [apply, arming, ensureId, pure, Except.pure]

end AvailabilityFeature

/-- An idle notice feature is left alone when the session is lost. -/
theorem SyntheticNoticeFeature.lifecycle_sessionInvalidated {self : SyntheticNoticeFeature}
    (idle : self.state = .idle) :
    self.lifecycle .sessionInvalidated = .ok (⟨.idle, none, none⟩, self) := by
  cases self with
  | mk state nextEffectId =>
      cases show state = .idle from idle
      rfl

namespace Application

/-- How one input of the cycle moves a running application: the availability
feature goes to `state` and has allocated `used` identities, and the notice
feature stays as it was. -/
structure Cycles (before next : Application) (state : Availability.State) (used : ℕ) : Prop where
  running : next.state = .running
  notice : next.syntheticNotice = before.syntheticNotice
  state : next.availability.state = state
  ids : next.availability.nextEffectId = before.availability.nextEffectId + used

variable {self : Application} {id : LocalEffectId}

/-- An availability input the feature applies is accepted by a running
application, with the feature's effect as the only effect. -/
theorem transition_availability (running : self.state = .running)
    {input : Availability.Input} (addressed : availabilityInputId input = id)
    {effect : Option Availability.Effect} {availability : AvailabilityFeature}
    (applied : self.availability.apply input = .ok (effect, availability)) :
    ∃ result next,
      self.transition (.availabilityEffect ⟨.availability, id⟩ input) = .ok (result, next) ∧
        result.effects.get 0 = effect.map wrapAvailability ∧
        next.state = .running ∧ next.syntheticNotice = self.syntheticNotice ∧
        next.availability = availability := by
  have moved := AvailabilityFeature.transition_of_apply applied
  let candidate : Application := { self with availability }
  cases effect with
  | none =>
      refine ⟨⟨candidate.currentViews, EffectBatch.new⟩,
        { candidate with view := candidate.currentViews }, ?_, rfl, running, rfl, rfl⟩
      simp [transition, apply, guardRunning, running, validateEffectInput, addressed, moved,
        singleAvailabilityEffect, EffectBatch.pushOption, AvailabilityFeature.report, pure,
        Except.pure, candidate]
  | some emitted =>
      refine ⟨⟨candidate.currentViews, ⟨[wrapAvailability emitted], by simp [featureCount]⟩⟩,
        { candidate with view := candidate.currentViews }, ?_, rfl, running, rfl, rfl⟩
      simp [transition, apply, guardRunning, running, validateEffectInput, addressed, moved,
        singleAvailabilityEffect, EffectBatch.pushOption, EffectBatch.push, EffectBatch.new,
        featureCount, AvailabilityFeature.report, pure, Except.pure, candidate]

/-- The timer of a running application at its place in the cycle. -/
def timerEffect (id : LocalEffectId) : Effect :=
  ⟨⟨.availability, id⟩, .availability (.armRefreshTimer Availability.refreshDelayMs)⟩

def readEffect (id : LocalEffectId) : Effect :=
  ⟨⟨.availability, id⟩, .availability .readAvailability⟩

variable (running : self.state = .running)
include running

theorem transition_readCompleted (reading : self.availability.state = .reading id)
    (left : self.availability.nextEffectId < Checked.u64Max)
    (result : Except Availability.ReadError Availability.Availability) :
    ∃ reported next timer,
      self.transition (.availabilityEffect ⟨.availability, id⟩ (.readCompleted ⟨id, result⟩)) =
          .ok (reported, next) ∧
        reported.effects.get 0 = some (timerEffect timer) ∧
        Cycles self next (.armingRefresh timer) 1 := by
  obtain ⟨reported, next, accepted, effect, state, notice, availability⟩ :=
    transition_availability running rfl
      (AvailabilityFeature.apply_readCompleted reading left result)
  exact ⟨reported, next, _, accepted, effect, state, notice, by rw [availability],
    by rw [availability]⟩

theorem transition_timerArmed (arming : self.availability.state = .armingRefresh id) :
    ∃ reported next,
      self.transition (.availabilityEffect ⟨.availability, id⟩ (.timerArmCompleted ⟨id, .ok ()⟩)) =
          .ok (reported, next) ∧
        Cycles self next (.waiting id) 0 := by
  obtain ⟨reported, next, accepted, _, state, notice, availability⟩ :=
    transition_availability running rfl (AvailabilityFeature.apply_timerArmed arming)
  exact ⟨reported, next, accepted, state, notice, by rw [availability], by rw [availability]; rfl⟩

theorem transition_refreshDue (waiting : self.availability.state = .waiting id)
    (left : self.availability.nextEffectId < Checked.u64Max) :
    ∃ reported next read,
      self.transition (.availabilityEffect ⟨.availability, id⟩ (.refreshDue ⟨id⟩)) =
          .ok (reported, next) ∧
        reported.effects.get 0 = some (readEffect read) ∧
        Cycles self next (.reading read) 1 := by
  obtain ⟨reported, next, accepted, effect, state, notice, availability⟩ :=
    transition_availability running rfl (AvailabilityFeature.apply_refreshDue waiting left)
  exact ⟨reported, next, _, accepted, effect, state, notice, by rw [availability],
    by rw [availability]⟩

/-- Losing the session while the feature waits asks for nothing. -/
theorem transition_invalidated_waiting (idle : self.syntheticNotice.state = .idle)
    (waiting : self.availability.state = .waiting id) :
    ∃ reported next,
      self.transition (.lifecycle .sessionInvalidated) = .ok (reported, next) ∧
        reported.effects.get 0 = none ∧ Cycles self next (.waiting id) 0 := by
  let candidate : Application :=
    { self with availability := { self.availability with surface := .unknown } }
  refine ⟨⟨candidate.currentViews, EffectBatch.new⟩,
    { candidate with view := candidate.currentViews }, ?_, rfl, running, rfl, waiting, rfl⟩
  have notice := SyntheticNoticeFeature.lifecycle_sessionInvalidated idle
  simp [transition, apply, applyLifecycle, guardLifecycle, running, stateAfter,
    AvailabilityFeature.lifecycle, AvailabilityFeature.applyLifecycle,
    AvailabilityFeature.invalidate, waiting, publish, AvailabilityFeature.report,
    EffectBatch.pushOption, notice, pure, Except.pure, candidate]

/-- Losing the session while the feature reads ends the read and asks for the
timer. -/
theorem transition_invalidated_reading (idle : self.syntheticNotice.state = .idle)
    (reading : self.availability.state = .reading id)
    (left : self.availability.nextEffectId < Checked.u64Max) :
    ∃ reported next timer,
      self.transition (.lifecycle .sessionInvalidated) = .ok (reported, next) ∧
        reported.effects.get 0 = some (timerEffect timer) ∧
        Cycles self next (.armingRefresh timer) 1 := by
  have completed := AvailabilityFeature.apply_readCompleted reading left (.error .unavailable)
  let timer : LocalEffectId := ⟨self.availability.nextEffectId + 1, by omega⟩
  let candidate : Application :=
    { self with availability := ⟨.armingRefresh timer, .unknown,
                                self.availability.nextEffectId + 1⟩ }
  refine ⟨⟨candidate.currentViews, ⟨[timerEffect timer], by simp [featureCount]⟩⟩,
    { candidate with view := candidate.currentViews }, timer, ?_, rfl, running, rfl, rfl, rfl⟩
  have notice := SyntheticNoticeFeature.lifecycle_sessionInvalidated idle
  simp [transition, apply, applyLifecycle, guardLifecycle, running, stateAfter,
    AvailabilityFeature.lifecycle, AvailabilityFeature.applyLifecycle,
    AvailabilityFeature.invalidate, reading, completed, publish, AvailabilityFeature.report,
    AvailabilityFeature.surfaceOf, EffectBatch.pushOption, EffectBatch.push, EffectBatch.new,
    featureCount, notice, pure, Except.pure, candidate, wrapAvailability, timerEffect, timer]

end Application

end Deskkin
