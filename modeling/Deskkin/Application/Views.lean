/-
# The view of the application

The application keeps the view it last published beside the two features the
view is made of. The features change only in a copy that is published together
with its view, so in every reachable state the stored view is the one the
features give. A notice takes the focus while it is shown, otherwise the
availability board has it. Losing the session clears both contents and leaves
the refresh cycle going: a timer stays valid, and a read turns into one timer.
-/

import Deskkin.Application.EffectIdentity
import Deskkin.Application.Refresh

namespace Deskkin

open Application

/-! ## Lost sessions in the features -/

namespace AvailabilityFeature

/-- What a feature shows does not matter for what it accepts. -/
theorem apply_surface_ok_iff (self : AvailabilityFeature) (surface : Availability.Surface)
    (input : Availability.Input) :
    (∃ result, ({ self with surface } : AvailabilityFeature).apply input = .ok result) ↔
      ∃ result, self.apply input = .ok result := by
  cases self with
  | mk state shown ids =>
      cases state <;> cases input <;>
        simp only [apply, allocate, Fallible.bind_eq_ok_iff, Fallible.pure_eq_ok_iff,
          Prod.exists, Prod.mk.injEq]
      case armingRefresh.timerArmCompleted id completion =>
        cases completion with
        | mk effectId result =>
            cases result with
            | ok done => simp
            | error refused => cases refused; simp
      case waiting.refreshDue id due =>
        cases allocateId Availability.TransitionError.effectIdentityExhausted ids <;> simp

/-- A lost session hides the content of a working feature. A timer is kept as it
was, and a read is replaced by a new timer. -/
theorem invalidated_cases {self next : AvailabilityFeature} {effect : Option Availability.Effect}
    (accepted : self.applyLifecycle .sessionInvalidated = .ok (effect, next)) :
    (self.state = .stopped ∧ effect = none ∧ next = self) ∨
      (∃ id emitted, self.state = .reading id ∧ effect = some emitted ∧
        emitted.request = .armRefreshTimer Availability.refreshDelayMs ∧
        emitted.id.get = self.nextEffectId + 1 ∧
        next = ⟨.armingRefresh emitted.id, .unknown, self.nextEffectId + 1⟩) ∨
      (∃ id completion, self.outstanding = some (id, completion) ∧ completion ≠ .read ∧
        effect = none ∧ next = { self with surface := .unknown }) := by
  cases state : self.state <;> simp only [applyLifecycle, invalidate, state] at accepted
  case stopped =>
    cases accepted
    exact .inl ⟨rfl, rfl, rfl⟩
  case reading id =>
    rcases apply_cases accepted with h | h | h | h
    · obtain ⟨_, _, emitted, reading, same, rfl, request, value, rfl⟩ := h
      cases same
      exact .inr (.inl ⟨id, emitted, rfl, rfl, request, value, rfl⟩)
    all_goals
      obtain ⟨_, h⟩ := h
      simp [state] at h
  case armingRefresh id =>
    cases accepted
    exact .inr (.inr ⟨id, .arm, by simp [outstanding, state], by simp, rfl, by simp⟩)
  case waiting id =>
    cases accepted
    exact .inr (.inr ⟨id, .due, by simp [outstanding, state], by simp, rfl, by simp⟩)

end AvailabilityFeature

theorem SyntheticNoticeFeature.surface_of_invalidated {self next : SyntheticNoticeFeature}
    {effect : Option SyntheticNotice.Effect}
    (accepted : self.applyLifecycle .sessionInvalidated = .ok (effect, next)) :
    effect = none ∧ next.surface? = none := by
  cases state : self.state <;> simp only [applyLifecycle, state] at accepted <;> cases accepted <;>
    simp [surface?, state]

namespace Application

/-! ## The published view -/

/-- The focus of each board that is present. -/
def ApplicationViews.focus (view : ApplicationViews) : List Bool :=
  (view.availability.map Board.isFocused).toList ++
    (view.syntheticNotice.map Board.isFocused).toList

/-- At most one board is focused, one is whenever any is present, and a notice
that is present is the focused one. -/
structure ApplicationViews.Focused (view : ApplicationViews) : Prop where
  atMostOne : view.focus.count true ≤ 1
  exactlyOne : view.focus ≠ [] → view.focus.count true = 1
  notice : ∀ board, view.syntheticNotice = some board → board.isFocused = true

/-- The views of any features are focused. -/
theorem currentViews_focused (self : Application) : self.currentViews.Focused := by
  cases shown : self.syntheticNotice.surface? <;> cases surface : self.availability.surface? <;>
    constructor <;>
      simp [currentViews, ApplicationViews.focus, shown, surface, Board.focused, Board.unfocused]

/-- The stored view is the one the features give. -/
def ViewCurrent (self : Application) : Prop := self.view = self.currentViews

theorem viewCurrent_new : ViewCurrent new := rfl

variable {self next : Application} {result : Transition}

/-- An accepted call publishes the view of the features it leaves. -/
theorem viewCurrent_of_transition {input : ApplicationInput}
    (accepted : self.transition input = .ok (result, next)) :
    ViewCurrent next ∧ result.view = next.view := by
  simp only [transition, Fallible.bind_eq_ok_iff, Fallible.pure_eq_ok_iff, Prod.mk.injEq,
    Prod.exists] at accepted
  obtain ⟨effects, candidate, -, rfl, rfl⟩ := accepted
  exact ⟨rfl, rfl⟩

theorem ViewCurrent.after {self : Application} (current : ViewCurrent self)
    (input : ApplicationInput) : ViewCurrent (self.after input) := by
  cases outcome : self.transition input with
  | ok value =>
      have published := (viewCurrent_of_transition outcome).1
      simpa [Application.after, outcome] using published
  | error error => simpa [Application.after, outcome] using current

/-! ## Lost sessions -/

/-- An availability input is accepted by a running application that routes it and
whose feature accepts it. -/
theorem accepts_availabilityEffect_iff {self : Application} {id : ApplicationEffectId}
    {input : Availability.Input} :
    self.Accepts (.availabilityEffect id input) ↔
      self.state = .running ∧ id = ⟨.availability, availabilityInputId input⟩ ∧
        ∃ result, self.availability.apply input = .ok result := by
  constructor
  · intro accepted
    obtain ⟨⟨result, next⟩, accepted⟩ := accepted
    simp only [transition, apply, AvailabilityFeature.transition, Fallible.bind_eq_ok_iff,
      validateEffectInput_eq_ok_iff, guardRunning_eq_ok_iff, Fallible.mapError_eq_ok_iff,
      Prod.exists] at accepted
    obtain ⟨_, _, ⟨_, running, _, tag, _, _, applied, -⟩, -⟩ := accepted
    obtain ⟨effect, applied, -⟩ := publish_eq_ok_iff.mp applied
    exact ⟨running, tag, _, applied⟩
  · intro routed
    obtain ⟨running, rfl, ⟨effect, next⟩, applied⟩ := routed
    obtain ⟨result, published, accepted, -⟩ := transition_availability running rfl applied
    exact ⟨_, accepted⟩

/-- What a lost session leaves behind. -/
structure Invalidated (before : Application) (result : Transition) (next : Application) :
    Prop where
  published : result.view = next.view
  availability : next.view.availability.map Board.content =
    if before.availability.state = .stopped then none else some .unknown
  notice : next.view.syntheticNotice = none
  timer : ∀ id completion, before.outstanding .availability = some (id, completion) →
    completion ≠ .read → result.effects.items = [] ∧
      next.outstanding .availability = some (id, completion) ∧
      ∀ tag input, next.Accepts (.availabilityEffect tag input) ↔
        before.Accepts (.availabilityEffect tag input)
  read : ∀ id, before.outstanding .availability = some (id, .read) →
    ∃ timer, result.effects.items = [timerEffect timer] ∧
      timer.get = before.availability.nextEffectId + 1 ∧
      next.outstanding .availability = some (timer, .arm)

section

variable (accepted : self.transition (.lifecycle .sessionInvalidated) = .ok (result, next))
include accepted

/-- An accepted loss of the session is the loss in both features. -/
theorem invalidated_parts :
    ∃ effect, self.availability.applyLifecycle .sessionInvalidated =
        .ok (effect, next.availability) ∧
      result.effects.items = (effect.map wrapAvailability).toList ∧
      next.syntheticNotice.surface? = none ∧ next.state = self.state := by
  simp only [transition, apply, applyLifecycle, Fallible.bind_eq_ok_iff, Fallible.pure_eq_ok_iff,
    Fallible.mapError_eq_ok_iff, Prod.mk.injEq, Prod.exists] at accepted
  obtain ⟨effects, _, ⟨_, -, asked, availability, moved, first, pushed, noticed, notice,
    noticeMoved, both, bothPushed, rfl, rfl⟩, rfl, rfl⟩ := accepted
  obtain ⟨asking, applied, rfl⟩ := publish_eq_ok_iff.mp moved
  obtain ⟨noticing, noticeApplied, rfl⟩ := publish_eq_ok_iff.mp noticeMoved
  obtain ⟨rfl, hidden⟩ := SyntheticNoticeFeature.surface_of_invalidated noticeApplied
  refine ⟨asking, applied, ?_, hidden, rfl⟩
  show both.items = _
  rw [EffectBatch.pushOption_items bothPushed, EffectBatch.pushOption_items pushed]
  simp [EffectBatch.new, AvailabilityFeature.report, SyntheticNoticeFeature.report]

theorem invalidated_of_transition : Invalidated self result next := by
  obtain ⟨current, published⟩ := viewCurrent_of_transition accepted
  obtain ⟨effect, applied, items, hidden, state⟩ := invalidated_parts accepted
  have availability : next.view.availability.map Board.content = next.availability.surface? := by
    rw [current]
    simp [currentViews, hidden, Board.focused, Function.comp_def]
  have notice : next.view.syntheticNotice = none := by
    rw [current]
    simp [currentViews, hidden]
  rcases AvailabilityFeature.invalidated_cases applied with h | h | h
  · obtain ⟨rest, rfl, same⟩ := h
    have nothing : self.outstanding .availability = none := by
      simp [outstanding, AvailabilityFeature.outstanding, rest]
    refine ⟨published, ?_, notice, ?_, ?_⟩
    · rw [availability, same, if_pos rest]
      simp [AvailabilityFeature.surface?, rest]
    · simp [nothing]
    · simp [nothing]
  · obtain ⟨id, emitted, reading, rfl, request, value, same⟩ := h
    have awaited : self.outstanding .availability = some (id, .read) := by
      simp [outstanding, AvailabilityFeature.outstanding, reading]
    refine ⟨published, ?_, notice, ?_, ?_⟩
    · rw [availability, same, if_neg (by simp [reading])]
      rfl
    · intro other completion here notRead
      rw [awaited] at here
      cases here
      exact absurd rfl notRead
    · intro other _
      refine ⟨emitted.id, ?_, value, ?_⟩
      · rw [items]
        simp [wrapAvailability, timerEffect, request]
      · simp [outstanding, AvailabilityFeature.outstanding, same]
  · obtain ⟨id, completion, awaited, notRead, rfl, same⟩ := h
    have works : self.availability.state ≠ .stopped := by
      intro rest
      simp [AvailabilityFeature.outstanding, rest] at awaited
    have kept : next.availability.outstanding = some (id, completion) := by
      rw [same, ← awaited]
      rfl
    refine ⟨published, ?_, notice, ?_, ?_⟩
    · rw [availability, same, if_neg works]
      cases rest : self.availability.state <;>
        simp_all [AvailabilityFeature.surface?]
    · intro other stage here _
      cases awaited.symm.trans here
      refine ⟨by simpa using items, kept, ?_⟩
      intro tag input
      rw [accepts_availabilityEffect_iff, accepts_availabilityEffect_iff, state, same,
        AvailabilityFeature.apply_surface_ok_iff]
    · intro other here
      cases awaited.symm.trans here
      exact absurd rfl notRead

end

/-- **The view.** In every reachable state the stored view is the one the features
give and has its focus right, and a lost session that is accepted there clears
both contents and keeps the refresh cycle going. -/
theorem view_current_and_invalidated {self : Application} (reachable : machine.Reachable self) :
    self.view = self.currentViews ∧ self.view.Focused ∧
      ∀ result next, self.transition (.lifecycle .sessionInvalidated) = .ok (result, next) →
        Invalidated self result next := by
  have current : ViewCurrent self := by
    apply reachable.invariant
    · rintro application rfl
      exact viewCurrent_new
    · intro before input after current moved
      cases moved
      exact current.after input
  have focused : self.view.Focused := by
    rw [current]
    exact self.currentViews_focused
  exact ⟨current, focused, fun _ _ accepted => invalidated_of_transition accepted⟩

/-- A notice over a read: the notice has the focus, and losing the session turns
the read into the second effect. -/
theorem view_current_with_notice :
    let shown := (new.after (.lifecycle .start)).after
      (.syntheticNoticeCommand (.show .compositionCheck))
    shown.view = shown.currentViews ∧ shown.view.Focused ∧
      ∀ result next, shown.transition (.lifecycle .sessionInvalidated) = .ok (result, next) →
        Invalidated shown result next := by
  intro shown
  have reachable : machine.Reachable shown :=
    ⟨_, ((StepSystem.Run.start rfl).step rfl).step rfl⟩
  exact view_current_and_invalidated reachable

end Application

end Deskkin
