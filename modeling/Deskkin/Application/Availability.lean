/-
# The availability feature

The feature reads availability, waits five seconds and reads again. It performs
nothing itself: it emits one effect at a time and is driven by the completions
of its effects. Each operation works on a copy and publishes it only when it
succeeds, so here an operation returns the new feature, or an error alone.
-/

import Deskkin.Application.Core

namespace Deskkin

namespace Availability

def refreshDelayMs : ℕ := 5000

set_option linter.dupNamespace false in
inductive Availability
  | available
  | unavailable
  deriving DecidableEq

inductive Surface
  | unknown
  | available
  | unavailable
  deriving DecidableEq

inductive EffectRequest
  | readAvailability
  | armRefreshTimer (delayMs : ℕ)
  deriving DecidableEq

structure Effect where
  id : LocalEffectId
  request : EffectRequest
  deriving DecidableEq

inductive ReadError
  | unavailable
  deriving DecidableEq

inductive TimerArmError
  | unavailable
  deriving DecidableEq

structure ReadCompleted where
  effectId : LocalEffectId
  result : Except ReadError Availability
  deriving DecidableEq

structure TimerArmCompleted where
  effectId : LocalEffectId
  result : Except TimerArmError Unit
  deriving DecidableEq

structure RefreshDue where
  effectId : LocalEffectId
  deriving DecidableEq

inductive Input
  | readCompleted (completion : ReadCompleted)
  | timerArmCompleted (completion : TimerArmCompleted)
  | refreshDue (due : RefreshDue)
  deriving DecidableEq

inductive State
  | stopped
  | reading (effectId : LocalEffectId)
  | armingRefresh (effectId : LocalEffectId)
  | waiting (effectId : LocalEffectId)
  deriving DecidableEq

inductive TransitionError
  | alreadyStarted
  | notStarted
  | unexpectedInput
  | effectIdentityMismatch (expected actual : LocalEffectId)
  | effectIdentityExhausted
  deriving DecidableEq

structure Transition where
  state : State
  surface : Option Surface
  effect : Option Effect
  deriving DecidableEq

end Availability

open Availability

structure AvailabilityFeature where
  state : Availability.State
  surface : Availability.Surface
  nextEffectId : ℕ
  deriving DecidableEq

namespace AvailabilityFeature

def new : AvailabilityFeature where
  state := .stopped
  surface := .unknown
  nextEffectId := 0

/-- A stopped feature shows nothing. -/
def surface? (self : AvailabilityFeature) : Option Availability.Surface :=
  match self.state with
  | .stopped => none
  | _ => some self.surface

def ensureId (expected actual : LocalEffectId) : Except TransitionError Unit :=
  Deskkin.ensureId .effectIdentityMismatch expected actual

def allocate (self : AvailabilityFeature) (request : EffectRequest) :
    Except TransitionError (Effect × AvailabilityFeature) := do
  let id ← allocateId .effectIdentityExhausted self.nextEffectId
  return (⟨id, request⟩, { self with nextEffectId := id.get })

/-- What a completed read shows. -/
def surfaceOf : Except ReadError Availability.Availability → Availability.Surface
  | .ok .available => .available
  | .ok .unavailable => .unavailable
  | .error .unavailable => .unknown

def apply (self : AvailabilityFeature) (input : Input) :
    Except TransitionError (Option Effect × AvailabilityFeature) :=
  match self.state, input with
  | .reading effectId, .readCompleted completion => do
      ensureId effectId completion.effectId
      let shown := { self with surface := surfaceOf completion.result }
      let (effect, allocated) ← shown.allocate (.armRefreshTimer refreshDelayMs)
      return (some effect, { allocated with state := .armingRefresh effect.id })
  | .armingRefresh effectId, .timerArmCompleted completion => do
      ensureId effectId completion.effectId
      match completion.result with
      | .ok () => return (none, { self with state := .waiting effectId })
      | .error .unavailable =>
          return (none, { self with state := .stopped, surface := .unknown })
  | .waiting effectId, .refreshDue due => do
      ensureId effectId due.effectId
      let (effect, allocated) ← self.allocate .readAvailability
      return (some effect, { allocated with state := .reading effect.id })
  | _, _ => .error .unexpectedInput

/-- Losing the session fails a read in progress and hides the last result. -/
def invalidate (self : AvailabilityFeature) :
    Except TransitionError (Option Effect × AvailabilityFeature) :=
  match self.state with
  | .stopped => .ok (none, self)
  | .reading effectId => self.apply (.readCompleted ⟨effectId, .error .unavailable⟩)
  | .armingRefresh _ | .waiting _ => .ok (none, { self with surface := .unknown })

def applyLifecycle (self : AvailabilityFeature) (lifecycle : Lifecycle) :
    Except TransitionError (Option Effect × AvailabilityFeature) :=
  match lifecycle, self.state with
  | .start, .stopped => do
      let shown := { self with surface := .unknown }
      let (effect, allocated) ← shown.allocate .readAvailability
      return (some effect, { allocated with state := .reading effect.id })
  | .start, _ => .error .alreadyStarted
  | .stop, .stopped => .error .notStarted
  | .stop, _ => .ok (none, { self with state := .stopped, surface := .unknown })
  | .sessionInvalidated, .stopped => .ok (none, self)
  | .sessionInvalidated, _ => self.invalidate

/-- What a successful operation tells its caller. -/
def report (self : AvailabilityFeature) (effect : Option Effect) : Availability.Transition :=
  ⟨self.state, self.surface?, effect⟩

def lifecycle (self : AvailabilityFeature) (event : Lifecycle) :
    Except TransitionError (Availability.Transition × AvailabilityFeature) :=
  publish report (self.applyLifecycle event)

def transition (self : AvailabilityFeature) (input : Input) :
    Except TransitionError (Availability.Transition × AvailabilityFeature) :=
  publish report (self.apply input)

/-! ## What each operation can do -/

variable {self next : AvailabilityFeature} {effect : Option Effect}

/-- An allocation takes the next identity and changes nothing else. -/
theorem allocate_eq_ok_iff {request : EffectRequest} {effect : Effect} :
    self.allocate request = .ok (effect, next) ↔
      effect.request = request ∧ effect.id.get = self.nextEffectId + 1 ∧
        self.nextEffectId < Checked.u64Max ∧
        next = { self with nextEffectId := self.nextEffectId + 1 } := by
  simp only [allocate, Fallible.bind_eq_ok_iff, Fallible.pure_eq_ok_iff, allocateId_eq_ok_iff,
    Prod.mk.injEq]
  constructor
  · rintro ⟨id, ⟨value, left⟩, rfl, rfl⟩
    exact ⟨rfl, value, left, by rw [value]⟩
  · rintro ⟨rfl, value, left, rfl⟩
    exact ⟨effect.id, ⟨value, left⟩, rfl, by rw [value]⟩

/-- The accepted inputs, one case for each way an input can be accepted. A
refused timer arm is the only input that takes a running feature to rest. -/
theorem apply_cases {input : Input} (accepted : self.apply input = .ok (effect, next)) :
    (∃ id result emitted, self.state = .reading id ∧ input = .readCompleted ⟨id, result⟩ ∧
        effect = some emitted ∧ emitted.request = .armRefreshTimer refreshDelayMs ∧
        emitted.id.get = self.nextEffectId + 1 ∧
        next = ⟨.armingRefresh emitted.id, surfaceOf result, self.nextEffectId + 1⟩) ∨
      (∃ id, self.state = .armingRefresh id ∧ input = .timerArmCompleted ⟨id, .ok ()⟩ ∧
        effect = none ∧ next = { self with state := .waiting id }) ∨
      (∃ id, self.state = .armingRefresh id ∧
        input = .timerArmCompleted ⟨id, .error .unavailable⟩ ∧
        effect = none ∧ next = { self with state := .stopped, surface := .unknown }) ∨
      (∃ id emitted, self.state = .waiting id ∧ input = .refreshDue ⟨id⟩ ∧
        effect = some emitted ∧ emitted.request = .readAvailability ∧
        emitted.id.get = self.nextEffectId + 1 ∧
        next = ⟨.reading emitted.id, self.surface, self.nextEffectId + 1⟩) := by
  unfold apply at accepted
  split at accepted
  · rename_i id completion state
    simp only [ensureId, Fallible.bind_eq_ok_iff, ensureId_eq_ok_iff, Fallible.pure_eq_ok_iff,
      Prod.mk.injEq, Prod.exists, allocate_eq_ok_iff] at accepted
    obtain ⟨-, rfl, emitted, allocated, ⟨request, value, -, rfl⟩, rfl, rfl⟩ := accepted
    exact .inl
      ⟨completion.effectId, completion.result, emitted, state, rfl, rfl, request, value, rfl⟩
  · rename_i id completion state
    simp only [ensureId, Fallible.bind_eq_ok_iff, ensureId_eq_ok_iff] at accepted
    obtain ⟨-, rfl, accepted⟩ := accepted
    obtain ⟨id, result⟩ := completion
    cases result with
    | ok done =>
        cases accepted
        exact .inr (.inl ⟨id, state, rfl, rfl, rfl⟩)
    | error refused =>
        cases refused
        cases accepted
        exact .inr (.inr (.inl ⟨id, state, rfl, rfl, rfl⟩))
  · rename_i id due state
    simp only [ensureId, Fallible.bind_eq_ok_iff, ensureId_eq_ok_iff, Fallible.pure_eq_ok_iff,
      Prod.mk.injEq, Prod.exists, allocate_eq_ok_iff] at accepted
    obtain ⟨-, rfl, emitted, allocated, ⟨request, value, -, rfl⟩, rfl, rfl⟩ := accepted
    exact .inr (.inr (.inr ⟨due.effectId, emitted, state, rfl, rfl, request, value, rfl⟩))
  · cases accepted

/-- The accepted lifecycle events. Losing the session answers a read in progress as
failed, and this alone makes such an event ask for something. -/
theorem applyLifecycle_cases {event : Lifecycle}
    (accepted : self.applyLifecycle event = .ok (effect, next)) :
    (∃ emitted, event = .start ∧ self.state = .stopped ∧ effect = some emitted ∧
        emitted.request = .readAvailability ∧ emitted.id.get = self.nextEffectId + 1 ∧
        next = ⟨.reading emitted.id, .unknown, self.nextEffectId + 1⟩) ∨
      (event = .stop ∧ self.state ≠ .stopped ∧ effect = none ∧
        next = { self with state := .stopped, surface := .unknown }) ∨
      (∃ id emitted, event = .sessionInvalidated ∧ self.state = .reading id ∧
        effect = some emitted ∧ emitted.request = .armRefreshTimer refreshDelayMs ∧
        emitted.id.get = self.nextEffectId + 1 ∧
        next = ⟨.armingRefresh emitted.id, .unknown, self.nextEffectId + 1⟩) ∨
      (∃ surface, event = .sessionInvalidated ∧ effect = none ∧
        next = { self with surface := surface }) := by
  cases event with
  | start =>
      cases state : self.state <;> simp only [applyLifecycle, state] at accepted
      case stopped =>
        simp only [Fallible.bind_eq_ok_iff, Fallible.pure_eq_ok_iff, Prod.mk.injEq,
          Prod.exists, allocate_eq_ok_iff] at accepted
        obtain ⟨emitted, allocated, ⟨request, value, -, rfl⟩, rfl, rfl⟩ := accepted
        exact .inl ⟨emitted, rfl, rfl, rfl, request, value, rfl⟩
      all_goals cases accepted
  | stop =>
      cases state : self.state <;> simp only [applyLifecycle, state] at accepted
      case stopped => cases accepted
      all_goals
        cases accepted
        exact .inr (.inl ⟨rfl, by simp, rfl, rfl⟩)
  | sessionInvalidated =>
      cases state : self.state <;> simp only [applyLifecycle, invalidate, state] at accepted
      case reading id =>
        rcases apply_cases accepted with h | h | h | h
        · obtain ⟨_, _, emitted, _, asked, rfl, request, value, rfl⟩ := h
          cases asked
          exact .inr (.inr (.inl ⟨id, emitted, rfl, rfl, rfl, request, value, rfl⟩))
        all_goals
          obtain ⟨_, h⟩ := h
          simp [state] at h
      all_goals
        cases accepted
        exact .inr (.inr (.inr ⟨_, rfl, rfl, by rw [← state]⟩))

end AvailabilityFeature

end Deskkin
