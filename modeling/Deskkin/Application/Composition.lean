/-
# The composed application

The application registers the two features, broadcasts lifecycle events to both
in a fixed order and routes each effect completion to the feature that asked for
it. It keeps a run flag of its own beside the states of the features, and the
views are recomputed after every accepted input.
-/

import Deskkin.Application.Availability
import Deskkin.Application.SyntheticNotice
import Deskkin.Lib.Runs

namespace Deskkin.Application

def featureCount : ℕ := 2

inductive FeatureId
  | availability
  | syntheticNotice
  deriving DecidableEq

structure ApplicationEffectId where
  feature : FeatureId
  localId : LocalEffectId
  deriving DecidableEq

inductive EffectRequest
  | availability (request : Availability.EffectRequest)
  | syntheticNotice (request : SyntheticNotice.EffectRequest)
  deriving DecidableEq

structure Effect where
  id : ApplicationEffectId
  request : EffectRequest
  deriving DecidableEq

structure Board (α : Type*) where
  content : α
  isFocused : Bool
  deriving DecidableEq

namespace Board

variable {α : Type*}

def focused (content : α) : Board α := ⟨content, true⟩

def unfocused (content : α) : Board α := ⟨content, false⟩

end Board

structure ApplicationViews where
  availability : Option (Board Availability.Surface)
  syntheticNotice : Option (Board SyntheticNotice.NoticeKind)
  deriving DecidableEq

def ApplicationViews.empty : ApplicationViews := ⟨none, none⟩

inductive ApplicationInput
  | lifecycle (event : Lifecycle)
  | availabilityEffect (id : ApplicationEffectId) (input : Availability.Input)
  | syntheticNoticeCommand (command : SyntheticNotice.Command)
  | syntheticNoticeEffect (id : ApplicationEffectId) (input : SyntheticNotice.Input)
  deriving DecidableEq

inductive TransitionError
  | alreadyStarted
  | notStarted
  | availabilityRejected (error : Availability.TransitionError)
  | syntheticNoticeRejected (error : SyntheticNotice.TransitionError)
  | effectFeatureMismatch (expected actual : FeatureId)
  | effectIdentityMismatch (expected actual : LocalEffectId)
  | unexpectedEffectInput
  | effectBatchExhausted
  deriving DecidableEq

/-- The effects of one transition, at most one for each feature. -/
structure EffectBatch where
  items : List Effect
  bounded : items.length ≤ featureCount
  deriving DecidableEq

namespace EffectBatch

def new : EffectBatch := ⟨[], by simp⟩

def get (self : EffectBatch) (index : ℕ) : Option Effect := self.items[index]?

def push (self : EffectBatch) (effect : Effect) : Except TransitionError EffectBatch :=
  if room : self.items.length < featureCount then
    .ok ⟨self.items ++ [effect], by simpa [Nat.succ_le_iff] using room⟩
  else
    .error .effectBatchExhausted

/-- Push an effect that may be absent. -/
def pushOption (self : EffectBatch) : Option Effect → Except TransitionError EffectBatch
  | none => .ok self
  | some effect => self.push effect

end EffectBatch

structure Transition where
  view : ApplicationViews
  effects : EffectBatch
  deriving DecidableEq

def validateEffectInput (id : ApplicationEffectId) (expectedFeature : FeatureId)
    (inputId : LocalEffectId) : Except TransitionError Unit :=
  if id.feature ≠ expectedFeature then
    .error (.effectFeatureMismatch expectedFeature id.feature)
  else if id.localId ≠ inputId then
    .error (.effectIdentityMismatch id.localId inputId)
  else
    .ok ()

/-- An effect input is valid when it is tagged with the feature that asked for
the effect and carries one identity throughout. -/
@[simp]
theorem validateEffectInput_eq_ok_iff {id : ApplicationEffectId} {feature : FeatureId}
    {inputId : LocalEffectId} {u : Unit} :
    validateEffectInput id feature inputId = .ok u ↔ id = ⟨feature, inputId⟩ := by
  obtain ⟨actual, localId⟩ := id
  by_cases tag : actual = feature
  · by_cases same : localId = inputId
    · simp [validateEffectInput, tag, same]
    · simp [validateEffectInput, tag, same]
  · simp [validateEffectInput, tag]

def availabilityInputId : Availability.Input → LocalEffectId
  | .readCompleted completion => completion.effectId
  | .timerArmCompleted completion => completion.effectId
  | .refreshDue due => due.effectId

def syntheticNoticeInputId : SyntheticNotice.Input → Except TransitionError LocalEffectId
  | .timerArmCompleted completion => .ok completion.effectId
  | .expiryDue due => .ok due.effectId
  | .command _ => .error .unexpectedEffectInput

def wrapAvailability (effect : Availability.Effect) : Effect :=
  ⟨⟨.availability, effect.id⟩, .availability effect.request⟩

def wrapNotice (effect : SyntheticNotice.Effect) : Effect :=
  ⟨⟨.syntheticNotice, effect.id⟩, .syntheticNotice effect.request⟩

def singleAvailabilityEffect (effect : Option Availability.Effect) :
    Except TransitionError EffectBatch :=
  EffectBatch.new.pushOption (effect.map wrapAvailability)

def singleNoticeEffect (effect : Option SyntheticNotice.Effect) :
    Except TransitionError EffectBatch :=
  EffectBatch.new.pushOption (effect.map wrapNotice)

end Deskkin.Application

namespace Deskkin

open Application

inductive ApplicationState
  | stopped
  | running
  deriving DecidableEq

structure Application where
  state : ApplicationState
  availability : AvailabilityFeature
  syntheticNotice : SyntheticNoticeFeature
  view : ApplicationViews
  deriving DecidableEq

namespace Application

def new : Application where
  state := .stopped
  availability := AvailabilityFeature.new
  syntheticNotice := SyntheticNoticeFeature.new
  view := ApplicationViews.empty

def currentViews (self : Application) : ApplicationViews :=
  let notice := self.syntheticNotice.surface?.map SyntheticNotice.Surface.kind
  { availability := self.availability.surface?.map fun surface =>
      if notice.isSome then Board.unfocused surface else Board.focused surface
    syntheticNotice := notice.map Board.focused }

/-- The wrapper's own check of a lifecycle event against its run flag. -/
def guardLifecycle (self : Application) (lifecycle : Lifecycle) : Except TransitionError Unit :=
  match self.state, lifecycle with
  | .running, .start => .error .alreadyStarted
  | .stopped, .stop => .error .notStarted
  | _, _ => .ok ()

def stateAfter (self : Application) : Lifecycle → ApplicationState
  | .start => .running
  | .sessionInvalidated => self.state
  | .stop => .stopped

def applyLifecycle (self : Application) (lifecycle : Lifecycle) :
    Except TransitionError (EffectBatch × Application) := do
  self.guardLifecycle lifecycle
  let (availabilityTransition, availability) ←
    (self.availability.lifecycle lifecycle).mapError .availabilityRejected
  let effects ← EffectBatch.new.pushOption (availabilityTransition.effect.map wrapAvailability)
  let (noticeTransition, syntheticNotice) ←
    (self.syntheticNotice.lifecycle lifecycle).mapError .syntheticNoticeRejected
  let effects ← effects.pushOption (noticeTransition.effect.map wrapNotice)
  return (effects, { self with availability, syntheticNotice, state := self.stateAfter lifecycle })

def guardRunning (self : Application) : Except TransitionError Unit :=
  match self.state with
  | .stopped => .error .notStarted
  | .running => .ok ()

@[simp]
theorem guardRunning_eq_ok_iff {self : Application} {u : Unit} :
    self.guardRunning = .ok u ↔ self.state = .running := by
  cases state : self.state <;> simp [guardRunning, state]

def apply (self : Application) (input : ApplicationInput) :
    Except TransitionError (EffectBatch × Application) :=
  match input with
  | .lifecycle lifecycle => self.applyLifecycle lifecycle
  | .availabilityEffect id input => do
      self.guardRunning
      validateEffectInput id .availability (availabilityInputId input)
      let (transition, availability) ←
        (self.availability.transition input).mapError .availabilityRejected
      let effects ← singleAvailabilityEffect transition.effect
      return (effects, { self with availability })
  | .syntheticNoticeCommand command => do
      self.guardRunning
      let (transition, syntheticNotice) ←
        (self.syntheticNotice.transition (.command command)).mapError .syntheticNoticeRejected
      let effects ← singleNoticeEffect transition.effect
      return (effects, { self with syntheticNotice })
  | .syntheticNoticeEffect id input => do
      self.guardRunning
      let inputId ← syntheticNoticeInputId input
      validateEffectInput id .syntheticNotice inputId
      let (transition, syntheticNotice) ←
        (self.syntheticNotice.transition input).mapError .syntheticNoticeRejected
      let effects ← singleNoticeEffect transition.effect
      return (effects, { self with syntheticNotice })

/-- Apply one input to a copy; publish the copy with fresh views on success. -/
def transition (self : Application) (input : ApplicationInput) :
    Except TransitionError (Transition × Application) := do
  let (effects, candidate) ← self.apply input
  let published := { candidate with view := candidate.currentViews }
  return (⟨published.view, effects⟩, published)

/-- The application after one call, accepted or rejected. -/
def after (self : Application) (input : ApplicationInput) : Application :=
  match self.transition input with
  | .ok (_, next) => next
  | .error _ => self

/-- Any sequence of calls on a new application. -/
def machine : StepSystem Application ApplicationInput where
  Initial application := application = new
  step application input := some (application.after input)

end Application

end Deskkin
