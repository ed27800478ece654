/-
# Stopping and restarting

A running application should always accept `stop` and then `start`. The run flag
of the wrapper and the states of the features have to agree for that. The
notice feature never breaks the agreement: it falls back to idle when its timer
cannot be armed. The availability feature does break it: a refused refresh timer
takes it to rest while the wrapper goes on running, and from then on the wrapper
rejects `start` and the feature rejects `stop`.

The main result is exact. At the end of every run the application can be stopped
and restarted if and only if no refresh timer was refused on the way.
-/

import Deskkin.Application.Composition

namespace Deskkin

open Application

/-- How an accepted lifecycle event moves a feature between rest and work. -/
def MovesAs (event : Lifecycle) (restBefore restAfter : Prop) : Prop :=
  match event with
  | .start => restBefore ∧ ¬ restAfter
  | .stop => ¬ restBefore ∧ restAfter
  | .sessionInvalidated => restAfter ↔ restBefore

/-! ## Lifecycle events in the availability feature -/

namespace AvailabilityFeature

variable {self next : AvailabilityFeature} {transition : Availability.Transition}

theorem applyLifecycle_moves {event : Lifecycle} {effect : Option Availability.Effect}
    (accepted : self.applyLifecycle event = .ok (effect, next)) :
    MovesAs event (self.state = .stopped) (next.state = .stopped) := by
  rcases applyLifecycle_cases accepted with h | h | h | h
  · obtain ⟨emitted, rfl, state, -, -, -, rfl⟩ := h
    simp [MovesAs, state]
  · obtain ⟨rfl, active, -, rfl⟩ := h
    simp [MovesAs, active]
  · obtain ⟨id, emitted, rfl, state, -, -, -, rfl⟩ := h
    simp [MovesAs, state]
  · obtain ⟨surface, rfl, -, rfl⟩ := h
    simp [MovesAs]

theorem lifecycle_moves {event : Lifecycle}
    (accepted : self.lifecycle event = .ok (transition, next)) :
    MovesAs event (self.state = .stopped) (next.state = .stopped) := by
  obtain ⟨effect, applied, -⟩ := publish_eq_ok_iff.mp accepted
  exact applyLifecycle_moves applied

/-- A feature that is not at rest accepts stop and emits nothing. -/
theorem lifecycle_stop {self : AvailabilityFeature} (active : self.state ≠ .stopped) :
    self.lifecycle .stop = .ok (⟨.stopped, none, none⟩,
      { self with state := .stopped, surface := .unknown }) := by
  cases state : self.state
  case stopped => exact absurd state active
  all_goals simp [lifecycle, applyLifecycle, state, publish, report, surface?]

/-- At rest, stop is rejected. -/
theorem lifecycle_stop_of_stopped {self : AvailabilityFeature} (rest : self.state = .stopped) :
    self.lifecycle .stop = .error .notStarted := by
  simp [lifecycle, applyLifecycle, rest, publish]

/-- A feature at rest accepts start and asks for a read, while identities last. -/
theorem lifecycle_start {self : AvailabilityFeature} (rest : self.state = .stopped)
    (left : self.nextEffectId < Checked.u64Max) :
    ∃ (effect : Availability.Effect) (next : AvailabilityFeature),
      self.lifecycle .start = .ok (next.report effect, next) ∧
        effect.request = .readAvailability ∧ effect.id.get = self.nextEffectId + 1 := by
  let effect : Availability.Effect := ⟨⟨self.nextEffectId + 1, by omega⟩, .readAvailability⟩
  have allocated : ({ self with state := .stopped, surface := .unknown } :
      AvailabilityFeature).allocate .readAvailability =
        .ok (effect, ⟨.stopped, .unknown, self.nextEffectId + 1⟩) := by
    rw [allocate_eq_ok_iff]
    exact ⟨rfl, rfl, left, rfl⟩
  refine ⟨effect, ⟨.reading effect.id, .unknown, self.nextEffectId + 1⟩, ?_, rfl, rfl⟩
  rw [lifecycle, publish_eq_ok_iff]
  refine ⟨some effect, ?_, rfl⟩
  simp only [applyLifecycle, rest]
  rw [allocated]
  rfl

/-- Among the accepted inputs only a refused timer arm ends in rest. -/
theorem transition_stopped_iff {input : Availability.Input}
    (accepted : self.transition input = .ok (transition, next)) :
    self.state ≠ .stopped ∧
      (next.state = .stopped ↔ ∃ id, self.state = .armingRefresh id ∧
        input = .timerArmCompleted ⟨id, .error .unavailable⟩) := by
  obtain ⟨effect, applied, -⟩ := publish_eq_ok_iff.mp accepted
  rcases apply_cases applied with h | h | h | h
  · obtain ⟨id, result, emitted, state, rfl, -, -, -, rfl⟩ := h
    simp [state]
  · obtain ⟨id, state, rfl, -, rfl⟩ := h
    simp [state]
  · obtain ⟨id, state, rfl, -, rfl⟩ := h
    simp [state]
  · obtain ⟨id, emitted, state, rfl, -, -, -, rfl⟩ := h
    simp [state]

end AvailabilityFeature

/-! ## Lifecycle events in the notice feature -/

namespace SyntheticNoticeFeature

variable {transition : SyntheticNotice.Transition} {self next : SyntheticNoticeFeature}

theorem lifecycle_moves {event : Lifecycle}
    (accepted : self.lifecycle event = .ok (transition, next)) :
    MovesAs event (self.state = .stopped) (next.state = .stopped) := by
  obtain ⟨effect, applied, -⟩ := publish_eq_ok_iff.mp accepted
  cases event <;> cases state : self.state <;>
    simp only [applyLifecycle, state] at applied <;> cases applied <;> simp [MovesAs, state]

/-- A notice feature that runs accepts stop. -/
theorem lifecycle_stop {self : SyntheticNoticeFeature} (active : self.state ≠ .stopped) :
    self.lifecycle .stop = .ok (⟨.stopped, none, none⟩, { self with state := .stopped }) := by
  cases state : self.state
  case stopped => exact absurd state active
  all_goals simp [lifecycle, applyLifecycle, state, publish, report, surface?]

/-- A notice feature at rest accepts start. -/
theorem lifecycle_start {self : SyntheticNoticeFeature} (rest : self.state = .stopped) :
    self.lifecycle .start = .ok (⟨.idle, none, none⟩, { self with state := .idle }) := by
  simp [lifecycle, applyLifecycle, rest, publish, report, surface?]

theorem transition_ne_stopped {input : SyntheticNotice.Input}
    (accepted : self.transition input = .ok (transition, next)) :
    self.state ≠ .stopped ∧ next.state ≠ .stopped := by
  obtain ⟨effect, applied, -⟩ := publish_eq_ok_iff.mp accepted
  exact apply_ne_stopped applied

end SyntheticNoticeFeature

/-! ## Accepted calls of the composition -/

namespace Application

variable {input : ApplicationInput} {self : Application}

/-- Every accepted call is a lifecycle event both features accepted, or an input
one feature accepted while the wrapper was running; nothing else moves. -/
theorem transition_cases {self next : Application} {result : Transition}
    (accepted : self.transition input = .ok (result, next)) :
    (∃ event availability notice availabilityNext noticeNext,
        input = .lifecycle event ∧ self.guardLifecycle event = .ok () ∧
        self.availability.lifecycle event = .ok (availability, availabilityNext) ∧
        self.syntheticNotice.lifecycle event = .ok (notice, noticeNext) ∧
        next.state = self.stateAfter event ∧ next.availability = availabilityNext ∧
        next.syntheticNotice = noticeNext) ∨
      (∃ id availabilityInput availability,
        input = .availabilityEffect id availabilityInput ∧ self.state = .running ∧
        id = ⟨.availability, availabilityInputId availabilityInput⟩ ∧
        self.availability.transition availabilityInput = .ok (availability, next.availability) ∧
        next.state = .running ∧ next.syntheticNotice = self.syntheticNotice) ∨
      (∃ noticeInput notice, self.state = .running ∧ (∀ event, input ≠ .lifecycle event) ∧
        (∀ id availabilityInput, input ≠ .availabilityEffect id availabilityInput) ∧
        self.syntheticNotice.transition noticeInput = .ok (notice, next.syntheticNotice) ∧
        next.state = .running ∧ next.availability = self.availability) := by
  simp only [transition, Fallible.bind_eq_ok_iff, Fallible.pure_eq_ok_iff, Prod.mk.injEq,
    Prod.exists] at accepted
  obtain ⟨effects, candidate, applied, -, rfl⟩ := accepted
  cases input with
  | lifecycle event =>
      simp only [apply, applyLifecycle, Fallible.bind_eq_ok_iff, Fallible.pure_eq_ok_iff,
        Fallible.mapError_eq_ok_iff, Prod.mk.injEq, Prod.exists] at applied
      obtain ⟨_, allowed, availability, availabilityNext, moved, _, _, notice, noticeNext,
        noticeMoved, _, _, _, rfl⟩ := applied
      exact .inl ⟨event, availability, notice, availabilityNext, noticeNext, rfl, allowed,
        moved, noticeMoved, rfl, rfl, rfl⟩
  | availabilityEffect id availabilityInput =>
      simp only [apply, Fallible.bind_eq_ok_iff, Fallible.pure_eq_ok_iff,
        Fallible.mapError_eq_ok_iff, Prod.mk.injEq, Prod.exists] at applied
      obtain ⟨_, isRunning, _, valid, availability, availabilityNext, moved, _, _, _, rfl⟩ :=
        applied
      have running := guardRunning_eq_ok_iff.mp isRunning
      exact .inr (.inl ⟨id, availabilityInput, availability, rfl, running,
        validateEffectInput_eq_ok_iff.mp valid, moved, running, rfl⟩)
  | syntheticNoticeCommand command =>
      simp only [apply, Fallible.bind_eq_ok_iff, Fallible.pure_eq_ok_iff,
        Fallible.mapError_eq_ok_iff, Prod.mk.injEq, Prod.exists] at applied
      obtain ⟨_, isRunning, notice, noticeNext, moved, _, _, _, rfl⟩ := applied
      have running := guardRunning_eq_ok_iff.mp isRunning
      exact .inr (.inr ⟨.command command, notice, running, by simp, by simp, moved, running, rfl⟩)
  | syntheticNoticeEffect id noticeInput =>
      simp only [apply, Fallible.bind_eq_ok_iff, Fallible.pure_eq_ok_iff,
        Fallible.mapError_eq_ok_iff, Prod.mk.injEq, Prod.exists] at applied
      obtain ⟨_, isRunning, _, _, _, _, notice, noticeNext, moved, _, _, _, rfl⟩ := applied
      have running := guardRunning_eq_ok_iff.mp isRunning
      exact .inr (.inr ⟨noticeInput, notice, running, by simp, by simp, moved, running, rfl⟩)

/-- The notice feature works exactly while the wrapper runs, and the availability
feature never works while the wrapper is stopped. Every reachable state has
this; what it leaves open is an availability feature at rest in a running
application. -/
structure Coherent (app : Application) : Prop where
  notice : app.state = .running ↔ app.syntheticNotice.state ≠ .stopped
  availability : app.availability.state ≠ .stopped → app.state = .running

/-- The availability feature works while the wrapper runs. -/
def Alive (self : Application) : Prop :=
  self.state = .running → self.availability.state ≠ .stopped

/-- The next input reports that the refresh timer the availability feature is
waiting for could not be armed. -/
def RefusesArm (self : Application) (input : ApplicationInput) : Prop :=
  ∃ id, self.state = .running ∧ self.availability.state = .armingRefresh id ∧
    input = .availabilityEffect ⟨.availability, id⟩ (.timerArmCompleted ⟨id, .error .unavailable⟩)

theorem coherent_new : Coherent new :=
  ⟨by simp [new, SyntheticNoticeFeature.new], by simp [new, AvailabilityFeature.new]⟩

/-- One accepted call keeps coherence, and it keeps the availability feature
alive unless it refuses an arm. -/
theorem Coherent.transition {self next : Application} {result : Transition}
    (coherent : Coherent self) (accepted : self.transition input = .ok (result, next)) :
    Coherent next ∧ (Alive next ↔ Alive self ∧ ¬ RefusesArm self input) := by
  rcases transition_cases accepted with h | h | h
  · -- A lifecycle event moves both features and the run flag together.
    obtain ⟨event, _, _, _, _, rfl, allowed, moved, noticeMoved, state, rfl, rfl⟩ := h
    have availabilityMoves := AvailabilityFeature.lifecycle_moves moved
    have noticeMoves := SyntheticNoticeFeature.lifecycle_moves noticeMoved
    have noRefusal : ¬ RefusesArm self (.lifecycle event) := by
      intro refusal
      obtain ⟨_, _, _, impossible⟩ := refusal
      cases impossible
    have notice := coherent.notice
    have availability := coherent.availability
    cases event with
    | start =>
        obtain ⟨rest, works⟩ := availabilityMoves
        obtain ⟨noticeRest, noticeWorks⟩ := noticeMoves
        have stopped : self.state ≠ .running := fun running => notice.mp running noticeRest
        refine ⟨⟨?_, ?_⟩, ?_⟩
        · simp [state, stateAfter, noticeWorks]
        · simp [state, stateAfter]
        · simp [Alive, works, stopped, noRefusal]
    | stop =>
        obtain ⟨works, rest⟩ := availabilityMoves
        obtain ⟨noticeWorks, noticeRest⟩ := noticeMoves
        refine ⟨⟨?_, ?_⟩, ?_⟩
        · simp [state, stateAfter, noticeRest]
        · simp [rest]
        · simp [Alive, state, stateAfter, works, noRefusal]
    | sessionInvalidated =>
        have sameRest : next.availability.state = .stopped ↔ self.availability.state = .stopped :=
          availabilityMoves
        have sameNotice : next.syntheticNotice.state = .stopped ↔
            self.syntheticNotice.state = .stopped := noticeMoves
        refine ⟨⟨?_, ?_⟩, ?_⟩
        · rw [state, stateAfter, notice]
          exact not_congr sameNotice.symm
        · rw [state, stateAfter, Ne, sameRest]
          exact availability
        · simp [Alive, state, stateAfter, sameRest, noRefusal]
  · -- Only a completion of the availability feature can take it to rest.
    obtain ⟨id, input, _, rfl, running, rfl, moved, state, sameNotice⟩ := h
    obtain ⟨works, rest⟩ := AvailabilityFeature.transition_stopped_iff moved
    refine ⟨⟨?_, fun _ => state⟩, ?_⟩
    · rw [state, sameNotice, ← coherent.notice, running]
    · have refusal : RefusesArm self (.availabilityEffect
          ⟨.availability, availabilityInputId input⟩ input) ↔
            next.availability.state = .stopped := by
        rw [rest]
        refine ⟨?_, ?_⟩
        · intro h
          obtain ⟨id, _, arming, same⟩ := h
          simp only [ApplicationInput.availabilityEffect.injEq] at same
          exact ⟨id, arming, same.2⟩
        · intro h
          obtain ⟨id, arming, rfl⟩ := h
          exact ⟨id, running, arming, rfl⟩
      simp [Alive, state, running, works, refusal]
  · -- A notice input leaves the availability feature alone.
    obtain ⟨noticeInput, _, running, -, notAvailability, moved, state, same⟩ := h
    obtain ⟨-, noticeWorks⟩ := SyntheticNoticeFeature.transition_ne_stopped moved
    have noRefusal : ¬ RefusesArm self input := by
      intro refusal
      obtain ⟨_, _, _, impossible⟩ := refusal
      exact notAvailability _ _ impossible
    refine ⟨⟨?_, fun _ => state⟩, ?_⟩
    · simp [state, noticeWorks]
    · simp [Alive, state, running, same, noRefusal]

/-- A refused arm is an accepted call, so a rejected one refuses nothing. -/
theorem RefusesArm.accepted (refusal : RefusesArm self input) :
    ∃ result, self.transition input = .ok result := by
  obtain ⟨id, running, arming, rfl⟩ := refusal
  simp [transition, apply, guardRunning, running, validateEffectInput, availabilityInputId,
    AvailabilityFeature.transition, AvailabilityFeature.apply, arming,
    AvailabilityFeature.ensureId, publish, singleAvailabilityEffect, EffectBatch.pushOption,
    AvailabilityFeature.report]

/-- One call, accepted or rejected. -/
theorem Coherent.after (coherent : Coherent self) (input : ApplicationInput) :
    Coherent (self.after input) ∧
      (Alive (self.after input) ↔ Alive self ∧ ¬ RefusesArm self input) := by
  cases outcome : self.transition input with
  | ok value =>
      obtain ⟨result, next⟩ := value
      have same : self.after input = next := by simp [Application.after, outcome]
      rw [same]
      exact coherent.transition outcome
  | error error =>
      have same : self.after input = self := by simp [Application.after, outcome]
      have noRefusal : ¬ RefusesArm self input := by
        intro refusal
        obtain ⟨value, accepted⟩ := refusal.accepted
        rw [outcome] at accepted
        cases accepted
      rw [same]
      exact ⟨coherent, by simp [noRefusal]⟩

/-! ## Stop and start at the end of a run -/

/-- Stop is accepted and leaves both views absent; start is accepted after it
and asks for a read under an identity beyond every earlier one. -/
def StopsAndRestarts (self : Application) : Prop :=
  ∃ stopping stopped, self.transition (.lifecycle .stop) = .ok (stopping, stopped) ∧
    stopping.view = ApplicationViews.empty ∧ stopped.view = ApplicationViews.empty ∧
    ∃ starting restarted effect,
      stopped.transition (.lifecycle .start) = .ok (starting, restarted) ∧
      effect ∈ starting.effects.items ∧
      effect.request = .availability .readAvailability ∧
      effect.id.feature = .availability ∧
      effect.id.localId.get = self.availability.nextEffectId + 1

/-- A running application whose features agree with it accepts stop. -/
theorem transition_stop (coherent : Coherent self) (running : self.state = .running)
    (alive : Alive self) :
    self.transition (.lifecycle .stop) = .ok (⟨ApplicationViews.empty, EffectBatch.new⟩,
      ⟨.stopped, { self.availability with state := .stopped, surface := .unknown },
        { self.syntheticNotice with state := .stopped }, ApplicationViews.empty⟩) := by
  have availabilityStops := AvailabilityFeature.lifecycle_stop (alive running)
  have noticeStops := SyntheticNoticeFeature.lifecycle_stop (coherent.notice.mp running)
  simp [transition, apply, applyLifecycle, guardLifecycle, running, availabilityStops,
    noticeStops, EffectBatch.pushOption, stateAfter, currentViews, ApplicationViews.empty,
    AvailabilityFeature.surface?, SyntheticNoticeFeature.surface?, pure, Except.pure]

/-- A stopped application whose features rest accepts start and asks for a read. -/
theorem transition_start (stopped : self.state = .stopped)
    (rest : self.availability.state = .stopped) (noticeRest : self.syntheticNotice.state = .stopped)
    (left : self.availability.nextEffectId < Checked.u64Max) :
    ∃ starting restarted effect,
      self.transition (.lifecycle .start) = .ok (starting, restarted) ∧
        effect ∈ starting.effects.items ∧ effect.request = .availability .readAvailability ∧
        effect.id.feature = .availability ∧
        effect.id.localId.get = self.availability.nextEffectId + 1 := by
  obtain ⟨effect, availability, availabilityStarts, request, value⟩ :=
    AvailabilityFeature.lifecycle_start rest left
  have noticeStarts := SyntheticNoticeFeature.lifecycle_start noticeRest
  let candidate : Application :=
    { self with availability, syntheticNotice := { self.syntheticNotice with state := .idle },
                state := .running }
  refine ⟨⟨candidate.currentViews, ⟨[wrapAvailability effect], by simp [featureCount]⟩⟩,
    { candidate with view := candidate.currentViews }, wrapAvailability effect, ?_, by simp, ?_,
    rfl, value⟩
  · simp [transition, apply, applyLifecycle, guardLifecycle, stopped, availabilityStarts,
      noticeStarts, EffectBatch.pushOption, EffectBatch.push, EffectBatch.new, stateAfter,
      AvailabilityFeature.report, featureCount, pure, Except.pure, candidate]
  · simp [wrapAvailability, request]

theorem stopsAndRestarts_of_alive (coherent : Coherent self) (running : self.state = .running)
    (alive : Alive self) (left : self.availability.nextEffectId < Checked.u64Max) :
    StopsAndRestarts self := by
  refine ⟨_, _, transition_stop coherent running alive, rfl, rfl, ?_⟩
  exact transition_start rfl rfl rfl left

/-- With the availability feature at rest, a running application rejects stop. -/
theorem not_stopsAndRestarts_of_rest (rest : self.availability.state = .stopped) :
    ¬ StopsAndRestarts self := by
  intro stops
  obtain ⟨_, _, accepted, _⟩ := stops
  rcases transition_cases accepted with h | h | h
  · obtain ⟨event, _, _, _, _, same, _, moved, _⟩ := h
    cases same
    rw [AvailabilityFeature.lifecycle_stop_of_stopped rest] at moved
    cases moved
  · obtain ⟨_, _, _, same, _⟩ := h
    cases same
  · obtain ⟨_, _, _, notLifecycle, _⟩ := h
    exact notLifecycle .stop rfl

theorem stopsAndRestarts_iff_alive (coherent : Coherent self) (running : self.state = .running)
    (left : self.availability.nextEffectId < Checked.u64Max) :
    StopsAndRestarts self ↔ Alive self := by
  refine ⟨?_, fun alive => stopsAndRestarts_of_alive coherent running alive left⟩
  intro stops _ rest
  exact not_stopsAndRestarts_of_rest rest stops

/-- **Stop and restart.** At the end of a run that leaves the application running,
with effect identities left, stop and start are accepted if and only if no call
of the run refused a refresh timer the availability feature was waiting for. -/
theorem stopsAndRestarts_iff_no_refused_arm {past : List (Application × ApplicationInput)}
    {self : Application} (run : machine.Run past self) (running : self.state = .running)
    (left : self.availability.nextEffectId < Checked.u64Max) :
    StopsAndRestarts self ↔
      StepSystem.Guarded (fun before input => ¬ RefusesArm before input) past := by
  have initial : ∀ app, machine.Initial app → Coherent app ∧ Alive app := by
    intro app start
    have same : app = new := start
    rw [same]
    exact ⟨coherent_new, by simp [Alive, new]⟩
  have coherent_step : ∀ app input next, Coherent app → machine.step app input = some next →
      Coherent next := by
    intro app input next coherent moved
    cases moved
    exact (coherent.after input).1
  have alive_step : ∀ app input next, Coherent app → machine.step app input = some next →
      (Alive next ↔ Alive app ∧ ¬ RefusesArm app input) := by
    intro app input next coherent moved
    cases moved
    exact (coherent.after input).2
  have coherent : Coherent self :=
    StepSystem.Reachable.invariant (fun app start => (initial app start).1) coherent_step
      ⟨past, run⟩
  rw [stopsAndRestarts_iff_alive coherent running left]
  exact run.holds_iff_guarded initial coherent_step alive_step

/-- The calls of a session up to its first refresh timer. -/
def firstRead : List ApplicationInput :=
  [.lifecycle .start,
   .availabilityEffect ⟨.availability, ⟨1, by simp⟩⟩
    (.readCompleted ⟨⟨1, by simp⟩, .ok .available⟩)]

/-- The answer of a runtime to the request for the first refresh timer. -/
def firstArm (result : Except Availability.TimerArmError Unit) : ApplicationInput :=
  .availabilityEffect ⟨.availability, ⟨2, by simp⟩⟩ (.timerArmCompleted ⟨⟨2, by simp⟩, result⟩)

theorem stopsAndRestarts_after_first_arm :
    ∃ past self, machine.Run past self ∧ self.state = .running ∧
      (StopsAndRestarts self ↔
        StepSystem.Guarded (fun before input => ¬ RefusesArm before input) past) := by
  obtain ⟨past, run, -⟩ := (StepSystem.Run.start rfl : machine.Run [] new).exists_of_execute
    (firstRead ++ [firstArm (.ok ())]) rfl
  exact ⟨past, _, run, rfl, stopsAndRestarts_iff_no_refused_arm run rfl (by decide)⟩

/-- After one refused refresh timer a running application rejects stop and rejects
start, so nothing can restart it. -/
theorem refused_arm_blocks_stop :
    ∃ past self, machine.Run past self ∧ self.state = .running ∧
      self.availability.nextEffectId < Checked.u64Max ∧ ¬ StopsAndRestarts self ∧
      self.transition (.lifecycle .stop) =
        .error (.availabilityRejected .notStarted) ∧
      self.transition (.lifecycle .start) = .error .alreadyStarted := by
  obtain ⟨past, run, -⟩ := (StepSystem.Run.start rfl : machine.Run [] new).exists_of_execute
    (firstRead ++ [firstArm (.error .unavailable)]) rfl
  exact ⟨past, _, run, rfl, by decide, not_stopsAndRestarts_of_rest rfl, rfl, rfl⟩

end Application

end Deskkin
