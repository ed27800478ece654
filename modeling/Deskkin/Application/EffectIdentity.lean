/-
# Effect identity and exactly-once routing

Seen from outside, a feature numbers its effects and waits for one answer at a
time. A read has one answer. A timer has two: first whether it was armed, then,
under the same identity, that it is due. Each accepted call moves both features
as numbered requests are allowed to move, so the general facts about such
requests hold of every sequence of calls on the application: the identities of a
feature increase across stops, starts and lost sessions, only the awaited answer
to its last effect is accepted, and no answer is accepted twice.
-/

import Deskkin.Application.Composition
import Deskkin.Lib.Tickets

namespace Deskkin

open Application

/-- Which answer to an effect an input brings. -/
inductive Completion
  | read
  | arm
  | due
  deriving DecidableEq

namespace Completion

/-- A timer that was armed comes due under the same identity. -/
def Later : Completion → Completion → Prop
  | .arm, .due => True
  | _, _ => False

instance : IsStrictOrder Completion Later where
  irrefl := by
    intro completion
    cases completion <;> exact id
  trans := by
    intro early middle late
    cases early <;> cases middle <;> cases late <;> simp [Later]

end Completion

/-- What is awaited, with its identity as a number. -/
def numbered (awaited : LocalEffectId × Completion) : ℕ × Completion := (awaited.1.get, awaited.2)

theorem numbered_injective : Function.Injective numbered := by
  intro first second same
  simp only [numbered, Prod.mk.injEq] at same
  exact Prod.ext (LocalEffectId.ext same.1) same.2

/-! ## The availability feature as numbered requests -/

namespace Availability

/-- The answers an effect can have, the first one first. -/
def EffectRequest.answers : EffectRequest → List Completion
  | .readAvailability => [.read]
  | .armRefreshTimer _ => [.arm, .due]

def EffectRequest.first : EffectRequest → Completion
  | .readAvailability => .read
  | .armRefreshTimer _ => .arm

/-- The answer an input brings, with the identity it carries. -/
def Input.answer : Input → LocalEffectId × Completion
  | .readCompleted completion => (completion.effectId, .read)
  | .timerArmCompleted completion => (completion.effectId, .arm)
  | .refreshDue due => (due.effectId, .due)

def Effect.request? (effect : Effect) : ℕ × Completion := (effect.id.get, effect.request.first)

end Availability

namespace AvailabilityFeature

/-- The single answer the feature waits for. -/
def outstanding (self : AvailabilityFeature) : Option (LocalEffectId × Completion) :=
  match self.state with
  | .stopped => none
  | .reading id => some (id, .read)
  | .armingRefresh id => some (id, .arm)
  | .waiting id => some (id, .due)

def tickets (self : AvailabilityFeature) : Tickets Completion :=
  ⟨self.nextEffectId, self.outstanding.map numbered⟩

variable {effect : Option Availability.Effect}

/-- An accepted input is the awaited answer, and the feature moves on from it. -/
theorem apply_move {self next : AvailabilityFeature} {input : Availability.Input}
    (accepted : self.apply input = .ok (effect, next)) :
    Tickets.Move Completion.Later self.tickets (some (numbered input.answer))
      (effect.toList.map Availability.Effect.request?) next.tickets := by
  have awaits : ∀ answer, self.outstanding = some answer →
      self.tickets.Answers (some (numbered answer)) := by
    intro answer awaited number same
    cases same
    simp [tickets, awaited]
  rcases apply_cases accepted with h | h | h | h
  · obtain ⟨id, result, emitted, state, rfl, rfl, request, value, rfl⟩ := h
    have answers := awaits (id, .read) (by simp [outstanding, state])
    have move := Tickets.Move.ask Completion.Later .arm answers
    simpa [tickets, outstanding, numbered, Availability.Effect.request?, request, value,
      Availability.EffectRequest.first, Availability.Input.answer] using move
  · obtain ⟨id, state, rfl, rfl, rfl⟩ := h
    have awaited : self.tickets.outstanding = some (id.get, .arm) := by
      simp [tickets, outstanding, state, numbered]
    exact .advanced awaited trivial
  · obtain ⟨id, state, rfl, rfl, rfl⟩ := h
    exact .dropped (awaits (id, .arm) (by simp [outstanding, state]))
  · obtain ⟨id, emitted, state, rfl, rfl, request, value, rfl⟩ := h
    have answers := awaits (id, .due) (by simp [outstanding, state])
    have move := Tickets.Move.ask Completion.Later .read answers
    simpa [tickets, outstanding, numbered, Availability.Effect.request?, request, value,
      Availability.EffectRequest.first, Availability.Input.answer] using move

/-- A lifecycle event takes no answer. What it asks for replaces what was
awaited, and it can drop the awaited answer or leave it alone. -/
theorem applyLifecycle_move {self next : AvailabilityFeature} {event : Lifecycle}
    (accepted : self.applyLifecycle event = .ok (effect, next)) :
    Tickets.Move Completion.Later self.tickets none
      (effect.toList.map Availability.Effect.request?) next.tickets := by
  have unanswered := self.tickets.answers_none
  rcases applyLifecycle_cases accepted with h | h | h | h
  · obtain ⟨emitted, -, -, rfl, request, value, rfl⟩ := h
    have move := Tickets.Move.ask Completion.Later .read unanswered
    simpa [tickets, outstanding, numbered, Availability.Effect.request?, request, value,
      Availability.EffectRequest.first] using move
  · obtain ⟨-, -, rfl, rfl⟩ := h
    exact .dropped unanswered
  · -- The read in progress fails by itself: the timer replaces it.
    obtain ⟨id, emitted, -, -, rfl, request, value, rfl⟩ := h
    have move := Tickets.Move.ask Completion.Later .arm unanswered
    simpa [tickets, outstanding, numbered, Availability.Effect.request?, request, value,
      Availability.EffectRequest.first] using move
  · obtain ⟨surface, -, rfl, rfl⟩ := h
    exact .kept

end AvailabilityFeature

/-! ## The notice feature as numbered requests -/

namespace SyntheticNotice

def EffectRequest.answers : EffectRequest → List Completion
  | .armExpiryTimer _ => [.arm, .due]

def EffectRequest.first : EffectRequest → Completion
  | .armExpiryTimer _ => .arm

/-- The answer an input brings; a command brings none. -/
def Input.answer : Input → Option (LocalEffectId × Completion)
  | .command _ => none
  | .timerArmCompleted completion => some (completion.effectId, .arm)
  | .expiryDue due => some (due.effectId, .due)

def Effect.request? (effect : Effect) : ℕ × Completion := (effect.id.get, effect.request.first)

end SyntheticNotice

namespace SyntheticNoticeFeature

/-- The single answer the feature waits for. -/
def outstanding (self : SyntheticNoticeFeature) : Option (LocalEffectId × Completion) :=
  match self.state with
  | .stopped | .idle => none
  | .arming id _ => some (id, .arm)
  | .visible id _ => some (id, .due)

def tickets (self : SyntheticNoticeFeature) : Tickets Completion :=
  ⟨self.nextEffectId, self.outstanding.map numbered⟩

variable {effect : Option SyntheticNotice.Effect}

/-- An accepted input is the awaited answer or a command. A command can replace
what was awaited or drop it. -/
theorem apply_move {self next : SyntheticNoticeFeature} {input : SyntheticNotice.Input}
    (accepted : self.apply input = .ok (effect, next)) :
    Tickets.Move Completion.Later self.tickets (input.answer.map numbered)
      (effect.toList.map SyntheticNotice.Effect.request?) next.tickets := by
  have awaits : ∀ answer, self.outstanding = some answer →
      self.tickets.Answers (some (numbered answer)) := by
    intro answer awaited number same
    cases same
    simp [tickets, awaited]
  rcases apply_cases accepted with h | h | h | h | h
  · obtain ⟨kind, emitted, rfl, rfl, request, value, rfl⟩ := h
    have move := Tickets.Move.ask Completion.Later .arm
      self.tickets.answers_none
    simpa [tickets, outstanding, numbered, SyntheticNotice.Effect.request?, request, value,
      SyntheticNotice.EffectRequest.first, SyntheticNotice.Input.answer] using move
  · obtain ⟨rfl, rfl, rfl⟩ := h
    exact .dropped self.tickets.answers_none
  · obtain ⟨id, kind, state, rfl, rfl, rfl⟩ := h
    have awaited : self.tickets.outstanding = some (id.get, .arm) := by
      simp [tickets, outstanding, state, numbered]
    exact .advanced awaited trivial
  · obtain ⟨id, kind, state, rfl, rfl, rfl⟩ := h
    exact .dropped (awaits (id, .arm) (by simp [outstanding, state]))
  · obtain ⟨id, kind, state, rfl, rfl, rfl⟩ := h
    exact .dropped (awaits (id, .due) (by simp [outstanding, state]))

theorem applyLifecycle_move {self next : SyntheticNoticeFeature} {event : Lifecycle}
    (accepted : self.applyLifecycle event = .ok (effect, next)) :
    Tickets.Move Completion.Later self.tickets none
      (effect.toList.map SyntheticNotice.Effect.request?) next.tickets := by
  have unanswered := self.tickets.answers_none
  cases event <;> cases state : self.state <;>
    simp only [applyLifecycle, state] at accepted <;> cases accepted
  case sessionInvalidated.stopped => exact .kept
  all_goals exact .dropped unanswered

end SyntheticNoticeFeature

/-! ## Calls of the composition -/

namespace Application

theorem EffectBatch.pushOption_items {self next : EffectBatch} {effect : Option Effect}
    (pushed : self.pushOption effect = .ok next) : next.items = self.items ++ effect.toList := by
  cases effect with
  | none =>
      cases pushed
      simp
  | some effect =>
      simp only [pushOption, push] at pushed
      split at pushed
      · cases pushed
        rfl
      · cases pushed

/-- The answers to an effect, the first one first. -/
def EffectRequest.answers : EffectRequest → List Completion
  | .availability request => request.answers
  | .syntheticNotice request => request.answers

def EffectRequest.first : EffectRequest → Completion
  | .availability request => request.first
  | .syntheticNotice request => request.first

def Effect.request? (effect : Effect) : ℕ × Completion :=
  (effect.id.localId.get, effect.request.first)

/-- The first answer and every later one are answers to the effect. -/
theorem EffectRequest.mem_answers (request : EffectRequest) (completion : Completion)
    (stage : completion = request.first ∨ Completion.Later request.first completion) :
    completion ∈ request.answers := by
  cases request with
  | availability request =>
      cases request <;> cases completion <;>
        simp_all [answers, first, Availability.EffectRequest.answers,
          Availability.EffectRequest.first, Completion.Later]
  | syntheticNotice request =>
      cases request
      cases completion <;>
        simp_all [answers, first, SyntheticNotice.EffectRequest.answers,
          SyntheticNotice.EffectRequest.first, Completion.Later]

/-- The answer an input brings to a feature: its identity inside the input, not
the tag it is routed by. -/
def ApplicationInput.answer (input : ApplicationInput) (feature : FeatureId) :
    Option (LocalEffectId × Completion) :=
  match feature, input with
  | .availability, .availabilityEffect _ input => some input.answer
  | .syntheticNotice, .syntheticNoticeEffect _ input => input.answer
  | _, _ => none

end Application

namespace Application

/-- The single answer a feature waits for. -/
def outstanding (self : Application) : FeatureId → Option (LocalEffectId × Completion)
  | .availability => self.availability.outstanding
  | .syntheticNotice => self.syntheticNotice.outstanding

def tickets (self : Application) : FeatureId → Tickets Completion
  | .availability => self.availability.tickets
  | .syntheticNotice => self.syntheticNotice.tickets

theorem tickets_outstanding (self : Application) (feature : FeatureId) :
    (self.tickets feature).outstanding = (self.outstanding feature).map numbered := by
  cases feature <;> rfl

/-- The effects a call emits; a rejected call emits none. -/
def emitted (self : Application) (input : ApplicationInput) : List Effect :=
  match self.transition input with
  | .ok (transition, _) => transition.effects.items
  | .error _ => []

def Accepts (self : Application) (input : ApplicationInput) : Prop :=
  ∃ result, self.transition input = .ok result

/-- The effects of a call that were emitted for one feature. -/
def emittedFor (feature : FeatureId) (effects : List Effect) : List Effect :=
  effects.filter fun effect => effect.id.feature = feature

theorem emittedFor_wrapped (feature : FeatureId) (asked : Option Availability.Effect)
    (noticed : Option SyntheticNotice.Effect) :
    (emittedFor feature ((asked.map wrapAvailability).toList ++
        (noticed.map wrapNotice).toList)).map Effect.request? =
      match feature with
      | .availability => asked.toList.map Availability.Effect.request?
      | .syntheticNotice => noticed.toList.map SyntheticNotice.Effect.request? := by
  cases feature <;> cases asked <;> cases noticed <;> rfl

/-- A batch that was started for one notice. -/
theorem emittedFor_notice {single : EffectBatch} {noticed : Option SyntheticNotice.Effect}
    (pushed : EffectBatch.new.pushOption (noticed.map wrapNotice) = .ok single)
    (feature : FeatureId) :
    (emittedFor feature single.items).map Effect.request? =
      match feature with
      | .availability => []
      | .syntheticNotice => noticed.toList.map SyntheticNotice.Effect.request? := by
  have items : single.items = ((none : Option Availability.Effect).map
      wrapAvailability).toList ++ (noticed.map wrapNotice).toList :=
    EffectBatch.pushOption_items pushed
  rw [items, emittedFor_wrapped]
  rfl

variable {input : ApplicationInput} {feature : FeatureId} {answer : LocalEffectId × Completion}
  {id : ApplicationEffectId}

/-- What an accepted call does to one feature, in terms of its tickets. -/
theorem transition_move {self next : Application} {result : Transition}
    (accepted : self.transition input = .ok (result, next)) (feature : FeatureId) :
    Tickets.Move Completion.Later (self.tickets feature) ((input.answer feature).map numbered)
      ((emittedFor feature result.effects.items).map Effect.request?) (next.tickets feature) := by
  simp only [transition, Fallible.bind_eq_ok_iff, Fallible.pure_eq_ok_iff, Prod.mk.injEq,
    Prod.exists] at accepted
  obtain ⟨effects, candidate, applied, rfl, rfl⟩ := accepted
  cases input with
  | lifecycle event =>
      simp only [apply, applyLifecycle, Fallible.bind_eq_ok_iff, Fallible.pure_eq_ok_iff,
        Fallible.mapError_eq_ok_iff, Prod.mk.injEq, Prod.exists] at applied
      obtain ⟨_, -, asked, availability, moved, first, pushed, noticed, notice, noticeMoved,
        both, bothPushed, rfl, rfl⟩ := applied
      obtain ⟨asking, applied, rfl⟩ := publish_eq_ok_iff.mp moved
      obtain ⟨noticing, noticeApplied, rfl⟩ := publish_eq_ok_iff.mp noticeMoved
      have items : both.items = (asking.map wrapAvailability).toList ++
          (noticing.map wrapNotice).toList := by
        rw [EffectBatch.pushOption_items bothPushed, EffectBatch.pushOption_items pushed]
        rfl
      rw [items, emittedFor_wrapped]
      cases feature with
      | availability => exact AvailabilityFeature.applyLifecycle_move applied
      | syntheticNotice => exact SyntheticNoticeFeature.applyLifecycle_move noticeApplied
  | availabilityEffect id input =>
      simp only [apply, singleAvailabilityEffect, Fallible.bind_eq_ok_iff,
        Fallible.pure_eq_ok_iff, Fallible.mapError_eq_ok_iff, Prod.mk.injEq,
        Prod.exists] at applied
      obtain ⟨_, -, _, -, asked, availability, moved, single, pushed, rfl, rfl⟩ := applied
      obtain ⟨asking, applied, rfl⟩ := publish_eq_ok_iff.mp moved
      have items : single.items = (asking.map wrapAvailability).toList ++
          ((none : Option SyntheticNotice.Effect).map wrapNotice).toList := by
        rw [EffectBatch.pushOption_items pushed]
        simp [EffectBatch.new, AvailabilityFeature.report]
      rw [items, emittedFor_wrapped]
      cases feature with
      | availability => exact AvailabilityFeature.apply_move applied
      | syntheticNotice => exact .kept
  | syntheticNoticeCommand command =>
      simp only [apply, singleNoticeEffect, Fallible.bind_eq_ok_iff, Fallible.pure_eq_ok_iff,
        Fallible.mapError_eq_ok_iff, Prod.mk.injEq, Prod.exists] at applied
      obtain ⟨_, -, noticed, notice, moved, single, pushed, rfl, rfl⟩ := applied
      obtain ⟨noticing, applied, rfl⟩ := publish_eq_ok_iff.mp moved
      rw [emittedFor_notice pushed]
      cases feature with
      | availability => exact .kept
      | syntheticNotice => exact SyntheticNoticeFeature.apply_move applied
  | syntheticNoticeEffect id input =>
      simp only [apply, singleNoticeEffect, Fallible.bind_eq_ok_iff, Fallible.pure_eq_ok_iff,
        Fallible.mapError_eq_ok_iff, Prod.mk.injEq, Prod.exists] at applied
      obtain ⟨_, -, _, _, _, -, noticed, notice, moved, single, pushed, rfl, rfl⟩ := applied
      obtain ⟨noticing, applied, rfl⟩ := publish_eq_ok_iff.mp moved
      rw [emittedFor_notice pushed]
      cases feature with
      | availability => exact .kept
      | syntheticNotice => exact SyntheticNoticeFeature.apply_move applied

/-! ## Runs -/

/-- A feature of the application, seen over any sequence of calls. -/
def ledger (feature : FeatureId) : Tickets.Ledger machine Completion.Later where
  tickets application := application.tickets feature
  settles application input :=
    match application.transition input with
    | .ok _ => (input.answer feature).map numbered
    | .error _ => none
  asks application input := (emittedFor feature (application.emitted input)).map Effect.request?
  initial := by
    rintro application rfl
    cases feature <;> rfl
  moves := by
    intro application input next moved
    simp only [machine, Option.some.injEq] at moved
    subst moved
    cases outcome : application.transition input with
    | ok value =>
        simp only [emitted, after, outcome]
        exact transition_move outcome feature
    | error error =>
        simp only [emitted, after, outcome, emittedFor, List.filter_nil, List.map_nil]
        exact .kept

/-- The effects emitted for one feature along a history, oldest first. -/
def effectsOf (feature : FeatureId) (past : List (Application × ApplicationInput)) : List Effect :=
  past.flatMap fun entry => emittedFor feature (entry.1.emitted entry.2)

theorem ledger_asked (feature : FeatureId) (past : List (Application × ApplicationInput)) :
    (ledger feature).asked past = (effectsOf feature past).map Effect.request? := by
  simp only [Tickets.Ledger.asked, effectsOf, List.map_flatMap]
  rfl

theorem feature_of_mem_effectsOf {effect : Effect} {past : List (Application × ApplicationInput)}
    (member : effect ∈ effectsOf feature past) : effect.id.feature = feature := by
  obtain ⟨entry, -, here⟩ := List.mem_flatMap.mp member
  simpa using (List.mem_filter.mp here).2

/-- An effect input with the tag `id` brings `answer` to the effect its feature
emitted last: the tag names the feature, the tag and the input carry the identity
of that effect, and the answer is of the kind the feature waits for. -/
structure AnswersLast (past : List (Application × ApplicationInput)) (self : Application)
    (feature : FeatureId) (id : ApplicationEffectId) (answer : LocalEffectId × Completion) :
    Prop where
  tag : id.feature = feature
  identity : id.localId = answer.1
  awaited : self.outstanding feature = some answer
  latest : ∃ effect, (effectsOf feature past).getLast? = some effect ∧ effect.id = id ∧
    answer.2 ∈ effect.request.answers

variable {past : List (Application × ApplicationInput)} {self : Application}

/-- What a feature waits for is an answer to the last effect it emitted. -/
theorem latest_of_outstanding (run : machine.Run past self)
    (awaited : self.outstanding feature = some answer) :
    ∃ effect, (effectsOf feature past).getLast? = some effect ∧
      effect.id = ⟨feature, answer.1⟩ ∧ answer.2 ∈ effect.request.answers := by
  have records := (ledger feature).records run
  have numberedAwaited : ((ledger feature).tickets self).outstanding = some (numbered answer) := by
    show (self.tickets feature).outstanding = _
    rw [tickets_outstanding, awaited]
    rfl
  obtain ⟨first, last, stage⟩ := records.last _ _ numberedAwaited
  rw [ledger_asked, List.getLast?_map, Option.map_eq_some_iff] at last
  obtain ⟨effect, last, same⟩ := last
  simp only [Effect.request?, Prod.mk.injEq] at same
  obtain ⟨number, rfl⟩ := same
  have tag := feature_of_mem_effectsOf (List.mem_of_getLast? last)
  have local_eq : effect.id.localId = answer.1 := LocalEffectId.ext number
  refine ⟨effect, last, ?_, EffectRequest.mem_answers _ _ stage⟩
  rw [← tag, ← local_eq]

/-- An accepted call takes the awaited answer. -/
theorem outstanding_of_accepts (accepted : self.Accepts input)
    (brings : input.answer feature = some answer) : self.outstanding feature = some answer := by
  obtain ⟨⟨result, next⟩, accepted⟩ := accepted
  have answers := (transition_move accepted feature).answers (numbered answer) (by rw [brings]; rfl)
  rw [tickets_outstanding, Option.map_eq_some_iff] at answers
  obtain ⟨awaited, here, same⟩ := answers
  rw [here, numbered_injective same]

theorem availabilityEffect_tag {input : Availability.Input}
    (accepted : self.Accepts (.availabilityEffect id input)) :
    id = ⟨.availability, input.answer.1⟩ := by
  obtain ⟨⟨result, next⟩, accepted⟩ := accepted
  simp only [transition, apply, Fallible.bind_eq_ok_iff, validateEffectInput_eq_ok_iff] at accepted
  obtain ⟨_, ⟨_, -, _, tag, -⟩, -⟩ := accepted
  rw [tag]
  cases input <;> rfl

theorem syntheticNoticeEffect_tag {input : SyntheticNotice.Input}
    (accepted : self.Accepts (.syntheticNoticeEffect id input)) :
    ∃ answer, input.answer = some answer ∧ id = ⟨.syntheticNotice, answer.1⟩ := by
  obtain ⟨⟨result, next⟩, accepted⟩ := accepted
  simp only [transition, apply, Fallible.bind_eq_ok_iff, validateEffectInput_eq_ok_iff] at accepted
  obtain ⟨_, ⟨_, -, inputId, brought, _, tag, -⟩, -⟩ := accepted
  cases input with
  | command command => cases brought
  | timerArmCompleted completion =>
      cases brought
      exact ⟨_, rfl, tag⟩
  | expiryDue due =>
      cases brought
      exact ⟨_, rfl, tag⟩

/-- The inputs that report about an effect. -/
def ApplicationInput.IsEffectInput : ApplicationInput → Prop
  | .availabilityEffect _ _ | .syntheticNoticeEffect _ _ => True
  | .lifecycle _ | .syntheticNoticeCommand _ => False

/-- An accepted effect input brings its feature an answer. -/
theorem exists_answer_of_accepts (effectInput : input.IsEffectInput)
    (accepted : self.Accepts input) :
    ∃ feature answer, input.answer feature = some answer := by
  cases input with
  | lifecycle event => cases effectInput
  | availabilityEffect id input => exact ⟨.availability, input.answer, rfl⟩
  | syntheticNoticeCommand command => cases effectInput
  | syntheticNoticeEffect id input =>
      obtain ⟨answer, brought, -⟩ := syntheticNoticeEffect_tag accepted
      exact ⟨.syntheticNotice, answer, brought⟩

/-- **Effect identity and exactly-once routing.** Over every sequence of calls
the identities of a feature's effects increase; only the awaited answer to the
last effect of its feature is accepted; an effect input accepted once is rejected
in every later state; and a rejected input changes nothing. -/
theorem effect_inputs_routed_once (run : machine.Run past self) :
    (∀ feature, ((effectsOf feature past).map fun effect => effect.id.localId.get).Pairwise
        (· < ·)) ∧
      (∀ id input, self.Accepts (.availabilityEffect id input) →
        AnswersLast past self .availability id input.answer) ∧
      (∀ id input, self.Accepts (.syntheticNoticeEffect id input) →
        ∃ answer, input.answer = some answer ∧
          AnswersLast past self .syntheticNotice id answer) ∧
      (∀ entry ∈ past, entry.2.IsEffectInput → entry.1.Accepts entry.2 →
        ¬ self.Accepts entry.2) ∧
      (∀ input, ¬ self.Accepts input → self.after input = self) := by
  refine ⟨?_, ?_, ?_, ?_, ?_⟩
  · intro feature
    have increasing := ((ledger feature).records run).increasing
    rw [ledger_asked, List.map_map] at increasing
    exact increasing
  · intro id input accepted
    have awaited : self.outstanding .availability = some input.answer :=
      outstanding_of_accepts accepted rfl
    have tag := availabilityEffect_tag accepted
    subst tag
    exact ⟨rfl, rfl, awaited, latest_of_outstanding run awaited⟩
  · intro id input accepted
    obtain ⟨answer, brought, rfl⟩ := syntheticNoticeEffect_tag accepted
    have awaited : self.outstanding .syntheticNotice = some answer :=
      outstanding_of_accepts accepted brought
    exact ⟨answer, brought, rfl, rfl, awaited, latest_of_outstanding run awaited⟩
  · intro entry member effectInput before again
    obtain ⟨feature, answer, brought⟩ := exists_answer_of_accepts effectInput before
    have settled : (ledger feature).settles entry.1 entry.2 = some (numbered answer) := by
      obtain ⟨value, accepted⟩ := before
      simp only [ledger, accepted, brought, Option.map_some]
    have awaited := outstanding_of_accepts again brought
    apply (ledger feature).not_outstanding_of_settled run member settled
    show (self.tickets feature).outstanding = _
    rw [tickets_outstanding, awaited]
    rfl
  · intro input rejected
    cases outcome : self.transition input with
    | ok value => exact absurd ⟨value, outcome⟩ rejected
    | error error => simp [after, outcome]

/-- The answer to the first read is accepted once. -/
theorem first_read_routed_once :
    let started := new.after (.lifecycle .start)
    let answered : ApplicationInput :=
      .availabilityEffect ⟨.availability, ⟨1, by decide⟩⟩
        (.readCompleted ⟨⟨1, by decide⟩, .ok .available⟩)
    started.Accepts answered ∧ ¬ (started.after answered).Accepts answered := by
  intro started answered
  have accepted : started.Accepts answered := ⟨_, rfl⟩
  have run : machine.Run [(new, .lifecycle .start), (started, answered)]
      (started.after answered) := ((StepSystem.Run.start rfl).step rfl).step rfl
  have routed := effect_inputs_routed_once run
  exact ⟨accepted, routed.2.2.2.1 (started, answered) (by simp) trivial accepted⟩

end Application

end Deskkin
