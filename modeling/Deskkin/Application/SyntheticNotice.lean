/-
# The synthetic notice feature

A notice is shown by command, stays for two seconds and disappears. It is built
like the availability feature and differs where a timer cannot be armed: here
the feature falls back to idle and goes on running.
-/

import Deskkin.Application.Core

namespace Deskkin

namespace SyntheticNotice

def noticeLifetimeMs : ℕ := 2000

inductive NoticeKind
  | compositionCheck
  deriving DecidableEq

structure Surface where
  kind : NoticeKind
  deriving DecidableEq

inductive Command
  | show (kind : NoticeKind)
  | clear
  deriving DecidableEq

inductive EffectRequest
  | armExpiryTimer (delayMs : ℕ)
  deriving DecidableEq

structure Effect where
  id : LocalEffectId
  request : EffectRequest
  deriving DecidableEq

inductive TimerArmError
  | unavailable
  deriving DecidableEq

structure TimerArmCompleted where
  effectId : LocalEffectId
  result : Except TimerArmError Unit
  deriving DecidableEq

structure ExpiryDue where
  effectId : LocalEffectId
  deriving DecidableEq

inductive Input
  | command (command : Command)
  | timerArmCompleted (completion : TimerArmCompleted)
  | expiryDue (due : ExpiryDue)
  deriving DecidableEq

inductive State
  | stopped
  | idle
  | arming (effectId : LocalEffectId) (kind : NoticeKind)
  | visible (effectId : LocalEffectId) (kind : NoticeKind)
  deriving DecidableEq

inductive TransitionError
  | alreadyStarted
  | notStarted
  | unexpectedInput
  | effectIdentityMismatch (expected actual : LocalEffectId)
  | effectIdentityExhausted
  deriving DecidableEq

structure Transition where
  state : State
  surface : Option Surface
  effect : Option Effect
  deriving DecidableEq

end SyntheticNotice

open SyntheticNotice

structure SyntheticNoticeFeature where
  state : SyntheticNotice.State
  nextEffectId : ℕ
  deriving DecidableEq

namespace SyntheticNoticeFeature

def new : SyntheticNoticeFeature where
  state := .stopped
  nextEffectId := 0

def surface? (self : SyntheticNoticeFeature) : Option SyntheticNotice.Surface :=
  match self.state with
  | .arming _ kind | .visible _ kind => some ⟨kind⟩
  | .stopped | .idle => none

def ensureId (expected actual : LocalEffectId) : Except TransitionError Unit :=
  Deskkin.ensureId .effectIdentityMismatch expected actual

def allocate (self : SyntheticNoticeFeature) (request : EffectRequest) :
    Except TransitionError (Effect × SyntheticNoticeFeature) := do
  let id ← allocateId .effectIdentityExhausted self.nextEffectId
  return (⟨id, request⟩, { self with nextEffectId := id.get })

def apply (self : SyntheticNoticeFeature) (input : Input) :
    Except TransitionError (Option Effect × SyntheticNoticeFeature) :=
  match self.state, input with
  | .stopped, _ => .error .notStarted
  | _, .command (.show kind) => do
      let (effect, allocated) ← self.allocate (.armExpiryTimer noticeLifetimeMs)
      return (some effect, { allocated with state := .arming effect.id kind })
  | .idle, .command .clear => .ok (none, self)
  | .arming _ _, .command .clear | .visible _ _, .command .clear =>
      .ok (none, { self with state := .idle })
  | .arming effectId kind, .timerArmCompleted completion => do
      ensureId effectId completion.effectId
      match completion.result with
      | .ok () => return (none, { self with state := .visible effectId kind })
      | .error .unavailable => return (none, { self with state := .idle })
  | .visible effectId _, .expiryDue due => do
      ensureId effectId due.effectId
      return (none, { self with state := .idle })
  | _, _ => .error .unexpectedInput

def applyLifecycle (self : SyntheticNoticeFeature) (lifecycle : Lifecycle) :
    Except TransitionError (Option Effect × SyntheticNoticeFeature) :=
  match lifecycle, self.state with
  | .start, .stopped => .ok (none, { self with state := .idle })
  | .start, _ => .error .alreadyStarted
  | .stop, .stopped => .error .notStarted
  | .stop, _ => .ok (none, { self with state := .stopped })
  | .sessionInvalidated, .stopped => .ok (none, self)
  | .sessionInvalidated, _ => .ok (none, { self with state := .idle })

/-- What a successful operation tells its caller. -/
def report (self : SyntheticNoticeFeature) (effect : Option Effect) : SyntheticNotice.Transition :=
  ⟨self.state, self.surface?, effect⟩

def lifecycle (self : SyntheticNoticeFeature) (event : Lifecycle) :
    Except TransitionError (SyntheticNotice.Transition × SyntheticNoticeFeature) :=
  publish report (self.applyLifecycle event)

def transition (self : SyntheticNoticeFeature) (input : Input) :
    Except TransitionError (SyntheticNotice.Transition × SyntheticNoticeFeature) :=
  publish report (self.apply input)

variable {self next : SyntheticNoticeFeature} {effect : Option Effect}

/-- An allocation takes the next identity and changes nothing else. -/
theorem allocate_eq_ok_iff {request : EffectRequest} {effect : Effect} :
    self.allocate request = .ok (effect, next) ↔
      effect.request = request ∧ effect.id.get = self.nextEffectId + 1 ∧
        self.nextEffectId < Checked.u64Max ∧
        next = { self with nextEffectId := self.nextEffectId + 1 } := by
  simp only [allocate, Fallible.bind_eq_ok_iff, Fallible.pure_eq_ok_iff, allocateId_eq_ok_iff,
    Prod.mk.injEq]
  constructor
  · rintro ⟨id, ⟨value, left⟩, rfl, rfl⟩
    exact ⟨rfl, value, left, by rw [value]⟩
  · rintro ⟨rfl, value, left, rfl⟩
    exact ⟨effect.id, ⟨value, left⟩, rfl, by rw [value]⟩

variable {input : Input} (accepted : self.apply input = .ok (effect, next))
include accepted

/-- The accepted inputs. A notice can be shown in every working state, also over
another notice; each other input belongs to the notice that is up. -/
theorem apply_cases :
    (∃ kind emitted, input = .command (.show kind) ∧ effect = some emitted ∧
        emitted.request = .armExpiryTimer noticeLifetimeMs ∧
        emitted.id.get = self.nextEffectId + 1 ∧
        next = ⟨.arming emitted.id kind, self.nextEffectId + 1⟩) ∨
      (input = .command .clear ∧ effect = none ∧ next = { self with state := .idle }) ∨
      (∃ id kind, self.state = .arming id kind ∧ input = .timerArmCompleted ⟨id, .ok ()⟩ ∧
        effect = none ∧ next = { self with state := .visible id kind }) ∨
      (∃ id kind, self.state = .arming id kind ∧
        input = .timerArmCompleted ⟨id, .error .unavailable⟩ ∧
        effect = none ∧ next = { self with state := .idle }) ∨
      (∃ id kind, self.state = .visible id kind ∧ input = .expiryDue ⟨id⟩ ∧
        effect = none ∧ next = { self with state := .idle }) := by
  unfold apply at accepted
  split at accepted
  · cases accepted
  · rename_i kind _
    simp only [Fallible.bind_eq_ok_iff, Fallible.pure_eq_ok_iff, Prod.mk.injEq,
      Prod.exists, allocate_eq_ok_iff] at accepted
    obtain ⟨emitted, allocated, ⟨request, value, -, rfl⟩, rfl, rfl⟩ := accepted
    exact .inl ⟨kind, emitted, rfl, rfl, request, value, rfl⟩
  · rename_i state
    cases accepted
    exact .inr (.inl ⟨rfl, rfl, by rw [← state]⟩)
  · cases accepted
    exact .inr (.inl ⟨rfl, rfl, rfl⟩)
  · cases accepted
    exact .inr (.inl ⟨rfl, rfl, rfl⟩)
  · rename_i id kind completion state
    simp only [ensureId, Fallible.bind_eq_ok_iff, ensureId_eq_ok_iff] at accepted
    obtain ⟨-, rfl, accepted⟩ := accepted
    obtain ⟨id, result⟩ := completion
    cases result with
    | ok done =>
        cases accepted
        exact .inr (.inr (.inl ⟨id, kind, state, rfl, rfl, rfl⟩))
    | error refused =>
        cases refused
        cases accepted
        exact .inr (.inr (.inr (.inl ⟨id, kind, state, rfl, rfl, rfl⟩)))
  · rename_i id kind due state
    simp only [ensureId, Fallible.bind_eq_ok_iff, ensureId_eq_ok_iff, Fallible.pure_eq_ok_iff,
      Prod.mk.injEq] at accepted
    obtain ⟨-, rfl, rfl, rfl⟩ := accepted
    exact .inr (.inr (.inr (.inr ⟨due.effectId, kind, state, rfl, rfl, rfl⟩)))
  · cases accepted

/-- No input takes a running notice feature to rest, and a stopped one accepts
none. -/
theorem apply_ne_stopped : self.state ≠ .stopped ∧ next.state ≠ .stopped := by
  unfold apply at accepted
  split at accepted
  · cases accepted
  · simp only [Fallible.bind_eq_ok_iff, Fallible.pure_eq_ok_iff, Prod.mk.injEq,
      Prod.exists] at accepted
    obtain ⟨emitted, allocated, -, -, rfl⟩ := accepted
    exact ⟨by assumption, by simp⟩
  · rename_i state
    cases accepted
    simp [state]
  · rename_i state
    cases accepted
    simp [state]
  · rename_i state
    cases accepted
    simp [state]
  · rename_i state
    simp only [Fallible.bind_eq_ok_iff] at accepted
    obtain ⟨-, -, accepted⟩ := accepted
    split at accepted <;> cases accepted <;> simp [state]
  · rename_i state
    simp only [Fallible.bind_eq_ok_iff, Fallible.pure_eq_ok_iff, Prod.mk.injEq] at accepted
    obtain ⟨-, -, -, rfl⟩ := accepted
    simp [state]
  · cases accepted

end SyntheticNoticeFeature

end Deskkin
