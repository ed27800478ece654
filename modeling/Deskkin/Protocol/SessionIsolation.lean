/-
# Sessions of the protocol adapter

A read belongs to the session it was begun in. `disconnected`, `stop` and
`restartAfterPairing` drop the read in flight together with its session. The
other ways out of a session keep it: `connecting`, `connectionFailed` and a busy
rejection leave the read in place, and the next `authenticated` call carries it
into a new session.

The main result is exact. A run keeps its sessions apart if and only if every
`authenticated` call that took effect was made with no read in flight.
-/

import Deskkin.Protocol.Client
import Deskkin.Lib.Runs

namespace Deskkin.Protocol

/-- One call of a public method, with its arguments. -/
inductive Call
  | connecting
  | authenticated (session : ContextId)
  | beginRead (effectId : ℕ) (operation : ContextId)
  | result (session : ContextId) (requestId : ℕ) (operation : ContextId)
      (result : AvailabilityResult)
  | connectionFailed
  | helloRejected (reason : HelloRejectReason)
  | disconnected
  | stop
  | restartAfterPairing
  | validAvailabilityResult
  deriving DecidableEq

/-- The adapter a call leaves behind. -/
def perform (adapter : ProtocolAdapter) : Call → ProtocolAdapter
  | .connecting => adapter.connecting
  | .authenticated session => adapter.authenticated session
  | .beginRead effectId operation => (adapter.beginRead effectId operation).2
  | .result session requestId operation result =>
      (adapter.result session requestId operation result).2
  | .connectionFailed => adapter.connectionFailed.2
  | .helloRejected reason => adapter.helloRejected reason
  | .disconnected => adapter.disconnected.2
  | .stop => adapter.stop
  | .restartAfterPairing => adapter.restartAfterPairing
  | .validAvailabilityResult => adapter.validAvailabilityResult

/-- An adapter with what its run did since the last `authenticated` call that
took effect: the reads it began, and whether it tried to begin one. -/
structure Traced where
  adapter : ProtocolAdapter
  begun : List ActiveRead
  attempted : Bool
  deriving DecidableEq

namespace Traced

def new : Traced := ⟨ProtocolAdapter.new, [], false⟩

def after (self : Traced) (call : Call) : Traced :=
  let next := perform self.adapter call
  match call with
  | .authenticated _ =>
      if self.adapter.state ≠ .stopped then ⟨next, [], false⟩ else { self with adapter := next }
  | .beginRead effectId operation =>
      { adapter := next
        begun := match (self.adapter.beginRead effectId operation).1 with
          | .ok request => ⟨operation, request, effectId⟩ :: self.begun
          | .error _ => self.begun
        attempted := self.attempted || decide (effectId ≠ 0) }
  | _ => { self with adapter := next }

/-- Any sequence of calls on a new adapter. -/
def machine : StepSystem Traced Call where
  Initial traced := traced = new
  step traced call := some (traced.after call)

/-- Sessions are kept apart: a result that is accepted completes a read of the
present session, and the first begin of a session finds no read in flight. -/
structure Isolated (traced : Traced) : Prop where
  completes : ∀ session requestId operation wire event,
    (traced.adapter.result session requestId operation wire).1 = .ok event →
      ∃ effectId, event = .availabilityCompleted effectId (ProtocolAdapter.valueOf wire) ∧
        ⟨operation, requestId, effectId⟩ ∈ traced.begun
  begins : traced.attempted = false → ∀ effectId operation, effectId ≠ 0 →
    (traced.adapter.beginRead effectId operation).1 ≠ .error .activeRead

/-- The read in flight was begun in the present session. -/
def Owned (self : Traced) : Prop :=
  ∀ read, self.adapter.active = some read → read ∈ self.begun ∧ self.attempted = true

/-- An `authenticated` call that takes effect while a read is in flight. -/
def CarriesRead (self : Traced) (call : Call) : Prop :=
  ∃ session, call = .authenticated session ∧ self.adapter.state ≠ .stopped ∧
    self.adapter.active ≠ none

/-- Outside `authenticated` and `beginRead` a call keeps the read in flight or
drops it. -/
theorem perform_active {adapter : ProtocolAdapter} {call : Call}
    (notBegin : ∀ effectId operation, call ≠ .beginRead effectId operation) :
    (perform adapter call).active = adapter.active ∨ (perform adapter call).active = none := by
  cases call with
  | beginRead effectId operation => exact absurd rfl (notBegin effectId operation)
  | connecting => simp [perform]
  | authenticated session => simp [perform]
  | result session requestId operation wire =>
      cases answer : adapter.result session requestId operation wire with
      | mk outcome next =>
          cases outcome with
          | ok event =>
              obtain ⟨_, _, _, _, _, rfl⟩ := ProtocolAdapter.result_eq_ok_iff.mp answer
              right
              simp [perform, answer]
          | error error =>
              left
              simp [perform, answer, ProtocolAdapter.result_error answer]
  | connectionFailed => simp [perform]
  | helloRejected reason => simp [perform]
  | disconnected =>
      rw [perform, ProtocolAdapter.disconnected_active]
      by_cases stopped : adapter.state = .stopped
      · exact .inl (if_pos stopped)
      · exact .inr (if_neg stopped)
  | stop => simp [perform]
  | restartAfterPairing => simp [perform]
  | validAvailabilityResult => simp [perform]

theorem owned_new : Owned new := by
  intro read active
  cases active

/-- A call that carries no read into a new session keeps reads owned. -/
theorem Owned.after {self : Traced} (owned : Owned self) {call : Call}
    (allowed : ¬ CarriesRead self call) : Owned (self.after call) := by
  intro read active
  by_cases begins : ∃ effectId operation, call = .beginRead effectId operation
  · obtain ⟨effectId, operation, rfl⟩ := begins
    cases answer : self.adapter.beginRead effectId operation with
    | mk outcome next =>
        simp only [Traced.after, perform, answer] at active ⊢
        cases outcome with
        | ok request =>
            obtain ⟨_, _, nonzero, _, _, rfl⟩ := ProtocolAdapter.beginRead_eq_ok_iff.mp answer
            cases active
            simp [nonzero]
        | error error =>
            rw [ProtocolAdapter.beginRead_error answer] at active
            obtain ⟨mine, tried⟩ := owned read active
            simp [mine, tried]
  · have notBegin : ∀ effectId operation, call ≠ .beginRead effectId operation :=
      fun effectId operation same => begins ⟨effectId, operation, same⟩
    by_cases authenticates : ∃ session, call = .authenticated session
    · obtain ⟨session, rfl⟩ := authenticates
      by_cases stopped : self.adapter.state = .stopped
      · have same : self.after (.authenticated session) = self := by
          simp [Traced.after, perform, ProtocolAdapter.authenticated, stopped]
        rw [same] at active ⊢
        exact owned read active
      · -- The guard says that no read is in flight here.
        have idle : self.adapter.active = none := by
          by_contra inFlight
          exact allowed ⟨session, rfl, stopped, inFlight⟩
        simp [Traced.after, perform, ProtocolAdapter.authenticated, stopped, idle] at active
    · have kept : self.after call = { self with adapter := perform self.adapter call } := by
        cases call with
        | authenticated session => exact absurd ⟨session, rfl⟩ authenticates
        | beginRead effectId operation => exact absurd rfl (notBegin effectId operation)
        | _ => rfl
      rw [kept] at active ⊢
      rcases perform_active notBegin with same | dropped
      · rw [same] at active
        exact owned read active
      · rw [dropped] at active
        cases active

theorem Owned.isolated {self : Traced} (owned : Owned self) : Isolated self where
  completes := by
    intro session requestId operation wire event accepted
    have answer : self.adapter.result session requestId operation wire =
        (.ok event, (self.adapter.result session requestId operation wire).2) := by
      rw [← accepted]
    obtain ⟨_, _, effectId, active, completed, _⟩ := ProtocolAdapter.result_eq_ok_iff.mp answer
    exact ⟨effectId, completed, (owned _ active).1⟩
  begins := by
    intro untried effectId operation _ blocked
    obtain ⟨_, inFlight⟩ := ProtocolAdapter.beginRead_activeRead_iff.mp blocked
    obtain ⟨read, active⟩ := Option.isSome_iff_exists.mp inFlight
    rw [(owned read active).2] at untried
    cases untried

/-- A read carried into a new session blocks its first begin. -/
theorem CarriesRead.not_isolated {self : Traced} {call : Call} (carried : CarriesRead self call) :
    ¬ Isolated (self.after call) := by
  obtain ⟨session, rfl, running, inFlight⟩ := carried
  intro isolated
  have next : self.after (.authenticated session) =
      ⟨{ self.adapter with session := some session, state := .authenticated }, [], false⟩ := by
    simp [Traced.after, perform, ProtocolAdapter.authenticated, running]
  rw [next] at isolated
  apply isolated.begins rfl 1 session one_ne_zero
  rw [ProtocolAdapter.beginRead_activeRead_iff]
  exact ⟨rfl, Option.isSome_iff_ne_none.mpr inFlight⟩

/-- **Session isolation.** A run keeps its sessions apart if and only if none of
its `authenticated` calls took effect while a read was in flight. -/
theorem isolated_throughout_iff {past : List (Traced × Call)} {self : Traced}
    (run : machine.Run past self) :
    StepSystem.Throughout Isolated past self ↔
      StepSystem.Guarded (fun before call => ¬ CarriesRead before call) past := by
  refine run.throughout_iff_guarded ?_ ?_ (fun _ owned => Owned.isolated owned) ?_
  · intro traced start
    have same : traced = new := start
    rw [same]
    exact owned_new
  · intro before call next owned allowed moved
    cases moved
    exact owned.after allowed
  · intro before call next _ moved isolated
    cases moved
    intro carried
    exact carried.not_isolated isolated

/-- A session that begins a read, loses its connection in the given way and
authenticates again. -/
def reconnects (loss : Call) : List Call :=
  [.authenticated (.replicate 16 1), .beginRead 7 (.replicate 16 2), loss,
    .authenticated (.replicate 16 3)]

theorem isolated_throughout_disconnect :
    ∃ past self, machine.Run past self ∧ self.adapter.state = .authenticated ∧
      (StepSystem.Throughout Isolated past self ↔
        StepSystem.Guarded (fun before call => ¬ CarriesRead before call) past) := by
  obtain ⟨past, run, -⟩ := (StepSystem.Run.start rfl : machine.Run [] new).exists_of_execute
    (reconnects .disconnected) rfl
  exact ⟨past, _, run, rfl, isolated_throughout_iff run⟩

/-- After a failed connection the next session starts with the read of the last:
its first begin is refused, and a result under the new session completes the old
read. -/
theorem failed_connection_carries_read :
    ∃ past self, machine.Run past self ∧ ¬ Isolated self ∧
      self.attempted = false ∧ self.begun = [] ∧
      (self.adapter.beginRead 8 (.replicate 16 4)).1 = .error .activeRead ∧
      (self.adapter.result (.replicate 16 3) 1 (.replicate 16 2) .available).1 =
        .ok (.availabilityCompleted 7 .available) := by
  obtain ⟨past, run, -⟩ := (StepSystem.Run.start rfl : machine.Run [] new).exists_of_execute
    (reconnects .connectionFailed) rfl
  refine ⟨past, _, run, ?_, rfl, rfl, rfl, by decide⟩
  intro isolated
  exact isolated.begins rfl 8 (.replicate 16 4) (by decide) rfl

end Traced

end Deskkin.Protocol
