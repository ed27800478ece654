/-
# The protocol adapter

The client half of a session with the host. It knows whether a connection is
authenticated, which read is in flight and how long to wait before the next
attempt. It performs no I/O: its owner tells it what happened, method by method,
and reads the consequences from the results.
-/

import Deskkin.Lib.Checked
import Mathlib.Tactic.Common

namespace Deskkin

/-- An opaque 128-bit identity. -/
abbrev ContextId := Vector UInt8 16

namespace Protocol

inductive HelloRejectReason
  | noCommonVersion
  | requiredFeatureUnsupported
  | permissionDenied
  | sessionBusy
  deriving DecidableEq

inductive AvailabilityResult
  | available
  | unavailable
  | readFailed
  deriving DecidableEq

def reconnectDelaysMs : Vector ℕ 5 := #v[250, 500, 1000, 2000, 5000]

inductive ConnectionState
  | disconnected
  | backoff
  | connecting
  | authenticated
  | stopped
  deriving DecidableEq

inductive AdapterError
  | notAuthenticated
  | noActiveRead
  | sessionMismatch
  | requestMismatch
  | activeRead
  | stopped
  deriving DecidableEq

inductive TerminalReason
  | incompatible
  | authorizationDenied
  deriving DecidableEq

inductive AvailabilityValue
  | available
  | unavailable
  | readFailed
  deriving DecidableEq

inductive Event
  | availabilityCompleted (effectId : ℕ) (value : AvailabilityValue)
  | sessionInvalidated
  deriving DecidableEq

/-- A read in flight: its operation, its request number in the session, and the
effect it completes. -/
structure ActiveRead where
  operation : ContextId
  request : ℕ
  effectId : ℕ
  deriving DecidableEq

end Protocol

open Protocol

structure ProtocolAdapter where
  state : ConnectionState
  session : Option ContextId
  requestId : ℕ
  active : Option ActiveRead
  backoffIndex : ℕ
  terminalReason : Option TerminalReason
  deriving DecidableEq

namespace ProtocolAdapter

def new : ProtocolAdapter where
  state := .disconnected
  session := none
  requestId := 0
  active := none
  backoffIndex := 0
  terminalReason := none

def connecting (self : ProtocolAdapter) : ProtocolAdapter :=
  if self.state ≠ .stopped then { self with state := .connecting } else self

def authenticated (self : ProtocolAdapter) (session : ContextId) : ProtocolAdapter :=
  if self.state ≠ .stopped then
    { self with session := some session, state := .authenticated }
  else
    self

/-- The only event that resets the backoff series without completing a read. -/
def validAvailabilityResult (self : ProtocolAdapter) : ProtocolAdapter :=
  if self.state = .authenticated then { self with backoffIndex := 0 } else self

def restartAfterPairing (self : ProtocolAdapter) : ProtocolAdapter :=
  { self with
    state := .disconnected, session := none, active := none, backoffIndex := 0,
    terminalReason := none }

/-- The delay at the present place of the backoff series. -/
def delay (self : ProtocolAdapter) : ℕ :=
  reconnectDelaysMs[min self.backoffIndex 4]

def connectionFailed (self : ProtocolAdapter) : Except AdapterError ℕ × ProtocolAdapter :=
  if self.state = .stopped then
    (.error .stopped, self)
  else
    (.ok self.delay,
      { self with state := .backoff, backoffIndex := min (self.backoffIndex + 1) 4 })

def helloRejected (self : ProtocolAdapter) (reason : HelloRejectReason) : ProtocolAdapter :=
  match reason with
  | .sessionBusy => self.connectionFailed.2
  | .noCommonVersion | .requiredFeatureUnsupported =>
      { self with state := .stopped, terminalReason := some .incompatible }
  | .permissionDenied =>
      { self with state := .stopped, terminalReason := some .authorizationDenied }

def beginRead (self : ProtocolAdapter) (effectId : ℕ) (operation : ContextId) :
    Except AdapterError ℕ × ProtocolAdapter :=
  if self.state ≠ .authenticated then
    (.error .notAuthenticated, self)
  else if self.active.isSome then
    (.error .activeRead, self)
  else if effectId = 0 then
    (.error .noActiveRead, self)
  else
    match Checked.add Checked.u32Max self.requestId 1 with
    | none => (.error .requestMismatch, self)
    | some next =>
        (.ok next,
          { self with requestId := next, active := some ⟨operation, next, effectId⟩ })

def valueOf : AvailabilityResult → AvailabilityValue
  | .available => .available
  | .unavailable => .unavailable
  | .readFailed => .readFailed

def result (self : ProtocolAdapter) (session : ContextId) (requestId : ℕ) (operation : ContextId)
    (result : AvailabilityResult) : Except AdapterError Event × ProtocolAdapter :=
  if self.state ≠ .authenticated ∨ self.session ≠ some session then
    (.error .sessionMismatch, self)
  else
    match self.active with
    | none => (.error .noActiveRead, self)
    | some expected =>
        if expected.request ≠ requestId ∨ expected.operation ≠ operation then
          (.error .requestMismatch, self)
        else
          (.ok (.availabilityCompleted expected.effectId (valueOf result)),
            { self with active := none, backoffIndex := 0 })

def disconnected (self : ProtocolAdapter) : Option Event × ProtocolAdapter :=
  if self.state = .stopped then
    (none, self)
  else
    (some .sessionInvalidated,
      { self with state := .backoff, session := none, active := none, terminalReason := none })

def stop (self : ProtocolAdapter) : ProtocolAdapter :=
  { self with state := .stopped, session := none, active := none }

/-! ## The read in flight

Five methods leave it alone, two drop it, and `disconnected` drops it unless the
adapter is stopped.
-/

@[simp]
theorem connecting_active (self : ProtocolAdapter) : self.connecting.active = self.active := by
  unfold connecting
  split <;> rfl

@[simp]
theorem authenticated_active (self : ProtocolAdapter) (session : ContextId) :
    (self.authenticated session).active = self.active := by
  unfold authenticated
  split <;> rfl

@[simp]
theorem validAvailabilityResult_active (self : ProtocolAdapter) :
    self.validAvailabilityResult.active = self.active := by
  unfold validAvailabilityResult
  split <;> rfl

@[simp]
theorem connectionFailed_active (self : ProtocolAdapter) :
    self.connectionFailed.2.active = self.active := by
  unfold connectionFailed
  split <;> rfl

@[simp]
theorem helloRejected_active (self : ProtocolAdapter) (reason : HelloRejectReason) :
    (self.helloRejected reason).active = self.active := by
  cases reason <;> simp [helloRejected]

@[simp]
theorem restartAfterPairing_active (self : ProtocolAdapter) :
    self.restartAfterPairing.active = none :=
  rfl

@[simp]
theorem stop_active (self : ProtocolAdapter) : self.stop.active = none :=
  rfl

theorem disconnected_active (self : ProtocolAdapter) :
    self.disconnected.2.active = if self.state = .stopped then self.active else none := by
  unfold disconnected
  split <;> rfl

/-! ## Reads -/

variable {self next : ProtocolAdapter} {operation : ContextId} {wire : AvailabilityResult}

/-- A read begins exactly in an authenticated adapter without one in flight. -/
theorem beginRead_eq_ok_iff {effectId request : ℕ} :
    self.beginRead effectId operation = (.ok request, next) ↔
      self.state = .authenticated ∧ self.active = none ∧ effectId ≠ 0 ∧
        self.requestId + 1 = request ∧ request ≤ Checked.u32Max ∧
        next = { self with
          requestId := request, active := some ⟨operation, request, effectId⟩ } := by
  by_cases ready : self.state = .authenticated
  · cases active : self.active with
    | some read => simp [beginRead, ready, active]
    | none =>
        by_cases zero : effectId = 0
        · simp [beginRead, ready, active, zero]
        · cases added : Checked.add Checked.u32Max self.requestId 1 with
          | none =>
              have full := Checked.add_eq_none_iff.mp added
              simp only [beginRead, ready, active, zero, added, ne_eq, not_true_eq_false,
                if_false, Option.isSome_none, Bool.false_eq_true, Prod.mk.injEq, reduceCtorEq,
                false_and, false_iff]
              omega
          | some number =>
              obtain ⟨rfl, fits⟩ := Checked.add_eq_some_iff.mp added
              simp only [beginRead, ready, active, zero, added, ne_eq, not_true_eq_false,
                if_false, Option.isSome_none, Bool.false_eq_true, Prod.mk.injEq,
                Except.ok.injEq, true_and, not_false_eq_true]
              refine ⟨?_, ?_⟩
              · intro h
                obtain ⟨rfl, rfl⟩ := h
                exact ⟨rfl, fits, rfl⟩
              · intro h
                obtain ⟨rfl, _, rfl⟩ := h
                exact ⟨rfl, rfl⟩
  · simp [beginRead, ready]

/-- A begin that answers an error changes nothing. -/
theorem beginRead_error {effectId : ℕ} {error : AdapterError}
    (refused : self.beginRead effectId operation = (.error error, next)) : next = self := by
  unfold beginRead at refused
  split at refused
  · cases refused
    rfl
  · split at refused
    · cases refused
      rfl
    · split at refused
      · cases refused
        rfl
      · split at refused
        · cases refused
          rfl
        · cases refused

/-- Only a read already in flight makes a begin answer `activeRead`. -/
theorem beginRead_activeRead_iff {self : ProtocolAdapter} {effectId : ℕ} :
    (self.beginRead effectId operation).1 = .error .activeRead ↔
      self.state = .authenticated ∧ self.active.isSome := by
  by_cases ready : self.state = .authenticated
  · cases active : self.active with
    | some read => simp [beginRead, ready, active]
    | none =>
        by_cases zero : effectId = 0
        · simp [beginRead, ready, active, zero]
        · cases added : Checked.add Checked.u32Max self.requestId 1 with
          | none => simp [beginRead, ready, active, zero, added]
          | some number => simp [beginRead, ready, active, zero, added]
  · simp [beginRead, ready]

/-- A result is accepted exactly when it answers the read in flight. -/
theorem result_eq_ok_iff {session operation : ContextId} {requestId : ℕ} {event : Event} :
    self.result session requestId operation wire = (.ok event, next) ↔
      self.state = .authenticated ∧ self.session = some session ∧
        ∃ effectId, self.active = some ⟨operation, requestId, effectId⟩ ∧
          event = .availabilityCompleted effectId (valueOf wire) ∧
          next = { self with active := none, backoffIndex := 0 } := by
  by_cases current : self.state = .authenticated ∧ self.session = some session
  · obtain ⟨ready, known⟩ := current
    cases active : self.active with
    | none => simp [result, ready, known, active]
    | some read =>
        obtain ⟨expectedOperation, expectedRequest, effectId⟩ := read
        by_cases same : expectedRequest = requestId ∧ expectedOperation = operation
        · obtain ⟨rfl, rfl⟩ := same
          simp [result, ready, known, active, eq_comm]
        · have mismatch : expectedRequest ≠ requestId ∨ expectedOperation ≠ operation := by
            rw [← not_and_or]
            exact same
          have differs : ¬ (expectedOperation = operation ∧ expectedRequest = requestId) :=
            fun h => same h.symm
          simp only [result, ready, known, active, mismatch, if_true, ne_eq, not_true_eq_false,
            or_self, if_false, Prod.mk.injEq, reduceCtorEq, false_and, true_and, false_iff,
            Option.some.injEq, ActiveRead.mk.injEq, not_exists]
          intro _ h
          exact differs ⟨h.1.1, h.1.2.1⟩
  · have mismatch : self.state ≠ .authenticated ∨ self.session ≠ some session := by
      rw [← not_and_or]
      exact current
    simp only [result, mismatch, if_true, Prod.mk.injEq, reduceCtorEq, false_and, false_iff]
    intro h
    exact current ⟨h.1, h.2.1⟩

/-- A result that answers an error changes nothing. -/
theorem result_error {session operation : ContextId} {requestId : ℕ} {error : AdapterError}
    (refused : self.result session requestId operation wire = (.error error, next)) :
    next = self := by
  unfold result at refused
  split at refused
  · cases refused
    rfl
  · split at refused
    · cases refused
      rfl
    · split at refused
      · cases refused
        rfl
      · cases refused

end ProtocolAdapter

end Deskkin
