/-
# The host's capabilities

The owner of the connector's lifecycle and of the identity of the effect in
flight. A request is routed under a fresh identity and completed by exactly that
identity; the deterministic connector goes through both in one call.
-/

import Deskkin.Protocol.Client

namespace Deskkin.Host

open Protocol

inductive CapabilityId
  | availabilityRead
  deriving DecidableEq

inductive ConnectorId
  | deterministicAvailability
  deriving DecidableEq

inductive Lifecycle
  | start
  | stop
  deriving DecidableEq

/-- What the connector finds, apart from failures. -/
inductive HostAvailabilityValue
  | available
  | unavailable
  deriving DecidableEq

inductive CapabilityFailure
  | readFailed
  | connectorUnavailable
  | timeout
  | cancelled
  deriving DecidableEq

inductive CapabilityRequest
  | readAvailability
  deriving DecidableEq

inductive CapabilityResult
  | availability (result : Except CapabilityFailure HostAvailabilityValue)
  deriving DecidableEq

inductive DeterministicAvailability
  | available
  | unavailable
  | readFailed
  | connectorUnavailable
  | timeout
  | cancelled
  deriving DecidableEq

/-- The local number is never zero: the first one is one. -/
structure CapabilityEffectId where
  capability : CapabilityId
  connector : ConnectorId
  localId : ℕ
  deriving DecidableEq

inductive ConnectorRequest
  | readAvailability
  deriving DecidableEq

structure RoutedRequest where
  id : CapabilityEffectId
  request : ConnectorRequest
  deriving DecidableEq

inductive ConnectorResult
  | availability (result : Except CapabilityFailure HostAvailabilityValue)
  deriving DecidableEq

structure ConnectorCompletion where
  id : CapabilityEffectId
  result : ConnectorResult
  deriving DecidableEq

structure Invocation where
  routed : RoutedRequest
  result : CapabilityResult
  deriving DecidableEq

inductive HostCapabilityError
  | alreadyStarted
  | notStarted
  | busy
  | unexpectedCompletion
  | effectIdentityMismatch
  | effectIdentityExhausted
  deriving DecidableEq

inductive RuntimeState
  | stopped
  | ready
  | waiting (id : CapabilityEffectId)
  deriving DecidableEq

structure HostCapabilities where
  state : RuntimeState
  availability : DeterministicAvailability
  nextEffectId : ℕ
  deriving DecidableEq

namespace HostCapabilities

def new (availability : DeterministicAvailability) : HostCapabilities :=
  ⟨.stopped, availability, 0⟩

def lifecycle (capabilities : HostCapabilities) :
    Lifecycle → Except HostCapabilityError Unit × HostCapabilities
  | .start =>
      match capabilities.state with
      | .stopped => (.ok (), { capabilities with state := .ready })
      | _ => (.error .alreadyStarted, capabilities)
  | .stop =>
      match capabilities.state with
      | .stopped => (.error .notStarted, capabilities)
      | _ => (.ok (), { capabilities with state := .stopped })

def route (capabilities : HostCapabilities) (request : CapabilityRequest) :
    Except HostCapabilityError RoutedRequest × HostCapabilities :=
  match capabilities.state with
  | .stopped => (.error .notStarted, capabilities)
  | .waiting _ => (.error .busy, capabilities)
  | .ready =>
      match Checked.add Checked.u64Max capabilities.nextEffectId 1 with
      | none => (.error .effectIdentityExhausted, capabilities)
      | some next =>
          let routed : RoutedRequest :=
            match request with
            | .readAvailability =>
                ⟨⟨.availabilityRead, .deterministicAvailability, next⟩, .readAvailability⟩
          (.ok routed, { capabilities with nextEffectId := next, state := .waiting routed.id })

def execute (capabilities : HostCapabilities) (request : RoutedRequest) : ConnectorCompletion :=
  let result :=
    match request.request, capabilities.availability with
    | .readAvailability, .available => .ok .available
    | .readAvailability, .unavailable => .ok .unavailable
    | .readAvailability, .readFailed => .error .readFailed
    | .readAvailability, .connectorUnavailable => .error .connectorUnavailable
    | .readAvailability, .timeout => .error .timeout
    | .readAvailability, .cancelled => .error .cancelled
  ⟨request.id, .availability result⟩

def complete (capabilities : HostCapabilities) (completion : ConnectorCompletion) :
    Except HostCapabilityError CapabilityResult × HostCapabilities :=
  match capabilities.state with
  | .waiting id =>
      if completion.id ≠ id then (.error .effectIdentityMismatch, capabilities)
      else
        match completion.result with
        | .availability result =>
            (.ok (.availability result), { capabilities with state := .ready })
  | _ => (.error .unexpectedCompletion, capabilities)

/-- Route, execute and complete. -/
def invoke (capabilities : HostCapabilities) (request : CapabilityRequest) :
    Except HostCapabilityError Invocation × HostCapabilities :=
  match capabilities.route request with
  | (.error error, after) => (.error error, after)
  | (.ok routed, after) =>
      match after.complete (after.execute routed) with
      | (.error error, last) => (.error error, last)
      | (.ok result, last) => (.ok ⟨routed, result⟩, last)

end HostCapabilities

def hostAvailability : AvailabilityResult → DeterministicAvailability
  | .available => .available
  | .unavailable => .unavailable
  | .readFailed => .readFailed

/-- The answer in the words of the protocol; every failure is a failed read. -/
def protocolAvailability : CapabilityResult → AvailabilityResult
  | .availability (.ok .available) => .available
  | .availability (.ok .unavailable) => .unavailable
  | .availability (.error _) => .readFailed

end Deskkin.Host
