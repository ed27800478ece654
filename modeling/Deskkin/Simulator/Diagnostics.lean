/-
# The diagnostic runs of the simulator

The callbacks of the UI thread report what they do as diagnostic runs. A run that starts is
handed to the publisher, and its span is kept under a key until a later callback hands over
the terminal run. The key is the operation or the session that the run belongs to; a pairing
has neither and is kept under a key of its own. The publisher has a bounded queue, and a run
that finds it full is dropped.

The reports change nothing that a callback decides on, so they stand beside the callbacks.
-/

import Deskkin.Host.HelloNegotiation
import Deskkin.Recorder.Run

namespace Deskkin.Simulator

open Protocol Diagnostics

/-! ## Spans and runs -/

/-- What the clocks say while a callback runs. -/
structure Clock where
  unixMs : UInt64
  instantMs : ℕ

structure ProtocolDiagnosticSpan where
  runId : Text
  createdUnixMs : UInt64
  startedAt : ℕ
  operationKind : Diagnostics.Operation
  sessionContext : Option ContextId
  operationContext : Option ContextId
  deriving DecidableEq

def encodeContext (context : ContextId) : Text := hex context.toList

def pairingKey : Text := "protocol-pairing".toList

def protocolDiagnosticKey (operationKind : Diagnostics.Operation)
    (session operation : Option ContextId) : Option Text :=
  match (operation.or session).map encodeContext with
  | some key => some key
  | none => if operationKind = .pairingPersist then some pairingKey else none

def terminalStatus : RunOutcome → OperationStatus
  | .success => .success
  | .error => .error
  | .cancel => .cancel
  | .timeout => .timeout

/-- The operations that one run reports. -/
def reportedOperations : Diagnostics.Operation → List Diagnostics.Operation
  | .protocolNegotiate => [.transportConnect, .noiseHandshake, .protocolNegotiate]
  | .availabilityRead => [.availabilityRead, .presenterApplyView]
  | operationKind => [operationKind]

def protocolRecord (terminal : Option (RunOutcome × UInt32)) (errorType : Option ErrorType)
    (count index : ℕ) (operation : Diagnostics.Operation) : SemanticRecord where
  operation := operation
  operationId := UInt16.ofNat (index + 1)
  parentOperationId := if index ≠ 0 then some 1 else none
  status :=
    match terminal with
    | some (outcome, _) => if index + 1 = count then terminalStatus outcome else .success
    | none => .inProgress
  errorType := if terminal.isSome && decide (index + 1 = count) then errorType else none
  effectId := none
  virtualTimeMs := 0
  endVirtualTimeMs := (terminal.map fun ended => ended.2.toUInt64).getD 0
  durationMs := terminal.map Prod.snd
  renderWidth := none
  renderHeight := none
  value := none

/-- The run of a span. `u32::try_from` saturates the duration of one that is over. -/
def protocolRun (clock : Clock) (span : ProtocolDiagnosticSpan)
    (operationKind : Diagnostics.Operation) (outcome : RunOutcome)
    (errorType : Option ErrorType) (sessionContext operationContext : Option ContextId)
    (terminal : Bool) : DiagnosticRun :=
  let operations := reportedOperations operationKind
  let duration := UInt32.ofNat (min (clock.instantMs - span.startedAt) Checked.u32Max)
  let session := sessionContext.map encodeContext
  let operation := operationContext.map encodeContext
  { schemaVersion := 1
    resource := ⟨"deskkin-simulator".toList, "0.1.0".toList, some .deviceSimulator⟩
    runId := span.runId
    scenarioRunId := (operation.or session).getD span.runId
    transactionId := none
    sessionContextId := session
    operationContextId := operation
    protocolMajor := some 1
    selectedFeatures := some Host.availabilityReadV1.bytes
    grantedPermissions := some Host.availabilityReadPermission.bytes
    outcome := outcome
    completeness := if terminal then .complete else .partialRun
    health := .healthy
    terminal := terminal
    missingReason := none
    owner := none
    retained := false
    createdUnixMs := span.createdUnixMs
    records := operations.mapIdx
      (protocolRecord (if terminal then some (outcome, duration) else none) errorType
        operations.length) }

/-! ## The publisher -/

/-- A span in the map, with its key. -/
structure OpenSpan where
  key : Text
  span : ProtocolDiagnosticSpan
  deriving DecidableEq

/-- A run that was sent to the publisher, and whether its queue was full. -/
structure Send where
  run : DiagnosticRun
  full : Bool
  deriving DecidableEq

def diagnosticCapacity : ℕ := 32

/-- The queue of the publisher until it is taken, the flag for its worker, the open spans and
a log of all sends. -/
structure ProtocolDiagnostics where
  publisher : Option (List DiagnosticRun)
  diagnosticDropped : Bool
  diagnosticSpans : List OpenSpan
  sent : List Send

/-- What a callback is given when it asks: a context for a run id, the clocks after so many
sends, and the order in which the map is drained. -/
structure Given where
  runContext : Option ContextId
  clock : ℕ → Clock
  drained : List OpenSpan → List OpenSpan
  perm_drained : ∀ spans, (drained spans).Perm spans

def runIdOf (context : ContextId) : Text := "run-".toList ++ encodeContext context

namespace ProtocolDiagnostics

def new : ProtocolDiagnostics := ⟨some [], false, [], []⟩

/-- `try_send`, with the flag that a failure sets. -/
def send (self : ProtocolDiagnostics) (queue : List DiagnosticRun) (run : DiagnosticRun) :
    Bool × ProtocolDiagnostics :=
  if queue.length < diagnosticCapacity then
    (true, { self with publisher := some (queue ++ [run]), sent := self.sent ++ [⟨run, false⟩] })
  else
    (false, { self with diagnosticDropped := true, sent := self.sent ++ [⟨run, true⟩] })

/-- A terminal run is dropped where it cannot be sent. -/
def sendTerminal (self : ProtocolDiagnostics) (run : DiagnosticRun) : ProtocolDiagnostics :=
  match self.publisher with
  | none => self
  | some queue => (self.send queue run).2

/-- An insertion takes the place of a span under the same key. -/
def insertSpan (self : ProtocolDiagnostics) (key : Text) (span : ProtocolDiagnosticSpan) :
    ProtocolDiagnostics :=
  { self with
    diagnosticSpans := (self.diagnosticSpans.filter fun other => other.key ≠ key) ++ [⟨key, span⟩] }

def startProtocol (self : ProtocolDiagnostics) (given : Given)
    (operationKind : Diagnostics.Operation) (session operation : Option ContextId) :
    ProtocolDiagnostics :=
  match protocolDiagnosticKey operationKind session operation with
  | none => self
  | some key =>
      match given.runContext with
      | none => self
      | some runContext =>
          let clock := given.clock self.sent.length
          let span : ProtocolDiagnosticSpan :=
            ⟨runIdOf runContext, clock.unixMs, clock.instantMs, operationKind, session, operation⟩
          let unfinished := protocolRun clock span operationKind .error none session operation false
          match self.publisher with
          | none => self
          | some queue =>
              match self.send queue unfinished with
              | (false, refused) => refused
              | (true, accepted) => accepted.insertSpan key span

def recordProtocol (self : ProtocolDiagnostics) (given : Given)
    (operationKind : Diagnostics.Operation) (outcome : RunOutcome) (errorType : Option ErrorType)
    (session operation : Option ContextId) : ProtocolDiagnostics :=
  match protocolDiagnosticKey operationKind session operation with
  | none => self
  | some key =>
      match self.diagnosticSpans.find? fun found => found.key = key with
      | none => self
      | some found =>
          { self with
            diagnosticSpans := self.diagnosticSpans.filter fun other => other.key ≠ key
          }.sendTerminal
            (protocolRun (given.clock self.sent.length) found.span operationKind outcome errorType
              session operation true)

def drainProtocolSpans (self : ProtocolDiagnostics) (given : Given) (outcome : RunOutcome)
    (errorType : Option ErrorType) : ProtocolDiagnostics :=
  (given.drained self.diagnosticSpans).foldl
    (fun self found => self.sendTerminal
      (protocolRun (given.clock self.sent.length) found.span found.span.operationKind outcome
        errorType found.span.sessionContext found.span.operationContext true))
    { self with diagnosticSpans := [] }

def protocolSpanActive (self : ProtocolDiagnostics) (operationKind : Diagnostics.Operation)
    (session operation : Option ContextId) : Bool :=
  (protocolDiagnosticKey operationKind session operation).any fun key =>
    self.diagnosticSpans.any fun found => found.key = key

end ProtocolDiagnostics

/-! ## What the callbacks report -/

/-- A call of a callback. -/
inductive DiagnosticCall
  | start (operationKind : Diagnostics.Operation) (session operation : Option ContextId)
  | record (operationKind : Diagnostics.Operation) (outcome : RunOutcome)
      (errorType : Option ErrorType) (session operation : Option ContextId)
  | recordIfActive (operationKind : Diagnostics.Operation) (outcome : RunOutcome)
      (errorType : Option ErrorType) (session operation : Option ContextId)
  | drain (outcome : RunOutcome) (errorType : Option ErrorType)

def ProtocolDiagnostics.perform (self : ProtocolDiagnostics) (given : Given) :
    DiagnosticCall → ProtocolDiagnostics
  | .start operationKind session operation =>
      self.startProtocol given operationKind session operation
  | .record operationKind outcome errorType session operation =>
      self.recordProtocol given operationKind outcome errorType session operation
  | .recordIfActive operationKind outcome errorType session operation =>
      if self.protocolSpanActive operationKind session operation then
        self.recordProtocol given operationKind outcome errorType session operation
      else self
  | .drain outcome errorType => self.drainProtocolSpans given outcome errorType

def ProtocolDiagnostics.performAll (self : ProtocolDiagnostics) (given : Given)
    (calls : List DiagnosticCall) : ProtocolDiagnostics :=
  calls.foldl (fun self call => self.perform given call) self

/-- The contexts that name what a call starts: that of its key and that of its run. -/
def DiagnosticCall.contexts (given : Given) : DiagnosticCall → List ContextId
  | .start _ session operation => (operation.or session).toList ++ given.runContext.toList
  | _ => []

def pairingErrorType : Option SessionError → ErrorType
  | some .pairingTimeout => .pairingExpired
  | some .pairingRejected => .pairingRejected
  | some .storeFailed | some .identity => .storeFailed
  | _ => .pairingIncomplete

end Simulator

open Simulator Protocol Diagnostics

namespace ProtocolRuntime

/-- The session is that of the adapter before it is disconnected. An application that refuses
the invalidation ends the callback before its report. -/
def protocolDisconnectedCalls (self : ProtocolRuntime) : List DiagnosticCall :=
  let reported :=
    [.record .protocolNegotiate .error (some .connectionLost) self.adapter.session none]
  match self.adapter.disconnected with
  | (none, _) => reported
  | (some event, adapter) =>
      match protocolEventInput event with
      | .error _ => []
      | .ok input =>
          match { self with adapter }.coreTransition input with
          | .error _ => []
          | .ok _ => reported

def performProtocolReadCalls (self : ProtocolRuntime) (effect : Application.Effect)
    (operation : ContextId) : List DiagnosticCall :=
  if !self.connected then []
  else
    match self.adapter.beginRead effect.id.localId.get operation with
    | (.error _, _) => []
    | (.ok requestId, adapter) =>
        let begun := { self with adapter }
        match adapter.session with
        | none => []
        | some session =>
            .start .availabilityRead (some session) (some operation) ::
              match begun.trySend (.read session requestId operation) with
              | (.ok (), _) => []
              | (.error _, kept) =>
                  .record .availabilityRead .error (some .queueFull) (some session)
                    (some operation) :: kept.protocolDisconnectedCalls

def attemptProtocolConnectCalls (self : ProtocolRuntime) (session : ContextId) :
    List DiagnosticCall :=
  if self.connected || self.connecting then []
  else
    .start .protocolNegotiate (some session) none ::
      match self.trySend (.connect session) with
      | (.ok (), _) => []
      | (.error _, _) => [.record .protocolNegotiate .error (some .queueFull) (some session) none]

def handlePairedCalls (trustPaired : Bool) (result : Except SessionError Unit) :
    List DiagnosticCall :=
  let error := match result with
    | .ok () => none
    | .error error => some error
  [.record .pairingPersist (if trustPaired then .success else .error)
    (if trustPaired then none else some (pairingErrorType error)) none none]

def handleConnectResultCalls (self : ProtocolRuntime) (session : ContextId)
    (result : Except SessionError Unit) : List DiagnosticCall :=
  let negotiated := fun errorType : ErrorType =>
    [DiagnosticCall.record .protocolNegotiate .error (some errorType) (some session) none]
  if self.pendingSession ≠ some session then []
  else
    match result with
    | .ok () => []
    | .error .incompatible => negotiated .versionMismatch
    | .error .authorizationDenied => negotiated .permissionDenied
    | .error _ => negotiated .connectionLost

/-- The report of an accepted result. It comes after the last step that can fail. -/
def acceptReadResultCalls (self : ProtocolRuntime) (session : ContextId) (requestId : ℕ)
    (operation : ContextId) (result : AvailabilityResult) : List DiagnosticCall :=
  if !self.connected || self.adapter.session ≠ some session then []
  else
    match self.adapter.result session requestId operation result with
    | (.error _, _) => []
    | (.ok event, adapter) =>
        match protocolEventInput event with
        | .error _ => []
        | .ok input =>
            match { self with adapter }.coreTransition input with
            | .error _ => []
            | .ok _ =>
                [.record .availabilityRead (if result = .readFailed then .error else .success)
                  (if result = .readFailed then some .readUnavailable else none) (some session)
                  (some operation)]

def handleReadResultCalls (self : ProtocolRuntime) (admitted : ℕ → Bool) (session : ContextId)
    (generation requestId : ℕ) (operation : ContextId)
    (result : Except SessionError AvailabilityResult) : List DiagnosticCall :=
  let lost := DiagnosticCall.record .availabilityRead .error (some .connectionLost) (some session)
    (some operation) :: self.protocolDisconnectedCalls
  match result with
  | .error _ => lost
  | .ok result =>
      if admitted generation then
        self.acceptReadResultCalls session requestId operation result ++
          if (self.acceptReadResult session requestId operation result).1.isNone then
            [.recordIfActive .availabilityRead .error (some .connectionLost) (some session)
              (some operation)]
          else []
      else lost

def handleNetworkEventCalls (self : ProtocolRuntime) (admitted : ℕ → Bool) :
    NetworkEvent → List DiagnosticCall
  | .paired trustPaired result => handlePairedCalls trustPaired result
  | .connected session result => self.handleConnectResultCalls session result
  | .readCompleted session generation requestId operation result =>
      self.handleReadResultCalls admitted session generation requestId operation result
  | .closed => [.drain .cancel (some .cancelled)]

def handlePairStartCalls (self : ProtocolRuntime) : List DiagnosticCall :=
  .start .pairingPersist none none ::
    match self.trySend .pair with
    | (.ok (), _) => []
    | (.error _, _) => [.record .pairingPersist .error (some .queueFull) none none]

def protocolRefreshDueCalls (self : ProtocolRuntime) (timer : Application.Effect)
    (operation : ContextId) : List DiagnosticCall :=
  match self.coreTransition (.availabilityEffect timer.id (.refreshDue ⟨timer.id.localId⟩)) with
  | .ok (some ⟨id, .availability .readAvailability⟩, self) =>
      self.performProtocolReadCalls ⟨id, .availability .readAvailability⟩ operation
  | _ => []

/-- The calls of the callback that the label names. The worker makes none. -/
def calls (self : ProtocolRuntime) : Label → List DiagnosticCall
  | .pairStart => self.handlePairStartCalls
  | .networkEvent admitted =>
      match self.events with
      | [] => []
      | event :: events => { self with events }.handleNetworkEventCalls admitted event
  | .refreshDue operation =>
      match self.refreshTimer with
      | none => []
      | some timer =>
          { self with refreshTimer := none }.protocolRefreshDueCalls timer.effect operation
  | .reconnectDue session =>
      match self.reconnectTimer with
      | none => []
      | some _ => { self with reconnectTimer := none }.attemptProtocolConnectCalls session
  | _ => []

end ProtocolRuntime

/-! ## The runtime and its diagnostics -/

/-- The runtime with its diagnostics. The owner may have asked the worker to shut down, and
`named` logs the contexts that the starts were named by. -/
structure DiagnosedRuntime where
  runtime : ProtocolRuntime
  diagnostics : ProtocolDiagnostics
  shuttingDown : Bool
  named : List ContextId

namespace DiagnosedRuntime

def new : DiagnosedRuntime := ⟨ProtocolRuntime.new, ProtocolDiagnostics.new, false, []⟩

/-- The calls of a callback, on the diagnostics it finds. -/
def report (self : DiagnosedRuntime) (given : Given) (calls : List DiagnosticCall) :
    DiagnosedRuntime :=
  { self with
    diagnostics := self.diagnostics.performAll given calls
    named := self.named ++ calls.flatMap (DiagnosticCall.contexts given) }

/-- A step of the runtime, the shutdown of its worker, the publisher taking a run, or the
end of the event loop. -/
inductive Label
  | runtime (label : ProtocolRuntime.Label) (given : Given)
  | runtimeShutdown
  | workerQuits
  | workerStopped (given : Given)
  | publisherTakes
  | shutdown (given : Given)

/-- What the worker still has to do is lost when it quits. Its last event comes after all
others. -/
def step (self : DiagnosedRuntime) : Label → Option DiagnosedRuntime
  | .runtime label given =>
      if self.diagnostics.publisher.isNone then none
      else
        (self.runtime.step label).map fun runtime =>
          { self.report given (self.runtime.calls label) with runtime }
  | .runtimeShutdown =>
      if self.diagnostics.publisher.isNone then none else some { self with shuttingDown := true }
  | .workerQuits =>
      if self.shuttingDown && self.runtime.worker.busy.isNone then
        some { self with runtime := { self.runtime with commands := [], commandsLost := true } }
      else none
  | .workerStopped given =>
      if self.diagnostics.publisher.isNone || !self.runtime.commandsLost ||
          !self.runtime.events.isEmpty then none
      else some (self.report given [.drain .cancel (some .cancelled)])
  | .publisherTakes =>
      match self.diagnostics.publisher with
      | some (_ :: queue) =>
          some { self with diagnostics := { self.diagnostics with publisher := some queue } }
      | _ => none
  | .shutdown given =>
      if self.diagnostics.publisher.isNone then none
      else
        let drained := self.report given [.drain .cancel (some .cancelled)]
        some { drained with diagnostics := { drained.diagnostics with publisher := none } }

/-- The runtime from its startup on, until its diagnostics are taken. -/
def machine : StepSystem DiagnosedRuntime Label where
  Initial self := ∃ session operation given runtime,
    ProtocolRuntime.startup session operation = (.ok (), runtime) ∧
      self = { new.report given (ProtocolRuntime.new.attemptProtocolConnectCalls session) with
        runtime }
  step := step

end DiagnosedRuntime

end Deskkin
