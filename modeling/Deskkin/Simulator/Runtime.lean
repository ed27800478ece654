/-
# The simulator's protocol runtime

The UI thread of the simulator owns the application, the protocol adapter and
two timers. A network worker takes its commands from a bounded queue, and
control messages from a second one, and answers with events. Owner events come
from a third side. Every callback of the UI thread is one function here; an
early return of the source keeps the state changed so far, so a callback
returns its outcome beside the new state.

Diagnostics and the presentation of views are left out: no callback reads them.
Slint starts a timer when asked, and context identities are generated when
asked, so both appear as labels of a step.
-/

import Deskkin.Application.Composition
import Deskkin.Protocol.Client

namespace Deskkin.Simulator

open Protocol

inductive SessionError
  | nonLoopback
  | nonPrivateLan
  | io
  | noise
  | protocol
  | identity
  | pairingTimeout
  | incompatible
  | authorizationDenied
  | sessionBusy
  | queueFull
  | endOfStream
  | frameOversize
  | timeout
  | pairingRejected
  | pairingIncomplete
  | storeFailed
  deriving DecidableEq

inductive NetworkCommand
  | pair
  | connect (session : ContextId)
  | read (session : ContextId) (requestId : ℕ) (operation : ContextId)
  deriving DecidableEq

inductive NetworkControl
  | close
  | revoke
  deriving DecidableEq

inductive NetworkEvent
  | paired (trustPaired : Bool) (result : Except SessionError Unit)
  | connected (session : ContextId) (result : Except SessionError Unit)
  | readCompleted (session : ContextId) (generation requestId : ℕ) (operation : ContextId)
      (result : Except SessionError AvailabilityResult)
  | closed
  deriving DecidableEq

inductive TrySendError
  | full
  | disconnected
  deriving DecidableEq

/-- The ways a callback of the UI thread ends early. -/
inductive RuntimeError
  | applicationStart (error : Application.TransitionError)
  | noInitialRead
  | beginRead (error : AdapterError)
  | sessionContextMissing
  | disconnectedReadCompletion (error : Application.TransitionError)
  | disconnectInvalidation (error : Application.TransitionError)
  | zeroEffectIdentity
  | reconnectBackoff (error : AdapterError)
  | commandQueueUnavailable
  | terminalInvalidation (error : Application.TransitionError)
  | terminalStop (error : Application.TransitionError)
  | timerArmCompletion (error : Application.TransitionError)
  deriving DecidableEq

def commandCapacity : ℕ := 8

/-- The worker thread: its session with the generation it was paired under,
whether the identity was revoked, and the command it is carrying out. -/
structure Worker where
  client : Option ℕ
  revoked : Bool
  busy : Option NetworkCommand
  deriving DecidableEq

structure RefreshTimer where
  delayMs : ℕ
  effect : Application.Effect
  deriving DecidableEq

end Simulator

open Simulator Protocol

structure ProtocolRuntime where
  core : Application
  adapter : ProtocolAdapter
  connected : Bool
  connecting : Bool
  pendingSession : Option ContextId
  refreshTimer : Option RefreshTimer
  reconnectTimer : Option ℕ
  commands : List NetworkCommand
  commandsLost : Bool
  control : List NetworkControl
  events : List NetworkEvent
  worker : Worker
  deriving DecidableEq

namespace ProtocolRuntime

def new : ProtocolRuntime where
  core := Application.new
  adapter := ProtocolAdapter.new
  connected := false
  connecting := false
  pendingSession := none
  refreshTimer := none
  reconnectTimer := none
  commands := []
  commandsLost := false
  control := []
  events := []
  worker := ⟨none, false, none⟩

abbrev Outcome := Except RuntimeError Unit × ProtocolRuntime

def trySend (self : ProtocolRuntime) (command : NetworkCommand) :
    Except TrySendError Unit × ProtocolRuntime :=
  if self.commandsLost then
    (.error .disconnected, self)
  else if self.commands.length < commandCapacity then
    (.ok (), { self with commands := self.commands ++ [command] })
  else
    (.error .full, self)

def sendControl (self : ProtocolRuntime) (message : NetworkControl) : ProtocolRuntime :=
  { self with control := self.control ++ [message] }

/-- Apply one input to the application and return the first effect it asks for. -/
def coreTransition (self : ProtocolRuntime) (input : Application.ApplicationInput) :
    Except Application.TransitionError (Option Application.Effect × ProtocolRuntime) :=
  match self.core.transition input with
  | .ok (transition, core) => .ok (transition.effects.get 0, { self with core })
  | .error error => .error error

def scheduleProtocolReconnect (self : ProtocolRuntime) : Outcome :=
  match self.adapter.connectionFailed with
  | (.error error, adapter) => (.error (.reconnectBackoff error), { self with adapter })
  | (.ok delayMs, adapter) => (.ok (), { self with adapter, reconnectTimer := some delayMs })

def armProtocolRefresh (self : ProtocolRuntime) (effect : Application.Effect) (delayMs : ℕ) :
    Outcome :=
  let armed := { self with refreshTimer := some ⟨delayMs, effect⟩ }
  match armed.coreTransition
      (.availabilityEffect effect.id (.timerArmCompleted ⟨effect.id.localId, .ok ()⟩)) with
  | .error error => (.error (.timerArmCompletion error), armed)
  | .ok (_, next) => (.ok (), next)

/-- Dispatch the effect that follows the end of a read. The end of a read never
asks for another one, so the arm of the refresh timer is the only case. -/
def dispatchFollowing (self : ProtocolRuntime) (effect : Option Application.Effect) : Outcome :=
  match effect with
  | some ⟨id, .availability (.armRefreshTimer delayMs)⟩ =>
      self.armProtocolRefresh ⟨id, .availability (.armRefreshTimer delayMs)⟩ delayMs
  | _ => (.ok (), self)

/-- Continue a callback after a step that may end it early. -/
def andThen (outcome : Outcome) (rest : ProtocolRuntime → Outcome) : Outcome :=
  match outcome with
  | (.error error, self) => (.error error, self)
  | (.ok (), self) => rest self

def completeReadWhileDisconnected (self : ProtocolRuntime) (effect : Application.Effect) :
    Outcome :=
  match self.coreTransition (.availabilityEffect effect.id
      (.readCompleted ⟨effect.id.localId, .error .unavailable⟩)) with
  | .error error => (.error (.disconnectedReadCompletion error), self)
  | .ok (next, self) =>
      andThen
        (if !self.connecting && self.adapter.terminalReason.isNone &&
            self.reconnectTimer.isNone then
          self.scheduleProtocolReconnect
        else
          (.ok (), self))
        fun self => self.dispatchFollowing next

def protocolEventInput : Event → Except RuntimeError Application.ApplicationInput
  | .sessionInvalidated => .ok (.lifecycle .sessionInvalidated)
  | .availabilityCompleted effectId value =>
      match LocalEffectId.new effectId with
      | none => .error .zeroEffectIdentity
      | some effectId =>
          let result := match value with
            | .available => .ok Availability.Availability.available
            | .unavailable => .ok Availability.Availability.unavailable
            | .readFailed => .error Availability.ReadError.unavailable
          .ok (.availabilityEffect ⟨.availability, effectId⟩ (.readCompleted ⟨effectId, result⟩))

def protocolDisconnected (self : ProtocolRuntime) : Outcome :=
  let (event, adapter) := self.adapter.disconnected
  let cleared := { self with
    connected := false, connecting := false, pendingSession := none, adapter }
  let invalidated : Except RuntimeError (Option Application.Effect × ProtocolRuntime) :=
    match event with
    | none => .ok (none, cleared)
    | some event =>
        match protocolEventInput event with
        | .error error => .error error
        | .ok input =>
            (cleared.coreTransition input).mapError .disconnectInvalidation
  match invalidated with
  | .error error => (.error error, cleared)
  | .ok (next, self) =>
      andThen
        (if self.reconnectTimer.isNone then self.scheduleProtocolReconnect else (.ok (), self))
        fun self => self.dispatchFollowing next

def performProtocolRead (self : ProtocolRuntime) (effect : Application.Effect)
    (operation : ContextId) : Outcome :=
  if !self.connected then
    self.completeReadWhileDisconnected effect
  else
    match self.adapter.beginRead effect.id.localId.get operation with
    | (.error error, adapter) => (.error (.beginRead error), { self with adapter })
    | (.ok requestId, adapter) =>
        let begun := { self with adapter }
        match adapter.session with
        | none => (.error .sessionContextMissing, begun)
        | some session =>
            match begun.trySend (.read session requestId operation) with
            | (.ok (), sent) => (.ok (), sent)
            | (.error .full, kept) => (kept.sendControl .close).protocolDisconnected
            | (.error .disconnected, kept) => kept.protocolDisconnected

def dispatchProtocolEffect (self : ProtocolRuntime) (effect : Application.Effect)
    (operation : ContextId) : Outcome :=
  match effect.request with
  | .availability .readAvailability => self.performProtocolRead effect operation
  | .availability (.armRefreshTimer delayMs) => self.armProtocolRefresh effect delayMs
  | .syntheticNotice _ => (.ok (), self)

def attemptProtocolConnect (self : ProtocolRuntime) (session : ContextId) : Outcome :=
  if self.connected || self.connecting then
    (.ok (), self)
  else
    let started := { self with
      adapter := self.adapter.connecting, connecting := true, pendingSession := some session }
    match started.trySend (.connect session) with
    | (.ok (), sent) => (.ok (), sent)
    | (.error _, kept) =>
        (.error .commandQueueUnavailable, { kept with connecting := false, pendingSession := none })

/-! ## Network events -/

def applyPairingOutcome (adapter : ProtocolAdapter) (result : Except SessionError Unit) :
    Bool × ProtocolAdapter :=
  let restarted := adapter.restartAfterPairing
  let judged := match result with
    | .error .incompatible => restarted.helloRejected .noCommonVersion
    | .error .authorizationDenied => restarted.helloRejected .permissionDenied
    | _ => restarted
  (judged.terminalReason.isNone, judged)

def handlePaired (self : ProtocolRuntime) (trustPaired : Bool)
    (result : Except SessionError Unit) : ProtocolRuntime :=
  if trustPaired then
    let (mayConnect, adapter) := applyPairingOutcome self.adapter result
    let settled := { self with connected := false, connecting := false, adapter }
    if mayConnect then settled.scheduleProtocolReconnect.2 else settled
  else
    self

def protocolTerminal (self : ProtocolRuntime) (reason : HelloRejectReason) : Outcome :=
  let rejected := { self with
    connected := false, connecting := false, pendingSession := none, reconnectTimer := none,
    adapter := self.adapter.helloRejected reason }
  match rejected.coreTransition (.lifecycle .sessionInvalidated) with
  | .error error => (.error (.terminalInvalidation error), rejected)
  | .ok (none, self) => (.ok (), self)
  | .ok (some timer, self) =>
      match self.coreTransition (.availabilityEffect timer.id
          (.timerArmCompleted ⟨timer.id.localId, .error .unavailable⟩)) with
      | .error error => (.error (.terminalStop error), self)
      | .ok (_, self) => (.ok (), self)

def handleConnectResult (self : ProtocolRuntime) (session : ContextId)
    (result : Except SessionError Unit) : ProtocolRuntime :=
  if self.pendingSession ≠ some session then
    self
  else
    let settled := { self with connecting := false, pendingSession := none }
    match result with
    | .ok () => { settled with
        reconnectTimer := none, adapter := settled.adapter.authenticated session,
        connected := true }
    | .error .incompatible => (settled.protocolTerminal .noCommonVersion).2
    | .error .authorizationDenied => (settled.protocolTerminal .permissionDenied).2
    | .error _ => settled.scheduleProtocolReconnect.2

/-- The part of a read result that runs while the store vouches for its
generation. -/
def acceptReadResult (self : ProtocolRuntime) (session : ContextId) (requestId : ℕ)
    (operation : ContextId) (result : AvailabilityResult) :
    Option Application.Effect × ProtocolRuntime :=
  if !self.connected || self.adapter.session ≠ some session then
    (none, self)
  else
    match self.adapter.result session requestId operation result with
    | (.error _, adapter) => (none, { self with adapter })
    | (.ok event, adapter) =>
        let answered := { self with adapter }
        match protocolEventInput event with
        | .error _ => (none, answered)
        | .ok input =>
            match answered.coreTransition input with
            | .error _ => (none, answered)
            | .ok (next, self) => (next, self)

/-- Handle the end of a read. `admitted` tells whether the identity store still
is paired under the generation the read was made with. -/
def handleReadResult (self : ProtocolRuntime) (admitted : ℕ → Bool) (session : ContextId)
    (generation requestId : ℕ) (operation : ContextId)
    (result : Except SessionError AvailabilityResult) : ProtocolRuntime :=
  match result with
  | .error _ => self.protocolDisconnected.2
  | .ok result =>
      if admitted generation then
        let (next, self) := self.acceptReadResult session requestId operation result
        (self.dispatchFollowing next).2
      else
        self.protocolDisconnected.2

def handleNetworkEvent (self : ProtocolRuntime) (admitted : ℕ → Bool) :
    NetworkEvent → ProtocolRuntime
  | .paired trustPaired result => self.handlePaired trustPaired result
  | .connected session result => self.handleConnectResult session result
  | .readCompleted session generation requestId operation result =>
      self.handleReadResult admitted session generation requestId operation result
  | .closed => self

/-! ## Owner events and timers -/

def handleIdentityRevoked (self : ProtocolRuntime) : ProtocolRuntime :=
  let stopped := { self with
    connected := false, connecting := false, reconnectTimer := none, adapter := self.adapter.stop }
  match stopped.coreTransition (.lifecycle .sessionInvalidated) with
  | .error _ => stopped.sendControl .revoke
  | .ok (next, self) => ((self.sendControl .revoke).dispatchFollowing next).2

def handlePairStart (self : ProtocolRuntime) : ProtocolRuntime :=
  (self.trySend .pair).2

def protocolRefreshDue (self : ProtocolRuntime) (timer : Application.Effect)
    (operation : ContextId) : ProtocolRuntime :=
  match self.coreTransition (.availabilityEffect timer.id (.refreshDue ⟨timer.id.localId⟩)) with
  | .error _ => self
  | .ok (none, self) => self
  | .ok (some effect, self) => (self.dispatchProtocolEffect effect operation).2

/-- What runs before the event loop: the first connection attempt, and the read
that starting the application asks for. -/
def startup (session operation : ContextId) : Outcome :=
  andThen (new.attemptProtocolConnect session) fun self =>
    match self.coreTransition (.lifecycle .start) with
    | .error error => (.error (.applicationStart error), self)
    | .ok (none, self) => (.error .noInitialRead, self)
    | .ok (some effect, self) => self.dispatchProtocolEffect effect operation

/-! ## The network worker -/

/-- A revoked worker answers what it cannot carry out; a pairing is refused
without an event. -/
def rejectRevokedCommand : NetworkCommand → List NetworkEvent
  | .pair => []
  | .connect session => [.connected session (.error .identity)]
  | .read session requestId operation =>
      [.readCompleted session 0 requestId operation (.error .identity)]

/-- What the network answers to the command the worker is carrying out. -/
inductive Answer
  | pair (trustPaired : Bool) (result : Except SessionError Unit)
  | connect (result : Except SessionError ℕ)
  | read (result : Except SessionError AvailabilityResult)
  deriving DecidableEq

def workerControl (self : ProtocolRuntime) : Option ProtocolRuntime :=
  match self.worker.busy, self.control with
  | none, .close :: control => some { self with
      control, worker := { self.worker with client := none }, events := self.events ++ [.closed] }
  | none, .revoke :: control => some { self with
      control, commands := [], worker := ⟨none, true, none⟩,
      events := self.events ++ self.commands.flatMap rejectRevokedCommand ++ [.closed] }
  | _, _ => none

def workerTake (self : ProtocolRuntime) : Option ProtocolRuntime :=
  match self.worker.busy, self.commands with
  | none, command :: commands =>
      if self.worker.revoked && command ≠ .pair then
        some { self with commands, events := self.events ++ rejectRevokedCommand command }
      else
        some { self with commands, worker := { self.worker with busy := some command } }
  | _, _ => none

def pairedEvent (trustPaired : Bool) (result : Except SessionError Unit) : NetworkEvent :=
  .paired trustPaired (match result with
    | .ok () => if trustPaired then .ok () else .error .identity
    | .error error => .error error)

def workerAnswer (self : ProtocolRuntime) (answer : Answer) : Option ProtocolRuntime :=
  match self.worker.busy, answer with
  | some .pair, .pair trustPaired result => some { self with
      worker := ⟨self.worker.client, self.worker.revoked && !trustPaired, none⟩
      events := self.events ++ [pairedEvent trustPaired result] }
  | some (.connect session), .connect result => some { self with
      worker := ⟨result.toOption, self.worker.revoked, none⟩
      events := self.events ++ [.connected session (result.map fun _ => ())] }
  | some (.read session requestId operation), .read result =>
      let outcome := if self.worker.client.isSome then result else .error .io
      some { self with
        worker := ⟨if outcome.isOk then self.worker.client else none, self.worker.revoked, none⟩
        events := self.events ++
          [.readCompleted session (self.worker.client.getD 0) requestId operation outcome] }
  | _, _ => none

/-- The worker ends after it has answered all of its commands; from then on the
queue refuses. -/
def workerEnds (self : ProtocolRuntime) : Option ProtocolRuntime :=
  match self.worker.busy, self.commands with
  | none, [] => some { self with commandsLost := true }
  | _, _ => none

/-! ## Steps -/

inductive Label
  | identityRevoked
  | pairStart
  | networkEvent (admitted : ℕ → Bool)
  | refreshDue (operation : ContextId)
  | reconnectDue (session : ContextId)
  | workerControl
  | workerTake
  | workerAnswer (answer : Answer)
  | workerEnds

def step (self : ProtocolRuntime) : Label → Option ProtocolRuntime
  | .identityRevoked => some self.handleIdentityRevoked
  | .pairStart => some self.handlePairStart
  | .networkEvent admitted =>
      match self.events with
      | [] => none
      | event :: events => some ({ self with events }.handleNetworkEvent admitted event)
  | .refreshDue operation =>
      match self.refreshTimer with
      | none => none
      | some timer =>
          some ({ self with refreshTimer := none }.protocolRefreshDue timer.effect operation)
  | .reconnectDue session =>
      match self.reconnectTimer with
      | none => none
      | some _ => some ({ self with reconnectTimer := none }.attemptProtocolConnect session).2
  | .workerControl => self.workerControl
  | .workerTake => self.workerTake
  | .workerAnswer answer => self.workerAnswer answer
  | .workerEnds => self.workerEnds

/-- The runtime from its startup on, until its shutdown begins. -/
def machine : StepSystem ProtocolRuntime Label where
  Initial self := ∃ session operation, startup session operation = (.ok (), self)
  step := step

end ProtocolRuntime

end Deskkin
