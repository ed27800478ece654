/-
# The worker and its connections

The service worker of the device takes commands and user actions, decides when to connect
and holds one connection at a time. Once a session is open, the availability loop
reads, waits and reads again until something ends it. Whether the connection has
received a valid result is kept in one flag, which the worker looks at when the
connection is over and which the device also shows in its status.

A step of the model is one answer of the surroundings: a turn of the worker, the
end of an attempt that opened no session, or an input of the availability loop.
-/

import Deskkin.Application.Composition
import Deskkin.Device.Control
import Deskkin.Protocol.Codec

namespace Deskkin.Device

open Protocol Application

/-! ## The availability loop -/

/-- Why a message was not read or written; the link is also where the worker
takes its commands during a session. -/
inductive LinkFailure
  | control (active : ActiveControl)
  | tcp
  | noise
  | protocol
  deriving DecidableEq

def LinkFailure.failure : LinkFailure → SessionFailure
  | .control active => .control active
  | .tcp => .tcp
  | .noise => .noise
  | .protocol => .protocol

/-- Where the loop waits for its next input. -/
inductive LoopPhase
  | requesting (read : Application.Effect)
  | reading (read : Application.Effect) (requestId : ℕ) (operation : ContextId)
  | waiting (timer : Application.Effect) (left : ℕ)
  deriving DecidableEq

/-- The variables of the loop. -/
structure AvailabilityLoop where
  session : ContextId
  adapter : ProtocolAdapter
  application : Application
  phase : LoopPhase
  deriving DecidableEq

/-- What the loop meets. A request polls the commands, draws an operation and
writes; a message may have to be answered; a tick of the wait polls the commands
and looks at the user's action. -/
inductive LoopInput
  | request (poll : Option ActiveControl) (operation : Option ContextId)
      (unwritten : Option LinkFailure)
  | received (message : Except LinkFailure Message) (unwritten : Option LinkFailure)
  | tick (poll : Option ActiveControl) (action : UInt8)

/-- How the loop goes on. When it stores a result it sets the flag. -/
inductive Progress
  | continues (next : AvailabilityLoop)
  | stores (next : AvailabilityLoop)
  | closed

namespace AvailabilityLoop

/-- A transition of the application, of which the loop needs one effect. -/
def transition (application : Application) (input : ApplicationInput) :
    Except SessionFailure (Option Application.Effect × Application) :=
  match application.transition input with
  | .error _ => .error .protocol
  | .ok (transition, next) => .ok (transition.effects.get 0, next)

def required {α : Type} : Option α → Except SessionFailure α
  | none => .error .protocol
  | some value => .ok value

def start (session : ContextId) : Except SessionFailure AvailabilityLoop := do
  let (effect, application) ← transition Application.new (.lifecycle .start)
  let read ← required effect
  return ⟨session, ProtocolAdapter.new.authenticated session, application, .requesting read⟩

def request (self : AvailabilityLoop) (read : Application.Effect) (poll : Option ActiveControl)
    (operation : Option ContextId) (unwritten : Option LinkFailure) :
    Except SessionFailure Progress :=
  match poll, operation with
  | some active, _ => .error (.control active)
  | none, none => .error .noise
  | none, some operation =>
      match self.adapter.beginRead read.id.localId.get operation, unwritten with
      | (.error _, _), _ => .error .protocol
      | (.ok _, _), some failure => .error failure.failure
      | (.ok requestId, adapter), none =>
          .ok (.continues { self with adapter, phase := .reading read requestId operation })

/-- What the adapter reports, as the completion of the read. -/
def completion : AvailabilityValue → Except Availability.ReadError Availability.Availability
  | .available => .ok .available
  | .unavailable => .ok .unavailable
  | .readFailed => .error .unavailable

/-- The result of the present read: the read completes, the result is stored and
the timer of the next read is armed. -/
def complete (self : AvailabilityLoop) (read : Application.Effect) (requestId : ℕ)
    (operation : ContextId) (result : AvailabilityResult) : Except SessionFailure Progress :=
  match self.adapter.result self.session requestId operation result with
  | (.ok (.availabilityCompleted effectId value), adapter) => do
      let effectId ← required (LocalEffectId.new effectId)
      let (effect, application) ← transition self.application
        (.availabilityEffect read.id (.readCompleted ⟨effectId, completion value⟩))
      let timer ← required effect
      let (_, application) ← transition application
        (.availabilityEffect timer.id (.timerArmCompleted ⟨timer.id.localId, .ok ()⟩))
      return .stores { self with adapter, application, phase := .waiting timer 500 }
  | _ => .error .protocol

def receive (self : AvailabilityLoop) (read : Application.Effect) (requestId : ℕ)
    (operation : ContextId) (message : Except LinkFailure Message)
    (unwritten : Option LinkFailure) : Except SessionFailure Progress :=
  match message with
  | .error failure => .error failure.failure
  | .ok (.availabilityResult receivedId receivedOperation result) =>
      if receivedId.toNat ≠ requestId ∨ receivedOperation ≠ operation then .error .protocol
      else self.complete read receivedId.toNat receivedOperation result
  | .ok .ping =>
      match unwritten with
      | some failure => .error failure.failure
      | none => .ok (.continues self)
  | .ok _ => .error .protocol

/-- One of five hundred rounds of the wait, after the last of which the refresh
is due. Whether the `Close` could be written makes no difference. -/
def wait (self : AvailabilityLoop) (timer : Application.Effect) (left : ℕ)
    (poll : Option ActiveControl) (action : UInt8) : Except SessionFailure Progress :=
  match poll with
  | some active => .error (.control active)
  | none =>
      if action = 5 ∨ action = 6 then .ok .closed
      else if 1 < left then .ok (.continues { self with phase := .waiting timer (left - 1) })
      else do
        let (effect, application) ← transition self.application
          (.availabilityEffect timer.id (.refreshDue ⟨timer.id.localId⟩))
        let read ← required effect
        return .continues { self with application, phase := .requesting read }

/-- An input that the loop does not wait for cannot come. -/
def step (self : AvailabilityLoop) (input : LoopInput) : Option (Except SessionFailure Progress) :=
  match self.phase, input with
  | .requesting read, .request poll operation unwritten =>
      some (self.request read poll operation unwritten)
  | .reading read requestId operation, .received message unwritten =>
      some (self.receive read requestId operation message unwritten)
  | .waiting timer left, .tick poll action => some (self.wait timer left poll action)
  | _, _ => none

end AvailabilityLoop

/-! ## The worker -/

/-- Where the worker is: between attempts, in an attempt without a session, or
in the availability loop. -/
inductive AttemptStage
  | idle
  | connecting
  | looping (loop : AvailabilityLoop)
  deriving DecidableEq

/-- The variables of the worker and the flag. -/
structure ReconnectWorker where
  running : Bool
  nextAttemptMs : ℕ
  connection : ProtocolAdapter
  validResult : Bool
  stage : AttemptStage
  deriving DecidableEq

/-- What the worker meets. In a turn it may have a command; `paired` says what
the identity store holds. The clock is read when an attempt is over. -/
inductive WorkerInput
  | turn (command : Option ControlFrame) (action : UInt8) (now : ℕ) (paired : Bool)
  | failed (failure : SessionFailure) (now : ℕ)
  | opened (session : ContextId) (now : ℕ)
  | loop (input : LoopInput) (now : ℕ)

namespace ReconnectWorker

def new : ReconnectWorker where
  running := true
  nextAttemptMs := 0
  connection := ProtocolAdapter.new
  validResult := false
  stage := .idle

/-- Two commands withdraw the last result. -/
def handleControl (self : ReconnectWorker) (command : Option ControlFrame) : ReconnectWorker :=
  match command with
  | some frame =>
      if (frame.command = .run ∨ frame.command = .shutdown) ∧ frame.payload = [] then
        { self with validResult := false }
      else self
  | none => self

/-- The user's action since the last turn. -/
def takeAction (self : ReconnectWorker) (action : UInt8) : ReconnectWorker :=
  if action = 5 then { self with running := false, connection := self.connection.stop }
  else if action = 4 then
    { self with running := true, nextAttemptMs := 0
                connection := self.connection.restartAfterPairing }
  else if action = 1 then
    { self with nextAttemptMs := 0, connection := self.connection.restartAfterPairing }
  else self

/-- A turn ends with an attempt to connect when one is wanted and due. -/
def turn (self : ReconnectWorker) (command : Option ControlFrame) (action : UInt8) (now : ℕ)
    (paired : Bool) : ReconnectWorker :=
  let self := (self.handleControl command).takeAction action
  if self.connection.state ≠ .stopped ∧ (action = 1 ∨ (self.running ∧ paired)) ∧
      self.nextAttemptMs ≤ now then
    { self with connection := self.connection.connecting, validResult := false
                stage := .connecting }
  else self

/-- The next attempt is scheduled; the delay is returned beside the worker. -/
def retry (self : ReconnectWorker) (now : ℕ) : ReconnectWorker × Option ℕ :=
  let (outcome, connection) := self.connection.connectionFailed
  let delay := match outcome with
    | .ok delay => delay
    | .error _ => 5000
  ({ self with connection, nextAttemptMs := min (now + delay) Checked.u64Max }, some delay)

/-- The worker after `connect_once`, with the delay it scheduled. -/
def finish (self : ReconnectWorker) (result : Except SessionFailure Unit) (now : ℕ) :
    ReconnectWorker × Option ℕ :=
  match result with
  | .ok () =>
      let connection :=
        if self.validResult then
          (self.connection.authenticated (Vector.replicate 16 0)).validAvailabilityResult
        else self.connection
      { self with connection, validResult := false }.retry now
  | .error .incompatible =>
      ({ self with connection := self.connection.helloRejected .noCommonVersion }, none)
  | .error .authorizationDenied =>
      ({ self with connection := self.connection.helloRejected .permissionDenied }, none)
  | .error _ => self.retry now

/-- The end of `connect_once`: a command that ended the session is carried out
and counts as no failure; any other failure clears the flag. -/
def endAttempt (self : ReconnectWorker) (result : Except SessionFailure Unit) (now : ℕ) :
    ReconnectWorker × Option ℕ :=
  let self := { self with stage := .idle }
  match result with
  | .ok () => self.finish (.ok ()) now
  | .error (.control _) => self.finish (.ok ()) now
  | .error failure => { self with validResult := false }.finish (.error failure) now

/-- The end of the availability loop: a failure clears the flag. -/
def endLoop (self : ReconnectWorker) (result : Except SessionFailure Unit) (now : ℕ) :
    ReconnectWorker × Option ℕ :=
  match result with
  | .ok () => self.endAttempt (.ok ()) now
  | .error failure => { self with validResult := false }.endAttempt (.error failure) now

/-- One step, with the delay that it scheduled. -/
def step (self : ReconnectWorker) (input : WorkerInput) : Option (ReconnectWorker × Option ℕ) :=
  match self.stage, input with
  | .idle, .turn command action now paired => some (self.turn command action now paired, none)
  | .connecting, .failed failure now => some (self.endAttempt (.error failure) now)
  | .connecting, .opened session now =>
      match AvailabilityLoop.start session with
      | .error failure => some (self.endAttempt (.error failure) now)
      | .ok loop => some ({ self with stage := .looping loop }, none)
  | .looping loop, .loop input now =>
      match loop.step input with
      | none => none
      | some (.error failure) => some (self.endLoop (.error failure) now)
      | some (.ok (.continues next)) => some ({ self with stage := .looping next }, none)
      | some (.ok (.stores next)) =>
          some ({ self with stage := .looping next, validResult := true }, none)
      | some (.ok .closed) => some (self.endLoop (.ok ()) now)
  | _, _ => none

end ReconnectWorker

end Deskkin.Device
