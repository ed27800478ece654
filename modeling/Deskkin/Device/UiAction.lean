/-
# The action slot of the service worker

One atomic slot carries what the worker is to do next. The supervisor thread
stores the choices of the user in it, the worker stores the Run and Shutdown
commands it has accepted, and the worker swaps it once on each turn of its loop,
and while a pairing waits for the user's decision. A turn takes one command,
answers it, swaps the slot, and decides whether to connect; inside a connection
commands are polled as well.

Which answers of store commands, network results, times and pairing records the
worker meets is up to the run. A log beside the state keeps the accepted
commands that were answered and not carried out; the code does not have it.
-/

import Deskkin.Device.Control
import Deskkin.Lib.Runs
import Deskkin.Protocol.Client

namespace Deskkin.Device

/-- The values of the slot. -/
inductive UiAction
  | clear
  | pair
  | confirm
  | reject
  | run
  | shutdown
  deriving DecidableEq

/-- The action of a call of the supervisor thread. Others are ignored. -/
def UiAction.ofCommand : ℕ → Option UiAction
  | 1 => some .pair
  | 2 => some .confirm
  | 3 => some .reject
  | _ => none

/-- How a connection ends for the loop. -/
inductive Outcome
  | ok
  | incompatible
  | authorizationDenied
  | failed
  deriving DecidableEq

/-- Where the worker is: at the top of its loop, with an answer to publish, before
the swap, before the decision, in a connection, on the way into and in the wait
for a pairing decision, closing a connection for a command, and back in the loop
with the result of a connection. -/
inductive WorkerPhase
  | top
  | handled (frame : Option ControlFrame) (status : ServiceStatus)
  | swapping
  | deciding (pairRequested : Bool)
  | connection (pairRequested : Bool)
  | pairingPrompt
  | pairingWait
  | closing (active : ActiveControl)
  | returned (outcome : Outcome)
  deriving DecidableEq

structure ServiceWorker where
  uiAction : UiAction
  phase : WorkerPhase
  running : Bool
  nextAttemptMs : ℕ
  connection : ProtocolAdapter
  runAttempt : ℕ
  validResult : Bool
  /-- A Shutdown, or a Run, was answered with success and is not carried out yet. -/
  shutdownOwed : Bool
  runOwed : Bool
  /-- A connection attempt began while a Shutdown was owed. -/
  shutdownLost : Bool
  /-- It was decided whether to connect while a Run was owed. -/
  runLost : Bool
  deriving DecidableEq

inductive WorkerLabel
  | uiCommand (command : ℕ)
  /-- The next command, if there is one. `none` in its place is a frame that does
  not decode. The status answers a command that does not touch the slot. -/
  | takeCommand (frame : Option (Option ControlFrame)) (answer : ServiceStatus)
  | publishCompletion
  | swap
  | decide (nowMs : ℕ) (paired : Bool)
  /-- A poll inside a connection. `begun` is whether an unpair could begin. -/
  | pollActiveControl (frame : Option ControlFrame) (begun : Bool)
  | promptPairing
  | clearAction
  | pairingDecision
  | availabilityResult
  | observeAction
  | endConnection (outcome : Outcome)
  | finishActiveControl
  | settle (nowMs : ℕ)
  deriving DecidableEq

namespace ServiceWorker

/-- `deskkin_service_ui_command`. -/
def serviceUiCommand (self : ServiceWorker) (command : ℕ) : ServiceWorker :=
  match UiAction.ofCommand command with
  | some action => { self with uiAction := action }
  | none => self

def u32Next (value : ℕ) : ℕ := (value + 1) % 2 ^ 32

/-- `handle_control`, as far as it concerns the slot. -/
def handleControl (self : ServiceWorker) (frame : ControlFrame) (answer : ServiceStatus) :
    ServiceStatus × ServiceWorker :=
  match frame.command with
  | .run =>
      if frame.payload = [] then
        let attempt := u32Next self.runAttempt
        let counted := { self with runAttempt := attempt, validResult := false }
        if attempt = 0 then (.invalid, counted)
        else (.success, { counted with uiAction := .run })
      else (.invalid, self)
  | .shutdown =>
      if frame.payload = [] then
        (.success, { self with uiAction := .shutdown, validResult := false })
      else (.invalid, self)
  | _ => (answer, self)

/-- The top of a turn. -/
def takeCommand (self : ServiceWorker) (frame : Option (Option ControlFrame))
    (answer : ServiceStatus) : Option ServiceWorker :=
  if self.phase = .top then
    match frame with
    | none => some { self with phase := .swapping }
    | some none => some { self with phase := .handled none .invalid }
    | some (some frame) =>
        let handled := self.handleControl frame answer
        some { handled.2 with phase := .handled (some frame) handled.1 }
  else none

/-- The answer goes out. A success obliges the worker. -/
def publishCompletion (self : ServiceWorker) : Option ServiceWorker :=
  match self.phase with
  | .handled frame status =>
      let command := frame.map (·.command)
      some { self with
        phase := .swapping
        shutdownOwed :=
          self.shutdownOwed || decide (command = some .shutdown ∧ status = .success)
        runOwed := self.runOwed || decide (command = some .run ∧ status = .success) }
  | _ => none

/-- The worker takes the action from the slot and carries it out. -/
def swap (self : ServiceWorker) : Option ServiceWorker :=
  if self.phase = .swapping then
    let taken := { self with uiAction := .clear, phase := .deciding (self.uiAction = .pair) }
    match self.uiAction with
    | .shutdown =>
        some { taken with
          running := false
          connection := self.connection.stop
          shutdownOwed := false }
    | .run =>
        some { taken with
          running := true
          nextAttemptMs := 0
          connection := self.connection.restartAfterPairing
          runOwed := false }
    | .pair =>
        some { taken with
          connection := self.connection.restartAfterPairing
          nextAttemptMs := 0 }
    | .clear | .confirm | .reject => some taken
  else none

/-- The decision whether to connect, and the start of the attempt. -/
def decideConnect (self : ServiceWorker) (nowMs : ℕ) (paired : Bool) : Option ServiceWorker :=
  match self.phase with
  | .deciding pairRequested =>
      let decided := { self with runLost := self.runLost || self.runOwed }
      if self.connection.state ≠ .stopped ∧ (pairRequested ∨ self.running ∧ paired) ∧
          self.nextAttemptMs ≤ nowMs then
        some { decided with
          phase := .connection pairRequested
          connection := self.connection.connecting
          validResult := false
          shutdownLost := self.shutdownLost || self.shutdownOwed }
      else
        some { decided with phase := .top }
  | _ => none

/-- What a polled command does to a connection. A Shutdown, and an unpair that has
begun, end it; everything else is answered at once and not with the success of a
Run or a Shutdown. -/
def polled (self : ServiceWorker) (frame : ControlFrame) (begun : Bool) : ServiceWorker :=
  match frame.command with
  | .shutdown =>
      if frame.payload = [] then
        { self with uiAction := .shutdown, phase := .closing .shutdown, validResult := false }
      else self
  | .identityUnpair =>
      if begun then { self with phase := .closing .unpair, validResult := false } else self
  | _ => self

def pollActiveControl (self : ServiceWorker) (frame : Option ControlFrame) (begun : Bool) :
    Option ServiceWorker :=
  match self.phase with
  | .connection _ | .pairingWait => some (frame.elim self fun frame => self.polled frame begun)
  | _ => none

/-- The prompt for the user's decision, which begins with an empty slot. -/
def promptPairing (self : ServiceWorker) : Option ServiceWorker :=
  if self.phase = .connection true then some { self with phase := .pairingPrompt } else none

def clearAction (self : ServiceWorker) : Option ServiceWorker :=
  if self.phase = .pairingPrompt then
    some { self with uiAction := .clear, phase := .pairingWait }
  else none

/-- The wait for the decision swaps the slot until it finds one. -/
def pairingDecision (self : ServiceWorker) : Option ServiceWorker :=
  if self.phase = .pairingWait then
    match self.uiAction with
    | .confirm | .reject => some { self with uiAction := .clear, phase := .connection true }
    | _ => some { self with uiAction := .clear }
  else none

def availabilityResult (self : ServiceWorker) : Option ServiceWorker :=
  match self.phase with
  | .connection _ => some { self with validResult := true }
  | _ => none

/-- Between two reads a session looks at the slot and ends at a Shutdown. -/
def observeAction (self : ServiceWorker) : Option ServiceWorker :=
  match self.phase with
  | .connection _ =>
      if self.uiAction = .shutdown then some { self with phase := .returned .ok } else none
  | _ => none

def endConnection (self : ServiceWorker) (outcome : Outcome) : Option ServiceWorker :=
  match self.phase with
  | .connection _ | .pairingPrompt | .pairingWait =>
      if outcome = .ok then none
      else some { self with phase := .returned outcome, validResult := false }
  | _ => none

/-- The connection is closed and the command that ended it is answered. -/
def finishActiveControl (self : ServiceWorker) : Option ServiceWorker :=
  match self.phase with
  | .closing .shutdown => some { self with phase := .returned .ok, shutdownOwed := true }
  | .closing .unpair => some { self with phase := .returned .ok }
  | _ => none

def zeroSession : ContextId := .replicate 16 0

/-- The loop books the result of a connection and sets the next attempt. -/
def settle (self : ServiceWorker) (nowMs : ℕ) : Option ServiceWorker :=
  match self.phase with
  | .returned outcome =>
      let retry := fun (connection : ProtocolAdapter) =>
        let failed := connection.connectionFailed
        { self with
          phase := .top
          connection := failed.2
          nextAttemptMs := min (nowMs + (match failed.1 with
            | .ok delay => delay
            | .error _ => 5000)) Checked.u64Max }
      match outcome with
      | .ok =>
          let proven :=
            if self.validResult then
              (self.connection.authenticated zeroSession).validAvailabilityResult
            else self.connection
          some { retry proven with validResult := false }
      | .incompatible =>
          some { self with
            phase := .top, connection := self.connection.helloRejected .noCommonVersion }
      | .authorizationDenied =>
          some { self with
            phase := .top, connection := self.connection.helloRejected .permissionDenied }
      | .failed => some (retry self.connection)
  | _ => none

def step (self : ServiceWorker) : WorkerLabel → Option ServiceWorker
  | .uiCommand command => some (self.serviceUiCommand command)
  | .takeCommand frame answer => self.takeCommand frame answer
  | .publishCompletion => self.publishCompletion
  | .swap => self.swap
  | .decide nowMs paired => self.decideConnect nowMs paired
  | .pollActiveControl frame begun => self.pollActiveControl frame begun
  | .promptPairing => self.promptPairing
  | .clearAction => self.clearAction
  | .pairingDecision => self.pairingDecision
  | .availabilityResult => self.availabilityResult
  | .observeAction => self.observeAction
  | .endConnection outcome => self.endConnection outcome
  | .finishActiveControl => self.finishActiveControl
  | .settle nowMs => self.settle nowMs

/-- The worker as it enters its loop. -/
def started : ServiceWorker where
  uiAction := .clear
  phase := .top
  running := true
  nextAttemptMs := 0
  connection := .new
  runAttempt := 0
  validResult := false
  shutdownOwed := false
  runOwed := false
  shutdownLost := false
  runLost := false

/-- The service worker with the supervisor thread and the network. -/
def machine : StepSystem ServiceWorker WorkerLabel where
  Initial self := self = started
  step := step

end ServiceWorker

end Deskkin.Device
