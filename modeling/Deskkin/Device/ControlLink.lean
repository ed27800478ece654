/-
# The control thread and the service worker

The control thread reads frames from the serial link. It answers subscriptions, bad ones
at once, and the three commands that only look at the device; every other frame it puts
into one of two queues, a reserved one for shutdown and one for the rest. Then it waits
for a completion with the id of the frame for five seconds, passes over the others, and
at the end purges the queue and answers with an error of its own.

The service worker takes the frames between two turns of its loop and inside a connection,
and publishes a completion for each of them. A shutdown or an unpair that ends a
connection is answered once the connection is closed.

Each label is a step of one of the two threads between two accesses of the queues. The
frame that a completion answers, and the logs, are kept for the statements; the code does
not have them.
-/

import Deskkin.Amp.StatusResponse
import Deskkin.Device.DiagnosticWatch
import Deskkin.Device.UiAction
import Deskkin.Lib.Channel
import Deskkin.Nvs.Commands

namespace Deskkin.Device

open BigEndian Placement

/-! ## Frames and completions -/

def completionFrameMax : ℕ := 236

/-- A frame as the control thread reads it. -/
structure BoundedFrame where
  bytes : List UInt8
  long : 28 ≤ bytes.length
  short : bytes.length ≤ controlFrameMax
  schema : bytes.getD 0 0 = schemaVersion
  deriving DecidableEq

namespace BoundedFrame

/-- The byte of the command. -/
def code (frame : BoundedFrame) : ℕ := (frame.bytes.getD 1 0).toNat

def commandId (frame : BoundedFrame) : List UInt8 := field frame.bytes 2 18

/-- A diagnostic subscription, which the control thread serves itself. -/
def subscribes (frame : BoundedFrame) : Bool :=
  frame.code = 11 ∧ (frame.bytes.length = 30 ∨ frame.bytes.length = 31)

/-- The duration or the flag of a subscription is out of range. -/
def badSubscription (frame : BoundedFrame) : Bool :=
  let seconds := ofBytes (field frame.bytes 28 30)
  seconds = 0 ∨ seconds > 300 ∨ frame.bytes.length = 31 ∧ (frame.bytes.getD 30 0).toNat > 1

/-- The commands that are answered without the worker. -/
def observes (frame : BoundedFrame) : Bool := frame.code = 2 ∨ frame.code = 5 ∨ frame.code = 8

def isReserved (frame : BoundedFrame) : Bool := frame.code = 9

end BoundedFrame

def ServiceStatus.code : ServiceStatus → UInt8
  | .success => 0
  | .invalid => 1
  | .alreadyInitialized => 2
  | .missing => 3
  | .storeFailed => 4
  | .peerMismatch => 5
  | .busy => 6

/-- What the answers are made of: the atomics that mirror the identity, the identity
itself where it can be loaded, and the state that the status command shows. -/
structure LinkView where
  generation : UInt64
  identity : Option StoredIdentity
  peerState : PeerState
  peerId : Vector UInt8 32
  configPresent : Bool
  device : Amp.DeviceState
  profile : Option (UInt32 × Amp.RasterProfile)

def PeerState.code (state : PeerState) : UInt8 := (RecordState.identity state).wire

/-- The first bytes of every answer with an id. -/
def answerHeader (status : UInt8) (commandId : List UInt8) : List UInt8 :=
  [1, status] ++ commandId

/-- `uart_write_closed_error`. -/
def closedError (frame : BoundedFrame) (status : UInt8) : List UInt8 :=
  answerHeader status frame.commandId

/-- `deskkin_rust_control_snapshot`; no bytes are no answer. -/
def rustControlSnapshot (input : List UInt8) (view : LinkView) : List UInt8 :=
  match decodeControl input with
  | .error _ => []
  | .ok control =>
      let head := answerHeader ServiceStatus.success.code control.commandId.toList ++
        be64 view.generation
      if control.payload ≠ [] then []
      else
        match control.command with
        | .identityList =>
            if view.peerState = .unpaired then head ++ [view.peerState.code]
            else head ++ [view.peerState.code] ++ view.peerId.toList
        | .wifiStatus => head ++ [if view.configPresent then 1 else 0]
        | .status =>
            Amp.controlSnapshot control.commandId
              { view.device with ownerGeneration := view.generation } view.profile
        | _ => []

/-- `publish_control_completion`. -/
def controlCompletion (control : Option DecodedControl) (status : ServiceStatus)
    (view : LinkView) (runAttempt : ℕ) : List UInt8 :=
  match control with
  | none => [1, status.code]
  | some control =>
      let generation := view.identity.elim 0 StoredIdentity.generation
      let head := answerHeader status.code control.commandId.toList ++ toBytes 8 generation
      match control.command with
      | .identityList =>
          match view.identity with
          | none => head
          | some identity =>
              if 96 ≤ identity.payload.length ∧ identity.state ≠ .unpaired then
                head ++ [identity.state.code] ++ field identity.payload 64 96
              else head ++ [identity.state.code]
      | .status =>
          Amp.controlSnapshot control.commandId
            { view.device with ownerGeneration := UInt64.ofNat generation } view.profile
      | .run => head ++ toBytes 4 runAttempt
      | _ => head

/-- `publish_basic_completion`. -/
def basicCompletion (commandId : List UInt8) (status : ServiceStatus) (view : LinkView) :
    List UInt8 :=
  answerHeader status.code commandId ++ be64 view.generation

/-- A completion with the frame it answers. -/
structure Completion where
  question : BoundedFrame
  bytes : List UInt8
  deriving DecidableEq

/-! ## The two threads -/

/-- Where the control thread is. -/
inductive ControlPhase
  | reading
  | watching
  | submitting (frame : BoundedFrame)
  /-- `skipped` is whether a completion was passed over since the frame was put. -/
  | waiting (frame : BoundedFrame) (skipped : Bool)
  deriving DecidableEq

structure ControlLink where
  phase : ControlPhase
  applicationCommands : Channel BoundedFrame 4
  reservedControl : Channel BoundedFrame 1
  workerCompletions : Channel Completion 8
  worker : ServiceWorker
  /-- The frame that the worker has taken and not answered. -/
  command : Option BoundedFrame
  received : List BoundedFrame
  /-- The frames that were answered by the worker, with the status of the answer. -/
  handled : List (BoundedFrame × ServiceStatus)
  /-- The answers that found the queue full. -/
  dropped : List Completion
  /-- The frames that found the queue full. -/
  refused : List BoundedFrame
  /-- What was written to the serial link, less the events of subscriptions. -/
  written : List (BoundedFrame × List UInt8)

inductive LinkLabel
  | receive (frame : BoundedFrame) (view : LinkView)
  | endWatch
  | submit
  | refuse
  | takeCompletion
  | expire
  | takeCommand (answer : ServiceStatus)
  | publishCompletion (view : LinkView)
  | poll
  /-- `begun` is whether the polled command was an unpair that could begin. -/
  | pollAnswer (begun : Bool) (answer : ServiceStatus) (view : LinkView)
  | finish (answer : ServiceStatus) (view : LinkView)
  /-- A step of the worker, or of the supervisor thread, that has to do with no command. -/
  | worker (label : WorkerLabel)

namespace ControlLink

/-- Write an answer and read the next frame. -/
def respond (self : ControlLink) (frame : BoundedFrame) (bytes : List UInt8) : ControlLink :=
  { self with phase := .reading, written := self.written ++ [(frame, bytes)] }

def receive (self : ControlLink) (frame : BoundedFrame) (view : LinkView) : Option ControlLink :=
  if self.phase = .reading then
    let read := { self with received := self.received ++ [frame] }
    if frame.subscribes then
      if frame.badSubscription then some (read.respond frame (closedError frame 4))
      else
        some { read.respond frame (answerHeader 0 frame.commandId) with phase := .watching }
    else if frame.observes then
      let reply := rustControlSnapshot frame.bytes view
      if reply.length = 0 ∨ reply.length > completionFrameMax then some read
      else some (read.respond frame reply)
    else some { read with phase := .submitting frame }
  else none

/-- `k_msgq_put` into the queue of the frame. -/
def submit (self : ControlLink) : Option ControlLink :=
  match self.phase with
  | .submitting frame =>
      let queued := { self with phase := .waiting frame false }
      if frame.isReserved then
        (self.reservedControl.trySend frame).map fun queue =>
          { queued with reservedControl := queue }
      else
        (self.applicationCommands.trySend frame).map fun queue =>
          { queued with applicationCommands := queue }
  | _ => none

/-- The queue stayed full for two seconds. -/
def refuse (self : ControlLink) : Option ControlLink :=
  match self.phase with
  | .submitting frame =>
      if self.submit.isNone then
        some { self.respond frame (closedError frame 8) with
          refused := self.refused ++ [frame] }
      else none
  | _ => none

def answers (frame : BoundedFrame) (completion : Completion) : Bool :=
  18 ≤ completion.bytes.length ∧ field completion.bytes 2 18 = frame.commandId

/-- One turn of `take_matching_completion` that finds a completion. -/
def takeCompletion (self : ControlLink) : Option ControlLink :=
  match self.phase with
  | .waiting frame _ =>
      self.workerCompletions.tryRecv.map fun (completion, rest) =>
        let taken := { self with workerCompletions := rest }
        if answers frame completion then taken.respond frame completion.bytes
        else { taken with phase := .waiting frame true }
  | _ => none

/-- The five seconds are over. -/
def expire (self : ControlLink) : Option ControlLink :=
  match self.phase with
  | .waiting frame _ =>
      let purged :=
        if frame.isReserved then { self with reservedControl := .empty }
        else { self with applicationCommands := .empty }
      some (purged.respond frame (closedError frame 8))
  | _ => none

/-- `deskkin_service_take_command`: shutdown goes first. -/
def takeQueued (self : ControlLink) : Option (BoundedFrame × ControlLink) :=
  match self.reservedControl.tryRecv with
  | some (frame, rest) =>
      some (frame, { self with reservedControl := rest, command := some frame })
  | none =>
      self.applicationCommands.tryRecv.map fun (frame, rest) =>
        (frame, { self with applicationCommands := rest, command := some frame })

/-- `deskkin_service_publish_completion` with the answer to the frame. -/
def publish (self : ControlLink) (frame : BoundedFrame) (status : ServiceStatus)
    (bytes : List UInt8) : ControlLink :=
  let answered := { self with
    command := none, handled := self.handled ++ [(frame, status)] }
  match self.workerCompletions.trySend ⟨frame, bytes⟩ with
  | some queue => { answered with workerCompletions := queue }
  | none => { answered with dropped := self.dropped ++ [⟨frame, bytes⟩] }

def decoded (frame : BoundedFrame) : Option DecodedControl := (decodeControl frame.bytes).toOption

/-- The top of a turn of the worker. -/
def takeCommand (self : ControlLink) (answer : ServiceStatus) : Option ControlLink :=
  if self.worker.phase = .top ∧ self.command = none then
    match self.takeQueued with
    | none => (self.worker.takeCommand none answer).map fun worker => { self with worker }
    | some (frame, taken) =>
        let control := (decoded frame).map DecodedControl.toControlFrame
        (self.worker.takeCommand (some control) answer).map fun worker => { taken with worker }
  else none

/-- The answer to a command that was handled in the loop. -/
def publishCompletion (self : ControlLink) (view : LinkView) : Option ControlLink :=
  match self.worker.phase, self.command with
  | .handled _ status, some frame =>
      self.worker.publishCompletion.map fun worker =>
        let bytes := controlCompletion (decoded frame) status view self.worker.runAttempt
        { self.publish frame status bytes with worker }
  | _, _ => none

/-- The worker is in a connection and polls. -/
def polling (self : ControlLink) : Bool :=
  match self.worker.phase with
  | .connection _ | .pairingWait => true
  | _ => false

def poll (self : ControlLink) : Option ControlLink :=
  if self.polling ∧ self.command = none then self.takeQueued.map Prod.snd else none

/-- The status of a polled command that does not end the connection. -/
def polledStatus (control : DecodedControl) (answer : ServiceStatus) : ServiceStatus :=
  match control.command with
  | .identityUnpair => answer
  | .worldBenchmarkStart => if control.payload = [] then answer else .busy
  | _ => .busy

/-- The rest of `poll_active_control`. -/
def pollAnswer (self : ControlLink) (begun : Bool) (answer : ServiceStatus) (view : LinkView) :
    Option ControlLink :=
  if self.polling then
    self.command.bind fun frame =>
      match decoded frame with
      | none => some (self.publish frame .invalid (controlCompletion none .invalid view 0))
      | some control =>
          let worker := self.worker.polled control.toControlFrame begun
          match worker.phase with
          | .closing _ => some { self with worker }
          | _ =>
              let status := polledStatus control answer
              let bytes := controlCompletion (some control) status view worker.runAttempt
              some { self.publish frame status bytes with worker }
  else none

/-- The status of a command that has ended a connection. -/
def finishedStatus (answer : ServiceStatus) : ActiveControl → ServiceStatus
  | .shutdown => .success
  | .unpair => answer

/-- `finish_active_control`. -/
def finish (self : ControlLink) (answer : ServiceStatus) (view : LinkView) : Option ControlLink :=
  match self.worker.phase, self.command with
  | .closing active, some frame =>
      self.worker.finishActiveControl.map fun worker =>
        let status := finishedStatus answer active
        { self.publish frame status (basicCompletion frame.commandId status view) with worker }
  | _, _ => none

/-- A step of the worker that takes no command and answers none. -/
def workerStep (self : ControlLink) (label : WorkerLabel) : Option ControlLink :=
  match label with
  | .takeCommand .. | .publishCompletion | .pollActiveControl .. | .finishActiveControl => none
  | .uiCommand _ => (self.worker.step label).map fun worker => { self with worker }
  | _ =>
      if self.command = none then (self.worker.step label).map fun worker => { self with worker }
      else none

def step (self : ControlLink) : LinkLabel → Option ControlLink
  | .receive frame view => self.receive frame view
  | .endWatch => if self.phase = .watching then some { self with phase := .reading } else none
  | .submit => self.submit
  | .refuse => self.refuse
  | .takeCompletion => self.takeCompletion
  | .expire => self.expire
  | .takeCommand answer => self.takeCommand answer
  | .publishCompletion view => self.publishCompletion view
  | .poll => self.poll
  | .pollAnswer begun answer view => self.pollAnswer begun answer view
  | .finish answer view => self.finish answer view
  | .worker label => self.workerStep label

def started : ControlLink where
  phase := .reading
  applicationCommands := .empty
  reservedControl := .empty
  workerCompletions := .empty
  worker := .started
  command := none
  received := []
  handled := []
  dropped := []
  refused := []
  written := []

/-- The two threads with the serial link and the surroundings of the worker. -/
def machine : StepSystem ControlLink LinkLabel where
  Initial self := self = started
  step := step

end ControlLink

end Deskkin.Device
