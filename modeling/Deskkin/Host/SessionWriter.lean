/-
# The reader and the writer of a host session

A session has two threads. The reader takes the messages of the peer off the stream and
hands its answers to the writer: responses through a bounded channel, a pong through a
second one, and the request to close through a cell of its own. The writer polls the cell
and the channels, sorts what it finds into a queue and writes one message at a time.

A step of a thread is what it does between two looks at what it shares with the other one.
What comes from outside, a message of the peer, the generation that the store holds, the
outcome of a write, appears as the answers that the step gets. The diagnostics of the
session are left out: nothing here reads them. The log is there for the proofs; neither
thread reads it.
-/

import Deskkin.Host.Capabilities
import Deskkin.Lib.Channel
import Deskkin.Protocol.Codec
import Deskkin.Simulator.Runtime

namespace Deskkin.Host

open Protocol Simulator

def acceptRequestId (last requestId : UInt32) : Option UInt32 :=
  if Checked.add Checked.u32Max last.toNat 1 = some requestId.toNat then some requestId else none

def isClose : Message → Bool
  | .close _ => true
  | _ => false

/-! ## The queue of the writer -/

structure SessionWriteQueue where
  close : Option Message
  pong : Bool
  ping : Bool
  application : List Message
  deriving DecidableEq

namespace SessionWriteQueue

def new : SessionWriteQueue := ⟨none, false, false, []⟩

def enqueueApplication (queue : SessionWriteQueue) (message : Message) :
    Except SessionError SessionWriteQueue :=
  if queue.application.length ≥ 8 then .error .queueFull
  else .ok { queue with application := queue.application ++ [message] }

def enqueueClose (queue : SessionWriteQueue) (reason : CloseReason) : SessionWriteQueue :=
  { queue with close := some (.close reason) }

def enqueuePong (queue : SessionWriteQueue) : SessionWriteQueue :=
  { queue with pong := true }

def enqueuePingIfIdle (queue : SessionWriteQueue) : SessionWriteQueue :=
  if queue.close.isNone && !queue.pong && queue.application.isEmpty then
    { queue with ping := true }
  else queue

/-- The message that is written next, and the queue without it. -/
def pop (queue : SessionWriteQueue) : Option (Message × SessionWriteQueue) :=
  match queue.close with
  | some message => some (message, { queue with close := none })
  | none =>
      if queue.pong then some (.pong, { queue with pong := false })
      else if queue.ping then some (.ping, { queue with ping := false })
      else
        match queue.application with
        | [] => none
        | message :: rest => some (message, { queue with application := rest })

end SessionWriteQueue

/-! ## The state of a session -/

inductive WriterControl
  | close (reason : CloseReason)
  | pong
  | stop
  deriving DecidableEq

/-- Where the writer is: before its look at the cell, at the control channel or at the
channel of the responses, waiting for a response, about to take the gate for a message,
behind the gate, or out of its loop. When it is out, it first reports a failure and only
then drops its ends of the channels. -/
inductive WriterPoint
  | closeCell
  | controls
  | applications
  | waiting
  | gate (message : Message)
  | sending (message : Message)
  | returned (result : Except SessionError Unit)
  | reported (result : Except SessionError Unit)
  | exited (result : Except SessionError Unit)
  deriving DecidableEq

/-- Where the reader is: before the next message, before its look at the failure of the
writer, waiting for the writer after a close, out of its loop with an error, waiting for
the writer after that, or over. -/
inductive ReaderPoint
  | reading
  | processed
  | joining
  | failed (error : SessionError)
  | stopped (error : SessionError)
  | finished (result : Except SessionError Unit)
  deriving DecidableEq

inductive SessionEvent
  | accepted (requestId : UInt32)
  | enqueued (response : Message)
  | pongRequested
  | closeRequested (reason : CloseReason)
  | written (message : Message)
  deriving DecidableEq

structure Session where
  generation : ℕ
  reader : ReaderPoint
  lastRequestId : UInt32
  capabilities : HostCapabilities
  applications : Channel Message 8
  controls : Channel WriterControl 1
  failure : Channel SessionError 1
  close : Option CloseReason
  writer : WriterPoint
  queue : SessionWriteQueue
  log : List SessionEvent
  deriving DecidableEq

/-- What a step learns from outside: the message that is read, what the store says about
the paired generation (nothing when it cannot say), whether nothing has been written for
fifteen seconds, and the outcome of a write. -/
structure Answers where
  read : Except SessionError Message
  paired : Option ℕ
  idle : Bool
  sent : Except SessionError Unit

namespace Session

/-- Both threads at the start of their loops. -/
def start (generation : ℕ) (result : AvailabilityResult) : Session where
  generation := generation
  reader := .reading
  lastRequestId := 0
  capabilities := ((HostCapabilities.new (hostAvailability result)).lifecycle .start).2
  applications := Channel.empty
  controls := Channel.empty
  failure := Channel.empty
  close := none
  writer := .closeCell
  queue := SessionWriteQueue.new
  log := []

/-- The writer has dropped its ends of the channels. -/
def disconnected (session : Session) : Bool :=
  match session.writer with
  | .exited _ => true
  | _ => false

def record (session : Session) (event : SessionEvent) : Session :=
  { session with log := session.log ++ [event] }

/-! ## The reader -/

def enqueueApplication (session : Session) (message : Message) : Except SessionError Session :=
  if session.disconnected then .error .queueFull
  else
    match session.applications.trySend message with
    | some applications =>
        .ok ({ session with applications := applications }.record (.enqueued message))
    | none => .error .queueFull

def enqueueControl (session : Session) (control : WriterControl) : Except SessionError Session :=
  match control with
  | .close reason =>
      .ok ({ session with close := some reason }.record (.closeRequested reason))
  | control =>
      if session.disconnected then .error .queueFull
      else
        match session.controls.trySend control with
        | some controls => .ok { session with controls := controls }
        | none => .error .queueFull

/-- Ask for a pong. -/
def enqueuePong (session : Session) : Except SessionError Session :=
  (session.enqueueControl .pong).map fun after => after.record .pongRequested

def fail (session : Session) (error : SessionError) : Session :=
  { session with reader := .failed error }

/-- Go on with what a call returns, or leave the loop with its error. -/
def proceed (session : Session) (reader : ReaderPoint) : Except SessionError Session → Session
  | .ok after => { after with reader := reader }
  | .error error => session.fail error

def readAvailability (session : Session) (paired : Option ℕ) (requestId : UInt32)
    (operation : ContextId) : Session :=
  match acceptRequestId session.lastRequestId requestId with
  | none => session.fail .protocol
  | some last =>
      let session := { session with lastRequestId := last }.record (.accepted requestId)
      if paired ≠ some session.generation then session.fail .identity
      else
        match session.capabilities.invoke .readAvailability with
        | (.error _, capabilities) => { session with capabilities := capabilities }.fail .protocol
        | (.ok invocation, capabilities) =>
            let session := { session with capabilities := capabilities }
            session.proceed .processed (session.enqueueApplication
              (.availabilityResult requestId operation (protocolAvailability invocation.result)))

def handle (session : Session) (paired : Option ℕ) : Message → Session
  | .readAvailability requestId operation => session.readAvailability paired requestId operation
  | .ping => session.proceed .processed session.enqueuePong
  | .pong => { session with reader := .processed }
  | .close reason => session.proceed .joining (session.enqueueControl (.close reason))
  | _ => session.fail .protocol

/-- When the reader leaves its loop with an error, the writer is told to stop as far as
there is room for it. -/
def tellStop (session : Session) : Session :=
  match session.enqueueControl .stop with
  | .ok told => told
  | .error _ => session

/-- The result of the writer, once its thread is over. -/
def joined (session : Session) : Option (Except SessionError Unit) :=
  match session.writer with
  | .exited result => some result
  | _ => none

def readerStep (session : Session) (answers : Answers) : Option Session :=
  match session.reader with
  | .reading =>
      match answers.read with
      | .ok message => some (session.handle answers.paired message)
      | .error error => some (session.fail error)
  | .processed =>
      match session.failure.tryRecv with
      | some (error, failure) => some ({ session with failure := failure }.fail error)
      | none => some { session with reader := .reading }
  | .joining => session.joined.map fun result => { session with reader := .finished result }
  | .failed error => some { session.tellStop with reader := .stopped error }
  | .stopped error =>
      session.joined.map fun _ => { session with reader := .finished (.error error) }
  | .finished _ => none

/-! ## The writer -/

/-- Move a response from the channel into the queue, or leave the loop. -/
def queueApplication (session : Session) (message : Message) (applications : Channel Message 8)
    (next : WriterPoint) : Session :=
  match session.queue.enqueueApplication message with
  | .ok queue => { session with applications := applications, queue := queue, writer := next }
  | .error error =>
      { session with applications := applications, writer := .returned (.error error) }

def writerStep (session : Session) (answers : Answers) : Option Session :=
  match session.writer with
  | .closeCell =>
      some { session with
        queue := session.close.elim session.queue session.queue.enqueueClose
        close := none
        writer := .controls }
  | .controls =>
      match session.controls.tryRecv with
      | some (.close reason, controls) =>
          some { session with controls := controls, queue := session.queue.enqueueClose reason }
      | some (.pong, controls) =>
          some { session with controls := controls, queue := session.queue.enqueuePong }
      | some (.stop, controls) =>
          some { session with controls := controls, writer := .returned (.ok ()) }
      | none => some { session with writer := .applications }
  | .applications =>
      match session.applications.tryRecv with
      | some (message, applications) =>
          some (session.queueApplication message applications .applications)
      | none =>
          match session.queue.pop with
          | some (message, queue) => some { session with queue := queue, writer := .gate message }
          | none => some { session with writer := .waiting }
  | .waiting =>
      match session.applications.tryRecv with
      | some (message, applications) =>
          some (session.queueApplication message applications .closeCell)
      | none =>
          match session.reader with
          | .finished _ => some { session with writer := .returned (.ok ()) }
          | _ =>
              some { session with
                queue := if answers.idle then session.queue.enqueuePingIfIdle else session.queue
                writer := .closeCell }
  | .gate message =>
      if answers.paired ≠ some session.generation then
        some { session with writer := .returned (.error .identity) }
      else some { session with writer := .sending message }
  | .sending message =>
      match answers.sent with
      | .ok () =>
          some ({ session with
            writer := if isClose message then .returned (.ok ()) else .closeCell }.record
              (.written message))
      | .error error => some { session with writer := .returned (.error error) }
  | .returned (.error error) =>
      some { session with
        failure := (session.failure.trySend error).getD session.failure
        writer := .reported (.error error) }
  | .returned (.ok ()) => some { session with writer := .reported (.ok ()) }
  | .reported result => some { session with writer := .exited result }
  | .exited _ => none

end Session

/-- A step of one of the threads. -/
inductive SessionLabel
  | reader (answers : Answers)
  | writer (answers : Answers)

namespace Session

def step (session : Session) : SessionLabel → Option Session
  | .reader answers => session.readerStep answers
  | .writer answers => session.writerStep answers

/-- Every session, with any interleaving of its threads. -/
def machine : StepSystem Session SessionLabel where
  Initial session := ∃ generation result, session = start generation result
  step := step

end Session

end Deskkin.Host
