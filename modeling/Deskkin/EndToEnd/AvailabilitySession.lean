/-
# An availability session from end to end

The device runs its availability loop, the host its reader and its writer, and between
them are two streams of messages, one for each direction. A stream keeps the order and
loses nothing in the middle; either end can lose its connection at any time, and then
takes no further message. What the streams carry arrives as it was sent, so neither end
reads a message that does not decode.

The device writes a request, the pong for a ping that it reads while it waits, and a close
when the user ends the session. What it asked for and what it stored are kept beside the
two ends for the proofs; neither end reads them.
-/

import Deskkin.Device.ReconnectWorker
import Deskkin.Host.SessionWriter

namespace Deskkin.EndToEnd

open Protocol Device Host Simulator

/-- Why the device does not read or write a message. -/
abbrev LinkLoss := { failure : LinkFailure // failure ≠ .protocol }

/-- Why the host does not read or write a message. -/
abbrev StreamLoss := { error : SessionError // error ≠ .protocol ∧ error ≠ .queueFull }

/-- The device is in its loop, or the loop has returned. -/
inductive DevicePoint
  | looping (loop : AvailabilityLoop)
  | returned (result : Except SessionFailure Unit)

/-- The id and the operation of a request. -/
abbrev AvailabilityRequest := ℕ × ContextId

structure AvailabilitySession where
  host : Session
  device : DevicePoint
  toHost : List Message
  toDevice : List Message
  requests : List AvailabilityRequest
  results : List (AvailabilityRequest × AvailabilityResult)

/-- What happens next at one of the ends. -/
inductive SessionInput
  | request (poll : Option ActiveControl) (operation : Option ContextId)
      (unwritten : Option LinkLoss)
  | receive (unwritten : Option LinkLoss)
  | lose (loss : LinkLoss)
  | tick (poll : Option ActiveControl) (action : UInt8) (written : Bool)
  | reader (lost : Option StreamLoss) (paired : Option ℕ)
  | writer (lost : Option StreamLoss) (paired : Option ℕ) (idle : Bool)

/-! ## The messages of the device -/

/-- The request that the loop has just written. -/
def asked (next : AvailabilityLoop) : LoopInput → List AvailabilityRequest
  | .request _ _ _ =>
      match next.phase with
      | .reading _ requestId operation => [(requestId, operation)]
      | _ => []
  | _ => []

/-- The messages that the loop has just written when it goes on. -/
def said (next : AvailabilityLoop) (input : LoopInput) : List Message :=
  match input with
  | .received (.ok .ping) _ => [.pong]
  | input =>
      (asked next input).map fun request => .readAvailability (UInt32.ofNat request.1) request.2

/-- The result that the loop has just stored. -/
def stored : LoopInput → List (AvailabilityRequest × AvailabilityResult)
  | .received (.ok (.availabilityResult requestId operation result)) _ =>
      [((requestId.toNat, operation), result)]
  | _ => []

/-- The close of a session that the user ends, as far as it could be written. -/
def farewell (action : UInt8) (written : Bool) : List Message :=
  if written then [.close (if action = 6 then .unpaired else .normal)] else []

namespace AvailabilitySession

/-- A step of the loop, with what it writes. -/
def turn (self : AvailabilitySession) (loop : AvailabilityLoop) (input : LoopInput)
    (last : List Message) : Option AvailabilitySession :=
  match loop.step input with
  | none => none
  | some (.error failure) => some { self with device := .returned (.error failure) }
  | some (.ok .closed) =>
      some { self with device := .returned (.ok ()), toHost := self.toHost ++ last }
  | some (.ok (.continues next)) =>
      some { self with
        device := .looping next
        toHost := self.toHost ++ said next input
        requests := self.requests ++ asked next input }
  | some (.ok (.stores next)) =>
      some { self with device := .looping next, results := self.results ++ stored input }

/-- A step of the host's reader, which takes a message only when it is about to read. -/
def readerStep (self : AvailabilitySession) (lost : Option StreamLoss) (paired : Option ℕ) :
    Option AvailabilitySession :=
  match lost, self.host.reader, self.toHost with
  | some error, _, _ =>
      (self.host.readerStep ⟨.error error.1, paired, false, .ok ()⟩).map fun host =>
        { self with host := host }
  | none, .reading, [] => none
  | none, .reading, message :: rest =>
      (self.host.readerStep ⟨.ok message, paired, false, .ok ()⟩).map fun host =>
        { self with host := host, toHost := rest }
  | none, _, _ =>
      (self.host.readerStep ⟨.ok .ping, paired, false, .ok ()⟩).map fun host =>
        { self with host := host }

/-- The message that is on the stream after a step of the writer. -/
def sentBy (writer : WriterPoint) (lost : Option StreamLoss) : List Message :=
  match writer, lost with
  | .sending message, none => [message]
  | _, _ => []

def writerStep (self : AvailabilitySession) (lost : Option StreamLoss) (paired : Option ℕ)
    (idle : Bool) : Option AvailabilitySession :=
  let sent : Except SessionError Unit :=
    match lost with
    | none => .ok ()
    | some error => .error error.1
  (self.host.writerStep ⟨.ok .ping, paired, idle, sent⟩).map fun host =>
    { self with host := host, toDevice := self.toDevice ++ sentBy self.host.writer lost }

def step (self : AvailabilitySession) (input : SessionInput) : Option AvailabilitySession :=
  match self.device, input with
  | _, .reader lost paired => self.readerStep lost paired
  | _, .writer lost paired idle => self.writerStep lost paired idle
  | .returned _, _ => none
  | .looping loop, .request poll operation unwritten =>
      self.turn loop (.request poll operation (unwritten.map Subtype.val)) []
  | .looping loop, .receive unwritten =>
      match self.toDevice with
      | [] => none
      | message :: rest =>
          { self with toDevice := rest }.turn loop
            (.received (.ok message) (unwritten.map Subtype.val)) []
  | .looping loop, .lose loss => self.turn loop (.received (.error loss.1) none) []
  | .looping loop, .tick poll action written =>
      self.turn loop (.tick poll action) (farewell action written)

/-- Both ends at the start of their loops. -/
def start (generation : ℕ) (value : AvailabilityResult) (loop : AvailabilityLoop) :
    AvailabilitySession where
  host := Session.start generation value
  device := .looping loop
  toHost := []
  toDevice := []
  requests := []
  results := []

/-- Every session with a host that finds the same value throughout, under any interleaving of
the two ends. -/
def machine (generation : ℕ) (value : AvailabilityResult) :
    StepSystem AvailabilitySession SessionInput where
  Initial session :=
    ∃ context loop, AvailabilityLoop.start context = .ok loop ∧
      session = start generation value loop
  step := step

end AvailabilitySession

end Deskkin.EndToEnd
