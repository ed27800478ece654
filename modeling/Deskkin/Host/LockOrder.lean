/-
# Locks and acknowledgements of one process

The threads of one process take two locks: the exclusive file lock of the
identity store and the session write gate. A writer, a hello acknowledgement and
`with_paired_generation` take the gate and read the store under it. An unpair
takes the file lock, takes the gate to publish the revocation, gives the gate
back and, still under the file lock, waits for the loop to acknowledge that the
sessions are over. The loop is the accept loop of the host or the thread of the
user interface; the first reads the store while it handles an event, the second
calls `with_paired_generation`.

The loop goes on while it owes the acknowledgement, but sends it only when the
threads at work are through: the accept loop when it has no connection left, each of
which is a task with at most one session writer, the user interface when the network
worker, which looks for controls between its commands, has closed its session.

A thread is where its phase says, and a phase says which locks it holds. A move
to a phase that holds another lock waits until the lock is free.
-/

import Deskkin.Lib.Runs
import Deskkin.Lib.WaitGraph

namespace Deskkin.Locks

inductive Thread
  | user (index : ℕ)
  | unpair (index : ℕ)
  | loop
  deriving DecidableEq

/-- Which loop serves the owner events. -/
inductive LoopKind
  | acceptLoop
  | userInterface
  deriving DecidableEq

/-- Where a thread is. -/
inductive Phase
  | idle
  /-- A call under the gate: it waits for the gate, waits for the file lock with
  the gate held, reads, and works on with the gate alone. -/
  | wantsGate
  | gateWantsFile
  | gateReads
  | gateWrites
  /-- A call without the gate. -/
  | wantsFile
  | reads
  /-- An unpair: it waits for the file lock, reads, waits for the gate with the
  file lock held, publishes, has renamed the revocation into place, waits for the
  acknowledgement with the file lock held, publishes the last record, is over. -/
  | startsUnpair
  | deciding
  | fileWantsGate
  | publishing
  | renamed
  | awaitsAck
  | finishing
  | done
  deriving DecidableEq

namespace Phase

def holdsFile : Phase → Bool
  | .gateReads | .reads | .deciding | .fileWantsGate | .publishing | .renamed | .awaitsAck
  | .finishing => true
  | _ => false

def holdsGate : Phase → Bool
  | .gateWantsFile | .gateReads | .gateWrites | .publishing | .renamed => true
  | _ => false

def waitsForFile : Phase → Bool
  | .gateWantsFile | .wantsFile | .startsUnpair => true
  | _ => false

def ofUnpair : Phase → Bool
  | .startsUnpair | .deciding | .fileWantsGate | .publishing | .renamed | .awaitsAck
  | .finishing | .done => true
  | _ => false

/-- Where a thread goes on without a choice. -/
def next : Phase → Option Phase
  | .wantsGate => some .gateWantsFile
  | .gateWantsFile => some .gateReads
  | .gateReads => some .gateWrites
  | .gateWrites => some .idle
  | .wantsFile => some .reads
  | .reads => some .idle
  | .startsUnpair => some .deciding
  | .fileWantsGate => some .publishing
  | .renamed => some .awaitsAck
  | .finishing => some .done
  | _ => none

end Phase

inductive OwnerEvent
  | identityRevoked (unpair : ℕ)
  | pairingWindowOpen
  deriving DecidableEq

/-- The threads and who holds each lock. The loop has a queue of owner events, is
settled once it has drained the queue, and keeps the acknowledgement it owes. The
tasks are the connections that are served, or the network worker while it is at a
command; a connection stays with the accept loop until that next drains the channel
of completions. Controls are those the network worker has not taken, and `closed`
counts its answers that the user interface has not handled. -/
structure Process where
  phase : Thread → Phase
  file : Option Thread
  gate : Option Thread
  events : List OwnerEvent
  settled : Bool
  revocationAck : Option ℕ
  acknowledged : ℕ → Bool
  tasks : List ℕ
  /-- The writers, each with the task that has started it. -/
  writers : List (ℕ × ℕ)
  connections : List ℕ
  controls : ℕ
  closed : ℕ

inductive Label
  /-- A call under the gate or without it. -/
  | call (thread : Thread) (gated : Bool)
  | proceed (thread : Thread)
  /-- A lock timeout, a wrong generation or a failure. -/
  | giveUp (thread : Thread)
  | unpair (index : ℕ)
  /-- The record that was read is to be revoked, or a revocation is to be
  finished. -/
  | decide (index : ℕ) (revoke : Bool)
  /-- The rename, which tells the loop if there is one. -/
  | rename (index : ℕ) (notify : Bool)
  | joined (index : ℕ)
  | openPairingWindow
  /-- The loop takes an event. To open a pairing window it may read the store. -/
  | takeEvent (read : Bool)
  | settle
  | drain
  /-- The acknowledgement that is owed, if one is and the threads at work are through. -/
  | sendAck
  /-- A connection is accepted, or the network worker takes a command. -/
  | accept (index : ℕ)
  | startWriter (task writer : ℕ)
  | endWriter (task writer : ℕ)
  | finish (index : ℕ)
  /-- The user interface has the session closed. -/
  | closeNetwork
  | answerControl
  deriving DecidableEq

namespace Process

/-- Take a thread to another phase. A lock it does not hold yet has to be free. -/
def move (self : Process) (thread : Thread) (next : Phase) : Option Process :=
  let current := self.phase thread
  if next.holdsFile ∧ ¬current.holdsFile ∧ self.file.isSome then none
  else if next.holdsGate ∧ ¬current.holdsGate ∧ self.gate.isSome then none
  else
    some { self with
      phase := Function.update self.phase thread next
      file := if next.holdsFile then some thread
        else if current.holdsFile then none else self.file
      gate := if next.holdsGate then some thread
        else if current.holdsGate then none else self.gate }

/-- The thread of a task, or a writer that a task has started. -/
def Serving (self : Process) (thread : Thread) : Prop :=
  (∃ index ∈ self.tasks, thread = .user index) ∨ ∃ entry ∈ self.writers, thread = .user entry.2

instance (self : Process) (thread : Thread) : Decidable (self.Serving thread) := by
  unfold Serving
  infer_instance

/-- An acknowledgement can be sent. -/
def ready (self : Process) : LoopKind → Bool
  | .acceptLoop => self.connections.isEmpty
  | .userInterface => decide (0 < self.closed)

/-- A call of the loop under the gate comes between two drains and only from the
user interface; its other reads come with an event. The network worker calls for
its commands. -/
def mayCall (kind : LoopKind) (self : Process) : Thread → Bool → Bool
  | .user index, _ => decide (kind = .acceptLoop ∨ index ≠ 0 ∨ 0 ∈ self.tasks)
  | .unpair _, _ => false
  | .loop, gated => gated && decide (kind = .userInterface) && self.settled

def call (kind : LoopKind) (self : Process) (thread : Thread) (gated : Bool) : Option Process :=
  if self.phase thread = .idle ∧ self.mayCall kind thread gated then
    self.move thread (if gated then .wantsGate else .wantsFile)
  else none

def giveUp (self : Process) (thread : Thread) : Option Process :=
  match thread with
  | .unpair _ => if self.phase thread = .idle then none else self.move thread .done
  | .user _ | .loop => self.move thread .idle

def rename (self : Process) (index : ℕ) (notify : Bool) : Option Process :=
  if self.phase (.unpair index) = .publishing then
    (self.move (.unpair index) .renamed).map fun moved =>
      { moved with
        events := if notify then moved.events ++ [.identityRevoked index] else moved.events
        acknowledged := Function.update moved.acknowledged index (!notify) }
  else none

/-- The head of the queue. The accept loop reads the store to open a pairing
window, unless one is open already. -/
def takeEvent (kind : LoopKind) (self : Process) (read : Bool) : Option Process :=
  if self.phase .loop = .idle ∧ self.settled = false then
    match self.events with
    | [] => none
    | .identityRevoked index :: rest =>
        if read then none
        else some { self with
          events := rest
          revocationAck := some index
          controls := if kind = .userInterface then self.controls + 1 else self.controls }
    | .pairingWindowOpen :: rest =>
        if read then
          if kind = .acceptLoop then { self with events := rest }.move .loop .wantsFile else none
        else some { self with events := rest }
  else none

/-- The loop acknowledges the last revocation it has taken. -/
def acknowledge (kind : LoopKind) (self : Process) : Process :=
  { self with
    revocationAck := none
    acknowledged := self.revocationAck.elim self.acknowledged fun index =>
      Function.update self.acknowledged index true
    closed := if kind = .userInterface then self.closed - 1 else self.closed }

/-- The accept loop accepts after it has sent the acknowledgement that it can send. -/
def mayAccept (kind : LoopKind) (self : Process) (index : ℕ) : Bool :=
  match kind with
  | .acceptLoop =>
      decide (self.phase .loop = .idle) && self.settled &&
        !(self.revocationAck.isSome && self.ready kind)
  | .userInterface => decide (index = 0)

def step (kind : LoopKind) (self : Process) : Label → Option Process
  | .call thread gated => self.call kind thread gated
  | .proceed thread => (self.phase thread).next.bind (self.move thread)
  | .giveUp thread => self.giveUp thread
  | .unpair index =>
      if self.phase (.unpair index) = .idle then self.move (.unpair index) .startsUnpair else none
  | .decide index revoke =>
      if self.phase (.unpair index) = .deciding then
        self.move (.unpair index) (if revoke then .fileWantsGate else .finishing)
      else none
  | .rename index notify => self.rename index notify
  | .joined index =>
      if self.phase (.unpair index) = .awaitsAck ∧ self.acknowledged index = true then
        self.move (.unpair index) .finishing
      else none
  | .openPairingWindow => some { self with events := self.events ++ [.pairingWindowOpen] }
  | .takeEvent read => self.takeEvent kind read
  | .settle =>
      if self.phase .loop = .idle ∧ self.events = [] then some { self with settled := true }
      else none
  | .drain =>
      if self.phase .loop = .idle then
        some { self with settled := false, connections := self.tasks }
      else none
  | .sendAck =>
      if self.phase .loop = .idle ∧ self.settled = true ∧ self.ready kind = true then
        some (self.acknowledge kind)
      else none
  | .accept index =>
      if self.phase (.user index) = .idle ∧ ¬self.Serving (.user index) ∧
          self.mayAccept kind index = true then
        some { self with
          tasks := index :: self.tasks
          connections := index :: self.connections }
      else none
  | .startWriter task writer =>
      if kind = .acceptLoop ∧ task ∈ self.tasks ∧ (∀ entry ∈ self.writers, entry.1 ≠ task) ∧
          self.phase (.user task) = .idle ∧ self.phase (.user writer) = .idle ∧
          ¬self.Serving (.user writer) then
        some { self with writers := (task, writer) :: self.writers }
      else none
  | .endWriter task writer =>
      if self.phase (.user writer) = .idle then
        some { self with writers := self.writers.erase (task, writer) }
      else none
  -- a task joins its writer before it is over
  | .finish index =>
      if self.phase (.user index) = .idle ∧ ∀ entry ∈ self.writers, entry.1 ≠ index then
        some { self with tasks := self.tasks.erase index }
      else none
  | .closeNetwork =>
      if kind = .userInterface ∧ self.phase .loop = .idle then
        some { self with controls := self.controls + 1 }
      else none
  | .answerControl =>
      if kind = .userInterface ∧ 0 ∉ self.tasks ∧ 0 < self.controls then
        some { self with controls := self.controls - 1, closed := self.closed + 1 }
      else none

def started : Process where
  phase := fun _ => .idle
  file := none
  gate := none
  events := []
  settled := false
  revocationAck := none
  acknowledged := fun _ => false
  tasks := []
  writers := []
  connections := []
  controls := 0
  closed := 0

def machine (kind : LoopKind) : StepSystem Process Label where
  Initial self := self = started
  step := step kind

/-! ## Who waits for whom -/

/-- The threads that an acknowledgement waits for: the loop, and once that has taken
the revocation every thread it waits for before it can acknowledge. -/
def Needed (kind : LoopKind) (process : Process) (index : ℕ) (thread : Thread) : Prop :=
  thread = .loop ∨
    process.revocationAck = some index ∧ process.ready kind = false ∧ process.Serving thread

end Process

end Deskkin.Locks
