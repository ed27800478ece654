/-
# The pairing window of the host

A command of the owner opens a pairing window. The accept loop keeps the open
window and the active pairing task to itself; with the threads of the pairing
connections it shares three flags under a mutex: a reservation was granted, the
window has not been moved to the active task since, and the thread that reserved
has finished. A connection that is accepted while a window is open gets a copy of
its task and reserves after its handshake, whatever the loop has done by then.

The loop takes turns: it receives the events of the owner, looks at the flags, and
waits for a connection. Nobody else sees its variables, so each of these is one
step. Cancellation makes an attempt fail sooner and is not followed; errors end the
loop, and the runs stop there.

A log beside the state keeps the commands received, the window opened last, how
often the flags were reset under the feet of the connections, and the grants; the
code does not have it.
-/

import Deskkin.Identity.Record
import Deskkin.Lib.Runs

namespace Deskkin.Host

/-! ## Tasks and connections -/

/-- A command of the owner, numbered in the order in which the loop receives them. -/
structure OwnerPairingTask where
  number : ℕ
  commandId : Text
  deadline : ℕ
  deriving DecidableEq

/-- What a task sends to the table of the owner control. -/
inductive TaskUpdate
  | pairingWaiting
  | pairingConfirmationRequired (transaction authentication : Text)
  | paired
  | operationFailed
  deriving DecidableEq

/-- The updates that complete the command, as `apply_completions` has it. -/
def TaskUpdate.terminal : TaskUpdate → Bool
  | .pairingWaiting | .pairingConfirmationRequired _ _ => false
  | .paired | .operationFailed => true

/-- Where the thread of a pairing connection is: before it compares the deadline,
between that and the reservation, past its reservation, waiting for the decision of
the owner, past its terminal update, or over. -/
inductive AttemptPhase
  | exchanging
  | timely
  | reserved
  | asked
  | finished
  | over
  deriving DecidableEq

/-- The thread runs with a reservation and has not finished its task yet. -/
def AttemptPhase.Holds (phase : AttemptPhase) : Prop := phase = .reserved ∨ phase = .asked

instance (phase : AttemptPhase) : Decidable phase.Holds := by
  unfold AttemptPhase.Holds
  infer_instance

/-- The task is the one of the window that was open at the accept. The number of
resets by then belongs to the log. -/
structure PairingAttempt where
  task : OwnerPairingTask
  phase : AttemptPhase
  resets : ℕ
  deriving DecidableEq

/-! ## The accept loop -/

/-- The flags under the mutex. -/
structure PairingFlags where
  consumed : Bool
  transfer : Bool
  finished : Bool
  deriving DecidableEq

def PairingFlags.clear : PairingFlags := ⟨false, false, false⟩

inductive LoopTurn
  | events
  | connection
  deriving DecidableEq

/-- A granted reservation: the window opened last at that time, and the task of the
connection. -/
structure Grant where
  window : Option OwnerPairingTask
  task : OwnerPairingTask
  deriving DecidableEq

structure WindowLog where
  received : List OwnerPairingTask
  opened : Option OwnerPairingTask
  resets : ℕ
  grants : List Grant
  deriving DecidableEq

structure AcceptLoop where
  now : ℕ
  peer : PeerState Text Text
  listening : Bool
  turn : LoopTurn
  pairingWindow : Option OwnerPairingTask
  activePairingTask : Option OwnerPairingTask
  pairingState : PairingFlags
  attempts : ℕ → Option PairingAttempt
  updates : List (OwnerPairingTask × TaskUpdate)
  log : WindowLog

/-- What happens next. The clock and the peer record may change at any time, the
latter by the pairing itself or by the owner. An accepted connection may fail to be
cloned. `abandon` is every end of a connection thread before its reservation. -/
inductive LoopLabel
  | tick (elapsed : ℕ)
  | changePeer (peer : PeerState Text Text)
  | pairingWindowOpen (commandId : Text) (deadline : ℕ)
  | pairStart (commandId : Text) (deadline : ℕ)
  | runtimeShutdown
  | look
  | accept (index : ℕ) (cloned : Bool)
  | noPairingConnection
  | passDeadline (index : ℕ)
  | reserve (index : ℕ)
  | ask (index : ℕ) (transaction authentication : Text)
  | finish (index : ℕ) (completed : Bool)
  | signal (index : ℕ)
  | abandon (index : ℕ)
  deriving DecidableEq

namespace AcceptLoop

def send (self : AcceptLoop) (task : OwnerPairingTask) (update : TaskUpdate) : AcceptLoop :=
  { self with updates := self.updates ++ [(task, update)] }

def setAttempt (self : AcceptLoop) (index : ℕ) (attempt : PairingAttempt) : AcceptLoop :=
  { self with attempts := Function.update self.attempts index (some attempt) }

/-! ## Events -/

/-- The task of a command that arrives. -/
def nextTask (self : AcceptLoop) (commandId : Text) (deadline : ℕ) : OwnerPairingTask :=
  ⟨self.log.received.length, commandId, deadline⟩

def receive (self : AcceptLoop) (task : OwnerPairingTask) : AcceptLoop :=
  { self with log := { self.log with received := self.log.received ++ [task] } }

/-- The flags start anew with the window. -/
def openWindow (self : AcceptLoop) (task : OwnerPairingTask) : AcceptLoop :=
  { self with
    pairingState := .clear
    activePairingTask := none
    pairingWindow := some task
    log := { self.log with opened := some task, resets := self.log.resets + 1 } }.send task
      .pairingWaiting

def pairingWindowOpen (self : AcceptLoop) (commandId : Text) (deadline : ℕ) :
    Option AcceptLoop :=
  let task := self.nextTask commandId deadline
  if self.turn = .events then
    if self.pairingWindow.isSome ∨ self.activePairingTask.isSome ∨ self.peer ≠ .unpaired then
      some ((self.receive task).send task .operationFailed)
    else some ((self.receive task).openWindow task)
  else none

def pairStart (self : AcceptLoop) (commandId : Text) (deadline : ℕ) : Option AcceptLoop :=
  let task := self.nextTask commandId deadline
  if self.turn = .events then some ((self.receive task).send task .operationFailed) else none

def runtimeShutdown (self : AcceptLoop) : Option AcceptLoop :=
  if self.turn = .events then some { self with listening := false } else none

/-! ## A look at the flags -/

/-- A reservation waits: the window becomes the active task. -/
def transferTask (self : AcceptLoop) : AcceptLoop :=
  if self.pairingState.transfer = true ∧ self.activePairingTask = none then
    { self with
      activePairingTask := self.pairingWindow
      pairingWindow := none
      pairingState := { self.pairingState with transfer := false } }
  else self

/-- The thread that reserved has finished, or one that reserved earlier has. -/
def clearFinished (self : AcceptLoop) : AcceptLoop :=
  if self.pairingState.finished = true then
    { self with
      activePairingTask := none
      pairingState := .clear
      log := { self.log with
        resets := if self.pairingState.consumed then self.log.resets + 1 else self.log.resets } }
  else self

def expireWindow (self : AcceptLoop) : AcceptLoop :=
  match self.pairingWindow with
  | some task =>
      if self.pairingState.consumed = false ∧ task.deadline ≤ self.now then
        { self with pairingWindow := none }.send task .operationFailed
      else self
  | none => self

def dropInactive (self : AcceptLoop) : AcceptLoop :=
  if self.pairingState.consumed = true ∧ self.pairingState.finished = false then self
  else { self with activePairingTask := none }

def look (self : AcceptLoop) : Option AcceptLoop :=
  if self.turn = .events then
    some { self.transferTask.clearFinished.expireWindow.dropInactive with turn := .connection }
  else none

/-! ## Connections -/

/-- A connection that is accepted while a window is open. -/
def accept (self : AcceptLoop) (index : ℕ) (cloned : Bool) : Option AcceptLoop :=
  match self.pairingWindow, self.attempts index with
  | some task, none =>
      if self.turn = .connection ∧ self.listening = true then
        some { (if cloned then self.setAttempt index ⟨task, .exchanging, self.log.resets⟩
          else self.send task .operationFailed) with turn := .events }
      else none
  | _, _ => none

/-- No connection, or one that goes elsewhere. -/
def noPairingConnection (self : AcceptLoop) : Option AcceptLoop :=
  if self.turn = .connection then some { self with turn := .events } else none

/-- The comparison with the deadline that precedes the reservation. -/
def passDeadline (self : AcceptLoop) (index : ℕ) (attempt : PairingAttempt) :
    Option AcceptLoop :=
  if attempt.phase = .exchanging ∧ self.now < attempt.task.deadline then
    some (self.setAttempt index { attempt with phase := .timely })
  else none

/-- The flags say nothing about the window they belong to. -/
def reservePairingWindow (self : AcceptLoop) (index : ℕ) (attempt : PairingAttempt) :
    Option AcceptLoop :=
  if attempt.phase = .timely then
    if self.pairingState.consumed = true then
      some (self.setAttempt index { attempt with phase := .over })
    else
      some { self.setAttempt index { attempt with phase := .reserved } with
        pairingState := { self.pairingState with consumed := true, transfer := true }
        log := { self.log with grants := self.log.grants ++ [⟨self.log.opened, attempt.task⟩] } }
  else none

/-- The owner is asked to confirm while there is time. -/
def ask (self : AcceptLoop) (index : ℕ) (transaction authentication : Text)
    (attempt : PairingAttempt) : Option AcceptLoop :=
  if attempt.phase = .reserved ∧ self.now < attempt.task.deadline then
    some ((self.setAttempt index { attempt with phase := .asked }).send attempt.task
      (.pairingConfirmationRequired transaction authentication))
  else none

def isPaired (self : AcceptLoop) : Bool :=
  match self.peer with
  | .paired _ _ => true
  | _ => false

/-- The pairing is over, completed or not: the task is finished. -/
def finish (self : AcceptLoop) (index : ℕ) (completed : Bool) (attempt : PairingAttempt) :
    Option AcceptLoop :=
  if attempt.phase.Holds then
    some ((self.setAttempt index { attempt with phase := .finished }).send attempt.task
      (if completed || self.isPaired then .paired else .operationFailed))
  else none

def signal (self : AcceptLoop) (index : ℕ) (attempt : PairingAttempt) : Option AcceptLoop :=
  if attempt.phase = .finished then
    some { self.setAttempt index { attempt with phase := .over } with
      pairingState := { self.pairingState with finished := true } }
  else none

def abandon (self : AcceptLoop) (index : ℕ) (attempt : PairingAttempt) : Option AcceptLoop :=
  if attempt.phase = .exchanging ∨ attempt.phase = .timely then
    some (self.setAttempt index { attempt with phase := .over })
  else none

def step (self : AcceptLoop) : LoopLabel → Option AcceptLoop
  | .tick elapsed => some { self with now := self.now + elapsed }
  | .changePeer peer => some { self with peer := peer }
  | .pairingWindowOpen commandId deadline => self.pairingWindowOpen commandId deadline
  | .pairStart commandId deadline => self.pairStart commandId deadline
  | .runtimeShutdown => self.runtimeShutdown
  | .look => self.look
  | .accept index cloned => self.accept index cloned
  | .noPairingConnection => self.noPairingConnection
  | .passDeadline index => (self.attempts index).bind (self.passDeadline index)
  | .reserve index => (self.attempts index).bind (self.reservePairingWindow index)
  | .ask index transaction authentication =>
      (self.attempts index).bind (self.ask index transaction authentication)
  | .finish index completed => (self.attempts index).bind (self.finish index completed)
  | .signal index => (self.attempts index).bind (self.signal index)
  | .abandon index => (self.attempts index).bind (self.abandon index)

/-- A loop that starts has no window and no connection. -/
def started (now : ℕ) (peer : PeerState Text Text) : AcceptLoop where
  now := now
  peer := peer
  listening := true
  turn := .events
  pairingWindow := none
  activePairingTask := none
  pairingState := .clear
  attempts := fun _ => none
  updates := []
  log := ⟨[], none, 0, []⟩

def machine : StepSystem AcceptLoop LoopLabel where
  Initial self := ∃ now peer, self = started now peer
  step := step

/-! ## What a step can do -/

inductive Moved (self : AcceptLoop) : LoopLabel → AcceptLoop → Prop
  | tick (elapsed : ℕ) : Moved self (.tick elapsed) { self with now := self.now + elapsed }
  | changePeer (peer : PeerState Text Text) :
      Moved self (.changePeer peer) { self with peer := peer }
  | refused (commandId : Text) (deadline : ℕ) :
      Moved self (.pairingWindowOpen commandId deadline)
        ((self.receive (self.nextTask commandId deadline)).send
          (self.nextTask commandId deadline) .operationFailed)
  | opened (commandId : Text) (deadline : ℕ) (closed : self.pairingWindow = none)
      (idle : self.activePairingTask = none) :
      Moved self (.pairingWindowOpen commandId deadline)
        ((self.receive (self.nextTask commandId deadline)).openWindow
          (self.nextTask commandId deadline))
  | pairStart (commandId : Text) (deadline : ℕ) :
      Moved self (.pairStart commandId deadline)
        ((self.receive (self.nextTask commandId deadline)).send
          (self.nextTask commandId deadline) .operationFailed)
  | runtimeShutdown : Moved self .runtimeShutdown { self with listening := false }
  | looked :
      Moved self .look
        { self.transferTask.clearFinished.expireWindow.dropInactive with turn := .connection }
  | accepted (index : ℕ) (task : OwnerPairingTask) (window : self.pairingWindow = some task)
      (free : self.attempts index = none) :
      Moved self (.accept index true)
        { self.setAttempt index ⟨task, .exchanging, self.log.resets⟩ with turn := .events }
  | uncloned (index : ℕ) (task : OwnerPairingTask) (window : self.pairingWindow = some task) :
      Moved self (.accept index false)
        { self.send task .operationFailed with turn := .events }
  | elsewhere : Moved self .noPairingConnection { self with turn := .events }
  | inTime (index : ℕ) (attempt : PairingAttempt) (found : self.attempts index = some attempt)
      (exchanging : attempt.phase = .exchanging) :
      Moved self (.passDeadline index) (self.setAttempt index { attempt with phase := .timely })
  | busy (index : ℕ) (attempt : PairingAttempt) (found : self.attempts index = some attempt)
      (timely : attempt.phase = .timely) (consumed : self.pairingState.consumed = true) :
      Moved self (.reserve index) (self.setAttempt index { attempt with phase := .over })
  | granted (index : ℕ) (attempt : PairingAttempt) (found : self.attempts index = some attempt)
      (timely : attempt.phase = .timely) (unconsumed : self.pairingState.consumed = false) :
      Moved self (.reserve index)
        { self.setAttempt index { attempt with phase := .reserved } with
          pairingState := { self.pairingState with consumed := true, transfer := true }
          log := { self.log with
            grants := self.log.grants ++ [⟨self.log.opened, attempt.task⟩] } }
  | asked (index : ℕ) (transaction authentication : Text) (attempt : PairingAttempt)
      (found : self.attempts index = some attempt) (reserved : attempt.phase = .reserved) :
      Moved self (.ask index transaction authentication)
        ((self.setAttempt index { attempt with phase := .asked }).send attempt.task
          (.pairingConfirmationRequired transaction authentication))
  | finished (index : ℕ) (completed : Bool) (attempt : PairingAttempt)
      (found : self.attempts index = some attempt) (holds : attempt.phase.Holds)
      (update : TaskUpdate) (terminal : update.terminal = true) :
      Moved self (.finish index completed)
        ((self.setAttempt index { attempt with phase := .finished }).send attempt.task update)
  | signalled (index : ℕ) (attempt : PairingAttempt)
      (found : self.attempts index = some attempt) (finished : attempt.phase = .finished) :
      Moved self (.signal index)
        { self.setAttempt index { attempt with phase := .over } with
          pairingState := { self.pairingState with finished := true } }
  | abandoned (index : ℕ) (attempt : PairingAttempt)
      (found : self.attempts index = some attempt)
      (early : attempt.phase = .exchanging ∨ attempt.phase = .timely) :
      Moved self (.abandon index) (self.setAttempt index { attempt with phase := .over })

variable {self after : AcceptLoop} {index : ℕ} {attempt : PairingAttempt}

theorem moved_of_pairingWindowOpen {commandId : Text} {deadline : ℕ}
    (moved : self.pairingWindowOpen commandId deadline = some after) :
    Moved self (.pairingWindowOpen commandId deadline) after := by
  simp only [pairingWindowOpen, Option.ite_none_right_eq_some] at moved
  obtain ⟨-, moved⟩ := moved
  split at moved
  · cases moved
    exact .refused commandId deadline
  · rename_i free
    simp only [not_or, Bool.not_eq_true, Option.isSome_eq_false_iff, Option.isNone_iff_eq_none]
      at free
    cases moved
    exact .opened commandId deadline free.1 free.2.1

theorem moved_of_accept {cloned : Bool} (moved : self.accept index cloned = some after) :
    Moved self (.accept index cloned) after := by
  unfold AcceptLoop.accept at moved
  split at moved
  · rename_i task window free
    rw [Option.ite_none_right_eq_some] at moved
    obtain ⟨-, moved⟩ := moved
    cases moved
    cases cloned with
    | true => exact .accepted index task window free
    | false => exact .uncloned index task window
  · cases moved

theorem moved_of_reserve (found : self.attempts index = some attempt)
    (moved : self.reservePairingWindow index attempt = some after) :
    Moved self (.reserve index) after := by
  simp only [reservePairingWindow, Option.ite_none_right_eq_some] at moved
  obtain ⟨timely, moved⟩ := moved
  split at moved
  · rename_i consumed
    cases moved
    exact .busy index attempt found timely consumed
  · rename_i unconsumed
    cases moved
    exact .granted index attempt found timely (Bool.eq_false_iff.mpr unconsumed)

theorem moved_of_finish {completed : Bool} (found : self.attempts index = some attempt)
    (moved : self.finish index completed attempt = some after) :
    Moved self (.finish index completed) after := by
  simp only [finish, Option.ite_none_right_eq_some, Option.some.injEq] at moved
  obtain ⟨holds, rfl⟩ := moved
  apply Moved.finished index completed attempt found holds
  split <;> rfl

theorem moved_of_step {label : LoopLabel} (moved : self.step label = some after) :
    Moved self label after := by
  cases label with
  | tick elapsed => cases moved; exact .tick elapsed
  | changePeer peer => cases moved; exact .changePeer peer
  | pairingWindowOpen commandId deadline => exact moved_of_pairingWindowOpen moved
  | accept index cloned => exact moved_of_accept moved
  | pairStart commandId deadline =>
      simp only [step, pairStart, Option.ite_none_right_eq_some, Option.some.injEq] at moved
      obtain ⟨-, rfl⟩ := moved
      exact .pairStart commandId deadline
  | runtimeShutdown =>
      simp only [step, runtimeShutdown, Option.ite_none_right_eq_some, Option.some.injEq] at moved
      obtain ⟨-, rfl⟩ := moved
      exact .runtimeShutdown
  | look =>
      simp only [step, look, Option.ite_none_right_eq_some, Option.some.injEq] at moved
      obtain ⟨-, rfl⟩ := moved
      exact .looked
  | noPairingConnection =>
      simp only [step, noPairingConnection, Option.ite_none_right_eq_some, Option.some.injEq]
        at moved
      obtain ⟨-, rfl⟩ := moved
      exact .elsewhere
  | passDeadline index =>
      obtain ⟨attempt, found, moved⟩ := Option.bind_eq_some_iff.mp moved
      simp only [passDeadline, Option.ite_none_right_eq_some, Option.some.injEq] at moved
      obtain ⟨⟨exchanging, -⟩, rfl⟩ := moved
      exact .inTime index attempt found exchanging
  | reserve index =>
      obtain ⟨attempt, found, moved⟩ := Option.bind_eq_some_iff.mp moved
      exact moved_of_reserve found moved
  | ask index transaction authentication =>
      obtain ⟨attempt, found, moved⟩ := Option.bind_eq_some_iff.mp moved
      simp only [ask, Option.ite_none_right_eq_some, Option.some.injEq] at moved
      obtain ⟨⟨reserved, -⟩, rfl⟩ := moved
      exact .asked index transaction authentication attempt found reserved
  | finish index completed =>
      obtain ⟨attempt, found, moved⟩ := Option.bind_eq_some_iff.mp moved
      exact moved_of_finish found moved
  | signal index =>
      obtain ⟨attempt, found, moved⟩ := Option.bind_eq_some_iff.mp moved
      simp only [signal, Option.ite_none_right_eq_some, Option.some.injEq] at moved
      obtain ⟨finished, rfl⟩ := moved
      exact .signalled index attempt found finished
  | abandon index =>
      obtain ⟨attempt, found, moved⟩ := Option.bind_eq_some_iff.mp moved
      simp only [abandon, Option.ite_none_right_eq_some, Option.some.injEq] at moved
      obtain ⟨early, rfl⟩ := moved
      exact .abandoned index attempt found early

end AcceptLoop

end Deskkin.Host
