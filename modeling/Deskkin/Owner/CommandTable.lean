/-
# The command table of the owner control

Commands that take time are accepted into a table under the id their sender chose, and
their results are asked for later. Worker threads and pairing tasks send their updates
through one channel, which is read before each command; a pairing decision goes to its
task through a channel of its own that has room for one. All of this is done under one
lock, so a command is one step.

A pairing task is a value that other threads hold copies of. As long as one of them does
it may send any update at any time, take its decision or be dropped.

A log beside the state keeps what was accepted, decided, evicted and answered, and the
records keep the command they stand for; the code has neither.
-/

import Deskkin.Host.PairingWindow
import Deskkin.Owner.ProfileStore

namespace Deskkin.OwnerControl

open Host

def tableMax : ℕ := 16

/-- Instants are nanoseconds. -/
def minute : ℕ := 60 * 10 ^ 9

/-! ## Commands and responses -/

inductive OwnerCommand
  | ownerInfo
  | identityInit (commandId ownerGeneration : Text)
  | identityList
  | unpair (commandId ownerGeneration peerId : Text)
  | pairingWindowOpen (commandId ownerGeneration : Text)
  | pairStart (commandId ownerGeneration loopbackAddress : Text)
  | pairingDecide (commandId ownerGeneration parentCommandId pairingTransactionId : Text)
      (confirmed : Bool)
  | commandResult (commandId ownerGeneration : Text)
  | shutdown (ownerGeneration : Text)
  deriving DecidableEq

inductive OwnerResponse
  | ownerInfo (ownerGeneration : Text) (launch : Option OwnerLaunchMetadata)
  | identityInitialized
  | identityState (peer : PeerState Text Text)
  | unpaired
  | pairingConfirmationRequired (pairingTransactionId authenticationString : Text)
  | pairingDecisionAccepted
  | pairingWaiting
  | paired
  | commandUnknown
  | commandAccepted
  | commandPending
  | staleOwner
  | invalidRequest
  | ownerBusy
  | operationFailed
  | shutdownAccepted
  deriving DecidableEq

namespace OwnerCommand

/-- The generation that a command names. -/
def generation : OwnerCommand → Option Text
  | .ownerInfo | .identityList => none
  | .identityInit _ generation | .unpair _ generation _ | .pairingWindowOpen _ generation
  | .pairStart _ generation _ | .pairingDecide _ generation _ _ _ | .commandResult _ generation
  | .shutdown generation => some generation

/-- The id under which a command would be accepted. -/
def acceptedId : OwnerCommand → Option Text
  | .identityInit commandId _ | .unpair commandId _ _ | .pairingWindowOpen commandId _
  | .pairStart commandId _ _ | .pairingDecide commandId _ _ _ _ => some commandId
  | _ => none

/-- The command goes to the runtime as an event. -/
def isEvent : OwnerCommand → Bool
  | .pairingWindowOpen _ _ | .pairStart _ _ _ => true
  | _ => false

end OwnerCommand

namespace OwnerResponse

/-- The updates that do not complete a command. -/
def ongoing : OwnerResponse → Bool
  | .pairingConfirmationRequired _ _ | .pairingWaiting => true
  | _ => false

/-- What a pairing task sends. -/
def ofUpdate : TaskUpdate → OwnerResponse
  | .pairingWaiting => .pairingWaiting
  | .pairingConfirmationRequired transaction authentication =>
      .pairingConfirmationRequired transaction authentication
  | .paired => .paired
  | .operationFailed => .operationFailed

end OwnerResponse

def validId (value : Text) : Bool :=
  decide (value.length = 32) && value.all isLowerHexDigit

/-! ## The table -/

/-- The command belongs to the log. -/
structure DecisionResult where
  id : Text
  response : OwnerResponse
  command : OwnerCommand
  deriving DecidableEq

/-- The sender of a decision is the number of the pairing task that has its receiver. The
command belongs to the log. -/
structure CommandRecord where
  id : Text
  response : Option OwnerResponse
  completedAt : Option ℕ
  decision : Option ℕ
  decisionResults : List DecisionResult
  command : OwnerCommand
  deriving DecidableEq

namespace CommandRecord

/-- What is answered about a record. -/
def current (record : CommandRecord) : OwnerResponse := record.response.getD .commandPending

/-- What a record answers when it is asked for an id. -/
def answer (record : CommandRecord) (commandId : Text) : Option OwnerResponse :=
  if record.id = commandId then some record.current
  else
    (record.decisionResults.find? fun result => result.id = commandId).map
      DecisionResult.response

/-- The transaction that the owner is asked about. -/
def prompt (record : CommandRecord) : Option Text :=
  match record.response with
  | some (.pairingConfirmationRequired transaction _) => some transaction
  | _ => none

/-- The response will not change by itself. -/
def Terminal (record : CommandRecord) : Prop :=
  ∃ response, record.response = some response ∧ response.ongoing = false

def withResponse (record : CommandRecord) (response : OwnerResponse) (completedAt : ℕ) :
    CommandRecord :=
  { record with
    response := some response
    completedAt := if response.ongoing then none else some completedAt }

def withDecision (record : CommandRecord) (result : DecisionResult) : CommandRecord :=
  { record with decisionResults := record.decisionResults ++ [result] }

end CommandRecord

/-- Changes the first record under an id. -/
def modifyRecord (id : Text) (change : CommandRecord → CommandRecord) :
    List CommandRecord → List CommandRecord
  | [] => []
  | record :: records =>
      if record.id = id then change record :: records
      else record :: modifyRecord id change records

/-! ## The state -/

structure Completion where
  id : Text
  response : OwnerResponse
  completedAt : ℕ
  deriving DecidableEq

inductive Operation
  | initForOwner
  | unpairWithRevocation (peerId : Text)
  deriving DecidableEq

/-- The result of an operation that succeeds. -/
def Operation.success : Operation → OwnerResponse
  | .initForOwner => .identityInitialized
  | .unpairWithRevocation _ => .unpaired

/-- A thread that has not sent its completion yet. -/
structure Worker where
  commandId : Text
  operation : Operation
  deriving DecidableEq

inductive PairingKind
  | pairingWindowOpen
  | pairStart (address : Text)
  deriving DecidableEq

/-- A task that was sent as an event, and whether anyone still holds it. -/
structure PairingTask where
  kind : PairingKind
  commandId : Text
  deadline : ℕ
  decisions : List (Text × Bool)
  held : Bool
  deriving DecidableEq

/-- The other end of the channel of events. -/
inductive EventReceiver
  | listening
  | gone
  deriving DecidableEq

/-- A decision is kept with the record it was made about, as that was before. -/
inductive LogEntry
  | accepted (command : OwnerCommand)
  | decided (record : CommandRecord) (transaction : Text) (result : DecisionResult)
  | evicted (record : CommandRecord)
  | answered (command : OwnerCommand) (response : OwnerResponse)
  deriving DecidableEq

/-- What stays the same while an owner runs. The standard library reads an address as
none, or tells whether it is one of the loopback. -/
structure OwnerSetup where
  ownerGeneration : Text
  launch : Option OwnerLaunchMetadata
  loopback : Text → Option Bool

/-- A blocked control thread waits in a send, with the lock. -/
structure ControlState where
  now : ℕ
  peer : Option (PeerState Text Text)
  table : List CommandRecord
  completions : List Completion
  workers : List Worker
  eventSender : Option EventReceiver
  tasks : List PairingTask
  blocked : Bool
  log : List LogEntry
  deriving DecidableEq

namespace ControlState

def note (self : ControlState) (entry : LogEntry) : ControlState :=
  { self with log := self.log ++ [entry] }

/-! ## What comes before each command -/

def complete (table : List CommandRecord) (completion : Completion) : List CommandRecord :=
  modifyRecord completion.id
    (fun record => record.withResponse completion.response completion.completedAt) table

def applyCompletions (self : ControlState) : ControlState :=
  { self with table := self.completions.foldl complete self.table, completions := [] }

/-- Completed at most ten minutes ago, or not at all. -/
def recent (self : ControlState) (record : CommandRecord) : Bool :=
  record.completedAt.all fun completed => self.now - completed < 10 * minute

def expireTerminal (self : ControlState) : ControlState :=
  { self with
    table := self.table.filter self.recent
    log := self.log ++ (self.table.filter fun record => !self.recent record).map .evicted }

def settled (self : ControlState) : ControlState := self.applyCompletions.expireTerminal

/-! ## Acceptance -/

/-- A command that is known under its id is not accepted again. -/
def acceptOnce (self : ControlState) (commandId : Text) (entered : ControlState × OwnerResponse) :
    ControlState × OwnerResponse :=
  if validId commandId = false then (self, .invalidRequest)
  else
    match self.table.find? fun record => record.id = commandId with
    | some record => (self, record.current)
    | none => if self.table.length ≥ tableMax then (self, .ownerBusy) else entered

def accept (self : ControlState) (command : OwnerCommand) (commandId : Text)
    (operation : Operation) : ControlState × OwnerResponse :=
  self.acceptOnce commandId
    ({ self with
      table := self.table ++ [⟨commandId, none, none, none, [], command⟩]
      workers := self.workers ++ [⟨commandId, operation⟩]
      log := self.log ++ [.accepted command] }, .commandAccepted)

/-- Without a channel nothing is recorded; an event that cannot be sent fails at once. -/
def enterPairing (self : ControlState) (command : OwnerCommand) (commandId : Text)
    (kind : PairingKind) : ControlState × OwnerResponse :=
  match self.eventSender with
  | none => (self, .operationFailed)
  | some .gone =>
      ({ self with
        table := self.table ++
          [⟨commandId, some .operationFailed, some self.now, none, [], command⟩]
        log := self.log ++ [.accepted command] }, .operationFailed)
  | some .listening =>
      ({ self with
        table := self.table ++ [⟨commandId, none, none, some self.tasks.length, [], command⟩]
        tasks := self.tasks ++ [⟨kind, commandId, self.now + minute, [], true⟩]
        log := self.log ++ [.accepted command] }, .commandAccepted)

def acceptPairingEvent (self : ControlState) (command : OwnerCommand) (commandId : Text)
    (kind : PairingKind) : ControlState × OwnerResponse :=
  self.acceptOnce commandId (self.enterPairing command commandId kind)

/-! ## Decisions -/

/-- How a send into a channel with room for one ends. -/
inductive Sent
  | done (tasks : List PairingTask)
  | disconnected
  | waits
  deriving DecidableEq

def sendDecision (self : ControlState) (sender : ℕ) (decision : Text × Bool) : Sent :=
  match self.tasks[sender]? with
  | none => .disconnected
  | some task =>
      if task.held = false then .disconnected
      else if task.decisions.length ≥ 1 then .waits
      else .done (self.tasks.set sender { task with decisions := task.decisions ++ [decision] })

/-- The result that is recorded under the id of a decision. -/
def decisionResult (self : ControlState) (commandId : Text) : Option OwnerResponse :=
  self.table.findSome? fun record =>
    (record.decisionResults.find? fun result => result.id = commandId).map DecisionResult.response

def recordDecision (self : ControlState) (tasks : List PairingTask) (parent : CommandRecord)
    (transaction : Text) (result : DecisionResult) : ControlState :=
  { self with
    table := modifyRecord parent.id (fun record => record.withDecision result) self.table
    tasks := tasks
    log := self.log ++ [.decided parent transaction result] }

/-- `none` if the send waits. -/
def acceptPairingDecision (self : ControlState) (command : OwnerCommand)
    (commandId parentCommandId transaction : Text) (confirmed : Bool) :
    Option (ControlState × OwnerResponse) :=
  if validId commandId = false ∨ validId parentCommandId = false ∨ validId transaction = false then
    some (self, .invalidRequest)
  else
    match self.decisionResult commandId with
    | some response => some (self, response)
    | none =>
        match self.table.find? fun record => record.id = parentCommandId with
        | none => some (self, .invalidRequest)
        | some parent =>
            if parent.decisionResults ≠ [] then some (self, .invalidRequest)
            else if parent.prompt ≠ some transaction then some (self, .invalidRequest)
            else
              match parent.decision.elim .disconnected fun sender =>
                self.sendDecision sender (transaction, confirmed) with
              | .waits => none
              | .disconnected =>
                  some (self.recordDecision self.tasks parent transaction
                    ⟨commandId, .invalidRequest, command⟩, .invalidRequest)
              | .done tasks =>
                  some (self.recordDecision tasks parent transaction
                    ⟨commandId, .pairingDecisionAccepted, command⟩, .pairingDecisionAccepted)

/-! ## A command -/

def commandResult (self : ControlState) (commandId : Text) : Option OwnerResponse :=
  self.table.findSome? fun record => record.answer commandId

/-- The response, and whether it asks for a shutdown. `none` if the thread waits. -/
def handleCommand (setup : OwnerSetup) (before : ControlState) (command : OwnerCommand) :
    Option (ControlState × OwnerResponse × Bool) :=
  let self := before.settled
  if command.generation.any (fun generation => generation ≠ setup.ownerGeneration) then
    some (self, .staleOwner, false)
  else
    match command with
    | .ownerInfo => some (self, .ownerInfo setup.ownerGeneration setup.launch, false)
    | .identityList =>
        some (self, self.peer.elim .operationFailed .identityState, false)
    | .commandResult commandId _ =>
        some (self, (self.commandResult commandId).getD .commandUnknown, false)
    | .shutdown _ => some (self, .shutdownAccepted, true)
    | .identityInit commandId _ =>
        let (self, response) := self.accept command commandId .initForOwner
        some (self, response, false)
    | .unpair commandId _ peerId =>
        let (self, response) := self.accept command commandId (.unpairWithRevocation peerId)
        some (self, response, false)
    | .pairingWindowOpen commandId _ =>
        let (self, response) := self.acceptPairingEvent command commandId .pairingWindowOpen
        some (self, response, false)
    | .pairStart commandId _ loopbackAddress =>
        match setup.loopback loopbackAddress with
        | some true =>
            let (self, response) :=
              self.acceptPairingEvent command commandId (.pairStart loopbackAddress)
            some (self, response, false)
        | _ => some (self, .invalidRequest, false)
    | .pairingDecide commandId _ parentCommandId pairingTransactionId confirmed =>
        (self.acceptPairingDecision command commandId parentCommandId pairingTransactionId
          confirmed).map fun done => (done.1, done.2, false)

/-! ## Steps -/

/-- A worker ends with the result of its operation or with a failure. -/
inductive ControlLabel
  | tick (elapsed : ℕ)
  | changePeer (peer : Option (PeerState Text Text))
  | command (command : OwnerCommand)
  | workerDone (index : ℕ) (succeeded : Bool)
  | update (task : ℕ) (update : TaskUpdate)
  | receive (task : ℕ)
  | release (task : ℕ)
  | closeEvents
  deriving DecidableEq

def post (self : ControlState) (id : Text) (response : OwnerResponse) : ControlState :=
  { self with completions := self.completions ++ [⟨id, response, self.now⟩] }

def serve (setup : OwnerSetup) (self : ControlState) (command : OwnerCommand) :
    Option ControlState :=
  if self.blocked then none
  else
    match self.handleCommand setup command with
    | none => some { self with blocked := true }
    | some done => some (done.1.note (.answered command done.2.1))

def workerDone (self : ControlState) (index : ℕ) (succeeded : Bool) : Option ControlState :=
  (self.workers[index]?).map fun worker =>
    { self with workers := self.workers.eraseIdx index }.post worker.commandId
      (if succeeded then worker.operation.success else .operationFailed)

/-- A step of a task that someone holds. -/
def withTask (self : ControlState) (index : ℕ) (change : PairingTask → Option ControlState) :
    Option ControlState :=
  match self.tasks[index]? with
  | some task => if task.held then change task else none
  | none => none

def step (setup : OwnerSetup) (self : ControlState) : ControlLabel → Option ControlState
  | .tick elapsed => some { self with now := self.now + elapsed }
  | .changePeer peer => some { self with peer := peer }
  | .command command => self.serve setup command
  | .workerDone index succeeded => self.workerDone index succeeded
  | .update index update =>
      self.withTask index fun task => some (self.post task.commandId (.ofUpdate update))
  | .receive index =>
      self.withTask index fun task =>
        some { self with
          tasks := self.tasks.set index { task with decisions := task.decisions.tail } }
  | .release index =>
      self.withTask index fun task =>
        some { self with tasks := self.tasks.set index { task with held := false } }
  | .closeEvents => some { self with eventSender := self.eventSender.map fun _ => .gone }

/-- An owner starts with an empty table. -/
def started (now : ℕ) (peer : Option (PeerState Text Text)) (eventSender : Option EventReceiver) :
    ControlState where
  now := now
  peer := peer
  table := []
  completions := []
  workers := []
  eventSender := eventSender
  tasks := []
  blocked := false
  log := []

def machine (setup : OwnerSetup) : StepSystem ControlState ControlLabel where
  Initial self := ∃ now peer eventSender, self = started now peer eventSender
  step := step setup

/-! ## What a command can do -/

/-- A command that may enter the table under an id. -/
def Ordinary (setup : OwnerSetup) (commandId : Text) : OwnerCommand → Prop
  | .identityInit id generation | .unpair id generation _ | .pairingWindowOpen id generation =>
      id = commandId ∧ generation = setup.ownerGeneration
  | .pairStart id generation address =>
      id = commandId ∧ generation = setup.ownerGeneration ∧ setup.loopback address = some true
  | _ => False

/-- A decision that may be recorded under an id. -/
def Deciding (setup : OwnerSetup) (commandId : Text) : OwnerCommand → Prop
  | .pairingDecide id generation parent transaction _ =>
      id = commandId ∧ generation = setup.ownerGeneration ∧ validId parent = true ∧
        validId transaction = true
  | _ => False

/-- The record of an accepted command, and the thread or the task that works for it. -/
inductive Entered (self : ControlState) (command : OwnerCommand) (commandId : Text) :
    CommandRecord → List Worker → List PairingTask → Prop
  | worker (operation : Operation) :
      Entered self command commandId ⟨commandId, none, none, none, [], command⟩
        (self.workers ++ [⟨commandId, operation⟩]) self.tasks
  | failed :
      Entered self command commandId
        ⟨commandId, some .operationFailed, some self.now, none, [], command⟩ self.workers self.tasks
  | task (kind : PairingKind) :
      Entered self command commandId
        ⟨commandId, none, none, some self.tasks.length, [], command⟩ self.workers
        (self.tasks ++ [⟨kind, commandId, self.now + minute, [], true⟩])

def enter (self : ControlState) (command : OwnerCommand) (record : CommandRecord)
    (workers : List Worker) (tasks : List PairingTask) : ControlState :=
  { self with
    table := self.table ++ [record]
    workers := workers
    tasks := tasks
    log := self.log ++ [.accepted command] }

/-- What becomes of the channels with a decision. -/
inductive Delivered (self : ControlState) (parent : CommandRecord) (decision : Text × Bool) :
    List PairingTask → OwnerResponse → Prop
  | refused : Delivered self parent decision self.tasks .invalidRequest
  | accepted (sender : ℕ) (task : PairingTask) (channel : parent.decision = some sender)
      (found : self.tasks[sender]? = some task) (empty : task.decisions = []) :
      Delivered self parent decision
        (self.tasks.set sender { task with decisions := task.decisions ++ [decision] })
        .pairingDecisionAccepted

/-- What a command makes of a settled state. -/
inductive Handled (setup : OwnerSetup) (self : ControlState) (command : OwnerCommand) :
    ControlState → Prop
  | kept : Handled setup self command self
  | accepted (commandId : Text) (record : CommandRecord) (workers : List Worker)
      (tasks : List PairingTask) (ordinary : Ordinary setup commandId command)
      (valid : validId commandId = true) (fresh : ∀ record ∈ self.table, record.id ≠ commandId)
      (room : self.table.length < tableMax)
      (able : command.isEvent = true → self.eventSender ≠ none)
      (entered : Entered self command commandId record workers tasks) :
      Handled setup self command (self.enter command record workers tasks)
  | decided (commandId transaction : Text) (confirmed : Bool) (parent : CommandRecord)
      (tasks : List PairingTask) (response : OwnerResponse)
      (asked : command =
        .pairingDecide commandId setup.ownerGeneration parent.id transaction confirmed)
      (deciding : Deciding setup commandId command) (valid : validId commandId = true)
      (fresh : self.decisionResult commandId = none) (found : parent ∈ self.table)
      (first : parent.decisionResults = []) (prompt : parent.prompt = some transaction)
      (delivered : Delivered self parent (transaction, confirmed) tasks response) :
      Handled setup self command
        (self.recordDecision tasks parent transaction ⟨commandId, response, command⟩)

section Cases

variable {setup : OwnerSetup} {self : ControlState} {command : OwnerCommand} {commandId : Text}

theorem acceptOnce_cases {P : ControlState → Prop} {entered : ControlState × OwnerResponse}
    (kept : P self)
    (accepted : validId commandId = true → (∀ record ∈ self.table, record.id ≠ commandId) →
      self.table.length < tableMax → P entered.1) :
    P (self.acceptOnce commandId entered).1 := by
  rw [acceptOnce]
  split
  · exact kept
  · rename_i valid
    split
    · exact kept
    · rename_i unknown
      split
      · exact kept
      · rename_i room
        refine accepted (by simpa using valid) (fun record member => ?_) (Nat.lt_of_not_le room)
        simpa using List.find?_eq_none.mp unknown record member

theorem handled_accept (operation : Operation) (ordinary : Ordinary setup commandId command)
    (inside : command.isEvent = false) :
    Handled setup self command (self.accept command commandId operation).1 := by
  apply acceptOnce_cases .kept
  intro valid fresh room
  have able : command.isEvent = true → self.eventSender ≠ none := by
    rw [inside]
    exact fun impossible => absurd impossible Bool.false_ne_true
  exact .accepted commandId _ _ _ ordinary valid fresh room able (.worker operation)

theorem handled_acceptPairingEvent (kind : PairingKind)
    (ordinary : Ordinary setup commandId command) :
    Handled setup self command (self.acceptPairingEvent command commandId kind).1 := by
  apply acceptOnce_cases .kept
  intro valid fresh room
  rw [enterPairing]
  split
  · exact .kept
  · rename_i gone
    have able : self.eventSender ≠ none := gone.symm ▸ Option.some_ne_none _
    exact .accepted commandId _ _ _ ordinary valid fresh room (fun _ => able) .failed
  · rename_i listening
    have able : self.eventSender ≠ none := listening.symm ▸ Option.some_ne_none _
    exact .accepted commandId _ _ _ ordinary valid fresh room (fun _ => able) (.task kind)

theorem sendDecision_done {sender : ℕ} {decision : Text × Bool} {tasks : List PairingTask}
    (done : self.sendDecision sender decision = .done tasks) :
    ∃ task, self.tasks[sender]? = some task ∧ task.decisions = [] ∧
      tasks = self.tasks.set sender { task with decisions := task.decisions ++ [decision] } := by
  rw [sendDecision] at done
  split at done
  · cases done
  · rename_i task found
    split at done
    · cases done
    · split at done
      · cases done
      · rename_i few
        cases done
        refine ⟨task, found, ?_, rfl⟩
        exact List.eq_nil_of_length_eq_zero (by omega)

theorem handled_acceptPairingDecision {parentCommandId transaction : Text} {confirmed : Bool}
    {done : ControlState × OwnerResponse} (asked : command =
      .pairingDecide commandId setup.ownerGeneration parentCommandId transaction confirmed)
    (moved : self.acceptPairingDecision command commandId parentCommandId transaction confirmed =
      some done) : Handled setup self command done.1 := by
  rw [acceptPairingDecision] at moved
  split at moved
  · cases moved
    exact .kept
  rename_i valid
  split at moved
  · cases moved
    exact .kept
  rename_i fresh
  split at moved
  · cases moved
    exact .kept
  rename_i parent found
  split at moved
  · cases moved
    exact .kept
  rename_i first
  split at moved
  · cases moved
    exact .kept
  rename_i prompt
  simp only [not_or, Bool.not_eq_false] at valid
  have deciding : Deciding setup commandId command := by
    rw [asked]
    exact ⟨rfl, rfl, valid.2⟩
  have there := List.mem_of_find?_eq_some found
  have same : parent.id = parentCommandId := by simpa using List.find?_some found
  rw [← same] at asked
  split at moved
  · cases moved
  · cases moved
    exact .decided commandId transaction confirmed parent _ _ asked deciding valid.1 fresh there
      (not_not.mp first) (not_not.mp prompt) .refused
  · rename_i tasks sent
    cases moved
    cases channel : parent.decision with
    | none =>
        rw [channel] at sent
        cases sent
    | some sender =>
        rw [channel] at sent
        obtain ⟨task, waiting, empty, rfl⟩ := sendDecision_done sent
        exact .decided commandId transaction confirmed parent _ _ asked deciding valid.1 fresh there
          (not_not.mp first) (not_not.mp prompt) (.accepted sender task channel waiting empty)

/-- The generation of a command that is not stale. -/
theorem generation_eq {generation : Text} (named : command.generation = some generation)
    (current : ¬command.generation.any (fun generation => generation ≠ setup.ownerGeneration)) :
    generation = setup.ownerGeneration := by
  rw [named] at current
  simpa using current

theorem handled_of_handleCommand {before : ControlState}
    {done : ControlState × OwnerResponse × Bool}
    (moved : before.handleCommand setup command = some done) :
    Handled setup before.settled command done.1 := by
  unfold handleCommand at moved
  dsimp only at moved
  split at moved
  · cases moved
    exact .kept
  rename_i current
  cases command with
  | ownerInfo | identityList | commandResult _ _ | shutdown _ =>
      cases moved
      exact .kept
  | identityInit commandId generation =>
      cases moved
      exact handled_accept _ ⟨rfl, generation_eq rfl current⟩ rfl
  | unpair commandId generation peerId =>
      cases moved
      exact handled_accept _ ⟨rfl, generation_eq rfl current⟩ rfl
  | pairingWindowOpen commandId generation =>
      cases moved
      exact handled_acceptPairingEvent _ ⟨rfl, generation_eq rfl current⟩
  | pairStart commandId generation loopbackAddress =>
      dsimp only at moved
      split at moved
      · rename_i loopback
        cases moved
        exact handled_acceptPairingEvent _ ⟨rfl, generation_eq rfl current, loopback⟩
      · cases moved
        exact .kept
  | pairingDecide commandId generation parentCommandId transaction confirmed =>
      obtain ⟨result, accepted, rfl⟩ := Option.map_eq_some_iff.mp moved
      have same : generation = setup.ownerGeneration := generation_eq rfl current
      exact handled_acceptPairingDecision (same ▸ rfl) accepted

/-- A send that waits is that of a decision about a record without one. -/
theorem full_of_acceptPairingDecision {parentCommandId transaction : Text} {confirmed : Bool}
    (waits : self.acceptPairingDecision command commandId parentCommandId transaction confirmed =
      none) :
    ∃ parent ∈ self.table, ∃ sender task, parent.decisionResults = [] ∧
      parent.decision = some sender ∧ self.tasks[sender]? = some task ∧ task.decisions ≠ [] := by
  rw [acceptPairingDecision] at waits
  split at waits
  · cases waits
  split at waits
  · cases waits
  split at waits
  · cases waits
  rename_i parent found
  split at waits
  · cases waits
  rename_i first
  split at waits
  · cases waits
  split at waits
  · rename_i full
    cases channel : parent.decision with
    | none =>
        rw [channel] at full
        cases full
    | some sender =>
        rw [channel, Option.elim_some, sendDecision] at full
        split at full
        · cases full
        rename_i task there
        split at full
        · cases full
        split at full
        · rename_i many
          refine ⟨parent, List.mem_of_find?_eq_some found, sender, task, not_not.mp first, channel,
            there, ?_⟩
          intro empty
          rw [empty] at many
          cases many
        · cases full
  · cases waits
  · cases waits

theorem full_of_handleCommand {before : ControlState}
    (waits : before.handleCommand setup command = none) :
    ∃ parent ∈ before.settled.table, ∃ sender task, parent.decisionResults = [] ∧
      parent.decision = some sender ∧ before.settled.tasks[sender]? = some task ∧
      task.decisions ≠ [] := by
  unfold handleCommand at waits
  dsimp only at waits
  split at waits
  · cases waits
  cases command with
  | pairingDecide commandId generation parentCommandId transaction confirmed =>
      exact full_of_acceptPairingDecision (Option.map_eq_none_iff.mp waits)
  | pairStart commandId generation loopbackAddress =>
      dsimp only at waits
      split at waits <;> cases waits
  | _ => cases waits

end Cases

end ControlState

end Deskkin.OwnerControl
