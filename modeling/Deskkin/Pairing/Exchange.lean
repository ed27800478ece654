/-
# The pairing exchange

Two parties pair over one connection: the initiator, which is the device or the
simulator, and the desktop host as responder. Each follows a straight script of
sends, expected messages, one question to its user and three durable writes. A
party leaves its script at the first failure, and may leave it at any point for
a timeout or a lost connection. Either process may crash, and an unpair may
remove what a pairing left behind. Several connections may be open at once.

The encrypted channel is sound: what is read was sent by the other party on the
same connection, in order. A log beside the state records which user confirmed
which transaction, and which record was written completely; the code does not
have it.
-/

import Deskkin.Identity.Peer
import Deskkin.Lib.Runs

namespace Deskkin.Pairing

inductive Role
  | initiator
  | responder
  deriving DecidableEq

def Role.other : Role → Role
  | .initiator => .responder
  | .responder => .initiator

/-- The two programs that initiate a pairing. -/
inductive InitiatorKind
  | device
  | simulator
  deriving DecidableEq

inductive CloseReason
  | pairingBusy
  | expired
  | rejected
  | storeFailed
  | incomplete
  deriving DecidableEq

/-- The messages a script sends and expects by name. -/
inductive Signal
  | begin
  | prepared
  | commit
  | committed
  | complete
  | hello
  | helloAck
  deriving DecidableEq

inductive Message (τ : Type*)
  | pairing (signal : Signal) (transaction : τ)
  | pairingDecision (transaction : τ) (confirmed : Bool)
  | pairingClose (transaction : τ) (reason : CloseReason)
  | hello
  | helloAck
  | helloReject
  deriving DecidableEq

/-- The message for a signal. The two greetings of the session that follows do
not carry the transaction. -/
def Signal.message {τ : Type*} (transaction : τ) : Signal → Message τ
  | .hello => .hello
  | .helloAck => .helloAck
  | signal => .pairing signal transaction

inductive Phase
  | pending
  | committing
  | paired
  deriving DecidableEq

/-- The record a phase writes. -/
def Phase.peer {κ τ : Type*} (remote : κ) (transaction : τ) : Phase → PeerState κ τ
  | .pending => .pending remote transaction
  | .committing => .committing remote transaction
  | .paired => .paired remote transaction

inductive Action
  /-- Ask the local user. -/
  | confirm
  /-- Write the local decision, and leave unless both are positive. -/
  | decide
  /-- Read the remote decision. -/
  | hear
  | send (signal : Signal)
  | expect (signal : Signal)
  | store (phase : Phase)
  /-- Answer the greeting, positively or not. -/
  | answer
  deriving DecidableEq

/-- The scripts, in the order of the source. The responder's starts after it has
read the transaction. -/
def script : Role → List Action
  | .initiator =>
      [.send .begin, .confirm, .hear, .decide, .store .pending, .send .prepared,
        .expect .prepared, .send .commit, .expect .committed, .store .committing,
        .send .committed, .expect .complete, .store .paired, .send .hello, .expect .helloAck]
  | .responder =>
      [.confirm, .decide, .hear, .expect .prepared, .store .pending, .send .prepared,
        .expect .commit, .store .committing, .send .committed, .expect .committed,
        .send .complete, .expect .hello, .store .paired, .answer]

/-- Where a party is on one connection. `confirmed` is the answer of its own
user, and `heard` the decision it read; both count as positive until asked. -/
inductive Progress (τ : Type*)
  | connecting
  | listening
  | running (transaction : τ) (confirmed heard : Bool) (rest : List Action)
  | ended
  deriving DecidableEq

/-- One connection, with the messages under way in both directions. The
transaction is the one its initiator drew. -/
structure Connection (τ : Type*) where
  transaction : τ
  progress : Role → Progress τ
  inbox : Role → List (Message τ)

/-- A durable record: what is read back now, and what survives a crash. The two
differ after a write that failed between the rename and the directory sync. -/
structure Record (κ τ : Type*) where
  visible : PeerState κ τ
  durable : PeerState κ τ
  deriving DecidableEq

inductive Entry (κ τ : Type*)
  | confirmed (role : Role) (transaction : τ)
  | stored (role : Role) (peer : PeerState κ τ)
  deriving DecidableEq

structure System (κ τ : Type*) where
  records : Role → Record κ τ
  connections : List (Connection τ)
  log : List (Entry κ τ)

/-- How a durable write ends: completely, without effect, or between the rename
and the sync of its directory. -/
inductive WriteOutcome
  | completed
  | refused
  | unsynced
  deriving DecidableEq

namespace Record

variable {κ τ : Type*}

def write (self : Record κ τ) (peer : PeerState κ τ) : WriteOutcome → Record κ τ
  | .completed => ⟨peer, peer⟩
  | .refused => self
  | .unsynced => ⟨peer, self.durable⟩

/-- After a crash the record is what was synced, or an unsynced write survived. -/
def crash (self : Record κ τ) (survived : Bool) : Record κ τ :=
  if survived then ⟨self.visible, self.visible⟩ else ⟨self.durable, self.durable⟩

end Record

namespace Connection

variable {τ : Type*}

def setProgress (self : Connection τ) (role : Role) (progress : Progress τ) : Connection τ :=
  { self with progress := fun r => if r = role then progress else self.progress r }

/-- Put a message into the inbox of the other party. -/
def push (self : Connection τ) (role : Role) (message : Message τ) : Connection τ :=
  { self with inbox := fun r =>
      if r = role.other then self.inbox r ++ [message] else self.inbox r }

def setInbox (self : Connection τ) (role : Role) (messages : List (Message τ)) : Connection τ :=
  { self with inbox := fun r => if r = role then messages else self.inbox r }

end Connection

namespace System

variable {κ τ : Type*} [DecidableEq κ] [DecidableEq τ]

def setRecord (self : System κ τ) (role : Role) (record : Record κ τ) : System κ τ :=
  { self with records := fun r => if r = role then record else self.records r }

def setConnection (self : System κ τ) (index : ℕ) (connection : Connection τ) : System κ τ :=
  { self with connections := self.connections.set index connection }

def append (self : System κ τ) (entry : Entry κ τ) : System κ τ :=
  { self with log := entry :: self.log }

/-- What the environment chooses while a party takes the next action of its
script: the answer of the user or of the negotiation, and the end of a write. -/
structure Choice where
  accepted : Bool
  outcome : WriteOutcome
  deriving DecidableEq

/-- Whether a party checks a transition against its record before it writes. The
device writes what it read when it connected. -/
def checksTransition (kind : InitiatorKind) : Role → Bool
  | .initiator => decide (kind = .simulator)
  | .responder => true

/-- The end of a failed write. The hosted parties announce it. -/
def failStore (kind : InitiatorKind) (connection : Connection τ) (role : Role)
    (transaction : τ) : Connection τ :=
  let ended := connection.setProgress role .ended
  if checksTransition kind role then
    ended.push role (.pairingClose transaction .storeFailed)
  else
    ended

/-- What a party makes of the message it reads in place of the remote decision.
The responder leaves at anything but a confirmation. The simulator goes on to
announce its own decision after a rejection, and the device after any message. -/
def afterDecision (kind : InitiatorKind) (role : Role) (transaction : τ) (confirmed : Bool)
    (rest : List Action) (message : Message τ) : Progress τ :=
  if message = .pairingDecision transaction true then
    .running transaction confirmed true rest
  else if role = .initiator ∧
      (kind = .device ∨ message = .pairingDecision transaction false) then
    .running transaction confirmed false rest
  else
    .ended

/-- Take one action. A read waits for a message; one that is not expected ends
the script. -/
def takeAction (kind : InitiatorKind) (key : Role → κ) (self : System κ τ) (index : ℕ)
    (connection : Connection τ) (role : Role) (transaction : τ) (confirmed heard : Bool)
    (action : Action) (rest : List Action) (choice : Choice) : Option (System κ τ) :=
  match action with
  | .confirm =>
      let asked := self.setConnection index
        (connection.setProgress role (.running transaction choice.accepted heard rest))
      some (if choice.accepted then asked.append (.confirmed role transaction) else asked)
  | .decide =>
      let announced := connection.push role (.pairingDecision transaction confirmed)
      some (self.setConnection index (announced.setProgress role
        (if confirmed && heard then .running transaction confirmed heard rest else .ended)))
  | .hear =>
      match connection.inbox role with
      | [] => none
      | message :: inbox =>
          some (self.setConnection index ((connection.setInbox role inbox).setProgress role
            (afterDecision kind role transaction confirmed rest message)))
  | .send signal =>
      some (self.setConnection index
        ((connection.push role (signal.message transaction)).setProgress
          role (.running transaction confirmed heard rest)))
  | .expect signal =>
      match connection.inbox role with
      | [] => none
      | message :: inbox =>
          some (self.setConnection index ((connection.setInbox role inbox).setProgress role
            (if message = signal.message transaction then
              .running transaction confirmed heard rest
            else .ended)))
  | .store phase =>
      let peer := phase.peer (key role.other) transaction
      if checksTransition kind role && !(self.records role).visible.validTransition peer then
        some (self.setConnection index (failStore kind connection role transaction))
      else
        let written := self.setRecord role ((self.records role).write peer choice.outcome)
        match choice.outcome with
        | .completed => some ((written.setConnection index
            (connection.setProgress role (.running transaction confirmed heard rest))).append
              (.stored role peer))
        | _ => some (written.setConnection index (failStore kind connection role transaction))
  | .answer =>
      some (self.setConnection index ((connection.push role
        (if choice.accepted then .helloAck else .helloReject)).setProgress role .ended))

/-- The responder checks its record and listens. -/
def accept (self : System κ τ) (index : ℕ) (connection : Connection τ) : Option (System κ τ) :=
  match connection.progress .responder with
  | .connecting =>
      some (self.setConnection index (connection.setProgress .responder
        (if (self.records .responder).visible = .unpaired then .listening else .ended)))
  | _ => none

/-- The responder reads the first message and reserves its pairing slot. -/
def begin (self : System κ τ) (index : ℕ) (connection : Connection τ) (reserved : Bool) :
    Option (System κ τ) :=
  match connection.progress .responder, connection.inbox .responder with
  | .listening, .pairing .begin transaction :: inbox =>
      let taken := connection.setInbox .responder inbox
      some (self.setConnection index
        (if reserved then
          taken.setProgress .responder (.running transaction true true (script .responder))
        else
          (taken.push .responder (.pairingClose transaction .pairingBusy)).setProgress
            .responder .ended))
  | .listening, _ :: inbox =>
      some (self.setConnection index
        ((connection.setInbox .responder inbox).setProgress .responder .ended))
  | _, _ => none

def act (kind : InitiatorKind) (key : Role → κ) (self : System κ τ) (index : ℕ)
    (connection : Connection τ) (role : Role) (choice : Choice) : Option (System κ τ) :=
  match connection.progress role with
  | .running transaction confirmed heard (action :: rest) =>
      self.takeAction kind key index connection role transaction confirmed heard action rest
        choice
  | _ => none

/-- A deadline, a lost connection or a failed write to it, announced or not. -/
def abort (self : System κ τ) (index : ℕ) (connection : Connection τ) (role : Role)
    (notice : Option CloseReason) : System κ τ :=
  let ended := connection.setProgress role .ended
  self.setConnection index (match notice with
    | none => ended
    | some reason => ended.push role (.pairingClose connection.transaction reason))

def crash (self : System κ τ) (role : Role) (survived : Bool) : System κ τ :=
  { self.setRecord role ((self.records role).crash survived) with
    connections := self.connections.map fun connection => connection.setProgress role .ended }

/-- The record an unpair writes next. -/
def unpairNext : PeerState κ τ → Option (PeerState κ τ)
  | .unpaired => none
  | .pending key transaction | .committing key transaction | .paired key transaction =>
      some (.revoking key transaction)
  | .revoking _ _ => some .unpaired

inductive Label (τ : Type*)
  /-- The initiator checks its record, connects and draws a transaction. -/
  | connect (transaction : τ)
  | accept (index : ℕ)
  | begin (index : ℕ) (reserved : Bool)
  | act (index : ℕ) (role : Role) (choice : Choice)
  | abort (index : ℕ) (role : Role) (notice : Option CloseReason)
  | crash (role : Role) (survived : Bool)
  /-- One of the two writes of an unpair. -/
  | unpair (role : Role) (outcome : WriteOutcome)
  deriving DecidableEq

/-- The connection an initiator opens. -/
def opened (transaction : τ) : Connection τ where
  transaction := transaction
  progress
    | .initiator => .running transaction true true (script .initiator)
    | .responder => .connecting
  inbox _ := []

def step (kind : InitiatorKind) (key : Role → κ) (self : System κ τ) :
    Label τ → Option (System κ τ)
  | .connect transaction =>
      if (self.records .initiator).visible = .unpaired then
        some { self with connections := self.connections ++ [opened transaction] }
      else
        none
  | .accept index => self.connections[index]?.bind (self.accept index)
  | .begin index reserved =>
      self.connections[index]?.bind fun connection => self.begin index connection reserved
  | .act index role choice =>
      self.connections[index]?.bind fun connection =>
        self.act kind key index connection role choice
  | .abort index role notice =>
      self.connections[index]?.map fun connection => self.abort index connection role notice
  | .crash role survived => some (self.crash role survived)
  | .unpair role outcome =>
      (unpairNext (self.records role).visible).map fun peer =>
        self.setRecord role ((self.records role).write peer outcome)

/-- Two unpaired parties with the given static keys. -/
def machine (kind : InitiatorKind) (key : Role → κ) : StepSystem (System κ τ) (Label τ) where
  Initial self := self = ⟨fun _ => ⟨.unpaired, .unpaired⟩, [], []⟩
  step := step kind key

end System

end Deskkin.Pairing
