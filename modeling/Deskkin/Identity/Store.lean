/-
# The hosted identity store

Every operation of the store looks through the directory, which an initialization
makes where it is missing, and then holds the exclusive file lock while it reads the
canonical file and, where it changes the record, publishes a whole new one: remove a
leftover temporary file, create a new one, write it, sync it, rename it into place and
sync the directory. The store is a step system of any number of callers that look and
of the operation that has the lock, each of which takes one file-system step at a time
and can fail or be killed between any two. What it has done stays for the others. A
loss of power takes the rest: what the kernel has not written back is gone, data that
was not synced is arbitrary, and any temporary file may be left behind.

Nothing but the store puts files into the directory.
-/

import Deskkin.Identity.Record
import Deskkin.Lib.Runs

namespace Deskkin

/-! ## The file system under the store -/

structure StoredFile (γ : Type*) where
  contents : γ
  synced : Bool

inductive RootEntry
  | missing
  /-- A directory that others may look into. -/
  | exposed
  | controlled
  deriving DecidableEq

/-- The directory of the store. What is durable is what a loss of power would leave: the
entry of the directory, and the canonical file in it. -/
structure Disk (γ : Type*) where
  root : RootEntry
  canonical : Option (StoredFile γ)
  temporary : Option (StoredFile γ)
  durableRoot : RootEntry
  durable : Option (StoredFile γ)

inductive FsStep (γ : Type*)
  | removeTemporary
  | createTemporary
  | writeTemporary (contents : γ)
  | syncTemporary
  | renameTemporary
  | syncDirectory

/-- What a loss of power makes of a file whose data may not have been synced. -/
def StoredFile.settle {γ : Type*} (lost : γ) (file : StoredFile γ) : StoredFile γ :=
  ⟨if file.synced then file.contents else lost, true⟩

namespace Disk

variable {γ : Type*} (platform : Platform γ)

/-- One file-system step. The temporary file is created only where none is, and
only an existing one is written, synced or renamed. -/
def apply (disk : Disk γ) : FsStep γ → Option (Disk γ)
  | .removeTemporary => some { disk with temporary := none }
  | .createTemporary =>
      match disk.temporary with
      | none => some { disk with temporary := some ⟨platform.empty, false⟩ }
      | some _ => none
  | .writeTemporary contents =>
      disk.temporary.map fun _ => { disk with temporary := some ⟨contents, false⟩ }
  | .syncTemporary =>
      disk.temporary.map fun file => { disk with temporary := some { file with synced := true } }
  | .renameTemporary =>
      disk.temporary.map fun file => { disk with canonical := some file, temporary := none }
  | .syncDirectory => some { disk with durable := disk.canonical }

/-- `create_dir`, which may find the directory made by another process. -/
def createRoot (disk : Disk γ) (isPrivate : Bool) : Disk γ :=
  if disk.root = .missing then
    { disk with root := if isPrivate then .controlled else .exposed }
  else disk

/-- The kernel writes back what the directory holds. -/
def writeBack (disk : Disk γ) : Disk γ :=
  { disk with durableRoot := disk.root, durable := disk.canonical }

def bare (root : RootEntry) : Disk γ := ⟨root, none, none, root, none⟩

/-- What is found when the power is back. -/
def powerLoss (disk : Disk γ) (lost : γ) (leftover : Option γ) : Disk γ :=
  if disk.durableRoot = .missing then bare .missing
  else
    { disk with
      root := disk.durableRoot
      canonical := disk.durable.map (·.settle lost)
      temporary := leftover.map fun contents => ⟨contents, true⟩
      durable := disk.durable.map (·.settle lost) }

/-- `prepare_root` up to its list of files, and whether the temporary file is on it. The
directory and its permissions are looked at in one step, since neither is taken back. -/
def prepareRoot (disk : Disk γ) : Except StoreError Bool :=
  match disk.root with
  | .missing => .error .missing
  | .exposed => .error .notPrivate
  | .controlled => .ok disk.temporary.isSome

/-- Under the lock nothing on the list goes away. -/
def readUnlocked (disk : Disk γ) : Except StoreError Identity :=
  match disk.prepareRoot with
  | .error error => .error error
  | .ok _ =>
      match disk.canonical with
      | none => .error .missing
      | some file => Identity.accept platform file.contents

end Disk

/-! ## The operations -/

/-- An operation with what its caller brings to it: a new private key; a peer state; the
key to unpair, and whether the sessions of the peer could be joined. -/
inductive Operation
  | init (localPrivateKey : Vector UInt8 32)
  | read
  | setPeer (peer : PeerState Text Text)
  | unpair (remote : Text) (joined : Bool)
  deriving DecidableEq

/-- A peer is looked at before anything else. -/
def Operation.valid : Operation → Bool
  | setPeer peer => validatePeer peer
  | _ => true

inductive Answer
  | initialized (localPublicKey : Text)
  | read (identity : Identity)
  | done
  deriving DecidableEq

/-- The steps an operation takes once it has read the canonical file, each with
the error it ends in if the step fails, and its answer if none does. -/
structure Plan (γ : Type*) where
  steps : List (FsStep γ × StoreError)
  answer : Except StoreError Answer

section Plans

variable {γ : Type*} (platform : Platform γ)

/-- `publish_locked`, with the errors of a failure before and after the rename. -/
def publishLocked (identity : Identity) (before after : StoreError) :
    List (FsStep γ × StoreError) :=
  [(.removeTemporary, before), (.createTemporary, before),
    (.writeTemporary (identity.encode platform), before), (.syncTemporary, before),
    (.renameTemporary, before), (.syncDirectory, after)]

/-- A read removes a leftover temporary file. -/
def removeLeftover (disk : Disk γ) : List (FsStep γ × StoreError) :=
  if disk.temporary.isSome then [(.removeTemporary, .io), (.syncDirectory, .io)] else []

/-- The record of a new key pair. -/
def Identity.fresh (localPrivateKey : Vector UInt8 32) : Identity where
  schemaMajor := 1
  localPrivateKey := hex localPrivateKey.toList
  localPublicKey := hex (platform.publicKey localPrivateKey.toList)
  generation := 0
  peer := .unpaired

/-- The caller has seen whether there is a canonical file. -/
def initPlan (disk : Disk γ) (localPrivateKey : Vector UInt8 32) (present : Bool) : Plan γ :=
  if present then
    match disk.readUnlocked platform with
    | .error error => ⟨[], .error error⟩
    | .ok _ => ⟨removeLeftover disk, .error .alreadyInitialized⟩
  else
    match disk.canonical with
    | some _ =>
        match disk.readUnlocked platform with
        | .error error => ⟨[], .error error⟩
        | .ok _ => ⟨[], .error .alreadyInitialized⟩
    | none =>
        let identity := Identity.fresh platform localPrivateKey
        ⟨publishLocked platform identity .io .io, .ok (.initialized identity.localPublicKey)⟩

def readPlan (disk : Disk γ) : Plan γ :=
  match disk.readUnlocked platform with
  | .error error => ⟨[], .error error⟩
  | .ok identity => ⟨removeLeftover disk, .ok (.read identity)⟩

def setPeerPlan (disk : Disk γ) (peer : PeerState Text Text) : Plan γ :=
  match disk.readUnlocked platform with
  | .error error => ⟨[], .error error⟩
  | .ok identity =>
      if identity.peer.validTransition peer then
        ⟨publishLocked platform { identity with peer := peer } .io .io, .ok .done⟩
      else ⟨[], .error .invalid⟩

/-- The second publication of an unpair, and the only one of a repeated unpair. -/
def finishUnpair (identity : Identity) : Plan γ :=
  ⟨publishLocked platform { identity with peer := .unpaired } .revokedRecoveryRequired
    .revokedRecoveryRequired, .ok .done⟩

/-- The first publication of an unpair. The second follows only when the sessions
of the peer were joined. -/
def revokePeer (identity : Identity) (remote transaction : Text) (joined : Bool) : Plan γ :=
  match Checked.add Checked.u64Max identity.generation 1 with
  | none => ⟨[], .error .generationExhausted⟩
  | some generation =>
      let revoked :=
        { identity with generation := generation, peer := .revoking remote transaction }
      let publication := publishLocked platform revoked .io .revokedRecoveryRequired
      if joined then
        ⟨publication ++ (finishUnpair platform revoked).steps,
          (finishUnpair platform revoked).answer⟩
      else ⟨publication, .error .revokedRecoveryRequired⟩

def unpairPlan (disk : Disk γ) (remote : Text) (joined : Bool) : Plan γ :=
  match disk.readUnlocked platform with
  | .error error => ⟨[], .error error⟩
  | .ok identity =>
      match identity.peer with
      | .unpaired => ⟨[], .error .peerMismatch⟩
      | .revoking key _ =>
          if key = remote then finishUnpair platform identity else ⟨[], .error .peerMismatch⟩
      | .pending key transaction | .committing key transaction | .paired key transaction =>
          if key = remote then revokePeer platform identity remote transaction joined
          else ⟨[], .error .peerMismatch⟩

def plan (disk : Disk γ) (present : Bool) : Operation → Plan γ
  | .init localPrivateKey => initPlan platform disk localPrivateKey present
  | .read => readPlan platform disk
  | .setPeer peer => setPeerPlan platform disk peer
  | .unpair remote joined => unpairPlan platform disk remote joined

/-- The answer of steps that nothing interrupts. -/
def outcome (disk : Disk γ) (answer : Except StoreError Answer) :
    List (FsStep γ × StoreError) → Except StoreError Answer
  | [] => answer
  | (step, error) :: rest =>
      match disk.apply platform step with
      | none => .error error
      | some next => outcome next answer rest

/-- The answer of an operation that nothing interrupts. -/
def carryOut (disk : Disk γ) (present : Bool) (operation : Operation) :
    Except StoreError Answer :=
  outcome platform disk (plan platform disk present operation).answer
    (plan platform disk present operation).steps

end Plans

/-! ## The store over time -/

/-- What has become of the temporary file on the list of `prepare_root`. -/
inductive Listed
  | nothing
  | temporary
  /-- The operation that was writing it has renamed it into place. -/
  | renamed
  deriving DecidableEq

/-- Where a caller without the lock is: in `prepare_root`, from `creating` to `syncing` in
`create_private_tree`, at the look of an initialization for the canonical file, or at
the lock. -/
inductive Stage
  | preparing
  | creating
  | protecting
  | syncing
  | looking (listed : Listed)
  | locating
  | locking
  deriving DecidableEq

structure Caller where
  operation : Operation
  /-- What an initialization has seen of the canonical file. -/
  present : Option Bool
  stage : Stage
  deriving DecidableEq

namespace Caller

/-- What follows a directory found in order. -/
def looked (self : Caller) : Stage :=
  match self.operation, self.present with
  | .init _, none => .locating
  | _, _ => .locking

/-- The temporary file has been renamed. -/
def renamed (self : Caller) : Caller :=
  { self with stage := if self.stage = .looking .temporary then .looking .renamed else self.stage }

/-- The next look or change of a caller, or none where it answers with an error. A name
on the list that is gone is one. -/
def prepare {γ : Type*} (self : Caller) (disk : Disk γ) (isPrivate : Bool) :
    Disk γ × Option Caller :=
  match self.stage with
  | .preparing =>
      match disk.prepareRoot, self.operation with
      | .ok listed, _ =>
          (disk, some { self with stage := .looking (if listed then .temporary else .nothing) })
      | .error .missing, .init _ => (disk, some { self with stage := .creating })
      | .error _, _ => (disk, none)
  | .creating => (disk.createRoot isPrivate, some { self with stage := .protecting })
  | .protecting => ({ disk with root := .controlled }, some { self with stage := .syncing })
  | .syncing => ({ disk with durableRoot := disk.root }, some { self with stage := .preparing })
  | .looking listed =>
      (disk, if listed ≠ .nothing ∧ disk.temporary.isNone then none
        else some { self with stage := self.looked })
  | .locating =>
      (disk, some { self with present := some disk.canonical.isSome, stage := .preparing })
  | .locking => (disk, some self)

end Caller

/-- The operation that holds the lock. -/
structure Running (γ : Type*) where
  operation : Operation
  steps : List (FsStep γ × StoreError)
  answer : Except StoreError Answer

/-- Contents the canonical file was given, and the operation that did it. -/
structure Publication (γ : Type*) where
  operation : Operation
  contents : γ

/-- The disk, the callers and the operation in progress, with what happened so far:
whether an initialization has succeeded, the publications, oldest first, how many of
them are durable, and how many another operation has had before it under the lock. -/
structure IdentityStore (γ : Type*) where
  disk : Disk γ
  callers : List Caller
  running : Option (Running γ)
  initialized : Bool
  publications : List (Publication γ)
  synced : ℕ
  seen : ℕ

/-- Callers are named by their place on the list. -/
inductive StoreLabel (γ : Type*)
  | call (operation : Operation)
  | prepare (index : ℕ) (isPrivate : Bool)
  /-- A caller is killed, a call of it fails, or its time at the lock is over. -/
  | leave (index : ℕ)
  | lock (index : ℕ)
  | advance
  /-- The operation in progress is killed, or a step of it fails. -/
  | stop
  | writeBack
  | powerLoss (lost : γ) (leftover : Option γ)

namespace IdentityStore

variable {γ : Type*} (platform : Platform γ)

def virgin (root : RootEntry) : IdentityStore γ where
  disk := .bare root
  callers := []
  running := none
  initialized := false
  publications := []
  synced := 0
  seen := 0

/-- A caller goes on or answers. -/
def setCaller (self : IdentityStore γ) (index : ℕ) (turn : Disk γ × Option Caller) :
    IdentityStore γ :=
  { self with
    disk := turn.1
    callers := turn.2.elim (self.callers.eraseIdx index) (self.callers.set index) }

/-- A caller gets the lock and reads. -/
def start (self : IdentityStore γ) (index : ℕ) (caller : Caller) : IdentityStore γ :=
  let decided := plan platform self.disk (caller.present.getD false) caller.operation
  { self with
    callers := self.callers.eraseIdx index
    running := some ⟨caller.operation, decided.steps, decided.answer⟩
    seen := self.publications.length }

/-- The operation answers and releases the lock. -/
def finish (self : IdentityStore γ) (answer : Except StoreError Answer) : IdentityStore γ :=
  { self with
    running := none
    initialized := self.initialized ||
      match answer with
      | .ok (.initialized _) => true
      | _ => false }

/-- The record of what a step that succeeded has published. -/
def recordStep (self : IdentityStore γ) (operation : Operation) (next : Disk γ) :
    FsStep γ → IdentityStore γ
  | .renameTemporary =>
      { self with
        disk := next
        callers := self.callers.map Caller.renamed
        publications := self.publications ++
          (next.canonical.map fun file => (⟨operation, file.contents⟩ : Publication γ)).toList }
  | .syncDirectory => { self with disk := next, synced := self.publications.length }
  | _ => { self with disk := next }

/-- The operation in progress takes its next file-system step or answers. -/
def advance (self : IdentityStore γ) (running : Running γ) : IdentityStore γ :=
  match running.steps with
  | [] => self.finish running.answer
  | (step, error) :: rest =>
      match self.disk.apply platform step with
      | none => self.finish (.error error)
      | some next =>
          { self.recordStep running.operation next step with
            running := some { running with steps := rest } }

/-- Everything stops and comes back with what the disk has. -/
def powerLoss (self : IdentityStore γ) (lost : γ) (leftover : Option γ) : IdentityStore γ :=
  let kept := if self.disk.durableRoot = .missing then 0 else self.synced
  { self with
    disk := self.disk.powerLoss lost leftover
    callers := []
    running := none
    publications := self.publications.take kept
    synced := kept
    seen := min self.seen kept }

def storeStep (self : IdentityStore γ) : StoreLabel γ → Option (IdentityStore γ)
  | .call operation =>
      if operation.valid then
        some { self with callers := self.callers ++ [⟨operation, none, .preparing⟩] }
      else none
  | .prepare index isPrivate =>
      self.callers[index]?.map fun caller =>
        self.setCaller index (caller.prepare self.disk isPrivate)
  | .leave index => some { self with callers := self.callers.eraseIdx index }
  | .lock index =>
      match self.running, self.callers[index]? with
      | none, some caller =>
          if caller.stage = .locking then some (self.start platform index caller) else none
      | _, _ => none
  | .advance => self.running.map (self.advance platform)
  | .stop => some { self with running := none }
  | .writeBack =>
      some { self with disk := self.disk.writeBack, synced := self.publications.length }
  | .powerLoss lost leftover => some (self.powerLoss lost leftover)

/-- The store with its callers, file-system steps and losses, from a directory that is
missing or empty. -/
def machine : StepSystem (IdentityStore γ) (StoreLabel γ) where
  Initial self := ∃ root, self = virgin root
  step := storeStep platform

/-- The publications that are durable, or that another operation has had before it. -/
def counted (self : IdentityStore γ) : List (Publication γ) :=
  self.publications.take (max self.seen self.synced)

end IdentityStore

end Deskkin
