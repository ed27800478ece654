/-
# The profile store

A directory holds one file for each profile and leftover temporary files. An operation
takes the lock of the store, makes the directory if there is none, and does its work; a
profile is set by writing a temporary file, syncing it, renaming it and syncing the
directory. Any call to the file system can fail, and the process can die after any of its
updates.

The directory itself lasts once it is made. What stands at the path of a profile is a file
or nothing: nobody but the store puts anything there.
-/

import Deskkin.Lib.Durable
import Deskkin.Lib.Unsynced
import Deskkin.Profiles.Profile
import Mathlib.Data.Char
import Mathlib.Data.List.Lex
import Mathlib.Data.List.Sort

namespace Deskkin.Profiles

/-! ## The file system -/

/-- A file: what it holds, whether it is a regular file that is the owner's alone, and
whether its data are on the disk. -/
structure File where
  contents : List UInt8
  isPrivate : Bool
  synced : Bool
  deriving DecidableEq

abbrev Directory : Type := Finmap fun _ : Text => File

/-- What a loss of power makes of a file. -/
def File.Settles (file later : File) : Prop :=
  later.isPrivate = file.isPrivate ∧ later.contents.length ≤ file.contents.length ∧
    (file.synced = true → later = file)

/-- The directory of the profiles: whether it is there, whether it is the owner's alone,
and what is in it. -/
structure Disk where
  made : Bool
  isPrivate : Bool
  files : UnsyncedDirectory Text File

namespace Disk

def new : Disk := ⟨false, false, UnsyncedDirectory.empty⟩

/-- The directory is there and is the owner's alone. -/
def Ready (disk : Disk) : Prop := disk.made = true ∧ disk.isPrivate = true

/-- The directory is there and others have access to it. -/
def Exposed (disk : Disk) : Prop := disk.made = true ∧ disk.isPrivate = false

def lookup (disk : Disk) (file : Text) : Option File := disk.files.current.lookup file

def change (disk : Disk) (f : Directory → Directory) : Disk :=
  { disk with files := disk.files.change f }

end Disk

/-- What is found when the owner of a profile is looked for. -/
inductive OwnerSearch
  | noControl
  | unreadable
  | none
  | live
  | unknown
  deriving DecidableEq

/-- What the system does: which calls of an operation fail, whether the state root is
unsafe, whether a new directory is the owner's alone, in which order a directory is listed,
and what is found at a role root. -/
structure Environment where
  fails : ℕ → Bool
  rootUnsafe : Bool
  privateDirectories : Bool
  listing : Directory → List Text
  linked : ℕ → Text → Bool
  owner : ℕ → Text → OwnerSearch
  nodup_listing : ∀ directory, (listing directory).Nodup
  mem_listing : ∀ directory file, file ∈ listing directory ↔ file ∈ directory

/-- An operation at work: the disk, and how many calls it has made. -/
structure Session where
  disk : Disk
  calls : ℕ

abbrev Io (α : Type) : Type := Durable Unit Session ProfileError α

section Calls

variable (env : Environment)

/-- A call that changes nothing. -/
def inspect {α : Type} (f : Disk → Except ProfileError α) : Io α where
  run session :=
    ⟨if env.fails session.calls then .error .io else f session.disk,
      { session with calls := session.calls + 1 }, []⟩

def check : Io Unit := inspect env fun _ => .ok ()

/-- A call that changes the directory, or finds that it cannot. -/
def change (f : Disk → Except ProfileError Disk) : Io Unit where
  run session :=
    match (if env.fails session.calls then .error .io else f session.disk) with
    | .error error => ⟨.error error, { session with calls := session.calls + 1 }, []⟩
    | .ok disk => ⟨.ok (), ⟨disk, session.calls + 1⟩, [((), ⟨disk, session.calls + 1⟩)]⟩

/-- A result that does not depend on the file system. -/
def ofExcept {α : Type} (result : Except ProfileError α) : Io α := Durable.read fun _ => result

/-- `Path::exists`, which takes a failure for an answer. -/
def pathExists : Io Bool where
  run session :=
    ⟨.ok (!env.fails session.calls && session.disk.made),
      { session with calls := session.calls + 1 }, []⟩

/-- The state root, the directory of the lock and the lock. -/
def lock : Io Unit := inspect env fun _ => if env.rootUnsafe then .error .storeUnsafe else .ok ()

def createDirectory : Io Unit :=
  change env fun disk =>
    .ok (if disk.made then disk
      else { disk with made := true, isPrivate := env.privateDirectories })

def setPermissions : Io Unit := change env fun disk => .ok { disk with isPrivate := true }

def makeProfiles : Io Unit := do
  createDirectory env
  setPermissions env

/-- `prepare_private_directory` for the directory of the profiles. -/
def prepareProfiles : Io Unit := do
  check env
  let there ← pathExists env
  if there then pure () else makeProfiles env
  inspect env fun disk => if disk.isPrivate then .ok () else .error .storeUnsafe

def syncDirectory : Io Unit := change env fun disk => .ok { disk with files := disk.files.sync }

/-- The names of the directory. -/
def readDir : Io (List Text) := inspect env fun disk => .ok (env.listing disk.files.current)

def File.isSafe (file : File) : Bool :=
  file.isPrivate && decide (file.contents.length ≤ profileBytesMax)

/-- `validate_profile_file`, with what a missing file is answered with. -/
def validateProfileFile (missing : ProfileError) (file : Text) : Io Unit :=
  inspect env fun disk =>
    match disk.lookup file with
    | none => .error missing
    | some found => if found.isSafe then .ok () else .error .storeUnsafe

def readFile (file : Text) : Io (List UInt8) :=
  inspect env fun disk =>
    match disk.lookup file with
    | none => .error .io
    | some found => .ok found.contents

def removeFile (file : Text) : Io Unit :=
  change env fun disk =>
    match disk.lookup file with
    | none => .error .io
    | some _ => .ok (disk.change (·.erase file))

def rejectExistingPath (file : Text) : Io Unit :=
  inspect env fun disk => if (disk.lookup file).isSome then .error .storeUnsafe else .ok ()

def createNew (file : Text) : Io Unit :=
  change env fun disk =>
    match disk.lookup file with
    | none => .ok (disk.change (·.insert file ⟨[], true, false⟩))
    | some _ => .error .io

/-- One more byte of a file. A write of many bytes may end after any of them. -/
def writeByte (file : Text) (byte : UInt8) : Io Unit :=
  change env fun disk =>
    match disk.lookup file with
    | none => .error .io
    | some found =>
        .ok (disk.change (·.insert file
          { found with contents := found.contents ++ [byte], synced := false }))

def syncFile (file : Text) : Io Unit :=
  change env fun disk =>
    match disk.lookup file with
    | none => .error .io
    | some found => .ok (disk.change (·.insert file { found with synced := true }))

def rename (source target : Text) : Io Unit :=
  change env fun disk =>
    match disk.lookup source with
    | none => .error .io
    | some found => .ok (disk.change fun directory => (directory.erase source).insert target found)

/-- A failure, after the temporary file was removed as far as possible. -/
def giveUp (temporary : Text) : Io Unit := do
  Durable.catching (removeFile env temporary) fun _ => return ()
  Durable.fail .io

end Calls

/-! ## Reading the store -/

section Operations

variable (env : Environment) (codec : ProfileCodec)

def cleanupEntry (file : Text) : Io Unit := do
  check env
  match file.dropPrefix? ".tmp-".toList with
  | none => return ()
  | some name =>
      ofExcept (validateProfileName name)
      validateProfileFile env .io file
      removeFile env file

def cleanupTemporary : Io Unit := do
  let entries ← readDir env
  entries.forM (cleanupEntry env)
  syncDirectory env

/-- `profile_path` checks the name. -/
def loadLocked (name : Text) : Io PhysicalProfile := do
  prepareProfiles env
  ofExcept (validateProfileName name)
  validateProfileFile env .notFound (profileFile name)
  let bytes ← readFile env (profileFile name)
  match codec.decode bytes with
  | none => Durable.fail .schemaInvalid
  | some profile =>
      ofExcept profile.validate
      return profile

def listEntry (file : Text) : Io Text := do
  check env
  match file.dropSuffix? ".json".toList with
  | none => Durable.fail .storeUnsafe
  | some name =>
      ofExcept (validateProfileName name)
      validateProfileFile env .io file
      let _ ← loadLocked env codec name
      return name

def listLocked : Io (List Text) := do
  prepareProfiles env
  cleanupTemporary env
  let entries ← readDir env
  let names ← entries.mapM (listEntry env codec)
  if names.length > profileLimit then Durable.fail .limitExceeded
  else return names.insertionSort (· ≤ ·)

def list : Io (List Text) := do
  lock env
  listLocked env codec

/-- `show`. -/
def showProfile (name : Text) : Io (List UInt8) := do
  lock env
  let profile ← loadLocked env codec name
  return codec.encode profile

/-- What `status`, `stop` and `run` do to the store. -/
def loadForOperation (name : Text) : Io PhysicalProfile := do
  lock env
  loadLocked env codec name

/-! ## Changing the store -/

/-- `resolve_role_root` and the search for an owner. -/
def refuseLiveOwner (profile : PhysicalProfile) : Io Unit := do
  ofExcept (validateRoleRoot profile.roleRoot)
  check env
  let calls ← Durable.reads Session.calls
  if env.linked calls profile.roleRoot then Durable.fail .storeUnsafe
  else
    match env.owner calls profile.roleRoot with
    | .noControl | .none => return ()
    | .live => Durable.fail .ownerBusy
    | .unreadable | .unknown => Durable.fail .ownerUnknown

def loadExisting (name : Text) : Io (Option PhysicalProfile) :=
  Durable.catching
    (do
      let profile ← loadLocked env codec name
      return some profile)
    fun error => if error = .notFound then return none else Durable.fail error

/-- A new profile must leave the store within its limit, and an old one must not be in use. -/
def admitExisting : Option PhysicalProfile → Io Unit
  | none => do
      let names ← listLocked env codec
      if names.length ≥ profileLimit then Durable.fail .limitExceeded else return ()
  | some existing => refuseLiveOwner env existing

/-- Everything that is checked before a profile is written. -/
def admitProfile (name : Text) (profile : PhysicalProfile) : Io Unit := do
  ofExcept (validateProfileName name)
  ofExcept profile.validate
  lock env
  prepareProfiles env
  cleanupTemporary env
  let existing ← loadExisting env codec name
  admitExisting env codec existing
  refuseLiveOwner env profile
  if (codec.encode profile).length > profileBytesMax then Durable.fail .schemaInvalid
  else return ()

/-- The temporary file is written and synced. -/
def writeTemporary (temporary : Text) (bytes : List UInt8) : Io Unit := do
  rejectExistingPath env temporary
  createNew env temporary
  Durable.catching
    (do
      bytes.forM (writeByte env temporary)
      syncFile env temporary)
    fun _ => giveUp env temporary

def publishTemporary (temporary destination : Text) : Io Unit :=
  Durable.catching (rename env temporary destination) fun _ => giveUp env temporary

/-- The profile is published. It is read back to see that it is. -/
def confirmPublication (name : Text) (profile : PhysicalProfile) : Io Unit :=
  Durable.catching
    (do
      syncDirectory env
      let stored ← loadLocked env codec name
      if stored = profile then return () else Durable.fail .publicationUnknown)
    fun _ => Durable.fail .publicationUnknown

def set (name : Text) (profile : PhysicalProfile) : Io Unit := do
  admitProfile env codec name profile
  writeTemporary env (temporaryFile name) (codec.encode profile)
  ofExcept (validateProfileName name)
  publishTemporary env (temporaryFile name) (profileFile name)
  confirmPublication env codec name profile

def delete (name : Text) : Io Unit := do
  lock env
  let profile ← loadLocked env codec name
  refuseLiveOwner env profile
  prepareProfiles env
  ofExcept (validateProfileName name)
  validateProfileFile env .io (profileFile name)
  removeFile env (profileFile name)
  Durable.catching (syncDirectory env) fun _ => Durable.fail .publicationUnknown

end Operations

/-! ## Histories of a store -/

/-- A loss of power. -/
structure Disk.Lost (disk later : Disk) : Prop where
  made : later.made = disk.made
  isPrivate : later.isPrivate = disk.isPrivate
  files : UnsyncedDirectory.Lost File.Settles disk.files later.files

inductive Operation
  | list
  | showProfile (name : Text)
  | set (name : Text) (profile : PhysicalProfile)
  | delete (name : Text)
  | loadForOperation (name : Text)
  deriving DecidableEq

def Operation.perform (env : Environment) (codec : ProfileCodec) : Operation → Io Unit
  | .list => do
      let _ ← Profiles.list env codec
      return ()
  | .showProfile name => do
      let _ ← Profiles.showProfile env codec name
      return ()
  | .set name profile => Profiles.set env codec name profile
  | .delete name => Profiles.delete env codec name
  | .loadForOperation name => do
      let _ ← Profiles.loadForOperation env codec name
      return ()

/-- What operations make of a disk that was empty. Each of them ends, or its process dies
after one of its updates, and power may be lost between them. -/
inductive Reachable (codec : ProfileCodec) : Disk → Prop
  | new : Reachable codec Disk.new
  | performed {disk : Disk} {session : Session} (reachable : Reachable codec disk)
      (env : Environment) (operation : Operation) (lost : Option ℕ)
      (left : (operation.perform env codec).upTo ⟨disk, 0⟩ lost = some session) :
      Reachable codec session.disk
  | powerLost {disk later : Disk} (reachable : Reachable codec disk) (lost : disk.Lost later) :
      Reachable codec later

end Deskkin.Profiles
