/-
# The profile store and the hosts it launches

Every call of the profile store takes the operation lock of the store for its whole
length. A call that changes a profile asks the control root of the profile for a
live owner first, and the control root of the new profile too. A call of `run` hands
the operation lock to the host it launches. The owner thread of the host takes the
lock of the control root and serves; the host keeps the operation lock until its
owner is ready and its listener is bound, or until it has given up.

The calls are made by any number of processes. Other processes come to the same
control roots, as owners of their own, as discoverers or for the lock alone, and
some of them take the operation lock for a time. A process may die at any step, and
takes its threads with it. The role roots of two profiles are one control root if
their texts are equal.
-/

import Deskkin.Owner.ControlRoot

namespace Deskkin.OwnerControl

open ExclusiveLock

/-! ## Profiles -/

inductive BindMode
  | loopback
  | privateLan
  deriving DecidableEq

/-- The mode and the text of the address. -/
structure BindProfile where
  mode : BindMode
  address : String
  deriving DecidableEq

inductive ProfileAvailability
  | available
  | unavailable
  | readFailed
  deriving DecidableEq

inductive ProfileRecording
  | on
  | off
  deriving DecidableEq

structure PhysicalProfile where
  schemaVersion : UInt8
  roleRoot : String
  bind : BindProfile
  availability : ProfileAvailability
  recording : ProfileRecording
  deriving DecidableEq

structure OwnerLaunchMetadata where
  profileName : String
  roleRoot : String
  bindMode : String
  bindAddress : String
  availability : String
  recording : String
  deriving DecidableEq

def PhysicalProfile.launchMetadata (self : PhysicalProfile) (name : String) :
    OwnerLaunchMetadata where
  profileName := name
  roleRoot := self.roleRoot
  bindMode :=
    match self.bind.mode with
    | .loopback => "loopback"
    | .privateLan => "private_lan"
  bindAddress := self.bind.address
  availability :=
    match self.availability with
    | .available => "available"
    | .unavailable => "unavailable"
    | .readFailed => "read_failed"
  recording :=
    match self.recording with
    | .on => "on"
    | .off => "off"

/-- What stands at the path of a profile. -/
inductive ProfileFile
  | missing
  /-- The file is unsafe, or no profile of this schema. -/
  | unusable
  | stored (profile : PhysicalProfile)
  deriving DecidableEq

/-! ## Calls -/

/-- A call that changes the profile of a name. -/
inductive ProfileEdit
  | set (name : String) (profile : PhysicalProfile)
  | delete (name : String)
  deriving DecidableEq

def ProfileEdit.name : ProfileEdit → String
  | set name _ | delete name => name

/-- What the edit leaves at the path of the profile. -/
def ProfileEdit.file : ProfileEdit → ProfileFile
  | set _ profile => .stored profile
  | delete _ => .missing

inductive StoreCall
  | edit (edit : ProfileEdit)
  | stop (name : String)
  | run (name : String)
  deriving DecidableEq

def StoreCall.name : StoreCall → String
  | edit change => change.name
  | stop name | run name => name

/-- Where the main thread of a host is. It has the operation lock up to `listening`. -/
inductive HostStage
  /-- It waits two seconds for the owner. -/
  | awaitingReady
  /-- It has cancelled the startup and joins the owner. -/
  | cancelled
  /-- The owner is joined, and `run` returns. -/
  | unlocking
  | listening
  | accepting
  /-- `host_accept_loop` has failed, and the owner is cancelled and joined. -/
  | failed
  /-- `host_accept_loop` has ended, and the owner is joined. -/
  | ended
  | returned
  deriving DecidableEq

namespace HostStage

/-- The owner may not have the lock of the control root yet. -/
def starting : HostStage → Bool
  | awaitingReady | cancelled => true
  | _ => false

def holds : HostStage → Bool
  | awaitingReady | cancelled | unlocking | listening => true
  | _ => false

/-- The owner is told to end. -/
def cancels : HostStage → Bool
  | cancelled | failed => true
  | _ => false

end HostStage

/-- Where a process is in its call. -/
inductive StorePhase
  | absent
  /-- The operation lock is held for something else: `list`, `show`, `status`, or the
  start of an owner that is none of the store's. -/
  | guarding
  | locking (call : StoreCall)
  | loading (call : StoreCall)
  /-- The next profiles whose owners are looked for. -/
  | refusing (edit : ProfileEdit) (existing : Option PhysicalProfile)
      (left : List PhysicalProfile)
  | discovering (edit : ProfileEdit) (existing : Option PhysicalProfile)
      (profile : PhysicalProfile) (left : List PhysicalProfile) (discovery : ℕ)
  | editing (edit : ProfileEdit) (existing : Option PhysicalProfile)
  /-- A call of `stop` finds the owner, asks it to shut down and waits for its end. -/
  | finding (name : String) (profile : PhysicalProfile)
  | seeking (name : String) (profile : PhysicalProfile) (discovery : ℕ)
  | stopping (profile : PhysicalProfile) (owner : ℕ)
  | awaitingEnd (profile : PhysicalProfile)
  | resolving (name : String) (profile : PhysicalProfile)
  | hosting (stage : HostStage) (root : String) (owner : ℕ)
  | unlocking
  | returned
  | died
  deriving DecidableEq

/-- The operation lock is held. -/
def StorePhase.holds : StorePhase → Bool
  | absent | locking _ | returned | died => false
  | hosting stage _ _ => stage.holds
  | _ => true

/-- What the owner thread of a host was given, and whether it has reported that it is
ready. -/
structure Launch where
  process : ℕ
  name : String
  metadata : OwnerLaunchMetadata
  ready : Bool
  deriving DecidableEq

/-! ## The store with everyone at it -/

inductive StoreMove
  | call (call : StoreCall)
  | guard
  | proceed
  /-- The call at hand fails, or the time is over. -/
  | fail
  | discover (discovery : ℕ)
  | launch (owner : ℕ)
  deriving DecidableEq

inductive StoreLabel
  | process (id : ℕ) (move : StoreMove)
  | control (root : String) (label : ControlLabel)
  | dies (id : ℕ)
  deriving DecidableEq

/-- The control roots by role root, the profiles by name, the holder of the operation
lock, the processes, the owners that were launched by `run`, and the discoveries that
a process of the store waits for. -/
structure ProfileStore where
  controls : String → ControlRoot
  profiles : String → ProfileFile
  operation : Option ℕ
  processes : ℕ → StorePhase
  launches : String → ℕ → Option Launch
  awaited : String → ℕ → Bool

namespace ProfileStore

/-- A process goes on, and keeps, takes or drops the operation lock. -/
def setProcess (self : ProfileStore) (id : ℕ) (use : LockUse) (phase : StorePhase) :
    ProfileStore :=
  { self with
    operation := use.apply id self.operation
    processes := Function.update self.processes id phase }

def setControl (self : ProfileStore) (root : String) (control : ControlRoot) : ProfileStore :=
  { self with controls := Function.update self.controls root control }

/-- `discover_owner_info` is called. -/
def discover (self : ProfileStore) (root : String) (discovery : ℕ) : Option ProfileStore :=
  if (self.controls root).discoveries discovery = .absent then
    ((self.controls root).step (.discoverer discovery .proceed)).map fun control =>
      { self.setControl root control with
        awaited := Function.update self.awaited root
          (Function.update (self.awaited root) discovery true) }
  else none

def setLaunch (self : ProfileStore) (root : String) (owner : ℕ) (launch : Launch) :
    ProfileStore :=
  { self with
    launches := Function.update self.launches root
      (Function.update (self.launches root) owner (some launch)) }

/-- The owner thread is spawned. -/
def launch (self : ProfileStore) (id : ℕ) (name : String) (profile : PhysicalProfile)
    (owner : ℕ) : Option ProfileStore :=
  if (self.controls profile.roleRoot).owners owner = .absent ∧
      self.launches profile.roleRoot owner = none then
    ((self.controls profile.roleRoot).step (.owner owner .proceed)).map fun control =>
      ((self.setControl profile.roleRoot control).setLaunch profile.roleRoot owner
        ⟨id, name, profile.launchMetadata name, false⟩).setProcess id .keep
          (.hosting .awaitingReady profile.roleRoot owner)
  else none

/-- The owner thread reports that it is ready. -/
def noteReady (self : ProfileStore) (root : String) : ControlLabel → ProfileStore
  | .owner owner .proceed =>
      match (self.controls root).owners owner, self.launches root owner with
      | .announcing, some launch => self.setLaunch root owner { launch with ready := true }
      | _, _ => self
  | _ => self

/-- What can happen at a control root by itself. An owner that was launched by `run`
is cancelled by its host only, and dies with its host only. -/
def permits (self : ProfileStore) (root : String) : ControlLabel → Bool
  | .owner owner .cancel =>
      match self.launches root owner with
      | none => true
      | some launch =>
          match self.processes launch.process with
          | .hosting stage _ _ => stage.cancels
          | _ => false
  | .ownerDies owner => (self.launches root owner).isNone
  | .discovererDies discovery => !self.awaited root discovery
  | _ => true

def control (self : ProfileStore) (root : String) (label : ControlLabel) : Option ProfileStore :=
  if self.permits root label then
    ((self.controls root).step label).map fun control =>
      (self.noteReady root label).setControl root control
  else none

/-- A process dies, with the discovery or the owner thread it has. -/
def dies (self : ProfileStore) (id : ℕ) : ProfileStore :=
  let gone := self.setProcess id (if (self.processes id).holds then .drop else .keep) .died
  match self.processes id with
  | .discovering _ _ profile _ discovery | .seeking _ profile discovery =>
      gone.setControl profile.roleRoot
        ((self.controls profile.roleRoot).endDiscovery discovery)
  | .hosting _ root owner => gone.setControl root ((self.controls root).endOwner owner)
  | _ => gone

/-- The call has the lock and has read the profile of its name. -/
def loaded : StoreCall → ProfileFile → StorePhase
  | .edit (.set name profile), .missing => .refusing (.set name profile) none [profile]
  | .edit (.set name profile), .stored existing =>
      .refusing (.set name profile) (some existing) [existing, profile]
  | .edit (.delete name), .stored existing => .refusing (.delete name) (some existing) [existing]
  | .stop name, .stored profile => .finding name profile
  | .run name, .stored profile => .resolving name profile
  | _, _ => .unlocking

def process (self : ProfileStore) (id : ℕ) : StorePhase → StoreMove → Option ProfileStore
  | .absent, .call call => some (self.setProcess id .keep (.locking call))
  | .absent, .guard =>
      if self.operation = none then some (self.setProcess id .take .guarding) else none
  | .guarding, .proceed => some (self.setProcess id .drop .returned)
  | .locking call, .proceed =>
      if self.operation = none then some (self.setProcess id .take (.loading call)) else none
  | .locking _, .fail => some (self.setProcess id .keep .returned)
  | .loading call, .proceed =>
      some (self.setProcess id .keep (loaded call (self.profiles call.name)))
  | .loading _, .fail => some (self.setProcess id .keep .unlocking)
  -- refuse_live_owner
  | .refusing edit existing (profile :: left), .proceed =>
      if (self.controls profile.roleRoot).files.root = .missing then
        some (self.setProcess id .keep (.refusing edit existing left))
      else none
  | .refusing edit existing (profile :: left), .discover discovery =>
      if (self.controls profile.roleRoot).files.root = .missing then none
      else
        (self.discover profile.roleRoot discovery).map fun called =>
          called.setProcess id .keep (.discovering edit existing profile left discovery)
  | .refusing edit existing [], .proceed =>
      some (self.setProcess id .keep (.editing edit existing))
  | .refusing _ _ _, .fail => some (self.setProcess id .keep .unlocking)
  | .discovering edit existing profile left discovery, .proceed =>
      match (self.controls profile.roleRoot).discoveries discovery with
      | .returned .vacant => some (self.setProcess id .keep (.refusing edit existing left))
      | .returned _ => some (self.setProcess id .keep .unlocking)
      | _ => none
  -- the file is renamed into place or removed
  | .editing edit _, .proceed =>
      some { self.setProcess id .keep .unlocking with
        profiles := Function.update self.profiles edit.name edit.file }
  | .editing _ _, .fail => some (self.setProcess id .keep .unlocking)
  -- stop
  | .finding name profile, .discover discovery =>
      (self.discover profile.roleRoot discovery).map fun called =>
        called.setProcess id .keep (.seeking name profile discovery)
  | .finding _ _, .fail => some (self.setProcess id .keep .unlocking)
  | .seeking name profile discovery, .proceed =>
      match (self.controls profile.roleRoot).discoveries discovery with
      | .returned (.found owner) =>
          if (self.launches profile.roleRoot owner).map Launch.metadata =
              some (profile.launchMetadata name) then
            some (self.setProcess id .keep (.stopping profile owner))
          else some (self.setProcess id .keep .unlocking)
      | .returned _ => some (self.setProcess id .keep .unlocking)
      | _ => none
  | .stopping profile _, .proceed => some (self.setProcess id .keep (.awaitingEnd profile))
  | .stopping _ _, .fail => some (self.setProcess id .keep .unlocking)
  | .awaitingEnd profile, .proceed =>
      if (self.controls profile.roleRoot).files.lock = none ∧
          (self.controls profile.roleRoot).files.socket = none then
        some (self.setProcess id .keep .unlocking)
      else none
  | .awaitingEnd _, .fail => some (self.setProcess id .keep .unlocking)
  -- run
  | .resolving name profile, .launch owner => self.launch id name profile owner
  | .resolving _ _, .fail => some (self.setProcess id .keep .unlocking)
  | .hosting .awaitingReady root owner, .proceed =>
      if ((self.launches root owner).map Launch.ready) = some true then
        some (self.setProcess id .keep (.hosting .listening root owner))
      else none
  | .hosting .awaitingReady root owner, .fail =>
      some (self.setProcess id .keep (.hosting .cancelled root owner))
  | .hosting .cancelled root owner, .proceed =>
      if ((self.controls root).owners owner).isOver then
        some (self.setProcess id .keep (.hosting .unlocking root owner))
      else none
  | .hosting .unlocking root owner, .proceed =>
      some (self.setProcess id .drop (.hosting .returned root owner))
  -- the listener is bound, and the operation lock is dropped, or it is dropped with
  -- the locals of `host_accept_loop`
  | .hosting .listening root owner, .proceed =>
      some (self.setProcess id .drop (.hosting .accepting root owner))
  | .hosting .listening root owner, .fail =>
      some (self.setProcess id .drop (.hosting .failed root owner))
  | .hosting .accepting root owner, .proceed =>
      if ((self.controls root).owners owner).isOver then
        some (self.setProcess id .keep (.hosting .ended root owner))
      else none
  | .hosting .accepting root owner, .fail =>
      some (self.setProcess id .keep (.hosting .failed root owner))
  | .hosting .failed root owner, .proceed | .hosting .ended root owner, .proceed =>
      if ((self.controls root).owners owner).isOver then
        some (self.setProcess id .keep (.hosting .returned root owner))
      else none
  | .unlocking, .proceed => some (self.setProcess id .drop .returned)
  | _, _ => none

def step (self : ProfileStore) : StoreLabel → Option ProfileStore
  | .process id move => self.process id (self.processes id) move
  | .control root label => self.control root label
  | .dies id => some (self.dies id)

/-- Nobody has begun. There may be any profiles, and anything that owners of before
have left in the control roots. -/
structure Untouched (store : ProfileStore) : Prop where
  free : store.operation = none
  controls : ∀ root, (store.controls root).Untouched
  processes : ∀ id, store.processes id = .absent
  launches : ∀ root owner, store.launches root owner = none

def machine : StepSystem ProfileStore StoreLabel where
  Initial := Untouched
  step := step

end ProfileStore

end Deskkin.OwnerControl
