/-
# The control root of an owner

An owner serves its commands on a socket in its control root for as long as it
holds the lock file there. Taking the lock, clearing away the socket file of an
owner that is gone, binding, serving and cleaning up are separate steps on the
files, and so are the looks, the calls and the probes of `discover_owner_info`.
Any number of processes take these steps on one control root in any order, and
each of them may die at any step. The lock is advisory: the kernel gives it to one
holder at a time and releases it when the holder dies.

The control root is never removed, and neither is the lock file in it.
-/

import Deskkin.Lib.ExclusiveLock
import Deskkin.Lib.Runs
import Mathlib.Data.Nat.Notation

namespace Deskkin.OwnerControl

open ExclusiveLock

/-! ## The files -/

/-- What stands at the path of the control root. -/
inductive RootEntry
  | missing
  /-- A link, no directory, or a directory that is open to others. -/
  | exposed
  | controlled
  deriving DecidableEq

/-- What stands at the path of the socket. -/
inductive SocketEntry
  | symlink
  /-- Neither a link nor a socket. -/
  | foreign
  /-- A socket with the owner that bound it, if it is one of these owners. -/
  | socket (binder : Option ℕ) (isPrivate : Bool)
  deriving DecidableEq

def SocketEntry.protect : SocketEntry → SocketEntry
  | .socket binder _ => .socket binder true
  | entry => entry

/-- Who holds the lock. A keeper takes it for a probe or for the time of a
standalone command, and touches nothing else in the control root. -/
inductive LockHolder
  | owner (id : ℕ)
  | discoverer (id : ℕ)
  | keeper (id : ℕ)
  deriving DecidableEq

structure ControlFiles where
  root : RootEntry
  socket : Option SocketEntry
  lock : Option LockHolder
  deriving DecidableEq

/-- What one step does to the files. -/
inductive FileEffect
  | look
  | createRoot (isPrivate : Bool)
  | protectRoot
  | lock
  | unlock
  | unlink
  | bind (owner : ℕ) (isPrivate : Bool)
  | protectSocket
  deriving DecidableEq

namespace FileEffect

def apply (holder : LockHolder) (files : ControlFiles) : FileEffect → ControlFiles
  | look => files
  | createRoot isPrivate =>
      if files.root = .missing then
        { files with root := if isPrivate then .controlled else .exposed }
      else files
  | protectRoot => { files with root := .controlled }
  | lock => { files with lock := some holder }
  | unlock => { files with lock := none }
  | unlink => { files with socket := none }
  | bind owner isPrivate => { files with socket := some (.socket (some owner) isPrivate) }
  | protectSocket => { files with socket := files.socket.map SocketEntry.protect }

def lockUse : FileEffect → LockUse
  | lock => .take
  | unlock => .drop
  | _ => .keep

/-- The effects on the entry of the socket. -/
def onSocket : FileEffect → Bool
  | unlink | bind _ _ | protectSocket => true
  | _ => false

end FileEffect

/-! ## Owners -/

/-- The threads an owner has started: connections that are being served, finished
ones whose handles it still has, and commands that are carried out. -/
structure OwnerThreads where
  connections : ℕ
  joinable : ℕ
  workers : ℕ
  deriving DecidableEq

namespace OwnerThreads

def none : OwnerThreads := ⟨0, 0, 0⟩

/-- No thread runs. -/
def Over (self : OwnerThreads) : Prop := self.connections = 0 ∧ self.workers = 0

instance (self : OwnerThreads) : Decidable self.Over := by
  unfold Over
  infer_instance

/-- A fifth connection is dropped. -/
def accept (self : OwnerThreads) : OwnerThreads :=
  if self.connections + self.joinable < 4 then
    { self with connections := self.connections + 1 }
  else self

/-- A connection reads one command and answers it; an accepted command has a
worker of its own. -/
def answer (self : OwnerThreads) (worker : Bool) : Option OwnerThreads :=
  if self.connections = 0 then .none
  else some ⟨self.connections - 1, self.joinable + 1, self.workers + worker.toNat⟩

def complete (self : OwnerThreads) : Option OwnerThreads :=
  if self.workers = 0 then .none else some { self with workers := self.workers - 1 }

def reap (self : OwnerThreads) : OwnerThreads := { self with joinable := 0 }

end OwnerThreads

/-- Where the call of `run_owner_control_inner` is: in `acquire_owner_lock` up to
`locking`, in `finish_owner_control` from `joining` to `removing`. -/
inductive OwnerPhase
  | absent
  | starting
  | creating
  | protecting
  | validating
  | locking
  | locked
  | inspecting
  | unlinking
  | binding
  | securing
  | announcing
  | serving (threads : OwnerThreads) (stop : Bool)
  | joining (threads : OwnerThreads)
  | closing
  | removing
  /-- The listener is dropped, the lock is not yet. -/
  | leaving (threads : OwnerThreads)
  | returned (threads : OwnerThreads)
  | died
  deriving DecidableEq

/-- What an owner's process or its surroundings do next. -/
inductive OwnerMove
  | proceed
  /-- The call at hand fails. -/
  | fail
  /-- The entry at hand is made, with the permissions the process's mask leaves. -/
  | create (isPrivate : Bool)
  | accept
  | answer (shutdown worker : Bool)
  | complete
  | reap
  /-- The startup is cancelled by the thread that waits for the owner. -/
  | cancel
  deriving DecidableEq

namespace OwnerPhase

def holds : OwnerPhase → Bool
  | locked | inspecting | unlinking | binding | securing | announcing | serving _ _ | joining _
  | closing | removing | leaving _ => true
  | _ => false

/-- The listener is bound and open. -/
def listens : OwnerPhase → Bool
  | securing | announcing | serving _ _ | joining _ | closing | removing => true
  | _ => false

/-- The call is over, and its lock and its socket are given back. -/
def isOver : OwnerPhase → Bool
  | returned _ => true
  | _ => false

def threads : OwnerPhase → OwnerThreads
  | serving threads _ | joining threads | leaving threads | returned threads => threads
  | _ => .none

/-- The owner accepts connections, or a thread of it works on a command. -/
def Serves (phase : OwnerPhase) : Prop :=
  (∃ threads stop, phase = serving threads stop) ∨ ¬phase.threads.Over

def next (files : ControlFiles) (id : ℕ) : OwnerPhase → OwnerMove → Option (FileEffect × OwnerPhase)
  | absent, .proceed => some (.look, starting)
  -- acquire_owner_lock
  | starting, .proceed =>
      some (.look, if files.root = .missing then creating else validating)
  | creating, .create isPrivate => some (.createRoot isPrivate, protecting)
  | creating, .fail => some (.look, returned .none)
  | protecting, .proceed =>
      if files.root = .missing then none else some (.protectRoot, validating)
  | protecting, .fail => some (.look, returned .none)
  | validating, .proceed =>
      some (.look, if files.root = .controlled then locking else returned .none)
  | validating, .fail => some (.look, returned .none)
  | locking, .proceed =>
      if files.root ≠ .missing ∧ files.lock = none then some (.lock, locked) else none
  -- the time is over, or the file cannot be opened
  | locking, .fail => some (.look, returned .none)
  -- run_owner_control_inner
  | locked, .proceed => some (.look, if files.socket = none then binding else inspecting)
  -- `exists` says no where it cannot look, as at the end of a dangling link
  | locked, .fail => some (.look, binding)
  | inspecting, .proceed =>
      match files.socket with
      | some (.socket _ _) => some (.look, unlinking)
      | _ => some (.look, leaving .none)
  | inspecting, .fail => some (.look, leaving .none)
  | unlinking, .proceed => if files.socket = none then none else some (.unlink, binding)
  | unlinking, .fail => some (.look, leaving .none)
  | binding, .create isPrivate =>
      if files.socket = none then some (.bind id isPrivate, securing) else none
  | binding, .fail => some (.look, leaving .none)
  | securing, .proceed => some (.protectSocket, announcing)
  | securing, .fail => some (.look, leaving .none)
  | announcing, .proceed => some (.look, serving .none false)
  | announcing, .fail => some (.look, leaving .none)
  | serving threads stop, .proceed => if stop then some (.look, joining threads) else none
  | serving threads stop, .accept => some (.look, serving threads.accept stop)
  | serving threads stop, .reap => some (.look, serving threads.reap stop)
  | serving threads _, .cancel => some (.look, serving threads true)
  -- `accept` fails, and the handles of the threads are dropped
  | serving threads _, .fail => some (.look, leaving threads)
  -- finish_owner_control
  | joining threads, .proceed => if threads.Over then some (.look, closing) else none
  -- the mutex of the control state is poisoned, and the workers are not joined
  | joining threads, .fail =>
      if threads.connections = 0 then some (.look, leaving threads) else none
  | closing, .proceed => some (.look, removing)
  | closing, .fail => some (.look, leaving .none)
  | removing, .proceed => some (.unlink, leaving .none)
  | removing, .fail => some (.look, leaving .none)
  | leaving threads, .proceed => some (.unlock, returned threads)
  -- the threads of the owner, also those that it has left behind
  | serving threads stop, .answer shutdown worker =>
      (threads.answer worker).map fun rest => (.look, serving rest (stop || shutdown))
  | joining threads, .answer _ worker =>
      (threads.answer worker).map fun rest => (.look, joining rest)
  | leaving threads, .answer _ worker =>
      (threads.answer worker).map fun rest => (.look, leaving rest)
  | returned threads, .answer _ worker =>
      (threads.answer worker).map fun rest => (.look, returned rest)
  | serving threads stop, .complete => threads.complete.map fun rest => (.look, serving rest stop)
  | joining threads, .complete => threads.complete.map fun rest => (.look, joining rest)
  | leaving threads, .complete => threads.complete.map fun rest => (.look, leaving rest)
  | returned threads, .complete => threads.complete.map fun rest => (.look, returned rest)
  | _, _ => none

end OwnerPhase

/-! ## Discoverers -/

/-- What `discover_owner_info` returns: the information of an owner, none, or an
error. -/
inductive DiscoveryResult
  | found (owner : ℕ)
  | vacant
  | failed
  deriving DecidableEq

/-- Where a call of `discover_owner_info` is. -/
inductive DiscoveryPhase
  | absent
  | started
  | findingSocket
  /-- There is no socket. -/
  | probingUnbound
  | inspecting
  /-- The entry is no socket or not private. -/
  | probingForeign
  | removingForeign
  | validating
  | calling
  | connected (owner : ℕ)
  /-- The answer is written, and may be read when its owner is gone. -/
  | answered (owner : ℕ)
  /-- The call has failed. -/
  | probingStale
  | removingStale
  | probingAlive
  | droppingProbe
  | deciding
  /-- The result is fixed, the lock is not dropped yet. -/
  | leaving (result : DiscoveryResult)
  | returned (result : DiscoveryResult)
  | died
  deriving DecidableEq

inductive DiscoveryMove
  | proceed
  /-- The call at hand fails, or the time is over. -/
  | fail
  /-- The owner answers with something else than its information. -/
  | misanswered
  deriving DecidableEq

namespace DiscoveryPhase

def holds : DiscoveryPhase → Bool
  | removingForeign | removingStale | droppingProbe | leaving _ => true
  | _ => false

/-- The call has begun and is not over. -/
def UnderWay (phase : DiscoveryPhase) : Prop :=
  phase ≠ absent ∧ phase ≠ died ∧ ∀ result, phase ≠ returned result

/-- `try_acquire_owner_lock`: it takes a free lock or finds it held, after it has
looked whether the control root is private. -/
def tryAcquireOwnerLock (files : ControlFiles) (taken busy : DiscoveryPhase) :
    FileEffect × DiscoveryPhase :=
  if files.root ≠ .controlled then (.look, returned .failed)
  else if files.lock = none then (.lock, taken)
  else (.look, busy)

def next (files : ControlFiles) (owners : ℕ → OwnerPhase) :
    DiscoveryPhase → DiscoveryMove → Option (FileEffect × DiscoveryPhase)
  | absent, .proceed => some (.look, started)
  | started, .proceed =>
      match files.root with
      | .missing => some (.look, returned .vacant)
      | .exposed => some (.look, returned .failed)
      | .controlled => some (.look, findingSocket)
  | started, .fail => some (.look, returned .failed)
  | findingSocket, .proceed =>
      some (.look, if files.socket = none then probingUnbound else inspecting)
  | findingSocket, .fail => some (.look, returned .failed)
  | probingUnbound, .proceed =>
      some (tryAcquireOwnerLock files (leaving .vacant) (returned .failed))
  | probingUnbound, .fail => some (.look, returned .failed)
  | inspecting, .proceed =>
      match files.socket with
      | none | some .symlink => some (.look, returned .failed)
      | some .foreign | some (.socket _ false) => some (.look, probingForeign)
      | some (.socket _ true) => some (.look, validating)
  | inspecting, .fail => some (.look, returned .failed)
  | probingForeign, .proceed =>
      some (tryAcquireOwnerLock files removingForeign (returned .failed))
  | probingForeign, .fail => some (.look, returned .failed)
  | removingForeign, .proceed =>
      if files.socket = none then none else some (.unlink, leaving .vacant)
  | removingForeign, .fail => some (.look, leaving .failed)
  | validating, .proceed =>
      match files.socket with
      | some (.socket _ true) => some (.look, calling)
      | _ => some (.look, returned .failed)
  | validating, .fail => some (.look, returned .failed)
  -- a connection is made where the owner that bound the file still listens
  | calling, .proceed =>
      match files.socket with
      | some (.socket (some owner) true) =>
          if (owners owner).listens then some (.look, connected owner) else none
      | _ => none
  | calling, .fail => some (.look, probingStale)
  | connected owner, .proceed =>
      if (owners owner).threads.connections = 0 then none else some (.look, answered owner)
  | connected _, .fail => some (.look, probingStale)
  | answered owner, .proceed => some (.look, returned (.found owner))
  | answered _, .misanswered => some (.look, returned .failed)
  | answered _, .fail => some (.look, probingStale)
  | probingStale, .proceed => some (tryAcquireOwnerLock files removingStale probingAlive)
  | probingStale, .fail => some (.look, returned .failed)
  -- a failure to remove the file is ignored
  | removingStale, .proceed => some (.unlink, leaving .vacant)
  | removingStale, .fail => some (.look, leaving .vacant)
  -- owner_is_alive
  | probingAlive, .proceed => some (tryAcquireOwnerLock files droppingProbe deciding)
  | probingAlive, .fail => some (.look, returned .failed)
  | droppingProbe, .proceed => some (.unlock, returned .failed)
  | deciding, .proceed => some (.look, calling)
  | deciding, .fail => some (.look, returned .failed)
  | leaving result, .proceed => some (.unlock, returned result)
  | _, _ => none

end DiscoveryPhase

/-! ## The control root with everyone at it -/

structure ControlRoot where
  files : ControlFiles
  owners : ℕ → OwnerPhase
  discoveries : ℕ → DiscoveryPhase
  keepers : ℕ → Bool

inductive ControlLabel
  | owner (id : ℕ) (move : OwnerMove)
  | discoverer (id : ℕ) (move : DiscoveryMove)
  | keeperTakes (id : ℕ)
  | keeperDrops (id : ℕ)
  /-- A process dies, and the kernel releases what it held. -/
  | ownerDies (id : ℕ)
  | discovererDies (id : ℕ)
  deriving DecidableEq

namespace ControlRoot

def setOwner (self : ControlRoot) (id : ℕ) (effect : FileEffect) (phase : OwnerPhase) :
    ControlRoot :=
  { self with
    files := effect.apply (.owner id) self.files
    owners := Function.update self.owners id phase }

def setDiscovery (self : ControlRoot) (id : ℕ) (effect : FileEffect) (phase : DiscoveryPhase) :
    ControlRoot :=
  { self with
    files := effect.apply (.discoverer id) self.files
    discoveries := Function.update self.discoveries id phase }

def setKeeper (self : ControlRoot) (id : ℕ) (effect : FileEffect) (holds : Bool) : ControlRoot :=
  { self with
    files := effect.apply (.keeper id) self.files
    keepers := Function.update self.keepers id holds }

/-- A process dies, with all the threads of its owner. -/
def endOwner (self : ControlRoot) (id : ℕ) : ControlRoot :=
  self.setOwner id (if (self.owners id).holds then .unlock else .look) .died

def endDiscovery (self : ControlRoot) (id : ℕ) : ControlRoot :=
  self.setDiscovery id (if (self.discoveries id).holds then .unlock else .look) .died

def step (self : ControlRoot) : ControlLabel → Option ControlRoot
  | .owner id move =>
      ((self.owners id).next self.files id move).map fun turn => self.setOwner id turn.1 turn.2
  | .discoverer id move =>
      ((self.discoveries id).next self.files self.owners move).map fun turn =>
        self.setDiscovery id turn.1 turn.2
  | .keeperTakes id =>
      if self.files.root = .controlled ∧ self.files.lock = none then
        some (self.setKeeper id .lock true)
      else none
  | .keeperDrops id => if self.keepers id then some (self.setKeeper id .unlock false) else none
  | .ownerDies id => some (self.endOwner id)
  | .discovererDies id => some (self.endDiscovery id)

/-- Nobody has begun. The control root may be missing, and a socket, a link or
another file may have been left in it. -/
structure Untouched (control : ControlRoot) : Prop where
  free : control.files.lock = none
  unbound : ∀ id isPrivate, control.files.socket ≠ some (.socket (some id) isPrivate)
  owners : ∀ id, control.owners id = .absent
  discoveries : ∀ id, control.discoveries id = .absent
  keepers : ∀ id, control.keepers id = false

def machine : StepSystem ControlRoot ControlLabel where
  Initial := Untouched
  step := step

end ControlRoot

end Deskkin.OwnerControl
