/-
# The store of diagnostic runs

A directory holds the files of the runs, the markers of the runs that are alive and
leftover temporary files; the health of the recording is a file beside it. Every
operation takes the lock of the store, removes the leftovers and closes the runs
whose process is gone before it does its own work. Any call to the file system can
fail, and the process can die after any of its updates. Symbolic links and file
modes, which only make a call fail, are among the failures.

A directory is listed in an order of the system's own.
-/

import Deskkin.Lib.Durable
import Deskkin.Recorder.Run
import Mathlib.Data.Char
import Mathlib.Data.Finmap
import Mathlib.Data.List.Lex
import Mathlib.Data.List.Sort

namespace Deskkin.Diagnostics

/-! ## The file system -/

abbrev Directory (γ : Type) : Type := Finmap fun _ : Text => γ

inductive Place
  | root
  | diagnostics
  deriving DecidableEq

structure Store (γ : Type) where
  root : Directory γ
  diagnostics : Directory γ

/-- What an update of the store is for. -/
inductive Purpose
  | cleanup
  | temporary
  | recovery
  | marker
  | eviction
  | publication
  | health
  | flag
  | deletion
  deriving DecidableEq

/-- A process at work on the store: the counter of its temporary files, how many calls
the operation has made, and a log of what its updates were for. -/
structure Session (γ : Type) where
  store : Store γ
  runCounter : UInt64
  calls : ℕ
  done : List Purpose

inductive IoError
  | failed
  | alreadyExists
  | notFound
  | invalid
  deriving DecidableEq

/-- What the system does: which calls of an operation fail, the order of a listing,
the processes that are alive, and the markers someone holds a lock on. -/
structure Environment (γ : Type) where
  fails : ℕ → Bool
  listing : Directory γ → List Text
  ownerIsLive : ProcessOwner → Bool
  markerLocked : Text → Bool
  nodup_listing : ∀ directory, (listing directory).Nodup
  mem_listing : ∀ directory name, name ∈ listing directory ↔ name ∈ directory

abbrev Io (γ α : Type) : Type := Durable Purpose (Session γ) IoError α

namespace Store

variable {γ : Type}

def directory (store : Store γ) : Place → Directory γ
  | .root => store.root
  | .diagnostics => store.diagnostics

def withDirectory (store : Store γ) (place : Place) (directory : Directory γ) : Store γ :=
  match place with
  | .root => { store with root := directory }
  | .diagnostics => { store with diagnostics := directory }

end Store

namespace Session

variable {γ : Type}

def called (session : Session γ) : Session γ := { session with calls := session.calls + 1 }

def updated (session : Session γ) (purpose : Purpose) (store : Store γ) : Session γ :=
  { session with store := store, done := session.done ++ [purpose] }

end Session

section Calls

variable {γ : Type} (env : Environment γ)

/-- The next number of `RUN_COUNTER`. -/
def nextSuffix : Io γ ℕ where
  run session :=
    ⟨.ok session.runCounter.toNat, { session with runCounter := session.runCounter + 1 }, []⟩

/-- A call that changes nothing. -/
def inspect {α : Type} (f : Store γ → Except IoError α) : Io γ α where
  run session :=
    ⟨if env.fails session.calls then .error .failed else f session.store, session.called, []⟩

def check : Io γ Unit := inspect env fun _ => .ok ()

/-- A call that changes one directory, or finds that it cannot. -/
def change (purpose : Purpose) (place : Place)
    (f : Directory γ → Except IoError (Directory γ)) : Io γ Unit where
  run session :=
    match (if env.fails session.calls then .error .failed
      else f (session.store.directory place)) with
    | .error error => ⟨.error error, session.called, []⟩
    | .ok directory =>
        let next := session.called.updated purpose (session.store.withDirectory place directory)
        ⟨.ok (), next, [(purpose, next)]⟩

def createNew (place : Place) (name : Text) (contents : γ) : Io γ Unit :=
  change env .temporary place fun directory =>
    if name ∈ directory then .error .alreadyExists else .ok (directory.insert name contents)

def write (place : Place) (name : Text) (contents : γ) : Io γ Unit :=
  change env .temporary place fun directory => .ok (directory.insert name contents)

def rename (purpose : Purpose) (place : Place) (source target : Text) : Io γ Unit :=
  change env purpose place fun directory =>
    match directory.lookup source with
    | none => .error .notFound
    | some contents => .ok ((directory.erase source).insert target contents)

def removeFile (purpose : Purpose) (place : Place) (name : Text) : Io γ Unit :=
  change env purpose place fun directory =>
    if name ∈ directory then .ok (directory.erase name) else .error .notFound

/-- The directory is synced after the removal. -/
def removeAndSync (purpose : Purpose) (place : Place) (name : Text) : Io γ Unit := do
  removeFile env purpose place name
  check env

def readFile (place : Place) (name : Text) : Io γ γ :=
  inspect env fun s =>
    match (s.directory place).lookup name with
    | none => .error .notFound
    | some contents => .ok contents

/-- Write a temporary file and rename it. If any of this fails the temporary file is
removed as far as possible. -/
def atomicWrite (empty : γ) (purpose : Purpose) (place : Place) (name : Text) (contents : γ) :
    Io γ Unit := do
  check env
  let suffix ← nextSuffix
  let temp := withExtension name (tempExtension suffix)
  Durable.catching
    (do
      createNew env place temp empty
      write env place temp contents
      check env
      rename env purpose place temp name
      check env)
    fun error => do
      Durable.catching (removeFile env .temporary place temp) fun _ => return ()
      Durable.fail error

end Calls

/-! ## Passes over the runs -/

/-- A run with the file it was read from. -/
structure StoredRun where
  name : Text
  run : DiagnosticRun
  deriving DecidableEq

/-- `saturating_add` of `u64`. -/
def saturatingAdd (a b : ℕ) : ℕ := min (a + b) (2 ^ 64 - 1)

section Passes

variable {γ : Type} (env : Environment γ) (codec : Codec γ)

def listingOf (place : Place) : Io γ (List Text) :=
  inspect env fun s => .ok (env.listing (s.directory place))

/-- The decodable runs of a directory, in the order of its listing. -/
def runsOf (directory : Directory γ) : List StoredRun :=
  ((env.listing directory).filter isJson).filterMap fun name =>
    ((directory.lookup name).bind codec.decode).map fun run => ⟨name, run⟩

/-- A pass that reads all runs. -/
def storedRuns : Io γ (List StoredRun) :=
  inspect env fun s => .ok (runsOf env codec s.diagnostics)

def bytesOf (directory : Directory γ) : ℕ :=
  (env.listing directory).foldl
    (fun total name =>
      saturatingAdd total ((directory.lookup name).map codec.size |>.getD 0)) 0

def directoryBytes : Io γ ℕ := inspect env fun s => .ok (bytesOf env codec s.diagnostics)

def cleanupStaleTemps : Io γ Unit := do
  let names ← listingOf env .diagnostics
  names.forM fun name =>
    if isTemp name then removeAndSync env .cleanup .diagnostics name else return ()

/-- Open the marker of a run, where there is one. -/
def openMarker (marked : Bool) : Io γ Unit := if marked then check env else return ()

/-- Close one run if its process is gone. A run without an owner is alive while its
marker is locked; a marker that is not is removed with it. To ask for the marker answers
no error, to open it may. -/
def recoverRun (name : Text) : Io γ Unit := do
  let contents ← readFile env .diagnostics name
  match codec.decode contents with
  | none => return ()
  | some run =>
      if run.terminal || run.owner.any env.ownerIsLive then return ()
      else
        let marker := liveMarker run.runId
        let marked ← Durable.reads fun s =>
          run.owner.isNone && decide (marker ∈ s.store.diagnostics)
        openMarker env marked
        if marked && env.markerLocked marker then return ()
        else
          atomicWrite env codec.empty .recovery .diagnostics name (codec.encode run.recovered)
          if marked then removeAndSync env .marker .diagnostics marker else return ()

def recoverInProgressLocked : Io γ Unit := do
  let names ← listingOf env .diagnostics
  (names.filter isJson).forM (recoverRun env codec)

def publishHealthLocked (publication : Publication) : Io γ Unit :=
  atomicWrite env codec.empty .health .root "recording-health.json".toList
    (codec.encodeHealth publication)

/-- Successful runs go first, then the older ones. -/
def goesBefore (a b : StoredRun) : Prop :=
  (a.run.outcome = .success ∧ b.run.outcome ≠ .success) ∨
    ((a.run.outcome = .success ↔ b.run.outcome = .success) ∧
      a.run.createdUnixMs ≤ b.run.createdUnixMs)

instance (a b : StoredRun) : Decidable (goesBefore a b) := by
  unfold goesBefore
  infer_instance

def olderThan (a b : StoredRun) : Prop := a.run.createdUnixMs ≤ b.run.createdUnixMs

instance (a b : StoredRun) : Decidable (olderThan a b) := by
  unfold olderThan
  infer_instance

/-- The run that has to go first, if one may. -/
def oldestCandidate (runs : List StoredRun) : Option StoredRun :=
  ((runs.filter fun stored => !stored.run.retained).insertionSort goesBefore).head?

end Passes

/-! ## The recorder -/

inductive RecordingMode
  | on
  | off
  deriving DecidableEq

structure Recorder where
  mode : RecordingMode
  maxBytes : ℕ
  successLimit : ℕ
  nonSuccessLimit : ℕ
  deriving DecidableEq

namespace Recorder

variable {γ : Type} (self : Recorder) (env : Environment γ) (codec : Codec γ)

/-- Remove runs until so many more bytes fit; whether they fit is the answer. Each
round but the last removes a file. -/
def makeRoom (required : ℕ) : ℕ → Io γ Bool
  | 0 => do
      let bytes ← directoryBytes env codec
      return decide (saturatingAdd bytes required ≤ self.maxBytes)
  | rounds + 1 => do
      let bytes ← directoryBytes env codec
      if saturatingAdd bytes required ≤ self.maxBytes then return true
      else
        let runs ← storedRuns env codec
        match oldestCandidate runs with
        | none => return false
        | some oldest =>
            removeAndSync env .eviction .diagnostics oldest.name
            makeRoom required rounds

/-- As many rounds as there are files, and one that finds nothing to remove. -/
def rounds : Io γ ℕ := Durable.reads fun session => session.store.diagnostics.keys.card + 1

def ensureCapacityLocked (required : ℕ) : Io γ Bool := do
  let rounds ← rounds
  self.makeRoom env codec required rounds

def enforceByteCapLocked : Io γ Unit := do
  let rounds ← rounds
  if ← self.makeRoom env codec 0 rounds then return ()
  else publishHealthLocked env codec ⟨"retention".toList, .dropped, .capacityExhausted, false⟩

end Recorder

def removeOldest {γ : Type} (env : Environment γ) (runs : List StoredRun) (keep : ℕ) :
    Io γ Unit :=
  (runs.take (runs.length - keep)).forM fun stored =>
    removeAndSync env .eviction .diagnostics stored.name

/-- The runs of one class that may be removed, oldest first. -/
def expendable (success : Bool) (runs : List StoredRun) : List StoredRun :=
  (runs.filter fun stored =>
    !stored.run.retained && decide (stored.run.outcome = .success) == success).insertionSort
      olderThan

namespace Recorder

variable {γ : Type} (self : Recorder) (env : Environment γ) (codec : Codec γ)

def enforceRetentionLocked : Io γ Unit := do
  let runs ← storedRuns env codec
  removeOldest env (expendable true runs) self.successLimit
  removeOldest env (expendable false runs) self.nonSuccessLimit
  self.enforceByteCapLocked env codec

/-- What every operation starts with: open and lock the store, remove the leftovers,
close the runs whose process is gone. -/
def openStore : Io γ Unit := do
  check env
  cleanupStaleTemps env
  recoverInProgressLocked env codec

def publishInner (run : DiagnosticRun) : Io γ Publication := do
  openStore env codec
  let bytes := codec.encode run
  if ← self.ensureCapacityLocked env codec (codec.size bytes) then
    atomicWrite env codec.empty .publication .diagnostics (runFile run.runId) bytes
    self.enforceRetentionLocked env codec
    check env
    return ⟨run.runId, run.completeness, run.health, true⟩
  else
    publishHealthLocked env codec ⟨run.runId, .dropped, .capacityExhausted, false⟩
    check env
    return ⟨run.runId, .dropped, .capacityExhausted, false⟩

/-- A failure of the health record is not passed on. -/
def publishHealthBestEffort (publication : Publication) : Io γ Bool :=
  Durable.catching
    (do
      check env
      publishHealthLocked env codec publication
      check env
      return true)
    fun _ => return false

def runFileIsStored (runId : Text) : Io γ Bool :=
  Durable.catching (inspect env fun s => .ok (decide (runFile runId ∈ s.diagnostics)))
    fun _ => return false

def publish (run : DiagnosticRun) : Io γ Publication :=
  match self.mode with
  | .off => return ⟨run.runId, .complete, .healthy, false⟩
  | .on =>
      Durable.catching (self.publishInner env codec run) fun _ => do
        let stored ← runFileIsStored env run.runId
        if ← publishHealthBestEffort env codec
            ⟨run.runId, .partialRun, .storageUnavailable, stored⟩ then
          return ⟨run.runId, .partialRun, .storageUnavailable, stored⟩
        else return ⟨run.runId, .dropped, .storageUnavailable, stored⟩

/-- The marker of a run that starts. Nobody waits for the lock of the store here. -/
def beginLiveRun (runId : Text) : Io γ Unit :=
  if validRunId runId then do
    change env .marker .diagnostics fun directory =>
      .ok (if liveMarker runId ∈ directory then directory
        else directory.insert (liveMarker runId) codec.empty)
    check env
  else Durable.fail .invalid

def endLiveRun (runId : Text) : Io γ Unit :=
  if validRunId runId then do
    change env .marker .diagnostics fun directory => .ok (directory.erase (liveMarker runId))
    check env
  else Durable.fail .invalid

end Recorder

/-! ## The commands -/

inductive DiagnosticsCommand
  | list
  | retain (id : Text)
  | unretain (id : Text)
  | delete (id : Text)
  deriving DecidableEq

inductive CommandAnswer
  | runs (runs : List DiagnosticRun)
  | id (id : Text)
  deriving DecidableEq

section Commands

variable {γ : Type} (recorder : Recorder) (env : Environment γ) (codec : Codec γ)

def resolvedRunPath (id : Text) : Io γ Text :=
  if validRunId id then do
    check env
    return runFile id
  else Durable.fail .invalid

/-- All runs must be decodable. -/
def listRuns : Io γ CommandAnswer :=
  inspect env fun s =>
    match ((env.listing s.diagnostics).filter isJson).mapM fun name =>
        (s.diagnostics.lookup name).bind codec.decode with
    | none => .error .invalid
    | some runs =>
        .ok (.runs (runs.insertionSort fun a b => a.createdUnixMs ≤ b.createdUnixMs))

def setRetained (id : Text) (retained : Bool) : Io γ CommandAnswer := do
  let name ← resolvedRunPath env id
  let contents ← readFile env .diagnostics name
  match codec.decode contents with
  | none => Durable.fail .invalid
  | some run =>
      atomicWrite env codec.empty .flag .diagnostics name
        (codec.encode { run with retained := retained })
      return .id id

def deleteRun (id : Text) : Io γ CommandAnswer := do
  let name ← resolvedRunPath env id
  removeAndSync env .deletion .diagnostics name
  return .id id

def unretainAndEnforce (id : Text) : Io γ CommandAnswer := do
  let updated ← setRetained env codec id false
  recorder.enforceRetentionLocked env codec
  return updated

def runCommand : DiagnosticsCommand → Io γ CommandAnswer
  | .list => listRuns env codec
  | .retain id => setRetained env codec id true
  | .unretain id => unretainAndEnforce recorder env codec id
  | .delete id => deleteRun env id

def runDiagnosticsCommand (command : DiagnosticsCommand) : Io γ CommandAnswer := do
  Recorder.openStore env codec
  let answer ← runCommand recorder env codec command
  check env
  return answer

end Commands

/-! ## What a call keeps -/

section Rules

open Durable

variable {γ : Type} {env : Environment γ} {always before after : Session γ → Prop}

theorem nextSuffix_keeps
    (reached : ∀ s : Session γ, before s → after { s with runCounter := s.runCounter + 1 }) :
    Keeps always before nextSuffix fun _ => after :=
  ⟨fun _ _ _ member => (by cases member), fun _ _ _ failed => (by cases failed),
    fun s holds _ _ => reached s holds⟩

theorem inspect_keeps {α : Type} {f : Store γ → Except IoError α}
    {found : α → Session γ → Prop} (kept : ∀ s, before s → always s.called)
    (reached : ∀ s a, before s → f s.store = .ok a → found a s.called) :
    Keeps always before (inspect env f) found := by
  refine ⟨fun _ _ _ member => (by cases member), fun s holds _ _ => kept s holds,
    fun s holds a value => ?_⟩
  simp only [inspect] at value
  split at value
  · cases value
  · exact reached s a holds value

theorem change_keeps {purpose : Purpose} {place : Place}
    {f : Directory γ → Except IoError (Directory γ)} (kept : ∀ s, before s → always s.called)
    (visible : ∀ s, after s → always s)
    (reached : ∀ s directory, before s → f (s.store.directory place) = .ok directory →
      after (s.called.updated purpose (s.store.withDirectory place directory))) :
    Keeps always before (change env purpose place f) fun _ => after := by
  have step : ∀ s, before s →
      (∃ e, (change env purpose place f).run s = ⟨.error e, s.called, []⟩) ∨
      ∃ t, after t ∧ (change env purpose place f).run s = ⟨.ok (), t, [(purpose, t)]⟩ := by
    intro s holds
    simp only [change]
    split
    · rename_i error _
      exact Or.inl ⟨error, rfl⟩
    · rename_i directory found
      split at found
      · cases found
      · exact Or.inr ⟨_, reached s directory holds found, rfl⟩
  refine ⟨fun s holds entry member => ?_, fun s holds e failed => ?_, fun s holds a ended => ?_⟩
  · rcases step s holds with ⟨e, ran⟩ | ⟨t, reached, ran⟩
    · rw [ran] at member
      cases member
    · rw [ran] at member
      rw [List.mem_singleton.mp member]
      exact visible t reached
  · rcases step s holds with ⟨e, ran⟩ | ⟨t, reached, ran⟩
    · rw [ran]
      exact kept s holds
    · rw [ran] at failed
      cases failed
  · rcases step s holds with ⟨e, ran⟩ | ⟨t, reached, ran⟩
    · rw [ran] at ended
      cases ended
    · rw [ran]
      exact reached

end Rules

/-! ## A system in which nothing fails and nobody dies -/

section Quiet

variable {γ : Type}

/-- The names of a directory in their order. -/
def sortedNames (directory : Directory γ) : List Text :=
  Quot.liftOn directory.keys.val (List.insertionSort (· ≤ ·)) fun _ _ same =>
    (((List.perm_insertionSort _ _).trans same).trans
      (List.perm_insertionSort _ _).symm).eq_of_pairwise'
      (List.pairwise_insertionSort _ _) (List.pairwise_insertionSort _ _)

theorem coe_sortedNames (directory : Directory γ) :
    (sortedNames directory : Multiset Text) = directory.keys.val := by
  unfold sortedNames
  induction directory.keys.val using Quot.inductionOn with
  | h names => exact Quot.sound (List.perm_insertionSort _ _)

def quietEnvironment : Environment γ where
  fails _ := false
  listing := sortedNames
  ownerIsLive _ := true
  markerLocked _ := false
  nodup_listing directory := by
    rw [← Multiset.coe_nodup, coe_sortedNames]
    exact directory.keys.nodup
  mem_listing directory name := by
    rw [← Multiset.mem_coe, coe_sortedNames, Finset.mem_val, Finmap.mem_keys]

/-- Files that hold what was written. -/
inductive PlainFile
  | run (run : DiagnosticRun)
  | health (publication : Publication)
  | empty
  deriving DecidableEq

/-- The sizes are those of short runs without records. -/
def plainCodec : Codec PlainFile where
  encode := .run
  decode
    | .run run => some run
    | _ => none
  encodeHealth := .health
  empty := .empty
  size
    | .run _ => 282
    | .health _ => 96
    | .empty => 0
  decode_encode _ := rfl

/-- The recorder of every process, with its default limits. -/
def defaultRecorder : Recorder := ⟨.on, 16 * 1024 * 1024, 10, 20⟩

/-- A run that was successful and is over. -/
def plainRun (runId : Text) (createdUnixMs : UInt64) : DiagnosticRun where
  schemaVersion := 1
  resource := ⟨"deskkin-simulator".toList, "0.1.0".toList, none⟩
  runId := runId
  scenarioRunId := "s".toList
  transactionId := none
  sessionContextId := none
  operationContextId := none
  protocolMajor := none
  selectedFeatures := none
  grantedPermissions := none
  outcome := .success
  completeness := .complete
  health := .healthy
  terminal := true
  missingReason := none
  owner := none
  retained := false
  createdUnixMs := createdUnixMs
  records := []

end Quiet

end Deskkin.Diagnostics
