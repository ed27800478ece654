/-
# Diagnostic runs and their files

The recorder keeps each run as one JSON file that is named after the run. It reads
of a run whether it is over, whether it is retained, its outcome, its age and the
process that owns it; the other fields it passes on as they are. How a run is
written is left to a codec that reads back what it has written.
-/

import Deskkin.Identity.Hex
import Mathlib.Data.List.Infix

namespace Deskkin.Diagnostics

/-! ## Runs -/

inductive RunOutcome
  | success
  | error
  | cancel
  | timeout
  deriving DecidableEq

inductive Completeness
  | complete
  | partialRun
  | dropped
  deriving DecidableEq

inductive RecordingHealth
  | healthy
  | storageUnavailable
  | capacityExhausted
  deriving DecidableEq

inductive Operation
  | statusRefresh
  | coreTransition
  | effectReadStatus
  | effectArmRefreshTimer
  | presenterApplyView
  | transportConnect
  | transportAccept
  | transportFrameRead
  | transportFrameWrite
  | noiseHandshake
  | pairingConfirm
  | pairingPersist
  | protocolNegotiate
  | availabilityRead
  | hostCapabilityRoute
  | connectorAvailabilityRead
  | controlRoute
  | identityInit
  | identityUnpair
  | wifiAssociation
  | dhcpAcquire
  | tcpConnect
  | nvsPublication
  | deviceUi
  | displayTransfer
  | profileResolve
  | hostOwnerAcquire
  | hostBind
  | hostRuntimeStart
  | hostRuntimeStop
  | hostOwnerRelease
  | profileStatus
  | profileStop
  deriving DecidableEq

inductive OperationStatus
  | inProgress
  | success
  | error
  | cancel
  | timeout
  deriving DecidableEq

inductive ErrorType
  | readUnavailable
  | timerArmUnavailable
  | cancelled
  | timeout
  | crash
  | scenarioFailed
  | connectionLost
  | versionMismatch
  | permissionDenied
  | sessionBusy
  | requestTimeout
  | queueFull
  | endOfStream
  | frameOversize
  | malformedFrame
  | handshakeTimeout
  | authenticationFailed
  | pairingExpired
  | identityStore
  | preauthCapacity
  | ownerLost
  | revocationRecoveryRequired
  | invalidAddress
  | pairingRejected
  | pairingIncomplete
  | storeFailed
  | storeStalled
  | ownerBusy
  | profileMismatch
  | staleGeneration
  | shutdownRejected
  | lockTimeout
  | profileDecryptFailed
  | profileSchemaInvalid
  | wifiAssociation
  | dhcpTimeout
  | tcpConnect
  | noise
  | availabilityTimeout
  | connectorUnavailable
  | recordingDegraded
  deriving DecidableEq

inductive ClosedValue
  | started
  | available
  | unavailable
  | unknown
  | armed
  | readFailed
  | armFailed
  | success
  | error
  | cancel
  | timeout
  deriving DecidableEq

inductive MissingReason
  | crash
  deriving DecidableEq

inductive ResourceRole
  | host
  | deviceSimulator
  | physicalDevice
  deriving DecidableEq

structure Publication where
  runId : Text
  completeness : Completeness
  health : RecordingHealth
  stored : Bool
  deriving DecidableEq

structure SemanticRecord where
  operation : Operation
  operationId : UInt16
  parentOperationId : Option UInt16
  status : OperationStatus
  errorType : Option ErrorType
  effectId : Option UInt64
  virtualTimeMs : UInt64
  endVirtualTimeMs : UInt64
  durationMs : Option UInt32
  renderWidth : Option UInt32
  renderHeight : Option UInt32
  value : Option ClosedValue
  deriving DecidableEq

structure ProcessOwner where
  pid : UInt32
  startTicks : UInt64
  deriving DecidableEq

structure ResourceIdentity where
  program : Text
  version : Text
  role : Option ResourceRole
  deriving DecidableEq

structure DiagnosticRun where
  schemaVersion : UInt8
  resource : ResourceIdentity
  runId : Text
  scenarioRunId : Text
  transactionId : Option Text
  sessionContextId : Option Text
  operationContextId : Option Text
  protocolMajor : Option UInt8
  selectedFeatures : Option (Vector UInt8 8)
  grantedPermissions : Option (Vector UInt8 8)
  outcome : RunOutcome
  completeness : Completeness
  health : RecordingHealth
  terminal : Bool
  missingReason : Option MissingReason
  owner : Option ProcessOwner
  retained : Bool
  createdUnixMs : UInt64
  records : List SemanticRecord
  deriving DecidableEq

/-- An operation that the crash cut short. -/
def SemanticRecord.recovered (record : SemanticRecord) : SemanticRecord :=
  if record.status = .inProgress then { record with status := .error, errorType := some .crash }
  else record

/-- What the recovery makes of a run whose process is gone. -/
def DiagnosticRun.recovered (run : DiagnosticRun) : DiagnosticRun :=
  { run with
    terminal := true
    outcome := .error
    completeness := .partialRun
    missingReason := some .crash
    owner := none
    records := run.records.map SemanticRecord.recovered }

/-- The contents of files: JSON, with the number of its bytes. What was written for a
run is read back as that run. -/
structure Codec (γ : Type) where
  encode : DiagnosticRun → γ
  decode : γ → Option DiagnosticRun
  encodeHealth : Publication → γ
  empty : γ
  size : γ → ℕ
  decode_encode : ∀ run, decode (encode run) = some run

attribute [simp] Codec.decode_encode

/-! ## File names -/

/-- What stands before and after the last dot. -/
def splitLastDot : Text → Option (Text × Text)
  | [] => none
  | c :: rest =>
      match splitLastDot rest with
      | some (stem, extension) => some (c :: stem, extension)
      | none => if c = '.' then some ([], rest) else none

/-- A name that starts with its only dot has no extension. -/
def extension (name : Text) : Option Text :=
  match splitLastDot name with
  | some (_ :: _, extension) => some extension
  | _ => none

def fileStem (name : Text) : Text :=
  match splitLastDot name with
  | some (c :: stem, _) => c :: stem
  | _ => name

def withExtension (name extension : Text) : Text := fileStem name ++ '.' :: extension

def validRunId (id : Text) : Bool :=
  !id.isEmpty && id.all fun c => c.isAlphanum || c = '-'

/-- The file of a run. -/
def runFile (id : Text) : Text := id ++ ".json".toList

/-- The marker of a run whose process is alive. -/
def liveMarker (id : Text) : Text := ".live-".toList ++ id

def tempExtension (suffix : ℕ) : Text := "tmp-".toList ++ Nat.toDigits 10 suffix

def isJson (name : Text) : Bool := extension name = some "json".toList

def isTemp (name : Text) : Bool :=
  match extension name with
  | some extension => "tmp-".toList.isPrefixOf extension
  | none => false

theorem splitLastDot_of_notMem {extension : Text} (plain : '.' ∉ extension) :
    splitLastDot extension = none := by
  induction extension with
  | nil => rfl
  | cons c rest ih =>
      rw [List.mem_cons, not_or] at plain
      rw [splitLastDot, ih plain.2]
      exact if_neg fun dot => plain.1 dot.symm

theorem splitLastDot_append {stem extension : Text} (plain : '.' ∉ extension) :
    splitLastDot (stem ++ '.' :: extension) = some (stem, extension) := by
  induction stem with
  | nil => simp [splitLastDot, splitLastDot_of_notMem plain]
  | cons c stem ih => rw [List.cons_append, splitLastDot, ih]

theorem extension_append {stem extension : Text} (named : stem ≠ []) (plain : '.' ∉ extension) :
    Diagnostics.extension (stem ++ '.' :: extension) = some extension := by
  obtain ⟨c, rest, rfl⟩ := List.exists_cons_of_ne_nil named
  rw [Diagnostics.extension, splitLastDot_append plain]

theorem tempExtension_plain (suffix : ℕ) : '.' ∉ tempExtension suffix := by
  intro dot
  rcases List.mem_append.mp dot with early | digit
  · exact absurd early (by decide)
  · have isDigit := Nat.isDigit_of_mem_toDigits (by decide) (by decide) digit
    exact absurd isDigit (by decide)

theorem runFile_eq (id : Text) : runFile id = id ++ '.' :: ['j', 's', 'o', 'n'] := rfl

theorem runFile_injective {id other : Text} (same : runFile id = runFile other) : id = other :=
  List.append_cancel_right same

variable {id : Text} (valid : validRunId id = true)
include valid

theorem ne_nil_of_validRunId : id ≠ [] := by
  rintro rfl
  exact absurd valid (by decide)

theorem isJson_runFile : isJson (runFile id) = true := by
  rw [isJson, runFile_eq, extension_append (ne_nil_of_validRunId valid) (by decide)]
  rfl

/-- The file of a run is no temporary file. -/
theorem isTemp_runFile : isTemp (runFile id) = false := by
  rw [isTemp, runFile_eq, extension_append (ne_nil_of_validRunId valid) (by decide)]
  rfl

omit valid in
theorem runFile_ne_temp (id name : Text) (suffix : ℕ) :
    runFile id ≠ withExtension name (tempExtension suffix) := by
  intro same
  have split := congrArg splitLastDot same
  rw [runFile_eq, splitLastDot_append (by decide), withExtension,
    splitLastDot_append (tempExtension_plain suffix), Option.some.injEq, Prod.mk.injEq] at split
  exact absurd (List.cons.inj split.2).1 (by decide)

/-- The file of a run does not start with a dot. -/
theorem runFile_ne_liveMarker (other : Text) : runFile id ≠ liveMarker other := by
  obtain ⟨c, rest, rfl⟩ := List.exists_cons_of_ne_nil (ne_nil_of_validRunId valid)
  intro same
  obtain ⟨rfl, -⟩ := List.cons.inj (show c :: (rest ++ ".json".toList) = '.' :: _ from same)
  exact absurd valid (by simp [validRunId])

end Deskkin.Diagnostics
