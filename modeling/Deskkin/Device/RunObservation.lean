/-
# Whether a device run was successful

While a device runs, the script asks for its status again and again and keeps a record
of each response that differs from the one before. Afterwards it looks for a record
that shows success. The record has no entry for the pixel batches that this asks for.
-/

import Deskkin.Device.StatusDecoder

namespace Deskkin.Device

open Placement

/-! ## Records -/

/-- The keys of a diagnostic record. -/
inductive RecordKey
  | operation
  | operationId
  | parentOperationId
  | status
  | errorType
  | effectId
  | virtualTimeMs
  | endVirtualTimeMs
  | durationMs
  | renderWidth
  | renderHeight
  | value
  | shellState
  | availability
  | generation
  | completedFrames
  | rendererStage
  | rendererFault
  | allocationFailures
  | transferFailures
  | staleSnapshots
  | validAvailabilityResult
  | validViewGeneration
  | viewGeneration
  | heartbeatFreshness
  | pixelDmaBatches
  deriving DecidableEq

inductive RecordValue
  | number (value : ℕ)
  | flag (value : Bool)
  | text (value : String)
  | none
  deriving DecidableEq

/-- A dictionary, as the list of its entries. -/
abbrev Record : Type := List (RecordKey × RecordValue)

namespace Record

def get (record : Record) (key : RecordKey) : Option RecordValue := List.lookup key record

/-- `record.get(key) == value`. A flag is equal to the number it stands for. -/
def equals (record : Record) (key : RecordKey) (value : ℕ) : Bool :=
  match record.get key with
  | some (.number found) => found = value
  | some (.flag found) => found.toNat = value
  | _ => false

/-- `int(record.get(key, 0))`, which raises for what is no number. -/
def int (record : Record) (key : RecordKey) : Option ℕ :=
  match record.get key with
  | none => some 0
  | some (.number found) => some found
  | some (.flag found) => some found.toNat
  | some _ => none

/-- The conditions on one record, each looked at when those before it hold. -/
def succeeded (record : Record) : Option Bool := do
  if !record.equals .shellState 4 then return false
  if !(record.equals .availability 1 || record.equals .availability 2) then return false
  if record.get .validAvailabilityResult ≠ some (.flag true) then return false
  let validView ← record.int .validViewGeneration
  if ¬0 < validView then return false
  let view ← record.int .viewGeneration
  if ¬validView ≤ view then return false
  let generation ← record.int .generation
  if ¬generation > 0 then return false
  let completedFrames ← record.int .completedFrames
  if ¬completedFrames > 0 then return false
  if record.equals .rendererStage 5 then return false
  if !record.equals .rendererFault 0 then return false
  if !record.equals .allocationFailures 0 then return false
  if !record.equals .transferFailures 0 then return false
  let batches ← record.int .pixelDmaBatches
  if ¬batches > 0 then return false
  return record.equals .staleSnapshots 0

end Record

def runSucceeded : List Record → Option Bool
  | [] => some false
  | record :: rest => do
      if ← record.succeeded then return true
      else runSucceeded rest

/-! ## The monitor -/

/-- What a change of the status is a change of. -/
structure ObservedValue where
  shell : ℕ
  availability : ℕ
  generation : ℕ
  completedFrames : ℕ
  stage : ℕ
  fault : ℕ
  allocationFailures : ℕ
  transferFailures : ℕ
  staleSnapshots : ℕ
  validResult : ℕ
  validViewGeneration : ℕ
  viewGeneration : ℕ
  deriving DecidableEq

def observedValue (result : List UInt8) (status : WorldStatus) : ObservedValue where
  shell := statusByte result 26
  availability := status.semanticAvailability
  generation := status.generation
  completedFrames := status.completedFrames
  stage := status.stage
  fault := status.fault
  allocationFailures := status.allocationFailures
  transferFailures := status.transferFailures
  staleSnapshots := status.staleSnapshots
  validResult := status.validAvailabilityResult.toNat
  validViewGeneration := status.validViewGeneration
  viewGeneration := status.viewGeneration

def deviceRecord (value : ObservedValue) (operationId elapsed duration freshness : ℕ) : Record :=
  [(.operation, .text "device_ui"),
    (.operationId, .number operationId),
    (.parentOperationId, .none),
    (.status, .text (if value.fault = 0 then "success" else "error")),
    (.errorType, if value.fault ≠ 0 then .text "renderer_fault" else .none),
    (.effectId, .none),
    (.virtualTimeMs, .number elapsed),
    (.endVirtualTimeMs, .number elapsed),
    (.durationMs, .number duration),
    (.renderWidth, .number 320),
    (.renderHeight, .number 240),
    (.value, .text (["unknown", "available", "unavailable"].getD (min value.availability 2) "")),
    (.shellState, .number value.shell),
    (.availability, .number value.availability),
    (.generation, .number value.generation),
    (.completedFrames, .number value.completedFrames),
    (.rendererStage, .number value.stage),
    (.rendererFault, .number value.fault),
    (.allocationFailures, .number value.allocationFailures),
    (.transferFailures, .number value.transferFailures),
    (.staleSnapshots, .number value.staleSnapshots),
    (.validAvailabilityResult, .flag (value.validResult ≠ 0)),
    (.validViewGeneration, .number value.validViewGeneration),
    (.viewGeneration, .number value.viewGeneration),
    (.heartbeatFreshness, .number freshness)]

structure Monitor where
  records : List Record
  lastElapsed : ℕ
  previous : Option ObservedValue
  deriving DecidableEq

/-- A response and the milliseconds since the start at which it is looked at. -/
structure Observation where
  result : List UInt8
  elapsed : ℕ
  deriving DecidableEq

/-- `none` when the response is refused, which ends the monitor without records. -/
def Monitor.observe (self : Monitor) (observation : Observation) : Option Monitor := do
  let status ← decodeWorldStatus observation.result
  let value := observedValue observation.result status
  if some value ≠ self.previous then
    let record := deviceRecord value (self.records.length + 1) observation.elapsed
      (observation.elapsed - self.lastElapsed) status.heartbeatFreshness
    return ⟨self.records ++ [record], observation.elapsed, some value⟩
  else return self

/-- The records of a monitor that has seen these responses, until its time is over or
it is interrupted. -/
def monitorDevice (observations : List Observation) : Option (List Record) :=
  (observations.foldlM Monitor.observe ⟨[], 0, none⟩).map Monitor.records

/-! ## What counts as success -/

/-- What the response shows when the run is successful. -/
structure ShowsSuccess (result : List UInt8) (status : WorldStatus) : Prop where
  decoded : decodeWorldStatus result = some status
  shell : statusByte result 26 = 4
  availability : status.semanticAvailability = 1 ∨ status.semanticAvailability = 2
  validResult : status.validAvailabilityResult = true
  shown : 0 < status.validViewGeneration ∧ status.validViewGeneration ≤ status.viewGeneration
  generation : 0 < status.generation
  frames : 0 < status.completedFrames
  stage : status.stage ≠ 5
  fault : status.fault = 0
  allocation : status.allocationFailures = 0
  transfer : status.transferFailures = 0
  fresh : status.staleSnapshots = 0
  batches : 0 < status.pixelDmaBatches

def SuccessObserved (observations : List Observation) : Prop :=
  ∃ observation ∈ observations, ∃ status, ShowsSuccess observation.result status

/-! ## No record shows success -/

theorem lookup_pixelDmaBatches (value : ObservedValue)
    (operationId elapsed duration freshness : ℕ) :
    (deviceRecord value operationId elapsed duration freshness).int .pixelDmaBatches = some 0 :=
  rfl

/-- Without an entry the number of batches is taken to be zero. -/
theorem deviceRecord_succeeded (value : ObservedValue)
    (operationId elapsed duration freshness : ℕ) :
    (deviceRecord value operationId elapsed duration freshness).succeeded = some false := by
  have batches := lookup_pixelDmaBatches value operationId elapsed duration freshness
  have validView : (deviceRecord value operationId elapsed duration freshness).int
    .validViewGeneration = some value.validViewGeneration := rfl
  have view : (deviceRecord value operationId elapsed duration freshness).int
    .viewGeneration = some value.viewGeneration := rfl
  have generation : (deviceRecord value operationId elapsed duration freshness).int
    .generation = some value.generation := rfl
  have frames : (deviceRecord value operationId elapsed duration freshness).int
    .completedFrames = some value.completedFrames := rfl
  generalize deviceRecord value operationId elapsed duration freshness = record at *
  simp [Record.succeeded, batches, validView, view, generation, frames]

theorem runSucceeded_of_forall {records : List Record}
    (none : ∀ record ∈ records, record.succeeded = some false) :
    runSucceeded records = some false := by
  induction records with
  | nil => rfl
  | cons record rest ih =>
      rw [List.forall_mem_cons] at none
      rw [runSucceeded, none.1, Option.bind_eq_bind, Option.bind_some]
      exact ih none.2

theorem Monitor.observe_records {self next : Monitor} {observation : Observation}
    (observed : self.observe observation = some next)
    (none : ∀ record ∈ self.records, record.succeeded = some false) :
    ∀ record ∈ next.records, record.succeeded = some false := by
  simp only [Monitor.observe, Option.bind_eq_bind, Option.bind_eq_some_iff] at observed
  obtain ⟨status, -, observed⟩ := observed
  split at observed
  · cases observed
    rw [List.forall_mem_append, List.forall_mem_singleton]
    exact ⟨none, deviceRecord_succeeded _ _ _ _ _⟩
  · cases observed
    exact none

theorem Monitor.foldlM_records {self next : Monitor} {observations : List Observation}
    (observed : observations.foldlM Monitor.observe self = some next)
    (none : ∀ record ∈ self.records, record.succeeded = some false) :
    ∀ record ∈ next.records, record.succeeded = some false := by
  induction observations generalizing self with
  | nil =>
      cases observed
      exact none
  | cons observation rest ih =>
      rw [List.foldlM_cons, Option.bind_eq_bind, Option.bind_eq_some_iff] at observed
      obtain ⟨middle, first, others⟩ := observed
      exact ih others (observe_records first none)

/-- Whatever was observed, the run is not reported as successful. -/
theorem runSucceeded_monitorDevice {observations : List Observation} {records : List Record}
    (monitored : monitorDevice observations = some records) :
    runSucceeded records = some false := by
  obtain ⟨monitor, observed, rfl⟩ := Option.map_eq_some_iff.mp monitored
  apply runSucceeded_of_forall
  apply Monitor.foldlM_records observed
  intro record member
  cases member

/-- **When the report is right.** The report of a run says that success was observed
exactly when it was, if and only if no response shows success. -/
theorem report_right_iff {observations : List Observation} {records : List Record}
    (monitored : monitorDevice observations = some records) :
    (runSucceeded records = some true ↔ SuccessObserved observations) ↔
      ¬SuccessObserved observations := by
  rw [runSucceeded_monitorDevice monitored]
  constructor
  · intro right observed
    cases right.mpr observed
  · intro failed
    exact ⟨fun reported => (by cases reported), fun observed => absurd observed failed⟩

/-! ## A response that shows success -/

/-- Generation and views 7, one frame, one batch, the paired shell with an available view. -/
def successResponse : List UInt8 :=
  putAll (List.replicate 236 0) [⟨0, [1]⟩, ⟨26, [4]⟩, ⟨27, [1]⟩, ⟨31, [7]⟩, ⟨43, [1]⟩, ⟨52, [4]⟩,
    ⟨80, [0x81]⟩, ⟨83, [1]⟩, ⟨91, [7]⟩, ⟨95, [7]⟩]

/-- The same without a valid result. -/
def startingResponse : List UInt8 := putAll successResponse [⟨80, [1]⟩]

theorem report_right_iff_starting :
    (∃ records, monitorDevice [⟨startingResponse, 250⟩] = some records ∧
      (runSucceeded records = some true ↔ SuccessObserved [⟨startingResponse, 250⟩])) := by
  have monitored : (monitorDevice [⟨startingResponse, 250⟩]).isSome = true := by
    decide +kernel
  obtain ⟨records, monitored⟩ := Option.isSome_iff_exists.mp monitored
  refine ⟨records, monitored, (report_right_iff monitored).mpr ?_⟩
  rintro ⟨observation, member, status, success⟩
  rw [List.mem_singleton] at member
  subst member
  have invalid : (decodeWorldStatus startingResponse).map WorldStatus.validAvailabilityResult =
      some false := by
    decide +kernel
  rw [success.decoded, Option.map_some, success.validResult] at invalid
  cases invalid

/-- Success is observed and not reported. -/
theorem success_not_reported :
    SuccessObserved [⟨successResponse, 250⟩] ∧
      (monitorDevice [⟨successResponse, 250⟩]).bind runSucceeded = some false := by
  have decoded : (decodeWorldStatus successResponse).isSome = true := by
    decide +kernel
  obtain ⟨status, decoded⟩ := Option.isSome_iff_exists.mp decoded
  have shown : (decodeWorldStatus successResponse).all (fun status =>
      status.semanticAvailability = 1 ∧ status.validAvailabilityResult = true ∧
        (0 < status.validViewGeneration ∧ status.validViewGeneration ≤ status.viewGeneration) ∧
        0 < status.generation ∧ 0 < status.completedFrames ∧ status.stage ≠ 5 ∧
        status.fault = 0 ∧ status.allocationFailures = 0 ∧ status.transferFailures = 0 ∧
        status.staleSnapshots = 0 ∧ 0 < status.pixelDmaBatches) = true := by
    decide +kernel
  rw [decoded, Option.all_some, decide_eq_true_eq] at shown
  obtain ⟨availability, valid, view, generation, frames, stage, fault, allocation, transfer, fresh,
    batches⟩ := shown
  refine ⟨⟨_, List.mem_singleton_self _, status, ?_⟩, by decide +kernel⟩
  exact ⟨decoded, by decide +kernel, Or.inl availability, valid, view, generation, frames, stage,
    fault, allocation, transfer, fresh, batches⟩

end Deskkin.Device
