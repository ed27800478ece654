/-
# What a dropped publication takes

Room for a run is made by removing one run after the other, and only a store without a
run that may be removed says that there is no room. A publication that is dropped for
want of room has therefore taken every run that is not retained. A retained run keeps
its bytes unless its process is gone, in which case it was closed before.
-/

import Deskkin.Recorder.CrashRecovery

namespace Deskkin.Diagnostics

open Durable

variable {γ : Type} {env : Environment γ} {codec : Codec γ}

/-- The file is one of a run, and no marker is called like it. -/
structure IsRunFile (name : Text) : Prop where
  json : isJson name = true
  unmarked : ∀ id, name ≠ liveMarker id

theorem isRunFile_runFile {id : Text} (valid : validRunId id = true) : IsRunFile (runFile id) :=
  ⟨isJson_runFile valid, runFile_ne_liveMarker valid⟩

/-! ## Opening the store -/

variable {name : Text} {directory : Directory γ} {run : DiagnosticRun} {contents : γ}

theorem isTemp_of_isJson (json : isJson name = true) : isTemp name = false := by
  rw [isJson, decide_eq_true_eq] at json
  rw [isTemp, json]
  rfl

/-- The leftovers go and no other file does. -/
theorem lookup_withoutTemps (directory : Directory γ) (file : isTemp name = false) :
    (withoutTemps env directory).lookup name = directory.lookup name := by
  unfold withoutTemps
  induction env.listing directory generalizing directory with
  | nil => rfl
  | cons first rest ih =>
      rw [List.foldl_cons, ih]
      split
      · rename_i temporary
        apply Finmap.lookup_erase_ne
        rintro rfl
        rw [file] at temporary
        cases temporary
      · rfl

/-- What every operation makes of the file of a run before it does its own work. -/
theorem lookup_opened {directory : Directory γ} {name : Text} {contents : γ}
    {run : DiagnosticRun} (file : IsRunFile name) (stored : directory.lookup name = some contents)
    (decoded : codec.decode contents = some run) :
    (opened env codec directory).lookup name =
      if Abandoned env (withoutTemps env directory) run then some (codec.encode run.recovered)
      else some contents := by
  have cleaned : (withoutTemps env directory).lookup name = some contents := by
    rw [lookup_withoutTemps directory (isTemp_of_isJson file.json), stored]
  have unmarked : Unmarked codec (withoutTemps env directory) name :=
    fun _ other _ _ _ _ => file.unmarked other.runId
  change (allRecovered env codec (withoutTemps env directory)).lookup name = _
  rw [lookup_allRecovered unmarked, if_pos file.json, cleaned, Option.map_some,
    recoveredContents, decoded]
  exact apply_ite some _ _ _

/-! ## Making room -/

/-- The runs that are removed for room are not retained. -/
theorem lookup_withRoom {recorder : Recorder} {required rounds : ℕ}
    (stored : directory.lookup name = some contents) (decoded : codec.decode contents = some run)
    (retained : run.retained = true) :
    (withRoom recorder env codec required rounds directory).lookup name = some contents := by
  induction rounds generalizing directory with
  | zero => exact stored
  | succ rounds ih =>
      rw [withRoom]
      split
      · exact stored
      · cases first : oldestCandidate (runsOf env codec directory) with
        | none => exact stored
        | some oldest =>
            have member := List.mem_of_mem_head? first
            rw [List.mem_insertionSort, List.mem_filter, mem_runsOf] at member
            apply ih
            rw [Finmap.lookup_erase_ne, stored]
            rintro rfl
            rw [stored, Option.bind_some, decoded, Option.some.injEq] at member
            rw [← member.1.2, retained] at member
            cases member.2

/-- Making room creates no file. -/
theorem lookup_of_withRoom {recorder : Recorder} {required rounds : ℕ}
    (there : (withRoom recorder env codec required rounds directory).lookup name =
      some contents) : directory.lookup name = some contents := by
  induction rounds generalizing directory with
  | zero => exact there
  | succ rounds ih =>
      rw [withRoom] at there
      split at there
      · exact there
      · cases first : oldestCandidate (runsOf env codec directory) with
        | none =>
            rw [first] at there
            exact there
        | some oldest =>
            rw [first] at there
            have left := ih there
            by_cases same : name = oldest.name
            · rw [same, Finmap.lookup_erase] at left
              cases left
            · rwa [Finmap.lookup_erase_ne same] at left

/-- Without a candidate every run of the directory is retained. -/
theorem retained_of_oldestCandidate (full : oldestCandidate (runsOf env codec directory) = none)
    (json : isJson name = true) (stored : directory.lookup name = some contents)
    (decoded : codec.decode contents = some run) : run.retained = true := by
  rw [oldestCandidate, List.head?_eq_none_iff] at full
  have listed : (⟨name, run⟩ : StoredRun) ∈ runsOf env codec directory := by
    rw [mem_runsOf]
    exact ⟨json, by rw [stored, Option.bind_some, decoded]⟩
  by_contra unretained
  have candidate : (⟨name, run⟩ : StoredRun) ∈ ((runsOf env codec directory).filter
      fun stored => !stored.run.retained).insertionSort goesBefore := by
    rw [List.mem_insertionSort, List.mem_filter]
    exact ⟨listed, by simpa using unretained⟩
  rw [full] at candidate
  cases candidate

section

variable (recorder : Recorder)

/-- Where there is no room no run is left that may be removed. -/
theorem makeRoom_exhausts (required : ℕ) {rounds : ℕ} (enough : directory.keys.card ≤ rounds) :
    Yields (fun store => store.diagnostics = directory)
      (recorder.makeRoom env codec required rounds)
      fun fits store => fits = false →
        oldestCandidate (runsOf env codec store.diagnostics) = none := by
  induction rounds generalizing directory with
  | zero =>
      apply inspect_bind_yields (bytesOf env codec)
      apply (Yields.pure _).mono (fun _ same => same)
      rintro fits store ⟨-, rfl⟩ -
      cases first : oldestCandidate (runsOf env codec store.diagnostics) with
      | none => rfl
      | some oldest =>
          have counted := card_erase (mem_of_oldestCandidate first)
          omega
  | succ rounds ih =>
      apply inspect_bind_yields (bytesOf env codec)
      split
      · apply (Yields.pure _).mono (fun _ same => same)
        rintro fits store ⟨rfl, -⟩ full
        cases full
      · apply inspect_bind_yields (runsOf env codec)
        cases first : oldestCandidate (runsOf env codec directory) with
        | none =>
            apply (Yields.pure _).mono (fun _ same => same)
            rintro fits store ⟨-, rfl⟩ -
            exact first
        | some oldest =>
            have counted := card_erase (mem_of_oldestCandidate first)
            exact remove_yields.bind fun _ => ih (by omega)

theorem ensureCapacityLocked_exhausts (required : ℕ) (directory : Directory γ) :
    Yields (fun store => store.diagnostics = directory)
      (recorder.ensureCapacityLocked env codec required)
      fun fits store => fits = false →
        oldestCandidate (runsOf env codec store.diagnostics) = none := by
  apply rounds_bind_yields
  exact makeRoom_exhausts recorder required (Nat.le_succ _)

/-! ## The publication -/

/-- A change of the root leaves the runs alone. -/
theorem change_root_yields {purpose : Purpose} {f : Directory γ → Except IoError (Directory γ)} :
    Yields (fun store => store.diagnostics = directory) (change env purpose .root f)
      fun _ store => store.diagnostics = directory :=
  change_yields fun _ _ same _ => same

theorem publishHealthLocked_yields {publication : Publication} :
    Yields (fun store => store.diagnostics = directory)
      (publishHealthLocked env codec publication)
      fun _ store => store.diagnostics = directory := by
  apply check_yields.bind
  intro _
  apply nextSuffix_yields.bind
  intro suffix
  apply Yields.catching
  · exact change_root_yields.bind fun _ => change_root_yields.bind fun _ => check_yields.bind
      fun _ => change_root_yields.bind fun _ => check_yields
  · exact fun error => (Fails.bind fun _ => fails_fail error).yields

/-- The directory after a publication that was dropped: room was made as far as it goes. -/
theorem publishInner_drops (run : DiagnosticRun) (directory : Directory γ) :
    Yields (fun store => store.diagnostics = directory) (recorder.publishInner env codec run)
      fun publication store => publication.stored = false →
        store.diagnostics = prepared recorder env codec run directory ∧
          oldestCandidate (runsOf env codec store.diagnostics) = none := by
  apply (openStore_yields directory).bind
  intro _
  apply ((ensureCapacityLocked_yields recorder (codec.size (codec.encode run)) _).and
    (ensureCapacityLocked_exhausts recorder (codec.size (codec.encode run)) _)).bind
  intro fits
  cases fits with
  | true =>
      apply Yields.value.bind
      intro _
      apply Yields.value.bind
      intro _
      apply Yields.value.bind
      intro _
      apply (Yields.pure _).mono (fun _ found => found)
      rintro publication store ⟨rfl, -⟩ dropped
      cases dropped
  | false =>
      apply Yields.assuming
        (oldestCandidate (runsOf env codec (prepared recorder env codec run directory)) = none)
      · rintro store ⟨⟨same, -⟩, full⟩
        rw [prepared, ← same]
        exact full rfl
      intro full
      apply Yields.mono _ (fun _ found => found.1.1) fun _ _ done => done
      apply publishHealthLocked_yields.bind
      intro _
      apply check_yields.bind
      intro _
      apply (Yields.pure _).mono (fun _ same => same)
      rintro publication store ⟨-, same⟩ -
      rw [same]
      exact ⟨rfl, full⟩

theorem publish_drops (run : DiagnosticRun) (directory : Directory γ) :
    Yields (fun store => store.diagnostics = directory) (recorder.publish env codec run)
      fun publication store => publication.stored = false →
        publication.health = .capacityExhausted →
          store.diagnostics = prepared recorder env codec run directory ∧
            oldestCandidate (runsOf env codec store.diagnostics) = none := by
  unfold Recorder.publish
  split
  · apply (Yields.pure _).mono fun _ same => same
    rintro publication store ⟨rfl, -⟩ - exhausted
    cases exhausted
  · apply Yields.catching
    · apply (publishInner_drops recorder run directory).mono fun _ same => same
      exact fun _ _ published dropped _ => published dropped
    · intro error
      apply Yields.value.bind
      intro stored
      apply Yields.value.bind
      intro recorded
      have unavailable : ∀ completeness, Yields (fun _ => True)
          (pure ⟨run.runId, completeness, .storageUnavailable, stored⟩ : Io γ Publication)
          fun publication _ => publication.health ≠ .capacityExhausted := by
        intro completeness
        apply (Yields.pure _).mono fun _ same => same
        rintro publication store ⟨rfl, -⟩ exhausted
        cases exhausted
      cases recorded with
      | true => exact (unavailable _).mono (fun _ same => same) fun _ _ ne _ same => absurd same ne
      | false => exact (unavailable _).mono (fun _ same => same) fun _ _ ne _ same => absurd same ne

end

/-- **What a dropped publication takes.** A run that was stored before has the same bytes
after it exactly when it is retained and its process was not found gone. -/
theorem publish_dropped_iff {recorder : Recorder} {run stored : DiagnosticRun}
    {session : Session γ} {publication : Publication} {name : Text} {contents : γ}
    (returned : ((recorder.publish env codec run).run session).result = .ok publication)
    (dropped : publication.stored = false) (exhausted : publication.health = .capacityExhausted)
    (file : IsRunFile name) (there : session.store.diagnostics.lookup name = some contents)
    (decoded : codec.decode contents = some stored) :
    ((recorder.publish env codec run).run session).final.store.diagnostics.lookup name =
        some contents ↔
      stored.retained = true ∧
        ¬Abandoned env (withoutTemps env session.store.diagnostics) stored := by
  obtain ⟨left, full⟩ := (publish_drops recorder run session.store.diagnostics).success session rfl
    publication returned dropped exhausted
  have found := @lookup_opened γ env codec _ _ _ _ file there decoded
  constructor
  · intro kept
    have json := retained_of_oldestCandidate full file.json kept decoded
    rw [left, prepared] at kept
    refine ⟨json, fun abandoned => ?_⟩
    rw [if_pos abandoned] at found
    have same := Option.some.inj ((lookup_of_withRoom kept).symm.trans found)
    rw [same, codec.decode_encode, Option.some.injEq] at decoded
    have terminal := abandoned.1
    rw [← decoded] at terminal
    cases terminal
  · rintro ⟨retained, alive⟩
    rw [if_neg alive] at found
    rw [left, prepared]
    exact lookup_withRoom found decoded retained

/-! ## A run that is larger than the store -/

/-- A run with records takes more bytes than one without. -/
def sizedCodec : Codec PlainFile where
  __ := plainCodec
  size
    | .run run => 282 + 240 * run.records.length
    | file => plainCodec.size file

def retainedRun : DiagnosticRun := { plainRun ['k'] 1 with retained := true }

def oversizedRun : DiagnosticRun :=
  { plainRun ['n'] 3 with
    records := List.replicate 4
      ⟨.statusRefresh, 1, none, .success, none, none, 0, 0, none, none, none, none⟩ }

/-- A retained run and one that is not. -/
def smallStore : Store PlainFile where
  root := ∅
  diagnostics := ((∅ : Directory PlainFile).insert (runFile ['k']) (.run retainedRun)).insert
    (runFile ['o']) (.run (plainRun ['o'] 2))

def publishOversized : Durable.Outcome Purpose (Session PlainFile) IoError Publication :=
  (({ defaultRecorder with maxBytes := 1024 } : Recorder).publish quietEnvironment sizedCodec
    oversizedRun).run ⟨smallStore, 0, 0, []⟩

theorem publish_dropped_iff_retained :
    publishOversized.result.toOption = some ⟨['n'], .dropped, .capacityExhausted, false⟩ ∧
      publishOversized.final.store.diagnostics.lookup (runFile ['k']) =
        some (.run retainedRun) := by
  have returned : publishOversized.result.toOption =
      some ⟨['n'], .dropped, .capacityExhausted, false⟩ := by
    decide +kernel
  refine ⟨returned, ?_⟩
  cases ended : publishOversized.result with
  | error e =>
      rw [ended] at returned
      cases returned
  | ok publication =>
      rw [ended] at returned
      cases returned
      exact (publish_dropped_iff ended rfl rfl (isRunFile_runFile (by decide))
        (by decide : smallStore.diagnostics.lookup (runFile ['k']) = some (.run retainedRun))
        rfl).mpr (by decide)

/-- The run is dropped, and a run that was stored is gone. -/
theorem publish_dropped_takes :
    publishOversized.result.toOption = some ⟨['n'], .dropped, .capacityExhausted, false⟩ ∧
      smallStore.diagnostics.lookup (runFile ['o']) = some (.run (plainRun ['o'] 2)) ∧
      publishOversized.final.store.diagnostics.lookup (runFile ['o']) = none := by
  decide +kernel

end Deskkin.Diagnostics
