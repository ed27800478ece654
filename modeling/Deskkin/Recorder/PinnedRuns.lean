/-
# Pinned runs

A run that was retained carries the flag in its file. Retention, the byte cap and the
recovery of other runs leave the file alone, and the recovery of the run itself keeps
the flag. A publication does not: it writes the run as its caller has it, and a caller
that publishes a run a second time knows nothing of the flag. Commands that take the
flag or the file away count once they succeed; one that fails after its update has
taken it away all the same.
-/

import Deskkin.Lib.Runs
import Deskkin.Recorder.Effects

namespace Deskkin.Diagnostics

open Durable

variable {γ : Type} {env : Environment γ} {codec : Codec γ}

/-! ## The file of a pinned run -/

/-- The run is stored under its id with the flag. -/
def PinnedIn (codec : Codec γ) (id : Text) (directory : Directory γ) : Prop :=
  ∃ contents run, directory.lookup (runFile id) = some contents ∧
    codec.decode contents = some run ∧ run.retained = true

def Pinned (codec : Codec γ) (id : Text) (store : Store γ) : Prop :=
  PinnedIn codec id store.diagnostics

variable {id : Text}

variable {directory : Directory γ} {name : Text}

theorem PinnedIn.insert_ne (pinned : PinnedIn codec id directory) (other : name ≠ runFile id)
    (contents : γ) : PinnedIn codec id (directory.insert name contents) := by
  obtain ⟨stored, run, found, retained⟩ := pinned
  exact ⟨stored, run, by rw [Finmap.lookup_insert_of_ne _ other.symm, found], retained⟩

theorem PinnedIn.erase_ne (pinned : PinnedIn codec id directory) (other : name ≠ runFile id) :
    PinnedIn codec id (directory.erase name) := by
  obtain ⟨stored, run, found, retained⟩ := pinned
  exact ⟨stored, run, by rw [Finmap.lookup_erase_ne other.symm, found], retained⟩

theorem pinnedIn_insert (directory : Directory γ) {contents : γ} {run : DiagnosticRun}
    (decoded : codec.decode contents = some run) (retained : run.retained = true) :
    PinnedIn codec id (directory.insert (runFile id) contents) :=
  ⟨contents, run, Finmap.lookup_insert _, decoded, retained⟩

/-- Either the flag is there, with what else is known of the store, or there was an
update for one of the harmful purposes. -/
def Spared (codec : Codec γ) (id : Text) (harm : Purpose → Bool) (known : Store γ → Prop)
    (session : Session γ) : Prop :=
  session.done.any harm = true ∨ (Pinned codec id session.store ∧ known session.store)

/-- While nothing more is known. -/
def Spares (codec : Codec γ) (id : Text) (harm : Purpose → Bool) {α : Type}
    (known : Store γ → Prop) (m : Io γ α) (found : α → Store γ → Prop) : Prop :=
  Keeps (Spared codec id harm fun _ => True) (Spared codec id harm known) m fun a =>
    Spared codec id harm (found a)

section Spares

variable {harm : Purpose → Bool} {α β : Type} {known : Store γ → Prop}

theorem Spared.mono {more : Store γ → Prop} {s : Session γ}
    (spared : Spared codec id harm known s) (weaker : ∀ store, known store → more store) :
    Spared codec id harm more s :=
  spared.imp_right fun pinned => ⟨pinned.1, weaker _ pinned.2⟩

theorem Spared.visible {s : Session γ} (spared : Spared codec id harm known s) :
    Spared codec id harm (fun _ => True) s :=
  spared.mono fun _ _ => trivial

variable {m : Io γ α} {found : α → Store γ → Prop} {place : Place} {purpose : Purpose} {name : Text}
  {contents : γ} {q : Prop} {run : DiagnosticRun} {runs : List StoredRun}

theorem Spares.bind {rest : α → Io γ β} {middle : α → Store γ → Prop} {found : β → Store γ → Prop}
    (one : Spares codec id harm known m middle)
    (two : ∀ a, Spares codec id harm (middle a) (rest a) found) :
    Spares codec id harm known (m >>= rest) found :=
  Keeps.bind one two

theorem Spares.mono {found more : α → Store γ → Prop} {less : Store γ → Prop}
    (spares : Spares codec id harm known m found) (entry : ∀ store, less store → known store)
    (leave : ∀ a store, found a store → more a store) : Spares codec id harm less m more :=
  Keeps.mono spares (fun _ holds => holds.mono entry) fun a _ holds => holds.mono (leave a)

theorem Spares.pure (a : α) : Spares codec id harm known (Pure.pure a) fun _ => known :=
  Keeps.pure (fun _ holds => holds.visible) fun _ holds => holds

theorem Spares.returns (a : α) (here : ∀ store, known store → found a store) :
    Spares codec id harm known (Pure.pure a) found :=
  Keeps.pure (fun _ holds => holds.visible) fun _ holds => holds.mono here

theorem Spares.fail {e : IoError} : Spares codec id harm known (Durable.fail e) found :=
  Keeps.fail fun _ holds => holds.visible

theorem Spares.forM {δ : Type} {body : δ → Io γ PUnit} (items : List δ)
    (one : ∀ c ∈ items, Spares codec id harm known (body c) fun _ => known) :
    Spares codec id harm known (items.forM body) fun _ => known :=
  Keeps.forM (fun _ holds => holds.visible) items one

theorem Spares.catching {handler : IoError → Io γ α}
    (spares : Spares codec id harm known m fun _ _ => True)
    (handled : ∀ e, Spares codec id harm (fun _ => True) (handler e) fun _ _ => True) :
    Spares codec id harm known (m.catching handler) fun _ _ => True :=
  Keeps.catching spares handled

theorem inspect_spares {f : Store γ → Except IoError α}
    (value : ∀ store a, Pinned codec id store → known store → f store = .ok a → found a store) :
    Spares codec id harm known (inspect env f) found := by
  apply inspect_keeps
  · exact fun s holds => Spared.visible (s := s) holds
  · intro s a holds here
    rcases holds with harmed | ⟨pinned, more⟩
    · exact Or.inl harmed
    · exact Or.inr ⟨pinned, value s.store a pinned more here⟩

theorem check_spares : Spares codec id harm known (check env) fun _ => known :=
  inspect_spares fun _ _ _ more _ => more

theorem Spares.reads (f : Session γ → α) :
    Spares codec id harm known (Durable.reads f) fun _ => known :=
  Keeps.reads (fun _ holds => holds.visible) fun _ holds => holds

theorem nextSuffix_spares : Spares codec id harm known nextSuffix fun _ => known :=
  nextSuffix_keeps fun _ holds => holds

theorem change_spares {f : Directory γ → Except IoError (Directory γ)} {found : Store γ → Prop}
    (safe : harm purpose = false → ∀ store directory, Pinned codec id store → known store →
      f (store.directory place) = .ok directory →
        Pinned codec id (store.withDirectory place directory) ∧
          found (store.withDirectory place directory)) :
    Spares codec id harm known (change env purpose place f) fun _ => found := by
  apply change_keeps
  · exact fun s holds => Spared.visible (s := s) holds
  · exact fun s holds => holds.visible
  · intro s directory holds moved
    cases harmful : harm purpose with
    | true => exact Or.inl (by simp [Session.updated, harmful])
    | false =>
        rcases holds with harmed | ⟨pinned, more⟩
        · exact Or.inl (by
            simp only [Session.updated, Session.called, List.any_append, harmed, Bool.true_or])
        · exact Or.inr (safe harmful s.store directory pinned more moved)

/-! ## Writes and removals -/

theorem Pinned.withDirectory {store : Store γ} (pinned : Pinned codec id store)
    {directory : Directory γ} (kept : place = .diagnostics → PinnedIn codec id store.diagnostics →
      PinnedIn codec id directory) : Pinned codec id (store.withDirectory place directory) := by
  cases place with
  | root => exact pinned
  | diagnostics => exact kept rfl pinned

theorem createNew_spares {found : Store γ → Prop} (other : name ≠ runFile id)
    (more : ∀ store, known store → name ∉ store.directory place →
      found (store.withDirectory place ((store.directory place).insert name contents))) :
    Spares codec id harm known (createNew env place name contents) fun _ => found := by
  apply change_spares
  intro _ store directory pinned knows created
  split at created
  · cases created
  · rename_i absent
    cases created
    refine ⟨pinned.withDirectory fun here kept => ?_, more store knows absent⟩
    subst here
    exact kept.insert_ne other contents

theorem write_spares {found : Store γ → Prop} (other : name ≠ runFile id)
    (more : ∀ store, known store →
      found (store.withDirectory place ((store.directory place).insert name contents))) :
    Spares codec id harm known (write env place name contents) fun _ => found := by
  apply change_spares
  intro _ store directory pinned knows written
  cases written
  refine ⟨pinned.withDirectory fun here kept => ?_, more store knows⟩
  subst here
  exact kept.insert_ne other contents

section

variable (other : harm purpose = false → q → place = .diagnostics → name ≠ runFile id)
include other

theorem removeFile_spares :
    Spares codec id harm (fun _ => q) (removeFile env purpose place name) fun _ _ => q := by
  apply change_spares
  intro harmless store directory pinned knows removed
  split at removed
  · cases removed
    refine ⟨pinned.withDirectory fun here kept => ?_, knows⟩
    have differs := other harmless knows here
    subst here
    exact kept.erase_ne differs
  · cases removed

theorem removeAndSync_spares :
    Spares codec id harm (fun _ => q) (removeAndSync env purpose place name) fun _ _ => q :=
  (removeFile_spares other).bind fun _ => check_spares

end

/-- The temporary file holds the contents when it is renamed. -/
theorem rename_spares {temp name : Text} (temporary : temp ≠ runFile id)
    (flagged : harm purpose = false → q → place = .diagnostics → name = runFile id →
      ∃ run, codec.decode contents = some run ∧ run.retained = true) :
    Spares codec id harm
      (fun store => q ∧ (store.directory place).lookup temp = some contents)
      (rename env purpose place temp name) fun _ _ => q := by
  apply change_spares
  rintro harmless store directory pinned ⟨knows, there⟩ renamed
  rw [there] at renamed
  cases renamed
  refine ⟨pinned.withDirectory fun here kept => ?_, knows⟩
  by_cases same : name = runFile id
  · obtain ⟨run, decoded, retained⟩ := flagged harmless knows here same
    rw [same]
    exact pinnedIn_insert _ decoded retained
  · subst here
    exact (kept.erase_ne temporary).insert_ne same contents

/-- A file that is written either is another one or carries the flag. -/
theorem atomicWrite_spares
    (flagged : harm purpose = false → q → place = .diagnostics → name = runFile id →
      ∃ run, codec.decode contents = some run ∧ run.retained = true) :
    Spares codec id harm (fun _ => q)
      (atomicWrite env codec.empty purpose place name contents) fun _ _ => q := by
  apply check_spares.bind
  intro _
  apply nextSuffix_spares.bind
  intro suffix
  have temporary : withExtension name (tempExtension suffix) ≠ runFile id :=
    (runFile_ne_temp id name suffix).symm
  have created : Spares codec id harm (fun _ => q)
      (createNew env place (withExtension name (tempExtension suffix)) codec.empty) fun _ _ => q :=
    createNew_spares temporary fun _ knows _ => knows
  have wrote : Spares codec id harm (fun _ => q)
      (write env place (withExtension name (tempExtension suffix)) contents) fun _ store => q ∧
        (store.directory place).lookup (withExtension name (tempExtension suffix)) =
          some contents := by
    refine write_spares temporary fun store knows => ⟨knows, ?_⟩
    cases place <;> exact Finmap.lookup_insert _
  have tidied : Spares codec id harm (fun _ => True)
      (Durable.catching
        (removeFile env .temporary place (withExtension name (tempExtension suffix)))
        fun _ => return ()) fun _ _ => True :=
    Spares.catching (removeFile_spares fun _ _ _ => temporary) fun _ => Spares.pure ()
  apply Keeps.catching
  · exact created.bind fun _ => wrote.bind fun _ => check_spares.bind fun _ =>
      (rename_spares temporary flagged).bind fun _ => check_spares
  · exact fun error => tidied.bind fun _ => Spares.fail

/-! ## Passes -/

theorem listingOf_spares : Spares codec id harm known (listingOf env place) fun _ => known :=
  inspect_spares fun _ _ _ knows _ => knows

theorem cleanupStaleTemps_spares (valid : validRunId id = true) :
    Spares codec id harm (fun _ => True) (cleanupStaleTemps env) fun _ _ => True := by
  apply listingOf_spares.bind
  intro names
  apply Spares.forM
  intro name _
  split
  · rename_i temp
    apply removeAndSync_spares
    rintro - - - rfl
    rw [isTemp_runFile valid] at temp
    cases temp
  · exact Spares.pure ()

theorem readFile_spares :
    Spares codec id harm (fun _ => True) (readFile env place name) fun contents _ =>
      place = .diagnostics → name = runFile id →
        ∀ run, codec.decode contents = some run → run.retained = true := by
  apply inspect_spares
  rintro store contents ⟨stored, pinned, found, decoded, retained⟩ - read rfl rfl run here
  simp only [Store.directory, found, Except.ok.injEq] at read
  rw [← read, decoded, Option.some.injEq] at here
  rw [← here]
  exact retained

theorem openMarker_spares (marked : Bool) :
    Spares codec id harm known (openMarker env marked) fun _ => known := by
  cases marked with
  | true => exact check_spares
  | false => exact Spares.pure ()

/-- The recovery of a run keeps its flag. -/
theorem recovered_spares (flag : q → name = runFile id → run.retained = true) :
    Spares codec id harm (fun _ => q)
      (atomicWrite env codec.empty .recovery .diagnostics name (codec.encode run.recovered))
      fun _ _ => True := by
  apply (atomicWrite_spares _).mono (fun _ knows => knows) fun _ _ _ => trivial
  rintro - knows - same
  exact ⟨run.recovered, codec.decode_encode _, flag knows same⟩

theorem recoverRun_spares (valid : validRunId id = true) (name : Text) :
    Spares codec id harm (fun _ => True) (recoverRun env codec name) fun _ _ => True := by
  apply readFile_spares.bind
  intro contents
  cases decoded : codec.decode contents with
  | none => exact (Spares.pure ()).mono (fun _ _ => trivial) fun _ _ _ => trivial
  | some run =>
      simp only []
      split
      · exact (Spares.pure ()).mono (fun _ _ => trivial) fun _ _ _ => trivial
      · apply (Spares.reads _).bind
        intro marked
        apply (openMarker_spares marked).bind
        intro _
        split
        · exact (Spares.pure ()).mono (fun _ _ => trivial) fun _ _ _ => trivial
        · apply (recovered_spares fun knows same => knows trivial same run rfl).bind
          intro _
          split
          · exact removeAndSync_spares fun _ _ _ => (runFile_ne_liveMarker valid _).symm
          · exact Spares.pure ()

theorem recoverInProgressLocked_spares (valid : validRunId id = true) :
    Spares codec id harm (fun _ => True) (recoverInProgressLocked env codec) fun _ _ => True := by
  apply listingOf_spares.bind
  intro names
  apply Spares.forM
  exact fun name _ => recoverRun_spares valid name

theorem openStore_spares (valid : validRunId id = true) :
    Spares codec id harm (fun _ => True) (Recorder.openStore env codec) fun _ _ => True :=
  check_spares.bind fun _ => (cleanupStaleTemps_spares valid).bind fun _ =>
    recoverInProgressLocked_spares valid

/-- Among the runs that were read the pinned one has its flag. -/
def KnowsPinned (id : Text) (runs : List StoredRun) : Prop :=
  ∀ stored ∈ runs, stored.name = runFile id → stored.run.retained = true

theorem storedRuns_spares :
    Spares codec id harm (fun _ => True) (storedRuns env codec) fun runs _ =>
      KnowsPinned id runs := by
  apply inspect_spares
  rintro store runs ⟨contents, run, found, decoded, retained⟩ - read stored member here
  cases read
  have there := (mem_runsOf.mp member).2
  rw [here, found, Option.bind_some, decoded, Option.some.injEq] at there
  rw [← there]
  exact retained

/-- What may be removed is not the pinned run. -/
theorem KnowsPinned.other (knows : KnowsPinned id runs) {stored : StoredRun}
    (member : stored ∈ runs) (unretained : stored.run.retained = false) :
    stored.name ≠ runFile id := by
  intro same
  rw [knows stored member same] at unretained
  cases unretained

theorem oldestCandidate_mem {oldest : StoredRun} (first : oldestCandidate runs = some oldest) :
    oldest ∈ runs ∧ oldest.run.retained = false := by
  have member := List.mem_of_mem_head? first
  rw [List.mem_insertionSort, List.mem_filter, Bool.not_eq_true'] at member
  exact member

variable (recorder : Recorder)

theorem makeRoom_spares (required rounds : ℕ) :
    Spares codec id harm (fun _ => True) (recorder.makeRoom env codec required rounds)
      fun _ _ => True := by
  have bytes : Spares codec id harm (fun _ => True) (directoryBytes env codec) fun _ _ => True :=
    inspect_spares fun _ _ _ _ _ => trivial
  induction rounds with
  | zero => exact bytes.bind fun _ => Spares.pure _
  | succ rounds ih =>
      apply bytes.bind
      intro total
      split
      · exact Spares.pure true
      · apply storedRuns_spares.bind
        intro runs
        cases first : oldestCandidate runs with
        | none => exact (Spares.pure false).mono (fun _ _ => trivial) fun _ _ _ => trivial
        | some oldest =>
            obtain ⟨member, unretained⟩ := oldestCandidate_mem first
            have removed : Spares codec id harm (fun _ => KnowsPinned id runs)
                (removeAndSync env .eviction .diagnostics oldest.name) fun _ _ => True :=
              (removeAndSync_spares fun _ knows _ => knows.other member unretained).mono
                (fun _ knows => knows) fun _ _ _ => trivial
            exact removed.bind fun _ => ih

theorem rounds_spares : Spares codec id harm (fun _ => True) (Recorder.rounds (γ := γ))
    fun _ _ => True :=
  Spares.reads _

theorem publishHealthLocked_spares (publication : Publication) :
    Spares codec id harm (fun _ => True) (publishHealthLocked env codec publication)
      fun _ _ => True :=
  atomicWrite_spares fun _ _ root => (by cases root)

theorem enforceByteCapLocked_spares :
    Spares codec id harm (fun _ => True) (recorder.enforceByteCapLocked env codec)
      fun _ _ => True := by
  apply rounds_spares.bind
  intro rounds
  apply (makeRoom_spares recorder 0 rounds).bind
  intro fits
  cases fits with
  | true => exact Spares.pure ()
  | false => exact publishHealthLocked_spares _

theorem removeOldest_spares {success : Bool} (keep : ℕ) :
    Spares codec id harm (fun _ => KnowsPinned id runs)
      (removeOldest env (expendable success runs) keep) fun _ _ => KnowsPinned id runs := by
  apply Spares.forM
  intro stored member
  obtain ⟨there, unretained, -⟩ := mem_expendable.mp (List.mem_of_mem_take member)
  exact removeAndSync_spares fun _ knows _ => knows.other there unretained

theorem enforceRetentionLocked_spares :
    Spares codec id harm (fun _ => True) (recorder.enforceRetentionLocked env codec)
      fun _ _ => True := by
  apply storedRuns_spares.bind
  intro runs
  apply (removeOldest_spares _).bind
  intro _
  apply (removeOldest_spares _).bind
  intro _
  exact (enforceByteCapLocked_spares recorder).mono (fun _ _ => trivial) fun _ _ _ => trivial

/-! ## Publications and commands -/

theorem publishInner_spares (valid : validRunId id = true) (recorder : Recorder)
    (flagged : harm .publication = false → run.runId = id → run.retained = true) :
    Spares codec id harm (fun _ => True) (recorder.publishInner env codec run) fun _ _ => True := by
  have capacity : Spares codec id harm (fun _ => True)
      (recorder.ensureCapacityLocked env codec (codec.size (codec.encode run))) fun _ _ => True :=
    rounds_spares.bind fun _ => makeRoom_spares recorder _ _
  have written : Spares codec id harm (fun _ => True)
      (atomicWrite env codec.empty .publication .diagnostics (runFile run.runId)
        (codec.encode run)) fun _ _ => True :=
    atomicWrite_spares fun harmless _ _ same =>
      ⟨run, codec.decode_encode run, flagged harmless (runFile_injective same)⟩
  apply (openStore_spares valid).bind
  intro _
  apply capacity.bind
  intro fits
  cases fits with
  | true =>
      exact written.bind fun _ => (enforceRetentionLocked_spares recorder).bind fun _ =>
        check_spares.bind fun _ => Spares.pure _
  | false =>
      exact (publishHealthLocked_spares _).bind fun _ =>
        check_spares.bind fun _ => Spares.pure _

theorem publishHealthBestEffort_spares
    (publication : Publication) :
    Spares codec id harm (fun _ => True)
      (Recorder.publishHealthBestEffort env codec publication) fun _ _ => True := by
  apply Spares.catching
  · exact check_spares.bind fun _ => (publishHealthLocked_spares publication).bind fun _ =>
      check_spares.bind fun _ => Spares.pure true
  · exact fun _ => Spares.pure false

theorem publish_spares (valid : validRunId id = true) (recorder : Recorder)
    (flagged : harm .publication = false → run.runId = id → run.retained = true) :
    Spares codec id harm (fun _ => True) (recorder.publish env codec run) fun _ _ => True := by
  have looked : Spares codec id harm (fun _ => True)
      (Recorder.runFileIsStored env run.runId) fun _ _ => True :=
    Spares.catching (inspect_spares fun _ _ _ _ _ => trivial) fun _ => Spares.pure false
  unfold Recorder.publish
  split
  · exact Spares.pure _
  · apply Spares.catching (publishInner_spares valid recorder flagged)
    intro _
    apply looked.bind
    intro stored
    apply (publishHealthBestEffort_spares _).bind
    intro recorded
    split
    · exact Spares.pure _
    · exact Spares.pure _

theorem resolvedRunPath_spares (other : Text) :
    Spares codec id harm (fun _ => True) (resolvedRunPath env other) fun name _ =>
      name = runFile other := by
  unfold resolvedRunPath
  split
  · exact check_spares.bind fun _ => Spares.returns _ fun _ _ => rfl
  · exact Spares.fail

theorem setRetained_spares {other : Text} {retained : Bool}
    (flagged : harm .flag = false → other = id → retained = true) :
    Spares codec id harm (fun _ => True) (setRetained env codec other retained)
      fun _ _ => True := by
  apply (resolvedRunPath_spares other).bind
  intro name
  have contents : Spares codec id harm (fun _ => name = runFile other)
      (readFile env .diagnostics name) fun _ _ => name = runFile other :=
    inspect_spares fun _ _ _ knows _ => knows
  apply contents.bind
  intro contents
  cases codec.decode contents with
  | none => exact Spares.fail
  | some run =>
      have written : Spares codec id harm (fun _ => name = runFile other)
          (atomicWrite env codec.empty .flag .diagnostics name
            (codec.encode { run with retained := retained })) fun _ _ => name = runFile other := by
        apply atomicWrite_spares
        rintro harmless rfl - same
        exact ⟨_, codec.decode_encode _, flagged harmless (runFile_injective same)⟩
      exact written.bind fun _ => Spares.returns _ fun _ _ => trivial

theorem deleteRun_spares {other : Text}
    (differs : harm .deletion = false → other ≠ id) :
    Spares codec id harm (fun _ => True) (deleteRun env other) fun _ _ => True := by
  apply (resolvedRunPath_spares other).bind
  intro name
  have removed : Spares codec id harm (fun _ => name = runFile other)
      (removeAndSync env .deletion .diagnostics name) fun _ _ => name = runFile other :=
    removeAndSync_spares fun harmless knows _ same =>
      differs harmless (runFile_injective (knows.symm.trans same))
  exact removed.bind fun _ => Spares.returns _ fun _ _ => trivial

end Spares

/-! ## A retained run is pinned -/

theorem atomicWrite_lookup {empty : γ} {purpose : Purpose} {place : Place} {contents : γ} :
    Yields (fun _ => True) (atomicWrite env empty purpose place name contents)
      fun _ store => (store.directory place).lookup name = some contents := by
  constructor
  intro s _ a ended
  rw [atomicWrite_yields.success s rfl a ended, Finmap.lookup_insert]

theorem setRetained_pins (id : Text) :
    Yields (fun _ => True) (setRetained env codec id true) fun _ store =>
      validRunId id = true ∧ Pinned codec id store := by
  have resolved : Yields (fun _ => True) (resolvedRunPath env id) fun name _ =>
      validRunId id = true ∧ name = runFile id := by
    unfold resolvedRunPath
    split
    · rename_i valid
      exact check_yields.bind fun _ =>
        (Yields.pure _).mono (fun _ holds => holds) fun _ _ holds => ⟨valid, holds.1⟩
    · exact ⟨fun s _ a ended => absurd ended (fails_fail _ s a)⟩
  apply resolved.bind
  intro name
  have read : Yields (fun _ => validRunId id = true ∧ name = runFile id)
      (readFile env .diagnostics name) fun _ _ => validRunId id = true ∧ name = runFile id :=
    inspect_yields.mono (fun _ holds => holds) fun _ _ holds => holds.1
  apply read.bind
  intro contents
  cases codec.decode contents with
  | none => exact ⟨fun s _ a ended => absurd ended (fails_fail _ s a)⟩
  | some run =>
      have written : Yields (fun _ => validRunId id = true ∧ name = runFile id)
          (atomicWrite env codec.empty .flag .diagnostics name
            (codec.encode { run with retained := true })) fun _ store =>
              validRunId id = true ∧ Pinned codec id store := by
        constructor
        rintro s ⟨valid, rfl⟩ a ended
        exact ⟨valid, _, _, atomicWrite_lookup.success s trivial a ended,
          codec.decode_encode _, rfl⟩
      exact written.bind fun _ => (Yields.pure _).mono (fun _ holds => holds)
        fun _ _ holds => holds.2

theorem runDiagnosticsCommand_pins (recorder : Recorder) (id : Text) :
    Yields (fun _ => True) (runDiagnosticsCommand recorder env codec (.retain id)) fun _ store =>
      validRunId id = true ∧ Pinned codec id store := by
  have opened : Yields (fun _ => True) (Recorder.openStore env codec) fun _ _ => True :=
    ⟨fun _ _ _ _ => trivial⟩
  exact opened.bind fun _ => (setRetained_pins id).bind fun _ => check_yields.bind fun _ =>
    (Yields.pure _).mono (fun _ holds => holds) fun _ _ holds => holds.2

/-! ## Processes that share a store -/

inductive StoreOperation
  | publish (recorder : Recorder) (run : DiagnosticRun)
  | publishHealth (publication : Publication)
  | beginLiveRun (runId : Text)
  | endLiveRun (runId : Text)
  | command (recorder : Recorder) (command : DiagnosticsCommand)
  deriving DecidableEq

namespace StoreOperation

def perform (env : Environment γ) (codec : Codec γ) : StoreOperation → Io γ Unit
  | .publish recorder run => do
      let _ ← recorder.publish env codec run
  | .publishHealth publication => do
      let _ ← Recorder.publishHealthBestEffort env codec publication
  | .beginLiveRun runId => Recorder.beginLiveRun env codec runId
  | .endLiveRun runId => Recorder.endLiveRun env runId
  | .command recorder issued => do
      let _ ← runDiagnosticsCommand recorder env codec issued

/-- The commands that take the pin away when they succeed. -/
def releases : StoreOperation → Text → Bool
  | .command _ (.unretain released), id => released = id
  | .command _ (.delete released), id => released = id
  | _, _ => false

/-- The pinned runs after a success. -/
def repin (operation : StoreOperation) (pins : List Text) : List Text :=
  match operation with
  | .command _ (.retain id) => id :: pins
  | _ => pins.filter fun id => !operation.releases id

/-- The updates by which an operation takes the flag or the file of a run. -/
def harms : StoreOperation → Text → Purpose → Bool
  | .publish _ run, id, .publication => run.runId = id && !run.retained
  | .command _ (.unretain released), id, .flag => released = id
  | .command _ (.delete released), id, .deletion => released = id
  | _, _, _ => false

end StoreOperation

/-- One operation of some process. It may die after any of its updates. -/
structure RecorderLabel (γ : Type) where
  environment : Environment γ
  runCounter : UInt64
  operation : StoreOperation
  lost : Option ℕ

/-- The store, with the runs for which a Retain has succeeded last. -/
structure PinnedStore (γ : Type) where
  store : Store γ
  pins : List Text

namespace PinnedStore

def session (self : PinnedStore γ) (label : RecorderLabel γ) : Session γ :=
  ⟨self.store, label.runCounter, 0, []⟩

def left (codec : Codec γ) (self : PinnedStore γ) (label : RecorderLabel γ) :
    Option (Session γ) :=
  (label.operation.perform label.environment codec).upTo (self.session label) label.lost

/-- The operation came to its end and returned no error. -/
def succeeded (codec : Codec γ) (self : PinnedStore γ) (label : RecorderLabel γ) : Bool :=
  label.lost.isNone &&
    ((label.operation.perform label.environment codec).run (self.session label)).result.isOk

def step (codec : Codec γ) (self : PinnedStore γ) (label : RecorderLabel γ) :
    Option (PinnedStore γ) :=
  (self.left codec label).map fun session =>
    { store := session.store
      pins := if self.succeeded codec label then label.operation.repin self.pins else self.pins }

/-- No run is pinned before the first Retain. -/
def machine (codec : Codec γ) : StepSystem (PinnedStore γ) (RecorderLabel γ) where
  Initial self := self.pins = []
  step := step codec

def PinsHold (codec : Codec γ) (self : PinnedStore γ) : Prop :=
  ∀ id ∈ self.pins, Pinned codec id self.store

/-- No publication writes a record without the flag over a pinned run, and a command
that has taken a pin away comes to its end. -/
def Considerate (codec : Codec γ) (self : PinnedStore γ) (label : RecorderLabel γ) : Prop :=
  ∀ id ∈ self.pins, ∀ session ∈ self.left codec label,
    session.done.any (label.operation.harms id) = true →
      label.operation.releases id = true ∧ self.succeeded codec label = true

end PinnedStore

/-! ## Every operation -/

theorem beginLiveRun_spares {harm : Purpose → Bool} (valid : validRunId id = true)
    (runId : Text) :
    Spares codec id harm (fun _ => True) (Recorder.beginLiveRun env codec runId)
      fun _ _ => True := by
  unfold Recorder.beginLiveRun
  split
  · have marked : Spares codec id harm (fun _ => True)
        (change env .marker .diagnostics fun directory =>
          .ok (if liveMarker runId ∈ directory then directory
            else directory.insert (liveMarker runId) codec.empty)) fun _ _ => True := by
      apply change_spares
      rintro - store directory pinned - made
      cases made
      refine ⟨?_, trivial⟩
      split
      · exact pinned
      · exact PinnedIn.insert_ne pinned (runFile_ne_liveMarker valid runId).symm _
    exact marked.bind fun _ => check_spares
  · exact Spares.fail

theorem endLiveRun_spares {harm : Purpose → Bool} (valid : validRunId id = true) (runId : Text) :
    Spares codec id harm (fun _ => True) (Recorder.endLiveRun env runId) fun _ _ => True := by
  unfold Recorder.endLiveRun
  split
  · have unmarked : Spares codec id harm (fun _ => True)
        (change env .marker .diagnostics fun directory =>
          .ok (directory.erase (liveMarker runId))) fun _ _ => True := by
      apply change_spares
      rintro - store directory pinned - made
      cases made
      exact ⟨PinnedIn.erase_ne pinned (runFile_ne_liveMarker valid runId).symm, trivial⟩
    exact unmarked.bind fun _ => check_spares
  · exact Spares.fail

theorem runCommand_spares (recorder : Recorder) (command : DiagnosticsCommand) :
    Spares codec id ((StoreOperation.command recorder command).harms id) (fun _ => True)
      (runCommand recorder env codec command) fun _ _ => True := by
  cases command with
  | list =>
      have listed : Spares codec id ((StoreOperation.command recorder .list).harms id)
          (fun _ => True) (listRuns env codec) fun _ _ => True :=
        inspect_spares fun _ _ _ _ _ => trivial
      exact listed
  | retain other => exact setRetained_spares fun _ _ => rfl
  | unretain other =>
      have unset : Spares codec id
          ((StoreOperation.command recorder (.unretain other)).harms id) (fun _ => True)
          (setRetained env codec other false) fun _ _ => True := by
        apply setRetained_spares
        intro harmless same
        simp [StoreOperation.harms, same] at harmless
      exact unset.bind fun updated => (enforceRetentionLocked_spares recorder).bind fun _ =>
        Spares.pure updated
  | delete other =>
      apply deleteRun_spares
      intro harmless same
      simp [StoreOperation.harms, same] at harmless

theorem perform_spares (valid : validRunId id = true) (operation : StoreOperation) :
    Spares codec id (operation.harms id) (fun _ => True) (operation.perform env codec)
      fun _ _ => True := by
  cases operation with
  | publish recorder run =>
      refine (publish_spares valid recorder fun harmless same => ?_).bind fun _ => Spares.pure ()
      simp only [StoreOperation.harms, same, decide_true, Bool.true_and, Bool.not_eq_false']
        at harmless
      exact harmless
  | publishHealth publication =>
      exact (publishHealthBestEffort_spares publication).bind fun _ => Spares.pure ()
  | beginLiveRun runId => exact beginLiveRun_spares valid runId
  | endLiveRun runId => exact endLiveRun_spares valid runId
  | command recorder command =>
      have ran : Spares codec id ((StoreOperation.command recorder command).harms id)
          (fun _ => True) (runDiagnosticsCommand recorder env codec command) fun _ _ => True :=
        (openStore_spares valid).bind fun _ => (runCommand_spares recorder command).bind
          fun answer => check_spares.bind fun _ => Spares.pure answer
      exact ran.bind fun _ => Spares.pure ()

namespace PinnedStore

variable {self after : PinnedStore γ} {label : RecorderLabel γ}

/-- An operation spares a pinned run unless it makes an update that harms it. -/
theorem pinned_left (valid : validRunId id = true) (pinned : Pinned codec id self.store)
    {session : Session γ} (left : self.left codec label = some session)
    (harmless : session.done.any (label.operation.harms id) = false) :
    Pinned codec id session.store := by
  have spares : Spares codec id (label.operation.harms id) (fun _ => True)
      (label.operation.perform label.environment codec) fun _ _ => True :=
    perform_spares valid label.operation
  have spared := Keeps.upTo spares (Or.inr ⟨pinned, trivial⟩) left
  rcases spared with harmed | ⟨still, -⟩
  · rw [harmless] at harmed
    cases harmed
  · exact still

theorem mem_repin {operation : StoreOperation} {pins : List Text}
    (repinned : id ∈ operation.repin pins) :
    (id ∈ pins ∧ operation.releases id = false) ∨
      ∃ recorder, operation = .command recorder (.retain id) := by
  unfold StoreOperation.repin at repinned
  split at repinned
  · rename_i recorder retained
    rcases List.mem_cons.mp repinned with same | earlier
    · subst same
      exact Or.inr ⟨recorder, rfl⟩
    · exact Or.inl ⟨earlier, rfl⟩
  · obtain ⟨pinned, kept⟩ := List.mem_filter.mp repinned
    exact Or.inl ⟨pinned, by simpa using kept⟩

/-- A Retain that has succeeded pins its run. -/
theorem retained_left {recorder : Recorder}
    (retain : label.operation = .command recorder (.retain id))
    (succeeded : self.succeeded codec label = true) {session : Session γ}
    (left : self.left codec label = some session) :
    validRunId id = true ∧ Pinned codec id session.store := by
  simp only [PinnedStore.succeeded, Bool.and_eq_true, Option.isNone_iff_eq_none] at succeeded
  obtain ⟨whole, ended⟩ := succeeded
  simp only [PinnedStore.left, whole, Durable.upTo, Option.some.injEq] at left
  rw [← left]
  rw [retain] at ended ⊢
  have yields : Yields (fun _ => True)
      ((StoreOperation.command recorder (.retain id)).perform label.environment codec)
      fun _ store => validRunId id = true ∧ Pinned codec id store :=
    (runDiagnosticsCommand_pins recorder id).bind fun _ =>
      (Yields.pure ()).mono (fun _ holds => holds) fun _ _ holds => holds.2
  cases result : (((StoreOperation.command recorder (.retain id)).perform label.environment
      codec).run (self.session label)).result with
  | error e =>
      rw [result] at ended
      cases ended
  | ok value => exact yields.success _ trivial value result

/-- What is pinned is stored, under a valid id. -/
def Kept (codec : Codec γ) (self : PinnedStore γ) : Prop :=
  ∀ id ∈ self.pins, validRunId id = true ∧ Pinned codec id self.store

theorem Kept.step (kept : self.Kept codec) (considerate : self.Considerate codec label)
    (moved : self.step codec label = some after) : after.Kept codec := by
  obtain ⟨session, left, rfl⟩ := Option.map_eq_some_iff.mp moved
  have still : ∀ id ∈ self.pins,
      (label.operation.releases id = true ∧ self.succeeded codec label = true → False) →
        validRunId id = true ∧ Pinned codec id session.store := by
    intro id pinned unreleased
    obtain ⟨valid, stored⟩ := kept id pinned
    refine ⟨valid, pinned_left valid stored left (Bool.eq_false_iff.mpr fun harmed => ?_)⟩
    exact unreleased (considerate id pinned session left harmed)
  intro id pinned
  cases succeeded : self.succeeded codec label with
  | false =>
      simp only [succeeded, Bool.false_eq_true, if_false] at pinned
      exact still id pinned fun released => by
        rw [succeeded] at released
        exact Bool.noConfusion released.2
  | true =>
      simp only [succeeded, if_true] at pinned
      rcases mem_repin pinned with ⟨earlier, unreleased⟩ | ⟨recorder, retain⟩
      · exact still id earlier fun released => by
          rw [unreleased] at released
          exact Bool.noConfusion released.1
      · exact retained_left retain succeeded left

/-- **Pinned runs survive.** In a run of considerate operations, by any processes and
with any failures, every run for which a Retain has succeeded is stored with its flag
until an Unretain or a Delete of it succeeds. -/
theorem pinsHold_throughout {past : List (PinnedStore γ × RecorderLabel γ)}
    (run : (machine codec).Run past self)
    (considerate : StepSystem.Guarded (Considerate codec) past) :
    StepSystem.Throughout (PinsHold codec) past self := by
  apply run.throughout_of_guarded (I := Kept codec) _ _ _ considerate
  · intro start empty id pinned
    rw [show start.pins = [] from empty] at pinned
    cases pinned
  · exact fun self label after kept considerate moved => kept.step considerate moved
  · exact fun self kept id pinned => (kept id pinned).2

/-! ## A run that is published twice -/

def quietly (operation : StoreOperation) : RecorderLabel PlainFile :=
  ⟨quietEnvironment, 0, operation, none⟩

/-- A run in progress, with the process that owns it. -/
def runInProgress : DiagnosticRun :=
  { plainRun ['a'] 1 with
    outcome := .error
    completeness := .partialRun
    terminal := false
    owner := some ⟨4711, 1⟩ }

/-- A run in progress is published and pinned, then another run is published. -/
def pinAndPublish : List (RecorderLabel PlainFile) :=
  [quietly (.publish defaultRecorder runInProgress),
    quietly (.command defaultRecorder (.retain ['a'])),
    quietly (.publish defaultRecorder (plainRun ['b'] 2))]

def emptyStore : PinnedStore PlainFile := ⟨⟨∅, ∅⟩, []⟩

instance (label : RecorderLabel PlainFile) (self : PinnedStore PlainFile) :
    Decidable (self.Considerate plainCodec label) := by
  unfold Considerate
  infer_instance

theorem pinsHold_throughout_pinned :
    ∃ past self, (machine plainCodec).Run past self ∧
      StepSystem.Throughout (PinsHold plainCodec) past self ∧ self.pins = [['a']] := by
  have ran : ((machine plainCodec).execute emptyStore pinAndPublish).map PinnedStore.pins =
      some [['a']] := by
    decide +kernel
  have along : (machine plainCodec).Along (Considerate plainCodec) emptyStore pinAndPublish := by
    decide +kernel
  obtain ⟨past, self, run, considerate, pins⟩ := StepSystem.exists_guarded_of_map along ran rfl
  exact ⟨past, self, run, pinsHold_throughout run considerate, pins⟩

/-- The terminal record of the pinned run is published, and the flag is gone. -/
theorem pin_lost_by_publication :
    ∃ self, (machine plainCodec).Reachable self ∧ self.pins = [['a']] ∧
      ¬self.PinsHold plainCodec := by
  have ran : ((machine plainCodec).execute emptyStore
      (pinAndPublish ++ [quietly (.publish defaultRecorder (plainRun ['a'] 1))])).map
        (fun self => (self.pins, self.store.diagnostics.lookup (runFile ['a']))) =
      some ([['a']], some (.run (plainRun ['a'] 1))) := by
    decide +kernel
  obtain ⟨self, reachable, found⟩ := StepSystem.exists_reachable_of_map ran rfl
  obtain ⟨pins, stored⟩ := Prod.mk.inj found
  refine ⟨self, reachable, pins, fun hold => ?_⟩
  obtain ⟨contents, run, there, decoded, retained⟩ := hold ['a'] (by rw [pins]; simp)
  rw [stored, Option.some.injEq] at there
  subst there
  cases decoded
  cases retained

end PinnedStore

end Deskkin.Diagnostics
