/-
# What the recovery makes of a directory

One pass looks at every file of a run. A run that is not over and that nobody shows to be
alive is closed, and the marker that was found for it is removed; everything else stays.
The turn of one file decides nothing about another, since a marker that counts is locked
and a locked marker is never removed. A file that is called like the marker of a run in
progress is that run's marker first and a run second.
-/

import Deskkin.Recorder.TruthfulPublication

namespace Deskkin.Diagnostics

open Durable

variable {γ : Type} {env : Environment γ} {codec : Codec γ}

/-- Nobody shows that the process of the run is alive: it is closed by the operation that
finds it in the directory. -/
def Abandoned (env : Environment γ) (directory : Directory γ) (run : DiagnosticRun) : Prop :=
  run.terminal = false ∧ run.owner.any env.ownerIsLive = false ∧
    ¬(run.owner = none ∧ liveMarker run.runId ∈ directory ∧
      env.markerLocked (liveMarker run.runId) = true)

instance (env : Environment γ) (directory : Directory γ) (run : DiagnosticRun) :
    Decidable (Abandoned env directory run) := by
  unfold Abandoned
  infer_instance

/-- No run in progress takes the file for its marker. -/
def Unmarked (codec : Codec γ) (directory : Directory γ) (name : Text) : Prop :=
  ∀ other run, isJson other = true → (directory.lookup other).bind codec.decode = some run →
    run.terminal = false → run.owner = none → name ≠ liveMarker run.runId

/-! ## The turn of one file -/

/-- A turn closes the run of the file if it is abandoned, and does nothing else. -/
theorem withRecovered_cases (directory : Directory γ) (name : Text) :
    (withRecovered env codec directory name = directory ∧
        ∀ run, (directory.lookup name).bind codec.decode = some run →
          ¬Abandoned env directory run) ∨
      ∃ run, (directory.lookup name).bind codec.decode = some run ∧
        Abandoned env directory run ∧
        withRecovered env codec directory name =
          if run.owner = none ∧ liveMarker run.runId ∈ directory then
            (directory.insert name (codec.encode run.recovered)).erase (liveMarker run.runId)
          else directory.insert name (codec.encode run.recovered) := by
  rw [withRecovered]
  cases decoded : (directory.lookup name).bind codec.decode with
  | none => exact Or.inl ⟨rfl, fun run some => by cases some⟩
  | some run =>
      dsimp only
      by_cases ended : (run.terminal || run.owner.any env.ownerIsLive) = true
      · rw [if_pos ended]
        refine Or.inl ⟨rfl, fun other same abandoned => ?_⟩
        cases same
        rw [abandoned.1, abandoned.2.1] at ended
        cases ended
      · rw [if_neg ended]
        rw [Bool.not_eq_true, Bool.or_eq_false_iff] at ended
        have marked : (run.owner.isNone && decide (liveMarker run.runId ∈ directory)) = true ↔
            run.owner = none ∧ liveMarker run.runId ∈ directory := by
          rw [Bool.and_eq_true, Option.isNone_iff_eq_none, decide_eq_true_eq]
        by_cases held : (run.owner.isNone && decide (liveMarker run.runId ∈ directory) &&
            env.markerLocked (liveMarker run.runId)) = true
        · rw [if_pos held]
          rw [Bool.and_eq_true, marked] at held
          refine Or.inl ⟨rfl, fun other same abandoned => ?_⟩
          cases same
          exact abandoned.2.2 ⟨held.1.1, held.1.2, held.2⟩
        · rw [if_neg held]
          rw [Bool.and_eq_true, marked, and_assoc] at held
          refine Or.inr ⟨run, rfl, ⟨ended.1, ended.2, held⟩, ?_⟩
          exact if_congr marked rfl rfl

variable {directory : Directory γ} {name other : Text} {run : DiagnosticRun}

/-- A file that the turn leaves was there before, or is that of the run it closed. -/
theorem lookup_of_withRecovered {contents : γ}
    (there : (withRecovered env codec directory other).lookup name = some contents) :
    directory.lookup name = some contents ∨
      name = other ∧ name ∈ directory ∧ ∃ run : DiagnosticRun,
        contents = codec.encode run.recovered := by
  rcases @withRecovered_cases γ env codec directory other with
    ⟨same, -⟩ | ⟨run, found, -, closed⟩
  · rw [same] at there
    exact Or.inl there
  · have inserted : (directory.insert other (codec.encode run.recovered)).lookup name =
        some contents := by
      rw [closed] at there
      split at there
      · by_cases own : name = liveMarker run.runId
        · rw [own, Finmap.lookup_erase] at there
          cases there
        · rwa [Finmap.lookup_erase_ne own] at there
      · exact there
    by_cases same : name = other
    · subst same
      obtain ⟨before, stored, -⟩ := Option.bind_eq_some_iff.mp found
      rw [Finmap.lookup_insert, Option.some.injEq] at inserted
      exact Or.inr ⟨rfl, Finmap.mem_of_lookup_eq_some stored, run, inserted.symm⟩
    · rw [Finmap.lookup_insert_of_ne _ same] at inserted
      exact Or.inl inserted

theorem mem_of_withRecovered (there : name ∈ withRecovered env codec directory other) :
    name ∈ directory := by
  obtain ⟨contents, stored⟩ := Finmap.mem_iff.mp there
  rcases lookup_of_withRecovered stored with before | ⟨-, before, -⟩
  · exact Finmap.mem_of_lookup_eq_some before
  · exact before

/-- No turn leaves a run in progress that was not there. -/
theorem decoded_of_withRecovered
    (found : ((withRecovered env codec directory other).lookup name).bind codec.decode = some run)
    (unfinished : run.terminal = false) : (directory.lookup name).bind codec.decode = some run := by
  obtain ⟨contents, stored, decoded⟩ := Option.bind_eq_some_iff.mp found
  rcases lookup_of_withRecovered stored with before | ⟨-, -, old, rfl⟩
  · rw [before, Option.bind_some, decoded]
  · rw [codec.decode_encode, Option.some.injEq] at decoded
    rw [← decoded] at unfinished
    cases unfinished

/-- A marker that somebody holds stays where it is. -/
theorem mem_withRecovered {marker other : Text} (locked : env.markerLocked marker = true) :
    marker ∈ withRecovered env codec directory other ↔ marker ∈ directory := by
  refine ⟨mem_of_withRecovered, fun there => ?_⟩
  rcases @withRecovered_cases γ env codec directory other with
    ⟨same, -⟩ | ⟨run, -, abandoned, closed⟩
  · rwa [same]
  · rw [closed]
    have inserted : marker ∈ directory.insert other (codec.encode run.recovered) :=
      Finmap.mem_insert.mpr (Or.inr there)
    split
    · rename_i marked
      rw [Finmap.mem_erase]
      refine ⟨?_, inserted⟩
      rintro rfl
      exact abandoned.2.2 ⟨marked.1, marked.2, locked⟩
    · exact inserted

theorem abandoned_withRecovered {other : Text} :
    Abandoned env (withRecovered env codec directory other) run ↔ Abandoned env directory run := by
  have held : (run.owner = none ∧ liveMarker run.runId ∈ withRecovered env codec directory other ∧
        env.markerLocked (liveMarker run.runId) = true) ↔
      (run.owner = none ∧ liveMarker run.runId ∈ directory ∧
        env.markerLocked (liveMarker run.runId) = true) :=
    and_congr_right fun _ => and_congr_left fun locked => mem_withRecovered locked
  rw [Abandoned, Abandoned, held]

theorem Unmarked.withRecovered (unmarked : Unmarked codec directory name) :
    Unmarked codec (withRecovered env codec directory other) name :=
  fun file run json found unfinished =>
    unmarked file run json (decoded_of_withRecovered found unfinished) unfinished

/-- What a file holds once its turn is over. -/
def recoveredContents (env : Environment γ) (codec : Codec γ) (directory : Directory γ)
    (contents : γ) : γ :=
  match codec.decode contents with
  | none => contents
  | some run => if Abandoned env directory run then codec.encode run.recovered else contents

theorem recoveredContents_withRecovered {other : Text} :
    recoveredContents env codec (withRecovered env codec directory other) =
      recoveredContents env codec directory := by
  funext contents
  unfold recoveredContents
  cases codec.decode contents with
  | none => rfl
  | some run => simp only [abandoned_withRecovered]

theorem lookup_withRecovered {directory : Directory γ} {name other : Text}
    (unmarked : Unmarked codec directory name) (json : isJson other = true) :
    (withRecovered env codec directory other).lookup name =
      if name = other then (directory.lookup name).map (recoveredContents env codec directory)
      else directory.lookup name := by
  rcases @withRecovered_cases γ env codec directory other with
    ⟨same, alive⟩ | ⟨run, found, abandoned, closed⟩
  · rw [same]
    split
    · rename_i own
      subst own
      cases stored : directory.lookup name with
      | none => rfl
      | some contents =>
          rw [Option.map_some, recoveredContents]
          cases decoded : codec.decode contents with
          | none => rfl
          | some run =>
              rw [stored, Option.bind_some, decoded] at alive
              dsimp only
              rw [if_neg (alive run rfl)]
    · rfl
  · have left : (withRecovered env codec directory other).lookup name =
        (directory.insert other (codec.encode run.recovered)).lookup name := by
      rw [closed]
      split
      · rename_i marked
        exact Finmap.lookup_erase_ne (unmarked other run json found abandoned.1 marked.1)
      · rfl
    rw [left]
    split
    · rename_i own
      subst own
      obtain ⟨contents, stored, decoded⟩ := Option.bind_eq_some_iff.mp found
      rw [Finmap.lookup_insert, stored, Option.map_some, recoveredContents, decoded]
      dsimp only
      rw [if_pos abandoned]
    · rename_i ne
      exact Finmap.lookup_insert_of_ne _ ne

/-! ## The pass -/

/-- The directory after the pass. -/
def allRecovered (env : Environment γ) (codec : Codec γ) (directory : Directory γ) :
    Directory γ :=
  ((env.listing directory).filter isJson).foldl (withRecovered env codec) directory

theorem lookup_foldl_withRecovered {name : Text} {names : List Text}
    (unmarked : Unmarked codec directory name) (json : ∀ other ∈ names, isJson other = true)
    (nodup : names.Nodup) :
    (names.foldl (withRecovered env codec) directory).lookup name =
      if name ∈ names then (directory.lookup name).map (recoveredContents env codec directory)
      else directory.lookup name := by
  induction names generalizing directory with
  | nil => rfl
  | cons first rest ih =>
      rw [List.nodup_cons] at nodup
      have later := ih (@Unmarked.withRecovered γ env codec directory name first unmarked)
        (fun other member => json other (List.mem_cons_of_mem _ member)) nodup.2
      have turn := @lookup_withRecovered γ env codec directory name first unmarked
        (json first List.mem_cons_self)
      rw [List.foldl_cons, later, recoveredContents_withRecovered, turn]
      by_cases own : name = first
      · subst own
        rw [if_neg nodup.1, if_pos rfl, if_pos List.mem_cons_self]
      · rw [if_neg own]
        simp only [List.mem_cons, own, false_or]

/-- The pass does to a file what its own turn does. -/
theorem lookup_allRecovered {name : Text} (unmarked : Unmarked codec directory name) :
    (allRecovered env codec directory).lookup name =
      if isJson name then (directory.lookup name).map (recoveredContents env codec directory)
      else directory.lookup name := by
  rw [allRecovered, lookup_foldl_withRecovered unmarked
    (fun other member => (List.mem_filter.mp member).2)
    ((env.nodup_listing directory).filter isJson)]
  simp only [List.mem_filter, env.mem_listing]
  by_cases there : name ∈ directory
  · simp only [there, true_and]
  · rw [Finmap.lookup_eq_none.mpr there, Option.map_none, ite_self, ite_self]

/-- Nothing is left to recover. -/
def Settled (env : Environment γ) (codec : Codec γ) (directory : Directory γ)
    (name : Text) : Prop :=
  ∀ run, (directory.lookup name).bind codec.decode = some run → ¬Abandoned env directory run

theorem Settled.withRecovered (settled : Settled env codec directory name) :
    Settled env codec (withRecovered env codec directory other) name := by
  intro run found abandoned
  exact settled run (decoded_of_withRecovered found abandoned.1)
    (abandoned_withRecovered.mp abandoned)

/-- After its turn a file is settled, also when the turn removed it. -/
theorem settled_withRecovered (directory : Directory γ) (name : Text) :
    Settled env codec (withRecovered env codec directory name) name := by
  intro run found abandoned
  rcases @withRecovered_cases γ env codec directory name with
    ⟨same, alive⟩ | ⟨old, -, -, closed⟩
  · rw [same] at found abandoned
    exact alive run found abandoned
  · obtain ⟨contents, stored, decoded⟩ := Option.bind_eq_some_iff.mp found
    have inserted : (directory.insert name (codec.encode old.recovered)).lookup name =
        some contents := by
      rw [closed] at stored
      split at stored
      · by_cases own : name = liveMarker old.runId
        · rw [← own, Finmap.lookup_erase] at stored
          cases stored
        · rwa [Finmap.lookup_erase_ne own] at stored
      · exact stored
    rw [Finmap.lookup_insert, Option.some.injEq] at inserted
    rw [← inserted, codec.decode_encode, Option.some.injEq] at decoded
    have unfinished := abandoned.1
    rw [← decoded] at unfinished
    cases unfinished

theorem settled_foldl {names : List Text} {name : Text}
    (settled : Settled env codec directory name ∨ name ∈ names) :
    Settled env codec (names.foldl (withRecovered env codec) directory) name := by
  induction names generalizing directory with
  | nil => exact settled.resolve_right List.not_mem_nil
  | cons first rest ih =>
      rw [List.foldl_cons]
      apply ih
      rcases settled with settled | member
      · exact Or.inl settled.withRecovered
      · rcases List.mem_cons.mp member with rfl | later
        · exact Or.inl (settled_withRecovered directory name)
        · exact Or.inr later

theorem settled_allRecovered {name : Text} (json : isJson name = true) :
    Settled env codec (allRecovered env codec directory) name := by
  apply settled_foldl
  by_cases there : name ∈ directory
  · exact Or.inr (List.mem_filter.mpr ⟨(env.mem_listing _ _).mpr there, json⟩)
  · refine Or.inl fun run found => ?_
    rw [Finmap.lookup_eq_none.mpr there] at found
    cases found

/-! ## The calls -/

theorem recoverInProgressLocked_yields (directory : Directory γ) :
    Yields (fun store => store.diagnostics = directory) (recoverInProgressLocked env codec)
      fun _ store => store.diagnostics = allRecovered env codec directory := by
  apply inspect_bind_yields env.listing
  exact forM_yields _ recoverRun_yields _ _

/-- The turn of a settled file only reads. -/
theorem recoverRun_keeps {store : Store γ} {name : Text}
    (settled : Settled env codec store.diagnostics name) :
    Keeps (fun s : Session γ => s.store = store) (fun s => s.store = store)
      (recoverRun env codec name) fun _ s => s.store = store := by
  have unchanged : Keeps (fun s : Session γ => s.store = store) (fun s => s.store = store)
      (pure () : Io γ Unit) fun _ s => s.store = store :=
    Keeps.pure (fun _ same => same) fun _ same => same
  have read : Keeps (fun s : Session γ => s.store = store) (fun s => s.store = store)
      (readFile env .diagnostics name)
      fun contents s => store.diagnostics.lookup name = some contents ∧ s.store = store := by
    apply inspect_keeps (fun _ same => same)
    rintro s contents rfl there
    refine ⟨?_, rfl⟩
    dsimp only [Store.directory] at there
    split at there
    · cases there
    · rename_i stored
      cases there
      exact stored
  apply read.bind
  intro contents
  apply Keeps.assuming fun _ found => found.1
  intro stored
  apply Keeps.mono _ (fun _ found => found.2) fun _ _ same => same
  cases decoded : codec.decode contents with
  | none => exact unchanged
  | some run =>
      have alive := settled run (by rw [stored, Option.bind_some, decoded])
      dsimp only
      split
      · exact unchanged
      · rename_i ended
        rw [Bool.not_eq_true, Bool.or_eq_false_iff] at ended
        have held : run.owner = none ∧ liveMarker run.runId ∈ store.diagnostics ∧
            env.markerLocked (liveMarker run.runId) = true := by
          by_contra free
          exact alive ⟨ended.1, ended.2, free⟩
        have found : Keeps (fun s : Session γ => s.store = store) (fun s => s.store = store)
            (Durable.reads (fun s : Session γ =>
              run.owner.isNone && decide (liveMarker run.runId ∈ s.store.diagnostics)) : Io γ Bool)
            fun marked s => marked = true ∧ s.store = store := by
          apply Keeps.reads (fun _ same => same)
          rintro s rfl
          exact ⟨Bool.and_eq_true_iff.mpr ⟨Option.isNone_iff_eq_none.mpr held.1,
            decide_eq_true held.2.1⟩, rfl⟩
        apply found.bind
        intro marked
        apply Keeps.assuming fun _ there => there.1
        rintro rfl
        rw [openMarker, if_pos rfl, if_pos (by rw [held.2.2]; rfl)]
        apply @Keeps.bind _ _ _ _ _ _ _ _ _ fun _ s => s.store = store
        · exact inspect_keeps (fun _ same => same.2) fun _ _ same _ => same.2
        · exact fun _ => unchanged

/-- A pass over settled files changes nothing, whatever call fails. -/
theorem recoverInProgressLocked_keeps {store : Store γ}
    (settled : ∀ name, isJson name = true → Settled env codec store.diagnostics name) :
    Keeps (fun s : Session γ => s.store = store) (fun s => s.store = store)
      (recoverInProgressLocked env codec) fun _ s => s.store = store := by
  have listed : Keeps (fun s : Session γ => s.store = store) (fun s => s.store = store)
      (listingOf env .diagnostics) fun _ s => s.store = store :=
    inspect_keeps (fun _ same => same) fun _ _ same _ => same
  apply listed.bind
  intro names
  apply Keeps.forM (fun _ same => same)
  exact fun name member => recoverRun_keeps (settled name (List.mem_filter.mp member).2)

/-! ## What the pass leaves -/

/-- The process of the run is shown to be alive, by the owner that the run records or by
somebody who holds the marker of a run without one. -/
def ShownAlive (env : Environment γ) (directory : Directory γ) (run : DiagnosticRun) : Prop :=
  (∃ owner, run.owner = some owner ∧ env.ownerIsLive owner = true) ∨
    run.owner = none ∧ liveMarker run.runId ∈ directory ∧
      env.markerLocked (liveMarker run.runId) = true

theorem abandoned_iff :
    Abandoned env directory run ↔ run.terminal = false ∧ ¬ShownAlive env directory run := by
  rw [Abandoned, ShownAlive, not_or]
  cases run.owner with
  | none => simp
  | some owner => simp

/-- A record that was finished stays, one in progress ends in the crash. -/
def ClosedRecord (record left : SemanticRecord) : Prop :=
  if record.status = .inProgress then left.status = .error ∧ left.errorType = some .crash
  else left = record

/-- The run is over because of a crash. -/
structure ClosedRun (run left : DiagnosticRun) : Prop where
  terminal : left.terminal = true
  outcome : left.outcome = .error
  completeness : left.completeness = .partialRun
  missingReason : left.missingReason = some .crash
  runId : left.runId = run.runId
  retained : left.retained = run.retained
  records : List.Forall₂ ClosedRecord run.records left.records

theorem closedRecord_recovered (record : SemanticRecord) :
    ClosedRecord record record.recovered := by
  unfold ClosedRecord SemanticRecord.recovered
  split <;> simp

theorem closedRun_recovered (run : DiagnosticRun) : ClosedRun run run.recovered where
  terminal := rfl
  outcome := rfl
  completeness := rfl
  missingReason := rfl
  runId := rfl
  retained := rfl
  records := by
    rw [DiagnosticRun.recovered, List.forall₂_map_right_iff]
    exact List.forall₂_same.mpr fun record _ => closedRecord_recovered record

/-- Of the files that no run in progress takes for its marker, exactly the runs that are
not shown to be alive are closed, and all other files keep their bytes. -/
structure Recovers (env : Environment γ) (codec : Codec γ) (before after : Directory γ) :
    Prop where
  inProgress : ∀ name run, isJson name = true → Unmarked codec before name →
    (before.lookup name).bind codec.decode = some run →
      ((∃ left, (after.lookup name).bind codec.decode = some left ∧ left.terminal = false) ↔
        run.terminal = false ∧ ShownAlive env before run)
  closed : ∀ name run, isJson name = true → Unmarked codec before name →
    (before.lookup name).bind codec.decode = some run → run.terminal = false →
      ¬ShownAlive env before run →
        ∃ left, (after.lookup name).bind codec.decode = some left ∧ ClosedRun run left
  kept : ∀ name, Unmarked codec before name →
    (isJson name = true → ∀ run, (before.lookup name).bind codec.decode = some run →
      run.terminal = false → ShownAlive env before run) →
        after.lookup name = before.lookup name

theorem recovers_allRecovered (directory : Directory γ) :
    Recovers env codec directory (allRecovered env codec directory) := by
  have closed : ∀ {name run}, isJson name = true → Unmarked codec directory name →
      (directory.lookup name).bind codec.decode = some run → Abandoned env directory run →
        ((allRecovered env codec directory).lookup name).bind codec.decode =
          some run.recovered := by
    intro name run json unmarked found abandoned
    obtain ⟨contents, stored, decoded⟩ := Option.bind_eq_some_iff.mp found
    rw [lookup_allRecovered unmarked, if_pos json, stored, Option.map_some, Option.bind_some,
      recoveredContents, decoded]
    dsimp only
    rw [if_pos abandoned, codec.decode_encode]
  have kept : ∀ {name}, Unmarked codec directory name →
      (isJson name = true → ∀ run, (directory.lookup name).bind codec.decode = some run →
        run.terminal = false → ShownAlive env directory run) →
      (allRecovered env codec directory).lookup name = directory.lookup name := by
    intro name unmarked alive
    rw [lookup_allRecovered unmarked]
    split
    · rename_i json
      cases stored : directory.lookup name with
      | none => rfl
      | some contents =>
          rw [Option.map_some, recoveredContents]
          cases decoded : codec.decode contents with
          | none => rfl
          | some run =>
              have shown := alive json run (by rw [stored, Option.bind_some, decoded])
              dsimp only
              rw [if_neg]
              exact fun abandoned => (abandoned_iff.mp abandoned).2 (shown abandoned.1)
    · rfl
  refine ⟨fun name run json unmarked found => ?_, fun name run json unmarked found unfinished
    gone => ?_, fun name unmarked alive => kept unmarked alive⟩
  · by_cases abandoned : Abandoned env directory run
    · rw [closed json unmarked found abandoned]
      have shown : ¬(run.terminal = false ∧ ShownAlive env directory run) :=
        fun alive => (abandoned_iff.mp abandoned).2 alive.2
      simp [shown, DiagnosticRun.recovered]
    · have shown : run.terminal = false → ShownAlive env directory run := by
        intro unfinished
        by_contra gone
        exact abandoned (abandoned_iff.mpr ⟨unfinished, gone⟩)
      have same := kept unmarked fun _ other also unfinished => by
        rw [found, Option.some.injEq] at also
        subst also
        exact shown unfinished
      rw [same, found]
      constructor
      · rintro ⟨left, here, unfinished⟩
        cases here
        exact ⟨unfinished, shown unfinished⟩
      · exact fun alive => ⟨run, rfl, alive.1⟩
  · exact ⟨_, closed json unmarked found (abandoned_iff.mpr ⟨unfinished, gone⟩),
      closedRun_recovered run⟩

/-- **The recovery of a directory is exact.** A second one that judges alike changes
nothing. -/
theorem recoverInProgressLocked_exact {session : Session γ}
    (returned : ((recoverInProgressLocked env codec).run session).result = .ok ()) :
    Recovers env codec session.store.diagnostics
        ((recoverInProgressLocked env codec).run session).final.store.diagnostics ∧
      ∀ (again : Environment γ) (next : Session γ), again.ownerIsLive = env.ownerIsLive →
        again.markerLocked = env.markerLocked →
        next.store = ((recoverInProgressLocked env codec).run session).final.store →
          ((recoverInProgressLocked again codec).run next).final.store = next.store := by
  have left := (recoverInProgressLocked_yields session.store.diagnostics).success session rfl ()
    returned
  refine ⟨left ▸ recovers_allRecovered session.store.diagnostics, ?_⟩
  intro again next owners markers same
  have settled : ∀ name, isJson name = true →
      Settled again codec next.store.diagnostics name := by
    intro name json run found abandoned
    rw [same, left] at found abandoned
    rw [Abandoned, owners, markers] at abandoned
    exact settled_allRecovered json run found abandoned
  have kept := recoverInProgressLocked_keeps settled
  cases ended : ((recoverInProgressLocked again codec).run next).result with
  | error e => exact kept.failure next rfl e ended
  | ok value => exact kept.success next rfl value ended

/-! ## A run that is the marker of another -/

/-- A run in progress without an owner. -/
def ownerlessRun (runId : Text) : DiagnosticRun :=
  { plainRun runId 1 with completeness := .partialRun, terminal := false }

/-- The first run in progress is called `a.json`, and a run that is over is stored in the
file of its marker. -/
def markedStore : Store PlainFile where
  root := ∅
  diagnostics := ((∅ : Directory PlainFile).insert (runFile ['b'])
    (.run (ownerlessRun (runFile ['a'])))).insert (liveMarker (runFile ['a']))
      (.run (plainRun ['o'] 2))

def recoverMarked : Durable.Outcome Purpose (Session PlainFile) IoError Unit :=
  (recoverInProgressLocked quietEnvironment plainCodec).run ⟨markedStore, 0, 0, []⟩

theorem recoverInProgressLocked_exact_closes :
    recoverMarked.result = .ok () ∧
      ∃ left, (recoverMarked.final.store.diagnostics.lookup (runFile ['b'])).bind
          plainCodec.decode = some left ∧
        ClosedRun (ownerlessRun (runFile ['a'])) left := by
  have returned : recoverMarked.result.toOption = some () := by
    decide +kernel
  cases ended : recoverMarked.result with
  | error e =>
      rw [ended] at returned
      cases returned
  | ok value =>
      refine ⟨rfl, (recoverInProgressLocked_exact ended).1.closed (runFile ['b']) _
        (by decide) ?_ (by decide) rfl ?_⟩
      · exact fun _ run _ _ _ _ => runFile_ne_liveMarker (by decide) run.runId
      · rw [ShownAlive]
        decide

/-- The run of the marker is over and its file is gone. -/
theorem recoverInProgressLocked_takes :
    recoverMarked.result.toOption = some () ∧
      isJson (liveMarker (runFile ['a'])) = true ∧
      markedStore.diagnostics.lookup (liveMarker (runFile ['a'])) =
        some (.run (plainRun ['o'] 2)) ∧
      (plainRun ['o'] 2).terminal = true ∧
      recoverMarked.final.store.diagnostics.lookup (liveMarker (runFile ['a'])) = none := by
  decide +kernel

end Deskkin.Diagnostics
