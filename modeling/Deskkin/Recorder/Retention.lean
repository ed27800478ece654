/-
# The discipline of retention

Runs are evicted for three reasons: a new run needs room, a class has more runs than
its limit, or the directory is over the byte cap. No eviction takes a run that is
retained or a file that is no run. The two byte loops take successful runs first and
older runs before younger ones, and they end, as each of their rounds but the last
takes a file. Once a publication has succeeded its limits hold.
-/

import Deskkin.Recorder.TruthfulPublication

namespace Deskkin.Diagnostics

open Durable

variable {γ : Type} {env : Environment γ} {codec : Codec γ}

/-! ## Updates of the store -/

/-- An eviction takes the file of a run that is not retained. -/
def EvictsRun (env : Environment γ) (codec : Codec γ) (purpose : Purpose)
    (before after : Store γ) : Prop :=
  purpose = .eviction → ∃ stored ∈ runsOf env codec before.diagnostics,
    stored.run.retained = false ∧ after.diagnostics = before.diagnostics.erase stored.name

/-- An eviction takes the run that has to go first, and nothing else changes the
directory of the runs. -/
def EvictsOldest (env : Environment γ) (codec : Codec γ) (purpose : Purpose)
    (before after : Store γ) : Prop :=
  if purpose = .eviction then
    ∃ oldest, oldestCandidate (runsOf env codec before.diagnostics) = some oldest ∧
      after.diagnostics = before.diagnostics.erase oldest.name
  else after.diagnostics = before.diagnostics

section Calls

variable {moves : Purpose → Store γ → Store γ → Prop} {before : Store γ → Prop} {α : Type}

theorem inspect_traces {f : Store γ → Except IoError α} :
    Traces Session.store moves before (inspect env f)
      fun a store => before store ∧ f store = .ok a := by
  constructor
  · exact fun s _ => .nil _
  · intro s holds a ended
    simp only [inspect] at ended
    split at ended
    · cases ended
    · exact ⟨holds, ended⟩

theorem check_traces : Traces Session.store moves before (check env) fun _ => before :=
  inspect_traces.mono (fun _ holds => holds) fun _ _ holds => holds.1

theorem nextSuffix_traces : Traces Session.store moves before nextSuffix fun _ => before :=
  ⟨fun _ _ => .nil _, fun _ holds _ _ => holds⟩

variable {f : Directory γ → Except IoError (Directory γ)} {purpose : Purpose} {place : Place}
  {after : Store γ → Prop} {name : Text}

theorem change_traces
    (allowed : ∀ store directory, before store → f (store.directory place) = .ok directory →
      moves purpose store (store.withDirectory place directory) ∧
        after (store.withDirectory place directory)) :
    Traces Session.store moves before (change env purpose place f) fun _ => after := by
  have step : ∀ s : Session γ, before s.store →
      (∃ e, (change env purpose place f).run s = ⟨.error e, s.called, []⟩) ∨
      ∃ t, moves purpose s.store t.store ∧ after t.store ∧
        (change env purpose place f).run s = ⟨.ok (), t, [(purpose, t)]⟩ := by
    intro s holds
    simp only [change]
    split
    · rename_i error _
      exact Or.inl ⟨error, rfl⟩
    · rename_i directory found
      split at found
      · cases found
      · obtain ⟨moved, reached⟩ := allowed s.store directory holds found
        exact Or.inr ⟨_, moved, reached, rfl⟩
  constructor
  · intro s holds
    rcases step s holds with ⟨e, ran⟩ | ⟨t, moved, -, ran⟩
    · rw [ran]
      exact .nil _
    · rw [ran]
      exact .cons moved (.nil _)
  · intro s holds a ended
    rcases step s holds with ⟨e, ran⟩ | ⟨t, -, reached, ran⟩
    · rw [ran] at ended
      cases ended
    · rw [ran]
      exact reached

/-- Every change for this purpose in this place is allowed. -/
def Free (moves : Purpose → Store γ → Store γ → Prop) (purpose : Purpose) (place : Place) : Prop :=
  ∀ store directory, moves purpose store (store.withDirectory place directory)

theorem change_free (free : Free moves purpose place) :
    Traces Session.store moves (fun _ => True) (change env purpose place f) fun _ _ => True :=
  change_traces fun store directory _ _ => ⟨free store directory, trivial⟩

theorem removeAndSync_free (free : Free moves purpose place) :
    Traces Session.store moves (fun _ => True) (removeAndSync env purpose place name)
      fun _ _ => True :=
  (change_free free).bind fun _ => check_traces

theorem atomicWrite_free {empty : γ} {contents : γ} (free : Free moves purpose place)
    (temporary : Free moves .temporary place) :
    Traces Session.store moves (fun _ => True)
      (atomicWrite env empty purpose place name contents) fun _ _ => True := by
  apply check_traces.bind
  intro _
  apply nextSuffix_traces.bind
  intro suffix
  apply Traces.catching
  · exact (change_free temporary).bind fun _ => (change_free temporary).bind fun _ =>
      check_traces.bind fun _ => (change_free free).bind fun _ => check_traces
  · intro error
    apply Traces.bind
    · apply (change_free temporary).catching
      intro _
      exact (Traces.pure ()).mono (fun _ holds => holds) fun _ _ _ => trivial
    · exact fun _ => Traces.fail error

theorem publishHealthLocked_free (publication : Publication) (free : Free moves .health .root)
    (temporary : Free moves .temporary .root) :
    Traces Session.store moves (fun _ => True) (publishHealthLocked env codec publication)
      fun _ _ => True :=
  atomicWrite_free free temporary

/-- The file of a run that is known to be there is taken. -/
theorem removeAndSync_traces (allowed : ∀ store, before store → name ∈ store.diagnostics →
      moves .eviction store { store with diagnostics  := store.diagnostics.erase name } ∧
        after { store with diagnostics := store.diagnostics.erase name }) :
    Traces Session.store moves before (removeAndSync env .eviction .diagnostics name)
      fun _ => after := by
  have removed : Traces Session.store moves before (removeFile env .eviction .diagnostics name)
      fun _ => after := by
    apply change_traces
    intro store directory holds made
    split at made
    · rename_i there
      cases made
      exact allowed store holds there
    · cases made
  exact removed.bind fun _ => check_traces

end Calls

/-! ## The byte loops -/

instance : IsTrans StoredRun goesBefore := ⟨by
  intro a b c first second
  unfold goesBefore at *
  rcases first with ⟨success, other⟩ | ⟨same, old⟩
  · rcases second with ⟨success', -⟩ | ⟨same', -⟩
    · exact absurd success' other
    · exact Or.inl ⟨success, fun late => other (same'.mpr late)⟩
  · rcases second with ⟨success, other⟩ | ⟨same', old'⟩
    · exact Or.inl ⟨same.mpr success, other⟩
    · exact Or.inr ⟨same.trans same', UInt64.le_trans old old'⟩⟩

instance : Std.Total goesBefore := ⟨by
  intro a b
  unfold goesBefore
  by_cases first : a.run.outcome = .success
  · by_cases second : b.run.outcome = .success
    · simpa [first, second] using UInt64.le_total _ _
    · exact Or.inl (Or.inl ⟨first, second⟩)
  · by_cases second : b.run.outcome = .success
    · exact Or.inr (Or.inl ⟨second, first⟩)
    · simpa [first, second] using UInt64.le_total _ _⟩

/-- The candidate goes before every other run that is not retained. -/
theorem oldestCandidate_first {runs : List StoredRun} {oldest : StoredRun}
    (first : oldestCandidate runs = some oldest) :
    oldest ∈ runs ∧ oldest.run.retained = false ∧
      ∀ other ∈ runs, other.run.retained = false → goesBefore oldest other := by
  have sorted : ((runs.filter fun stored => !stored.run.retained).insertionSort
      goesBefore).Pairwise goesBefore :=
    List.pairwise_insertionSort _ _
  have members : ∀ {stored}, stored ∈ (runs.filter fun stored =>
      !stored.run.retained).insertionSort goesBefore ↔
        stored ∈ runs ∧ stored.run.retained = false := by
    intro stored
    rw [List.mem_insertionSort, List.mem_filter, Bool.not_eq_true']
  rw [oldestCandidate] at first
  cases candidates : (runs.filter fun stored => !stored.run.retained).insertionSort goesBefore with
  | nil =>
      rw [candidates] at first
      cases first
  | cons head rest =>
      rw [candidates] at first sorted members
      cases first
      obtain ⟨least, -⟩ := List.pairwise_cons.mp sorted
      obtain ⟨there, unretained⟩ := members.mp List.mem_cons_self
      refine ⟨there, unretained, fun other listed free => ?_⟩
      rcases List.mem_cons.mp (members.mpr ⟨listed, free⟩) with rfl | later
      · exact Or.inr ⟨Iff.rfl, UInt64.le_refl _⟩
      · exact least other later

variable {before : Store γ → Prop}

theorem storedRuns_traces {moves : Purpose → Store γ → Store γ → Prop} :
    Traces Session.store moves before (storedRuns env codec)
      fun runs store => before store ∧ runs = runsOf env codec store.diagnostics :=
  inspect_traces.mono (fun _ holds => holds) fun runs store found => by
    obtain ⟨holds, read⟩ := found
    cases read
    exact ⟨holds, rfl⟩

theorem makeRoom_traces (recorder : Recorder) (required rounds : ℕ) :
    Traces Session.store (EvictsOldest env codec) (fun _ => True)
      (recorder.makeRoom env codec required rounds) fun _ _ => True := by
  have bytes : Traces Session.store (EvictsOldest env codec) (fun _ => True)
      (directoryBytes env codec) fun _ _ => True :=
    inspect_traces.mono (fun _ holds => holds) fun _ _ _ => trivial
  have returns : ∀ fits : Bool, Traces Session.store (EvictsOldest env codec) (fun _ => True)
      (pure fits : Io γ Bool) fun _ _ => True := fun fits =>
    (Traces.pure fits).mono (fun _ holds => holds) fun _ _ _ => trivial
  induction rounds with
  | zero => exact bytes.bind fun _ => returns _
  | succ rounds ih =>
      apply bytes.bind
      intro total
      split
      · exact returns true
      · apply storedRuns_traces.bind
        intro runs
        cases first : oldestCandidate runs with
        | none => exact (returns false).mono (fun _ _ => trivial) fun _ _ _ => trivial
        | some oldest =>
            have removed : Traces Session.store (EvictsOldest env codec)
                (fun store => True ∧ runs = runsOf env codec store.diagnostics)
                (removeAndSync env .eviction .diagnostics oldest.name) fun _ _ => True := by
              apply removeAndSync_traces
              rintro store ⟨-, rfl⟩ -
              exact ⟨⟨oldest, first, rfl⟩, trivial⟩
            exact removed.bind fun _ => ih

theorem rounds_traces {moves : Purpose → Store γ → Store γ → Prop} :
    Traces Session.store moves (fun _ => True) (Recorder.rounds (γ := γ)) fun _ _ => True :=
  (Traces.reads fun store : Store γ => store.diagnostics.keys.card + 1).mono
    (fun _ holds => holds) fun _ _ _ => trivial

theorem ensureCapacityLocked_traces (recorder : Recorder) (required : ℕ) :
    Traces Session.store (EvictsOldest env codec) (fun _ => True)
      (recorder.ensureCapacityLocked env codec required) fun _ _ => True :=
  rounds_traces.bind fun _ => makeRoom_traces recorder required _

theorem enforceByteCapLocked_traces (recorder : Recorder) :
    Traces Session.store (EvictsOldest env codec) (fun _ => True)
      (recorder.enforceByteCapLocked env codec) fun _ _ => True := by
  apply rounds_traces.bind
  intro rounds
  apply (makeRoom_traces recorder 0 rounds).bind
  intro fits
  cases fits with
  | true => exact (Traces.pure ()).mono (fun _ holds => holds) fun _ _ _ => trivial
  | false => exact publishHealthLocked_free _ (fun _ _ => rfl) fun _ _ => rfl

/-- The decodable runs that the evictions of a trail took, in their order. -/
def evicted (env : Environment γ) (codec : Codec γ) :
    Directory γ → List (Purpose × Session γ) → List StoredRun
  | _, [] => []
  | directory, (purpose, session) :: rest =>
      (if purpose = .eviction then
        (runsOf env codec directory).filter fun stored => stored.name ∉ session.store.diagnostics
      else []) ++ evicted env codec session.store.diagnostics rest

/-- Runs were taken in their order: each was free to go, goes before those that were
taken later, and goes before every free run that is left. -/
structure InOrder (env : Environment γ) (codec : Codec γ) (before after : Directory γ)
    (taken : List StoredRun) : Prop where
  free : ∀ stored ∈ taken, stored ∈ runsOf env codec before ∧ stored.run.retained = false
  ordered : taken.Pairwise goesBefore
  left : ∀ stored ∈ runsOf env codec after, stored ∈ runsOf env codec before ∧
    (stored.run.retained = false → ∀ gone ∈ taken, goesBefore gone stored)

variable {directory : Directory γ} {stored : StoredRun} {s : Session γ}

theorem mem_runsOf_erase {name : Text} :
    stored ∈ runsOf env codec (directory.erase name) ↔
      stored ∈ runsOf env codec directory ∧ stored.name ≠ name := by
  rw [mem_runsOf, mem_runsOf]
  by_cases same : stored.name = name
  · subst same
    simp [Finmap.lookup_erase]
  · simp [same, Finmap.lookup_erase_ne same]

/-- The stored runs have different names. -/
theorem eq_of_name {stored other : StoredRun} (listed : stored ∈ runsOf env codec directory)
    (same : other ∈ runsOf env codec directory) (named : stored.name = other.name) :
    stored = other :=
  List.inj_on_of_nodup_map (map_name_runsOf_nodup directory) listed same named

theorem runsOf_nodup (directory : Directory γ) : (runsOf env codec directory).Nodup :=
  (map_name_runsOf_nodup directory).of_map

theorem mem_of_runsOf (listed : stored ∈ runsOf env codec directory) : stored.name ∈ directory := by
  obtain ⟨contents, there, -⟩ := Option.bind_eq_some_iff.mp (mem_runsOf.mp listed).2
  exact Finmap.mem_iff.mpr ⟨contents, there⟩

/-- The run of an erased file is the only one that goes. -/
theorem filter_erased {oldest : StoredRun} (there : oldest ∈ runsOf env codec directory) :
    ((runsOf env codec directory).filter fun stored =>
      stored.name ∉ directory.erase oldest.name) = [oldest] := by
  have gone : ∀ stored ∈ runsOf env codec directory,
      decide (stored.name ∉ directory.erase oldest.name) = decide (stored = oldest) := by
    intro stored listed
    rw [decide_eq_decide, Finmap.mem_erase]
    constructor
    · intro erased
      by_contra other
      exact erased ⟨fun named => other (eq_of_name listed there named), mem_of_runsOf listed⟩
    · rintro rfl ⟨other, _⟩
      exact other rfl
  have once : (runsOf env codec directory).count oldest = 1 :=
    List.count_eq_one_of_mem (runsOf_nodup directory) there
  rw [List.filter_congr gone, List.filter_eq, once]
  rfl

theorem evicted_inOrder {before after : Store γ} {trail : List (Purpose × Session γ)}
    (linked : Linked Session.store (EvictsOldest env codec) before trail after) :
    InOrder env codec before.diagnostics after.diagnostics
      (evicted env codec before.diagnostics trail) := by
  induction linked with
  | nil store => exact ⟨by simp [evicted], .nil, fun stored listed => ⟨listed, by simp [evicted]⟩⟩
  | @cons before after entry rest moved _ ih =>
      obtain ⟨purpose, session⟩ := entry
      unfold EvictsOldest at moved
      rw [evicted]
      split at moved
      · rename_i eviction
        obtain ⟨oldest, first, erased⟩ := moved
        obtain ⟨there, unretained, least⟩ := oldestCandidate_first first
        simp only at erased
        rw [if_pos eviction]
        simp only [erased] at ih ⊢
        rw [filter_erased there, List.singleton_append]
        refine ⟨?_, ?_, ?_⟩
        · intro stored member
          rcases List.mem_cons.mp member with rfl | later
          · exact ⟨there, unretained⟩
          · obtain ⟨listed, free⟩ := ih.free stored later
            exact ⟨(mem_runsOf_erase.mp listed).1, free⟩
        · rw [List.pairwise_cons]
          refine ⟨fun stored later => ?_, ih.ordered⟩
          obtain ⟨listed, free⟩ := ih.free stored later
          exact least stored (mem_runsOf_erase.mp listed).1 free
        · intro stored listed
          obtain ⟨here, order⟩ := ih.left stored listed
          have before := (mem_runsOf_erase.mp here).1
          refine ⟨before, fun free gone member => ?_⟩
          rcases List.mem_cons.mp member with rfl | later
          · exact least stored before free
          · exact order free gone later
      · rename_i other
        simp only at moved
        rw [if_neg other, List.nil_append]
        simp only [moved] at ih ⊢
        exact ih

/-! ## The loops end -/

/-- A call that reads returns what it found in the store, which it leaves. -/
theorem inspect_result {α : Type} {f : Store γ → Except IoError α} {a : α}
    (returned : ((inspect env f).run s).result = .ok a) :
    f s.store = .ok a ∧ ((inspect env f).run s).final.store = s.store := by
  simp only [inspect] at returned
  split at returned
  · cases returned
  · exact ⟨returned, rfl⟩

/-- One round of the byte loops, with what comes after it. -/
def roomRound (recorder : Recorder) (env : Environment γ) (codec : Codec γ) (required : ℕ)
    (next : Io γ Bool) : Io γ Bool := do
  let bytes ← directoryBytes env codec
  if saturatingAdd bytes required ≤ recorder.maxBytes then return true
  else
    let runs ← storedRuns env codec
    match oldestCandidate runs with
    | none => return false
    | some oldest =>
        removeAndSync env .eviction .diagnostics oldest.name
        next

section

variable (recorder : Recorder)

theorem makeRoom_succ (required rounds : ℕ) :
    recorder.makeRoom env codec required (rounds + 1) =
      roomRound recorder env codec required (recorder.makeRoom env codec required rounds) :=
  rfl

/-- What comes after a round starts from one file fewer. -/
theorem roomRound_congr (required : ℕ) {next other : Io γ Bool}
    (agree : ∀ t : Session γ, t.store.diagnostics.keys.card + 1 = s.store.diagnostics.keys.card →
      next.run t = other.run t) :
    (roomRound recorder env codec required next).run s =
      (roomRound recorder env codec required other).run s := by
  apply run_bind_congr
  intro bytes read
  obtain ⟨-, same⟩ := inspect_result read
  change ((directoryBytes env codec).run s).final.store = s.store at same
  generalize ((directoryBytes env codec).run s).final = t at same
  split
  · rfl
  · apply run_bind_congr
    intro runs listed
    obtain ⟨found, kept⟩ := inspect_result listed
    change ((storedRuns env codec).run t).final.store = t.store at kept
    generalize ((storedRuns env codec).run t).final = u at kept
    rw [← kept] at found
    cases found
    cases first : oldestCandidate (runsOf env codec u.store.diagnostics) with
    | none => rfl
    | some oldest =>
        apply run_bind_congr
        intro _ removed
        obtain ⟨there, erased⟩ := removeAndSync_yields.success u rfl _ removed
        apply agree
        simp only [Store.directory] at erased
        rw [erased, ← same, ← kept]
        exact card_erase there

/-- **The loop ends.** With more rounds than there are files, another round makes no
difference. -/
theorem makeRoom_ends (required : ℕ) {rounds : ℕ}
    (enough : s.store.diagnostics.keys.card < rounds) :
    (recorder.makeRoom env codec required (rounds + 1)).run s =
      (recorder.makeRoom env codec required rounds).run s := by
  induction rounds generalizing s with
  | zero => exact absurd enough (Nat.not_lt_zero _)
  | succ rounds ih =>
      calc (recorder.makeRoom env codec required (rounds + 1 + 1)).run s
          = (roomRound recorder env codec required
              (recorder.makeRoom env codec required (rounds + 1))).run s := by
            rw [makeRoom_succ]
        _ = (roomRound recorder env codec required
              (recorder.makeRoom env codec required rounds)).run s :=
            roomRound_congr recorder required fun t fewer => ih (by omega)
        _ = (recorder.makeRoom env codec required (rounds + 1)).run s := by
            rw [makeRoom_succ]

/-- Both loops are given enough rounds. -/
theorem makeRoom_run (required extra : ℕ) (s : Session γ) :
    (recorder.makeRoom env codec required (s.store.diagnostics.keys.card + 1 + extra)).run s =
      (recorder.makeRoom env codec required (s.store.diagnostics.keys.card + 1)).run s := by
  induction extra with
  | zero => rfl
  | succ extra ih =>
      rw [← ih, ← Nat.add_assoc]
      exact makeRoom_ends recorder required (by omega)

/-! ## Every eviction of a publication -/

end

theorem EvictsOldest.evictsRun {purpose : Purpose} {before after : Store γ}
    (evicts : EvictsOldest env codec purpose before after) :
    EvictsRun env codec purpose before after := by
  intro eviction
  rw [EvictsOldest, if_pos eviction] at evicts
  obtain ⟨oldest, first, erased⟩ := evicts
  obtain ⟨there, unretained, -⟩ := oldestCandidate_first first
  exact ⟨oldest, there, unretained, erased⟩

theorem free_of_ne {purpose : Purpose} (other : purpose ≠ .eviction) (place : Place) :
    Free (EvictsRun env codec) purpose place :=
  fun _ _ eviction => absurd eviction other

theorem cleanupStaleTemps_traces :
    Traces Session.store (EvictsRun env codec) (fun _ => True) (cleanupStaleTemps env)
      fun _ _ => True := by
  have listed : Traces Session.store (EvictsRun env codec) (fun _ => True)
      (listingOf env .diagnostics) fun _ _ => True :=
    inspect_traces.mono (fun _ holds => holds) fun _ _ _ => trivial
  apply listed.bind
  intro names
  apply Traces.forM
  intro name _
  split
  · exact removeAndSync_free (free_of_ne (by decide) _)
  · exact (Traces.pure ()).mono (fun _ holds => holds) fun _ _ _ => trivial

theorem recoverRun_traces (name : Text) :
    Traces Session.store (EvictsRun env codec) (fun _ => True) (recoverRun env codec name)
      fun _ _ => True := by
  have returns : Traces Session.store (EvictsRun env codec) (fun _ => True)
      (pure () : Io γ Unit) fun _ _ => True :=
    (Traces.pure ()).mono (fun _ holds => holds) fun _ _ _ => trivial
  have reads : ∀ {α : Type} (f : Store γ → Except IoError α), Traces Session.store
      (EvictsRun env codec) (fun _ => True) (inspect env f) fun _ _ => True := fun _ =>
    inspect_traces.mono (fun _ holds => holds) fun _ _ _ => trivial
  apply (reads _).bind
  intro contents
  split
  · exact returns
  · split
    · exact returns
    · rename_i run _ _
      apply ((Traces.reads fun store : Store γ => run.owner.isNone &&
        decide (liveMarker run.runId ∈ store.diagnostics)).mono (fun _ holds => holds)
          fun _ _ _ => trivial).bind
      intro marked
      have opened : Traces Session.store (EvictsRun env codec) (fun _ => True)
          (openMarker env marked) fun _ _ => True := by
        unfold openMarker
        split
        · exact reads _
        · exact returns
      apply opened.bind
      intro _
      split
      · exact returns
      · apply (atomicWrite_free (free_of_ne (by decide) _) (free_of_ne (by decide) _)).bind
        intro _
        split
        · exact removeAndSync_free (free_of_ne (by decide) _)
        · exact returns

theorem openStore_traces :
    Traces Session.store (EvictsRun env codec) (fun _ => True) (Recorder.openStore env codec)
      fun _ _ => True := by
  have listed : Traces Session.store (EvictsRun env codec) (fun _ => True)
      (listingOf env .diagnostics) fun _ _ => True :=
    inspect_traces.mono (fun _ holds => holds) fun _ _ _ => trivial
  exact check_traces.bind fun _ => cleanupStaleTemps_traces.bind fun _ =>
    listed.bind fun names => Traces.forM _ fun name _ => recoverRun_traces name

/-- Runs that are all in the store, under different names, are taken one by one. -/
theorem removeRuns_traces (items others : List StoredRun)
    (distinct : ((items ++ others).map StoredRun.name).Nodup)
    (free : ∀ stored ∈ items, stored.run.retained = false) :
    Traces Session.store (EvictsRun env codec)
      (fun store => ∀ stored ∈ items ++ others, stored ∈ runsOf env codec store.diagnostics)
      (items.forM fun stored => removeAndSync env .eviction .diagnostics stored.name)
      fun _ store => ∀ stored ∈ others, stored ∈ runsOf env codec store.diagnostics := by
  induction items with
  | nil => exact (Traces.pure PUnit.unit).mono (fun _ holds => holds) fun _ _ holds => holds.2
  | cons head rest ih =>
      rw [List.cons_append, List.map_cons, List.nodup_cons] at distinct
      obtain ⟨fresh, distinct⟩ := distinct
      have removed : Traces Session.store (EvictsRun env codec)
          (fun store => ∀ stored ∈ head :: rest ++ others,
            stored ∈ runsOf env codec store.diagnostics)
          (removeAndSync env .eviction .diagnostics head.name)
          fun _ store => ∀ stored ∈ rest ++ others,
            stored ∈ runsOf env codec store.diagnostics := by
        apply removeAndSync_traces
        intro store listed _
        constructor
        · intro _
          exact ⟨head, listed head List.mem_cons_self, free head List.mem_cons_self, rfl⟩
        · intro stored member
          refine mem_runsOf_erase.mpr ⟨listed stored (List.mem_cons_of_mem _ member), ?_⟩
          intro same
          exact fresh (same ▸ List.mem_map_of_mem member)
      exact removed.bind fun _ =>
        ih distinct fun stored member => free stored (List.mem_cons_of_mem _ member)

theorem expendable_subset {success : Bool} {runs : List StoredRun} {count : ℕ}
    (taken : stored ∈ (expendable success runs).take count) :
    stored ∈ runs ∧ stored.run.retained = false ∧
      decide (stored.run.outcome = .success) = success :=
  mem_expendable.mp (List.mem_of_mem_take taken)

section

variable (recorder : Recorder)

/-- The runs that retention removes have different names. -/
theorem map_name_doomed_nodup (directory : Directory γ) :
    ((doomed recorder (runsOf env codec directory)).map StoredRun.name).Nodup := by
  have one : ∀ (success : Bool) (count : ℕ),
      (((expendable success (runsOf env codec directory)).take count).map
        StoredRun.name).Nodup := by
    intro success count
    apply List.Nodup.sublist ((List.take_sublist _ _).map _)
    apply (((List.perm_insertionSort _ _).map _).nodup_iff).mpr
    exact (map_name_runsOf_nodup directory).sublist (List.filter_sublist.map _)
  rw [doomed, List.map_append, List.nodup_append]
  refine ⟨one true _, one false _, ?_⟩
  intro first taken second other same
  obtain ⟨stored, member, rfl⟩ := List.mem_map.mp taken
  obtain ⟨rival, later, rfl⟩ := List.mem_map.mp other
  obtain ⟨listed, -, succeeded⟩ := expendable_subset member
  obtain ⟨alsoListed, -, failed⟩ := expendable_subset later
  rw [eq_of_name listed alsoListed same, failed] at succeeded
  cases succeeded

theorem enforceRetentionLocked_traces :
    Traces Session.store (EvictsRun env codec) (fun _ => True)
      (recorder.enforceRetentionLocked env codec) fun _ _ => True := by
  apply storedRuns_traces.bind
  intro runs
  let first := (expendable true runs).take ((expendable true runs).length - recorder.successLimit)
  let second := (expendable false runs).take
    ((expendable false runs).length - recorder.nonSuccessLimit)
  have distinct : (∃ directory, runs = runsOf env codec directory) →
      ((first ++ second).map StoredRun.name).Nodup := by
    rintro ⟨directory, rfl⟩
    exact map_name_doomed_nodup recorder directory
  apply Traces.assuming (∃ directory, runs = runsOf env codec directory)
    (fun store found => ⟨store.diagnostics, found.2⟩)
  intro known
  have taken : Traces Session.store (EvictsRun env codec)
      (fun store => True ∧ runs = runsOf env codec store.diagnostics)
      (removeOldest env (expendable true runs) recorder.successLimit)
      fun _ store => ∀ stored ∈ second, stored ∈ runsOf env codec store.diagnostics := by
    apply (removeRuns_traces first second (distinct known) fun stored member =>
      (expendable_subset member).2.1).mono _ fun _ _ left => left
    rintro store ⟨-, rfl⟩ stored member
    rcases List.mem_append.mp member with early | late
    · exact (expendable_subset early).1
    · exact (expendable_subset late).1
  have alsoTaken : Traces Session.store (EvictsRun env codec)
      (fun store => ∀ stored ∈ second, stored ∈ runsOf env codec store.diagnostics)
      (removeOldest env (expendable false runs) recorder.nonSuccessLimit)
      fun _ _ => True := by
    have names : (second.map StoredRun.name).Nodup := by
      have whole := distinct known
      rw [List.map_append] at whole
      exact whole.of_append_right
    apply (removeRuns_traces second [] (by rwa [List.append_nil]) fun stored member =>
      (expendable_subset member).2.1).mono _ fun _ _ _ => trivial
    intro store listed stored member
    rw [List.append_nil] at member
    exact listed stored member
  exact taken.bind fun _ => alsoTaken.bind fun _ =>
    (enforceByteCapLocked_traces recorder).loosen fun _ _ _ => EvictsOldest.evictsRun

theorem publishInner_traces (run : DiagnosticRun) :
    Traces Session.store (EvictsRun env codec) (fun _ => True)
      (recorder.publishInner env codec run) fun _ _ => True := by
  have returns : ∀ publication : Publication, Traces Session.store (EvictsRun env codec)
      (fun _ => True) (pure publication : Io γ Publication) fun _ _ => True := fun publication =>
    (Traces.pure publication).mono (fun _ holds => holds) fun _ _ _ => trivial
  have health : ∀ publication : Publication, Traces Session.store (EvictsRun env codec)
      (fun _ => True) (publishHealthLocked env codec publication) fun _ _ => True :=
    fun publication => publishHealthLocked_free publication (free_of_ne (by decide) _)
      (free_of_ne (by decide) _)
  apply openStore_traces.bind
  intro _
  apply ((ensureCapacityLocked_traces recorder _).loosen
    fun _ _ _ => EvictsOldest.evictsRun).bind
  intro fits
  cases fits with
  | true =>
      exact (atomicWrite_free (free_of_ne (by decide) _) (free_of_ne (by decide) _)).bind
        fun _ => (enforceRetentionLocked_traces recorder).bind fun _ => check_traces.bind
          fun _ => returns _
  | false => exact (health _).bind fun _ => check_traces.bind fun _ => returns _

theorem publish_traces (run : DiagnosticRun) :
    Traces Session.store (EvictsRun env codec) (fun _ => True)
      (recorder.publish env codec run) fun _ _ => True := by
  have returns : ∀ {α : Type} (a : α), Traces Session.store (EvictsRun env codec)
      (fun _ => True) (pure a : Io γ α) fun _ _ => True := fun a =>
    (Traces.pure a).mono (fun _ holds => holds) fun _ _ _ => trivial
  unfold Recorder.publish
  split
  · exact returns _
  · apply (publishInner_traces recorder run).catching
    intro error
    have stored : Traces Session.store (EvictsRun env codec) (fun _ => True)
        (Recorder.runFileIsStored env run.runId) fun _ _ => True := by
      apply Traces.catching
      · exact inspect_traces.mono (fun _ holds => holds) fun _ _ _ => trivial
      · exact fun _ => returns _
    have recorded : ∀ publication : Publication, Traces Session.store (EvictsRun env codec)
        (fun _ => True) (Recorder.publishHealthBestEffort env codec publication)
        fun _ _ => True := by
      intro publication
      apply Traces.catching
      · exact check_traces.bind fun _ =>
          (publishHealthLocked_free publication (free_of_ne (by decide) _)
            (free_of_ne (by decide) _)).bind fun _ => check_traces.bind fun _ => returns _
      · exact fun _ => returns _
    apply stored.bind
    intro isStored
    apply (recorded _).bind
    intro isRecorded
    split
    · exact returns _
    · exact returns _

/-! ## After a publication -/

/-- Of a class no more runs are left than its limit allows. -/
theorem length_expendable_le (directory : Directory γ) (success : Bool) (limit : ℕ)
    (removed : ∀ stored ∈ (expendable success (runsOf env codec directory)).take
      ((expendable success (runsOf env codec directory)).length - limit),
        stored ∈ doomed recorder (runsOf env codec directory)) :
    (expendable success (runsOf env codec (withoutRuns directory
      (doomed recorder (runsOf env codec directory))))).length ≤ limit := by
  let before := expendable success (runsOf env codec directory)
  have nodup : (expendable success (runsOf env codec (withoutRuns directory
      (doomed recorder (runsOf env codec directory))))).Nodup :=
    ((List.perm_insertionSort _ _).nodup_iff).mpr ((runsOf_nodup _).filter _)
  have kept : expendable success (runsOf env codec (withoutRuns directory
      (doomed recorder (runsOf env codec directory)))) ⊆ before.drop (before.length - limit) := by
    intro stored member
    obtain ⟨listed, unretained, sort⟩ := mem_expendable.mp member
    obtain ⟨json, decoded⟩ := mem_runsOf.mp listed
    rw [lookup_withoutRuns] at decoded
    split at decoded
    · cases decoded
    · rename_i spared
      have here : stored ∈ before :=
        mem_expendable.mpr ⟨mem_runsOf.mpr ⟨json, decoded⟩, unretained, sort⟩
      rw [← List.take_append_drop (before.length - limit) before] at here
      rcases List.mem_append.mp here with early | late
      · exact absurd (List.mem_map_of_mem (removed stored early)) spared
      · exact late
  have counted := (List.subperm_of_subset nodup kept).length_le
  rw [List.length_drop] at counted
  omega

end

/-- **The discipline of retention.** After a publication that succeeded in storing its
run, each class has at most as many unretained runs as its limit allows, and the
directory is within the byte cap or all that is left is retained. No eviction of any
publication takes a retained run or a file that does not decode. Each of the byte
loops, from any store and however it ends, takes runs in their order: successful runs
first, then by the time of their creation, and before every such run that is left. And
the loops end: more rounds than they are given would make no difference. -/
theorem retention_discipline (recorder : Recorder) (env : Environment γ) (codec : Codec γ)
    (run : DiagnosticRun) (session : Session γ) :
    (∀ publication,
      ((recorder.publishInner env codec run).run session).result = .ok publication →
      publication.stored = true →
      let left := ((recorder.publishInner env codec run).run session).final.store.diagnostics
      (expendable true (runsOf env codec left)).length ≤ recorder.successLimit ∧
        (expendable false (runsOf env codec left)).length ≤ recorder.nonSuccessLimit ∧
        (bytesOf env codec left ≤ recorder.maxBytes ∨
          ∀ stored ∈ runsOf env codec left, stored.run.retained = true)) ∧
    Linked Session.store (EvictsRun env codec) session.store
      ((recorder.publish env codec run).run session).trail
      ((recorder.publish env codec run).run session).final.store ∧
    (∀ (s : Session γ) (required : ℕ),
      let outcome := (recorder.ensureCapacityLocked env codec required).run s
      InOrder env codec s.store.diagnostics outcome.final.store.diagnostics
        (evicted env codec s.store.diagnostics outcome.trail)) ∧
    (∀ s : Session γ,
      let outcome := (recorder.enforceByteCapLocked env codec).run s
      InOrder env codec s.store.diagnostics outcome.final.store.diagnostics
        (evicted env codec s.store.diagnostics outcome.trail)) ∧
    ∀ (s : Session γ) (required extra : ℕ),
      (recorder.makeRoom env codec required (s.store.diagnostics.keys.card + 1 + extra)).run s =
        (recorder.ensureCapacityLocked env codec required).run s := by
  refine ⟨?_, (publish_traces recorder run).linked session trivial, ?_, ?_, ?_⟩
  · intro publication returned stored
    obtain ⟨written, -, holds, final⟩ :=
      (publishInner_yields recorder run session.store.diagnostics).success session rfl publication
        returned stored
    simp only [final]
    refine ⟨?_, ?_, Or.inl ((bytesOf_withoutRuns_le written _).trans holds)⟩
    · exact length_expendable_le recorder written true _ fun _ => List.mem_append_left _
    · exact length_expendable_le recorder written false _ fun _ => List.mem_append_right _
  · exact fun s required =>
      evicted_inOrder ((ensureCapacityLocked_traces recorder required).linked s trivial)
  · exact fun s => evicted_inOrder ((enforceByteCapLocked_traces recorder).linked s trivial)
  · exact fun s required extra => makeRoom_run recorder required extra s

/-- A run is published into a store of twelve others of its class. -/
def publishOverLimit : Durable.Outcome Purpose (Session PlainFile) IoError Publication :=
  (defaultRecorder.publishInner quietEnvironment plainCodec (plainRun ['z'] 20)).run
    ⟨storeOf 12, 0, 0, []⟩

/-- Three of the thirteen have to go. -/
theorem retention_discipline_over_limit :
    (expendable true (runsOf quietEnvironment plainCodec (storeOf 12).diagnostics)).length = 12 ∧
      publishOverLimit.result.toOption = some ⟨['z'], .complete, .healthy, true⟩ ∧
      (expendable true (runsOf quietEnvironment plainCodec
        publishOverLimit.final.store.diagnostics)).length ≤ 10 := by
  have returned : publishOverLimit.result.toOption = some ⟨['z'], .complete, .healthy, true⟩ := by
    decide +kernel
  refine ⟨by decide +kernel, returned, ?_⟩
  cases ended : publishOverLimit.result with
  | error e =>
      rw [ended] at returned
      cases returned
  | ok publication =>
      rw [ended] at returned
      cases returned
      exact ((retention_discipline _ _ _ _ _).1 _ ended rfl).1

end Deskkin.Diagnostics
