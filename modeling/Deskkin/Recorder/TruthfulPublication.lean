/-
# What a publication leaves behind

A run is written once there is room for it, so the byte cap has nothing left to do
and only the retention that follows can take the run away again. It removes the
oldest runs of a class beyond a limit, by the time of their creation, and does not
except the run that was just written.
-/

import Deskkin.Lib.StableSort
import Deskkin.Recorder.Effects
import Mathlib.Algebra.BigOperators.Group.Finset.Basic
import Mathlib.Algebra.Order.BigOperators.Group.Finset

namespace Deskkin.Diagnostics

open Durable

variable {γ : Type} {env : Environment γ} {codec : Codec γ}

/-! ## Bytes -/

def sizeOf (codec : Codec γ) (directory : Directory γ) (name : Text) : ℕ :=
  (directory.lookup name).map codec.size |>.getD 0

def totalBytes (codec : Codec γ) (directory : Directory γ) : ℕ :=
  ∑ name ∈ directory.keys, sizeOf codec directory name

theorem foldl_saturatingAdd (f : Text → ℕ) (names : List Text) (total : ℕ)
    (bounded : total ≤ 2 ^ 64 - 1) :
    names.foldl (fun total name => saturatingAdd total (f name)) total =
      min (total + (names.map f).sum) (2 ^ 64 - 1) := by
  induction names generalizing total with
  | nil =>
      rw [List.foldl_nil, List.map_nil, List.sum_nil]
      omega
  | cons name names ih =>
      rw [List.foldl_cons, saturatingAdd, ih _ (Nat.min_le_right _ _), List.map_cons,
        List.sum_cons]
      omega

theorem bytesOf_eq (directory : Directory γ) :
    bytesOf env codec directory = min (totalBytes codec directory) (2 ^ 64 - 1) := by
  have keys : (env.listing directory).toFinset = directory.keys := by
    ext name
    rw [List.mem_toFinset, env.mem_listing, Finmap.mem_keys]
  have folded := foldl_saturatingAdd (sizeOf codec directory) (env.listing directory) 0
    (Nat.zero_le _)
  rw [Nat.zero_add, ← List.sum_toFinset _ (env.nodup_listing directory), keys] at folded
  exact folded

theorem totalBytes_erase_le (directory : Directory γ) (name : Text) :
    totalBytes codec (directory.erase name) ≤ totalBytes codec directory := by
  have same : ∀ other ∈ (directory.erase name).keys,
      sizeOf codec (directory.erase name) other = sizeOf codec directory other := by
    intro other member
    rw [Finmap.keys_erase, Finset.mem_erase] at member
    rw [sizeOf, Finmap.lookup_erase_ne member.1, ← sizeOf]
  rw [totalBytes, Finset.sum_congr rfl same, Finmap.keys_erase]
  exact Finset.sum_le_sum_of_subset (Finset.erase_subset _ _)

theorem totalBytes_insert_le (directory : Directory γ) (name : Text) (contents : γ) :
    totalBytes codec (directory.insert name contents) ≤
      totalBytes codec directory + codec.size contents := by
  have keys : (directory.insert name contents).keys ⊆ insert name (directory.keys.erase name) := by
    intro other member
    rw [Finmap.mem_keys, Finmap.mem_insert] at member
    rw [Finset.mem_insert, Finset.mem_erase, Finmap.mem_keys]
    by_cases same : other = name
    · exact Or.inl same
    · exact Or.inr ⟨same, member.resolve_left same⟩
  have rest : ∀ other ∈ directory.keys.erase name,
      sizeOf codec (directory.insert name contents) other = sizeOf codec directory other := by
    intro other member
    rw [sizeOf, Finmap.lookup_insert_of_ne _ (Finset.mem_erase.mp member).1, ← sizeOf]
  have own : sizeOf codec (directory.insert name contents) name = codec.size contents := by
    rw [sizeOf, Finmap.lookup_insert]
    rfl
  calc totalBytes codec (directory.insert name contents)
      ≤ ∑ other ∈ insert name (directory.keys.erase name),
          sizeOf codec (directory.insert name contents) other :=
        Finset.sum_le_sum_of_subset keys
    _ = codec.size contents +
      ∑ other ∈ directory.keys.erase name, sizeOf codec directory other := by
        rw [Finset.sum_insert (Finset.notMem_erase _ _), own, Finset.sum_congr rfl rest]
    _ ≤ codec.size contents + totalBytes codec directory :=
        Nat.add_le_add_left (Finset.sum_le_sum_of_subset (Finset.erase_subset _ _)) _
    _ = totalBytes codec directory + codec.size contents := Nat.add_comm _ _

variable {directory : Directory γ} {name : Text} {recorder : Recorder}

/-- Where there is room for a file the limit holds after it was written. -/
theorem bytesOf_insert_le {contents : γ} {limit : ℕ}
    (room : saturatingAdd (bytesOf env codec directory) (codec.size contents) ≤ limit)
    (name : Text) :
    bytesOf env codec (directory.insert name contents) ≤ limit := by
  have grown : totalBytes codec (directory.insert name contents) ≤
      totalBytes codec directory + codec.size contents :=
    totalBytes_insert_le directory name contents
  rw [bytesOf_eq] at room ⊢
  rw [saturatingAdd] at room
  omega

theorem bytesOf_erase_le (directory : Directory γ) (name : Text) :
    bytesOf env codec (directory.erase name) ≤ bytesOf env codec directory := by
  have shrunk : totalBytes codec (directory.erase name) ≤ totalBytes codec directory :=
    totalBytes_erase_le directory name
  rw [bytesOf_eq, bytesOf_eq]
  omega

/-! ## Retention -/

/-- The directory without the files of these runs. -/
def withoutRuns (directory : Directory γ) (runs : List StoredRun) : Directory γ :=
  runs.foldl (fun directory stored => directory.erase stored.name) directory

/-- The runs that retention removes. -/
def doomed (recorder : Recorder) (runs : List StoredRun) : List StoredRun :=
  (expendable true runs).take ((expendable true runs).length - recorder.successLimit) ++
    (expendable false runs).take ((expendable false runs).length - recorder.nonSuccessLimit)

theorem bytesOf_withoutRuns_le (directory : Directory γ) (runs : List StoredRun) :
    bytesOf env codec (withoutRuns directory runs) ≤ bytesOf env codec directory := by
  induction runs generalizing directory with
  | nil => exact Nat.le_refl _
  | cons stored runs ih => exact (ih _).trans (bytesOf_erase_le _ _)

theorem withoutRuns_append (directory : Directory γ) (runs others : List StoredRun) :
    withoutRuns directory (runs ++ others) = withoutRuns (withoutRuns directory runs) others :=
  List.foldl_append

theorem lookup_withoutRuns (directory : Directory γ) (runs : List StoredRun) (name : Text) :
    (withoutRuns directory runs).lookup name =
      if name ∈ runs.map StoredRun.name then none else directory.lookup name := by
  induction runs generalizing directory with
  | nil => simp [withoutRuns]
  | cons stored runs ih =>
      rw [withoutRuns, List.foldl_cons, ← withoutRuns, ih, List.map_cons]
      by_cases later : name ∈ runs.map StoredRun.name
      · rw [if_pos later, if_pos (List.mem_cons_of_mem _ later)]
      · rw [if_neg later]
        by_cases here : name = stored.name
        · rw [here, Finmap.lookup_erase, if_pos List.mem_cons_self]
        · rw [Finmap.lookup_erase_ne here,
            if_neg (by simp only [List.mem_cons, here, later, or_self, not_false_iff])]

theorem remove_yields {purpose : Purpose} :
    Yields (fun store => store.diagnostics = directory)
      (removeAndSync env purpose .diagnostics name)
      fun _ store => store.diagnostics = directory.erase name :=
  removeAndSync_yields.mono (fun _ same => same) fun _ _ removed => removed.2

theorem replace_yields {empty : γ} {purpose : Purpose} {contents : γ} :
    Yields (fun store => store.diagnostics = directory)
      (atomicWrite env empty purpose .diagnostics name contents)
      fun _ store => store.diagnostics = directory.insert name contents :=
  @atomicWrite_yields γ env empty purpose .diagnostics name contents directory

theorem removeRuns_yields (runs : List StoredRun) (directory : Directory γ) :
    Yields (fun store => store.diagnostics = directory)
      (runs.forM fun stored => removeAndSync env .eviction .diagnostics stored.name)
      fun _ store => store.diagnostics = withoutRuns directory runs :=
  forM_yields _ (fun _ _ => remove_yields) runs directory

/-! ## The position of a run in its class -/

/-- The run may be removed when the class of `run` is over its limit. -/
def sameClass (run : DiagnosticRun) (stored : StoredRun) : Bool :=
  !stored.run.retained &&
    decide (stored.run.outcome = .success) == decide (run.outcome = .success)

def limitOf (recorder : Recorder) (run : DiagnosticRun) : ℕ :=
  if run.outcome = .success then recorder.successLimit else recorder.nonSuccessLimit

/-- How many runs of its class are kept in preference to `run`: those that are listed
before it and are younger and those that are listed after it and are not older. -/
def preferred (runs : List StoredRun) (run : DiagnosticRun) : ℕ :=
  let rivals := runs.filter (sameClass run)
  let earlier := rivals.takeWhile fun stored => stored.name ≠ runFile run.runId
  let later := (rivals.dropWhile fun stored => stored.name ≠ runFile run.runId).tail
  (earlier.countP fun stored => run.createdUnixMs < stored.run.createdUnixMs) +
    later.countP fun stored => run.createdUnixMs ≤ stored.run.createdUnixMs

instance : IsTrans StoredRun olderThan := ⟨fun _ _ _ => UInt64.le_trans⟩

instance : Std.Total olderThan := ⟨fun _ _ => UInt64.le_total _ _⟩

theorem expendable_class (run : DiagnosticRun) (runs : List StoredRun) :
    expendable (decide (run.outcome = .success)) runs =
      (runs.filter (sameClass run)).insertionSort olderThan :=
  rfl

/-- A run is removed only with its own class. -/
theorem mem_doomed {runs : List StoredRun} {stored : StoredRun} :
    stored ∈ doomed recorder runs ↔
      stored ∈ (expendable (decide (stored.run.outcome = .success)) runs).take
        ((expendable (decide (stored.run.outcome = .success)) runs).length -
          limitOf recorder stored.run) := by
  have other : ∀ (success : Bool) (limit : ℕ),
      stored ∈ (expendable success runs).take limit →
        decide (stored.run.outcome = .success) = success := fun success limit taken =>
    (mem_expendable.mp (List.mem_of_mem_take taken)).2.2
  rw [doomed, List.mem_append]
  by_cases success : stored.run.outcome = .success
  · rw [limitOf, if_pos success, decide_eq_true success]
    apply or_iff_left
    intro taken
    have failed := other false _ taken
    rw [decide_eq_true success] at failed
    cases failed
  · rw [limitOf, if_neg success, decide_eq_false success]
    apply or_iff_right
    intro taken
    have succeeded := other true _ taken
    rw [decide_eq_false success] at succeeded
    cases succeeded

theorem mem_take_split {α : Type} {before after : List α} {x : α} (absent : x ∉ before)
    (count : ℕ) : x ∈ (before ++ x :: after).take count ↔ before.length < count := by
  rw [List.take_append, List.mem_append]
  constructor
  · rintro (early | late)
    · exact absurd (List.mem_of_mem_take early) absent
    · by_contra short
      rw [Nat.sub_eq_zero_of_le (Nat.le_of_not_lt short)] at late
      cases late
  · intro enough
    obtain ⟨more, same⟩ := Nat.exists_eq_add_of_lt enough
    apply Or.inr
    rw [show count - before.length = more + 1 by omega]
    exact List.mem_cons_self

/-- Retention removes a run exactly when as many runs as the limit allows are kept in
preference to it. -/
theorem mem_doomed_iff {runs : List StoredRun} {own : StoredRun}
    (distinct : (runs.map StoredRun.name).Nodup) (listed : own ∈ runs)
    (named : own.name = runFile own.run.runId) (unretained : own.run.retained = false) :
    own ∈ doomed recorder runs ↔ limitOf recorder own.run ≤ preferred runs own.run := by
  have rival : own ∈ runs.filter (sameClass own.run) := by
    apply List.mem_filter.mpr ⟨listed, _⟩
    simp [sameClass, unretained]
  obtain ⟨front, behind, split⟩ := List.append_of_mem rival
  have names : ((front ++ own :: behind).map StoredRun.name).Nodup := by
    rw [← split]
    exact distinct.sublist (List.filter_sublist.map _)
  rw [List.map_append, List.map_cons, List.nodup_append] at names
  obtain ⟨before, after, sorted, length⟩ :=
    StableSort.insertionSort_split olderThan front behind own
  have sortedNodup : (before ++ own :: after).Nodup := by
    rw [← sorted, (List.perm_insertionSort _ _).nodup_iff, ← split]
    exact (List.Nodup.of_map _ distinct).filter _
  have counted : preferred runs own.run = after.length := by
    have ahead : ∀ stored ∈ front, decide (stored.name ≠ runFile own.run.runId) = true := by
      intro stored member
      rw [← named]
      exact decide_eq_true (names.2.2 _ (List.mem_map_of_mem member) _ List.mem_cons_self)
    have younger : (front.countP fun stored => own.run.createdUnixMs < stored.run.createdUnixMs) =
        front.countP fun stored => ¬olderThan stored own := by
      simp only [olderThan, UInt64.not_le]
    rw [length, ← younger, preferred, split, List.takeWhile_append_of_pos ahead,
      List.dropWhile_append_of_pos ahead]
    simp only [List.takeWhile_cons, List.dropWhile_cons, named, ne_eq, not_true_eq_false,
      decide_false, Bool.false_eq_true, if_false, List.append_nil, List.tail_cons, olderThan]
  rw [mem_doomed, expendable_class, split, sorted, mem_take_split, counted, List.length_append,
    List.length_cons]
  · omega
  · intro member
    exact (List.nodup_append.mp sortedNodup).2.2 own member own List.mem_cons_self rfl

theorem map_name_runsOf_nodup (directory : Directory γ) :
    ((runsOf env codec directory).map StoredRun.name).Nodup := by
  have sublist : ((runsOf env codec directory).map StoredRun.name).Sublist
      ((env.listing directory).filter isJson) := by
    unfold runsOf
    induction (env.listing directory).filter isJson with
    | nil => exact List.Sublist.refl _
    | cons name names ih =>
        rw [List.filterMap_cons]
        cases (directory.lookup name).bind codec.decode with
        | none => exact ih.cons _
        | some run => exact ih.cons_cons _
  exact (env.nodup_listing directory).sublist (sublist.trans List.filter_sublist)

/-- What retention leaves of a run that has just been written. -/
theorem lookup_retained {run : DiagnosticRun} (valid : validRunId run.runId = true)
    (written : directory.lookup (runFile run.runId) = some (codec.encode run)) :
    ((withoutRuns directory (doomed recorder (runsOf env codec directory))).lookup
        (runFile run.runId)).bind codec.decode = some run ↔
      run.retained = true ∨
        preferred (runsOf env codec directory) run < limitOf recorder run := by
  have distinct : ((runsOf env codec directory).map StoredRun.name).Nodup :=
    map_name_runsOf_nodup directory
  have listed : ⟨runFile run.runId, run⟩ ∈ runsOf env codec directory := by
    rw [mem_runsOf]
    exact ⟨isJson_runFile valid, by rw [written, Option.bind_some, codec.decode_encode]⟩
  have named : runFile run.runId ∈ (doomed recorder (runsOf env codec directory)).map
      StoredRun.name ↔
        ⟨runFile run.runId, run⟩ ∈ doomed recorder (runsOf env codec directory) := by
    rw [List.mem_map]
    constructor
    · rintro ⟨stored, gone, same⟩
      have there : stored ∈ runsOf env codec directory :=
        (mem_expendable.mp (List.mem_of_mem_take (mem_doomed.mp gone))).1
      rwa [List.inj_on_of_nodup_map distinct there listed same] at gone
    · exact fun gone => ⟨_, gone, rfl⟩
  rw [lookup_withoutRuns, written]
  cases retained : run.retained with
  | true =>
      have kept : runFile run.runId ∉ (doomed recorder (runsOf env codec directory)).map
          StoredRun.name := by
        intro gone
        have expended := mem_expendable.mp (List.mem_of_mem_take (mem_doomed.mp (named.mp gone)))
        rw [show run.retained = false from expended.2.1] at retained
        cases retained
      simp [kept]
  | false =>
      have removed : ⟨runFile run.runId, run⟩ ∈ doomed recorder (runsOf env codec directory) ↔
          limitOf recorder run ≤ preferred (runsOf env codec directory) run :=
        mem_doomed_iff distinct listed rfl retained
      by_cases beyond : limitOf recorder run ≤ preferred (runsOf env codec directory) run
      · rw [if_pos (named.mpr (removed.mpr beyond))]
        simp [beyond]
      · rw [if_neg fun gone => beyond (removed.mp (named.mp gone))]
        simp [Nat.not_le.mp beyond]

/-! ## What a publication finds -/

def withoutTemps (env : Environment γ) (directory : Directory γ) : Directory γ :=
  (env.listing directory).foldl
    (fun directory name => if isTemp name then directory.erase name else directory) directory

/-- The run of one file is closed if its process is gone. -/
def withRecovered (env : Environment γ) (codec : Codec γ) (directory : Directory γ)
    (name : Text) : Directory γ :=
  match (directory.lookup name).bind codec.decode with
  | none => directory
  | some run =>
      if run.terminal || run.owner.any env.ownerIsLive then directory
      else
        let marker := liveMarker run.runId
        let marked := run.owner.isNone && decide (marker ∈ directory)
        if marked && env.markerLocked marker then directory
        else
          let closed := directory.insert name (codec.encode run.recovered)
          if marked then closed.erase marker else closed

/-- The directory once the store is open. -/
def opened (env : Environment γ) (codec : Codec γ) (directory : Directory γ) : Directory γ :=
  let cleaned := withoutTemps env directory
  ((env.listing cleaned).filter isJson).foldl (withRecovered env codec) cleaned

/-- The directory once there is room for so many bytes. -/
def withRoom (recorder : Recorder) (env : Environment γ) (codec : Codec γ) (required : ℕ) :
    ℕ → Directory γ → Directory γ
  | 0, directory => directory
  | rounds + 1, directory =>
      if saturatingAdd (bytesOf env codec directory) required ≤ recorder.maxBytes then directory
      else
        match oldestCandidate (runsOf env codec directory) with
        | none => directory
        | some oldest => withRoom recorder env codec required rounds (directory.erase oldest.name)

/-- The directory that a publication of `run` writes its file into. -/
def prepared (recorder : Recorder) (env : Environment γ) (codec : Codec γ) (run : DiagnosticRun)
    (directory : Directory γ) : Directory γ :=
  withRoom recorder env codec (codec.size (codec.encode run))
    (opened env codec directory).keys.card (opened env codec directory)

theorem cleanupStaleTemps_yields (directory : Directory γ) :
    Yields (fun store => store.diagnostics = directory) (cleanupStaleTemps env)
      fun _ store => store.diagnostics = withoutTemps env directory := by
  apply inspect_bind_yields env.listing
  apply forM_yields
  intro directory name
  cases temporary : isTemp name with
  | true => exact remove_yields
  | false => exact (Yields.pure _).mono (fun _ same => same) fun _ _ same => same.2

theorem openMarker_yields (directory : Directory γ) (marked : Bool) :
    Yields (fun store => store.diagnostics = directory) (openMarker env marked)
      fun _ store => store.diagnostics = directory := by
  cases marked with
  | true => exact check_yields
  | false => exact (Yields.pure _).mono (fun _ same => same) fun _ _ same => same.2

theorem recoverRun_yields (directory : Directory γ) (name : Text) :
    Yields (fun store => store.diagnostics = directory) (recoverRun env codec name)
      fun _ store => store.diagnostics = withRecovered env codec directory name := by
  have unchanged : ∀ left : Directory γ, Yields (fun store => store.diagnostics = left)
      (pure () : Io γ Unit) fun _ store => store.diagnostics = left := fun left =>
    (Yields.pure _).mono (fun _ same => same) fun _ _ same => same.2
  apply inspect_yields.bind
  intro contents
  apply Yields.assuming (directory.lookup name = some contents)
  · rintro store ⟨rfl, read⟩
    cases stored : store.diagnostics.lookup name with
    | none => simp [Store.directory, stored] at read
    | some other => simpa [Store.directory, stored] using read
  intro stored
  apply Yields.mono _ (fun _ found => found.1) fun _ _ done => done
  rw [withRecovered, stored, Option.bind_some]
  cases codec.decode contents with
  | none => exact unchanged directory
  | some run =>
      dsimp only
      split
      · exact unchanged directory
      · apply reads_bind_yields fun directory : Directory γ =>
          run.owner.isNone && decide (liveMarker run.runId ∈ directory)
        apply (openMarker_yields directory _).bind
        intro _
        split
        · exact unchanged directory
        · apply replace_yields.bind
          intro _
          split
          · exact remove_yields
          · exact unchanged _

theorem openStore_yields (directory : Directory γ) :
    Yields (fun store => store.diagnostics = directory) (Recorder.openStore env codec)
      fun _ store => store.diagnostics = opened env codec directory := by
  apply check_yields.bind
  intro _
  apply (cleanupStaleTemps_yields directory).bind
  intro _
  apply inspect_bind_yields env.listing
  exact forM_yields _ recoverRun_yields _ _

theorem makeRoom_yields (recorder : Recorder) (required rounds : ℕ) (directory : Directory γ) :
    Yields (fun store => store.diagnostics = directory)
      (recorder.makeRoom env codec required rounds)
      fun fits store => store.diagnostics = withRoom recorder env codec required rounds directory ∧
        (fits = true → saturatingAdd (bytesOf env codec store.diagnostics) required ≤
          recorder.maxBytes) := by
  induction rounds generalizing directory with
  | zero =>
      apply inspect_bind_yields (bytesOf env codec)
      apply (Yields.pure _).mono (fun _ same => same)
      rintro fits store ⟨rfl, rfl⟩
      exact ⟨rfl, of_decide_eq_true⟩
  | succ rounds ih =>
      apply inspect_bind_yields (bytesOf env codec)
      rw [withRoom]
      split
      · rename_i room
        apply (Yields.pure _).mono (fun _ same => same)
        rintro fits store ⟨rfl, rfl⟩
        exact ⟨rfl, fun _ => room⟩
      · apply inspect_bind_yields (runsOf env codec)
        cases oldestCandidate (runsOf env codec directory) with
        | none =>
            apply (Yields.pure _).mono (fun _ same => same)
            rintro fits store ⟨rfl, rfl⟩
            exact ⟨rfl, fun fits => by cases fits⟩
        | some oldest => exact remove_yields.bind fun _ => ih _

theorem mem_of_oldestCandidate {oldest : StoredRun}
    (first : oldestCandidate (runsOf env codec directory) = some oldest) :
    oldest.name ∈ directory := by
  have member := List.mem_of_mem_head? first
  rw [List.mem_insertionSort, List.mem_filter, mem_runsOf] at member
  obtain ⟨contents, there, -⟩ := Option.bind_eq_some_iff.mp member.1.2
  exact Finmap.mem_iff.mpr ⟨contents, there⟩

theorem card_erase (there : name ∈ directory) :
    (directory.erase name).keys.card + 1 = directory.keys.card := by
  rw [Finmap.keys_erase]
  exact Finset.card_erase_add_one (Finmap.mem_keys.mpr there)

/-- There are no more rounds that remove a file than there are files. -/
theorem withRoom_succ (recorder : Recorder) (required : ℕ) {rounds : ℕ}
    (enough : directory.keys.card ≤ rounds) :
    withRoom recorder env codec required (rounds + 1) directory =
      withRoom recorder env codec required rounds directory := by
  induction rounds generalizing directory with
  | zero =>
      rw [withRoom, withRoom]
      split
      · rfl
      · cases first : oldestCandidate (runsOf env codec directory) with
        | none => rfl
        | some oldest =>
            have counted := card_erase (mem_of_oldestCandidate first)
            omega
  | succ rounds ih =>
      rw [withRoom, withRoom]
      split
      · rfl
      · cases first : oldestCandidate (runsOf env codec directory) with
        | none => rfl
        | some oldest =>
            have counted := card_erase (mem_of_oldestCandidate first)
            exact ih (by omega)

theorem rounds_bind_yields {β : Type} {rest : ℕ → Io γ β} {last : β → Store γ → Prop}
    (two : Yields (fun store => store.diagnostics = directory) (rest (directory.keys.card + 1))
      last) :
    Yields (fun store => store.diagnostics = directory) (Recorder.rounds >>= rest) last := by
  constructor
  rintro s rfl
  exact two.success s rfl

theorem ensureCapacityLocked_yields (recorder : Recorder) (required : ℕ)
    (directory : Directory γ) :
    Yields (fun store => store.diagnostics = directory)
      (recorder.ensureCapacityLocked env codec required)
      fun fits store =>
        store.diagnostics =
          withRoom recorder env codec required directory.keys.card directory ∧
        (fits = true → saturatingAdd (bytesOf env codec store.diagnostics) required ≤
          recorder.maxBytes) := by
  apply rounds_bind_yields
  rw [← withRoom_succ recorder required (Nat.le_refl directory.keys.card)]
  exact makeRoom_yields recorder required _ directory

/-- The byte cap removes nothing while it holds. -/
theorem enforceByteCapLocked_yields (holds : bytesOf env codec directory ≤ recorder.maxBytes) :
    Yields (fun store => store.diagnostics = directory)
      (recorder.enforceByteCapLocked env codec)
      fun _ store => store.diagnostics = directory := by
  have room : saturatingAdd (bytesOf env codec directory) 0 ≤ recorder.maxBytes :=
    (Nat.min_le_left _ _).trans holds
  have fits : ∀ rounds, Yields (fun store => store.diagnostics = directory)
      (recorder.makeRoom env codec 0 rounds)
      fun fits store => fits = true ∧ store.diagnostics = directory := by
    intro rounds
    cases rounds with
    | zero =>
        apply inspect_bind_yields (bytesOf env codec)
        rw [decide_eq_true room]
        exact Yields.pure true
    | succ rounds =>
        apply inspect_bind_yields (bytesOf env codec)
        rw [if_pos room]
        exact Yields.pure true
  apply rounds_bind_yields
  apply (fits _).bind
  intro answer
  apply Yields.assuming (answer = true) fun _ found => found.1
  rintro rfl
  exact (Yields.pure _).mono (fun _ found => found.2) fun _ _ same => same.2

/-- Where the byte cap holds, retention removes the doomed runs and nothing else. -/
theorem enforceRetentionLocked_yields (holds : bytesOf env codec directory ≤ recorder.maxBytes) :
    Yields (fun store => store.diagnostics = directory)
      (recorder.enforceRetentionLocked env codec)
      fun _ store => store.diagnostics =
        withoutRuns directory (doomed recorder (runsOf env codec directory)) := by
  have removed : bytesOf env codec
      (withoutRuns directory (doomed recorder (runsOf env codec directory))) ≤
        bytesOf env codec directory :=
    bytesOf_withoutRuns_le directory _
  apply inspect_bind_yields (runsOf env codec)
  apply (removeRuns_yields _ directory).bind
  intro _
  apply (removeRuns_yields _ _).bind
  intro _
  rw [doomed, withoutRuns_append] at removed ⊢
  exact enforceByteCapLocked_yields (removed.trans holds)

theorem publishInner_yields (recorder : Recorder) (run : DiagnosticRun)
    (directory : Directory γ) :
    Yields (fun store => store.diagnostics = directory) (recorder.publishInner env codec run)
      fun publication store => publication.stored = true →
        ∃ written, written = (prepared recorder env codec run directory).insert
            (runFile run.runId) (codec.encode run) ∧
          bytesOf env codec written ≤ recorder.maxBytes ∧
          store.diagnostics = withoutRuns written (doomed recorder (runsOf env codec written)) := by
  apply (openStore_yields directory).bind
  intro _
  apply (ensureCapacityLocked_yields recorder (codec.size (codec.encode run)) _).bind
  intro fits
  cases fits with
  | true =>
      apply Yields.assuming (saturatingAdd
        (bytesOf env codec (prepared recorder env codec run directory))
        (codec.size (codec.encode run)) ≤ recorder.maxBytes)
      · rintro store ⟨same, room⟩
        rw [prepared, ← same]
        exact room rfl
      intro room
      apply Yields.mono _ (fun _ found => found.1) fun _ _ done => done
      apply replace_yields.bind
      intro _
      apply (enforceRetentionLocked_yields (bytesOf_insert_le room _)).bind
      intro _
      apply check_yields.bind
      intro _
      apply (Yields.pure _).mono (fun _ same => same)
      rintro publication store ⟨rfl, same⟩ -
      exact ⟨_, rfl, bytesOf_insert_le room _, same⟩
  | false =>
      apply Yields.value.bind
      intro _
      apply Yields.value.bind
      intro _
      apply (Yields.pure _).mono (fun _ found => found)
      rintro publication store ⟨rfl, -⟩ stored
      cases stored

theorem publish_yields (recorder : Recorder) (run : DiagnosticRun) (directory : Directory γ) :
    Yields (fun store => store.diagnostics = directory) (recorder.publish env codec run)
      fun publication store => publication.stored = true → publication.health = .healthy →
        ∃ written, written = (prepared recorder env codec run directory).insert
            (runFile run.runId) (codec.encode run) ∧
          bytesOf env codec written ≤ recorder.maxBytes ∧
          store.diagnostics = withoutRuns written (doomed recorder (runsOf env codec written)) := by
  unfold Recorder.publish
  split
  · apply (Yields.pure _).mono fun _ same => same
    rintro publication store ⟨rfl, -⟩ stored
    cases stored
  · apply Yields.catching
    · apply (publishInner_yields recorder run directory).mono fun _ same => same
      exact fun _ _ published stored _ => published stored
    · intro error
      apply Yields.value.bind
      intro stored
      apply Yields.value.bind
      intro recorded
      cases recorded with
      | true =>
          apply (Yields.pure _).mono fun _ same => same
          rintro publication store ⟨rfl, -⟩ - healthy
          cases healthy
      | false =>
          apply (Yields.pure _).mono fun _ same => same
          rintro publication store ⟨rfl, -⟩ - healthy
          cases healthy

/-- **What a truthful publication takes.** A run that was reported as stored in good
health is in the store exactly when it is retained or fewer runs of its class than the
limit are kept in preference to it. -/
theorem publish_truthful_iff {recorder : Recorder} {run : DiagnosticRun} {session : Session γ}
    {publication : Publication} (valid : validRunId run.runId = true)
    (returned : ((recorder.publish env codec run).run session).result = .ok publication)
    (stored : publication.stored = true) (healthy : publication.health = .healthy) :
    ((((recorder.publish env codec run).run session).final.store.diagnostics.lookup
        (runFile run.runId)).bind codec.decode = some run ↔
      run.retained = true ∨
        preferred (runsOf env codec ((prepared recorder env codec run
          session.store.diagnostics).insert (runFile run.runId) (codec.encode run))) run <
          limitOf recorder run) := by
  have left := (publish_yields recorder run session.store.diagnostics).success session rfl
    publication returned stored healthy
  obtain ⟨written, isWritten, -, final⟩ := left
  rw [final, ← isWritten]
  apply lookup_retained valid
  rw [isWritten, Finmap.lookup_insert]

/-! ## A run that is older than the others -/

/-- A store with so many successful runs, created at times from 2 on. -/
def storeOf (count : ℕ) : Store PlainFile where
  root := ∅
  diagnostics := (List.range count).foldl
    (fun directory index =>
      let id := 'b' :: Nat.toDigits 10 index
      directory.insert (runFile id) (.run (plainRun id (UInt64.ofNat (index + 2))))) ∅

/-- A run is published into the store of the other runs, by the recorder that everyone uses. -/
def publishInto (count : ℕ) (run : DiagnosticRun) :
    Durable.Outcome Purpose (Session PlainFile) IoError Publication :=
  (defaultRecorder.publish quietEnvironment plainCodec run).run ⟨storeOf count, 0, 0, []⟩

theorem publish_truthful_iff_room :
    (publishInto 9 (plainRun ['a'] 1)).result.toOption =
        some ⟨['a'], .complete, .healthy, true⟩ ∧
      ((publishInto 9 (plainRun ['a'] 1)).final.store.diagnostics.lookup (runFile ['a'])).bind
        plainCodec.decode = some (plainRun ['a'] 1) := by
  have returned : (publishInto 9 (plainRun ['a'] 1)).result.toOption =
      some ⟨['a'], .complete, .healthy, true⟩ := by
    decide +kernel
  have room : preferred (runsOf quietEnvironment plainCodec
      ((prepared defaultRecorder quietEnvironment plainCodec (plainRun ['a'] 1)
        (storeOf 9).diagnostics).insert (runFile ['a']) (plainCodec.encode (plainRun ['a'] 1))))
      (plainRun ['a'] 1) < limitOf defaultRecorder (plainRun ['a'] 1) := by
    decide +kernel
  refine ⟨returned, ?_⟩
  cases ended : (publishInto 9 (plainRun ['a'] 1)).result with
  | error e =>
      rw [ended] at returned
      cases returned
  | ok publication =>
      rw [ended] at returned
      cases returned
      exact (publish_truthful_iff (by decide) ended rfl rfl).mpr (Or.inr room)

/-- Ten younger runs are stored, and the run that is published after them is gone. -/
theorem publish_untruthful :
    (publishInto 10 (plainRun ['a'] 1)).result.toOption =
        some ⟨['a'], .complete, .healthy, true⟩ ∧
      (publishInto 10 (plainRun ['a'] 1)).final.store.diagnostics.lookup (runFile ['a']) =
        none := by
  decide +kernel

end Deskkin.Diagnostics
