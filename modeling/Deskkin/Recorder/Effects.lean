/-
# What an operation leaves when it succeeds

The store after an operation that returned a value, call by call. A call that fails
ends the operation, so each rule only looks at the calls that went through. The last
section says which runs a pass over a directory reads.
-/

import Deskkin.Recorder.Store

namespace Deskkin.Diagnostics

open Durable

variable {γ : Type} {env : Environment γ} {codec : Codec γ} {α β : Type}

/-- From a store that satisfies `before`, a value comes with a store that satisfies
`after`. -/
structure Yields (before : Store γ → Prop) (m : Io γ α) (after : α → Store γ → Prop) : Prop where
  success : ∀ s : Session γ, before s.store → ∀ a, (m.run s).result = .ok a →
    after a (m.run s).final.store

/-- The computation never returns a value. -/
def Fails (m : Io γ α) : Prop := ∀ (s : Session γ) a, (m.run s).result ≠ .ok a

section Rules

variable {before : Store γ → Prop} {after : α → Store γ → Prop}

variable {m : Io γ α} {last : β → Store γ → Prop} {rest : α → Io γ β} {directory : Directory γ}

theorem Yields.bind (one : Yields before m after) (two : ∀ a, Yields (after a) (rest a) last) :
    Yields before (m >>= rest) last := by
  constructor
  intro s holds b ended
  cases ran : (m.run s).result with
  | error e =>
      rw [run_bind_of_error rest (by rw [← ran])] at ended
      cases ended
  | ok a =>
      have here := run_bind_of_ok rest (s := s) (t := (m.run s).final) (a := a)
        (by rw [← ran])
      rw [here] at ended ⊢
      exact (two a).success _ (one.success s holds a ran) b ended

theorem Yields.mono {stricter : Store γ → Prop} {looser : α → Store γ → Prop}
    (yields : Yields before m after) (entry : ∀ store, stricter store → before store)
    (leave : ∀ a store, after a store → looser a store) : Yields stricter m looser :=
  ⟨fun s holds a ended => leave a _ (yields.success s (entry _ holds) a ended)⟩

theorem Yields.and {other : α → Store γ → Prop} (one : Yields before m after)
    (two : Yields before m other) : Yields before m fun a store => after a store ∧ other a store :=
  ⟨fun s holds a ended => ⟨one.success s holds a ended, two.success s holds a ended⟩⟩

/-- A fact that the entry condition implies may be assumed. -/
theorem Yields.assuming (fact : Prop) (known : ∀ store, before store → fact)
    (yields : fact → Yields before m after) : Yields before m after :=
  ⟨fun s holds => (yields (known _ holds)).success s holds⟩

theorem Yields.value : Yields before m fun _ _ => True :=
  ⟨fun _ _ _ _ => trivial⟩

theorem Yields.pure (a : α) : Yields before (Pure.pure a) fun b store => b = a ∧ before store := by
  constructor
  intro s holds b ended
  cases ended
  exact ⟨rfl, holds⟩

theorem fails_fail (e : IoError) : Fails (Durable.fail e : Io γ α) := by
  intro s a ended
  cases ended

theorem Fails.bind (fails : ∀ a, Fails (rest a)) : Fails (m >>= rest) := by
  intro s b ended
  cases ran : (m.run s).result with
  | error e =>
      rw [run_bind_of_error rest (by rw [← ran])] at ended
      cases ended
  | ok a =>
      rw [run_bind_of_ok rest (s := s) (t := (m.run s).final) (a := a) (by rw [← ran])] at ended
      exact fails a _ b ended

theorem Fails.yields (fails : Fails m) : Yields before m after :=
  ⟨fun s _ a ended => absurd ended (fails s a)⟩

theorem Yields.catching {handler : IoError → Io γ α} (yields : Yields before m after)
    (handled : ∀ e, Yields (fun _ => True) (handler e) after) :
    Yields before (m.catching handler) after := by
  constructor
  intro s holds a ended
  cases ran : m.run s with
  | mk result t trail =>
      cases result with
      | error e =>
          simp only [Durable.catching, ran] at ended ⊢
          exact (handled e).success _ trivial a ended
      | ok b =>
          simp only [Durable.catching, ran] at ended ⊢
          have here := yields.success s holds a (by rw [ran]; exact ended)
          rw [ran] at here
          exact here

theorem inspect_yields {f : Store γ → Except IoError α} :
    Yields before (inspect env f) fun a store => before store ∧ f store = .ok a := by
  constructor
  intro s holds a ended
  simp only [inspect] at ended
  split at ended
  · cases ended
  · exact ⟨holds, ended⟩

/-- What is read of the directory is passed on. -/
theorem inspect_bind_yields (f : Directory γ → α)
    (two : Yields (fun store => store.diagnostics = directory) (rest (f directory)) last) :
    Yields (fun store => store.diagnostics = directory)
      (inspect env (fun s => .ok (f s.diagnostics)) >>= rest) last := by
  apply inspect_yields.bind
  intro a
  constructor
  rintro s ⟨rfl, read⟩
  cases read
  exact two.success s rfl

theorem reads_bind_yields (f : Directory γ → α)
    (two : Yields (fun store => store.diagnostics = directory) (rest (f directory)) last) :
    Yields (fun store => store.diagnostics = directory)
      (Durable.reads (fun s => f s.store.diagnostics) >>= rest) last := by
  constructor
  rintro s rfl
  rw [run_reads_bind]
  exact two.success s rfl

theorem check_yields : Yields before (check env) fun _ => before :=
  inspect_yields.mono (fun _ holds => holds) fun _ _ holds => holds.1

theorem nextSuffix_yields : Yields before nextSuffix fun _ => before :=
  ⟨fun _ holds _ _ => holds⟩

theorem change_yields {purpose : Purpose} {place : Place}
    {f : Directory γ → Except IoError (Directory γ)} {after : Store γ → Prop}
    (reached : ∀ store directory, before store → f (store.directory place) = .ok directory →
      after (store.withDirectory place directory)) :
    Yields before (change env purpose place f) fun _ => after := by
  constructor
  intro s holds a ended
  simp only [change] at ended ⊢
  split at ended
  · cases ended
  · rename_i directory found
    split at found
    · cases found
    · exact reached s.store directory holds found

/-- A loop whose rounds each change the directory changes it round by round. -/
theorem forM_yields {δ : Type} {body : δ → Io γ PUnit} (f : Directory γ → δ → Directory γ)
    (one : ∀ directory c, Yields (fun store => store.diagnostics = directory) (body c)
      fun _ store => store.diagnostics = f directory c)
    (items : List δ) (directory : Directory γ) :
    Yields (fun store => store.diagnostics = directory) (items.forM body)
      fun _ store => store.diagnostics = items.foldl f directory := by
  induction items generalizing directory with
  | nil => exact (Yields.pure PUnit.unit).mono (fun _ holds => holds) fun _ _ holds => holds.2
  | cons c rest ih => exact (one directory c).bind fun _ => ih (f directory c)

end Rules

/-! ## Files -/

@[simp]
theorem directory_withDirectory (store : Store γ) (place : Place) (directory : Directory γ) :
    (store.withDirectory place directory).directory place = directory := by
  cases place <;> rfl

variable {directory : Directory γ}

/-- A temporary file that is renamed leaves nothing behind. -/
theorem erase_insert_insert {temp : Text} (absent : temp ∉ directory) (first second : γ) :
    ((directory.insert temp first).insert temp second).erase temp = directory := by
  apply Finmap.ext_lookup
  intro name
  by_cases same : name = temp
  · subst same
    rw [Finmap.lookup_erase, Finmap.lookup_eq_none.mpr absent]
  · rw [Finmap.lookup_erase_ne same, Finmap.lookup_insert_of_ne _ same,
      Finmap.lookup_insert_of_ne _ same]

theorem atomicWrite_yields {empty : γ} {purpose : Purpose} {place : Place} {name : Text}
    {contents : γ} {directory : Directory γ} :
    Yields (fun store => store.directory place = directory)
      (atomicWrite env empty purpose place name contents)
      fun _ store => store.directory place = directory.insert name contents := by
  apply check_yields.bind
  intro _
  apply nextSuffix_yields.bind
  intro suffix
  apply Yields.catching
  · generalize withExtension name (tempExtension suffix) = temp
    have created : Yields (fun store => store.directory place = directory)
        (createNew env place temp empty) fun _ store => temp ∉ directory ∧
          store.directory place = directory.insert temp empty := by
      apply change_yields
      rintro store next rfl made
      split at made
      · cases made
      · rename_i absent
        cases made
        exact ⟨absent, directory_withDirectory _ _ _⟩
    have wrote : Yields (fun store => temp ∉ directory ∧
        store.directory place = directory.insert temp empty)
        (write env place temp contents) fun _ store => temp ∉ directory ∧
          store.directory place = (directory.insert temp empty).insert temp contents := by
      apply change_yields
      rintro store next ⟨absent, there⟩ made
      cases made
      exact ⟨absent, by rw [directory_withDirectory, there]⟩
    have renamed : Yields (fun store => temp ∉ directory ∧
        store.directory place = (directory.insert temp empty).insert temp contents)
        (rename env purpose place temp name) fun _ store =>
          store.directory place = directory.insert name contents := by
      apply change_yields
      rintro store next ⟨absent, there⟩ made
      rw [there, Finmap.lookup_insert, erase_insert_insert absent] at made
      cases made
      exact directory_withDirectory _ _ _
    exact created.bind fun _ => wrote.bind fun _ => check_yields.bind fun _ =>
      renamed.bind fun _ => check_yields
  · exact fun error => (Fails.bind fun _ => fails_fail error).yields

theorem removeAndSync_yields {purpose : Purpose} {place : Place} {name : Text} :
    Yields (fun store => store.directory place = directory)
      (removeAndSync env purpose place name)
      fun _ store => name ∈ directory ∧ store.directory place = directory.erase name := by
  have removed : Yields (fun store => store.directory place = directory)
      (removeFile env purpose place name)
      fun _ store => name ∈ directory ∧ store.directory place = directory.erase name := by
    apply change_yields
    rintro store next rfl made
    split at made
    · rename_i there
      cases made
      exact ⟨there, directory_withDirectory _ _ _⟩
    · cases made
  exact removed.bind fun _ => check_yields

/-! ## The runs that are read -/

theorem mem_runsOf {stored : StoredRun} :
    stored ∈ runsOf env codec directory ↔ isJson stored.name = true ∧
      (directory.lookup stored.name).bind codec.decode = some stored.run := by
  simp only [runsOf, List.mem_filterMap, List.mem_filter, Option.map_eq_some_iff, env.mem_listing]
  constructor
  · rintro ⟨name, ⟨-, json⟩, run, found, rfl⟩
    exact ⟨json, found⟩
  · rintro ⟨json, found⟩
    obtain ⟨contents, there, -⟩ := Option.bind_eq_some_iff.mp found
    exact ⟨stored.name, ⟨Finmap.mem_of_lookup_eq_some there, json⟩, stored.run, found, rfl⟩

theorem mem_expendable {success : Bool} {runs : List StoredRun} {stored : StoredRun} :
    stored ∈ expendable success runs ↔ stored ∈ runs ∧ stored.run.retained = false ∧
      decide (stored.run.outcome = .success) = success := by
  rw [expendable, List.mem_insertionSort, List.mem_filter, Bool.and_eq_true, Bool.not_eq_true',
    beq_iff_eq]

end Deskkin.Diagnostics
