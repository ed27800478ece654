/-
# What leftover temporary files do to an operation

Two properties of everything that a recorder does, followed through its functions side by
side. Whatever call fails and wherever the process dies, a file that is not temporary holds
what it held before or a record that was written whole. And where no call fails, an operation
goes as it would go without the leftovers: the ones in the directory it works in are removed
first, and those in the root only matter to a health record whose own temporary file is
called like one of them.
-/

import Deskkin.Lib.Lockstep
import Deskkin.Recorder.DroppedPublication

namespace Deskkin.Diagnostics

open Durable

variable {γ : Type} {env : Environment γ} {codec : Codec γ} {α β : Type}

/-! ## Files that are written whole -/

/-- What an operation may leave of a file, `none` where it may remove it. -/
abbrev Writes (γ : Type) : Type := Place → Text → Option γ → Prop

/-- Each file that is not temporary is as it was before, or as the operation leaves it. -/
def Untorn (writes : Writes γ) (before : Store γ) (session : Session γ) : Prop :=
  ∀ place name, isTemp name = false →
    (session.store.directory place).lookup name = (before.directory place).lookup name ∨
      writes place name ((session.store.directory place).lookup name)

def healthFile : Text := "recording-health.json".toList

/-- The temporary file of the health record with this number. -/
def healthTemp (number : UInt64) : Text := withExtension healthFile (tempExtension number.toNat)

/-- Whole records: a run in its file or over an older state of the run, and a health record
in the root. Runs and markers may also be removed. -/
def Records (codec : Codec γ) (before : Store γ) : Writes γ
  | .diagnostics, _, none => True
  | .diagnostics, name, some contents => ∃ run, contents = codec.encode run ∧
      (name = runFile run.runId ∨
        ∃ old, (before.diagnostics.lookup name).bind codec.decode = some old ∧
          old.runId = run.runId)
  | .root, name, contents =>
      name = healthFile ∧ ∃ publication, contents = some (codec.encodeHealth publication)

variable {name : Text}

/-- A run that was read from a file is written back under its id. -/
theorem records_again {before : Store γ} {contents : γ} {run other : DiagnosticRun}
    (read : before.diagnostics.lookup name = some contents ∨
      Records codec before .diagnostics name (some contents))
    (decoded : codec.decode contents = some run) (same : other.runId = run.runId) :
    Records codec before .diagnostics name (some (codec.encode other)) := by
  refine ⟨other, rfl, ?_⟩
  rw [same]
  rcases read with stored | ⟨written, rfl, named⟩
  · exact Or.inr ⟨run, by rw [stored, Option.bind_some, decoded], rfl⟩
  · rw [codec.decode_encode, Option.some.injEq] at decoded
    rwa [decoded] at named

theorem fileStem_ne_nil (named : name ≠ []) : fileStem name ≠ [] := by
  unfold fileStem
  split
  · exact List.cons_ne_nil _ _
  · exact named

theorem isTemp_withExtension (named : name ≠ []) (suffix : ℕ) :
    isTemp (withExtension name (tempExtension suffix)) = true := by
  rw [isTemp, withExtension, extension_append (fileStem_ne_nil named) (tempExtension_plain suffix)]
  rfl

theorem isTemp_healthTemp (number : UInt64) : isTemp (healthTemp number) = true :=
  isTemp_withExtension (by decide) _

theorem isTemp_healthFile : isTemp healthFile = false := by
  decide

theorem runFile_ne_nil (id : Text) : runFile id ≠ [] := by
  simp [runFile]

/-- Also the file of a run whose id is not valid is not temporary. -/
theorem isTemp_fileOfRun (id : Text) : isTemp (runFile id) = false := by
  cases id with
  | nil => decide
  | cons c rest =>
      apply isTemp_of_isJson
      rw [isJson, runFile_eq, extension_append (List.cons_ne_nil c rest) (by decide)]
      rfl

/-! ## Sessions that differ in leftovers -/

/-- The sessions differ in temporary files only: in the root in those that are left over, and
in the directory of the runs, unless `same` says that it is the same in both. -/
structure Alongside (left : Text → Prop) (same : Prop) (s t : Session γ) : Prop where
  counter : s.runCounter = t.runCounter
  root : ∀ name, ¬left name → s.store.root.lookup name = t.store.root.lookup name
  clean : ∀ name ∈ t.store.root, isTemp name = false
  targets : ∀ name, isTemp name = false →
    s.store.diagnostics.lookup name = t.store.diagnostics.lookup name
  runs : same → s.store.diagnostics = t.store.diagnostics

/-- No health record is written by way of a file that is left over. -/
def Clear (left : Text → Prop) (entry : Purpose × Session γ) : Prop :=
  entry.1 = .health → ¬left (healthTemp (entry.2.runCounter - 1))

variable {left : Text → Prop} {same : Prop}

theorem Alongside.mono {s t : Session γ} {other : Prop} (along : Alongside left same s t)
    (fewer : other → same) : Alongside left other s t :=
  { along with runs := fun holds => along.runs (fewer holds) }

theorem Alongside.called {s t : Session γ} (along : Alongside left same s t) :
    Alongside left same s.called t.called :=
  ⟨along.counter, along.root, along.clean, along.targets, along.runs⟩

/-- The computation leaves files whole, and it goes the same way with and without leftovers
if no call fails. -/
structure Tidy (env : Environment γ) (writes : Writes γ) (base : Store γ) (left : Text → Prop)
    (before : Prop) (m : Io γ α) (after : Prop) : Prop where
  untorn : Keeps (Untorn writes base) (Untorn writes base) m fun _ => Untorn writes base
  lockstep : (∀ n, env.fails n = false) →
    Lockstep (Clear left) (Alongside left before) m (fun _ => Alongside left after)
      (Alongside left False)

section Rules

variable {writes : Writes γ} {base : Store γ} {before middle after : Prop}

variable {m : Io γ α} {rest : α → Io γ β}

theorem Tidy.bind (one : Tidy env writes base left before m middle)
    (two : ∀ a, Tidy env writes base left middle (rest a) after) :
    Tidy env writes base left before (m >>= rest) after :=
  ⟨one.untorn.bind fun a => (two a).untorn,
    fun quiet => (one.lockstep quiet).bind fun a => (two a).lockstep quiet⟩

/-- What is known of a value only matters to what is written, and there all writes may be
allowed where it is not known. -/
theorem Tidy.bind_known {fact : α → Prop} (one : Tidy env writes base left before m middle)
    (known : Keeps (Untorn writes base) (Untorn writes base) m
      fun a s => fact a ∧ Untorn writes base s)
    (two : ∀ a (allowed : Writes γ), (allowed = writes ∧ fact a ∨ allowed = fun _ _ _ => True) →
      Tidy env allowed base left middle (rest a) after) :
    Tidy env writes base left before (m >>= rest) after := by
  refine ⟨known.bind fun a => ?_, fun quiet => (one.lockstep quiet).bind fun a =>
    (two a _ (Or.inr rfl)).lockstep quiet⟩
  apply Keeps.assuming fun _ found => found.1
  intro here
  exact (two a writes (Or.inl ⟨rfl, here⟩)).untorn.mono (fun _ found => found.2)
    fun _ _ left => left

theorem Tidy.catching {handler : IoError → Io γ α} (one : Tidy env writes base left before m after)
    (handled : ∀ e, Tidy env writes base left False (handler e) after) :
    Tidy env writes base left before (m.catching handler) after :=
  ⟨one.untorn.catching fun e => (handled e).untorn,
    fun quiet => (one.lockstep quiet).catching fun e => (handled e).lockstep quiet⟩

theorem Tidy.pure (a : α) : Tidy env writes base left same (Pure.pure a) same :=
  ⟨Keeps.pure (fun _ holds => holds) fun _ holds => holds,
    fun _ => Lockstep.pure fun _ _ along => along⟩

theorem Tidy.fail (e : IoError) :
    Tidy env writes base left before (Durable.fail e : Io γ α) after :=
  ⟨Keeps.fail fun _ holds => holds, fun _ => Lockstep.fail fun _ _ along => along.mono False.elim⟩

theorem Tidy.forM {δ : Type} {body : δ → Io γ PUnit} (items : List δ)
    (one : ∀ c ∈ items, Tidy env writes base left same (body c) same) :
    Tidy env writes base left same (items.forM body) same :=
  ⟨Keeps.forM (fun _ holds => holds) items fun c member => (one c member).untorn,
    fun quiet => Lockstep.forM items fun c member => (one c member).lockstep quiet⟩

theorem Tidy.mono {more fewer : Prop} (tidy : Tidy env writes base left before m after)
    (entry : before → more) (leave : fewer → after) : Tidy env writes base left more m fewer :=
  ⟨tidy.untorn, fun quiet => (tidy.lockstep quiet).mono (fun _ _ along => along.mono entry)
    (fun _ _ _ along => along.mono leave) fun _ _ along => along⟩

/-- Nothing is known any more about the directory of the runs. -/
theorem Tidy.forget (tidy : Tidy env writes base left before m after) :
    Tidy env writes base left before m False :=
  tidy.mono id False.elim

end Rules

/-! ## Calls -/

section Calls

variable {writes : Writes γ} {base : Store γ}

theorem inspect_lockstep {f : Store γ → Except IoError α} (quiet : ∀ n, env.fails n = false)
    (alike : ∀ s t : Session γ, Alongside left same s t → f s.store = f t.store) :
    Lockstep (Clear left) (Alongside left same) (inspect env f)
      (fun _ => Alongside left same) (Alongside left same) := by
  intro s t along _
  simp only [inspect, quiet, Bool.false_eq_true, if_false, alike s t along]
  cases f t.store with
  | ok a => exact .ok a along.called
  | error e => exact .error e along.called

theorem inspect_tidy {f : Store γ → Except IoError α}
    (alike : ∀ s t : Session γ, Alongside left same s t → f s.store = f t.store) :
    Tidy env writes base left same (inspect env f) same :=
  ⟨inspect_keeps (fun _ holds => holds) fun _ _ holds _ => holds,
    fun quiet => (inspect_lockstep quiet alike).mono (fun _ _ along => along)
      (fun _ _ _ along => along) fun _ _ along => along.mono False.elim⟩

theorem check_tidy : Tidy env writes base left same (check env) same :=
  inspect_tidy fun _ _ _ => rfl

theorem nextSuffix_lockstep {failed : Session γ → Session γ → Prop} :
    Lockstep (Clear left) (Alongside left same) nextSuffix (fun _ => Alongside left same)
      failed := by
  intro s t along _
  simp only [nextSuffix, along.counter]
  exact .ok _ ⟨rfl, along.root, along.clean, along.targets, along.runs⟩

/-- What depends on the directory of the runs alone. -/
theorem reads_tidy (f : Directory γ → α) :
    Tidy env writes base left True (Durable.reads fun s => f s.store.diagnostics) True :=
  ⟨Keeps.reads (fun _ holds => holds) fun _ holds => holds,
    fun _ => Lockstep.read (fun s t along => by simp only [along.runs trivial])
      (fun _ _ _ along _ => along) fun _ _ along => along.mono False.elim⟩

theorem inspectRuns_tidy (f : Directory γ → Except IoError α) :
    Tidy env writes base left True (inspect env fun s => f s.diagnostics) True :=
  inspect_tidy fun s t along => by rw [along.runs trivial]

variable {purpose : Purpose} {f : Directory γ → Except IoError (Directory γ)} {place : Place}
  {name : Text} {contents : γ} {empty : γ}

theorem change_lockstep (quiet : ∀ n, env.fails n = false) :
    Lockstep (Clear left) (Alongside left True) (change env purpose .diagnostics f)
      (fun _ => Alongside left True) (Alongside left True) := by
  intro s t along _
  simp only [change, quiet, Bool.false_eq_true, if_false, Store.directory, along.runs trivial]
  cases f t.store.diagnostics with
  | error e => exact .error e along.called
  | ok directory =>
      exact .ok () ⟨along.counter, along.root, along.clean, fun _ _ => rfl, fun _ => rfl⟩

/-- A change of one directory, with what is known of it. -/
theorem change_untorn (known after : Directory γ → Prop)
    (reached : ∀ directory next, known directory → f directory = .ok next → after next)
    (kept : ∀ directory next name, known directory → f directory = .ok next →
      isTemp name = false → next.lookup name = directory.lookup name ∨
        writes place name (next.lookup name)) :
    Keeps (Untorn writes base)
      (fun s => known (s.store.directory place) ∧ Untorn writes base s)
      (change env purpose place f)
      fun _ s => after (s.store.directory place) ∧ Untorn writes base s := by
  apply change_keeps (fun _ holds => holds.2) (fun _ holds => holds.2)
  rintro s directory ⟨knows, untorn⟩ moved
  refine ⟨?_, fun here name file => ?_⟩
  · simpa only [Session.updated, directory_withDirectory] using reached _ _ knows moved
  · by_cases there : here = place
    · subst there
      simp only [Session.updated, directory_withDirectory]
      rcases kept _ _ name knows moved file with old | written
      · rw [old]
        exact untorn here name file
      · exact Or.inr written
    · have before := untorn here name file
      cases here <;> cases place <;> first | exact absurd rfl there | exact before

theorem removeFile_untorn (allowed : isTemp name = true ∨ writes place name none) :
    Keeps (Untorn writes base) (Untorn writes base) (removeFile env purpose place name)
      fun _ => Untorn writes base := by
  have removed : Keeps (Untorn writes base) (fun s => True ∧ Untorn writes base s)
      (removeFile env purpose place name) fun _ s => True ∧ Untorn writes base s := by
    apply change_untorn (fun _ => True) (fun _ => True) fun _ _ _ _ => trivial
    intro directory next other _ gone file
    split at gone
    · cases gone
      by_cases own : other = name
      · subst own
        rw [Finmap.lookup_erase]
        rw [file] at allowed
        exact Or.inr (allowed.resolve_left Bool.false_ne_true)
      · exact Or.inl (Finmap.lookup_erase_ne own)
    · cases gone
  exact removed.mono (fun _ holds => ⟨trivial, holds⟩) fun _ _ holds => holds.2

theorem removeAndSync_tidy {purpose : Purpose} {name : Text}
    (allowed : isTemp name = true ∨ writes .diagnostics name none) :
    Tidy env writes base left True (removeAndSync env purpose .diagnostics name) True :=
  Tidy.bind ⟨removeFile_untorn allowed,
    fun quiet => (change_lockstep quiet).mono (fun _ _ along => along)
    (fun _ _ _ along => along) fun _ _ along => along.mono False.elim⟩ fun _ => check_tidy

/-! ### Writing a file -/

/-- The temporary file holds the contents when it is renamed. -/
theorem atomicWrite_untorn (named : name ≠ []) (written : writes place name (some contents)) :
    Keeps (Untorn writes base) (Untorn writes base)
      (atomicWrite env empty purpose place name contents) fun _ => Untorn writes base := by
  have checked : ∀ known : Directory γ → Prop, Keeps (Untorn writes base)
      (fun s => known (s.store.directory place) ∧ Untorn writes base s) (check env)
      fun _ s => known (s.store.directory place) ∧ Untorn writes base s := fun known =>
    inspect_keeps (fun _ holds => holds.2) fun _ _ holds _ => holds
  have numbered : Keeps (Untorn writes base) (fun s => True ∧ Untorn writes base s) nextSuffix
      fun _ s => True ∧ Untorn writes base s := nextSuffix_keeps fun _ holds => holds
  suffices whole : Keeps (Untorn writes base) (fun s => True ∧ Untorn writes base s)
      (atomicWrite env empty purpose place name contents) fun _ => Untorn writes base from
    whole.mono (fun _ holds => ⟨trivial, holds⟩) fun _ _ holds => holds
  apply (checked fun _ => True).bind
  intro _
  apply numbered.bind
  intro suffix
  have temporary := isTemp_withExtension named suffix
  generalize withExtension name (tempExtension suffix) = temp at temporary
  have apart : ∀ {other}, isTemp other = false → other ≠ temp := by
    rintro other file rfl
    rw [temporary] at file
    cases file
  have created : Keeps (Untorn writes base) (fun s => True ∧ Untorn writes base s)
      (createNew env place temp empty) fun _ s => True ∧ Untorn writes base s := by
    apply change_untorn (fun _ => True) (fun _ => True) fun _ _ _ _ => trivial
    intro directory next other _ made file
    split at made
    · cases made
    · cases made
      exact Or.inl (Finmap.lookup_insert_of_ne _ (apart file))
  have wrote : Keeps (Untorn writes base) (fun s => True ∧ Untorn writes base s)
      (write env place temp contents)
      fun _ s => (s.store.directory place).lookup temp = some contents ∧
        Untorn writes base s := by
    apply change_untorn (fun _ => True) fun directory => directory.lookup temp = some contents
    · intro directory next _ made
      cases made
      exact Finmap.lookup_insert _
    · intro directory next other _ made file
      cases made
      exact Or.inl (Finmap.lookup_insert_of_ne _ (apart file))
  have renamed : Keeps (Untorn writes base)
      (fun s => (s.store.directory place).lookup temp = some contents ∧ Untorn writes base s)
      (rename env purpose place temp name) fun _ s => True ∧ Untorn writes base s := by
    apply change_untorn (fun directory => directory.lookup temp = some contents) (fun _ => True)
      fun _ _ _ _ => trivial
    intro directory next other stored made file
    rw [stored] at made
    cases made
    by_cases target : other = name
    · rw [target, Finmap.lookup_insert]
      exact Or.inr written
    · rw [Finmap.lookup_insert_of_ne _ target, Finmap.lookup_erase_ne (apart file)]
      exact Or.inl rfl
  apply Keeps.catching
  · have synced := checked fun directory => directory.lookup temp = some contents
    have all := created.bind fun _ => wrote.bind fun _ => synced.bind fun _ => renamed.bind fun _ =>
      checked fun _ => True
    exact all.mono (fun _ holds => holds) fun _ _ holds => holds.2
  · intro error
    have tidied : Keeps (Untorn writes base) (Untorn writes base)
        (Durable.catching (removeFile env .temporary place temp) fun _ => return ())
        fun _ => Untorn writes base :=
      (removeFile_untorn (Or.inl temporary)).catching fun _ =>
        Keeps.pure (fun _ holds => holds) fun _ holds => holds
    exact tidied.bind fun _ => Keeps.fail fun _ holds => holds

variable (quiet : ∀ n, env.fails n = false)
include quiet

theorem atomicWrite_lockstep :
    Lockstep (Clear left) (Alongside left True)
      (atomicWrite env empty purpose .diagnostics name contents)
      (fun _ => Alongside left True) (Alongside left True) := by
  have checked : Lockstep (Clear left) (Alongside left True) (check env)
      (fun _ => Alongside left True) (Alongside left True) :=
    inspect_lockstep quiet fun _ _ _ => rfl
  apply checked.bind
  intro _
  apply nextSuffix_lockstep.bind
  intro suffix
  apply Lockstep.catching
  · exact (change_lockstep quiet).bind fun _ => (change_lockstep quiet).bind fun _ =>
      checked.bind fun _ => (change_lockstep quiet).bind fun _ => checked
  · intro error
    have tidied : Lockstep (Clear left) (Alongside left True)
        (Durable.catching
          (removeFile env .temporary .diagnostics (withExtension name (tempExtension suffix)))
          fun _ => return ())
        (fun _ => Alongside left True) (Alongside left True) :=
      (change_lockstep quiet).catching fun _ => Lockstep.pure fun _ _ along => along
    exact tidied.bind fun _ => Lockstep.fail fun _ _ along => along

omit quiet in
/-- A file in the directory of the runs. -/
theorem atomicWrite_tidy (named : name ≠ []) (written : writes .diagnostics name (some contents)) :
    Tidy env writes base left True (atomicWrite env empty purpose .diagnostics name contents)
      True :=
  ⟨atomicWrite_untorn named written, fun quiet => (atomicWrite_lockstep quiet).mono
    (fun _ _ along => along) (fun _ _ _ along => along) fun _ _ along => along.mono False.elim⟩

theorem check_run (s : Session γ) : (check env).run s = ⟨.ok (), s.called, []⟩ := by
  simp only [check, inspect, quiet, Bool.false_eq_true, if_false]

theorem change_run {s : Session γ} {directory next : Directory γ}
    (here : s.store.directory place = directory) (moved : f directory = .ok next) :
    ∃ t : Session γ, (change env purpose place f).run s = ⟨.ok (), t, [(purpose, t)]⟩ ∧
      t.runCounter = s.runCounter ∧ t.store = s.store.withDirectory place next := by
  refine ⟨s.called.updated purpose (s.store.withDirectory place next), ?_, rfl, rfl⟩
  simp only [change, quiet, Bool.false_eq_true, if_false, here, moved]

omit quiet in
@[simp]
theorem withDirectory_withDirectory (store : Store γ) (place : Place)
    (first second : Directory γ) :
    (store.withDirectory place first).withDirectory place second =
      store.withDirectory place second := by
  cases place <;> rfl

/-- Where no call fails and the temporary file is new the file is written. -/
theorem atomicWrite_run {empty : γ} {purpose : Purpose} {place : Place} {name : Text} {contents : γ}
    {s : Session γ}
    (absent : withExtension name (tempExtension s.runCounter.toNat) ∉ s.store.directory place) :
    ∃ final trail, (atomicWrite env empty purpose place name contents).run s =
        ⟨.ok (), final, trail⟩ ∧
      final.runCounter = s.runCounter + 1 ∧
      final.store = s.store.withDirectory place
        ((s.store.directory place).insert name contents) ∧
      ∃ entry ∈ trail, entry.1 = purpose ∧ entry.2.runCounter = s.runCounter + 1 := by
  generalize temporary : withExtension name (tempExtension s.runCounter.toNat) = temp at absent
  generalize old : s.store.directory place = directory at absent
  obtain ⟨numbered, drawn⟩ : ∃ t : Session γ, t =
      { s.called with runCounter := s.runCounter + 1 } := ⟨_, rfl⟩
  have start : numbered.store = s.store := by rw [drawn, Session.called]
  obtain ⟨one, created, counted, stored⟩ : ∃ t : Session γ,
      (createNew env place temp empty).run numbered = ⟨.ok (), t, [(.temporary, t)]⟩ ∧
        t.runCounter = numbered.runCounter ∧
        t.store = numbered.store.withDirectory place (directory.insert temp empty) :=
    change_run quiet (by rw [start, old]) (if_neg absent)
  obtain ⟨two, wrote, counted', stored'⟩ : ∃ t : Session γ,
      (write env place temp contents).run one = ⟨.ok (), t, [(.temporary, t)]⟩ ∧
        t.runCounter = one.runCounter ∧ t.store = one.store.withDirectory place
          ((directory.insert temp empty).insert temp contents) :=
    change_run quiet (by rw [stored, directory_withDirectory]) rfl
  obtain ⟨three, moved, counted'', stored''⟩ : ∃ t : Session γ,
      (rename env purpose place temp name).run two.called = ⟨.ok (), t, [(purpose, t)]⟩ ∧
        t.runCounter = two.called.runCounter ∧
        t.store = two.called.store.withDirectory place (directory.insert name contents) := by
    apply change_run quiet (by rw [Session.called, stored', directory_withDirectory])
    rw [Finmap.lookup_insert, erase_insert_insert absent]
  have total : three.runCounter = s.runCounter + 1 := by
    rw [counted'', Session.called, counted', counted, drawn]
  refine ⟨three.called, [(.temporary, one), (.temporary, two), (purpose, three)], ?_, total, ?_,
    (purpose, three), by simp, rfl, total⟩
  · have suffix : (nextSuffix : Io γ ℕ).run s.called = ⟨.ok s.runCounter.toNat, numbered, []⟩ := by
      rw [drawn]
      rfl
    simp only [atomicWrite, run_bind, check_run quiet, suffix, temporary, Durable.catching, created,
      wrote, moved]
    rfl
  · rw [Session.called, stored'', Session.called, stored', stored, start]
    simp only [withDirectory_withDirectory]

end Calls

/-! ## The functions of the recorder -/

section Functions

variable {base : Store γ}

/-- The health record. It is written by way of a file that is not left over. -/
theorem publishHealthLocked_tidy (publication : Publication) :
    Tidy env (Records codec base) base left same (publishHealthLocked env codec publication)
      same := by
  refine ⟨atomicWrite_untorn (by decide) ⟨rfl, publication, rfl⟩, fun quiet s t along clear => ?_⟩
  have absent : healthTemp t.runCounter ∉ t.store.root := by
    intro there
    have file := along.clean _ there
    rw [isTemp_healthTemp] at file
    cases file
  obtain ⟨last, trail, ran, counted, stored, entry, member, health, number⟩ :=
    @atomicWrite_run γ env quiet codec.empty .health .root healthFile
      (codec.encodeHealth publication) t absent
  have run : (publishHealthLocked env codec publication).run t = ⟨.ok (), last, trail⟩ := ran
  rw [run] at clear ⊢
  have apart : ¬left (healthTemp s.runCounter) := by
    have free := clear entry member health
    rwa [number, UInt64.add_sub_cancel, ← along.counter] at free
  have vacant : healthTemp s.runCounter ∉ s.store.root := by
    rw [← Finmap.lookup_eq_none, along.root _ apart, Finmap.lookup_eq_none, along.counter]
    exact absent
  obtain ⟨final, other, followed, counted', stored', -⟩ :=
    @atomicWrite_run γ env quiet codec.empty .health .root healthFile
      (codec.encodeHealth publication) s vacant
  have follows : (publishHealthLocked env codec publication).run s = ⟨.ok (), final, other⟩ :=
    followed
  rw [follows]
  refine .ok () ⟨by rw [counted, counted', along.counter], ?_, ?_, ?_, ?_⟩
  · intro name kept
    rw [stored, stored']
    by_cases own : name = healthFile
    · rw [own]
      simp only [Store.withDirectory, Finmap.lookup_insert]
    · exact (Finmap.lookup_insert_of_ne _ own).trans
        ((along.root name kept).trans (Finmap.lookup_insert_of_ne _ own).symm)
  · intro name there
    rw [stored] at there
    rcases Finmap.mem_insert.mp there with rfl | before
    · exact isTemp_healthFile
    · exact along.clean name before
  · rw [stored, stored']
    exact along.targets
  · rw [stored, stored']
    exact along.runs

variable {name : Text}

/-- What is read from a file that is not temporary was there before or was written whole. -/
theorem readFile_untorn {writes : Writes γ} (file : isTemp name = false) :
    Keeps (Untorn writes base) (Untorn writes base) (readFile env .diagnostics name)
      fun contents s => (base.diagnostics.lookup name = some contents ∨
        writes .diagnostics name (some contents)) ∧ Untorn writes base s := by
  apply inspect_keeps (fun _ holds => holds)
  intro s contents untorn read
  refine ⟨?_, untorn⟩
  have whole := untorn .diagnostics name file
  dsimp only [Store.directory, Session.called] at read whole
  split at read
  · cases read
  · rename_i stored
    cases read
    rw [stored] at whole
    exact whole.imp_left Eq.symm

theorem readFile_tidy {writes : Writes γ} :
    Tidy env writes base left True (readFile env .diagnostics name) True :=
  inspect_tidy fun s t along => by simp only [Store.directory, along.runs trivial]

theorem lookup_withoutTemps_temp {name : Text} (directory : Directory γ)
    (temporary : isTemp name = true) : (withoutTemps env directory).lookup name = none := by
  have gone : ∀ (names : List Text) (directory : Directory γ),
      name ∈ names ∨ directory.lookup name = none →
        (names.foldl (fun directory other => if isTemp other then directory.erase other
          else directory) directory).lookup name = none := by
    intro names
    induction names with
    | nil => exact fun directory absent => absent.resolve_left List.not_mem_nil
    | cons first rest ih =>
        intro directory absent
        rw [List.foldl_cons]
        apply ih
        by_cases own : name = first
        · subst own
          exact Or.inr (by rw [if_pos temporary, Finmap.lookup_erase])
        · refine absent.imp (fun member => (List.mem_cons.mp member).resolve_left own)
            fun none => ?_
          split
          · rw [Finmap.lookup_erase_ne own, none]
          · exact none
  apply gone
  by_cases there : name ∈ directory
  · exact Or.inl ((env.mem_listing _ _).mpr there)
  · exact Or.inr (Finmap.lookup_eq_none.mpr there)

/-- What is left after the leftovers does not depend on them. -/
theorem withoutTemps_congr {directory other : Directory γ}
    (targets : ∀ name, isTemp name = false → directory.lookup name = other.lookup name) :
    withoutTemps env directory = withoutTemps env other := by
  apply Finmap.ext_lookup
  intro name
  cases temporary : isTemp name with
  | true => rw [lookup_withoutTemps_temp _ temporary, lookup_withoutTemps_temp _ temporary]
  | false =>
      rw [lookup_withoutTemps _ temporary, lookup_withoutTemps _ temporary]
      exact targets name temporary

/-- The names of a listing are those of files that are there. -/
theorem removeTemps_run (quiet : ∀ n, env.fails n = false) {names : List Text} {s : Session γ}
    (nodup : names.Nodup) (there : ∀ name ∈ names, name ∈ s.store.diagnostics) :
    ∃ final trail, (names.forM fun name => if isTemp name then
        removeAndSync env .cleanup .diagnostics name else return ()).run s =
      ⟨.ok (), final, trail⟩ ∧
    final.runCounter = s.runCounter ∧ final.store.root = s.store.root ∧
    final.store.diagnostics = names.foldl (fun directory name =>
      if isTemp name then directory.erase name else directory) s.store.diagnostics := by
  induction names generalizing s with
  | nil => exact ⟨s, [], rfl, rfl, rfl, rfl⟩
  | cons first rest ih =>
      rw [List.nodup_cons] at nodup
      obtain ⟨next, early, turn, counted, root, left⟩ : ∃ next early,
          (if isTemp first then removeAndSync env .cleanup .diagnostics first
            else return () : Io γ Unit).run s = ⟨.ok (), next, early⟩ ∧
          next.runCounter = s.runCounter ∧ next.store.root = s.store.root ∧
          next.store.diagnostics = if isTemp first then s.store.diagnostics.erase first
            else s.store.diagnostics := by
        split
        · obtain ⟨next, erased, counted, stored⟩ : ∃ t : Session γ,
              (removeFile env .cleanup .diagnostics first).run s =
                  ⟨.ok (), t, [(.cleanup, t)]⟩ ∧
                t.runCounter = s.runCounter ∧ t.store = s.store.withDirectory .diagnostics
                  (s.store.diagnostics.erase first) :=
            change_run quiet rfl (if_pos (there first List.mem_cons_self))
          refine ⟨next.called, [(.cleanup, next)], ?_, counted, ?_, ?_⟩
          · rw [removeAndSync, run_bind_of_ok _ erased, check_run quiet]
            rfl
          · rw [Session.called, stored]
            rfl
          · rw [Session.called, stored]
            rfl
        · exact ⟨s, [], rfl, rfl, rfl, rfl⟩
      have remaining : ∀ name ∈ rest, name ∈ next.store.diagnostics := by
        intro name member
        rw [left]
        have before := there name (List.mem_cons_of_mem _ member)
        split
        · refine Finmap.mem_erase.mpr ⟨?_, before⟩
          rintro rfl
          exact nodup.1 member
        · exact before
      obtain ⟨final, trail, ran, counted', root', left'⟩ := ih nodup.2 remaining
      refine ⟨final, early ++ trail, (run_bind_of_ok _ turn).trans (by rw [ran]),
        counted'.trans counted, root'.trans root, ?_⟩
      rw [left', left, List.foldl_cons]

theorem cleanupStaleTemps_run (quiet : ∀ n, env.fails n = false) (s : Session γ) :
    ∃ final trail, (cleanupStaleTemps env).run s = ⟨.ok (), final, trail⟩ ∧
      final.runCounter = s.runCounter ∧ final.store.root = s.store.root ∧
      final.store.diagnostics = withoutTemps env s.store.diagnostics := by
  have listed : (listingOf env .diagnostics).run s =
      ⟨.ok (env.listing s.store.diagnostics), s.called, []⟩ := by
    simp only [listingOf, inspect, quiet, Bool.false_eq_true, if_false]
    rfl
  obtain ⟨final, trail, ran, counted, root, left⟩ := @removeTemps_run γ env quiet _ s.called
    (env.nodup_listing s.store.diagnostics) fun name member => (env.mem_listing _ _).mp member
  refine ⟨final, trail, ?_, counted, root, left⟩
  rw [cleanupStaleTemps, run_bind_of_ok _ listed, ran]
  rfl

/-- The leftovers in the directory of the runs are removed, and the directories are the same. -/
theorem cleanupStaleTemps_tidy {writes : Writes γ} :
    Tidy env writes base left False (cleanupStaleTemps env) True := by
  constructor
  · have listed : Keeps (Untorn writes base) (Untorn writes base) (listingOf env .diagnostics)
        fun _ => Untorn writes base :=
      inspect_keeps (fun _ holds => holds) fun _ _ holds _ => holds
    apply listed.bind
    intro names
    apply Keeps.forM (fun _ holds => holds)
    intro name _
    split
    · rename_i temporary
      exact (@removeAndSync_tidy γ env left writes base .cleanup name (Or.inl temporary)).untorn
    · exact Keeps.pure (fun _ holds => holds) fun _ holds => holds
  · intro quiet s t along _
    obtain ⟨final, trail, ran, counted, root, cleaned⟩ := cleanupStaleTemps_run quiet s
    obtain ⟨last, other, follows, counted', root', cleaned'⟩ := cleanupStaleTemps_run quiet t
    have same : final.store.diagnostics = last.store.diagnostics := by
      rw [cleaned, cleaned', withoutTemps_congr along.targets]
    rw [ran, follows]
    refine .ok () ⟨by rw [counted, counted', along.counter], ?_, ?_, ?_, fun _ => same⟩
    · rw [root, root']
      exact along.root
    · rw [root']
      exact along.clean
    · exact fun name _ => by rw [same]

theorem recoverRun_tidy (json : isJson name = true) :
    Tidy env (Records codec base) base left True (recoverRun env codec name) True := by
  have named : name ≠ [] := by
    rintro rfl
    cases json
  apply readFile_tidy.bind_known (readFile_untorn (isTemp_of_isJson json))
  intro contents allowed known
  cases decoded : codec.decode contents with
  | none => exact Tidy.pure ()
  | some run =>
      have written : allowed .diagnostics name (some (codec.encode run.recovered)) := by
        rcases known with ⟨rfl, read⟩ | rfl
        · exact records_again read decoded rfl
        · exact trivial
      dsimp only
      split
      · exact Tidy.pure ()
      · apply (reads_tidy fun directory : Directory γ =>
          run.owner.isNone && decide (liveMarker run.runId ∈ directory)).bind
        intro marked
        have opened : Tidy env allowed base left True (openMarker env marked) True := by
          cases marked with
          | true => exact check_tidy
          | false => exact Tidy.pure ()
        apply opened.bind
        intro _
        split
        · exact Tidy.pure ()
        · apply (atomicWrite_tidy named written).bind
          intro _
          have marker : allowed .diagnostics (liveMarker run.runId) none := by
            rcases known with ⟨rfl, -⟩ | rfl <;> exact trivial
          split
          · exact removeAndSync_tidy (Or.inr marker)
          · exact Tidy.pure ()

theorem listingOf_tidy {writes : Writes γ} :
    Tidy env writes base left True (listingOf env .diagnostics) True :=
  inspectRuns_tidy fun directory => .ok (env.listing directory)

theorem openStore_tidy :
    Tidy env (Records codec base) base left False (Recorder.openStore env codec) True := by
  apply check_tidy.bind
  intro _
  apply cleanupStaleTemps_tidy.bind
  intro _
  apply listingOf_tidy.bind
  intro names
  apply Tidy.forM
  exact fun name member => recoverRun_tidy (List.mem_filter.mp member).2

section

variable (recorder : Recorder)

theorem makeRoom_tidy (required rounds : ℕ) :
    Tidy env (Records codec base) base left True (recorder.makeRoom env codec required rounds)
      True := by
  have bytes : Tidy env (Records codec base) base left True (directoryBytes env codec) True :=
    inspectRuns_tidy fun directory => .ok (bytesOf env codec directory)
  induction rounds with
  | zero => exact bytes.bind fun _ => Tidy.pure _
  | succ rounds ih =>
      apply bytes.bind
      intro total
      split
      · exact Tidy.pure true
      · apply (inspectRuns_tidy fun directory => .ok (runsOf env codec directory)).bind
        intro runs
        cases oldestCandidate runs with
        | none => exact Tidy.pure false
        | some oldest => exact (removeAndSync_tidy (Or.inr trivial)).bind fun _ => ih

theorem rounds_tidy {writes : Writes γ} :
    Tidy env writes base left True (Recorder.rounds : Io γ ℕ) True :=
  reads_tidy fun directory => directory.keys.card + 1

theorem ensureCapacityLocked_tidy (required : ℕ) :
    Tidy env (Records codec base) base left True
      (recorder.ensureCapacityLocked env codec required) True :=
  rounds_tidy.bind fun rounds => makeRoom_tidy recorder required rounds

theorem enforceByteCapLocked_tidy :
    Tidy env (Records codec base) base left True (recorder.enforceByteCapLocked env codec)
      True := by
  apply rounds_tidy.bind
  intro rounds
  apply (makeRoom_tidy recorder 0 rounds).bind
  intro fits
  cases fits with
  | true => exact Tidy.pure ()
  | false => exact publishHealthLocked_tidy _

theorem enforceRetentionLocked_tidy :
    Tidy env (Records codec base) base left True (recorder.enforceRetentionLocked env codec)
      True := by
  have removed : ∀ (runs : List StoredRun) (keep : ℕ),
      Tidy env (Records codec base) base left True (removeOldest env runs keep) True :=
    fun runs keep => Tidy.forM _ fun _ _ => removeAndSync_tidy (Or.inr trivial)
  apply (inspectRuns_tidy fun directory => .ok (runsOf env codec directory)).bind
  intro runs
  exact (removed _ _).bind fun _ => (removed _ _).bind fun _ => enforceByteCapLocked_tidy recorder

theorem publishInner_tidy (run : DiagnosticRun) :
    Tidy env (Records codec base) base left False (recorder.publishInner env codec run) True := by
  apply openStore_tidy.bind
  intro _
  apply (ensureCapacityLocked_tidy recorder _).bind
  intro fits
  have written : Records codec base .diagnostics (runFile run.runId)
      (some (codec.encode run)) :=
    ⟨run, rfl, Or.inl rfl⟩
  cases fits with
  | true =>
      exact (atomicWrite_tidy (runFile_ne_nil _) written).bind fun _ =>
        (enforceRetentionLocked_tidy recorder).bind fun _ => check_tidy.bind fun _ => Tidy.pure _
  | false =>
      exact (publishHealthLocked_tidy _).bind fun _ => check_tidy.bind fun _ => Tidy.pure _

theorem publishHealthBestEffort_tidy (publication : Publication) :
    Tidy env (Records codec base) base left False
      (Recorder.publishHealthBestEffort env codec publication) False := by
  apply Tidy.catching
  · exact check_tidy.bind fun _ => (publishHealthLocked_tidy publication).bind fun _ =>
      check_tidy.bind fun _ => Tidy.pure _
  · exact fun _ => Tidy.pure _

theorem publish_tidy (run : DiagnosticRun) :
    Tidy env (Records codec base) base left False (recorder.publish env codec run) False := by
  unfold Recorder.publish
  split
  · exact Tidy.pure _
  · apply (publishInner_tidy recorder run).forget.catching
    intro error
    have found : Tidy env (Records codec base) base left False
        (Recorder.runFileIsStored env run.runId)
        False := by
      refine Tidy.catching (inspect_tidy fun s t along => ?_) fun _ => Tidy.pure _
      have file := along.targets (runFile run.runId) (isTemp_fileOfRun run.runId)
      simp only [← Finmap.lookup_isSome, file]
    apply found.bind
    intro stored
    apply (publishHealthBestEffort_tidy _).bind
    intro recorded
    split <;> exact Tidy.pure _

end

/-- A path that is not refused is that of the run. -/
theorem resolvedRunPath_bind (id : Text) (rest : Text → Io γ α) :
    resolvedRunPath env id >>= rest =
      if validRunId id then check env >>= fun _ => rest (runFile id)
      else Durable.fail .invalid := by
  unfold resolvedRunPath
  split
  · rw [bind_assoc]
    rfl
  · rfl

theorem setRetained_tidy (id : Text) (retained : Bool) :
    Tidy env (Records codec base) base left True (setRetained env codec id retained) True := by
  rw [setRetained, resolvedRunPath_bind]
  split
  · apply check_tidy.bind
    intro _
    apply readFile_tidy.bind_known (readFile_untorn (isTemp_fileOfRun id))
    intro contents allowed known
    cases decoded : codec.decode contents with
    | none => exact Tidy.fail .invalid
    | some run =>
        have written : allowed .diagnostics (runFile id)
            (some (codec.encode { run with retained := retained })) := by
          rcases known with ⟨rfl, read⟩ | rfl
          · exact records_again read decoded rfl
          · exact trivial
        exact (atomicWrite_tidy (runFile_ne_nil id) written).bind fun _ => Tidy.pure _
  · exact Tidy.fail .invalid

theorem deleteRun_tidy (id : Text) :
    Tidy env (Records codec base) base left True (deleteRun env id) True := by
  rw [deleteRun, resolvedRunPath_bind]
  split
  · exact check_tidy.bind fun _ => (removeAndSync_tidy (Or.inr trivial)).bind fun _ =>
      Tidy.pure _
  · exact Tidy.fail .invalid

theorem listRuns_tidy :
    Tidy env (Records codec base) base left True (listRuns env codec) True :=
  inspect_tidy fun s t along => by rw [along.runs trivial]

theorem runCommand_tidy (recorder : Recorder) (command : DiagnosticsCommand) :
    Tidy env (Records codec base) base left True (runCommand recorder env codec command) True := by
  cases command with
  | list => exact listRuns_tidy
  | retain id => exact setRetained_tidy id true
  | unretain id =>
      exact (setRetained_tidy id false).bind fun _ => (enforceRetentionLocked_tidy recorder).bind
        fun _ => Tidy.pure _
  | delete id => exact deleteRun_tidy id

theorem runDiagnosticsCommand_tidy (recorder : Recorder) (command : DiagnosticsCommand) :
    Tidy env (Records codec base) base left False
      (runDiagnosticsCommand recorder env codec command) True :=
  openStore_tidy.bind fun _ => (runCommand_tidy recorder command).bind fun _ =>
    check_tidy.bind fun _ => Tidy.pure _

end Functions

end Deskkin.Diagnostics
