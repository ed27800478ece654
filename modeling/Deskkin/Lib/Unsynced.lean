/-
# Directories that are not synced

A directory is changed in memory and reaches the disk when it is synced. A loss of power
leaves each of its names as it was at some moment since the last sync, no matter what it
leaves of the others, and makes of a file what `settles` allows. This module says which
files there can be afterwards, for one class of names, from what was changed before.

Nothing here depends on what the names and the files are.
-/

import Mathlib.Data.Finmap

/-- A directory with what it was since it was last synced, latest first. -/
structure UnsyncedDirectory (κ γ : Type) where
  current : Finmap fun _ : κ => γ
  earlier : List (Finmap fun _ : κ => γ)

namespace UnsyncedDirectory

variable {κ γ : Type} {settles : γ → γ → Prop} {files later last : UnsyncedDirectory κ γ}

def empty : UnsyncedDirectory κ γ := ⟨∅, []⟩

/-- The directory at every moment since it was last synced. -/
def seen (files : UnsyncedDirectory κ γ) : List (Finmap fun _ : κ => γ) :=
  files.current :: files.earlier

def change (files : UnsyncedDirectory κ γ) (f : Finmap (fun _ : κ => γ) → Finmap fun _ : κ => γ) :
    UnsyncedDirectory κ γ :=
  ⟨f files.current, files.seen⟩

def sync (files : UnsyncedDirectory κ γ) : UnsyncedDirectory κ γ := ⟨files.current, []⟩

theorem current_mem_seen (files : UnsyncedDirectory κ γ) : files.current ∈ files.seen :=
  List.mem_cons_self

section Names

variable [DecidableEq κ]

/-- A loss of power leaves `later` of the directory. -/
structure Lost (settles : γ → γ → Prop) (files later : UnsyncedDirectory κ γ) : Prop where
  synced : later.earlier = []
  settled : ∀ name, ∃ directory ∈ files.seen,
    Option.Rel settles (directory.lookup name) (later.current.lookup name)

/-! ## Files -/

/-- Every file since the last sync is one of these. -/
def Everywhere (allowed : κ → γ → Prop) (files : UnsyncedDirectory κ γ) : Prop :=
  ∀ directory ∈ files.seen, ∀ name file, directory.lookup name = some file → allowed name file

theorem Everywhere.change {allowed : κ → γ → Prop} (everywhere : files.Everywhere allowed)
    {f : Finmap (fun _ : κ => γ) → Finmap fun _ : κ => γ}
    (changed : ∀ name file, (f files.current).lookup name = some file → allowed name file) :
    (files.change f).Everywhere allowed := by
  intro directory member
  cases List.mem_cons.mp member with
  | inl now => exact now ▸ changed
  | inr before => exact everywhere directory before

theorem Everywhere.sync {allowed : κ → γ → Prop} (everywhere : files.Everywhere allowed) :
    files.sync.Everywhere allowed := by
  intro directory member
  rw [List.mem_singleton.mp member]
  exact everywhere _ files.current_mem_seen

theorem Everywhere.lost {allowed : κ → γ → Prop} (everywhere : files.Everywhere allowed)
    (lost : files.Lost settles later)
    (kept : ∀ name file left, allowed name file → settles file left → allowed name left) :
    later.Everywhere allowed := by
  intro directory member name left found
  rw [seen, lost.synced, List.mem_singleton] at member
  subst member
  obtain ⟨directory, before, settled⟩ := lost.settled name
  rw [found] at settled
  generalize held : directory.lookup name = file at settled
  cases settled with
  | some settles => exact kept name _ left (everywhere directory before name _ held) settles

/-! ## How many names -/

/-- Of one class of names only these were there since the last sync. -/
def Covers (named : κ → Prop) (names : Finset κ) (files : UnsyncedDirectory κ γ) : Prop :=
  ∀ directory ∈ files.seen, ∀ name, named name → name ∈ directory → name ∈ names

theorem Covers.lost {named : κ → Prop} {names : Finset κ} (covers : files.Covers named names)
    (lost : files.Lost settles later) : later.Covers named names := by
  intro directory member name isNamed there
  rw [seen, lost.synced, List.mem_singleton] at member
  subst member
  obtain ⟨directory, before, settled⟩ := lost.settled name
  obtain ⟨left, found⟩ := Finmap.mem_iff.mp there
  rw [found] at settled
  generalize held : directory.lookup name = file at settled
  cases settled with
  | some _ => exact covers directory before name isNamed (Finmap.mem_of_lookup_eq_some held)

/-! ## What was changed -/

/-- Of one class of names, what is there now and what was there since the last sync was there
before, or is allowed. -/
structure Moved (named : κ → Prop) (allowed : κ → Option γ → Prop)
    (files later : UnsyncedDirectory κ γ) : Prop where
  current : ∀ name, named name → later.current.lookup name = files.current.lookup name ∨
    allowed name (later.current.lookup name)
  seen : ∀ directory ∈ later.seen, ∀ name, named name →
    (∃ earlier ∈ files.seen, directory.lookup name = earlier.lookup name) ∨
      allowed name (directory.lookup name)

section Moved

variable {named : κ → Prop} {allowed looser : κ → Option γ → Prop}

theorem Moved.refl (files : UnsyncedDirectory κ γ) : Moved named allowed files files where
  current _ _ := .inl rfl
  seen directory member _ _ := .inl ⟨directory, member, rfl⟩

theorem Moved.trans (one : Moved named allowed files later) (two : Moved named allowed later last) :
    Moved named allowed files last where
  current name isNamed := by
    cases two.current name isNamed with
    | inl same => exact same ▸ one.current name isNamed
    | inr new => exact .inr new
  seen directory member name isNamed := by
    rcases two.seen directory member name isNamed with ⟨earlier, before, same⟩ | new
    · exact same ▸ one.seen earlier before name isNamed
    · exact .inr new

theorem Moved.mono (moved : Moved named allowed files later)
    (weaker : ∀ name file, allowed name file → looser name file) :
    Moved named looser files later where
  current name isNamed := (moved.current name isNamed).imp id (weaker name _)
  seen directory member name isNamed :=
    (moved.seen directory member name isNamed).imp id (weaker name _)

theorem moved_sync (files : UnsyncedDirectory κ γ) : Moved named allowed files files.sync where
  current _ _ := .inl rfl
  seen directory member _ _ :=
    .inl ⟨directory, List.mem_singleton.mp member ▸ files.current_mem_seen, rfl⟩

theorem moved_change {f : Finmap (fun _ : κ => γ) → Finmap fun _ : κ => γ}
    (changed : ∀ name, named name → (f files.current).lookup name = files.current.lookup name ∨
      allowed name ((f files.current).lookup name)) :
    Moved named allowed files (files.change f) where
  current := changed
  seen directory member name isNamed := by
    cases List.mem_cons.mp member with
    | inl now =>
        subst now
        exact (changed name isNamed).imp (fun same => ⟨_, files.current_mem_seen, same⟩) id
    | inr before => exact .inl ⟨directory, before, rfl⟩

/-- Only allowed names are new. -/
theorem Covers.moved {names : Finset κ} (covers : files.Covers named names)
    (moved : Moved named allowed files later)
    (new : ∀ name file, allowed name (some file) → name ∈ names) : later.Covers named names := by
  intro directory member name isNamed there
  obtain ⟨file, found⟩ := Finmap.mem_iff.mp there
  rcases moved.seen directory member name isNamed with ⟨earlier, before, same⟩ | isAllowed
  · exact covers earlier before name isNamed (Finmap.mem_of_lookup_eq_some (same ▸ found))
  · exact new name file (found ▸ isAllowed)

/-- Where a loss of power makes nothing of the files themselves, it leaves what was there
before the change or what the change was allowed to put there. -/
theorem Moved.lost (moved : Moved named allowed files later) (lost : later.Lost settles last)
    (stable : ∀ directory ∈ later.seen, ∀ name file left, named name →
      directory.lookup name = some file → settles file left → left = file)
    {name : κ} (isNamed : named name) :
    (∃ earlier ∈ files.seen, last.current.lookup name = earlier.lookup name) ∨
      allowed name (last.current.lookup name) := by
  obtain ⟨directory, member, settled⟩ := lost.settled name
  have same : last.current.lookup name = directory.lookup name := by
    generalize held : directory.lookup name = file at settled ⊢
    generalize last.current.lookup name = left at settled ⊢
    cases settled with
    | none => rfl
    | some settles => rw [stable directory member name _ _ isNamed held settles]
  rw [same]
  exact moved.seen directory member name isNamed

end Moved

end Names

end UnsyncedDirectory
