/-
# Listing and loading profiles

A listing returns the names of all profiles in order, whatever leftovers there were, and a
load returns the profile that its file holds. Before a profile is set the store must have
room for it: it stands there already, or a listing finds fewer profiles than the limit.
-/

import Deskkin.Profiles.StoreUpkeep
import Mathlib.Data.List.Forall2

namespace Deskkin.Profiles

open Durable

/-- The names of all profiles, in order. -/
structure Lists (names : List Text) (disk : Disk) : Prop where
  sorted : names.Pairwise (· ≤ ·)
  nodup : names.Nodup
  mem : ∀ name, name ∈ names ↔
    validateProfileName name = .ok () ∧ profileFile name ∈ disk.files.current

/-- With this profile there are no more profiles than the limit. -/
def HasRoom (name : Text) (disk : Disk) : Prop :=
  ∃ names : Finset Text, (insert (profileFile name) names).card ≤ profileLimit ∧
    disk.files.Covers IsProfile names

/-- The entries of a directory that is in order and without leftovers. -/
def Seen (P : Disk → Prop) (entries : List Text) (disk : Disk) : Prop :=
  P disk ∧ disk.Ready ∧ Clean disk ∧ entries.Nodup ∧
    ∀ entry, entry ∈ entries ↔ entry ∈ disk.files.current

variable {codec : ProfileCodec} {env : Environment} {calm : Prop} {P Q : Disk → Prop}
  {disk next : Disk} {name : Text} {entries names : List Text}

theorem steady_of_ready (ready : ∀ disk, Q disk → disk.Ready) :
    ∀ disk next, Q disk → Prepared disk next → Q next := by
  intro disk next holds prepared
  rw [prepared.eq_of_ready (ready disk holds)]
  exact holds

theorem not_exposed_of_ready (ready : disk.Ready) : ¬disk.Exposed := by
  intro exposed
  exact Bool.noConfusion (ready.2.symm.trans exposed.2)

theorem HasRoom.upkeep (room : HasRoom name disk) (upkeep : Upkeep disk next) :
    HasRoom name next := by
  obtain ⟨names, few, covers⟩ := room
  exact ⟨names, few, covers.moved (upkeep.moved fun _ _ => False) fun _ _ => False.elim⟩

/-- A profile that stands there needs no more room. -/
theorem Tidy.hasRoom (tidy : Tidy codec disk) (valid : validateProfileName name = .ok ())
    {file : File} (there : disk.lookup (profileFile name) = some file) : HasRoom name disk := by
  obtain ⟨names, few, covers⟩ := tidy.limit
  have member := covers _ disk.files.current_mem_seen _ ⟨name, valid, rfl⟩
    (Finmap.mem_of_lookup_eq_some there)
  refine ⟨names, ?_, covers⟩
  rwa [Finset.insert_eq_self.mpr member]

/-- Fewer profiles than the limit, and nothing that is not synced, leave room for one. -/
theorem Lists.hasRoom (lists : Lists names disk) (clean : Clean disk)
    (few : names.length < profileLimit) (name : Text) : HasRoom name disk := by
  refine ⟨(names.map profileFile).toFinset, ?_, ?_⟩
  · refine (Finset.card_insert_le _ _).trans ?_
    have short := List.toFinset_card_le (names.map profileFile)
    rw [List.length_map] at short
    omega
  · intro directory member entry isProfile there
    rw [UnsyncedDirectory.seen, clean.1, List.mem_singleton] at member
    subst member
    obtain ⟨other, valid, rfl⟩ := isProfile
    exact List.mem_toFinset.mpr (List.mem_map_of_mem ((lists.mem other).mpr ⟨valid, there⟩))

/-! ## Listing -/

theorem Seen.entry (tidy : ∀ disk, P disk → Tidy codec disk) (seen : Seen P entries disk)
    {entry : Text} (member : entry ∈ entries) :
    ∃ name file, validateProfileName name = .ok () ∧ entry = profileFile name ∧
      disk.lookup (profileFile name) = some file ∧ file.isSafe = true := by
  obtain ⟨holds, _, clean, _, listed⟩ := seen
  have there := (listed entry).mp member
  obtain ⟨file, found⟩ := Finmap.mem_iff.mp there
  have allowed := (tidy _ holds).lookup found
  obtain ⟨name, valid, rfl⟩ := allowed.isProfile fun name same => clean.2 name (same ▸ there)
  exact ⟨name, file, valid, rfl, found, (allowed.profile_inv valid).1⟩

/-- The names of the entries are those of all profiles. -/
theorem Seen.lists (tidy : ∀ disk, P disk → Tidy codec disk) (seen : Seen P entries disk)
    (named : List.Forall₂ (fun entry name => entry = profileFile name) entries names) :
    Lists (names.insertionSort (· ≤ ·)) disk := by
  have same : entries = names.map profileFile := by
    rw [← List.forall₂_eq_eq_eq, List.forall₂_map_right_iff]
    exact named
  have nodup : names.Nodup := by
    have entries := seen.2.2.2.1
    rw [same] at entries
    exact entries.of_map
  refine ⟨List.pairwise_insertionSort _ _, (List.perm_insertionSort _ _).nodup_iff.mpr nodup, ?_⟩
  intro name
  rw [List.mem_insertionSort, ← seen.2.2.2.2, same]
  constructor
  · intro member
    have there := List.mem_map_of_mem (f := profileFile) member
    rw [← same] at there
    obtain ⟨other, _, valid, equal, _⟩ := seen.entry tidy there
    cases profileFile_injective equal
    exact ⟨valid, same ▸ there⟩
  · rintro ⟨_, there⟩
    obtain ⟨other, member, equal⟩ := List.mem_map.mp there
    cases profileFile_injective equal
    exact member

theorem Lists.length_le (tidy : Tidy codec disk) (lists : Lists names disk) :
    names.length ≤ profileLimit := by
  obtain ⟨covering, few, covers⟩ := tidy.limit
  have nodup : (names.map profileFile).Nodup := lists.nodup.map profileFile_injective
  have inside : (names.map profileFile).toFinset ⊆ covering := by
    intro entry member
    obtain ⟨name, listed, rfl⟩ := List.mem_map.mp (List.mem_toFinset.mp member)
    obtain ⟨valid, there⟩ := (lists.mem name).mp listed
    exact covers _ disk.files.current_mem_seen _ ⟨name, valid, rfl⟩ there
  have card := Finset.card_le_card inside
  rw [List.toFinset_card_of_nodup nodup, List.length_map] at card
  exact card.trans few

section Functions

variable (quiet : calm → env.Quiet)
include quiet

/-- A directory that is ready needs no preparation. -/
theorem loadLocked_ready_triple (ready : ∀ disk, Q disk → disk.Ready)
    (kept : ∀ disk, Q disk → P disk) (tidy : ∀ disk, Q disk → Tidy codec disk) (name : Text) :
    Triple (on P) (on Q) (loadLocked env codec name)
      (fun profile => on fun disk => Q disk ∧ disk.Ready ∧ validateProfileName name = .ok () ∧
        profile.validate = .ok () ∧ ∃ file, disk.lookup (profileFile name) = some file ∧
          codec.decode file.contents = some profile)
      (fun error => on (Unread calm Q name error)) :=
  (loadLocked_triple quiet (steady_of_ready ready) kept tidy name).enter fun s holds =>
    ⟨holds, fun _ => not_exposed_of_ready (ready s.disk holds)⟩

theorem listEntry_triple (kept : ∀ disk, Q disk → P disk)
    (tidy : ∀ disk, Q disk → Tidy codec disk) {entry : Text} (member : entry ∈ entries) :
    Triple (on P) (on (Seen Q entries)) (listEntry env codec entry)
      (fun name => on fun disk => entry = profileFile name ∧ Seen Q entries disk)
      (fun _ => on (Spoiled calm Q)) := by
  refine (check_triple quiet fun _ holds => holds.1).bind fun _ => ?_
  split
  · rename_i other
    refine Triple.fail fun s holds => ?_
    obtain ⟨name, _, _, same, _⟩ := Seen.entry tidy holds member
    rw [dropSuffix?_eq_some_iff.mpr same] at other
    cases other
  · rename_i name suffix
    obtain rfl := dropSuffix?_eq_some_iff.mp suffix
    have known : ∀ disk, Seen Q entries disk → ∃ file, validateProfileName name = .ok () ∧
        disk.lookup (profileFile name) = some file ∧ file.isSafe = true := by
      intro disk holds
      obtain ⟨other, file, valid, same, there, safe⟩ := holds.entry tidy member
      cases profileFile_injective same
      exact ⟨file, valid, there, safe⟩
    have named : Triple (on P) (on (Seen Q entries)) (ofExcept (validateProfileName name))
        (fun _ => on (Seen Q entries)) (fun _ => on (Spoiled calm Q)) := by
      refine ofExcept_triple (fun _ _ holds _ => holds) fun _ _ holds value => ?_
      obtain ⟨_, valid, _⟩ := known _ holds
      rw [value] at valid
      cases valid
    refine named.bind fun _ => ?_
    have checked : Triple (on P) (on (Seen Q entries))
        (validateProfileFile env .io (profileFile name)) (fun _ => on (Seen Q entries))
        (fun _ => on (Spoiled calm Q)) := by
      refine inspect_triple quiet (fun _ _ holds _ => holds) (fun disk error holds value => ?_)
        fun _ holds loud => ⟨holds.1, loud⟩
      obtain ⟨file, _, there, safe⟩ := known _ holds
      simp only [there, safe, if_true] at value
      cases value
    refine checked.bind fun _ => ?_
    have loaded := @loadLocked_ready_triple codec env calm P (Seen Q entries) quiet
      (fun _ holds => holds.2.1) (fun disk holds => kept disk holds.1)
      (fun disk holds => tidy disk holds.1) name
    refine (loaded.miss fun error s holds => ?_).bind fun _ =>
      Triple.pure fun _ holds => ⟨rfl, holds.1⟩
    refine ⟨holds.1.1, fun still => ?_⟩
    obtain ⟨file, valid, there, _⟩ := known _ holds.1
    rw [(holds.2 still valid).2] at there
    cases there

/-- A listing fails only where others have access to the directory, or a call fails. -/
theorem listLocked_triple (upkeep : ∀ disk next, P disk → Upkeep disk next → P next)
    (tidy : ∀ disk, P disk → Tidy codec disk) :
    Triple (on P) (on fun disk => P disk ∧ (calm → ¬disk.Exposed)) (listLocked env codec)
      (fun names => on fun disk => P disk ∧ disk.Ready ∧ Clean disk ∧ Lists names disk)
      (fun _ => on (Spoiled calm P)) := by
  refine (prepareProfiles_triple quiet
    (fun disk next holds prepared => upkeep disk next holds prepared.upkeep)
    fun _ holds => holds).bind fun _ => ?_
  refine (cleanupTemporary_triple quiet upkeep tidy).bind fun _ => ?_
  have read : Triple (on P) (on fun disk => P disk ∧ disk.Ready ∧ Clean disk) (readDir env)
      (fun entries => on (Seen P entries)) (fun _ => on (Spoiled calm P)) :=
    (readDir_triple quiet fun _ holds => holds.1).leave fun _ _ holds =>
      ⟨holds.1.1, holds.1.2.1, holds.1.2.2, holds.2⟩
  refine read.bind fun entries => ?_
  refine (Triple.mapM entries fun entry member =>
    listEntry_triple quiet (fun _ holds => holds) tidy member).bind fun names => ?_
  split
  · rename_i many
    refine Triple.fail fun s holds => ?_
    have short := (Seen.lists tidy holds.2 holds.1).length_le (tidy _ holds.2.1)
    rw [List.length_insertionSort] at short
    omega
  · exact Triple.pure fun s holds =>
      ⟨holds.2.1, holds.2.2.1, holds.2.2.2.1, Seen.lists tidy holds.2 holds.1⟩

theorem list_triple (upkeep : ∀ disk next, P disk → Upkeep disk next → P next)
    (tidy : ∀ disk, P disk → Tidy codec disk) :
    Triple (on P) (on fun disk => P disk ∧ (calm → ¬disk.Exposed)) (list env codec)
      (fun names => on fun disk => P disk ∧ Lists names disk) (fun _ => on (Spoiled calm P)) := by
  refine (lock_triple quiet fun _ holds => holds.1).bind fun _ => ?_
  exact (listLocked_triple quiet upkeep tidy).leave fun _ _ holds => ⟨holds.1, holds.2.2.2⟩

/-! ## Loading -/

theorem loadForOperation_triple (steady : ∀ disk next, Q disk → Prepared disk next → Q next)
    (kept : ∀ disk, Q disk → P disk) (tidy : ∀ disk, Q disk → Tidy codec disk) (name : Text) :
    Triple (on P) (on fun disk => Q disk ∧ (calm → ¬disk.Exposed))
      (loadForOperation env codec name)
      (fun profile => on fun disk => Q disk ∧ ∃ file,
        disk.lookup (profileFile name) = some file ∧ codec.decode file.contents = some profile)
      (fun error => on (Unread calm Q name error)) := by
  have locked := @lock_triple env calm P (fun disk => Q disk ∧ (calm → ¬disk.Exposed)) Q quiet
    fun _ holds => holds.1
  refine (locked.miss fun _ _ holds => ⟨holds.1, fun still => absurd still holds.2⟩).bind
    fun _ => ?_
  exact (loadLocked_triple quiet steady kept tidy name).leave fun _ _ holds =>
    ⟨holds.1, holds.2.2.2.2⟩

omit quiet in
theorem showProfile_eq (env : Environment) (codec : ProfileCodec) (name : Text) :
    showProfile env codec name = (do
      let profile ← loadForOperation env codec name
      return codec.encode profile) := by
  rw [loadForOperation, bind_assoc]
  rfl

/-- What is shown is the profile that its file holds, encoded again. -/
theorem showProfile_triple (steady : ∀ disk next, Q disk → Prepared disk next → Q next)
    (kept : ∀ disk, Q disk → P disk) (tidy : ∀ disk, Q disk → Tidy codec disk) (name : Text) :
    Triple (on P) (on fun disk => Q disk ∧ (calm → ¬disk.Exposed)) (showProfile env codec name)
      (fun bytes => on fun disk => Q disk ∧ ∃ file profile,
        disk.lookup (profileFile name) = some file ∧ codec.decode file.contents = some profile ∧
          bytes = codec.encode profile)
      (fun error => on (Unread calm Q name error)) := by
  rw [showProfile_eq]
  refine (loadForOperation_triple quiet steady kept tidy name).bind fun profile =>
    Triple.pure fun s holds => ?_
  obtain ⟨before, file, there, readable⟩ := holds
  exact ⟨before, file, profile, there, readable, rfl⟩

end Functions

end Deskkin.Profiles
