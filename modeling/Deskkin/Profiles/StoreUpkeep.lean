/-
# What the operations of the store do to its directory

A directory of the store holds profiles that can be read back and leftover temporary files,
and no more profiles than the limit, now and at every moment since it was last synced. An
operation first makes the directory, removes leftovers, syncs and reads. Nothing of that
changes a profile or spoils the directory, and none of it fails unless a call fails or others
have access to the directory.

Each function has one specification, for every property of the disk that upkeep keeps. It
says at the same time what a failure leaves and that there is none when nothing is in the
way.
-/

import Deskkin.Profiles.Store

namespace Deskkin.Profiles

open Durable

/-! ## The invariant -/

def IsProfile (file : Text) : Prop :=
  ∃ name, validateProfileName name = .ok () ∧ file = profileFile name

/-- A profile that can be read back, or what a write has left. -/
inductive Allowed (codec : ProfileCodec) : Text → File → Prop
  | profile {name : Text} {file : File} {stored : PhysicalProfile}
      (valid : validateProfileName name = .ok ()) (safe : file.isSafe = true)
      (synced : file.synced = true) (readable : codec.decode file.contents = some stored)
      (sound : stored.validate = .ok ()) : Allowed codec (profileFile name) file
  | temporary {name : Text} {file : File} (valid : validateProfileName name = .ok ())
      (safe : file.isSafe = true) : Allowed codec (temporaryFile name) file

structure Tidy (codec : ProfileCodec) (disk : Disk) : Prop where
  files : disk.files.Everywhere (Allowed codec)
  limit : ∃ names : Finset Text, names.card ≤ profileLimit ∧ disk.files.Covers IsProfile names
  closed : ¬disk.Ready → ∀ directory ∈ disk.files.seen, directory = ∅

/-- What an operation does to the disk beside publishing or deleting a profile. -/
inductive Upkeep : Disk → Disk → Prop
  | make {disk : Disk} (unmade : disk.made = false) (isPrivate : Bool) :
      Upkeep disk { disk with made := true, isPrivate }
  | protect (disk : Disk) : Upkeep disk { disk with isPrivate := true }
  | sync (disk : Disk) : Upkeep disk { disk with files := disk.files.sync }
  | put {disk : Disk} {name : Text} {file : File} (ready : disk.Ready)
      (valid : validateProfileName name = .ok ()) (safe : file.isSafe = true) :
      Upkeep disk (disk.change (·.insert (temporaryFile name) file))
  | remove (disk : Disk) (name : Text) : Upkeep disk (disk.change (·.erase (temporaryFile name)))

variable {codec : ProfileCodec} {disk next : Disk} {name : Text} {file : File}

variable {entry : Text}

theorem IsProfile.ne_temporaryFile (isProfile : IsProfile entry) (name : Text) :
    entry ≠ temporaryFile name := by
  obtain ⟨other, valid, rfl⟩ := isProfile
  exact profileFile_ne_temporaryFile valid name

theorem Allowed.profile_inv (allowed : Allowed codec (profileFile name) file)
    (valid : validateProfileName name = .ok ()) :
    file.isSafe = true ∧ file.synced = true ∧
      ∃ stored, codec.decode file.contents = some stored ∧ stored.validate = .ok () := by
  generalize same : profileFile name = entry at allowed
  cases allowed with
  | profile _ safe synced readable sound => exact ⟨safe, synced, _, readable, sound⟩
  | temporary => exact absurd same (profileFile_ne_temporaryFile valid _)

theorem Allowed.temporary_inv (allowed : Allowed codec (temporaryFile name) file) :
    validateProfileName name = .ok () ∧ file.isSafe = true := by
  generalize same : temporaryFile name = entry at allowed
  cases allowed with
  | profile valid => exact absurd same.symm (profileFile_ne_temporaryFile valid _)
  | temporary valid safe =>
      cases temporaryFile_injective same
      exact ⟨valid, safe⟩

/-- An entry that is no leftover is a profile. -/
theorem Allowed.isProfile (allowed : Allowed codec entry file)
    (kept : ∀ name, entry ≠ temporaryFile name) :
    ∃ name, validateProfileName name = .ok () ∧ entry = profileFile name := by
  cases allowed with
  | profile valid => exact ⟨_, valid, rfl⟩
  | temporary => exact absurd rfl (kept _)

theorem Tidy.lookup (tidy : Tidy codec disk) (found : disk.lookup entry = some file) :
    Allowed codec entry file :=
  tidy.files _ disk.files.current_mem_seen _ _ found

/-- Upkeep changes no profile. -/
theorem Upkeep.moved (upkeep : Upkeep disk next) (allowed : Text → Option File → Prop) :
    UnsyncedDirectory.Moved IsProfile allowed disk.files next.files := by
  cases upkeep with
  | make | protect => exact .refl _
  | sync => exact UnsyncedDirectory.moved_sync _
  | put =>
      exact UnsyncedDirectory.moved_change fun entry isProfile =>
        .inl (Finmap.lookup_insert_of_ne _ (isProfile.ne_temporaryFile _))
  | remove =>
      exact UnsyncedDirectory.moved_change fun entry isProfile =>
        .inl (Finmap.lookup_erase_ne (isProfile.ne_temporaryFile _))

theorem Upkeep.files (upkeep : Upkeep disk next) (files : disk.files.Everywhere (Allowed codec)) :
    next.files.Everywhere (Allowed codec) := by
  cases upkeep with
  | make | protect => exact files
  | sync => exact files.sync
  | @put name file _ valid safe =>
      refine files.change fun entry found there => ?_
      by_cases own : entry = temporaryFile name
      · subst own
        rw [Finmap.lookup_insert, Option.some.injEq] at there
        subst there
        exact .temporary valid safe
      · rw [Finmap.lookup_insert_of_ne _ own] at there
        exact files _ disk.files.current_mem_seen _ _ there
  | remove name =>
      refine files.change fun entry found there => ?_
      by_cases own : entry = temporaryFile name
      · subst own
        rw [Finmap.lookup_erase] at there
        cases there
      · rw [Finmap.lookup_erase_ne own] at there
        exact files _ disk.files.current_mem_seen _ _ there

theorem Tidy.upkeep (tidy : Tidy codec disk) (upkeep : Upkeep disk next) : Tidy codec next := by
  obtain ⟨names, few, covers⟩ := tidy.limit
  refine ⟨upkeep.files tidy.files, ⟨names, few, ?_⟩, fun open_ => ?_⟩
  · exact covers.moved (upkeep.moved fun _ _ => False) fun _ _ => False.elim
  · cases upkeep with
    | make unmade =>
        exact tidy.closed fun ready => Bool.noConfusion (unmade.symm.trans ready.1)
    | protect => exact tidy.closed fun ready => open_ ⟨ready.1, rfl⟩
    | sync =>
        intro directory member
        rw [List.mem_singleton.mp member]
        exact tidy.closed open_ _ disk.files.current_mem_seen
    | put ready => exact absurd ready open_
    | remove name =>
        intro directory member
        rcases List.mem_cons.mp member with rfl | before
        · change disk.files.current.erase (temporaryFile name) = ∅
          rw [tidy.closed open_ _ disk.files.current_mem_seen]
          refine Finmap.ext_lookup fun entry => ?_
          by_cases own : entry = temporaryFile name
          · rw [own, Finmap.lookup_erase, Finmap.lookup_empty]
          · rw [Finmap.lookup_erase_ne own]
        · exact tidy.closed open_ _ before

/-! ## Calls -/

/-- A property of the disk, for an operation at work. -/
def on (Q : Disk → Prop) (session : Session) : Prop := Q session.disk

/-- No call fails, and the state root is as it should be. -/
structure Environment.Quiet (env : Environment) : Prop where
  calls : ∀ call, env.fails call = false
  root : env.rootUnsafe = false

/-- What a failure leaves. There is none when all is calm. -/
def Spoiled (calm : Prop) (Q : Disk → Prop) (disk : Disk) : Prop := Q disk ∧ ¬calm

/-- What a read that fails leaves. When all is calm, a profile with a proper name is missing. -/
abbrev Unread (calm : Prop) (Q : Disk → Prop) (name : Text) (error : ProfileError) (disk : Disk) :
    Prop :=
  Q disk ∧ (calm → validateProfileName name = .ok () →
    error = .notFound ∧ disk.lookup (profileFile name) = none)

variable {env : Environment} {calm : Prop} {P Q R : Disk → Prop} {α : Type}

section Calls

variable (quiet : calm → env.Quiet)
include quiet

variable {failed : ProfileError → Disk → Prop}

theorem inspect_triple {f : Disk → Except ProfileError α} {after : α → Disk → Prop}
    (found : ∀ disk a, Q disk → f disk = .ok a → after a disk)
    (missed : ∀ disk error, Q disk → f disk = .error error → failed error disk)
    (broken : ∀ disk, Q disk → ¬calm → failed .io disk) :
    Triple (on P) (on Q) (inspect env f) (fun a => on (after a))
      (fun error => on (failed error)) := by
  refine ⟨fun s _ entry member => ?_, fun s holds a ended => ?_, fun s holds error ended => ?_⟩
  · cases member
  · simp only [inspect] at ended
    split at ended
    · cases ended
    · exact found _ _ holds ended
  · simp only [inspect] at ended
    split at ended
    · rename_i fails
      cases ended
      exact broken _ holds fun still => by
        rw [(quiet still).calls] at fails
        cases fails
    · exact missed _ _ holds ended

theorem change_triple {f : Disk → Except ProfileError Disk} {after : Disk → Prop}
    (changed : ∀ disk next, Q disk → f disk = .ok next → P next ∧ after next)
    (missed : ∀ disk error, Q disk → f disk = .error error → failed error disk)
    (broken : ∀ disk, Q disk → ¬calm → failed .io disk) :
    Triple (on P) (on Q) (change env f) (fun _ => on after) (fun error => on (failed error)) := by
  have cases_ : ∀ s, on Q s →
      (∃ next, f s.disk = .ok next ∧ (change env f).run s =
        ⟨.ok (), ⟨next, s.calls + 1⟩, [((), ⟨next, s.calls + 1⟩)]⟩) ∨
      ∃ error, failed error s.disk ∧ (change env f).run s =
        ⟨.error error, { s with calls := s.calls + 1 }, []⟩ := by
    intro s holds
    cases fails : env.fails s.calls with
    | true =>
        refine .inr ⟨.io, broken _ holds fun still => ?_, by simp [change, fails]⟩
        rw [(quiet still).calls] at fails
        cases fails
    | false =>
        cases value : f s.disk with
        | ok next => exact .inl ⟨next, rfl, by simp [change, fails, value]⟩
        | error error => exact .inr ⟨error, missed _ _ holds value, by simp [change, fails, value]⟩
  refine ⟨fun s holds entry member => ?_, fun s holds a ended => ?_, fun s holds error ended => ?_⟩
  · rcases cases_ s holds with ⟨next, value, ran⟩ | ⟨_, _, ran⟩
    · rw [ran, List.mem_singleton] at member
      subst member
      exact (changed _ _ holds value).1
    · rw [ran] at member
      cases member
  · rcases cases_ s holds with ⟨next, value, ran⟩ | ⟨_, _, ran⟩
    · rw [ran]
      exact (changed _ _ holds value).2
    · rw [ran] at ended
      cases ended
  · rcases cases_ s holds with ⟨next, value, ran⟩ | ⟨_, missing, ran⟩
    · rw [ran] at ended
      cases ended
    · rw [ran] at ended ⊢
      cases ended
      exact missing

theorem check_triple (kept : ∀ disk, Q disk → R disk) :
    Triple (on P) (on Q) (check env) (fun _ => on Q) (fun _ => on (Spoiled calm R)) :=
  inspect_triple quiet (fun _ _ holds _ => holds) (fun _ _ _ value => by cases value)
    fun _ holds loud => ⟨kept _ holds, loud⟩

theorem lock_triple (kept : ∀ disk, Q disk → R disk) :
    Triple (on P) (on Q) (lock env) (fun _ => on Q) (fun _ => on (Spoiled calm R)) := by
  refine inspect_triple quiet (fun _ _ holds _ => holds) (fun disk error holds value => ?_)
    fun _ holds loud => ⟨kept _ holds, loud⟩
  refine ⟨kept _ holds, fun still => ?_⟩
  rw [(quiet still).root] at value
  cases value

end Calls

theorem ofExcept_triple {result : Except ProfileError α} {after : α → Disk → Prop}
    {failed : ProfileError → Disk → Prop}
    (found : ∀ disk a, Q disk → result = .ok a → after a disk)
    (missed : ∀ disk error, Q disk → result = .error error → failed error disk) :
    Triple (on P) (on Q) (ofExcept result) (fun a => on (after a))
      (fun error => on (failed error)) :=
  Triple.read (fun _ a holds value => found _ a holds value)
    fun _ error holds value => missed _ error holds value

/-! ## The directory -/

/-- What preparing the directory does to the disk. -/
inductive Prepared : Disk → Disk → Prop
  | make {disk : Disk} (unmade : disk.made = false) (isPrivate : Bool) :
      Prepared disk { disk with made := true, isPrivate }
  | protect (disk : Disk) : Prepared disk { disk with isPrivate := true }

theorem Prepared.upkeep (prepared : Prepared disk next) : Upkeep disk next := by
  cases prepared with
  | make unmade => exact .make unmade _
  | protect => exact .protect _

/-- A directory that is ready is left as it is. -/
theorem Prepared.eq_of_ready (prepared : Prepared disk next) (ready : disk.Ready) :
    next = disk := by
  obtain ⟨made, isPrivate, files⟩ := disk
  obtain ⟨rfl, rfl⟩ := ready
  cases prepared with
  | make unmade => cases unmade
  | protect => rfl

/-! ## Entries -/

/-- The entries that are still to be looked at, while leftovers are removed. -/
def Remaining (P : Disk → Prop) (rest : List Text) (disk : Disk) : Prop :=
  P disk ∧ disk.Ready ∧ rest.Nodup ∧ (∀ entry ∈ rest, entry ∈ disk.files.current) ∧
    ∀ name, temporaryFile name ∈ disk.files.current → temporaryFile name ∈ rest

/-- The directory is synced and has no leftovers. -/
def Clean (disk : Disk) : Prop :=
  disk.files.earlier = [] ∧ ∀ name, temporaryFile name ∉ disk.files.current

/-- An entry that is no leftover is passed. -/
theorem Remaining.pass {rest : List Text} (remaining : Remaining P (entry :: rest) disk)
    (kept : ∀ name, entry ≠ temporaryFile name) : Remaining P rest disk := by
  obtain ⟨holds, ready, nodup, there, left⟩ := remaining
  refine ⟨holds, ready, nodup.of_cons, fun other member => there other (.tail _ member), ?_⟩
  intro name member
  cases List.mem_cons.mp (left name member) with
  | inl same => exact absurd same.symm (kept name)
  | inr later => exact later

/-- A leftover is removed. -/
theorem Remaining.remove {rest : List Text}
    (upkeep : ∀ disk next, P disk → Upkeep disk next → P next)
    (remaining : Remaining P (temporaryFile name :: rest) disk) :
    Remaining P rest (disk.change (·.erase (temporaryFile name))) := by
  obtain ⟨holds, ready, nodup, there, left⟩ := remaining
  refine ⟨upkeep _ _ holds (.remove _ name), ready, nodup.of_cons, fun entry member => ?_,
    fun other member => ?_⟩
  · have apart : entry ≠ temporaryFile name := fun same =>
      (List.nodup_cons.mp nodup).1 (same ▸ member)
    exact Finmap.mem_erase.mpr ⟨apart, there entry (.tail _ member)⟩
  · obtain ⟨apart, before⟩ := Finmap.mem_erase.mp member
    exact (List.mem_cons.mp (left other before)).resolve_left apart

section Functions

variable (quiet : calm → env.Quiet)
include quiet

theorem pathExists_triple :
    Triple (on P) (on Q) (pathExists env)
      (fun there => on fun disk => Q disk ∧ (there = true → disk.made = true) ∧
        (calm → there = disk.made)) (fun _ => on (Spoiled calm R)) := by
  refine ⟨fun s _ entry member => ?_, fun s holds a ended => ?_, fun s _ error ended => ?_⟩
  · cases member
  · simp only [pathExists, Except.ok.injEq] at ended
    subst ended
    refine ⟨holds, fun there => (Bool.and_eq_true_iff.mp there).2, fun still => ?_⟩
    rw [(quiet still).calls]
    rfl
  · cases ended

section

variable (steady : ∀ disk next, Q disk → Prepared disk next → Q next)
include steady

variable (kept : ∀ disk, Q disk → P disk)
include kept

theorem makeProfiles_triple :
    Triple (on P) (on Q) (makeProfiles env)
      (fun _ => on fun disk => Q disk ∧ disk.made = true ∧ disk.isPrivate = true)
      (fun _ => on (Spoiled calm Q)) := by
  have created : Triple (on P) (on Q) (createDirectory env)
      (fun _ => on fun disk => Q disk ∧ disk.made = true) (fun _ => on (Spoiled calm Q)) := by
    refine change_triple quiet (fun disk next holds value => ?_)
      (fun _ _ _ value => by cases value) fun _ holds loud => ⟨holds, loud⟩
    have after : Q next ∧ next.made = true := by
      cases value
      split
      · exact ⟨holds, ‹_›⟩
      · rename_i unmade
        exact ⟨steady _ _ holds (.make (Bool.not_eq_true _ ▸ unmade) _), rfl⟩
    exact ⟨kept _ after.1, after⟩
  refine created.bind fun _ => change_triple quiet (fun disk next holds value => ?_)
    (fun _ _ _ value => by cases value) fun _ holds loud => ⟨holds.1, loud⟩
  have after : Q next ∧ next.made = true ∧ next.isPrivate = true := by
    cases value
    exact ⟨steady _ _ holds.1 (.protect _), holds.2, rfl⟩
  exact ⟨kept _ after.1, after⟩

theorem prepareProfiles_triple :
    Triple (on P) (on fun disk => Q disk ∧ (calm → ¬disk.Exposed)) (prepareProfiles env)
      (fun _ => on fun disk => Q disk ∧ disk.Ready) (fun _ => on (Spoiled calm Q)) := by
  refine (check_triple quiet fun _ holds => holds.1).bind fun _ => ?_
  have guarded : Triple (on P)
      (on fun disk => Q disk ∧ disk.made = true ∧ (calm → disk.isPrivate = true))
      (inspect env fun disk => if disk.isPrivate then .ok () else .error .storeUnsafe)
      (fun _ => on fun disk => Q disk ∧ disk.Ready) (fun _ => on (Spoiled calm Q)) := by
    refine inspect_triple quiet (fun disk _ holds value => ?_) (fun disk error holds value => ?_)
      fun _ holds loud => ⟨holds.1, loud⟩
    · split at value
      · exact ⟨holds.1, holds.2.1, ‹_›⟩
      · cases value
    · split at value
      · cases value
      · rename_i others
        exact ⟨holds.1, fun still => others (holds.2.2 still)⟩
  refine (pathExists_triple quiet).bind fun there => ?_
  cases there with
  | true =>
      refine guarded.enter fun s holds => ?_
      refine ⟨holds.1.1, holds.2.1 rfl, fun still => ?_⟩
      by_contra exposed
      exact holds.1.2 still ⟨holds.2.1 rfl, Bool.not_eq_true _ ▸ exposed⟩
  | false =>
      have made := (makeProfiles_triple quiet steady kept).enter
        fun s (holds : on (fun disk => (Q disk ∧ (calm → ¬disk.Exposed)) ∧
          (false = true → disk.made = true) ∧ (calm → false = disk.made)) s) => holds.1.1
      exact made.bind fun _ =>
        guarded.enter fun _ holds => ⟨holds.1, holds.2.1, fun _ => holds.2.2⟩

/-! ## Reading a profile -/

/-- The profile that is read is the one that its file holds. Nothing but its absence, or a
name that is none, keeps it from being read. -/
theorem loadLocked_triple (tidy : ∀ disk, Q disk → Tidy codec disk) (name : Text) :
    Triple (on P) (on fun disk => Q disk ∧ (calm → ¬disk.Exposed)) (loadLocked env codec name)
      (fun profile => on fun disk => Q disk ∧ disk.Ready ∧ validateProfileName name = .ok () ∧
        profile.validate = .ok () ∧ ∃ file, disk.lookup (profileFile name) = some file ∧
          codec.decode file.contents = some profile)
      (fun error => on (Unread calm Q name error)) := by
  refine ((prepareProfiles_triple quiet steady kept).miss fun _ _ holds =>
    ⟨holds.1, fun still => absurd still holds.2⟩).bind fun _ => ?_
  have named : Triple (on P) (on fun disk => Q disk ∧ disk.Ready)
      (ofExcept (validateProfileName name))
      (fun _ => on fun disk => (Q disk ∧ disk.Ready) ∧ validateProfileName name = .ok ())
      (fun error => on (Unread calm Q name error)) := by
    refine ofExcept_triple (fun _ _ holds value => ⟨holds, value⟩) fun _ _ holds value => ?_
    refine ⟨holds.1, fun _ valid => ?_⟩
    rw [value] at valid
    cases valid
  refine named.bind fun _ => ?_
  have checked : Triple (on P)
      (on fun disk => (Q disk ∧ disk.Ready) ∧ validateProfileName name = .ok ())
      (validateProfileFile env .notFound (profileFile name))
      (fun _ => on fun disk => ((Q disk ∧ disk.Ready) ∧ validateProfileName name = .ok ()) ∧
        ∃ file, disk.lookup (profileFile name) = some file)
      (fun error => on (Unread calm Q name error)) := by
    refine inspect_triple quiet (fun disk _ holds value => ?_) (fun disk error holds value => ?_)
      fun _ holds loud => ⟨holds.1.1, fun still => absurd still loud⟩
    · split at value
      · cases value
      · exact ⟨holds, _, ‹_›⟩
    · split at value
      · rename_i missing
        cases value
        exact ⟨holds.1.1, fun _ _ => ⟨rfl, missing⟩⟩
      · rename_i found there
        have safe := (((tidy _ holds.1.1).lookup there).profile_inv holds.2).1
        rw [if_pos safe] at value
        cases value
  refine checked.bind fun _ => ?_
  have opened : Triple (on P)
      (on fun disk => ((Q disk ∧ disk.Ready) ∧ validateProfileName name = .ok ()) ∧
        ∃ file, disk.lookup (profileFile name) = some file)
      (readFile env (profileFile name))
      (fun bytes => on fun disk => ((Q disk ∧ disk.Ready) ∧ validateProfileName name = .ok ()) ∧
        ∃ file, disk.lookup (profileFile name) = some file ∧ bytes = file.contents)
      (fun error => on (Unread calm Q name error)) := by
    refine inspect_triple quiet (fun disk _ holds value => ?_) (fun disk error holds value => ?_)
      fun _ holds loud => ⟨holds.1.1.1, fun still => absurd still loud⟩
    · obtain ⟨before, file, there⟩ := holds
      rw [there] at value
      cases value
      exact ⟨before, file, there, rfl⟩
    · obtain ⟨before, file, there⟩ := holds
      rw [there] at value
      cases value
  refine opened.bind fun bytes => ?_
  have decoded : ∀ disk, (((Q disk ∧ disk.Ready) ∧ validateProfileName name = .ok ()) ∧
      ∃ file, disk.lookup (profileFile name) = some file ∧ bytes = file.contents) →
      ∃ stored, codec.decode bytes = some stored ∧ stored.validate = .ok () := by
    rintro disk ⟨before, file, there, rfl⟩
    exact (((tidy _ before.1.1).lookup there).profile_inv before.2).2.2
  split
  · rename_i unreadable
    refine Triple.fail fun s holds => ?_
    obtain ⟨stored, readable, -⟩ := decoded _ holds
    rw [unreadable] at readable
    cases readable
  · rename_i profile readable
    have sound : Triple (on P)
        (on fun disk => ((Q disk ∧ disk.Ready) ∧ validateProfileName name = .ok ()) ∧
          ∃ file, disk.lookup (profileFile name) = some file ∧ bytes = file.contents)
        (ofExcept profile.validate)
        (fun _ => on fun disk => Q disk ∧ disk.Ready ∧ validateProfileName name = .ok () ∧
          profile.validate = .ok () ∧ ∃ file, disk.lookup (profileFile name) = some file ∧
            codec.decode file.contents = some profile)
        (fun error => on (Unread calm Q name error)) := by
      refine ofExcept_triple (fun _ _ holds value => ?_) fun _ _ holds value => ?_
      · obtain ⟨⟨⟨before, ready⟩, valid⟩, file, there, rfl⟩ := holds
        exact ⟨before, ready, valid, value, file, there, readable⟩
      · obtain ⟨stored, same, checks⟩ := decoded _ holds
        rw [readable, Option.some.injEq] at same
        subst same
        rw [value] at checks
        cases checks
    exact sound.bind fun _ => Triple.pure fun _ holds => holds

/-! ## Leftovers -/

end

theorem cleanupEntry_triple (upkeep : ∀ disk next, P disk → Upkeep disk next → P next)
    (tidy : ∀ disk, P disk → Tidy codec disk) (entry : Text) (rest : List Text) :
    Triple (on P) (on (Remaining P (entry :: rest))) (cleanupEntry env entry)
      (fun _ => on (Remaining P rest)) (fun _ => on (Spoiled calm P)) := by
  refine (check_triple quiet fun _ holds => holds.1).bind fun _ => ?_
  split
  · rename_i other
    refine Triple.pure fun s holds => holds.pass fun name same => ?_
    rw [dropPrefix?_eq_some_iff.mpr same] at other
    cases other
  · rename_i name leftover
    obtain rfl := dropPrefix?_eq_some_iff.mp leftover
    have known : ∀ disk, Remaining P (temporaryFile name :: rest) disk →
        ∃ file, disk.lookup (temporaryFile name) = some file ∧
          validateProfileName name = .ok () ∧ file.isSafe = true := by
      intro disk holds
      obtain ⟨file, there⟩ := Finmap.mem_iff.mp (holds.2.2.2.1 _ List.mem_cons_self)
      exact ⟨file, there, ((tidy _ holds.1).lookup there).temporary_inv⟩
    have named : Triple (on P) (on (Remaining P (temporaryFile name :: rest)))
        (ofExcept (validateProfileName name))
        (fun _ => on (Remaining P (temporaryFile name :: rest)))
        (fun _ => on (Spoiled calm P)) := by
      refine ofExcept_triple (fun _ _ holds _ => holds) fun _ _ holds value => ?_
      obtain ⟨_, _, valid, _⟩ := known _ holds
      rw [value] at valid
      cases valid
    refine named.bind fun _ => ?_
    have checked : Triple (on P) (on (Remaining P (temporaryFile name :: rest)))
        (validateProfileFile env .io (temporaryFile name))
        (fun _ => on (Remaining P (temporaryFile name :: rest)))
        (fun _ => on (Spoiled calm P)) := by
      refine inspect_triple quiet (fun _ _ holds _ => holds) (fun disk error holds value => ?_)
        fun _ holds loud => ⟨holds.1, loud⟩
      obtain ⟨file, there, _, safe⟩ := known _ holds
      simp only [there, safe, if_true] at value
      cases value
    refine checked.bind fun _ => ?_
    refine change_triple quiet (fun disk next holds value => ?_) (fun disk error holds value => ?_)
      fun _ holds loud => ⟨holds.1, loud⟩
    · obtain ⟨file, there, _⟩ := known _ holds
      simp only [there, Except.ok.injEq] at value
      subst value
      have removed := holds.remove upkeep
      exact ⟨removed.1, removed⟩
    · obtain ⟨file, there, _⟩ := known _ holds
      simp only [there] at value
      cases value

theorem readDir_triple (kept : ∀ disk, Q disk → R disk) :
    Triple (on P) (on Q) (readDir env)
      (fun entries => on fun disk => Q disk ∧ entries.Nodup ∧
        ∀ entry, entry ∈ entries ↔ entry ∈ disk.files.current) (fun _ => on (Spoiled calm R)) := by
  refine inspect_triple quiet (fun disk entries holds value => ?_)
    (fun _ _ _ value => by cases value) fun _ holds loud => ⟨kept _ holds, loud⟩
  cases value
  exact ⟨holds, env.nodup_listing _, env.mem_listing _⟩

/-- Afterwards the directory is synced and without leftovers. -/
theorem cleanupTemporary_triple (upkeep : ∀ disk next, P disk → Upkeep disk next → P next)
    (tidy : ∀ disk, P disk → Tidy codec disk) :
    Triple (on P) (on fun disk => P disk ∧ disk.Ready) (cleanupTemporary env)
      (fun _ => on fun disk => P disk ∧ disk.Ready ∧ Clean disk)
      (fun _ => on (Spoiled calm P)) := by
  have listed : Triple (on P) (on fun disk => P disk ∧ disk.Ready) (readDir env)
      (fun entries => on (Remaining P entries)) (fun _ => on (Spoiled calm P)) :=
    (readDir_triple quiet fun _ holds => holds.1).leave fun entries _ holds =>
      ⟨holds.1.1, holds.1.2, holds.2.1, fun _ => (holds.2.2 _).mp, fun _ => (holds.2.2 _).mpr⟩
  refine listed.bind fun entries => ?_
  have swept := @Triple.forM _ _ _ (on P) (fun _ => on (Spoiled calm P)) _ (cleanupEntry env)
    (fun rest => on (Remaining P rest)) (cleanupEntry_triple quiet upkeep tidy) entries
  refine swept.bind fun _ => ?_
  refine change_triple quiet (fun disk next holds value => ?_) (fun _ _ _ value => by cases value)
    fun _ holds loud => ⟨holds.1, loud⟩
  cases value
  have synced := upkeep _ _ holds.1 (.sync disk)
  refine ⟨synced, synced, holds.2.1, rfl, fun name there => ?_⟩
  exact absurd (holds.2.2.2.2 name there) List.not_mem_nil

end Functions

end Deskkin.Profiles
