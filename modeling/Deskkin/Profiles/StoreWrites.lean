/-
# Setting and deleting profiles

A profile is admitted, written to a temporary file and published by a rename. Until the
rename only upkeep is done, so the profiles are those from before; afterwards they are those
from before with the new one. A deletion removes one file in the same way.

Two properties of the disk go through an operation: `P` holds as long as only upkeep was
done, and `R` from the change on, which makes the one into the other.
-/

import Deskkin.Profiles.StoreListing

namespace Deskkin.Profiles

open Durable

/-- No owner is found at any role root. -/
def Environment.Unowned (env : Environment) : Prop :=
  ∀ call root, env.linked call root = false ∧
    (env.owner call root = .noControl ∨ env.owner call root = .none)

/-- What is known of the profile that is there already. -/
def Existing (calm : Prop) (name : Text) (existing : Option PhysicalProfile) (disk : Disk) : Prop :=
  match existing with
  | none => calm → disk.lookup (profileFile name) = none
  | some found => found.validate = .ok () ∧ ∃ file, disk.lookup (profileFile name) = some file

variable {codec : ProfileCodec} {env : Environment} {calm : Prop} {P Q R : Disk → Prop}
  {disk next : Disk} {name : Text} {profile : PhysicalProfile} {bytes : List UInt8}

theorem validateRoleRoot_of_validate (sound : profile.validate = .ok ()) :
    validateRoleRoot profile.roleRoot = .ok () := by
  unfold PhysicalProfile.validate at sound
  split at sound
  · cases sound
  · split at sound
    · cases sound
    · assumption

theorem Upkeep.lookup (upkeep : Upkeep disk next) (valid : validateProfileName name = .ok ()) :
    next.lookup (profileFile name) = disk.lookup (profileFile name) :=
  ((upkeep.moved fun _ _ => False).current _ ⟨name, valid, rfl⟩).resolve_right id

section Admission

variable (quiet : calm → env.Quiet)
include quiet

theorem refuseLiveOwner_triple (free : calm → env.Unowned) (sound : profile.validate = .ok ())
    (kept : ∀ disk, Q disk → R disk) :
    Triple (on P) (on Q) (refuseLiveOwner env profile) (fun _ => on Q)
      (fun _ => on (Spoiled calm R)) := by
  have rooted : Triple (on P) (on Q) (ofExcept (validateRoleRoot profile.roleRoot))
      (fun _ => on Q) (fun _ => on (Spoiled calm R)) := by
    refine ofExcept_triple (fun _ _ holds _ => holds) fun _ _ _ value => ?_
    rw [validateRoleRoot_of_validate sound] at value
    cases value
  refine rooted.bind fun _ => (check_triple quiet kept).bind fun _ => ?_
  have counted : Triple (on P) (on Q)
      (Durable.reads Session.calls : Io ℕ) (fun _ => on Q) (fun _ => on (Spoiled calm R)) :=
    Triple.read (fun _ _ holds _ => holds) fun _ _ _ value => by cases value
  refine counted.bind fun call => ?_
  split
  · rename_i linked
    refine Triple.fail fun s holds => ⟨kept _ holds, fun still => ?_⟩
    rw [(free still call profile.roleRoot).1] at linked
    cases linked
  · split
    · exact Triple.pure fun _ holds => holds
    · exact Triple.pure fun _ holds => holds
    all_goals
      rename_i owner
      refine Triple.fail fun s holds => ⟨kept _ holds, fun still => ?_⟩
      rcases (free still call profile.roleRoot).2 with other | other
      all_goals
        rw [other] at owner
        cases owner

theorem loadExisting_triple (ready : ∀ disk, Q disk → disk.Ready) (kept : ∀ disk, Q disk → P disk)
    (tidy : ∀ disk, Q disk → Tidy codec disk) (valid : validateProfileName name = .ok ()) :
    Triple (on P) (on Q) (loadExisting env codec name)
      (fun existing => on fun disk => Q disk ∧ Existing calm name existing disk)
      (fun _ => on (Spoiled calm P)) := by
  have loaded := loadLocked_ready_triple quiet ready kept tidy name
  refine Triple.catching (loaded.bind fun profile => Triple.pure fun s holds => ?_) fun error => ?_
  · exact ⟨holds.1, holds.2.2.2.1, holds.2.2.2.2.imp fun _ found => found.1⟩
  · split
    · exact Triple.pure fun s holds => ⟨holds.1, fun still => (holds.2 still valid).2⟩
    · rename_i other
      exact Triple.fail fun s holds =>
        ⟨kept _ holds.1, fun still => other (holds.2 still valid).1⟩

theorem admitExisting_triple (upkeep : ∀ disk next, P disk → Upkeep disk next → P next)
    (tidy : ∀ disk, P disk → Tidy codec disk) (free : calm → env.Unowned)
    (valid : validateProfileName name = .ok ())
    (room : ∀ disk names, P disk → calm → disk.lookup (profileFile name) = none →
      Lists names disk → names.length < profileLimit) (existing : Option PhysicalProfile) :
    Triple (on P) (on fun disk => (P disk ∧ disk.Ready ∧ Clean disk) ∧
        Existing calm name existing disk) (admitExisting env codec existing)
      (fun _ => on fun disk => P disk ∧ disk.Ready ∧ Clean disk ∧ HasRoom name disk)
      (fun _ => on (Spoiled calm P)) := by
  cases existing with
  | none =>
      -- the listing must keep in mind that the profile is not there
      have listed := (@listLocked_triple codec env calm
        (fun disk => P disk ∧ (calm → disk.lookup (profileFile name) = none)) quiet
        (fun disk next holds upkept => ⟨upkeep _ _ holds.1 upkept, fun still => by
          rw [upkept.lookup valid]
          exact holds.2 still⟩) fun disk holds => tidy disk holds.1).mono
        (fun s holds => (holds.1 : P s.disk))
        (fun s (holds : on (fun disk => (P disk ∧ disk.Ready ∧ Clean disk) ∧
          Existing calm name none disk) s) =>
          ⟨⟨holds.1.1, holds.2⟩, fun _ => not_exposed_of_ready holds.1.2.1⟩)
        (fun _ _ holds => holds) fun _ s holds => (⟨holds.1.1, holds.2⟩ : Spoiled calm P s.disk)
      refine listed.bind fun names => ?_
      split
      · rename_i many
        refine Triple.fail fun s holds => ⟨holds.1.1, fun still => ?_⟩
        have few := room _ names holds.1.1 still (holds.1.2 still) holds.2.2.2
        omega
      · rename_i few
        exact Triple.pure fun s holds => ⟨holds.1.1, holds.2.1, holds.2.2.1,
          holds.2.2.2.hasRoom holds.2.2.1 (Nat.lt_of_not_le few) name⟩
  | some found =>
      refine Triple.assuming (fun s holds => holds.2.1) fun sound => ?_
      refine (refuseLiveOwner_triple quiet free sound fun _ holds => holds.1.1).leave
        fun _ s holds => ?_
      obtain ⟨⟨before, ready, clean⟩, _, file, there⟩ := holds
      exact ⟨before, ready, clean, (tidy _ before).hasRoom valid there⟩

/-- What is checked before a profile is written. -/
structure Admitted (codec : ProfileCodec) (name : Text) (profile : PhysicalProfile) : Prop where
  valid : validateProfileName name = .ok ()
  sound : profile.validate = .ok ()
  short : (codec.encode profile).length ≤ profileBytesMax

theorem admitProfile_triple (upkeep : ∀ disk next, P disk → Upkeep disk next → P next)
    (tidy : ∀ disk, P disk → Tidy codec disk) (free : calm → env.Unowned)
    (proper : calm → Admitted codec name profile)
    (room : ∀ disk names, P disk → calm → disk.lookup (profileFile name) = none →
      Lists names disk → names.length < profileLimit) :
    Triple (on P) (on fun disk => P disk ∧ (calm → ¬disk.Exposed))
      (admitProfile env codec name profile)
      (fun _ => on fun disk => Admitted codec name profile ∧ P disk ∧ disk.Ready ∧ Clean disk ∧
        HasRoom name disk) (fun _ => on (Spoiled calm P)) := by
  have named : Triple (on P) (on fun disk => P disk ∧ (calm → ¬disk.Exposed))
      (ofExcept (validateProfileName name))
      (fun _ => on fun disk => validateProfileName name = .ok () ∧ P disk ∧
        (calm → ¬disk.Exposed)) (fun _ => on (Spoiled calm P)) := by
    refine ofExcept_triple (fun _ _ holds value => ⟨value, holds⟩) fun _ _ holds value =>
      ⟨holds.1, fun still => ?_⟩
    rw [(proper still).valid] at value
    cases value
  refine named.bind fun _ => Triple.assuming (fun _ holds => holds.1) fun valid => ?_
  have checked : Triple (on P) (on fun disk => validateProfileName name = .ok () ∧ P disk ∧
        (calm → ¬disk.Exposed)) (ofExcept profile.validate)
      (fun _ => on fun disk => profile.validate = .ok () ∧ P disk ∧ (calm → ¬disk.Exposed))
      (fun _ => on (Spoiled calm P)) := by
    refine ofExcept_triple (fun _ _ holds value => ⟨value, holds.2⟩) fun _ _ holds value =>
      ⟨holds.2.1, fun still => ?_⟩
    rw [(proper still).sound] at value
    cases value
  refine checked.bind fun _ => Triple.assuming (fun _ holds => holds.1) fun sound => ?_
  refine ((lock_triple quiet fun _ holds => holds.2.1).leave fun _ _ holds => holds.2).bind
    fun _ => (prepareProfiles_triple quiet
      (fun disk next holds prepared => upkeep disk next holds prepared.upkeep)
      fun _ holds => holds).bind fun _ => ?_
  refine (cleanupTemporary_triple quiet upkeep tidy).bind fun _ => ?_
  refine (loadExisting_triple quiet (fun _ holds => holds.2.1) (fun _ holds => holds.1)
    (fun disk holds => tidy disk holds.1) valid).bind fun existing => ?_
  refine (admitExisting_triple quiet upkeep tidy free valid room existing).bind fun _ => ?_
  refine (refuseLiveOwner_triple quiet free sound fun _ holds => holds.1).bind fun _ => ?_
  split
  · rename_i long
    refine Triple.fail fun s holds => ⟨holds.1, fun still => ?_⟩
    have short := (proper still).short
    omega
  · rename_i short
    exact Triple.pure fun s holds => ⟨⟨valid, sound, Nat.le_of_not_lt short⟩, holds⟩

end Admission

/-! ## Writing -/

section Writing

variable (quiet : calm → env.Quiet)
include quiet

theorem giveUp_triple (upkeep : ∀ disk next, P disk → Upkeep disk next → P next) (name : Text) :
    Triple (on P) (on (Spoiled calm P)) (giveUp env (temporaryFile name))
      (fun _ => on fun _ => False) (fun _ => on (Spoiled calm P)) := by
  have removed : Triple (on P) (on (Spoiled calm P)) (removeFile env (temporaryFile name))
      (fun _ => on (Spoiled calm P)) (fun _ => on (Spoiled calm P)) := by
    refine change_triple quiet (fun disk next holds value => ?_) (fun _ _ holds _ => holds)
      fun _ holds _ => holds
    split at value
    · cases value
    · cases value
      have kept := upkeep _ _ holds.1 (.remove disk name)
      exact ⟨kept, kept, holds.2⟩
  exact (removed.catching fun _ => Triple.pure fun _ holds => holds).bind fun _ =>
    Triple.fail fun _ holds => holds

/-- A write that has come some way. -/
def Written (P : Disk → Prop) (name : Text) (bytes rest : List UInt8) (disk : Disk) : Prop :=
  P disk ∧ disk.Ready ∧ ∃ written synced, written ++ rest = bytes ∧
    disk.lookup (temporaryFile name) = some ⟨written, true, synced⟩

omit quiet in
theorem lookup_change_insert (disk : Disk) (entry : Text) (file : File) :
    (disk.change (·.insert entry file)).lookup entry = some file :=
  Finmap.lookup_insert _

theorem writeTemporary_triple (upkeep : ∀ disk next, P disk → Upkeep disk next → P next)
    (valid : validateProfileName name = .ok ()) (short : bytes.length ≤ profileBytesMax) :
    Triple (on P) (on fun disk => P disk ∧ disk.Ready ∧ Clean disk)
      (writeTemporary env (temporaryFile name) bytes)
      (fun _ => on fun disk => P disk ∧ disk.Ready ∧
        disk.lookup (temporaryFile name) = some ⟨bytes, true, true⟩)
      (fun _ => on (Spoiled calm P)) := by
  have rejected : Triple (on P) (on fun disk => P disk ∧ disk.Ready ∧ Clean disk)
      (rejectExistingPath env (temporaryFile name))
      (fun _ => on fun disk => P disk ∧ disk.Ready ∧ disk.lookup (temporaryFile name) = none)
      (fun _ => on (Spoiled calm P)) := by
    have absent : ∀ disk : Disk, Clean disk → disk.lookup (temporaryFile name) = none :=
      fun disk clean => Finmap.lookup_eq_none.mpr (clean.2 name)
    refine inspect_triple quiet (fun disk _ holds _ => ?_) (fun disk _ holds value => ?_)
      fun _ holds loud => ⟨holds.1, loud⟩
    · exact ⟨holds.1, holds.2.1, absent _ holds.2.2⟩
    · rw [absent _ holds.2.2] at value
      cases value
  have created : Triple (on P)
      (on fun disk => P disk ∧ disk.Ready ∧ disk.lookup (temporaryFile name) = none)
      (createNew env (temporaryFile name)) (fun _ => on (Written P name bytes bytes))
      (fun _ => on (Spoiled calm P)) := by
    refine change_triple quiet (fun disk next holds value => ?_) (fun disk _ holds value => ?_)
      fun _ holds loud => ⟨holds.1, loud⟩
    · obtain ⟨before, ready, absent⟩ := holds
      rw [absent] at value
      cases value
      have safe : File.isSafe ⟨[], true, false⟩ = true := rfl
      have kept := upkeep _ _ before (.put ready valid safe)
      exact ⟨kept, kept, ready, [], false, rfl, lookup_change_insert _ _ _⟩
    · rw [holds.2.2] at value
      cases value
  have wrote : ∀ byte rest, Triple (on P) (on (Written P name bytes (byte :: rest)))
      (writeByte env (temporaryFile name) byte) (fun _ => on (Written P name bytes rest))
      (fun _ => on (Spoiled calm P)) := by
    intro byte rest
    refine change_triple quiet (fun disk next holds value => ?_) (fun disk _ holds value => ?_)
      fun _ holds loud => ⟨holds.1, loud⟩
    · obtain ⟨before, ready, written, synced, split, there⟩ := holds
      rw [there] at value
      cases value
      rw [List.append_cons] at split
      have less : (written ++ [byte]).length ≤ profileBytesMax := by
        rw [← split, List.length_append] at short
        omega
      have safe : File.isSafe ⟨written ++ [byte], true, false⟩ = true := decide_eq_true less
      have kept := upkeep _ _ before (.put ready valid safe)
      exact ⟨kept, kept, ready, written ++ [byte], false, split, lookup_change_insert _ _ _⟩
    · obtain ⟨_, _, _, _, _, there⟩ := holds
      rw [there] at value
      cases value
  have synced : Triple (on P) (on (Written P name bytes [])) (syncFile env (temporaryFile name))
      (fun _ => on fun disk => P disk ∧ disk.Ready ∧
        disk.lookup (temporaryFile name) = some ⟨bytes, true, true⟩)
      (fun _ => on (Spoiled calm P)) := by
    refine change_triple quiet (fun disk next holds value => ?_) (fun disk _ holds value => ?_)
      fun _ holds loud => ⟨holds.1, loud⟩
    · obtain ⟨before, ready, written, synced, split, there⟩ := holds
      rw [List.append_nil] at split
      subst split
      rw [there] at value
      cases value
      have safe : File.isSafe ⟨written, true, true⟩ = true := decide_eq_true short
      have kept := upkeep _ _ before (.put ready valid safe)
      exact ⟨kept, kept, ready, lookup_change_insert _ _ _⟩
    · obtain ⟨_, _, _, _, _, there⟩ := holds
      rw [there] at value
      cases value
  refine rejected.bind fun _ => created.bind fun _ => ?_
  have all := @Triple.forM _ _ _ (on P) (fun _ => on (Spoiled calm P)) _
    (writeByte env (temporaryFile name)) (fun rest => on (Written P name bytes rest)) wrote bytes
  refine (all.bind fun _ => synced).catching fun _ => ?_
  exact (giveUp_triple quiet upkeep name).leave fun _ _ holds => holds.elim

/-! ## Publishing -/

/-- The temporary file takes the place of the profile. -/
def Disk.published (disk : Disk) (name : Text) (file : File) : Disk :=
  disk.change fun directory => (directory.erase (temporaryFile name)).insert (profileFile name) file

theorem publishTemporary_triple (upkeep : ∀ disk next, P disk → Upkeep disk next → P next)
    (later : ∀ disk, P disk → R disk)
    (publishes : ∀ disk, P disk → disk.Ready →
      disk.lookup (temporaryFile name) = some ⟨bytes, true, true⟩ →
      R (disk.published name ⟨bytes, true, true⟩)) :
    Triple (on R) (on fun disk => P disk ∧ disk.Ready ∧
        disk.lookup (temporaryFile name) = some ⟨bytes, true, true⟩)
      (publishTemporary env (temporaryFile name) (profileFile name))
      (fun _ => on fun disk => R disk ∧ disk.Ready ∧
        disk.lookup (profileFile name) = some ⟨bytes, true, true⟩)
      (fun _ => on (Spoiled calm P)) := by
  have renamed : Triple (on R) (on fun disk => P disk ∧ disk.Ready ∧
        disk.lookup (temporaryFile name) = some ⟨bytes, true, true⟩)
      (rename env (temporaryFile name) (profileFile name))
      (fun _ => on fun disk => R disk ∧ disk.Ready ∧
        disk.lookup (profileFile name) = some ⟨bytes, true, true⟩)
      (fun _ => on (Spoiled calm P)) := by
    refine change_triple quiet (fun disk next holds value => ?_) (fun disk _ holds value => ?_)
      fun _ holds loud => ⟨holds.1, loud⟩
    · obtain ⟨before, ready, there⟩ := holds
      rw [there] at value
      cases value
      have published := publishes _ before ready there
      exact ⟨published, published, ready, Finmap.lookup_insert _⟩
    · rw [holds.2.2] at value
      cases value
  exact renamed.catching fun _ => ((giveUp_triple quiet upkeep name).leave
    fun _ _ holds => holds.elim).widen fun s holds => later s.disk holds

theorem confirmPublication_triple (upkeep : ∀ disk next, R disk → Upkeep disk next → R next)
    (tidy : ∀ disk, R disk → Tidy codec disk) (valid : validateProfileName name = .ok ())
    (returns : calm → codec.decode (codec.encode profile) = some profile) :
    Triple (on R) (on fun disk => R disk ∧ disk.Ready ∧
        disk.lookup (profileFile name) = some ⟨codec.encode profile, true, true⟩)
      (confirmPublication env codec name profile)
      (fun _ => on fun disk => (R disk ∧ disk.Ready ∧
        disk.lookup (profileFile name) = some ⟨codec.encode profile, true, true⟩) ∧
          codec.decode (codec.encode profile) = some profile)
      (fun error => on fun disk => error = .publicationUnknown ∧ Spoiled calm R disk) := by
  have synced : Triple (on R) (on fun disk => R disk ∧ disk.Ready ∧
        disk.lookup (profileFile name) = some ⟨codec.encode profile, true, true⟩)
      (syncDirectory env) (fun _ => on fun disk => R disk ∧ disk.Ready ∧
        disk.lookup (profileFile name) = some ⟨codec.encode profile, true, true⟩)
      (fun _ => on (Spoiled calm R)) := by
    refine change_triple quiet (fun disk next holds value => ?_)
      (fun _ _ _ value => by cases value) fun _ holds loud => ⟨holds.1, loud⟩
    cases value
    have kept := upkeep _ _ holds.1 (.sync disk)
    exact ⟨kept, kept, holds.2⟩
  have loaded := (@loadLocked_ready_triple codec env calm R (fun disk => R disk ∧ disk.Ready ∧
      disk.lookup (profileFile name) = some ⟨codec.encode profile, true, true⟩) quiet
    (fun _ holds => holds.2.1) (fun _ holds => holds.1) (fun disk holds => tidy disk holds.1)
    name).miss fun _ s holds => (⟨holds.1.1, fun still => by
      have missing := (holds.2 still valid).2
      rw [holds.1.2.2] at missing
      cases missing⟩ : Spoiled calm R s.disk)
  refine Triple.catching (synced.bind fun _ => loaded.bind fun stored => ?_)
    fun _ => Triple.fail fun _ holds => ⟨rfl, holds⟩
  have same : ∀ disk : Disk,
      disk.lookup (profileFile name) = some ⟨codec.encode profile, true, true⟩ →
      (∃ file, disk.lookup (profileFile name) = some file ∧
        codec.decode file.contents = some stored) →
      codec.decode (codec.encode profile) = some stored := by
    intro disk there found
    obtain ⟨file, held, readable⟩ := found
    rw [there, Option.some.injEq] at held
    subst held
    exact readable
  split
  · rename_i equal
    exact Triple.pure fun s holds => ⟨holds.1,
      (same _ holds.1.2.2 holds.2.2.2.2).trans (congrArg some equal)⟩
  · rename_i other
    refine Triple.fail fun s holds => ⟨holds.1.1, fun still => other ?_⟩
    have back := returns still
    rw [same _ holds.1.2.2 holds.2.2.2.2, Option.some.injEq] at back
    exact back

/-! ## Operations -/

/-- What a change that fails leaves, unless its publication is unknown. -/
abbrev Unpublished (P R : Disk → Prop) (error : ProfileError) (disk : Disk) : Prop :=
  (error ≠ .publicationUnknown → P disk) ∧ R disk

/-- Setting a profile leaves what upkeep leaves, unless it succeeds or its publication is
unknown. -/
theorem set_triple (keepsP : ∀ disk next, P disk → Upkeep disk next → P next)
    (keepsR : ∀ disk next, R disk → Upkeep disk next → R next)
    (tidyP : ∀ disk, P disk → Tidy codec disk) (tidyR : ∀ disk, R disk → Tidy codec disk)
    (later : ∀ disk, P disk → R disk)
    (publishes : ∀ disk, Admitted codec name profile → HasRoom name disk → P disk → disk.Ready →
      R (disk.published name ⟨codec.encode profile, true, true⟩))
    (free : calm → env.Unowned) (proper : calm → Admitted codec name profile)
    (returns : calm → codec.decode (codec.encode profile) = some profile)
    (room : ∀ disk names, P disk → calm → disk.lookup (profileFile name) = none →
      Lists names disk → names.length < profileLimit) :
    Triple (on R) (on fun disk => P disk ∧ (calm → ¬disk.Exposed)) (set env codec name profile)
      (fun _ => on fun disk => (Admitted codec name profile ∧
          codec.decode (codec.encode profile) = some profile) ∧ R disk ∧ disk.Ready ∧
        disk.lookup (profileFile name) = some ⟨codec.encode profile, true, true⟩)
      (fun error => on (Unpublished P (Spoiled calm R) error)) := by
  have early : ∀ error (s : Session), on (Spoiled calm P) s →
      (error ≠ ProfileError.publicationUnknown → P s.disk) ∧ Spoiled calm R s.disk :=
    fun _ s holds => ⟨fun _ => holds.1, later _ holds.1, holds.2⟩
  have admitted := (admitProfile_triple quiet keepsP tidyP free proper room).widen
    fun s holds => later s.disk holds
  refine (admitted.miss early).bind fun _ =>
    Triple.assuming (fun _ holds => holds.1) fun proper => ?_
  have wrote := (@writeTemporary_triple env calm (fun disk => P disk ∧ HasRoom name disk) name
    (codec.encode profile) quiet
    (fun disk next holds upkept => ⟨keepsP _ _ holds.1 upkept, holds.2.upkeep upkept⟩)
    proper.valid proper.short).mono (fun s holds => later s.disk holds.1)
    (fun s (holds : on (fun disk => Admitted codec name profile ∧ P disk ∧ disk.Ready ∧
      Clean disk ∧ HasRoom name disk) s) =>
      ⟨⟨holds.2.1, holds.2.2.2.2⟩, holds.2.2.1, holds.2.2.2.1⟩) (fun _ _ holds => holds)
    fun error s holds => early error s ⟨holds.1.1, holds.2⟩
  refine wrote.bind fun _ => ?_
  have named : Triple (on R) (on fun disk => (P disk ∧ HasRoom name disk) ∧ disk.Ready ∧
        disk.lookup (temporaryFile name) = some ⟨codec.encode profile, true, true⟩)
      (ofExcept (validateProfileName name))
      (fun _ => on fun disk => (P disk ∧ HasRoom name disk) ∧ disk.Ready ∧
        disk.lookup (temporaryFile name) = some ⟨codec.encode profile, true, true⟩)
      (fun error => on (Unpublished P (Spoiled calm R) error)) := by
    refine ofExcept_triple (fun _ _ holds _ => holds) fun _ _ _ value => ?_
    rw [proper.valid] at value
    cases value
  refine named.bind fun _ => ?_
  have published := (@publishTemporary_triple env calm (fun disk => P disk ∧ HasRoom name disk) R
    name (codec.encode profile) quiet
    (fun disk next holds upkept => ⟨keepsP _ _ holds.1 upkept, holds.2.upkeep upkept⟩)
    (fun disk holds => later disk holds.1)
    (fun disk holds ready _ => publishes disk proper holds.2 holds.1 ready)).miss
    fun error s holds => early error s ⟨holds.1.1, holds.2⟩
  refine published.bind fun _ => ?_
  have confirmed := confirmPublication_triple quiet keepsR tidyR proper.valid returns
  exact (confirmed.leave fun _ _ holds => ⟨⟨proper, holds.2⟩, holds.1⟩).miss
    fun error s holds => ⟨fun other => absurd holds.1 other, holds.2⟩

end Writing

/-- The file of the profile is taken away. -/
def Disk.deleted (disk : Disk) (name : Text) : Disk := disk.change (·.erase (profileFile name))

/-- Deleting a profile leaves what upkeep leaves, unless it succeeds or its publication is
unknown. -/
theorem delete_triple (keepsP : ∀ disk next, P disk → Upkeep disk next → P next)
    (keepsR : ∀ disk next, R disk → Upkeep disk next → R next)
    (tidyP : ∀ disk, P disk → Tidy codec disk) (later : ∀ disk, P disk → R disk)
    (deletes : ∀ disk, P disk → disk.Ready → R (disk.deleted name)) :
    Triple (on R) (on P) (delete env codec name)
      (fun _ => on fun disk => R disk ∧ disk.lookup (profileFile name) = none)
      (fun error => on (Unpublished P R error)) := by
  -- nothing is said about when it fails
  have loud : False → env.Quiet := False.elim
  have early : ∀ error (s : Session), on (Spoiled False P) s →
      (error ≠ ProfileError.publicationUnknown → P s.disk) ∧ R s.disk :=
    fun _ s holds => ⟨fun _ => holds.1, later _ holds.1⟩
  have steady : ∀ disk next, P disk → Prepared disk next → P next :=
    fun disk next holds prepared => keepsP disk next holds prepared.upkeep
  have locked := @lock_triple env False R P P loud fun _ holds => holds
  refine (locked.miss early).bind fun _ => ?_
  have loaded : Triple (on R) (on P) (loadLocked env codec name)
      (fun profile => on fun disk => profile.validate = .ok () ∧ P disk ∧ disk.Ready)
      (fun error => on (Unpublished P R error)) :=
    (loadLocked_triple loud steady (fun _ holds => holds) tidyP name).mono
      (fun s holds => later s.disk holds) (fun s holds => ⟨holds, False.elim⟩)
      (fun _ _ holds => ⟨holds.2.2.2.1, holds.1, holds.2.1⟩)
      fun error s holds => early error s ⟨holds.1, id⟩
  refine loaded.bind fun profile => Triple.assuming (fun _ holds => holds.1) fun sound => ?_
  have refused : Triple (on R) (on fun disk => profile.validate = .ok () ∧ P disk ∧ disk.Ready)
      (refuseLiveOwner env profile)
      (fun _ => on fun disk => P disk ∧ disk.Ready)
      (fun error => on (Unpublished P R error)) :=
    ((@refuseLiveOwner_triple env False R (fun disk => P disk ∧ disk.Ready) P profile loud
      False.elim sound fun _ holds => holds.1).enter fun _ holds => holds.2).miss early
  refine refused.bind fun _ => ?_
  have prepared : Triple (on R) (on fun disk => P disk ∧ disk.Ready) (prepareProfiles env)
      (fun _ => on fun disk => P disk ∧ disk.Ready)
      (fun error => on (Unpublished P R error)) :=
    (prepareProfiles_triple loud steady fun _ holds => holds).mono
      (fun s holds => later s.disk holds) (fun _ holds => ⟨holds.1, False.elim⟩)
      (fun _ _ holds => holds) early
  refine prepared.bind fun _ => ?_
  have named : Triple (on R) (on fun disk => P disk ∧ disk.Ready)
      (ofExcept (validateProfileName name)) (fun _ => on fun disk => P disk ∧ disk.Ready)
      (fun error => on (Unpublished P R error)) :=
    ofExcept_triple (fun _ _ holds _ => holds) fun _ _ holds _ =>
      ⟨fun _ => holds.1, later _ holds.1⟩
  refine named.bind fun _ => ?_
  have checked : Triple (on R) (on fun disk => P disk ∧ disk.Ready)
      (validateProfileFile env .io (profileFile name))
      (fun _ => on fun disk => P disk ∧ disk.Ready)
      (fun error => on (Unpublished P R error)) :=
    inspect_triple loud (fun _ _ holds _ => holds)
      (fun _ _ holds _ => ⟨fun _ => holds.1, later _ holds.1⟩)
      fun _ holds _ => ⟨fun _ => holds.1, later _ holds.1⟩
  refine checked.bind fun _ => ?_
  have removed : Triple (on R) (on fun disk => P disk ∧ disk.Ready)
      (removeFile env (profileFile name))
      (fun _ => on fun disk => R disk ∧ disk.lookup (profileFile name) = none)
      (fun error => on (Unpublished P R error)) := by
    refine change_triple loud (fun disk next holds value => ?_)
      (fun _ _ holds _ => ⟨fun _ => holds.1, later _ holds.1⟩)
      fun _ holds _ => ⟨fun _ => holds.1, later _ holds.1⟩
    split at value
    · cases value
    · cases value
      have deleted := deletes _ holds.1 holds.2
      exact ⟨deleted, deleted, Finmap.lookup_erase _ _⟩
  refine removed.bind fun _ => ?_
  have synced : Triple (on R) (on fun disk => R disk ∧ disk.lookup (profileFile name) = none)
      (syncDirectory env) (fun _ => on fun disk => R disk ∧ disk.lookup (profileFile name) = none)
      (fun _ => on R) := by
    refine change_triple loud (fun disk next holds value => ?_)
      (fun _ _ _ value => by cases value) fun _ holds _ => holds.1
    cases value
    have kept := keepsR _ _ holds.1 (.sync disk)
    exact ⟨kept, kept, holds.2⟩
  exact synced.catching fun _ => Triple.fail fun _ holds => ⟨fun other => absurd rfl other, holds⟩

end Deskkin.Profiles
