/-
# Atomic changes of the profile store

In every history of a store a profile is set or deleted as a whole. If the operation is
refused no profile is changed; where it ends without saying so, or its process dies, the
profile is the old one or the new one and all others are unchanged. There are never more
profiles than the limit, and what a write left behind makes no later operation fail.

A process that dies leaves what its updates made of the disk. A loss of power leaves of each
profile what it was at some moment since the directory was last synced, or the new one.
-/

import Deskkin.Profiles.StoreWrites
import Deskkin.Recorder.Store

namespace Deskkin.Profiles

open Durable

/-! ## What changes allow -/

def nothing (_ : Text) (_ : Option File) : Prop := False

/-- The file of one profile may become `new`. -/
def only (name : Text) (new : Option File) (entry : Text) (found : Option File) : Prop :=
  entry = profileFile name ∧ found = new

/-- The disk is in order, and its profiles are those from `start` but for what is allowed. -/
def Since (codec : ProfileCodec) (allowed : Text → Option File → Prop) (start disk : Disk) : Prop :=
  Tidy codec disk ∧ UnsyncedDirectory.Moved IsProfile allowed start.files disk.files

def Unchanged (disk later : Disk) : Prop :=
  ∀ name, validateProfileName name = .ok () →
    later.lookup (profileFile name) = disk.lookup (profileFile name)

/-- The file of the profile is the old one or `new`, and those of all others are unchanged. -/
def OldOrNew (name : Text) (new : Option File) (disk later : Disk) : Prop :=
  ∀ other, validateProfileName other = .ok () →
    later.lookup (profileFile other) = disk.lookup (profileFile other) ∨
      (other = name ∧ later.lookup (profileFile other) = new)

/-- The same, but a file may be the one from any moment since the last sync. -/
def RecentOrNew (name : Text) (new : Option File) (disk later : Disk) : Prop :=
  ∀ other, validateProfileName other = .ok () →
    (∃ moment ∈ disk.files.seen,
      later.lookup (profileFile other) = moment.lookup (profileFile other)) ∨
        (other = name ∧ later.lookup (profileFile other) = new)

variable {codec : ProfileCodec} {env : Environment} {allowed : Text → Option File → Prop}
  {start disk later : Disk} {name : Text} {profile : PhysicalProfile} {new : Option File}

theorem Tidy.since (tidy : Tidy codec disk) : Since codec allowed disk disk :=
  ⟨tidy, .refl _⟩

theorem Since.upkeep (since : Since codec allowed start disk) (upkeep : Upkeep disk later) :
    Since codec allowed start later :=
  ⟨since.1.upkeep upkeep, since.2.trans (upkeep.moved allowed)⟩

theorem Since.loosen (since : Since codec nothing start disk) : Since codec allowed start disk :=
  ⟨since.1, since.2.mono fun _ _ => False.elim⟩

theorem Since.unchanged (since : Since codec nothing start disk) : Unchanged start disk :=
  fun name valid => (since.2.current _ ⟨name, valid, rfl⟩).resolve_right id

theorem Since.oldOrNew (since : Since codec (only name new) start disk) :
    OldOrNew name new start disk := by
  intro other valid
  refine (since.2.current _ ⟨other, valid, rfl⟩).imp id fun changed => ?_
  exact ⟨profileFile_injective changed.1, changed.2⟩

/-- No loss of power spoils a profile: its file was synced before it was published. -/
theorem Since.recentOrNew (since : Since codec (only name new) start disk)
    (lost : disk.Lost later) : RecentOrNew name new start later := by
  intro other valid
  refine (since.2.lost lost.files ?_ ⟨other, valid, rfl⟩).imp id fun changed =>
    ⟨profileFile_injective changed.1, changed.2⟩
  intro directory member entry file left isProfile there settles
  obtain ⟨name, valid, rfl⟩ := isProfile
  exact settles.2.2 ((since.1.files directory member _ _ there).profile_inv valid).2.1

/-! ## Publishing and deleting -/

theorem lookup_published (disk : Disk) (name : Text) (file : File) {entry : Text}
    (isProfile : IsProfile entry) (other : entry ≠ profileFile name) :
    (disk.published name file).lookup entry = disk.lookup entry :=
  (Finmap.lookup_insert_of_ne _ other).trans
    (Finmap.lookup_erase_ne (isProfile.ne_temporaryFile name))

theorem moved_published (disk : Disk) (name : Text) (file : File) :
    UnsyncedDirectory.Moved IsProfile (only name (some file)) disk.files
      (disk.published name file).files := by
  have change := @UnsyncedDirectory.moved_change _ _ disk.files _ IsProfile
    (only name (some file)) fun directory =>
      (directory.erase (temporaryFile name)).insert (profileFile name) file
  refine change fun entry isProfile => ?_
  by_cases own : entry = profileFile name
  · exact .inr ⟨own, own ▸ Finmap.lookup_insert _⟩
  · exact .inl (lookup_published disk name file isProfile own)

theorem Tidy.published (tidy : Tidy codec disk) (admitted : Admitted codec name profile)
    (room : HasRoom name disk) (ready : disk.Ready) :
    Tidy codec (disk.published name ⟨codec.encode profile, true, true⟩) := by
  have safe : File.isSafe ⟨codec.encode profile, true, true⟩ = true :=
    decide_eq_true admitted.short
  obtain ⟨stored, readable, sound⟩ := codec.decode_encode profile admitted.sound
  obtain ⟨names, few, covers⟩ := room
  refine ⟨tidy.files.change fun entry file there => ?_, ⟨_, few, ?_⟩,
    fun unready => absurd ready unready⟩
  · by_cases own : entry = profileFile name
    · subst own
      rw [Finmap.lookup_insert, Option.some.injEq] at there
      subst there
      exact .profile admitted.valid safe rfl readable sound
    · rw [Finmap.lookup_insert_of_ne _ own] at there
      have before : disk.lookup entry = some file := by
        by_cases temporary : entry = temporaryFile name
        · subst temporary
          rw [Finmap.lookup_erase] at there
          cases there
        · rwa [Finmap.lookup_erase_ne temporary] at there
      exact tidy.lookup before
  · intro directory member entry isProfile there
    rcases List.mem_cons.mp member with rfl | before
    · by_cases own : entry = profileFile name
      · exact own ▸ Finset.mem_insert_self _ _
      · obtain ⟨file, found⟩ := Finmap.mem_iff.mp there
        have held : disk.lookup entry = some file :=
          (lookup_published disk name _ isProfile own).symm.trans found
        exact Finset.mem_insert_of_mem (covers _ disk.files.current_mem_seen _ isProfile
          (Finmap.mem_of_lookup_eq_some held))
    · exact Finset.mem_insert_of_mem (covers _ before _ isProfile there)

theorem Since.published (since : Since codec nothing start disk)
    (admitted : Admitted codec name profile) (room : HasRoom name disk) (ready : disk.Ready) :
    Since codec (only name (some ⟨codec.encode profile, true, true⟩)) start
      (disk.published name ⟨codec.encode profile, true, true⟩) :=
  ⟨since.1.published admitted room ready, since.loosen.2.trans (moved_published disk name _)⟩

theorem moved_deleted (disk : Disk) (name : Text) :
    UnsyncedDirectory.Moved IsProfile (only name none) disk.files (disk.deleted name).files := by
  refine UnsyncedDirectory.moved_change fun entry _ => ?_
  by_cases own : entry = profileFile name
  · exact .inr ⟨own, own ▸ Finmap.lookup_erase _ _⟩
  · exact .inl (Finmap.lookup_erase_ne own)

theorem Tidy.deleted (tidy : Tidy codec disk) (ready : disk.Ready) (name : Text) :
    Tidy codec (disk.deleted name) := by
  obtain ⟨names, few, covers⟩ := tidy.limit
  refine ⟨tidy.files.change fun entry file there => ?_, ⟨names, few, ?_⟩,
    fun unready => absurd ready unready⟩
  · by_cases own : entry = profileFile name
    · subst own
      rw [Finmap.lookup_erase] at there
      cases there
    · rw [Finmap.lookup_erase_ne own] at there
      exact tidy.lookup there
  · exact covers.moved (moved_deleted disk name) fun _ _ found =>
      absurd found.2 (Option.some_ne_none _)

theorem Since.deleted (since : Since codec nothing start disk) (ready : disk.Ready)
    (name : Text) : Since codec (only name none) start (disk.deleted name) :=
  ⟨since.1.deleted ready name, since.loosen.2.trans (moved_deleted disk name)⟩

/-! ## Histories -/

theorem tidy_new : Tidy codec Disk.new := by
  have empty : ∀ directory ∈ Disk.new.files.seen, directory = ∅ := fun _ member =>
    List.mem_singleton.mp member
  refine ⟨fun directory member entry file there => ?_, ⟨∅, Nat.zero_le _, ?_⟩, fun _ => empty⟩
  · rw [empty directory member, Finmap.lookup_empty] at there
    cases there
  · intro directory member entry _ there
    rw [empty directory member] at there
    exact absurd there Finmap.notMem_empty

theorem Tidy.lost (tidy : Tidy codec disk) (lost : disk.Lost later) : Tidy codec later := by
  obtain ⟨names, few, covers⟩ := tidy.limit
  refine ⟨tidy.files.lost lost.files fun entry file left before settles => ?_,
    ⟨names, few, covers.lost lost.files⟩, fun unready directory member => ?_⟩
  · cases before with
    | profile valid safe synced readable sound =>
        rw [settles.2.2 synced]
        exact .profile valid safe synced readable sound
    | temporary valid safe =>
        simp only [File.isSafe, Bool.and_eq_true, decide_eq_true_eq] at safe
        refine .temporary valid ?_
        simp only [File.isSafe, Bool.and_eq_true, decide_eq_true_eq]
        exact ⟨settles.1.trans safe.1, settles.2.1.trans safe.2⟩
  · have closed := tidy.closed fun ready =>
      unready ⟨lost.made.trans ready.1, lost.isPrivate.trans ready.2⟩
    rw [UnsyncedDirectory.seen, lost.files.synced, List.mem_singleton] at member
    subst member
    refine Finmap.ext_lookup fun entry => ?_
    obtain ⟨moment, before, settled⟩ := lost.files.settled entry
    rw [closed moment before, Finmap.lookup_empty] at settled
    rw [Finmap.lookup_empty]
    generalize later.files.current.lookup entry = left at settled ⊢
    cases settled
    rfl

/-- A triple that says nothing about when the operation fails keeps its property. -/
theorem upTo_of_triple {α : Type} {P R : Disk → Prop} {m : Io α} {after : α → Session → Prop}
    {failed : ProfileError → Session → Prop} (triple : Triple (on R) (on P) m after failed)
    (ended : ∀ a s, after a s → R s.disk) (missed : ∀ error s, failed error s → R s.disk)
    (holds : P disk) {lost : Option ℕ} {session : Session}
    (left : m.upTo ⟨disk, 0⟩ lost = some session) : R session.disk := by
  have kept : Keeps (on R) (fun s => s = ⟨disk, 0⟩) m fun _ => on R := by
    refine keeps_iff_triple.mpr (triple.mono (fun _ holds => holds) ?_ ended missed)
    intro s same
    rw [same]
    exact holds
  cases lost with
  | none =>
      simp only [Durable.upTo, Option.some.injEq] at left
      subst left
      cases result : (m.run ⟨disk, 0⟩).result with
      | ok a => exact kept.success _ rfl a result
      | error error => exact kept.failure _ rfl error result
  | some index =>
      simp only [Durable.upTo, Option.map_eq_some_iff] at left
      obtain ⟨entry, found, rfl⟩ := left
      exact kept.trail _ rfl entry (List.mem_of_getElem? found)

/-- Every operation keeps the store in order, whatever fails. -/
theorem Operation.perform_tidy (operation : Operation) (tidy : Tidy codec disk)
    {lost : Option ℕ} {session : Session}
    (left : (operation.perform env codec).upTo ⟨disk, 0⟩ lost = some session) :
    Tidy codec session.disk := by
  have loud : False → env.Quiet := False.elim
  have upkeep : ∀ disk next : Disk, Tidy codec disk → Upkeep disk next → Tidy codec next :=
    fun _ _ tidy upkeep => tidy.upkeep upkeep
  have steady : ∀ disk next : Disk, Tidy codec disk → Prepared disk next → Tidy codec next :=
    fun _ _ tidy prepared => tidy.upkeep prepared.upkeep
  have start : Tidy codec disk ∧ (False → ¬disk.Exposed) := ⟨tidy, False.elim⟩
  cases operation with
  | list =>
      have ran : Triple (on (Tidy codec)) (on fun disk => Tidy codec disk ∧ (False → ¬disk.Exposed))
          (Operation.list.perform env codec) (fun _ => on (Tidy codec))
          (fun _ => on (Spoiled False (Tidy codec))) :=
        (list_triple loud upkeep fun _ tidy => tidy).bind fun _ =>
          Triple.pure fun _ holds => holds.1
      exact upTo_of_triple ran (fun _ _ holds => holds) (fun _ _ holds => holds.1) start left
  | showProfile name =>
      have ran : Triple (on (Tidy codec)) (on fun disk => Tidy codec disk ∧ (False → ¬disk.Exposed))
          ((Operation.showProfile name).perform env codec) (fun _ => on (Tidy codec)) _ :=
        (showProfile_triple loud steady (fun _ tidy => tidy) (fun _ tidy => tidy) name).bind
          fun _ => Triple.pure fun _ holds => holds.1
      exact upTo_of_triple ran (fun _ _ holds => holds) (fun _ _ holds => holds.1) start left
  | set name profile =>
      have ran := set_triple loud upkeep upkeep (fun _ tidy => tidy) (fun _ tidy => tidy)
        (fun _ tidy => tidy) (fun _ admitted room tidy ready => tidy.published admitted room ready)
        False.elim (False.elim : False → Admitted codec name profile) False.elim
        fun _ _ _ still => still.elim
      exact upTo_of_triple ran (fun _ _ holds => holds.2.1) (fun _ _ holds => holds.2.1) start left
  | delete name =>
      have ran := @delete_triple codec env _ _ name upkeep upkeep (fun _ tidy => tidy)
        (fun _ tidy => tidy) fun _ tidy ready => tidy.deleted ready name
      exact upTo_of_triple ran (fun _ _ holds => holds.1) (fun _ _ holds => holds.2) tidy left
  | loadForOperation name =>
      have ran : Triple (on (Tidy codec)) (on fun disk => Tidy codec disk ∧ (False → ¬disk.Exposed))
          ((Operation.loadForOperation name).perform env codec) (fun _ => on (Tidy codec)) _ :=
        (loadForOperation_triple loud steady (fun _ tidy => tidy) (fun _ tidy => tidy) name).bind
          fun _ => Triple.pure fun _ holds => holds.1
      exact upTo_of_triple ran (fun _ _ holds => holds) (fun _ _ holds => holds.1) start left

theorem Reachable.tidy (reachable : Reachable codec disk) : Tidy codec disk := by
  induction reachable with
  | new => exact tidy_new
  | performed _ env operation lost left ih => exact operation.perform_tidy ih left
  | powerLost _ lost ih => exact ih.lost lost

/-! ## Atomicity -/

/-- What setting a profile leaves. -/
structure SetAtomic (codec : ProfileCodec) (env : Environment) (disk : Disk) (name : Text)
    (profile : PhysicalProfile) : Prop where
  refused : ∀ error, ((set env codec name profile).run ⟨disk, 0⟩).result = .error error →
    error ≠ .publicationUnknown →
      Unchanged disk ((set env codec name profile).run ⟨disk, 0⟩).final.disk
  left : ∀ lost session, (set env codec name profile).upTo ⟨disk, 0⟩ lost = some session →
    OldOrNew name (some ⟨codec.encode profile, true, true⟩) disk session.disk
  withoutPower : ∀ lost session later,
    (set env codec name profile).upTo ⟨disk, 0⟩ lost = some session → session.disk.Lost later →
      RecentOrNew name (some ⟨codec.encode profile, true, true⟩) disk later
  shown : ((set env codec name profile).run ⟨disk, 0⟩).result = .ok () → ∀ other : Environment,
    let shown := ((showProfile other codec name).run
      ⟨((set env codec name profile).run ⟨disk, 0⟩).final.disk, 0⟩).result
    (∀ bytes, shown = .ok bytes → codec.decode bytes = some profile) ∧
      (other.Quiet → ∃ bytes, shown = .ok bytes)

/-- What deleting a profile leaves. -/
structure DeleteAtomic (codec : ProfileCodec) (env : Environment) (disk : Disk) (name : Text) :
    Prop where
  refused : ∀ error, ((delete env codec name).run ⟨disk, 0⟩).result = .error error →
    error ≠ .publicationUnknown → Unchanged disk ((delete env codec name).run ⟨disk, 0⟩).final.disk
  left : ∀ lost session, (delete env codec name).upTo ⟨disk, 0⟩ lost = some session →
    OldOrNew name none disk session.disk
  withoutPower : ∀ lost session later,
    (delete env codec name).upTo ⟨disk, 0⟩ lost = some session → session.disk.Lost later →
      RecentOrNew name none disk later

/-- What listing, showing and setting come to when no call fails. A profile can be set where
there is room for it, it is read back as it was, and no owner is in the way. -/
structure Unhindered (codec : ProfileCodec) (env : Environment) (disk : Disk) : Prop where
  list : ∃ names, ((list env codec).run ⟨disk, 0⟩).result = .ok names ∧ Lists names disk
  showProfile : ∀ name, validateProfileName name = .ok () →
    (disk.lookup (profileFile name) = none ∧
      ((showProfile env codec name).run ⟨disk, 0⟩).result = .error .notFound) ∨
    ∃ file profile, disk.lookup (profileFile name) = some file ∧
      codec.decode file.contents = some profile ∧
        ((showProfile env codec name).run ⟨disk, 0⟩).result = .ok (codec.encode profile)
  set : ∀ name profile, env.Unowned → Admitted codec name profile →
    codec.decode (codec.encode profile) = some profile →
    (disk.lookup (profileFile name) ≠ none ∨
      ∀ names, Lists names disk → names.length < profileLimit) →
    ((set env codec name profile).run ⟨disk, 0⟩).result = .ok ()

theorem set_since (env : Environment) (disk : Disk) (name : Text) (profile : PhysicalProfile) :
    Triple (on (Since codec (only name (some ⟨codec.encode profile, true, true⟩)) disk))
      (on (Since codec nothing disk)) (set env codec name profile)
      (fun _ => on fun later => (Admitted codec name profile ∧
          codec.decode (codec.encode profile) = some profile) ∧
        Since codec (only name (some ⟨codec.encode profile, true, true⟩)) disk later ∧
          later.Ready ∧
            later.lookup (profileFile name) = some ⟨codec.encode profile, true, true⟩)
      (fun error => on fun later =>
        (error ≠ .publicationUnknown → Since codec nothing disk later) ∧
          Since codec (only name (some ⟨codec.encode profile, true, true⟩)) disk later) := by
  have loud : False → env.Quiet := False.elim
  exact (set_triple loud (fun _ _ since upkeep => since.upkeep upkeep)
    (fun _ _ since upkeep => since.upkeep upkeep) (fun _ since => since.1)
    (fun _ since => since.1) (fun _ since => since.loosen)
    (fun _ admitted room since ready => since.published admitted room ready)
    False.elim False.elim False.elim fun _ _ _ still => still.elim).mono
    (fun _ holds => holds) (fun _ holds => ⟨holds, False.elim⟩) (fun _ _ holds => holds)
    fun _ _ holds => ⟨holds.1, holds.2.1⟩

/-- What a store shows that is ready, in the words of its files. -/
theorem showProfile_spec (tidy : Tidy codec disk) (ready : disk.Ready) (env : Environment)
    (name : Text) :
    (∀ bytes, ((showProfile env codec name).run ⟨disk, 0⟩).result = .ok bytes →
      ∃ file profile, disk.lookup (profileFile name) = some file ∧
        codec.decode file.contents = some profile ∧ bytes = codec.encode profile) ∧
    ∀ error, ((showProfile env codec name).run ⟨disk, 0⟩).result = .error error → env.Quiet →
      validateProfileName name = .ok () →
        error = .notFound ∧ disk.lookup (profileFile name) = none := by
  have triple := @showProfile_triple codec env env.Quiet (fun _ => True) (fun now => now = disk) id
    (steady_of_ready fun _ same => same ▸ ready) (fun _ _ => trivial) (fun _ same => same ▸ tidy)
    name
  have start : on (fun now => now = disk ∧ (env.Quiet → ¬now.Exposed)) ⟨disk, 0⟩ :=
    ⟨rfl, fun _ => not_exposed_of_ready ready⟩
  refine ⟨fun bytes ended => ?_, fun error ended quiet valid => ?_⟩
  · obtain ⟨same, found⟩ := triple.success _ start bytes ended
    rwa [same] at found
  · obtain ⟨same, missing⟩ := triple.failure _ start error ended
    rw [same] at missing
    exact missing quiet valid

theorem setAtomic (tidy : Tidy codec disk) (env : Environment) (name : Text)
    (profile : PhysicalProfile) : SetAtomic codec env disk name profile := by
  have triple := @set_since codec env disk name profile
  have start : on (Since codec nothing disk) ⟨disk, 0⟩ := tidy.since
  have visible : ∀ lost session,
      (set env codec name profile).upTo ⟨disk, 0⟩ lost = some session →
      Since codec (only name (some ⟨codec.encode profile, true, true⟩)) disk session.disk :=
    fun _ _ left => upTo_of_triple triple (fun _ _ holds => holds.2.1) (fun _ _ holds => holds.2)
      tidy.since left
  refine ⟨fun error ended known => ?_, fun lost session left => ?_,
    fun lost session later left power => ?_, fun ended other => ?_⟩
  · exact ((triple.failure _ start error ended).1 known).unchanged
  · exact (visible lost session left).oldOrNew
  · exact (visible lost session left).recentOrNew power
  · obtain ⟨⟨admitted, readable⟩, since, ready, there⟩ := triple.success _ start () ended
    obtain ⟨shows, missing⟩ := showProfile_spec since.1 ready other name
    refine ⟨fun bytes shown => ?_, fun quiet => ?_⟩
    · obtain ⟨file, stored, found, decoded, rfl⟩ := shows bytes shown
      rw [there, Option.some.injEq] at found
      subst found
      rw [readable, Option.some.injEq] at decoded
      rwa [← decoded]
    · cases shown : ((showProfile other codec name).run
        ⟨((set env codec name profile).run ⟨disk, 0⟩).final.disk, 0⟩).result with
      | ok bytes => exact ⟨bytes, rfl⟩
      | error error =>
          have absent := (missing error shown quiet admitted.valid).2
          rw [there] at absent
          cases absent

theorem deleteAtomic (tidy : Tidy codec disk) (env : Environment) (name : Text) :
    DeleteAtomic codec env disk name := by
  have triple := @delete_triple codec env (Since codec nothing disk)
    (Since codec (only name none) disk) name (fun _ _ since upkeep => since.upkeep upkeep)
    (fun _ _ since upkeep => since.upkeep upkeep) (fun _ since => since.1)
    (fun _ since => since.loosen) fun _ since ready => since.deleted ready name
  have start : on (Since codec nothing disk) ⟨disk, 0⟩ := tidy.since
  have visible : ∀ lost session, (delete env codec name).upTo ⟨disk, 0⟩ lost = some session →
      Since codec (only name none) disk session.disk :=
    fun _ _ left => upTo_of_triple triple (fun _ _ holds => holds.1) (fun _ _ holds => holds.2)
      tidy.since left
  refine ⟨fun error ended known => ?_, fun lost session left => ?_,
    fun lost session later left power => ?_⟩
  · exact ((triple.failure _ start error ended).1 known).unchanged
  · exact (visible lost session left).oldOrNew
  · exact (visible lost session left).recentOrNew power

/-! ## Leftovers -/

theorem Unchanged.mem (same : Unchanged disk later) (valid : validateProfileName name = .ok ()) :
    profileFile name ∈ later.files.current ↔ profileFile name ∈ disk.files.current := by
  have equal : later.files.current.lookup (profileFile name) =
    disk.files.current.lookup (profileFile name) := same name valid
  rw [Finmap.mem_iff, Finmap.mem_iff, equal]

theorem Lists.congr {names : List Text} (lists : Lists names later) (same : Unchanged disk later) :
    Lists names disk := by
  refine ⟨lists.sorted, lists.nodup, fun name => (lists.mem name).trans ?_⟩
  exact and_congr_right fun valid => same.mem valid

/-- A store that holds anything is ready, and nothing hinders it then. -/
theorem unhindered (tidy : Tidy codec disk) (ready : disk.Ready) (quiet : env.Quiet) :
    Unhindered codec env disk := by
  have still : env.Quiet → env.Quiet := id
  have start : on (fun now => Since codec nothing disk now ∧ (env.Quiet → ¬now.Exposed))
      ⟨disk, 0⟩ := ⟨tidy.since, fun _ => not_exposed_of_ready ready⟩
  have upkeep : ∀ now next : Disk, Since codec nothing disk now → Upkeep now next →
      Since codec nothing disk next := fun _ _ since upkeep => since.upkeep upkeep
  refine ⟨?_, fun name valid => ?_, fun name profile free admitted readable room => ?_⟩
  · have triple := list_triple still upkeep fun _ since => since.1
    cases result : ((list env codec).run ⟨disk, 0⟩).result with
    | ok names =>
        obtain ⟨since, lists⟩ := triple.success _ start names result
        exact ⟨names, rfl, lists.congr since.unchanged⟩
    | error error => exact absurd quiet (triple.failure _ start error result).2
  · obtain ⟨shows, missing⟩ := showProfile_spec tidy ready env name
    cases result : ((showProfile env codec name).run ⟨disk, 0⟩).result with
    | ok bytes =>
        obtain ⟨file, profile, there, decoded, rfl⟩ := shows bytes result
        exact .inr ⟨file, profile, there, decoded, rfl⟩
    | error error =>
        obtain ⟨rfl, absent⟩ := missing error result quiet valid
        exact .inl ⟨absent, rfl⟩
  · have triple := set_triple still upkeep (fun _ _ since upkeep => since.upkeep upkeep)
      (fun _ since => since.1) (fun _ since => since.1) (fun _ since => since.loosen)
      (fun _ admitted room since ready => since.published admitted room ready)
      (fun _ => free) (fun _ => admitted) (fun _ => readable)
      fun now names since _ absent lists => by
        have same := since.unchanged
        rw [same name admitted.valid] at absent
        exact (room.resolve_left fun there => there absent) names (lists.congr same)
    cases result : ((set env codec name profile).run ⟨disk, 0⟩).result with
    | ok => rfl
    | error error => exact absurd quiet (triple.failure _ start error result).2.2

/-- **The profile store is atomic.** Whatever calls failed before and wherever processes died
or power was lost, there are no more profiles than the limit, a profile is set and deleted as
a whole, and no leftover hinders a later operation. -/
theorem store_atomic (reachable : Reachable codec disk) :
    (∀ names : Finset Text, (∀ name ∈ names, validateProfileName name = .ok () ∧
      profileFile name ∈ disk.files.current) → names.card ≤ profileLimit) ∧
    (∀ env name profile, SetAtomic codec env disk name profile) ∧
    (∀ env name, DeleteAtomic codec env disk name) ∧
    ∀ env name, temporaryFile name ∈ disk.files.current → env.Quiet →
      Unhindered codec env disk := by
  have tidy := reachable.tidy
  refine ⟨fun names stored => ?_, fun env name profile => setAtomic tidy env name profile,
    fun env name => deleteAtomic tidy env name, fun env name left quiet => ?_⟩
  · obtain ⟨covering, few, covers⟩ := tidy.limit
    have inside : names.image profileFile ⊆ covering := by
      intro entry member
      obtain ⟨name, listed, rfl⟩ := Finset.mem_image.mp member
      obtain ⟨valid, there⟩ := stored name listed
      exact covers _ disk.files.current_mem_seen _ ⟨name, valid, rfl⟩ there
    have card := Finset.card_le_card inside
    rw [Finset.card_image_of_injective _ profileFile_injective] at card
    exact card.trans few
  · refine unhindered tidy ?_ quiet
    by_contra unready
    rw [tidy.closed unready _ disk.files.current_mem_seen] at left
    exact Finmap.notMem_empty left

/-! ## A store in use -/

def sampleProfile : PhysicalProfile where
  schemaVersion := 1
  roleRoot := "roles/desk".toList
  bind := ⟨.loopback, .v4 #v[127, 0, 0, 1] 39032⟩
  availability := .available
  recording := .off

def sampleText : List UInt8 :=
  ("\x7b\n  \"schema_version\": 1,\n  \"role_root\": \"roles/desk\",\n  \"bind\": \x7b\n" ++
    "    \"mode\": \"loopback\",\n    \"address\": \"127.0.0.1:39032\"\n  \x7d,\n" ++
    "  \"availability\": \"available\",\n  \"recording\": \"off\"\n\x7d\n").toList.map
      fun character => UInt8.ofNat character.toNat

/-- The text of the one profile that is stored here. -/
def sampleCodec : ProfileCodec where
  encode _ := sampleText
  decode bytes := if bytes = sampleText then some sampleProfile else none
  decode_encode _ _ := ⟨sampleProfile, if_pos rfl, by decide +kernel⟩

/-- Nothing fails, and nobody owns a role. -/
def quietEnvironment : Environment where
  fails _ := false
  rootUnsafe := false
  privateDirectories := true
  listing := Diagnostics.sortedNames
  linked _ _ := false
  owner _ _ := .none
  nodup_listing directory := by
    rw [← Multiset.coe_nodup, Diagnostics.coe_sortedNames]
    exact directory.keys.nodup
  mem_listing directory file := by
    rw [← Multiset.mem_coe, Diagnostics.coe_sortedNames, Finset.mem_val, Finmap.mem_keys]

theorem quiet_quietEnvironment : quietEnvironment.Quiet := ⟨fun _ => rfl, rfl⟩

/-- The process died while it wrote, and its leftover hinders nothing. -/
theorem store_atomic_leftover :
    ∃ disk, Reachable sampleCodec disk ∧ temporaryFile "desk".toList ∈ disk.files.current ∧
      Unhindered sampleCodec quietEnvironment disk := by
  have crashed : (((Operation.set "desk".toList sampleProfile).perform quietEnvironment
      sampleCodec).upTo ⟨Disk.new, 0⟩ (some 9)).any fun session =>
        decide (temporaryFile "desk".toList ∈ session.disk.files.current) := by
    decide +kernel
  rw [Option.any_eq_true] at crashed
  obtain ⟨session, left, there⟩ := crashed
  have reachable : Reachable sampleCodec session.disk := .performed .new _ _ _ left
  have leftover := of_decide_eq_true there
  exact ⟨session.disk, reachable, leftover,
    (store_atomic reachable).2.2.2 quietEnvironment _ leftover quiet_quietEnvironment⟩

end Deskkin.Profiles
