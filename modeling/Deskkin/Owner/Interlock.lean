/-
# Profiles and the owners launched for them

An owner that was launched for a profile holds the lock of its control root while it
serves, and a call that changes the profile has found that lock free. Between the two
stands the operation lock. While the owner may still be about to take the lock of its
control root, its host has the operation lock, so nobody else can change the profile.
Once the host has given the operation lock away, the owner has had its lock and will
not take it again; then a free lock stays free of launched owners for as long as the
changing call has the operation lock.

All of this is about the lock of the control root. The threads of an owner are behind
it as long as the owner does not leave them behind when a call of its own fails.
-/

import Deskkin.Owner.Exclusivity
import Deskkin.Owner.ProfileStore

namespace Deskkin.OwnerControl

open ExclusiveLock

/-! ## What a step does to one owner -/

namespace OwnerPhase

/-- The owner has had the lock, and will not take it again. -/
def settled : OwnerPhase → Bool
  | serving _ _ | joining _ | closing | removing | leaving _ | returned _ | died => true
  | _ => false

theorem settled_of_isOver {phase : OwnerPhase} (ended : phase.isOver = true) :
    phase.settled = true := by
  cases phase <;> first | rfl | cases ended

variable {files : ControlFiles} {id : ℕ} {phase after : OwnerPhase} {move : OwnerMove}
  {effect : FileEffect}

/-- A settled owner stays so, and takes no lock. -/
theorem settled_of_next (moved : phase.next files id move = some (effect, after))
    (settled : phase.settled = true) :
    after.settled = true ∧ (after.holds = true → phase.holds = true) := by
  revert moved
  fun_cases next files id phase move
  all_goals
    intro moved
    simp only [Option.some.injEq, Prod.mk.injEq, reduceCtorEq, Option.map_eq_some_iff] at moved
  all_goals try obtain ⟨rfl, rfl⟩ := moved
  all_goals try
    obtain ⟨threads, answered, rfl, rfl⟩ := moved
  all_goals first
    | exact ⟨rfl, fun _ => rfl⟩
    | exact ⟨rfl, fun held => by cases held⟩
    | cases settled

end OwnerPhase

namespace ControlRoot

variable {self next : ControlRoot} {label : ControlLabel}

/-- A settled owner stays so, and takes no lock, whatever happens. -/
theorem settled_of_step (moved : self.step label = some next) {id : ℕ}
    (settled : (self.owners id).settled = true) :
    (next.owners id).settled = true ∧
      ((next.owners id).holds = true → (self.owners id).holds = true) := by
  obtain same | died | ⟨move, effect, _, turn⟩ := owners_of_step moved id
  · rw [same]
    exact ⟨settled, fun holds => holds⟩
  · rw [died]
    exact ⟨rfl, nofun⟩
  · exact OwnerPhase.settled_of_next turn settled

end ControlRoot

/-! ## What holds at every moment -/

/-- The launched owner that may still be about to take the lock of its control root. -/
def StorePhase.starts : StorePhase → Option (String × ℕ)
  | hosting stage root owner => if stage.starting then some (root, owner) else none
  | _ => none

theorem StorePhase.holds_of_starts {phase : StorePhase} {place : String × ℕ}
    (starts : phase.starts = some place) : phase.holds = true := by
  cases phase with
  | hosting stage root owner => cases stage <;> first | rfl | cases starts
  | _ => cases starts

/-- The profile of the name has the metadata that the owner was launched with. -/
def Describes (profiles : String → ProfileFile) (launch : Launch) : Prop :=
  ∃ profile, profiles launch.name = .stored profile ∧
    profile.launchMetadata launch.name = launch.metadata

/-- What is known of an owner that was launched at this control root, from its phase
and from the phase of its host. -/
structure Launched (profiles : String → ProfileFile) (root : String) (owner : ℕ)
    (launch : Launch) (phase : OwnerPhase) (host : StorePhase) : Prop where
  rooted : launch.metadata.roleRoot = root
  described : phase.holds = true ∨ phase.settled = false → Describes profiles launch
  starting : phase.settled = false → host.starts = some (root, owner)
  ready : launch.ready = true → phase.settled = true
  attended : phase.LeftNobody

/-- No launched owner has the lock of the control root. -/
def Vacant (launches : ℕ → Option Launch) (owners : ℕ → OwnerPhase) : Prop :=
  ∀ owner launch, launches owner = some launch → (owners owner).holds = false

theorem Launched.step {profiles : String → ProfileFile} {root : String} {owner : ℕ}
    {launch : Launch} {host : StorePhase} {before after : ControlRoot} {label : ControlLabel}
    (known : Launched profiles root owner launch (before.owners owner) host)
    (moved : before.step label = some after)
    (attended : label = .owner owner .fail → (before.owners owner).threads.Over) :
    Launched profiles root owner launch (after.owners owner) host where
  rooted := known.rooted
  described holding := by
    apply known.described
    cases settled : (before.owners owner).settled with
    | false => exact .inr rfl
    | true =>
        have later := ControlRoot.settled_of_step moved settled
        rw [later.1] at holding
        exact .inl (later.2 (holding.resolve_right nofun))
  starting unsettled := by
    apply known.starting
    by_contra settled
    have later := ControlRoot.settled_of_step moved (Bool.of_not_eq_false settled)
    rw [later.1] at unsettled
    cases unsettled
  ready isReady := (ControlRoot.settled_of_step moved (known.ready isReady)).1
  attended := by
    obtain same | died | ⟨move, effect, named, turn⟩ := ControlRoot.owners_of_step moved owner
    · rw [same]
      exact known.attended
    · rw [died]
      exact trivial
    · apply OwnerPhase.leftNobody_of_next turn known.attended
      intro fails
      exact attended (by rw [named, fails])

variable {launches : ℕ → Option Launch}

/-- A control root without launched owners stays so while all of them are settled. -/
theorem vacant_of_step {before after : ControlRoot} {label : ControlLabel}
    (moved : before.step label = some after)
    (settled : ∀ owner launch, launches owner = some launch →
      (before.owners owner).settled = true) (vacant : Vacant launches before.owners) :
    Vacant launches after.owners := by
  intro owner launch launched
  have free := vacant owner launch launched
  by_contra holds
  have held := (ControlRoot.settled_of_step moved (settled owner launch launched)).2
    (Bool.of_not_eq_false holds)
  rw [free] at held
  cases held

/-- Nobody has the lock of a control root that is free. -/
theorem vacant_of_free {control : ControlRoot} (consistent : control.Consistent)
    (free : control.files.lock = none) : Vacant launches control.owners := by
  intro owner _ _
  exact Bool.of_not_eq_true (consistent.held.nobody free (.owner owner))

def fileOf : Option PhysicalProfile → ProfileFile
  | none => .missing
  | some profile => .stored profile

namespace ProfileStore

def VacantAt (self : ProfileStore) (root : String) : Prop :=
  Vacant (self.launches root) (self.controls root).owners

def FoundVacant (self : ProfileStore) (root : String) (discovery : ℕ) : Prop :=
  ((self.controls root).discoveries discovery).foundVacant = true

/-- What a call knows while it has the operation lock: the profile is the one it has
read, and a control root it is done with has no launched owner. -/
def Sound (self : ProfileStore) : StorePhase → Prop
  | .refusing edit existing left =>
      self.profiles edit.name = fileOf existing ∧
        ∀ profile ∈ existing, profile ∈ left ∨ self.VacantAt profile.roleRoot
  | .discovering edit existing profile left discovery =>
      self.profiles edit.name = fileOf existing ∧
        (∀ other ∈ existing, other ∈ profile :: left ∨ self.VacantAt other.roleRoot) ∧
        (self.FoundVacant profile.roleRoot discovery → self.VacantAt profile.roleRoot)
  | .editing edit existing =>
      self.profiles edit.name = fileOf existing ∧
        ∀ profile ∈ existing, self.VacantAt profile.roleRoot
  | .resolving name profile => self.profiles name = .stored profile
  | _ => True

structure Interlocked (store : ProfileStore) : Prop where
  held : HeldBy store.operation fun id => (store.processes id).holds = true
  controls : ∀ root, (store.controls root).Consistent
  launched : ∀ root owner launch, store.launches root owner = some launch →
    Launched store.profiles root owner launch ((store.controls root).owners owner)
      (store.processes launch.process)
  sound : ∀ id, store.Sound (store.processes id)

variable {self next : ProfileStore}

theorem Untouched.interlocked (untouched : self.Untouched) : self.Interlocked where
  held := by
    apply HeldBy.of_free (ProfileStore.Untouched.free untouched)
    intro id
    rw [ProfileStore.Untouched.processes untouched]
    exact nofun
  controls root :=
    ControlRoot.Untouched.consistent (ProfileStore.Untouched.controls untouched root)
  launched root owner launch launched := by
    rw [ProfileStore.Untouched.launches untouched] at launched
    cases launched
  sound id := by
    rw [ProfileStore.Untouched.processes untouched]
    exact trivial

/-- A call without the operation lock knows nothing. -/
theorem sound_of_not_holds {phase : StorePhase} (free : phase.holds = false) :
    self.Sound phase := by
  cases phase <;> first | exact trivial | cases free

/-- What a call knows is about the profile and about vacant control roots. -/
theorem Sound.mono {phase : StorePhase} (sound : self.Sound phase)
    (profiles : next.profiles = self.profiles)
    (vacant : ∀ root, self.VacantAt root → next.VacantAt root)
    (found : ∀ root discovery, next.FoundVacant root discovery →
      self.FoundVacant root discovery ∨ next.VacantAt root) :
    next.Sound phase := by
  cases phase with
  | refusing edit existing left =>
      refine ⟨profiles ▸ sound.1, fun profile member => ?_⟩
      exact (sound.2 profile member).imp_right (vacant _)
  | discovering edit existing profile left discovery =>
      refine ⟨profiles ▸ sound.1, fun other member => ?_, fun here => ?_⟩
      · exact (sound.2.1 other member).imp_right (vacant _)
      · cases found _ _ here with
        | inl before => exact vacant _ (sound.2.2 before)
        | inr now => exact now
  | editing edit existing =>
      exact ⟨profiles ▸ sound.1, fun profile member => vacant _ (sound.2 profile member)⟩
  | resolving name profile =>
      change next.profiles name = .stored profile
      rw [profiles]
      exact sound
  | _ => exact trivial

/-! ## One step -/

variable {root : String} {owner : ℕ} {existing : Option PhysicalProfile} {profile : PhysicalProfile}

section

variable (inter : self.Interlocked)
include inter

/-- While a call has the operation lock and starts no owner, every launched owner is
settled. -/
theorem Interlocked.settled_of_holds {id : ℕ} (holds : (self.processes id).holds = true)
    (starts : (self.processes id).starts = none) {launch : Launch}
    (launched : self.launches root owner = some launch) :
    ((self.controls root).owners owner).settled = true := by
  by_contra unsettled
  have host := (inter.launched root owner launch launched).starting
    (Bool.of_not_eq_true unsettled)
  have same := inter.held.unique (StorePhase.holds_of_starts host) holds
  rw [same, starts] at host
  cases host

/-- A process goes on in its call. -/
theorem Interlocked.setProcess {id : ℕ} {use : LockUse} {before after : StorePhase}
    (here : self.processes id = before)
    (allowed : use.Allowed self.operation (before.holds = true) (after.holds = true))
    (sound : self.Sound after) (settles : ∀ root owner, before.starts = some (root, owner) →
      after.starts = some (root, owner) ∨
        ((self.controls root).owners owner).settled = true) :
    (self.setProcess id use after).Interlocked where
  held := by
    apply inter.held.step
    · intro other different
      simp [ProfileStore.setProcess, different]
    · simpa [ProfileStore.setProcess, here] using allowed
  controls := inter.controls
  launched root owner launch launched := by
    have known := inter.launched root owner launch launched
    refine ⟨known.rooted, known.described, fun unsettled => ?_, known.ready, known.attended⟩
    have host := known.starting unsettled
    by_cases same : launch.process = id
    · rw [same, here] at host
      cases settles root owner host with
      | inl starts => simpa [ProfileStore.setProcess, same] using starts
      | inr settled => exact absurd (settled.symm.trans unsettled) nofun
    · simpa [ProfileStore.setProcess, same] using host
  sound other := by
    by_cases same : other = id
    · simp only [ProfileStore.setProcess, same, Function.update_self]
      exact sound
    · simp only [ProfileStore.setProcess, Function.update_of_ne same]
      exact inter.sound other

/-- A step of anyone at a control root, in which no launched owner fails while a thread
of it runs. -/
theorem Interlocked.setControl {label : ControlLabel} {control : ControlRoot}
    (moved : (self.controls root).step label = some control)
    (attended : ∀ owner, label = .owner owner .fail → self.launches root owner ≠ none →
      ((self.controls root).owners owner).threads.Over) :
    (self.setControl root control).Interlocked where
  held := inter.held
  controls other := by
    by_cases same : other = root
    · simp only [ProfileStore.setControl, same, Function.update_self]
      exact (inter.controls root).step moved
    · simp only [ProfileStore.setControl, Function.update_of_ne same]
      exact inter.controls other
  launched other owner launch launched := by
    have here : self.launches other owner = some launch := launched
    have known := inter.launched other owner launch here
    by_cases same : other = root
    · subst same
      simp only [ProfileStore.setControl, Function.update_self]
      apply known.step moved
      intro fails
      exact attended owner fails (by rw [here]; exact nofun)
    · simp only [ProfileStore.setControl, Function.update_of_ne same]
      exact known
  sound id := by
    cases holds : (self.processes id).holds with
    | false => exact sound_of_not_holds holds
    | true =>
        cases starts : (self.processes id).starts with
        | some place =>
            change (self.setControl root control).Sound (self.processes id)
            cases phase : self.processes id with
            | hosting => exact trivial
            | _ =>
                rw [phase] at starts
                cases starts
        | none =>
            have vacant : ∀ other, self.VacantAt other →
                (self.setControl root control).VacantAt other := by
              intro other vacant
              by_cases same : other = root
              · subst same
                simp only [VacantAt, ProfileStore.setControl, Function.update_self]
                exact vacant_of_step moved
                  (fun _ _ => inter.settled_of_holds holds starts) vacant
              · simp only [VacantAt, ProfileStore.setControl, Function.update_of_ne same]
                exact vacant
            change (self.setControl root control).Sound (self.processes id)
            refine (inter.sound id).mono rfl vacant fun other discovery found => ?_
            by_cases same : other = root
            · subst same
              simp only [FoundVacant, ProfileStore.setControl, Function.update_self] at found
              obtain before | ⟨_, free⟩ :=
                ControlRoot.free_of_foundVacant (inter.controls other) moved found
              · exact .inl before
              · exact .inr (vacant other (vacant_of_free (inter.controls other) free))
            · simp only [FoundVacant, ProfileStore.setControl, Function.update_of_ne same] at found
              exact .inl found

omit inter in
theorem launches_setLaunch {root other : String} {owner id : ℕ} {launch found : Launch}
    (here : (self.setLaunch root owner launch).launches other id = some found) :
    other = root ∧ id = owner ∧ found = launch ∨ self.launches other id = some found := by
  by_cases same : other = root
  · subst same
    simp only [ProfileStore.setLaunch, Function.update_self] at here
    by_cases mine : id = owner
    · subst mine
      rw [Function.update_self] at here
      exact .inl ⟨rfl, rfl, (Option.some.inj here).symm⟩
    · rw [Function.update_of_ne mine] at here
      exact .inr here
  · simp only [ProfileStore.setLaunch, Function.update_of_ne same] at here
    exact .inr here

/-- An owner is launched, or reports that it is ready. -/
theorem Interlocked.setLaunch {launch : Launch}
    (known : Launched self.profiles root owner launch ((self.controls root).owners owner)
      (self.processes launch.process))
    (vacant : self.launches root owner ≠ none ∨ ((self.controls root).owners owner).holds = false) :
    (self.setLaunch root owner launch).Interlocked where
  held := inter.held
  controls := inter.controls
  launched other id found here := by
    obtain ⟨rfl, rfl, rfl⟩ | before := launches_setLaunch here
    · exact known
    · exact inter.launched other id found before
  sound id := by
    change (self.setLaunch root owner launch).Sound (self.processes id)
    refine (inter.sound id).mono rfl (fun other free => ?_) (fun _ _ found => .inl found)
    intro owner' found here
    obtain ⟨rfl, rfl, rfl⟩ | before := launches_setLaunch here
    · cases vacant with
      | inl launched =>
          obtain ⟨old, old_eq⟩ := Option.ne_none_iff_exists'.mp launched
          exact free _ old old_eq
      | inr holds => exact holds
    · exact free owner' found before

/-- The profile of a name is changed while no launched owner that reports it has a lock. -/
theorem Interlocked.setProfile {name : String} {file : ProfileFile} {id : ℕ}
    (here : self.processes id = .unlocking)
    (free : ∀ root owner launch, self.launches root owner = some launch → launch.name = name →
      ((self.controls root).owners owner).holds = false ∧
        ((self.controls root).owners owner).settled = true) :
    ({ self with profiles := Function.update self.profiles name file }).Interlocked where
  held := inter.held
  controls := inter.controls
  launched root owner launch launched := by
    have known := inter.launched root owner launch launched
    refine ⟨known.rooted, fun holding => ?_, known.starting, known.ready, known.attended⟩
    by_cases same : launch.name = name
    · obtain ⟨drops, settled⟩ := free root owner launch launched same
      cases holding with
      | inl holds => exact absurd (drops.symm.trans holds) nofun
      | inr unsettled => exact absurd (settled.symm.trans unsettled) nofun
    · obtain ⟨profile, stored, metadata⟩ := known.described holding
      exact ⟨profile, by simpa [same] using stored, metadata⟩
  sound other := by
    by_cases same : other = id
    · change Sound _ (self.processes other)
      rw [same, here]
      exact trivial
    · apply sound_of_not_holds
      by_contra holds
      have taken : (self.processes id).holds = true := by
        rw [here]
        rfl
      exact same (inter.held.unique (Bool.of_not_eq_false holds) taken)

/-- A changing call that is done with its control roots changes no profile that a live
launched owner reports. -/
theorem Interlocked.edited {id : ℕ} {edit : ProfileEdit}
    (here : self.processes id = .editing edit existing) :
    ({ self.setProcess id .keep .unlocking with
      profiles := Function.update self.profiles edit.name edit.file }).Interlocked := by
  have holds : (self.processes id).holds = true := by
    rw [here]
    rfl
  have starts : (self.processes id).starts = none := by
    rw [here]
    rfl
  have sound := inter.sound id
  rw [here] at sound
  obtain ⟨stored, vacant⟩ := sound
  have gone : (self.setProcess id .keep .unlocking).Interlocked :=
    inter.setProcess here Iff.rfl trivial nofun
  apply gone.setProfile (Function.update_self _ _ _)
  intro root owner launch launched named
  have known := inter.launched root owner launch launched
  refine ⟨?_, inter.settled_of_holds holds starts launched⟩
  by_contra live
  obtain ⟨profile, found, metadata⟩ :=
    known.described (.inl (Bool.of_not_eq_false live))
  -- the owner's profile is the one the call has read, and so is its control root
  have read : existing = some profile := by
    rw [named, stored] at found
    cases existing with
    | none => cases found
    | some other => exact congrArg some (ProfileFile.stored.inj found)
  have place : profile.roleRoot = root := by
    rw [← known.rooted, ← metadata]
    rfl
  have free := vacant profile (by rw [read]; rfl) owner launch (by rw [place]; exact launched)
  rw [place] at free
  exact live free

/-- `discover_owner_info` has begun, and has found nothing yet. -/
theorem Interlocked.discover {discovery : ℕ} (called : self.discover root discovery = some next) :
    next.Interlocked ∧ next.processes = self.processes ∧ next.profiles = self.profiles ∧
      (∀ other, self.VacantAt other → next.VacantAt other) ∧ ¬next.FoundVacant root discovery := by
  simp only [ProfileStore.discover, Option.ite_none_right_eq_some, Option.map_eq_some_iff]
    at called
  obtain ⟨absent, control, moved, rfl⟩ := called
  have stepped := inter.setControl moved nofun
  have begun : control = (self.controls root).setDiscovery discovery .look .started := by
    simpa [ControlRoot.step, absent, DiscoveryPhase.next] using moved.symm
  refine ⟨⟨stepped.held, stepped.controls, stepped.launched, stepped.sound⟩, rfl, rfl, ?_, ?_⟩
  · intro other vacant owner launch launched
    by_cases same : other = root
    · subst same
      have free := vacant owner launch launched
      simpa [ProfileStore.setControl, begun, ControlRoot.setDiscovery] using free
    · have free := vacant owner launch launched
      simpa [ProfileStore.setControl, same] using free
  · simp [FoundVacant, ProfileStore.setControl, begun, ControlRoot.setDiscovery,
      DiscoveryPhase.foundVacant]

/-- The owner thread is spawned by the process that has the operation lock and has read
the profile under it. -/
theorem Interlocked.launch {id owner : ℕ} {name : String}
    (here : self.processes id = .resolving name profile)
    (spawned : self.launch id name profile owner = some next) : next.Interlocked := by
  simp only [ProfileStore.launch, Option.ite_none_right_eq_some, Option.map_eq_some_iff]
    at spawned
  obtain ⟨⟨absent, fresh⟩, control, moved, rfl⟩ := spawned
  have sound := inter.sound id
  rw [here] at sound
  have begun : control = (self.controls profile.roleRoot).setOwner owner .look .starting := by
    simpa [ControlRoot.step, absent, OwnerPhase.next] using moved.symm
  have stepped := inter.setControl moved (by simp)
  have hosting : ((self.setControl profile.roleRoot control).setProcess id .keep
      (.hosting .awaitingReady profile.roleRoot owner)).Interlocked :=
    stepped.setProcess here Iff.rfl trivial fun _ _ starts => by cases starts
  have phase : ((self.setControl profile.roleRoot control).controls
      profile.roleRoot).owners owner = .starting := by
    simp [ProfileStore.setControl, begun, ControlRoot.setOwner]
  have known : Launched self.profiles profile.roleRoot owner
      ⟨id, name, profile.launchMetadata name, false⟩ .starting
      (.hosting .awaitingReady profile.roleRoot owner) :=
    ⟨rfl, fun _ => ⟨profile, sound, rfl⟩, fun _ => rfl, by simp, trivial⟩
  apply hosting.setLaunch
  · change Launched self.profiles _ _ _
      (((self.setControl profile.roleRoot control).controls profile.roleRoot).owners owner)
      (Function.update self.processes id _ id)
    rw [phase, Function.update_self]
    exact known
  · exact .inr (congrArg OwnerPhase.holds phase)

theorem Interlocked.endDiscovery (root : String) (discovery : ℕ) :
    (self.setControl root ((self.controls root).endDiscovery discovery)).Interlocked := by
  have moved : (self.controls root).step (.discovererDies discovery) =
      some ((self.controls root).endDiscovery discovery) := rfl
  exact inter.setControl moved nofun

theorem Interlocked.endOwner (root : String) (owner : ℕ) :
    (self.setControl root ((self.controls root).endOwner owner)).Interlocked := by
  have moved : (self.controls root).step (.ownerDies owner) =
      some ((self.controls root).endOwner owner) := rfl
  exact inter.setControl moved nofun

/-- A process dies whose owner, if it has one, is settled. -/
theorem Interlocked.ends {id : ℕ} {phase : StorePhase} (here : self.processes id = phase)
    (settles : ∀ root owner, phase.starts = some (root, owner) →
      ((self.controls root).owners owner).settled = true) :
    (self.setProcess id (if (self.processes id).holds then .drop else .keep)
      .died).Interlocked := by
  apply inter.setProcess here
  · rw [here]
    cases holds : phase.holds with
    | true => exact ⟨rfl, nofun⟩
    | false => exact ⟨nofun, nofun⟩
  · exact trivial
  · exact fun root owner starts => .inr (settles root owner starts)

/-- A process dies. If it is a host, its owner dies with it. -/
theorem Interlocked.dies (id : ℕ) : (self.dies id).Interlocked := by
  rw [ProfileStore.dies]
  split
  case h_1 here => exact (inter.endDiscovery _ _).ends here nofun
  case h_2 here => exact (inter.endDiscovery _ _).ends here nofun
  case h_3 stage root owner here =>
    apply (inter.endOwner root owner).ends here
    intro other id starts
    have same : (root, owner) = (other, id) := by
      rw [StorePhase.starts, Option.ite_none_right_eq_some] at starts
      exact Option.some.inj starts.2
    cases same
    simp [ProfileStore.setControl, ControlRoot.endOwner, ControlRoot.setOwner,
      OwnerPhase.settled]
  case h_4 elsewhere =>
    apply inter.ends rfl
    intro root owner starts
    cases phase : self.processes id with
    | hosting stage root owner => exact absurd phase (elsewhere stage root owner)
    | _ =>
        rw [phase] at starts
        cases starts

end

theorem holds_loaded (call : StoreCall) (file : ProfileFile) :
    (loaded call file).holds = true := by
  rw [loaded.eq_def]
  split <;> rfl

/-- What a call has read is what stands there. -/
theorem sound_loaded (call : StoreCall) : self.Sound (loaded call (self.profiles call.name)) := by
  cases file : self.profiles call.name with
  | missing =>
      cases call with
      | edit change =>
          cases change with
          | set name profile => exact ⟨file, nofun⟩
          | delete name => exact trivial
      | _ => exact trivial
  | unusable =>
      cases call with
      | edit change => cases change <;> exact trivial
      | _ => exact trivial
  | stored existing =>
      cases call with
      | edit change =>
          cases change with
          | set name profile =>
              refine ⟨file, fun other member => .inl ?_⟩
              rw [← Option.mem_some_iff.mp member]
              exact List.mem_cons_self
          | delete name =>
              refine ⟨file, fun other member => .inl ?_⟩
              rw [← Option.mem_some_iff.mp member]
              exact List.mem_cons_self
      | stop name => exact trivial
      | run name => exact file

/-- The control root of a profile is found without a launched owner. -/
theorem sound_refusing {edit : ProfileEdit} {left : List PhysicalProfile}
    (stored : self.profiles edit.name = fileOf existing)
    (known : ∀ other ∈ existing, other ∈ profile :: left ∨ self.VacantAt other.roleRoot)
    (vacant : self.VacantAt profile.roleRoot) : self.Sound (.refusing edit existing left) := by
  refine ⟨stored, fun other member => ?_⟩
  cases known other member with
  | inl listed =>
      cases listed with
      | head => exact .inr vacant
      | tail _ later => exact .inl later
  | inr free => exact .inr free

/-- The host of a settled owner has nothing to wait for. -/
theorem settles_hosting {stage : HostStage} {after : StorePhase}
    (settled : ((self.controls root).owners owner).settled = true) (other : String) (id : ℕ)
    (starts : (StorePhase.hosting stage root owner).starts = some (other, id)) :
    after.starts = some (other, id) ∨ ((self.controls other).owners id).settled = true := by
  have same : (root, owner) = (other, id) := by
    rw [StorePhase.starts, Option.ite_none_right_eq_some] at starts
    exact Option.some.inj starts.2
  cases same
  exact .inr settled

/-- The step of a process in its call. -/
theorem Interlocked.process (inter : self.Interlocked) {id : ℕ} {phase : StorePhase}
    {move : StoreMove} (here : self.processes id = phase)
    (moved : self.process id phase move = some next) : next.Interlocked := by
  have sound := inter.sound id
  rw [here] at sound
  revert moved
  fun_cases ProfileStore.process self id phase move
  all_goals intro moved
  all_goals try cases moved
  -- the operation lock is taken
  case case2.refl free | case5.refl free =>
    exact inter.setProcess here ⟨free, rfl⟩ trivial nofun
  case case8.refl call =>
    have holds := holds_loaded call (self.profiles call.name)
    exact inter.setProcess here ⟨fun _ => rfl, fun _ => holds⟩ (sound_loaded call) nofun
  -- a control root is missing, is asked, is found vacant, and all are
  case case10.refl edit existing profile left missing =>
    have free := (inter.controls profile.roleRoot).rooted missing
    have vacant : self.VacantAt profile.roleRoot :=
      vacant_of_free (inter.controls profile.roleRoot) free
    exact inter.setProcess here Iff.rfl (sound_refusing sound.1 sound.2 vacant) nofun
  case case13 edit existing profile left discovery there =>
    obtain ⟨called, discovered, rfl⟩ := Option.map_eq_some_iff.mp moved
    obtain ⟨begun, processes, profiles, vacant, unfound⟩ := inter.discover discovered
    refine begun.setProcess ((congrFun processes id).trans here) Iff.rfl ?_ nofun
    refine ⟨profiles ▸ sound.1, fun other member => ?_, fun found => absurd found unfound⟩
    exact (sound.2 other member).imp_right (vacant _)
  case case16.refl edit existing profile left discovery returned =>
    have vacant : self.VacantAt profile.roleRoot := by
      apply sound.2.2
      rw [FoundVacant, returned]
      rfl
    exact inter.setProcess here Iff.rfl (sound_refusing sound.1 sound.2.1 vacant) nofun
  case case14.refl edit existing =>
    refine inter.setProcess here Iff.rfl ?_ nofun
    refine ⟨sound.1, fun profile member => ?_⟩
    exact (sound.2 profile member).resolve_left List.not_mem_nil
  case case19.refl => exact inter.edited here
  -- `stop` asks the control root
  case case21 name profile discovery =>
    obtain ⟨called, discovered, rfl⟩ := Option.map_eq_some_iff.mp moved
    obtain ⟨begun, processes, _⟩ := inter.discover discovered
    exact begun.setProcess ((congrFun processes id).trans here) Iff.rfl trivial nofun
  -- a host launches its owner, and waits until it is ready or gone
  case case32 => exact inter.launch here moved
  case case34.refl root owner ready =>
    obtain ⟨launch, launched, isReady⟩ := Option.map_eq_some_iff.mp ready
    have settled := (inter.launched root owner launch launched).ready isReady
    exact inter.setProcess here Iff.rfl trivial (settles_hosting settled)
  case case36.refl root owner =>
    exact inter.setProcess here Iff.rfl trivial (fun _ _ starts => .inl starts)
  case case37.refl root owner ended =>
    have settled : ((self.controls root).owners owner).settled = true :=
      OwnerPhase.settled_of_isOver ended
    exact inter.setProcess here Iff.rfl trivial (settles_hosting settled)
  all_goals first
    | exact inter.setProcess here Iff.rfl trivial nofun
    | exact inter.setProcess here ⟨rfl, nofun⟩ trivial nofun

/-- The owner that reports that it is ready is past taking its lock. -/
theorem interlocked_noteReady {label : ControlLabel} {control : ControlRoot}
    (moved : (self.controls root).step label = some control)
    (stepped : (self.setControl root control).Interlocked) :
    ((self.noteReady root label).setControl root control).Interlocked := by
  rw [ProfileStore.noteReady.eq_def]
  split
  · rename_i owner
    split
    · rename_i launch announcing launched
      have known := stepped.launched root owner launch launched
      have serving : (((self.setControl root control).controls root).owners owner).settled =
          true := by
        simp only [ControlRoot.step, announcing, OwnerPhase.next, Option.map_some,
          Option.some.injEq] at moved
        simp [ProfileStore.setControl, ← moved, ControlRoot.setOwner, OwnerPhase.settled]
      have ready : Launched self.profiles root owner { launch with ready := true }
          (((self.setControl root control).controls root).owners owner)
          (self.processes launch.process) :=
        ⟨known.rooted, known.described, known.starting, fun _ => serving, known.attended⟩
      have present : self.launches root owner ≠ none := by
        rw [launched]
        exact Option.some_ne_none launch
      exact stepped.setLaunch ready (.inl present)
    · exact stepped
  · exact stepped

/-- No call of a launched owner fails while a thread of the owner runs. -/
def Attended (self : ProfileStore) : StoreLabel → Prop
  | .control root (.owner owner .fail) =>
      self.launches root owner ≠ none → ((self.controls root).owners owner).threads.Over
  | _ => True

/-- **One step.** -/
theorem Interlocked.step (inter : self.Interlocked) {label : StoreLabel}
    (attended : self.Attended label) (moved : self.step label = some next) :
    next.Interlocked := by
  cases label with
  | process id move => exact inter.process rfl moved
  | dies id =>
      simp only [ProfileStore.step, Option.some.injEq] at moved
      subst moved
      exact inter.dies id
  | control root label =>
      simp only [ProfileStore.step, ProfileStore.control, Option.ite_none_right_eq_some,
        Option.map_eq_some_iff] at moved
      obtain ⟨_, control, turn, rfl⟩ := moved
      apply interlocked_noteReady turn
      apply inter.setControl turn
      rintro owner rfl
      exact attended

/-! ## The profile of a serving owner -/

/-- Every launched owner that serves reports the metadata of the profile that is stored
under the name it was launched for. -/
def Matched (self : ProfileStore) : Prop :=
  ∀ root owner launch, self.launches root owner = some launch →
    (self.controls root).Serves owner →
      ∃ profile, self.profiles launch.name = .stored profile ∧
        profile.launchMetadata launch.name = launch.metadata

theorem Interlocked.matched (inter : self.Interlocked) : self.Matched := by
  intro root owner launch launched serves
  have known := inter.launched root owner launch launched
  apply known.described
  left
  obtain ⟨threads, stop, serving⟩ | running := serves
  · rw [serving]
    rfl
  · have attended := known.attended
    cases phase : (self.controls root).owners owner with
    | serving threads stop => rfl
    | joining threads => rfl
    | leaving threads => rfl
    | returned threads =>
        rw [phase] at running attended
        exact absurd attended running
    | _ =>
        rw [phase] at running
        exact absurd ⟨rfl, rfl⟩ running

/-- **Profiles and their owners.** In a run in which no call of a launched owner fails
while a thread of it runs, every launched owner that serves reports, at every moment,
the metadata of the profile that is stored under its name. -/
theorem interlocked_throughout {past : List (ProfileStore × StoreLabel)}
    (run : machine.Run past self) (attended : StepSystem.Guarded Attended past) :
    StepSystem.Throughout Matched past self := by
  apply run.throughout_of_guarded (I := Interlocked) _ _ _ attended
  · intro start untouched
    exact Untouched.interlocked untouched
  · intro before label after inter allowed moved
    exact inter.step allowed moved
  · intro store inter
    exact inter.matched

/-! ## A connection that is left behind -/

def phoneOn (address : String) : PhysicalProfile where
  schemaVersion := 1
  roleRoot := "phone"
  bind := ⟨.loopback, address⟩
  availability := .available
  recording := .on

/-- A store with one profile and no control root. -/
def phoneStore : ProfileStore where
  controls := fun _ => ControlRoot.bare
  profiles := Function.update (fun _ => .missing) "phone" (.stored (phoneOn "127.0.0.1:7000"))
  operation := none
  processes := fun _ => .absent
  launches := fun _ _ => none
  awaited := fun _ _ => false

def atPhone (labels : List ControlLabel) : List StoreLabel := labels.map (.control "phone")

def byProcess (id : ℕ) (moves : List StoreMove) : List StoreLabel := moves.map (.process id)

/-- The profile is run, and its owner serves one connection. -/
def phoneServes : List StoreLabel :=
  byProcess 0 [.call (.run "phone"), .proceed, .proceed, .launch 0] ++
    atPhone [.owner 0 .proceed, .owner 0 (.create true), .owner 0 .proceed, .owner 0 .proceed,
      .owner 0 .proceed, .owner 0 .proceed, .owner 0 (.create false), .owner 0 .proceed,
      .owner 0 .proceed] ++
    byProcess 0 [.proceed, .proceed] ++ atPhone [.owner 0 .accept]

/-- Another process sets the profile, and is told of the owner. -/
def phoneRefused : List StoreLabel :=
  byProcess 1 [.call (.edit (.set "phone" (phoneOn "127.0.0.1:7001"))), .proceed, .proceed,
      .discover 0] ++
    atPhone [.discoverer 0 .proceed, .discoverer 0 .proceed, .discoverer 0 .proceed,
      .discoverer 0 .proceed, .discoverer 0 .proceed, .discoverer 0 .proceed,
      .discoverer 0 .proceed] ++
    byProcess 1 [.proceed]

/-- The owner's `accept` fails, and it gives its lock away while the connection is
served. Then the set finds nobody. -/
def phoneChanged : List StoreLabel :=
  atPhone [.owner 0 .fail, .owner 0 .proceed] ++
    byProcess 1 [.call (.edit (.set "phone" (phoneOn "127.0.0.1:7001"))), .proceed, .proceed,
      .discover 0] ++
    atPhone [.discoverer 0 .proceed, .discoverer 0 .proceed, .discoverer 0 .proceed,
      .discoverer 0 .proceed, .discoverer 0 .fail, .discoverer 0 .proceed,
      .discoverer 0 .proceed, .discoverer 0 .proceed] ++
    byProcess 1 [.proceed, .discover 1] ++
    atPhone [.discoverer 1 .proceed, .discoverer 1 .proceed, .discoverer 1 .proceed,
      .discoverer 1 .proceed] ++
    byProcess 1 [.proceed, .proceed, .proceed]

theorem phoneStore_untouched : phoneStore.Untouched where
  free := rfl
  controls _ := ⟨rfl, nofun, fun _ => rfl, fun _ => rfl, fun _ => rfl⟩
  processes _ := rfl
  launches _ _ := rfl

/-- A serving owner's profile is not changed. -/
theorem served_profile_kept :
    ∃ past store, machine.Run past store ∧ (store.controls "phone").Serves 0 ∧
      store.processes 1 = .unlocking ∧ StepSystem.Throughout Matched past store := by
  have replayed : (machine.execute phoneStore (phoneServes ++ phoneRefused)).map
      (fun store => ((store.controls "phone").owners 0, store.processes 1)) =
        some (.serving ⟨1, 0, 0⟩ false, .unlocking) := by
    decide +kernel
  have along : machine.Along Attended phoneStore (phoneServes ++ phoneRefused) := by
    apply StepSystem.along_of_forall
    simp [phoneServes, phoneRefused, atPhone, byProcess, Attended]
  obtain ⟨past, store, run, attended, last⟩ :=
    StepSystem.exists_guarded_of_map along replayed phoneStore_untouched
  have serving : (store.controls "phone").owners 0 = .serving ⟨1, 0, 0⟩ false :=
    congrArg Prod.fst last
  exact ⟨past, store, run, .inl ⟨_, _, serving⟩, congrArg Prod.snd last,
    interlocked_throughout run attended⟩

theorem abandoned_connection_mismatch :
    ∃ past store, machine.Run past store ∧ ¬store.Matched := by
  have replayed : (machine.execute phoneStore (phoneServes ++ phoneChanged)).map
      (fun store => ((store.controls "phone").owners 0, store.launches "phone" 0,
        store.profiles "phone")) =
        some (.returned ⟨1, 0, 0⟩,
          some ⟨0, "phone", (phoneOn "127.0.0.1:7000").launchMetadata "phone", true⟩,
          .stored (phoneOn "127.0.0.1:7001")) := by
    decide +kernel
  obtain ⟨past, store, run, last⟩ := StepSystem.exists_run_of_map replayed phoneStore_untouched
  refine ⟨past, store, run, fun matched => ?_⟩
  have left : (store.controls "phone").owners 0 = .returned ⟨1, 0, 0⟩ := congrArg Prod.fst last
  have launched := congrArg (fun entry => entry.2.1) last
  have stored := congrArg (fun entry => entry.2.2) last
  have serves : (store.controls "phone").Serves 0 := by
    right
    rw [left]
    exact fun ended => nomatch ended.1
  obtain ⟨profile, found, metadata⟩ := matched _ _ _ launched serves
  have same : profile = phoneOn "127.0.0.1:7001" :=
    ProfileFile.stored.inj (found.symm.trans stored)
  rw [same] at metadata
  exact absurd metadata (by decide)

end ProfileStore

end Deskkin.OwnerControl
