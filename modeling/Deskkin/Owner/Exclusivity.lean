/-
# One owner at a time

Whoever touches the entry of the socket holds the lock, and an owner holds the
lock from before it looks for the socket until its listener is closed. So the file
of an owner that listens is its own and stays in its place. A discoverer that
reports no owner has itself found the lock free, or no control root to hold a lock
in. An owner that dies leaves at most its file behind. One whose `accept` fails also
leaves its threads behind, which go on without the lock, beside the next owner.
-/

import Deskkin.Owner.ControlRoot

namespace Deskkin.OwnerControl

open ExclusiveLock

/-! ## Effects on the files -/

namespace FileEffect

variable {effect : FileEffect} {holder : LockHolder} {files : ControlFiles}

@[simp]
theorem lock_apply : (effect.apply holder files).lock = effect.lockUse.apply holder files.lock := by
  cases effect with
  | createRoot isPrivate =>
      rw [apply]
      split <;> rfl
  | _ => rfl

/-- The control root is not removed. -/
theorem root_of_apply (missing : (effect.apply holder files).root = .missing) :
    files.root = .missing := by
  cases effect with
  | createRoot isPrivate =>
      rw [apply] at missing
      split at missing
      · assumption
      · exact missing
  | protectRoot => cases missing
  | _ => exact missing

theorem socket_apply (elsewhere : effect.onSocket = false) :
    (effect.apply holder files).socket = files.socket := by
  cases effect with
  | createRoot isPrivate =>
      rw [apply]
      split <;> rfl
  | unlink => cases elsewhere
  | bind owner isPrivate => cases elsewhere
  | protectSocket => cases elsewhere
  | _ => rfl

/-- What every step of every party keeps to: the lock is taken where there is a
control root, and the entry of the socket is touched under the lock only. -/
structure Disciplined (files : ControlFiles) (effect : FileEffect) (before after : Bool) :
    Prop where
  lock : effect.lockUse.Allowed files.lock (before = true) (after = true)
  rooted : effect = .lock → files.root ≠ .missing
  socket : effect.onSocket = true → before = true

namespace Disciplined

variable {before after : Bool}

/-- A step that leaves the lock alone. -/
theorem keep (quiet : effect.lockUse = .keep) (same : after = before)
    (locked : effect.onSocket = true → before = true) :
    Disciplined files effect before after where
  lock := by
    rw [quiet, same]
    exact Iff.rfl
  rooted := by
    intro takes
    rw [takes] at quiet
    cases quiet
  socket := locked

theorem look (same : after = before) : Disciplined files .look before after :=
  keep rfl same nofun

theorem take (free : files.lock = none) (rooted : files.root ≠ .missing) :
    Disciplined files .lock before true where
  lock := ⟨free, rfl⟩
  rooted _ := rooted
  socket := nofun

theorem drop : Disciplined files .unlock true false where
  lock := ⟨rfl, nofun⟩
  rooted := nofun
  socket := nofun

end Disciplined

end FileEffect

open FileEffect (Disciplined)

/-! ## The threads an owner leaves behind -/

namespace OwnerThreads

variable {threads : OwnerThreads}

theorem answer_of_over (ended : threads.Over) {worker : Bool} (rest : OwnerThreads) :
    threads.answer worker ≠ some rest := by
  simp [answer, ended.1]

theorem complete_of_over (ended : threads.Over) (rest : OwnerThreads) :
    threads.complete ≠ some rest := by
  simp [complete, ended.2]

end OwnerThreads

namespace OwnerPhase

/-- An owner that is about to give the lock away, or has done so, leaves no thread
behind. -/
def LeftNobody : OwnerPhase → Prop
  | leaving threads | returned threads => threads.Over
  | _ => True

variable {files : ControlFiles} {id : ℕ} {phase after : OwnerPhase} {move : OwnerMove}
  {effect : FileEffect}

theorem leftNobody_of_next (moved : phase.next files id move = some (effect, after))
    (before : phase.LeftNobody) (attended : move = .fail → phase.threads.Over) :
    after.LeftNobody := by
  revert moved
  fun_cases next files id phase move
  all_goals
    intro moved
    simp only [Option.some.injEq, Prod.mk.injEq, reduceCtorEq, Option.map_eq_some_iff] at moved
  all_goals try obtain ⟨rfl, rfl⟩ := moved
  all_goals try
    obtain ⟨threads, answered, rfl, rfl⟩ := moved
  -- the threads that are left behind are none, and none are added to them
  case case45 | case46 => exact absurd answered (OwnerThreads.answer_of_over before _)
  case case49 | case50 => exact absurd answered (OwnerThreads.complete_of_over before _)
  all_goals first
    | exact trivial
    | exact ⟨rfl, rfl⟩
    | exact before
    | exact attended rfl
    | (split <;> first | exact trivial | exact ⟨rfl, rfl⟩)

/-- An owner that leaves nobody behind serves on an open listener only. -/
theorem listens_of_serves {phase : OwnerPhase} (left : phase.LeftNobody) (serves : phase.Serves) :
    phase.listens = true := by
  obtain ⟨threads, stop, rfl⟩ | running := serves
  · rfl
  · cases phase with
    | serving threads stop => rfl
    | joining threads => rfl
    | leaving threads => exact absurd left running
    | returned threads => exact absurd left running
    | _ => exact absurd ⟨rfl, rfl⟩ running

end OwnerPhase

/-! ## What a step of each party does -/

section

variable {files : ControlFiles}

theorem OwnerPhase.disciplined {id : ℕ} {phase after : OwnerPhase} {move : OwnerMove}
    {effect : FileEffect} (moved : phase.next files id move = some (effect, after)) :
    Disciplined files effect phase.holds after.holds := by
  revert moved
  fun_cases OwnerPhase.next files id phase move
  all_goals
    intro moved
    simp only [Option.some.injEq, Prod.mk.injEq, reduceCtorEq, Option.map_eq_some_iff] at moved
  -- the looks, those of the threads last, then the steps that change something
  all_goals try obtain ⟨rfl, rfl⟩ := moved
  all_goals try exact .look rfl
  all_goals try exact .look (by split <;> rfl)
  all_goals try
    obtain ⟨threads, answered, rfl, rfl⟩ := moved
    exact .look rfl
  case case10 free => exact .take free.2 free.1
  case case42 => exact .drop
  all_goals exact .keep rfl rfl (fun _ => by first | rfl | contradiction)

/-- A listener is open from the step that binds it, and as long as it is open its
owner does not take the file away. -/
theorem OwnerPhase.listens_of_next {id : ℕ} {phase after : OwnerPhase} {move : OwnerMove}
    {effect : FileEffect} (moved : phase.next files id move = some (effect, after))
    (listens : after.listens = true) :
    (∃ isPrivate, effect = .bind id isPrivate) ∨
      phase.listens = true ∧ (effect = .look ∨ effect = .protectSocket) := by
  revert moved
  fun_cases OwnerPhase.next files id phase move
  all_goals
    intro moved
    simp only [Option.some.injEq, Prod.mk.injEq, reduceCtorEq, Option.map_eq_some_iff] at moved
  all_goals try obtain ⟨rfl, rfl⟩ := moved
  case case21 isPrivate _ => exact .inl ⟨isPrivate, rfl⟩
  case case24 => exact .inr ⟨rfl, .inr rfl⟩
  all_goals try
    obtain ⟨threads, answered, rfl, rfl⟩ := moved
  all_goals first
    | exact .inr ⟨rfl, .inl rfl⟩
    | cases listens
    | (split at listens <;> cases listens)

/-- What a probe can find. -/
theorem DiscoveryPhase.tryAcquireOwnerLock_cases {taken busy after : DiscoveryPhase}
    {effect : FileEffect} (probed : tryAcquireOwnerLock files taken busy = (effect, after)) :
    effect = .lock ∧ after = taken ∧ files.lock = none ∧ files.root = .controlled ∨
      effect = .look ∧ (after = busy ∨ after = returned .failed) := by
  rw [tryAcquireOwnerLock] at probed
  split at probed
  · cases probed
    exact .inr ⟨rfl, .inr rfl⟩
  · rename_i controlled
    split at probed
    · rename_i free
      cases probed
      exact .inl ⟨rfl, rfl, free, not_not.mp controlled⟩
    · cases probed
      exact .inr ⟨rfl, .inl rfl⟩

theorem DiscoveryPhase.disciplined_tryAcquireOwnerLock {before taken busy after : DiscoveryPhase}
    {effect : FileEffect} (probed : tryAcquireOwnerLock files taken busy = (effect, after))
    (free : before.holds = false) (holds : taken.holds = true) (waits : busy.holds = false) :
    Disciplined files effect before.holds after.holds := by
  rw [free]
  obtain ⟨rfl, rfl, unlocked, controlled⟩ | ⟨rfl, rfl | rfl⟩ := tryAcquireOwnerLock_cases probed
  · rw [holds]
    exact .take unlocked (by rw [controlled]; exact nofun)
  · exact .look waits
  · exact .look rfl

variable {owners : ℕ → OwnerPhase}

theorem DiscoveryPhase.disciplined {phase after : DiscoveryPhase} {move : DiscoveryMove}
    {effect : FileEffect} (moved : phase.next files owners move = some (effect, after)) :
    Disciplined files effect phase.holds after.holds := by
  revert moved
  fun_cases DiscoveryPhase.next files owners phase move
  all_goals
    intro moved
    simp only [Option.some.injEq, reduceCtorEq] at moved
  -- the four probes, then the looks, the removals and the ends of a hold
  case case8 | case16 | case34 | case38 =>
    exact disciplined_tryAcquireOwnerLock moved rfl rfl rfl
  all_goals obtain ⟨rfl, rfl⟩ := Prod.mk.inj moved
  all_goals first
    | exact .look rfl
    | exact .look (by split <;> rfl)
    | exact .drop
    | exact .keep rfl rfl (fun _ => rfl)

/-- The discoverer has found the lock free, or no control root, and is about to say
so. -/
def DiscoveryPhase.foundVacant : DiscoveryPhase → Bool
  | removingForeign | removingStale | leaving .vacant | returned .vacant => true
  | _ => false

/-- Nobody held the lock when a discoverer has found so. -/
theorem DiscoveryPhase.free_of_foundVacant {phase after : DiscoveryPhase} {move : DiscoveryMove}
    {effect : FileEffect} (moved : phase.next files owners move = some (effect, after))
    (found : after.foundVacant = true) :
    phase.foundVacant = true ∨
      phase.UnderWay ∧ (files.lock = none ∨ files.root = .missing) := by
  revert moved
  fun_cases DiscoveryPhase.next files owners phase move
  all_goals
    intro moved
    simp only [Option.some.injEq, reduceCtorEq] at moved
  case case8 | case16 | case34 | case38 =>
    obtain ⟨rfl, rfl, free, _⟩ | ⟨rfl, rfl | rfl⟩ := tryAcquireOwnerLock_cases moved
    · exact .inr ⟨⟨nofun, nofun, nofun⟩, .inl free⟩
    · cases found
    · cases found
  all_goals obtain ⟨rfl, rfl⟩ := Prod.mk.inj moved
  case case2 missing => exact .inr ⟨⟨nofun, nofun, nofun⟩, .inr missing⟩
  case case43 result =>
    cases result with
    | vacant => exact .inl rfl
    | _ => cases found
  all_goals first
    | exact .inl rfl
    | exact .inl found
    | cases found
    | (split at found <;> cases found)

end

/-! ## What a step does -/

namespace ControlRoot

def holds (self : ControlRoot) : LockHolder → Bool
  | .owner id => (self.owners id).holds
  | .discoverer id => (self.discoveries id).holds
  | .keeper id => self.keepers id

/-- The file at the path of the socket is the one that this owner bound. -/
def SocketOf (self : ControlRoot) (id : ℕ) : Prop :=
  ∃ isPrivate, self.files.socket = some (.socket (some id) isPrivate)

end ControlRoot

def ControlLabel.party : ControlLabel → LockHolder
  | owner id _ | ownerDies id => .owner id
  | discoverer id _ | discovererDies id => .discoverer id
  | keeperTakes id | keeperDrops id => .keeper id

namespace ControlRoot

/-- What a step of a party can do: it has one disciplined effect on the files, and
the other parties stay where they are. -/
structure Stepped (control : ControlRoot) (party : LockHolder) (effect : FileEffect)
    (next : ControlRoot) : Prop where
  files : next.files = effect.apply party control.files
  disciplined : Disciplined control.files effect (control.holds party) (next.holds party)
  others : ∀ other, other ≠ party → next.holds other = control.holds other
  owners : ∀ id, party ≠ .owner id → next.owners id = control.owners id
  listens : ∀ id, party = .owner id → (next.owners id).listens = true →
    (∃ isPrivate, effect = .bind id isPrivate) ∨
      (control.owners id).listens = true ∧ (effect = .look ∨ effect = .protectSocket)

variable {self next : ControlRoot}

theorem stepped_setOwner {id : ℕ} {effect : FileEffect} {phase : OwnerPhase}
    (disciplined : Disciplined self.files effect (self.owners id).holds phase.holds)
    (listens : phase.listens = true → (∃ isPrivate, effect = .bind id isPrivate) ∨
      (self.owners id).listens = true ∧ (effect = .look ∨ effect = .protectSocket)) :
    Stepped self (.owner id) effect (self.setOwner id effect phase) where
  files := rfl
  disciplined := by
    have here : (self.setOwner id effect phase).holds (.owner id) = phase.holds := by
      simp [holds, setOwner]
    rw [here]
    exact disciplined
  others other different := by
    cases other with
    | owner other =>
        have apart : other ≠ id := fun same => different (congrArg LockHolder.owner same)
        simp [holds, setOwner, apart]
    | discoverer other => rfl
    | keeper other => rfl
  owners other different := by
    have apart : other ≠ id := fun same => different (congrArg LockHolder.owner same.symm)
    simp [setOwner, apart]
  listens other same opened := by
    cases same
    simp only [setOwner, Function.update_self] at opened
    exact listens opened

theorem stepped_setDiscovery {id : ℕ} {effect : FileEffect} {phase : DiscoveryPhase}
    (disciplined : Disciplined self.files effect (self.discoveries id).holds phase.holds) :
    Stepped self (.discoverer id) effect (self.setDiscovery id effect phase) where
  files := rfl
  disciplined := by
    have here : (self.setDiscovery id effect phase).holds (.discoverer id) = phase.holds := by
      simp [holds, setDiscovery]
    rw [here]
    exact disciplined
  others other different := by
    cases other with
    | owner other => rfl
    | discoverer other =>
        have apart : other ≠ id := fun same => different (congrArg LockHolder.discoverer same)
        simp [holds, setDiscovery, apart]
    | keeper other => rfl
  owners _ _ := rfl
  listens := nofun

theorem stepped_setKeeper {id : ℕ} {effect : FileEffect} {taken : Bool}
    (disciplined : Disciplined self.files effect (self.keepers id) taken) :
    Stepped self (.keeper id) effect (self.setKeeper id effect taken) where
  files := rfl
  disciplined := by
    have here : (self.setKeeper id effect taken).holds (.keeper id) = taken := by
      simp [holds, setKeeper]
    rw [here]
    exact disciplined
  others other different := by
    cases other with
    | owner other => rfl
    | discoverer other => rfl
    | keeper other =>
        have apart : other ≠ id := fun same => different (congrArg LockHolder.keeper same)
        simp [holds, setKeeper, apart]
  owners _ _ := rfl
  listens := nofun

/-- A process that dies drops the lock if it holds it. -/
theorem disciplined_death {files : ControlFiles} (before : Bool) :
    Disciplined files (if before then .unlock else .look) before false := by
  cases before with
  | true => exact .drop
  | false => exact .look rfl

variable {label : ControlLabel}

/-- **One step of anyone.** -/
theorem stepped_of_step (moved : self.step label = some next) :
    ∃ effect, Stepped self label.party effect next := by
  cases label with
  | owner id move =>
      simp only [step, Option.map_eq_some_iff] at moved
      obtain ⟨⟨effect, phase⟩, turn, rfl⟩ := moved
      exact ⟨effect, stepped_setOwner (OwnerPhase.disciplined turn)
        (OwnerPhase.listens_of_next turn)⟩
  | discoverer id move =>
      simp only [step, Option.map_eq_some_iff] at moved
      obtain ⟨⟨effect, phase⟩, turn, rfl⟩ := moved
      exact ⟨effect, stepped_setDiscovery (DiscoveryPhase.disciplined turn)⟩
  | keeperTakes id =>
      simp only [step, Option.ite_none_right_eq_some, Option.some.injEq] at moved
      obtain ⟨⟨controlled, free⟩, rfl⟩ := moved
      exact ⟨_, stepped_setKeeper (.take free (by rw [controlled]; exact nofun))⟩
  | keeperDrops id =>
      simp only [step, Option.ite_none_right_eq_some, Option.some.injEq] at moved
      obtain ⟨kept, rfl⟩ := moved
      exact ⟨_, stepped_setKeeper (by rw [kept]; exact .drop)⟩
  | ownerDies id =>
      simp only [step, Option.some.injEq] at moved
      subst moved
      exact ⟨_, stepped_setOwner (disciplined_death _) nofun⟩
  | discovererDies id =>
      simp only [step, Option.some.injEq] at moved
      subst moved
      exact ⟨_, stepped_setDiscovery (disciplined_death _)⟩

/-! ## What holds at every moment -/

/-- The lock is held by the party that takes itself for its holder, there is no lock
without a control root, and an owner that listens does so on its own file. -/
structure Consistent (control : ControlRoot) : Prop where
  held : HeldBy control.files.lock fun party => control.holds party = true
  rooted : control.files.root = .missing → control.files.lock = none
  bound : ∀ id, (control.owners id).listens = true → control.SocketOf id

theorem Untouched.consistent (untouched : self.Untouched) : self.Consistent where
  held := by
    apply HeldBy.of_free untouched.free
    intro party
    cases party with
    | owner id => simp [holds, untouched.owners, OwnerPhase.holds]
    | discoverer id => simp [holds, untouched.discoveries, DiscoveryPhase.holds]
    | keeper id => simp [holds, untouched.keepers]
  rooted _ := untouched.free
  bound id listens := by
    rw [untouched.owners] at listens
    cases listens

/-- An owner that listens holds the lock. -/
theorem holds_of_listens {phase : OwnerPhase} (listens : phase.listens = true) :
    phase.holds = true := by
  cases phase <;> first | rfl | cases listens

namespace Consistent

variable {party : LockHolder} {effect : FileEffect}

/-- Nobody but the holder of the lock changes the entry of the socket. -/
theorem socket_untouched (consistent : self.Consistent) (stepped : self.Stepped party effect next)
    {holder : LockHolder} (holds : self.holds holder = true) (other : party ≠ holder) :
    next.files.socket = self.files.socket := by
  rw [stepped.files]
  apply FileEffect.socket_apply
  by_contra touched
  have taken := stepped.disciplined.socket (Bool.of_not_eq_false touched)
  exact other (consistent.held.unique taken holds)

theorem stepped (consistent : self.Consistent) (stepped : self.Stepped party effect next) :
    next.Consistent where
  held := by
    rw [stepped.files, FileEffect.lock_apply]
    apply consistent.held.step _ stepped.disciplined.lock
    intro other different
    rw [stepped.others other different]
  rooted missing := by
    rw [stepped.files] at missing
    have before := FileEffect.root_of_apply missing
    have free := consistent.rooted before
    rw [stepped.files, FileEffect.lock_apply, free]
    cases used : effect.lockUse with
    | take =>
        have takes : effect = .lock := by
          cases effect <;> first | rfl | cases used
        exact absurd before (stepped.disciplined.rooted takes)
    | _ => rfl
  bound id listens := by
    by_cases mine : party = .owner id
    · obtain ⟨isPrivate, rfl⟩ | ⟨before, rfl | rfl⟩ := stepped.listens id mine listens
      · exact ⟨isPrivate, by rw [stepped.files]; rfl⟩
      · obtain ⟨isPrivate, here⟩ := consistent.bound id before
        exact ⟨isPrivate, by rw [stepped.files]; exact here⟩
      · obtain ⟨isPrivate, here⟩ := consistent.bound id before
        refine ⟨true, ?_⟩
        rw [stepped.files]
        simp [FileEffect.apply, here, SocketEntry.protect]
    · rw [stepped.owners id mine] at listens
      obtain ⟨isPrivate, here⟩ := consistent.bound id listens
      have holds : self.holds (.owner id) = true := holds_of_listens listens
      exact ⟨isPrivate, (consistent.socket_untouched stepped holds mine).trans here⟩

theorem step (consistent : self.Consistent) {label : ControlLabel}
    (moved : self.step label = some next) : next.Consistent := by
  obtain ⟨effect, stepped⟩ := stepped_of_step moved
  exact consistent.stepped stepped

end Consistent

theorem consistent_of_reachable (reachable : machine.Reachable self) : self.Consistent := by
  apply reachable.invariant
  · intro start untouched
    exact Untouched.consistent untouched
  · intro before label after consistent moved
    exact consistent.step moved

/-- A discoverer begins to report no owner at a moment at which nobody held the lock. -/
theorem free_of_foundVacant (consistent : self.Consistent) (moved : self.step label = some next)
    {id : ℕ} (found : (next.discoveries id).foundVacant = true) :
    (self.discoveries id).foundVacant = true ∨
      (self.discoveries id).UnderWay ∧ self.files.lock = none := by
  have unmoved (same : next.discoveries id = self.discoveries id) :
      (self.discoveries id).foundVacant = true := same ▸ found
  cases label with
  | discoverer other move =>
      simp only [ControlRoot.step, Option.map_eq_some_iff] at moved
      obtain ⟨⟨effect, phase⟩, turn, rfl⟩ := moved
      by_cases same : id = other
      · subst same
        simp only [setDiscovery, Function.update_self] at found
        obtain before | ⟨underWay, free | missing⟩ := DiscoveryPhase.free_of_foundVacant turn found
        · exact .inl before
        · exact .inr ⟨underWay, free⟩
        · exact .inr ⟨underWay, consistent.rooted missing⟩
      · exact .inl (unmoved (Function.update_of_ne same _ _))
  | discovererDies other =>
      simp only [ControlRoot.step, Option.some.injEq] at moved
      subst moved
      by_cases same : id = other
      · subst same
        simp [endDiscovery, setDiscovery, DiscoveryPhase.foundVacant] at found
      · exact .inl (unmoved (Function.update_of_ne same _ _))
  | owner other move =>
      simp only [ControlRoot.step, Option.map_eq_some_iff] at moved
      obtain ⟨turn, _, rfl⟩ := moved
      exact .inl (unmoved rfl)
  | keeperTakes other =>
      simp only [ControlRoot.step, Option.ite_none_right_eq_some, Option.some.injEq] at moved
      obtain ⟨_, rfl⟩ := moved
      exact .inl (unmoved rfl)
  | keeperDrops other =>
      simp only [ControlRoot.step, Option.ite_none_right_eq_some, Option.some.injEq] at moved
      obtain ⟨_, rfl⟩ := moved
      exact .inl (unmoved rfl)
  | ownerDies other =>
      simp only [ControlRoot.step, Option.some.injEq] at moved
      subst moved
      exact .inl (unmoved rfl)

/-- What a step of anyone does to one owner. -/
theorem owners_of_step (moved : self.step label = some next) (id : ℕ) :
    next.owners id = self.owners id ∨ next.owners id = .died ∨
      ∃ move effect, label = .owner id move ∧
        (self.owners id).next self.files id move = some (effect, next.owners id) := by
  by_cases mine : label.party = .owner id
  · right
    cases label with
    | owner other move =>
        cases mine
        simp only [step, Option.map_eq_some_iff] at moved
        obtain ⟨⟨effect, phase⟩, turn, rfl⟩ := moved
        refine .inr ⟨move, effect, rfl, ?_⟩
        simp only [setOwner, Function.update_self]
        exact turn
    | ownerDies other =>
        cases mine
        simp only [step, Option.some.injEq] at moved
        subst moved
        exact .inl (Function.update_self _ _ _)
    | _ => cases mine
  · obtain ⟨effect, stepped⟩ := stepped_of_step moved
    exact .inl (stepped.owners id mine)

def Serves (self : ControlRoot) (id : ℕ) : Prop := (self.owners id).Serves

/-- No call of an owner's control fails while a thread of the owner runs. -/
def Attended (self : ControlRoot) : ControlLabel → Prop
  | .owner id .fail => (self.owners id).threads.Over
  | _ => True

theorem leftNobody_of_step (moved : self.step label = some next)
    (left : ∀ id, (self.owners id).LeftNobody) (attended : self.Attended label) (id : ℕ) :
    (next.owners id).LeftNobody := by
  obtain same | died | ⟨move, effect, rfl, turn⟩ := owners_of_step moved id
  · rw [same]
    exact left id
  · rw [died]
    exact trivial
  · apply OwnerPhase.leftNobody_of_next turn (left id)
    rintro rfl
    exact attended

/-- One process at a time serves, it has the lock, and the file of an owner that
listens is in its place and stays there whatever another process does. -/
structure Exclusive (control : ControlRoot) : Prop where
  alone : ∀ first second, control.Serves first → control.Serves second → first = second
  locked : ∀ id, control.Serves id → control.files.lock = some (.owner id)
  bound : ∀ id, (control.owners id).listens = true →
    control.files.lock = some (.owner id) ∧ control.SocketOf id
  kept : ∀ label after id, control.step label = some after → label.party ≠ .owner id →
    control.Serves id ∨ (control.owners id).listens = true → after.SocketOf id

theorem Consistent.exclusive (consistent : self.Consistent)
    (left : ∀ id, (self.owners id).LeftNobody) : self.Exclusive := by
  have listens : ∀ id, self.Serves id → (self.owners id).listens = true := fun id serves =>
    OwnerPhase.listens_of_serves (left id) serves
  have holds : ∀ id, (self.owners id).listens = true → self.holds (.owner id) = true :=
    fun id opened => holds_of_listens opened
  refine ⟨?_, ?_, ?_, ?_⟩
  · intro first second one other
    have here := holds first (listens first one)
    have there := holds second (listens second other)
    exact LockHolder.owner.inj (consistent.held.unique here there)
  · intro id serves
    exact (consistent.held (.owner id)).mpr (holds id (listens id serves))
  · intro id opened
    exact ⟨(consistent.held (.owner id)).mpr (holds id opened), consistent.bound id opened⟩
  · intro label after id moved other busy
    have opened := busy.elim (listens id) fun opened => opened
    obtain ⟨effect, stepped⟩ := stepped_of_step moved
    obtain ⟨isPrivate, here⟩ := consistent.bound id opened
    exact ⟨isPrivate, (consistent.socket_untouched stepped (holds id opened) other).trans here⟩

/-- **One owner at a time.** In every run in which no owner's control fails over its
running threads, at most one process serves commands at any moment, it has the lock, and
no other process takes its socket file away. In every run, a discoverer returns no owner
only after a moment of its call at which no process held the lock. -/
theorem owner_socket_exclusive {past : List (ControlRoot × ControlLabel)}
    (run : machine.Run past self) :
    (StepSystem.Guarded Attended past → StepSystem.Throughout Exclusive past self) ∧
      ∀ id, self.discoveries id = .returned .vacant →
        ∃ entry ∈ past, (entry.1.discoveries id).UnderWay ∧ entry.1.files.lock = none := by
  constructor
  · intro attended
    apply run.throughout_of_guarded
      (I := fun self => self.Consistent ∧ ∀ id, (self.owners id).LeftNobody) _ _ _ attended
    · intro start untouched
      refine ⟨Untouched.consistent untouched, fun id => ?_⟩
      rw [untouched.owners]
      exact trivial
    · intro before label after known allowed moved
      exact ⟨known.1.step moved, leftNobody_of_step moved known.2 allowed⟩
    · intro here known
      exact known.1.exclusive known.2
  · intro id returned
    apply run.exists_of_raised (P := fun self => (self.discoveries id).foundVacant = true)
      (Q := fun self => (self.discoveries id).UnderWay ∧ self.files.lock = none)
    · intro start untouched found
      rw [untouched.discoveries] at found
      cases found
    · intro before label after reachable moved found
      exact free_of_foundVacant (consistent_of_reachable reachable) moved found
    · rw [returned]
      rfl

def bare : ControlRoot where
  files := ⟨.missing, none, none⟩
  owners := fun _ => .absent
  discoveries := fun _ => .absent
  keepers := fun _ => false

/-- An owner makes the control root, serves a connection and dies, a discoverer
clears its file away, and another owner takes its place. -/
def afterDeath : List ControlLabel :=
  [.owner 0 .proceed, .owner 0 .proceed, .owner 0 (.create true), .owner 0 .proceed,
    .owner 0 .proceed, .owner 0 .proceed, .owner 0 .proceed, .owner 0 (.create false),
    .owner 0 .proceed, .owner 0 .proceed, .owner 0 .accept, .discoverer 0 .proceed,
    .discoverer 0 .proceed, .discoverer 0 .proceed, .discoverer 0 .proceed,
    .discoverer 0 .proceed, .ownerDies 0, .discoverer 0 .fail, .discoverer 0 .proceed,
    .discoverer 0 .proceed, .discoverer 0 .proceed, .owner 1 .proceed, .owner 1 .proceed,
    .owner 1 .proceed, .owner 1 .proceed, .owner 1 .proceed, .owner 1 (.create false),
    .owner 1 .proceed, .owner 1 .proceed]

theorem bare_untouched : bare.Untouched :=
  ⟨rfl, nofun, fun _ => rfl, fun _ => rfl, fun _ => rfl⟩

theorem owner_after_death :
    ∃ past self, machine.Run past self ∧ self.Serves 1 ∧
      StepSystem.Throughout Exclusive past self ∧
      ∃ entry ∈ past, (entry.1.discoveries 0).UnderWay ∧ entry.1.files.lock = none := by
  have replayed : (machine.execute bare afterDeath).map
      (fun self => (self.owners 1, self.discoveries 0)) =
        some (.serving .none false, .returned .vacant) := by
    decide +kernel
  have along : machine.Along Attended bare afterDeath := by
    apply StepSystem.along_of_forall
    simp [afterDeath, Attended]
  obtain ⟨past, self, run, attended, last⟩ :=
    StepSystem.exists_guarded_of_map along replayed bare_untouched
  obtain ⟨exclusive, vacant⟩ := owner_socket_exclusive run
  have serving : self.owners 1 = .serving .none false := congrArg Prod.fst last
  have none_found := vacant 0 (congrArg Prod.snd last)
  exact ⟨past, self, run, .inl ⟨_, _, serving⟩, exclusive attended, none_found⟩

/-- The owner serves a connection when its next `accept` fails: it gives the lock away and
leaves the thread of the connection behind. Another owner is about to clear its file away. -/
def leftBehind : List ControlLabel :=
  [.owner 0 .proceed, .owner 0 .proceed, .owner 0 (.create true), .owner 0 .proceed,
    .owner 0 .proceed, .owner 0 .proceed, .owner 0 .proceed, .owner 0 (.create false),
    .owner 0 .proceed, .owner 0 .proceed, .owner 0 .accept, .owner 0 .fail, .owner 0 .proceed,
    .owner 1 .proceed, .owner 1 .proceed, .owner 1 .proceed, .owner 1 .proceed,
    .owner 1 .proceed, .owner 1 .proceed]

/-- The other owner takes the place of the one that still serves. -/
theorem orphan_serves_beside_owner :
    (∃ past before after, machine.Run past before ∧ before.Serves 0 ∧ before.SocketOf 0 ∧
      before.step (.owner 1 .proceed) = some after ∧ ¬after.SocketOf 0) ∧
    ∃ past self, machine.Run past self ∧ self.Serves 0 ∧ self.Serves 1 := by
  constructor
  · have replayed : (machine.execute bare leftBehind).map
        (fun self => (self.owners 0, self.owners 1, self.files.socket)) =
          some (.returned ⟨1, 0, 0⟩, .unlinking, some (.socket (some 0) true)) := by
      decide +kernel
    obtain ⟨past, before, run, last⟩ := StepSystem.exists_run_of_map replayed bare_untouched
    have left : before.owners 0 = .returned ⟨1, 0, 0⟩ := congrArg Prod.fst last
    have other : before.owners 1 = .unlinking := congrArg (fun entry => entry.2.1) last
    have here : before.files.socket = some (.socket (some 0) true) :=
      congrArg (fun entry => entry.2.2) last
    refine ⟨past, before, before.setOwner 1 .unlink .binding, run, .inr ?_, ⟨true, here⟩, ?_, ?_⟩
    · rw [left]
      exact fun ended => nomatch ended.1
    · simp [step, other, OwnerPhase.next, here]
    · rintro ⟨isPrivate, there⟩
      cases there
  · have replayed : (machine.execute bare (leftBehind ++
        [.owner 1 .proceed, .owner 1 (.create false), .owner 1 .proceed, .owner 1 .proceed])).map
        (fun self => (self.owners 0, self.owners 1)) =
          some (.returned ⟨1, 0, 0⟩, .serving .none false) := by
      decide +kernel
    obtain ⟨past, self, run, last⟩ := StepSystem.exists_run_of_map replayed bare_untouched
    have left : self.owners 0 = .returned ⟨1, 0, 0⟩ := congrArg Prod.fst last
    refine ⟨past, self, run, .inr ?_, .inl ⟨_, _, congrArg Prod.snd last⟩⟩
    rw [left]
    exact fun ended => nomatch ended.1

end ControlRoot

end Deskkin.OwnerControl
