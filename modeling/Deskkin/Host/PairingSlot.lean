/-
# Who owes the answer to a pairing command

A window that has not been reserved owes its command an answer, and so does the thread
that reserved it. As long as every reservation is granted to a connection of the open
window and no connection of it fails to be cloned, only one of them does at a time, and
the answer is the last update of the command.
-/

import Deskkin.Host.PairingWindow

namespace Deskkin.Host

/-- From the reservation until the loop is told that it is over. -/
def AttemptPhase.Engaged (phase : AttemptPhase) : Prop := phase.Holds ∨ phase = .finished

theorem AttemptPhase.not_engaged_exchanging : ¬AttemptPhase.Engaged .exchanging := by
  simp [AttemptPhase.Engaged, AttemptPhase.Holds]

theorem AttemptPhase.not_engaged_timely : ¬AttemptPhase.Engaged .timely := by
  simp [AttemptPhase.Engaged, AttemptPhase.Holds]

theorem AttemptPhase.not_engaged_over : ¬AttemptPhase.Engaged .over := by
  simp [AttemptPhase.Engaged, AttemptPhase.Holds]

theorem AttemptPhase.not_holds_finished : ¬AttemptPhase.Holds .finished := by
  simp [AttemptPhase.Holds]

/-- The id of the command that is received. -/
def LoopLabel.commandId : LoopLabel → Option Text
  | .pairingWindowOpen commandId _ | .pairStart commandId _ => some commandId
  | _ => none

namespace AcceptLoop

/-- An answer is owed to the command with this id. -/
def Owed (self : AcceptLoop) (id : Text) : Prop :=
  (∃ task, self.pairingWindow = some task ∧ self.pairingState.consumed = false ∧
    task.commandId = id) ∨
  ∃ index attempt, self.attempts index = some attempt ∧ attempt.phase.Holds ∧
    attempt.task.commandId = id

/-- A reservation is granted while the window of its task is open, and a connection of the
open window is cloned. -/
def OwnWindow (self : AcceptLoop) : LoopLabel → Prop
  | .reserve index => ∀ attempt ∈ self.attempts index, self.pairingState.consumed = false →
      self.pairingWindow = some attempt.task
  | .accept _ cloned => cloned = true
  | _ => True

instance (self : AcceptLoop) (label : LoopLabel) : Decidable (OwnWindow self label) := by
  cases label <;> (unfold OwnWindow; infer_instance)

/-- At most one thread is engaged, and the flags say so until it is over. -/
structure Engagement (loop : AcceptLoop) : Prop where
  idle : loop.pairingWindow ≠ none → loop.activePairingTask = none
  waiting : loop.pairingWindow ≠ none → loop.pairingState.consumed = true →
    loop.pairingState.transfer = true
  pending : loop.pairingState.transfer = true → loop.pairingState.consumed = true ∧
    loop.activePairingTask = none
  ended : loop.pairingState.finished = true → loop.pairingState.consumed = true
  busy : loop.pairingState.consumed = true → loop.pairingState.finished = false →
    loop.pairingWindow ≠ none ∨ loop.activePairingTask ≠ none
  engaged : ∀ index attempt, loop.attempts index = some attempt → attempt.phase.Engaged →
    loop.pairingState.consumed = true ∧ loop.pairingState.finished = false
  single : ∀ index attempt other holder, loop.attempts index = some attempt →
    loop.attempts other = some holder → attempt.phase.Engaged → holder.phase.Engaged →
    index = other

theorem engagement_started (now : ℕ) (peer : PeerState Text Text) :
    (started now peer).Engagement where
  idle found := absurd rfl found
  waiting found := absurd rfl found
  pending found := by cases found
  ended found := by cases found
  busy found := by cases found
  engaged _ _ found := by cases found
  single _ _ _ _ found := by cases found

section Steps

variable {self after : AcceptLoop}

/-- Threads are engaged as before, but for one that may have stopped being so. -/
theorem engaged_setAttempt {index other : ℕ} {attempt changed holder : PairingAttempt}
    (found : self.attempts index = some attempt)
    (less : changed.phase.Engaged → attempt.phase.Engaged)
    (there : (self.setAttempt index changed).attempts other = some holder)
    (engaged : holder.phase.Engaged) :
    ∃ before, self.attempts other = some before ∧ before.phase.Engaged := by
  simp only [setAttempt, Function.update_apply] at there
  split at there
  · rename_i same
    cases there
    exact ⟨attempt, same ▸ found, less engaged⟩
  · exact ⟨holder, there, engaged⟩

variable {index : ℕ} {attempt : PairingAttempt} {label : LoopLabel} {id : Text}

section

variable (engagement : self.Engagement)
include engagement

theorem Engagement.advance {attempt changed : PairingAttempt}
    (found : self.attempts index = some attempt)
    (less : changed.phase.Engaged → attempt.phase.Engaged) :
    (self.setAttempt index changed).Engagement := by
  refine { engagement with engaged := ?_, single := ?_ }
  · intro other holder there engaged
    obtain ⟨before, earlier, was⟩ := engaged_setAttempt found less there engaged
    exact engagement.engaged other before earlier was
  · intro one first two second thereOne thereTwo engagedOne engagedTwo
    obtain ⟨before, earlier, was⟩ := engaged_setAttempt found less thereOne engagedOne
    obtain ⟨old, former, had⟩ := engaged_setAttempt found less thereTwo engagedTwo
    exact engagement.single one before two old earlier former was had

/-- A new connection is not engaged. -/
theorem Engagement.connect (exchanging : attempt.phase = .exchanging) :
    (self.setAttempt index attempt).Engagement := by
  have old : ∀ other holder, (self.setAttempt index attempt).attempts other = some holder →
      holder.phase.Engaged → self.attempts other = some holder := by
    intro other holder there engaged
    simp only [setAttempt, Function.update_apply] at there
    split at there
    · cases there
      rw [exchanging] at engaged
      exact absurd engaged AttemptPhase.not_engaged_exchanging
    · exact there
  refine { engagement with engaged := ?_, single := ?_ }
  · exact fun other holder there engaged =>
      engagement.engaged other holder (old other holder there engaged) engaged
  · exact fun one first two second thereOne thereTwo engagedOne engagedTwo =>
      engagement.single one first two second (old one first thereOne engagedOne)
        (old two second thereTwo engagedTwo) engagedOne engagedTwo

theorem Engagement.unengaged (unconsumed : self.pairingState.consumed = false)
    (found : self.attempts index = some attempt) : ¬attempt.phase.Engaged := by
  intro engaged
  rw [(engagement.engaged index attempt found engaged).1] at unconsumed
  cases unconsumed

/-- The thread that reserves is the only one that is engaged. -/
theorem Engagement.grant (unconsumed : self.pairingState.consumed = false)
    (window : self.pairingWindow ≠ none) (log : WindowLog) :
    Engagement { self.setAttempt index { attempt with phase := .reserved } with
      pairingState := { self.pairingState with consumed := true, transfer := true }
      log := log } := by
  have unfinished : self.pairingState.finished = false := by
    rw [← Bool.not_eq_true]
    intro finished
    rw [engagement.ended finished] at unconsumed
    cases unconsumed
  have only : ∀ other holder, (self.setAttempt index
      { attempt with phase := .reserved }).attempts other = some holder →
      holder.phase.Engaged → other = index := by
    intro other holder there engaged
    simp only [setAttempt, Function.update_apply] at there
    split at there
    · assumption
    · exact absurd engaged (engagement.unengaged unconsumed there)
  refine ⟨engagement.idle, fun _ _ => rfl, fun _ => ⟨rfl, engagement.idle window⟩, fun _ => rfl,
    fun _ _ => Or.inl window, fun _ _ _ _ => ⟨rfl, unfinished⟩, ?_⟩
  intro one first two second thereOne thereTwo engagedOne engagedTwo
  exact (only one first thereOne engagedOne).trans (only two second thereTwo engagedTwo).symm

/-- The thread that is engaged says that it is over. -/
theorem Engagement.signal (found : self.attempts index = some attempt)
    (finished : attempt.phase = .finished) :
    Engagement { self.setAttempt index { attempt with phase := .over } with
      pairingState := { self.pairingState with finished := true } } := by
  have consumed := (engagement.engaged index attempt found (Or.inr finished)).1
  have free : ∀ other holder, (self.setAttempt index { attempt with phase := .over }).attempts
      other = some holder → ¬holder.phase.Engaged := by
    intro other holder there engaged
    simp only [setAttempt, Function.update_apply] at there
    split at there
    · cases there
      exact AttemptPhase.not_engaged_over engaged
    · rename_i different
      exact different (engagement.single other holder index attempt there found engaged
        (Or.inr finished))
  exact ⟨engagement.idle, engagement.waiting, engagement.pending, fun _ => consumed,
    fun _ unfinished => (by cases unfinished),
    fun other holder there engaged => absurd engaged (free other holder there),
    fun other holder _ _ there _ engaged => absurd engaged (free other holder there)⟩

/-! ## The loop -/

theorem Engagement.openWindow (closed : self.pairingWindow = none)
    (idle : self.activePairingTask = none) (task : OwnerPairingTask) :
    ((self.receive task).openWindow task).Engagement := by
  have free : ∀ index attempt, self.attempts index = some attempt → ¬attempt.phase.Engaged := by
    intro index attempt found engaged
    obtain ⟨consumed, unfinished⟩ := engagement.engaged index attempt found engaged
    rcases engagement.busy consumed unfinished with window | active
    · exact window closed
    · exact active idle
  exact ⟨fun _ => rfl, fun _ consumed => (by cases consumed), fun transfer => (by cases transfer),
    fun finished => (by cases finished), fun consumed => (by cases consumed),
    fun index attempt found engaged => absurd engaged (free index attempt found),
    fun index attempt _ _ found _ engaged => absurd engaged (free index attempt found)⟩

theorem Engagement.transferTask :
    self.transferTask.Engagement ∧ self.transferTask.pairingState.transfer = false := by
  unfold AcceptLoop.transferTask
  split
  · rename_i moved
    have consumed := (engagement.pending moved.1).1
    refine ⟨⟨fun found => absurd rfl found, fun found => absurd rfl found,
      fun transfer => (by cases transfer), engagement.ended, fun _ unfinished => ?_,
      engagement.engaged, engagement.single⟩, rfl⟩
    rcases engagement.busy consumed unfinished with window | active
    · exact Or.inr window
    · exact absurd moved.2 active
  · rename_i still
    refine ⟨engagement, Bool.eq_false_iff.mpr fun transfer => still ⟨transfer, ?_⟩⟩
    exact (engagement.pending transfer).2

/-- No thread is engaged once the flags are cleared. -/
theorem Engagement.clearFinished : self.clearFinished.Engagement := by
  unfold AcceptLoop.clearFinished
  split
  · rename_i finished
    have free : ∀ index attempt, self.attempts index = some attempt → ¬attempt.phase.Engaged := by
      intro index attempt found engaged
      rw [(engagement.engaged index attempt found engaged).2] at finished
      cases finished
    exact ⟨fun _ => rfl, fun _ consumed => (by cases consumed), fun transfer => (by cases transfer),
      fun finished => (by cases finished), fun consumed => (by cases consumed),
      fun index attempt found engaged => absurd engaged (free index attempt found),
      fun index attempt _ _ found _ engaged => absurd engaged (free index attempt found)⟩
  · exact engagement

theorem Engagement.expireWindow : self.expireWindow.Engagement := by
  unfold AcceptLoop.expireWindow
  split
  · split
    · rename_i unconsumed
      have free : self.pairingState.consumed ≠ true := by simp [unconsumed.1]
      exact ⟨fun found => absurd rfl found, fun found => absurd rfl found, engagement.pending,
        engagement.ended, fun consumed => absurd consumed free, engagement.engaged,
        engagement.single⟩
    · exact engagement
  · exact engagement

theorem Engagement.dropInactive : self.dropInactive.Engagement := by
  unfold AcceptLoop.dropInactive
  split
  · exact engagement
  · rename_i inactive
    exact { engagement with
      idle := fun _ => rfl
      pending := fun transfer => ⟨(engagement.pending transfer).1, rfl⟩
      busy := fun consumed unfinished => absurd ⟨consumed, unfinished⟩ inactive }

theorem Engagement.look : self.transferTask.clearFinished.expireWindow.dropInactive.Engagement :=
  engagement.transferTask.1.clearFinished.expireWindow.dropInactive

theorem Engagement.step (own : OwnWindow self label) (moved : self.step label = some after) :
    after.Engagement := by
  cases moved_of_step moved with
  | tick elapsed => exact { engagement with }
  | changePeer peer => exact { engagement with }
  | refused commandId deadline => exact { engagement with }
  | opened commandId deadline closed idle => exact engagement.openWindow closed idle _
  | pairStart commandId deadline => exact { engagement with }
  | runtimeShutdown => exact { engagement with }
  | looked => exact { engagement.look with }
  | accepted index task window free =>
      have connected : (self.setAttempt index ⟨task, .exchanging, self.log.resets⟩).Engagement :=
        engagement.connect rfl
      exact { connected with }
  | uncloned index task window => exact absurd own Bool.false_ne_true
  | elsewhere => exact { engagement with }
  | inTime index attempt found exchanging =>
      exact engagement.advance found fun engaged => absurd engaged AttemptPhase.not_engaged_timely
  | busy index attempt found timely consumed =>
      exact engagement.advance found fun engaged => absurd engaged AttemptPhase.not_engaged_over
  | granted index attempt found timely unconsumed =>
      have window := own attempt found unconsumed
      exact engagement.grant unconsumed (window.symm ▸ Option.some_ne_none _) _
  | asked index transaction authentication attempt found reserved =>
      have advanced : (self.setAttempt index { attempt with phase := .asked }).Engagement :=
        engagement.advance found fun _ => Or.inl (Or.inl reserved)
      exact { advanced with }
  | finished index completed attempt found holds update terminal =>
      have advanced : (self.setAttempt index { attempt with phase := .finished }).Engagement :=
        engagement.advance found fun _ => Or.inl holds
      exact { advanced with }
  | signalled index attempt found finished => exact engagement.signal found finished
  | abandoned index attempt found early =>
      exact engagement.advance found fun engaged => absurd engaged AttemptPhase.not_engaged_over

/-! ## Updates -/

end

/-- What a step does to the commands that were received, the updates that were sent and the
answers that are owed. -/
inductive Effect (self : AcceptLoop) (label : LoopLabel) (after : AcceptLoop) : Prop
  | silent (received : after.log.received = self.log.received)
      (updates : after.updates = self.updates) (owed : ∀ id, after.Owed id → self.Owed id)
  | ongoing (task : OwnerPairingTask) (update : TaskUpdate)
      (received : after.log.received = self.log.received)
      (updates : after.updates = self.updates ++ [(task, update)])
      (open_ : update.terminal = false) (due : self.Owed task.commandId)
      (owed : ∀ id, after.Owed id → self.Owed id)
  | final (task : OwnerPairingTask) (update : TaskUpdate)
      (received : after.log.received = self.log.received)
      (updates : after.updates = self.updates ++ [(task, update)])
      (due : self.Owed task.commandId) (owed : ∀ id, ¬after.Owed id)
  | refused (task : OwnerPairingTask) (event : label.commandId = some task.commandId)
      (received : after.log.received = self.log.received ++ [task])
      (updates : after.updates = self.updates ++ [(task, .operationFailed)])
      (owed : ∀ id, after.Owed id → self.Owed id)
  | opened (task : OwnerPairingTask) (event : label.commandId = some task.commandId)
      (received : after.log.received = self.log.received ++ [task])
      (updates : after.updates = self.updates ++ [(task, .pairingWaiting)])
      (owed : ∀ id, after.Owed id → id = task.commandId)

theorem Owed.of_setAttempt {attempt changed : PairingAttempt}
    (found : self.attempts index = some attempt)
    (less : changed.phase.Holds → attempt.phase.Holds ∧ changed.task = attempt.task)
    (owed : (self.setAttempt index changed).Owed id) : self.Owed id := by
  rcases owed with window | ⟨other, holder, there, holds, named⟩
  · exact Or.inl window
  · simp only [setAttempt, Function.update_apply] at there
    split at there
    · cases there
      obtain ⟨held, same⟩ := less holds
      exact Or.inr ⟨index, attempt, found, held, same ▸ named⟩
    · exact Or.inr ⟨other, holder, there, holds, named⟩

/-- A thread that does not hold a reservation owes nothing. -/
theorem Owed.of_released {phase : AttemptPhase} (found : self.attempts index = some attempt)
    (free : ¬phase.Engaged)
    (owed : (self.setAttempt index { attempt with phase := phase }).Owed id) :
    self.Owed id := by
  apply Owed.of_setAttempt found _ owed
  intro holds
  exact absurd (Or.inl holds) free

/-- Once the thread that was engaged has answered, no answer is owed. -/
theorem Engagement.not_owed_finished (engagement : self.Engagement)
    (found : self.attempts index = some attempt) (holds : attempt.phase.Holds) (id : Text) :
    ¬(self.setAttempt index { attempt with phase := .finished }).Owed id := by
  rintro (⟨task, window, unconsumed, -⟩ | ⟨other, holder, there, held, -⟩)
  · exact engagement.unengaged unconsumed found (Or.inl holds)
  · simp only [setAttempt, Function.update_apply] at there
    split at there
    · cases there
      exact AttemptPhase.not_holds_finished held
    · rename_i different
      exact different (engagement.single other holder index attempt there found (Or.inl held)
        (Or.inl holds))

theorem owed_transferTask (owed : self.transferTask.Owed id) : self.Owed id := by
  unfold AcceptLoop.transferTask at owed
  split at owed
  · rcases owed with ⟨task, window, -⟩ | holder
    · cases window
    · exact Or.inr holder
  · exact owed

/-- A window whose reservation has been moved away is not open any more. -/
theorem Engagement.owed_clearFinished (engagement : self.Engagement)
    (moved : self.pairingState.transfer = false) (owed : self.clearFinished.Owed id) :
    self.Owed id := by
  unfold AcceptLoop.clearFinished at owed
  split at owed
  · rcases owed with ⟨task, window, -, named⟩ | holder
    · refine Or.inl ⟨task, window, ?_, named⟩
      rw [← Bool.not_eq_true]
      intro consumed
      have open_ : self.pairingWindow ≠ none := by
        rw [show self.pairingWindow = some task from window]
        exact Option.some_ne_none task
      rw [engagement.waiting open_ consumed] at moved
      cases moved
    · exact Or.inr holder
  · exact owed

theorem updates_transferTask (self : AcceptLoop) : self.transferTask.updates = self.updates ∧
    self.transferTask.log.received = self.log.received := by
  unfold AcceptLoop.transferTask
  split <;> exact ⟨rfl, rfl⟩

theorem updates_clearFinished (self : AcceptLoop) : self.clearFinished.updates = self.updates ∧
    self.clearFinished.log.received = self.log.received := by
  unfold AcceptLoop.clearFinished
  split <;> exact ⟨rfl, rfl⟩

theorem updates_dropInactive (self : AcceptLoop) : self.dropInactive.updates = self.updates ∧
    self.dropInactive.log.received = self.log.received := by
  unfold AcceptLoop.dropInactive
  split <;> exact ⟨rfl, rfl⟩

theorem owed_dropInactive (owed : self.dropInactive.Owed id) : self.Owed id := by
  unfold AcceptLoop.dropInactive at owed
  split at owed <;> exact owed

/-- A window that expires is answered, and nobody is engaged. -/
theorem Engagement.effect_expireWindow (engagement : self.Engagement) (label : LoopLabel) :
    Effect self label self.expireWindow := by
  unfold AcceptLoop.expireWindow
  split
  · rename_i task window
    split
    · rename_i expired
      refine .final task .operationFailed rfl rfl (Or.inl ⟨task, window, expired.1, rfl⟩) ?_
      rintro id (⟨other, open_, -⟩ | ⟨index, attempt, found, holds, -⟩)
      · cases open_
      · exact engagement.unengaged expired.1 found (Or.inl holds)
    · exact .silent rfl rfl fun id owed => owed
  · exact .silent rfl rfl fun id owed => owed

/-- Around a step that nobody notices. -/
theorem Effect.around {first last : AcceptLoop} (effect : Effect first label last)
    (before : first.updates = self.updates ∧ first.log.received = self.log.received)
    (behind : after.updates = last.updates ∧ after.log.received = last.log.received)
    (less : ∀ id, first.Owed id → self.Owed id) (fewer : ∀ id, after.Owed id → last.Owed id) :
    Effect self label after := by
  cases effect with
  | silent received updates owed =>
      refine .silent ?_ ?_ fun id later => less id (owed id (fewer id later))
      · rw [behind.2, received, before.2]
      · rw [behind.1, updates, before.1]
  | ongoing task update received updates open_ due owed =>
      refine .ongoing task update ?_ ?_ open_ (less _ due)
        fun id later => less id (owed id (fewer id later))
      · rw [behind.2, received, before.2]
      · rw [behind.1, updates, before.1]
  | final task update received updates due owed =>
      refine .final task update ?_ ?_ (less _ due) fun id later => owed id (fewer id later)
      · rw [behind.2, received, before.2]
      · rw [behind.1, updates, before.1]
  | refused task event received updates owed =>
      refine .refused task event ?_ ?_ fun id later => less id (owed id (fewer id later))
      · rw [behind.2, received, before.2]
      · rw [behind.1, updates, before.1]
  | opened task event received updates owed =>
      refine .opened task event ?_ ?_ fun id later => owed id (fewer id later)
      · rw [behind.2, received, before.2]
      · rw [behind.1, updates, before.1]

theorem Engagement.effect_look (engagement : self.Engagement) (label : LoopLabel)
    {turn : LoopTurn} :
    Effect self label
      { self.transferTask.clearFinished.expireWindow.dropInactive with turn := turn } := by
  obtain ⟨moved, transferred⟩ := engagement.transferTask
  have cleared := updates_clearFinished self.transferTask
  have transfer := updates_transferTask self
  apply (moved.clearFinished.effect_expireWindow label).around
  · exact ⟨cleared.1.trans transfer.1, cleared.2.trans transfer.2⟩
  · exact updates_dropInactive _
  · exact fun id owed => owed_transferTask (moved.owed_clearFinished transferred owed)
  · exact fun id owed => owed_dropInactive owed

/-- **One answer is owed at a time.** -/
theorem Engagement.effect (engagement : self.Engagement) (own : OwnWindow self label)
    (moved : self.step label = some after) : Effect self label after := by
  cases moved_of_step moved with
  | tick elapsed => exact .silent rfl rfl fun _ owed => owed
  | changePeer peer => exact .silent rfl rfl fun _ owed => owed
  | refused commandId deadline => exact .refused _ rfl rfl rfl fun _ owed => owed
  | opened commandId deadline closed idle =>
      refine .opened (self.nextTask commandId deadline) rfl rfl rfl fun id owed => ?_
      rcases owed with ⟨task, window, -, named⟩ | ⟨index, attempt, found, holds, -⟩
      · cases window
        exact named.symm
      · obtain ⟨consumed, unfinished⟩ := engagement.engaged index attempt found (Or.inl holds)
        rcases engagement.busy consumed unfinished with window | active
        · exact absurd closed window
        · exact absurd idle active
  | pairStart commandId deadline => exact .refused _ rfl rfl rfl fun _ owed => owed
  | runtimeShutdown => exact .silent rfl rfl fun _ owed => owed
  | looked => exact engagement.effect_look _
  | accepted index task window free =>
      refine .silent rfl rfl fun id owed => ?_
      rcases owed with open_ | ⟨other, holder, there, holds, named⟩
      · exact Or.inl open_
      · simp only [setAttempt, Function.update_apply] at there
        split at there
        · cases there
          exact absurd (Or.inl holds) AttemptPhase.not_engaged_exchanging
        · exact Or.inr ⟨other, holder, there, holds, named⟩
  | uncloned index task window => exact absurd own Bool.false_ne_true
  | elsewhere => exact .silent rfl rfl fun _ owed => owed
  | inTime index attempt found exchanging =>
      exact .silent rfl rfl fun _ owed => owed.of_released found
        AttemptPhase.not_engaged_timely
  | busy index attempt found timely consumed =>
      exact .silent rfl rfl fun _ owed => owed.of_released found
        AttemptPhase.not_engaged_over
  | granted index attempt found timely unconsumed =>
      refine .silent rfl rfl fun id owed => ?_
      have window := own attempt found unconsumed
      rcases owed with ⟨task, open_, consumed, -⟩ | ⟨other, holder, there, holds, named⟩
      · cases consumed
      · simp only [setAttempt, Function.update_apply] at there
        split at there
        · cases there
          exact Or.inl ⟨attempt.task, window, unconsumed, named⟩
        · exact Or.inr ⟨other, holder, there, holds, named⟩
  | asked index transaction authentication attempt found reserved =>
      refine .ongoing attempt.task _ rfl rfl rfl
        (Or.inr ⟨index, attempt, found, Or.inl reserved, rfl⟩) fun _ owed => ?_
      have less : AttemptPhase.Holds .asked →
          attempt.phase.Holds ∧ ({ attempt with phase := .asked } : PairingAttempt).task =
            attempt.task :=
        fun _ => ⟨Or.inl reserved, rfl⟩
      exact Owed.of_setAttempt found less owed
  | finished index completed attempt found holds update terminal =>
      refine .final attempt.task update rfl rfl (Or.inr ⟨index, attempt, found, holds, rfl⟩) ?_
      exact engagement.not_owed_finished found holds
  | signalled index attempt found finished =>
      refine .silent rfl rfl fun _ owed => ?_
      exact Owed.of_released found AttemptPhase.not_engaged_over owed
  | abandoned index attempt found early =>
      exact .silent rfl rfl fun _ owed => owed.of_released found
        AttemptPhase.not_engaged_over

end Steps

end AcceptLoop

end Deskkin.Host
