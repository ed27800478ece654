/-
# Every pairing command is answered

A command of the owner that opens a window is answered once: when the window is
refused or expires, or by the thread that reserved. The loop moves the task from the
open window to the active one when it sees the reservation and lets go of it when it
sees that the thread has finished. If the reservation was granted to a connection of
an earlier window, the thread answers that one, and the task of the open window is
dropped without an answer.
-/

import Deskkin.Host.WindowReservation

namespace Deskkin.Host

namespace AcceptLoop

variable {self after : AcceptLoop}

/-- A running thread has reserved for the task. -/
def Held (self : AcceptLoop) (task : OwnerPairingTask) : Prop :=
  ∃ index attempt, self.attempts index = some attempt ∧ attempt.phase.Holds ∧ attempt.task = task

/-- A terminal response has been sent. -/
def Answered (self : AcceptLoop) (task : OwnerPairingTask) : Prop :=
  ∃ update, (task, update) ∈ self.updates ∧ update.terminal = true

/-- No command that arrived is abandoned. -/
def NoneAbandoned (self : AcceptLoop) : Prop :=
  ∀ task ∈ self.log.received, self.pairingWindow = some task ∨
    self.activePairingTask = some task ∨ self.Held task ∨ self.Answered task

/-- A connection is granted the reservation while its own window is open, or none. -/
def GrantedToOpen (self : AcceptLoop) : LoopLabel → Prop
  | .reserve index => ∀ attempt ∈ self.attempts index, self.pairingState.consumed = false →
      ∀ task ∈ self.pairingWindow, task = attempt.task
  | _ => True

instance (self : AcceptLoop) : DecidablePred (GrantedToOpen self)
  | .reserve index => inferInstanceAs (Decidable (∀ attempt ∈ self.attempts index,
      self.pairingState.consumed = false → ∀ task ∈ self.pairingWindow, task = attempt.task))
  | .tick _ | .changePeer _ | .pairingWindowOpen _ _ | .pairStart _ _ | .runtimeShutdown | .look
  | .accept _ _ | .noPairingConnection | .passDeadline _ | .ask _ _ _ | .finish _ _ | .signal _
  | .abandon _ => isTrue trivial

/-! ## Tasks in hand -/

def Answering (self : AcceptLoop) (task : OwnerPairingTask) : Prop :=
  self.Held task ∨ self.Answered task

variable {task : OwnerPairingTask} {attempt : PairingAttempt} {index : ℕ}

theorem Answering.send (answering : self.Answering task) (other : OwnerPairingTask)
    (update : TaskUpdate) : (self.send other update).Answering task := by
  rcases answering with held | ⟨sent, member, terminal⟩
  · exact Or.inl held
  · exact Or.inr ⟨sent, List.mem_append_left _ member, terminal⟩

theorem answered_send (self : AcceptLoop) (task : OwnerPairingTask) {update : TaskUpdate}
    (terminal : update.terminal = true) : (self.send task update).Answered task :=
  ⟨update, List.mem_append_right _ (List.mem_singleton_self _), terminal⟩

/-- Other threads hold what they held. -/
theorem Held.setAttempt (held : self.Held task)
    (keeps : ∀ before, self.attempts index = some before → before.phase.Holds →
      before.task = task → attempt.phase.Holds ∧ attempt.task = task) :
    (self.setAttempt index attempt).Held task := by
  obtain ⟨other, holder, found, holds, same⟩ := held
  by_cases here : other = index
  · subst here
    obtain ⟨kept, mine⟩ := keeps holder found holds same
    exact ⟨other, attempt, by simp [AcceptLoop.setAttempt], kept, mine⟩
  · exact ⟨other, holder, by simp [AcceptLoop.setAttempt, here, found], holds, same⟩

/-- A thread that goes on without giving its reservation back. -/
theorem Answering.advance (answering : self.Answering task)
    (found : self.attempts index = some attempt) {phase : AttemptPhase}
    (keeps : attempt.phase.Holds → phase.Holds) :
    (self.setAttempt index { attempt with phase := phase }).Answering task := by
  rcases answering with held | answered
  · refine Or.inl (held.setAttempt fun before same holds mine => ?_)
    rw [found, Option.some.injEq] at same
    subst same
    exact ⟨keeps holds, mine⟩
  · exact Or.inr answered

/-- A thread that gives its reservation back has answered. -/
theorem Answering.finish (answering : self.Answering task)
    (found : self.attempts index = some attempt) {update : TaskUpdate}
    (terminal : update.terminal = true) :
    ((self.setAttempt index { attempt with phase := .finished }).send attempt.task
      update).Answering task := by
  by_cases mine : attempt.task = task
  · subst mine
    exact Or.inr (answered_send _ _ terminal)
  · have still : (self.setAttempt index { attempt with phase := .finished }).Answering task := by
      rcases answering with held | answered
      · refine Or.inl (held.setAttempt fun before same _ here => ?_)
        rw [found, Option.some.injEq] at same
        subst same
        exact absurd here mine
      · exact Or.inr answered
    exact still.send _ _

/-- Only the open window waits for an answer that no one owes yet, and once it is
reserved someone does. -/
structure Owned (loop : AcceptLoop) : Prop where
  settled : ∀ task ∈ loop.log.received, loop.pairingWindow = some task ∨ loop.Answering task
  active : ∀ task, loop.activePairingTask = some task → loop.Answering task
  pending : loop.pairingState.transfer = true →
    ∀ task, loop.pairingWindow = some task → loop.Answering task

theorem owned_started (now : ℕ) (peer : PeerState Text Text) : (started now peer).Owned where
  settled _ found := by cases found
  active _ found := by cases found
  pending found := by cases found

section

variable (owned : self.Owned)
include owned

theorem Owned.noneAbandoned : self.NoneAbandoned := by
  intro task received
  rcases owned.settled task received with window | held | answered
  · exact Or.inl window
  · exact Or.inr (Or.inr (Or.inl held))
  · exact Or.inr (Or.inr (Or.inr answered))

/-- A step that leaves the tasks where they are. -/
theorem Owned.keep (received : after.log.received = self.log.received)
    (window : after.pairingWindow = self.pairingWindow)
    (active : after.activePairingTask = self.activePairingTask)
    (transfer : after.pairingState.transfer = self.pairingState.transfer)
    (answering : ∀ task, self.Answering task → after.Answering task) : after.Owned where
  settled task member := by
    rw [received] at member
    rw [window]
    exact (owned.settled task member).imp id (answering task)
  active task here := by
    rw [active] at here
    exact answering task (owned.active task here)
  pending moved task here := by
    rw [transfer] at moved
    rw [window] at here
    exact answering task (owned.pending moved task here)

/-! ## The loop -/

theorem Owned.refuse (task : OwnerPairingTask) :
    ((self.receive task).send task .operationFailed).Owned where
  settled other member := by
    rcases List.mem_append.mp member with earlier | last
    · exact (owned.settled other earlier).imp id fun answering => Answering.send answering _ _
    · rw [List.mem_singleton.mp last]
      exact Or.inr (Or.inr (answered_send _ _ rfl))
  active other here := (owned.active other here).send _ _
  pending moved other here := (owned.pending moved other here).send _ _

/-- The window before was closed, so nobody loses it. -/
theorem Owned.openWindow (closed : self.pairingWindow = none) (task : OwnerPairingTask) :
    ((self.receive task).openWindow task).Owned where
  settled other member := by
    rcases List.mem_append.mp member with earlier | last
    · rcases owned.settled other earlier with window | answering
      · rw [closed] at window
        cases window
      · exact Or.inr (Answering.send answering _ _)
    · rw [List.mem_singleton.mp last]
      exact Or.inl rfl
  active _ here := by cases here
  pending moved := by cases moved

theorem Owned.transferTask : self.transferTask.Owned := by
  unfold AcceptLoop.transferTask
  split
  · rename_i moved
    refine ⟨fun task member => ?_, fun task here => owned.pending moved.1 task here,
      fun found => (by cases found)⟩
    rcases owned.settled task member with window | answering
    · exact Or.inr (owned.pending moved.1 task window)
    · exact Or.inr answering
  · exact owned

/-- The task that is dropped is answered by the thread that reserved for it. -/
theorem Owned.clearFinished : self.clearFinished.Owned := by
  unfold AcceptLoop.clearFinished
  split
  · exact ⟨owned.settled, fun _ found => (by cases found), fun found => (by cases found)⟩
  · exact owned

theorem Owned.expireWindow : self.expireWindow.Owned := by
  unfold AcceptLoop.expireWindow
  split
  · rename_i task window
    split
    · refine ⟨fun other member => Or.inr ?_, fun other here =>
        Answering.send (owned.active other here) _ _, fun _ _ found => (by cases found)⟩
      rcases owned.settled other member with here | answering
      · rw [window, Option.some.injEq] at here
        subst here
        exact Or.inr (answered_send _ _ rfl)
      · exact Answering.send answering _ _
    · exact owned
  · exact owned

theorem Owned.dropInactive : self.dropInactive.Owned := by
  unfold AcceptLoop.dropInactive
  split
  · exact owned
  · exact { owned with active := fun _ found => (by cases found) }

theorem Owned.look : self.transferTask.clearFinished.expireWindow.dropInactive.Owned :=
  owned.transferTask.clearFinished.expireWindow.dropInactive

theorem Owned.advance (found : self.attempts index = some attempt) (phase : AttemptPhase)
    (keeps : attempt.phase.Holds → phase.Holds) :
    (self.setAttempt index { attempt with phase := phase }).Owned :=
  owned.keep rfl rfl rfl rfl fun _ answering => answering.advance found keeps

/-- The open window is reserved by a connection of its own. -/
theorem Owned.grant (found : self.attempts index = some attempt) {log : WindowLog}
    (received : log.received = self.log.received)
    (own : ∀ task, self.pairingWindow = some task → task = attempt.task) :
    Owned { self.setAttempt index { attempt with phase := .reserved } with
      pairingState := { self.pairingState with consumed := true, transfer := true }
      log := log } := by
  have advanced := owned.advance found .reserved fun _ => Or.inl rfl
  refine ⟨received ▸ advanced.settled, advanced.active, fun _ task window => Or.inl ?_⟩
  exact ⟨index, { attempt with phase := .reserved }, by simp [AcceptLoop.setAttempt],
    Or.inl rfl, (own task window).symm⟩

theorem Owned.step {label : LoopLabel} (granted : GrantedToOpen self label)
    (moved : self.step label = some after) : after.Owned := by
  cases moved_of_step moved with
  | tick elapsed => exact { owned with }
  | changePeer peer => exact { owned with }
  | refused commandId deadline => exact owned.refuse _
  | opened commandId deadline closed idle => exact owned.openWindow closed _
  | pairStart commandId deadline => exact owned.refuse _
  | runtimeShutdown => exact { owned with }
  | looked => exact { owned.look with }
  | accepted index task window free =>
      refine owned.keep rfl rfl rfl rfl fun other answering => ?_
      rcases answering with held | answered
      · refine Or.inl (held.setAttempt fun before found => ?_)
        rw [free] at found
        cases found
      · exact Or.inr answered
  | uncloned index task window =>
      exact owned.keep rfl rfl rfl rfl fun _ answering => Answering.send answering _ _
  | elsewhere => exact { owned with }
  | inTime index attempt found exchanging =>
      apply owned.advance found
      rw [exchanging]
      exact fun holds => absurd holds (by decide)
  | busy index attempt found timely consumed =>
      apply owned.advance found
      rw [timely]
      exact fun holds => absurd holds (by decide)
  | granted index attempt found timely unconsumed =>
      exact owned.grant found rfl (granted attempt found unconsumed)
  | asked index transaction authentication attempt found reserved =>
      exact (owned.advance found .asked fun _ => Or.inr rfl).keep rfl rfl rfl rfl
        fun _ answering => answering.send _ _
  | finished index completed attempt found holds update terminal =>
      exact owned.keep rfl rfl rfl rfl fun _ answering => answering.finish found terminal
  | signalled index attempt found finished =>
      have advanced := owned.advance found .over fun holds => by
        rw [finished] at holds
        exact absurd holds (by decide)
      exact advanced.keep rfl rfl rfl rfl fun _ answering => answering
  | abandoned index attempt found early =>
      apply owned.advance found
      rcases early with early | early
      · rw [early]
        exact fun holds => absurd holds (by decide)
      · rw [early]
        exact fun holds => absurd holds (by decide)

end

/-- **Commands are answered.** In a run in which no connection is granted the
reservation while a window that is not its own is open, no command is abandoned in
any state. -/
theorem noneAbandoned_throughout {past : List (AcceptLoop × LoopLabel)}
    (run : machine.Run past self) (guarded : StepSystem.Guarded GrantedToOpen past) :
    StepSystem.Throughout NoneAbandoned past self := by
  apply run.throughout_of_guarded (I := Owned) _ _ _ guarded
  · rintro _ ⟨now, peer, rfl⟩
    exact owned_started now peer
  · exact fun self label after owned granted moved => owned.step granted moved
  · exact fun self owned => owned.noneAbandoned

theorem noneAbandoned_throughout_first :
    ∃ past self, machine.Run past self ∧ StepSystem.Throughout NoneAbandoned past self ∧
      self.updates = [(firstTask, .pairingWaiting), (firstTask, .operationFailed)] := by
  have ran : (machine.execute (started 0 .unpaired) firstOver).map (fun self => self.updates) =
      some [(firstTask, .pairingWaiting), (firstTask, .operationFailed)] := by
    decide +kernel
  have along : machine.Along GrantedToOpen (started 0 .unpaired) firstOver := by
    decide +kernel
  obtain ⟨past, self, run, guarded, updates⟩ :=
    StepSystem.exists_guarded_of_map along ran ⟨0, .unpaired, rfl⟩
  exact ⟨past, self, run, noneAbandoned_throughout run guarded, updates⟩

/-! ## A late connection of the first window -/

/-- Who holds a reservation was granted it. -/
def HoldersGranted (self : AcceptLoop) : Prop :=
  ∀ task, self.Held task → ∃ grant ∈ self.log.grants, grant.task = task

theorem held_of_setAttempt (held : (self.setAttempt index attempt).Held task) :
    self.Held task ∨ attempt.phase.Holds ∧ attempt.task = task := by
  obtain ⟨other, holder, found, holds, same⟩ := held
  simp only [AcceptLoop.setAttempt, Function.update_apply] at found
  split at found
  · cases found
    exact Or.inr ⟨holds, same⟩
  · exact Or.inl ⟨other, holder, found, holds, same⟩

theorem HoldersGranted.advance (holders : self.HoldersGranted)
    (found : self.attempts index = some attempt) (phase : AttemptPhase)
    (keeps : phase.Holds → attempt.phase.Holds) :
    (self.setAttempt index { attempt with phase := phase }).HoldersGranted := by
  intro task held
  rcases held_of_setAttempt held with before | ⟨holds, mine⟩
  · exact holders task before
  · exact holders task ⟨index, attempt, found, keeps holds, mine⟩

theorem attempts_look (self : AcceptLoop) :
    self.transferTask.clearFinished.expireWindow.dropInactive.attempts = self.attempts := by
  have transferred : self.transferTask.attempts = self.attempts := by
    unfold AcceptLoop.transferTask
    split <;> rfl
  have cleared (loop : AcceptLoop) : loop.clearFinished.attempts = loop.attempts := by
    unfold AcceptLoop.clearFinished
    split <;> rfl
  have expired (loop : AcceptLoop) : loop.expireWindow.attempts = loop.attempts := by
    unfold AcceptLoop.expireWindow
    split
    · split <;> rfl
    · rfl
  have dropped (loop : AcceptLoop) : loop.dropInactive.attempts = loop.attempts := by
    unfold AcceptLoop.dropInactive
    split <;> rfl
  rw [dropped, expired, cleared, transferred]

theorem HoldersGranted.step {label : LoopLabel} (holders : self.HoldersGranted)
    (moved : self.step label = some after) : after.HoldersGranted := by
  cases moved_of_step moved with
  | looked =>
      rintro task ⟨index, attempt, found, held⟩
      have there : self.attempts index = some attempt :=
        (congrFun (attempts_look self) index).symm.trans found
      obtain ⟨grant, member, same⟩ := holders task ⟨index, attempt, there, held⟩
      exact ⟨grant, (grants_look self).symm ▸ member, same⟩
  | accepted index task window free =>
      intro other held
      rcases held_of_setAttempt held with before | ⟨holds, -⟩
      · exact holders other before
      · exact absurd holds (show ¬AttemptPhase.exchanging.Holds by decide)
  | inTime index attempt found exchanging =>
      exact holders.advance found _ fun holds => absurd holds (by decide)
  | busy index attempt found timely consumed =>
      exact holders.advance found _ fun holds => absurd holds (by decide)
  | granted index attempt found timely unconsumed =>
      intro task held
      rcases held_of_setAttempt held with before | ⟨-, mine⟩
      · obtain ⟨grant, member, same⟩ := holders task before
        exact ⟨grant, List.mem_append_left _ member, same⟩
      · exact ⟨_, List.mem_append_right _ (List.mem_singleton_self _), mine⟩
  | asked index transaction authentication attempt found reserved =>
      exact holders.advance found _ fun _ => Or.inl reserved
  | finished index completed attempt found holds update terminal =>
      exact holders.advance found _ fun _ => holds
  | signalled index attempt found finished =>
      exact holders.advance found .over fun holds => absurd holds (by decide)
  | abandoned index attempt found early =>
      exact holders.advance found _ fun holds => absurd holds (by decide)
  | _ => exact holders

theorem holdersGranted_of_reachable (reachable : machine.Reachable self) :
    self.HoldersGranted := by
  apply reachable.invariant
  · rintro _ ⟨now, peer, rfl⟩ task ⟨index, attempt, found, -⟩
    cases found
  · exact fun self label after holders moved => holders.step moved

/-- The second command, which arrives when the first one has been answered. -/
def secondTask : OwnerPairingTask := ⟨1, ['b'], 60⟩

/-- The second connection of the first window reserves while the second window is
open, and answers the first command once more. -/
def firstOverTwice : List LoopLabel :=
  firstOver ++ [.noPairingConnection, .pairingWindowOpen ['b'] 60, .reserve 1, .look,
    .finish 1 false, .signal 1, .noPairingConnection, .look]

/-- The loop has dropped the second command, and nobody answers it. -/
theorem second_command_abandoned :
    ∃ self, machine.Reachable self ∧ ¬self.NoneAbandoned ∧
      self.updates = [(firstTask, .pairingWaiting), (firstTask, .operationFailed),
        (secondTask, .pairingWaiting), (firstTask, .operationFailed)] := by
  have ran : (machine.execute (started 0 .unpaired) firstOverTwice).map (fun self =>
      ((self.pairingWindow, self.activePairingTask), self.updates, self.log)) =
      some ((none, none), [(firstTask, .pairingWaiting), (firstTask, .operationFailed),
          (secondTask, .pairingWaiting), (firstTask, .operationFailed)],
        ⟨[firstTask, secondTask], some secondTask, 4,
          [⟨some firstTask, firstTask⟩, ⟨some secondTask, firstTask⟩]⟩) := by
    decide +kernel
  obtain ⟨self, reachable, found⟩ := StepSystem.exists_reachable_of_map ran ⟨0, .unpaired, rfl⟩
  simp only [Prod.mk.injEq] at found
  obtain ⟨⟨window, active⟩, updates, log⟩ := found
  refine ⟨self, reachable, fun none => ?_, updates⟩
  rcases none secondTask (by simp [log]) with open' | active' | held | ⟨update, member, terminal⟩
  · rw [window] at open'
    cases open'
  · rw [active] at active'
    cases active'
  · obtain ⟨grant, member, same⟩ := holdersGranted_of_reachable reachable secondTask held
    rw [log] at member
    revert grant
    decide
  · rw [updates] at member
    simp only [List.mem_cons, Prod.mk.injEq, List.not_mem_nil, or_false] at member
    rcases member with ⟨same, -⟩ | ⟨same, -⟩ | ⟨-, rfl⟩ | ⟨same, -⟩
    · exact absurd same (by decide)
    · exact absurd same (by decide)
    · cases terminal
    · exact absurd same (by decide)

end AcceptLoop

end Deskkin.Host
