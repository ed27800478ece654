/-
# One reservation for each pairing window

A window authorizes one pairing attempt. The flags are cleared when the thread that
reserved has finished, and again when another window opens, but a connection of the
old window that is still exchanging keeps waiting for its turn and then finds the
flags free. What is granted stays in order precisely as long as no connection takes
flags that were reset since it was accepted.
-/

import Deskkin.Host.PairingWindow

namespace Deskkin.Host

/-! ## What the flags say about the window -/

/-- The window that was opened last has been reserved. -/
def WindowLog.Reserved (log : WindowLog) : Prop :=
  ∃ grant ∈ log.grants, grant.window = log.opened

/-- A connection whose flags have not been reset belongs to the window opened last,
and the flags know whether that was reserved. For any other connection of that
window they have forgotten it. -/
structure TrackedAttempt (log : WindowLog) (consumed : Bool) (attempt : PairingAttempt) : Prop where
  known : attempt.task.number < log.received.length
  past : attempt.resets ≤ log.resets
  current : attempt.resets = log.resets →
    log.opened = some attempt.task ∧ (log.Reserved → consumed = true)
  forgotten : attempt.resets < log.resets → log.opened = some attempt.task → log.Reserved

variable {attempt : PairingAttempt}

section

variable {log : WindowLog} {consumed : Bool} (tracked : TrackedAttempt log consumed attempt)
include tracked

theorem TrackedAttempt.consume (grant : Grant) (here : grant.window = log.opened) :
    TrackedAttempt { log with grants := log.grants ++ [grant] } true attempt where
  known := tracked.known
  past := tracked.past
  current same := ⟨(tracked.current same).1, fun _ => rfl⟩
  forgotten _ _ := ⟨grant, List.mem_append_right _ (List.mem_singleton_self _), here⟩

/-- A consumed flag that is cleared is a reset: the window stays reserved. -/
theorem TrackedAttempt.clear (reserved : consumed = true → log.Reserved) :
    TrackedAttempt { log with resets := if consumed then log.resets + 1 else log.resets } false
      attempt := by
  cases consumed with
  | false => exact tracked
  | true =>
      refine ⟨tracked.known, Nat.le_succ_of_le tracked.past, fun same => ?_,
        fun _ _ => reserved rfl⟩
      exact absurd tracked.past (by rw [same]; exact Nat.not_succ_le_self _)

end

namespace AcceptLoop

/-- No window was reserved twice, and each only by a connection of its own. -/
structure OnePerWindow (loop : AcceptLoop) : Prop where
  own : ∀ grant ∈ loop.log.grants, grant.window = some grant.task
  once : (loop.log.grants.map Grant.window).Nodup

/-- A connection that is granted the reservation was accepted after the flags were
last reset. -/
def GrantedInTime (self : AcceptLoop) : LoopLabel → Prop
  | .reserve index => ∀ attempt, self.attempts index = some attempt →
      self.pairingState.consumed = false → attempt.resets = self.log.resets
  | _ => True

/-- The open window is the one opened last; it stands beside a reservation of its own
only until the next look. -/
structure Tracked (loop : AcceptLoop) : Prop where
  opened : ∀ task, loop.pairingWindow = some task → loop.log.opened = some task
  active : loop.activePairingTask ≠ none →
    loop.pairingState.consumed = true ∧ loop.pairingState.transfer = false
  pending : loop.pairingState.transfer = true → loop.pairingState.consumed = true
  waiting : loop.pairingWindow ≠ none → loop.log.Reserved → loop.pairingState.transfer = true
  reserved : loop.pairingState.consumed = true → loop.log.Reserved
  openedKnown : ∀ task, loop.log.opened = some task →
    task.number < loop.log.received.length
  grantsKnown : ∀ grant ∈ loop.log.grants, ∀ task, grant.window = some task →
    task.number < loop.log.received.length
  attempts : ∀ index attempt, loop.attempts index = some attempt →
    TrackedAttempt loop.log loop.pairingState.consumed attempt

theorem tracked_started (now : ℕ) (peer : PeerState Text Text) : (started now peer).Tracked where
  opened _ found := by cases found
  active found := absurd rfl found
  pending found := by cases found
  waiting found := absurd rfl found
  reserved found := by cases found
  openedKnown _ found := by cases found
  grantsKnown _ found := by cases found
  attempts _ _ found := by cases found

/-! ## Steps that leave the log to the attempts -/

section Steps

variable {self : AcceptLoop}

variable {attempt : PairingAttempt}

variable (tracked : self.Tracked)
include tracked

theorem Tracked.setAttempt (index : ℕ)
    (there : TrackedAttempt self.log self.pairingState.consumed attempt) :
    (self.setAttempt index attempt).Tracked := by
  refine { tracked with attempts := fun other found here => ?_ }
  simp only [AcceptLoop.setAttempt, Function.update_apply] at here
  split at here
  · cases here
    exact there
  · exact tracked.attempts other found here

/-- A thread that goes on keeps its task and what it knows of the flags. -/
theorem Tracked.advance {index : ℕ} (found : self.attempts index = some attempt)
    (phase : AttemptPhase) : (self.setAttempt index { attempt with phase := phase }).Tracked := by
  have there := tracked.attempts index attempt found
  exact tracked.setAttempt index ⟨there.known, there.past, there.current, there.forgotten⟩

theorem Tracked.send (task : OwnerPairingTask) (update : TaskUpdate) :
    (self.send task update).Tracked :=
  { tracked with }

theorem Tracked.receive (task : OwnerPairingTask) : (self.receive task).Tracked := by
  have longer : self.log.received.length < (self.log.received ++ [task]).length := by simp
  refine { tracked with
    openedKnown := fun task opened => (tracked.openedKnown task opened).trans longer
    grantsKnown := fun grant member task here =>
      (tracked.grantsKnown grant member task here).trans longer
    attempts := fun index attempt found => ?_ }
  have there := tracked.attempts index attempt found
  exact { there with known := there.known.trans longer }

/-- The window that opens has not been reserved, and no connection knows its flags. -/
theorem Tracked.openWindow (commandId : Text) (deadline : ℕ) :
    ((self.receive (self.nextTask commandId deadline)).openWindow
      (self.nextTask commandId deadline)).Tracked := by
  have fresh : ∀ grant ∈ self.log.grants,
      grant.window ≠ some (self.nextTask commandId deadline) := fun grant member same =>
    Nat.lt_irrefl _ (tracked.grantsKnown grant member _ same)
  have received := tracked.receive (self.nextTask commandId deadline)
  refine ⟨fun task here => here, fun found => absurd rfl found, fun found => (by cases found),
    ?_, fun found => (by cases found), ?_, received.grantsKnown, ?_⟩
  · rintro - ⟨grant, member, same⟩
    exact absurd same (fresh grant member)
  · rintro task here
    cases here
    simp [AcceptLoop.openWindow, AcceptLoop.send, AcceptLoop.receive, nextTask]
  · intro index attempt found
    have before := tracked.attempts index attempt found
    have there := received.attempts index attempt found
    refine ⟨there.known, Nat.le_succ_of_le there.past, fun same => ?_, fun _ opened => ?_⟩
    · exact absurd there.past (by rw [same]; exact Nat.not_succ_le_self _)
    · have known := before.known
      rw [← Option.some.inj opened] at known
      exact absurd known (Nat.lt_irrefl _)

theorem Tracked.transferTask : self.transferTask.Tracked := by
  unfold AcceptLoop.transferTask
  split
  · rename_i moved
    have consumed := tracked.pending moved.1
    exact ⟨fun _ found => (by cases found), fun _ => ⟨consumed, rfl⟩, fun _ => consumed,
      fun found => absurd rfl found, tracked.reserved, tracked.openedKnown, tracked.grantsKnown,
      tracked.attempts⟩
  · exact tracked

/-- The look before has moved a reserved window away. -/
theorem Tracked.clearFinished (moved : self.pairingState.transfer = false) :
    self.clearFinished.Tracked := by
  unfold AcceptLoop.clearFinished
  split
  · refine ⟨tracked.opened, fun found => absurd rfl found, fun found => (by cases found),
      fun window reserved => ?_, fun found => (by cases found), tracked.openedKnown,
      tracked.grantsKnown, fun index attempt found => ?_⟩
    · exact absurd (tracked.waiting window reserved) (by rw [moved]; exact Bool.false_ne_true)
    · exact (tracked.attempts index attempt found).clear tracked.reserved
  · exact tracked

theorem transferTask_moved : self.transferTask.pairingState.transfer = false := by
  unfold AcceptLoop.transferTask
  split
  · rfl
  · rename_i still
    by_cases active : self.activePairingTask = none
    · exact Bool.eq_false_iff.mpr fun transfer => still ⟨transfer, active⟩
    · exact (tracked.active active).2

theorem Tracked.expireWindow : self.expireWindow.Tracked := by
  unfold AcceptLoop.expireWindow
  split
  · split
    · exact { tracked with
        opened := fun _ found => (by cases found)
        waiting := fun found => absurd rfl found }
    · exact tracked
  · exact tracked

theorem Tracked.dropInactive : self.dropInactive.Tracked := by
  unfold AcceptLoop.dropInactive
  split
  · exact tracked
  · exact { tracked with active := fun found => absurd rfl found }

/-- A connection that is accepted belongs to the open window. -/
theorem Tracked.accepted {task : OwnerPairingTask} (window : self.pairingWindow = some task) :
    TrackedAttempt self.log self.pairingState.consumed ⟨task, .exchanging, self.log.resets⟩ where
  known := tracked.openedKnown task (tracked.opened task window)
  past := Nat.le_refl _
  current _ := ⟨tracked.opened task window, fun reserved =>
    tracked.pending (tracked.waiting (by rw [window]; exact Option.some_ne_none task) reserved)⟩
  forgotten less := absurd less (Nat.lt_irrefl _)

end Steps

/-! ## Every step -/

variable {attempt : PairingAttempt} {label : LoopLabel}

/-- A granted reservation is noted, and no connection takes the flags for free. -/
theorem Tracked.grant {self : AcceptLoop} (tracked : self.Tracked) {index : ℕ}
    (found : self.attempts index = some attempt) (unconsumed : self.pairingState.consumed = false) :
    Tracked { self.setAttempt index { attempt with phase := .reserved } with
      pairingState := { self.pairingState with consumed := true, transfer := true }
      log := { self.log with
        grants := self.log.grants ++ [⟨self.log.opened, attempt.task⟩] } } := by
  have granted := tracked.advance found .reserved
  refine ⟨granted.opened, fun active => ?_, fun _ => rfl, fun _ _ => rfl, fun _ => ?_,
    granted.openedKnown, fun grant member task here => ?_, fun other waiting there => ?_⟩
  · exact absurd (tracked.active active).1 (by rw [unconsumed]; exact Bool.false_ne_true)
  · exact ⟨_, List.mem_append_right _ (List.mem_singleton_self _), rfl⟩
  · rcases List.mem_append.mp member with earlier | last
    · exact granted.grantsKnown grant earlier task here
    · rw [List.mem_singleton.mp last] at here
      exact granted.openedKnown task here
  · exact (granted.attempts other waiting there).consume _ rfl

theorem Tracked.look {self : AcceptLoop} (tracked : self.Tracked) :
    self.transferTask.clearFinished.expireWindow.dropInactive.Tracked :=
  (tracked.transferTask.clearFinished (transferTask_moved tracked)).expireWindow.dropInactive

theorem Tracked.step {self after : AcceptLoop} (tracked : self.Tracked)
    (moved : self.step label = some after) : after.Tracked := by
  cases moved_of_step moved with
  | tick elapsed => exact { tracked with }
  | changePeer peer => exact { tracked with }
  | refused commandId deadline => exact (tracked.receive _).send _ _
  | opened commandId deadline closed idle => exact tracked.openWindow commandId deadline
  | pairStart commandId deadline => exact (tracked.receive _).send _ _
  | runtimeShutdown => exact { tracked with }
  | looked => exact { tracked.look with }
  | accepted index task window free =>
      exact { tracked.setAttempt index (tracked.accepted window) with }
  | uncloned index task window => exact { tracked.send task .operationFailed with }
  | elsewhere => exact { tracked with }
  | inTime index attempt found exchanging => exact tracked.advance found _
  | busy index attempt found timely consumed => exact tracked.advance found _
  | granted index attempt found timely unconsumed => exact tracked.grant found unconsumed
  | asked index transaction authentication attempt found reserved =>
      exact (tracked.advance found _).send _ _
  | finished index completed attempt found holds update terminal =>
      exact (tracked.advance found _).send _ _
  | signalled index attempt found finished => exact { tracked.advance found .over with }
  | abandoned index attempt found early => exact tracked.advance found _

/-! ## Grants -/

theorem log_transferTask (self : AcceptLoop) : self.transferTask.log = self.log := by
  unfold AcceptLoop.transferTask
  split <;> rfl

theorem grants_clearFinished (self : AcceptLoop) :
    self.clearFinished.log.grants = self.log.grants := by
  unfold AcceptLoop.clearFinished
  split <;> rfl

theorem log_expireWindow (self : AcceptLoop) : self.expireWindow.log = self.log := by
  unfold AcceptLoop.expireWindow
  split
  · split <;> rfl
  · rfl

theorem log_dropInactive (self : AcceptLoop) : self.dropInactive.log = self.log := by
  unfold AcceptLoop.dropInactive
  split <;> rfl

theorem grants_look (self : AcceptLoop) :
    self.transferTask.clearFinished.expireWindow.dropInactive.log.grants = self.log.grants := by
  rw [log_dropInactive, log_expireWindow, grants_clearFinished, log_transferTask]

theorem onePerWindow_of_grants {self after : AcceptLoop} (same : after.log.grants = self.log.grants)
    (inTime : GrantedInTime self label) :
    after.OnePerWindow ↔ self.OnePerWindow ∧ GrantedInTime self label := by
  constructor
  · rintro ⟨own, once⟩
    exact ⟨⟨same ▸ own, same ▸ once⟩, inTime⟩
  · rintro ⟨⟨own, once⟩, -⟩
    exact ⟨same ▸ own, same ▸ once⟩

/-- A grant is in order exactly if the flags still are those of the accept. -/
theorem onePerWindow_grant {self after : AcceptLoop} (tracked : self.Tracked) {index : ℕ}
    (found : self.attempts index = some attempt) (unconsumed : self.pairingState.consumed = false)
    (grants : after.log.grants = self.log.grants ++ [⟨self.log.opened, attempt.task⟩]) :
    after.OnePerWindow ↔ self.OnePerWindow ∧ GrantedInTime self (.reserve index) := by
  have there := tracked.attempts index attempt found
  constructor
  · rintro ⟨own, once⟩
    rw [grants] at own once
    rw [List.map_append, List.nodup_append] at once
    have first : self.OnePerWindow :=
      ⟨fun grant member => own grant (List.mem_append_left _ member), once.1⟩
    refine ⟨first, fun other same _ => ?_⟩
    rw [found, Option.some.injEq] at same
    subst same
    apply Nat.le_antisymm there.past
    rw [← Nat.not_lt]
    intro behind
    obtain ⟨grant, member, twice⟩ := there.forgotten behind
      (own _ (List.mem_append_right _ (List.mem_singleton_self _)))
    exact once.2.2 grant.window (List.mem_map_of_mem member) self.log.opened
      (by simp) twice
  · rintro ⟨⟨own, once⟩, inTime⟩
    obtain ⟨window, reserved⟩ := there.current (inTime attempt found unconsumed)
    have fresh : ¬self.log.Reserved := fun earlier => by
      rw [reserved earlier] at unconsumed
      cases unconsumed
    constructor
    · rw [grants]
      intro grant member
      rcases List.mem_append.mp member with earlier | last
      · exact own grant earlier
      · rw [List.mem_singleton.mp last]
        exact window
    · rw [grants, List.map_append, List.nodup_append]
      refine ⟨once, List.pairwise_singleton _ _, ?_⟩
      rintro earlier member last here same
      rw [List.map_singleton, List.mem_singleton] at here
      obtain ⟨grant, granted, rfl⟩ := List.mem_map.mp member
      exact fresh ⟨grant, granted, same.trans here⟩

theorem step_onePerWindow {self after : AcceptLoop} (tracked : self.Tracked)
    (moved : self.step label = some after) :
    after.OnePerWindow ↔ self.OnePerWindow ∧ GrantedInTime self label := by
  cases moved_of_step moved with
  | granted index attempt found timely unconsumed =>
      exact onePerWindow_grant tracked found unconsumed rfl
  | busy index attempt found timely consumed =>
      have inTime : GrantedInTime self (.reserve index) := fun _ _ unconsumed => by
        rw [consumed] at unconsumed
        cases unconsumed
      exact onePerWindow_of_grants rfl inTime
  | looked => exact onePerWindow_of_grants (grants_look self) trivial
  | _ => exact onePerWindow_of_grants rfl trivial

/-- **Reservations of windows.** At the end of a run every window was reserved at most
once, and only by a connection accepted while it was open, if and only if no
connection was granted flags that had been reset since it was accepted. -/
theorem onePerWindow_iff_grantedInTime {past : List (AcceptLoop × LoopLabel)}
    {self : AcceptLoop} (run : machine.Run past self) :
    self.OnePerWindow ↔ StepSystem.Guarded GrantedInTime past := by
  apply run.holds_iff_guarded (I := Tracked)
  · rintro _ ⟨now, peer, rfl⟩
    exact ⟨tracked_started now peer, fun _ found => (by cases found), List.nodup_nil⟩
  · exact fun self label after tracked moved => tracked.step moved
  · exact fun self label after tracked moved => step_onePerWindow tracked moved

/-! ## Two connections of one window -/

/-- The first command, with a minute for it. -/
def firstTask : OwnerPairingTask := ⟨0, [], 60⟩

/-- Two connections are accepted and pass the deadline; the first one reserves. -/
def twoConnections : List LoopLabel :=
  [.pairingWindowOpen [] 60, .look, .accept 0 true, .look, .accept 1 true, .passDeadline 0,
    .passDeadline 1, .reserve 0, .look]

/-- The first one is over, and the loop has cleared the flags. -/
def firstOver : List LoopLabel :=
  twoConnections ++ [.finish 0 false, .signal 0, .noPairingConnection, .look]

theorem onePerWindow_iff_grantedInTime_first :
    ∃ past self, machine.Run past self ∧ StepSystem.Guarded GrantedInTime past ∧
      self.log.grants = [⟨some firstTask, firstTask⟩] := by
  have ran : (machine.execute (started 0 .unpaired) firstOver).map (fun self => self.log.grants) =
      some [⟨some firstTask, firstTask⟩] := by
    decide +kernel
  obtain ⟨past, self, run, grants⟩ := StepSystem.exists_run_of_map ran ⟨0, .unpaired, rfl⟩
  refine ⟨past, self, run, (onePerWindow_iff_grantedInTime run).mp ⟨?_, ?_⟩, grants⟩
  · simp [grants]
  · simp [grants]

/-- The second connection then reserves the same window again, or the next one, which
was opened in the meantime. -/
theorem reservation_after_reset :
    (∃ self, machine.Reachable self ∧ ¬self.OnePerWindow ∧
      self.log.grants = [⟨some firstTask, firstTask⟩, ⟨some firstTask, firstTask⟩]) ∧
    ∃ self, machine.Reachable self ∧ ¬self.OnePerWindow ∧
      self.log.grants = [⟨some firstTask, firstTask⟩, ⟨some ⟨1, [], 60⟩, firstTask⟩] := by
  have again : (machine.execute (started 0 .unpaired) (firstOver ++ [.reserve 1])).map
      (fun self => self.log.grants) =
        some [⟨some firstTask, firstTask⟩, ⟨some firstTask, firstTask⟩] := by
    decide +kernel
  have next : (machine.execute (started 0 .unpaired)
      (firstOver ++ [.noPairingConnection, .pairingWindowOpen [] 60, .reserve 1])).map
      (fun self => self.log.grants) =
        some [⟨some firstTask, firstTask⟩, ⟨some ⟨1, [], 60⟩, firstTask⟩] := by
    decide +kernel
  obtain ⟨twice, reachable, grants⟩ :=
    StepSystem.exists_reachable_of_map again ⟨0, .unpaired, rfl⟩
  obtain ⟨other, reachableOther, grantsOther⟩ :=
    StepSystem.exists_reachable_of_map next ⟨0, .unpaired, rfl⟩
  refine ⟨⟨twice, reachable, ?_, grants⟩, other, reachableOther, ?_, grantsOther⟩
  · rintro ⟨-, once⟩
    rw [grants] at once
    exact absurd once (by decide)
  · rintro ⟨own, -⟩
    rw [grantsOther] at own
    exact absurd (own _ (List.mem_cons_of_mem _ (List.mem_singleton_self _))) (by decide)

end AcceptLoop

end Deskkin.Host
