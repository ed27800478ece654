/-
# The owner control and the accept loop

The events of the owner control go to the accept loop in order, and the updates of the
loop and its threads go back through the channel of completions. A command is owed
updates by its worker, by its event as long as it waits, and then by the loop or by the
thread that reserved the window.
-/

import Deskkin.Host.PairingSlot
import Deskkin.Owner.PendingUpdates
import Mathlib.Data.List.Perm.Basic

namespace Deskkin.OwnerControl

open Host

/-- The clocks are one. -/
structure OwnerRuntime where
  control : ControlState
  loop : AcceptLoop

/-- The updates of tasks are those of the loop. -/
inductive RuntimeLabel
  | tick (elapsed : ℕ)
  | control (label : ControlState.ControlLabel)
  | loop (label : LoopLabel)
  deriving DecidableEq

namespace OwnerRuntime

/-- The oldest event that the loop has not received. -/
def nextEvent (self : OwnerRuntime) : Option PairingTask :=
  self.control.tasks[self.loop.log.received.length]?

/-- An event that is received is the oldest one. -/
def receives (self : OwnerRuntime) : LoopLabel → Bool
  | .tick _ => false
  | .pairingWindowOpen commandId deadline => self.nextEvent.any fun event =>
      event.kind = .pairingWindowOpen ∧ event.commandId = commandId ∧ event.deadline = deadline
  | .pairStart commandId deadline => self.nextEvent.any fun event =>
      event.kind ≠ .pairingWindowOpen ∧ event.commandId = commandId ∧ event.deadline = deadline
  | _ => true

def postAll (control : ControlState) (updates : List (OwnerPairingTask × TaskUpdate)) :
    ControlState :=
  updates.foldl (fun control sent => control.post sent.1.commandId (.ofUpdate sent.2)) control

def step (setup : OwnerSetup) (self : OwnerRuntime) : RuntimeLabel → Option OwnerRuntime
  | .tick elapsed =>
      some ⟨{ self.control with now := self.control.now + elapsed },
        { self.loop with now := self.loop.now + elapsed }⟩
  | .control (.tick _) | .control (.update _ _) => none
  | .control label =>
      (self.control.step setup label).map fun control => { self with control := control }
  | .loop label =>
      if self.receives label then
        (self.loop.step label).map fun loop =>
          ⟨postAll self.control (loop.updates.drop self.loop.updates.length), loop⟩
      else none

def started (now : ℕ) (actor : Option (PeerState Text Text)) (eventSender : Option EventReceiver)
    (peer : PeerState Text Text) : OwnerRuntime :=
  ⟨.started now actor eventSender, .started now peer⟩

def machine (setup : OwnerSetup) : StepSystem OwnerRuntime RuntimeLabel where
  Initial self := ∃ now actor eventSender peer, self = started now actor eventSender peer
  step := step setup

/-- No command is recorded under an id of the other kind, and the loop gives each window
to connections of its own. -/
def Undisturbed (setup : OwnerSetup) (self : OwnerRuntime) : RuntimeLabel → Prop
  | .control label => self.control.KeepsKinds setup label
  | .loop label => self.loop.OwnWindow label
  | .tick _ => True

instance (setup : OwnerSetup) (self : OwnerRuntime) (label : RuntimeLabel) :
    Decidable (Undisturbed setup self label) := by
  cases label <;> (unfold Undisturbed; infer_instance)

/-! ## Who owes updates -/

/-- The commands whose worker or event has not come to an end. -/
def owing (workers : List Worker) (tasks : List PairingTask) (received : ℕ) : List Text :=
  workers.map Worker.commandId ++ (tasks.drop received).map PairingTask.commandId

def waiting (self : OwnerRuntime) : List Text :=
  owing self.control.workers self.control.tasks self.loop.log.received.length

def Owes (self : OwnerRuntime) (id : Text) : Prop := id ∈ self.waiting ∨ self.loop.Owed id

/-- At most one of them owes updates to a command. -/
structure Orderly (setup : OwnerSetup) (runtime : OwnerRuntime) : Prop where
  sound : runtime.control.Sound
  named : runtime.control.Named setup
  engagement : runtime.loop.Engagement
  received : runtime.loop.log.received.length ≤ runtime.control.tasks.length
  pending : runtime.control.Pending runtime.Owes
  apart : runtime.waiting.Nodup
  slot : ∀ id, runtime.loop.Owed id → id ∉ runtime.waiting

theorem orderly_started {setup : OwnerSetup} (now : ℕ) (actor : Option (PeerState Text Text))
    (eventSender : Option EventReceiver) (peer : PeerState Text Text) :
    (started now actor eventSender peer).Orderly setup := by
  have free : ∀ id, ¬(AcceptLoop.started now peer).Owed id := by
    rintro id (⟨task, window, -⟩ | ⟨index, attempt, found, -⟩)
    · cases window
    · cases found
  refine ⟨ControlState.sound_started now actor eventSender, ⟨List.nodup_nil, ?_, ?_⟩,
    AcceptLoop.engagement_started now peer, Nat.le_refl _, ⟨?_, ?_, List.Pairwise.nil, ?_⟩,
    List.nodup_nil, fun id owed => absurd owed (free id)⟩
  · exact fun _ member => (by cases member)
  · exact fun _ member => (by cases member)
  · rintro id (member | owed)
    · cases member
    · exact absurd owed (free id)
  · exact fun _ member => (by cases member)
  · exact fun _ member => (by cases member)

section Steps

variable {setup : OwnerSetup} {self : OwnerRuntime}

/-! ## The control -/

variable {control : ControlState} {tasks : List PairingTask} {task changed : PairingTask}
  {index : ℕ} {command : OwnerCommand} {workers : List Worker} {record : CommandRecord}

variable (orderly : self.Orderly setup)
include orderly

/-- The control goes on, and the same commands wait. -/
theorem Orderly.keep (sound : control.Sound) (named : control.Named setup)
    (pending : control.Pending self.Owes) (same : control.workers = self.control.workers)
    (tasks : control.tasks.map PairingTask.commandId =
      self.control.tasks.map PairingTask.commandId) :
    Orderly setup { self with control := control } := by
  have waiting : OwnerRuntime.waiting { self with control := control } = self.waiting := by
    show owing _ _ _ = owing _ _ _
    rw [owing, owing, same, List.map_drop, List.map_drop, tasks]
  have lengths := congrArg List.length tasks
  rw [List.length_map, List.length_map] at lengths
  refine ⟨sound, named, orderly.engagement, lengths.symm ▸ orderly.received, ?_,
    waiting.symm ▸ orderly.apart, fun id owed => waiting.symm ▸ orderly.slot id owed⟩
  apply pending.mono
  rintro id (member | owed)
  · exact Or.inl (waiting ▸ member)
  · exact Or.inr owed

omit orderly in
theorem map_commandId_set (found : tasks[index]? = some task)
    (named : changed.commandId = task.commandId) :
    (tasks.set index changed).map PairingTask.commandId = tasks.map PairingTask.commandId := by
  obtain ⟨inside, there⟩ := List.getElem?_eq_some_iff.mp found
  apply List.ext_getElem?
  intro other
  rw [List.getElem?_map, List.getElem?_map]
  by_cases same : index = other
  · subst same
    rw [List.getElem?_set_self inside, found, Option.map_some, Option.map_some, named]
  · rw [List.getElem?_set_ne same]

theorem Orderly.setTask (found : self.control.tasks[index]? = some task)
    (named : changed.commandId = task.commandId)
    (empty : task.decisions = [] → changed.decisions = []) :
    Orderly setup { self with
      control := { self.control with tasks := self.control.tasks.set index changed } } := by
  apply orderly.keep (orderly.sound.setTask found empty) { orderly.named with }
    { orderly.pending with } rfl
  exact map_commandId_set found named

/-- One that waited has sent its last update. -/
theorem Orderly.answered {loop : AcceptLoop} {id : Text} (sound : control.Sound)
    (named : control.Named setup) (engagement : loop.Engagement)
    (received : loop.log.received.length ≤ control.tasks.length)
    (pending : control.Pending fun other => self.Owes other ∧ other ≠ id) (perm : self.waiting.Perm
      (id :: owing control.workers control.tasks loop.log.received.length))
    (owed : ∀ id, loop.Owed id → self.loop.Owed id) : Orderly setup ⟨control, loop⟩ := by
  have apart := perm.nodup_iff.mp orderly.apart
  rw [List.nodup_cons] at apart
  refine ⟨sound, named, engagement, received, pending.mono ?_, apart.2,
    fun other later member => ?_⟩
  · rintro other (member | later)
    · refine ⟨Or.inl (perm.mem_iff.mpr (List.mem_cons_of_mem _ member)), ?_⟩
      rintro rfl
      exact apart.1 member
    · refine ⟨Or.inr (owed other later), ?_⟩
      rintro rfl
      exact orderly.slot _ (owed _ later) (perm.mem_iff.mpr List.mem_cons_self)
  · exact orderly.slot other (owed other later)
      (perm.mem_iff.mpr (List.mem_cons_of_mem _ member))

/-- A worker sends its completion and is gone. -/
theorem Orderly.workerDone {worker : Worker} (found : self.control.workers[index]? = some worker)
    (response : OwnerResponse) :
    Orderly setup { self with
      control := ControlState.post
        { self.control with workers := self.control.workers.eraseIdx index }
        worker.commandId response } := by
  obtain ⟨inside, there⟩ := List.getElem?_eq_some_iff.mp found
  have split : (self.control.workers.map Worker.commandId).Perm
      (worker.commandId :: (self.control.workers.eraseIdx index).map Worker.commandId) := by
    rw [← there, ← List.map_cons]
    exact (List.getElem_cons_eraseIdx_perm inside).symm.map _
  have perm : self.waiting.Perm (worker.commandId :: owing (self.control.workers.eraseIdx index)
      self.control.tasks self.loop.log.received.length) :=
    split.append_right _
  have due : self.Owes worker.commandId := Or.inl (perm.mem_iff.mpr List.mem_cons_self)
  have final := orderly.pending.post_final due response
  exact orderly.answered { orderly.sound with } { orderly.named with } orderly.engagement
    orderly.received { final with } perm fun id owed => owed

omit orderly in
/-- The id of an accepted command waits, unless it failed at once. -/
theorem waiting_enter (received : self.loop.log.received.length ≤ self.control.tasks.length)
    {commandId : Text}
    (entered : ControlState.Entered self.control command commandId record workers tasks) :
    (owing workers tasks self.loop.log.received.length).Perm
      ((if record.completedAt = none then [commandId] else []) ++ self.waiting) := by
  cases entered with
  | worker operation =>
      show (owing _ _ _).Perm ([commandId] ++ owing _ _ _)
      rw [owing, owing, List.map_append, List.append_assoc, ← List.append_assoc]
      exact List.perm_append_comm.append_right _ |>.trans (by rw [List.append_assoc]; rfl)
  | failed => exact List.Perm.refl _
  | task kind =>
      show (owing _ _ _).Perm ([commandId] ++ owing _ _ _)
      rw [owing, owing, List.drop_append_of_le_length received, List.map_append,
        ← List.append_assoc]
      exact List.perm_append_comm

/-- A command that is accepted owes its updates to nobody else. -/
theorem Orderly.enter (quiet : self.control.completions = []) {commandId : Text}
    (fresh : ∀ record ∈ self.control.table, record.id ≠ commandId)
    (sound : (self.control.enter command record workers tasks).Sound)
    (named : (self.control.enter command record workers tasks).Named setup)
    (entered : ControlState.Entered self.control command commandId record workers tasks) :
    Orderly setup { self with control := self.control.enter command record workers tasks } := by
  have unowed : ¬self.Owes commandId := by
    intro owed
    obtain ⟨other, member, same, -⟩ := (orderly.pending.due commandId owed).1
    exact fresh other member same
  have perm := waiting_enter orderly.received entered
  have more : ∀ id, id ∈ owing workers tasks self.loop.log.received.length →
      id ∈ self.waiting ∨ id = commandId ∧ record.completedAt = none := by
    intro id member
    rcases List.mem_append.mp (perm.mem_iff.mp member) with new | old
    · split at new
      · rename_i open_
        exact Or.inr ⟨List.mem_singleton.mp new, open_⟩
      · cases new
    · exact Or.inl old
  have length : self.control.tasks.length ≤ tasks.length := by
    cases entered with
    | task kind =>
        rw [List.length_append]
        exact Nat.le_add_right _ _
    | _ => exact Nat.le_refl _
  refine ⟨sound, named, orderly.engagement, orderly.received.trans length,
    (orderly.pending.enter quiet entered).mono ?_, perm.nodup_iff.mpr ?_, fun id owed member => ?_⟩
  · rintro id (member | owed)
    · rcases more id member with old | new
      · exact Or.inl (Or.inl old)
      · exact Or.inr new
    · exact Or.inl (Or.inr owed)
  · split
    · exact List.nodup_cons.mpr ⟨fun member => unowed (Or.inl member), orderly.apart⟩
    · exact orderly.apart
  · rcases more id member with old | ⟨rfl, -⟩
    · exact orderly.slot id owed old
    · exact unowed (Or.inr owed)

theorem Orderly.settled : Orderly setup { self with control := self.control.settled } :=
  orderly.keep orderly.sound.settled orderly.named.settled orderly.pending.settled rfl rfl

theorem Orderly.handled (quiet : self.control.completions = [])
    (guarded : ¬(self.control.Admissible setup command ∧ self.control.Crossing command))
    (handled : ControlState.Handled setup self.control command control) :
    Orderly setup { self with control := control } := by
  have sound := orderly.sound.handled handled
  have named := orderly.named.handled guarded handled
  cases handled with
  | kept => exact orderly
  | accepted commandId record workers tasks ordinary valid fresh room able entered =>
      exact orderly.enter quiet fresh sound named entered
  | decided commandId transaction confirmed parent tasks response asked deciding valid fresh found
      first prompt delivered =>
      apply orderly.keep sound named orderly.pending.recordDecision rfl
      cases delivered with
      | refused => rfl
      | accepted sender task channel there empty =>
          exact map_commandId_set there rfl

theorem Orderly.controlled {label : ControlState.ControlLabel}
    (guarded : self.control.KeepsKinds setup label)
    (moved : self.control.step setup label = some control)
    (still : ∀ elapsed, label ≠ .tick elapsed)
    (silent : ∀ index update, label ≠ .update index update) :
    Orderly setup { self with control := control } := by
  cases label with
  | tick elapsed => exact absurd rfl (still elapsed)
  | update index update => exact absurd rfl (silent index update)
  | changePeer peer =>
      cases moved
      exact orderly.keep { orderly.sound with } { orderly.named with }
        { orderly.pending with } rfl rfl
  | closeEvents =>
      cases moved
      exact orderly.keep { orderly.sound with } { orderly.named with }
        { orderly.pending with } rfl rfl
  | command command =>
      obtain ⟨done, handled, rfl⟩ := ControlState.handled_of_serve orderly.sound moved
      have after := orderly.settled.handled rfl guarded
        (ControlState.handled_of_handleCommand handled)
      exact after.keep (after.sound.answer _ _) { after.named with } { after.pending with } rfl rfl
  | workerDone index succeeded =>
      obtain ⟨worker, found, rfl⟩ := Option.map_eq_some_iff.mp moved
      exact orderly.workerDone found _
  | receive index =>
      obtain ⟨task, found, held, same⟩ := ControlState.withTask_eq_some moved
      cases same
      refine @Orderly.setTask _ _ task _ index orderly found rfl fun none => ?_
      rw [none]
      rfl
  | release index =>
      obtain ⟨task, found, held, same⟩ := ControlState.withTask_eq_some moved
      cases same
      exact orderly.setTask found rfl id

/-! ## The loop -/

omit orderly in
theorem event_of_receives {label : LoopLabel} {id : Text} (received : self.receives label = true)
    (named : label.commandId = some id) :
    ∃ event, self.control.tasks[self.loop.log.received.length]? = some event ∧
      event.commandId = id := by
  cases label with
  | pairingWindowOpen commandId deadline =>
      cases named
      obtain ⟨event, found, fits⟩ := (Option.any_eq_true _ _).mp received
      simp only [decide_eq_true_eq] at fits
      exact ⟨event, found, fits.2.1⟩
  | pairStart commandId deadline =>
      cases named
      obtain ⟨event, found, fits⟩ := (Option.any_eq_true _ _).mp received
      simp only [decide_eq_true_eq] at fits
      exact ⟨event, found, fits.2.1⟩
  | _ => cases named

omit orderly in
/-- An event that is received does not wait any more. -/
theorem waiting_receive {event : PairingTask} {received : ℕ} {workers : List Worker}
    {tasks : List PairingTask} (found : tasks[received]? = some event) :
    (owing workers tasks received).Perm
      (event.commandId :: owing workers tasks (received + 1)) := by
  obtain ⟨inside, there⟩ := List.getElem?_eq_some_iff.mp found
  rw [owing, owing, List.drop_eq_getElem_cons inside, there, List.map_cons]
  exact List.perm_middle

/-- The loop answers a command, or an event is received and answered. -/
theorem Orderly.loop {label : LoopLabel} (guarded : self.loop.OwnWindow label)
    (received : self.receives label = true) {loop : AcceptLoop}
    (moved : self.loop.step label = some loop) :
    Orderly setup
      ⟨postAll self.control (loop.updates.drop self.loop.updates.length), loop⟩ := by
  have engagement := orderly.engagement.step guarded moved
  cases orderly.engagement.effect guarded moved with
  | silent same updates owed =>
      have waiting : OwnerRuntime.waiting ⟨self.control, loop⟩ = self.waiting := by
        rw [OwnerRuntime.waiting, same]
        rfl
      rw [updates, List.drop_length]
      refine ⟨orderly.sound, orderly.named, engagement, same ▸ orderly.received,
        orderly.pending.mono ?_, waiting.symm ▸ orderly.apart, fun id later => ?_⟩
      · rintro id (member | later)
        · exact Or.inl (waiting ▸ member)
        · exact Or.inr (owed id later)
      · exact waiting.symm ▸ orderly.slot id (owed id later)
  | ongoing task update same updates open_ due owed =>
      have waiting : ∀ control, control.workers = self.control.workers →
          control.tasks = self.control.tasks →
          OwnerRuntime.waiting ⟨control, loop⟩ = self.waiting := by
        intro control workers tasks
        rw [OwnerRuntime.waiting, same, workers, tasks]
        rfl
      rw [updates, List.drop_left]
      have ongoing : (OwnerResponse.ofUpdate update).ongoing = true := by
        cases update <;> first | rfl | cases open_
      refine ⟨{ orderly.sound with }, { orderly.named with }, engagement, same ▸ orderly.received,
        (orderly.pending.post_ongoing (Or.inr due) ongoing).mono ?_,
        (waiting _ rfl rfl).symm ▸ orderly.apart, fun id later => ?_⟩
      · rintro id (member | later)
        · exact Or.inl (waiting _ rfl rfl ▸ member)
        · exact Or.inr (owed id later)
      · exact (waiting _ rfl rfl).symm ▸ orderly.slot id (owed id later)
  | final task update same updates due owed =>
      have waiting : OwnerRuntime.waiting
          ⟨self.control.post task.commandId (.ofUpdate update), loop⟩ = self.waiting := by
        rw [OwnerRuntime.waiting, same]
        rfl
      rw [updates, List.drop_left]
      refine ⟨{ orderly.sound with }, { orderly.named with }, engagement, same ▸ orderly.received,
        (orderly.pending.post_final (Or.inr due) _).mono ?_, waiting.symm ▸ orderly.apart,
        fun id later => absurd later (owed id)⟩
      rintro id (member | later)
      · have here : id ∈ self.waiting := waiting ▸ member
        refine ⟨Or.inl here, ?_⟩
        rintro rfl
        exact orderly.slot _ due here
      · exact absurd later (owed id)
  | refused task event same updates owed =>
      obtain ⟨next, found, named⟩ := event_of_receives received event
      have length : loop.log.received.length = self.loop.log.received.length + 1 := by
        rw [same, List.length_append, List.length_singleton]
      have perm := @waiting_receive _ _ self.control.workers _ found
      rw [named, ← length] at perm
      have due : self.Owes task.commandId := Or.inl (perm.mem_iff.mpr List.mem_cons_self)
      have inside := (List.getElem?_eq_some_iff.mp found).1
      rw [updates, List.drop_left]
      exact orderly.answered { orderly.sound with } { orderly.named with } engagement
        (length.symm ▸ inside) (orderly.pending.post_final due _) perm owed
  | opened task event same updates owed =>
      obtain ⟨next, found, named⟩ := event_of_receives received event
      have length : loop.log.received.length = self.loop.log.received.length + 1 := by
        rw [same, List.length_append, List.length_singleton]
      have perm := @waiting_receive _ _ self.control.workers _ found
      rw [named, ← length] at perm
      have apart := perm.nodup_iff.mp orderly.apart
      rw [List.nodup_cons] at apart
      have due : self.Owes task.commandId := Or.inl (perm.mem_iff.mpr List.mem_cons_self)
      have inside := (List.getElem?_eq_some_iff.mp found).1
      rw [updates, List.drop_left]
      refine ⟨{ orderly.sound with }, { orderly.named with }, engagement, length.symm ▸ inside,
        (orderly.pending.post_ongoing due rfl).mono ?_, apart.2, fun id later member => ?_⟩
      · rintro id (member | later)
        · exact Or.inl (perm.mem_iff.mpr (List.mem_cons_of_mem _ member))
        · exact owed id later ▸ due
      · exact apart.1 (owed id later ▸ member)

theorem Orderly.step {label : RuntimeLabel} (guarded : Undisturbed setup self label)
    {after : OwnerRuntime} (moved : self.step setup label = some after) : after.Orderly setup := by
  cases label with
  | tick elapsed =>
      cases moved
      exact ⟨{ orderly.sound with }, { orderly.named with }, { orderly.engagement with },
        orderly.received, { orderly.pending with }, orderly.apart, orderly.slot⟩
  | control label =>
      have same : (self.control.step setup label).map (fun control =>
          ({ self with control := control } : OwnerRuntime)) = some after ∧
          (∀ elapsed, label ≠ .tick elapsed) ∧ ∀ index update, label ≠ .update index update := by
        cases label with
        | tick elapsed => cases moved
        | update index update => cases moved
        | _ => exact ⟨moved, by simp, by simp⟩
      obtain ⟨control, stepped, rfl⟩ := Option.map_eq_some_iff.mp same.1
      exact orderly.controlled guarded stepped same.2.1 same.2.2
  | loop label =>
      simp only [OwnerRuntime.step, Option.ite_none_right_eq_some] at moved
      obtain ⟨received, moved⟩ := moved
      obtain ⟨loop, stepped, rfl⟩ := Option.map_eq_some_iff.mp moved
      exact orderly.loop guarded received stepped

end Steps

end OwnerRuntime

end Deskkin.OwnerControl
