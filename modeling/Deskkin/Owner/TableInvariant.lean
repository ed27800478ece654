/-
# The invariant of the command table

The table is bounded, its ids are distinct, and only completed records leave it. A
record takes one decision, and the sender of that decision is its own, so the place in
the channel is still free when the decision is sent.
-/

import Deskkin.Owner.CommandTable
import Mathlib.Data.List.Nodup
import Mathlib.Data.List.Pairwise

namespace Deskkin.OwnerControl

/-! ## The first record under an id -/

section Modify

variable {id : Text} {change : CommandRecord → CommandRecord} {table : List CommandRecord}

theorem map_modifyRecord {β : Type} {f : CommandRecord → β}
    (keeps : ∀ record, f (change record) = f record) :
    (modifyRecord id change table).map f = table.map f := by
  induction table with
  | nil => rfl
  | cons record records ih =>
      rw [modifyRecord]
      split
      · rw [List.map_cons, keeps, List.map_cons]
      · rw [List.map_cons, ih, List.map_cons]

theorem filterMap_modifyRecord {β : Type} {f : CommandRecord → Option β}
    (keeps : ∀ record, f (change record) = f record) :
    (modifyRecord id change table).filterMap f = table.filterMap f := by
  have same : (modifyRecord id change table).map f = table.map f := map_modifyRecord keeps
  have values : ∀ records : List CommandRecord,
      records.filterMap f = (records.map f).filterMap fun value => value := by
    intro records
    rw [List.filterMap_map]
    rfl
  rw [values, same, ← values]

/-- Where the ids are distinct the first record is the only one. -/
theorem modifyRecord_eq_map (distinct : (table.map CommandRecord.id).Nodup) :
    modifyRecord id change table =
      table.map fun record => if record.id = id then change record else record := by
  induction table with
  | nil => rfl
  | cons record records ih =>
      rw [List.map_cons, List.nodup_cons] at distinct
      rw [modifyRecord, List.map_cons]
      split
      · rename_i same
        congr 1
        symm
        rw [List.map_congr_left, List.map_id]
        intro other member
        rw [if_neg, id_eq]
        intro again
        apply distinct.1
        rw [same, ← again]
        exact List.mem_map_of_mem member
      · rw [ih distinct.2]

theorem mem_modifyRecord {record : CommandRecord} (member : record ∈ modifyRecord id change table) :
    record ∈ table ∨ ∃ before ∈ table, before.id = id ∧ record = change before := by
  induction table with
  | nil => cases member
  | cons first records ih =>
      rw [modifyRecord] at member
      split at member
      · rename_i same
        rcases List.mem_cons.mp member with here | later
        · exact Or.inr ⟨first, List.mem_cons_self, same, here⟩
        · exact Or.inl (List.mem_cons_of_mem _ later)
      · rcases List.mem_cons.mp member with here | later
        · exact Or.inl (here ▸ List.mem_cons_self)
        · rcases ih later with there | ⟨before, there, named, same⟩
          · exact Or.inl (List.mem_cons_of_mem _ there)
          · exact Or.inr ⟨before, List.mem_cons_of_mem _ there, named, same⟩

/-- Where the ids are distinct the record that is changed is known. -/
theorem mem_modifyRecord_of_mem (distinct : (table.map CommandRecord.id).Nodup)
    {record parent : CommandRecord} (found : parent ∈ table)
    (member : record ∈ modifyRecord parent.id change table) :
    record = change parent ∨ record ∈ table ∧ record.id ≠ parent.id := by
  rw [modifyRecord_eq_map distinct, List.mem_map] at member
  obtain ⟨before, there, same⟩ := member
  split at same
  · rename_i named
    rw [List.inj_on_of_nodup_map distinct there found named] at same
    exact Or.inl same.symm
  · rename_i other
    rw [← same]
    exact Or.inr ⟨there, other⟩

end Modify

/-! ## The log -/

namespace LogEntry

def acceptedCommand : LogEntry → Option OwnerCommand
  | .accepted command => some command
  | _ => none

def evictedRecord : LogEntry → Option CommandRecord
  | .evicted record => some record
  | _ => none

/-- The task whose decision was accepted. -/
def decidedTask : LogEntry → Option ℕ
  | .decided record _ result =>
      if result.response = .pairingDecisionAccepted then record.decision else none
  | _ => none

end LogEntry

theorem filterMap_evictions {β : Type} {read : LogEntry → Option β} {log : List LogEntry}
    (records : List CommandRecord) (skipped : ∀ record, read (.evicted record) = none) :
    (log ++ records.map LogEntry.evicted).filterMap read = log.filterMap read := by
  apply List.filterMap_append_of_none
  intro entry member
  obtain ⟨record, _, rfl⟩ := List.mem_map.mp member
  exact skipped record

namespace ControlState

def accepted (self : ControlState) : List OwnerCommand :=
  self.log.filterMap LogEntry.acceptedCommand

def evicted (self : ControlState) : List CommandRecord := self.log.filterMap LogEntry.evictedRecord

def decidedTasks (self : ControlState) : List ℕ := self.log.filterMap LogEntry.decidedTask

/-- The invariant. -/
structure Sound (control : ControlState) : Prop where
  few : control.table.length ≤ tableMax
  distinct : (control.table.map CommandRecord.id).Nodup
  completed : ∀ record ∈ control.table, record.completedAt ≠ none → record.Terminal
  evicted : ∀ record ∈ control.evicted, record.Terminal
  kept : control.accepted.Perm
    (control.table.map CommandRecord.command ++ control.evicted.map CommandRecord.command)
  channels : (control.table.filterMap CommandRecord.decision).Nodup
  known : ∀ record ∈ control.table, ∀ sender ∈ record.decision, sender < control.tasks.length
  empty : ∀ record ∈ control.table, record.decisionResults = [] → ∀ sender ∈ record.decision,
    sender ∉ control.decidedTasks ∧ ∀ task ∈ control.tasks[sender]?, task.decisions = []
  once : control.decidedTasks.Nodup
  past : ∀ sender ∈ control.decidedTasks, sender < control.tasks.length
  prompts : ∀ record transaction result, .decided record transaction result ∈ control.log →
    record.prompt = some transaction ∧
      (result.response = .pairingDecisionAccepted → record.decision ≠ none)
  free : control.blocked = false

theorem sound_started (now : ℕ) (peer : Option (PeerState Text Text))
    (eventSender : Option EventReceiver) : (started now peer eventSender).Sound where
  few := Nat.zero_le _
  distinct := List.nodup_nil
  completed _ member := by cases member
  evicted _ member := by cases member
  kept := List.Perm.refl _
  channels := List.nodup_nil
  known _ member := by cases member
  empty _ member := by cases member
  once := List.nodup_nil
  past _ member := by cases member
  prompts _ _ _ member := by cases member
  free := rfl

section Steps

variable {self : ControlState}

/-! ## Completions and expiry -/

theorem terminal_withResponse {record : CommandRecord} {response : OwnerResponse} {time : ℕ}
    (completed : (record.withResponse response time).completedAt ≠ none) :
    (record.withResponse response time).Terminal := by
  refine ⟨response, rfl, ?_⟩
  rw [CommandRecord.withResponse] at completed
  cases ongoing : response.ongoing with
  | false => rfl
  | true => simp [ongoing] at completed

theorem Sound.complete (sound : self.Sound) (completion : Completion) :
    Sound { self with table := complete self.table completion } := by
  have same : ∀ {β : Type} (f : CommandRecord → β), (∀ record : CommandRecord,
      f (record.withResponse completion.response completion.completedAt) = f record) →
      (ControlState.complete self.table completion).map f = self.table.map f :=
    fun f keeps => map_modifyRecord keeps
  have ids := same CommandRecord.id fun _ => rfl
  have senders : (ControlState.complete self.table completion).filterMap CommandRecord.decision =
      self.table.filterMap CommandRecord.decision :=
    filterMap_modifyRecord fun _ => rfl
  have old : ∀ record ∈ ControlState.complete self.table completion, ∃ before ∈ self.table,
      record.decision = before.decision ∧ record.decisionResults = before.decisionResults := by
    intro record member
    rcases mem_modifyRecord member with there | ⟨before, there, -, rfl⟩
    · exact ⟨record, there, rfl, rfl⟩
    · exact ⟨before, there, rfl, rfl⟩
  refine { sound with
    few := ?_
    distinct := ?_
    completed := fun record member done => ?_
    kept := ?_
    channels := ?_
    known := fun record member sender there => ?_
    empty := fun record member none sender there => ?_ }
  · have lengths := congrArg List.length ids
    rw [List.length_map, List.length_map] at lengths
    exact lengths ▸ sound.few
  · exact ids ▸ sound.distinct
  · rcases mem_modifyRecord member with there | ⟨before, there, -, rfl⟩
    · exact sound.completed record there done
    · exact terminal_withResponse done
  · rw [same CommandRecord.command fun _ => rfl]
    exact sound.kept
  · exact senders ▸ sound.channels
  · obtain ⟨before, earlier, decision, -⟩ := old record member
    rw [decision] at there
    exact sound.known before earlier sender there
  · obtain ⟨before, earlier, decision, results⟩ := old record member
    rw [decision] at there
    rw [results] at none
    exact sound.empty before earlier none sender there

theorem Sound.applyCompletions (sound : self.Sound) : self.applyCompletions.Sound := by
  have all : ∀ completions : List Completion, ∀ {table : List CommandRecord},
      Sound { self with table := table } →
      Sound { self with table := completions.foldl ControlState.complete table } := by
    intro completions
    induction completions with
    | nil => exact fun sound => sound
    | cons completion completions ih => exact fun sound => ih (sound.complete completion)
  exact { all self.completions sound with }

theorem accepted_expireTerminal (self : ControlState) :
    self.expireTerminal.accepted = self.accepted :=
  filterMap_evictions _ fun _ => rfl

theorem decidedTasks_expireTerminal (self : ControlState) :
    self.expireTerminal.decidedTasks = self.decidedTasks :=
  filterMap_evictions _ fun _ => rfl

theorem evicted_expireTerminal (self : ControlState) : self.expireTerminal.evicted =
    self.evicted ++ self.table.filter fun record => !self.recent record := by
  rw [ControlState.evicted, ControlState.expireTerminal, List.filterMap_append, List.filterMap_map]
  congr 1
  exact List.filterMap_some

theorem Sound.expireTerminal (sound : self.Sound) : self.expireTerminal.Sound := by
  have kept : (self.table.filter self.recent).Sublist self.table := List.filter_sublist
  refine ⟨kept.length_le.trans sound.few, sound.distinct.sublist (kept.map _),
    fun record member => sound.completed record (kept.subset member), ?_, ?_,
    sound.channels.sublist (kept.filterMap _),
    fun record member => sound.known record (kept.subset member), ?_, ?_, ?_, ?_, sound.free⟩
  · intro record member
    rw [evicted_expireTerminal] at member
    rcases List.mem_append.mp member with earlier | now
    · exact sound.evicted record earlier
    · obtain ⟨there, expired⟩ := List.mem_filter.mp now
      apply sound.completed record there
      intro running
      rw [recent, running] at expired
      cases expired
  · rw [accepted_expireTerminal, evicted_expireTerminal, List.map_append]
    have split : (self.table.map CommandRecord.command).Perm
        ((self.table.filter self.recent).map CommandRecord.command ++
          (self.table.filter fun record => !self.recent record).map CommandRecord.command) := by
      rw [← List.map_append]
      exact ((List.filter_append_perm self.recent self.table).map _).symm
    apply sound.kept.trans
    apply (split.append_right _).trans
    rw [List.append_assoc]
    exact List.Perm.append_left _ List.perm_append_comm
  · intro record member none sender there
    rw [decidedTasks_expireTerminal]
    exact sound.empty record (kept.subset member) none sender there
  · rw [decidedTasks_expireTerminal]
    exact sound.once
  · rw [decidedTasks_expireTerminal]
    exact sound.past
  · intro record transaction result member
    rcases List.mem_append.mp member with earlier | now
    · exact sound.prompts record transaction result earlier
    · obtain ⟨other, there, impossible⟩ := List.mem_map.mp now
      cases impossible

/-! ## Acceptance and decisions -/

section Entering

variable {command : OwnerCommand} {commandId : Text} {record : CommandRecord}
  {workers : List Worker} {tasks : List PairingTask}

section

variable (entered : Entered self command commandId record workers tasks)
include entered

/-- The record is the one of the command, and has its final response when it is completed. -/
theorem Entered.named :
    record.id = commandId ∧ record.command = command ∧
      (record.completedAt ≠ none → record.Terminal) := by
  cases entered with
  | worker operation => exact ⟨rfl, rfl, fun done => absurd rfl done⟩
  | failed => exact ⟨rfl, rfl, fun _ => ⟨.operationFailed, rfl, rfl⟩⟩
  | task kind => exact ⟨rfl, rfl, fun done => absurd rfl done⟩

/-- The earlier tasks stay as they are. -/
theorem Entered.more :
    self.tasks.length ≤ tasks.length ∧
      ∀ index < self.tasks.length, tasks[index]? = self.tasks[index]? := by
  cases entered with
  | task kind =>
      refine ⟨by rw [List.length_append]; exact Nat.le_add_right _ _, fun index inside => ?_⟩
      exact List.getElem?_append_left inside
  | _ => exact ⟨Nat.le_refl _, fun _ _ => rfl⟩

/-- A new sender is that of a new task, which has no decision yet. -/
theorem Entered.own {sender : ℕ} (here : sender ∈ record.decision) :
    sender = self.tasks.length ∧ sender < tasks.length ∧
      ∀ task ∈ tasks[sender]?, task.decisions = [] := by
  cases entered with
  | task kind =>
      cases here
      refine ⟨rfl, by simp, fun task there => ?_⟩
      rw [List.getElem?_concat_length] at there
      cases there
      rfl
  | _ => cases here

end

theorem Sound.enter_channels (sound : self.Sound)
    (entered : Entered self command commandId record workers tasks) :
    ((self.table ++ [record]).filterMap CommandRecord.decision).Nodup := by
  rw [List.filterMap_append]
  cases here : record.decision with
  | none =>
      rw [List.filterMap_cons_none here, List.filterMap_nil, List.append_nil]
      exact sound.channels
  | some sender =>
      rw [List.filterMap_cons_some here, List.filterMap_nil, List.nodup_append]
      refine ⟨sound.channels, List.pairwise_singleton _ _, ?_⟩
      rintro earlier member last mine rfl
      obtain ⟨other, there, same⟩ := List.mem_filterMap.mp member
      have before := sound.known other there _ same
      rw [List.mem_singleton.mp mine, (entered.own here).1] at before
      exact Nat.lt_irrefl _ before

theorem Sound.enter (sound : self.Sound)
    (fresh : ∀ record ∈ self.table, record.id ≠ commandId) (room : self.table.length < tableMax)
    (entered : Entered self command commandId record workers tasks) :
    (self.enter command record workers tasks).Sound := by
  obtain ⟨sameId, sameCommand, terminal⟩ := entered.named
  have accepted : (self.enter command record workers tasks).accepted =
      self.accepted ++ [command] := by
    rw [ControlState.accepted, ControlState.enter, List.filterMap_append]
    rfl
  have evicted : (self.enter command record workers tasks).evicted = self.evicted :=
    List.filterMap_concat_of_none rfl _
  have decided : (self.enter command record workers tasks).decidedTasks = self.decidedTasks :=
    List.filterMap_concat_of_none rfl _
  refine ⟨?_, ?_, ?_, evicted ▸ sound.evicted, ?_, sound.enter_channels entered, ?_, ?_,
    decided ▸ sound.once, ?_, ?_, sound.free⟩
  · rw [ControlState.enter, List.length_append]
    exact room
  · rw [ControlState.enter, List.map_append, List.nodup_append]
    refine ⟨sound.distinct, List.pairwise_singleton _ _, ?_⟩
    rintro _ earlier _ last rfl
    obtain ⟨other, there, same⟩ := List.mem_map.mp earlier
    rw [List.map_singleton, List.mem_singleton, sameId] at last
    exact fresh other there (same.trans last)
  · intro other member
    rcases List.mem_append.mp member with earlier | last
    · exact sound.completed other earlier
    · rw [List.mem_singleton.mp last]
      exact terminal
  · rw [accepted, evicted, ControlState.enter, List.map_append, List.map_singleton, sameCommand]
    apply (sound.kept.append_right [command]).trans
    rw [List.append_assoc, List.append_assoc]
    exact List.Perm.append_left _ List.perm_append_comm
  · intro other member sender there
    rcases List.mem_append.mp member with earlier | last
    · exact Nat.lt_of_lt_of_le (sound.known other earlier sender there) entered.more.1
    · rw [List.mem_singleton.mp last] at there
      exact (entered.own there).2.1
  · intro other member none sender there
    rw [decided]
    rcases List.mem_append.mp member with earlier | last
    · have before := sound.empty other earlier none sender there
      refine ⟨before.1, ?_⟩
      show ∀ task ∈ tasks[sender]?, task.decisions = []
      rw [entered.more.2 sender (sound.known other earlier sender there)]
      exact before.2
    · rw [List.mem_singleton.mp last] at there
      obtain ⟨new, -, empty⟩ := entered.own there
      refine ⟨fun earlier => ?_, empty⟩
      exact absurd (sound.past sender earlier) (by rw [new]; exact Nat.lt_irrefl _)
  · intro sender there
    rw [decided] at there
    exact Nat.lt_of_lt_of_le (sound.past sender there) entered.more.1
  · intro other transaction result member
    rcases List.mem_append.mp member with earlier | last
    · exact sound.prompts other transaction result earlier
    · cases List.mem_singleton.mp last

end Entering

section Deciding

variable {tasks : List PairingTask} {parent : CommandRecord} {transaction : Text}
  {decision : Text × Bool} {id : Text} {command : OwnerCommand} {response : OwnerResponse}

section

variable (delivered : Delivered self parent decision tasks response)
include delivered

theorem Delivered.length : tasks.length = self.tasks.length := by
  cases delivered with
  | refused => rfl
  | accepted sender task channel there empty => exact List.length_set

/-- A decision goes to the task of its record alone. -/
theorem Delivered.elsewhere {sender : ℕ} (other : parent.decision ≠ some sender) :
    tasks[sender]? = self.tasks[sender]? := by
  cases delivered with
  | refused => rfl
  | accepted taken task channel there empty =>
      rw [List.getElem?_set_ne]
      intro same
      exact other (same ▸ channel)

theorem Delivered.channel (agreed : response = .pairingDecisionAccepted) :
    parent.decision ≠ none := by
  cases delivered with
  | refused => cases agreed
  | accepted sender task channel there empty =>
      rw [channel]
      exact Option.some_ne_none sender

end

/-- A sender belongs to one record. -/
theorem Sound.own (sound : self.Sound) (found : parent ∈ self.table) {record : CommandRecord}
    (there : record ∈ self.table) (other : record.id ≠ parent.id) {sender : ℕ}
    (mine : sender ∈ record.decision) : parent.decision ≠ some sender := by
  intro theirs
  have apart := List.pairwise_filterMap.mp sound.channels
  have symmetric : Std.Symm fun one two : CommandRecord => ∀ a, one.decision = some a →
      ∀ b, two.decision = some b → a ≠ b :=
    ⟨fun one two distinct a first b second => (distinct b second a first).symm⟩
  have different : record ≠ parent := fun same => other (congrArg CommandRecord.id same)
  exact apart.forall there found different sender mine sender theirs rfl

/-- The sender of the record, if the decision is accepted. -/
theorem decidedTasks_recordDecision :
    (self.recordDecision tasks parent transaction ⟨id, response, command⟩).decidedTasks =
      self.decidedTasks ++
        if response = .pairingDecisionAccepted then parent.decision.toList else [] := by
  rw [decidedTasks, ControlState.recordDecision, List.filterMap_append, ← decidedTasks]
  congr 1
  rw [List.filterMap_cons, LogEntry.decidedTask]
  split <;> split <;> simp_all

theorem Sound.recordDecision_once (sound : self.Sound) (found : parent ∈ self.table)
    (first : parent.decisionResults = []) :
    (self.recordDecision tasks parent transaction
      ⟨id, response, command⟩).decidedTasks.Nodup := by
  rw [decidedTasks_recordDecision]
  split
  · cases channel : parent.decision with
    | none => exact (List.append_nil _).symm ▸ sound.once
    | some sender =>
        have unused := (sound.empty parent found first sender channel).1
        exact List.nodup_append.mpr ⟨sound.once, List.pairwise_singleton _ _,
          fun taken earlier last mine => (by
            rw [List.mem_singleton.mp mine]
            exact fun same => unused (same ▸ earlier))⟩
  · exact (List.append_nil _).symm ▸ sound.once

theorem Sound.recordDecision (sound : self.Sound) (found : parent ∈ self.table)
    (first : parent.decisionResults = []) (prompt : parent.prompt = some transaction)
    (delivered : Delivered self parent decision tasks response) :
    (self.recordDecision tasks parent transaction ⟨id, response, command⟩).Sound := by
  have same : ∀ {β : Type} (f : CommandRecord → β),
      (∀ record : CommandRecord, f (record.withDecision ⟨id, response, command⟩) = f record) →
      (modifyRecord parent.id (fun record => record.withDecision ⟨id, response, command⟩)
        self.table).map f = self.table.map f :=
    fun f keeps => map_modifyRecord keeps
  have ids := same CommandRecord.id fun _ => rfl
  have senders : (modifyRecord parent.id (fun record => record.withDecision ⟨id, response, command⟩)
      self.table).filterMap CommandRecord.decision = self.table.filterMap CommandRecord.decision :=
    filterMap_modifyRecord fun _ => rfl
  have old : ∀ record ∈ modifyRecord parent.id
      (fun record => record.withDecision ⟨id, response, command⟩) self.table,
      record = parent.withDecision ⟨id, response, command⟩ ∨
        record ∈ self.table ∧ record.id ≠ parent.id :=
    fun record member => mem_modifyRecord_of_mem sound.distinct found member
  have accepted : (self.recordDecision tasks parent transaction ⟨id, response, command⟩).accepted =
      self.accepted := List.filterMap_concat_of_none rfl _
  have evicted : (self.recordDecision tasks parent transaction ⟨id, response, command⟩).evicted =
      self.evicted := List.filterMap_concat_of_none rfl _
  have fresh :
      ∀ sender ∈ (if response = .pairingDecisionAccepted then parent.decision.toList else []),
      parent.decision = some sender := by
    intro sender there
    split at there
    · exact Option.mem_toList.mp there
    · cases there
  refine ⟨?_, ?_, ?_, evicted ▸ sound.evicted, ?_, ?_, ?_, ?_,
    sound.recordDecision_once found first, ?_, ?_, sound.free⟩
  · have lengths := congrArg List.length ids
    rw [List.length_map, List.length_map] at lengths
    exact lengths.le.trans sound.few
  · exact ids ▸ sound.distinct
  · intro record member done
    rcases old record member with rfl | ⟨there, -⟩
    · exact sound.completed parent found done
    · exact sound.completed record there done
  · rw [accepted, evicted]
    exact (same CommandRecord.command fun _ => rfl) ▸ sound.kept
  · exact senders ▸ sound.channels
  · intro record member sender there
    show sender < tasks.length
    rw [delivered.length]
    rcases old record member with rfl | ⟨earlier, -⟩
    · exact sound.known parent found sender there
    · exact sound.known record earlier sender there
  · intro record member none sender there
    rcases old record member with rfl | ⟨earlier, other⟩
    · exact absurd none (by simp [CommandRecord.withDecision])
    · have before := sound.empty record earlier none sender there
      have theirs := sound.own found earlier other there
      rw [decidedTasks_recordDecision]
      refine ⟨fun now => ?_, ?_⟩
      · rcases List.mem_append.mp now with earlier | last
        · exact before.1 earlier
        · exact theirs (fresh sender last)
      · show ∀ task ∈ tasks[sender]?, task.decisions = []
        rw [delivered.elsewhere theirs]
        exact before.2
  · intro sender there
    show sender < tasks.length
    rw [delivered.length]
    rw [decidedTasks_recordDecision] at there
    rcases List.mem_append.mp there with earlier | last
    · exact sound.past sender earlier
    · exact sound.known parent found sender (fresh sender last)
  · intro record asked result member
    rcases List.mem_append.mp member with earlier | last
    · exact sound.prompts record asked result earlier
    · cases List.mem_singleton.mp last
      exact ⟨prompt, delivered.channel⟩

end Deciding

/-! ## Every step -/

theorem Sound.settled (sound : self.Sound) : self.settled.Sound :=
  sound.applyCompletions.expireTerminal

variable {after : ControlState} {setup : OwnerSetup}

variable (sound : self.Sound)
include sound

theorem Sound.handled {command : OwnerCommand} (handled : Handled setup self command after) :
    after.Sound := by
  cases handled with
  | kept => exact sound
  | accepted commandId record workers tasks ordinary valid fresh room able entered =>
      exact sound.enter fresh room entered
  | decided commandId transaction confirmed parent tasks response asked deciding valid fresh found
      first prompt delivered =>
      exact sound.recordDecision found first prompt delivered

/-- An answer leaves everything else of the log. -/
theorem Sound.answer (command : OwnerCommand) (response : OwnerResponse) :
    (self.note (.answered command response)).Sound := by
  have accepted : (self.note (.answered command response)).accepted = self.accepted :=
    List.filterMap_concat_of_none rfl _
  have evicted : (self.note (.answered command response)).evicted = self.evicted :=
    List.filterMap_concat_of_none rfl _
  have decided : (self.note (.answered command response)).decidedTasks = self.decidedTasks :=
    List.filterMap_concat_of_none rfl _
  refine ⟨sound.few, sound.distinct, sound.completed, evicted ▸ sound.evicted, ?_, sound.channels,
    sound.known, decided ▸ sound.empty, decided ▸ sound.once, decided ▸ sound.past, ?_, sound.free⟩
  · rw [accepted, evicted]
    exact sound.kept
  · intro record transaction result member
    rcases List.mem_append.mp member with earlier | last
    · exact sound.prompts record transaction result earlier
    · cases List.mem_singleton.mp last

/-- A task gets no decision but through its record. -/
theorem Sound.setTask {index : ℕ} {task : PairingTask} (found : self.tasks[index]? = some task)
    {changed : PairingTask} (empty : task.decisions = [] → changed.decisions = []) :
    Sound { self with tasks := self.tasks.set index changed } := by
  have length : (self.tasks.set index changed).length = self.tasks.length := List.length_set
  refine { sound with
    known := fun record member sender there => length.symm ▸ sound.known record member sender there
    empty := fun record member none sender there => ?_
    past := fun sender there => length.symm ▸ sound.past sender there }
  have before := sound.empty record member none sender there
  refine ⟨before.1, ?_⟩
  by_cases same : index = sender
  · subst same
    intro now here
    have inside := (List.getElem?_eq_some_iff.mp found).1
    rw [List.getElem?_set_self inside] at here
    cases here
    exact empty (before.2 task found)
  · show ∀ task ∈ (self.tasks.set index changed)[sender]?, task.decisions = []
    rw [List.getElem?_set_ne same]
    exact before.2

/-- The control thread does not wait, so a command is answered. -/
theorem handled_of_serve {command : OwnerCommand} (served : self.serve setup command = some after) :
    ∃ done, self.handleCommand setup command = some done ∧
      after = done.1.note (.answered command done.2.1) := by
  rw [ControlState.serve, sound.free, if_neg Bool.false_ne_true] at served
  split at served
  · rename_i waits
    obtain ⟨parent, member, sender, task, none, channel, found, full⟩ := full_of_handleCommand waits
    exact absurd ((sound.settled.empty parent member none sender channel).2 task found) full
  · rename_i done handled
    cases served
    exact ⟨done, handled, rfl⟩

theorem Sound.serve {command : OwnerCommand} (served : self.serve setup command = some after) :
    after.Sound := by
  obtain ⟨done, handled, rfl⟩ := handled_of_serve sound served
  exact (sound.settled.handled (handled_of_handleCommand handled)).answer _ _

omit sound in
theorem withTask_eq_some {index : ℕ} {change : PairingTask → Option ControlState}
    (moved : self.withTask index change = some after) :
    ∃ task, self.tasks[index]? = some task ∧ task.held = true ∧ change task = some after := by
  rw [withTask] at moved
  split at moved
  · rename_i task found
    rw [Option.ite_none_right_eq_some] at moved
    exact ⟨task, found, moved⟩
  · cases moved

theorem Sound.step {label : ControlLabel} (moved : self.step setup label = some after) :
    after.Sound := by
  cases label with
  | tick elapsed =>
      cases moved
      exact { sound with }
  | changePeer peer =>
      cases moved
      exact { sound with }
  | command command => exact sound.serve moved
  | workerDone index succeeded =>
      obtain ⟨worker, found, rfl⟩ := Option.map_eq_some_iff.mp moved
      exact { sound with }
  | update index update =>
      obtain ⟨task, found, held, same⟩ := withTask_eq_some moved
      cases same
      exact { sound with }
  | receive index =>
      obtain ⟨task, found, held, same⟩ := withTask_eq_some moved
      cases same
      apply sound.setTask found
      intro none
      rw [none]
      rfl
  | release index =>
      obtain ⟨task, found, held, same⟩ := withTask_eq_some moved
      cases same
      exact sound.setTask found id
  | closeEvents =>
      cases moved
      exact { sound with }

end Steps

theorem sound_of_reachable {setup : OwnerSetup} {self : ControlState}
    (reachable : (machine setup).Reachable self) : self.Sound := by
  apply reachable.invariant
  · rintro _ ⟨now, peer, eventSender, rfl⟩
    exact sound_started now peer eventSender
  · exact fun self label after sound moved => sound.step moved

/-- **The table stays in order.** It is bounded and its ids are distinct. What was accepted
is still there or was evicted, and what was evicted had its final response. A pairing
command takes at most one decision, and each decision is about the transaction of the
prompt at that time. The control thread never waits in the send of a decision. -/
theorem table_in_order {setup : OwnerSetup} {self : ControlState}
    (reachable : (machine setup).Reachable self) :
    self.table.length ≤ tableMax ∧ (self.table.map CommandRecord.id).Nodup ∧
      self.accepted.Perm
        (self.table.map CommandRecord.command ++ self.evicted.map CommandRecord.command) ∧
      (∀ record ∈ self.evicted, record.Terminal) ∧ self.decidedTasks.Nodup ∧
      (∀ record transaction result, .decided record transaction result ∈ self.log →
        record.prompt = some transaction ∧
          (result.response = .pairingDecisionAccepted → record.decision ≠ none)) ∧
      self.blocked = false := by
  have sound := sound_of_reachable reachable
  exact ⟨sound.few, sound.distinct, sound.kept, sound.evicted, sound.once, sound.prompts,
    sound.free⟩

/-- An owner without launch metadata, to whom no address is one of the loopback. -/
def plainSetup : OwnerSetup := ⟨[], none, fun _ => none⟩

/-- An id of one digit. -/
def idOf (digit : Char) : Text := List.replicate 32 digit

/-- A window is opened, and the owner decides about the transaction it is asked about. -/
def decidedRun : List ControlLabel :=
  [.command (.pairingWindowOpen (idOf '1') []), .update 0 .pairingWaiting,
    .update 0 (.pairingConfirmationRequired (idOf '2') []),
    .command (.pairingDecide (idOf '3') [] (idOf '1') (idOf '2') true),
    .command (.pairingDecide (idOf '4') [] (idOf '1') (idOf '2') false)]

theorem table_in_order_decided : ∃ self, (machine plainSetup).Reachable self ∧
    self.decidedTasks = [0] ∧ self.decidedTasks.Nodup ∧ self.blocked = false := by
  have ran : ((machine plainSetup).execute (started 0 none (some .listening)) decidedRun).map
      decidedTasks = some [0] := by
    decide +kernel
  obtain ⟨self, reachable, decided⟩ :=
    StepSystem.exists_reachable_of_map ran ⟨0, none, some .listening, rfl⟩
  have order := table_in_order reachable
  exact ⟨self, reachable, decided, order.2.2.2.2.1, order.2.2.2.2.2.2⟩

end ControlState

end Deskkin.OwnerControl
