/-
# Updates that are still to come

Worker threads and pairing tasks owe the table updates. A command that is owed one has a
record that is not completed, and the update that completes it is the last for its id;
then nothing can change a record that is completed.
-/

import Deskkin.Owner.CommandNames

namespace Deskkin.OwnerControl

namespace ControlState

/-- The command is in the table and not completed. -/
def Running (self : ControlState) (id : Text) : Prop :=
  ∃ record ∈ self.table, record.id = id ∧ record.completedAt = none

/-- Where updates may still come for some ids, and which have come. -/
structure Pending (control : ControlState) (owes : Text → Prop) : Prop where
  due : ∀ id, owes id → control.Running id ∧
    ∀ completion ∈ control.completions, completion.id = id → completion.response.ongoing = true
  posted : ∀ completion ∈ control.completions, control.Running completion.id
  last : control.completions.Pairwise fun first second =>
    first.id = second.id → first.response.ongoing = true
  running : ∀ record ∈ control.table, record.completedAt = none → ∀ response,
    record.response = some response → response.ongoing = true

variable {self : ControlState} {owes : Text → Prop}

theorem Pending.mono {fewer : Text → Prop} (pending : self.Pending owes)
    (less : ∀ id, fewer id → owes id) : self.Pending fewer :=
  { pending with due := fun id due => pending.due id (less id due) }

/-! ## Updates -/

variable {response : OwnerResponse} {id : Text} {table : List CommandRecord}
  {tasks : List PairingTask} {record : CommandRecord}

/-- An update that leaves the command open. -/
theorem Pending.post_ongoing (pending : self.Pending owes) (due : owes id)
    (ongoing : response.ongoing = true) : (self.post id response).Pending owes := by
  refine ⟨fun other owed => ⟨(pending.due other owed).1, fun completion member same => ?_⟩,
    fun completion member => ?_, ?_, pending.running⟩
  · rcases List.mem_append.mp member with earlier | now
    · exact (pending.due other owed).2 completion earlier same
    · rw [List.mem_singleton.mp now]
      exact ongoing
  · rcases List.mem_append.mp member with earlier | now
    · exact pending.posted completion earlier
    · rw [List.mem_singleton.mp now]
      exact (pending.due id due).1
  · apply List.pairwise_append.mpr
    refine ⟨pending.last, List.pairwise_singleton _ _, fun first earlier second now same => ?_⟩
    rw [List.mem_singleton.mp now] at same
    exact (pending.due id due).2 first earlier same

/-- The last update of a command. -/
theorem Pending.post_final (pending : self.Pending owes) (due : owes id)
    (response : OwnerResponse) :
    (self.post id response).Pending fun other => owes other ∧ other ≠ id := by
  refine ⟨fun other owed => ⟨(pending.due other owed.1).1, fun completion member same => ?_⟩,
    fun completion member => ?_, ?_, pending.running⟩
  · rcases List.mem_append.mp member with earlier | now
    · exact (pending.due other owed.1).2 completion earlier same
    · rw [List.mem_singleton.mp now] at same
      exact absurd same.symm owed.2
  · rcases List.mem_append.mp member with earlier | now
    · exact pending.posted completion earlier
    · rw [List.mem_singleton.mp now]
      exact (pending.due id due).1
  · apply List.pairwise_append.mpr
    refine ⟨pending.last, List.pairwise_singleton _ _, fun first earlier second now same => ?_⟩
    rw [List.mem_singleton.mp now] at same
    exact (pending.due id due).2 first earlier same

/-! ## Before a command -/

section

variable (running : ∃ record ∈ table, record.id = id ∧ record.completedAt = none)
include running

/-- An update for one id leaves the records of the others. -/
theorem running_complete {completion : Completion}
    (spared : completion.id = id → completion.response.ongoing = true) :
    ∃ record ∈ complete table completion, record.id = id ∧ record.completedAt = none := by
  induction table with
  | nil =>
      obtain ⟨record, member, -⟩ := running
      cases member
  | cons first records ih =>
      obtain ⟨record, member, named, open_⟩ := running
      rw [complete, modifyRecord]
      split
      · rename_i same
        rcases List.mem_cons.mp member with rfl | later
        · refine ⟨_, List.mem_cons_self, named, ?_⟩
          rw [CommandRecord.withResponse, if_pos (spared (same.symm.trans named))]
        · exact ⟨record, List.mem_cons_of_mem _ later, named, open_⟩
      · rcases List.mem_cons.mp member with rfl | later
        · exact ⟨record, List.mem_cons_self, named, open_⟩
        · obtain ⟨other, there, rest⟩ := ih ⟨record, later, named, open_⟩
          exact ⟨other, List.mem_cons_of_mem _ there, rest⟩

theorem running_completions {completions : List Completion}
    (spared : ∀ completion ∈ completions, completion.id = id → completion.response.ongoing = true) :
    ∃ record ∈ completions.foldl complete table, record.id = id ∧ record.completedAt = none := by
  induction completions generalizing table with
  | nil => exact running
  | cons completion completions ih =>
      rw [List.forall_mem_cons] at spared
      exact ih (running_complete running spared.1) spared.2

end

/-- A record that is open has no response that would close it. -/
def Consistent (table : List CommandRecord) : Prop :=
  ∀ record ∈ table, record.completedAt = none → ∀ response,
    record.response = some response → response.ongoing = true

theorem Consistent.completions (consistent : Consistent table) (completions : List Completion) :
    Consistent (completions.foldl complete table) := by
  induction completions generalizing table with
  | nil => exact consistent
  | cons completion completions ih =>
      apply ih
      intro record member open_ response found
      rcases mem_modifyRecord member with there | ⟨before, there, -, rfl⟩
      · exact consistent record there open_ response found
      · rw [CommandRecord.withResponse] at open_ found
        cases found
        cases ongoing : completion.response.ongoing with
        | true => rfl
        | false => simp [ongoing] at open_

variable (pending : self.Pending owes)
include pending

theorem Pending.settled : self.settled.Pending owes := by
  have open_ : ∀ id, owes id → self.settled.Running id := by
    intro id due
    obtain ⟨running, spared⟩ := pending.due id due
    obtain ⟨record, member, named, open_⟩ := running_completions running spared
    refine ⟨record, List.mem_filter.mpr ⟨member, ?_⟩, named, open_⟩
    rw [recent, open_]
    rfl
  refine ⟨fun id due => ⟨open_ id due, fun _ member => (by cases member)⟩,
    fun _ member => (by cases member), List.Pairwise.nil, fun record member => ?_⟩
  have consistent := Consistent.completions pending.running self.completions
  exact consistent record (List.mem_filter.mp member).1

/-! ## A command -/

/-- What a new record owes. -/
theorem Pending.enter {command : OwnerCommand} {commandId : Text} {workers : List Worker}
    (quiet : self.completions = [])
    (entered : Entered self command commandId record workers tasks) :
    (self.enter command record workers tasks).Pending fun id =>
      owes id ∨ id = commandId ∧ record.completedAt = none := by
  have longer : ∀ id, self.Running id → (self.enter command record workers tasks).Running id := by
    intro id running
    obtain ⟨other, member, rest⟩ := running
    exact ⟨other, List.mem_append_left _ member, rest⟩
  have none : (self.enter command record workers tasks).completions = [] := quiet
  refine ⟨fun id due => ⟨?_, ?_⟩, ?_, ?_, fun other member => ?_⟩
  · rcases due with earlier | ⟨rfl, open_⟩
    · exact longer id (pending.due id earlier).1
    · refine ⟨record, List.mem_append_right _ (List.mem_singleton_self _), ?_, open_⟩
      cases entered <;> rfl
  · rw [none]
    exact fun _ member => (by cases member)
  · rw [none]
    exact fun _ member => (by cases member)
  · rw [none]
    exact List.Pairwise.nil
  · rcases List.mem_append.mp member with earlier | last
    · exact pending.running other earlier
    · rw [List.mem_singleton.mp last]
      cases entered with
      | failed => exact fun impossible => (by cases impossible)
      | _ => exact fun _ _ impossible => (by cases impossible)

theorem Pending.recordDecision {parent : CommandRecord} {transaction : Text}
    {result : DecisionResult} :
    (self.recordDecision tasks parent transaction result).Pending owes := by
  have still : ∀ id, self.Running id →
      (self.recordDecision tasks parent transaction result).Running id := by
    intro id running
    obtain ⟨record, member, named, open_⟩ := running
    have same : ((modifyRecord parent.id (fun record => record.withDecision result)
        self.table).map fun record => (record.id, record.completedAt)) =
          self.table.map fun record => (record.id, record.completedAt) :=
      map_modifyRecord fun _ => rfl
    have there : (id, none) ∈ self.table.map fun record => (record.id, record.completedAt) :=
      List.mem_map.mpr ⟨record, member, by rw [named, open_]⟩
    rw [← same] at there
    obtain ⟨other, found, equal⟩ := List.mem_map.mp there
    rw [Prod.mk.injEq] at equal
    exact ⟨other, found, equal⟩
  refine ⟨fun id due => ⟨still id (pending.due id due).1, (pending.due id due).2⟩,
    fun completion member => still _ (pending.posted completion member), pending.last,
    fun record member => ?_⟩
  rcases mem_modifyRecord member with there | ⟨before, there, -, rfl⟩
  · exact pending.running record there
  · exact pending.running before there

/-! ## Completed commands -/

/-- **Nothing more comes for a completed command.** -/
theorem Pending.quiet (sound : self.Sound) (member : record ∈ self.table)
    (answered : record.response = some response) (final : response.ongoing = false) :
    ∀ completion ∈ self.completions, completion.id ≠ record.id := by
  intro completion posted same
  obtain ⟨other, there, named, open_⟩ := pending.posted completion posted
  rw [List.inj_on_of_nodup_map sound.distinct there member (named.trans same)] at open_
  rw [pending.running record member open_ response answered] at final
  cases final

end ControlState

end Deskkin.OwnerControl
