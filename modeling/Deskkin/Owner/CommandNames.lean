/-
# One command under an id

The ids of accepted commands and the ids of their decisions are asked for together. A
command is accepted if no record has its id, and a decision if no other decision has:
where one side takes an id of the other, two commands stand under one id.
-/

import Deskkin.Owner.TableInvariant
import Mathlib.Data.List.Flatten

namespace Deskkin.OwnerControl

/-! ## What stands under an id -/

/-- A record with what is answered about it, and its decisions. -/
def CommandRecord.results (record : CommandRecord) : List DecisionResult :=
  ⟨record.id, record.current, record.command⟩ :: record.decisionResults

namespace ControlState

/-- Everything that an id can be asked for. -/
def present (self : ControlState) : List DecisionResult :=
  self.table.flatMap CommandRecord.results

def recordIds (self : ControlState) : List Text := self.table.map CommandRecord.id

def decisionIds (self : ControlState) : List Text :=
  self.table.flatMap fun record => record.decisionResults.map DecisionResult.id

/-- **One command under an id.** No two commands that are present have one id. Each of them
can be repeated, and asked for, without any effect, and its own response is the answer. -/
structure OneCommand (setup : OwnerSetup) (control : ControlState) : Prop where
  unique : (control.present.map DecisionResult.id).Nodup
  repeated : ∀ result ∈ control.settled.present,
    control.handleCommand setup result.command = some (control.settled, result.response, false)
  reported : ∀ result ∈ control.settled.present,
    control.handleCommand setup (.commandResult result.id setup.ownerGeneration) =
      some (control.settled, result.response, false)

/-- Nothing but its id may keep the command from being recorded. -/
def Admissible (setup : OwnerSetup) (self : ControlState) : OwnerCommand → Prop
  | .identityInit commandId generation | .unpair commandId generation _ =>
      validId commandId = true ∧ generation = setup.ownerGeneration ∧ self.table.length < tableMax
  | .pairingWindowOpen commandId generation =>
      validId commandId = true ∧ generation = setup.ownerGeneration ∧
        self.table.length < tableMax ∧ self.eventSender ≠ none
  | .pairStart commandId generation address =>
      validId commandId = true ∧ generation = setup.ownerGeneration ∧
        setup.loopback address = some true ∧ self.table.length < tableMax ∧ self.eventSender ≠ none
  | .pairingDecide commandId generation parentCommandId transaction _ =>
      validId commandId = true ∧ generation = setup.ownerGeneration ∧
        validId parentCommandId = true ∧ validId transaction = true ∧
          ∃ parent ∈ self.table, parent.id = parentCommandId ∧ parent.decisionResults = [] ∧
            parent.prompt = some transaction
  | _ => False

/-- The id is one of the other kind, which is not looked at. -/
def Crossing (self : ControlState) : OwnerCommand → Prop
  | .identityInit commandId _ | .unpair commandId _ _ | .pairingWindowOpen commandId _
  | .pairStart commandId _ _ => commandId ∉ self.recordIds ∧ commandId ∈ self.decisionIds
  | .pairingDecide commandId _ _ _ _ =>
      commandId ∉ self.decisionIds ∧ commandId ∈ self.recordIds
  | _ => False

instance (setup : OwnerSetup) (self : ControlState) (command : OwnerCommand) :
    Decidable (Admissible setup self command) := by
  cases command <;> (unfold Admissible; infer_instance)

instance (self : ControlState) (command : OwnerCommand) : Decidable (Crossing self command) := by
  cases command <;> (unfold Crossing; infer_instance)

/-- No command is recorded under an id of the other kind. -/
def KeepsKinds (setup : OwnerSetup) (self : ControlState) : ControlLabel → Prop
  | .command command => ¬(self.settled.Admissible setup command ∧ self.settled.Crossing command)
  | _ => True

instance (setup : OwnerSetup) (self : ControlState) (label : ControlLabel) :
    Decidable (KeepsKinds setup self label) := by
  cases label <;> (unfold KeepsKinds; infer_instance)

/-! ## Lookups -/

theorem find?_of_mem {results : List DecisionResult} {result : DecisionResult}
    (unique : (results.map DecisionResult.id).Nodup) (member : result ∈ results) :
    (results.find? fun other => other.id = result.id) = some result := by
  cases found : results.find? fun other => other.id = result.id with
  | none => simpa using List.find?_eq_none.mp found result member
  | some other =>
      have same : other.id = result.id := by simpa using List.find?_some found
      have there := List.mem_of_find?_eq_some found
      rw [List.inj_on_of_nodup_map unique there member same]

/-- Asking for an id looks at everything that is present. -/
theorem commandResult_eq (self : ControlState) (commandId : Text) : self.commandResult commandId =
    (self.present.find? fun result => result.id = commandId).map DecisionResult.response := by
  rw [present, List.find?_flatMap, List.map_findSome?, commandResult]
  congr 1
  funext record
  rw [CommandRecord.answer]
  show _ = (List.find? _
    ((⟨record.id, record.current, record.command⟩ : DecisionResult) :: _)).map _
  rw [List.find?_cons]
  by_cases same : record.id = commandId
  · simp [same]
  · simp [same]

theorem decisionResult_eq (self : ControlState) (commandId : Text) :
    self.decisionResult commandId =
      ((self.table.flatMap CommandRecord.decisionResults).find? fun result =>
        result.id = commandId).map DecisionResult.response := by
  rw [List.find?_flatMap, List.map_findSome?, decisionResult]
  rfl

/-! ## The invariant -/

/-- The ids are apart, and each stands for a command that is its own. -/
structure Named (setup : OwnerSetup) (control : ControlState) : Prop where
  unique : (control.present.map DecisionResult.id).Nodup
  ordinary : ∀ record ∈ control.table,
    validId record.id = true ∧ Ordinary setup record.id record.command
  deciding : ∀ record ∈ control.table, ∀ result ∈ record.decisionResults,
    validId result.id = true ∧ Deciding setup result.id result.command

section Steps

variable {setup : OwnerSetup} {self : ControlState}

theorem present_append (table more : List CommandRecord) :
    (table ++ more).flatMap CommandRecord.results =
      table.flatMap CommandRecord.results ++ more.flatMap CommandRecord.results :=
  List.flatMap_append

/-- A response does not change what is named. -/
theorem ids_complete (table : List CommandRecord) (completion : Completion) :
    ((complete table completion).flatMap CommandRecord.results).map DecisionResult.id =
      (table.flatMap CommandRecord.results).map DecisionResult.id := by
  rw [List.map_flatMap, List.map_flatMap, List.flatMap_def, List.flatMap_def]
  congr 1
  exact map_modifyRecord fun _ => rfl

section

variable (named : self.Named setup)
include named

theorem Named.complete (completion : Completion) :
    Named setup { self with table := complete self.table completion } := by
  refine ⟨?_, fun record member => ?_, fun record member => ?_⟩
  · exact ids_complete self.table completion ▸ named.unique
  · rcases mem_modifyRecord member with there | ⟨before, there, -, rfl⟩
    · exact named.ordinary record there
    · exact named.ordinary before there
  · rcases mem_modifyRecord member with there | ⟨before, there, -, rfl⟩
    · exact named.deciding record there
    · exact named.deciding before there

theorem Named.applyCompletions : self.applyCompletions.Named setup := by
  have all : ∀ completions : List Completion, ∀ {table : List CommandRecord},
      Named setup { self with table := table } →
      Named setup { self with table := completions.foldl ControlState.complete table } := by
    intro completions
    induction completions with
    | nil => exact fun named => named
    | cons completion completions ih => exact fun named => ih (named.complete completion)
  exact { all self.completions named with }

theorem Named.expireTerminal : self.expireTerminal.Named setup := by
  have kept : (self.table.filter self.recent).Sublist self.table := List.filter_sublist
  refine ⟨?_, fun record member => named.ordinary record (kept.subset member),
    fun record member => named.deciding record (kept.subset member)⟩
  exact List.Nodup.sublist ((kept.flatMap CommandRecord.results).map _) named.unique

theorem Named.settled : self.settled.Named setup :=
  named.applyCompletions.expireTerminal

end

theorem mem_ids_iff {id : Text} : id ∈ self.present.map DecisionResult.id ↔
    id ∈ self.recordIds ∨ id ∈ self.decisionIds := by
  rw [present, recordIds, decisionIds, List.map_flatMap, List.mem_flatMap, List.mem_flatMap,
    List.mem_map, ← exists_or]
  constructor
  · rintro ⟨record, member, here⟩
    refine ⟨record, ?_⟩
    rcases List.mem_cons.mp here with first | later
    · exact Or.inl ⟨member, first.symm⟩
    · exact Or.inr ⟨member, later⟩
  · rintro ⟨record, ⟨member, first⟩ | ⟨member, later⟩⟩
    · exact ⟨record, member, List.mem_cons.mpr (Or.inl first.symm)⟩
    · exact ⟨record, member, List.mem_cons.mpr (Or.inr later)⟩

variable {parent : CommandRecord} {command : OwnerCommand} {record : CommandRecord}
  {commandId : Text} {tasks : List PairingTask} {after : ControlState}

/-- A decision adds its id to what is named. -/
theorem ids_withDecision {table : List CommandRecord} (member : parent ∈ table)
    (result : DecisionResult) :
    (((modifyRecord parent.id (fun record => record.withDecision result) table).flatMap
      CommandRecord.results).map DecisionResult.id).Perm
        (result.id :: (table.flatMap CommandRecord.results).map DecisionResult.id) := by
  induction table with
  | nil => cases member
  | cons record records ih =>
      rw [modifyRecord, List.flatMap_cons, List.map_append]
      split
      · rw [List.flatMap_cons, List.map_append]
        have longer : (record.withDecision result).results.map DecisionResult.id =
            record.results.map DecisionResult.id ++ [result.id] := by
          simp [CommandRecord.results, CommandRecord.withDecision]
        rw [longer, List.append_assoc]
        exact List.perm_middle
      · rename_i other
        have later := (List.mem_cons.mp member).resolve_left
          fun same => other (congrArg CommandRecord.id same).symm
        rw [List.flatMap_cons, List.map_append]
        exact ((ih later).append_left _).trans List.perm_middle

theorem Named.enter (named : self.Named setup) {workers : List Worker}
    (ordinary : Ordinary setup commandId command) (valid : validId commandId = true)
    (unused : commandId ∉ self.present.map DecisionResult.id)
    (entered : Entered self command commandId record workers tasks) :
    (self.enter command record workers tasks).Named setup := by
  have new : record.id = commandId ∧ record.command = command ∧ record.decisionResults = [] := by
    cases entered <;> exact ⟨rfl, rfl, rfl⟩
  refine ⟨?_, fun other member => ?_, fun other member result there => ?_⟩
  · show ((self.table ++ [record]).flatMap CommandRecord.results |>.map DecisionResult.id).Nodup
    have last : [record].flatMap CommandRecord.results =
        [⟨commandId, record.current, command⟩] := by
      simp [CommandRecord.results, new]
    rw [present_append, last, List.map_append, List.nodup_append]
    refine ⟨named.unique, List.nodup_singleton _, ?_⟩
    rintro id earlier _ last rfl
    rw [List.mem_singleton.mp last] at earlier
    exact unused earlier
  · rcases List.mem_append.mp member with earlier | last
    · exact named.ordinary other earlier
    · rw [List.mem_singleton.mp last, new.1, new.2.1]
      exact ⟨valid, ordinary⟩
  · rcases List.mem_append.mp member with earlier | last
    · exact named.deciding other earlier result there
    · rw [List.mem_singleton.mp last, new.2.2] at there
      cases there

theorem Named.recordDecision (named : self.Named setup) {transaction id : Text}
    {response : OwnerResponse} (found : parent ∈ self.table) (deciding : Deciding setup id command)
    (valid : validId id = true) (unused : id ∉ self.present.map DecisionResult.id) :
    (self.recordDecision tasks parent transaction ⟨id, response, command⟩).Named setup := by
  refine ⟨?_, fun record member => ?_, fun record member result there => ?_⟩
  · exact (ids_withDecision found _).nodup_iff.mpr (List.nodup_cons.mpr ⟨unused, named.unique⟩)
  · rcases mem_modifyRecord member with there | ⟨before, there, -, rfl⟩
    · exact named.ordinary record there
    · exact named.ordinary before there
  · rcases mem_modifyRecord member with earlier | ⟨before, earlier, -, rfl⟩
    · exact named.deciding record earlier result there
    · rcases List.mem_append.mp there with before' | last
      · exact named.deciding before earlier result before'
      · rw [List.mem_singleton.mp last]
        exact ⟨valid, deciding⟩

/-! ## Repeating and asking -/

theorem find?_record (distinct : (self.table.map CommandRecord.id).Nodup)
    (member : record ∈ self.table) :
    (self.table.find? fun other => other.id = record.id) = some record := by
  cases found : self.table.find? fun other => other.id = record.id with
  | none => simpa using List.find?_eq_none.mp found record member
  | some other =>
      have same : other.id = record.id := by simpa using List.find?_some found
      have there := List.mem_of_find?_eq_some found
      rw [List.inj_on_of_nodup_map distinct there member same]

theorem acceptOnce_known (distinct : (self.table.map CommandRecord.id).Nodup)
    (member : record ∈ self.table) (valid : validId record.id = true)
    (entered : ControlState × OwnerResponse) :
    self.acceptOnce record.id entered = (self, record.current) := by
  rw [acceptOnce, if_neg (by simp [valid]), find?_record distinct member]

theorem not_stale {generation : Text} (named : command.generation = some generation)
    (current : generation = setup.ownerGeneration) :
    ¬command.generation.any (fun generation => generation ≠ setup.ownerGeneration) := by
  rw [named]
  simp [current]

/-- A command that is present is answered from its record. -/
theorem handleCommand_ordinary (distinct : (self.settled.table.map CommandRecord.id).Nodup)
    (member : record ∈ self.settled.table) (valid : validId record.id = true)
    (ordinary : Ordinary setup record.id record.command) :
    self.handleCommand setup record.command = some (self.settled, record.current, false) := by
  have known := acceptOnce_known distinct member valid
  cases command : record.command with
  | identityInit commandId generation =>
      rw [command] at ordinary
      obtain ⟨rfl, current⟩ := ordinary
      unfold handleCommand
      dsimp only
      rw [if_neg (not_stale rfl current), accept, known]
  | unpair commandId generation peerId =>
      rw [command] at ordinary
      obtain ⟨rfl, current⟩ := ordinary
      unfold handleCommand
      dsimp only
      rw [if_neg (not_stale rfl current), accept, known]
  | pairingWindowOpen commandId generation =>
      rw [command] at ordinary
      obtain ⟨rfl, current⟩ := ordinary
      unfold handleCommand
      dsimp only
      rw [if_neg (not_stale rfl current), acceptPairingEvent, known]
  | pairStart commandId generation address =>
      rw [command] at ordinary
      obtain ⟨rfl, current, loopback⟩ := ordinary
      unfold handleCommand
      dsimp only
      rw [if_neg (not_stale rfl current), loopback]
      dsimp only
      rw [acceptPairingEvent, known]
  | _ =>
      rw [command] at ordinary
      cases ordinary

/-- A decision that is present is answered with its result. -/
theorem handleCommand_deciding (unique : (self.settled.present.map DecisionResult.id).Nodup)
    (member : record ∈ self.settled.table) {result : DecisionResult}
    (there : result ∈ record.decisionResults) (valid : validId result.id = true)
    (deciding : Deciding setup result.id result.command) :
    self.handleCommand setup result.command = some (self.settled, result.response, false) := by
  have decisions : ((self.settled.table.flatMap CommandRecord.decisionResults).map
      DecisionResult.id).Nodup := by
    apply List.Nodup.sublist _ unique
    apply List.Sublist.map
    apply List.Sublist.flatMap_right
    exact fun record _ => List.sublist_cons_self _ _
  have known : self.settled.decisionResult result.id = some result.response := by
    rw [decisionResult_eq, find?_of_mem decisions (List.mem_flatMap.mpr ⟨record, member, there⟩)]
    rfl
  cases command : result.command with
  | pairingDecide commandId generation parent transaction confirmed =>
      rw [command] at deciding
      obtain ⟨rfl, current, parentValid, transactionValid⟩ := deciding
      unfold handleCommand
      dsimp only
      rw [if_neg (not_stale rfl current), acceptPairingDecision, if_neg (by simp [valid,
        parentValid, transactionValid]), known]
      rfl
  | _ =>
      rw [command] at deciding
      cases deciding

theorem Named.oneCommand (named : self.Named setup) (sound : self.Sound) :
    self.OneCommand setup := by
  have settled := named.settled
  refine ⟨named.unique, fun result member => ?_, fun result member => ?_⟩
  · obtain ⟨record, there, here⟩ := List.mem_flatMap.mp member
    rcases List.mem_cons.mp here with rfl | decision
    · obtain ⟨valid, ordinary⟩ := settled.ordinary record there
      exact handleCommand_ordinary sound.settled.distinct there valid ordinary
    · obtain ⟨valid, deciding⟩ := settled.deciding record there result decision
      exact handleCommand_deciding settled.unique there decision valid deciding
  · unfold handleCommand
    dsimp only
    rw [if_neg (not_stale rfl rfl), commandResult_eq, find?_of_mem settled.unique member]
    rfl

/-! ## Guarded steps -/

/-- A command that is recorded was admissible. -/
theorem admissible_of_entered (ordinary : Ordinary setup commandId command)
    (valid : validId commandId = true) (fresh : ∀ record ∈ self.table, record.id ≠ commandId)
    (room : self.table.length < tableMax)
    (able : command.isEvent = true → self.eventSender ≠ none) :
    self.Admissible setup command ∧
      (commandId ∈ self.decisionIds → self.Crossing command) := by
  have unknown : commandId ∉ self.recordIds := by
    intro known
    obtain ⟨record, member, same⟩ := List.mem_map.mp known
    exact fresh record member same
  cases command with
  | identityInit id generation | unpair id generation peerId =>
      obtain ⟨rfl, current⟩ := ordinary
      exact ⟨⟨valid, current, room⟩, fun taken => ⟨unknown, taken⟩⟩
  | pairingWindowOpen id generation =>
      obtain ⟨rfl, current⟩ := ordinary
      exact ⟨⟨valid, current, room, able rfl⟩, fun taken => ⟨unknown, taken⟩⟩
  | pairStart id generation address =>
      obtain ⟨rfl, current, loopback⟩ := ordinary
      exact ⟨⟨valid, current, loopback, room, able rfl⟩, fun taken => ⟨unknown, taken⟩⟩
  | _ => cases ordinary

theorem admissible_of_decided {commandId transaction : Text} {confirmed : Bool} (asked : command =
      .pairingDecide commandId setup.ownerGeneration parent.id transaction confirmed)
    (deciding : Deciding setup commandId command) (valid : validId commandId = true)
    (found : parent ∈ self.table) (first : parent.decisionResults = [])
    (prompt : parent.prompt = some transaction) : self.Admissible setup command := by
  rw [asked] at deciding ⊢
  exact ⟨valid, rfl, deciding.2.2.1, deciding.2.2.2, parent, found, rfl, first, prompt⟩

/-- A decision is recorded under an id that no other decision has. -/
theorem decisionResult_eq_none_iff :
    self.decisionResult commandId = none ↔ commandId ∉ self.decisionIds := by
  rw [decisionResult_eq, Option.map_eq_none_iff, List.find?_eq_none, decisionIds]
  constructor
  · intro none taken
    obtain ⟨record, member, here⟩ := List.mem_flatMap.mp taken
    obtain ⟨result, there, same⟩ := List.mem_map.mp here
    exact none result (List.mem_flatMap.mpr ⟨record, member, there⟩) (by simpa using same)
  · intro unused result member same
    obtain ⟨record, there, here⟩ := List.mem_flatMap.mp member
    apply unused
    have named : result.id = commandId := by simpa using same
    exact List.mem_flatMap.mpr ⟨record, there, List.mem_map.mpr ⟨result, here, named⟩⟩

theorem Named.handled (named : self.Named setup)
    (guarded : ¬(self.Admissible setup command ∧ self.Crossing command))
    (handled : Handled setup self command after) : after.Named setup := by
  cases handled with
  | kept => exact named
  | accepted commandId record workers tasks ordinary valid fresh room able entered =>
      obtain ⟨admissible, crossing⟩ := admissible_of_entered ordinary valid fresh room able
      refine named.enter ordinary valid (fun used => ?_) entered
      rcases mem_ids_iff.mp used with known | taken
      · obtain ⟨other, member, same⟩ := List.mem_map.mp known
        exact fresh other member same
      · exact guarded ⟨admissible, crossing taken⟩
  | decided commandId transaction confirmed parent tasks response asked deciding valid fresh found
      first prompt delivered =>
      have admissible := admissible_of_decided asked deciding valid found first prompt
      have undecided := decisionResult_eq_none_iff.mp fresh
      refine named.recordDecision found deciding valid fun used => ?_
      rcases mem_ids_iff.mp used with known | taken
      · refine guarded ⟨admissible, ?_⟩
        rw [asked]
        exact ⟨undecided, known⟩
      · exact undecided taken

theorem Named.serve (named : self.Named setup) (sound : self.Sound)
    (guarded : KeepsKinds setup self (.command command))
    (served : self.serve setup command = some after) : after.Named setup := by
  obtain ⟨done, handled, rfl⟩ := handled_of_serve sound served
  exact { named.settled.handled guarded (handled_of_handleCommand handled) with }

theorem Named.step (named : self.Named setup) (sound : self.Sound) {label : ControlLabel}
    (guarded : KeepsKinds setup self label) (moved : self.step setup label = some after) :
    after.Named setup := by
  cases label with
  | command command => exact named.serve sound guarded moved
  | workerDone index succeeded =>
      obtain ⟨worker, found, rfl⟩ := Option.map_eq_some_iff.mp moved
      exact { named with }
  | update index update =>
      obtain ⟨task, found, held, same⟩ := withTask_eq_some moved
      cases same
      exact { named with }
  | receive index =>
      obtain ⟨task, found, held, same⟩ := withTask_eq_some moved
      cases same
      exact { named with }
  | release index =>
      obtain ⟨task, found, held, same⟩ := withTask_eq_some moved
      cases same
      exact { named with }
  | _ =>
      cases moved
      exact { named with }

/-! ## Steps that cross -/

theorem acceptOnce_new (valid : validId commandId = true) (unknown : commandId ∉ self.recordIds)
    (room : self.table.length < tableMax) (entered : ControlState × OwnerResponse) :
    self.acceptOnce commandId entered = entered := by
  have none : (self.table.find? fun record => record.id = commandId) = none := by
    rw [List.find?_eq_none]
    intro record member same
    exact unknown (List.mem_map.mpr ⟨record, member, by simpa using same⟩)
  rw [acceptOnce, if_neg (by simp [valid]), none]
  dsimp only
  rw [if_neg (Nat.not_le.mpr room)]

/-- A table with one more record under an id that is taken. -/
theorem not_unique_of_entered (named : record.id = commandId)
    (taken : commandId ∈ self.decisionIds) :
    ¬(((self.table ++ [record]).flatMap CommandRecord.results).map DecisionResult.id).Nodup := by
  intro unique
  rw [present_append, List.map_append, List.nodup_append] at unique
  exact unique.2.2 commandId (mem_ids_iff.mpr (Or.inr taken)) commandId
    (by simp [CommandRecord.results, named]) rfl

theorem table_accept (valid : validId commandId = true) (unknown : commandId ∉ self.recordIds)
    (room : self.table.length < tableMax) (command : OwnerCommand) (operation : Operation) :
    ∃ record, record.id = commandId ∧
      (self.accept command commandId operation).1.table = self.table ++ [record] := by
  rw [accept, acceptOnce_new valid unknown room]
  exact ⟨_, rfl, rfl⟩

theorem table_acceptPairingEvent (valid : validId commandId = true)
    (unknown : commandId ∉ self.recordIds) (room : self.table.length < tableMax)
    (able : self.eventSender ≠ none) (command : OwnerCommand) (kind : PairingKind) :
    ∃ record, record.id = commandId ∧
      (self.acceptPairingEvent command commandId kind).1.table = self.table ++ [record] := by
  rw [acceptPairingEvent, acceptOnce_new valid unknown room, enterPairing]
  split
  · rename_i none
    exact absurd none able
  · exact ⟨_, rfl, rfl⟩
  · exact ⟨_, rfl, rfl⟩

/-- A decision that nothing prevents is recorded, accepted or not. -/
theorem table_acceptPairingDecision (distinct : (self.table.map CommandRecord.id).Nodup)
    {commandId transaction : Text} (valid : validId commandId = true)
    (parentValid : validId parent.id = true) (transactionValid : validId transaction = true)
    (undecided : commandId ∉ self.decisionIds) (found : parent ∈ self.table)
    (first : parent.decisionResults = []) (prompt : parent.prompt = some transaction)
    {confirmed : Bool} {done : ControlState × OwnerResponse}
    (moved : self.acceptPairingDecision command commandId parent.id transaction confirmed =
      some done) :
    ∃ result : DecisionResult, result.id = commandId ∧ done.1.table =
      modifyRecord parent.id (fun record => record.withDecision result) self.table := by
  rw [acceptPairingDecision, if_neg (by simp [valid, parentValid, transactionValid]),
    decisionResult_eq_none_iff.mpr undecided] at moved
  dsimp only at moved
  rw [find?_record distinct found] at moved
  dsimp only at moved
  rw [if_neg (not_not.mpr first), if_neg (not_not.mpr prompt)] at moved
  split at moved
  · cases moved
  · cases moved
    exact ⟨_, rfl, rfl⟩
  · cases moved
    exact ⟨_, rfl, rfl⟩

/-- A crossing that nothing else prevents is recorded. -/
theorem not_unique_of_crossing (sound : self.Sound)
    (admissible : self.settled.Admissible setup command) (crossing : self.settled.Crossing command)
    {done : ControlState × OwnerResponse × Bool}
    (handled : self.handleCommand setup command = some done) :
    ¬(done.1.present.map DecisionResult.id).Nodup := by
  unfold handleCommand at handled
  dsimp only at handled
  cases command with
  | identityInit commandId generation =>
      obtain ⟨valid, current, room⟩ := admissible
      rw [if_neg (not_stale rfl current)] at handled
      cases handled
      obtain ⟨record, named, table⟩ := table_accept valid crossing.1 room _ _
      rw [present, table]
      exact not_unique_of_entered named crossing.2
  | unpair commandId generation peerId =>
      obtain ⟨valid, current, room⟩ := admissible
      rw [if_neg (not_stale rfl current)] at handled
      cases handled
      obtain ⟨record, named, table⟩ := table_accept valid crossing.1 room _ _
      rw [present, table]
      exact not_unique_of_entered named crossing.2
  | pairingWindowOpen commandId generation =>
      obtain ⟨valid, current, room, able⟩ := admissible
      rw [if_neg (not_stale rfl current)] at handled
      cases handled
      obtain ⟨record, named, table⟩ := table_acceptPairingEvent valid crossing.1 room able _ _
      rw [present, table]
      exact not_unique_of_entered named crossing.2
  | pairStart commandId generation address =>
      obtain ⟨valid, current, loopback, room, able⟩ := admissible
      rw [if_neg (not_stale rfl current)] at handled
      dsimp only at handled
      rw [loopback] at handled
      cases handled
      obtain ⟨record, named, table⟩ := table_acceptPairingEvent valid crossing.1 room able _ _
      rw [present, table]
      exact not_unique_of_entered named crossing.2
  | pairingDecide commandId generation parentCommandId transaction confirmed =>
      obtain ⟨valid, current, parentValid, transactionValid, parent, found, rfl, first, prompt⟩ :=
        admissible
      rw [if_neg (not_stale rfl current)] at handled
      obtain ⟨recorded, moved, rfl⟩ := Option.map_eq_some_iff.mp handled
      obtain ⟨result, rfl, table⟩ := table_acceptPairingDecision sound.settled.distinct valid
        parentValid transactionValid crossing.1 found first prompt moved
      rw [present, table]
      intro unique
      have twice := (ids_withDecision found result).nodup_iff.mp unique
      exact (List.nodup_cons.mp twice).1 (mem_ids_iff.mpr (Or.inl crossing.2))
  | _ => cases crossing

end Steps

/-- **When ids stand for one command.** In a run no two commands are ever present under one
id, with what that entails, if and only if no command was recorded under an id of the other
kind. -/
theorem oneCommand_iff_keepsKinds {setup : OwnerSetup} {past : List (ControlState × ControlLabel)}
    {self : ControlState} (run : (machine setup).Run past self) :
    StepSystem.Throughout (OneCommand setup) past self ↔
      StepSystem.Guarded (KeepsKinds setup) past := by
  apply run.throughout_iff_guarded (I := fun self => self.Sound ∧ self.Named setup)
  · rintro _ ⟨now, peer, eventSender, rfl⟩
    exact ⟨sound_started now peer eventSender, List.nodup_nil, fun _ member => (by cases member),
      fun _ member => (by cases member)⟩
  · exact fun self label after invariant guarded moved =>
      ⟨invariant.1.step moved, invariant.2.step invariant.1 guarded moved⟩
  · exact fun self invariant => invariant.2.oneCommand invariant.1
  · intro self label after invariant moved one
    cases label with
    | command command =>
        intro crossed
        obtain ⟨done, handled, rfl⟩ := handled_of_serve invariant.1 moved
        exact not_unique_of_crossing invariant.1 crossed.1 crossed.2 handled one.unique
    | _ => trivial

theorem oneCommand_iff_keepsKinds_decided : ∃ past self, (machine plainSetup).Run past self ∧
    StepSystem.Throughout (OneCommand plainSetup) past self ∧
      self.present.map DecisionResult.id = [idOf '1', idOf '3'] := by
  have ran : ((machine plainSetup).execute (started 0 none (some .listening)) decidedRun).map
      (fun self => self.present.map DecisionResult.id) = some [idOf '1', idOf '3'] := by
    decide +kernel
  have along : (machine plainSetup).Along (KeepsKinds plainSetup)
      (started 0 none (some .listening)) decidedRun := by
    decide +kernel
  obtain ⟨past, self, run, guarded, ids⟩ :=
    StepSystem.exists_guarded_of_map along ran ⟨0, none, some .listening, rfl⟩
  exact ⟨past, self, run, (oneCommand_iff_keepsKinds run).mpr guarded, ids⟩

/-- A decision is accepted under the id of the command it is about, and asking for that id
still answers the prompt. -/
theorem decision_under_parent_id : ∃ self, (machine plainSetup).Reachable self ∧
    ¬self.OneCommand plainSetup ∧
      LogEntry.answered (.pairingDecide (idOf '1') [] (idOf '1') (idOf '2') true)
        .pairingDecisionAccepted ∈ self.log ∧
      self.commandResult (idOf '1') = some (.pairingConfirmationRequired (idOf '2') []) := by
  have ran : ((machine plainSetup).execute (started 0 none (some .listening))
      [.command (.pairingWindowOpen (idOf '1') []),
        .update 0 (.pairingConfirmationRequired (idOf '2') []),
        .command (.pairingDecide (idOf '1') [] (idOf '1') (idOf '2') true)]).map (fun self =>
      (self.present.map DecisionResult.id, self.log.getLast?, self.commandResult (idOf '1'))) =
      some ([idOf '1', idOf '1'],
        some (.answered (.pairingDecide (idOf '1') [] (idOf '1') (idOf '2') true)
          .pairingDecisionAccepted),
        some (.pairingConfirmationRequired (idOf '2') [])) := by
    decide +kernel
  obtain ⟨self, reachable, found⟩ :=
    StepSystem.exists_reachable_of_map ran ⟨0, none, some .listening, rfl⟩
  rw [Prod.mk.injEq, Prod.mk.injEq] at found
  obtain ⟨ids, last, asked⟩ := found
  refine ⟨self, reachable, ?_, List.mem_of_getLast? last, asked⟩
  intro one
  have unique := one.unique
  rw [ids] at unique
  exact absurd unique (by decide)

end ControlState

end Deskkin.OwnerControl
