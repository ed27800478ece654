/-
# Terminal results stay

A final answer about a command is given again until its record expires, and then the
command is unknown. The updates of one command come one after another as long as each
window goes to a connection of its own; a connection that reserves later takes a finished
command up again.
-/

import Deskkin.Owner.OwnerRuntime

namespace Deskkin.OwnerControl

open Host

/-! ## What the log says -/

/-- No pending, waiting or asking answer. -/
def OwnerResponse.final : OwnerResponse → Bool
  | .commandPending => false
  | response => !response.ongoing

namespace LogEntry

/-- The id gets a command of its own. -/
def Starts (id : Text) : LogEntry → Prop
  | .accepted command => command.acceptedId = some id
  | .decided _ _ result => result.id = id
  | _ => False

/-- The id leaves the table with its record. -/
def Ends (id : Text) : LogEntry → Prop
  | .evicted record => id ∈ record.results.map DecisionResult.id
  | _ => False

def response : LogEntry → Option OwnerResponse
  | .answered _ response => some response
  | _ => none

/-- An answer to the question for a result. -/
def result (setup : OwnerSetup) (id : Text) (response : OwnerResponse) : LogEntry :=
  .answered (.commandResult id setup.ownerGeneration) response

end LogEntry

/-- **Final answers are absorbing.** Between a final answer about an id and a later one no
command was accepted under it: then the later one is the same, or unknown if the record
has expired in between. -/
def Absorbing (setup : OwnerSetup) (log : List LogEntry) : Prop :=
  ∀ before between after id first later,
    log = before ++ .result setup id first :: (between ++ .result setup id later :: after) →
    first.final = true → (∀ entry ∈ between, ¬entry.Starts id) →
    ((∃ entry ∈ between, entry.Ends id) → later = .commandUnknown) ∧
      ((∀ entry ∈ between, ¬entry.Ends id) → later = first)

/-- What would be answered now agrees with the final answers so far. -/
def Remembered (setup : OwnerSetup) (log : List LogEntry) (lookup : Text → Option OwnerResponse) :
    Prop :=
  ∀ before between id first, log = before ++ .result setup id first :: between →
    first.final = true → (∀ entry ∈ between, ¬entry.Starts id) →
    ((∃ entry ∈ between, entry.Ends id) → lookup id = none) ∧
      ((∀ entry ∈ between, ¬entry.Ends id) → (lookup id).getD .commandUnknown = first)

/-- An entry of a log that went on was there before or is new. -/
theorem split_append {log entries before after : List LogEntry} {entry : LogEntry}
    (split : log ++ entries = before ++ entry :: after) :
    (∃ more, after = more ++ entries ∧ log = before ++ entry :: more) ∨
      ∃ more, before = log ++ more ∧ entries = more ++ entry :: after := by
  rcases List.append_eq_append_iff.mp split with ⟨more, there, here⟩ | ⟨more, there, here⟩
  · exact Or.inr ⟨more, there, here⟩
  · cases more with
    | nil =>
        rw [List.append_nil] at there
        exact Or.inr ⟨[], by rw [there, List.append_nil], here.symm⟩
    | cons first more =>
        rw [List.cons_append, List.cons.injEq] at here
        exact Or.inl ⟨more, here.2, here.1 ▸ there⟩

section Log

variable {setup : OwnerSetup} {log entries : List LogEntry}
  {lookup later : Text → Option OwnerResponse}

/-- Entries that answer no question leave the answers as they are. -/
theorem Absorbing.append (absorbing : Absorbing setup log)
    (unasked : ∀ id response, .result setup id response ∉ entries) :
    Absorbing setup (log ++ entries) := by
  intro before between after id first last split
  rw [← List.cons_append, ← List.append_assoc] at split
  rcases split_append split with ⟨more, -, there⟩ | ⟨more, -, here⟩
  · rw [List.append_assoc, List.cons_append] at there
    exact absorbing before between more id first last there
  · rw [here] at unasked
    exact absurd (List.mem_append_right _ List.mem_cons_self) (unasked id last)

/-- What was answered finally is still answered, where the entries do not say otherwise. -/
theorem Remembered.append (remembered : Remembered setup log lookup)
    (unasked : ∀ id response, .result setup id response ∉ entries)
    (gone : ∀ id, (∀ entry ∈ entries, ¬entry.Starts id) → (∃ entry ∈ entries, entry.Ends id) →
      later id = none)
    (same : ∀ id, (∀ entry ∈ entries, ¬entry.Starts id) → (∀ entry ∈ entries, ¬entry.Ends id) →
      ((lookup id).getD .commandUnknown).final = true → later id = lookup id) :
    Remembered setup (log ++ entries) later := by
  intro before between id first split final unstarted
  rcases split_append split with ⟨more, rfl, there⟩ | ⟨more, -, here⟩
  · rw [List.forall_mem_append] at unstarted
    obtain ⟨ended, kept⟩ := remembered before more id first there final unstarted.1
    by_cases now : ∃ entry ∈ entries, entry.Ends id
    · refine ⟨fun _ => gone id unstarted.2 now, fun never => ?_⟩
      obtain ⟨entry, member, ends⟩ := now
      exact absurd ends (never entry (List.mem_append_right _ member))
    · have never : ∀ entry ∈ entries, ¬entry.Ends id := fun entry member ends =>
        now ⟨entry, member, ends⟩
      have still := same id unstarted.2 never
      constructor
      · rintro ⟨entry, member, ends⟩
        rcases List.mem_append.mp member with earlier | late
        · have nothing := ended ⟨entry, earlier, ends⟩
          rw [still (by rw [nothing]; rfl), nothing]
        · exact absurd ends (never entry late)
      · intro unended
        rw [List.forall_mem_append] at unended
        have answer := kept unended.1
        rw [still (by rw [answer]; exact final), answer]
  · rw [here] at unasked
    exact absurd (List.mem_append_right _ List.mem_cons_self) (unasked id first)

/-- The last entry of a log is a question that was answered. -/
theorem eq_of_result {id other : Text} {response first : OwnerResponse} {more after : List LogEntry}
    (same : [LogEntry.result setup id response] = more ++ .result setup other first :: after) :
    more = [] ∧ after = [] ∧ other = id ∧ first = response := by
  cases more with
  | nil =>
      rw [List.nil_append, List.cons.injEq, LogEntry.result, LogEntry.result,
        LogEntry.answered.injEq, OwnerCommand.commandResult.injEq] at same
      exact ⟨rfl, same.2.symm, same.1.1.1.symm, same.1.2.symm⟩
  | cons entry more => simp at same

/-- A question is answered with what is remembered. -/
theorem Absorbing.ask (absorbing : Absorbing setup log) (remembered : Remembered setup log lookup)
    (id : Text) :
    Absorbing setup (log ++ [.result setup id ((lookup id).getD .commandUnknown)]) := by
  intro before between after other first last split final unstarted
  rw [← List.cons_append, ← List.append_assoc] at split
  rcases split_append split with ⟨more, -, there⟩ | ⟨more, there, here⟩
  · rw [List.append_assoc, List.cons_append] at there
    exact absorbing before between more other first last there final unstarted
  · obtain ⟨rfl, rfl, rfl, rfl⟩ := eq_of_result here
    rw [List.append_nil] at there
    obtain ⟨ended, kept⟩ := remembered before between _ first there.symm final unstarted
    exact ⟨fun ends => by rw [ended ends]; rfl, kept⟩

theorem Remembered.ask (remembered : Remembered setup log lookup) (id : Text) :
    Remembered setup (log ++ [.result setup id ((lookup id).getD .commandUnknown)]) lookup := by
  intro before between other first split final unstarted
  rcases split_append split with ⟨more, rfl, there⟩ | ⟨more, rfl, here⟩
  · rw [List.forall_mem_append] at unstarted
    obtain ⟨ended, kept⟩ := remembered before more other first there final unstarted.1
    refine ⟨?_, fun unended => kept fun entry member =>
      unended entry (List.mem_append_left _ member)⟩
    rintro ⟨entry, member, ends⟩
    rcases List.mem_append.mp member with earlier | last
    · exact ended ⟨entry, earlier, ends⟩
    · rw [List.mem_singleton.mp last] at ends
      cases ends
  · obtain ⟨rfl, rfl, rfl, rfl⟩ := eq_of_result here
    exact ⟨fun ended => (by obtain ⟨entry, member, -⟩ := ended; cases member), fun _ => rfl⟩

end Log

namespace ControlState

section Lookups

variable {setup : OwnerSetup} {self : ControlState} {id : Text}

/-! ## What is answered after a step -/

variable {table : List CommandRecord} {command : OwnerCommand} {tasks : List PairingTask}

/-- A change that leaves the answers of the records under an id. -/
theorem findSome?_modifyRecord {target : Text} {change : CommandRecord → CommandRecord}
    (same : ∀ record ∈ table, record.id = target → (change record).answer id = record.answer id) :
    (modifyRecord target change table).findSome? (fun record => record.answer id) =
      table.findSome? fun record => record.answer id := by
  induction table with
  | nil => rfl
  | cons record records ih =>
      rw [List.forall_mem_cons] at same
      rw [modifyRecord]
      split
      · rename_i here
        rw [List.findSome?_cons, List.findSome?_cons, same.1 here]
      · rw [List.findSome?_cons, List.findSome?_cons, ih same.2]

theorem findSome?_completions {completions : List Completion}
    (spared : ∀ completion ∈ completions, completion.id = id → id ∉ table.map CommandRecord.id) :
    (completions.foldl complete table).findSome? (fun record => record.answer id) =
      table.findSome? fun record => record.answer id := by
  induction completions generalizing table with
  | nil => rfl
  | cons completion completions ih =>
      rw [List.forall_mem_cons] at spared
      have ids : (complete table completion).map CommandRecord.id = table.map CommandRecord.id :=
        map_modifyRecord fun _ => rfl
      rw [List.foldl_cons, ih (ids.symm ▸ spared.2)]
      apply findSome?_modifyRecord
      intro record member named
      have other : record.id ≠ id := by
        intro same
        apply spared.1 (named.symm.trans same)
        exact List.mem_map.mpr ⟨record, member, same⟩
      have current : (record.withResponse completion.response completion.completedAt).id ≠ id :=
        other
      rw [CommandRecord.answer, CommandRecord.answer, if_neg current, if_neg other]
      rfl

/-- The completions that come do not touch a final answer. -/
theorem commandResult_applyCompletions (sound : self.Sound) (named : self.Named setup)
    {owes : Text → Prop} (pending : self.Pending owes)
    (final : ((self.commandResult id).getD .commandUnknown).final = true) :
    self.applyCompletions.commandResult id = self.commandResult id := by
  apply findSome?_completions
  intro completion posted same known
  obtain ⟨record, member, rfl⟩ := List.mem_map.mp known
  have there : (⟨record.id, record.current, record.command⟩ : DecisionResult) ∈ self.present :=
    List.mem_flatMap.mpr ⟨record, member, List.mem_cons_self⟩
  rw [commandResult_eq, find?_of_mem named.unique there, Option.map_some, Option.getD_some] at final
  cases answered : record.response with
  | none =>
      rw [CommandRecord.current, answered] at final
      cases final
  | some response =>
      rw [CommandRecord.current, answered] at final
      have closed : response.ongoing = false := by
        cases response <;> first | rfl | cases final
      exact pending.quiet sound member answered closed completion posted same

theorem commandResult_eq_none_iff :
    self.commandResult id = none ↔ id ∉ self.present.map DecisionResult.id := by
  rw [commandResult_eq, Option.map_eq_none_iff, List.find?_eq_none]
  constructor
  · intro none there
    obtain ⟨result, member, same⟩ := List.mem_map.mp there
    exact none result member (by simpa using same)
  · intro missing result member same
    exact missing (List.mem_map.mpr ⟨result, member, by simpa using same⟩)

/-- The ids of two records are apart. -/
theorem eq_of_mem_results (named : self.Named setup) {one two : CommandRecord}
    (first : one ∈ self.table) (second : two ∈ self.table)
    (mine : id ∈ one.results.map DecisionResult.id)
    (theirs : id ∈ two.results.map DecisionResult.id) : one = two := by
  have unique := named.unique
  rw [present, List.map_flatMap, List.nodup_flatMap] at unique
  have symmetric : Std.Symm (Function.onFun List.Disjoint fun record : CommandRecord =>
      record.results.map DecisionResult.id) :=
    ⟨fun one two apart _ first second => apart second first⟩
  by_contra different
  exact unique.2.forall first second different mine theirs

/-- What expires is unknown, and nothing else changes. -/
theorem commandResult_expireTerminal (named : self.Named setup) :
    ((∃ record ∈ self.table, self.recent record = false ∧
        id ∈ record.results.map DecisionResult.id) →
      self.expireTerminal.commandResult id = none) ∧
    ((∀ record ∈ self.table, self.recent record = false →
        id ∉ record.results.map DecisionResult.id) →
      self.expireTerminal.commandResult id = self.commandResult id) := by
  constructor
  · rintro ⟨record, member, expired, mine⟩
    rw [commandResult_eq_none_iff, present, List.map_flatMap]
    intro there
    obtain ⟨other, kept, theirs⟩ := List.mem_flatMap.mp there
    obtain ⟨earlier, recent⟩ := List.mem_filter.mp kept
    rw [eq_of_mem_results named member earlier mine theirs, recent] at expired
    cases expired
  · intro spared
    cases found : self.commandResult id with
    | none =>
        rw [commandResult_eq_none_iff] at found ⊢
        intro there
        apply found
        have kept : (self.table.filter self.recent).Sublist self.table := List.filter_sublist
        exact ((kept.flatMap CommandRecord.results).map _).subset there
    | some response =>
        rw [commandResult_eq] at found ⊢
        obtain ⟨result, here, rfl⟩ := Option.map_eq_some_iff.mp found
        obtain ⟨record, member, inside⟩ := List.mem_flatMap.mp (List.mem_of_find?_eq_some here)
        have same : result.id = id := by simpa using List.find?_some here
        subst same
        have recent : self.recent record = true := by
          rw [← Bool.not_eq_false]
          intro expired
          exact spared record member expired (List.mem_map_of_mem inside)
        have kept : result ∈ self.expireTerminal.present :=
          List.mem_flatMap.mpr ⟨record, List.mem_filter.mpr ⟨member, recent⟩, inside⟩
        rw [find?_of_mem named.expireTerminal.unique kept, Option.map_some]

/-- A new record answers for its own id only. -/
theorem commandResult_enter {commandId : Text} {record : CommandRecord} {workers : List Worker}
    (entered : Entered self command commandId record workers tasks) (other : commandId ≠ id) :
    (self.enter command record workers tasks).commandResult id = self.commandResult id := by
  have silent : record.answer id = none := by
    cases entered <;> simp [CommandRecord.answer, other]
  rw [commandResult, ControlState.enter, List.findSome?_append, List.findSome?_cons, silent,
    List.findSome?_nil, Option.or_none, commandResult]

/-- A decision answers for its own id only. -/
theorem commandResult_recordDecision {parent : CommandRecord} {transaction : Text}
    {result : DecisionResult} (other : result.id ≠ id) :
    (self.recordDecision tasks parent transaction result).commandResult id =
      self.commandResult id := by
  apply findSome?_modifyRecord
  intro record member named
  have current : (record.withDecision result).current = record.current := rfl
  simp only [CommandRecord.answer, CommandRecord.withDecision, List.find?_append]
  split
  · rfl
  · simp [other]

/-! ## A command -/

theorem acceptedId_of_ordinary {commandId : Text} (ordinary : Ordinary setup commandId command) :
    command.acceptedId = some commandId := by
  cases command with
  | identityInit | unpair | pairingWindowOpen | pairStart =>
      exact congrArg some ordinary.1
  | _ => cases ordinary

/-- The answers that are remembered survive what comes before a command. -/
theorem remembered_settled (sound : self.Sound) (named : self.Named setup) {owes : Text → Prop}
    (pending : self.Pending owes) (absorbing : Absorbing setup self.log)
    (remembered : Remembered setup self.log self.commandResult) :
    Absorbing setup self.settled.log ∧
      Remembered setup self.settled.log self.settled.commandResult := by
  have unasked : ∀ id response, LogEntry.result setup id response ∉
      (self.applyCompletions.table.filter fun record => !self.applyCompletions.recent record).map
        LogEntry.evicted := by
    intro id response member
    obtain ⟨record, -, impossible⟩ := List.mem_map.mp member
    cases impossible
  refine ⟨absorbing.append unasked, remembered.append unasked ?_ ?_⟩
  · rintro id - ⟨entry, member, ends⟩
    obtain ⟨record, expired, rfl⟩ := List.mem_map.mp member
    obtain ⟨there, old⟩ := List.mem_filter.mp expired
    exact (commandResult_expireTerminal named.applyCompletions).1
      ⟨record, there, by simpa using old, ends⟩
  · intro id _ spared final
    have kept : self.settled.commandResult id = self.applyCompletions.commandResult id := by
      apply (commandResult_expireTerminal named.applyCompletions).2
      intro record there old ends
      apply spared (.evicted record) _ ends
      exact List.mem_map_of_mem (List.mem_filter.mpr ⟨there, by simp [old]⟩)
    rw [kept]
    exact commandResult_applyCompletions sound named pending final

/-- A command that is recorded speaks for its own id only. -/
theorem remembered_handled {after : ControlState} (handled : Handled setup self command after)
    (absorbing : Absorbing setup self.log)
    (remembered : Remembered setup self.log self.commandResult) :
    Absorbing setup after.log ∧ Remembered setup after.log after.commandResult := by
  cases handled with
  | kept => exact ⟨absorbing, remembered⟩
  | accepted commandId record workers tasks ordinary valid fresh room able entered =>
      have unasked : ∀ id response,
          LogEntry.result setup id response ∉ [LogEntry.accepted command] := by
        intro id response member
        cases List.mem_singleton.mp member
      refine ⟨absorbing.append unasked, remembered.append unasked ?_ fun id unstarted _ _ => ?_⟩
      · rintro id - ⟨entry, member, ends⟩
        rw [List.mem_singleton.mp member] at ends
        cases ends
      · apply commandResult_enter entered
        rintro rfl
        exact unstarted _ (List.mem_singleton_self _) (acceptedId_of_ordinary ordinary)
  | decided commandId transaction confirmed parent tasks response asked deciding valid fresh found
      first prompt delivered =>
      have unasked : ∀ id answer, LogEntry.result setup id answer ∉
          [LogEntry.decided parent transaction ⟨commandId, response, command⟩] := by
        intro id answer member
        cases List.mem_singleton.mp member
      refine ⟨absorbing.append unasked, remembered.append unasked ?_ fun id unstarted _ _ => ?_⟩
      · rintro id - ⟨entry, member, ends⟩
        rw [List.mem_singleton.mp member] at ends
        cases ends
      · apply commandResult_recordDecision
        rintro rfl
        exact unstarted _ (List.mem_singleton_self _) rfl

/-- The answer to a command. -/
theorem remembered_answer {done : ControlState × OwnerResponse × Bool}
    (handled : self.handleCommand setup command = some done)
    (absorbing : Absorbing setup done.1.log)
    (remembered : Remembered setup done.1.log done.1.commandResult) :
    Absorbing setup (done.1.note (.answered command done.2.1)).log ∧
      Remembered setup (done.1.note (.answered command done.2.1)).log done.1.commandResult := by
  by_cases question : ∃ id, command = .commandResult id setup.ownerGeneration
  · obtain ⟨id, rfl⟩ := question
    unfold handleCommand at handled
    dsimp only at handled
    rw [if_neg (not_stale rfl rfl)] at handled
    cases handled
    exact ⟨absorbing.ask remembered id, remembered.ask id⟩
  · have unasked : ∀ id response, LogEntry.result setup id response ∉
        [LogEntry.answered command done.2.1] := by
      intro id response member
      rw [List.mem_singleton, LogEntry.result, LogEntry.answered.injEq] at member
      exact question ⟨id, member.1.symm⟩
    refine ⟨absorbing.append unasked, remembered.append unasked ?_ fun _ _ _ _ => rfl⟩
    rintro id - ⟨entry, member, ends⟩
    rw [List.mem_singleton.mp member] at ends
    cases ends

end Lookups

end ControlState

namespace OwnerRuntime

/-- The invariant of the runs that are not disturbed. -/
structure Faithful (setup : OwnerSetup) (runtime : OwnerRuntime) : Prop where
  orderly : runtime.Orderly setup
  absorbing : Absorbing setup runtime.control.log
  remembered : Remembered setup runtime.control.log runtime.control.commandResult

section Steps

variable {setup : OwnerSetup} {self after : OwnerRuntime}

/-- A step without a command leaves the log and the answers. -/
theorem Faithful.keep (faithful : self.Faithful setup) (orderly : after.Orderly setup)
    (log : after.control.log = self.control.log)
    (table : after.control.table = self.control.table) :
    after.Faithful setup := by
  have same : after.control.commandResult = self.control.commandResult := by
    funext id
    rw [ControlState.commandResult, table, ControlState.commandResult]
  exact ⟨orderly, log ▸ faithful.absorbing, by rw [log, same]; exact faithful.remembered⟩

theorem postAll_log (control : ControlState) (updates : List (OwnerPairingTask × TaskUpdate)) :
    (postAll control updates).log = control.log ∧
      (postAll control updates).table = control.table := by
  induction updates generalizing control with
  | nil => exact ⟨rfl, rfl⟩
  | cons update updates ih => exact ih _

theorem Faithful.command (faithful : self.Faithful setup) {command : OwnerCommand}
    {control : ControlState} (served : self.control.serve setup command = some control)
    (orderly : Orderly setup { self with control := control }) :
    Faithful setup { self with control := control } := by
  obtain ⟨done, handled, rfl⟩ := ControlState.handled_of_serve faithful.orderly.sound served
  obtain ⟨absorbing, remembered⟩ := ControlState.remembered_settled faithful.orderly.sound
    faithful.orderly.named faithful.orderly.pending faithful.absorbing faithful.remembered
  obtain ⟨absorbing, remembered⟩ := ControlState.remembered_handled
    (ControlState.handled_of_handleCommand handled) absorbing remembered
  obtain ⟨absorbing, remembered⟩ := ControlState.remembered_answer handled absorbing remembered
  exact ⟨orderly, absorbing, remembered⟩

theorem Faithful.step (faithful : self.Faithful setup) {label : RuntimeLabel}
    (guarded : Undisturbed setup self label) (moved : self.step setup label = some after) :
    after.Faithful setup := by
  have orderly := faithful.orderly.step guarded moved
  cases label with
  | tick elapsed =>
      cases moved
      exact faithful.keep orderly rfl rfl
  | loop label =>
      simp only [OwnerRuntime.step, Option.ite_none_right_eq_some] at moved
      obtain ⟨loop, stepped, rfl⟩ := Option.map_eq_some_iff.mp moved.2
      exact faithful.keep orderly (postAll_log _ _).1 (postAll_log _ _).2
  | control label =>
      cases label with
      | tick elapsed => cases moved
      | update index update => cases moved
      | command command =>
          obtain ⟨control, served, rfl⟩ := Option.map_eq_some_iff.mp moved
          exact faithful.command served orderly
      | workerDone index succeeded =>
          obtain ⟨control, stepped, rfl⟩ := Option.map_eq_some_iff.mp moved
          obtain ⟨worker, found, rfl⟩ := Option.map_eq_some_iff.mp stepped
          exact faithful.keep orderly rfl rfl
      | receive index =>
          obtain ⟨control, stepped, rfl⟩ := Option.map_eq_some_iff.mp moved
          obtain ⟨task, found, held, same⟩ := ControlState.withTask_eq_some stepped
          cases same
          exact faithful.keep orderly rfl rfl
      | release index =>
          obtain ⟨control, stepped, rfl⟩ := Option.map_eq_some_iff.mp moved
          obtain ⟨task, found, held, same⟩ := ControlState.withTask_eq_some stepped
          cases same
          exact faithful.keep orderly rfl rfl
      | _ =>
          cases moved
          exact faithful.keep orderly rfl rfl

end Steps

/-- **Final answers stay in undisturbed runs.** No command is recorded under an id of the
other kind, every reservation is granted while the window of its task is open, and every
connection that is accepted for a window is cloned: then in every state of the run the
final answers are absorbing. -/
theorem absorbing_throughout {setup : OwnerSetup} {past : List (OwnerRuntime × RuntimeLabel)}
    {self : OwnerRuntime} (run : (machine setup).Run past self)
    (guarded : StepSystem.Guarded (Undisturbed setup) past) :
    StepSystem.Throughout (fun self => Absorbing setup self.control.log) past self := by
  apply run.throughout_of_guarded (I := Faithful setup) _ _ _ guarded
  · rintro _ ⟨now, actor, eventSender, peer, rfl⟩
    refine ⟨orderly_started now actor eventSender peer,
      fun before between after id first later split => ?_,
      fun before between id first split => ?_⟩
    · have lengths := congrArg List.length split
      simp [started, ControlState.started] at lengths
    · have lengths := congrArg List.length split
      simp [started, ControlState.started] at lengths
  · exact fun self label after faithful guarded moved => faithful.step guarded moved
  · exact fun self faithful => faithful.absorbing

/-! ## A connection that reserves late -/

open ControlState (idOf plainSetup)

/-- Asks for the result of the first command. -/
def askFirst : RuntimeLabel := .control (.command (.commandResult (idOf '1') []))

/-- Two connections of a window pass the deadline; the first one reserves and fails. -/
def firstFailed : List RuntimeLabel :=
  [.control (.command (.pairingWindowOpen (idOf '1') [])),
    .loop (.pairingWindowOpen (idOf '1') minute), .loop .look, .loop (.accept 0 true), .loop .look,
    .loop (.accept 1 true), .loop (.passDeadline 0), .loop (.passDeadline 1), .loop (.reserve 0),
    .loop .look, .loop (.finish 0 false), askFirst, .loop (.signal 0),
    .loop .noPairingConnection, .loop .look, askFirst]

/-- The second one then reserves the flags that were cleared, and asks the owner. -/
def secondAsks : List RuntimeLabel :=
  firstFailed ++ [.loop (.reserve 1), .loop (.ask 1 (idOf '2') []), askFirst]

def quietStart : OwnerRuntime := started 0 none (some .listening) .unpaired

/-- The answers so far. -/
def answers (self : OwnerRuntime) : List OwnerResponse :=
  self.control.log.filterMap LogEntry.response

theorem absorbing_throughout_first : ∃ past self, (machine plainSetup).Run past self ∧
    StepSystem.Throughout (fun self => Absorbing plainSetup self.control.log) past self ∧
      self.answers = [.commandAccepted, .operationFailed, .operationFailed] := by
  have ran : ((machine plainSetup).execute quietStart firstFailed).map answers =
      some [.commandAccepted, .operationFailed, .operationFailed] := by
    decide +kernel
  have along : (machine plainSetup).Along (Undisturbed plainSetup) quietStart firstFailed := by
    decide +kernel
  obtain ⟨past, self, run, guarded, answered⟩ :=
    StepSystem.exists_guarded_of_map along ran ⟨0, none, some .listening, .unpaired, rfl⟩
  exact ⟨past, self, run, absorbing_throughout run guarded, answered⟩

/-- The command that has failed is asked about again. -/
theorem prompt_after_failure : ∃ self, (machine plainSetup).Reachable self ∧
    ¬Absorbing plainSetup self.control.log ∧
      self.answers = [.commandAccepted, .operationFailed, .operationFailed,
        .pairingConfirmationRequired (idOf '2') []] := by
  have ran : ((machine plainSetup).execute quietStart secondAsks).map
      (fun self => (self.control.log, self.answers)) =
      some ([.accepted (.pairingWindowOpen (idOf '1') []),
        .answered (.pairingWindowOpen (idOf '1') []) .commandAccepted,
        .result plainSetup (idOf '1') .operationFailed,
        .result plainSetup (idOf '1') .operationFailed,
        .result plainSetup (idOf '1') (.pairingConfirmationRequired (idOf '2') [])],
        [.commandAccepted, .operationFailed, .operationFailed,
          .pairingConfirmationRequired (idOf '2') []]) := by
    decide +kernel
  obtain ⟨self, reachable, found⟩ :=
    StepSystem.exists_reachable_of_map ran ⟨0, none, some .listening, .unpaired, rfl⟩
  rw [Prod.mk.injEq] at found
  refine ⟨self, reachable, fun absorbing => ?_, found.2⟩
  rw [found.1] at absorbing
  have same := (absorbing _ [] _ (idOf '1') _ _ (List.append_cons (_ :: _ :: [_]) _ _).symm rfl
    (fun _ member => by cases member)).2 fun _ member => by cases member
  cases same

end OwnerRuntime

end Deskkin.OwnerControl
