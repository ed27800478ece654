/-
# Acknowledged actions

A Run or a Shutdown is answered before the worker carries it out, and until then
only the slot remembers it. As long as nothing else is stored in the slot
meanwhile, the worker finds the action when it swaps the slot, which it does
before it decides whether to connect. A choice of the user, or a Run accepted
after the Shutdown that ended a connection, overwrites it.
-/

import Deskkin.Device.UiAction

namespace Deskkin.Device.ServiceWorker

/-- The slot holds the action of an accepted command. -/
def HoldsCommand (worker : ServiceWorker) : Prop :=
  worker.uiAction = .run ∨ worker.uiAction = .shutdown

/-- While the slot holds the action of a command, the user stores no choice and
the loop takes no Run. -/
def Undisturbed (worker : ServiceWorker) : WorkerLabel → Prop
  | .uiCommand command => UiAction.ofCommand command ≠ none → ¬worker.HoldsCommand
  | .takeCommand (some (some frame)) _ =>
      frame.command = .run → frame.payload = [] → ¬worker.HoldsCommand
  | _ => True

/-- No attempt began while a Shutdown was owed, and no decision was made while a
Run was owed. -/
def KeepsWord (worker : ServiceWorker) : Prop :=
  worker.shutdownLost = false ∧ worker.runLost = false

/-! ## The invariant -/

/-- Nothing is owed and the slot holds no command. -/
structure Free (worker : ServiceWorker) : Prop where
  shutdown : worker.shutdownOwed = false
  run : worker.runOwed = false
  slot : ¬worker.HoldsCommand

/-- A Shutdown that is owed is in the slot, and no Run is. -/
structure ShutdownKept (worker : ServiceWorker) : Prop where
  shutdown : worker.shutdownOwed = true → worker.uiAction = .shutdown
  run : worker.runOwed = false
  slot : worker.uiAction ≠ .run

/-- What is owed is in the slot. -/
structure Kept (worker : ServiceWorker) : Prop where
  shutdown : worker.shutdownOwed = true → worker.uiAction = .shutdown
  run : worker.runOwed = true → worker.uiAction = .run

/-- An answer about to go out: a success of a command has its action in the slot. -/
structure AnswerKept (worker : ServiceWorker) (frame : Option ControlFrame)
    (status : ServiceStatus) : Prop where
  shutdown : worker.shutdownOwed = true → worker.uiAction = .shutdown
  run : worker.runOwed = false
  stored : status = .success → ∀ frame' ∈ frame,
    (frame'.command = .shutdown → worker.uiAction = .shutdown) ∧
      (frame'.command = .run → worker.uiAction = .run ∧ worker.shutdownOwed = false)

/-- What each phase knows. -/
def PhaseKept (worker : ServiceWorker) : Prop :=
  match worker.phase with
  | .top | .returned _ => worker.ShutdownKept
  | .handled frame status => worker.AnswerKept frame status
  | .swapping => worker.Kept
  | .closing .shutdown =>
      worker.shutdownOwed = false ∧ worker.runOwed = false ∧ worker.uiAction = .shutdown
  | .deciding _ | .connection _ | .pairingPrompt | .pairingWait | .closing .unpair => worker.Free

structure Faithful (worker : ServiceWorker) : Prop where
  word : worker.KeepsWord
  phase : worker.PhaseKept

variable {worker next : ServiceWorker}

theorem Free.shutdownKept (free : worker.Free) : worker.ShutdownKept where
  shutdown := fun owed => by
    rw [free.shutdown] at owed
    cases owed
  run := free.run
  slot := fun same => free.slot (.inl same)

/-! ## Steps -/

section

variable (holds : worker.Faithful)
include holds

/-- A choice of the user is stored only where no command is. -/
theorem Faithful.serviceUiCommand {command : ℕ}
    (undisturbed : worker.Undisturbed (.uiCommand command)) :
    (worker.serviceUiCommand command).Faithful := by
  unfold ServiceWorker.serviceUiCommand
  cases known : UiAction.ofCommand command with
  | none => exact holds
  | some action =>
      have empty : ¬worker.HoldsCommand := undisturbed (by simp [known])
      have choice : action ≠ .run ∧ action ≠ .shutdown := by
        unfold UiAction.ofCommand at known
        split at known <;> cases known <;> exact ⟨nofun, nofun⟩
      have shutdownFree : (worker.shutdownOwed = true → worker.uiAction = .shutdown) →
          ¬worker.shutdownOwed = true := fun kept owed => empty (.inr (kept owed))
      have runFree : (worker.runOwed = true → worker.uiAction = .run) →
          ¬worker.runOwed = true := fun kept owed => empty (.inl (kept owed))
      have phase := holds.phase
      refine ⟨holds.word, ?_⟩
      unfold PhaseKept at phase ⊢
      cases here : worker.phase with
      | top | returned outcome =>
          simp only [here] at phase ⊢
          exact ⟨fun owed => absurd owed (shutdownFree phase.shutdown), phase.run, choice.1⟩
      | handled frame status =>
          simp only [here] at phase ⊢
          refine ⟨fun owed => absurd owed (shutdownFree phase.shutdown), phase.run, ?_⟩
          · intro success frame' member
            have stored := phase.stored success frame' member
            exact ⟨fun same => absurd (.inr (stored.1 same)) empty,
              fun same => absurd (.inl (stored.2 same).1) empty⟩
      | swapping =>
          simp only [here] at phase ⊢
          exact ⟨fun owed => absurd owed (shutdownFree phase.shutdown),
            fun owed => absurd owed (runFree phase.run)⟩
      | deciding pairRequested | connection pairRequested | pairingPrompt | pairingWait =>
          simp only [here] at phase ⊢
          exact ⟨phase.shutdown, phase.run, fun held => held.elim choice.1 choice.2⟩
      | closing active =>
          cases active with
          | shutdown =>
              simp only [here] at phase
              exact absurd (.inr phase.2.2) empty
          | unpair =>
              simp only [here] at phase ⊢
              exact ⟨phase.shutdown, phase.run, fun held => held.elim choice.1 choice.2⟩

/-- An accepted command has its action in the slot, and an owed Shutdown stays
there: the command that was taken is then no Run. -/
theorem Faithful.takeCommand {frame : Option (Option ControlFrame)} {answer : ServiceStatus}
    (undisturbed : worker.Undisturbed (.takeCommand frame answer))
    (moved : worker.takeCommand frame answer = some next) : next.Faithful := by
  simp only [ServiceWorker.takeCommand, Option.ite_none_right_eq_some] at moved
  obtain ⟨top, moved⟩ := moved
  have phase := holds.phase
  simp only [PhaseKept, top] at phase
  cases frame with
  | none =>
      cases moved
      exact ⟨holds.word, phase.shutdown, fun owed => absurd (phase.run.symm.trans owed) nofun⟩
  | some frame =>
      cases frame with
      | none =>
          cases moved
          exact ⟨holds.word, phase.shutdown, phase.run, nofun⟩
      | some frame =>
          obtain ⟨command, ownerGeneration, payload⟩ := frame
          have other : command ≠ .run → command ≠ .shutdown →
              ({ worker with
                phase := .handled (some ⟨command, ownerGeneration, payload⟩) answer } :
                  ServiceWorker).Faithful := by
            intro notRun notShutdown
            refine ⟨holds.word, phase.shutdown, phase.run, ?_⟩
            intro _ frame' member
            cases member
            exact ⟨fun same => absurd same notShutdown, fun same => absurd same notRun⟩
          cases command with
          | run =>
              simp only [handleControl, Option.some.injEq] at moved
              rw [← moved]
              by_cases empty : payload = []
              · have nothing : worker.shutdownOwed = false := Bool.eq_false_iff.mpr
                  fun owed => undisturbed rfl empty (.inr (phase.shutdown owed))
                rw [if_pos empty]
                by_cases exhausted : u32Next worker.runAttempt = 0
                · rw [if_pos exhausted]
                  exact ⟨holds.word, phase.shutdown, phase.run, nofun⟩
                · rw [if_neg exhausted]
                  refine ⟨holds.word, fun owed => ?_, phase.run, ?_⟩
                  · exact absurd (nothing.symm.trans owed) nofun
                  · intro _ frame' member
                    cases member
                    exact ⟨nofun, fun _ => ⟨rfl, nothing⟩⟩
              · rw [if_neg empty]
                exact ⟨holds.word, phase.shutdown, phase.run, nofun⟩
          | shutdown =>
              simp only [handleControl, Option.some.injEq] at moved
              rw [← moved]
              by_cases empty : payload = []
              · rw [if_pos empty]
                refine ⟨holds.word, fun _ => rfl, phase.run, ?_⟩
                intro _ frame' member
                cases member
                exact ⟨fun _ => rfl, nofun⟩
              · rw [if_neg empty]
                exact ⟨holds.word, phase.shutdown, phase.run, nofun⟩
          | identityInit | identityList | identityUnpair | wifiProvision | wifiStatus | wifiClear
          | status | worldBenchmarkStart =>
              cases moved
              exact other nofun nofun

theorem Faithful.publishCompletion (moved : worker.publishCompletion = some next) :
    next.Faithful := by
  have phase := holds.phase
  unfold ServiceWorker.publishCompletion at moved
  unfold PhaseKept at phase
  split at moved
  · rename_i frame status here
    cases moved
    simp only [here] at phase
    refine ⟨holds.word, ?_, ?_⟩
    · intro owed
      rcases (Bool.or_eq_true _ _).mp owed with earlier | now
      · exact phase.shutdown earlier
      · obtain ⟨named, success⟩ := of_decide_eq_true now
        obtain ⟨frame', member, command⟩ := Option.map_eq_some_iff.mp named
        exact (phase.stored success frame' member).1 command
    · intro owed
      rcases (Bool.or_eq_true _ _).mp owed with earlier | now
      · exact absurd (phase.run.symm.trans earlier) nofun
      · obtain ⟨named, success⟩ := of_decide_eq_true now
        obtain ⟨frame', member, command⟩ := Option.map_eq_some_iff.mp named
        exact ((phase.stored success frame' member).2 command).1
  · cases moved

/-- The swap finds whatever is owed. -/
theorem Faithful.swap (moved : worker.swap = some next) : next.Faithful := by
  simp only [ServiceWorker.swap, Option.ite_none_right_eq_some] at moved
  obtain ⟨swapping, moved⟩ := moved
  have phase := holds.phase
  simp only [PhaseKept, swapping] at phase
  have empty : ¬(UiAction.clear = .run ∨ UiAction.clear = .shutdown) := by simp
  have shutdownFree : worker.uiAction ≠ .shutdown → worker.shutdownOwed = false :=
    fun other => Bool.eq_false_iff.mpr fun owed => other (phase.shutdown owed)
  have runFree : worker.uiAction ≠ .run → worker.runOwed = false :=
    fun other => Bool.eq_false_iff.mpr fun owed => other (phase.run owed)
  cases action : worker.uiAction with
  | shutdown =>
      simp only [action, Option.some.injEq] at moved
      rw [← moved]
      exact ⟨holds.word, rfl, runFree (by simp [action]), empty⟩
  | run =>
      simp only [action, Option.some.injEq] at moved
      rw [← moved]
      exact ⟨holds.word, shutdownFree (by simp [action]), rfl, empty⟩
  | pair | clear | confirm | reject =>
      simp only [action, Option.some.injEq] at moved
      rw [← moved]
      exact ⟨holds.word, shutdownFree (by simp [action]), runFree (by simp [action]), empty⟩

theorem Faithful.decideConnect {nowMs : ℕ} {paired : Bool}
    (moved : worker.decideConnect nowMs paired = some next) : next.Faithful := by
  have phase := holds.phase
  unfold ServiceWorker.decideConnect at moved
  unfold PhaseKept at phase
  split at moved
  · rename_i pairRequested here
    simp only [here] at phase
    have word : (worker.runLost || worker.runOwed) = false := by
      rw [phase.run, holds.word.2]
      rfl
    split at moved
    · cases moved
      refine ⟨⟨?_, word⟩, phase.shutdown, phase.run, phase.slot⟩
      change (worker.shutdownLost || worker.shutdownOwed) = false
      rw [phase.shutdown, holds.word.1]
      rfl
    · cases moved
      exact ⟨⟨holds.word.1, word⟩, phase.shutdownKept.shutdown, phase.run,
        phase.shutdownKept.slot⟩
  · cases moved

/-- A phase that only a free worker is in, and one it goes on to. -/
theorem Faithful.of_free (free : worker.Free) {phase : WorkerPhase} {validResult : Bool}
    (onward : (∃ pairRequested, phase = .connection pairRequested) ∨ phase = .pairingPrompt ∨
      phase = .closing .unpair ∨ ∃ outcome, phase = .returned outcome) :
    ({ worker with phase := phase, validResult := validResult } : ServiceWorker).Faithful := by
  refine ⟨holds.word, ?_⟩
  rcases onward with ⟨_, rfl⟩ | rfl | rfl | ⟨_, rfl⟩
  · exact ⟨free.shutdown, free.run, free.slot⟩
  · exact ⟨free.shutdown, free.run, free.slot⟩
  · exact ⟨free.shutdown, free.run, free.slot⟩
  · exact ⟨free.shutdownKept.shutdown, free.run, free.shutdownKept.slot⟩

theorem Faithful.free (inside : (∃ pairRequested, worker.phase = .connection pairRequested) ∨
      worker.phase = .pairingPrompt ∨ worker.phase = .pairingWait) : worker.Free := by
  have phase := holds.phase
  unfold PhaseKept at phase
  rcases inside with ⟨_, here⟩ | here | here
  · simp only [here] at phase
    exact phase
  · simp only [here] at phase
    exact phase
  · simp only [here] at phase
    exact phase

omit holds in
theorem polled_cases (worker : ServiceWorker) (frame : ControlFrame) (begun : Bool) :
    worker.polled frame begun = worker ∨
      worker.polled frame begun =
        { worker with
          uiAction := .shutdown, phase := .closing .shutdown, validResult := false } ∨
      worker.polled frame begun =
        { worker with phase := .closing .unpair, validResult := false } := by
  obtain ⟨command, _, payload⟩ := frame
  cases command with
  | shutdown =>
      by_cases empty : payload = []
      · exact .inr (.inl (if_pos empty))
      · exact .inl (if_neg empty)
  | identityUnpair =>
      by_cases begins : begun = true
      · exact .inr (.inr (if_pos begins))
      · exact .inl (if_neg begins)
  | identityInit | identityList | wifiProvision | wifiStatus | wifiClear | run | status
  | worldBenchmarkStart => exact .inl rfl

/-- A poll stores a Shutdown only as it ends the connection. -/
theorem Faithful.pollActiveControl {frame : Option ControlFrame} {begun : Bool}
    (moved : worker.pollActiveControl frame begun = some next) : next.Faithful := by
  have polls : next = frame.elim worker (fun frame => worker.polled frame begun) ∧
      worker.Free := by
    unfold ServiceWorker.pollActiveControl at moved
    split at moved
    · exact ⟨(Option.some.inj moved).symm, holds.free (.inl ⟨_, ‹_›⟩)⟩
    · exact ⟨(Option.some.inj moved).symm, holds.free (.inr (.inr ‹_›))⟩
    · cases moved
  obtain ⟨rfl, free⟩ := polls
  cases frame with
  | none => exact holds
  | some frame =>
      rcases worker.polled_cases frame begun with same | ends | ends <;>
        rw [Option.elim_some]
      · rw [same]
        exact holds
      · rw [ends]
        exact ⟨holds.word, free.shutdown, free.run, rfl⟩
      · rw [ends]
        exact holds.of_free free (.inr (.inr (.inl rfl)))

/-- The wait for a decision never empties the slot of a command. -/
theorem Faithful.clear (free : worker.Free) {phase : WorkerPhase}
    (onward : phase = .pairingWait ∨ phase = .connection true) :
    ({ worker with uiAction := .clear, phase := phase } : ServiceWorker).Faithful := by
  refine ⟨holds.word, ?_⟩
  have empty : ¬(UiAction.clear = .run ∨ UiAction.clear = .shutdown) := by simp
  rcases onward with rfl | rfl
  · exact ⟨free.shutdown, free.run, empty⟩
  · exact ⟨free.shutdown, free.run, empty⟩

theorem Faithful.pairingDecision (moved : worker.pairingDecision = some next) : next.Faithful := by
  simp only [ServiceWorker.pairingDecision, Option.ite_none_right_eq_some] at moved
  obtain ⟨waiting, moved⟩ := moved
  have free := holds.free (.inr (.inr waiting))
  have stays := holds.clear free (.inl rfl)
  rw [← waiting] at stays
  cases action : worker.uiAction <;> simp only [action, Option.some.injEq] at moved <;>
    rw [← moved]
  case confirm | reject => exact holds.clear free (.inr rfl)
  all_goals exact stays

theorem Faithful.finishActiveControl (moved : worker.finishActiveControl = some next) :
    next.Faithful := by
  have phase := holds.phase
  unfold ServiceWorker.finishActiveControl at moved
  unfold PhaseKept at phase
  split at moved
  · rename_i here
    simp only [here] at phase
    cases moved
    refine ⟨holds.word, fun _ => phase.2.2, phase.2.1, ?_⟩
    change worker.uiAction ≠ .run
    rw [phase.2.2]
    nofun
  · rename_i here
    simp only [here] at phase
    cases moved
    exact ⟨holds.word, phase.shutdownKept.shutdown, phase.run, phase.shutdownKept.slot⟩
  · cases moved

theorem Faithful.settle {nowMs : ℕ} (moved : worker.settle nowMs = some next) : next.Faithful := by
  have phase := holds.phase
  unfold ServiceWorker.settle at moved
  unfold PhaseKept at phase
  split at moved
  · rename_i outcome here
    simp only [here] at phase
    cases outcome <;> cases moved <;>
      exact ⟨holds.word, phase.shutdown, phase.run, phase.slot⟩
  · cases moved

/-- Every step that leaves a stored command alone keeps the word of the worker. -/
theorem Faithful.step {label : WorkerLabel} (undisturbed : worker.Undisturbed label)
    (moved : worker.step label = some next) : next.Faithful := by
  cases label with
  | uiCommand command =>
      cases moved
      exact holds.serviceUiCommand undisturbed
  | takeCommand frame answer => exact holds.takeCommand undisturbed moved
  | publishCompletion => exact holds.publishCompletion moved
  | swap => exact holds.swap moved
  | decide nowMs paired => exact holds.decideConnect moved
  | pollActiveControl frame begun => exact holds.pollActiveControl moved
  | promptPairing =>
      simp only [ServiceWorker.step, ServiceWorker.promptPairing, Option.ite_none_right_eq_some,
        Option.some.injEq] at moved
      obtain ⟨here, rfl⟩ := moved
      exact holds.of_free (holds.free (.inl ⟨true, here⟩)) (.inr (.inl rfl))
  | clearAction =>
      simp only [ServiceWorker.step, ServiceWorker.clearAction, Option.ite_none_right_eq_some,
        Option.some.injEq] at moved
      obtain ⟨here, rfl⟩ := moved
      exact holds.clear (holds.free (.inr (.inl here))) (.inl rfl)
  | pairingDecision => exact holds.pairingDecision moved
  | availabilityResult =>
      simp only [ServiceWorker.step, ServiceWorker.availabilityResult] at moved
      split at moved
      · rename_i pairRequested here
        cases moved
        have free := holds.free (.inl ⟨pairRequested, here⟩)
        have kept : ({ worker with phase := .connection pairRequested, validResult := true } :
            ServiceWorker).Faithful :=
          holds.of_free free (.inl ⟨pairRequested, rfl⟩)
        rwa [← here] at kept
      · cases moved
  | observeAction =>
      simp only [ServiceWorker.step, ServiceWorker.observeAction] at moved
      split at moved
      · rename_i pairRequested here
        simp only [Option.ite_none_right_eq_some, Option.some.injEq] at moved
        exact absurd (.inr moved.1) (holds.free (.inl ⟨pairRequested, here⟩)).slot
      · cases moved
  | endConnection outcome =>
      have inside : (∃ pairRequested, worker.phase = .connection pairRequested) ∨
          worker.phase = .pairingPrompt ∨ worker.phase = .pairingWait := by
        simp only [ServiceWorker.step, ServiceWorker.endConnection] at moved
        split at moved
        · exact .inl ⟨_, ‹_›⟩
        · exact .inr (.inl ‹_›)
        · exact .inr (.inr ‹_›)
        · cases moved
      have ended : next = { worker with phase := .returned outcome, validResult := false } := by
        simp only [ServiceWorker.step, ServiceWorker.endConnection] at moved
        rcases inside with ⟨_, here⟩ | here | here <;>
          simp only [here, Option.ite_none_left_eq_some, Option.some.injEq] at moved <;>
          exact moved.2.symm
      rw [ended]
      exact holds.of_free (holds.free inside) (.inr (.inr (.inr ⟨outcome, rfl⟩)))
  | finishActiveControl => exact holds.finishActiveControl moved
  | settle nowMs => exact holds.settle moved

/-! ## Runs -/

end

theorem faithful_started : started.Faithful where
  word := ⟨rfl, rfl⟩
  phase := ⟨nofun, rfl, nofun⟩

/-- **Acknowledged actions.** In a run in which nothing is stored over the action
of an accepted command, no connection attempt begins while a Shutdown is owed and
no decision is made while a Run is owed. -/
theorem keepsWord_throughout {past : List (ServiceWorker × WorkerLabel)}
    (run : machine.Run past worker) (undisturbed : StepSystem.Guarded Undisturbed past) :
    StepSystem.Throughout KeepsWord past worker := by
  have initial : ∀ start, machine.Initial start → start.Faithful := by
    intro start initial
    have same : start = started := initial
    rw [same]
    exact faithful_started
  exact run.throughout_of_guarded initial
    (fun _ _ _ holds allowed moved => holds.step allowed moved)
    (fun _ holds => holds.word) undisturbed

def runFrame : ControlFrame := ⟨.run, 0, []⟩

def shutdownFrame : ControlFrame := ⟨.shutdown, 0, []⟩

/-- A Shutdown and then a Run, each carried out on its turn. -/
theorem keepsWord_throughout_two_commands :
    ∃ past worker, machine.Run past worker ∧ worker.phase = .connection false ∧
      worker.running = true ∧ StepSystem.Throughout KeepsWord past worker := by
  have initial : machine.Run [] started := .start rfl
  have along : machine.Along Undisturbed started
      [.takeCommand (some (some shutdownFrame)) .success, .publishCompletion, .swap,
        .decide 0 true, .takeCommand (some (some runFrame)) .success, .publishCompletion, .swap,
        .decide 0 true] := by
    refine ⟨nofun, fun _ taken => ?_⟩
    cases taken
    refine ⟨trivial, fun _ published => ?_⟩
    cases published
    refine ⟨trivial, fun _ swapped => ?_⟩
    cases swapped
    refine ⟨trivial, fun _ decided => ?_⟩
    cases decided
    refine ⟨fun _ _ held => held.elim nofun nofun, fun _ taken => ?_⟩
    cases taken
    exact ⟨trivial, fun _ _ => ⟨trivial, fun _ _ => ⟨trivial, fun _ _ => trivial⟩⟩⟩
  obtain ⟨past, run, undisturbed⟩ := initial.exists_guarded_of_execute
    (StepSystem.guarded_nil _) _ along rfl
  exact ⟨past, _, run, rfl, rfl, keepsWord_throughout run undisturbed⟩

/-- A choice of the user between the answer and the swap loses a Run, and the
worker stays stopped; after a Shutdown that ended a connection it loses that, and
the worker connects again. -/
theorem answered_actions_lost :
    (∃ worker, machine.Reachable worker ∧ worker.runLost = true ∧ worker.running = false) ∧
      ∃ worker, machine.Reachable worker ∧ worker.shutdownLost = true ∧
        worker.running = true ∧ worker.phase = .connection true := by
  have run : (machine.execute started
      [.takeCommand (some (some shutdownFrame)) .success, .publishCompletion, .swap,
        .decide 0 true, .takeCommand (some (some runFrame)) .success, .publishCompletion,
        .uiCommand 2, .swap, .decide 0 true]).map
      (fun worker => (worker.runLost, worker.running)) = some (true, false) := by
    decide +kernel
  have shutdown : (machine.execute started
      [.takeCommand none .success, .swap, .decide 0 true,
        .pollActiveControl (some shutdownFrame) false, .finishActiveControl, .uiCommand 1,
        .settle 0, .takeCommand none .success, .swap, .decide 0 true]).map
      (fun worker => (worker.shutdownLost, worker.running, worker.phase)) =
        some (true, true, .connection true) := by
    decide +kernel
  obtain ⟨first, reachable, facts⟩ := StepSystem.exists_reachable_of_map run rfl
  obtain ⟨second, reachable', facts'⟩ := StepSystem.exists_reachable_of_map shutdown rfl
  simp only [Prod.mk.injEq] at facts facts'
  exact ⟨⟨first, reachable, facts⟩, ⟨second, reachable', facts'⟩⟩

end Deskkin.Device.ServiceWorker
