/-
# The delays of the worker

After a connection in which a valid result was received the series of delays
should start over, and after any other connection that is tried again the next
delay should follow. The worker keeps its place in the series in an adapter of its
own and learns from the flag whether a result was received.

The flag does not survive the failures of the availability loop: a failure clears
it before the worker looks, and only a session that the user closes is told apart
from one without a result. The main result is exact: the delays follow the series
if and only if no session fails after a valid result, unless its attempt was made
from the start of the series anyway.
-/

import Deskkin.Application.Refresh
import Deskkin.Device.ReconnectWorker
import Mathlib.Tactic.IntervalCases

namespace Deskkin.Device

open Protocol Application

/-! ## The availability loop -/

namespace AvailabilityLoop

/-- The loop is told to stop, loses its link or its random numbers, reads a
message that it does not wait for, or has numbered all of its requests. -/
def fails (self : AvailabilityLoop) (input : LoopInput) : Bool :=
  match self.phase, input with
  | .requesting _, .request poll operation unwritten =>
      poll.isSome || operation.isNone || unwritten.isSome ||
        Checked.u32Max ≤ self.adapter.requestId
  | .reading _ requestId operation, .received message unwritten =>
      match message with
      | .ok (.availabilityResult receivedId receivedOperation _) =>
          receivedId.toNat ≠ requestId || receivedOperation ≠ operation
      | .ok .ping => unwritten.isSome
      | _ => true
  | .waiting _ _, .tick poll _ => poll.isSome
  | _, _ => false

/-- A valid result: it answers the present request. -/
def receives (self : AvailabilityLoop) (input : LoopInput) : Bool :=
  match self.phase, input with
  | .reading _ requestId operation, .received (.ok (.availabilityResult receivedId
      receivedOperation _)) _ => receivedId.toNat = requestId && receivedOperation = operation
  | _, _ => false

/-- The place of the application in its cycle, with the read in flight. Each
request uses two identities, so the requests are exhausted first. -/
def InPhase (self : AvailabilityLoop) : Prop :=
  match self.phase with
  | .requesting read => ∃ id, read = readEffect id ∧
      self.application.availability.state = .reading id ∧ self.adapter.active = none ∧
      self.application.availability.nextEffectId ≤ 2 * self.adapter.requestId + 1
  | .reading read requestId operation => ∃ id, read = readEffect id ∧
      self.application.availability.state = .reading id ∧
      self.adapter.active = some ⟨operation, requestId, id.get⟩ ∧
      self.application.availability.nextEffectId + 1 ≤ 2 * self.adapter.requestId
  | .waiting timer _ => ∃ id, timer = timerEffect id ∧
      self.application.availability.state = .waiting id ∧ self.adapter.active = none ∧
      self.application.availability.nextEffectId ≤ 2 * self.adapter.requestId

/-- The invariant of the loop. -/
structure Sound (loop : AvailabilityLoop) : Prop where
  authenticated : loop.adapter.state = .authenticated
  session : loop.adapter.session = some loop.session
  running : loop.application.state = .running
  requests : loop.adapter.requestId ≤ Checked.u32Max
  phase : loop.InPhase

theorem start_sound (session : ContextId) :
    ∃ loop, start session = .ok loop ∧ loop.Sound :=
  ⟨_, rfl, rfl, rfl, rfl, Nat.zero_le _, _, rfl, rfl, rfl, Nat.le_refl 1⟩

/-- The failures of the loop are followed by another attempt. -/
def Retried (failure : SessionFailure) : Prop :=
  failure ≠ .incompatible ∧ failure ≠ .authorizationDenied

theorem retried_failure (failure : LinkFailure) : Retried failure.failure := by
  cases failure <;> exact ⟨nofun, nofun⟩

/-- What an input comes to, by what it is. -/
def Answers (self : AvailabilityLoop) (input : LoopInput) :
    Except SessionFailure Progress → Prop
  | .error failure => self.fails input = true ∧ self.receives input = false ∧ Retried failure
  | .ok (.continues next) => self.fails input = false ∧ self.receives input = false ∧ next.Sound
  | .ok (.stores next) => self.fails input = false ∧ self.receives input = true ∧ next.Sound
  | .ok .closed => self.fails input = false ∧ self.receives input = false

variable {self : AvailabilityLoop}

variable {read : Application.Effect}

variable (sound : self.Sound)
include sound

theorem request_answers (phase : self.phase = .requesting read) (poll : Option ActiveControl)
    (operation : Option ContextId) (unwritten : Option LinkFailure) :
    self.Answers (.request poll operation unwritten)
      (self.request read poll operation unwritten) := by
  have place := sound.phase
  rw [InPhase, phase] at place
  obtain ⟨id, rfl, reading, idle, ids⟩ := place
  cases poll with
  | some active => simp [request, Answers, fails, receives, phase, Retried]
  | none =>
      cases operation with
      | none => simp [request, Answers, fails, receives, phase, Retried]
      | some operation =>
          by_cases left : self.adapter.requestId < Checked.u32Max
          · have begun : self.adapter.beginRead id.get operation =
                (.ok (self.adapter.requestId + 1),
                  { self.adapter with
                    requestId := self.adapter.requestId + 1
                    active := some ⟨operation, self.adapter.requestId + 1, id.get⟩ }) :=
              ProtocolAdapter.beginRead_eq_ok_iff.mpr
                ⟨sound.authenticated, idle, id.nonzero, rfl, Nat.succ_le_of_lt left, rfl⟩
            cases unwritten with
            | some failure =>
                have again := retried_failure failure
                simp [request, readEffect, begun, Answers, fails, receives, phase, again]
            | none =>
                simp only [request, readEffect, begun, Answers]
                refine ⟨?_, ?_, sound.authenticated, sound.session, sound.running,
                  Nat.succ_le_of_lt left, id, rfl, reading, rfl, ?_⟩
                · simp [fails, phase, left]
                · simp [receives, phase]
                · simp only
                  omega
          · cases begun : self.adapter.beginRead id.get operation with
            | mk outcome adapter =>
                cases outcome with
                | ok requestId =>
                    have fits := ProtocolAdapter.beginRead_eq_ok_iff.mp begun
                    omega
                | error error =>
                    simp [request, readEffect, begun, Answers, fails, receives, phase, Retried,
                      not_lt.mp left]

omit sound in
@[simp]
theorem transition_of_ok {application next : Application} {input : ApplicationInput}
    {reported : Application.Transition}
    (accepted : application.transition input = .ok (reported, next)) :
    transition application input = .ok (reported.effects.get 0, next) := by
  rw [transition, accepted]

section

variable {requestId : ℕ} {operation : ContextId}
  (phase : self.phase = .reading read requestId operation)
include phase

/-- The result of the present request is stored and its timer is armed. -/
theorem complete_stores (result : AvailabilityResult) :
    ∃ next, self.complete read requestId operation result = .ok (.stores next) ∧ next.Sound := by
  have place := sound.phase
  have requests := sound.requests
  simp only [Checked.u32Max] at requests
  rw [InPhase, phase] at place
  obtain ⟨id, rfl, reading, active, ids⟩ := place
  have answered : self.adapter.result self.session requestId operation result =
      (.ok (.availabilityCompleted id.get (ProtocolAdapter.valueOf result)),
        { self.adapter with active := none, backoffIndex := 0 }) :=
    ProtocolAdapter.result_eq_ok_iff.mpr
      ⟨sound.authenticated, sound.session, id.get, active, rfl, rfl⟩
  have left : self.application.availability.nextEffectId < Checked.u64Max := by
    simp only [Checked.u64Max]
    omega
  obtain ⟨reported, read, timer, accepted, effect, first⟩ :=
    transition_readCompleted sound.running reading left
      (completion (ProtocolAdapter.valueOf result))
  obtain ⟨_, armed, acknowledged, second⟩ := transition_timerArmed first.running first.state
  refine ⟨{ self with
      adapter := { self.adapter with active := none, backoffIndex := 0 }
      application := armed
      phase := .waiting (timerEffect timer) 500 }, ?_, sound.authenticated, sound.session,
    second.running, sound.requests, timer, rfl, second.state, rfl, ?_⟩
  · simp only [complete, answered, LocalEffectId.new_get, required, readEffect, Fallible.ok_bind,
      transition_of_ok accepted, effect, timerEffect, transition_of_ok acknowledged]
    rfl
  · have used := first.ids
    have kept := second.ids
    simp only
    omega

theorem receive_answers (message : Except LinkFailure Message) (unwritten : Option LinkFailure) :
    self.Answers (.received message unwritten)
      (self.receive read requestId operation message unwritten) := by
  cases message with
  | error failure =>
      have again := retried_failure failure
      simp [receive, Answers, fails, receives, phase, again]
  | ok message =>
      cases message with
      | availabilityResult receivedId receivedOperation result =>
          by_cases same : receivedId.toNat = requestId ∧ receivedOperation = operation
          · obtain ⟨rfl, rfl⟩ := same
            obtain ⟨next, stored, after⟩ := complete_stores sound phase result
            simp [receive, stored, Answers, fails, receives, phase, after]
          · have differs : receivedId.toNat ≠ requestId ∨ receivedOperation ≠ operation :=
              not_and_or.mp same
            simp only [receive, if_pos differs, Answers]
            refine ⟨?_, ?_, nofun, nofun⟩
            · simpa [fails, phase] using differs
            · simpa [receives, phase] using same
      | ping =>
          cases unwritten with
          | some failure =>
              have again := retried_failure failure
              simp [receive, Answers, fails, receives, phase, again]
          | none => simp [receive, Answers, fails, receives, phase, sound]
      | _ => simp [receive, Answers, fails, receives, phase, Retried]

end

theorem wait_answers {timer : Application.Effect} {left : ℕ}
    (phase : self.phase = .waiting timer left) (poll : Option ActiveControl) (action : UInt8) :
    self.Answers (.tick poll action) (self.wait timer left poll action) := by
  cases poll with
  | some active => simp [wait, Answers, fails, receives, phase, Retried]
  | none =>
      have place := sound.phase
      have requests := sound.requests
      simp only [Checked.u32Max] at requests
      rw [InPhase, phase] at place
      obtain ⟨id, rfl, waiting, idle, ids⟩ := place
      by_cases close : action = 5 ∨ action = 6
      · simp [wait, close, Answers, fails, receives, phase]
      · by_cases more : 1 < left
        · simp only [wait, if_neg close, if_pos more, Answers]
          refine ⟨?_, ?_, sound.authenticated, sound.session, sound.running, sound.requests,
            id, rfl,
            waiting, idle, ids⟩
          · simp [fails, phase]
          · simp [receives, phase]
        · have room : self.application.availability.nextEffectId < Checked.u64Max := by
            simp only [Checked.u64Max]
            omega
          obtain ⟨reported, next, read, accepted, effect, cycles⟩ :=
            transition_refreshDue sound.running waiting room
          simp only [wait, if_neg close, if_neg more, timerEffect, transition_of_ok accepted,
            Fallible.ok_bind, effect, required, pure, Except.pure, Answers]
          refine ⟨?_, ?_, sound.authenticated, sound.session, cycles.running, sound.requests, read,
            rfl, cycles.state, idle, ?_⟩
          · simp [fails, phase]
          · simp [receives, phase]
          · have used := cycles.ids
            simp only
            omega

/-- **One input.** A sound loop fails on the inputs that fail it, stores the
results that it receives and stays sound otherwise. -/
theorem step_answers {input : LoopInput} {result : Except SessionFailure Progress}
    (moved : self.step input = some result) : self.Answers input result := by
  unfold step at moved
  split at moved
  · rename_i phase
    cases moved
    exact request_answers sound phase _ _ _
  · rename_i phase
    cases moved
    exact receive_answers sound phase _ _
  · rename_i phase
    cases moved
    exact wait_answers sound phase _ _
  · cases moved

end AvailabilityLoop

/-! ## The end of an attempt -/

/-- The delay that should be scheduled at a place of the series. -/
def dueDelay (position : ℕ) (productive : Bool) : ℕ :=
  reconnectDelaysMs[min (if productive then 0 else position) 4]

/-- The last delay of the series is repeated. -/
theorem dueDelay_min (position : ℕ) (productive : Bool) :
    dueDelay (min position 4) productive = dueDelay position productive := by
  cases productive <;> simp [dueDelay]

/-- Past the start of the series the delays are longer than the first. -/
theorem dueDelay_ne_first {position : ℕ} (past : position ≠ 0) :
    dueDelay position false ≠ dueDelay position true := by
  have bounded : min position 4 ≤ 4 := min_le_right _ _
  have positive : 1 ≤ min position 4 := le_min (Nat.one_le_iff_ne_zero.mpr past) (by decide)
  rw [← dueDelay_min position false, ← dueDelay_min position true]
  generalize min position 4 = place at bounded positive
  interval_cases place <;> decide

namespace ReconnectWorker

variable {self : ReconnectWorker}

/-- From a place of the series its delay is scheduled, or the first when the
result counts, and the place moves on. -/
def Schedules (place : ℕ) (counts : Bool) (moved : ReconnectWorker × Option ℕ) : Prop :=
  moved.2 = some (dueDelay place counts) ∧ moved.1.stage = .idle ∧
    moved.1.connection.backoffIndex = min ((if counts then 0 else place) + 1) 4

theorem retry_schedules (running : self.connection.state ≠ .stopped) (idle : self.stage = .idle)
    (now : ℕ) : Schedules self.connection.backoffIndex false (self.retry now) := by
  have failed : self.connection.connectionFailed =
      (.ok self.connection.delay, { self.connection with
        state := .backoff, backoffIndex := min (self.connection.backoffIndex + 1) 4 }) :=
    if_neg running
  rw [retry, failed]
  exact ⟨rfl, idle, rfl⟩

/-- A session that the user closed, or an attempt that a command ended. -/
theorem finish_ok_schedules (connecting : self.connection.state = .connecting)
    (idle : self.stage = .idle) (now : ℕ) :
    Schedules self.connection.backoffIndex self.validResult (self.finish (.ok ()) now) := by
  have running : self.connection.state ≠ .stopped := by
    rw [connecting]
    decide
  cases flag : self.validResult with
  | false =>
      have retried := @retry_schedules { self with validResult := false } running idle now
      simpa [finish, flag] using retried
  | true =>
      let connection : ProtocolAdapter := { self.connection with
        session := some (Vector.replicate 16 0), state := .authenticated, backoffIndex := 0 }
      have reset : ((self.connection.authenticated
          (Vector.replicate 16 0)).validAvailabilityResult) = connection := by
        simp [ProtocolAdapter.authenticated, ProtocolAdapter.validAvailabilityResult, connecting,
          connection]
      have retried := @retry_schedules { self with connection, validResult := false } nofun idle now
      simpa [finish, flag, reset, Schedules, dueDelay, connection] using retried

/-- An attempt that fails without a result takes the next delay or is the last. -/
theorem endAttempt_cases (connecting : self.connection.state = .connecting)
    (unproductive : self.validResult = false) (failure : SessionFailure) (now : ℕ) :
    Schedules self.connection.backoffIndex false (self.endAttempt (.error failure) now) ∨
      (¬AvailabilityLoop.Retried failure ∧ (self.endAttempt (.error failure) now).2 = none ∧
        (self.endAttempt (.error failure) now).1.stage = .idle ∧
        (self.endAttempt (.error failure) now).1.connection.backoffIndex =
          self.connection.backoffIndex) := by
  have running : self.connection.state ≠ .stopped := by
    rw [connecting]
    decide
  cases failure with
  | incompatible => exact Or.inr ⟨fun retried => retried.1 rfl, rfl, rfl, rfl⟩
  | authorizationDenied => exact Or.inr ⟨fun retried => retried.2 rfl, rfl, rfl, rfl⟩
  | control active =>
      have scheduled : Schedules self.connection.backoffIndex self.validResult
          (self.endAttempt (.error (.control active)) now) :=
        @finish_ok_schedules { self with stage := .idle } connecting rfl now
      rw [unproductive] at scheduled
      exact Or.inl scheduled
  | _ =>
      exact Or.inl (@retry_schedules { self with stage := .idle, validResult := false } running rfl
        now)

@[simp]
theorem handleControl_connection (self : ReconnectWorker) (command : Option ControlFrame) :
    (self.handleControl command).connection = self.connection := by
  unfold handleControl
  split
  · split <;> rfl
  · rfl

@[simp]
theorem handleControl_stage (self : ReconnectWorker) (command : Option ControlFrame) :
    (self.handleControl command).stage = self.stage := by
  unfold handleControl
  split
  · split <;> rfl
  · rfl

@[simp]
theorem takeAction_stage (self : ReconnectWorker) (action : UInt8) :
    (self.takeAction action).stage = self.stage := by
  unfold takeAction
  split_ifs <;> rfl

/-- Running the application and pairing start the series over. -/
theorem takeAction_index (self : ReconnectWorker) (action : UInt8) :
    (self.takeAction action).connection.backoffIndex =
      if action = 4 ∨ action = 1 then 0 else self.connection.backoffIndex := by
  unfold takeAction
  split_ifs with stop run either pair one <;> first | rfl | grind

/-- A turn keeps the place of the series unless it starts over, and begins an
attempt or none. -/
theorem turn_cases (command : Option ControlFrame) (action : UInt8) (now : ℕ) (paired : Bool)
    (idle : self.stage = .idle) :
    (self.turn command action now paired).connection.backoffIndex =
        (if action = 4 ∨ action = 1 then 0 else self.connection.backoffIndex) ∧
      ((self.turn command action now paired).stage = .idle ∨
        (self.turn command action now paired).stage = .connecting ∧
          (self.turn command action now paired).connection.state = .connecting ∧
          (self.turn command action now paired).validResult = false) := by
  have index := takeAction_index (self.handleControl command) action
  rw [handleControl_connection] at index
  unfold turn
  simp only
  split
  · rename_i wanted
    have connects : ((self.handleControl command).takeAction action).connection.connecting =
        { ((self.handleControl command).takeAction action).connection with state := .connecting } :=
      if_pos wanted.1
    rw [connects]
    exact ⟨index, Or.inr ⟨rfl, rfl, rfl⟩⟩
  · exact ⟨index, Or.inl (by rw [takeAction_stage, handleControl_stage, idle])⟩

end ReconnectWorker

/-! ## The worker beside the series -/

/-- The worker with what an observer knows: the place in the series, whether the
connection has received a valid result, and each delay that was due with the one
that was scheduled. -/
structure Watched where
  worker : ReconnectWorker
  position : ℕ
  productive : Bool
  delays : List (ℕ × ℕ)
  deriving DecidableEq

namespace Watched

def new : Watched := ⟨ReconnectWorker.new, 0, false, []⟩

/-- The user's action in this turn starts the series over. -/
def restarts (self : Watched) (input : WorkerInput) : Bool :=
  match self.worker.stage, input with
  | .idle, .turn _ action _ _ => action = 4 || action = 1
  | _, _ => false

def receives (self : Watched) (input : WorkerInput) : Bool :=
  match self.worker.stage, input with
  | .looping loop, .loop input _ => loop.receives input
  | _, _ => false

/-- The observer after a step. Between attempts no result has been received. -/
def after (self : Watched) (input : WorkerInput) (moved : ReconnectWorker × Option ℕ) : Watched :=
  let position := if self.restarts input then 0 else self.position
  let productive := self.worker.stage ≠ .idle && (self.productive || self.receives input)
  match moved with
  | (worker, none) => ⟨worker, position, productive, self.delays⟩
  | (worker, some delay) =>
      ⟨worker, (if productive then 0 else position) + 1, productive,
        self.delays ++ [(dueDelay position productive, delay)]⟩

/-- Any run of the worker. -/
def machine : StepSystem Watched WorkerInput where
  Initial watched := watched = new
  step watched input := (watched.worker.step input).map (watched.after input)

/-- Every delay was the one that was due: the first of the series after a
connection with a valid result, and else the next. -/
def InSeries (watched : Watched) : Prop := ∀ entry ∈ watched.delays, entry.2 = entry.1

/-- The condition on one step: an input that fails the session comes before the
first valid result, or the attempt was made from the start of the series. -/
def Spares (watched : Watched) (input : WorkerInput) : Prop :=
  match watched.worker.stage, input with
  | .looping loop, .loop input _ => loop.fails input = true →
      watched.worker.validResult = false ∨ watched.worker.connection.backoffIndex = 0
  | _, _ => True

/-- While the steps meet the condition the worker is where the observer is. -/
structure Tracked (watched : Watched) : Prop where
  series : watched.InSeries
  index : watched.worker.connection.backoffIndex = min watched.position 4
  connecting : watched.worker.stage ≠ .idle → watched.worker.connection.state = .connecting ∧
    watched.worker.validResult = watched.productive
  opening : watched.worker.stage = .connecting → watched.productive = false
  loop : ∀ loop, watched.worker.stage = .looping loop → loop.Sound

theorem tracked_new : Tracked new where
  series := by
    intro entry member
    cases member
  index := by simp [new, ReconnectWorker.new, ProtocolAdapter.new]
  connecting := fun busy => absurd rfl busy
  opening := by
    intro stage
    rw [new, ReconnectWorker.new] at stage
    cases stage
  loop := by
    intro loop stage
    rw [new, ReconnectWorker.new] at stage
    cases stage

variable {watched : Watched}

theorem busy_of {stage : AttemptStage} (here : watched.worker.stage = stage)
    (busy : stage ≠ .idle) : watched.worker.stage ≠ .idle := by
  rw [here]
  exact busy

/-- The series starts anew at an idle worker only. -/
theorem restarts_of_busy (busy : watched.worker.stage ≠ .idle) (input : WorkerInput) :
    watched.restarts input = false := by
  unfold restarts
  split
  · exact absurd ‹watched.worker.stage = .idle› busy
  · rfl

variable {loop : AvailabilityLoop} {input : WorkerInput} {failure : SessionFailure}

theorem receives_loop (stage : watched.worker.stage = .looping loop) (input : LoopInput) (now : ℕ) :
    watched.receives (.loop input now) = loop.receives input := by
  simp [Watched.receives, stage]

section

variable (tracked : Tracked watched)
include tracked

/-- The end of an attempt that schedules the delay that is due. -/
theorem Tracked.scheduled (busy : watched.worker.stage ≠ .idle) {counts : Bool}
    {moved : ReconnectWorker × Option ℕ}
    (schedules : ReconnectWorker.Schedules watched.worker.connection.backoffIndex counts moved)
    (due : dueDelay watched.position counts =
      dueDelay watched.position (watched.productive || watched.receives input))
    (place : min ((if counts then 0 else watched.worker.connection.backoffIndex) + 1) 4 =
      min ((if watched.productive || watched.receives input then 0 else watched.position) + 1) 4) :
    Tracked (watched.after input moved) := by
  obtain ⟨worker, delay⟩ := moved
  obtain ⟨delayEq, idle, index⟩ := schedules
  simp only at delayEq idle index
  subst delayEq
  have kept := restarts_of_busy busy input
  have busyStage : (decide (watched.worker.stage ≠ .idle)) = true := by simpa using busy
  simp only [after, kept, busyStage, Bool.true_and, Bool.false_eq_true, if_false]
  refine ⟨?_, ?_, fun busy => absurd idle busy, ?_, ?_⟩
  · intro entry member
    rw [List.mem_append, List.mem_singleton] at member
    cases member with
    | inl earlier => exact tracked.series entry earlier
    | inr last =>
        subst last
        simp only
        rw [tracked.index, dueDelay_min, due]
  · exact index.trans place
  · intro stage
    rw [idle] at stage
    cases stage
  · intro loop stage
    rw [idle] at stage
    cases stage

/-- An idle worker takes turns. -/
theorem Tracked.turn (idle : watched.worker.stage = .idle) (command : Option ControlFrame)
    (action : UInt8) (now : ℕ) (paired : Bool) :
    Tracked (watched.after (.turn command action now paired)
      (watched.worker.turn command action now paired, none)) := by
  obtain ⟨index, stage⟩ := ReconnectWorker.turn_cases command action now paired idle
  have productive : (watched.after (.turn command action now paired)
      (watched.worker.turn command action now paired, none)).productive = false := by
    simp [after, idle]
  refine ⟨tracked.series, ?_, fun busy => ?_, fun _ => productive, fun loop looping => ?_⟩
  · simp only [after, restarts, idle, index, tracked.index]
    by_cases restarted : action = 4 ∨ action = 1
    · simp [restarted]
    · simp [restarted]
  · rw [productive]
    rcases stage with still | ⟨_, connecting, flag⟩
    · exact absurd still busy
    · exact ⟨connecting, flag⟩
  · rcases stage with still | ⟨starts, _⟩
    · exact absurd (still.symm.trans looping) nofun
    · exact absurd (starts.symm.trans looping) nofun

/-- An attempt that ends before its session. -/
theorem Tracked.failed (stage : watched.worker.stage = .connecting) (failure : SessionFailure)
    (now : ℕ) : Tracked (watched.after input (watched.worker.endAttempt (.error failure) now)) := by
  have busy := busy_of stage nofun
  obtain ⟨connecting, flag⟩ := tracked.connecting busy
  have unproductive := tracked.opening stage
  have receives : watched.receives input = false := by
    simp [receives, stage]
  rw [unproductive] at flag
  rcases ReconnectWorker.endAttempt_cases connecting flag failure now with
    schedules | ⟨_, none_scheduled, idle, index⟩
  · exact tracked.scheduled busy schedules (by rw [unproductive, receives]; rfl)
      (by simp only [unproductive, receives, tracked.index, Bool.or_self, Bool.false_eq_true,
        if_false]
          omega)
  · generalize watched.worker.endAttempt (.error failure) now = moved at *
    obtain ⟨worker, delay⟩ := moved
    simp only at none_scheduled idle index
    subst none_scheduled
    refine ⟨tracked.series, ?_, fun busy => absurd idle busy, fun opening => ?_,
      fun loop looping => ?_⟩
    · simp [after, restarts, stage, index, tracked.index]
    · exact absurd (idle.symm.trans opening) nofun
    · exact absurd (idle.symm.trans looping) nofun

/-- A session that stays open. -/
theorem Tracked.stays (busy : watched.worker.stage ≠ .idle) (sound : loop.Sound) {flag : Bool}
    (stored : flag = (watched.productive || watched.receives input)) :
    Tracked (watched.after input
      ({ watched.worker with stage := .looping loop, validResult := flag }, none)) := by
  have kept := restarts_of_busy busy input
  refine ⟨tracked.series, ?_, fun _ => ⟨(tracked.connecting busy).1, ?_⟩, nofun, ?_⟩
  · simp [after, kept, tracked.index]
  · simp [after, stored, busy]
  · intro other looping
    cases looping
    exact sound

section

variable (stage : watched.worker.stage = .looping loop)
include stage

/-- A session that fails takes the next delay. -/
theorem Tracked.endLoop_schedules (retried : AvailabilityLoop.Retried failure) (now : ℕ) :
    ReconnectWorker.Schedules watched.worker.connection.backoffIndex false
      (watched.worker.endLoop (.error failure) now) := by
  have busy := busy_of stage nofun
  have ended := @ReconnectWorker.endAttempt_cases { watched.worker with validResult := false }
    (tracked.connecting busy).1 rfl failure now
  rcases ended with schedules | ⟨terminal, _⟩
  · exact schedules
  · exact absurd retried terminal

/-- The end of a session that failed. -/
theorem Tracked.failed_session {input : LoopInput} {now : ℕ}
    (retried : AvailabilityLoop.Retried failure) (receives : loop.receives input = false)
    (spares : watched.worker.validResult = false ∨ watched.worker.connection.backoffIndex = 0) :
    Tracked (watched.after (.loop input now) (watched.worker.endLoop (.error failure) now)) := by
  have busy := busy_of stage nofun
  have received : watched.receives (.loop input now) = false :=
    (receives_loop stage input now).trans receives
  have flag := (tracked.connecting busy).2
  have index := tracked.index
  refine tracked.scheduled busy (tracked.endLoop_schedules stage retried now) ?_ ?_
  · rw [received, Bool.or_false, ← flag]
    rcases spares with unproductive | start
    · rw [unproductive]
    · have first : watched.position = 0 := by omega
      rw [first]
      cases watched.worker.validResult <;> rfl
  · rw [received, Bool.or_false, ← flag]
    rcases spares with unproductive | start
    · simp only [unproductive, index, Bool.false_eq_true, if_false]
      omega
    · have first : watched.position = 0 := by omega
      simp [first, start]

/-- The end of a session that the user closed. -/
theorem Tracked.closed_session {input : LoopInput} {now : ℕ}
    (receives : loop.receives input = false) :
    Tracked (watched.after (.loop input now) (watched.worker.endLoop (.ok ()) now)) := by
  have busy := busy_of stage nofun
  have received : watched.receives (.loop input now) = false :=
    (receives_loop stage input now).trans receives
  obtain ⟨connecting, flag⟩ := tracked.connecting busy
  have index := tracked.index
  have schedules : ReconnectWorker.Schedules watched.worker.connection.backoffIndex
      watched.worker.validResult (watched.worker.endLoop (.ok ()) now) :=
    @ReconnectWorker.finish_ok_schedules { watched.worker with stage := .idle } connecting rfl now
  refine tracked.scheduled busy schedules ?_ ?_
  · rw [received, Bool.or_false, ← flag]
  · rw [received, Bool.or_false, ← flag, index]
    cases watched.worker.validResult with
    | true => rfl
    | false =>
        simp only [Bool.false_eq_true, if_false]
        omega

omit stage in
/-- **Steps that meet the condition.** -/
theorem Tracked.next {later : Watched} (moved : machine.step watched input = some later)
    (spares : watched.Spares input) : Tracked later := by
  simp only [machine, Option.map_eq_some_iff] at moved
  obtain ⟨moved, stepped, rfl⟩ := moved
  unfold ReconnectWorker.step at stepped
  split at stepped
  · rename_i command action now paired idle
    cases stepped
    exact tracked.turn idle command action now paired
  · rename_i failure now stage
    cases stepped
    exact tracked.failed stage failure now
  · rename_i session now stage
    obtain ⟨loop, started, sound⟩ := AvailabilityLoop.start_sound session
    have busy := busy_of stage nofun
    have received : watched.receives (.opened session now) = false := by
      simp [Watched.receives]
    rw [started] at stepped
    cases stepped
    exact tracked.stays busy sound
      (by rw [(tracked.connecting busy).2, received, Bool.or_false])
  · rename_i loop input now stage
    have busy := busy_of stage nofun
    have received := receives_loop stage input now
    have spared : loop.fails input = true → watched.worker.validResult = false ∨
        watched.worker.connection.backoffIndex = 0 := by
      simpa [Spares, stage] using spares
    cases result : loop.step input with
    | none =>
        rw [result] at stepped
        cases stepped
    | some answer =>
        have answers := AvailabilityLoop.step_answers (tracked.loop loop stage) result
        rw [result] at stepped
        cases answer with
        | error failure =>
            obtain ⟨fails, receives, retried⟩ := answers
            cases stepped
            exact tracked.failed_session stage retried receives (spared fails)
        | ok progress =>
            cases progress with
            | continues next =>
                obtain ⟨_, receives, sound⟩ := answers
                cases stepped
                exact tracked.stays busy sound
                  (by rw [(tracked.connecting busy).2, received, receives, Bool.or_false])
            | stores next =>
                obtain ⟨_, receives, sound⟩ := answers
                cases stepped
                exact tracked.stays busy sound (by rw [received, receives, Bool.or_true])
            | closed =>
                obtain ⟨_, receives⟩ := answers
                cases stepped
                exact tracked.closed_session stage receives
  · cases stepped

/-- A productive session that fails later in the series schedules another delay than the
first. -/
theorem Tracked.lost_out_of_series {input : LoopInput} {now : ℕ}
    (retried : AvailabilityLoop.Retried failure) (productive : watched.worker.validResult = true)
    (place : watched.worker.connection.backoffIndex ≠ 0) :
    ¬(watched.after (.loop input now)
      (watched.worker.endLoop (.error failure) now)).InSeries := by
  intro series
  have busy := busy_of stage nofun
  obtain ⟨delay, _⟩ := tracked.endLoop_schedules stage retried now
  generalize watched.worker.endLoop (.error failure) now = moved at *
  obtain ⟨worker, scheduled⟩ := moved
  simp only at delay
  subst delay
  have flag := (tracked.connecting busy).2
  have due := series (dueDelay watched.position true,
    dueDelay watched.worker.connection.backoffIndex false)
    (by simp [after, restarts, stage, ← flag, productive])
  simp only at due
  rw [← dueDelay_min watched.position, ← tracked.index] at due
  exact dueDelay_ne_first place due

end

/-- The condition is necessary. -/
theorem Tracked.spares_of_inSeries {later : Watched}
    (moved : machine.step watched input = some later) (series : later.InSeries) :
    watched.Spares input := by
  unfold Spares
  split
  · rename_i loop input now stage
    intro fails
    by_contra spoiled
    rw [not_or, Bool.not_eq_false] at spoiled
    obtain ⟨productive, place⟩ := spoiled
    simp only [machine, Option.map_eq_some_iff] at moved
    obtain ⟨moved, stepped, rfl⟩ := moved
    simp only [ReconnectWorker.step, stage] at stepped
    cases result : loop.step input with
    | none =>
        rw [result] at stepped
        cases stepped
    | some answer =>
        have answers := AvailabilityLoop.step_answers (tracked.loop loop stage) result
        rw [result] at stepped
        cases answer with
        | error failure =>
            obtain ⟨_, _, retried⟩ := answers
            cases stepped
            exact tracked.lost_out_of_series stage retried productive place series
        | ok progress =>
            cases progress with
            | continues next => exact absurd (fails.symm.trans answers.1) nofun
            | stores next => exact absurd (fails.symm.trans answers.1) nofun
            | closed => exact absurd (fails.symm.trans answers.1) nofun
  · trivial

end

/-- **The delays follow the series** in a run if and only if no session of the run
fails after a valid result, but for attempts from the start of the series. -/
theorem delays_in_series_iff {past : List (Watched × WorkerInput)} {watched : Watched}
    (run : machine.Run past watched) :
    StepSystem.Throughout InSeries past watched ↔ StepSystem.Guarded Spares past :=
  run.throughout_iff_guarded (fun _ start => by rw [show _ = new from start]; exact tracked_new)
    (fun _ _ _ tracked spares moved => Tracked.next tracked moved spares)
    (fun _ tracked => tracked.series)
    (fun _ _ _ tracked moved series => Tracked.spares_of_inSeries tracked moved series)

/-- Two attempts without a connection, and a session that stores one result. -/
def storesResult : List WorkerInput :=
  [.turn none 0 0 true, .failed .tcp 0, .turn none 0 250 true, .failed .tcp 250,
    .turn none 0 750 true, .opened (.replicate 16 1) 750,
    .loop (.request none (some (.replicate 16 2)) none) 750,
    .loop (.received (.ok (.availabilityResult 1 (.replicate 16 2) .available)) none) 750]

/-- The user closes the session. -/
theorem closed_session_in_series :
    ∃ past watched, machine.Run past watched ∧
      watched.delays = [(250, 250), (500, 500), (250, 250)] ∧
      (StepSystem.Throughout InSeries past watched ↔ StepSystem.Guarded Spares past) := by
  obtain ⟨past, run, -⟩ := (StepSystem.Run.start rfl : machine.Run [] new).exists_of_execute
    (storesResult ++ [.loop (.tick none 6) 750]) rfl
  exact ⟨past, _, run, rfl, delays_in_series_iff run⟩

/-- The host goes away after five seconds, while the second result is awaited. -/
def lostSession : List WorkerInput :=
  storesResult ++ List.replicate 500 (.loop (.tick none 0) 750) ++
    [.loop (.request none (some (.replicate 16 3)) none) 5750,
      .loop (.received (.error .tcp) none) 5750]

/-- The series goes on although a valid result was received. -/
theorem lost_session_not_in_series :
    ¬∀ past watched, machine.Run past watched → watched.InSeries := by
  intro claimed
  have delays : (machine.execute new lostSession).map delays =
      some [(250, 250), (500, 500), (250, 1000)] := by
    decide +kernel
  obtain ⟨past, watched, run, scheduled⟩ := StepSystem.exists_run_of_map delays rfl
  have series := claimed past watched run (250, 1000) (by simp [scheduled])
  cases series

end Watched

end Deskkin.Device
