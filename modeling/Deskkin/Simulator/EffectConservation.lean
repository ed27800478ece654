/-
# Effects of the simulator runtime

The availability feature waits for the effect it asked for last: a read or the
refresh timer. If the runtime drops that effect, no input ever moves the feature
again and the refreshes end. Between two callbacks a feature that reads must
therefore have its read on the way, and a feature that waits must have its timer
armed; it never rests while its timer is being armed.

Three callbacks break this. A refresh that comes due after a revocation leaves
early, because the stopped adapter refuses to schedule a reconnection. A
connection that succeeds after a revocation counts as connected although its
adapter stays stopped, and the next refresh fails to begin. A pairing that
succeeds in the middle of a read drops the read. Every run that avoids these, and
does not run out of identities, loses no effect.
-/

import Deskkin.Application.Refresh
import Deskkin.Simulator.Runtime

namespace Deskkin.ProtocolRuntime

open Protocol Simulator
open Application (timerEffect readEffect Cycles)

/-- The read is on its way: its command waits for the worker, or the worker
carries it out, or its completion waits for the UI thread. -/
def Carried (self : ProtocolRuntime) (session : ContextId) (read : ActiveRead) : Prop :=
  .read session read.request read.operation ∈ self.commands ∨
    self.worker.busy = some (.read session read.request read.operation) ∨
    ∃ generation result,
      .readCompleted session generation read.request read.operation result ∈ self.events

/-- The effect the availability feature waits for is under way. -/
structure Conserved (runtime : ProtocolRuntime) : Prop where
  reading : ∀ id, runtime.core.availability.state = .reading id →
    ∃ session read, runtime.adapter.active = some read ∧ read.effectId = id.get ∧
      runtime.Carried session read
  waiting : ∀ id, runtime.core.availability.state = .waiting id →
    ∃ timer, runtime.refreshTimer = some timer ∧ timer.effect.id = ⟨.availability, id⟩
  arming : ∀ id, runtime.core.availability.state ≠ .armingRefresh id

/-- A trusted pairing is the next event. -/
def PairsNext (self : ProtocolRuntime) : Prop :=
  ∃ result, self.events.head? = some (.paired true result)

/-- The condition on one step. A refresh comes due with identities left; while
connected the adapter is authenticated, and while disconnected a reconnection is
under way, pointless or possible. A pairing succeeds only between reads. -/
def Allowed (self : ProtocolRuntime) : Label → Prop
  | .refreshDue _ =>
      self.core.availability.nextEffectId + 2 ≤ Checked.u64Max ∧
        self.adapter.requestId < Checked.u32Max ∧
        (self.connected = true → self.adapter.state = .authenticated) ∧
        (self.connected = false → self.connecting = true ∨
          self.adapter.terminalReason ≠ none ∨ self.reconnectTimer ≠ none ∨
          self.adapter.state ≠ .stopped)
  | .networkEvent _ =>
      self.PairsNext → ∀ id, self.core.availability.state ≠ .reading id
  | _ => True

/-! ## The invariant -/

/-- What holds in every phase. -/
structure Steady (runtime : ProtocolRuntime) : Prop where
  running : runtime.core.state = .running
  idle : runtime.core.syntheticNotice.state = .idle
  settled : runtime.connected = true → runtime.pendingSession = none
  session : runtime.adapter.state = .authenticated → runtime.adapter.session ≠ none

variable {self : ProtocolRuntime} {core : Application} {reported : Application.Transition}
  {id : LocalEffectId} {next : Option Application.Effect} {session operation : ContextId}
  {requestId : ℕ} {events : List NetworkEvent} {commands : List NetworkCommand}
  {event : NetworkEvent}

/-- The notice feature stays idle around the cycle. -/
theorem Steady.idle_after (steady : self.Steady) {state : Availability.State} {used : ℕ}
    (cycles : Cycles self.core core state used) : core.syntheticNotice.state = .idle := by
  rw [cycles.notice]
  exact steady.idle

/-- The feature waits and its timer is armed. -/
def Waits (self : ProtocolRuntime) : Prop :=
  self.adapter.active = none ∧ ∃ id timer, self.core.availability.state = .waiting id ∧
    self.refreshTimer = some timer ∧ timer.effect.id = ⟨.availability, id⟩

/-- The feature reads in an authenticated session, with an identity left and no
timer armed. -/
def InSession (self : ProtocolRuntime) (session : ContextId) (read : ActiveRead) : Prop :=
  ∃ id, self.core.availability.state = .reading id ∧
    self.core.availability.nextEffectId < Checked.u64Max ∧ self.refreshTimer = none ∧
    self.connected = true ∧ self.adapter.state = .authenticated ∧
      self.adapter.session = some session ∧
    self.adapter.active = some read ∧ read.effectId = id.get

def Reads (self : ProtocolRuntime) : Prop :=
  ∃ session read, self.InSession session read ∧ self.Carried session read

structure Sound (runtime : ProtocolRuntime) : Prop where
  steady : runtime.Steady
  phase : runtime.Waits ∨ runtime.Reads

theorem Sound.conserved (sound : self.Sound) : self.Conserved := by
  rcases sound.phase with waits | reads
  · obtain ⟨_, id, timer, waiting, armed, identity⟩ := waits
    refine ⟨?_, ?_, ?_⟩
    · intro other reading
      rw [waiting] at reading
      cases reading
    · intro other same
      rw [waiting] at same
      cases same
      exact ⟨timer, armed, identity⟩
    · intro other arming
      rw [waiting] at arming
      cases arming
  · obtain ⟨session, read, ⟨id, reading, _, _, _, _, _, active, effect⟩, carried⟩ := reads
    refine ⟨?_, ?_, ?_⟩
    · intro other same
      rw [reading] at same
      cases same
      exact ⟨session, read, active, effect, carried⟩
    · intro other waiting
      rw [reading] at waiting
      cases waiting
    · intro other arming
      rw [reading] at arming
      cases arming

/-! ## Parts of a callback -/

@[simp]
theorem andThen_ok (self : ProtocolRuntime) (rest : ProtocolRuntime → Outcome) :
    andThen (.ok (), self) rest = rest self :=
  rfl

@[simp]
theorem andThen_error (error : RuntimeError) (self : ProtocolRuntime)
    (rest : ProtocolRuntime → Outcome) :
    andThen (.error error, self) rest = (.error error, self) :=
  rfl

theorem coreTransition_of_ok {input : Application.ApplicationInput}
    (accepted : self.core.transition input = .ok (reported, core)) :
    self.coreTransition input = .ok (reported.effects.get 0, { self with core }) := by
  rw [coreTransition, accepted]

/-- Scheduling a reconnection touches the adapter and the reconnect timer. It
keeps the read in flight and leaves the adapter out of its session, and it
succeeds unless the adapter is stopped. -/
theorem scheduleProtocolReconnect_spec (self : ProtocolRuntime) :
    ∃ outcome adapter reconnectTimer,
      self.scheduleProtocolReconnect = (outcome, { self with adapter, reconnectTimer }) ∧
        adapter.active = self.adapter.active ∧ adapter.state ≠ .authenticated ∧
        (self.adapter.state ≠ .stopped → outcome = .ok ()) := by
  by_cases stopped : self.adapter.state = .stopped
  · refine ⟨.error (.reconnectBackoff .stopped), self.adapter, self.reconnectTimer, ?_, rfl, ?_, ?_⟩
    · simp [scheduleProtocolReconnect, ProtocolAdapter.connectionFailed, stopped]
    · rw [stopped]
      decide
    · intro running
      exact absurd stopped running
  · refine ⟨.ok (), { self.adapter with
      state := .backoff, backoffIndex := min (self.adapter.backoffIndex + 1) 4 },
      some self.adapter.delay, ?_, rfl, by simp, fun _ => rfl⟩
    simp [scheduleProtocolReconnect, ProtocolAdapter.connectionFailed, stopped]

/-- The same where the reconnection may be left out. -/
theorem reconnect_if_spec (self : ProtocolRuntime) (schedule : Bool) :
    ∃ outcome adapter reconnectTimer,
      (if schedule then self.scheduleProtocolReconnect else (.ok (), self)) =
          (outcome, { self with adapter, reconnectTimer }) ∧
        adapter.active = self.adapter.active ∧
        (adapter.state = .authenticated → adapter = self.adapter) ∧
        (schedule = false ∨ self.adapter.state ≠ .stopped → outcome = .ok ()) := by
  cases schedule with
  | false =>
      exact ⟨.ok (), self.adapter, self.reconnectTimer, rfl, rfl, fun _ => rfl, fun _ => rfl⟩
  | true =>
      obtain ⟨outcome, adapter, timer, scheduled, active, state, succeeds⟩ :=
        self.scheduleProtocolReconnect_spec
      refine ⟨outcome, adapter, timer, by rw [if_pos rfl, scheduled], active,
        fun authenticated => absurd authenticated state, ?_⟩
      intro possible
      rcases possible with impossible | running
      · cases impossible
      · exact succeeds running

/-- Arming the refresh timer takes the feature from arming to waiting. -/
theorem dispatchFollowing_timer (running : self.core.state = .running)
    (arming : self.core.availability.state = .armingRefresh id) :
    ∃ core timer, (self.dispatchFollowing (some (timerEffect id))) =
        (.ok (), { self with core, refreshTimer := some timer }) ∧
      timer.effect.id = ⟨.availability, id⟩ ∧ Cycles self.core core (.waiting id) 0 := by
  obtain ⟨reported, core, accepted, cycles⟩ := Application.transition_timerArmed running arming
  refine ⟨core, ⟨Availability.refreshDelayMs, timerEffect id⟩, ?_, rfl, cycles⟩
  simp [dispatchFollowing, armProtocolRefresh, timerEffect, coreTransition, accepted]

/-- The effect that follows the end of a read: none while the feature waits with
its timer armed, and the refresh timer while the feature is arming it. -/
def Follows (self : ProtocolRuntime) (next : Option Application.Effect) : Prop :=
  (next = none ∧ ∃ id timer, self.core.availability.state = .waiting id ∧
      self.refreshTimer = some timer ∧ timer.effect.id = ⟨.availability, id⟩) ∨
    ∃ id, next = some (timerEffect id) ∧ self.core.availability.state = .armingRefresh id

/-- Dispatching the effect that follows leaves the feature waiting. -/
theorem dispatchFollowing_waits (steady : self.Steady) (inactive : self.adapter.active = none)
    (follows : self.Follows next) :
    (self.dispatchFollowing next).2.Steady ∧ (self.dispatchFollowing next).2.Waits := by
  rcases follows with h | h
  · obtain ⟨rfl, waiting⟩ := h
    exact ⟨steady, inactive, waiting⟩
  · obtain ⟨id, rfl, arming⟩ := h
    obtain ⟨core, timer, dispatched, identity, cycles⟩ :=
      dispatchFollowing_timer steady.running arming
    rw [dispatched]
    exact ⟨⟨cycles.running, steady.idle_after cycles, steady.settled, steady.session⟩, inactive,
      id, timer, cycles.state, rfl, identity⟩

/-- A callback that may schedule a reconnection and then dispatches the effect
that follows loses nothing, unless the stopped adapter refuses while a timer is
to be armed. -/
theorem reconnect_then_follow (schedule : Bool) (steady : self.Steady)
    (inactive : self.adapter.active = none) (follows : self.Follows next)
    (possible : next = none ∨ schedule = false ∨ self.adapter.state ≠ .stopped) :
    (andThen (if schedule then self.scheduleProtocolReconnect else (.ok (), self))
        fun self => self.dispatchFollowing next).2.Steady ∧
      (andThen (if schedule then self.scheduleProtocolReconnect else (.ok (), self))
        fun self => self.dispatchFollowing next).2.Waits := by
  obtain ⟨outcome, adapter, timer, scheduled, active, state, succeeds⟩ :=
    self.reconnect_if_spec schedule
  rw [scheduled]
  have kept : ({ self with adapter, reconnectTimer := timer } : ProtocolRuntime).Steady := by
    refine ⟨steady.running, steady.idle, steady.settled, ?_⟩
    intro authenticated
    have same : adapter = self.adapter := state authenticated
    subst same
    exact steady.session authenticated
  have dispatched := dispatchFollowing_waits kept (active.trans inactive) follows
  cases outcome with
  | ok done => exact dispatched
  | error error =>
      have unneeded : next = none := by
        rcases possible with unneeded | h
        · exact unneeded
        · cases succeeds h
      rw [unneeded] at dispatched
      exact dispatched

/-! ## Callbacks -/

/-- Losing the connection ends a read in progress and leaves the feature
waiting. -/
theorem protocolDisconnected_waits (steady : self.Steady)
    (phase : self.Waits ∨ ∃ session read, self.InSession session read) :
    self.protocolDisconnected.2.Steady ∧ self.protocolDisconnected.2.Waits := by
  by_cases stopped : self.adapter.state = .stopped
  · -- A stopped adapter reports nothing, and the feature was waiting.
    have waits : self.Waits := by
      rcases phase with waits | h
      · exact waits
      · obtain ⟨_, _, _, _, _, _, _, authenticated, _⟩ := h
        rw [authenticated] at stopped
        cases stopped
    obtain ⟨inactive, waiting⟩ := waits
    have silent : self.adapter.disconnected = (none, self.adapter) := by
      simp [ProtocolAdapter.disconnected, stopped]
    rw [protocolDisconnected, silent]
    exact reconnect_then_follow _ ⟨steady.running, steady.idle, by simp, steady.session⟩
      inactive (.inl ⟨rfl, waiting⟩) (.inl rfl)
  · have reported : self.adapter.disconnected = (some .sessionInvalidated,
        { self.adapter with
          state := .backoff, session := none, active := none, terminalReason := none }) := by
      simp [ProtocolAdapter.disconnected, stopped]
    have possible : ConnectionState.backoff ≠ .stopped := by decide
    rcases phase with waits | h
    · obtain ⟨_, id, timer, waiting, armed, identity⟩ := waits
      obtain ⟨result, core, accepted, effect, cycles⟩ :=
        Application.transition_invalidated_waiting steady.running steady.idle waiting
      simp only [protocolDisconnected, reported, protocolEventInput, coreTransition, accepted,
        Fallible.mapError_ok, effect]
      exact reconnect_then_follow _ ⟨cycles.running, steady.idle_after cycles, nofun, nofun⟩ rfl
        (.inl ⟨rfl, id, timer, cycles.state, armed, identity⟩) (.inl rfl)
    · obtain ⟨session, read, id, reading, left, _⟩ := h
      obtain ⟨result, core, timer, accepted, effect, cycles⟩ :=
        Application.transition_invalidated_reading steady.running steady.idle reading left
      simp only [protocolDisconnected, reported, protocolEventInput, coreTransition, accepted,
        Fallible.mapError_ok, effect]
      exact reconnect_then_follow _ ⟨cycles.running, steady.idle_after cycles, nofun, nofun⟩ rfl
        (.inr ⟨timer, rfl, cycles.state⟩) (.inr (.inr possible))

/-- A read the core asks for while disconnected fails at once and leaves the
feature waiting. -/
theorem completeReadWhileDisconnected_waits (steady : self.Steady)
    (inactive : self.adapter.active = none) (reading : self.core.availability.state = .reading id)
    (left : self.core.availability.nextEffectId < Checked.u64Max)
    (possible : self.connecting = true ∨ self.adapter.terminalReason ≠ none ∨
      self.reconnectTimer ≠ none ∨ self.adapter.state ≠ .stopped) :
    (self.completeReadWhileDisconnected (readEffect id)).2.Steady ∧
      (self.completeReadWhileDisconnected (readEffect id)).2.Waits := by
  obtain ⟨result, core, timer, accepted, effect, cycles⟩ :=
    Application.transition_readCompleted steady.running reading left (.error .unavailable)
  have ended : self.coreTransition (.availabilityEffect (readEffect id).id
      (.readCompleted ⟨(readEffect id).id.localId, .error .unavailable⟩)) =
        .ok (some (timerEffect timer), { self with core }) := by
    rw [← effect]
    exact coreTransition_of_ok accepted
  rw [completeReadWhileDisconnected, ended]
  have kept : ({ self with core } : ProtocolRuntime).Steady :=
    ⟨cycles.running, steady.idle_after cycles, steady.settled, steady.session⟩
  refine reconnect_then_follow _ kept inactive (.inr ⟨timer, rfl, cycles.state⟩) (.inr ?_)
  rcases possible with connecting | terminal | scheduled | running
  · exact .inl (by simp [connecting])
  · exact .inl (by simp [terminal])
  · refine .inl ?_
    obtain ⟨delay, armed⟩ := Option.ne_none_iff_exists'.mp scheduled
    simp [armed]
  · exact .inr running

/-- Handing a command to the worker, with the answer of the queue. -/
theorem trySend_cases (self : ProtocolRuntime) (command : NetworkCommand) :
    self.trySend command = (.ok (), { self with commands := self.commands ++ [command] }) ∨
      self.trySend command = (.error .full, self) ∨
      self.trySend command = (.error .disconnected, self) := by
  by_cases lost : self.commandsLost
  · right
    right
    simp [trySend, lost]
  · by_cases room : self.commands.length < commandCapacity
    · left
      simp [trySend, lost, room]
    · right
      left
      simp [trySend, lost, room]

/-- A read that began is handed to the worker, and a queue that refuses it counts
as a lost connection. -/
theorem performProtocolRead_of_begun {effect : Application.Effect} {operation session : ContextId}
    {request : ℕ} {adapter : ProtocolAdapter} (connected : self.connected = true)
    (began : self.adapter.beginRead effect.id.localId.get operation = (.ok request, adapter))
    (known : adapter.session = some session) :
    self.performProtocolRead effect operation =
      match ({ self with adapter } : ProtocolRuntime).trySend
        (.read session request operation) with
      | (.ok (), sent) => (.ok (), sent)
      | (.error .full, kept) => (kept.sendControl .close).protocolDisconnected
      | (.error .disconnected, kept) => kept.protocolDisconnected := by
  cases adapter
  subst known
  rw [performProtocolRead, began]
  exact if_neg (by simp [connected])

/-- A read the core asks for is carried, or fails and leaves the feature
waiting. -/
theorem performProtocolRead_sound (operation : ContextId) (steady : self.Steady)
    (inactive : self.adapter.active = none) (reading : self.core.availability.state = .reading id)
    (left : self.core.availability.nextEffectId < Checked.u64Max)
    (unarmed : self.refreshTimer = none) (requests : self.adapter.requestId < Checked.u32Max)
    (inSession : self.connected = true → self.adapter.state = .authenticated)
    (possible : self.connected = false → self.connecting = true ∨
      self.adapter.terminalReason ≠ none ∨ self.reconnectTimer ≠ none ∨
      self.adapter.state ≠ .stopped) :
    (self.performProtocolRead (readEffect id) operation).2.Sound := by
  cases connected : self.connected with
  | false =>
      have failed := completeReadWhileDisconnected_waits steady inactive reading left
        (possible connected)
      have unconnected : self.performProtocolRead (readEffect id) operation =
          self.completeReadWhileDisconnected (readEffect id) := by
        simp [performProtocolRead, connected]
      rw [unconnected]
      exact ⟨failed.1, .inl failed.2⟩
  | true =>
      have authenticated := inSession connected
      obtain ⟨session, known⟩ := Option.ne_none_iff_exists'.mp (steady.session authenticated)
      let read : ActiveRead := ⟨operation, self.adapter.requestId + 1, id.get⟩
      let adapter : ProtocolAdapter :=
        { self.adapter with requestId := self.adapter.requestId + 1, active := some read }
      let begun : ProtocolRuntime := { self with adapter }
      have began : self.adapter.beginRead (readEffect id).id.localId.get operation =
          (.ok (self.adapter.requestId + 1), adapter) := by
        rw [ProtocolAdapter.beginRead_eq_ok_iff]
        exact ⟨authenticated, inactive, id.nonzero, rfl, requests, rfl⟩
      have begunSteady : begun.Steady :=
        ⟨steady.running, steady.idle, steady.settled, steady.session⟩
      have begunInSession : begun.InSession session read :=
        ⟨id, reading, left, unarmed, connected, authenticated, known, rfl, rfl⟩
      rw [performProtocolRead_of_begun connected began known]
      rcases begun.trySend_cases (.read session (self.adapter.requestId + 1) operation)
        with sent | full | lost
      · rw [sent]
        refine ⟨⟨steady.running, steady.idle, steady.settled, steady.session⟩,
          .inr ⟨session, read, begunInSession, .inl ?_⟩⟩
        exact List.mem_append_right _ (List.mem_singleton_self _)
      · rw [full]
        have closing : (begun.sendControl .close).Steady :=
          ⟨steady.running, steady.idle, steady.settled, steady.session⟩
        have ended := protocolDisconnected_waits closing (.inr ⟨session, read, begunInSession⟩)
        exact ⟨ended.1, .inl ended.2⟩
      · rw [lost]
        have ended := protocolDisconnected_waits begunSteady (.inr ⟨session, read, begunInSession⟩)
        exact ⟨ended.1, .inl ended.2⟩

/-- A result that answers no read in flight changes nothing. -/
theorem acceptReadResult_of_error {result : AvailabilityResult} (refused : ∀ event next,
      self.adapter.result session requestId operation result ≠ (.ok event, next)) :
    self.acceptReadResult session requestId operation result = (none, self) := by
  by_cases outside : (!self.connected || decide (self.adapter.session ≠ some session)) = true
  · rw [acceptReadResult, if_pos outside]
  · rw [acceptReadResult, if_neg outside]
    cases answer : self.adapter.result session requestId operation result with
    | mk outcome adapter =>
        cases outcome with
        | ok event => exact absurd answer (refused event adapter)
        | error error =>
            have same := ProtocolAdapter.result_error answer
            subst same
            rfl

/-- The completion of a read reaches the feature that asked for it. -/
theorem protocolEventInput_completed (id : LocalEffectId) (value : AvailabilityValue) :
    ∃ outcome, protocolEventInput (.availabilityCompleted id.get value) =
      .ok (.availabilityEffect ⟨.availability, id⟩ (.readCompleted ⟨id, outcome⟩)) := by
  simp only [protocolEventInput, LocalEffectId.new_get]
  exact ⟨_, rfl⟩

/-- A result that answers the read in flight ends it and asks for the timer. -/
theorem acceptReadResult_inSession {session : ContextId} {read : ActiveRead} (steady : self.Steady)
    (reads : self.InSession session read) (result : AvailabilityResult) :
    ∃ core adapter timer,
      self.acceptReadResult session read.request read.operation result =
          (some (timerEffect timer), { self with core, adapter }) ∧
        Cycles self.core core (.armingRefresh timer) 1 ∧ adapter.active = none ∧
        adapter.session = self.adapter.session := by
  obtain ⟨id, reading, left, _, connected, authenticated, known, active, effectId⟩ := reads
  have answer : self.adapter.result session read.request read.operation result =
      (.ok (.availabilityCompleted read.effectId (ProtocolAdapter.valueOf result)),
        { self.adapter with active := none, backoffIndex := 0 }) := by
    rw [ProtocolAdapter.result_eq_ok_iff]
    exact ⟨authenticated, known, read.effectId, active, rfl, rfl⟩
  have inside : ¬ (!self.connected || decide (self.adapter.session ≠ some session)) = true := by
    simp [connected, known]
  obtain ⟨outcome, input⟩ :=
    protocolEventInput_completed id (ProtocolAdapter.valueOf result)
  obtain ⟨reported, core, timer, accepted, effect, cycles⟩ :=
    Application.transition_readCompleted steady.running reading left outcome
  refine ⟨core, { self.adapter with active := none, backoffIndex := 0 }, timer, ?_, cycles, rfl,
    rfl⟩
  rw [acceptReadResult, if_neg inside, answer, effectId]
  simp only [input, coreTransition, accepted, effect]

/-- The end of a read that is no longer in its queue: it is the read in flight
that ends, or the read in flight is still carried. -/
theorem handleReadResult_sound (admitted : ℕ → Bool) {generation requestId : ℕ}
    (result : Except SessionError AvailabilityResult) (steady : self.Steady)
    (phase : self.Waits ∨ ∃ present read, self.InSession present read ∧
      ((session = present ∧ requestId = read.request ∧ operation = read.operation) ∨
        self.Carried present read)) :
    (self.handleReadResult admitted session generation requestId operation result).Sound := by
  have ends : self.protocolDisconnected.2.Sound := by
    have lost : self.protocolDisconnected.2.Steady ∧ self.protocolDisconnected.2.Waits := by
      apply protocolDisconnected_waits steady
      rcases phase with waits | h
      · exact .inl waits
      · obtain ⟨present, read, reads, _⟩ := h
        exact .inr ⟨present, read, reads⟩
    exact ⟨lost.1, .inl lost.2⟩
  cases result with
  | error error => exact ends
  | ok result =>
      cases current : admitted generation with
      | false =>
          rw [handleReadResult, if_neg (by simp [current])]
          exact ends
      | true =>
          rw [handleReadResult, if_pos current]
          by_cases answers : ∃ event next,
              self.adapter.result session requestId operation result = (.ok event, next)
          · -- The accepted result is that of the read in flight.
            obtain ⟨event, next, answer⟩ := answers
            obtain ⟨authenticated, known, effectId, active, _, _⟩ :=
              ProtocolAdapter.result_eq_ok_iff.mp answer
            rcases phase with waits | h
            · rw [waits.1] at active
              cases active
            · obtain ⟨present, read, reads, _⟩ := h
              have reads' := reads
              obtain ⟨_, _, _, _, _, _, inPresent, inFlight, _⟩ := reads'
              rw [known] at inPresent
              rw [active] at inFlight
              cases inPresent
              cases inFlight
              obtain ⟨core, adapter, timer, accepted, cycles, inactive, same⟩ :=
                acceptReadResult_inSession steady reads result
              rw [show self.acceptReadResult session requestId operation result = _ from accepted]
              have kept : ({ self with core, adapter } : ProtocolRuntime).Steady := by
                refine ⟨cycles.running, steady.idle_after cycles, steady.settled, ?_⟩
                intro _
                rw [same, known]
                simp
              have waits := dispatchFollowing_waits kept inactive
                (.inr ⟨timer, rfl, cycles.state⟩)
              exact ⟨waits.1, .inl waits.2⟩
          · have refused : ∀ event next,
                self.adapter.result session requestId operation result ≠ (.ok event, next) :=
              fun event next answer => answers ⟨event, next, answer⟩
            rw [acceptReadResult_of_error refused]
            refine ⟨steady, ?_⟩
            rcases phase with waits | h
            · exact .inl waits
            · obtain ⟨present, read, reads, ending | carried⟩ := h
              · obtain ⟨rfl, rfl, rfl⟩ := ending
                obtain ⟨_, _, _, _, _, authenticated, known, active, _⟩ := reads
                exact absurd (ProtocolAdapter.result_eq_ok_iff.mpr
                  ⟨authenticated, known, read.effectId, active, rfl, rfl⟩) (refused _ _)
              · exact .inr ⟨present, read, reads, carried⟩

/-- Scheduling a reconnection between reads. -/
theorem scheduleProtocolReconnect_sound (steady : self.Steady) (waits : self.Waits) :
    self.scheduleProtocolReconnect.2.Sound := by
  obtain ⟨outcome, adapter, timer, scheduled, active, state, _⟩ :=
    self.scheduleProtocolReconnect_spec
  rw [scheduled]
  exact ⟨⟨steady.running, steady.idle, steady.settled, fun h => absurd h state⟩,
    .inl ⟨active.trans waits.1, waits.2⟩⟩

/-- A terminal rejection between reads asks for nothing. -/
theorem protocolTerminal_sound (reason : HelloRejectReason) (steady : self.Steady)
    (waits : self.Waits) (stops : (self.adapter.helloRejected reason).state ≠ .authenticated) :
    (self.protocolTerminal reason).2.Sound := by
  obtain ⟨inactive, id, timer, waiting, armed, identity⟩ := waits
  obtain ⟨reported, core, accepted, effect, cycles⟩ :=
    Application.transition_invalidated_waiting steady.running steady.idle waiting
  simp only [protocolTerminal, coreTransition, accepted, effect]
  refine ⟨⟨cycles.running, steady.idle_after cycles, nofun, fun h => absurd h stops⟩,
    .inl ⟨?_, id, timer, cycles.state, armed, identity⟩⟩
  rw [ProtocolAdapter.helloRejected_active]
  exact inactive

theorem handleConnectResult_sound (session : ContextId) (result : Except SessionError Unit)
    (sound : self.Sound) : (self.handleConnectResult session result).Sound := by
  by_cases pending : self.pendingSession = some session
  · -- A connection is pending only while disconnected, so no read is in flight.
    have waits : self.Waits := by
      rcases sound.phase with waits | h
      · exact waits
      · obtain ⟨_, _, ⟨_, _, _, _, connected, _⟩, _⟩ := h
        have none := sound.steady.settled connected
        rw [pending] at none
        cases none
    let settled : ProtocolRuntime := { self with connecting := false, pendingSession := none }
    have steady : settled.Steady :=
      ⟨sound.steady.running, sound.steady.idle, fun _ => rfl, sound.steady.session⟩
    have waitsStill : settled.Waits := waits
    rw [handleConnectResult, if_neg (by simp [pending])]
    cases result with
    | ok done =>
        refine ⟨⟨steady.running, steady.idle, fun _ => rfl, ?_⟩, .inl ⟨?_, waits.2⟩⟩
        · intro _
          change (self.adapter.authenticated session).session ≠ none
          by_cases stopped : self.adapter.state = .stopped
          · have same : self.adapter.authenticated session = self.adapter := by
              simp [ProtocolAdapter.authenticated, stopped]
            rename_i authenticated
            change (self.adapter.authenticated session).state = .authenticated at authenticated
            rw [same, stopped] at authenticated
            cases authenticated
          · simp [ProtocolAdapter.authenticated, stopped]
        · change (self.adapter.authenticated session).active = none
          rw [ProtocolAdapter.authenticated_active]
          exact waits.1
    | error error =>
        cases error with
        | incompatible =>
            exact protocolTerminal_sound _ steady waitsStill
              (by simp [ProtocolAdapter.helloRejected])
        | authorizationDenied =>
            exact protocolTerminal_sound _ steady waitsStill
              (by simp [ProtocolAdapter.helloRejected])
        | _ => exact scheduleProtocolReconnect_sound steady waitsStill
  · rw [handleConnectResult, if_pos pending]
    exact sound

/-- What a trusted pairing makes of the adapter. -/
theorem applyPairingOutcome_spec (adapter : ProtocolAdapter) (result : Except SessionError Unit) :
    (applyPairingOutcome adapter result).2.active = none ∧
      (applyPairingOutcome adapter result).2.state ≠ .authenticated := by
  unfold applyPairingOutcome
  split <;> simp [ProtocolAdapter.helloRejected, ProtocolAdapter.restartAfterPairing]

theorem handlePaired_sound (trustPaired : Bool) (result : Except SessionError Unit)
    (sound : self.Sound)
    (between : trustPaired = true → ∀ id, self.core.availability.state ≠ .reading id) :
    (self.handlePaired trustPaired result).Sound := by
  cases trustPaired with
  | false => exact sound
  | true =>
      have waits : self.Waits := by
        rcases sound.phase with waits | h
        · exact waits
        · obtain ⟨_, _, ⟨id, reading, _⟩, _⟩ := h
          exact absurd reading (between rfl id)
      obtain ⟨inactive, away⟩ := applyPairingOutcome_spec self.adapter result
      let settled : ProtocolRuntime :=
        { self with connected := false, connecting := false,
                    adapter := (applyPairingOutcome self.adapter result).2 }
      have steady : settled.Steady :=
        ⟨sound.steady.running, sound.steady.idle, nofun, fun h => absurd h away⟩
      have settledWaits : settled.Waits := ⟨inactive, waits.2⟩
      have handled : self.handlePaired true result =
          if (applyPairingOutcome self.adapter result).1 then settled.scheduleProtocolReconnect.2
          else settled := rfl
      rw [handled]
      cases (applyPairingOutcome self.adapter result).1 with
      | false => exact ⟨steady, .inl settledWaits⟩
      | true => exact scheduleProtocolReconnect_sound steady settledWaits

/-- The runtime after a revocation the core answered with `core`. -/
def revoked (self : ProtocolRuntime) (core : Application) : ProtocolRuntime :=
  { self with
    core, connected := false, connecting := false, reconnectTimer := none,
    adapter := self.adapter.stop, control := self.control ++ [.revoke] }

theorem handleIdentityRevoked_of_accepted
    (accepted : self.core.transition (.lifecycle .sessionInvalidated) = .ok (reported, core)) :
    self.handleIdentityRevoked =
      ((self.revoked core).dispatchFollowing (reported.effects.get 0)).2 := by
  simp only [handleIdentityRevoked, coreTransition, accepted]
  rfl

/-- A revocation ends a read in progress and leaves the feature waiting. -/
theorem handleIdentityRevoked_sound (sound : self.Sound) : self.handleIdentityRevoked.Sound := by
  rcases sound.phase with waits | h
  · obtain ⟨_, id, timer, waiting, armed, identity⟩ := waits
    obtain ⟨reported, core, accepted, effect, cycles⟩ :=
      Application.transition_invalidated_waiting sound.steady.running sound.steady.idle waiting
    have stopped : (revoked self core).Steady :=
      ⟨cycles.running, sound.steady.idle_after cycles, nofun, nofun⟩
    have waits := dispatchFollowing_waits stopped rfl
      (.inl ⟨rfl, id, timer, cycles.state, armed, identity⟩)
    rw [handleIdentityRevoked_of_accepted accepted, effect]
    exact ⟨waits.1, .inl waits.2⟩
  · obtain ⟨_, _, ⟨id, reading, left, _⟩, _⟩ := h
    obtain ⟨reported, core, timer, accepted, effect, cycles⟩ :=
      Application.transition_invalidated_reading sound.steady.running sound.steady.idle reading
        left
    have stopped : (revoked self core).Steady :=
      ⟨cycles.running, sound.steady.idle_after cycles, nofun, nofun⟩
    have waits := dispatchFollowing_waits stopped rfl (.inr ⟨timer, rfl, cycles.state⟩)
    rw [handleIdentityRevoked_of_accepted accepted, effect]
    exact ⟨waits.1, .inl waits.2⟩

/-- A refresh that comes due under the condition begins a read. -/
theorem protocolRefreshDue_sound {timer : RefreshTimer} (operation : ContextId) (sound : self.Sound)
    (armed : self.refreshTimer = some timer) (allowed : self.Allowed (.refreshDue operation)) :
    ({ self with refreshTimer := none }.protocolRefreshDue timer.effect operation).Sound := by
  obtain ⟨left, requests, inSession, possible⟩ := allowed
  rcases sound.phase with waits | h
  · obtain ⟨inactive, id, _, waiting, same, identity⟩ := waits
    rw [armed] at same
    cases same
    obtain ⟨reported, core, read, accepted, effect, cycles⟩ :=
      Application.transition_refreshDue sound.steady.running waiting (by omega)
    simp only [protocolRefreshDue, identity, coreTransition, accepted, effect]
    have ids : core.availability.nextEffectId < Checked.u64Max := by
      rw [cycles.ids]
      omega
    have fired : ({ self with core, refreshTimer := none } : ProtocolRuntime).Steady :=
      ⟨cycles.running, sound.steady.idle_after cycles, sound.steady.settled, sound.steady.session⟩
    exact performProtocolRead_sound operation fired inactive cycles.state ids rfl requests inSession
      possible
  · obtain ⟨_, _, ⟨_, _, _, unarmed, _⟩, _⟩ := h
    rw [armed] at unarmed
    cases unarmed

/-! ## The network side -/

/-- A change of the queues and the worker that drops no read keeps everything. -/
theorem Sound.carry (sound : self.Sound) {commandsLost : Bool} {control : List NetworkControl}
    {worker : Worker} (keeps : ∀ session read, self.Carried session read →
      ({ self with commands, commandsLost, control, events, worker } : ProtocolRuntime).Carried
        session read) :
    ({ self with commands, commandsLost, control, events, worker } : ProtocolRuntime).Sound := by
  refine ⟨⟨sound.steady.running, sound.steady.idle, sound.steady.settled, sound.steady.session⟩, ?_⟩
  rcases sound.phase with waits | h
  · exact .inl waits
  · obtain ⟨session, read, reads, carried⟩ := h
    exact .inr ⟨session, read, reads, keeps session read carried⟩

theorem trySend_sound (sound : self.Sound) (command : NetworkCommand) :
    (self.trySend command).2.Sound := by
  rcases self.trySend_cases command with sent | full | lost
  · rw [sent]
    apply sound.carry
    intro session read carried
    rcases carried with queued | busy | ended
    · exact .inl (List.mem_append_left _ queued)
    · exact .inr (.inl busy)
    · exact .inr (.inr ended)
  · rw [full]
    exact sound
  · rw [lost]
    exact sound

/-- An attempt to connect happens only while disconnected. -/
theorem attemptProtocolConnect_sound (session : ContextId) (sound : self.Sound) :
    (self.attemptProtocolConnect session).2.Sound := by
  by_cases busy : (self.connected || self.connecting) = true
  · rw [attemptProtocolConnect, if_pos busy]
    exact sound
  · have disconnected : self.connected = false := by
      cases connected : self.connected with
      | false => rfl
      | true => simp [connected] at busy
    have waits : self.Waits := by
      rcases sound.phase with waits | h
      · exact waits
      · obtain ⟨_, _, ⟨_, _, _, _, connected, _⟩, _⟩ := h
        rw [connected] at disconnected
        cases disconnected
    have started : ({ self with
        adapter := self.adapter.connecting, connecting := true,
        pendingSession := some session } : ProtocolRuntime).Sound := by
      refine ⟨⟨sound.steady.running, sound.steady.idle, ?_, ?_⟩, .inl ⟨?_, waits.2⟩⟩
      · intro connected
        change self.connected = true at connected
        rw [disconnected] at connected
        cases connected
      · change self.adapter.connecting.state = .authenticated →
          self.adapter.connecting.session ≠ none
        unfold ProtocolAdapter.connecting
        split
        · intro impossible
          cases impossible
        · exact sound.steady.session
      · rw [ProtocolAdapter.connecting_active]
        exact waits.1
    rw [attemptProtocolConnect, if_neg busy]
    rcases trySend_cases { self with
        adapter := self.adapter.connecting, connecting := true, pendingSession := some session }
        (.connect session) with sent | full | lost
    · have queued := trySend_sound started (.connect session)
      rw [sent] at queued
      simp only [sent]
      exact queued
    · simp only [full]
      exact ⟨⟨started.steady.running, started.steady.idle, fun _ => rfl, started.steady.session⟩,
        .inl ⟨by rw [ProtocolAdapter.connecting_active]; exact waits.1, waits.2⟩⟩
    · simp only [lost]
      exact ⟨⟨started.steady.running, started.steady.idle, fun _ => rfl, started.steady.session⟩,
        .inl ⟨by rw [ProtocolAdapter.connecting_active]; exact waits.1, waits.2⟩⟩

/-- Later events keep the completion of a read. -/
theorem completion_append (more : List NetworkEvent) (ended : ∃ generation result,
      .readCompleted session generation requestId operation result ∈ events) :
    ∃ generation result,
      .readCompleted session generation requestId operation result ∈ events ++ more := by
  obtain ⟨generation, result, event⟩ := ended
  exact ⟨generation, result, List.mem_append_left _ event⟩

/-- Taking an event from its queue keeps a read carried unless the event is its
completion. -/
theorem Carried.after_pop {session : ContextId} {read : ActiveRead}
    (next : self.events = event :: events) (carried : self.Carried session read) :
    (∃ generation result,
        event = .readCompleted session generation read.request read.operation result) ∨
      ({ self with events } : ProtocolRuntime).Carried session read := by
  rcases carried with queued | busy | ended
  · exact .inr (.inl queued)
  · exact .inr (.inr (.inl busy))
  · obtain ⟨generation, result, member⟩ := ended
    rw [next] at member
    rcases List.mem_cons.mp member with here | later
    · exact .inl ⟨generation, result, here.symm⟩
    · exact .inr (.inr (.inr ⟨generation, result, later⟩))

/-- An event that completes no read can be taken from its queue. -/
theorem Sound.after_pop (sound : self.Sound) (next : self.events = event :: events)
    (other : ∀ session generation requestId operation result,
      event ≠ .readCompleted session generation requestId operation result) :
    ({ self with events } : ProtocolRuntime).Sound := by
  apply sound.carry
  intro session read carried
  rcases carried.after_pop next with completion | kept
  · obtain ⟨generation, result, same⟩ := completion
    exact absurd same (other _ _ _ _ _)
  · exact kept

/-- A revoked worker answers every read it drains. -/
theorem rejected_of_mem (queued : .read session requestId operation ∈ commands) :
    .readCompleted session 0 requestId operation (.error .identity) ∈
      commands.flatMap rejectRevokedCommand := by
  rw [List.mem_flatMap]
  exact ⟨_, queued, List.mem_singleton_self _⟩

theorem workerControl_sound {self next : ProtocolRuntime} (sound : self.Sound)
    (moved : self.workerControl = some next) : next.Sound := by
  unfold workerControl at moved
  split at moved
  · -- Close keeps the queue of commands.
    cases moved
    apply sound.carry
    intro session read carried
    rcases carried with queued | busy | ended
    · exact .inl queued
    · exact .inr (.inl busy)
    · exact .inr (.inr (completion_append _ ended))
  · -- Revoke answers every queued command.
    rename_i idle _
    cases moved
    apply sound.carry
    intro session read carried
    rcases carried with queued | busy | ended
    · exact .inr (.inr ⟨0, _, List.mem_append_left _
        (List.mem_append_right _ (rejected_of_mem queued))⟩)
    · rw [idle] at busy
      cases busy
    · exact .inr (.inr (completion_append _ (completion_append _ ended)))
  · cases moved

theorem workerTake_sound {self next : ProtocolRuntime} (sound : self.Sound)
    (moved : self.workerTake = some next) : next.Sound := by
  unfold workerTake at moved
  split at moved
  · rename_i command commands idle queue
    split at moved
    · -- The revoked worker answers the command at once.
      cases moved
      apply sound.carry
      intro session read carried
      rcases carried with queued | busy | ended
      · rw [queue] at queued
        rcases List.mem_cons.mp queued with taken | later
        · subst taken
          exact .inr (.inr ⟨0, _, List.mem_append_right _ (List.mem_singleton_self _)⟩)
        · exact .inl later
      · rw [idle] at busy
        cases busy
      · exact .inr (.inr (completion_append _ ended))
    · cases moved
      apply sound.carry
      intro session read carried
      rcases carried with queued | busy | ended
      · rw [queue] at queued
        rcases List.mem_cons.mp queued with taken | later
        · exact .inr (.inl (by rw [taken]))
        · exact .inl later
      · rw [idle] at busy
        cases busy
      · exact .inr (.inr ended)
  · cases moved

/-- A worker that carries out no read reports and goes on. -/
theorem Sound.report (sound : self.Sound) {worker : Worker} (more : List NetworkEvent)
    (free : ∀ session request operation,
      self.worker.busy ≠ some (.read session request operation)) :
    ({ self with worker, events := self.events ++ more } : ProtocolRuntime).Sound := by
  apply sound.carry
  intro session read carried
  rcases carried with queued | busy | ended
  · exact .inl queued
  · exact absurd busy (free _ _ _)
  · exact .inr (.inr (completion_append _ ended))

theorem workerAnswer_sound {self next : ProtocolRuntime} {answer : Answer} (sound : self.Sound)
    (moved : self.workerAnswer answer = some next) : next.Sound := by
  unfold workerAnswer at moved
  split at moved
  · rename_i working
    cases moved
    exact sound.report _ (by rw [working]; exact nofun)
  · rename_i working
    cases moved
    exact sound.report _ (by rw [working]; exact nofun)
  · rename_i session requestId operation result working
    cases moved
    apply sound.carry
    intro present read carried
    rcases carried with queued | busy | ended
    · exact .inl queued
    · rw [working] at busy
      cases busy
      exact .inr (.inr ⟨_, _, List.mem_append_right _ (List.mem_singleton_self _)⟩)
    · exact .inr (.inr (completion_append _ ended))
  · cases moved

theorem workerEnds_sound {self next : ProtocolRuntime} (sound : self.Sound)
    (moved : self.workerEnds = some next) : next.Sound := by
  unfold workerEnds at moved
  split at moved
  · cases moved
    exact sound.carry fun _ _ carried => carried
  · cases moved

/-- Handling the next network event under the condition. -/
theorem networkEvent_sound (admitted : ℕ → Bool) (sound : self.Sound)
    (next : self.events = event :: events) (allowed : self.Allowed (.networkEvent admitted)) :
    ({ self with events }.handleNetworkEvent admitted event).Sound := by
  have steady : ({ self with events } : ProtocolRuntime).Steady :=
    ⟨sound.steady.running, sound.steady.idle, sound.steady.settled, sound.steady.session⟩
  cases event with
  | readCompleted session generation requestId operation result =>
      apply handleReadResult_sound admitted result steady
      rcases sound.phase with waits | h
      · exact .inl waits
      · obtain ⟨present, read, reads, carried⟩ := h
        rcases carried.after_pop next with completion | kept
        · obtain ⟨_, _, same⟩ := completion
          cases same
          exact .inr ⟨session, read, reads, .inl ⟨rfl, rfl, rfl⟩⟩
        · exact .inr ⟨present, read, reads, .inr kept⟩
  | paired trustPaired result =>
      refine handlePaired_sound trustPaired result (sound.after_pop next nofun) ?_
      intro trusted
      subst trusted
      exact allowed ⟨result, by rw [next]; rfl⟩
  | connected session result =>
      exact handleConnectResult_sound session result (sound.after_pop next nofun)
  | closed => exact sound.after_pop next nofun

/-! ## Runs -/

/-- Starting up leaves the application waiting for its first refresh, with the
first connection under way. -/
theorem startup_sound (started : startup session operation = (.ok (), self)) : self.Sound := by
  cases started
  refine ⟨⟨rfl, rfl, nofun, nofun⟩, .inl ⟨rfl, _, _, rfl, rfl, rfl⟩⟩

theorem step_sound {self next : ProtocolRuntime} {label : Label} (sound : self.Sound)
    (allowed : self.Allowed label) (moved : self.step label = some next) : next.Sound := by
  cases label with
  | identityRevoked =>
      cases moved
      exact handleIdentityRevoked_sound sound
  | pairStart =>
      cases moved
      exact trySend_sound sound .pair
  | networkEvent admitted =>
      cases events : self.events with
      | nil => simp [step, events] at moved
      | cons event rest =>
          simp only [step, events, Option.some.injEq] at moved
          subst moved
          exact networkEvent_sound admitted sound events allowed
  | refreshDue operation =>
      cases armed : self.refreshTimer with
      | none => simp [step, armed] at moved
      | some timer =>
          simp only [step, armed, Option.some.injEq] at moved
          subst moved
          exact protocolRefreshDue_sound operation sound armed allowed
  | reconnectDue session =>
      cases armed : self.reconnectTimer with
      | none => simp [step, armed] at moved
      | some delay =>
          simp only [step, armed, Option.some.injEq] at moved
          subst moved
          refine attemptProtocolConnect_sound session ⟨⟨sound.steady.running, sound.steady.idle,
            sound.steady.settled, sound.steady.session⟩, ?_⟩
          exact sound.phase
  | workerControl => exact workerControl_sound sound moved
  | workerTake => exact workerTake_sound sound moved
  | workerAnswer answer => exact workerAnswer_sound sound moved
  | workerEnds => exact workerEnds_sound sound moved

/-- **Effect conservation.** In a run whose steps all satisfy the condition, no
state loses the effect its availability feature waits for. -/
theorem conserved_throughout {past : List (ProtocolRuntime × Label)} {self : ProtocolRuntime}
    (run : machine.Run past self)
    (allowed : StepSystem.Guarded (fun before label => before.Allowed label) past) :
    StepSystem.Throughout Conserved past self := by
  refine run.throughout_of_guarded ?_ ?_ (fun _ sound => Sound.conserved sound) allowed
  · intro runtime start
    obtain ⟨session, operation, started⟩ := start
    exact startup_sound started
  · intro before label next sound allowed moved
    exact step_sound sound allowed moved

/-- The runtime after startup, with the identities of its first session. -/
def started : ProtocolRuntime := (startup (.replicate 16 1) (.replicate 16 2)).2

/-- The first connection succeeds. -/
def connects : List Label :=
  [.workerTake, .workerAnswer (.connect (.ok 0)), .networkEvent fun _ => true]

theorem conserved_throughout_first_refresh :
    ∃ past self, machine.Run past self ∧
      self.core.availability.state = .reading ⟨3, by simp⟩ ∧
      StepSystem.Throughout Conserved past self := by
  have initial : machine.Run [] started := .start
    ⟨.replicate 16 1, .replicate 16 2, rfl⟩
  have along : machine.Along (fun before label => before.Allowed label) started
      (connects ++ [.refreshDue (.replicate 16 3)]) := by
    refine ⟨trivial, ?_⟩
    intro _ taken
    cases taken
    refine ⟨trivial, ?_⟩
    intro _ answered
    cases answered
    refine ⟨?_, ?_⟩
    · intro pairs
      obtain ⟨_, paired⟩ := pairs
      cases paired
    · intro _ connected
      cases connected
      refine ⟨⟨by decide, by decide, fun _ => rfl, nofun⟩, fun _ _ => trivial⟩
  obtain ⟨past, run, allowed⟩ := initial.exists_guarded_of_execute (StepSystem.guarded_nil _) _
    along rfl
  exact ⟨past, _, run, rfl, conserved_throughout run allowed⟩

/-- A refresh that comes due after a revocation loses the timer the feature asks
for: the feature is left arming it, with no timer armed and nothing under way. -/
theorem revoked_refresh_loses_effect :
    ∃ past self, machine.Run past self ∧ ¬ Conserved self ∧
      self.core.availability.state = .armingRefresh ⟨4, by simp⟩ ∧
      self.refreshTimer = none ∧ self.reconnectTimer = none ∧ self.commands = [] := by
  have initial : machine.Run [] started := .start
    ⟨.replicate 16 1, .replicate 16 2, rfl⟩
  obtain ⟨past, run, -⟩ := initial.exists_of_execute
    (connects ++ [.identityRevoked, .refreshDue (.replicate 16 3)]) rfl
  refine ⟨past, _, run, ?_, rfl, rfl, rfl, rfl⟩
  intro conserved
  exact conserved.arming ⟨4, by simp⟩ rfl

end Deskkin.ProtocolRuntime
