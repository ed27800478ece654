/-
# What a step of either end comes to

The loop of the device asks, waits, stores and closes, and it blames the protocol only when
its requests are used up or a message comes that it does not wait for. The host has three
things to say to a peer that never pings: responses, pings of its own and a close. Its errors
come from outside, except that a reader can find the channel to a writer that is gone.
-/

import Deskkin.Device.ReconnectBackoff
import Deskkin.EndToEnd.AvailabilitySession
import Deskkin.Host.SessionOrder

namespace Deskkin.EndToEnd

open Protocol Device Host Simulator

/-! ## What the loop of the device does -/

section Loop

variable {loop next : AvailabilityLoop} {input : LoopInput}

/-- The request that the loop waits for the answer to. -/
def awaiting (loop : AvailabilityLoop) : Option AvailabilityRequest :=
  match loop.phase with
  | .reading _ requestId operation => some (requestId, operation)
  | _ => none

/-- What the loop waits for: a ping, or the answer to its request. -/
def Expected (loop : AvailabilityLoop) (message : Message) : Prop :=
  message = .ping ∨ ∃ answerId operation result,
    awaiting loop = some (answerId.toNat, operation) ∧
      message = .availabilityResult answerId operation result

/-- The ways in which an input says that the link is lost. -/
def losses : LoopInput → List LinkFailure
  | .request _ _ unwritten => unwritten.toList
  | .received (.error failure) _ => [failure]
  | .received (.ok _) unwritten => unwritten.toList
  | .tick _ _ => []

/-- What a loop comes to. It blames the protocol when it has numbered all of its requests or
reads a message that it does not wait for. -/
inductive Turns (loop : AvailabilityLoop) : LoopInput → Except SessionFailure Progress → Prop
  | stops {input : LoopInput} {failure : SessionFailure} (other : failure ≠ .protocol) :
      Turns loop input (.error failure)
  | exhausts {input : LoopInput} {failure : SessionFailure}
      (full : Checked.u32Max ≤ loop.adapter.requestId) : Turns loop input (.error failure)
  | refuses {message : Message} {unwritten : Option LinkFailure} {failure : SessionFailure}
      (unexpected : ¬Expected loop message) :
      Turns loop (.received (.ok message) unwritten) (.error failure)
  | asks {input : LoopInput} {next : AvailabilityLoop} {operation : ContextId}
      (free : awaiting loop = none)
      (waits : awaiting next = some (next.adapter.requestId, operation))
      (numbered : next.adapter.requestId = loop.adapter.requestId + 1)
      (fits : next.adapter.requestId ≤ Checked.u32Max)
      (asking : asked next input = [(next.adapter.requestId, operation)])
      (saying : said next input =
        [.readAvailability (UInt32.ofNat next.adapter.requestId) operation]) :
      Turns loop input (.ok (.continues next))
  | pongs : Turns loop (.received (.ok .ping) none) (.ok (.continues loop))
  | stores {next : AvailabilityLoop} {answerId : UInt32} {operation : ContextId}
      {result : AvailabilityResult} {unwritten : Option LinkFailure}
      (waiting : awaiting loop = some (answerId.toNat, operation)) (free : awaiting next = none)
      (kept : next.adapter.requestId = loop.adapter.requestId) :
      Turns loop (.received (.ok (.availabilityResult answerId operation result)) unwritten)
        (.ok (.stores next))
  | waits {next : AvailabilityLoop} {poll : Option ActiveControl} {action : UInt8}
      (before : awaiting loop = none) (after : awaiting next = none)
      (kept : next.adapter.requestId = loop.adapter.requestId) :
      Turns loop (.tick poll action) (.ok (.continues next))
  | closes {poll : Option ActiveControl} {action : UInt8} (free : awaiting loop = none) :
      Turns loop (.tick poll action) (.ok .closed)

theorem failure_ne_protocol {failure : LinkFailure} (lost : failure ≠ .protocol) :
    failure.failure ≠ .protocol := by
  cases failure with
  | protocol => exact absurd rfl lost
  | _ => exact nofun

variable (sound : loop.Sound)
include sound

theorem request_turns {read : Application.Effect} (phase : loop.phase = .requesting read)
    (poll : Option ActiveControl) (operation : Option ContextId) (unwritten : Option LinkFailure)
    (link : LinkFailure.protocol ∉ losses (.request poll operation unwritten)) :
    Turns loop (.request poll operation unwritten)
      (loop.request read poll operation unwritten) := by
  unfold AvailabilityLoop.request
  split
  · exact .stops nofun
  · exact .stops nofun
  · rename_i operation
    split
    · rename_i error adapter begun
      refine .exhausts (Nat.le_of_not_lt fun left => ?_)
      have place := sound.phase
      rw [AvailabilityLoop.InPhase, phase] at place
      obtain ⟨id, rfl, -, idle, -⟩ := place
      have accepted := (@ProtocolAdapter.beginRead_eq_ok_iff _ _ operation _ _).mpr
        ⟨sound.authenticated, idle, id.nonzero, rfl, Nat.succ_le_of_lt left, rfl⟩
      rw [Application.readEffect, accepted] at begun
      cases begun
    · rename_i failure begun
      exact .stops (failure_ne_protocol fun same => link (same ▸ List.mem_singleton_self _))
    · rename_i requestId adapter begun
      obtain ⟨-, -, -, numbered, fits, rfl⟩ := ProtocolAdapter.beginRead_eq_ok_iff.mp begun
      exact .asks (by rw [awaiting, phase]) rfl numbered.symm fits rfl rfl

section

variable {read : Application.Effect} {requestId : ℕ} {operation : ContextId}
  (phase : loop.phase = .reading read requestId operation)
include phase

/-- A read that completes is stored, and numbers no request. -/
theorem complete_turns (result : AvailabilityResult) :
    ∃ next, loop.complete read requestId operation result = .ok (.stores next) ∧
      awaiting next = none ∧ next.adapter.requestId = loop.adapter.requestId := by
  obtain ⟨next, completed, -⟩ := AvailabilityLoop.complete_stores sound phase result
  refine ⟨next, completed, ?_⟩
  unfold AvailabilityLoop.complete at completed
  split at completed
  · rename_i effectId value adapter answered
    obtain ⟨-, -, _, -, -, rfl⟩ := ProtocolAdapter.result_eq_ok_iff.mp answered
    obtain ⟨effectId, -, completed⟩ := Fallible.bind_eq_ok_iff.mp completed
    obtain ⟨⟨effect, application⟩, -, completed⟩ := Fallible.bind_eq_ok_iff.mp completed
    obtain ⟨timer, -, completed⟩ := Fallible.bind_eq_ok_iff.mp completed
    obtain ⟨⟨effect, application⟩, -, completed⟩ := Fallible.bind_eq_ok_iff.mp completed
    cases Fallible.pure_eq_ok_iff.mp completed
    exact ⟨rfl, rfl⟩
  · cases completed

theorem receive_turns (message : Except LinkFailure Message) (unwritten : Option LinkFailure)
    (link : LinkFailure.protocol ∉ losses (.received message unwritten)) :
    Turns loop (.received message unwritten)
      (loop.receive read requestId operation message unwritten) := by
  have waiting : awaiting loop = some (requestId, operation) := by
    rw [awaiting, phase]
  unfold AvailabilityLoop.receive
  split
  · rename_i failure
    exact .stops (failure_ne_protocol fun same => link (same ▸ List.mem_singleton_self _))
  · rename_i answerId answered result
    split
    · rename_i differs
      refine .refuses fun expected => ?_
      rcases expected with impossible | ⟨_, _, _, here, same⟩
      · cases impossible
      · cases same
        cases waiting.symm.trans here
        exact differs.elim (· rfl) (· rfl)
    · rename_i same
      rw [not_or, not_not, not_not] at same
      obtain ⟨rfl, rfl⟩ := same
      obtain ⟨next, completed, free, kept⟩ := complete_turns sound phase result
      rw [completed]
      exact .stores waiting free kept
  · split
    · rename_i failure
      exact .stops (failure_ne_protocol fun same => link (same ▸ List.mem_singleton_self _))
    · exact .pongs
  · rename_i message unanswering unping
    refine .refuses fun expected => ?_
    rcases expected with rfl | ⟨_, _, _, -, rfl⟩
    · exact unping rfl
    · exact unanswering _ _ _ rfl

end

theorem wait_turns {timer : Application.Effect} {left : ℕ}
    (phase : loop.phase = .waiting timer left) (poll : Option ActiveControl) (action : UInt8) :
    Turns loop (.tick poll action) (loop.wait timer left poll action) := by
  have before : awaiting loop = none := by rw [awaiting, phase]
  cases poll with
  | some active => exact .stops nofun
  | none =>
      have answers := AvailabilityLoop.wait_answers sound phase none action
      cases waited : loop.wait timer left none action with
      | error failure =>
          rw [waited] at answers
          have fails := answers.1
          simp [AvailabilityLoop.fails, phase] at fails
      | ok progress =>
          simp only [AvailabilityLoop.wait] at waited
          split at waited
          · cases waited
            exact .closes before
          · split at waited
            · cases waited
              exact .waits before rfl rfl
            · obtain ⟨⟨effect, application⟩, -, waited⟩ := Fallible.bind_eq_ok_iff.mp waited
              obtain ⟨read, -, waited⟩ := Fallible.bind_eq_ok_iff.mp waited
              cases Fallible.pure_eq_ok_iff.mp waited
              exact .waits before rfl rfl

theorem turns_of_step {result : Except SessionFailure Progress}
    (link : LinkFailure.protocol ∉ losses input) (moved : loop.step input = some result) :
    Turns loop input result := by
  unfold AvailabilityLoop.step at moved
  split at moved
  · rename_i phase
    cases moved
    exact request_turns sound phase _ _ _ link
  · rename_i phase
    cases moved
    exact receive_turns sound phase _ _ link
  · rename_i phase
    cases moved
    exact wait_turns sound phase _ _
  · cases moved

end Loop

/-! ## What the host does -/

/-- An error of a connection, which blames neither the peer nor a full queue. -/
def Outside (error : SessionError) : Prop := error ≠ .protocol ∧ error ≠ .queueFull

/-- The error that the reader leaves its loop with. -/
def readerError : ReaderPoint → Option SessionError
  | .failed error | .stopped error | .finished (.error error) => some error
  | _ => none

/-- The error that the writer leaves its loop with. -/
def writerError : WriterPoint → Option SessionError
  | .returned (.error error) | .reported (.error error) | .exited (.error error) => some error
  | _ => none

/-- The errors of the host come from outside, but for the reader that finds the writer gone. -/
structure Trusting (host : Session) : Prop where
  failure : ∀ error ∈ host.failure.messages, Outside error
  writer : ∀ error, writerError host.writer = some error → Outside error
  reader : ∀ error, readerError host.reader = some error → error ≠ .protocol ∧
    (error = .queueFull → ∃ cause, host.writer = .exited (.error cause))

/-- A message that a host writes to a peer that never pings. -/
def Spoken (message : Message) : Prop :=
  isResponse message = true ∨ message = .ping ∨ isClose message = true

/-- The writer has nothing else to say. -/
structure Speaks (host : Session) : Prop where
  unponged : host.queue.pong = false
  unasked : WriterControl.pong ∉ host.controls.messages
  hand : ∀ message, host.writer.message = some message → Spoken message
  written : ∀ message ∈ SessionEvent.writes host.log, Spoken message

section Hosts

variable {host after : Session} {value : AvailabilityResult}

theorem Speaks.took (speaks : Speaks host) (close : Option CloseReason) :
    (close.elim host.queue host.queue.enqueueClose).pong = false := by
  cases close <;> exact speaks.unponged

/-- What the writer takes from its queue it has been told to say. -/
theorem Speaks.popped (speaks : Speaks host) (flow : host.Flow)
    (going : ¬host.writer.Ended) {message : Message} {queue : SessionWriteQueue}
    (popped : host.queue.Popped message queue) : queue.pong = false ∧ Spoken message := by
  cases popped with
  | close first => exact ⟨speaks.unponged, .inr (.inr (flow.control message first))⟩
  | pong uncontrolled asked =>
      rw [speaks.unponged] at asked
      cases asked
  | ping uncontrolled quiet idle => exact ⟨speaks.unponged, .inr (.inl rfl)⟩
  | application uncontrolled quiet busy first =>
      refine ⟨speaks.unponged, .inl (flow.responses going message ?_)⟩
      rw [first]
      exact List.mem_cons_self

theorem Speaks.writer (speaks : Speaks host) (flow : host.Flow) (move : host.WriterMove after) :
    Speaks after := by
  obtain ⟨unponged, unasked, hand, written⟩ := id speaks
  have unsaid : ∀ message, (none : Option Message) = some message → Spoken message := by
    intro message absurdity
    cases absurdity
  cases move with
  | took here => exact ⟨speaks.took _, unasked, unsaid, written⟩
  | closing here received =>
      refine ⟨unponged, fun there => unasked ?_, unsaid, written⟩
      rw [received]
      exact List.mem_cons_of_mem _ there
  | ponging here received => exact absurd (received ▸ List.mem_cons_self) unasked
  | looked here => exact ⟨unponged, unasked, unsaid, written⟩
  | queued here received room =>
      refine ⟨unponged, unasked, ?_, written⟩
      rcases here with ⟨-, rfl⟩ | ⟨-, rfl⟩ <;> exact unsaid
  | popped here drained popped =>
      obtain ⟨quiet, spoken⟩ := speaks.popped flow (by simp [here, WriterPoint.Ended]) popped
      refine ⟨quiet, unasked, fun message same => ?_, written⟩
      cases same
      exact spoken
  | rested here drained unasked empty => exact ⟨unponged, speaks.unasked, unsaid, written⟩
  | elapsed here drained => exact ⟨unponged, unasked, unsaid, written⟩
  | passed here =>
      rw [here] at hand
      exact ⟨unponged, unasked, hand, written⟩
  | wrote here =>
      refine ⟨unponged, unasked, fun message same => ?_, fun message there => ?_⟩
      · dsimp only at same
        split at same <;> cases same
      · rw [SessionEvent.writes_append] at there
        rcases List.mem_append.mp there with there | there
        · exact written message there
        · rw [List.mem_singleton.mp there]
          exact hand _ (by rw [here]; rfl)
  | ended going why fewer =>
      exact ⟨unponged, fun there => unasked (fewer there), unsaid, written⟩
  | outside going still same =>
      refine ⟨unponged, unasked, fun message same => ?_, written⟩
      rw [WriterPoint.message_of_ended still] at same
      cases same

/-- What a step of the writer does besides its move: it takes at most one response off the
channel, and an error that it leaves with comes from outside, as long as its queue has room for
the response. -/
structure WriterTakes (host after : Session) : Prop where
  applications : after.applications.messages <:+ host.applications.messages
  failure : ∀ error ∈ after.failure.messages,
    error ∈ host.failure.messages ∨ writerError host.writer = some error
  error : ∀ error, writerError after.writer = some error →
    writerError host.writer = some error ∨ Outside error
  exited : ∀ error, host.writer = .exited (.error error) → False

theorem queueApplication_takes {message : Message} {applications : Channel Message 8}
    {next : WriterPoint} (plain : writerError next = none) (going : ¬host.writer.Ended)
    (received : host.applications.messages = message :: applications.messages)
    (room : ¬host.writer.Ended → host.queue.application.length < 8) :
    WriterTakes host (host.queueApplication message applications next) := by
  have fits : host.queue.enqueueApplication message = .ok _ :=
    SessionWriteQueue.enqueueApplication_eq_ok_iff.mpr ⟨room going, rfl⟩
  simp only [Session.queueApplication, fits]
  refine ⟨?_, fun error there => .inl there, fun error same => ?_, fun error exited => ?_⟩
  · rw [received]
    exact List.suffix_cons _ _
  · rw [plain] at same
    cases same
  · rw [exited] at going
    exact going trivial

theorem writerStep_takes {answers : Answers}
    (sent : ∀ error, answers.sent = .error error → Outside error)
    (room : ¬host.writer.Ended → host.queue.application.length < 8)
    (moved : host.writerStep answers = some after) : WriterTakes host after := by
  have same : ∀ {next : Session}, next.applications = host.applications →
      next.failure = host.failure → writerError next.writer = none →
      (∀ result, host.writer ≠ .exited result) → WriterTakes host next := by
    intro next applications failure plain going
    refine ⟨applications ▸ List.suffix_refl _, fun error there => .inl (failure ▸ there),
      fun error impossible => ?_, fun error => going _⟩
    rw [plain] at impossible
    cases impossible
  unfold Session.writerStep at moved
  split at moved
  · rename_i here
    cases moved
    exact same rfl rfl rfl (by rw [here]; nofun)
  · rename_i here
    have plain : writerError host.writer = none := by rw [here]; rfl
    split at moved <;> cases moved <;> exact same rfl rfl (by first | rfl | exact plain)
      (by rw [here]; nofun)
  · rename_i here
    split at moved
    · rename_i received
      cases moved
      exact queueApplication_takes rfl (by rw [here]; exact id)
        (Channel.tryRecv_eq_some_iff.mp received) room
    · split at moved <;> cases moved <;> exact same rfl rfl rfl (by rw [here]; nofun)
  · rename_i here
    split at moved
    · rename_i received
      cases moved
      exact queueApplication_takes rfl (by rw [here]; exact id)
        (Channel.tryRecv_eq_some_iff.mp received) room
    · split at moved <;> cases moved <;> exact same rfl rfl rfl (by rw [here]; nofun)
  · rename_i here
    split at moved
    · cases moved
      refine ⟨List.suffix_refl _, fun error there => .inl there, fun error left => .inr ?_,
        by rw [here]; nofun⟩
      cases left
      exact ⟨nofun, nofun⟩
    · cases moved
      exact same rfl rfl rfl (by rw [here]; nofun)
  · rename_i message here
    split at moved
    · cases moved
      refine same rfl rfl ?_ (by rw [here]; nofun)
      dsimp only [Session.record]
      split <;> rfl
    · rename_i error lost
      cases moved
      refine ⟨List.suffix_refl _, fun error there => .inl there, fun other left => .inr ?_,
        by rw [here]; nofun⟩
      cases left
      exact sent _ lost
  · rename_i error here
    cases moved
    refine ⟨List.suffix_refl _, fun other there => ?_, fun other left => .inl ?_,
      by rw [here]; nofun⟩
    · dsimp only at there
      cases room : host.failure.trySend error with
      | none =>
          rw [room] at there
          exact .inl there
      | some failure =>
          rw [room, Option.getD_some, Channel.trySend_eq_some_iff.mp room] at there
          rcases List.mem_append.mp there with there | there
          · exact .inl there
          · rw [List.mem_singleton.mp there, here]
            exact .inr rfl
    · rw [here]
      exact left
  · rename_i here
    cases moved
    exact same rfl rfl rfl (by rw [here]; nofun)
  · rename_i result here
    cases moved
    refine ⟨List.suffix_refl _, fun error there => .inl there, fun error left => .inl ?_,
      by rw [here]; nofun⟩
    rw [here]
    cases result with
    | ok => cases left
    | error => exact left
  · cases moved

theorem Trusting.writer_step (trusting : Trusting host) (takes : WriterTakes host after)
    (reader : after.reader = host.reader) : Trusting after := by
  refine ⟨fun error there => ?_, fun error left => ?_, fun error left => ?_⟩
  · rcases takes.failure error there with before | here
    · exact trusting.failure error before
    · exact trusting.writer error here
  · rcases takes.error error left with before | outside
    · exact trusting.writer error before
    · exact outside
  · rw [reader] at left
    obtain ⟨trusts, full⟩ := trusting.reader error left
    refine ⟨trusts, fun same => ?_⟩
    obtain ⟨cause, exited⟩ := full same
    exact (takes.exited cause exited).elim

/-- The channel of the responses holds no more than is unwritten. -/
def Backlog (host : Session) : Prop :=
  host.responsesWritten.length + host.applications.messages.length ≤ host.enqueued.length

theorem backlog_of_flow (flow : host.Flow) (going : ¬host.writer.Ended) : Backlog host := by
  have kept := congrArg List.length (flow.kept going)
  rw [List.length_append, Session.held, List.length_append] at kept
  rw [Backlog]
  omega

theorem Backlog.writer (backlog : Backlog host) (flow : host.Flow)
    (takes : WriterTakes host after) (move : host.WriterMove after) : Backlog after := by
  by_cases going : after.writer.Ended
  · cases move with
    | ended going why fewer =>
        exact (Nat.add_le_add_left takes.applications.length_le _).trans backlog
    | outside going still same => exact backlog
    | @wrote message here =>
        have kept := congrArg List.length (flow.kept (by simp [here, WriterPoint.Ended]))
        rw [List.length_append, Session.held, here, List.length_append, List.length_append] at kept
        have told : Session.responsesWritten { host with
            writer := if isClose message then .returned (.ok ()) else .closeCell
            log := host.log ++ [.written message] } =
            host.responsesWritten ++ [message].filter isResponse := by
          rw [Session.responsesWritten, SessionEvent.writes_append, List.filter_append]
          rfl
        have asked : Session.enqueued { host with
            writer := if isClose message then .returned (.ok ()) else .closeCell
            log := host.log ++ [.written message] } = host.enqueued :=
          List.filterMap_concat_of_none rfl _
        rw [Backlog, told, asked, List.length_append]
        simp only [WriterPoint.message, Option.toList_some] at kept
        dsimp only
        omega
    | queued here received room => rcases here with ⟨-, rfl⟩ | ⟨-, rfl⟩ <;> exact going.elim
    | _ => exact going.elim
  · exact backlog_of_flow (Session.flow_writer flow move) going

/-- What the reader makes of the next request of a peer that waits for its answers. -/
theorem readAvailability_cases (paired : Option ℕ) {requestId : UInt32} (operation : ContextId)
    {issued : ℕ} (next : requestId.toNat = host.lastRequestId.toNat + 1)
    (ready : host.capabilities = ⟨.ready, hostAvailability value, issued⟩)
    (left : issued < Checked.u64Max) (empty : host.applications.messages = []) :
    host.readAvailability paired requestId operation =
        { host with
          lastRequestId := requestId
          log := host.log ++ [.accepted requestId]
          reader := .failed .identity } ∧ paired ≠ some host.generation ∨
      host.readAvailability paired requestId operation =
          { host with
            lastRequestId := requestId
            capabilities := ⟨.ready, hostAvailability value, issued + 1⟩
            log := host.log ++ [.accepted requestId]
            reader := .failed .queueFull } ∧ host.disconnected = true ∨
      ∃ applications : Channel Message 8,
        applications.messages = [.availabilityResult requestId operation value] ∧
        host.readAvailability paired requestId operation =
          { host with
            lastRequestId := requestId
            capabilities := ⟨.ready, hostAvailability value, issued + 1⟩
            applications := applications
            log := host.log ++ [.accepted requestId,
              .enqueued (.availabilityResult requestId operation value)]
            reader := .processed } := by
  have accepted : acceptRequestId host.lastRequestId requestId = some requestId :=
    acceptRequestId_eq_some_iff.mpr ⟨next, rfl⟩
  have routed : Checked.add Checked.u64Max issued 1 = some (issued + 1) :=
    Checked.add_of_le left
  have invoked : ∃ invocation, host.capabilities.invoke .readAvailability =
      (.ok invocation, ⟨.ready, hostAvailability value, issued + 1⟩) ∧
        protocolAvailability invocation.result = value := by
    cases value <;>
      simp [ready, HostCapabilities.invoke, HostCapabilities.route, routed, hostAvailability,
        HostCapabilities.complete, HostCapabilities.execute, protocolAvailability]
  obtain ⟨invocation, invoked, found⟩ := invoked
  unfold Session.readAvailability
  simp only [accepted, Session.record, invoked, found]
  by_cases paired : paired ≠ some host.generation
  · rw [if_pos paired]
    exact .inl ⟨rfl, paired⟩
  · rw [if_neg paired]
    right
    unfold Session.enqueueApplication
    split
    · rename_i gone
      exact .inl ⟨rfl, gone⟩
    · have room : host.applications.messages.length < 8 := by
        rw [empty]
        decide
      obtain ⟨applications, sent⟩ :=
        Channel.exists_trySend room (.availabilityResult requestId operation value)
      have messages := Channel.trySend_eq_some_iff.mp sent
      rw [empty] at messages
      refine .inr ⟨applications, messages, ?_⟩
      simp only [sent, Session.proceed, Session.record, List.append_assoc]
      rfl

/-- What a step of the reader that takes no message leaves as it is. -/
structure Keeps (host after : Session) : Prop where
  log : after.log = host.log
  lastRequestId : after.lastRequestId = host.lastRequestId
  capabilities : after.capabilities = host.capabilities
  applications : after.applications = host.applications
  queue : after.queue = host.queue
  writer : after.writer = host.writer
  controls : WriterControl.pong ∈ after.controls.messages →
    WriterControl.pong ∈ host.controls.messages
  failure : after.failure.messages ⊆ host.failure.messages

theorem Trusting.keeps (trusting : Trusting host) (keeps : Keeps host after)
    (reader : ∀ error, readerError after.reader = some error →
      readerError host.reader = some error ∨ writerError host.writer = some error ∨
        Outside error) : Trusting after := by
  refine ⟨fun error there => trusting.failure error (keeps.failure there), fun error left => ?_,
    fun error left => ?_⟩
  · rw [keeps.writer] at left
    exact trusting.writer error left
  · rw [keeps.writer]
    rcases reader error left with before | gone | outside
    · exact trusting.reader error before
    · have outside := trusting.writer error gone
      exact ⟨outside.1, fun same => absurd same outside.2⟩
    · exact ⟨outside.1, fun same => absurd same outside.2⟩

theorem tellStop_keeps {reader : ReaderPoint} :
    Keeps host { host.tellStop with reader := reader } := by
  unfold Session.tellStop
  split
  · rename_i told
    obtain ⟨controls, sent, rfl⟩ := Session.enqueueControl_eq_ok (by simp) told
    refine ⟨rfl, rfl, rfl, rfl, rfl, rfl, fun there => ?_, List.Subset.refl _⟩
    rw [sent] at there
    rcases List.mem_append.mp there with there | there
    · exact there
    · cases List.mem_singleton.mp there
  · exact ⟨rfl, rfl, rfl, rfl, rfl, rfl, id, List.Subset.refl _⟩

/-- A step of the reader that takes no message. -/
theorem readerStep_keeps (trusting : Trusting host) {answers : Answers}
    (read : host.reader = .reading → ∃ error, answers.read = .error error ∧ Outside error)
    (moved : host.readerStep answers = some after) : Keeps host after ∧ Trusting after := by
  have same : ∀ reader, Keeps host { host with reader := reader } := fun reader =>
    ⟨rfl, rfl, rfl, rfl, rfl, rfl, id, List.Subset.refl _⟩
  unfold Session.readerStep at moved
  split at moved
  · rename_i reading
    obtain ⟨error, lost, outside⟩ := read reading
    rw [lost] at moved
    cases moved
    refine ⟨same _, trusting.keeps (same _) fun other left => .inr (.inr ?_)⟩
    cases left
    exact outside
  · split at moved
    · rename_i error failure found
      cases moved
      have there := Channel.tryRecv_eq_some_iff.mp found
      have keeps : Keeps host { host with failure := failure, reader := .failed error } := by
        refine ⟨rfl, rfl, rfl, rfl, rfl, rfl, id, ?_⟩
        rw [there]
        exact List.subset_cons_self _ _
      refine ⟨keeps, trusting.keeps keeps fun other left => .inr (.inr ?_)⟩
      cases left
      exact trusting.failure error (there ▸ List.mem_cons_self)
    · cases moved
      exact ⟨same _, trusting.keeps (same _) nofun⟩
  · obtain ⟨result, joined, rfl⟩ := Option.map_eq_some_iff.mp moved
    refine ⟨same _, trusting.keeps (same _) fun error left => .inr (.inl ?_)⟩
    unfold Session.joined at joined
    split at joined
    · rename_i here
      cases joined
      rw [here]
      cases result with
      | ok => cases left
      | error => exact left
    · cases joined
  · rename_i error here
    cases moved
    refine ⟨tellStop_keeps, trusting.keeps tellStop_keeps fun other left => .inl ?_⟩
    rw [here]
    exact left
  · rename_i error here
    obtain ⟨result, joined, rfl⟩ := Option.map_eq_some_iff.mp moved
    refine ⟨same _, trusting.keeps (same _) fun other left => .inl ?_⟩
    rw [here]
    exact left
  · cases moved

theorem Speaks.keeps (speaks : Speaks host) (keeps : Keeps host after) : Speaks after where
  unponged := keeps.queue ▸ speaks.unponged
  unasked there := speaks.unasked (keeps.controls there)
  hand := keeps.writer ▸ speaks.hand
  written := keeps.log ▸ speaks.written

/-- A session has no more responses than requests, and as many while the reader goes on. -/
theorem length_enqueued (flow : host.Flow) : host.enqueued.length ≤ host.lastRequestId.toNat ∧
    (host.reader.InLoop → host.enqueued.length = host.lastRequestId.toNat) := by
  have numbers := congrArg List.length flow.numbered
  rw [List.length_map, List.length_range'] at numbers
  have fewer := flow.answered.length_le
  rw [List.length_map, List.length_map, numbers] at fewer
  refine ⟨fewer, fun inside => ?_⟩
  have all := congrArg List.length (flow.current inside)
  rwa [List.length_map, List.length_map, numbers] at all

end Hosts

end Deskkin.EndToEnd
