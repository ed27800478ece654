/-
# An open request can always be answered

As long as the host has not left its loops, a device that waits for an answer is at most a
bounded number of steps away from it: the host reads what is on its stream, which ends with
the request, the writer comes round to the response, and the device reads what is on its own.
None of these steps needs anything but a connection that holds and a host that stays paired.
-/

import Deskkin.EndToEnd.AvailabilityAnswers

namespace Deskkin.EndToEnd

open Protocol Device Host Simulator

/-! ## Steps that nothing disturbs -/

/-- A step of the reader of a paired host. -/
def reads (generation : ℕ) : SessionInput := .reader none (some generation)

/-- A step of the writer of a paired host. -/
def writes (generation : ℕ) : SessionInput := .writer none (some generation) false

/-- What the steps of the writer learn from outside. -/
def undisturbed (generation : ℕ) : Answers := ⟨.ok .ping, some generation, false, .ok ()⟩

/-- The device waits for an answer, and the host is in its loops. -/
structure Waits (generation : ℕ) (value : AvailabilityResult) (session : AvailabilitySession)
    (loop : AvailabilityLoop) (request : AvailabilityRequest) : Prop where
  sound : Sound value session
  paired : session.host.generation = generation
  device : session.device = .looping loop
  waits : awaiting loop = some request
  inside : session.host.reader.InLoop
  going : ¬session.host.writer.Ended

section Progress

variable {generation : ℕ} {value : AvailabilityResult} {session : AvailabilitySession}
  {loop : AvailabilityLoop} {request : AvailabilityRequest}

theorem Waits.looping (waits : Waits generation value session loop request) :
    Looping session loop := by
  have attends := waits.sound.attends
  rwa [Attends, waits.device] at attends

theorem readAvailability_failure {host after : Session} {paired : Option ℕ}
    {requestId : UInt32} {operation : ContextId}
    (read : host.readAvailability paired requestId operation = after) :
    after.failure = host.failure := by
  unfold Session.readAvailability at read
  split at read
  · cases read
    rfl
  · dsimp only at read
    split at read
    · cases read
      rfl
    · split at read
      · cases read
        rfl
      · unfold Session.proceed at read
        split at read
        · rename_i sent
          obtain ⟨-, applications, -, rfl⟩ := Session.enqueueApplication_eq_ok sent
          cases read
          rfl
        · cases read
          rfl

/-- What the reader makes of a message leaves the failure of the writer alone. -/
theorem handle_failure (host : Session) (paired : Option ℕ) (message : Message) :
    (host.handle paired message).failure = host.failure := by
  cases message with
  | readAvailability requestId operation => exact readAvailability_failure rfl
  | ping =>
      have pinged : host.handle paired .ping = host.proceed .processed host.enqueuePong := rfl
      rw [pinged]
      cases asked : host.enqueuePong with
      | error error => rfl
      | ok after =>
          obtain ⟨told, sent, rfl⟩ := Fallible.map_eq_ok_iff.mp asked
          obtain ⟨controls, -, rfl⟩ := Session.enqueueControl_eq_ok (by simp) sent
          rfl
  | _ => rfl

/-- A writer that goes on has reported no failure. -/
theorem failure_of_going {host : Session} (reachable : Session.machine.Reachable host)
    (going : ¬host.writer.Ended) : host.failure.messages = [] := by
  have kept : ¬host.writer.Ended → host.failure.messages = [] := by
    refine reachable.invariant (P := fun host => ¬host.writer.Ended → host.failure.messages = [])
      ?_ ?_
    · rintro _ ⟨generation, result, rfl⟩ -
      rfl
    · intro host label after quiet moved still
      cases label with
      | reader answers =>
          rw [Session.writer_reader (Session.readerStep_move moved)] at still
          have none := quiet still
          have moved : host.readerStep answers = some after := moved
          unfold Session.readerStep at moved
          split at moved
          · split at moved <;> cases moved
            · rw [handle_failure]
              exact none
            · exact none
          · split at moved
            · rename_i received
              rw [Channel.tryRecv_eq_some_iff.mp received] at none
              cases none
            · cases moved
              exact none
          · obtain ⟨result, -, rfl⟩ := Option.map_eq_some_iff.mp moved
            exact none
          · cases moved
            have keeps : Keeps host host.tellStop := tellStop_keeps
            exact List.subset_nil.mp (none ▸ keeps.failure)
          · obtain ⟨result, -, rfl⟩ := Option.map_eq_some_iff.mp moved
            exact none
          · cases moved
      | writer answers =>
          have move := Session.writerStep_move moved
          have none := quiet fun ended => still (Session.ended_writer move ended)
          cases move with
          | outside going ended same => exact absurd ended still
          | _ => exact none
  exact kept going

/-- A writer that nothing stops goes on. -/
theorem writerStep_goes {host after : Session} (going : ¬host.writer.Ended)
    (untold : WriterControl.stop ∉ host.controls.messages) (inside : host.reader.InLoop)
    (room : host.queue.application.length < 8)
    (plain : ∀ message, host.writer.message = some message → isClose message = false)
    (moved : host.writerStep (undisturbed host.generation) = some after) :
    ¬after.writer.Ended := by
  have queued : ∀ message applications next, ¬WriterPoint.Ended next →
      ¬(host.queueApplication message applications next).writer.Ended := by
    intro message applications next still
    have fits : host.queue.enqueueApplication message = .ok _ :=
      SessionWriteQueue.enqueueApplication_eq_ok_iff.mpr ⟨room, rfl⟩
    simp only [Session.queueApplication, fits]
    exact still
  unfold Session.writerStep at moved
  split at moved
  · cases moved
    exact id
  · rename_i here
    split at moved
    · cases moved
      exact going
    · cases moved
      exact going
    · rename_i received
      exact absurd (Channel.tryRecv_eq_some_iff.mp received ▸ List.mem_cons_self) untold
    · cases moved
      exact id
  · split at moved
    · cases moved
      exact queued _ _ _ id
    · split at moved <;> cases moved <;> exact id
  · split at moved
    · cases moved
      exact queued _ _ _ id
    · split at moved
      · rename_i finished
        rw [finished] at inside
        rcases inside with impossible | impossible <;> cases impossible
      · cases moved
        exact id
  · rw [undisturbed, if_neg (not_not.mpr rfl)] at moved
    cases moved
    exact id
  · rename_i message here
    cases moved
    have unclosed := plain message (by rw [here]; rfl)
    simp [Session.record, unclosed, WriterPoint.Ended]
  all_goals
    rename_i here
    rw [here] at going
    exact absurd trivial going

/-! ## The writer comes round -/

/-- What a round of the writer leaves as it is. -/
structure Round (generation steps : ℕ) (session later : AvailabilitySession) : Prop where
  host : Session.machine.execute session.host
    (List.replicate steps (.writer (undisturbed generation))) = some later.host
  requests : later.requests = session.requests
  results : later.results = session.results
  lastRequestId : later.host.lastRequestId = session.host.lastRequestId
  pongs : Session.pongs later.host.log = Session.pongs session.host.log
  toDevice : later.toDevice.length ≤ session.toDevice.length + steps

variable (waits : Waits generation value session loop request)
include waits

/-- No close is in the hands of the writer. -/
theorem Waits.plain (message : Message) (hand : session.host.writer.message = some message) :
    isClose message = false := by
  cases (Session.ordered_of_reachable waits.sound.reachable).2.closing with
  | unasked never cell behind hands plain => exact hands message hand
  | asked split never once outside earlier plain stage => exact absurd waits.inside outside

theorem Waits.writes_step :
    ∃ after, session.step (writes generation) = some after ∧
      Waits generation value after loop request ∧ Round generation 1 session after := by
  have stopping := (Session.ordered_of_reachable waits.sound.reachable).2
  have untold : WriterControl.stop ∉ session.host.controls.messages := fun there =>
    stopping.told there waits.inside
  obtain ⟨host, moved⟩ := Option.isSome_iff_exists.mp
    (Session.writerStep_isSome waits.going (undisturbed generation))
  have log := writerStep_log none rfl moved
  obtain ⟨reader, last, paired⟩ : host.reader = session.host.reader ∧
      host.lastRequestId = session.host.lastRequestId ∧
      host.generation = session.host.generation := by
    cases Session.writerStep_move moved <;> exact ⟨rfl, rfl, rfl⟩
  have stepped : session.step (writes generation) = some { session with
      host := host
      toDevice := session.toDevice ++ AvailabilitySession.sentBy session.host.writer none } := by
    simp only [AvailabilitySession.step, writes, AvailabilitySession.writerStep, waits.device]
    exact Option.map_eq_some_iff.mpr ⟨host, moved, rfl⟩
  have going : ¬host.writer.Ended := writerStep_goes waits.going untold waits.inside
    (waits.sound.room waits.going) waits.plain (waits.paired.symm ▸ moved)
  refine ⟨_, stepped, ⟨waits.sound.step stepped, paired.trans waits.paired, waits.device,
    waits.waits, reader ▸ waits.inside, going⟩, ⟨?_, rfl, rfl, last, ?_, ?_⟩⟩
  · exact Option.bind_eq_some_iff.mpr ⟨host, moved, rfl⟩
  · have silent : Session.pongs ((AvailabilitySession.sentBy session.host.writer none).map
        SessionEvent.written) = 0 := by
      rw [Session.pongs, List.countP_map]
      exact List.countP_eq_zero.mpr fun message _ => by simp
    dsimp only
    rw [log, Session.pongs_append, silent, Nat.add_zero]
  · rw [List.length_append]
    refine Nat.add_le_add_left ?_ _
    unfold AvailabilitySession.sentBy
    split
    · exact Nat.le_refl 1
    · exact Nat.zero_le 1

theorem Waits.writes_round (steps : ℕ) :
    ∃ later, (AvailabilitySession.machine generation value).execute session
        (List.replicate steps (writes generation)) = some later ∧
      Waits generation value later loop request ∧ Round generation steps session later := by
  induction steps generalizing session with
  | zero =>
      exact ⟨session, rfl, waits, ⟨rfl, rfl, rfl, rfl, rfl, Nat.le_refl _⟩⟩
  | succ steps ih =>
      obtain ⟨after, stepped, still, first⟩ := waits.writes_step
      obtain ⟨later, run, last, rest⟩ := ih still
      refine ⟨later, Option.bind_eq_some_iff.mpr ⟨after, stepped, run⟩, last, ?_⟩
      obtain ⟨host, moved, same⟩ := Option.bind_eq_some_iff.mp first.host
      cases same
      refine ⟨Option.bind_eq_some_iff.mpr ⟨after.host, moved, rest.host⟩,
        rest.requests.trans first.requests, rest.results.trans first.results,
        rest.lastRequestId.trans first.lastRequestId, rest.pongs.trans first.pongs, ?_⟩
      have more := first.toDevice
      have most := rest.toDevice
      omega

/-- After enough steps of the writer the response is on the stream. -/
theorem Waits.written (accepted : session.host.lastRequestId.toNat = session.requests.length) :
    ∃ later, (AvailabilitySession.machine generation value).execute session
        (List.replicate (Session.patience + 1) (writes generation)) = some later ∧
      Waits generation value later loop request ∧ later.requests = session.requests ∧
      later.results = session.results ∧
      later.toDevice.length ≤ session.toDevice.length + (Session.patience + 1) ∧
      later.toDevice.filterMap resultOf ≠ [] := by
  obtain ⟨later, run, still, round⟩ := waits.writes_round (Session.patience + 1)
  refine ⟨later, run, still, round.requests, round.results, round.toDevice, fun none => ?_⟩
  obtain ⟨earlier, requests, stored⟩ := waits.looping.waiting request waits.waits
  have all := (length_enqueued waits.sound.flow).2 waits.inside
  have one : session.requests.length = session.results.length + 1 := by
    rw [requests, List.length_append, stored]
    rfl
  have stream := congrArg List.length still.sound.stream
  rw [none, List.append_nil, length_results_le, round.results] at stream
  have waited := (Session.order_of_writes waits.sound.reachable).2.2 _ later.host
    session.results.length round.host (by omega) still.going stream.le
  rw [round.pongs, List.countP_replicate] at waited
  simp only [SessionLabel.isWriter, if_true] at waited
  omega

/-! ## The device reads -/

/-- The device reads a ping or the answer. -/
theorem Waits.receives {message : Message} {rest : List Message}
    (first : session.toDevice = message :: rest) :
    ∃ after, session.step (.receive none) = some after ∧
      (after.results = session.results ++ [found value request] ∨
        resultOf message = none ∧ Waits generation value after loop request ∧
          after.results = session.results ∧ after.toDevice = rest) := by
  have looping := waits.looping
  have awaits := waits.waits
  unfold awaiting at awaits
  split at awaits
  · rename_i read requestId operation phase
    cases awaits
    rcases waits.sound.expected looping first with rfl | ⟨answerId, answered, result, here, rfl⟩
    · have stepped : session.step (.receive none) = some { session with
          toDevice := rest, toHost := session.toHost ++ [.pong] } := by
        simp only [AvailabilitySession.step, waits.device, first, AvailabilitySession.turn,
          AvailabilityLoop.step, phase, AvailabilityLoop.receive, Option.map_none, said, asked,
          List.append_nil]
      exact ⟨_, stepped, .inr ⟨rfl, ⟨waits.sound.step stepped, waits.paired, waits.device,
        waits.waits, waits.inside, waits.going⟩, rfl, rfl⟩⟩
    · cases (waits.sound.next_result looping first rfl).2
      rw [waits.waits] at here
      cases here
      obtain ⟨next, completed, -⟩ := complete_turns looping.sound phase value
      refine ⟨{ session with
        device := .looping next, toDevice := rest,
        results := session.results ++ [found value (answerId.toNat, operation)] }, ?_, .inl rfl⟩
      simp only [AvailabilitySession.step, waits.device, first, AvailabilitySession.turn,
        AvailabilityLoop.step, phase, AvailabilityLoop.receive, completed, stored, found, ne_eq,
        not_true_eq_false, or_self, if_false]
  · cases awaits

/-! ## The reader comes to the request -/

/-- The number of requests that the host has accepted is that of all, or one less. -/
theorem Waits.behind : session.requests.length ≤ session.host.lastRequestId.toNat + 1 := by
  have outstanding := waits.sound.outstanding
  have stored := waits.sound.results_le
  have written := waits.sound.flow.fifo.length_le
  have enqueued := (length_enqueued waits.sound.flow).1
  omega

/-- The reader is at its stream, or comes there in a step. -/
theorem Waits.turns :
    ∃ inputs host, (AvailabilitySession.machine generation value).execute session inputs =
        some { session with host := host } ∧ inputs.length ≤ 1 ∧
      Waits generation value { session with host := host } loop request ∧
      host.reader = .reading ∧ host.lastRequestId = session.host.lastRequestId := by
  rcases id waits.inside with reading | processed
  · exact ⟨[], session.host, rfl, Nat.zero_le _, waits, reading, rfl⟩
  · have none : session.host.failure.tryRecv = none :=
      Channel.tryRecv_eq_none_iff.mpr (failure_of_going waits.sound.reachable waits.going)
    have stepped : session.step (reads generation) = some { session with
        host := { session.host with reader := .reading } } := by
      simp only [AvailabilitySession.step, reads, waits.device, AvailabilitySession.readerStep,
        processed, Session.readerStep, none, Option.map_some]
    exact ⟨[reads generation], _, Option.bind_eq_some_iff.mpr ⟨_, stepped, rfl⟩, Nat.le_refl _,
      ⟨waits.sound.step stepped, waits.paired, waits.device, waits.waits, .inl rfl, waits.going⟩,
      rfl, rfl⟩

/-- The reader takes a pong or the request. -/
theorem Waits.takes (reading : session.host.reader = .reading) {message : Message}
    {rest : List Message} (first : session.toHost = message :: rest) :
    ∃ host, session.step (reads generation) = some { session with host := host, toHost := rest } ∧
      Waits generation value { session with host := host, toHost := rest } loop request ∧
      (host.lastRequestId = session.host.lastRequestId ∨
        host.lastRequestId.toNat = session.requests.length) := by
  have stepped : session.step (reads generation) = some { session with
      host := session.host.handle (some generation) message, toHost := rest } := by
    simp only [AvailabilitySession.step, reads, waits.device, AvailabilitySession.readerStep,
      reading, first, Session.readerStep, Option.map_some]
  have sound := waits.sound.step stepped
  refine ⟨_, stepped, ?_⟩
  rcases waits.sound.polite message (first ▸ List.mem_cons_self) with asks | rfl | close
  · cases message with
    | readAvailability requestId operation =>
        obtain ⟨next, earlier, before, whole⟩ := waits.sound.next_request first
        obtain ⟨issued, ready, few⟩ := waits.sound.capabilities
        have behind := waits.behind
        have more : session.host.lastRequestId.toNat < session.requests.length := by
          rw [whole, List.length_append, List.length_cons, before]
          omega
        have fits := session.host.lastRequestId.toNat_lt
        have left : issued < Checked.u64Max := by
          simp only [Checked.u64Max]
          omega
        have empty := waits.sound.caught_up waits.inside more
        have all : requestId.toNat = session.requests.length := by omega
        dsimp only [Session.handle] at sound ⊢
        rcases readAvailability_cases (some generation) operation next ready left empty with
          ⟨-, unpaired⟩ | ⟨-, gone⟩ | ⟨applications, -, read⟩
        · exact absurd (congrArg some waits.paired.symm) unpaired
        · have going := waits.going
          unfold Session.disconnected at gone
          split at gone
          · rename_i here
            rw [here] at going
            exact absurd trivial going
          · cases gone
        · rw [read] at sound ⊢
          exact ⟨⟨sound, waits.paired, waits.device, waits.waits, .inr rfl, waits.going⟩, .inr all⟩
    | _ => cases asks
  · exact ⟨⟨sound, waits.paired, waits.device, waits.waits, .inr rfl, waits.going⟩, .inl rfl⟩
  · rw [waits.looping.unclosed message (first ▸ List.mem_cons_self)] at close
    cases close

/-- The reader takes what is ahead of the request, and the request. -/
theorem Waits.accepted :
    ∃ inputs later, (AvailabilitySession.machine generation value).execute session inputs =
        some later ∧ inputs.length ≤ 2 * session.toHost.length + 1 ∧
      Waits generation value later loop request ∧ later.results = session.results ∧
      later.toDevice = session.toDevice ∧
      later.host.lastRequestId.toNat = later.requests.length := by
  induction stream : session.toHost generalizing session with
  | nil =>
      have unread := waits.sound.unread
      rw [stream, List.filterMap_nil] at unread
      have read := List.drop_eq_nil_iff.mp unread.symm
      exact ⟨[], session, rfl, Nat.zero_le _, waits, rfl, rfl,
        Nat.le_antisymm waits.sound.accepted read⟩
  | cons message rest ih =>
      obtain ⟨turn, host, turned, one, still, reading, same⟩ := waits.turns
      obtain ⟨after, stepped, further, progress⟩ := still.takes reading stream
      rcases progress with unread | all
      · obtain ⟨inputs, later, run, few, last, results, toDevice, done⟩ := ih further rfl
        refine ⟨turn ++ reads generation :: inputs, later, ?_, ?_, last, results, toDevice, done⟩
        · exact StepSystem.execute_append turned (Option.bind_eq_some_iff.mpr ⟨_, stepped, run⟩)
        · rw [List.length_append, List.length_cons, List.length_cons]
          omega
      · refine ⟨turn ++ [reads generation], _, ?_, ?_, further, rfl, rfl, all⟩
        · exact StepSystem.execute_append turned (Option.bind_eq_some_iff.mpr ⟨_, stepped, rfl⟩)
        · rw [List.length_append, List.length_singleton, List.length_cons]
          omega

/-- The device takes what is ahead of the answer, and the answer. -/
theorem Waits.stores (there : session.toDevice.filterMap resultOf ≠ []) :
    ∃ inputs later, (AvailabilitySession.machine generation value).execute session inputs =
        some later ∧ inputs.length ≤ session.toDevice.length ∧
      later.results = session.results ++ [found value request] := by
  induction stream : session.toDevice generalizing session with
  | nil =>
      rw [stream] at there
      exact absurd rfl there
  | cons message rest ih =>
      obtain ⟨after, stepped, progress⟩ := waits.receives stream
      rcases progress with stores | ⟨plain, still, results, toDevice⟩
      · exact ⟨[.receive none], after, Option.bind_eq_some_iff.mpr ⟨after, stepped, rfl⟩,
          Nat.succ_le_succ (Nat.zero_le _), stores⟩
      · rw [stream, List.filterMap_cons, plain] at there
        obtain ⟨inputs, later, run, few, stores⟩ := ih still (toDevice ▸ there) toDevice
        refine ⟨.receive none :: inputs, later, Option.bind_eq_some_iff.mpr ⟨after, stepped, run⟩,
          Nat.succ_le_succ few, ?_⟩
        rw [stores, results]

end Progress

/-! ## The generation of the host -/

namespace AvailabilitySession

theorem turn_host {session after : AvailabilitySession} {loop : AvailabilityLoop}
    {input : LoopInput} {last : List Message}
    (moved : session.turn loop input last = some after) : after.host = session.host := by
  unfold turn at moved
  split at moved <;> cases moved <;> rfl

theorem host_of_step {session after : AvailabilitySession} {input : SessionInput}
    (moved : session.step input = some after) :
    after.host = session.host ∨ session.host.ReaderMove after.host ∨
      session.host.WriterMove after.host := by
  unfold step at moved
  split at moved
  · unfold readerStep at moved
    split at moved
    · obtain ⟨host, stepped, rfl⟩ := Option.map_eq_some_iff.mp moved
      exact .inr (.inl (Session.readerStep_move stepped))
    · cases moved
    · obtain ⟨host, stepped, rfl⟩ := Option.map_eq_some_iff.mp moved
      exact .inr (.inl (Session.readerStep_move stepped))
    · obtain ⟨host, stepped, rfl⟩ := Option.map_eq_some_iff.mp moved
      exact .inr (.inl (Session.readerStep_move stepped))
  · obtain ⟨host, stepped, rfl⟩ := Option.map_eq_some_iff.mp moved
    exact .inr (.inr (Session.writerStep_move stepped))
  · cases moved
  · exact .inl (turn_host moved)
  · split at moved
    · cases moved
    · have kept := turn_host moved
      exact .inl kept
  · exact .inl (turn_host moved)
  · exact .inl (turn_host moved)

/-- The generation that a host was admitted with does not change. -/
theorem generation_of_reachable {generation : ℕ} {value : AvailabilityResult}
    {session : AvailabilitySession} (reachable : (machine generation value).Reachable session) :
    session.host.generation = generation := by
  refine reachable.invariant (P := fun session => session.host.generation = generation) ?_ ?_
  · rintro _ ⟨context, loop, -, rfl⟩
    rfl
  · intro before input after same moved
    have reader : ∀ {host next : Session}, host.ReaderMove next →
        next.generation = host.generation := fun move => by cases move <;> rfl
    have writer : ∀ {host next : Session}, host.WriterMove next →
        next.generation = host.generation := fun move => by cases move <;> rfl
    rcases host_of_step moved with kept | move | move
    · rw [kept, same]
    · rw [reader move, same]
    · rw [writer move, same]

variable {value : AvailabilityResult} {generation : ℕ} {session : AvailabilitySession}

/-- **No request is stuck.** From every state that a session reaches in which the device waits
for the answer to a request and neither thread of the host has left its loop, the answer can
arrive in at most twice as many steps as messages are under way and twice the longest wait for
the writer more. -/
theorem answer_within_reach (reachable : (machine generation value).Reachable session)
    {loop : AvailabilityLoop} (looping : session.device = .looping loop)
    {request : AvailabilityRequest} (waiting : awaiting loop = some request)
    (inside : session.host.reader.InLoop) (going : ¬session.host.writer.Ended) :
    ∃ inputs later, (machine generation value).execute session inputs = some later ∧
      inputs.length ≤
        2 * (session.toHost.length + session.toDevice.length + Session.patience) + 3 ∧
      later.results = session.results ++ [(request, value)] := by
  have waits : Waits generation value session loop request :=
    ⟨sound_of_reachable reachable, generation_of_reachable reachable, looping, waiting, inside,
      going⟩
  obtain ⟨reading, accepted, first, few, still, results, toDevice, all⟩ := waits.accepted
  obtain ⟨written, second, last, -, kept, more, there⟩ := still.written all
  obtain ⟨storing, later, third, fewer, stores⟩ := last.stores there
  refine ⟨reading ++ (List.replicate (Session.patience + 1) (writes generation) ++ storing),
    later, StepSystem.execute_append first (StepSystem.execute_append second third), ?_, ?_⟩
  · rw [List.length_append, List.length_append, List.length_replicate]
    rw [toDevice] at more
    omega
  · rw [stores, kept, results]
    rfl

/-- The device has asked, and the host has not read. -/
theorem answer_within_reach_asked : ∃ loop session,
    AvailabilityLoop.start (Vector.replicate 16 0) = .ok loop ∧
    (machine 1 .available).execute (start 1 .available loop)
      [.request none (some (Vector.replicate 16 7)) none] = some session ∧
    ∃ inputs later, (machine 1 .available).execute session inputs = some later ∧
      inputs.length ≤
        2 * (session.toHost.length + session.toDevice.length + Session.patience) + 3 ∧
      later.results = session.results ++ [((1, Vector.replicate 16 7), .available)] := by
  refine ⟨_, _, rfl, rfl, ?_⟩
  have reachable := StepSystem.reachable_of_execute (T := machine 1 .available)
    ⟨Vector.replicate 16 0, _, rfl, rfl⟩ [.request none (some (Vector.replicate 16 7)) none] rfl
  exact answer_within_reach reachable rfl rfl (.inl rfl) id

end AvailabilitySession

end Deskkin.EndToEnd
