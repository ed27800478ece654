/-
# What a step of a session can do

The reader and the writer change few things at a time. This module says once which: every
step of the reader is one of six moves and every step of the writer one of twelve, each
with what it needs and what it leaves behind.
-/

import Deskkin.Host.SessionWriter

namespace Deskkin.Host

open Protocol Simulator

/-- The reader has not left its loop. -/
def ReaderPoint.InLoop (point : ReaderPoint) : Prop := point = .reading ∨ point = .processed

/-- The writer has left its loop. -/
def WriterPoint.Ended : WriterPoint → Prop
  | .returned _ | .reported _ | .exited _ => True
  | _ => False

instance (point : WriterPoint) : Decidable point.Ended := by
  cases point <;> (unfold WriterPoint.Ended; infer_instance)

/-- The writer has left its loop without an error. -/
def WriterPoint.Succeeded : WriterPoint → Prop
  | .returned (.ok ()) | .reported (.ok ()) | .exited (.ok ()) => True
  | _ => False

/-- The message that has left the queue and is not yet written. -/
def WriterPoint.message : WriterPoint → Option Message
  | .gate message | .sending message => some message
  | _ => none

theorem WriterPoint.message_of_ended {point : WriterPoint} (ended : point.Ended) :
    point.message = none := by
  cases point <;> first | rfl | exact ended.elim

namespace SessionWriteQueue

/-- What is taken from the queue: a close before a pong, a pong before a ping and a ping
before a response. -/
inductive Popped (queue : SessionWriteQueue) : Message → SessionWriteQueue → Prop
  | close {message : Message} (first : queue.close = some message) :
      Popped queue message { queue with close := none }
  | pong (uncontrolled : queue.close = none) (asked : queue.pong = true) :
      Popped queue .pong { queue with pong := false }
  | ping (uncontrolled : queue.close = none) (quiet : queue.pong = false)
      (idle : queue.ping = true) : Popped queue .ping { queue with ping := false }
  | application {message : Message} {rest : List Message} (uncontrolled : queue.close = none)
      (quiet : queue.pong = false) (busy : queue.ping = false)
      (first : queue.application = message :: rest) :
      Popped queue message { queue with application := rest }

theorem popped_of_pop {queue after : SessionWriteQueue} {message : Message}
    (pop : queue.pop = some (message, after)) : Popped queue message after := by
  unfold SessionWriteQueue.pop at pop
  split at pop
  · rename_i first
    cases pop
    exact .close first
  · rename_i uncontrolled
    split at pop
    · rename_i asked
      cases pop
      exact .pong uncontrolled asked
    · rename_i quiet
      rw [Bool.not_eq_true] at quiet
      split at pop
      · rename_i idle
        cases pop
        exact .ping uncontrolled quiet idle
      · rename_i busy
        rw [Bool.not_eq_true] at busy
        split at pop
        · cases pop
        · rename_i first
          cases pop
          exact .application uncontrolled quiet busy first

/-- Nothing is taken only from an empty queue. -/
theorem empty_of_pop {queue : SessionWriteQueue} (pop : queue.pop = none) :
    queue.close = none ∧ queue.application = [] := by
  unfold SessionWriteQueue.pop at pop
  split at pop
  · cases pop
  · rename_i unasked
    split at pop
    · cases pop
    · split at pop
      · cases pop
      · split at pop
        · rename_i empty
          exact ⟨unasked, empty⟩
        · cases pop

theorem enqueueApplication_eq_ok_iff {queue after : SessionWriteQueue} {message : Message} :
    queue.enqueueApplication message = .ok after ↔ queue.application.length < 8 ∧
      after = { queue with application := queue.application ++ [message] } := by
  unfold enqueueApplication
  split
  · rename_i full
    constructor
    · intro impossible
      cases impossible
    · intro room
      exact absurd room.1 (Nat.not_lt.mpr full)
  · rename_i room
    rw [Except.ok.injEq, and_iff_right (Nat.lt_of_not_le room)]
    exact eq_comm

end SessionWriteQueue

theorem acceptRequestId_eq_some_iff {last requestId next : UInt32} :
    acceptRequestId last requestId = some next ↔
      requestId.toNat = last.toNat + 1 ∧ next = requestId := by
  unfold acceptRequestId
  have fits : requestId.toNat ≤ Checked.u32Max := Nat.le_sub_one_of_lt requestId.toNat_lt
  simp only [Checked.add_eq_some_iff, fits, and_true]
  split
  · rename_i same
    rw [Option.some.injEq, and_iff_right same.symm]
    exact eq_comm
  · rename_i differs
    constructor
    · intro impossible
      cases impossible
    · intro next
      exact absurd next.1.symm differs

namespace Session

/-- The moves of the reader. -/
inductive ReaderMove (session : Session) : Session → Prop
  | turned {reader : ReaderPoint} {failure : Channel SessionError 1}
      (outward : reader.InLoop → session.reader.InLoop)
      (joined : (∃ result, reader = .finished result) → session.writer.Ended) :
      ReaderMove session { session with failure := failure, reader := reader }
  | refused {requestId : UInt32} {capabilities : HostCapabilities} {error : SessionError}
      (reading : session.reader = .reading)
      (next : requestId.toNat = session.lastRequestId.toNat + 1) :
      ReaderMove session { session with
        lastRequestId := requestId
        capabilities := capabilities
        log := session.log ++ [.accepted requestId]
        reader := .failed error }
  | answered {requestId : UInt32} {capabilities : HostCapabilities} {operation : ContextId}
      {result : AvailabilityResult} {applications : Channel Message 8}
      (reading : session.reader = .reading)
      (next : requestId.toNat = session.lastRequestId.toNat + 1)
      (connected : session.disconnected = false)
      (sent : applications.messages = session.applications.messages ++
        [.availabilityResult requestId operation result]) :
      ReaderMove session { session with
        lastRequestId := requestId
        capabilities := capabilities
        applications := applications
        log := session.log ++ [.accepted requestId,
          .enqueued (.availabilityResult requestId operation result)]
        reader := .processed }
  | ponged {controls : Channel WriterControl 1} (reading : session.reader = .reading)
      (sent : controls.messages = session.controls.messages ++ [.pong]) :
      ReaderMove session { session with
        controls := controls
        log := session.log ++ [.pongRequested]
        reader := .processed }
  | closed {reason : CloseReason} (reading : session.reader = .reading) :
      ReaderMove session { session with
        close := some reason
        log := session.log ++ [.closeRequested reason]
        reader := .joining }
  | told {controls : Channel WriterControl 1} {error : SessionError}
      (failed : session.reader = .failed error)
      (sent : controls.messages = session.controls.messages ++ [.stop]) :
      ReaderMove session { session with controls := controls, reader := .stopped error }

/-- The moves of the writer. -/
inductive WriterMove (session : Session) : Session → Prop
  | took (here : session.writer = .closeCell) :
      WriterMove session { session with
        queue := session.close.elim session.queue session.queue.enqueueClose
        close := none
        writer := .controls }
  | closing {controls : Channel WriterControl 1} {reason : CloseReason}
      (here : session.writer = .controls)
      (received : session.controls.messages = .close reason :: controls.messages) :
      WriterMove session { session with
        controls := controls
        queue := session.queue.enqueueClose reason
        writer := .controls }
  | ponging {controls : Channel WriterControl 1} (here : session.writer = .controls)
      (received : session.controls.messages = .pong :: controls.messages) :
      WriterMove session { session with
        controls := controls
        queue := session.queue.enqueuePong
        writer := .controls }
  | looked (here : session.writer = .controls) :
      WriterMove session { session with writer := .applications }
  | queued {message : Message} {applications : Channel Message 8} {next : WriterPoint}
      (here : session.writer = .applications ∧ next = .applications ∨
        session.writer = .waiting ∧ next = .closeCell)
      (received : session.applications.messages = message :: applications.messages)
      (room : session.queue.application.length < 8) :
      WriterMove session { session with
        applications := applications
        queue := { session.queue with application := session.queue.application ++ [message] }
        writer := next }
  | popped {message : Message} {queue : SessionWriteQueue}
      (here : session.writer = .applications) (drained : session.applications.messages = [])
      (popped : session.queue.Popped message queue) :
      WriterMove session { session with queue := queue, writer := .gate message }
  | rested (here : session.writer = .applications) (drained : session.applications.messages = [])
      (unasked : session.queue.close = none) (empty : session.queue.application = []) :
      WriterMove session { session with writer := .waiting }
  | elapsed {ping : Bool} (here : session.writer = .waiting)
      (drained : session.applications.messages = []) :
      WriterMove session { session with
        queue := { session.queue with ping := ping }
        writer := .closeCell }
  | passed {message : Message} (here : session.writer = .gate message) :
      WriterMove session { session with writer := .sending message }
  | wrote {message : Message} (here : session.writer = .sending message) :
      WriterMove session { session with
        writer := if isClose message then .returned (.ok ()) else .closeCell
        log := session.log ++ [.written message] }
  | ended {applications : Channel Message 8} {controls : Channel WriterControl 1}
      {result : Except SessionError Unit} (going : ¬session.writer.Ended)
      (why : result = .ok () → WriterControl.stop ∈ session.controls.messages ∨
        ∃ last, session.reader = .finished last)
      (fewer : controls.messages ⊆ session.controls.messages) :
      WriterMove session { session with
        applications := applications
        controls := controls
        writer := .returned result }
  | outside {failure : Channel SessionError 1} {writer : WriterPoint} (going : session.writer.Ended)
      (still : writer.Ended) (same : writer.Succeeded → session.writer.Succeeded) :
      WriterMove session { session with failure := failure, writer := writer }

variable {session after : Session}

/-! ## Every step of the reader is a move -/

/-- The reader leaves its loop, or goes on waiting outside of it. -/
theorem ReaderMove.leave {point : ReaderPoint} (outside : ¬point.InLoop)
    (unfinished : ∀ result, point ≠ .finished result) (failure : Channel SessionError 1) :
    ReaderMove session { session with failure := failure, reader := point } :=
  .turned (fun inside => absurd inside outside)
    fun ⟨result, finished⟩ => absurd finished (unfinished result)

theorem ReaderMove.fail (error : SessionError) (failure : Channel SessionError 1) :
    ReaderMove session ({ session with failure := failure }.fail error) :=
  .leave (by simp [ReaderPoint.InLoop]) (by simp) failure

variable {result : Except SessionError Unit} {answers : Answers}

theorem ReaderMove.finish (exited : session.writer.Ended) :
    ReaderMove session { session with reader := .finished result } :=
  .turned (fun inside => by simp [ReaderPoint.InLoop] at inside)
    fun _ => exited

theorem ended_of_joined (done : session.joined = some result) : session.writer.Ended := by
  unfold joined at done
  split at done
  · rename_i here
    rw [here]
    exact trivial
  · cases done

theorem enqueueApplication_eq_ok {message : Message}
    (sent : session.enqueueApplication message = .ok after) :
    session.disconnected = false ∧ ∃ applications : Channel Message 8,
      applications.messages = session.applications.messages ++ [message] ∧
      after = { session with
        applications := applications
        log := session.log ++ [.enqueued message] } := by
  unfold enqueueApplication at sent
  split at sent
  · cases sent
  · rename_i connected
    rw [Bool.not_eq_true] at connected
    split at sent
    · rename_i applications room
      cases sent
      exact ⟨connected, applications, Channel.trySend_eq_some_iff.mp room, rfl⟩
    · cases sent

theorem enqueueControl_eq_ok {control : WriterControl} (plain : ∀ reason, control ≠ .close reason)
    (sent : session.enqueueControl control = .ok after) :
    ∃ controls : Channel WriterControl 1,
      controls.messages = session.controls.messages ++ [control] ∧
      after = { session with controls := controls } := by
  unfold enqueueControl at sent
  split at sent
  · exact absurd rfl (plain _)
  · split at sent
    · cases sent
    · split at sent
      · rename_i controls room
        cases sent
        exact ⟨controls, Channel.trySend_eq_some_iff.mp room, rfl⟩
      · cases sent

section

variable (reading : session.reader = .reading)
include reading

theorem readAvailability_move (paired : Option ℕ) (requestId : UInt32) (operation : ContextId) :
    ReaderMove session (session.readAvailability paired requestId operation) := by
  unfold readAvailability
  split
  · exact .fail _ session.failure
  · rename_i last accepted
    obtain ⟨next, rfl⟩ := acceptRequestId_eq_some_iff.mp accepted
    dsimp only [record]
    split
    · exact .refused reading next
    · split
      · exact .refused reading next
      · dsimp only [proceed]
        split
        · rename_i enqueued
          obtain ⟨connected, applications, sent, rfl⟩ := enqueueApplication_eq_ok enqueued
          dsimp only at connected sent ⊢
          rw [List.append_assoc]
          exact .answered reading next connected sent
        · exact .refused reading next

theorem ponged_move : ReaderMove session (session.proceed .processed session.enqueuePong) := by
  unfold proceed
  split
  · rename_i asked
    obtain ⟨told, enqueued, rfl⟩ := Fallible.map_eq_ok_iff.mp asked
    obtain ⟨controls, sent, rfl⟩ := enqueueControl_eq_ok (by simp) enqueued
    exact .ponged reading sent
  · exact .fail _ session.failure

theorem handle_move (paired : Option ℕ) (message : Message) :
    ReaderMove session (session.handle paired message) := by
  cases message with
  | readAvailability requestId operation => exact readAvailability_move reading _ _ _
  | ping => exact ponged_move reading
  | pong => exact .turned (fun _ => .inl reading) (by simp)
  | close reason => exact .closed reading
  | _ => exact .fail _ session.failure

end

theorem tellStop_move {error : SessionError} (failed : session.reader = .failed error) :
    ReaderMove session { session.tellStop with reader := .stopped error } := by
  unfold tellStop
  split
  · rename_i enqueued
    obtain ⟨controls, sent, rfl⟩ := enqueueControl_eq_ok (by simp) enqueued
    exact .told failed sent
  · exact .leave (by simp [ReaderPoint.InLoop]) (by simp) session.failure

theorem readerStep_move (step : session.readerStep answers = some after) :
    ReaderMove session after := by
  unfold readerStep at step
  split at step
  · rename_i reading
    split at step
    · cases step
      exact handle_move reading _ _
    · cases step
      exact .fail _ session.failure
  · rename_i processed
    split at step
    · cases step
      exact .fail _ _
    · cases step
      exact .turned (fun _ => .inr processed) (by simp)
  · obtain ⟨result, joined, rfl⟩ := Option.map_eq_some_iff.mp step
    exact .finish (ended_of_joined joined)
  · rename_i failed
    cases step
    exact tellStop_move failed
  · obtain ⟨result, joined, rfl⟩ := Option.map_eq_some_iff.mp step
    exact .finish (ended_of_joined joined)
  · cases step

/-! ## Every step of the writer is a move -/

theorem queueApplication_move {message : Message} {applications : Channel Message 8}
    {next : WriterPoint}
    (here : session.writer = .applications ∧ next = .applications ∨
      session.writer = .waiting ∧ next = .closeCell)
    (received : session.applications.messages = message :: applications.messages) :
    WriterMove session (session.queueApplication message applications next) := by
  unfold queueApplication
  split
  · rename_i queue enqueued
    obtain ⟨room, rfl⟩ := SessionWriteQueue.enqueueApplication_eq_ok_iff.mp enqueued
    exact .queued here received room
  · refine .ended ?_ (by simp) (List.Subset.refl _)
    cases here with
    | inl draining => simp [draining.1, WriterPoint.Ended]
    | inr waiting => simp [waiting.1, WriterPoint.Ended]

theorem controls_move (here : session.writer = .controls)
    (step : session.writerStep answers = some after) : WriterMove session after := by
  simp only [writerStep, here] at step
  have going : ¬session.writer.Ended := by simp [here, WriterPoint.Ended]
  split at step
  · rename_i received
    cases step
    exact .closing here (Channel.tryRecv_eq_some_iff.mp received)
  · rename_i received
    cases step
    exact .ponging here (Channel.tryRecv_eq_some_iff.mp received)
  · rename_i controls received
    cases step
    have received := Channel.tryRecv_eq_some_iff.mp received
    refine .ended going (fun _ => .inl ?_) ?_
    · rw [received]
      exact List.mem_cons_self
    · rw [received]
      exact List.subset_cons_self _ _
  · cases step
    exact .looked here

theorem applications_move (here : session.writer = .applications)
    (step : session.writerStep answers = some after) : WriterMove session after := by
  simp only [writerStep, here] at step
  split at step
  · rename_i received
    cases step
    exact queueApplication_move (.inl ⟨here, rfl⟩) (Channel.tryRecv_eq_some_iff.mp received)
  · rename_i drained
    have drained := Channel.tryRecv_eq_none_iff.mp drained
    split at step
    · rename_i popped
      cases step
      exact .popped here drained (SessionWriteQueue.popped_of_pop popped)
    · rename_i empty
      cases step
      obtain ⟨unasked, empty⟩ := SessionWriteQueue.empty_of_pop empty
      exact .rested here drained unasked empty

theorem waiting_move (here : session.writer = .waiting)
    (step : session.writerStep answers = some after) : WriterMove session after := by
  simp only [writerStep, here] at step
  split at step
  · rename_i received
    cases step
    exact queueApplication_move (.inr ⟨here, rfl⟩) (Channel.tryRecv_eq_some_iff.mp received)
  · rename_i drained
    have drained := Channel.tryRecv_eq_none_iff.mp drained
    split at step
    · rename_i finished
      cases step
      exact .ended
        (by simp [here, WriterPoint.Ended]) (fun _ => .inr ⟨_, finished⟩) (List.Subset.refl _)
    · cases step
      have queue : (if answers.idle then session.queue.enqueuePingIfIdle else session.queue) =
          { session.queue with ping := (if answers.idle then session.queue.enqueuePingIfIdle
            else session.queue).ping } := by
        unfold SessionWriteQueue.enqueuePingIfIdle
        split
        · split <;> rfl
        · rfl
      rw [queue]
      exact .elapsed here drained

theorem writerStep_move (step : session.writerStep answers = some after) :
    WriterMove session after := by
  cases here : session.writer with
  | closeCell =>
      simp only [writerStep, here] at step
      cases step
      exact .took here
  | controls => exact controls_move here step
  | applications => exact applications_move here step
  | waiting => exact waiting_move here step
  | gate message =>
      simp only [writerStep, here] at step
      split at step
      · cases step
        exact .ended
          (by simp [here, WriterPoint.Ended]) (by simp) (List.Subset.refl _)
      · cases step
        exact .passed here
  | sending message =>
      simp only [writerStep, here] at step
      split at step
      · cases step
        exact .wrote here
      · cases step
        exact .ended
          (by simp [here, WriterPoint.Ended]) (by simp) (List.Subset.refl _)
  | returned result =>
      have ended : session.writer.Ended := by rw [here]; exact trivial
      cases result with
      | ok done =>
          simp only [writerStep, here] at step
          cases step
          exact .outside ended trivial fun _ => by rw [here]; exact trivial
      | error error =>
          simp only [writerStep, here] at step
          cases step
          exact .outside ended trivial fun impossible => impossible.elim
  | reported result =>
      simp only [writerStep, here] at step
      cases step
      refine .outside (by rw [here]; exact trivial) trivial ?_
      rw [here]
      exact fun succeeded => by cases result <;> exact succeeded
  | exited result =>
      simp only [writerStep, here] at step
      cases step

end Session

end Deskkin.Host
