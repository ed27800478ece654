/-
# The order of what a session writes

A response goes from the reader through the channel into the queue and from there to the
stream. On the way nothing overtakes and nothing is lost, unless the writer leaves its
loop. A close that is asked for is written next to last at the latest: at most one message
is ahead of it, and nothing comes after it.
-/

import Deskkin.Host.SessionMoves
import Mathlib.Data.List.Infix
import Mathlib.Data.List.Range

namespace Deskkin.Host

open Protocol Simulator

/-! ## What the log says -/

def responseId : Message → Option UInt32
  | .availabilityResult requestId _ _ => some requestId
  | _ => none

def isResponse (message : Message) : Bool := (responseId message).isSome

theorem isResponse_of_isClose {message : Message} (close : isClose message = true) :
    isResponse message = false := by
  cases message with
  | close reason => rfl
  | _ => cases close

namespace SessionEvent

def acceptedId : SessionEvent → Option UInt32
  | .accepted requestId => some requestId
  | _ => none

def enqueuedResponse : SessionEvent → Option Message
  | .enqueued response => some response
  | _ => none

def requestedReason : SessionEvent → Option CloseReason
  | .closeRequested reason => some reason
  | _ => none

def writtenMessage : SessionEvent → Option Message
  | .written message => some message
  | _ => none

/-- The messages written in a part of the log. -/
def writes (log : List SessionEvent) : List Message := log.filterMap writtenMessage

@[simp]
theorem writes_append (first second : List SessionEvent) :
    writes (first ++ second) = writes first ++ writes second :=
  List.filterMap_append

end SessionEvent

namespace Session

open SessionEvent

/-- The ids of the requests that were accepted. -/
def acceptedIds (session : Session) : List UInt32 := session.log.filterMap acceptedId

/-- The responses that the channel took. -/
def enqueued (session : Session) : List Message := session.log.filterMap enqueuedResponse

/-- The responses that are on the stream. -/
def responsesWritten (session : Session) : List Message :=
  (writes session.log).filter isResponse

/-- The responses on their way: in the hands of the writer, in the queue and in the channel. -/
def held (session : Session) : List Message :=
  session.writer.message.toList.filter isResponse ++ session.queue.application ++
    session.applications.messages

/-! ## Responses -/

/-- The requests are numbered without a gap, their responses are enqueued in that order,
and what is enqueued is written or held. -/
structure Flow (session : Session) : Prop where
  numbered : session.acceptedIds.map UInt32.toNat = List.range' 1 session.lastRequestId.toNat
  answered : session.enqueued.map responseId <+: session.acceptedIds.map some
  current : session.reader.InLoop →
    session.enqueued.map responseId = session.acceptedIds.map some
  fifo : session.responsesWritten <+: session.enqueued
  kept : ¬session.writer.Ended → session.enqueued = session.responsesWritten ++ session.held
  bounded : session.queue.application.length ≤ 8
  control : ∀ message, session.queue.close = some message → isClose message = true
  resting : session.writer = .waiting → session.queue.application = []

theorem flow_start (generation : ℕ) (result : AvailabilityResult) :
    (start generation result).Flow where
  numbered := rfl
  answered := List.prefix_refl _
  current _ := rfl
  fifo := List.prefix_refl _
  kept _ := rfl
  bounded := Nat.zero_le _
  control _ impossible := by cases impossible
  resting _ := rfl

section Steps

variable {session after : Session}

variable {message : Message} {requestId : UInt32} {queue rest : SessionWriteQueue}

section

variable (flow : session.Flow)
include flow

theorem Flow.isResponse_of_mem (member : message ∈ session.enqueued) :
    isResponse message = true := by
  have listed := flow.answered.subset (List.mem_map_of_mem member)
  obtain ⟨requestId, -, same⟩ := List.mem_map.mp listed
  rw [isResponse, ← same]
  rfl

/-- An accepted request goes to the end of the numbering. -/
theorem Flow.numbered_next (next : requestId.toNat = session.lastRequestId.toNat + 1) :
    (session.acceptedIds ++ [requestId]).map UInt32.toNat = List.range' 1 requestId.toNat := by
  rw [List.map_append, flow.numbered, next, List.range'_1_concat]
  simp [next, Nat.add_comm]

/-- Events that are neither about requests nor about responses leave the flow as it is. -/
theorem Flow.log {event : SessionEvent} (accepted : acceptedId event = none)
    (enqueued : enqueuedResponse event = none) (written : writtenMessage event = none)
    {reader : ReaderPoint} (outward : reader.InLoop → session.reader.InLoop)
    (controls : Channel WriterControl 1) (close : Option CloseReason) :
    Flow { session with
      controls := controls
      close := close
      log := session.log ++ [event]
      reader := reader } := by
  have ids : (session.log ++ [event]).filterMap acceptedId = session.acceptedIds :=
    List.filterMap_concat_of_none accepted _
  have responses : (session.log ++ [event]).filterMap enqueuedResponse = session.enqueued :=
    List.filterMap_concat_of_none enqueued _
  have stream : (writes (session.log ++ [event])).filter isResponse =
      session.responsesWritten :=
    congrArg (List.filter isResponse) (List.filterMap_concat_of_none written _)
  constructor
  · rw [acceptedIds, ids]
    exact flow.numbered
  · rw [acceptedIds, Session.enqueued, ids, responses]
    exact flow.answered
  · intro inside
    rw [acceptedIds, Session.enqueued, ids, responses]
    exact flow.current (outward inside)
  · rw [responsesWritten, Session.enqueued, responses, stream]
    exact flow.fifo
  · intro going
    rw [responsesWritten, Session.enqueued, responses, stream]
    exact flow.kept going
  · exact flow.bounded
  · exact flow.control
  · exact flow.resting

/-- An accepted request without a response is the last one. -/
theorem Flow.refused (reading : session.reader = .reading)
    (next : requestId.toNat = session.lastRequestId.toNat + 1) (capabilities : HostCapabilities)
    (error : SessionError) :
    Flow { session with
      lastRequestId := requestId
      capabilities := capabilities
      log := session.log ++ [.accepted requestId]
      reader := .failed error } := by
  have ids : (session.log ++ [SessionEvent.accepted requestId]).filterMap acceptedId =
      session.acceptedIds ++ [requestId] := List.filterMap_append
  have responses : (session.log ++ [SessionEvent.accepted requestId]).filterMap enqueuedResponse =
      session.enqueued := List.filterMap_concat_of_none rfl _
  have stream : (writes (session.log ++ [SessionEvent.accepted requestId])).filter isResponse =
      session.responsesWritten :=
    congrArg (List.filter isResponse) (List.filterMap_concat_of_none rfl _)
  constructor
  · rw [acceptedIds, ids]
    exact flow.numbered_next next
  · rw [acceptedIds, enqueued, ids, responses, List.map_append, flow.current (.inl reading)]
    exact List.prefix_append _ _
  · intro inside
    simp [ReaderPoint.InLoop] at inside
  · rw [responsesWritten, enqueued, responses, stream]
    exact flow.fifo
  · intro going
    rw [responsesWritten, enqueued, responses, stream]
    exact flow.kept going
  · exact flow.bounded
  · exact flow.control
  · exact flow.resting

/-- A response goes to the end of the channel. -/
theorem Flow.answer (reading : session.reader = .reading)
    (next : requestId.toNat = session.lastRequestId.toNat + 1) {capabilities : HostCapabilities}
    {operation : ContextId} {result : AvailabilityResult} {applications : Channel Message 8}
    (sent : applications.messages = session.applications.messages ++
      [.availabilityResult requestId operation result]) :
    Flow { session with
      lastRequestId := requestId
      capabilities := capabilities
      applications := applications
      log := session.log ++ [.accepted requestId,
        .enqueued (.availabilityResult requestId operation result)]
      reader := .processed } := by
  let answeredEvents : List SessionEvent :=
    [.accepted requestId, .enqueued (.availabilityResult requestId operation result)]
  have ids : (session.log ++ answeredEvents).filterMap acceptedId =
      session.acceptedIds ++ [requestId] := List.filterMap_append
  have responses : (session.log ++ answeredEvents).filterMap enqueuedResponse =
      session.enqueued ++ [.availabilityResult requestId operation result] :=
    List.filterMap_append
  have stream : (writes (session.log ++ answeredEvents)).filter isResponse =
      session.responsesWritten := by
    rw [writes_append, List.filter_append]
    exact List.append_nil _
  have current : (session.enqueued ++ [Message.availabilityResult requestId operation result]).map
      responseId = (session.acceptedIds ++ [requestId]).map some := by
    rw [List.map_append, List.map_append, flow.current (.inl reading)]
    rfl
  constructor
  · rw [acceptedIds, ids]
    exact flow.numbered_next next
  · rw [acceptedIds, enqueued, ids, responses, current]
  · intro inside
    rw [acceptedIds, enqueued, ids, responses, current]
  · rw [responsesWritten, enqueued, responses, stream]
    exact flow.fifo.trans (List.prefix_append _ _)
  · intro going
    rw [responsesWritten, enqueued, responses, stream, flow.kept going]
    simp only [held, sent, List.append_assoc]
  · exact flow.bounded
  · exact flow.control
  · exact flow.resting

theorem flow_reader (move : session.ReaderMove after) : after.Flow := by
  cases move with
  | turned outward joined =>
      exact { flow with current := fun inside => flow.current (outward inside) }
  | refused reading next => exact flow.refused reading next _ _
  | answered reading next connected sent => exact flow.answer reading next sent
  | ponged reading sent => exact flow.log rfl rfl rfl (fun _ => .inl reading) _ session.close
  | closed reading => exact flow.log rfl rfl rfl (fun _ => .inl reading) session.controls _
  | told failed sent =>
      exact { flow with current := fun inside => by simp [ReaderPoint.InLoop] at inside }

/-! ## What the writer does to the flow -/

end

theorem application_took (close : Option CloseReason) (queue : SessionWriteQueue) :
    (close.elim queue queue.enqueueClose).application = queue.application := by
  cases close <;> rfl

theorem control_took {close : Option CloseReason} {queue : SessionWriteQueue}
    (control : ∀ message, queue.close = some message → isClose message = true) (message : Message)
    (found : (close.elim queue queue.enqueueClose).close = some message) :
    isClose message = true := by
  cases close with
  | none => exact control message found
  | some reason =>
      cases found
      rfl

section

variable (control : ∀ message, queue.close = some message → isClose message = true)
include control

/-- The writer takes the first of the responses, or none. -/
theorem application_popped (responses : ∀ message ∈ queue.application, isResponse message = true)
    (popped : queue.Popped message rest) :
    [message].filter isResponse ++ rest.application = queue.application := by
  cases popped with
  | close first => simp [isResponse_of_isClose (control message first)]
  | pong uncontrolled asked => rfl
  | ping uncontrolled quiet idle => rfl
  | application uncontrolled quiet busy first =>
      have response := responses message (by rw [first]; exact List.mem_cons_self)
      simp [first, response]

theorem control_popped (popped : queue.Popped message rest) (other : Message)
    (found : rest.close = some other) : isClose other = true := by
  cases popped with
  | close first => cases found
  | pong uncontrolled asked => exact control other found
  | ping uncontrolled quiet idle => exact control other found
  | application uncontrolled quiet busy first => exact control other found

end

theorem Flow.responses (flow : session.Flow) (going : ¬session.writer.Ended) :
    ∀ message ∈ session.queue.application, isResponse message = true := by
  intro message member
  apply flow.isResponse_of_mem
  rw [flow.kept going, held]
  simp [member]

/-- The writer that goes on has not written a close. -/
theorem plain_of_going
    (going : ¬WriterPoint.Ended (if isClose message then .returned (.ok ()) else .closeCell)) :
    isClose message = false := by
  by_contra close
  rw [Bool.not_eq_false] at close
  rw [if_pos close] at going
  exact going trivial

/-- What was in the hands of the writer is on the stream. -/
theorem Flow.wrote (flow : session.Flow) (here : session.writer = .sending message) :
    Flow { session with
      writer := if isClose message then .returned (.ok ()) else .closeCell
      log := session.log ++ [.written message] } := by
  have ids : (session.log ++ [SessionEvent.written message]).filterMap acceptedId =
      session.acceptedIds :=
    List.filterMap_concat_of_none rfl _
  have responses : (session.log ++ [SessionEvent.written message]).filterMap enqueuedResponse =
      session.enqueued := List.filterMap_concat_of_none rfl _
  have stream : (writes (session.log ++ [SessionEvent.written message])).filter isResponse =
      session.responsesWritten ++ [message].filter isResponse := by
    rw [writes_append, List.filter_append]
    rfl
  have kept := flow.kept (by simp [here, WriterPoint.Ended])
  simp only [held, here, WriterPoint.message, Option.toList_some] at kept
  constructor
  · rw [acceptedIds, ids]
    exact flow.numbered
  · rw [acceptedIds, enqueued, ids, responses]
    exact flow.answered
  · intro inside
    rw [acceptedIds, enqueued, ids, responses]
    exact flow.current inside
  · rw [responsesWritten, enqueued, responses, stream, kept]
    simp only [List.append_assoc, List.prefix_append_right_inj, List.prefix_append]
  · intro going
    have last := plain_of_going going
    rw [responsesWritten, enqueued, responses, stream, kept]
    simp [held, last, WriterPoint.message]
  · exact flow.bounded
  · exact flow.control
  · intro rests
    dsimp only at rests
    split at rests <;> cases rests

theorem flow_writer (flow : session.Flow) (move : session.WriterMove after) : after.Flow := by
  cases move with
  | took here =>
      have kept := flow.kept (by simp [here, WriterPoint.Ended])
      refine { flow with
        kept := fun _ => ?_, bounded := ?_, control := control_took flow.control,
        resting := fun rests => by cases rests }
      · simp only [held, application_took]
        rw [held, here] at kept
        exact kept
      · rw [application_took]
        exact flow.bounded
  | closing here received =>
      have kept := flow.kept (by simp [here, WriterPoint.Ended])
      rw [held, here] at kept
      refine { flow with
        kept := fun _ => kept, control := fun message found => ?_,
        resting := fun rests => by cases rests }
      cases found
      rfl
  | ponging here received =>
      have kept := flow.kept (by simp [here, WriterPoint.Ended])
      rw [held, here] at kept
      exact { flow with kept := fun _ => kept, resting := fun rests => by cases rests }
  | looked here =>
      have kept := flow.kept (by simp [here, WriterPoint.Ended])
      rw [held, here] at kept
      exact { flow with kept := fun _ => kept, resting := fun rests => by cases rests }
  | @queued message applications next here received room =>
      have going : ¬session.writer.Ended ∧ session.writer.message = none := by
        rcases here with ⟨here, -⟩ | ⟨here, -⟩ <;>
          simp [here, WriterPoint.Ended, WriterPoint.message]
      have onward : next.message = none := by
        rcases here with ⟨-, rfl⟩ | ⟨-, rfl⟩ <;> rfl
      have kept := flow.kept going.1
      refine { flow with kept := fun _ => ?_, bounded := ?_, resting := fun rests => ?_ }
      · refine kept.trans (congrArg (session.responsesWritten ++ ·) ?_)
        simp [held, going.2, received, onward]
      · rw [List.length_append]
        exact room
      · rcases here with ⟨-, rfl⟩ | ⟨-, rfl⟩ <;> cases rests
  | popped here drained popped =>
      have going : ¬session.writer.Ended := by simp [here, WriterPoint.Ended]
      have kept := flow.kept going
      have taken := application_popped flow.control (flow.responses going) popped
      refine { flow with
        kept := fun _ => ?_, bounded := ?_, control := control_popped flow.control popped,
        resting := fun rests => by cases rests }
      · rw [held, here, ← taken] at kept
        exact kept
      · have fewer := congrArg List.length taken
        rw [List.length_append] at fewer
        exact (Nat.le_add_left _ _).trans (fewer.le.trans flow.bounded)
  | rested here drained unasked empty =>
      have kept := flow.kept (by simp [here, WriterPoint.Ended])
      rw [held, here] at kept
      exact { flow with kept := fun _ => kept, resting := fun _ => empty }
  | elapsed here drained =>
      have kept := flow.kept (by simp [here, WriterPoint.Ended])
      rw [held, here] at kept
      exact { flow with kept := fun _ => kept, resting := fun rests => by cases rests }
  | passed here =>
      have kept := flow.kept (by simp [here, WriterPoint.Ended])
      rw [held, here] at kept
      exact { flow with kept := fun _ => kept, resting := fun rests => by cases rests }
  | wrote here => exact flow.wrote here
  | ended going why fewer =>
      exact { flow with
        kept := fun still => absurd trivial still, resting := fun rests => by cases rests }
  | outside going still same =>
      refine { flow with kept := fun gone => absurd still gone, resting := fun rests => ?_ }
      dsimp only at rests
      rw [rests] at still
      exact still.elim

end Steps

end Session

end Deskkin.Host
