/-
# Closing a session

The request to close waits in its cell until the writer looks there, then in the queue,
where it comes first, and then in the hands of the writer. The writer may have passed the
cell when the request comes; what it takes from the queue on that round is written first,
and nothing else is.
-/

import Deskkin.Host.WriterOrder

namespace Deskkin.Host

open Protocol Simulator

namespace Session

open SessionEvent

/-- How far the request to close has come, where `ahead` is what was written since. -/
inductive Stage (session : Session) (reason : CloseReason) (ahead : Option Message) :
    List Message → Prop
  | cell (there : session.close = some reason) (behind : session.queue.close = none)
      (plain : ∀ message, session.writer.message = some message → isClose message = false)
      (early : ahead = none ∨ session.writer = .closeCell) :
      Stage session reason ahead ahead.toList
  | queued (gone : session.close = none) (there : session.queue.close = some (.close reason))
      (here : session.writer = .controls ∨ session.writer = .applications) :
      Stage session reason ahead ahead.toList
  | taken (gone : session.close = none) (behind : session.queue.close = none)
      (there : session.writer.message = some (.close reason)) :
      Stage session reason ahead ahead.toList
  | written (ended : session.writer.Ended) :
      Stage session reason ahead (ahead.toList ++ [.close reason])
  | ended (ended : session.writer.Ended) : Stage session reason ahead ahead.toList

/-- Nobody has asked to close, or somebody has and the request is on its way. -/
inductive Closing (session : Session) : Prop
  | unasked (never : session.log.filterMap requestedReason = []) (cell : session.close = none)
      (behind : session.queue.close = none)
      (hands : ∀ message, session.writer.message = some message → isClose message = false)
      (plain : ∀ message ∈ writes session.log, isClose message = false)
  | asked {before after : List SessionEvent} {reason : CloseReason} {ahead : Option Message}
      (split : session.log = before ++ .closeRequested reason :: after)
      (never : before.filterMap requestedReason = []) (once : after.filterMap requestedReason = [])
      (outside : ¬session.reader.InLoop)
      (earlier : ∀ message ∈ writes before, isClose message = false)
      (plain : ∀ message, ahead = some message → isClose message = false)
      (stage : session.Stage reason ahead (writes after))

/-- What stops the writer comes from a reader that has left its loop. -/
structure Stopping (session : Session) : Prop where
  reserved : ∀ reason, WriterControl.close reason ∉ session.controls.messages
  told : .stop ∈ session.controls.messages → ¬session.reader.InLoop
  succeeded : session.writer.Succeeded → ¬session.reader.InLoop
  closing : session.Closing

theorem stopping_start (generation : ℕ) (result : AvailabilityResult) :
    (start generation result).Stopping where
  reserved _ impossible := by cases impossible
  told impossible := by cases impossible
  succeeded impossible := impossible.elim
  closing := .unasked rfl rfl rfl (fun _ none => by cases none) fun _ none => by cases none

section Steps

variable {session after : Session}

/-! ## Steps of the reader -/

variable {ahead : Option Message} {reason : CloseReason} {ws : List Message} {message : Message}

theorem Stage.same (stage : session.Stage reason ahead ws) (cell : after.close = session.close)
    (queue : after.queue = session.queue) (writer : after.writer = session.writer) :
    after.Stage reason ahead ws := by
  cases stage with
  | cell there behind plain early =>
      refine .cell (cell.trans there) ?_ ?_ ?_
      · rw [queue]
        exact behind
      · rw [writer]
        exact plain
      · rw [writer]
        exact early
  | queued gone there here =>
      refine .queued (cell.trans gone) ?_ ?_
      · rw [queue]
        exact there
      · rw [writer]
        exact here
  | taken gone behind there =>
      refine .taken (cell.trans gone) ?_ ?_
      · rw [queue]
        exact behind
      · rw [writer]
        exact there
  | written ended =>
      refine .written ?_
      rw [writer]
      exact ended
  | ended ended =>
      refine .ended ?_
      rw [writer]
      exact ended

/-- Whatever the reader does besides asking to close leaves the request where it is. -/
theorem Closing.quiet (closing : session.Closing) {events : List SessionEvent}
    (unasked : events.filterMap requestedReason = []) (unwritten : writes events = [])
    (log : after.log = session.log ++ events) (cell : after.close = session.close)
    (queue : after.queue = session.queue) (writer : after.writer = session.writer)
    (outward : after.reader.InLoop → session.reader.InLoop) : after.Closing := by
  cases closing with
  | unasked never gone behind hands plain =>
      refine .unasked ?_ (cell.trans gone) ?_ ?_ ?_
      · rw [log, List.filterMap_append, never, unasked, List.append_nil]
      · rw [queue]
        exact behind
      · rw [writer]
        exact hands
      · rw [log, writes_append, unwritten, List.append_nil]
        exact plain
  | @asked before later reason ahead split never once outside earlier plain stage =>
      have further : after.log = before ++ .closeRequested reason :: (later ++ events) := by
        rw [log, split, List.append_assoc, List.cons_append]
      refine .asked further never ?_ (fun inside => outside (outward inside)) earlier plain ?_
      · rw [List.filterMap_append, once, unasked, List.append_nil]
      · rw [writes_append, unwritten, List.append_nil]
        exact stage.same cell queue writer

/-- The request to close goes into the cell. -/
theorem Closing.ask (closing : session.Closing) (reading : session.reader = .reading)
    (reason : CloseReason) :
    Closing { session with
      close := some reason
      log := session.log ++ [.closeRequested reason]
      reader := .joining } := by
  cases closing with
  | unasked never gone behind hands plain =>
      have stage : Stage { session with
          close := some reason
          log := session.log ++ [.closeRequested reason]
          reader := .joining } reason none [] := .cell rfl behind hands (.inl rfl)
      exact .asked rfl never rfl (by simp [ReaderPoint.InLoop]) plain
        (fun _ impossible => by cases impossible) stage
  | asked split never once outside earlier plain stage => exact absurd (.inl reading) outside

theorem stopping_reader (stopping : session.Stopping) (move : session.ReaderMove after) :
    after.Stopping := by
  have closing := stopping.closing
  cases move with
  | turned outward joined =>
      exact {
        reserved := stopping.reserved
        told := fun stop inside => stopping.told stop (outward inside)
        succeeded := fun done inside => stopping.succeeded done (outward inside)
        closing := closing.quiet rfl rfl (List.append_nil _).symm rfl rfl rfl outward }
  | refused reading next =>
      exact { stopping with
        told := fun stop _ => stopping.told stop (.inl reading)
        succeeded := fun done _ => stopping.succeeded done (.inl reading)
        closing := closing.quiet rfl rfl rfl rfl rfl rfl fun _ => .inl reading }
  | answered reading next connected sent =>
      exact { stopping with
        told := fun stop _ => stopping.told stop (.inl reading)
        succeeded := fun done _ => stopping.succeeded done (.inl reading)
        closing := closing.quiet rfl rfl rfl rfl rfl rfl fun _ => .inl reading }
  | ponged reading sent =>
      refine {
        reserved := fun reason => ?_
        told := fun stop _ => ?_
        succeeded := fun done _ => stopping.succeeded done (.inl reading)
        closing := closing.quiet rfl rfl rfl rfl rfl rfl fun _ => .inl reading }
      · simp [sent, stopping.reserved reason]
      · rw [sent] at stop
        exact stopping.told (by simpa using stop) (.inl reading)
  | closed reading =>
      exact { stopping with
        told := fun stop _ => stopping.told stop (.inl reading)
        succeeded := fun done _ => stopping.succeeded done (.inl reading)
        closing := closing.ask reading _ }
  | told failed sent =>
      refine {
        reserved := fun reason => ?_
        told := fun _ inside => by simp [ReaderPoint.InLoop] at inside
        succeeded := fun _ inside => by simp [ReaderPoint.InLoop] at inside
        closing := closing.quiet rfl rfl (List.append_nil _).symm rfl rfl rfl
          fun inside => by simp [ReaderPoint.InLoop] at inside }
      simp [sent, stopping.reserved reason]

/-! ## Steps of the writer -/

/-- A step that writes nothing moves the request on, or leaves it where it is. -/
theorem Closing.advance (closing : session.Closing) (log : after.log = session.log)
    (reader : after.reader = session.reader)
    (unasked : session.close = none → session.queue.close = none →
      (∀ message, session.writer.message = some message → isClose message = false) →
      after.close = none ∧ after.queue.close = none ∧
        ∀ message, after.writer.message = some message → isClose message = false)
    (stages : ∀ reason ahead ws, session.Stage reason ahead ws → after.Stage reason ahead ws) :
    after.Closing := by
  cases closing with
  | unasked never gone behind hands plain =>
      obtain ⟨gone, behind, hands⟩ := unasked gone behind hands
      exact .unasked (log ▸ never) gone behind hands (log ▸ plain)
  | asked split never once outside earlier plain stage =>
      exact .asked (log.trans split) never once (reader ▸ outside) earlier plain
        (stages _ _ _ stage)

section

variable (stage : session.Stage reason ahead ws)
include stage

theorem Stage.took (here : session.writer = .closeCell) :
    Stage { session with
      queue := session.close.elim session.queue session.queue.enqueueClose
      close := none
      writer := .controls } reason ahead ws := by
  cases stage with
  | cell there behind plain early =>
      refine .queued rfl ?_ (.inl rfl)
      rw [there]
      rfl
  | queued gone there place => simp [here] at place
  | taken gone behind there => simp [here, WriterPoint.message] at there
  | written ended => simp [here, WriterPoint.Ended] at ended
  | ended ended => simp [here, WriterPoint.Ended] at ended

omit stage in
/-- What is taken from the queue when nobody has asked to close is not a close. -/
theorem plain_popped {queue rest : SessionWriteQueue} (behind : queue.close = none)
    (responses : ∀ message ∈ queue.application, isResponse message = true)
    (popped : queue.Popped message rest) : rest.close = none ∧ isClose message = false := by
  cases popped with
  | close first => rw [behind] at first; cases first
  | pong uncontrolled asked => exact ⟨uncontrolled, rfl⟩
  | ping uncontrolled quiet idle => exact ⟨uncontrolled, rfl⟩
  | application uncontrolled quiet busy first =>
      refine ⟨uncontrolled, ?_⟩
      by_contra close
      have response := responses message (by rw [first]; exact List.mem_cons_self)
      rw [isResponse_of_isClose (Bool.not_eq_false _ ▸ close)] at response
      cases response

theorem Stage.popped {queue : SessionWriteQueue}
    (responses : ∀ message ∈ session.queue.application, isResponse message = true)
    (here : session.writer = .applications) (popped : session.queue.Popped message queue) :
    Stage { session with queue := queue, writer := .gate message } reason ahead ws := by
  cases stage with
  | cell there behind plain early =>
      obtain ⟨behind, plain⟩ := plain_popped behind responses popped
      refine .cell there behind (fun other same => ?_) (.inl ?_)
      · cases same
        exact plain
      · simpa [here] using early
  | queued gone there place =>
      cases popped with
      | close first =>
          rw [there, Option.some.injEq] at first
          exact .taken gone rfl (congrArg some first.symm)
      | pong uncontrolled asked => rw [there] at uncontrolled; cases uncontrolled
      | ping uncontrolled quiet idle => rw [there] at uncontrolled; cases uncontrolled
      | application uncontrolled quiet busy first => rw [there] at uncontrolled; cases uncontrolled
  | taken gone behind there => simp [here, WriterPoint.message] at there
  | written ended => simp [here, WriterPoint.Ended] at ended
  | ended ended => simp [here, WriterPoint.Ended] at ended

omit stage in
/-- What the writer holds when it has looked at the cell is the one message ahead of the
close, and otherwise it is the close itself. -/
theorem Closing.wrote (closing : session.Closing) (here : session.writer = .sending message) :
    Closing { session with
      writer := if isClose message then .returned (.ok ()) else .closeCell
      log := session.log ++ [.written message] } := by
  have held : session.writer.message = some message := by rw [here]; rfl
  cases closing with
  | unasked never gone behind hands plain =>
      have other := hands message held
      refine .unasked ?_ gone behind ?_ ?_
      · rw [List.filterMap_append, never]
        rfl
      · simp [other, WriterPoint.message]
      · intro written member
        rw [writes_append, List.mem_append] at member
        cases member with
        | inl before => exact plain written before
        | inr last =>
            rw [List.mem_singleton.mp last]
            exact other
  | @asked before later reason ahead split never once outside earlier plain stage =>
      have further : session.log ++ [.written message] =
          before ++ .closeRequested reason :: (later ++ [.written message]) := by
        rw [split, List.append_assoc, List.cons_append]
      have still : (later ++ [SessionEvent.written message]).filterMap requestedReason = [] := by
        rw [List.filterMap_append, once]
        rfl
      have longer : writes (later ++ [SessionEvent.written message]) =
          writes later ++ [message] := writes_append _ _
      generalize writes later = ws at stage longer
      cases stage with
      | cell there behind hands early =>
          have first : ahead = none := by simpa [here] using early
          subst first
          have other := hands message held
          have stage : Stage { session with
              writer := if isClose message then .returned (.ok ()) else .closeCell
              log := session.log ++ [.written message] } reason (some message) [message] :=
            .cell there behind (by simp [other, WriterPoint.message]) (.inr (by simp [other]))
          have plain : ∀ written, some message = some written → isClose written = false := by
            rintro written ⟨⟩
            exact other
          exact .asked further never still outside earlier plain (by rw [longer]; exact stage)
      | queued gone there place => simp [here] at place
      | taken gone behind there =>
          rw [held, Option.some.injEq] at there
          subst there
          refine .asked further never still outside earlier plain ?_
          rw [longer]
          exact .written trivial
      | written ended => simp [here, WriterPoint.Ended] at ended
      | ended ended => simp [here, WriterPoint.Ended] at ended

theorem Stage.pass (here : session.writer = .gate message) :
    Stage { session with writer := .sending message } reason ahead ws := by
  cases stage with
  | cell there behind plain early =>
      rw [here] at plain
      exact .cell there behind plain (.inl (by simpa [here] using early))
  | queued gone there place => simp [here] at place
  | taken gone behind there =>
      rw [here] at there
      exact .taken gone behind there
  | written ended => simp [here, WriterPoint.Ended] at ended
  | ended ended => simp [here, WriterPoint.Ended] at ended

/-- The writer leaves its loop. -/
theorem Stage.leave (going : ¬session.writer.Ended) (ended : after.writer.Ended) :
    after.Stage reason ahead ws := by
  cases stage with
  | cell => exact .ended ended
  | queued => exact .ended ended
  | taken => exact .ended ended
  | written gone => exact absurd gone going
  | ended gone => exact absurd gone going

/-- Outside of its loop the writer writes nothing more. -/
theorem Stage.over (ended : after.writer.Ended) : after.Stage reason ahead ws := by
  cases stage with
  | cell => exact .ended ended
  | queued => exact .ended ended
  | taken => exact .ended ended
  | written => exact .written ended
  | ended => exact .ended ended

/-- On its way round the loop without a message the writer passes the request. -/
theorem Stage.round (cell : after.close = session.close)
    (queue : after.queue.close = session.queue.close) (empty : session.writer.message = none)
    (going : ¬session.writer.Ended) (away : session.writer ≠ .closeCell)
    (next : after.writer.message = none)
    (place : session.writer = .controls ∨ session.writer = .applications →
      session.queue.close = none ∨ after.writer = .controls ∨ after.writer = .applications) :
    after.Stage reason ahead ws := by
  cases stage with
  | cell there behind plain early =>
      refine .cell (cell.trans there) (queue.trans behind) ?_ (.inl (early.resolve_right away))
      intro message held
      rw [next] at held
      cases held
  | queued gone there here =>
      refine .queued (cell.trans gone) (queue.trans there) ?_
      refine (place here).resolve_left fun nothing => ?_
      rw [there] at nothing
      cases nothing
  | taken gone behind there =>
      rw [empty] at there
      cases there
  | written ended => exact absurd ended going
  | ended ended => exact absurd ended going

end

/-- A writer with empty hands that goes round its loop keeps a request on its way. -/
theorem Closing.round (closing : session.Closing) (log : after.log = session.log)
    (reader : after.reader = session.reader) (cell : after.close = session.close)
    (queue : after.queue.close = session.queue.close) (empty : session.writer.message = none)
    (going : ¬session.writer.Ended) (away : session.writer ≠ .closeCell)
    (next : after.writer.message = none)
    (place : session.writer = .controls ∨ session.writer = .applications →
      session.queue.close = none ∨ after.writer = .controls ∨ after.writer = .applications) :
    after.Closing := by
  refine closing.advance log reader (fun gone behind _ => ?_) fun _ _ _ stage =>
    stage.round cell queue empty going away next place
  refine ⟨cell.trans gone, queue.trans behind, fun message held => ?_⟩
  rw [next] at held
  cases held

theorem closing_writer (flow : session.Flow) (stopping : session.Stopping)
    (move : session.WriterMove after) : after.Closing := by
  have closing := stopping.closing
  cases move with
  | took here =>
      refine closing.advance rfl rfl (fun gone behind hands => ?_) fun _ _ _ stage =>
        stage.took here
      simp [gone, behind, WriterPoint.message]
  | @closing controls reason here received =>
      refine absurd ?_ (stopping.reserved reason)
      rw [received]
      exact List.mem_cons_self
  | ponging here received =>
      exact closing.round rfl rfl rfl rfl (by rw [here]; rfl) (by simp [here, WriterPoint.Ended])
        (by simp [here]) rfl fun _ => .inr (.inl rfl)
  | looked here =>
      exact closing.round rfl rfl rfl rfl (by rw [here]; rfl) (by simp [here, WriterPoint.Ended])
        (by simp [here]) rfl fun _ => .inr (.inr rfl)
  | queued here received room =>
      rcases here with ⟨here, rfl⟩ | ⟨here, rfl⟩
      · exact closing.round rfl rfl rfl rfl (by rw [here]; rfl) (by simp [here, WriterPoint.Ended])
          (by simp [here]) rfl fun _ => .inr (.inr rfl)
      · exact closing.round rfl rfl rfl rfl (by rw [here]; rfl) (by simp [here, WriterPoint.Ended])
          (by simp [here]) rfl fun place => by simp [here] at place
  | popped here drained popped =>
      have going : ¬session.writer.Ended := by simp [here, WriterPoint.Ended]
      have responses := flow.responses going
      refine closing.advance rfl rfl (fun gone behind _ => ?_) fun _ _ _ stage =>
        stage.popped responses here popped
      obtain ⟨behind, plain⟩ := plain_popped behind responses popped
      refine ⟨gone, behind, fun other same => ?_⟩
      cases same
      exact plain
  | rested here drained unasked empty =>
      exact closing.round rfl rfl rfl rfl (by rw [here]; rfl) (by simp [here, WriterPoint.Ended])
        (by simp [here]) rfl fun _ => .inl unasked
  | elapsed here drained =>
      exact closing.round rfl rfl rfl rfl (by rw [here]; rfl) (by simp [here, WriterPoint.Ended])
        (by simp [here]) rfl fun place => by simp [here] at place
  | passed here =>
      refine closing.advance rfl rfl (fun gone behind hands => ⟨gone, behind, ?_⟩)
        fun _ _ _ stage => stage.pass here
      rw [here] at hands
      exact hands
  | wrote here => exact closing.wrote here
  | ended going why fewer =>
      refine closing.advance rfl rfl (fun gone behind _ => ⟨gone, behind, ?_⟩) fun _ _ _ stage =>
        stage.leave going trivial
      simp [WriterPoint.message]
  | outside going still same =>
      refine closing.advance rfl rfl (fun gone behind _ => ⟨gone, behind, ?_⟩) fun _ _ _ stage =>
        stage.over still
      simp [WriterPoint.message_of_ended still]

/-- A close in the hands of the writer was asked for. -/
theorem Closing.outside_of_taken (closing : session.Closing)
    (held : session.writer.message = some message) (close : isClose message = true) :
    ¬session.reader.InLoop := by
  cases closing with
  | unasked never gone behind hands plain =>
      rw [hands message held] at close
      cases close
  | asked split never once outside earlier plain stage => exact outside

theorem stopping_writer (flow : session.Flow) (stopping : session.Stopping)
    (move : session.WriterMove after) : after.Stopping := by
  have closing := closing_writer flow stopping move
  cases move with
  | took here => exact { stopping with succeeded := fun done => done.elim, closing := closing }
  | closing here received =>
      refine { reserved := fun reason member => ?_, told := fun stop => ?_,
               succeeded := fun done => done.elim, closing := closing }
      · exact stopping.reserved reason (received ▸ List.mem_cons_of_mem _ member)
      · exact stopping.told (received ▸ List.mem_cons_of_mem _ stop)
  | ponging here received =>
      refine { reserved := fun reason member => ?_, told := fun stop => ?_,
               succeeded := fun done => done.elim, closing := closing }
      · exact stopping.reserved reason (received ▸ List.mem_cons_of_mem _ member)
      · exact stopping.told (received ▸ List.mem_cons_of_mem _ stop)
  | looked here => exact { stopping with succeeded := fun done => done.elim, closing := closing }
  | queued here received room =>
      refine { stopping with succeeded := fun done => ?_, closing := closing }
      rcases here with ⟨-, rfl⟩ | ⟨-, rfl⟩ <;> exact done.elim
  | popped here drained popped =>
      exact { stopping with succeeded := fun done => done.elim, closing := closing }
  | rested here drained unasked empty =>
      exact { stopping with succeeded := fun done => done.elim, closing := closing }
  | elapsed here drained =>
      exact { stopping with succeeded := fun done => done.elim, closing := closing }
  | passed here => exact { stopping with succeeded := fun done => done.elim, closing := closing }
  | @wrote message here =>
      refine { stopping with succeeded := fun done => ?_, closing := closing }
      have held : session.writer.message = some message := by rw [here]; rfl
      cases close : isClose message with
      | true => exact stopping.closing.outside_of_taken held close
      | false =>
          rw [close] at done
          exact done.elim
  | @ended applications controls result going why fewer =>
      refine { reserved := fun reason member => stopping.reserved reason (fewer member)
               told := fun stop => stopping.told (fewer stop)
               succeeded := fun done => ?_
               closing := closing }
      have succeeded : result = .ok () := by
        cases result with
        | ok => rfl
        | error error => exact done.elim
      rcases why succeeded with stop | ⟨last, finished⟩
      · exact stopping.told stop
      · simp [finished, ReaderPoint.InLoop]
  | outside going still same =>
      exact { stopping with
        succeeded := fun done => stopping.succeeded (same done), closing := closing }

end Steps

/-! ## Every reachable session -/

theorem ordered_of_reachable {session : Session} (reachable : machine.Reachable session) :
    session.Flow ∧ session.Stopping := by
  refine reachable.invariant (P := fun session => session.Flow ∧ session.Stopping) ?_ ?_
  · rintro session ⟨generation, result, rfl⟩
    exact ⟨flow_start generation result, stopping_start generation result⟩
  · rintro session label after ⟨flow, stopping⟩ moved
    cases label with
    | reader answers =>
        have move := readerStep_move moved
        exact ⟨flow_reader flow move, stopping_reader stopping move⟩
    | writer answers =>
        have move := writerStep_move moved
        exact ⟨flow_writer flow move, stopping_writer flow stopping move⟩

end Session

end Deskkin.Host
