/-
# How long a response waits

A writer that has not left its loop always has a step, and each of its steps brings a
response that was enqueued closer to the stream. Only a pong that is asked for meanwhile
sets it back, by a fixed number of steps. A response is therefore written after a bounded
number of steps for each pong, unless the writer leaves its loop.
-/

import Deskkin.Host.WriterClose

namespace Deskkin.Host

open Protocol Simulator

instance (point : ReaderPoint) : Decidable point.InLoop := by
  unfold ReaderPoint.InLoop
  infer_instance

/-- The steps that the writer has left before it looks at its queue again. -/
def WriterPoint.phase : WriterPoint → ℕ
  | .gate _ => 7
  | .sending _ | .waiting => 6
  | .closeCell => 5
  | .controls => 4
  | .applications => 3
  | .returned _ | .reported _ | .exited _ => 0

namespace Session

open SessionEvent

/-- The pongs asked for in a log. -/
def pongs (log : List SessionEvent) : ℕ := log.countP (· = .pongRequested)

/-- The pongs in the control channel. -/
def pendingControls (session : Session) : ℕ := session.controls.messages.countP (· ≠ .stop)

/-- The closes that are on their way or can still be asked for. -/
def pendingCloses (session : Session) : ℕ :=
  (decide session.reader.InLoop).toNat + session.close.isSome.toNat +
    session.queue.close.isSome.toNat

/-- The messages that can still be written up to a response, which is named by its number
among those enqueued. -/
def turns (session : Session) (index : ℕ) : ℕ :=
  (index + 1 + session.queue.application.length + session.applications.messages.length -
    session.enqueued.length) +
  session.queue.pong.toNat + session.queue.ping.toNat + session.pendingControls +
  session.pendingCloses

/-- The steps of the writer that can still pass until the response is written, if no
further pong is asked for. -/
def wait (session : Session) (index : ℕ) : ℕ :=
  5 * session.turns index + session.pendingControls + session.applications.messages.length +
    (16 - (session.enqueued.length - (index + 1))) + session.writer.phase

/-- The response is enqueued, it is not on the stream, and the writer goes on. -/
structure Awaited (session : Session) (index : ℕ) : Prop where
  going : ¬session.writer.Ended
  sent : index < session.enqueued.length
  unwritten : session.responsesWritten.length ≤ index

section Steps

variable {session after : Session} {index : ℕ}

/-- Between the stream and the reader are the queue, the channel and one message. -/
theorem Flow.lengths (flow : session.Flow) (going : ¬session.writer.Ended) :
    session.enqueued.length = session.responsesWritten.length +
      (session.writer.message.toList.filter isResponse).length +
      session.queue.application.length + session.applications.messages.length := by
  rw [flow.kept going, held]
  simp only [List.length_append]
  omega

theorem hand_le (session : Session) :
    (session.writer.message.toList.filter isResponse).length ≤ 1 := by
  refine (List.length_filter_le _ _).trans ?_
  cases session.writer.message <;> simp

/-- A writer with empty hands has a response of the queue or of the channel to wait for. -/
theorem Awaited.ahead (awaited : session.Awaited index) (flow : session.Flow)
    (empty : session.writer.message = none) :
    session.enqueued.length < index + 1 + session.queue.application.length +
      session.applications.messages.length := by
  have lengths := flow.lengths awaited.going
  rw [empty] at lengths
  have unwritten := awaited.unwritten
  simp only [Option.toList_none, List.filter_nil, List.length_nil] at lengths
  omega

theorem Awaited.waited (awaited : session.Awaited index) (flow : session.Flow)
    (empty : session.writer.message = none) (idle : session.queue.application = [])
    (drained : session.applications.messages = []) : False := by
  have ahead := awaited.ahead flow empty
  have sent := awaited.sent
  rw [idle, drained] at ahead
  simp only [List.length_nil] at ahead
  omega

theorem wait_writer (flow : session.Flow) (awaited : session.Awaited index)
    (later : after.Awaited index) (move : session.WriterMove after) :
    after.wait index + 1 ≤ session.wait index := by
  cases move with
  | took here =>
      simp only [wait, turns, pendingControls, pendingCloses, enqueued, here, WriterPoint.phase]
      cases session.close with
      | none =>
          simp only [Option.elim_none, Option.isSome_none, Bool.toNat_false]
          omega
      | some reason =>
          have most := Bool.toNat_le session.queue.close.isSome
          simp only [Option.elim_some, SessionWriteQueue.enqueueClose, Option.isSome_none,
            Option.isSome_some, Bool.toNat_false, Bool.toNat_true]
          omega
  | closing here received =>
      simp only [wait, turns, pendingControls, pendingCloses, enqueued, here, WriterPoint.phase,
        received, SessionWriteQueue.enqueueClose]
      simp
      omega
  | ponging here received =>
      simp only [wait, turns, pendingControls, pendingCloses, enqueued, here, WriterPoint.phase,
        received, SessionWriteQueue.enqueuePong]
      simp
      omega
  | looked here =>
      simp only [wait, turns, pendingControls, pendingCloses, enqueued, here, WriterPoint.phase]
      omega
  | queued here received room =>
      simp only [wait, turns, pendingControls, pendingCloses, enqueued, received,
        List.length_append, List.length_cons, List.length_nil]
      rcases here with ⟨here, rfl⟩ | ⟨here, rfl⟩
      · rw [here]
        omega
      · simp only [here, WriterPoint.phase]
        omega
  | popped here drained popped =>
      have ahead := awaited.ahead flow (by rw [here]; rfl)
      simp only [wait, turns, pendingControls, pendingCloses, enqueued, here,
        WriterPoint.phase] at ahead ⊢
      cases popped with
      | close first =>
          simp only [first, Option.isSome_none, Option.isSome_some, Bool.toNat_false,
            Bool.toNat_true]
          omega
      | pong uncontrolled asked =>
          simp only [asked, Bool.toNat_false, Bool.toNat_true]
          omega
      | ping uncontrolled quiet idle =>
          simp only [idle, Bool.toNat_false, Bool.toNat_true]
          omega
      | application uncontrolled quiet busy first =>
          simp only [first, List.length_cons] at ahead ⊢
          omega
  | rested here drained unasked empty =>
      exact (awaited.waited flow (by rw [here]; rfl) empty drained).elim
  | elapsed here drained =>
      exact (awaited.waited flow (by rw [here]; rfl) (flow.resting here) drained).elim
  | passed here =>
      simp only [wait, turns, pendingControls, pendingCloses, enqueued, here, WriterPoint.phase]
      omega
  | @wrote message here =>
      have plain := plain_of_going later.going
      have same : (session.log ++ [SessionEvent.written message]).filterMap enqueuedResponse =
          session.log.filterMap enqueuedResponse := List.filterMap_concat_of_none rfl _
      simp only [wait, turns, pendingControls, pendingCloses, enqueued, here, same, plain,
        WriterPoint.phase]
      simp only [Bool.false_eq_true, if_false]
      omega
  | ended going why fewer => exact absurd trivial later.going
  | outside going still same => exact absurd going awaited.going

theorem inLoop_le {first second : ReaderPoint} (outward : first.InLoop → second.InLoop) :
    (decide first.InLoop).toNat ≤ (decide second.InLoop).toNat :=
  Bool.toNat_le_toNat (Bool.le_iff_imp.mpr (by simpa using outward))

@[simp]
theorem pongs_append (first second : List SessionEvent) :
    pongs (first ++ second) = pongs first + pongs second :=
  List.countP_append

/-- Behind a response there is room for sixteen others at the most. -/
theorem Awaited.behind (awaited : session.Awaited index) (flow : session.Flow)
    (room : session.applications.messages.length < 8) :
    session.enqueued.length - (index + 1) < 16 := by
  have lengths := flow.lengths awaited.going
  have hand := session.hand_le
  have bounded := flow.bounded
  have unwritten := awaited.unwritten
  omega

theorem wait_reader (flow : session.Flow) (awaited : session.Awaited index)
    (move : session.ReaderMove after) :
    after.wait index + 6 * pongs session.log ≤ session.wait index + 6 * pongs after.log := by
  cases move with
  | turned outward joined =>
      have less := inLoop_le outward
      simp only [wait, turns, pendingControls, pendingCloses, enqueued]
      omega
  | @refused requestId capabilities error reading next =>
      have less : (decide (ReaderPoint.failed error).InLoop).toNat ≤ _ :=
        inLoop_le fun _ => Or.inl reading
      have same : (session.log ++ [SessionEvent.accepted requestId]).filterMap enqueuedResponse =
          session.log.filterMap enqueuedResponse := List.filterMap_concat_of_none rfl _
      simp only [wait, turns, pendingControls, pendingCloses, enqueued, same, pongs_append]
      omega
  | @answered requestId capabilities operation result applications reading next connected sent =>
      have less : (decide ReaderPoint.processed.InLoop).toNat ≤ _ :=
        inLoop_le fun _ => Or.inl reading
      have room := applications.bounded
      rw [sent, List.length_append, List.length_singleton] at room
      have behind := awaited.behind flow room
      have more : ((session.log ++ [SessionEvent.accepted requestId,
          .enqueued (.availabilityResult requestId operation result)]).filterMap
          enqueuedResponse).length = session.enqueued.length + 1 := by
        rw [List.filterMap_append, List.length_append]
        rfl
      have there := awaited.sent
      simp only [wait, turns, pendingControls, pendingCloses, enqueued, pongs_append, sent,
        List.length_append, List.length_singleton] at more behind there ⊢
      omega
  | ponged reading sent =>
      have less : (decide ReaderPoint.processed.InLoop).toNat ≤ _ :=
        inLoop_le fun _ => Or.inl reading
      have same : (session.log ++ [SessionEvent.pongRequested]).filterMap enqueuedResponse =
          session.log.filterMap enqueuedResponse := List.filterMap_concat_of_none rfl _
      have one : pongs [SessionEvent.pongRequested] = 1 := rfl
      simp only [wait, turns, pendingControls, pendingCloses, enqueued, same, pongs_append, sent,
        one, List.countP_append]
      simp
      omega
  | @closed reason reading =>
      have inside : decide session.reader.InLoop = true := decide_eq_true (Or.inl reading)
      have outside : decide ReaderPoint.joining.InLoop = false := rfl
      have same : (session.log ++ [SessionEvent.closeRequested reason]).filterMap enqueuedResponse =
          session.log.filterMap enqueuedResponse := List.filterMap_concat_of_none rfl _
      simp only [wait, turns, pendingControls, pendingCloses, enqueued, same, pongs_append,
        inside, outside, Option.isSome_some, Bool.toNat_true, Bool.toNat_false]
      omega
  | @told controls error failed sent =>
      have less : (decide (ReaderPoint.stopped error).InLoop).toNat ≤
          (decide session.reader.InLoop).toNat :=
        inLoop_le fun inside => by simp [ReaderPoint.InLoop] at inside
      simp only [wait, turns, pendingControls, pendingCloses, enqueued, sent, List.countP_append]
      simp
      omega

/-! ## Whole runs -/

theorem prefix_reader (move : session.ReaderMove after) : session.log <+: after.log := by
  cases move <;> first | exact List.prefix_refl _ | exact List.prefix_append _ _

theorem prefix_writer (move : session.WriterMove after) : session.log <+: after.log := by
  cases move <;> first | exact List.prefix_refl _ | exact List.prefix_append _ _

theorem writer_reader (move : session.ReaderMove after) : after.writer = session.writer := by
  cases move <;> rfl

theorem ended_writer (move : session.WriterMove after) (ended : session.writer.Ended) :
    after.writer.Ended := by
  cases move
  case ended => exact trivial
  case outside going still same => exact still
  case queued here received room =>
    rcases here with ⟨here, -⟩ | ⟨here, -⟩ <;> simp [here, WriterPoint.Ended] at ended
  all_goals simp [*, WriterPoint.Ended] at ended

end Steps

/-- The log only grows, and the writer does not come back into its loop. -/
theorem onward {session after : Session} {label : SessionLabel}
    (moved : session.step label = some after) :
    session.log <+: after.log ∧ (session.writer.Ended → after.writer.Ended) := by
  cases label with
  | reader answers =>
      have move := readerStep_move moved
      exact ⟨prefix_reader move, fun ended => by rw [writer_reader move]; exact ended⟩
  | writer answers =>
      have move := writerStep_move moved
      exact ⟨prefix_writer move, ended_writer move⟩

theorem onward_execute {session later : Session} {labels : List SessionLabel}
    (run : machine.execute session labels = some later) :
    session.log <+: later.log ∧ (session.writer.Ended → later.writer.Ended) := by
  induction labels generalizing session with
  | nil =>
      cases run
      exact ⟨List.prefix_refl _, id⟩
  | cons label rest ih =>
      obtain ⟨middle, moved, remaining⟩ := Option.bind_eq_some_iff.mp run
      have first := onward moved
      have others := ih remaining
      exact ⟨first.1.trans others.1, fun ended => others.2 (first.2 ended)⟩

end Session

def SessionLabel.isWriter : SessionLabel → Bool
  | .writer _ => true
  | .reader _ => false

namespace Session

open SessionEvent

/-- A response that is awaited after some steps was awaited before each of them, once it was
enqueued. -/
theorem Awaited.before {session later : Session} {index : ℕ} {labels : List SessionLabel}
    (awaited : later.Awaited index) (sent : index < session.enqueued.length)
    (run : machine.execute session labels = some later) : session.Awaited index := by
  obtain ⟨longer, ended⟩ := onward_execute run
  refine ⟨fun gone => awaited.going (ended gone), sent, ?_⟩
  have fewer := ((longer.filterMap writtenMessage).filter isResponse).length_le
  exact fewer.trans awaited.unwritten

/-- One step costs the wait one step of the writer, and gains six for a pong. -/
theorem wait_step {session after : Session} {label : SessionLabel} {index : ℕ}
    (reachable : machine.Reachable session) (awaited : session.Awaited index)
    (later : after.Awaited index) (moved : session.step label = some after) :
    after.wait index + label.isWriter.toNat + 6 * pongs session.log ≤
      session.wait index + 6 * pongs after.log := by
  have flow := (ordered_of_reachable reachable).1
  cases label with
  | reader answers => exact wait_reader flow awaited (readerStep_move moved)
  | writer answers =>
      have move := writerStep_move moved
      have less := wait_writer flow awaited later move
      have more : pongs session.log ≤ pongs after.log := (prefix_writer move).sublist.countP_le
      simp only [SessionLabel.isWriter, Bool.toNat_true]
      omega

/-- **Waiting.** As long as a response is awaited, the steps of the writer are paid for by
the wait at their beginning and by the pongs asked for in between. -/
theorem wait_execute {session later : Session} {labels : List SessionLabel} {index : ℕ}
    (reachable : machine.Reachable session) (sent : index < session.enqueued.length)
    (awaited : later.Awaited index) (run : machine.execute session labels = some later) :
    later.wait index + labels.countP SessionLabel.isWriter + 6 * pongs session.log ≤
      session.wait index + 6 * pongs later.log := by
  induction labels generalizing session with
  | nil =>
      cases run
      simp
  | cons label rest ih =>
      have here := awaited.before sent run
      obtain ⟨middle, moved, remaining⟩ := Option.bind_eq_some_iff.mp run
      have still : index < middle.enqueued.length :=
        sent.trans_le ((onward moved).1.filterMap enqueuedResponse).length_le
      have onward := ih (reachable.next moved) still remaining
      have first := wait_step reachable here (awaited.before still remaining) moved
      rw [List.countP_cons]
      cases label with
      | reader answers =>
          simp only [SessionLabel.isWriter, Bool.toNat_false, Bool.false_eq_true, if_false]
            at first ⊢
          omega
      | writer answers =>
          simp only [SessionLabel.isWriter, Bool.toNat_true, if_true] at first ⊢
          omega

/-- The longest wait there is. -/
def patience : ℕ := 142

theorem wait_le {session : Session} {index : ℕ} (flow : session.Flow)
    (awaited : session.Awaited index) : session.wait index ≤ patience := by
  have lengths := flow.lengths awaited.going
  have bounded := flow.bounded
  have room := session.applications.bounded
  have controls : session.pendingControls ≤ 1 :=
    List.countP_le_length.trans session.controls.bounded
  have pong := Bool.toNat_le session.queue.pong
  have ping := Bool.toNat_le session.queue.ping
  have inside := Bool.toNat_le (decide session.reader.InLoop)
  have cell := Bool.toNat_le session.close.isSome
  have close := Bool.toNat_le session.queue.close.isSome
  have phase : session.writer.phase ≤ 7 := by cases session.writer <;> simp [WriterPoint.phase]
  have sent := awaited.sent
  simp only [wait, turns, pendingCloses, patience]
  omega

end Session

end Deskkin.Host
