/-
# What the peer sees of a session

The responses arrive in the order of their requests and each at most once, a close comes
after at most one more message and is the last one, and a response is left out only when
the session ends. Two things are not so: a response that was queued when the close was
asked for can still be ahead of it, and a peer that keeps asking for pongs can put its
response off for ever.
-/

import Deskkin.Host.WriterProgress
import Mathlib.Data.List.Nodup

namespace Deskkin.Host

open Protocol Simulator

namespace Session

open SessionEvent

/-- What holds of the stream and of the queue at any time. -/
structure Ordered (session : Session) : Prop where
  inOrder : (writes session.log).filterMap responseId <+: session.acceptedIds
  once : session.acceptedIds.Nodup
  unchanged : session.responsesWritten <+: session.enqueued
  answered : session.enqueued.map responseId <+: session.acceptedIds.map some
  bounded : session.queue.application.length ≤ 8
  lossless : ¬session.writer.Ended → session.enqueued = session.responsesWritten ++ session.held
  uncalled : session.log.filterMap requestedReason = [] →
    ∀ message ∈ writes session.log, isClose message = false
  closed : ∀ before reason after, session.log = before ++ .closeRequested reason :: after →
    (∀ message ∈ writes before, isClose message = false) ∧
    ∃ ahead : Option Message, (∀ message, ahead = some message → isClose message = false) ∧
      writes after <+: ahead.toList ++ [.close reason]
  stopped : session.writer.Succeeded → ¬session.reader.InLoop

theorem filterMap_responseId (messages : List Message) :
    messages.filterMap responseId = ((messages.filter isResponse).map responseId).filterMap id := by
  induction messages with
  | nil => rfl
  | cons message rest ih =>
      cases message with
      | availabilityResult requestId operation result =>
          simp only [List.filterMap_cons, List.filter_cons, isResponse, responseId, ih]
          rfl
      | _ => exact ih

theorem Flow.inOrder {session : Session} (flow : session.Flow) :
    (writes session.log).filterMap responseId <+: session.acceptedIds := by
  rw [filterMap_responseId]
  have listed := ((flow.fifo.map responseId).trans flow.answered).filterMap id
  rwa [List.filterMap_map (f := some), Function.id_comp, List.filterMap_some] at listed

/-- A log with one request to close is split by it in one way. -/
theorem split_eq {before after first second : List SessionEvent} {reason other : CloseReason}
    (same : before ++ SessionEvent.closeRequested reason :: after =
      first ++ .closeRequested other :: second)
    (never : before.filterMap requestedReason = []) (once : after.filterMap requestedReason = []) :
    first = before ∧ other = reason ∧ second = after := by
  have absent : ∀ events : List SessionEvent, events.filterMap requestedReason = [] →
      SessionEvent.closeRequested other ∉ events := by
    intro events none member
    have unnamed := List.filterMap_eq_nil_iff.mp none _ member
    cases unnamed
  obtain ⟨front, middle, rear⟩ :=
    (List.append_cons_inj_of_notMem (absent before never) (absent after once)).mp same
  exact ⟨front.symm, (SessionEvent.closeRequested.inj middle).symm, rear.symm⟩

theorem Stage.prefix_close {session : Session} {reason : CloseReason} {ahead : Option Message}
    {ws : List Message} (stage : session.Stage reason ahead ws) :
    ws <+: ahead.toList ++ [.close reason] := by
  cases stage with
  | written => exact List.prefix_refl _
  | _ => exact List.prefix_append _ _

/-- The invariants of the two threads, in terms of the stream. -/
theorem Flow.ordered {session : Session} (flow : session.Flow) (stopping : session.Stopping) :
    session.Ordered where
  inOrder := flow.inOrder
  once := by
    have numbers := List.nodup_range' (s := 1) (n := session.lastRequestId.toNat)
    rw [← flow.numbered] at numbers
    exact List.Nodup.of_map _ numbers
  unchanged := flow.fifo
  answered := flow.answered
  bounded := flow.bounded
  lossless := flow.kept
  uncalled never := by
    cases stopping.closing with
    | unasked _ gone behind hands plain => exact plain
    | asked split _ once outside earlier plain stage =>
        rw [split, List.filterMap_append] at never
        cases List.append_eq_nil_iff.mp never with
        | intro _ impossible => cases impossible
  closed before reason after split := by
    cases stopping.closing with
    | unasked never gone behind hands plain =>
        rw [split, List.filterMap_append] at never
        cases List.append_eq_nil_iff.mp never with
        | intro _ impossible => cases impossible
    | asked there never once outside earlier plain stage =>
        obtain ⟨rfl, rfl, rfl⟩ := split_eq (there.symm.trans split) never once
        exact ⟨earlier, _, plain, stage.prefix_close⟩
  stopped := stopping.succeeded

/-- A writer that has not left its loop can always go on. -/
theorem writerStep_isSome {session : Session} (going : ¬session.writer.Ended) (answers : Answers) :
    (session.writerStep answers).isSome := by
  unfold writerStep
  split
  · rfl
  · split <;> rfl
  · split
    · rfl
    · split <;> rfl
  · split
    · rfl
    · split <;> rfl
  · split <;> rfl
  · split <;> rfl
  all_goals
    rename_i here
    rw [here] at going
    exact absurd trivial going

/-- **The writes of a session.** In every session that an interleaving of the two threads
reaches, what is written is in order; and the writer, which can always go on until it
leaves its loop, leaves a response unwritten only for a bounded number of its steps, to
which each pong that is asked for meanwhile adds six. -/
theorem order_of_writes {session : Session} (reachable : machine.Reachable session) :
    session.Ordered ∧
    (¬session.writer.Ended → ∀ answers, (session.step (.writer answers)).isSome) ∧
    ∀ labels later index, machine.execute session labels = some later →
      index < session.enqueued.length → ¬later.writer.Ended →
      later.responsesWritten.length ≤ index →
      labels.countP SessionLabel.isWriter + 6 * pongs session.log ≤
        patience + 6 * pongs later.log := by
  obtain ⟨flow, stopping⟩ := ordered_of_reachable reachable
  refine ⟨flow.ordered stopping, writerStep_isSome, ?_⟩
  intro labels later index run sent going unwritten
  have longer := ((onward_execute run).1.filterMap enqueuedResponse).length_le
  have awaited : later.Awaited index := ⟨going, sent.trans_le longer, unwritten⟩
  have waited := wait_execute reachable sent awaited run
  have most := wait_le flow (awaited.before sent run)
  omega

/-! ## A close behind a response, and a response behind pongs -/

/-- A peer that sends this message to a host that is still paired with it. -/
def peerSends (message : Message) : Answers := ⟨.ok message, some 1, false, .ok ()⟩

/-- The reader takes a message and then looks at the failure of the writer. -/
def reads (message : Message) : List SessionLabel :=
  [.reader (peerSends message), .reader (peerSends message)]

def writerSteps (count : ℕ) : List SessionLabel :=
  List.replicate count (.writer (peerSends .pong))

def request : Message := .readAvailability 1 (Vector.replicate 16 0)

def response : Message := .availabilityResult 1 (Vector.replicate 16 0) .available

theorem order_of_writes_answered :
    ∃ session, machine.execute (start 1 .available) (reads request ++ writerSteps 6) =
      some session ∧ session.responsesWritten = [response] ∧ session.Ordered := by
  refine ⟨_, rfl, by decide, ?_⟩
  have reachable := StepSystem.reachable_of_execute (T := machine)
    ⟨1, .available, rfl⟩ (reads request ++ writerSteps 6) rfl
  exact (order_of_writes reachable).1

/-- The request has been answered. -/
def served (log : List SessionEvent) : Session :=
  { start 1 .available with
    lastRequestId := 1
    capabilities := ⟨.ready, .available, 1⟩
    log := log }

/-- The response is in the queue, and the writer is at the start of a round. -/
def overtaken (log : List SessionEvent) : Session :=
  { served log with queue := { SessionWriteQueue.new with application := [response] } }

/-- The response is in the queue, the writer is past the cell, and the peer asks to close. -/
def tooLate : Session :=
  { overtaken [.accepted 1, .enqueued response, .closeRequested .normal] with
    reader := .joining
    close := some .normal
    writer := .applications }

/-- Both are written, and the writer is out of its loop. -/
def settled : Session :=
  { served [.accepted 1, .enqueued response, .closeRequested .normal, .written response,
      .written (.close .normal)] with
    reader := .joining
    writer := .returned (.ok ()) }

/-- The peer asks for a pong, and the writer goes round its loop with it. -/
def pongRound : List SessionLabel := reads .ping ++ writerSteps 6

theorem execute_pongRound (log : List SessionEvent) (rest : List SessionLabel) :
    machine.execute (overtaken log) (pongRound ++ rest) =
      machine.execute (overtaken (log ++ [.pongRequested] ++ [.written .pong])) rest := rfl

/-- As many rounds as one likes pass without the response. -/
theorem overtaken_again (rounds : ℕ) (log : List SessionEvent) :
    ∃ labels later, machine.execute (overtaken log) labels = some (overtaken later) ∧
      rounds ≤ labels.countP SessionLabel.isWriter ∧
      (writes later).filter isResponse = (writes log).filter isResponse := by
  induction rounds generalizing log with
  | zero => exact ⟨[], log, rfl, Nat.zero_le _, rfl⟩
  | succ rounds ih =>
      obtain ⟨labels, later, run, enough, same⟩ := ih (log ++ [.pongRequested] ++ [.written .pong])
      refine ⟨pongRound ++ labels, later, (execute_pongRound log labels).trans run, ?_, ?_⟩
      · have six : pongRound.countP SessionLabel.isWriter = 6 := by decide
        rw [List.countP_append, six]
        omega
      · rw [same, writes_append, writes_append, List.filter_append, List.filter_append]
        simp [writes, writtenMessage, isResponse, responseId]

/-- A response that is in the queue when the close is asked for is written ahead of it; and
with a pong asked for on every round, a response stays in the queue of a session that does
not end. -/
theorem close_behind_response :
    (∃ asked session labels, machine.Reachable asked ∧
      asked.log.getLast? = some (.closeRequested .normal) ∧
      asked.queue.application = [response] ∧ writes asked.log = [] ∧
      machine.execute asked labels = some session ∧
      writes session.log = [response, .close .normal]) ∧
    ∃ asked, machine.Reachable asked ∧ asked.enqueued = [response] ∧
      ∀ steps, ∃ labels session, machine.execute asked labels = some session ∧
        steps ≤ labels.countP SessionLabel.isWriter ∧ ¬session.writer.Ended ∧
        session.reader.InLoop ∧ session.responsesWritten = [] := by
  constructor
  · exact ⟨tooLate, settled, writerSteps 8, StepSystem.reachable_of_execute (T := machine)
      ⟨1, .available, rfl⟩ (reads request ++ writerSteps 3 ++
        [.reader (peerSends (.close .normal))]) rfl, rfl, rfl, rfl, rfl, rfl⟩
  · refine ⟨overtaken [.accepted 1, .enqueued response, .pongRequested, .written .pong],
      StepSystem.reachable_of_execute (T := machine) ⟨1, .available, rfl⟩
        (reads request ++ reads .ping ++ writerSteps 7) rfl, rfl, fun steps => ?_⟩
    obtain ⟨labels, later, run, enough, same⟩ := overtaken_again steps
      [.accepted 1, .enqueued response, .pongRequested, .written .pong]
    refine ⟨labels, overtaken later, run, enough, id, .inl rfl, ?_⟩
    rw [responsesWritten]
    exact same

end Session

end Deskkin.Host
