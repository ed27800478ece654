/-
# Every control frame gets its own answer

The control thread gives up after five seconds and goes on, while the worker still has
the frame and answers it later. What keeps the answers apart is the id of a frame, which
the script draws anew for each one. As long as no id comes twice, a frame is handled
once at most, its answer is the one that the worker gave to this frame or the error of
the control thread, and the queue of the frame is empty when it is put there.

The queues between the two threads hold four frames, one shutdown and eight completions,
and far less is needed. The control thread gives up where it has waited on an empty queue,
or after it has passed over a completion; then it leaves one frame behind at most, and
never more than two completions are under way, so that none is lost.
-/

import Deskkin.Device.ControlMoves
import Deskkin.Lib.LateAnswers

namespace Deskkin.Device.ControlLink

open BigEndian

variable {link next : ControlLink} {label : LinkLabel} {frame : BoundedFrame}

/-! ## Where the frames are -/

/-- The frame that is about to be put into a queue. -/
def pending : ControlPhase → List BoundedFrame
  | .submitting frame => [frame]
  | _ => []

/-- The frame that the control thread has to do with. -/
def current : ControlPhase → Option BoundedFrame
  | .submitting frame | .waiting frame _ => some frame
  | _ => none

/-- The frames that were handled or will be, as far as they were not taken back. -/
def active (link : ControlLink) : List BoundedFrame :=
  link.handled.map Prod.fst ++ (link.command.toList ++ (link.reservedControl.messages ++
    (link.applicationCommands.messages ++ pending link.phase)))

/-- No two frames have one id. -/
def Distinct (link : ControlLink) : Prop := (link.received.map BoundedFrame.commandId).Nodup

/-- What was written in answer to a frame: an answer without the worker, the error of
the control thread, or the answer that the worker gave to this very frame. -/
inductive Response (link : ControlLink) (frame : BoundedFrame) : List UInt8 → Prop
  | own (bytes : List UInt8) (answer : OwnAnswer frame bytes) : Response link frame bytes
  | closed (acts : frame.observes = false) : Response link frame (closedError frame 8)
  | worker (status : ServiceStatus) (rest : List UInt8) (handled : (frame, status) ∈ link.handled)
      (decodes : (decoded frame).isSome) :
      Response link frame (answerHeader status.code frame.commandId ++ rest)

structure Tracked (link : ControlLink) : Prop where
  distinct : link.active.Nodup
  known : ∀ frame ∈ link.active, frame ∈ link.received ∧ frame.observes = false
  current : ∀ frame, current link.phase = some frame →
    frame ∈ link.received ∧ frame.observes = false
  reserved : ∀ frame ∈ link.reservedControl.messages, frame.isReserved = true
  application : ∀ frame ∈ link.applicationCommands.messages, frame.isReserved = false
  completions : ∀ completion ∈ link.workerCompletions.messages, ∃ status,
    (completion.question, status) ∈ link.handled ∧
      WorkerAnswer completion.question status completion.bytes
  truthful : ∀ entry ∈ link.written, link.Response entry.1 entry.2

theorem tracked_started : started.Tracked := by
  constructor <;> simp [started, active, pending, ControlLink.current]

/-- Ids that are distinct have been distinct. -/
theorem Distinct.before (distinct : next.Distinct) (grown : link.received <+: next.received) :
    link.Distinct :=
  List.Nodup.sublist (grown.sublist.map _) distinct

theorem Move.received (move : link.Move label next) : link.received <+: next.received := by
  cases move <;> first | exact List.prefix_rfl | exact List.prefix_append _ _

theorem Move.handled (move : link.Move label next) : link.handled <+: next.handled := by
  cases move <;> first | exact List.prefix_rfl | exact List.prefix_append _ _

/-- No frame comes to be active but the one that was just read. -/
theorem Move.active (move : link.Move label next) :
    next.active.Subperm link.active ∨ ∃ frame, next.active = link.active ++ [frame] ∧
      next.received = link.received ++ [frame] ∧ frame.observes = false := by
  cases move with
  | answered frame bytes phase reading answer on =>
      refine Or.inl (List.Perm.subperm (.of_eq ?_))
      rcases on with rfl | rfl <;> simp only [ControlLink.active, reading, pending]
  | unanswered frame reading malformed => exact Or.inl (List.Subperm.refl _)
  | forwarded frame reading acts =>
      refine Or.inr ⟨frame, ?_, rfl, acts⟩
      simp only [ControlLink.active, reading, pending, List.append_nil, List.append_assoc]
  | watched watching =>
      refine Or.inl (List.Perm.subperm (.of_eq ?_))
      simp only [ControlLink.active, watching, pending]
  | reservedPut frame queue submitting reserved put =>
      refine Or.inl (List.Perm.subperm ?_)
      simp only [ControlLink.active, submitting, pending, put, List.append_nil, List.append_assoc]
      refine .append_left _ (.append_left _ (.append_left _ ?_))
      exact List.perm_append_comm
  | applicationPut frame queue submitting application put =>
      refine Or.inl (List.Perm.subperm (.of_eq ?_))
      simp only [ControlLink.active, submitting, pending, put, List.append_nil]
  | refused frame submitting full =>
      refine Or.inl (List.Sublist.subperm ?_)
      simp only [ControlLink.active, respond, submitting, pending, List.append_nil]
      refine .append (.refl _) (.append (.refl _) (.append (.refl _) ?_))
      exact List.sublist_append_left _ _
  | accepted frame skipped completion rest waiting next answer =>
      refine Or.inl (List.Perm.subperm (.of_eq ?_))
      simp only [ControlLink.active, respond, waiting, pending]
  | passed frame skipped completion rest waiting next other =>
      refine Or.inl (List.Perm.subperm (.of_eq ?_))
      simp only [ControlLink.active, waiting, pending]
  | expired frame skipped reserved application waiting late purged =>
      refine Or.inl (List.Sublist.subperm ?_)
      simp only [ControlLink.active, respond, waiting, pending, List.append_nil]
      refine .append (.refl _) (.append (.refl _) ?_)
      rcases purged with ⟨-, purged, rfl⟩ | ⟨-, rfl, purged⟩
      · rw [purged]
        exact List.sublist_append_right _ _
      · rw [purged, List.append_nil]
        exact List.sublist_append_left _ _
  | reservedTaken frame rest worker free first =>
      refine Or.inl (List.Perm.subperm (.of_eq ?_))
      simp only [ControlLink.active, free, first, Option.toList_some, Option.toList_none,
        List.nil_append, List.cons_append]
  | applicationTaken frame rest worker free empty first =>
      refine Or.inl (List.Perm.subperm (.of_eq ?_))
      simp only [ControlLink.active, free, empty, first, Option.toList_some, Option.toList_none,
        List.nil_append, List.cons_append]
  | published frame status bytes queue dropped worker busy answer put =>
      refine Or.inl (List.Perm.subperm (.of_eq ?_))
      simp only [ControlLink.active, busy, Option.toList_some, Option.toList_none, List.map_append,
        List.map_cons, List.map_nil, List.nil_append, List.append_assoc]
  | worked worker => exact Or.inl (List.Subperm.refl _)

theorem Response.mono {bytes : List UInt8} (response : link.Response frame bytes)
    (grown : link.handled <+: next.handled) : next.Response frame bytes := by
  cases response with
  | own bytes answer => exact .own bytes answer
  | closed acts => exact .closed acts
  | worker status rest handled decodes => exact .worker status rest (grown.subset handled) decodes

section

variable (tracked : link.Tracked)
include tracked

/-- **The answer that is taken is that of the frame.** Its id names no other one. -/
theorem Tracked.answer (distinct : link.Distinct) {skipped : Bool}
    (waiting : link.phase = .waiting frame skipped) {completion : Completion}
    (there : completion ∈ link.workerCompletions.messages)
    (answer : ControlLink.answers frame completion = true) :
    completion.question = frame ∧ link.Response frame completion.bytes := by
  obtain ⟨status, handled, answered⟩ := tracked.completions completion there
  simp only [ControlLink.answers, decide_eq_true_eq] at answer
  obtain ⟨long, named⟩ := answer
  obtain short | ⟨rest, decodes, whole⟩ := answered.named_of_long
  · exact absurd long (Nat.not_le.mpr short)
  · rw [whole, field_answerHeader completion.question.length_commandId] at named
    have asked := (tracked.current frame (by rw [waiting]; rfl)).1
    have questioned := (tracked.known completion.question
      (List.mem_append_left _ (List.mem_map_of_mem handled))).1
    have same := List.inj_on_of_nodup_map distinct questioned asked named
    rw [whole, ← same]
    exact ⟨rfl, .worker status rest handled decodes⟩

theorem Tracked.move_distinct (distinct : next.Distinct) (move : link.Move label next) :
    next.active.Nodup := by
  cases move.active with
  | inl fewer =>
      obtain ⟨kept, same, sub⟩ := fewer
      exact same.nodup_iff.mp (tracked.distinct.sublist sub)
  | inr more =>
      obtain ⟨frame, same, received, -⟩ := more
      have new : frame ∉ link.active := by
        intro member
        have there :=
          List.mem_map_of_mem (f := BoundedFrame.commandId) (tracked.known frame member).1
        rw [Distinct, received, List.map_append, List.nodup_append] at distinct
        exact distinct.2.2 _ there _ (List.mem_singleton_self _) rfl
      rw [same, ← List.concat_eq_append]
      exact tracked.distinct.concat new

section

variable (move : link.Move label next)
include move

theorem Tracked.move_known :
    ∀ frame ∈ next.active, frame ∈ next.received ∧ frame.observes = false := by
  have grown := move.received
  have known : ∀ frame ∈ link.active, frame ∈ next.received ∧ frame.observes = false :=
    fun frame member => (tracked.known frame member).imp_left fun there => grown.subset there
  cases move.active with
  | inl fewer => exact fun frame member => known frame (fewer.subset member)
  | inr more =>
      obtain ⟨frame, same, received, acts⟩ := more
      intro other member
      rw [same, List.mem_append, List.mem_singleton] at member
      rcases member with old | rfl
      · exact known other old
      · rw [received]
        exact ⟨List.mem_append_right _ (List.mem_singleton_self _), acts⟩

theorem Tracked.move_current :
    ∀ frame, ControlLink.current next.phase = some frame →
      frame ∈ next.received ∧ frame.observes = false := by
  have kept : ∀ frame, ControlLink.current link.phase = some frame →
      frame ∈ next.received ∧ frame.observes = false := fun frame here =>
    (tracked.current frame here).imp_left fun there => move.received.subset there
  intro frame here
  cases move with
  | answered other bytes phase reading answer on => rcases on with rfl | rfl <;> cases here
  | unanswered other reading malformed =>
      simp only [reading, ControlLink.current] at here
      cases here
  | forwarded other reading acts =>
      cases here
      exact ⟨List.mem_append_right _ (List.mem_singleton_self _), acts⟩
  | watched watching => cases here
  | reservedPut other queue submitting reserved put =>
      cases here
      exact kept _ (by rw [submitting]; rfl)
  | applicationPut other queue submitting application put =>
      cases here
      exact kept _ (by rw [submitting]; rfl)
  | refused other submitting full => cases here
  | accepted other skipped completion rest waiting next answer => cases here
  | passed other skipped completion rest waiting next differs =>
      cases here
      exact kept _ (by rw [waiting]; rfl)
  | expired other skipped reserved application waiting late purged => cases here
  | _ => exact kept frame here

theorem Tracked.move_reserved :
    ∀ frame ∈ next.reservedControl.messages, frame.isReserved = true := by
  cases move with
  | reservedPut other queue submitting reserved put =>
      intro frame member
      rw [put, List.mem_append, List.mem_singleton] at member
      rcases member with old | rfl
      · exact tracked.reserved frame old
      · exact reserved
  | expired other skipped reserved application waiting late purged =>
      rcases purged with ⟨-, purged, -⟩ | ⟨-, rfl, -⟩
      · intro frame member
        rw [respond, purged] at member
        cases member
      · exact tracked.reserved
  | reservedTaken other rest worker free first =>
      exact fun frame member => tracked.reserved frame (first ▸ List.mem_cons_of_mem _ member)
  | _ => exact tracked.reserved

theorem Tracked.move_application :
    ∀ frame ∈ next.applicationCommands.messages, frame.isReserved = false := by
  cases move with
  | applicationPut other queue submitting application put =>
      intro frame member
      rw [put, List.mem_append, List.mem_singleton] at member
      rcases member with old | rfl
      · exact tracked.application frame old
      · exact application
  | expired other skipped reserved application waiting late purged =>
      rcases purged with ⟨-, -, rfl⟩ | ⟨-, -, purged⟩
      · exact tracked.application
      · intro frame member
        rw [respond, purged] at member
        cases member
  | applicationTaken other rest worker free empty first =>
      exact fun frame member => tracked.application frame (first ▸ List.mem_cons_of_mem _ member)
  | _ => exact tracked.application

end

theorem Tracked.move_completions (attended : link.Attended) (move : link.Move label next) :
    ∀ completion ∈ next.workerCompletions.messages, ∃ status,
      (completion.question, status) ∈ next.handled ∧
        WorkerAnswer completion.question status completion.bytes := by
  have kept : ∀ completion ∈ link.workerCompletions.messages, ∃ status,
      (completion.question, status) ∈ next.handled ∧
        WorkerAnswer completion.question status completion.bytes := by
    intro completion member
    obtain ⟨status, handled, answer⟩ := tracked.completions completion member
    exact ⟨status, move.handled.subset handled, answer⟩
  cases move with
  | accepted other skipped completion rest waiting first answer =>
      exact fun completion member => kept completion (first ▸ List.mem_cons_of_mem _ member)
  | passed other skipped completion rest waiting first differs =>
      exact fun completion member => kept completion (first ▸ List.mem_cons_of_mem _ member)
  | published frame status bytes queue dropped worker busy answer put =>
      rcases put with ⟨put, -⟩ | ⟨-, rfl, -⟩
      · intro completion member
        rw [put, List.mem_append, List.mem_singleton] at member
        rcases member with old | rfl
        · exact kept completion old
        · have member : frame ∈ link.active := by
            refine List.mem_append_right _ (List.mem_append_left _ ?_)
            rw [busy]
            exact List.mem_singleton_self _
          exact ⟨status, List.mem_append_right _ (List.mem_singleton_self _),
            answer (tracked.known frame member).2 attended⟩
      · exact kept
  | _ => exact kept

theorem Tracked.move_truthful (distinct : link.Distinct) (move : link.Move label next) :
    ∀ entry ∈ next.written, next.Response entry.1 entry.2 := by
  have kept : ∀ entry ∈ link.written, next.Response entry.1 entry.2 :=
    fun entry member => (tracked.truthful entry member).mono move.handled
  have added : ∀ {frame : BoundedFrame} {bytes : List UInt8}, next.Response frame bytes →
      ∀ entry ∈ link.written ++ [(frame, bytes)], next.Response entry.1 entry.2 := by
    intro frame bytes response entry member
    rw [List.mem_append, List.mem_singleton] at member
    rcases member with old | rfl
    · exact kept entry old
    · exact response
  cases move with
  | answered frame bytes phase reading answer on => exact added (.own bytes answer)
  | refused frame submitting full =>
      exact added (.closed (tracked.current frame (by rw [submitting]; rfl)).2)
  | accepted frame skipped completion rest waiting first answer =>
      have there : completion ∈ link.workerCompletions.messages := first ▸ List.mem_cons_self
      exact added ((tracked.answer distinct waiting there answer).2.mono List.prefix_rfl)
  | expired frame skipped reserved application waiting late purged =>
      exact added (.closed (tracked.current frame (by rw [waiting]; rfl)).2)
  | _ => exact kept

/-- **A step keeps track of every frame and of its answer.** -/
theorem Tracked.move (attended : link.Attended) (distinct : next.Distinct)
    (move : link.Move label next) : next.Tracked where
  distinct := tracked.move_distinct distinct move
  known := tracked.move_known move
  current := tracked.move_current move
  reserved := tracked.move_reserved move
  application := tracked.move_application move
  completions := tracked.move_completions attended move
  truthful := tracked.move_truthful (distinct.before move.received) move

/-! ## The order of the answers -/

end

/-- The frames that were answered, and the one that will be. -/
def answering (link : ControlLink) : List BoundedFrame :=
  link.written.map Prod.fst ++ (ControlLink.current link.phase).toList

/-- The frames are answered in the order in which they were read, and none is left behind. -/
structure Ordered (link : ControlLink) : Prop where
  sublist : link.answering.Sublist link.received
  complete : ∀ frame ∈ link.received, frame.Malformed ∨ frame ∈ link.answering

theorem ordered_started : started.Ordered := by
  constructor <;> simp [started, answering, ControlLink.current]

/-- A frame that is read will be answered, unless it is malformed. -/
theorem Move.answering (move : link.Move label next) :
    next.received = link.received ∧ next.answering = link.answering ∨
      ∃ frame, next.received = link.received ++ [frame] ∧
        (next.answering = link.answering ++ [frame] ∨
          frame.Malformed ∧ next.answering = link.answering) := by
  cases move with
  | answered frame bytes phase reading answer on =>
      refine Or.inr ⟨frame, rfl, Or.inl ?_⟩
      rcases on with rfl | rfl <;>
        simp [ControlLink.answering, reading, ControlLink.current]
  | unanswered frame reading malformed => exact Or.inr ⟨frame, rfl, Or.inr ⟨malformed, rfl⟩⟩
  | forwarded frame reading acts =>
      refine Or.inr ⟨frame, rfl, Or.inl ?_⟩
      simp [ControlLink.answering, reading, ControlLink.current]
  | watched watching =>
      refine Or.inl ⟨rfl, ?_⟩
      simp only [ControlLink.answering, watching, ControlLink.current]
  | reservedPut frame queue submitting reserved put =>
      refine Or.inl ⟨rfl, ?_⟩
      simp only [ControlLink.answering, submitting, ControlLink.current]
  | applicationPut frame queue submitting application put =>
      refine Or.inl ⟨rfl, ?_⟩
      simp only [ControlLink.answering, submitting, ControlLink.current]
  | refused frame submitting full =>
      refine Or.inl ⟨rfl, ?_⟩
      simp [ControlLink.answering, respond, submitting, ControlLink.current]
  | accepted frame skipped completion rest waiting first answer =>
      refine Or.inl ⟨rfl, ?_⟩
      simp [ControlLink.answering, respond, waiting, ControlLink.current]
  | passed frame skipped completion rest waiting first differs =>
      refine Or.inl ⟨rfl, ?_⟩
      simp only [ControlLink.answering, waiting, ControlLink.current]
  | expired frame skipped reserved application waiting late purged =>
      refine Or.inl ⟨rfl, ?_⟩
      simp [ControlLink.answering, respond, waiting, ControlLink.current]
  | _ => exact Or.inl ⟨rfl, rfl⟩

theorem Ordered.move (ordered : link.Ordered) (move : link.Move label next) : next.Ordered := by
  obtain ⟨sublist, complete⟩ := ordered
  rcases move.answering with ⟨received, answering⟩ | ⟨frame, received, answering⟩
  · constructor
    · rwa [received, answering]
    · rwa [received, answering]
  · constructor
    · rw [received]
      rcases answering with more | ⟨-, same⟩
      · rw [more]
        exact sublist.append (.refl _)
      · rw [same]
        exact sublist.trans (List.sublist_append_left _ _)
    · intro other member
      rw [received, List.mem_append, List.mem_singleton] at member
      rcases answering with more | ⟨malformed, same⟩
      · rw [more, List.mem_append, List.mem_singleton]
        rcases member with old | new
        · exact (complete other old).imp_right Or.inl
        · exact Or.inr (Or.inr new)
      · rw [same]
        rcases member with old | rfl
        · exact complete other old
        · exact Or.inl malformed

/-! ## The exchange -/

/-- The link as an exchange of frames. -/
def exchange (link : ControlLink) : Exchange BoundedFrame where
  asked := match link.phase with
    | .waiting frame _ => some frame
    | _ => none
  skipped := match link.phase with
    | .waiting _ skipped => skipped
    | _ => false
  queued := link.reservedControl.messages ++ link.applicationCommands.messages
  held := link.command
  answered := link.workerCompletions.messages.map Completion.question

theorem Tracked.underWay_subset (tracked : link.Tracked) :
    ∀ frame ∈ link.exchange.underWay, frame ∈ link.handled.map Prod.fst ++
      (link.command.toList ++ (link.reservedControl.messages ++
        link.applicationCommands.messages)) := by
  intro frame member
  simp only [Exchange.underWay, exchange, List.mem_append, List.mem_map] at member ⊢
  rcases member with ⟨completion, there, rfl⟩ | rest
  · obtain ⟨status, handled, -⟩ := tracked.completions completion there
    exact Or.inl ⟨_, handled, rfl⟩
  · exact Or.inr rest

/-- The frame that is put into a queue is not under way. -/
theorem Tracked.new (tracked : link.Tracked) (submitting : link.phase = .submitting frame) :
    frame ∉ link.exchange.underWay := by
  intro member
  have distinct := tracked.distinct
  have split : link.active = (link.handled.map Prod.fst ++ (link.command.toList ++
      (link.reservedControl.messages ++ link.applicationCommands.messages))) ++ [frame] := by
    simp only [active, submitting, pending, List.append_assoc]
  rw [split, List.nodup_append] at distinct
  exact distinct.2.2 _ (tracked.underWay_subset frame member) _ (List.mem_singleton_self _) rfl

/-- A purge takes back the frame of the control thread, and there is no other one. -/
theorem Tracked.purged (tracked : link.Tracked) (sound : link.exchange.Sound) {skipped : Bool}
    (waiting : link.phase = .waiting frame skipped) {reserved : Channel BoundedFrame 1}
    {application : Channel BoundedFrame 4}
    (purged : frame.isReserved = true ∧ reserved.messages = [] ∧
        application = link.applicationCommands ∨
      frame.isReserved = false ∧ reserved = link.reservedControl ∧ application.messages = []) :
    reserved.messages ++ application.messages = [] := by
  obtain ⟨-, stale, standing⟩ := sound
  have only : link.reservedControl.messages ++ link.applicationCommands.messages = [] ∨
      link.reservedControl.messages ++ link.applicationCommands.messages = [frame] := by
    rcases standing.queued with empty | ⟨question, asked, one⟩
    · exact Or.inl empty
    · simp only [exchange, waiting, Option.some.injEq] at asked
      exact Or.inr (asked ▸ one)
  have member : ∀ other, other ∈ link.reservedControl.messages ∨
      other ∈ link.applicationCommands.messages → other = frame := by
    intro other there
    rw [← List.mem_append] at there
    rcases only with empty | one
    · rw [empty] at there
      cases there
    · rw [one] at there
      exact List.mem_singleton.mp there
  rcases purged with ⟨kind, empty, rfl⟩ | ⟨kind, rfl, empty⟩
  · rw [empty, List.nil_append, List.eq_nil_iff_forall_not_mem]
    intro other there
    have other_kind := tracked.application other there
    rw [member other (Or.inr there), kind] at other_kind
    cases other_kind
  · rw [empty, List.append_nil, List.eq_nil_iff_forall_not_mem]
    intro other there
    have other_kind := tracked.reserved other there
    rw [member other (Or.inl there), kind] at other_kind
    cases other_kind

/-- **A step of the link is a move of the exchange, or none.** -/
theorem Move.exchange (move : link.Move label next) (tracked : link.Tracked)
    (distinct : link.Distinct) (sound : link.exchange.Sound)
    {allowed : Exchange BoundedFrame → Prop} (may : label = .expire → allowed link.exchange) :
    next.exchange = link.exchange ∨ Exchange.Move allowed link.exchange next.exchange := by
  cases move with
  | answered frame bytes phase reading answer on =>
      apply Or.inl
      rcases on with rfl | rfl <;> simp only [ControlLink.exchange, reading]
  | unanswered frame reading malformed => exact Or.inl rfl
  | forwarded frame reading acts =>
      apply Or.inl
      simp only [ControlLink.exchange, reading]
  | watched watching =>
      apply Or.inl
      simp only [ControlLink.exchange, watching]
  | reservedPut frame queue submitting reserved put =>
      obtain ⟨-, stale, standing⟩ := id sound
      have idle : link.exchange.asked = none := by simp only [ControlLink.exchange, submitting]
      have empty := standing.queued_idle idle
      have ask : Exchange.Move allowed link.exchange _ :=
        .ask frame idle (tracked.new submitting)
      apply Or.inr
      simp only [ControlLink.exchange, List.append_eq_nil_iff] at empty ask ⊢
      simp only [put, empty.1, empty.2, List.append_nil, List.nil_append] at ask ⊢
      exact ask
  | applicationPut frame queue submitting application put =>
      have idle : link.exchange.asked = none := by simp only [ControlLink.exchange, submitting]
      have ask : Exchange.Move allowed link.exchange _ :=
        .ask frame idle (tracked.new submitting)
      apply Or.inr
      simp only [ControlLink.exchange, put, List.append_assoc] at ask ⊢
      exact ask
  | refused frame submitting full =>
      apply Or.inl
      simp only [ControlLink.exchange, respond, submitting]
  | accepted frame skipped completion rest waiting first answer =>
      have there : completion ∈ link.workerCompletions.messages := first ▸ List.mem_cons_self
      have own := (tracked.answer distinct waiting there answer).1
      have asked : link.exchange.asked = some frame := by simp only [ControlLink.exchange, waiting]
      have next : link.exchange.answered = frame :: rest.messages.map Completion.question := by
        simp only [ControlLink.exchange, first, List.map_cons, own]
      exact Or.inr (.accept frame _ asked next)
  | passed frame skipped completion rest waiting first differs =>
      have asked : link.exchange.asked = some frame := by simp only [ControlLink.exchange, waiting]
      have next : link.exchange.answered =
          completion.question :: rest.messages.map Completion.question := by
        simp only [ControlLink.exchange, first, List.map_cons]
      have skip : Exchange.Move allowed link.exchange _ := .skip (asked ▸ rfl) _ _ next
      apply Or.inr
      simp only [ControlLink.exchange, waiting] at skip ⊢
      exact skip
  | expired frame skipped reserved application waiting late purged =>
      have asked : link.exchange.asked = some frame := by simp only [ControlLink.exchange, waiting]
      have empty := tracked.purged sound waiting purged
      have giveUp := Exchange.Move.giveUp (asked ▸ rfl) (may late)
      apply Or.inr
      simp only [ControlLink.exchange, respond, empty] at giveUp ⊢
      exact giveUp
  | reservedTaken frame rest worker free first =>
      have next : link.exchange.queued =
          frame :: (rest.messages ++ link.applicationCommands.messages) := by
        simp only [ControlLink.exchange, first, List.cons_append]
      exact Or.inr (.take frame _ free next)
  | applicationTaken frame rest worker free empty first =>
      have next : link.exchange.queued = frame :: rest.messages := by
        simp only [ControlLink.exchange, empty, first, List.nil_append]
      have take : Exchange.Move allowed link.exchange _ := .take frame _ free next
      apply Or.inr
      simp only [ControlLink.exchange, empty, List.nil_append] at take ⊢
      exact take
  | published frame status bytes queue dropped worker busy answer put =>
      apply Or.inr
      rcases put with ⟨put, -⟩ | ⟨-, rfl, -⟩
      · have answer : Exchange.Move allowed link.exchange _ :=
          .answer frame (show link.exchange.held = some frame from busy)
        simp only [ControlLink.exchange, put, List.map_append, List.map_cons, List.map_nil]
          at answer ⊢
        exact answer
      · exact .lose
  | worked worker => exact Or.inl rfl

/-! ## Every run -/

/-- What holds in every state of a run with distinct ids. -/
structure Sound (link : ControlLink) : Prop where
  tracked : link.Tracked
  ordered : link.Ordered
  exchange : link.exchange.Sound

theorem exchange_started : started.exchange.Timely :=
  ⟨List.nodup_nil, [], .idle rfl rfl rfl, Nat.zero_le _, fun asked => by cases asked⟩

theorem Sound.step (sound : link.Sound) (attended : link.Attended) (distinct : next.Distinct)
    (moved : link.step label = some next) : next.Sound := by
  have move := step_cases moved
  have earlier := distinct.before move.received
  obtain ⟨tracked, ordered, exchange⟩ := sound
  refine ⟨tracked.move attended distinct move, ordered.move move, ?_⟩
  have next_exchange : next.exchange = link.exchange ∨
      Exchange.Move (fun _ => True) link.exchange next.exchange :=
    move.exchange tracked earlier exchange fun _ => trivial
  rcases next_exchange with same | move
  · rwa [same]
  · exact move.sound exchange

theorem sound_of_reachable (reachable : machine.Reachable link) (distinct : link.Distinct) :
    link.Sound := by
  have invariant : link.Attended ∧ (link.Distinct → link.Sound) := by
    refine reachable.invariant (P := fun link => link.Attended ∧ (link.Distinct → link.Sound))
      (fun start initial => ?_) fun before label after holds moved => ?_
    · cases initial
      exact ⟨attended_of_free rfl, fun _ =>
        ⟨tracked_started, ordered_started, exchange_started.sound⟩⟩
    · obtain ⟨attended, sound⟩ := holds
      refine ⟨(step_cases moved).attended attended, fun distinct => ?_⟩
      exact (sound (distinct.before (step_cases moved).received)).step attended distinct moved
  exact invariant.2 distinct

/-- **Control commands and their answers.** While no id comes twice, every answer on the
serial link is one of the control thread to this frame, or the one that the worker gave
to this frame, with its id and the status it found. The worker handles no frame twice.
The frames are answered in the order in which they came, and each one is, but for
malformed observations and the one that is on its way. -/
theorem responses_truthful (reachable : machine.Reachable link) (distinct : link.Distinct) :
    (∀ entry ∈ link.written, link.Response entry.1 entry.2) ∧
      (link.handled.map Prod.fst).Nodup ∧
      (link.written.map Prod.fst).Sublist link.received ∧
      ∀ frame ∈ link.received, frame.Malformed ∨
        frame ∈ link.written.map Prod.fst ∨ ControlLink.current link.phase = some frame := by
  obtain ⟨tracked, ordered, -⟩ := sound_of_reachable reachable distinct
  refine ⟨tracked.truthful, ?_, ?_, fun frame member => ?_⟩
  · exact (List.nodup_append.mp tracked.distinct).1
  · exact (List.sublist_append_left _ _).trans ordered.sublist
  · rw [← Option.mem_toList, ← List.mem_append]
    exact ordered.complete frame member

/-! ### A late answer -/

/-- A device about which nothing is known. -/
def blankView : LinkView where
  generation := 0
  identity := none
  peerState := .unpaired
  peerId := .replicate 32 0
  configPresent := false
  device := ⟨0, 0, 0, 0, 0, 0, 0, 0, 0, 0, 0, 0, 0, 0, 0, 0, 0, 0, 0, 0, 0, 0, 0, 0, 0, 0, 0, 0,
    0, 0, 0, 0, 0, 0, 0, 0, 0, 0, 0, 0, 0, 0, 0, 0, 0, 0, 0, 0, 0, 0, 0, 0, 0, 0, 0⟩
  profile := none

/-- A Run command without a payload, under an id of equal bytes. -/
def runFrame (id : UInt8) : BoundedFrame where
  bytes := 1 :: 7 :: (List.replicate 16 id ++ List.replicate 10 0)
  long := by simp
  short := by simp [controlFrameMax]
  schema := rfl

/-- The worker answers the first command when the control thread has given it up and
waits for the answer to the second one. -/
def lateAnswer : List LinkLabel :=
  [.receive (runFrame 1) blankView, .submit, .takeCommand .success, .expire,
    .receive (runFrame 2) blankView, .submit, .publishCompletion blankView, .takeCompletion,
    .worker .swap, .worker (.decide 0 false), .takeCommand .success,
    .publishCompletion blankView, .takeCompletion]

/-- The late answer is passed over, and each command has an answer of its own. -/
theorem responses_truthful_late : ∃ link, machine.Reachable link ∧
    link.written.map Prod.fst = [runFrame 1, runFrame 2] ∧
    ∀ entry ∈ link.written, link.Response entry.1 entry.2 := by
  have replayed : (machine.execute started lateAnswer).map (fun link =>
      (link.received, link.written.map Prod.fst)) =
        some ([runFrame 1, runFrame 2], [runFrame 1, runFrame 2]) := by
    decide +kernel
  obtain ⟨link, reachable, facts⟩ := StepSystem.exists_reachable_of_map replayed rfl
  simp only [Prod.mk.injEq] at facts
  have distinct : link.Distinct := by
    rw [Distinct, facts.1]
    decide
  exact ⟨link, reachable, facts.2, (responses_truthful reachable distinct).1⟩

/-! ## The queues -/

/-- The five seconds do not run out between two accesses of a queue in which the control
thread finds something to read, unless it has passed over a completion before. -/
def Unhurried (link : ControlLink) : LinkLabel → Prop
  | .expire => link.exchange.Patient
  | _ => True

instance (link : ControlLink) (label : LinkLabel) : Decidable (link.Unhurried label) := by
  unfold Unhurried Exchange.Patient
  cases label <;> infer_instance

/-- There is room for a frame that is put into its queue. -/
theorem Sound.room (sound : link.Sound) {frame : BoundedFrame}
    (submitting : link.phase = .submitting frame) : link.submit ≠ none := by
  obtain ⟨-, stale, standing⟩ := sound.exchange
  have idle : link.exchange.asked = none := by simp only [ControlLink.exchange, submitting]
  have empty := standing.queued_idle idle
  simp only [ControlLink.exchange, List.append_eq_nil_iff] at empty
  unfold submit
  simp only [submitting]
  split
  · obtain ⟨later, sent⟩ := Channel.exists_trySend
      (show link.reservedControl.messages.length < 1 by rw [empty.1]; decide) frame
    rw [sent]
    exact Option.some_ne_none _
  · obtain ⟨later, sent⟩ := Channel.exists_trySend
      (show link.applicationCommands.messages.length < 4 by rw [empty.2]; decide) frame
    rw [sent]
    exact Option.some_ne_none _

theorem Sound.refused (sound : link.Sound) (none_yet : link.refused = [])
    (move : link.Move label next) : next.refused = [] := by
  cases move with
  | refused frame submitting full => exact absurd full (sound.room submitting)
  | _ => exact none_yet

/-- One frame is queued at most. -/
theorem Sound.length_queued (sound : link.Sound) :
    (link.reservedControl.messages ++ link.applicationCommands.messages).length ≤ 1 := by
  obtain ⟨-, stale, standing⟩ := sound.exchange
  rcases standing.queued with empty | ⟨question, -, one⟩
  · exact (congrArg List.length empty).trans_le (Nat.zero_le _)
  · exact (congrArg List.length one).le

/-- Two completions are under way at most. -/
theorem length_completions (timely : link.exchange.Timely) :
    link.workerCompletions.messages.length ≤ 2 := by
  obtain ⟨-, stale, standing, few, -⟩ := timely
  have bound := standing.length_underWay
  simp only [Exchange.underWay, ControlLink.exchange, List.length_append, List.length_map] at bound
  omega

theorem dropped_of_timely (timely : link.exchange.Timely) (none_yet : link.dropped = [])
    (move : link.Move label next) : next.dropped = [] := by
  have few := length_completions timely
  cases move with
  | published frame status bytes queue dropped worker busy answer put =>
      rcases put with ⟨-, same⟩ | ⟨full, -⟩
      · exact same.trans none_yet
      · omega
  | _ => exact none_yet

/-- The moves of an unhurried step are those of a patient client. -/
theorem Sound.timely (sound : link.Sound) (timely : link.exchange.Timely)
    (distinct : link.Distinct) (unhurried : link.Unhurried label) (move : link.Move label next) :
    next.exchange.Timely := by
  have may : label = .expire → link.exchange.Patient := by
    rintro rfl
    exact unhurried
  rcases move.exchange sound.tracked distinct sound.exchange may with same | move
  · rwa [same]
  · exact move.timely timely

/-- **The queues never run full.** While no id comes twice, no frame is turned away and
only one is queued at a time; and if the control thread is not hurried, no completion is
lost and two of them are under way at most. -/
theorem queues_bounded {past : List (ControlLink × LinkLabel)} (run : machine.Run past link)
    (distinct : link.Distinct) :
    link.refused = [] ∧
      (link.reservedControl.messages ++ link.applicationCommands.messages).length ≤ 1 ∧
      (StepSystem.Guarded Unhurried past →
        link.dropped = [] ∧ link.workerCompletions.messages.length ≤ 2) := by
  have sound := sound_of_reachable ⟨past, run⟩ distinct
  refine ⟨?_, sound.length_queued, fun guarded => ?_⟩
  · refine StepSystem.Reachable.invariant (T := machine)
      (P := fun link => link.Attended ∧ (link.Distinct → link.Sound ∧ link.refused = [])) ?_ ?_
      ⟨past, run⟩ |>.2 distinct |>.2
    · rintro start rfl
      exact ⟨attended_of_free rfl, fun _ =>
        ⟨⟨tracked_started, ordered_started, exchange_started.sound⟩, rfl⟩⟩
    · rintro before label after ⟨attended, holds⟩ moved
      refine ⟨(step_cases moved).attended attended, fun distinct => ?_⟩
      have move := step_cases moved
      obtain ⟨sound, refused⟩ := holds (distinct.before move.received)
      exact ⟨sound.step attended distinct moved, sound.refused refused move⟩
  · have invariant := run.invariant_of_guarded Unhurried
      (P := fun link => link.Attended ∧
        (link.Distinct → link.Sound ∧ link.exchange.Timely ∧ link.dropped = [])) ?_ ?_ guarded
    · obtain ⟨-, timely, dropped⟩ := invariant.2 distinct
      exact ⟨dropped, length_completions timely⟩
    · rintro start rfl
      exact ⟨attended_of_free rfl, fun _ =>
        ⟨⟨tracked_started, ordered_started, exchange_started.sound⟩, exchange_started, rfl⟩⟩
    · rintro before label after ⟨attended, holds⟩ unhurried moved
      refine ⟨(step_cases moved).attended attended, fun distinct => ?_⟩
      have move := step_cases moved
      have earlier := distinct.before move.received
      obtain ⟨sound, timely, dropped⟩ := holds earlier
      exact ⟨sound.step attended distinct moved, sound.timely timely earlier unhurried move,
        dropped_of_timely timely dropped move⟩

/-- The bounds hold where a command is given up and answered late. -/
theorem queues_bounded_late : ∃ past link, machine.Run past link ∧
    link.received = [runFrame 1, runFrame 2] ∧ link.dropped = [] := by
  have replayed : (machine.execute started lateAnswer).map ControlLink.received =
      some [runFrame 1, runFrame 2] := by
    decide +kernel
  have unhurried : machine.Along Unhurried started lateAnswer := by decide +kernel
  obtain ⟨past, link, run, guarded, received⟩ :=
    StepSystem.exists_guarded_of_map unhurried replayed rfl
  have distinct : link.Distinct := by
    rw [Distinct, received]
    decide
  exact ⟨past, link, run, received, ((queues_bounded run distinct).2.2 guarded).1⟩

end Deskkin.Device.ControlLink
