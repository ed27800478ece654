/-
# The steps of the control link

A step of the link does one of a dozen things to the queues and the logs. The worker moves
on its own between them, but while it has a frame it does nothing that would keep it from
answering.
-/

import Deskkin.Amp.StatusReadback
import Deskkin.Device.ControlLink

namespace Deskkin.Device

open BigEndian Placement

/-! ## Frames -/

namespace BoundedFrame

theorem length_commandId (frame : BoundedFrame) : frame.commandId.length = 16 := by
  have long := frame.long
  rw [commandId, length_field]
  omega

end BoundedFrame

/-! ## Answers -/

variable {frame : BoundedFrame} {control : DecodedControl} {view : LinkView}

theorem field_answerHeader {status : UInt8} {commandId : List UInt8}
    (width : commandId.length = 16) (rest : List UInt8) :
    field (answerHeader status commandId ++ rest) 2 18 = commandId := by
  rw [answerHeader, List.append_assoc]
  exact field_append rfl (by rw [width])

/-- The id that a frame decodes to is the one that stands in it. -/
theorem commandId_of_decodeControl (decodes : decodeControl frame.bytes = .ok control) :
    control.commandId.toList = frame.commandId := by
  obtain ⟨command, -, -, -, bytes⟩ := decodeControl_ok decodes
  rw [BoundedFrame.commandId, bytes]
  show _ = field ([schemaVersion, UInt8.ofNat command.code] ++ (control.commandId.toList ++ _)) 2 18
  exact (field_append rfl (by simp)).symm

/-- The command that a frame decodes to is the one whose code stands in it. -/
theorem code_of_decodeControl (decodes : decodeControl frame.bytes = .ok control) :
    ∃ command : ScriptCommand, command.worker = some control.command ∧
      frame.code = command.code := by
  obtain ⟨command, worker, -, -, bytes⟩ := decodeControl_ok decodes
  refine ⟨command, worker, ?_⟩
  rw [BoundedFrame.code, bytes]
  show (UInt8.ofNat command.code).toNat = command.code
  cases command <;> rfl

theorem decoded_eq_some_iff :
    ControlLink.decoded frame = some control ↔ decodeControl frame.bytes = .ok control := by
  rw [ControlLink.decoded]
  cases decodeControl frame.bytes <;> simp [Except.toOption]

/-- An answer of the worker to a frame: with the status that it found and the id of the
frame, or too short to be taken for an answer. Only a frame that decodes has one of the
first kind. -/
inductive WorkerAnswer (frame : BoundedFrame) (status : ServiceStatus) : List UInt8 → Prop
  | named (rest : List UInt8) (decodes : (ControlLink.decoded frame).isSome) :
      WorkerAnswer frame status (answerHeader status.code frame.commandId ++ rest)
  | nameless (bytes : List UInt8) (short : bytes.length < 18) : WorkerAnswer frame status bytes

theorem WorkerAnswer.named_of_long {status : ServiceStatus} {bytes : List UInt8}
    (answer : WorkerAnswer frame status bytes) :
    bytes.length < 18 ∨ ∃ rest, (ControlLink.decoded frame).isSome ∧
      bytes = answerHeader status.code frame.commandId ++ rest := by
  cases answer with
  | named rest decodes => exact Or.inr ⟨rest, decodes, rfl⟩
  | nameless _ short => exact Or.inl short

/-- The answer to a frame that does not only observe. -/
theorem workerAnswer_controlCompletion (acts : frame.observes = false) (status : ServiceStatus)
    (view : LinkView) (runAttempt : ℕ) :
    WorkerAnswer frame status
      (controlCompletion (ControlLink.decoded frame) status view runAttempt) := by
  cases decodes : ControlLink.decoded frame with
  | none => exact .nameless _ (show 2 < 18 by decide)
  | some control =>
      have there : (ControlLink.decoded frame).isSome := by rw [decodes]; rfl
      have decodes := decoded_eq_some_iff.mp decodes
      obtain ⟨command, worker, code⟩ := code_of_decodeControl decodes
      have looks : control.command ≠ .status := by
        intro same
        rw [same] at worker
        have eight : frame.code = 8 := by
          cases command <;> cases worker
          exact code
        simp [BoundedFrame.observes, eight] at acts
      unfold controlCompletion
      dsimp only
      rw [commandId_of_decodeControl decodes]
      split
      · split
        · exact .named _ there
        · split
          · simp only [List.append_assoc]
            exact .named _ there
          · simp only [List.append_assoc]
            exact .named _ there
      · rename_i same
        exact absurd same looks
      · simp only [List.append_assoc]
        exact .named _ there
      · exact .named _ there

/-- The status response carries the id of its command. -/
theorem field_controlSnapshot (commandId : Vector UInt8 16) (s : Amp.DeviceState)
    (profile : Option (UInt32 × Amp.RasterProfile)) :
    field (Amp.controlSnapshot commandId s profile) 2 18 = commandId.toList := by
  have width : commandId.toList.length = 16 := by simp
  have tidy : Tidy (List.replicate statusResponseSize (0 : UInt8)).length
      (Amp.statusWrites commandId s ++ Amp.profileWrites profile) := by
    rw [List.length_replicate]
    exact Amp.tidy_writes commandId s profile
  have member : (⟨2, commandId.toList⟩ : Write) ∈
      Amp.statusWrites commandId s ++ Amp.profileWrites profile :=
    List.mem_append_left _ (List.mem_of_getElem? (i := 1) rfl)
  have there := field_putAll tidy member
  dsimp only at there
  rw [width] at there
  rw [Amp.controlSnapshot_eq, show 18 = 2 + 16 from rfl, field_putAll_apart, there]
  · rw [Amp.length_written]
    exact (Amp.tidy_overrides s).inside
  · intro write put
    have clear : ∀ range ∈ [(18, 8), (26, 1), (80, 1)], Apart range (2, 16) := by decide
    exact clear _ (Amp.shape_override put)

/-- An answer without the worker carries the id of its frame. -/
theorem field_rustControlSnapshot (answered : (rustControlSnapshot frame.bytes view).length ≠ 0) :
    field (rustControlSnapshot frame.bytes view) 2 18 = frame.commandId := by
  have width := frame.length_commandId
  unfold rustControlSnapshot at answered ⊢
  split
  · rename_i failed
    simp [failed] at answered
  · rename_i control decodes
    have named := commandId_of_decodeControl decodes
    simp only [decodes] at answered
    rw [named] at answered ⊢
    dsimp only at answered ⊢
    split
    · rename_i payload
      rw [if_pos payload] at answered
      exact absurd rfl answered
    · rename_i bare
      rw [if_neg bare] at answered
      cases known : control.command with
      | identityList =>
          dsimp only
          split
          · simp only [List.append_assoc]
            exact field_answerHeader width _
          · simp only [List.append_assoc]
            exact field_answerHeader width _
      | wifiStatus =>
          dsimp only
          simp only [List.append_assoc]
          exact field_answerHeader width _
      | status => exact (field_controlSnapshot _ _ _).trans named
      | identityInit | identityUnpair | wifiProvision | wifiClear | run | shutdown
      | worldBenchmarkStart =>
          rw [known] at answered
          exact absurd rfl answered

/-- A command that is answered without the worker, and to which no device has an answer. -/
def BoundedFrame.Malformed (frame : BoundedFrame) : Prop :=
  frame.observes = true ∧ ∀ view, rustControlSnapshot frame.bytes view = []

/-- Whether there is an answer, and whether it fits, does not depend on what the device shows. -/
theorem rustControlSnapshot_eq_nil {other : LinkView}
    (unusable : (rustControlSnapshot frame.bytes view).length = 0 ∨
      (rustControlSnapshot frame.bytes view).length > completionFrameMax) :
    rustControlSnapshot frame.bytes other = [] := by
  unfold rustControlSnapshot at unusable ⊢
  split
  · rfl
  · rename_i control decodes
    simp only [decodes] at unusable
    dsimp only at unusable ⊢
    split
    · rfl
    · rename_i bare
      rw [if_neg bare] at unusable
      have width : control.commandId.toList.length = 16 := by simp
      cases known : control.command with
      | identityList =>
          have peer : view.peerId.toList.length = 32 := by simp
          rw [known] at unusable
          dsimp only at unusable
          split at unusable <;>
            simp [answerHeader, completionFrameMax, be64, peer] at unusable
      | wifiStatus =>
          rw [known] at unusable
          simp [answerHeader, completionFrameMax] at unusable
      | status =>
          rw [known] at unusable
          dsimp only at unusable
          rw [Amp.length_controlSnapshot] at unusable
          exact absurd unusable (by decide)
      | identityInit | identityUnpair | wifiProvision | wifiClear | run | shutdown
      | worldBenchmarkStart => rfl

/-! ## The worker and its command -/

/-- A worker that has handled its command, or that polls in a connection or a pairing. -/
def ServiceWorker.Ready (worker : ServiceWorker) : Prop :=
  match worker.phase with
  | .handled _ _ | .connection _ | .pairingWait => True
  | _ => False

namespace ControlLink

/-- A worker that has a command is about to answer it, and a command that ends a
connection has been decoded. -/
def Attended (link : ControlLink) : Prop :=
  ∀ frame, link.command = some frame →
    match link.worker.phase with
    | .handled _ _ | .connection _ | .pairingWait => True
    | .closing _ => (decoded frame).isSome
    | _ => False

section Attended

variable {link next : ControlLink} {worker : ServiceWorker}

theorem attended_of_free (free : link.command = none) : link.Attended := by
  intro frame busy
  rw [free] at busy
  cases busy

/-- What neither takes a command nor moves the worker on leaves a command attended. -/
theorem Attended.of_same (attended : link.Attended) (command : next.command = link.command)
    (worker : next.worker.phase = link.worker.phase) : next.Attended := by
  intro frame busy
  rw [worker]
  exact attended frame (command ▸ busy)

theorem attended_of_ready (ready : link.worker.Ready) : link.Attended := by
  intro frame busy
  unfold ServiceWorker.Ready at ready
  split at ready
  · rename_i handled
    simp only [handled]
  · rename_i connected
    simp only [connected]
  · rename_i waits
    simp only [waits]
  · cases ready

theorem ready_of_polling (polls : link.polling = true) : link.worker.Ready := by
  unfold polling at polls
  unfold ServiceWorker.Ready
  split at polls
  · rename_i connected
    simp only [connected]
  · rename_i waits
    simp only [waits]
  · cases polls

end Attended

/-! ## What a step does -/

/-- An answer that is not the worker's. -/
inductive OwnAnswer (frame : BoundedFrame) (bytes : List UInt8) : Prop
  | subscription (subscribes : frame.subscribes = true)
      (same : bytes = if frame.badSubscription then closedError frame 4
        else answerHeader 0 frame.commandId)
  | observation (observes : frame.observes = true) (view : LinkView)
      (same : bytes = rustControlSnapshot frame.bytes view)
      (named : field bytes 2 18 = frame.commandId)

/-- The steps of the link, less what they do to the worker. -/
inductive Move (link : ControlLink) (label : LinkLabel) : ControlLink → Prop
  | answered (frame : BoundedFrame) (bytes : List UInt8) (phase : ControlPhase)
      (reading : link.phase = .reading) (answer : OwnAnswer frame bytes)
      (on : phase = .reading ∨ phase = .watching) :
      Move link label { link with
        phase, received := link.received ++ [frame],
        written := link.written ++ [(frame, bytes)] }
  | unanswered (frame : BoundedFrame) (reading : link.phase = .reading)
      (malformed : frame.Malformed) :
      Move link label { link with received := link.received ++ [frame] }
  | forwarded (frame : BoundedFrame) (reading : link.phase = .reading)
      (acts : frame.observes = false) :
      Move link label { link with
        phase := .submitting frame, received := link.received ++ [frame] }
  | watched (watching : link.phase = .watching) : Move link label { link with phase := .reading }
  | reservedPut (frame : BoundedFrame) (queue : Channel BoundedFrame 1)
      (submitting : link.phase = .submitting frame) (reserved : frame.isReserved = true)
      (put : queue.messages = link.reservedControl.messages ++ [frame]) :
      Move link label { link with phase := .waiting frame false, reservedControl := queue }
  | applicationPut (frame : BoundedFrame) (queue : Channel BoundedFrame 4)
      (submitting : link.phase = .submitting frame) (application : frame.isReserved = false)
      (put : queue.messages = link.applicationCommands.messages ++ [frame]) :
      Move link label { link with phase := .waiting frame false, applicationCommands := queue }
  | refused (frame : BoundedFrame) (submitting : link.phase = .submitting frame)
      (full : link.submit = none) :
      Move link label { link.respond frame (closedError frame 8) with
        refused := link.refused ++ [frame] }
  | accepted (frame : BoundedFrame) (skipped : Bool) (completion : Completion)
      (rest : Channel Completion 8) (waiting : link.phase = .waiting frame skipped)
      (next : link.workerCompletions.messages = completion :: rest.messages)
      (answer : answers frame completion = true) :
      Move link label ({ link with workerCompletions := rest }.respond frame completion.bytes)
  | passed (frame : BoundedFrame) (skipped : Bool) (completion : Completion)
      (rest : Channel Completion 8) (waiting : link.phase = .waiting frame skipped)
      (next : link.workerCompletions.messages = completion :: rest.messages)
      (other : answers frame completion = false) :
      Move link label { link with phase := .waiting frame true, workerCompletions := rest }
  | expired (frame : BoundedFrame) (skipped : Bool) (reserved : Channel BoundedFrame 1)
      (application : Channel BoundedFrame 4) (waiting : link.phase = .waiting frame skipped)
      (late : label = .expire)
      (purged : frame.isReserved = true ∧ reserved.messages = [] ∧
          application = link.applicationCommands ∨
        frame.isReserved = false ∧ reserved = link.reservedControl ∧ application.messages = []) :
      Move link label ({ link with
        reservedControl := reserved, applicationCommands := application }.respond frame
          (closedError frame 8))
  | reservedTaken (frame : BoundedFrame) (rest : Channel BoundedFrame 1) (worker : ServiceWorker)
      (free : link.command = none)
      (first : link.reservedControl.messages = frame :: rest.messages) (ready : worker.Ready) :
      Move link label { link with reservedControl := rest, command := some frame, worker }
  | applicationTaken (frame : BoundedFrame) (rest : Channel BoundedFrame 4)
      (worker : ServiceWorker) (free : link.command = none)
      (empty : link.reservedControl.messages = [])
      (first : link.applicationCommands.messages = frame :: rest.messages)
      (ready : worker.Ready) :
      Move link label { link with applicationCommands := rest, command := some frame, worker }
  | published (frame : BoundedFrame) (status : ServiceStatus) (bytes : List UInt8)
      (queue : Channel Completion 8) (dropped : List Completion) (worker : ServiceWorker)
      (busy : link.command = some frame)
      (answer : frame.observes = false → link.Attended → WorkerAnswer frame status bytes)
      (put : queue.messages = link.workerCompletions.messages ++ [⟨frame, bytes⟩] ∧
          dropped = link.dropped ∨
        link.workerCompletions.messages.length = 8 ∧ queue = link.workerCompletions ∧
          dropped = link.dropped ++ [⟨frame, bytes⟩]) :
      Move link label { link with
        command := none, handled := link.handled ++ [(frame, status)],
        workerCompletions := queue, dropped, worker }
  | worked (worker : ServiceWorker)
      (attends : link.Attended → ({ link with worker } : ControlLink).Attended) :
      Move link label { link with worker }

variable {link next : ControlLink} {label : LinkLabel} {worker : ServiceWorker}

/-- The two ways to put a frame into its queue. -/
theorem submit_cases (moved : link.submit = some next) : link.Move label next := by
  unfold submit at moved
  split at moved
  · rename_i frame submitting
    dsimp only at moved
    split at moved
    · rename_i reserved
      rw [Option.map_eq_some_iff] at moved
      obtain ⟨queue, sent, rfl⟩ := moved
      exact .reservedPut frame queue submitting reserved (Channel.trySend_eq_some_iff.mp sent)
    · rename_i application
      rw [Option.map_eq_some_iff] at moved
      obtain ⟨queue, sent, rfl⟩ := moved
      exact .applicationPut frame queue submitting (Bool.not_eq_true _ ▸ application)
        (Channel.trySend_eq_some_iff.mp sent)
  · cases moved

theorem expire_cases (moved : link.expire = some next) : link.Move .expire next := by
  unfold expire at moved
  split at moved
  · rename_i frame skipped waiting
    dsimp only at moved
    split at moved
    · rename_i reserved
      cases moved
      exact .expired frame skipped .empty _ waiting rfl (Or.inl ⟨reserved, rfl, rfl⟩)
    · rename_i application
      cases moved
      exact .expired frame skipped _ .empty waiting rfl
        (Or.inr ⟨Bool.not_eq_true _ ▸ application, rfl, rfl⟩)
  · cases moved

theorem takeQueued_cases {taken : ControlLink} (take : link.takeQueued = some (frame, taken))
    (free : link.command = none) (ready : worker.Ready) :
    link.Move label { taken with worker } := by
  unfold takeQueued at take
  split at take
  · rename_i first rest received
    cases take
    exact .reservedTaken frame rest worker free (Channel.tryRecv_eq_some_iff.mp received) ready
  · rename_i nothing
    rw [Option.map_eq_some_iff] at take
    obtain ⟨⟨first, rest⟩, received, result⟩ := take
    cases result
    exact .applicationTaken frame rest worker free (Channel.tryRecv_eq_none_iff.mp nothing)
      (Channel.tryRecv_eq_some_iff.mp received) ready

variable {status : ServiceStatus} {answer : ServiceStatus}

theorem publish_cases {bytes : List UInt8} (busy : link.command = some frame)
    (answer : frame.observes = false → link.Attended → WorkerAnswer frame status bytes)
    (worker : ServiceWorker) : link.Move label { link.publish frame status bytes with worker } := by
  unfold publish
  dsimp only
  split
  · rename_i queue sent
    exact .published frame status bytes queue _ worker busy answer
      (Or.inl ⟨Channel.trySend_eq_some_iff.mp sent, rfl⟩)
  · rename_i failed
    refine .published frame status bytes _ _ worker busy answer (Or.inr ⟨?_, rfl, rfl⟩)
    by_contra short
    have room := Nat.lt_of_le_of_ne link.workerCompletions.bounded short
    obtain ⟨later, sent⟩ := Channel.exists_trySend room ⟨frame, bytes⟩
    rw [failed] at sent
    cases sent

/-- A worker in a connection that answers a polled command goes on. -/
theorem publish_same_worker {bytes : List UInt8} :
    { link.publish frame status bytes with worker := link.worker } =
      link.publish frame status bytes := by
  unfold publish
  dsimp only
  split <;> rfl

theorem receive_cases (moved : link.receive frame view = some next) : link.Move label next := by
  unfold receive at moved
  split at moved
  · rename_i reading
    dsimp only at moved
    split at moved
    · rename_i subscribes
      split at moved
      · rename_i bad
        cases moved
        exact .answered frame _ .reading reading (.subscription subscribes (if_pos bad).symm)
          (Or.inl rfl)
      · rename_i good
        cases moved
        exact .answered frame _ .watching reading (.subscription subscribes (if_neg good).symm)
          (Or.inr rfl)
    · split at moved
      · rename_i observes
        split at moved
        · rename_i unusable
          cases moved
          exact .unanswered frame reading ⟨observes, fun _ => rustControlSnapshot_eq_nil unusable⟩
        · rename_i answered
          cases moved
          rw [not_or] at answered
          exact .answered frame _ .reading reading
            (.observation observes view rfl (field_rustControlSnapshot answered.1)) (Or.inl rfl)
      · rename_i acts
        cases moved
        exact .forwarded frame reading (Bool.not_eq_true _ ▸ acts)
  · cases moved

theorem takeCompletion_cases (moved : link.takeCompletion = some next) : link.Move label next := by
  unfold takeCompletion at moved
  split at moved
  · rename_i frame skipped waiting
    rw [Option.map_eq_some_iff] at moved
    obtain ⟨⟨completion, rest⟩, received, result⟩ := moved
    have first := Channel.tryRecv_eq_some_iff.mp received
    dsimp only at result
    split at result
    · rename_i answer
      cases result
      exact .accepted frame skipped completion rest waiting first answer
    · rename_i other
      cases result
      exact .passed frame skipped completion rest waiting first (Bool.not_eq_true _ ▸ other)
  · cases moved

theorem takeCommand_cases (moved : link.takeCommand answer = some next) : link.Move label next := by
  unfold takeCommand at moved
  split at moved
  · rename_i free
    split at moved
    · rw [Option.map_eq_some_iff] at moved
      obtain ⟨worker, -, rfl⟩ := moved
      exact .worked worker fun _ => attended_of_free free.2
    · rename_i frame taken take
      rw [Option.map_eq_some_iff] at moved
      obtain ⟨worker, stepped, rfl⟩ := moved
      refine takeQueued_cases take free.2 ?_
      unfold ServiceWorker.takeCommand at stepped
      rw [if_pos free.1] at stepped
      split at stepped
      · rename_i nothing
        cases nothing
      · cases stepped
        trivial
      · cases stepped
        trivial
  · cases moved

theorem worker_takeQueued {taken : ControlLink} (take : link.takeQueued = some (frame, taken)) :
    taken.worker = link.worker := by
  unfold takeQueued at take
  split at take
  · cases take
    rfl
  · rw [Option.map_eq_some_iff] at take
    obtain ⟨⟨first, rest⟩, -, result⟩ := take
    cases result
    rfl

theorem poll_cases (moved : link.poll = some next) : link.Move label next := by
  unfold poll at moved
  split at moved
  · rename_i free
    rw [Option.map_eq_some_iff] at moved
    obtain ⟨⟨frame, taken⟩, take, rfl⟩ := moved
    refine takeQueued_cases take free.2 ?_
    rw [worker_takeQueued take]
    exact ready_of_polling free.1
  · cases moved

theorem publishCompletion_cases (moved : link.publishCompletion view = some next) :
    link.Move label next := by
  unfold publishCompletion at moved
  split at moved
  · rename_i control status frame handled busy
    rw [Option.map_eq_some_iff] at moved
    obtain ⟨worker, -, rfl⟩ := moved
    exact publish_cases busy (fun acts _ => workerAnswer_controlCompletion acts _ _ _) worker
  · cases moved

theorem pollAnswer_cases {begun : Bool} (moved : link.pollAnswer begun answer view = some next) :
    link.Move label next := by
  unfold pollAnswer at moved
  split at moved
  · rw [Option.bind_eq_some_iff] at moved
    obtain ⟨frame, busy, moved⟩ := moved
    split at moved
    · rename_i nothing
      cases moved
      rw [← publish_same_worker]
      refine publish_cases busy (fun acts _ => ?_) link.worker
      exact nothing ▸ workerAnswer_controlCompletion acts .invalid view 0
    · rename_i control decodes
      dsimp only at moved
      split at moved
      · rename_i active closing
        cases moved
        refine .worked _ fun _ other same => ?_
        rw [busy] at same
        cases same
        simp only [closing, decodes, Option.isSome_some]
      · cases moved
        refine publish_cases busy (fun acts _ => ?_) _
        exact decodes ▸ workerAnswer_controlCompletion acts _ view _
  · cases moved

theorem finish_cases (moved : link.finish answer view = some next) : link.Move label next := by
  unfold finish at moved
  split at moved
  · rename_i active frame closing busy
    rw [Option.map_eq_some_iff] at moved
    obtain ⟨worker, -, rfl⟩ := moved
    refine publish_cases busy (fun _ attended => ?_) worker
    have decodes := attended frame busy
    rw [closing] at decodes
    exact .named _ decodes
  · cases moved

theorem workerStep_cases {step : WorkerLabel} (moved : link.workerStep step = some next) :
    link.Move label next := by
  unfold workerStep at moved
  split at moved
  · cases moved
  · cases moved
  · cases moved
  · cases moved
  · rw [Option.map_eq_some_iff] at moved
    obtain ⟨worker, stepped, rfl⟩ := moved
    refine .worked worker fun attended => attended.of_same rfl ?_
    simp only [ServiceWorker.step, Option.some.injEq] at stepped
    subst stepped
    unfold ServiceWorker.serviceUiCommand
    split <;> rfl
  · split at moved
    · rename_i free
      rw [Option.map_eq_some_iff] at moved
      obtain ⟨worker, -, rfl⟩ := moved
      exact .worked worker fun _ => attended_of_free free
    · cases moved

theorem step_cases (moved : link.step label = some next) : link.Move label next := by
  cases label with
  | receive frame view => exact receive_cases moved
  | endWatch =>
      simp only [step] at moved
      split at moved
      · rename_i watching
        cases moved
        exact .watched watching
      · cases moved
  | submit => exact submit_cases moved
  | refuse =>
      simp only [step, refuse] at moved
      split at moved
      · rename_i frame submitting
        split at moved
        · rename_i full
          cases moved
          exact .refused frame submitting (Option.isNone_iff_eq_none.mp full)
        · cases moved
      · cases moved
  | takeCompletion => exact takeCompletion_cases moved
  | expire => exact expire_cases moved
  | takeCommand answer => exact takeCommand_cases moved
  | publishCompletion view => exact publishCompletion_cases moved
  | poll => exact poll_cases moved
  | pollAnswer begun answer view => exact pollAnswer_cases moved
  | finish answer view => exact finish_cases moved
  | worker label => exact workerStep_cases moved

/-- **A command that the worker has taken stays attended.** -/
theorem Move.attended (move : link.Move label next) (attended : link.Attended) :
    next.Attended := by
  cases move with
  | reservedTaken frame rest worker free first ready => exact attended_of_ready ready
  | applicationTaken frame rest worker free empty first ready => exact attended_of_ready ready
  | published => exact attended_of_free rfl
  | worked worker attends => exact attends attended
  | _ => exact attended.of_same rfl rfl

end ControlLink

end Deskkin.Device
