/-
# Circular waits around a revocation

The two locks are taken in both orders: a call under the gate waits for the file
lock with the gate held, an unpair waits for the gate with the file lock held.
And an unpair waits, with the file lock held, for a loop that may itself be
waiting for the file lock or for the gate, and for the sessions that have to end
before the loop acknowledges, which may be waiting too. Each of these closes a
circle. There are no others, and each circle is closed by one of six kinds of steps,
so a run is free of circular waits exactly when it takes none of these steps at the
wrong time.
-/

import Deskkin.Host.LockOrder

namespace Deskkin.Locks

namespace Process

/-! ## The circles -/

/-- Some unpair waits for the thread before it gets its acknowledgement. -/
def Owes (kind : LoopKind) (process : Process) (thread : Thread) : Prop :=
  ∃ index, process.phase (.unpair index) = .awaitsAck ∧ process.acknowledged index = false ∧
    process.Needed kind index thread

/-- The holder of the gate waits for the file lock. -/
def GateBlocked (process : Process) : Prop :=
  ∃ holder, process.gate = some holder ∧ process.phase holder = .gateWantsFile

/-- The thread waits for the file lock, or for a gate whose holder does. -/
def Stuck (process : Process) (thread : Thread) : Prop :=
  (process.phase thread).waitsForFile = true ∨
    process.phase thread = .wantsGate ∧ process.GateBlocked

/-- A thread may take the gate for a call while no unpair waits for it, and no unpair
for a thread that wants it. An unpair may go on to wait for threads of which none
waits for the file lock. -/
def OrderedProceed (kind : LoopKind) (process : Process) (thread : Thread) : Prop :=
  match process.phase thread with
  | .wantsGate =>
      (∀ index, process.phase (.unpair index) ≠ .fileWantsGate) ∧
        ∀ other, process.phase other = .wantsGate → ¬process.Owes kind other
  | .renamed =>
      ∀ index, thread = .unpair index → process.acknowledged index = false →
        ∀ other, process.Needed kind index other → process.phase other ≠ .wantsFile
  | _ => True

/-- The state before a step that closes no circle. Beside the above, an unpair
decides to revoke while the holder of the gate does not wait for the file lock, a
thread begins to wait for the file lock, or for a gate whose holder does, while no
unpair waits for it, and the accept loop takes a revocation that is waited for while
no session waits for the file lock or for such a gate. -/
def Ordered (kind : LoopKind) (process : Process) : Label → Prop
  | .proceed thread => process.OrderedProceed kind thread
  | .decide _ true => ¬process.GateBlocked
  | .takeEvent true => ¬process.Owes kind .loop
  | .takeEvent false =>
      ∀ index, process.events.head? = some (.identityRevoked index) →
        process.phase (.unpair index) = .awaitsAck → process.acknowledged index = false →
          process.ready kind = false → ∀ other, process.Serving other → ¬process.Stuck other
  | .call thread true => process.Owes kind thread → ¬process.GateBlocked
  | .call thread false => ¬process.Owes kind thread
  | _ => True

/-- The locks are held by the threads whose phase says so, only an unpair is in a
phase of an unpair, and a task has its connection. -/
structure Consistent (process : Process) : Prop where
  file : ∀ thread, (process.phase thread).holdsFile = true ↔ process.file = some thread
  gate : ∀ thread, (process.phase thread).holdsGate = true ↔ process.gate = some thread
  roles : ∀ thread, (process.phase thread).ofUnpair = true → ∃ index, thread = .unpair index
  connected : ∀ index ∈ process.tasks, index ∈ process.connections

/-- None of the circles is closed. -/
structure Open (kind : LoopKind) (process : Process) : Prop where
  unpair : ∀ index, process.phase (.unpair index) = .fileWantsGate → ¬process.GateBlocked
  free : ∀ thread, process.Owes kind thread → ¬process.Stuck thread

variable {kind : LoopKind} {process next : Process}

variable {index : ℕ}

theorem Consistent.gateBlocked (consistent : process.Consistent) {thread : Thread}
    (blocked : process.phase thread = .gateWantsFile) : process.GateBlocked := by
  refine ⟨thread, ?_, blocked⟩
  rw [← consistent.gate, blocked]
  rfl

/-- No unpair waits for another one. -/
theorem Needed.not_unpair {index other : ℕ} (needed : process.Needed kind index (.unpair other)) :
    False := by
  obtain same | ⟨_, _, ⟨_, _, same⟩ | ⟨_, _, same⟩⟩ := needed <;> cases same

theorem Owes.not_unpair (owes : process.Owes kind (.unpair index)) : False := by
  obtain ⟨_, _, _, needed⟩ := owes
  exact needed.not_unpair

theorem waitsForFile_iff {phase : Phase} : phase.waitsForFile = true ↔
    phase = .gateWantsFile ∨ phase = .wantsFile ∨ phase = .startsUnpair := by
  cases phase <;> simp [Phase.waitsForFile]

theorem not_stuck_of_idle {thread : Thread} (idle : process.phase thread = .idle) :
    ¬process.Stuck thread := by
  simp [Stuck, idle, Phase.waitsForFile]

/-! ## No circle, no circular wait -/

section

variable (consistent : process.Consistent)
include consistent

end

/-- Who holds a lock after a move. -/
theorem holder_of_move {phases : Thread → Phase} {held : Option Thread} {holds : Phase → Bool}
    {thread : Thread} {next : Phase}
    (before : ∀ other, holds (phases other) = true ↔ held = some other)
    (free : holds next = true → holds (phases thread) = false → held = none) :
    ∀ other, holds (Function.update phases thread next other) = true ↔
      (if holds next then some thread else if holds (phases thread) then none else held) =
        some other := by
  intro other
  by_cases same : other = thread
  · rw [same, Function.update_self]
    cases taken : holds next with
    | true => simp
    | false =>
        cases had : holds (phases thread) with
        | true => simp
        | false =>
            have none_ := (before thread).not.mp (by simp [had])
            simpa using none_
  · rw [Function.update_of_ne same]
    have different : ¬thread = other := fun h => same h.symm
    cases had : holds (phases thread) with
    | true =>
        have mine := (before thread).mp had
        have others : ¬holds (phases other) = true := by
          intro theirs
          rw [(before other).mp theirs] at mine
          exact same (Option.some.inj mine)
        cases holds next <;> simp [others, different]
    | false =>
        cases taken : holds next with
        | true =>
            have nobody := free taken had
            simp [before other, nobody, different]
        | false => simpa using before other

section Moves

variable {thread : Thread} {target : Phase} {moved : Process}

theorem move_spec (taken : process.move thread target = some moved) :
    moved.phase = Function.update process.phase thread target ∧
      moved.acknowledged = process.acknowledged ∧
      moved.file = (if target.holdsFile then some thread
        else if (process.phase thread).holdsFile then none else process.file) ∧
      moved.gate = (if target.holdsGate then some thread
        else if (process.phase thread).holdsGate then none else process.gate) ∧
      (target.holdsFile = true → (process.phase thread).holdsFile = false →
        process.file = none) ∧
      (target.holdsGate = true → (process.phase thread).holdsGate = false →
        process.gate = none) := by
  simp only [move, Option.ite_none_left_eq_some, Option.some.injEq] at taken
  obtain ⟨file, gate, rfl⟩ := taken
  refine ⟨rfl, rfl, rfl, rfl, ?_, ?_⟩
  · intro wants lacks
    simpa [wants, lacks] using file
  · intro wants lacks
    simpa [wants, lacks] using gate

theorem connected_of_move (taken : process.move thread target = some moved) :
    (∀ index ∈ process.tasks, index ∈ process.connections) =
      ∀ index ∈ moved.tasks, index ∈ moved.connections := by
  simp only [move, Option.ite_none_left_eq_some, Option.some.injEq] at taken
  obtain ⟨_, _, rfl⟩ := taken
  rfl

variable {other : Thread}

section

variable (taken : process.move thread target = some moved)
include taken

/-- No move changes what an acknowledgement waits for. -/
theorem needed_of_move {index : ℕ} :
    moved.Needed kind index other ↔ process.Needed kind index other := by
  simp only [move, Option.ite_none_left_eq_some, Option.some.injEq] at taken
  obtain ⟨_, _, rfl⟩ := taken
  exact Iff.rfl

omit taken in
/-- A move keeps the locks with the threads whose phase holds them. -/
theorem Consistent.move (consistent : process.Consistent)
    (role : target.ofUnpair = true → ∃ index, thread = .unpair index)
    (taken : process.move thread target = some moved) : moved.Consistent := by
  obtain ⟨phase, _, file, gate, fileFree, gateFree⟩ := move_spec taken
  refine ⟨?_, ?_, ?_, connected_of_move taken ▸ consistent.connected⟩
  · rw [phase, file]
    exact holder_of_move consistent.file fileFree
  · rw [phase, gate]
    exact holder_of_move consistent.gate gateFree
  · intro other of
    rw [phase] at of
    by_cases same : other = thread
    · rw [same, Function.update_self] at of
      rw [same]
      exact role of
    · rw [Function.update_of_ne same] at of
      exact consistent.roles other of

/-- A thread other than the one that moves is where it was. -/
theorem phase_of_move (different : other ≠ thread) : moved.phase other = process.phase other := by
  rw [(move_spec taken).1, Function.update_of_ne different]

theorem phase_of_move_self : moved.phase thread = target := by
  rw [(move_spec taken).1, Function.update_self]

omit taken in
theorem gateBlocked_of_move (consistent : process.Consistent)
    (taken : process.move thread target = some moved) (blocked : moved.GateBlocked) :
    target = .gateWantsFile ∨ process.GateBlocked := by
  obtain ⟨holder, _, wants⟩ := blocked
  by_cases same : holder = thread
  · rw [same, phase_of_move_self taken] at wants
    exact .inl wants
  · rw [phase_of_move taken same] at wants
    exact .inr (consistent.gateBlocked wants)

theorem owes_of_move (owes : moved.Owes kind other) :
    (∃ index, thread = .unpair index ∧ target = .awaitsAck ∧
      process.acknowledged index = false ∧ process.Needed kind index other) ∨
      process.Owes kind other := by
  obtain ⟨index, awaits, owed, needed⟩ := owes
  rw [(move_spec taken).2.1] at owed
  rw [needed_of_move taken] at needed
  by_cases same : .unpair index = thread
  · subst same
    rw [phase_of_move_self taken] at awaits
    exact .inl ⟨index, rfl, awaits, owed, needed⟩
  · rw [phase_of_move taken same] at awaits
    exact .inr ⟨index, awaits, owed, needed⟩

end

variable (consistent : process.Consistent)
include consistent

/-- An unpair that has renamed the revocation goes on to wait for threads that are not
stuck: the gate is its own. -/
theorem not_stuck_of_renamed {index : ℕ} (renamed : process.phase (.unpair index) = .renamed)
    (needed : process.Needed kind index other) (calm : process.phase other ≠ .wantsFile) :
    ¬process.Stuck other := by
  have held : process.gate = some (.unpair index) := by
    rw [← consistent.gate, renamed]
    rfl
  rintro (wants | ⟨_, holder, gate, wants⟩)
  · rcases waitsForFile_iff.mp wants with phase | phase | phase
    · have mine := (consistent.gate other).mp (by rw [phase]; rfl)
      rw [held] at mine
      cases mine
      exact needed.not_unpair
    · exact calm phase
    · obtain ⟨unpair, rfl⟩ := consistent.roles other (by rw [phase]; rfl)
      exact needed.not_unpair
  · rw [held] at gate
    cases gate
    rw [renamed] at wants
    cases wants

/-- A move that closes no circle. Only a move into a phase that waits can close
one. -/
theorem Open.move (opened : process.Open kind) (taken : process.move thread target = some moved)
    (role : target.ofUnpair = true → ∃ index, thread = .unpair index)
    (toGate : target = .fileWantsGate → ¬process.GateBlocked)
    (toFile : target = .gateWantsFile → process.phase thread = .wantsGate ∧
      (∀ index, process.phase (.unpair index) ≠ .fileWantsGate) ∧
        ∀ other, process.phase other = .wantsGate → ¬process.Owes kind other)
    (toAck : target = .awaitsAck → process.phase thread = .renamed ∧
      ∀ index, thread = .unpair index → process.acknowledged index = false →
        ∀ other, process.Needed kind index other → process.phase other ≠ .wantsFile)
    (reads : target = .wantsFile → ¬process.Owes kind thread)
    (calls : target = .wantsGate → process.Owes kind thread → ¬process.GateBlocked) :
    moved.Open kind := by
  refine ⟨?_, ?_⟩
  · intro index waits blocked
    by_cases same : .unpair index = thread
    · subst same
      rw [phase_of_move_self taken] at waits
      rcases gateBlocked_of_move consistent taken blocked with took | before
      · rw [waits] at took
        cases took
      · exact toGate waits before
    · rw [phase_of_move taken same] at waits
      rcases gateBlocked_of_move consistent taken blocked with took | before
      · exact (toFile took).2.1 index waits
      · exact opened.unpair index waits before
  · intro other owes stuck
    rcases owes_of_move taken owes with ⟨index, rfl, awaits, owed, needed⟩ | before
    · obtain ⟨renamed, calm⟩ := toAck awaits
      have still : moved.phase other = process.phase other := by
        apply phase_of_move taken
        rintro rfl
        exact needed.not_unpair
      apply not_stuck_of_renamed consistent renamed needed (calm index rfl owed other needed)
      rw [Stuck, still] at stuck
      refine stuck.imp_right fun waits => ⟨waits.1, ?_⟩
      rcases gateBlocked_of_move consistent taken waits.2 with took | earlier
      · rw [awaits] at took
        cases took
      · exact earlier
    · by_cases same : other = thread
      · subst same
        rw [Stuck, phase_of_move_self taken] at stuck
        rcases stuck with wants | ⟨waits, blocked⟩
        · rcases waitsForFile_iff.mp wants with took | took | took
          · exact (toFile took).2.2 other (toFile took).1 before
          · exact reads took before
          · obtain ⟨index, rfl⟩ := role (by rw [took]; rfl)
            exact before.not_unpair
        · rcases gateBlocked_of_move consistent taken blocked with took | earlier
          · rw [waits] at took
            cases took
          · exact calls waits before earlier
      · rw [Stuck, phase_of_move taken same] at stuck
        rcases stuck with wants | ⟨waits, blocked⟩
        · exact opened.free other before (.inl wants)
        · rcases gateBlocked_of_move consistent taken blocked with took | earlier
          · exact (toFile took).2.2 other waits before
          · exact opened.free other before (.inr ⟨waits, earlier⟩)

/-- A move into a phase that waits for nothing. -/
theorem Open.calm (opened : process.Open kind) (taken : process.move thread target = some moved)
    (role : target.ofUnpair = true → ∃ index, thread = .unpair index)
    (calm : target ≠ .fileWantsGate ∧ target ≠ .gateWantsFile ∧ target ≠ .awaitsAck ∧
      target ≠ .wantsFile ∧ target ≠ .wantsGate) : moved.Open kind :=
  opened.move consistent taken role (fun same => absurd same calm.1)
    (fun same => absurd same calm.2.1) (fun same => absurd same calm.2.2.1)
    (fun same => absurd same calm.2.2.2.1) (fun same => absurd same calm.2.2.2.2)

end Moves

/-! ## Steps -/

section Steps

theorem ofUnpair_next {phase target : Phase} (goes : phase.next = some target)
    (unpair : target.ofUnpair = true) : phase.ofUnpair = true := by
  cases phase <;> simp only [Phase.next, Option.some.injEq, reduceCtorEq] at goes <;>
    subst goes <;> first | rfl | cases unpair

/-- What the owner events and the acknowledgements say does not matter for who
holds which lock. -/
theorem Consistent.congr (consistent : process.Consistent) (phase : next.phase = process.phase)
    (file : next.file = process.file) (gate : next.gate = process.gate)
    (connected : ∀ index ∈ next.tasks, index ∈ next.connections) : next.Consistent := by
  refine ⟨?_, ?_, ?_, connected⟩
  · rw [phase, file]
    exact consistent.file
  · rw [phase, gate]
    exact consistent.gate
  · rw [phase]
    exact consistent.roles

theorem stuck_congr (phase : next.phase = process.phase) (gate : next.gate = process.gate)
    (thread : Thread) : next.Stuck thread ↔ process.Stuck thread := by
  unfold Stuck GateBlocked
  rw [phase, gate]

/-- A step without a move closes no circle where the threads that unpairs begin to wait
for are not stuck. -/
theorem Open.congr (opened : process.Open kind) (phase : next.phase = process.phase)
    (gate : next.gate = process.gate)
    (calm : ∀ thread, next.Owes kind thread → process.Owes kind thread ∨ ¬process.Stuck thread) :
    next.Open kind := by
  refine ⟨?_, ?_⟩
  · intro index
    unfold GateBlocked
    rw [phase, gate]
    exact opened.unpair index
  · intro thread owes
    rw [stuck_congr phase gate]
    exact (calm thread owes).elim (opened.free thread) id

/-- Where no acknowledgement is sent, only the threads at work can be new among those that
unpairs wait for. -/
theorem Open.serving (opened : process.Open kind) (phase : next.phase = process.phase)
    (gate : next.gate = process.gate) (acknowledged : next.acknowledged = process.acknowledged)
    (calm : ∀ index thread, process.phase (.unpair index) = .awaitsAck →
      process.acknowledged index = false → next.revocationAck = some index →
        next.ready kind = false → next.Serving thread →
          process.Needed kind index thread ∨ ¬process.Stuck thread) :
    next.Open kind := by
  apply opened.congr phase gate
  rintro thread ⟨index, awaits, owed, rfl | ⟨acks, waits, serving⟩⟩
  · exact .inl ⟨index, phase ▸ awaits, acknowledged ▸ owed, .inl rfl⟩
  · rw [phase] at awaits
    rw [acknowledged] at owed
    refine (calm index thread awaits owed acks waits serving).imp_left fun needed => ?_
    exact ⟨index, awaits, owed, needed⟩

theorem call_spec {thread : Thread} {gated : Bool}
    (taken : process.call kind thread gated = some next) :
    process.phase thread = .idle ∧ process.mayCall kind thread gated = true ∧
      process.move thread (if gated then .wantsGate else .wantsFile) = some next := by
  simp only [call, Option.ite_none_right_eq_some] at taken
  exact ⟨taken.1.1, taken.1.2, taken.2⟩

theorem giveUp_spec {thread : Thread} (taken : process.giveUp thread = some next) :
    (∃ index, thread = .unpair index ∧ process.move thread .done = some next) ∨
      process.move thread .idle = some next := by
  cases thread with
  | unpair index =>
      simp only [giveUp, Option.ite_none_left_eq_some] at taken
      exact .inl ⟨index, rfl, taken.2⟩
  | user index => exact .inr taken
  | loop => exact .inr taken

theorem rename_spec {index : ℕ} {notify : Bool}
    (taken : process.rename index notify = some next) :
    ∃ moved, process.move (.unpair index) .renamed = some moved ∧
      next.phase = moved.phase ∧ next.file = moved.file ∧ next.gate = moved.gate ∧
      next.tasks = moved.tasks ∧ next.connections = moved.connections ∧
      ∀ thread, next.Owes kind thread → moved.Owes kind thread := by
  simp only [rename, Option.ite_none_right_eq_some, Option.map_eq_some_iff] at taken
  obtain ⟨_, moved, here, rfl⟩ := taken
  refine ⟨moved, here, rfl, rfl, rfl, rfl, rfl, ?_⟩
  rintro thread ⟨other, awaits, owed, needed⟩
  refine ⟨other, awaits, ?_, needed⟩
  by_cases same : other = index
  · rw [same] at awaits
    have there := phase_of_move_self here
    change moved.phase (.unpair index) = .awaitsAck at awaits
    rw [there] at awaits
    cases awaits
  · exact (Function.update_of_ne same _ _).symm.trans owed

/-- Taking an event starts the read of the accept loop, or leaves every thread and lock
where it is. -/
theorem takeEvent_spec {read : Bool} (taken : process.takeEvent kind read = some next) :
    process.phase .loop = .idle ∧ ∃ rest,
      (read = true ∧ move { process with events := rest } .loop .wantsFile = some next ∨
        read = false ∧ (next = { process with events := rest } ∧
            (∀ index, process.events.head? ≠ some (.identityRevoked index)) ∨
          ∃ index controls, process.events.head? = some (.identityRevoked index) ∧
            next = { process with
              events := rest, revocationAck := some index, controls := controls })) := by
  simp only [takeEvent, Option.ite_none_right_eq_some] at taken
  obtain ⟨⟨idle, _⟩, taken⟩ := taken
  refine ⟨idle, ?_⟩
  cases queue : process.events with
  | nil => simp [queue] at taken
  | cons event rest =>
      refine ⟨rest, ?_⟩
      cases event with
      | identityRevoked index =>
          simp only [queue, Option.ite_none_left_eq_some, Option.some.injEq] at taken
          obtain ⟨skips, rfl⟩ := taken
          exact .inr ⟨by simpa using skips, .inr ⟨index, _, rfl, rfl⟩⟩
      | pairingWindowOpen =>
          simp only [queue] at taken
          cases read with
          | true =>
              simp only [if_true, Option.ite_none_right_eq_some] at taken
              exact .inl ⟨rfl, taken.2⟩
          | false =>
              simp only [Bool.false_eq_true, if_false, Option.some.injEq] at taken
              exact .inr ⟨rfl, .inl ⟨taken.symm, nofun⟩⟩

/-- An acknowledgement leaves only the loop to be waited for. -/
theorem owes_of_acknowledge {thread : Thread}
    (owes : (process.acknowledge kind).Owes kind thread) : process.Owes kind thread := by
  obtain ⟨index, awaits, owed, needed⟩ := owes
  refine ⟨index, awaits, ?_, .inl (needed.resolve_right nofun)⟩
  cases acks : process.revocationAck with
  | none => simpa [acknowledge, acks] using owed
  | some acked =>
      by_cases same : index = acked
      · subst same
        simp [acknowledge, acks] at owed
      · simpa [acknowledge, acks, same] using owed

/-- Connections whose tasks have ended are what a drain takes away. -/
theorem ready_of_drain (consistent : process.Consistent)
    (before : process.ready kind = true) :
    ready { process with settled := false, connections := process.tasks } kind = true := by
  cases kind with
  | userInterface => exact before
  | acceptLoop =>
      have none_ : process.connections = [] := List.isEmpty_iff.mp before
      refine List.isEmpty_iff.mpr (List.eq_nil_iff_forall_not_mem.mpr fun index member => ?_)
      have connected := consistent.connected index member
      rw [none_] at connected
      cases connected

/-- What the step that accepts a connection or takes a command has looked at. -/
theorem ready_of_accept {index : ℕ} (may : process.mayAccept kind index = true)
    {connections : List ℕ} (owed : process.revocationAck.isSome = true)
    (waits : ready { process with connections := connections } kind = false) :
    process.ready kind = false := by
  cases kind with
  | userInterface => exact waits
  | acceptLoop =>
      simp only [mayAccept, owed, Bool.true_and, Bool.and_eq_true, Bool.not_eq_true'] at may
      exact may.2

variable {label : Label}

/-- A guarded step is taken where its guard holds. -/
theorem of_guarded {guard : Prop} {_ : Decidable guard} {after : Process}
    (taken : (if guard then some after else none) = some next) : guard ∧ after = next := by
  simpa using taken

/-- Every step keeps the locks with the threads whose phase holds them. -/
theorem Consistent.step (consistent : process.Consistent)
    (taken : process.step kind label = some next) : next.Consistent := by
  cases label with
  | call thread gated =>
      obtain ⟨_, _, moved⟩ := call_spec taken
      refine consistent.move ?_ moved
      cases gated <;> nofun
  | proceed thread =>
      obtain ⟨target, goes, moved⟩ := Option.bind_eq_some_iff.mp taken
      exact consistent.move (fun of => consistent.roles thread (ofUnpair_next goes of)) moved
  | giveUp thread =>
      rcases giveUp_spec taken with ⟨index, rfl, moved⟩ | moved
      · exact consistent.move (fun _ => ⟨index, rfl⟩) moved
      · exact consistent.move (by intro of; cases of) moved
  | unpair index =>
      simp only [Process.step, Option.ite_none_right_eq_some] at taken
      exact consistent.move (fun _ => ⟨index, rfl⟩) taken.2
  | decide index revoke =>
      simp only [Process.step, Option.ite_none_right_eq_some] at taken
      exact consistent.move (fun _ => ⟨index, rfl⟩) taken.2
  | rename index notify =>
      obtain ⟨moved, here, phase, file, gate, tasks, connections, _⟩ :=
        @rename_spec kind _ _ _ _ taken
      have after := consistent.move (fun _ => ⟨index, rfl⟩) here
      exact after.congr phase file gate (by rw [tasks, connections]; exact after.connected)
  | joined index =>
      simp only [Process.step, Option.ite_none_right_eq_some] at taken
      exact consistent.move (fun _ => ⟨index, rfl⟩) taken.2
  | openPairingWindow =>
      cases taken
      exact consistent.congr rfl rfl rfl consistent.connected
  | takeEvent read =>
      obtain ⟨_, rest, ⟨_, moved⟩ | ⟨_, ⟨rfl, _⟩ | ⟨index, controls, _, rfl⟩⟩⟩ :=
        takeEvent_spec taken
      · have earlier : Consistent { process with events := rest } :=
          consistent.congr rfl rfl rfl consistent.connected
        exact earlier.move (by intro of; cases of) moved
      · exact consistent.congr rfl rfl rfl consistent.connected
      · exact consistent.congr rfl rfl rfl consistent.connected
  | drain =>
      obtain ⟨_, rfl⟩ := of_guarded taken
      exact consistent.congr rfl rfl rfl fun _ member => member
  | accept index =>
      obtain ⟨_, rfl⟩ := of_guarded taken
      refine consistent.congr rfl rfl rfl fun other member => ?_
      obtain rfl | member := List.mem_cons.mp member
      · exact List.mem_cons_self
      · exact List.mem_cons_of_mem _ (consistent.connected other member)
  | finish index =>
      obtain ⟨_, rfl⟩ := of_guarded taken
      refine consistent.congr rfl rfl rfl fun other member => ?_
      exact consistent.connected other (List.mem_of_mem_erase member)
  | settle | sendAck | startWriter | endWriter | closeNetwork | answerControl =>
      obtain ⟨_, rfl⟩ := of_guarded taken
      exact consistent.congr rfl rfl rfl consistent.connected

/-- An ordered step closes no circle. -/
theorem Open.step (consistent : process.Consistent) (opened : process.Open kind)
    (ordered : process.Ordered kind label) (taken : process.step kind label = some next) :
    next.Open kind := by
  cases label with
  | call thread gated =>
      obtain ⟨_, _, moved⟩ := call_spec taken
      cases gated with
      | true => exact opened.move consistent moved nofun nofun nofun nofun nofun fun _ => ordered
      | false =>
          exact opened.move consistent moved nofun nofun nofun nofun (fun _ => ordered) nofun
  | proceed thread =>
      obtain ⟨target, goes, moved⟩ := Option.bind_eq_some_iff.mp taken
      have role : target.ofUnpair = true → ∃ index, thread = .unpair index :=
        fun of => consistent.roles thread (ofUnpair_next goes of)
      cases phase : process.phase thread <;>
        simp only [phase, Phase.next, Option.some.injEq, reduceCtorEq] at goes <;> subst goes
      case wantsGate =>
        simp only [Ordered, OrderedProceed, phase] at ordered
        exact opened.move consistent moved role nofun (fun _ => ⟨phase, ordered⟩) nofun nofun nofun
      case renamed =>
        simp only [Ordered, OrderedProceed, phase] at ordered
        exact opened.move consistent moved role nofun nofun (fun _ => ⟨phase, ordered⟩) nofun nofun
      all_goals exact opened.calm consistent moved role ⟨nofun, nofun, nofun, nofun, nofun⟩
  | giveUp thread =>
      rcases giveUp_spec taken with ⟨index, rfl, moved⟩ | moved
      · exact opened.calm consistent moved (fun _ => ⟨index, rfl⟩)
          ⟨nofun, nofun, nofun, nofun, nofun⟩
      · exact opened.calm consistent moved nofun ⟨nofun, nofun, nofun, nofun, nofun⟩
  | unpair index =>
      simp only [Process.step, Option.ite_none_right_eq_some] at taken
      exact opened.calm consistent taken.2 (fun _ => ⟨index, rfl⟩)
        ⟨nofun, nofun, nofun, nofun, nofun⟩
  | decide index revoke =>
      simp only [Process.step, Option.ite_none_right_eq_some] at taken
      cases revoke with
      | true =>
          exact opened.move consistent taken.2 (fun _ => ⟨index, rfl⟩) (fun _ => ordered) nofun
            nofun nofun nofun
      | false =>
          exact opened.calm consistent taken.2 (fun _ => ⟨index, rfl⟩)
            ⟨nofun, nofun, nofun, nofun, nofun⟩
  | rename index notify =>
      obtain ⟨moved, here, phase, _, gate, _, _, fewer⟩ := rename_spec taken
      exact (opened.calm consistent here (fun _ => ⟨index, rfl⟩)
        ⟨nofun, nofun, nofun, nofun, nofun⟩).congr phase gate fun thread owes =>
          .inl (fewer thread owes)
  | joined index =>
      simp only [Process.step, Option.ite_none_right_eq_some] at taken
      exact opened.calm consistent taken.2 (fun _ => ⟨index, rfl⟩)
        ⟨nofun, nofun, nofun, nofun, nofun⟩
  | openPairingWindow =>
      cases taken
      exact opened.congr rfl rfl fun _ owes => .inl owes
  | takeEvent read =>
      obtain ⟨_, rest, ⟨rfl, moved⟩ | ⟨rfl, ⟨rfl, _⟩ | ⟨index, controls, head, rfl⟩⟩⟩ :=
        takeEvent_spec taken
      · have earlier : Consistent { process with events := rest } :=
          consistent.congr rfl rfl rfl consistent.connected
        have calm : Open kind { process with events := rest } :=
          opened.congr rfl rfl fun _ owes => .inl owes
        exact calm.move earlier moved nofun nofun nofun nofun (fun _ => ordered) nofun
      · exact opened.congr rfl rfl fun _ owes => .inl owes
      · refine opened.serving rfl rfl rfl fun other thread awaits owed acks waits serving => ?_
        cases acks
        exact .inr (ordered _ head awaits owed waits thread serving)
  | drain =>
      obtain ⟨_, rfl⟩ := of_guarded taken
      refine opened.serving rfl rfl rfl fun index thread _ _ acks waits serving => .inl (.inr ?_)
      refine ⟨acks, ?_, serving⟩
      by_contra ready
      have still := ready_of_drain consistent (Bool.of_not_eq_false ready)
      rw [waits] at still
      cases still
  | sendAck =>
      obtain ⟨_, rfl⟩ := of_guarded taken
      exact opened.congr rfl rfl fun thread owes => .inl (owes_of_acknowledge owes)
  | accept index =>
      obtain ⟨⟨idle, _, may⟩, rfl⟩ := of_guarded taken
      refine opened.serving rfl rfl rfl fun other thread _ _ acks waits serving => ?_
      have before := ready_of_accept may (by rw [acks]; rfl) waits
      obtain ⟨task, member, rfl⟩ | writing := serving
      · obtain rfl | member := List.mem_cons.mp member
        · exact .inr (not_stuck_of_idle idle)
        · exact .inl (.inr ⟨acks, before, .inl ⟨task, member, rfl⟩⟩)
      · exact .inl (.inr ⟨acks, before, .inr writing⟩)
  | startWriter task writer =>
      obtain ⟨⟨_, _, _, _, idle, _⟩, rfl⟩ := of_guarded taken
      refine opened.serving rfl rfl rfl fun other thread _ _ acks waits serving => ?_
      obtain serving | ⟨entry, member, rfl⟩ := serving
      · exact .inl (.inr ⟨acks, waits, .inl serving⟩)
      · obtain rfl | member := List.mem_cons.mp member
        · exact .inr (not_stuck_of_idle idle)
        · exact .inl (.inr ⟨acks, waits, .inr ⟨entry, member, rfl⟩⟩)
  | endWriter task writer =>
      obtain ⟨_, rfl⟩ := of_guarded taken
      refine opened.serving rfl rfl rfl fun index thread _ _ acks waits serving => .inl (.inr ?_)
      refine ⟨acks, waits, serving.imp_right ?_⟩
      exact fun ⟨entry, member, same⟩ => ⟨entry, List.mem_of_mem_erase member, same⟩
  | finish index =>
      obtain ⟨_, rfl⟩ := of_guarded taken
      refine opened.serving rfl rfl rfl fun index thread _ _ acks waits serving => .inl (.inr ?_)
      refine ⟨acks, waits, serving.imp_left ?_⟩
      exact fun ⟨task, member, same⟩ => ⟨task, List.mem_of_mem_erase member, same⟩
  | answerControl =>
      obtain ⟨⟨rfl, _⟩, rfl⟩ := of_guarded taken
      refine opened.serving rfl rfl rfl fun index thread _ _ acks waits serving => ?_
      simp [ready] at waits
  | settle | closeNetwork =>
      obtain ⟨_, rfl⟩ := of_guarded taken
      exact opened.congr rfl rfl fun _ owes => .inl owes

theorem Owes.move {thread other : Thread} {target : Phase} (owes : process.Owes kind other)
    (taken : process.move thread target = some next)
    (elsewhere : process.phase thread ≠ .awaitsAck) : next.Owes kind other := by
  obtain ⟨index, awaits, owed, needed⟩ := owes
  have different : .unpair index ≠ thread := by
    rintro rfl
    exact elsewhere awaits
  refine ⟨index, ?_, ?_, (needed_of_move taken).mpr needed⟩
  · rw [phase_of_move taken different]
    exact awaits
  · rw [(move_spec taken).2.1]
    exact owed

theorem GateBlocked.move {thread : Thread} {target : Phase} (blocked : process.GateBlocked)
    (consistent : next.Consistent) (taken : process.move thread target = some next)
    (other : process.phase thread ≠ .gateWantsFile) : next.GateBlocked := by
  obtain ⟨holder, _, wants⟩ := blocked
  have different : holder ≠ thread := by
    intro same
    rw [← same] at other
    exact other wants
  exact consistent.gateBlocked ((phase_of_move taken different).trans wants)

end Steps

/-! ## Runs -/

/-- The writer of a session, and then an unpair that the accept loop acknowledges once the
session has come to its end. -/
def sampleRun : List Label :=
  [.settle, .accept 0, .startWriter 0 1, .call (.user 1) true, .proceed (.user 1),
    .proceed (.user 1), .proceed (.user 1), .proceed (.user 1), .unpair 0, .proceed (.unpair 0),
    .decide 0 true, .proceed (.unpair 0), .rename 0 true, .proceed (.unpair 0), .drain,
    .takeEvent false, .settle, .endWriter 0 1, .finish 0, .drain, .settle, .sendAck, .joined 0]

end Process

end Deskkin.Locks
