/-
# Reads of the mailboxes

Each mailbox is a pair of threads over its cell: the publisher is called with any
value, the reader at any time, and their accesses interleave in any order. Fewer
than 2³² values are published. What a reader accepts is then a publication as a
whole, later ones have later numbers, and no command is taken twice.

The heartbeat has two writers besides its publisher. The entry probe of the
renderer copies a heartbeat over the last one while its number stands and then
goes back to number one, and the heap initialization stores two words into the
last heartbeat. What is said of the heartbeat is said of the runs without them.
-/

import Deskkin.Amp.Mailboxes

namespace Deskkin.Amp

open Program Seqlock

/-! ## The mailboxes as pairs of threads -/

/-- A publication of a value of this size may start. -/
def roomFor (size : ℕ) (cut : List ℕ) (cell : Mailbox) : Bool :=
  cut.sum = size ∧ cell.published.length + 1 < 2 ^ 32

/-- A reader that takes what one call of its program comes to. -/
def receive (program : Receiver → Program Mailbox Reading) (receiver : Receiver) :
    Program Mailbox Receiver := do
  let reading ← program receiver
  return receiver.take reading

def worldDuo : Duo Mailbox UInt32 Receiver (List ℕ × WorldView) (List ℕ) where
  initial := .cleared WorldSnapshot.size
  firstKept := 0
  secondKept := .fresh
  mayCall input := roomFor WorldSnapshot.size input.1
  mayRead cut := cut.sum = WorldSnapshot.size
  first input := publishWorldSnapshot input.1 input.2
  second cut := receive fun _ => worldSnapshot cut 3

def commandDuo : Duo Mailbox Unit Receiver (List ℕ × UInt8) (List ℕ) where
  initial := .cleared UiCommand.size
  firstKept := ()
  secondKept := .fresh
  mayCall input := roomFor UiCommand.size input.1
  mayRead cut := cut.sum = UiCommand.size
  first input _ := publishUiCommand input.1 input.2
  second cut := receive fun receiver => receiveUiCommand cut receiver.received

def targetYawDuo : Duo Mailbox Unit Receiver (List ℕ × Int64) (List ℕ) where
  initial := .cleared TargetYaw.size
  firstKept := ()
  secondKept := .fresh
  mayCall input := roomFor TargetYaw.size input.1
  mayRead cut := cut.sum = TargetYaw.size
  first input _ := publishTargetYaw input.1 input.2
  second cut := receive fun _ => updateObservedYaw cut

/-- What the renderer core does with the heartbeat. -/
inductive RendererCall
  | observe (cut : List ℕ) (measures : Measures)
  | entryProbe (cut : List ℕ)
  | initializeHeap (address size : UInt32)

/-- The two that do not take the number away first. -/
def RendererCall.Unguarded : RendererCall → Prop
  | .observe _ _ => False
  | .entryProbe _ => True
  | .initializeHeap _ _ => True

instance (call : RendererCall) : Decidable call.Unguarded := by
  cases call <;> (unfold RendererCall.Unguarded; infer_instance)

def RendererCall.mayCall (cell : Mailbox) : RendererCall → Bool
  | .observe cut _ => roomFor Heartbeat.size cut cell
  | .entryProbe cut => roomFor Heartbeat.size cut cell
  | .initializeHeap _ _ => true

def RendererCall.program : RendererCall → UInt32 → Program Mailbox UInt32
  | .observe cut measures => rendererObserve cut measures
  | .entryProbe cut => rendererEntryProbe cut
  | .initializeHeap address size => initializeRendererHeap address size

def rendererDuo : Duo Mailbox UInt32 Receiver RendererCall (List ℕ) where
  initial := .cleared Heartbeat.size
  firstKept := 0
  secondKept := .fresh
  mayCall call cell := call.mayCall cell
  mayRead cut := cut.sum = Heartbeat.size
  first := RendererCall.program
  second cut := receive fun receiver => receiveHeartbeat cut receiver.received 3

/-! ## All four -/

structure AmpState where
  world : Duo.State Mailbox UInt32 Receiver
  command : Duo.State Mailbox Unit Receiver
  targetYaw : Duo.State Mailbox Unit Receiver
  renderer : Duo.State Mailbox UInt32 Receiver

inductive AmpMove
  | world (move : Duo.Move (List ℕ × WorldView) (List ℕ))
  | command (move : Duo.Move (List ℕ × UInt8) (List ℕ))
  | targetYaw (move : Duo.Move (List ℕ × Int64) (List ℕ))
  | renderer (move : Duo.Move RendererCall (List ℕ))

def AmpState.step (s : AmpState) : AmpMove → Option AmpState
  | .world move => (worldDuo.step s.world move).map fun world => { s with world := world }
  | .command move =>
      (commandDuo.step s.command move).map fun command => { s with command := command }
  | .targetYaw move =>
      (targetYawDuo.step s.targetYaw move).map fun targetYaw => { s with targetYaw := targetYaw }
  | .renderer move =>
      (rendererDuo.step s.renderer move).map fun renderer => { s with renderer := renderer }

def AmpState.started : AmpState :=
  ⟨worldDuo.start, commandDuo.start, targetYawDuo.start, rendererDuo.start⟩

def ampSystem : StepSystem AmpState AmpMove where
  Initial s := s = .started
  step := AmpState.step

/-- Every value the reader accepted was published as a whole under its number, the
numbers of the publications are distinct, and the numbers the reader accepted are
in the given order. -/
structure ReadsWhole (order : UInt32 → UInt32 → Prop) (receiver : Receiver) (cell : Mailbox) :
    Prop where
  whole : ∀ entry ∈ receiver.accepted, entry ∈ cell.published
  distinct : (cell.published.map Prod.fst).Pairwise (· < ·)
  ordered : (receiver.accepted.map Prod.fst).Pairwise order

/-- No reader of the three cells with one writer has accepted anything but
publications, in their order, and no command twice. -/
structure AmpState.OthersUntorn (s : AmpState) : Prop where
  world : ReadsWhole (· ≤ ·) s.world.two.kept s.world.shared
  command : ReadsWhole (· < ·) s.command.two.kept s.command.shared
  targetYaw : ReadsWhole (· ≤ ·) s.targetYaw.two.kept s.targetYaw.shared

/-- Nor has the reader of the heartbeat. -/
structure AmpState.Untorn (s : AmpState) : Prop extends s.OthersUntorn where
  renderer : ReadsWhole (· ≤ ·) s.renderer.two.kept s.renderer.shared

/-- The heartbeat is written by its publisher. -/
def PublishedOnly (_ : AmpState) : AmpMove → Prop
  | .renderer (.callFirst call) => ¬call.Unguarded
  | _ => True

/-! ## The publishers -/

theorem nextGeneration_of_room {generation : UInt32} (room : generation.toNat + 1 < 2 ^ 32) :
    nextGeneration generation = generation + 1 ∧
      (generation + 1).toNat = generation.toNat + 1 ∧ generation + 1 ≠ 0 := by
  have next : (generation + 1).toNat = generation.toNat + 1 := by
    rw [UInt32.toNat_add, UInt32.toNat_one, Nat.mod_eq_of_lt room]
  have nonzero : generation + 1 ≠ 0 := by
    intro zero
    rw [zero, UInt32.toNat_zero] at next
    omega
  exact ⟨if_neg nonzero, next, nonzero⟩

/-- Between two publications the publications so far are numbered up to their
count, and this is where the publisher goes on. -/
structure Numbered (size : ℕ) (generation : UInt32) (cell : Mailbox) : Prop where
  sound : cell.Sound size
  upTo : ∀ entry ∈ cell.published, entry.1.toNat ≤ cell.published.length
  count : generation.toNat = cell.published.length

theorem Numbered.next {size : ℕ} {generation : UInt32} {cell : Mailbox} {cut : List ℕ}
    (numbered : Numbered size generation cell) (room : roomFor size cut cell) :
    nextGeneration generation = generation + 1 := by
  simp only [roomFor, decide_eq_true_eq] at room
  rw [← numbered.count] at room
  exact (nextGeneration_of_room room.2).1

/-- The reader leaves the cell alone and the publisher only goes on with it. -/
def publisher {π : Type} (size : ℕ) (generation : π → Mailbox → UInt32) :
    Duo.Contract Mailbox π where
  rely := Eq
  guar := Seqlock.Evolves size
  always _ _ := True
  atRest kept cell := Numbered size (generation kept cell) cell
  reflexive _ := rfl
  transitive _ _ _ := Eq.trans
  calm _ _ _ := trivial

/-- One publication under the next generation. -/
theorem publish_kept {size : ℕ} {cut : List ℕ} {generation number : UInt32} {value : List UInt8}
    {s : Mailbox} {guar : Mailbox → Mailbox → Prop} {post : Unit → Mailbox → Prop}
    (numbered : Numbered size generation s) (room : roomFor size cut s)
    (next : number = generation + 1) (width : value.length = size)
    (quiet : ∀ c d, Seqlock.Evolves size c d → guar c d)
    (ends : ∀ c : Mailbox, Numbered size number c → c.payload = value → post () c) :
    (Seqlock.publish cut number value).Safe Eq guar post s := by
  simp only [roomFor, decide_eq_true_eq] at room
  obtain ⟨whole, room⟩ := room
  have inside : generation.toNat + 1 < 2 ^ 32 := by rw [numbered.count]; exact room
  obtain ⟨-, successor, nonzero⟩ := nextGeneration_of_room inside
  rw [← next] at successor nonzero
  have greater : ∀ entry ∈ s.published, entry.1 < number := by
    intro entry found
    rw [UInt32.lt_iff_toNat_lt, successor, numbered.count]
    exact Nat.lt_succ_of_le (numbered.upTo entry found)
  apply publish_safe numbered.sound greater nonzero width whole fun c d evolves _ =>
    quiet c d evolves
  intro c sound published shown payload
  have longer : c.published.length = s.published.length + 1 := by
    rw [published, List.length_append, List.length_singleton]
  refine ends c ⟨sound, fun entry found => ?_, by rw [successor, numbered.count, longer]⟩ payload
  rw [longer]
  rw [published] at found
  rcases List.mem_append.mp found with earlier | last
  · exact Nat.le_succ_of_le (numbered.upTo entry earlier)
  · rw [List.mem_singleton.mp last, successor, numbered.count]

section

variable {size : ℕ} {cut : List ℕ} {s : Mailbox}

/-- A publisher that carries its number along. -/
theorem carried_kept {kept number : UInt32} {value : List UInt8} (room : roomFor size cut s)
    (next : Numbered size kept s → number = kept + 1) (width : value.length = size) :
    (publisher size fun kept _ => kept).Kept
      (fun _ => Seqlock.publish cut number value >>= fun _ => pure number) kept s := by
  intro rest
  have numbered : Numbered size kept s := rest s rfl
  have published : (Seqlock.publish cut number value).Safe Eq
      (fun a b => True ∧ Seqlock.Evolves size a b) (fun _ c => Numbered size number c) s :=
    publish_kept numbered room (next numbered) width (fun _ _ evolves => ⟨trivial, evolves⟩)
      fun _ numbered _ => numbered
  apply published.bind fun _ => rfl
  rintro _ t numbered _ rfl
  exact numbered

/-- A publisher that finds its number in what stands. -/
theorem held_kept (held : List UInt8 → UInt32) (bytes : UInt32 → List UInt8)
    (room : roomFor size cut s) (width : ∀ number, (bytes number).length = size)
    (stored : ∀ number, held (bytes number) = number) :
    (publisher size fun (_ : Unit) cell => held cell.payload).Kept
      (fun _ => load (fun cell => nextGeneration (held cell.payload)) >>= fun number =>
        Seqlock.publish cut number (bytes number)) () s := by
  intro rest
  have numbered := rest s rfl
  apply Safe.load
  rintro _ rfl
  refine ⟨⟨trivial, Seqlock.Evolves.refl _⟩, ?_⟩
  apply publish_kept numbered room (numbered.next room) (width _)
    fun _ _ evolves => ⟨trivial, evolves⟩
  intro c there payload
  show Numbered size (held c.payload) c
  rw [payload, stored]
  exact there

theorem publishWorldSnapshot_kept {view : WorldView} {kept : UInt32}
    (room : roomFor WorldSnapshot.size cut s) :
    (publisher WorldSnapshot.size fun kept _ => kept).Kept (publishWorldSnapshot cut view) kept s :=
  carried_kept room (fun _ => rfl) (WorldSnapshot.length_bytes _)

theorem rendererObserve_kept {measures : Measures} {kept : UInt32}
    (room : roomFor Heartbeat.size cut s) :
    (publisher Heartbeat.size fun kept _ => kept).Kept (rendererObserve cut measures) kept s :=
  carried_kept room (fun numbered => numbered.next room) (Heartbeat.length_bytes _ _)

theorem publishTargetYaw_kept {value : Int64} (room : roomFor TargetYaw.size cut s) :
    (publisher TargetYaw.size fun (_ : Unit) cell =>
      (TargetYaw.ofBytes cell.payload).generation).Kept
        (fun _ => publishTargetYaw cut value) () s :=
  held_kept (fun bytes => (TargetYaw.ofBytes bytes).generation)
    (fun number => TargetYaw.bytes ⟨number, channelSchema, value⟩) room
    (fun _ => TargetYaw.length_bytes _) fun _ => by rw [TargetYaw.ofBytes_bytes]

theorem publishUiCommand_kept {command : UInt8} (room : roomFor UiCommand.size cut s) :
    (publisher UiCommand.size fun (_ : Unit) cell =>
      (UiCommand.ofBytes cell.payload).generation).Kept
        (fun _ => publishUiCommand cut command) () s :=
  held_kept (fun bytes => (UiCommand.ofBytes bytes).generation)
    (fun number => UiCommand.bytes ⟨number, command, channelSchema⟩) room
    (fun _ => UiCommand.length_bytes _) fun _ => by rw [UiCommand.ofBytes_bytes]

end

/-! ## The readers -/

/-- The number that stands is the greatest. -/
theorem le_publication {size : ℕ} {cell : Mailbox} (sound : cell.Sound size)
    (shown : cell.publication ≠ 0) {entry : UInt32 × List UInt8} (found : entry ∈ cell.published) :
    entry.1 ≤ cell.publication := by
  have last := sound.shows shown
  rw [List.getLast?_eq_getElem?, List.getElem?_eq_some_iff] at last
  obtain ⟨bound, final⟩ := last
  obtain ⟨i, inside, rfl⟩ := List.getElem_of_mem found
  by_cases order : i < cell.published.length - 1
  · have smaller := getElem_fst_lt sound.increasing order inside bound
    rw [final] at smaller
    exact UInt32.le_of_lt smaller
  · have same : i = cell.published.length - 1 := by omega
    subst same
    rw [final]
    exact UInt32.le_refl _

/-- What a call that started in one state may come to: an accepted value was
published, not before what had been published at the start, and is new enough; a
refused one was published and fails the check. -/
def Taken (size : ℕ) (check : UInt32 → List UInt8 → Prop) (fresh : UInt32 → Prop) (s : Mailbox) :
    Reading → Mailbox → Prop
  | .accepted number bytes, t => Seqlock.Evolves size s t ∧ (number, bytes) ∈ t.published ∧
      (∀ entry ∈ s.published, entry.1 ≤ number) ∧ fresh number
  | .refused, t => Seqlock.Evolves size s t ∧ ∃ entry ∈ t.published, ¬check entry.1 entry.2
  | .nothing, t => Seqlock.Evolves size s t

theorem Taken.evolves {size : ℕ} {check : UInt32 → List UInt8 → Prop} {fresh : UInt32 → Prop}
    {s t u : Mailbox} {reading : Reading} (taken : Taken size check fresh s reading t)
    (later : Seqlock.Evolves size t u) : Taken size check fresh s reading u := by
  cases reading with
  | nothing => exact Seqlock.Evolves.trans taken later
  | refused =>
      obtain ⟨evolves, entry, published, failed⟩ := taken
      exact ⟨evolves.trans later, entry, later.grown.subset published, failed⟩
  | accepted number bytes =>
      obtain ⟨evolves, published, newest, enough⟩ := taken
      exact ⟨evolves.trans later, later.grown.subset published, newest, enough⟩

/-- What would be accepted may be refused if it fails the check. -/
theorem Taken.refuse {size : ℕ} {check : UInt32 → List UInt8 → Prop} {fresh : UInt32 → Prop}
    {s t : Mailbox} {number : UInt32} {bytes : List UInt8}
    (taken : Taken size check fresh s (.accepted number bytes) t) (failed : ¬check number bytes) :
    Taken size check fresh s .refused t :=
  ⟨taken.1, (number, bytes), taken.2.1, failed⟩

theorem taken_done {size : ℕ} {check : UInt32 → List UInt8 → Prop} {fresh : UInt32 → Prop}
    {s t : Mailbox} {reading : Reading} {guar : Mailbox → Mailbox → Prop}
    (taken : Taken size check fresh s reading t) :
    (done reading : Program Mailbox Reading).Safe (Seqlock.Evolves size) guar
      (Taken size check fresh s) t :=
  fun _ later => taken.evolves later

/-- A value that was taken is accepted or refused, as the check says. -/
theorem Taken.verdict {size : ℕ} {check : UInt32 → List UInt8 → Prop} {fresh : UInt32 → Prop}
    {s t : Mailbox} {number : UInt32} {bytes : List UInt8} [Decidable (check number bytes)]
    {guar : Mailbox → Mailbox → Prop}
    (found : Taken size check fresh s (.accepted number bytes) t) :
    (if check number bytes then return .accepted number bytes
      else return .refused : Program Mailbox Reading).Safe (Seqlock.Evolves size) guar
        (Taken size check fresh s) t := by
  split
  · exact taken_done found
  · rename_i failed
    exact taken_done (found.refuse failed)

section Readers

variable {size : ℕ} {guar : Mailbox → Mailbox → Prop} {cut : List ℕ}
  {check : UInt32 → List UInt8 → Prop} {fresh : UInt32 → Prop} {s t : Mailbox}

variable (sound : s.Sound size)
include sound

/-- One attempt to read: after a number that is not zero and is fresh the payload
is copied, and what follows may accept the copy if the number still stands. -/
theorem attempt_safe (before : Seqlock.Evolves size s t)
    (quiet : ∀ u, Seqlock.Evolves size s u → guar u u) (whole : cut.sum = size)
    {refuses : UInt32 → Prop} [DecidablePred refuses]
    (refused : ∀ number, ¬refuses number → number ≠ 0 ∧ fresh number)
    {rest : UInt32 → List UInt8 → UInt32 → Program Mailbox Reading}
    (onward : ∀ number bytes after u, Seqlock.Evolves size s u →
      (after = number → Taken size check fresh s (.accepted number bytes) u) →
      (rest number bytes after).Safe (Seqlock.Evolves size) guar (Taken size check fresh s) u) :
    (load Cell.publication >>= fun number =>
      if refuses number then (return .nothing : Program Mailbox Reading)
      else copyFrom 0 cut >>= fun bytes => load Cell.publication >>= rest number bytes).Safe
        (Seqlock.Evolves size) guar (Taken size check fresh s) t := by
  apply Safe.load
  intro u later
  have reached := before.trans later
  refine ⟨quiet u reached, ?_⟩
  split
  · exact taken_done reached
  · rename_i standing
    obtain ⟨shown, enough⟩ := refused _ standing
    apply snapshot_safe (reached.sound sound) shown whole fun v evolves =>
      quiet v (reached.trans evolves)
    intro bytes v evolves _ published
    refine onward u.publication bytes v.publication v (reached.trans evolves) fun same =>
      ⟨reached.trans evolves, published same, fun entry found => ?_, enough⟩
    exact le_publication (reached.sound sound) shown (reached.grown.subset found)

variable (quiet : ∀ u, Seqlock.Evolves size s u → guar u u)
include quiet

theorem worldSnapshot_safe (whole : cut.sum = size) (attempts : ℕ)
    (before : Seqlock.Evolves size s t) :
    (worldSnapshot cut attempts).Safe (Seqlock.Evolves size) guar
      (Taken size (fun _ bytes => (WorldSnapshot.ofBytes bytes).Acceptable)
        (fun _ => True) s) t := by
  induction attempts generalizing t with
  | zero => exact taken_done before
  | succ attempts ih =>
      apply attempt_safe sound before quiet whole fun number standing => ⟨standing, trivial⟩
      intro number bytes after u reached taken
      split
      · rename_i same
        exact (taken same.1.symm).verdict
      · exact ih reached

theorem receiveHeartbeat_safe {received : UInt32} (whole : cut.sum = size) (attempts : ℕ)
    (before : Seqlock.Evolves size s t) :
    (receiveHeartbeat cut received attempts).Safe (Seqlock.Evolves size) guar
      (Taken size (fun number bytes => (Heartbeat.ofBytes bytes).Acceptable number) (· ≠ received)
        s) t := by
  induction attempts generalizing t with
  | zero => exact taken_done before
  | succ attempts ih =>
      apply attempt_safe sound before quiet whole fun number standing => not_or.mp standing
      intro number bytes after u reached taken
      split
      · exact ih reached
      · rename_i same
        exact (taken (not_not.mp same).symm).verdict

theorem receiveUiCommand_safe {commandGeneration : UInt32} (whole : cut.sum = size) :
    (receiveUiCommand cut commandGeneration).Safe (Seqlock.Evolves size) guar
      (Taken size (fun number bytes => (UiCommand.ofBytes bytes).Acceptable number)
        (· ≠ commandGeneration) s) s := by
  apply attempt_safe sound (.refl s) quiet whole fun number standing => not_or.mp standing
  intro number bytes after u reached taken
  split
  · exact taken_done reached
  · rename_i same
    exact (taken (not_not.mp same).symm).verdict

theorem updateObservedYaw_safe (whole : cut.sum = size) :
    (updateObservedYaw cut).Safe (Seqlock.Evolves size) guar
      (Taken size (fun number bytes => (TargetYaw.ofBytes bytes).Acceptable number)
        (fun _ => True) s) s := by
  apply attempt_safe sound (.refl s) quiet whole fun number standing => ⟨standing, trivial⟩
  intro number bytes after u reached taken
  split
  · rename_i same
    exact taken_done (taken same.1.symm)
  · rename_i failed
    split
    · rename_i same
      exact taken_done ((taken same.symm).refuse fun acceptable => failed ⟨same, acceptable⟩)
    · exact taken_done reached

end Readers

/-- What a reader has accepted, with the number it remembers, and what it refused. -/
structure Received (size : ℕ) (check : UInt32 → List UInt8 → Prop)
    (order : UInt32 → UInt32 → Prop) (receiver : Receiver) (cell : Mailbox) : Prop where
  sound : cell.Sound size
  reads : ReadsWhole order receiver cell
  upTo : ∀ entry ∈ receiver.accepted, entry.1 ≤ receiver.received
  known : receiver.received = 0 ∨ ∃ bytes, (receiver.received, bytes) ∈ receiver.accepted
  justified : receiver.refused = true → ∃ entry ∈ cell.published, ¬check entry.1 entry.2

section Receivers

variable {size : ℕ} {check : UInt32 → List UInt8 → Prop} {order : UInt32 → UInt32 → Prop}

theorem Received.evolves {receiver : Receiver} {s t : Mailbox}
    (received : Received size check order receiver s) (evolves : Seqlock.Evolves size s t) :
    Received size check order receiver t := by
  have sound := evolves.sound received.sound
  refine ⟨sound, ⟨fun entry found => evolves.grown.subset (received.reads.whole entry found),
    sound.increasing, received.reads.ordered⟩, received.upTo, received.known, fun refused => ?_⟩
  obtain ⟨entry, published, failed⟩ := received.justified refused
  exact ⟨entry, evolves.grown.subset published, failed⟩

def reader (size : ℕ) (check : UInt32 → List UInt8 → Prop) (order : UInt32 → UInt32 → Prop) :
    Duo.Contract Mailbox Receiver where
  rely := Seqlock.Evolves size
  guar := Eq
  always := Received size check order
  atRest := Received size check order
  reflexive := Seqlock.Evolves.refl
  transitive _ _ _ := Seqlock.Evolves.trans
  calm _ _ received := received

/-- A reader whose calls only take what is new enough keeps its contract. -/
theorem receive_kept (fresh : UInt32 → UInt32 → Prop)
    {program : Receiver → Program Mailbox Reading} {receiver : Receiver} {s : Mailbox}
    (inOrder : ∀ old number : UInt32, old ≤ number → old ≤ receiver.received →
      (receiver.received = 0 ∨ receiver.received ≤ number) → fresh receiver.received number →
      order old number)
    (safe : s.Sound size → ∀ guar, (∀ u, Seqlock.Evolves size s u → guar u u) →
      (program receiver).Safe (Seqlock.Evolves size) guar
        (Taken size check (fresh receiver.received) s) s) :
    (reader size check order).Kept (receive program) receiver s := by
  intro rest
  have here : Received size check order receiver s := rest s (Seqlock.Evolves.refl s)
  apply (safe here.sound _ fun u evolves => ⟨here.evolves evolves, rfl⟩).bind Seqlock.Evolves.refl
  intro reading t taken u later
  have takenThen := taken.evolves later
  cases reading with
  | nothing => exact here.evolves takenThen
  | refused =>
      obtain ⟨evolves, failing⟩ := takenThen
      obtain ⟨sound, reads, upTo, known, -⟩ := here.evolves evolves
      exact ⟨sound, ⟨reads.whole, reads.distinct, reads.ordered⟩, upTo, known, fun _ => failing⟩
  | accepted number bytes =>
      obtain ⟨evolves, published, newest, enough⟩ := takenThen
      obtain ⟨sound, reads, upTo, known, justified⟩ := here.evolves evolves
      have newer : ∀ entry ∈ receiver.accepted, entry.1 ≤ number := fun entry found =>
        newest entry (here.reads.whole entry found)
      have knownNewer : receiver.received = 0 ∨ receiver.received ≤ number := by
        cases known with
        | inl zero => exact Or.inl zero
        | inr found => exact Or.inr (newer _ found.choose_spec)
      refine ⟨sound, ⟨fun entry found => ?_, reads.distinct, ?_⟩, fun entry found => ?_,
        Or.inr ⟨bytes, by simp [Receiver.take]⟩, justified⟩
      · rcases List.mem_append.mp found with earlier | last
        · exact reads.whole entry earlier
        · rw [List.mem_singleton.mp last]
          exact published
      · simp only [Receiver.take, List.map_append, List.map_cons, List.map_nil]
        rw [List.pairwise_append]
        refine ⟨reads.ordered, List.pairwise_singleton _ _, fun old found last same => ?_⟩
        obtain ⟨entry, member, rfl⟩ := List.mem_map.mp found
        rw [List.mem_singleton.mp same]
        exact inOrder _ number (newer entry member) (upTo entry member) knownNewer enough
      · rcases List.mem_append.mp found with earlier | last
        · exact newer entry earlier
        · rw [List.mem_singleton.mp last]
          exact UInt32.le_refl _

theorem sound_cleared (size : ℕ) : (Mailbox.cleared size).Sound size :=
  ⟨List.length_replicate, List.Pairwise.nil, fun _ found => (by cases found),
    fun shown => absurd rfl shown⟩

theorem numbered_cleared {size : ℕ} {generation : UInt32} (zero : generation = 0) :
    Numbered size generation (.cleared size) :=
  ⟨sound_cleared size, fun _ found => (by cases found), by rw [zero]; rfl⟩

theorem received_cleared : Received size check order .fresh (.cleared size) :=
  ⟨sound_cleared size, ⟨fun _ found => (by cases found), List.Pairwise.nil, List.Pairwise.nil⟩,
    fun _ found => (by cases found), Or.inl rfl, fun refused => Bool.noConfusion refused⟩

/-- Whatever the interleaving, a pair of a publisher and a reader that keep their
contracts reads publications only. -/
theorem received_of_reachable {π ι : Type}
    (generation : π → Mailbox → UInt32) {duo : Duo Mailbox π Receiver ι (List ℕ)}
    (initial : duo.initial = .cleared size) (fresh : duo.secondKept = .fresh)
    (starts : generation duo.firstKept (.cleared size) = 0)
    (publishes : ∀ input kept s, duo.mayCall input s →
      (publisher size generation).Kept (duo.first input) kept s)
    (reads : ∀ cut receiver s, duo.mayRead cut →
      (reader size check order).Kept (duo.second cut) receiver s)
    {s : Duo.State Mailbox π Receiver} (reachable : duo.system.Reachable s) :
    Received size check order s.two.kept s.shared := by
  have startsOne : Numbered size (generation duo.firstKept duo.initial) duo.initial := by
    rw [initial]
    exact numbered_cleared starts
  have startsTwo : Received size check order duo.secondKept duo.initial := by
    rw [initial, fresh]
    exact received_cleared
  have both := Duo.holds_of_contracts (publisher size generation) (reader size check order)
    (fun _ _ evolves => evolves) (fun _ _ same => same) (fun _ same => same ▸ startsOne)
    (fun _ evolves => startsTwo.evolves evolves) publishes reads reachable
  exact both.2

end Receivers

/-! ## Every interleaving of the four mailboxes -/

theorem world_received {s : Duo.State Mailbox UInt32 Receiver}
    (reachable : worldDuo.system.Reachable s) :
    Received WorldSnapshot.size (fun _ bytes => (WorldSnapshot.ofBytes bytes).Acceptable)
      (· ≤ ·) s.two.kept s.shared := by
  apply received_of_reachable (fun kept _ => kept) rfl rfl rfl _ _ reachable
  · intro input kept s room
    exact publishWorldSnapshot_kept room
  · intro cut receiver s whole
    apply receive_kept (fun _ _ => True) fun _ _ newer _ _ _ => newer
    intro sound guar quiet
    exact worldSnapshot_safe sound quiet (of_decide_eq_true whole) 3 (Seqlock.Evolves.refl s)

theorem targetYaw_received {s : Duo.State Mailbox Unit Receiver}
    (reachable : targetYawDuo.system.Reachable s) :
    Received TargetYaw.size (fun number bytes => (TargetYaw.ofBytes bytes).Acceptable number)
      (· ≤ ·) s.two.kept s.shared := by
  apply received_of_reachable (fun _ cell => (TargetYaw.ofBytes cell.payload).generation)
    rfl rfl (by decide) _ _ reachable
  · intro input kept s room
    exact publishTargetYaw_kept room
  · intro cut receiver s whole
    apply receive_kept (fun _ _ => True) fun _ _ newer _ _ _ => newer
    intro sound guar quiet
    exact updateObservedYaw_safe sound quiet (of_decide_eq_true whole)

/-- A command that is not the one taken last has a greater number than all that
were taken. -/
theorem command_received {s : Duo.State Mailbox Unit Receiver}
    (reachable : commandDuo.system.Reachable s) :
    Received UiCommand.size (fun number bytes => (UiCommand.ofBytes bytes).Acceptable number)
      (· < ·) s.two.kept s.shared := by
  apply received_of_reachable (fun _ cell => (UiCommand.ofBytes cell.payload).generation)
    rfl rfl (by decide) _ _ reachable
  · intro input kept s room
    exact publishUiCommand_kept room
  · intro cut receiver s whole
    apply receive_kept (fun received number => number ≠ received)
    · intro old number newer taken known different
      rw [UInt32.lt_iff_le_and_ne]
      refine ⟨newer, fun same => ?_⟩
      subst same
      rcases known with zero | known
      · rw [zero, UInt32.le_zero_iff] at taken
        exact different (by rw [taken, zero])
      · exact different (UInt32.le_antisymm taken known)
    · intro sound guar quiet
      exact receiveUiCommand_safe sound quiet (of_decide_eq_true whole)

/-- The renderer core without the two stray writers of the heartbeat. -/
def publishingDuo : Duo Mailbox UInt32 Receiver RendererCall (List ℕ) :=
  { rendererDuo with mayCall := fun call cell => ¬call.Unguarded ∧ call.mayCall cell = true }

theorem renderer_received {s : Duo.State Mailbox UInt32 Receiver}
    (reachable : publishingDuo.system.Reachable s) :
    Received Heartbeat.size (fun number bytes => (Heartbeat.ofBytes bytes).Acceptable number)
      (· ≤ ·) s.two.kept s.shared := by
  apply received_of_reachable (fun kept _ => kept) rfl rfl rfl _ _ reachable
  · intro call kept s allowed
    obtain ⟨guarded, room⟩ := of_decide_eq_true allowed
    cases call with
    | observe cut measures => exact rendererObserve_kept room
    | entryProbe cut => exact absurd trivial guarded
    | initializeHeap address size => exact absurd trivial guarded
  · intro cut receiver s whole
    apply receive_kept (fun received number => number ≠ received) fun _ _ newer _ _ _ => newer
    intro sound guar quiet
    exact receiveHeartbeat_safe sound quiet (of_decide_eq_true whole) 3 (Seqlock.Evolves.refl s)

/-- The four mailboxes do not touch one another. -/
structure AmpState.OthersReached (s : AmpState) : Prop where
  world : worldDuo.system.Reachable s.world
  command : commandDuo.system.Reachable s.command
  targetYaw : targetYawDuo.system.Reachable s.targetYaw

structure AmpState.Reached (s : AmpState) : Prop extends s.OthersReached where
  renderer : publishingDuo.system.Reachable s.renderer

theorem AmpState.OthersReached.started : AmpState.started.OthersReached :=
  ⟨⟨[], .start rfl⟩, ⟨[], .start rfl⟩, ⟨[], .start rfl⟩⟩

theorem AmpState.OthersReached.step {s t : AmpState} {move : AmpMove} (reached : s.OthersReached)
    (moved : s.step move = some t) : t.OthersReached := by
  obtain ⟨world, command, targetYaw⟩ := reached
  cases move with
  | world move =>
      obtain ⟨after, stepped, rfl⟩ := Option.map_eq_some_iff.mp moved
      exact ⟨world.next stepped, command, targetYaw⟩
  | command move =>
      obtain ⟨after, stepped, rfl⟩ := Option.map_eq_some_iff.mp moved
      exact ⟨world, command.next stepped, targetYaw⟩
  | targetYaw move =>
      obtain ⟨after, stepped, rfl⟩ := Option.map_eq_some_iff.mp moved
      exact ⟨world, command, targetYaw.next stepped⟩
  | renderer move =>
      obtain ⟨after, -, rfl⟩ := Option.map_eq_some_iff.mp moved
      exact ⟨world, command, targetYaw⟩

theorem AmpState.Reached.step {s t : AmpState} {move : AmpMove} (reached : s.Reached)
    (guarded : PublishedOnly s move) (moved : s.step move = some t) : t.Reached := by
  refine ⟨reached.toOthersReached.step moved, ?_⟩
  cases move with
  | world move =>
      obtain ⟨after, -, rfl⟩ := Option.map_eq_some_iff.mp moved
      exact reached.renderer
  | command move =>
      obtain ⟨after, -, rfl⟩ := Option.map_eq_some_iff.mp moved
      exact reached.renderer
  | targetYaw move =>
      obtain ⟨after, -, rfl⟩ := Option.map_eq_some_iff.mp moved
      exact reached.renderer
  | renderer move =>
      obtain ⟨after, stepped, rfl⟩ := Option.map_eq_some_iff.mp moved
      have same : publishingDuo.step s.renderer move = some after := by
        cases move with
        | callFirst call =>
            have published : ¬call.Unguarded := guarded
            simp only [Duo.step, publishingDuo, rendererDuo, published, not_false_eq_true, true_and,
              Bool.decide_eq_true] at stepped ⊢
            exact stepped
        | advanceFirst => exact stepped
        | callSecond cut => exact stepped
        | advanceSecond => exact stepped
      exact reached.renderer.next same

theorem AmpState.OthersReached.reads {s : AmpState} (reached : s.OthersReached) :
    s.OthersUntorn :=
  ⟨(world_received reached.world).reads, (command_received reached.command).reads,
    (targetYaw_received reached.targetYaw).reads⟩

/-- **Reads are whole.** In every run of the four mailboxes no reader of the world,
the command or the target yaw ever accepts anything but what was published as a
whole, in the order of publication, and no command twice. Where the heartbeat is
written by its publisher alone, that holds of its reader too. -/
theorem untorn_throughout {past : List (AmpState × AmpMove)} {s : AmpState}
    (run : ampSystem.Run past s) :
    StepSystem.Throughout AmpState.OthersUntorn past s ∧
      (StepSystem.Guarded PublishedOnly past → StepSystem.Throughout AmpState.Untorn past s) := by
  constructor
  · have free : StepSystem.Guarded (fun _ _ => True) past := fun _ _ => trivial
    apply run.throughout_of_guarded (I := AmpState.OthersReached) _ _ _ free
    · rintro _ rfl
      exact .started
    · intro s move t reached _ moved
      exact reached.step moved
    · intro s reached
      exact reached.reads
  · intro guarded
    apply run.throughout_of_guarded (I := AmpState.Reached) _ _ _ guarded
    · rintro _ rfl
      exact ⟨.started, [], .start rfl⟩
    · intro s move t reached allowed moved
      exact reached.step allowed moved
    · intro s reached
      exact ⟨reached.toOthersReached.reads, (renderer_received reached.renderer).reads⟩

/-- An access is a word. -/
def words : List ℕ := List.replicate 31 4

/-- A heartbeat of the last stage before the renderer is entered. -/
def startingMeasures : Measures where
  counters := List.replicate 24 0 ++ [10] ++ List.replicate 4 0
  further := List.replicate 86 0
  counters_length := rfl
  further_length := length_further

/-- A call of the renderer core with all of its accesses. -/
def rendererCall (call : RendererCall) (accesses : ℕ) : List AmpMove :=
  .renderer (.callFirst call) :: List.replicate accesses (.renderer .advanceFirst)

/-- A command is published and taken while heartbeats are: the reader of the
heartbeats sees the first and copies two words, the second is written meanwhile,
and of the three attempts the last one reads it whole. -/
def overlappingMoves : List AmpMove :=
  rendererCall (.observe words startingMeasures) 33 ++
    .renderer (.callSecond words) :: List.replicate 3 (.renderer .advanceSecond) ++
    .command (.callFirst ([4, 4], 2)) :: List.replicate 2 (.command .advanceFirst) ++
    rendererCall (.observe words startingMeasures) 10 ++
    List.replicate 30 (.renderer .advanceSecond) ++
    List.replicate 23 (.renderer .advanceFirst) ++
    List.replicate 33 (.renderer .advanceSecond) ++
    List.replicate 3 (.command .advanceFirst) ++
    .command (.callSecond [4, 4]) :: List.replicate 4 (.command .advanceSecond)

theorem untorn_throughout_overlapping :
    ∃ past s, ampSystem.Run past s ∧ StepSystem.Throughout AmpState.Untorn past s ∧
      s.renderer.two.kept.accepted.map Prod.fst = [2] ∧
      s.command.two.kept.accepted = [(1, [1, 0, 0, 0, 2, 1, 0, 0])] := by
  have ran : (ampSystem.execute .started overlappingMoves).map
      (fun s => (s.renderer.two.kept.accepted.map Prod.fst, s.command.two.kept.accepted)) =
      some ([2], [(1, [1, 0, 0, 0, 2, 1, 0, 0])]) := by
    decide +kernel
  have along : ampSystem.Along PublishedOnly .started overlappingMoves := by
    apply StepSystem.along_of_forall
    simp [overlappingMoves, rendererCall, or_imp, forall_and, PublishedOnly,
      RendererCall.Unguarded]
  obtain ⟨past, s, run, guarded, accepted⟩ := StepSystem.exists_guarded_of_map along ran rfl
  obtain ⟨numbers, command⟩ := Prod.mk.inj accepted
  exact ⟨past, s, run, (untorn_throughout run).2 guarded, numbers, command⟩

/-! ## The heartbeat of the start -/

/-- The nine heartbeats of the start. The reader sees the ninth and copies two
words of it; then the renderer is entered and its probe is copied over the rest. -/
def startMoves : List AmpMove :=
  (List.replicate 9 (rendererCall (.observe words startingMeasures) 33)).flatten ++
    .renderer (.callSecond words) :: List.replicate 3 (.renderer .advanceSecond) ++
    rendererCall (.entryProbe words) 31 ++ List.replicate 30 (.renderer .advanceSecond) ++
    [.renderer .advanceFirst] ++
    .renderer (.callSecond words) :: List.replicate 33 (.renderer .advanceSecond)

/-- The reader accepts the ninth heartbeat with the payload of the probe, which was
never published, and then the probe under number one. -/
theorem heartbeat_torn_by_entry_probe :
    ∃ s, ampSystem.Reachable s ∧ ¬s.Untorn ∧
      s.renderer.two.kept.accepted.map Prod.fst = [9, 1] ∧
      ∃ entry ∈ s.renderer.two.kept.accepted, entry ∉ s.renderer.shared.published := by
  have ran : (ampSystem.execute .started startMoves).map (fun s =>
      (s.renderer.two.kept.accepted.map Prod.fst,
        s.renderer.two.kept.accepted.all fun entry => entry ∈ s.renderer.shared.published)) =
      some ([9, 1], false) := by
    decide +kernel
  obtain ⟨s, reachable, found⟩ := StepSystem.exists_reachable_of_map ran rfl
  rw [Prod.mk.injEq, List.all_eq_false] at found
  obtain ⟨numbers, entry, accepted, torn⟩ := found
  simp only [decide_eq_true_eq] at torn
  exact ⟨s, reachable, fun untorn => torn (untorn.renderer.whole entry accepted), numbers, entry,
    accepted, torn⟩

end Deskkin.Amp
