/-
# The order of the bands

The bands are numbered as they are submitted. Number and buffer, position on the display
and frame of a band follow from each other, and the four counts of the relay say which
bands are in which queue. That the two threads keep to this, for as long as no fault is
reported, is the invariant of this module.
-/

import Deskkin.Lib.Relay
import Deskkin.Renderer.BandPipeline

namespace Deskkin.Renderer

/-- An entry of a list that went on by one is an old one or the new one. -/
theorem getElem?_concat_eq_some {α : Type} {list : List α} {last entry : α} {number : ℕ}
    (stored : (list ++ [last])[number]? = some entry) :
    list[number]? = some entry ∨ number = list.length ∧ entry = last := by
  rw [List.getElem?_append] at stored
  split at stored
  · exact .inl stored
  · rename_i late
    rw [List.getElem?_singleton] at stored
    split at stored
    · rename_i first
      cases stored
      exact .inr ⟨by omega, rfl⟩
    · cases stored

/-- What is requested for the band with this number. -/
def bandRequest (number : ℕ) : DisplayRequest :=
  ⟨number % 2, 32 * (number % 8), min 32 (240 - 32 * (number % 8))⟩

namespace RendererPoint

/-- The bands of the current frame that were submitted; between frames it is all of them. -/
def done : RendererPoint → ℕ
  | .line nextLine => if nextLine = 240 then 8 else nextLine / 32
  | .world y | .buffer _ y _ | .submitting _ y _ _ => y / 32
  | .drawing _ row => row / 32
  | .idle | .publishing _ | .reported _ => 8

/-- The renderer holds the buffer: it is inside of a band. -/
def Holds : RendererPoint → Prop
  | .line nextLine => nextLine % 32 ≠ 0 ∧ nextLine < 240
  | .drawing _ _ | .submitting _ _ _ _ => True
  | _ => False

/-- The lines are those of the display, and bands start where they should. -/
def Placed : RendererPoint → Prop
  | .line nextLine => nextLine ≤ 240
  | .world y | .buffer _ y _ | .drawing .world y => y % 32 = 0 ∧ y < 240
  | .drawing .shell row => row < 240
  | .submitting _ y rows _ => y % 32 = 0 ∧ y < 240 ∧ rows = min 32 (240 - y)
  | .idle | .publishing _ => True
  | .reported _ => False

end RendererPoint

namespace Pipeline

variable {π : Type}

/-- What the display thread has in its hands: nothing, the band it received last, or the
answer to it. -/
def Handled (relay : Relay) (expectedY : ℕ) : DisplayPoint → Prop
  | .waiting => relay.received = relay.finished ∧ expectedY = 32 * (relay.received % 8)
  | .transferring request _ =>
      relay.received = relay.finished + 1 ∧ expectedY = 32 * (relay.finished % 8) ∧
      request = bandRequest relay.finished
  | .completing completion =>
      relay.received = relay.finished + 1 ∧ expectedY = 32 * (relay.received % 8) ∧
      completion.bufferIndex = relay.finished % 2

/-- The two threads and what is between them agree with the counts of a relay. -/
structure Sound (pipeline : Pipeline π) (relay : Relay) : Prop where
  ordered : relay.Ordered 2
  submittedLength : pipeline.submitted.length = relay.submitted
  finishedLength : pipeline.completed.length + pipeline.completions.messages.length =
    relay.finished
  completedLength : pipeline.completed.length = relay.taken
  numbered : ∀ number band, pipeline.submitted[number]? = some band →
    band.frame = number / 8 ∧ band.request = bandRequest number
  transferred : pipeline.transferred = (List.range relay.received).map bandRequest
  requests : pipeline.requests.messages =
    (List.range' relay.received (relay.submitted - relay.received)).map bandRequest
  handled : Handled relay pipeline.display.expectedY pipeline.display.point
  completions : pipeline.completions.messages.map BandCompletion.bufferIndex =
    (List.range' relay.taken (relay.finished - relay.taken)).map (· % 2)
  completed : ∀ number entry, pipeline.completed[number]? = some entry →
    ∃ band, pipeline.submitted[number]? = some band ∧ entry.1 = band.pending ∧
      entry.2.bufferIndex = number % 2
  answered : pipeline.answered.map Prod.fst =
    (List.range pipeline.answered.length).map bandRequest
  answers : pipeline.answered.map Prod.snd =
    pipeline.completed.map Prod.snd ++ pipeline.completions.messages ++
      pipeline.display.point.answers
  observed : pipeline.observed =
    pipeline.completed.flatMap fun entry => observations entry.1 entry.2
  back : pipeline.framebuffer.back = relay.submitted % 2
  inflight : ∀ slot, pipeline.framebuffer.ownership.inflight slot = true ↔
    relay.Outstanding 2 slot
  kept : ∀ number band, relay.taken ≤ number → pipeline.submitted[number]? = some band →
    pipeline.framebuffer.pending (number % 2) = band.pending ∧
    pipeline.pixels (number % 2) = band.pixels
  rendering : pipeline.framebuffer.ownership.rendering = none ∨ pipeline.point.Holds
  held : pipeline.point.Holds →
    pipeline.framebuffer.ownership.rendering = some pipeline.framebuffer.back ∧
    ¬relay.Outstanding 2 pipeline.framebuffer.back
  progress : relay.submitted + 8 = 8 * pipeline.frames + pipeline.point.done
  placed : pipeline.point.Placed

theorem sound_start (pixels : ℕ → π) : (start pixels).Sound ⟨0, 0, 0, 0⟩ where
  ordered := ⟨le_rfl, le_rfl, le_rfl, Nat.le_succ _, Nat.zero_le _⟩
  submittedLength := rfl
  finishedLength := rfl
  completedLength := rfl
  numbered _ _ impossible := by cases impossible
  transferred := rfl
  requests := rfl
  handled := ⟨rfl, rfl⟩
  completions := rfl
  completed _ _ impossible := by cases impossible
  answered := rfl
  answers := rfl
  observed := rfl
  back := rfl
  inflight slot := by
    constructor
    · intro impossible
      cases impossible
    · rintro ⟨item, -, before, -⟩
      exact absurd before (Nat.not_lt_zero _)
  kept _ _ _ impossible := by cases impossible
  rendering := .inl rfl
  held impossible := impossible.elim
  progress := rfl
  placed := trivial

variable {pipeline after : Pipeline π} {relay : Relay}

/-- The renderer moves within a band, or between two. -/
theorem Sound.turn (sound : pipeline.Sound relay) {point : RendererPoint}
    (placed : point.Placed) (done : point.done = pipeline.point.done)
    (holds : point.Holds ↔ pipeline.point.Holds) :
    Sound { pipeline with point := point } relay :=
  { sound with
    rendering := sound.rendering.imp id holds.mpr
    held := fun inside => sound.held (holds.mp inside)
    progress := by
      have progress := sound.progress
      rw [← done] at progress
      exact progress
    placed := placed }

/-! ## The renderer takes a completion -/

variable {completion : BandCompletion} {rest : List BandCompletion} {kind : FrameKind}
  {profile : Option (Vector ℕ 16)} {y rows : ℕ} {request : DisplayRequest}

variable (sound : pipeline.Sound relay)
include sound

/-- A completion in the queue is that of the band that is taken back next. -/
theorem Sound.first (there : pipeline.completions.messages = completion :: rest) :
    relay.taken < relay.finished ∧ completion.bufferIndex = relay.taken % 2 ∧
      rest.map BandCompletion.bufferIndex =
        (List.range' (relay.taken + 1) (relay.finished - (relay.taken + 1))).map (· % 2) := by
  have longer := sound.finishedLength
  rw [sound.completedLength, there, List.length_cons] at longer
  have indices := sound.completions
  obtain ⟨more, more_eq⟩ : ∃ more, relay.finished - relay.taken = more + 1 :=
    ⟨rest.length, by omega⟩
  rw [there, more_eq, List.range'_succ, List.map_cons, List.map_cons, List.cons.injEq] at indices
  refine ⟨by omega, indices.1, ?_⟩
  rw [indices.2, show relay.finished - (relay.taken + 1) = more by omega]

/-- What is taken was submitted first, and its frame waits beside its buffer. -/
theorem Sound.takeCompletion_eq (there : pipeline.completions.messages = completion :: rest) :
    ∃ band, pipeline.submitted[relay.taken]? = some band ∧
      pipeline.framebuffer.takeCompletion (.ok (some completion)) =
        (.ok (some (band.pending, completion)), { pipeline.framebuffer with
          ownership := { pipeline.framebuffer.ownership with
            inflight := Function.update pipeline.framebuffer.ownership.inflight
              (relay.taken % 2) false } }) := by
  obtain ⟨longer, index, -⟩ := sound.first there
  have before : relay.taken < relay.submitted :=
    longer.trans_le (sound.ordered.finished_le.trans sound.ordered.received_le)
  have found := List.getElem?_eq_getElem (sound.submittedLength ▸ before)
  refine ⟨_, found, ?_⟩
  have inflight := (sound.inflight _).mpr (Relay.outstanding_taken before)
  have valid : relay.taken % 2 < bufferCount := Nat.mod_lt _ (by decide)
  rw [Framebuffer.takeCompletion, index]
  dsimp only
  rw [BufferOwnership.complete_eq_ok valid inflight, (sound.kept _ _ le_rfl found).1]

/-- A band that was taken back no longer holds its buffer. -/
theorem Sound.take {rest : Channel BandCompletion 2} {band : Band π}
    (there : pipeline.completions.messages = completion :: rest.messages)
    (found : pipeline.submitted[relay.taken]? = some band) :
    Sound { pipeline with
      completions := rest
      framebuffer := { pipeline.framebuffer with
        ownership := { pipeline.framebuffer.ownership with
          inflight := Function.update pipeline.framebuffer.ownership.inflight
            (relay.taken % 2) false } }
      observed := pipeline.observed ++ observations band.pending completion
      completed := pipeline.completed ++ [(band.pending, completion)] }
      { relay with taken := relay.taken + 1 } := by
  obtain ⟨longer, index, others⟩ := sound.first there
  have slots := Relay.outstanding_take sound.ordered
  refine { sound with
    ordered := (Relay.Move.take longer).ordered sound.ordered
    finishedLength := ?_, completedLength := ?_, handled := ?_, completions := others,
    completed := ?_, answers := ?_, observed := ?_, inflight := ?_, kept := ?_, held := ?_ }
  · rw [← sound.finishedLength, there, List.length_append, List.length_cons]
    simp only [List.length_cons, List.length_nil]
    omega
  · rw [List.length_append, sound.completedLength]
    rfl
  · have handled := sound.handled
    dsimp only
    cases point : pipeline.display.point <;> rw [point] at handled <;> exact handled
  · intro number entry stored
    cases getElem?_concat_eq_some stored with
    | inl old => exact sound.completed number entry old
    | inr last =>
        obtain ⟨rfl, rfl⟩ := last
        rw [sound.completedLength]
        exact ⟨band, found, rfl, index⟩
  · dsimp only
    rw [sound.answers, there, List.map_append, List.append_assoc _ _ rest.messages]
    rfl
  · rw [sound.observed, List.flatMap_append, List.flatMap_singleton]
  · intro slot
    dsimp only
    rw [slots slot, ← sound.inflight slot, Function.update_apply]
    by_cases same : slot = relay.taken % 2 <;> simp [same]
  · intro number other later stored
    exact sound.kept number other (Nat.le_of_succ_le later) stored
  · intro inside
    obtain ⟨rendering, free⟩ := sound.held inside
    exact ⟨rendering, fun still => free ((slots _).mp still).1⟩

/-! ## The renderer draws a band -/

theorem Sound.beginFrame {next : Option FrameKind} (here : pipeline.point = .publishing next)
    (kind : FrameKind) (now : ℕ) :
    Sound { pipeline with
      framebuffer := pipeline.framebuffer.beginFrame now
      frames := pipeline.frames + 1
      point := .begin kind } relay := by
  have progress := sound.progress
  have quiet := sound.rendering
  rw [here] at progress quiet
  have idle := quiet.resolve_right id
  have none : (RendererPoint.begin kind).done = 0 := by cases kind <;> rfl
  have outside : ¬(RendererPoint.begin kind).Holds := by
    cases kind with
    | shell => exact fun inside => inside.1 rfl
    | world => exact id
  have placed : (RendererPoint.begin kind).Placed := by
    cases kind with
    | shell => exact Nat.zero_le _
    | world => exact ⟨rfl, by decide⟩
  refine { sound with
    rendering := .inl idle, held := fun inside => absurd inside outside,
    progress := ?_, placed := placed }
  simp only [RendererPoint.done] at progress
  dsimp only
  rw [none]
  omega

/-- The wait for a buffer is over: it is not in flight, so it can be drawn. -/
theorem Sound.beginBand {y started : ℕ} (here : pipeline.point = .buffer kind y started)
    (free : pipeline.framebuffer.ownership.isInflight pipeline.framebuffer.back = false) (now : ℕ) :
    ∃ framebuffer, pipeline.framebuffer.beginBand started now = .ok framebuffer ∧
      Sound { pipeline with framebuffer := framebuffer, point := .drawing kind y } relay := by
  have valid : pipeline.framebuffer.back < bufferCount := by
    rw [sound.back]
    exact Nat.mod_lt _ (by decide)
  have quiet := sound.rendering
  rw [here] at quiet
  have idle := quiet.resolve_right id
  rw [BufferOwnership.isInflight, decide_eq_true valid, Bool.true_and] at free
  have begun := BufferOwnership.beginRender_eq_ok valid idle free
  refine ⟨_, by rw [Framebuffer.beginBand, begun], ?_⟩
  have progress := sound.progress
  have placed := sound.placed
  rw [here] at progress placed
  refine { sound with
    rendering := .inr trivial, held := fun _ => ⟨rfl, fun outstanding => ?_⟩,
    progress := progress, placed := ?_ }
  · rw [(sound.inflight _).mpr outstanding] at free
    cases free
  · cases kind with
    | shell => exact placed.2
    | world => exact placed

/-- What is drawn goes into the buffer that no transfer reads. -/
theorem Sound.paint {line : ℕ} (here : pipeline.point = .drawing kind line) (content : π) :
    Sound { pipeline with
      pixels := Function.update pipeline.pixels pipeline.framebuffer.back content } relay := by
  refine { sound with kept := fun number band later stored => ?_ }
  obtain ⟨pending, pixels⟩ := sound.kept number band later stored
  refine ⟨pending, ?_⟩
  obtain ⟨-, free⟩ := sound.held (by rw [here]; trivial)
  have other : number % 2 ≠ pipeline.framebuffer.back := by
    intro same
    obtain ⟨before, -⟩ := List.getElem?_eq_some_iff.mp stored
    exact free ⟨number, later, sound.submittedLength ▸ before, same⟩
  dsimp only
  rw [Function.update_of_ne other]
  exact pixels

/-- The end of a line or of a band leads on within the frame. -/
theorem Sound.drawn {line : ℕ} (here : pipeline.point = .drawing kind line)
    (profile : Vector ℕ 16) : Sound (pipeline.drawn kind line profile) relay := by
  have placed := sound.placed
  rw [here] at placed
  cases kind with
  | shell =>
      have inside : line < 240 := placed
      unfold Pipeline.drawn
      dsimp only
      by_cases full : (line + 1) % bandRows = 0 ∨ line + 1 = height
      · rw [if_pos full]
        simp only [bandRows, height] at full ⊢
        refine sound.turn ?_ ?_ ?_
        · simp only [RendererPoint.Placed]
          omega
        · simp only [here, RendererPoint.done]
          omega
        · simp only [here, RendererPoint.Holds]
      · rw [if_neg full]
        simp only [bandRows, height] at full
        refine sound.turn ?_ ?_ ?_
        · simp only [RendererPoint.Placed]
          omega
        · simp only [here, RendererPoint.done]
          rw [if_neg (by omega)]
          omega
        · simp only [here, RendererPoint.Holds, iff_true]
          omega
  | world =>
      obtain ⟨aligned, inside⟩ := placed
      unfold Pipeline.drawn
      dsimp only
      by_cases more : line + min bandRows (height - line) < height
      · rw [if_pos more]
        refine sound.turn ?_ ?_ ?_
        · exact ⟨aligned, inside, rfl⟩
        · simp only [here, RendererPoint.done]
        · simp only [here, RendererPoint.Holds]
      · rw [if_neg more]
        simp only [bandRows, height] at more
        refine sound.turn ?_ ?_ ?_
        · exact ⟨by decide, by decide, by decide⟩
        · simp only [here, RendererPoint.done, bandRows, height]
          omega
        · simp only [here, RendererPoint.Holds]

/-! ## The renderer submits a band -/

/-- The band that is being drawn is the next one of its frame. -/
theorem Sound.next (here : pipeline.point = .submitting kind y rows profile) :
    pipeline.frames - 1 = relay.submitted / 8 ∧
      (⟨pipeline.framebuffer.back, y, rows⟩ : DisplayRequest) = bandRequest relay.submitted := by
  have progress := sound.progress
  have placed := sound.placed
  rw [here] at progress placed
  obtain ⟨aligned, inside, rows_eq⟩ := placed
  simp only [RendererPoint.done] at progress
  refine ⟨by omega, ?_⟩
  have place : 32 * (relay.submitted % 8) = y := by omega
  rw [bandRequest, place, sound.back, rows_eq]

omit sound in
/-- The display takes a band that is in its place. -/
theorem displaySubmit_eq_ok {requests : Channel DisplayRequest 2}
    (room : requests.messages.length < 2) (number : ℕ) :
    ∃ later, displaySubmit requests (bandRequest number).bufferIndex (bandRequest number).y
        (bandRequest number).rows = .ok later ∧
      later.messages = requests.messages ++ [bandRequest number] := by
  obtain ⟨later, sent⟩ := Channel.exists_trySend room (bandRequest number)
  refine ⟨later, ?_, Channel.trySend_eq_some_iff.mp sent⟩
  have same : requests.trySend ⟨(bandRequest number).bufferIndex, (bandRequest number).y,
      (bandRequest number).rows⟩ = some later := sent
  rw [displaySubmit, if_neg, same]
  simp only [bandRequest, bufferCount, height, bandRows]
  omega

theorem Sound.submitBand_eq (here : pipeline.point = .submitting kind y rows profile) (now : ℕ) :
    ∃ requests : Channel DisplayRequest 2,
      requests.messages = pipeline.requests.messages ++ [bandRequest relay.submitted] ∧
      pipeline.framebuffer.submitBand pipeline.requests y rows profile now =
        (.ok requests, { pipeline.framebuffer with
          pending := Function.update pipeline.framebuffer.pending pipeline.framebuffer.back
            (pipeline.framebuffer.pendingFrame y rows profile now)
          ownership := ⟨none, Function.update pipeline.framebuffer.ownership.inflight
            pipeline.framebuffer.back true⟩
          back := pipeline.framebuffer.back ^^^ 1 }) := by
  obtain ⟨rendering, free⟩ := sound.held (by rw [here]; trivial)
  have valid : pipeline.framebuffer.back < bufferCount := by
    rw [sound.back]
    exact Nat.mod_lt _ (by decide)
  have room : pipeline.requests.messages.length < 2 := by
    rw [sound.back] at free
    have next := Relay.room_of_free (by decide) sound.ordered free
    have ordered := sound.ordered
    rw [sound.requests, List.length_map, List.length_range']
    have received := ordered.taken_le.trans ordered.finished_le
    omega
  obtain ⟨requests, sent, messages⟩ := displaySubmit_eq_ok room relay.submitted
  refine ⟨requests, messages, ?_⟩
  rw [← (sound.next here).2] at sent
  simp only [Framebuffer.submitBand, BufferOwnership.submit_eq_ok valid rendering, sent]

/-- After a band the frame goes on at the next one, or it is over. -/
theorem Sound.onward (here : pipeline.point = .submitting kind y rows profile)
    {point : RendererPoint} (next : point = .afterBand (y + rows) kind) :
    ¬point.Holds ∧ relay.submitted + 1 + 8 = 8 * pipeline.frames + point.done ∧
      point.Placed := by
  have progress := sound.progress
  have placed := sound.placed
  rw [here] at progress placed
  obtain ⟨aligned, inside, rows_eq⟩ := placed
  simp only [RendererPoint.done] at progress
  subst next
  cases kind with
  | shell =>
      simp only [RendererPoint.afterBand, RendererPoint.Holds, RendererPoint.done,
        RendererPoint.Placed]
      by_cases last : y + rows = 240
      · rw [if_pos last]
        omega
      · rw [if_neg last]
        omega
  | world =>
      unfold RendererPoint.afterBand
      by_cases more : y + rows < height
      · rw [if_pos more]
        simp only [RendererPoint.Holds, RendererPoint.done, RendererPoint.Placed, height] at more ⊢
        exact ⟨id, by omega, by omega, more⟩
      · rw [if_neg more]
        simp only [RendererPoint.Holds, RendererPoint.done, RendererPoint.Placed, height] at more ⊢
        exact ⟨id, by omega, trivial⟩

omit sound in
/-- The parity of the number of bands is the buffer of the next one. -/
theorem xor_one (number : ℕ) : number % 2 ^^^ 1 = (number + 1) % 2 := by
  cases Nat.mod_two_eq_zero_or_one number with
  | inl even =>
      rw [even, show (number + 1) % 2 = 1 by omega]
      rfl
  | inr odd =>
      rw [odd, show (number + 1) % 2 = 0 by omega]
      rfl

/-- What is to be told about the other buffer stays, and so does what is in it. -/
theorem Sound.kept_submit (free : ¬relay.Outstanding 2 pipeline.framebuffer.back) {last : Band π}
    {pending : ℕ → PendingFrame}
    (stored : pending = Function.update pipeline.framebuffer.pending pipeline.framebuffer.back
      last.pending) (pixels : last.pixels = pipeline.pixels pipeline.framebuffer.back) (number : ℕ)
    (band : Band π) (later : relay.taken ≤ number)
    (there : (pipeline.submitted ++ [last])[number]? = some band) :
    pending (number % 2) = band.pending ∧ pipeline.pixels (number % 2) = band.pixels := by
  rw [stored]
  cases getElem?_concat_eq_some there with
  | inl old =>
      obtain ⟨before, -⟩ := List.getElem?_eq_some_iff.mp old
      have other : number % 2 ≠ pipeline.framebuffer.back := fun same =>
        free ⟨number, later, sound.submittedLength ▸ before, same⟩
      rw [Function.update_of_ne other]
      exact sound.kept number band later old
  | inr new =>
      obtain ⟨rfl, rfl⟩ := new
      rw [sound.submittedLength, ← sound.back, Function.update_self]
      exact ⟨rfl, pixels.symm⟩

theorem Sound.submit (here : pipeline.point = .submitting kind y rows profile) (now : ℕ) :
    Sound (pipeline.submitBand kind y rows profile now)
      { relay with submitted := relay.submitted + 1 } := by
  obtain ⟨requests, messages, submitted⟩ := sound.submitBand_eq here now
  obtain ⟨rendering, free⟩ := sound.held (by rw [here]; trivial)
  obtain ⟨frame, request⟩ := sound.next here
  have ordered := sound.ordered
  have received := ordered.received_le
  have room := Relay.room_of_free (by decide) ordered (sound.back ▸ free)
  obtain ⟨outside, further, placed⟩ := sound.onward here rfl
  unfold Pipeline.submitBand
  rw [submitted]
  dsimp only
  rw [frame, request, Function.update_self]
  refine { sound with
    ordered := (Relay.Move.submit room).ordered ordered
    submittedLength := ?_, numbered := ?_, requests := ?_, handled := ?_, completed := ?_
    back := ?_, inflight := ?_, rendering := .inl rfl
    kept := sound.kept_submit free rfl rfl, held := fun inside => absurd inside outside
    progress := further, placed := placed }
  · rw [List.length_append, sound.submittedLength]
    rfl
  · intro number band there
    cases getElem?_concat_eq_some there with
    | inl old => exact sound.numbered number band old
    | inr new =>
        obtain ⟨rfl, rfl⟩ := new
        rw [sound.submittedLength]
        exact ⟨rfl, rfl⟩
  · dsimp only
    rw [messages, sound.requests, show relay.submitted + 1 - relay.received =
      relay.submitted - relay.received + 1 by omega, List.range'_1_concat, List.map_append,
      Nat.add_sub_cancel' received]
    rfl
  · have handled := sound.handled
    dsimp only
    cases point : pipeline.display.point <;> rw [point] at handled <;> exact handled
  · intro number entry stored
    obtain ⟨band, found, same⟩ := sound.completed number entry stored
    refine ⟨band, ?_, same⟩
    rw [List.getElem?_append_left (List.getElem?_eq_some_iff.mp found).1]
    exact found
  · dsimp only
    rw [sound.back]
    exact xor_one _
  · intro slot
    dsimp only
    rw [Relay.outstanding_submit ordered, ← sound.inflight slot, ← sound.back,
      Function.update_apply]
    by_cases same : slot = pipeline.framebuffer.back
    · simp [same]
    · simp [same, Ne.symm same]

/-! ## The display thread -/

/-- The request that is received is that of the next band, and the display expects it. -/
theorem Sound.receive (here : pipeline.display.point = .waiting) {rest : Channel DisplayRequest 2}
    (there : pipeline.requests.messages = request :: rest.messages) (now : ℕ) :
    request.y = pipeline.display.expectedY ∧
      relay.Move 2 { relay with received := relay.received + 1 } ∧
      Sound { pipeline with
        requests := rest
        display := pipeline.display.receive request now
        transferred := pipeline.transferred ++ [request] }
        { relay with received := relay.received + 1 } := by
  have handled := sound.handled
  rw [here] at handled
  obtain ⟨idle, expected⟩ := handled
  have requests := sound.requests
  obtain ⟨more, more_eq⟩ : ∃ more, relay.submitted - relay.received = more + 1 := by
    have longer := congrArg List.length requests
    rw [there, List.length_cons, List.length_map, List.length_range'] at longer
    exact ⟨_, longer.symm⟩
  rw [there, more_eq, List.range'_succ, List.map_cons, List.cons.injEq] at requests
  obtain ⟨rfl, requests⟩ := requests
  have unchanged : (pipeline.display.receive (bandRequest relay.received) now).expectedY =
      pipeline.display.expectedY := by
    unfold DisplayThread.receive
    split <;> rfl
  have taken : (pipeline.display.receive (bandRequest relay.received) now).point =
      .transferring (bandRequest relay.received) now := by
    unfold DisplayThread.receive
    split <;> rfl
  have move : relay.Move 2 { relay with received := relay.received + 1 } :=
    .receive idle (by omega)
  refine ⟨expected.symm, move, { sound with
    ordered := move.ordered sound.ordered
    transferred := ?_, requests := ?_, handled := ?_, answers := ?_ }⟩
  · rw [sound.transferred, List.range_succ, List.map_append]
    rfl
  · dsimp only
    rw [requests, show relay.submitted - (relay.received + 1) = more by omega]
  · dsimp only
    rw [unchanged, taken]
    refine ⟨by rw [← idle], ?_, ?_⟩
    · rw [expected, ← idle]
    · rw [← idle]
  · rw [sound.answers, here]
    dsimp only
    rw [taken]
    rfl

/-- After a band the display expects the next one, or the first one of a frame. -/
theorem Sound.finish {started : ℕ} (here : pipeline.display.point = .transferring request started)
    (written : Bool) (now : ℕ) :
    Sound { pipeline with
      display := pipeline.display.finish request started written now
      answered := pipeline.answered ++
        (pipeline.display.finish request started written now).point.answers.map
          fun answer => (request, answer) } relay := by
  have handled := sound.handled
  rw [here] at handled
  obtain ⟨busy, -, rfl⟩ := handled
  have longer := congrArg List.length sound.answers
  rw [here, List.length_append, List.length_append, List.length_map, List.length_map,
    sound.finishedLength] at longer
  have grown : pipeline.answered.length = relay.finished := longer
  refine { sound with handled := ⟨busy, ?_, rfl⟩, answered := ?_, answers := ?_ }
  · unfold DisplayThread.finish
    dsimp only
    rw [busy]
    by_cases last : (bandRequest relay.finished).y + (bandRequest relay.finished).rows = height
    · rw [if_pos (decide_eq_true last)]
      simp only [bandRequest, height] at last
      omega
    · rw [if_neg (by rw [decide_eq_true_eq]; exact last)]
      simp only [bandRequest, height] at last ⊢
      omega
  · rw [List.map_append, sound.answered, List.length_append, grown]
    change _ = (List.range (relay.finished + 1)).map bandRequest
    rw [List.range_succ, List.map_append]
    rfl
  · rw [List.map_append, sound.answers, here]
    exact congrArg (· ++ _) (List.append_nil _)

theorem Sound.complete {completions : Channel BandCompletion 2}
    (here : pipeline.display.point = .completing completion)
    (sent : completions.messages = pipeline.completions.messages ++ [completion]) :
    relay.Move 2 { relay with finished := relay.finished + 1 } ∧
      Sound { pipeline with
        completions := completions
        display := { pipeline.display with point := .waiting } }
        { relay with finished := relay.finished + 1 } := by
  have handled := sound.handled
  rw [here] at handled
  obtain ⟨busy, expected, index⟩ := handled
  have before := sound.ordered.taken_le
  have move : relay.Move 2 { relay with finished := relay.finished + 1 } := .finish (by omega)
  refine ⟨move, { sound with
    ordered := move.ordered sound.ordered
    finishedLength := ?_, handled := ⟨busy, expected⟩, completions := ?_, answers := ?_ }⟩
  · rw [sent, List.length_append, ← Nat.add_assoc, sound.finishedLength]
    rfl
  · dsimp only
    rw [sent, List.map_append, sound.completions, show relay.finished + 1 - relay.taken =
      relay.finished - relay.taken + 1 by omega, List.range'_1_concat, List.map_append,
      Nat.add_sub_cancel' before]
    simp [index]
  · dsimp only
    rw [sound.answers, here, sent, ← List.append_assoc]
    exact (List.append_nil _).symm

end Pipeline

end Deskkin.Renderer
