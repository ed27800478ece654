/-
# Bands are never torn

Until a fault is reported, the buffer that the renderer draws is not one that a transfer
reads or is going to read, the bands go to the display in their order, what comes back is
told with what was kept for it, and whoever waits for a buffer waits for the first band to
come back.
-/

import Deskkin.Renderer.BandOrder

namespace Deskkin.Renderer

namespace Pipeline

variable {π : Type}

/-- The renderer has stopped. -/
def Reported (pipeline : Pipeline π) : Prop := ∃ fault, pipeline.point = .reported fault

/-- The renderer is inside of a band, and the band is in this buffer. -/
def Writes (pipeline : Pipeline π) (slot : ℕ) : Prop :=
  pipeline.point.Holds ∧ pipeline.framebuffer.back = slot

/-- A transfer from this buffer is queued or running. -/
def Reads (pipeline : Pipeline π) (slot : ℕ) : Prop :=
  (∃ request ∈ pipeline.requests.messages, request.bufferIndex = slot) ∨
  ∃ request started, pipeline.display.point = .transferring request started ∧
    request.bufferIndex = slot

/-- The renderer waits for the buffer of a band, and a band in it is not back. -/
def Waits (pipeline : Pipeline π) (kind : FrameKind) (y : ℕ) : Prop :=
  (∃ started, pipeline.point = .buffer kind y started) ∧
  pipeline.framebuffer.ownership.isInflight pipeline.framebuffer.back = true

/-- The next round takes a completion. It stops the renderer if the band was not
transferred; otherwise the round after it leaves the wait. -/
def Released (pipeline : Pipeline π) (kind : FrameKind) (y : ℕ) : Prop :=
  ∀ expired now, ∃ after, pipeline.rendererStep (.await expired now) = some after ∧
    (after.Reported ∨ ∀ expired now, ∃ last,
      after.rendererStep (.await expired now) = some last ∧ last.point = .drawing kind y)

structure Untorn (pipeline : Pipeline π) : Prop where
  apart : ∀ slot, pipeline.Writes slot → ¬pipeline.Reads slot
  intact : ∀ number band, pipeline.completed.length ≤ number →
    pipeline.submitted[number]? = some band →
      pipeline.pixels band.request.bufferIndex = band.pixels
  inOrder : ∀ number request, pipeline.transferred[number]? = some request →
    ∃ band, pipeline.submitted[number]? = some band ∧ request = band.request ∧
      band.frame = number / 8 ∧ request.y = 32 * (number % 8) ∧
      request.rows = min 32 (240 - request.y)
  delivered : pipeline.completed.length ≤ pipeline.transferred.length
  paired : ∀ (number : ℕ) (frame : PendingFrame) (completion : BandCompletion),
    pipeline.completed[number]? = some (frame, completion) →
      ∃ band : Band π, pipeline.submitted[number]? = some band ∧ frame = band.pending ∧
        completion.bufferIndex = band.request.bufferIndex ∧
        pipeline.answered[number]? = some (band.request, completion)
  told : pipeline.observed =
    pipeline.completed.flatMap fun entry => observations entry.1 entry.2
  underWay : ∀ kind y, pipeline.Waits kind y →
    pipeline.requests.messages ≠ [] ∨ pipeline.display.point ≠ .waiting ∨
      pipeline.completions.messages ≠ []
  released : ∀ kind y completion rest, pipeline.Waits kind y →
    pipeline.completions.messages = completion :: rest →
      completion.bufferIndex = pipeline.framebuffer.back ∧ pipeline.Released kind y

/-! ## Every step follows the relay -/

/-- One step of a pipeline is at most one move of the relay. -/
def Follows (relay after : Relay) : Prop := after = relay ∨ relay.Move 2 after

section Steps

variable {pipeline after : Pipeline π} {relay : Relay}

variable (sound : pipeline.Sound relay)
include sound

/-- Taking a completion stops the renderer, finds none or is a move of the relay. -/
theorem Sound.takeCompletion {wait expired : Bool} {next : Bool → Pipeline π → Pipeline π}
    (taken : pipeline.takeCompletion wait expired next = some after) :
    after.Reported ∨ wait = false ∧ after = next false pipeline ∨
      ∃ later, later.Sound { relay with taken := relay.taken + 1 } ∧
        relay.taken < relay.finished ∧ later.point = pipeline.point ∧ after = next true later := by
  unfold Pipeline.takeCompletion at taken
  obtain ⟨received, answer, rfl⟩ := Option.map_eq_some_iff.mp taken
  unfold displayTakeCompletion at answer
  split at answer
  · rename_i completion rest there
    have there := Channel.tryRecv_eq_some_iff.mp there
    split at answer
    · cases answer
      exact .inl ⟨_, rfl⟩
    · cases answer
      obtain ⟨band, found, completed⟩ := sound.takeCompletion_eq there
      dsimp only
      rw [completed]
      exact .inr (.inr ⟨_, sound.take there found, (sound.first there).1, rfl, rfl⟩)
  · split at answer
    · rename_i impatient
      cases answer
      exact .inr (.inl ⟨by simpa using impatient, rfl⟩)
    · split at answer
      · cases answer
        exact .inl ⟨_, rfl⟩
      · cases answer

theorem Sound.processLine {nextLine : ℕ} (here : pipeline.point = .line nextLine)
    (line first last now : ℕ) :
    (pipeline.processLine nextLine line first last now).Reported ∨
      (pipeline.processLine nextLine line first last now).Sound relay := by
  unfold Pipeline.processLine
  by_cases wrong : line ≠ nextLine ∨ first ≠ 0 ∨ last ≠ width ∨ line ≥ height
  · rw [if_pos wrong]
    exact .inl ⟨_, rfl⟩
  · rw [if_neg wrong]
    simp only [not_or, not_not, height, ge_iff_le, not_le] at wrong
    obtain ⟨rfl, -, -, inside⟩ := wrong
    right
    by_cases top : line % bandRows = 0
    · rw [if_pos top]
      refine sound.turn ⟨top, inside⟩ ?_ ?_
      · simp only [here, RendererPoint.done]
        rw [if_neg inside.ne]
      · simp only [here, RendererPoint.Holds, false_iff, bandRows] at top ⊢
        omega
    · rw [if_neg top]
      refine sound.turn inside ?_ ?_
      · simp only [here, RendererPoint.done]
        rw [if_neg inside.ne]
      · simp only [here, RendererPoint.Holds, true_iff]
        exact ⟨top, inside⟩

theorem Sound.await {kind : FrameKind} {y started : ℕ}
    (here : pipeline.point = .buffer kind y started) {expired : Bool} {now : ℕ}
    (awaited : pipeline.await kind y started expired now = some after) :
    after.Reported ∨ ∃ later, Follows relay later ∧ after.Sound later := by
  unfold Pipeline.await at awaited
  split at awaited
  · rcases sound.takeCompletion awaited with fault | ⟨impossible, -⟩ | ⟨later, sound, done, -, rfl⟩
    · exact .inl fault
    · cases impossible
    · exact .inr ⟨_, .inr (.take done), sound⟩
  · rename_i free
    rw [Bool.not_eq_true] at free
    obtain ⟨framebuffer, begun, sound⟩ := sound.beginBand here free now
    rw [begun] at awaited
    cases awaited
    exact .inr ⟨relay, .inl rfl, sound⟩

theorem Sound.poll {next : Option FrameKind} (here : pipeline.point = .publishing next) {now : ℕ}
    (polled : pipeline.takeCompletion false false (Pipeline.poll next now) = some after) :
    after.Reported ∨ ∃ later, Follows relay later ∧ after.Sound later := by
  rcases sound.takeCompletion polled with fault | ⟨-, rfl⟩ | ⟨later, sound, done, -, rfl⟩
  · exact .inl fault
  · refine .inr ⟨relay, .inl rfl, ?_⟩
    cases next with
    | none => exact sound.turn trivial (by rw [here]; rfl) (by rw [here]; exact Iff.rfl)
    | some kind => exact sound.beginFrame here kind now
  · exact .inr ⟨_, .inr (.take done), sound⟩

/-- What the renderer does stops it or follows the relay. -/
theorem Sound.rendererStep {label : RendererLabel π}
    (stepped : pipeline.rendererStep label = some after) :
    after.Reported ∨ ∃ later, Follows relay later ∧ after.Sound later := by
  unfold Pipeline.rendererStep at stepped
  split at stepped
  · rename_i here
    cases stepped
    exact .inr ⟨relay, .inl rfl, sound.turn trivial (by rw [here]; rfl) (by rw [here]; rfl)⟩
  · rename_i here
    cases stepped
    exact .inr ⟨relay, .inl rfl, sound.turn trivial (by rw [here]; rfl) (by rw [here]; rfl)⟩
  · rename_i here
    exact sound.poll here stepped
  · rename_i here
    cases stepped
    exact (sound.processLine here _ _ _ _).imp id fun sound => ⟨relay, .inl rfl, sound⟩
  · rename_i nextLine drawn here
    split at stepped
    · cases stepped
      exact .inl ⟨_, rfl⟩
    · rename_i complete
      cases stepped
      have last : nextLine = 240 := by
        by_contra early
        exact complete (.inr early)
      refine .inr ⟨relay, .inl rfl, sound.turn trivial ?_ ?_⟩
      · rw [here, last]
        rfl
      · rw [here, last]
        simp only [RendererPoint.Holds, lt_irrefl, and_false]
  · rename_i y now here
    cases stepped
    have placed := sound.placed
    rw [here] at placed
    exact .inr ⟨relay, .inl rfl, sound.turn placed (by rw [here]; rfl) (by rw [here]; rfl)⟩
  · rename_i here
    exact sound.await here stepped
  · rename_i here
    cases stepped
    exact .inr ⟨relay, .inl rfl, sound.paint here _⟩
  · rename_i here
    cases stepped
    exact .inr ⟨relay, .inl rfl, sound.drawn here _⟩
  · rename_i here
    cases stepped
    obtain ⟨rendering, free⟩ := sound.held (by rw [here]; trivial)
    have room := Relay.room_of_free (by decide) sound.ordered (sound.back ▸ free)
    exact .inr ⟨_, .inr (.submit room), sound.submit here _⟩
  · cases stepped
  · cases stepped
    exact .inl ⟨_, rfl⟩
  · cases stepped

/-- What the display thread does follows the relay. -/
theorem Sound.displayStep {label : DisplayLabel}
    (stepped : pipeline.displayStep label = some after) :
    ∃ later, Follows relay later ∧ after.Sound later := by
  unfold Pipeline.displayStep at stepped
  split at stepped
  · rename_i here
    obtain ⟨received, there, rfl⟩ := Option.map_eq_some_iff.mp stepped
    have there := Channel.tryRecv_eq_some_iff.mp there
    obtain ⟨expected, move, later⟩ := sound.receive here there _
    rw [if_pos expected]
    exact ⟨_, .inr move, later⟩
  · rename_i here
    cases stepped
    exact ⟨relay, .inl rfl, sound.finish here _ _⟩
  · rename_i here
    obtain ⟨completions, sent, rfl⟩ := Option.map_eq_some_iff.mp stepped
    have sent := Channel.trySend_eq_some_iff.mp sent
    obtain ⟨move, later⟩ := sound.complete here sent
    exact ⟨_, .inr move, later⟩
  · cases stepped

end Steps

theorem displayStep_point {pipeline after : Pipeline π} {label : DisplayLabel}
    (stepped : pipeline.displayStep label = some after) : after.point = pipeline.point := by
  unfold Pipeline.displayStep at stepped
  split at stepped
  · obtain ⟨received, -, rfl⟩ := Option.map_eq_some_iff.mp stepped
    rfl
  · cases stepped
    rfl
  · obtain ⟨completions, -, rfl⟩ := Option.map_eq_some_iff.mp stepped
    rfl
  · cases stepped

/-- Every run of both threads follows a relay, until a fault is reported. -/
theorem sound_of_reachable {pipeline : Pipeline π} (reachable : (machine π).Reachable pipeline) :
    pipeline.Reported ∨ ∃ relay, pipeline.Sound relay := by
  refine reachable.invariant
    (P := fun pipeline => pipeline.Reported ∨ ∃ relay, pipeline.Sound relay) ?_ ?_
  · rintro _ ⟨pixels, rfl⟩
    exact .inr ⟨_, sound_start pixels⟩
  · intro before label after holds stepped
    cases label with
    | inl label =>
        rcases holds with ⟨fault, here⟩ | ⟨relay, sound⟩
        · simp only [machine, Pipeline.rendererStep, here] at stepped
          cases label <;> cases stepped
        · exact (sound.rendererStep stepped).imp id fun ⟨later, _, sound⟩ => ⟨later, sound⟩
    | inr label =>
        rcases holds with ⟨fault, here⟩ | ⟨relay, sound⟩
        · exact .inl ⟨fault, (displayStep_point stepped).trans here⟩
        · obtain ⟨later, -, sound⟩ := sound.displayStep stepped
          exact .inr ⟨later, sound⟩

/-! ## What the relay says about the buffers -/

section Buffers

variable {pipeline : Pipeline π} {relay : Relay}

theorem Sound.outstanding_of_reads (sound : pipeline.Sound relay) {slot : ℕ}
    (reads : pipeline.Reads slot) : relay.Outstanding 2 slot := by
  have ordered := sound.ordered
  have received := ordered.received_le
  have finished := ordered.finished_le
  have taken := ordered.taken_le
  rcases reads with ⟨request, queued, rfl⟩ | ⟨request, started, here, rfl⟩
  · rw [sound.requests] at queued
    obtain ⟨number, between, rfl⟩ := List.mem_map.mp queued
    rw [List.mem_range'_1] at between
    exact ⟨number, by omega, by omega, rfl⟩
  · have handled := sound.handled
    rw [here] at handled
    obtain ⟨busy, -, rfl⟩ := handled
    exact ⟨relay.finished, taken, by omega, rfl⟩

variable {kind : FrameKind} {completion : BandCompletion} {rest : List BandCompletion}

variable (sound : pipeline.Sound relay)
include sound

/-- Who waits for a buffer waits with all of the buffers under way. -/
theorem Sound.full_of_waits {y : ℕ} (waits : pipeline.Waits kind y) :
    relay.submitted = relay.taken + 2 := by
  have inflight := waits.2
  rw [BufferOwnership.isInflight, Bool.and_eq_true] at inflight
  have outstanding := (sound.inflight _).mp inflight.2
  rw [sound.back] at outstanding
  exact Relay.full_of_outstanding_next sound.ordered outstanding

/-- While the renderer waits, a band is queued, transferred or on its way back. -/
theorem Sound.underWay {y : ℕ} (waits : pipeline.Waits kind y) :
    pipeline.requests.messages ≠ [] ∨ pipeline.display.point ≠ .waiting ∨
      pipeline.completions.messages ≠ [] := by
  have full := sound.full_of_waits waits
  by_contra idle
  simp only [not_or, not_not] at idle
  obtain ⟨unrequested, waiting, uncompleted⟩ := idle
  have handled := sound.handled
  rw [waiting] at handled
  have requests := congrArg List.length sound.requests
  have finished := sound.finishedLength
  rw [unrequested, List.length_nil, List.length_map, List.length_range'] at requests
  rw [uncompleted, sound.completedLength, List.length_nil] at finished
  have idle := handled.1
  omega

omit sound in
theorem exists_takeCompletion (there : pipeline.completions.messages = completion :: rest)
    (wait expired : Bool) (next : Bool → Pipeline π → Pipeline π) :
    ∃ after, pipeline.takeCompletion wait expired next = some after := by
  obtain ⟨left, received⟩ := Channel.exists_tryRecv there
  unfold Pipeline.takeCompletion displayTakeCompletion
  rw [received]
  dsimp only
  split <;> exact ⟨_, rfl⟩

omit sound in
theorem rendererStep_await {y started : ℕ} (here : pipeline.point = .buffer kind y started)
    (expired : Bool) (now : ℕ) :
    pipeline.rendererStep (.await expired now) = pipeline.await kind y started expired now := by
  unfold Pipeline.rendererStep
  rw [here]

/-- Where there is room for a band, the renderer does not wait for its buffer. -/
theorem Sound.begins {y started : ℕ} (here : pipeline.point = .buffer kind y started)
    (room : relay.submitted < relay.taken + 2) (expired : Bool) (now : ℕ) :
    ∃ last, pipeline.rendererStep (.await expired now) = some last ∧
      last.point = .drawing kind y := by
  have free : pipeline.framebuffer.ownership.isInflight pipeline.framebuffer.back = false := by
    rw [BufferOwnership.isInflight, Bool.and_eq_false_iff]
    right
    rw [← Bool.not_eq_true, sound.inflight, sound.back]
    exact Relay.not_outstanding_next room
  obtain ⟨framebuffer, begun, -⟩ := sound.beginBand here free now
  refine ⟨{ pipeline with framebuffer := framebuffer, point := .drawing kind y }, ?_, rfl⟩
  rw [rendererStep_await here, Pipeline.await, if_neg (by rw [free]; decide), begun]

/-- The wait for a buffer is over as soon as the band in it is back. -/
theorem Sound.released {y : ℕ} (waits : pipeline.Waits kind y)
    (there : pipeline.completions.messages = completion :: rest) :
    completion.bufferIndex = pipeline.framebuffer.back ∧ pipeline.Released kind y := by
  have full := sound.full_of_waits waits
  obtain ⟨⟨started, here⟩, inflight⟩ := waits
  obtain ⟨-, index, -⟩ := sound.first there
  refine ⟨by rw [index, sound.back, full, Nat.add_mod_right], fun expired now => ?_⟩
  obtain ⟨after, taken⟩ := exists_takeCompletion there true expired fun _ after => after
  refine ⟨after, ?_, ?_⟩
  · rw [rendererStep_await here, Pipeline.await, if_pos inflight]
    exact taken
  · rcases sound.takeCompletion taken with fault | ⟨impossible, -⟩ | ⟨later, sound, -, same, rfl⟩
    · exact .inl fault
    · cases impossible
    · have room : relay.submitted < relay.taken + 1 + 2 := by omega
      exact .inr (sound.begins (same.trans here) room)

/-- The completions were taken in the order in which the display thread gave them. -/
theorem Sound.answered_of_completed {number : ℕ} {entry : PendingFrame × BandCompletion}
    (there : pipeline.completed[number]? = some entry) :
    pipeline.answered[number]? = some (bandRequest number, entry.2) := by
  obtain ⟨before, rfl⟩ := List.getElem?_eq_some_iff.mp there
  have answer := congrArg (·[number]?) sound.answers
  have request := congrArg (·[number]?) sound.answered
  rw [List.append_assoc, List.getElem?_append_left (by rw [List.length_map]; exact before),
    List.getElem?_map, List.getElem?_map, there] at answer
  obtain ⟨⟨first, second⟩, found, rfl⟩ := Option.map_eq_some_iff.mp answer
  obtain ⟨early, -⟩ := List.getElem?_eq_some_iff.mp found
  rw [List.getElem?_map, List.getElem?_map, found, List.getElem?_range early] at request
  cases request
  exact found

theorem Sound.noneTorn : pipeline.Untorn := by
  have ordered := sound.ordered
  refine ⟨?_, ?_, ?_, ?_, ?_, sound.observed, ?_, ?_⟩
  · rintro slot ⟨holds, rfl⟩ reads
    exact (sound.held holds).2 (sound.outstanding_of_reads reads)
  · intro number band uncompleted stored
    rw [(sound.numbered number band stored).2]
    exact (sound.kept number band (sound.completedLength ▸ uncompleted) stored).2
  · intro number request there
    rw [sound.transferred, List.getElem?_map] at there
    obtain ⟨item, found, rfl⟩ := Option.map_eq_some_iff.mp there
    obtain ⟨before, rfl⟩ := List.getElem?_eq_some_iff.mp found
    rw [List.getElem_range]
    rw [List.length_range] at before
    have stored := List.getElem?_eq_getElem
      (sound.submittedLength ▸ before.trans_le ordered.received_le)
    obtain ⟨frame, request⟩ := sound.numbered number _ stored
    exact ⟨_, stored, request.symm, frame, rfl, rfl⟩
  · rw [sound.transferred, List.length_map, List.length_range, sound.completedLength]
    exact ordered.taken_le.trans ordered.finished_le
  · intro number frame completion there
    obtain ⟨band, stored, pending, index⟩ := sound.completed number _ there
    have request := (sound.numbered number band stored).2
    refine ⟨band, stored, pending, ?_, ?_⟩
    · rw [request]
      exact index
    · rw [request]
      exact sound.answered_of_completed there
  · exact fun kind y waits => sound.underWay waits
  · exact fun kind y completion rest waits there => sound.released waits there

end Buffers

/-- In every run of the renderer and the display thread, as long as no fault is reported, no
band is torn. -/
theorem untorn {pipeline : Pipeline π} (reachable : (machine π).Reachable pipeline)
    (unreported : ¬pipeline.Reported) : pipeline.Untorn := by
  obtain ⟨relay, sound⟩ := (sound_of_reachable reachable).resolve_left unreported
  exact sound.noneTorn

/-- Two bands of a world frame are submitted, and the display has the first one. -/
def twoBands : List (RendererLabel ℕ ⊕ DisplayLabel) :=
  let band (content : ℕ) : List (RendererLabel ℕ ⊕ DisplayLabel) :=
    [.inl (.band 5), .inl (.await false 5), .inl (.paint content),
      .inl (.drawn (Vector.replicate 16 0)), .inl (.submit 7)]
  [.inl (.frame .world), .inl (.poll 3)] ++ band 1 ++ [.inr (.receive 7)] ++ band 2 ++
    [.inl (.band 9)]

/-- The third band waits for the first one, which is not torn. -/
theorem untorn_waiting :
    ∃ pipeline : Pipeline ℕ, pipeline.Waits .world 64 ∧ pipeline.Reads 0 ∧ pipeline.Untorn := by
  have ran : ((machine ℕ).execute (start fun _ => 0) twoBands).map
      (fun pipeline => (pipeline.point, pipeline.display.point,
        pipeline.framebuffer.ownership.isInflight pipeline.framebuffer.back)) =
      some (.buffer .world 64 9, .transferring ⟨0, 0, 32⟩ 7, true) := rfl
  obtain ⟨pipeline, reachable, found⟩ := StepSystem.exists_reachable_of_map ran ⟨_, rfl⟩
  simp only [Prod.mk.injEq] at found
  obtain ⟨waiting, transferring, inflight⟩ := found
  refine ⟨pipeline, ⟨⟨9, waiting⟩, inflight⟩, .inr ⟨_, 7, transferring, rfl⟩, ?_⟩
  refine untorn reachable ?_
  rintro ⟨fault, stopped⟩
  rw [waiting] at stopped
  cases stopped

end Pipeline

end Deskkin.Renderer
