/-
# The renderer and the display thread

The renderer thread draws one frame after the other, a shell frame line by line as the
toolkit calls for it and a world frame band by band, and publishes what has come back. The
display thread takes one request after the other, writes the band to the display and
answers. Two queues with room for two messages each are between them.

A step is what a thread does up to its next look at a queue. The clock, the toolkit, the
outcome of a write to the display and what is drawn appear as part of the label. Besides
its queues a pipeline records what was submitted, transferred, answered and completed;
neither thread reads that.
-/

import Deskkin.Lib.Runs
import Deskkin.Renderer.BandBuffer

namespace Deskkin.Renderer

/-! ## The display thread -/

/-- Where the display thread is: before the next request, in the middle of a transfer, or
before the answer. -/
inductive DisplayPoint
  | waiting
  | transferring (request : DisplayRequest) (started : ℕ)
  | completing (completion : BandCompletion)
  deriving DecidableEq

/-- The answer that the display thread is about to give. -/
def DisplayPoint.answers : DisplayPoint → List BandCompletion
  | .completing completion => [completion]
  | .waiting | .transferring _ _ => []

structure DisplayThread where
  expectedY : ℕ
  frameFailed : Bool
  frameTransferUs : ℕ
  frameWaitUs : ℕ
  previousFinished : ℕ
  point : DisplayPoint
  deriving DecidableEq

namespace DisplayThread

def new : DisplayThread := ⟨0, false, 0, 0, 0, .waiting⟩

/-- The difference of two readings of the clock, cut down to 32 bits. -/
def since (earlier later : ℕ) : ℕ :=
  min ((later + (Checked.u64Max + 1) - earlier) % (Checked.u64Max + 1)) Checked.u32Max

def addUs (total amount : ℕ) : ℕ := (total + amount) % (Checked.u32Max + 1)

/-- A request is taken, and a new frame starts where none is under way. -/
def receive (display : DisplayThread) (request : DisplayRequest) (started : ℕ) :
    DisplayThread :=
  if display.expectedY = 0 then
    { display with
      frameFailed := false
      frameTransferUs := 0
      frameWaitUs := 0
      point := .transferring request started }
  else
    { display with
      frameWaitUs := addUs display.frameWaitUs (since display.previousFinished started)
      point := .transferring request started }

/-- The transfer is over. It was a transfer only if the band is the expected one. -/
def finish (display : DisplayThread) (request : DisplayRequest) (started : ℕ) (written : Bool)
    (finished : ℕ) : DisplayThread :=
  let failed := display.frameFailed || !(decide (request.y = display.expectedY) && written)
  let transferUs := addUs display.frameTransferUs (since started finished)
  let expectedY := request.y + request.rows
  let final := decide (expectedY = height)
  { display with
    expectedY := if final then 0 else expectedY
    frameFailed := failed
    frameTransferUs := transferUs
    previousFinished := finished
    point := .completing {
      bufferIndex := request.bufferIndex
      result := if failed then -1 else 0
      durationUs := if final then transferUs else 0
      waitUs := if final then display.frameWaitUs else 0 } }

end DisplayThread

/-! ## The state of both threads -/

inductive FrameKind
  | shell
  | world
  deriving DecidableEq

/-- Where the renderer is: between frames, publishing completions before a frame or for its
own sake, before a line of a shell frame, before a band of a world frame, waiting for the
buffer of a band, drawing, submitting a band, or at the end with a fault. -/
inductive RendererPoint
  | idle
  | publishing (next : Option FrameKind)
  | line (nextLine : ℕ)
  | world (y : ℕ)
  | buffer (kind : FrameKind) (y started : ℕ)
  | drawing (kind : FrameKind) (line : ℕ)
  | submitting (kind : FrameKind) (y rows : ℕ) (profile : Option (Vector ℕ 16))
  | reported (fault : RendererFault)

/-- Before the first line or the first band of a frame. -/
def RendererPoint.begin : FrameKind → RendererPoint
  | .shell => .line 0
  | .world => .world 0

/-- After a band, with the line that comes next. -/
def RendererPoint.afterBand (next : ℕ) : FrameKind → RendererPoint
  | .shell => .line next
  | .world => if next < height then .world next else .idle

/-- A band as it was submitted: the number of its frame, the request, what is to be told
about it and the contents of the buffer. -/
structure Band (π : Type) where
  frame : ℕ
  request : DisplayRequest
  pending : PendingFrame
  pixels : π

structure Pipeline (π : Type) where
  framebuffer : Framebuffer
  point : RendererPoint
  pixels : ℕ → π
  requests : Channel DisplayRequest 2
  completions : Channel BandCompletion 2
  display : DisplayThread
  observed : List Observation
  frames : ℕ
  submitted : List (Band π)
  transferred : List DisplayRequest
  answered : List (DisplayRequest × BandCompletion)
  completed : List (PendingFrame × BandCompletion)

/-- What the renderer does next, with what it learns from outside. -/
inductive RendererLabel (π : Type)
  | pace
  | frame (kind : FrameKind)
  | poll (now : ℕ)
  | processLine (line first last now : ℕ)
  | rendered (drawn : Bool)
  | band (now : ℕ)
  | await (expired : Bool) (now : ℕ)
  | paint (content : π)
  | drawn (profile : Vector ℕ 16)
  | submit (now : ℕ)
  | abandon (fault : RendererFault)

inductive DisplayLabel
  | receive (now : ℕ)
  | finish (written : Bool) (now : ℕ)
  | complete

namespace Pipeline

variable {π : Type}

/-- Both threads at the start of their loops, with anything in the buffers. -/
def start (pixels : ℕ → π) : Pipeline π where
  framebuffer := Framebuffer.new
  point := .idle
  pixels := pixels
  requests := Channel.empty
  completions := Channel.empty
  display := DisplayThread.new
  observed := []
  frames := 0
  submitted := []
  transferred := []
  answered := []
  completed := []

/-! ## The renderer -/

def report (pipeline : Pipeline π) (fault : RendererFault) : Pipeline π :=
  { pipeline with point := .reported fault }

/-- Take a completion and go on at a point that depends on whether there was one. -/
def takeCompletion (pipeline : Pipeline π) (wait expired : Bool)
    (next : Bool → Pipeline π → Pipeline π) : Option (Pipeline π) :=
  (displayTakeCompletion pipeline.completions wait expired).map fun received =>
    let pipeline := { pipeline with completions := received.2 }
    match pipeline.framebuffer.takeCompletion received.1 with
    | (.error fault, framebuffer) => { pipeline with framebuffer := framebuffer }.report fault
    | (.ok none, framebuffer) => next false { pipeline with framebuffer := framebuffer }
    | (.ok (some frame), framebuffer) =>
        next true { pipeline with
          framebuffer := framebuffer
          observed := pipeline.observed ++ observations frame.1 frame.2
          completed := pipeline.completed ++ [frame] }

/-- The completions are published as long as there are any, and then the frame begins. -/
def poll (next : Option FrameKind) (now : ℕ) (taken : Bool) (pipeline : Pipeline π) :
    Pipeline π :=
  if taken then pipeline
  else
    match next with
    | none => { pipeline with point := .idle }
    | some kind =>
        { pipeline with
          framebuffer := pipeline.framebuffer.beginFrame now
          frames := pipeline.frames + 1
          point := .begin kind }

/-- The toolkit calls for a line of a shell frame. -/
def processLine (pipeline : Pipeline π) (nextLine line first last now : ℕ) : Pipeline π :=
  if line ≠ nextLine ∨ first ≠ 0 ∨ last ≠ width ∨ line ≥ height then
    pipeline.report .renderSkipped
  else if line % bandRows = 0 then { pipeline with point := .buffer .shell line now }
  else { pipeline with point := .drawing .shell line }

/-- One round of the wait for the buffer of a band, or the end of the wait. -/
def await (pipeline : Pipeline π) (kind : FrameKind) (y started : ℕ) (expired : Bool)
    (now : ℕ) : Option (Pipeline π) :=
  if pipeline.framebuffer.ownership.isInflight pipeline.framebuffer.back then
    pipeline.takeCompletion true expired fun _ after => after
  else
    match pipeline.framebuffer.beginBand started now with
    | .error fault => some (pipeline.report fault)
    | .ok framebuffer =>
        some { pipeline with framebuffer := framebuffer, point := .drawing kind y }

/-- A line or a band is drawn. A band of a shell frame is full at the end of its last line. -/
def drawn (pipeline : Pipeline π) (kind : FrameKind) (line : ℕ) (profile : Vector ℕ 16) :
    Pipeline π :=
  match kind with
  | .shell =>
      let nextLine := line + 1
      let y := line / bandRows * bandRows
      if nextLine % bandRows = 0 ∨ nextLine = height then
        { pipeline with point := .submitting .shell y (nextLine - y) none }
      else { pipeline with point := .line nextLine }
  | .world =>
      let rows := min bandRows (height - line)
      if line + rows < height then
        { pipeline with point := .submitting .world line rows none }
      else
        let lastBand := (height - 1) / bandRows * bandRows
        { pipeline with point := .submitting .world lastBand (height - lastBand) (some profile) }

def submitBand (pipeline : Pipeline π) (kind : FrameKind) (y rows : ℕ)
    (profile : Option (Vector ℕ 16)) (now : ℕ) : Pipeline π :=
  let index := pipeline.framebuffer.back
  match pipeline.framebuffer.submitBand pipeline.requests y rows profile now with
  | (.error fault, framebuffer) => { pipeline with framebuffer := framebuffer }.report fault
  | (.ok requests, framebuffer) =>
      { pipeline with
        framebuffer := framebuffer
        requests := requests
        submitted := pipeline.submitted ++ [⟨pipeline.frames - 1, ⟨index, y, rows⟩,
          framebuffer.pending index, pipeline.pixels index⟩]
        point := .afterBand (y + rows) kind }

def rendererStep (pipeline : Pipeline π) (label : RendererLabel π) : Option (Pipeline π) :=
  match pipeline.point, label with
  | .idle, .pace => some { pipeline with point := .publishing none }
  | .idle, .frame kind => some { pipeline with point := .publishing (some kind) }
  | .publishing next, .poll now => pipeline.takeCompletion false false (poll next now)
  | .line nextLine, .processLine line first last now =>
      some (pipeline.processLine nextLine line first last now)
  | .line nextLine, .rendered drawn =>
      if !drawn ∨ nextLine ≠ height then some (pipeline.report .renderSkipped)
      else some { pipeline with point := .idle }
  | .world y, .band now => some { pipeline with point := .buffer .world y now }
  | .buffer kind y started, .await expired now => pipeline.await kind y started expired now
  | .drawing _ _, .paint content =>
      some { pipeline with
        pixels := Function.update pipeline.pixels pipeline.framebuffer.back content }
  | .drawing kind line, .drawn profile => some (pipeline.drawn kind line profile)
  | .submitting kind y rows profile, .submit now =>
      some (pipeline.submitBand kind y rows profile now)
  | .reported _, .abandon _ => none
  | _, .abandon fault => some (pipeline.report fault)
  | _, _ => none

/-! ## Both threads -/

def displayStep (pipeline : Pipeline π) (label : DisplayLabel) : Option (Pipeline π) :=
  match pipeline.display.point, label with
  | .waiting, .receive now =>
      pipeline.requests.tryRecv.map fun received =>
        { pipeline with
          requests := received.2
          display := pipeline.display.receive received.1 now
          transferred :=
            if received.1.y = pipeline.display.expectedY then
              pipeline.transferred ++ [received.1]
            else pipeline.transferred }
  | .transferring request started, .finish written now =>
      let display := pipeline.display.finish request started written now
      some { pipeline with
        display := display
        answered := pipeline.answered ++ display.point.answers.map fun answer => (request, answer) }
  | .completing completion, .complete =>
      (pipeline.completions.trySend completion).map fun completions =>
        { pipeline with
          completions := completions
          display := { pipeline.display with point := .waiting } }
  | _, _ => none

/-- Any interleaving of the two threads. -/
def machine (π : Type) : StepSystem (Pipeline π) (RendererLabel π ⊕ DisplayLabel) where
  Initial pipeline := ∃ pixels, pipeline = start pixels
  step pipeline
    | .inl label => pipeline.rendererStep label
    | .inr label => pipeline.displayStep label

end Pipeline

end Deskkin.Renderer
