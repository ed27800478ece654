/-
# Band buffers

The renderer draws a frame in bands, each into one of two buffers, and hands a finished
band to the display thread. An ownership table says which buffer is being drawn and which
ones are in flight; what is to be told about a frame waits beside its buffer until the
band is back.

Arrays are functions here. The source indexes them only below their length: the ownership
table refuses any other index first.
-/

import Deskkin.Lib.Channel
import Deskkin.Lib.Checked
import Mathlib.Logic.Function.Basic

namespace Deskkin.Renderer

def width : ℕ := 320

def height : ℕ := 240

def bandRows : ℕ := 32

def bufferCount : ℕ := 2

/-! ## The ownership table -/

inductive OwnershipError
  | invalidBuffer
  | alreadyRendering
  | transferInFlight
  | notRendering
  | notInFlight
  deriving DecidableEq

structure BufferOwnership (n : ℕ) where
  rendering : Option ℕ
  inflight : ℕ → Bool

namespace BufferOwnership

variable {n : ℕ}

def new : BufferOwnership n := ⟨none, fun _ => false⟩

def beginRender (ownership : BufferOwnership n) (index : ℕ) :
    Except OwnershipError (BufferOwnership n) :=
  if index ≥ n then .error .invalidBuffer
  else if ownership.rendering.isSome then .error .alreadyRendering
  else if ownership.inflight index then .error .transferInFlight
  else .ok { ownership with rendering := some index }

def submit (ownership : BufferOwnership n) (index : ℕ) :
    Except OwnershipError (BufferOwnership n) :=
  if index ≥ n then .error .invalidBuffer
  else if ownership.rendering ≠ some index then .error .notRendering
  else .ok ⟨none, Function.update ownership.inflight index true⟩

def submissionFailed (ownership : BufferOwnership n) (index : ℕ) : BufferOwnership n :=
  if index < n then
    { ownership with inflight := Function.update ownership.inflight index false }
  else ownership

def complete (ownership : BufferOwnership n) (index : ℕ) :
    Except OwnershipError (BufferOwnership n) :=
  if index ≥ n then .error .invalidBuffer
  else if !ownership.inflight index then .error .notInFlight
  else .ok { ownership with inflight := Function.update ownership.inflight index false }

def isInflight (ownership : BufferOwnership n) (index : ℕ) : Bool :=
  decide (index < n) && ownership.inflight index

variable {ownership : BufferOwnership n} {index : ℕ}

theorem beginRender_eq_ok (valid : index < n) (idle : ownership.rendering = none)
    (free : ownership.inflight index = false) :
    ownership.beginRender index = .ok { ownership with rendering := some index } := by
  simp [beginRender, Nat.not_le.mpr valid, idle, free]

theorem submit_eq_ok (valid : index < n) (rendering : ownership.rendering = some index) :
    ownership.submit index = .ok ⟨none, Function.update ownership.inflight index true⟩ := by
  simp [submit, Nat.not_le.mpr valid, rendering]

theorem complete_eq_ok (valid : index < n) (inflight : ownership.inflight index = true) :
    ownership.complete index =
      .ok { ownership with inflight := Function.update ownership.inflight index false } := by
  simp [complete, Nat.not_le.mpr valid, inflight]

end BufferOwnership

/-! ## The queues between the threads -/

structure DisplayRequest where
  bufferIndex : ℕ
  y : ℕ
  rows : ℕ
  deriving DecidableEq

structure BandCompletion where
  bufferIndex : ℕ
  result : ℤ
  durationUs : ℕ
  waitUs : ℕ
  deriving DecidableEq

inductive Errno
  | einval
  | enomsg
  | etimedout
  | eio
  deriving DecidableEq

/-- Queue a request that describes a band of a buffer; a full queue refuses it. -/
def displaySubmit (requests : Channel DisplayRequest 2) (bufferIndex y rows : ℕ) :
    Except Errno (Channel DisplayRequest 2) :=
  if bufferIndex ≥ bufferCount ∨ y ≥ height ∨ y % bandRows ≠ 0 ∨
      rows ≠ min bandRows (height - y) then .error .einval
  else
    match requests.trySend ⟨bufferIndex, y, rows⟩ with
    | some requests => .ok requests
    | none => .error .enomsg

/-- What is taken from the queue of completions: nothing while the caller has to wait, and
otherwise an answer with what is left in the queue. A caller that does not wait is told
that there is nothing, one that waited in vain has timed out, and a band that was not
transferred is an error. -/
def displayTakeCompletion (completions : Channel BandCompletion 2) (wait expired : Bool) :
    Option (Except Errno (Option BandCompletion) × Channel BandCompletion 2) :=
  match completions.tryRecv with
  | some (completion, rest) =>
      if completion.result ≠ 0 then some (.error .eio, rest)
      else some (.ok (some completion), rest)
  | none =>
      if !wait then some (.ok none, completions)
      else if expired then some (.error .etimedout, completions)
      else none

/-! ## The framebuffer -/

inductive RendererFault
  | none
  | platform
  | component
  | window
  | show
  | framebuffer
  | completion
  | ownership
  | renderSkipped
  | submit
  | displayEnable
  | qoiHeader
  | qoiMetadata
  | qoiDecode
  | sharedSnapshot
  deriving DecidableEq

/-- What is to be told when the band is back. -/
structure PendingFrame where
  finalBand : Bool
  renderUs : ℕ
  profile : Option (Vector ℕ 16)
  deriving DecidableEq

/-- What the renderer tells about a frame. -/
inductive Observation
  | rasterProfile (values : Vector ℕ 16)
  | presented (renderUs durationUs : ℕ)
  deriving DecidableEq

structure Framebuffer where
  pending : ℕ → PendingFrame
  back : ℕ
  ownership : BufferOwnership bufferCount
  started : ℕ
  waitUs : ℕ

def elapsedUs (start finish : ℕ) : ℕ := min (finish - start) Checked.u32Max

/-- The last band of a frame completes it, and the frame is reported. -/
def observations (frame : PendingFrame) (completion : BandCompletion) : List Observation :=
  if frame.finalBand then
    (frame.profile.map fun values =>
      Observation.rasterProfile ((values.set 14 completion.waitUs).set 15
        completion.durationUs)).toList ++ [.presented frame.renderUs completion.durationUs]
  else []

namespace Framebuffer

def new : Framebuffer where
  pending _ := ⟨false, 0, none⟩
  back := 0
  ownership := BufferOwnership.new
  started := 0
  waitUs := 0

/-- A completion, if there was one, together with the frame that waited for it. -/
def takeCompletion (framebuffer : Framebuffer) (received : Except Errno (Option BandCompletion)) :
    Except RendererFault (Option (PendingFrame × BandCompletion)) × Framebuffer :=
  match received with
  | .ok none => (.ok none, framebuffer)
  | .error _ => (.error .completion, framebuffer)
  | .ok (some completion) =>
      match framebuffer.ownership.complete completion.bufferIndex with
      | .error _ => (.error .completion, framebuffer)
      | .ok ownership =>
          (.ok (some (framebuffer.pending completion.bufferIndex, completion)),
            { framebuffer with ownership := ownership })

/-- A frame starts, after the completions were published. -/
def beginFrame (framebuffer : Framebuffer) (now : ℕ) : Framebuffer :=
  { framebuffer with started := now, waitUs := 0 }

/-- The end of `begin_band`, after the wait for the buffer. -/
def beginBand (framebuffer : Framebuffer) (started now : ℕ) :
    Except RendererFault Framebuffer :=
  let waitUs := min (framebuffer.waitUs + elapsedUs started now) Checked.u32Max
  match framebuffer.ownership.beginRender framebuffer.back with
  | .error _ => .error .ownership
  | .ok ownership => .ok { framebuffer with waitUs := waitUs, ownership := ownership }

def pendingFrame (framebuffer : Framebuffer) (y rows : ℕ) (profile : Option (Vector ℕ 16))
    (now : ℕ) : PendingFrame where
  finalBand := decide (y + rows = height)
  renderUs := elapsedUs framebuffer.started now - framebuffer.waitUs
  profile := profile.map fun values => values.set 13 framebuffer.waitUs

def submitBand (framebuffer : Framebuffer) (requests : Channel DisplayRequest 2) (y rows : ℕ)
    (profile : Option (Vector ℕ 16)) (now : ℕ) :
    Except RendererFault (Channel DisplayRequest 2) × Framebuffer :=
  let index := framebuffer.back
  let framebuffer := { framebuffer with
    pending := Function.update framebuffer.pending index
      (framebuffer.pendingFrame y rows profile now) }
  match framebuffer.ownership.submit index with
  | .error _ => (.error .ownership, framebuffer)
  | .ok ownership =>
      match displaySubmit requests index y rows with
      | .error _ =>
          (.error .submit, { framebuffer with ownership := ownership.submissionFailed index })
      | .ok requests =>
          (.ok requests, { framebuffer with
            ownership := ownership
            back := framebuffer.back ^^^ 1 })

end Framebuffer

end Deskkin.Renderer
