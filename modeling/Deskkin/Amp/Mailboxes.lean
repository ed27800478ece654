/-
# Mailboxes between the cores

Four structures of the shared memory are mailboxes: the world snapshot goes to the
renderer core, and the renderer heartbeat, the command of the user interface and
the target yaw come from there. Each has one publisher and one reader, written
separately, with its own generation counter and its own checks.

The copy loops move one byte an access; `cut` groups these into accesses of any
size, so a copy by words is one of the cases. A publication is recorded in the
cell by the access that stores its number.
-/

import Deskkin.Amp.Shared
import Deskkin.Lib.Seqlock

namespace Deskkin.Amp

open Program Seqlock

abbrev Mailbox : Type := Cell UInt8

/-- The shared memory is cleared before the renderer core starts. -/
def Mailbox.cleared (size : ℕ) : Mailbox := ⟨0, List.replicate size 0, []⟩

/-! ## The publishers -/

/-- What the service core shows of itself. -/
structure WorldView where
  observedYaw : Int64
  sas : UInt32
  shell : UInt8
  availability : UInt8
  notice : UInt8
  deriving DecidableEq

def WorldView.snapshot (view : WorldView) (generation : UInt32) : WorldSnapshot where
  magic := worldMagic
  generation := generation
  observedYaw := view.observedYaw
  sas := view.sas
  schema := worldSchema
  shell := view.shell
  availability := view.availability
  notice := view.notice

/-- The publisher keeps its generation. -/
def publishWorldSnapshot (cut : List ℕ) (view : WorldView) (worldGeneration : UInt32) :
    Program Mailbox UInt32 := do
  let generation := worldGeneration + 1
  Seqlock.publish cut generation (view.snapshot generation).bytes
  return generation

/-- The generation after one; zero is left out. -/
def nextGeneration (generation : UInt32) : UInt32 :=
  if generation + 1 = 0 then 1 else generation + 1

/-- The publisher takes its generation from the structure. -/
def publishTargetYaw (cut : List ℕ) (value : Int64) : Program Mailbox Unit := do
  let generation ← load fun cell => nextGeneration (TargetYaw.ofBytes cell.payload).generation
  Seqlock.publish cut generation (TargetYaw.bytes ⟨generation, channelSchema, value⟩)

def publishUiCommand (cut : List ℕ) (command : UInt8) : Program Mailbox Unit := do
  let generation ← load fun cell => nextGeneration (UiCommand.ofBytes cell.payload).generation
  Seqlock.publish cut generation (UiCommand.bytes ⟨generation, command, channelSchema⟩)

def rendererObserve (cut : List ℕ) (measures : Measures) (generation : UInt32) :
    Program Mailbox UInt32 := do
  let generation := nextGeneration generation
  Seqlock.publish cut generation
    (Heartbeat.bytes ⟨heartbeatMagic, generation, channelSchema⟩ measures)
  return generation

theorem length_further : (List.replicate 86 (0 : UInt8)).length = 86 :=
  List.length_replicate

/-- The heartbeat of a renderer that has just been entered: stage six, nothing else. -/
def entryMeasures : Measures where
  counters := List.replicate 24 0 ++ [6] ++ List.replicate 4 0
  further := List.replicate 86 0
  counters_length := rfl
  further_length := length_further

/-- Unlike the other publishers this one leaves the number standing while it
copies, and its number is always one. -/
def rendererEntryProbe (cut : List ℕ) (generation : UInt32) : Program Mailbox UInt32 := do
  let heartbeat := Heartbeat.bytes ⟨heartbeatMagic, 1, channelSchema⟩ entryMeasures
  copyTo heartbeat 0 cut
  store fun cell =>
    { cell with publication := 1, published := cell.published ++ [(1, heartbeat)] }
  return generation

/-- The first stores of the heap initialization: the address and the size of the
heap, over the render time and the transfer time of the heartbeat. -/
def initializeRendererHeap (address size : UInt32) (generation : UInt32) :
    Program Mailbox UInt32 := do
  store fun cell =>
    { cell with payload := splice cell.payload 12 (Layout.little 4 address.toNat) }
  store fun cell =>
    { cell with payload := splice cell.payload 16 (Layout.little 4 size.toNat) }
  return generation

/-! ## The readers -/

/-- What one call of a reader comes to: no new value, a value that the checks
refuse, or a value under its publication number. -/
inductive Reading
  | nothing
  | refused
  | accepted (publication : UInt32) (bytes : List UInt8)
  deriving DecidableEq

/-- The checks of `worldSnapshot`. -/
def WorldSnapshot.Acceptable (s : WorldSnapshot) : Prop :=
  s.magic = worldMagic ∧ s.schema = worldSchema ∧ s.shell ≤ shellPaired ∧
    s.availability &&& worldValueMask ≤ 3 ∧ s.notice &&& worldValueMask ≤ 1 ∧
    (s.sas = 0xffffffff ∨ s.sas ≤ 999999)

instance (s : WorldSnapshot) : Decidable s.Acceptable := by
  unfold WorldSnapshot.Acceptable
  infer_instance

/-- The checks of `receiveUiCommand`. -/
def UiCommand.Acceptable (c : UiCommand) (publication : UInt32) : Prop :=
  c.generation = publication ∧ c.schema = channelSchema ∧ 1 ≤ c.command ∧ c.command ≤ 3

instance (c : UiCommand) (publication : UInt32) : Decidable (c.Acceptable publication) := by
  unfold UiCommand.Acceptable
  infer_instance

/-- The checks of `updateObservedYaw`. -/
def TargetYaw.Acceptable (t : TargetYaw) (publication : UInt32) : Prop :=
  t.generation = publication ∧ t.schema = channelSchema

instance (t : TargetYaw) (publication : UInt32) : Decidable (t.Acceptable publication) := by
  unfold TargetYaw.Acceptable
  infer_instance

/-- The checks of `receiveHeartbeat`. -/
def Heartbeat.Acceptable (h : Heartbeat) (publication : UInt32) : Prop :=
  h.magic = heartbeatMagic ∧ h.generation = publication ∧ h.schema = channelSchema

instance (h : Heartbeat) (publication : UInt32) : Decidable (h.Acceptable publication) := by
  unfold Heartbeat.Acceptable
  infer_instance

/-- Three attempts to get a whole snapshot. -/
def worldSnapshot (cut : List ℕ) : ℕ → Program Mailbox Reading
  | 0 => return .nothing
  | attempts + 1 => do
      let publication ← load Cell.publication
      if publication = 0 then return .nothing
      else do
        let bytes ← copyFrom 0 cut
        let after ← load Cell.publication
        if publication = after ∧ (WorldSnapshot.ofBytes bytes).generation = publication then
          if (WorldSnapshot.ofBytes bytes).Acceptable then return .accepted publication bytes
          else return .refused
        else worldSnapshot cut attempts

def receiveUiCommand (cut : List ℕ) (commandGeneration : UInt32) : Program Mailbox Reading := do
  let before ← load Cell.publication
  if before = 0 ∨ before = commandGeneration then return .nothing
  else do
    let bytes ← copyFrom 0 cut
    let after ← load Cell.publication
    if before ≠ after then return .nothing
    else if (UiCommand.ofBytes bytes).Acceptable before then return .accepted before bytes
    else return .refused

def updateObservedYaw (cut : List ℕ) : Program Mailbox Reading := do
  let before ← load Cell.publication
  if before = 0 then return .nothing
  else do
    let bytes ← copyFrom 0 cut
    let after ← load Cell.publication
    if before = after ∧ (TargetYaw.ofBytes bytes).Acceptable before then
      return .accepted before bytes
    else if before = after then return .refused
    else return .nothing

/-- Three attempts to get a whole heartbeat that is new. -/
def receiveHeartbeat (cut : List ℕ) (receivedPublication : UInt32) : ℕ → Program Mailbox Reading
  | 0 => return .nothing
  | attempts + 1 => do
      let publication ← load Cell.publication
      if publication = 0 ∨ publication = receivedPublication then return .nothing
      else do
        let bytes ← copyFrom 0 cut
        let after ← load Cell.publication
        if publication ≠ after then receiveHeartbeat cut receivedPublication attempts
        else if (Heartbeat.ofBytes bytes).Acceptable publication then
          return .accepted publication bytes
        else return .refused

/-! ## What a reader keeps -/

/-- The number of the value a reader accepted last, zero without one, all that it
accepted, oldest first, and whether it ever refused a value. -/
structure Receiver where
  received : UInt32
  accepted : List (UInt32 × List UInt8)
  refused : Bool
  deriving DecidableEq

def Receiver.fresh : Receiver := ⟨0, [], false⟩

def Receiver.take (receiver : Receiver) : Reading → Receiver
  | .accepted publication bytes =>
      ⟨publication, receiver.accepted ++ [(publication, bytes)], receiver.refused⟩
  | .refused => { receiver with refused := true }
  | .nothing => receiver

end Deskkin.Amp
