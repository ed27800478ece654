/-
# The touch ring

The service core publishes touch samples into a ring of sixteen slots; each slot is
published like a mailbox, under the generation of its sample, and then the newest
generation is stored. The renderer core asks for the sample after the one it was
given last. When that one has been overwritten it goes on with the oldest of the
last sixteen and adds what it left out to the drop count.
-/

import Deskkin.Amp.Mailboxes

namespace Deskkin.Amp

open Program Seqlock

def touchCapacity : UInt32 := 16

/-- The ring, with the samples that were published, oldest first. -/
structure TouchRing where
  slots : ℕ → Mailbox
  writeGeneration : UInt32
  dropCount : UInt32
  published : List TouchSample

def TouchRing.cleared : TouchRing where
  slots _ := .cleared TouchSample.size
  writeGeneration := 0
  dropCount := 0
  published := []

/-- The slot of a generation. -/
def slotIndex (generation : UInt32) : ℕ := ((generation - 1) % touchCapacity).toNat

def TouchRing.setSlot (index : ℕ) (cell : Mailbox) (ring : TouchRing) : TouchRing :=
  { ring with slots := Function.update ring.slots index cell }

@[simp]
theorem slots_setSlot_self (index : ℕ) (cell : Mailbox) (ring : TouchRing) :
    (ring.setSlot index cell).slots index = cell := by
  simp [TouchRing.setSlot]

theorem slots_setSlot_of_ne {index other : ℕ} (different : other ≠ index) (cell : Mailbox)
    (ring : TouchRing) : (ring.setSlot index cell).slots other = ring.slots other := by
  simp [TouchRing.setSlot, different]

theorem setSlot_slots (index : ℕ) (ring : TouchRing) :
    ring.setSlot index (ring.slots index) = ring := by
  rw [TouchRing.setSlot, Function.update_eq_self]

/-- A program on one slot. -/
def onSlot {α : Type} (index : ℕ) (program : Program Mailbox α) : Program TouchRing α :=
  program.zoom (fun ring => ring.slots index) (TouchRing.setSlot index)

/-- The last values of the touch events. -/
structure Touch where
  x : Int32
  y : Int32
  pressed : Int32
  deriving DecidableEq

def Touch.sample (touch : Touch) (generation : UInt32) : TouchSample where
  generation := generation
  x := touch.x.toInt16
  y := touch.y.toInt16
  pressed := if touch.pressed ≠ 0 then 1 else 0
  schema := channelSchema

/-- The part of `publishTouch` that fills the slot. The copied structure starts
with its publication field, so the zero is stored a second time. -/
def fillSlot (cut : List ℕ) (sample : TouchSample) : Program Mailbox Unit := do
  store fun cell => { cell with publication := 0 }
  Seqlock.publish cut sample.generation sample.bytes

def publishTouch (cut : List ℕ) (touch : Touch) (touchGeneration : UInt32) :
    Program TouchRing UInt32 := do
  let generation := touchGeneration + 1
  let sample := touch.sample generation
  onSlot (slotIndex generation) (fillSlot cut sample)
  store fun ring =>
    { ring with writeGeneration := generation, published := ring.published ++ [sample] }
  return generation

/-- The checks of `touchRead`. -/
def TouchSample.Acceptable (s : TouchSample) (wanted : UInt32) : Prop :=
  s.generation = wanted ∧ s.schema = channelSchema ∧ s.pressed ≤ 1 ∧
    0 ≤ s.x ∧ s.x < 320 ∧ 0 ≤ s.y ∧ s.y < 240

instance (s : TouchSample) (wanted : UInt32) : Decidable (s.Acceptable wanted) := by
  unfold TouchSample.Acceptable
  infer_instance

/-- The part of `touchRead` that looks at the slot of the wanted sample. -/
def readSlot (cut : List ℕ) (wanted : UInt32) : Program Mailbox Reading := do
  let before ← load Cell.publication
  if before = 0 ∨ before ≠ wanted then return .nothing
  else do
    let bytes ← copyFrom 0 cut
    let after ← load Cell.publication
    if before ≠ after then return .nothing
    else if (TouchSample.ofBytes bytes).Acceptable wanted then return .accepted wanted bytes
    else return .refused

/-- How many samples are left out when the one after the given generation is asked
for and the newest one has the given generation. -/
def skippedSamples (afterGeneration latest : UInt32) : UInt32 :=
  let wanted := afterGeneration + 1
  if touchCapacity ≤ latest - wanted then latest - touchCapacity + 1 - wanted else 0

def wantedSample (afterGeneration latest : UInt32) : UInt32 :=
  let wanted := afterGeneration + 1
  if touchCapacity ≤ latest - wanted then latest - touchCapacity + 1 else wanted

def addDrops (cumulativeDrops skipped : UInt32) : UInt32 :=
  if 0xffffffff - cumulativeDrops < skipped then 0xffffffff else cumulativeDrops + skipped

def touchRead (cut : List ℕ) (afterGeneration : UInt32) : Program TouchRing Reading := do
  let latest ← load TouchRing.writeGeneration
  let cumulativeDrops ← load TouchRing.dropCount
  if latest = 0 ∨ latest = afterGeneration then return .nothing
  else do
    let skipped := skippedSamples afterGeneration latest
    let wanted := wantedSample afterGeneration latest
    match ← onSlot (slotIndex wanted) (readSlot cut wanted) with
    | .accepted publication bytes =>
        if skipped ≠ 0 then do
          store fun ring => { ring with dropCount := addDrops cumulativeDrops skipped }
          return .accepted publication bytes
        else return .accepted publication bytes
    | reading => return reading

end Deskkin.Amp
