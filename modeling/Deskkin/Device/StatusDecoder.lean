/-
# Status responses as the script reads them

The status response of the device is a block of bytes of a fixed size. The script reads
its numbers at offsets of its own.
-/

import Deskkin.Lib.Placement
import Mathlib.Data.List.TakeDrop

namespace Deskkin.Device

open BigEndian Placement

def statusResponseSize : ℕ := 236

/-- What the script takes from a response. -/
structure WorldStatus where
  heartbeatFreshness : ℕ
  generation : ℕ
  heartbeatReceivedMs : ℕ
  completedFrames : ℕ
  renderUs : ℕ
  transferUs : ℕ
  stage : ℕ
  fault : ℕ
  allocationFailures : ℕ
  transferFailures : ℕ
  displayReady : ℕ
  renderMaxUs : ℕ
  transferMaxUs : ℕ
  nvsFailureStage : ℕ
  nvsFailureCode : ℕ
  heartbeatMemorySide : ℕ
  procpuBootStage : ℕ
  procpuBootError : ℕ
  displaySpiHz : ℕ
  copyUs : ℕ
  deadlineMisses : ℕ
  benchmarkState : ℕ
  requestedUpdates : ℕ
  semanticAvailability : ℕ
  validAvailabilityResult : Bool
  validViewGeneration : ℕ
  pixelDmaBatches : ℕ
  viewGeneration : ℕ
  poseGeneration : ℕ
  inputGeneration : ℕ
  staleSnapshots : ℕ
  touchDrops : ℕ
  atlasCacheHits : ℕ
  atlasCacheMisses : ℕ
  atlasCacheFailures : ℕ
  visibleBillboards : ℕ
  culledBillboards : ℕ
  nearestSamples : ℕ
  bilinearSamples : ℕ
  projectionUs : ℕ
  projectionMaxUs : ℕ
  sortUs : ℕ
  sortMaxUs : ℕ
  textureUs : ℕ
  textureMaxUs : ℕ
  worldRasterUs : ℕ
  worldRasterMaxUs : ℕ
  rendererProgress : ℕ
  displayProgress : ℕ
  profileGeneration : ℕ
  coverageUs : ℕ
  backgroundUs : ℕ
  scalerSetupUs : ℕ
  pixelRasterUs : ℕ
  coverageTests : ℕ
  scalerPreparations : ℕ
  profileNearestSamples : ℕ
  profileBilinearSamples : ℕ
  samplingUs : ℕ
  opaqueBlitUs : ℕ
  alphaBlitUs : ℕ
  opaqueBlitPixels : ℕ
  alphaBlitPixels : ℕ
  renderBufferWaitUs : ℕ
  displayBandWaitUs : ℕ
  frameTransferUs : ℕ

/-- `status[index]`. -/
def statusByte (status : List UInt8) (index : ℕ) : ℕ := (status.getD index 0).toNat

theorem statusByte_eq_unsigned {status : List UInt8} {index : ℕ} (inside : index < status.length) :
    statusByte status index = unsigned status index (index + 1) := by
  have one : field status index (index + 1) = [status[index]] := by
    rw [field, Nat.add_sub_cancel_left, List.take_one_drop_eq_of_lt_length inside]
    rfl
  have found : status.getD index 0 = status[index] := by
    rw [List.getD_eq_getElem?_getD, List.getElem?_eq_getElem inside, Option.getD_some]
  rw [statusByte, unsigned, one, found]
  simp [ofBytes]

theorem ofBytes_singleton (x : UInt8) : ofBytes [x] = x.toNat := by
  simp [ofBytes]

/-- A field that shorter responses do not have. -/
def sinceSize (status : List UInt8) (size value : ℕ) : ℕ :=
  if status.length ≥ size then value else 0

/-- `none` stands for the error `control_invalid`. -/
def decodeWorldStatus (status : List UInt8) : Option WorldStatus :=
  if status.length ≠ statusResponseSize ∨ statusByte status 0 ≠ 1 ∨ statusByte status 1 ≠ 0 then
    none
  else
    some {
      heartbeatFreshness := statusByte status 27
      generation := unsigned status 28 32
      heartbeatReceivedMs := unsigned status 32 40
      completedFrames := unsigned status 40 44
      renderUs := unsigned status 44 48
      transferUs := unsigned status 48 52
      stage := statusByte status 52
      fault := statusByte status 53
      allocationFailures := statusByte status 54
      transferFailures := statusByte status 55
      displayReady := statusByte status 56
      renderMaxUs := unsigned status 57 61
      transferMaxUs := unsigned status 61 65
      nvsFailureStage := statusByte status 65
      nvsFailureCode := statusByte status 66
      heartbeatMemorySide := statusByte status 67
      procpuBootStage := statusByte status 68
      procpuBootError := statusByte status 69
      displaySpiHz := unsigned status 70 74
      copyUs := unsigned status 74 78
      deadlineMisses := unsigned status 78 80
      benchmarkState := statusByte status 81
      requestedUpdates := unsigned status 84 88
      semanticAvailability := statusByte status 80 &&& 0x7F
      validAvailabilityResult := decide (statusByte status 80 &&& 0x80 ≠ 0)
      validViewGeneration := unsigned status 88 92
      pixelDmaBatches := unsigned status 82 84
      viewGeneration := unsigned status 92 96
      poseGeneration := sinceSize status 160 (unsigned status 96 100)
      inputGeneration := sinceSize status 160 (unsigned status 100 104)
      staleSnapshots := sinceSize status 160 (unsigned status 104 108)
      touchDrops := sinceSize status 160 (unsigned status 108 112)
      atlasCacheHits := sinceSize status 160 (unsigned status 112 114)
      atlasCacheMisses := sinceSize status 160 (unsigned status 114 116)
      atlasCacheFailures := sinceSize status 160 (unsigned status 116 118)
      visibleBillboards := sinceSize status 160 (statusByte status 118)
      culledBillboards := sinceSize status 160 (statusByte status 119)
      nearestSamples := sinceSize status 160 (unsigned status 120 124)
      bilinearSamples := sinceSize status 160 (unsigned status 124 128)
      projectionUs := sinceSize status 160 (unsigned status 128 132)
      projectionMaxUs := sinceSize status 160 (unsigned status 132 136)
      sortUs := sinceSize status 160 (unsigned status 136 140)
      sortMaxUs := sinceSize status 160 (unsigned status 140 144)
      textureUs := sinceSize status 160 (unsigned status 144 148)
      textureMaxUs := sinceSize status 160 (unsigned status 148 152)
      worldRasterUs := sinceSize status 160 (unsigned status 152 156)
      worldRasterMaxUs := sinceSize status 160 (unsigned status 156 160)
      rendererProgress := sinceSize status 168 (unsigned status 160 164)
      displayProgress := sinceSize status 168 (unsigned status 164 168)
      profileGeneration := unsigned status 168 172
      coverageUs := unsigned status 172 176
      backgroundUs := unsigned status 176 180
      scalerSetupUs := unsigned status 180 184
      pixelRasterUs := unsigned status 184 188
      coverageTests := unsigned status 188 192
      scalerPreparations := unsigned status 192 196
      profileNearestSamples := unsigned status 196 200
      profileBilinearSamples := unsigned status 200 204
      samplingUs := sinceSize status 224 (unsigned status 204 208)
      opaqueBlitUs := sinceSize status 224 (unsigned status 208 212)
      alphaBlitUs := sinceSize status 224 (unsigned status 212 216)
      opaqueBlitPixels := sinceSize status 224 (unsigned status 216 220)
      alphaBlitPixels := sinceSize status 224 (unsigned status 220 224)
      renderBufferWaitUs := sinceSize status 236 (unsigned status 224 228)
      displayBandWaitUs := sinceSize status 236 (unsigned status 228 232)
      frameTransferUs := sinceSize status 236 (unsigned status 232 236) }

end Deskkin.Device
