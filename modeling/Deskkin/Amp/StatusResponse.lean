/-
# The status response of the device

The supervisor core fills the response with what it keeps of the renderer, each value at
an offset of its own, and copies the raster profile out of the shared memory. The service
core then puts its own state over three places of it. The script reads the result.
-/

import Deskkin.Amp.Mailboxes
import Deskkin.Device.StatusDecoder
import Deskkin.Lib.CyclicSeqlock

namespace Deskkin.Amp

open BigEndian Placement Program Seqlock Device

/-! ## The values -/

/-- The state of the device that a response is made of. An atomic is a word. -/
structure DeviceState where
  heartbeatGeneration : UInt32
  heartbeatReceivedMs : UInt32
  completedFrames : UInt32
  renderUs : UInt32
  transferUs : UInt32
  rendererStage : UInt32
  rendererFault : UInt32
  allocationFailures : UInt32
  transferFailures : UInt32
  displayReady : UInt32
  renderMaxUs : UInt32
  transferMaxUs : UInt32
  nvsLastFailure : UInt16
  rendererPublication : UInt32
  bootStage : UInt32
  bootError : UInt32
  displaySpiHz : UInt32
  copyUs : UInt32
  uptime : UInt32
  deadlineMisses : UInt32
  dirtyRectCount : UInt32
  worldBenchmarkActive : UInt32
  worldBenchmarkComplete : UInt32
  pixelDmaBatches : UInt32
  worldGeneration : UInt32
  worldBenchmarkStartedGeneration : UInt32
  validViewGeneration : UInt32
  viewGeneration : UInt32
  poseGeneration : UInt32
  inputGeneration : UInt32
  staleSnapshots : UInt32
  touchDrops : UInt32
  atlasCacheHits : UInt32
  atlasCacheMisses : UInt32
  atlasCacheFailures : UInt32
  visibleBillboards : UInt32
  culledBillboards : UInt32
  rendererShell : UInt32
  rendererShellPropertyMatches : UInt32
  nearestSamples : UInt32
  bilinearSamples : UInt32
  projectionUs : UInt32
  projectionMaxUs : UInt32
  sortUs : UInt32
  sortMaxUs : UInt32
  textureUs : UInt32
  textureMaxUs : UInt32
  worldRasterUs : UInt32
  worldRasterMaxUs : UInt32
  rendererProgress : UInt32
  displayProgress : UInt32
  ownerGeneration : UInt64
  uiShell : UInt8
  uiView : UInt8
  validResult : UInt8
  deriving DecidableEq

def heartbeatStaleMs : UInt32 := 500

namespace DeviceState

def shell (s : DeviceState) : UInt8 := min s.uiShell 4

def heartbeatFreshness (s : DeviceState) : UInt8 :=
  if s.heartbeatGeneration ≠ 0 ∧ s.uptime - s.heartbeatReceivedMs ≤ heartbeatStaleMs then 1 else 2

def benchmarkState (s : DeviceState) : UInt8 :=
  if s.worldBenchmarkActive ≠ 0 then 1 else if s.worldBenchmarkComplete ≠ 0 then 2 else 0

def benchmarkUpdates (s : DeviceState) : UInt32 :=
  if s.benchmarkState ≠ 0 then min (s.worldGeneration - s.worldBenchmarkStartedGeneration) 1200
  else 0

def availabilityByte (s : DeviceState) : UInt8 := min s.uiView 2 ||| (min s.validResult 1 <<< 7)

end DeviceState

/-! ## The encoder -/

/-- The values of a raster profile. -/
abbrev RasterProfile : Type := Vector UInt32 16

/-- The writes of the supervisor core, in their order. -/
def statusWrites (commandId : Vector UInt8 16) (s : DeviceState) : List Write :=
  [⟨0, [1]⟩,
    ⟨2, commandId.toList⟩,
    ⟨28, be32 s.heartbeatGeneration⟩,
    ⟨32, be64 s.heartbeatReceivedMs.toUInt64⟩,
    ⟨40, be32 s.completedFrames⟩,
    ⟨44, be32 s.renderUs⟩,
    ⟨48, be32 s.transferUs⟩,
    ⟨52, [s.rendererStage.toUInt8]⟩,
    ⟨53, [s.rendererFault.toUInt8]⟩,
    ⟨54, [s.allocationFailures.toUInt8]⟩,
    ⟨55, [s.transferFailures.toUInt8]⟩,
    ⟨56, [s.displayReady.toUInt8]⟩,
    ⟨57, be32 s.renderMaxUs⟩,
    ⟨61, be32 s.transferMaxUs⟩,
    ⟨65, [(s.nvsLastFailure >>> 8).toUInt8]⟩,
    ⟨66, [s.nvsLastFailure.toUInt8]⟩,
    ⟨67, [if s.rendererPublication ≠ 0 then 1 else 0]⟩,
    ⟨68, [s.bootStage.toUInt8]⟩,
    ⟨69, [s.bootError.toUInt8]⟩,
    ⟨70, be32 s.displaySpiHz⟩,
    ⟨74, be32 s.copyUs⟩,
    ⟨27, [s.heartbeatFreshness]⟩,
    ⟨78, [(s.deadlineMisses >>> 8).toUInt8]⟩,
    ⟨79, [s.deadlineMisses.toUInt8]⟩,
    ⟨80, [s.dirtyRectCount.toUInt8]⟩,
    ⟨81, [s.benchmarkState]⟩,
    ⟨82, be16 s.pixelDmaBatches.toUInt16⟩,
    ⟨84, be32 s.benchmarkUpdates⟩,
    ⟨88, be32 s.validViewGeneration⟩,
    ⟨92, be32 s.viewGeneration⟩,
    ⟨96, be32 s.poseGeneration⟩,
    ⟨100, be32 s.inputGeneration⟩,
    ⟨104, be32 s.staleSnapshots⟩,
    ⟨108, be32 s.touchDrops⟩,
    ⟨112, be16 s.atlasCacheHits.toUInt16⟩,
    ⟨114, be16 s.atlasCacheMisses.toUInt16⟩,
    ⟨116, be16 s.atlasCacheFailures.toUInt16⟩,
    ⟨118, [if s.shell = shellPaired then s.visibleBillboards.toUInt8 else s.rendererShell.toUInt8]⟩,
    ⟨119, [if s.shell = shellPaired then s.culledBillboards.toUInt8
      else s.rendererShellPropertyMatches.toUInt8]⟩,
    ⟨120, be32 s.nearestSamples⟩,
    ⟨124, be32 s.bilinearSamples⟩,
    ⟨128, be32 s.projectionUs⟩,
    ⟨132, be32 s.projectionMaxUs⟩,
    ⟨136, be32 s.sortUs⟩,
    ⟨140, be32 s.sortMaxUs⟩,
    ⟨144, be32 s.textureUs⟩,
    ⟨148, be32 s.textureMaxUs⟩,
    ⟨152, be32 s.worldRasterUs⟩,
    ⟨156, be32 s.worldRasterMaxUs⟩,
    ⟨160, be32 s.rendererProgress⟩,
    ⟨164, be32 s.displayProgress⟩]

/-- The writes of a profile that was read under its number. -/
def profileWrites : Option (UInt32 × RasterProfile) → List Write
  | none => []
  | some (generation, values) =>
      ⟨168, be32 generation⟩ ::
        (List.finRange 16).map fun index => ⟨172 + 4 * index.val, be32 (values.get index)⟩

def memset (response : List UInt8) : List UInt8 := response.map fun _ => 0

def ampStatusSnapshot (commandId : Vector UInt8 16) (s : DeviceState)
    (profile : Option (UInt32 × RasterProfile)) (response : List UInt8) : List UInt8 :=
  putAll (memset response) (statusWrites commandId s ++ profileWrites profile)

/-- What the service core puts over the response. -/
def overrides (s : DeviceState) : List Write :=
  [⟨18, be64 s.ownerGeneration⟩, ⟨26, [s.shell]⟩, ⟨80, [s.availabilityByte]⟩]

/-- The answer of the service core to the status command. -/
def controlSnapshot (commandId : Vector UInt8 16) (s : DeviceState)
    (profile : Option (UInt32 × RasterProfile)) : List UInt8 :=
  let output := putAll (List.replicate statusResponseSize 0)
    [⟨0, [1]⟩, ⟨1, [0]⟩, ⟨2, commandId.toList⟩, ⟨18, be64 s.ownerGeneration⟩]
  putAll (ampStatusSnapshot commandId s profile output) (overrides s)

/-! ## What the script should read -/

def profileGeneration (profile : Option (UInt32 × RasterProfile)) : ℕ :=
  profile.elim 0 fun entry => entry.1.toNat

def profileValue (profile : Option (UInt32 × RasterProfile)) (index : Fin 16) : ℕ :=
  profile.elim 0 fun entry => (entry.2.get index).toNat

/-- Every field with the value of the same meaning. Outside the paired shell the counts of
billboards stand for what the renderer makes of the shell. -/
def DeviceState.reported (s : DeviceState) (profile : Option (UInt32 × RasterProfile)) :
    WorldStatus where
  heartbeatFreshness := s.heartbeatFreshness.toNat
  generation := s.heartbeatGeneration.toNat
  heartbeatReceivedMs := s.heartbeatReceivedMs.toNat
  completedFrames := s.completedFrames.toNat
  renderUs := s.renderUs.toNat
  transferUs := s.transferUs.toNat
  stage := s.rendererStage.toUInt8.toNat
  fault := s.rendererFault.toUInt8.toNat
  allocationFailures := s.allocationFailures.toUInt8.toNat
  transferFailures := s.transferFailures.toUInt8.toNat
  displayReady := s.displayReady.toUInt8.toNat
  renderMaxUs := s.renderMaxUs.toNat
  transferMaxUs := s.transferMaxUs.toNat
  nvsFailureStage := (s.nvsLastFailure >>> 8).toUInt8.toNat
  nvsFailureCode := s.nvsLastFailure.toUInt8.toNat
  heartbeatMemorySide := if s.rendererPublication ≠ 0 then 1 else 0
  procpuBootStage := s.bootStage.toUInt8.toNat
  procpuBootError := s.bootError.toUInt8.toNat
  displaySpiHz := s.displaySpiHz.toNat
  copyUs := s.copyUs.toNat
  deadlineMisses := s.deadlineMisses.toUInt16.toNat
  benchmarkState := s.benchmarkState.toNat
  requestedUpdates := s.benchmarkUpdates.toNat
  semanticAvailability := (min s.uiView 2).toNat
  validAvailabilityResult := decide (s.validResult ≠ 0)
  validViewGeneration := s.validViewGeneration.toNat
  pixelDmaBatches := s.pixelDmaBatches.toUInt16.toNat
  viewGeneration := s.viewGeneration.toNat
  poseGeneration := s.poseGeneration.toNat
  inputGeneration := s.inputGeneration.toNat
  staleSnapshots := s.staleSnapshots.toNat
  touchDrops := s.touchDrops.toNat
  atlasCacheHits := s.atlasCacheHits.toUInt16.toNat
  atlasCacheMisses := s.atlasCacheMisses.toUInt16.toNat
  atlasCacheFailures := s.atlasCacheFailures.toUInt16.toNat
  visibleBillboards :=
    (if s.shell = shellPaired then s.visibleBillboards else s.rendererShell).toUInt8.toNat
  culledBillboards :=
    (if s.shell = shellPaired then s.culledBillboards
      else s.rendererShellPropertyMatches).toUInt8.toNat
  nearestSamples := s.nearestSamples.toNat
  bilinearSamples := s.bilinearSamples.toNat
  projectionUs := s.projectionUs.toNat
  projectionMaxUs := s.projectionMaxUs.toNat
  sortUs := s.sortUs.toNat
  sortMaxUs := s.sortMaxUs.toNat
  textureUs := s.textureUs.toNat
  textureMaxUs := s.textureMaxUs.toNat
  worldRasterUs := s.worldRasterUs.toNat
  worldRasterMaxUs := s.worldRasterMaxUs.toNat
  rendererProgress := s.rendererProgress.toNat
  displayProgress := s.displayProgress.toNat
  profileGeneration := profileGeneration profile
  coverageUs := profileValue profile 0
  backgroundUs := profileValue profile 1
  scalerSetupUs := profileValue profile 2
  pixelRasterUs := profileValue profile 3
  coverageTests := profileValue profile 4
  scalerPreparations := profileValue profile 5
  profileNearestSamples := profileValue profile 6
  profileBilinearSamples := profileValue profile 7
  samplingUs := profileValue profile 8
  opaqueBlitUs := profileValue profile 9
  alphaBlitUs := profileValue profile 10
  opaqueBlitPixels := profileValue profile 11
  alphaBlitPixels := profileValue profile 12
  renderBufferWaitUs := profileValue profile 13
  displayBandWaitUs := profileValue profile 14
  frameTransferUs := profileValue profile 15

/-! ## The places of the writes -/

/-- The offsets and widths of the writes. -/
def statusShapes : List (ℕ × ℕ) :=
  [(0, 1), (2, 16), (28, 4), (32, 8), (40, 4), (44, 4), (48, 4), (52, 1), (53, 1), (54, 1), (55, 1),
    (56, 1), (57, 4), (61, 4), (65, 1), (66, 1), (67, 1), (68, 1), (69, 1), (70, 4), (74, 4),
    (27, 1),
    (78, 1), (79, 1), (80, 1), (81, 1), (82, 2), (84, 4), (88, 4), (92, 4), (96, 4), (100, 4),
    (104, 4), (108, 4), (112, 2), (114, 2), (116, 2), (118, 1), (119, 1), (120, 4), (124, 4),
    (128, 4),
    (132, 4), (136, 4), (140, 4), (144, 4), (148, 4), (152, 4), (156, 4), (160, 4), (164, 4)]

def profileShapes : List (ℕ × ℕ) :=
  (168, 4) :: (List.finRange 16).map fun index => (172 + 4 * index.val, 4)

theorem shapes_statusWrites (commandId : Vector UInt8 16) (s : DeviceState) :
    (statusWrites commandId s).map Write.shape = statusShapes := by
  simp [statusWrites, Write.shape, statusShapes]

theorem shapes_profileWrites (entry : UInt32 × RasterProfile) :
    (profileWrites (some entry)).map Write.shape = profileShapes := by
  simp [profileWrites, Write.shape, profileShapes]

theorem shapes_overrides (s : DeviceState) :
    (overrides s).map Write.shape = [(18, 8), (26, 1), (80, 1)] := by
  simp [overrides, Write.shape]

/-- No two writes of the supervisor core overlap, and all of them fit. -/
theorem tidy_writes (commandId : Vector UInt8 16) (s : DeviceState)
    (profile : Option (UInt32 × RasterProfile)) :
    Tidy statusResponseSize (statusWrites commandId s ++ profileWrites profile) := by
  cases profile with
  | none =>
      have same : (statusWrites commandId s ++ profileWrites none).map Write.shape =
          statusShapes := by
        rw [profileWrites, List.append_nil, shapes_statusWrites]
      exact tidy_of_shapes same (by decide) (by decide)
  | some entry =>
      have same : (statusWrites commandId s ++ profileWrites (some entry)).map Write.shape =
          statusShapes ++ profileShapes := by
        rw [List.map_append, shapes_statusWrites, shapes_profileWrites]
      exact tidy_of_shapes same (by decide) (by decide)

theorem tidy_overrides (s : DeviceState) : Tidy statusResponseSize (overrides s) :=
  tidy_of_shapes (shapes_overrides s) (by decide) (by decide)

variable {commandId : Vector UInt8 16} {s : DeviceState} {write : Write}
  {profile : Option (UInt32 × RasterProfile)}

theorem shape_statusWrites (written : write ∈ statusWrites commandId s) :
    write.shape ∈ statusShapes := by
  rw [← shapes_statusWrites commandId s]
  exact List.mem_map_of_mem written

theorem shape_written (written : write ∈ statusWrites commandId s ++ profileWrites profile) :
    write.shape ∈ statusShapes ++ profileShapes := by
  rcases List.mem_append.mp written with own | ofProfile
  · exact List.mem_append_left _ (shape_statusWrites own)
  · cases profile with
    | none => cases ofProfile
    | some entry =>
        rw [← shapes_profileWrites entry]
        exact List.mem_append_right _ (List.mem_map_of_mem ofProfile)

theorem shape_override (put : write ∈ overrides s) : write.shape ∈ [(18, 8), (26, 1), (80, 1)] := by
  rw [← shapes_overrides s]
  exact List.mem_map_of_mem put

/-- The service core puts nothing over what the supervisor core wrote but byte 80. -/
theorem overrides_apart {override write : Write} (put : override ∈ overrides s)
    (written : write ∈ statusWrites commandId s ++ profileWrites profile)
    (meets : ¬Apart override.shape write.shape) :
    override.shape = (80, 1) ∧ write.shape = (80, 1) := by
  have all : ∀ one ∈ [(18, 8), (26, 1), (80, 1)], ∀ two ∈ statusShapes ++ profileShapes,
      ¬Apart one two → one = (80, 1) ∧ two = (80, 1) := by
    decide
  exact all _ (shape_override put) _ (shape_written written) meets

end Deskkin.Amp
