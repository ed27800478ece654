/-
# Symmetries of projections

Whole turns of a billboard or of the camera change nothing. Mirrored about the axis of the
camera, a billboard is seen in the mirrored place up to a pixel: products are rounded down,
quotients toward zero, and so is the half of the width. All of these add up to one pixel where
the width is positive. Widths are narrowed to 32 bits, and negative ones are not mirrored.
-/

import Deskkin.Presentation.Projection

namespace Deskkin.Presentation

open Signed

/-- What is known of the sines of the first half turn. -/
structure SymmetricSines (sine : SineTable) : Prop where
  zero : sine 0 = 0
  mirrored : ∀ index ≤ 512, sine (512 - index) = sine index

theorem SymmetricSines.half {sine : SineTable} (symmetric : SymmetricSines sine) :
    sine 512 = 0 := by
  have same := symmetric.mirrored 0 (by decide)
  rwa [symmetric.zero] at same

/-! ## Images -/

def Billboard.withAzimuth (billboard : Billboard) (azimuth : UnwrappedAngle) : Billboard :=
  { billboard with pose := { billboard.pose with azimuth := azimuth } }

def CameraPose.observing (camera : CameraPose) (azimuth : UnwrappedAngle) : CameraPose :=
  { camera with observedAzimuth := azimuth }

/-- One pixel further, and there is nothing to see. -/
def AtEdge (rect : ScreenRect) : Prop :=
  rect.x.toInt ≥ viewportWidth - 1 ∨ rect.x.toInt + rect.width.toInt ≤ 1

/-- The same, but mirrored about the center of the viewport up to one pixel. -/
def MirrorImages : Except ProjectionCull ProjectedBillboard →
    Except ProjectionCull ProjectedBillboard → Prop
  | .ok a, .ok b =>
      a.depth = b.depth ∧ a.screenRect.y = b.screenRect.y ∧
        a.screenRect.width = b.screenRect.width ∧ a.screenRect.height = b.screenRect.height ∧
        |a.screenRect.x.toInt + b.screenRect.x.toInt + a.screenRect.width.toInt - viewportWidth| ≤ 1
  | .ok a, .error cull => cull = .outsideViewport ∧ AtEdge a.screenRect
  | .error cull, .ok b => cull = .outsideViewport ∧ AtEdge b.screenRect
  | .error cull, .error other => cull = other

/-- Whole turns of the billboard and of the camera change nothing. -/
def TurnInvariant (sine : SineTable) (billboard : Billboard) (source : SourceSize)
    (camera : CameraPose) : Prop :=
  ∀ (azimuth observed : UnwrappedAngle) (turns observedTurns : ℤ),
    azimuth.units.toInt = billboard.pose.azimuth.units.toInt + turns * turnUnits →
    observed.units.toInt = camera.observedAzimuth.units.toInt + observedTurns * turnUnits →
    Fits64 (azimuth.units.toInt - observed.units.toInt) →
    projectBillboard sine (billboard.withAzimuth azimuth) source (camera.observing observed) =
      projectBillboard sine billboard source camera

/-- With the opposite difference of the azimuths, the mirror image is projected. -/
def Mirrors (sine : SineTable) (billboard : Billboard) (source : SourceSize)
    (camera : CameraPose) : Prop :=
  ∀ azimuth : UnwrappedAngle,
    Fits64 (azimuth.units.toInt - camera.observedAzimuth.units.toInt) →
    (azimuthDifference billboard.pose camera +
      azimuthDifference (billboard.withAzimuth azimuth).pose camera) % turnUnits = 0 →
    ∃ here there, projectBillboard sine billboard source camera = some here ∧
      projectBillboard sine (billboard.withAzimuth azimuth) source camera = some there ∧
      MirrorImages here there

/-! ## Where images are apart -/

/-- The column of the anchor with the opposite difference of the azimuths. -/
def imageColumn (sine : SineTable) (pose : CylindricalPose) (camera : CameraPose) : ℤ :=
  viewportWidth / 2 +
    (-(pose.radius.toInt * sinQ15 sine (azimuthDifference pose camera)) / 2 ^ 15 *
      focalLength).tdiv (exactDepth sine pose camera)

/-- The width wraps to an odd negative number, the columns are rounded apart, and one of the
rectangles is in the viewport by more than a pixel. -/
def ImageSlips (billboard : Billboard) (source : SourceSize) (anchor : Anchor) (column : ℤ) :
    Prop :=
  let height := exactHeight billboard.worldHeight anchor.depth
  let width := narrow32 (exactWidth height source)
  let x := anchor.centerX - width.tdiv 2
  let y := anchor.centerY - height.tdiv 2
  0 < height ∧ y < viewportHeight ∧ 0 < y + height ∧ width < 0 ∧ width % 2 = 1 ∧
    anchor.centerX + column = viewportWidth - 1 ∧
    (x ≤ 318 ∧ 2 ≤ x + width ∨ x ≤ 316 ∧ 0 ≤ x + width)

section Image

variable {billboard : Billboard} {source : SourceSize} {anchor : Anchor} {column : ℤ}

/-- **Boards around opposite columns are mirror images**, but where they slip. -/
theorem placeBillboard_mirrored_iff (far : 16384 ≤ anchor.depth)
    (columns : -1888 ≤ anchor.centerX ∧ anchor.centerX ≤ 2208)
    (rows : -20971400 ≤ anchor.centerY ∧ anchor.centerY ≤ 20971640)
    (opposite : anchor.centerX + column = 320 ∨ anchor.centerX + column = 319) :
    MirrorImages (placeBillboard billboard source anchor)
      (placeBillboard billboard source { anchor with centerX := column }) ↔
    ¬ImageSlips billboard source anchor column := by
  have bounded := projected_bounded (fits32_toInt billboard.worldHeight) far
  rw [← exactHeight] at bounded
  rw [placeBillboard, placeBillboard, ImageSlips]
  dsimp only
  generalize exactHeight billboard.worldHeight anchor.depth = height at *
  have heightFits : Fits32 height := ⟨by omega, by omega⟩
  have widthFits := fits32_narrow32 (exactWidth height source)
  generalize narrow32 (exactWidth height source) = width at *
  obtain ⟨left, right⟩ := centered_fits anchor.centerX (by omega) (by omega) widthFits
  obtain ⟨left', right'⟩ := centered_fits column (by omega) (by omega) widthFits
  obtain ⟨top, bottom⟩ := centered_fits anchor.centerY (by omega) (by omega) heightFits
  have half := Rounding.tdiv_two width
  by_cases empty : height ≤ 0
  · rw [if_pos empty, if_pos empty]
    exact iff_of_true rfl (by omega)
  rw [if_neg empty, if_neg empty]
  by_cases hidden : Outside (anchor.centerX - width.tdiv 2) (anchor.centerY - height.tdiv 2)
      width height <;>
    by_cases hidden' : Outside (column - width.tdiv 2) (anchor.centerY - height.tdiv 2)
      width height
  · rw [if_pos hidden, if_pos hidden']
    rw [outside_iff right bottom] at hidden
    rw [outside_iff right' bottom] at hidden'
    exact iff_of_true rfl (by rw [viewportWidth, viewportHeight]; omega)
  · rw [if_pos hidden, if_neg hidden']
    rw [outside_iff right bottom] at hidden
    rw [outside_iff right' bottom] at hidden'
    simp only [MirrorImages, AtEdge, toInt_ofInt32 left', toInt_ofInt32 widthFits,
      viewportWidth, viewportHeight, true_and]
    omega
  · rw [if_neg hidden, if_pos hidden']
    rw [outside_iff right bottom] at hidden
    rw [outside_iff right' bottom] at hidden'
    simp only [MirrorImages, AtEdge, toInt_ofInt32 left, toInt_ofInt32 widthFits,
      viewportWidth, viewportHeight, true_and]
    omega
  · rw [if_neg hidden, if_neg hidden']
    rw [outside_iff right bottom] at hidden
    rw [outside_iff right' bottom] at hidden'
    simp only [MirrorImages, toInt_ofInt32 left, toInt_ofInt32 left', toInt_ofInt32 widthFits,
      viewportWidth, viewportHeight, true_and, abs_le]
    omega

end Image

/-- The inputs whose mirror image is not projected. -/
def Slips (sine : SineTable) (billboard : Billboard) (source : SourceSize) (camera : CameraPose) :
    Prop :=
  source.width ≠ 0 ∧ source.height ≠ 0 ∧ AcceptedRadius billboard.pose ∧
    WorldUnit.ratio 1 4 ≤ exactDepth sine billboard.pose camera ∧
    ImageSlips billboard source (exactAnchor sine billboard.pose camera)
      (imageColumn sine billboard.pose camera)

instance (billboard : Billboard) (source : SourceSize) (anchor : Anchor) (column : ℤ) :
    Decidable (ImageSlips billboard source anchor column) :=
  inferInstanceAs (Decidable (_ ∧ _))

instance (sine : SineTable) (billboard : Billboard) (source : SourceSize) (camera : CameraPose) :
    Decidable (Slips sine billboard source camera) :=
  inferInstanceAs (Decidable (_ ∧ _))

/-! ## Anchors -/

section Anchors

variable {sine : SineTable} {pose other : CylindricalPose} {camera around : CameraPose}

theorem exactAnchor_congr (radius : other.radius = pose.radius)
    (height : other.height = pose.height) (cameraRadius : around.radius = camera.radius)
    (cameraHeight : around.height = camera.height) (same : azimuthDifference other around %
      turnUnits = azimuthDifference pose camera % turnUnits) :
    exactAnchor sine other around = exactAnchor sine pose camera := by
  have depth : exactDepth sine other around = exactDepth sine pose camera := by
    rw [exactDepth, axial, radius, cosQ15_congr same, cameraRadius, exactDepth, axial]
  rw [exactAnchor, lateral, depth, radius, sinQ15_congr same, height, cameraHeight, exactAnchor,
    lateral]

/-- The anchor with the opposite difference has the same depth and row. -/
theorem exactAnchor_opposite (symmetric : SymmetricSines sine)
    (radius : other.radius = pose.radius) (height : other.height = pose.height)
    (opposite : (azimuthDifference pose camera + azimuthDifference other camera) % turnUnits = 0) :
    exactAnchor sine other camera =
      { exactAnchor sine pose camera with centerX := imageColumn sine pose camera } := by
  have depth : exactDepth sine other camera = exactDepth sine pose camera := by
    rw [exactDepth, axial, radius, cosQ15_opposite opposite, exactDepth, axial]
  rw [exactAnchor, lateral, depth, radius, sinQ15_opposite symmetric.zero symmetric.half opposite,
    height, exactAnchor, imageColumn, Int.mul_neg]

theorem centerX_add_imageColumn (far : 16384 ≤ exactDepth sine pose camera) :
    (exactAnchor sine pose camera).centerX + imageColumn sine pose camera = 320 ∨
      (exactAnchor sine pose camera).centerX + imageColumn sine pose camera = 319 := by
  have rounded : -(pose.radius.toInt * sinQ15 sine (azimuthDifference pose camera)) / 2 ^ 15 =
      -lateral sine pose camera ∨
    -(pose.radius.toInt * sinQ15 sine (azimuthDifference pose camera)) / 2 ^ 15 =
      -lateral sine pose camera - 1 := by
    rw [lateral]
    omega
  have columns := Rounding.tdiv_add_tdiv rounded (lt_of_lt_of_le (by decide) far)
    (show 0 ≤ focalLength by decide) (le_trans (by decide) far)
  rw [exactAnchor, imageColumn, viewportWidth]
  dsimp only
  omega

end Anchors

section Symmetry

variable {sine : SineTable} {billboard : Billboard} {source : SourceSize} {camera : CameraPose}

theorem turnInvariant (fits : Fits64 (azimuthDifference billboard.pose camera)) :
    TurnInvariant sine billboard source camera := by
  intro azimuth observed turns observedTurns moved around fits'
  have same : azimuthDifference (billboard.withAzimuth azimuth).pose (camera.observing observed) %
      turnUnits = azimuthDifference billboard.pose camera % turnUnits := by
    rw [azimuthDifference, azimuthDifference]
    dsimp only [Billboard.withAzimuth, CameraPose.observing]
    rw [turnUnits] at *
    omega
  by_cases empty : source.width = 0 ∨ source.height = 0
  · rw [projectBillboard, if_pos empty, projectBillboard, if_pos empty]
  by_cases accepted : AcceptedRadius billboard.pose
  · have anchor : exactAnchor sine (billboard.withAzimuth azimuth).pose
        (camera.observing observed) = exactAnchor sine billboard.pose camera :=
      exactAnchor_congr rfl rfl rfl rfl same
    have depth : exactDepth sine (billboard.withAzimuth azimuth).pose
        (camera.observing observed) = exactDepth sine billboard.pose camera :=
      congrArg Anchor.depth anchor
    rw [projectBillboard_eq empty (by exact accepted) (by exact fits'),
      projectBillboard_eq empty accepted fits, anchor, depth]
    rfl
  · have rejected : ¬AcceptedRadius (billboard.withAzimuth azimuth).pose := accepted
    rw [projectBillboard_rejected empty rejected, projectBillboard_rejected empty accepted]

/-- Some angle that fits has the opposite difference. -/
theorem exists_opposite (difference : ℤ) (observed : UnwrappedAngle) :
    ∃ azimuth : UnwrappedAngle, Fits64 (azimuth.units.toInt - observed.units.toInt) ∧
      (difference + (azimuth.units.toInt - observed.units.toInt)) % turnUnits = 0 := by
  obtain ⟨low, high⟩ := fits64_toInt observed.units
  rw [turnUnits]
  rcases le_or_gt 0 observed.units.toInt with up | down
  · have fits : Fits64 (observed.units.toInt + -difference % 65536 - 65536) :=
      ⟨by omega, by omega⟩
    refine ⟨⟨.ofInt (observed.units.toInt + -difference % 65536 - 65536)⟩, ?_⟩
    rw [toInt_ofInt64 fits, Fits64]
    omega
  · have fits : Fits64 (observed.units.toInt + -difference % 65536) := ⟨by omega, by omega⟩
    refine ⟨⟨.ofInt (observed.units.toInt + -difference % 65536)⟩, ?_⟩
    rw [toInt_ofInt64 fits, Fits64]
    omega

theorem mirrorImages_iff (symmetric : SymmetricSines sine) {azimuth : UnwrappedAngle}
    (fits : Fits64 (azimuthDifference billboard.pose camera))
    (fits' : Fits64 (azimuth.units.toInt - camera.observedAzimuth.units.toInt))
    (opposite : (azimuthDifference billboard.pose camera +
      azimuthDifference (billboard.withAzimuth azimuth).pose camera) % turnUnits = 0) :
    (∃ here there, projectBillboard sine billboard source camera = some here ∧
      projectBillboard sine (billboard.withAzimuth azimuth) source camera = some there ∧
      MirrorImages here there) ↔ ¬Slips sine billboard source camera := by
  by_cases empty : source.width = 0 ∨ source.height = 0
  · refine iff_of_true ⟨_, _, if_pos empty, if_pos empty, rfl⟩ fun slips => ?_
    exact empty.elim slips.1 slips.2.1
  by_cases accepted : AcceptedRadius billboard.pose
  · have moved : projectBillboard sine (billboard.withAzimuth azimuth) source camera = _ :=
      projectBillboard_eq empty accepted fits'
    have anchor : exactAnchor sine (billboard.withAzimuth azimuth).pose camera =
        { exactAnchor sine billboard.pose camera with
          centerX := imageColumn sine billboard.pose camera } :=
      exactAnchor_opposite symmetric rfl rfl opposite
    have depth : exactDepth sine (billboard.withAzimuth azimuth).pose camera =
        exactDepth sine billboard.pose camera :=
      congrArg Anchor.depth anchor
    rw [projectBillboard_eq empty accepted fits, moved, anchor, depth]
    by_cases near : exactDepth sine billboard.pose camera < WorldUnit.ratio 1 4
    · rw [if_pos near, if_pos near]
      exact iff_of_true ⟨_, _, rfl, rfl, rfl⟩ fun slips => not_le_of_gt near slips.2.2.2.1
    · have far := far_of_not_near near
      obtain ⟨columns, rows⟩ := exactAnchor_bounded accepted far
      have slips : Slips sine billboard source camera ↔
          ImageSlips billboard source (exactAnchor sine billboard.pose camera)
            (imageColumn sine billboard.pose camera) :=
        ⟨fun slips => slips.2.2.2.2, fun slips => ⟨fun none => empty (Or.inl none),
          fun none => empty (Or.inr none), accepted, not_lt.mp near, slips⟩⟩
      rw [if_neg near, if_neg near, slips,
        ← placeBillboard_mirrored_iff far columns rows (centerX_add_imageColumn far)]
      constructor
      · rintro ⟨here, there, placed, placed', images⟩
        cases placed
        cases placed'
        exact images
      · intro images
        exact ⟨_, _, rfl, rfl, images⟩
  · have rejected : ¬AcceptedRadius (billboard.withAzimuth azimuth).pose := accepted
    rw [projectBillboard_rejected empty rejected, projectBillboard_rejected empty accepted]
    exact iff_of_true ⟨_, _, rfl, rfl, rfl⟩ fun slips => accepted slips.2.2.1

/-- **Mirror images are projected** of all that does not slip. -/
theorem mirrors_iff (symmetric : SymmetricSines sine)
    (fits : Fits64 (azimuthDifference billboard.pose camera)) :
    Mirrors sine billboard source camera ↔ ¬Slips sine billboard source camera := by
  obtain ⟨azimuth, fits', opposite⟩ :=
    exists_opposite (azimuthDifference billboard.pose camera) camera.observedAzimuth
  constructor
  · intro mirrors
    exact (mirrorImages_iff symmetric fits fits' opposite).mp (mirrors azimuth fits' opposite)
  · intro steady azimuth fits' opposite
    exact (mirrorImages_iff symmetric fits fits' opposite).mpr steady

end Symmetry

/-- **Projection is symmetric** in turns and, but for odd widths that wrap to negative ones, in
the side of the camera's axis. -/
theorem projection_symmetric_iff {sine : SineTable} (symmetric : SymmetricSines sine)
    {billboard : Billboard} {source : SourceSize} {camera : CameraPose}
    (fits : Fits64 (azimuthDifference billboard.pose camera)) :
    TurnInvariant sine billboard source camera ∧ Mirrors sine billboard source camera ↔
      ¬Slips sine billboard source camera := by
  rw [and_iff_right (turnInvariant fits), mirrors_iff symmetric fits]

/-! ## The generated table -/

/-- The sines of the first quarter. -/
def quarterSines : List ℤ :=
  [0, 201, 402, 603, 804, 1005, 1206, 1407, 1608, 1809, 2009, 2210, 2410, 2611, 2811, 3012, 3212,
   3412, 3612, 3811, 4011, 4210, 4410, 4609, 4808, 5007, 5205, 5404, 5602, 5800, 5998, 6195,
   6393, 6590, 6786, 6983, 7179, 7375, 7571, 7767, 7962, 8157, 8351, 8545, 8739, 8933, 9126,
   9319, 9512, 9704, 9896, 10087, 10278, 10469, 10659, 10849, 11039, 11228, 11417, 11605, 11793,
   11980, 12167, 12353, 12539, 12725, 12910, 13094, 13279, 13462, 13645, 13828, 14010, 14191,
   14372, 14553, 14732, 14912, 15090, 15269, 15446, 15623, 15800, 15976, 16151, 16325, 16499,
   16673, 16846, 17018, 17189, 17360, 17530, 17700, 17869, 18037, 18204, 18371, 18537, 18703,
   18868, 19032, 19195, 19357, 19519, 19680, 19841, 20000, 20159, 20317, 20475, 20631, 20787,
   20942, 21096, 21250, 21403, 21554, 21705, 21856, 22005, 22154, 22301, 22448, 22594, 22739,
   22884, 23027, 23170, 23311, 23452, 23592, 23731, 23870, 24007, 24143, 24279, 24413, 24547,
   24680, 24811, 24942, 25072, 25201, 25329, 25456, 25582, 25708, 25832, 25955, 26077, 26198,
   26319, 26438, 26556, 26674, 26790, 26905, 27019, 27133, 27245, 27356, 27466, 27575, 27683,
   27790, 27896, 28001, 28105, 28208, 28310, 28411, 28510, 28609, 28706, 28803, 28898, 28992,
   29085, 29177, 29268, 29358, 29447, 29534, 29621, 29706, 29791, 29874, 29956, 30037, 30117,
   30195, 30273, 30349, 30424, 30498, 30571, 30643, 30714, 30783, 30852, 30919, 30985, 31050,
   31113, 31176, 31237, 31297, 31356, 31414, 31470, 31526, 31580, 31633, 31685, 31736, 31785,
   31833, 31880, 31926, 31971, 32014, 32057, 32098, 32137, 32176, 32213, 32250, 32285, 32318,
   32351, 32382, 32412, 32441, 32469, 32495, 32521, 32545, 32567, 32589, 32609, 32628, 32646,
   32663, 32678, 32692, 32705, 32717, 32728, 32737, 32745, 32752, 32757, 32761, 32765, 32766,
   32767]

def generatedSines : SineTable := fun index =>
  let quarter (part : ℕ) : ℤ := quarterSines.getD part 0
  .ofInt <|
    if index.val ≤ 256 then quarter index.val
    else if index.val ≤ 512 then quarter (512 - index.val)
    else if index.val ≤ 768 then -quarter (index.val - 512)
    else -quarter (1024 - index.val)

theorem generatedSines_firstHalf {index : Fin 1024} (low : index.val ≤ 512) :
    generatedSines index = .ofInt (quarterSines.getD (min index.val (512 - index.val)) 0) := by
  rw [generatedSines]
  dsimp only
  rw [if_pos low]
  split
  · rw [Nat.min_eq_left (by omega)]
  · rw [Nat.min_eq_right (by omega)]

theorem generatedSines_symmetric : SymmetricSines generatedSines where
  zero := by decide
  mirrored index low := by
    have small : index.val ≤ 512 := low
    have turned : (512 - index).val = 512 - index.val := Fin.sub_val_of_le low
    rw [generatedSines_firstHalf small, generatedSines_firstHalf (by omega), turned,
      Nat.sub_sub_self small, Nat.min_comm]

/-- At twenty degrees and two world units from the center. -/
def slantedBoard : Billboard := ⟨1, ⟨131072, ⟨3640⟩, 0⟩, 65536, 1, .nearest⟩

theorem slantedBoard_symmetric :
    TurnInvariant generatedSines slantedBoard ⟨32, 32⟩ ⟨262144, ⟨0⟩, 0⟩ ∧
      Mirrors generatedSines slantedBoard ⟨32, 32⟩ ⟨262144, ⟨0⟩, 0⟩ :=
  (projection_symmetric_iff generatedSines_symmetric (by decide)).mpr (by decide +kernel)

/-- A quarter turn aside, with a height that makes the width `u32::MAX`. -/
def wrappingBoard : Billboard := ⟨1, ⟨512, ⟨16384⟩, 0⟩, 6710989, 1, .nearest⟩

/-- The width wraps to -1, and the columns 164 and 155 of the two rectangles miss each other's
mirror image by two pixels. -/
theorem wrappingBoard_not_symmetric :
    ¬(TurnInvariant generatedSines wrappingBoard ⟨65535, 1⟩ ⟨16384, ⟨0⟩, 0⟩ ∧
      Mirrors generatedSines wrappingBoard ⟨65535, 1⟩ ⟨16384, ⟨0⟩, 0⟩) := by
  rintro ⟨-, mirrors⟩
  rw [mirrors_iff generatedSines_symmetric (by decide)] at mirrors
  exact mirrors (by decide +kernel)

end Deskkin.Presentation
