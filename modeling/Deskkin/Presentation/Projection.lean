/-
# Projection

A billboard stands on a cylinder around the center that the camera looks at, and it faces the
camera. Its anchor is turned into camera coordinates with sines of 16 bits and divided by its
depth; its size is the world height, divided likewise, and the proportions of its texture.
World units are parts of 65536.

Values are integers; a sum or difference that does not fit its type is a panic, which is `none`.
-/

import Deskkin.Lib.Rounding
import Deskkin.Presentation.Sine

namespace Deskkin.Presentation

open Signed

def focalLength : ℤ := 160

/-- The bits of `numerator / denominator` world units. -/
def WorldUnit.ratio (numerator denominator : ℤ) : ℤ :=
  narrow32 ((numerator * 65536).tdiv denominator)

structure CylindricalPose where
  radius : Int32
  azimuth : UnwrappedAngle
  height : Int32
  deriving DecidableEq

structure CameraPose where
  radius : Int32
  observedAzimuth : UnwrappedAngle
  height : Int32
  deriving DecidableEq

structure Billboard where
  id : UInt16
  pose : CylindricalPose
  worldHeight : Int32
  textureId : UInt16
  filter : TextureFilter
  deriving DecidableEq

inductive ProjectionCull
  | invalidRadius
  | nearPlane
  | outsideViewport
  | invalidSource
  deriving DecidableEq

/-- Where an anchor is in the viewport, and how far from the camera. -/
structure Anchor where
  centerX : ℤ
  centerY : ℤ
  depth : ℤ
  deriving DecidableEq

section Project

variable (sine : SineTable)

def projectAnchor (pose : CylindricalPose) (camera : CameraPose) :
    Option (Except ProjectionCull Anchor) :=
  if pose.radius.toInt < 0 ∨ pose.radius.toInt > WorldUnit.ratio 32 10 then
    some (.error .invalidRadius)
  else do
    let delta ← checked64 (pose.azimuth.units.toInt - camera.observedAzimuth.units.toInt)
    let x := narrow32 (pose.radius.toInt * sinQ15 sine delta.toInt / 2 ^ 15)
    let radialDepth := narrow32 (pose.radius.toInt * cosQ15 sine delta.toInt / 2 ^ 15)
    let depth := saturated32 (camera.radius.toInt - radialDepth)
    if depth < WorldUnit.ratio 1 4 then return .error .nearPlane
    else
      let centerX ← checked32 (viewportWidth / 2 + narrow32 ((x * focalLength).tdiv depth))
      let vertical := saturated32 (camera.height.toInt - pose.height.toInt)
      let centerY ← checked32
        (viewportHeight / 2 + narrow32 ((vertical * focalLength).tdiv depth))
      return .ok ⟨centerX, centerY, depth⟩

/-- No part of the rectangle is in the viewport. -/
def Outside (x y width height : ℤ) : Prop :=
  x ≥ viewportWidth ∨ y ≥ viewportHeight ∨ saturated32 (x + width) ≤ 0 ∨
    saturated32 (y + height) ≤ 0

instance (x y width height : ℤ) : Decidable (Outside x y width height) :=
  inferInstanceAs (Decidable (_ ∨ _))

def projectBillboard (billboard : Billboard) (source : SourceSize) (camera : CameraPose) :
    Option (Except ProjectionCull ProjectedBillboard) :=
  if source.width = 0 ∨ source.height = 0 then some (.error .invalidSource)
  else do
    match ← projectAnchor sine billboard.pose camera with
    | .error cull => return .error cull
    | .ok anchor =>
        let projectedHeight :=
          narrow32 ((billboard.worldHeight.toInt * focalLength).tdiv anchor.depth)
        if projectedHeight ≤ 0 then return .error .invalidSource
        else
          let projectedWidth :=
            narrow32 ((projectedHeight * source.width.toNat).tdiv source.height.toNat)
          let x ← checked32 (anchor.centerX - projectedWidth.tdiv 2)
          let y ← checked32 (anchor.centerY - projectedHeight.tdiv 2)
          if Outside x y projectedWidth projectedHeight then return .error .outsideViewport
          else return .ok ⟨billboard.id, ⟨.ofInt x, .ofInt y, .ofInt projectedWidth,
            .ofInt projectedHeight⟩, .ofInt anchor.depth, billboard.textureId, billboard.filter⟩

/-! ## Particles -/

structure ParticleLod where
  texture : UInt16
  size : SourceSize
  maxDepth : Int32

structure Particle where
  id : UInt16
  pose : CylindricalPose
  lods : Vector ParticleLod 3

def projectParticle (particle : Particle) (camera : CameraPose) :
    Option (Except ProjectionCull ProjectedBillboard) := do
  match ← projectAnchor sine particle.pose camera with
  | .error cull => return .error cull
  | .ok anchor =>
      match particle.lods.toList.find? fun lod => anchor.depth ≤ lod.maxDepth.toInt with
      | none => return .error .outsideViewport
      | some lod =>
          if lod.size.width = 0 ∨ lod.size.height = 0 then return .error .invalidSource
          else
            let x ← checked32 (anchor.centerX - (lod.size.width.toNat / 2 : ℕ))
            let y ← checked32 (anchor.centerY - lod.size.height.toNat)
            if Outside x y lod.size.width.toNat lod.size.height.toNat then
              return .error .outsideViewport
            else return .ok ⟨particle.id, ⟨.ofInt x, .ofInt y, .ofInt lod.size.width.toNat,
              .ofInt lod.size.height.toNat⟩, .ofInt anchor.depth, lod.texture, .nearest⟩

end Project

/-! ## Without narrowing -/

def azimuthDifference (pose : CylindricalPose) (camera : CameraPose) : ℤ :=
  pose.azimuth.units.toInt - camera.observedAzimuth.units.toInt

def AcceptedRadius (pose : CylindricalPose) : Prop :=
  0 ≤ pose.radius.toInt ∧ pose.radius.toInt ≤ WorldUnit.ratio 32 10

instance (pose : CylindricalPose) : Decidable (AcceptedRadius pose) :=
  inferInstanceAs (Decidable (_ ∧ _))

section Exact

variable (sine : SineTable) (pose : CylindricalPose) (camera : CameraPose)

/-- How far to the right of the axis of the camera. -/
def lateral : ℤ := pose.radius.toInt * sinQ15 sine (azimuthDifference pose camera) / 2 ^ 15

/-- How far from the center toward the camera. -/
def axial : ℤ := pose.radius.toInt * cosQ15 sine (azimuthDifference pose camera) / 2 ^ 15

def exactDepth : ℤ := saturated32 (camera.radius.toInt - axial sine pose camera)

def exactAnchor : Anchor where
  centerX := viewportWidth / 2 +
    (lateral sine pose camera * focalLength).tdiv (exactDepth sine pose camera)
  centerY := viewportHeight / 2 + (saturated32 (camera.height.toInt - pose.height.toInt) *
    focalLength).tdiv (exactDepth sine pose camera)
  depth := exactDepth sine pose camera

end Exact

def exactHeight (worldHeight : Int32) (depth : ℤ) : ℤ :=
  (worldHeight.toInt * focalLength).tdiv depth

def exactWidth (height : ℤ) (source : SourceSize) : ℤ :=
  (height * source.width.toNat).tdiv source.height.toNat

/-- The board around its anchor, or why there is none. -/
def placeBillboard (billboard : Billboard) (source : SourceSize) (anchor : Anchor) :
    Except ProjectionCull ProjectedBillboard :=
  let height := exactHeight billboard.worldHeight anchor.depth
  let width := narrow32 (exactWidth height source)
  let x := anchor.centerX - width.tdiv 2
  let y := anchor.centerY - height.tdiv 2
  if height ≤ 0 then .error .invalidSource
  else if Outside x y width height then .error .outsideViewport
  else .ok ⟨billboard.id, ⟨.ofInt x, .ofInt y, .ofInt width, .ofInt height⟩, .ofInt anchor.depth,
    billboard.textureId, billboard.filter⟩

/-- The particle over its anchor, or why there is none. -/
def placeParticle (particle : Particle) (anchor : Anchor) :
    Except ProjectionCull ProjectedBillboard :=
  match particle.lods.toList.find? fun lod => anchor.depth ≤ lod.maxDepth.toInt with
  | none => .error .outsideViewport
  | some lod =>
      let x := anchor.centerX - (lod.size.width.toNat / 2 : ℕ)
      let y := anchor.centerY - lod.size.height.toNat
      if lod.size.width = 0 ∨ lod.size.height = 0 then .error .invalidSource
      else if Outside x y lod.size.width.toNat lod.size.height.toNat then .error .outsideViewport
      else .ok ⟨particle.id, ⟨.ofInt x, .ofInt y, .ofInt lod.size.width.toNat,
        .ofInt lod.size.height.toNat⟩, .ofInt anchor.depth, lod.texture, .nearest⟩

section Bounds

variable {sine : SineTable} {pose : CylindricalPose} {camera : CameraPose}

theorem ratio_radius : WorldUnit.ratio 32 10 = 209715 := by decide

theorem ratio_near : WorldUnit.ratio 1 4 = 16384 := by decide

theorem far_of_not_near {depth : ℤ} (notNear : ¬depth < WorldUnit.ratio 1 4) : 16384 ≤ depth := by
  rw [ratio_near] at notNear
  omega

theorem scaled_bounded {radius q15 : ℤ} (nonneg : 0 ≤ radius) (small : radius ≤ 209715)
    (bounded : -32768 ≤ q15 ∧ q15 ≤ 32768) :
    -209715 ≤ radius * q15 / 2 ^ 15 ∧ radius * q15 / 2 ^ 15 ≤ 209715 := by
  have low : radius * -32768 ≤ radius * q15 := Int.mul_le_mul_of_nonneg_left bounded.1 nonneg
  have high : radius * q15 ≤ radius * 32768 := Int.mul_le_mul_of_nonneg_left bounded.2 nonneg
  omega

theorem lateral_bounded (sine : SineTable) (camera : CameraPose) (accepted : AcceptedRadius pose) :
    -209715 ≤ lateral sine pose camera ∧ lateral sine pose camera ≤ 209715 :=
  scaled_bounded accepted.1 (ratio_radius ▸ accepted.2) (sinQ15_bounded _ _)

theorem axial_bounded (sine : SineTable) (camera : CameraPose) (accepted : AcceptedRadius pose) :
    -209715 ≤ axial sine pose camera ∧ axial sine pose camera ≤ 209715 :=
  scaled_bounded accepted.1 (ratio_radius ▸ accepted.2) (cosQ15_bounded _ _)

theorem across_bounded (accepted : AcceptedRadius pose)
    (far : 16384 ≤ exactDepth sine pose camera) :
    -2048 ≤ (lateral sine pose camera * focalLength).tdiv (exactDepth sine pose camera) ∧
      (lateral sine pose camera * focalLength).tdiv (exactDepth sine pose camera) ≤ 2048 := by
  have bounded := lateral_bounded sine camera accepted
  exact Rounding.tdiv_between (by decide) (by decide) far (by rw [focalLength]; omega)
    (by rw [focalLength]; omega)

/-- What fits 32 bits is small once it is divided by a depth. -/
theorem projected_bounded {value depth : ℤ} (fits : Fits32 value) (far : 16384 ≤ depth) :
    -20971520 ≤ (value * focalLength).tdiv depth ∧
      (value * focalLength).tdiv depth ≤ 20971520 := by
  obtain ⟨low, high⟩ := fits
  exact Rounding.tdiv_between (by decide) (by decide) far (by rw [focalLength]; omega)
    (by rw [focalLength]; omega)

/-- **Anchors stay near the viewport**, and their columns very near. -/
theorem exactAnchor_bounded (accepted : AcceptedRadius pose)
    (far : 16384 ≤ exactDepth sine pose camera) :
    (-1888 ≤ (exactAnchor sine pose camera).centerX ∧
      (exactAnchor sine pose camera).centerX ≤ 2208) ∧
    -20971400 ≤ (exactAnchor sine pose camera).centerY ∧
      (exactAnchor sine pose camera).centerY ≤ 20971640 := by
  have across := across_bounded accepted far
  have down := projected_bounded (fits32_saturated32 (camera.height.toInt - pose.height.toInt)) far
  simp only [exactAnchor, viewportWidth, viewportHeight]
  omega

/-- Rectangles around anchors have their ends in `i32`. -/
theorem centered_fits (center : ℤ) {size : ℤ} (low : -20971400 ≤ center) (high : center ≤ 20971640)
    (fits : Fits32 size) :
    Fits32 (center - size.tdiv 2) ∧ Fits32 (center - size.tdiv 2 + size) := by
  obtain ⟨least, most⟩ := fits
  have half := Rounding.tdiv_two size
  rw [Fits32, Fits32]
  omega

theorem outside_iff {x y width height : ℤ} (right : Fits32 (x + width))
    (bottom : Fits32 (y + height)) :
    Outside x y width height ↔ 320 ≤ x ∨ 240 ≤ y ∨ x + width ≤ 0 ∨ y + height ≤ 0 := by
  rw [Outside, saturated32_of_fits right, saturated32_of_fits bottom]
  rfl

/-- **Anchors are computed without narrowing**, once the difference of the angles fits. -/
theorem projectAnchor_eq (accepted : AcceptedRadius pose)
    (fits : Fits64 (azimuthDifference pose camera)) :
    projectAnchor sine pose camera =
      some (if exactDepth sine pose camera < WorldUnit.ratio 1 4 then .error .nearPlane
        else .ok (exactAnchor sine pose camera)) := by
  have rejected : ¬(pose.radius.toInt < 0 ∨ pose.radius.toInt > WorldUnit.ratio 32 10) := by
    obtain ⟨low, high⟩ := accepted
    omega
  have beside : Fits32 (lateral sine pose camera) := by
    have bounded := lateral_bounded sine camera accepted
    exact ⟨by omega, by omega⟩
  have along : Fits32 (axial sine pose camera) := by
    have bounded := axial_bounded sine camera accepted
    exact ⟨by omega, by omega⟩
  rw [projectAnchor, if_neg rejected, ← azimuthDifference, checked64_of_fits fits]
  simp only [Option.bind_eq_bind, Option.bind_some, toInt_ofInt64 fits]
  rw [← lateral, ← axial, narrow32_of_fits beside, narrow32_of_fits along, ← exactDepth]
  split
  · rfl
  · rename_i notNear
    have far := far_of_not_near notNear
    have across := across_bounded accepted far
    have down := projected_bounded
      (fits32_saturated32 (camera.height.toInt - pose.height.toInt)) far
    rw [narrow32_of_fits ⟨by omega, by omega⟩, narrow32_of_fits ⟨by omega, by omega⟩,
      checked32_of_fits ⟨by rw [viewportWidth]; omega, by rw [viewportWidth]; omega⟩,
      checked32_of_fits ⟨by rw [viewportHeight]; omega, by rw [viewportHeight]; omega⟩]
    rfl

theorem projectAnchor_rejected (rejected : ¬AcceptedRadius pose) :
    projectAnchor sine pose camera = some (.error .invalidRadius) := by
  rw [AcceptedRadius] at rejected
  rw [projectAnchor, if_pos (by omega)]

theorem projectAnchor_overflows (accepted : AcceptedRadius pose)
    (apart : ¬Fits64 (azimuthDifference pose camera)) :
    projectAnchor sine pose camera = none := by
  obtain ⟨low, high⟩ := accepted
  rw [projectAnchor, if_neg (by omega), ← azimuthDifference, checked64_eq_none.mpr apart]
  rfl

end Bounds

section Place

variable {sine : SineTable} {billboard : Billboard} {particle : Particle} {source : SourceSize}
  {camera : CameraPose}

/-- **Billboards are placed around exact anchors**: only the width is narrowed. -/
theorem projectBillboard_eq (nonempty : ¬(source.width = 0 ∨ source.height = 0))
    (accepted : AcceptedRadius billboard.pose)
    (fits : Fits64 (azimuthDifference billboard.pose camera)) :
    projectBillboard sine billboard source camera =
      some (if exactDepth sine billboard.pose camera < WorldUnit.ratio 1 4 then .error .nearPlane
        else placeBillboard billboard source (exactAnchor sine billboard.pose camera)) := by
  rw [projectBillboard, if_neg nonempty, projectAnchor_eq accepted fits]
  split
  · rfl
  · rename_i notNear
    have far : 16384 ≤ (exactAnchor sine billboard.pose camera).depth := far_of_not_near notNear
    obtain ⟨columns, rows⟩ := exactAnchor_bounded accepted far
    have height : Fits32 (exactHeight billboard.worldHeight
        (exactAnchor sine billboard.pose camera).depth) := by
      have bounded := projected_bounded (fits32_toInt billboard.worldHeight) far
      rw [exactHeight]
      exact ⟨by omega, by omega⟩
    simp only [Option.bind_eq_bind, Option.bind_some]
    rw [← exactHeight, narrow32_of_fits height, ← exactWidth, placeBillboard]
    split
    · rfl
    · rw [checked32_of_fits (centered_fits _ (by omega) (by omega) (fits32_narrow32 _)).1,
        checked32_of_fits (centered_fits _ (by omega) (by omega) height).1]
      simp only [Option.bind_some]
      split <;> rfl

theorem projectBillboard_rejected (nonempty : ¬(source.width = 0 ∨ source.height = 0))
    (rejected : ¬AcceptedRadius billboard.pose) :
    projectBillboard sine billboard source camera = some (.error .invalidRadius) := by
  rw [projectBillboard, if_neg nonempty, projectAnchor_rejected rejected]
  rfl

/-- **Particles are placed over exact anchors.** -/
theorem projectParticle_eq (accepted : AcceptedRadius particle.pose)
    (fits : Fits64 (azimuthDifference particle.pose camera)) :
    projectParticle sine particle camera =
      some (if exactDepth sine particle.pose camera < WorldUnit.ratio 1 4 then .error .nearPlane
        else placeParticle particle (exactAnchor sine particle.pose camera)) := by
  rw [projectParticle, projectAnchor_eq accepted fits]
  split
  · rfl
  · rename_i notNear
    have far : 16384 ≤ (exactAnchor sine particle.pose camera).depth := far_of_not_near notNear
    obtain ⟨columns, rows⟩ := exactAnchor_bounded accepted far
    simp only [Option.bind_eq_bind, Option.bind_some]
    rw [placeParticle]
    split
    · rfl
    · rename_i lod _
      have wide := lod.size.width.toNat_lt
      have high := lod.size.height.toNat_lt
      split
      · rfl
      · rw [checked32_of_fits ⟨by omega, by omega⟩, checked32_of_fits ⟨by omega, by omega⟩]
        simp only [Option.bind_some]
        split <;> rfl

/-- What is projected is placed around an anchor that is not near. -/
theorem projectBillboard_ok {projected : ProjectedBillboard}
    (drawn : projectBillboard sine billboard source camera = some (.ok projected)) :
    placeBillboard billboard source (exactAnchor sine billboard.pose camera) = .ok projected := by
  by_cases empty : source.width = 0 ∨ source.height = 0
  · rw [projectBillboard, if_pos empty] at drawn
    cases drawn
  by_cases accepted : AcceptedRadius billboard.pose
  · by_cases fits : Fits64 (azimuthDifference billboard.pose camera)
    · rw [projectBillboard_eq empty accepted fits] at drawn
      split at drawn
      · cases drawn
      · exact Option.some.inj drawn
    · rw [projectBillboard, if_neg empty, projectAnchor_overflows accepted fits] at drawn
      cases drawn
  · rw [projectBillboard_rejected empty accepted] at drawn
    cases drawn

theorem projectParticle_ok {projected : ProjectedBillboard}
    (drawn : projectParticle sine particle camera = some (.ok projected)) :
    AcceptedRadius particle.pose ∧ 16384 ≤ exactDepth sine particle.pose camera ∧
      placeParticle particle (exactAnchor sine particle.pose camera) = .ok projected := by
  by_cases accepted : AcceptedRadius particle.pose
  · by_cases fits : Fits64 (azimuthDifference particle.pose camera)
    · rw [projectParticle_eq accepted fits] at drawn
      split at drawn
      · cases drawn
      · rename_i notNear
        exact ⟨accepted, far_of_not_near notNear, Option.some.inj drawn⟩
    · rw [projectParticle, projectAnchor_overflows accepted fits] at drawn
      cases drawn
  · rw [projectParticle, projectAnchor_rejected accepted] at drawn
    cases drawn

end Place

/-! ## What is drawn -/

/-- Reduced textures only need the nearest texel. -/
def ProjectedBillboard.resolvedFilter (self : ProjectedBillboard) (mipSelected : Bool) :
    TextureFilter :=
  if mipSelected then .nearest else self.filter

/-- `left` is drawn before `right`: it is further away, or has the lesser identity. -/
def farther (left right : ProjectedBillboard) : Bool :=
  right.depth < left.depth || left.depth == right.depth && left.id ≤ right.id

/-- The sort is not stable, but identities differ where it is used. -/
def sortFarToNear (projected : List ProjectedBillboard) : List ProjectedBillboard :=
  projected.mergeSort farther

theorem farther_iff {left right : ProjectedBillboard} : farther left right = true ↔
    right.depth.toInt < left.depth.toInt ∨
      left.depth.toInt = right.depth.toInt ∧ left.id.toNat ≤ right.id.toNat := by
  rw [farther, Bool.or_eq_true, Bool.and_eq_true, decide_eq_true_iff, decide_eq_true_iff,
    beq_iff_eq, Int32.lt_iff_toInt_lt, ← Int32.toInt_inj, UInt16.le_iff_toNat_le]

theorem sortFarToNear_sorted (projected : List ProjectedBillboard) :
    (sortFarToNear projected).Pairwise (farther · · = true) := by
  apply List.pairwise_mergeSort
  · intro a b c first second
    rw [farther_iff] at first second ⊢
    omega
  · intro a b
    rw [Bool.or_eq_true, farther_iff, farther_iff]
    omega

theorem sortFarToNear_perm (projected : List ProjectedBillboard) :
    (sortFarToNear projected).Perm projected :=
  List.mergeSort_perm projected farther

end Deskkin.Presentation
