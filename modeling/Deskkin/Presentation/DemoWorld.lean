/-
# The demo world

The night garden has 23 billboards, some of which move with the phase of the motion, and 224
particles that stay where they are. A particle has three textures for three distances and is
drawn at the size of one of them. Each entity has an identity of its own, whatever the phase.

Heights and radii are far from the greatest values of their type.
-/

import Deskkin.Presentation.Motion
import Deskkin.Presentation.Projection

namespace Deskkin.Presentation

open Signed

def WorldUnit.ofRatio (numerator denominator : ℤ) : Int32 :=
  .ofInt (WorldUnit.ratio numerator denominator)

def WorldUnit.fromInt (value : ℤ) : Int32 := .ofInt (value * 65536)

namespace UnwrappedAngle

def fromDegrees (degrees : ℤ) : UnwrappedAngle := ⟨.ofInt ((degrees * turnUnits).tdiv 360)⟩

def wrappingAdd (self rhs : UnwrappedAngle) : UnwrappedAngle := ⟨self.units + rhs.units⟩

end UnwrappedAngle

open WorldUnit UnwrappedAngle

def landscapeCard : SourceSize := ⟨272, 124⟩

def portraitCard : SourceSize := ⟨136, 204⟩

def spriteSize : SourceSize := ⟨96, 96⟩

def grassCount : ℕ := 176

def billboardCount : ℕ := 23

def capacity : ℕ := billboardCount + 48 + grassCount

def decorationTextureCount : ℕ := 31

def drone : UInt16 := 30

def terrarium : UInt16 := 31

def lantern : UInt16 := 32

def light : UInt16 := 33

/-! ## Motion -/

namespace DemoMotion

def characterAzimuth (self : DemoMotion) : UnwrappedAngle :=
  ⟨.ofInt (self.phaseMs % 30000 * 65536 / 30000 : ℕ)⟩

def objectRadius (self : DemoMotion) : Int32 :=
  let phase := self.phaseMs % 12000
  let triangle := if phase ≤ 6000 then phase else 12000 - phase
  .ofInt (65536 + WorldUnit.ratio triangle 4000)

def bob (sine : SineTable) (self : DemoMotion) (periodMs : ℕ) (offset amplitude : ℤ) : ℤ :=
  let angle := self.phaseMs % periodMs * 65536 / periodMs
  (sinQ15 sine (angle + offset) * amplitude).tdiv 100

end DemoMotion

/-! ## Billboards -/

def entity (id texture : UInt16) (radius : Int32) (azimuth : UnwrappedAngle) (height size : Int32)
    (source : SourceSize) : Billboard × SourceSize :=
  (⟨id, ⟨radius, azimuth, height⟩, size, texture, .nearest⟩, source)

def boardEntity (id texture : UInt16) (azimuth : UnwrappedAngle) (height : Int32)
    (filter : TextureFilter) : Billboard × SourceSize :=
  let (board, source) := entity id texture (ofRatio 18 10) azimuth height 65536 landscapeCard
  ({ board with filter := filter }, source)

structure BoardFilters where
  availability : TextureFilter
  notice : TextureFilter
  deriving DecidableEq

section Entities

variable (sine : SineTable) (motion : DemoMotion)

def principal (availability : Option UInt16) (notice : Bool) (filters : BoardFilters) :
    List (Billboard × SourceSize) :=
  [entity 1 1 (ofRatio 22 10) motion.characterAzimuth (ofRatio (-4) 10) (ofRatio 12 10) ⟨144, 156⟩,
    boardEntity 2 (availability.getD 40) (fromDegrees (-45)) 65536 filters.availability,
    boardEntity 3 (if notice then 20 else 41) (fromDegrees 35) (ofRatio 8 10) filters.notice,
    entity 5 42 (ofRatio 23 10) (fromDegrees 170) (ofRatio 2 10) (ofRatio 16 10) portraitCard,
    entity 4 drone motion.objectRadius (fromDegrees 42)
      (.ofInt (65536 + motion.bob sine 8000 0 20)) (ofRatio 9 10) spriteSize]

/-- Azimuth, radius, center height and full height, in tenths of a unit. -/
def propTable : List (ℤ × ℤ × ℤ × ℤ × UInt16) :=
  [(-65, 25, -4, 12, terrarium), (70, 24, -4, 12, terrarium), (175, 27, -3, 14, terrarium),
    (-110, 23, 16, 6, lantern), (110, 26, 15, 7, lantern), (5, 15, 15, 5, lantern)]

def props : List (Billboard × SourceSize) :=
  propTable.zipIdx.map fun ((azimuth, radius, height, size, texture), index) =>
    entity (.ofNat (10 + index)) texture (ofRatio radius 10) (fromDegrees azimuth)
      (.ofInt (WorldUnit.ratio height 10 +
        if texture = lantern then motion.bob sine 12000 (index * 10923) 12 else 0))
      (ofRatio size 10) spriteSize

def lights : List (Billboard × SourceSize) :=
  (List.range 12).map fun (index : ℕ) =>
    let angle := (fromDegrees (index * 30 : ℕ)).wrappingAdd
      ⟨.ofInt (motion.phaseMs * 65536 / 120000 : ℕ)⟩
    let height := WorldUnit.ratio ((index % 4 : ℕ) * 9 - 13) 10
    entity (.ofNat (100 + index)) light (ofRatio (16 + (index % 3 : ℕ) * 4) 10) angle
      (.ofInt (height + motion.bob sine 10000 (index * 5461) 28))
      (ofRatio (6 + (index % 3 : ℕ)) 100) ⟨9, 9⟩

def entities (availability : Option UInt16) (notice : Bool) (filters : BoardFilters) :
    List (Billboard × SourceSize) :=
  principal sine motion availability notice filters ++ props sine motion ++ lights sine motion

end Entities

/-! ## Particles -/

def detailLodSize (lod : Fin 3) : SourceSize :=
  let side := #v[12, 6, 3][lod]
  ⟨side, side⟩

def grassLodSize (lod : Fin 3) : SourceSize :=
  let height := #v[48, 24, 3][lod]
  ⟨height * 3, height⟩

def decorationSize (index : ℕ) : SourceSize :=
  if index ≤ 2 then spriteSize
  else if index = 3 then ⟨9, 9⟩
  else if index ≤ 21 then detailLodSize (.ofNat 3 (index - 4))
  else grassLodSize (.ofNat 3 (index - 22))

def maxDepth (lod : Fin 3) : Int32 := fromInt #v[2, 4, 8][lod]

def detailParticle (index : ℕ) : Particle :=
  let cluster : ℤ := (index / 6 : ℕ)
  let kind := Fin.ofNat 6 index
  { id := .ofNat (200 + index)
    pose := {
      radius := ofRatio (#v[19, 27, 23, 29, 21, 26][kind] - cluster % 3) 10
      azimuth := fromDegrees
        (cluster * 45 - 174 + #v[0, 11, -9, 18, -17, 5][kind] + (cluster % 3) * 3)
      height := fromInt (-1) }
    lods := Vector.ofFn fun lod =>
      ⟨.ofNat (50 + (kind * 3 + lod)), detailLodSize lod, maxDepth lod⟩ }

def grassParticle (index : ℕ) : Particle :=
  let radialRank := (index * 73 + 41) % grassCount
  let radialSpan : ℤ := grassCount - 1
  let inward : ℤ := radialSpan - radialRank
  let curve := radialSpan ^ 2 - inward ^ 2
  let innerRadius := WorldUnit.ratio 6 10
  let outerRadius := WorldUnit.ratio 32 10
  let jitter : ℤ := ((index * index * 17 + index * 109 + 19) % 101 : ℕ)
  let variant := (radialRank + index / 7) % 3
  { id := .ofNat (300 + index)
    pose := {
      radius := .ofInt
        (innerRadius + ((outerRadius - innerRadius) * curve).tdiv (radialSpan ^ 2))
      azimuth := ⟨.ofInt (index * 25031 + (jitter - 50) * 11)⟩
      height := fromInt (-1) }
    lods := Vector.ofFn fun lod =>
      ⟨.ofNat (68 + (variant * 3 + lod)), grassLodSize lod, maxDepth lod⟩ }

def particles : List Particle :=
  (List.range 48).map detailParticle ++ (List.range grassCount).map grassParticle

/-! ## What is seen -/

/-- All billboards and then all particles, projected. -/
def projectedEntities (sine : SineTable) (motion : DemoMotion) (availability : Option UInt16)
    (notice : Bool) (filters : BoardFilters) (camera : CameraPose) :
    Option (List (Except ProjectionCull ProjectedBillboard)) := do
  let billboards ← (entities sine motion availability notice filters).mapM
    fun (billboard, source) => projectBillboard sine billboard source camera
  let specks ← particles.mapM fun particle => projectParticle sine particle camera
  return billboards ++ specks

/-! ## Identities -/

section Identities

variable (sine : SineTable) (motion : DemoMotion) (availability : Option UInt16) (notice : Bool)
  (filters : BoardFilters)

theorem entities_length :
    (entities sine motion availability notice filters).length = billboardCount :=
  rfl

theorem particles_length : particles.length = 48 + grassCount := by
  rw [particles, List.length_append, List.length_map, List.length_map, List.length_range,
    List.length_range]

/-- The identities, in the order of the entities. -/
def identities : List ℕ :=
  [1, 2, 3, 5, 4] ++ (List.range' 10 6 ++ List.range' 100 12) ++
    (List.range' 200 48 ++ List.range' 300 grassCount)

theorem identities_eq :
    (entities sine motion availability notice filters).map (·.1.id) ++ particles.map (·.id) =
      identities.map UInt16.ofNat := by
  have billboards : (entities sine motion availability notice filters).map (·.1.id) =
      ([1, 2, 3, 5, 4] ++ (List.range' 10 6 ++ List.range' 100 12)).map UInt16.ofNat := rfl
  have specks : particles.map (·.id) =
      (List.range' 200 48 ++ List.range' 300 grassCount).map UInt16.ofNat := by
    decide +kernel
  rw [billboards, specks, ← List.map_append, identities]

/-- **All identities are different.** Only the last two principals are not in order. -/
theorem identities_nodup : (identities.map UInt16.ofNat).Nodup := by
  have ascending : ([1, 2, 3, 4, 5] ++ identities.drop 5).Pairwise (· < ·) :=
    List.isChain_iff_pairwise.mp (by decide +kernel)
  have swapped : ([1, 2, 3, 4, 5] ++ identities.drop 5).Perm identities :=
    List.Perm.append_right (identities.drop 5) (show [1, 2, 3, 4, 5].Perm [1, 2, 3, 5, 4] by decide)
  have small : ∀ id ∈ identities, id < 2 ^ 16 := by decide +kernel
  refine (swapped.nodup_iff.mp (ascending.imp Nat.ne_of_lt)).map_on ?_
  intro a inA b inB same
  have values := congrArg UInt16.toNat same
  rwa [UInt16.toNat_ofNat_of_lt' (small a inA), UInt16.toNat_ofNat_of_lt' (small b inB)] at values

end Identities

/-! ## Azimuths -/

/-- An angle that is nowhere near the ends of its type. -/
def UnwrappedAngle.Moderate (angle : UnwrappedAngle) : Prop :=
  -2 ^ 62 ≤ angle.units.toInt ∧ angle.units.toInt < 2 ^ 62

instance (angle : UnwrappedAngle) : Decidable angle.Moderate :=
  inferInstanceAs (Decidable (_ ∧ _))

theorem moderate_ofInt {units : ℤ} (low : -2 ^ 62 ≤ units) (high : units < 2 ^ 62) :
    UnwrappedAngle.Moderate ⟨.ofInt units⟩ := by
  rw [UnwrappedAngle.Moderate, toInt_ofInt64 ⟨by omega, by omega⟩]
  exact ⟨low, high⟩

theorem lights_moderate (sine : SineTable) (motion : DemoMotion) :
    ∀ item ∈ lights sine motion, item.1.pose.azimuth.Moderate := by
  rw [lights, List.forall_mem_map]
  intro index inside
  have few := List.mem_range.mp inside
  have phase := motion.small
  rw [motionPeriodMs] at phase
  have angle : ((fromDegrees (index * 30 : ℕ)).wrappingAdd
      ⟨.ofInt (motion.phaseMs * 65536 / 120000 : ℕ)⟩).Moderate := by
    rw [fromDegrees, wrappingAdd, ← Int64.ofInt_add, turnUnits,
      Int.tdiv_eq_ediv_of_nonneg (by omega)]
    exact moderate_ofInt (by omega) (by omega)
  exact angle

theorem entities_moderate (sine : SineTable) (motion : DemoMotion) (availability : Option UInt16)
    (notice : Bool) (filters : BoardFilters) :
    ∀ item ∈ entities sine motion availability notice filters,
      item.1.pose.azimuth.Moderate := by
  have character : motion.characterAzimuth.Moderate := moderate_ofInt (by omega) (by omega)
  have table : ∀ row ∈ propTable.zipIdx, (fromDegrees row.1.1).Moderate := by decide
  rw [entities, List.forall_mem_append, List.forall_mem_append]
  refine ⟨⟨?_, ?_⟩, lights_moderate sine motion⟩
  · rw [principal]
    simp only [List.forall_mem_cons]
    exact ⟨character, show (fromDegrees (-45)).Moderate by decide,
      show (fromDegrees 35).Moderate by decide, show (fromDegrees 170).Moderate by decide,
      show (fromDegrees 42).Moderate by decide, fun _ none => absurd none List.not_mem_nil⟩
  · rw [props, List.forall_mem_map]
    exact table

theorem particles_moderate : ∀ particle ∈ particles, particle.pose.azimuth.Moderate := by
  decide +kernel

/-! ## Native sizes -/

/-- What a particle is projected to: a texture of the decorations, drawn at its own size. -/
def NativeDecoration (projected : ProjectedBillboard) : Prop :=
  50 ≤ projected.source.toNat ∧ projected.source.toNat ≤ 76 ∧ projected.filter = .nearest ∧
    projected.screenRect.width.toInt =
      (decorationSize (projected.source.toNat - 46)).width.toNat ∧
    projected.screenRect.height.toInt =
      (decorationSize (projected.source.toNat - 46)).height.toNat

instance (projected : ProjectedBillboard) : Decidable (NativeDecoration projected) :=
  inferInstanceAs (Decidable (_ ∧ _))

theorem lods_sized : ∀ particle ∈ particles, ∀ lod ∈ particle.lods.toList,
    50 ≤ lod.texture.toNat ∧ lod.texture.toNat ≤ 76 ∧
      lod.size = decorationSize (lod.texture.toNat - 46) := by
  decide +kernel

section Projected

variable {sine : SineTable} {camera : CameraPose} {projected : ProjectedBillboard}

theorem placeBillboard_id {billboard : Billboard} {source : SourceSize} {anchor : Anchor}
    (placed : placeBillboard billboard source anchor = .ok projected) :
    projected.id = billboard.id := by
  rw [placeBillboard] at placed
  split at placed
  · cases placed
  · split at placed
    · cases placed
    · cases placed
      rfl

/-- A particle is drawn at the size of one of its levels. -/
theorem placeParticle_sized {particle : Particle} {anchor : Anchor}
    (placed : placeParticle particle anchor = .ok projected) :
    projected.id = particle.id ∧ projected.filter = .nearest ∧ ∃ lod ∈ particle.lods.toList,
      projected.source = lod.texture ∧
        projected.screenRect.width.toInt = lod.size.width.toNat ∧
        projected.screenRect.height.toInt = lod.size.height.toNat := by
  rw [placeParticle] at placed
  split at placed
  · cases placed
  · rename_i lod found
    have wide := lod.size.width.toNat_lt
    have high := lod.size.height.toNat_lt
    dsimp only at placed
    split at placed
    · cases placed
    · split at placed
      · cases placed
      · cases placed
        exact ⟨rfl, rfl, lod, List.mem_of_find?_eq_some found, rfl,
          toInt_ofInt32 ⟨by omega, by omega⟩, toInt_ofInt32 ⟨by omega, by omega⟩⟩

theorem nativeDecoration_of_projected {particle : Particle} (among : particle ∈ particles)
    (drawn : projectParticle sine particle camera = some (.ok projected)) :
    NativeDecoration projected := by
  obtain ⟨-, nearest, lod, level, source, width, height⟩ :=
    placeParticle_sized (projectParticle_ok drawn).2.2
  obtain ⟨low, high, size⟩ := lods_sized particle among lod level
  rw [NativeDecoration, source, width, height, ← size]
  exact ⟨low, high, nearest, rfl, rfl⟩

end Projected

/-! ## What is drawn -/

theorem fits_of_moderate {pose : CylindricalPose} {camera : CameraPose}
    (turned : pose.azimuth.Moderate) (observed : camera.observedAzimuth.Moderate) :
    Fits64 (azimuthDifference pose camera) := by
  obtain ⟨low, high⟩ := turned
  obtain ⟨least, most⟩ := observed
  rw [azimuthDifference, Fits64]
  omega

theorem projectBillboard_isSome {sine : SineTable} {billboard : Billboard} {source : SourceSize}
    {camera : CameraPose} (fits : Fits64 (azimuthDifference billboard.pose camera)) :
    (projectBillboard sine billboard source camera).isSome = true := by
  by_cases empty : source.width = 0 ∨ source.height = 0
  · rw [projectBillboard, if_pos empty]
    rfl
  by_cases accepted : AcceptedRadius billboard.pose
  · rw [projectBillboard_eq empty accepted fits]
    rfl
  · rw [projectBillboard_rejected empty accepted]
    rfl

theorem projectParticle_isSome {sine : SineTable} {particle : Particle} {camera : CameraPose}
    (fits : Fits64 (azimuthDifference particle.pose camera)) :
    (projectParticle sine particle camera).isSome = true := by
  by_cases accepted : AcceptedRadius particle.pose
  · rw [projectParticle_eq accepted fits]
    rfl
  · rw [projectParticle, projectAnchor_rejected accepted]
    rfl

/-- **Nothing overflows** for a camera that is nowhere near the ends of its angle either. -/
theorem projectedEntities_isSome (sine : SineTable) (motion : DemoMotion)
    (availability : Option UInt16) (notice : Bool) (filters : BoardFilters) {camera : CameraPose}
    (observed : camera.observedAzimuth.Moderate) :
    (projectedEntities sine motion availability notice filters camera).isSome = true := by
  have first : ((entities sine motion availability notice filters).mapM
      fun (billboard, source) => projectBillboard sine billboard source camera).isSome = true :=
    Loops.mapM_isSome fun item among => projectBillboard_isSome
      (fits_of_moderate (entities_moderate sine motion availability notice filters item among)
        observed)
  have second : (particles.mapM fun particle =>
      projectParticle sine particle camera).isSome = true :=
    Loops.mapM_isSome fun particle among => projectParticle_isSome
      (fits_of_moderate (particles_moderate particle among) observed)
  obtain ⟨billboards, first⟩ := Option.isSome_iff_exists.mp first
  obtain ⟨specks, second⟩ := Option.isSome_iff_exists.mp second
  rw [projectedEntities, first, second]
  rfl

/-- The entities that are not culled. -/
def visible (outcomes : List (Except ProjectionCull ProjectedBillboard)) :
    List ProjectedBillboard :=
  outcomes.filterMap Except.toOption

/-- What is visible of named things has their names. -/
theorem ids_sublist {α : Type} {key : α → UInt16} {items : List α}
    {outcomes : List (Except ProjectionCull ProjectedBillboard)}
    (named : List.Forall₂ (fun a outcome =>
      ∀ projected, outcome = .ok projected → projected.id = key a) items outcomes) :
    ((visible outcomes).map (·.id)).Sublist (items.map key) := by
  induction named with
  | nil => exact .slnil
  | @cons a outcome items outcomes one _ ih =>
      cases outcome with
      | error cull => exact ih.cons _
      | ok projected =>
          rw [List.map_cons, ← one projected rfl]
          exact ih.cons_cons _

theorem visible_all {α : Type} {drawn : α → Except ProjectionCull ProjectedBillboard → Prop}
    {good : ProjectedBillboard → Prop} {items : List α}
    {outcomes : List (Except ProjectionCull ProjectedBillboard)}
    (each : List.Forall₂ drawn items outcomes)
    (gives : ∀ a ∈ items, ∀ projected, drawn a (.ok projected) → good projected) :
    ∀ projected ∈ visible outcomes, good projected := by
  induction each with
  | nil => exact fun _ none => absurd none List.not_mem_nil
  | @cons a outcome items outcomes one _ ih =>
      have later := ih fun b member => gives b (List.mem_cons_of_mem _ member)
      cases outcome with
      | error cull => exact later
      | ok first =>
          intro projected among
          rcases List.mem_cons.mp among with rfl | rest
          · exact gives a List.mem_cons_self _ one
          · exact later projected rest

section Outcomes

variable {sine : SineTable} {motion : DemoMotion} {availability : Option UInt16} {notice : Bool}
  {filters : BoardFilters} {camera : CameraPose}
  {outcomes : List (Except ProjectionCull ProjectedBillboard)}

variable (ran : projectedEntities sine motion availability notice filters camera = some outcomes)
include ran

/-- Billboards come first, as many as there are, and all others are native decorations. -/
theorem projectedEntities_split :
    ∃ billboards specks, outcomes = billboards ++ specks ∧
      List.Forall₂ (fun entity outcome =>
        projectBillboard sine entity.1 entity.2 camera = some outcome)
        (entities sine motion availability notice filters) billboards ∧
      List.Forall₂ (fun particle outcome =>
        projectParticle sine particle camera = some outcome) particles specks := by
  rw [projectedEntities, Option.bind_eq_bind, Option.bind_eq_some_iff] at ran
  obtain ⟨billboards, first, ran⟩ := ran
  rw [Option.bind_eq_some_iff] at ran
  obtain ⟨specks, second, same⟩ := ran
  cases same
  exact ⟨billboards, specks, rfl, Loops.forall₂_of_mapM first, Loops.forall₂_of_mapM second⟩

/-- **There is room for all entities.** -/
theorem projectedEntities_length : outcomes.length = capacity := by
  obtain ⟨billboards, specks, rfl, first, second⟩ := projectedEntities_split ran
  rw [List.length_append, ← first.length_eq, ← second.length_eq, entities_length,
    particles_length]
  rfl

theorem visible_ids_nodup : ((visible outcomes).map (·.id)).Nodup := by
  obtain ⟨billboards, specks, rfl, first, second⟩ := projectedEntities_split ran
  have ofBillboards : ((visible billboards).map (·.id)).Sublist
      ((entities sine motion availability notice filters).map (·.1.id)) := by
    apply ids_sublist (first.imp fun entity outcome drawn projected ok => ?_)
    subst ok
    exact placeBillboard_id (projectBillboard_ok drawn)
  have ofSpecks : ((visible specks).map (·.id)).Sublist (particles.map (·.id)) := by
    apply ids_sublist (second.imp fun particle outcome drawn projected ok => ?_)
    subst ok
    exact (placeParticle_sized (projectParticle_ok drawn).2.2).1
  rw [visible, List.filterMap_append, List.map_append]
  apply (ofBillboards.append ofSpecks).nodup
  rw [identities_eq]
  exact identities_nodup

/-- At most so many things are drawn that are not native decorations. -/
theorem visible_countP : (visible outcomes).countP (¬NativeDecoration ·) ≤ billboardCount := by
  obtain ⟨billboards, specks, rfl, first, second⟩ := projectedEntities_split ran
  have native : ∀ projected ∈ visible specks, NativeDecoration projected :=
    visible_all second fun _ member _ drawn => nativeDecoration_of_projected member drawn
  have none : (visible specks).countP (¬NativeDecoration ·) = 0 := by
    rw [List.countP_eq_zero]
    intro projected among
    simp [native projected among]
  calc (visible (billboards ++ specks)).countP (¬NativeDecoration ·)
      = (visible billboards).countP (¬NativeDecoration ·) := by
        rw [visible, List.filterMap_append, List.countP_append, ← visible, ← visible, none,
          Nat.add_zero]
    _ ≤ (visible billboards).length := List.countP_le_length
    _ ≤ billboards.length := List.length_filterMap_le _ _
    _ = billboardCount := by rw [← first.length_eq, entities_length]

end Outcomes

end Deskkin.Presentation
