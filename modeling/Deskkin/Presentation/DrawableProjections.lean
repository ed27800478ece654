/-
# Drawable projections

A rectangle that is projected should cover some pixel of the viewport and have the
proportions of its texture. The width of a billboard is narrowed to 32 bits after the division
by the height of its source, so that this holds of widths that are positive and fit.
-/

import Deskkin.Presentation.Billboards
import Deskkin.Presentation.Projection

namespace Deskkin.Presentation

open Signed

/-- Some pixel of the viewport is in the rectangle. -/
def ScreenRect.MeetsViewport (rect : ScreenRect) : Prop :=
  ∃ y x : ℕ, y < viewportHeight ∧ x < viewportWidth ∧
    rect.y.toInt ≤ y ∧ y < rect.y.toInt + rect.height.toInt ∧
    rect.x.toInt ≤ x ∧ x < rect.x.toInt + rect.width.toInt

structure Drawable (projected : ProjectedBillboard) : Prop where
  width_pos : 0 < projected.screenRect.width.toInt
  height_pos : 0 < projected.screenRect.height.toInt
  visible : projected.screenRect.MeetsViewport

/-- The width is the height in the proportions of the source, rounded down. -/
def KeepsAspect (source : SourceSize) (rect : ScreenRect) : Prop :=
  rect.width.toInt = rect.height.toInt * source.width.toNat / source.height.toNat

def AcceptedWithTextures (projected : ProjectedBillboard) : Prop :=
  ∀ texture region, validateTexture texture region = .ok () →
    ∃ board, SceneBillboard.new projected texture region = .ok board

/-- Nothing overflows, and what is returned can be drawn. -/
def ProjectsDrawably (sine : SineTable) (billboard : Billboard) (source : SourceSize)
    (camera : CameraPose) : Prop :=
  ∃ outcome, projectBillboard sine billboard source camera = some outcome ∧
    ∀ projected, outcome = .ok projected → Drawable projected ∧
      KeepsAspect source projected.screenRect ∧ AcceptedWithTextures projected

/-- The anchor has a board with a width that fits, or no board at all. -/
def WidthFits (billboard : Billboard) (source : SourceSize) (anchor : Anchor) : Prop :=
  let height := exactHeight billboard.worldHeight anchor.depth
  let width := exactWidth height source
  height ≤ 0 ∨ 1 ≤ width ∧ width < 2 ^ 31 ∨
    Outside (anchor.centerX - (narrow32 width).tdiv 2) (anchor.centerY - height.tdiv 2)
      (narrow32 width) height

instance (billboard : Billboard) (source : SourceSize) (anchor : Anchor) :
    Decidable (WidthFits billboard source anchor) :=
  inferInstanceAs (Decidable (_ ∨ _))

/-! ## Rectangles -/

theorem Drawable.accepted {projected : ProjectedBillboard} (drawable : Drawable projected) :
    AcceptedWithTextures projected := by
  intro texture region valid
  cases checked : SceneBillboard.new projected texture region with
  | ok board => exact ⟨board, rfl⟩
  | error error =>
      have width := drawable.width_pos
      have height := drawable.height_pos
      rcases SceneBillboard.new_eq_error checked with invalid | ⟨-, -, empty⟩
      · rw [valid] at invalid
        cases invalid
      · omega

/-- What is not outside covers a pixel. -/
theorem drawable_of_not_outside {x y width height : ℤ} {id source : UInt16} {depth : Int32}
    {filter : TextureFilter} (widthPos : 0 < width) (heightPos : 0 < height)
    (left : Fits32 x) (right : Fits32 (x + width)) (top : Fits32 y) (bottom : Fits32 (y + height))
    (widthFits : Fits32 width) (heightFits : Fits32 height)
    (inside : ¬Outside x y width height) :
    Drawable ⟨id, ⟨.ofInt x, .ofInt y, .ofInt width, .ofInt height⟩, depth, source, filter⟩ := by
  rw [outside_iff right bottom] at inside
  refine ⟨?_, ?_, y.toNat, x.toNat, ?_⟩
  · rwa [toInt_ofInt32 widthFits]
  · rwa [toInt_ofInt32 heightFits]
  · rw [toInt_ofInt32 widthFits, toInt_ofInt32 heightFits, toInt_ofInt32 left, toInt_ofInt32 top]
    rw [viewportWidth, viewportHeight]
    omega

/-! ## Billboards -/

section Project

variable {sine : SineTable} {billboard : Billboard} {source : SourceSize} {anchor : Anchor}

/-- **A board is drawable exactly where its width fits.** -/
theorem placeBillboard_drawable_iff (far : 16384 ≤ anchor.depth)
    (columns : -1888 ≤ anchor.centerX ∧ anchor.centerX ≤ 2208)
    (rows : -20971400 ≤ anchor.centerY ∧ anchor.centerY ≤ 20971640) :
    (∀ projected, placeBillboard billboard source anchor = .ok projected → Drawable projected ∧
      KeepsAspect source projected.screenRect ∧ AcceptedWithTextures projected) ↔
    WidthFits billboard source anchor := by
  have bounded := projected_bounded (fits32_toInt billboard.worldHeight) far
  rw [← exactHeight] at bounded
  rw [placeBillboard, WidthFits]
  generalize exactHeight billboard.worldHeight anchor.depth = height at *
  have heightFits : Fits32 height := ⟨by omega, by omega⟩
  have widthFits := fits32_narrow32 (exactWidth height source)
  obtain ⟨left, right⟩ := centered_fits anchor.centerX (by omega) (by omega) widthFits
  obtain ⟨top, bottom⟩ := centered_fits anchor.centerY (by omega) (by omega) heightFits
  by_cases empty : height ≤ 0
  · simp [empty]
  rw [if_neg empty]
  by_cases outside : Outside (anchor.centerX - (narrow32 (exactWidth height source)).tdiv 2)
      (anchor.centerY - height.tdiv 2) (narrow32 (exactWidth height source)) height
  · simp [outside]
  rw [if_neg outside]
  have exact : exactWidth height source = height * source.width.toNat / source.height.toNat :=
    Int.tdiv_eq_ediv_of_nonneg (Int.mul_nonneg (by omega) (Int.natCast_nonneg _))
  constructor
  · intro good
    obtain ⟨drawable, aspect, -⟩ := good _ rfl
    have positive := drawable.width_pos
    rw [KeepsAspect, toInt_ofInt32 widthFits, toInt_ofInt32 heightFits, ← exact] at aspect
    rw [toInt_ofInt32 widthFits] at positive
    exact Or.inr (Or.inl ⟨by omega, aspect ▸ widthFits.2⟩)
  · rintro (none | ⟨low, high⟩ | hidden) projected placed
    · exact absurd none empty
    · cases placed
      have kept : narrow32 (exactWidth height source) = exactWidth height source :=
        narrow32_of_fits ⟨by omega, high⟩
      have drawable : Drawable ⟨billboard.id, ⟨.ofInt _, .ofInt _, .ofInt _, .ofInt _⟩,
          .ofInt anchor.depth, billboard.textureId, billboard.filter⟩ :=
        drawable_of_not_outside (by omega) (by omega) left right top bottom widthFits heightFits
          outside
      refine ⟨drawable, ?_, drawable.accepted⟩
      rw [KeepsAspect, toInt_ofInt32 widthFits, toInt_ofInt32 heightFits, kept, exact]
    · exact absurd hidden outside

theorem placeParticle_drawable {particle : Particle} {projected : ProjectedBillboard}
    (columns : -1888 ≤ anchor.centerX ∧ anchor.centerX ≤ 2208)
    (rows : -20971400 ≤ anchor.centerY ∧ anchor.centerY ≤ 20971640)
    (placed : placeParticle particle anchor = .ok projected) : Drawable projected := by
  rw [placeParticle] at placed
  split at placed
  · cases placed
  · rename_i lod _
    have wide := lod.size.width.toNat_lt
    have high := lod.size.height.toNat_lt
    dsimp only at placed
    split at placed
    · cases placed
    · rename_i nonempty
      rw [not_or, ← UInt16.toNat_inj, ← UInt16.toNat_inj, UInt16.toNat_zero] at nonempty
      split at placed
      · cases placed
      · rename_i inside
        cases placed
        exact drawable_of_not_outside (by omega) (by omega) ⟨by omega, by omega⟩
          ⟨by omega, by omega⟩ ⟨by omega, by omega⟩ ⟨by omega, by omega⟩ ⟨by omega, by omega⟩
          ⟨by omega, by omega⟩ inside

end Project

/-! ## Everything that is projected -/

/-- The source is empty, or the radius is rejected, or the angles are near enough and there is
no board or one with a width that fits. -/
def ProjectsWithin (sine : SineTable) (billboard : Billboard) (source : SourceSize)
    (camera : CameraPose) : Prop :=
  source.width = 0 ∨ source.height = 0 ∨ ¬AcceptedRadius billboard.pose ∨
    Fits64 (azimuthDifference billboard.pose camera) ∧
      (exactDepth sine billboard.pose camera < WorldUnit.ratio 1 4 ∨
        WidthFits billboard source (exactAnchor sine billboard.pose camera))

section Project

variable {sine : SineTable} {billboard : Billboard} {source : SourceSize} {camera : CameraPose}

theorem projectsDrawably_of_error {cull : ProjectionCull}
    (culled : projectBillboard sine billboard source camera = some (.error cull)) :
    ProjectsDrawably sine billboard source camera :=
  ⟨_, culled, nofun⟩

/-- **Billboards are projected drawably exactly there.** -/
theorem projectsDrawably_iff :
    ProjectsDrawably sine billboard source camera ↔
      ProjectsWithin sine billboard source camera := by
  rw [ProjectsWithin, ← or_assoc]
  by_cases empty : source.width = 0 ∨ source.height = 0
  · exact iff_of_true (projectsDrawably_of_error (if_pos empty)) (Or.inl empty)
  rw [or_iff_right empty]
  by_cases accepted : AcceptedRadius billboard.pose
  · rw [or_iff_right (not_not_intro accepted)]
    by_cases fits : Fits64 (azimuthDifference billboard.pose camera)
    · have projected : projectBillboard sine billboard source camera = _ :=
        projectBillboard_eq empty accepted fits
      by_cases near : exactDepth sine billboard.pose camera < WorldUnit.ratio 1 4
      · rw [if_pos near] at projected
        exact iff_of_true (projectsDrawably_of_error projected) ⟨fits, Or.inl near⟩
      · have far := far_of_not_near near
        obtain ⟨columns, rows⟩ := exactAnchor_bounded accepted far
        rw [if_neg near] at projected
        rw [and_iff_right fits, or_iff_right near, ← placeBillboard_drawable_iff far columns rows,
          ProjectsDrawably, projected]
        simp only [Option.some.injEq, exists_eq_left']
    · refine iff_of_false ?_ fun within => fits within.1
      rintro ⟨outcome, projected, -⟩
      rw [projectBillboard, if_neg empty, projectAnchor_overflows accepted fits] at projected
      cases projected
  · exact iff_of_true (projectsDrawably_of_error (projectBillboard_rejected empty accepted))
      (Or.inl accepted)

theorem projectParticle_drawable {particle : Particle} {projected : ProjectedBillboard}
    (drawn : projectParticle sine particle camera = some (.ok projected)) :
    Drawable projected := by
  obtain ⟨accepted, far, placed⟩ := projectParticle_ok drawn
  obtain ⟨columns, rows⟩ := exactAnchor_bounded accepted far
  exact placeParticle_drawable columns rows placed

theorem projectParticle_eq_none {particle : Particle} :
    projectParticle sine particle camera = none ↔
      AcceptedRadius particle.pose ∧ ¬Fits64 (azimuthDifference particle.pose camera) := by
  by_cases accepted : AcceptedRadius particle.pose
  · rw [and_iff_right accepted]
    by_cases fits : Fits64 (azimuthDifference particle.pose camera)
    · rw [projectParticle_eq accepted fits]
      exact iff_of_false (Option.some_ne_none _) (not_not_intro fits)
    · refine iff_of_true ?_ fits
      rw [projectParticle, projectAnchor_overflows accepted fits]
      rfl
  · refine iff_of_false ?_ fun both => accepted both.1
    rw [projectParticle, projectAnchor_rejected accepted]
    exact Option.some_ne_none _

end Project

/-- **Projected rectangles are drawable** where the azimuths differ by less than `i64` holds and
widths fit; rectangles of particles always are. -/
theorem projections_drawable_iff (sine : SineTable) :
    (∀ billboard source camera, ProjectsDrawably sine billboard source camera ↔
      ProjectsWithin sine billboard source camera) ∧
    ∀ particle camera,
      (projectParticle sine particle camera = none ↔
        AcceptedRadius particle.pose ∧ ¬Fits64 (azimuthDifference particle.pose camera)) ∧
      ∀ projected, projectParticle sine particle camera = some (.ok projected) →
        Drawable projected :=
  ⟨fun _ _ _ => projectsDrawably_iff,
    fun _ _ => ⟨projectParticle_eq_none, fun _ => projectParticle_drawable⟩⟩

/-! ## Where it fails -/

/-- A board of one world unit in the center. -/
def centeredBoard (azimuth : Int64) : Billboard := ⟨1, ⟨0, ⟨azimuth⟩, 0⟩, 65536, 1, .nearest⟩

/-- Two world units from the center. -/
def distantCamera (observed : Int64) : CameraPose := ⟨131072, ⟨observed⟩, 0⟩

/-- A texture of one column has no width on the screen, and angles that are too far apart
overflow. -/
theorem projections_not_drawable :
    (¬∃ sine, ProjectsDrawably sine (centeredBoard 0) ⟨1, 65535⟩ (distantCamera 0)) ∧
    ¬∃ sine, ProjectsDrawably sine (centeredBoard Int64.maxValue) ⟨1, 1⟩ (distantCamera (-1)) := by
  constructor
  · rintro ⟨sine, drawable⟩
    have depth : exactDepth sine (centeredBoard 0).pose (distantCamera 0) = 131072 := by
      rw [exactDepth, axial, show (centeredBoard 0).pose.radius.toInt = 0 from rfl, Int.zero_mul]
      decide
    have anchor : exactAnchor sine (centeredBoard 0).pose (distantCamera 0) =
        ⟨160, 120, 131072⟩ := by
      rw [exactAnchor, depth, lateral, show (centeredBoard 0).pose.radius.toInt = 0 from rfl,
        Int.zero_mul]
      decide
    rw [projectsDrawably_iff, ProjectsWithin, depth, anchor] at drawable
    revert drawable
    decide
  · rintro ⟨sine, outcome, projected, -⟩
    rw [projectBillboard, if_neg (by decide),
      projectAnchor_overflows (by decide) (by decide)] at projected
    cases projected

end Deskkin.Presentation
