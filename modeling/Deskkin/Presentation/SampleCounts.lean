/-
# Counting samples

A frame that is drawn at once counts its samples with counters that stop at their largest
value. Bands count theirs with plain additions, which come to the same as long as they do
not overflow.
-/

import Deskkin.Presentation.BandFrames

namespace Deskkin.Presentation

open Loops Grid Layers

/-! ## The counters of a frame -/

section Counters

variable {filter : TextureFilter} {samples : ℕ}

theorem count_countBoard {stats : RasterStats} (other : TextureFilter) :
    (countBoard stats filter samples).count other =
      min (stats.count other + if filter = other then samples else 0) Checked.u32Max := by
  cases filter <;> cases other <;> rfl

/-- Saturating additions come to the sums, up to the largest value. -/
theorem count_sceneStats {occlusion : Occlusion} {boards : List SceneBillboard} {index : ℕ}
    {stats : SceneStats} (fits : stats.raster.Fits) :
    (sceneStats occlusion index boards stats).raster.count filter =
      min (stats.raster.count filter + total filter (litItems occlusion Set.univ index boards))
        Checked.u32Max := by
  induction boards generalizing index stats with
  | nil => exact (Nat.min_eq_left (fits filter)).symm
  | cons board boards ih =>
      have everywhere : {place ∈ lit occlusion board index | place ∈ Set.univ} =
          lit occlusion board index := by
        ext place
        exact and_iff_left trivial
      have counted : (stats.addBoard board (lit occlusion board index).ncard).raster.Fits := by
        intro filter
        rw [SceneStats.addBoard, count_countBoard]
        exact Nat.min_le_right _ _
      rw [sceneStats, ih counted, SceneStats.addBoard, count_countBoard, litItems, total_cons,
        everywhere]
      dsimp only
      omega

end Counters

/-! ## Bands and frames -/

/-- No addition overflows, and the bands count what the frame counted. -/
def CountsAgree (checks wire : Bool) (background : Background) (bands : List Band)
    (scene : PreparedScene) (stats : SceneStats) : Prop :=
  (scene.rasterBands true background wire bands).isSome = true ∧
    ∃ after buffers, scene.rasterBands checks background wire bands = some (after, buffers) ∧
      after.stats.raster = stats.raster

/-- **Bands count what a whole frame counts**, exactly when the visible samples of each filter
fit 32 bits. -/
theorem rasterBands_counts_iff (checks wire : Bool) (boards : List SceneBillboard)
    (background : Background) (occlusion frameOcclusion : Occlusion) (room : ℕ)
    (columns : Array ColumnSample) (scene : PreparedScene) (bands : List Band) (stride : ℕ)
    (frame painted : Array UInt16) (stats : SceneStats)
    (drawn : rasterScene stride boards background wire frameOcclusion frame =
      some (.ok stats, painted))
    (prepared : PreparedScene.new boards occlusion room columns = some (.ok scene))
    (sameTile : occlusion.tile = frameOcclusion.tile) (partition : IsPartition bands) :
    CountsAgree checks wire background bands scene stats ↔
      ∀ filter, visibleSamples filter scene.occlusion boards ≤ Checked.u32Max := by
  obtain ⟨wide, fits, short, ordered⟩ := rasterScene_accepted drawn
  obtain ⟨of, zero⟩ := of_prepared short ordered prepared
  have small : scene.stats.raster.Fits := zero ▸ RasterStats.fits_zero
  have unstopped : (scene.rasterBands true background wire bands).isSome = true ↔
      true = false ∨ _ := rasterBands_isSome of zero partition
  constructor
  · rintro ⟨finished, -⟩
    exact (unstopped.mp finished).resolve_left Bool.true_eq_false.mp
  · intro all
    refine ⟨unstopped.mpr (Or.inr all), ?_⟩
    have sums : ∀ filter, scene.stats.raster.count filter + total filter
        (bands.flatMap fun band => litItems scene.occlusion band.target.held 0 boards) =
          visibleSamples filter scene.occlusion boards := by
      intro filter
      rw [total_partition partition, zero, RasterStats.count_zero, Nat.zero_add]
    obtain ⟨raster, added, counts⟩ : Ensures (addAll checks (bands.flatMap fun band =>
        litItems scene.occlusion band.target.held 0 boards) scene.stats.raster) _ :=
      addAll_of_le fun filter => (sums filter).trans_le (all filter)
    rw [rasterBands_eq of small, added]
    refine ⟨_, _, rfl, ?_⟩
    obtain ⟨bandStats, bandPrepared, -⟩ := of.prepared
    obtain ⟨_, ran, state, framePrepared, rfl⟩ : Ensures (rasterScene stride boards background
      wire frameOcclusion frame) _ := rasterScene_spec wide fits short ordered
    rw [drawn] at ran
    cases ran
    obtain ⟨_, again, holds⟩ := frameOcclusion.prepare_spec short
    rw [framePrepared] at again
    cases again
    rw [prepare_congr sameTile, framePrepared] at bandPrepared
    cases bandPrepared
    apply RasterStats.eq_of_count
    intro filter
    have frameZero : bandStats.raster.Fits := holds.raster ▸ RasterStats.fits_zero
    rw [counts, sums, count_sceneStats frameZero, ← visibleSamples, holds.raster,
      RasterStats.count_zero, Nat.zero_add]
    exact (Nat.min_eq_left (all filter)).symm

theorem rasterBands_counts_iff_halves : ∃ scene stats painted,
    rasterScene 320 [tileBoard] ⟨fun _ => #v[1, 2, 3, 4]⟩ true
        ⟨.eight, Array.replicate 1200 0, Array.size_replicate⟩ (Array.replicate 76800 0) =
      some (.ok stats, painted) ∧
    PreparedScene.new [tileBoard] ⟨.eight, Array.replicate 1200 0, Array.size_replicate⟩ 1
        (Array.replicate 320 default) = some (.ok scene) ∧
    (CountsAgree true true ⟨fun _ => #v[1, 2, 3, 4]⟩ [lowerBand, upperBand] scene stats ↔
      ∀ filter, visibleSamples filter scene.occlusion [tileBoard] ≤ Checked.u32Max) := by
  obtain ⟨scene, stats, painted, drawn, ran⟩ := drawn_and_prepared [tileBoard]
    ⟨fun _ => #v[1, 2, 3, 4]⟩ true ⟨.eight, Array.replicate 1200 0, Array.size_replicate⟩
    ⟨.eight, Array.replicate 1200 0, Array.size_replicate⟩ 320 1 (Array.replicate 76800 0)
    (Array.replicate 320 default) (by decide) (by decide) (by decide)
    (by rw [Array.size_replicate]; decide) (by decide) (by rw [Array.size_replicate]; decide)
  exact ⟨scene, stats, painted, drawn, ran, rasterBands_counts_iff true true [tileBoard] _ _ _ 1 _
    scene _ 320 _ _ _ drawn ran rfl isPartition_halves⟩

/-- With 55925 hazy boards the frame has its counts, and the bands overflow. -/
theorem rasterBands_overflows : ∃ scene stats painted,
    rasterScene 320 (List.replicate 55925 hazyBoard) ⟨fun _ => #v[0, 0, 0, 0]⟩ false
        ⟨.eight, Array.replicate 1200 0, Array.size_replicate⟩ (Array.replicate 76800 0) =
      some (.ok stats, painted) ∧
    PreparedScene.new (List.replicate 55925 hazyBoard)
        ⟨.eight, Array.replicate 1200 0, Array.size_replicate⟩ 55925
        (Array.replicate (55925 * viewportWidth) default) = some (.ok scene) ∧
    IsPartition [wholeBand] ∧
    ∀ checks, ¬CountsAgree checks false ⟨fun _ => #v[0, 0, 0, 0]⟩ [wholeBand] scene stats := by
  obtain ⟨scene, stats, painted, drawn, ran, exceeds⟩ := hazy_exceeds
  obtain ⟨-, -, short, ordered⟩ := rasterScene_accepted drawn
  obtain ⟨of, zero⟩ := of_prepared short ordered ran
  refine ⟨scene, stats, painted, drawn, ran, isPartition_whole, ?_⟩
  rintro checks ⟨finished, -⟩
  rcases (rasterBands_isSome of zero isPartition_whole).mp finished with absurdity | fits
  · cases absurdity
  · exact absurd (fits .nearest) (Nat.not_le_of_lt exceeds)

end Deskkin.Presentation
