/-
# Wire order is a representation

A scene may be drawn with the bytes of every word swapped. The words that come of it are
the swapped ones of the scene that is drawn natively onto the swapped words, and the
statistics are the same.
-/

import Deskkin.Presentation.DirectSampling

namespace Deskkin.Presentation

open Loops Grid Layers

section Pixels

variable {projected : ProjectedBillboard} {texture : Texture} {region : TextureRegion} {y x : ℕ}

theorem blended_swapped (color : UInt16) (a : ℕ) (dst : UInt16) :
    blended true color a (wireOrder true dst) = wireOrder true (blended false color a dst) := by
  rw [blended, blended, wireOrder_wireOrder, wireOrder_false, wireOrder_false]

/-- A pixel reads and writes the words in the same order. -/
theorem directPixel_swapped (dst : UInt16) :
    directPixel projected texture region true y x (wireOrder true dst) =
      wireOrder true (directPixel projected texture region false y x dst) := by
  rw [directPixel, directPixel]
  cases projected.filter with
  | nearest => exact blended_swapped _ _ dst
  | bilinear =>
      simp only [wireOrder_wireOrder, wireOrder_false]

theorem layer_swapped (board : SceneBillboard) (place : ℕ × ℕ) (dst : UInt16) :
    layer true board place (wireOrder true dst) = wireOrder true (layer false board place dst) := by
  by_cases inside : place ∈ board.area
  · rw [layer, layer, restrict_of_mem inside, restrict_of_mem inside,
      SceneBillboard.drawing_eq_direct inside, SceneBillboard.drawing_eq_direct inside,
      directPixel_swapped]
  · rw [layer, layer, restrict_of_notMem inside, restrict_of_notMem inside]

end Pixels

section Scene

variable {boards : List SceneBillboard} {background : Background} {occlusion : Occlusion}
  {opaqueTiles stride : ℕ} {pixels : Array UInt16}

theorem sceneDrawing_swapped (y x : ℕ) (dst : UInt16) :
    sceneDrawing occlusion opaqueTiles boards background true y x (wireOrder true dst) =
      wireOrder true (sceneDrawing occlusion opaqueTiles boards background false y x dst) := by
  have ground : restrict {place ∈ block 0 viewportHeight 0 viewportWidth |
      opaqueTiles = 0 ∨ occlusion.cutoffAt place.1 place.2 = 0} (background.drawing true) y x
        (wireOrder true dst) =
      wireOrder true (restrict {place ∈ block 0 viewportHeight 0 viewportWidth |
        opaqueTiles = 0 ∨ occlusion.cutoffAt place.1 place.2 = 0} (background.drawing false) y x
          dst) := by
    by_cases inside : (y, x) ∈ {place ∈ block 0 viewportHeight 0 viewportWidth |
        opaqueTiles = 0 ∨ occlusion.cutoffAt place.1 place.2 = 0}
    · rw [restrict_of_mem inside, restrict_of_mem inside]
      rfl
    · rw [restrict_of_notMem inside, restrict_of_notMem inside]
  rw [sceneDrawing, sceneDrawing, ground]
  apply paint_culled_conj
  rw [List.forall₂_map_left_iff, List.forall₂_map_right_iff, List.forall₂_same]
  exact fun board _ => layer_swapped board (y, x)

theorem shade_swapped {native swapped : Drawing UInt16}
    (agree : ∀ y x dst, swapped y x (wireOrder true dst) = wireOrder true (native y x dst)) :
    shade 0 stride swapped (pixels.map (wireOrder true)) =
      (shade 0 stride native pixels).map (wireOrder true) := by
  apply Array.ext_getElem?
  intro i
  rw [getElem?_shade, Array.getElem?_map, Array.getElem?_map, getElem?_shade]
  cases pixels[i]? with
  | none => rfl
  | some word => simp only [Option.map_some, agree]

end Scene

/-- **Wire order is only a representation.** For every list of boards and every buffer, the
scene in wire order onto swapped words is the swapped scene, with the same statistics. -/
theorem rasterScene_swapped (stride : ℕ) (boards : List SceneBillboard) (background : Background)
    (occlusion : Occlusion) (pixels : Array UInt16) :
    rasterScene stride boards background true occlusion (pixels.map (wireOrder true)) =
      (rasterScene stride boards background false occlusion pixels).map fun (outcome, painted) =>
        (outcome, painted.map (wireOrder true)) := by
  rw [rasterScene_eq, rasterScene_eq, Array.size_map]
  cases sceneRejection stride boards pixels.size with
  | some error => rfl
  | none =>
      cases occlusion.prepare boards {} with
      | none => rfl
      | some state =>
          dsimp only
          rw [Option.map_some, Option.map_some, Option.map_some, shade_swapped sceneDrawing_swapped]

end Deskkin.Presentation
