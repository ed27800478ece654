/-
# Scenes that look alike

Boards whose textures are alike may stand for one another in a scene. The cutoffs, the
statistics and every word come out the same, whether the frame is drawn at once or in
bands.
-/

import Deskkin.Presentation.AlikeTextures

namespace Deskkin.Presentation

open Loops Grid Layers

/-- Prepare a scene and draw bands of it: the statistics and the buffers. -/
def renderBands (checks wire : Bool) (boards : List SceneBillboard) (background : Background)
    (occlusion : Occlusion) (room : ℕ) (columns : Array ColumnSample) (bands : List Band) :
    Option (Except RasterError (SceneStats × List (Array UInt16))) := do
  let prepared ← PreparedScene.new boards occlusion room columns
  match prepared with
  | .error error => return .error error
  | .ok scene => do
      let (after, buffers) ← scene.rasterBands checks background wire bands
      return .ok (after.stats, buffers)

/-- The prepared scene with other boards. -/
def PreparedScene.withBoards (boards : List SceneBillboard) :
    Except RasterError PreparedScene → Except RasterError PreparedScene
  | .error error => .error error
  | .ok scene => .ok { scene with boards := boards }

/-- Scenes are prepared for boards in order. -/
theorem accepted_of_prepared {boards : List SceneBillboard} {occlusion : Occlusion} {room : ℕ}
    {columns : Array ColumnSample} {scene : PreparedScene}
    (prepared : PreparedScene.new boards occlusion room columns = some (.ok scene)) :
    boards.length ≤ Checked.u16Max ∧ inOrder boards = true := by
  rw [PreparedScene.new] at prepared
  split at prepared
  · cases prepared
  · rename_i accepted
    rw [not_or, Bool.not_eq_true, Bool.not_eq_false'] at accepted
    exact ⟨Nat.le_of_not_lt accepted.1, accepted.2⟩

section Scenes

variable {a b : SceneBillboard} {boards others : List SceneBillboard} {occlusion : Occlusion}
  {background : Background} {wire checks : Bool} {index stride room : ℕ}
  {columns : Array ColumnSample} {pixels : Array UInt16} {bands : List Band}

namespace AlikeBoard

theorem native (alike : AlikeBoard a b) : a.native = b.native := by
  rw [SceneBillboard.native, SceneBillboard.native, alike.projected, alike.region]

theorem lit (alike : AlikeBoard a b) :
    Presentation.lit occlusion a index = Presentation.lit occlusion b index := by
  rw [Presentation.lit, Presentation.lit, alike.area]

theorem addBoard (alike : AlikeBoard a b) (stats : SceneStats) (samples : ℕ) :
    stats.addBoard a samples = stats.addBoard b samples := by
  rw [SceneStats.addBoard, SceneStats.addBoard, alike.projected, alike.native]

theorem prepareBoard (alike : AlikeBoard a b) (tile : ScreenTile) :
    Occlusion.prepareBoard tile a index = Occlusion.prepareBoard tile b index := by
  have occluder : Occlusion.occluder a = Occlusion.occluder b := by
    rw [Occlusion.occluder, Occlusion.occluder, alike.texture.blocks, alike.projected]
  funext state
  rw [Occlusion.prepareBoard, Occlusion.prepareBoard, occluder, alike.projected, alike.region]

theorem prepareEntry (alike : AlikeBoard a b) :
    PreparedScene.prepareEntry occlusion a index =
      PreparedScene.prepareEntry occlusion b index := by
  funext state
  cases state with
  | error error => rfl
  | ok state =>
      rw [PreparedScene.prepareEntry, PreparedScene.prepareEntry, alike.projected, alike.region]

end AlikeBoard

variable (alike : List.Forall₂ AlikeBoard boards others)

include alike

theorem projected_alike :
    boards.map SceneBillboard.projected = others.map SceneBillboard.projected := by
  induction alike with
  | nil => rfl
  | cons same _ ih => rw [List.map_cons, List.map_cons, same.projected, ih]

theorem inOrder_alike : inOrder boards = inOrder others := by
  have byProjected : ∀ boards : List SceneBillboard, inOrder boards =
      ((boards.map SceneBillboard.projected).zip
        (boards.map SceneBillboard.projected).tail).all fun (a, b) =>
          !(a.depth < b.depth || (a.depth == b.depth && a.id > b.id)) := by
    intro boards
    rw [← List.map_tail, List.zip_map, List.all_map]
    rfl
  rw [byProjected, byProjected, projected_alike alike]

theorem zipIdx_alike : List.Forall₂ (fun (pair : SceneBillboard × ℕ) other =>
    AlikeBoard pair.1 other.1 ∧ pair.2 = other.2) (boards.zipIdx index) (others.zipIdx index) := by
  induction alike generalizing index with
  | nil => exact .nil
  | cons same _ ih => exact .cons ⟨same, rfl⟩ ih

theorem prepare_alike (stats : SceneStats) :
    occlusion.prepare boards stats = occlusion.prepare others stats := by
  apply forEach_congr
  apply (List.rel_reverse (zipIdx_alike alike)).imp
  rintro ⟨a, k⟩ ⟨b, _⟩ ⟨same, rfl⟩ _ state
  exact congrFun (same.prepareBoard occlusion.tile) state

theorem sceneRejection_alike (words : ℕ) :
    sceneRejection stride boards words = sceneRejection stride others words := by
  rw [sceneRejection, sceneRejection, alike.length_eq, inOrder_alike alike]

theorem sceneStats_alike (stats : SceneStats) :
    sceneStats occlusion index boards stats = sceneStats occlusion index others stats := by
  induction alike generalizing index stats with
  | nil => rfl
  | cons same _ ih => rw [sceneStats, sceneStats, same.lit, same.addBoard, ih]

theorem layers_alike : boards.map (layer wire) = others.map (layer wire) := by
  induction alike with
  | nil => rfl
  | cons same _ ih => rw [List.map_cons, List.map_cons, same.layer_eq, ih]

theorem litItems_alike (region : Set (ℕ × ℕ)) :
    litItems occlusion region index boards = litItems occlusion region index others := by
  induction alike generalizing index with
  | nil => rfl
  | cons same _ ih => rw [litItems, litItems, same.lit, same.projected, ih]

theorem sceneDrawing_alike (opaqueTiles : ℕ) :
    sceneDrawing occlusion opaqueTiles boards background wire =
      sceneDrawing occlusion opaqueTiles others background wire := by
  funext y x word
  rw [sceneDrawing, sceneDrawing, layers_alike alike]

/-- **Boards that are alike make the same scene**, with the same statistics. -/
theorem rasterScene_alike : rasterScene stride boards background wire occlusion pixels =
    rasterScene stride others background wire occlusion pixels := by
  rw [rasterScene_eq, rasterScene_eq, sceneRejection_alike alike, prepare_alike alike]
  simp only [sceneStats_alike alike, sceneDrawing_alike alike]

theorem preparedScene_alike : PreparedScene.new others occlusion room columns =
    (PreparedScene.new boards occlusion room columns).map (PreparedScene.withBoards others) := by
  rw [PreparedScene.new, PreparedScene.new, ← alike.length_eq, ← inOrder_alike alike]
  split
  · rfl
  · split
    · rfl
    · rw [← prepare_alike alike]
      cases occlusion.prepare boards {} with
      | none => rfl
      | some state =>
          have entries : forEach (PreparedScene.prepareEntry state.1) 0 boards
              (.ok ⟨[], columns, 0, state.2⟩) = forEach (PreparedScene.prepareEntry state.1) 0
                others (.ok ⟨[], columns, 0, state.2⟩) := by
            apply forEach_congr
            apply alike.imp
            intro a b same k entry
            exact congrFun same.prepareEntry entry
          simp only [Option.bind_eq_bind, Option.bind_some, ← entries]
          cases forEach (PreparedScene.prepareEntry state.1) 0 boards
              (.ok ⟨[], columns, 0, state.2⟩) with
          | none => rfl
          | some result => cases result <;> rfl

/-- **Boards that are alike make the same bands**, with the same statistics. -/
theorem renderBands_alike :
    renderBands checks wire boards background occlusion room columns bands =
      renderBands checks wire others background occlusion room columns bands := by
  rw [renderBands, renderBands, preparedScene_alike alike]
  cases prepared : PreparedScene.new boards occlusion room columns with
  | none => rfl
  | some result =>
      cases result with
      | error error => rfl
      | ok scene =>
          obtain ⟨short, ordered⟩ := accepted_of_prepared prepared
          obtain ⟨of, zero⟩ := of_prepared short ordered prepared
          have again : PreparedScene.new others occlusion room columns =
              some (.ok { scene with boards := others }) := by
            rw [preparedScene_alike alike, prepared]
            rfl
          obtain ⟨ofOthers, -⟩ := of_prepared (alike.length_eq ▸ short)
            ((inOrder_alike alike).symm.trans ordered) again
          have small : scene.stats.raster.Fits := zero ▸ RasterStats.fits_zero
          have bandsOf : scene.rasterBands checks background wire bands = _ :=
            rasterBands_eq of small
          have bandsOfOthers : PreparedScene.rasterBands checks background wire bands
              { scene with boards := others } = _ := rasterBands_eq ofOthers small
          show (scene.rasterBands checks background wire bands >>= _) =
            (PreparedScene.rasterBands checks background wire bands
              { scene with boards := others } >>= _)
          rw [bandsOf, bandsOfOthers]
          simp only [litItems_alike alike, sceneDrawing_alike alike]
          cases addAll checks (bands.flatMap fun band =>
              litItems scene.occlusion band.target.held 0 others) scene.stats.raster with
          | none => rfl
          | some raster => rfl

end Scenes

end Deskkin.Presentation
