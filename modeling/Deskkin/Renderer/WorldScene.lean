/-
# The scene of the renderer

A frame projects all entities, keeps those that are not culled in storage for as many as there
are, sorts them and finds the texture of each. The scratch has columns for as many boards
across the whole screen as the world has billboards. Particles are drawn at the size of their
textures and need none.
-/

import Deskkin.Lib.Fallible
import Deskkin.Presentation.Billboards
import Deskkin.Presentation.DemoWorld
import Deskkin.Presentation.PreparedRows
import Deskkin.Renderer.BandBuffer
import Deskkin.Renderer.MipChain

namespace Deskkin.Renderer

open Presentation Loops

def petFrameWidth : UInt16 := 144

def petFrameHeight : UInt16 := 156

structure DecodedLoop where
  pixels : Array UInt16
  coverage : PreparedCoverage
  stride : UInt16

structure BillboardTexture where
  size : SourceSize
  pixels : Array UInt16
  mips : List MipLevel

structure DecorationTexture where
  size : SourceSize
  pixels : Array UInt16
  coverage : PreparedCoverage

/-- Decorations have their sizes from the beginning; the rest is captured when it is needed. -/
structure WorldTextures where
  availability : Vector (Option BillboardTexture) 3
  notice : Option BillboardTexture
  demo : Vector (Option BillboardTexture) 3
  decorations : List DecorationTexture
  sized : decorations.map (·.size) = (List.range decorationTextureCount).map decorationSize

/-! ## Textures -/

/-- A decoration with rows of a multiple of sixteen texels. -/
def newDecoration (decorationPixel : ℕ → UInt16 → UInt16 → UInt16 × UInt8) (index : ℕ) :
    Option DecorationTexture := do
  let size := decorationSize index
  let stride ← rowStride size.width
  let length := stride.toNat * size.height.toNat
  let sample (i : ℕ) : UInt16 × UInt8 :=
    let x := UInt16.ofNat (i % stride.toNat)
    let y := UInt16.ofNat (i / stride.toNat)
    if x < size.width then decorationPixel index x y else (0, 0)
  let pixels ← Plane.fromFn 8 length fun i => (sample i).1
  let alpha ← Plane.fromFn 16 length fun i => (sample i).2
  let coverage ← PreparedCoverage.new ⟨stride, size.height⟩ alpha
  return ⟨size, pixels, coverage⟩

variable {decorationPixel : ℕ → UInt16 → UInt16 → UInt16 × UInt8}

theorem newDecoration_size {index : ℕ} {decoration : DecorationTexture}
    (made : newDecoration decorationPixel index = some decoration) :
    decoration.size = decorationSize index := by
  simp only [newDecoration, Option.bind_eq_bind, Option.bind_eq_some_iff] at made
  obtain ⟨_, _, _, _, _, _, _, _, same⟩ := made
  cases same
  rfl

theorem sized_of_mapM {decorations : List DecorationTexture}
    (made : (List.range decorationTextureCount).mapM (newDecoration decorationPixel) =
      some decorations) :
    decorations.map (·.size) = (List.range decorationTextureCount).map decorationSize := by
  have each := forall₂_of_mapM made
  clear made
  generalize List.range decorationTextureCount = indices at each
  induction each with
  | nil => rfl
  | cons one _ ih => rw [List.map_cons, List.map_cons, newDecoration_size one, ih]

/-- The pixels of the decorations are a parameter. -/
def newWorldTextures (decorationPixel : ℕ → UInt16 → UInt16 → UInt16 × UInt8) :
    Option WorldTextures :=
  match made : (List.range decorationTextureCount).mapM (newDecoration decorationPixel) with
  | none => none
  | some decorations =>
      some ⟨#v[none, none, none], none, #v[none, none, none], decorations, sized_of_mapM made⟩

/-- The texture of a board, the size of its picture, and reduced ones if there are any. -/
def pictureOf (source : ℕ) (decoded : DecodedLoop) (textures : WorldTextures) :
    Option (Except RendererFault (Texture × SourceSize × Option (List MipLevel))) :=
  let captured : Option BillboardTexture →
      Option (Except RendererFault (Texture × SourceSize × Option (List MipLevel)))
    | none => some (.error .renderSkipped)
    | some texture => do
        let stride ← rowStride texture.size.width
        return .ok (⟨⟨stride, texture.size.height⟩, texture.pixels, .fullyOpaque⟩, texture.size,
          some texture.mips)
  if source = 1 then do
    let coverage ← decoded.coverage.borrow
    return .ok (⟨⟨decoded.stride, petFrameHeight⟩, decoded.pixels, coverage⟩,
      ⟨petFrameWidth, petFrameHeight⟩, none)
  else if 30 ≤ source ∧ source ≤ 33 ∨ 50 ≤ source ∧ source ≤ 76 then do
    let texture ← textures.decorations[if source < 50 then source - 30 else source - 46]?
    let stride ← rowStride texture.size.width
    let coverage ← texture.coverage.borrow
    return .ok (⟨⟨stride, texture.size.height⟩, texture.pixels, coverage⟩, texture.size, none)
  else if 10 ≤ source ∧ source ≤ 12 then do captured (← textures.availability[source - 10]?)
  else if source = 20 then captured textures.notice
  else if 40 ≤ source ∧ source ≤ 42 then do captured (← textures.demo[source - 40]?)
  else some (.error .renderSkipped)

def regionOf (source : ℕ) (frameIndex : UInt8) (decoded : DecodedLoop) (size : SourceSize)
    (texture : Texture) : TextureRegion :=
  if source = 1 then
    ⟨frameIndex.toUInt16 * petFrameWidth, 0, petFrameWidth, petFrameHeight, decoded.stride⟩
  else ⟨0, 0, size.width, size.height, texture.size.width⟩

/-- The reduced texture for the rectangle, where there are any. -/
def selected (rect : ScreenRect) (texture : Texture) (region : TextureRegion) :
    Option (List MipLevel) → Option (Texture × TextureRegion)
  | none => some (texture, region)
  | some mips => MipChain.select rect texture region mips

def worldBillboard (value : ProjectedBillboard) (decoded : DecodedLoop) (frameIndex : UInt8)
    (textures : WorldTextures) : Option (Except RendererFault SceneBillboard) := do
  match ← pictureOf value.source.toNat decoded textures with
  | .error fault => return .error fault
  | .ok (texture, size, mips) =>
      let region := regionOf value.source.toNat frameIndex decoded size texture
      let (texture, region) ← selected value.screenRect texture region mips
      let mipSelected := region.width != size.width || region.height != size.height
      let value := { value with filter := value.resolvedFilter mipSelected }
      return (SceneBillboard.new value texture region).mapError fun _ => .renderSkipped

/-- The boards of a frame, or the fault of the first that has none. -/
def worldScene (decoded : DecodedLoop) (frameIndex : UInt8) (textures : WorldTextures) :
    List ProjectedBillboard → Option (Except RendererFault (List SceneBillboard))
  | [] => some (.ok [])
  | value :: values => do
      match ← worldBillboard value decoded frameIndex textures with
      | .error fault => return .error fault
      | .ok board => return (← worldScene decoded frameIndex textures values).map (board :: ·)

section Boards

variable {value : ProjectedBillboard} {values : List ProjectedBillboard} {decoded : DecodedLoop}
  {frameIndex : UInt8} {textures : WorldTextures} {board : SceneBillboard}
  {boards : List SceneBillboard}

/-- A decoration is its own picture, and not reduced. -/
theorem pictureOf_decoration {source : ℕ} (low : 50 ≤ source) (high : source ≤ 76)
    {texture : Texture} {size : SourceSize} {mips : Option (List MipLevel)}
    (found : pictureOf source decoded textures = some (.ok (texture, size, mips))) :
    size = decorationSize (source - 46) ∧ mips = none := by
  rw [pictureOf, if_neg (by omega), if_pos (Or.inr ⟨low, high⟩), if_neg (by omega)] at found
  simp only [Option.bind_eq_bind, Option.bind_eq_some_iff] at found
  obtain ⟨decoration, there, _, _, _, _, same⟩ := found
  cases same
  have sizes := congrArg (fun sizes => sizes[source - 46]?) textures.sized
  rw [List.getElem?_map, there, List.getElem?_map,
    List.getElem?_range (by rw [decorationTextureCount]; omega)] at sizes
  exact ⟨Option.some.inj sizes, rfl⟩

/-- A board has the place of its value, and native decorations are native. -/
theorem worldBillboard_spec
    (found : worldBillboard value decoded frameIndex textures = some (.ok board)) :
    board.projected.depth = value.depth ∧ board.projected.id = value.id ∧
      (NativeDecoration value → board.native = true) := by
  rw [worldBillboard, Option.bind_eq_bind, Option.bind_eq_some_iff] at found
  obtain ⟨fault | ⟨texture, size, mips⟩, pictured, found⟩ := found
  · cases found
  · dsimp only at found
    rw [Option.bind_eq_bind, Option.bind_eq_some_iff] at found
    obtain ⟨⟨chosen, region⟩, select, found⟩ := found
    have made := Fallible.mapError_eq_ok_iff.mp (Option.some.inj found)
    obtain ⟨projected, -, sameRegion⟩ := SceneBillboard.new_eq_ok made
    rw [SceneBillboard.native, projected, sameRegion]
    refine ⟨rfl, rfl, fun native => ?_⟩
    obtain ⟨low, high, nearest, width, height⟩ := native
    obtain ⟨rfl, rfl⟩ := pictureOf_decoration low high pictured
    rw [selected, regionOf, if_neg (by omega)] at select
    cases select
    simp [isNative, ProjectedBillboard.resolvedFilter, nearest, width, height]

/-- The boards of the values, in their order. -/
theorem worldScene_forall₂
    (found : worldScene decoded frameIndex textures values = some (.ok boards)) :
    List.Forall₂ (fun value board =>
      worldBillboard value decoded frameIndex textures = some (.ok board)) values boards := by
  induction values generalizing boards with
  | nil =>
      cases found
      exact .nil
  | cons value values ih =>
      rw [worldScene, Option.bind_eq_bind, Option.bind_eq_some_iff] at found
      obtain ⟨fault | board, first, found⟩ := found
      · cases found
      · dsimp only at found
        rw [Option.bind_eq_bind, Option.bind_eq_some_iff] at found
        obtain ⟨rest, others, found⟩ := found
        obtain ⟨boards, rfl, rfl⟩ := Fallible.map_eq_ok_iff.mp (Option.some.inj found)
        exact .cons first (ih others)

variable
  (each : List.Forall₂ (fun value board =>
    worldBillboard value decoded frameIndex textures = some (.ok board)) values boards)
include each

/-- **Only what is not a native decoration demands columns.** -/
theorem columnDemand_le_countP :
    columnDemand boards ≤ values.countP (¬NativeDecoration ·) * viewportWidth := by
  induction each with
  | nil => exact Nat.zero_le _
  | @cons value board values boards found _ ih =>
      have most := board.demand_le
      rw [columnDemand] at ih ⊢
      rw [List.map_cons, List.sum_cons, List.countP_cons, Nat.add_mul]
      by_cases native : NativeDecoration value
      · rw [SceneBillboard.demand, (worldBillboard_spec found).2.2 native, if_pos rfl]
        omega
      · rw [if_pos (decide_eq_true native), Nat.one_mul]
        omega

/-- Sorted values have boards in order. -/
theorem inOrder_of_sorted (sorted : values.Pairwise (farther · · = true)) :
    inOrder boards = true := by
  induction each with
  | nil => rfl
  | @cons value board values boards found rest ih =>
      have others := ih (List.pairwise_cons.mp sorted).2
      cases rest with
      | nil => rfl
      | @cons next nextBoard _ _ nextFound _ =>
          have ahead := (List.pairwise_cons.mp sorted).1 next List.mem_cons_self
          obtain ⟨depth, id, -⟩ := worldBillboard_spec found
          obtain ⟨nextDepth, nextId, -⟩ := worldBillboard_spec nextFound
          refine Bool.and_eq_true_iff.mpr ⟨?_, others⟩
          rw [farther_iff] at ahead
          simp only [depth, id, nextDepth, nextId, Bool.not_eq_true', Bool.or_eq_false_iff,
            Bool.and_eq_false_iff, decide_eq_false_iff_not, beq_eq_false_iff_ne, ne_eq, gt_iff_lt,
            Int32.lt_iff_toInt_lt, UInt16.lt_iff_toNat_lt, ← Int32.toInt_inj]
          omega

end Boards

/-! ## Storage -/

structure WorldRasterScratch where
  cutoffs : Vector UInt16 ScreenTile.eight.cells
  prepared : Vector PreparedBoard capacity
  columns : Vector ColumnSample (viewportWidth * billboardCount)

/-- Keep what is not culled. Storage that is full is a panic. -/
def collect : List (Except ProjectionCull ProjectedBillboard) →
    Vector ProjectedBillboard capacity → ℕ → Option (Vector ProjectedBillboard capacity × ℕ)
  | [], projected, count => some (projected, count)
  | .error _ :: outcomes, projected, count => collect outcomes projected count
  | .ok value :: outcomes, projected, count =>
      if room : count < capacity then collect outcomes (projected.set count value room) (count + 1)
      else none

/-- **Storage for all entities suffices**, and what is visible is at its beginning. -/
theorem collect_spec {outcomes : List (Except ProjectionCull ProjectedBillboard)}
    {projected : Vector ProjectedBillboard capacity} {count : ℕ}
    (room : count + outcomes.length ≤ capacity) :
    Ensures (collect outcomes projected count) fun (stored, total) =>
      total ≤ capacity ∧
        stored.toList.take total = projected.toList.take count ++ visible outcomes := by
  induction outcomes generalizing projected count with
  | nil => exact .value ⟨room, (List.append_nil _).symm⟩
  | cons outcome outcomes ih =>
      rw [List.length_cons] at room
      cases outcome with
      | error cull => exact ih (by omega)
      | ok value =>
          rw [collect, dif_pos (by omega)]
          apply (ih (by omega)).mono
          rintro ⟨stored, total⟩ ⟨most, same⟩
          refine ⟨most, same.trans ?_⟩
          have written : (projected.set count value).toList.take (count + 1) =
              projected.toList.take count ++ [value] := by
            rw [Vector.toList_set, List.take_add_one, List.take_set_of_le (Nat.le_refl _),
              List.getElem?_set_self (by rw [Vector.length_toList]; omega)]
            rfl
          rw [written, List.append_assoc]
          rfl

/-! ## Frames -/

structure WorldSnapshot where
  availability : UInt8
  notice : UInt8
  observedYaw : Int64

def worldValueMask : UInt8 := 0x7f

def worldFilterBilinear : UInt8 := 0x80

def snapshotFilter (value : UInt8) : TextureFilter :=
  if value &&& worldFilterBilinear ≠ 0 then .bilinear else .nearest

namespace WorldSnapshot

def camera (self : WorldSnapshot) : CameraPose :=
  ⟨WorldUnit.fromInt 4, ⟨self.observedYaw⟩, 0⟩

/-- What the frame shows of the snapshot. -/
def outcomes (self : WorldSnapshot) (sine : SineTable) (motion : DemoMotion) :
    Option (List (Except ProjectionCull ProjectedBillboard)) :=
  let availability := self.availability &&& worldValueMask
  projectedEntities sine motion
    (if availability ≠ 0 then some (10 + (availability - 1).toUInt16) else none)
    (self.notice &&& worldValueMask ≠ 0)
    ⟨snapshotFilter self.availability, snapshotFilter self.notice⟩ self.camera

end WorldSnapshot

section Frames

variable {sine : SineTable} {motion : DemoMotion} {snapshot : WorldSnapshot}
  {decoded : DecodedLoop} {frameIndex : UInt8} {textures : WorldTextures}
  {outcomes : List (Except ProjectionCull ProjectedBillboard)} {boards : List SceneBillboard}

theorem outcomes_isSome (sine : SineTable) (motion : DemoMotion)
    (moderate : UnwrappedAngle.Moderate ⟨snapshot.observedYaw⟩) :
    (snapshot.outcomes sine motion).isSome = true :=
  projectedEntities_isSome _ _ _ _ _ moderate

/-- What is drawn demands at most the columns of all billboards across the whole screen. -/
theorem columnDemand_le_scratch (ran : snapshot.outcomes sine motion = some outcomes)
    (found : worldScene decoded frameIndex textures (sortFarToNear (visible outcomes)) =
      some (.ok boards)) :
    columnDemand boards ≤ viewportWidth * billboardCount :=
  calc columnDemand boards
      ≤ (sortFarToNear (visible outcomes)).countP (¬NativeDecoration ·) * viewportWidth :=
        columnDemand_le_countP (worldScene_forall₂ found)
    _ = (visible outcomes).countP (¬NativeDecoration ·) * viewportWidth := by
        rw [(sortFarToNear_perm (visible outcomes)).countP_eq]
    _ ≤ billboardCount * viewportWidth := Nat.mul_le_mul_right _ (visible_countP ran)
    _ = viewportWidth * billboardCount := Nat.mul_comm _ _

theorem length_boards (found : worldScene decoded frameIndex textures
    (sortFarToNear (visible outcomes)) = some (.ok boards)) :
    boards.length = (visible outcomes).length := by
  rw [← (worldScene_forall₂ found).length_eq, (sortFarToNear_perm _).length_eq]

/-- **A scene is prepared** from the boards of every frame. -/
theorem prepared_of_worldScene (ran : snapshot.outcomes sine motion = some outcomes)
    (found : worldScene decoded frameIndex textures (sortFarToNear (visible outcomes)) =
      some (.ok boards)) (scratch : WorldRasterScratch) (occlusion : Occlusion) :
    ∃ scene, PreparedScene.new boards occlusion scratch.prepared.size scratch.columns.toArray =
      some (.ok scene) := by
  have few : boards.length ≤ capacity := by
    rw [length_boards found, ← projectedEntities_length ran]
    exact List.length_filterMap_le _ _
  have short : boards.length ≤ Checked.u16Max := few.trans (by decide)
  have ordered := inOrder_of_sorted (worldScene_forall₂ found) (sortFarToNear_sorted _)
  obtain ⟨_, prepared, enough, -⟩ : Ensures (PreparedScene.new boards occlusion
      scratch.prepared.size scratch.columns.toArray) _ :=
        PreparedScene.new_of_demand short ordered few
  have room : columnDemand boards ≤ scratch.columns.toArray.size := by
    rw [Vector.size_toArray]
    exact columnDemand_le_scratch ran found
  obtain ⟨scene, rfl⟩ := enough room
  exact ⟨scene, prepared⟩

end Frames

/-- **The scratch always suffices.** Only a yaw that no time leads to makes an angle overflow.
Otherwise there is storage for all entities, their identities differ, and the scene of the boards
that are found for the visible ones is prepared. -/
theorem scratch_suffices (sine : SineTable) (motion : DemoMotion) (snapshot : WorldSnapshot)
    (decoded : DecodedLoop) (frameIndex : UInt8) (textures : WorldTextures)
    (scratch : WorldRasterScratch) (projected : Vector ProjectedBillboard capacity) :
    snapshot.outcomes sine motion = none ∧
      ¬UnwrappedAngle.Moderate ⟨snapshot.observedYaw⟩ ∨
    Ensures (snapshot.outcomes sine motion) fun outcomes =>
      outcomes.length = capacity ∧ ((visible outcomes).map (·.id)).Nodup ∧
      Ensures (collect outcomes projected 0) fun (stored, count) =>
        count ≤ capacity ∧ stored.toList.take count = visible outcomes ∧
        ∀ boards, worldScene decoded frameIndex textures
            (sortFarToNear (stored.toList.take count)) = some (.ok boards) →
          boards.length = count ∧
          ∃ occlusion, Occlusion.new .eight scratch.cutoffs.toArray = .ok occlusion ∧
            ∃ scene, PreparedScene.new boards occlusion scratch.prepared.size
              scratch.columns.toArray = some (.ok scene) := by
  cases ran : snapshot.outcomes sine motion with
  | none =>
      refine Or.inl ⟨rfl, fun moderate => ?_⟩
      have drawn := outcomes_isSome sine motion moderate
      rw [ran] at drawn
      cases drawn
  | some outcomes =>
      have length := projectedEntities_length ran
      refine Or.inr (.value ⟨length, visible_ids_nodup ran, ?_⟩)
      apply (collect_spec (by rw [Nat.zero_add, length])).mono
      rintro ⟨stored, count⟩ ⟨few, kept⟩
      rw [List.take_zero, List.nil_append] at kept
      refine ⟨few, kept, fun boards found => ?_⟩
      rw [kept] at found
      have total : boards.length = count := by
        rw [length_boards found, ← kept, List.length_take, Vector.length_toList,
          Nat.min_eq_left few]
      exact ⟨total, _, dif_pos scratch.cutoffs.size_toArray,
        prepared_of_worldScene ran found scratch _⟩

end Deskkin.Renderer
