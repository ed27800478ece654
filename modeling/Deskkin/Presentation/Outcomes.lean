/-
# What calls leave behind

A call of the renderer comes to an end and changes only the words that it may draw, or
reports an error and changes nothing. The one exception is a stride so large that the
size of its buffer overflows: a board alone multiplies without a check where a scene
checks.
-/

import Deskkin.Presentation.Billboards
import Deskkin.Presentation.Mipmap

namespace Deskkin.Presentation

open Loops Grid Layers

/-! ## Errors -/

/-- An error leaves the buffers as they were. -/
def KeepsOnError {α β : Type} (before : β) (result : Option (Except RasterError α × β)) : Prop :=
  ∀ error after, result = some (.error error, after) → after = before

section Errors

variable {stride : ℕ} {projected : ProjectedBillboard} {texture : Texture}
  {region : TextureRegion} {wire : Bool} {mask : Option (Occlusion × ℕ)} {pixels : Array UInt16}

theorem rasterBillboardMasked_keeps : KeepsOnError pixels
    (rasterBillboardMasked stride projected texture region wire mask pixels) := by
  intro error after failed
  rw [rasterBillboardMasked_eq, Option.map_eq_some_iff] at failed
  obtain ⟨accepted, -, result⟩ := failed
  cases accepted with
  | error _ => exact (Prod.mk.inj result).2.symm
  | ok board => cases (Prod.mk.inj result).1

/-- A scene that passes the first checks is drawn without an error. -/
theorem rasterScene_keeps {boards : List SceneBillboard} {background : Background}
    {occlusion : Occlusion} :
    KeepsOnError pixels (rasterScene stride boards background wire occlusion pixels) := by
  intro error after failed
  rw [rasterScene_eq] at failed
  split at failed
  · cases failed
    rfl
  · obtain ⟨state, -, result⟩ := Option.map_eq_some_iff.mp failed
    cases result

theorem downsample_keeps {target : UInt16} {colors : Array UInt16} {alpha : Array UInt8} :
    KeepsOnError (colors, alpha) (downsample texture region target colors alpha) := by
  intro error after failed
  rw [downsample_eq] at failed
  split at failed
  · cases failed
    rfl
  · cases failed

/-- What is checked first and cannot fail after that. -/
theorem keepsOnError_checked {α β γ : Type} {rejected : Prop} [Decidable rejected]
    {error : RasterError} {before : γ} {work : Option β} {value : β → α} {left : β → γ} :
    KeepsOnError before (if rejected then some (.error error, before)
      else work >>= fun b => some (.ok (value b), left b)) := by
  intro error after failed
  split at failed
  · cases failed
    rfl
  · obtain ⟨_, -, result⟩ := Option.bind_eq_some_iff.mp failed
    cases result

theorem buildOpaqueMask_keeps {size : SourceSize} {alpha bits : Array UInt8} :
    KeepsOnError bits (buildOpaqueMask size alpha bits) := by
  rw [buildOpaqueMask]
  exact keepsOnError_checked

theorem buildCutoutMask_keeps {alpha bits : Array UInt8} :
    KeepsOnError bits (buildCutoutMask alpha bits) := by
  rw [buildCutoutMask]
  exact keepsOnError_checked

end Errors

/-- **Errors come before pixels.** Whatever is rejected leaves every buffer that it was
given as it was. -/
theorem errors_before_pixels :
    (∀ stride boards background wire occlusion pixels,
      KeepsOnError pixels (rasterScene stride boards background wire occlusion pixels)) ∧
    (∀ stride projected texture region wire mask pixels,
      KeepsOnError pixels (rasterBillboardMasked stride projected texture region wire mask
        pixels)) ∧
    (∀ stride projected texture pixels,
      KeepsOnError pixels (rasterBillboard stride projected texture pixels) ∧
        KeepsOnError pixels (rasterBillboardBe stride projected texture pixels) ∧
        ∀ region, KeepsOnError pixels
          (rasterBillboardRegionBe stride projected texture region pixels)) ∧
    (∀ texture region stride colors alpha,
      KeepsOnError (colors, alpha) (downsample texture region stride colors alpha)) ∧
    (∀ size alpha bits, KeepsOnError bits (buildOpaqueMask size alpha bits)) ∧
    ∀ alpha bits, KeepsOnError bits (buildCutoutMask alpha bits) := by
  refine ⟨fun _ _ _ _ _ _ => rasterScene_keeps, fun _ _ _ _ _ _ _ => rasterBillboardMasked_keeps,
    fun stride projected texture pixels => ⟨?_, ?_, fun region => ?_⟩,
    fun _ _ _ _ _ => downsample_keeps, fun _ _ _ => buildOpaqueMask_keeps,
    fun _ _ => buildCutoutMask_keeps⟩
  · rw [rasterBillboard, rasterBillboardOrdered]
    exact rasterBillboardMasked_keeps
  · rw [rasterBillboardBe, rasterBillboardOrdered]
    exact rasterBillboardMasked_keeps
  · rw [rasterBillboardRegionBe, rasterBillboardOrdered]
    exact rasterBillboardMasked_keeps

/-! ## Bounds -/

/-- The call comes to an end, and changes no word but those that it may. -/
def Contained {ρ : Type} (held : ℕ → Prop) (before : Array UInt16)
    (result : Option (ρ × Array UInt16)) : Prop :=
  ∃ outcome after, result = some (outcome, after) ∧ after.size = before.size ∧
    ∀ i, ¬held i → after[i]? = before[i]?

section Bounds

variable {stride : ℕ} {projected : ProjectedBillboard} {texture : Texture}
  {region : TextureRegion} {wire : Bool} {mask : Option (Occlusion × ℕ)} {pixels : Array UInt16}

/-- A board ends with an error or within its rectangle, unless the product overflows. -/
theorem rasterBillboardMasked_contained_iff (counted : pixels.size ≤ Checked.u64Max) :
    Contained (projected.screenRect.Holds stride) pixels
        (rasterBillboardMasked stride projected texture region wire mask pixels) ↔
      stride < viewportWidth ∨ stride * viewportHeight ≤ Checked.u64Max := by
  rw [rasterBillboardMasked_eq]
  constructor
  · rintro ⟨outcome, after, ended, -⟩
    obtain ⟨accepted, passed, -⟩ := Option.map_eq_some_iff.mp ended
    rw [acceptBillboard] at passed
    split at passed
    · rename_i narrow
      exact Or.inl narrow
    · split at passed
      · split at passed
        · rename_i fits
          exact Or.inr fits
        · cases passed
      · omega
  · intro fits
    obtain ⟨accepted, passed⟩ : ∃ accepted,
        acceptBillboard stride projected texture region pixels.size = some accepted := by
      rw [acceptBillboard]
      split
      · exact ⟨_, rfl⟩
      · split
        · rw [if_pos (by omega)]
          exact ⟨_, rfl⟩
        · exact ⟨_, rfl⟩
    rw [passed, Option.map_some]
    cases accepted with
    | error error => exact ⟨_, _, rfl, rfl, fun i _ => rfl⟩
    | ok board =>
        have named : board.projected = projected := by
          rw [acceptBillboard] at passed
          split at passed
          · cases passed
          · split at passed
            · split at passed <;> cases passed
            · exact (SceneBillboard.new_eq_ok (Option.some.inj passed)).1
        subst named
        exact ⟨_, _, rfl, size_shade _ _, fun i outside => board.drawnOnto_kept outside⟩

/-- Where no board is, a scene shows its background or what was there. -/
theorem rasterScene_contained (boards : List SceneBillboard) (background : Background)
    (occlusion : Occlusion) :
    Ensures (rasterScene stride boards background wire occlusion pixels) fun result =>
      result.2.size = pixels.size ∧
      ∀ i, (∀ board ∈ boards, ¬board.projected.screenRect.Holds stride i) →
        result.2[i]? = pixels[i]? ∨
          ∃ y x, y < viewportHeight ∧ x < viewportWidth ∧ i = y * stride + x ∧
            result.2[i]? = pixels[i]?.map (background.drawing wire y x) := by
  rw [rasterScene_eq]
  split
  · exact .value ⟨rfl, fun i _ => Or.inl rfl⟩
  · rename_i accepted
    obtain ⟨state, prepared⟩ := prepare_of_accepted accepted
    rw [prepared, Option.map_some]
    refine .value ⟨size_shade _ _, fun i outside => ?_⟩
    have place := Nat.div_add_mod i stride
    rw [Nat.mul_comm] at place
    have beside : ∀ word, sceneDrawing state.1 state.2.opaqueTiles boards background wire
        (i / stride) (i % stride) word =
        restrict {place ∈ block 0 viewportHeight 0 viewportWidth |
          state.2.opaqueTiles = 0 ∨ state.1.cutoffAt place.1 place.2 = 0}
          (background.drawing wire) (i / stride) (i % stride) word := by
      intro word
      apply paint_culled_of_id
      intro _ member other
      obtain ⟨board, among, rfl⟩ := List.mem_map.mp member
      rw [layer, restrict_of_notMem]
      intro inside
      rw [SceneBillboard.mem_area] at inside
      exact outside board among ⟨_, _, inside.1, inside.2, place.symm⟩
    rw [getElem?_shade, Nat.zero_add]
    by_cases painted : (i / stride, i % stride) ∈
        {place ∈ block 0 viewportHeight 0 viewportWidth |
          state.2.opaqueTiles = 0 ∨ state.1.cutoffAt place.1 place.2 = 0}
    · refine Or.inr ⟨_, _, painted.1.1.2, painted.1.2.2, place.symm, ?_⟩
      apply congrArg (Option.map · _)
      funext word
      rw [beside, restrict_of_mem painted]
    · left
      cases pixels[i]? with
      | none => rfl
      | some word => rw [Option.map_some, beside, restrict_of_notMem painted]

end Bounds

/-- **Drawing stays in bounds.** A board alone ends and changes words of its rectangle only,
exactly if its stride is too small or the size of its buffer does not overflow; a scene
always does, apart from its background; and no color overflows. -/
theorem rasterBillboard_contained_iff (stride : ℕ) (projected : ProjectedBillboard)
    (texture : Texture) (region : TextureRegion) (wire : Bool) (pixels : Array UInt16)
    (counted : pixels.size ≤ Checked.u64Max) :
    (Contained (projected.screenRect.Holds stride) pixels
        (rasterBillboardOrdered stride projected texture region wire pixels) ↔
      stride < viewportWidth ∨ stride * viewportHeight ≤ Checked.u64Max) ∧
    (∀ boards background occlusion,
      ∃ outcome after, rasterScene stride boards background wire occlusion pixels =
          some (outcome, after) ∧ after.size = pixels.size ∧
        ∀ i, (∀ board ∈ boards, ¬board.projected.screenRect.Holds stride i) →
          after[i]? = pixels[i]? ∨
            ∃ y x, y < viewportHeight ∧ x < viewportWidth ∧ i = y * stride + x ∧
              after[i]? = pixels[i]?.map (background.drawing wire y x)) ∧
    (∀ (span : SampledSpan) column dst,
      span.checkedPixel wire column dst = span.pixel wire column dst) ∧
    ∀ color a dst, checkedComposite wire color a dst = some (composite wire color a dst) := by
  refine ⟨rasterBillboardMasked_contained_iff counted, fun boards background occlusion => ?_,
    fun span column dst => SampledSpan.checkedPixel_eq, checkedComposite_eq wire⟩
  obtain ⟨⟨outcome, after⟩, drawn, size, words⟩ : Ensures (rasterScene stride boards background
    wire occlusion pixels) _ := rasterScene_contained boards background occlusion
  exact ⟨outcome, after, drawn, size, words⟩

theorem rasterBillboard_contained_iff_screen :
    (Array.replicate 76800 (0 : UInt16)).size ≤ Checked.u64Max ∧
      (Contained (tileBoard.projected.screenRect.Holds 320) (Array.replicate 76800 0)
          (rasterBillboardOrdered 320 tileBoard.projected tileBoard.texture tileBoard.region true
            (Array.replicate 76800 0)) ↔
        320 < viewportWidth ∨ 320 * viewportHeight ≤ Checked.u64Max) :=
  ⟨by rw [Array.size_replicate]; decide,
    (rasterBillboard_contained_iff 320 tileBoard.projected tileBoard.texture tileBoard.region true
      (Array.replicate 76800 0) (by rw [Array.size_replicate]; decide)).1⟩

/-- The size of a buffer with this stride overflows. -/
theorem rasterBillboard_overflows : ¬Contained (tileBoard.projected.screenRect.Holds (2 ^ 60)) #[]
    (rasterBillboard (2 ^ 60) tileBoard.projected tileBoard.texture #[]) := by
  rw [rasterBillboard, rasterBillboardOrdered,
    rasterBillboardMasked_contained_iff (Nat.zero_le _)]
  decide

end Deskkin.Presentation
