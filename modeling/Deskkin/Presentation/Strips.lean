/-
# Boards are drawn strip by strip

The loops of a board go through strips of rows that show the same columns, and in a
strip from one visible span to the next. What has been drawn is the part of the board
before the current span, and the samples count its places.
-/

import Deskkin.Presentation.Spans

namespace Deskkin.Presentation

open Loops Grid

/-- What a mask leaves visible. -/
def shownBy : Option (Occlusion × ℕ) → Set (ℕ × ℕ)
  | none => Set.univ
  | some (map, index) => map.visible index

/-- The places of a board that are drawn into a target. -/
def SceneBillboard.shown (board : SceneBillboard) (target : BandTarget)
    (mask : Option (Occlusion × ℕ)) : Set (ℕ × ℕ) :=
  {place ∈ board.area | (target.y ≤ place.1 ∧ place.1 < target.y + target.rows) ∧
    place ∈ shownBy mask}

/-- The rows and columns of a board in a target. -/
structure Clip (board : SceneBillboard) (target : BandTarget) (top bottom left right : ℕ) :
    Prop where
  inside : ∀ y x, (y, x) ∈ board.area ∧ target.y ≤ y ∧ y < target.y + target.rows ↔
    (top ≤ y ∧ y < bottom) ∧ left ≤ x ∧ x < right

/-- Rows that show the same columns. -/
structure Strip (mask : Option (Occlusion × ℕ)) (row rowEnd : ℕ) : Prop where
  nonempty : row < rowEnd
  same : ∀ y x, row ≤ y → y < rowEnd → ((y, x) ∈ shownBy mask ↔ (row, x) ∈ shownBy mask)

/-- The next columns of a row that are shown. -/
def IsShownSpan (mask : Option (Occlusion × ℕ)) (row x stop : ℕ) : Option (ℕ × ℕ) → Prop
  | none => ∀ k, x ≤ k → k < stop → (row, k) ∉ shownBy mask
  | some (first, last) => (x ≤ first ∧ first < last ∧ last ≤ stop) ∧
      (∀ k, x ≤ k → k < first → (row, k) ∉ shownBy mask) ∧
        ∀ k, first ≤ k → k < last → (row, k) ∈ shownBy mask

section Strips

variable {board : SceneBillboard} {wire : Bool} {target : BandTarget}
  {mask : Option (Occlusion × ℕ)} {top bottom left right row rowEnd x first last : ℕ}
  {pixels : Array UInt16} {σ : Type} {canvas : Canvas UInt16 σ} {s t : σ} {drawn : σ × ℕ}
  {draw : Drawing UInt16} {blitter : Blitter σ}

theorem SceneBillboard.mem_shown {y x : ℕ} : (y, x) ∈ board.shown target mask ↔
    (y, x) ∈ board.area ∧ (target.y ≤ y ∧ y < target.y + target.rows) ∧ (y, x) ∈ shownBy mask :=
  Iff.rfl

theorem finite_shown : (board.shown target mask).Finite :=
  board.finite_area.subset fun _ shown => shown.1

/-- No more places are counted than the viewport has. -/
theorem ncard_shown_le {region : Set (ℕ × ℕ)} (inside : region ⊆ board.area) :
    region.ncard ≤ viewportHeight * viewportWidth := by
  have viewport : board.area ⊆ block 0 viewportHeight 0 viewportWidth := by
    rintro ⟨y, x⟩ here
    rw [SceneBillboard.mem_area] at here
    rw [mem_block]
    omega
  calc region.ncard
      ≤ (block 0 viewportHeight 0 viewportWidth).ncard :=
        Set.ncard_le_ncard (inside.trans viewport) (finite_block _ _ _ _)
    _ = viewportHeight * viewportWidth := by rw [ncard_block, Nat.sub_zero, Nat.sub_zero]

theorem strip_rowEnd (map : Occlusion) (index : ℕ) (inside : row < bottom) :
    Strip (some (map, index)) row (map.rowEnd row bottom) where
  nonempty := Occlusion.lt_rowEnd inside
  same _ _ lower upper := Occlusion.mem_visible_of_row lower upper

theorem strip_none (inside : row < bottom) : Strip none row bottom where
  nonempty := inside
  same _ _ _ _ := Iff.rfl

namespace Clip

variable (clip : Clip board target top bottom left right)

include clip

theorem mem_shown {y x : ℕ} : (y, x) ∈ board.shown target mask ↔
    ((top ≤ y ∧ y < bottom) ∧ left ≤ x ∧ x < right) ∧ (y, x) ∈ shownBy mask := by
  rw [SceneBillboard.mem_shown, ← clip.inside, and_assoc, and_assoc, and_assoc]

/-- Nothing has been drawn before the first strip. -/
theorem start : canvas.Drawn draw t (part (board.shown target mask) top top 0) (t, 0) := by
  apply Canvas.drawn_start
  intro y x here
  rw [clip.mem_shown] at here
  exact here.1.1.1

/-- After the last strip everything has been drawn. -/
theorem finish (after : bottom ≤ row) :
    part (board.shown target mask) row row 0 = board.shown target mask := by
  apply part_all
  intro y x here
  rw [clip.mem_shown] at here
  omega

/-- A strip starts at the left. -/
theorem begin_strip : part (board.shown target mask) row rowEnd left =
    part (board.shown target mask) row row 0 := by
  apply part_begin
  intro y x here
  rw [clip.mem_shown] at here
  exact here.1.2.1

/-- A strip ends when no column is shown any more. -/
theorem finish_strip (strip : Strip mask row rowEnd)
    (hidden : ∀ k, x ≤ k → k < right → (row, k) ∉ shownBy mask) :
    part (board.shown target mask) row rowEnd x =
      part (board.shown target mask) rowEnd rowEnd 0 := by
  apply part_finish (Nat.le_of_lt strip.nonempty)
  intro y k lower upper right' here
  rw [clip.mem_shown] at here
  exact hidden k right' here.1.2.2 ((strip.same y k lower upper).mp here.2)

/-- The next span is in the area, and extends what has been drawn. -/
theorem span (strip : Strip mask row rowEnd) (above : top ≤ row) (below : rowEnd ≤ bottom)
    (fromLeft : left ≤ x) (found : IsShownSpan mask row x right (some (first, last)))
    (before : canvas.Drawn draw t (part (board.shown target mask) row rowEnd x) drawn) :
    InArea board target row rowEnd first last ∧
      canvas.Drawn draw t (part (board.shown target mask) row rowEnd last)
        (canvas.shade (restrict (block row rowEnd first last) draw) drawn.1,
          drawn.2 + (last - first) * (rowEnd - row)) ∧
      countSamples drawn.2 (last - first) (rowEnd - row) =
        some (drawn.2 + (last - first) * (rowEnd - row)) := by
  obtain ⟨bounds, hidden, shown⟩ := found
  have nonempty := strip.nonempty
  have hiddenRows : ∀ y k, row ≤ y → y < rowEnd → x ≤ k → k < first →
      (y, k) ∉ board.shown target mask := by
    intro y k lower upper low high here
    rw [clip.mem_shown] at here
    exact hidden k low high ((strip.same y k lower upper).mp here.2)
  have shownRows : ∀ y k, row ≤ y → y < rowEnd → first ≤ k → k < last →
      (y, k) ∈ board.shown target mask := by
    intro y k lower upper low high
    rw [clip.mem_shown]
    exact ⟨by omega, (strip.same y k lower upper).mpr (shown k low high)⟩
  have after := before.span finite_shown bounds.1 bounds.2.1 hiddenRows shownRows
  have corner := (clip.inside row first).mpr (by omega)
  have lastRow := (clip.inside (rowEnd - 1) first).mpr (by omega)
  refine ⟨⟨bounds.2.1, corner.2.1, by omega, fun y k lower upper low high =>
    (shownRows y k lower upper low high).1⟩, after, ?_⟩
  have most : drawn.2 + (last - first) * (rowEnd - row) ≤ viewportHeight * viewportWidth :=
    after.2.trans_le (ncard_shown_le fun _ here => here.1.1)
  have small : (last - first) * (rowEnd - row) % 2 ^ 32 = (last - first) * (rowEnd - row) := by
    rw [viewportHeight, viewportWidth] at most
    omega
  rw [countSamples, small, Checked.add_of_le]
  rw [viewportHeight, viewportWidth] at most
  rw [Checked.u32Max]
  omega

end Clip

/-! ## Native boards -/

/-- The rectangle does not end before the viewport begins. -/
def ScreenRect.Reaches (r : ScreenRect) : Prop :=
  0 ≤ saturatingSum r.x r.width ∧ 0 ≤ saturatingSum r.y r.height

theorem asUsize_saturatingSum {a b : Int32} {limit : ℕ} (reaches : 0 ≤ saturatingSum a b) :
    asUsize (min (saturatingSum a b) limit) = (min (saturatingSum a b) limit).toNat := by
  have most : saturatingSum a b < 2 ^ 31 := by
    rw [saturatingSum]
    omega
  apply asUsize_of_nonneg <;> omega

theorem SceneBillboard.reaches {y : ℕ} (inside : (y, x) ∈ board.area) :
    board.projected.screenRect.Reaches := by
  rw [mem_area] at inside
  rw [ScreenRect.Reaches, saturatingSum, saturatingSum]
  omega

/-- What has been drawn on the canvas before. -/
theorem reached_of_drawn {region : Set (ℕ × ℕ)} (reached : canvas.Reached s t)
    (shows : canvas.Drawn draw t region drawn) : canvas.Reached s drawn.1 := by
  rw [shows.1]
  exact reached.shade _

/-- **A native board is drawn where it is shown**, by any blitter that draws its rows. -/
theorem rasterNativeOn_spec
    (rows : SceneBillboard.DrawsNative canvas s blitter board target wire draw)
    (reaches : board.projected.screenRect.Reaches) (reached : canvas.Reached s t) :
    Ensures (rasterNativeOn blitter target board.projected.screenRect board.texture board.region
      wire mask t) (canvas.Drawn draw t (board.shown target mask)) := by
  unfold rasterNativeOn
  rw [asUsize_saturatingSum reaches.1, asUsize_saturatingSum reaches.2]
  extract_lets left right top bottom
  have inRight : right ≤ viewportWidth := by omega
  have inBottom : bottom ≤ viewportHeight := by omega
  have clip : Clip board target top bottom left right := by
    constructor
    intro y x
    rw [SceneBillboard.mem_area, ← ScreenRect.mem_axis (by decide),
      ← ScreenRect.mem_axis (by decide)]
    simp only [left, right, top, bottom, max_le_iff, lt_min_iff]
    tauto
  clear_value left right top bottom
  refine Ensures.bind (show Ensures _ fun state => canvas.Drawn draw t (board.shown target mask)
    state.2 from ?_) fun _ done => .value done
  apply loop_rule (fun state => top ≤ state.1 ∧
    canvas.Drawn draw t (part (board.shown target mask) state.1 state.1 0) state.2)
    (fun state => bottom - state.1)
  · rintro ⟨row, u, samples⟩ ⟨above, drawn⟩
    dsimp only at above drawn ⊢
    split
    · rename_i inside
      generalize rowEndIs : (mask.elim bottom fun pair => pair.1.rowEnd row bottom) = rowEnd
      obtain ⟨strip, below⟩ : Strip mask row rowEnd ∧ rowEnd ≤ bottom := by
        subst rowEndIs
        cases mask with
        | none => exact ⟨strip_none inside, Nat.le_refl _⟩
        | some pair => exact ⟨strip_rowEnd pair.1 pair.2 inside, Occlusion.rowEnd_le⟩
      refine Ensures.bind (show Ensures _ fun state => canvas.Drawn draw t
        (part (board.shown target mask) rowEnd rowEnd 0) state.2 from ?_)
          fun _ done => .value ⟨⟨?_, done⟩, ?_⟩
      · apply loop_rule (fun state => left ≤ state.1 ∧
          canvas.Drawn draw t (part (board.shown target mask) row rowEnd state.1) state.2)
          (fun state => right - state.1)
        · rintro ⟨x, u, samples⟩ ⟨fromLeft, drawn⟩
          dsimp only at fromLeft drawn ⊢
          split
          · rename_i before
            refine Ensures.bind (show Ensures _ (IsShownSpan mask row x right) from ?_)
              fun span found => ?_
            · cases mask with
              | none => exact .value ⟨⟨Nat.le_refl _, before, Nat.le_refl _⟩,
                  fun k low high => by omega, fun k _ _ => trivial⟩
              | some pair => exact Occlusion.visibleSpan_spec (by omega) (by omega) inRight
            · cases span with
              | none => exact .value (by rwa [clip.finish_strip strip found] at drawn)
              | some span =>
                  obtain ⟨area, after, counted⟩ := clip.span strip above below fromLeft found drawn
                  obtain ⟨bounds, -⟩ := found
                  apply Ensures.step (SceneBillboard.nativeSpanOn_spec rows area strip.nonempty _
                    (reached_of_drawn reached drawn))
                  apply Ensures.step counted
                  exact .value ⟨⟨by omega, after⟩, by omega⟩
          · rename_i passed
            refine .value ?_
            rwa [clip.finish_strip strip fun k low high => by omega] at drawn
        · exact ⟨Nat.le_refl _, by rwa [clip.begin_strip]⟩
        · exact Nat.lt_succ_self _
      · have nonempty := strip.nonempty
        exact above.trans (Nat.le_of_lt nonempty)
      · have nonempty := strip.nonempty
        omega
    · rename_i outside
      refine .value ?_
      rwa [clip.finish (by omega)] at drawn
  · exact ⟨Nat.le_refl _, clip.start⟩
  · exact Nat.lt_succ_self _

/-- **A native board is drawn where it is shown.** -/
theorem rasterNative_spec (native : board.native = true)
    (reaches : board.projected.screenRect.Reaches)
    (fits : target.stride * target.rows ≤ pixels.size) :
    Ensures (rasterNative target board.projected.screenRect board.texture board.region wire mask
        pixels)
      (Drawn target.y target.stride (board.drawing wire) pixels (board.shown target mask)) := by
  have drawn : Ensures (rasterNativeOn ScalarBlitter.blitter target board.projected.screenRect
      board.texture board.region wire mask pixels) ((Grid.rows UInt16 target.y target.stride).Drawn
        (board.drawing wire) pixels (board.shown target mask)) :=
    rasterNativeOn_spec (SceneBillboard.scalar_drawsNative native fits) reaches .refl
  rwa [rasterNativeOn_scalar] at drawn

/-! ## Scaled boards -/

theorem slice_columnsOf (fromLeft : left ≤ first) (ordered : first ≤ last) (upTo : last ≤ right) :
    slice? (board.columnsOf left right) (first - left) (last - left) =
      some (board.columnsOf first last) := by
  rw [slice?_eq_some (by omega) (by rw [SceneBillboard.size_columnsOf]; omega)]
  apply congrArg some
  apply Array.ext_getElem?
  intro k
  by_cases short : k < last - first
  · rw [SceneBillboard.getElem?_columnsOf short, getElem?_extract_of_lt (by omega),
      SceneBillboard.getElem?_columnsOf (by omega)]
    congr 2
    omega
  · have sizes : (board.columnsOf left right).size = right - left :=
      SceneBillboard.size_columnsOf
    rw [Array.getElem?_eq_none (by rw [Array.size_extract, sizes]; omega),
      Array.getElem?_eq_none (by rw [SceneBillboard.size_columnsOf]; omega)]

/-- The stepper goes through the rows of a strip. -/
theorem take_rows (inside : ∀ y, row ≤ y → y < rowEnd → (y, x) ∈ board.area)
    (ordered : row ≤ rowEnd) :
    Ensures (forRange (fun _ (y : AxisStepper) => y.take.map Prod.snd) row (rowEnd - row)
      (.placed board.region.height board.projected.screenRect.height
        (placeAt board.projected.screenRect.y row))) fun y => y =
      .placed board.region.height board.projected.screenRect.height
        (placeAt board.projected.screenRect.y rowEnd) := by
  apply (forRange_rule (fun y stepper => stepper = .placed board.region.height
    board.projected.screenRect.height (placeAt board.projected.screenRect.y y)) rfl _).mono
  · intro stepper done
    rwa [Nat.add_sub_cancel' ordered] at done
  · rintro y _ lower upper rfl
    rw [SceneBillboard.take_row (inside y lower (by omega))]
    exact .value rfl

section Scaled

variable {columns : ℕ → ℕ}
  (samples : SceneBillboard.DrawsSamples canvas s blitter columns board target wire draw)
  (clip : Clip board target top bottom left right) (rows : top < bottom) (wide : left < right)
  (reached : canvas.Reached s t)

include samples clip rows wide reached

/-- Without an occlusion map it is drawn in one piece. -/
theorem dispatchVisibleOn_unmasked :
    Ensures ((board.rowsOf target top bottom left right).dispatchVisibleOn blitter (columns left)
        board.texture board.projected.filter wire none t)
      (canvas.Drawn draw t (board.shown target none)) := by
  have inside : ∀ y x, top ≤ y → y < bottom → left ≤ x → x < right → (y, x) ∈ board.area :=
    fun y x lower upper low high => ((clip.inside y x).mpr (by omega)).1
  have area : InArea board target top bottom left right := by
    have above := ((clip.inside top left).mpr (by omega)).2
    have below := ((clip.inside (bottom - 1) left).mpr (by omega)).2
    exact ⟨wide, above.1, by omega, inside⟩
  have everything : board.shown target none = block top bottom left right := by
    ext ⟨y, x⟩
    rw [clip.mem_shown, mem_block]
    exact and_iff_left trivial
  rw [RasterRows.dispatchVisibleOn, everything]
  apply Ensures.step (SceneBillboard.drawOn_spec samples area (Nat.le_of_lt rows) t reached)
  refine .value ⟨rfl, ?_⟩
  show (board.columnsOf left right).size * (bottom - top) % 2 ^ 32 = _
  have inArea : block top bottom left right ⊆ board.area :=
    fun _ here => inside _ _ here.1.1 here.1.2 here.2.1 here.2.2
  have least := ncard_shown_le inArea
  rw [ncard_block, viewportHeight, viewportWidth] at least
  rw [SceneBillboard.size_columnsOf, ncard_block, Nat.mul_comm (right - left)]
  exact Nat.mod_eq_of_lt (by omega)

variable (follow : ∀ k, left ≤ k → columns left + (k - left) = columns k)
include follow

/-- With one it is drawn a strip of rows at a time, and in each strip a span at a time. -/
theorem dispatchVisibleOn_masked (map : Occlusion) (index : ℕ) :
    Ensures ((board.rowsOf target top bottom left right).dispatchVisibleOn blitter (columns left)
        board.texture board.projected.filter wire (some (map, index)) t)
      (canvas.Drawn draw t (board.shown target (some (map, index)))) := by
  have inside : ∀ y x, top ≤ y → y < bottom → left ≤ x → x < right → (y, x) ∈ board.area :=
    fun y x lower upper low high => ((clip.inside y x).mpr (by omega)).1
  have corner := (clip.inside (bottom - 1) (right - 1)).mpr (by omega)
  have viewport := SceneBillboard.mem_area.mp corner.1
  unfold RasterRows.dispatchVisibleOn
  dsimp only [SceneBillboard.rowsOf]
  refine Ensures.bind (show Ensures _ fun state => canvas.Drawn draw t
    (board.shown target (some (map, index))) state.2.2 from ?_) fun _ done => .value done
  apply loop_rule (fun state => top ≤ state.1 ∧
    state.2.1 = AxisStepper.placed board.region.height board.projected.screenRect.height
      (placeAt board.projected.screenRect.y state.1) ∧
    canvas.Drawn draw t (part (board.shown target (some (map, index))) state.1 state.1 0)
      state.2.2) (fun state => bottom - state.1)
  · rintro ⟨row, y, u, count⟩ ⟨above, place, drawn⟩
    dsimp only at above place drawn ⊢
    subst place
    show Ensures (if row < bottom then _ else _) _
    by_cases here : row < bottom
    · rw [if_pos here]
      have strip := strip_rowEnd map index here
      have below : map.rowEnd row bottom ≤ bottom := Occlusion.rowEnd_le
      generalize map.rowEnd row bottom = rowEnd at strip below ⊢
      have nonempty := strip.nonempty
      refine Ensures.bind (show Ensures _ fun state => canvas.Drawn draw t
        (part (board.shown target (some (map, index))) rowEnd rowEnd 0) state.2 from ?_)
          fun state done => ?_
      · apply loop_rule (fun state => (left ≤ state.1 ∧ state.1 ≤ right) ∧
          canvas.Drawn draw t (part (board.shown target (some (map, index))) row rowEnd state.1)
            state.2) (fun state => right - state.1)
        · rintro ⟨x, u, count⟩ ⟨within, drawn⟩
          dsimp only at within drawn ⊢
          rw [SceneBillboard.size_columnsOf, Nat.add_sub_cancel' (Nat.le_of_lt wide)]
          apply (Occlusion.visibleSpan_spec (show row < viewportHeight by omega) within.2
            (show right ≤ viewportWidth by omega)).bind
          intro span found
          cases span with
          | none => exact .value (by rwa [clip.finish_strip strip found] at drawn)
          | some span =>
              obtain ⟨first, last⟩ := span
              obtain ⟨area, after, counted⟩ :=
                clip.span strip above below within.1 found drawn
              obtain ⟨bounds, -⟩ := found
              apply Ensures.step (slice_columnsOf (by omega) (by omega) bounds.2.2)
              rw [follow first (by omega)]
              apply Ensures.step (SceneBillboard.drawOn_spec samples area (Nat.le_of_lt nonempty) _
                (reached_of_drawn reached drawn))
              apply Ensures.step counted
              exact .value ⟨⟨by omega, after⟩, by omega⟩
        · exact ⟨⟨Nat.le_refl _, Nat.le_of_lt wide⟩, by rwa [clip.begin_strip]⟩
        · rw [SceneBillboard.size_columnsOf]
          exact Nat.lt_succ_self _
      · apply (take_rows (fun y lower upper => inside y left (above.trans lower) (by omega)
          (Nat.le_refl _) wide) (Nat.le_of_lt nonempty)).bind
        rintro _ rfl
        exact .value ⟨⟨by omega, rfl, done⟩, by omega⟩
    · rw [if_neg here]
      refine .value ?_
      rwa [clip.finish (by omega)] at drawn
  · exact ⟨Nat.le_refl _, rfl, clip.start⟩
  · exact Nat.lt_succ_self _

/-- **A scaled board is drawn where it is shown**, by any blitter that draws its samples. -/
theorem dispatchVisibleOn_spec :
    Ensures ((board.rowsOf target top bottom left right).dispatchVisibleOn blitter (columns left)
        board.texture board.projected.filter wire mask t)
      (canvas.Drawn draw t (board.shown target mask)) := by
  cases mask with
  | none => exact dispatchVisibleOn_unmasked samples clip rows wide reached
  | some pair =>
      exact dispatchVisibleOn_masked samples clip rows wide reached follow pair.1 pair.2

end Scaled

/-- **A scaled board is drawn where it is shown.** -/
theorem dispatchVisible_spec (clip : Clip board target top bottom left right)
    (rows : top < bottom) (columns : left < right)
    (fits : target.stride * target.rows ≤ pixels.size) :
    Ensures ((board.rowsOf target top bottom left right).dispatchVisible board.texture
        board.projected.filter wire mask pixels)
      (Drawn target.y target.stride (board.drawing wire) pixels (board.shown target mask)) :=
  dispatchVisibleOn_spec (SceneBillboard.scalar_drawsSamples fits id) clip rows columns .refl
    fun _ later => Nat.add_sub_cancel' later

end Strips

end Deskkin.Presentation
