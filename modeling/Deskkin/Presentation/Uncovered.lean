/-
# The background is drawn where nothing covers it

The columns of a row of tiles without a cutoff are collected as spans, and each row of
pixels of the tiles is filled on these. Together the rows show the background where
no cutoff is set, or everywhere if there is none at all.
-/

import Deskkin.Presentation.Strips

namespace Deskkin.Presentation

open Loops Grid

/-- The columns of some spans. -/
def spanned (spans : List (ℕ × ℕ)) : Set ℕ := {x | ∃ span ∈ spans, span.1 ≤ x ∧ x < span.2}

theorem mem_spanned_append {spans : List (ℕ × ℕ)} {first last x : ℕ} :
    x ∈ spanned (spans ++ [(first, last)]) ↔ x ∈ spanned spans ∨ first ≤ x ∧ x < last := by
  simp [spanned, or_and_right, exists_or]

/-! ## Collecting the spans -/

/-- Spans of whole tiles, in so many columns. -/
structure Collected (tile column : ℕ) (cutoffs : Array UInt16) (spans : List (ℕ × ℕ)) :
    Prop where
  tiles : ∀ span ∈ spans, tile ∣ span.1 ∧ span.1 ≤ span.2 ∧ span.2 ≤ column * tile
  uncovered : ∀ x, x < column * tile → (x ∈ spanned spans ↔ cutoffs[x / tile]? = some 0)

/-- Between two spans there is a covered column, so the spans fit their table. -/
def Spaced (column : ℕ) (cutoffs : Array UInt16) (spans : List (ℕ × ℕ)) : Prop :=
  2 * spans.length ≤ column ∨ 2 * spans.length ≤ column + 1 ∧ cutoffs[column]? ≠ some 0

section Collect

variable {tile column last columns : ℕ} {cutoffs : Array UInt16} {spans : List (ℕ × ℕ)}

theorem collected_nil : Collected tile 0 cutoffs [] := by
  constructor
  · intro span member
    cases member
  · intro x before
    rw [Nat.zero_mul] at before
    exact absurd before (Nat.not_lt_zero _)

/-- The column of a place. -/
theorem div_bounds {x : ℕ} (positive : 0 < tile) :
    (column * tile ≤ x ↔ column ≤ x / tile) ∧ (x < column * tile ↔ x / tile < column) :=
  ⟨(Nat.le_div_iff_mul_le positive).symm, (Nat.div_lt_iff_lt_mul positive).symm⟩

theorem Collected.skip (before : Collected tile column cutoffs spans) (positive : 0 < tile)
    (covered : cutoffs[column]? ≠ some 0) : Collected tile (column + 1) cutoffs spans := by
  constructor
  · intro span member
    obtain ⟨start, ordered, upTo⟩ := before.tiles span member
    exact ⟨start, ordered, by rw [Nat.succ_mul]; omega⟩
  · intro x inside
    by_cases early : x < column * tile
    · exact before.uncovered x early
    · have here : x / tile = column := by
        have upper := (div_bounds positive).2.mp inside
        have lower := (div_bounds positive).1.mp (Nat.le_of_not_lt early)
        omega
      rw [here]
      apply iff_of_false _ covered
      rintro ⟨span, member, -, upTo⟩
      have ends := (before.tiles span member).2.2
      omega

theorem Collected.push (before : Collected tile column cutoffs spans) (positive : 0 < tile)
    (ordered : column ≤ last)
    (free : ∀ c, column ≤ c → c < last → cutoffs[c]? = some 0) :
    Collected tile last cutoffs (spans ++ [(column * tile, last * tile)]) := by
  have grown : column * tile ≤ last * tile := Nat.mul_le_mul_right _ ordered
  constructor
  · intro span member
    rw [List.mem_append, List.mem_singleton] at member
    rcases member with old | rfl
    · obtain ⟨start, ordered, upTo⟩ := before.tiles span old
      exact ⟨start, ordered, upTo.trans grown⟩
    · exact ⟨Nat.dvd_mul_left _ _, grown, Nat.le_refl _⟩
  · intro x inside
    rw [mem_spanned_append]
    by_cases early : x < column * tile
    · rw [before.uncovered x early]
      exact or_iff_left fun late => Nat.not_le.mpr early late.1
    · have from' := Nat.le_of_not_lt early
      exact iff_of_true (Or.inr ⟨from', inside⟩) (free _ ((div_bounds positive).1.mp from')
        ((div_bounds positive).2.mp inside))

theorem uncoveredSpans_spec (positive : 0 < tile) (short : columns ≤ 2 * (viewportWidth / 16))
    (sized : cutoffs.size = columns) :
    Ensures (uncoveredSpans tile columns cutoffs) (Collected tile columns cutoffs) := by
  rw [uncoveredSpans]
  refine Ensures.bind (show Ensures _ fun state => Collected tile columns cutoffs state.2
    from ?_) fun _ done => .value done
  apply loop_rule (fun state => state.1 ≤ columns ∧
    Collected tile state.1 cutoffs state.2 ∧ Spaced state.1 cutoffs state.2)
    (fun state => columns - state.1)
  · rintro ⟨column, spans⟩ ⟨upTo, collected, spaced⟩
    dsimp only at upTo collected spaced ⊢
    split
    · rename_i inside
      have found : cutoffs[column]? = some cutoffs[column] := Array.getElem?_eq_getElem _
      apply Ensures.step found
      split
      · rename_i covered
        have here : cutoffs[column]? ≠ some 0 := by
          rw [found]
          exact fun same => covered (Option.some.inj same)
        refine .value ⟨⟨by omega, collected.skip positive here, Or.inl ?_⟩, by omega⟩
        show 2 * spans.length ≤ column + 1
        rcases spaced with wide | ⟨wide, -⟩ <;> omega
      · rename_i uncovered
        rw [ne_eq, not_not] at uncovered
        rw [uncovered] at found
        refine Ensures.bind (show Ensures _ fun last => (column < last ∧ last ≤ columns) ∧
          (∀ c, column ≤ c → c < last → cutoffs[c]? = some 0) ∧ cutoffs[last]? ≠ some 0
            from ?_) fun last ended => ?_
        · apply loop_rule (fun last => (column < last ∧ last ≤ columns) ∧
            ∀ c, column ≤ c → c < last → cutoffs[c]? = some 0) (fun last => columns - last)
          · rintro last ⟨bounds, free⟩
            split
            · rename_i within
              have there : cutoffs[last]? = some cutoffs[last] := Array.getElem?_eq_getElem _
              apply Ensures.step there
              split
              · rename_i zero
                rw [zero] at there
                refine .value ⟨⟨by omega, fun c lower upper => ?_⟩, by omega⟩
                rcases Nat.lt_succ_iff_lt_or_eq.mp upper with before | rfl
                · exact free c lower before
                · exact there
              · rename_i covered
                refine .value ⟨bounds, free, ?_⟩
                rw [there]
                exact fun same => covered (Option.some.inj same)
            · rename_i passed
              refine .value ⟨bounds, free, ?_⟩
              rw [Array.getElem?_eq_none (by omega)]
              exact fun absurdity => by cases absurdity
          · refine ⟨by omega, fun c lower upper => ?_⟩
            rwa [show c = column by omega]
          · omega
        · obtain ⟨bounds, free, ends⟩ := ended
          have room : spans.length < viewportWidth / 16 := by
            rcases spaced with wide | ⟨-, covered⟩
            · omega
            · exact absurd found covered
          apply Ensures.guarded room
          refine .value ⟨⟨bounds.2, collected.push positive (Nat.le_of_lt bounds.1) free,
            Or.inr ⟨?_, ends⟩⟩, by omega⟩
          rw [List.length_append, List.length_singleton]
          rcases spaced with wide | ⟨-, covered⟩
          · omega
          · exact absurd found covered
    · rename_i outside
      have all : column = columns := by omega
      subst all
      exact .value collected
  · exact ⟨Nat.zero_le _, collected_nil, Or.inl (Nat.zero_le _)⟩
  · exact Nat.lt_succ_self _

end Collect

/-! ## Filling the rows -/

/-- The words of the background. -/
def Background.drawing (background : Background) (wire : Bool) : Drawing UInt16 :=
  fun y x _ => wireOrder wire ((background.row y).get ⟨x % 4, Nat.mod_lt _ (by decide)⟩)

/-- The places of a target where the background is drawn. -/
def BandTarget.uncovered (target : BandTarget) (occlusion : Occlusion) (opaqueTiles : ℕ) :
    Set (ℕ × ℕ) :=
  {place ∈ block target.y (target.y + target.rows) 0 viewportWidth |
    opaqueTiles = 0 ∨ occlusion.cutoffAt place.1 place.2 = 0}

section Fill

variable {target : BandTarget} {occlusion : Occlusion} {opaqueTiles : ℕ}
  {background : Background} {wire : Bool} {pixels : Array UInt16} {y first last : ℕ}

/-- A span that starts at a tile repeats the four words from the first one on. -/
theorem fill_eq (above : target.y ≤ y) (below : y < target.y + target.rows)
    (fits : target.stride * target.rows ≤ pixels.size) (tiles : 4 ∣ first)
    (ordered : first ≤ last) (narrow : last ≤ viewportWidth) :
    Background.fill ((y - target.y) * target.stride + first) (last - first)
        ((background.row y).map (wireOrder wire)) pixels =
      some (shade target.y target.stride (restrict (block y (y + 1) first last)
        (background.drawing wire)) pixels) := by
  apply writeSpan_row above ordered (narrow.trans target.wide)
    (target.row_fits fits below above narrow)
  intro k a short
  have same : (first + k) % 4 = k % 4 := by omega
  have four : k % 4 < 4 := Nat.mod_lt _ (by decide)
  rw [Vector.getElem?_map, Vector.getElem?_eq_getElem four, Option.map_some]
  simp only [Background.drawing, same]
  rfl

/-- The spans of the background are filled with its words. -/
def DrawsBackground {σ : Type} (canvas : Canvas UInt16 σ) (s : σ)
    (fill : ℕ → ℕ → Vector UInt16 4 → σ → Option σ) (target : BandTarget)
    (background : Background) (wire : Bool) : Prop :=
  ∀ y first last, target.y ≤ y → y < target.y + target.rows → 4 ∣ first → first ≤ last →
    last ≤ viewportWidth → canvas.Draws s (fill ((y - target.y) * target.stride + first)
      (last - first) ((background.row y).map (wireOrder wire)))
        (restrict (block y (y + 1) first last) (background.drawing wire))

theorem buffer_drawsBackground (fits : target.stride * target.rows ≤ pixels.size) :
    DrawsBackground (Grid.rows UInt16 target.y target.stride) pixels Background.fill target
      background wire := by
  intro y first last above below tiles ordered narrow t reached
  rw [← size_of_reached reached] at fits
  exact fill_eq above below fits tiles ordered narrow

section Targets

variable {σ : Type} {canvas : Canvas UInt16 σ} {s t : σ}
  {fill : ℕ → ℕ → Vector UInt16 4 → σ → Option σ}

/-- One row is filled on all spans. -/
theorem fillRow_spec (fills : DrawsBackground canvas s fill target background wire)
    (reached : canvas.Reached s t) {spans : List (ℕ × ℕ)} (above : target.y ≤ y)
    (below : y < target.y + target.rows)
    (tiles : ∀ span ∈ spans, 4 ∣ span.1 ∧ span.1 ≤ span.2 ∧ span.2 ≤ viewportWidth) :
    Ensures (forEach (fun (start, stop) _ => fill
        ((y - target.y) * target.stride + start) (stop - start)
          ((background.row y).map (wireOrder wire))) 0 spans t) fun filled => filled =
      canvas.shade (restrict {place | place.1 = y ∧ place.2 ∈ spanned spans}
        (background.drawing wire)) t := by
  apply (forEach_rule (fun k filled => filled = canvas.shade
    (restrict {place | place.1 = y ∧ place.2 ∈ spanned (spans.take k)}
      (background.drawing wire)) t) _ _).mono
  · intro filled done
    rwa [Nat.zero_add, List.take_length] at done
  · have none : {place : ℕ × ℕ | place.1 = y ∧ place.2 ∈ spanned (spans.take 0)} = ∅ := by
      ext place
      simp [spanned]
    rw [none, Canvas.shade_restrict_empty]
  · rintro k ⟨start, stop⟩ _ found rfl
    obtain ⟨start4, ordered, narrow⟩ := tiles _ (List.mem_of_getElem? found)
    refine ⟨_, fills y start stop above below start4 ordered narrow _ (reached.shade _), ?_⟩
    rw [Canvas.shade_restrict_again fun _ _ _ _ => rfl]
    congr 2
    ext ⟨row, x⟩
    rw [Nat.zero_add, List.take_add_one, found, Option.toList_some, Set.mem_union, mem_block]
    simp only [Set.mem_ofPred_eq, mem_spanned_append]
    constructor
    · rintro (⟨rfl, old⟩ | ⟨⟨lower, upper⟩, new⟩)
      · exact ⟨rfl, Or.inl old⟩
      · exact ⟨by omega, Or.inr new⟩
    · rintro ⟨rfl, old | new⟩
      · exact Or.inl ⟨rfl, old⟩
      · exact Or.inr ⟨by omega, new⟩

end Targets

/-! ## All rows -/

theorem tileRow_fits (tile : ScreenTile) (inside : y < viewportHeight) :
    y / tile.pixels * (viewportWidth / tile.pixels) + viewportWidth / tile.pixels ≤ tile.cells := by
  cases tile <;> simp only [ScreenTile.cells, ScreenTile.pixels, viewportWidth, viewportHeight] at *
    <;> omega

theorem tile_columns (tile : ScreenTile) :
    viewportWidth / tile.pixels * tile.pixels = viewportWidth ∧ 4 ∣ tile.pixels ∧
      viewportWidth / tile.pixels ≤ 2 * (viewportWidth / 16) := by
  cases tile <;> decide

/-- The spans of a row are its columns without a cutoff. -/
theorem rowSpans_spec (inside : y < viewportHeight) :
    Ensures (if opaqueTiles = 0 then some [(0, viewportWidth)]
      else do
        let cutoffs ← slice? occlusion.cutoffs (y / occlusion.tile.pixels * occlusion.columns)
          (y / occlusion.tile.pixels * occlusion.columns + occlusion.columns)
        uncoveredSpans occlusion.tile.pixels occlusion.columns cutoffs) fun spans =>
      (∀ span ∈ spans, 4 ∣ span.1 ∧ span.1 ≤ span.2 ∧ span.2 ≤ viewportWidth) ∧
        ∀ x, x < viewportWidth →
          (x ∈ spanned spans ↔ opaqueTiles = 0 ∨ occlusion.cutoffAt y x = 0) := by
  obtain ⟨whole, tile4, short⟩ := tile_columns occlusion.tile
  split
  · rename_i none
    refine .value ⟨?_, fun x narrow => iff_of_true ⟨(0, viewportWidth), by simp, ?_⟩ (Or.inl none)⟩
    · intro span member
      rw [List.mem_singleton] at member
      subst member
      exact ⟨Nat.dvd_zero _, Nat.zero_le _, Nat.le_refl _⟩
    · exact ⟨Nat.zero_le _, narrow⟩
  · rename_i some
    have fits := tileRow_fits occlusion.tile inside
    rw [← occlusion.sized] at fits
    apply Ensures.step (slice?_eq_some (Nat.le_add_right _ _) fits)
    apply (uncoveredSpans_spec occlusion.tile.pixels_pos short _).mono
    · rintro spans ⟨tiles, uncovered⟩
      rw [whole] at tiles uncovered
      refine ⟨fun span member => ?_, fun x narrow => ?_⟩
      · obtain ⟨start, ordered, upTo⟩ := tiles span member
        exact ⟨tile4.trans start, ordered, upTo⟩
      · have column : x / occlusion.tile.pixels < viewportWidth / occlusion.tile.pixels := by
          rwa [Nat.div_lt_iff_lt_mul occlusion.tile.pixels_pos, whole]
        obtain ⟨cutoff, found, isCutoff⟩ := occlusion.cutoff_read inside narrow
        rw [Occlusion.columns] at found
        rw [uncovered x narrow, getElem?_extract_of_lt (by omega), found, ← isCutoff]
        constructor
        · intro zero
          rw [Option.some.inj zero]
          exact Or.inr rfl
        · rintro (zero | zero)
          · exact absurd zero some
          · rw [UInt16.toNat_inj.mp (show cutoff.toNat = UInt16.toNat 0 from zero)]
    · rw [Array.size_extract, Nat.min_eq_left fits, Nat.add_sub_cancel_left]

/-- The places in the rows before one. -/
def before (region : Set (ℕ × ℕ)) (y : ℕ) : Set (ℕ × ℕ) := {place ∈ region | place.1 < y}

/-- **The background is drawn where it is uncovered**, onto any target that it fills. -/
theorem paintBackgroundOn_spec {σ : Type} {canvas : Canvas UInt16 σ} {s t : σ}
    {fill : ℕ → ℕ → Vector UInt16 4 → σ → Option σ}
    (fills : DrawsBackground canvas s fill target background wire)
    (reached : canvas.Reached s t) :
    Ensures (paintBackgroundOn fill target occlusion opaqueTiles background wire t) fun painted =>
      painted = canvas.shade (restrict (target.uncovered occlusion opaqueTiles)
        (background.drawing wire)) t := by
  have inside := target.inside
  unfold paintBackgroundOn
  refine Ensures.bind (show Ensures _ fun state => state.2 = canvas.shade
    (restrict (target.uncovered occlusion opaqueTiles) (background.drawing wire)) t from ?_)
    fun _ done => .value done
  apply loop_rule (fun state => (target.y ≤ state.1 ∧ state.1 ≤ target.y + target.rows) ∧
    state.2 = canvas.shade (restrict (before (target.uncovered occlusion opaqueTiles) state.1)
      (background.drawing wire)) t)
    (fun state => target.y + target.rows - state.1)
  · rintro ⟨band, u⟩ ⟨bounds, shaded⟩
    dsimp only at bounds shaded ⊢
    subst shaded
    split
    · rename_i here
      have later : band < occlusion.rowEnd band (target.y + target.rows) :=
        Occlusion.lt_rowEnd here
      have upTo : occlusion.rowEnd band (target.y + target.rows) ≤ target.y + target.rows :=
        Occlusion.rowEnd_le
      apply (rowSpans_spec (show band < viewportHeight by omega)).bind
      rintro spans ⟨tiles, uncovered⟩
      apply (forRange_rule (fun y u => u = canvas.shade
        (restrict (before (target.uncovered occlusion opaqueTiles) y)
          (background.drawing wire)) t) rfl _).bind
      · rintro _ rfl
        rw [Nat.add_sub_cancel' (Nat.le_of_lt later)]
        exact .value ⟨⟨⟨by omega, upTo⟩, rfl⟩, by omega⟩
      · rintro y _ lower upper rfl
        have inStrip : y < occlusion.rowEnd band (target.y + target.rows) := by omega
        have row : {place : ℕ × ℕ | place.1 = y ∧ place.2 ∈ spanned spans} =
            {place ∈ target.uncovered occlusion opaqueTiles | place.1 = y} := by
          have strip : y / occlusion.tile.pixels = band / occlusion.tile.pixels :=
            ScreenTile.same_of_lt_next lower (Nat.lt_of_lt_of_le inStrip (Nat.min_le_left _ _))
          ext ⟨v, x⟩
          simp only [Set.mem_ofPred_eq, BandTarget.uncovered, mem_block]
          constructor
          · rintro ⟨rfl, shown⟩
            have narrow : x < viewportWidth := by
              obtain ⟨span, member, -, upper'⟩ := shown
              exact Nat.lt_of_lt_of_le upper' (tiles span member).2.2
            rw [uncovered x narrow, ← Occlusion.cutoffAt_congr strip rfl] at shown
            exact ⟨⟨by omega, shown⟩, rfl⟩
          · rintro ⟨⟨inside, shown⟩, rfl⟩
            rw [uncovered x inside.2.2, ← Occlusion.cutoffAt_congr strip rfl]
            exact ⟨rfl, shown⟩
        apply (fillRow_spec fills (reached.shade _) (by omega) (by omega) tiles).mono
        rintro _ rfl
        rw [Canvas.shade_restrict_again fun _ _ _ _ => rfl, row]
        congr 2
        ext ⟨v, x⟩
        simp only [before, Set.mem_union, Set.mem_ofPred_eq]
        rw [← and_or_left, Nat.lt_succ_iff_lt_or_eq]
    · rename_i done
      have all : before (target.uncovered occlusion opaqueTiles) band =
          target.uncovered occlusion opaqueTiles := by
        ext ⟨y, x⟩
        refine and_iff_left_of_imp fun here => ?_
        have rows := here.1.1.2
        simp only at rows ⊢
        omega
      exact .value (by rw [all])
  · refine ⟨by omega, ?_⟩
    have none : before (target.uncovered occlusion opaqueTiles) target.y = ∅ := by
      ext ⟨y, x⟩
      refine iff_of_false (fun here => ?_) (Set.notMem_empty _)
      have rows := here.1.1.1.1
      have above := here.2
      simp only at rows above
      omega
    rw [none, Canvas.shade_restrict_empty]
  · show target.y + target.rows - target.y < target.rows + 1
    omega

/-- **The background is drawn where it is uncovered.** -/
theorem paintBackground_spec (fits : target.stride * target.rows ≤ pixels.size) :
    Ensures (paintBackground target occlusion opaqueTiles background wire pixels) fun painted =>
      painted = shade target.y target.stride (restrict (target.uncovered occlusion opaqueTiles)
        (background.drawing wire)) pixels := by
  have painted : Ensures (paintBackgroundOn Background.fill target occlusion opaqueTiles
      background wire pixels) _ := paintBackgroundOn_spec (buffer_drawsBackground fits) .refl
  rwa [paintBackgroundOn_buffer] at painted

end Fill

end Deskkin.Presentation
