/-
# What the occlusion map leaves visible

A board may be hidden at a place by a nearer one, which the cutoff of the place's tile
tells. The searches for visible spans go from tile to tile and end; what they find are
the places that are not hidden.
-/

import Deskkin.Presentation.Raster

namespace Deskkin.Presentation

open Loops Grid

namespace ScreenTile

theorem pixels_pos (tile : ScreenTile) : 0 < tile.pixels := by
  cases tile <;> decide

variable {tile : ScreenTile} {x k : ℕ}

theorem lt_next : x < (x / tile.pixels + 1) * tile.pixels := by
  cases tile <;> simp only [pixels] <;> omega

theorem same_of_lt_next (lower : x ≤ k) (upper : k < (x / tile.pixels + 1) * tile.pixels) :
    k / tile.pixels = x / tile.pixels := by
  cases tile <;> simp only [pixels] at upper ⊢ <;> omega

end ScreenTile

namespace Occlusion

variable {self : Occlusion} {y x stop index : ℕ}

/-- The cutoff of the tile of a place. -/
def cutoffAt (self : Occlusion) (y x : ℕ) : ℕ :=
  (self.cutoffs[y / self.tile.pixels * self.columns + x / self.tile.pixels]?.getD 0).toNat

theorem cell_lt (tile : ScreenTile) (inY : y < viewportHeight) (inX : x < viewportWidth) :
    y / tile.pixels * (viewportWidth / tile.pixels) + x / tile.pixels < tile.cells := by
  cases tile <;> simp only [ScreenTile.cells, ScreenTile.pixels, viewportWidth, viewportHeight] at *
    <;> omega

theorem cutoff_read (self : Occlusion) (inY : y < viewportHeight) (inX : x < viewportWidth) :
    ∃ cutoff, self.cutoffs[y / self.tile.pixels * self.columns + x / self.tile.pixels]? =
      some cutoff ∧ cutoff.toNat = self.cutoffAt y x := by
  have inside := cell_lt self.tile inY inX
  rw [← self.sized] at inside
  have found : self.cutoffs[y / self.tile.pixels * self.columns + x / self.tile.pixels]? =
      some _ := Array.getElem?_eq_getElem inside
  exact ⟨_, found, by rw [cutoffAt, found, Option.getD_some]⟩

/-- Two places in one tile have one cutoff. -/
theorem cutoffAt_congr {y' x' : ℕ} (rows : y / self.tile.pixels = y' / self.tile.pixels)
    (columns : x / self.tile.pixels = x' / self.tile.pixels) :
    self.cutoffAt y x = self.cutoffAt y' x' := by
  rw [cutoffAt, cutoffAt, rows, columns]

/-! ## Spans -/

/-- The columns that are skipped satisfy the test, and the first one after them does not. -/
theorem skipTiles_spec (test : ℕ → Bool) (inY : y < viewportHeight) (ordered : x ≤ stop)
    (inStop : stop ≤ viewportWidth) :
    Ensures (self.skipTiles (y / self.tile.pixels * self.columns) stop test x) fun e =>
      (x ≤ e ∧ e ≤ stop) ∧ (∀ k, x ≤ k → k < e → test (self.cutoffAt y k) = true) ∧
        (e < stop → test (self.cutoffAt y e) = false) := by
  apply loop_rule (fun e => (x ≤ e ∧ e ≤ stop) ∧
    ∀ k, x ≤ k → k < e → test (self.cutoffAt y k) = true) (fun e => stop - e)
  · rintro e ⟨bounds, skipped⟩
    split
    · rename_i inside
      obtain ⟨cutoff, found, isCutoff⟩ := cutoff_read self inY
        (show e < viewportWidth by omega)
      apply Ensures.step found
      rw [isCutoff]
      have later : e < (e / self.tile.pixels + 1) * self.tile.pixels := ScreenTile.lt_next
      cases passed : test (self.cutoffAt y e) with
      | true =>
          refine .value ⟨⟨by omega, fun k lower upper => ?_⟩, by omega⟩
          by_cases before : k < e
          · exact skipped k lower before
          · rw [cutoffAt_congr rfl (ScreenTile.same_of_lt_next (Nat.le_of_not_lt before)
              (by omega)), passed]
      | false => exact .value ⟨bounds, skipped, fun _ => passed⟩
    · rename_i outside
      exact .value ⟨bounds, skipped, fun upper => absurd upper outside⟩
  · exact ⟨⟨Nat.le_refl _, ordered⟩, fun k lower upper => by omega⟩
  · exact Nat.lt_succ_self _

/-- The places where the board with this index is not hidden. -/
def visible (self : Occlusion) (index : ℕ) : Set (ℕ × ℕ) :=
  {place | self.cutoffAt place.1 place.2 ≤ index + 1}

/-- The first visible columns from `x` on, if there are any. -/
def IsVisibleSpan (self : Occlusion) (y x stop index : ℕ) : Option (ℕ × ℕ) → Prop
  | none => ∀ k, x ≤ k → k < stop → (y, k) ∉ self.visible index
  | some (first, last) => (x ≤ first ∧ first < last ∧ last ≤ stop) ∧
      (∀ k, x ≤ k → k < first → (y, k) ∉ self.visible index) ∧
        ∀ k, first ≤ k → k < last → (y, k) ∈ self.visible index

theorem visibleSpan_spec (inY : y < viewportHeight) (ordered : x ≤ stop)
    (inStop : stop ≤ viewportWidth) :
    Ensures (self.visibleSpan y x stop index) (self.IsVisibleSpan y x stop index) := by
  apply (skipTiles_spec (fun cutoff => cutoff > index + 1) inY ordered inStop).bind
  rintro first ⟨⟨lower, upper⟩, skipped, ends⟩
  have hidden : ∀ k, x ≤ k → k < first → (y, k) ∉ self.visible index := by
    intro k low high shown
    exact absurd shown (Nat.not_le.mpr (of_decide_eq_true (skipped k low high)))
  split
  · rename_i all
    subst all
    exact .value hidden
  · rename_i some
    apply (skipTiles_spec (fun cutoff => cutoff ≤ index + 1) inY upper inStop).bind
    rintro last ⟨⟨lower', upper'⟩, shown, ends'⟩
    refine .value ⟨⟨lower, Nat.lt_of_le_of_ne lower' ?_, upper'⟩, hidden,
      fun k low high => of_decide_eq_true (p := self.cutoffAt y k ≤ index + 1) (shown k low high)⟩
    rintro rfl
    have visibleHere := of_decide_eq_false (ends (by omega))
    have hiddenHere := of_decide_eq_false (ends' (by omega))
    omega

/-! ## Rows of tiles -/

theorem lt_rowEnd (inside : y < stop) : y < self.rowEnd y stop := by
  have later : y < (y / self.tile.pixels + 1) * self.tile.pixels := ScreenTile.lt_next
  rw [rowEnd]
  omega

theorem rowEnd_le : self.rowEnd y stop ≤ stop :=
  Nat.min_le_right _ _

/-- The rows of one row of tiles show the same columns. -/
theorem mem_visible_of_row {y' : ℕ} (lower : y ≤ y') (upper : y' < self.rowEnd y stop) :
    (y', x) ∈ self.visible index ↔ (y, x) ∈ self.visible index := by
  have row : y' / self.tile.pixels = y / self.tile.pixels :=
    ScreenTile.same_of_lt_next lower (Nat.lt_of_lt_of_le upper (Nat.min_le_left _ _))
  rw [visible, Set.mem_ofPred_eq, Set.mem_ofPred_eq, cutoffAt_congr row rfl]

/-- A rectangle without a visible span is hidden all over. -/
theorem hasVisibleSpan_spec {top bottom left right : ℕ} (inBottom : bottom ≤ viewportHeight)
    (ordered : left ≤ right) (inRight : right ≤ viewportWidth) :
    Ensures (self.hasVisibleSpan top bottom left right index) fun found =>
      found = false → ∀ y x, top ≤ y → y < bottom → left ≤ x → x < right →
        (y, x) ∉ self.visible index := by
  refine Ensures.bind (show Ensures _ fun state => state.1 = false →
    ∀ y x, top ≤ y → y < bottom → left ≤ x → x < right → (y, x) ∉ self.visible index from ?_)
    fun _ done => .value done
  apply loop_rule (fun state => ∀ y x, top ≤ y → y < state.2 → left ≤ x → x < right →
    (y, x) ∉ self.visible index) (fun state => bottom - state.2)
  · rintro ⟨found, row⟩ hidden
    dsimp only at hidden ⊢
    split
    · rename_i inside
      have below : row < self.rowEnd row bottom := lt_rowEnd inside
      apply (visibleSpan_spec (show row < viewportHeight by omega) ordered inRight).bind
      rintro (- | ⟨first, last⟩) spans
      · refine .value ⟨fun y x lower upper low high => ?_, by omega⟩
        by_cases before : y < row
        · exact hidden y x lower before low high
        · rw [mem_visible_of_row (Nat.le_of_not_lt before) upper]
          exact spans x low high
      · exact .value fun absurdity => by cases absurdity
    · rename_i outside
      exact .value fun _ y x lower upper => hidden y x lower (by omega)
  · exact fun y x lower upper => absurd lower (Nat.not_le.mpr upper)
  · exact Nat.lt_succ_self _

end Occlusion

theorem ScreenRect.right_le (r : ScreenRect) : r.right ≤ viewportWidth := by
  rw [right, clampTo]
  omega

theorem ScreenRect.bottom_le (r : ScreenRect) : r.bottom ≤ viewportHeight := by
  rw [bottom, clampTo]
  omega

namespace Occlusion

variable {self : Occlusion} {index : ℕ}

theorem cutoff_cell (self : Occlusion) {row column : ℕ}
    (inRow : row < viewportHeight / self.tile.pixels)
    (inColumn : column < viewportWidth / self.tile.pixels) :
    ∃ cutoff, self.cutoffs[row * self.columns + column]? = some cutoff ∧
      cutoff.toNat = self.cutoffAt (row * self.tile.pixels) (column * self.tile.pixels) := by
  have positive := self.tile.pixels_pos
  have read := cutoff_read self (y := row * self.tile.pixels) (x := column * self.tile.pixels)
    (Nat.lt_of_lt_of_le (Nat.mul_lt_mul_of_pos_right inRow positive) (Nat.div_mul_le_self _ _))
    (Nat.lt_of_lt_of_le (Nat.mul_lt_mul_of_pos_right inColumn positive) (Nat.div_mul_le_self _ _))
  rwa [Nat.mul_div_cancel _ positive, Nat.mul_div_cancel _ positive] at read

theorem divCeil_tile_le (tile : ScreenTile) {stop : ℕ} :
    (stop ≤ viewportWidth → divCeil stop tile.pixels ≤ viewportWidth / tile.pixels) ∧
      (stop ≤ viewportHeight → divCeil stop tile.pixels ≤ viewportHeight / tile.pixels) := by
  cases tile <;> simp only [divCeil, ScreenTile.pixels, viewportWidth, viewportHeight] <;> omega

/-- A rectangle that meets no hidden tile is visible all over. -/
theorem hides_spec (self : Occlusion) (r : ScreenRect) (index : ℕ) :
    Ensures (self.hides r index) fun hidden =>
      hidden = false → ∀ y x, r.top ≤ y → y < r.bottom → r.left ≤ x → x < r.right →
        (y, x) ∈ self.visible index := by
  have positive := self.tile.pixels_pos
  have rows := (divCeil_tile_le self.tile).2 r.bottom_le
  have columns := (divCeil_tile_le self.tile).1 r.right_le
  have tested : ∀ row ∈ List.range' (r.top / self.tile.pixels)
      (divCeil r.bottom self.tile.pixels - r.top / self.tile.pixels),
      ((List.range' (r.left / self.tile.pixels)
        (divCeil r.right self.tile.pixels - r.left / self.tile.pixels)).anyM fun column => do
          let cutoff ← self.cutoffs[row * self.columns + column]?
          return decide (cutoff.toNat > index + 1)) =
      some ((List.range' (r.left / self.tile.pixels)
        (divCeil r.right self.tile.pixels - r.left / self.tile.pixels)).any fun column =>
          self.cutoffAt (row * self.tile.pixels) (column * self.tile.pixels) > index + 1) := by
    intro row inRow
    rw [List.mem_range'_1] at inRow
    apply anyM_eq_some
    intro column inColumn
    rw [List.mem_range'_1] at inColumn
    obtain ⟨cutoff, found, isCutoff⟩ := cutoff_cell self (show row < _ by omega)
      (show column < _ by omega)
    rw [found, ← isCutoff]
    rfl
  refine ⟨_, anyM_eq_some tested, fun unhidden y x lowY highY lowX highX => ?_⟩
  have row : y / self.tile.pixels < divCeil r.bottom self.tile.pixels :=
    div_lt_divCeil highY positive
  have column : x / self.tile.pixels < divCeil r.right self.tile.pixels :=
    div_lt_divCeil highX positive
  have fromTop : r.top / self.tile.pixels ≤ y / self.tile.pixels := Nat.div_le_div_right lowY
  have fromLeft : r.left / self.tile.pixels ≤ x / self.tile.pixels := Nat.div_le_div_right lowX
  rw [List.any_eq_false] at unhidden
  have inRow := unhidden (y / self.tile.pixels) (List.mem_range'_1.mpr (by omega))
  rw [List.any_eq_true, not_exists] at inRow
  have here := fun hidden => inRow (x / self.tile.pixels)
    ⟨List.mem_range'_1.mpr (by omega), decide_eq_true hidden⟩
  have same : self.cutoffAt (y / self.tile.pixels * self.tile.pixels)
      (x / self.tile.pixels * self.tile.pixels) = self.cutoffAt y x :=
    cutoffAt_congr (Nat.mul_div_cancel _ positive) (Nat.mul_div_cancel _ positive)
  rw [same] at here
  exact Nat.le_of_not_lt here

end Occlusion

end Deskkin.Presentation
