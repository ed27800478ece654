/-
# Bands show the rows of the scene

A band draws the background and the boards on its own rows and nothing else, so bands
that hold each row once show together what the scene shows. Their samples add up to the
places where the boards are lit, and a build that checks its arithmetic stops when one
of the two sums does not fit its counter.
-/

import Deskkin.Presentation.PreparedRows

namespace Deskkin.Presentation

open Loops Grid Layers

/-! ## Counting -/

/-- One of the two counters. -/
def RasterStats.count (stats : RasterStats) : TextureFilter → ℕ
  | .nearest => stats.nearestSamples
  | .bilinear => stats.bilinearSamples

theorem RasterStats.count_zero (filter : TextureFilter) : ({} : RasterStats).count filter = 0 := by
  cases filter <;> rfl

/-- Samples for their filters, added one after another. -/
def addAll (checks : Bool) (items : List (TextureFilter × ℕ)) (stats : RasterStats) :
    Option RasterStats :=
  items.foldlM (fun stats item => addSamples checks item.1 stats item.2) stats

/-- All samples for a filter. -/
def total (filter : TextureFilter) (items : List (TextureFilter × ℕ)) : ℕ :=
  ((items.filter fun item => item.1 = filter).map Prod.snd).sum

section Counting

variable {checks : Bool} {filter : TextureFilter} {stats : RasterStats} {samples : ℕ}
  {items more : List (TextureFilter × ℕ)}

theorem total_cons (item : TextureFilter × ℕ) :
    total filter (item :: items) =
      (if item.1 = filter then item.2 else 0) + total filter items := by
  rw [total, List.filter_cons]
  by_cases same : item.1 = filter
  · simp [same, total]
  · simp [same, total]

theorem total_append : total filter (items ++ more) = total filter items + total filter more := by
  rw [total, List.filter_append, List.map_append, List.sum_append]
  rfl

theorem addAll_append : addAll checks (items ++ more) stats =
    addAll checks items stats >>= addAll checks more :=
  List.foldlM_append

/-- Counters of 32 bits. -/
def RasterStats.Fits (stats : RasterStats) : Prop :=
  ∀ filter, stats.count filter ≤ Checked.u32Max

theorem RasterStats.fits_zero : ({} : RasterStats).Fits := by
  rintro (- | -) <;> exact Nat.zero_le _

theorem addCount_of_le {a b : ℕ} (fits : a + b ≤ Checked.u32Max) :
    addCount checks a b = some (a + b) := by
  cases checks with
  | true => exact Checked.add_of_le fits
  | false =>
      rw [Checked.u32Max] at fits
      exact congrArg some (Nat.mod_eq_of_lt (by omega))

/-- A counter goes up by the samples if the sum fits, checked or not. -/
theorem addSamples_of_le (fits : stats.count filter + samples ≤ Checked.u32Max) :
    Ensures (addSamples checks filter stats samples) fun next => ∀ other,
      next.count other = stats.count other + if filter = other then samples else 0 := by
  cases filter with
  | nearest =>
      refine ⟨_, Option.map_eq_some_iff.mpr ⟨_, addCount_of_le fits, rfl⟩, ?_⟩
      rintro (- | -) <;> rfl
  | bilinear =>
      refine ⟨_, Option.map_eq_some_iff.mpr ⟨_, addCount_of_le fits, rfl⟩, ?_⟩
      rintro (- | -) <;> rfl

theorem RasterStats.eq_of_count {other : RasterStats}
    (same : ∀ filter, stats.count filter = other.count filter) : stats = other := by
  obtain ⟨nearest, bilinear⟩ := stats
  obtain ⟨nearest', bilinear'⟩ := other
  have first : nearest = nearest' := same .nearest
  have second : bilinear = bilinear' := same .bilinear
  rw [first, second]

theorem addSamples_zero (fits : stats.Fits) : addSamples checks filter stats 0 = some stats := by
  obtain ⟨next, added, counts⟩ : Ensures (addSamples checks filter stats 0) _ :=
    addSamples_of_le (fits filter)
  have same : next = stats := RasterStats.eq_of_count fun other => by
    rw [counts, ite_self, Nat.add_zero]
  rw [added, same]

theorem addSamples_fits {next : RasterStats} (fits : stats.Fits)
    (added : addSamples checks filter stats samples = some next) : next.Fits := by
  have small : ∀ a sum, addCount checks a samples = some sum → sum ≤ Checked.u32Max := by
    intro a sum counted
    cases checks with
    | true => exact (Checked.add_eq_some_iff.mp counted).2
    | false =>
        cases counted
        exact Nat.le_of_lt_succ (Nat.mod_lt _ (by decide))
  cases filter with
  | nearest =>
      obtain ⟨sum, counted, rfl⟩ := Option.map_eq_some_iff.mp added
      rintro (- | -)
      · exact small _ _ counted
      · exact fits .bilinear
  | bilinear =>
      obtain ⟨sum, counted, rfl⟩ := Option.map_eq_some_iff.mp added
      rintro (- | -)
      · exact fits .nearest
      · exact small _ _ counted

theorem addAll_fits {next : RasterStats} (fits : stats.Fits)
    (added : addAll checks items stats = some next) : next.Fits := by
  induction items generalizing stats with
  | nil =>
      cases added
      exact fits
  | cons item items ih =>
      rw [addAll, List.foldlM_cons, Option.bind_eq_bind, Option.bind_eq_some_iff] at added
      obtain ⟨first, one, rest⟩ := added
      exact ih (addSamples_fits fits one) rest

/-- A checked counter goes up by the samples, if the sum fits. -/
theorem addSamples_checked : (∃ next, addSamples true filter stats samples = some next ∧
      ∀ other, next.count other = stats.count other + if filter = other then samples else 0) ∨
    addSamples true filter stats samples = none ∧
      Checked.u32Max < stats.count filter + samples := by
  by_cases fits : stats.count filter + samples ≤ Checked.u32Max
  · exact Or.inl (addSamples_of_le fits)
  · have exceeds := Checked.add_eq_none_iff.mpr (Nat.lt_of_not_le fits)
    refine Or.inr ⟨?_, Nat.lt_of_not_le fits⟩
    cases filter with
    | nearest => exact Option.map_eq_none_iff.mpr exceeds
    | bilinear => exact Option.map_eq_none_iff.mpr exceeds

/-- Additions come to the sums if these fit, checked or not. -/
theorem addAll_of_le
    (fits : ∀ filter, stats.count filter + total filter items ≤ Checked.u32Max) :
    Ensures (addAll checks items stats) fun next =>
      ∀ filter, next.count filter = stats.count filter + total filter items := by
  induction items generalizing stats with
  | nil => exact .value fun filter => rfl
  | cons item items ih =>
      have first := fits item.1
      rw [total_cons, if_pos rfl] at first
      obtain ⟨next, added, counts⟩ : Ensures (addSamples checks item.1 stats item.2) _ :=
        addSamples_of_le (by omega)
      have sums : ∀ filter, next.count filter + total filter items =
          stats.count filter + total filter (item :: items) := by
        intro filter
        rw [counts, total_cons, Nat.add_assoc]
      rw [addAll, List.foldlM_cons, added]
      apply (ih fun filter => (sums filter).trans_le (fits filter)).mono
      intro last counted filter
      rw [counted, sums]

/-- Checked counters stop where the sum of one of them does not fit. -/
theorem addAll_checked (fits : stats.Fits) : (addAll true items stats).isSome = true ↔
    ∀ filter, stats.count filter + total filter items ≤ Checked.u32Max := by
  induction items generalizing stats with
  | nil => exact iff_of_true rfl fits
  | cons item items ih =>
      rw [addAll, List.foldlM_cons]
      have step : (∃ next, addSamples true item.1 stats item.2 = some next ∧ _) ∨ _ :=
        addSamples_checked
      rcases step with ⟨next, added, counts⟩ | ⟨stopped, exceeds⟩
      · rw [added, Option.bind_eq_bind, Option.bind_some]
        apply (ih (addSamples_fits fits added)).trans
        apply forall_congr'
        intro filter
        rw [counts, total_cons, Nat.add_assoc]
      · rw [stopped]
        refine iff_of_false Bool.false_ne_true fun all => ?_
        have here := all item.1
        rw [total_cons, if_pos rfl] at here
        omega

theorem addAll_unchecked : (addAll false items stats).isSome = true := by
  induction items generalizing stats with
  | nil => rfl
  | cons item items ih =>
      obtain ⟨next, added⟩ : ∃ next, addSamples false item.1 stats item.2 = some next := by
        cases item.1 with
        | nearest => exact ⟨_, rfl⟩
        | bilinear => exact ⟨_, rfl⟩
      rw [addAll, List.foldlM_cons, added]
      exact ih

end Counting

/-! ## One band -/

/-- The rows of a target. -/
def BandTarget.held (target : BandTarget) : Set (ℕ × ℕ) :=
  {place | target.y ≤ place.1 ∧ place.1 < target.y + target.rows}

section Band

variable {self : PreparedScene} {board : SceneBillboard} {entry : PreparedBoard}
  {target : BandTarget} {background : Background} {checks wire : Bool} {index : ℕ}
  {stats : RasterStats} {pixels : Array UInt16} {σ : Type} {canvas : Canvas UInt16 σ} {s t : σ}

theorem mem_shown_lit {occlusion : Occlusion} {place : ℕ × ℕ} :
    place ∈ board.shown target (some (occlusion, index)) ↔
      place ∈ lit occlusion board index ∧ place ∈ target.held := by
  obtain ⟨y, x⟩ := place
  rw [SceneBillboard.mem_shown]
  exact ⟨fun ⟨inside, rows, seen⟩ => ⟨⟨inside, seen⟩, rows⟩,
    fun ⟨⟨inside, seen⟩, rows⟩ => ⟨inside, rows, seen⟩⟩

/-- The rows of a visible board in the target. -/
theorem VisibleEntry.clip {occlusion : Occlusion} {columns : Array ColumnSample} {used : ℕ}
    (entered : VisibleEntry occlusion board index columns used entry) (target : BandTarget) :
    Clip board target (max entry.top target.y) (min entry.bottom (target.y + target.rows))
      board.projected.screenRect.left board.projected.screenRect.right := by
  constructor
  intro y x
  rw [SceneBillboard.area, mem_block, entered.top, entered.bottom]
  omega

section

variable (entered : VisibleEntry self.occlusion board index self.columns self.columns.size entry)
include entered

/-- The columns of the entry are those of the board. -/
theorem VisibleEntry.slice (scaled : board.native = false) :
    slice? self.columns entry.columns.1 entry.columns.2 =
      some (board.columnsOf board.projected.screenRect.left board.projected.screenRect.right) := by
  obtain ⟨length, columnsAre⟩ := entered.sampled scaled
  rw [slice?_eq_some (by omega) entered.upTo]
  apply congrArg some
  apply Array.ext_getElem?
  intro k
  by_cases short : k < board.projected.screenRect.right - board.projected.screenRect.left
  · rw [getElem?_extract_of_lt (by omega), columnsAre k short,
      SceneBillboard.getElem?_columnsOf short]
  · rw [Array.getElem?_eq_none (by rw [Array.size_extract]; omega),
      Array.getElem?_eq_none (by rw [SceneBillboard.size_columnsOf]; omega)]

/-- The mask of the entry is that of the board where the board is. -/
theorem VisibleEntry.shown_mask :
    board.shown target (entry.mask self.occlusion index) =
      board.shown target (some (self.occlusion, index)) := by
  ext ⟨y, x⟩
  rw [SceneBillboard.mem_shown, SceneBillboard.mem_shown]
  exact and_congr_right fun inside => and_congr_right fun _ => entered.mask _ inside

end

/-- The blitter draws the board of an entry, natively or with its columns. -/
structure DrawsBoard (canvas : Canvas UInt16 σ) (s : σ) (blitter : Blitter σ)
    (entry : PreparedBoard) (board : SceneBillboard) (target : BandTarget) (wire : Bool)
    (draw : Drawing UInt16) : Prop where
  native : board.native = true →
    SceneBillboard.DrawsNative canvas s blitter board target wire draw
  samples : board.native = false → SceneBillboard.DrawsSamples canvas s blitter
    (fun x => entry.columns.1 + (x - board.projected.screenRect.left)) board target wire draw

theorem scalar_drawsBoard (entry : PreparedBoard) (board : SceneBillboard) (wire : Bool)
    (fits : target.stride * target.rows ≤ pixels.size) :
    DrawsBoard (Grid.rows UInt16 target.y target.stride) pixels ScalarBlitter.blitter entry board
      target wire (board.drawing wire) where
  native native := SceneBillboard.scalar_drawsNative native fits
  samples _ := SceneBillboard.scalar_drawsSamples fits _

section Targets

variable {blitter : ℕ → Blitter σ} {draw : Drawing UInt16}
  {fill : ℕ → ℕ → Vector UInt16 4 → σ → Option σ}

/-- Natively or scaled, the rows of the band are drawn with the entry. -/
theorem VisibleEntry.raster_spec
    (entered : VisibleEntry self.occlusion board index self.columns self.columns.size entry)
    (draws : DrawsBoard canvas s (blitter index) entry board target wire draw)
    (reached : canvas.Reached s t)
    (rows : max entry.top target.y < min entry.bottom (target.y + target.rows)) :
    Ensures (if entry.native then
        rasterNativeOn (blitter index) target board.projected.screenRect board.texture board.region
          wire (entry.mask self.occlusion index) t
      else do
        let columns ← slice? self.columns entry.columns.1 entry.columns.2
        let y ← AxisStepper.new board.region.height board.projected.screenRect.height
          ((max entry.top target.y : ℕ) - board.projected.screenRect.y.toInt)
        let rows : RasterRows := {
          origin := target.y
          stride := target.stride
          left := entry.left
          top := max entry.top target.y
          bottom := min entry.bottom (target.y + target.rows)
          columns := columns
          y := y
          region := board.region }
        rows.dispatchVisibleOn (blitter index) entry.columns.1 board.texture
          board.projected.filter wire (entry.mask self.occlusion index) t)
      (canvas.Drawn draw t (board.shown target (some (self.occlusion, index)))) := by
  have clip := entered.clip target
  rw [← entered.shown_mask]
  cases size : board.native with
  | true =>
      have nonempty := entered.nonempty
      have corner := ((clip.inside _ _).mpr
        ⟨⟨Nat.le_refl _, rows⟩, Nat.le_refl _, nonempty⟩).1
      rw [entered.native, size, if_pos rfl]
      exact rasterNativeOn_spec (draws.native size) (SceneBillboard.reaches corner) reached
  | false =>
      have drawn : Ensures ((board.rowsOf target _ _ _ _).dispatchVisibleOn (blitter index) _
          board.texture board.projected.filter wire (entry.mask self.occlusion index) t) _ :=
        dispatchVisibleOn_spec (draws.samples size) clip rows entered.nonempty reached
          fun k later => by omega
      rw [Nat.sub_self, Nat.add_zero] at drawn
      rw [entered.native, size, if_neg Bool.false_ne_true]
      apply Ensures.step (entered.slice size)
      apply Ensures.step (rowStepper_eq clip rows entered.nonempty)
      rw [entered.left]
      exact drawn

/-- **A band draws the rows of a board that it holds**, and counts their pixels. -/
theorem bandBoardOn_eq
    (isEntry : EntryOf self.occlusion board index self.columns self.columns.size entry)
    (draws : entry.visible = true →
      DrawsBoard canvas s (blitter index) entry board target wire draw)
    (reached : canvas.Reached s t) (small : stats.Fits) :
    self.bandBoardOn checks wire target blitter (board, entry) index (stats, t) =
      (addSamples checks board.projected.filter stats
        (board.shown target (some (self.occlusion, index))).ncard).map fun next =>
          (next, canvas.shade (restrict (board.shown target (some (self.occlusion, index))) draw)
            t) := by
  have nothing : board.shown target (some (self.occlusion, index)) = ∅ →
      some (stats, t) = (addSamples checks board.projected.filter stats
        (board.shown target (some (self.occlusion, index))).ncard).map fun next =>
          (next, canvas.shade (restrict (board.shown target (some (self.occlusion, index))) draw)
            t) := by
    intro empty
    rw [empty, Set.ncard_empty, addSamples_zero small, Canvas.shade_restrict_empty,
      Option.map_some]
  rw [PreparedScene.bandBoardOn]
  cases seen : entry.visible with
  | false =>
      rw [Bool.not_false, if_pos (Or.inl rfl)]
      apply nothing
      ext place
      rw [mem_shown_lit, isEntry.hidden seen]
      exact and_iff_left_of_imp fun absurdity => absurdity.elim
  | true =>
      have entered := isEntry.visible seen
      rw [Bool.not_true]
      by_cases empty : max entry.top target.y ≥ min entry.bottom (target.y + target.rows)
      · rw [if_pos (Or.inr empty)]
        apply nothing
        ext ⟨y, x⟩
        refine iff_of_false (fun here => ?_) (Set.notMem_empty _)
        rw [(entered.clip target).mem_shown] at here
        omega
      · rw [if_neg (not_or.mpr ⟨Bool.false_ne_true, empty⟩)]
        obtain ⟨⟨drawn, samples⟩, ran, shows, counted⟩ :=
          entered.raster_spec (draws seen) reached (not_le.mp empty)
        dsimp only at shows counted
        unfold PreparedBoard.mask at ran
        dsimp only at ran ⊢
        rw [ran, Option.bind_eq_bind, Option.bind_some, shows, counted]
        cases addSamples checks board.projected.filter stats
            (board.shown target (some (self.occlusion, index))).ncard with
        | none => rfl
        | some next => rfl

end Targets

/-- The samples of the boards where they are lit in a region. -/
noncomputable def litItems (occlusion : Occlusion) (region : Set (ℕ × ℕ)) :
    ℕ → List SceneBillboard → List (TextureFilter × ℕ)
  | _, [] => []
  | index, board :: boards =>
      (board.projected.filter, {place ∈ lit occlusion board index | place ∈ region}.ncard) ::
        litItems occlusion region (index + 1) boards

/-- What a drawing makes of a pixel, if it is in the area of the board. -/
noncomputable def layerBy (draw : Drawing UInt16) (board : SceneBillboard) (place : ℕ × ℕ)
    (word : UInt16) : UInt16 :=
  restrict board.area draw place.1 place.2 word

/-- What a scene makes of a pixel, by the drawings of its boards. -/
noncomputable def sceneDrawingBy (draw : SceneBillboard → Drawing UInt16) (occlusion : Occlusion)
    (opaqueTiles : ℕ) (boards : List SceneBillboard) (background : Background) (wire : Bool) :
    Drawing UInt16 :=
  fun y x word => paint (culled (cutoffIn occlusion) 0
      (boards.map fun board => layerBy (draw board) board)) (y, x)
    (restrict {place ∈ block 0 viewportHeight 0 viewportWidth |
      opaqueTiles = 0 ∨ occlusion.cutoffAt place.1 place.2 = 0} (background.drawing wire) y x word)

/-- In the rows of a band a board draws its layer, except for what is culled. -/
theorem shown_layer {occlusion : Occlusion} {draw : Drawing UInt16} (y x : ℕ) (word : UInt16) :
    restrict (board.shown target (some (occlusion, index))) draw y x word =
      restrict target.held (fun y x word => if index + 1 < cutoffIn occlusion (y, x) then word
        else layerBy draw board (y, x) word) y x word := by
  by_cases held : (y, x) ∈ target.held
  · rw [restrict_of_mem held, layerBy, ← restrict_lit]
    by_cases here : (y, x) ∈ lit occlusion board index
    · rw [restrict_of_mem here, restrict_of_mem (mem_shown_lit.mpr ⟨here, held⟩)]
    · rw [restrict_of_notMem here,
        restrict_of_notMem fun shown => here (mem_shown_lit.mp shown).1]
  · rw [restrict_of_notMem held, restrict_of_notMem fun shown => held (mem_shown_lit.mp shown).2]

section Targets

variable {blitter : ℕ → Blitter σ} {draw : SceneBillboard → Drawing UInt16}
  {fill : ℕ → ℕ → Vector UInt16 4 → σ → Option σ} {boards : List SceneBillboard}

theorem bandBoardsOn_eq {prepared : List PreparedBoard}
    (entries : ∀ i board, boards[i]? = some board → ∃ entry, prepared[i]? = some entry ∧
      EntryOf self.occlusion board (index + i) self.columns self.columns.size entry)
    (draws : ∀ i board entry, boards[i]? = some board → prepared[i]? = some entry →
      entry.visible = true →
        DrawsBoard canvas s (blitter (index + i)) entry board target wire (draw board))
    (reached : canvas.Reached s t) (small : stats.Fits) :
    forEach (self.bandBoardOn checks wire target blitter) index (boards.zip prepared) (stats, t) =
      (addAll checks (litItems self.occlusion target.held index boards) stats).map fun next =>
        (next, canvas.shade (restrict target.held fun y x =>
          paint (culled (cutoffIn self.occlusion) index
            (boards.map fun board => layerBy (draw board) board)) (y, x)) t) := by
  induction boards generalizing index prepared stats t with
  | nil =>
      have same : canvas.shade (restrict target.held fun y x =>
          paint (culled (cutoffIn self.occlusion) index
            (([] : List SceneBillboard).map fun board => layerBy (draw board) board)) (y, x)) t =
              t := by
        apply canvas.shade_of_id
        intro y x word
        by_cases held : (y, x) ∈ target.held
        · rw [restrict_of_mem held]
          rfl
        · rw [restrict_of_notMem held]
      rw [same]
      rfl
  | cons board boards ih =>
      obtain ⟨entry, first, isEntry⟩ := entries 0 board rfl
      have drawsFirst := draws 0 board entry rfl first
      rw [Nat.add_zero] at isEntry drawsFirst
      cases prepared with
      | nil => cases first
      | cons head prepared =>
          cases first
          have shift : ∀ i, index + (i + 1) = index + 1 + i := fun i => by omega
          have rest : ∀ i other, boards[i]? = some other → ∃ entry, prepared[i]? = some entry ∧
              EntryOf self.occlusion other (index + 1 + i) self.columns self.columns.size
                entry := by
            intro i other found
            have there := entries (i + 1) other found
            rwa [shift] at there
          have drawsRest : ∀ i other entry, boards[i]? = some other →
              prepared[i]? = some entry → entry.visible = true → DrawsBoard canvas s
                (blitter (index + 1 + i)) entry other target wire (draw other) := by
            intro i other entry found entered
            have there := draws (i + 1) other entry found entered
            rwa [shift] at there
          have region : {place ∈ lit self.occlusion board index | place ∈ target.held} =
              board.shown target (some (self.occlusion, index)) :=
            Set.ext fun _ => mem_shown_lit.symm
          rw [List.zip_cons_cons, forEach, bandBoardOn_eq isEntry drawsFirst reached small,
            litItems, addAll, List.foldlM_cons, region]
          cases added : addSamples checks board.projected.filter stats
              (board.shown target (some (self.occlusion, index))).ncard with
          | none => rfl
          | some next =>
              rw [Option.map_some, Option.bind_eq_bind, Option.bind_some,
                ih rest drawsRest (reached.shade _) (addSamples_fits small added),
                canvas.shade_shade, Option.bind_eq_bind, Option.bind_some, ← addAll]
              congr 1
              funext last
              congr 1
              apply Canvas.shade_congr
              intro y x word
              rw [shown_layer]
              by_cases held : (y, x) ∈ target.held
              · rw [restrict_of_mem held, restrict_of_mem held, restrict_of_mem held]
                rfl
              · rw [restrict_of_notMem held, restrict_of_notMem held, restrict_of_notMem held]

/-- **A band shows its rows of the scene**, unless a counter stops it, on every target whose
background and blitters draw rows. -/
theorem rasterBandOn_eq {occlusion : Occlusion}
    (prepared : PreparedScene.Of boards occlusion self)
    (fills : DrawsBackground canvas s fill target background wire)
    (draws : ∀ i board entry, boards[i]? = some board → self.prepared[i]? = some entry →
      entry.visible = true → DrawsBoard canvas s (blitter i) entry board target wire (draw board))
    (small : self.stats.raster.Fits) :
    self.rasterBandOn checks target fill background blitter wire s =
      (addAll checks (litItems self.occlusion target.held 0 boards) self.stats.raster).map
        fun raster =>
          ({ self with stats := { self.stats with raster := raster } },
            canvas.shade (restrict target.held (sceneDrawingBy draw self.occlusion
              self.stats.opaqueTiles boards background wire)) s) := by
  have rows := target.inside.2
  have entries : ∀ i board, boards[i]? = some board → ∃ entry, self.prepared[i]? = some entry ∧
      EntryOf self.occlusion board (0 + i) self.columns self.columns.size entry := by
    intro i board found
    rw [Nat.zero_add]
    exact prepared.entries i board found
  have drawsAll : ∀ i board entry, boards[i]? = some board → self.prepared[i]? = some entry →
      entry.visible = true →
        DrawsBoard canvas s (blitter (0 + i)) entry board target wire (draw board) := by
    intro i board entry found entered
    rw [Nat.zero_add]
    exact draws i board entry found entered
  obtain ⟨painted, ran, rfl⟩ : Ensures (paintBackgroundOn fill target self.occlusion
    self.stats.opaqueTiles background wire s) _ := paintBackgroundOn_spec fills .refl
  rw [PreparedScene.rasterBandOn, ran, Option.bind_eq_bind, Option.bind_some, prepared.sameBoards,
    bandBoardsOn_eq entries drawsAll (Canvas.Reached.refl.shade _) small, canvas.shade_shade]
  have same : canvas.shade (fun y x word => restrict target.held (fun y x =>
      paint (culled (cutoffIn self.occlusion) 0
        (boards.map fun board => layerBy (draw board) board)) (y, x)) y x
        (restrict (target.uncovered self.occlusion self.stats.opaqueTiles)
          (background.drawing wire) y x word)) s =
      canvas.shade (restrict target.held (sceneDrawingBy draw self.occlusion
        self.stats.opaqueTiles boards background wire)) s := by
    apply Canvas.shade_congr
    intro y x word
    by_cases held : (y, x) ∈ target.held
    · rw [restrict_of_mem held, restrict_of_mem held, sceneDrawingBy]
      congr 1
      by_cases here : (y, x) ∈ target.uncovered self.occlusion self.stats.opaqueTiles
      · have inViewport : (y, x) ∈ {place ∈ block 0 viewportHeight 0 viewportWidth |
            self.stats.opaqueTiles = 0 ∨ self.occlusion.cutoffAt place.1 place.2 = 0} :=
          ⟨⟨⟨Nat.zero_le _, Nat.lt_of_lt_of_le held.2 rows⟩, here.1.2⟩, here.2⟩
        rw [restrict_of_mem here, restrict_of_mem inViewport]
      · rw [restrict_of_notMem here, restrict_of_notMem fun inside =>
          here ⟨⟨held, inside.1.2⟩, inside.2⟩]
    · rw [restrict_of_notMem held, restrict_of_notMem held,
        restrict_of_notMem fun inside => held inside.1.1]
  rw [same]
  cases addAll checks (litItems self.occlusion target.held 0 boards) self.stats.raster with
  | none => rfl
  | some raster => rfl

end Targets

/-- **A band shows its rows of the scene**, unless a counter stops it. -/
theorem rasterBand_eq {boards : List SceneBillboard} {occlusion : Occlusion}
    (prepared : PreparedScene.Of boards occlusion self) (small : self.stats.raster.Fits)
    (fits : target.stride * target.rows ≤ pixels.size) :
    self.rasterBand checks target background wire pixels =
      (addAll checks (litItems self.occlusion target.held 0 boards)
        self.stats.raster).map fun raster =>
        ({ self with stats := { self.stats with raster := raster } },
          shade target.y target.stride (restrict target.held
            (sceneDrawing self.occlusion self.stats.opaqueTiles boards background wire))
              pixels) := by
  rw [← PreparedScene.rasterBandOn_scalar]
  exact rasterBandOn_eq prepared (buffer_drawsBackground fits)
    (fun _ board entry _ _ _ => scalar_drawsBoard entry board wire fits) small

end Band

/-! ## All bands -/

theorem Band.fits (band : Band) : band.target.stride * band.target.rows ≤ band.pixels.size :=
  BandTarget.fits_of_new band.accepted

/-- The rows of the bands. -/
def heldBy (bands : List Band) : Set (ℕ × ℕ) := {place | ∃ band ∈ bands, place ∈ band.target.held}

/-- Each row of the viewport is in one band. -/
structure IsPartition (bands : List Band) : Prop where
  apart : bands.Pairwise fun a b => Disjoint a.target.held b.target.held
  covers : ∀ y, y < viewportHeight →
    ∃ band ∈ bands, band.target.y ≤ y ∧ y < band.target.y + band.target.rows

/-- The samples of a filter, wherever its boards are lit. -/
noncomputable def visibleSamples (filter : TextureFilter) (occlusion : Occlusion)
    (boards : List SceneBillboard) : ℕ :=
  total filter (litItems occlusion Set.univ 0 boards)

section Bands

variable {occlusion : Occlusion} {boards : List SceneBillboard} {bands : List Band}
  {background : Background} {checks wire : Bool} {filter : TextureFilter} {index : ℕ}
  {self : PreparedScene}

theorem rasterBands_eq (prepared : PreparedScene.Of boards occlusion self)
    (small : self.stats.raster.Fits) :
    self.rasterBands checks background wire bands =
      (addAll checks (bands.flatMap fun band => litItems self.occlusion band.target.held 0 boards)
        self.stats.raster).map fun raster =>
          ({ self with stats := { self.stats with raster := raster } },
            bands.map fun band => shade band.target.y band.target.stride
              (restrict band.target.held (sceneDrawing self.occlusion self.stats.opaqueTiles boards
                background wire)) band.pixels) := by
  induction bands generalizing self with
  | nil => rfl
  | cons band bands ih =>
      rw [PreparedScene.rasterBands, rasterBand_eq prepared small band.fits, List.flatMap_cons,
        addAll_append]
      cases first : addAll checks (litItems self.occlusion band.target.held 0 boards)
          self.stats.raster with
      | none => rfl
      | some raster =>
          have later : PreparedScene.Of boards occlusion
              { self with stats := { self.stats with raster := raster } } :=
            ⟨prepared.sameBoards, prepared.prepared, prepared.length, prepared.entries⟩
          rw [Option.map_some, Option.bind_eq_bind, Option.bind_some]
          dsimp only
          rw [ih later (addAll_fits small first)]
          dsimp only [Option.bind_eq_bind, Option.bind_some]
          cases addAll checks (bands.flatMap fun band =>
              litItems self.occlusion band.target.held 0 boards) raster with
          | none => rfl
          | some last => rfl

theorem finite_lit {board : SceneBillboard} : (lit occlusion board index).Finite :=
  board.finite_area.subset fun _ here => here.1

/-- Regions that do not meet have their samples. -/
theorem total_union {first second : Set (ℕ × ℕ)} (apart : Disjoint first second) :
    total filter (litItems occlusion (first ∪ second) index boards) =
      total filter (litItems occlusion first index boards) +
        total filter (litItems occlusion second index boards) := by
  induction boards generalizing index with
  | nil => rfl
  | cons board boards ih =>
      have parts : {place ∈ lit occlusion board index | place ∈ first ∪ second} =
          {place ∈ lit occlusion board index | place ∈ first} ∪
            {place ∈ lit occlusion board index | place ∈ second} := by
        ext place
        exact and_or_left
      have disjoint : Disjoint {place ∈ lit occlusion board index | place ∈ first}
          {place ∈ lit occlusion board index | place ∈ second} :=
        apart.mono (fun _ here => here.2) fun _ here => here.2
      rw [litItems, litItems, litItems, total_cons, total_cons, total_cons, ih]
      dsimp only
      rw [parts, Set.ncard_union_eq disjoint (finite_lit.subset fun _ here => here.1)
        (finite_lit.subset fun _ here => here.1)]
      split <;> omega

theorem total_nothing : total filter (litItems occlusion ∅ index boards) = 0 := by
  induction boards generalizing index with
  | nil => rfl
  | cons board boards ih =>
      have none : {place ∈ lit occlusion board index | place ∈ (∅ : Set (ℕ × ℕ))} = ∅ := by
        ext place
        exact and_iff_right_of_imp fun absurdity => absurdity.elim
      rw [litItems, total_cons, ih, none, Set.ncard_empty, ite_self]

/-- Only the places that are lit matter. -/
theorem litItems_congr {first second : Set (ℕ × ℕ)}
    (same : ∀ board index, ∀ place ∈ lit occlusion board index,
      (place ∈ first ↔ place ∈ second)) :
    litItems occlusion first index boards = litItems occlusion second index boards := by
  induction boards generalizing index with
  | nil => rfl
  | cons board boards ih =>
      have region : {place ∈ lit occlusion board index | place ∈ first} =
          {place ∈ lit occlusion board index | place ∈ second} := by
        ext place
        exact and_congr_right fun here => same board index place here
      rw [litItems, litItems, region, ih]

/-- The samples of the bands are those of the rows they hold. -/
theorem total_bands
    (apart : bands.Pairwise fun a b => Disjoint a.target.held b.target.held) :
    total filter (bands.flatMap fun band => litItems occlusion band.target.held index boards) =
      total filter (litItems occlusion (heldBy bands) index boards) := by
  induction bands with
  | nil =>
      have none : heldBy [] = ∅ := by
        ext place
        simp [heldBy]
      rw [none, List.flatMap_nil]
      exact total_nothing.symm
  | cons band bands ih =>
      rw [List.pairwise_cons] at apart
      have region : heldBy (band :: bands) = band.target.held ∪ heldBy bands := by
        ext place
        simp [heldBy]
      have disjoint : Disjoint band.target.held (heldBy bands) := by
        rw [Set.disjoint_left]
        rintro place here ⟨other, member, there⟩
        exact Set.disjoint_left.mp (apart.1 other member) here there
      rw [List.flatMap_cons, total_append, region, total_union disjoint, ih apart.2]

/-- What is lit in the viewport is lit in the bands of a partition. -/
theorem total_partition (partition : IsPartition bands) :
    total filter (bands.flatMap fun band => litItems occlusion band.target.held 0 boards) =
      visibleSamples filter occlusion boards := by
  rw [total_bands partition.apart, visibleSamples]
  congr 1
  apply litItems_congr
  intro board index place here
  have viewport := SceneBillboard.mem_area.mp here.1
  refine iff_of_true ?_ trivial
  obtain ⟨band, member, rows⟩ := partition.covers place.1 viewport.1.1
  exact ⟨band, member, rows⟩

end Bands

end Deskkin.Presentation
