/-
# Prepared boards

The preparation writes an entry for each board: where it is, whether anything of it is
visible, and its sampled columns in a part of the scratch of its own. With such an entry
a band draws the rows of the board that it holds.
-/

import Deskkin.Presentation.Bands

namespace Deskkin.Presentation

open Loops Grid

/-- The mask of an entry. -/
def PreparedBoard.mask (entry : PreparedBoard) (occlusion : Occlusion) (index : ℕ) :
    Option (Occlusion × ℕ) :=
  if entry.masked then some (occlusion, index) else none

/-- What an entry says of a board that is visible. -/
structure VisibleEntry (occlusion : Occlusion) (board : SceneBillboard) (index : ℕ)
    (columns : Array ColumnSample) (used : ℕ) (entry : PreparedBoard) : Prop where
  left : entry.left = board.projected.screenRect.left
  top : entry.top = board.projected.screenRect.top
  bottom : entry.bottom = board.projected.screenRect.bottom
  nonempty : board.projected.screenRect.left < board.projected.screenRect.right
  native : entry.native = board.native
  mask : ∀ place ∈ board.area,
    place ∈ shownBy (entry.mask occlusion index) ↔ place ∈ occlusion.visible index
  upTo : entry.columns.2 ≤ used
  sampled : board.native = false →
    entry.columns.2 = entry.columns.1 +
        (board.projected.screenRect.right - board.projected.screenRect.left) ∧
      ∀ k, k < board.projected.screenRect.right - board.projected.screenRect.left →
        columns[entry.columns.1 + k]? =
          some (board.columnAt (board.projected.screenRect.left + k))

/-- What an entry says of a board. -/
structure EntryOf (occlusion : Occlusion) (board : SceneBillboard) (index : ℕ)
    (columns : Array ColumnSample) (used : ℕ) (entry : PreparedBoard) : Prop where
  hidden : entry.visible = false → lit occlusion board index = ∅
  visible : entry.visible = true → VisibleEntry occlusion board index columns used entry

/-- The columns that a board may sample: none at its native size. -/
def SceneBillboard.demand (board : SceneBillboard) : ℕ :=
  if board.native then 0 else board.projected.screenRect.right - board.projected.screenRect.left

def columnDemand (boards : List SceneBillboard) : ℕ := (boards.map SceneBillboard.demand).sum

/-- The preparation has gone on by one board. -/
structure Preparation.Extends (state next : Preparation) : Prop where
  used : state.used ≤ next.used ∧ next.used ≤ state.used + viewportWidth
  size : next.columns.size = state.columns.size
  within : next.used ≤ next.columns.size
  kept : ∀ i, i < state.used → next.columns[i]? = state.columns[i]?
  tiles : next.stats.opaqueTiles = state.stats.opaqueTiles
  raster : next.stats.raster = state.stats.raster
  scaler : next.stats.scalerPreparations ≤ state.stats.scalerPreparations + 1

section Entries

variable {occlusion : Occlusion} {board : SceneBillboard} {index : ℕ}
  {columns later : Array ColumnSample} {used more : ℕ} {entry : PreparedBoard}

/-- Later boards leave the columns of an entry as they are. -/
theorem EntryOf.extend (prepared : EntryOf occlusion board index columns used entry)
    (grows : used ≤ more) (kept : ∀ i, i < used → later[i]? = columns[i]?) :
    EntryOf occlusion board index later more entry := by
  refine ⟨prepared.hidden, fun visible => ?_⟩
  obtain ⟨left, top, bottom, nonempty, native, mask, upTo, sampled⟩ := prepared.visible visible
  refine ⟨left, top, bottom, nonempty, native, mask, upTo.trans grows, fun scaled => ?_⟩
  obtain ⟨length, columnsAre⟩ := sampled scaled
  refine ⟨length, fun k short => ?_⟩
  rw [kept _ (by omega), columnsAre k short]

theorem SceneBillboard.demand_le (board : SceneBillboard) : board.demand ≤ viewportWidth := by
  have inRight := board.projected.screenRect.right_le
  rw [demand]
  split <;> omega

theorem columnDemand_le (boards : List SceneBillboard) :
    columnDemand boards ≤ boards.length * viewportWidth := by
  induction boards with
  | nil => exact Nat.zero_le _
  | cons board boards ih =>
      have one := board.demand_le
      rw [columnDemand] at ih ⊢
      rw [List.map_cons, List.sum_cons, List.length_cons, Nat.succ_mul]
      omega

/-- The next board adds what it demands. -/
theorem columnDemand_take {boards : List SceneBillboard} {k : ℕ} (found : boards[k]? = some board) :
    columnDemand (boards.take (k + 1)) = columnDemand (boards.take k) + board.demand := by
  rw [columnDemand, columnDemand, List.take_add_one, found, Option.toList_some, List.map_append,
    List.sum_append, List.map_singleton, List.sum_singleton]

theorem columnDemand_take_le (boards : List SceneBillboard) (k : ℕ) :
    columnDemand (boards.take k) ≤ columnDemand boards := by
  have all : columnDemand boards = columnDemand (boards.take k) + columnDemand (boards.drop k) := by
    rw [columnDemand, columnDemand, columnDemand, ← List.sum_append, ← List.map_append,
      List.take_append_drop]
  omega

/-- The rectangle of a board, as the rows and columns of the whole screen. -/
theorem clip_screen {stride : ℕ} (wide : viewportWidth ≤ stride) :
    Clip board (screen stride wide) board.projected.screenRect.top
      board.projected.screenRect.bottom board.projected.screenRect.left
        board.projected.screenRect.right := by
  constructor
  intro y x
  rw [SceneBillboard.area, mem_block]
  have inBottom := board.projected.screenRect.bottom_le
  simp only [screen]
  omega

/-- Nothing of a board is lit that is clipped away. -/
theorem lit_eq_empty
    (nothing : ¬(board.projected.screenRect.left < board.projected.screenRect.right ∧
      board.projected.screenRect.top < board.projected.screenRect.bottom)) :
    lit occlusion board index = ∅ := by
  ext ⟨y, x⟩
  refine iff_of_false (fun here => nothing ?_) (Set.notMem_empty _)
  obtain ⟨⟨top, bottom⟩, left, right⟩ := here.1
  omega

/-- The test for something visible: what fails it is not lit. -/
theorem visible_spec (masked : Bool) :
    Ensures (if board.projected.screenRect.left < board.projected.screenRect.right ∧
        board.projected.screenRect.top < board.projected.screenRect.bottom then
        if masked then occlusion.hasVisibleSpan board.projected.screenRect.top
          board.projected.screenRect.bottom board.projected.screenRect.left
          board.projected.screenRect.right index
        else some true
      else some false) fun visible =>
      (visible = false → lit occlusion board index = ∅) ∧
        (visible = true → board.projected.screenRect.left < board.projected.screenRect.right ∧
          board.projected.screenRect.top < board.projected.screenRect.bottom) := by
  have inRight := board.projected.screenRect.right_le
  have inBottom := board.projected.screenRect.bottom_le
  split
  · rename_i nonempty
    cases masked with
    | false => exact .value ⟨fun absurdity => (by cases absurdity), fun _ => nonempty⟩
    | true =>
        apply (Occlusion.hasVisibleSpan_spec inBottom (Nat.le_of_lt nonempty.1) inRight).mono
        refine fun found none => ⟨fun missed => ?_, fun _ => nonempty⟩
        ext ⟨y, x⟩
        refine iff_of_false (fun here => ?_) (Set.notMem_empty _)
        obtain ⟨⟨top, bottom⟩, left, right⟩ := here.1
        exact none missed y x top bottom left right here.2
  · rename_i nothing
    exact .value ⟨fun _ => lit_eq_empty nothing, fun absurdity => by cases absurdity⟩

theorem SceneBillboard.demand_of_scaled (scaled : board.native = false) :
    board.demand = board.projected.screenRect.right - board.projected.screenRect.left := by
  rw [demand, scaled]
  rfl

/-- The columns that an entry takes. -/
theorem count_eq (visible : Bool) :
    (if (visible && !isNative board.projected board.region) = true then
      board.projected.screenRect.right - board.projected.screenRect.left else 0) =
    if visible then board.demand else 0 := by
  cases visible with
  | false => rfl
  | true =>
      rw [SceneBillboard.demand, SceneBillboard.native]
      cases isNative board.projected board.region <;> rfl

open PreparedScene in
/-- An entry is written for the board, or its columns do not fit the scratch. -/
theorem prepareEntry_spec {self : Preparation}
    (tiles : self.stats.opaqueTiles = 0 → ∀ y x, occlusion.cutoffAt y x = 0)
    (within : self.used ≤ self.columns.size)
    (few : self.stats.scalerPreparations < Checked.u32Max) :
    Ensures (prepareEntry occlusion board index (.ok self)) fun result =>
      (self.used + board.demand ≤ self.columns.size → ∃ next, result = .ok next) ∧
        ∀ next, result = .ok next → self.Extends next ∧ next.used ≤ self.used + board.demand ∧
          ∃ entry, next.prepared = self.prepared ++ [entry] ∧
            EntryOf occlusion board index next.columns next.used entry := by
  have most := board.demand_le
  unfold prepareEntry
  apply (mask_spec tiles).bind
  intro masked leaves
  apply (visible_spec masked).bind
  rintro visible ⟨hidden, nonempty⟩
  dsimp only
  rw [count_eq]
  generalize countIs : (if visible = true then board.demand else 0) = count
  have narrow : count ≤ board.demand := by
    rw [← countIs]
    split <;> omega
  split
  · exact .value ⟨fun room => by omega, fun next ok => by cases ok⟩
  rename_i fits
  split
  · -- no columns are sampled: the board is hidden, or native
    rename_i none
    refine .value ⟨fun _ => ⟨_, rfl⟩, fun next ok => ?_⟩
    cases ok
    refine ⟨⟨⟨Nat.le_refl _, Nat.le_add_right _ _⟩, rfl, within, fun _ _ => rfl, rfl, rfl,
      Nat.le_succ _⟩, Nat.le_add_right _ _, _, rfl, hidden, fun shown => ⟨rfl, rfl, rfl,
        (nonempty shown).1, rfl, leaves, by dsimp only; omega, fun scaled => ?_⟩⟩
    have isVisible : visible = true := shown
    have columns := (nonempty shown).1
    rw [if_pos isVisible, SceneBillboard.demand_of_scaled scaled] at countIs
    omega
  · rename_i counted
    obtain ⟨rfl, scaled⟩ : visible = true ∧ board.native = false := by
      refine ⟨by_contra fun hides => counted ?_, ?_⟩
      · rw [← countIs, if_neg hides]
      · cases native : board.native with
        | false => rfl
        | true =>
            rw [SceneBillboard.demand, native, if_pos rfl, ite_self] at countIs
            exact absurd countIs.symm counted
    rw [if_pos rfl, SceneBillboard.demand_of_scaled scaled] at countIs
    subst countIs
    obtain ⟨columns, rows⟩ := nonempty rfl
    have room : self.used + (board.projected.screenRect.right -
        board.projected.screenRect.left) ≤ self.columns.size := by omega
    obtain ⟨stepper, sampled⟩ :=
      columns_spec (clip_screen (Nat.le_refl viewportWidth)) rows columns room
    apply Ensures.step stepper
    apply Ensures.step sampled
    apply Ensures.step (Checked.add_of_le few)
    refine .value ⟨fun _ => ⟨_, rfl⟩, fun next ok => ?_⟩
    cases ok
    refine ⟨⟨⟨Nat.le_add_right _ _, by dsimp only; omega⟩, size_fill, ?_,
      fun i before => getElem?_fill_before before, rfl, rfl, Nat.le_refl _⟩,
        Nat.add_le_add_left narrow _, _, rfl, hidden, fun _ => ⟨rfl, rfl, rfl, columns, rfl, leaves,
          Nat.le_refl _, fun _ => ⟨rfl, fun k short => (getElem?_fill_within short).trans ?_⟩⟩⟩
    · rw [size_fill]
      exact room
    · have inside : self.used + k < self.columns.size := by omega
      rw [Array.getElem?_eq_getElem inside]
      rfl

end Entries

/-! ## All entries -/

/-- The first boards have their entries. -/
structure Ready (boards : List SceneBillboard) (occlusion : Occlusion) (stats : SceneStats)
    (size count : ℕ) (state : Preparation) : Prop where
  length : state.prepared.length = count
  used : state.used ≤ count * viewportWidth
  within : state.used ≤ state.columns.size
  size : state.columns.size = size
  tiles : state.stats.opaqueTiles = stats.opaqueTiles
  raster : state.stats.raster = stats.raster
  scaler : state.stats.scalerPreparations ≤ stats.scalerPreparations + count
  entries : ∀ i board, i < count → boards[i]? = some board → ∃ entry,
    state.prepared[i]? = some entry ∧
      EntryOf occlusion board i state.columns state.used entry

section Scene

variable {boards : List SceneBillboard} {occlusion : Occlusion} {stats : SceneStats}
  {board : SceneBillboard} {size count room : ℕ} {self later : Preparation}
  {columns : Array ColumnSample}

theorem Ready.succ (ready : Ready boards occlusion stats size count self)
    (extends' : self.Extends later) {entry : PreparedBoard}
    (appended : later.prepared = self.prepared ++ [entry]) (named : boards[count]? = some board)
    (isEntry : EntryOf occlusion board count later.columns later.used entry) :
    Ready boards occlusion stats size (count + 1) later where
  length := by rw [appended, List.length_append, ready.length, List.length_singleton]
  used := by
    have before := ready.used
    have more := extends'.used.2
    rw [Nat.succ_mul]
    omega
  within := extends'.within
  size := extends'.size.trans ready.size
  tiles := extends'.tiles.trans ready.tiles
  raster := extends'.raster.trans ready.raster
  scaler := by
    have before := ready.scaler
    have more := extends'.scaler
    omega
  entries i other before found := by
    have length := ready.length
    rcases Nat.lt_succ_iff_lt_or_eq.mp before with early | rfl
    · obtain ⟨old, there, holds⟩ := ready.entries i other early found
      refine ⟨old, ?_, holds.extend extends'.used.1 extends'.kept⟩
      rw [appended, List.getElem?_append_left (by omega), there]
    · rw [named, Option.some.injEq] at found
      subst found
      refine ⟨entry, ?_, isEntry⟩
      rw [appended, List.getElem?_append_right (by omega), length, Nat.sub_self]
      rfl

/-- The boards get their entries one by one, while the scratch suffices. -/
theorem prepareEntries_spec {tile : ScreenTile}
    (prepared : Occlusion.Prepared boards tile (occlusion, stats))
    (short : boards.length ≤ Checked.u16Max) :
    Ensures (forEach (PreparedScene.prepareEntry occlusion) 0 boards
        (.ok ⟨[], columns, 0, stats⟩)) fun result =>
      (columnDemand boards ≤ columns.size → ∃ next, result = .ok next) ∧
        ∀ next, result = .ok next →
          Ready boards occlusion stats columns.size boards.length next := by
  have most : Checked.u16Max < Checked.u32Max := by decide
  have scaler : stats.scalerPreparations = 0 := prepared.scaler
  apply (forEach_rule (fun k result =>
    (columnDemand boards ≤ columns.size → ∃ next, result = .ok next) ∧
      ∀ next, result = .ok next → Ready boards occlusion stats columns.size k next ∧
        next.used ≤ columnDemand (boards.take k)) _ _).mono
  · rw [Nat.zero_add]
    exact fun _ done => ⟨done.1, fun next ok => (done.2 next ok).1⟩
  · refine ⟨fun _ => ⟨_, rfl⟩, fun next ok => ?_⟩
    cases ok
    exact ⟨⟨rfl, Nat.zero_le _, Nat.zero_le _, rfl, rfl, rfl, Nat.le_refl _,
      fun i board before => absurd before (Nat.not_lt_zero _)⟩, Nat.zero_le _⟩
  · rintro k board result found ⟨enough, ready⟩
    rw [Nat.zero_add] at ready ⊢
    have inside := (List.getElem?_eq_some_iff.mp found).1
    cases result with
    | error error =>
        refine .value ⟨fun room => ?_, fun next ok => by cases ok⟩
        obtain ⟨next, ok⟩ := enough room
        cases ok
    | ok self =>
        obtain ⟨before, used⟩ := ready self rfl
        have next := columnDemand_take found
        have few := before.scaler
        have tiles : self.stats.opaqueTiles = 0 → ∀ y x, occlusion.cutoffAt y x = 0 := by
          rw [before.tiles]
          exact cutoffAt_of_none prepared
        apply (prepareEntry_spec tiles before.within (by omega)).mono
        rintro result ⟨roomy, written⟩
        refine ⟨fun room => roomy ?_, fun later ok => ?_⟩
        · have most := columnDemand_take_le boards (k + 1)
          rw [before.size]
          omega
        · obtain ⟨more, few, entry, appended, isEntry⟩ := written later ok
          exact ⟨before.succ more appended found isEntry, by omega⟩

/-- A scene that was prepared for its boards. -/
structure PreparedScene.Of (boards : List SceneBillboard) (occlusion : Occlusion)
    (state : PreparedScene) : Prop where
  sameBoards : state.boards = boards
  prepared : ∃ stats, occlusion.prepare boards {} = some (state.occlusion, stats) ∧
    state.stats.opaqueTiles = stats.opaqueTiles
  length : state.prepared.length = boards.length
  entries : ∀ i board, boards[i]? = some board → ∃ entry, state.prepared[i]? = some entry ∧
    EntryOf state.occlusion board i state.columns state.columns.size entry

/-- **A scene is prepared where its columns fit the scratch.** -/
theorem PreparedScene.new_of_demand (short : boards.length ≤ Checked.u16Max)
    (ordered : inOrder boards = true) (entries : boards.length ≤ room) :
    Ensures (PreparedScene.new boards occlusion room columns) fun result =>
      (columnDemand boards ≤ columns.size → ∃ self, result = .ok self) ∧
        ∀ self, result = .ok self →
          PreparedScene.Of boards occlusion self ∧ self.stats.raster = {} := by
  obtain ⟨⟨prepared, stats⟩, ran, holds⟩ := occlusion.prepare_spec short
  have accepted : ¬(boards.length > Checked.u16Max ∨ (!inOrder boards) = true) := by
    rw [ordered]
    simp
    exact short
  rw [PreparedScene.new, if_neg accepted, if_neg (Nat.not_lt.mpr entries)]
  apply Ensures.step ran
  apply (prepareEntries_spec holds short).bind
  rintro (error | next) ⟨enough, ready⟩
  · exact .value ⟨fun room => (by obtain ⟨next, ok⟩ := enough room; cases ok),
      fun self ok => by cases ok⟩
  · refine .value ⟨fun _ => ⟨_, rfl⟩, fun self ok => ?_⟩
    cases ok
    obtain ⟨length, -, within, -, tiles, raster, -, entries⟩ := ready next rfl
    have size : (next.columns.extract 0 next.used).size = next.used := by
      rw [Array.size_extract]
      omega
    refine ⟨⟨rfl, ⟨stats, ran, tiles⟩, length, fun i board found => ?_⟩, raster.trans holds.raster⟩
    obtain ⟨entry, there, isEntry⟩ :=
      entries i board (List.getElem?_eq_some_iff.mp found).1 found
    refine ⟨entry, there, isEntry.extend (Nat.le_of_eq size.symm) fun i before => ?_⟩
    rw [getElem?_extract_of_lt (by omega), Nat.zero_add]

theorem PreparedScene.new_spec (short : boards.length ≤ Checked.u16Max)
    (ordered : inOrder boards = true) (entries : boards.length ≤ room) :
    Ensures (PreparedScene.new boards occlusion room columns) fun result =>
      (boards.length * viewportWidth ≤ columns.size → ∃ self, result = .ok self) ∧
        ∀ self, result = .ok self →
          PreparedScene.Of boards occlusion self ∧ self.stats.raster = {} :=
  (new_of_demand short ordered entries).mono fun _ ⟨enough, ready⟩ =>
    ⟨fun roomy => enough ((columnDemand_le boards).trans roomy), ready⟩

end Scene

end Deskkin.Presentation
