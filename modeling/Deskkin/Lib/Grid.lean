/-
# Row-major grids

A buffer holds the rows of a grid one after another, `stride` elements apart; its
first row has the number `origin`. Drawing rewrites elements by their row and column.
A region is a set of places (row, column), and what has been drawn so far is the
drawing restricted to a region that grows.
-/

import Mathlib.Data.Set.Card
import Mathlib.Order.CompletePartialOrder
import Mathlib.Order.Interval.Finset.Nat
import Mathlib.Tactic.Common

universe u v

namespace Grid

variable {α : Type u}

/-! ## Spans -/

/-- Elements from `a` to `b`, or nothing if the buffer does not reach so far. -/
def slice? (buffer : Array α) (a b : ℕ) : Option (Array α) :=
  if a ≤ b ∧ b ≤ buffer.size then some (buffer.extract a b) else none

/-- Rewrite so many elements from `start` on, by their position in the span. -/
def writeSpan (f : ℕ → α → Option α) (start : ℕ) : ℕ → Array α → Option (Array α)
  | 0, buffer => some buffer
  | length + 1, buffer => do
      let buffer ← writeSpan f start length buffer
      let old ← buffer[start + length]?
      let new ← f length old
      return buffer.setIfInBounds (start + length) new

theorem slice?_eq_some {buffer : Array α} {a b : ℕ} (ordered : a ≤ b) (fits : b ≤ buffer.size) :
    slice? buffer a b = some (buffer.extract a b) :=
  if_pos ⟨ordered, fits⟩

theorem getElem?_extract_of_lt {buffer : Array α} {a b k : ℕ} (inside : a + k < b) :
    (buffer.extract a b)[k]? = buffer[a + k]? := by
  rw [Array.getElem?_extract]
  by_cases fits : a + k < buffer.size
  · rw [if_pos (by omega)]
  · rw [if_neg (by omega), Array.getElem?_eq_none (by omega)]

/-- The buffer with so many elements from `start` on rewritten. -/
def fill (g : ℕ → α → α) (start length : ℕ) (buffer : Array α) : Array α :=
  buffer.mapIdx fun i a => if start ≤ i ∧ i < start + length then g (i - start) a else a

section Fill

variable {g : ℕ → α → α} {start length : ℕ} {buffer : Array α}

@[simp]
theorem size_fill : (fill g start length buffer).size = buffer.size :=
  Array.size_mapIdx

theorem getElem?_fill (i : ℕ) : (fill g start length buffer)[i]? =
    buffer[i]?.map fun a => if start ≤ i ∧ i < start + length then g (i - start) a else a :=
  Array.getElem?_mapIdx

theorem getElem?_fill_before {i : ℕ} (before : i < start) :
    (fill g start length buffer)[i]? = buffer[i]? := by
  rw [getElem?_fill]
  cases buffer[i]? with
  | none => rfl
  | some a => rw [Option.map_some, if_neg (by omega)]

theorem getElem?_fill_within {k : ℕ} (short : k < length) :
    (fill g start length buffer)[start + k]? = buffer[start + k]?.map (g k) := by
  rw [getElem?_fill]
  cases buffer[start + k]? with
  | none => rfl
  | some a => rw [Option.map_some, if_pos (by omega), Nat.add_sub_cancel_left, Option.map_some]

@[simp]
theorem fill_zero : fill g start 0 buffer = buffer := by
  apply Array.ext_getElem?
  intro i
  rw [getElem?_fill]
  cases buffer[i]? with
  | none => rfl
  | some a => rw [Option.map_some, if_neg (by omega)]

theorem getElem?_fill_end : (fill g start length buffer)[start + length]? =
    buffer[start + length]? := by
  rw [getElem?_fill]
  cases buffer[start + length]? with
  | none => rfl
  | some a => rw [Option.map_some, if_neg (by omega)]

theorem setIfInBounds_fill {a : α} (found : buffer[start + length]? = some a) :
    (fill g start length buffer).setIfInBounds (start + length) (g length a) =
      fill g start (length + 1) buffer := by
  obtain ⟨inside, -⟩ := Array.getElem?_eq_some_iff.mp found
  apply Array.ext_getElem?
  intro i
  rw [Array.getElem?_setIfInBounds, size_fill, getElem?_fill, getElem?_fill]
  by_cases here : start + length = i
  · subst here
    rw [if_pos rfl, if_pos inside, found, Option.map_some, if_pos (by omega),
      Nat.add_sub_cancel_left]
  · rw [if_neg here]
    cases buffer[i]? with
    | none => rfl
    | some b =>
        have same : (start ≤ i ∧ i < start + length) ↔ start ≤ i ∧ i < start + (length + 1) := by
          omega
        simp [same]

end Fill

theorem writeSpan_eq_some {f : ℕ → α → Option α} {g : ℕ → α → α} {start length : ℕ}
    {buffer : Array α} (fits : start + length ≤ buffer.size)
    (written : ∀ k a, k < length → f k a = some (g k a)) :
    writeSpan f start length buffer = some (fill g start length buffer) := by
  induction length with
  | zero => rw [fill_zero, writeSpan]
  | succ length ih =>
      have before := ih (by omega) fun k a inside => written k a (by omega)
      have found : buffer[start + length]? = some buffer[start + length] :=
        Array.getElem?_eq_getElem (by omega)
      rw [writeSpan, before, Option.bind_eq_bind, Option.bind_some, getElem?_fill_end, found,
        Option.bind_eq_bind, Option.bind_some, written length _ (by omega), Option.bind_some,
        setIfInBounds_fill found]
      rfl

/-- An element written over itself. -/
theorem setIfInBounds_same {buffer : Array α} {i : ℕ} {a : α} (found : buffer[i]? = some a) :
    buffer.setIfInBounds i a = buffer := by
  apply Array.ext_getElem?
  intro j
  rw [Array.getElem?_setIfInBounds]
  by_cases here : i = j
  · subst here
    obtain ⟨inside, -⟩ := Array.getElem?_eq_some_iff.mp found
    rw [if_pos rfl, if_pos inside, found]
  · rw [if_neg here]

/-! ## Drawing -/

/-- What becomes of an element, by row and column. -/
abbrev Drawing (α : Type u) : Type u := ℕ → ℕ → α → α

def shade (origin stride : ℕ) (draw : Drawing α) (buffer : Array α) : Array α :=
  buffer.mapIdx fun i a => draw (origin + i / stride) (i % stride) a

/-- The drawing within a region. -/
noncomputable def restrict (region : Set (ℕ × ℕ)) (draw : Drawing α) : Drawing α :=
  open Classical in fun y x a => if (y, x) ∈ region then draw y x a else a

theorem restrict_of_mem {region : Set (ℕ × ℕ)} {draw : Drawing α} {y x : ℕ}
    (inside : (y, x) ∈ region) (a : α) : restrict region draw y x a = draw y x a :=
  if_pos inside

theorem restrict_of_notMem {region : Set (ℕ × ℕ)} {draw : Drawing α} {y x : ℕ}
    (outside : (y, x) ∉ region) (a : α) : restrict region draw y x a = a :=
  if_neg outside

theorem restrict_congr {region : Set (ℕ × ℕ)} {first second : Drawing α}
    (same : ∀ y x a, (y, x) ∈ region → first y x a = second y x a) :
    restrict region first = restrict region second := by
  funext y x a
  by_cases inside : (y, x) ∈ region
  · rw [restrict_of_mem inside, restrict_of_mem inside, same y x a inside]
  · rw [restrict_of_notMem inside, restrict_of_notMem inside]

/-- The places of some rows and columns. -/
def block (top bottom left right : ℕ) : Set (ℕ × ℕ) := Set.Ico top bottom ×ˢ Set.Ico left right

@[simp]
theorem mem_block {top bottom left right y x : ℕ} :
    (y, x) ∈ block top bottom left right ↔ (top ≤ y ∧ y < bottom) ∧ left ≤ x ∧ x < right :=
  Iff.rfl

theorem finite_block (top bottom left right : ℕ) : (block top bottom left right).Finite :=
  (Set.finite_Ico _ _).prod (Set.finite_Ico _ _)

theorem ncard_block (top bottom left right : ℕ) :
    (block top bottom left right).ncard = (bottom - top) * (right - left) := by
  rw [block, Set.ncard_prod, ← Finset.coe_Ico, ← Finset.coe_Ico, Set.ncard_coe_finset,
    Set.ncard_coe_finset, Nat.card_Ico, Nat.card_Ico]

section Shade

variable {origin stride : ℕ}

@[simp]
theorem size_shade (draw : Drawing α) (buffer : Array α) :
    (shade origin stride draw buffer).size = buffer.size :=
  Array.size_mapIdx

theorem getElem?_shade (draw : Drawing α) (buffer : Array α) (i : ℕ) :
    (shade origin stride draw buffer)[i]? =
      buffer[i]?.map (draw (origin + i / stride) (i % stride)) :=
  Array.getElem?_mapIdx

/-- The row and the column of a position in the buffer. -/
theorem place_eq {y x : ℕ} (from' : origin ≤ y) (narrow : x < stride) :
    origin + ((y - origin) * stride + x) / stride = y ∧
      ((y - origin) * stride + x) % stride = x := by
  rw [Nat.mul_comm, Nat.mul_add_div (by omega), Nat.div_eq_of_lt narrow, Nat.mul_add_mod,
    Nat.mod_eq_of_lt narrow]
  exact ⟨by omega, rfl⟩

/-- An element of a buffer, by its row and its column. -/
theorem getElem?_shade_row {draw : Drawing α} {buffer : Array α} {y x : ℕ} (from' : origin ≤ y)
    (narrow : x < stride) : (shade origin stride draw buffer)[(y - origin) * stride + x]? =
      buffer[(y - origin) * stride + x]?.map (draw y x) := by
  obtain ⟨row, column⟩ := place_eq from' narrow
  rw [getElem?_shade, row, column]

theorem shade_shade (first second : Drawing α) (buffer : Array α) :
    shade origin stride second (shade origin stride first buffer) =
      shade origin stride (fun y x a => second y x (first y x a)) buffer :=
  Array.mapIdx_mapIdx

theorem shade_congr {first second : Drawing α} {buffer : Array α}
    (same : ∀ y x a, first y x a = second y x a) :
    shade origin stride first buffer = shade origin stride second buffer := by
  rw [show first = second from funext fun y => funext fun x => funext fun a => same y x a]

theorem shade_of_id {draw : Drawing α} {buffer : Array α} (same : ∀ y x a, draw y x a = a) :
    shade origin stride draw buffer = buffer := by
  apply Array.ext_getElem?
  intro i
  rw [getElem?_shade]
  cases buffer[i]? with
  | none => rfl
  | some a => rw [Option.map_some, same]

end Shade

/-! ## Canvases -/

/-- What is drawn on by row and column. Drawings one after another are one drawing. -/
structure Canvas (α : Type u) (σ : Type v) where
  shade : Drawing α → σ → σ
  shade_shade : ∀ (first second : Drawing α) (s : σ),
    shade second (shade first s) = shade (fun y x a => second y x (first y x a)) s
  shade_of_id : ∀ {draw : Drawing α} {s : σ}, (∀ y x a, draw y x a = a) → shade draw s = s

namespace Canvas

variable {σ : Type v} (canvas : Canvas α σ)

/-- The canvas after something has been drawn on it. -/
def Reached (s t : σ) : Prop := ∃ draw, t = canvas.shade draw s

/-- Whatever has been drawn before, the computation draws this. -/
def Draws (s : σ) (m : σ → Option σ) (draw : Drawing α) : Prop :=
  ∀ t, canvas.Reached s t → m t = some (canvas.shade draw t)

variable {canvas} {s t : σ} {draw : Drawing α}

theorem Reached.refl : canvas.Reached s s :=
  ⟨fun _ _ a => a, (canvas.shade_of_id fun _ _ _ => rfl).symm⟩

theorem Reached.shade (reached : canvas.Reached s t) (draw : Drawing α) :
    canvas.Reached s (canvas.shade draw t) := by
  obtain ⟨before, rfl⟩ := reached
  exact ⟨_, canvas.shade_shade _ _ _⟩

theorem shade_congr {first second : Drawing α} (same : ∀ y x a, first y x a = second y x a) :
    canvas.shade first s = canvas.shade second s := by
  rw [show first = second from funext fun y => funext fun x => funext fun a => same y x a]

@[simp]
theorem shade_restrict_empty : canvas.shade (restrict ∅ draw) s = s :=
  canvas.shade_of_id fun _ _ => restrict_of_notMem (Set.notMem_empty _)

/-- What is drawn in two regions that do not meet is drawn in their union. -/
theorem shade_restrict_union {first second : Set (ℕ × ℕ)} (apart : Disjoint first second) :
    canvas.shade (restrict second draw) (canvas.shade (restrict first draw) s) =
      canvas.shade (restrict (first ∪ second) draw) s := by
  rw [canvas.shade_shade]
  apply shade_congr
  intro y x a
  by_cases early : (y, x) ∈ first
  · rw [restrict_of_mem early, restrict_of_notMem (Set.disjoint_left.mp apart early),
      restrict_of_mem (Or.inl early)]
  · rw [restrict_of_notMem early]
    by_cases late : (y, x) ∈ second
    · rw [restrict_of_mem late, restrict_of_mem (Or.inr late)]
    · rw [restrict_of_notMem late, restrict_of_notMem (by simp [early, late])]

/-- What does not depend on what is there may be drawn again. -/
theorem shade_restrict_again (fixed : ∀ y x a b, draw y x a = draw y x b)
    (first second : Set (ℕ × ℕ)) :
    canvas.shade (restrict second draw) (canvas.shade (restrict first draw) s) =
      canvas.shade (restrict (first ∪ second) draw) s := by
  rw [canvas.shade_shade]
  apply shade_congr
  intro y x a
  by_cases late : (y, x) ∈ second
  · have there : (y, x) ∈ first ∪ second := Or.inr late
    rw [restrict_of_mem late, restrict_of_mem there]
    exact fixed y x _ _
  · rw [restrict_of_notMem late]
    by_cases early : (y, x) ∈ first
    · rw [restrict_of_mem early, restrict_of_mem (Or.inl early)]
    · rw [restrict_of_notMem early, restrict_of_notMem (by simp [early, late])]

/-- One more row. -/
theorem shade_block_succ {top y left right : ℕ} (below : top ≤ y) :
    canvas.shade (restrict (block y (y + 1) left right) draw)
        (canvas.shade (restrict (block top y left right) draw) s) =
      canvas.shade (restrict (block top (y + 1) left right) draw) s := by
  have apart : Disjoint (block top y left right) (block y (y + 1) left right) := by
    rw [Set.disjoint_left]
    rintro ⟨row, column⟩ early late
    rw [mem_block] at early late
    omega
  have union : block top y left right ∪ block y (y + 1) left right =
      block top (y + 1) left right := by
    ext ⟨row, column⟩
    rw [Set.mem_union, mem_block, mem_block, mem_block]
    omega
  rw [shade_restrict_union apart, union]

end Canvas

/-- The rows of a buffer. -/
def rows (α : Type u) (origin stride : ℕ) : Canvas α (Array α) where
  shade := shade origin stride
  shade_shade := shade_shade
  shade_of_id := shade_of_id

section Rows

variable {origin stride : ℕ}

theorem size_of_reached {buffer after : Array α}
    (reached : (rows α origin stride).Reached buffer after) : after.size = buffer.size := by
  obtain ⟨draw, rfl⟩ := reached
  exact size_shade draw buffer

@[simp]
theorem shade_restrict_empty (draw : Drawing α) (buffer : Array α) :
    shade origin stride (restrict ∅ draw) buffer = buffer :=
  (rows α origin stride).shade_restrict_empty

variable {y left right : ℕ}

/-- What a block of one row draws, by the positions in the buffer. -/
theorem restrict_row {draw : Drawing α} (above : origin ≤ y) (wide : right ≤ stride) (i : ℕ)
    (a : α) :
    restrict (block y (y + 1) left right) draw (origin + i / stride) (i % stride) a =
      if (y - origin) * stride + left ≤ i ∧ i < (y - origin) * stride + right then
        draw y (i - (y - origin) * stride) a
      else a := by
  by_cases inside : (y - origin) * stride + left ≤ i ∧ i < (y - origin) * stride + right
  · obtain ⟨column, rfl⟩ := Nat.exists_eq_add_of_le (show (y - origin) * stride ≤ i by omega)
    obtain ⟨sameRow, sameColumn⟩ := place_eq above (show column < stride by omega)
    have placed : (y, column) ∈ block y (y + 1) left right := by
      rw [mem_block]
      omega
    rw [if_pos inside, sameRow, sameColumn, restrict_of_mem placed, Nat.add_sub_cancel_left]
  · rw [if_neg inside, restrict_of_notMem]
    rintro ⟨sameRow, sameColumn⟩
    have row : i / stride = y - origin := by
      simp only [Set.mem_Ico] at sameRow
      omega
    have parts := Nat.div_add_mod i stride
    rw [row, Nat.mul_comm] at parts
    simp only [Set.mem_Ico] at sameColumn
    exact inside (by omega)

/-- A span within one row. -/
theorem writeSpan_row {f : ℕ → α → Option α} {draw : Drawing α} {buffer : Array α}
    (above : origin ≤ y) (ordered : left ≤ right) (wide : right ≤ stride)
    (fits : (y - origin) * stride + right ≤ buffer.size)
    (written : ∀ k a, k < right - left → f k a = some (draw y (left + k) a)) :
    writeSpan f ((y - origin) * stride + left) (right - left) buffer =
      some (shade origin stride (restrict (block y (y + 1) left right) draw) buffer) := by
  rw [writeSpan_eq_some (by omega) written]
  apply congrArg some
  apply Array.ext_getElem?
  intro i
  rw [getElem?_fill, getElem?_shade]
  congr 1
  funext a
  rw [restrict_row above wide]
  by_cases inside : (y - origin) * stride + left ≤ i ∧ i < (y - origin) * stride + right
  · rw [if_pos inside, if_pos (by omega)]
    congr 1
    omega
  · rw [if_neg inside, if_neg (by omega)]

/-- One more row. -/
theorem shade_block_succ {top y left right : ℕ} (below : top ≤ y) (draw : Drawing α)
    (buffer : Array α) :
    shade origin stride (restrict (block y (y + 1) left right) draw)
        (shade origin stride (restrict (block top y left right) draw) buffer) =
      shade origin stride (restrict (block top (y + 1) left right) draw) buffer :=
  (rows α origin stride).shade_block_succ below

theorem block_self : block y y left right = ∅ := by
  ext ⟨row, column⟩
  rw [mem_block]
  constructor
  · omega
  · exact fun absurdity => absurdity.elim

end Rows

/-! ## Regions that are drawn span by span -/

/-- The places of a region in the rows before `row`, and in the rows from there to `rowEnd`
those before a column. -/
def part (region : Set (ℕ × ℕ)) (row rowEnd column : ℕ) : Set (ℕ × ℕ) :=
  {place ∈ region | place.1 < row ∨ place.1 < rowEnd ∧ place.2 < column}

/-- The drawing is shown in the region, and so many places were counted. -/
def Canvas.Drawn {σ : Type v} (canvas : Canvas α σ) (draw : Drawing α) (s : σ)
    (region : Set (ℕ × ℕ)) (after : σ × ℕ) : Prop :=
  after.1 = canvas.shade (restrict region draw) s ∧ after.2 = region.ncard

/-- The buffer shows the drawing in the region, and so many places were counted. -/
def Drawn (origin stride : ℕ) (draw : Drawing α) (buffer : Array α) (region : Set (ℕ × ℕ))
    (after : Array α × ℕ) : Prop :=
  after.1 = shade origin stride (restrict region draw) buffer ∧ after.2 = region.ncard

section Part

variable {origin stride : ℕ} {draw : Drawing α} {buffer : Array α} {region : Set (ℕ × ℕ)}
  {row rowEnd column : ℕ} {σ : Type v} {canvas : Canvas α σ} {s : σ}

theorem mem_part {y x : ℕ} : (y, x) ∈ part region row rowEnd column ↔
    (y, x) ∈ region ∧ (y < row ∨ y < rowEnd ∧ x < column) :=
  Iff.rfl

theorem Canvas.drawn_start (below : ∀ y x, (y, x) ∈ region → row ≤ y) :
    canvas.Drawn draw s (part region row row 0) (s, 0) := by
  have empty : part region row row 0 = ∅ := by
    ext ⟨y, x⟩
    rw [mem_part]
    constructor
    · rintro ⟨inside, before⟩
      have late := below y x inside
      omega
    · exact fun absurdity => absurdity.elim
  rw [empty]
  exact ⟨shade_restrict_empty.symm, (Set.ncard_empty (ℕ × ℕ)).symm⟩

/-- A strip starts with the first column of the region. -/
theorem part_begin (right : ∀ y x, (y, x) ∈ region → column ≤ x) :
    part region row rowEnd column = part region row row 0 := by
  ext ⟨y, x⟩
  rw [mem_part, mem_part]
  apply and_congr_right
  intro inside
  have here := right y x inside
  omega

/-- A strip ends where nothing more of the region follows. -/
theorem part_finish (ordered : row ≤ rowEnd)
    (hidden : ∀ y x, row ≤ y → y < rowEnd → column ≤ x → (y, x) ∉ region) :
    part region row rowEnd column = part region rowEnd rowEnd 0 := by
  ext ⟨y, x⟩
  rw [mem_part, mem_part]
  apply and_congr_right
  intro inside
  by_cases within : row ≤ y ∧ y < rowEnd ∧ column ≤ x
  · exact absurd inside (hidden y x within.1 within.2.1 within.2.2)
  · omega

theorem part_all (above : ∀ y x, (y, x) ∈ region → y < row) :
    part region row row 0 = region := by
  ext ⟨y, x⟩
  rw [mem_part]
  exact ⟨And.left, fun inside => ⟨inside, Or.inl (above y x inside)⟩⟩

variable {first last : ℕ}

/-- A span that follows the columns before it. -/
theorem part_span (ordered : column ≤ first) (nonempty : first < last)
    (hidden : ∀ y x, row ≤ y → y < rowEnd → column ≤ x → x < first → (y, x) ∉ region)
    (shown : ∀ y x, row ≤ y → y < rowEnd → first ≤ x → x < last → (y, x) ∈ region) :
    part region row rowEnd column ∪ block row rowEnd first last =
      part region row rowEnd last := by
  ext ⟨y, x⟩
  rw [Set.mem_union, mem_part, mem_part, mem_block]
  constructor
  · rintro (⟨inside, before⟩ | ⟨⟨low, high⟩, from', upTo⟩)
    · exact ⟨inside, by omega⟩
    · exact ⟨shown y x low high from' upTo, Or.inr ⟨high, upTo⟩⟩
  · rintro ⟨inside, before⟩
    by_cases early : y < row ∨ y < rowEnd ∧ x < column
    · exact Or.inl ⟨inside, early⟩
    · by_cases skipped : x < first
      · exact absurd inside (hidden y x (by omega) (by omega) (by omega) skipped)
      · exact Or.inr (by omega)

theorem disjoint_part_block (ordered : column ≤ first) :
    Disjoint (part region row rowEnd column) (block row rowEnd first last) := by
  rw [Set.disjoint_left]
  rintro ⟨y, x⟩ early late
  rw [mem_part] at early
  rw [mem_block] at late
  omega

/-- An element that has not been drawn is what it was. -/
theorem getElem?_shade_part {y x : ℕ} (from' : origin ≤ y) (narrow : x < stride) :
    (shade origin stride (restrict (part region y (y + 1) x) draw) buffer)[
        (y - origin) * stride + x]? = buffer[(y - origin) * stride + x]? := by
  have later : (y, x) ∉ part region y (y + 1) x := by
    rintro ⟨-, before⟩
    dsimp only at before
    omega
  rw [getElem?_shade_row from' narrow]
  cases buffer[(y - origin) * stride + x]? with
  | none => rfl
  | some a => rw [Option.map_some, restrict_of_notMem later]

/-- One more element. -/
theorem setIfInBounds_shade_part (draw : Drawing α) {y x : ℕ} {old : α}
    (inside : (y, x) ∈ region) (from' : origin ≤ y) (narrow : x < stride)
    (found : buffer[(y - origin) * stride + x]? = some old) :
    (shade origin stride (restrict (part region y (y + 1) x) draw) buffer).setIfInBounds
        ((y - origin) * stride + x) (draw y x old) =
      shade origin stride (restrict (part region y (y + 1) (x + 1)) draw) buffer := by
  obtain ⟨fits, -⟩ := Array.getElem?_eq_some_iff.mp found
  apply Array.ext_getElem?
  intro i
  rw [Array.getElem?_setIfInBounds, size_shade]
  by_cases here : (y - origin) * stride + x = i
  · subst here
    have now : (y, x) ∈ part region y (y + 1) (x + 1) :=
      ⟨inside, Or.inr ⟨Nat.lt_succ_self y, Nat.lt_succ_self x⟩⟩
    rw [if_pos rfl, if_pos fits, getElem?_shade_row from' narrow, found, Option.map_some,
      restrict_of_mem now]
  · have place := Nat.div_add_mod i stride
    have same : (origin + i / stride, i % stride) ∈ part region y (y + 1) x ↔
        (origin + i / stride, i % stride) ∈ part region y (y + 1) (x + 1) := by
      rw [mem_part, mem_part]
      apply and_congr_right
      intro _
      have apart : ¬(origin + i / stride = y ∧ i % stride = x) := by
        rintro ⟨row, column⟩
        apply here
        rw [← row, Nat.add_sub_cancel_left, Nat.mul_comm, ← column, place]
      omega
    rw [if_neg here, getElem?_shade, getElem?_shade]
    cases buffer[i]? with
    | none => rfl
    | some a =>
        rw [Option.map_some, Option.map_some]
        by_cases drawn : (origin + i / stride, i % stride) ∈ part region y (y + 1) x
        · rw [restrict_of_mem drawn, restrict_of_mem (same.mp drawn)]
        · rw [restrict_of_notMem drawn, restrict_of_notMem fun there => drawn (same.mpr there)]

theorem Canvas.Drawn.span {drawn : σ × ℕ} (finite : region.Finite)
    (before : canvas.Drawn draw s (part region row rowEnd column) drawn) (ordered : column ≤ first)
    (nonempty : first < last)
    (hidden : ∀ y x, row ≤ y → y < rowEnd → column ≤ x → x < first → (y, x) ∉ region)
    (shown : ∀ y x, row ≤ y → y < rowEnd → first ≤ x → x < last → (y, x) ∈ region) :
    canvas.Drawn draw s (part region row rowEnd last)
      (canvas.shade (restrict (block row rowEnd first last) draw) drawn.1,
        drawn.2 + (last - first) * (rowEnd - row)) := by
  have apart : Disjoint (part region row rowEnd column) (block row rowEnd first last) :=
    disjoint_part_block ordered
  have union := part_span ordered nonempty hidden shown
  constructor
  · dsimp only
    rw [before.1, shade_restrict_union apart, union]
  · dsimp only
    rw [← union, Set.ncard_union_eq apart (finite.subset fun _ inside => inside.1)
      (finite_block _ _ _ _), ncard_block, before.2, Nat.mul_comm (last - first)]

end Part

end Grid
