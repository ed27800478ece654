/-
# Bands drawn with vector routines

The renderer draws bands with its own background and its own blitter. Both come to drawings of
rows, so a band comes to the drawing of its scene with the renderer's blend. The portable
renderer draws the same scene with a blend that rounds to the nearest: a board that blends its
color onto a pixel may leave each channel one lower, and no other board adds to that.

The buffer of the band is part of the memory. Textures and the columns of the scene lie in it
elsewhere. The two words that a row of four repeats are written to the stack by the caller of
the routine; they are not part of this memory.
-/

import Deskkin.Presentation.BandFrames
import Deskkin.Renderer.PieAgreement

namespace Deskkin.Renderer

open Vectors Presentation Loops Grid Layers

/-! ## The background -/

namespace PieBackground

/-- The color of a place, of four that are repeated. -/
def repeated (colors : Vector UInt16 4) (k : ℕ) : UInt16 :=
  colors.get (fourth k)

/-- One call of the routine, which fills one row of the screen at most. -/
def fillChunk (dst bulk : ℕ) (pattern : Register) (chunk : ℕ) (m : Memory) : Option Memory :=
  some (backgroundPie (dst + 2 * (320 * chunk)) pattern (min 320 (bulk - 320 * chunk) / 8) m)

/-- `PieBackground::fill`, onto words in the memory -/
def fill (dst length : ℕ) (colors : Vector UInt16 4) (m : Memory) : Option Memory := do
  let lead := min ((16 - dst % 16) % 16 / 2) length
  let m ← m.writeSpan (fun k _ => some (repeated colors k)) dst lead
  let pattern := Register.ofLanes fun k => repeated colors (lead + k)
  let bulk := (length - lead) / 8 * 8
  let m ← forRange (fillChunk (dst + 2 * lead) bulk pattern) 0 (divCeil bulk 320) m
  m.writeSpan (fun k _ => some (repeated colors (lead + k))) (dst + 2 * (lead + bulk))
    (length - lead - bulk)

variable {dst length bulk : ℕ} {pattern : Register} {colors : Vector UInt16 4} {m : Memory}

/-- The calls repeat the pattern over all their rows. -/
theorem chunks_eq (aligned : 0 < bulk → dst % 16 = 0) (eights : bulk % 8 = 0) :
    forRange (fillChunk dst bulk pattern) 0 (divCeil bulk 320) m =
      some (m.fill (fun k _ => pattern.lane (k % 8)) dst bulk) := by
  have drawn : Ensures (forRange (fillChunk dst bulk pattern) 0 (divCeil bulk 320) m)
      fun filled => filled = m.fill (fun k _ => pattern.lane (k % 8)) dst bulk := by
    apply (forRange_rule (fun chunk filled => filled =
      m.fill (fun k _ => pattern.lane (k % 8)) dst (min (320 * chunk) bulk)) _ _).mono
    · rintro _ rfl
      congr 1
      rw [divCeil]
      omega
    · exact Memory.fill_zero.symm
    · rintro chunk _ - upper rfl
      have more : 320 * chunk < bulk := by
        rw [divCeil] at upper
        omega
      obtain ⟨count, isCount⟩ : ∃ count, min 320 (bulk - 320 * chunk) = count := ⟨_, rfl⟩
      have upTo : min (320 * (chunk + 1)) bulk = 320 * chunk + count := by omega
      have start := aligned (by omega)
      apply Ensures.value
      rw [upTo, Nat.min_eq_left (Nat.le_of_lt more), isCount, backgroundPie_eq (by omega),
        show 8 * (count / 8) = count by omega, Memory.fill_append]
      apply Memory.fill_congr
      intro k short old
      rw [show (320 * chunk + k) % 8 = k % 8 by omega]
  obtain ⟨_, ran, rfl⟩ := drawn
  exact ran

/-- **The four colors are repeated** over the whole span. -/
theorem fill_eq (even : dst % 2 = 0) :
    fill dst length colors m = some (m.fill (fun k _ => repeated colors k) dst length) := by
  obtain ⟨lead, isLead⟩ : ∃ lead, min ((16 - dst % 16) % 16 / 2) length = lead := ⟨_, rfl⟩
  obtain ⟨bulk, isBulk⟩ : ∃ bulk, (length - lead) / 8 * 8 = bulk := ⟨_, rfl⟩
  obtain ⟨rest, isRest⟩ : ∃ rest, length - lead - bulk = rest := ⟨_, rfl⟩
  have same : ∀ {i j : ℕ}, i % 4 = j % 4 → repeated colors i = repeated colors j := by
    intro i j parts
    simp only [repeated, fourth, parts]
  have middle : (m.fill (fun k _ => repeated colors k) dst lead).fill
      (fun k _ => (Register.ofLanes fun k => repeated colors (lead + k)).lane (k % 8))
        (dst + 2 * lead) bulk = m.fill (fun k _ => repeated colors k) dst (lead + bulk) := by
    rw [Memory.fill_append]
    apply Memory.fill_congr
    intro k short old
    rw [Register.lane_ofLanes (by omega)]
    exact same (by omega)
  have whole : (m.fill (fun k _ => repeated colors k) dst (lead + bulk)).fill
      (fun k _ => repeated colors (lead + k)) (dst + 2 * (lead + bulk)) rest =
        m.fill (fun k _ => repeated colors k) dst length := by
    rw [show length = lead + bulk + rest by omega, Memory.fill_append (lead + bulk) rest]
    apply Memory.fill_congr
    intro k short old
    exact same (by omega)
  rw [fill, isLead, Memory.writeSpan_eq_some fun _ _ _ => rfl, Option.bind_eq_bind,
    Option.bind_some]
  dsimp only
  rw [isBulk, chunks_eq (by omega) (by omega), Option.bind_some, middle, isRest,
    Memory.writeSpan_eq_some fun _ _ _ => rfl, whole]

end PieBackground

/-! ## Drawings by either blend -/

section Drawings

variable (board : SceneBillboard) (blend : UInt16 → UInt16 → UInt8 → UInt16) (wire : Bool)

/-- What the board makes of a pixel of its area, by the blend of the caller. -/
def drawingWith : Drawing UInt16 := fun y x dst =>
  ((board.spanAt y).sampleWith blend wire (board.columnAt x) dst).getD dst

/-- The board takes a color with some of what is there. -/
def BlendsAt (place : ℕ × ℕ) : Prop :=
  board.projected.filter = .nearest ∧ ∃ a,
    board.texture.coverage.alphaAt (board.region.texel (board.texelY place.1)
      (board.texelX place.2)) = some a ∧ a ≠ 0 ∧ a ≠ 255

variable {board blend wire} {y x : ℕ} {color : UInt16} {a : UInt8}

theorem sampleWith_kind {span : SampledSpan} {column : ColumnSample}
    (plain : (span.bilinear && span.texture.coverage.isAlpha) = false)
    (colored : span.color column = some color)
    (covered : (if span.texture.coverage.isAlpha
      then span.texture.coverage.alphaAt (span.rows.1 + column.first.toNat) else some 255) =
        some a) (dst : UInt16) :
    span.sampleWith blend wire column dst = some (compositeWith blend wire color a dst) := by
  rw [SampledSpan.sampleWith, plain, if_neg Bool.false_ne_true, SampledSpan.kindWith, covered,
    Option.bind_eq_bind, Option.bind_some, colored]
  by_cases clear : a = 0
  · rw [if_pos clear, compositeWith, if_pos clear]
    rfl
  · rw [if_neg clear]
    rfl

/-- A nearest sample is one texel, whatever the blend. -/
theorem sampleWith_nearest (nearest : board.projected.filter = .nearest)
    (inside : (y, x) ∈ board.area)
    (colored : board.texture.pixels[board.region.texel (board.texelY y) (board.texelX x)]? =
      some color)
    (covered : board.texture.coverage.alphaAt (board.region.texel (board.texelY y)
      (board.texelX x)) = some a) (dst : UInt16) :
    (board.spanAt y).sampleWith blend wire (board.columnAt x) dst =
      some (compositeWith blend wire color a dst) := by
  have unfiltered : (board.spanAt y).bilinear = false := by
    simp [SceneBillboard.spanAt, nearest]
  rw [← SceneBillboard.index_eq inside] at colored covered
  have sampled : (board.spanAt y).color (board.columnAt x) = some color := by
    rw [SampledSpan.color, unfiltered, if_neg Bool.false_ne_true]
    exact colored
  exact sampleWith_kind (by rw [unfiltered, Bool.false_and]) sampled (Coverage.lookedUp covered)
    dst

variable (blend wire) in
/-- Every pixel of the area is sampled. -/
theorem sampleWith_eq_some (inside : (y, x) ∈ board.area) (dst : UInt16) :
    (board.spanAt y).sampleWith blend wire (board.columnAt x) dst =
      some (drawingWith board blend wire y x dst) := by
  have sampled : ∃ word,
      (board.spanAt y).sampleWith blend wire (board.columnAt x) dst = some word := by
    cases filtered : (board.spanAt y).bilinear && (board.spanAt y).texture.coverage.isAlpha with
    | true =>
        obtain ⟨word, drawn⟩ := SceneBillboard.sampledPixel_eq_some wire inside dst
        rw [SceneBillboard.sampledPixel, SampledSpan.pixel, filtered, if_pos rfl] at drawn
        exact ⟨word, by rw [SampledSpan.sampleWith, filtered, if_pos rfl, drawn]⟩
    | false =>
        obtain ⟨color, colored⟩ := SceneBillboard.color_eq_some inside
        obtain ⟨a, covered⟩ := board.fits.alpha (SceneBillboard.texelY_lt inside)
          (SceneBillboard.texelX_lt inside)
        rw [← SceneBillboard.index_eq inside] at covered
        exact ⟨_, sampleWith_kind filtered colored (Coverage.lookedUp covered) dst⟩
  obtain ⟨word, drawn⟩ := sampled
  rw [drawingWith, drawn, Option.getD_some]

theorem filteredChannel_le {colors : Corners UInt16} {alphas : Corners ℕ} {background : UInt16}
    {fractionX fractionY : ℕ} {channel : Channel} :
    filteredChannel colors alphas background fractionX fractionY channel ≤ channel.most :=
  Nat.min_le_right _ _

theorem filteredChannel_within {colors : Corners UInt16} {alphas : Corners ℕ}
    {background other : UInt16} {fractionX fractionY most : ℕ} (near : Within most background other)
    (channel : Channel) :
    filteredChannel colors alphas background fractionX fractionY channel ≤
        filteredChannel colors alphas other fractionX fractionY channel ∧
      filteredChannel colors alphas other fractionX fractionY channel ≤
        filteredChannel colors alphas background fractionX fractionY channel + most := by
  obtain ⟨covered, isCovered⟩ : ∃ covered, (colors.zipWith
    (fun color a => channel.value color * a) alphas).mean fractionX fractionY = covered := ⟨_, rfl⟩
  obtain ⟨below, above⟩ := part_within (near channel).1 (near channel).2
    (Nat.sub_le 255 (alphas.mean fractionX fractionY))
  simp only [filteredChannel, isCovered]
  obtain ⟨low, high⟩ := div_within (show 0 < 255 by decide)
    (show covered + channel.value background * (255 - alphas.mean fractionX fractionY) + 127 ≤
      covered + channel.value other * (255 - alphas.mean fractionX fractionY) + 127 by omega)
    (show _ ≤ _ + most * 255 by omega)
  omega

/-- What is filtered over what is there keeps the distance. -/
theorem filteredAlpha_within {span : SampledSpan} {column : ColumnSample}
    {dst other word reference : UInt16} {most : ℕ}
    (near : Within most (wireOrder wire dst) (wireOrder wire other))
    (drawn : span.filteredAlpha wire column dst = some word)
    (drawnOther : span.filteredAlpha wire column other = some reference) :
    Within most (wireOrder wire word) (wireOrder wire reference) := by
  rw [SampledSpan.filteredAlpha_eq] at drawn drawnOther
  simp only [Option.bind_eq_bind, Option.bind_eq_some_iff] at drawn drawnOther
  obtain ⟨indices, found, alphas, valued, ran⟩ := drawn
  obtain ⟨_, found', _, valued', ran'⟩ := drawnOther
  cases found.symm.trans found'
  cases valued.symm.trans valued'
  by_cases clear : alphas = ⟨0, 0, 0, 0⟩
  · rw [if_pos clear] at ran ran'
    cases ran
    cases ran'
    exact near
  · rw [if_neg clear, Option.bind_eq_some_iff] at ran ran'
    obtain ⟨colors, colored, same⟩ := ran
    obtain ⟨_, colored', same'⟩ := ran'
    cases colored.symm.trans colored'
    cases same
    cases same'
    intro channel
    rw [wireOrder_wireOrder, wireOrder_wireOrder, filteredColor, filteredColor,
      Channel.value_pack fun _ => filteredChannel_le,
      Channel.value_pack fun _ => filteredChannel_le]
    exact filteredChannel_within near channel

/-- **A board adds one to the distance where it blends, and nothing elsewhere.** -/
theorem drawingWith_within {dst other : UInt16} {most : ℕ} (inside : (y, x) ∈ board.area)
    (near : Within most (wireOrder wire dst) (wireOrder wire other)) :
    Within (open Classical in most + if BlendsAt board (y, x) then 1 else 0)
      (wireOrder wire (drawingWith board alphaPixel wire y x dst))
      (wireOrder wire (board.drawing wire y x other)) := by
  have reference : board.sampledPixel wire y x other = some (board.drawing wire y x other) :=
    SceneBillboard.drawing_sampled inside other
  cases filter : board.projected.filter with
  | nearest =>
      obtain ⟨color, colored⟩ := board.fits.color (SceneBillboard.texelY_lt inside)
        (SceneBillboard.texelX_lt inside)
      obtain ⟨a, covered⟩ := board.fits.alpha (SceneBillboard.texelY_lt inside)
        (SceneBillboard.texelX_lt inside)
      rw [SceneBillboard.sampledPixel_nearest filter inside colored covered,
        Option.some.injEq] at reference
      rw [drawingWith, sampleWith_nearest filter inside colored covered, Option.getD_some,
        ← reference]
      apply (composite_within near color a).mono
      by_cases between : a ≠ 0 ∧ a ≠ 255
      · rw [if_pos between, if_pos ⟨filter, a, covered, between⟩]
      · rw [if_neg between]
        exact Nat.le_add_right _ _
  | bilinear =>
      apply Within.mono _ (Nat.le_add_right _ _)
      have filtered : (board.spanAt y).bilinear = true := by
        simp [SceneBillboard.spanAt, filter]
      rw [SceneBillboard.sampledPixel] at reference
      cases alpha : (board.spanAt y).texture.coverage.isAlpha with
      | true =>
          obtain ⟨word, drawn⟩ := SceneBillboard.sampledPixel_eq_some wire inside dst
          rw [SceneBillboard.sampledPixel, SampledSpan.pixel, filtered, alpha, Bool.and_true,
            if_pos rfl] at drawn
          rw [SampledSpan.pixel, filtered, alpha, Bool.and_true, if_pos rfl] at reference
          rw [drawingWith, SampledSpan.sampleWith, filtered, alpha, Bool.and_true, if_pos rfl,
            drawn, Option.getD_some]
          exact filteredAlpha_within near drawn reference
      | false =>
          obtain ⟨color, colored⟩ := SceneBillboard.color_eq_some inside
          have covered : (if (board.spanAt y).texture.coverage.isAlpha
              then (board.spanAt y).texture.coverage.alphaAt
                ((board.spanAt y).rows.1 + (board.columnAt x).first.toNat) else some 255) =
              some 255 := by
            rw [alpha, if_neg Bool.false_ne_true]
          have plain : ((board.spanAt y).bilinear &&
              (board.spanAt y).texture.coverage.isAlpha) = false := by
            rw [alpha, Bool.and_false]
          rw [SampledSpan.pixel, plain, if_neg Bool.false_ne_true,
            SampledSpan.kind_eq colored covered, Option.some.injEq] at reference
          rw [drawingWith, sampleWith_kind plain colored covered, Option.getD_some, ← reference]
          exact composite_within near color 255

end Drawings

/-! ## Scenes by either blend -/

/-- How many boards blend onto a place where they are lit. -/
noncomputable def blendings (occlusion : Occlusion) (place : ℕ × ℕ) : ℕ → List SceneBillboard → ℕ
  | _, [] => 0
  | index, board :: boards =>
      (open Classical in
        if place ∈ lit occlusion board index ∧ BlendsAt board place then 1 else 0) +
        blendings occlusion place (index + 1) boards

section Scenes

variable {occlusion : Occlusion} {boards : List SceneBillboard} {board : SceneBillboard}
  {wire : Bool} {y x index most : ℕ} {dst other : UInt16}

/-- One layer of the scene, where it is not culled. -/
theorem layer_within (near : Within most (wireOrder wire dst) (wireOrder wire other)) :
    Within (open Classical in most +
        if (y, x) ∈ lit occlusion board index ∧ BlendsAt board (y, x) then 1 else 0)
      (wireOrder wire (restrict (lit occlusion board index) (drawingWith board alphaPixel wire)
        y x dst))
      (wireOrder wire (restrict (lit occlusion board index) (board.drawing wire) y x other)) := by
  by_cases here : (y, x) ∈ lit occlusion board index
  · rw [restrict_of_mem here, restrict_of_mem here]
    apply (drawingWith_within here.1 near).mono
    by_cases blends : BlendsAt board (y, x)
    · rw [if_pos blends, if_pos ⟨here, blends⟩]
    · rw [if_neg blends]
      exact Nat.le_add_right _ _
  · rw [restrict_of_notMem here, restrict_of_notMem here]
    exact near.mono (Nat.le_add_right _ _)

/-- The layers of the scene, one after another. -/
theorem paint_within (near : Within most (wireOrder wire dst) (wireOrder wire other)) :
    Within (most + blendings occlusion (y, x) index boards)
      (wireOrder wire (paint (culled (cutoffIn occlusion) index
        (boards.map fun board => layerBy (drawingWith board alphaPixel wire) board)) (y, x) dst))
      (wireOrder wire (paint (culled (cutoffIn occlusion) index
        (boards.map fun board => layerBy (board.drawing wire) board)) (y, x) other)) := by
  induction boards generalizing index most dst other with
  | nil => exact near
  | cons board boards ih =>
      rw [blendings, ← Nat.add_assoc, List.map_cons, List.map_cons, culled, culled, paint_cons,
        paint_cons]
      apply ih
      simp only [layerBy, ← restrict_lit]
      exact layer_within near

/-- **A place of the scene**, by either blend and from the same word. -/
theorem sceneDrawing_within {background : Background} {opaqueTiles : ℕ} (word : UInt16) :
    Within (blendings occlusion (y, x) 0 boards)
      (wireOrder wire (sceneDrawingBy (fun board => drawingWith board alphaPixel wire) occlusion
        opaqueTiles boards background wire y x word))
      (wireOrder wire (sceneDrawing occlusion opaqueTiles boards background wire y x word)) := by
  rw [sceneDrawingBy, sceneDrawing, ← Nat.zero_add (blendings occlusion (y, x) 0 boards)]
  exact paint_within (.refl 0 _)

end Scenes

/-! ## What lies in the memory -/

/-- Where the columns of a scene lie, and for each board the colors and the coverage of its
texture. -/
structure Layout where
  greatest : ℕ
  columns : ℕ
  colors : ℕ → ℕ
  coverage : ℕ → ℕ

/-- The alpha values of a texture, or its bits. -/
def coverageBytes : Coverage → Array UInt8
  | .fullyOpaque => #[]
  | .cutout bits _ => bits
  | .alpha8 alpha _ => alpha

/-- The texture of a board lies in the memory, apart from the buffer and fifteen bytes before the
greatest address or earlier. -/
structure Layout.HasBoard (layout : Layout) (i : ℕ) (board : SceneBillboard) (m : Memory)
    (buffer size : ℕ) : Prop where
  colors : (WordSlice.mk (layout.colors i) board.texture.pixels).Readable m buffer size
  coverage : (ByteSlice.mk (layout.coverage i) (coverageBytes board.texture.coverage)).Readable m
    buffer size
  present : 0 < layout.coverage i
  colorsEnd : layout.colors i + 2 * board.texture.pixels.size + 15 ≤ layout.greatest
  coverageEnd : layout.coverage i + (coverageBytes board.texture.coverage).size + 15 ≤
    layout.greatest

/-- The columns of the scene and the textures of its boards lie in the memory. -/
structure Layout.HasScene (layout : Layout) (scene : PreparedScene) (m : Memory)
    (buffer size : ℕ) : Prop where
  room : 15 ≤ layout.greatest
  even : buffer % 2 = 0
  columns : ∀ (k : ℕ) (column : ColumnSample), scene.columns[k]? = some column →
    m.lane (layout.columns + 4 * k) = column.first
  apart : layout.columns + 4 * scene.columns.size ≤ buffer ∨
    buffer + 2 * size ≤ layout.columns
  boards : ∀ i board, scene.boards[i]? = some board → layout.HasBoard i board m buffer size

/-- The blitter for a board, with what it finds in its registers. -/
def PieBlitter.blitter (layout : Layout) (buffer : ℕ)
    (registers : ℕ → ℕ → Register × Register) (i : ℕ) : Blitter Memory where
  cutout start length source offset bits wire := PieBlitter.cutout layout.greatest
    (buffer + 2 * start) length ⟨layout.colors i, source⟩ offset ⟨layout.coverage i, bits⟩
      wire
  blitFrom start length source offset alpha wire := PieBlitter.blitFrom layout.greatest
    (registers i start).1 (registers i start).2 (buffer + 2 * start) length
      ⟨layout.colors i, source⟩ offset (alpha.map fun alpha => ⟨layout.coverage i, alpha⟩) wire
  sample start source first wire := PieBlitter.sample
    ⟨layout.colors i, layout.coverage i, layout.columns + 4 * first⟩ (buffer + 2 * start)
      source.columns.size source wire

section Kept

variable {m t : Memory} {buffer size dst length : ℕ}

/-- Slices apart from the buffer are readable wherever the blitter draws. -/
theorem WordSlice.Readable.keep {src : WordSlice} (readable : src.Readable m buffer size)
    (kept : ∀ x, x < buffer ∨ buffer + 2 * size ≤ x → t x = m x) (from' : buffer ≤ dst)
    (upTo : dst + 2 * length ≤ buffer + 2 * size) : src.Readable t dst length where
  even := readable.even
  held i word found := by
    obtain ⟨inside, -⟩ := Array.getElem?_eq_some_iff.mp found
    have apart := readable.apart
    rw [← readable.held i word found, Memory.lane, Memory.lane, kept _ (by omega),
      kept _ (by omega)]
  apart := by
    have apart := readable.apart
    omega

theorem ByteSlice.Readable.keep {src : ByteSlice} (readable : src.Readable m buffer size)
    (kept : ∀ x, x < buffer ∨ buffer + 2 * size ≤ x → t x = m x) (from' : buffer ≤ dst)
    (upTo : dst + 2 * length ≤ buffer + 2 * size) : src.Readable t dst length where
  held i byte found := by
    obtain ⟨inside, -⟩ := Array.getElem?_eq_some_iff.mp found
    have apart := readable.apart
    rw [← readable.held i byte found, kept _ (by omega)]
  apart := by
    have apart := readable.apart
    omega

end Kept

/-! ## Boards at native size -/

section Native

variable {layout : Layout} {board : SceneBillboard} {target : BandTarget} {m t : Memory}
  {blend : UInt16 → UInt16 → UInt8 → UInt16} {wire : Bool} {buffer size i y left right : ℕ}

/-- The texels of a native row, by either blend. -/
theorem nativeRow_pixel (native : board.native = true)
    (inside : ∀ x, left ≤ x → x < right → (y, x) ∈ board.area) {k : ℕ} (short : k < right - left) :
    ∃ color a, board.texture.pixels[board.rowOffset y left + k]? = some color ∧
      board.texture.coverage.alphaAt (board.rowOffset y left + k) = some a ∧
      ∀ dst, drawingWith board blend wire y (left + k) dst =
        compositeWith blend wire color a dst := by
  have first := SceneBillboard.mem_area.mp (inside left (Nat.le_refl _) (by omega))
  have here := inside (left + k) (by omega) (by omega)
  have nearest : board.projected.filter = .nearest := by
    simp only [SceneBillboard.native, isNative, Bool.and_eq_true, decide_eq_true_eq] at native
    exact native.1.1
  obtain ⟨color, a, colored, covered, -⟩ := SceneBillboard.nativePixel_eq wire native here
  rw [SceneBillboard.rowOffset_add first.2.2.1]
  refine ⟨color, a, colored, covered, fun dst => ?_⟩
  rw [← (SceneBillboard.texel_native native y (left + k)).1,
    ← (SceneBillboard.texel_native native y (left + k)).2] at colored covered
  apply Option.some.inj
  rw [← sampleWith_eq_some blend wire here, sampleWith_nearest nearest here colored covered]

variable (native : board.native = true) (columns : left < right)
  (inside : ∀ x, left ≤ x → x < right → (y, x) ∈ board.area)
  (has : layout.HasBoard i board m buffer size) (room : 15 ≤ layout.greatest)
  (even : buffer % 2 = 0)
  (kept : ∀ x, x < buffer ∨ buffer + 2 * size ≤ x → t x = m x)
  {start : ℕ} (upTo : start + (right - left) ≤ size)

include native columns inside has room even kept upTo

theorem pieCutoutRow_eq {bits : Array UInt8} {blocks : Mask8}
    (coverage : board.texture.coverage = .cutout bits blocks) :
    PieBlitter.cutout layout.greatest (buffer + 2 * start) (right - left)
        ⟨layout.colors i, board.texture.pixels⟩ (board.rowOffset y left)
        ⟨layout.coverage i, bits⟩ wire t =
      some (t.fill (fun k => drawingWith board alphaPixel wire y (left + k))
        (buffer + 2 * start) (right - left)) := by
  have ends := SceneBillboard.nativeRow_end native columns inside
  have colors := board.fits.colors
  have held := board.fits.coverage
  have bytes := has.coverage
  have colorsEnd := has.colorsEnd
  rw [coverage] at held bytes
  have readable : ByteSlice.Readable ⟨layout.coverage i, bits⟩ t (buffer + 2 * start)
      (right - left) := bytes.keep kept (by omega) (by omega)
  have enough : divCeil _ 8 ≤ bits.size := of_decide_eq_true held
  have bitsEnd : divCeil (board.rowOffset y left + (right - left)) 8 ≤ bits.size :=
    (Nat.div_le_div_right (by omega)).trans enough
  rw [PieBlitter.cutout_eq room (by omega) (has.colors.keep kept (by omega) (by omega))
    readable (by dsimp only; omega) (by dsimp only; omega) bitsEnd]
  apply congrArg
  apply Memory.fill_congr
  intro k short old
  obtain ⟨color, a, colored, covered, drawn⟩ := nativeRow_pixel native inside short
  rw [coverage] at covered
  obtain ⟨set, bit, rfl⟩ := Option.map_eq_some_iff.mp covered
  rw [drawn, PieBlitter.cutPixel, colored, Option.bind_eq_bind, Option.bind_some, bit]
  cases set with
  | false => rfl
  | true => rfl

theorem pieBlitRow_eq (q2 q7 : Register) (wire : Bool)
    (uncut : ∀ bits blocks, board.texture.coverage ≠ .cutout bits blocks) :
    PieBlitter.blitFrom layout.greatest q2 q7 (buffer + 2 * start) (right - left)
        ⟨layout.colors i, board.texture.pixels⟩ (board.rowOffset y left)
        ((if board.texture.coverage.isAlpha then some board.texture.coverage.alpha
          else none).map fun alpha => ⟨layout.coverage i, alpha⟩) wire t =
      some (t.fill (fun k => drawingWith board alphaPixel wire y (left + k))
        (buffer + 2 * start) (right - left)) := by
  have ends := SceneBillboard.nativeRow_end native columns inside
  have colors := board.fits.colors
  have held := board.fits.coverage
  have bytes := has.coverage
  have colorsEnd := has.colorsEnd
  have bytesEnd := has.coverageEnd
  have readable : WordSlice.Readable ⟨layout.colors i, board.texture.pixels⟩ t
      (buffer + 2 * start) (right - left) :=
    has.colors.keep kept (by omega) (by omega)
  have colorsFit : board.rowOffset y left + (right - left) ≤ board.texture.pixels.size := by
    omega
  have found : ∀ k, k < right - left → ∃ color a,
      (board.texture.pixels.extract (board.rowOffset y left)
        (board.rowOffset y left + (right - left)))[k]? = some color ∧
      board.texture.coverage.alphaAt (board.rowOffset y left + k) = some a ∧
      ∀ dst, drawingWith board alphaPixel wire y (left + k) dst =
        compositeWith alphaPixel wire color a dst := by
    intro k short
    rw [getElem?_extract_of_lt (by omega)]
    exact nativeRow_pixel native inside short
  cases coverage : board.texture.coverage with
  | cutout bits blocks => exact absurd coverage (uncut bits blocks)
  | fullyOpaque =>
      rw [show Coverage.isAlpha .fullyOpaque = false from rfl, if_neg Bool.false_ne_true,
        Option.map_none, PieBlitter.blitFrom_none room (by omega) readable (by dsimp only; omega)
        colorsFit]
      apply congrArg
      apply Memory.fill_congr
      intro k short old
      obtain ⟨color, a, colored, covered, drawn'⟩ := found k short
      rw [coverage] at covered
      cases covered
      rw [drawn', drawn_none colored]
      rfl
  | alpha8 alpha blocks =>
      rw [coverage] at held bytes bytesEnd
      have values : ByteSlice.Readable ⟨layout.coverage i, alpha⟩ t (buffer + 2 * start)
          (right - left) := bytes.keep kept (by omega) (by omega)
      have enough : _ ≤ alpha.size := of_decide_eq_true held
      have alphaFits : board.rowOffset y left + (right - left) ≤ alpha.size := by omega
      rw [show Coverage.isAlpha (.alpha8 alpha blocks) = true from rfl, if_pos rfl, Option.map_some,
        show Coverage.alpha (.alpha8 alpha blocks) = alpha from rfl,
        PieBlitter.blitFrom_some room (by omega) readable values colorsEnd bytesEnd colorsFit
          alphaFits]
      apply congrArg
      apply Memory.fill_congr
      intro k short old
      obtain ⟨color, a, colored, covered, drawn'⟩ := found k short
      rw [coverage] at covered
      have value : (alpha.extract (board.rowOffset y left)
          (board.rowOffset y left + (right - left)))[k]? = some a := by
        rw [getElem?_extract_of_lt (by omega)]
        exact covered
      rw [drawn', ← drawn_some colored value]

end Native

/-- **The vector blitter draws the rows of a native board** with its own blend. -/
theorem pie_drawsNative {layout : Layout} {board : SceneBillboard} {target : BandTarget}
    {m : Memory} {buffer size i : ℕ} {registers : ℕ → ℕ → Register × Register} {wire : Bool}
    (native : board.native = true) (has : layout.HasBoard i board m buffer size)
    (room : 15 ≤ layout.greatest) (even : buffer % 2 = 0)
    (fits : target.stride * target.rows ≤ size) :
    SceneBillboard.DrawsNative (Memory.rows buffer target.y target.stride size) m
      (PieBlitter.blitter layout buffer registers i) board target wire
      (drawingWith board alphaPixel wire) := by
  intro y left right area t reached
  have kept : ∀ x, x < buffer ∨ buffer + 2 * size ≤ x → t x = m x :=
    fun x outside => Memory.eq_of_reached reached outside
  obtain ⟨here, above, wide, inBuffer⟩ := area.line fits
  have columns := area.columns
  have upTo : (y - target.y) * target.stride + left + (right - left) ≤ size := by omega
  rw [← Memory.fill_row above wide inBuffer (Nat.le_of_lt columns) fun k old short => rfl]
  obtain ⟨⟨q2, q7⟩, found⟩ : ∃ pair,
    registers i ((y - target.y) * target.stride + left) = pair := ⟨_, rfl⟩
  rw [nativeRow, PieBlitter.blitter]
  dsimp only
  rw [found]
  have uncut := pieBlitRow_eq native columns here has room even kept upTo q2 q7 wire
  cases coverage : board.texture.coverage with
  | cutout bits blocks =>
      exact pieCutoutRow_eq native columns here has room even kept upTo coverage
  | _ =>
      rw [coverage] at uncut
      exact uncut fun bits blocks cut => by cases cut

/-! ## Sampled boards -/

section Sampled

variable {layout : Layout} {scene : PreparedScene} {board : SceneBillboard}
  {entry : PreparedBoard} {target : BandTarget} {m : Memory} {wire : Bool}
  {registers : ℕ → ℕ → Register × Register} {buffer size i y left right : ℕ}

/-- The columns of a row are in the row of the texture. -/
theorem row_inRange (columns : left < right)
    (inside : ∀ x, left ≤ x → x < right → (y, x) ∈ board.area) :
    PieBlitter.InRange { board.spanAt y with columns := board.columnsOf left right } := by
  have width := board.fits.width_pos
  have first := inside left (Nat.le_refl _) columns
  have narrow := board.texture.size.width.toNat_lt
  have right' := board.fits.right
  have lastTexel := RegionFits.texel_lt (SceneBillboard.texelY_lt first)
    (show board.region.width.toNat - 1 < board.region.width.toNat by omega)
  have last : (board.spanAt y).lastColumn.toNat =
      board.region.sourceX.toNat + (board.region.width.toNat - 1) := by
    rw [SceneBillboard.spanAt, UInt16.toNat_ofNat']
    omega
  have row : (board.spanAt y).rows.1 =
      (board.region.sourceY.toNat + board.texelY y) * board.region.stride.toNat := by
    rw [SceneBillboard.spanAt, AxisStepper.quotient_div]
    rfl
  have within : (board.spanAt y).rows.1 + (board.spanAt y).lastColumn.toNat <
      (board.region.sourceY.toNat + board.region.height.toNat - 1) * board.region.stride.toNat +
        (board.region.sourceX.toNat + board.region.width.toNat) := by
    rw [row, last]
    exact lastTexel
  constructor
  · intro k column found
    have short : k < right - left := by
      obtain ⟨inside, -⟩ := Array.getElem?_eq_some_iff.mp found
      rwa [SceneBillboard.size_columnsOf] at inside
    have here := inside (left + k) (by omega) (by omega)
    have texel := SceneBillboard.index_eq here
    have inRow := SceneBillboard.texelX_lt here
    rw [SceneBillboard.getElem?_columnsOf short, Option.some.injEq] at found
    rw [row, TextureRegion.texel, found] at texel
    dsimp only
    omega
  · exact Nat.lt_of_lt_of_le within board.fits.colors
  · intro alpha blocks coverage
    have held := board.fits.coverage
    rw [show board.texture.coverage = .alpha8 alpha blocks from coverage] at held
    exact Nat.lt_of_lt_of_le within (of_decide_eq_true held)

/-- Samples have no alpha values in a texture with bits. -/
theorem Layout.HasBoard.alpha (has : layout.HasBoard i board m buffer size) :
    (ByteSlice.mk (layout.coverage i) board.texture.coverage.alpha).Readable m buffer
      size := by
  have bytes := has.coverage
  have none : ∀ {bytes : Array UInt8}, (ByteSlice.mk (layout.coverage i) bytes).Readable m
      buffer size → (ByteSlice.mk (layout.coverage i) #[]).Readable m buffer size := by
    intro bytes readable
    have apart := readable.apart
    refine ⟨fun _ _ found => ?_, ?_⟩
    · cases found
    · simp only [List.size_toArray, List.length_nil] at apart ⊢
      omega
  cases coverage : board.texture.coverage with
  | fullyOpaque => exact none bytes
  | cutout bits blocks => exact none bytes
  | alpha8 alpha blocks =>
      rw [coverage] at bytes
      exact bytes

/-- **The vector blitter draws the samples of a board** with its own blend. -/
theorem pie_drawsSamples
    (entered : VisibleEntry scene.occlusion board i scene.columns scene.columns.size entry)
    (scaled : board.native = false) (has : layout.HasScene scene m buffer size)
    (isBoard : scene.boards[i]? = some board) (fits : target.stride * target.rows ≤ size) :
    SceneBillboard.DrawsSamples (Memory.rows buffer target.y target.stride size) m
      (PieBlitter.blitter layout buffer registers i)
      (fun x => entry.columns.1 + (x - board.projected.screenRect.left)) board target wire
      (drawingWith board alphaPixel wire) := by
  intro y left right area t reached
  have kept : ∀ x, x < buffer ∨ buffer + 2 * size ≤ x → t x = m x :=
    fun x outside => Memory.eq_of_reached reached outside
  obtain ⟨here, above, wide, inBuffer⟩ := area.line fits
  have columns := area.columns
  have even := has.even
  have first := here left (Nat.le_refl _) columns
  have last := here (right - 1) (by omega) (by omega)
  rw [SceneBillboard.area, mem_block] at first last
  have texture := has.boards i board isBoard
  have range := row_inRange columns here
  obtain ⟨span, isSpan⟩ : ∃ span, { board.spanAt y with columns := board.columnsOf left right } =
    span := ⟨_, rfl⟩
  have count : span.columns.size = right - left := by
    rw [← isSpan]
    exact SceneBillboard.size_columnsOf
  have sameTexture : span.texture = board.texture := by
    rw [← isSpan]
    rfl
  have pixel : ∀ k, k < right - left → ∀ old, span.pixelWith alphaPixel wire k old =
      some (drawingWith board alphaPixel wire y (left + k) old) := by
    intro k short old
    rw [← sampleWith_eq_some alphaPixel wire (here (left + k) (by omega) (by omega)), ← isSpan,
      SampledSpan.pixelWith, SceneBillboard.getElem?_columnsOf short]
    rfl
  obtain ⟨start, isStart⟩ : ∃ start, (y - target.y) * target.stride + left = start := ⟨_, rfl⟩
  have readable : PieBlitter.Places.Readable ⟨layout.colors i, layout.coverage i,
      layout.columns + 4 * (entry.columns.1 + (left - board.projected.screenRect.left))⟩ span t
      (buffer + 2 * start) span.columns.size := by
    have apart := has.apart
    obtain ⟨columnsEnd, sampled⟩ := entered.sampled scaled
    have upTo := entered.upTo
    refine ⟨?_, ?_, texture.present, fun k column found => ?_, ?_⟩
    · rw [sameTexture]
      exact texture.colors.keep kept (by omega) (by omega)
    · rw [sameTexture]
      exact texture.alpha.keep kept (by omega) (by omega)
    · have short : k < right - left := by
        obtain ⟨inside, -⟩ := Array.getElem?_eq_some_iff.mp found
        rwa [count] at inside
      rw [← isSpan, SceneBillboard.getElem?_columnsOf short, Option.some.injEq] at found
      have there := sampled (left - board.projected.screenRect.left + k) (by omega)
      rw [show board.projected.screenRect.left + (left - board.projected.screenRect.left + k) =
        left + k by omega, found, ← Nat.add_assoc] at there
      obtain ⟨place, isPlace⟩ : ∃ place,
        entry.columns.1 + (left - board.projected.screenRect.left) = place := ⟨_, rfl⟩
      rw [isPlace] at there ⊢
      obtain ⟨inside, -⟩ := Array.getElem?_eq_some_iff.mp there
      dsimp only
      rw [← has.columns _ column there, Nat.add_assoc, ← Nat.mul_add, Memory.lane, Memory.lane,
        kept _ (by omega), kept _ (by omega)]
    · dsimp only
      omega
  rw [isSpan] at range ⊢
  rw [← Memory.fill_row above wide inBuffer (Nat.le_of_lt columns) fun k old short => rfl,
    PieBlitter.blitter]
  dsimp only
  rw [isStart, PieBlitter.sample_eq ⟨span, range⟩ (by omega) readable, PieBlitter.drawOnto, guard,
    if_pos rfl, count]
  exact Memory.writeSpan_eq_some fun k old short => pixel k short old

end Sampled

/-! ## Bands -/

/-- `raster_band` with the renderer's background and blitter -/
def rasterBandPie (layout : Layout) (buffer : ℕ) (registers : ℕ → ℕ → Register × Register)
    (checks wire : Bool) (background : Background) (target : BandTarget) (scene : PreparedScene)
    (m : Memory) : Option (PreparedScene × Memory) :=
  scene.rasterBandOn checks target
    (fun start length colors => PieBackground.fill (buffer + 2 * start) length colors) background
    (PieBlitter.blitter layout buffer registers) wire m

section Bands

variable {layout : Layout} {scene : PreparedScene} {boards : List SceneBillboard}
  {occlusion : Occlusion} {target : BandTarget} {background : Background} {m : Memory}
  {registers : ℕ → ℕ → Register × Register} {checks wire : Bool} {buffer size : ℕ}
  {pixels : Array UInt16}

theorem pie_drawsBackground (even : buffer % 2 = 0) (fits : target.stride * target.rows ≤ size) :
    DrawsBackground (Memory.rows buffer target.y target.stride size) m
      (fun start length colors => PieBackground.fill (buffer + 2 * start) length colors) target
      background wire := by
  intro y first last above below tiles ordered narrow t reached
  have inBuffer := target.row_fits fits below above narrow
  have filled : PieBackground.fill (buffer + 2 * ((y - target.y) * target.stride + first))
      (last - first) ((background.row y).map (wireOrder wire)) t = _ :=
    PieBackground.fill_eq (by omega)
  dsimp only
  rw [filled, Memory.fill_row above (narrow.trans target.wide) inBuffer ordered]
  intro k old short
  have same : (first + k) % 4 = k % 4 := by omega
  simp only [PieBackground.repeated, fourth, Background.drawing, same]
  exact Vector.getElem_map _ _

/-- **The renderer draws its own rows of the scene**, and counts the samples as every blitter. -/
theorem rasterBandPie_eq (prepared : PreparedScene.Of boards occlusion scene)
    (small : scene.stats.raster.Fits) (has : layout.HasScene scene m buffer size)
    (fits : target.stride * target.rows ≤ size) :
    rasterBandPie layout buffer registers checks wire background target scene m =
      (addAll checks (litItems scene.occlusion target.held 0 boards) scene.stats.raster).map
        fun raster =>
          ({ scene with stats := { scene.stats with raster := raster } },
            (Memory.rows buffer target.y target.stride size).shade (restrict target.held
              (sceneDrawingBy (fun board => drawingWith board alphaPixel wire) scene.occlusion
                scene.stats.opaqueTiles boards background wire)) m) := by
  apply rasterBandOn_eq prepared (pie_drawsBackground has.even fits) _ small
  intro i board entry found entered seen
  rw [← prepared.sameBoards] at found
  obtain ⟨_, found', isEntry⟩ := prepared.entries i board (prepared.sameBoards ▸ found)
  cases entered.symm.trans found'
  exact ⟨fun native => pie_drawsNative native (has.boards i board found) has.room has.even fits,
    fun scaled => pie_drawsSamples (isEntry.visible seen) scaled has found fits⟩

/-- Words of no row of the band are not written. -/
theorem rows_outside {draw : Drawing UInt16} {x : ℕ}
    (outside : x < buffer ∨ buffer + 2 * (target.stride * target.rows) ≤ x) :
    (Memory.rows buffer target.y target.stride size).shade (restrict target.held draw) m x =
      m x := by
  rw [Memory.shade_rows]
  apply Memory.fill_unchanged
  intro k old lower upper
  have wide := target.wide
  have beyond : target.rows ≤ k / target.stride := by
    rw [Nat.le_div_iff_mul_le (by rw [viewportWidth] at wide; omega), Nat.mul_comm]
    omega
  apply restrict_of_notMem
  rintro ⟨-, below⟩
  dsimp only at below
  omega

/-- In and beside the rows of the band. -/
theorem rows_within {opaqueTiles y x : ℕ} (old : UInt16) :
    Within (blendings occlusion (y, x) 0 boards)
      (wireOrder wire (restrict target.held (sceneDrawingBy
        (fun board => drawingWith board alphaPixel wire) occlusion opaqueTiles boards background
          wire) y x old))
      (wireOrder wire (restrict target.held (sceneDrawing occlusion opaqueTiles boards background
        wire) y x old)) := by
  by_cases rows : (y, x) ∈ target.held
  · rw [restrict_of_mem rows, restrict_of_mem rows]
    exact sceneDrawing_within old
  · rw [restrict_of_notMem rows, restrict_of_notMem rows]
    exact .refl _ _

/-- **A band of the renderer agrees with the portable one.** Whatever the buffer held, it is drawn
if the portable renderer draws it, with the same samples, and nothing else is written. A channel
is never greater than there, and less by at most the number of boards that blend onto its pixel;
where none does, the word is the same. -/
theorem rasterBand_agrees (registers : ℕ → ℕ → Register × Register) (checks wire : Bool)
    (background : Background) (prepared : PreparedScene.Of boards occlusion scene)
    (small : scene.stats.raster.Fits) (fits : target.stride * target.rows ≤ pixels.size)
    (held : m.Holds buffer pixels) (has : layout.HasScene scene m buffer pixels.size) :
    (rasterBandPie layout buffer registers checks wire background target scene m).map Prod.fst =
      (scene.rasterBand checks target background wire pixels).map Prod.fst ∧
    ∀ last next,
      rasterBandPie layout buffer registers checks wire background target scene m =
        some (last, next) → ∃ words,
      scene.rasterBand checks target background wire pixels = some (last, words) ∧
      (∀ x, x < buffer ∨ buffer + 2 * (target.stride * target.rows) ≤ x → next x = m x) ∧
      ∀ i word, words[i]? = some word → ∀ most,
        blendings scene.occlusion (target.y + i / target.stride, i % target.stride) 0 boards =
            most →
          Within most (wireOrder wire (next.lane (buffer + 2 * i))) (wireOrder wire word) ∧
            (most = 0 → next.lane (buffer + 2 * i) = word) := by
  rw [rasterBandPie_eq prepared small has fits, rasterBand_eq prepared small fits]
  refine ⟨by rw [Option.map_map, Option.map_map]; rfl, fun last next drawn => ?_⟩
  obtain ⟨raster, counted, same⟩ := Option.map_eq_some_iff.mp drawn
  cases same
  refine ⟨_, by rw [counted, Option.map_some], fun x outside => rows_outside outside,
    fun i word found => ?_⟩
  rw [getElem?_shade] at found
  obtain ⟨old, was, rfl⟩ := Option.map_eq_some_iff.mp found
  obtain ⟨inside, -⟩ := Array.getElem?_eq_some_iff.mp was
  rintro _ rfl
  rw [Memory.shade_rows, Memory.lane_fill_within inside, held i old was]
  exact ⟨rows_within old, fun none => Within.word (none ▸ rows_within old)⟩

/-! A texel that is half covered, and the columns of a scene, lie behind the buffer. -/

def shelf (columns : Array ColumnSample) : Memory := fun x =>
  if x = 200000 then 0x34
  else if x = 200001 then 0x12
  else if x = 200100 then 128
  else if 300000 ≤ x then
    match columns[(x - 300000) / 4]? with
    | none => 0
    | some column =>
        if x % 4 = 0 then lowByte column.first
        else if x % 4 = 1 then highByte column.first
        else if x % 4 = 2 then lowByte column.fraction
        else highByte column.fraction
  else 0

def shelfLayout : Layout where
  greatest := Checked.u32Max
  columns := 300000
  colors _ := 200000
  coverage _ := 200100

theorem shelf_color {columns : Array ColumnSample} : (shelf columns).lane 200000 = 0x1234 := by
  have low : shelf columns 200000 = 0x34 := if_pos rfl
  have high : shelf columns 200001 = 0x12 := (if_neg (by decide)).trans (if_pos rfl)
  rw [Memory.lane, low, high]
  rfl

theorem shelf_column {columns : Array ColumnSample} {k : ℕ} {column : ColumnSample}
    (found : columns[k]? = some column) :
    (shelf columns).lane (300000 + 4 * k) = column.first := by
  have low : shelf columns (300000 + 4 * k) = lowByte column.first := by
    rw [shelf, if_neg (by omega), if_neg (by omega), if_neg (by omega), if_pos (by omega),
      show (300000 + 4 * k - 300000) / 4 = k by omega, found]
    exact if_pos (by omega)
  have high : shelf columns (300000 + 4 * k + 1) = highByte column.first := by
    rw [shelf, if_neg (by omega), if_neg (by omega), if_neg (by omega), if_pos (by omega),
      show (300000 + 4 * k + 1 - 300000) / 4 = k by omega, found]
    exact (if_neg (by omega)).trans (if_pos (by omega))
  rw [Memory.lane, low, high, laneOf_bytes]

theorem shelf_hasBoard {columns : Array ColumnSample} {size : ℕ} (small : size ≤ 100000) :
    shelfLayout.HasBoard 0 hazyBoard (shelf columns) 0 size where
  colors := by
    refine ⟨rfl, fun k word found => ?_, Or.inr (show 0 + 2 * size ≤ 200000 by omega)⟩
    cases k with
    | zero =>
        cases found
        exact shelf_color
    | succ k => cases found
  coverage := by
    refine ⟨fun k byte found => ?_, Or.inr (show 0 + 2 * size ≤ 200100 by omega)⟩
    cases k with
    | zero =>
        cases found
        rfl
    | succ k => cases found
  present := by decide
  colorsEnd := by decide
  coverageEnd := by decide

theorem shelf_hasScene {size : ℕ} (boards : scene.boards = [hazyBoard]) (small : size ≤ 100000) :
    shelfLayout.HasScene scene (shelf scene.columns) 0 size where
  room := by decide
  even := rfl
  columns _ _ found := shelf_column found
  apart := Or.inr (show 0 + 2 * size ≤ 300000 by omega)
  boards i board found := by
    rw [boards] at found
    cases i with
    | zero =>
        cases found
        exact shelf_hasBoard small
    | succ i => cases found

theorem hazyScene : ∃ scene,
    PreparedScene.new [hazyBoard] ⟨.sixteen, Array.replicate 300 0, Array.size_replicate⟩ 1
        (Array.replicate 320 default) = some (.ok scene) ∧
    PreparedScene.Of [hazyBoard] ⟨.sixteen, Array.replicate 300 0, Array.size_replicate⟩ scene ∧
    scene.stats.raster.Fits := by
  obtain ⟨scene, -, -, -, ran⟩ := drawn_and_prepared [hazyBoard] ⟨fun _ => #v[1, 2, 3, 4]⟩ true
    ⟨.sixteen, Array.replicate 300 0, Array.size_replicate⟩
    ⟨.eight, Array.replicate 1200 0, Array.size_replicate⟩ 320 1 (Array.replicate 76800 0)
    (Array.replicate 320 default) (by decide) (by decide) (by decide)
    (by rw [Array.size_replicate]; decide) (by decide) (by rw [Array.size_replicate]; decide)
  obtain ⟨of, zero⟩ := of_prepared (by decide) (by decide) ran
  exact ⟨scene, ran, of, zero ▸ RasterStats.fits_zero⟩

theorem rasterBand_agrees_hazy : ∃ scene last next words,
    PreparedScene.new [hazyBoard] ⟨.sixteen, Array.replicate 300 0, Array.size_replicate⟩ 1
        (Array.replicate 320 default) = some (.ok scene) ∧
    rasterBandPie shelfLayout 0 (fun _ _ => (.ofBytes fun _ => 7, .ofBytes UInt8.ofNat)) false true
        ⟨fun _ => #v[1, 2, 3, 4]⟩ lowerBand.target scene (shelf scene.columns) =
      some (last, next) ∧
    scene.rasterBand false lowerBand.target ⟨fun _ => #v[1, 2, 3, 4]⟩ true
        ((shelf scene.columns).words 0 44800) = some (last, words) ∧
    ∀ x, 89600 ≤ x → next x = shelf scene.columns x := by
  obtain ⟨scene, ran, of, small⟩ := hazyScene
  have size := Memory.size_words 0 44800 (m := shelf scene.columns)
  have has : shelfLayout.HasScene scene (shelf scene.columns) 0
      ((shelf scene.columns).words 0 44800).size :=
    shelf_hasScene of.sameBoards (by rw [size]; decide)
  have fits : lowerBand.target.stride * lowerBand.target.rows ≤
      ((shelf scene.columns).words 0 44800).size := by
    rw [size]
    decide
  obtain ⟨-, agrees⟩ := rasterBand_agrees (fun _ _ => (.ofBytes fun _ => 7, .ofBytes UInt8.ofNat))
    false true ⟨fun _ => #v[1, 2, 3, 4]⟩ of small fits (Memory.holds_words _ _) has
  obtain ⟨raster, added⟩ : ∃ raster, addAll false
      (litItems scene.occlusion lowerBand.target.held 0 [hazyBoard]) scene.stats.raster =
        some raster :=
    Option.isSome_iff_exists.mp addAll_unchecked
  have drawn : rasterBandPie shelfLayout 0 (fun _ _ => (.ofBytes fun _ => 7,
      .ofBytes UInt8.ofNat)) false true ⟨fun _ => #v[1, 2, 3, 4]⟩ lowerBand.target scene
        (shelf scene.columns) = _ := rasterBandPie_eq of small has fits
  rw [added, Option.map_some] at drawn
  obtain ⟨words, reference, outside, -⟩ := agrees _ _ drawn
  exact ⟨scene, _, _, words, ran, drawn, reference,
    fun x beyond => outside x (Or.inr (show 0 + 2 * (320 * 140) ≤ x by omega))⟩

end Bands

end Deskkin.Renderer
