/-
# Boards on their own

A board is checked before anything is drawn. One that passes draws the pixels where it
is seen, and counts them; nothing else is changed. This is all that a board does, for
every buffer, texture, region and rectangle that it may be given.
-/

import Deskkin.Presentation.Painter

namespace Deskkin.Presentation

open Loops Grid

/-- The places of a board that its mask leaves visible. -/
def SceneBillboard.seen (board : SceneBillboard) (mask : Option (Occlusion × ℕ)) : Set (ℕ × ℕ) :=
  {place ∈ board.area | place ∈ shownBy mask}

/-- The checks of a board, with the board that has passed them. There is nothing if the
product for the size of the buffer overflows. -/
def acceptBillboard (stride : ℕ) (projected : ProjectedBillboard) (texture : Texture)
    (region : TextureRegion) (words : ℕ) : Option (Except RasterError SceneBillboard) :=
  if stride < viewportWidth then some (.error .invalidFramebuffer)
  else if words < stride * viewportHeight then
    if stride * viewportHeight ≤ Checked.u64Max then some (.error .invalidFramebuffer) else none
  else some (SceneBillboard.new projected texture region)

/-- The samples and the buffer after an accepted board. -/
noncomputable def SceneBillboard.drawnOnto (board : SceneBillboard) (stride : ℕ) (wire : Bool)
    (mask : Option (Occlusion × ℕ)) (pixels : Array UInt16) :
    Except RasterError RasterStats × Array UInt16 :=
  (.ok (samplesOf board.projected.filter (board.seen mask).ncard),
    shade 0 stride (restrict (board.seen mask) (board.drawing wire)) pixels)

/-- The word is one of the places of the screen that the rectangle covers. -/
def ScreenRect.Holds (rect : ScreenRect) (stride i : ℕ) : Prop :=
  ∃ y x, (y < viewportHeight ∧ rect.y.toInt ≤ y ∧ (y : ℤ) < rect.y.toInt + rect.height.toInt) ∧
    (x < viewportWidth ∧ rect.x.toInt ≤ x ∧ (x : ℤ) < rect.x.toInt + rect.width.toInt) ∧
      i = y * stride + x

section Board

variable {projected : ProjectedBillboard} {texture : Texture} {region : TextureRegion}
  {stride : ℕ} {native wire : Bool} {mask : Option (Occlusion × ℕ)} {pixels : Array UInt16}

theorem SceneBillboard.new_eq_ok {board : SceneBillboard}
    (accepted : SceneBillboard.new projected texture region = .ok board) :
    board.projected = projected ∧ board.texture = texture ∧ board.region = region := by
  rw [SceneBillboard.new] at accepted
  split at accepted
  · cases accepted
  · split at accepted
    · cases accepted
      exact ⟨rfl, rfl, rfl⟩
    · cases accepted

/-- A board is rejected for its texture, or else for its rectangle. -/
theorem SceneBillboard.new_eq_error {error : RasterError}
    (rejected : SceneBillboard.new projected texture region = .error error) :
    validateTexture texture region = .error error ∨
      validateTexture texture region = .ok () ∧ error = .invalidTexture ∧
        (projected.screenRect.width.toInt ≤ 0 ∨ projected.screenRect.height.toInt ≤ 0) := by
  rw [SceneBillboard.new] at rejected
  split at rejected
  · rename_i invalid
    cases rejected
    exact Or.inl invalid
  · rename_i valid
    split at rejected
    · cases rejected
    · cases rejected
      exact Or.inr ⟨valid, rfl, by omega⟩

theorem SceneBillboard.shown_eq_seen {board : SceneBillboard} (wide : viewportWidth ≤ stride) :
    board.shown (screen stride wide) mask = board.seen mask := by
  ext ⟨y, x⟩
  rw [SceneBillboard.mem_shown]
  refine and_congr_right fun inside => and_iff_right ?_
  rw [SceneBillboard.mem_area] at inside
  simp only [screen]
  omega

/-- **What becomes of a board**, whatever it is given and whichever way it is drawn. -/
theorem rasterBillboardBy_eq (allowed : native = true → isNative projected region = true) :
    rasterBillboardBy native stride projected texture region wire mask pixels =
      (acceptBillboard stride projected texture region pixels.size).map fun
        | .error error => (.error error, pixels)
        | .ok board => board.drawnOnto stride wire mask pixels := by
  rw [acceptBillboard]
  by_cases narrow : stride < viewportWidth
  · rw [rasterBillboardBy, if_pos narrow, if_pos narrow]
    rfl
  · rw [if_neg narrow]
    by_cases short : pixels.size < stride * viewportHeight
    · rw [rasterBillboardBy, if_neg narrow, if_pos short, if_pos short]
      split <;> rfl
    · rw [if_neg short]
      cases checked : SceneBillboard.new projected texture region with
      | error error =>
          rw [rasterBillboardBy, if_neg narrow, if_neg short]
          rcases SceneBillboard.new_eq_error checked with invalid | ⟨valid, rfl, empty⟩
          · rw [invalid]
            rfl
          · rw [valid]
            dsimp only
            rw [if_pos empty]
            rfl
      | ok board =>
          obtain ⟨rfl, rfl, rfl⟩ := SceneBillboard.new_eq_ok checked
          have wide := Nat.le_of_not_lt narrow
          have drawn : Ensures (rasterBillboardBy native stride board.projected board.texture
            board.region wire mask pixels) _ :=
              rasterBillboardBy_spec allowed wide (Nat.le_of_not_lt short)
          obtain ⟨after, ran, rfl⟩ := drawn
          rw [ran, SceneBillboard.shown_eq_seen]
          rfl

theorem SceneBillboard.new_eq (board : SceneBillboard) :
    SceneBillboard.new board.projected board.texture board.region = .ok board := by
  cases checked : SceneBillboard.new board.projected board.texture board.region with
  | ok other =>
      obtain ⟨projected, texture, region⟩ := SceneBillboard.new_eq_ok checked
      cases other
      cases board
      cases projected
      cases texture
      cases region
      rfl
  | error error =>
      have positive := board.positive
      rcases SceneBillboard.new_eq_error checked with invalid | ⟨-, -, empty⟩
      · rw [board.valid] at invalid
        cases invalid
      · omega

theorem rasterBillboardMasked_eq :
    rasterBillboardMasked stride projected texture region wire mask pixels =
      (acceptBillboard stride projected texture region pixels.size).map fun
        | .error error => (.error error, pixels)
        | .ok board => board.drawnOnto stride wire mask pixels :=
  rasterBillboardBy_eq id

/-- An accepted board changes the words of its rectangle only. -/
theorem SceneBillboard.drawnOnto_kept {board : SceneBillboard} {i : ℕ}
    (outside : ¬board.projected.screenRect.Holds stride i) :
    (board.drawnOnto stride wire mask pixels).2[i]? = pixels[i]? := by
  have beside : (0 + i / stride, i % stride) ∉ board.seen mask := by
    rintro ⟨inside, -⟩
    have place := Nat.div_add_mod i stride
    rw [SceneBillboard.mem_area, Nat.zero_add] at inside
    exact outside ⟨_, _, inside.1, inside.2, by rw [Nat.mul_comm, place]⟩
  rw [drawnOnto, getElem?_shade]
  cases pixels[i]? with
  | none => rfl
  | some word => rw [Option.map_some, restrict_of_notMem beside]

/-- The words of an accepted board. -/
theorem SceneBillboard.drawnOnto_row {board : SceneBillboard} {y x : ℕ}
    (wide : viewportWidth ≤ stride) (inside : (y, x) ∈ board.area)
    (shown : (y, x) ∈ shownBy mask) :
    (board.drawnOnto stride wire mask pixels).2[y * stride + x]? =
      pixels[y * stride + x]?.map (board.drawing wire y x) := by
  have viewport := SceneBillboard.mem_area.mp inside
  have seen : (y, x) ∈ board.seen mask := ⟨inside, shown⟩
  have row : (board.drawnOnto stride wire mask pixels).2[(y - 0) * stride + x]? = _ :=
    getElem?_shade_row (Nat.zero_le y) (by omega)
  rw [Nat.sub_zero] at row
  rw [row]
  apply congrArg (Option.map · _)
  funext word
  exact restrict_of_mem seen word

end Board

/-! ## Native size -/

section Native

variable {board : SceneBillboard} {target : BandTarget} {mask : Option (Occlusion × ℕ)}
  {wire : Bool} {pixels : Array UInt16}

theorem SceneBillboard.clip (board : SceneBillboard) (target : BandTarget) :
    Clip board target (max board.projected.screenRect.top target.y)
      (min board.projected.screenRect.bottom (target.y + target.rows))
      board.projected.screenRect.left board.projected.screenRect.right := by
  constructor
  intro y x
  rw [SceneBillboard.area, mem_block]
  omega

/-- In any rows of the screen that it meets, a native board may be drawn by the sampler. -/
theorem rasterNative_eq_scaled (native : board.native = true)
    (fits : target.stride * target.rows ≤ pixels.size)
    (columns : board.projected.screenRect.left < board.projected.screenRect.right)
    (rows : max board.projected.screenRect.top target.y <
      min board.projected.screenRect.bottom (target.y + target.rows)) :
    rasterNative target board.projected.screenRect board.texture board.region wire mask pixels =
      rasterScaled target.y target.stride board.projected board.texture board.region wire
        board.projected.screenRect.left (max board.projected.screenRect.top target.y : ℕ)
        board.projected.screenRect.right
        (min board.projected.screenRect.bottom (target.y + target.rows) : ℕ) mask pixels := by
  have clip := board.clip target
  have corner := ((clip.inside _ _).mpr ⟨⟨Nat.le_refl _, rows⟩, Nat.le_refl _, columns⟩).1
  obtain ⟨⟨drawn, samples⟩, ran, shows, counted⟩ : Ensures (rasterNative target
      board.projected.screenRect board.texture board.region wire mask pixels) _ :=
    rasterNative_spec native (SceneBillboard.reaches corner) fits
  obtain ⟨⟨drawn', samples'⟩, ran', shows', counted'⟩ : Ensures (rasterScaled target.y
      target.stride board.projected board.texture board.region wire _ _ _ _ mask pixels) _ :=
    rasterScaled_spec clip rows columns fits
  dsimp only at shows counted shows' counted'
  rw [ran, ran', shows, shows', counted, counted']

/-- **Native size is a shortcut only.** A board of the size of its region is drawn and
counted as the sampler would, whether the call is for a whole screen or for a band that
the board meets. -/
theorem native_eq_sampled (projected : ProjectedBillboard) (texture : Texture)
    (region : TextureRegion) (wire : Bool) (mask : Option (Occlusion × ℕ))
    (native : isNative projected region = true) :
    (∀ stride pixels,
      rasterBillboardBy true stride projected texture region wire mask pixels =
        rasterBillboardBy false stride projected texture region wire mask pixels) ∧
    ∀ board target pixels, SceneBillboard.new projected texture region = .ok board →
      BandTarget.new pixels target.stride target.y target.rows = .ok target →
        projected.screenRect.left < projected.screenRect.right →
          max projected.screenRect.top target.y <
              min projected.screenRect.bottom (target.y + target.rows) →
            rasterNative target projected.screenRect texture region wire mask pixels =
              rasterScaled target.y target.stride projected texture region wire
                projected.screenRect.left (max projected.screenRect.top target.y : ℕ)
                projected.screenRect.right
                (min projected.screenRect.bottom (target.y + target.rows) : ℕ) mask pixels := by
  constructor
  · intro stride pixels
    have sampled : false = true → isNative projected region = true :=
      fun absurdity => absurd absurdity Bool.false_ne_true
    rw [rasterBillboardBy_eq fun _ => native, rasterBillboardBy_eq sampled]
  · intro board target pixels checked accepted columns rows
    obtain ⟨rfl, rfl, rfl⟩ := SceneBillboard.new_eq_ok checked
    exact rasterNative_eq_scaled native (BandTarget.fits_of_new accepted) columns rows

/-- Four texels with a bit each, over a corner of the screen. -/
def cornerBoard : SceneBillboard where
  projected := ⟨1, ⟨-1, -1, 2, 2⟩, 0, 1, .nearest⟩
  texture := ⟨⟨2, 2⟩, #[1, 2, 3, 4],
    .cutout #[0x09] ⟨⟨2, 2⟩, #[0], by decide, by decide⟩⟩
  region := ⟨0, 0, 2, 2, 2⟩
  valid := by decide
  positive := by decide

theorem native_eq_sampled_corner : isNative cornerBoard.projected cornerBoard.region = true ∧
    rasterBillboardBy true 320 cornerBoard.projected cornerBoard.texture cornerBoard.region true
        none (Array.replicate 76800 7) =
      rasterBillboardBy false 320 cornerBoard.projected cornerBoard.texture cornerBoard.region true
        none (Array.replicate 76800 7) :=
  ⟨by decide, (native_eq_sampled cornerBoard.projected cornerBoard.texture cornerBoard.region true
    none (by decide)).1 320 _⟩

end Native

end Deskkin.Presentation
