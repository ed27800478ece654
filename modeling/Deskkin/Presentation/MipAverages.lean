/-
# What a reduced texel is

The coverage of a reduced texel is the average of the coverage of four texels, and each
channel of its color is the average of theirs, weighted with their coverage; both are rounded
to the nearest. So the channels stay in their ranges, a region of one color keeps it, and an
opaque one stays opaque.
-/

import Deskkin.Lib.Rounding
import Deskkin.Presentation.Mipmap

namespace Deskkin.Presentation

open Grid Rounding

namespace Corners

variable {α : Type}

theorem sum_le {values : Corners ℕ} {most : ℕ} (all : values.All (· ≤ most)) :
    values.sum ≤ 4 * most := by
  have first : values.topLeft ≤ most := all.topLeft
  have second : values.topRight ≤ most := all.topRight
  have third : values.bottomLeft ≤ most := all.bottomLeft
  have fourth : values.bottomRight ≤ most := all.bottomRight
  rw [sum]
  omega

/-- The sum of values that are weighted. -/
def weighted (values : Corners α) (weights : Corners ℕ) (f : α → ℕ) : ℕ :=
  (values.zipWith (fun value weight => f value * weight) weights).sum

variable {values : Corners α} {weights : Corners ℕ} {f : α → ℕ}

theorem weighted_le {most : ℕ} (all : values.All (f · ≤ most)) :
    values.weighted weights f ≤ most * weights.sum := by
  rw [weighted, sum, sum, zipWith, Nat.mul_add, Nat.mul_add, Nat.mul_add]
  exact Nat.add_le_add (Nat.add_le_add (Nat.add_le_add (Nat.mul_le_mul_right _ all.topLeft)
    (Nat.mul_le_mul_right _ all.topRight)) (Nat.mul_le_mul_right _ all.bottomLeft))
    (Nat.mul_le_mul_right _ all.bottomRight)

theorem weighted_same {same : ℕ} (all : values.All (f · = same)) :
    values.weighted weights f = same * weights.sum := by
  rw [weighted, sum, sum, zipWith, all.topLeft, all.topRight, all.bottomLeft, all.bottomRight,
    Nat.mul_add, Nat.mul_add, Nat.mul_add]

end Corners

/-! ## Averages -/

/-- An average of values up to a bound stays within it. -/
theorem average_le {weighted total most : ℕ} (upTo : weighted ≤ most * total)
    (positive : 0 < total) : (weighted + total / 2) / total ≤ most := by
  rw [← Nat.lt_succ_iff, Nat.div_lt_iff_lt_mul positive, Nat.succ_mul]
  omega

section Average

variable {texels : Corners UInt16} {coverage : Corners ℕ}

/-- A component of an average, as a number. -/
theorem toNat_averaged (texels : Corners UInt16) {shift mask : UInt16} {channel : Channel}
    (reads : ∀ texel : UInt16, ((texel >>> shift) &&& mask).toNat = channel.value texel)
    (covered : 0 < coverage.sum) : ∃ component : UInt16,
      averaged texels coverage shift mask = component <<< shift ∧ component.toNat =
        (texels.weighted coverage channel.value + coverage.sum / 2) / coverage.sum := by
  have upTo : (texels.weighted coverage channel.value + coverage.sum / 2) / coverage.sum ≤
      channel.most :=
    average_le (Corners.weighted_le ⟨channel.value_le _, channel.value_le _, channel.value_le _,
      channel.value_le _⟩) covered
  have most := channel.most_le
  refine ⟨_, rfl, ?_⟩
  simp only [reads]
  rw [UInt16.toNat_ofNat']
  exact Nat.mod_eq_of_lt (by rw [Corners.weighted] at upTo; omega)

/-- **Each channel of an average color is the average of the channel.** -/
theorem averageColor_eq (covered : 0 < coverage.sum) :
    averageColor texels coverage = Channel.pack fun channel =>
      (texels.weighted coverage channel.value + coverage.sum / 2) / coverage.sum := by
  have within : ∀ channel : Channel, (texels.weighted coverage channel.value +
      coverage.sum / 2) / coverage.sum ≤ channel.most := fun channel =>
    average_le (Corners.weighted_le ⟨channel.value_le _, channel.value_le _, channel.value_le _,
      channel.value_le _⟩) covered
  have unshifted : ∀ texel : UInt16, ((texel >>> 0) &&& 31).toNat = Channel.blue.value texel :=
    fun texel => by rw [UInt16.shiftRight_zero]; exact Channel.blue_eq texel
  obtain ⟨r, redIs, reds⟩ := toNat_averaged texels Channel.red_eq covered
  obtain ⟨g, greenIs, greens⟩ := toNat_averaged texels Channel.green_eq covered
  obtain ⟨b, blueIs, blues⟩ := toNat_averaged texels unshifted covered
  have packed := Channel.or_eq_pack (reds.trans_le (within .red)) (greens.trans_le (within .green))
    (blues.trans_le (within .blue))
  rw [averageColor, if_neg (Nat.ne_of_gt covered), redIs, greenIs, blueIs, UInt16.shiftLeft_zero,
    UInt16.or_comm, UInt16.or_comm b, ← UInt16.or_assoc, packed]
  apply congrArg
  funext channel
  cases channel with
  | red => exact reds
  | green => exact greens
  | blue => exact blues

/-- What a texel is reduced to: averages of four, with their coverage. -/
structure IsAverage (texels : Corners UInt16) (coverage : Corners ℕ) (color : UInt16)
    (alpha : UInt8) : Prop where
  alpha : (alpha.toNat : ℤ) = round ((coverage.sum : ℚ) / 4)
  channels : ∀ channel : Channel, (channel.value color : ℤ) =
    round ((texels.weighted coverage channel.value : ℚ) / coverage.sum)
  ranges : ∀ channel : Channel,
    round ((texels.weighted coverage channel.value : ℚ) / coverage.sum) ≤ channel.most
  clear : coverage.sum = 0 → color = 0

theorem average_isAverage (bytes : coverage.All (· ≤ 255)) :
    IsAverage texels coverage (averageColor texels coverage) (averageAlpha coverage) := by
  have total := Corners.sum_le bytes
  have alphaIs : (averageAlpha coverage).toNat = (coverage.sum + 4 / 2) / 4 := by
    rw [averageAlpha, UInt8.toNat_ofNat']
    exact Nat.mod_eq_of_lt (by omega)
  have alpha : ((averageAlpha coverage).toNat : ℤ) = round ((coverage.sum : ℚ) / 4) := by
    rw [alphaIs, cast_add_half_div]
    rfl
  rcases Nat.eq_zero_or_pos coverage.sum with clear | covered
  · have black : averageColor texels coverage = 0 := if_pos clear
    have nothing : ∀ channel : Channel,
        round ((texels.weighted coverage channel.value : ℚ) / coverage.sum) = 0 := by
      intro channel
      rw [clear, Nat.cast_zero, div_zero, round_zero]
    refine ⟨alpha, fun channel => ?_, fun channel => ?_, fun _ => black⟩
    · rw [nothing, black]
      cases channel <;> rfl
    · rw [nothing]
      exact Int.natCast_nonneg _
  · have within : ∀ channel : Channel, (texels.weighted coverage channel.value +
        coverage.sum / 2) / coverage.sum ≤ channel.most := fun channel =>
      average_le (Corners.weighted_le ⟨channel.value_le _, channel.value_le _,
        channel.value_le _, channel.value_le _⟩) covered
    refine ⟨alpha, fun channel => ?_, fun channel => ?_, fun clear => absurd clear (by omega)⟩
    · rw [averageColor_eq covered, Channel.value_pack within, cast_add_half_div]
    · rw [← cast_add_half_div]
      exact Int.ofNat_le.mpr (within channel)

/-- The average of one color is the color. -/
theorem averageColor_same {color : UInt16} (same : texels.All (· = color))
    (covered : 0 < coverage.sum) : averageColor texels coverage = color := by
  have channels : (fun channel : Channel => (texels.weighted coverage channel.value +
      coverage.sum / 2) / coverage.sum) = fun channel => channel.value color := by
    funext channel
    have equal : texels.All (channel.value · = channel.value color) :=
      same.mono fun texel is => by rw [is]
    rw [Corners.weighted_same equal, Nat.mul_comm, Nat.mul_add_div covered,
      Nat.div_eq_of_lt (Nat.div_lt_self covered (by decide)), Nat.add_zero]
  rw [averageColor_eq covered, channels, Channel.pack_value]

theorem averageAlpha_opaque (full : coverage.All (· = 255)) : averageAlpha coverage = 255 := by
  rw [averageAlpha, Corners.sum, full.topLeft, full.topRight, full.bottomLeft, full.bottomRight]
  rfl

end Average

/-! ## Reductions -/

/-- The result of a reduction, texel by texel. -/
structure IsReduction (texture : Texture) (region : TextureRegion) (stride : UInt16)
    (colors : Array UInt16) (alpha : Array UInt8) : Prop where
  colorSize : colors.size = stride.toNat * (half region.height).toNat
  alphaSize : alpha.size = stride.toNat * (half region.height).toNat
  texels : ∀ y x, y < (half region.height).toNat → x < (half region.width).toNat →
    colors[y * stride.toNat + x]? = some (averageColor (region.quad (colorIn texture region) y x)
      (region.quad (coverageIn texture region) y x)) ∧
    alpha[y * stride.toNat + x]? =
      some (averageAlpha (region.quad (coverageIn texture region) y x))
  padding : ∀ y x, y < (half region.height).toNat → (half region.width).toNat ≤ x →
    x < stride.toNat →
      colors[y * stride.toNat + x]? = some 0 ∧ alpha[y * stride.toNat + x]? = some 0

section Reduction

variable {texture : Texture} {region : TextureRegion} {stride : UInt16}

/-- A place of a cleared buffer that is drawn over. -/
theorem getElem?_shade_clear {α β : Type} {zero : β} {draw : Drawing β} {buffer : Array α}
    {width height y x : ℕ} (length : buffer.size = width * height) (inY : y < height)
    (inX : x < width) :
    (shade 0 width draw (buffer.map fun _ => zero))[y * width + x]? = some (draw y x zero) := by
  have inside : y * width + x < buffer.size := by
    rw [length]
    exact rowMajor_lt inY inX
  have placed : (shade 0 width draw (buffer.map fun _ => zero))[(y - 0) * width + x]? =
      (buffer.map fun _ => zero)[(y - 0) * width + x]?.map (draw y x) :=
    getElem?_shade_row (Nat.zero_le y) inX
  rw [Nat.sub_zero, Array.getElem?_map, Array.getElem?_eq_getElem inside, Option.map_some,
    Option.map_some] at placed
  exact placed

/-- **A valid region is reduced** when there is room for the result. -/
theorem downsample_reduces {colors : Array UInt16} {alpha : Array UInt8}
    (valid : validateTexture texture region = .ok ()) (wide : half region.width ≤ stride)
    (colorSize : colors.size = stride.toNat * (half region.height).toNat)
    (alphaSize : alpha.size = stride.toNat * (half region.height).toNat) :
    ∃ reducedColors reducedAlpha, downsample texture region stride colors alpha =
        some (.ok ⟨half region.width, half region.height⟩, reducedColors, reducedAlpha) ∧
      IsReduction texture region stride reducedColors reducedAlpha := by
  have accepted : reduceRejection texture region stride colors.size alpha.size = none := by
    rw [reduceRejection, valid]
    exact if_neg (by simp [UInt16.not_lt.mpr wide, colorSize, alphaSize])
  refine ⟨_, _, by rw [downsample_eq, accepted], ?_, ?_, fun y x inY inX => ?_,
    fun y x inY beside inX => ?_⟩
  · rw [size_shade, Array.size_map, colorSize]
  · rw [size_shade, Array.size_map, alphaSize]
  · have inside : (y, x) ∈ reduced region := ⟨⟨Nat.zero_le y, inY⟩, Nat.zero_le x, inX⟩
    have narrow : x < stride.toNat := inX.trans_le (UInt16.le_iff_toNat_le.mp wide)
    rw [getElem?_shade_clear colorSize inY narrow, getElem?_shade_clear alphaSize inY narrow,
      restrict_of_mem inside, restrict_of_mem inside]
    exact ⟨rfl, rfl⟩
  · have outside : (y, x) ∉ reduced region := fun inside => absurd inside.2.2 (by omega)
    rw [getElem?_shade_clear colorSize inY inX, getElem?_shade_clear alphaSize inY inX,
      restrict_of_notMem outside, restrict_of_notMem outside]
    exact ⟨rfl, rfl⟩

/-- Half of a region is not empty. -/
theorem RegionFits.half_nonempty (fits : RegionFits texture region) :
    half region.width ≠ 0 ∧ half region.height ≠ 0 := by
  have width := toNat_half region.width
  have height := toNat_half region.height
  have widthPositive := fits.width_pos
  have heightPositive := fits.height_pos
  constructor
  · intro zero
    rw [zero, UInt16.toNat_zero] at width
    omega
  · intro zero
    rw [zero, UInt16.toNat_zero] at height
    omega

theorem coverageIn_le (texture : Texture) (region : TextureRegion) (v u : ℕ) :
    coverageIn texture region v u ≤ 255 :=
  Nat.le_of_lt_succ (UInt8.toNat_lt _)

/-- **A reduced texture has the rounded averages** of coverage and of color, weighted with the
coverage. One color stays where it is covered, opaque regions stay opaque, and what lies beside
the result in its rows is transparent black. -/
theorem downsample_averages {colors : Array UInt16} {alpha : Array UInt8}
    (valid : validateTexture texture region = .ok ()) (wide : half region.width ≤ stride)
    (colorSize : colors.size = stride.toNat * (half region.height).toNat)
    (alphaSize : alpha.size = stride.toNat * (half region.height).toNat) :
    ∃ reducedColors reducedAlpha, downsample texture region stride colors alpha =
        some (.ok ⟨half region.width, half region.height⟩, reducedColors, reducedAlpha) ∧
      reducedColors.size = stride.toNat * (half region.height).toNat ∧
      reducedAlpha.size = stride.toNat * (half region.height).toNat ∧
      ∀ y, y < (half region.height).toNat →
        (∀ x, x < (half region.width).toNat → ∃ color a,
          reducedColors[y * stride.toNat + x]? = some color ∧
          reducedAlpha[y * stride.toNat + x]? = some a ∧
          IsAverage (region.quad (colorIn texture region) y x)
            (region.quad (coverageIn texture region) y x) color a ∧
          (∀ same, (∀ v u, v < region.height.toNat → u < region.width.toNat →
            colorIn texture region v u = same) →
              (region.quad (coverageIn texture region) y x).sum ≠ 0 → color = same) ∧
          ((∀ v u, v < region.height.toNat → u < region.width.toNat →
            coverageIn texture region v u = 255) → a = 255)) ∧
        ∀ x, (half region.width).toNat ≤ x → x < stride.toNat →
          reducedColors[y * stride.toNat + x]? = some 0 ∧
          reducedAlpha[y * stride.toNat + x]? = some 0 := by
  obtain ⟨reducedColors, reducedAlpha, ran, result⟩ :=
    downsample_reduces valid wide colorSize alphaSize
  refine ⟨reducedColors, reducedAlpha, ran, result.colorSize, result.alphaSize,
    fun y inY => ⟨fun x inX => ?_, fun x => result.padding y x inY⟩⟩
  obtain ⟨colorIs, alphaIs⟩ := result.texels y x inY inX
  have bytes : (region.quad (coverageIn texture region) y x).All (· ≤ 255) :=
    ⟨coverageIn_le .., coverageIn_le .., coverageIn_le .., coverageIn_le ..⟩
  have inside := quad_inside inY inX
  refine ⟨_, _, colorIs, alphaIs, average_isAverage bytes, fun same constant covered => ?_,
    fun full => ?_⟩
  · apply averageColor_same _ (Nat.pos_of_ne_zero covered)
    have texels := inside.mono fun place within => constant _ _ within.1 within.2
    exact ⟨texels.topLeft, texels.topRight, texels.bottomLeft, texels.bottomRight⟩
  · apply averageAlpha_opaque
    have texels := inside.mono fun place within => full _ _ within.1 within.2
    exact ⟨texels.topLeft, texels.topRight, texels.bottomLeft, texels.bottomRight⟩

/-- Two opaque texels in a row come to one of their average. -/
theorem downsample_averages_pair : ∃ colors alpha color a,
    downsample ⟨⟨2, 1⟩, #[0xf800, 0x001f], .fullyOpaque⟩ ⟨0, 0, 2, 1, 2⟩ 1 #[7] #[9] =
      some (.ok ⟨1, 1⟩, colors, alpha) ∧
    colors[0]? = some color ∧ alpha[0]? = some a ∧ IsAverage ⟨0xf800, 0x001f, 0xf800, 0x001f⟩
      ⟨255, 255, 255, 255⟩ color a ∧ a = 255 := by
  have opaqueIn : ∀ v u, coverageIn ⟨⟨2, 1⟩, #[0xf800, 0x001f], .fullyOpaque⟩ ⟨0, 0, 2, 1, 2⟩
      v u = 255 := fun _ _ => rfl
  obtain ⟨colors, alpha, ran, -, -, texels⟩ := downsample_averages
    (show validateTexture ⟨⟨2, 1⟩, #[0xf800, 0x001f], .fullyOpaque⟩ ⟨0, 0, 2, 1, 2⟩ = .ok () by
      decide)
    (show half 2 ≤ 1 by decide) (show (#[7] : Array UInt16).size = _ by decide)
    (show (#[9] : Array UInt8).size = _ by decide)
  obtain ⟨color, a, colorIs, alphaIs, average, -, full⟩ := (texels 0 (by decide)).1 0 (by decide)
  exact ⟨colors, alpha, color, a, ran, colorIs, alphaIs, average, full fun v u _ _ => opaqueIn v u⟩

end Reduction

end Deskkin.Presentation
