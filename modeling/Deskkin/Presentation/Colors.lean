/-
# The arithmetic of colors

A color has three channels, of 5, 6 and 5 bits. What the words of 32 and 16 bits come to
is said here in natural numbers: the mean of two channels by a fraction of 65536, the
mean of four, and a filtered color over what is there. Every sum, product and difference
on the way fits 32 bits, so a build that checks its arithmetic computes the same.
-/

import Deskkin.Presentation.Sampling

namespace Deskkin.Presentation

/-! ## Channels -/

inductive Channel
  | red
  | green
  | blue
  deriving DecidableEq

namespace Channel

def shift : Channel → ℕ
  | red => 11
  | green => 5
  | blue => 0

/-- The greatest value. -/
def most : Channel → ℕ
  | red => 31
  | green => 63
  | blue => 31

/-- The value of the channel in a color. -/
def value (channel : Channel) (color : UInt16) : ℕ :=
  color.toNat / 2 ^ channel.shift % (channel.most + 1)

/-- The color with these values. -/
def pack (values : Channel → ℕ) : UInt16 :=
  UInt16.ofNat (values red * 2 ^ 11 + values green * 2 ^ 5 + values blue)

variable {channel : Channel} {values : Channel → ℕ}

theorem value_le (channel : Channel) (color : UInt16) : channel.value color ≤ channel.most :=
  Nat.le_of_lt_succ (Nat.mod_lt _ (Nat.succ_pos _))

theorem most_le (channel : Channel) : channel.most ≤ 63 := by
  cases channel <;> decide

theorem toNat_pack (small : ∀ channel, values channel ≤ channel.most) :
    (pack values).toNat = values red * 2 ^ 11 + values green * 2 ^ 5 + values blue := by
  have reds : values red ≤ 31 := small red
  have greens : values green ≤ 63 := small green
  have blues : values blue ≤ 31 := small blue
  rw [pack, UInt16.toNat_ofNat']
  exact Nat.mod_eq_of_lt (by omega)

theorem value_pack (small : ∀ channel, values channel ≤ channel.most) :
    channel.value (pack values) = values channel := by
  have reds : values red ≤ 31 := small red
  have greens : values green ≤ 63 := small green
  have blues : values blue ≤ 31 := small blue
  rw [value, toNat_pack small]
  cases channel with
  | red => rw [shift, most]; omega
  | green => rw [shift, most]; omega
  | blue => rw [shift, most]; omega

variable (color : UInt16)

theorem pack_value : (pack fun channel => channel.value color) = color := by
  have small := color.toNat_lt
  apply UInt16.toNat_inj.mp
  rw [toNat_pack fun channel => channel.value_le color]
  simp only [value, shift, most]
  omega

/-! The words of the source shift and mask. -/

theorem toNat_and_mask {word mask : UInt16} {bits : ℕ} (masks : mask.toNat = 2 ^ bits - 1) :
    (word &&& mask).toNat = word.toNat % 2 ^ bits := by
  rw [UInt16.toNat_and, masks, Nat.and_two_pow_sub_one_eq_mod]

theorem red_eq : ((color >>> 11) &&& 31).toNat = red.value color := by
  have shifted : (color >>> 11).toNat = color.toNat >>> 11 := UInt16.toNat_shiftRight color 11
  rw [toNat_and_mask (show (31 : UInt16).toNat = 2 ^ 5 - 1 from rfl), shifted,
    Nat.shiftRight_eq_div_pow]
  rfl

theorem green_eq : ((color >>> 5) &&& 63).toNat = green.value color := by
  have shifted : (color >>> 5).toNat = color.toNat >>> 5 := UInt16.toNat_shiftRight color 5
  rw [toNat_and_mask (show (63 : UInt16).toNat = 2 ^ 6 - 1 from rfl), shifted,
    Nat.shiftRight_eq_div_pow]
  rfl

theorem blue_eq : (color &&& 31).toNat = blue.value color := by
  rw [toNat_and_mask (show (31 : UInt16).toNat = 2 ^ 5 - 1 from rfl)]
  exact congrArg (· % 32) (Nat.div_one _).symm

/-- Channels side by side in a word. -/
theorem or_eq_pack {r g b : UInt16} (reds : r.toNat ≤ 31) (greens : g.toNat ≤ 63)
    (blues : b.toNat ≤ 31) : (r <<< 11) ||| (g <<< 5) ||| b = pack fun
      | red => r.toNat
      | green => g.toNat
      | blue => b.toNat := by
  apply UInt16.toNat_inj.mp
  have shiftedRed : (r <<< 11).toNat = r.toNat <<< 11 % 2 ^ 16 := UInt16.toNat_shiftLeft r 11
  have shiftedGreen : (g <<< 5).toNat = g.toNat <<< 5 % 2 ^ 16 := UInt16.toNat_shiftLeft g 5
  have low : g.toNat <<< 5 ||| b.toNat = g.toNat * 2 ^ 5 + b.toNat := by
    rw [← Nat.shiftLeft_add_eq_or_of_lt (by omega), Nat.shiftLeft_eq]
  rw [toNat_pack fun channel => by cases channel <;> assumption, UInt16.toNat_or, UInt16.toNat_or,
    shiftedRed, shiftedGreen, Nat.mod_eq_of_lt (by rw [Nat.shiftLeft_eq]; omega),
    Nat.mod_eq_of_lt (by rw [Nat.shiftLeft_eq]; omega), Nat.or_assoc, low,
    ← Nat.shiftLeft_add_eq_or_of_lt (by omega), Nat.shiftLeft_eq, Nat.add_assoc]

end Channel

/-! ## Wire order -/

theorem wireOrder_false (word : UInt16) : wireOrder false word = word := if_neg Bool.false_ne_true

/-- The two bytes of a word change places. -/
theorem toNat_wireOrder (word : UInt16) :
    (wireOrder true word).toNat = word.toNat % 256 * 256 + word.toNat / 256 := by
  have small := word.toNat_lt
  have high : (word >>> 8).toNat = word.toNat / 256 := by
    have shifted : (word >>> 8).toNat = word.toNat >>> 8 := UInt16.toNat_shiftRight word 8
    rw [shifted, Nat.shiftRight_eq_div_pow]
  have low : (word <<< 8).toNat = (word.toNat % 256) <<< 8 := by
    have shifted : (word <<< 8).toNat = word.toNat <<< 8 % 2 ^ 16 := UInt16.toNat_shiftLeft word 8
    rw [shifted, Nat.shiftLeft_eq, Nat.shiftLeft_eq]
    omega
  rw [wireOrder, if_pos rfl, UInt16.toNat_or, high, low, Nat.or_comm,
    ← Nat.shiftLeft_add_eq_or_of_lt (by omega), Nat.shiftLeft_eq]

@[simp]
theorem wireOrder_wireOrder (wire : Bool) (word : UInt16) :
    wireOrder wire (wireOrder wire word) = word := by
  cases wire with
  | false => rfl
  | true =>
      have small := word.toNat_lt
      apply UInt16.toNat_inj.mp
      rw [toNat_wireOrder, toNat_wireOrder]
      omega

/-! ## Means -/

/-- The mean of two values by a fraction of 65536, rounded to the nearest. -/
def mix (a b fraction : ℕ) : ℕ := (a * (65536 - fraction) + b * fraction + 32768) / 65536

section Mix

variable {a b fraction most : ℕ} (first : a ≤ most) (second : b ≤ most) (part : fraction ≤ 65536)

include first second part

theorem weighted_le : a * (65536 - fraction) + b * fraction ≤ most * 65536 :=
  calc a * (65536 - fraction) + b * fraction
      ≤ most * (65536 - fraction) + most * fraction :=
        Nat.add_le_add (Nat.mul_le_mul_right _ first) (Nat.mul_le_mul_right _ second)
    _ = most * 65536 := by rw [← Nat.mul_add, Nat.sub_add_cancel part]

/-- A mean is between its values. -/
theorem mix_le : mix a b fraction ≤ most := by
  have weighted := weighted_le first second part
  rw [mix]
  omega

end Mix

theorem mix_self {a fraction : ℕ} (part : fraction ≤ 65536) : mix a a fraction = a := by
  rw [mix, ← Nat.mul_add, Nat.sub_add_cancel part]
  omega

/-- Products with coverage stay below this. -/
def premultipliedMost : ℕ := 63 * 255

/-- The mean in words of 32 bits. -/
theorem toNat_mix {a b fraction : UInt32} (first : a.toNat ≤ premultipliedMost)
    (second : b.toNat ≤ premultipliedMost) (part : fraction.toNat ≤ 65536) :
    ((a * (65536 - fraction) + b * fraction + 32768) >>> 16).toNat =
      mix a.toNat b.toNat fraction.toNat := by
  have weighted := weighted_le first second part
  rw [premultipliedMost] at weighted
  have inverse : (65536 - fraction).toNat = 65536 - fraction.toNat :=
    UInt32.toNat_sub_of_le _ _ (UInt32.le_iff_toNat_le.mpr part)
  have product : (a * (65536 - fraction)).toNat = a.toNat * (65536 - fraction.toNat) := by
    rw [UInt32.toNat_mul, inverse, Nat.mod_eq_of_lt (by omega)]
  have product' : (b * fraction).toNat = b.toNat * fraction.toNat := by
    rw [UInt32.toNat_mul, Nat.mod_eq_of_lt (by omega)]
  have sum : (a * (65536 - fraction) + b * fraction + 32768).toNat =
      a.toNat * (65536 - fraction.toNat) + b.toNat * fraction.toNat + 32768 := by
    rw [UInt32.toNat_add, UInt32.toNat_add, product, product',
      Nat.mod_eq_of_lt (show a.toNat * _ + b.toNat * _ < 2 ^ 32 by omega)]
    exact Nat.mod_eq_of_lt (by show _ + 32768 < _; omega)
  have shifted : ((a * (65536 - fraction) + b * fraction + 32768) >>> 16).toNat =
      (a * (65536 - fraction) + b * fraction + 32768).toNat >>> 16 :=
    UInt32.toNat_shiftRight _ 16
  rw [shifted, sum, Nat.shiftRight_eq_div_pow, mix]

/-- Interpolated colors have the means of the channels. -/
theorem interpolateRgb565_eq {first second : UInt16} {fraction : UInt32}
    (part : fraction.toNat ≤ 65536) : interpolateRgb565 first second fraction =
      Channel.pack fun channel =>
        mix (channel.value first) (channel.value second) fraction.toNat := by
  have small : ∀ (channel : Channel) color, channel.value color ≤ premultipliedMost := by
    intro channel color
    have upTo := channel.value_le color
    have most := channel.most_le
    rw [premultipliedMost]
    omega
  have mean : ∀ {a b : UInt16} (channel : Channel), a.toNat = channel.value first →
      b.toNat = channel.value second →
      ((a.toUInt32 * (65536 - fraction) + b.toUInt32 * fraction + 32768) >>> 16).toUInt16.toNat =
        mix (channel.value first) (channel.value second) fraction.toNat := by
    intro a b channel isFirst isSecond
    have upTo := mix_le (channel.value_le first) (channel.value_le second) part
    have most := channel.most_le
    rw [UInt32.toNat_toUInt16, toNat_mix, UInt16.toNat_toUInt32, UInt16.toNat_toUInt32, isFirst,
      isSecond]
    · exact Nat.mod_eq_of_lt (by omega)
    · rw [UInt16.toNat_toUInt32, isFirst]
      exact small channel first
    · rw [UInt16.toNat_toUInt32, isSecond]
      exact small channel second
    · exact part
  have bound : ∀ channel : Channel,
      mix (channel.value first) (channel.value second) fraction.toNat ≤ channel.most :=
    fun channel => mix_le (channel.value_le first) (channel.value_le second) part
  have red := mean .red (Channel.red_eq first) (Channel.red_eq second)
  have green := mean .green (Channel.green_eq first) (Channel.green_eq second)
  have blue := mean .blue (Channel.blue_eq first) (Channel.blue_eq second)
  rw [interpolateRgb565, Channel.or_eq_pack (red.trans_le (bound .red))
    (green.trans_le (bound .green)) (blue.trans_le (bound .blue)), red, green, blue]
  apply congrArg
  funext channel
  cases channel <;> rfl

theorem blendRgb565_eq (background foreground : UInt16) (alpha : UInt8) :
    blendRgb565 background foreground alpha = Channel.pack fun channel =>
      mix (channel.value background) (channel.value foreground) (alpha.toNat * 257) := by
  have small := alpha.toNat_lt
  have fraction : (alpha.toUInt32 * 257).toNat = alpha.toNat * 257 := by
    rw [UInt32.toNat_mul, UInt8.toNat_toUInt32]
    exact Nat.mod_eq_of_lt (by show _ * 257 < _; omega)
  rw [blendRgb565, interpolateRgb565_eq (by omega), fraction]

/-! ## Four texels -/

namespace Corners

variable {α β : Type}

def map (self : Corners α) (f : α → β) : Corners β where
  topLeft := f self.topLeft
  topRight := f self.topRight
  bottomLeft := f self.bottomLeft
  bottomRight := f self.bottomRight

structure All (corners : Corners α) (p : α → Prop) : Prop where
  topLeft : p corners.topLeft
  topRight : p corners.topRight
  bottomLeft : p corners.bottomLeft
  bottomRight : p corners.bottomRight

theorem All.mono {corners : Corners α} {p q : α → Prop} (all : corners.All p)
    (weaken : ∀ a, p a → q a) : corners.All q :=
  ⟨weaken _ all.topLeft, weaken _ all.topRight, weaken _ all.bottomLeft, weaken _ all.bottomRight⟩

theorem mapM_some {f : α → Option β} {g : α → β} {corners : Corners α}
    (all : corners.All fun a => f a = some (g a)) : corners.mapM f = some (corners.map g) := by
  rw [mapM, all.topLeft, all.topRight, all.bottomLeft, all.bottomRight]
  rfl

theorem mapM_map {γ : Type} (corners : Corners α) (f : α → Option β) (g : β → γ) :
    (corners.mapM fun a => (f a).map g) = (corners.mapM f).map fun mapped => mapped.map g := by
  rw [mapM, mapM]
  cases f corners.topLeft with
  | none => rfl
  | some a =>
      cases f corners.topRight with
      | none => rfl
      | some b =>
          cases f corners.bottomLeft with
          | none => rfl
          | some c =>
              cases f corners.bottomRight with
              | none => rfl
              | some d => rfl

/-- The mean of four values between two columns and two rows. -/
def mean (self : Corners ℕ) (fractionX fractionY : ℕ) : ℕ :=
  mix (mix self.topLeft self.topRight fractionX) (mix self.bottomLeft self.bottomRight fractionX)
    fractionY

theorem mean_le {v : Corners ℕ} {most fractionX fractionY : ℕ} (all : v.All (· ≤ most))
    (partX : fractionX ≤ 65536) (partY : fractionY ≤ 65536) :
    v.mean fractionX fractionY ≤ most :=
  mix_le (mix_le all.topLeft all.topRight partX) (mix_le all.bottomLeft all.bottomRight partX)
    partY

end Corners

/-- A color between four colors. -/
def meanColor (colors : Corners UInt16) (fractionX fractionY : ℕ) : UInt16 :=
  Channel.pack fun channel => (colors.map channel.value).mean fractionX fractionY

/-- A channel of four colors with their coverage, over what is there. -/
def filteredChannel (colors : Corners UInt16) (alphas : Corners ℕ) (background : UInt16)
    (fractionX fractionY : ℕ) (channel : Channel) : ℕ :=
  let covered := (colors.zipWith (fun color a => channel.value color * a) alphas).mean fractionX
    fractionY
  min ((covered + channel.value background * (255 - alphas.mean fractionX fractionY) + 127) / 255)
    channel.most

def filteredColor (colors : Corners UInt16) (alphas : Corners ℕ) (background : UInt16)
    (fractionX fractionY : ℕ) : UInt16 :=
  Channel.pack (filteredChannel colors alphas background fractionX fractionY)

/-- Colors that are not covered leave what is there. -/
theorem filteredColor_clear {colors : Corners UInt16} {background : UInt16}
    {fractionX fractionY : ℕ} (partX : fractionX ≤ 65536) (partY : fractionY ≤ 65536) :
    filteredColor colors ⟨0, 0, 0, 0⟩ background fractionX fractionY = background := by
  have channels : filteredChannel colors ⟨0, 0, 0, 0⟩ background fractionX fractionY =
      fun channel => channel.value background := by
    funext channel
    have upTo := channel.value_le background
    simp only [filteredChannel, Corners.zipWith, Corners.mean, Nat.mul_zero, mix_self partX,
      mix_self partY]
    omega
  rw [filteredColor, channels, Channel.pack_value]

theorem fraction_le (fraction : UInt16) : fraction.toNat ≤ 65536 :=
  Nat.le_of_lt (fraction.toNat_lt)

theorem interpolate_colors (colors : Corners UInt16) (fractionX fractionY : UInt16) :
    interpolateRgb565
        (interpolateRgb565 colors.topLeft colors.topRight fractionX.toUInt32)
        (interpolateRgb565 colors.bottomLeft colors.bottomRight fractionX.toUInt32)
        fractionY.toUInt32 = meanColor colors fractionX.toNat fractionY.toNat := by
  have partX := fraction_le fractionX
  have partY := fraction_le fractionY
  have bound : ∀ (first second : UInt16) (channel : Channel),
      mix (channel.value first) (channel.value second) fractionX.toNat ≤ channel.most :=
    fun first second channel => mix_le (channel.value_le first) (channel.value_le second) partX
  rw [interpolateRgb565_eq (by rwa [UInt16.toNat_toUInt32]),
    interpolateRgb565_eq (by rwa [UInt16.toNat_toUInt32]),
    interpolateRgb565_eq (by rwa [UInt16.toNat_toUInt32])]
  simp only [UInt16.toNat_toUInt32, Channel.value_pack (bound _ _)]
  rfl

namespace SampledSpan

variable {span : SampledSpan} {column : ColumnSample}

theorem toNat_lerp {a b : UInt32} (fraction : UInt16) (first : a.toNat ≤ premultipliedMost)
    (second : b.toNat ≤ premultipliedMost) :
    (lerp a b fraction).toNat = mix a.toNat b.toNat fraction.toNat := by
  have part := fraction_le fraction
  rw [lerp, toNat_mix first second (by rwa [UInt16.toNat_toUInt32]), UInt16.toNat_toUInt32]

theorem toNat_interpolate {v : Corners UInt32} (small : v.All (·.toNat ≤ premultipliedMost)) :
    (span.interpolate column v).toNat =
      (v.map UInt32.toNat).mean column.fraction.toNat span.fractionY.toNat := by
  have part := fraction_le column.fraction
  have top := toNat_lerp column.fraction small.topLeft small.topRight
  have bottom := toNat_lerp column.fraction small.bottomLeft small.bottomRight
  rw [interpolate, toNat_lerp, top, bottom]
  · rfl
  · exact top.trans_le (mix_le small.topLeft small.topRight part)
  · exact bottom.trans_le (mix_le small.bottomLeft small.bottomRight part)

theorem toNat_least (a b : UInt32) : (min a b).toNat = min a.toNat b.toNat := by
  have least : min a b = if a ≤ b then a else b := rfl
  rw [least]
  split
  · rename_i ordered
    exact (Nat.min_eq_left (UInt32.le_iff_toNat_le.mp ordered)).symm
  · rename_i reversed
    rw [UInt32.le_iff_toNat_le] at reversed
    exact (Nat.min_eq_right (by omega)).symm

section Component

variable {colors : Corners UInt16} {alphas : Corners UInt32} {background : UInt16}
  (covered : alphas.All (·.toNat ≤ 255))

include covered

/-- One channel of a filtered color, shifted to its place. -/
theorem component_eq {channel : Channel} {shift mask : UInt16}
    (shifted : ∀ color : UInt16, ((color >>> shift) &&& mask).toNat = channel.value color)
    (masks : mask.toNat = channel.most) :
    span.component column colors alphas background shift mask =
      UInt16.ofNat (filteredChannel colors (alphas.map UInt32.toNat) background
        column.fraction.toNat span.fractionY.toNat channel) <<< shift := by
  have partX := fraction_le column.fraction
  have partY := fraction_le span.fractionY
  have most := channel.most_le
  have small := channel.value_le
  have product : ∀ (color : UInt16) (a : UInt32), a.toNat ≤ 255 →
      (((color >>> shift) &&& mask).toUInt32 * a).toNat = channel.value color * a.toNat ∧
        channel.value color * a.toNat ≤ premultipliedMost := by
    intro color a fits
    have upTo : channel.value color * a.toNat ≤ 63 * 255 :=
      Nat.mul_le_mul ((small color).trans most) fits
    refine ⟨?_, upTo⟩
    rw [UInt32.toNat_mul, UInt16.toNat_toUInt32, shifted, Nat.mod_eq_of_lt (by omega)]
  have topLeft := product colors.topLeft alphas.topLeft covered.topLeft
  have topRight := product colors.topRight alphas.topRight covered.topRight
  have bottomLeft := product colors.bottomLeft alphas.bottomLeft covered.bottomLeft
  have bottomRight := product colors.bottomRight alphas.bottomRight covered.bottomRight
  have premultiplied : (span.interpolate column (colors.zipWith
      (fun color alpha => ((color >>> shift) &&& mask).toUInt32 * alpha) alphas)).toNat =
      (colors.zipWith (fun color a => channel.value color * a) (alphas.map UInt32.toNat)).mean
        column.fraction.toNat span.fractionY.toNat := by
    rw [toNat_interpolate ⟨topLeft.1.trans_le topLeft.2, topRight.1.trans_le topRight.2,
      bottomLeft.1.trans_le bottomLeft.2, bottomRight.1.trans_le bottomRight.2⟩]
    simp only [Corners.map, Corners.zipWith, topLeft.1, topRight.1, bottomLeft.1, bottomRight.1]
  have premultipliedLe : (colors.zipWith (fun color a => channel.value color * a)
      (alphas.map UInt32.toNat)).mean column.fraction.toNat span.fractionY.toNat ≤
        premultipliedMost :=
    Corners.mean_le ⟨topLeft.2, topRight.2, bottomLeft.2, bottomRight.2⟩ partX partY
  have coverage : (span.interpolate column alphas).toNat =
      (alphas.map UInt32.toNat).mean column.fraction.toNat span.fractionY.toNat :=
    toNat_interpolate (covered.mono fun a upTo => upTo.trans (by decide))
  have coverageLe : (alphas.map UInt32.toNat).mean column.fraction.toNat span.fractionY.toNat ≤
      255 :=
    Corners.mean_le ⟨covered.topLeft, covered.topRight, covered.bottomLeft, covered.bottomRight⟩
      partX partY
  rw [premultipliedMost] at premultipliedLe
  rw [component, filteredChannel]
  generalize (colors.zipWith (fun color a => channel.value color * a)
    (alphas.map UInt32.toNat)).mean column.fraction.toNat span.fractionY.toNat = total at *
  generalize (alphas.map UInt32.toNat).mean column.fraction.toNat span.fractionY.toNat = cover at *
  have behind : channel.value background * (255 - cover) ≤ 63 * 255 :=
    Nat.mul_le_mul ((small background).trans most) (Nat.sub_le _ _)
  have rest : (255 - span.interpolate column alphas).toNat = 255 - cover := by
    have upTo : span.interpolate column alphas ≤ 255 :=
      UInt32.le_iff_toNat_le.mpr (coverage.trans_le coverageLe)
    rw [UInt32.toNat_sub_of_le _ _ upTo, coverage]
    rfl
  have ground : (((background >>> shift) &&& mask).toUInt32 *
      (255 - span.interpolate column alphas)).toNat = channel.value background * (255 - cover) := by
    rw [UInt32.toNat_mul, UInt16.toNat_toUInt32, shifted, rest, Nat.mod_eq_of_lt (by omega)]
  have sum : (span.interpolate column (colors.zipWith (fun color alpha =>
      ((color >>> shift) &&& mask).toUInt32 * alpha) alphas) +
      ((background >>> shift) &&& mask).toUInt32 * (255 - span.interpolate column alphas) +
        127).toNat = total + channel.value background * (255 - cover) + 127 := by
    rw [UInt32.toNat_add, UInt32.toNat_add, premultiplied, ground,
      Nat.mod_eq_of_lt (show total + channel.value background * (255 - cover) < 2 ^ 32 by omega)]
    exact Nat.mod_eq_of_lt (by show _ + 127 < _; omega)
  congr 1
  apply UInt16.toNat_inj.mp
  rw [UInt32.toNat_toUInt16, toNat_least, UInt32.toNat_div, sum, UInt16.toNat_toUInt32, masks,
    UInt16.toNat_ofNat']
  rfl

theorem components_eq : span.component column colors alphas background 11 31 |||
      span.component column colors alphas background 5 63 |||
      span.component column colors alphas background 0 31 =
    filteredColor colors (alphas.map UInt32.toNat) background column.fraction.toNat
      span.fractionY.toNat := by
  have upTo : ∀ channel, filteredChannel colors (alphas.map UInt32.toNat) background
      column.fraction.toNat span.fractionY.toNat channel ≤ channel.most :=
    fun channel => Nat.min_le_right _ _
  have value : ∀ channel, (UInt16.ofNat (filteredChannel colors (alphas.map UInt32.toNat)
      background column.fraction.toNat span.fractionY.toNat channel)).toNat =
      filteredChannel colors (alphas.map UInt32.toNat) background column.fraction.toNat
        span.fractionY.toNat channel := by
    intro channel
    have small := upTo channel
    have most := channel.most_le
    rw [UInt16.toNat_ofNat']
    exact Nat.mod_eq_of_lt (by omega)
  have unshifted : ∀ color : UInt16, ((color >>> 0) &&& 31).toNat = Channel.blue.value color := by
    intro color
    rw [UInt16.shiftRight_zero, Channel.blue_eq]
  rw [component_eq covered Channel.red_eq rfl, component_eq covered Channel.green_eq rfl,
    component_eq covered unshifted rfl, UInt16.shiftLeft_zero,
    Channel.or_eq_pack ((value .red).trans_le (upTo .red)) ((value .green).trans_le (upTo .green))
      ((value .blue).trans_le (upTo .blue)), value, value, value]
  apply congrArg
  funext channel
  cases channel <;> rfl

end Component

end SampledSpan

/-! ## With overflow checks -/

/-- `mix` in a build that checks its arithmetic of 32 bits. -/
def checkedMix (a b fraction : ℕ) : Option ℕ := do
  let inverse ← Checked.sub 65536 fraction
  let first ← Checked.mul Checked.u32Max a inverse
  let second ← Checked.mul Checked.u32Max b fraction
  let sum ← Checked.add Checked.u32Max first second
  let sum ← Checked.add Checked.u32Max sum 32768
  return sum / 65536

def Channel.packM (values : Channel → Option ℕ) : Option UInt16 := do
  let r ← values red
  let g ← values green
  let b ← values blue
  return pack fun
    | red => r
    | green => g
    | blue => b

def checkedInterpolate (first second : UInt16) (fraction : ℕ) : Option UInt16 :=
  Channel.packM fun channel => checkedMix (channel.value first) (channel.value second) fraction

def checkedBlend (background foreground : UInt16) (alpha : UInt8) : Option UInt16 := do
  let fraction ← Checked.mul Checked.u32Max alpha.toNat 257
  checkedInterpolate background foreground fraction

def checkedComposite (wire : Bool) (color : UInt16) (a : UInt8) (dst : UInt16) : Option UInt16 :=
  if a = 0 then some dst
  else do
    let color ← (if a = 255 then some color else checkedBlend (wireOrder wire dst) color a)
    return wireOrder wire color

def Corners.checkedMean (self : Corners ℕ) (fractionX fractionY : ℕ) : Option ℕ := do
  let top ← checkedMix self.topLeft self.topRight fractionX
  let bottom ← checkedMix self.bottomLeft self.bottomRight fractionX
  checkedMix top bottom fractionY

def checkedChannel (colors : Corners UInt16) (alphas : Corners ℕ) (background : UInt16)
    (fractionX fractionY : ℕ) (channel : Channel) : Option ℕ := do
  let coverage ← alphas.checkedMean fractionX fractionY
  let products ← (colors.zipWith Prod.mk alphas).mapM fun (color, a) =>
    Checked.mul Checked.u32Max (channel.value color) a
  let covered ← products.checkedMean fractionX fractionY
  let rest ← Checked.sub 255 coverage
  let ground ← Checked.mul Checked.u32Max (channel.value background) rest
  let sum ← Checked.add Checked.u32Max covered ground
  let sum ← Checked.add Checked.u32Max sum 127
  return min (sum / 255) channel.most

namespace SampledSpan

variable (self : SampledSpan) (wire : Bool) (column : ColumnSample) (dst : UInt16)

def checkedFilteredAlpha : Option UInt16 := do
  let indices ← self.corners column
  let alphas ← indices.mapM fun i => (self.texture.coverage.alphaAt i).map UInt8.toNat
  if alphas = ⟨0, 0, 0, 0⟩ then return dst
  else
    let colors ← indices.mapM fun i => self.texture.pixels[i]?
    let color ← Channel.packM (checkedChannel colors alphas (wireOrder wire dst)
      column.fraction.toNat self.fractionY.toNat)
    return wireOrder wire color

def checkedColor : Option UInt16 :=
  if self.bilinear then do
    let indices ← self.corners column
    let v ← indices.mapM fun i => self.texture.pixels[i]?
    let top ← checkedInterpolate v.topLeft v.topRight column.fraction.toNat
    let bottom ← checkedInterpolate v.bottomLeft v.bottomRight column.fraction.toNat
    checkedInterpolate top bottom self.fractionY.toNat
  else self.texture.pixels[self.rows.1 + column.first.toNat]?

def checkedKind : Option UInt16 := do
  let a ← (if self.texture.coverage.isAlpha
    then self.texture.coverage.alphaAt (self.rows.1 + column.first.toNat) else some 255)
  if a = 0 then return dst
  else
    let color ← self.checkedColor column
    checkedComposite wire color a dst

/-- A pixel of the span in a build that checks its arithmetic. -/
def checkedPixel : Option UInt16 :=
  if self.bilinear && self.texture.coverage.isAlpha then
    self.checkedFilteredAlpha wire column dst
  else self.checkedKind wire column dst

end SampledSpan

theorem checkedMix_eq {a b fraction : ℕ} (first : a ≤ premultipliedMost)
    (second : b ≤ premultipliedMost) (part : fraction ≤ 65536) :
    checkedMix a b fraction = some (mix a b fraction) := by
  have weighted := weighted_le first second part
  rw [premultipliedMost] at weighted
  rw [checkedMix, Checked.sub_of_le part, Option.bind_eq_bind, Option.bind_some,
    Checked.mul_of_le (by rw [Checked.u32Max]; omega), Option.bind_some,
    Checked.mul_of_le (by rw [Checked.u32Max]; omega), Option.bind_some,
    Checked.add_of_le (by rw [Checked.u32Max]; omega), Option.bind_some,
    Checked.add_of_le (by rw [Checked.u32Max]; omega), Option.bind_some]
  rfl

theorem Channel.packM_some {values : Channel → Option ℕ} {results : Channel → ℕ}
    (computed : ∀ channel, values channel = some (results channel)) :
    packM values = some (pack results) := by
  rw [packM, computed, computed, computed]
  apply congrArg (some ∘ pack)
  funext channel
  cases channel <;> rfl

theorem Channel.value_le_premultiplied (channel : Channel) (color : UInt16) :
    channel.value color ≤ premultipliedMost :=
  calc channel.value color
      ≤ channel.most := channel.value_le color
    _ ≤ 63 := channel.most_le
    _ ≤ premultipliedMost := by decide

theorem checkedInterpolate_eq {first second : UInt16} {fraction : UInt32}
    (part : fraction.toNat ≤ 65536) :
    checkedInterpolate first second fraction.toNat =
      some (interpolateRgb565 first second fraction) := by
  rw [interpolateRgb565_eq part]
  exact Channel.packM_some fun channel =>
    checkedMix_eq (channel.value_le_premultiplied _) (channel.value_le_premultiplied _) part

theorem checkedBlend_eq (background foreground : UInt16) (alpha : UInt8) :
    checkedBlend background foreground alpha = some (blendRgb565 background foreground alpha) := by
  have small := alpha.toNat_lt
  rw [checkedBlend, Checked.mul_of_le (by rw [Checked.u32Max]; omega), blendRgb565_eq]
  exact Channel.packM_some fun channel =>
    checkedMix_eq (channel.value_le_premultiplied _) (channel.value_le_premultiplied _) (by omega)

theorem checkedComposite_eq (wire : Bool) (color : UInt16) (a : UInt8) (dst : UInt16) :
    checkedComposite wire color a dst = some (composite wire color a dst) := by
  rw [checkedComposite, composite]
  split
  · rfl
  · split
    · rfl
    · rw [checkedBlend_eq]
      rfl

theorem Corners.checkedMean_eq {v : Corners ℕ} {fractionX fractionY : ℕ}
    (all : v.All (· ≤ premultipliedMost)) (partX : fractionX ≤ 65536) (partY : fractionY ≤ 65536) :
    v.checkedMean fractionX fractionY = some (v.mean fractionX fractionY) := by
  have top := mix_le all.topLeft all.topRight partX
  have bottom := mix_le all.bottomLeft all.bottomRight partX
  rw [checkedMean, checkedMix_eq all.topLeft all.topRight partX, Option.bind_eq_bind,
    Option.bind_some, checkedMix_eq all.bottomLeft all.bottomRight partX, Option.bind_some,
    checkedMix_eq top bottom partY]
  rfl

theorem checkedChannel_eq {colors : Corners UInt16} {alphas : Corners ℕ} {background : UInt16}
    {fractionX fractionY : ℕ} (covered : alphas.All (· ≤ 255)) (partX : fractionX ≤ 65536)
    (partY : fractionY ≤ 65536) (channel : Channel) :
    checkedChannel colors alphas background fractionX fractionY channel =
      some (filteredChannel colors alphas background fractionX fractionY channel) := by
  have upTo := channel.value_le background
  have most := channel.most_le
  have coverage := Corners.mean_le covered partX partY
  have products : ∀ (color : UInt16) (a : ℕ), a ≤ 255 →
      channel.value color * a ≤ premultipliedMost :=
    fun color a fits => Nat.mul_le_mul ((channel.value_le color).trans most) fits
  have all : (colors.zipWith (fun color a => channel.value color * a) alphas).All
      (· ≤ premultipliedMost) :=
    ⟨products _ _ covered.topLeft, products _ _ covered.topRight, products _ _ covered.bottomLeft,
      products _ _ covered.bottomRight⟩
  have total := Corners.mean_le all partX partY
  have ground : channel.value background * (255 - alphas.mean fractionX fractionY) ≤ 63 * 255 :=
    Nat.mul_le_mul (upTo.trans most) (Nat.sub_le _ _)
  have wide : premultipliedMost ≤ Checked.u32Max := by decide
  have multiplied : ((colors.zipWith Prod.mk alphas).mapM fun (color, a) =>
      Checked.mul Checked.u32Max (channel.value color) a) =
        some (colors.zipWith (fun color a => channel.value color * a) alphas) := by
    show _ = some ((colors.zipWith Prod.mk alphas).map fun pair => channel.value pair.1 * pair.2)
    apply Corners.mapM_some
    exact ⟨Checked.mul_of_le (all.topLeft.trans wide), Checked.mul_of_le (all.topRight.trans wide),
      Checked.mul_of_le (all.bottomLeft.trans wide), Checked.mul_of_le (all.bottomRight.trans wide)⟩
  rw [premultipliedMost] at total
  have alphasFit : alphas.All (· ≤ premultipliedMost) :=
    covered.mono fun a upTo => upTo.trans (by decide)
  rw [checkedChannel, Corners.checkedMean_eq alphasFit partX partY, Option.bind_eq_bind,
    Option.bind_some, multiplied, Option.bind_eq_bind, Option.bind_some,
    Corners.checkedMean_eq all partX partY, Option.bind_some, Checked.sub_of_le coverage,
    Option.bind_some, Checked.mul_of_le (by rw [Checked.u32Max]; omega), Option.bind_some,
    Checked.add_of_le (by rw [Checked.u32Max]; omega), Option.bind_some,
    Checked.add_of_le (by rw [Checked.u32Max]; omega), Option.bind_some]
  rfl

namespace SampledSpan

variable {self : SampledSpan} {wire : Bool} {column : ColumnSample} {dst : UInt16}

theorem clear_iff (alphas : Corners UInt8) :
    alphas.map UInt8.toUInt32 = ⟨0, 0, 0, 0⟩ ↔ alphas.map UInt8.toNat = ⟨0, 0, 0, 0⟩ := by
  have zero : ∀ a : UInt8, a.toUInt32 = 0 ↔ a.toNat = 0 := by
    intro a
    rw [← UInt32.toNat_inj, UInt8.toNat_toUInt32]
    rfl
  simp only [Corners.map, Corners.mk.injEq, zero]

theorem all_le_255 (alphas : Corners UInt8) : alphas.All (·.toNat ≤ 255) :=
  ⟨Nat.le_of_lt_succ alphas.topLeft.toNat_lt, Nat.le_of_lt_succ alphas.topRight.toNat_lt,
    Nat.le_of_lt_succ alphas.bottomLeft.toNat_lt, Nat.le_of_lt_succ alphas.bottomRight.toNat_lt⟩

/-- The filtered pixel, with the coverage of its corners. -/
theorem filteredAlpha_eq : self.filteredAlpha wire column dst = do
    let indices ← self.corners column
    let alphas ← indices.mapM fun i => (self.texture.coverage.alphaAt i).map UInt8.toNat
    if alphas = ⟨0, 0, 0, 0⟩ then return dst
    else
      let colors ← indices.mapM fun i => self.texture.pixels[i]?
      return wireOrder wire (filteredColor colors alphas (wireOrder wire dst)
        column.fraction.toNat self.fractionY.toNat) := by
  rw [filteredAlpha]
  cases self.corners column with
  | none => rfl
  | some indices =>
      simp only [Option.bind_eq_bind, Option.bind_some, Corners.mapM_map]
      cases indices.mapM fun i => self.texture.coverage.alphaAt i with
      | none => rfl
      | some alphas =>
          have covered : (alphas.map UInt8.toUInt32).All (·.toNat ≤ 255) :=
            { all_le_255 alphas with }
          simp only [Option.map_some, Option.bind_some, clear_iff]
          split
          · rfl
          · simp only [components_eq covered]
            rfl

theorem checkedFilteredAlpha_eq :
    self.checkedFilteredAlpha wire column dst = self.filteredAlpha wire column dst := by
  have partX := fraction_le column.fraction
  have partY := fraction_le self.fractionY
  rw [filteredAlpha_eq, checkedFilteredAlpha]
  cases self.corners column with
  | none => rfl
  | some indices =>
      simp only [Option.bind_eq_bind, Option.bind_some, Corners.mapM_map]
      cases indices.mapM fun i => self.texture.coverage.alphaAt i with
      | none => rfl
      | some alphas =>
          have covered : (alphas.map UInt8.toNat).All (· ≤ 255) :=
            { all_le_255 alphas with }
          simp only [Option.map_some, Option.bind_some,
            Channel.packM_some (checkedChannel_eq covered partX partY)]
          rfl

theorem checkedColor_eq : self.checkedColor column = self.color column := by
  have partX : column.fraction.toUInt32.toNat ≤ 65536 := fraction_le column.fraction
  have partY : self.fractionY.toUInt32.toNat ≤ 65536 := fraction_le self.fractionY
  rw [checkedColor, color]
  split
  · simp only [← UInt16.toNat_toUInt32, checkedInterpolate_eq partX, Option.bind_eq_bind,
      Option.bind_some, checkedInterpolate_eq partY]
    rfl
  · rfl

/-- **No color overflows.** A build that checks its arithmetic draws the same pixels. -/
theorem checkedPixel_eq : self.checkedPixel wire column dst = self.pixel wire column dst := by
  rw [checkedPixel, pixel, checkedFilteredAlpha_eq, checkedKind, kind]
  simp only [checkedColor_eq, checkedComposite_eq]
  rfl

end SampledSpan

end Deskkin.Presentation
