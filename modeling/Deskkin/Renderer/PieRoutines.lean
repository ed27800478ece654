/-
# The vector routines of the renderer

Five assembly routines draw eight pixels a round: they repeat a pattern, copy colors, blend them
by their alpha values, gather them by columns, and draw those whose bit is set. A round loads
blocks of sixteen bytes and stores one, so colors that do not begin at the start of a block are
taken out of two blocks in a row.

A routine is its round, repeated; vector registers have the names that they have in the
assembly, the others the name of what is in them. The tables of masks are in memory of their
own. All routines are called for at least one round.

The renderer's own blend moves each channel from the destination toward the color by 256 parts.
Eight lanes of a vector register do the same: blue and green stay where they are in the word,
red is taken one place to the right, and no sum, difference or product leaves its lane. Beside
the blend of the reference, which rounds to the nearest, every channel is the same or one less.
-/

import Mathlib.Algebra.Order.Ring.Int
import Deskkin.Lib.WordMemory
import Deskkin.Presentation.Colors

namespace Deskkin.Renderer

open Vectors Register Presentation

/-! ## Tables -/

/-- Each row has eight lanes of one value. -/
def alphaPieMasks : Vector UInt16 4 := #v[1, 31, 0x07e0, 0x7c00]

def alphaMask (row : ℕ) : Register := ofLanes fun _ => alphaPieMasks.get (fourth row)

def cutoutPieMasks : Vector (Vector UInt16 4) 16 := #v[
  #v[0, 0, 0, 0],
  #v[0xffff, 0, 0, 0],
  #v[0, 0xffff, 0, 0],
  #v[0xffff, 0xffff, 0, 0],
  #v[0, 0, 0xffff, 0],
  #v[0xffff, 0, 0xffff, 0],
  #v[0, 0xffff, 0xffff, 0],
  #v[0xffff, 0xffff, 0xffff, 0],
  #v[0, 0, 0, 0xffff],
  #v[0xffff, 0, 0, 0xffff],
  #v[0, 0xffff, 0, 0xffff],
  #v[0xffff, 0xffff, 0, 0xffff],
  #v[0, 0, 0xffff, 0xffff],
  #v[0xffff, 0, 0xffff, 0xffff],
  #v[0, 0xffff, 0xffff, 0xffff],
  #v[0xffff, 0xffff, 0xffff, 0xffff]]

/-- The eight bytes of a row. -/
def cutoutMask (row i : ℕ) : UInt8 :=
  let lane := (cutoutPieMasks.get (sixteenth row)).get (fourth (i / 2))
  if i % 2 = 0 then lowByte lane else highByte lane

/-! ## Parts of rounds -/

/-- `ee.orq`, `ee.vunzip.8` and `ee.vzip.8`, which stand wherever words change their order. -/
def reorder (wire : Bool) (q : Register) : Register :=
  if wire then
    let (even, odd) := vunzip8 q q
    (vzip8 odd even).1
  else q

/-- `blend_lanes`: the blend of the colors in `q0` with a block of the destination, by the alpha
values in the lanes of `q2`, and the weights that are left in `q2`. -/
def blendLanes (wire : Bool) (q0 q2 destination : Register) : Register × Register :=
  let q5 := vsr32 7 q2
  let q6 := alphaMask 0
  let q5 := andq q5 q6
  let q2 := vaddsS16 q2 q5
  let q6 := alphaMask 1
  let q1 := reorder wire destination
  -- blue
  let q4 := andq q0 q6
  let q5 := andq q1 q6
  let q4 := vsubsS16 q4 q5
  let q4 := vmulS16 8 q4 q2
  let q6 := alphaMask 2
  let q3 := vaddsS16 q4 q5
  -- green stays where it is
  let q4 := andq q0 q6
  let q5 := andq q1 q6
  let q4 := vsubsS16 q4 q5
  let q4 := vmulS16 8 q4 q2
  let q4 := vaddsS16 q4 q5
  let q5 := alphaMask 3
  let q4 := andq q4 q6
  let q3 := orq q3 q4
  -- red would not fit a signed lane where it is
  let q4 := vsr32 1 q0
  let q6 := vsr32 1 q1
  let q4 := andq q4 q5
  let q6 := andq q6 q5
  let q4 := vsubsS16 q4 q6
  let q4 := vmulS16 8 q4 q2
  let q4 := vaddsS16 q4 q6
  let q4 := andq q4 q5
  let q4 := vsl32 1 q4
  (orq q3 q4, q2)

/-! ## Patterns -/

def backgroundRound (q0 : Register) (s : ℕ × Memory) : ℕ × Memory :=
  (s.1 + 16, s.2.vst128 s.1 q0)

/-- `deskkin_background_pie`, with the block of the pattern. -/
def backgroundPie (dst : ℕ) (pattern : Register) (vectors : ℕ) (m : Memory) : Memory :=
  ((backgroundRound pattern)^[vectors] (dst, m)).2

/-! ## Copies -/

/-- Where the routine is in the destination and in the colors. -/
structure Copying where
  dst : ℕ
  src : ℕ
  memory : Memory

/-- A round for colors that begin at the start of a block. -/
def copyAligned (wire : Bool) (s : Copying) : Copying :=
  let q0 := s.memory.vld128 s.src
  { dst := s.dst + 16
    src := s.src + 16
    memory := s.memory.vst128 s.dst (reorder wire q0) }

/-- The block that the next round begins in is kept in `q0`. -/
structure Funneling extends Copying where
  q0 : Register

def copyFunnel (wire : Bool) (sarByte : ℕ) (s : Funneling) : Funneling :=
  let q1 := s.memory.vld128 s.src
  let q2 := srcQ sarByte s.q0 q1
  { dst := s.dst + 16
    src := s.src + 16
    memory := s.memory.vst128 s.dst (reorder wire q2)
    q0 := q1 }

/-- `deskkin_copy_pie` -/
def copyPie (dst src vectors : ℕ) (wire : Bool) (m : Memory) : Memory :=
  if src % 16 ≠ 0 then
    ((copyFunnel wire (src % 16))^[vectors] ⟨⟨dst, src + 16, m⟩, m.vld128 src⟩).memory
  else ((copyAligned wire)^[vectors] ⟨dst, src, m⟩).memory

/-! ## Alpha values -/

/-- `fresh` is set while `q7` does not have the block that the colors are in. -/
structure Blending where
  dst : ℕ
  src : ℕ
  alpha : ℕ
  fresh : Bool
  q2 : Register
  q7 : Register
  memory : Memory

/-- The eight alpha values of the round, in the low bytes of `q2`. -/
def loadAlpha (place : ℕ) (s : Blending) : Register :=
  let q2 := s.memory.vldL64 s.alpha s.q2
  if place = 0 then q2
  else
    let q2 := s.memory.vldH64 (s.alpha + 8) q2
    srcQ place q2 q2

/-- The colors of the round in `q0`, and what becomes of `q7` and `fresh`. -/
def loadColors (place : ℕ) (s : Blending) : Register × Register × Bool :=
  if place = 0 then (s.memory.vld128 s.src, s.q7, s.fresh)
  else
    let q7 := if s.fresh then s.memory.vld128 s.src else s.q7
    let q4 := s.memory.vld128 (s.src + 16)
    (srcQ place q7 q4, q4, false)

def alphaRound (wire : Bool) (srcPlace alphaPlace : ℕ) (s : Blending) : Blending :=
  let q2 := loadAlpha alphaPlace s
  let all := moviToA q2 0 &&& moviToA q2 1
  let any := moviToA q2 0 ||| moviToA q2 1
  if any = 0 then
    -- nothing is loaded, so the next colors are not in `q7`
    { s with
      dst := s.dst + 16
      src := s.src + 16
      alpha := s.alpha + 8
      fresh := true
      q2 := q2 }
  else
    let (q0, q7, fresh) := loadColors srcPlace s
    let (q3, q2) :=
      if (all + 1) % 2 ^ 32 = 0 then (q0, q2)
      else blendLanes wire q0 (vzip8 q2 zeroQ).1 (s.memory.vld128 s.dst)
    { dst := s.dst + 16
      src := s.src + 16
      alpha := s.alpha + 8
      fresh := fresh
      q2 := q2
      q7 := q7
      memory := s.memory.vst128 s.dst (reorder wire q3) }

/-- `deskkin_alpha_pie`, with what is in the registers at first. -/
def alphaPie (q2 q7 : Register) (dst src alpha vectors : ℕ) (wire : Bool) (m : Memory) : Memory :=
  ((alphaRound wire (src % 16) (alpha % 8))^[vectors] ⟨dst, src, alpha, true, q2, q7, m⟩).memory

/-! ## Columns -/

/-- Columns are entries of four bytes with the place of the color in the first two. -/
def columnPlace (m : Memory) (columns k : ℕ) : ℕ := (m.lane (columns + 4 * k)).toNat

/-- Four words of two values each, which fill a register. -/
def gather (value : ℕ → ℕ) : Register :=
  let pair j := value (2 * j) ||| value (2 * j + 1) <<< 16
  moviToQ (moviToQ (moviToQ (moviToQ zeroQ (pair 0) 0) (pair 1) 1) (pair 2) 2) (pair 3) 3

def gatherColors (m : Memory) (colors columns : ℕ) : Register :=
  gather fun k => (m.lane (colors + 2 * columnPlace m columns k)).toNat

def gatherAlpha (m : Memory) (alpha columns : ℕ) : Register :=
  gather fun k => (m (alpha + columnPlace m columns k)).toNat

structure Gathering where
  dst : ℕ
  columns : ℕ
  memory : Memory

def sampleRound (wire : Bool) (colors alpha : ℕ) (s : Gathering) : Gathering :=
  let q0 := gatherColors s.memory colors s.columns
  let q3 :=
    if alpha = 0 then q0
    else (blendLanes wire q0 (gatherAlpha s.memory alpha s.columns) (s.memory.vld128 s.dst)).1
  { dst := s.dst + 16
    columns := s.columns + 32
    memory := s.memory.vst128 s.dst (reorder wire q3) }

/-- `deskkin_sample_nearest_pie`; a null pointer is no alpha values. -/
def sampleNearestPie (dst colors columns alpha vectors : ℕ) (wire : Bool) (m : Memory) : Memory :=
  ((sampleRound wire colors alpha)^[vectors] ⟨dst, columns, m⟩).memory

/-! ## Bits of coverage -/

structure Cutting where
  dst : ℕ
  src : ℕ
  bits : ℕ
  memory : Memory

/-- The eight bits of the round, of one byte or of two. -/
def loadBits (phase : ℕ) (s : Cutting) : ℕ :=
  let low := (s.memory s.bits).toNat
  if phase = 0 then low
  else ((low ||| (s.memory (s.bits + 1)).toNat <<< 8) >>> phase) % 2 ^ 8

def cutColors (place : ℕ) (s : Cutting) : Register :=
  let q0 := s.memory.vld128 s.src
  if place = 0 then q0 else srcQ place q0 (s.memory.vld128 (s.src + 16))

def cutoutRound (wire : Bool) (place phase : ℕ) (s : Cutting) : Cutting :=
  let bits := loadBits phase s
  let memory :=
    if bits = 0 then s.memory
    else
      let q0 := reorder wire (cutColors place s)
      let q0 :=
        if bits = 255 then q0
        else
          let q2 := (zeroQ.withLow (cutoutMask (bits % 2 ^ 4))).withHigh
            (cutoutMask ((bits >>> 4) % 2 ^ 4))
          let q1 := s.memory.vld128 s.dst
          xorq (andq (xorq q0 q1) q2) q1
      s.memory.vst128 s.dst q0
  { dst := s.dst + 16
    src := s.src + 16
    bits := s.bits + 1
    memory := memory }

/-- `deskkin_cutout_pie`; the options have the order of words and the first bit. -/
def cutoutPie (dst src bits vectors options : ℕ) (m : Memory) : Memory :=
  ((cutoutRound (options % 2 == 1) (src % 16) (options / 2 ^ 8 % 2 ^ 3))^[vectors]
    ⟨dst, src, bits, m⟩).memory

/-! ## The blend of a pixel -/

/-- `alpha_pixel` -/
def alphaPixel (dst src : UInt16) (alpha : UInt8) : UInt16 :=
  let weight : ℤ := alpha.toNat + (alpha >>> 7).toNat
  let channel (shift mask : UInt16) : UInt16 :=
    let d : ℤ := ((dst >>> shift) &&& mask).toNat
    let s : ℤ := ((src >>> shift) &&& mask).toNat
    wrapped (d + (((s - d) * weight) >>> (8 : ℕ)))
  (channel 11 31 <<< 11) ||| (channel 5 63 <<< 5) ||| channel 0 31

/-! ## Steps toward a value -/

/-- So many of 256 parts of the way from `d` to `s`. -/
def toward (d s w : ℕ) : ℕ := ((d : ℤ) + ((s : ℤ) - d) * w / 256).toNat

/-- The parts for an alpha value. -/
def weight (alpha : UInt8) : ℕ := alpha.toNat + alpha.toNat / 128

theorem weight_le (alpha : UInt8) : weight alpha ≤ 256 := by
  have small := alpha.toNat_lt
  rw [weight]
  omega

section Toward

variable {d s w : ℕ}

/-- A step stays between its ends. -/
theorem toward_between (part : w ≤ 256) :
    (toward d s w : ℤ) = d + ((s : ℤ) - d) * w / 256 ∧ min d s ≤ toward d s w ∧
      toward d s w ≤ max d s := by
  have parts : ((w : ℕ) : ℤ) ≤ 256 := by exact_mod_cast part
  have some' : (0 : ℤ) ≤ w := Int.natCast_nonneg w
  obtain ⟨product, isProduct⟩ : ∃ product, ((s : ℤ) - d) * w = product := ⟨_, rfl⟩
  rw [toward, isProduct]
  by_cases order : d ≤ s
  · have forward : (0 : ℤ) ≤ (s : ℤ) - d := by omega
    have low : 0 ≤ product := isProduct ▸ mul_nonneg forward some'
    have high : product ≤ ((s : ℤ) - d) * 256 :=
      isProduct ▸ mul_le_mul_of_nonneg_left parts forward
    omega
  · have back : (s : ℤ) - d ≤ 0 := by omega
    have low : product ≤ 0 := isProduct ▸ mul_nonpos_of_nonpos_of_nonneg back some'
    have high : ((s : ℤ) - d) * 256 ≤ product :=
      isProduct ▸ mul_le_mul_of_nonpos_left parts back
    omega

theorem toward_le {most : ℕ} (part : w ≤ 256) (first : d ≤ most) (second : s ≤ most) :
    toward d s w ≤ most :=
  (toward_between part).2.2.trans (max_le first second)

/-- Values further up in a word take the same steps. -/
theorem toward_scaled {c : ℕ} (positive : 0 < c) (part : w ≤ 256) :
    toward (d * c) (s * c) w / c = toward d s w := by
  have scaled := (toward_between (d := d * c) (s := s * c) part).1
  have plain := (toward_between (d := d) (s := s) part).1
  have quotient : (((s : ℤ) - d) * w * c / 256) / c = ((s : ℤ) - d) * w / 256 := by
    rw [Int.ediv_ediv_of_nonneg (by decide),
      Int.mul_ediv_mul_of_pos_left _ _ (by exact_mod_cast positive)]
  apply Int.natCast_inj.mp
  rw [Int.natCast_ediv, scaled, plain, Nat.cast_mul, Nat.cast_mul,
    show ((s : ℤ) * c - d * c) * w = ((s : ℤ) - d) * w * c by ring, add_comm, mul_comm (d : ℤ),
    Int.add_mul_ediv_left _ _ (by exact_mod_cast positive.ne'), quotient, add_comm]

@[simp]
theorem toward_none : toward d s 0 = d := by
  rw [toward, Nat.cast_zero, mul_zero]
  omega

@[simp]
theorem toward_all : toward d s 256 = s := by
  rw [toward]
  omega

end Toward

/-! ## Colors -/

/-- A color so many parts of the way to another. -/
def towardColor (dst src : UInt16) (w : ℕ) : UInt16 :=
  Channel.pack fun channel => toward (channel.value dst) (channel.value src) w

theorem alphaPixel_eq (dst src : UInt16) (alpha : UInt8) :
    alphaPixel dst src alpha = towardColor dst src (weight alpha) := by
  have part := weight_le alpha
  have weighs : ((alpha.toNat : ℤ) + (alpha >>> 7).toNat) = weight alpha := by
    have shifted : (alpha >>> 7).toNat = alpha.toNat >>> 7 := UInt8.toNat_shiftRight alpha 7
    rw [shifted, Nat.shiftRight_eq_div_pow, weight]
    norm_cast
  have step : ∀ {d s : UInt16} (channel : Channel), d.toNat = channel.value dst →
      s.toNat = channel.value src →
      (wrapped ((d.toNat : ℤ) + (((s.toNat : ℤ) - d.toNat) * weight alpha) >>> (8 : ℕ))).toNat =
        toward (channel.value dst) (channel.value src) (weight alpha) := by
    intro d s channel isDst isSrc
    obtain ⟨value, -, high⟩ := toward_between (d := channel.value dst) (s := channel.value src) part
    have most := channel.most_le
    have first := channel.value_le dst
    have second := channel.value_le src
    rw [isDst, isSrc, Int.shiftRight_eq_div_pow, show ((2 ^ 8 : ℕ) : ℤ) = 256 from rfl, ← value,
      toNat_wrapped (by omega) (by omega), Int.toNat_natCast]
  have bound : ∀ channel : Channel,
      toward (channel.value dst) (channel.value src) (weight alpha) ≤ channel.most :=
    fun channel => toward_le part (channel.value_le dst) (channel.value_le src)
  have red := step .red (Channel.red_eq dst) (Channel.red_eq src)
  have green := step .green (Channel.green_eq dst) (Channel.green_eq src)
  have blue := step .blue (Channel.blue_eq dst) (Channel.blue_eq src)
  have unshifted : ∀ color : UInt16, color >>> 0 = color := by
    intro color
    apply UInt16.toNat_inj.mp
    exact UInt16.toNat_shiftRight color 0
  simp only [alphaPixel, weighs, unshifted]
  rw [Channel.or_eq_pack (red.trans_le (bound .red)) (green.trans_le (bound .green))
    (blue.trans_le (bound .blue)), red, green, blue, towardColor]
  apply congrArg
  funext channel
  cases channel <;> rfl

@[simp]
theorem alphaPixel_clear (dst src : UInt16) : alphaPixel dst src 0 = dst := by
  rw [alphaPixel_eq, towardColor, show weight 0 = 0 from rfl]
  simp only [toward_none]
  exact Channel.pack_value dst

@[simp]
theorem alphaPixel_full (dst src : UInt16) : alphaPixel dst src 255 = src := by
  rw [alphaPixel_eq, towardColor, show weight 255 = 256 from rfl]
  simp only [toward_all]
  exact Channel.pack_value src

/-- A color with its alpha value, onto what is there, by a blend. -/
def compositeWith (blend : UInt16 → UInt16 → UInt8 → UInt16) (wire : Bool) (color : UInt16)
    (a : UInt8) (dst : UInt16) : UInt16 :=
  if a = 0 then dst
  else wireOrder wire (if a = 255 then color else blend (wireOrder wire dst) color a)

/-- The renderer's blend needs no special cases. -/
theorem compositeWith_alphaPixel (wire : Bool) (color : UInt16) (a : UInt8) (dst : UInt16) :
    compositeWith alphaPixel wire color a dst =
      wireOrder wire (alphaPixel (wireOrder wire dst) color a) := by
  rw [compositeWith]
  split
  · rename_i clear
    rw [clear, alphaPixel_clear, wireOrder_wireOrder]
  · split
    · rename_i full
      rw [full, alphaPixel_full]
    · rfl

/-- What rounds to the nearest is the same, or one more. -/
theorem toward_near {d s : ℕ} (alpha : UInt8) (first : d ≤ 63) (second : s ≤ 63) :
    toward d s (weight alpha) ≤ mix d s (alpha.toNat * 257) ∧
      mix d s (alpha.toNat * 257) ≤ toward d s (weight alpha) + 1 := by
  have small := alpha.toNat_lt
  have value := (toward_between (d := d) (s := s) (weight_le alpha)).1
  obtain ⟨a, isA⟩ : ∃ a, alpha.toNat = a := ⟨_, rfl⟩
  obtain ⟨t, isT⟩ : ∃ t, toward d s (weight alpha) = t := ⟨_, rfl⟩
  obtain ⟨p, isP⟩ : ∃ p, ((s : ℤ) - d) * a = p := ⟨_, rfl⟩
  rw [weight, isA] at value
  rw [isA] at small
  have mixed : ((mix d s (a * 257) : ℕ) : ℤ) = (65536 * d + 257 * p + 32768) / 65536 := by
    rw [mix, Int.natCast_ediv]
    congr 1
    rw [← isP]
    push_cast [Nat.cast_sub (show a * 257 ≤ 65536 by omega)]
    ring
  have upper : p ≤ 63 * a := isP ▸ mul_le_mul_of_nonneg_right (by omega) (Int.natCast_nonneg a)
  have lower : -63 * a ≤ p := isP ▸ mul_le_mul_of_nonneg_right (by omega) (Int.natCast_nonneg a)
  have back : ((s : ℤ) - d) * (256 - a) = ((s : ℤ) - d) * 256 - p := by
    rw [mul_sub, isP]
  have upperBack : ((s : ℤ) - d) * (256 - a) ≤ 63 * (256 - a) :=
    mul_le_mul_of_nonneg_right (by omega) (by omega)
  have lowerBack : -63 * (256 - (a : ℤ)) ≤ ((s : ℤ) - d) * (256 - a) :=
    mul_le_mul_of_nonneg_right (by omega) (by omega)
  rw [back] at upperBack lowerBack
  have product : ((s : ℤ) - d) * ((a + a / 128 : ℕ) : ℤ) =
      if a < 128 then p else p + ((s : ℤ) - d) := by
    split
    · rw [show a + a / 128 = a by omega, isP]
    · rw [show a + a / 128 = a + 1 by omega, Nat.cast_succ, mul_add, isP, mul_one]
  rw [isA, isT]
  rw [weight, isA] at isT
  rw [isT, product] at value
  split at value <;> omega

/-! ## Lanes -/

theorem lane_reorder (wire : Bool) (q : Register) {k : ℕ} (inside : k < 8) :
    (reorder wire q).lane k = wireOrder wire (q.lane k) := by
  cases wire with
  | false => rfl
  | true =>
      have low := (q.byte (2 * k)).toNat_lt
      have swapped : (reorder true q).lane k = _ := lane_swapped q inside
      apply UInt16.toNat_inj.mp
      rw [swapped, toNat_wireOrder, lane, toNat_laneOf, toNat_laneOf]
      omega

/-- A mask of bits in a row. -/
theorem and_field (n bits shift : ℕ) :
    n &&& (2 ^ bits - 1) * 2 ^ shift = n / 2 ^ shift % 2 ^ bits * 2 ^ shift := by
  apply Nat.eq_of_testBit_eq
  intro j
  rw [Nat.testBit_and, Nat.testBit_mul_two_pow, Nat.testBit_mul_two_pow,
    Nat.testBit_two_pow_sub_one, Nat.testBit_mod_two_pow, Nat.testBit_div_two_pow]
  by_cases above : shift ≤ j
  · rw [Nat.sub_add_cancel above, decide_eq_true above, Bool.true_and, Bool.true_and,
      Bool.and_comm]
  · rw [decide_eq_false above, Bool.false_and, Bool.false_and, Bool.and_false]

section Lanes

variable {q r w : Register} {k : ℕ}

theorem toNat_lane_alphaMask (row : ℕ) (q : Register) (inside : k < 8) :
    ((andq q (alphaMask row)).lane k).toNat =
      (q.lane k).toNat &&& (alphaPieMasks.get (fourth row)).toNat := by
  rw [lane_andq inside, alphaMask, lane_ofLanes inside, UInt16.toNat_and]

variable (inside : k < 8)
include inside

/-- A difference, a product and a sum of small lanes are a step toward a value. -/
theorem lane_step (value : (q.lane k).toNat < 32768) (start : (r.lane k).toNat < 32768)
    (part : (w.lane k).toNat ≤ 256) :
    ((vaddsS16 (vmulS16 8 (vsubsS16 q r) w) r).lane k).toNat =
      toward (r.lane k).toNat (q.lane k).toNat (w.lane k).toNat := by
  obtain ⟨step, low, high⟩ := toward_between (d := (r.lane k).toNat) (s := (q.lane k).toNat) part
  have difference : signed ((vsubsS16 q r).lane k) = (q.lane k).toNat - (r.lane k).toNat := by
    rw [lane_vsubsS16 inside, signed_of_lt value, signed_of_lt start, saturated_eq (by omega)
      (by omega), signed_wrapped (by omega) (by omega)]
  have product : signed ((vmulS16 8 (vsubsS16 q r) w).lane k) =
      ((q.lane k).toNat - (r.lane k).toNat) * (w.lane k).toNat / 256 := by
    rw [lane_vmulS16 inside, difference, signed_of_lt (show (w.lane k).toNat < 32768 by omega),
      show (2 : ℤ) ^ 8 = 256 from rfl, signed_wrapped (by omega) (by omega)]
  rw [lane_vaddsS16 inside, product, signed_of_lt start, add_comm, ← step,
    saturated_eq (by omega) (by omega), toNat_wrapped (by omega) (by omega), Int.toNat_natCast]

/-- The weights that the alpha values become. -/
theorem lane_weight {alpha : UInt8} (value : (q.lane k).toNat = alpha.toNat) :
    ((vaddsS16 q (andq (vsr32 7 q) (alphaMask 0))).lane k).toNat = weight alpha := by
  have small := alpha.toNat_lt
  have shifted := lane_vsr32 (q := q) (s := 7) inside (by decide)
  have high : ((andq (vsr32 7 q) (alphaMask 0)).lane k).toNat = alpha.toNat / 128 := by
    rw [toNat_lane_alphaMask 0 _ inside,
      show (alphaPieMasks.get (fourth 0)).toNat = 2 ^ 1 - 1 from rfl,
      Nat.and_two_pow_sub_one_eq_mod]
    rw [value] at shifted
    omega
  rw [lane_vaddsS16 inside, signed_of_lt (show (q.lane k).toNat < 32768 by omega),
    signed_of_lt (show (Register.lane _ k).toNat < 32768 by omega), value, high,
    saturated_eq (by omega) (by omega), toNat_wrapped (by omega) (by omega), weight]
  omega

theorem lane_blue (q : Register) :
    ((andq q (alphaMask 1)).lane k).toNat = Channel.blue.value (q.lane k) := by
  rw [toNat_lane_alphaMask 1 _ inside,
    show (alphaPieMasks.get (fourth 1)).toNat = 2 ^ 5 - 1 from rfl,
    Nat.and_two_pow_sub_one_eq_mod, Channel.value, Channel.shift, Channel.most, Nat.pow_zero,
    Nat.div_one]

theorem green_field (q : Register) :
    ((andq q (alphaMask 2)).lane k).toNat = (q.lane k).toNat / 32 % 64 * 32 := by
  rw [toNat_lane_alphaMask 2 _ inside,
    show (alphaPieMasks.get (fourth 2)).toNat = (2 ^ 6 - 1) * 2 ^ 5 from rfl]
  exact and_field _ 6 5

theorem lane_green (q : Register) :
    ((andq q (alphaMask 2)).lane k).toNat = Channel.green.value (q.lane k) * 32 :=
  green_field inside q

theorem red_field (q : Register) :
    ((andq q (alphaMask 3)).lane k).toNat = (q.lane k).toNat / 1024 % 32 * 1024 := by
  rw [toNat_lane_alphaMask 3 _ inside,
    show (alphaPieMasks.get (fourth 3)).toNat = (2 ^ 5 - 1) * 2 ^ 10 from rfl]
  exact and_field _ 5 10

theorem lane_red (q : Register) :
    ((andq (vsr32 1 q) (alphaMask 3)).lane k).toNat = Channel.red.value (q.lane k) * 1024 := by
  have shifted := lane_vsr32 (q := q) (s := 1) inside (by decide)
  rw [red_field inside, Channel.value, Channel.shift, Channel.most]
  omega

omit inside in
/-- Channels that stand in their places are a color. -/
theorem or_channels {values : Channel → ℕ} (small : ∀ channel, values channel ≤ channel.most)
    {lane : UInt16} (value : lane.toNat = (values .blue ||| values .green * 32) |||
      values .red * 2048) : lane = Channel.pack values := by
  have reds : values .red ≤ 31 := small .red
  have greens : values .green ≤ 63 := small .green
  have blues : values .blue ≤ 31 := small .blue
  have placed : ∀ {low high bits : ℕ}, low < 2 ^ bits →
      low ||| high * 2 ^ bits = high * 2 ^ bits + low := by
    intro low high bits narrow
    rw [Nat.or_comm, ← Nat.shiftLeft_eq, Nat.shiftLeft_add_eq_or_of_lt narrow]
  apply UInt16.toNat_inj.mp
  rw [value, Channel.toNat_pack small, show 32 = 2 ^ 5 from rfl, placed (by omega),
    show 2048 = 2 ^ 11 from rfl, placed (by omega)]
  omega

/-- **Lanes are blended as pixels are.** -/
theorem lane_blendLanes {wire : Bool} {q0 q2 destination : Register} {alpha : UInt8}
    (value : (q2.lane k).toNat = alpha.toNat) :
    (blendLanes wire q0 q2 destination).1.lane k =
      alphaPixel (wireOrder wire (destination.lane k)) (q0.lane k) alpha := by
  have part := weight_le alpha
  have weighs := lane_weight inside value
  obtain ⟨q1, isQ1⟩ : ∃ q1, reorder wire destination = q1 := ⟨_, rfl⟩
  obtain ⟨w, isW⟩ : ∃ w, vaddsS16 q2 (andq (vsr32 7 q2) (alphaMask 0)) = w := ⟨_, rfl⟩
  rw [isW] at weighs
  rw [← lane_reorder wire destination inside, isQ1, alphaPixel_eq, towardColor]
  have bound : ∀ channel : Channel,
      toward (channel.value (q1.lane k)) (channel.value (q0.lane k)) (weight alpha) ≤
        channel.most :=
    fun channel => toward_le part (channel.value_le _) (channel.value_le _)
  have steps : ∀ {x y : Register} (channel : Channel) (c : ℕ), channel.most * c < 32768 →
      (∀ j, j < 8 → (x.lane j).toNat = channel.value (q0.lane j) * c) →
      (∀ j, j < 8 → (y.lane j).toNat = channel.value (q1.lane j) * c) →
      ((vaddsS16 (vmulS16 8 (vsubsS16 x y) w) y).lane k).toNat =
        toward (channel.value (q1.lane k) * c) (channel.value (q0.lane k) * c) (weight alpha) := by
    intro x y channel c small isX isY
    have first := Nat.mul_le_mul_right c (channel.value_le (q0.lane k))
    have second := Nat.mul_le_mul_right c (channel.value_le (q1.lane k))
    rw [lane_step inside (by rw [isX k inside]; omega) (by rw [isY k inside]; omega)
      (weighs ▸ part), isX k inside, isY k inside, weighs]
  apply or_channels bound
  simp only [blendLanes, isQ1, isW]
  rw [lane_orq inside, lane_orq inside, UInt16.toNat_or, UInt16.toNat_or]
  congr 1
  · congr 1
    · have blue := steps .blue 1 (by decide)
        (fun j within => (lane_blue within q0).trans (Nat.mul_one _).symm)
        (fun j within => (lane_blue within q1).trans (Nat.mul_one _).symm)
      rw [Nat.mul_one, Nat.mul_one] at blue
      exact blue
    · have green := steps .green 32 (by decide)
        (fun j within => lane_green within q0) fun j within => lane_green within q1
      have upTo : _ ≤ 63 := bound .green
      rw [green_field inside, green, toward_scaled (by decide) part, Nat.mod_eq_of_lt (by omega)]
  · have red := steps .red 1024 (by decide)
      (fun j within => lane_red within q0) fun j within => lane_red within q1
    have upTo : _ ≤ 31 := bound .red
    rw [lane_vsl32 inside, red_field inside, red, toward_scaled (by decide) part,
      Nat.mod_eq_of_lt (by omega)]
    · omega
    · intro j within
      rw [red_field within]
      omega

end Lanes

end Deskkin.Renderer
