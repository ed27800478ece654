/-
# Vector registers

A register has sixteen bytes, the least significant first. An instruction takes them as bytes,
as eight lanes of 16 bits or as four words of 32, and what it does is said here lane by lane.
Lanes that are added, subtracted and multiplied are signed; a sum or a difference that is too
large for a lane becomes the nearest value that is not.
-/

import Mathlib.Tactic.Ring

namespace Vectors

/-! ## Lanes of two bytes -/

/-- The lane with these bytes. -/
def laneOf (low high : UInt8) : UInt16 := UInt16.ofNat (low.toNat + high.toNat * 256)

def lowByte (lane : UInt16) : UInt8 := UInt8.ofNat lane.toNat

def highByte (lane : UInt16) : UInt8 := UInt8.ofNat (lane.toNat / 256)

theorem toNat_laneOf (low high : UInt8) :
    (laneOf low high).toNat = low.toNat + high.toNat * 256 := by
  have small := low.toNat_lt
  have smaller := high.toNat_lt
  rw [laneOf, UInt16.toNat_ofNat']
  exact Nat.mod_eq_of_lt (by omega)

theorem toNat_lowByte (lane : UInt16) : (lowByte lane).toNat = lane.toNat % 256 := by
  rw [lowByte, UInt8.toNat_ofNat']

theorem toNat_highByte (lane : UInt16) : (highByte lane).toNat = lane.toNat / 256 := by
  have small := lane.toNat_lt
  rw [highByte, UInt8.toNat_ofNat']
  exact Nat.mod_eq_of_lt (by omega)

@[simp]
theorem laneOf_bytes (lane : UInt16) : laneOf (lowByte lane) (highByte lane) = lane := by
  apply UInt16.toNat_inj.mp
  rw [toNat_laneOf, toNat_lowByte, toNat_highByte]
  omega

@[simp]
theorem lowByte_laneOf (low high : UInt8) : lowByte (laneOf low high) = low := by
  have small := low.toNat_lt
  apply UInt8.toNat_inj.mp
  rw [toNat_lowByte, toNat_laneOf]
  omega

@[simp]
theorem highByte_laneOf (low high : UInt8) : highByte (laneOf low high) = high := by
  have small := low.toNat_lt
  apply UInt8.toNat_inj.mp
  rw [toNat_highByte, toNat_laneOf]
  omega

theorem testBit_laneOf (low high : UInt8) (j : ℕ) : (laneOf low high).toNat.testBit j =
    if j < 8 then low.toNat.testBit j else high.toNat.testBit (j - 8) := by
  rw [toNat_laneOf, show low.toNat + high.toNat * 256 = 2 ^ 8 * high.toNat + low.toNat by omega]
  exact Nat.testBit_two_pow_mul_add _ low.toNat_lt j

theorem laneOf_and (a b c d : UInt8) : laneOf (a &&& b) (c &&& d) = laneOf a c &&& laneOf b d := by
  apply UInt16.toNat_inj.mp
  apply Nat.eq_of_testBit_eq
  intro j
  rw [UInt16.toNat_and, Nat.testBit_and, testBit_laneOf, testBit_laneOf, testBit_laneOf,
    UInt8.toNat_and, UInt8.toNat_and, Nat.testBit_and, Nat.testBit_and]
  split <;> rfl

theorem laneOf_or (a b c d : UInt8) : laneOf (a ||| b) (c ||| d) = laneOf a c ||| laneOf b d := by
  apply UInt16.toNat_inj.mp
  apply Nat.eq_of_testBit_eq
  intro j
  rw [UInt16.toNat_or, Nat.testBit_or, testBit_laneOf, testBit_laneOf, testBit_laneOf,
    UInt8.toNat_or, UInt8.toNat_or, Nat.testBit_or, Nat.testBit_or]
  split <;> rfl

theorem laneOf_xor (a b c d : UInt8) : laneOf (a ^^^ b) (c ^^^ d) = laneOf a c ^^^ laneOf b d := by
  apply UInt16.toNat_inj.mp
  apply Nat.eq_of_testBit_eq
  intro j
  rw [UInt16.toNat_xor, Nat.testBit_xor, testBit_laneOf, testBit_laneOf, testBit_laneOf,
    UInt8.toNat_xor, UInt8.toNat_xor, Nat.testBit_xor, Nat.testBit_xor]
  split <;> rfl

/-! ## Signed lanes -/

def signed (lane : UInt16) : ℤ := lane.toBitVec.toInt

/-- The lane with the low 16 bits of a number. -/
def wrapped (value : ℤ) : UInt16 := UInt16.ofBitVec (BitVec.ofInt 16 value)

def saturated (value : ℤ) : UInt16 := wrapped (max (-32768) (min 32767 value))

theorem signed_of_lt {lane : UInt16} (small : lane.toNat < 32768) : signed lane = lane.toNat :=
  BitVec.toInt_eq_toNat_of_lt (show 2 * lane.toNat < 2 ^ 16 by omega)

theorem signed_wrapped {value : ℤ} (low : -32768 ≤ value) (high : value < 32768) :
    signed (wrapped value) = value := by
  rw [signed, wrapped, UInt16.toBitVec_ofBitVec, BitVec.toInt_ofInt, Int.bmod_def]
  split <;> omega

theorem toNat_wrapped {value : ℤ} (low : 0 ≤ value) (high : value < 65536) :
    (wrapped value).toNat = value.toNat := by
  rw [wrapped, ← UInt16.toNat_toBitVec, UInt16.toBitVec_ofBitVec, BitVec.toNat_ofInt]
  omega

theorem saturated_eq {value : ℤ} (low : -32768 ≤ value) (high : value < 32768) :
    saturated value = wrapped value := by
  rw [saturated, min_eq_right (by omega), max_eq_right low]

/-! ## Registers -/

theorem mod_sixteen (i : ℕ) : i % 16 < 16 := Nat.mod_lt i (by decide)

theorem mod_four (k : ℕ) : k % 4 < 4 := Nat.mod_lt k (by decide)

/-- One place of sixteen, counted round. -/
def sixteenth (i : ℕ) : Fin 16 := ⟨i % 16, mod_sixteen i⟩

/-- One place of four, counted round. -/
def fourth (k : ℕ) : Fin 4 := ⟨k % 4, mod_four k⟩

/-- Sixteen bytes. -/
abbrev Register : Type := Fin 16 → UInt8

namespace Register

def ofBytes (f : ℕ → UInt8) : Register := fun i => f i

def byte (q : Register) (i : ℕ) : UInt8 := q (sixteenth i)

def ofLanes (f : ℕ → UInt16) : Register :=
  ofBytes fun i => if i % 2 = 0 then lowByte (f (i / 2)) else highByte (f (i / 2))

def lane (q : Register) (k : ℕ) : UInt16 := laneOf (q.byte (2 * k)) (q.byte (2 * k + 1))

/-- A word of two lanes, as a number. -/
def word (q : Register) (k : ℕ) : ℕ :=
  (q.lane (2 * k)).toNat + (q.lane (2 * k + 1)).toNat * 65536

/-- The low 32 bits of each number. -/
def ofWords (f : ℕ → ℕ) : Register :=
  ofLanes fun k => UInt16.ofNat (if k % 2 = 0 then f (k / 2) else f (k / 2) / 65536)

theorem byte_ofBytes {f : ℕ → UInt8} {i : ℕ} (inside : i < 16) : (ofBytes f).byte i = f i :=
  congrArg f (Nat.mod_eq_of_lt inside)

theorem ext_byte {q r : Register} (same : ∀ i, i < 16 → q.byte i = r.byte i) : q = r := by
  funext i
  have here := same i i.isLt
  rw [byte, byte, show sixteenth i = i from Fin.ext (Nat.mod_eq_of_lt i.isLt)] at here
  exact here

theorem lane_ofBytes {f : ℕ → UInt8} {k : ℕ} (inside : k < 8) :
    (ofBytes f).lane k = laneOf (f (2 * k)) (f (2 * k + 1)) := by
  rw [lane, byte_ofBytes (by omega), byte_ofBytes (by omega)]

theorem lane_ofLanes {f : ℕ → UInt16} {k : ℕ} (inside : k < 8) : (ofLanes f).lane k = f k := by
  rw [ofLanes, lane_ofBytes inside, if_pos (by omega), if_neg (by omega),
    show 2 * k / 2 = k by omega, show (2 * k + 1) / 2 = k by omega, laneOf_bytes]

/-- The bytes of lanes. -/
theorem byte_of_lane (q : Register) (i : ℕ) :
    q.byte i = if i % 2 = 0 then lowByte (q.lane (i / 2)) else highByte (q.lane (i / 2)) := by
  rw [lane, lowByte_laneOf, highByte_laneOf]
  split
  · rw [show 2 * (i / 2) = i by omega]
  · rw [show 2 * (i / 2) + 1 = i by omega]

/-! ## Bits -/

def zeroQ : Register := ofBytes fun _ => 0

def andq (q r : Register) : Register := ofBytes fun i => q.byte i &&& r.byte i

def orq (q r : Register) : Register := ofBytes fun i => q.byte i ||| r.byte i

def xorq (q r : Register) : Register := ofBytes fun i => q.byte i ^^^ r.byte i

variable {q r : Register} {i k s : ℕ}

theorem lane_andq (inside : k < 8) : (andq q r).lane k = q.lane k &&& r.lane k := by
  rw [andq, lane_ofBytes inside, laneOf_and, lane, lane]

theorem lane_orq (inside : k < 8) : (orq q r).lane k = q.lane k ||| r.lane k := by
  rw [orq, lane_ofBytes inside, laneOf_or, lane, lane]

theorem lane_xorq (inside : k < 8) : (xorq q r).lane k = q.lane k ^^^ r.lane k := by
  rw [xorq, lane_ofBytes inside, laneOf_xor, lane, lane]

/-! ## Two registers in a row -/

/-- A byte of two registers in a row. -/
def joined (q r : Register) (i : ℕ) : UInt8 := if i < 16 then q.byte i else r.byte (i - 16)

/-- The bytes with even places, and the others. -/
def vunzip8 (q r : Register) : Register × Register :=
  (ofBytes fun i => joined q r (2 * i), ofBytes fun i => joined q r (2 * i + 1))

/-- The bytes of both by turns. -/
def vzip8 (q r : Register) : Register × Register :=
  (ofBytes fun i => if i % 2 = 0 then q.byte (i / 2) else r.byte (i / 2),
    ofBytes fun i => if i % 2 = 0 then q.byte (8 + i / 2) else r.byte (8 + i / 2))

/-- Sixteen bytes from a place on. -/
def srcQ (place : ℕ) (q r : Register) : Register := ofBytes fun i => joined q r (i + place)

/-- Separated and interleaved the other way round, the bytes of every lane change places. -/
theorem lane_swapped (q : Register) (inside : k < 8) :
    (vzip8 (vunzip8 q q).2 (vunzip8 q q).1).1.lane k =
      laneOf (q.byte (2 * k + 1)) (q.byte (2 * k)) := by
  rw [vzip8, vunzip8]
  dsimp only
  rw [lane_ofBytes inside, if_pos (by omega), if_neg (by omega), byte_ofBytes (by omega),
    byte_ofBytes (by omega), joined, joined, if_pos (by omega), if_pos (by omega)]
  congr 2 <;> omega

/-- Interleaved with nothing, bytes become lanes. -/
theorem lane_widened (q : Register) (inside : k < 8) :
    ((vzip8 q zeroQ).1.lane k).toNat = (q.byte k).toNat := by
  rw [vzip8]
  dsimp only
  rw [lane_ofBytes inside, if_pos (by omega), if_neg (by omega), zeroQ, byte_ofBytes (by omega),
    toNat_laneOf, show 2 * k / 2 = k by omega]
  rfl

/-! ## Arithmetic on lanes -/

def vaddsS16 (q r : Register) : Register :=
  ofLanes fun k => saturated (signed (q.lane k) + signed (r.lane k))

def vsubsS16 (q r : Register) : Register :=
  ofLanes fun k => saturated (signed (q.lane k) - signed (r.lane k))

/-- The low bits of the products, shifted to the right. -/
def vmulS16 (sar : ℕ) (q r : Register) : Register :=
  ofLanes fun k => wrapped ((signed (q.lane k) * signed (r.lane k)) >>> sar)

theorem lane_vaddsS16 (inside : k < 8) : (vaddsS16 q r).lane k =
    saturated (signed (q.lane k) + signed (r.lane k)) :=
  lane_ofLanes inside

theorem lane_vsubsS16 (inside : k < 8) : (vsubsS16 q r).lane k =
    saturated (signed (q.lane k) - signed (r.lane k)) :=
  lane_ofLanes inside

theorem lane_vmulS16 (inside : k < 8) : (vmulS16 s q r).lane k =
    wrapped ((signed (q.lane k) * signed (r.lane k)) / 2 ^ s) := by
  rw [vmulS16, lane_ofLanes inside, Int.shiftRight_eq_div_pow]
  norm_cast

/-! ## Shifts of words -/

/-- A word as a signed number. -/
def signedWord (word : ℕ) : ℤ := if word < 2 ^ 31 then word else word - 2 ^ 32

/-- Shifted to the right; the sign comes in from the left. -/
def vsr32 (sar : ℕ) (q : Register) : Register :=
  ofWords fun k => (signedWord (q.word k) >>> sar % 2 ^ 32).toNat

def vsl32 (sar : ℕ) (q : Register) : Register := ofWords fun k => q.word k <<< sar

theorem lane_ofWords {f : ℕ → ℕ} (inside : k < 8) : ((ofWords f).lane k).toNat =
    (if k % 2 = 0 then f (k / 2) else f (k / 2) / 65536) % 65536 := by
  rw [ofWords, lane_ofLanes inside, UInt16.toNat_ofNat']

/-- The word that a lane is in. -/
theorem word_of_lane (q : Register) (k : ℕ) : (q.lane k).toNat =
    if k % 2 = 0 then q.word (k / 2) % 65536 else q.word (k / 2) / 65536 := by
  have low := (q.lane (2 * (k / 2))).toNat_lt
  rw [word]
  split
  · rw [show 2 * (k / 2) = k by omega] at low ⊢
    omega
  · rw [show 2 * (k / 2) + 1 = k by omega]
    omega

theorem word_lt (q : Register) (k : ℕ) : q.word k < 2 ^ 32 := by
  have low := (q.lane (2 * k)).toNat_lt
  have high := (q.lane (2 * k + 1)).toNat_lt
  rw [word]
  omega

section Shifts

variable {low high p c : ℕ}

theorem quotient_of_lanes (whole : p * c = 65536) (positive : 0 < p) :
    (low + high * 65536) / p = low / p + c * high := by
  rw [← whole, show low + high * (p * c) = low + p * (c * high) by ring,
    Nat.add_mul_div_left _ _ positive]

/-- The sign of a word comes in above its quotient. -/
theorem shifted_word {word : ℕ} (whole : p * c = 65536) (positive : 0 < p)
    (small : word < 2 ^ 32) : ∃ above, (signedWord word / p % 2 ^ 32).toNat =
      word / p + 65536 * (c * above) := by
  have most : c ≤ 65536 := by
    rw [← whole]
    exact Nat.le_mul_of_pos_left _ positive
  have range : (p : ℤ) * (c * 65536) = 2 ^ 32 := by
    rw [← mul_assoc, ← Nat.cast_mul, whole]
    norm_num
  have short : word / p < c * 65536 := by
    rw [Nat.div_lt_iff_lt_mul positive, Nat.mul_comm, ← Nat.mul_assoc, whole]
    exact small
  obtain ⟨quotient, isQuotient⟩ : ∃ quotient, word / p = quotient := ⟨_, rfl⟩
  rw [isQuotient] at short ⊢
  rw [signedWord]
  split
  · refine ⟨0, ?_⟩
    rw [← Int.natCast_ediv, isQuotient]
    omega
  · refine ⟨p - 1, ?_⟩
    have above : c * (p - 1) + c = 65536 := by
      rw [← Nat.mul_succ, Nat.succ_eq_add_one, Nat.sub_add_cancel positive, Nat.mul_comm, whole]
    have divided : ((word : ℤ) - 2 ^ 32) / p = quotient - c * 65536 := by
      rw [← range, sub_eq_add_neg, ← mul_neg, Int.add_mul_ediv_left _ _ (by omega),
        ← Int.natCast_ediv, isQuotient]
      rfl
    rw [divided]
    omega

end Shifts

/-- The low bits of a lane that was shifted to the right are its own. -/
theorem lane_vsr32 (inside : k < 8) (narrow : s ≤ 16) :
    ((vsr32 s q).lane k).toNat % 2 ^ (16 - s) = (q.lane k).toNat / 2 ^ s := by
  obtain ⟨p, isP⟩ : ∃ p, 2 ^ s = p := ⟨_, rfl⟩
  obtain ⟨c, isC⟩ : ∃ c, 2 ^ (16 - s) = c := ⟨_, rfl⟩
  have whole : p * c = 65536 := by
    have sum := Nat.pow_add 2 s (16 - s)
    rw [Nat.add_sub_cancel' narrow, isP, isC] at sum
    exact sum.symm
  have positive : 0 < p := by
    rw [← isP]
    exact Nat.two_pow_pos s
  have divides : c ∣ 65536 := ⟨p, by rw [Nat.mul_comm, whole]⟩
  obtain ⟨above, shifted⟩ := shifted_word whole positive (q.word_lt (k / 2))
  have small : ∀ lane : UInt16, lane.toNat / p < c := by
    intro lane
    rw [Nat.div_lt_iff_lt_mul positive, Nat.mul_comm, whole]
    exact lane.toNat_lt
  rw [vsr32, lane_ofWords inside, Int.shiftRight_eq_div_pow, isP, isC, shifted,
    Nat.mod_mod_of_dvd _ divides]
  obtain ⟨low, isLow⟩ : ∃ low, (q.lane (2 * (k / 2))).toNat = low := ⟨_, rfl⟩
  obtain ⟨high, isHigh⟩ : ∃ high, (q.lane (2 * (k / 2) + 1)).toNat = high := ⟨_, rfl⟩
  have lowSmall : low < 65536 := by
    rw [← isLow]
    exact UInt16.toNat_lt _
  rw [word, isLow, isHigh]
  split
  · rw [show q.lane k = q.lane (2 * (k / 2)) by congr 1; omega, isLow,
      quotient_of_lanes whole positive, show 65536 * (c * above) = c * (65536 * above) by ring,
      Nat.add_mul_mod_self_left, Nat.add_mul_mod_self_left]
    exact Nat.mod_eq_of_lt (isLow ▸ small _)
  · rw [show q.lane k = q.lane (2 * (k / 2) + 1) by congr 1; omega, isHigh,
      Nat.add_mul_div_left _ _ (by decide), Nat.add_mul_mod_self_left, Nat.div_div_eq_div_mul,
      Nat.mul_comm p, ← Nat.div_div_eq_div_mul, show (low + high * 65536) / 65536 = high by omega]
    exact Nat.mod_eq_of_lt (isHigh ▸ small _)

/-- Lanes that have room are shifted to the left without meeting. -/
theorem lane_vsl32 (inside : k < 8)
    (room : ∀ j, j < 8 → (q.lane j).toNat * 2 ^ s < 65536) :
    ((vsl32 s q).lane k).toNat = (q.lane k).toNat * 2 ^ s := by
  obtain ⟨p, isP⟩ : ∃ p, 2 ^ s = p := ⟨_, rfl⟩
  have low := room (2 * (k / 2)) (by omega)
  have high := room (2 * (k / 2) + 1) (by omega)
  rw [vsl32, lane_ofWords inside, Nat.shiftLeft_eq, word, isP]
  rw [isP] at low high
  rw [show ((q.lane (2 * (k / 2))).toNat + (q.lane (2 * (k / 2) + 1)).toNat * 65536) * p =
    (q.lane (2 * (k / 2))).toNat * p + 65536 * ((q.lane (2 * (k / 2) + 1)).toNat * p) by ring]
  split
  · rw [show q.lane k = q.lane (2 * (k / 2)) by congr 1; omega]
    omega
  · rw [show q.lane k = q.lane (2 * (k / 2) + 1) by congr 1; omega]
    omega

/-! ## Parts of a register -/

/-- The number in a word, and the register with another number there. -/
def moviToA (q : Register) (k : ℕ) : ℕ := q.word k

def moviToQ (q : Register) (value k : ℕ) : Register :=
  ofWords fun j => if j = k then value else q.word j

theorem word_ofWords {f : ℕ → ℕ} (inside : k < 4) : (ofWords f).word k = f k % 2 ^ 32 := by
  have low := lane_ofWords (f := f) (show 2 * k < 8 by omega)
  have high := lane_ofWords (f := f) (show 2 * k + 1 < 8 by omega)
  rw [if_pos (by omega), show 2 * k / 2 = k by omega] at low
  rw [if_neg (by omega), show (2 * k + 1) / 2 = k by omega] at high
  rw [word, low, high]
  omega

theorem word_moviToQ {q : Register} {value place : ℕ} (inside : k < 4) :
    (moviToQ q value place).word k = if k = place then value % 2 ^ 32 else q.word k := by
  rw [moviToQ, word_ofWords inside]
  split
  · rfl
  · exact Nat.mod_eq_of_lt (q.word_lt k)

/-- A register with its low, or its high, eight bytes replaced. -/
def withLow (q : Register) (f : ℕ → UInt8) : Register :=
  ofBytes fun i => if i < 8 then f i else q.byte i

def withHigh (q : Register) (f : ℕ → UInt8) : Register :=
  ofBytes fun i => if i < 8 then q.byte i else f (i - 8)

theorem lane_withHigh {q : Register} {f g : ℕ → UInt8} (inside : k < 8) :
    (withHigh (withLow q f) g).lane k =
      if k < 4 then laneOf (f (2 * k)) (f (2 * k + 1))
      else laneOf (g (2 * (k - 4))) (g (2 * (k - 4) + 1)) := by
  rw [withHigh, withLow, lane_ofBytes inside]
  split
  · rw [if_pos (by omega), if_pos (by omega), byte_ofBytes (by omega), byte_ofBytes (by omega),
      if_pos (by omega), if_pos (by omega)]
  · rw [if_neg (by omega), if_neg (by omega), show 2 * k - 8 = 2 * (k - 4) by omega,
      show 2 * k + 1 - 8 = 2 * (k - 4) + 1 by omega]

end Register

end Vectors
