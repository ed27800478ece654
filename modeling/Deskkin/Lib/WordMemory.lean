/-
# Words in a memory of bytes

A memory has a byte at every address, and words of two bytes lie in it one after another. Words
are rewritten one by one or, from the start of a block of sixteen bytes on, eight at a time out
of a vector register; both come to the same memory.
-/

import Deskkin.Lib.Grid
import Deskkin.Lib.VectorRegisters

namespace Vectors

open Register

abbrev Memory : Type := ℕ → UInt8

namespace Memory

/-- The word at an address. -/
def lane (m : Memory) (address : ℕ) : UInt16 := laneOf (m address) (m (address + 1))

def setLane (m : Memory) (address : ℕ) (word : UInt16) : Memory := fun x =>
  if x = address then lowByte word
  else if x = address + 1 then highByte word
  else m x

/-- The block of sixteen bytes that the address is in. -/
def vld128 (m : Memory) (address : ℕ) : Register :=
  ofBytes fun i => m (address / 16 * 16 + i)

def vst128 (m : Memory) (address : ℕ) (q : Register) : Memory := fun x =>
  if x / 16 = address / 16 then q.byte (x % 16) else m x

/-- The eight bytes that the address is in, in the low or the high part of a register. -/
def vldL64 (m : Memory) (address : ℕ) (q : Register) : Register :=
  q.withLow fun i => m (address / 8 * 8 + i)

def vldH64 (m : Memory) (address : ℕ) (q : Register) : Register :=
  q.withHigh fun i => m (address / 8 * 8 + i)

/-- So many words from an address on, each rewritten by its position. -/
def fill (g : ℕ → UInt16 → UInt16) (start length : ℕ) (m : Memory) : Memory := fun x =>
  if start ≤ x ∧ x < start + 2 * length then
    let word := g ((x - start) / 2) (m.lane (start + 2 * ((x - start) / 2)))
    if (x - start) % 2 = 0 then lowByte word else highByte word
  else m x

/-- Rewrite so many words from an address on, by their position. -/
def writeSpan (f : ℕ → UInt16 → Option UInt16) (start : ℕ) : ℕ → Memory → Option Memory
  | 0, m => some m
  | length + 1, m => do
      let m ← writeSpan f start length m
      let new ← f length (m.lane (start + 2 * length))
      return m.setLane (start + 2 * length) new

variable {m n : Memory} {g h : ℕ → UInt16 → UInt16} {start length address : ℕ}

theorem fill_outside {x : ℕ} (outside : x < start ∨ start + 2 * length ≤ x) :
    fill g start length m x = m x :=
  if_neg (by omega)

variable {k : ℕ} {f : ℕ → UInt16 → Option UInt16}

theorem fill_low (short : k < length) :
    fill g start length m (start + 2 * k) = lowByte (g k (m.lane (start + 2 * k))) := by
  rw [fill, if_pos (by omega), show (start + 2 * k - start) / 2 = k by omega]
  exact if_pos (by omega)

theorem fill_high (short : k < length) :
    fill g start length m (start + 2 * k + 1) = highByte (g k (m.lane (start + 2 * k))) := by
  rw [fill, if_pos (by omega), show (start + 2 * k + 1 - start) / 2 = k by omega]
  exact if_neg (by omega)

theorem lane_fill_within (short : k < length) :
    (fill g start length m).lane (start + 2 * k) = g k (m.lane (start + 2 * k)) := by
  rw [lane, fill_low short, fill_high short, laneOf_bytes]

theorem lane_fill_outside (outside : address + 2 ≤ start ∨ start + 2 * length ≤ address) :
    (fill g start length m).lane address = m.lane address := by
  rw [lane, fill_outside (by omega), fill_outside (by omega), lane]

/-- Memories with the same bytes outside the words and with the same words are the same. -/
theorem eq_fill {after : Memory}
    (outside : ∀ x, x < start ∨ start + 2 * length ≤ x → after x = m x)
    (within : ∀ k, k < length → after.lane (start + 2 * k) = g k (m.lane (start + 2 * k))) :
    after = fill g start length m := by
  funext x
  by_cases here : start ≤ x ∧ x < start + 2 * length
  · have word := within ((x - start) / 2) (by omega)
    rw [fill, if_pos here, ← word]
    dsimp only
    split
    · rw [lane, lowByte_laneOf, show start + 2 * ((x - start) / 2) = x by omega]
    · rw [lane, highByte_laneOf, show start + 2 * ((x - start) / 2) + 1 = x by omega]
  · rw [outside x (by omega), fill, if_neg here]

@[simp]
theorem fill_zero : fill g start 0 m = m :=
  (eq_fill (fun _ _ => rfl) fun _ none => absurd none (Nat.not_lt_zero _)).symm

theorem fill_congr (same : ∀ k, k < length → ∀ old, g k old = h k old) :
    fill g start length m = fill h start length m := by
  apply eq_fill
  · intro x outside
    exact fill_outside outside
  · intro k short
    rw [lane_fill_within short, same k short]

theorem fill_append (first second : ℕ) : fill g start (first + second) m =
    fill (fun k => g (first + k)) (start + 2 * first) second (fill g start first m) := by
  apply eq_fill
  · intro x outside
    by_cases inFirst : start ≤ x ∧ x < start + 2 * first
    · rw [fill, fill, if_pos inFirst, if_pos (by omega)]
    · rw [fill_outside (by omega), fill_outside (by omega)]
  · intro k short
    rw [show start + 2 * first + 2 * k = start + 2 * (first + k) by omega,
      lane_fill_within (by omega), lane_fill_outside (by omega)]

/-- Words that are rewritten again. -/
theorem fill_fill : fill h start length (fill g start length m) =
    fill (fun k old => h k (g k old)) start length m := by
  apply eq_fill
  · intro x outside
    rw [fill_outside outside, fill_outside outside]
  · intro k short
    rw [lane_fill_within short, lane_fill_within short]

theorem fill_same (same : ∀ k old, g k old = old) : fill g start length m = m :=
  (eq_fill (fun _ _ => rfl) fun k _ => (same k _).symm).symm

/-- A part of the words. -/
theorem fill_part {first count : ℕ} (within : first + count ≤ length) :
    fill g (start + 2 * first) count m =
      fill (fun i old => if first ≤ i ∧ i < first + count then g (i - first) old else old) start
        length m := by
  apply eq_fill
  · intro x outside
    rw [fill_outside (by omega)]
  · intro k short
    by_cases inside : first ≤ k ∧ k < first + count
    · rw [if_pos inside, show start + 2 * k = start + 2 * first + 2 * (k - first) by omega,
        lane_fill_within (by omega)]
    · rw [if_neg inside, lane_fill_outside (by omega)]

/-- A byte of a word that is rewritten as it is. -/
theorem fill_unchanged {x : ℕ} (same : ∀ k old, start + 2 * k ≤ x → x < start + 2 * k + 2 →
    g k old = old) : fill g start length m x = m x := by
  by_cases here : start ≤ x ∧ x < start + 2 * length
  · rw [fill, if_pos here, same _ _ (by omega) (by omega)]
    dsimp only
    split
    · rw [lane, lowByte_laneOf, show start + 2 * ((x - start) / 2) = x by omega]
    · rw [lane, highByte_laneOf, show start + 2 * ((x - start) / 2) + 1 = x by omega]
  · exact fill_outside (by omega)

theorem lane_setLane_same (word : UInt16) : (m.setLane address word).lane address = word := by
  rw [lane, setLane, setLane, if_pos rfl, if_neg (by omega), if_pos rfl, laneOf_bytes]

theorem setLane_fill : (fill g start length m).setLane (start + 2 * length)
    (g length (m.lane (start + 2 * length))) = fill g start (length + 1) m := by
  rw [fill_append]
  apply eq_fill
  · intro x outside
    rw [setLane, if_neg (by omega), if_neg (by omega)]
  · intro k short
    have only : k = 0 := by omega
    subst only
    rw [Nat.mul_zero, Nat.add_zero, lane_setLane_same, lane_fill_outside (by omega), Nat.add_zero]

theorem writeSpan_eq_some (written : ∀ k old, k < length → f k old = some (g k old)) :
    writeSpan f start length m = some (fill g start length m) := by
  induction length with
  | zero => rw [fill_zero, writeSpan]
  | succ length ih =>
      rw [writeSpan, ih fun k old short => written k old (by omega), Option.bind_eq_bind,
        Option.bind_some, lane_fill_outside (by omega), written length _ (by omega),
        ← setLane_fill]
      rfl

/-! ## Blocks -/

theorem vld128_congr (same : ∀ x, x / 16 = address / 16 → m x = n x) :
    m.vld128 address = n.vld128 address := by
  apply ext_byte
  intro i inside
  rw [vld128, vld128, byte_ofBytes inside, byte_ofBytes inside]
  exact same _ (by omega)

theorem lane_vld128 (aligned : address % 16 = 0) (inside : k < 8) :
    (m.vld128 address).lane k = m.lane (address + 2 * k) := by
  rw [vld128, lane_ofBytes inside, lane]
  congr 2 <;> omega

/-- Two blocks in a row have sixteen bytes from any place of the first one on. -/
theorem byte_srcQ {i : ℕ} (inside : i < 16) :
    (srcQ (address % 16) (m.vld128 address) (m.vld128 (address + 16))).byte i =
      m (address + i) := by
  rw [srcQ, byte_ofBytes inside, joined]
  split
  · rw [vld128, byte_ofBytes (by omega)]
    congr 1
    omega
  · rw [vld128, byte_ofBytes (by omega)]
    congr 1
    omega

theorem lane_srcQ (inside : k < 8) :
    (srcQ (address % 16) (m.vld128 address) (m.vld128 (address + 16))).lane k =
      m.lane (address + 2 * k) := by
  rw [Register.lane, byte_srcQ (by omega), byte_srcQ (by omega), lane, Nat.add_assoc]

/-- The block after some that have been written. -/
theorem vst128_fill {rounds : ℕ} {q : Register} (aligned : start % 16 = 0)
    (words : ∀ k, k < 8 →
      q.lane k = g (8 * rounds + k) (m.lane (start + 2 * (8 * rounds + k)))) :
    (fill g start (8 * rounds) m).vst128 (start + 16 * rounds) q =
      fill g start (8 * (rounds + 1)) m := by
  rw [Nat.mul_succ, fill_append]
  apply eq_fill
  · intro x outside
    rw [vst128, if_neg (by omega)]
  · intro k short
    rw [lane_fill_outside (by omega), lane, vst128, vst128, if_pos (by omega), if_pos (by omega),
      show (start + 2 * (8 * rounds) + 2 * k) % 16 = 2 * k by omega,
      show (start + 2 * (8 * rounds) + 2 * k + 1) % 16 = 2 * k + 1 by omega]
    exact (words k short).trans (by rw [show start + 2 * (8 * rounds) + 2 * k =
      start + 2 * (8 * rounds + k) by omega])

/-- A block that is not written stays as it is. -/
theorem vld128_fill (apart : ∀ x, x / 16 = address / 16 → x < start ∨ start + 2 * length ≤ x) :
    (fill g start length m).vld128 address = m.vld128 address :=
  vld128_congr fun x here => fill_outside (apart x here)

/-! ## Buffers -/

/-- The words of a buffer lie in the memory. -/
def Holds (m : Memory) (base : ℕ) (words : Array UInt16) : Prop :=
  ∀ i word, words[i]? = some word → m.lane (base + 2 * i) = word

def HoldsBytes (m : Memory) (base : ℕ) (bytes : Array UInt8) : Prop :=
  ∀ i byte, bytes[i]? = some byte → m (base + i) = byte

theorem Holds.setLane {base i : ℕ} {word : UInt16} {words : Array UInt16}
    (held : m.Holds base words) :
    (m.setLane (base + 2 * i) word).Holds base (words.setIfInBounds i word) := by
  intro j other found
  rw [Array.getElem?_setIfInBounds] at found
  split at found
  · rename_i here
    subst here
    split at found
    · cases found
      exact lane_setLane_same word
    · cases found
  · rename_i apart
    rw [lane, Memory.setLane, Memory.setLane, if_neg (by omega), if_neg (by omega),
      if_neg (by omega), if_neg (by omega)]
    exact held j other found

/-- What can be written to the buffer can be written to the memory, and nothing else changes. -/
theorem Holds.writeSpan {base first : ℕ} {words after : Array UInt16} (held : m.Holds base words)
    (written : Grid.writeSpan f first length words = some after) :
    ∃ next, m.writeSpan f (base + 2 * first) length = some next ∧ next.Holds base after ∧
      ∀ x, x < base + 2 * first ∨ base + 2 * first + 2 * length ≤ x → next x = m x := by
  induction length generalizing after with
  | zero =>
      cases written
      exact ⟨m, rfl, held, fun _ _ => rfl⟩
  | succ length ih =>
      simp only [Grid.writeSpan, Option.bind_eq_bind, Option.bind_eq_some_iff] at written
      obtain ⟨before, first', old, found, new, computed, same⟩ := written
      cases same
      obtain ⟨next, ran, kept, outside⟩ := ih first'
      have place : base + 2 * first + 2 * length = base + 2 * (first + length) := by omega
      refine ⟨next.setLane (base + 2 * (first + length)) new, ?_, kept.setLane, fun x apart => ?_⟩
      · rw [Memory.writeSpan, ran, Option.bind_eq_bind, Option.bind_some, place,
          kept _ _ found, computed]
        rfl
      · rw [Memory.setLane, if_neg (by omega), if_neg (by omega)]
        exact outside x (by omega)

/-! ## Rows -/

/-- The rows of a buffer of so many words at an address. -/
def rows (base origin stride size : ℕ) : Grid.Canvas UInt16 Memory where
  shade draw m := m.fill (fun i => draw (origin + i / stride) (i % stride)) base size
  shade_shade _ _ _ := fill_fill
  shade_of_id same := fill_same fun _ => same _ _

section Rows

variable {base origin stride size : ℕ} {draw : Grid.Drawing UInt16}

theorem shade_rows : (rows base origin stride size).shade draw m =
    m.fill (fun i => draw (origin + i / stride) (i % stride)) base size := rfl

/-- A word of the buffer, by its row and its column. -/
theorem lane_shade_row {y x : ℕ} (from' : origin ≤ y) (narrow : x < stride)
    (inside : (y - origin) * stride + x < size) :
    ((rows base origin stride size).shade draw m).lane
        (base + 2 * ((y - origin) * stride + x)) =
      draw y x (m.lane (base + 2 * ((y - origin) * stride + x))) := by
  obtain ⟨row, column⟩ := Grid.place_eq from' narrow
  rw [shade_rows, lane_fill_within inside, row, column]

/-- A span within one row. -/
theorem fill_row {y left right : ℕ} (above : origin ≤ y) (wide : right ≤ stride)
    (fits : (y - origin) * stride + right ≤ size) (ordered : left ≤ right)
    (drawn : ∀ k old, k < right - left → g k old = draw y (left + k) old) :
    fill g (base + 2 * ((y - origin) * stride + left)) (right - left) m =
      (rows base origin stride size).shade
        (Grid.restrict (Grid.block y (y + 1) left right) draw) m := by
  rw [fill_part (show (y - origin) * stride + left + (right - left) ≤ size by omega), shade_rows]
  apply fill_congr
  intro i short old
  rw [Grid.restrict_row above wide]
  by_cases inside : (y - origin) * stride + left ≤ i ∧ i < (y - origin) * stride + right
  · rw [if_pos inside, if_pos (by omega), drawn _ _ (by omega)]
    congr 1
    omega
  · rw [if_neg inside, if_neg (by omega)]

/-- Nothing but the buffer is drawn onto. -/
theorem eq_of_reached (reached : (rows base origin stride size).Reached m n) {x : ℕ}
    (outside : x < base ∨ base + 2 * size ≤ x) : n x = m x := by
  obtain ⟨draw, rfl⟩ := reached
  rw [shade_rows, fill_outside outside]

end Rows

/-- The words and the bytes that lie in a memory. -/
def words (m : Memory) (base count : ℕ) : Array UInt16 :=
  Array.ofFn fun i : Fin count => m.lane (base + 2 * i)

def bytes (m : Memory) (base count : ℕ) : Array UInt8 :=
  Array.ofFn fun i : Fin count => m (base + i)

@[simp]
theorem size_words (base count : ℕ) : (m.words base count).size = count := Array.size_ofFn

@[simp]
theorem size_bytes (base count : ℕ) : (m.bytes base count).size = count := Array.size_ofFn

theorem getElem?_words {base count i : ℕ} (inside : i < count) :
    (m.words base count)[i]? = some (m.lane (base + 2 * i)) := by
  rw [words, Array.getElem?_ofFn, dif_pos inside]

theorem holds_words (base count : ℕ) : m.Holds base (m.words base count) := by
  intro i word found
  obtain ⟨inside, here⟩ := Array.getElem?_eq_some_iff.mp found
  exact (Array.getElem_ofFn inside).symm.trans here

theorem holdsBytes_bytes (base count : ℕ) : m.HoldsBytes base (m.bytes base count) := by
  intro i byte found
  obtain ⟨inside, here⟩ := Array.getElem?_eq_some_iff.mp found
  exact (Array.getElem_ofFn inside).symm.trans here

end Memory

end Vectors
