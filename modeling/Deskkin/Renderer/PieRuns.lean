/-
# Runs of the vector routines

After some rounds of a routine so many words of the destination are rewritten, eight for each
round, and the rest of the memory is as it was. A round of each routine is shown to rewrite the
next eight words. The blocks that a routine reads must not have words that it writes.
-/

import Mathlib.Logic.Function.Iterate
import Deskkin.Renderer.PieRoutines

namespace Deskkin.Renderer

open Vectors Register Presentation

/-- What every round keeps holds after so many rounds. -/
theorem iterate_rule {σ : Type} {round : σ → σ} (invariant : ℕ → σ → Prop) {rounds : ℕ} {s : σ}
    (holds : invariant 0 s)
    (keeps : ∀ r s, r < rounds → invariant r s → invariant (r + 1) (round s)) :
    invariant rounds (round^[rounds] s) := by
  have upTo : ∀ r, r ≤ rounds → invariant r (round^[r] s) := by
    intro r
    induction r with
    | zero => exact fun _ => holds
    | succ r ih =>
        intro within
        rw [Function.iterate_succ_apply']
        exact keeps r _ within (ih (Nat.le_of_succ_le within))
  exact upTo rounds (Nat.le_refl _)

/-- No word that is written is in a block that has bytes from `first` to `last`. -/
def Untouched (first last dst length : ℕ) : Prop :=
  ∀ x, first / 16 ≤ x / 16 → x / 16 * 16 < last → x < dst ∨ dst + 2 * length ≤ x

namespace Untouched

variable {first last dst length n address : ℕ} {g : ℕ → UInt16 → UInt16} {m : Memory}

theorem byte (untouched : Untouched first last dst length) (fewer : n ≤ length)
    (lower : first / 16 ≤ address / 16) (upper : address / 16 * 16 < last) :
    m.fill g dst n address = m address := by
  have apart := untouched address lower upper
  exact Memory.fill_outside (by omega)

theorem block (untouched : Untouched first last dst length) (fewer : n ≤ length)
    (lower : first / 16 ≤ address / 16) (upper : address / 16 * 16 < last) :
    (m.fill g dst n).vld128 address = m.vld128 address := by
  apply Memory.vld128_fill
  intro x here
  have apart := untouched x (by omega) (by omega)
  omega

end Untouched

/-! ## Patterns -/

/-- **The pattern is repeated.** -/
theorem backgroundPie_eq {dst vectors : ℕ} {pattern : Register} {m : Memory}
    (aligned : dst % 16 = 0) : backgroundPie dst pattern vectors m =
      m.fill (fun k _ => pattern.lane (k % 8)) dst (8 * vectors) := by
  have run : (backgroundRound pattern)^[vectors] (dst, m) = (dst + 16 * vectors,
      m.fill (fun k _ => pattern.lane (k % 8)) dst (8 * vectors)) := by
    apply iterate_rule fun r s => s = (dst + 16 * r,
      m.fill (fun k _ => pattern.lane (k % 8)) dst (8 * r))
    · exact congrArg (Prod.mk dst) Memory.fill_zero.symm
    · rintro r _ short rfl
      rw [backgroundRound, Memory.vst128_fill aligned]
      · rfl
      · intro k inside
        rw [Nat.mul_add_mod, Nat.mod_eq_of_lt inside]
  rw [backgroundPie, run]

/-! ## Copies -/

/-- The color at a place, in the order of the destination. -/
def copied (m : Memory) (src : ℕ) (wire : Bool) (k : ℕ) (_ : UInt16) : UInt16 :=
  wireOrder wire (m.lane (src + 2 * k))

section Copies

variable {m : Memory} {dst src vectors : ℕ} {wire : Bool}

theorem copyAligned_run (aligned : dst % 16 = 0) (whole : src % 16 = 0)
    (untouched : Untouched src (src + 16 * vectors) dst (8 * vectors)) :
    (copyAligned wire)^[vectors] ⟨dst, src, m⟩ = ⟨dst + 16 * vectors, src + 16 * vectors,
      m.fill (copied m src wire) dst (8 * vectors)⟩ := by
  apply iterate_rule fun r s => s = Copying.mk (dst + 16 * r) (src + 16 * r)
    (m.fill (copied m src wire) dst (8 * r))
  · exact congrArg (Copying.mk dst src) Memory.fill_zero.symm
  · rintro r _ short rfl
    rw [copyAligned]
    dsimp only
    rw [untouched.block (by omega) (by omega) (by omega), Memory.vst128_fill aligned]
    · rw [Nat.mul_succ, Nat.mul_succ]
      rfl
    · intro k inside
      rw [lane_reorder wire _ inside, Memory.lane_vld128 (by omega) inside, copied]
      congr 2
      omega

theorem copyFunnel_run (aligned : dst % 16 = 0) (split : src % 16 ≠ 0)
    (untouched : Untouched src (src + 16 * vectors) dst (8 * vectors)) :
    (copyFunnel wire (src % 16))^[vectors] ⟨⟨dst, src + 16, m⟩, m.vld128 src⟩ =
      ⟨⟨dst + 16 * vectors, src + 16 * vectors + 16,
        m.fill (copied m src wire) dst (8 * vectors)⟩, m.vld128 (src + 16 * vectors)⟩ := by
  apply iterate_rule fun r s => s = Funneling.mk ⟨dst + 16 * r, src + 16 * r + 16,
    m.fill (copied m src wire) dst (8 * r)⟩ (m.vld128 (src + 16 * r))
  · exact congrArg (Funneling.mk ⟨dst, src + 16, ·⟩ _) Memory.fill_zero.symm
  · rintro r _ short rfl
    rw [copyFunnel]
    dsimp only
    rw [untouched.block (by omega) (by omega) (by omega), Memory.vst128_fill aligned]
    · rw [Nat.mul_succ, Nat.mul_succ]
      rfl
    · intro k inside
      have place : src % 16 = (src + 16 * r) % 16 := by omega
      rw [lane_reorder wire _ inside, place, Memory.lane_srcQ inside, copied]
      congr 2
      omega

/-- **Colors are copied.** -/
theorem copyPie_eq (aligned : dst % 16 = 0)
    (untouched : Untouched src (src + 16 * vectors) dst (8 * vectors)) :
    copyPie dst src vectors wire m = m.fill (copied m src wire) dst (8 * vectors) := by
  rw [copyPie]
  split
  · rename_i place
    rw [copyFunnel_run aligned place untouched]
  · rename_i place
    rw [copyAligned_run aligned (not_not.mp place) untouched]

end Copies

/-! ## Alpha values -/

/-- The color at a place onto what is there, by its alpha value. -/
def blendedAt (m : Memory) (src alpha : ℕ) (wire : Bool) (k : ℕ) (old : UInt16) : UInt16 :=
  compositeWith alphaPixel wire (m.lane (src + 2 * k)) (m (alpha + k)) old

/-- The bytes of a word without a bit, and of one with all bits. -/
theorem byte_of_word {q : Register} {i : ℕ} :
    (q.word (i / 4) = 0 → (q.byte i).toNat = 0) ∧
      (q.word (i / 4) = 2 ^ 32 - 1 → (q.byte i).toNat = 255) := by
  have lane := q.word_of_lane (i / 2)
  rw [show i / 2 / 2 = i / 4 by omega] at lane
  rw [byte_of_lane]
  split
  · rw [toNat_lowByte]
    split at lane <;> omega
  · rw [toNat_highByte]
    split at lane <;> omega

/-- None of the first eight bytes has a bit. -/
theorem none_set {q : Register} (none : moviToA q 0 ||| moviToA q 1 = 0) {i : ℕ}
    (inside : i < 8) : q.byte i = 0 := by
  obtain ⟨first, second⟩ := Nat.or_eq_zero_iff.mp none
  apply UInt8.toNat_inj.mp
  apply byte_of_word.1
  rcases (show i / 4 = 0 ∨ i / 4 = 1 by omega) with low | high
  · rw [low]
    exact first
  · rw [high]
    exact second

/-- All of the first eight bytes have all bits. -/
theorem all_set {q : Register} (all : ((moviToA q 0 &&& moviToA q 1) + 1) % 2 ^ 32 = 0) {i : ℕ}
    (inside : i < 8) : q.byte i = 255 := by
  have low := q.word_lt 0
  have high := q.word_lt 1
  have andLow : moviToA q 0 &&& moviToA q 1 ≤ q.word 0 := Nat.and_le_left
  have andHigh : moviToA q 0 &&& moviToA q 1 ≤ q.word 1 := Nat.and_le_right
  apply UInt8.toNat_inj.mp
  apply byte_of_word.2
  rcases (show i / 4 = 0 ∨ i / 4 = 1 by omega) with first | second
  · rw [first]
    omega
  · rw [second]
    omega

section Blends

variable {m : Memory} {dst src alpha vectors r : ℕ} {wire : Bool}

/-- Where the routine is after so many rounds. -/
structure Blended (m : Memory) (dst src alpha : ℕ) (wire : Bool) (r : ℕ) (s : Blending) : Prop where
  atDst : s.dst = dst + 16 * r
  atSrc : s.src = src + 16 * r
  atAlpha : s.alpha = alpha + 8 * r
  kept : s.fresh = false → src % 16 ≠ 0 ∧ s.q7 = m.vld128 (src + 16 * r)
  drawn : s.memory = m.fill (blendedAt m src alpha wire) dst (8 * r)

section Round

variable {s : Blending} (done : Blended m dst src alpha wire r s)
  (untouched : Untouched src (src + 16 * vectors) dst (8 * vectors))
  (values : Untouched alpha (alpha + 8 * vectors) dst (8 * vectors)) (short : r < vectors)

include done short

include values in
theorem byte_loadAlpha {i : ℕ} (inside : i < 8) :
    (loadAlpha (alpha % 8) s).byte i = m (alpha + (8 * r + i)) := by
  have still : s.memory (alpha + (8 * r + i)) = m (alpha + (8 * r + i)) := by
    rw [done.drawn]
    exact values.byte (by omega) (by omega) (by omega)
  rw [← still, loadAlpha, done.atAlpha]
  split
  · rw [Memory.vldL64, withLow, byte_ofBytes (by omega), if_pos inside]
    congr 1
    omega
  · rw [srcQ, byte_ofBytes (by omega), joined, if_pos (by omega), Memory.vldH64, withHigh,
      byte_ofBytes (by omega)]
    split
    · rw [Memory.vldL64, withLow, byte_ofBytes (by omega), if_pos (by omega)]
      congr 1
      omega
    · congr 1
      omega

include untouched in
theorem loadColors_eq : ∃ q0 q7 fresh, loadColors (src % 16) s = (q0, q7, fresh) ∧
    (∀ k, k < 8 → q0.lane k = m.lane (src + 2 * (8 * r + k))) ∧
    (fresh = false → src % 16 ≠ 0 ∧ q7 = m.vld128 (src + 16 * (r + 1))) := by
  have first : s.memory.vld128 (src + 16 * r) = m.vld128 (src + 16 * r) := by
    rw [done.drawn]
    exact untouched.block (by omega) (by omega) (by omega)
  rw [loadColors, done.atSrc]
  split
  · rename_i whole
    refine ⟨_, _, _, rfl, fun k inside => ?_, fun stale => ?_⟩
    · rw [first, Memory.lane_vld128 (by omega) inside]
      congr 1
      omega
    · exact absurd whole (done.kept stale).1
  · rename_i place
    have second : s.memory.vld128 (src + 16 * r + 16) = m.vld128 (src + 16 * r + 16) := by
      rw [done.drawn]
      exact untouched.block (by omega) (by omega) (by omega)
    have kept : (if s.fresh then s.memory.vld128 (src + 16 * r) else s.q7) =
        m.vld128 (src + 16 * r) := by
      split
      · exact first
      · rename_i stale
        exact (done.kept (Bool.not_eq_true _ ▸ stale)).2
    refine ⟨_, _, _, rfl, fun k inside => ?_, fun _ => ⟨place, second⟩⟩
    rw [kept, second, show src % 16 = (src + 16 * r) % 16 by omega, Memory.lane_srcQ inside]
    congr 1
    omega

include untouched values in
/-- A round blends the next eight words. -/
theorem Blended.round (aligned : dst % 16 = 0) :
    Blended m dst src alpha wire (r + 1) (alphaRound wire (src % 16) (alpha % 8) s) := by
  obtain ⟨q0, q7, fresh, loaded, colors, kept⟩ := loadColors_eq done untouched short
  have loads : ∀ i, i < 8 → (loadAlpha (alpha % 8) s).byte i = m (alpha + (8 * r + i)) :=
    fun i inside => byte_loadAlpha done values short inside
  obtain ⟨q2, isQ2⟩ : ∃ q2, loadAlpha (alpha % 8) s = q2 := ⟨_, rfl⟩
  rw [isQ2] at loads
  have advanced : s.dst + 16 = dst + 16 * (r + 1) ∧ s.src + 16 = src + 16 * (r + 1) ∧
      s.alpha + 8 = alpha + 8 * (r + 1) := by
    rw [done.atDst, done.atSrc, done.atAlpha]
    omega
  rw [alphaRound, isQ2]
  dsimp only
  split
  · rename_i none
    refine ⟨advanced.1, advanced.2.1, advanced.2.2, nofun, ?_⟩
    rw [done.drawn, Nat.mul_succ, Memory.fill_append]
    apply Memory.eq_fill (fun _ _ => rfl)
    intro k inside
    have clear := none_set none inside
    rw [loads k inside] at clear
    rw [blendedAt, clear, compositeWith, if_pos rfl]
  · rw [loaded]
    dsimp only
    refine ⟨advanced.1, advanced.2.1, advanced.2.2, kept, ?_⟩
    have there : (s.memory.vld128 s.dst) = m.vld128 (dst + 16 * r) := by
      rw [done.drawn, done.atDst]
      apply Memory.vld128_fill
      intro x here
      omega
    rw [there, done.drawn, done.atDst]
    apply Memory.vst128_fill aligned
    intro k inside
    have old : m.lane (dst + 2 * (8 * r + k)) = (m.vld128 (dst + 16 * r)).lane k := by
      rw [Memory.lane_vld128 (by omega) inside]
      congr 1
      omega
    rw [lane_reorder wire _ inside, blendedAt, old, ← colors k inside, ← loads k inside]
    split
    · rename_i all
      rw [all_set all inside, compositeWith, if_neg (by decide), if_pos rfl]
    · rw [lane_blendLanes inside (lane_widened q2 inside), compositeWith_alphaPixel]

end Round

/-- **Colors are blended by their alpha values**, whatever is in the registers at first. -/
theorem alphaPie_eq (q2 q7 : Register) (aligned : dst % 16 = 0)
    (untouched : Untouched src (src + 16 * vectors) dst (8 * vectors))
    (values : Untouched alpha (alpha + 8 * vectors) dst (8 * vectors)) :
    alphaPie q2 q7 dst src alpha vectors wire m =
      m.fill (blendedAt m src alpha wire) dst (8 * vectors) := by
  have begins : Blended m dst src alpha wire 0 ⟨dst, src, alpha, true, q2, q7, m⟩ :=
    ⟨rfl, rfl, rfl, nofun, Memory.fill_zero.symm⟩
  rw [alphaPie]
  exact (iterate_rule (Blended m dst src alpha wire) begins fun r s short done =>
    done.round untouched values short aligned).drawn

end Blends

/-! ## Columns -/

/-- Values of 16 bits fill the lanes. -/
theorem lane_gather {value : ℕ → ℕ} (small : ∀ k, value k < 65536) {k : ℕ} (inside : k < 8) :
    ((gather value).lane k).toNat = value k := by
  obtain ⟨pair, isPair⟩ : ∃ pair : ℕ → ℕ,
      (fun j => value (2 * j) ||| value (2 * j + 1) <<< 16) = pair := ⟨_, rfl⟩
  have placed : ∀ j, pair j = value (2 * j) + value (2 * j + 1) * 65536 := by
    intro j
    rw [← isPair]
    dsimp only
    rw [Nat.or_comm, ← Nat.shiftLeft_add_eq_or_of_lt (small _), Nat.shiftLeft_eq, Nat.add_comm]
  have words : ∀ j, j < 4 → (gather value).word j = pair j % 2 ^ 32 := by
    intro j within
    have gathered : gather value = moviToQ (moviToQ (moviToQ (moviToQ zeroQ (pair 0) 0) (pair 1) 1)
        (pair 2) 2) (pair 3) 3 := by
      rw [gather, ← isPair]
    rw [gathered, word_moviToQ within, word_moviToQ within, word_moviToQ within,
      word_moviToQ within]
    rcases (show j = 3 ∨ j = 2 ∨ j = 1 ∨ j = 0 by omega) with rfl | rfl | rfl | rfl <;> rfl
  have low := small (2 * (k / 2))
  have high := small (2 * (k / 2) + 1)
  rw [word_of_lane, words _ (by omega), placed]
  split
  · rw [show 2 * (k / 2) = k by omega] at low ⊢
    omega
  · rw [show 2 * (k / 2) + 1 = k by omega] at high ⊢
    omega

/-- The color of a column onto what is there, with its alpha value where there are any. -/
def sampled (m : Memory) (colors columns alpha : ℕ) (wire : Bool) (k : ℕ) (old : UInt16) : UInt16 :=
  let color := m.lane (colors + 2 * columnPlace m columns k)
  if alpha = 0 then wireOrder wire color
  else compositeWith alphaPixel wire color (m (alpha + columnPlace m columns k)) old

/-- Nothing that is read for the columns is written. -/
structure ColumnsUntouched (m : Memory) (dst colors columns alpha length : ℕ) : Prop where
  column : ∀ k, k < length →
    columns + 4 * k + 2 ≤ dst ∨ dst + 2 * length ≤ columns + 4 * k
  color : ∀ k, k < length → colors + 2 * columnPlace m columns k + 2 ≤ dst ∨
    dst + 2 * length ≤ colors + 2 * columnPlace m columns k
  value : alpha ≠ 0 → ∀ k, k < length → alpha + columnPlace m columns k < dst ∨
    dst + 2 * length ≤ alpha + columnPlace m columns k

section Samples

variable {m : Memory} {dst colors columns alpha vectors : ℕ} {wire : Bool}

/-- **Colors are sampled by their columns.** -/
theorem sampleNearestPie_eq (aligned : dst % 16 = 0)
    (untouched : ColumnsUntouched m dst colors columns alpha (8 * vectors)) :
    sampleNearestPie dst colors columns alpha vectors wire m =
      m.fill (sampled m colors columns alpha wire) dst (8 * vectors) := by
  have run : (sampleRound wire colors alpha)^[vectors] ⟨dst, columns, m⟩ =
      ⟨dst + 16 * vectors, columns + 32 * vectors,
        m.fill (sampled m colors columns alpha wire) dst (8 * vectors)⟩ := by
    apply iterate_rule fun r s => s = Gathering.mk (dst + 16 * r) (columns + 32 * r)
      (m.fill (sampled m colors columns alpha wire) dst (8 * r))
    · exact congrArg (Gathering.mk dst columns) Memory.fill_zero.symm
    · rintro r _ short rfl
      obtain ⟨now, isNow⟩ : ∃ now,
          m.fill (sampled m colors columns alpha wire) dst (8 * r) = now := ⟨_, rfl⟩
      have column : ∀ k, k < 8 →
          columnPlace now (columns + 32 * r) k = columnPlace m columns (8 * r + k) := by
        intro k inside
        have apart := untouched.column (8 * r + k) (by omega)
        rw [columnPlace, columnPlace, ← isNow,
          show columns + 32 * r + 4 * k = columns + 4 * (8 * r + k) by omega,
          Memory.lane_fill_outside (by omega)]
      have color : ∀ k, k < 8 → (gatherColors now colors (columns + 32 * r)).lane k =
          m.lane (colors + 2 * columnPlace m columns (8 * r + k)) := by
        intro k inside
        have apart := untouched.color (8 * r + k) (by omega)
        apply UInt16.toNat_inj.mp
        rw [gatherColors, lane_gather (fun _ => UInt16.toNat_lt _) inside, column k inside,
          ← isNow, Memory.lane_fill_outside (by omega)]
      rw [sampleRound]
      dsimp only
      rw [Memory.vst128_fill aligned]
      · rw [Nat.mul_succ, Nat.mul_succ]
        rfl
      · intro k inside
        rw [isNow, lane_reorder wire _ inside, sampled]
        split
        · rw [color k inside]
        · rename_i some'
          have apart := untouched.value some' (8 * r + k) (by omega)
          have value : ((gatherAlpha now alpha (columns + 32 * r)).lane k).toNat =
              (m (alpha + columnPlace m columns (8 * r + k))).toNat := by
            rw [gatherAlpha, lane_gather (fun _ => (UInt8.toNat_lt _).trans (by decide)) inside,
              column k inside, ← isNow, Memory.fill_outside (by omega)]
          have old : (now.vld128 (dst + 16 * r)).lane k = m.lane (dst + 2 * (8 * r + k)) := by
            rw [Memory.lane_vld128 (by omega) inside, ← isNow,
              show dst + 16 * r + 2 * k = dst + 2 * (8 * r + k) by omega,
              Memory.lane_fill_outside (by omega)]
          rw [lane_blendLanes inside value, old, color k inside, compositeWith_alphaPixel]
  rw [sampleNearestPie, run]

end Samples

/-! ## Bits of coverage -/

/-- A bit of coverage, counted from a byte on. -/
def covered (m : Memory) (bits place : ℕ) : Bool :=
  (m (bits + place / 8)).toNat.testBit (place % 8)

/-- The color at a place where its bit is set. -/
def cut (m : Memory) (src bits phase : ℕ) (wire : Bool) (k : ℕ) (old : UInt16) : UInt16 :=
  if covered m bits (phase + k) then wireOrder wire (m.lane (src + 2 * k)) else old

/-- The masks have all bits of the lanes whose bit is set. -/
theorem cutoutPieMasks_eq : ∀ row : Fin 16, ∀ k : Fin 4,
    (cutoutPieMasks.get row).get k = if row.val.testBit k then 0xffff else 0 := by
  decide

theorem laneOf_cutoutMask {row k : ℕ} (inside : k < 4) :
    laneOf (cutoutMask row (2 * k)) (cutoutMask row (2 * k + 1)) =
      if (row % 2 ^ 4).testBit k then 0xffff else 0 := by
  have entry := cutoutPieMasks_eq (sixteenth row) (fourth k)
  rw [cutoutMask, cutoutMask, if_pos (by omega), if_neg (by omega),
    show 2 * k / 2 = k by omega, show (2 * k + 1) / 2 = k by omega, laneOf_bytes, entry,
    show (fourth k).val = k from Nat.mod_eq_of_lt inside]
  rfl

theorem lane_cutoutMask {bits k : ℕ} (inside : k < 8) :
    ((zeroQ.withLow (cutoutMask (bits % 2 ^ 4))).withHigh
      (cutoutMask ((bits >>> 4) % 2 ^ 4))).lane k = if bits.testBit k then 0xffff else 0 := by
  rw [lane_withHigh inside]
  split
  · rename_i low
    rw [laneOf_cutoutMask low, Nat.mod_mod, Nat.testBit_mod_two_pow, decide_eq_true low,
      Bool.true_and]
  · rename_i high
    have within : k - 4 < 4 := by omega
    rw [laneOf_cutoutMask within, Nat.mod_mod, Nat.testBit_mod_two_pow, decide_eq_true within,
      Bool.true_and, Nat.testBit_shiftRight, Nat.add_sub_cancel' (by omega)]

/-- What a mask selects. -/
theorem select_eq (set : Bool) (a b : UInt16) :
    (((a ^^^ b) &&& if set then 0xffff else 0) ^^^ b) = if set then a else b := by
  cases set with
  | true =>
      show ((a ^^^ b) &&& -1) ^^^ b = a
      rw [UInt16.and_neg_one, UInt16.xor_assoc, UInt16.xor_self, UInt16.xor_zero]
  | false =>
      show ((a ^^^ b) &&& 0) ^^^ b = b
      rw [UInt16.and_zero, UInt16.zero_xor]

section Cuts

variable {m : Memory} {dst src bits phase vectors r : ℕ} {wire : Bool}

/-- Eight bits from any bit of a byte on. -/
theorem testBit_loadBits {s : Cutting} (narrow : phase < 8) {k : ℕ} (inside : k < 8) :
    (loadBits phase s).testBit k = covered s.memory s.bits (phase + k) := by
  have small := (s.memory s.bits).toNat_lt
  rw [loadBits, covered]
  split
  · rename_i whole
    rw [whole, Nat.zero_add, Nat.mod_eq_of_lt inside, Nat.div_eq_of_lt inside, Nat.add_zero]
  · rw [Nat.testBit_mod_two_pow, decide_eq_true inside, Bool.true_and, Nat.testBit_shiftRight,
      Nat.testBit_or, Nat.testBit_shiftLeft]
    by_cases first : phase + k < 8
    · rw [decide_eq_false (by omega), Bool.false_and, Bool.or_false, Nat.div_eq_of_lt first,
        Nat.mod_eq_of_lt first, Nat.add_zero]
    · rw [decide_eq_true (by omega), Bool.true_and,
        Nat.testBit_lt_two_pow (Nat.lt_of_lt_of_le small (Nat.pow_le_pow_right (by decide)
          (by omega))), Bool.false_or, show (phase + k) / 8 = 1 by omega,
        show (phase + k) % 8 = phase + k - 8 by omega]

/-- Where the routine is after so many rounds. -/
structure CutOut (m : Memory) (dst src bits phase : ℕ) (wire : Bool) (r : ℕ) (s : Cutting) :
    Prop where
  atDst : s.dst = dst + 16 * r
  atSrc : s.src = src + 16 * r
  atBits : s.bits = bits + r
  drawn : s.memory = m.fill (cut m src bits phase wire) dst (8 * r)

/-- No byte with one of the bits is written. -/
def BitsUntouched (bits phase dst length : ℕ) : Prop :=
  ∀ k, k < length → bits + (phase + k) / 8 < dst ∨ dst + 2 * length ≤ bits + (phase + k) / 8

section Round

variable {s : Cutting} (done : CutOut m dst src bits phase wire r s)
  (untouched : Untouched src (src + 16 * vectors) dst (8 * vectors))
  (bytes : BitsUntouched bits phase dst (8 * vectors)) (narrow : phase < 8) (short : r < vectors)

include done short

include bytes narrow in
theorem testBit_loadBits_eq {k : ℕ} (inside : k < 8) :
    (loadBits phase s).testBit k = covered m bits (phase + (8 * r + k)) := by
  have apart := bytes (8 * r + k) (by omega)
  rw [testBit_loadBits narrow inside, covered, covered, done.drawn, done.atBits,
    Memory.fill_outside (by omega),
    show bits + r + (phase + k) / 8 = bits + (phase + (8 * r + k)) / 8 by omega,
    show (phase + k) % 8 = (phase + (8 * r + k)) % 8 by omega]

include untouched in
theorem lane_cutColors {k : ℕ} (inside : k < 8) :
    (cutColors (src % 16) s).lane k = m.lane (src + 2 * (8 * r + k)) := by
  have first : s.memory.vld128 (src + 16 * r) = m.vld128 (src + 16 * r) := by
    rw [done.drawn]
    exact untouched.block (by omega) (by omega) (by omega)
  rw [cutColors, done.atSrc, first]
  split
  · rw [Memory.lane_vld128 (by omega) inside]
    congr 1
    omega
  · have second : s.memory.vld128 (src + 16 * r + 16) = m.vld128 (src + 16 * r + 16) := by
      rw [done.drawn]
      exact untouched.block (by omega) (by omega) (by omega)
    rw [second, show src % 16 = (src + 16 * r) % 16 by omega, Memory.lane_srcQ inside]
    congr 1
    omega

include untouched bytes narrow in
/-- A round draws the next eight words. -/
theorem CutOut.round (aligned : dst % 16 = 0) :
    CutOut m dst src bits phase wire (r + 1) (cutoutRound wire (src % 16) phase s) := by
  have colors : ∀ k, k < 8 → (reorder wire (cutColors (src % 16) s)).lane k =
      wireOrder wire (m.lane (src + 2 * (8 * r + k))) := by
    intro k inside
    rw [lane_reorder wire _ inside, lane_cutColors done untouched short inside]
  have set : ∀ k, k < 8 → (loadBits phase s).testBit k = covered m bits (phase + (8 * r + k)) :=
    fun k inside => testBit_loadBits_eq done bytes narrow short inside
  have advanced : s.dst + 16 = dst + 16 * (r + 1) ∧ s.src + 16 = src + 16 * (r + 1) ∧
      s.bits + 1 = bits + (r + 1) := by
    rw [done.atDst, done.atSrc, done.atBits]
    omega
  obtain ⟨bits', isBits⟩ : ∃ bits', loadBits phase s = bits' := ⟨_, rfl⟩
  rw [isBits] at set
  rw [cutoutRound, isBits]
  refine ⟨advanced.1, advanced.2.1, advanced.2.2, ?_⟩
  dsimp only
  rw [done.drawn, done.atDst]
  split
  · rename_i none
    rw [Nat.mul_succ, Memory.fill_append]
    apply Memory.eq_fill (fun _ _ => rfl)
    intro k inside
    have clear := set k inside
    rw [none, Nat.zero_testBit] at clear
    rw [cut, ← clear, if_neg Bool.false_ne_true]
  · apply Memory.vst128_fill aligned
    intro k inside
    rw [cut, ← set k inside, ← colors k inside]
    split
    · rename_i all
      have full : bits'.testBit k = true := by
        rw [all, show 255 = 2 ^ 8 - 1 from rfl, Nat.testBit_two_pow_sub_one]
        exact decide_eq_true inside
      rw [if_pos full]
    · have old : ((m.fill (cut m src bits phase wire) dst (8 * r)).vld128 (dst + 16 * r)).lane k =
          m.lane (dst + 2 * (8 * r + k)) := by
        rw [Memory.lane_vld128 (by omega) inside,
          show dst + 16 * r + 2 * k = dst + 2 * (8 * r + k) by omega,
          Memory.lane_fill_outside (by omega)]
      rw [lane_xorq inside, lane_andq inside, lane_xorq inside, lane_cutoutMask inside, old,
        select_eq]

end Round

/-- **Colors are drawn where their bit is set.** -/
theorem cutoutPie_eq {options : ℕ} (aligned : dst % 16 = 0) (isWire : (options % 2 == 1) = wire)
    (isPhase : options / 2 ^ 8 % 2 ^ 3 = phase)
    (untouched : Untouched src (src + 16 * vectors) dst (8 * vectors))
    (bytes : BitsUntouched bits phase dst (8 * vectors)) :
    cutoutPie dst src bits vectors options m =
      m.fill (cut m src bits phase wire) dst (8 * vectors) := by
  have begins : CutOut m dst src bits phase wire 0 ⟨dst, src, bits, m⟩ :=
    ⟨rfl, rfl, rfl, Memory.fill_zero.symm⟩
  rw [cutoutPie, isWire, isPhase]
  exact (iterate_rule (CutOut m dst src bits phase wire) begins fun r s short done =>
    done.round untouched bytes (by omega) short aligned).drawn

end Cuts

end Deskkin.Renderer
