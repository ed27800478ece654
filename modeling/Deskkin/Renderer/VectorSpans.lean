/-
# Spans for vector instructions

The renderer draws most of a span eight pixels at a time. The instructions write blocks of
sixteen bytes that are aligned, and they read every aligned block that has bytes of the span,
so such a block must not reach beyond the memory behind the texture. Up to the first good
place, and from the last one on, pixels are drawn one by one.

Addresses are natural numbers up to a greatest one; a sum beyond it is a panic, which is
`none`.
-/

import Deskkin.Lib.Checked
import Deskkin.Lib.Loops

namespace Deskkin.Renderer

open Loops

/-- `div_ceil(16) * 16`. -/
def roundUp (greatest address : ℕ) : Option ℕ :=
  Checked.mul greatest (if 0 < address % 16 then address / 16 + 1 else address / 16) 16

/-- Eight pixels come first where a block would start before the colors. -/
def skipPhase (greatest first phase len lead : ℕ) : Option ℕ :=
  if first < phase then (Checked.add greatest lead 8).map (min · len) else some lead

section Spans

variable (greatest dst source sourceLen : ℕ)

def vectorSpan (start len : ℕ) : Option (ℕ × ℕ) := do
  let lead := min (((16 - (dst &&& 15)) &&& 15) / 2) len
  let bytes ← Checked.mul greatest sourceLen 2
  if (source ||| bytes) &&& 15 = 0 then
    let rest ← Checked.sub len lead
    return (lead, rest / 8 * 8)
  else
    let first ← Checked.add greatest start lead
    let offset ← Checked.mul greatest first 2
    let address ← Checked.add greatest source offset
    let phase := (address &&& 15) / 2
    let lead ← skipPhase greatest first phase len lead
    let extra := if phase = 0 then 0 else 8 - phase
    let first ← Checked.add greatest start lead
    let upTo ← Checked.add greatest first extra
    let rest ← Checked.sub len lead
    return (lead, min rest (sourceLen - upTo) / 8 * 8)

variable (alpha alphaLen start len : ℕ)

/-- Eight pixels more come first while the block of the first alpha value starts too early. -/
def skipAlpha (lead : ℕ) : Option (Step ℕ) :=
  if lead < len then do
    let first ← Checked.add greatest alpha start
    let address ← Checked.add greatest first lead
    if address / 16 * 16 < alpha then
      let next ← Checked.add greatest lead 8
      return .next (min next len)
    else return .stop lead
  else some (.stop lead)

/-- The last block of the colors or of the alpha values ends too late. -/
def endsLate (lead bulk : ℕ) : Option Bool := do
  let first ← Checked.add greatest start lead
  let last ← Checked.add greatest first bulk
  let offset ← Checked.mul greatest last 2
  let address ← Checked.add greatest source offset
  let colorsEnd ← roundUp greatest address
  let bytes ← Checked.mul greatest sourceLen 2
  let sourceEnd ← Checked.add greatest source bytes
  if sourceEnd < colorsEnd then return true
  else
    let first ← Checked.add greatest alpha start
    let second ← Checked.add greatest first lead
    let address ← Checked.add greatest second bulk
    let valuesEnd ← roundUp greatest address
    let alphaEnd ← Checked.add greatest alpha alphaLen
    return decide (alphaEnd < valuesEnd)

/-- Eight pixels come off while a last block ends too late. -/
def trimBulk (lead bulk : ℕ) : Option (Step ℕ) :=
  if 0 < bulk then do
    let late ← endsLate greatest source sourceLen alpha alphaLen start lead bulk
    if late then
      let less ← Checked.sub bulk 8
      return .next less
    else return .stop bulk
  else some (.stop bulk)

def alphaSpan : Option (ℕ × ℕ) := do
  let bytes ← Checked.mul greatest sourceLen 2
  if (source ||| bytes ||| alpha ||| alphaLen) &&& 15 = 0 then
    let lead := min (((16 - (dst &&& 15)) &&& 15) / 2) len
    let rest ← Checked.sub len lead
    return (lead, rest / 8 * 8)
  else
    let (lead, _) ← vectorSpan greatest dst source sourceLen start len
    let lead ← loop (skipAlpha greatest alpha start len) (len + 1) lead
    let rest ← Checked.sub len lead
    let bulk ← loop (trimBulk greatest source sourceLen alpha alphaLen start lead)
      (len + 1) (rest / 8 * 8)
    return (lead, bulk)

end Spans

/-! ## Aligned blocks -/

/-- Every aligned block of sixteen bytes that has one of the bytes from `first` to `last` lies
in memory of so many bytes at `base`. -/
def BlocksWithin (base bytes first last : ℕ) : Prop :=
  ∀ k address, first ≤ address → address < last → address / 16 = k →
    base ≤ k * 16 ∧ (k + 1) * 16 ≤ base + bytes

/-- It is enough for the first block to start in the memory and for the last to end there. -/
theorem blocksWithin_of_ends {base bytes first last : ℕ} (low : base ≤ first / 16 * 16)
    (high : (last + 15) / 16 * 16 ≤ base + bytes) : BlocksWithin base bytes first last := by
  rintro k address from' before rfl
  omega

theorem and_fifteen (a : ℕ) : a &&& 15 = a % 16 := by
  rw [show 15 = 2 ^ 4 - 1 from rfl, Nat.and_two_pow_sub_one_eq_mod]

theorem or_mod_sixteen {a b : ℕ} : (a ||| b) % 16 = 0 ↔ a % 16 = 0 ∧ b % 16 = 0 := by
  rw [show 16 = 2 ^ 4 from rfl, Nat.or_mod_two_pow, Nat.or_eq_zero_iff]

theorem roundUp_eq {greatest address : ℕ} (fits : (address + 15) / 16 * 16 ≤ greatest) :
    roundUp greatest address = some ((address + 15) / 16 * 16) := by
  have quotient : (if 0 < address % 16 then address / 16 + 1 else address / 16) =
      (address + 15) / 16 := by
    split <;> omega
  rw [roundUp, quotient, Checked.mul_of_le fits]

/-! ## Where spans begin and end -/

/-- A good place to begin: the destination is aligned, and the first block of the colors starts
in their memory. -/
structure LeadFits (dst source start len lead : ℕ) : Prop where
  upTo : lead ≤ len
  aligned : lead < len → (dst + 2 * lead) % 16 = 0
  low : lead < len → source ≤ (source + 2 * (start + lead)) / 16 * 16

section Proofs

variable {greatest dst source sourceLen alpha alphaLen start len lead bulk : ℕ}

/-- Eight pixels are one block of the destination and of the colors. -/
theorem LeadFits.skip (fits : LeadFits dst source start len lead) :
    LeadFits dst source start len (min (lead + 8) len) := by
  refine ⟨Nat.min_le_right _ _, fun short => ?_, fun short => ?_⟩
  · have aligned := fits.aligned (by omega)
    omega
  · have low := fits.low (by omega)
    omega

/-- A span that is drawn in blocks. -/
structure SpanFits (dst source sourceLen start len : ℕ) (span : ℕ × ℕ) : Prop where
  lead : LeadFits dst source start len span.1
  upTo : span.1 + span.2 ≤ len
  eights : span.2 % 8 = 0
  high : 0 < span.2 →
    (source + 2 * (start + span.1 + span.2) + 15) / 16 * 16 ≤ source + 2 * sourceLen

/-- The first pixel of an aligned block of the destination, or the end of the span. -/
theorem lead_aligned (len : ℕ) (even : dst % 2 = 0) : ∃ lead, lead ≤ len ∧
    (lead < len → (dst + 2 * lead) % 16 = 0) ∧
      min (((16 - (dst &&& 15)) &&& 15) / 2) len = lead := by
  refine ⟨_, Nat.min_le_right _ _, fun short => ?_, rfl⟩
  rw [and_fifteen, and_fifteen] at short ⊢
  omega

/-- Where the backing is whole blocks, so are the blocks of any span. -/
theorem SpanFits.of_aligned (inSource : start + len ≤ sourceLen) (upTo : lead ≤ len)
    (aligned : lead < len → (dst + 2 * lead) % 16 = 0) (begins : source % 16 = 0)
    (ends : sourceLen * 2 % 16 = 0) :
    SpanFits dst source sourceLen start len (lead, (len - lead) / 8 * 8) := by
  refine ⟨⟨upTo, aligned, fun _ => ?_⟩, ?_, ?_, fun _ => ?_⟩ <;> dsimp only <;> omega

/-- **Where a span of colors is drawn in blocks.** -/
theorem vectorSpan_fits (room : 15 ≤ greatest) (evenDst : dst % 2 = 0) (evenSource : source % 2 = 0)
    (backing : source + 2 * sourceLen ≤ greatest) (inSource : start + len ≤ sourceLen) :
    Ensures (vectorSpan greatest dst source sourceLen start len)
      (SpanFits dst source sourceLen start len) := by
  obtain ⟨lead, upTo, aligned, leadIs⟩ := lead_aligned len evenDst
  rw [vectorSpan, leadIs]
  dsimp only
  apply Ensures.step (Checked.mul_of_le (by omega))
  by_cases whole : (source ||| sourceLen * 2) &&& 15 = 0
  · rw [if_pos whole]
    rw [and_fifteen, or_mod_sixteen] at whole
    apply Ensures.step (Checked.sub_of_le upTo)
    exact .value (.of_aligned inSource upTo aligned whole.1 whole.2)
  · rw [if_neg whole]
    apply Ensures.step (Checked.add_of_le (by omega))
    apply Ensures.step (Checked.mul_of_le (by omega))
    apply Ensures.step (Checked.add_of_le (by omega))
    obtain ⟨phase, phaseIs⟩ : ∃ phase, (source + (start + lead) * 2) % 16 / 2 = phase := ⟨_, rfl⟩
    rw [and_fifteen, phaseIs]
    have skipped : Ensures (skipPhase greatest (start + lead) phase len lead) fun next =>
        next ≤ len ∧
          (next < len → (next = lead ∧ phase ≤ start + lead) ∨ next = lead + 8) := by
      rw [skipPhase]
      split
      · rw [Checked.add_of_le (by omega), Option.map_some]
        refine .value ⟨Nat.min_le_right _ _, fun short => Or.inr ?_⟩
        omega
      · exact .value ⟨upTo, fun _ => Or.inl ⟨rfl, by omega⟩⟩
    apply skipped.bind
    rintro next ⟨within, place⟩
    apply Ensures.step (Checked.add_of_le (by omega))
    apply Ensures.step (Checked.add_of_le (by split <;> omega))
    apply Ensures.step (Checked.sub_of_le within)
    refine .value ⟨⟨within, fun short => ?_, fun short => ?_⟩, ?_, ?_, fun some => ?_⟩
    · have here := aligned (by have := place short; omega)
      have := place short
      omega
    · have := place short
      omega
    · dsimp only
      omega
    · dsimp only
      omega
    · dsimp only at some ⊢
      have placed := place (by omega)
      obtain ⟨block, begins⟩ : ∃ block, source + 2 * (start + next) = 16 * block + 2 * phase :=
        ⟨(source + 2 * (start + next)) / 16, by omega⟩
      obtain ⟨eights, bulkIs⟩ : ∃ eights, min (len - next) (sourceLen - (start + next +
          if phase = 0 then 0 else 8 - phase)) / 8 * 8 = 8 * eights := ⟨_, Nat.mul_comm _ _⟩
      have available : 8 * eights ≤ sourceLen - (start + next +
          if phase = 0 then 0 else 8 - phase) := by omega
      rw [bulkIs] at some ⊢
      split at available <;> omega

/-- What begins well for the alpha values too. -/
def AlphaLow (alpha start len lead : ℕ) : Prop :=
  lead < len → alpha ≤ (alpha + start + lead) / 16 * 16

/-- Every round skips at least one pixel. -/
theorem skipAlpha_fits (room : 15 ≤ greatest) (colors : 2 * sourceLen ≤ greatest)
    (values : alpha + alphaLen ≤ greatest) (inSource : start + len ≤ sourceLen)
    (inAlpha : start + len ≤ alphaLen) (fits : LeadFits dst source start len lead) :
    Ensures (loop (skipAlpha greatest alpha start len) (len + 1) lead) fun next =>
      LeadFits dst source start len next ∧ AlphaLow alpha start len next := by
  apply loop_rule (LeadFits dst source start len) (len - ·) _ fits (by omega)
  intro lead fits
  have upTo := fits.upTo
  rw [skipAlpha]
  split
  · apply Ensures.step (Checked.add_of_le (by omega))
    apply Ensures.step (Checked.add_of_le (by omega))
    split
    · apply Ensures.step (Checked.add_of_le (by omega))
      exact .value ⟨fits.skip, by omega⟩
    · exact .value ⟨fits, fun _ => by omega⟩
  · exact .value ⟨fits, fun short => by omega⟩

/-- The blocks of the last colors and of the last alpha values end in their memory. -/
def EndsWithin (source sourceLen alpha alphaLen start lead bulk : ℕ) : Prop :=
  (source + 2 * (start + lead + bulk) + 15) / 16 * 16 ≤ source + 2 * sourceLen ∧
    (alpha + start + lead + bulk + 15) / 16 * 16 ≤ alpha + alphaLen

theorem endsLate_iff (colors : source + 2 * sourceLen + 15 ≤ greatest)
    (values : alpha + alphaLen + 15 ≤ greatest) (inSource : start + len ≤ sourceLen)
    (inAlpha : start + len ≤ alphaLen) (upTo : lead + bulk ≤ len) :
    Ensures (endsLate greatest source sourceLen alpha alphaLen start lead bulk) fun late =>
      late = false ↔ EndsWithin source sourceLen alpha alphaLen start lead bulk := by
  rw [endsLate]
  apply Ensures.step (Checked.add_of_le (by omega))
  apply Ensures.step (Checked.add_of_le (by omega))
  apply Ensures.step (Checked.mul_of_le (by omega))
  apply Ensures.step (Checked.add_of_le (by omega))
  apply Ensures.step (roundUp_eq (by omega))
  apply Ensures.step (Checked.mul_of_le (by omega))
  apply Ensures.step (Checked.add_of_le (by omega))
  rw [Nat.mul_comm sourceLen, Nat.mul_comm (start + lead + bulk)]
  split
  · refine .value ⟨fun absurdity => (nomatch absurdity), fun within => ?_⟩
    have := within.1
    omega
  · apply Ensures.step (Checked.add_of_le (by omega))
    apply Ensures.step (Checked.add_of_le (by omega))
    apply Ensures.step (Checked.add_of_le (by omega))
    apply Ensures.step (roundUp_eq (by omega))
    apply Ensures.step (Checked.add_of_le (by omega))
    refine .value ?_
    rw [decide_eq_false_iff_not, EndsWithin]
    omega

/-- Every round that goes on takes eight pixels off. -/
theorem trimBulk_fits (colors : source + 2 * sourceLen + 15 ≤ greatest)
    (values : alpha + alphaLen + 15 ≤ greatest) (inSource : start + len ≤ sourceLen)
    (inAlpha : start + len ≤ alphaLen) (upTo : lead + bulk ≤ len) (eights : bulk % 8 = 0) :
    Ensures (loop (trimBulk greatest source sourceLen alpha alphaLen start lead) (len + 1) bulk)
      fun kept => (lead + kept ≤ len ∧ kept % 8 = 0) ∧
        (0 < kept → EndsWithin source sourceLen alpha alphaLen start lead kept) := by
  apply loop_rule (fun bulk => lead + bulk ≤ len ∧ bulk % 8 = 0) id _ ⟨upTo, eights⟩
    (show bulk < len + 1 by omega)
  rintro bulk ⟨upTo, eights⟩
  rw [trimBulk]
  split
  · obtain ⟨late, asked, meaning⟩ := endsLate_iff colors values inSource inAlpha upTo
    apply Ensures.step asked
    cases late with
    | true =>
        apply Ensures.step (Checked.sub_of_le (by omega))
        exact .value ⟨⟨by omega, by omega⟩, show bulk - 8 < bulk by omega⟩
    | false => exact .value ⟨⟨upTo, eights⟩, fun _ => meaning.mp rfl⟩
  · exact .value ⟨⟨upTo, eights⟩, fun some => by omega⟩

/-- **Where a span with alpha values is drawn in blocks.** -/
theorem alphaSpan_fits (room : 15 ≤ greatest) (evenDst : dst % 2 = 0) (evenSource : source % 2 = 0)
    (colors : source + 2 * sourceLen + 15 ≤ greatest)
    (values : alpha + alphaLen + 15 ≤ greatest) (inSource : start + len ≤ sourceLen)
    (inAlpha : start + len ≤ alphaLen) :
    Ensures (alphaSpan greatest dst source sourceLen alpha alphaLen start len) fun span =>
      SpanFits dst source sourceLen start len span ∧
        (0 < span.2 → AlphaLow alpha start len span.1 ∧
          (alpha + start + span.1 + span.2 + 15) / 16 * 16 ≤ alpha + alphaLen) := by
  rw [alphaSpan]
  apply Ensures.step (Checked.mul_of_le (by omega))
  by_cases whole : (source ||| sourceLen * 2 ||| alpha ||| alphaLen) &&& 15 = 0
  · rw [if_pos whole]
    rw [and_fifteen, or_mod_sixteen, or_mod_sixteen, or_mod_sixteen] at whole
    obtain ⟨⟨⟨begins, ends⟩, alphaBegins⟩, alphaEnds⟩ := whole
    obtain ⟨lead, upTo, aligned, leadIs⟩ := lead_aligned len evenDst
    rw [leadIs]
    dsimp only
    apply Ensures.step (Checked.sub_of_le upTo)
    refine .value ⟨.of_aligned inSource upTo aligned begins ends, fun _ => ⟨fun _ => ?_, ?_⟩⟩
    · omega
    · dsimp only
      omega
  · rw [if_neg whole]
    apply (vectorSpan_fits room evenDst evenSource (by omega) inSource).bind
    rintro ⟨first, _⟩ colorsFit
    apply (skipAlpha_fits room (by omega) (by omega) inSource inAlpha colorsFit.lead).bind
    rintro lead ⟨leadFits, low⟩
    have upTo := leadFits.upTo
    apply Ensures.step (Checked.sub_of_le upTo)
    apply (trimBulk_fits colors values inSource inAlpha (by omega) (by omega)).bind
    rintro bulk ⟨⟨within, eights⟩, ends⟩
    exact .value ⟨⟨leadFits, within, eights, fun some => (ends some).1⟩,
      fun some => ⟨low, (ends some).2⟩⟩

/-- What a span may do with its memory: its pixels are within it, it writes aligned blocks, and
all blocks that it reads lie in the memory of the colors. -/
structure SpanWithin (dst source sourceLen start len : ℕ) (span : ℕ × ℕ) : Prop where
  upTo : span.1 + span.2 ≤ len
  eights : span.2 % 8 = 0
  aligned : 0 < span.2 → (dst + 2 * span.1) % 16 = 0
  colors : 0 < span.2 → BlocksWithin source (2 * sourceLen) (source + 2 * (start + span.1))
    (source + 2 * (start + span.1 + span.2))

theorem SpanFits.within {span : ℕ × ℕ} (fits : SpanFits dst source sourceLen start len span) :
    SpanWithin dst source sourceLen start len span := by
  have upTo := fits.upTo
  refine ⟨upTo, fits.eights, fun some => fits.lead.aligned (by omega), fun some => ?_⟩
  exact blocksWithin_of_ends (fits.lead.low (by omega)) (fits.high some)

/-- **Spans read and write within their memory.** A span of colors has a place to begin and a
number of pixels for which the destination is aligned and every block that is read lies in the
memory of the colors; with alpha values the blocks of both do, where their memory ends fifteen
bytes before the greatest address or earlier. -/
theorem spans_stay_in_backings (room : 15 ≤ greatest) (evenDst : dst % 2 = 0)
    (evenSource : source % 2 = 0) (inSource : start + len ≤ sourceLen)
    (inAlpha : start + len ≤ alphaLen) (colors : source + 2 * sourceLen ≤ greatest) :
    (∃ span, vectorSpan greatest dst source sourceLen start len = some span ∧
      SpanWithin dst source sourceLen start len span) ∧
    (source + 2 * sourceLen + 15 ≤ greatest → alpha + alphaLen + 15 ≤ greatest →
      ∃ span, alphaSpan greatest dst source sourceLen alpha alphaLen start len = some span ∧
        SpanWithin dst source sourceLen start len span ∧
        (0 < span.2 → BlocksWithin alpha alphaLen (alpha + start + span.1)
          (alpha + start + span.1 + span.2))) := by
  constructor
  · obtain ⟨span, ran, fits⟩ := vectorSpan_fits room evenDst evenSource colors inSource
    exact ⟨span, ran, fits.within⟩
  · intro colorsEnd valuesEnd
    obtain ⟨span, ran, fits, both⟩ :=
      alphaSpan_fits room evenDst evenSource colorsEnd valuesEnd inSource inAlpha
    refine ⟨span, ran, fits.within, fun some => ?_⟩
    have upTo := fits.upTo
    obtain ⟨low, high⟩ := both some
    exact blocksWithin_of_ends (low (by omega)) high

end Proofs

/-- A span of twenty pixels with alpha values, in memory that is not aligned. -/
theorem spans_stay_in_backings_unaligned :
    ∃ span, alphaSpan Checked.u32Max 66 70 40 75 40 1 20 = some span ∧
      SpanWithin 66 70 40 1 20 span ∧
      (0 < span.2 → BlocksWithin 75 40 (75 + 1 + span.1) (75 + 1 + span.1 + span.2)) :=
  (spans_stay_in_backings (by decide) (by decide) (by decide) (by decide) (by decide)
    (by decide)).2 (by decide) (by decide)

/-- Where the colors end with the last addresses there are, the end of their last block is not
an address. -/
theorem span_beyond_addresses : ¬∀ dst source sourceLen alpha alphaLen start len : ℕ,
    dst % 2 = 0 → source % 2 = 0 → start + len ≤ sourceLen → start + len ≤ alphaLen →
      source + 2 * sourceLen ≤ Checked.u32Max → alpha + alphaLen ≤ Checked.u32Max →
        ∃ span, alphaSpan Checked.u32Max dst source sourceLen alpha alphaLen start len =
          some span := by
  intro returns
  obtain ⟨span, ran⟩ := returns 0 4294967262 16 4096 16 0 16 (by decide) (by decide) (by decide)
    (by decide) (by decide) (by decide)
  have panics : alphaSpan Checked.u32Max 0 4294967262 16 4096 16 0 16 = none := by decide +kernel
  rw [panics] at ran
  cases ran

end Deskkin.Renderer
