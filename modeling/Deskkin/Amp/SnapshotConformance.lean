/-
# The snapshot reader and its model

The reader of the renderer core is restated in the crate of the device, over the bytes
of a snapshot and the publication words before and after them. The two refuse the same
snapshots with one exception: the restatement does not look at the range of the
authentication number, and lets pass what the reader refuses.
-/

import Deskkin.Amp.Mailboxes

namespace Deskkin.Amp

open Layout Program Seqlock

/-! ## One attempt of the reader -/

inductive Attempt
  | unpublished
  | again
  | refused
  | delivered (snapshot : WorldSnapshot)
  deriving DecidableEq

/-- What the body of the loop comes to, by the words it loads and the bytes it copies. -/
def worldSnapshotAttempt (publication : UInt32) (bytes : List UInt8) (after : UInt32) : Attempt :=
  if publication = 0 then .unpublished
  else if publication = after ∧ (WorldSnapshot.ofBytes bytes).generation = publication then
    if (WorldSnapshot.ofBytes bytes).Acceptable then .delivered (WorldSnapshot.ofBytes bytes)
    else .refused
  else .again

/-! ## The model -/

inductive AmpTextureFilter
  | nearest
  | bilinear
  deriving DecidableEq

structure AmpWorldSnapshot where
  generation : UInt32
  observedYaw : Int64
  sas : Option UInt32
  shell : UInt8
  availability : Option UInt8
  notice : Option UInt8
  availabilityFilter : AmpTextureFilter
  noticeFilter : AmpTextureFilter
  deriving DecidableEq

inductive AmpSnapshotError
  | unpublished
  | unstable
  | unknownSchema
  | invalidMagic
  | generationMismatch
  | invalidSemanticValue
  deriving DecidableEq

/-- `u32::from_le_bytes` of four bytes of the payload. -/
def wordAt (payload : Vector UInt8 24) (offset : ℕ) : UInt32 :=
  .ofNat (number payload.toList offset 4)

/-- A value without its filter bit: zero for nothing, and up to a greatest value. -/
def semanticValue (greatest byte : UInt8) : Except AmpSnapshotError (Option UInt8) :=
  let value := byte &&& worldValueMask
  if value = 0 then .ok none
  else if value ≤ greatest then .ok (some value)
  else .error .invalidSemanticValue

def filterOf (byte : UInt8) : AmpTextureFilter :=
  if byte &&& worldFilterBilinear ≠ 0 then .bilinear else .nearest

def decodeAmpWorldSnapshot (publicationBefore : UInt32) (payload : Vector UInt8 24)
    (publicationAfter : UInt32) : Except AmpSnapshotError AmpWorldSnapshot :=
  if publicationBefore = 0 ∨ publicationAfter = 0 then .error .unpublished
  else if publicationBefore ≠ publicationAfter then .error .unstable
  else
    let magic := wordAt payload 0
    if magic ≠ worldMagic then .error .invalidMagic
    else
      let generation := wordAt payload 4
      if generation ≠ publicationBefore then .error .generationMismatch
      else if payload[20] ≠ worldSchema then .error .unknownSchema
      else
        let shell := payload[21]
        match semanticValue 3 payload[22], semanticValue 1 payload[23] with
        | .error error, _ | .ok _, .error error => .error error
        | .ok availability, .ok notice =>
            if 4 < shell then .error .invalidSemanticValue
            else
              let sas := wordAt payload 16
              .ok {
                generation := generation
                observedYaw := (UInt64.ofNat (number payload.toList 8 8)).toInt64
                sas := if sas ≠ 0xffffffff then some sas else none
                shell := shell
                availability := availability
                notice := notice
                availabilityFilter := filterOf payload[22]
                noticeFilter := filterOf payload[23] }

/-! ## Where they agree -/

/-- What the fields of a delivered snapshot say. -/
def WorldSnapshot.meaning (delivered : WorldSnapshot) : AmpWorldSnapshot where
  generation := delivered.generation
  observedYaw := delivered.observedYaw
  sas := if delivered.sas = 0xffffffff then none else some delivered.sas
  shell := delivered.shell
  availability :=
    if delivered.availability &&& worldValueMask = 0 then none
    else some (delivered.availability &&& worldValueMask)
  notice :=
    if delivered.notice &&& worldValueMask = 0 then none
    else some (delivered.notice &&& worldValueMask)
  availabilityFilter :=
    if delivered.availability &&& worldFilterBilinear = 0 then .nearest else .bilinear
  noticeFilter := if delivered.notice &&& worldFilterBilinear = 0 then .nearest else .bilinear

/-- The model accepts what an attempt of the reader delivers and nothing else, and says
of it what its fields say. -/
def Conforms (publicationBefore : UInt32) (payload : Vector UInt8 24)
    (publicationAfter : UInt32) : Prop :=
  ((∃ decoded, decodeAmpWorldSnapshot publicationBefore payload publicationAfter = .ok decoded) ↔
    ∃ delivered,
      worldSnapshotAttempt publicationBefore payload.toList publicationAfter =
        .delivered delivered) ∧
  ∀ decoded delivered,
    decodeAmpWorldSnapshot publicationBefore payload publicationAfter = .ok decoded →
    worldSnapshotAttempt publicationBefore payload.toList publicationAfter =
      .delivered delivered → decoded = delivered.meaning

/-- The checks that the reader and the model share. -/
structure Shared (publicationBefore : UInt32) (snapshot : WorldSnapshot)
    (publicationAfter : UInt32) : Prop where
  published : publicationBefore ≠ 0
  stable : publicationBefore = publicationAfter
  generation : snapshot.generation = publicationBefore
  magic : snapshot.magic = worldMagic
  schema : snapshot.schema = worldSchema
  shell : snapshot.shell ≤ shellPaired
  availability : snapshot.availability &&& worldValueMask ≤ 3
  notice : snapshot.notice &&& worldValueMask ≤ 1

/-- The check that only the reader makes. -/
def SasInRange (snapshot : WorldSnapshot) : Prop :=
  snapshot.sas = 0xffffffff ∨ snapshot.sas ≤ 999999

theorem attempt_eq_delivered_iff {publication after : UInt32} {bytes : List UInt8}
    {delivered : WorldSnapshot} :
    worldSnapshotAttempt publication bytes after = .delivered delivered ↔
      Shared publication (.ofBytes bytes) after ∧ SasInRange (.ofBytes bytes) ∧
        delivered = .ofBytes bytes := by
  unfold worldSnapshotAttempt
  constructor
  · intro answer
    split at answer
    · cases answer
    rename_i published
    split at answer
    · rename_i whole
      split at answer
      · rename_i acceptable
        cases answer
        obtain ⟨magic, schema, shell, availability, notice, sas⟩ := acceptable
        exact ⟨⟨published, whole.1, whole.2, magic, schema, shell, availability, notice⟩, sas, rfl⟩
      · cases answer
    · cases answer
  · rintro ⟨⟨published, stable, generation, magic, schema, shell, availability, notice⟩, sas, rfl⟩
    rw [if_neg published, if_pos ⟨stable, generation⟩,
      if_pos ⟨magic, schema, shell, availability, notice, sas⟩]

theorem semanticValue_eq_ok_iff {greatest byte : UInt8} {value : Option UInt8} :
    semanticValue greatest byte = .ok value ↔
      byte &&& worldValueMask ≤ greatest ∧
        value = if byte &&& worldValueMask = 0 then none else some (byte &&& worldValueMask) := by
  unfold semanticValue
  by_cases zero : byte &&& worldValueMask = 0
  · simp only [zero, if_true, Except.ok.injEq, eq_comm (a := none), UInt8.zero_le, true_and]
  · by_cases small : byte &&& worldValueMask ≤ greatest
    · simp only [zero, small, if_true, if_false, Except.ok.injEq, true_and,
        eq_comm (b := value)]
    · simp only [zero, small, if_false, reduceCtorEq, false_and]

theorem decode_eq_ok_iff {before after : UInt32} {payload : Vector UInt8 24}
    {decoded : AmpWorldSnapshot} :
    decodeAmpWorldSnapshot before payload after = .ok decoded ↔
      Shared before (.ofBytes payload.toList) after ∧
        decoded = (WorldSnapshot.ofBytes payload.toList).meaning := by
  have byte : ∀ index (inside : index < 24),
      payload[index] = UInt8.ofNat (number payload.toList index 1) := by
    intro index inside
    rw [number_one (by simpa using inside), Vector.getElem_toList]
  have schema : payload[20] = (WorldSnapshot.ofBytes payload.toList).schema := byte 20 (by omega)
  have shell : payload[21] = (WorldSnapshot.ofBytes payload.toList).shell := byte 21 (by omega)
  have availability : payload[22] = (WorldSnapshot.ofBytes payload.toList).availability :=
    byte 22 (by omega)
  have notice : payload[23] = (WorldSnapshot.ofBytes payload.toList).notice := byte 23 (by omega)
  have magic : wordAt payload 0 = (WorldSnapshot.ofBytes payload.toList).magic := rfl
  have generation : wordAt payload 4 = (WorldSnapshot.ofBytes payload.toList).generation := rfl
  have sas : wordAt payload 16 = (WorldSnapshot.ofBytes payload.toList).sas := rfl
  have yaw : (UInt64.ofNat (number payload.toList 8 8)).toInt64 =
      (WorldSnapshot.ofBytes payload.toList).observedYaw := rfl
  unfold decodeAmpWorldSnapshot
  simp only [schema, shell, availability, notice, magic, generation, sas, yaw]
  generalize WorldSnapshot.ofBytes payload.toList = snapshot
  constructor
  · intro answer
    split at answer
    · cases answer
    rename_i published
    split at answer
    · cases answer
    rename_i stable
    split at answer
    · cases answer
    rename_i magic
    split at answer
    · cases answer
    rename_i generation
    split at answer
    · cases answer
    rename_i schema
    split at answer
    · cases answer
    · cases answer
    rename_i availability notice some_availability some_notice
    split at answer
    · cases answer
    rename_i shell
    cases answer
    obtain ⟨availability, rfl⟩ := semanticValue_eq_ok_iff.mp some_availability
    obtain ⟨notice, rfl⟩ := semanticValue_eq_ok_iff.mp some_notice
    rw [not_or] at published
    refine ⟨⟨published.1, not_not.mp stable, not_not.mp generation, not_not.mp magic,
      not_not.mp schema, UInt8.not_lt.mp shell, availability, notice⟩, ?_⟩
    simp [WorldSnapshot.meaning, filterOf]
  · rintro ⟨⟨published, rfl, rfl, magic, schema, shell, availability, notice⟩, rfl⟩
    have first := semanticValue_eq_ok_iff.mpr ⟨availability, rfl⟩
    have second := semanticValue_eq_ok_iff.mpr ⟨notice, rfl⟩
    have small : ¬ 4 < snapshot.shell := UInt8.not_lt.mpr shell
    simp [published, magic, schema, first, second, small, WorldSnapshot.meaning, filterOf]

/-- **Where the model conforms.** It does so exactly where the authentication number is
in range or another check refuses the snapshot. -/
theorem conforms_iff (before : UInt32) (payload : Vector UInt8 24) (after : UInt32) :
    Conforms before payload after ↔
      SasInRange (.ofBytes payload.toList) ∨ ¬ Shared before (.ofBytes payload.toList) after := by
  constructor
  · intro conforms
    by_cases shared : Shared before (.ofBytes payload.toList) after
    · left
      obtain ⟨delivered, answer⟩ := conforms.1.mp ⟨_, decode_eq_ok_iff.mpr ⟨shared, rfl⟩⟩
      exact (attempt_eq_delivered_iff.mp answer).2.1
    · exact .inr shared
  · intro holds
    refine ⟨⟨?_, ?_⟩, ?_⟩
    · rintro ⟨decoded, answer⟩
      have shared := (decode_eq_ok_iff.mp answer).1
      have range := holds.resolve_right (not_not.mpr shared)
      exact ⟨_, attempt_eq_delivered_iff.mpr ⟨shared, range, rfl⟩⟩
    · rintro ⟨delivered, answer⟩
      exact ⟨_, decode_eq_ok_iff.mpr ⟨(attempt_eq_delivered_iff.mp answer).1, rfl⟩⟩
    · intro decoded delivered one two
      rw [(decode_eq_ok_iff.mp one).2, (attempt_eq_delivered_iff.mp two).2.2]

/-- A snapshot with the first number that has seven digits. -/
def sevenDigits : WorldSnapshot where
  magic := worldMagic
  generation := 7
  observedYaw := 0
  sas := 1000000
  schema := worldSchema
  shell := 3
  availability := 0
  notice := 0

/-- The model accepts it, and the reader does not. -/
theorem sevenDigits_diverges :
    ¬ ∀ before (payload : Vector UInt8 24) after, Conforms before payload after := by
  intro conforms
  have bytes : (⟨sevenDigits.bytes.toArray, rfl⟩ : Vector UInt8 24).toList = sevenDigits.bytes :=
    rfl
  have shared : Shared 7 sevenDigits 7 := by
    constructor <;> decide
  obtain ⟨delivered, answer⟩ := (conforms 7 ⟨sevenDigits.bytes.toArray, rfl⟩ 7).1.mp
    ⟨sevenDigits.meaning, decode_eq_ok_iff.mpr (by
      rw [bytes, WorldSnapshot.ofBytes_bytes]
      exact ⟨shared, rfl⟩)⟩
  have range := (attempt_eq_delivered_iff.mp answer).2.1
  rw [bytes, WorldSnapshot.ofBytes_bytes] at range
  revert range
  unfold SasInRange
  decide

end Deskkin.Amp
