/-
# Damaged records

One changed byte changes the checksum of a record or the field the checksum is
compared with, and never both. A cut or a lengthened record has the length field of
the whole one, and another length.
-/

import Deskkin.Lib.Checksum
import Deskkin.Nvs.RecordCodec

namespace Deskkin.Device.RecordCodec

open BigEndian Checksum

/-! ## The checksum -/

/-- The word of the checksum is added when the bit that falls out is set. -/
theorem crc32Bit_eq (crc : UInt32) :
    (crc32Bit crc).toBitVec = shiftOut (0xedb88320 : BitVec 32) crc.toBitVec := by
  have mask : (0 - (crc &&& 1)).toBitVec =
      if crc.toBitVec.getLsbD 0 then BitVec.allOnes 32 else 0 := by
    have low : crc.toBitVec &&& 1#32 = (BitVec.ofBool (crc.toBitVec.getLsbD 0)).setWidth 32 :=
      BitVec.and_one_eq_setWidth_ofBool_getLsbD
    rw [UInt32.toBitVec_sub, UInt32.toBitVec_and, UInt32.toBitVec_one, low]
    cases crc.toBitVec.getLsbD 0 <;> decide
  rw [crc32Bit, shiftOut, UInt32.toBitVec_xor, UInt32.toBitVec_and, mask,
    UInt32.toBitVec_shiftRight]
  cases crc.toBitVec.getLsbD 0 with
  | false => simp
  | true => simp

theorem crc32Bit_injective : Function.Injective crc32Bit := by
  intro one two same
  apply UInt32.toBitVec_inj.mp
  have top : (0xedb88320 : BitVec 32).getLsbD 31 = true := by decide
  apply shiftOut_injective top
  rw [← crc32Bit_eq, ← crc32Bit_eq, same]

theorem crc32Byte_reversible : Reversible crc32Byte where
  register := by
    intro byte one two same
    exact (UInt32.xor_left_inj _).mp (crc32Bit_injective.iterate 8 same)
  symbol := by
    intro crc one two same
    have bytes := (UInt32.xor_right_inj _).mp (crc32Bit_injective.iterate 8 same)
    exact UInt8.toUInt32_inj.mp bytes

/-- The checksum of a list with one changed byte is another. -/
theorem crc32_changed {one two : UInt8} (changed : one ≠ two) (before after : List UInt8) :
    crc32 (before ++ one :: after) ≠ crc32 (before ++ two :: after) := by
  intro same
  have registers := UInt32.not_inj.mp same
  exact crc32Byte_reversible.foldl_changed changed _ before after registers

variable {index : ℕ} {byte : UInt8} {input : List UInt8} {record other : RecordRef}

theorem crc32_set {bytes : List UInt8} (inside : index < bytes.length)
    (changed : byte ≠ bytes[index]) : crc32 (bytes.set index byte) ≠ crc32 bytes := by
  have whole : bytes = bytes.take index ++ bytes[index] :: bytes.drop (index + 1) := by
    rw [← List.drop_eq_getElem_cons inside, List.take_append_drop]
  rw [List.set_eq_take_append_cons_drop, if_pos inside]
  conv_rhs => rw [whole]
  exact crc32_changed changed _ _

/-! ## One changed byte -/

/-- What the checksum is taken of. -/
def zeroed (input : List UInt8) : List UInt8 :=
  input.take 20 ++ (toBytes 4 0 ++ input.drop nvsHeaderLen)

theorem zeroed_set_checksum (byte : UInt8) (start : 20 ≤ index) (stop : index < 24) :
    zeroed (input.set index byte) = zeroed input := by
  rw [zeroed, zeroed, nvsHeaderLen, List.take_set_of_le start, List.drop_set_of_lt stop]

theorem zeroed_set (long : 24 ≤ input.length) (inside : index < input.length)
    (outside : index < 20 ∨ 24 ≤ index) (changed : byte ≠ input[index]) :
    crc32 (zeroed (input.set index byte)) ≠ crc32 (zeroed input) := by
  have first : (input.take 20).length = 20 := by
    rw [List.length_take]
    omega
  have size : (zeroed input).length = input.length := by
    simp only [zeroed, List.length_append, first, length_toBytes, List.length_drop, nvsHeaderLen]
    omega
  have same : zeroed (input.set index byte) = (zeroed input).set index byte := by
    rcases outside with head | payload
    · rw [zeroed, zeroed, nvsHeaderLen, List.take_set, List.drop_set, if_pos (by omega),
        List.set_append_left _ _ (by omega)]
    · rw [zeroed, zeroed, nvsHeaderLen, List.take_set_of_le (by omega), List.drop_set,
        if_neg (by omega), List.set_append_right _ _ (by omega), first,
        List.set_append_right _ _ (by rw [length_toBytes]; omega), length_toBytes, Nat.sub_sub]
  have kept : (zeroed input)[index]? = input[index]? := by
    rcases outside with head | payload
    · rw [zeroed, List.getElem?_append_left (by omega), List.getElem?_take_of_lt head]
    · rw [zeroed, List.getElem?_append_right (by omega), first,
        List.getElem?_append_right (by rw [length_toBytes]; omega), length_toBytes,
        List.getElem?_drop, nvsHeaderLen]
      congr 1
      omega
  rw [same]
  have within : index < (zeroed input).length := size.symm ▸ inside
  rw [List.getElem?_eq_getElem inside, List.getElem?_eq_getElem within, Option.some.injEq] at kept
  exact crc32_set within (kept ▸ changed)

theorem ofBytes_inj {one two : List UInt8} (lengths : one.length = two.length)
    (same : ofBytes one = ofBytes two) : one = two := by
  rw [← toBytes_ofBytes lengths, same, toBytes_ofBytes rfl]

/-- Two accepted strings do not differ in one byte alone. -/
theorem Accepted.set_unaccepted (accepted : Accepted input record) (inside : index < input.length)
    (changed : byte ≠ input[index]) : ¬ Accepted (input.set index byte) other := by
  intro damaged
  have long : 24 ≤ input.length := by
    rw [accepted.length, nvsHeaderLen]
    omega
  have one : (crc32 (zeroed input)).toNat = ofBytes (field input 20 24) := accepted.checksum
  have two : (crc32 (zeroed (input.set index byte))).toNat =
      ofBytes (field (input.set index byte) 20 24) := damaged.checksum
  by_cases within : 20 ≤ index ∧ index < 24
  · -- The checksum is that of the whole record, and the field is another.
    rw [zeroed_set_checksum byte within.1 within.2, one] at two
    have fields : field input 20 24 = field (input.set index byte) 20 24 :=
      ofBytes_inj (by rw [length_field long, length_field (by rwa [List.length_set])]) two
    have there := congrArg (fun bytes => bytes[index - 20]?) fields
    simp only [field, List.getElem?_take_of_lt (show index - 20 < 24 - 20 by omega),
      List.getElem?_drop, Nat.add_sub_cancel' within.1, List.getElem?_set_self inside,
      List.getElem?_eq_getElem inside, Option.some.injEq] at there
    exact changed there.symm
  · have outside : index < 20 ∨ 24 ≤ index := by omega
    have fields : field (input.set index byte) 20 24 = field input 20 24 := by
      rcases outside with head | payload
      · rw [field, field, List.drop_set, if_pos head]
      · rw [field, field, List.drop_set, if_neg (by omega), List.take_set_of_le (by omega)]
    rw [fields, ← one] at two
    exact zeroed_set long inside outside changed (UInt32.toNat_inj.mp two)

/-! ## Another length -/

/-- An accepted string is no strict prefix of an accepted one. -/
theorem Accepted.prefix_eq {one two : List UInt8} (first : Accepted one record)
    (second : Accepted two other) (start : one <+: two) : one = two := by
  obtain ⟨rest, rfl⟩ := start
  have long : 24 ≤ one.length := by
    rw [first.length, nvsHeaderLen]
    omega
  have sizes := second.length
  rw [field_append_left rest (by omega), ← first.length, List.length_append] at sizes
  rw [List.eq_nil_of_length_eq_zero (by omega : rest.length = 0), List.append_nil]

theorem decodeRecord_refused (unaccepted : ∀ record, ¬ Accepted input record) :
    ∃ error, decodeRecord input = .error error := by
  cases decoded : decodeRecord input with
  | error error => exact ⟨error, rfl⟩
  | ok record =>
      rw [decodeRecord_eq] at decoded
      exact absurd (accepted_of_decodeRecord decoded) (unaccepted record)

/-- An encoded record is accepted. -/
theorem accepted_of_encodeRecord {sequence generation : UInt64} {state : RecordState}
    {payload output left : List UInt8} {length : ℕ}
    (encoded : encodeRecord sequence generation state payload output = (.ok length, left)) :
    Accepted (left.take length) (recordOf sequence generation state payload) := by
  by_cases unfit : nvsPayloadMax < payload.length ∨ output.length < nvsHeaderLen + payload.length
  · rw [encodeRecord_refused unfit] at encoded
    cases encoded
  · rw [not_or, not_lt, not_lt] at unfit
    obtain ⟨written, rest, wrote, -, -, decoded⟩ :=
      decodeRecord_encodeRecord sequence generation state unfit.1 unfit.2
    rw [wrote] at encoded
    cases encoded
    rw [List.take_left]
    rw [decodeRecord_eq] at decoded
    exact accepted_of_decodeRecord decoded

/-- **Damage is found.** An encoded record with one byte changed, cut short or
lengthened is refused. -/
theorem damaged_record_refused {sequence generation : UInt64} {state : RecordState}
    {payload output left : List UInt8} {length : ℕ}
    (encoded : encodeRecord sequence generation state payload output = (.ok length, left)) :
    (∀ (index : ℕ) (byte : UInt8) (inside : index < (left.take length).length),
      byte ≠ (left.take length)[index] →
        ∃ error, decodeRecord ((left.take length).set index byte) = .error error) ∧
    (∀ cut, cut <+: left.take length → cut ≠ left.take length →
      ∃ error, decodeRecord cut = .error error) ∧
    (∀ longer, left.take length <+: longer → longer ≠ left.take length →
      ∃ error, decodeRecord longer = .error error) := by
  have accepted := accepted_of_encodeRecord encoded
  refine ⟨fun index byte inside changed => ?_, fun cut start other => ?_,
    fun longer start other => ?_⟩
  · exact decodeRecord_refused fun _ => accepted.set_unaccepted inside changed
  · exact decodeRecord_refused fun _ found => other (found.prefix_eq accepted start)
  · exact decodeRecord_refused fun _ found => other (accepted.prefix_eq found start).symm

/-- The record of a test with another state, without its last byte and with one more. -/
theorem damaged_peer_refused :
    ∃ record, (encodeRecord 3 7 (.identity .committing) [112, 101, 101, 114]
        (.replicate 28 0)).2 = record ∧ record.length = 28 ∧
      (∃ error, decodeRecord (record.set 1 3) = .error error) ∧
      (∃ error, decodeRecord (record.take 27) = .error error) ∧
      ∃ error, decodeRecord (record ++ [0]) = .error error := by
  obtain ⟨written, rest, encoded, size, behind, -⟩ :=
    decodeRecord_encodeRecord 3 7 (.identity .committing)
      (show [112, 101, 101, 114].length ≤ nvsPayloadMax by decide)
      (show nvsHeaderLen + [112, 101, 101, 114].length ≤ (List.replicate 28 0).length by decide)
  have nothing : rest = [] := by
    rw [behind, size]
    rfl
  subst nothing
  have length : written.length = 28 := size
  obtain ⟨changed, cut, longer⟩ := damaged_record_refused encoded
  rw [List.append_nil, List.take_length] at changed cut longer
  have state : field written 1 2 = [2] := by
    have accepted := accepted_of_encodeRecord encoded
    rw [List.append_nil, List.take_length] at accepted
    exact accepted.state
  refine ⟨written, by rw [encoded, List.append_nil], length, ?_, ?_, ?_⟩
  · refine changed 1 3 (by omega) fun same => ?_
    have there := congrArg (fun bytes => bytes[0]?) state
    simp only [field, List.getElem?_take_of_lt (show 0 < 2 - 1 by omega), List.getElem?_drop,
      Nat.add_zero, List.getElem?_eq_getElem (show 1 < written.length by omega), ← same] at there
    cases there
  · refine cut _ (List.take_prefix 27 written) fun same => ?_
    have shorter := congrArg List.length same
    rw [List.length_take] at shorter
    omega
  · refine longer _ (List.prefix_append written [0]) fun same => ?_
    have more := congrArg List.length same
    rw [List.length_append, List.length_singleton] at more
    omega

end Deskkin.Device.RecordCodec
