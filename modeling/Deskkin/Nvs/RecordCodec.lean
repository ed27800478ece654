/-
# Records in a buffer

A record is encoded in place. Its checksum is taken over the buffer while the field of
the checksum is zero, and written into that field afterwards. Decoding takes the
checksum of a copy of the header with the field zeroed, and goes on with the payload.

Both ways the bytes are those of the record: what is written is read back, and what is
accepted is what would be written.
-/

import Deskkin.Lib.Placement
import Deskkin.Nvs.Record

namespace Deskkin.Device.RecordCodec

open BigEndian Placement

/-- `u16::try_from`. -/
def u16TryFrom (value : ℕ) : Option UInt16 :=
  if value ≤ Checked.u16Max then some (UInt16.ofNat value) else none

/-- What is returned, and the buffer that is left. -/
def encodeRecord (sequence generation : UInt64) (state : RecordState)
    (payload output : List UInt8) : Except DecodeError ℕ × List UInt8 :=
  if nvsPayloadMax < payload.length ∨ output.length < nvsHeaderLen + payload.length then
    (.error .oversize, output)
  else
    let output := put output ⟨0, [schemaVersion]⟩
    let output := put output ⟨1, [state.wire]⟩
    match u16TryFrom payload.length with
    | none => (.error .oversize, output)
    | some length =>
        let output := put output ⟨2, be16 length⟩
        let output := put output ⟨4, be64 sequence⟩
        let output := put output ⟨12, be64 generation⟩
        let output := put output ⟨20, List.replicate 4 0⟩
        let output := put output ⟨24, payload⟩
        let crc := crc32 (output.take (24 + payload.length))
        let output := put output ⟨20, be32 crc⟩
        (.ok (24 + payload.length), output)

def decodeRecord (input : List UInt8) : Except DecodeError RecordRef :=
  if input.length < nvsHeaderLen then .error .truncated
  else if field input 0 1 ≠ [schemaVersion] then .error .unknownSchema
  else
    match (field input 1 2).head?.bind RecordState.ofWire with
    | none => .error .unknownState
    | some state =>
        let length := unsigned input 2 4
        if nvsPayloadMax < length ∨ input.length ≠ nvsHeaderLen + length then
          .error .invalidLength
        else
          let expected := unsigned input 20 24
          let header := put (field input 0 nvsHeaderLen) ⟨20, List.replicate 4 0⟩
          let crc := crc32Update 0xffffffff header
          let crc := crc32Update crc (input.drop nvsHeaderLen)
          if (~~~crc).toNat ≠ expected then .error .invalidCrc
          else
            .ok { publicationSequence := unsigned input 4 12
                  generation := unsigned input 12 20
                  state := state
                  payload := input.drop nvsHeaderLen }

/-! ## Encoding in place -/

/-- A write right behind what is finished. -/
theorem put_behind {done buffer bytes : List UInt8} {offset : ℕ} (behind : done.length = offset) :
    put (done ++ buffer) ⟨offset, bytes⟩ = (done ++ bytes) ++ buffer.drop bytes.length := by
  subst behind
  simp [put, List.drop_append]

/-- The record that is encoded. -/
def recordOf (sequence generation : UInt64) (state : RecordState) (payload : List UInt8) :
    RecordRef where
  publicationSequence := sequence.toNat
  generation := generation.toNat
  state := state
  payload := payload

theorem recordOf_fits (sequence generation : UInt64) (state : RecordState)
    {payload : List UInt8} (small : payload.length ≤ nvsPayloadMax) :
    (recordOf sequence generation state payload).Fits where
  sequence := Nat.le_sub_one_of_lt sequence.toNat_lt
  generation := Nat.le_sub_one_of_lt generation.toNat_lt
  payload := small

variable {payload output : List UInt8} {input : List UInt8} {record : RecordRef}

/-- What is refused is not written. -/
theorem encodeRecord_refused {sequence generation : UInt64} {state : RecordState}
    (unfit : nvsPayloadMax < payload.length ∨ output.length < nvsHeaderLen + payload.length) :
    encodeRecord sequence generation state payload output = (.error .oversize, output) :=
  if_pos unfit

/-- The bytes of the record come first in the buffer, and the rest of it stays. -/
theorem encodeRecord_fit (sequence generation : UInt64) (state : RecordState)
    (small : payload.length ≤ nvsPayloadMax)
    (room : nvsHeaderLen + payload.length ≤ output.length) :
    encodeRecord sequence generation state payload output =
      (.ok (nvsHeaderLen + payload.length),
        (recordOf sequence generation state payload).bytes ++
          output.drop (nvsHeaderLen + payload.length)) := by
  have narrow : payload.length ≤ 160 := small
  have converted : u16TryFrom payload.length = some (UInt16.ofNat payload.length) :=
    if_pos (by simp only [Checked.u16Max]; omega)
  have length : be16 (UInt16.ofNat payload.length) = toBytes 2 payload.length := by
    rw [be16, UInt16.toNat_ofNat_of_lt' (by simp only [UInt16.size]; omega)]
  have zeros : List.replicate 4 (0 : UInt8) = toBytes 4 0 := rfl
  -- Up to the payload the writes follow each other; the checksum goes back.
  have head : put (put (put (put (put output ⟨0, [schemaVersion]⟩) ⟨1, [state.wire]⟩)
      ⟨2, toBytes 2 payload.length⟩) ⟨4, be64 sequence⟩) ⟨12, be64 generation⟩ =
        recordHead (recordOf sequence generation state payload) ++ output.drop 20 := by
    have start : put output ⟨0, [schemaVersion]⟩ = [schemaVersion] ++ output.drop 1 := rfl
    rw [start, put_behind (by simp), put_behind (by simp), put_behind (by simp),
      put_behind (by simp)]
    simp [recordHead, recordOf, be64]
  have body : put (put (recordHead (recordOf sequence generation state payload) ++ output.drop 20)
      ⟨20, toBytes 4 0⟩) ⟨24, payload⟩ =
        (recordHead (recordOf sequence generation state payload) ++ (toBytes 4 0 ++ payload)) ++
          output.drop (24 + payload.length) := by
    rw [put_behind (by simp), put_behind (by simp)]
    simp
  have size : (recordHead (recordOf sequence generation state payload) ++
      (toBytes 4 0 ++ payload)).length = 24 + payload.length := by
    simp only [List.length_append, length_recordHead, length_toBytes]
    omega
  have summed : ((recordHead (recordOf sequence generation state payload) ++
      (toBytes 4 0 ++ payload)) ++ output.drop (24 + payload.length)).take (24 + payload.length) =
        recordHead (recordOf sequence generation state payload) ++ (toBytes 4 0 ++ payload) :=
    List.take_left' size
  have unfit : ¬ (nvsPayloadMax < payload.length ∨
      output.length < nvsHeaderLen + payload.length) := by
    omega
  rw [encodeRecord, if_neg unfit, converted]
  simp only [length, zeros, head, body, summed]
  rw [List.append_assoc, put_behind (by simp)]
  simp [RecordRef.bytes, recordOf, be32, nvsHeaderLen]

/-! ## Decoding from a copied header -/

theorem crc32Update_append (crc : UInt32) (one two : List UInt8) :
    crc32Update crc (one ++ two) = crc32Update (crc32Update crc one) two :=
  List.foldl_append

/-- The header with its checksum zeroed and the payload are taken as one. -/
theorem decodeRecord_eq (input : List UInt8) : decodeRecord input = Device.decodeRecord input := by
  unfold decodeRecord Device.decodeRecord
  by_cases short : input.length < nvsHeaderLen
  · rw [if_pos short, if_pos short]
  · have long : 24 ≤ input.length := Nat.le_of_not_lt short
    have header : put (field input 0 nvsHeaderLen) ⟨20, List.replicate 4 0⟩ =
        input.take 20 ++ toBytes 4 0 := by
      have whole : field input 0 nvsHeaderLen = input.take 20 ++ field input 20 24 := by
        rw [field, field, nvsHeaderLen, List.drop_zero, Nat.sub_zero, ← List.take_add]
      rw [whole, put_behind (by rw [List.length_take]; omega)]
      simp [field, toBytes]
    simp only [header, ← crc32Update_append, List.append_assoc, unsigned, crc32]
    rfl

/-! ## What is accepted -/

theorem wire_of_ofWire {byte : UInt8} {state : RecordState}
    (read : RecordState.ofWire byte = some state) : state.wire = byte := by
  unfold RecordState.ofWire at read
  split_ifs at read with h h h h h h h <;> cases read <;> exact h.symm

/-- What the fields of an accepted string are. -/
structure Accepted (input : List UInt8) (record : RecordRef) : Prop where
  schema : field input 0 1 = [schemaVersion]
  state : field input 1 2 = [record.state.wire]
  small : ofBytes (field input 2 4) ≤ nvsPayloadMax
  length : input.length = nvsHeaderLen + ofBytes (field input 2 4)
  sequence : record.publicationSequence = ofBytes (field input 4 12)
  generation : record.generation = ofBytes (field input 12 20)
  checksum : (crc32 (input.take 20 ++ (toBytes 4 0 ++ input.drop nvsHeaderLen))).toNat =
    ofBytes (field input 20 24)
  payload : record.payload = input.drop nvsHeaderLen

theorem accepted_of_decodeRecord (decoded : Device.decodeRecord input = .ok record) :
    Accepted input record := by
  unfold Device.decodeRecord at decoded
  split at decoded
  · cases decoded
  rename_i long
  split at decoded
  · cases decoded
  rename_i schema
  split at decoded
  · cases decoded
  rename_i state found
  simp only at decoded
  split at decoded
  · cases decoded
  rename_i sized
  split at decoded
  · cases decoded
  rename_i summed
  cases decoded
  rw [not_or, not_lt, not_not] at sized
  have long : 24 ≤ input.length := Nat.le_of_not_lt long
  obtain ⟨byte, one⟩ := List.length_eq_one_iff.mp (by
    exact length_field (by omega) : (field input 1 2).length = 1)
  rw [one] at found
  exact {
    schema := not_not.mp schema
    state := by rw [one, wire_of_ofWire found]
    small := sized.1
    length := sized.2
    sequence := rfl
    generation := rfl
    checksum := not_not.mp summed
    payload := rfl }

/-- **What is accepted is the encoding of what it is read as.** -/
theorem Accepted.bytes_eq (accepted : Accepted input record) :
    record.Fits ∧ record.bytes = input := by
  obtain ⟨schema, state, small, length, sequence, generation, checksum, payload⟩ := accepted
  simp only [nvsHeaderLen, nvsPayloadMax] at small length
  have long : 24 ≤ input.length := by omega
  have width : record.payload.length = ofBytes (field input 2 4) := by
    rw [payload, List.length_drop, length, nvsHeaderLen]
    omega
  have wide : ∀ start stop, stop ≤ 24 → (field input start stop).length = stop - start :=
    fun _ _ inside => length_field (inside.trans long)
  have split : field input 0 1 ++ (field input 1 2 ++ (field input 2 4 ++
      (field input 4 12 ++ field input 12 20))) = input.take 20 := by
    rw [field_append_field input (by omega) (by omega),
      field_append_field input (by omega) (by omega),
      field_append_field input (by omega) (by omega),
      field_append_field input (by omega) (by omega)]
    rfl
  have head : recordHead record = input.take 20 := by
    rw [← split, recordHead, schema, state, width, sequence, generation,
      toBytes_ofBytes (wide 2 4 (by omega)),
      toBytes_ofBytes (wide 4 12 (by omega)),
      toBytes_ofBytes (wide 12 20 (by omega))]
  have whole : input.take 20 ++ (field input 20 24 ++ input.drop 24) = input := by
    rw [field_append_drop input (by omega), List.take_append_drop]
  have below : ∀ {bytes : List UInt8}, bytes.length = 8 → ofBytes bytes ≤ Checked.u64Max :=
    fun {bytes} eight => Nat.le_sub_one_of_lt (by simpa [eight] using ofBytes_lt bytes)
  refine ⟨⟨?_, ?_, ?_⟩, ?_⟩
  · rw [sequence]
    exact below (wide 4 12 (by omega))
  · rw [generation]
    exact below (wide 12 20 (by omega))
  · rw [width]
    exact small
  · rw [RecordRef.bytes, head, payload, checksum,
      toBytes_ofBytes (wide 20 24 (by omega))]
    exact whole

/-! ## The codec -/

/-- What was encoded is decoded. -/
theorem decodeRecord_encodeRecord (sequence generation : UInt64) (state : RecordState)
    (small : payload.length ≤ nvsPayloadMax)
    (room : nvsHeaderLen + payload.length ≤ output.length) :
    ∃ written rest : List UInt8,
      encodeRecord sequence generation state payload output =
          (.ok written.length, written ++ rest) ∧
        written.length = nvsHeaderLen + payload.length ∧
        rest = output.drop written.length ∧
        decodeRecord written = .ok (recordOf sequence generation state payload) := by
  have size := length_bytes (recordOf sequence generation state payload)
  refine ⟨(recordOf sequence generation state payload).bytes, _, ?_, size, rfl, ?_⟩
  · rw [size]
    exact encodeRecord_fit sequence generation state small room
  · rw [decodeRecord_eq]
    exact decodeRecord_bytes (recordOf_fits sequence generation state small)

/-- What is decoded is encoded as it was. -/
theorem encodeRecord_decodeRecord (decoded : decodeRecord input = .ok record) :
    ∃ sequence generation : UInt64,
      record = recordOf sequence generation record.state record.payload ∧
        ∀ output : List UInt8, input.length ≤ output.length →
          encodeRecord sequence generation record.state record.payload output =
            (.ok input.length, input ++ output.drop input.length) := by
  rw [decodeRecord_eq] at decoded
  obtain ⟨fits, bytes⟩ := (accepted_of_decodeRecord decoded).bytes_eq
  have sequence : (UInt64.ofNat record.publicationSequence).toNat = record.publicationSequence :=
    UInt64.toNat_ofNat_of_lt' (Nat.lt_of_le_pred (by decide) fits.sequence)
  have generation : (UInt64.ofNat record.generation).toNat = record.generation :=
    UInt64.toNat_ofNat_of_lt' (Nat.lt_of_le_pred (by decide) fits.generation)
  have same : recordOf (UInt64.ofNat record.publicationSequence) (UInt64.ofNat record.generation)
      record.state record.payload = record := by
    simp only [recordOf, sequence, generation]
  have size : input.length = nvsHeaderLen + record.payload.length := by
    rw [← length_bytes, bytes]
  refine ⟨_, _, same.symm, fun output room => ?_⟩
  rw [encodeRecord_fit _ _ _ fits.payload (by omega), same, bytes, size]

/-- **The record codec.** Encoding and decoding undo each other, and what does not fit is
refused with the buffer as it was. -/
theorem record_codec :
    (∀ (sequence generation : UInt64) (state : RecordState) (payload output : List UInt8),
      payload.length ≤ nvsPayloadMax → nvsHeaderLen + payload.length ≤ output.length →
      ∃ written rest : List UInt8,
        encodeRecord sequence generation state payload output =
            (.ok written.length, written ++ rest) ∧
          written.length = nvsHeaderLen + payload.length ∧
          rest = output.drop written.length ∧
          decodeRecord written = .ok (recordOf sequence generation state payload)) ∧
    (∀ (input : List UInt8) (record : RecordRef), decodeRecord input = .ok record →
      ∃ sequence generation : UInt64,
        record = recordOf sequence generation record.state record.payload ∧
          ∀ output : List UInt8, input.length ≤ output.length →
            encodeRecord sequence generation record.state record.payload output =
              (.ok input.length, input ++ output.drop input.length)) ∧
    (∀ (sequence generation : UInt64) (state : RecordState) (payload output : List UInt8),
      nvsPayloadMax < payload.length ∨ output.length < nvsHeaderLen + payload.length →
      encodeRecord sequence generation state payload output = (.error .oversize, output)) :=
  ⟨fun sequence generation state _ _ small room =>
      decodeRecord_encodeRecord sequence generation state small room,
    fun _ _ => encodeRecord_decodeRecord,
    fun _ _ _ _ _ => encodeRecord_refused⟩

/-- The record of a test of the codec. -/
theorem record_codec_peer :
    decodeRecord (encodeRecord 3 7 (.identity .committing) [112, 101, 101, 114]
        (.replicate 28 0)).2 = .ok (recordOf 3 7 (.identity .committing) [112, 101, 101, 114]) := by
  obtain ⟨written, rest, encoded, size, behind, decoded⟩ :=
    record_codec.1 3 7 (.identity .committing) [112, 101, 101, 114] (.replicate 28 0)
      (by decide) (by decide)
  have none_left : rest = [] := by
    rw [behind, size]
    rfl
  rw [encoded, none_left, List.append_nil]
  exact decoded

end Deskkin.Device.RecordCodec
