/-
# Records in flash

A record carries a schema, a state, a publication sequence, a generation and a
bounded payload under a checksum. Of the two slots of a namespace the record with
the greater sequence counts; a slot that does not decode, or two records of one
sequence that differ, are refused.
-/

import Deskkin.Lib.BigEndian
import Deskkin.Lib.Checked

namespace Deskkin.Device

open BigEndian

inductive PeerState
  | unpaired
  | pending
  | committing
  | paired
  | revoking
  deriving DecidableEq

inductive RecordState
  | identity (peer : PeerState)
  | configPresent
  | configCleared
  deriving DecidableEq

inductive DecodeError
  | truncated
  | oversize
  | unknownSchema
  | unknownState
  | invalidLength
  | invalidCrc
  | conflictingSlots
  | invalidConfig
  | unknownCommand
  | trailingBytes
  deriving DecidableEq

def RecordState.wire : RecordState → UInt8
  | .identity .unpaired => 0
  | .identity .pending => 1
  | .identity .committing => 2
  | .identity .paired => 3
  | .identity .revoking => 4
  | .configPresent => 0x10
  | .configCleared => 0x11

def RecordState.ofWire (value : UInt8) : Option RecordState :=
  if value = 0 then some (.identity .unpaired)
  else if value = 1 then some (.identity .pending)
  else if value = 2 then some (.identity .committing)
  else if value = 3 then some (.identity .paired)
  else if value = 4 then some (.identity .revoking)
  else if value = 0x10 then some .configPresent
  else if value = 0x11 then some .configCleared
  else none

def schemaVersion : UInt8 := 1

def nvsHeaderLen : ℕ := 24

def nvsPayloadMax : ℕ := 160

/-! ## The checksum -/

def crc32Bit (crc : UInt32) : UInt32 := (crc >>> 1) ^^^ (0xedb88320 &&& (0 - (crc &&& 1)))

def crc32Byte (crc : UInt32) (byte : UInt8) : UInt32 :=
  Nat.iterate crc32Bit 8 (crc ^^^ byte.toUInt32)

def crc32Update (crc : UInt32) (bytes : List UInt8) : UInt32 := bytes.foldl crc32Byte crc

def crc32 (bytes : List UInt8) : UInt32 := ~~~crc32Update 0xffffffff bytes

/-! ## Encoding and decoding -/

structure RecordRef where
  publicationSequence : ℕ
  generation : ℕ
  state : RecordState
  payload : List UInt8
  deriving DecidableEq

/-- The first twenty bytes of a record. -/
def recordHead (record : RecordRef) : List UInt8 :=
  [schemaVersion] ++ ([record.state.wire] ++ (toBytes 2 record.payload.length ++
    (toBytes 8 record.publicationSequence ++ toBytes 8 record.generation)))

def encodeRecord (record : RecordRef) : Except DecodeError (List UInt8) :=
  if nvsPayloadMax < record.payload.length then .error .oversize
  else
    let crc := crc32 (recordHead record ++ (toBytes 4 0 ++ record.payload))
    .ok (recordHead record ++ (toBytes 4 crc.toNat ++ record.payload))

def decodeRecord (input : List UInt8) : Except DecodeError RecordRef :=
  if input.length < nvsHeaderLen then .error .truncated
  else if field input 0 1 ≠ [schemaVersion] then .error .unknownSchema
  else
    match (field input 1 2).head?.bind RecordState.ofWire with
    | none => .error .unknownState
    | some state =>
        let length := ofBytes (field input 2 4)
        if nvsPayloadMax < length ∨ input.length ≠ nvsHeaderLen + length then
          .error .invalidLength
        else if (crc32 (input.take 20 ++ (toBytes 4 0 ++ input.drop nvsHeaderLen))).toNat ≠
            ofBytes (field input 20 24) then
          .error .invalidCrc
        else
          .ok { publicationSequence := ofBytes (field input 4 12)
                generation := ofBytes (field input 12 20)
                state := state
                payload := input.drop nvsHeaderLen }

def decodeSlot : Option (List UInt8) → Except DecodeError (Option RecordRef)
  | none => .ok none
  | some bytes => (decodeRecord bytes).map some

/-- The record that counts. -/
def selectSlot (first second : Option (List UInt8)) : Except DecodeError (Option RecordRef) :=
  match decodeSlot first, decodeSlot second with
  | .error error, _ => .error error
  | .ok _, .error error => .error error
  | .ok none, .ok none => .ok none
  | .ok (some value), .ok none | .ok none, .ok (some value) => .ok (some value)
  | .ok (some left), .ok (some right) =>
      if right.publicationSequence < left.publicationSequence then .ok (some left)
      else if left.publicationSequence < right.publicationSequence then .ok (some right)
      else if left = right then .ok (some left)
      else .error .conflictingSlots

/-! ## What is encoded is decoded -/

/-- The numbers of a record are within their types and the payload fits. -/
structure RecordRef.Fits (record : RecordRef) : Prop where
  sequence : record.publicationSequence ≤ Checked.u64Max
  generation : record.generation ≤ Checked.u64Max
  payload : record.payload.length ≤ nvsPayloadMax

theorem ofWire_wire (state : RecordState) : RecordState.ofWire state.wire = some state := by
  cases state with
  | identity peer => cases peer <;> rfl
  | configPresent => rfl
  | configCleared => rfl

/-- The bytes of a record that fits. -/
def RecordRef.bytes (record : RecordRef) : List UInt8 :=
  recordHead record ++
    (toBytes 4 (crc32 (recordHead record ++ (toBytes 4 0 ++ record.payload))).toNat ++
      record.payload)

variable {record : RecordRef} {other : Option RecordRef} {left right : RecordRef}

theorem encodeRecord_of_fits (fits : record.Fits) : encodeRecord record = .ok record.bytes := by
  have small := fits.payload
  rw [encodeRecord, if_neg (by omega)]
  rfl

@[simp]
theorem length_recordHead (record : RecordRef) : (recordHead record).length = 20 := by
  simp [recordHead]

theorem length_bytes (record : RecordRef) :
    record.bytes.length = nvsHeaderLen + record.payload.length := by
  simp [RecordRef.bytes, nvsHeaderLen]
  omega

/-- A field of the head of a record. -/
theorem field_bytes {start stop : ℕ} (before bytes after : List UInt8)
    (split : recordHead record = before ++ (bytes ++ after)) (from_start : before.length = start)
    (width : bytes.length = stop - start) : field record.bytes start stop = bytes := by
  rw [RecordRef.bytes, split, List.append_assoc, List.append_assoc]
  exact field_append from_start width

/-- **Round trip.** A record that fits is decoded as it was encoded. -/
theorem decodeRecord_bytes (fits : record.Fits) : decodeRecord record.bytes = .ok record := by
  have size := length_bytes record
  have sequence := fits.sequence
  have generation := fits.generation
  have payload := fits.payload
  simp only [nvsHeaderLen, nvsPayloadMax, Checked.u64Max] at size sequence generation payload
  have schema : field record.bytes 0 1 = [schemaVersion] :=
    field_bytes [] [schemaVersion] ([record.state.wire] ++ (toBytes 2 record.payload.length ++
      (toBytes 8 record.publicationSequence ++ toBytes 8 record.generation))) rfl rfl rfl
  have state : field record.bytes 1 2 = [record.state.wire] :=
    field_bytes [schemaVersion] [record.state.wire] (toBytes 2 record.payload.length ++
      (toBytes 8 record.publicationSequence ++ toBytes 8 record.generation)) rfl rfl rfl
  have width : field record.bytes 2 4 = toBytes 2 record.payload.length :=
    field_bytes ([schemaVersion] ++ [record.state.wire]) (toBytes 2 record.payload.length)
      (toBytes 8 record.publicationSequence ++ toBytes 8 record.generation)
      (by simp [recordHead]) rfl (by simp)
  have first : field record.bytes 4 12 = toBytes 8 record.publicationSequence :=
    field_bytes ([schemaVersion] ++ [record.state.wire] ++ toBytes 2 record.payload.length)
      (toBytes 8 record.publicationSequence) (toBytes 8 record.generation)
      (by simp [recordHead]) (by simp) (by simp)
  have second : field record.bytes 12 20 = toBytes 8 record.generation :=
    field_bytes ([schemaVersion] ++ [record.state.wire] ++ toBytes 2 record.payload.length ++
      toBytes 8 record.publicationSequence) (toBytes 8 record.generation) []
      (by simp [recordHead]) (by simp) (by simp)
  have checksum : field record.bytes 20 24 =
      toBytes 4 (crc32 (recordHead record ++ (toBytes 4 0 ++ record.payload))).toNat :=
    field_append (length_recordHead record) (by simp)
  have head : record.bytes.take 20 = recordHead record := by
    rw [RecordRef.bytes, ← length_recordHead record, List.take_left]
  have rest : record.bytes.drop 24 = record.payload := by
    rw [RecordRef.bytes, ← List.append_assoc]
    exact List.drop_left' (by simp)
  have crcSmall : (crc32 (recordHead record ++ (toBytes 4 0 ++ record.payload))).toNat <
      256 ^ 4 := UInt32.toNat_lt _
  rw [decodeRecord, if_neg (by simp only [nvsHeaderLen]; omega), if_neg (by simp [schema]), state]
  simp only [List.head?_cons, Option.bind_some, ofWire_wire, width, first, second, checksum, head,
    rest, nvsHeaderLen, nvsPayloadMax]
  rw [ofBytes_toBytes (by omega), ofBytes_toBytes crcSmall, ofBytes_toBytes (by omega),
    ofBytes_toBytes (by omega), if_neg (by omega), if_neg (by simp)]

/-- The slot of a record. -/
theorem decodeSlot_bytes (fits : record.Fits) :
    decodeSlot (some record.bytes) = .ok (some record) := by
  rw [decodeSlot, decodeRecord_bytes fits]
  rfl

/-- The sequence from which the next publication is numbered. -/
def sequenceOf (found : Option RecordRef) : ℕ := found.elim 0 RecordRef.publicationSequence

/-- Two slots of which the first has the greater sequence. -/
theorem selectSlot_newer_left (fits : record.Fits) {second : Option (List UInt8)}
    (decoded : decodeSlot second = .ok other)
    (newer : sequenceOf other < record.publicationSequence) :
    selectSlot (some record.bytes) second = .ok (some record) := by
  cases other with
  | none => simp only [selectSlot, decodeSlot_bytes fits, decoded]
  | some other =>
      have newer : other.publicationSequence < record.publicationSequence := newer
      simp only [selectSlot, decodeSlot_bytes fits, decoded, if_pos newer]

/-- Two slots of which the second has the greater sequence. -/
theorem selectSlot_newer_right (fits : record.Fits) {first : Option (List UInt8)}
    (decoded : decodeSlot first = .ok other)
    (newer : sequenceOf other < record.publicationSequence) :
    selectSlot first (some record.bytes) = .ok (some record) := by
  cases other with
  | none => simp only [selectSlot, decodeSlot_bytes fits, decoded]
  | some other =>
      have newer : other.publicationSequence < record.publicationSequence := newer
      simp only [selectSlot, decodeSlot_bytes fits, decoded, if_neg newer.not_gt, if_pos newer]

theorem selectSlot_right (leftFits : left.Fits) (rightFits : right.Fits)
    (newer : left.publicationSequence < right.publicationSequence) :
    selectSlot (some left.bytes) (some right.bytes) = .ok (some right) :=
  selectSlot_newer_right rightFits (decodeSlot_bytes leftFits) newer

theorem selectSlot_left (leftFits : left.Fits) (rightFits : right.Fits)
    (newer : right.publicationSequence < left.publicationSequence) :
    selectSlot (some left.bytes) (some right.bytes) = .ok (some left) :=
  selectSlot_newer_left leftFits (decodeSlot_bytes rightFits) newer

theorem selectSlot_only_left {left : RecordRef} (fits : left.Fits) :
    selectSlot (some left.bytes) none = .ok (some left) := by
  rw [selectSlot, decodeSlot_bytes fits]
  rfl

theorem selectSlot_only_right {right : RecordRef} (fits : right.Fits) :
    selectSlot none (some right.bytes) = .ok (some right) := by
  rw [selectSlot, decodeSlot_bytes fits]
  rfl

end Deskkin.Device
