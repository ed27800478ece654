/-
# The script reads what the device wrote

No two writes of the response overlap but at the byte that the service core replaces, so
each field that the script reads is the value that was written there.
-/

import Deskkin.Amp.StatusResponse

namespace Deskkin.Amp

open BigEndian Placement Device

section Fields

variable {commandId : Vector UInt8 16} {s : DeviceState}
  {profile : Option (UInt32 × RasterProfile)}

theorem memset_eq {response : List UInt8} {size : ℕ} (length : response.length = size) :
    memset response = List.replicate size 0 := by
  rw [memset, List.map_const', length]

/-- The writes meet a response that is all zero. -/
theorem ampStatusSnapshot_eq {response : List UInt8}
    (length : response.length = statusResponseSize) :
    ampStatusSnapshot commandId s profile response =
      putAll (List.replicate statusResponseSize 0)
        (statusWrites commandId s ++ profileWrites profile) := by
  rw [ampStatusSnapshot, memset_eq length]

theorem controlSnapshot_eq : controlSnapshot commandId s profile =
    putAll (putAll (List.replicate statusResponseSize 0)
      (statusWrites commandId s ++ profileWrites profile)) (overrides s) := by
  have same : ([⟨0, [1]⟩, ⟨1, [0]⟩, ⟨2, commandId.toList⟩, ⟨18, be64 s.ownerGeneration⟩] :
      List Write).map Write.shape = [(0, 1), (1, 1), (2, 16), (18, 8)] := by
    simp [Write.shape]
  have tidy : Tidy statusResponseSize [⟨0, [1]⟩, ⟨1, [0]⟩, ⟨2, commandId.toList⟩,
      ⟨18, be64 s.ownerGeneration⟩] :=
    tidy_of_shapes same (by decide) (by decide)
  rw [controlSnapshot, ampStatusSnapshot_eq]
  rw [length_putAll, List.length_replicate]
  rw [List.length_replicate]
  exact tidy.inside

theorem length_written : (putAll (List.replicate statusResponseSize 0)
    (statusWrites commandId s ++ profileWrites profile)).length = statusResponseSize := by
  rw [length_putAll, List.length_replicate]
  rw [List.length_replicate]
  exact (tidy_writes commandId s profile).inside

theorem length_controlSnapshot :
    (controlSnapshot commandId s profile).length = statusResponseSize := by
  rw [controlSnapshot_eq, length_putAll, length_written]
  rw [length_written]
  exact (tidy_overrides s).inside

/-- The range meets nothing that the service core puts over the response. -/
def Clear (start width : ℕ) : Bool :=
  [(18, 8), (26, 1), (80, 1)].all fun range => decide (Apart range (start, width))

theorem unsigned_clear {start width : ℕ} (clear : Clear start width = true) :
    unsigned (controlSnapshot commandId s profile) start (start + width) =
      unsigned (putAll (List.replicate statusResponseSize 0)
        (statusWrites commandId s ++ profileWrites profile)) start (start + width) := by
  rw [unsigned, unsigned, controlSnapshot_eq, field_putAll_apart]
  · rw [length_written]
    exact (tidy_overrides s).inside
  · exact fun write put => of_decide_eq_true (List.all_eq_true.mp clear _ (shape_override put))

variable (index : ℕ)

/-- What is read where the supervisor core wrote. -/
theorem unsigned_written {start width : ℕ} {bytes : List UInt8}
    (found : (statusWrites commandId s ++ profileWrites profile)[index]? = some ⟨start, bytes⟩)
    (size : bytes.length = width) (clear : Clear start width = true) :
    unsigned (controlSnapshot commandId s profile) start (start + width) = ofBytes bytes := by
  rw [unsigned_clear clear]
  apply unsigned_putAll index _ found (by rw [size])
  rw [List.length_replicate]
  exact tidy_writes commandId s profile

theorem word {start : ℕ} {x : UInt32}
    (found : (statusWrites commandId s ++ profileWrites profile)[index]? = some ⟨start, be32 x⟩)
    (clear : Clear start 4 = true) :
    unsigned (controlSnapshot commandId s profile) start (start + 4) = x.toNat := by
  rw [unsigned_written index found (length_be32 x) clear, ofBytes_be32]

theorem half {start : ℕ} {x : UInt16}
    (found : (statusWrites commandId s ++ profileWrites profile)[index]? = some ⟨start, be16 x⟩)
    (clear : Clear start 2 = true) :
    unsigned (controlSnapshot commandId s profile) start (start + 2) = x.toNat := by
  rw [unsigned_written index found (length_be16 x) clear, ofBytes_be16]

theorem byte {start : ℕ} {x : UInt8}
    (found : (statusWrites commandId s ++ profileWrites profile)[index]? = some ⟨start, [x]⟩)
    (clear : Clear start 1 = true) (inside : start < statusResponseSize) :
    statusByte (controlSnapshot commandId s profile) start = x.toNat := by
  rw [statusByte_eq_unsigned (by rw [length_controlSnapshot]; exact inside),
    unsigned_written index found (List.length_singleton) clear, ofBytes_singleton]

/-- What is read where the service core wrote. -/
theorem statusByte_override {start : ℕ} {x : UInt8}
    (found : (overrides s)[index]? = some ⟨start, [x]⟩) (inside : start < statusResponseSize) :
    statusByte (controlSnapshot commandId s profile) start = x.toNat := by
  have tidy : Tidy (putAll (List.replicate statusResponseSize 0)
      (statusWrites commandId s ++ profileWrites profile)).length (overrides s) := by
    rw [length_written]
    exact tidy_overrides s
  have read : unsigned (controlSnapshot commandId s profile) start (start + 1) = ofBytes [x] := by
    rw [controlSnapshot_eq]
    exact unsigned_putAll index tidy found rfl
  rw [statusByte_eq_unsigned (by rw [length_controlSnapshot]; exact inside), read,
    ofBytes_singleton]

/-- Nothing was written there. -/
theorem unsigned_blank {start width : ℕ} (clear : Clear start width = true)
    (apart : ∀ write ∈ statusWrites commandId s ++ profileWrites profile,
      Apart write.shape (start, width)) :
    unsigned (controlSnapshot commandId s profile) start (start + width) = 0 := by
  rw [unsigned_clear clear, unsigned, field_putAll_apart _ apart]
  · rw [field, List.drop_replicate, List.take_replicate]
    generalize min (start + width - start) (statusResponseSize - start) = count
    induction count with
    | zero => rfl
    | succ count ih =>
        rw [List.replicate_succ', ofBytes_append, ih]
        rfl
  · rw [List.length_replicate]
    exact (tidy_writes commandId s profile).inside

/-- Without a profile its place is blank. -/
theorem profile_blank {start width : ℕ} (clear : Clear start width = true)
    (apart : ∀ range ∈ statusShapes, Apart range (start, width)) :
    unsigned (controlSnapshot commandId s none) start (start + width) = 0 := by
  apply unsigned_blank clear
  intro write written
  rw [profileWrites, List.append_nil] at written
  exact apart _ (shape_statusWrites written)

/-! ## Fields that are made of more than one write -/

/-- The lower two bytes of a word. -/
theorem toUInt16_toNat_eq (x : UInt32) :
    (x >>> 8).toUInt8.toNat * 256 + x.toUInt8.toNat = x.toUInt16.toNat := by
  have shifted : (x >>> 8).toNat = x.toNat / 256 := by
    rw [UInt32.toNat_shiftRight]
    exact Nat.shiftRight_eq_div_pow _ 8
  rw [UInt32.toNat_toUInt8, UInt32.toNat_toUInt8, UInt32.toNat_toUInt16, shifted]
  omega

theorem deadlineMisses_read : unsigned (controlSnapshot commandId s profile) 78 80 =
    s.deadlineMisses.toUInt16.toNat := by
  have high : unsigned (controlSnapshot commandId s profile) 78 (78 + 1) =
      (s.deadlineMisses >>> 8).toUInt8.toNat :=
    (unsigned_written 22 rfl List.length_singleton rfl).trans (ofBytes_singleton _)
  have low : unsigned (controlSnapshot commandId s profile) 79 (79 + 1) =
      s.deadlineMisses.toUInt8.toNat :=
    (unsigned_written 23 rfl List.length_singleton rfl).trans (ofBytes_singleton _)
  have inside : 80 ≤ (controlSnapshot commandId s profile).length := by
    rw [length_controlSnapshot]
    decide
  rw [unsigned_split (by decide : 78 ≤ 79) (by decide) inside, high, low, ← toUInt16_toNat_eq]
  rfl

/-- The two parts of the byte do not meet. -/
theorem availabilityByte_parts (s : DeviceState) :
    s.availabilityByte.toNat &&& 0x7F = (min s.uiView 2).toNat ∧
      decide (s.availabilityByte.toNat &&& 0x80 ≠ 0) = decide (s.validResult ≠ 0) := by
  have view : min s.uiView 2 = 0 ∨ min s.uiView 2 = 1 ∨ min s.uiView 2 = 2 := by
    have small : ∀ x : Fin 256, min (UInt8.ofFin x) 2 = 0 ∨ min (UInt8.ofFin x) 2 = 1 ∨
        min (UInt8.ofFin x) 2 = 2 := by
      decide +kernel
    exact small s.uiView.toFin
  have valid : (s.validResult = 0 ∧ min s.validResult 1 = 0) ∨
      (s.validResult ≠ 0 ∧ min s.validResult 1 = 1) := by
    have small : ∀ x : Fin 256, (UInt8.ofFin x = 0 ∧ min (UInt8.ofFin x) 1 = 0) ∨
        (UInt8.ofFin x ≠ 0 ∧ min (UInt8.ofFin x) 1 = 1) := by
      decide +kernel
    exact small s.validResult.toFin
  rw [DeviceState.availabilityByte]
  rcases valid with ⟨none, zero⟩ | ⟨some, one⟩
  · rw [zero, none]
    rcases view with view | view | view <;> rw [view] <;> decide
  · rw [one, decide_eq_true some]
    rcases view with view | view | view <;> rw [view] <;> decide

theorem profileGeneration_read :
    unsigned (controlSnapshot commandId s profile) 168 172 = profileGeneration profile := by
  cases profile with
  | none =>
      have blank : unsigned (controlSnapshot commandId s none) 168 (168 + 4) = 0 :=
        profile_blank rfl (by decide)
      exact blank
  | some entry =>
      have read : unsigned (controlSnapshot commandId s (some entry)) 168 (168 + 4) =
          entry.1.toNat :=
        word 51 rfl rfl
      exact read

theorem profileValue_read (index : Fin 16) :
    unsigned (controlSnapshot commandId s profile) (172 + 4 * index) (172 + 4 * index + 4) =
      profileValue profile index := by
  have clear : ∀ index : Fin 16, Clear (172 + 4 * index) 4 = true := by decide
  cases profile with
  | none =>
      have apart :
          ∀ index : Fin 16, ∀ range ∈ statusShapes, Apart range (172 + 4 * index.val, 4) := by
        decide
      exact profile_blank (clear index) (apart index)
  | some entry =>
      apply word (52 + index) _ (clear index)
      have behind : (statusWrites commandId s).length ≤ 52 + index.val := by
        rw [show (statusWrites commandId s).length = 51 from rfl]
        omega
      rw [List.getElem?_append_right behind,
        show 52 + index.val - (statusWrites commandId s).length = index.val + 1 by
          rw [show (statusWrites commandId s).length = 51 from rfl]
          omega,
        profileWrites, List.getElem?_cons_succ, List.getElem?_map]
      simp

theorem heartbeatReceivedMs_read : unsigned (controlSnapshot commandId s profile) 32 40 =
    s.heartbeatReceivedMs.toNat := by
  have read : unsigned (controlSnapshot commandId s profile) 32 (32 + 8) =
      ofBytes (be64 s.heartbeatReceivedMs.toUInt64) :=
    unsigned_written 3 rfl (length_be64 _) rfl
  rw [ofBytes_be64, UInt32.toNat_toUInt64] at read
  exact read

/-! ## The response as a whole -/

/-- The response is one that the script accepts. -/
theorem header_read : ¬((controlSnapshot commandId s profile).length ≠ statusResponseSize ∨
    statusByte (controlSnapshot commandId s profile) 0 ≠ 1 ∨
    statusByte (controlSnapshot commandId s profile) 1 ≠ 0) := by
  have schema : statusByte (controlSnapshot commandId s profile) 0 = 1 := byte 0 rfl rfl (by decide)
  have success : statusByte (controlSnapshot commandId s profile) 1 = 0 := by
    have inside : 1 < (controlSnapshot commandId s profile).length := by
      rw [length_controlSnapshot]
      decide
    have apart : ∀ range ∈ statusShapes ++ profileShapes, Apart range (1, 1) := by decide
    rw [statusByte_eq_unsigned inside]
    exact unsigned_blank rfl fun write written => apart _ (shape_written written)
  rw [length_controlSnapshot, schema, success]
  decide

/-- **The script reads the values of the device.** -/
theorem decode_controlSnapshot (commandId : Vector UInt8 16) (s : DeviceState)
    (profile : Option (UInt32 × RasterProfile)) :
    decodeWorldStatus (controlSnapshot commandId s profile) = some (s.reported profile) := by
  have size : ∀ least value : ℕ, least ≤ statusResponseSize →
      sinceSize (controlSnapshot commandId s profile) least value = value := by
    intro least value enough
    rw [sinceSize, length_controlSnapshot, if_pos enough]
  obtain ⟨availability, valid⟩ := availabilityByte_parts s
  have availabilityByte : statusByte (controlSnapshot commandId s profile) 80 =
      s.availabilityByte.toNat :=
    statusByte_override 2 rfl (by decide)
  have publication : (if s.rendererPublication ≠ 0 then 1 else 0 : UInt8).toNat =
      if s.rendererPublication ≠ 0 then 1 else 0 := by
    split <;> rfl
  have shown : ∀ one two : UInt32, (if s.shell = shellPaired then one.toUInt8
      else two.toUInt8).toNat = (if s.shell = shellPaired then one else two).toUInt8.toNat := by
    intro one two
    split <;> rfl
  rw [decodeWorldStatus, if_neg header_read, DeviceState.reported]
  simp only [size _ _ (by decide : 160 ≤ statusResponseSize),
    size _ _ (by decide : 168 ≤ statusResponseSize),
    size _ _ (by decide : 224 ≤ statusResponseSize),
    size _ _ (by decide : 236 ≤ statusResponseSize), availabilityByte, availability, valid,
    ← publication, ← shown, Option.some.injEq, WorldStatus.mk.injEq, true_and]
  refine ⟨byte 21 rfl rfl (by decide), word 2 rfl rfl, heartbeatReceivedMs_read, word 4 rfl rfl,
    word 5 rfl rfl, word 6 rfl rfl, byte 7 rfl rfl (by decide), byte 8 rfl rfl (by decide),
    byte 9 rfl rfl (by decide), byte 10 rfl rfl (by decide), byte 11 rfl rfl (by decide),
    word 12 rfl rfl, word 13 rfl rfl, byte 14 rfl rfl (by decide), byte 15 rfl rfl (by decide),
    byte 16 rfl rfl (by decide), byte 17 rfl rfl (by decide), byte 18 rfl rfl (by decide),
    word 19 rfl rfl, word 20 rfl rfl, deadlineMisses_read, byte 25 rfl rfl (by decide),
    word 27 rfl rfl, word 28 rfl rfl, half 26 rfl rfl, word 29 rfl rfl, word 30 rfl rfl,
    word 31 rfl rfl, word 32 rfl rfl, word 33 rfl rfl, half 34 rfl rfl, half 35 rfl rfl,
    half 36 rfl rfl, byte 37 rfl rfl (by decide), byte 38 rfl rfl (by decide), word 39 rfl rfl,
    word 40 rfl rfl, word 41 rfl rfl, word 42 rfl rfl, word 43 rfl rfl, word 44 rfl rfl,
    word 45 rfl rfl, word 46 rfl rfl, word 47 rfl rfl, word 48 rfl rfl, word 49 rfl rfl,
    word 50 rfl rfl, profileGeneration_read, profileValue_read 0, profileValue_read 1,
    profileValue_read 2, profileValue_read 3, profileValue_read 4, profileValue_read 5,
    profileValue_read 6, profileValue_read 7, profileValue_read 8, profileValue_read 9,
    profileValue_read 10, profileValue_read 11, profileValue_read 12, profileValue_read 13,
    profileValue_read 14, profileValue_read 15⟩

end Fields

end Deskkin.Amp
