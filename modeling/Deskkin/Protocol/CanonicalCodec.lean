/-
# The codec is canonical

Every message has one encoding and nothing else decodes to it. The middle term of
the proof is the list of the parts of a message: the encoder writes the tag and
these parts, and a decoder that accepts has cut exactly these parts out of its
input. An encoding is therefore determined by its tag up to its length, so
neither a strict prefix nor an extension of one is another one.
-/

import Deskkin.Protocol.Codec
import Mathlib.Tactic.IntervalCases

namespace Deskkin.Protocol

/-- A panic is not among the outcomes. -/
def Rejects {α : Type*} (result : Except Fault α) : Prop :=
  ∃ error, result = .error (.codec error)

/-! ## Encoding -/

/-- A part that fits is put behind what was written before it. -/
theorem Writer.bytes_append {before rest value : List UInt8} (room : value.length ≤ rest.length) :
    Writer.bytes ⟨before ++ rest, before.length⟩ value =
      .ok ⟨(before ++ value) ++ rest.drop value.length, (before ++ value).length⟩ := by
  have fits : before.length + value.length ≤ (before ++ rest).length := by
    rw [List.length_append]
    omega
  rw [Writer.bytes, if_pos fits, List.take_left, List.length_append]
  rw [← List.drop_drop, List.drop_left]

/-- Parts that fit are put one behind the other. -/
theorem Writer.foldlM_bytes {parts : List (List UInt8)} {before rest : List UInt8}
    (room : parts.flatten.length ≤ rest.length) :
    parts.foldlM Writer.bytes ⟨before ++ rest, before.length⟩ =
      .ok ⟨(before ++ parts.flatten) ++ rest.drop parts.flatten.length,
        (before ++ parts.flatten).length⟩ := by
  induction parts generalizing before rest with
  | nil => simp [pure, Except.pure]
  | cons part parts ih =>
      rw [List.flatten_cons, List.length_append] at room
      have here : part.length ≤ rest.length := by omega
      have there : parts.flatten.length ≤ (rest.drop part.length).length := by
        rw [List.length_drop]
        omega
      rw [List.foldlM_cons, Writer.bytes_append here, Fallible.ok_bind, ih there]
      simp [List.drop_drop]

namespace Message

/-- The parts of a message behind its tag. -/
def parts : Message → List (List UInt8)
  | .pairingBegin transaction | .pairingPrepared transaction | .pairingCommit transaction
  | .pairingCommitted transaction | .pairingComplete transaction => [transaction.toList]
  | .pairingDecision transaction decision => [transaction.toList, [decisionU8 decision]]
  | .pairingClose transaction reason => [transaction.toList, [reason.asU8]]
  | .hello session protocolMajors requiredFeatures optionalFeatures requestedPermissions =>
      [session.toList, protocolMajors.bytes.toList, requiredFeatures.bytes.toList,
        optionalFeatures.bytes.toList, requestedPermissions.bytes.toList]
  | .helloAck session selectedMajor selectedFeatures grantedPermissions =>
      [session.toList, [selectedMajor], selectedFeatures.bytes.toList,
        grantedPermissions.bytes.toList]
  | .helloReject session reason => [session.toList, [helloRejectReasonAsU8 reason]]
  | .readAvailability requestId operation => [u32ToBeBytes requestId, operation.toList]
  | .availabilityResult requestId operation result =>
      [u32ToBeBytes requestId, operation.toList, [availabilityResultAsU8 result]]
  | .ping | .pong => []
  | .close reason => [[reason.asU8]]

/-- The one encoding of a message. -/
def canonical (self : Message) : List UInt8 := self.tag :: self.parts.flatten

variable (self : Message)

theorem length_canonical : self.canonical.length = self.encodedLen := by
  cases self <;> simp [canonical, parts, encodedLen, u32ToBeBytes]

theorem encodedLen_le : self.encodedLen ≤ applicationFrameMax := by
  cases self <;> simp [encodedLen, applicationFrameMax]

theorem writeBody_eq (out : Writer) : self.writeBody out = self.parts.foldlM Writer.bytes out := by
  cases self <;>
    simp only [writeBody, parts, Writer.byte, List.foldlM_cons, List.foldlM_nil, bind_pure] <;> rfl

/-- A buffer that is long enough gets the encoding, and the encoding is returned. -/
theorem encode_eq {output : List UInt8} (room : self.encodedLen ≤ output.length) :
    self.encode output = .ok self.canonical := by
  have length := self.length_canonical
  have positive : 1 ≤ self.encodedLen := by
    rw [← length]
    simp [canonical]
  have body : self.parts.flatten.length = self.encodedLen - 1 := by
    rw [← length]
    simp [canonical]
  have out : (output.take self.encodedLen).length = self.encodedLen := by
    rw [List.length_take]
    omega
  have tagged : Writer.byte ⟨output.take self.encodedLen, 0⟩ self.tag =
      .ok ⟨[self.tag] ++ (output.take self.encodedLen).drop 1, [self.tag].length⟩ := by
    have first : [self.tag].length ≤ (output.take self.encodedLen).length := by
      rw [out]
      exact positive
    show Writer.bytes ⟨[] ++ output.take self.encodedLen, ([] : List UInt8).length⟩ [self.tag] = _
    exact Writer.bytes_append first
  have rest : self.parts.flatten.length ≤ ((output.take self.encodedLen).drop 1).length := by
    rw [List.length_drop, out, body]
  rw [encode, if_neg (Nat.not_lt.mpr self.encodedLen_le), if_neg (Nat.not_lt.mpr room), tagged,
    Fallible.ok_bind, writeBody_eq, Writer.foldlM_bytes rest, Fallible.ok_bind]
  have position : ([self.tag] ++ self.parts.flatten).length = self.encodedLen := length
  have nothing : ((output.take self.encodedLen).drop 1).drop self.parts.flatten.length = [] := by
    rw [List.drop_eq_nil_iff, List.length_drop, out, body]
  rw [if_pos position, nothing, List.append_nil]
  rfl

end Message

/-! ## Cutting parts out of a body -/

variable {body rest : List UInt8} {n start : ℕ}

theorem slice_cut {v : Vector UInt8 n} (cut : slice n body start = .ok v) :
    body.drop start = v.toList ++ body.drop (start + n) := by
  unfold slice at cut
  split at cut
  · cases cut
    rw [← List.drop_drop]
    exact (List.take_append_drop n (body.drop start)).symm
  · cases cut

theorem bitsAt_cut {v : Bits} (cut : bitsAt body start = .ok v) :
    body.drop start = v.bytes.toList ++ body.drop (start + 8) := by
  simp only [bitsAt, Fallible.bind_eq_ok_iff, Fallible.pure_eq_ok_iff] at cut
  obtain ⟨bytes, cut, rfl⟩ := cut
  exact slice_cut cut

theorem byteAt_cut {byte : UInt8} (cut : byteAt body start = .ok byte) :
    body.drop start = [byte] ++ body.drop (start + 1) := by
  unfold byteAt at cut
  split at cut
  · rename_i here
    cases cut
    obtain ⟨bound, rfl⟩ := List.getElem?_eq_some_iff.mp here
    exact List.drop_eq_getElem_cons bound
  · cases cut

theorem requestId_cut {value : UInt32} (cut : requestId body = .ok value) :
    body = u32ToBeBytes value ++ body.drop 4 := by
  simp only [requestId, Fallible.bind_eq_ok_iff, Fallible.pure_eq_ok_iff] at cut
  obtain ⟨bytes, cut, rfl⟩ := cut
  have here := slice_cut cut
  have small : BigEndian.ofBytes bytes.toList < 2 ^ 32 := by
    have bound := BigEndian.ofBytes_lt bytes.toList
    rw [Vector.length_toList] at bound
    exact bound
  have same : u32ToBeBytes (UInt32.ofNat (BigEndian.ofBytes bytes.toList)) = bytes.toList := by
    rw [u32ToBeBytes, UInt32.toNat_ofNat_of_lt' small,
      BigEndian.toBytes_ofBytes (Vector.length_toList ..)]
  rw [same]
  simpa using here

variable {u : Unit} {value : Vector UInt8 16}

theorem exactly_eq_ok_iff : exactly body n = .ok u ↔ body.length = n := by
  unfold exactly
  split
  · rename_i differs
    simp [differs]
  · rename_i same
    simpa using same

/-- A body of the expected length ends where its last part ends. -/
theorem drop_exactly (length : exactly body n = .ok u) : body.drop n = [] := by
  rw [List.drop_eq_nil_iff, exactly_eq_ok_iff.mp length]

/-! ## The enumerations -/

/-- A decoder of an enumeration reads back exactly the codes its encoder writes,
which are the numbers below `count`. -/
structure Table {α : Type*} (code : α → UInt8) (read : UInt8 → Except Fault α) (count : ℕ) :
    Prop where
  read_code : ∀ value, read (code value) = .ok value
  code_of_read : ∀ v value, read v = .ok value → code value = v
  known : ∀ v, v.toNat < count → ∃ value, read v = .ok value
  beyond : ∀ v, count ≤ v.toNat → read v = .error (.codec .invalidValue)

/-- A decoder that reads its encoder's codes back, and takes no others: it is enough
that the codes are the numbers below `count`. -/
theorem Table.of_onto {α : Type*} {code : α → UInt8} {read : UInt8 → Except Fault α} {count : ℕ}
    (read_code : ∀ value, read (code value) = .ok value)
    (onto : ∀ number < count, ∃ value, (code value).toNat = number)
    (beyond : ∀ v, count ≤ v.toNat → read v = .error (.codec .invalidValue)) :
    Table code read count where
  read_code := read_code
  code_of_read v value accepted := by
    have below : v.toNat < count := by
      by_contra above
      rw [beyond v (not_lt.mp above)] at accepted
      cases accepted
    obtain ⟨written, number⟩ := onto v.toNat below
    obtain rfl := UInt8.toNat_inj.mp number
    rw [read_code] at accepted
    cases accepted
    rfl
  known v below := by
    obtain ⟨written, number⟩ := onto v.toNat below
    obtain rfl := UInt8.toNat_inj.mp number
    exact ⟨written, read_code written⟩
  beyond := beyond

theorem decision_table : Table decisionU8 decision 2 := by
  refine .of_onto (fun value => by cases value <;> rfl) ?_ ?_
  · intro number below
    interval_cases number
    exacts [⟨.confirmed, rfl⟩, ⟨.rejected, rfl⟩]
  · intro v above
    unfold decision
    split <;> first | omega | rfl

theorem pairingReason_table : Table PairingCloseReason.asU8 pairingReason 5 := by
  refine .of_onto (fun value => by cases value <;> rfl) ?_ ?_
  · intro number below
    interval_cases number
    exacts [⟨.rejected, rfl⟩, ⟨.expired, rfl⟩, ⟨.incomplete, rfl⟩,
      ⟨.storeFailed, rfl⟩, ⟨.pairingBusy, rfl⟩]
  · intro v above
    unfold pairingReason
    split <;> first | omega | rfl

theorem helloReason_table : Table helloRejectReasonAsU8 helloReason 4 := by
  refine .of_onto (fun value => by cases value <;> rfl) ?_ ?_
  · intro number below
    interval_cases number
    exacts [⟨.noCommonVersion, rfl⟩, ⟨.requiredFeatureUnsupported, rfl⟩, ⟨.sessionBusy, rfl⟩,
      ⟨.permissionDenied, rfl⟩]
  · intro v above
    unfold helloReason
    split <;> first | omega | rfl

theorem availability_table : Table availabilityResultAsU8 availability 3 := by
  refine .of_onto (fun value => by cases value <;> rfl) ?_ ?_
  · intro number below
    interval_cases number
    exacts [⟨.available, rfl⟩, ⟨.unavailable, rfl⟩, ⟨.readFailed, rfl⟩]
  · intro v above
    unfold availability
    split <;> first | omega | rfl

theorem closeReason_table : Table CloseReason.asU8 closeReason 5 := by
  refine .of_onto (fun value => by cases value <;> rfl) ?_ ?_
  · intro number below
    interval_cases number
    exacts [⟨.normal, rfl⟩, ⟨.protocol, rfl⟩, ⟨.timeout, rfl⟩, ⟨.cancelled, rfl⟩, ⟨.unpaired, rfl⟩]
  · intro v above
    unfold closeReason
    split <;> first | omega | rfl

/-! ## Decoding -/

/-- A transaction or an operation alone. -/
theorem plain_cut (length : exactly body 16 = .ok u) (cut : idAt body 0 = .ok value) :
    body = value.toList := by
  have here := slice_cut cut
  rw [drop_exactly length, List.append_nil] at here
  exact here

/-- A transaction or a session and a code behind it. -/
theorem coded_cut {code : UInt8} (length : exactly body 17 = .ok u) (cut : idAt body 0 = .ok value)
    (last : byteAt body 16 = .ok code) : body = value.toList ++ [code] := by
  have here := slice_cut cut
  have behind := byteAt_cut last
  rw [drop_exactly length, List.append_nil] at behind
  rw [List.drop_zero] at here
  rw [here, behind]

/-- What a decoder accepts is the encoding of the message it returns. -/
theorem decodeBody_canonical {tag : UInt8} {message : Message}
    (accepted : decodeBody tag body = .ok message) : tag :: body = message.canonical := by
  have made : ∀ {found : Message} {number : ℕ}, tag.toNat = number →
      found.tag.toNat = number → body = found.parts.flatten →
      tag :: body = found.canonical := by
    intro found number same tagged parts
    have tags : tag = found.tag := UInt8.toNat_inj.mp (same.trans tagged.symm)
    rw [Message.canonical, tags, parts]
  unfold decodeBody at accepted
  split at accepted <;> rename_i number
  all_goals
    simp only [Fallible.bind_eq_ok_iff, Fallible.pure_eq_ok_iff, reduceCtorEq] at accepted
  case h_1 | h_3 | h_4 | h_5 | h_7 =>
    obtain ⟨_, length, transaction, cut, rfl⟩ := accepted
    exact made number rfl (by simpa [Message.parts] using plain_cut length cut)
  case h_2 =>
    obtain ⟨_, length, transaction, cut, code, last, decision, read, rfl⟩ := accepted
    obtain rfl := decision_table.code_of_read _ _ read
    exact made number rfl (by simpa [Message.parts] using coded_cut length cut last)
  case h_6 =>
    obtain ⟨_, length, transaction, cut, code, last, reason, read, rfl⟩ := accepted
    obtain rfl := pairingReason_table.code_of_read _ _ read
    exact made number rfl (by simpa [Message.parts] using coded_cut length cut last)
  case h_8 =>
    obtain ⟨_, length, session, sessionCut, majors, majorsCut, required, requiredCut, optional,
      optionalCut, permissions, permissionsCut, rfl⟩ := accepted
    refine made number rfl ?_
    have first := slice_cut sessionCut
    rw [bitsAt_cut majorsCut, bitsAt_cut requiredCut, bitsAt_cut optionalCut,
      bitsAt_cut permissionsCut, drop_exactly length] at first
    simpa [Message.parts] using first
  case h_9 =>
    obtain ⟨_, length, session, sessionCut, major, majorCut, features, featuresCut, permissions,
      permissionsCut, rfl⟩ := accepted
    refine made number rfl ?_
    have first := slice_cut sessionCut
    rw [byteAt_cut majorCut, bitsAt_cut featuresCut, bitsAt_cut permissionsCut,
      drop_exactly length] at first
    simpa [Message.parts] using first
  case h_10 =>
    obtain ⟨_, length, session, cut, code, last, reason, read, rfl⟩ := accepted
    obtain rfl := helloReason_table.code_of_read _ _ read
    exact made number rfl (by simpa [Message.parts] using coded_cut length cut last)
  case h_11 =>
    obtain ⟨_, length, request, requestCut, operation, operationCut, rfl⟩ := accepted
    refine made number rfl ?_
    have first := requestId_cut requestCut
    rw [slice_cut operationCut, drop_exactly length] at first
    simpa [Message.parts] using first
  case h_12 =>
    obtain ⟨_, length, request, requestCut, operation, operationCut, code, last, result, read,
      rfl⟩ := accepted
    obtain rfl := availability_table.code_of_read _ _ read
    refine made number rfl ?_
    have first := requestId_cut requestCut
    rw [slice_cut operationCut, byteAt_cut last, drop_exactly length] at first
    simpa [Message.parts] using first
  case h_13 | h_14 =>
    obtain ⟨_, length, rfl⟩ := accepted
    refine made number rfl ?_
    simpa [Message.parts] using drop_exactly length
  case h_15 =>
    obtain ⟨_, length, code, last, reason, read, rfl⟩ := accepted
    obtain rfl := closeReason_table.code_of_read _ _ read
    refine made number rfl ?_
    have first := byteAt_cut last
    rw [drop_exactly length] at first
    simpa [Message.parts] using first

/-! ## Reading an encoding back -/

theorem slice_here (v : Vector UInt8 n) (rest : List UInt8) :
    slice n (v.toList ++ rest) 0 = .ok v := by
  have room : 0 + n ≤ (v.toList ++ rest).length := by simp
  have here : ((v.toList ++ rest).drop 0).take n = v.toList :=
    List.take_left' (Vector.length_toList ..)
  rw [slice, dif_pos room]
  simp only [here, Except.ok.injEq]
  rfl

theorem slice_all (v : Vector UInt8 n) : slice n v.toList 0 = .ok v := by
  have here := slice_here v []
  rwa [List.append_nil] at here

/-- A part before the slice is skipped. -/
theorem slice_skip (part rest : List UInt8) (behind : part.length ≤ start) :
    slice n (part ++ rest) start = slice n rest (start - part.length) := by
  have same : (part ++ rest).drop start = rest.drop (start - part.length) := by
    rw [List.drop_append, List.drop_eq_nil_of_le behind, List.nil_append]
  have room : start + n ≤ (part ++ rest).length ↔ start - part.length + n ≤ rest.length := by
    rw [List.length_append]
    omega
  simp only [slice, same, room]

theorem slice_cons (byte : UInt8) (rest : List UInt8) (behind : 1 ≤ start) :
    slice n (byte :: rest) start = slice n rest (start - 1) :=
  slice_skip [byte] rest behind

theorem byteAt_skip (part rest : List UInt8) (behind : part.length ≤ start) :
    byteAt (part ++ rest) start = byteAt rest (start - part.length) := by
  rw [byteAt, byteAt, List.getElem?_append_right behind]

theorem byteAt_here (byte : UInt8) (rest : List UInt8) : byteAt (byte :: rest) 0 = .ok byte := rfl

@[simp]
theorem length_u32ToBeBytes (value : UInt32) : (u32ToBeBytes value).length = 4 :=
  BigEndian.length_toBytes ..

theorem requestId_here (value : UInt32) (rest : List UInt8) :
    requestId (u32ToBeBytes value ++ rest) = .ok value := by
  let v : Vector UInt8 4 := ⟨(u32ToBeBytes value).toArray, by simp⟩
  have same : v.toList = u32ToBeBytes value := rfl
  rw [requestId, ← same, slice_here, Fallible.ok_bind, same, u32ToBeBytes,
    BigEndian.ofBytes_toBytes value.toNat_lt]
  simp

/-- The body of a message is read back as that message. -/
theorem decodeBody_of_message (message : Message) :
    decodeBody message.tag message.parts.flatten = .ok message := by
  cases message <;>
    simp [decodeBody, Message.tag, Message.parts, exactly, idAt, bitsAt, slice_here, slice_all,
      slice_skip, slice_cons, byteAt_skip, byteAt_here, requestId_here, decision_table.read_code,
      pairingReason_table.read_code, helloReason_table.read_code, availability_table.read_code,
      closeReason_table.read_code]

/-! ## No panic -/

def NoPanic {α : Type*} (result : Except Fault α) : Prop := result ≠ .error .panicked

/-- Without a panic and without a value there is an error for the caller. -/
theorem NoPanic.rejects {α : Type*} {result : Except Fault α} (calm : NoPanic result)
    (refused : ∀ value, result ≠ .ok value) : Rejects result := by
  cases result with
  | ok value => exact absurd rfl (refused value)
  | error fault =>
      cases fault with
      | codec error => exact ⟨error, rfl⟩
      | panicked => exact absurd rfl calm

theorem noPanic_bind_iff {α β : Type} {first : Except Fault α} {next : α → Except Fault β} :
    NoPanic (first >>= next) ↔ NoPanic first ∧ ∀ a, first = .ok a → NoPanic (next a) := by
  cases first with
  | ok a => simp [NoPanic]
  | error fault => simp [NoPanic]

theorem noPanic_pure {α : Type} (value : α) : NoPanic (pure value) := by
  intro impossible
  cases impossible

theorem noPanic_exactly : NoPanic (exactly body n) := by
  unfold exactly
  split <;> simp [NoPanic]

theorem noPanic_slice_iff : NoPanic (slice n body start) ↔ start + n ≤ body.length := by
  unfold slice
  split <;> simp_all [NoPanic]

theorem noPanic_byteAt_iff : NoPanic (byteAt body start) ↔ start < body.length := by
  unfold byteAt
  split
  · rename_i here
    simp [NoPanic, (List.getElem?_eq_some_iff.mp here).1]
  · rename_i here
    simp [NoPanic, List.getElem?_eq_none_iff.mp here]

theorem Table.noPanic {α : Type} {code : α → UInt8} {read : UInt8 → Except Fault α} {count : ℕ}
    (table : Table code read count) (v : UInt8) : NoPanic (read v) := by
  by_cases above : count ≤ v.toNat
  · rw [table.beyond v above]
    simp [NoPanic]
  · obtain ⟨value, read⟩ := table.known v (Nat.lt_of_not_le above)
    simp [NoPanic, read]

/-- The lengths are checked before the slices are cut. -/
theorem noPanic_decodeBody (tag : UInt8) (body : List UInt8) : NoPanic (decodeBody tag body) := by
  unfold decodeBody
  split
  case h_16 => simp [NoPanic]
  all_goals
    simp only [noPanic_bind_iff, noPanic_exactly, true_and, exactly_eq_ok_iff, idAt, bitsAt,
      requestId, noPanic_slice_iff, noPanic_byteAt_iff, noPanic_pure, decision_table.noPanic,
      pairingReason_table.noPanic, helloReason_table.noPanic, availability_table.noPanic,
      closeReason_table.noPanic, implies_true, and_true]
  all_goals
    intro _ length
    simp [length]

namespace Message

theorem noPanic_decode (input : List UInt8) : NoPanic (decode input) := by
  cases input with
  | nil => simp [decode, NoPanic]
  | cons tag body =>
      rw [decode]
      split
      · simp [NoPanic]
      · exact noPanic_decodeBody tag body

/-- Exactly the encodings are accepted, each as its own message. -/
theorem decode_eq_ok_iff {input : List UInt8} {message : Message} :
    decode input = .ok message ↔ input = message.canonical := by
  constructor
  · intro accepted
    cases input with
    | nil => cases accepted
    | cons tag body =>
        rw [decode] at accepted
        split at accepted
        · cases accepted
        · exact decodeBody_canonical accepted
  · rintro rfl
    have small : ¬ message.canonical.length > applicationFrameMax := by
      rw [length_canonical]
      exact Nat.not_lt.mpr message.encodedLen_le
    rw [canonical] at small ⊢
    rw [decode, if_neg small, decodeBody_of_message]

variable {first second : Message}

/-- The tag determines the length. -/
theorem encodedLen_of_tag (same : first.tag = second.tag) :
    first.encodedLen = second.encodedLen := by
  have fromTag : ∀ message : Message, message.encodedLen =
      match message.tag.toNat with
      | 2 | 6 | 0x12 => 18
      | 0x10 => 49
      | 0x11 => 34
      | 0x20 => 21
      | 0x21 => 22
      | 0x30 | 0x31 => 1
      | 0x32 => 2
      | _ => 17 := by
    intro message
    cases message <;> rfl
  rw [fromTag first, fromTag second, same]

/-- An encoding that starts with another encoding is that encoding. -/
theorem canonical_of_starts (starts : first.canonical <+: second.canonical) :
    first.canonical = second.canonical := by
  obtain ⟨rest, whole⟩ := starts
  have heads : first.tag = second.tag := by
    simp only [canonical, List.cons_append, List.cons.injEq] at whole
    exact whole.1
  apply List.IsPrefix.eq_of_length ⟨rest, whole⟩
  rw [length_canonical, length_canonical, encodedLen_of_tag heads]

/-- The position of the byte of an enumeration in an encoding, and the number of
its values. -/
def enumByte : Message → Option (ℕ × ℕ)
  | .pairingDecision _ _ => some (17, 2)
  | .pairingClose _ _ => some (17, 5)
  | .helloReject _ _ => some (17, 4)
  | .availabilityResult _ _ _ => some (21, 3)
  | .close _ => some (1, 5)
  | _ => none

/-- An encoding with a byte beyond an enumeration is rejected. -/
theorem decode_set_enumByte {message : Message} {offset count : ℕ}
    (position : message.enumByte = some (offset, count)) {v : UInt8} (beyond : count ≤ v.toNat) :
    decode (message.canonical.set offset v) = .error (.codec .invalidValue) := by
  have small : ¬ (message.canonical.set offset v).length > applicationFrameMax := by
    rw [List.length_set, length_canonical]
    exact Nat.not_lt.mpr message.encodedLen_le
  cases message <;> cases position <;> rw [canonical] at small ⊢ <;>
    simp only [List.set_cons_succ] at small ⊢ <;> rw [decode, if_neg small]
  all_goals
    simp [decodeBody, tag, parts, List.set_append_right, exactly, idAt, slice_here, slice_skip,
      byteAt_skip, byteAt_here, requestId_here, beyond, decision_table.beyond,
      pairingReason_table.beyond, helloReason_table.beyond, availability_table.beyond,
      closeReason_table.beyond]

/-- **The codec is a canonical bijection.** A message that is encoded into a
buffer with room for it is decoded as itself, and what is decoded as a message is
its encoding. Strict prefixes and extensions of encodings, unknown tags and bytes
beyond an enumeration are rejected with an error. -/
theorem codec_canonical :
    (∀ (message : Message) (output : List UInt8), message.encodedLen ≤ output.length →
      ∃ bytes, message.encode output = .ok bytes ∧ decode bytes = .ok message) ∧
    (∀ (input : List UInt8) (message : Message), decode input = .ok message →
      ∀ output : List UInt8, input.length ≤ output.length →
        message.encode output = .ok input) ∧
    (∀ (message : Message) (output bytes input : List UInt8),
      message.encode output = .ok bytes → input ≠ bytes →
        input <+: bytes ∨ bytes <+: input → Rejects (decode input)) ∧
    (∀ (tag : UInt8) (body : List UInt8), (∀ message : Message, message.tag ≠ tag) →
      Rejects (decode (tag :: body))) ∧
    (∀ (message : Message) (output bytes : List UInt8) (offset count : ℕ) (v : UInt8),
      message.encode output = .ok bytes → message.enumByte = some (offset, count) →
        count ≤ v.toNat → Rejects (decode (bytes.set offset v))) := by
  have encoded : ∀ {message : Message} {output bytes : List UInt8},
      message.encode output = .ok bytes → bytes = message.canonical := by
    intro message output bytes success
    by_cases room : message.encodedLen ≤ output.length
    · rw [encode_eq message room] at success
      cases success
      rfl
    · rw [encode, if_neg (Nat.not_lt.mpr message.encodedLen_le),
        if_pos (Nat.lt_of_not_le room)] at success
      cases success
  refine ⟨?_, ?_, ?_, ?_, ?_⟩
  · intro message output room
    exact ⟨message.canonical, encode_eq message room, decode_eq_ok_iff.mpr rfl⟩
  · intro input message accepted output room
    obtain rfl := decode_eq_ok_iff.mp accepted
    rw [length_canonical] at room
    exact encode_eq message room
  · intro message output bytes input success differs overlap
    obtain rfl := encoded success
    apply (noPanic_decode input).rejects
    intro other accepted
    obtain rfl := decode_eq_ok_iff.mp accepted
    cases overlap with
    | inl starts => exact differs (canonical_of_starts starts)
    | inr starts => exact differs (canonical_of_starts starts).symm
  · intro tag body unknown
    apply (noPanic_decode _).rejects
    intro message accepted
    have whole := decode_eq_ok_iff.mp accepted
    rw [canonical, List.cons.injEq] at whole
    exact unknown message whole.1.symm
  · intro message output bytes offset count v success position beyond
    obtain rfl := encoded success
    exact ⟨_, decode_set_enumByte position beyond⟩

end Message

end Deskkin.Protocol
