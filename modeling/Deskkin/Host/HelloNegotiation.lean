/-
# The hello exchange

A peer opens its session with a hello, and the host answers with what it grants or why
it refuses. The host looks at four masks of features, byte by byte or at the first byte
alone; both of its peers compare the answer with one they have written down.
-/

import Deskkin.Device.Control
import Deskkin.Protocol.Codec
import Deskkin.Simulator.Runtime

namespace Deskkin.Host

open Protocol Device
open Simulator (SessionError)

/-! ## The masks -/

def availabilityReadV1 : Bits := ⟨#v[1, 0, 0, 0, 0, 0, 0, 0]⟩

def availabilityReadPermission : Bits := ⟨#v[1, 0, 0, 0, 0, 0, 0, 0]⟩

def protocolMajor1 : Bits := ⟨#v[2, 0, 0, 0, 0, 0, 0, 0]⟩

/-! ## The host -/

/-- The session that is granted, or the session and the reason of the refusal. -/
def negotiateHello : Message → Except (ContextId × HelloRejectReason) ContextId
  | .hello session protocolMajors requiredFeatures optionalFeatures requestedPermissions =>
      if protocolMajors.bytes[0] &&& 2 = 0 then .error (session, .noCommonVersion)
      else if
        (requiredFeatures.bytes.toList.zip availabilityReadV1.bytes.toList).any
            (fun (required, supported) => required &&& ~~~supported != 0) = true ∨
          (requiredFeatures.bytes[0] ||| optionalFeatures.bytes[0]) &&&
            availabilityReadV1.bytes[0] = 0
      then .error (session, .requiredFeatureUnsupported)
      else if requestedPermissions.bytes[0] &&& availabilityReadPermission.bytes[0] = 0 then
        .error (session, .permissionDenied)
      else .ok session
  | _ => .error (.replicate 16 0, .requiredFeatureUnsupported)

/-- The message of `write_hello_ack`. -/
def helloAck (session : ContextId) : Message :=
  .helloAck session 1 availabilityReadV1 availabilityReadPermission

/-- What the host writes in answer to a first message. -/
def helloAnswer (hello : Message) : Message :=
  match negotiateHello hello with
  | .ok session => helloAck session
  | .error (session, reason) => .helloReject session reason

/-! ## Its peers -/

/-- What the device and the initiator of a pairing send. -/
def helloMessage (session : ContextId) : Message :=
  .hello session protocolMajor1 availabilityReadV1 ⟨.replicate 8 0⟩ availabilityReadPermission

/-- The answer of the host, as the device takes it. -/
def deviceHello (session : ContextId) : Message → Except SessionFailure ContextId
  | .helloAck received selectedMajor selectedFeatures grantedPermissions =>
      if selectedMajor = 1 ∧ received = session ∧ selectedFeatures = availabilityReadV1 ∧
          grantedPermissions = availabilityReadPermission then
        .ok session
      else .error .protocol
  | .helloReject received reason =>
      if received = session then
        .error
          (match reason with
          | .noCommonVersion | .requiredFeatureUnsupported => .incompatible
          | .permissionDenied => .authorizationDenied
          | .sessionBusy => .sessionBusy)
      else .error .protocol
  | _ => .error .protocol

def rejectionError : HelloRejectReason → SessionError
  | .noCommonVersion | .requiredFeatureUnsupported => .incompatible
  | .permissionDenied => .authorizationDenied
  | .sessionBusy => .sessionBusy

/-- The answer of the host, as the initiator of a pairing takes it. It does not look at
the session of a refusal. -/
def pairInitiatorHello {α : Type} (session : ContextId) (sas : α) :
    Message → Except SessionError α
  | .helloAck received selectedMajor selectedFeatures grantedPermissions =>
      if selectedMajor = 1 ∧ received = session ∧ selectedFeatures = availabilityReadV1 ∧
          grantedPermissions = availabilityReadPermission then
        .ok sas
      else .error .protocol
  | .helloReject _ reason => .error (rejectionError reason)
  | _ => .error .protocol

/-! ## What the host asks for -/

/-- A bit of a byte. -/
def bit (byte : UInt8) (index : ℕ) : Bool := byte.toBitVec.getLsbD index

/-- A bit of a mask, counted through its bytes. -/
def Has (mask : Bits) (index : Fin 64) : Prop :=
  bit (mask.bytes.toList.getD (index / 8) 0) (index % 8) = true

/-- A hello that the host grants, by the four masks it carries. -/
structure Granted (protocolMajors requiredFeatures optionalFeatures requestedPermissions : Bits) :
    Prop where
  version : Has protocolMajors 1
  supported : ∀ index, Has requiredFeatures index → Has availabilityReadV1 index
  named : Has requiredFeatures 0 ∨ Has optionalFeatures 0
  permission : Has requestedPermissions 0

theorem and_bit_eq_zero_iff (byte : UInt8) :
    (byte &&& 1 = 0 ↔ bit byte 0 = false) ∧ (byte &&& 2 = 0 ↔ bit byte 1 = false) := by
  have all : ∀ bits : BitVec 8, (bits &&& 1 = 0 ↔ bits.getLsbD 0 = false) ∧
      (bits &&& 2 = 0 ↔ bits.getLsbD 1 = false) := by
    decide
  obtain ⟨one, two⟩ := all byte.toBitVec
  exact ⟨UInt8.toBitVec_inj.symm.trans one, UInt8.toBitVec_inj.symm.trans two⟩

/-- A byte keeps a bit outside another exactly if it has one that the other has not. -/
theorem and_not_ne_zero_iff (required supported : UInt8) :
    required &&& ~~~supported ≠ 0 ↔
      ∃ index < 8, bit required index = true ∧ bit supported index = false := by
  have bits : required &&& ~~~supported = 0 ↔
      ∀ index < 8, ¬ (bit required index = true ∧ bit supported index = false) := by
    rw [← UInt8.toBitVec_inj]
    constructor
    · intro zero index inside both
      have here := congrArg (fun bits : BitVec 8 => bits.getLsbD index) zero
      simp only [bit] at both
      simp only [UInt8.toBitVec_and, UInt8.toBitVec_not, BitVec.getLsbD_and, BitVec.getLsbD_not,
        both.1, both.2, inside, decide_true] at here
      simp at here
    · intro none_
      apply BitVec.eq_of_getLsbD_eq
      intro index inside
      have here := none_ index inside
      simp only [bit] at here
      cases one : required.toBitVec.getLsbD index <;>
        cases two : supported.toBitVec.getLsbD index <;> simp_all
  rw [ne_eq, bits]
  simp only [not_forall, not_not, exists_prop]

/-- Some byte asks for more than is supported exactly if some bit does. -/
theorem any_unsupported_iff (required supported : Bits) :
    (required.bytes.toList.zip supported.bytes.toList).any
        (fun (required, supported) => required &&& ~~~supported != 0) = true ↔
      ∃ index, Has required index ∧ ¬ Has supported index := by
  have bytes : ∀ (mask : Bits) (place : ℕ) (inside : place < 8),
      mask.bytes.toList.getD place 0 = mask.bytes[place] := by
    intro mask place inside
    rw [List.getD_eq_getElem?_getD, List.getElem?_eq_getElem (by simpa using inside),
      Option.getD_some, Vector.getElem_toList]
  rw [List.any_eq_true]
  constructor
  · rintro ⟨⟨one, two⟩, member, more⟩
    obtain ⟨place, inside, pair⟩ := List.getElem_of_mem member
    have small : place < 8 := by simpa using inside
    rw [List.getElem_zip, Prod.mk.injEq, Vector.getElem_toList, Vector.getElem_toList] at pair
    obtain ⟨rfl, rfl⟩ := pair
    obtain ⟨offset, below, asked, missing⟩ :=
      (and_not_ne_zero_iff _ _).mp (by simpa using more)
    refine ⟨⟨place * 8 + offset, by omega⟩, ?_, ?_⟩
    · simp only [Has]
      rw [show (place * 8 + offset) / 8 = place by omega,
        show (place * 8 + offset) % 8 = offset by omega, bytes _ _ small]
      exact asked
    · simp only [Has]
      rw [show (place * 8 + offset) / 8 = place by omega,
        show (place * 8 + offset) % 8 = offset by omega, bytes _ _ small, missing]
      exact Bool.false_ne_true
  · rintro ⟨index, asked, missing⟩
    have small : index.val / 8 < 8 := by omega
    rw [Has, bytes _ _ small] at asked missing
    refine ⟨(required.bytes[index.val / 8], supported.bytes[index.val / 8]), ?_, ?_⟩
    · rw [List.mem_iff_getElem]
      exact ⟨index.val / 8, by simpa using small, by simp⟩
    · have more := (and_not_ne_zero_iff required.bytes[index.val / 8]
        supported.bytes[index.val / 8]).mpr
        ⟨index.val % 8, by omega, asked, Bool.eq_false_of_not_eq_true missing⟩
      simpa using more

theorem has_first (mask : Bits) :
    (Has mask 0 ↔ bit mask.bytes[0] 0 = true) ∧ (Has mask 1 ↔ bit mask.bytes[0] 1 = true) := by
  have head : mask.bytes.toList.getD 0 0 = mask.bytes[0] := by
    rw [List.getD_eq_getElem?_getD, List.getElem?_eq_getElem (by simp), Option.getD_some,
      Vector.getElem_toList]
  constructor
  · show bit (mask.bytes.toList.getD 0 0) 0 = true ↔ _
    rw [head]
  · show bit (mask.bytes.toList.getD 0 0) 1 = true ↔ _
    rw [head]

/-- The first check of a hello that fails. -/
def FirstFailure (protocolMajors requiredFeatures optionalFeatures requestedPermissions : Bits)
    (reason : HelloRejectReason) : Prop :=
  match reason with
  | .noCommonVersion => ¬ Has protocolMajors 1
  | .requiredFeatureUnsupported =>
      Has protocolMajors 1 ∧
        ((∃ index, Has requiredFeatures index ∧ ¬ Has availabilityReadV1 index) ∨
          ¬ (Has requiredFeatures 0 ∨ Has optionalFeatures 0))
  | .permissionDenied =>
      Has protocolMajors 1 ∧ (∀ index, Has requiredFeatures index → Has availabilityReadV1 index) ∧
        (Has requiredFeatures 0 ∨ Has optionalFeatures 0) ∧ ¬ Has requestedPermissions 0
  | .sessionBusy => False

variable (session : ContextId)

/-- What the host makes of a hello, by its bits. -/
theorem negotiateHello_hello (majors required optional permissions : Bits) :
    (negotiateHello (.hello session majors required optional permissions) = .ok session ∧
        Granted majors required optional permissions) ∨
      ∃ reason,
        negotiateHello (.hello session majors required optional permissions) =
            .error (session, reason) ∧
          FirstFailure majors required optional permissions reason ∧
          ¬ Granted majors required optional permissions := by
  have version : majors.bytes[0] &&& 2 = 0 ↔ ¬ Has majors 1 := by
    rw [(and_bit_eq_zero_iff _).2, (has_first majors).2, Bool.not_eq_true]
  have permission : permissions.bytes[0] &&& availabilityReadPermission.bytes[0] = 0 ↔
      ¬ Has permissions 0 := by
    rw [show availabilityReadPermission.bytes[0] = 1 from rfl, (and_bit_eq_zero_iff _).1,
      (has_first permissions).1, Bool.not_eq_true]
  have either : bit (required.bytes[0] ||| optional.bytes[0]) 0 =
      (bit required.bytes[0] 0 || bit optional.bytes[0] 0) := by
    rw [bit, UInt8.toBitVec_or, BitVec.getLsbD_or]
    rfl
  have named : (required.bytes[0] ||| optional.bytes[0]) &&& availabilityReadV1.bytes[0] = 0 ↔
      ¬ (Has required 0 ∨ Has optional 0) := by
    rw [show availabilityReadV1.bytes[0] = 1 from rfl, (and_bit_eq_zero_iff _).1, either,
      (has_first required).1, (has_first optional).1, ← Bool.or_eq_true, Bool.not_eq_true]
  have features : ((required.bytes.toList.zip availabilityReadV1.bytes.toList).any
        (fun (required, supported) => required &&& ~~~supported != 0) = true ∨
      (required.bytes[0] ||| optional.bytes[0]) &&& availabilityReadV1.bytes[0] = 0) ↔
      ((∃ index, Has required index ∧ ¬ Has availabilityReadV1 index) ∨
        ¬ (Has required 0 ∨ Has optional 0)) := by
    rw [any_unsupported_iff, named]
  simp only [negotiateHello]
  by_cases offered : Has majors 1
  · rw [if_neg (by rw [version]; exact not_not_intro offered)]
    by_cases unsupported : (∃ index, Has required index ∧ ¬ Has availabilityReadV1 index) ∨
        ¬ (Has required 0 ∨ Has optional 0)
    · rw [if_pos (features.mpr unsupported)]
      refine .inr ⟨_, rfl, ⟨offered, unsupported⟩, fun granted => ?_⟩
      rcases unsupported with ⟨index, asked, missing⟩ | unnamed
      · exact missing (granted.supported index asked)
      · exact unnamed granted.named
    · rw [if_neg (by rw [features]; exact unsupported)]
      rw [not_or, not_exists, not_not] at unsupported
      have within : ∀ index, Has required index → Has availabilityReadV1 index :=
        fun index asked => by_contra fun missing => unsupported.1 index ⟨asked, missing⟩
      by_cases permitted : Has permissions 0
      · rw [if_neg (by rw [permission]; exact not_not_intro permitted)]
        exact .inl ⟨rfl, offered, within, unsupported.2, permitted⟩
      · rw [if_pos (permission.mpr permitted)]
        exact .inr ⟨_, rfl, ⟨offered, within, unsupported.2, permitted⟩,
          fun granted => permitted granted.permission⟩
  · rw [if_pos (version.mpr offered)]
    exact .inr ⟨_, rfl, offered, fun granted => offered granted.version⟩

/-! ## The exchange -/

/-- The class of a refusal, for the device and for the initiator of a pairing. -/
def RefusedAs (reason : HelloRejectReason) (failure : SessionFailure) (error : SessionError) :
    Prop :=
  match reason with
  | .noCommonVersion | .requiredFeatureUnsupported =>
      failure = .incompatible ∧ error = .incompatible
  | .permissionDenied => failure = .authorizationDenied ∧ error = .authorizationDenied
  | .sessionBusy => failure = .sessionBusy ∧ error = .sessionBusy

theorem deviceHello_reject (reason : HelloRejectReason) {α : Type} (sas : α) :
    ∃ failure error, deviceHello session (.helloReject session reason) = .error failure ∧
      pairInitiatorHello session sas (.helloReject session reason) = .error error ∧
      RefusedAs reason failure error := by
  cases reason <;> exact ⟨_, _, if_pos rfl, rfl, rfl, rfl⟩

theorem deviceHello_ack {α : Type} (sas : α) :
    deviceHello session (helloAck session) = .ok session ∧
      pairInitiatorHello session sas (helloAck session) = .ok sas :=
  ⟨if_pos ⟨rfl, rfl, rfl, rfl⟩, if_pos ⟨rfl, rfl, rfl, rfl⟩⟩

/-- What the host makes of a first message and what its peers make of the answer. -/
structure HelloLaw (message : Message) : Prop where
  granted : ∀ session, negotiateHello message = .ok session ↔
    ∃ majors required optional permissions,
      message = .hello session majors required optional permissions ∧
        Granted majors required optional permissions
  refused : ∀ session majors required optional permissions,
    message = .hello session majors required optional permissions →
    ¬ Granted majors required optional permissions →
      ∃ reason, negotiateHello message = .error (session, reason) ∧
        FirstFailure majors required optional permissions reason
  other : (∀ session majors required optional permissions,
      message ≠ .hello session majors required optional permissions) →
    negotiateHello message = .error (.replicate 16 0, .requiredFeatureUnsupported)
  accepted : ∀ session, negotiateHello message = .ok session →
    helloAnswer message = helloAck session ∧
      deviceHello session (helloAnswer message) = .ok session ∧
      ∀ sas : String, pairInitiatorHello session sas (helloAnswer message) = .ok sas
  rejected : ∀ session majors required optional permissions reason,
    message = .hello session majors required optional permissions →
    negotiateHello message = .error (session, reason) →
      helloAnswer message = .helloReject session reason ∧ reason ≠ .sessionBusy ∧
        ∀ sas : String, ∃ failure error,
          deviceHello session (helloAnswer message) = .error failure ∧
            pairInitiatorHello session sas (helloAnswer message) = .error error ∧
            RefusedAs reason failure error
  busy : ∀ session, ∀ sas : String, ∃ failure error,
    deviceHello session (.helloReject session .sessionBusy) = .error failure ∧
      pairInitiatorHello session sas (.helloReject session .sessionBusy) = .error error ∧
      RefusedAs .sessionBusy failure error

theorem negotiateHello_eq_ok_iff {message : Message} {session : ContextId} :
    negotiateHello message = .ok session ↔
      ∃ majors required optional permissions,
        message = .hello session majors required optional permissions ∧
          Granted majors required optional permissions := by
  constructor
  · intro answer
    cases message with
    | hello own majors required optional permissions =>
        rcases negotiateHello_hello own majors required optional permissions with
          ⟨granted, terms⟩ | ⟨reason, refused, -, -⟩
        · cases granted.symm.trans answer
          exact ⟨_, _, _, _, rfl, terms⟩
        · cases refused.symm.trans answer
    | _ => cases answer
  · rintro ⟨majors, required, optional, permissions, rfl, terms⟩
    rcases negotiateHello_hello session majors required optional permissions with
      ⟨granted, -⟩ | ⟨reason, -, -, unfit⟩
    · exact granted
    · exact absurd terms unfit

/-- The host grants the hello of its peers, and the device takes the grant. -/
theorem helloMessage_granted :
    negotiateHello (helloMessage session) = .ok session ∧
      deviceHello session (helloAnswer (helloMessage session)) = .ok session := by
  have granted : negotiateHello (helloMessage session) = .ok session :=
    rfl
  refine ⟨granted, ?_⟩
  rw [helloAnswer, granted]
  exact (deviceHello_ack session ()).1

/-- **The hello exchange.** The host grants what has the bits it asks for and names the
first that is missing; its peers take the grant, and read the same class of failure off a
refusal of their hello. -/
theorem hello_law (message : Message) : HelloLaw message where
  granted := fun _ => negotiateHello_eq_ok_iff
  refused := by
    rintro session majors required optional permissions rfl unfit
    rcases negotiateHello_hello session majors required optional permissions with
      ⟨-, terms⟩ | ⟨reason, refused, first, -⟩
    · exact absurd terms unfit
    · exact ⟨reason, refused, first⟩
  other := by
    intro another
    cases message with
    | hello session majors required optional permissions =>
        exact absurd rfl (another session majors required optional permissions)
    | _ => rfl
  accepted := by
    intro session answer
    have wrote : helloAnswer message = helloAck session := by
      rw [helloAnswer, answer]
    refine ⟨wrote, ?_, fun sas => ?_⟩
    · rw [wrote]
      exact (deviceHello_ack session ()).1
    · rw [wrote]
      exact (deviceHello_ack session sas).2
  rejected := by
    rintro session majors required optional permissions reason rfl answer
    have wrote : helloAnswer (.hello session majors required optional permissions) =
        .helloReject session reason := by
      rw [helloAnswer, answer]
    refine ⟨wrote, ?_, fun sas => ?_⟩
    · rcases negotiateHello_hello session majors required optional permissions with
        ⟨granted, -⟩ | ⟨first, refused, fails, -⟩
      · cases granted.symm.trans answer
      · cases refused.symm.trans answer
        rintro rfl
        exact fails
    · rw [wrote]
      exact deviceHello_reject session reason sas
  busy := fun session sas => deviceHello_reject session .sessionBusy sas

/-- A first message that is no hello is refused under a session of zeros, and the device
takes the refusal for a breach of the protocol. -/
theorem ping_refused :
    deviceHello (.replicate 16 1) (helloAnswer .ping) = .error .protocol ∧
      ¬ ∀ message, (∃ session, negotiateHello message = .ok session) ∨
        ∃ session majors required optional permissions reason,
          message = .hello session majors required optional permissions ∧
            negotiateHello message = .error (session, reason) := by
  refine ⟨by decide, fun law => ?_⟩
  rcases law .ping with ⟨session, granted⟩ | ⟨_, _, _, _, _, _, hello, -⟩
  · cases granted
  · cases hello

end Deskkin.Host
