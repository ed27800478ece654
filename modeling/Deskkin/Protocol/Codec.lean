/-
# The message codec

The plaintext messages of the protocol and their bytes. A message is a tag byte
and a body of a length that the tag determines. The encoder writes the parts of
a body one after the other into a buffer of its caller; the decoder checks the
tag and the length and cuts the parts out at fixed offsets. Both index slices,
so a slip in an offset or a length would show up as a panic.
-/

import Deskkin.Lib.BigEndian
import Deskkin.Lib.Fallible
import Deskkin.Protocol.Client

namespace Deskkin.Protocol

def applicationFrameMax : ℕ := 16 * 1024

abbrev TransactionId := Vector UInt8 16

@[ext]
structure Bits where
  bytes : Vector UInt8 8
  deriving DecidableEq

inductive PairingDecision
  | confirmed
  | rejected
  deriving DecidableEq

inductive PairingCloseReason
  | rejected
  | expired
  | incomplete
  | storeFailed
  | pairingBusy
  deriving DecidableEq

inductive CloseReason
  | normal
  | protocol
  | timeout
  | cancelled
  | unpaired
  deriving DecidableEq

inductive Message
  | pairingBegin (transaction : TransactionId)
  | pairingDecision (transaction : TransactionId) (decision : PairingDecision)
  | pairingPrepared (transaction : TransactionId)
  | pairingCommit (transaction : TransactionId)
  | pairingCommitted (transaction : TransactionId)
  | pairingClose (transaction : TransactionId) (reason : PairingCloseReason)
  | pairingComplete (transaction : TransactionId)
  | hello (session : ContextId) (protocolMajors requiredFeatures optionalFeatures
      requestedPermissions : Bits)
  | helloAck (session : ContextId) (selectedMajor : UInt8)
      (selectedFeatures grantedPermissions : Bits)
  | helloReject (session : ContextId) (reason : HelloRejectReason)
  | readAvailability (requestId : UInt32) (operation : ContextId)
  | availabilityResult (requestId : UInt32) (operation : ContextId) (result : AvailabilityResult)
  | ping
  | pong
  | close (reason : CloseReason)
  deriving DecidableEq

inductive CodecError
  | bufferTooSmall
  | empty
  | unknownTag (tag : UInt8)
  | invalidValue
  | trailingBytes
  | oversize
  deriving DecidableEq

/-- How a call can end without a value: with an error for its caller, or in a
panic. -/
inductive Fault
  | codec (error : CodecError)
  | panicked
  deriving DecidableEq

/-! ## The codes of the enumerations -/

/-- The table the encoder uses for a decision. -/
def decisionU8 : PairingDecision → UInt8
  | .confirmed => 0
  | .rejected => 1

/-- The discriminant, by the order of declaration. -/
def PairingCloseReason.asU8 : PairingCloseReason → UInt8
  | .rejected => 0
  | .expired => 1
  | .incomplete => 2
  | .storeFailed => 3
  | .pairingBusy => 4

def helloRejectReasonAsU8 : HelloRejectReason → UInt8
  | .noCommonVersion => 0
  | .requiredFeatureUnsupported => 1
  | .sessionBusy => 2
  | .permissionDenied => 3

def availabilityResultAsU8 : AvailabilityResult → UInt8
  | .available => 0
  | .unavailable => 1
  | .readFailed => 2

def CloseReason.asU8 : CloseReason → UInt8
  | .normal => 0
  | .protocol => 1
  | .timeout => 2
  | .cancelled => 3
  | .unpaired => 4

/-- The decoder reads a decision in place. -/
def decision (v : UInt8) : Except Fault PairingDecision :=
  match v.toNat with
  | 0 => .ok .confirmed
  | 1 => .ok .rejected
  | _ => .error (.codec .invalidValue)

def pairingReason (v : UInt8) : Except Fault PairingCloseReason :=
  match v.toNat with
  | 0 => .ok .rejected
  | 1 => .ok .expired
  | 2 => .ok .incomplete
  | 3 => .ok .storeFailed
  | 4 => .ok .pairingBusy
  | _ => .error (.codec .invalidValue)

def helloReason (v : UInt8) : Except Fault HelloRejectReason :=
  match v.toNat with
  | 0 => .ok .noCommonVersion
  | 1 => .ok .requiredFeatureUnsupported
  | 2 => .ok .sessionBusy
  | 3 => .ok .permissionDenied
  | _ => .error (.codec .invalidValue)

def availability (v : UInt8) : Except Fault AvailabilityResult :=
  match v.toNat with
  | 0 => .ok .available
  | 1 => .ok .unavailable
  | 2 => .ok .readFailed
  | _ => .error (.codec .invalidValue)

def closeReason (v : UInt8) : Except Fault CloseReason :=
  match v.toNat with
  | 0 => .ok .normal
  | 1 => .ok .protocol
  | 2 => .ok .timeout
  | 3 => .ok .cancelled
  | 4 => .ok .unpaired
  | _ => .error (.codec .invalidValue)

/-! ## Encoding -/

namespace Message

def tag : Message → UInt8
  | .pairingBegin _ => 1
  | .pairingDecision _ _ => 2
  | .pairingPrepared _ => 3
  | .pairingCommit _ => 4
  | .pairingCommitted _ => 5
  | .pairingClose _ _ => 6
  | .pairingComplete _ => 7
  | .hello _ _ _ _ _ => 0x10
  | .helloAck _ _ _ _ => 0x11
  | .helloReject _ _ => 0x12
  | .readAvailability _ _ => 0x20
  | .availabilityResult _ _ _ => 0x21
  | .ping => 0x30
  | .pong => 0x31
  | .close _ => 0x32

def encodedLen : Message → ℕ
  | .pairingBegin _ | .pairingPrepared _ | .pairingCommit _ | .pairingCommitted _
  | .pairingComplete _ => 17
  | .pairingDecision _ _ | .pairingClose _ _ | .helloReject _ _ => 18
  | .hello _ _ _ _ _ => 49
  | .helloAck _ _ _ _ => 34
  | .readAvailability _ _ => 21
  | .availabilityResult _ _ _ => 22
  | .ping | .pong => 1
  | .close _ => 2

end Message

/-- The buffer of a caller while a message is written into it. -/
structure Writer where
  out : List UInt8
  p : ℕ

namespace Writer

/-- Copy a slice to the present position, which panics beyond the buffer. -/
def bytes (self : Writer) (value : List UInt8) : Except Fault Writer :=
  if self.p + value.length ≤ self.out.length then
    .ok ⟨self.out.take self.p ++ value ++ self.out.drop (self.p + value.length),
      self.p + value.length⟩
  else
    .error .panicked

def byte (self : Writer) (value : UInt8) : Except Fault Writer := self.bytes [value]

end Writer

def u32ToBeBytes (value : UInt32) : List UInt8 := BigEndian.toBytes 4 value.toNat

namespace Message

/-- Write the body of a message, part by part. -/
def writeBody (self : Message) (out : Writer) : Except Fault Writer :=
  match self with
  | .pairingBegin transaction | .pairingPrepared transaction | .pairingCommit transaction
  | .pairingCommitted transaction | .pairingComplete transaction => out.bytes transaction.toList
  | .pairingDecision transaction decision => do
      let out ← out.bytes transaction.toList
      out.byte (decisionU8 decision)
  | .pairingClose transaction reason => do
      let out ← out.bytes transaction.toList
      out.byte reason.asU8
  | .hello session protocolMajors requiredFeatures optionalFeatures requestedPermissions => do
      let out ← out.bytes session.toList
      let out ← out.bytes protocolMajors.bytes.toList
      let out ← out.bytes requiredFeatures.bytes.toList
      let out ← out.bytes optionalFeatures.bytes.toList
      out.bytes requestedPermissions.bytes.toList
  | .helloAck session selectedMajor selectedFeatures grantedPermissions => do
      let out ← out.bytes session.toList
      let out ← out.byte selectedMajor
      let out ← out.bytes selectedFeatures.bytes.toList
      out.bytes grantedPermissions.bytes.toList
  | .helloReject session reason => do
      let out ← out.bytes session.toList
      out.byte (helloRejectReasonAsU8 reason)
  | .readAvailability requestId operation => do
      let out ← out.bytes (u32ToBeBytes requestId)
      out.bytes operation.toList
  | .availabilityResult requestId operation result => do
      let out ← out.bytes (u32ToBeBytes requestId)
      let out ← out.bytes operation.toList
      out.byte (availabilityResultAsU8 result)
  | .ping | .pong => .ok out
  | .close reason => out.byte reason.asU8

/-- Encode into a buffer of the caller and return the part that was written. The
last check is the debug assertion of the source. -/
def encode (self : Message) (output : List UInt8) : Except Fault (List UInt8) :=
  let size := self.encodedLen
  if size > applicationFrameMax then
    .error (.codec .oversize)
  else if output.length < size then
    .error (.codec .bufferTooSmall)
  else do
    let tagged ← (Writer.mk (output.take size) 0).byte self.tag
    let written ← self.writeBody tagged
    if written.p = size then
      return written.out
    else
      .error .panicked

end Message

/-! ## Decoding -/

def exactly (body : List UInt8) (n : ℕ) : Except Fault Unit :=
  if body.length ≠ n then .error (.codec .trailingBytes) else .ok ()

/-- Copy `n` bytes out of a body, which panics beyond its end. -/
def slice (n : ℕ) (body : List UInt8) (start : ℕ) : Except Fault (Vector UInt8 n) :=
  if room : start + n ≤ body.length then
    .ok ⟨((body.drop start).take n).toArray, by simp; omega⟩
  else
    .error .panicked

def idAt (body : List UInt8) (start : ℕ) : Except Fault (Vector UInt8 16) := slice 16 body start

def bitsAt (body : List UInt8) (start : ℕ) : Except Fault Bits := do
  let v ← slice 8 body start
  return ⟨v⟩

def byteAt (body : List UInt8) (index : ℕ) : Except Fault UInt8 :=
  match body[index]? with
  | some byte => .ok byte
  | none => .error .panicked

/-- The big-endian number in the first four bytes. -/
def requestId (body : List UInt8) : Except Fault UInt32 := do
  let v ← slice 4 body 0
  return UInt32.ofNat (BigEndian.ofBytes v.toList)

def decodeBody (tag : UInt8) (body : List UInt8) : Except Fault Message :=
  match tag.toNat with
  | 0x01 => do
      exactly body 16
      return .pairingBegin (← idAt body 0)
  | 0x02 => do
      exactly body 17
      return .pairingDecision (← idAt body 0) (← decision (← byteAt body 16))
  | 0x03 => do
      exactly body 16
      return .pairingPrepared (← idAt body 0)
  | 0x04 => do
      exactly body 16
      return .pairingCommit (← idAt body 0)
  | 0x05 => do
      exactly body 16
      return .pairingCommitted (← idAt body 0)
  | 0x06 => do
      exactly body 17
      return .pairingClose (← idAt body 0) (← pairingReason (← byteAt body 16))
  | 0x07 => do
      exactly body 16
      return .pairingComplete (← idAt body 0)
  | 0x10 => do
      exactly body 48
      return .hello (← idAt body 0) (← bitsAt body 16) (← bitsAt body 24) (← bitsAt body 32)
        (← bitsAt body 40)
  | 0x11 => do
      exactly body 33
      return .helloAck (← idAt body 0) (← byteAt body 16) (← bitsAt body 17) (← bitsAt body 25)
  | 0x12 => do
      exactly body 17
      return .helloReject (← idAt body 0) (← helloReason (← byteAt body 16))
  | 0x20 => do
      exactly body 20
      return .readAvailability (← requestId body) (← idAt body 4)
  | 0x21 => do
      exactly body 21
      return .availabilityResult (← requestId body) (← idAt body 4)
        (← availability (← byteAt body 20))
  | 0x30 => do
      exactly body 0
      return .ping
  | 0x31 => do
      exactly body 0
      return .pong
  | 0x32 => do
      exactly body 1
      return .close (← closeReason (← byteAt body 0))
  | _ => .error (.codec (.unknownTag tag))

/-- Decode exactly one message. -/
def Message.decode (input : List UInt8) : Except Fault Message :=
  match input with
  | [] => .error (.codec .empty)
  | tag :: body =>
      if input.length > applicationFrameMax then
        .error (.codec .oversize)
      else
        decodeBody tag body

end Deskkin.Protocol
