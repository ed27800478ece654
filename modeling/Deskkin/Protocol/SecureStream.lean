/-
# Messages over an encrypted stream

A message is encoded, encrypted under the number of the message and written behind its
length. The stream takes and brings the bytes in pieces of any size, either side may stop
in the middle of a frame, and each program has buffers of its own: the device holds
frames of 128 bytes, the host of 16 kilobytes and its sessions a little more.

Whatever the pieces and wherever one of them stops, the messages that are received are
those that were sent, in their order and without a gap. No frame is ever refused for its
length, for its encryption or as a message. When everything that was sent has been
collected, everything has been received.
-/

import Deskkin.Lib.FramedStream
import Deskkin.Lib.Runs
import Deskkin.Protocol.CanonicalCodec

namespace Deskkin.Protocol

open BigEndian

/-! ## The transport -/

/-- One direction of an encrypted transport. Messages are numbered by both sides; what
was encrypted under a number is decrypted under the same number, and is longer by a tag. -/
structure Transport where
  encrypt : ℕ → List UInt8 → List UInt8
  decrypt : ℕ → List UInt8 → Option (List UInt8)
  decrypt_encrypt : ∀ number plain, decrypt number (encrypt number plain) = some plain
  length_encrypt : ∀ number plain, (encrypt number plain).length = plain.length + 16

/-- The numbers end here. -/
def nonceMax : ℕ := 2 ^ 64 - 1

def noiseMessageMax : ℕ := 65535

namespace Transport

/-- Encrypt into a buffer of so many bytes. -/
def writeMessage (self : Transport) (number : ℕ) (payload : List UInt8) (room : ℕ) :
    Option (List UInt8) :=
  if number ≥ nonceMax ∨ payload.length + 16 > room ∨ payload.length + 16 > noiseMessageMax then
    none
  else some (self.encrypt number payload)

/-- Decrypt into a buffer of so many bytes. -/
def readMessage (self : Transport) (number : ℕ) (message : List UInt8) (room : ℕ) :
    Option (List UInt8) :=
  if number ≥ nonceMax ∨ message.length > noiseMessageMax ∨ message.length < 16 ∨
      room < message.length - 16 then
    none
  else self.decrypt number message

end Transport

/-! ## Writing and reading a message -/

def encodeFrameLength (length : ℕ) : Except CodecError (List UInt8) :=
  if length ≥ 2 ^ 16 ∨ length > applicationFrameMax then .error .oversize
  else .ok (toBytes 2 length)

def decodeFrameLength (bytes : List UInt8) : ℕ := ofBytes bytes

/-- The buffers of a writer, for the plain and for the encrypted message. -/
structure SendBuffers where
  plain : ℕ
  encrypted : ℕ

/-- The longest frame a reader takes, and its buffer for the plain message. -/
structure ReceiveBuffers where
  frame : ℕ
  plain : ℕ

/-- Who writes: the device, the host outside a session, and the writer of its sessions. -/
inductive Sender
  | device
  | host
  | session
  deriving DecidableEq

def Sender.buffers : Sender → SendBuffers
  | .device => ⟨64, 128⟩
  | .host => ⟨256, 512⟩
  | .session => ⟨applicationFrameMax, applicationFrameMax + 16⟩

inductive Receiver
  | device
  | host
  deriving DecidableEq

def Receiver.buffers : Receiver → ReceiveBuffers
  | .device => ⟨128, 64⟩
  | .host => ⟨applicationFrameMax, applicationFrameMax⟩

/-- Why a side stops. The link fails at a timeout, at the end of the stream, at an error
of the system, and on the device for a command. -/
inductive StreamFault
  | link
  | oversize
  | noise
  | protocol
  deriving DecidableEq

/-- The bytes that are written for a message. -/
def writeMessage (buffers : SendBuffers) (transport : Transport) (number : ℕ)
    (message : Message) : Except StreamFault (List UInt8) :=
  match message.encode (List.replicate buffers.plain 0) with
  | .error _ => .error .protocol
  | .ok encoded =>
      match transport.writeMessage number encoded buffers.encrypted with
      | none => .error .noise
      | some encrypted =>
          match encodeFrameLength encrypted.length with
          | .error _ => .error .protocol
          | .ok length => .ok (length ++ encrypted)

/-- The message in a frame that was collected. -/
def readMessage (buffers : ReceiveBuffers) (transport : Transport) (number : ℕ)
    (input : List UInt8) : Except StreamFault Message :=
  match transport.readMessage number input buffers.plain with
  | none => .error .noise
  | some plain =>
      match Message.decode plain with
      | .error _ => .error .protocol
      | .ok message => .ok message

/-! ## The stream -/

/-- What the reader collects: the two bytes of a length, or a frame of that length. -/
inductive ReadPoint
  | length (got : List UInt8)
  | body (size : ℕ) (got : List UInt8)
  deriving DecidableEq

/-- How many bytes it still asks for. -/
def ReadPoint.missing : ReadPoint → ℕ
  | .length got => 2 - got.length
  | .body size got => size - got.length

def ReadPoint.collect (bytes : List UInt8) : ReadPoint → ReadPoint
  | .length got => .length (got ++ bytes)
  | .body size got => .body size (got ++ bytes)

/-- All bytes that were collected for the message. -/
def ReadPoint.bytes : ReadPoint → List UInt8
  | .length got => got
  | .body size got => toBytes 2 size ++ got

/-- No more was collected than was asked for, and the length is one of two bytes. -/
def ReadPoint.Within : ReadPoint → Prop
  | .length got => got.length ≤ 2
  | .body size got => got.length ≤ size ∧ size < 2 ^ 16

/-- One direction of a connection. `sent` and `received` are the messages that were
written and read; the code does not keep them. -/
structure SecureStream where
  sendNumber : ℕ
  unsent : List UInt8
  writeFault : Option StreamFault
  wire : List UInt8
  point : ReadPoint
  receiveNumber : ℕ
  readFault : Option StreamFault
  sent : List Message
  received : List Message
  deriving DecidableEq

inductive StreamLabel
  | write (sender : Sender) (message : Message)
  /-- The system takes so many bytes. -/
  | send (count : ℕ)
  | stopWriting
  /-- The system brings so many bytes. -/
  | collect (count : ℕ)
  /-- All bytes that the reader asked for are there. -/
  | proceed
  | stopReading
  deriving DecidableEq

namespace SecureStream

variable (transport : Transport) (receiver : Receiver)

def write (self : SecureStream) (sender : Sender) (message : Message) : Option SecureStream :=
  if self.writeFault = none ∧ self.unsent = [] then
    match writeMessage sender.buffers transport self.sendNumber message with
    | .error fault => some { self with writeFault := some fault }
    | .ok frame =>
        some { self with
          sendNumber := self.sendNumber + 1, unsent := frame, sent := self.sent ++ [message] }
  else none

def send (self : SecureStream) (count : ℕ) : Option SecureStream :=
  if self.writeFault = none ∧ 0 < count ∧ count ≤ self.unsent.length then
    some { self with
      wire := self.wire ++ self.unsent.take count, unsent := self.unsent.drop count }
  else none

def collect (self : SecureStream) (count : ℕ) : Option SecureStream :=
  if self.readFault = none ∧ 0 < count ∧ count ≤ self.point.missing ∧
      count ≤ self.wire.length then
    some { self with
      wire := self.wire.drop count, point := self.point.collect (self.wire.take count) }
  else none

/-- The reader goes on to the body, or to the next message. -/
def proceed (self : SecureStream) : Option SecureStream :=
  if self.readFault = none ∧ self.point.missing = 0 then
    match self.point with
    | .length got =>
        let size := decodeFrameLength got
        if size > receiver.buffers.frame then some { self with readFault := some .oversize }
        else some { self with point := .body size [] }
    | .body _ got =>
        match readMessage receiver.buffers transport self.receiveNumber got with
        | .error fault => some { self with readFault := some fault }
        | .ok message =>
            some { self with
              point := .length [], receiveNumber := self.receiveNumber + 1,
              received := self.received ++ [message] }
  else none

def step (self : SecureStream) : StreamLabel → Option SecureStream
  | .write sender message => self.write transport sender message
  | .send count => self.send count
  | .stopWriting => some { self with writeFault := some .link }
  | .collect count => self.collect count
  | .proceed => self.proceed transport receiver
  | .stopReading => some { self with readFault := some .link }

def opened : SecureStream where
  sendNumber := 0
  unsent := []
  writeFault := none
  wire := []
  point := .length []
  receiveNumber := 0
  readFault := none
  sent := []
  received := []

/-- The two ends of the stream and the network between them. -/
def machine : StepSystem SecureStream StreamLabel where
  Initial self := self = opened
  step := step transport receiver

/-! ## What is on the stream -/

/-- The length of a frame as a header of two bytes. -/
def framing : Framing UInt8 where
  width := 2
  limit := 65535
  header length := toBytes 2 length
  lengthOf := decodeFrameLength
  length_header length := length_toBytes 2 length
  lengthOf_header length fits := ofBytes_toBytes (by omega)
  width_pos := by decide

/-- The encrypted messages, each under its number. -/
def frames (messages : List Message) : List (List UInt8) :=
  messages.mapIdx fun number message => transport.encrypt number message.canonical

variable {transport : Transport} {sender : Sender} {receiver : Receiver}
  {stream after : SecureStream} {message : Message}

theorem encodedLen_le_hello (message : Message) : message.encodedLen ≤ 49 := by
  cases message <;> simp [Message.encodedLen]

theorem length_encrypt_canonical (number : ℕ) (message : Message) :
    (transport.encrypt number message.canonical).length ≤ 65 := by
  have short := encodedLen_le_hello message
  rw [transport.length_encrypt, Message.length_canonical]
  omega

theorem frames_append (messages : List Message) (message : Message) :
    frames transport (messages ++ [message]) =
      frames transport messages ++ [transport.encrypt messages.length message.canonical] := by
  rw [frames, List.mapIdx_concat]
  rfl

theorem length_of_mem_frames {messages : List Message} {body : List UInt8}
    (member : body ∈ frames transport messages) : body.length ≤ 65 := by
  rw [frames, List.mem_mapIdx] at member
  obtain ⟨number, inside, rfl⟩ := member
  exact length_encrypt_canonical _ _

/-- Every buffer of a writer is large enough. -/
theorem writeMessage_eq {number : ℕ} (left : number < nonceMax) (message : Message) :
    writeMessage sender.buffers transport number message =
      .ok (framing.frame (transport.encrypt number message.canonical)) := by
  have short := encodedLen_le_hello message
  have length := message.length_canonical
  have sealed : (transport.encrypt number message.canonical).length ≤ 65 :=
    length_encrypt_canonical _ _
  have room : 49 ≤ sender.buffers.plain ∧ 65 ≤ sender.buffers.encrypted := by
    cases sender <;> decide
  have encoded : message.encode (List.replicate sender.buffers.plain 0) = .ok message.canonical :=
    message.encode_eq (by rw [List.length_replicate]; omega)
  have encrypted : transport.writeMessage number message.canonical sender.buffers.encrypted =
      some (transport.encrypt number message.canonical) := by
    rw [Transport.writeMessage, if_neg]
    simp only [noiseMessageMax, length]
    omega
  have framed : encodeFrameLength (transport.encrypt number message.canonical).length =
      .ok (toBytes 2 (transport.encrypt number message.canonical).length) := by
    rw [encodeFrameLength, if_neg]
    simp only [applicationFrameMax]
    omega
  simp only [writeMessage, encoded, encrypted, framed]
  rfl

/-- When the numbers have ended, a message is not encrypted. -/
theorem writeMessage_exhausted {number : ℕ} (ended : nonceMax ≤ number) (message : Message) :
    writeMessage sender.buffers transport number message = .error .noise := by
  have short := encodedLen_le_hello message
  have room : 49 ≤ sender.buffers.plain := by cases sender <;> decide
  have encoded : message.encode (List.replicate sender.buffers.plain 0) = .ok message.canonical :=
    message.encode_eq (by rw [List.length_replicate]; omega)
  have refused : transport.writeMessage number message.canonical sender.buffers.encrypted =
      none := if_pos (Or.inl ended)
  simp only [writeMessage, encoded, refused]

/-- Every buffer of a reader is large enough. -/
theorem readMessage_eq {number : ℕ} (left : number < nonceMax) (message : Message) :
    readMessage receiver.buffers transport number (transport.encrypt number message.canonical) =
      .ok message := by
  have short := encodedLen_le_hello message
  have length := message.length_canonical
  have width := transport.length_encrypt number message.canonical
  have room : 49 ≤ receiver.buffers.plain := by cases receiver <;> decide
  have opened : transport.readMessage number (transport.encrypt number message.canonical)
      receiver.buffers.plain = some message.canonical := by
    rw [Transport.readMessage, if_neg, transport.decrypt_encrypt]
    simp only [noiseMessageMax, width, length]
    omega
  have decoded : Message.decode message.canonical = .ok message :=
    Message.decode_eq_ok_iff.mpr rfl
  simp only [readMessage, opened, decoded]

/-! ## Every run -/

/-- What is on the stream belongs to the messages that were sent and not received, and
no side has stopped but at the link, or at the end of the numbers. -/
structure Faithful (transport : Transport) (stream : SecureStream) : Prop where
  carries : framing.Carries (frames transport stream.sent) (frames transport stream.received)
    stream.point.bytes stream.wire stream.unsent
  inOrder : stream.received <+: stream.sent
  sendNumber : stream.sendNumber = stream.sent.length
  receiveNumber : stream.receiveNumber = stream.received.length
  few : stream.sent.length ≤ nonceMax
  within : stream.point.Within
  readFault : ∀ fault, stream.readFault = some fault → fault = .link
  writeFault : ∀ fault, stream.writeFault = some fault →
    fault = .link ∨ fault = .noise ∧ stream.sent.length = nonceMax

theorem faithful_opened : opened.Faithful transport where
  carries := Framing.carries_start
  inOrder := List.nil_prefix
  sendNumber := rfl
  receiveNumber := rfl
  few := Nat.zero_le _
  within := Nat.zero_le _
  readFault := fun _ failed => by cases failed
  writeFault := fun _ failed => by cases failed

theorem fits_frames (messages : List Message) :
    ∀ body ∈ frames transport messages, body.length ≤ framing.limit := by
  intro body member
  exact Nat.le_trans (length_of_mem_frames member) (by decide)

section

variable (faithful : stream.Faithful transport)
include faithful

theorem Faithful.write (moved : stream.write transport sender message = some after) :
    after.Faithful transport := by
  unfold SecureStream.write at moved
  split at moved
  · rename_i idle
    obtain ⟨carries, inOrder, sendNumber, receiveNumber, few, within, readFault, writeFault⟩ :=
      faithful
    rcases Nat.lt_or_ge stream.sendNumber nonceMax with left | ended
    · rw [writeMessage_eq left] at moved
      cases moved
      rw [idle.2] at carries
      refine ⟨?_, inOrder.trans (List.prefix_append _ _), ?_, receiveNumber, ?_, within, readFault,
        fun fault failed => ?_⟩
      · rw [frames_append, ← sendNumber]
        exact carries.hand _
      · rw [List.length_append, ← sendNumber]
        rfl
      · rw [List.length_append, ← sendNumber]
        exact left
      · rw [idle.1] at failed
        cases failed
    · rw [writeMessage_exhausted ended] at moved
      cases moved
      refine ⟨carries, inOrder, sendNumber, receiveNumber, few, within, readFault, ?_⟩
      rintro fault ⟨⟩
      exact Or.inr ⟨rfl, Nat.le_antisymm few (sendNumber ▸ ended)⟩
  · cases moved

theorem Faithful.send {count : ℕ} (moved : stream.send count = some after) :
    after.Faithful transport := by
  unfold SecureStream.send at moved
  split at moved
  · cases moved
    exact { faithful with carries := faithful.carries.write count }
  · cases moved

omit faithful in
theorem bytes_collect (point : ReadPoint) (bytes : List UInt8) :
    (point.collect bytes).bytes = point.bytes ++ bytes := by
  cases point with
  | length got => rfl
  | body size got => exact (List.append_assoc _ _ _).symm

theorem Faithful.collect {count : ℕ} (moved : stream.collect count = some after) :
    after.Faithful transport := by
  unfold SecureStream.collect at moved
  split at moved
  · rename_i asked
    cases moved
    refine { faithful with carries := ?_, within := ?_ }
    · rw [bytes_collect]
      exact faithful.carries.read count
    · have within := faithful.within
      have missing := asked.2.2.1
      have brought : (stream.wire.take count).length = count := by
        rw [List.length_take]
        omega
      cases here : stream.point with
      | length got =>
          rw [here] at within missing
          simp only [ReadPoint.Within, ReadPoint.missing, ReadPoint.collect,
            List.length_append] at within missing ⊢
          omega
      | body size got =>
          rw [here] at within missing
          simp only [ReadPoint.Within, ReadPoint.missing, ReadPoint.collect,
            List.length_append] at within missing ⊢
          omega
  · cases moved

/-- The length of the next message is taken by every reader. -/
theorem Faithful.length (receiver : Receiver) {got : List UInt8} (here : stream.point = .length got)
    (whole : got.length = 2) :
    decodeFrameLength got ≤ receiver.buffers.frame ∧
      ({ stream with point := .body (decodeFrameLength got) [] } : SecureStream).Faithful
        transport := by
  have carries := faithful.carries
  simp only [here, ReadPoint.bytes] at carries
  have all : got.take framing.width = got := List.take_of_length_le (Nat.le_of_eq whole)
  obtain ⟨body, member, size⟩ := carries.lengthOf_mem (fits_frames _) (Nat.le_of_eq whole.symm)
  rw [all] at size
  have short := length_of_mem_frames member
  have size : decodeFrameLength got = body.length := size
  have room : 65 ≤ receiver.buffers.frame := by cases receiver <;> decide
  refine ⟨by omega, { faithful with carries := ?_, within := ⟨Nat.zero_le _, by omega⟩ }⟩
  have same : toBytes 2 (decodeFrameLength got) = got := toBytes_ofBytes whole
  simp only [ReadPoint.bytes, same, List.append_nil]
  exact carries

omit faithful in
/-- A frame that comes next is that of the message that comes next. -/
theorem exists_of_frames {sent received : List Message} {body : List UInt8}
    (inOrder : received <+: sent)
    (next : frames transport received ++ [body] <+: frames transport sent) :
    ∃ message, body = transport.encrypt received.length message.canonical ∧
      received ++ [message] <+: sent := by
  obtain ⟨more, rfl⟩ := inOrder
  rw [frames, frames, List.mapIdx_append, List.prefix_append_right_inj] at next
  cases more with
  | nil => cases List.prefix_nil.mp next
  | cons message more =>
      rw [List.mapIdx_cons, List.cons_prefix_cons, Nat.zero_add] at next
      refine ⟨message, next.1, ?_⟩
      rw [List.prefix_append_right_inj, List.cons_prefix_cons]
      exact ⟨rfl, List.nil_prefix⟩

/-- The next frame is the next message. -/
theorem Faithful.body (receiver : Receiver) {size : ℕ} {got : List UInt8}
    (here : stream.point = .body size got) (whole : got.length = size) :
    ∃ message, readMessage receiver.buffers transport stream.receiveNumber got = .ok message ∧
      ({ stream with
          point := .length [], receiveNumber := stream.receiveNumber + 1,
          received := stream.received ++ [message] } : SecureStream).Faithful transport := by
  have carries := faithful.carries
  have within := faithful.within
  simp only [here, ReadPoint.bytes, ReadPoint.Within] at carries within
  have header : (toBytes 2 size ++ got).take framing.width = toBytes 2 size :=
    List.take_left' (length_toBytes 2 size)
  have told : framing.lengthOf (toBytes 2 size) = size := ofBytes_toBytes within.2
  have received := carries.receive (fits_frames _) (by
    rw [header, told, List.length_append, length_toBytes, whole]
    rfl)
  have behind : (toBytes 2 size ++ got).drop framing.width = got :=
    List.drop_left' (length_toBytes 2 size)
  rw [behind] at received
  obtain ⟨message, rfl, inOrder⟩ := exists_of_frames faithful.inOrder received.isPrefix
  have fewer := inOrder.length_le
  rw [List.length_append, List.length_singleton] at fewer
  have few := faithful.few
  refine ⟨message, ?_, { faithful with
    carries := ?_, inOrder := inOrder, receiveNumber := ?_, within := Nat.zero_le _ }⟩
  · rw [faithful.receiveNumber]
    exact readMessage_eq (by omega) message
  · rw [frames_append]
    exact received
  · rw [List.length_append, faithful.receiveNumber]
    rfl

theorem Faithful.proceed (moved : stream.proceed transport receiver = some after) :
    after.Faithful transport := by
  unfold SecureStream.proceed at moved
  split at moved
  · rename_i complete
    have within := faithful.within
    cases here : stream.point with
    | length got =>
        simp only [here, ReadPoint.missing, ReadPoint.Within] at complete within moved
        obtain ⟨taken, next⟩ := faithful.length receiver here (by omega)
        rw [if_neg (Nat.not_lt.mpr taken)] at moved
        cases moved
        exact next
    | body size got =>
        simp only [here, ReadPoint.missing, ReadPoint.Within] at complete within moved
        obtain ⟨message, read, next⟩ := faithful.body receiver here (by omega)
        rw [read] at moved
        cases moved
        exact next
  · cases moved

theorem Faithful.step {label : StreamLabel}
    (moved : stream.step transport receiver label = some after) : after.Faithful transport := by
  cases label with
  | write message => exact faithful.write moved
  | send count => exact faithful.send moved
  | stopWriting =>
      cases moved
      exact { faithful with writeFault := fun fault failed => Or.inl (by cases failed; rfl) }
  | collect count => exact faithful.collect moved
  | proceed => exact faithful.proceed moved
  | stopReading =>
      cases moved
      exact { faithful with readFault := fun fault failed => by cases failed; rfl }

end

/-- **Messages over an encrypted stream.** Whoever writes and reads, what is received is
what was sent, in its order and without a gap; no message is refused; a writer stops at
the link only, unless it has used up its numbers; and when every byte that was sent has
been collected, every message has been received. -/
theorem received_in_order (reachable : (machine transport receiver).Reachable stream) :
    stream.received <+: stream.sent ∧
      (∀ fault, stream.readFault = some fault → fault = .link) ∧
      (∀ fault, stream.writeFault = some fault →
        fault = .link ∨ fault = .noise ∧ stream.sent.length = nonceMax) ∧
      (stream.unsent = [] → stream.wire = [] → stream.point = .length [] →
        stream.received = stream.sent) := by
  have faithful : stream.Faithful transport := by
    refine reachable.invariant (P := Faithful transport) (fun start initial => ?_)
      fun _ _ _ faithful moved => faithful.step moved
    cases initial
    exact faithful_opened
  refine ⟨faithful.inOrder, faithful.readFault, faithful.writeFault, fun unsent wire point => ?_⟩
  have carries := faithful.carries
  simp only [unsent, wire, point, ReadPoint.bytes] at carries
  have length := congrArg List.length carries.complete
  simp only [frames, List.length_mapIdx] at length
  exact faithful.inOrder.eq_of_length length

/-- A transport that hides nothing and marks a message with its number. -/
def tagging : Transport where
  encrypt number plain := plain ++ List.replicate 16 (UInt8.ofNat number)
  decrypt number message :=
    if message.drop (message.length - 16) = List.replicate 16 (UInt8.ofNat number) then
      some (message.take (message.length - 16))
    else none
  decrypt_encrypt number plain := by simp
  length_encrypt number plain := by simp

/-- A Ping of the host that arrives in pieces, and then one of its session. -/
theorem received_in_order_ping : ∃ stream,
    (machine tagging .device).Reachable stream ∧ stream.received = [.ping, .ping] ∧
      stream.received <+: stream.sent := by
  have replayed : ((machine tagging .device).execute opened
      [.write .host .ping, .send 7, .collect 2, .proceed, .collect 5, .send 12, .collect 12,
        .write .session .ping, .proceed, .send 19, .collect 2, .proceed, .collect 17,
        .proceed]).map SecureStream.received = some [.ping, .ping] := by
    decide +kernel
  obtain ⟨stream, reachable, received⟩ := StepSystem.exists_reachable_of_map replayed rfl
  exact ⟨stream, reachable, received, (received_in_order reachable).1⟩

end SecureStream

end Deskkin.Protocol
