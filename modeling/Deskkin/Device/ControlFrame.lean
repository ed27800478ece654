/-
# Control frames on the serial link

A control frame is a length and a body: schema, command, command id, owner
generation and a payload with a length of its own. Three programs know this
layout. The control script writes frames, the control thread of the device finds
them in a byte stream by sliding a window of three bytes over it, and the service
worker decodes their bodies. The script knows one command more than the worker:
the control thread answers a diagnostic subscription itself.
-/

import Deskkin.Device.Control
import Deskkin.Nvs.Record
import Deskkin.Lib.Fallible

namespace Deskkin.Device

open BigEndian

def controlPayloadMax : ℕ := 160

def controlFrameMax : ℕ := 188

/-! ## The script -/

/-- The commands of the script. -/
inductive ScriptCommand
  | identityInit
  | identityList
  | identityUnpair
  | wifiProvision
  | wifiStatus
  | wifiClear
  | run
  | status
  | shutdown
  | worldBenchmarkStart
  | diagnosticSubscribe
  deriving DecidableEq

def ScriptCommand.code : ScriptCommand → ℕ
  | .identityInit => 1
  | .identityList => 2
  | .identityUnpair => 3
  | .wifiProvision => 4
  | .wifiStatus => 5
  | .wifiClear => 6
  | .run => 7
  | .status => 8
  | .shutdown => 9
  | .worldBenchmarkStart => 10
  | .diagnosticSubscribe => 11

inductive ScriptError
  | controlInvalid
  | overflow
  deriving DecidableEq

/-- `int.to_bytes` in big-endian order, which raises when the value does not fit. -/
def intToBytes (width value : ℕ) : Except ScriptError (List UInt8) :=
  if value < 256 ^ width then .ok (toBytes width value) else .error .overflow

def controlFrame (command : ScriptCommand) (commandId : Vector UInt8 16) (ownerGeneration : ℕ)
    (payload : List UInt8) : Except ScriptError (List UInt8) :=
  if payload.length > 160 then
    .error .controlInvalid
  else do
    let body := [schemaVersion, UInt8.ofNat command.code] ++ commandId.toList
    let generation ← intToBytes 8 ownerGeneration
    let payloadLength ← intToBytes 2 payload.length
    let body := body ++ generation ++ payloadLength ++ payload
    let bodyLength ← intToBytes 2 body.length
    return bodyLength ++ body

/-! ## The control thread -/

/-- The window after one more byte: it fills up to three bytes and then slides. -/
def pushByte (window : List UInt8) (byte : UInt8) : List UInt8 :=
  if window.length < 3 then window ++ [byte] else window.drop 1 ++ [byte]

/-- The length in a window that looks like the start of a frame. -/
def headerLength : List UInt8 → Option ℕ
  | [high, low, schema] =>
      let length := high.toNat * 256 + low.toNat
      if length < 28 ∨ length > controlFrameMax ∨ schema ≠ 1 then none else some length
  | _ => none

/-- Read so many bytes; without a timeout this fails only at the end of the stream. -/
def readBytes : ℕ → List UInt8 → Option (List UInt8 × List UInt8)
  | 0, stream => some ([], stream)
  | _ + 1, [] => none
  | count + 1, byte :: stream => do
      let (bytes, rest) ← readBytes count stream
      return (byte :: bytes, rest)

/-- Read a frame and leave what follows it in the stream. The window already holds
the first byte of the body. -/
def uartReadFrame (window : List UInt8) : List UInt8 → Option (List UInt8 × List UInt8)
  | [] => none
  | byte :: stream =>
      let window := pushByte window byte
      match headerLength window with
      | none => uartReadFrame window stream
      | some length => do
          let (bytes, rest) ← readBytes (length - 1) stream
          return (byte :: bytes, rest)

/-! ## The service worker -/

/-- A decoded frame with its command id. -/
structure DecodedControl extends ControlFrame where
  commandId : Vector UInt8 16
  deriving DecidableEq

def ControlCommand.tryFrom (value : UInt8) : Except DecodeError ControlCommand :=
  match value.toNat with
  | 1 => .ok .identityInit
  | 2 => .ok .identityList
  | 3 => .ok .identityUnpair
  | 4 => .ok .wifiProvision
  | 5 => .ok .wifiStatus
  | 6 => .ok .wifiClear
  | 7 => .ok .run
  | 8 => .ok .status
  | 9 => .ok .shutdown
  | 10 => .ok .worldBenchmarkStart
  | _ => .error .unknownCommand

def decodeControl (input : List UInt8) : Except DecodeError DecodedControl :=
  if truncated : input.length < 28 then
    .error .truncated
  else if input.getD 0 0 ≠ schemaVersion then
    .error .unknownSchema
  else do
    let command ← ControlCommand.tryFrom (input.getD 1 0)
    let payloadLen := ofBytes (field input 26 28)
    if payloadLen > controlPayloadMax then
      .error .oversize
    else if input.length ≠ 28 + payloadLen then
      .error .trailingBytes
    else
      return {
        command := command
        commandId := ⟨(field input 2 18).toArray, by
          rw [List.size_toArray, length_field]
          omega⟩
        ownerGeneration := ofBytes (field input 18 26)
        payload := input.drop 28 }

/-! ## The body of a frame -/

/-- The bytes of a frame behind its length. -/
def controlBody (command : ScriptCommand) (commandId : Vector UInt8 16) (ownerGeneration : ℕ)
    (payload : List UInt8) : List UInt8 :=
  schemaVersion :: UInt8.ofNat command.code :: (commandId.toList ++
    (toBytes 8 ownerGeneration ++ (toBytes 2 payload.length ++ payload)))

/-- The command of the worker under the same name. -/
def ScriptCommand.worker : ScriptCommand → Option ControlCommand
  | .identityInit => some .identityInit
  | .identityList => some .identityList
  | .identityUnpair => some .identityUnpair
  | .wifiProvision => some .wifiProvision
  | .wifiStatus => some .wifiStatus
  | .wifiClear => some .wifiClear
  | .run => some .run
  | .status => some .status
  | .shutdown => some .shutdown
  | .worldBenchmarkStart => some .worldBenchmarkStart
  | .diagnosticSubscribe => none

variable {command : ScriptCommand} {commandId : Vector UInt8 16} {ownerGeneration : ℕ}
  {payload : List UInt8}

theorem length_controlBody : (controlBody command commandId ownerGeneration payload).length =
    28 + payload.length := by
  simp [controlBody]
  omega

/-- A frame within the limits is the length of its body and its body. -/
theorem controlFrame_eq (fits : ownerGeneration < 2 ^ 64) (short : payload.length ≤ 160) :
    controlFrame command commandId ownerGeneration payload =
      .ok (toBytes 2 (28 + payload.length) ++
        controlBody command commandId ownerGeneration payload) := by
  have body : [schemaVersion, UInt8.ofNat command.code] ++ commandId.toList ++
      toBytes 8 ownerGeneration ++ toBytes 2 payload.length ++ payload =
        controlBody command commandId ownerGeneration payload := by
    simp [controlBody]
  rw [controlFrame, if_neg (Nat.not_lt.mpr short)]
  simp only [intToBytes]
  rw [if_pos (show ownerGeneration < 256 ^ 8 from fits), Fallible.ok_bind,
    if_pos (show payload.length < 256 ^ 2 by omega), Fallible.ok_bind, body, length_controlBody,
    if_pos (show 28 + payload.length < 256 ^ 2 by omega)]
  rfl

/-- Every frame has the id of its command behind its length and two more bytes. -/
theorem field_controlFrame {frame : List UInt8}
    (framed : controlFrame command commandId ownerGeneration payload = .ok frame) :
    field frame 4 20 = commandId.toList := by
  have short : payload.length ≤ 160 := by
    by_contra long
    rw [controlFrame, if_pos (Nat.lt_of_not_le long)] at framed
    cases framed
  have fits : ownerGeneration < 2 ^ 64 := by
    by_contra large
    have overflow : intToBytes 8 ownerGeneration = .error .overflow := if_neg large
    rw [controlFrame, if_neg (Nat.not_lt.mpr short), overflow] at framed
    cases framed
  rw [controlFrame_eq fits short] at framed
  cases framed
  show field ((toBytes 2 _ ++ [schemaVersion, UInt8.ofNat _]) ++ (commandId.toList ++ _)) 4 20 = _
  exact field_append (by simp) (by simp)

/-! ## Finding a frame in a stream -/

theorem readBytes_append (bytes rest : List UInt8) :
    readBytes bytes.length (bytes ++ rest) = some (bytes, rest) := by
  induction bytes with
  | nil => rfl
  | cons byte bytes ih =>
      rw [List.length_cons, List.cons_append, readBytes, ih]
      rfl

/-- Only the last two bytes of a full window matter. -/
theorem uartReadFrame_full (a b c : UInt8) (stream : List UInt8) :
    uartReadFrame [a, b, c] stream = uartReadFrame [b, c] stream := by
  cases stream <;> rfl

/-- Sliding over a stream: a window that is no header is left by one byte. -/
theorem uartReadFrame_slide (a b c : UInt8) (stream : List UInt8)
    (noise : headerLength [a, b, c] = none) :
    uartReadFrame [] (a :: b :: c :: stream) = uartReadFrame [] (b :: c :: stream) := by
  calc uartReadFrame [] (a :: b :: c :: stream)
      = uartReadFrame [a, b] (c :: stream) := rfl
    _ = uartReadFrame [a, b, c] stream := by simp [uartReadFrame, pushByte, noise]
    _ = uartReadFrame [b, c] stream := uartReadFrame_full a b c stream
    _ = uartReadFrame [] (b :: c :: stream) := rfl

/-- At a header the body is read. -/
theorem uartReadFrame_header (a b c : UInt8) {length : ℕ}
    (header : headerLength [a, b, c] = some length)
    {bytes : List UInt8} (width : bytes.length + 1 = length) (rest : List UInt8) :
    uartReadFrame [] (a :: b :: c :: (bytes ++ rest)) = some (c :: bytes, rest) := by
  have read : readBytes (length - 1) (bytes ++ rest) = some (bytes, rest) := by
    rw [← width, Nat.add_sub_cancel]
    exact readBytes_append bytes rest
  calc uartReadFrame [] (a :: b :: c :: (bytes ++ rest))
      = uartReadFrame [a, b] (c :: (bytes ++ rest)) := rfl
    _ = some (c :: bytes, rest) := by simp [uartReadFrame, pushByte, header, read]

/-- Three bytes in a row from an index on look like the start of a frame. -/
def HeaderAt (stream : List UInt8) (index : ℕ) : Prop :=
  ∃ a b c, stream[index]? = some a ∧ stream[index + 1]? = some b ∧ stream[index + 2]? = some c ∧
    28 ≤ a.toNat * 256 + b.toNat ∧ a.toNat * 256 + b.toNat ≤ 188 ∧ c = 1

theorem headerLength_eq_none_iff {a b c : UInt8} :
    headerLength [a, b, c] = none ↔
      ¬ (28 ≤ a.toNat * 256 + b.toNat ∧ a.toNat * 256 + b.toNat ≤ 188 ∧ c = 1) := by
  rw [headerLength]
  split
  · rename_i outside
    constructor
    · intro _ header
      obtain ⟨low, high, schema⟩ := header
      simp only [controlFrameMax] at outside
      rcases outside with short | long | other
      · omega
      · omega
      · exact other schema
    · intro _
      rfl
  · rename_i inside
    simp only [controlFrameMax, not_or, not_not, Nat.not_lt] at inside
    constructor
    · intro impossible
      cases impossible
    · intro noise
      exact absurd inside noise

/-- Noise in which no window looks like a header, up to those that end in the
frame, is passed over. -/
theorem uartReadFrame_junk {junk frame rest : List UInt8} (long : 2 ≤ frame.length)
    (quiet : ∀ index < junk.length, ¬ HeaderAt (junk ++ frame) index) :
    uartReadFrame [] (junk ++ frame ++ rest) = uartReadFrame [] (frame ++ rest) := by
  induction junk with
  | nil => rfl
  | cons a junk ih =>
      have onward : ∀ index < junk.length, ¬ HeaderAt (junk ++ frame) index := by
        intro index inside header
        exact quiet (index + 1) (Nat.succ_lt_succ inside) header
      obtain ⟨b, c, stream, split⟩ : ∃ b c stream, junk ++ frame = b :: c :: stream := by
        match both : junk ++ frame with
        | [] => simp [← List.length_eq_zero_iff, List.length_append] at both; omega
        | [b] => have := congrArg List.length both; simp at this; omega
        | b :: c :: stream => exact ⟨b, c, stream, rfl⟩
      have noise : headerLength [a, b, c] = none := by
        rw [headerLength_eq_none_iff]
        intro header
        apply quiet 0 (Nat.succ_pos _)
        rw [List.cons_append, split]
        exact ⟨a, b, c, rfl, rfl, rfl, header⟩
      have slide := uartReadFrame_slide a b c (stream ++ rest) noise
      have rest := ih onward
      rw [List.cons_append, split]
      rw [split] at rest
      exact slide.trans rest

/-- A frame is read as its body, whatever follows it. -/
theorem uartReadFrame_frame (short : payload.length ≤ 160) (rest : List UInt8) :
    uartReadFrame [] (toBytes 2 (28 + payload.length) ++
        controlBody command commandId ownerGeneration payload ++ rest) =
      some (controlBody command commandId ownerGeneration payload, rest) := by
  obtain ⟨high, low, split⟩ : ∃ high low, toBytes 2 (28 + payload.length) = [high, low] :=
    ⟨_, _, rfl⟩
  have value : high.toNat * 256 + low.toNat = 28 + payload.length := by
    have read : ofBytes (toBytes 2 (28 + payload.length)) = 28 + payload.length :=
      ofBytes_toBytes (by omega)
    rw [split] at read
    simpa [ofBytes] using read
  have header : headerLength [high, low, 1] = some (28 + payload.length) := by
    rw [headerLength, value, if_neg]
    simp only [controlFrameMax, ne_eq, not_true_eq_false, or_false, not_or]
    omega
  have width : (controlBody command commandId ownerGeneration payload).length =
      28 + payload.length := length_controlBody
  rw [controlBody, List.length_cons] at width
  rw [split, controlBody]
  exact uartReadFrame_header high low 1 header width rest

/-! ## Decoding a body -/

theorem tryFrom_code (command : ScriptCommand) :
    ControlCommand.tryFrom (UInt8.ofNat command.code) =
      match command.worker with
      | some worker => .ok worker
      | none => .error .unknownCommand := by
  cases command <;> rfl

/-- Every command of the worker has a code. -/
theorem exists_of_tryFrom {value : UInt8} {worker : ControlCommand}
    (known : ControlCommand.tryFrom value = .ok worker) :
    ∃ command : ScriptCommand, command.worker = some worker ∧ UInt8.ofNat command.code = value := by
  have number : ∀ code : ℕ, value.toNat = code → UInt8.ofNat code = value := by
    rintro code rfl
    exact UInt8.ofNat_toNat
  unfold ControlCommand.tryFrom at known
  split at known <;> cases known <;> rename_i same
  · exact ⟨.identityInit, rfl, number _ same⟩
  · exact ⟨.identityList, rfl, number _ same⟩
  · exact ⟨.identityUnpair, rfl, number _ same⟩
  · exact ⟨.wifiProvision, rfl, number _ same⟩
  · exact ⟨.wifiStatus, rfl, number _ same⟩
  · exact ⟨.wifiClear, rfl, number _ same⟩
  · exact ⟨.run, rfl, number _ same⟩
  · exact ⟨.status, rfl, number _ same⟩
  · exact ⟨.shutdown, rfl, number _ same⟩
  · exact ⟨.worldBenchmarkStart, rfl, number _ same⟩

/-- What a body decodes to depends on its command only. -/
theorem decodeControl_controlBody (fits : ownerGeneration < 2 ^ 64)
    (short : payload.length ≤ 160) :
    decodeControl (controlBody command commandId ownerGeneration payload) =
      match command.worker with
      | some worker => .ok ⟨⟨worker, ownerGeneration, payload⟩, commandId⟩
      | none => .error .unknownCommand := by
  have length : (controlBody command commandId ownerGeneration payload).length =
      28 + payload.length := length_controlBody
  have identity : field (controlBody command commandId ownerGeneration payload) 2 18 =
      commandId.toList := by
    show field ([schemaVersion, UInt8.ofNat command.code] ++ (commandId.toList ++ _)) 2 18 = _
    exact field_append rfl (by simp)
  have generation : field (controlBody command commandId ownerGeneration payload) 18 26 =
      toBytes 8 ownerGeneration := by
    show field ((schemaVersion :: UInt8.ofNat command.code :: commandId.toList) ++
      (toBytes 8 ownerGeneration ++ _)) 18 26 = _
    exact field_append (by simp) (by simp)
  have width : field (controlBody command commandId ownerGeneration payload) 26 28 =
      toBytes 2 payload.length := by
    have split : controlBody command commandId ownerGeneration payload =
        (schemaVersion :: UInt8.ofNat command.code ::
          (commandId.toList ++ toBytes 8 ownerGeneration)) ++
            (toBytes 2 payload.length ++ payload) := by
      simp [controlBody]
    rw [split]
    exact field_append (by simp) (by simp)
  have behind : (controlBody command commandId ownerGeneration payload).drop 28 = payload := by
    have split : controlBody command commandId ownerGeneration payload =
        (schemaVersion :: UInt8.ofNat command.code ::
          (commandId.toList ++ (toBytes 8 ownerGeneration ++ toBytes 2 payload.length))) ++
            payload := by
      simp [controlBody]
    rw [split]
    exact List.drop_left' (by simp)
  have payloadLength : ofBytes (toBytes 2 payload.length) = payload.length :=
    ofBytes_toBytes (by omega)
  have first : (controlBody command commandId ownerGeneration payload).getD 0 0 = schemaVersion :=
    rfl
  have second : (controlBody command commandId ownerGeneration payload).getD 1 0 =
      UInt8.ofNat command.code := rfl
  have complete : ¬ (controlBody command commandId ownerGeneration payload).length < 28 := by
    omega
  have bounded : ¬ payload.length > controlPayloadMax := Nat.not_lt.mpr short
  rw [decodeControl, dif_neg complete, first, if_neg (not_not.mpr rfl), second, tryFrom_code]
  cases command.worker with
  | none => rfl
  | some worker =>
      simp only [Fallible.ok_bind, identity, generation, width, behind, payloadLength,
        ofBytes_toBytes (show ownerGeneration < 256 ^ 8 from fits), if_neg bounded, length,
        ne_eq, not_true_eq_false, if_false]
      rfl

/-- What decodes is the body of a frame with the values it decodes to. -/
theorem decodeControl_ok {input : List UInt8} {decoded : DecodedControl}
    (accepted : decodeControl input = .ok decoded) :
    ∃ command : ScriptCommand, command.worker = some decoded.command ∧
      decoded.ownerGeneration < 2 ^ 64 ∧ decoded.payload.length ≤ 160 ∧
      input = controlBody command decoded.commandId decoded.ownerGeneration decoded.payload := by
  unfold decodeControl at accepted
  split at accepted
  · cases accepted
  rename_i complete
  split at accepted
  · cases accepted
  rename_i schema
  obtain ⟨worker, known, accepted⟩ := Fallible.bind_eq_ok_iff.mp accepted
  obtain ⟨command, same, code⟩ := exists_of_tryFrom known
  simp only at accepted
  split at accepted
  · cases accepted
  rename_i bounded
  split at accepted
  · cases accepted
  rename_i exactly
  cases accepted
  rw [not_not] at schema exactly
  have width : (input.drop 28).length = ofBytes (field input 26 28) := by
    rw [List.length_drop]
    omega
  have generation : (field input 18 26).length = 8 := length_field (by omega)
  have lengthBytes : (field input 26 28).length = 2 := length_field (by omega)
  refine ⟨command, same, ?_, ?_, ?_⟩
  · have bound := ofBytes_lt (field input 18 26)
    rw [generation] at bound
    exact bound
  · show (input.drop 28).length ≤ 160
    rw [width]
    exact Nat.le_of_not_lt bounded
  · have whole : input = input.getD 0 0 :: input.getD 1 0 :: input.drop 2 := by
      match input, complete with
      | [], complete => simp at complete
      | [_], complete => simp at complete
      | _ :: _ :: _, _ => rfl
    rw [controlBody, width, toBytes_ofBytes generation, toBytes_ofBytes lengthBytes, code,
      ← schema]
    show input = _ :: _ :: (field input 2 18 ++
      (field input 18 26 ++ (field input 26 28 ++ input.drop 28)))
    rw [field_append_drop input (by omega), field_append_drop input (by omega),
      field_append_drop input (by omega)]
    exact whole

/-- **Control frames survive the serial link.** Behind noise that does not look
like a header the control thread reads exactly the body of a frame, and the worker
decodes it to what the script wrote, unless it is the one command the worker does
not know. What the worker decodes is such a body. -/
theorem control_frames_survive :
    (∀ (command : ScriptCommand) (commandId : Vector UInt8 16) (ownerGeneration : ℕ)
        (payload : List UInt8), ownerGeneration < 2 ^ 64 → payload.length ≤ 160 →
      ∃ frame, controlFrame command commandId ownerGeneration payload = .ok frame ∧
        (∀ junk rest, (∀ index < junk.length, ¬ HeaderAt (junk ++ frame) index) →
          uartReadFrame [] (junk ++ frame ++ rest) = some (frame.drop 2, rest)) ∧
        (command ≠ .diagnosticSubscribe → ∃ worker, command.worker = some worker ∧
          decodeControl (frame.drop 2) = .ok ⟨⟨worker, ownerGeneration, payload⟩, commandId⟩) ∧
        (command = .diagnosticSubscribe →
          decodeControl (frame.drop 2) = .error .unknownCommand)) ∧
    (∀ input, (∃ decoded, decodeControl input = .ok decoded) ↔
      ∃ command commandId ownerGeneration payload frame,
        1 ≤ command.code ∧ command.code ≤ 10 ∧ ownerGeneration < 2 ^ 64 ∧ payload.length ≤ 160 ∧
          controlFrame command commandId ownerGeneration payload = .ok frame ∧
          frame.drop 2 = input) := by
  have unframed : ∀ (command : ScriptCommand) commandId ownerGeneration payload,
      (toBytes 2 (28 + payload.length) ++
        controlBody command commandId ownerGeneration payload).drop 2 =
          controlBody command commandId ownerGeneration payload :=
    fun _ _ _ _ => List.drop_left' (length_toBytes 2 _)
  constructor
  · intro command commandId ownerGeneration payload fits short
    refine ⟨_, controlFrame_eq fits short, ?_, ?_, ?_⟩
    · intro junk rest quiet
      have long : 2 ≤ (toBytes 2 (28 + payload.length) ++
          controlBody command commandId ownerGeneration payload).length := by
        simp
      rw [uartReadFrame_junk long quiet, uartReadFrame_frame short, unframed]
    · intro known
      rw [unframed, decodeControl_controlBody fits short]
      cases command with
      | diagnosticSubscribe => exact absurd rfl known
      | _ => exact ⟨_, rfl, rfl⟩
    · rintro rfl
      rw [unframed, decodeControl_controlBody fits short]
      rfl
  · intro input
    constructor
    · intro accepted
      obtain ⟨decoded, accepted⟩ := accepted
      obtain ⟨command, same, fits, short, body⟩ := decodeControl_ok accepted
      have code : 1 ≤ command.code ∧ command.code ≤ 10 := by
        cases command with
        | diagnosticSubscribe => cases same
        | _ => decide
      refine ⟨command, decoded.commandId, decoded.ownerGeneration, decoded.payload, _, code.1,
        code.2, fits, short, controlFrame_eq fits short, ?_⟩
      rw [unframed, body]
    · intro framed
      obtain ⟨command, commandId, ownerGeneration, payload, frame, -, small, fits, short, made,
        rfl⟩ := framed
      rw [controlFrame_eq fits short] at made
      cases made
      rw [unframed, decodeControl_controlBody fits short]
      cases command with
      | diagnosticSubscribe => exact absurd small (by decide)
      | _ => exact ⟨_, rfl⟩

/-- The subscription to diagnostics is framed and read like any command, and the
decoder rejects it. -/
theorem diagnosticSubscribe_not_decoded :
    ∃ frame, controlFrame .diagnosticSubscribe (Vector.replicate 16 7) 0 [0, 60] = .ok frame ∧
      uartReadFrame [] frame = some (frame.drop 2, []) ∧
      ∀ decoded, decodeControl (frame.drop 2) ≠ .ok decoded := by
  refine ⟨_, controlFrame_eq (by decide) (by decide), by decide, ?_⟩
  intro decoded
  rw [show decodeControl _ = .error .unknownCommand from rfl]
  intro impossible
  cases impossible

end Deskkin.Device
