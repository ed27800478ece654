/-
# Watching the diagnostic events

The script subscribes to the diagnostic events of the device and reads its answer with
the reader of all control responses, which takes whatever is ready, and the events behind
it with a reader that takes what it needs. What the first one took beyond the answer the
second one never sees.
-/

import Deskkin.Device.ControlFrame
import Deskkin.Device.StatusDecoder
import Deskkin.Lib.ChunkedReads

namespace Deskkin.Device

open BigEndian ChunkedReads Placement

/-! ## The device -/

/-- An event with the number of events that were lost before it. -/
structure DiagnosticEvent where
  sequence : UInt32
  uptimeMs : UInt32
  x : Int16
  y : Int16
  value : UInt32
  kind : UInt8
  flags : UInt8
  droppedBefore : UInt32
  deriving DecidableEq

def diagnosticEventSize : ℕ := 24

def DiagnosticEvent.writes (event : DiagnosticEvent) : List Write :=
  [⟨0, [1]⟩, ⟨1, [0x80]⟩, ⟨2, [event.kind]⟩, ⟨3, [event.flags]⟩, ⟨4, be32 event.sequence⟩,
    ⟨8, be32 event.uptimeMs⟩, ⟨12, be16 event.x.toUInt16⟩, ⟨14, be16 event.y.toUInt16⟩,
    ⟨16, be32 event.value⟩, ⟨20, be32 event.droppedBefore⟩]

def diagnosticRead (event : DiagnosticEvent) : List UInt8 :=
  putAll (List.replicate diagnosticEventSize 0) event.writes

def uartWriteCompletion (bytes : List UInt8) : List UInt8 := toBytes 2 bytes.length ++ bytes

def acknowledgement (commandId : Vector UInt8 16) : List UInt8 := [1, 0] ++ commandId.toList

/-- What the device writes after a subscription. -/
def diagnosticStream (commandId : Vector UInt8 16) (events : List DiagnosticEvent) : List UInt8 :=
  uartWriteCompletion (acknowledgement commandId) ++
    events.flatMap fun event => uartWriteCompletion (diagnosticRead event)

/-! ## The reader of control responses -/

/-- How a look at the buffer ends: with the response, or with a place that may still
become one. -/
inductive Scan
  | response (bytes : List UInt8)
  | candidate (start : Option ℕ)
  deriving DecidableEq

def scanFrom (buffered frame : List UInt8) (candidate : Option ℕ) : List ℕ → Scan
  | [] => .candidate candidate
  | start :: starts =>
      let length := unsigned buffered start (start + 2)
      let available := min 16 (buffered.length - (start + 4))
      if ¬(18 ≤ length ∧ length ≤ statusResponseSize) ∨ start + 3 > buffered.length then
        scanFrom buffered frame candidate starts
      else if statusByte buffered (start + 2) ≠ 1 then
        scanFrom buffered frame candidate starts
      else if field buffered (start + 4) (start + 4 + available) ≠
          field frame 4 (4 + available) then
        scanFrom buffered frame candidate starts
      else if available < 16 ∨ buffered.length < start + length + 2 then
        .candidate (some start)
      else
        let result := field buffered (start + 2) (start + length + 2)
        if field result 2 18 = field frame 4 20 then .response result
        else scanFrom buffered frame (some start) starts

def scan (buffered frame : List UInt8) : Scan :=
  scanFrom buffered frame none (List.range (buffered.length - 1))

/-- What is kept of a buffer without a response. -/
def trimmed (buffered : List UInt8) : Option ℕ → List UInt8
  | some start => buffered.drop start
  | none => if buffered.length > 19 then buffered.drop (buffered.length - 19) else buffered

/-- `none` stands for any error. Each round reads at least one byte. -/
def readControlResponse (ready : ℕ → ℕ) (frame : List UInt8) :
    ℕ → List UInt8 → Line UInt8 → Option (List UInt8 × Line UInt8)
  | 0, _, _ => none
  | rounds + 1, buffered, line =>
      if buffered.length > 4096 then none
      else
        match scan buffered frame with
        | .response bytes => some (bytes, line)
        | .candidate start => do
            let buffered := trimmed buffered start
            let chunk ← read ready (min 512 (4097 - buffered.length)) line
            readControlResponse ready frame rounds (buffered ++ chunk.1) chunk.2

/-! ## The watcher -/

inductive EventName
  | boot
  | renderer
  | shell
  | touch
  | uiCommand
  | service
  | memory
  | unknown
  deriving DecidableEq

def EventName.ofKind : ℕ → EventName
  | 1 => .boot
  | 2 => .renderer
  | 3 => .shell
  | 4 => .touch
  | 5 => .uiCommand
  | 6 => .service
  | 7 => .memory
  | _ => .unknown

/-- The entries that only some events have. -/
inductive EventDetails
  | none
  | touch (x y : ℤ) (pressed : Bool)
  | progress (rendererStage displayStage : ℤ) (rendererSequence displaySequence : ℕ)
  | service (stage : ℕ) (resultCode : ℤ)
  deriving DecidableEq

structure PrintedEvent where
  sequence : ℕ
  uptimeMs : ℕ
  event : EventName
  flags : ℕ
  value : ℕ
  droppedBefore : ℕ
  details : EventDetails
  deriving DecidableEq

/-- `int.from_bytes` of a signed number of so many bytes. -/
def signed (width value : ℕ) : ℤ :=
  if 2 * value < 256 ^ width then value else (value : ℤ) - (256 ^ width : ℕ)

def printEvent (payload : List UInt8) : PrintedEvent :=
  let kind := statusByte payload 2
  let flags := statusByte payload 3
  let x := signed 2 (unsigned payload 12 14)
  let y := signed 2 (unsigned payload 14 16)
  let value := unsigned payload 16 20
  { sequence := unsigned payload 4 8
    uptimeMs := unsigned payload 8 12
    event := EventName.ofKind kind
    flags := flags
    value := value
    droppedBefore := unsigned payload 20 24
    details :=
      if kind = 4 then .touch x y (flags &&& 1 ≠ 0)
      else if kind = 2 ∧ flags = 0x80 then .progress x y (value >>> 16) (value &&& 0xFFFF)
      else if kind = 6 ∧ flags &&& 0x80 ≠ 0 then .service (flags &&& 0x7F) (signed 4 value)
      else .none }

/-- The events that are printed until nothing more comes. A payload that does not come
ends the watch with an error. -/
def watchEvents (ready : ℕ → ℕ) : ℕ → Line UInt8 → List PrintedEvent
  | 0, _ => []
  | rounds + 1, line =>
      match readExact ready 2 line with
      | none => []
      | some head =>
          match readExact ready (ofBytes head.1) head.2 with
          | none => []
          | some payload =>
              let others := watchEvents ready rounds payload.2
              if ofBytes head.1 ≠ 24 ∨ statusByte payload.1 0 ≠ 1 ∨
                  statusByte payload.1 1 ≠ 0x80 then
                others
              else printEvent payload.1 :: others

def watchPayload (seconds : ℕ) (autoPair : Bool) : List UInt8 :=
  toBytes 2 (max 1 (min 300 seconds)) ++ if autoPair then [1] else []

/-- What is printed when so much is ready at each read. -/
def watchDiagnostics (ready : ℕ → ℕ) (commandId : Vector UInt8 16) (seconds : ℕ) (autoPair : Bool)
    (stream : List UInt8) : List PrintedEvent :=
  match controlFrame .diagnosticSubscribe commandId 0 (watchPayload seconds autoPair) with
  | .error _ => []
  | .ok frame =>
      match readControlResponse ready frame (stream.length + 1) [] ⟨stream, 0⟩ with
      | none => []
      | some response =>
          if response.1.length ≠ 18 ∨ statusByte response.1 1 ≠ 0 then []
          else watchEvents ready (response.2.rest.length + 1) response.2

/-! ## What should be printed -/

/-- The event with the values of its own fields. -/
def DiagnosticEvent.reported (event : DiagnosticEvent) : PrintedEvent where
  sequence := event.sequence.toNat
  uptimeMs := event.uptimeMs.toNat
  event := EventName.ofKind event.kind.toNat
  flags := event.flags.toNat
  value := event.value.toNat
  droppedBefore := event.droppedBefore.toNat
  details :=
    if event.kind = 4 then .touch event.x.toInt event.y.toInt (event.flags &&& 1 ≠ 0)
    else if event.kind = 2 ∧ event.flags = 0x80 then
      .progress event.x.toInt event.y.toInt (event.value >>> 16).toNat
        (event.value &&& 0xFFFF).toNat
    else if event.kind = 6 ∧ event.flags &&& 0x80 ≠ 0 then
      .service (event.flags &&& 0x7F).toNat event.value.toInt32.toInt
    else .none

/-! ## One event -/

theorem shape_writes (event : DiagnosticEvent) : event.writes.map Write.shape =
    [(0, 1), (1, 1), (2, 1), (3, 1), (4, 4), (8, 4), (12, 2), (14, 2), (16, 4), (20, 4)] := by
  simp [DiagnosticEvent.writes, Write.shape]

theorem tidy_event (event : DiagnosticEvent) : Tidy diagnosticEventSize event.writes :=
  tidy_of_shapes (shape_writes event) (by decide) (by decide)

theorem length_diagnosticRead (event : DiagnosticEvent) : (diagnosticRead event).length = 24 := by
  rw [diagnosticRead, length_putAll, List.length_replicate]
  · rfl
  · rw [List.length_replicate]
    exact (tidy_event event).inside

section Fields

variable {event : DiagnosticEvent}

variable (index : ℕ)

theorem unsigned_event {start stop : ℕ} {bytes : List UInt8}
    (found : event.writes[index]? = some ⟨start, bytes⟩) (width : start + bytes.length = stop) :
    unsigned (diagnosticRead event) start stop = ofBytes bytes := by
  apply unsigned_putAll index _ found width
  rw [List.length_replicate]
  exact tidy_event event

theorem byte_event {start : ℕ} {x : UInt8} (found : event.writes[index]? = some ⟨start, [x]⟩)
    (inside : start < 24) : statusByte (diagnosticRead event) start = x.toNat := by
  have read : unsigned (diagnosticRead event) start (start + 1) = ofBytes [x] :=
    unsigned_event index found rfl
  rw [statusByte_eq_unsigned (by rw [length_diagnosticRead]; exact inside), read,
    ofBytes_singleton]

theorem half_event {start stop : ℕ} {x : UInt16}
    (found : event.writes[index]? = some ⟨start, be16 x⟩) (width : start + 2 = stop) :
    unsigned (diagnosticRead event) start stop = x.toNat := by
  rw [unsigned_event index found (by rw [length_be16]; exact width), ofBytes_be16]

theorem word_event {start stop : ℕ} {x : UInt32}
    (found : event.writes[index]? = some ⟨start, be32 x⟩) (width : start + 4 = stop) :
    unsigned (diagnosticRead event) start stop = x.toNat := by
  rw [unsigned_event index found (by rw [length_be32]; exact width), ofBytes_be32]

end Fields

theorem signed_toUInt16 (x : Int16) : signed 2 x.toUInt16.toNat = x.toInt := by
  show signed 2 x.toBitVec.toNat = x.toBitVec.toInt
  rw [BitVec.toInt_eq_toNat_cond, signed]
  rfl

theorem signed_toInt32 (x : UInt32) : signed 4 x.toNat = x.toInt32.toInt := by
  show signed 4 x.toBitVec.toNat = x.toBitVec.toInt
  rw [BitVec.toInt_eq_toNat_cond, signed]
  rfl

/-- **The script prints the fields of the event.** -/
theorem printEvent_diagnosticRead (event : DiagnosticEvent) :
    printEvent (diagnosticRead event) = event.reported := by
  have kind : statusByte (diagnosticRead event) 2 = event.kind.toNat :=
    byte_event 2 rfl (by decide)
  have flags : statusByte (diagnosticRead event) 3 = event.flags.toNat :=
    byte_event 3 rfl (by decide)
  have sequence : unsigned (diagnosticRead event) 4 8 = event.sequence.toNat :=
    word_event 4 rfl rfl
  have uptime : unsigned (diagnosticRead event) 8 12 = event.uptimeMs.toNat :=
    word_event 5 rfl rfl
  have x : unsigned (diagnosticRead event) 12 14 = event.x.toUInt16.toNat := half_event 6 rfl rfl
  have y : unsigned (diagnosticRead event) 14 16 = event.y.toUInt16.toNat := half_event 7 rfl rfl
  have value : unsigned (diagnosticRead event) 16 20 = event.value.toNat := word_event 8 rfl rfl
  have dropped : unsigned (diagnosticRead event) 20 24 = event.droppedBefore.toNat :=
    word_event 9 rfl rfl
  simp only [printEvent, DiagnosticEvent.reported, kind, flags, sequence, uptime, x, y, value,
    dropped, signed_toUInt16, signed_toInt32]
  have touch : event.kind.toNat = 4 ↔ event.kind = 4 := UInt8.toNat_inj (b := 4)
  have renderer : event.kind.toNat = 2 ↔ event.kind = 2 := UInt8.toNat_inj (b := 2)
  have service : event.kind.toNat = 6 ↔ event.kind = 6 := UInt8.toNat_inj (b := 6)
  have progress : event.flags.toNat = 0x80 ↔ event.flags = 0x80 := UInt8.toNat_inj (b := 0x80)
  have pressed : event.flags.toNat &&& 1 = 0 ↔ event.flags &&& 1 = 0 := by
    rw [← UInt8.toNat_inj, UInt8.toNat_and]
    rfl
  have failed : event.flags.toNat &&& 0x80 = 0 ↔ event.flags &&& 0x80 = 0 := by
    rw [← UInt8.toNat_inj, UInt8.toNat_and]
    rfl
  have stage : event.flags.toNat &&& 0x7F = (event.flags &&& 0x7F).toNat := by
    rw [UInt8.toNat_and]
    rfl
  have upper : event.value.toNat >>> 16 = (event.value >>> 16).toNat := by
    rw [UInt32.toNat_shiftRight]
    rfl
  have lower : event.value.toNat &&& 0xFFFF = (event.value &&& 0xFFFF).toNat := by
    rw [UInt32.toNat_and]
    rfl
  simp only [touch, renderer, service, progress, pressed, failed, stage, upper, lower, ne_eq]

/-! ## The events of a stream -/

theorem length_event (event : DiagnosticEvent) :
    (uartWriteCompletion (diagnosticRead event)).length = 26 := by
  rw [uartWriteCompletion, List.length_append, length_toBytes, length_diagnosticRead]

theorem length_events (events : List DiagnosticEvent) :
    (events.flatMap fun event => uartWriteCompletion (diagnosticRead event)).length =
      26 * events.length := by
  induction events with
  | nil => rfl
  | cons event events ih =>
      rw [List.flatMap_cons, List.length_append, length_event, ih, List.length_cons]
      omega

/-- Every printed event took the bytes of an event. -/
theorem length_watchEvents {ready : ℕ → ℕ} {rounds : ℕ} {line : Line UInt8} :
    26 * (watchEvents ready rounds line).length ≤ line.rest.length := by
  induction rounds generalizing line with
  | zero => exact Nat.zero_le _
  | succ rounds ih =>
      rw [watchEvents]
      cases first : readExact ready 2 line with
      | none => exact Nat.zero_le _
      | some head =>
          dsimp only
          cases second : readExact ready (ofBytes head.1) head.2 with
          | none => exact Nat.zero_le _
          | some payload =>
              obtain ⟨whole, width⟩ := readExact_append first
              obtain ⟨behind, size⟩ := readExact_append second
              have others := @ih payload.2
              rw [← whole, List.length_append, width, ← behind, List.length_append, size]
              show 26 * List.length (if _ then _ else _) ≤ _
              split
              · omega
              · rename_i event
                rw [List.length_cons]
                omega

/-- **A watch that starts at an event prints all of them.** -/
theorem watchEvents_events {ready : ℕ → ℕ} {events : List DiagnosticEvent} {rounds reads : ℕ}
    (enough : events.length ≤ rounds) :
    watchEvents ready rounds
        ⟨events.flatMap fun event => uartWriteCompletion (diagnosticRead event), reads⟩ =
      events.map DiagnosticEvent.reported := by
  induction events generalizing rounds reads with
  | nil =>
      cases rounds with
      | zero => rfl
      | succ rounds => rfl
  | cons event events ih =>
      cases rounds with
      | zero => cases enough
      | succ rounds =>
          have size : ofBytes (toBytes 2 (diagnosticRead event).length) = 24 := by
            rw [length_diagnosticRead]
            rfl
          have schema : statusByte (diagnosticRead event) 0 = 1 := byte_event 0 rfl (by decide)
          have response : statusByte (diagnosticRead event) 1 = 0x80 :=
            byte_event 1 rfl (by decide)
          rw [List.flatMap_cons, uartWriteCompletion, List.append_assoc]
          generalize others :
            (events.flatMap fun event => uartWriteCompletion (diagnosticRead event)) = stream
          obtain ⟨headReads, head⟩ := @readExact_eq _ ready 2 ⟨toBytes 2
            (diagnosticRead event).length ++ (diagnosticRead event ++ stream), reads⟩
            (by simp)
          rw [List.take_left' (length_toBytes 2 _), List.drop_left' (length_toBytes 2 _)] at head
          obtain ⟨payloadReads, payload⟩ := @readExact_eq _ ready 24 ⟨diagnosticRead event ++
            stream, headReads⟩ (by simp [length_diagnosticRead])
          rw [List.take_left' (length_diagnosticRead event),
            List.drop_left' (length_diagnosticRead event)] at payload
          have rest := @ih rounds payloadReads (Nat.le_of_succ_le_succ enough)
          rw [others] at rest
          rw [watchEvents, head]
          simp only [size, payload, schema, response, ne_eq, not_true_eq_false, or_self, if_false,
            rest, printEvent_diagnosticRead, List.map_cons]

/-! ## The answer and what follows it -/

section Answer

variable {commandId : Vector UInt8 16} {frame : List UInt8}

/-- The answer on the line. -/
theorem answer_eq : uartWriteCompletion (acknowledgement commandId) =
    [0, 18, 1, 0] ++ commandId.toList := by
  have width : (acknowledgement commandId).length = 18 := by
    rw [acknowledgement, List.length_append, Vector.length_toList]
    rfl
  rw [uartWriteCompletion, width]
  rfl

theorem length_answer : (uartWriteCompletion (acknowledgement commandId)).length = 20 := by
  rw [answer_eq, List.length_append, Vector.length_toList]
  rfl

variable {buffered rest more : List UInt8}

section

variable (begins : buffered ++ rest = uartWriteCompletion (acknowledgement commandId) ++ more)
include begins

/-- What is there of the answer reads as in the answer. -/
theorem field_answer {start stop : ℕ} (there : stop ≤ buffered.length) (inside : stop ≤ 20) :
    field buffered start stop =
      field (uartWriteCompletion (acknowledgement commandId)) start stop := by
  rw [← field_append_left rest there, begins, field_append_left more]
  rw [length_answer]
  exact inside

theorem unsigned_answer (there : 2 ≤ buffered.length) : unsigned buffered 0 2 = 18 := by
  rw [unsigned, field_answer begins there (by decide), answer_eq]
  rfl

theorem schema_answer (there : 3 ≤ buffered.length) : statusByte buffered 2 = 1 := by
  rw [statusByte_eq_unsigned there, unsigned, field_answer begins there (by decide), answer_eq]
  rfl

end

theorem field_identity : field (uartWriteCompletion (acknowledgement commandId)) 4 20 =
    commandId.toList := by
  rw [answer_eq]
  exact field_append_right rfl (by simp)

variable (named : field frame 4 20 = commandId.toList)
include named

/-- As much of the id as there is. -/
theorem identity_answer
    (begins : buffered ++ rest = uartWriteCompletion (acknowledgement commandId) ++ more)
    {count : ℕ} (there : 4 + count ≤ buffered.length) (inside : count ≤ 16) :
    field buffered 4 (4 + count) = field frame 4 (4 + count) := by
  rw [field_answer begins there (by omega), ← take_field _ (show 4 + count ≤ 20 by omega),
    ← take_field _ (show 4 + count ≤ 20 by omega), field_identity, named]

/-- An answer that is not complete is a candidate from its third byte on. -/
theorem scan_part
    (begins : buffered ++ rest = uartWriteCompletion (acknowledgement commandId) ++ more)
    (short : buffered.length < 20) :
    scan buffered frame = .candidate (if buffered.length < 3 then none else some 0) := by
  by_cases header : buffered.length < 3
  · rw [if_pos header, scan]
    have few : buffered.length - 1 = 0 ∨ buffered.length - 1 = 1 := by omega
    rcases few with none | one
    · rw [none]
      rfl
    · rw [one]
      show scanFrom buffered frame none [0] = _
      rw [scanFrom, if_pos (Or.inr (by omega))]
      rfl
  · have count : buffered.length - 1 = buffered.length - 2 + 1 := by omega
    have available : min 16 (buffered.length - 4) = buffered.length - 4 := by omega
    have matching : field buffered 4 (4 + min 16 (buffered.length - 4)) =
        field frame 4 (4 + min 16 (buffered.length - 4)) := by
      by_cases id : 4 ≤ buffered.length
      · exact identity_answer named begins (by omega) (Nat.min_le_left _ _)
      · rw [Nat.sub_eq_zero_of_le (Nat.le_of_not_le id)]
        simp [field]
    rw [if_neg header, scan, count, List.range_succ_eq_map, scanFrom]
    simp only [Nat.zero_add, unsigned_answer begins (by omega), schema_answer begins (by omega),
      matching]
    rw [if_neg (by simp [statusResponseSize]; omega), if_neg (by decide), if_neg (by simp),
      if_pos (Or.inr (by omega))]

theorem scan_whole
    (begins : buffered ++ rest = uartWriteCompletion (acknowledgement commandId) ++ more)
    (long : 20 ≤ buffered.length) :
    scan buffered frame = .response (acknowledgement commandId) := by
  have count : buffered.length - 1 = buffered.length - 2 + 1 := by omega
  have available : min 16 (buffered.length - 4) = 16 := by omega
  have identity := @identity_answer _ _ _ _ _ named begins 16 long (Nat.le_refl _)
  have answer : field buffered 2 20 = acknowledgement commandId := by
    rw [field_answer begins long (Nat.le_refl _), uartWriteCompletion]
    exact field_append_right (by simp) (by simp [acknowledgement])
  have inner : field (acknowledgement commandId) 2 18 = commandId.toList := by
    rw [acknowledgement]
    exact field_append_right rfl (by simp)
  rw [scan, count, List.range_succ_eq_map, scanFrom]
  simp only [Nat.zero_add, unsigned_answer begins (by omega), schema_answer begins (by omega),
    available, identity, answer, inner, named]
  rw [if_neg (by simp [statusResponseSize]; omega), if_neg (by decide), if_neg (by simp),
    if_neg (by omega)]
  simp

omit named in
/-- An answer that is not complete is kept whole. -/
theorem trimmed_part (short : buffered.length < 20) :
    trimmed buffered (if buffered.length < 3 then none else some 0) = buffered := by
  by_cases header : buffered.length < 3
  · rw [if_pos header, trimmed, if_neg (by omega)]
  · rw [if_neg header]
    rfl

/-- **What the reader of responses leaves.** It finds the answer however the bytes arrive,
and it leaves all that follows if and only if one of its reads ended with the answer. -/
theorem readControlResponse_answer {ready : ℕ → ℕ} {rounds : ℕ} {line : Line UInt8}
    (enough : 0 < rounds ∧ 21 ≤ rounds + buffered.length) (small : buffered.length ≤ 4096)
    (begins : buffered ++ line.rest = uartWriteCompletion (acknowledgement commandId) ++ more) :
    ∃ lost next, readControlResponse ready frame rounds buffered line =
        some (acknowledgement commandId, next) ∧
      lost ++ next.rest = more ∧
      (lost = [] ↔ more = [] ∨ ∃ n, buffered.length + delivered ready line.reads n = 20) := by
  induction rounds generalizing buffered line with
  | zero => omega
  | succ rounds ih =>
      have total : buffered.length + line.rest.length = 20 + more.length := by
        have lengths := congrArg List.length begins
        rwa [List.length_append, List.length_append, length_answer] at lengths
      rw [readControlResponse, if_neg (Nat.not_lt.mpr small)]
      by_cases short : buffered.length < 20
      · have room : 512 ≤ 4097 - buffered.length := by omega
        have positive := amount_pos ready line.reads
        have nonempty : line.rest.isEmpty = false := by
          rw [List.isEmpty_eq_false_iff]
          intro nothing
          rw [nothing, List.length_nil] at total
          omega
        generalize chosen : min 512 (amount ready line.reads) = count
        have taken : (line.rest.take count).length = min count line.rest.length := List.length_take
        obtain ⟨lost, next, found, behind, exactly⟩ := @ih (buffered ++ line.rest.take count)
          ⟨line.rest.drop count, line.reads + 1⟩
          (by rw [List.length_append, taken]; omega) (by rw [List.length_append, taken]; omega)
          (by rw [List.append_assoc, List.take_append_drop, begins])
        refine ⟨lost, next, ?_, behind, exactly.trans ?_⟩
        · rw [scan_part named begins short]
          dsimp only
          rw [trimmed_part short, ChunkedReads.read, nonempty, if_neg Bool.false_ne_true,
            Nat.min_eq_left room, chosen]
          exact found
        · rw [List.length_append, taken]
          cases more with
          | nil => simp
          | cons first others =>
              rw [List.length_cons] at total
              have neither : (first :: others = []) = False := by simp
              rw [neither, false_or, false_or]
              dsimp only
              constructor
              · rintro ⟨n, same⟩
                refine ⟨n + 1, ?_⟩
                rw [delivered]
                omega
              · rintro ⟨n, same⟩
                cases n with
                | zero =>
                    rw [delivered] at same
                    omega
                | succ n =>
                    refine ⟨n, ?_⟩
                    rw [delivered] at same
                    omega
      · have complete := Nat.le_of_not_lt short
        have start : buffered.take 20 = uartWriteCompletion (acknowledgement commandId) := by
          have first := congrArg (List.take 20) begins
          rwa [List.take_append_of_le_length complete,
            List.take_left' (@length_answer commandId)] at first
        have follows : buffered.drop 20 ++ line.rest = more := by
          rw [← List.take_append_drop 20 buffered, start, List.append_assoc] at begins
          exact List.append_cancel_left begins
        refine ⟨buffered.drop 20, line, ?_, follows, ?_⟩
        · rw [scan_whole named begins complete]
        · rw [List.drop_eq_nil_iff]
          constructor
          · intro full
            exact Or.inr ⟨0, Nat.le_antisymm full complete⟩
          · rintro (nothing | ⟨n, same⟩)
            · rw [nothing] at total
              simp at total
              omega
            · omega

end Answer

/-- **The watcher prints what it was sent if and only if the answer came alone.** Nothing is
lost where a read ended exactly with the answer; where the read that completed the answer
brought more, the events that follow are not all printed. -/
theorem watchDiagnostics_faithful_iff (ready : ℕ → ℕ) (commandId : Vector UInt8 16) (seconds : ℕ)
    (autoPair : Bool) (events : List DiagnosticEvent) :
    watchDiagnostics ready commandId seconds autoPair (diagnosticStream commandId events) =
        events.map DiagnosticEvent.reported ↔
      events = [] ∨ ∃ n, delivered ready 0 n = 20 := by
  have short : (watchPayload seconds autoPair).length ≤ 160 := by
    rw [watchPayload, List.length_append, length_toBytes]
    cases autoPair <;> decide
  generalize sent : (events.flatMap fun event => uartWriteCompletion (diagnosticRead event)) = more
  have size : more.length = 26 * events.length := by
    rw [← sent, length_events]
  have framed := @controlFrame_eq .diagnosticSubscribe commandId 0 _ (by decide) short
  have named := field_controlFrame framed
  have stream : diagnosticStream commandId events =
      uartWriteCompletion (acknowledgement commandId) ++ more := by
    rw [diagnosticStream, sent]
  obtain ⟨lost, next, found, behind, exactly⟩ := @readControlResponse_answer commandId _ [] more
    named ready ((diagnosticStream commandId events).length + 1)
    ⟨diagnosticStream commandId events, 0⟩
    ⟨Nat.succ_pos _, by rw [stream, List.length_append, length_answer]; omega⟩
    (Nat.zero_le _) stream
  have answered : (acknowledgement commandId).length = 18 := by simp [acknowledgement]
  have watched : watchDiagnostics ready commandId seconds autoPair
      (diagnosticStream commandId events) = watchEvents ready (next.rest.length + 1) next := by
    rw [watchDiagnostics, controlFrame_eq (by decide) short]
    dsimp only
    rw [found]
    dsimp only
    rw [if_neg]
    rw [answered]
    simp [acknowledgement, statusByte]
  have all : lost = [] ↔ events = [] ∨ ∃ n, delivered ready 0 n = 20 := by
    have empty : more = [] ↔ events = [] := by
      rw [← List.length_eq_zero_iff, size, ← List.length_eq_zero_iff]
      omega
    rw [exactly, empty, List.length_nil]
    simp only [Nat.zero_add]
  rw [watched, ← all]
  constructor
  · intro same
    have printed := @length_watchEvents ready (next.rest.length + 1) next
    rw [same, List.length_map, ← size, ← behind, List.length_append] at printed
    exact List.eq_nil_of_length_eq_zero (by omega)
  · intro nothing
    rw [nothing, List.nil_append] at behind
    have aligned : next = ⟨events.flatMap fun event => uartWriteCompletion (diagnosticRead event),
        next.reads⟩ := by
      rw [sent, ← behind]
    rw [aligned, watchEvents_events]
    rw [length_events]
    omega

/-- The answer and the first event arrive in one read, and the event is not printed. -/
theorem first_event_lost :
    watchDiagnostics (fun _ => 46) (Vector.replicate 16 7) 60 false
        (diagnosticStream (Vector.replicate 16 7) [⟨1, 9, 0, 0, 5, 1, 0, 0⟩]) = [] ∧
      [(⟨1, 9, 0, 0, 5, 1, 0, 0⟩ : DiagnosticEvent)].map DiagnosticEvent.reported ≠ [] := by
  decide +kernel

end Deskkin.Device
