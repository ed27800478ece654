/-
# Finding a response in noise

The reader of control responses looks for the id of its command behind something that
reads like a header, and drops what can no longer become one. It finds the response
whatever comes before it and however the bytes arrive, as long as the id does not come
earlier.

A place that looks like the start of a response either is the response or lacks part of
the id, so it is too close to the end of the buffer for the response to be there.
-/

import Deskkin.Device.DiagnosticWatch

namespace Deskkin.Device

open BigEndian ChunkedReads Placement

/-! ## Looking at the buffer -/

/-- What the reader takes for the start of a response, as far as it is there. -/
structure LooksLikeResponse (buffered frame : List UInt8) (start : ℕ) : Prop where
  there : start + 3 ≤ buffered.length
  length : 18 ≤ unsigned buffered start (start + 2) ∧
    unsigned buffered start (start + 2) ≤ statusResponseSize
  schema : statusByte buffered (start + 2) = 1
  identity : field buffered (start + 4)
      (start + 4 + min 16 (buffered.length - (start + 4))) =
    field frame 4 (4 + min 16 (buffered.length - (start + 4)))

section Scan

variable {buffered frame : List UInt8} {candidate : Option ℕ} {start : ℕ} {starts more : List ℕ}

theorem scanFrom_skip (other : ¬ LooksLikeResponse buffered frame start) :
    scanFrom buffered frame candidate (start :: starts) =
      scanFrom buffered frame candidate starts := by
  rw [scanFrom]
  split
  · rfl
  · rename_i length
    split
    · rfl
    · rename_i schema
      split
      · rfl
      · rename_i identity
        rw [not_or, not_not, Nat.not_lt] at length
        rw [not_not] at schema identity
        exact absurd ⟨length.2, length.1, schema, identity⟩ other

theorem scanFrom_skips (others : ∀ start ∈ starts, ¬ LooksLikeResponse buffered frame start) :
    scanFrom buffered frame candidate (starts ++ more) =
      scanFrom buffered frame candidate more := by
  induction starts with
  | nil => rfl
  | cons start starts ih =>
      rw [List.cons_append, scanFrom_skip (others start List.mem_cons_self)]
      exact ih fun start member => others start (List.mem_cons_of_mem _ member)

/-- What looks like a response is one, or is waited for. -/
theorem scanFrom_looks (looks : LooksLikeResponse buffered frame start) :
    scanFrom buffered frame candidate (start :: starts) =
      if buffered.length < start + unsigned buffered start (start + 2) + 2 then
        .candidate (some start)
      else .response
        (field buffered (start + 2) (start + unsigned buffered start (start + 2) + 2)) := by
  have length := looks.length
  rw [scanFrom]
  dsimp only
  rw [if_neg (not_or.mpr ⟨not_not.mpr looks.length, Nat.not_lt.mpr looks.there⟩),
    if_neg (not_not.mpr looks.schema), if_neg (not_not.mpr looks.identity)]
  by_cases short : buffered.length < start + unsigned buffered start (start + 2) + 2
  · rw [if_pos (Or.inr short), if_pos short]
  · have available : min 16 (buffered.length - (start + 4)) = 16 := by omega
    have identity := looks.identity
    rw [available] at identity ⊢
    have inner : field (field buffered (start + 2)
        (start + unsigned buffered start (start + 2) + 2)) 2 18 =
          field buffered (start + 4) (start + 4 + 16) := by
      rw [field, field, field, List.drop_take, List.take_take, List.drop_drop]
      congr 1
      omega
    rw [if_neg (by omega), if_neg short, if_pos (inner.trans identity)]

/-- The first place that looks like a response decides. -/
theorem scan_first (looks : LooksLikeResponse buffered frame start)
    (first : ∀ other < start, ¬ LooksLikeResponse buffered frame other) :
    scan buffered frame =
      if buffered.length < start + unsigned buffered start (start + 2) + 2 then
        .candidate (some start)
      else .response
        (field buffered (start + 2) (start + unsigned buffered start (start + 2) + 2)) := by
  have there := looks.there
  have split : List.range (buffered.length - 1) =
      List.range start ++ start :: (List.range (buffered.length - start - 2)).map
        fun index => start + (index + 1) := by
    rw [show buffered.length - 1 = start + (buffered.length - start - 2 + 1) by omega,
      List.range_add, List.range_succ_eq_map, List.map_cons, List.map_map]
    rfl
  rw [scan, split, scanFrom_skips fun other member => first other (List.mem_range.mp member),
    scanFrom_looks looks]

theorem scan_none (none : ∀ start, ¬ LooksLikeResponse buffered frame start) :
    scan buffered frame = .candidate Option.none := by
  have all := @scanFrom_skips buffered frame Option.none
    (List.range (buffered.length - 1)) [] fun start _ => none start
  rw [List.append_nil] at all
  exact all

end Scan

/-! ## A response on the line -/

/-- The id of the command stands at this place. -/
def IdAt (commandId : Vector UInt8 16) (stream : List UInt8) (place : ℕ) : Prop :=
  field stream place (place + 16) = commandId.toList

instance (commandId : Vector UInt8 16) (stream : List UInt8) (place : ℕ) :
    Decidable (IdAt commandId stream place) := by
  unfold IdAt
  infer_instance

/-- A body that answers the command. -/
structure Answers (commandId : Vector UInt8 16) (body : List UInt8) : Prop where
  length : 18 ≤ body.length ∧ body.length ≤ statusResponseSize
  schema : statusByte body 0 = 1
  carries : IdAt commandId body 2

/-- The response comes behind noise, and the id does not come before its body. -/
structure Arriving (commandId : Vector UInt8 16) (body junk stream more : List UInt8) : Prop where
  answers : Answers commandId body
  begins : stream = junk ++ (uartWriteCompletion body ++ more)
  quiet : ∀ place < junk.length + 2, ¬ IdAt commandId stream place

section Arriving

variable {commandId : Vector UInt8 16} {body junk stream more frame buffered rest : List UInt8}

/-- A framed body is its length in two bytes, and the first of them is zero. -/
theorem uartWriteCompletion_short (short : body.length < 256) :
    uartWriteCompletion body = 0 :: UInt8.ofNat body.length :: body := by
  have none : body.length / 256 = 0 := Nat.div_eq_of_lt short
  rw [uartWriteCompletion, toBytes, toBytes, toBytes, none, Nat.mod_eq_of_lt short]
  rfl

theorem length_framed : (uartWriteCompletion body).length = body.length + 2 := by
  rw [uartWriteCompletion, List.length_append, length_toBytes, Nat.add_comm]

variable (arriving : Arriving commandId body junk stream more)

include arriving

theorem Arriving.size : stream.length = junk.length + (body.length + 2) + more.length := by
  rw [arriving.begins, List.length_append, List.length_append, length_framed, ← Nat.add_assoc]

/-- The body stands behind the two bytes of its length. -/
theorem Arriving.field_body {start stop : ℕ} (inside : stop ≤ body.length) :
    field stream (junk.length + 2 + start) (junk.length + 2 + stop) = field body start stop := by
  have split : stream = (junk ++ toBytes 2 body.length) ++ (body ++ more) := by
    rw [arriving.begins, uartWriteCompletion, List.append_assoc, List.append_assoc]
  have before : (junk ++ toBytes 2 body.length).length = junk.length + 2 := by
    rw [List.length_append, length_toBytes]
  rw [← field_append_left more inside, split, field, field, ← before,
    List.drop_length_add_append, Nat.add_sub_add_left]

theorem Arriving.unsigned_length :
    unsigned stream junk.length (junk.length + 2) = body.length := by
  have short := arriving.answers.length.2
  rw [unsigned, arriving.begins, uartWriteCompletion, List.append_assoc,
    field_append rfl (by rw [length_toBytes]; omega), ofBytes_toBytes]
  rw [statusResponseSize] at short
  omega

/-- The first byte of the length is zero. -/
theorem Arriving.statusByte_length : statusByte stream junk.length = 0 := by
  have short := arriving.answers.length.2
  rw [statusResponseSize] at short
  rw [statusByte, arriving.begins, uartWriteCompletion_short (by omega),
    List.getD_eq_getElem?_getD, List.getElem?_append_right (Nat.le_refl _), Nat.sub_self]
  rfl

theorem Arriving.statusByte_schema : statusByte stream (junk.length + 2) = 1 := by
  have length := arriving.answers.length.1
  have size := arriving.size
  have first : field stream (junk.length + 2 + 0) (junk.length + 2 + 1) = field body 0 1 :=
    arriving.field_body (by omega)
  rw [Nat.add_zero] at first
  rw [statusByte_eq_unsigned (by omega), unsigned, first, ← unsigned,
    ← statusByte_eq_unsigned (by omega)]
  exact arriving.answers.schema

theorem Arriving.idAt : IdAt commandId stream (junk.length + 4) := by
  have length := arriving.answers.length.1
  have body : field stream (junk.length + 2 + 2) (junk.length + 2 + 18) = field body 2 18 :=
    arriving.field_body length
  exact body.trans arriving.answers.carries

end Arriving

/-! ## What the buffer has of it -/

section Buffer

variable {commandId : Vector UInt8 16} {body junk more frame buffered rest : List UInt8}
  (arriving : Arriving commandId body junk (buffered ++ rest) more)

include arriving

variable (named : field frame 4 20 = commandId.toList)
include named

/-- From its third byte on the response looks like one. -/
theorem Arriving.looks (there : junk.length + 3 ≤ buffered.length) :
    LooksLikeResponse buffered frame junk.length where
  there := there
  length := by
    have length := arriving.unsigned_length
    rw [unsigned, field_append_left rest (by omega), ← unsigned] at length
    rw [length]
    exact arriving.answers.length
  schema := by
    have schema := arriving.statusByte_schema
    rwa [statusByte_eq_unsigned (by rw [List.length_append]; omega), unsigned,
      field_append_left rest (by omega), ← unsigned, ← statusByte_eq_unsigned (by omega)] at schema
  identity := by
    have identity := arriving.idAt
    rw [IdAt, ← named] at identity
    generalize available : min 16 (buffered.length - (junk.length + 4)) = count
    have upTo : count ≤ 16 := by omega
    rcases Nat.eq_zero_or_pos count with none | some
    · rw [none]
      simp [field]
    · have inFrame : 4 + count ≤ 20 := by omega
      have inStream : junk.length + 4 + count ≤ junk.length + 4 + 16 := by omega
      rw [← field_append_left rest (by omega), ← take_field (buffered ++ rest) inStream,
        identity, take_field frame inFrame]

/-- What looks like a response earlier lacks part of the id. -/
theorem Arriving.short_of_looks {start : ℕ} (early : start < junk.length)
    (looks : LooksLikeResponse buffered frame start) : buffered.length < start + 20 := by
  by_contra long
  have there := looks.there
  have available : min 16 (buffered.length - (start + 4)) = 16 := by omega
  have identity := looks.identity
  rw [available, named, ← field_append_left rest (by omega)] at identity
  by_cases before : start + 4 < junk.length + 2
  · exact arriving.quiet _ before identity
  · have zero := arriving.statusByte_length
    rw [statusByte_eq_unsigned (by rw [List.length_append]; omega), unsigned,
      field_append_left rest (by omega), ← unsigned] at zero
    rcases (by omega : junk.length = start + 2 ∨ junk.length = start + 1) with last | first
    -- The schema of what looks like a response is the first byte of the length.
    · rw [last, ← statusByte_eq_unsigned (by omega), looks.schema] at zero
      cases zero
    -- Its length ends with the first byte of the length.
    · have length := looks.length
      rw [unsigned_split (show start ≤ start + 1 by omega) (show start + 1 ≤ start + 2 by omega)
        (by omega), ← first, show start + 2 = junk.length + 1 by omega, zero,
        Nat.add_sub_cancel_left, statusResponseSize] at length
      omega

omit named in
/-- Noise may be dropped. -/
theorem Arriving.drop {count : ℕ} (noise : count ≤ junk.length) (there : count ≤ buffered.length) :
    Arriving commandId body (junk.drop count) (buffered.drop count ++ rest) more where
  answers := arriving.answers
  begins := by
    rw [← List.drop_append_of_le_length there, arriving.begins,
      List.drop_append_of_le_length noise]
  quiet := by
    intro place early here
    rw [List.length_drop] at early
    apply arriving.quiet (count + place) (by omega)
    rw [IdAt, ← List.drop_append_of_le_length there, field, List.drop_drop] at here
    rw [IdAt, field, ← here]
    congr 1
    omega

/-- The reader has the response, or keeps it and waits for more. -/
theorem Arriving.scan_cases :
    scan buffered frame = .response body ∨
      ∃ candidate noise, scan buffered frame = .candidate candidate ∧ rest ≠ [] ∧
        (trimmed buffered candidate).length ≤ statusResponseSize + 2 ∧
        Arriving commandId body noise (trimmed buffered candidate ++ rest) more := by
  classical
  have size := arriving.size
  have answer := arriving.answers.length
  rw [List.length_append] at size
  have unfinished : buffered.length < junk.length + (body.length + 2) → rest ≠ [] := by
    rintro short rfl
    rw [List.length_nil] at size
    omega
  by_cases some : ∃ start, LooksLikeResponse buffered frame start
  · have looks := Nat.find_spec some
    have first : ∀ other < Nat.find some, ¬ LooksLikeResponse buffered frame other :=
      fun other => Nat.find_min some
    generalize Nat.find some = start at looks first
    have there := looks.there
    have scanned := scan_first looks first
    have upTo : start ≤ junk.length := by
      by_contra behind
      exact first junk.length (by omega) (arriving.looks named (by omega))
    rcases Nat.lt_or_eq_of_le upTo with early | rfl
    · have short := arriving.short_of_looks named early looks
      have length := looks.length.1
      rw [if_pos (by omega)] at scanned
      refine Or.inr ⟨_, _, scanned, unfinished (by omega), ?_, arriving.drop upTo (by omega)⟩
      rw [trimmed, List.length_drop, statusResponseSize]
      omega
    · have length := arriving.unsigned_length
      rw [unsigned, field_append_left rest (by omega), ← unsigned] at length
      rw [length] at scanned
      by_cases short : buffered.length < junk.length + body.length + 2
      · rw [if_pos short] at scanned
        refine Or.inr ⟨_, _, scanned, unfinished (by omega), ?_,
          arriving.drop (Nat.le_refl _) (by omega)⟩
        rw [trimmed, List.length_drop]
        omega
      · have whole : field (buffered ++ rest) (junk.length + 2 + 0)
            (junk.length + 2 + body.length) = field body 0 body.length :=
          arriving.field_body (Nat.le_refl _)
        have all : field body 0 body.length = body := List.take_length
        rw [field_append_left rest (by omega), all, Nat.add_zero, Nat.add_right_comm] at whole
        rw [if_neg short, whole] at scanned
        exact Or.inl scanned
  · have none : ∀ start, ¬ LooksLikeResponse buffered frame start := not_exists.mp some
    have short : buffered.length < junk.length + 3 := by
      by_contra long
      exact none _ (arriving.looks named (by omega))
    refine Or.inr ⟨_, junk.drop (buffered.length - 19), scan_none none, unfinished (by omega), ?_⟩
    rw [trimmed]
    split
    · refine ⟨?_, arriving.drop (by omega) (by omega)⟩
      rw [List.length_drop, statusResponseSize]
      omega
    · rename_i few
      have nothing : buffered.length - 19 = 0 := by omega
      refine ⟨by rw [statusResponseSize]; omega, ?_⟩
      rw [nothing]
      exact arriving

end Buffer

/-! ## The reader -/

section Reader

variable {commandId : Vector UInt8 16} {body frame : List UInt8}

/-- The reader finds the response with one read for each byte at the most. -/
theorem readControlResponse_arriving {ready : ℕ → ℕ} (named : field frame 4 20 = commandId.toList)
    {rounds : ℕ} {junk more buffered : List UInt8} {line : Line UInt8}
    (arriving : Arriving commandId body junk (buffered ++ line.rest) more)
    (enough : line.rest.length < rounds) (small : buffered.length ≤ 4096) :
    ∃ next, readControlResponse ready frame rounds buffered line = some (body, next) := by
  induction rounds generalizing junk buffered line with
  | zero => exact absurd enough (Nat.not_lt_zero _)
  | succ rounds ih =>
      rw [readControlResponse, if_neg (Nat.not_lt.mpr small)]
      rcases arriving.scan_cases named with found | ⟨candidate, noise, scanned, some, kept, again⟩
      · rw [found]
        exact ⟨line, rfl⟩
      · rw [scanned]
        dsimp only
        rw [statusResponseSize] at kept
        have room : 512 ≤ 4097 - (trimmed buffered candidate).length := by omega
        have positive := amount_pos ready line.reads
        have nonempty : line.rest.isEmpty = false := List.isEmpty_eq_false_iff.mpr some
        have bytes := List.length_pos_iff.mpr some
        generalize chosen : min 512 (amount ready line.reads) = count
        have taken : (line.rest.take count).length = min count line.rest.length := List.length_take
        obtain ⟨next, found⟩ := @ih noise (trimmed buffered candidate ++ line.rest.take count)
          ⟨line.rest.drop count, line.reads + 1⟩
          (by rwa [List.append_assoc, List.take_append_drop])
          (by rw [List.length_drop]; omega) (by rw [List.length_append, taken]; omega)
        refine ⟨next, ?_⟩
        rw [ChunkedReads.read, nonempty, if_neg Bool.false_ne_true, Nat.min_eq_left room, chosen]
        exact found

end Reader

/-- **The reader finds its response in noise.** For every command, every response that
answers it and all noise in which, together with the response, the id does not come before
the body of the response, it returns this body, however the bytes arrive and whatever
follows. -/
theorem readControlResponse_resynchronises (ready : ℕ → ℕ) (command : ScriptCommand)
    (commandId : Vector UInt8 16) (ownerGeneration : ℕ) (payload frame body junk more : List UInt8)
    (framed : controlFrame command commandId ownerGeneration payload = .ok frame)
    (answers : Answers commandId body)
    (quiet : ∀ place < junk.length + 2, ¬ IdAt commandId (junk ++ uartWriteCompletion body) place) :
    ∃ next, readControlResponse ready frame
        ((junk ++ (uartWriteCompletion body ++ more)).length + 1) []
        ⟨junk ++ (uartWriteCompletion body ++ more), 0⟩ = some (body, next) := by
  apply readControlResponse_arriving (field_controlFrame framed) _ (Nat.lt_succ_self _)
    (Nat.zero_le _)
  · exact junk
  · exact more
  · refine ⟨answers, rfl, fun place early here => ?_⟩
    rw [List.nil_append] at here
    have length := answers.length.1
    have inside : place + 16 ≤ (junk ++ uartWriteCompletion body).length := by
      rw [List.length_append, length_framed]
      omega
    rw [IdAt, ← List.append_assoc, field_append_left more inside] at here
    exact quiet place early here

/-- Noise that reads like the start of the response. -/
theorem readControlResponse_resynchronises_header : ∃ frame next,
    controlFrame .status (Vector.replicate 16 7) 0 [] = .ok frame ∧
      readControlResponse (fun reads => reads) frame 27 []
        ⟨[0, 18, 1, 0, 7] ++
          (uartWriteCompletion ([1, 0] ++ List.replicate 16 7 ++ [5]) ++ []), 0⟩ =
          some ([1, 0] ++ List.replicate 16 7 ++ [5], next) := by
  obtain ⟨next, found⟩ := readControlResponse_resynchronises (fun reads => reads) .status
    (Vector.replicate 16 7) 0 [] _ ([1, 0] ++ List.replicate 16 7 ++ [5]) [0, 18, 1, 0, 7] []
    (controlFrame_eq (by decide) (by decide)) ⟨by decide, by decide, by decide⟩ (by decide)
  exact ⟨_, next, controlFrame_eq (by decide) (by decide), found⟩

/-- An id that goes on where its response begins. -/
def periodicId : Vector UInt8 16 := #v[32, 1, 0, 32, 1, 0, 32, 1, 0, 32, 1, 0, 32, 1, 0, 32]

/-- A response of 32 bytes with this id. -/
def periodicBody : List UInt8 := [1, 0] ++ periodicId.toList ++ List.replicate 14 0

/-- Behind noise that reads like a header the id comes with the length of its own response,
and the reader takes it for another response. -/
theorem id_across_length_misread :
    ∃ frame, controlFrame .status periodicId 0 [] = .ok frame ∧ Answers periodicId periodicBody ∧
      (∀ place < [0, 18, 1].length,
        ¬ IdAt periodicId ([0, 18, 1] ++ uartWriteCompletion periodicBody) place) ∧
      ∃ other next, readControlResponse (fun _ => 64) frame 64 []
        ⟨[0, 18, 1] ++ uartWriteCompletion periodicBody, 0⟩ = some (other, next) ∧
          other ≠ periodicBody := by
  refine ⟨_, controlFrame_eq (by decide) (by decide), ⟨by decide, by decide, by decide⟩,
    by decide, [1, 0] ++ periodicId.toList, ⟨[], 1⟩, by decide, by decide⟩

end Deskkin.Device
