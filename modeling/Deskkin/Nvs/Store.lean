/-
# Publication in flash

A namespace of the device's flash has two record slots and an intent. A record
is published in three steps: its sequence is written as the intent, the record
is written over the older of the two slots, and the intent is deleted. A reader
refuses a namespace that holds an intent.

Over the namespace stands the history of its publications, newest first. Each
slot holds the newest record of one parity, so the namespace shows the two newest
publications of the history; publishing prepends one.
-/

import Deskkin.Device.Control
import Deskkin.Lib.Durable
import Deskkin.Nvs.Record

namespace Deskkin.Device

open BigEndian

structure Namespace where
  first : Option (List UInt8)
  second : Option (List UInt8)
  intent : Option (List UInt8)
  deriving DecidableEq

inductive NvsStep
  | intentWrite
  | recordWrite
  | intentDelete
  deriving DecidableEq

/-- A computation on one namespace. Flash writes and deletions succeed; power
may be lost after each of them. -/
abbrev Flash : Type → Type := Durable NvsStep Namespace ServiceStatus

def nvsRecordMax : ℕ := nvsHeaderLen + nvsPayloadMax

def readSlot (stored : Option (List UInt8)) (capacity : ℕ) :
    Except ServiceStatus (Option (List UInt8)) :=
  match stored with
  | none => .ok none
  | some bytes => if bytes.length ≤ capacity then .ok (some bytes) else .error .storeFailed

def readIntent (ns : Namespace) : Except ServiceStatus (Option (List UInt8)) :=
  readSlot ns.intent 8

def canonicalRecord (ns : Namespace) : Except ServiceStatus (Option RecordRef) :=
  match readIntent ns with
  | .error error => .error error
  | .ok (some _) => .error .storeFailed
  | .ok none =>
      match readSlot ns.first nvsRecordMax, readSlot ns.second nvsRecordMax with
      | .error error, _ => .error error
      | .ok _, .error error => .error error
      | .ok first, .ok second => (selectSlot first second).mapError fun _ => .storeFailed

def writeIntent (sequence : ℕ) : Flash Unit :=
  Durable.update .intentWrite fun ns => { ns with intent := some (toBytes 8 sequence) }

def writeRecord (sequence : ℕ) (encoded : List UInt8) : Flash Unit :=
  Durable.update .recordWrite fun ns =>
    if sequence % 2 = 1 then { ns with first := some encoded }
    else { ns with second := some encoded }

def deleteIntent : Flash Unit :=
  Durable.update .intentDelete fun ns => { ns with intent := none }

def publishRecord (currentSequence generation : ℕ) (state : RecordState) (payload : List UInt8) :
    Flash Unit :=
  match Checked.add Checked.u64Max currentSequence 1 with
  | none => Durable.fail .storeFailed
  | some sequence =>
      match encodeRecord ⟨sequence, generation, state, payload⟩ with
      | .error _ => Durable.fail .invalid
      | .ok encoded => do
          writeIntent sequence
          writeRecord sequence encoded
          deleteIntent

/-! ## The history of a namespace -/

/-- A history is numbered from one and its records fit. -/
def Published : List RecordRef → Prop
  | [] => True
  | record :: older =>
      record.Fits ∧ record.publicationSequence = older.length + 1 ∧ Published older

/-- The newest record of a history that has the parity of a sequence. -/
def newest (sequence : ℕ) (history : List RecordRef) : Option RecordRef :=
  history.find? fun record => record.publicationSequence % 2 = sequence % 2

/-- The namespace after a history, with the intent of an unfinished publication. -/
def Namespace.holding (history : List RecordRef) (intent : Option ℕ) : Namespace where
  first := (newest 1 history).map RecordRef.bytes
  second := (newest 0 history).map RecordRef.bytes
  intent := intent.map (toBytes 8)

/-- A namespace that shows a history. -/
def Namespace.Legible (ns : Namespace) : Prop :=
  ∃ history intent, Published history ∧ ns = .holding history intent

variable {record : RecordRef} {sequence : ℕ} {older : List RecordRef} {history : List RecordRef}

theorem newest_same (older : List RecordRef)
    (parity : record.publicationSequence % 2 = sequence % 2) :
    newest sequence (record :: older) = some record :=
  List.find?_cons_of_pos (by simpa using parity)

theorem newest_other (older : List RecordRef)
    (parity : record.publicationSequence % 2 ≠ sequence % 2) :
    newest sequence (record :: older) = newest sequence older :=
  List.find?_cons_of_neg (by simpa using parity)

/-- Before the newest record stands the newest of the other parity. -/
theorem newest_older (published : Published (record :: older))
    (parity : record.publicationSequence % 2 ≠ sequence % 2) :
    newest sequence (record :: older) = older.head? := by
  rw [newest_other older parity]
  cases older with
  | nil => rfl
  | cons before rest =>
      obtain ⟨-, number, -, below, -⟩ := published
      rw [List.length_cons] at number
      exact newest_same rest (by omega)

theorem fits_of_newest (published : Published history)
    (found : newest sequence history = some record) : record.Fits := by
  induction history with
  | nil => cases found
  | cons latest older ih =>
      obtain ⟨fits, -, rest⟩ := published
      by_cases parity : latest.publicationSequence % 2 = sequence % 2
      · rw [newest_same older parity] at found
        cases found
        exact fits
      · rw [newest_other older parity] at found
        exact ih rest found

/-! ## Reading a history back -/

@[simp]
theorem readIntent_holding (history : List RecordRef) (intent : Option ℕ) :
    readIntent (.holding history intent) = .ok (intent.map (toBytes 8)) := by
  cases intent with
  | none => rfl
  | some sequence => simp [readIntent, Namespace.holding, readSlot]

theorem readSlot_record (fits : record.Fits) :
    readSlot (some record.bytes) nvsRecordMax = .ok (some record.bytes) := by
  have payload := fits.payload
  rw [readSlot, length_bytes, if_pos (by simp only [nvsRecordMax]; omega)]

theorem readSlot_newest (published : Published history) (sequence : ℕ) :
    readSlot ((newest sequence history).map RecordRef.bytes) nvsRecordMax =
      .ok ((newest sequence history).map RecordRef.bytes) := by
  cases found : newest sequence history with
  | none => rfl
  | some record => exact readSlot_record (fits_of_newest published found)

/-- A namespace with an intent is refused. -/
theorem canonicalRecord_intent (history : List RecordRef) (sequence : ℕ) :
    canonicalRecord (.holding history (some sequence)) = .error .storeFailed := by
  rw [canonicalRecord, readIntent_holding]
  rfl

/-- Of the two slots the one with the newest publication counts. -/
theorem selectSlot_holding (published : Published history) (intent : Option ℕ) :
    selectSlot (Namespace.holding history intent).first (Namespace.holding history intent).second =
      .ok history.head? := by
  simp only [Namespace.holding]
  cases history with
  | nil => rfl
  | cons record older =>
      have fits := published.1
      by_cases odd : record.publicationSequence % 2 = 1 % 2
      · rw [newest_same older odd, newest_older published (by omega)]
        cases older with
        | nil => exact selectSlot_only_left fits
        | cons before rest =>
            obtain ⟨-, number, below, sequence, -⟩ := published
            rw [List.length_cons] at number
            exact selectSlot_left fits below (by omega)
      · rw [newest_older published odd, newest_same older (by omega)]
        cases older with
        | nil => exact selectSlot_only_right fits
        | cons before rest =>
            obtain ⟨-, number, below, sequence, -⟩ := published
            rw [List.length_cons] at number
            exact selectSlot_right below fits (by omega)

/-- **The newest publication counts.** -/
theorem canonicalRecord_holding (published : Published history) :
    canonicalRecord (.holding history none) = .ok history.head? := by
  have chosen := selectSlot_holding published none
  simp only [Namespace.holding] at chosen
  rw [canonicalRecord, readIntent_holding]
  simp only [Option.map_none, Namespace.holding, readSlot_newest published, chosen]
  rfl

/-- What is readable without an intent is the newest publication. -/
theorem Namespace.Legible.of_canonicalRecord {ns : Namespace} (legible : ns.Legible)
    {found : Option RecordRef} (readable : canonicalRecord ns = .ok found) :
    ∃ history, Published history ∧ ns = .holding history none ∧ history.head? = found := by
  obtain ⟨history, intent, published, rfl⟩ := legible
  cases intent with
  | some sequence =>
      rw [canonicalRecord_intent] at readable
      cases readable
  | none =>
      rw [canonicalRecord_holding published, Except.ok.injEq] at readable
      exact ⟨history, published, rfl, readable⟩

/-! ## Publishing prepends to the history -/

/-- The record is written over the slot of its parity. -/
def Namespace.overwrite (ns : Namespace) (record : RecordRef) : Namespace :=
  if record.publicationSequence % 2 = 1 then { ns with first := some record.bytes }
  else { ns with second := some record.bytes }

theorem publishRecord_of_fits {record : RecordRef} (fits : record.Fits) {current : ℕ}
    (number : record.publicationSequence = current + 1) (ns : Namespace) :
    (publishRecord current record.generation record.state record.payload).run ns =
      ⟨.ok (), { ns.overwrite record with intent := none },
        [(.intentWrite, { ns with intent := some (BigEndian.toBytes 8 (current + 1)) }),
          (.recordWrite,
            { ns.overwrite record with intent := some (BigEndian.toBytes 8 (current + 1)) }),
          (.intentDelete, { ns.overwrite record with intent := none })]⟩ := by
  have room := fits.sequence
  rw [publishRecord, Checked.add_of_le (by omega), ← number]
  simp only [encodeRecord_of_fits fits]
  rw [writeIntent, Durable.run_update_bind, writeRecord, Durable.run_update_bind, deleteIntent,
    Durable.run_update]
  by_cases odd : record.publicationSequence % 2 = 1
  · simp [Namespace.overwrite, odd]
  · simp [Namespace.overwrite, odd]

/-- The updates of a publication. -/
def publication (record : RecordRef) (older : List RecordRef) : List (NvsStep × Namespace) :=
  [(.intentWrite, .holding older (some record.publicationSequence)),
    (.recordWrite, .holding (record :: older) (some record.publicationSequence)),
    (.intentDelete, .holding (record :: older) none)]

theorem holding_cons (record : RecordRef) (older : List RecordRef) (intent : Option ℕ) :
    Namespace.holding (record :: older) intent =
      (if record.publicationSequence % 2 = 1 then
        { Namespace.holding older intent with first := some record.bytes }
      else { Namespace.holding older intent with second := some record.bytes }) := by
  by_cases odd : record.publicationSequence % 2 = 1
  · rw [if_pos odd, Namespace.holding, newest_same older odd, newest_other older (by omega)]
    rfl
  · have even : newest 0 (record :: older) = some record := newest_same older (by omega)
    rw [if_neg odd, Namespace.holding, even, newest_other older (by omega)]
    rfl

theorem publishRecord_holding (published : Published (record :: older)) :
    (publishRecord older.length record.generation record.state record.payload).run
        (.holding older none) =
      ⟨.ok (), .holding (record :: older) none, publication record older⟩ := by
  obtain ⟨fits, number, -⟩ := published
  rw [publishRecord_of_fits fits number, publication, number]
  simp only [Namespace.overwrite, holding_cons]
  split <;> rfl

/-- There is no room for another sequence. -/
theorem publishRecord_exhausted {currentSequence generation : ℕ} {state : RecordState}
    {payload : List UInt8} {ns : Namespace} (full : Checked.u64Max ≤ currentSequence) :
    (publishRecord currentSequence generation state payload).run ns =
      ⟨.error .storeFailed, ns, []⟩ := by
  rw [publishRecord, Checked.add_eq_none_iff.mpr (by omega)]
  rfl

end Deskkin.Device
