/-
# Publication never yields a third value

A namespace starts empty. Its record is read, and new records are published with
the sequence of the record that was last read; power may be lost after any of the
three updates of a publication, and the next publication may follow without a
reading in between. Whatever is reached, the two slots show the record of the last
publication that got as far as its record write, and nothing else.

The namespace always shows a history whose length is the sequence last read, or
one more: a publication that was not read back is written over its own slot by
the next one, so it is replaced in the history and does not follow in it.
-/

import Deskkin.Lib.Runs
import Deskkin.Nvs.Store

namespace Deskkin.Device

/-- The namespace, the sequence of the record that `canonicalRecord` last
returned, zero without one, and the record of the last publication that reached
its record write. -/
structure PublicationState where
  ns : Namespace
  current : ℕ
  written : Option RecordRef

/-- What is done with the namespace. `lost` is the index of the update after
which power was lost, if it was. -/
inductive PublicationLabel
  | read
  | publish (generation : UInt64) (state : RecordState) (payload : List UInt8) (lost : Option ℕ)

def PublicationState.step (s : PublicationState) : PublicationLabel → Option PublicationState
  | .read =>
      match canonicalRecord s.ns with
      | .ok found => some { s with current := found.elim 0 RecordRef.publicationSequence }
      | .error _ => some s
  | .publish generation state payload lost =>
      let publication := publishRecord s.current generation.toNat state payload
      (publication.upTo s.ns lost).map fun ns =>
        { s with
          ns := ns
          written :=
            if publication.reaches .recordWrite s.ns lost then
              some ⟨s.current + 1, generation.toNat, state, payload⟩
            else s.written }

def publicationSystem : StepSystem PublicationState PublicationLabel where
  Initial s := s = ⟨⟨none, none, none⟩, 0, none⟩
  step := PublicationState.step

/-! ## A publication over any history -/

/-- The history after a record of this sequence: it follows the newest one, or
takes the place of the newest one that was not read back. -/
def supersede (record : RecordRef) (history : List RecordRef) : List RecordRef :=
  if record.publicationSequence = history.length then record :: history.tail
  else record :: history

/-- A publication that fails has written nothing. -/
theorem publishRecord_of_unfit {current generation : ℕ} {state : RecordState}
    {payload : List UInt8} (bounded : generation ≤ Checked.u64Max)
    (unfit : ¬(RecordRef.mk (current + 1) generation state payload).Fits) (ns : Namespace) :
    ∃ status, (publishRecord current generation state payload).run ns =
      ⟨.error status, ns, []⟩ := by
  by_cases room : current + 1 ≤ Checked.u64Max
  · have large : nvsPayloadMax < payload.length := by
      by_contra small
      exact unfit ⟨room, bounded, by simpa using small⟩
    apply Exists.intro ServiceStatus.invalid
    rw [publishRecord, Checked.add_of_le room]
    simp [encodeRecord, large]
  · exact ⟨_, publishRecord_exhausted (by omega)⟩

variable {record : RecordRef} {history : List RecordRef} {s t : PublicationState}

theorem overwrite_holding (intent : Option ℕ) (published : Published history)
    (positive : 0 < record.publicationSequence)
    (next : record.publicationSequence = history.length ∨
      record.publicationSequence = history.length + 1) :
    (Namespace.holding history intent).overwrite record =
      .holding (supersede record history) intent := by
  cases next with
  | inr following =>
      rw [supersede, if_neg (by omega), holding_cons, Namespace.overwrite]
  | inl replacing =>
      cases history with
      | nil =>
          rw [List.length_nil] at replacing
          omega
      | cons latest older =>
          -- Both records have the sequence of the newest and so share its slot.
          have same : latest.publicationSequence = record.publicationSequence := by
            rw [published.2.1, replacing, List.length_cons]
          rw [supersede, if_pos replacing, List.tail_cons, holding_cons, holding_cons,
            Namespace.overwrite, same]
          by_cases odd : record.publicationSequence % 2 = 1
          · simp [odd]
          · simp [odd]

theorem published_supersede (fits : record.Fits) (published : Published history)
    (positive : 0 < record.publicationSequence)
    (next : record.publicationSequence = history.length ∨
      record.publicationSequence = history.length + 1) :
    Published (supersede record history) ∧
      (supersede record history).length = record.publicationSequence := by
  cases next with
  | inr following =>
      rw [supersede, if_neg (by omega)]
      exact ⟨⟨fits, following, published⟩, by rw [List.length_cons, following]⟩
  | inl replacing =>
      cases history with
      | nil =>
          rw [List.length_nil] at replacing
          omega
      | cons latest older =>
          rw [supersede, if_pos replacing, List.tail_cons]
          rw [List.length_cons] at replacing
          exact ⟨⟨fits, replacing, published.2.2⟩, by rw [List.length_cons, replacing]⟩

theorem head_supersede (record : RecordRef) (history : List RecordRef) :
    (supersede record history).head? = some record := by
  unfold supersede
  split <;> rfl

/-! ## The history behind every state -/

/-- The namespace shows a history whose newest record is the last one written,
and at most that one has not been read back. -/
def PublicationState.Follows (s : PublicationState) : Prop :=
  ∃ history intent, Published history ∧ s.ns = .holding history intent ∧
    s.written = history.head? ∧ (history.length = s.current ∨ history.length = s.current + 1)

/-- Power is lost before the record write or after it. -/
theorem publication_outcome (fits : record.Fits) {current : ℕ}
    (number : record.publicationSequence = current + 1) {ns left : Namespace} {lost : Option ℕ}
    (ended : (publishRecord current record.generation record.state record.payload).upTo ns lost =
      some left) :
    let reached := (publishRecord current record.generation record.state record.payload).reaches
      .recordWrite ns lost
    ∃ intent : Option ℕ,
      reached = false ∧ left = { ns with intent := intent.map (BigEndian.toBytes 8) } ∨
      reached = true ∧
        left = { ns.overwrite record with intent := intent.map (BigEndian.toBytes 8) } := by
  have ran := publishRecord_of_fits fits number ns
  simp only [Durable.upTo, Durable.reaches, ran] at ended ⊢
  rcases lost with - | - | - | - | further
  · exact ⟨none, Or.inr ⟨rfl, (Option.some.inj ended).symm⟩⟩
  · exact ⟨some (current + 1), Or.inl ⟨rfl, (Option.some.inj ended).symm⟩⟩
  · exact ⟨some (current + 1), Or.inr ⟨rfl, (Option.some.inj ended).symm⟩⟩
  · exact ⟨none, Or.inr ⟨rfl, (Option.some.inj ended).symm⟩⟩
  · cases ended

theorem holding_intent (history : List RecordRef) (before after : Option ℕ) :
    { Namespace.holding history before with intent := after.map (BigEndian.toBytes 8) } =
      Namespace.holding history after :=
  rfl

/-- One publication, up to any loss of power, keeps the history. -/
theorem PublicationState.Follows.publish (follows : s.Follows) {generation : UInt64}
    {state : RecordState} {payload : List UInt8} {lost : Option ℕ}
    (moved : s.step (.publish generation state payload lost) = some t) : t.Follows := by
  obtain ⟨history, intent, published, here, newest, length⟩ := follows
  simp only [PublicationState.step, Option.map_eq_some_iff] at moved
  obtain ⟨left, ended, rfl⟩ := moved
  have bounded : generation.toNat ≤ Checked.u64Max := by
    have small := generation.toNat_lt
    simp only [Checked.u64Max]
    omega
  by_cases fits : (RecordRef.mk (s.current + 1) generation.toNat state payload).Fits
  · have next : s.current + 1 = history.length ∨ s.current + 1 = history.length + 1 := by omega
    have overwritten : (Namespace.holding history intent).overwrite
        ⟨s.current + 1, generation.toNat, state, payload⟩ = _ :=
      overwrite_holding intent published (Nat.succ_pos _) next
    obtain ⟨grown, longer⟩ := published_supersede fits published (Nat.succ_pos _) next
    obtain ⟨after, ⟨early, rfl⟩ | ⟨late, rfl⟩⟩ := publication_outcome fits rfl ended
    · rw [here] at early ⊢
      rw [holding_intent]
      exact ⟨history, after, published, rfl, by simp [early, newest], length⟩
    · rw [here] at late ⊢
      rw [overwritten, holding_intent]
      exact ⟨_, after, grown, rfl, by simp [late, head_supersede], Or.inr longer⟩
  · obtain ⟨status, ran⟩ := publishRecord_of_unfit bounded fits s.ns
    have nothing : (publishRecord s.current generation.toNat state payload).reaches .recordWrite
        s.ns lost = false := by
      cases lost with
      | none => simp [Durable.reaches, ran]
      | some index => simp [Durable.reaches, ran]
    cases lost with
    | none =>
        simp only [Durable.upTo, ran, Option.some.injEq] at ended
        subst ended
        exact ⟨history, intent, published, here, by simpa [nothing] using newest, length⟩
    | some index => simp [Durable.upTo, ran] at ended

theorem PublicationState.Follows.read (follows : s.Follows) (moved : s.step .read = some t) :
    t.Follows := by
  obtain ⟨history, intent, published, here, newest, length⟩ := follows
  simp only [PublicationState.step, here] at moved
  cases intent with
  | some sequence =>
      rw [canonicalRecord_intent] at moved
      cases moved
      exact ⟨history, some sequence, published, here, newest, length⟩
  | none =>
      rw [canonicalRecord_holding published] at moved
      cases moved
      have numbered : history.length = history.head?.elim 0 RecordRef.publicationSequence := by
        cases history with
        | nil => rfl
        | cons latest older => exact published.2.1.symm
      exact ⟨history, none, published, rfl, newest, Or.inl numbered⟩

theorem follows_of_reachable {s : PublicationState} (reachable : publicationSystem.Reachable s) :
    s.Follows := by
  apply reachable.invariant
  · rintro _ rfl
    exact ⟨[], none, trivial, rfl, rfl, Or.inl rfl⟩
  · intro s label t follows moved
    cases label with
    | read => exact follows.read moved
    | publish generation state payload lost => exact follows.publish moved

/-! ## What is read back -/

/-- **No third value.** Whatever publications and losses of power a namespace has
been through since it was empty, its slots select the record of the last
publication that reached its record write. That record is read back without an
intent and nothing is with one, and a publication that succeeds is read back. -/
theorem publication_selects_written {s : PublicationState}
    (reachable : publicationSystem.Reachable s) :
    selectSlot s.ns.first s.ns.second = .ok s.written ∧
      (s.ns.intent = none → canonicalRecord s.ns = .ok s.written) ∧
      (s.ns.intent ≠ none → canonicalRecord s.ns = .error .storeFailed) ∧
      ∀ (generation : UInt64) (state : RecordState) (payload : List UInt8),
        ((publishRecord s.current generation.toNat state payload).run s.ns).result = .ok () →
          canonicalRecord
            ((publishRecord s.current generation.toNat state payload).run s.ns).final =
            .ok (some ⟨s.current + 1, generation.toNat, state, payload⟩) := by
  obtain ⟨history, intent, published, here, newest, length⟩ := follows_of_reachable reachable
  have present : s.ns.intent = intent.map (BigEndian.toBytes 8) := by rw [here, Namespace.holding]
  have selected : selectSlot s.ns.first s.ns.second = .ok s.written := by
    rw [here, newest]
    exact selectSlot_holding published intent
  refine ⟨selected, fun absent => ?_, fun pending => ?_, fun generation state payload ended => ?_⟩
  · rw [present, Option.map_eq_none_iff] at absent
    rw [here, newest, absent]
    exact canonicalRecord_holding published
  · cases intent with
    | none => exact absurd present pending
    | some sequence =>
        rw [here]
        exact canonicalRecord_intent history sequence
  · have bounded : generation.toNat ≤ Checked.u64Max := by
      have small := generation.toNat_lt
      simp only [Checked.u64Max]
      omega
    by_cases fits : (RecordRef.mk (s.current + 1) generation.toNat state payload).Fits
    · have next : s.current + 1 = history.length ∨ s.current + 1 = history.length + 1 := by omega
      have final : ((publishRecord s.current generation.toNat state payload).run s.ns).final =
          .holding (supersede ⟨s.current + 1, generation.toNat, state, payload⟩ history) none := by
        have overwritten : (Namespace.holding history intent).overwrite
            ⟨s.current + 1, generation.toNat, state, payload⟩ = _ :=
          overwrite_holding intent published (Nat.succ_pos _) next
        rw [publishRecord_of_fits fits rfl, here, overwritten]
        rfl
      rw [final,
        canonicalRecord_holding (published_supersede fits published (Nat.succ_pos _) next).1,
        head_supersede]
    · obtain ⟨status, ran⟩ := publishRecord_of_unfit bounded fits s.ns
      rw [ran] at ended
      cases ended

/-- A record is published and read back, and the next one is cut off after its record write. -/
def interruptedLabels : List PublicationLabel :=
  [.publish 1 (.identity .unpaired) [] none, .read, .publish 2 (.identity .paired) [7] (some 1)]

theorem publication_selects_written_interrupted :
    ∃ s, publicationSystem.Reachable s ∧ s.current = 1 ∧
      selectSlot s.ns.first s.ns.second = .ok (some ⟨2, 2, .identity .paired, [7]⟩) ∧
      canonicalRecord s.ns = .error .storeFailed := by
  have ran : (publicationSystem.execute ⟨⟨none, none, none⟩, 0, none⟩ interruptedLabels).map
      (fun s => (s.current, s.written, s.ns.intent)) =
      some (1, some ⟨2, 2, .identity .paired, [7]⟩, some [0, 0, 0, 0, 0, 0, 0, 2]) := by
    decide +kernel
  obtain ⟨s, reachable, found⟩ := StepSystem.exists_reachable_of_map ran rfl
  simp only [Prod.mk.injEq] at found
  obtain ⟨current, written, pending⟩ := found
  obtain ⟨selected, -, refused, -⟩ := publication_selects_written reachable
  rw [written] at selected
  exact ⟨s, reachable, current, selected, refused (by rw [pending]; exact Option.some_ne_none _)⟩

end Deskkin.Device
