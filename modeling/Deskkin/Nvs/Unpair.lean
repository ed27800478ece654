/-
# Exact unpair on a history

What a request to unpair does to the history of the identity namespace. From a
paired identity it publishes the revocation and then the identity without its
peer; from a revocation it publishes the second only. An intent is accepted when
its record is the newest of the history, and then deleted; an intent whose record
was not written is refused and stays.
-/

import Deskkin.Nvs.History

namespace Deskkin.Device

open BigEndian

/-! ## The intent in a history -/

theorem newest_congr {one other : ℕ} (parity : one % 2 = other % 2) (history : List RecordRef) :
    newest one history = newest other history := by
  rw [newest, newest, parity]

variable {history : List RecordRef}

theorem decodeRecord_newest (published : Published history) (sequence : ℕ) :
    ((newest sequence history).map RecordRef.bytes).map decodeRecord =
      (newest sequence history).map .ok := by
  cases found : newest sequence history with
  | none => rfl
  | some record =>
      simp only [Option.map_some, decodeRecord_bytes (fits_of_newest published found)]

/-- What the records of a history say about an intent. -/
theorem inspectIntent_holding (published : Published history) {sequence : ℕ}
    (bounded : sequence ≤ Checked.u64Max) (peerId : List UInt8) (intent : Option ℕ) :
    inspectIntent peerId (toBytes 8 sequence) (.holding history intent) =
      match newest sequence history with
      | none => .error .storeFailed
      | some target =>
          let previous := (newest (sequence + 1) history).map RecordRef.bytes
          if target.publicationSequence ≠ sequence then .error .storeFailed
          else if completes peerId target previous = false ∧ exactPeer peerId target = false then
            .error .peerMismatch
          else .ok (completes peerId target previous) := by
  have number : ofBytes (toBytes 8 sequence) = sequence :=
    ofBytes_toBytes (by simp only [Checked.u64Max] at bounded; omega)
  rw [inspectIntent, if_neg (by simp)]
  simp only [Namespace.holding, readSlot_newest published, number]
  by_cases odd : sequence % 2 = 1
  · have one : newest 1 history = newest sequence history := newest_congr (by omega) history
    have zero : newest 0 history = newest (sequence + 1) history := newest_congr (by omega) history
    simp only [if_pos odd, one, zero, decodeRecord_newest published]
    cases newest sequence history <;> rfl
  · have zero : newest 0 history = newest sequence history := newest_congr (by omega) history
    have one : newest 1 history = newest (sequence + 1) history := newest_congr (by omega) history
    simp only [if_neg odd, one, zero, decodeRecord_newest published]
    cases newest sequence history <;> rfl

theorem newest_le (published : Published history) {sequence : ℕ} {record : RecordRef}
    (found : newest sequence history = some record) :
    record.publicationSequence ≤ history.length := by
  induction history with
  | nil => cases found
  | cons latest older ih =>
      obtain ⟨-, number, rest⟩ := published
      rw [List.length_cons]
      by_cases parity : latest.publicationSequence % 2 = sequence % 2
      · rw [newest_same older parity] at found
        cases found
        omega
      · rw [newest_other older parity] at found
        have := ih rest found
        omega

/-! ## Recovering from an intent -/

section Recovery

variable {peerId : List UInt8}

theorem recoverIdentityIntent_none (history : List RecordRef) :
    (recoverIdentityIntent peerId).run (.holding history none) =
      ⟨.ok none, .holding history none, []⟩ := by
  rw [recoverIdentityIntent, Durable.run_read_bind_of_ok _ (readIntent_holding history none)]
  rfl

variable {history : List RecordRef}

/-- A refused intent stays. -/
theorem recoverIdentityIntent_refused {sequence : ℕ} {status : ServiceStatus}
    (refused : inspectIntent peerId (toBytes 8 sequence) (.holding history (some sequence)) =
      .error status) :
    (recoverIdentityIntent peerId).run (.holding history (some sequence)) =
      ⟨.error status, .holding history (some sequence), []⟩ := by
  rw [recoverIdentityIntent,
    Durable.run_read_bind_of_ok _ (readIntent_holding history (some sequence))]
  simp only [Option.map_some]
  rw [Durable.run_read_bind_of_error _ refused]

/-- An accepted intent is deleted. -/
theorem recoverIdentityIntent_accepted {sequence : ℕ} {completed : Bool}
    (accepted : inspectIntent peerId (toBytes 8 sequence) (.holding history (some sequence)) =
      .ok completed) :
    (recoverIdentityIntent peerId).run (.holding history (some sequence)) =
      ⟨.ok (if completed then some .success else none), .holding history none,
        [(.intentDelete, .holding history none)]⟩ := by
  rw [recoverIdentityIntent,
    Durable.run_read_bind_of_ok _ (readIntent_holding history (some sequence))]
  simp only [Option.map_some]
  rw [Durable.run_read_bind_of_ok _ accepted]
  rfl

variable (peerId)

/-- **The record of the intent was not written.** -/
theorem inspectIntent_unwritten (published : Published history)
    (room : history.length + 1 ≤ Checked.u64Max) (intent : Option ℕ) :
    inspectIntent peerId (toBytes 8 (history.length + 1)) (.holding history intent) =
      .error .storeFailed := by
  rw [inspectIntent_holding published room]
  cases found : newest (history.length + 1) history with
  | none => rfl
  | some record =>
      have bound := newest_le published found
      exact if_pos (by omega)

/-- The record of the intent is the newest one. -/
theorem inspectIntent_written {record : RecordRef} {older : List RecordRef}
    (published : Published (record :: older)) (intent : Option ℕ) :
    inspectIntent peerId (toBytes 8 record.publicationSequence)
      (.holding (record :: older) intent) =
      if completes peerId record (older.head?.map RecordRef.bytes) = false ∧
          exactPeer peerId record = false then
        .error .peerMismatch
      else .ok (completes peerId record (older.head?.map RecordRef.bytes)) := by
  rw [inspectIntent_holding published published.1.sequence, newest_same older rfl,
    newest_older published (by omega)]
  exact if_neg (by simp)

end Recovery

/-! ## The two publications of an unpair -/

/-- The record with its revocation raised. -/
def RecordRef.revoked (record : RecordRef) : RecordRef :=
  ⟨record.publicationSequence + 1, record.generation + 1, .identity .revoking, record.payload⟩

/-- The record with its peer removed. -/
def RecordRef.removed (record : RecordRef) : RecordRef :=
  ⟨record.publicationSequence + 1, record.generation, .identity .unpaired, record.payload.take 64⟩

/-- The record names a peer in this state. -/
structure RecordRef.Names (peerId : List UInt8) (state : PeerState) (record : RecordRef) :
    Prop where
  state : record.state = .identity state
  long : 96 ≤ record.payload.length
  peer : field record.payload 64 96 = peerId

section Publications

variable {peerId : List UInt8} {record : RecordRef} {older : List RecordRef} {state : PeerState}

theorem RecordRef.Names.exactPeer (names : record.Names peerId state) :
    exactPeer peerId record = true := by
  rw [Device.exactPeer, names.state]
  simp [names.long, names.peer]

theorem RecordRef.Names.length (names : record.Names peerId state) : peerId.length = 32 := by
  have long := names.long
  rw [← names.peer, field, List.length_take, List.length_drop]
  omega

theorem RecordRef.Names.revoked (names : record.Names peerId state) :
    record.revoked.Names peerId .revoking :=
  ⟨rfl, names.long, names.peer⟩

theorem published_removed (published : Published (record :: older))
    (room : record.publicationSequence + 1 ≤ Checked.u64Max) :
    Published (record.removed :: record :: older) := by
  obtain ⟨fits, number, -⟩ := id published
  refine ⟨⟨room, fits.generation, ?_⟩, by rw [RecordRef.removed, number, List.length_cons],
    published⟩
  exact le_trans (List.length_take_le' 64 record.payload) fits.payload

theorem published_revoked (published : Published (record :: older))
    (room : record.publicationSequence + 1 ≤ Checked.u64Max)
    (raisable : record.generation + 1 ≤ Checked.u64Max) :
    Published (record.revoked :: record :: older) := by
  obtain ⟨fits, number, -⟩ := id published
  exact ⟨⟨room, raisable, fits.payload⟩, by rw [RecordRef.revoked, number, List.length_cons],
    published⟩

variable {trail : List (NvsStep × Namespace)} {history : List RecordRef}

/-- Once no intent is left, a request raises the revocation and finishes it. -/
theorem identityUnpair_of_recovered (length : peerId.length = 32) {ns : Namespace}
    (recovered : (recoverIdentityIntent peerId).run ns =
      ⟨.ok none, .holding history none, trail⟩) :
    (identityUnpair peerId).run ns =
      let rest := (raiseRevocation peerId >>= finishIdentityUnpair).run (.holding history none)
      ⟨rest.result, rest.final, trail ++ rest.trail⟩ := by
  have begun : (beginIdentityUnpair peerId).run ns =
      let rest := (raiseRevocation peerId).run (.holding history none)
      ⟨rest.result, rest.final, trail ++ rest.trail⟩ := by
    rw [beginIdentityUnpair, if_neg (not_not.mpr length), Durable.run_bind_of_ok _ recovered]
  cases raised : (raiseRevocation peerId).run (.holding history none) with
  | mk result final steps =>
      rw [raised] at begun
      cases result with
      | error status =>
          rw [identityUnpair, Durable.run_bind_of_error _ begun, Durable.run_bind_of_error _ raised]
      | ok revocation =>
          rw [identityUnpair, Durable.run_bind_of_ok _ begun, Durable.run_bind_of_ok _ raised]
          simp only [List.append_assoc]

theorem identityUnpair_holding (length : peerId.length = 32) (history : List RecordRef) :
    (identityUnpair peerId).run (.holding history none) =
      (raiseRevocation peerId >>= finishIdentityUnpair).run (.holding history none) :=
  identityUnpair_of_recovered length (recoverIdentityIntent_none history)

/-- After a recovered intent a request goes on as without one. -/
theorem identityUnpair_recovered (length : peerId.length = 32) {ns : Namespace}
    (recovered : (recoverIdentityIntent peerId).run ns =
      ⟨.ok none, .holding history none, trail⟩) :
    (identityUnpair peerId).run ns =
      let rest := (identityUnpair peerId).run (.holding history none)
      ⟨rest.result, rest.final, trail ++ rest.trail⟩ := by
  rw [identityUnpair_of_recovered length recovered, identityUnpair_holding length]

theorem raiseRevocation_revoking (published : Published (record :: older))
    (names : record.Names peerId .revoking) :
    (raiseRevocation peerId).run (.holding (record :: older) none) =
      ⟨.ok ⟨record.publicationSequence, record.generation, record.payload.take 64⟩,
        .holding (record :: older) none, []⟩ := by
  rw [raiseRevocation, Durable.run_read_bind_of_ok _ (canonicalRecord_holding published)]
  simp [names.exactPeer, names.state]

theorem raiseRevocation_paired (published : Published (record.revoked :: record :: older))
    (names : record.Names peerId state) (named : state ≠ .unpaired) (fresh : state ≠ .revoking) :
    (raiseRevocation peerId).run (.holding (record :: older) none) =
      ⟨.ok ⟨record.publicationSequence + 1, record.generation + 1, record.payload.take 64⟩,
        .holding (record.revoked :: record :: older) none,
        publication record.revoked (record :: older)⟩ := by
  have raisable : record.generation + 1 ≤ Checked.u64Max := published.1.generation
  have number : (record :: older).length = record.publicationSequence := published.2.2.2.1.symm
  have publishes := publishRecord_holding published
  rw [number] at publishes
  rw [raiseRevocation, Durable.run_read_bind_of_ok _ (canonicalRecord_holding published.2.2)]
  simp only [List.head?_cons, names.state, names.exactPeer, RecordState.identity.injEq, named,
    fresh, Bool.true_eq_false, or_self, if_false, Checked.add_of_le raisable]
  exact Durable.run_bind_of_ok _ publishes

/-- **The second publication** removes the peer. -/
theorem identityUnpair_revoking (published : Published (record.removed :: record :: older))
    (names : record.Names peerId .revoking) :
    (identityUnpair peerId).run (.holding (record :: older) none) =
      ⟨.ok (), .holding (record.removed :: record :: older) none,
        publication record.removed (record :: older)⟩ := by
  have number : (record :: older).length = record.publicationSequence := published.2.2.2.1.symm
  have publishes := publishRecord_holding published
  rw [number] at publishes
  rw [identityUnpair_holding names.length,
    Durable.run_bind_of_ok _ (raiseRevocation_revoking published.2.2 names)]
  exact publishes

/-- There is no sequence for the second publication. -/
theorem identityUnpair_revoking_exhausted (published : Published (record :: older))
    (full : Checked.u64Max ≤ record.publicationSequence) (names : record.Names peerId .revoking) :
    (identityUnpair peerId).run (.holding (record :: older) none) =
      ⟨.error .storeFailed, .holding (record :: older) none, []⟩ := by
  rw [identityUnpair_holding names.length,
    Durable.run_bind_of_ok _ (raiseRevocation_revoking published names), finishIdentityUnpair,
    publishRecord_exhausted full]
  rfl

/-- **The first publication** raises the revocation; then the second follows. -/
theorem identityUnpair_paired (published : Published (record.revoked :: record :: older))
    (names : record.Names peerId state) (named : state ≠ .unpaired) (fresh : state ≠ .revoking) :
    (identityUnpair peerId).run (.holding (record :: older) none) =
      let rest := (identityUnpair peerId).run (.holding (record.revoked :: record :: older) none)
      ⟨rest.result, rest.final, publication record.revoked (record :: older) ++ rest.trail⟩ := by
  rw [identityUnpair_holding names.length, identityUnpair_holding names.length,
    Durable.run_bind_of_ok _ (raiseRevocation_paired published names named fresh),
    Durable.run_bind_of_ok _ (raiseRevocation_revoking published names.revoked)]
  rfl

/-- There is no sequence or generation for the first publication. -/
theorem identityUnpair_paired_exhausted (published : Published (record :: older))
    (names : record.Names peerId state) (named : state ≠ .unpaired) (fresh : state ≠ .revoking)
    (full : ¬(record.publicationSequence + 1 ≤ Checked.u64Max ∧
      record.generation + 1 ≤ Checked.u64Max)) :
    (identityUnpair peerId).run (.holding (record :: older) none) =
      ⟨.error .storeFailed, .holding (record :: older) none, []⟩ := by
  have raised : (raiseRevocation peerId).run (.holding (record :: older) none) =
      ⟨.error .storeFailed, .holding (record :: older) none, []⟩ := by
    rw [raiseRevocation, Durable.run_read_bind_of_ok _ (canonicalRecord_holding published)]
    simp only [List.head?_cons, names.state, names.exactPeer, RecordState.identity.injEq, named,
      fresh, Bool.true_eq_false, or_self, if_false]
    cases next : Checked.add Checked.u64Max record.generation 1 with
    | none => rfl
    | some generation =>
        obtain ⟨raise, bounded⟩ := Checked.add_eq_some_iff.mp next
        exact Durable.run_bind_of_error _ (publishRecord_exhausted (by omega))
  rw [identityUnpair_holding names.length, Durable.run_bind_of_error _ raised]

/-- A completed removal has nothing left to do. -/
theorem identityUnpair_unpaired (published : Published (record :: older))
    (length : peerId.length = 32) (removed : record.state = .identity .unpaired) :
    (identityUnpair peerId).run (.holding (record :: older) none) =
      ⟨.error .peerMismatch, .holding (record :: older) none, []⟩ := by
  have raised : (raiseRevocation peerId).run (.holding (record :: older) none) =
      ⟨.error .peerMismatch, .holding (record :: older) none, []⟩ := by
    rw [raiseRevocation, Durable.run_read_bind_of_ok _ (canonicalRecord_holding published)]
    simp [removed]
  rw [identityUnpair_holding length, Durable.run_bind_of_error _ raised]

/-! ## What the intents of an unpair lead to -/

/-- Power was lost before the record of the intent was written. -/
theorem identityUnpair_unwritten (published : Published older)
    (room : older.length + 1 ≤ Checked.u64Max) (length : peerId.length = 32) :
    (identityUnpair peerId).run (.holding older (some (older.length + 1))) =
      ⟨.error .storeFailed, .holding older (some (older.length + 1)), []⟩ := by
  have refused := recoverIdentityIntent_refused
    (inspectIntent_unwritten peerId published room (some (older.length + 1)))
  rw [identityUnpair, beginIdentityUnpair, if_neg (not_not.mpr length)]
  exact Durable.run_bind_of_error _ (Durable.run_bind_of_error _ refused)

/-- The revocation was written: the request goes on from it. -/
theorem identityUnpair_written (published : Published (record :: older))
    (names : record.Names peerId .revoking) :
    (identityUnpair peerId).run
        (.holding (record :: older) (some record.publicationSequence)) =
      let rest := (identityUnpair peerId).run (.holding (record :: older) none)
      ⟨rest.result, rest.final,
        (.intentDelete, .holding (record :: older) none) :: rest.trail⟩ := by
  have unfinished : completes peerId record (older.head?.map RecordRef.bytes) = false := by
    simp [completes, names.state]
  have accepted := inspectIntent_written peerId published
    (some record.publicationSequence)
  rw [unfinished, names.exactPeer, if_neg (by simp)] at accepted
  exact identityUnpair_recovered names.length (recoverIdentityIntent_accepted accepted)

/-- The removal was written: the request finds it completed. -/
theorem identityUnpair_completed (published : Published (record.removed :: record :: older))
    (names : record.Names peerId .revoking) :
    (identityUnpair peerId).run
        (.holding (record.removed :: record :: older)
          (some record.removed.publicationSequence)) =
      ⟨.error .success, .holding (record.removed :: record :: older) none,
        [(.intentDelete, .holding (record.removed :: record :: older) none)]⟩ := by
  have long := names.long
  have done : completes peerId record.removed
      ((record :: older).head?.map RecordRef.bytes) = true := by
    have size : (record.payload.take 64).length = 64 := by
      rw [List.length_take]
      omega
    simp [completes, RecordRef.removed, size, decodeRecord_bytes published.2.2.1, names.state,
      names.exactPeer]
  have accepted := inspectIntent_written peerId published
    (some record.removed.publicationSequence)
  rw [done, if_neg (by simp)] at accepted
  have recovered := recoverIdentityIntent_accepted accepted
  have begun : (beginIdentityUnpair peerId).run
      (.holding (record.removed :: record :: older) (some record.removed.publicationSequence)) =
      ⟨.error .success, .holding (record.removed :: record :: older) none,
        [(.intentDelete, .holding (record.removed :: record :: older) none)]⟩ := by
    rw [beginIdentityUnpair, if_neg (not_not.mpr names.length), Durable.run_bind_of_ok _ recovered]
    rfl
  exact Durable.run_bind_of_error _ begun

end Publications

end Deskkin.Device
