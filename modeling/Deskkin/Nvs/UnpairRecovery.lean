/-
# Exact unpair after a loss of power

A request to unpair that a loss of power interrupts is repeated after the next
start, with the owner generation the device then reports. It removes the peer
unless power was lost right after an intent was written: then the record of the
intent is missing, the intent stays, and every later request fails.
-/

import Deskkin.Nvs.Unpair

namespace Deskkin.Device

open BigEndian

/-! ## Requests and what they are to achieve -/

/-- An identity that names a peer. -/
abbrev StoredIdentity.NamesPeer (identity : StoredIdentity) : Prop :=
  identity.state ≠ .unpaired ∧ 96 ≤ identity.payload.length

def StoredIdentity.peerId (identity : StoredIdentity) : List UInt8 := field identity.payload 64 96

/-- A request for a peer with the owner generation the device reports. -/
def requestUnpair (peerId : List UInt8) (nvs : Nvs) :
    Durable.Outcome NvsStep Nvs ServiceStatus Unit :=
  (handleControl none ⟨.identityUnpair, nvs.ownerGeneration, peerId⟩).run nvs

def repeatUnpair (peerId : List UInt8) (repetitions : ℕ) (nvs : Nvs) : Nvs :=
  (fun nvs => (requestUnpair peerId nvs).final)^[repetitions] nvs

/-- The peer is removed, and of the original identity the key pair is left. -/
def Removed (original : StoredIdentity) (generation : ℕ) (nvs : Nvs) : Prop :=
  ∃ identity, loadIdentity nvs.identity = some identity ∧ identity.state = .unpaired ∧
    identity.generation = generation ∧ identity.payload = original.payload.take 64

/-- Some number of repetitions removes the peer, and the requests do not fail for
ever. -/
def UnpairRecovers (original : StoredIdentity) (generation : ℕ) (nvs : Nvs) : Prop :=
  (∃ repetitions, Removed original generation (repeatUnpair original.peerId repetitions nvs)) ∧
    ∃ repetitions, statusOf (requestUnpair original.peerId
      (repeatUnpair original.peerId repetitions nvs)) ≠ .storeFailed

/-! ## Repeated requests -/

section Repetitions

variable {peerId : List UInt8} {nvs : Nvs} {ns : Namespace}

/-- A request with the reported generation is the unpair of the identity. -/
theorem handleControl_unpair (keypair : Option KeyPair) (peerId : List UInt8) (nvs : Nvs) :
    (handleControl keypair ⟨.identityUnpair, nvs.ownerGeneration, peerId⟩).run nvs =
      (onIdentity (identityUnpair peerId)).run nvs := by
  rw [handleControl, Durable.run_reads_bind]
  simp

theorem requestUnpair_final :
    (requestUnpair peerId (nvs.withIdentity ns)).final =
      nvs.withIdentity ((identityUnpair peerId).run ns).final := by
  rw [requestUnpair, handleControl_unpair]
  rfl

theorem requestUnpair_status :
    statusOf (requestUnpair peerId (nvs.withIdentity ns)) =
      statusOf ((identityUnpair peerId).run ns) := by
  rw [requestUnpair, handleControl_unpair]
  rfl

theorem repeatUnpair_succ (peerId : List UInt8) (repetitions : ℕ) (nvs : Nvs) :
    repeatUnpair peerId (repetitions + 1) nvs =
      repeatUnpair peerId repetitions (requestUnpair peerId nvs).final :=
  Function.iterate_succ_apply _ _ _

theorem repeatUnpair_of_fixed (fixed : ((identityUnpair peerId).run ns).final = ns)
    (repetitions : ℕ) :
    repeatUnpair peerId repetitions (nvs.withIdentity ns) = nvs.withIdentity ns := by
  induction repetitions with
  | zero => rfl
  | succ repetitions ih => rw [repeatUnpair_succ, requestUnpair_final, fixed, ih]

variable {original : StoredIdentity} {generation : ℕ}

/-- **Stuck.** A request that fails and changes nothing fails for ever. -/
theorem not_unpairRecovers_of_stuck
    (stuck : (identityUnpair original.peerId).run ns = ⟨.error .storeFailed, ns, []⟩) :
    ¬UnpairRecovers original generation (nvs.withIdentity ns) := by
  intro recovers
  obtain ⟨repetitions, answered⟩ := recovers.2
  rw [repeatUnpair_of_fixed (by rw [stuck]), requestUnpair_status, stuck] at answered
  exact answered rfl

/-- A request that fails into a stuck namespace. -/
theorem not_unpairRecovers_of_failing {next : Namespace} {trail : List (NvsStep × Namespace)}
    (failing : (identityUnpair original.peerId).run ns = ⟨.error .storeFailed, next, trail⟩)
    (stuck : (identityUnpair original.peerId).run next = ⟨.error .storeFailed, next, []⟩) :
    ¬UnpairRecovers original generation (nvs.withIdentity ns) := by
  intro recovers
  obtain ⟨repetitions, answered⟩ := recovers.2
  cases repetitions with
  | zero =>
      have first : statusOf (requestUnpair original.peerId (nvs.withIdentity ns)) =
          .storeFailed := by rw [requestUnpair_status, failing]; rfl
      exact answered first
  | succ repetitions =>
      rw [repeatUnpair_succ, requestUnpair_final, failing,
        repeatUnpair_of_fixed (by rw [stuck]), requestUnpair_status, stuck] at answered
      exact answered rfl

/-- The peer is removed and further requests change nothing. -/
structure Settled (original : StoredIdentity) (removed : RecordRef) (ns : Namespace) : Prop where
  loaded : loadIdentity ns = some ⟨removed.publicationSequence, removed.generation, .unpaired,
    original.payload.take 64⟩
  fixed : (identityUnpair original.peerId).run ns = ⟨.error .peerMismatch, ns, []⟩

variable {removed : RecordRef}

theorem removed_iff_of_settled (settled : Settled original removed ns) :
    Removed original generation (nvs.withIdentity ns) ↔ removed.generation = generation := by
  refine ⟨fun reached => ?_, fun agree => ⟨_, settled.loaded, rfl, agree, rfl⟩⟩
  obtain ⟨identity, loaded, -, agree, -⟩ := reached
  rw [Nvs.withIdentity, settled.loaded, Option.some.injEq] at loaded
  rw [← agree, ← loaded]

theorem unpairRecovers_iff_of_settled (settled : Settled original removed ns) :
    UnpairRecovers original generation (nvs.withIdentity ns) ↔ removed.generation = generation := by
  have fixed : ∀ repetitions, repeatUnpair original.peerId repetitions (nvs.withIdentity ns) =
      nvs.withIdentity ns := repeatUnpair_of_fixed (by rw [settled.fixed])
  refine ⟨fun recovers => ?_, fun agree => ⟨⟨0, ?_⟩, 0, ?_⟩⟩
  · obtain ⟨repetitions, reached⟩ := recovers.1
    rw [fixed] at reached
    exact (removed_iff_of_settled settled).mp reached
  · exact (removed_iff_of_settled settled).mpr agree
  · rw [fixed, requestUnpair_status, settled.fixed]
    simp [statusOf]

/-- One request settles a namespace that is not unpaired yet. -/
theorem unpairRecovers_iff_of_settling {next : Namespace} (settled : Settled original removed next)
    (pending : ∀ identity, loadIdentity ns = some identity → identity.state ≠ .unpaired)
    (settling : ((identityUnpair original.peerId).run ns).final = next)
    (answered : statusOf ((identityUnpair original.peerId).run ns) ≠ .storeFailed) :
    UnpairRecovers original generation (nvs.withIdentity ns) ↔ removed.generation = generation := by
  have fixed : ∀ repetitions, repeatUnpair original.peerId repetitions (nvs.withIdentity next) =
      nvs.withIdentity next := repeatUnpair_of_fixed (by rw [settled.fixed])
  have later : ∀ repetitions, repeatUnpair original.peerId (repetitions + 1)
      (nvs.withIdentity ns) = nvs.withIdentity next := by
    intro repetitions
    rw [repeatUnpair_succ, requestUnpair_final, settling, fixed]
  refine ⟨fun recovers => ?_, fun agree => ⟨⟨1, ?_⟩, 0, ?_⟩⟩
  · obtain ⟨repetitions, reached⟩ := recovers.1
    cases repetitions with
    | zero =>
        obtain ⟨identity, loaded, unpaired, -⟩ := reached
        exact absurd unpaired (pending identity loaded)
    | succ repetitions =>
        rw [later] at reached
        exact (removed_iff_of_settled settled).mp reached
  · rw [later 0]
    exact (removed_iff_of_settled settled).mpr agree
  · rw [show repeatUnpair original.peerId 0 (nvs.withIdentity ns) = nvs.withIdentity ns from rfl,
      requestUnpair_status]
    exact answered

end Repetitions

/-! ## The losses of the two publications -/

section Losses

variable {original : StoredIdentity} {generation : ℕ} {nvs : Nvs} {record : RecordRef}
  {older : List RecordRef} {step : NvsStep} {lost : Namespace}

theorem loadIdentity_holding (published : Published (record :: older)) {state : PeerState}
    (identity : record.state = .identity state) (long : 64 ≤ record.payload.length)
    (short : record.payload.length ≤ 112) :
    loadIdentity (.holding (record :: older) none) =
      some ⟨record.publicationSequence, record.generation, state, record.payload⟩ := by
  obtain ⟨sequence, generation, _, payload⟩ := record
  subst identity
  rw [loadIdentity, canonicalRecord_holding published]
  exact if_pos ⟨long, short⟩

theorem loadIdentity_intent (history : List RecordRef) (sequence : ℕ) :
    loadIdentity (.holding history (some sequence)) = none := by
  rw [loadIdentity, canonicalRecord_intent]

theorem settled_removed (published : Published (record.removed :: record :: older))
    (names : record.Names original.peerId .revoking) (payload : record.payload = original.payload) :
    Settled original record.removed (.holding (record.removed :: record :: older) none) := by
  have long := names.long
  have size : record.removed.payload.length = 64 := by
    rw [RecordRef.removed, List.length_take]
    omega
  refine ⟨?_, identityUnpair_unpaired published names.length rfl⟩
  rw [loadIdentity_holding published rfl (by omega) (by omega), ← payload]
  rfl

theorem loadIdentity_revoking (published : Published (record :: older))
    (revoking : record.state = .identity .revoking) (identity : StoredIdentity)
    (loaded : loadIdentity (.holding (record :: older) none) = some identity) :
    identity.state ≠ .unpaired := by
  obtain ⟨readable, -⟩ := loadIdentity_eq_some loaded
  rw [canonicalRecord_holding published, List.head?_cons, Except.ok.injEq,
    Option.some.injEq] at readable
  rw [readable, RecordState.identity.injEq] at revoking
  rw [revoking]
  decide

/-- **A loss during the second publication** is recovered from unless its record
is missing. -/
theorem unpairRecovers_second (published : Published (record.removed :: record :: older))
    (names : record.Names original.peerId .revoking) (payload : record.payload = original.payload)
    (interrupted : (step, lost) ∈ publication record.removed (record :: older)) :
    UnpairRecovers original generation (nvs.withIdentity lost) ↔
      step ≠ .intentWrite ∧ record.generation = generation := by
  have settled := settled_removed published names payload
  have number : record.removed.publicationSequence = (record :: older).length + 1 := published.2.1
  have room : (record :: older).length + 1 ≤ Checked.u64Max := by
    rw [← number]
    exact published.1.sequence
  simp only [publication, List.mem_cons, Prod.mk.injEq, List.not_mem_nil, or_false] at interrupted
  rcases interrupted with ⟨rfl, rfl⟩ | ⟨rfl, rfl⟩ | ⟨rfl, rfl⟩
  · have stuck := identityUnpair_unwritten published.2.2 room names.length
    rw [number]
    simpa using not_unpairRecovers_of_stuck stuck
  · have ran := identityUnpair_completed published names
    rw [unpairRecovers_iff_of_settling settled
      (fun _ loaded => by rw [loadIdentity_intent] at loaded; cases loaded) (by rw [ran])
      (by rw [ran]; simp [statusOf])]
    simp [RecordRef.removed]
  · rw [unpairRecovers_iff_of_settled settled]
    simp [RecordRef.removed]

/-- **A loss during the first publication** is recovered from unless its record is
missing or there is no sequence for the second. -/
theorem unpairRecovers_first (published : Published (record.revoked :: record :: older))
    {state : PeerState} (names : record.Names original.peerId state)
    (payload : record.payload = original.payload)
    (interrupted : (step, lost) ∈ publication record.revoked (record :: older)) :
    UnpairRecovers original generation (nvs.withIdentity lost) ↔
      step ≠ .intentWrite ∧ record.publicationSequence + 2 ≤ Checked.u64Max ∧
        record.generation + 1 = generation := by
  have number : record.revoked.publicationSequence = (record :: older).length + 1 := published.2.1
  have below : record.publicationSequence = older.length + 1 := published.2.2.2.1
  have revoking := names.revoked
  simp only [publication, List.mem_cons, Prod.mk.injEq, List.not_mem_nil, or_false] at interrupted
  rcases interrupted with ⟨rfl, rfl⟩ | later
  · have room : (record :: older).length + 1 ≤ Checked.u64Max := by
      rw [← number]
      exact published.1.sequence
    have stuck := identityUnpair_unwritten published.2.2 room names.length
    rw [number]
    simpa using not_unpairRecovers_of_stuck stuck
  · have written : step ≠ .intentWrite := by
      rcases later with ⟨rfl, -⟩ | ⟨rfl, -⟩ <;> decide
    have resumed := identityUnpair_written published revoking
    by_cases room : record.revoked.publicationSequence + 1 ≤ Checked.u64Max
    · have next := published_removed published room
      have settled := settled_removed next revoking payload
      have finishes := identityUnpair_revoking next revoking
      have enough : record.publicationSequence + 2 ≤ Checked.u64Max := room
      have recovers : UnpairRecovers original generation (nvs.withIdentity lost) ↔
          record.revoked.removed.generation = generation := by
        rcases later with ⟨-, rfl⟩ | ⟨-, rfl⟩
        · rw [finishes] at resumed
          exact unpairRecovers_iff_of_settling settled
            (fun _ loaded => by rw [loadIdentity_intent] at loaded; cases loaded)
            (by rw [resumed]) (by rw [resumed]; simp [statusOf])
        · exact unpairRecovers_iff_of_settling settled
            (loadIdentity_revoking published rfl) (by rw [finishes])
            (by rw [finishes]; simp [statusOf])
      rw [recovers]
      simp [written, enough, RecordRef.removed, RecordRef.revoked]
    · have exhausted := identityUnpair_revoking_exhausted published (by omega) revoking
      have short : ¬record.publicationSequence + 2 ≤ Checked.u64Max := room
      have fails : ¬UnpairRecovers original generation (nvs.withIdentity lost) := by
        rcases later with ⟨-, rfl⟩ | ⟨-, rfl⟩
        · rw [exhausted] at resumed
          exact not_unpairRecovers_of_failing resumed exhausted
        · exact not_unpairRecovers_of_stuck exhausted
      simp [fails, short]

end Losses

/-- **Exactly when exact unpair survives a loss of power.** In a reachable flash
content let the identity name a peer, and let power be lost after an update of a
request for that peer. The peer is removed at one generation above the original
precisely when the update was not the writing of an intent, the revocation was not
already raised, and two more publications fit; where it was already raised, the
peer is removed at the raised generation precisely when the update was not the
writing of an intent. -/
theorem exact_unpair_recovers_iff {nvs : Nvs} (reachable : nvsSystem.Reachable nvs)
    {identity : StoredIdentity} (stored : loadIdentity nvs.identity = some identity)
    (names : identity.NamesPeer) (keypair : Option KeyPair) {step : NvsStep} {lost : Nvs}
    (interrupted : (step, lost) ∈ ((handleControl keypair
      ⟨.identityUnpair, identity.generation, identity.peerId⟩).run nvs).trail) :
    (UnpairRecovers identity (identity.generation + 1) lost ↔
      step ≠ .intentWrite ∧ identity.state ≠ .revoking ∧
        identity.sequence + 2 ≤ Checked.u64Max) ∧
    (identity.state = .revoking →
      (UnpairRecovers identity identity.generation lost ↔ step ≠ .intentWrite)) := by
  obtain ⟨named, long⟩ := names
  obtain ⟨readable, -, -⟩ := loadIdentity_eq_some stored
  obtain ⟨history, published, here, newest⟩ :=
    (legible_of_reachable reachable).1.of_canonicalRecord readable
  cases history with
  | nil => cases newest
  | cons record older =>
      rw [List.head?_cons, Option.some.injEq] at newest
      have reported : nvs.ownerGeneration = identity.generation := by
        rw [Nvs.ownerGeneration, stored]
        rfl
      have recorded : record.Names identity.peerId identity.state := by
        rw [newest]
        exact ⟨rfl, long, rfl⟩
      have payload : record.payload = identity.payload := by rw [newest]
      have sequence : record.publicationSequence = identity.sequence := by rw [newest]
      have generation : record.generation = identity.generation := by rw [newest]
      rw [← reported, handleControl_unpair] at interrupted
      obtain ⟨entry, inner, rewritten⟩ := List.mem_map.mp interrupted
      obtain ⟨_, found⟩ := entry
      rw [Prod.mk.injEq] at rewritten
      obtain ⟨rfl, rfl⟩ := rewritten
      rw [here] at inner
      by_cases revoking : identity.state = .revoking
      · rw [revoking] at recorded
        by_cases room : record.publicationSequence + 1 ≤ Checked.u64Max
        · have next := published_removed published room
          rw [identityUnpair_revoking next recorded] at inner
          refine ⟨?_, fun _ => ?_⟩
          · rw [unpairRecovers_second next recorded payload inner]
            simp [revoking, generation]
          · rw [unpairRecovers_second next recorded payload inner]
            simp [generation]
        · rw [identityUnpair_revoking_exhausted published (by omega) recorded] at inner
          cases inner
      · refine ⟨?_, fun raised => absurd raised revoking⟩
        by_cases room : record.publicationSequence + 1 ≤ Checked.u64Max ∧
            record.generation + 1 ≤ Checked.u64Max
        · have next := published_revoked published room.1 room.2
          rw [identityUnpair_paired next recorded named revoking, List.mem_append] at inner
          cases inner with
          | inl first =>
              rw [unpairRecovers_first next recorded payload first]
              simp [revoking, generation, sequence]
          | inr second =>
              by_cases twice : record.revoked.publicationSequence + 1 ≤ Checked.u64Max
              · have last := published_removed next twice
                have enough : record.publicationSequence + 2 ≤ Checked.u64Max := twice
                rw [identityUnpair_revoking last recorded.revoked] at second
                rw [unpairRecovers_second last recorded.revoked payload second]
                simp [revoking, RecordRef.revoked, generation, ← sequence, enough]
              · rw [identityUnpair_revoking_exhausted next (by omega) recorded.revoked] at second
                cases second
        · rw [identityUnpair_paired_exhausted published recorded named revoking room] at inner
          cases inner

/-! ## A paired device -/

def pairedIdentity : StoredIdentity where
  sequence := 4
  generation := 1
  state := .paired
  payload := List.replicate 32 1 ++ (List.replicate 32 2 ++ (List.replicate 32 3 ++
    List.replicate 16 4))

/-- Initialise the identity and pair. -/
def pairedLabels : List NvsLabel :=
  [.control (some ⟨List.replicate 32 1, List.replicate 32 2, rfl, rfl⟩) ⟨.identityInit, 0, []⟩ none,
    .pair (List.replicate 32 3) (List.replicate 16 4) 3 none]

/-- What a request leaves in flash when power is lost after one of its updates. -/
def unpairLoss (nvs : Nvs) (index : ℕ) : Option (NvsStep × Nvs) :=
  ((handleControl none
    ⟨.identityUnpair, pairedIdentity.generation, pairedIdentity.peerId⟩).run nvs).trail[index]?

/-- After the writing of an intent alone, no request ever succeeds. -/
theorem unpair_intent_alone :
    ∃ nvs lost, nvsSystem.Reachable nvs ∧ loadIdentity nvs.identity = some pairedIdentity ∧
      pairedIdentity.NamesPeer ∧ unpairLoss nvs 0 = some (.intentWrite, lost) ∧
      (∀ repetitions, statusOf (requestUnpair pairedIdentity.peerId
        (repeatUnpair pairedIdentity.peerId repetitions lost)) = .storeFailed) ∧
      ¬UnpairRecovers pairedIdentity (pairedIdentity.generation + 1) lost := by
  have ran : (nvsSystem.execute .blank pairedLabels).map (fun nvs =>
      (loadIdentity nvs.identity, (unpairLoss nvs 0).map fun loss => (loss.1,
        decide ((requestUnpair pairedIdentity.peerId loss.2).final = loss.2),
        statusOf (requestUnpair pairedIdentity.peerId loss.2)))) =
      some (some pairedIdentity, some (.intentWrite, true, .storeFailed)) := by
    decide +kernel
  obtain ⟨nvs, run, found⟩ := Option.map_eq_some_iff.mp ran
  rw [Prod.mk.injEq, Option.map_eq_some_iff] at found
  obtain ⟨stored, ⟨_, lost⟩, loss, effect⟩ := found
  simp only [Prod.mk.injEq, decide_eq_true_eq] at effect
  obtain ⟨rfl, fixed, status⟩ := effect
  have same : ∀ repetitions, repeatUnpair pairedIdentity.peerId repetitions lost = lost :=
    fun repetitions => Function.iterate_fixed fixed repetitions
  have fails : ∀ repetitions, statusOf (requestUnpair pairedIdentity.peerId
      (repeatUnpair pairedIdentity.peerId repetitions lost)) = .storeFailed := by
    intro repetitions
    rw [same, status]
  refine ⟨nvs, lost, StepSystem.reachable_of_execute rfl pairedLabels run, stored, by decide, loss,
    fails, fun recovers => ?_⟩
  obtain ⟨repetitions, answered⟩ := recovers.2
  exact answered (fails repetitions)

/-- After the writing of the revocation, some request removes the peer. -/
theorem exact_unpair_recovers_paired :
    ∃ nvs lost, unpairLoss nvs 1 = some (.recordWrite, lost) ∧
      UnpairRecovers pairedIdentity 2 lost := by
  have ran : (nvsSystem.execute .blank pairedLabels).map (fun nvs =>
      (loadIdentity nvs.identity, (unpairLoss nvs 1).map Prod.fst)) =
      some (some pairedIdentity, some .recordWrite) := by
    decide +kernel
  obtain ⟨nvs, reachable, found⟩ := StepSystem.exists_reachable_of_map ran rfl
  rw [Prod.mk.injEq, Option.map_eq_some_iff] at found
  obtain ⟨stored, ⟨step, lost⟩, loss, written⟩ := found
  rw [show step = .recordWrite from written] at loss
  have recovers := exact_unpair_recovers_iff reachable stored (by decide) none
    (List.mem_of_getElem? loss)
  exact ⟨nvs, lost, loss, recovers.1.mpr ⟨by decide, by decide, by decide⟩⟩

end Deskkin.Device
