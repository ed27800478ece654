/-
# Revocation safety

A session never writes to a revoked stream: until the revocation of its peer is
renamed into place the record pairs the peer under the generation of the
session, afterwards the generation is greater, and between reading it and
writing the session holds the gate the revocation needs. A pairing connection
has no such protection. Between its last publication and its acknowledgement a
revocation can come in, and the acknowledgement is then written all the same.
-/

import Deskkin.Host.Revocation

namespace Deskkin.Host

/-! ## The invariant -/

/-- A session against the record and the gate. -/
structure SessionStream.Current (record : Identity) (gate : Option GateHolder) (index : ℕ)
    (stream : SessionStream) : Prop where
  pinned : stream.phase ≠ .unbound → stream.revoked = false →
    record.verifyPinnedPeer stream.remote = some stream.generation
  outdated : stream.revoked = true → stream.generation < record.generation
  cleared : stream.phase = .cleared → stream.revoked = false
  holder : stream.phase = .gated ∨ stream.phase = .cleared → gate = some (.session index)

/-- An unpair against the record and the gate. -/
structure Unpairing.Current (record : Identity) (gate : Option GateHolder)
    (unpairing : Unpairing) : Prop where
  revoking : ∃ remote transaction, unpairing.identity.peer = .revoking remote transaction ∧
    record.peer.names = some (remote, transaction)
  before : unpairing.phase = .decided ∨ unpairing.phase = .gated →
    record.generation < unpairing.identity.generation
  holder : unpairing.phase = .gated → gate = some .unpair
  after : unpairing.phase = .renamed ∨ unpairing.phase = .joining ∨
    unpairing.phase = .finishing → record = unpairing.identity

structure HostProcess.Orderly (host : HostProcess) : Prop where
  sessions : ∀ index, (host.sessions index).Current host.record host.sessionWriteGate index
  pairings : ∀ index, (host.pairings index).revoked = true →
    (host.pairings index).phase = .acknowledged ∨ (host.pairings index).phase = .closed
  unpairing : ∀ unpairing, host.unpairing = some unpairing →
    unpairing.Current host.record host.sessionWriteGate
  written : ∀ frame ∈ host.written, frame.revoked = false

/-- No acknowledgement and no session frame went to a revoked stream. -/
def HostProcess.Safe (host : HostProcess) : Prop :=
  ∀ frame ∈ host.written, frame.revoked = false

/-- No revocation is renamed into place while a pairing connection of the same
peer is between its last publication and its acknowledgement. -/
def HostProcess.Unraced (host : HostProcess) (label : HostLabel) : Prop :=
  label = .renameRevoking → ∀ unpairing remote transaction,
    host.unpairing = some unpairing → unpairing.identity.peer = .revoking remote transaction →
      ∀ index, (host.pairings index).phase = .paired → (host.pairings index).remote ≠ remote

/-! ## Reading the record -/

theorem pinned_iff {record : Identity} {remote : Text} {generation : ℕ} :
    record.verifyPinnedPeer remote = some generation ↔
      (∃ transaction, record.peer = .paired remote transaction) ∧
        record.generation = generation := by
  unfold Identity.verifyPinnedPeer
  cases record.peer with
  | paired key transaction =>
      by_cases same : remote = key
      · simp [same]
      · have other : ¬key = remote := fun h => same h.symm
        simp [same, other]
  | unpaired | pending | committing | revoking => simp

theorem generation_of_paired {record : Identity} {generation : ℕ}
    (paired : record.pairedGeneration = some generation) : record.generation = generation := by
  unfold Identity.pairedGeneration at paired
  split at paired
  · exact Option.some.inj paired
  · cases paired

/-- A publication of a pairing keeps the generation, and there was no paired peer
before it. -/
theorem withPeer_spec {record next : Identity} {peer : PeerState Text Text}
    (published : record.withPeer peer = some next) :
    next.generation = record.generation ∧
      ∀ remote, record.verifyPinnedPeer remote = none := by
  unfold Identity.withPeer at published
  split at published
  · rename_i accepted
    cases published
    refine ⟨rfl, fun remote => ?_⟩
    have moves := (Bool.and_eq_true _ _).mp accepted |>.2
    unfold Identity.verifyPinnedPeer
    rcases PeerState.validTransition_iff.mp moves with
      ⟨key, transaction, before, _⟩ | ⟨key, transaction, before, _⟩ |
        ⟨key, transaction, before, _⟩ <;> rw [before]
  · cases published

/-! ## What other threads' steps leave alone -/

namespace SessionStream.Current

variable {record next : Identity} {gate : Option GateHolder} {index : ℕ}
  {stream : SessionStream}

variable (holds : stream.Current record gate index)
include holds

/-- A record under which no session is pinned can only be followed. -/
theorem of_unpinned (unpinned : record.verifyPinnedPeer stream.remote = none)
    (later : record.generation ≤ next.generation) : stream.Current next gate index where
  pinned := by
    intro bound current
    rw [holds.pinned bound current] at unpinned
    cases unpinned
  outdated := fun revoked => (holds.outdated revoked).trans_le later
  cleared := holds.cleared
  holder := holds.holder

omit holds in
/-- A gate taken by someone else was free. -/
theorem of_free (holds : stream.Current record none index) : stream.Current record gate index where
  pinned := holds.pinned
  outdated := holds.outdated
  cleared := holds.cleared
  holder := fun phase => nomatch holds.holder phase

/-- A gate released by someone else is still held. -/
theorem of_release {holder : GateHolder} (other : holder ≠ .session index) :
    stream.Current record (if gate = some holder then none else gate) index where
  pinned := holds.pinned
  outdated := holds.outdated
  cleared := holds.cleared
  holder := by
    intro phase
    have held := holds.holder phase
    rw [held, if_neg]
    intro same
    exact other (Option.some.inj same).symm

/-- A session that gives up its gate. -/
theorem idle (bound : stream.phase ≠ .unbound) {phase : SessionPhase} {acknowledged : Bool}
    {gate' : Option GateHolder} (quiet : phase = .ready ∨ phase = .closed) :
    ({ stream with phase := phase, acknowledged := acknowledged } : SessionStream).Current record
      gate' index where
  pinned := fun _ current => holds.pinned bound current
  outdated := holds.outdated
  cleared := fun same => by
    change phase = .cleared at same
    rcases quiet with quiet | quiet <;> rw [quiet] at same <;> cases same
  holder := fun same => by
    change phase = .gated ∨ phase = .cleared at same
    rcases quiet with quiet | quiet <;> rw [quiet] at same <;> simp at same

end SessionStream.Current

namespace HostProcess

variable {host next : HostProcess}

section

variable (holds : host.Orderly)
include holds

/-- A step of one session that changes the gate for ithost only. -/
theorem Orderly.session_step {index : ℕ} {stream : SessionStream} {gate : Option GateHolder}
    {written : List WrittenFrame} (mine : stream.Current host.record gate index)
    (others : ∀ other, other ≠ index → (host.sessions other).Current host.record gate other)
    (unpair : ∀ unpairing, host.unpairing = some unpairing → unpairing.Current host.record gate)
    (quiet : ∀ frame ∈ written, frame.revoked = false) :
    ({ host.setSession index stream with
      sessionWriteGate := gate
      written := written } : HostProcess).Orderly where
  sessions := by
    intro other
    change (Function.update host.sessions index stream other).Current host.record gate other
    by_cases same : other = index
    · rw [same, Function.update_self]
      exact mine
    · rw [Function.update_of_ne same]
      exact others other same
  pairings := holds.pairings
  unpairing := unpair
  written := quiet

/-- Releasing the gate of a session leaves everyone else where they are. -/
theorem Orderly.released (index : ℕ) :
    (∀ other, other ≠ index → (host.sessions other).Current host.record
      (if host.sessionWriteGate = some (.session index) then none else host.sessionWriteGate)
      other) ∧
    ∀ unpairing, host.unpairing = some unpairing → unpairing.Current host.record
      (if host.sessionWriteGate = some (.session index) then none else host.sessionWriteGate) := by
  refine ⟨fun other different => ?_, fun unpairing current => ?_⟩
  · refine (holds.sessions other).of_release ?_
    intro same
    exact different (GateHolder.session.inj same).symm
  · have facts := holds.unpairing unpairing current
    refine ⟨facts.revoking, facts.before, ?_, facts.after⟩
    intro phase
    rw [facts.holder phase, if_neg]
    nofun

theorem Orderly.bindSession {index : ℕ} {remote : Text}
    (moved : host.bindSession index remote = some next) : next.Orderly := by
  unfold HostProcess.bindSession at moved
  split at moved
  · obtain ⟨generation, pinned, rfl⟩ := Option.map_eq_some_iff.mp moved
    exact holds.session_step
      { pinned := fun _ _ => pinned
        outdated := nofun
        cleared := fun _ => rfl
        holder := by simp }
      (fun other _ => holds.sessions other) holds.unpairing holds.written
  · cases moved

theorem Orderly.lockGate {index : ℕ} (moved : host.lockGate index = some next) : next.Orderly := by
  unfold HostProcess.lockGate at moved
  split at moved
  · rename_i able
    obtain ⟨ready, free⟩ := able
    cases moved
    have mine := holds.sessions index
    refine holds.session_step ⟨?_, mine.outdated, nofun, fun _ => rfl⟩ ?_ ?_ holds.written
    · intro _ current
      exact mine.pinned (by simp [ready]) current
    · intro other _
      have facts := holds.sessions other
      rw [free] at facts
      exact facts.of_free
    · intro unpairing current
      have facts := holds.unpairing unpairing current
      refine ⟨facts.revoking, facts.before, ?_, facts.after⟩
      intro phase
      have held := facts.holder phase
      rw [free] at held
      cases held
  · cases moved

/-- A session confirms its generation only while it is not revoked. -/
theorem Orderly.readGeneration {index : ℕ} (moved : host.readGeneration index = some next) :
    next.Orderly := by
  unfold HostProcess.readGeneration at moved
  split at moved
  · rename_i able
    have mine := holds.sessions index
    by_cases same : host.record.pairedGeneration = some (host.sessions index).generation
    · rw [if_pos same] at moved
      cases moved
      have fresh : (host.sessions index).revoked = false := by
        cases revoked : (host.sessions index).revoked with
        | false => rfl
        | true =>
            have older := mine.outdated revoked
            have exactly := generation_of_paired same
            omega
      refine holds.session_step ⟨?_, mine.outdated, fun _ => fresh, ?_⟩
        (fun other _ => holds.sessions other) holds.unpairing holds.written
      · intro _ current
        exact mine.pinned (by simp [able.1]) current
      · intro _
        exact mine.holder (.inl able.1)
    · rw [if_neg same] at moved
      cases moved
      exact holds.session_step (mine.idle (by simp [able.1]) (.inr rfl))
        (holds.released index).1 (holds.released index).2 holds.written
  · cases moved

/-- What a session writes goes to a stream that is not revoked. -/
theorem Orderly.writeFrame {index : ℕ} {close : Bool}
    (moved : host.writeFrame index close = some next) : next.Orderly := by
  simp only [HostProcess.writeFrame, Option.ite_none_right_eq_some, Option.some.injEq] at moved
  obtain ⟨cleared, rfl⟩ := moved
  have mine := holds.sessions index
  refine holds.session_step (mine.idle (by simp [cleared]) ?_) (holds.released index).1
    (holds.released index).2 ?_
  · split
    · exact .inr rfl
    · exact .inl rfl
  · intro frame member
    rcases List.mem_append.mp member with earlier | last
    · exact holds.written frame earlier
    · rw [List.mem_singleton.mp last]
      exact mine.cleared cleared

theorem Orderly.endSession {index : ℕ} (moved : host.endSession index = some next) :
    next.Orderly := by
  unfold HostProcess.endSession at moved
  split at moved
  · cases moved
  · rename_i bound
    cases moved
    exact holds.session_step ((holds.sessions index).idle bound (.inr rfl))
      (holds.released index).1 (holds.released index).2 holds.written

end

variable {peer : PeerState Text Text} {unpairing : Unpairing}

section

variable (holds : host.Orderly)
include holds

/-- A publication of a pairing, made before any session is admitted. -/
theorem Orderly.publishPeer (moved : host.publishPeer peer = some next) : next.Orderly := by
  unfold HostProcess.publishPeer at moved
  split at moved
  · rename_i free
    obtain ⟨record, published, rfl⟩ := Option.map_eq_some_iff.mp moved
    obtain ⟨kept, unpinned⟩ := withPeer_spec published
    exact
      { sessions := fun index =>
          (holds.sessions index).of_unpinned (unpinned _) (le_of_eq kept.symm)
        pairings := holds.pairings
        unpairing := by
          intro unpairing current
          change host.unpairing = some unpairing at current
          simp [current] at free
        written := holds.written }
  · cases moved

/-- A step of one pairing connection. -/
theorem Orderly.setPairing {index : ℕ} {stream : PairingStream}
    (late : stream.revoked = true → stream.phase = .acknowledged ∨ stream.phase = .closed) :
    (host.setPairing index stream).Orderly where
  sessions := holds.sessions
  pairings := by
    intro other
    change (Function.update host.pairings index stream other).revoked = true →
      (Function.update host.pairings index stream other).phase = .acknowledged ∨
        (Function.update host.pairings index stream other).phase = .closed
    by_cases same : other = index
    · rw [same, Function.update_self]
      exact late
    · rw [Function.update_of_ne same]
      exact holds.pairings other
  unpairing := holds.unpairing
  written := holds.written

/-- The three publications of a pairing connection. Only an acknowledged
connection can have been revoked. -/
theorem Orderly.advancePairing {index : ℕ} {stream : PairingStream} {middle : HostProcess}
    (published : host.publishPeer peer = some middle) (fresh : stream.revoked = false) :
    (middle.setPairing index stream).Orderly := by
  refine (holds.publishPeer published).setPairing ?_
  intro revoked
  rw [fresh] at revoked
  cases revoked

theorem Orderly.fresh {index : ℕ} (early : (host.pairings index).phase ≠ .acknowledged)
    (running : (host.pairings index).phase ≠ .closed) : (host.pairings index).revoked = false := by
  cases revoked : (host.pairings index).revoked with
  | false => rfl
  | true =>
      rcases holds.pairings index revoked with late | late
      · exact absurd late early
      · exact absurd late running

theorem Orderly.prepare {index : ℕ} {remote transaction : Text}
    (moved : host.prepare index remote transaction = some next) : next.Orderly := by
  unfold HostProcess.prepare at moved
  split at moved
  · obtain ⟨middle, published, rfl⟩ := Option.map_eq_some_iff.mp moved
    exact holds.advancePairing published rfl
  · cases moved

theorem Orderly.commit {index : ℕ} (moved : host.commit index = some next) : next.Orderly := by
  simp only [HostProcess.commit, Option.ite_none_right_eq_some, Option.map_eq_some_iff] at moved
  obtain ⟨pending, middle, published, rfl⟩ := moved
  exact holds.advancePairing published (holds.fresh (by simp [pending]) (by simp [pending]))

theorem Orderly.trust {index : ℕ} (moved : host.trust index = some next) : next.Orderly := by
  simp only [HostProcess.trust, Option.ite_none_right_eq_some, Option.map_eq_some_iff] at moved
  obtain ⟨committing, middle, published, rfl⟩ := moved
  exact holds.advancePairing published
    (holds.fresh (by simp [committing]) (by simp [committing]))

/-- The acknowledgement that ends a pairing goes to a stream that is not revoked,
because a revocation never finds the connection waiting to write it. -/
theorem Orderly.writeHelloAck {index : ℕ} (moved : host.writeHelloAck index = some next) :
    next.Orderly := by
  simp only [HostProcess.writeHelloAck, Option.ite_none_right_eq_some, Option.some.injEq] at moved
  obtain ⟨paired, rfl⟩ := moved
  have fresh : (host.pairings index).revoked = false :=
    holds.fresh (by simp [paired]) (by simp [paired])
  have ended : (host.setPairing index
      { host.pairings index with phase := .acknowledged }).Orderly :=
    holds.setPairing fun _ => .inl rfl
  refine ⟨ended.sessions, ended.pairings, ended.unpairing, ?_⟩
  intro frame member
  rcases List.mem_append.mp member with earlier | last
  · exact holds.written frame earlier
  · rw [List.mem_singleton.mp last]
    exact fresh

theorem Orderly.endPairing (index : ℕ) : (host.endPairing index).Orderly :=
  holds.setPairing fun _ => .inr rfl

/-! ## The unpair -/

/-- A step of the unpair that leaves the record and the streams alone. -/
theorem Orderly.unpair_step {unpairing : Option Unpairing} {gate : Option GateHolder}
    (sessions : ∀ index, (host.sessions index).Current host.record gate index)
    (mine : ∀ current, unpairing = some current → current.Current host.record gate) :
    ({ host with unpairing := unpairing, sessionWriteGate := gate } : HostProcess).Orderly where
  sessions := sessions
  pairings := holds.pairings
  unpairing := mine
  written := holds.written

theorem Orderly.startUnpair {remote : Text} (moved : host.startUnpair remote = some next) :
    next.Orderly := by
  have decide_ : ∀ {key transaction : Text},
      host.record.peer.names = some (key, transaction) →
      (if key = remote then (host.record.revokedRecord remote transaction).map fun identity =>
        { host with unpairing := some ⟨identity, .decided⟩ } else none) = some next →
      next.Orderly := by
    intro key transaction names moved
    simp only [Option.ite_none_right_eq_some, Option.map_eq_some_iff] at moved
    obtain ⟨rfl, identity, revoked, rfl⟩ := moved
    obtain ⟨generation, advanced, rfl⟩ := Option.map_eq_some_iff.mp revoked
    obtain ⟨rfl, _⟩ := Checked.add_eq_some_iff.mp advanced
    apply holds.unpair_step holds.sessions
    intro current same
    cases same
    exact ⟨⟨key, transaction, rfl, names⟩, fun _ => Nat.lt_succ_self _, nofun, nofun⟩
  unfold HostProcess.startUnpair at moved
  split at moved
  · cases peer : host.record.peer with
    | unpaired => simp [peer] at moved
    | pending key transaction | committing key transaction | paired key transaction =>
        simp only [peer] at moved
        exact decide_ (by rw [peer]; rfl) moved
    | revoking key transaction =>
        simp only [peer, Option.ite_none_right_eq_some, Option.some.injEq] at moved
        obtain ⟨_, rfl⟩ := moved
        apply holds.unpair_step holds.sessions
        intro current same
        cases same
        exact ⟨⟨key, transaction, peer, by rw [peer]; rfl⟩, by simp, nofun, fun _ => rfl⟩
  · cases moved

section

variable (current : host.unpairing = some unpairing)
include current

theorem Orderly.lockGateForUnpair (moved : host.lockGateForUnpair unpairing = some next) :
    next.Orderly := by
  simp only [HostProcess.lockGateForUnpair, Option.ite_none_right_eq_some, Option.some.injEq]
    at moved
  obtain ⟨⟨decided, free⟩, rfl⟩ := moved
  have facts := holds.unpairing unpairing current
  apply holds.unpair_step
  · intro index
    have session := holds.sessions index
    rw [free] at session
    exact session.of_free
  · intro other same
    cases same
    exact ⟨facts.revoking, fun _ => facts.before (.inl decided), fun _ => rfl, by simp⟩

/-- The revocation is renamed into place: no session is cleared to write, since
the unpair holds the gate, and every session of the peer is of an older
generation from here on. -/
theorem Orderly.renameRevoking (unraced : host.Unraced .renameRevoking)
    (moved : host.renameRevoking unpairing = some next) : next.Orderly := by
  have facts := holds.unpairing unpairing current
  unfold HostProcess.renameRevoking at moved
  split at moved
  · rename_i gated revoking
    cases moved
    rename_i remote transaction
    have older := facts.before (.inr gated)
    have held := facts.holder gated
    obtain ⟨key, transaction', names, before⟩ := facts.revoking
    rw [revoking] at names
    cases names
    have mine : ∀ {other generation}, host.record.verifyPinnedPeer other = some generation →
        other = remote := by
      intro other generation pinned
      obtain ⟨⟨_, paired⟩, _⟩ := pinned_iff.mp pinned
      rw [paired] at before
      cases before
      rfl
    refine ⟨?_, ?_, ?_, holds.written⟩
    · intro index
      have session := holds.sessions index
      have waiting : ¬((host.sessions index).phase = .gated ∨
          (host.sessions index).phase = .cleared) := by
        intro holding
        have same := session.holder holding
        rw [held] at same
        cases same
      change ((host.sessions index).revoke remote).Current unpairing.identity _ index
      unfold SessionStream.revoke
      by_cases touched : (host.sessions index).phase ≠ .unbound ∧
          (host.sessions index).remote = remote
      · rw [if_pos touched]
        refine ⟨nofun, fun _ => ?_, fun cleared => absurd (.inr cleared) waiting,
          fun holding => absurd holding waiting⟩
        cases revoked : (host.sessions index).revoked with
        | true => exact (session.outdated revoked).trans older
        | false =>
            obtain ⟨_, generation⟩ := pinned_iff.mp (session.pinned touched.1 revoked)
            change (host.sessions index).generation < unpairing.identity.generation
            omega
      · rw [if_neg touched]
        refine ⟨?_, fun revoked => (session.outdated revoked).trans older,
          fun cleared => absurd (.inr cleared) waiting, fun holding => absurd holding waiting⟩
        intro bound fresh
        exact absurd ⟨bound, mine (session.pinned bound fresh)⟩ touched
    · intro index
      change ((host.pairings index).revoke remote).revoked = true →
        ((host.pairings index).revoke remote).phase = .acknowledged ∨
          ((host.pairings index).revoke remote).phase = .closed
      unfold PairingStream.revoke
      split
      · rename_i touched
        intro _
        rcases touched.1 with paired | acknowledged
        · exact absurd touched.2 (unraced rfl unpairing remote transaction current revoking index
            paired)
        · exact .inl acknowledged
      · exact holds.pairings index
    · intro other same
      cases same
      exact ⟨⟨remote, transaction, revoking, by rw [revoking]; rfl⟩, by simp, nofun, fun _ => rfl⟩
  · cases moved

theorem Orderly.releaseGate (moved : host.releaseGate unpairing = some next) : next.Orderly := by
  simp only [HostProcess.releaseGate, Option.ite_none_right_eq_some, Option.some.injEq] at moved
  obtain ⟨renamed, rfl⟩ := moved
  have facts := holds.unpairing unpairing current
  refine holds.unpair_step (fun index => (holds.sessions index).of_release nofun) ?_
  intro other same
  cases same
  exact ⟨facts.revoking, by simp, nofun, fun _ => facts.after (.inl renamed)⟩

theorem Orderly.joinSessions {joined : Bool}
    (moved : host.joinSessions unpairing joined = some next) : next.Orderly := by
  simp only [HostProcess.joinSessions, Option.ite_none_right_eq_some, Option.some.injEq] at moved
  obtain ⟨joining, rfl⟩ := moved
  have facts := holds.unpairing unpairing current
  apply holds.unpair_step holds.sessions
  intro other same
  cases joined with
  | false => cases same
  | true =>
      cases same
      exact ⟨facts.revoking, by simp, nofun, fun _ => facts.after (.inr (.inl joining))⟩

/-- The last record of an unpair names no peer, and neither did the record before
pair one. -/
theorem Orderly.publishUnpaired (moved : host.publishUnpaired unpairing = some next) :
    next.Orderly := by
  simp only [HostProcess.publishUnpaired, Option.ite_none_right_eq_some, Option.some.injEq]
    at moved
  obtain ⟨finishing, rfl⟩ := moved
  have facts := holds.unpairing unpairing current
  have same := facts.after (.inr (.inr finishing))
  obtain ⟨remote, transaction, revoking, _⟩ := facts.revoking
  rw [← same] at revoking
  refine ⟨?_, holds.pairings, nofun, holds.written⟩
  intro index
  refine (holds.sessions index).of_unpinned ?_ (le_of_eq (by rw [same]))
  unfold Identity.verifyPinnedPeer
  rw [revoking]

end

theorem Orderly.abandonUnpair : host.abandonUnpair.Orderly :=
  holds.unpair_step (fun index => (holds.sessions index).of_release nofun) nofun

/-! ## Runs -/

/-- Every step but a revocation that races a pairing keeps the host orderly. -/
theorem Orderly.step {label : HostLabel} (unraced : host.Unraced label)
    (moved : host.step label = some next) : next.Orderly := by
  cases label with
  | bind index remote => exact holds.bindSession moved
  | lockGate index => exact holds.lockGate moved
  | readGeneration index => exact holds.readGeneration moved
  | write index close => exact holds.writeFrame moved
  | endSession index => exact holds.endSession moved
  | prepare index remote transaction => exact holds.prepare moved
  | commit index => exact holds.commit moved
  | trust index => exact holds.trust moved
  | writeHelloAck index => exact holds.writeHelloAck moved
  | endPairing index =>
      cases moved
      exact holds.endPairing index
  | startUnpair remote => exact holds.startUnpair moved
  | lockGateForUnpair =>
      obtain ⟨unpairing, current, moved⟩ := Option.bind_eq_some_iff.mp moved
      exact holds.lockGateForUnpair current moved
  | renameRevoking =>
      obtain ⟨unpairing, current, moved⟩ := Option.bind_eq_some_iff.mp moved
      exact holds.renameRevoking current unraced moved
  | releaseGate =>
      obtain ⟨unpairing, current, moved⟩ := Option.bind_eq_some_iff.mp moved
      exact holds.releaseGate current moved
  | join joined =>
      obtain ⟨unpairing, current, moved⟩ := Option.bind_eq_some_iff.mp moved
      exact holds.joinSessions current moved
  | publishUnpaired =>
      obtain ⟨unpairing, current, moved⟩ := Option.bind_eq_some_iff.mp moved
      exact holds.publishUnpaired current moved
  | abandonUnpair =>
      obtain ⟨unpairing, _, rfl⟩ := Option.map_eq_some_iff.mp moved
      exact holds.abandonUnpair

end

theorem orderly_started (record : Identity) : (started record).Orderly where
  sessions := fun _ => ⟨by simp [started], nofun, nofun, by simp [started]⟩
  pairings := nofun
  unpairing := nofun
  written := nofun

/-- **Revocation safety.** In a run in which no revocation is renamed into place
while a pairing connection of the peer waits to write its acknowledgement,
nothing is ever written to a revoked stream. -/
theorem safe_throughout {past : List (HostProcess × HostLabel)} (run : machine.Run past host)
    (unraced : StepSystem.Guarded Unraced past) : StepSystem.Throughout Safe past host := by
  have initial : ∀ start, machine.Initial start → start.Orderly := by
    intro start initial
    obtain ⟨record, rfl⟩ := initial
    exact orderly_started record
  exact run.throughout_of_guarded initial
    (fun _ _ _ holds allowed moved => holds.step allowed moved)
    (fun _ holds => holds.written) unraced

def sampleRemote : Text := hex (List.replicate 32 7)

def sampleTransaction : Text := hex (List.replicate 16 9)

def sampleRecord (peer : PeerState Text Text) : Identity where
  schemaMajor := 1
  localPrivateKey := hex (List.replicate 32 1)
  localPublicKey := hex (List.replicate 32 2)
  generation := 0
  peer := peer

/-- A session that is served and then revoked stays within the promise. -/
theorem safe_throughout_session :
    ∃ past host, machine.Run past host ∧ host.written = [⟨.helloAck, false⟩] ∧
      (host.sessions 0).revoked = true ∧ StepSystem.Throughout Safe past host := by
  have initial : machine.Run []
      (started (sampleRecord (.paired sampleRemote sampleTransaction))) :=
    .start ⟨_, rfl⟩
  have along : machine.Along Unraced
      (started (sampleRecord (.paired sampleRemote sampleTransaction)))
      [.bind 0 sampleRemote, .lockGate 0, .readGeneration 0, .write 0 false,
        .startUnpair sampleRemote, .lockGateForUnpair, .renameRevoking] := by
    refine ⟨nofun, fun _ bound => ?_⟩
    cases bound
    refine ⟨nofun, fun _ locked => ?_⟩
    cases locked
    refine ⟨nofun, fun _ read => ?_⟩
    cases read
    refine ⟨nofun, fun _ written => ?_⟩
    cases written
    refine ⟨nofun, fun _ decided => ?_⟩
    cases decided
    refine ⟨nofun, fun _ gated => ?_⟩
    cases gated
    exact ⟨fun _ _ _ _ _ _ _ => nofun, fun _ _ => trivial⟩
  obtain ⟨past, run, unraced⟩ := initial.exists_guarded_of_execute (StepSystem.guarded_nil _) _
    along rfl
  exact ⟨past, _, run, rfl, rfl, safe_throughout run unraced⟩

/-- An unpair that comes between the last publication of a pairing and its
acknowledgement: the acknowledgement goes to a revoked stream. -/
theorem acknowledgement_after_revocation :
    ∃ host, machine.Reachable host ∧ host.written = [⟨.helloAck, true⟩] ∧ ¬ host.Safe := by
  have replayed : (machine.execute (started (sampleRecord .unpaired))
      [.prepare 0 sampleRemote sampleTransaction, .commit 0, .trust 0,
        .startUnpair sampleRemote, .lockGateForUnpair, .renameRevoking, .writeHelloAck 0]).map
      (fun host => host.written) = some [⟨.helloAck, true⟩] := by
    decide +kernel
  obtain ⟨host, reachable, written⟩ := StepSystem.exists_reachable_of_map replayed ⟨_, rfl⟩
  refine ⟨host, reachable, written, ?_⟩
  intro safe
  have fresh := safe ⟨.helloAck, true⟩ (by simp [written])
  cases fresh

end HostProcess

end Deskkin.Host
