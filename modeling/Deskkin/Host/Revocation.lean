/-
# Streams of a peer and its revocation

The threads of one host process that share an identity store: sessions, each
with the hello exchange that admits it and the writer that serves it, pairing
connections, which end in a hello exchange of their own, and one unpair at a
time. A session writes under the session write gate and only after it has read
the paired generation again. The acknowledgement that ends a pairing is written
without the gate. An unpair holds the file lock throughout, and the gate while
it publishes the revocation. Every other use of the file lock is a single read
or publication, taken here in one step.

A log beside the state keeps the frames that were written and whether the stream
had been revoked by then; the code does not have it.
-/

import Deskkin.Identity.Record
import Deskkin.Lib.Runs

namespace Deskkin

namespace Identity

/-- `paired_generation`, which fails unless a peer is paired. -/
def pairedGeneration (identity : Identity) : Option ℕ :=
  match identity.peer with
  | .paired _ _ => some identity.generation
  | _ => none

/-- The generation under which a remote key is the paired one. -/
def verifyPinnedPeer (identity : Identity) (remote : Text) : Option ℕ :=
  match identity.peer with
  | .paired key _ => if remote = key then some identity.generation else none
  | _ => none

/-- The record `set_peer` publishes, if it accepts the transition. -/
def withPeer (identity : Identity) (peer : PeerState Text Text) : Option Identity :=
  if validatePeer peer && identity.peer.validTransition peer then
    some { identity with peer := peer }
  else none

/-- The record that revokes a peer, under the next generation. -/
def revokedRecord (identity : Identity) (remote transaction : Text) : Option Identity :=
  (Checked.add Checked.u64Max identity.generation 1).map fun generation =>
    { identity with generation := generation, peer := .revoking remote transaction }

end Identity

namespace Host

/-- Where a session is: not admitted yet, between two writes, holding the gate,
holding it after the generation was confirmed, or over. -/
inductive SessionPhase
  | unbound
  | ready
  | gated
  | cleared
  | closed
  deriving DecidableEq

/-- A session is bound to the remote key and the generation of its handshake. Its
first write acknowledges the hello. `revoked` belongs to the log: the revocation
of the peer was renamed into place after the session was bound to it. -/
structure SessionStream where
  remote : Text
  generation : ℕ
  acknowledged : Bool
  phase : SessionPhase
  revoked : Bool

/-- Where a pairing connection is: before its first publication, after each of
the three, past its acknowledgement, or over. -/
inductive PairingPhase
  | unbound
  | pending
  | committing
  | paired
  | acknowledged
  | closed
  deriving DecidableEq

structure PairingStream where
  remote : Text
  transaction : Text
  phase : PairingPhase
  revoked : Bool

/-- Where an unpair is: it has read the record, holds the gate, has renamed the
revocation into place, waits for the sessions, or publishes the last record. -/
inductive UnpairPhase
  | decided
  | gated
  | renamed
  | joining
  | finishing
  deriving DecidableEq

/-- The unpair that holds the file lock, with its copy of the record. -/
structure Unpairing where
  identity : Identity
  phase : UnpairPhase

inductive GateHolder
  | session (index : ℕ)
  | unpair
  deriving DecidableEq

inductive Frame
  | helloAck
  | session
  deriving DecidableEq

structure WrittenFrame where
  frame : Frame
  revoked : Bool
  deriving DecidableEq

structure HostProcess where
  record : Identity
  sessions : ℕ → SessionStream
  pairings : ℕ → PairingStream
  sessionWriteGate : Option GateHolder
  unpairing : Option Unpairing
  written : List WrittenFrame

/-- What a thread does next. A stream can fail or time out at any point. -/
inductive HostLabel
  | bind (index : ℕ) (remote : Text)
  | lockGate (index : ℕ)
  | readGeneration (index : ℕ)
  | write (index : ℕ) (close : Bool)
  | endSession (index : ℕ)
  | prepare (index : ℕ) (remote transaction : Text)
  | commit (index : ℕ)
  | trust (index : ℕ)
  | writeHelloAck (index : ℕ)
  | endPairing (index : ℕ)
  | startUnpair (remote : Text)
  | lockGateForUnpair
  | renameRevoking
  | releaseGate
  | join (joined : Bool)
  | publishUnpaired
  | abandonUnpair
  deriving DecidableEq

def SessionStream.revoke (remote : Text) (stream : SessionStream) : SessionStream :=
  if stream.phase ≠ .unbound ∧ stream.remote = remote then { stream with revoked := true }
  else stream

/-- A pairing connection is a stream of the peer once the record has paired it. -/
def PairingStream.revoke (remote : Text) (stream : PairingStream) : PairingStream :=
  if (stream.phase = .paired ∨ stream.phase = .acknowledged) ∧ stream.remote = remote then
    { stream with revoked := true }
  else stream

namespace HostProcess

def setSession (self : HostProcess) (index : ℕ) (stream : SessionStream) : HostProcess :=
  { self with sessions := Function.update self.sessions index stream }

def setPairing (self : HostProcess) (index : ℕ) (stream : PairingStream) : HostProcess :=
  { self with pairings := Function.update self.pairings index stream }

/-- The gate is free unless someone else holds it. -/
def release (self : HostProcess) (holder : GateHolder) : HostProcess :=
  { self with
    sessionWriteGate := if self.sessionWriteGate = some holder then none
      else self.sessionWriteGate }

/-! ## Sessions -/

/-- The handshake is over and the remote key is the paired one. -/
def bindSession (self : HostProcess) (index : ℕ) (remote : Text) : Option HostProcess :=
  if (self.sessions index).phase = .unbound ∧ self.unpairing.isNone = true then
    (self.record.verifyPinnedPeer remote).map fun generation =>
      self.setSession index ⟨remote, generation, false, .ready, false⟩
  else none

def lockGate (self : HostProcess) (index : ℕ) : Option HostProcess :=
  if (self.sessions index).phase = .ready ∧ self.sessionWriteGate = none then
    some { self.setSession index { self.sessions index with phase := .gated } with
      sessionWriteGate := some (.session index) }
  else none

/-- Under the gate, read the paired generation again. A session of another
generation ends. -/
def readGeneration (self : HostProcess) (index : ℕ) : Option HostProcess :=
  if (self.sessions index).phase = .gated ∧ self.unpairing.isNone = true then
    some (if self.record.pairedGeneration = some (self.sessions index).generation then
      self.setSession index { self.sessions index with phase := .cleared }
    else
      (self.setSession index { self.sessions index with phase := .closed }).release
        (.session index))
  else none

/-- Write the acknowledgement or the next frame and release the gate. -/
def writeFrame (self : HostProcess) (index : ℕ) (close : Bool) : Option HostProcess :=
  let stream := self.sessions index
  if stream.phase = .cleared then
    let next := { stream with
      acknowledged := true
      phase := if stream.acknowledged && close then .closed else .ready }
    some { (self.setSession index next).release (.session index) with
      written := self.written ++
        [⟨if stream.acknowledged then .session else .helloAck, stream.revoked⟩] }
  else none

def endSession (self : HostProcess) (index : ℕ) : Option HostProcess :=
  if (self.sessions index).phase = .unbound then none
  else
    some ((self.setSession index { self.sessions index with phase := .closed }).release
      (.session index))

/-! ## Pairing connections -/

/-- A publication of a pairing. It needs the file lock. -/
def publishPeer (self : HostProcess) (peer : PeerState Text Text) : Option HostProcess :=
  if self.unpairing.isNone = true then
    (self.record.withPeer peer).map fun record => { self with record := record }
  else none

def prepare (self : HostProcess) (index : ℕ) (remote transaction : Text) : Option HostProcess :=
  if (self.pairings index).phase = .unbound then
    (self.publishPeer (.pending remote transaction)).map fun next =>
      next.setPairing index ⟨remote, transaction, .pending, false⟩
  else none

def commit (self : HostProcess) (index : ℕ) : Option HostProcess :=
  let stream := self.pairings index
  if stream.phase = .pending then
    (self.publishPeer (.committing stream.remote stream.transaction)).map fun next =>
      next.setPairing index { stream with phase := .committing }
  else none

/-- The hello has arrived and the record pairs the peer. -/
def trust (self : HostProcess) (index : ℕ) : Option HostProcess :=
  let stream := self.pairings index
  if stream.phase = .committing then
    (self.publishPeer (.paired stream.remote stream.transaction)).map fun next =>
      next.setPairing index { stream with phase := .paired }
  else none

/-- The acknowledgement that ends a pairing. Neither the gate nor the generation
is looked at. -/
def writeHelloAck (self : HostProcess) (index : ℕ) : Option HostProcess :=
  let stream := self.pairings index
  if stream.phase = .paired then
    some { self.setPairing index { stream with phase := .acknowledged } with
      written := self.written ++ [⟨.helloAck, stream.revoked⟩] }
  else none

def endPairing (self : HostProcess) (index : ℕ) : HostProcess :=
  self.setPairing index { self.pairings index with phase := .closed }

/-! ## Unpair -/

/-- Take the file lock and read the record. A revocation that was interrupted is
only finished. -/
def startUnpair (self : HostProcess) (remote : Text) : Option HostProcess :=
  if self.unpairing.isNone = true then
    match self.record.peer with
    | .unpaired => none
    | .revoking key _ =>
        if key = remote then some { self with unpairing := some ⟨self.record, .finishing⟩ }
        else none
    | .pending key transaction | .committing key transaction | .paired key transaction =>
        if key = remote then
          (self.record.revokedRecord remote transaction).map fun identity =>
            { self with unpairing := some ⟨identity, .decided⟩ }
        else none
  else none

def lockGateForUnpair (self : HostProcess) (unpairing : Unpairing) : Option HostProcess :=
  if unpairing.phase = .decided ∧ self.sessionWriteGate = none then
    some { self with
      unpairing := some { unpairing with phase := .gated }
      sessionWriteGate := some .unpair }
  else none

/-- The revocation is renamed into place. From here on the streams of the peer
are revoked. -/
def renameRevoking (self : HostProcess) (unpairing : Unpairing) : Option HostProcess :=
  match unpairing.phase, unpairing.identity.peer with
  | .gated, .revoking remote _ =>
      some { self with
        record := unpairing.identity
        unpairing := some { unpairing with phase := .renamed }
        sessions := fun index => (self.sessions index).revoke remote
        pairings := fun index => (self.pairings index).revoke remote }
  | _, _ => none

def releaseGate (self : HostProcess) (unpairing : Unpairing) : Option HostProcess :=
  if unpairing.phase = .renamed then
    some ({ self with unpairing := some { unpairing with phase := .joining } }.release .unpair)
  else none

def joinSessions (self : HostProcess) (unpairing : Unpairing) (joined : Bool) :
    Option HostProcess :=
  if unpairing.phase = .joining then
    some { self with
      unpairing := if joined then some { unpairing with phase := .finishing } else none }
  else none

def publishUnpaired (self : HostProcess) (unpairing : Unpairing) : Option HostProcess :=
  if unpairing.phase = .finishing then
    some { self with
      record := { unpairing.identity with peer := .unpaired }
      unpairing := none }
  else none

/-- A failure of an unpair gives both locks back. -/
def abandonUnpair (self : HostProcess) : HostProcess :=
  { self with unpairing := none }.release .unpair

def step (self : HostProcess) : HostLabel → Option HostProcess
  | .bind index remote => self.bindSession index remote
  | .lockGate index => self.lockGate index
  | .readGeneration index => self.readGeneration index
  | .write index close => self.writeFrame index close
  | .endSession index => self.endSession index
  | .prepare index remote transaction => self.prepare index remote transaction
  | .commit index => self.commit index
  | .trust index => self.trust index
  | .writeHelloAck index => self.writeHelloAck index
  | .endPairing index => some (self.endPairing index)
  | .startUnpair remote => self.startUnpair remote
  | .lockGateForUnpair => self.unpairing.bind self.lockGateForUnpair
  | .renameRevoking => self.unpairing.bind self.renameRevoking
  | .releaseGate => self.unpairing.bind self.releaseGate
  | .join joined => self.unpairing.bind fun unpairing => self.joinSessions unpairing joined
  | .publishUnpaired => self.unpairing.bind self.publishUnpaired
  | .abandonUnpair => self.unpairing.map fun _ => self.abandonUnpair

/-- A process that starts with some record and no connection. -/
def started (record : Identity) : HostProcess where
  record := record
  sessions := fun _ => ⟨[], 0, false, .unbound, false⟩
  pairings := fun _ => ⟨[], [], .unbound, false⟩
  sessionWriteGate := none
  unpairing := none
  written := []

def machine : StepSystem HostProcess HostLabel where
  Initial self := ∃ record, self = started record
  step := step

end HostProcess

end Host

end Deskkin
