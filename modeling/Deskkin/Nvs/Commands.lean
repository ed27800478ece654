/-
# Commands over flash

The service worker keeps its identity in one namespace and its Wi-Fi profile in
another. Every command that changes one of them reads the record that counts and
publishes a new one. Exact unpair publishes twice, first the revocation and then
the identity without its peer, and is the only command that deals with the intent
of an interrupted publication.
-/

import Deskkin.Nvs.Store
import Mathlib.Data.FinEnum

namespace Deskkin.Device

open BigEndian

/-! ## The identity -/

/-- The key pair that the Noise builder generates. -/
structure KeyPair where
  privateKey : List UInt8
  publicKey : List UInt8
  private_length : privateKey.length = 32
  public_length : publicKey.length = 32

def KeyPair.payload (keypair : KeyPair) : List UInt8 := keypair.privateKey ++ keypair.publicKey

structure StoredIdentity where
  sequence : ℕ
  generation : ℕ
  state : PeerState
  payload : List UInt8
  deriving DecidableEq

/-- The command without a value ends in a status: success, or the error. -/
def statusOf {κ σ : Type} (outcome : Durable.Outcome κ σ ServiceStatus Unit) : ServiceStatus :=
  match outcome.result with
  | .ok _ => .success
  | .error status => status

def loadIdentity (ns : Namespace) : Option StoredIdentity :=
  match canonicalRecord ns with
  | .ok (some ⟨sequence, generation, .identity state, payload⟩) =>
      if 64 ≤ payload.length ∧ payload.length ≤ 112 then
        some ⟨sequence, generation, state, payload⟩
      else none
  | _ => none

/-- `keypair` is none when the generator fails. -/
def identityInit (keypair : Option KeyPair) : Flash Unit := do
  match ← Durable.read canonicalRecord with
  | some _ => Durable.fail .alreadyInitialized
  | none =>
      match keypair with
      | none => Durable.fail .storeFailed
      | some keypair => publishRecord 0 1 (.identity .unpaired) keypair.payload

/-! ## Exact unpair -/

structure Revocation where
  sequence : ℕ
  generation : ℕ
  localIdentity : List UInt8
  deriving DecidableEq

def exactPeer (peerId : List UInt8) (record : RecordRef) : Bool :=
  match record.state with
  | .identity _ => 96 ≤ record.payload.length && field record.payload 64 96 = peerId
  | _ => false

/-- The unpaired record at the intent completes a revocation of this peer. -/
def completes (peerId : List UInt8) (target : RecordRef) (previous : Option (List UInt8)) : Bool :=
  target.state = .identity .unpaired && target.payload.length = 64 &&
    match previous.map decodeRecord with
    | some (.ok record) =>
        record.generation = target.generation && record.state = .identity .revoking &&
          exactPeer peerId record
    | _ => false

/-- The record at the intent and whether it completes the revocation. -/
def inspectIntent (peerId intent : List UInt8) (ns : Namespace) : Except ServiceStatus Bool :=
  if intent.length ≠ 8 then .error .storeFailed
  else
    match readSlot ns.first nvsRecordMax, readSlot ns.second nvsRecordMax with
    | .error error, _ => .error error
    | .ok _, .error error => .error error
    | .ok first, .ok second =>
        let sequence := ofBytes intent
        let target := if sequence % 2 = 1 then first else second
        let previous := if sequence % 2 = 1 then second else first
        match target.map decodeRecord with
        | some (.ok target) =>
            if target.publicationSequence ≠ sequence then .error .storeFailed
            else if completes peerId target previous = false ∧ exactPeer peerId target = false then
              .error .peerMismatch
            else .ok (completes peerId target previous)
        | _ => .error .storeFailed

def recoverIdentityIntent (peerId : List UInt8) : Flash (Option ServiceStatus) := do
  match ← Durable.read readIntent with
  | none => return none
  | some intent =>
      let completed ← Durable.read (inspectIntent peerId intent)
      deleteIntent
      return if completed then some .success else none

/-- The revocation of the peer in the record that counts. -/
def raiseRevocation (peerId : List UInt8) : Flash Revocation := do
  match ← Durable.read canonicalRecord with
  | none => Durable.fail .missing
  | some record =>
      if record.state = .identity .unpaired ∨ exactPeer peerId record = false then
        Durable.fail .peerMismatch
      else if record.state = .identity .revoking then
        return ⟨record.publicationSequence, record.generation, record.payload.take 64⟩
      else
        match Checked.add Checked.u64Max record.generation 1 with
        | none => Durable.fail .storeFailed
        | some generation => do
            publishRecord record.publicationSequence generation (.identity .revoking) record.payload
            return ⟨record.publicationSequence + 1, generation, record.payload.take 64⟩

def beginIdentityUnpair (peerId : List UInt8) : Flash Revocation :=
  if peerId.length ≠ 32 then Durable.fail .invalid
  else do
    match ← recoverIdentityIntent peerId with
    | some status => Durable.fail status
    | none => raiseRevocation peerId

def finishIdentityUnpair (revocation : Revocation) : Flash Unit :=
  publishRecord revocation.sequence revocation.generation (.identity .unpaired)
    revocation.localIdentity

def identityUnpair (peerId : List UInt8) : Flash Unit := do
  let revocation ← beginIdentityUnpair peerId
  finishIdentityUnpair revocation

/-! ## Pairing -/

def publishPeer (identity : StoredIdentity) (state : PeerState) : Flash StoredIdentity := do
  publishRecord identity.sequence identity.generation (.identity state) identity.payload
  return { identity with sequence := identity.sequence + 1, state := state }

/-- What a pairing session publishes: the peer and the transaction with the first
`reached` states, after which the session ended. -/
def pairSession (remote transaction : List UInt8) (reached : ℕ) : Flash Unit := do
  match ← Durable.reads loadIdentity with
  | none => Durable.fail .storeFailed
  | some identity =>
      if identity.state ≠ .unpaired ∨ remote.length ≠ 32 ∨ transaction.length ≠ 16 then
        Durable.fail .storeFailed
      else do
        let paired := { identity with
          payload := identity.payload.take 64 ++ (remote ++ transaction) }
        let _ ← ([.pending, .committing, .paired].take reached).foldlM publishPeer paired
        return

/-! ## The Wi-Fi profile -/

structure WifiConfig where
  ssid : List UInt8
  passphrase : List UInt8
  hostIpv4 : List UInt8
  deriving DecidableEq

def hostPort : ℕ := 39042

def isRfc1918 : List UInt8 → Bool
  | [a, b, _, _] => a = 10 ∨ (a = 172 ∧ 16 ≤ b ∧ b ≤ 31) ∨ (a = 192 ∧ b = 168)
  | _ => false

def WifiConfig.validate (config : WifiConfig) : Bool :=
  1 ≤ config.ssid.length ∧ config.ssid.length ≤ 32 ∧ 8 ≤ config.passphrase.length ∧
    config.passphrase.length ≤ 63 ∧ (∀ byte ∈ config.passphrase, 0x20 ≤ byte ∧ byte ≤ 0x7e) ∧
    isRfc1918 config.hostIpv4

/-- The profile in a payload: two counted strings, an address and a port. -/
def parseConfig : List UInt8 → Option WifiConfig
  | [] => none
  | ssidLength :: remaining =>
      match remaining.drop ssidLength.toNat with
      | [] => none
      | passphraseLength :: rest =>
          let tail := rest.drop passphraseLength.toNat
          let config : WifiConfig :=
            ⟨remaining.take ssidLength.toNat, rest.take passphraseLength.toNat, tail.take 4⟩
          if rest.length = passphraseLength.toNat + 6 ∧ config.validate ∧
              ofBytes (tail.drop 4) = hostPort then
            some config
          else none

def wifiProvision (payload : List UInt8) : Flash Unit :=
  match parseConfig payload with
  | none => Durable.fail .invalid
  | some _ => do
      let found ← Durable.read canonicalRecord
      let current := found.elim 0 RecordRef.publicationSequence
      publishRecord current 1 .configPresent payload

def clearConfig : Flash Unit := do
  match ← Durable.read canonicalRecord with
  | none => Durable.fail .missing
  | some record => publishRecord record.publicationSequence record.generation .configCleared []

def loadConfig (ns : Namespace) : Option WifiConfig :=
  match canonicalRecord ns with
  | .ok (some ⟨_, _, .configPresent, payload⟩) => parseConfig payload
  | _ => none

/-! ## The device -/

/-- What is in flash. -/
structure Nvs where
  identity : Namespace
  config : Namespace
  deriving DecidableEq

abbrev DeviceFlash : Type → Type := Durable NvsStep Nvs ServiceStatus

def Nvs.withIdentity (nvs : Nvs) (ns : Namespace) : Nvs := { nvs with identity := ns }

def Nvs.withConfig (nvs : Nvs) (ns : Namespace) : Nvs := { nvs with config := ns }

def onIdentity {α : Type} (m : Flash α) : DeviceFlash α := m.within Nvs.identity Nvs.withIdentity

def onConfig {α : Type} (m : Flash α) : DeviceFlash α := m.within Nvs.config Nvs.withConfig

/-- The owner generation that the device reports. -/
def Nvs.ownerGeneration (nvs : Nvs) : ℕ :=
  (loadIdentity nvs.identity).elim 0 StoredIdentity.generation

def ControlCommand.mutation : ControlCommand → Bool
  | .identityInit | .identityUnpair | .wifiProvision | .wifiClear => true
  | _ => false

/-- The part of a command that concerns flash; the commands that run or observe
the application leave flash alone. -/
def handleControl (keypair : Option KeyPair) (frame : ControlFrame) : DeviceFlash Unit := do
  let generation ← Durable.reads Nvs.ownerGeneration
  if frame.command.mutation ∧ frame.ownerGeneration ≠ generation then Durable.fail .invalid
  else
    match frame.command with
    | .identityInit =>
        if frame.payload = [] then onIdentity (identityInit keypair) else Durable.fail .invalid
    | .identityUnpair => onIdentity (identityUnpair frame.payload)
    | .wifiProvision => onConfig (wifiProvision frame.payload)
    | .wifiClear => if frame.payload = [] then onConfig clearConfig else Durable.fail .invalid
    | .identityList | .wifiStatus | .status => return
    | .run | .shutdown | .worldBenchmarkStart =>
        if frame.payload = [] then return else Durable.fail .invalid

end Deskkin.Device
