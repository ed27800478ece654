/-
# The identity record

The one record of the hosted identity store: the local key pair, the owner
generation and the peer state, kept as a JSON object. A file is read back only
when it is a complete record of this schema whose texts are lowercase
hexadecimal of the right length and whose public key belongs to its private
key. The JSON text layer and the curve are outside the repository and appear as
one parameter with the laws the store relies on.
-/

import Deskkin.Identity.Hex
import Deskkin.Identity.Peer
import Deskkin.Lib.Checked
import Deskkin.Lib.Fallible

namespace Deskkin

inductive StoreError
  | missing
  | alreadyInitialized
  | invalid
  | notPrivate
  | unknownEntry
  | peerMismatch
  | generationExhausted
  | lockTimeout
  | revokedRecoveryRequired
  | io
  deriving DecidableEq

/-- A JSON value. An object keeps its members in the order of the text,
repeated keys included. -/
inductive Json
  | null
  | bool (value : Bool)
  | integer (value : ℤ)
  | fraction (literal : Text)
  | string (value : Text)
  | array (elements : List Json)
  | object (members : List (String × Json))

/-- What the store takes from outside: the JSON text layer over file contents of
type `γ`, the contents of a new file, and the public key of a private key. -/
structure Platform (γ : Type*) where
  print : Json → γ
  parse : γ → Option Json
  empty : γ
  publicKey : List UInt8 → List UInt8
  parse_print : ∀ json, parse (print json) = some json
  length_publicKey : ∀ key, (publicKey key).length = 32

structure Identity where
  schemaMajor : ℕ
  localPrivateKey : Text
  localPublicKey : Text
  generation : ℕ
  peer : PeerState Text Text
  deriving DecidableEq

/-! ## Writing a record -/

def PeerState.toJson : PeerState Text Text → Json
  | .unpaired => .object [("state", .string "unpaired".toList)]
  | .pending key transaction =>
      .object [("state", .string "pending".toList), ("remote_public_key", .string key),
        ("pairing_transaction_id", .string transaction)]
  | .committing key transaction =>
      .object [("state", .string "committing".toList), ("remote_public_key", .string key),
        ("pairing_transaction_id", .string transaction)]
  | .paired key transaction =>
      .object [("state", .string "paired".toList), ("remote_public_key", .string key),
        ("pairing_transaction_id", .string transaction)]
  | .revoking key transaction =>
      .object [("state", .string "revoking".toList), ("remote_public_key", .string key),
        ("previous_pairing_transaction_id", .string transaction)]

def Identity.toJson (identity : Identity) : Json :=
  .object [("schema_major", .integer identity.schemaMajor),
    ("local_private_key", .string identity.localPrivateKey),
    ("local_public_key", .string identity.localPublicKey),
    ("generation", .integer identity.generation),
    ("peer", identity.peer.toJson)]

/-! ## The shape of the text -/

def Json.asObject : Json → Option (List (String × Json))
  | .object members => some members
  | _ => none

def Json.asString : Json → Option Text
  | .string value => some value
  | _ => none

/-- The value of a key. The last member of a repeated key counts. -/
def lastMember (members : List (String × Json)) (key : String) : Option Json :=
  members.reverse.lookup key

/-- The keys of an object are exactly the expected ones. -/
def hasKeys (members : List (String × Json)) (expected : List String) : Bool :=
  decide ((members.map Prod.fst).eraseDups.length = expected.length) &&
    expected.all fun key => (lastMember members key).isSome

def expectedPeerKeys (state : Text) : Option (List String) :=
  if state = "unpaired".toList then some ["state"]
  else if state = "pending".toList ∨ state = "committing".toList ∨ state = "paired".toList then
    some ["state", "remote_public_key", "pairing_transaction_id"]
  else if state = "revoking".toList then
    some ["state", "remote_public_key", "previous_pairing_transaction_id"]
  else none

def validateIdentityJsonShape (json : Json) : Bool :=
  match json.asObject with
  | none => false
  | some members =>
      hasKeys members
        ["schema_major", "local_private_key", "local_public_key", "generation", "peer"] &&
      match (lastMember members "peer").bind Json.asObject with
      | none => false
      | some peer =>
          match ((lastMember peer "state").bind Json.asString).bind expectedPeerKeys with
          | none => false
          | some expected => hasKeys peer expected

/-! ## Reading a record -/

/-- A typed field. It has to be there exactly once. -/
def uniqueMember (members : List (String × Json)) (key : String) : Option Json :=
  match members.filter fun member => member.1 == key with
  | [(_, value)] => some value
  | _ => none

/-- An unsigned integer within its type. -/
def Json.asUnsigned (greatest : ℕ) : Json → Option ℕ
  | .integer (.ofNat value) => if value ≤ greatest then some value else none
  | _ => none

def onlyKeys (members : List (String × Json)) (known : List String) : Bool :=
  members.all fun member => known.contains member.1

def peerFields (members : List (String × Json)) (transaction : String) : Option (Text × Text) :=
  if onlyKeys members ["state", "remote_public_key", transaction] then
    ((uniqueMember members "remote_public_key").bind Json.asString).bind fun key =>
      ((uniqueMember members transaction).bind Json.asString).map fun value => (key, value)
  else none

def PeerState.fromJson (json : Json) : Option (PeerState Text Text) :=
  json.asObject.bind fun members =>
    ((uniqueMember members "state").bind Json.asString).bind fun state =>
      if state = "unpaired".toList then some .unpaired
      else if state = "pending".toList then
        (peerFields members "pairing_transaction_id").map fun names => .pending names.1 names.2
      else if state = "committing".toList then
        (peerFields members "pairing_transaction_id").map fun names => .committing names.1 names.2
      else if state = "paired".toList then
        (peerFields members "pairing_transaction_id").map fun names => .paired names.1 names.2
      else if state = "revoking".toList then
        (peerFields members "previous_pairing_transaction_id").map fun names =>
          .revoking names.1 names.2
      else none

def Identity.fromJson (json : Json) : Option Identity :=
  json.asObject.bind fun members =>
    if onlyKeys members
        ["schema_major", "local_private_key", "local_public_key", "generation", "peer"] then
      ((uniqueMember members "schema_major").bind (Json.asUnsigned 255)).bind fun schemaMajor =>
      ((uniqueMember members "local_private_key").bind Json.asString).bind fun localPrivateKey =>
      ((uniqueMember members "local_public_key").bind Json.asString).bind fun localPublicKey =>
      ((uniqueMember members "generation").bind (Json.asUnsigned Checked.u64Max)).bind
        fun generation =>
      ((uniqueMember members "peer").bind PeerState.fromJson).map fun peer =>
        { schemaMajor, localPrivateKey, localPublicKey, generation, peer }
    else none

def validatePeer : PeerState Text Text → Bool
  | .unpaired => true
  | .pending key transaction | .committing key transaction | .paired key transaction
  | .revoking key transaction => validateHex key 32 && validateHex transaction 16

namespace Identity

variable {γ : Type*} (platform : Platform γ)

/-- The checks on a record that was read. -/
def valid (identity : Identity) : Bool :=
  decide (identity.schemaMajor = 1) &&
    validateHex identity.localPrivateKey 32 && validateHex identity.localPublicKey 32 &&
    (match decodeHex identity.localPrivateKey, decodeHex identity.localPublicKey with
    | some localPrivate, some localPublic =>
        decide (platform.publicKey localPrivate = localPublic)
    | _, _ => false) &&
    validatePeer identity.peer

/-- What `read_unlocked` makes of the contents of the file. -/
def accept (contents : γ) : Except StoreError Identity :=
  match platform.parse contents with
  | none => .error .invalid
  | some json =>
      if validateIdentityJsonShape json then
        match Identity.fromJson json with
        | none => .error .invalid
        | some identity => if identity.valid platform then .ok identity else .error .invalid
      else .error .invalid

/-- The contents a publication writes. -/
def encode (identity : Identity) : γ :=
  platform.print identity.toJson

/-! ## What is written is read back -/

theorem validateIdentityJsonShape_toJson (identity : Identity) :
    validateIdentityJsonShape identity.toJson = true := by
  obtain ⟨schemaMajor, localPrivateKey, localPublicKey, generation, peer⟩ := identity
  cases peer <;> rfl

theorem peer_fromJson_toJson (peer : PeerState Text Text) :
    PeerState.fromJson peer.toJson = some peer := by
  cases peer <;> rfl

theorem fromJson_toJson {identity : Identity} (schema : identity.schemaMajor ≤ 255)
    (bound : identity.generation ≤ Checked.u64Max) :
    Identity.fromJson identity.toJson = some identity := by
  obtain ⟨schemaMajor, localPrivateKey, localPublicKey, generation, peer⟩ := identity
  change ((Json.asUnsigned 255 (.integer (schemaMajor : ℤ))).bind fun schemaMajor =>
    (Json.asUnsigned Checked.u64Max (.integer (generation : ℤ))).bind fun generation =>
    (PeerState.fromJson peer.toJson).map fun peer =>
      Identity.mk schemaMajor localPrivateKey localPublicKey generation peer) = _
  have first : Json.asUnsigned 255 (.integer (schemaMajor : ℤ)) = some schemaMajor :=
    if_pos schema
  have second : Json.asUnsigned Checked.u64Max (.integer (generation : ℤ)) = some generation :=
    if_pos bound
  rw [first, second, peer_fromJson_toJson]
  rfl

/-- A valid record is read back as it was written. -/
theorem accept_encode {identity : Identity} (valid : identity.valid platform = true)
    (bound : identity.generation ≤ Checked.u64Max) :
    accept platform (identity.encode platform) = .ok identity := by
  have schema : identity.schemaMajor ≤ 255 := by
    simp only [Identity.valid, Bool.and_eq_true, decide_eq_true_eq] at valid
    omega
  simp [accept, encode, platform.parse_print, validateIdentityJsonShape_toJson,
    fromJson_toJson schema bound, valid]

end Identity

end Deskkin
