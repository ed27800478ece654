/-
# The Wi-Fi profile in three programs

The control script checks a profile and writes it as bytes, the provisioning
command checks the bytes before it stores them, and the loader checks them again
when it reads them back. Each has its own account of the layout, two counted
strings, an address and a port, and of the rules for the values. Slices that are
cut out of range panic.
-/

import Deskkin.Lib.Fallible
import Deskkin.Nvs.Commands

namespace Deskkin.Device

open BigEndian

/-! ## The script -/

/-- A code point of a Python string; surrogates can stand alone. -/
inductive CodePoint
  | scalar (c : Char)
  | surrogate (value : ℕ)
  deriving DecidableEq

abbrev PyStr := List CodePoint

/-- What a decoded JSON text can be, as far as the script looks at it. A number
stands for integers, Booleans and finite floats, which compare with integers. -/
inductive PyObject
  | str (value : PyStr)
  | number (value : ℚ)
  | dict (entries : List (String × PyObject))
  | other

def CodePoint.utf8 : CodePoint → Option (List UInt8)
  | .scalar c => some (String.utf8EncodeChar c)
  | .surrogate _ => none

def CodePoint.ascii : CodePoint → Option UInt8
  | .scalar c => if c.toNat < 128 then some (UInt8.ofNat c.toNat) else none
  | .surrogate _ => none

def encodeUtf8 (text : PyStr) : Option (List UInt8) := (text.mapM CodePoint.utf8).map List.flatten

def encodeAscii (text : PyStr) : Option (List UInt8) := text.mapM CodePoint.ascii

/-- One part of a dotted address: up to three decimal digits without a leading zero. -/
def parseOctet (text : PyStr) : Option UInt8 := do
  let bytes ← encodeAscii text
  if bytes = [] ∨ bytes.any (fun byte => byte < 48 || 57 < byte) ∨ 3 < bytes.length ∨
      (bytes ≠ [48] ∧ bytes.head? = some 48) then
    none
  else
    let value := bytes.foldl (fun value byte => value * 10 + (byte.toNat - 48)) 0
    if 255 < value then none else some (UInt8.ofNat value)

/-- The four bytes of an `IPv4Address`. A text that is none may be another
address, which the script refuses as well. -/
def ipv4Address (text : PyStr) : Option (List UInt8) := do
  let octets := text.splitOn (.scalar '.')
  if octets.length ≠ 4 then none else octets.mapM parseOctet

/-- An address lies in the network of the given address and length. -/
def inNetwork (address : List UInt8) (network : List UInt8 × ℕ) : Bool :=
  ofBytes address / 2 ^ (32 - network.2) = ofBytes network.1 / 2 ^ (32 - network.2)

/-- The networks that `ipaddress` counts as private. -/
def privateNetworks : List (List UInt8 × ℕ) :=
  [([0, 0, 0, 0], 8), ([10, 0, 0, 0], 8), ([127, 0, 0, 0], 8), ([169, 254, 0, 0], 16),
    ([172, 16, 0, 0], 12), ([192, 0, 0, 0], 24), ([192, 0, 0, 170], 31), ([192, 0, 2, 0], 24),
    ([192, 168, 0, 0], 16), ([198, 18, 0, 0], 15), ([198, 51, 100, 0], 24),
    ([203, 0, 113, 0], 24), ([240, 0, 0, 0], 4), ([255, 255, 255, 255], 32)]

def privateNetworksExceptions : List (List UInt8 × ℕ) :=
  [([192, 0, 0, 9], 32), ([192, 0, 0, 10], 32)]

def isPrivate (address : List UInt8) : Bool :=
  privateNetworks.any (inNetwork address) && !privateNetworksExceptions.any (inNetwork address)

def isLinkLocal (address : List UInt8) : Bool := inNetwork address ([169, 254, 0, 0], 16)

def isLoopback (address : List UInt8) : Bool := inNetwork address ([127, 0, 0, 0], 8)

/-- The strings of a profile that was accepted. -/
structure Profile where
  ssid : PyStr
  password : PyStr
  hostIpv4 : PyStr

def profileKeys : List String := ["schema_version", "ssid", "password", "host_ipv4"]

/-- `validate_profile`; every kind of exception is none. -/
def validateProfile (value : PyObject) : Option Profile :=
  match value with
  | .dict entries =>
      if entries.all (fun entry => entry.1 ∈ profileKeys) ∧
          profileKeys.all (fun key => key ∈ entries.map Prod.fst) then
        match entries.lookup "schema_version", entries.lookup "ssid", entries.lookup "password",
            entries.lookup "host_ipv4" with
        | some (.number version), some (.str ssidText), some (.str passwordText),
            some (.str hostText) => do
            if version ≠ 1 then none
            else
              let ssid ← encodeUtf8 ssidText
              let password ← encodeAscii passwordText
              let address ← ipv4Address hostText
              if ¬(1 ≤ ssid.length ∧ ssid.length ≤ 32) ∨
                  ¬(8 ≤ password.length ∧ password.length ≤ 63) then
                none
              else if password.any (fun byte => byte < 0x20 || 0x7e < byte) then
                none
              else if !isPrivate address || isLinkLocal address || isLoopback address then
                none
              else
                match address with
                | first :: second :: _ =>
                    if first = 10 ∨ (first = 172 ∧ 16 ≤ second ∧ second ≤ 31) ∨
                        (first = 192 ∧ second = 168) then
                      some ⟨ssidText, passwordText, hostText⟩
                    else none
                | _ => none
        | _, _, _, _ => none
      else none
  | _ => none

/-- One byte of a `bytearray`, which raises for larger values. -/
def bytearrayByte (value : ℕ) : Option UInt8 :=
  if value < 256 then some (UInt8.ofNat value) else none

def wifiPayload (value : PyObject) : Option (List UInt8) := do
  let validated ← validateProfile value
  let ssid ← encodeUtf8 validated.ssid
  let password ← encodeUtf8 validated.password
  let address ← ipv4Address validated.hostIpv4
  let ssidLength ← bytearrayByte ssid.length
  let passwordLength ← bytearrayByte password.length
  return [ssidLength] ++ ssid ++ [passwordLength] ++ password ++ address ++ toBytes 2 39042

/-! ## The firmware -/

/-- How a function of the firmware ends without a value. -/
inductive Fault (ε : Type)
  | failed (error : ε)
  | panicked
  deriving DecidableEq

section Slices

variable {ε : Type}

def splitAt (bytes : List UInt8) (mid : ℕ) : Except (Fault ε) (List UInt8 × List UInt8) :=
  if mid ≤ bytes.length then .ok (bytes.take mid, bytes.drop mid) else .error .panicked

def byteAt (bytes : List UInt8) (index : ℕ) : Except (Fault ε) UInt8 :=
  match bytes[index]? with
  | some byte => .ok byte
  | none => .error .panicked

def sliceFrom (bytes : List UInt8) (start : ℕ) : Except (Fault ε) (List UInt8) :=
  if start ≤ bytes.length then .ok (bytes.drop start) else .error .panicked

/-- `copy_from_slice` into as many bytes at the start of a buffer. -/
def copyFromSlice (buffer bytes : List UInt8) : Except (Fault ε) (List UInt8) :=
  if bytes.length ≤ buffer.length then .ok (bytes ++ buffer.drop bytes.length)
  else .error .panicked

end Slices

/-- The checks of the provisioning command, with the profile they read. -/
def provisionConfig : List UInt8 → Except (Fault ServiceStatus) WifiConfig
  | [] => .error (.failed .invalid)
  | ssidLength :: remaining =>
      let ssidLength := ssidLength.toNat
      if remaining.length < ssidLength + 1 then .error (.failed .invalid)
      else do
        let (ssid, remaining) ← splitAt remaining ssidLength
        let passwordLength := (← byteAt remaining 0).toNat
        let remaining ← sliceFrom remaining 1
        if remaining.length ≠ passwordLength + 6 then .error (.failed .invalid)
        else do
          let (password, tail) ← splitAt remaining passwordLength
          let hostIpv4 ← [0, 1, 2, 3].mapM (byteAt tail)
          let config : WifiConfig := ⟨ssid, password, hostIpv4⟩
          if config.validate = false then .error (.failed .invalid)
          else do
            let port ← [4, 5].mapM (byteAt tail)
            if ofBytes port ≠ 39042 then .error (.failed .invalid) else .ok config

/-- The profile as the worker holds it, two buffers with lengths of their own. -/
structure StoredConfig where
  ssid : List UInt8
  ssidLength : UInt8
  passphrase : List UInt8
  passphraseLength : UInt8
  host : List UInt8
  deriving DecidableEq

/-- The bytes of a buffer that count. -/
def StoredConfig.ssidBytes (config : StoredConfig) : List UInt8 :=
  config.ssid.take config.ssidLength.toNat

def StoredConfig.passphraseBytes (config : StoredConfig) : List UInt8 :=
  config.passphrase.take config.passphraseLength.toNat

/-- The loader's account of the payload of a record. -/
def loadPayload : List UInt8 → Except (Fault SessionFailure) StoredConfig
  | [] => .error (.failed .store)
  | ssidLength :: rest =>
      if rest.length < ssidLength.toNat + 1 then .error (.failed .store)
      else do
        let (ssid, rest) ← splitAt rest ssidLength.toNat
        let passphraseLength ← byteAt rest 0
        let rest ← sliceFrom rest 1
        if rest.length ≠ passphraseLength.toNat + 6 then .error (.failed .store)
        else do
          let (passphrase, tail) ← splitAt rest passphraseLength.toNat
          let host ← [0, 1, 2, 3].mapM (byteAt tail)
          let config : WifiConfig := ⟨ssid, passphrase, host⟩
          if config.validate = false then .error (.failed .store)
          else do
            let port ← [4, 5].mapM (byteAt tail)
            if ofBytes port ≠ 39042 then .error (.failed .store)
            else do
              let ssidBuffer ← copyFromSlice (List.replicate 32 0) ssid
              let passphraseBuffer ← copyFromSlice (List.replicate 63 0) passphrase
              return ⟨ssidBuffer, ssidLength, passphraseBuffer, passphraseLength, host⟩

/-- The stored profile and whether the device says that there is one. -/
structure ConfigStore where
  config : Namespace
  configPresent : Bool
  deriving DecidableEq

/-- The record that the provisioning command publishes. -/
def publishConfig (payload : List UInt8) : Flash Unit := do
  let found ← Durable.read canonicalRecord
  let current := found.elim 0 RecordRef.publicationSequence
  publishRecord current 1 .configPresent payload

/-- The provisioning command; none when it panics. -/
def Worker.wifiProvision (payload : List UInt8) (store : ConfigStore) :
    Option (ServiceStatus × ConfigStore) :=
  match provisionConfig payload with
  | .error .panicked => none
  | .error (.failed status) => some (status, store)
  | .ok _ =>
      let outcome := (publishConfig payload).run store.config
      let status := statusOf outcome
      let store := { store with config := outcome.final }
      if status = .success then some (status, { store with configPresent := true })
      else some (status, store)

/-- The profile that the worker loads when it connects. -/
def Worker.loadConfig (ns : Namespace) : Except (Fault SessionFailure) StoredConfig :=
  match canonicalRecord ns with
  | .error _ => .error (.failed .store)
  | .ok none => .error (.failed .store)
  | .ok (some record) =>
      if record.state ≠ .configPresent then .error (.failed .store)
      else loadPayload record.payload

end Deskkin.Device
