/-
# Provisioning agrees from end to end

The layout of a profile is written down once, as the bytes of a profile. The two
accounts of the firmware both accept exactly the bytes of a valid profile and
never panic, and the script produces such bytes from every value it accepts.
-/

import Deskkin.Device.ControlFrame
import Deskkin.Nvs.History
import Deskkin.Nvs.WifiProfile

namespace Deskkin.Device

open BigEndian

/-! ## The layout -/

/-- The bytes of a profile. -/
def WifiConfig.wire (config : WifiConfig) : List UInt8 :=
  UInt8.ofNat config.ssid.length :: (config.ssid ++
    UInt8.ofNat config.passphrase.length :: (config.passphrase ++
      (config.hostIpv4 ++ toBytes 2 hostPort)))

/-- The bounds of a valid profile. -/
structure WifiConfig.Bounded (config : WifiConfig) : Prop where
  ssid : 1 ≤ config.ssid.length ∧ config.ssid.length ≤ 32
  passphrase : 8 ≤ config.passphrase.length ∧ config.passphrase.length ≤ 63
  host : config.hostIpv4.length = 4

variable {config : WifiConfig} {payload : List UInt8} {found : Option RecordRef} {ns : Namespace}

theorem WifiConfig.bounded_of_validate (valid : config.validate = true) : config.Bounded := by
  simp only [WifiConfig.validate, decide_eq_true_eq] at valid
  obtain ⟨ssidLow, ssidHigh, passphraseLow, passphraseHigh, -, private_host⟩ := valid
  have host : config.hostIpv4.length = 4 := by
    unfold isRfc1918 at private_host
    split at private_host
    · rename_i split
      rw [split]
      rfl
    · cases private_host
  exact ⟨⟨ssidLow, ssidHigh⟩, ⟨passphraseLow, passphraseHigh⟩, host⟩

/-- The bytes of a valid profile are read back. -/
theorem parseConfig_wire (valid : config.validate = true) :
    parseConfig config.wire = some config := by
  have bounded := WifiConfig.bounded_of_validate valid
  have ssid : (UInt8.ofNat config.ssid.length).toNat = config.ssid.length :=
    UInt8.toNat_ofNat_of_lt' (by have := bounded.ssid.2; simp only [UInt8.size]; omega)
  have passphrase : (UInt8.ofNat config.passphrase.length).toNat = config.passphrase.length :=
    UInt8.toNat_ofNat_of_lt' (by have := bounded.passphrase.2; simp only [UInt8.size]; omega)
  have address : (config.hostIpv4 ++ toBytes 2 hostPort).take 4 = config.hostIpv4 :=
    List.take_left' bounded.host
  have port : (config.hostIpv4 ++ toBytes 2 hostPort).drop 4 = toBytes 2 hostPort :=
    List.drop_left' bounded.host
  have value : ofBytes (toBytes 2 hostPort) = hostPort := ofBytes_toBytes (by decide)
  rw [WifiConfig.wire, parseConfig, ssid, List.drop_left]
  simp only [passphrase, List.drop_left, List.take_left, address, port, value]
  rw [if_pos ⟨by simp [bounded.host], valid, trivial⟩]

/-- What is read is valid and stands in the bytes. -/
theorem wire_of_parseConfig (parsed : parseConfig payload = some config) :
    config.validate = true ∧ payload = config.wire := by
  cases payload with
  | nil => cases parsed
  | cons ssidLength remaining =>
      rw [parseConfig] at parsed
      cases behind : remaining.drop ssidLength.toNat with
      | nil => rw [behind] at parsed; cases parsed
      | cons passphraseLength rest =>
          rw [behind] at parsed
          simp only [Option.ite_none_right_eq_some, Option.some.injEq] at parsed
          obtain ⟨⟨length, valid, port⟩, rfl⟩ := parsed
          refine ⟨valid, ?_⟩
          have tail : rest.drop passphraseLength.toNat =
              (rest.drop passphraseLength.toNat).take 4 ++ toBytes 2 hostPort := by
            have bytes : toBytes 2 (ofBytes ((rest.drop passphraseLength.toNat).drop 4)) =
                (rest.drop passphraseLength.toNat).drop 4 :=
              toBytes_ofBytes (by simp only [List.length_drop]; omega)
            rw [← port, bytes, List.take_append_drop]
          have passphrase : rest = rest.take passphraseLength.toNat ++
              rest.drop passphraseLength.toNat := (List.take_append_drop _ _).symm
          have inside : ssidLength.toNat ≤ remaining.length := by
            have size := congrArg List.length behind
            rw [List.length_drop, List.length_cons] at size
            omega
          have ssid : remaining = remaining.take ssidLength.toNat ++
              passphraseLength :: rest := by
            rw [← behind, List.take_append_drop]
          have first : (remaining.take ssidLength.toNat).length = ssidLength.toNat :=
            List.length_take_of_le inside
          have second : (rest.take passphraseLength.toNat).length = passphraseLength.toNat :=
            List.length_take_of_le (by omega)
          simp only [WifiConfig.wire, first, second, UInt8.ofNat_toNat]
          rw [← tail, ← passphrase, ← ssid]

/-- **One parse.** A payload holds a profile exactly when it is the bytes of a
valid one, and then of no other. -/
theorem parseConfig_eq_some_iff :
    parseConfig payload = some config ↔ config.validate = true ∧ payload = config.wire := by
  constructor
  · exact wire_of_parseConfig
  · rintro ⟨valid, rfl⟩
    exact parseConfig_wire valid

/-! ## Publishing over a readable store -/

/-- Both slots decode, to records no newer than the one that counts. -/
theorem selectSlot_bound {first second : Option (List UInt8)}
    (selected : selectSlot first second = .ok found) :
    ∃ left right, decodeSlot first = .ok left ∧ decodeSlot second = .ok right ∧
      sequenceOf left ≤ sequenceOf found ∧ sequenceOf right ≤ sequenceOf found := by
  rw [selectSlot] at selected
  split at selected
  · cases selected
  · cases selected
  · rename_i one two
    cases selected
    exact ⟨none, none, one, two, le_rfl, le_rfl⟩
  · rename_i value one two
    cases selected
    exact ⟨some value, none, one, two, le_rfl, Nat.zero_le _⟩
  · rename_i value one two
    cases selected
    exact ⟨none, some value, one, two, Nat.zero_le _, le_rfl⟩
  · rename_i left right one two
    refine ⟨some left, some right, one, two, ?_⟩
    simp only [sequenceOf, Option.elim_some]
    split_ifs at selected <;> cases selected <;> simp only [Option.elim_some] <;> omega

/-- A newer record written over a readable store is the record that counts. -/
theorem canonicalRecord_overwrite {record : RecordRef} (readable : canonicalRecord ns = .ok found)
    (fits : record.Fits) (newer : sequenceOf found < record.publicationSequence) :
    canonicalRecord { ns.overwrite record with intent := none } = .ok (some record) := by
  rw [canonicalRecord] at readable
  split at readable
  · cases readable
  · cases readable
  · split at readable
    · cases readable
    · cases readable
    · rename_i first second one two
      rw [Fallible.mapError_eq_ok_iff] at readable
      obtain ⟨left, right, oneDecoded, twoDecoded, leftOld, rightOld⟩ :=
        selectSlot_bound readable
      have written := readSlot_record fits
      by_cases odd : record.publicationSequence % 2 = 1
      · have chosen := selectSlot_newer_left fits twoDecoded (by omega)
        simp only [canonicalRecord, Namespace.overwrite, if_pos odd, readIntent, readSlot.eq_1,
          written, two, chosen, Fallible.mapError_ok]
      · have chosen := selectSlot_newer_right fits oneDecoded (by omega)
        simp only [canonicalRecord, Namespace.overwrite, if_neg odd, readIntent, readSlot.eq_1,
          written, one, chosen, Fallible.mapError_ok]

/-! ## The firmware reads the layout -/

/-- Behind a counted string there is nothing, or the byte that follows it. -/
theorem counted_cases (length : ℕ) (bytes : List UInt8) :
    (bytes.length < length + 1 ∧ bytes.drop length = []) ∨
      ∃ next rest, ¬bytes.length < length + 1 ∧ bytes.drop length = next :: rest := by
  cases behind : bytes.drop length with
  | nil =>
      have short := List.drop_eq_nil_iff.mp behind
      exact Or.inl ⟨by omega, rfl⟩
  | cons next rest =>
      have size := congrArg List.length behind
      rw [List.length_drop, List.length_cons] at size
      exact Or.inr ⟨next, rest, by omega, rfl⟩

/-- The last six bytes are the address and the port. -/
theorem six_of_length {bytes : List UInt8} {length : ℕ} (six : bytes.length = length + 6) :
    ∃ a b c d e f, bytes.drop length = [a, b, c, d, e, f] := by
  have size : (bytes.drop length).length = 6 := by
    rw [List.length_drop]
    omega
  match bytes.drop length, size with
  | [a, b, c, d, e, f], _ => exact ⟨a, b, c, d, e, f, rfl⟩

section Slices

variable {ε : Type}

theorem splitAt_of_le {bytes : List UInt8} {mid : ℕ} (inside : mid ≤ bytes.length) :
    (splitAt bytes mid : Except (Fault ε) _) = .ok (bytes.take mid, bytes.drop mid) :=
  if_pos inside

@[simp]
theorem byteAt_zero (first : UInt8) (rest : List UInt8) :
    (byteAt (first :: rest) 0 : Except (Fault ε) _) = .ok first :=
  rfl

@[simp]
theorem sliceFrom_one (first : UInt8) (rest : List UInt8) :
    (sliceFrom (first :: rest) 1 : Except (Fault ε) _) = .ok rest :=
  if_pos (by simp)

theorem address_bytes (a b c d e f : UInt8) :
    ([0, 1, 2, 3].mapM (byteAt [a, b, c, d, e, f]) : Except (Fault ε) _) = .ok [a, b, c, d] :=
  rfl

theorem port_bytes (a b c d e f : UInt8) :
    ([4, 5].mapM (byteAt [a, b, c, d, e, f]) : Except (Fault ε) _) = .ok [e, f] :=
  rfl

theorem copyFromSlice_of_le {size : ℕ} {bytes : List UInt8} (room : bytes.length ≤ size) :
    (copyFromSlice (List.replicate size 0) bytes : Except (Fault ε) _) =
      .ok (bytes ++ List.replicate (size - bytes.length) 0) := by
  rw [copyFromSlice, List.length_replicate, if_pos room, List.drop_replicate]

end Slices

/-- The provisioning command reads the profile in a payload. -/
theorem provisionConfig_eq (payload : List UInt8) :
    provisionConfig payload = (parseConfig payload).elim (.error (.failed .invalid)) .ok := by
  cases payload with
  | nil => rfl
  | cons ssidLength remaining =>
      rcases counted_cases ssidLength.toNat remaining with ⟨short, behind⟩ |
        ⟨passwordLength, rest, room, behind⟩
      · simp [provisionConfig, parseConfig, short, behind]
      · have fits : ssidLength.toNat ≤ remaining.length := by omega
        simp only [provisionConfig, parseConfig, if_neg room, splitAt_of_le fits, behind,
          Fallible.ok_bind, byteAt_zero, sliceFrom_one]
        by_cases length : rest.length = passwordLength.toNat + 6
        · obtain ⟨a, b, c, d, e, f, tail⟩ := six_of_length length
          have inside : passwordLength.toNat ≤ rest.length := by omega
          simp only [if_neg (not_not.mpr length), splitAt_of_le inside, tail, Fallible.ok_bind,
            address_bytes, port_bytes]
          cases valid : WifiConfig.validate ⟨remaining.take ssidLength.toNat,
            rest.take passwordLength.toNat, [a, b, c, d]⟩ <;>
            by_cases port : ofBytes [e, f] = 39042 <;> simp [valid, port, length, hostPort]
        · simp [length]

/-- A profile in the buffers of the worker. -/
def WifiConfig.stored (config : WifiConfig) : StoredConfig where
  ssid := config.ssid ++ List.replicate (32 - config.ssid.length) 0
  ssidLength := UInt8.ofNat config.ssid.length
  passphrase := config.passphrase ++ List.replicate (63 - config.passphrase.length) 0
  passphraseLength := UInt8.ofNat config.passphrase.length
  host := config.hostIpv4

/-- The loader reads the profile in a payload. -/
theorem loadPayload_eq (payload : List UInt8) :
    loadPayload payload =
      (parseConfig payload).elim (.error (.failed .store)) fun config => .ok config.stored := by
  cases payload with
  | nil => rfl
  | cons ssidLength rest =>
      rcases counted_cases ssidLength.toNat rest with ⟨short, behind⟩ |
        ⟨passphraseLength, after, room, behind⟩
      · simp [loadPayload, parseConfig, short, behind]
      · have fits : ssidLength.toNat ≤ rest.length := by omega
        simp only [loadPayload, parseConfig, if_neg room, splitAt_of_le fits, behind,
          Fallible.ok_bind, byteAt_zero, sliceFrom_one]
        by_cases length : after.length = passphraseLength.toNat + 6
        · obtain ⟨a, b, c, d, e, f, tail⟩ := six_of_length length
          have inside : passphraseLength.toNat ≤ after.length := by omega
          have ssid : (rest.take ssidLength.toNat).length = ssidLength.toNat :=
            List.length_take_of_le fits
          have passphrase : (after.take passphraseLength.toNat).length = passphraseLength.toNat :=
            List.length_take_of_le inside
          simp only [if_neg (not_not.mpr length), splitAt_of_le inside, tail, Fallible.ok_bind,
            address_bytes, port_bytes]
          cases valid : WifiConfig.validate ⟨rest.take ssidLength.toNat,
            after.take passphraseLength.toNat, [a, b, c, d]⟩ with
          | false => simp [valid]
          | true =>
              have bounded := WifiConfig.bounded_of_validate valid
              by_cases port : ofBytes [e, f] = 39042
              · rw [copyFromSlice_of_le bounded.ssid.2, copyFromSlice_of_le bounded.passphrase.2]
                simp [valid, port, length, hostPort, WifiConfig.stored, ssid, passphrase]
              · simp [valid, port, hostPort]
        · simp [length]

/-- A store that cannot be read is reported as such. -/
theorem storeFailed_of_canonicalRecord {status : ServiceStatus}
    (unreadable : canonicalRecord ns = .error status) : status = .storeFailed := by
  have slot : ∀ {stored : Option (List UInt8)} {capacity : ℕ} {status : ServiceStatus},
      readSlot stored capacity = .error status → status = .storeFailed := by
    intro stored capacity status failed
    cases stored with
    | none => cases failed
    | some bytes =>
        rw [readSlot] at failed
        split at failed <;> cases failed
        rfl
  rw [canonicalRecord] at unreadable
  split at unreadable
  · rename_i failed
    cases unreadable
    exact slot failed
  · cases unreadable
    rfl
  · split at unreadable
    · rename_i failed
      cases unreadable
      exact slot failed
    · rename_i failed
      cases unreadable
      exact slot failed
    · cases selected : selectSlot _ _ with
      | error error =>
          rw [selected] at unreadable
          cases unreadable
          rfl
      | ok found =>
          rw [selected] at unreadable
          cases unreadable

/-- The record of a profile after the record that counts. -/
def configRecord (found : Option RecordRef) (payload : List UInt8) : RecordRef :=
  ⟨sequenceOf found + 1, 1, .configPresent, payload⟩

theorem publishConfig_of_readable (readable : canonicalRecord ns = .ok found)
    (room : sequenceOf found < Checked.u64Max) (small : payload.length ≤ nvsPayloadMax) :
    ((publishConfig payload).run ns).result = .ok () ∧
      canonicalRecord ((publishConfig payload).run ns).final =
        .ok (some (configRecord found payload)) := by
  have fits : (configRecord found payload).Fits :=
    ⟨room, (by decide : 1 ≤ Checked.u64Max), small⟩
  have published := @publishRecord_of_fits _ fits (sequenceOf found) rfl ns
  rw [publishConfig, Durable.run_read_bind_of_ok _ readable]
  constructor
  · exact congrArg Durable.Outcome.result published
  · have final := congrArg Durable.Outcome.final published
    exact (congrArg canonicalRecord final).trans
      (canonicalRecord_overwrite readable fits (Nat.lt_succ_self _))

/-- Publishing a profile that fits is refused for the store only. -/
theorem publishConfig_status (small : payload.length ≤ nvsPayloadMax) (ns : Namespace) :
    statusOf ((publishConfig payload).run ns) ≠ .invalid := by
  cases readable : canonicalRecord ns with
  | error status =>
      rw [publishConfig, Durable.run_read_bind_of_error _ readable, statusOf,
        storeFailed_of_canonicalRecord readable]
      intro invalid
      cases invalid
  | ok found =>
      by_cases room : sequenceOf found < Checked.u64Max
      · rw [statusOf, (publishConfig_of_readable readable room small).1]
        intro invalid
        cases invalid
      · have exhausted := @publishRecord_exhausted (sequenceOf found) 1 .configPresent payload ns
          (not_lt.mp room)
        rw [sequenceOf] at exhausted
        rw [publishConfig, Durable.run_read_bind_of_ok _ readable, exhausted, statusOf]
        intro invalid
        cases invalid

/-! ## The script writes the layout -/

theorem encodeUtf8_cons (point : CodePoint) (rest : PyStr) :
    encodeUtf8 (point :: rest) =
      point.utf8.bind fun bytes => (encodeUtf8 rest).map (bytes ++ ·) := by
  rw [encodeUtf8, List.mapM_cons]
  cases point.utf8 with
  | none => rfl
  | some bytes =>
      rw [encodeUtf8]
      cases List.mapM CodePoint.utf8 rest <;> rfl

theorem encodeAscii_cons (point : CodePoint) (rest : PyStr) :
    encodeAscii (point :: rest) =
      point.ascii.bind fun byte => (encodeAscii rest).map (byte :: ·) := by
  rw [encodeAscii, List.mapM_cons]
  cases point.ascii with
  | none => rfl
  | some byte =>
      rw [encodeAscii]
      cases List.mapM CodePoint.ascii rest <;> rfl

theorem utf8_of_ascii {point : CodePoint} {byte : UInt8} (ascii : point.ascii = some byte) :
    point.utf8 = some [byte] := by
  cases point with
  | scalar c =>
      rw [CodePoint.ascii] at ascii
      split at ascii
      · rename_i small
        cases ascii
        have small : c.val.toNat ≤ 127 := Nat.le_of_lt_succ small
        rw [CodePoint.utf8, String.utf8EncodeChar, if_pos small]
        rfl
      · cases ascii
  | surrogate value => cases ascii

/-- ASCII text has the same bytes in both encodings. -/
theorem encodeUtf8_of_encodeAscii {text : PyStr} {bytes : List UInt8}
    (ascii : encodeAscii text = some bytes) : encodeUtf8 text = some bytes := by
  induction text generalizing bytes with
  | nil => exact ascii
  | cons point rest ih =>
      rw [encodeAscii_cons, Option.bind_eq_some_iff] at ascii
      obtain ⟨byte, first, others⟩ := ascii
      rw [Option.map_eq_some_iff] at others
      obtain ⟨behind, rest_bytes, rfl⟩ := others
      rw [encodeUtf8_cons, utf8_of_ascii first, Option.bind_some, ih rest_bytes]
      rfl

theorem length_of_mapM {α β : Type} {f : α → Option β} {items : List α} {values : List β}
    (mapped : items.mapM f = some values) : values.length = items.length := by
  induction items generalizing values with
  | nil =>
      cases mapped
      rfl
  | cons item rest ih =>
      rw [List.mapM_cons] at mapped
      simp only [Option.bind_eq_bind, Option.bind_eq_some_iff, Option.pure_def,
        Option.some.injEq] at mapped
      obtain ⟨value, -, others, behind, rfl⟩ := mapped
      rw [List.length_cons, List.length_cons, ih behind]

theorem length_of_ipv4Address {text : PyStr} {address : List UInt8}
    (parsed : ipv4Address text = some address) : address.length = 4 := by
  rw [ipv4Address] at parsed
  split at parsed
  · cases parsed
  · rename_i four
    rw [length_of_mapM parsed]
    exact not_not.mp four

section

variable {value : PyObject} {profile : Profile} (accepted : validateProfile value = some profile)
include accepted

/-- A value that the script accepts has the bytes of a valid profile. -/
theorem validateProfile_config :
    ∃ config : WifiConfig, encodeUtf8 profile.ssid = some config.ssid ∧
      encodeAscii profile.password = some config.passphrase ∧
      ipv4Address profile.hostIpv4 = some config.hostIpv4 ∧ config.validate = true := by
  unfold validateProfile at accepted
  split at accepted
  · split at accepted
    · split at accepted
      · split at accepted
        · cases accepted
        · simp only [Option.bind_eq_bind, Option.bind_eq_some_iff] at accepted
          obtain ⟨ssid, ssidBytes, password, passwordBytes, address, hostBytes, checks⟩ := accepted
          match address, length_of_ipv4Address hostBytes, hostBytes, checks with
          | [first, second, third, fourth], _, hostBytes, checks =>
              simp only [Option.ite_none_left_eq_some, Option.ite_none_right_eq_some,
                Option.some.injEq] at checks
              obtain ⟨lengths, printable, -, private_host, rfl⟩ := checks
              refine ⟨⟨ssid, password, [first, second, third, fourth]⟩, ssidBytes, passwordBytes,
                hostBytes, ?_⟩
              simp only [List.any_eq_true, Bool.or_eq_true, decide_eq_true_eq, not_exists,
                not_and, not_or, UInt8.not_lt] at printable
              simp only [WifiConfig.validate, isRfc1918, decide_eq_true_eq]
              exact ⟨by omega, by omega, by omega, by omega, printable, private_host⟩
      · cases accepted
    · cases accepted
  · cases accepted

/-- **The script.** Every profile that it accepts is written as the bytes of a
valid profile. -/
theorem wifiPayload_of_accepted :
    ∃ config : WifiConfig, encodeUtf8 profile.ssid = some config.ssid ∧
      encodeAscii profile.password = some config.passphrase ∧
      ipv4Address profile.hostIpv4 = some config.hostIpv4 ∧ config.validate = true ∧
      wifiPayload value = some config.wire := by
  obtain ⟨config, ssid, password, host, valid⟩ := validateProfile_config accepted
  have bounded := WifiConfig.bounded_of_validate valid
  refine ⟨config, ssid, password, host, valid, ?_⟩
  have ssidLength : bytearrayByte config.ssid.length = some (UInt8.ofNat config.ssid.length) :=
    if_pos (by have := bounded.ssid; omega)
  have passwordLength : bytearrayByte config.passphrase.length =
      some (UInt8.ofNat config.passphrase.length) :=
    if_pos (by have := bounded.passphrase; omega)
  rw [wifiPayload, accepted]
  simp only [Option.bind_eq_bind, Option.bind_some, ssid, encodeUtf8_of_encodeAscii password, host,
    ssidLength, passwordLength]
  simp [WifiConfig.wire, hostPort]

/-! ## From end to end -/

end

/-- A payload without a profile is refused and changes nothing. -/
theorem Worker.wifiProvision_of_none (unparsed : parseConfig payload = none) (store : ConfigStore) :
    Worker.wifiProvision payload store = some (.invalid, store) := by
  rw [Worker.wifiProvision, provisionConfig_eq, unparsed]
  rfl

/-- A payload with a profile is published. -/
theorem Worker.wifiProvision_of_some (parsed : parseConfig payload = some config)
    (store : ConfigStore) :
    Worker.wifiProvision payload store =
      some (statusOf ((publishConfig payload).run store.config),
        ⟨((publishConfig payload).run store.config).final,
          statusOf ((publishConfig payload).run store.config) = .success ||
            store.configPresent⟩) := by
  rw [Worker.wifiProvision, provisionConfig_eq, parsed]
  by_cases success : statusOf ((publishConfig payload).run store.config) = .success
  · simp [success]
  · simp [success]

/-- The command of the flash model is the command of the worker. -/
theorem wifiProvision_eq (parsed : parseConfig payload = some config) :
    wifiProvision payload = publishConfig payload := by
  rw [wifiProvision, parsed]
  rfl

/-- The loader of the flash model sees what the worker loads. -/
theorem loadConfig_worker (ns : Namespace) :
    Worker.loadConfig ns =
      (loadConfig ns).elim (.error (.failed .store)) fun config => .ok config.stored := by
  rw [Worker.loadConfig, loadConfig]
  cases canonicalRecord ns with
  | error status => rfl
  | ok found =>
      cases found with
      | none => rfl
      | some record =>
          cases record with
          | mk sequence generation state payload =>
              cases state with
              | configPresent => exact loadPayload_eq payload
              | identity peer => rfl
              | configCleared => rfl

theorem WifiConfig.ssidBytes_stored (bounded : config.Bounded) :
    config.stored.ssidBytes = config.ssid := by
  have length : (UInt8.ofNat config.ssid.length).toNat = config.ssid.length :=
    UInt8.toNat_ofNat_of_lt' (by have := bounded.ssid; simp only [UInt8.size]; omega)
  rw [StoredConfig.ssidBytes, WifiConfig.stored, length, List.take_left]

theorem WifiConfig.passphraseBytes_stored (bounded : config.Bounded) :
    config.stored.passphraseBytes = config.passphrase := by
  have length : (UInt8.ofNat config.passphrase.length).toNat = config.passphrase.length :=
    UInt8.toNat_ofNat_of_lt' (by have := bounded.passphrase; simp only [UInt8.size]; omega)
  rw [StoredConfig.passphraseBytes, WifiConfig.stored, length, List.take_left]

/-- A valid profile is stored and loaded again. -/
theorem provision_and_load (valid : config.validate = true) {store : ConfigStore}
    (readable : canonicalRecord store.config = .ok found)
    (room : sequenceOf found < Checked.u64Max) :
    ∃ later, Worker.wifiProvision config.wire store = some (.success, later) ∧
      later.configPresent = true ∧ Worker.loadConfig later.config = .ok config.stored := by
  have parsed := parseConfig_wire valid
  have small : config.wire.length ≤ nvsPayloadMax :=
    (length_of_parseConfig parsed).trans (by decide)
  obtain ⟨result, written⟩ := publishConfig_of_readable readable room small
  have success : statusOf ((publishConfig config.wire).run store.config) = .success := by
    rw [statusOf, result]
  refine ⟨_, Worker.wifiProvision_of_some parsed store |>.trans (by rw [success]), ?_, ?_⟩
  · rfl
  · rw [Worker.loadConfig, written]
    have loaded := loadPayload_eq config.wire
    rw [parsed] at loaded
    exact loaded

/-- **Provisioning agrees.** Every profile of the script fits into a control
payload; a readable store with room for one more publication takes it, and the
loader returns its strings and its address. The provisioning command refuses
exactly the payloads that the loader would refuse, without a change; any other
payload holds one profile, which both of them read. -/
theorem wifi_provisioning_agrees :
    (∀ value profile, validateProfile value = some profile →
      ∃ ssid passphrase address payload, encodeUtf8 profile.ssid = some ssid ∧
        encodeAscii profile.password = some passphrase ∧
        ipv4Address profile.hostIpv4 = some address ∧ wifiPayload value = some payload ∧
        payload.length ≤ controlPayloadMax ∧
        ∀ store found, canonicalRecord store.config = .ok found →
          sequenceOf found < Checked.u64Max →
          ∃ later stored, Worker.wifiProvision payload store = some (.success, later) ∧
            later.configPresent = true ∧ Worker.loadConfig later.config = .ok stored ∧
            stored.ssidBytes = ssid ∧ stored.passphraseBytes = passphrase ∧
            stored.host = address) ∧
    ∀ payload store,
      ((∃ status later, Worker.wifiProvision payload store = some (status, later) ∧
          status ≠ .invalid) ↔ ∃ stored, loadPayload payload = .ok stored) ∧
      ((¬∃ stored, loadPayload payload = .ok stored) →
        Worker.wifiProvision payload store = some (.invalid, store)) ∧
      ((∃ stored, loadPayload payload = .ok stored) →
        ∃ config : WifiConfig, config.validate = true ∧ payload = config.wire ∧
          provisionConfig payload = .ok config ∧ loadPayload payload = .ok config.stored ∧
          ∀ other : WifiConfig, other.validate = true → payload = other.wire → other = config) := by
  constructor
  · intro value profile accepted
    obtain ⟨config, ssid, password, host, valid, payload⟩ := wifiPayload_of_accepted accepted
    have bounded := WifiConfig.bounded_of_validate valid
    have small := length_of_parseConfig (parseConfig_wire valid)
    refine ⟨config.ssid, config.passphrase, config.hostIpv4, config.wire, ssid, password, host,
      payload, small.trans (by decide), fun store found readable room => ?_⟩
    obtain ⟨later, success, present, loaded⟩ := provision_and_load valid readable room
    exact ⟨later, config.stored, success, present, loaded, WifiConfig.ssidBytes_stored bounded,
      WifiConfig.passphraseBytes_stored bounded, rfl⟩
  · intro payload store
    have loads := loadPayload_eq payload
    cases parsed : parseConfig payload with
    | none =>
        rw [parsed] at loads
        have refused := Worker.wifiProvision_of_none parsed store
        have none_stored : ¬∃ stored, loadPayload payload = .ok stored := by
          rintro ⟨stored, loaded⟩
          rw [loads] at loaded
          cases loaded
        refine ⟨⟨?_, fun accepted => absurd accepted none_stored⟩, fun _ => refused,
          fun accepted => absurd accepted none_stored⟩
        rintro ⟨status, later, ran, valid⟩
        rw [refused] at ran
        cases ran
        exact absurd rfl valid
    | some config =>
        rw [parsed] at loads
        have stored : ∃ stored, loadPayload payload = .ok stored := ⟨config.stored, loads⟩
        have small : payload.length ≤ nvsPayloadMax :=
          (length_of_parseConfig parsed).trans (by decide)
        obtain ⟨valid, wire⟩ := wire_of_parseConfig parsed
        refine ⟨⟨fun _ => stored, fun _ => ⟨_, _, Worker.wifiProvision_of_some parsed store,
          publishConfig_status small store.config⟩⟩, fun refused => absurd stored refused,
          fun _ => ⟨config, valid, wire, ?_, loads, fun other otherValid same => ?_⟩⟩
        · rw [provisionConfig_eq, parsed]
          rfl
        · have again := parseConfig_eq_some_iff.mpr ⟨otherValid, same⟩
          rw [parsed] at again
          cases again
          rfl

/-! ## A store without room -/

/-- A profile that the script accepts. -/
def sampleProfile : PyObject :=
  .dict [("schema_version", .number 1), ("ssid", .str [.scalar 'a']),
    ("password", .str (List.replicate 8 (.scalar 'p'))),
    ("host_ipv4", .str ("10.0.0.1".toList.map .scalar))]

/-- The last record that the sequence has room for. -/
def lastRecord : RecordRef := ⟨Checked.u64Max, 1, .configCleared, []⟩

def exhaustedStore : ConfigStore := ⟨⟨some lastRecord.bytes, none, none⟩, false⟩

/-- A readable store at the end of its sequence takes no profile. -/
theorem exhausted_store_refuses :
    ¬∀ value profile, validateProfile value = some profile → ∃ payload,
      wifiPayload value = some payload ∧ ∀ store found, canonicalRecord store.config = .ok found →
        ∃ later, Worker.wifiProvision payload store = some (.success, later) := by
  intro claimed
  have accepted : ∃ profile, validateProfile sampleProfile = some profile := by
    rw [← Option.isSome_iff_exists]
    decide +kernel
  obtain ⟨profile, accepted⟩ := accepted
  obtain ⟨payload, written, takes⟩ := claimed sampleProfile profile accepted
  obtain ⟨config, -, -, -, valid, wire⟩ := wifiPayload_of_accepted accepted
  rw [wire, Option.some.injEq] at written
  subst written
  have fits : lastRecord.Fits := ⟨le_rfl, by decide, by decide⟩
  have readable : canonicalRecord exhaustedStore.config = .ok (some lastRecord) := by
    have selected := selectSlot_only_left fits
    simp only [canonicalRecord, exhaustedStore, readIntent, readSlot.eq_1, readSlot_record fits,
      selected, Fallible.mapError_ok]
  obtain ⟨later, success⟩ := takes exhaustedStore (some lastRecord) readable
  have exhausted := @publishRecord_exhausted Checked.u64Max 1 .configPresent config.wire
    exhaustedStore.config le_rfl
  have failed : statusOf ((publishConfig config.wire).run exhaustedStore.config) =
      .storeFailed := by
    rw [publishConfig, Durable.run_read_bind_of_ok _ readable]
    exact congrArg statusOf exhausted
  rw [Worker.wifiProvision_of_some (parseConfig_wire valid), failed] at success
  cases success

end Deskkin.Device
