/-
# Setting up the device and losses of power

Initialising the identity, provisioning a Wi-Fi profile and clearing it each
publish one record. None of them deals with the intent of an interrupted
publication, so a loss of power before the intent is deleted makes the command,
and every other on its namespace, fail for ever.
-/

import Deskkin.Nvs.History

namespace Deskkin.Device

/-- The commands that set the device up. -/
inductive Setup
  | identityInit
  | wifiProvision (payload : List UInt8)
  | wifiClear
  deriving DecidableEq

namespace Setup

def frame (ownerGeneration : ℕ) : Setup → ControlFrame
  | identityInit => ⟨.identityInit, ownerGeneration, []⟩
  | wifiProvision payload => ⟨.wifiProvision, ownerGeneration, payload⟩
  | wifiClear => ⟨.wifiClear, ownerGeneration, []⟩

/-- The namespace of a command. -/
def part (nvs : Nvs) : Setup → Namespace
  | identityInit => nvs.identity
  | wifiProvision _ => nvs.config
  | wifiClear => nvs.config

def put (nvs : Nvs) (ns : Namespace) : Setup → Nvs
  | identityInit => nvs.withIdentity ns
  | wifiProvision _ => nvs.withConfig ns
  | wifiClear => nvs.withConfig ns

def flash (keypair : Option KeyPair) : Setup → Flash Unit
  | identityInit => Device.identityInit keypair
  | wifiProvision payload => Device.wifiProvision payload
  | wifiClear => clearConfig

/-! ## Requests and what they are to achieve -/

/-- A command with the owner generation the device reports. -/
def request (keypair : Option KeyPair) (setup : Setup) (nvs : Nvs) :
    Durable.Outcome NvsStep Nvs ServiceStatus Unit :=
  (handleControl keypair (setup.frame nvs.ownerGeneration)).run nvs

/-- Flash after so many repetitions of a command. The first attempt was the
interrupted one; each attempt draws its own key pair. -/
def repeated (draws : ℕ → Option KeyPair) (setup : Setup) (nvs : Nvs) : ℕ → Nvs
  | 0 => nvs
  | repetitions + 1 =>
      (setup.request (draws (repetitions + 1)) (repeated draws setup nvs repetitions)).final

/-- The command is done. An initialisation that finds an identity is done too. -/
def accepted : Setup → ServiceStatus → Bool
  | identityInit, status => status = .success ∨ status = .alreadyInitialized
  | _, status => status = .success

/-- What the command stored, in one of the attempts, is what is loaded. -/
def Stored (draws : ℕ → Option KeyPair) (attempts : ℕ) (nvs : Nvs) : Setup → Prop
  | identityInit => ∃ attempt ≤ attempts, ∃ keypair, draws attempt = some keypair ∧
      loadIdentity nvs.identity = some ⟨1, 1, .unpaired, keypair.payload⟩
  | wifiProvision payload => ∃ config, parseConfig payload = some config ∧
      loadConfig nvs.config = some config
  | wifiClear => ∃ record, canonicalRecord nvs.config = .ok (some record) ∧
      record.state = .configCleared

/-- Some repetition succeeds and its value is loaded. -/
def Recovers (draws : ℕ → Option KeyPair) (setup : Setup) (nvs : Nvs) : Prop :=
  ∃ repetitions,
    setup.accepted (statusOf (setup.request (draws (repetitions + 1))
      (setup.repeated draws nvs repetitions))) = true ∧
    setup.Stored draws (repetitions + 1) (setup.repeated draws nvs (repetitions + 1))

/-- The sequence of the record that counts, zero where there is none. -/
def sequence (setup : Setup) (nvs : Nvs) : ℕ :=
  match canonicalRecord (setup.part nvs) with
  | .ok (some record) => record.publicationSequence
  | _ => 0

/-! ## What a command does to a history -/

/-- The record that a command publishes after a history. -/
def record (keypair : Option KeyPair) : Setup → List RecordRef → Option RecordRef
  | identityInit, [] => keypair.map fun keypair => ⟨1, 1, .identity .unpaired, keypair.payload⟩
  | identityInit, _ :: _ => none
  | wifiProvision payload, history =>
      (parseConfig payload).map fun _ => ⟨history.length + 1, 1, .configPresent, payload⟩
  | wifiClear, [] => none
  | wifiClear, newest :: older =>
      some ⟨(newest :: older).length + 1, newest.generation, .configCleared, []⟩

variable {keypair : Option KeyPair} {setup : Setup} {history : List RecordRef} {next : RecordRef}

section

variable (published : Published history)
include published

theorem published_record (room : history.length + 1 ≤ Checked.u64Max)
    (publishes : setup.record keypair history = some next) : Published (next :: history) := by
  have one : 1 ≤ Checked.u64Max := by decide
  cases setup with
  | identityInit =>
      cases history with
      | cons newest older => cases publishes
      | nil =>
          obtain ⟨keypair, -, rfl⟩ := Option.map_eq_some_iff.mp publishes
          refine ⟨⟨one, one, ?_⟩, rfl, trivial⟩
          simp [KeyPair.payload, keypair.private_length, keypair.public_length, nvsPayloadMax]
  | wifiProvision payload =>
      obtain ⟨config, parsed, rfl⟩ := Option.map_eq_some_iff.mp publishes
      have small := length_of_parseConfig parsed
      exact ⟨⟨room, one, by simp only [nvsPayloadMax]; omega⟩, rfl, published⟩
  | wifiClear =>
      cases history with
      | nil => cases publishes
      | cons newest older =>
          cases publishes
          exact ⟨⟨room, published.1.generation, Nat.zero_le _⟩, rfl, published⟩

/-- A command reads the newest record and then publishes or refuses. -/
theorem flash_holding (publishes : setup.record keypair history = some next) :
    (setup.flash keypair).run (.holding history none) =
      (publishRecord history.length next.generation next.state next.payload).run
        (.holding history none) := by
  have readable := canonicalRecord_holding published
  cases setup with
  | identityInit =>
      cases history with
      | cons newest older => cases publishes
      | nil =>
          obtain ⟨keypair, rfl, rfl⟩ := Option.map_eq_some_iff.mp publishes
          rw [flash, Device.identityInit, Durable.run_read_bind_of_ok _ readable]
          rfl
  | wifiProvision payload =>
      obtain ⟨config, parsed, rfl⟩ := Option.map_eq_some_iff.mp publishes
      have length : history.head?.elim 0 RecordRef.publicationSequence = history.length := by
        cases history with
        | nil => rfl
        | cons newest older => exact published.2.1
      simp only [flash, Device.wifiProvision, parsed]
      rw [Durable.run_read_bind_of_ok _ readable, length]
  | wifiClear =>
      cases history with
      | nil => cases publishes
      | cons newest older =>
          cases publishes
          rw [flash, clearConfig, Durable.run_read_bind_of_ok _ readable]
          simp only [List.head?_cons, published.2.1, List.length_cons]

/-- **A command publishes its record.** -/
theorem flash_publishes (room : history.length + 1 ≤ Checked.u64Max)
    (publishes : setup.record keypair history = some next) :
    (setup.flash keypair).run (.holding history none) =
      ⟨.ok (), .holding (next :: history) none, publication next history⟩ := by
  rw [flash_holding published publishes]
  exact publishRecord_holding (published_record published room publishes)

/-- There is no sequence for the record. -/
theorem flash_exhausted (full : Checked.u64Max ≤ history.length)
    (publishes : setup.record keypair history = some next) :
    (setup.flash keypair).run (.holding history none) =
      ⟨.error .storeFailed, .holding history none, []⟩ := by
  rw [flash_holding published publishes]
  exact publishRecord_exhausted full

/-- A command without a record to publish writes nothing. -/
theorem flash_refused (refused : setup.record keypair history = none) :
    ((setup.flash keypair).run (.holding history none)).trail = [] := by
  have readable := canonicalRecord_holding published
  cases setup with
  | identityInit =>
      simp only [flash, Device.identityInit]
      rw [Durable.run_read_bind_of_ok _ readable]
      cases history with
      | cons newest older => rfl
      | nil =>
          rw [record, Option.map_eq_none_iff] at refused
          rw [refused]
          rfl
  | wifiProvision payload =>
      rw [record, Option.map_eq_none_iff] at refused
      simp [flash, Device.wifiProvision, refused]
  | wifiClear =>
      cases history with
      | cons newest older => cases refused
      | nil =>
          rw [flash, clearConfig, Durable.run_read_bind_of_ok _ readable]
          rfl

end

/-- **No command gets past an intent.** -/
theorem flash_intent (keypair : Option KeyPair) (setup : Setup) (history : List RecordRef)
    (sequence : ℕ) :
    ∃ status, setup.accepted status = false ∧
      (setup.flash keypair).run (.holding history (some sequence)) =
        ⟨.error status, .holding history (some sequence), []⟩ := by
  have refused := canonicalRecord_intent history sequence
  cases setup with
  | identityInit => exact ⟨.storeFailed, rfl, Durable.run_read_bind_of_error _ refused⟩
  | wifiProvision payload =>
      cases parsed : parseConfig payload with
      | none =>
          refine ⟨.invalid, rfl, ?_⟩
          simp [flash, Device.wifiProvision, parsed]
      | some config =>
          refine ⟨.storeFailed, rfl, ?_⟩
          simp only [flash, Device.wifiProvision, parsed]
          exact Durable.run_read_bind_of_error _ refused
  | wifiClear => exact ⟨.storeFailed, rfl, Durable.run_read_bind_of_error _ refused⟩

/-! ## Requests on the device -/

variable {nvs : Nvs} {ns : Namespace} {draws : ℕ → Option KeyPair}

/-- A request runs the command on its namespace. -/
theorem request_eq (keypair : Option KeyPair) (setup : Setup) (nvs : Nvs) :
    setup.request keypair nvs =
      let outcome := (setup.flash keypair).run (setup.part nvs)
      ⟨outcome.result, setup.put nvs outcome.final,
        outcome.trail.map fun entry => (entry.1, setup.put nvs entry.2)⟩ := by
  cases setup with
  | identityInit =>
      rw [request, handleControl, Durable.run_reads_bind]
      simp [frame]
      rfl
  | wifiProvision payload =>
      rw [request, handleControl, Durable.run_reads_bind]
      simp [frame]
      rfl
  | wifiClear =>
      rw [request, handleControl, Durable.run_reads_bind]
      simp [frame]
      rfl

@[simp]
theorem part_put (setup : Setup) (nvs : Nvs) (ns : Namespace) :
    setup.part (setup.put nvs ns) = ns := by
  cases setup <;> rfl

@[simp]
theorem put_put (setup : Setup) (nvs : Nvs) (one two : Namespace) :
    setup.put (setup.put nvs one) two = setup.put nvs two := by
  cases setup <;> rfl

theorem request_final (keypair : Option KeyPair) (setup : Setup) (nvs : Nvs) (ns : Namespace) :
    (setup.request keypair (setup.put nvs ns)).final =
      setup.put nvs ((setup.flash keypair).run ns).final := by
  simp only [request_eq, part_put, put_put]

theorem request_status (keypair : Option KeyPair) (setup : Setup) (nvs : Nvs) (ns : Namespace) :
    statusOf (setup.request keypair (setup.put nvs ns)) =
      statusOf ((setup.flash keypair).run ns) := by
  simp only [request_eq, part_put, statusOf]

theorem repeated_of_fixed (fixed : ∀ keypair, ((setup.flash keypair).run ns).final = ns)
    (repetitions : ℕ) :
    setup.repeated draws (setup.put nvs ns) repetitions = setup.put nvs ns := by
  induction repetitions with
  | zero => rfl
  | succ repetitions ih => rw [repeated, ih, request_final, fixed]

/-- **Stuck.** A namespace that refuses every attempt refuses them for ever. -/
theorem not_recovers_of_refusing
    (refuses : ∀ keypair, ∃ status, setup.accepted status = false ∧
      (setup.flash keypair).run ns = ⟨.error status, ns, []⟩) :
    ¬setup.Recovers draws (setup.put nvs ns) := by
  intro recovers
  obtain ⟨repetitions, accepted, -⟩ := recovers
  have fixed : ∀ keypair, ((setup.flash keypair).run ns).final = ns := by
    intro keypair
    obtain ⟨status, -, ran⟩ := refuses keypair
    rw [ran]
  obtain ⟨status, refused, ran⟩ := refuses (draws (repetitions + 1))
  rw [repeated_of_fixed fixed, request_status, ran] at accepted
  rw [statusOf, refused] at accepted
  cases accepted

/-- The first repetition of a command decides. -/
theorem recovers_of_first
    (accepted : setup.accepted (statusOf ((setup.flash (draws 1)).run ns)) = true)
    (stored : setup.Stored draws 1 (setup.put nvs ((setup.flash (draws 1)).run ns).final)) :
    setup.Recovers draws (setup.put nvs ns) := by
  refine ⟨0, ?_, ?_⟩
  · rw [repeated, request_status]
    exact accepted
  · rw [repeated, repeated, request_final]
    exact stored

/-- A completed initialisation is found by the next one. -/
theorem recovers_identityInit (drawn : setup.record (draws 0) [] = some next)
    (init : setup = .identityInit) :
    setup.Recovers draws (setup.put nvs (.holding [next] none)) := by
  subst init
  obtain ⟨keypair, first, rfl⟩ := Option.map_eq_some_iff.mp drawn
  have published := published_record (show Published [] from trivial) (by decide) drawn
  have readable := canonicalRecord_holding published
  have ran : (flash (draws 1) .identityInit).run (.holding [⟨1, 1, .identity .unpaired,
      keypair.payload⟩] none) = ⟨.error .alreadyInitialized,
        .holding [⟨1, 1, .identity .unpaired, keypair.payload⟩] none, []⟩ := by
    simp only [flash, Device.identityInit]
    rw [Durable.run_read_bind_of_ok _ readable]
    rfl
  refine recovers_of_first (by rw [ran]; rfl) ⟨0, Nat.zero_le _, keypair, first, ?_⟩
  rw [ran]
  change loadIdentity (.holding _ none) = _
  rw [loadIdentity, readable]
  simp [KeyPair.payload, keypair.private_length, keypair.public_length]

/-- A completed change of the profile is made again by the next one. -/
theorem recovers_config (published : Published history)
    (room : history.length + 1 ≤ Checked.u64Max)
    (publishes : setup.record (draws 1) history = some next) (config : setup ≠ .identityInit) :
    setup.Recovers draws (setup.put nvs (.holding history none)) := by
  have ran := flash_publishes published room publishes
  have readable := canonicalRecord_holding (published_record published room publishes)
  apply recovers_of_first
  · rw [ran]
    cases setup <;> rfl
  · rw [ran]
    cases setup with
    | identityInit => exact absurd rfl config
    | wifiProvision payload =>
        obtain ⟨config, parsed, rfl⟩ := Option.map_eq_some_iff.mp publishes
        refine ⟨config, parsed, ?_⟩
        change loadConfig (.holding _ none) = _
        rw [loadConfig, readable]
        exact parsed
    | wifiClear =>
        refine ⟨next, readable, ?_⟩
        cases history with
        | nil => cases publishes
        | cons newest older =>
            cases publishes
            rfl

/-- A profile command that publishes can publish once more. -/
theorem record_again (config : setup ≠ .identityInit) {earlier : Option KeyPair}
    (publishes : setup.record earlier history = some next) (keypair : Option KeyPair) :
    ∃ again, setup.record keypair (next :: history) = some again := by
  cases setup with
  | identityInit => exact absurd rfl config
  | wifiProvision payload =>
      obtain ⟨config, parsed, -⟩ := Option.map_eq_some_iff.mp publishes
      exact ⟨_, Option.map_eq_some_iff.mpr ⟨config, parsed, rfl⟩⟩
  | wifiClear => exact ⟨_, rfl⟩

end Setup

/-- **Exactly when a command that sets the device up survives a loss of power.**
In a reachable flash content let power be lost after an update of the command. Some
repetition succeeds, and its value is loaded, precisely when the update was the last
one, the deletion of the intent, and, for the profile, the repetition still finds a
sequence. -/
theorem setup_recovers_iff {nvs : Nvs} (reachable : nvsSystem.Reachable nvs)
    (draws : ℕ → Option KeyPair) (setup : Setup) {step : NvsStep} {lost : Nvs}
    (interrupted : (step, lost) ∈ (setup.request (draws 0) nvs).trail) :
    setup.Recovers draws lost ↔
      step = .intentDelete ∧
        (setup = .identityInit ∨ setup.sequence nvs + 2 ≤ Checked.u64Max) := by
  have legible : (setup.part nvs).Legible := by
    have both := legible_of_reachable reachable
    cases setup with
    | identityInit => exact both.1
    | wifiProvision payload => exact both.2
    | wifiClear => exact both.2
  obtain ⟨history, intent, published, here⟩ := legible
  rw [Setup.request_eq] at interrupted
  obtain ⟨⟨_, found⟩, inner, rewritten⟩ := List.mem_map.mp interrupted
  rw [Prod.mk.injEq] at rewritten
  obtain ⟨rfl, rfl⟩ := rewritten
  rw [here] at inner
  cases intent with
  | some sequence =>
      obtain ⟨status, -, ran⟩ := Setup.flash_intent (draws 0) setup history sequence
      rw [ran] at inner
      cases inner
  | none =>
      have number : setup.sequence nvs = history.length := by
        rw [Setup.sequence, here, canonicalRecord_holding published]
        cases history with
        | nil => rfl
        | cons newest older => exact published.2.1
      cases publishes : setup.record (draws 0) history with
      | none =>
          rw [Setup.flash_refused published publishes] at inner
          cases inner
      | some next =>
          by_cases room : history.length + 1 ≤ Checked.u64Max
          · rw [Setup.flash_publishes published room publishes] at inner
            have later := Setup.published_record published room publishes
            have stuck : ∀ older sequence,
                ¬setup.Recovers draws (setup.put nvs (.holding older (some sequence))) :=
              fun older sequence => Setup.not_recovers_of_refusing fun keypair =>
                Setup.flash_intent keypair setup older sequence
            simp only [publication, List.mem_cons, Prod.mk.injEq, List.not_mem_nil,
              or_false] at inner
            rcases inner with ⟨rfl, rfl⟩ | ⟨rfl, rfl⟩ | ⟨rfl, rfl⟩
            · simpa using stuck _ _
            · simpa using stuck _ _
            · rw [number]
              by_cases init : setup = .identityInit
              · cases history with
                | nil => simpa [init] using Setup.recovers_identityInit publishes init
                | cons newest older =>
                    rw [init] at publishes
                    cases publishes
              · have again := Setup.record_again init publishes
                by_cases twice : history.length + 2 ≤ Checked.u64Max
                · obtain ⟨last, publishesAgain⟩ := again (draws 1)
                  have fits : (next :: history).length + 1 ≤ Checked.u64Max := twice
                  simpa [twice] using Setup.recovers_config later fits publishesAgain init
                · have refuses : ∀ keypair, ∃ status, setup.accepted status = false ∧
                      (setup.flash keypair).run (.holding (next :: history) none) =
                        ⟨.error status, .holding (next :: history) none, []⟩ := by
                    intro keypair
                    obtain ⟨last, publishesAgain⟩ := again keypair
                    refine ⟨.storeFailed, ?_, Setup.flash_exhausted later ?_ publishesAgain⟩
                    · cases setup <;> rfl
                    · rw [List.length_cons]
                      omega
                  simpa [twice, init] using Setup.not_recovers_of_refusing refuses
          · rw [Setup.flash_exhausted published (by omega) publishes] at inner
            cases inner

/-! ## A profile on a blank device -/

/-- The profile of a network called lab with the passphrase password. -/
def labProfile : Setup :=
  .wifiProvision ([3, 108, 97, 98] ++ ([8, 112, 97, 115, 115, 119, 111, 114, 100] ++
    [192, 168, 1, 2, 0x98, 0x82]))

/-- After the record is written and before the intent is deleted, neither command
on the profile ever succeeds. -/
theorem profile_record_alone :
    ∃ lost, nvsSystem.Reachable .blank ∧
      (labProfile.request none .blank).trail[1]? = some (.recordWrite, lost) ∧
      loadConfig lost.config = none ∧ statusOf (Setup.wifiClear.request none lost) = .storeFailed ∧
      (∀ draws repetitions, statusOf (labProfile.request none
        (labProfile.repeated draws lost repetitions)) = .storeFailed) ∧
      ∀ draws, ¬labProfile.Recovers draws lost := by
  have ran : ((labProfile.request none .blank).trail[1]?).map (fun loss => (loss.1,
      loadConfig loss.2.config, statusOf (Setup.wifiClear.request none loss.2),
      decide ((labProfile.request none loss.2).final = loss.2),
      statusOf (labProfile.request none loss.2))) =
      some (.recordWrite, none, .storeFailed, true, .storeFailed) := by
    decide +kernel
  obtain ⟨⟨_, lost⟩, loss, found⟩ := Option.map_eq_some_iff.mp ran
  simp only [Prod.mk.injEq, decide_eq_true_eq] at found
  obtain ⟨rfl, unloaded, clears, fixed, status⟩ := found
  have same : ∀ draws repetitions, labProfile.repeated draws lost repetitions = lost := by
    intro draws repetitions
    induction repetitions with
    | zero => rfl
    | succ repetitions ih =>
        rw [Setup.repeated, ih]
        exact fixed
  have fails : ∀ draws repetitions, statusOf (labProfile.request none
      (labProfile.repeated draws lost repetitions)) = .storeFailed := by
    intro draws repetitions
    rw [same, status]
  refine ⟨lost, ⟨[], .start rfl⟩, loss, unloaded, clears, fails, fun draws recovers => ?_⟩
  obtain ⟨repetitions, accepted, -⟩ := recovers
  have refused : labProfile.accepted .storeFailed = true := by
    rw [← fails draws repetitions]
    exact accepted
  exact absurd refused (by decide)

/-- After the intent is deleted, the profile is provisioned again. -/
theorem setup_recovers_lab :
    ∃ lost, (labProfile.request none .blank).trail[2]? = some (.intentDelete, lost) ∧
      labProfile.Recovers (fun _ => none) lost := by
  have ran : ((labProfile.request none .blank).trail[2]?).map Prod.fst = some .intentDelete := by
    decide +kernel
  obtain ⟨⟨step, lost⟩, loss, deleted⟩ := Option.map_eq_some_iff.mp ran
  rw [show step = .intentDelete from deleted] at loss
  have recovers := setup_recovers_iff ⟨[], .start rfl⟩ (fun _ => none) labProfile
    (List.mem_of_getElem? loss)
  exact ⟨lost, loss, recovers.mpr ⟨rfl, Or.inr (by decide +kernel)⟩⟩

end Deskkin.Device
