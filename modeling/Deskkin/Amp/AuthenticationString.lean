/-
# The authentication string on both screens

Host and device derive six digits from the handshake hash and the two users
compare them. The host prints the digits. The device folds them into a number,
publishes the number in its world snapshots while it waits for the decision of
its user, checks it on the renderer core and writes the digits out again. Zeros
in front are lost in the number and come back in the digits, and the number that
stands for no string is out of the range of the strings.
-/

import Deskkin.Amp.AcceptedValues

namespace Deskkin.Amp

open Program Seqlock Protocol

/-! ## The renderer -/

/-- Write the last digits of a number in front of the index, from the last one on. -/
def writeDigits : ℕ → List UInt8 → UInt32 → List UInt8
  | 0, digits, _ => digits
  | index + 1, digits, value =>
      writeDigits index (digits.set index (48 + (value % 10).toUInt8)) (value / 10)

/-- The text on the screen. -/
def sasText (sas : UInt32) : String :=
  if sas = 0xffffffff then ""
  else
    let digits := writeDigits 6 [48, 48, 48, 48, 48, 48] sas
    (String.fromUTF8? digits.toByteArray).getD ""

/-! ## Digits -/

/-- The loop of the renderer is the one of the host. -/
theorem fillDigits_writeDigits (index : ℕ) (out : List UInt8) (n : UInt32) :
    Protocol.fillDigits index out n = .ok (writeDigits index out n) := by
  induction index generalizing out n with
  | zero => rfl
  | succ index ih =>
      rw [Protocol.fillDigits, u8TryFrom_digit, Fallible.ok_bind, ih, writeDigits]

theorem writeDigits_eq {index : ℕ} {digits : List UInt8} (room : index ≤ digits.length)
    (value : UInt32) :
    writeDigits index digits value = decimalDigits index value.toNat ++ digits.drop index :=
  Except.ok.inj ((fillDigits_writeDigits index digits value).symm.trans (fillDigits_eq room value))

theorem length_decimalDigits (count number : ℕ) : (decimalDigits count number).length = count := by
  induction count generalizing number with
  | zero => rfl
  | succ count ih => simp [decimalDigits_succ, ih]

/-! ## Text -/

theorem decimalDigits_lt (count number : ℕ) :
    ∀ digit ∈ decimalDigits count number, digit < 128 := by
  induction count generalizing number with
  | zero => simp [decimalDigits]
  | succ count ih =>
      intro digit member
      rw [decimalDigits_succ, List.mem_append, List.mem_singleton] at member
      cases member with
      | inl before => exact ih _ digit before
      | inr last =>
          have small : number % 10 < 10 := Nat.mod_lt _ (by decide)
          rw [last, UInt8.lt_iff_toNat_lt, UInt8.toNat_ofNat']
          have top : (128 : UInt8).toNat = 128 := rfl
          omega

theorem char_of_lt : ∀ n < 128, (Char.ofNat n).utf8Size = 1 ∧
    (Char.ofNat n).toUInt8 = UInt8.ofNat n := by
  decide

/-- Bytes of the lower half are text. -/
theorem isValidUTF8_of_lt {bytes : List UInt8} (ascii : ∀ byte ∈ bytes, byte < 128) :
    bytes.toByteArray.IsValidUTF8 := by
  induction bytes using List.reverseRecOn with
  | nil => exact ByteArray.isValidUTF8_empty
  | append_singleton bytes last ih =>
      have before := ih fun byte member => ascii byte (List.mem_append_left _ member)
      have small : last < 128 := ascii last (List.mem_append_right _ (List.mem_singleton_self last))
      obtain ⟨size, same⟩ := char_of_lt last.toNat (UInt8.lt_iff_toNat_lt.mp small)
      rw [UInt8.ofNat_toNat] at same
      have pushed := before.push size
      rwa [same, ← ByteArray.append_toByteArray_singleton, ← List.toByteArray_append] at pushed

/-- The digits that were folded into a number are written out again. -/
theorem sasText_numericSas {number : ℕ} (small : number < 1000000) :
    (sasText (numericSas (decimalDigits 6 number))).toByteArray =
      (decimalDigits 6 number).toByteArray := by
  have value : (numericSas (decimalDigits 6 number)).toNat = number := by
    rw [numericSas_decimalDigits (by decide)]
    exact Nat.mod_eq_of_lt small
  have shown : numericSas (decimalDigits 6 number) ≠ 0xffffffff := by
    intro reserved
    rw [reserved] at value
    have top : (0xffffffff : UInt32).toNat = 4294967295 := rfl
    omega
  have written : writeDigits 6 [48, 48, 48, 48, 48, 48] (numericSas (decimalDigits 6 number)) =
      decimalDigits 6 number := by
    rw [writeDigits_eq (by simp), value]
    simp
  have valid := isValidUTF8_of_lt (decimalDigits_lt 6 number)
  rw [sasText, if_neg shown]
  simp only [written, String.fromUTF8?, dif_pos valid, Option.getD_some]
  rfl

/-! ## From the decision to the screen -/

/-- The events that leave the pending decision alone. -/
def CoreEvent.KeepsDecision : CoreEvent → Prop
  | .askDecision _ | .decided => False
  | _ => True

/-- A snapshot that shows `sas` and passes every check of its reader. -/
def Shows (sas : UInt32) (world : WorldSnapshot) : Prop := world.sas = sas ∧ world.Acceptable

theorem step_keepsDecision {core after : Core} {event : CoreEvent} (keeps : event.KeepsDecision)
    (range : core.SasInRange) (moved : core.step event = some after) :
    after.uiSas = core.uiSas ∧
      ∃ shown, after.worlds = core.worlds ++ shown ∧ ∀ world ∈ shown, Shows core.uiSas world := by
  cases event with
  | askDecision handshakeHash => cases keeps
  | decided => cases keeps
  | publishWorld observedYaw =>
      cases moved
      refine ⟨rfl, _, rfl, ?_⟩
      intro world member
      rw [List.mem_singleton.mp member]
      exact ⟨rfl, acceptable_view range observedYaw (core.worldGeneration + 1)⟩
  | startBenchmark =>
      simp only [Core.step] at moved
      split at moved <;> cases moved <;> exact ⟨rfl, [], by simp⟩
  | touch code value sync =>
      cases moved
      cases sync <;> exact ⟨rfl, [], by simp [Core.touchCallback], by simp⟩
  | showShell value => cases moved; exact ⟨rfl, [], by simp⟩
  | showView value => cases moved; exact ⟨rfl, [], by simp⟩
  | showFilter value => cases moved; exact ⟨rfl, [], by simp⟩
  | press button => cases moved; exact ⟨rfl, [], by simp⟩
  | turn value => cases moved; exact ⟨rfl, [], by simp⟩

/-- Every snapshot that is published while a decision is pending shows it. -/
theorem execute_keepsDecision {core later : Core} {events : List CoreEvent}
    (keeps : ∀ event ∈ events, event.KeepsDecision) (range : core.SasInRange)
    (ran : coreSystem.execute core events = some later) :
    ∃ shown, later.worlds = core.worlds ++ shown ∧ ∀ world ∈ shown, Shows core.uiSas world := by
  induction events generalizing core with
  | nil =>
      cases ran
      exact ⟨[], by simp⟩
  | cons event events ih =>
      obtain ⟨next, moved, ran⟩ := Option.bind_eq_some_iff.mp ran
      obtain ⟨same, first, published, firstShows⟩ :=
        step_keepsDecision (keeps event List.mem_cons_self) range moved
      obtain ⟨rest, publishedLater, restShows⟩ :=
        ih (fun event member => keeps event (List.mem_cons_of_mem _ member))
          (sasInRange_step range moved) ran
      refine ⟨first ++ rest, by rw [publishedLater, published, List.append_assoc], ?_⟩
      intro world member
      cases List.mem_append.mp member with
      | inl early => exact firstShows world early
      | inr late => exact same ▸ restShows world late

/-- A reader over a published snapshot accepts it as a whole. -/
theorem worldSnapshot_accepted {world : WorldSnapshot} (acceptable : world.Acceptable)
    (numbered : world.generation ≠ 0) {cut : List ℕ} (whole : cut.sum = WorldSnapshot.size)
    (attempts : ℕ) :
    ((worldSnapshot cut (attempts + 1)).alone ⟨world.generation, world.bytes, []⟩).1 =
      .accepted world.generation world.bytes := by
  have copied : (world.bytes.drop 0).take cut.sum = world.bytes := by
    rw [List.drop_zero, whole, ← world.length_bytes, List.take_length]
  rw [worldSnapshot, alone_load_bind, if_neg numbered, alone_bind, copyFrom_alone,
    alone_load_bind, copied]
  simp [alone, WorldSnapshot.ofBytes_bytes, acceptable]

/-- **Both sides show the same authentication string.** The six characters of the
host are the text on the screen of the device for every snapshot that is published
while the device waits for the decision. Each of these snapshots passes the checks
of its reader. -/
theorem renderer_shows_authentication_string (handshakeHash : List UInt8)
    (long : 4 ≤ handshakeHash.length) :
    ∃ digits, Protocol.authenticationString handshakeHash = .ok digits ∧ digits.length = 6 ∧
      ∀ core : Core, ∃ asked, core.step (.askDecision handshakeHash) = some asked ∧
        ∀ events later, (∀ event ∈ events, CoreEvent.KeepsDecision event) →
          coreSystem.execute asked events = some later →
          ∃ shown, later.worlds = asked.worlds ++ shown ∧ ∀ world ∈ shown,
            world.Acceptable ∧
            (world.generation ≠ 0 → ∀ cut attempts, cut.sum = WorldSnapshot.size →
              ((worldSnapshot cut (attempts + 1)).alone
                  ⟨world.generation, world.bytes, []⟩).1 =
                .accepted world.generation world.bytes) ∧
            (sasText (WorldSnapshot.ofBytes world.bytes).sas).toByteArray =
              digits.toByteArray := by
  have derived := authenticationString_eq long
  refine ⟨_, derived, length_decimalDigits 6 _, ?_⟩
  intro core
  have stepped := congrArg
    (fun answer => answer.toOption.map fun digits =>
      { core with uiSas := numericSas digits }) derived
  refine ⟨_, stepped, ?_⟩
  intro events later keeps ran
  obtain ⟨shown, published, shows⟩ :=
    execute_keepsDecision keeps (Or.inr (numericSas_le derived)) ran
  refine ⟨shown, published, ?_⟩
  intro world member
  obtain ⟨sas, acceptable⟩ := shows world member
  refine ⟨acceptable, ?_, ?_⟩
  · intro numbered cut attempts whole
    exact worldSnapshot_accepted acceptable numbered whole attempts
  · rw [WorldSnapshot.ofBytes_bytes, sas]
    exact sasText_numericSas (Nat.mod_lt _ (by decide))

/-- A string with zeros in front, over its first snapshot. -/
theorem renderer_shows_leading_zeros :
    ∃ later world, coreSystem.execute .booted [.askDecision [0, 0, 0, 42], .publishWorld 0] =
        some later ∧ later.worlds = [world] ∧ world.Acceptable ∧
      (sasText (WorldSnapshot.ofBytes world.bytes).sas).toByteArray =
        [48, 48, 48, 48, 52, 50].toByteArray := by
  obtain ⟨digits, host, -, shows⟩ :=
    renderer_shows_authentication_string [0, 0, 0, 42] (by decide)
  have zeros : Protocol.authenticationString [0, 0, 0, 42] = .ok [48, 48, 48, 48, 52, 50] := by
    decide +kernel
  cases host.symm.trans zeros
  obtain ⟨asked, moved, shows⟩ := shows .booted
  obtain ⟨shown, published, screen⟩ := shows [.publishWorld 0] (asked.publishWorld 0)
    (by simp [CoreEvent.KeepsDecision]) rfl
  cases moved
  cases published
  obtain ⟨acceptable, -, text⟩ := screen _ List.mem_cons_self
  exact ⟨_, _, rfl, rfl, acceptable, text⟩

end Deskkin.Amp
