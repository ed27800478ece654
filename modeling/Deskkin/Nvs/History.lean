/-
# Every flash content shows a history

The device in flash is a step system: a control command or a pairing session runs
to its end, or power is lost after one of its updates and the device starts
again. Whatever is reached, each namespace shows the history of its publications,
at most with the intent of one that was interrupted.
-/

import Deskkin.Lib.Runs
import Deskkin.Nvs.Commands

namespace Deskkin.Device

/-- What changes flash. `lost` is the index of the update after which power was
lost, if it was. -/
inductive NvsLabel
  | control (keypair : Option KeyPair) (frame : ControlFrame) (lost : Option ℕ)
  | pair (remote transaction : List UInt8) (reached : ℕ) (lost : Option ℕ)

def Nvs.blank : Nvs := ⟨.holding [] none, .holding [] none⟩

def Nvs.step (nvs : Nvs) : NvsLabel → Option Nvs
  | .control keypair frame lost => (handleControl keypair frame).upTo nvs lost
  | .pair remote transaction reached lost =>
      (onIdentity (pairSession remote transaction reached)).upTo nvs lost

def nvsSystem : StepSystem Nvs NvsLabel where
  Initial nvs := nvs = .blank
  step := Nvs.step

/-- The newest record of a namespace without an intent. -/
def Namespace.Newest (found : Option RecordRef) (ns : Namespace) : Prop :=
  ∃ history, Published history ∧ ns = .holding history none ∧ history.head? = found

/-- The number of publications of a namespace without an intent. -/
def Namespace.Numbered (number : ℕ) (ns : Namespace) : Prop :=
  ∃ history, Published history ∧ ns = .holding history none ∧ history.length = number

def Nvs.Legible (nvs : Nvs) : Prop := nvs.identity.Legible ∧ nvs.config.Legible

variable {ns : Namespace} {found : Option RecordRef}

theorem Namespace.Newest.legible (newest : ns.Newest found) : ns.Legible := by
  obtain ⟨history, published, here, -⟩ := newest
  exact ⟨history, none, published, here⟩

theorem Namespace.Numbered.legible {number : ℕ} (numbered : ns.Numbered number) : ns.Legible := by
  obtain ⟨history, published, here, -⟩ := numbered
  exact ⟨history, none, published, here⟩

/-- The newest record fits and its sequence is the number of publications. -/
theorem Namespace.Newest.fits {record : RecordRef} (newest : ns.Newest (some record)) :
    record.Fits := by
  obtain ⟨history, published, -, newest⟩ := newest
  cases history with
  | nil => cases newest
  | cons latest older =>
      cases newest
      exact published.1

theorem Namespace.Newest.numbered (newest : ns.Newest found) :
    ns.Numbered (found.elim 0 RecordRef.publicationSequence) := by
  obtain ⟨history, published, here, rfl⟩ := newest
  refine ⟨history, published, here, ?_⟩
  cases history with
  | nil => rfl
  | cons latest older => exact published.2.1.symm

/-! ## What the parts of a command keep -/

section Keeps

open Durable

theorem read_canonicalRecord_keeps :
    Keeps Namespace.Legible Namespace.Legible
      (read canonicalRecord : Flash (Option RecordRef)) Namespace.Newest :=
  .read (fun _ legible => legible) fun _ _ legible readable =>
    legible.of_canonicalRecord readable

variable {payload : List UInt8} {currentSequence generation : ℕ}

/-- A publication takes the history one record further. -/
theorem publishRecord_keeps {state : RecordState} (bounded : generation ≤ Checked.u64Max)
    (small : payload.length ≤ nvsPayloadMax) :
    Keeps Namespace.Legible (Namespace.Numbered currentSequence)
      (publishRecord currentSequence generation state payload)
      fun _ => Namespace.Numbered (currentSequence + 1) := by
  have ran : ∀ ns, Namespace.Numbered currentSequence ns →
      (publishRecord currentSequence generation state payload).run ns =
        ⟨.error .storeFailed, ns, []⟩ ∨
      ∃ record older, Published (record :: older) ∧ older.length = currentSequence ∧
        (publishRecord currentSequence generation state payload).run ns =
          ⟨.ok (), .holding (record :: older) none, publication record older⟩ := by
    intro ns numbered
    obtain ⟨older, published, rfl, rfl⟩ := numbered
    by_cases room : older.length + 1 ≤ Checked.u64Max
    · have next : Published (⟨older.length + 1, generation, state, payload⟩ :: older) :=
        ⟨⟨room, bounded, small⟩, rfl, published⟩
      exact Or.inr ⟨_, older, next, rfl, publishRecord_holding next⟩
    · exact Or.inl (publishRecord_exhausted (by omega))
  refine ⟨fun ns numbered entry member => ?_, fun ns numbered e failed => ?_,
    fun ns numbered a ended => ?_⟩
  · rcases ran ns numbered with stopped | ⟨record, older, next, -, done⟩
    · rw [stopped] at member
      cases member
    · rw [done] at member
      simp only [publication, List.mem_cons, List.not_mem_nil, or_false] at member
      rcases member with rfl | rfl | rfl
      · exact ⟨older, _, next.2.2, rfl⟩
      · exact ⟨_, _, next, rfl⟩
      · exact ⟨_, _, next, rfl⟩
  · rcases ran ns numbered with stopped | ⟨record, older, next, -, done⟩
    · rw [stopped]
      exact numbered.legible
    · rw [done] at failed
      cases failed
  · rcases ran ns numbered with stopped | ⟨record, older, next, length, done⟩
    · rw [stopped] at ended
      cases ended
    · rw [done, ← length]
      exact ⟨_, next, rfl, List.length_cons⟩

theorem publishRecord_legible {state : RecordState} (bounded : generation ≤ Checked.u64Max)
    (small : payload.length ≤ nvsPayloadMax) :
    Keeps Namespace.Legible (Namespace.Numbered currentSequence)
      (publishRecord currentSequence generation state payload) fun _ => Namespace.Legible :=
  (publishRecord_keeps bounded small).mono (fun _ numbered => numbered)
    fun _ _ numbered => numbered.legible

theorem identityInit_keeps (keypair : Option KeyPair) :
    Keeps Namespace.Legible Namespace.Legible (identityInit keypair)
      fun _ => Namespace.Legible := by
  refine read_canonicalRecord_keeps.bind fun found => ?_
  cases found with
  | some record => exact .fail fun _ newest => newest.legible
  | none =>
      cases keypair with
      | none => exact .fail fun _ newest => newest.legible
      | some keypair =>
          refine (publishRecord_legible (by decide) ?_).mono (fun _ newest => newest.numbered)
            fun _ _ legible => legible
          simp [KeyPair.payload, keypair.private_length, keypair.public_length, nvsPayloadMax]

theorem deleteIntent_keeps :
    Keeps Namespace.Legible Namespace.Legible deleteIntent fun _ => Namespace.Legible := by
  have cleared : ∀ ns : Namespace, ns.Legible → Namespace.Legible { ns with intent := none } := by
    intro ns legible
    obtain ⟨history, intent, published, rfl⟩ := legible
    exact ⟨history, none, published, rfl⟩
  refine ⟨fun ns legible entry member => ?_, (fun _ _ _ failed => by cases failed),
    fun ns legible _ _ => cleared ns legible⟩
  rw [deleteIntent, run_update, List.mem_singleton] at member
  rw [member]
  exact cleared ns legible

variable (peerId : List UInt8)

theorem recoverIdentityIntent_keeps :
    Keeps Namespace.Legible Namespace.Legible (recoverIdentityIntent peerId)
      fun _ => Namespace.Legible := by
  refine Keeps.bind (.read (fun _ legible => legible) fun _ _ legible _ => legible)
    fun intent => ?_
  cases intent with
  | none => exact .pure (fun _ legible => legible) fun _ legible => legible
  | some intent =>
      refine Keeps.bind (.read (fun _ legible => legible) fun _ _ legible _ => legible)
        fun completed => ?_
      exact deleteIntent_keeps.bind fun _ =>
        .pure (fun _ legible => legible) fun _ legible => legible

/-- A begun revocation fits and follows the newest record. -/
def Revocation.Begun (revocation : Revocation) (ns : Namespace) : Prop :=
  (revocation.generation ≤ Checked.u64Max ∧ revocation.localIdentity.length ≤ nvsPayloadMax) ∧
    ns.Numbered revocation.sequence

theorem raiseRevocation_keeps :
    Keeps Namespace.Legible Namespace.Legible (raiseRevocation peerId) Revocation.Begun := by
  refine read_canonicalRecord_keeps.bind fun found => ?_
  cases found with
  | none => exact .fail fun _ newest => newest.legible
  | some record =>
      refine .assuming (fun _ newest => newest.fits) fun fits => ?_
      have short : (record.payload.take 64).length ≤ nvsPayloadMax :=
        le_trans (List.length_take_le' 64 record.payload) fits.payload
      dsimp only
      split
      · exact .fail fun _ newest => newest.legible
      · split
        · exact .pure (fun _ newest => newest.legible) fun _ newest =>
            ⟨⟨fits.generation, short⟩, newest.numbered⟩
        · cases raised : Checked.add Checked.u64Max record.generation 1 with
          | none => exact .fail fun _ newest => newest.legible
          | some generation =>
              have bounded := (Checked.add_eq_some_iff.mp raised).2
              refine ((publishRecord_keeps bounded fits.payload).mono
                (fun _ newest => newest.numbered) fun _ _ numbered => numbered).bind fun _ => ?_
              exact .pure (fun _ numbered => numbered.legible) fun _ numbered =>
                ⟨⟨bounded, short⟩, numbered⟩

theorem beginIdentityUnpair_keeps :
    Keeps Namespace.Legible Namespace.Legible (beginIdentityUnpair peerId) Revocation.Begun := by
  unfold beginIdentityUnpair
  split
  · exact .fail fun _ legible => legible
  · refine (recoverIdentityIntent_keeps peerId).bind fun recovered => ?_
    cases recovered with
    | some status => exact .fail fun _ legible => legible
    | none => exact raiseRevocation_keeps peerId

theorem identityUnpair_keeps :
    Keeps Namespace.Legible Namespace.Legible (identityUnpair peerId)
      fun _ => Namespace.Legible := by
  refine (beginIdentityUnpair_keeps peerId).bind fun revocation => ?_
  refine .assuming (fun _ begun => begun.1) fun bounds => ?_
  exact (publishRecord_legible bounds.1 bounds.2).mono (fun _ begun => begun.2)
    fun _ _ legible => legible

/-- An identity in memory that agrees with the newest record. -/
def StoredIdentity.Current (identity : StoredIdentity) (ns : Namespace) : Prop :=
  (identity.generation ≤ Checked.u64Max ∧ identity.payload.length ≤ nvsPayloadMax) ∧
    ns.Numbered identity.sequence

theorem publishPeer_keeps (identity : StoredIdentity) (state : PeerState) :
    Keeps Namespace.Legible identity.Current (publishPeer identity state)
      StoredIdentity.Current := by
  refine .assuming (fun _ current => current.1) fun bounds => ?_
  refine ((publishRecord_keeps bounds.1 bounds.2).mono (fun _ current => current.2)
    fun _ _ numbered => numbered).bind fun _ => ?_
  exact .pure (fun _ numbered => numbered.legible) fun _ numbered => ⟨bounds, numbered⟩

theorem loadIdentity_eq_some {ns : Namespace} {identity : StoredIdentity}
    (loaded : loadIdentity ns = some identity) :
    canonicalRecord ns = .ok (some ⟨identity.sequence, identity.generation,
      .identity identity.state, identity.payload⟩) ∧
    64 ≤ identity.payload.length ∧ identity.payload.length ≤ 112 := by
  unfold loadIdentity at loaded
  split at loaded
  · rename_i readable
    rw [Option.ite_none_right_eq_some, Option.some.injEq] at loaded
    obtain ⟨bounds, rfl⟩ := loaded
    exact ⟨readable, bounds⟩
  · cases loaded

theorem pairSession_keeps (remote transaction : List UInt8) (reached : ℕ) :
    Keeps Namespace.Legible Namespace.Legible (pairSession remote transaction reached)
      fun _ => Namespace.Legible := by
  have loads : Keeps Namespace.Legible Namespace.Legible
      (reads loadIdentity : Flash (Option StoredIdentity))
      fun found ns => ns.Legible ∧ ∀ identity ∈ found,
        identity.generation ≤ Checked.u64Max ∧ ns.Numbered identity.sequence := by
    refine .reads (fun _ legible => legible) fun ns legible => ⟨legible, ?_⟩
    intro identity member
    obtain ⟨readable, -⟩ := loadIdentity_eq_some member
    have newest := legible.of_canonicalRecord readable
    exact ⟨(Namespace.Newest.fits newest).generation, Namespace.Newest.numbered newest⟩
  refine loads.bind fun found => ?_
  cases found with
  | none => exact .fail fun _ entered => entered.1
  | some identity =>
      dsimp only
      split
      · exact .fail fun _ entered => entered.1
      · rename_i valid
        simp only [not_or, not_not] at valid
        obtain ⟨-, remoteLength, transactionLength⟩ := valid
        refine .assuming (fun _ entered => (entered.2 _ rfl).1) fun bounded => ?_
        have small : (identity.payload.take 64 ++ (remote ++ transaction)).length ≤
            nvsPayloadMax := by
          simp only [List.length_append, List.length_take, remoteLength, transactionLength,
            nvsPayloadMax]
          omega
        have publishes := Keeps.foldlM publishPeer_keeps (fun _ _ current => current.2.legible)
          ([.pending, .committing, .paired].take reached)
          { identity with payload := identity.payload.take 64 ++ (remote ++ transaction) }
        refine Keeps.bind (publishes.mono
          (fun _ entered => ⟨⟨bounded, small⟩, (entered.2 _ rfl).2⟩) fun _ _ current => current)
            fun _ => ?_
        exact .pure (fun _ current => current.2.legible) fun _ current => current.2.legible

/-- A payload that holds a profile fits into a record. -/
theorem length_of_parseConfig {config : WifiConfig} (parsed : parseConfig payload = some config) :
    payload.length ≤ 103 := by
  unfold parseConfig at parsed
  split at parsed
  · cases parsed
  · rename_i ssidLength remaining
    split at parsed
    · cases parsed
    · rename_i passphraseLength rest behind
      rw [Option.ite_none_right_eq_some, Option.some.injEq] at parsed
      obtain ⟨⟨length, valid, -⟩, rfl⟩ := parsed
      simp only [WifiConfig.validate, decide_eq_true_eq] at valid
      obtain ⟨-, ssid, -, passphrase, -⟩ := valid
      have whole := congrArg List.length behind
      simp only [List.length_drop, List.length_cons, List.length_take] at *
      omega

theorem wifiProvision_keeps (payload : List UInt8) :
    Keeps Namespace.Legible Namespace.Legible (wifiProvision payload)
      fun _ => Namespace.Legible := by
  unfold wifiProvision
  split
  · exact .fail fun _ legible => legible
  · rename_i config parsed
    have small := length_of_parseConfig parsed
    refine read_canonicalRecord_keeps.bind fun found => ?_
    exact (publishRecord_legible (by decide) (by simp only [nvsPayloadMax]; omega)).mono
      (fun _ newest => newest.numbered) fun _ _ legible => legible

theorem clearConfig_keeps :
    Keeps Namespace.Legible Namespace.Legible clearConfig fun _ => Namespace.Legible := by
  refine read_canonicalRecord_keeps.bind fun found => ?_
  cases found with
  | none => exact .fail fun _ newest => newest.legible
  | some record =>
      refine .assuming (fun _ newest => newest.fits) fun fits => ?_
      exact (publishRecord_legible fits.generation (by simp [nvsPayloadMax])).mono
        (fun _ newest => newest.numbered) fun _ _ legible => legible

/-! ## Every run -/

section

variable {m : Flash Unit}
  (kept : Keeps Namespace.Legible Namespace.Legible m fun _ => Namespace.Legible)
include kept

theorem onIdentity_keeps : Keeps Nvs.Legible Nvs.Legible (onIdentity m) fun _ => Nvs.Legible :=
  kept.within (fun _ legible => legible.1) fun _ _ legible written => ⟨written, legible.2⟩

theorem onConfig_keeps : Keeps Nvs.Legible Nvs.Legible (onConfig m) fun _ => Nvs.Legible :=
  kept.within (fun _ legible => legible.2) fun _ _ legible written => ⟨legible.1, written⟩

end

theorem handleControl_keeps (keypair : Option KeyPair) (frame : ControlFrame) :
    Keeps Nvs.Legible Nvs.Legible (handleControl keypair frame) fun _ => Nvs.Legible := by
  have refused : Keeps Nvs.Legible Nvs.Legible (fail .invalid : DeviceFlash Unit)
      fun _ => Nvs.Legible := .fail fun _ legible => legible
  have ignored : Keeps Nvs.Legible Nvs.Legible (pure () : DeviceFlash Unit)
      fun _ => Nvs.Legible := .pure (fun _ legible => legible) fun _ legible => legible
  have reports : Keeps Nvs.Legible Nvs.Legible (reads Nvs.ownerGeneration : DeviceFlash ℕ)
      fun _ => Nvs.Legible := .reads (fun _ legible => legible) fun _ legible => legible
  refine reports.bind fun generation => ?_
  split
  · exact refused
  · cases frame.command with
    | identityInit =>
        dsimp only
        split
        · exact onIdentity_keeps (identityInit_keeps keypair)
        · exact refused
    | identityUnpair => exact onIdentity_keeps (identityUnpair_keeps frame.payload)
    | wifiProvision => exact onConfig_keeps (wifiProvision_keeps frame.payload)
    | wifiClear =>
        dsimp only
        split
        · exact onConfig_keeps clearConfig_keeps
        · exact refused
    | identityList => exact ignored
    | wifiStatus => exact ignored
    | status => exact ignored
    | run => dsimp only; split <;> assumption
    | shutdown => dsimp only; split <;> assumption
    | worldBenchmarkStart => dsimp only; split <;> assumption

end Keeps

theorem legible_blank : Namespace.Legible (.holding [] none) := ⟨[], none, trivial, rfl⟩

/-- **Every reachable flash content shows a history in each namespace.** -/
theorem legible_of_reachable {nvs : Nvs} (reachable : nvsSystem.Reachable nvs) : nvs.Legible := by
  refine reachable.invariant (fun nvs initial => ?_) fun nvs label next legible moved => ?_
  · rw [show nvs = .blank from initial]
    exact ⟨legible_blank, legible_blank⟩
  · cases label with
    | control keypair frame lost => exact (handleControl_keeps keypair frame).upTo legible moved
    | pair remote transaction reached lost =>
        exact (onIdentity_keeps (pairSession_keeps remote transaction reached)).upTo legible moved

end Deskkin.Device
