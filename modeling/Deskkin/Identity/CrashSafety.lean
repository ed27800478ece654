/-
# Crash safety of the hosted identity store

The canonical file is a complete record whatever operations run and wherever they are
killed, and the records it was given follow one another as the lifecycle of an identity
allows. The argument is about step lists: `Lawful` says that each remaining step of the
running operation succeeds and that each rename publishes a synced successor of the
visible record. A plan is lawful when it is made, a step consumes the head of the list,
and whoever is killed drops his list.

Two things break this. An operation that is killed between its rename and its sync
leaves a record that the next operation takes for settled, while a loss of power can
still take it back; the directory itself is settled no sooner. And an operation that
removes a leftover temporary file makes another one fail that has it on its list.
-/

import Deskkin.Identity.Store
import Mathlib.Data.List.Chain
import Mathlib.Data.List.Infix

namespace Deskkin

/-- What may follow a record, and by which operation. -/
structure Evolves (operation : Operation) (previous next : Identity) : Prop where
  privateKey : next.localPrivateKey = previous.localPrivateKey
  publicKey : next.localPublicKey = previous.localPublicKey
  generation_le : previous.generation ≤ next.generation
  generation_lt : previous.generation < next.generation ↔
    (∃ key transaction, next.peer = .revoking key transaction) ∧
      ∀ key transaction, previous.peer ≠ .revoking key transaction
  generation_one : next.generation ≤ previous.generation + 1
  toCommitting : ∀ key transaction, next.peer = .committing key transaction →
    previous.peer = .pending key transaction
  toPaired : ∀ key transaction, next.peer = .paired key transaction →
    previous.peer = .committing key transaction
  fromRevoking : ∀ key transaction, previous.peer = .revoking key transaction →
    (∃ joined, operation = .unpair key joined) ∧ next.peer = .unpaired

/-- What a publication may follow. The first record names no peer. -/
def Follows (operation : Operation) : Option Identity → Identity → Prop
  | none, next => next.peer = .unpaired ∧ next.generation = 0
  | some previous, next => Evolves operation previous next

section Records

variable {γ : Type*} (platform : Platform γ)

/-- A record that is read back as it was written. -/
def Identity.WellFormed (identity : Identity) : Prop :=
  identity.valid platform = true ∧ identity.generation ≤ Checked.u64Max

variable {platform}

variable {identity : Identity} {peer : PeerState Text Text} {remote transaction : Text}
  {joined : Bool} {answer : Except StoreError Answer} {rest : List (FsStep γ × StoreError)}
  {before after : StoreError} {settled : Bool} {disk : Disk γ}

theorem Identity.WellFormed.accept (formed : identity.WellFormed platform) :
    Identity.accept platform (identity.encode platform) = .ok identity :=
  Identity.accept_encode platform formed.1 formed.2

theorem wellFormed_fresh (localPrivateKey : Vector UInt8 32) :
    (Identity.fresh platform localPrivateKey).WellFormed platform := by
  have privateHex : validateHex (hex localPrivateKey.toList) 32 = true :=
    validateHex_hex (by simp)
  have publicHex : validateHex (hex (platform.publicKey localPrivateKey.toList)) 32 = true :=
    validateHex_hex (platform.length_publicKey _)
  refine ⟨?_, Nat.zero_le _⟩
  simp [Identity.valid, Identity.fresh, privateHex, publicHex, decodeHex_hex, validatePeer]

/-- The checks on the keys do not look at the generation, and the peer is checked
on its own. -/
theorem wellFormed_update {generation : ℕ} (formed : identity.WellFormed platform)
    (bound : generation ≤ Checked.u64Max) (named : validatePeer peer = true) :
    ({ identity with generation := generation, peer := peer } : Identity).WellFormed platform := by
  have valid := formed.1
  refine ⟨?_, bound⟩
  rw [Identity.valid, Bool.and_eq_true] at valid ⊢
  exact ⟨valid.1, named⟩

theorem Identity.WellFormed.validatePeer (formed : identity.WellFormed platform) :
    validatePeer identity.peer = true := by
  have valid := formed.1
  rw [Identity.valid, Bool.and_eq_true] at valid
  exact valid.2

/-! ## How each operation changes the record -/

theorem evolves_setPeer (accepted : identity.peer.validTransition peer = true) :
    Evolves (.setPeer peer) identity { identity with peer := peer } := by
  rcases PeerState.validTransition_iff.mp accepted with
    ⟨key, transaction, before, rfl⟩ | ⟨key, transaction, before, rfl⟩ |
      ⟨key, transaction, before, rfl⟩ <;>
  exact
    { privateKey := rfl
      publicKey := rfl
      generation_le := le_rfl
      generation_lt := by simp
      generation_one := Nat.le_succ _
      toCommitting := by simp [before]
      toPaired := by simp [before]
      fromRevoking := by simp [before] }

theorem evolves_revoke (current : ∀ key transaction, identity.peer ≠ .revoking key transaction) :
    Evolves (.unpair remote joined) identity
      { identity with
        generation := identity.generation + 1
        peer := .revoking remote transaction } where
  privateKey := rfl
  publicKey := rfl
  generation_le := Nat.le_succ _
  generation_lt := ⟨fun _ => ⟨⟨remote, transaction, rfl⟩, current⟩, fun _ => Nat.lt_succ_self _⟩
  generation_one := le_rfl
  toCommitting := nofun
  toPaired := nofun
  fromRevoking := fun key transaction before => absurd before (current key transaction)

theorem evolves_finish (revoking : identity.peer = .revoking remote transaction) :
    Evolves (.unpair remote joined) identity { identity with peer := .unpaired } where
  privateKey := rfl
  publicKey := rfl
  generation_le := le_rfl
  generation_lt := by simp
  generation_one := Nat.le_succ _
  toCommitting := nofun
  toPaired := nofun
  fromRevoking := fun key transaction before => by
    rw [revoking] at before
    cases before
    exact ⟨⟨joined, rfl⟩, rfl⟩

/-! ## Lawful step lists -/

variable (platform)

/-- From a visible record, which may be known to be durable, and a temporary file, each of
the steps succeeds, and each rename publishes a complete record that may follow the
visible one. Where the answer is that of an initialization, there is a durable record
in the end. -/
def Lawful (operation : Operation) (answer : Except StoreError Answer) :
    Option Identity → Option (StoredFile γ) → Bool → List (FsStep γ × StoreError) → Prop
  | visible, _, settled, [] =>
      ∀ key, answer = .ok (.initialized key) → settled = true ∧ visible.isSome = true
  | visible, _, settled, (.removeTemporary, _) :: rest =>
      Lawful operation answer visible none settled rest
  | visible, temporary, settled, (.createTemporary, _) :: rest =>
      temporary = none ∧ Lawful operation answer visible (some ⟨platform.empty, false⟩) settled rest
  | visible, temporary, settled, (.writeTemporary contents, _) :: rest =>
      temporary.isSome = true ∧
        Lawful operation answer visible (some ⟨contents, false⟩) settled rest
  | visible, temporary, settled, (.syncTemporary, _) :: rest =>
      ∃ file, temporary = some file ∧
        Lawful operation answer visible (some { file with synced := true }) settled rest
  | visible, temporary, _, (.renameTemporary, _) :: rest =>
      ∃ next : Identity, temporary = some ⟨next.encode platform, true⟩ ∧
        next.WellFormed platform ∧ Follows operation visible next ∧
        Lawful operation answer (some next) none false rest
  | visible, temporary, _, (.syncDirectory, _) :: rest =>
      Lawful operation answer visible temporary true rest

/-- A plan whose steps are lawful from a visible record. -/
def LawfulPlan (operation : Operation) (visible : Option Identity)
    (temporary : Option (StoredFile γ)) (plan : Plan γ) : Prop :=
  ∀ settled, Lawful platform operation plan.answer visible temporary settled plan.steps

variable {platform} {operation : Operation} {visible : Option Identity}
  {temporary : Option (StoredFile γ)}

theorem lawful_publishLocked {next : Identity} (formed : next.WellFormed platform)
    (follows : Follows operation visible next)
    (onward : Lawful platform operation answer (some next) none true rest) :
    Lawful platform operation answer visible temporary settled
      (publishLocked platform next before after ++ rest) :=
  ⟨rfl, rfl, _, rfl, next, rfl, formed, follows, onward⟩

/-- A plan of one publication. -/
theorem lawfulPlan_publishLocked {next : Identity} (formed : next.WellFormed platform)
    (follows : Follows operation visible next) :
    LawfulPlan platform operation visible temporary
      ⟨publishLocked platform next before after, answer⟩ := by
  intro settled
  rw [← List.append_nil (publishLocked platform next before after)]
  exact lawful_publishLocked formed follows fun _ _ => ⟨rfl, rfl⟩

/-- A plan that refuses without touching the disk. -/
theorem lawfulPlan_refused (error : StoreError) :
    LawfulPlan platform operation visible temporary ⟨[], .error error⟩ :=
  fun _ => nofun

theorem lawfulPlan_removeLeftover (disk : Disk γ) (other : ∀ key, answer ≠ .ok (.initialized key)) :
    LawfulPlan platform operation visible temporary ⟨removeLeftover disk, answer⟩ := by
  intro settled
  unfold removeLeftover
  split <;> exact fun key same => absurd same (other key)

/-- The canonical file is the encoding of a well-formed record, or absent. -/
def Shows (platform : Platform γ) (disk : Disk γ) (visible : Option Identity) : Prop :=
  disk.canonical = visible.map (fun identity => ⟨identity.encode platform, true⟩) ∧
    ∀ identity ∈ visible, identity.WellFormed platform

section

variable (shown : Shows platform disk visible)
include shown

theorem Shows.readUnlocked :
    (∃ error, disk.readUnlocked platform = .error error) ∨
      ∃ identity, visible = some identity ∧ identity.WellFormed platform ∧
        disk.readUnlocked platform = .ok identity := by
  obtain ⟨canonical, formed⟩ := shown
  rw [Disk.readUnlocked, canonical]
  cases disk.prepareRoot with
  | error error => exact .inl ⟨error, rfl⟩
  | ok listed =>
      cases visible with
      | none => exact .inl ⟨_, rfl⟩
      | some identity =>
          exact .inr ⟨identity, rfl, formed identity rfl, (formed identity rfl).accept⟩

theorem lawful_initPlan (localPrivateKey : Vector UInt8 32) (present : Bool) :
    LawfulPlan platform (.init localPrivateKey) visible disk.temporary
      (initPlan platform disk localPrivateKey present) := by
  rw [initPlan, shown.1]
  obtain ⟨error, read⟩ | ⟨identity, rfl, _, read⟩ := shown.readUnlocked <;> rw [read]
  · cases present with
    | true => exact lawfulPlan_refused _
    | false =>
        cases visible with
        | none => exact lawfulPlan_publishLocked (wellFormed_fresh localPrivateKey) ⟨rfl, rfl⟩
        | some identity => exact lawfulPlan_refused _
  · cases present with
    | true => exact lawfulPlan_removeLeftover disk nofun
    | false => exact lawfulPlan_refused _

theorem lawful_readPlan :
    LawfulPlan platform .read visible disk.temporary (readPlan platform disk) := by
  rw [readPlan]
  obtain ⟨error, read⟩ | ⟨identity, rfl, _, read⟩ := shown.readUnlocked <;> rw [read]
  · exact lawfulPlan_refused _
  · exact lawfulPlan_removeLeftover disk nofun

theorem lawful_setPeerPlan (named : validatePeer peer = true) :
    LawfulPlan platform (.setPeer peer) visible disk.temporary
      (setPeerPlan platform disk peer) := by
  rw [setPeerPlan]
  obtain ⟨error, read⟩ | ⟨identity, rfl, formed, read⟩ := shown.readUnlocked <;> rw [read]
  · exact lawfulPlan_refused _
  · by_cases accepted : identity.peer.validTransition peer = true
    · simp only [if_pos accepted]
      exact lawfulPlan_publishLocked (wellFormed_update formed formed.2 named)
        (evolves_setPeer accepted)
    · simp only [if_neg accepted]
      exact lawfulPlan_refused _

omit shown in
theorem lawful_finishUnpair (formed : identity.WellFormed platform)
    (revoking : identity.peer = .revoking remote transaction) :
    LawfulPlan platform (.unpair remote joined) (some identity) temporary
      (finishUnpair platform identity) :=
  lawfulPlan_publishLocked (wellFormed_update formed formed.2 rfl) (evolves_finish revoking)

omit shown in
theorem lawful_revokePeer (formed : identity.WellFormed platform)
    (named : validatePeer (.revoking remote transaction) = true)
    (current : ∀ key transaction, identity.peer ≠ .revoking key transaction) :
    LawfulPlan platform (.unpair remote joined) (some identity) temporary
      (revokePeer platform identity remote transaction joined) := by
  unfold revokePeer
  cases advanced : Checked.add Checked.u64Max identity.generation 1 with
  | none => exact lawfulPlan_refused _
  | some generation =>
      obtain ⟨rfl, bound⟩ := Checked.add_eq_some_iff.mp advanced
      have revoked := wellFormed_update formed bound named
      cases joined with
      | true =>
          intro settled
          refine lawful_publishLocked revoked ?_ (lawful_finishUnpair revoked rfl true)
          exact evolves_revoke current
      | false =>
          apply lawfulPlan_publishLocked revoked
          exact evolves_revoke current

theorem lawful_unpairPlan (remote : Text) (joined : Bool) :
    LawfulPlan platform (.unpair remote joined) visible disk.temporary
      (unpairPlan platform disk remote joined) := by
  rw [unpairPlan]
  obtain ⟨error, read⟩ | ⟨identity, rfl, formed, read⟩ := shown.readUnlocked <;> rw [read]
  · exact lawfulPlan_refused _
  · have named := formed.validatePeer
    cases state : identity.peer with
    | unpaired =>
        simp only [state]
        exact lawfulPlan_refused _
    | pending key transaction | committing key transaction | paired key transaction =>
        rw [state] at named
        by_cases same : key = remote
        · simp only [state, if_pos same]
          rw [same] at named
          exact lawful_revokePeer formed named (by simp [state])
        · simp only [state, if_neg same]
          exact lawfulPlan_refused _
    | revoking key transaction =>
        by_cases same : key = remote
        · simp only [state, if_pos same]
          exact lawful_finishUnpair formed (same ▸ state)
        · simp only [state, if_neg same]
          exact lawfulPlan_refused _

/-- Every operation starts with a lawful list of steps, whatever temporary file
was left behind. -/
theorem lawful_plan (present : Bool) {operation : Operation} (valid : operation.valid = true) :
    LawfulPlan platform operation visible disk.temporary
      (plan platform disk present operation) := by
  cases operation with
  | init localPrivateKey => exact lawful_initPlan shown localPrivateKey present
  | read => exact lawful_readPlan shown
  | setPeer peer => exact lawful_setPeerPlan shown valid
  | unpair remote joined => exact lawful_unpairPlan shown remote joined

end

/-- The next step of a lawful list succeeds. It touches the temporary file only, makes a
successor of the visible record visible, or makes the visible one durable. -/
theorem Lawful.apply {step : FsStep γ} {error : StoreError}
    (lawful : Lawful platform operation answer visible disk.temporary settled
      ((step, error) :: rest)) :
    ∃ next, disk.apply platform step = some next ∧
      ((step ≠ .renameTemporary ∧ step ≠ .syncDirectory ∧
          (step = .removeTemporary ∨ next.temporary.isSome = true) ∧
          next = { disk with temporary := next.temporary } ∧
          Lawful platform operation answer visible next.temporary settled rest) ∨
        (step = .renameTemporary ∧ ∃ identity : Identity,
          next = { disk with
            canonical := some ⟨identity.encode platform, true⟩, temporary := none } ∧
          identity.WellFormed platform ∧ Follows operation visible identity ∧
          Lawful platform operation answer (some identity) none false rest) ∨
        (step = .syncDirectory ∧ next = { disk with durable := disk.canonical } ∧
          Lawful platform operation answer visible disk.temporary true rest)) := by
  cases step with
  | removeTemporary => exact ⟨_, rfl, .inl ⟨nofun, nofun, .inl rfl, rfl, lawful⟩⟩
  | createTemporary =>
      rw [Disk.apply, lawful.1]
      exact ⟨_, rfl, .inl ⟨nofun, nofun, .inr rfl, rfl, lawful.2⟩⟩
  | writeTemporary contents =>
      obtain ⟨file, there⟩ := Option.isSome_iff_exists.mp lawful.1
      rw [Disk.apply, there]
      exact ⟨_, rfl, .inl ⟨nofun, nofun, .inr rfl, rfl, lawful.2⟩⟩
  | syncTemporary =>
      obtain ⟨file, there, lawful⟩ := lawful
      rw [Disk.apply, there]
      exact ⟨_, rfl, .inl ⟨nofun, nofun, .inr rfl, rfl, lawful⟩⟩
  | renameTemporary =>
      obtain ⟨identity, there, formed, follows, lawful⟩ := lawful
      rw [Disk.apply, there]
      exact ⟨_, rfl, .inr (.inl ⟨rfl, identity, rfl, formed, follows, lawful⟩)⟩
  | syncDirectory => exact ⟨_, rfl, .inr (.inr ⟨rfl, rfl, lawful⟩)⟩

/-! ## Leftover temporary files -/

/-- Uninterrupted, the operation gives the answer it decided on. -/
theorem Lawful.outcome {steps : List (FsStep γ × StoreError)}
    (lawful : Lawful platform operation answer visible disk.temporary settled steps) :
    outcome platform disk answer steps = answer := by
  induction steps generalizing disk visible settled with
  | nil => rfl
  | cons head rest ih =>
      obtain ⟨step, error⟩ := head
      obtain ⟨next, applied, ⟨_, _, _, _, onward⟩ | ⟨_, identity, rfl, _, _, onward⟩ |
        ⟨_, rfl, onward⟩⟩ := lawful.apply <;> rw [Deskkin.outcome, applied]
      all_goals exact ih onward

/-- What an operation answers does not depend on the temporary file it finds. -/
theorem answer_of_leftover (disk : Disk γ) (leftover : Option (StoredFile γ)) (present : Bool)
    (operation : Operation) :
    (plan platform { disk with temporary := leftover } present operation).answer =
      (plan platform disk present operation).answer := by
  have same : { disk with temporary := leftover }.readUnlocked platform =
      disk.readUnlocked platform := by
    unfold Disk.readUnlocked Disk.prepareRoot
    cases disk.root <;> rfl
  cases operation with
  | init localPrivateKey =>
      simp only [plan, initPlan, same]
      split
      · split <;> rfl
      · rfl
  | read =>
      simp only [plan, readPlan, same]
      split <;> rfl
  | setPeer peer => simp only [plan, setPeerPlan, same]
  | unpair remote joined => simp only [plan, unpairPlan, same]

/-- An operation that nothing interrupts answers the same over any leftover. -/
theorem carryOut_leftover (shown : Shows platform disk visible) (leftover : Option (StoredFile γ))
    (present : Bool) {operation : Operation} (valid : operation.valid = true) :
    carryOut platform { disk with temporary := leftover } present operation =
      carryOut platform { disk with temporary := none } present operation := by
  have answers : ∀ leftover,
      carryOut platform { disk with temporary := leftover } present operation =
        (plan platform disk present operation).answer := by
    intro leftover
    have shown : Shows platform { disk with temporary := leftover } visible := shown
    exact ((lawful_plan shown present valid) false).outcome.trans
      (answer_of_leftover disk leftover present operation)
  rw [answers, answers]

/-! ## The publications of a run -/

variable (platform)

/-- Publications in order, from a record to a record: each wrote a complete
record, and each record may follow the one before. -/
def Chronicle (previous : Option Identity) : List (Publication γ) → Option Identity → Prop
  | [], last => last = previous
  | publication :: rest, last =>
      ∃ identity : Identity, publication.contents = identity.encode platform ∧
        identity.WellFormed platform ∧ Follows publication.operation previous identity ∧
        Chronicle (some identity) rest last

variable {platform}

theorem Chronicle.concat {previous settled : Option Identity} {next : Identity}
    {past : List (Publication γ)} {publication : Publication γ}
    (chronicle : Chronicle platform previous past settled)
    (written : publication.contents = next.encode platform)
    (formed : next.WellFormed platform) (follows : Follows publication.operation settled next) :
    Chronicle platform previous (past ++ [publication]) (some next) := by
  induction past generalizing previous with
  | nil =>
      rw [Chronicle] at chronicle
      subst chronicle
      exact ⟨next, written, formed, follows, rfl⟩
  | cons earlier rest ih =>
      obtain ⟨identity, before, formed', follows', onward⟩ := chronicle
      exact ⟨identity, before, formed', follows', ih onward⟩

/-- What a loss of power leaves of a chronicle is one. -/
theorem Chronicle.take {previous last : Option Identity} {past : List (Publication γ)}
    (chronicle : Chronicle platform previous past last) (count : ℕ) :
    ∃ kept, Chronicle platform previous (past.take count) kept := by
  induction past generalizing previous count with
  | nil => exact ⟨previous, by rw [List.take_nil]; rfl⟩
  | cons publication rest ih =>
      cases count with
      | zero => exact ⟨previous, rfl⟩
      | succ count =>
          obtain ⟨identity, written, formed, follows, onward⟩ := chronicle
          obtain ⟨kept, onward⟩ := ih onward count
          exact ⟨kept, identity, written, formed, follows, onward⟩

theorem Chronicle.wellFormed {past : List (Publication γ)} {previous last : Option Identity}
    (chronicle : Chronicle platform previous past last)
    (first : ∀ identity ∈ previous, identity.WellFormed platform) :
    ∀ identity ∈ last, identity.WellFormed platform := by
  induction past generalizing previous with
  | nil =>
      rw [Chronicle] at chronicle
      rw [chronicle]
      exact first
  | cons publication rest ih =>
      obtain ⟨identity, _, formed, _, onward⟩ := chronicle
      apply ih onward
      intro other same
      cases same
      exact formed

theorem Chronicle.contents_last {past : List (Publication γ)} {last : Option Identity}
    (chronicle : Chronicle platform none past last) :
    past.getLast?.map Publication.contents = last.map (Identity.encode platform) := by
  have general : ∀ {previous : Option Identity} {past : List (Publication γ)},
      Chronicle platform previous past last →
        (past.getLast?.map Publication.contents).or
            (previous.map (Identity.encode platform)) =
          last.map (Identity.encode platform) := by
    intro previous past chronicle
    induction past generalizing previous with
    | nil =>
        rw [Chronicle] at chronicle
        rw [chronicle]
        rfl
    | cons publication rest ih =>
        obtain ⟨identity, written, _, _, onward⟩ := chronicle
        rw [← ih onward, List.getLast?_cons]
        cases rest.getLast? with
        | none => simp [written]
        | some later => rfl
  have whole := general chronicle
  rwa [Option.map_none, Option.or_none] at whole

/-- The file that holds the last of the publications. -/
def published (past : List (Publication γ)) : Option (StoredFile γ) :=
  past.getLast?.map fun publication => ⟨publication.contents, true⟩

/-- What is visible is where the publications lead. -/
theorem Chronicle.shows {past : List (Publication γ)} {visible : Option Identity}
    (chronicle : Chronicle platform none past visible) (shown : disk.canonical = published past) :
    Shows platform disk visible := by
  refine ⟨?_, chronicle.wellFormed nofun⟩
  have contents := congrArg (Option.map fun contents => (⟨contents, true⟩ : StoredFile γ))
    chronicle.contents_last
  rw [shown]
  simpa [published, Function.comp_def] using contents

/-- The files of publications are synced. -/
theorem settle_published (past : List (Publication γ)) (lost : γ) :
    (published past).map (·.settle lost) = published past := by
  rw [published, Option.map_map]
  rfl

end Records

section Chronicles

variable {γ : Type*} {platform : Platform γ} {previous last : Option Identity}
  {past : List (Publication γ)}

variable (chronicle : Chronicle platform previous past last)
include chronicle

theorem Chronicle.accepted :
    ∀ publication ∈ past, ∃ identity : Identity,
      publication.contents = identity.encode platform ∧
        Identity.accept platform publication.contents = .ok identity := by
  induction past generalizing previous with
  | nil => nofun
  | cons publication rest ih =>
      obtain ⟨identity, written, formed, _, onward⟩ := chronicle
      intro other member
      rcases List.mem_cons.mp member with rfl | member
      · exact ⟨identity, written, written ▸ formed.accept⟩
      · exact ih onward other member

/-- Neighbours in a chronicle, read back, follow one another. -/
theorem Chronicle.evolves :
    past.IsChain fun earlier later => ∀ previous next,
      Identity.accept platform earlier.contents = .ok previous →
        Identity.accept platform later.contents = .ok next →
          Evolves later.operation previous next := by
  induction past generalizing previous with
  | nil => exact .nil
  | cons publication rest ih =>
      obtain ⟨identity, written, formed, _, onward⟩ := chronicle
      cases rest with
      | nil => exact .singleton _
      | cons later rest =>
          refine .cons_cons ?_ (ih onward)
          intro earlier next before after
          obtain ⟨successor, written', formed', follows, _⟩ := onward
          rw [written, formed.accept] at before
          rw [written', formed'.accept] at after
          cases before
          cases after
          exact follows

theorem Chronicle.steady :
    past.Pairwise fun earlier later => ∀ previous next,
      Identity.accept platform earlier.contents = .ok previous →
        Identity.accept platform later.contents = .ok next →
          next.localPrivateKey = previous.localPrivateKey ∧
            next.localPublicKey = previous.localPublicKey ∧
            previous.generation ≤ next.generation := by
  have ahead : ∀ {identity : Identity} {past : List (Publication γ)},
      Chronicle platform (some identity) past last → ∀ later ∈ past, ∀ next,
        Identity.accept platform later.contents = .ok next →
          next.localPrivateKey = identity.localPrivateKey ∧
            next.localPublicKey = identity.localPublicKey ∧
            identity.generation ≤ next.generation := by
    intro identity past chronicle
    induction past generalizing identity with
    | nil => nofun
    | cons publication rest ih =>
        obtain ⟨successor, written, formed, follows, onward⟩ := chronicle
        intro later member next after
        rcases List.mem_cons.mp member with rfl | member
        · rw [written, formed.accept] at after
          cases after
          exact ⟨follows.privateKey, follows.publicKey, follows.generation_le⟩
        · obtain ⟨first, second, third⟩ := ih onward later member next after
          exact ⟨first.trans follows.privateKey, second.trans follows.publicKey,
            follows.generation_le.trans third⟩
  induction past generalizing previous with
  | nil => exact .nil
  | cons publication rest ih =>
      obtain ⟨identity, written, formed, _, onward⟩ := chronicle
      refine .cons ?_ (ih onward)
      intro later member earlier next before after
      rw [written, formed.accept] at before
      cases before
      exact ahead onward later member next after

end Chronicles

namespace IdentityStore

variable {γ : Type*} (platform : Platform γ)

/-! ## The invariant -/

/-- A caller that has found the directory in order finds it so later, and the temporary
file on its list is there until it is renamed. -/
def Fits (disk : Disk γ) (caller : Caller) : Prop :=
  caller.operation.valid = true ∧
    match caller.stage with
    | .looking listed =>
        disk.root = .controlled ∧ (listed = .temporary → disk.temporary.isSome = true)
    | .locking => disk.root = .controlled
    | _ => True

/-- The publications, what is visible and durable of them, and the remaining steps of the
running operation fit together. -/
structure Consistent (store : IdentityStore γ) (visible : Option Identity) : Prop where
  chronicle : Chronicle platform none store.publications visible
  shown : store.disk.canonical = published store.publications
  durable : store.disk.durable = published (store.publications.take store.synced)
  synced : store.synced ≤ store.publications.length
  seen : store.seen ≤ store.publications.length
  initialized : store.initialized = true → 0 < store.synced
  rooted : store.initialized = true ∨ store.running.isSome = true →
    store.disk.root = .controlled
  callers : ∀ caller ∈ store.callers, Fits store.disk caller
  lawful : ∀ running, store.running = some running → ∃ settled,
    (settled = true → store.synced = store.publications.length) ∧
      Lawful platform running.operation running.answer visible store.disk.temporary settled
        running.steps

variable {platform} {store next : IdentityStore γ} {visible : Option Identity}

/-- The operation in progress is about to remove a leftover temporary file. -/
def removes (self : IdentityStore γ) : Bool :=
  match self.running with
  | some running =>
      match running.steps with
      | (.removeTemporary, _) :: _ => true
      | _ => false
  | none => false

/-- The power is lost only when the directory and every publication that another operation
has had before it are durable, and no leftover is removed while it is on a list. -/
def Covered (store : IdentityStore γ) : StoreLabel γ → Prop
  | .powerLoss _ _ => store.initialized = true →
      store.disk.durableRoot = store.disk.root ∧ store.seen ≤ store.synced
  | .advance => store.removes = true → ∀ caller ∈ store.callers, caller.stage ≠ .looking .temporary
  | _ => True

instance (store : IdentityStore γ) (label : StoreLabel γ) : Decidable (Covered store label) := by
  cases label <;> (unfold Covered; infer_instance)

theorem consistent_virgin (root : RootEntry) :
    Consistent platform (virgin root : IdentityStore γ) none where
  chronicle := rfl
  shown := rfl
  durable := rfl
  synced := le_rfl
  seen := le_rfl
  initialized := nofun
  rooted := nofun
  callers := nofun
  lawful := nofun

variable {caller : Caller}

theorem Fits.mono {disk after : Disk γ} (fits : Fits disk caller)
    (root : disk.root = .controlled → after.root = .controlled)
    (temporary : caller.stage = .looking .temporary → disk.temporary.isSome = true →
      after.temporary.isSome = true) : Fits after caller := by
  refine ⟨fits.1, ?_⟩
  have here := fits.2
  cases stage : caller.stage with
  | looking listed =>
      rw [stage] at here
      refine ⟨root here.1, ?_⟩
      rintro rfl
      exact temporary stage (here.2 rfl)
  | locking =>
      rw [stage] at here
      exact root here
  | _ => exact trivial

/-- A caller whose list names a file that has been renamed. -/
theorem Fits.renamed {disk after : Disk γ} (fits : Fits disk caller)
    (root : after.root = disk.root) :
    Fits after caller.renamed := by
  by_cases listed : caller.stage = .looking .temporary
  · have here := fits.2
    rw [listed] at here
    refine ⟨fits.1, ?_⟩
    simp only [Caller.renamed, if_pos listed]
    exact ⟨root.trans here.1, nofun⟩
  · have same : caller.renamed = caller := by
      simp only [Caller.renamed, if_neg listed]
    rw [same]
    exact fits.mono (fun before => root.trans before) fun looks => absurd looks listed

theorem Caller.looked_cases (caller : Caller) :
    caller.looked = .locating ∨ caller.looked = .locking := by
  unfold Caller.looked
  split <;> simp

/-- What a caller does to the disk, and that it goes on in order. -/
theorem Fits.prepare {disk : Disk γ} (fits : Fits disk caller) (isPrivate : Bool) :
    ∃ root durableRoot after, caller.prepare disk isPrivate =
        ({ disk with root := root, durableRoot := durableRoot }, after) ∧
      (disk.root = .controlled → root = .controlled) ∧
      ∀ caller ∈ after, Fits { disk with root := root, durableRoot := durableRoot } caller := by
  obtain ⟨operation, present, stage⟩ := caller
  obtain ⟨valid, here⟩ := fits
  cases stage with
  | preparing =>
      cases found : disk.root with
      | controlled =>
          refine ⟨.controlled, disk.durableRoot, some ⟨operation, present,
            .looking (if disk.temporary.isSome then .temporary else .nothing)⟩, ?_, id, ?_⟩
          · simp only [Caller.prepare, Disk.prepareRoot, found]
            rw [← found]
          · rintro caller ⟨⟩
            refine ⟨valid, rfl, ?_⟩
            cases disk.temporary <;> simp
      | exposed =>
          refine ⟨.exposed, disk.durableRoot, none, ?_, id, nofun⟩
          simp only [Caller.prepare, Disk.prepareRoot, found]
          rw [← found]
      | missing =>
          cases operation with
          | init key =>
              refine ⟨.missing, disk.durableRoot, some ⟨.init key, present, .creating⟩, ?_, id, ?_⟩
              · simp only [Caller.prepare, Disk.prepareRoot, found]
                rw [← found]
              · rintro caller ⟨⟩
                exact ⟨valid, trivial⟩
          | _ =>
              refine ⟨.missing, disk.durableRoot, none, ?_, id, nofun⟩
              simp only [Caller.prepare, Disk.prepareRoot, found]
              rw [← found]
  | creating =>
      refine ⟨(disk.createRoot isPrivate).root, disk.durableRoot,
        some ⟨operation, present, .protecting⟩, ?_, ?_, ?_⟩
      · simp only [Caller.prepare, Disk.createRoot]
        split <;> rfl
      · intro controlled
        simp [Disk.createRoot, controlled]
      · rintro caller ⟨⟩
        exact ⟨valid, trivial⟩
  | protecting => exact ⟨_, _, _, rfl, fun _ => rfl, by rintro caller ⟨⟩; exact ⟨valid, trivial⟩⟩
  | syncing => exact ⟨_, _, _, rfl, id, by rintro caller ⟨⟩; exact ⟨valid, trivial⟩⟩
  | looking listed =>
      refine ⟨_, _, _, rfl, id, ?_⟩
      intro caller goes
      split at goes
      · cases goes
      · cases goes
        refine ⟨valid, ?_⟩
        obtain next | next :=
            Caller.looked_cases ⟨operation, present, .looking listed⟩ <;> rw [next]
        · exact trivial
        · exact here.1
  | locating => exact ⟨_, _, _, rfl, id, by rintro caller ⟨⟩; exact ⟨valid, trivial⟩⟩
  | locking => exact ⟨_, _, _, rfl, id, by rintro caller ⟨⟩; exact ⟨valid, here⟩⟩

/-! ## One step -/

section

variable (holds : Consistent platform store visible)
include holds

theorem Consistent.shows : Shows platform store.disk visible :=
  holds.chronicle.shows holds.shown

theorem Consistent.prepare {index : ℕ} (there : store.callers[index]? = some caller)
    (isPrivate : Bool) :
    Consistent platform (store.setCaller index (caller.prepare store.disk isPrivate)) visible := by
  obtain ⟨root, durableRoot, after, turn, still, onward⟩ :=
    (holds.callers caller (List.mem_of_getElem? there)).prepare isPrivate
  have others : ∀ other ∈ store.callers,
      Fits { store.disk with root := root, durableRoot := durableRoot } other :=
    fun other member => (holds.callers other member).mono still fun _ present => present
  rw [turn]
  refine { holds with rooted := fun busy => still (holds.rooted busy), callers := ?_ }
  intro other member
  cases after with
  | none => exact others other (List.mem_of_mem_eraseIdx member)
  | some after =>
      obtain before | rfl := List.mem_or_eq_of_mem_set member
      · exact others other before
      · exact onward other rfl

theorem Consistent.start {index : ℕ} (there : store.callers[index]? = some caller)
    (locking : caller.stage = .locking) :
    Consistent platform (store.start platform index caller) visible := by
  have fits := holds.callers caller (List.mem_of_getElem? there)
  have rooted := fits.2
  rw [locking] at rooted
  exact
    { holds with
      seen := le_rfl
      rooted := fun _ => rooted
      callers := fun other member => holds.callers other (List.mem_of_mem_eraseIdx member)
      lawful := by
        rintro running ⟨⟩
        exact ⟨false, nofun, lawful_plan holds.shows _ fits.1 false⟩ }

theorem Consistent.finish {running : Running γ} (current : store.running = some running)
    (done : running.steps = []) : Consistent platform (store.finish running.answer) visible := by
  obtain ⟨settled, whole, lawful⟩ := holds.lawful running current
  rw [done, Lawful] at lawful
  have rooted := holds.rooted (.inr (by rw [current]; rfl))
  exact
    { holds with
      initialized := by
        intro initialized
        rcases (Bool.or_eq_true _ _).mp initialized with earlier | now
        · exact holds.initialized earlier
        · split at now
          · rename_i key answered
            obtain ⟨known, there⟩ := lawful key answered
            have some_ : store.publications ≠ [] := by
              intro none_
              have chronicle := holds.chronicle
              rw [none_, Chronicle] at chronicle
              rw [chronicle] at there
              cases there
            exact (whole known).symm ▸ List.length_pos_iff.mpr some_
          · cases now
      rooted := fun _ => rooted
      lawful := nofun }

/-- A file-system step of the running operation keeps the store consistent: a rename makes a
successor of the visible record visible, and a directory sync makes it durable. -/
theorem Consistent.advance {running : Running γ} {step : FsStep γ} {error : StoreError}
    {rest : List (FsStep γ × StoreError)} (covered : Covered store .advance)
    (current : store.running = some running) (remaining : running.steps = (step, error) :: rest) :
    ∃ visible, Consistent platform (store.advance platform running) visible := by
  obtain ⟨settled, whole, lawful⟩ := holds.lawful running current
  rw [remaining] at lawful
  have rooted := holds.rooted (.inr (by rw [current]; rfl))
  obtain ⟨next, applied, ⟨quiet, unsynced, written, disk, onward⟩ |
    ⟨rfl, identity, rfl, formed, follows, onward⟩ | ⟨rfl, rfl, onward⟩⟩ := lawful.apply
  all_goals
    rw [IdentityStore.advance, remaining]
    simp only [applied]
  · refine ⟨visible, ?_⟩
    have same : store.recordStep running.operation next step = { store with disk := next } := by
      cases step <;> first | rfl | exact absurd rfl quiet | exact absurd rfl unsynced
    rw [same]
    rw [disk]
    exact
      { holds with
        rooted := fun _ => rooted
        callers := by
          intro caller member
          refine (holds.callers caller member).mono id fun listed _ => ?_
          refine written.resolve_left ?_
          rintro rfl
          refine covered ?_ caller member listed
          simp [removes, current, remaining]
        lawful := by
          rintro other ⟨⟩
          exact ⟨settled, whole, onward⟩ }
  · refine ⟨some identity, ?_⟩
    let latest : Publication γ := ⟨running.operation, identity.encode platform⟩
    have earlier : (store.publications ++ [latest]).take store.synced =
        store.publications.take store.synced := List.take_append_of_le_length holds.synced
    exact
      { chronicle := holds.chronicle.concat rfl formed follows
        shown := by simp [recordStep, published]
        durable := holds.durable.trans (congrArg published earlier.symm)
        synced := holds.synced.trans (by simp [recordStep])
        seen := holds.seen.trans (by simp [recordStep])
        initialized := holds.initialized
        rooted := fun _ => rooted
        callers := by
          intro caller member
          obtain ⟨before, listed, rfl⟩ := List.mem_map.mp member
          exact (holds.callers before listed).renamed rfl
        lawful := by
          rintro other ⟨⟩
          exact ⟨false, nofun, onward⟩ }
  · refine ⟨visible, ?_⟩
    exact
      { holds with
        durable := by
          simp only [recordStep, List.take_length]
          exact holds.shown
        synced := le_rfl
        initialized := fun initialized => (holds.initialized initialized).trans_le holds.synced
        rooted := fun _ => rooted
        callers := holds.callers
        lawful := by
          rintro other ⟨⟩
          exact ⟨true, fun _ => rfl, onward⟩ }

theorem Consistent.writeBack :
    Consistent platform
      { store with disk := store.disk.writeBack, synced := store.publications.length } visible :=
  { holds with
    durable := by rw [List.take_length]; exact holds.shown
    synced := le_rfl
    initialized := fun initialized => (holds.initialized initialized).trans_le holds.synced
    callers := holds.callers
    lawful := by
      intro running current
      obtain ⟨settled, _, lawful⟩ := holds.lawful running current
      exact ⟨settled, fun _ => rfl, lawful⟩ }

/-- What comes back with the power is the last durable publication, whole: the data of a
renamed file was synced before the rename. -/
theorem Consistent.powerLoss (lost : γ) (leftover : Option γ)
    (covered : Covered store (.powerLoss lost leftover)) :
    ∃ visible, Consistent platform (store.powerLoss lost leftover) visible := by
  by_cases gone : store.disk.durableRoot = .missing
  · have fresh : store.initialized ≠ true := by
      intro initialized
      have rooted := holds.rooted (.inl initialized)
      rw [← (covered initialized).1, gone] at rooted
      cases rooted
    refine ⟨none, ?_⟩
    simp only [IdentityStore.powerLoss, Disk.powerLoss, if_pos gone]
    exact
      { chronicle := rfl
        shown := rfl
        durable := rfl
        synced := le_rfl
        seen := by simp
        initialized := fun initialized => absurd initialized fresh
        rooted := by
          rintro (initialized | running)
          · exact absurd initialized fresh
          · cases running
        callers := nofun
        lawful := nofun }
  · obtain ⟨kept, chronicle⟩ := holds.chronicle.take store.synced
    refine ⟨kept, ?_⟩
    simp only [IdentityStore.powerLoss, Disk.powerLoss, if_neg gone, holds.durable,
      settle_published]
    exact
      { chronicle := chronicle
        shown := rfl
        durable := by rw [List.take_take, min_self]
        synced := by simp [holds.synced]
        seen := by simp [holds.synced]
        initialized := holds.initialized
        rooted := by
          rintro (initialized | running)
          · exact (covered initialized).1.trans (holds.rooted (.inl initialized))
          · cases running
        callers := nofun
        lawful := nofun }

/-- Every covered step keeps the store consistent. -/
theorem Consistent.step {label : StoreLabel γ} (covered : Covered store label)
    (moved : storeStep platform store label = some next) :
    ∃ visible, Consistent platform next visible := by
  cases label with
  | call operation =>
      simp only [storeStep, Option.ite_none_right_eq_some, Option.some.injEq] at moved
      obtain ⟨valid, rfl⟩ := moved
      refine ⟨visible, { holds with callers := fun caller member => ?_ }⟩
      obtain before | new := List.mem_append.mp member
      · exact holds.callers caller before
      · rw [List.mem_singleton.mp new]
        exact ⟨valid, trivial⟩
  | prepare index isPrivate =>
      obtain ⟨caller, there, rfl⟩ := Option.map_eq_some_iff.mp moved
      exact ⟨visible, holds.prepare there isPrivate⟩
  | leave index =>
      cases moved
      refine ⟨visible, { holds with callers := fun caller member => ?_ }⟩
      exact holds.callers caller (List.mem_of_mem_eraseIdx member)
  | lock index =>
      simp only [storeStep] at moved
      split at moved
      · rename_i caller _ there
        obtain ⟨locking, rfl⟩ := Option.ite_none_right_eq_some.mp moved |>.imp_right Option.some.inj
        exact ⟨visible, holds.start there locking⟩
      · cases moved
  | advance =>
      obtain ⟨running, current, rfl⟩ := Option.map_eq_some_iff.mp moved
      cases remaining : running.steps with
      | nil =>
          rw [IdentityStore.advance, remaining]
          exact ⟨visible, holds.finish current remaining⟩
      | cons head rest => exact holds.advance covered current remaining
  | stop =>
      cases moved
      refine ⟨visible, { holds with rooted := fun busy => ?_, lawful := nofun }⟩
      exact holds.rooted (.inl (busy.resolve_right nofun))
  | writeBack =>
      cases moved
      exact ⟨visible, holds.writeBack⟩
  | powerLoss lost leftover =>
      cases moved
      exact holds.powerLoss lost leftover covered

/-! ## What holds in every run -/

/-- What counts at a covered step counts after it. -/
theorem counted_of_step {label : StoreLabel γ} (initialized : store.initialized = true)
    (covered : Covered store label) (moved : storeStep platform store label = some next) :
    next.initialized = true ∧ store.counted <+: next.counted := by
  have whole : max store.seen store.synced ≤ store.publications.length :=
    max_le holds.seen holds.synced
  cases label with
  | call operation =>
      simp only [storeStep, Option.ite_none_right_eq_some, Option.some.injEq] at moved
      obtain ⟨_, rfl⟩ := moved
      exact ⟨initialized, List.prefix_rfl⟩
  | prepare index isPrivate =>
      obtain ⟨caller, _, rfl⟩ := Option.map_eq_some_iff.mp moved
      exact ⟨initialized, List.prefix_rfl⟩
  | leave index =>
      cases moved
      exact ⟨initialized, List.prefix_rfl⟩
  | lock index =>
      simp only [storeStep] at moved
      split at moved
      · obtain ⟨_, rfl⟩ := Option.ite_none_right_eq_some.mp moved |>.imp_right Option.some.inj
        exact ⟨initialized, List.take_prefix_take_left (whole.trans (le_max_left _ _))⟩
      · cases moved
  | advance =>
      obtain ⟨running, _, rfl⟩ := Option.map_eq_some_iff.mp moved
      unfold IdentityStore.advance
      split
      · exact ⟨by simp [finish, initialized], List.prefix_rfl⟩
      · split
        · exact ⟨by simp [finish, initialized], List.prefix_rfl⟩
        · rename_i step _ _ _ _ _ _
          cases step with
          | renameTemporary =>
              exact ⟨initialized, (List.prefix_append _ _).take _⟩
          | syncDirectory =>
              exact ⟨initialized, List.take_prefix_take_left (whole.trans (le_max_right _ _))⟩
          | _ => exact ⟨initialized, List.prefix_rfl⟩
  | stop =>
      cases moved
      exact ⟨initialized, List.prefix_rfl⟩
  | writeBack =>
      cases moved
      exact ⟨initialized, List.take_prefix_take_left (whole.trans (le_max_right _ _))⟩
  | powerLoss lost leftover =>
      cases moved
      obtain ⟨root, seen⟩ := covered initialized
      have there : store.disk.durableRoot ≠ .missing := by
        rw [root, holds.rooted (.inl initialized)]
        exact nofun
      have same : (store.powerLoss lost leftover).counted = store.counted := by
        simp only [counted, IdentityStore.powerLoss, if_neg there, max_eq_right seen,
          max_eq_right (min_le_right store.seen store.synced), List.take_take, min_self]
      exact ⟨initialized, same ▸ List.prefix_rfl⟩

end

theorem consistent_of_run {past : List (IdentityStore γ × StoreLabel γ)}
    (run : (machine platform).Run past store) (covered : StepSystem.Guarded Covered past) :
    ∃ visible, Consistent platform store visible := by
  apply run.invariant_of_guarded (P := fun store => ∃ visible, Consistent platform store visible)
    Covered _ _ covered
  · rintro start ⟨root, rfl⟩
    exact ⟨none, consistent_virgin root⟩
  · intro before label after holds covered moved
    obtain ⟨visible, holds⟩ := holds
    exact holds.step covered moved

theorem counted_of_run {past : List (IdentityStore γ × StoreLabel γ)}
    (run : (machine platform).Run past store) (covered : StepSystem.Guarded Covered past) :
    ∀ entry ∈ past, entry.1.initialized = true →
      store.initialized = true ∧ entry.1.counted <+: store.counted := by
  induction run with
  | start initial => exact fun _ member => absurd member List.not_mem_nil
  | step earlier moved ih =>
      obtain ⟨before, now⟩ := (StepSystem.guarded_concat _ _ _ _).mp covered
      obtain ⟨visible, holds⟩ := consistent_of_run earlier before
      intro entry member initialized
      obtain member | same := List.mem_append.mp member
      · obtain ⟨still, kept⟩ := ih before entry member initialized
        obtain ⟨after, onward⟩ := counted_of_step holds still now moved
        exact ⟨after, kept.trans onward⟩
      · rw [List.mem_singleton] at same
        subst same
        exact counted_of_step holds initialized now moved

variable (platform) in
/-- What the store promises in a state.

* The canonical file holds the last publication; once an initialization has
  succeeded there is one, and reading it succeeds.
* The publications are complete records that are read back, the first of them
  unpaired, and each follows the one before as the lifecycle allows. Any two of
  them have the same key pair and generations in order.
* The next step of the running operation succeeds, what an operation answers when
  nothing interrupts it does not depend on the temporary file it finds, and a
  temporary file on the list of a caller is there until it is renamed. -/
structure CrashSafe (store : IdentityStore γ) : Prop where
  present : store.initialized = true →
    ∃ identity, store.disk.readUnlocked platform = .ok identity
  canonical : store.disk.canonical.map StoredFile.contents =
    store.publications.getLast?.map Publication.contents
  accepted : ∀ publication ∈ store.publications, ∃ identity : Identity,
    publication.contents = identity.encode platform ∧
      Identity.accept platform publication.contents = .ok identity
  first : ∀ publication ∈ store.publications.head?, ∀ identity,
    Identity.accept platform publication.contents = .ok identity →
      identity.peer = .unpaired ∧ identity.generation = 0
  evolves : store.publications.IsChain fun earlier later => ∀ previous next,
    Identity.accept platform earlier.contents = .ok previous →
      Identity.accept platform later.contents = .ok next →
        Evolves later.operation previous next
  steady : store.publications.Pairwise fun earlier later => ∀ previous next,
    Identity.accept platform earlier.contents = .ok previous →
      Identity.accept platform later.contents = .ok next →
        next.localPrivateKey = previous.localPrivateKey ∧
          next.localPublicKey = previous.localPublicKey ∧
          previous.generation ≤ next.generation
  unobstructed : ∀ running step error rest, store.running = some running →
    running.steps = (step, error) :: rest → (store.disk.apply platform step).isSome = true
  leftover : ∀ present operation leftover, operation.valid = true →
    carryOut platform { store.disk with temporary := leftover } present operation =
      carryOut platform { store.disk with temporary := none } present operation
  listed : ∀ caller ∈ store.callers, caller.stage = .looking .temporary →
    store.disk.temporary.isSome = true

theorem Consistent.crashSafe (holds : Consistent platform store visible) :
    store.CrashSafe platform where
  present := by
    intro initialized
    have some_ := (holds.initialized initialized).trans_le holds.synced
    obtain ⟨error, failed⟩ | ⟨identity, _, _, read⟩ := holds.shows.readUnlocked
    · have last : store.disk.canonical.isSome = true := by
        rw [holds.shown, published, Option.isSome_map, List.getLast?_isSome]
        exact List.length_pos_iff.mp some_
      obtain ⟨identity, rfl⟩ : ∃ identity, visible = some identity := by
        rw [holds.shows.1, Option.isSome_map] at last
        exact Option.isSome_iff_exists.mp last
      refine ⟨identity, ?_⟩
      rw [Disk.readUnlocked, Disk.prepareRoot, holds.rooted (.inl initialized), holds.shows.1]
      exact (holds.shows.2 identity rfl).accept
    · exact ⟨identity, read⟩
  canonical := by
    rw [holds.shown, published, Option.map_map]
    rfl
  accepted := holds.chronicle.accepted
  first := by
    intro publication member identity read
    have chronicle := holds.chronicle
    cases all : store.publications with
    | nil => simp [all] at member
    | cons head rest =>
        rw [all] at chronicle member
        cases member
        obtain ⟨record, written, formed, follows, _⟩ := chronicle
        rw [written, formed.accept] at read
        cases read
        exact follows
  evolves := holds.chronicle.evolves
  steady := holds.chronicle.steady
  unobstructed := by
    intro running step error rest current remaining
    obtain ⟨settled, _, lawful⟩ := holds.lawful running current
    rw [remaining] at lawful
    obtain ⟨next, applied, _⟩ := lawful.apply
    rw [applied]
    rfl
  leftover present operation leftover valid := carryOut_leftover holds.shows leftover present valid
  listed := by
    intro caller member looks
    have here := (holds.callers caller member).2
    rw [looks] at here
    exact here.2 rfl

/-- **Crash safety.** In a run of covered steps the store keeps its promise in every state,
and from an initialization on no publication is taken back that is durable or that
another operation has had before it. -/
theorem crash_safe {past : List (IdentityStore γ × StoreLabel γ)}
    (run : (machine platform).Run past store) (covered : StepSystem.Guarded Covered past) :
    StepSystem.Throughout (CrashSafe platform) past store ∧
      ∀ entry ∈ past, entry.1.initialized = true →
        entry.1.counted <+: store.publications := by
  constructor
  · apply run.throughout_of_guarded (I := fun store => ∃ visible, Consistent platform store visible)
      _ _ _ covered
    · rintro start ⟨root, rfl⟩
      exact ⟨none, consistent_virgin root⟩
    · intro before label after holds covered moved
      obtain ⟨visible, holds⟩ := holds
      exact holds.step covered moved
    · rintro here ⟨visible, holds⟩
      exact holds.crashSafe
  · intro entry member initialized
    exact (counted_of_run run covered entry member initialized).2.trans (List.take_prefix _ _)

/-! ## A concrete run -/

def sampleKey : Vector UInt8 32 :=
  #v[0x77, 0x07, 0x6d, 0x0a, 0x73, 0x18, 0xa5, 0x7d, 0x3c, 0x16, 0xc1, 0x72, 0x51, 0xb2, 0x66, 0x45,
    0xdf, 0x4c, 0x2f, 0x87, 0xeb, 0xc0, 0x99, 0x2a, 0xb1, 0x77, 0xfb, 0xa5, 0x1d, 0xb9, 0x2c, 0x2a]

def samplePublicKey : Vector UInt8 32 :=
  #v[0x85, 0x20, 0xf0, 0x09, 0x89, 0x30, 0xa7, 0x54, 0x74, 0x8b, 0x7d, 0xdc, 0xb4, 0x3e, 0xf7, 0x5a,
    0x0d, 0xbf, 0x3a, 0x0d, 0x26, 0x38, 0x1a, 0xf4, 0xeb, 0xa4, 0xa9, 0x8e, 0xaa, 0x9b, 0x4e, 0x6a]

/-- Files hold their JSON value, and one private key has its public key. -/
def samplePlatform : Platform (Option Json) where
  print := some
  parse := id
  empty := none
  publicKey key := if key = sampleKey.toList then samplePublicKey.toList else List.replicate 32 0
  parse_print := fun _ => rfl
  length_publicKey key := by
    split <;> simp

/-- A caller goes through a directory that is in order and gets the lock. -/
def enters (operation : Operation) : List (StoreLabel (Option Json)) :=
  [.call operation, .prepare 0 true, .prepare 0 true, .lock 0]

/-- An initialization that makes the directory and succeeds. -/
def initializes : List (StoreLabel (Option Json)) :=
  .call (.init sampleKey) :: List.replicate 9 (.prepare 0 true) ++
    .lock 0 :: List.replicate 7 .advance

def pending : Operation :=
  .setPeer (.pending (hex samplePublicKey.toList) (hex (List.replicate 16 7)))

/-- A pairing that is killed with its temporary file written, a read that removes the file,
and a pairing whose rename a loss of power takes back. -/
def sampleRun : List (StoreLabel (Option Json)) :=
  initializes ++ enters pending ++ List.replicate 3 .advance ++ [.stop] ++
    enters .read ++ List.replicate 3 .advance ++ enters pending ++ List.replicate 5 .advance ++
      [.powerLoss none (some none), .call .read, .prepare 0 true]

/-- The store keeps its promise on that run, of which the initialization is left. -/
theorem crash_safe_after_crash :
    ∃ past store, (machine samplePlatform).Run past store ∧ store.initialized = true ∧
      store.publications.length = 1 ∧ store.callers.length = 1 ∧
      StepSystem.Throughout (CrashSafe samplePlatform) past store := by
  have replayed : ((machine samplePlatform).execute (virgin .missing) sampleRun).map
      (fun store => (store.initialized, store.publications.length, store.callers.length)) =
        some (true, 1, 1) := by
    decide +kernel
  have along : (machine samplePlatform).Along Covered (virgin .missing) sampleRun := by
    decide +kernel
  obtain ⟨past, store, run, covered, facts⟩ :=
    StepSystem.exists_guarded_of_map along replayed ⟨.missing, rfl⟩
  simp only [Prod.mk.injEq] at facts
  exact ⟨past, store, run, facts.1, facts.2.1, facts.2.2, (crash_safe run covered).1⟩

/-- An unpair that is killed between its first rename and its sync, and a read that finds
the revocation. -/
def revokedUnsynced : List (StoreLabel (Option Json)) :=
  initializes ++ enters pending ++ List.replicate 7 .advance ++
    enters (.unpair (hex samplePublicKey.toList) true) ++ List.replicate 5 .advance ++ [.stop] ++
      enters .read ++ [.advance]

/-- A pairing that is killed with its temporary file written, and a read that has it on its
list while another one removes it. -/
def listedAndRemoved : List (StoreLabel (Option Json)) :=
  initializes ++ enters pending ++ List.replicate 3 .advance ++ [.stop] ++
    enters .read ++ [.call .read, .prepare 0 true, .advance]

def readBack (store : IdentityStore (Option Json)) : Option Identity :=
  (store.disk.readUnlocked samplePlatform).toOption

def sampleRecord (generation : ℕ) (peer : PeerState Text Text) : Identity :=
  ⟨1, hex sampleKey.toList, hex samplePublicKey.toList, generation, peer⟩

/-- A loss of power takes a revocation back that an operation has read, and a leftover
temporary file makes an operation fail. -/
theorem crash_unsafe :
    (∃ before after : IdentityStore (Option Json),
      (machine samplePlatform).Reachable before ∧ before.initialized = true ∧
        storeStep samplePlatform before (.powerLoss none none) = some after ∧
        readBack before = some (sampleRecord 1
          (.revoking (hex samplePublicKey.toList) (hex (List.replicate 16 7)))) ∧
        readBack after = some (sampleRecord 0
          (.pending (hex samplePublicKey.toList) (hex (List.replicate 16 7))))) ∧
    ∃ store : IdentityStore (Option Json), (machine samplePlatform).Reachable store ∧
      store.initialized = true ∧ store.callers = [⟨.read, none, .looking .temporary⟩] ∧
      (Caller.prepare ⟨.read, none, .looking .temporary⟩ store.disk true).2 = none := by
  constructor
  · have replayed : ((machine samplePlatform).execute (virgin .missing) revokedUnsynced).map
        (fun store => (store.initialized, readBack store, readBack (store.powerLoss none none))) =
          some (true,
            some (sampleRecord 1
              (.revoking (hex samplePublicKey.toList) (hex (List.replicate 16 7)))),
            some (sampleRecord 0
              (.pending (hex samplePublicKey.toList) (hex (List.replicate 16 7))))) := by
      decide +kernel
    obtain ⟨before, reachable, facts⟩ :=
      StepSystem.exists_reachable_of_map replayed ⟨.missing, rfl⟩
    simp only [Prod.mk.injEq] at facts
    exact ⟨before, _, reachable, facts.1, rfl, facts.2⟩
  · have replayed : ((machine samplePlatform).execute (virgin .missing) listedAndRemoved).map
        (fun store => (store.initialized, store.callers, store.disk.temporary.isNone)) =
          some (true, [⟨.read, none, .looking .temporary⟩], true) := by
      decide +kernel
    obtain ⟨store, reachable, facts⟩ := StepSystem.exists_reachable_of_map replayed ⟨.missing, rfl⟩
    simp only [Prod.mk.injEq] at facts
    refine ⟨store, reachable, facts.1, facts.2.1, ?_⟩
    simp [Caller.prepare, facts.2.2]

end IdentityStore

end Deskkin
