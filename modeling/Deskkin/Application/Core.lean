/-
# Lifecycle events and effect identities

The vocabulary every application feature shares: the three lifecycle events and
the identity of an effect, a nonzero 64-bit number that its feature allocates in
increasing order. The two features of the application spell out the same
identity check, the same allocation and the same publication over their own
types, so the three are stated here once with those types as parameters.
-/

import Deskkin.Lib.Checked
import Deskkin.Lib.Fallible

namespace Deskkin

/-- The events the composition broadcasts to its features. -/
inductive Lifecycle
  | start
  | stop
  | sessionInvalidated
  deriving DecidableEq

/-- An effect identity is never zero. -/
@[ext]
structure LocalEffectId where
  get : ℕ
  nonzero : get ≠ 0
  deriving DecidableEq

namespace LocalEffectId

/-- Only a nonzero value is an identity. -/
def new (value : ℕ) : Option LocalEffectId :=
  if nonzero : value ≠ 0 then some ⟨value, nonzero⟩ else none

@[simp]
theorem new_eq_some_iff {value : ℕ} {id : LocalEffectId} :
    new value = some id ↔ value = id.get := by
  unfold new
  split
  · constructor
    · intro h
      cases h
      rfl
    · rintro rfl
      rfl
  · rename_i zero
    constructor
    · intro h
      cases h
    · rintro rfl
      exact absurd id.nonzero zero

@[simp]
theorem new_get (id : LocalEffectId) : new id.get = some id := by
  simp

end LocalEffectId

variable {ε : Type*}

/-- Compare the identity an input carries with the outstanding one. -/
def ensureId (mismatch : LocalEffectId → LocalEffectId → ε)
    (expected actual : LocalEffectId) : Except ε Unit :=
  if expected = actual then .ok () else .error (mismatch expected actual)

@[simp]
theorem ensureId_eq_ok_iff {mismatch : LocalEffectId → LocalEffectId → ε}
    {expected actual : LocalEffectId} {u : Unit} :
    ensureId mismatch expected actual = .ok u ↔ expected = actual := by
  unfold ensureId
  split <;> simp_all

@[simp]
theorem ensureId_self (mismatch : LocalEffectId → LocalEffectId → ε) (id : LocalEffectId) :
    ensureId mismatch id id = .ok () := by
  simp

/-- Allocate the identity after the last one, or report that none is left. -/
def allocateId (exhausted : ε) (nextEffectId : ℕ) : Except ε LocalEffectId :=
  match Checked.add Checked.u64Max nextEffectId 1 with
  | none => .error exhausted
  | some next =>
      match LocalEffectId.new next with
      | none => .error exhausted
      | some id => .ok id

/-- An allocated identity is the successor of the last one, and it fits. -/
@[simp]
theorem allocateId_eq_ok_iff {exhausted : ε} {nextEffectId : ℕ} {id : LocalEffectId} :
    allocateId exhausted nextEffectId = .ok id ↔
      id.get = nextEffectId + 1 ∧ nextEffectId < Checked.u64Max := by
  cases added : Checked.add Checked.u64Max nextEffectId 1 with
  | none =>
      rw [Checked.add_eq_none_iff] at added
      simp only [allocateId, Checked.add_eq_none_iff.mpr added, reduceCtorEq, false_iff, not_and]
      omega
  | some next =>
      obtain ⟨rfl, fits⟩ := Checked.add_eq_some_iff.mp added
      have fresh : LocalEffectId.new (nextEffectId + 1) =
          some ⟨nextEffectId + 1, Nat.succ_ne_zero _⟩ := by simp
      simp only [allocateId, added, fresh, Except.ok.injEq, LocalEffectId.ext_iff]
      omega

/-- Publish the copy a successful operation worked on, with a report about it. -/
def publish {η φ τ : Type*} (report : φ → Option η → τ)
    (result : Except ε (Option η × φ)) : Except ε (τ × φ) :=
  match result with
  | .error error => .error error
  | .ok (effect, candidate) => .ok (report candidate effect, candidate)

@[simp]
theorem publish_eq_ok_iff {η φ τ : Type*} {report : φ → Option η → τ}
    {result : Except ε (Option η × φ)} {reported : τ} {next : φ} :
    publish report result = .ok (reported, next) ↔
      ∃ effect, result = .ok (effect, next) ∧ report next effect = reported := by
  cases result with
  | error error => simp [publish]
  | ok value =>
      simp only [publish, Except.ok.injEq, Prod.mk.injEq]
      refine ⟨?_, ?_⟩
      · intro h
        obtain ⟨reportEq, rfl⟩ := h
        exact ⟨value.1, rfl, reportEq⟩
      · intro h
        obtain ⟨effect, rfl, reportEq⟩ := h
        exact ⟨reportEq, rfl⟩

end Deskkin
