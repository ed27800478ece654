/-
# Locks with one holder

A lock is held by at most one party, and a party knows by its place in its own
code whether it holds the lock. The two agree as long as every step of a party
keeps the lock as it is, takes it while it is free, or drops it while the party
holds it. A party that dies drops what it holds, so its death is such a step too.

Nothing here depends on what the parties are and what the lock protects.
-/

import Mathlib.Logic.Function.Basic

universe u

namespace ExclusiveLock

variable {κ : Type u}

/-- The lock is held by exactly those who take themselves for its holder. -/
def HeldBy (lock : Option κ) (holds : κ → Prop) : Prop :=
  ∀ party, lock = some party ↔ holds party

/-- What one step of a party does to the lock. -/
inductive LockUse
  | keep
  | take
  | drop
  deriving DecidableEq

namespace LockUse

def apply (party : κ) (lock : Option κ) : LockUse → Option κ
  | keep => lock
  | take => some party
  | drop => none

/-- A step keeps the discipline if it takes a free lock only and drops its own
lock only, and if its party knows afterwards what it did. -/
def Allowed (lock : Option κ) (before after : Prop) : LockUse → Prop
  | keep => after ↔ before
  | take => lock = none ∧ after
  | drop => before ∧ ¬after

end LockUse

namespace HeldBy

variable {lock : Option κ} {holds after : κ → Prop}

theorem unique (held : HeldBy lock holds) {first second : κ} (one : holds first)
    (other : holds second) : first = second := by
  have here := (held first).mpr one
  rw [(held second).mpr other] at here
  exact (Option.some.inj here).symm

theorem nobody (held : HeldBy lock holds) (free : lock = none) (party : κ) : ¬holds party := by
  intro taken
  have here := (held party).mpr taken
  rw [free] at here
  cases here

theorem of_free (free : lock = none) (nobody : ∀ party, ¬holds party) : HeldBy lock holds := by
  intro party
  rw [free]
  exact ⟨nofun, fun taken => absurd taken (nobody party)⟩

/-- **One step.** The holder is known after every step of one party that keeps the
discipline, if the step changes nothing for the others. -/
theorem step (held : HeldBy lock holds) {party : κ} {use : LockUse}
    (others : ∀ other, other ≠ party → (after other ↔ holds other))
    (allowed : use.Allowed lock (holds party) (after party)) :
    HeldBy (use.apply party lock) after := by
  intro other
  cases use with
  | keep =>
      by_cases same : other = party
      · rw [same]
        exact (held party).trans allowed.symm
      · exact (held other).trans (others other same).symm
  | take =>
      by_cases same : other = party
      · rw [same]
        exact ⟨fun _ => allowed.2, fun _ => rfl⟩
      · rw [others other same]
        constructor
        · intro taken
          exact absurd (Option.some.inj taken).symm same
        · intro taken
          exact absurd taken (held.nobody allowed.1 other)
  | drop =>
      refine ⟨nofun, fun taken => ?_⟩
      by_cases same : other = party
      · rw [same] at taken
        exact absurd taken allowed.2
      · have holder := (others other same).mp taken
        exact absurd (held.unique holder allowed.1) same

end HeldBy

end ExclusiveLock
