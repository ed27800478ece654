/-
# Relays over a ring of slots

Items are handed in one after the other, received by a worker that has one of them at a
time, finished by it and taken back in the same order. Each item lives in a slot, and the
slots are used in turn. What is known of such a relay are four counts. This module says
which slots are in use: as long as no more items are under way than there are slots, the
next slot is free exactly if one item fewer is, and otherwise the item taken back next is
the one that makes it free.

Nothing here depends on what the items are and what the slots hold.
-/

import Mathlib.Data.Nat.ModEq

/-- How many items were handed in, received, finished and taken back. -/
@[ext]
structure Relay where
  submitted : ℕ
  received : ℕ
  finished : ℕ
  taken : ℕ

namespace Relay

variable {slots : ℕ} {relay : Relay}

/-- Nothing is ahead of what it depends on, the worker has at most one item, and there is a
slot for every item under way. -/
structure Ordered (slots : ℕ) (relay : Relay) : Prop where
  received_le : relay.received ≤ relay.submitted
  finished_le : relay.finished ≤ relay.received
  taken_le : relay.taken ≤ relay.finished
  single : relay.received ≤ relay.finished + 1
  room : relay.submitted ≤ relay.taken + slots

/-- What can happen next. -/
inductive Move (slots : ℕ) (relay : Relay) : Relay → Prop
  | submit (room : relay.submitted < relay.taken + slots) :
      Move slots relay { relay with submitted := relay.submitted + 1 }
  | receive (idle : relay.received = relay.finished)
      (waiting : relay.received < relay.submitted) :
      Move slots relay { relay with received := relay.received + 1 }
  | finish (busy : relay.finished < relay.received) :
      Move slots relay { relay with finished := relay.finished + 1 }
  | take (done : relay.taken < relay.finished) :
      Move slots relay { relay with taken := relay.taken + 1 }

theorem Move.ordered {after : Relay} (move : Move slots relay after)
    (ordered : relay.Ordered slots) : after.Ordered slots := by
  obtain ⟨received_le, finished_le, taken_le, single, room⟩ := ordered
  cases move <;> constructor <;> dsimp only <;> omega

/-- The slot is that of an item which is under way. -/
def Outstanding (slots : ℕ) (relay : Relay) (slot : ℕ) : Prop :=
  ∃ item, relay.taken ≤ item ∧ item < relay.submitted ∧ item % slots = slot

/-- Fewer items apart than there are slots, two items have different slots. -/
theorem slot_ne {first second : ℕ} (later : first < second) (near : second < first + slots) :
    first % slots ≠ second % slots := by
  intro same
  have multiple := Nat.sub_mod_eq_zero_of_mod_eq same.symm
  rw [Nat.mod_eq_of_lt (by omega)] at multiple
  omega

/-- The next slot is free if there is room for one more item. -/
theorem not_outstanding_next (room : relay.submitted < relay.taken + slots) :
    ¬relay.Outstanding slots (relay.submitted % slots) := by
  rintro ⟨item, underWay, before, same⟩
  exact slot_ne before (by omega) same

/-- If the next slot is in use, then all of them are. -/
theorem full_of_outstanding_next (ordered : relay.Ordered slots)
    (outstanding : relay.Outstanding slots (relay.submitted % slots)) :
    relay.submitted = relay.taken + slots := by
  by_contra room
  exact not_outstanding_next (ordered.room.lt_of_ne room) outstanding

theorem outstanding_taken (underWay : relay.taken < relay.submitted) :
    relay.Outstanding slots (relay.taken % slots) :=
  ⟨relay.taken, le_rfl, underWay, rfl⟩

/-- If the next slot is free, then there is room for one more item. -/
theorem room_of_free (positive : 0 < slots) (ordered : relay.Ordered slots)
    (free : ¬relay.Outstanding slots (relay.submitted % slots)) :
    relay.submitted < relay.taken + slots := by
  refine ordered.room.lt_of_ne fun full => free ?_
  have same : relay.submitted % slots = relay.taken % slots := by
    rw [full, Nat.add_mod_right]
  rw [same]
  exact outstanding_taken (full ▸ Nat.lt_add_of_pos_right positive)

/-- An item that is handed in uses the next slot. -/
theorem outstanding_submit (ordered : relay.Ordered slots) (slot : ℕ) :
    Outstanding slots { relay with submitted := relay.submitted + 1 } slot ↔
      relay.Outstanding slots slot ∨ relay.submitted % slots = slot := by
  constructor
  · rintro ⟨item, underWay, before, same⟩
    by_cases last : item = relay.submitted
    · exact .inr (last ▸ same)
    · exact .inl ⟨item, underWay, by dsimp only at before; omega, same⟩
  · rintro (⟨item, underWay, before, same⟩ | same)
    · exact ⟨item, underWay, Nat.lt_succ_of_lt before, same⟩
    · refine ⟨relay.submitted, ?_, Nat.lt_succ_self _, same⟩
      exact ordered.taken_le.trans (ordered.finished_le.trans ordered.received_le)

/-- An item that is taken back makes its slot free and no other. -/
theorem outstanding_take (ordered : relay.Ordered slots) (slot : ℕ) :
    Outstanding slots { relay with taken := relay.taken + 1 } slot ↔
      relay.Outstanding slots slot ∧ slot ≠ relay.taken % slots := by
  have room := ordered.room
  constructor
  · rintro ⟨item, later, before, rfl⟩
    dsimp only at later before
    exact ⟨⟨item, by omega, before, rfl⟩, (slot_ne (by omega) (by omega)).symm⟩
  · rintro ⟨⟨item, later, before, rfl⟩, other⟩
    refine ⟨item, Nat.succ_le_of_lt (lt_of_le_of_ne later ?_), before, rfl⟩
    rintro rfl
    exact other rfl

end Relay
