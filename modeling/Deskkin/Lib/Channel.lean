/-
# Bounded channels

A channel between two parties holds at most a fixed number of messages and
gives them back in the order in which they were sent. Neither end waits here:
sending to a full channel and receiving from an empty one fail, and a party
that blocks is one that has no step until the call would succeed.

Nothing here depends on what the messages are.
-/

import Mathlib.Data.List.Basic

/-- The messages under way, oldest first. -/
@[ext]
structure Channel (α : Type*) (capacity : ℕ) where
  messages : List α
  bounded : messages.length ≤ capacity

namespace Channel

variable {α : Type*} {capacity : ℕ}

instance [DecidableEq α] : DecidableEq (Channel α capacity) := fun first second =>
  decidable_of_iff (first.messages = second.messages) Channel.ext_iff.symm

def empty : Channel α capacity := ⟨[], Nat.zero_le _⟩

/-- Send a message, unless the channel is full. -/
def trySend (channel : Channel α capacity) (message : α) : Option (Channel α capacity) :=
  if room : channel.messages.length < capacity then
    some ⟨channel.messages ++ [message], by rw [List.length_append]; exact room⟩
  else none

/-- Receive the oldest message, if there is one. -/
def tryRecv (channel : Channel α capacity) : Option (α × Channel α capacity) :=
  match channel with
  | ⟨[], _⟩ => none
  | ⟨message :: rest, bounded⟩ => some (message, ⟨rest, Nat.le_of_succ_le bounded⟩)

@[simp]
theorem messages_empty : (empty : Channel α capacity).messages = [] := rfl

variable {channel later : Channel α capacity} {message : α}

theorem trySend_eq_some_iff : channel.trySend message = some later ↔
    later.messages = channel.messages ++ [message] := by
  unfold trySend
  split
  · rw [Option.some.injEq, Channel.ext_iff]
    exact eq_comm
  · rename_i full
    constructor
    · intro impossible
      cases impossible
    · intro sent
      have bounded := later.bounded
      rw [sent, List.length_append] at bounded
      exact absurd bounded full

theorem exists_trySend (room : channel.messages.length < capacity) (message : α) :
    ∃ later, channel.trySend message = some later :=
  ⟨_, dif_pos room⟩

theorem tryRecv_eq_some_iff : channel.tryRecv = some (message, later) ↔
    channel.messages = message :: later.messages := by
  obtain ⟨messages, bounded⟩ := channel
  cases messages with
  | nil => simp [tryRecv]
  | cons first rest => simp [tryRecv, Channel.ext_iff]

theorem exists_tryRecv {rest : List α} (there : channel.messages = message :: rest) :
    ∃ later, channel.tryRecv = some (message, later) := by
  have bounded := channel.bounded
  rw [there, List.length_cons] at bounded
  exact ⟨⟨rest, Nat.le_of_succ_le bounded⟩, tryRecv_eq_some_iff.mpr there⟩

theorem tryRecv_eq_none_iff : channel.tryRecv = none ↔ channel.messages = [] := by
  obtain ⟨messages, bounded⟩ := channel
  cases messages with
  | nil => simp [tryRecv]
  | cons first rest => simp [tryRecv]

end Channel
