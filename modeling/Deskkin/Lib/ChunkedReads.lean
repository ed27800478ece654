/-
# Streams that arrive in chunks

What is read of a stream arrives in chunks of any size, as the system happens to have
them. A reader that asks for no more than it still needs gets the same bytes however
they are cut, and leaves the rest.
-/

import Mathlib.Algebra.Order.Ring.Nat
import Mathlib.Data.List.TakeDrop

namespace ChunkedReads

variable {α : Type}

/-- What has not been read yet, and how many reads were made. -/
structure Line (α : Type) where
  rest : List α
  reads : ℕ
  deriving DecidableEq

/-- How much a read brings, given how much is ready at each of them. -/
def amount (ready : ℕ → ℕ) (reads : ℕ) : ℕ := max 1 (ready reads)

/-- One read of at most so many; it waits until something is there, and only the end of
the stream makes it fail. -/
def read (ready : ℕ → ℕ) (limit : ℕ) (line : Line α) : Option (List α × Line α) :=
  if line.rest.isEmpty then none
  else
    let count := min limit (amount ready line.reads)
    some (line.rest.take count, ⟨line.rest.drop count, line.reads + 1⟩)

/-- Reads until so many are there. Each round gets at least one. -/
def readUntil (ready : ℕ → ℕ) : ℕ → ℕ → Line α → Option (List α × Line α)
  | _, 0, line => some ([], line)
  | 0, _ + 1, _ => none
  | rounds + 1, missing + 1, line => do
      let chunk ← read ready (missing + 1) line
      let others ← readUntil ready rounds (missing + 1 - chunk.1.length) chunk.2
      return (chunk.1 ++ others.1, others.2)

def readExact (ready : ℕ → ℕ) (length : ℕ) (line : Line α) : Option (List α × Line α) :=
  readUntil ready length length line

/-- What so many reads bring when nothing limits them. -/
def delivered (ready : ℕ → ℕ) : ℕ → ℕ → ℕ
  | _, 0 => 0
  | reads, count + 1 => amount ready reads + delivered ready (reads + 1) count

theorem amount_pos (ready : ℕ → ℕ) (reads : ℕ) : 0 < amount ready reads :=
  Nat.lt_of_lt_of_le Nat.zero_lt_one (Nat.le_max_left _ _)

variable {ready : ℕ → ℕ} {line next : Line α} {bytes : List α}

theorem readUntil_eq {rounds missing : ℕ} {line : Line α} (enough : missing ≤ rounds)
    (inside : missing ≤ line.rest.length) :
    ∃ reads, readUntil ready rounds missing line =
      some (line.rest.take missing, ⟨line.rest.drop missing, reads⟩) := by
  induction rounds generalizing missing line with
  | zero =>
      rw [Nat.le_zero.mp enough]
      exact ⟨line.reads, rfl⟩
  | succ rounds ih =>
      cases missing with
      | zero => exact ⟨line.reads, rfl⟩
      | succ missing =>
          have positive := amount_pos ready line.reads
          have nonempty : line.rest.isEmpty = false := by
            rw [List.isEmpty_eq_false_iff]
            rintro none
            rw [none] at inside
            cases inside
          generalize chosen : min (missing + 1) (amount ready line.reads) = count
          have least : 0 < count := by omega
          have most : count ≤ missing + 1 := by omega
          have chunk : (line.rest.take count).length = count := by
            rw [List.length_take]
            omega
          obtain ⟨reads, others⟩ := @ih (missing + 1 - count)
            ⟨line.rest.drop count, line.reads + 1⟩ (by omega) (by rw [List.length_drop]; omega)
          have whole : line.rest.take count ++ (line.rest.drop count).take (missing + 1 - count) =
              line.rest.take (missing + 1) := by
            rw [← List.take_add, Nat.add_sub_cancel' most]
          refine ⟨reads, ?_⟩
          rw [readUntil, read, nonempty, if_neg Bool.false_ne_true, chosen, Option.bind_eq_bind,
            Option.bind_some, chunk, others, Option.bind_some, List.drop_drop,
            Nat.add_sub_cancel' most]
          exact congrArg (fun bytes =>
            some (bytes, (⟨line.rest.drop (missing + 1), reads⟩ : Line α))) whole

/-- **An exact reader does not see the chunks.** -/
theorem readExact_eq (ready : ℕ → ℕ) {length : ℕ} {line : Line α}
    (inside : length ≤ line.rest.length) :
    ∃ reads, readExact ready length line =
      some (line.rest.take length, ⟨line.rest.drop length, reads⟩) :=
  readUntil_eq (Nat.le_refl _) inside

/-- What is read and what is left is what was there. -/
theorem read_append {limit : ℕ} (got : read ready limit line = some (bytes, next)) :
    bytes ++ next.rest = line.rest ∧ bytes.length ≤ limit := by
  rw [read] at got
  split at got
  · cases got
  · cases got
    refine ⟨List.take_append_drop _ _, ?_⟩
    exact (List.length_take_le _ _).trans (Nat.min_le_left _ _)

theorem readUntil_append {rounds missing : ℕ}
    (got : readUntil ready rounds missing line = some (bytes, next)) :
    bytes ++ next.rest = line.rest ∧ bytes.length = missing := by
  induction rounds generalizing missing line bytes with
  | zero =>
      cases missing with
      | zero =>
          cases got
          exact ⟨rfl, rfl⟩
      | succ missing => cases got
  | succ rounds ih =>
      cases missing with
      | zero =>
          cases got
          exact ⟨rfl, rfl⟩
      | succ missing =>
          simp only [readUntil, Option.bind_eq_bind, Option.bind_eq_some_iff] at got
          obtain ⟨chunk, first, others, second, last⟩ := got
          cases last
          obtain ⟨split, short⟩ := read_append first
          obtain ⟨rest, length⟩ := ih second
          constructor
          · rw [List.append_assoc, rest, split]
          · rw [List.length_append, length]
            omega

theorem readExact_append {length : ℕ} (got : readExact ready length line = some (bytes, next)) :
    bytes ++ next.rest = line.rest ∧ bytes.length = length :=
  readUntil_append got

end ChunkedReads
