/-
# Counters that go round

A counter starts at zero, counts up to its period and then goes on with one: zero comes
only once. Counts of one round are told apart by the counter, and so are the slots of a
ring when they are less than its size apart.

Where numbers are seen in order, those left out are counted by what was seen and how far
it went.
-/

import Mathlib.Algebra.Order.Ring.Nat
import Mathlib.Data.Finset.Card
import Mathlib.Data.Nat.ModEq
import Mathlib.Order.Interval.Finset.Nat
import Mathlib.Tactic.Ring

namespace RoundCounter

/-- The counter after so many counts. -/
def turn (period count : ℕ) : ℕ := if count = 0 then 0 else (count - 1) % period + 1

variable {period : ℕ}

@[simp]
theorem turn_zero (period : ℕ) : turn period 0 = 0 := rfl

/-- A count is some rounds and the counter. -/
theorem exists_rounds (some_ : 0 < period) {count : ℕ} (started : 0 < count) :
    ∃ rounds, count = rounds * period + turn period count ∧ 0 < turn period count ∧
      turn period count ≤ period := by
  have split := Nat.div_add_mod' (count - 1) period
  have below := Nat.mod_lt (count - 1) some_
  refine ⟨(count - 1) / period, ?_⟩
  rw [turn, if_neg (by omega)]
  omega

theorem turn_rounds {rounds number : ℕ} (positive : 0 < number) (within : number ≤ period) :
    turn period (rounds * period + number) = number := by
  have shift : rounds * period + number - 1 = number - 1 + rounds * period := by omega
  rw [turn, if_neg (by omega), shift, Nat.add_mul_mod_self_right, Nat.mod_eq_of_lt (by omega)]
  omega

/-- The counter goes up by one, or on with one after a whole round. -/
theorem turn_succ (some_ : 0 < period) (count : ℕ) :
    turn period (count + 1) = if turn period count = period then 1 else turn period count + 1 := by
  rcases Nat.eq_zero_or_pos count with rfl | started
  · rw [turn_zero, if_neg (by omega)]
    simp [turn]
  · obtain ⟨rounds, split, positive, within⟩ := exists_rounds some_ started
    by_cases full : turn period count = period
    · have next : count + 1 = (rounds + 1) * period + 1 := by
        rw [split, full]
        ring
      rw [if_pos full, next, turn_rounds (Nat.zero_lt_one) some_]
    · have next : count + 1 = rounds * period + (turn period count + 1) := by omega
      rw [if_neg full, next, turn_rounds (by omega) (by omega)]

/-- Numbers that are less than the size of a ring apart have different slots. -/
theorem eq_of_slot_eq {size one two : ℕ} (order : one ≤ two) (near : two < one + size)
    (same : one % size = two % size) : one = two := by
  have whole := (Nat.modEq_iff_dvd' order).mp same
  have none_ := Nat.eq_zero_of_dvd_of_lt whole (by omega)
  omega

/-- The numbers up to `last` that were not seen. -/
def gaps (last : ℕ) (seen : List ℕ) : Finset ℕ := (Finset.Icc 1 last).filter (· ∉ seen)

/-- What was seen and what was not make up all numbers. -/
theorem card_gaps {last : ℕ} {seen : List ℕ} (once : seen.Nodup)
    (within : ∀ number ∈ seen, 0 < number ∧ number ≤ last) :
    (gaps last seen).card + seen.length = last := by
  have parts := Finset.card_filter_add_card_filter_not (s := Finset.Icc 1 last) (· ∈ seen)
  have all : (Finset.Icc 1 last).filter (· ∈ seen) = seen.toFinset := by
    ext number
    rw [Finset.mem_filter, Finset.mem_Icc, List.mem_toFinset]
    exact ⟨fun found => found.2, fun found => ⟨within number found, found⟩⟩
  rw [all, List.toFinset_card_of_nodup once, Nat.card_Icc] at parts
  rw [gaps]
  omega

end RoundCounter
