/-
# Big-endian numbers in byte lists

Fixed-width unsigned numbers as bytes, most significant first, and the fields of
a byte list between two positions.
-/

import Mathlib.Algebra.Order.Ring.Nat
import Mathlib.Data.List.Induction
import Mathlib.Tactic.Ring

namespace BigEndian

/-- The bytes of a number of so many bytes. -/
def toBytes : ℕ → ℕ → List UInt8
  | 0, _ => []
  | width + 1, value => toBytes width (value / 256) ++ [UInt8.ofNat (value % 256)]

def ofBytes (bytes : List UInt8) : ℕ :=
  bytes.foldl (fun value byte => value * 256 + byte.toNat) 0

/-- The bytes from one position up to another. -/
def field (bytes : List UInt8) (start stop : ℕ) : List UInt8 :=
  (bytes.drop start).take (stop - start)

@[simp]
theorem length_toBytes (width value : ℕ) : (toBytes width value).length = width := by
  induction width generalizing value with
  | zero => rfl
  | succ width ih => simp [toBytes, ih]

/-- A number that fits is read back. -/
theorem ofBytes_toBytes {width value : ℕ} (fits : value < 256 ^ width) :
    ofBytes (toBytes width value) = value := by
  induction width generalizing value with
  | zero =>
      rw [pow_zero, Nat.lt_one_iff] at fits
      rw [fits]
      rfl
  | succ width ih =>
      have high : value / 256 < 256 ^ width := by
        rw [pow_succ] at fits
        exact Nat.div_lt_of_lt_mul (by rwa [Nat.mul_comm])
      have low : (UInt8.ofNat (value % 256)).toNat = value % 256 := by
        simp
      rw [ofBytes, toBytes, List.foldl_append, ← ofBytes, ih high]
      simp only [List.foldl_cons, List.foldl_nil, low]
      omega

/-- A number read from bytes fits them. -/
theorem ofBytes_lt (bytes : List UInt8) : ofBytes bytes < 256 ^ bytes.length := by
  induction bytes using List.reverseRecOn with
  | nil => simp [ofBytes]
  | append_singleton bytes last ih =>
      rw [ofBytes, List.foldl_append, ← ofBytes, List.length_append, List.length_singleton,
        pow_succ]
      have low := last.toNat_lt
      simp only [List.foldl_cons, List.foldl_nil]
      omega

variable {bytes : List UInt8} {start stop : ℕ}

/-- Bytes that are read as a number are the bytes of that number. -/
theorem toBytes_ofBytes {width : ℕ} (length : bytes.length = width) :
    toBytes width (ofBytes bytes) = bytes := by
  induction bytes using List.reverseRecOn generalizing width with
  | nil =>
      subst length
      rfl
  | append_singleton bytes last ih =>
      rw [List.length_append, List.length_singleton] at length
      subst length
      have low := last.toNat_lt
      have split : ofBytes (bytes ++ [last]) = ofBytes bytes * 256 + last.toNat := by
        rw [ofBytes, List.foldl_append, ← ofBytes]
        rfl
      have high : (ofBytes bytes * 256 + last.toNat) / 256 = ofBytes bytes := by omega
      have rest : (ofBytes bytes * 256 + last.toNat) % 256 = last.toNat := by omega
      rw [split, toBytes, high, rest, ih rfl, UInt8.ofNat_toNat]

/-- The first bytes count for more, by the width of the others. -/
theorem ofBytes_append (upper lower : List UInt8) :
    ofBytes (upper ++ lower) = ofBytes upper * 256 ^ lower.length + ofBytes lower := by
  induction lower using List.reverseRecOn with
  | nil => simp [ofBytes]
  | append_singleton lower last ih =>
      have step : ∀ bytes : List UInt8, ofBytes (bytes ++ [last]) =
          ofBytes bytes * 256 + last.toNat := by
        intro bytes
        rw [ofBytes, List.foldl_append, ← ofBytes]
        rfl
      rw [← List.append_assoc, step, step, ih, List.length_append, List.length_singleton, pow_succ]
      ring

/-- The bytes from a position on are a field and the bytes behind it. -/
theorem field_append_drop (bytes : List UInt8) (order : start ≤ stop) :
    field bytes start stop ++ bytes.drop stop = bytes.drop start := by
  have behind : bytes.drop stop = (bytes.drop start).drop (stop - start) := by
    rw [List.drop_drop, Nat.add_sub_cancel' order]
  rw [field, behind, List.take_append_drop]

/-- A field is made of the fields up to a position within it and from there. -/
theorem field_append_field (bytes : List UInt8) {start middle stop : ℕ} (upper : start ≤ middle)
    (lower : middle ≤ stop) :
    field bytes start middle ++ field bytes middle stop = field bytes start stop := by
  rw [field, field, field, show stop - start = (middle - start) + (stop - middle) by omega,
    List.take_add, List.drop_drop, Nat.add_sub_cancel' upper]

theorem length_field (inside : stop ≤ bytes.length) :
    (field bytes start stop).length = stop - start := by
  rw [field, List.length_take, List.length_drop]
  omega

/-- A field that was put there. -/
theorem field_append {before bytes after : List UInt8} (from_start : before.length = start)
    (width : bytes.length = stop - start) :
    field (before ++ (bytes ++ after)) start stop = bytes := by
  rw [field, ← width, ← from_start, List.drop_left, List.take_left]

theorem field_append_right {before bytes : List UInt8} (from_start : before.length = start)
    (width : bytes.length = stop - start) : field (before ++ bytes) start stop = bytes := by
  rw [field, ← from_start, List.drop_left, from_start, ← width, List.take_length]

/-- What follows a field does not matter. -/
theorem field_append_left (more : List UInt8) (inside : stop ≤ bytes.length) :
    field (bytes ++ more) start stop = field bytes start stop := by
  rcases Nat.le_total start stop with order | empty
  · rw [field, field, List.drop_append_of_le_length (order.trans inside),
      List.take_append_of_le_length]
    rw [List.length_drop]
    exact Nat.sub_le_sub_right inside start
  · rw [field, field, Nat.sub_eq_zero_of_le empty, List.take_zero, List.take_zero]

theorem take_field (bytes : List UInt8) {start stop count : ℕ} (inside : start + count ≤ stop) :
    (field bytes start stop).take count = field bytes start (start + count) := by
  rw [field, field, List.take_take, Nat.add_sub_cancel_left, Nat.min_eq_left]
  exact Nat.le_sub_of_add_le' inside

end BigEndian
