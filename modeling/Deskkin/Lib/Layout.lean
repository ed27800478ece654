/-
# Numbers at offsets of a byte list

The memory of a C structure on a little-endian machine: each field is a number of
a fixed width at a fixed offset. A structure is written as the list of the widths
and values of its fields, and one field is read back at its offset.
-/

import Deskkin.Lib.BigEndian

namespace Layout

/-- A number of so many bytes, least significant first. -/
def little (width value : ℕ) : List UInt8 := (BigEndian.toBytes width value).reverse

/-- Fields one after the other, each with its width and value. -/
def packed : List (ℕ × ℕ) → List UInt8
  | [] => []
  | (width, value) :: rest => little width value ++ packed rest

/-- The number of the given width at an offset. -/
def number (bytes : List UInt8) (offset width : ℕ) : ℕ :=
  BigEndian.ofBytes ((bytes.drop offset).take width).reverse

@[simp]
theorem length_little (width value : ℕ) : (little width value).length = width := by
  rw [little, List.length_reverse, BigEndian.length_toBytes]

theorem length_packed (fields : List (ℕ × ℕ)) :
    (packed fields).length = (fields.map Prod.fst).sum := by
  induction fields with
  | nil => rfl
  | cons field rest ih => simp [packed, ih]

/-- The first field is read back. -/
theorem number_zero {width value : ℕ} (fits : value < 256 ^ width) (rest : List UInt8) :
    number (little width value ++ rest) 0 width = value := by
  have first : (little width value ++ rest).take width = little width value :=
    List.take_left' (length_little width value)
  rw [number, List.drop_zero, first, little, List.reverse_reverse,
    BigEndian.ofBytes_toBytes fits]

/-- A later field is read behind the first one. -/
theorem number_add (width value offset later : ℕ) (rest : List UInt8) :
    number (little width value ++ rest) (width + offset) later =
      number rest offset later := by
  have behind : (little width value ++ rest).drop (width + offset) = rest.drop offset := by
    rw [← List.drop_drop, List.drop_left' (length_little width value)]
  rw [number, behind, number]

/-- **A field is read back at its offset**, the sum of the widths before it. -/
theorem number_packed (fields : List (ℕ × ℕ)) (index : ℕ) {offset width value : ℕ}
    (field : fields[index]? = some (width, value))
    (here : ((fields.take index).map Prod.fst).sum = offset) (fits : value < 256 ^ width) :
    number (packed fields) offset width = value := by
  induction fields generalizing index offset with
  | nil => cases field
  | cons head rest ih =>
      cases index with
      | zero =>
          cases field
          rw [← here]
          exact number_zero fits _
      | succ index =>
          rw [List.take_succ_cons, List.map_cons, List.sum_cons] at here
          rw [← here, packed, number_add]
          exact ih index field rfl

/-- A number of one byte is that byte. -/
theorem number_one {bytes : List UInt8} {offset : ℕ} (inside : offset < bytes.length) :
    UInt8.ofNat (number bytes offset 1) = bytes[offset] := by
  have one : (bytes.drop offset).take 1 = [bytes[offset]] := by
    rw [List.drop_eq_getElem_cons inside]
    rfl
  rw [number, one, List.reverse_singleton]
  simp [BigEndian.ofBytes]

/-! ## Numbers of one width -/

theorem sum_widths (width : ℕ) (values : List ℕ) :
    ((values.map fun value => (width, value)).map Prod.fst).sum = width * values.length := by
  induction values with
  | nil => rfl
  | cons value rest ih =>
      rw [List.map_cons, List.map_cons, List.sum_cons, ih, List.length_cons, Nat.mul_add_one,
        Nat.add_comm]

theorem number_packed_same {width value : ℕ} {values : List ℕ} {index : ℕ}
    (here : values[index]? = some value) (fits : value < 256 ^ width) :
    number (packed (values.map fun value => (width, value))) (width * index) width = value := by
  have inside := (List.getElem?_eq_some_iff.mp here).1
  apply number_packed _ index _ _ fits
  · rw [List.getElem?_map, here, Option.map_some]
  · rw [← List.map_take, sum_widths, List.length_take, Nat.min_eq_left (Nat.le_of_lt inside)]

end Layout
