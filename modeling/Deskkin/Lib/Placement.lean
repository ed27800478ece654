/-
# Writes at offsets of a buffer

A buffer of fixed size is filled by writes at offsets that are chosen by hand. As long
as no two of them overlap, what is read where something was written is what was written
there, in whatever order the writes were made.
-/

import Deskkin.Lib.BigEndian

namespace Placement

open BigEndian

/-- Bytes and where they go. -/
structure Write where
  offset : ℕ
  bytes : List UInt8
  deriving DecidableEq

/-- Where a write begins and how long it is. -/
def Write.shape (write : Write) : ℕ × ℕ := (write.offset, write.bytes.length)

def put (buffer : List UInt8) (write : Write) : List UInt8 :=
  buffer.take write.offset ++ (write.bytes ++ buffer.drop (write.offset + write.bytes.length))

def putAll (buffer : List UInt8) (writes : List Write) : List UInt8 := writes.foldl put buffer

/-- The range lies in a buffer of this size. -/
def Inside (size : ℕ) (range : ℕ × ℕ) : Prop := range.1 + range.2 ≤ size

/-- The ranges have no position in common. -/
def Apart (one two : ℕ × ℕ) : Prop := one.1 + one.2 ≤ two.1 ∨ two.1 + two.2 ≤ one.1

instance (size : ℕ) (range : ℕ × ℕ) : Decidable (Inside size range) := by
  unfold Inside
  infer_instance

instance (one two : ℕ × ℕ) : Decidable (Apart one two) := by
  unfold Apart
  infer_instance

theorem Apart.symm {one two : ℕ × ℕ} (apart : Apart one two) : Apart two one := Or.symm apart

/-- The number between two positions, most significant byte first. -/
def unsigned (buffer : List UInt8) (start stop : ℕ) : ℕ := ofBytes (field buffer start stop)

def be16 (x : UInt16) : List UInt8 := toBytes 2 x.toNat

def be32 (x : UInt32) : List UInt8 := toBytes 4 x.toNat

def be64 (x : UInt64) : List UInt8 := toBytes 8 x.toNat

@[simp]
theorem length_be16 (x : UInt16) : (be16 x).length = 2 := length_toBytes _ _

@[simp]
theorem length_be32 (x : UInt32) : (be32 x).length = 4 := length_toBytes _ _

@[simp]
theorem length_be64 (x : UInt64) : (be64 x).length = 8 := length_toBytes _ _

@[simp]
theorem ofBytes_be16 (x : UInt16) : ofBytes (be16 x) = x.toNat := ofBytes_toBytes x.toNat_lt

@[simp]
theorem ofBytes_be32 (x : UInt32) : ofBytes (be32 x) = x.toNat := ofBytes_toBytes x.toNat_lt

@[simp]
theorem ofBytes_be64 (x : UInt64) : ofBytes (be64 x) = x.toNat := ofBytes_toBytes x.toNat_lt

variable {buffer : List UInt8} {write : Write} {writes : List Write}

/-- A number is made of its upper and its lower bytes. -/
theorem unsigned_split {start middle stop : ℕ} (upper : start ≤ middle) (lower : middle ≤ stop)
    (inside : stop ≤ buffer.length) :
    unsigned buffer start stop =
      unsigned buffer start middle * 256 ^ (stop - middle) + unsigned buffer middle stop := by
  rw [unsigned, ← field_append_field buffer upper lower, ofBytes_append, length_field inside]
  rfl

/-! ## One write -/

section

variable (inside : Inside buffer.length write.shape)
include inside

theorem length_put : (put buffer write).length = buffer.length := by
  simp only [Inside, Write.shape] at inside
  simp only [put, List.length_append, List.length_take, List.length_drop]
  omega

/-- What was written is read back. -/
theorem field_put :
    field (put buffer write) write.offset (write.offset + write.bytes.length) = write.bytes := by
  simp only [Inside, Write.shape] at inside
  apply field_append
  · rw [List.length_take]
    omega
  · omega

/-- A field that the write does not meet stays as it is. -/
theorem field_put_apart {start width : ℕ} (apart : Apart write.shape (start, width)) :
    field (put buffer write) start (start + width) = field buffer start (start + width) := by
  simp only [Inside, Apart, Write.shape] at inside apart
  apply List.ext_getElem?
  intro index
  simp only [field, put, Nat.add_sub_cancel_left, List.getElem?_take, List.getElem?_drop]
  split
  · rcases apart with before | after
    · rw [List.getElem?_append_right (by rw [List.length_take]; omega),
        List.getElem?_append_right (by rw [List.length_take]; omega), List.getElem?_drop,
        List.length_take]
      congr 1
      omega
    · rw [List.getElem?_append_left (by rw [List.length_take]; omega), List.getElem?_take_of_lt]
      omega
  · rfl

/-! ## Many writes -/

end

/-- The writes lie in a buffer of this size and no two of them overlap. -/
structure Tidy (size : ℕ) (writes : List Write) : Prop where
  inside : ∀ write ∈ writes, Inside size write.shape
  apart : writes.Pairwise fun one two => Apart one.shape two.shape

theorem tidy_of_shapes {size : ℕ} {shapes : List (ℕ × ℕ)} (same : writes.map Write.shape = shapes)
    (inside : ∀ range ∈ shapes, Inside size range) (apart : shapes.Pairwise Apart) :
    Tidy size writes := by
  subst same
  exact ⟨fun write member => inside _ (List.mem_map_of_mem member), List.pairwise_map.mp apart⟩

theorem length_putAll (inside : ∀ write ∈ writes, Inside buffer.length write.shape) :
    (putAll buffer writes).length = buffer.length := by
  induction writes generalizing buffer with
  | nil => rfl
  | cons write rest ih =>
      rw [List.forall_mem_cons] at inside
      have same := length_put inside.1
      rw [putAll, List.foldl_cons, ← putAll, ih (by rw [same]; exact inside.2), same]

/-- A field that no write meets stays as it is. -/
theorem field_putAll_apart {start width : ℕ}
    (inside : ∀ write ∈ writes, Inside buffer.length write.shape)
    (apart : ∀ write ∈ writes, Apart write.shape (start, width)) :
    field (putAll buffer writes) start (start + width) = field buffer start (start + width) := by
  induction writes generalizing buffer with
  | nil => rfl
  | cons write rest ih =>
      rw [List.forall_mem_cons] at inside apart
      rw [putAll, List.foldl_cons, ← putAll, ih (by rw [length_put inside.1]; exact inside.2)
        apart.2,
        field_put_apart inside.1 apart.1]

/-- **Writes that do not overlap are all read back.** -/
theorem field_putAll (tidy : Tidy buffer.length writes) (member : write ∈ writes) :
    field (putAll buffer writes) write.offset (write.offset + write.bytes.length) =
      write.bytes := by
  obtain ⟨before, after, rfl⟩ := List.append_of_mem member
  have inside := tidy.inside
  rw [List.forall_mem_append, List.forall_mem_cons] at inside
  have apart := (List.pairwise_append.mp tidy.apart).2.1
  rw [List.pairwise_cons] at apart
  have early : (putAll buffer before).length = buffer.length := length_putAll inside.1
  have here : Inside (putAll buffer before).length write.shape := by
    rw [early]
    exact inside.2.1
  rw [putAll, List.foldl_append, List.foldl_cons, ← putAll, ← putAll, field_putAll_apart,
    field_put here]
  · rw [length_put here, early]
    exact inside.2.2
  · exact fun other later => (apart.1 other later).symm

theorem unsigned_putAll (index : ℕ) {start stop : ℕ} {bytes : List UInt8}
    (tidy : Tidy buffer.length writes) (found : writes[index]? = some ⟨start, bytes⟩)
    (width : start + bytes.length = stop) :
    unsigned (putAll buffer writes) start stop = ofBytes bytes := by
  have member := List.mem_of_getElem? found
  rw [unsigned, ← width, field_putAll tidy member]

end Placement
