/-
# Frames over a stream

A writer sends frames over a stream, each as a header of a fixed width that tells the
length of the frame, and the frame. The stream carries the bytes on in pieces of any
size. The reader collects the header and then so many bytes as it tells. Both may stop
anywhere.

What is collected, on the way and not yet written is together what the frames look like
that the reader has still to get. So the reader always gets the frames that were sent, in
their order, and after it has got all bytes it has got all frames.

Nothing here depends on what the bytes are.
-/

import Mathlib.Algebra.Order.Ring.Nat
import Mathlib.Data.List.Basic

/-- Headers of one width for the frames up to some length. -/
structure Framing (β : Type*) where
  width : ℕ
  limit : ℕ
  header : ℕ → List β
  lengthOf : List β → ℕ
  length_header : ∀ length, (header length).length = width
  lengthOf_header : ∀ length ≤ limit, lengthOf (header length) = length
  width_pos : 0 < width

namespace Framing

variable {β : Type*} (framing : Framing β)

/-- A frame as it is written. -/
def frame (body : List β) : List β := framing.header body.length ++ body

/-- The bytes that the reader has collected since its last frame, those on the way and
those not yet written belong to the frames that were sent and not received. -/
def Carries (sent received : List (List β)) (got wire unsent : List β) : Prop :=
  ∃ rest, sent = received ++ rest ∧ got ++ (wire ++ unsent) = rest.flatMap framing.frame

variable {framing} {sent received : List (List β)} {got wire unsent : List β}

theorem length_frame (body : List β) :
    (framing.frame body).length = framing.width + body.length := by
  rw [frame, List.length_append, framing.length_header]

theorem carries_start : framing.Carries [] [] [] [] [] := ⟨[], rfl, rfl⟩

namespace Carries

section

variable (carries : framing.Carries sent received got wire unsent)
include carries

theorem isPrefix : received <+: sent := by
  obtain ⟨rest, rfl, -⟩ := carries
  exact List.prefix_append _ _

omit carries in
/-- A frame is handed to the writer when the one before is written. -/
theorem hand (carries : framing.Carries sent received got wire []) (body : List β) :
    framing.Carries (sent ++ [body]) received got wire (framing.frame body) := by
  obtain ⟨rest, rfl, bytes⟩ := carries
  refine ⟨rest ++ [body], List.append_assoc _ _ _, ?_⟩
  rw [List.append_nil] at bytes
  rw [← List.append_assoc, bytes, List.flatMap_append, List.flatMap_singleton]

/-- Some of what is not yet written goes on its way. -/
theorem write (count : ℕ) :
    framing.Carries sent received got (wire ++ unsent.take count) (unsent.drop count) := by
  obtain ⟨rest, split, bytes⟩ := carries
  refine ⟨rest, split, ?_⟩
  rw [List.append_assoc, List.take_append_drop, bytes]

/-- The reader collects some of what is on the way. -/
theorem read (count : ℕ) :
    framing.Carries sent received (got ++ wire.take count) (wire.drop count) unsent := by
  obtain ⟨rest, split, bytes⟩ := carries
  refine ⟨rest, split, ?_⟩
  rw [List.append_assoc, ← List.append_assoc (wire.take count), List.take_append_drop, bytes]

/-- A whole header is that of the next frame. -/
theorem next (whole : framing.width ≤ got.length) :
    ∃ body rest, sent = received ++ body :: rest ∧
      got.take framing.width = framing.header body.length ∧
      got ++ (wire ++ unsent) = framing.frame body ++ rest.flatMap framing.frame := by
  obtain ⟨rest, split, bytes⟩ := carries
  cases rest with
  | nil =>
      have positive := framing.width_pos
      rw [List.flatMap_nil, List.append_eq_nil_iff] at bytes
      rw [bytes.1, List.length_nil] at whole
      omega
  | cons body rest =>
      rw [List.flatMap_cons] at bytes
      refine ⟨body, rest, split, ?_, bytes⟩
      have first := congrArg (List.take framing.width) bytes
      rw [List.take_append_of_le_length whole, frame, List.append_assoc,
        List.take_left' (framing.length_header _)] at first
      exact first

/-- **A whole frame is the next one that was sent.** -/
theorem receive (fits : ∀ body ∈ sent, body.length ≤ framing.limit)
    (whole : got.length = framing.width + framing.lengthOf (got.take framing.width)) :
    framing.Carries sent (received ++ [got.drop framing.width]) [] wire unsent := by
  obtain ⟨body, rest, split, header, bytes⟩ := carries.next (by omega)
  have member : body ∈ sent := by
    rw [split]
    exact List.mem_append_right _ List.mem_cons_self
  rw [header, framing.lengthOf_header _ (fits body member)] at whole
  obtain ⟨same, others⟩ := List.append_inj bytes (by rw [whole, length_frame])
  refine ⟨rest, ?_, ?_⟩
  · rw [same, frame, List.drop_left' (framing.length_header _), split, List.append_assoc]
    rfl
  · rw [List.nil_append, others]

/-- A header tells the length of a frame that was sent. -/
theorem lengthOf_mem (fits : ∀ body ∈ sent, body.length ≤ framing.limit)
    (whole : framing.width ≤ got.length) :
    ∃ body ∈ sent, framing.lengthOf (got.take framing.width) = body.length := by
  obtain ⟨body, rest, split, header, -⟩ := carries.next whole
  have member : body ∈ sent := by
    rw [split]
    exact List.mem_append_right _ List.mem_cons_self
  exact ⟨body, member, by rw [header, framing.lengthOf_header _ (fits body member)]⟩

end

/-- **When no byte is left, every frame is received.** -/
theorem complete (carries : framing.Carries sent received [] [] []) : received = sent := by
  obtain ⟨rest, rfl, bytes⟩ := carries
  cases rest with
  | nil => rw [List.append_nil]
  | cons body rest =>
      have positive := framing.width_pos
      rw [List.flatMap_cons] at bytes
      have empty : framing.frame body = [] := (List.append_eq_nil_iff.mp bytes.symm).1
      have length : (framing.frame body).length = _ := length_frame body
      rw [empty, List.length_nil] at length
      omega

end Carries

end Framing
