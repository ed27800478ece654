/-
# Numbers that come back

A writer that never stops has to use its numbers again. A reader that sees one number
before and after its copy then only knows that nothing was published in between when
fewer publications went by than there are numbers. That is enough: in a sequence of
accesses of the writer, a state that shows a number and comes back is never left.
-/

import Deskkin.Lib.Seqlock
import Mathlib.Logic.Relation

namespace Seqlock

open Program Relation

variable {ω : Type}

/-! ## The accesses of a writer -/

/-- One access: the number is zero afterwards, or it was zero before and now shows the
payload. -/
inductive Moves (c d : Cell ω) : Prop
  | hides (number : d.publication = 0) (record : d.published = c.published)
  | shows (hidden : c.publication = 0)
      (record : d.published = c.published ++ [(d.publication, d.payload)])

def Follows : Cell ω → Cell ω → Prop := ReflTransGen Moves

theorem Moves.grown {c d : Cell ω} (moves : Moves c d) : c.published <+: d.published := by
  cases moves with
  | hides number record => exact ⟨[], by rw [record, List.append_nil]⟩
  | shows hidden record => exact ⟨_, record.symm⟩

theorem Follows.grown {c d : Cell ω} (follows : Follows c d) : c.published <+: d.published := by
  induction follows with
  | refl => exact List.prefix_rfl
  | tail earlier last ih => exact ih.trans last.grown

/-- Nothing happened, or the number is zero, or something was published. -/
theorem Follows.cases {c d : Cell ω} (follows : Follows c d) :
    c = d ∨ d.publication = 0 ∨ c.published.length < d.published.length := by
  induction follows with
  | refl => exact Or.inl rfl
  | tail earlier last ih =>
      cases last with
      | hides number record => exact Or.inr (Or.inl number)
      | shows hidden record =>
          have longer := (Follows.grown earlier).length_le
          refine Or.inr (Or.inr ?_)
          rw [record, List.length_append, List.length_singleton]
          omega

/-- A state that shows a number is not left without a publication. -/
theorem Follows.eq_of_back {c d : Cell ω} (shown : c.publication ≠ 0) (there : Follows c d)
    (back : Follows d c) : d = c := by
  have longer := there.grown.length_le
  rcases back.cases with same | zero | shorter
  · exact same
  · exact absurd zero shown
  · omega

/-! ## Numbered publications -/

/-- The payload has a fixed size, publication `n` carries number `n`, and a number that
is not zero shows the last publication. -/
structure Cell.Cyclic (number : ℕ → UInt32) (size : ℕ) (cell : Cell ω) : Prop where
  width : cell.payload.length = size
  numbered : cell.published.map Prod.fst =
    (List.range cell.published.length).map fun index => number (index + 1)
  shows : cell.publication ≠ 0 →
    cell.published.getLast? = some (cell.publication, cell.payload)

/-- Publications that are less than so many apart carry different numbers. -/
def DistinctWithin (number : ℕ → UInt32) (period : ℕ) : Prop :=
  ∀ m n, 0 < m → m < n → n < m + period → number m ≠ number n

/-- What a writer does that keeps to the numbers. -/
structure Turns (number : ℕ → UInt32) (size : ℕ) (c d : Cell ω) : Prop where
  follows : Follows c d
  sound : c.Cyclic number size → d.Cyclic number size

namespace Turns

variable {number : ℕ → UInt32} {size : ℕ} {c d e : Cell ω}

theorem refl (c : Cell ω) : Turns number size c c := ⟨.refl, id⟩

theorem trans (one : Turns number size c d) (two : Turns number size d e) :
    Turns number size c e :=
  ⟨ReflTransGen.trans one.follows two.follows, fun sound => two.sound (one.sound sound)⟩

end Turns

variable {number : ℕ → UInt32} {period size : ℕ}

theorem Cell.Cyclic.publication_eq {cell : Cell ω} (sound : cell.Cyclic number size)
    (shown : cell.publication ≠ 0) :
    0 < cell.published.length ∧ cell.publication = number cell.published.length := by
  have last := sound.shows shown
  rw [List.getLast?_eq_getElem?] at last
  have numbered := congrArg (·[cell.published.length - 1]?) sound.numbered
  simp only [List.getElem?_map, last, Option.map_some] at numbered
  have inside : cell.published.length - 1 < cell.published.length :=
    (List.getElem?_eq_some_iff.mp last).1
  rw [List.getElem?_range inside, Option.map_some, Option.some.injEq,
    Nat.sub_add_cancel (by omega)] at numbered
  exact ⟨by omega, numbered⟩

/-- The number stands again and not enough was published to go round. -/
theorem Turns.eq_of_standing {c d : Cell ω} (distinct : DistinctWithin number period)
    (turns : Turns number size c d) (sound : c.Cyclic number size) (shown : c.publication ≠ 0)
    (standing : d.publication = c.publication)
    (few : d.published.length < c.published.length + period) : c = d := by
  obtain ⟨positive, first⟩ := sound.publication_eq shown
  obtain ⟨-, second⟩ := (turns.sound sound).publication_eq (standing ▸ shown)
  rcases turns.follows.cases with same | zero | longer
  · exact same
  · exact absurd (standing.symm.trans zero) shown
  · refine absurd ?_ (distinct _ _ positive longer few)
    rw [← first, ← second, standing]

/-! ## Reading -/

variable {guar : Cell ω → Cell ω → Prop} {cut : List ℕ}

/-- When the reader comes back to the state it started from, it has copied from it. -/
theorem copyFrom_turns {offset : ℕ} {start s : Cell ω} (shown : start.publication ≠ 0)
    (since : Turns number size start s) (quiet : ∀ t, Turns number size start t → guar t t) :
    (copyFrom offset cut).Safe (Turns number size) guar (fun rest t => Turns number size s t ∧
      (Follows t start → rest = (start.payload.drop offset).take cut.sum)) s := by
  induction cut generalizing offset s with
  | nil =>
      intro t turns
      exact ⟨turns, fun _ => by simp⟩
  | cons chunk cut ih =>
      apply Safe.load
      intro t turns
      have rest := @ih (offset + chunk) t (since.trans turns)
      refine ⟨quiet t (since.trans turns), rest.bind Turns.refl fun bytes u copied => Safe.done ?_⟩
      obtain ⟨later, known⟩ := copied
      intro v last
      refine ⟨(turns.trans later).trans last, fun back => ?_⟩
      have fromU : Follows u start := ReflTransGen.trans last.follows back
      have here := Follows.eq_of_back shown (since.trans turns).follows
        (ReflTransGen.trans later.follows fromU)
      rw [known fromU, here, List.sum_cons, List.take_add, List.drop_drop]

/-- **Reading.** A reader that has seen a number copies the payload and looks at the
number again: if it stands and fewer publications went by than there are numbers, the
copy was published under it. -/
theorem snapshot_turns {β δ : Type} {post : β → Cell ω → Prop} {s : Cell ω}
    (distinct : DistinctWithin number period) (sound : s.Cyclic number size)
    (shown : s.publication ≠ 0) (whole : cut.sum = size)
    (quiet : ∀ t, Turns number size s t → guar t t) (look : Cell ω → δ)
    {rest : List ω → δ → Program (Cell ω) β} (onward : ∀ bytes t, Turns number size s t →
      (t.publication = s.publication → t.published.length < s.published.length + period →
        (s.publication, bytes) ∈ t.published) →
      (rest bytes (look t)).Safe (Turns number size) guar post t) :
    (copyFrom 0 cut >>= fun bytes => load look >>= rest bytes).Safe
      (Turns number size) guar post s := by
  have copied : (copyFrom 0 cut).Safe (Turns number size) guar _ s :=
    copyFrom_turns shown (Turns.refl s) quiet
  apply copied.bind Turns.refl
  rintro bytes t ⟨turns, known⟩
  apply Safe.load
  intro u later
  have all := turns.trans later
  refine ⟨quiet u all, onward bytes u all fun standing few => ?_⟩
  have same := all.eq_of_standing distinct sound shown standing few
  have payload := known (same ▸ later.follows)
  rw [List.drop_zero, whole, ← sound.width, List.take_length] at payload
  have last := sound.shows shown
  rw [← payload, same] at last
  rw [same]
  exact List.mem_of_getLast? last

/-! ## Publishing -/

/-- **Publishing.** A publication under the next number keeps the cell sound and ends
with the number over the value. -/
theorem publish_turns {post : Unit → Cell ω → Prop} {value : List ω} {s : Cell ω}
    (sound : s.Cyclic number size) (width : value.length = size) (whole : cut.sum = size)
    (quiet : ∀ c d, c.published = s.published → Turns number size c d → guar c d)
    (ends : ∀ c : Cell ω, c.Cyclic number size →
      c.published = s.published ++ [(number (s.published.length + 1), value)] → post () c) :
    (publish cut (number (s.published.length + 1)) value).Safe Eq guar post s := by
  have hides : ∀ c d : Cell ω, d.publication = 0 → d.published = c.published →
      d.payload.length = c.payload.length → Turns number size c d := by
    intro c d zero record length
    refine ⟨ReflTransGen.single (.hides zero record), fun sound => ⟨length.trans sound.width, ?_,
      fun shown => absurd zero shown⟩⟩
    rw [record]
    exact sound.numbered
  apply Safe.store
  rintro _ rfl
  have withdrawn : Turns number size s { s with publication := 0 } := hides s _ rfl rfl rfl
  refine ⟨quiet s _ rfl withdrawn, ?_⟩
  have copied : (copyTo value 0 cut).Safe Eq guar (fun _ t =>
      Overwrites { s with publication := 0 } t ∧
        t.payload.take (0 + cut.sum) = value.take (0 + cut.sum)) { s with publication := 0 } := by
    have fits : 0 + cut.sum ≤ value.length := by omega
    have sized : ({ s with publication := 0 } : Cell ω).payload.length = value.length :=
      sound.width.trans width.symm
    apply copyTo_overwrites fits sized rfl
    intro c d zero same _ overwrites
    have record : d.published = c.published := by rw [overwrites.rest]
    have hidden : d.publication = 0 := by
      rw [overwrites.rest]
      exact zero
    exact quiet c d same (hides c d hidden record overwrites.width)
  apply copied.bind fun _ => rfl
  rintro _ t ⟨overwritten, payload⟩
  have record : t.published = s.published := by rw [overwritten.rest]
  have zero : t.publication = 0 := by rw [overwritten.rest]
  have soundThere := (hides s t zero record overwritten.width).sound sound
  rw [Nat.zero_add, whole, ← width, List.take_length, width, ← soundThere.width, List.take_length]
    at payload
  subst payload
  apply Safe.store
  rintro _ rfl
  have shows : Turns number size t { t with
      publication := number (s.published.length + 1),
      published := t.published ++ [(number (s.published.length + 1), t.payload)] } := by
    refine ⟨ReflTransGen.single (.shows zero rfl), fun sound => ⟨sound.width, ?_, fun _ => ?_⟩⟩
    · simp only [List.map_append, List.length_append, List.length_singleton, List.range_succ]
      rw [sound.numbered, record]
      rfl
    · rw [List.getLast?_append]
      rfl
  refine ⟨quiet t _ record shows, ?_⟩
  rintro _ rfl
  exact ends _ (shows.sound soundThere) (by rw [record])

end Seqlock
