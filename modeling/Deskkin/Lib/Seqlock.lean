/-
# Values published under a number

A cell holds a publication number and a payload of several units. Its one writer
sets the number to zero, overwrites the payload in as many accesses as it likes,
and sets the number of the new publication; a reader reads the number, copies the
payload in as many accesses, and reads the number again. When both numbers are the
same and not zero, what was copied is a publication as a whole.

The cell also records its publications. The record is not read by any program:
it is what the statements are about. Publications carry strictly increasing
numbers, and the number of publications together with whether the number is zero
orders the states of the cell: what the writer does only moves up this order, and
a payload changes only between two of its steps.
-/

import Deskkin.Lib.Interference
import Mathlib.Algebra.GroupWithZero.Nat
import Mathlib.Data.List.TakeDrop

namespace Seqlock

open Program

variable {ω σ α : Type}

structure Cell (ω : Type) where
  publication : UInt32
  payload : List ω
  published : List (UInt32 × List ω)

/-! ## Copying -/

/-- A chunk put in place of what is stored from an offset on. -/
def splice (stored : List ω) (offset : ℕ) (chunk : List ω) : List ω :=
  stored.take offset ++ chunk ++ stored.drop (offset + chunk.length)

/-- A value is written from an offset on, cut into accesses of the given sizes. -/
def copyTo (value : List ω) : ℕ → List ℕ → Program (Cell ω) Unit
  | _, [] => done ()
  | offset, size :: cut => do
      store fun cell =>
        { cell with payload := splice cell.payload offset ((value.drop offset).take size) }
      copyTo value (offset + size) cut

/-- The payload is read from an offset on, cut into accesses of the given sizes. -/
def copyFrom : ℕ → List ℕ → Program (Cell ω) (List ω)
  | _, [] => done []
  | offset, size :: cut => do
      let chunk ← load fun cell => (cell.payload.drop offset).take size
      let rest ← copyFrom (offset + size) cut
      return chunk ++ rest

/-- One publication. -/
def publish (cut : List ℕ) (number : UInt32) (value : List ω) : Program (Cell ω) Unit := do
  store fun cell => { cell with publication := 0 }
  copyTo value 0 cut
  store fun cell =>
    { cell with publication := number, published := cell.published ++ [(number, value)] }

/-- Without a writer a copy is the payload. -/
theorem copyFrom_alone (cut : List ℕ) (offset : ℕ) (cell : Cell ω) :
    (copyFrom offset cut).alone cell = ((cell.payload.drop offset).take cut.sum, cell) := by
  induction cut generalizing offset with
  | nil => simp [copyFrom, alone]
  | cons size cut ih =>
      have rest : ((copyFrom (offset + size) cut).alone cell) = _ := ih (offset + size)
      rw [copyFrom, alone_load_bind, alone_bind, rest, List.sum_cons, List.take_add, List.drop_drop]
      rfl

/-! ## The states of a cell -/

/-- The numbers are increasing, none is zero, and a number that is not zero shows
the last publication as a whole. -/
structure Cell.Sound (size : ℕ) (cell : Cell ω) : Prop where
  width : cell.payload.length = size
  increasing : (cell.published.map Prod.fst).Pairwise (· < ·)
  numbered : ∀ entry ∈ cell.published, entry.1 ≠ 0
  shows : cell.publication ≠ 0 →
    cell.published.getLast? = some (cell.publication, cell.payload)

/-- The place of a state in the order of what the writer does. -/
def Cell.stamp (cell : Cell ω) : ℕ :=
  2 * cell.published.length + if cell.publication = 0 then 1 else 0

/-- What the writer may have done in between. -/
structure Evolves (size : ℕ) (c d : Cell ω) : Prop where
  grown : c.published <+: d.published
  later : c.stamp ≤ d.stamp
  steady : c.stamp = d.stamp → c.publication ≠ 0 → d.payload = c.payload
  sound : c.Sound size → d.Sound size

namespace Evolves

variable {size : ℕ}

theorem refl (c : Cell ω) : Evolves size c c :=
  ⟨List.prefix_rfl, Nat.le_refl _, fun _ _ => rfl, id⟩

theorem publication_eq_zero_iff {c : Cell ω} : c.publication = 0 ↔ c.stamp % 2 = 1 := by
  by_cases unstable : c.publication = 0
  · simp [Cell.stamp, unstable]
  · simp [Cell.stamp, unstable]

theorem trans {c d e : Cell ω} (one : Evolves size c d) (two : Evolves size d e) :
    Evolves size c e := by
  refine ⟨one.grown.trans two.grown, Nat.le_trans one.later two.later, fun same shown => ?_,
    fun sound => two.sound (one.sound sound)⟩
  have first : c.stamp = d.stamp := Nat.le_antisymm one.later (same ▸ two.later)
  have shownThen : d.publication ≠ 0 := by
    rw [ne_eq, publication_eq_zero_iff, ← first, ← publication_eq_zero_iff]
    exact shown
  rw [two.steady (first ▸ same) shownThen, one.steady first shown]

end Evolves

/-! ## What a reader knows -/

/-- The reader has seen a number, and as long as it stands the payload is as the
reader knows it. -/
structure Watched (size : ℕ) (number : UInt32) (known : List ω → Prop) (cell : Cell ω) : Prop where
  sound : cell.Sound size
  seen : ∃ value, (number, value) ∈ cell.published
  standing : cell.publication = number → known cell.payload

theorem getElem_fst_lt {published : List (UInt32 × List ω)}
    (increasing : (published.map Prod.fst).Pairwise (· < ·)) {i j : ℕ} (order : i < j)
    (inside : i < published.length) (bound : j < published.length) :
    published[i].1 < published[j].1 := by
  have ordered := List.pairwise_iff_getElem.mp increasing i j (by simpa using by omega)
    (by simpa using bound) order
  simpa using ordered

variable {value : List ω} {number : UInt32} {guar : Cell ω → Cell ω → Prop} {s : Cell ω}
  {cut : List ℕ} {offset : ℕ} {stored chunk : List ω}

/-- The number of the last publication stands in no earlier part of the record. -/
theorem length_le_of_mem {size : ℕ} {cell : Cell ω} (sound : cell.Sound size)
    {earlier : List (UInt32 × List ω)} (part : earlier <+: cell.published)
    (shown : cell.publication ≠ 0) (found : (cell.publication, value) ∈ earlier) :
    earlier.length = cell.published.length := by
  have last := sound.shows shown
  obtain ⟨i, inside, here⟩ := List.getElem_of_mem found
  have bound := part.length_le
  have there : cell.published[i] = (cell.publication, value) := by
    rw [← here]
    exact (part.getElem inside).symm
  by_contra shorter
  have order : i < cell.published.length - 1 := by omega
  have smaller := getElem_fst_lt sound.increasing order (by omega) (by omega)
  rw [List.getLast?_eq_getElem?, List.getElem?_eq_some_iff] at last
  obtain ⟨_, final⟩ := last
  rw [there, final] at smaller
  exact UInt32.lt_irrefl _ smaller

theorem Watched.evolves {size : ℕ} {known : List ω → Prop} {c d : Cell ω}
    (watched : Watched size number known c) (evolves : Evolves size c d) :
    Watched size number known d := by
  have sound := evolves.sound watched.sound
  obtain ⟨value, seen⟩ := watched.seen
  refine ⟨sound, ⟨value, evolves.grown.subset seen⟩, fun stands => ?_⟩
  have shown : d.publication ≠ 0 := by
    rw [stands]
    exact watched.sound.numbered _ seen
  have same := length_le_of_mem sound evolves.grown shown (stands ▸ seen)
  -- Nothing was published since, so the number was never taken away in between.
  have shownThen : c.publication ≠ 0 := by
    intro unstable
    have later := evolves.later
    simp only [Cell.stamp, if_pos unstable, if_neg shown, same] at later
    omega
  have stamps : c.stamp = d.stamp := by
    simp only [Cell.stamp, if_neg shown, if_neg shownThen, same]
  have publication : c.publication = number := by
    have before := watched.sound.shows shownThen
    have after := sound.shows shown
    rw [evolves.grown.eq_of_length same, after] at before
    rw [← stands]
    exact (Prod.mk.inj (Option.some.inj before)).1.symm
  rw [evolves.steady stamps shownThen]
  exact watched.standing publication

theorem watched_of_shown {size : ℕ} {cell : Cell ω} (sound : cell.Sound size)
    (shown : cell.publication ≠ 0) :
    Watched size cell.publication (fun payload => payload.take 0 = []) cell := by
  have last := sound.shows shown
  exact ⟨sound, ⟨cell.payload, List.mem_of_getLast? last⟩, fun _ => rfl⟩

/-- Each chunk that was copied adds to what the reader knows. -/
theorem copyFrom_safe {size : ℕ} {got : List ω} (quiet : ∀ t, Evolves size s t → guar t t)
    (watched : Watched size number (fun payload => payload.take offset = got) s) :
    (copyFrom offset cut).Safe (Evolves size) guar (fun rest t => Evolves size s t ∧
      Watched size number (fun payload => payload.take (offset + cut.sum) = got ++ rest) t) s := by
  induction cut generalizing offset got s with
  | nil =>
      intro t evolves
      exact ⟨evolves, by simpa using watched.evolves evolves⟩
  | cons chunk cut ih =>
      apply Safe.load
      intro t evolves
      have longer : Watched size number (fun payload => payload.take (offset + chunk) =
          got ++ (t.payload.drop offset).take chunk) t := by
        obtain ⟨sound, seen, standing⟩ := watched.evolves evolves
        exact ⟨sound, seen, fun stands => by rw [List.take_add, standing stands]⟩
      have rest := ih (fun u later => quiet u (evolves.trans later)) longer
      refine ⟨quiet t evolves, rest.bind Evolves.refl fun bytes u copied => Safe.done ?_⟩
      obtain ⟨later, known⟩ := copied
      intro v last
      have more := known.evolves last
      refine ⟨(evolves.trans later).trans last, ?_⟩
      rwa [List.sum_cons, ← Nat.add_assoc, ← List.append_assoc]

/-- **Reading.** A reader that has seen a number copies the payload and looks at
the number again: if it still stands, the copy was published under it. -/
theorem snapshot_safe {size : ℕ} {β : Type} {post : β → Cell ω → Prop} (sound : s.Sound size)
    (shown : s.publication ≠ 0) (whole : cut.sum = size) (quiet : ∀ t, Evolves size s t → guar t t)
    {rest : List ω → UInt32 → Program (Cell ω) β}
    (onward : ∀ bytes t, Evolves size s t → t.Sound size →
      (t.publication = s.publication → (s.publication, bytes) ∈ t.published) →
      (rest bytes t.publication).Safe (Evolves size) guar post t) :
    (copyFrom 0 cut >>= fun bytes => load Cell.publication >>= rest bytes).Safe
      (Evolves size) guar post s := by
  have copied : (copyFrom 0 cut).Safe (Evolves size) guar _ s :=
    copyFrom_safe quiet (watched_of_shown sound shown)
  apply copied.bind Evolves.refl
  rintro bytes t ⟨evolves, watched⟩
  apply Safe.load
  intro u later
  obtain ⟨soundThen, seen, standing⟩ := watched.evolves later
  refine ⟨quiet u (evolves.trans later), onward bytes u (evolves.trans later) soundThen
    fun same => ?_⟩
  have payload := standing same
  rw [Nat.zero_add, List.nil_append, whole, ← soundThen.width, List.take_length] at payload
  have last := soundThen.shows (same ▸ shown)
  rw [same, payload] at last
  exact List.mem_of_getLast? last

/-! ## Publishing -/

theorem length_splice (inside : offset + chunk.length ≤ stored.length) :
    (splice stored offset chunk).length = stored.length := by
  simp only [splice, List.length_append, List.length_take, List.length_drop]
  omega

theorem take_splice (inside : offset + chunk.length ≤ stored.length) :
    (splice stored offset chunk).take (offset + chunk.length) = stored.take offset ++ chunk := by
  rw [splice]
  apply List.take_left'
  simp only [List.length_append, List.length_take]
  omega

/-- An access that changes the payload and nothing else. -/
structure Overwrites (c d : Cell ω) : Prop where
  rest : d = { c with payload := d.payload }
  width : d.payload.length = c.payload.length

/-- A copy is made of overwriting accesses and ends with the value in place. -/
theorem copyTo_overwrites {guar : Cell ω → Cell ω → Prop} {value : List ω} {cut : List ℕ}
    {offset : ℕ} {s : Cell ω} (fits : offset + cut.sum ≤ value.length)
    (width : s.payload.length = value.length)
    (copied : s.payload.take offset = value.take offset)
    (quiet : ∀ c d, c.publication = s.publication → c.published = s.published →
      c.payload.length = s.payload.length → Overwrites c d → guar c d) :
    (copyTo value offset cut).Safe Eq guar (fun _ t => Overwrites s t ∧
      t.payload.take (offset + cut.sum) = value.take (offset + cut.sum)) s := by
  induction cut generalizing offset s with
  | nil =>
      rintro t rfl
      exact ⟨⟨rfl, rfl⟩, copied⟩
  | cons chunk cut ih =>
      rw [List.sum_cons] at fits
      have exactly : ((value.drop offset).take chunk).length = chunk := by
        rw [List.length_take, List.length_drop]
        omega
      have inside : offset + ((value.drop offset).take chunk).length ≤ s.payload.length := by
        rw [exactly, width]
        omega
      have same := length_splice inside
      have copiedThen : (splice s.payload offset ((value.drop offset).take chunk)).take
          (offset + chunk) = value.take (offset + chunk) := by
        have taken := take_splice inside
        rw [exactly] at taken
        rw [taken, copied, List.take_add]
      apply Safe.store
      rintro t rfl
      refine ⟨quiet s _ rfl rfl rfl ⟨rfl, same⟩, ?_⟩
      have rest := ih (s := { s with
          payload := splice s.payload offset ((value.drop offset).take chunk) })
        (by omega) (same.trans width) copiedThen
        fun c d number published length => quiet c d number published (length.trans same)
      rw [List.sum_cons, ← Nat.add_assoc]
      apply rest.mono
      rintro _ t ⟨overwritten, taken⟩
      exact ⟨⟨overwritten.rest, overwritten.width.trans same⟩, taken⟩

theorem Overwrites.evolves {c d : Cell ω} (overwrites : Overwrites c d) (size : ℕ)
    (unstable : c.publication = 0) :
    Evolves size c d ∧ d.publication = 0 ∧ d.published = c.published := by
  obtain ⟨rest, width⟩ := overwrites
  have publication : d.publication = c.publication := by rw [rest]
  have published : d.published = c.published := by rw [rest]
  have stamp : c.stamp = d.stamp := by rw [Cell.stamp, Cell.stamp, published, publication]
  refine ⟨⟨⟨[], by rw [List.append_nil, published]⟩, Nat.le_of_eq stamp,
    fun _ shown => absurd unstable shown, fun sound => ?_⟩, publication.trans unstable, published⟩
  · refine ⟨width.trans sound.width, by rw [published]; exact sound.increasing,
      by rw [published]; exact sound.numbered, fun shown => ?_⟩
    rw [publication] at shown
    exact absurd unstable shown

/-- While the number is zero the writer may overwrite the payload. -/
theorem copyTo_safe {size : ℕ} (width : value.length = size) (fits : offset + cut.sum ≤ size)
    (sound : s.Sound size) (unstable : s.publication = 0)
    (copied : s.payload.take offset = value.take offset)
    (quiet : ∀ c d, Evolves size c d → d.published = c.published → guar c d) :
    (copyTo value offset cut).Safe Eq guar (fun _ t => t.Sound size ∧ t.publication = 0 ∧
      t.published = s.published ∧
      t.payload.take (offset + cut.sum) = value.take (offset + cut.sum)) s := by
  have overwriting := @copyTo_overwrites ω guar value cut offset s (by omega)
    (sound.width.trans width.symm) copied fun c d number _ _ overwrites =>
      quiet c d (overwrites.evolves size (number.trans unstable)).1
        (overwrites.evolves size (number.trans unstable)).2.2
  apply overwriting.mono
  rintro _ t ⟨overwritten, taken⟩
  obtain ⟨evolved, number, published⟩ := overwritten.evolves size unstable
  exact ⟨evolved.sound sound, number, published, taken⟩

/-- Taking the number away. -/
theorem Cell.Sound.withdraw {size : ℕ} (sound : s.Sound size) :
    Cell.Sound size { s with publication := 0 } ∧ Evolves size s { s with publication := 0 } := by
  have soundThen : Cell.Sound size { s with publication := 0 } :=
    ⟨sound.width, sound.increasing, sound.numbered, fun shown => absurd rfl shown⟩
  refine ⟨soundThen, List.prefix_rfl, ?_, fun same shown => ?_, fun _ => soundThen⟩
  · simp only [Cell.stamp, if_true]
    split <;> omega
  · simp [Cell.stamp, shown] at same

/-- Storing a greater number over a payload that is complete. -/
theorem Cell.Sound.show {size : ℕ} (sound : s.Sound size) (unstable : s.publication = 0)
    (greater : ∀ entry ∈ s.published, entry.1 < number) (nonzero : number ≠ 0) :
    let shown := { s with
      publication := number, published := s.published ++ [(number, s.payload)] }
    Cell.Sound size shown ∧ Evolves size s shown := by
  have soundThen : Cell.Sound size { s with
      publication := number, published := s.published ++ [(number, s.payload)] } := by
    refine ⟨sound.width, ?_, fun entry found => ?_, fun _ => ?_⟩
    · rw [List.map_append, List.pairwise_append]
      refine ⟨sound.increasing, List.pairwise_singleton _ _, fun earlier found last here => ?_⟩
      obtain ⟨entry, member, rfl⟩ := List.mem_map.mp found
      rw [List.map_singleton, List.mem_singleton] at here
      rw [here]
      exact greater entry member
    · rcases List.mem_append.mp found with earlier | last
      · exact sound.numbered entry earlier
      · rw [List.mem_singleton.mp last]
        exact nonzero
    · rw [List.getLast?_append]
      rfl
  refine ⟨soundThen, List.prefix_append _ _, ?_, fun _ shown => absurd unstable shown,
    fun _ => soundThen⟩
  simp only [Cell.stamp, if_pos unstable, if_neg nonzero, List.length_append, List.length_singleton]
  omega

/-- **Publishing.** A publication under a greater number keeps the cell sound and
ends with the new number over the new value. -/
theorem publish_safe {size : ℕ} {post : Unit → Cell ω → Prop} (sound : s.Sound size)
    (greater : ∀ entry ∈ s.published, entry.1 < number) (nonzero : number ≠ 0)
    (width : value.length = size) (whole : cut.sum = size) (quiet : ∀ c d, Evolves size c d →
      d.published = c.published ∨ d.published = c.published ++ [(number, value)] → guar c d)
    (ends : ∀ c : Cell ω, c.Sound size → c.published = s.published ++ [(number, value)] →
      c.publication = number → c.payload = value → post () c) :
    (publish cut number value).Safe Eq guar post s := by
  obtain ⟨withdrawn, evolves⟩ := sound.withdraw
  apply Safe.store
  rintro _ rfl
  refine ⟨quiet s _ evolves (Or.inl rfl), ?_⟩
  have copied : (copyTo value 0 cut).Safe Eq guar _ { s with publication := 0 } :=
    copyTo_safe width (by omega) withdrawn rfl rfl fun c d evolves same =>
      quiet c d evolves (Or.inl same)
  apply copied.bind fun _ => rfl
  rintro _ t ⟨soundThere, unstable, same, payload⟩
  apply Safe.store
  rintro _ rfl
  rw [Nat.zero_add, whole, ← width, List.take_length, width, ← soundThere.width, List.take_length]
    at payload
  subst payload
  obtain ⟨soundLast, shown⟩ := soundThere.show unstable (same ▸ greater) nonzero
  refine ⟨quiet t _ shown (Or.inr rfl), ?_⟩
  rintro _ rfl
  exact ends _ soundLast (by rw [same]) rfl rfl

end Seqlock
