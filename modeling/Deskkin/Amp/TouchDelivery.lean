/-
# Delivery of touch samples

The publisher and the reader of the touch ring interleave in any order, access by
access, while fewer than 2³² samples are published. Every sample is returned with
its fields as published, or counted as dropped, or still to come, and never two of
these; what is returned comes in the order of publication.

The reader holds on to one equation: the drop count and the number of returned
samples add up to the generation it was given last.
-/

import Deskkin.Amp.StableReads
import Deskkin.Amp.TouchRing
import Deskkin.Lib.RoundCounter

namespace Deskkin.Amp

open Program Seqlock

/-- The generation that the reader was given last and the samples it was given,
oldest first. -/
structure TouchReceiver where
  last : UInt32
  returned : List TouchSample
  deriving DecidableEq

def TouchReceiver.take (receiver : TouchReceiver) : Reading → TouchReceiver
  | .accepted _ bytes =>
      ⟨(TouchSample.ofBytes bytes).generation, receiver.returned ++ [TouchSample.ofBytes bytes]⟩
  | _ => receiver

def touchDuo : Duo TouchRing UInt32 TouchReceiver (List ℕ × Touch) (List ℕ) where
  initial := .cleared
  firstKept := 0
  secondKept := ⟨0, []⟩
  mayCall input ring := input.1.sum = TouchSample.size ∧ ring.published.length + 1 < 2 ^ 32
  mayRead cut := cut.sum = TouchSample.size
  first input := publishTouch input.1 input.2
  second cut receiver := do
    let reading ← touchRead cut receiver.last
    return receiver.take reading

/-- The generations up to the last one whose samples were not returned. -/
def TouchReceiver.missed (receiver : TouchReceiver) : Finset ℕ :=
  (Finset.Icc 1 receiver.last.toNat).filter fun generation =>
    generation ∉ receiver.returned.map fun sample => sample.generation.toNat

/-- Samples are returned in order and as published. Each published sample was
returned, is missed or is newer than the last one, and the drop count counts the
missed ones. -/
structure Delivers (receiver : TouchReceiver) (ring : TouchRing) : Prop where
  inOrder : (receiver.returned.map TouchSample.generation).Pairwise (· < ·)
  asPublished : ∀ sample ∈ receiver.returned,
    0 < sample.generation.toNat ∧ ring.published[sample.generation.toNat - 1]? = some sample
  upToLast : ∀ sample ∈ receiver.returned, sample.generation ≤ receiver.last
  known : receiver.last.toNat ≤ ring.published.length
  accounted : ∀ generation, 0 < generation → generation ≤ ring.published.length →
    (∃ sample ∈ receiver.returned, sample.generation.toNat = generation) ∨
      generation ∈ receiver.missed ∨ receiver.last.toNat < generation
  counted : ring.dropCount.toNat = receiver.missed.card

/-! ## The ring between two accesses -/

/-- The generation that is stored is the number of samples, and a slot has shown
the samples under their generations. -/
structure TouchRing.Sound (ring : TouchRing) : Prop where
  slots : ∀ index, (ring.slots index).Sound TouchSample.size
  written : ring.writeGeneration.toNat = ring.published.length
  shown : ∀ index, ∀ entry ∈ (ring.slots index).published,
    entry.1.toNat ≤ ring.published.length →
      ∃ sample, ring.published[entry.1.toNat - 1]? = some sample ∧
        entry = (sample.generation, sample.bytes)

/-- What the publisher may have done in between. -/
structure RingEvolves (r t : TouchRing) : Prop where
  slots : ∀ index, Seqlock.Evolves TouchSample.size (r.slots index) (t.slots index)
  grown : r.published <+: t.published
  drops : t.dropCount = r.dropCount
  sound : r.Sound → t.Sound

theorem RingEvolves.refl (r : TouchRing) : RingEvolves r r :=
  ⟨fun _ => Seqlock.Evolves.refl _, List.prefix_rfl, rfl, id⟩

theorem RingEvolves.trans {r t u : TouchRing} (one : RingEvolves r t) (two : RingEvolves t u) :
    RingEvolves r u :=
  ⟨fun index => (one.slots index).trans (two.slots index), one.grown.trans two.grown,
    two.drops.trans one.drops, fun sound => two.sound (one.sound sound)⟩

/-- What the reader may have done in between: nothing but the drop count. -/
def CountsDrops (r t : TouchRing) : Prop := ∃ drops, t = { r with dropCount := drops }

theorem CountsDrops.refl (r : TouchRing) : CountsDrops r r := ⟨r.dropCount, rfl⟩

theorem CountsDrops.trans {r t u : TouchRing} (one : CountsDrops r t) (two : CountsDrops t u) :
    CountsDrops r u := by
  obtain ⟨drops, rfl⟩ := one
  obtain ⟨later, rfl⟩ := two
  exact ⟨later, rfl⟩

/-! ## The publisher -/

/-- Between two samples the publisher goes on with the generation that is stored,
and no slot has shown a greater one. -/
structure Published (generation : UInt32) (ring : TouchRing) : Prop where
  sound : ring.Sound
  stored : ring.writeGeneration = generation
  upTo : ∀ index, ∀ entry ∈ (ring.slots index).published,
    entry.1.toNat ≤ ring.published.length

variable {r t : TouchRing} {receiver : TouchReceiver} {ring : TouchRing} {cut : List ℕ}

theorem Published.counted {generation : UInt32} (published : Published generation r)
    (counts : CountsDrops r t) : Published generation t := by
  obtain ⟨drops, rfl⟩ := counts
  obtain ⟨⟨slots, written, shown⟩, stored, upTo⟩ := published
  exact ⟨⟨slots, written, shown⟩, stored, upTo⟩

def touchPublisher : Duo.Contract TouchRing UInt32 where
  rely := CountsDrops
  guar := RingEvolves
  always _ _ := True
  atRest := Published
  reflexive := CountsDrops.refl
  transitive _ _ _ := CountsDrops.trans
  calm _ _ _ := trivial

section Publisher

variable {generation : UInt32} {s : TouchRing} {sample : TouchSample}

/-- What is known while a sample is put into its slot: the rest of the ring. -/
structure Filling (s : TouchRing) (index : ℕ) (t : TouchRing) : Prop where
  sound : t.Sound
  published : t.published = s.published
  others : ∀ other, other ≠ index → t.slots other = s.slots other

/-- What the publisher does in a slot: it goes on with it, and a sample that is new
there has a generation that is not stored yet. -/
def FillsSlot (number : UInt32) (c d : Mailbox) : Prop :=
  Seqlock.Evolves TouchSample.size c d ∧
    ∀ entry ∈ d.published, entry ∈ c.published ∨ entry.1 = number

variable {index : ℕ} {cut : List ℕ}

theorem Filling.setSlot {number : UInt32} {t : TouchRing} {cell : Mailbox}
    (filling : Filling s index t) (ahead : s.published.length < number.toNat)
    (fills : FillsSlot number (t.slots index) cell) :
    RingEvolves t (t.setSlot index cell) ∧ Filling s index (t.setSlot index cell) := by
  obtain ⟨evolves, added⟩ := fills
  have slots : ∀ other, Seqlock.Evolves TouchSample.size (t.slots other)
      ((t.setSlot index cell).slots other) := by
    intro other
    by_cases same : other = index
    · subst same
      rw [slots_setSlot_self]
      exact evolves
    · rw [slots_setSlot_of_ne same]
      exact Seqlock.Evolves.refl _
  have sound : (t.setSlot index cell).Sound := by
    refine ⟨fun other => (slots other).sound (filling.sound.slots other), filling.sound.written,
      fun other entry found small => ?_⟩
    by_cases same : other = index
    · subst same
      rw [slots_setSlot_self] at found
      rcases added entry found with earlier | latest
      · exact filling.sound.shown other entry earlier small
      · rw [latest] at small
        exact absurd (filling.published ▸ small) (by omega)
    · rw [slots_setSlot_of_ne same] at found
      exact filling.sound.shown other entry found small
  refine ⟨⟨slots, List.prefix_rfl, rfl, fun _ => sound⟩, sound, filling.published,
    fun other different => ?_⟩
  rw [slots_setSlot_of_ne different]
  exact filling.others other different

theorem Filling.counted {t u : TouchRing} (filling : Filling s index t) (counts : CountsDrops t u) :
    Filling s index u := by
  obtain ⟨drops, rfl⟩ := counts
  obtain ⟨⟨slots, written, shown⟩, published, others⟩ := filling
  exact ⟨⟨slots, written, shown⟩, published, others⟩

/-- The generation of the sample is stored last. -/
theorem Filling.finish {t : TouchRing} (filling : Filling s index t)
    (published : Published generation s) (next : sample.generation.toNat = s.published.length + 1)
    (filled : (t.slots index).published =
      (s.slots index).published ++ [(sample.generation, sample.bytes)]) : let finished :=
      { t with writeGeneration := sample.generation, published := t.published ++ [sample] }
    RingEvolves t finished ∧ Published sample.generation finished := by
  obtain ⟨⟨slots, written, shown⟩, same, others⟩ := filling
  have upTo : ∀ other, ∀ entry ∈ (t.slots other).published,
      entry.1.toNat ≤ s.published.length ∨ entry = (sample.generation, sample.bytes) := by
    intro other entry found
    by_cases here : other = index
    · subst here
      rw [filled] at found
      rcases List.mem_append.mp found with earlier | last
      · exact Or.inl (published.upTo other entry earlier)
      · exact Or.inr (List.mem_singleton.mp last)
    · rw [others other here] at found
      exact Or.inl (published.upTo other entry found)
  have sound : TouchRing.Sound
      { t with writeGeneration := sample.generation, published := t.published ++ [sample] } := by
    refine ⟨slots, ?_, fun other entry found small => ?_⟩
    · rw [next, List.length_append, same, List.length_singleton]
    · rcases upTo other entry found with earlier | last
      · have positive : entry.1.toNat ≠ 0 := fun zero =>
          (slots other).numbered entry found (UInt32.toNat_inj.mp zero)
        obtain ⟨before, there, bytes⟩ := shown other entry found (same ▸ earlier)
        refine ⟨before, ?_, bytes⟩
        rw [List.getElem?_append_left (by rw [same]; omega)]
        exact there
      · refine ⟨sample, ?_, last⟩
        rw [last, next, ← same, Nat.add_sub_cancel, List.getElem?_append_right (le_refl _),
          Nat.sub_self]
        rfl
  refine ⟨⟨fun _ => .refl _, List.prefix_append _ _, rfl, fun _ => sound⟩, sound, rfl,
    fun other entry found => ?_⟩
  rw [List.length_append, List.length_singleton, same]
  rcases upTo other entry found with earlier | last
  · exact Nat.le_succ_of_le earlier
  · rw [last, next]

theorem fillSlot_safe {cell : Mailbox} (sound : cell.Sound TouchSample.size)
    (whole : cut.sum = TouchSample.size) (nonzero : sample.generation ≠ 0)
    (greater : ∀ entry ∈ cell.published, entry.1 < sample.generation) :
    (fillSlot cut sample).Safe Eq (FillsSlot sample.generation)
      (fun _ c => c.published = cell.published ++ [(sample.generation, sample.bytes)]) cell := by
  obtain ⟨withdrawn, evolves⟩ := sound.withdraw
  apply Safe.store
  rintro _ rfl
  refine ⟨⟨evolves, fun _ found => Or.inl found⟩, ?_⟩
  apply publish_safe withdrawn greater nonzero (TouchSample.length_bytes _) whole
  · rintro c d evolves (same | longer)
    · exact ⟨evolves, fun entry found => Or.inl (same ▸ found)⟩
    · refine ⟨evolves, fun entry found => ?_⟩
      rw [longer] at found
      rcases List.mem_append.mp found with earlier | last
      · exact Or.inl earlier
      · exact Or.inr (by rw [List.mem_singleton.mp last])
  · exact fun c _ longer _ _ => longer

/-- Filling the slot of the next sample, seen from the ring. -/
theorem onSlot_fillSlot_safe (published : Published generation s)
    (whole : cut.sum = TouchSample.size) (next : sample.generation.toNat = s.published.length + 1) :
    (onSlot index (fillSlot cut sample)).Safe CountsDrops (fun a b => True ∧ RingEvolves a b)
      (fun _ t => Filling s index t ∧ (t.slots index).published =
        (s.slots index).published ++ [(sample.generation, sample.bytes)]) s := by
  have nonzero : sample.generation ≠ 0 := by
    intro zero
    rw [zero] at next
    exact absurd next (Nat.succ_ne_zero _).symm
  have greater : ∀ entry ∈ (s.slots index).published, entry.1 < sample.generation := by
    intro entry found
    rw [UInt32.lt_iff_toNat_lt, next]
    exact Nat.lt_succ_of_le (published.upTo _ entry found)
  have filled := fillSlot_safe (published.sound.slots index) whole nonzero greater
  have started : Filling s index s := ⟨published.sound, rfl, fun _ _ => rfl⟩
  apply Safe.zoom _ _ (fun a b filling counts => filling.counted counts) _ _ started filled
  · rintro a _ ⟨drops, rfl⟩
    rfl
  · exact fun cell ring => slots_setSlot_self _ cell ring
  · intro t cell filling fills
    obtain ⟨kept, framed⟩ := filling.setSlot (by omega) fills
    exact ⟨⟨trivial, kept⟩, framed⟩
  · exact fun _ t filling longer => ⟨filling, longer⟩

theorem publishTouch_kept {touch : Touch} (whole : cut.sum = TouchSample.size)
    (room : s.published.length + 1 < 2 ^ 32) :
    touchPublisher.Kept (publishTouch cut touch) generation s := by
  intro rest
  have published : Published generation s := rest s (CountsDrops.refl s)
  have inside : generation.toNat + 1 < 2 ^ 32 := by
    rw [← published.stored, published.sound.written]
    exact room
  have next : (touch.sample (generation + 1)).generation.toNat = s.published.length + 1 := by
    rw [← published.sound.written, published.stored]
    exact (nextGeneration_of_room inside).2.1
  apply (onSlot_fillSlot_safe published whole next).bind CountsDrops.refl
  rintro _ t ⟨filling, longer⟩
  apply Safe.store
  intro u counts
  obtain ⟨drops, rfl⟩ := counts
  obtain ⟨kept, finished⟩ := (filling.counted ⟨drops, rfl⟩).finish published next longer
  exact ⟨⟨trivial, kept⟩, Safe.done fun u counts => finished.counted counts⟩

end Publisher

/-! ## The reader -/

/-- The sample that is wanted comes right behind the ones that are left out. -/
theorem wantedSample_spec {after latest : UInt32} (behind : after.toNat < latest.toNat) :
    (wantedSample after latest).toNat = after.toNat + 1 + (skippedSamples after latest).toNat ∧
      (wantedSample after latest).toNat ≤ latest.toNat := by
  have small := latest.toNat_lt
  have next : (after + 1).toNat = after.toNat + 1 := by
    rw [UInt32.toNat_add, UInt32.toNat_one, Nat.mod_eq_of_lt (by omega)]
  have gap : (latest - (after + 1)).toNat = latest.toNat - (after.toNat + 1) := by
    rw [UInt32.toNat_sub_of_le _ _ (UInt32.le_iff_toNat_le.mpr (by omega)), next]
  unfold wantedSample skippedSamples
  by_cases far : touchCapacity ≤ latest - (after + 1)
  · have distance : 16 ≤ latest.toNat - (after.toNat + 1) := by
      rw [← gap]
      exact UInt32.le_iff_toNat_le.mp far
    have oldest : (latest - touchCapacity + 1).toNat = latest.toNat - 16 + 1 := by
      have capacity : touchCapacity.toNat = 16 := rfl
      rw [UInt32.toNat_add, UInt32.toNat_one,
        UInt32.toNat_sub_of_le _ _ (UInt32.le_iff_toNat_le.mpr (by omega)), capacity,
        Nat.mod_eq_of_lt (by omega)]
    have skipped : (latest - touchCapacity + 1 - (after + 1)).toNat =
        latest.toNat - 16 + 1 - (after.toNat + 1) := by
      rw [UInt32.toNat_sub_of_le _ _ (UInt32.le_iff_toNat_le.mpr (by omega)), oldest, next]
    simp only [if_pos far, oldest, skipped]
    omega
  · simp only [if_neg far, UInt32.toNat_zero, Nat.add_zero]
    omega

/-- What the reader was given, while it is between two calls and during one. -/
structure Given (receiver : TouchReceiver) (ring : TouchRing) : Prop where
  sound : ring.Sound
  inOrder : (receiver.returned.map TouchSample.generation).Pairwise (· < ·)
  asPublished : ∀ sample ∈ receiver.returned,
    0 < sample.generation.toNat ∧ ring.published[sample.generation.toNat - 1]? = some sample
  upToLast : ∀ sample ∈ receiver.returned, sample.generation ≤ receiver.last
  lastReturned : receiver.last = 0 ∨ receiver.last ∈ receiver.returned.map TouchSample.generation
  balance : ring.dropCount.toNat + receiver.returned.length = receiver.last.toNat

theorem RingEvolves.published_at (evolves : RingEvolves r t) {index : ℕ} {sample : TouchSample}
    (there : r.published[index]? = some sample) : t.published[index]? = some sample := by
  obtain ⟨inside, here⟩ := List.getElem?_eq_some_iff.mp there
  exact List.getElem?_eq_some_iff.mpr ⟨Nat.lt_of_lt_of_le inside evolves.grown.length_le,
    (evolves.grown.getElem inside).symm.trans here⟩

theorem Given.evolves (given : Given receiver r) (evolves : RingEvolves r t) :
    Given receiver t := by
  obtain ⟨sound, inOrder, asPublished, upToLast, lastReturned, balance⟩ := given
  refine ⟨evolves.sound sound, inOrder, fun sample found => ?_, upToLast, lastReturned,
    evolves.drops ▸ balance⟩
  obtain ⟨positive, there⟩ := asPublished sample found
  exact ⟨positive, evolves.published_at there⟩

/-- The generation that was given last has been published. -/
theorem Given.last_le (given : Given receiver ring) :
    receiver.last.toNat ≤ ring.published.length := by
  rcases given.lastReturned with zero | returned
  · rw [zero]
    exact Nat.zero_le _
  · obtain ⟨sample, found, same⟩ := List.mem_map.mp returned
    obtain ⟨positive, there⟩ := given.asPublished sample found
    have inside := (List.getElem?_eq_some_iff.mp there).1
    rw [← same]
    omega

def touchReader : Duo.Contract TouchRing TouchReceiver where
  rely := RingEvolves
  guar := CountsDrops
  always := Given
  atRest := Given
  reflexive := RingEvolves.refl
  transitive _ _ _ := RingEvolves.trans
  calm _ _ given := given

theorem readSlot_safe {size : ℕ} {wanted : UInt32} {cell : Mailbox} (sound : cell.Sound size)
    (whole : cut.sum = size) :
    (readSlot cut wanted).Safe (Seqlock.Evolves size) Eq
      (Taken size (fun _ bytes => (TouchSample.ofBytes bytes).Acceptable wanted) (· = wanted) cell)
      cell := by
  apply attempt_safe sound (Seqlock.Evolves.refl cell) (fun _ _ => rfl) whole fun number standing =>
    ⟨(not_or.mp standing).1, not_not.mp (not_or.mp standing).2⟩
  intro number bytes after u reached taken
  split
  · exact taken_done reached
  · rename_i same
    have found := taken (not_not.mp same).symm
    split
    · have exactly : number = wanted := found.2.2.2
      subst exactly
      exact taken_done found
    · rename_i failed
      exact taken_done (found.refuse failed)

/-- What one call comes to: an accepted sample is the wanted one, and it was
published. -/
def Wanted (s : TouchRing) (wanted : UInt32) : Reading → TouchRing → Prop
  | .accepted number bytes, t => RingEvolves s t ∧ number = wanted ∧
      ∃ sample, t.published[wanted.toNat - 1]? = some sample ∧
        sample.generation = wanted ∧ TouchSample.ofBytes bytes = sample
  | _, t => RingEvolves s t

theorem onSlot_readSlot_safe {index : ℕ} {wanted : UInt32} {s t : TouchRing}
    (given : Given receiver s) (before : RingEvolves s t) (whole : cut.sum = TouchSample.size)
    (ready : wanted.toNat ≤ t.published.length) :
    (onSlot index (readSlot cut wanted)).Safe RingEvolves
      (fun a b => Given receiver a ∧ CountsDrops a b) (Wanted s wanted) t := by
  have sound := before.sound given.sound
  apply Safe.zoom (fun a b evolves => evolves.slots index) _
    (fun a b (frame : RingEvolves t a) evolves => frame.trans evolves) _ _ (RingEvolves.refl t)
    (readSlot_safe (sound.slots index) whole)
  · exact fun cell ring => slots_setSlot_self index cell ring
  · rintro u _ evolves rfl
    rw [setSlot_slots]
    exact ⟨⟨given.evolves (before.trans evolves), CountsDrops.refl u⟩, evolves⟩
  · intro reading u evolves taken
    cases reading with
    | nothing => exact before.trans evolves
    | refused => exact before.trans evolves
    | accepted number bytes =>
        obtain ⟨-, published, -, rfl⟩ := taken
        have small : number.toNat ≤ u.published.length :=
          Nat.le_trans ready evolves.grown.length_le
        obtain ⟨sample, there, same⟩ :=
          (evolves.sound sound).shown index _ published small
        obtain ⟨rfl, rfl⟩ := Prod.mk.inj same
        exact ⟨before.trans evolves, rfl, sample, there, rfl, TouchSample.ofBytes_bytes sample⟩

/-- The drops are added without a bound being reached. -/
theorem addDrops_of_room {cumulativeDrops skipped : UInt32}
    (room : cumulativeDrops.toNat + skipped.toNat < 2 ^ 32) :
    (addDrops cumulativeDrops skipped).toNat = cumulativeDrops.toNat + skipped.toNat := by
  have left : (0xffffffff - cumulativeDrops).toNat = 2 ^ 32 - 1 - cumulativeDrops.toNat := by
    have small := cumulativeDrops.toNat_lt
    rw [UInt32.toNat_sub_of_le _ _ (UInt32.le_iff_toNat_le.mpr _)]
    · rfl
    · have top : (0xffffffff : UInt32).toNat = 2 ^ 32 - 1 := rfl
      omega
  have fits : ¬(0xffffffff - cumulativeDrops < skipped) := by
    rw [UInt32.lt_iff_toNat_lt, left]
    omega
  rw [addDrops, if_neg fits, UInt32.toNat_add, Nat.mod_eq_of_lt room]

/-- The wanted sample joins those that were given before it. -/
theorem Given.take {latest : UInt32} {sample : TouchSample} (given : Given receiver ring)
    (behind : receiver.last.toNat < latest.toNat)
    (wanted : sample.generation = wantedSample receiver.last latest)
    (there : ring.published[sample.generation.toNat - 1]? = some sample) {drops : UInt32}
    (counted : drops.toNat =
      ring.dropCount.toNat + (skippedSamples receiver.last latest).toNat) :
    Given ⟨sample.generation, receiver.returned ++ [sample]⟩ { ring with dropCount := drops } := by
  obtain ⟨ahead, -⟩ := wantedSample_spec behind
  rw [← wanted] at ahead
  have later : ∀ earlier ∈ receiver.returned, earlier.generation < sample.generation := by
    intro earlier found
    have upTo := UInt32.le_iff_toNat_le.mp (given.upToLast earlier found)
    rw [UInt32.lt_iff_toNat_lt]
    omega
  obtain ⟨sound, inOrder, asPublished, upToLast, lastReturned, balance⟩ := given
  refine ⟨⟨sound.slots, sound.written, sound.shown⟩, ?_, fun other found => ?_,
    fun other found => ?_, Or.inr (by simp), ?_⟩
  · rw [List.map_append, List.pairwise_append]
    refine ⟨inOrder, List.pairwise_singleton _ _, fun number found last same => ?_⟩
    obtain ⟨earlier, member, rfl⟩ := List.mem_map.mp found
    rw [List.map_singleton, List.mem_singleton] at same
    rw [same]
    exact later earlier member
  · rcases List.mem_append.mp found with earlier | last
    · exact asPublished other earlier
    · rw [List.mem_singleton.mp last]
      exact ⟨by omega, there⟩
  · rcases List.mem_append.mp found with earlier | last
    · exact UInt32.le_of_lt (later other earlier)
    · rw [List.mem_singleton.mp last]
      exact UInt32.le_refl _
  · rw [List.length_append, List.length_singleton]
    simp only [counted]
    omega

theorem touchRead_safe {s : TouchRing} (given : Given receiver s)
    (whole : cut.sum = TouchSample.size) :
    (touchRead cut receiver.last).Safe RingEvolves
      (fun a b => Given receiver a ∧ CountsDrops a b)
      (fun reading t => Given (receiver.take reading) t) s := by
  apply Safe.load
  intro t one
  refine ⟨⟨given.evolves one, CountsDrops.refl t⟩, ?_⟩
  apply Safe.load
  intro u two
  have reached := one.trans two
  refine ⟨⟨given.evolves reached, CountsDrops.refl u⟩, ?_⟩
  by_cases idle : t.writeGeneration = 0 ∨ t.writeGeneration = receiver.last
  · rw [if_pos idle]
    exact fun v later => given.evolves (reached.trans later)
  · rw [if_neg idle]
    have behind : receiver.last.toNat < t.writeGeneration.toNat := by
      have upTo := (given.evolves one).last_le
      have written := (given.evolves one).sound.written
      have different : receiver.last.toNat ≠ t.writeGeneration.toNat := fun same =>
        (not_or.mp idle).2 (UInt32.toNat_inj.mp same.symm)
      omega
    have ready : (wantedSample receiver.last t.writeGeneration).toNat ≤ u.published.length := by
      have upTo := (wantedSample_spec behind).2
      have written := (given.evolves one).sound.written
      have longer := two.grown.length_le
      omega
    apply (onSlot_readSlot_safe given reached whole ready).bind RingEvolves.refl
    intro reading v found
    cases reading with
    | nothing => exact fun w later => given.evolves (RingEvolves.trans found later)
    | refused => exact fun w later => given.evolves (RingEvolves.trans found later)
    | accepted number bytes =>
        obtain ⟨evolves, rfl, sample, there, wanted, rfl⟩ := found
        rw [← wanted] at there
        have givenThen := given.evolves evolves
        have drops : v.dropCount = u.dropCount := by rw [evolves.drops, reached.drops]
        by_cases skips : skippedSamples receiver.last t.writeGeneration ≠ 0
        · simp only [if_pos skips]
          apply Safe.store
          intro w later
          have givenLast := givenThen.evolves later
          refine ⟨⟨givenLast, _, rfl⟩, ?_⟩
          have room : u.dropCount.toNat +
              (skippedSamples receiver.last t.writeGeneration).toNat < 2 ^ 32 := by
            have ahead := (wantedSample_spec behind).1
            have small := (wantedSample receiver.last t.writeGeneration).toNat_lt
            have balance := givenThen.balance
            rw [drops] at balance
            omega
          have counted := addDrops_of_room room
          rw [← drops, ← later.drops] at counted
          have taken := givenLast.take behind wanted (later.published_at there) counted
          rw [later.drops, drops] at taken
          exact fun x last => taken.evolves last
        · simp only [if_neg skips]
          have counted : v.dropCount.toNat = v.dropCount.toNat +
              (skippedSamples receiver.last t.writeGeneration).toNat := by
            rw [not_not.mp skips, UInt32.toNat_zero, Nat.add_zero]
          exact fun w later => (givenThen.take behind wanted there counted).evolves later

/-- The samples that were returned and the missed ones make up all generations up
to the last one. -/
theorem Given.card_missed (given : Given receiver ring) :
    receiver.missed.card + receiver.returned.length = receiver.last.toNat := by
  have distinct : (receiver.returned.map fun sample => sample.generation.toNat).Nodup := by
    have ordered := List.pairwise_map.mp given.inOrder
    exact List.pairwise_map.mpr (ordered.imp fun before =>
      Nat.ne_of_lt (UInt32.lt_iff_toNat_lt.mp before))
  have within : ∀ generation ∈ receiver.returned.map fun sample => sample.generation.toNat,
      0 < generation ∧ generation ≤ receiver.last.toNat := by
    intro generation found
    obtain ⟨sample, member, rfl⟩ := List.mem_map.mp found
    exact ⟨(given.asPublished sample member).1,
      UInt32.le_iff_toNat_le.mp (given.upToLast sample member)⟩
  have parts := RoundCounter.card_gaps distinct within
  rw [List.length_map] at parts
  exact parts

theorem Given.delivers (given : Given receiver ring) : Delivers receiver ring := by
  refine ⟨given.inOrder, given.asPublished, given.upToLast, given.last_le,
    fun generation positive _ => ?_, ?_⟩
  · by_cases newer : receiver.last.toNat < generation
    · exact Or.inr (Or.inr newer)
    · by_cases returned : generation ∈ receiver.returned.map fun sample => sample.generation.toNat
      · exact Or.inl (List.mem_map.mp returned)
      · refine Or.inr (Or.inl ?_)
        rw [TouchReceiver.missed, Finset.mem_filter, Finset.mem_Icc]
        exact ⟨⟨positive, Nat.le_of_not_lt newer⟩, returned⟩
  · have missed := given.card_missed
    have balance := given.balance
    omega

/-- **Touch samples are delivered.** In every interleaving of the publisher and
the reader, whatever is published, each sample up to the last generation given to
the reader was returned once, in order and as it was published, or is counted once
in the drop count. -/
theorem delivers_of_reachable {s : Duo.State TouchRing UInt32 TouchReceiver}
    (reachable : touchDuo.system.Reachable s) : Delivers s.two.kept s.shared := by
  have started : Given ⟨0, []⟩ .cleared := by
    refine ⟨⟨fun _ => sound_cleared _, rfl, fun _ _ found => ?_⟩, List.Pairwise.nil,
      fun _ found => ?_, fun _ found => ?_, Or.inl rfl, rfl⟩
    all_goals cases found
  have stored : Published 0 .cleared :=
    ⟨started.sound, rfl, fun _ _ found => (by cases found)⟩
  have stays : ∀ t, touchPublisher.rely touchDuo.initial t → Published 0 t :=
    fun t counts => stored.counted counts
  have begins : ∀ t, touchReader.rely touchDuo.initial t → Given ⟨0, []⟩ t :=
    fun t evolves => started.evolves evolves
  have both := Duo.holds_of_contracts touchPublisher touchReader (fun _ _ kept => kept)
    (fun _ _ counts => counts) stays begins ?_ ?_ reachable
  · exact both.2.delivers
  · intro input kept s allowed
    obtain ⟨whole, room⟩ := of_decide_eq_true allowed
    exact publishTouch_kept whole room
  · intro cut receiver s whole rest
    have given : Given receiver s := rest s (RingEvolves.refl s)
    apply (touchRead_safe given (of_decide_eq_true whole)).bind RingEvolves.refl
    exact fun reading t taken u later => taken.evolves later

/-- Eighteen samples are published before the reader asks twice. -/
def overrunMoves : List (Duo.Move (List ℕ × Touch) (List ℕ)) :=
  (List.replicate 18
    (.callFirst ([4, 4, 4], ⟨160, 120, 1⟩) :: List.replicate 7 .advanceFirst)).flatten ++
    .callSecond [4, 4, 4] :: List.replicate 8 .advanceSecond ++
    .callSecond [4, 4, 4] :: List.replicate 7 .advanceSecond

theorem delivers_of_reachable_overrun :
    ∃ s, touchDuo.system.Reachable s ∧ Delivers s.two.kept s.shared ∧
      s.two.kept.returned = [⟨3, 160, 120, 1, 1⟩, ⟨4, 160, 120, 1, 1⟩] ∧
      s.shared.dropCount = 2 := by
  have ran : (touchDuo.system.execute touchDuo.start overrunMoves).map
      (fun s => (s.two.kept.returned, s.shared.dropCount)) =
      some ([⟨3, 160, 120, 1, 1⟩, ⟨4, 160, 120, 1, 1⟩], 2) := by
    decide +kernel
  obtain ⟨s, reachable, found⟩ := StepSystem.exists_reachable_of_map ran rfl
  obtain ⟨returned, drops⟩ := Prod.mk.inj found
  exact ⟨s, reachable, delivers_of_reachable reachable, returned, drops⟩

end Deskkin.Amp
