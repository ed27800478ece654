/-
# The model of the touch ring

The crate of the device has its own touch ring, of any capacity. Its generations go
round without zero, and its reader asks for the sample after the one it got last, or
for the oldest that the ring can hold.

A run keeps beside the ring what was pushed and which push filled each slot. With it
one can say what became of a push: a reader may be given a sample that has the
generation it asked for and is a whole round younger.
-/

import Deskkin.Lib.Checked
import Deskkin.Lib.RoundCounter
import Deskkin.Lib.Runs

namespace Deskkin.Amp

open Checked RoundCounter

/-! ## The ring -/

structure AmpTouchSample where
  generation : ℕ
  x : Int16
  y : Int16
  pressed : Bool
  deriving DecidableEq

structure AmpTouchRing (N : ℕ) where
  samples : Vector AmpTouchSample N
  generation : ℕ
  deriving DecidableEq

/-- Arithmetic of `u32`. -/
def wrappingAdd (a b : ℕ) : ℕ := (a + b) % 2 ^ 32

def wrappingSub (a b : ℕ) : ℕ := (a + 2 ^ 32 - b) % 2 ^ 32

def saturatingAdd (a b : ℕ) : ℕ := min (a + b) u32Max

namespace AmpTouchRing

variable {N : ℕ}

def new (N : ℕ) : AmpTouchRing N := ⟨.replicate N ⟨0, 0, 0, false⟩, 0⟩

def nextGeneration (ring : AmpTouchRing N) : ℕ := max (wrappingAdd ring.generation 1) 1

def push (ring : AmpTouchRing N) (x y : Int16) (pressed : Bool) : AmpTouchRing N :=
  if empty : N = 0 then ring
  else
    { samples := ring.samples.set ((ring.nextGeneration - 1) % N)
        ⟨ring.nextGeneration, x, y, pressed⟩ (Nat.mod_lt _ (Nat.pos_of_ne_zero empty))
      generation := ring.nextGeneration }

/-- The generation that the reader asks for. -/
def wanted (ring : AmpTouchRing N) (last : ℕ) : ℕ :=
  let capacity := if N ≤ u32Max then N else u32Max
  let oldest := saturatingAdd (ring.generation - capacity) 1
  max (wrappingAdd last 1) oldest

def nextAfter (ring : AmpTouchRing N) (last : ℕ) : Option AmpTouchSample :=
  if nothing : N = 0 ∨ ring.generation = 0 ∨ last = ring.generation then none
  else
    have inside : (ring.wanted last - 1) % N < N :=
      Nat.mod_lt _ (Nat.pos_of_ne_zero (not_or.mp nothing).1)
    let sample := ring.samples[(ring.wanted last - 1) % N]
    if sample.generation = ring.wanted last then some sample else none

def readAfter (ring : AmpTouchRing N) (last cumulativeDrops : ℕ) : Option AmpTouchSample × ℕ :=
  match ring.nextAfter last with
  | none => (none, cumulativeDrops)
  | some sample =>
      let wanted := max (wrappingAdd last 1) 1
      let skipped := wrappingSub sample.generation wanted
      (some sample, saturatingAdd cumulativeDrops skipped)

end AmpTouchRing

/-! ## Runs -/

/-- The ring with its reader, and what it was made of: the pushed samples, oldest first,
the push that filled each slot, counted from one, and the returned samples with the
pushes they come from. The reader has missed when it was given nothing while a sample
was pending. -/
structure TouchRun (N : ℕ) where
  ring : AmpTouchRing N
  last : ℕ
  drops : ℕ
  pushed : List AmpTouchSample
  origins : Vector ℕ N
  returned : List (ℕ × AmpTouchSample)
  missed : Bool
  deriving DecidableEq

inductive TouchMove
  | push (x y : Int16) (pressed : Bool)
  | read
  deriving DecidableEq

namespace TouchRun

variable {N : ℕ}

def start (N : ℕ) : TouchRun N := ⟨.new N, 0, 0, [], .replicate N 0, [], false⟩

/-- The push that filled the slot of a generation. -/
def origin (run : TouchRun N) (generation : ℕ) : ℕ := run.origins[(generation - 1) % N]?.getD 0

/-- The last push whose sample was returned. -/
def position (run : TouchRun N) : ℕ := (run.returned.map Prod.fst).getLast?.getD 0

def push (run : TouchRun N) (x y : Int16) (pressed : Bool) : TouchRun N :=
  let ring := run.ring.push x y pressed
  { run with
    ring := ring
    pushed := run.pushed ++ [⟨ring.generation, x, y, pressed⟩]
    origins := run.origins.setIfInBounds ((ring.generation - 1) % N) (run.pushed.length + 1) }

/-- The reader passes what it got last. -/
def read (run : TouchRun N) : TouchRun N :=
  match run.ring.readAfter run.last run.drops with
  | (none, drops) =>
      { run with
        drops := drops
        missed := run.missed || decide (run.position < run.pushed.length) }
  | (some sample, drops) =>
      { run with
        last := sample.generation
        drops := drops
        returned := run.returned ++ [(run.origin sample.generation, sample)] }

def move (run : TouchRun N) : TouchMove → TouchRun N
  | .push x y pressed => run.push x y pressed
  | .read => run.read

/-- Pushes and reads in any order. -/
def system (N : ℕ) : StepSystem (TouchRun N) TouchMove where
  Initial run := run = start N
  step run move := some (run.move move)

/-- Samples are returned in order and as they were pushed, each once. Of the others those
up to the last returned one are counted, and those behind it are pending. No read was
given nothing while a sample was pending. -/
structure Delivers (run : TouchRun N) : Prop where
  inOrder : (run.returned.map Prod.fst).Pairwise (· < ·)
  asPushed : ∀ entry ∈ run.returned,
    0 < entry.1 ∧ entry.1 ≤ run.position ∧ run.pushed[entry.1 - 1]? = some entry.2
  upTo : run.position ≤ run.pushed.length
  counted : run.drops = (gaps run.position (run.returned.map Prod.fst)).card
  answered : run.missed = false

/-- The last push of the round in which the reader goes on. -/
def roundEnd (run : TouchRun N) : ℕ := run.position / u32Max * u32Max + u32Max

/-- What a read needs: nothing is pending; or the generations have not gone round, at
most a first whole round is pending, and the drop count has room; or they have gone round,
less than a whole round is pending, and the next sample is still there. -/
def Ready (run : TouchRun N) : Prop :=
  run.position = run.pushed.length ∨
  (run.pushed.length ≤ run.roundEnd ∧
    (run.pushed.length < run.position + u32Max ∨ run.position = 0) ∧
    run.drops + (run.pushed.length - N - run.position) ≤ u32Max) ∨
  (run.roundEnd < run.pushed.length ∧ run.pushed.length < run.position + u32Max ∧
    run.origin (turn u32Max (run.position + 1)) = run.position + 1)

/-! ## What a run keeps -/

/-- A slot holds the sample of the last push that went there. -/
structure Filled (run : TouchRun N) (slot : ℕ) (inside : slot < N) : Prop where
  upTo : run.origins[slot] ≤ run.pushed.length
  newest : ∀ number, 0 < number → number ≤ run.pushed.length →
    (turn u32Max number - 1) % N = slot → number ≤ run.origins[slot]
  content : run.origins[slot] = 0 ∧ run.ring.samples[slot].generation = 0 ∨
    0 < run.origins[slot] ∧ (turn u32Max run.origins[slot] - 1) % N = slot ∧
      run.pushed[run.origins[slot] - 1]? = some run.ring.samples[slot]

structure Tracked (run : TouchRun N) : Prop where
  newest : run.ring.generation = turn u32Max run.pushed.length
  last : run.last = turn u32Max run.position
  upTo : run.position ≤ run.pushed.length
  numbered : ∀ index sample, run.pushed[index]? = some sample →
    sample.generation = turn u32Max (index + 1)
  slots : ∀ slot (inside : slot < N), run.Filled slot inside
  inOrder : (run.returned.map Prod.fst).Pairwise (· < ·)
  asPushed : ∀ entry ∈ run.returned,
    0 < entry.1 ∧ entry.1 ≤ run.position ∧ run.pushed[entry.1 - 1]? = some entry.2
  balance : run.drops + run.returned.length ≤ run.position
  fits : run.drops ≤ u32Max

/-- What is known of the counter of a number. -/
theorem turn_spec (number : ℕ) :
    number = 0 ∧ turn u32Max number = 0 ∨
      0 < number ∧ ∃ rounds, number = rounds * 4294967295 + turn u32Max number ∧
        0 < turn u32Max number ∧ turn u32Max number ≤ 4294967295 := by
  rcases Nat.eq_zero_or_pos number with rfl | started
  · exact .inl ⟨rfl, rfl⟩
  · exact .inr ⟨started, exists_rounds (by decide) started⟩

theorem turn_le (number : ℕ) : turn u32Max number ≤ 4294967295 := by
  rcases turn_spec number with ⟨-, zero⟩ | ⟨-, -, -, -, within⟩
  · omega
  · exact within

theorem turn_of {number place : ℕ} (rounds : ℕ) (split : number = rounds * 4294967295 + place)
    (positive : 0 < place) (within : place ≤ 4294967295) : turn u32Max number = place := by
  subst split
  exact turn_rounds positive within

theorem tracked_start (N : ℕ) : (start N).Tracked where
  newest := rfl
  last := rfl
  upTo := Nat.le_refl 0
  numbered := by
    intro index sample found
    cases found
  slots := by
    intro slot inside
    refine ⟨?_, ?_, .inl ⟨?_, ?_⟩⟩
    · simp [start]
    · intro number positive most
      exact absurd most (Nat.not_le_of_lt positive)
    · simp [start]
    · simp [start, AmpTouchRing.new]
  inOrder := List.Pairwise.nil
  asPushed := by
    intro entry member
    cases member
  balance := Nat.le_refl 0
  fits := Nat.zero_le _

variable {run : TouchRun N} {sample : AmpTouchSample} {past : List (TouchRun N × TouchMove)}

/-- The sum of what was returned and dropped reaches the position of the reader exactly
when everything is accounted for. -/
theorem Tracked.delivers_iff (tracked : run.Tracked) :
    run.Delivers ↔ run.drops + run.returned.length = run.position ∧ run.missed = false := by
  have within : ∀ number ∈ run.returned.map Prod.fst, 0 < number ∧ number ≤ run.position := by
    intro number member
    obtain ⟨entry, found, rfl⟩ := List.mem_map.mp member
    obtain ⟨positive, most, -⟩ := tracked.asPushed entry found
    exact ⟨positive, most⟩
  have once : (run.returned.map Prod.fst).Nodup := tracked.inOrder.imp Nat.ne_of_lt
  have whole := card_gaps once within
  rw [List.length_map] at whole
  constructor
  · intro delivers
    have counted := delivers.counted
    exact ⟨by omega, delivers.answered⟩
  · rintro ⟨balance, answered⟩
    exact ⟨tracked.inOrder, tracked.asPushed, tracked.upTo, by omega, answered⟩

/-! ## A push -/

theorem Tracked.nextGeneration (tracked : run.Tracked) :
    run.ring.nextGeneration = turn u32Max (run.pushed.length + 1) := by
  rw [AmpTouchRing.nextGeneration, tracked.newest, turn_succ (by decide), wrappingAdd]
  have within := turn_le run.pushed.length
  have greatest : u32Max = 4294967295 := rfl
  by_cases full : turn u32Max run.pushed.length = u32Max
  · rw [if_pos full]
    omega
  · rw [if_neg full]
    omega

theorem Tracked.push (tracked : run.Tracked) (positive : 0 < N) (x y : Int16) (pressed : Bool) :
    (run.push x y pressed).Tracked := by
  have slotInside : (run.ring.nextGeneration - 1) % N < N := Nat.mod_lt _ positive
  have ring : run.ring.push x y pressed =
      ⟨run.ring.samples.set ((run.ring.nextGeneration - 1) % N)
        ⟨run.ring.nextGeneration, x, y, pressed⟩ slotInside, run.ring.nextGeneration⟩ :=
    dif_neg (by omega)
  have generation := tracked.nextGeneration
  have newGeneration : (run.ring.push x y pressed).generation =
      turn u32Max (run.pushed.length + 1) := by
    rw [ring]
    exact generation
  have grown : (run.push x y pressed).pushed.length = run.pushed.length + 1 := by
    simp [TouchRun.push]
  have later : ∀ {index : ℕ} {sample : AmpTouchSample}, run.pushed[index]? = some sample →
      (run.push x y pressed).pushed[index]? = some sample := by
    intro index sample found
    exact (List.getElem?_append_left (List.getElem?_eq_some_iff.mp found).1).trans found
  refine ⟨?_, tracked.last, ?_, ?_, ?_, tracked.inOrder, ?_, tracked.balance, tracked.fits⟩
  · rw [grown]
    exact newGeneration
  · rw [grown]
    exact Nat.le_succ_of_le tracked.upTo
  · intro index sample found
    simp only [TouchRun.push] at found
    rcases Nat.lt_trichotomy index run.pushed.length with before | rfl | beyond
    · rw [List.getElem?_append_left before] at found
      exact tracked.numbered index sample found
    · rw [List.getElem?_concat_length, Option.some.injEq] at found
      rw [← found]
      exact newGeneration
    · rw [List.getElem?_eq_none (by simp; omega)] at found
      cases found
  · intro slot inside
    obtain ⟨upTo, newest, content⟩ := tracked.slots slot inside
    have origins : (run.push x y pressed).origins[slot] =
        if (run.ring.nextGeneration - 1) % N = slot then run.pushed.length + 1
        else run.origins[slot] := by
      simp only [TouchRun.push, ring]
      rw [Vector.getElem_setIfInBounds]
    have samples : (run.push x y pressed).ring.samples[slot] =
        if (run.ring.nextGeneration - 1) % N = slot then
          ⟨run.ring.nextGeneration, x, y, pressed⟩
        else run.ring.samples[slot] := by
      simp only [TouchRun.push, ring]
      rw [Vector.getElem_set]
    by_cases here : (run.ring.nextGeneration - 1) % N = slot
    · rw [if_pos here] at origins samples
      refine ⟨by omega, fun number _ most _ => by omega, .inr ?_⟩
      rw [origins, samples, ← generation]
      refine ⟨Nat.succ_pos _, here, ?_⟩
      simp [TouchRun.push, ring]
    · rw [if_neg here] at origins samples
      refine ⟨by omega, ?_, ?_⟩
      · intro number some_ most there
        rw [origins]
        rcases Nat.lt_or_ge run.pushed.length number with last | before
        · rw [show number = run.pushed.length + 1 by omega, ← generation] at there
          exact absurd there here
        · exact newest number some_ before there
      · rw [origins, samples]
        rcases content with empty | ⟨some_, there, found⟩
        · exact .inl empty
        · exact .inr ⟨some_, there, later found⟩
  · intro entry member
    obtain ⟨some_, most, found⟩ := tracked.asPushed entry member
    exact ⟨some_, most, later found⟩

/-! ## What a read is given -/

/-- The generation that the reader asks for. -/
def asked (run : TouchRun N) : ℕ := run.ring.wanted run.last

section

variable (tracked : run.Tracked)
include tracked

/-- The sample after the last one, or the oldest that fits the ring. -/
theorem Tracked.asked_eq (positive : 0 < N) :
    run.asked = max (run.position % 4294967295 + 1)
      (turn u32Max run.pushed.length - min N 4294967295 + 1) := by
  have within := turn_le run.pushed.length
  have capacity : (if N ≤ u32Max then N else u32Max) = min N 4294967295 := by
    have greatest : u32Max = 4294967295 := rfl
    split <;> omega
  have next : max (wrappingAdd (turn u32Max run.position) 1) 1 = run.position % 4294967295 + 1 := by
    rw [wrappingAdd]
    rcases turn_spec run.position with ⟨zero, number⟩ | ⟨-, rounds, split, some_, most⟩
    · rw [number, zero]
      rfl
    · omega
  have oldest : saturatingAdd (turn u32Max run.pushed.length - min N 4294967295) 1 =
      turn u32Max run.pushed.length - min N 4294967295 + 1 := by
    have greatest : u32Max = 4294967295 := rfl
    rw [saturatingAdd]
    omega
  rw [asked, AmpTouchRing.wanted, tracked.newest, tracked.last]
  simp only [capacity, oldest]
  omega

omit tracked in
theorem origin_eq (run : TouchRun N) {generation : ℕ} (inside : (generation - 1) % N < N) :
    run.origin generation = run.origins[(generation - 1) % N] := by
  rw [origin, Vector.getElem?_eq_getElem inside, Option.getD_some]

section

variable (positive : 0 < N)
include positive

/-- No push with the generation that is asked for is newer than the one in the slot. -/
theorem Tracked.le_origin {number : ℕ} (some_ : 0 < number) (most : number ≤ run.pushed.length)
    (same : turn u32Max number = run.asked) : number ≤ run.origin run.asked := by
  have inside : (run.asked - 1) % N < N := Nat.mod_lt _ positive
  rw [origin_eq run inside]
  exact (tracked.slots _ inside).newest number some_ most (by rw [same])

/-- The reader is given what is in the slot if that has the generation. -/
theorem Tracked.nextAfter_eq_some_iff (pending : run.position < run.pushed.length) :
    run.ring.nextAfter run.last = some sample ↔
      turn u32Max run.position ≠ turn u32Max run.pushed.length ∧
        0 < run.origin run.asked ∧ turn u32Max (run.origin run.asked) = run.asked ∧
        run.pushed[run.origin run.asked - 1]? = some sample := by
  have inside : (run.asked - 1) % N < N := Nat.mod_lt _ positive
  have content := (tracked.slots _ inside).content
  rw [← origin_eq run inside] at content
  have started : run.ring.generation ≠ 0 := by
    have spec := turn_spec run.pushed.length
    rw [tracked.newest]
    omega
  by_cases same : turn u32Max run.position = turn u32Max run.pushed.length
  · have nothing : N = 0 ∨ run.ring.generation = 0 ∨ run.last = run.ring.generation :=
      .inr (.inr (by rw [tracked.last, tracked.newest, same]))
    simp [AmpTouchRing.nextAfter, nothing, same]
  · have something : ¬ (N = 0 ∨ run.ring.generation = 0 ∨ run.last = run.ring.generation) := by
      rw [tracked.last, tracked.newest] at *
      omega
    have answer : run.ring.nextAfter run.last =
        if run.ring.samples[(run.asked - 1) % N].generation = run.asked then
          some run.ring.samples[(run.asked - 1) % N]
        else none :=
      dif_neg something
    rw [answer]
    rcases content with ⟨empty, zero⟩ | ⟨some_, -, found⟩
    · have one : 0 < run.asked := by
        rw [tracked.asked_eq positive]
        omega
      rw [if_neg (by omega)]
      simp [empty]
    · have number := tracked.numbered _ _ found
      rw [Nat.sub_add_cancel some_] at number
      rw [number, found]
      by_cases right : turn u32Max (run.origin run.asked) = run.asked
      · simp [right, same, some_]
      · simp [right]

/-- What is given is a push behind the last returned one. -/
theorem Tracked.lt_origin (pending : run.position < run.pushed.length) :
    run.position < run.origin run.asked := by
  have wanted := tracked.asked_eq positive
  -- Some push that is pending has the generation that is asked for.
  have there : ∃ number, run.position < number ∧ number ≤ run.pushed.length ∧
      turn u32Max number = run.asked := by
    obtain ⟨rounds, split, some_, most⟩ :=
      ((turn_spec run.pushed.length).resolve_left (by omega)).2
    by_cases next : run.asked = run.position % 4294967295 + 1
    · exact ⟨run.position + 1, Nat.lt_succ_self _, pending, by
        rw [next]
        exact turn_of (run.position / 4294967295) (by omega) (by omega) (by omega)⟩
    · refine ⟨rounds * 4294967295 + run.asked, ?_, by omega, turn_of _ rfl (by omega) (by omega)⟩
      rcases turn_spec run.position with ⟨zero, number⟩ | ⟨-, others, before, _, _⟩
      · omega
      · omega
  obtain ⟨number, behind, most, same⟩ := there
  exact Nat.lt_of_lt_of_le behind (tracked.le_origin positive (by omega) most same)

theorem Tracked.origin_le : run.origin run.asked ≤ run.pushed.length := by
  have inside : (run.asked - 1) % N < N := Nat.mod_lt _ positive
  rw [origin_eq run inside]
  exact (tracked.slots _ inside).upTo

/-- The pushes between the position and the one that is given are as many as the
generations say, or more by whole rounds. -/
theorem Tracked.skipped_le (pending : run.position < run.pushed.length)
    (right : turn u32Max (run.origin run.asked) = run.asked) :
    run.asked - (run.position % 4294967295 + 1) + run.position + 1 ≤ run.origin run.asked ∧
      (run.asked - (run.position % 4294967295 + 1) + run.position + 1 = run.origin run.asked ↔
        run.origin run.asked ≤ run.roundEnd) := by
  have wanted := tracked.asked_eq positive
  have behind := tracked.lt_origin positive pending
  obtain ⟨rounds, split, some_, most⟩ :=
    ((turn_spec (run.origin run.asked)).resolve_left (by omega)).2
  rw [right] at split some_ most
  have greatest : u32Max = 4294967295 := rfl
  rw [roundEnd, greatest]
  constructor
  · omega
  · constructor <;> intro _ <;> omega

/-- The slot of a push of the round holds that push if it is among the last that fit. -/
theorem Tracked.origin_of_round (pending : run.position < run.pushed.length)
    (round : run.pushed.length ≤ run.roundEnd) :
    run.origin run.asked = run.position / 4294967295 * 4294967295 + run.asked ∧
      turn u32Max (run.origin run.asked) = run.asked := by
  have wanted := tracked.asked_eq positive
  have greatest : u32Max = 4294967295 := rfl
  rw [roundEnd, greatest] at round
  have newest : turn u32Max run.pushed.length =
      run.pushed.length - run.position / 4294967295 * 4294967295 :=
    turn_of (run.position / 4294967295) (by omega) (by omega) (by omega)
  have right : turn u32Max (run.position / 4294967295 * 4294967295 + run.asked) = run.asked :=
    turn_of _ rfl (by omega) (by omega)
  have later := tracked.le_origin positive (by omega) (by omega) right
  have most := tracked.origin_le positive
  have inside : (run.asked - 1) % N < N := Nat.mod_lt _ positive
  have same : run.origin run.asked = run.position / 4294967295 * 4294967295 + run.asked := by
    rcases (tracked.slots _ inside).content with ⟨empty, -⟩ | ⟨-, slot, -⟩
    · rw [origin_eq run inside, empty] at later
      omega
    · rw [← origin_eq run inside] at slot
      have place : turn u32Max (run.origin run.asked) =
          run.origin run.asked - run.position / 4294967295 * 4294967295 :=
        turn_of (run.position / 4294967295) (by omega) (by omega) (by omega)
      rw [place] at slot
      have equal := eq_of_slot_eq (by omega) (by omega) slot.symm
      omega
  exact ⟨same, same ▸ right⟩

/-- **When a read is right.** A read while something is pending is given a sample of the
round of the reader, and counts what it leaves out, exactly if it is ready. -/
theorem Tracked.ready_iff (pending : run.position < run.pushed.length) :
    run.Ready ↔ (∃ sample, run.ring.nextAfter run.last = some sample) ∧
      run.origin run.asked ≤ run.roundEnd ∧
      run.drops + (run.asked - (run.position % 4294967295 + 1)) ≤ u32Max := by
  have wanted := tracked.asked_eq positive
  have within := turn_le run.pushed.length
  have greatest : u32Max = 4294967295 := rfl
  have ended : run.roundEnd = run.position / 4294967295 * 4294967295 + 4294967295 := rfl
  have fits := tracked.fits
  constructor
  · rintro (nothing | ⟨round, few, room⟩ | ⟨round, few, there⟩)
    · omega
    · obtain ⟨origin, right⟩ := tracked.origin_of_round positive pending round
      have newest : turn u32Max run.pushed.length =
          run.pushed.length - run.position / 4294967295 * 4294967295 :=
        turn_of (run.position / 4294967295) (by omega) (by omega) (by omega)
      have different : turn u32Max run.position ≠ turn u32Max run.pushed.length := by
        rcases turn_spec run.position with ⟨zero, number⟩ | ⟨-, others, before, _, _⟩
        · omega
        · omega
      have most := tracked.origin_le positive
      have inside : run.origin run.asked - 1 < run.pushed.length := by omega
      refine ⟨⟨run.pushed[run.origin run.asked - 1], (tracked.nextAfter_eq_some_iff positive
        pending).mpr ⟨different, by omega, right, List.getElem?_eq_getElem inside⟩⟩, ?_, ?_⟩
      · omega
      · omega
    · have next : turn u32Max (run.position + 1) = run.position % 4294967295 + 1 :=
        turn_of (run.position / 4294967295) (by omega) (by omega) (by omega)
      have newest : turn u32Max run.pushed.length = run.pushed.length - run.roundEnd :=
        turn_of (run.position / 4294967295 + 1) (by omega) (by omega) (by omega)
      have asked : run.asked = run.position % 4294967295 + 1 := by omega
      have different : turn u32Max run.position ≠ turn u32Max run.pushed.length := by
        rcases turn_spec run.position with ⟨zero, number⟩ | ⟨-, others, before, _, _⟩
        · omega
        · omega
      rw [next, ← asked] at there
      have right : turn u32Max (run.origin run.asked) = run.asked := by
        rw [there, next, asked]
      refine ⟨⟨run.pushed[run.position], (tracked.nextAfter_eq_some_iff positive pending).mpr
        ⟨different, by omega, right, ?_⟩⟩, by omega, by omega⟩
      rw [there, Nat.add_sub_cancel, List.getElem?_eq_getElem pending]
  · rintro ⟨⟨sample, given⟩, round, room⟩
    obtain ⟨different, some_, right, -⟩ :=
      (tracked.nextAfter_eq_some_iff positive pending).mp given
    have behind := tracked.lt_origin positive pending
    by_cases same : run.pushed.length ≤ run.roundEnd
    · have newest : turn u32Max run.pushed.length =
          run.pushed.length - run.position / 4294967295 * 4294967295 :=
        turn_of (run.position / 4294967295) (by omega) (by omega) (by omega)
      refine .inr (.inl ⟨same, ?_, ?_⟩)
      · rcases turn_spec run.position with ⟨zero, -⟩ | ⟨-, others, before, _, _⟩
        · exact .inr zero
        · omega
      · omega
    · -- A younger sample of the generation would stand in the slot, if there were one.
      obtain ⟨rounds, split, _, _⟩ := ((turn_spec run.pushed.length).resolve_left (by omega)).2
      have newer : ∀ number, run.roundEnd < number → number ≤ run.pushed.length →
          turn u32Max number ≠ run.asked := by
        intro number beyond most same
        have later := tracked.le_origin positive (by omega) most same
        omega
      have asked : run.asked = run.position % 4294967295 + 1 := by
        by_contra oldest
        exact newer (rounds * 4294967295 + run.asked) (by omega) (by omega)
          (turn_of _ rfl (by omega) (by omega))
      obtain ⟨others, place, _, _⟩ :=
        ((turn_spec (run.origin run.asked)).resolve_left (by omega)).2
      have next : run.origin run.asked = run.position + 1 := by omega
      have few : run.pushed.length < run.position + 4294967295 := by
        by_contra many
        rcases Nat.lt_or_ge (run.position + 4294967295) run.pushed.length with more | whole
        · refine newer (run.position + 1 + 4294967295) (by omega) (by omega) ?_
          exact turn_of (run.position / 4294967295 + 1) (by omega) (by omega) (by omega)
        · rcases turn_spec run.position with ⟨zero, -⟩ | ⟨-, before, earlier, _, _⟩
          · omega
          · omega
      refine .inr (.inr ⟨Nat.lt_of_not_le same, few, ?_⟩)
      rw [← next, right, next]

/-! ## A read -/

end

/-- Without anything pending a read changes nothing. -/
theorem Tracked.read_idle (idle : run.position = run.pushed.length) : run.read = run := by
  have nothing : run.ring.nextAfter run.last = none := by
    rw [AmpTouchRing.nextAfter, dif_pos]
    exact .inr (.inr (by rw [tracked.last, tracked.newest, idle]))
  have still : decide (run.position < run.pushed.length) = false :=
    decide_eq_false (by omega)
  rw [read, AmpTouchRing.readAfter, nothing]
  simp only [still, Bool.or_false]

omit tracked in
theorem read_missed (pending : run.position < run.pushed.length)
    (nothing : run.ring.nextAfter run.last = none) : run.read = { run with missed := true } := by
  rw [read, AmpTouchRing.readAfter, nothing]
  simp [pending]

variable (positive : 0 < N)
include positive

theorem Tracked.read_given (pending : run.position < run.pushed.length)
    (given : run.ring.nextAfter run.last = some sample) :
    run.read = { run with
      last := run.asked
      drops := min (run.drops + (run.asked - (run.position % 4294967295 + 1))) u32Max
      returned := run.returned ++ [(run.origin run.asked, sample)] } := by
  obtain ⟨-, some_, right, found⟩ := (tracked.nextAfter_eq_some_iff positive pending).mp given
  have generation : sample.generation = run.asked := by
    have number := tracked.numbered _ _ found
    rwa [Nat.sub_add_cancel some_, right] at number
  have wanted := tracked.asked_eq positive
  have most := turn_le (run.origin run.asked)
  have next : max (wrappingAdd run.last 1) 1 = run.position % 4294967295 + 1 := by
    rw [tracked.last, wrappingAdd]
    rcases turn_spec run.position with ⟨zero, number⟩ | ⟨-, rounds, split, _, _⟩
    · rw [number, zero]
      rfl
    · omega
  have skipped : wrappingSub run.asked (run.position % 4294967295 + 1) =
      run.asked - (run.position % 4294967295 + 1) := by
    rw [wrappingSub]
    omega
  rw [read, AmpTouchRing.readAfter, given]
  simp only [generation, next, skipped, saturatingAdd]

/-- What is given is appended with the push it comes from. -/
theorem Tracked.give (pending : run.position < run.pushed.length)
    (given : run.ring.nextAfter run.last = some sample) :
    run.read.Tracked ∧ run.read.position = run.origin run.asked := by
  obtain ⟨-, some_, right, found⟩ := (tracked.nextAfter_eq_some_iff positive pending).mp given
  have behind := tracked.lt_origin positive pending
  have skipped := (tracked.skipped_le positive pending right).1
  have balance := tracked.balance
  rw [tracked.read_given positive pending given]
  have moved : position { run with
      last := run.asked
      drops := min (run.drops + (run.asked - (run.position % 4294967295 + 1))) u32Max
      returned := run.returned ++ [(run.origin run.asked, sample)] } = run.origin run.asked := by
    simp [position]
  refine ⟨⟨tracked.newest, ?_, ?_, tracked.numbered, ?_, ?_, ?_, ?_, ?_⟩, moved⟩
  · rw [moved, right]
  · rw [moved]
    exact tracked.origin_le positive
  · intro slot inside
    obtain ⟨upTo, newest, content⟩ := tracked.slots slot inside
    exact ⟨upTo, newest, content⟩
  · rw [List.map_append, List.pairwise_append]
    refine ⟨tracked.inOrder, List.pairwise_singleton _ _, ?_⟩
    intro number member last lastMember
    obtain ⟨entry, before, rfl⟩ := List.mem_map.mp member
    rw [List.map_singleton, List.mem_singleton] at lastMember
    rw [lastMember]
    exact Nat.lt_of_le_of_lt (tracked.asPushed entry before).2.1 behind
  · intro entry member
    rw [moved]
    rcases List.mem_append.mp member with before | last
    · obtain ⟨started, most, there⟩ := tracked.asPushed entry before
      exact ⟨started, by omega, there⟩
    · rw [List.mem_singleton] at last
      subst last
      exact ⟨some_, Nat.le_refl _, found⟩
  · rw [moved]
    simp only [List.length_append, List.length_singleton]
    omega
  · exact Nat.min_le_right _ _

theorem Tracked.read : run.read.Tracked := by
  rcases Nat.lt_or_ge run.position run.pushed.length with pending | idle
  · cases given : run.ring.nextAfter run.last with
    | some sample => exact (tracked.give positive pending given).1
    | none =>
        rw [read_missed pending given]
        obtain ⟨newest, last, upTo, numbered, slots, inOrder, asPushed, balance, fits⟩ := tracked
        refine ⟨newest, last, upTo, numbered, ?_, inOrder, asPushed, balance, fits⟩
        intro slot inside
        obtain ⟨upTo, newest, content⟩ := slots slot inside
        exact ⟨upTo, newest, content⟩
  · rw [tracked.read_idle (Nat.le_antisymm tracked.upTo idle)]
    exact tracked

/-- A read keeps the account exactly if it is ready. -/
theorem Tracked.delivers_read : run.read.Delivers ↔ run.Delivers ∧ run.Ready := by
  rcases Nat.lt_or_ge run.position run.pushed.length with pending | idle
  · rw [(tracked.read positive).delivers_iff, tracked.delivers_iff,
      tracked.ready_iff positive pending]
    cases given : run.ring.nextAfter run.last with
    | none =>
        rw [read_missed pending given]
        simp
    | some sample =>
        obtain ⟨-, -, right, -⟩ := (tracked.nextAfter_eq_some_iff positive pending).mp given
        obtain ⟨skipped, whole⟩ := tracked.skipped_le positive pending right
        have balance := tracked.balance
        rw [(tracked.give positive pending given).2, ← whole,
          tracked.read_given positive pending given]
        simp only [List.length_append, List.length_singleton, Option.some.injEq, exists_eq',
          true_and]
        constructor
        · rintro ⟨sum, answered⟩
          exact ⟨⟨by omega, answered⟩, by omega, by omega⟩
        · rintro ⟨⟨sum, answered⟩, counted, room⟩
          exact ⟨by omega, answered⟩
  · have same := Nat.le_antisymm tracked.upTo idle
    rw [tracked.read_idle same]
    exact ⟨fun delivers => ⟨delivers, .inl same⟩, fun both => both.1⟩

theorem Tracked.delivers_push (x y : Int16) (pressed : Bool) :
    (run.push x y pressed).Delivers ↔ run.Delivers := by
  rw [(tracked.push positive x y pressed).delivers_iff, tracked.delivers_iff]
  rfl

end

/-- What a move needs. -/
def MayMove (run : TouchRun N) : TouchMove → Prop
  | .push _ _ _ => True
  | .read => run.Ready

/-- **Delivery by the model.** A run delivers or counts every sample if and only if each
of its reads was ready. -/
theorem delivers_iff_ready (positive : 0 < N) {past : List (TouchRun N × TouchMove)}
    {run : TouchRun N} (ran : (system N).Run past run) :
    run.Delivers ↔ StepSystem.Guarded MayMove past := by
  refine ran.holds_iff_guarded (I := Tracked) ?_ ?_ ?_
  · intro run begun
    have same : run = start N := begun
    subst same
    have tracked := tracked_start N
    exact ⟨tracked, tracked.delivers_iff.mpr ⟨rfl, rfl⟩⟩
  · intro run move next tracked moved
    cases moved
    cases move with
    | push x y pressed => exact tracked.push positive x y pressed
    | read => exact tracked.read positive
  · intro run move next tracked moved
    cases moved
    cases move with
    | push x y pressed =>
        exact (tracked.delivers_push positive x y pressed).trans (and_iff_left trivial).symm
    | read => exact tracked.delivers_read positive

instance (run : TouchRun N) : Decidable run.Ready := by
  unfold Ready
  infer_instance

instance (run : TouchRun N) : (move : TouchMove) → Decidable (run.MayMove move)
  | .push _ _ _ => isTrue trivial
  | .read => inferInstanceAs (Decidable run.Ready)

/-- A ring of two overflows and is read until nothing is pending. -/
theorem delivers_overflow :
    ∃ past run, (system 2).Run past run ∧ run.Delivers ∧
      run.returned.map Prod.fst = [2, 3] ∧ run.drops = 1 := by
  let moves : List TouchMove :=
    [.push 10 20 true, .push 11 20 true, .push 12 20 false, .read, .read, .read]
  have along : (system 2).Along MayMove (start 2) moves := by decide
  obtain ⟨run, ran, seen⟩ : ∃ run, (system 2).execute (start 2) moves = some run ∧
      (run.returned.map Prod.fst, run.drops) = ([2, 3], 1) := ⟨_, rfl, by decide⟩
  obtain ⟨past, whole, guarded⟩ :=
    (StepSystem.Run.start rfl).exists_guarded_of_execute (by simp) moves along ran
  obtain ⟨returned, drops⟩ := Prod.mk.inj seen
  exact ⟨past, run, whole, (delivers_iff_ready (by decide) whole).mpr guarded, returned, drops⟩

/-! ## A reader that falls behind where the generations go round -/

theorem run_push (ran : (system N).Run past run) :
    (system N).Run (past ++ [(run, .push 0 0 false)]) (run.push 0 0 false) :=
  ran.step rfl

theorem run_read (ran : (system N).Run past run) :
    (system N).Run (past ++ [(run, .read)]) run.read :=
  ran.step rfl

/-- A reader that reads after every push is up to date. -/
theorem exists_upToDate (positive : 0 < N) (count : ℕ) :
    ∃ past run, (system N).Run past run ∧ run.Tracked ∧ run.pushed.length = count ∧
      run.position = count := by
  induction count with
  | zero => exact ⟨[], start N, .start rfl, tracked_start N, rfl, rfl⟩
  | succ count ih =>
      obtain ⟨past, run, ran, tracked, pushes, place⟩ := ih
      have pushed := tracked.push positive 0 0 false
      have more : (run.push 0 0 false).pushed.length = count + 1 := by
        simp [TouchRun.push, pushes]
      have still : (run.push 0 0 false).position = count := place
      have pending : (run.push 0 0 false).position < (run.push 0 0 false).pushed.length := by omega
      have greatest : u32Max = 4294967295 := rfl
      have round : (run.push 0 0 false).pushed.length ≤ (run.push 0 0 false).roundEnd := by
        rw [roundEnd, greatest]
        omega
      have fits := pushed.fits
      have ready : (run.push 0 0 false).Ready := .inr (.inl ⟨round, by omega, by omega⟩)
      obtain ⟨⟨sample, given⟩, -, -⟩ := (pushed.ready_iff positive pending).mp ready
      obtain ⟨after, moved⟩ := pushed.give positive pending given
      refine ⟨_, _, run_read (run_push ran), after, ?_, ?_⟩
      · rw [← more]
        exact congrArg (·.pushed.length) (pushed.read_given positive pending given)
      · have newest : turn u32Max (count + 1) = count % 4294967295 + 1 :=
          turn_of (count / 4294967295) (by omega) (by omega) (by omega)
        have asked := pushed.asked_eq positive
        rw [more, still, newest] at asked
        refine moved.trans ?_
        rw [(pushed.origin_of_round positive pending round).1, still]
        omega

/-- In a ring of two, the reader has got all samples up to the last generation but one.
Two pushes later the next sample is overwritten by the first of the new round, and the
reader is given nothing. -/
theorem read_behind_round :
    ¬ ∀ N, 0 < N → ∀ past (run : TouchRun N), (system N).Run past run → run.Delivers := by
  intro always
  obtain ⟨past, run, ran, tracked, pushes, place⟩ := exists_upToDate (N := 2) (by decide) 4294967294
  have first := tracked.push (by decide) 0 0 false
  have second := first.push (by decide) 0 0 false
  have more : ((run.push 0 0 false).push 0 0 false).pushed.length = 4294967296 := by
    simp [TouchRun.push, pushes]
  have still : ((run.push 0 0 false).push 0 0 false).position = 4294967294 := place
  have greatest : u32Max = 4294967295 := rfl
  have read := (second.delivers_read (by decide)).mp
    (always 2 (by decide) _ _ (run_read (run_push (run_push ran))))
  have slot : ((turn u32Max 4294967295) - 1) % 2 < 2 := by decide
  have overwritten := (second.slots _ slot).newest 4294967296 (by decide) (by omega) (by decide)
  rw [← origin_eq _ slot] at overwritten
  have after := read.2
  simp only [Ready, roundEnd, more, still, greatest, Nat.reduceAdd] at after
  rw [greatest] at overwritten
  omega

end TouchRun

end Deskkin.Amp
