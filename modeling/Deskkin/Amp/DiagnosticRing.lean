/-
# The ring of diagnostic events

The supervisor records events in a ring, and a subscriber asks for the event behind the
one it was given last. Recording and reading lock out interrupts, so they do not overlap.
A subscriber that was overtaken gets the oldest event that the ring still has, with the
number of those it missed.

While the sequence does not go round, what is given and what is missed add up to the
sequence that was given last.
-/

import Deskkin.Device.DiagnosticWatch
import Deskkin.Lib.RoundCounter
import Deskkin.Lib.Runs

namespace Deskkin.Amp

open Device Placement RoundCounter

/-! ## The ring -/

def diagnosticEventCapacity : ℕ := 64

/-- An event as it is kept. -/
structure RecordedEvent where
  sequence : UInt32
  uptimeMs : UInt32
  x : Int16
  y : Int16
  value : UInt32
  kind : UInt8
  flags : UInt8
  deriving DecidableEq

/-- The event as it is given away, with the number of those that were lost before it. -/
def RecordedEvent.given (event : RecordedEvent) (droppedBefore : UInt32) : DiagnosticEvent where
  sequence := event.sequence
  uptimeMs := event.uptimeMs
  x := event.x
  y := event.y
  value := event.value
  kind := event.kind
  flags := event.flags
  droppedBefore := droppedBefore

structure DiagnosticRing where
  sequence : UInt32
  events : Vector RecordedEvent diagnosticEventCapacity
  deriving DecidableEq

namespace DiagnosticRing

/-- Memory that was never written. -/
def boot : DiagnosticRing := ⟨0, .replicate _ ⟨0, 0, 0, 0, 0, 0, 0⟩⟩

def nextSequence (ring : DiagnosticRing) : UInt32 :=
  if ring.sequence + 1 = 0 then 1 else ring.sequence + 1

/-- The slot of a sequence. -/
def slot (sequence : UInt32) : ℕ := (sequence - 1).toNat % diagnosticEventCapacity

theorem slot_lt (sequence : UInt32) : slot sequence < diagnosticEventCapacity :=
  Nat.mod_lt _ (by decide)

def record (ring : DiagnosticRing) (kind flags : UInt8) (x y : Int16) (value uptimeMs : UInt32) :
    DiagnosticRing where
  sequence := ring.nextSequence
  events := ring.events.set (slot ring.nextSequence)
    ⟨ring.nextSequence, uptimeMs, x, y, value, kind, flags⟩ (slot_lt _)

/-- `-EINVAL` -/
inductive DiagnosticReadError
  | einval
  deriving DecidableEq

/-- What is written to an output of this capacity is `diagnosticRead` of the event; nothing
is written where there is none, and a missing output has no capacity. -/
def read (ring : DiagnosticRing) (afterSequence : UInt32) (capacity : Option ℕ) :
    Except DiagnosticReadError (Option DiagnosticEvent) :=
  if capacity.all fun bytes => bytes < diagnosticEventSize then .error .einval
  else
    let newest := ring.sequence
    if newest = 0 ∨ afterSequence = newest then .ok none
    else
      let oldest := if newest ≥ 64 then newest - 64 + 1 else 1
      let wanted := if afterSequence + 1 < oldest then oldest else afterSequence + 1
      .ok (some ((ring.events.get ⟨slot wanted, slot_lt _⟩).given (wanted - (afterSequence + 1))))

variable {ring : DiagnosticRing}

theorem toNat_nextSequence (few : ring.sequence.toNat + 1 < 2 ^ 32) :
    ring.nextSequence.toNat = ring.sequence.toNat + 1 := by
  have sum : (ring.sequence + 1).toNat = ring.sequence.toNat + 1 := by
    rw [UInt32.toNat_add]
    exact Nat.mod_eq_of_lt few
  rw [nextSequence, if_neg, sum]
  intro zero
  rw [zero] at sum
  cases sum

variable {capacity : ℕ} (room : diagnosticEventSize ≤ capacity)
include room

/-- The event that a reader is given is the next one, or the oldest of the last 64. -/
theorem read_eq {afterSequence : UInt32} (behind : afterSequence.toNat < ring.sequence.toNat) :
    ∃ wanted : UInt32, wanted.toNat = max (afterSequence.toNat + 1) (ring.sequence.toNat - 63) ∧
      ring.read afterSequence (some capacity) = .ok (some
        ((ring.events.get ⟨slot wanted, slot_lt _⟩).given (wanted - (afterSequence + 1)))) := by
  have newest := ring.sequence.toNat_lt
  have next : (afterSequence + 1).toNat = afterSequence.toNat + 1 := by
    rw [UInt32.toNat_add]
    exact Nat.mod_eq_of_lt (show afterSequence.toNat + 1 < 2 ^ 32 by omega)
  have pending : ¬(ring.sequence = 0 ∨ afterSequence = ring.sequence) := by
    rintro (zero | same)
    · rw [zero] at behind
      exact Nat.not_lt_zero _ behind
    · rw [same] at behind
      exact Nat.lt_irrefl _ behind
  have oldest : (if ring.sequence ≥ 64 then ring.sequence - 64 + 1 else 1).toNat =
      max 1 (ring.sequence.toNat - 63) := by
    split
    · rename_i full
      have enough : 64 ≤ ring.sequence.toNat := UInt32.le_iff_toNat_le.mp full
      have left : (ring.sequence - 64).toNat = ring.sequence.toNat - 64 :=
        UInt32.toNat_sub_of_le _ _ full
      have sum : (ring.sequence - 64 + 1).toNat = ring.sequence.toNat - 64 + 1 := by
        rw [UInt32.toNat_add, left]
        exact Nat.mod_eq_of_lt (show ring.sequence.toNat - 64 + 1 < 2 ^ 32 by omega)
      omega
    · rename_i few
      have short : ring.sequence.toNat < 64 := by
        rw [ge_iff_le, UInt32.le_iff_toNat_le, Nat.not_le] at few
        exact few
      show 1 = _
      omega
  have given : ¬ ((some capacity).all fun bytes => bytes < diagnosticEventSize) = true := by
    simpa using room
  rw [read, if_neg given]
  dsimp only
  rw [if_neg pending]
  generalize (if ring.sequence ≥ 64 then ring.sequence - 64 + 1 else 1) = old at oldest ⊢
  refine ⟨_, ?_, rfl⟩
  split
  · rename_i overtaken
    rw [UInt32.lt_iff_toNat_lt] at overtaken
    omega
  · rename_i kept
    rw [UInt32.lt_iff_toNat_lt] at kept
    omega

theorem read_nothing {afterSequence : UInt32} (upTo : afterSequence.toNat = ring.sequence.toNat) :
    ring.read afterSequence (some capacity) = .ok none := by
  have given : ¬ ((some capacity).all fun bytes => bytes < diagnosticEventSize) = true := by
    simpa using room
  rw [read, if_neg given, if_pos (Or.inr (UInt32.toNat_inj.mp upTo))]

end DiagnosticRing

/-! ## Runs -/

/-- The ring with its subscriber: the events that were recorded, oldest first, the sequence
that the subscriber received last, and the events that it received. -/
structure Subscription where
  ring : DiagnosticRing
  recorded : List RecordedEvent
  cursor : UInt32
  received : List DiagnosticEvent
  deriving DecidableEq

inductive SubscriptionMove
  | record (kind flags : UInt8) (x y : Int16) (value uptimeMs : UInt32)
  | read
  deriving DecidableEq

/-- The room of a completion. -/
def completionFrameMax : ℕ := 236

namespace Subscription

def start : Subscription := ⟨.boot, [], 0, []⟩

def record (run : Subscription) (kind flags : UInt8) (x y : Int16) (value uptimeMs : UInt32) :
    Subscription :=
  let ring := run.ring.record kind flags x y value uptimeMs
  { run with
    ring := ring
    recorded := run.recorded ++ [⟨ring.sequence, uptimeMs, x, y, value, kind, flags⟩] }

/-- The next cursor is taken from the bytes of the event. -/
def read (run : Subscription) : Subscription :=
  match run.ring.read run.cursor (some completionFrameMax) with
  | .ok (some event) =>
      { run with
        cursor := UInt32.ofNat (unsigned (diagnosticRead event) 4 8)
        received := run.received ++ [event] }
  | _ => run

def move (run : Subscription) : SubscriptionMove → Subscription
  | .record kind flags x y value uptimeMs => run.record kind flags x y value uptimeMs
  | .read => run.read

/-- Events and reads in any order. -/
def system : StepSystem Subscription SubscriptionMove where
  Initial run := run = start
  step run move := some (run.move move)

/-! ## What a subscriber gets -/

/-- The sequence that was given last. -/
def lastSequence (events : List DiagnosticEvent) : ℕ :=
  (events.getLast?.map fun event => event.sequence.toNat).getD 0

@[simp]
theorem lastSequence_concat (events : List DiagnosticEvent) (event : DiagnosticEvent) :
    lastSequence (events ++ [event]) = event.sequence.toNat := by
  rw [lastSequence, List.getLast?_concat]
  rfl

/-- Events are received in order, with their own fields, and each with the number of those
between it and the one before. Together they make up all events up to the last received
one. -/
structure Received (run : Subscription) : Prop where
  numbered : ∀ index event, run.recorded[index]? = some event → event.sequence.toNat = index + 1
  inOrder : (run.received.map fun event => event.sequence.toNat).Pairwise (· < ·)
  asRecorded : ∀ event ∈ run.received, 0 < event.sequence.toNat ∧
    ∃ original, run.recorded[event.sequence.toNat - 1]? = some original ∧
      event = original.given event.droppedBefore
  between : ∀ index event, run.received[index]? = some event →
    lastSequence (run.received.take index) + event.droppedBefore.toNat + 1 = event.sequence.toNat
  balance : run.received.length + (run.received.map fun event => event.droppedBefore.toNat).sum =
    lastSequence run.received

/-- Nothing is received only where no newer event was recorded. -/
structure Accounted (run : Subscription) : Prop extends Received run where
  answered : run.ring.read run.cursor (some completionFrameMax) = .ok none ↔
    lastSequence run.received = run.recorded.length

/-- The ring holds the last 64 events. -/
structure Tracked (run : Subscription) : Prop extends Received run where
  newest : run.ring.sequence.toNat = run.recorded.length
  held : ∀ index event, run.recorded[index]? = some event → run.recorded.length ≤ index + 64 →
    run.ring.events[index % 64]? = some event
  cursor : run.cursor.toNat = lastSequence run.received
  upTo : lastSequence run.received ≤ run.recorded.length
  seen : ∀ event ∈ run.received, event.sequence.toNat ≤ lastSequence run.received

theorem tracked_start : start.Tracked where
  newest := rfl
  numbered := by
    intro index event found
    cases found
  held := by
    intro index event found
    cases found
  cursor := rfl
  upTo := Nat.le_refl 0
  seen := by
    intro event member
    cases member
  inOrder := List.Pairwise.nil
  asRecorded := by
    intro event member
    cases member
  between := by
    intro index event found
    cases found
  balance := rfl

variable {run : Subscription}

section

variable (tracked : run.Tracked)
include tracked

theorem Tracked.record (few : run.recorded.length + 1 < 2 ^ 32) (kind flags : UInt8) (x y : Int16)
    (value uptimeMs : UInt32) : (run.record kind flags x y value uptimeMs).Tracked := by
  have newest := tracked.newest
  have next : run.ring.nextSequence.toNat = run.recorded.length + 1 := by
    rw [DiagnosticRing.toNat_nextSequence (by omega), newest]
  have slot : DiagnosticRing.slot run.ring.nextSequence = run.recorded.length % 64 := by
    have one : (1 : UInt32) ≤ run.ring.nextSequence := by
      rw [UInt32.le_iff_toNat_le, next]
      exact Nat.succ_le_of_lt (Nat.succ_pos _)
    rw [DiagnosticRing.slot, UInt32.toNat_sub_of_le _ _ one, next]
    rfl
  generalize added : (⟨run.ring.nextSequence, uptimeMs, x, y, value, kind, flags⟩ :
    RecordedEvent) = event
  have recorded :
      (run.record kind flags x y value uptimeMs).recorded = run.recorded ++ [event] := by
    rw [← added]
    rfl
  have places : ∀ index old, (run.recorded ++ [event])[index]? = some old →
      index < run.recorded.length ∧ run.recorded[index]? = some old ∨
        index = run.recorded.length ∧ old = event := by
    intro index old found
    rw [List.getElem?_append] at found
    split at found
    · rename_i inside
      exact Or.inl ⟨inside, found⟩
    · rename_i beyond
      obtain ⟨here, same⟩ := List.getElem?_eq_some_iff.mp found
      rw [List.length_singleton] at here
      exact Or.inr ⟨by omega, by rw [← same]; simp⟩
  refine ⟨⟨?_, tracked.inOrder, ?_, tracked.between, tracked.balance⟩, ?_, ?_, tracked.cursor, ?_,
    tracked.seen⟩
  · intro index old found
    rw [recorded] at found
    rcases places index old found with ⟨-, before⟩ | ⟨rfl, rfl⟩
    · exact tracked.numbered index old before
    · rw [← added]
      exact next
  · intro old member
    obtain ⟨positive, original, found, same⟩ := tracked.asRecorded old member
    refine ⟨positive, original, ?_, same⟩
    rw [recorded, List.getElem?_append_left (List.getElem?_eq_some_iff.mp found).1, found]
  · rw [recorded, List.length_append]
    exact next
  · intro index old found near
    rw [recorded] at found near
    rw [List.length_append, List.length_singleton] at near
    simp only [Subscription.record, DiagnosticRing.record, added]
    rw [Vector.getElem?_set]
    rcases places index old found with ⟨inside, before⟩ | ⟨rfl, rfl⟩
    · rw [if_neg, tracked.held index old before (by omega)]
      intro same
      rw [slot] at same
      exact Nat.ne_of_lt inside (eq_of_slot_eq (Nat.le_of_lt inside) (by omega) same.symm)
    · rw [if_pos slot]
  · rw [recorded, List.length_append]
    exact Nat.le_succ_of_le tracked.upTo

/-- What a read gives when something is pending. -/
theorem Tracked.read_pending (pending : lastSequence run.received < run.recorded.length) :
    ∃ original dropped, run.ring.read run.cursor (some completionFrameMax) =
        .ok (some (original.given dropped)) ∧
      run.recorded[original.sequence.toNat - 1]? = some original ∧
      lastSequence run.received + dropped.toNat + 1 = original.sequence.toNat := by
  have newest := tracked.newest
  have cursor := tracked.cursor
  obtain ⟨wanted, place, given⟩ := @DiagnosticRing.read_eq run.ring completionFrameMax
    (by decide) run.cursor (by omega)
  have small := wanted.toNat_lt
  have inside : wanted.toNat - 1 < run.recorded.length := by omega
  have found : run.recorded[wanted.toNat - 1]? = some run.recorded[wanted.toNat - 1] :=
    List.getElem?_eq_getElem inside
  generalize run.recorded[wanted.toNat - 1] = original at found
  have number := tracked.numbered _ _ found
  have one : (1 : UInt32) ≤ wanted := by
    rw [UInt32.le_iff_toNat_le]
    show 1 ≤ wanted.toNat
    omega
  have slot : DiagnosticRing.slot wanted = (wanted.toNat - 1) % 64 := by
    rw [DiagnosticRing.slot, UInt32.toNat_sub_of_le _ _ one]
    rfl
  have held := tracked.held _ _ found (by omega)
  rw [← slot, Vector.getElem?_eq_getElem (DiagnosticRing.slot_lt wanted), Option.some.injEq] at held
  have same : run.ring.events.get ⟨DiagnosticRing.slot wanted, DiagnosticRing.slot_lt wanted⟩ =
      original := held
  rw [same] at given
  have next : (run.cursor + 1).toNat = run.cursor.toNat + 1 := by
    rw [UInt32.toNat_add]
    exact Nat.mod_eq_of_lt (show run.cursor.toNat + 1 < 2 ^ 32 by omega)
  have order : run.cursor + 1 ≤ wanted := by
    rw [UInt32.le_iff_toNat_le]
    omega
  refine ⟨original, wanted - (run.cursor + 1), given, ?_, ?_⟩
  · rw [show original.sequence.toNat - 1 = wanted.toNat - 1 by omega]
    exact found
  · rw [UInt32.toNat_sub_of_le _ _ order]
    omega

theorem Tracked.read_nothing (upTo : lastSequence run.received = run.recorded.length) :
    run.ring.read run.cursor (some completionFrameMax) = .ok none :=
  DiagnosticRing.read_nothing (by decide) (by rw [tracked.cursor, tracked.newest, upTo])

theorem Tracked.read : run.read.Tracked := by
  rcases Nat.eq_or_lt_of_le tracked.upTo with upTo | pending
  · rw [Subscription.read, tracked.read_nothing upTo]
    exact tracked
  · obtain ⟨original, dropped, given, found, gap⟩ := tracked.read_pending pending
    have place := (List.getElem?_eq_some_iff.mp found).1
    have cursor : UInt32.ofNat (unsigned (diagnosticRead (original.given dropped)) 4 8) =
        original.sequence := by
      rw [word_event 4 rfl rfl]
      exact UInt32.ofNat_toNat
    have sequence : (original.given dropped).sequence = original.sequence := rfl
    have shown : run.read = ⟨run.ring, run.recorded, original.sequence,
        run.received ++ [original.given dropped]⟩ := by
      rw [Subscription.read, given]
      simp only [cursor]
    rw [shown]
    refine ⟨⟨tracked.numbered, ?_, ?_, ?_, ?_⟩, tracked.newest, tracked.held, ?_, ?_, ?_⟩
    · rw [List.map_append, List.pairwise_append]
      refine ⟨tracked.inOrder, List.pairwise_singleton _ _, fun earlier member later last => ?_⟩
      obtain ⟨event, old, rfl⟩ := List.mem_map.mp member
      rw [List.map_singleton, List.mem_singleton] at last
      have before := tracked.seen event old
      rw [last, sequence]
      omega
    · intro event member
      rcases List.mem_append.mp member with old | new
      · exact tracked.asRecorded event old
      · rw [List.mem_singleton.mp new]
        exact ⟨by rw [sequence]; omega, original, found, rfl⟩
    · intro index event there
      rw [List.getElem?_append] at there
      split at there
      · rename_i inside
        rw [List.take_append_of_le_length (Nat.le_of_lt inside)]
        exact tracked.between index event there
      · rename_i beyond
        obtain ⟨here, same⟩ := List.getElem?_eq_some_iff.mp there
        rw [List.length_singleton] at here
        have last : index = run.received.length := by omega
        rw [last, List.take_left', ← same]
        · simp only [List.getElem_singleton]
          exact gap
        · rfl
    · have balance := tracked.balance
      rw [lastSequence_concat, List.length_append, List.map_append, List.sum_append, sequence]
      simp only [List.length_singleton, List.map_singleton, List.sum_singleton,
        RecordedEvent.given]
      omega
    · rw [lastSequence_concat, sequence]
    · rw [lastSequence_concat, sequence]
      show original.sequence.toNat ≤ run.recorded.length
      omega
    · intro event member
      rw [lastSequence_concat, sequence]
      rcases List.mem_append.mp member with old | new
      · have before := tracked.seen event old
        omega
      · rw [List.mem_singleton.mp new]
        exact Nat.le_refl _

theorem Tracked.accounted : run.Accounted where
  toReceived := tracked.toReceived
  answered := by
    refine ⟨fun nothing => ?_, tracked.read_nothing⟩
    rcases Nat.eq_or_lt_of_le tracked.upTo with upTo | pending
    · exact upTo
    · obtain ⟨original, dropped, given, -⟩ := tracked.read_pending pending
      rw [given] at nothing
      cases nothing

end

theorem length_recorded_move (run : Subscription) (move : SubscriptionMove) :
    run.recorded.length ≤ (run.move move).recorded.length := by
  cases move with
  | record kind flags x y value uptimeMs =>
      show _ ≤ (run.recorded ++ [_]).length
      rw [List.length_append]
      exact Nat.le_add_right _ _
  | read =>
      show _ ≤ run.read.recorded.length
      rw [Subscription.read]
      split <;> exact Nat.le_refl _

/-- **Every diagnostic event is received or counted.** In every run of fewer than 2³² events
and any reads, the subscriber gets events in order, with their own fields and the number of
those between, and what it got and what it missed add up to the sequence it got last. A read
gives nothing only when nothing newer was recorded. -/
theorem diagnostic_events_accounted {past : List (Subscription × SubscriptionMove)}
    {run : Subscription} (ran : system.Run past run) (few : run.recorded.length < 2 ^ 32) :
    run.Accounted := by
  suffices kept : run.recorded.length < 2 ^ 32 → run.Tracked from (kept few).accounted
  clear few
  induction ran with
  | start begun =>
      intro _
      have same : _ = start := begun
      rw [same]
      exact tracked_start
  | @step past before after move earlier moved ih =>
      cases moved
      intro few
      have grown := length_recorded_move before move
      have tracked := ih (by omega)
      cases move with
      | record kind flags x y value uptimeMs =>
          apply tracked.record
          have length : (before.move (.record kind flags x y value uptimeMs)).recorded.length =
              before.recorded.length + 1 := List.length_append
          omega
      | read => exact tracked.read

/-- The ring overflows by one event before the first read. -/
theorem diagnostic_events_accounted_overflow : ∃ past run, system.Run past run ∧ run.Accounted ∧
    (run.received.map fun event => (event.sequence, event.droppedBefore)) = [(2, 1), (3, 0)] := by
  let moves : List SubscriptionMove :=
    List.replicate 65 (.record 4 1 10 20 7 1000) ++ [.read, .read]
  obtain ⟨run, replayed, seen⟩ : ∃ run, system.execute start moves = some run ∧
      (run.recorded.length, run.received.map fun event => (event.sequence, event.droppedBefore)) =
        (65, [(2, 1), (3, 0)]) := ⟨_, rfl, by decide +kernel⟩
  obtain ⟨past, ran, -⟩ := (StepSystem.Run.start rfl).exists_of_execute moves replayed
  obtain ⟨recorded, received⟩ := Prod.mk.inj seen
  exact ⟨past, run, ran, diagnostic_events_accounted ran (by rw [recorded]; decide), received⟩

end Subscription

end Deskkin.Amp
