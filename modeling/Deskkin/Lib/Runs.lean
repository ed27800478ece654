/-
# Runs of labelled step systems

Every component of this development is a state with a partial step function:
a label names what happens next and `none` says that it cannot happen here.
This module gives such a system its runs, the states a run reaches, and the
two induction principles the components use. The first carries an invariant
along the runs whose steps all satisfy a guard. The second says when a guard is
exact: if only guarded steps lead from the invariant to a good state, then a run
visits good states only precisely when all of its steps satisfied the guard.

Nothing here depends on what the states and the labels are.
-/

import Mathlib.Logic.Function.Basic

universe u v

/-- A start condition and a partial step function. The step function is data,
so a concrete run can be replayed by evaluation. -/
structure StepSystem (σ : Type u) (α : Type v) where
  Initial : σ → Prop
  step : σ → α → Option σ

namespace StepSystem

variable {σ : Type u} {α : Type v} (T : StepSystem σ α)

/-- `T.Run past s`: some run from an initial state ends in `s`. The history
`past` holds, oldest first, each state the run left with the label it left by. -/
inductive Run : List (σ × α) → σ → Prop
  | start {s : σ} (initial : T.Initial s) : Run [] s
  | step {past : List (σ × α)} {s t : σ} {a : α} (earlier : Run past s)
      (moved : T.step s a = some t) : Run (past ++ [(s, a)]) t

/-- The states that some run ends in. -/
def Reachable (s : σ) : Prop := ∃ past, T.Run past s

/-- Every step of a history satisfied `guard` in the state it was taken from. -/
def Guarded (guard : σ → α → Prop) (past : List (σ × α)) : Prop :=
  ∀ entry ∈ past, guard entry.1 entry.2

/-- Every state a run passes through, its last one included, satisfies `P`. -/
def Throughout (P : σ → Prop) (past : List (σ × α)) (last : σ) : Prop :=
  (∀ entry ∈ past, P entry.1) ∧ P last

/-- Replay a list of labels from a state. -/
def execute (s : σ) : List α → Option σ
  | [] => some s
  | a :: rest => (T.step s a).bind fun t => execute t rest

/-- Every step of a replay satisfies `guard`. -/
def Along (guard : σ → α → Prop) : σ → List α → Prop
  | _, [] => True
  | s, a :: rest => guard s a ∧ ∀ t, T.step s a = some t → Along guard t rest

instance decidableAlong (guard : σ → α → Prop) [∀ s a, Decidable (guard s a)] :
    ∀ (labels : List α) (s : σ), Decidable (T.Along guard s labels)
  | [], _ => isTrue trivial
  | a :: rest, s =>
      match moved : T.step s a with
      | none => decidable_of_iff (guard s a) (by simp [Along, moved])
      | some t =>
          have := decidableAlong guard rest t
          decidable_of_iff (guard s a ∧ T.Along guard t rest) (by simp [Along, moved])

variable {T}

variable {guard : σ → α → Prop} {past : List (σ × α)} {s : σ} {I P : σ → Prop}

/-- A guard that no label of a list can break holds along every replay of the list. -/
theorem along_of_forall {labels : List α} (always : ∀ a ∈ labels, ∀ s, guard s a) (s : σ) :
    T.Along guard s labels := by
  induction labels generalizing s with
  | nil => exact trivial
  | cons a rest ih =>
      refine ⟨always a List.mem_cons_self s, fun t _ => ih (fun b member => ?_) t⟩
      exact always b (List.mem_cons_of_mem _ member)

@[simp]
theorem guarded_nil (guard : σ → α → Prop) : Guarded guard [] := by
  simp [Guarded]

@[simp]
theorem guarded_concat (guard : σ → α → Prop) (past : List (σ × α)) (s : σ) (a : α) :
    Guarded guard (past ++ [(s, a)]) ↔ Guarded guard past ∧ guard s a := by
  constructor
  · intro h
    exact ⟨fun entry member => h entry (List.mem_append_left _ member),
      h (s, a) (List.mem_append_right _ (List.mem_singleton_self _))⟩
  · rintro ⟨before, last⟩ entry member
    rcases List.mem_append.mp member with member | member
    · exact before entry member
    · rw [List.mem_singleton] at member
      subst member
      exact last

/-- The visited states of an extended run are those of the run it extends and
the new last state. -/
theorem throughout_concat (P : σ → Prop) (past : List (σ × α)) (s t : σ) (a : α) :
    Throughout P (past ++ [(s, a)]) t ↔ Throughout P past s ∧ P t := by
  constructor
  · rintro ⟨visited, last⟩
    refine ⟨⟨fun entry member => visited entry (List.mem_append_left _ member), ?_⟩, last⟩
    exact visited (s, a) (List.mem_append_right _ (List.mem_singleton_self _))
  · rintro ⟨⟨visited, here⟩, last⟩
    refine ⟨fun entry member => ?_, last⟩
    rcases List.mem_append.mp member with member | member
    · exact visited entry member
    · rw [List.mem_singleton] at member
      subst member
      exact here

/-- **Invariants of guarded runs.** What holds initially and survives every
guarded step holds wherever a run of guarded steps ends. -/
theorem Run.invariant_of_guarded (guard : σ → α → Prop) {P : σ → Prop}
    (initial : ∀ s, T.Initial s → P s)
    (preserved : ∀ s a t, P s → guard s a → T.step s a = some t → P t) (run : T.Run past s)
    (guarded : Guarded guard past) : P s := by
  induction run with
  | start start => exact initial _ start
  | step earlier moved ih =>
      obtain ⟨before, allowed⟩ := (guarded_concat guard _ _ _).mp guarded
      exact preserved _ _ _ (ih before) allowed moved

theorem Reachable.next {s t : σ} {a : α} (reachable : T.Reachable s)
    (moved : T.step s a = some t) : T.Reachable t := by
  obtain ⟨past, run⟩ := reachable
  exact ⟨past ++ [(s, a)], run.step moved⟩

/-- An invariant that every step keeps holds in every reachable state. -/
theorem Reachable.invariant {P : σ → Prop} (initial : ∀ s, T.Initial s → P s)
    (preserved : ∀ s a t, P s → T.step s a = some t → P t) (reachable : T.Reachable s) : P s := by
  obtain ⟨past, run⟩ := reachable
  exact run.invariant_of_guarded (fun _ _ => True) initial
    (fun s a t holds _ moved => preserved s a t holds moved) (fun _ _ => trivial)

/-- **Guarded runs.** An invariant of the guarded steps that implies `P` makes a
run of guarded steps visit `P` states only. -/
theorem Run.throughout_of_guarded (initial : ∀ s, T.Initial s → I s)
    (preserved : ∀ s a t, I s → guard s a → T.step s a = some t → I t) (good : ∀ s, I s → P s)
    (run : T.Run past s) (guarded : Guarded guard past) : Throughout P past s := by
  induction run with
  | start start => exact ⟨by simp, good _ (initial _ start)⟩
  | step earlier moved ih =>
      have here := (earlier.step moved).invariant_of_guarded guard initial preserved guarded
      rw [throughout_concat]
      exact ⟨ih ((guarded_concat guard _ _ _).mp guarded).1, good _ here⟩

/-- **Exact guards.** Let `I` be an invariant of the guarded steps that implies
`P`, and let no step from an `I` state lead to a `P` state without satisfying
`guard`. Then a run visits `P` states only if and only if all of its steps
satisfied `guard`. -/
theorem Run.throughout_iff_guarded (initial : ∀ s, T.Initial s → I s)
    (preserved : ∀ s a t, I s → guard s a → T.step s a = some t → I t) (good : ∀ s, I s → P s)
    (forced : ∀ s a t, I s → T.step s a = some t → P t → guard s a) (run : T.Run past s) :
    Throughout P past s ↔ Guarded guard past := by
  refine ⟨?_, run.throughout_of_guarded initial preserved good⟩
  induction run with
  | start start => exact fun _ => guarded_nil guard
  | step earlier moved ih =>
      intro visited
      obtain ⟨before, reached⟩ := (throughout_concat P _ _ _ _).mp visited
      have guarded := ih before
      have here := earlier.invariant_of_guarded guard initial preserved guarded
      rw [guarded_concat]
      exact ⟨guarded, forced _ _ _ here moved reached⟩

/-- **Spoiled runs.** If a property that holds initially survives a step exactly
when the step satisfies `guard`, and is never regained once lost, then it holds
at the end of a run if and only if every step of the run satisfied `guard`. -/
theorem Run.holds_iff_guarded (initial : ∀ s, T.Initial s → I s ∧ P s)
    (preserved : ∀ s a t, I s → T.step s a = some t → I t)
    (exact_step : ∀ s a t, I s → T.step s a = some t → (P t ↔ P s ∧ guard s a))
    (run : T.Run past s) :
    P s ↔ Guarded guard past := by
  have invariant : ∀ {past s}, T.Run past s → I s := fun run =>
    Reachable.invariant (fun s start => (initial s start).1) preserved ⟨_, run⟩
  induction run with
  | start start => exact ⟨fun _ => guarded_nil guard, fun _ => (initial _ start).2⟩
  | step earlier moved ih =>
      rw [guarded_concat]
      exact (exact_step _ _ _ (invariant earlier) moved).trans (and_congr ih Iff.rfl)

/-- **Where a flag was raised.** If no initial state shows a flag and only steps
from a `Q` state raise it, then a run that shows it has left a `Q` state. -/
theorem Run.exists_of_raised {P Q : σ → Prop} (initial : ∀ s, T.Initial s → ¬P s)
    (raised : ∀ s a t, T.Reachable s → T.step s a = some t → P t → P s ∨ Q s) (run : T.Run past s)
    (shown : P s) : ∃ entry ∈ past, Q entry.1 := by
  induction run with
  | start start => exact absurd shown (initial _ start)
  | step earlier moved ih =>
      cases raised _ _ _ ⟨_, earlier⟩ moved shown with
      | inl before =>
          obtain ⟨entry, member, here⟩ := ih before
          exact ⟨entry, List.mem_append_left _ member, here⟩
      | inr here =>
          exact ⟨_, List.mem_append_right _ (List.mem_singleton_self _), here⟩

/-- A replay from the end of a run is a run. -/
theorem Run.exists_of_execute {s t : σ} (run : T.Run past s) (labels : List α)
    (replayed : T.execute s labels = some t) :
    ∃ later, T.Run later t ∧ later.map Prod.snd = past.map Prod.snd ++ labels := by
  induction labels generalizing past s with
  | nil =>
      simp only [execute, Option.some.injEq] at replayed
      subst replayed
      exact ⟨past, run, by simp⟩
  | cons a rest ih =>
      simp only [execute, Option.bind_eq_some_iff] at replayed
      obtain ⟨middle, moved, remaining⟩ := replayed
      obtain ⟨later, laterRun, labels⟩ := ih (run.step moved) remaining
      exact ⟨later, laterRun, by simp [labels]⟩

/-- A guarded replay from the end of a guarded run is a guarded run. -/
theorem Run.exists_guarded_of_execute {s t : σ} (run : T.Run past s) (guarded : Guarded guard past)
    (labels : List α) (along : T.Along guard s labels) (replayed : T.execute s labels = some t) :
    ∃ later, T.Run later t ∧ Guarded guard later := by
  induction labels generalizing past s with
  | nil =>
      simp only [execute, Option.some.injEq] at replayed
      subst replayed
      exact ⟨past, run, guarded⟩
  | cons a rest ih =>
      simp only [execute, Option.bind_eq_some_iff] at replayed
      obtain ⟨middle, moved, remaining⟩ := replayed
      obtain ⟨allowed, onward⟩ := along
      exact ih (run.step moved) ((guarded_concat guard _ _ _).mpr ⟨guarded, allowed⟩)
        (onward middle moved) remaining

/-- What a replay from an initial state ends in is reachable. -/
theorem reachable_of_execute {s t : σ} (initial : T.Initial s) (labels : List α)
    (replayed : T.execute s labels = some t) : T.Reachable t := by
  obtain ⟨past, run, _⟩ := (Run.start initial).exists_of_execute labels replayed
  exact ⟨past, run⟩

/-- A replay whose end shows `b` gives a run whose end shows it. -/
theorem exists_run_of_map {β : Type*} {f : σ → β} {b : β} {s : σ} {labels : List α}
    (replayed : (T.execute s labels).map f = some b) (initial : T.Initial s) :
    ∃ past t, T.Run past t ∧ f t = b := by
  obtain ⟨t, ran, shown⟩ := Option.map_eq_some_iff.mp replayed
  obtain ⟨past, run, _⟩ := (Run.start initial).exists_of_execute labels ran
  exact ⟨past, t, run, shown⟩

/-- A guarded replay whose end shows `b` gives a guarded run whose end shows it. -/
theorem exists_guarded_of_map {β : Type*} {f : σ → β} {b : β} {s : σ} {labels : List α}
    (along : T.Along guard s labels) (replayed : (T.execute s labels).map f = some b)
    (initial : T.Initial s) :
    ∃ past t, T.Run past t ∧ Guarded guard past ∧ f t = b := by
  obtain ⟨t, ran, shown⟩ := Option.map_eq_some_iff.mp replayed
  obtain ⟨past, run, guarded⟩ :=
    (Run.start initial).exists_guarded_of_execute (guarded_nil _) labels along ran
  exact ⟨past, t, run, guarded, shown⟩

/-- A replay whose end shows `b` reaches a state that shows it. -/
theorem exists_reachable_of_map {β : Type*} {f : σ → β} {b : β} {s : σ} {labels : List α}
    (replayed : (T.execute s labels).map f = some b) (initial : T.Initial s) :
    ∃ t, T.Reachable t ∧ f t = b := by
  obtain ⟨past, t, run, shown⟩ := exists_run_of_map replayed initial
  exact ⟨t, ⟨past, run⟩, shown⟩

/-- Two replays after one another are one. -/
theorem execute_append {s t u : σ} {first rest : List α} (before : T.execute s first = some t)
    (after : T.execute t rest = some u) : T.execute s (first ++ rest) = some u := by
  induction first generalizing s with
  | nil =>
      cases before
      exact after
  | cons a first ih =>
      obtain ⟨middle, moved, remaining⟩ := Option.bind_eq_some_iff.mp before
      exact Option.bind_eq_some_iff.mpr ⟨middle, moved, ih remaining⟩

end StepSystem

/-! ## Readings of a log -/

section Log

variable {α : Type u} {β : Type v} {read : α → Option β}

/-- Entries that a reading of a log skips leave what it reads. -/
theorem List.filterMap_append_of_none {log more : List α}
    (skipped : ∀ entry ∈ more, read entry = none) :
    (log ++ more).filterMap read = log.filterMap read := by
  rw [List.filterMap_append, List.filterMap_eq_nil_iff.mpr skipped, List.append_nil]

theorem List.filterMap_concat_of_none {last : α} (skipped : read last = none) (log : List α) :
    (log ++ [last]).filterMap read = log.filterMap read := by
  apply List.filterMap_append_of_none
  intro entry member
  rw [List.mem_singleton.mp member, skipped]

end Log
