/-
# Loops that may fail

The loops of an imperative program over an explicit state. A round fails with
`none`, and so does a loop that takes more rounds than it was given, so a loop that
is proved to have a value ends.

A computation ensures a property when it does not fail and its value has the property.
There is one rule for each kind of loop: if every round ensures the invariant, so does
the loop.
-/

import Mathlib.Tactic.Common

universe u v

namespace Loops

variable {σ : Type u} {α : Type v}

/-- What a round of a loop comes to. -/
inductive Step (σ : Type u)
  | next (s : σ)
  | stop (s : σ)

/-- Rounds until one of them stops. -/
def loop (body : σ → Option (Step σ)) : ℕ → σ → Option σ
  | 0, _ => none
  | fuel + 1, s =>
      match body s with
      | none => none
      | some (.stop t) => some t
      | some (.next t) => loop body fuel t

/-- A loop over consecutive numbers. -/
def forRange (body : ℕ → σ → Option σ) (first : ℕ) : ℕ → σ → Option σ
  | 0, s => some s
  | count + 1, s => body first s >>= forRange body (first + 1) count

/-- A loop over a list, with the positions of its elements. -/
def forEach (body : α → ℕ → σ → Option σ) (first : ℕ) : List α → σ → Option σ
  | [], s => some s
  | a :: items, s => body a first s >>= forEach body (first + 1) items

/-- Rounds that are the same for related elements. -/
theorem forEach_congr {β : Type v} {body : α → ℕ → σ → Option σ} {other : β → ℕ → σ → Option σ}
    {first : ℕ} {items : List α} {others : List β} {s : σ}
    (same : List.Forall₂ (fun a b => ∀ k s, body a k s = other b k s) items others) :
    forEach body first items s = forEach other first others s := by
  induction same generalizing first s with
  | nil => rfl
  | cons round _ ih =>
      rw [forEach, forEach, round]
      apply congrArg
      funext t
      exact ih

/-! ## Rules -/

/-- The computation has a value, and the value satisfies `after`. -/
def Ensures (m : Option α) (after : α → Prop) : Prop := ∃ a, m = some a ∧ after a

namespace Ensures

variable {β : Type v} {m : Option α} {after : α → Prop}

theorem value {a : α} (holds : after a) : Ensures (some a) after := ⟨a, rfl, holds⟩

theorem bind {f : α → Option β} {last : β → Prop} (one : Ensures m after)
    (two : ∀ a, after a → Ensures (f a) last) : Ensures (m >>= f) last := by
  obtain ⟨a, rfl, holds⟩ := one
  exact two a holds

/-- A step whose value is known. -/
theorem step {f : α → Option β} {last : β → Prop} {a : α} (known : m = some a)
    (two : Ensures (f a) last) : Ensures (m >>= f) last := by
  rw [known]
  exact two

theorem mono {weaker : α → Prop} (ensures : Ensures m after) (weaken : ∀ a, after a → weaker a) :
    Ensures m weaker := by
  obtain ⟨a, ran, holds⟩ := ensures
  exact ⟨a, ran, weaken a holds⟩

theorem guarded {γ : Type} {condition : Prop} [Decidable condition] {f : Unit → Option γ}
    {last : γ → Prop}
    (holds : condition) (two : Ensures (f ()) last) : Ensures (guard condition >>= f) last := by
  rw [guard, if_pos holds]
  exact two

end Ensures

section Rules

variable {after : σ → Prop}

/-- The measure goes down in every round that goes on. -/
theorem loop_rule {body : σ → Option (Step σ)} (invariant : σ → Prop) (measure : σ → ℕ)
    (round : ∀ s, invariant s → Ensures (body s) fun
      | .next t => invariant t ∧ measure t < measure s
      | .stop t => after t)
    {fuel : ℕ} {s : σ} (holds : invariant s) (enough : measure s < fuel) :
    Ensures (loop body fuel s) after := by
  induction fuel generalizing s with
  | zero => exact absurd enough (Nat.not_lt_zero _)
  | succ fuel ih =>
      obtain ⟨outcome, ran, reached⟩ := round s holds
      rw [loop, ran]
      cases outcome with
      | next t => exact ih reached.1 (Nat.lt_of_lt_of_le reached.2 (Nat.le_of_lt_succ enough))
      | stop t => exact .value reached

theorem forRange_rule {body : ℕ → σ → Option σ} (invariant : ℕ → σ → Prop) {first count : ℕ}
    {s : σ} (holds : invariant first s)
    (round : ∀ k s, first ≤ k → k < first + count → invariant k s →
      Ensures (body k s) (invariant (k + 1))) :
    Ensures (forRange body first count s) (invariant (first + count)) := by
  induction count generalizing first s with
  | zero => exact .value holds
  | succ count ih =>
      apply (round first s (Nat.le_refl _) (by omega) holds).bind
      intro t kept
      have rest := ih kept fun k s lower upper => round k s (by omega) (by omega)
      rwa [show first + 1 + count = first + (count + 1) by omega] at rest

variable {items : List α} {p : α → Option Bool}

theorem forEach_rule {body : α → ℕ → σ → Option σ} (invariant : ℕ → σ → Prop) {first : ℕ} {s : σ}
    (holds : invariant first s) (round : ∀ k a s, items[k]? = some a → invariant (first + k) s →
      Ensures (body a (first + k) s) (invariant (first + k + 1))) :
    Ensures (forEach body first items s) (invariant (first + items.length)) := by
  induction items generalizing first s with
  | nil => exact .value holds
  | cons a items ih =>
      apply (round 0 a s rfl holds).bind
      intro t kept
      have rest := ih kept fun k b s found holds => by
        have here := round (k + 1) b s found
        rw [show first + (k + 1) = first + 1 + k by omega] at here
        exact here holds
      rwa [show first + 1 + items.length = first + (a :: items).length by
        rw [List.length_cons]; omega] at rest

/-- A test of all elements that does not fail. -/
theorem allM_eq_some {q : α → Bool} (tested : ∀ a ∈ items, p a = some (q a)) :
    items.allM p = some (items.all q) := by
  induction items with
  | nil => rfl
  | cons a items ih =>
      have rest := ih fun b member => tested b (List.mem_cons_of_mem _ member)
      rw [List.allM, tested a List.mem_cons_self, List.all_cons]
      cases q a with
      | true => exact rest
      | false => rfl

theorem anyM_eq_some {q : α → Bool} (tested : ∀ a ∈ items, p a = some (q a)) :
    items.anyM p = some (items.any q) := by
  induction items with
  | nil => rfl
  | cons a items ih =>
      have rest := ih fun b member => tested b (List.mem_cons_of_mem _ member)
      rw [List.anyM, tested a List.mem_cons_self, List.any_cons]
      cases q a with
      | true => rfl
      | false => exact rest

/-- A traversal that does not fail has a value for each element. -/
theorem forall₂_of_mapM {β : Type v} {f : α → Option β} {values : List β}
    (ran : items.mapM f = some values) : List.Forall₂ (fun a b => f a = some b) items values := by
  induction items generalizing values with
  | nil =>
      cases ran
      exact .nil
  | cons a items ih =>
      rw [List.mapM_cons, Option.bind_eq_bind, Option.bind_eq_some_iff] at ran
      obtain ⟨b, first, ran⟩ := ran
      rw [Option.bind_eq_bind, Option.bind_eq_some_iff] at ran
      obtain ⟨rest, others, same⟩ := ran
      cases same
      exact .cons first (ih others)

theorem mapM_isSome {β : Type v} {f : α → Option β} (all : ∀ a ∈ items, (f a).isSome = true) :
    (items.mapM f).isSome = true := by
  induction items with
  | nil => rfl
  | cons a items ih =>
      obtain ⟨b, first⟩ := Option.isSome_iff_exists.mp (all a List.mem_cons_self)
      obtain ⟨rest, others⟩ := Option.isSome_iff_exists.mp
        (ih fun c member => all c (List.mem_cons_of_mem _ member))
      rw [List.mapM_cons, first, others]
      rfl

end Rules

end Loops
