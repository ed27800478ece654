/-
# Computations over durable storage

A computation reads and updates a stored state and fails or returns a value. It
keeps a trail: each update of the storage with the state it left behind, in the
order they were made. A loss of power after one of the updates is therefore an
entry of the trail, and what the next start finds is the state of that entry.

The rules at the end carry a property of the stored state through a computation,
to its end and to every entry of its trail.
-/

import Mathlib.Tactic.Common

/-- What a computation comes to. -/
structure Durable.Outcome (κ σ ε α : Type) where
  result : Except ε α
  final : σ
  trail : List (κ × σ)

/-- A computation over a stored state, with the kinds of its updates. -/
structure Durable (κ σ ε α : Type) where
  run : σ → Durable.Outcome κ σ ε α

namespace Durable

variable {κ σ τ ε α β : Type}

/-- A value that depends on what is stored. -/
def read (f : σ → Except ε α) : Durable κ σ ε α := ⟨fun s => ⟨f s, s, []⟩⟩

/-- A value that is always there. -/
def reads (f : σ → α) : Durable κ σ ε α := read fun s => .ok (f s)

def fail (e : ε) : Durable κ σ ε α := read fun _ => .error e

/-- One update of the storage. -/
def update (kind : κ) (f : σ → σ) : Durable κ σ ε Unit :=
  ⟨fun s => ⟨.ok (), f s, [(kind, f s)]⟩⟩

protected def bind (first : Durable κ σ ε α) (rest : α → Durable κ σ ε β) : Durable κ σ ε β where
  run s :=
    match first.run s with
    | ⟨.error e, t, trail⟩ => ⟨.error e, t, trail⟩
    | ⟨.ok a, t, trail⟩ =>
        let later := (rest a).run t
        ⟨later.result, later.final, trail ++ later.trail⟩

instance : Monad (Durable κ σ ε) where
  pure a := read fun _ => .ok a
  bind := Durable.bind

/-- On a failure go on with what the handler does about it. -/
def catching (m : Durable κ σ ε α) (handler : ε → Durable κ σ ε α) : Durable κ σ ε α where
  run s :=
    match m.run s with
    | ⟨.ok a, t, trail⟩ => ⟨.ok a, t, trail⟩
    | ⟨.error e, t, trail⟩ =>
        let later := (handler e).run t
        ⟨later.result, later.final, trail ++ later.trail⟩

/-- A computation on one part of the storage. -/
def within (part : τ → σ) (put : τ → σ → τ) (m : Durable κ σ ε α) : Durable κ τ ε α where
  run s :=
    let outcome := m.run (part s)
    ⟨outcome.result, put s outcome.final, outcome.trail.map fun entry => (entry.1, put s entry.2)⟩

/-- What is stored when a computation has ended, or when power was lost after
the update with the given index. -/
def upTo (m : Durable κ σ ε α) (s : σ) : Option ℕ → Option σ
  | none => some (m.run s).final
  | some lost => ((m.run s).trail[lost]?).map Prod.snd

/-- An update of the given kind is made before the computation ends or power is lost. -/
def reaches [DecidableEq κ] (m : Durable κ σ ε α) (kind : κ) (s : σ) : Option ℕ → Bool
  | none => (m.run s).trail.any fun entry => entry.1 = kind
  | some lost => ((m.run s).trail.take (lost + 1)).any fun entry => entry.1 = kind

/-! ## Stepping through a sequence -/

@[simp]
theorem run_pure (a : α) (s : σ) : (pure a : Durable κ σ ε α).run s = ⟨.ok a, s, []⟩ :=
  rfl

@[simp]
theorem run_read (f : σ → Except ε α) (s : σ) :
    (read f : Durable κ σ ε α).run s = ⟨f s, s, []⟩ :=
  rfl

@[simp]
theorem run_fail (e : ε) (s : σ) : (fail e : Durable κ σ ε α).run s = ⟨.error e, s, []⟩ :=
  rfl

@[simp]
theorem run_update (kind : κ) (f : σ → σ) (s : σ) :
    (update kind f : Durable κ σ ε Unit).run s = ⟨.ok (), f s, [(kind, f s)]⟩ :=
  rfl

theorem run_bind (first : Durable κ σ ε α) (rest : α → Durable κ σ ε β) (s : σ) :
    (first >>= rest).run s =
      match first.run s with
      | ⟨.error e, t, trail⟩ => ⟨.error e, t, trail⟩
      | ⟨.ok a, t, trail⟩ =>
          ⟨((rest a).run t).result, ((rest a).run t).final, trail ++ ((rest a).run t).trail⟩ :=
  rfl

variable {first : Durable κ σ ε α} {trail : List (κ × σ)} {f : σ → Except ε α}

variable (rest : α → Durable κ σ ε β)

theorem run_bind_of_ok {s t : σ} {a : α} (ran : first.run s = ⟨.ok a, t, trail⟩) :
    (first >>= rest).run s =
      ⟨((rest a).run t).result, ((rest a).run t).final, trail ++ ((rest a).run t).trail⟩ := by
  rw [run_bind, ran]

theorem run_bind_of_error {s t : σ} {e : ε} (ran : first.run s = ⟨.error e, t, trail⟩) :
    (first >>= rest).run s = ⟨.error e, t, trail⟩ := by
  rw [run_bind, ran]

theorem ext {m n : Durable κ σ ε α} (same : ∀ s, m.run s = n.run s) : m = n := by
  cases m
  cases n
  exact congrArg Durable.mk (funext same)

instance : LawfulMonad (Durable κ σ ε) :=
  LawfulMonad.mk' _
    (by
      intro α m
      refine ext fun s => ?_
      change (m >>= fun a => pure a).run s = m.run s
      rw [run_bind]
      cases ran : m.run s with
      | mk result t trail => cases result <;> simp)
    (by
      intro α β a rest
      exact ext fun s => rfl)
    (by
      intro α β γ first second third
      refine ext fun s => ?_
      rw [run_bind, run_bind, run_bind]
      cases ran : first.run s with
      | mk result t trail =>
          cases result with
          | error e => rfl
          | ok a =>
              dsimp only
              rw [run_bind]
              cases later : (second a).run t with
              | mk result u more => cases result <;> simp)

/-- Two sequences that agree after their common first step. -/
theorem run_bind_congr {rest other : α → Durable κ σ ε β} {s : σ}
    (agree : ∀ a, (first.run s).result = .ok a →
      (rest a).run (first.run s).final = (other a).run (first.run s).final) :
    (first >>= rest).run s = (first >>= other).run s := by
  rw [run_bind, run_bind]
  cases ran : first.run s with
  | mk result t trail =>
      rw [ran] at agree
      cases result with
      | error e => rfl
      | ok a =>
          have same : (rest a).run t = (other a).run t := agree a rfl
          simp only [same]

@[simp]
theorem run_update_bind (kind : κ) (f : σ → σ) (rest : Unit → Durable κ σ ε β) (s : σ) :
    (update kind f >>= rest).run s =
      ⟨((rest ()).run (f s)).result, ((rest ()).run (f s)).final,
        (kind, f s) :: ((rest ()).run (f s)).trail⟩ :=
  rfl

/-- A read value is passed on and nothing is written. -/
theorem run_read_bind_of_ok {s : σ} {a : α} (value : f s = .ok a) :
    (read f >>= rest).run s = (rest a).run s := by
  have found : (read f : Durable κ σ ε α).run s = ⟨.ok a, s, []⟩ := by rw [run_read, value]
  rw [run_bind_of_ok rest found, List.nil_append]

theorem run_reads_bind (f : σ → α) (rest : α → Durable κ σ ε β) (s : σ) :
    (reads f >>= rest).run s = (rest (f s)).run s :=
  run_read_bind_of_ok rest rfl

theorem run_read_bind_of_error {s : σ} {e : ε} (failed : f s = .error e) :
    (read f >>= rest).run s = ⟨.error e, s, []⟩ :=
  run_bind_of_error rest (by rw [run_read, failed])

/-! ## Properties of what is stored -/

/-- From a state that satisfies `before`, every state of the trail satisfies `always`, a
success ends with `after`, and a failure leaves what `failed` says about it. -/
structure Triple (always before : σ → Prop) (m : Durable κ σ ε α) (after : α → σ → Prop)
    (failed : ε → σ → Prop) : Prop where
  trail : ∀ s, before s → ∀ entry ∈ (m.run s).trail, always entry.2
  success : ∀ s, before s → ∀ a, (m.run s).result = .ok a → after a (m.run s).final
  failure : ∀ s, before s → ∀ e, (m.run s).result = .error e → failed e (m.run s).final

namespace Triple

variable {always before : σ → Prop} {failed : ε → σ → Prop}

theorem bind {first : Durable κ σ ε α} {rest : α → Durable κ σ ε β} {middle : α → σ → Prop}
    {after : β → σ → Prop} (one : Triple always before first middle failed)
    (two : ∀ a, Triple always (middle a) (rest a) after failed) :
    Triple always before (first >>= rest) after failed := by
  have step : ∀ s, before s →
      (∃ e, (first >>= rest).run s = ⟨.error e, (first.run s).final, (first.run s).trail⟩ ∧
        (first.run s).result = .error e) ∨
      ∃ a, middle a (first.run s).final ∧ (first >>= rest).run s =
        ⟨((rest a).run (first.run s).final).result, ((rest a).run (first.run s).final).final,
          (first.run s).trail ++ ((rest a).run (first.run s).final).trail⟩ := by
    intro s holds
    cases ran : (first.run s).result with
    | error e => exact Or.inl ⟨e, run_bind_of_error rest (by rw [← ran]), rfl⟩
    | ok a => exact Or.inr ⟨a, one.success s holds a ran, run_bind_of_ok rest (by rw [← ran])⟩
  refine ⟨fun s holds entry member => ?_, fun s holds b ended => ?_, fun s holds e ended => ?_⟩
  · rcases step s holds with ⟨e, ran, -⟩ | ⟨a, reached, ran⟩
    · rw [ran] at member
      exact one.trail s holds entry member
    · rw [ran, List.mem_append] at member
      cases member with
      | inl early => exact one.trail s holds entry early
      | inr late => exact (two a).trail _ reached entry late
  · rcases step s holds with ⟨_, ran, -⟩ | ⟨a, reached, ran⟩
    · rw [ran] at ended
      cases ended
    · rw [ran] at ended ⊢
      exact (two a).success _ reached b ended
  · rcases step s holds with ⟨_, ran, early⟩ | ⟨a, reached, ran⟩
    · rw [ran] at ended ⊢
      cases ended
      exact one.failure s holds _ early
    · rw [ran] at ended ⊢
      exact (two a).failure _ reached e ended

variable {after : α → σ → Prop} {m : Durable κ σ ε α} {worse : ε → σ → Prop}

/-- A handler starts from what the failure left. -/
theorem catching {handler : ε → Durable κ σ ε α} {caught : ε → σ → Prop}
    (tried : Triple always before m after caught)
    (handled : ∀ e, Triple always (caught e) (handler e) after failed) :
    Triple always before (m.catching handler) after failed := by
  have step : ∀ s, before s →
      (∃ a, (m.catching handler).run s = ⟨.ok a, (m.run s).final, (m.run s).trail⟩ ∧
        (m.run s).result = .ok a) ∨
      ∃ e, caught e (m.run s).final ∧ (m.catching handler).run s =
        ⟨((handler e).run (m.run s).final).result, ((handler e).run (m.run s).final).final,
          (m.run s).trail ++ ((handler e).run (m.run s).final).trail⟩ := by
    intro s holds
    cases ran : m.run s with
    | mk result t trail =>
        cases result with
        | ok a => exact Or.inl ⟨a, by simp only [Durable.catching, ran], rfl⟩
        | error e =>
            have left := tried.failure s holds e (by rw [ran])
            rw [ran] at left
            exact Or.inr ⟨e, left, by simp only [Durable.catching, ran]⟩
  refine ⟨fun s holds entry member => ?_, fun s holds a ended => ?_, fun s holds e ended => ?_⟩
  · rcases step s holds with ⟨a, ran, -⟩ | ⟨e, left, ran⟩
    · rw [ran] at member
      exact tried.trail s holds entry member
    · rw [ran, List.mem_append] at member
      cases member with
      | inl early => exact tried.trail s holds entry early
      | inr late => exact (handled e).trail _ left entry late
  · rcases step s holds with ⟨b, ran, early⟩ | ⟨e, left, ran⟩
    · rw [ran] at ended ⊢
      cases ended
      exact tried.success s holds _ early
    · rw [ran] at ended ⊢
      exact (handled e).success _ left a ended
  · rcases step s holds with ⟨b, ran, -⟩ | ⟨e', left, ran⟩
    · rw [ran] at ended
      cases ended
    · rw [ran] at ended ⊢
      exact (handled e').failure _ left e ended

/-- Reading leaves the storage as it is. -/
theorem read {f : σ → Except ε α} (found : ∀ s a, before s → f s = .ok a → after a s)
    (missed : ∀ s e, before s → f s = .error e → failed e s) :
    Triple always before (Durable.read f : Durable κ σ ε α) after failed := by
  refine ⟨fun s _ entry member => ?_, fun s holds a value => found s a holds value,
    fun s holds e value => missed s e holds value⟩
  cases member

theorem pure {a : α} (found : ∀ s, before s → after a s) :
    Triple always before (Pure.pure a : Durable κ σ ε α) after failed :=
  read (fun s _ holds value => by cases value; exact found s holds)
    fun _ _ _ value => by cases value

theorem fail {e : ε} (missed : ∀ s, before s → failed e s) :
    Triple always before (Durable.fail e : Durable κ σ ε α) after failed :=
  read (fun _ _ _ value => by cases value)
    fun s _ holds value => by cases value; exact missed s holds

theorem mono {wider stricter : σ → Prop} {after looser : α → σ → Prop}
    (triple : Triple always before m after failed) (visible : ∀ s, always s → wider s)
    (entry : ∀ s, stricter s → before s) (leave : ∀ a s, after a s → looser a s)
    (miss : ∀ e s, failed e s → worse e s) : Triple wider stricter m looser worse :=
  ⟨fun s holds entry' member => visible _ (triple.trail s (entry s holds) entry' member),
    fun s holds a value => leave a _ (triple.success s (entry s holds) a value),
    fun s holds e value => miss e _ (triple.failure s (entry s holds) e value)⟩

/-- Less is known at the start. -/
theorem enter {stricter : σ → Prop} (triple : Triple always before m after failed)
    (entry : ∀ s, stricter s → before s) : Triple always stricter m after failed :=
  triple.mono (fun _ holds => holds) entry (fun _ _ holds => holds) fun _ _ holds => holds

/-- Less is said about a success. -/
theorem leave {after looser : α → σ → Prop} (triple : Triple always before m after failed)
    (leave : ∀ a s, after a s → looser a s) : Triple always before m looser failed :=
  triple.mono (fun _ holds => holds) (fun _ holds => holds) leave fun _ _ holds => holds

/-- Less is said about a failure. -/
theorem miss (triple : Triple always before m after failed) (miss : ∀ e s, failed e s → worse e s) :
    Triple always before m after worse :=
  triple.mono (fun _ holds => holds) (fun _ holds => holds) (fun _ _ holds => holds) miss

/-- Less is said about the states on the way. -/
theorem widen {wider : σ → Prop} (triple : Triple always before m after failed)
    (visible : ∀ s, always s → wider s) : Triple wider before m after failed :=
  triple.mono visible (fun _ holds => holds) (fun _ _ holds => holds) fun _ _ holds => holds

/-- A fact that the entry condition implies may be assumed. -/
theorem assuming {fact : Prop} (known : ∀ s, before s → fact)
    (triple : fact → Triple always before m after failed) : Triple always before m after failed :=
  ⟨fun s holds => (triple (known s holds)).trail s holds,
    fun s holds => (triple (known s holds)).success s holds,
    fun s holds => (triple (known s holds)).failure s holds⟩

/-- A loop over a list leads through what is known of the items that are left. -/
theorem forM {γ : Type} {body : γ → Durable κ σ ε PUnit} {invariant : List γ → σ → Prop}
    (one : ∀ c rest,
      Triple always (invariant (c :: rest)) (body c) (fun _ => invariant rest) failed)
    (items : List γ) :
    Triple always (invariant items) (items.forM body) (fun _ => invariant []) failed := by
  induction items with
  | nil => exact pure fun _ holds => holds
  | cons c rest ih => exact (one c rest).bind fun _ => ih

/-- A loop that collects one value for each item. -/
theorem mapM {γ : Type} {body : γ → Durable κ σ ε α} {related : γ → α → Prop}
    (items : List γ) (one : ∀ c ∈ items, Triple always before (body c)
      (fun a s => related c a ∧ before s) failed) :
    Triple always before (items.mapM body)
      (fun values s => List.Forall₂ related items values ∧ before s) failed := by
  induction items with
  | nil => exact pure fun _ holds => ⟨.nil, holds⟩
  | cons c rest ih =>
      rw [List.mapM_cons]
      refine (one c List.mem_cons_self).bind fun a => assuming (fun s holds => holds.1) fun first =>
        ((ih fun d member => one d (List.mem_cons_of_mem c member)).mono (fun _ holds => holds)
          (fun _ holds => holds.2) (fun _ _ holds => holds) fun _ _ holds => holds).bind
          fun values => pure fun s holds => ⟨.cons first holds.1, holds.2⟩

end Triple

/-- From a state that satisfies `before`, every state of the trail and the state
after a failure satisfy `always`, and a success ends with `after`. -/
structure Keeps (always before : σ → Prop) (m : Durable κ σ ε α) (after : α → σ → Prop) : Prop where
  trail : ∀ s, before s → ∀ entry ∈ (m.run s).trail, always entry.2
  failure : ∀ s, before s → ∀ e, (m.run s).result = .error e → always (m.run s).final
  success : ∀ s, before s → ∀ a, (m.run s).result = .ok a → after a (m.run s).final

/-- What is kept is a triple that says the same about every failure. -/
theorem keeps_iff_triple {always before : σ → Prop} {m : Durable κ σ ε α} {after : α → σ → Prop} :
    Keeps always before m after ↔ Triple always before m after fun _ => always :=
  ⟨fun kept => ⟨kept.trail, kept.success, kept.failure⟩,
    fun triple => ⟨triple.trail, triple.failure, triple.success⟩⟩

namespace Keeps

variable {always before : σ → Prop}

theorem bind {first : Durable κ σ ε α} {rest : α → Durable κ σ ε β} {middle : α → σ → Prop}
    {after : β → σ → Prop} (one : Keeps always before first middle)
    (two : ∀ a, Keeps always (middle a) (rest a) after) :
    Keeps always before (first >>= rest) after :=
  keeps_iff_triple.mpr ((keeps_iff_triple.mp one).bind fun a => keeps_iff_triple.mp (two a))

variable {after : α → σ → Prop} {m : Durable κ σ ε α}

section

variable (kept : ∀ s, before s → always s)
include kept

/-- Reading leaves the storage as it is. -/
theorem read {f : σ → Except ε α} (found : ∀ s a, before s → f s = .ok a → after a s) :
    Keeps always before (Durable.read f : Durable κ σ ε α) after := by
  refine ⟨fun s _ entry member => ?_, fun s holds _ _ => kept s holds,
    fun s holds a value => found s a holds value⟩
  cases member

theorem reads {f : σ → α} (found : ∀ s, before s → after (f s) s) :
    Keeps always before (Durable.reads f : Durable κ σ ε α) after :=
  read kept fun s _ holds value => by cases value; exact found s holds

theorem fail {e : ε} : Keeps always before (Durable.fail e : Durable κ σ ε α) after :=
  read kept fun _ _ _ value => by cases value

theorem pure {a : α} (found : ∀ s, before s → after a s) :
    Keeps always before (Pure.pure a : Durable κ σ ε α) after :=
  read kept fun s _ holds value => by cases value; exact found s holds

end

theorem mono {stricter : σ → Prop} {after looser : α → σ → Prop}
    (kept : Keeps always before m after) (entry : ∀ s, stricter s → before s)
    (leave : ∀ a s, after a s → looser a s) : Keeps always stricter m looser :=
  ⟨fun s holds => kept.trail s (entry s holds), fun s holds => kept.failure s (entry s holds),
    fun s holds a value => leave a _ (kept.success s (entry s holds) a value)⟩

/-- A fact that the entry condition implies may be assumed. -/
theorem assuming {fact : Prop} (known : ∀ s, before s → fact)
    (kept : fact → Keeps always before m after) : Keeps always before m after :=
  ⟨fun s holds => (kept (known s holds)).trail s holds,
    fun s holds => (kept (known s holds)).failure s holds,
    fun s holds => (kept (known s holds)).success s holds⟩

/-- A computation on one part keeps what its part keeps. -/
theorem within {part : τ → σ} {put : τ → σ → τ} {alwaysHere here : τ → Prop}
    (kept : Keeps always before m fun _ => always) (enter : ∀ s, here s → before (part s))
    (leave : ∀ s t, here s → always t → alwaysHere (put s t)) :
    Keeps alwaysHere here (m.within part put) fun _ => alwaysHere := by
  refine ⟨fun s holds entry member => ?_, fun s holds e failed => ?_, fun s holds a ended => ?_⟩
  · obtain ⟨inner, found, rfl⟩ := List.mem_map.mp member
    exact leave s _ holds (kept.trail _ (enter s holds) inner found)
  · exact leave s _ holds (kept.failure _ (enter s holds) e failed)
  · exact leave s _ holds (kept.success _ (enter s holds) a ended)

/-- Repeating a computation over a list keeps an invariant of its value. -/
theorem foldlM {γ : Type} {step : α → γ → Durable κ σ ε α} {invariant : α → σ → Prop}
    (one : ∀ a c, Keeps always (invariant a) (step a c) invariant)
    (kept : ∀ a s, invariant a s → always s) (items : List γ) (a : α) :
    Keeps always (invariant a) (items.foldlM step a) invariant := by
  induction items generalizing a with
  | nil => exact pure (kept a) fun _ holds => holds
  | cons c rest ih => exact bind (one a c) ih

/-- A loop over a list keeps what each round keeps. -/
theorem forM {γ : Type} {body : γ → Durable κ σ ε PUnit} (kept : ∀ s, before s → always s)
    (items : List γ)
    (one : ∀ c ∈ items, Keeps always before (body c) fun _ => before) :
    Keeps always before (items.forM body) fun _ => before := by
  induction items with
  | nil => exact pure kept fun _ holds => holds
  | cons c rest ih =>
      exact bind (one c List.mem_cons_self) fun _ =>
        ih fun d member => one d (List.mem_cons_of_mem c member)

/-- A handler starts from what the failure left. -/
theorem catching {handler : ε → Durable κ σ ε α} (kept : Keeps always before m after)
    (handled : ∀ e, Keeps always always (handler e) after) :
    Keeps always before (m.catching handler) after :=
  keeps_iff_triple.mpr
    ((keeps_iff_triple.mp kept).catching fun e => keeps_iff_triple.mp (handled e))

/-- A computation that keeps a property keeps it up to any loss of power. -/
theorem upTo (kept : Keeps always before m fun _ => always) {s t : σ} (holds : before s)
    {lost : Option ℕ} (left : m.upTo s lost = some t) : always t := by
  cases lost with
  | none =>
      simp only [Durable.upTo, Option.some.injEq] at left
      rw [← left]
      cases ended : (m.run s).result with
      | error e => exact kept.failure s holds e ended
      | ok a => exact kept.success s holds a ended
  | some index =>
      simp only [Durable.upTo, Option.map_eq_some_iff] at left
      obtain ⟨entry, found, rfl⟩ := left
      exact kept.trail s holds entry (List.mem_of_getElem? found)

end Keeps

/-! ## Properties of each update -/

/-- Seen through `view`, each update of a trail leads from the state before it to
the state it left as `moves` allows, and so up to the end. -/
inductive Linked (view : σ → τ) (moves : κ → τ → τ → Prop) : τ → List (κ × σ) → τ → Prop
  | nil (t : τ) : Linked view moves t [] t
  | cons {t u : τ} {entry : κ × σ} {rest : List (κ × σ)}
      (moved : moves entry.1 t (view entry.2)) (later : Linked view moves (view entry.2) rest u) :
      Linked view moves t (entry :: rest) u

section Traces

variable {view : σ → τ} {moves : κ → τ → τ → Prop}

theorem Linked.append {t u v : τ} {first second : List (κ × σ)}
    (one : Linked view moves t first u) (two : Linked view moves u second v) :
    Linked view moves t (first ++ second) v := by
  induction one with
  | nil => exact two
  | cons moved _ ih => exact .cons moved (ih two)

theorem Linked.mono {looser : κ → τ → τ → Prop} {t u : τ} {trail : List (κ × σ)}
    (linked : Linked view moves t trail u) (weaker : ∀ k a b, moves k a b → looser k a b) :
    Linked view looser t trail u := by
  induction linked with
  | nil => exact .nil _
  | cons moved _ ih => exact .cons (weaker _ _ _ moved) ih

/-- From a state that satisfies `before`, every update is one that `moves` allows,
and a success ends with `after`. -/
structure Traces (view : σ → τ) (moves : κ → τ → τ → Prop) (before : τ → Prop)
    (m : Durable κ σ ε α) (after : α → τ → Prop) : Prop where
  linked : ∀ s, before (view s) →
    Linked view moves (view s) (m.run s).trail (view (m.run s).final)
  success : ∀ s, before (view s) → ∀ a, (m.run s).result = .ok a → after a (view (m.run s).final)

namespace Traces

variable {before : τ → Prop}

theorem bind {first : Durable κ σ ε α} {rest : α → Durable κ σ ε β} {middle : α → τ → Prop}
    {after : β → τ → Prop} (one : Traces view moves before first middle)
    (two : ∀ a, Traces view moves (middle a) (rest a) after) :
    Traces view moves before (first >>= rest) after := by
  constructor
  · intro s holds
    have early := one.linked s holds
    cases ran : (first.run s).result with
    | error e =>
        rw [run_bind_of_error rest (by rw [← ran])]
        exact early
    | ok a =>
        have reached := one.success s holds a ran
        rw [run_bind_of_ok rest (by rw [← ran])]
        exact early.append ((two a).linked _ reached)
  · intro s holds b ended
    cases ran : (first.run s).result with
    | error e =>
        rw [run_bind_of_error rest (by rw [← ran])] at ended
        cases ended
    | ok a =>
        have reached := one.success s holds a ran
        have whole :=
          run_bind_of_ok rest (s := s) (t := (first.run s).final) (a := a) (by rw [← ran])
        rw [whole] at ended ⊢
        exact (two a).success _ reached b ended

variable {m : Durable κ σ ε α} {after : α → τ → Prop}

theorem mono {stricter : τ → Prop} {after looser : α → τ → Prop}
    (traces : Traces view moves before m after) (entry : ∀ t, stricter t → before t)
    (leave : ∀ a t, after a t → looser a t) : Traces view moves stricter m looser :=
  ⟨fun s holds => traces.linked s (entry _ holds),
    fun s holds a ended => leave a _ (traces.success s (entry _ holds) a ended)⟩

/-- More kinds of updates may be allowed. -/
theorem loosen {looser : κ → τ → τ → Prop} (traces : Traces view moves before m after)
    (weaker : ∀ k a b, moves k a b → looser k a b) : Traces view looser before m after :=
  ⟨fun s holds => (traces.linked s holds).mono weaker, traces.success⟩

/-- A fact that the entry condition implies may be assumed. -/
theorem assuming (fact : Prop) (known : ∀ t, before t → fact)
    (traces : fact → Traces view moves before m after) : Traces view moves before m after :=
  ⟨fun s holds => (traces (known _ holds)).linked s holds,
    fun s holds => (traces (known _ holds)).success s holds⟩

theorem reads (f : τ → α) :
    Traces view moves before (Durable.reads fun s => f (view s) : Durable κ σ ε α)
      fun a t => before t ∧ f t = a := by
  constructor
  · exact fun s _ => .nil _
  · intro s holds a ended
    cases ended
    exact ⟨holds, rfl⟩

theorem pure (a : α) : Traces view moves before (Pure.pure a : Durable κ σ ε α)
    fun b t => b = a ∧ before t := by
  constructor
  · exact fun s _ => .nil _
  · intro s holds b ended
    cases ended
    exact ⟨rfl, holds⟩

theorem fail (e : ε) : Traces view moves before (Durable.fail e : Durable κ σ ε α) after := by
  constructor
  · exact fun s _ => .nil _
  · intro s holds a ended
    cases ended

/-- A handler starts from whatever the failure left. -/
theorem catching {handler : ε → Durable κ σ ε α} (traces : Traces view moves before m after)
    (handled : ∀ e, Traces view moves (fun _ => True) (handler e) after) :
    Traces view moves before (m.catching handler) after := by
  have step : ∀ s, before (view s) →
      Linked view moves (view s) ((m.catching handler).run s).trail
          (view ((m.catching handler).run s).final) ∧
        ∀ a, ((m.catching handler).run s).result = .ok a →
          after a (view ((m.catching handler).run s).final) := by
    intro s holds
    have early := traces.linked s holds
    have ended := traces.success s holds
    cases ran : m.run s with
    | mk result t trail =>
        rw [ran] at early ended
        cases result with
        | ok a =>
            have whole : (m.catching handler).run s = ⟨.ok a, t, trail⟩ := by
              simp only [Durable.catching, ran]
            rw [whole]
            exact ⟨early, ended⟩
        | error e =>
            have whole : (m.catching handler).run s = ⟨((handler e).run t).result,
                ((handler e).run t).final, trail ++ ((handler e).run t).trail⟩ := by
              simp only [Durable.catching, ran]
            rw [whole]
            exact ⟨early.append ((handled e).linked t trivial), (handled e).success t trivial⟩
  exact ⟨fun s holds => (step s holds).1, fun s holds => (step s holds).2⟩

/-- A loop over a list keeps what each round keeps. -/
theorem forM {γ : Type} {body : γ → Durable κ σ ε PUnit} (items : List γ)
    (one : ∀ c ∈ items, Traces view moves before (body c) fun _ => before) :
    Traces view moves before (items.forM body) fun _ => before := by
  induction items with
  | nil => exact (pure PUnit.unit).mono (fun _ holds => holds) fun _ _ holds => holds.2
  | cons c rest ih =>
      exact (one c List.mem_cons_self).bind fun _ =>
        ih fun d member => one d (List.mem_cons_of_mem c member)

end Traces

end Traces

end Durable
