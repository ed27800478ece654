/-
# Two runs in lockstep

A computation over durable storage is started twice, from two states that differ in what
it does not depend on. The rules say that the two runs come to the same result and end in
related states. The second run is the one that is known: only its trail is asked for, and
the rules may demand of each of its updates that it stays clear of the difference.
-/

import Deskkin.Lib.Durable

namespace Durable

variable {κ σ ε α β : Type}

/-- Two outcomes with one result, whose final states are related as it says. -/
inductive Outcome.Matched (after : α → σ → σ → Prop) (failed : σ → σ → Prop) :
    Outcome κ σ ε α → Outcome κ σ ε α → Prop
  | ok {s t : σ} {trail other : List (κ × σ)} (a : α) (related : after a s t) :
      Matched after failed ⟨.ok a, s, trail⟩ ⟨.ok a, t, other⟩
  | error {s t : σ} {trail other : List (κ × σ)} (e : ε) (related : failed s t) :
      Matched after failed ⟨.error e, s, trail⟩ ⟨.error e, t, other⟩

/-- From related states the computation comes to matching outcomes, as long as the second
run only makes updates that are `clear`. -/
def Lockstep (clear : κ × σ → Prop) (before : σ → σ → Prop) (m : Durable κ σ ε α)
    (after : α → σ → σ → Prop) (failed : σ → σ → Prop) : Prop :=
  ∀ s t, before s t → (∀ entry ∈ (m.run t).trail, clear entry) →
    Outcome.Matched after failed (m.run s) (m.run t)

variable {one two : Outcome κ σ ε α} {after : α → σ → σ → Prop}

theorem Outcome.Matched.result_eq {failed : σ → σ → Prop}
    (matched : Outcome.Matched after failed one two) : one.result = two.result := by
  cases matched with
  | ok => rfl
  | error => rfl

/-- Where both ends are known to be related alike the result does not matter. -/
theorem Outcome.Matched.final {last : σ → σ → Prop}
    (matched : Outcome.Matched (fun _ => last) last one two) : last one.final two.final := by
  cases matched with
  | ok _ related => exact related
  | error _ related => exact related

/-- What was done before does not matter. -/
theorem Outcome.Matched.append {failed : σ → σ → Prop}
    (matched : Outcome.Matched after failed one two) (early earlier : List (κ × σ)) :
    Outcome.Matched after failed ⟨one.result, one.final, early ++ one.trail⟩
      ⟨two.result, two.final, earlier ++ two.trail⟩ := by
  cases matched with
  | ok a related => exact .ok a related
  | error e related => exact .error e related

namespace Lockstep

variable {clear : κ × σ → Prop} {before : σ → σ → Prop} {failed : σ → σ → Prop}

theorem bind {first : Durable κ σ ε α} {rest : α → Durable κ σ ε β} {middle : α → σ → σ → Prop}
    {after : β → σ → σ → Prop} (one : Lockstep clear before first middle failed)
    (two : ∀ a, Lockstep clear (middle a) (rest a) after failed) :
    Lockstep clear before (first >>= rest) after failed := by
  intro s t related unharmed
  cases ran : first.run t with
  | mk result known trail =>
      cases result with
      | error e =>
          rw [run_bind_of_error rest ran] at unharmed ⊢
          have matched := one s t related (by rwa [ran])
          rw [ran] at matched
          cases follows : first.run s with
          | mk answer reached other =>
              rw [follows] at matched
              cases matched with
              | error _ left =>
                  rw [run_bind_of_error rest follows]
                  exact .error e left
      | ok a =>
          rw [run_bind_of_ok rest ran] at unharmed ⊢
          have matched := one s t related fun entry member =>
            unharmed entry (List.mem_append_left _ (by rwa [ran] at member))
          rw [ran] at matched
          cases follows : first.run s with
          | mk answer reached other =>
              rw [follows] at matched
              cases matched with
              | ok _ left =>
                  rw [run_bind_of_ok rest follows]
                  exact (two a reached known left fun entry member =>
                    unharmed entry (List.mem_append_right _ member)).append other trail

variable {after : α → σ → σ → Prop} {m : Durable κ σ ε α}

theorem catching {handler : ε → Durable κ σ ε α} {caught : σ → σ → Prop}
    (one : Lockstep clear before m after caught)
    (handled : ∀ e, Lockstep clear caught (handler e) after failed) :
    Lockstep clear before (m.catching handler) after failed := by
  intro s t related unharmed
  cases ran : m.run t with
  | mk result known trail =>
      cases follows : m.run s with
      | mk answer reached other =>
          have matched := one s t related
          rw [ran, follows] at matched
          cases result with
          | ok a =>
              simp only [Durable.catching, ran, follows] at unharmed ⊢
              cases matched unharmed with
              | ok _ left => exact .ok a left
          | error e =>
              simp only [Durable.catching, ran, follows] at unharmed ⊢
              cases matched fun entry member => unharmed entry (List.mem_append_left _ member) with
              | error _ left =>
                  exact (handled e reached known left fun entry member =>
                    unharmed entry (List.mem_append_right _ member)).append other trail

theorem mono {stricter : σ → σ → Prop} {after looser : α → σ → σ → Prop} {lost : σ → σ → Prop}
    (lockstep : Lockstep clear before m after failed) (entry : ∀ s t, stricter s t → before s t)
    (leave : ∀ a s t, after a s t → looser a s t) (left : ∀ s t, failed s t → lost s t) :
    Lockstep clear stricter m looser lost := by
  intro s t related unharmed
  have matched := lockstep s t (entry s t related) unharmed
  cases ran : m.run t with
  | mk result last trail =>
      cases follows : m.run s with
      | mk answer final other =>
          rw [ran, follows] at matched
          cases matched with
          | ok a related => exact .ok a (leave a _ _ related)
          | error e related => exact .error e (left _ _ related)

/-- Both runs find the same. -/
theorem read {f : σ → Except ε α} (same : ∀ s t, before s t → f s = f t)
    (found : ∀ s t a, before s t → f t = .ok a → after a s t)
    (missed : ∀ s t, before s t → failed s t) :
    Lockstep clear before (Durable.read f : Durable κ σ ε α) after failed := by
  intro s t related _
  have agree := same s t related
  cases value : f t with
  | ok a =>
      rw [run_read, run_read, agree, value]
      exact .ok a (found s t a related value)
  | error e =>
      rw [run_read, run_read, agree, value]
      exact .error e (missed s t related)

theorem pure {a : α} (found : ∀ s t, before s t → after a s t) :
    Lockstep clear before (Pure.pure a : Durable κ σ ε α) after failed :=
  fun s t related _ => .ok a (found s t related)

theorem fail {e : ε} (missed : ∀ s t, before s t → failed s t) :
    Lockstep clear before (Durable.fail e : Durable κ σ ε α) after failed :=
  fun s t related _ => .error e (missed s t related)

/-- A loop over one list stays in lockstep if each round does. -/
theorem forM {γ : Type} {body : γ → Durable κ σ ε PUnit} (items : List γ)
    (one : ∀ c ∈ items, Lockstep clear before (body c) (fun _ => before) failed) :
    Lockstep clear before (items.forM body) (fun _ => before) failed := by
  induction items with
  | nil => exact pure fun _ _ related => related
  | cons c rest ih =>
      exact (one c List.mem_cons_self).bind fun _ =>
        ih fun d member => one d (List.mem_cons_of_mem c member)

end Lockstep

end Durable
