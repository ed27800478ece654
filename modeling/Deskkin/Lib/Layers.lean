/-
# Layers that hide one another

The painter's algorithm draws layers over a ground one after another, at each place
on what is there. Where a layer does not depend on what is below it, everything below
it may be left out. A cutoff says for each place up to which layer that is done.
-/

import Mathlib.Data.List.Basic
import Mathlib.Tactic.Common

universe u v

namespace Layers

variable {ι : Type u} {α : Type v}

/-- What is at a place after all layers. -/
def paint (layers : List (ι → α → α)) (i : ι) (a : α) : α :=
  layers.foldl (fun a layer => layer i a) a

/-- A layer hides what is below it. -/
def Solid (layer : ι → α → α) (i : ι) : Prop := ∀ a b, layer i a = layer i b

/-- Layers are left out where their number is below the cutoff. -/
def culled (cutoff : ι → ℕ) (first : ℕ) : List (ι → α → α) → List (ι → α → α)
  | [] => []
  | layer :: layers =>
      (fun i a => if first + 1 < cutoff i then a else layer i a) ::
        culled cutoff (first + 1) layers

theorem paint_cons (layer : ι → α → α) (layers : List (ι → α → α)) (i : ι) (a : α) :
    paint (layer :: layers) i a = paint layers i (layer i a) :=
  rfl

variable {layers : List (ι → α → α)} {cutoff : ι → ℕ} {i : ι} {first : ℕ}

/-- A place without layers to leave out. -/
theorem paint_culled_of_le (low : cutoff i ≤ first + 1) (a : α) :
    paint (culled cutoff first layers) i a = paint layers i a := by
  induction layers generalizing first a with
  | nil => rfl
  | cons layer layers ih =>
      rw [culled, paint_cons, paint_cons, if_neg (by omega)]
      exact ih (by omega) _

/-- Below a solid layer neither the ground nor the layers matter. -/
theorem paint_culled_of_solid {first depth : ℕ} {layer : ι → α → α}
    (cut : cutoff i = first + depth + 1) (found : layers[depth]? = some layer)
    (solid : Solid layer i) (a b : α) :
    paint (culled cutoff first layers) i a = paint layers i b := by
  induction depth generalizing first layers a b with
  | zero =>
      cases layers with
      | nil => cases found
      | cons top layers =>
          cases found
          rw [culled, paint_cons, paint_cons, if_neg (by omega), solid a b]
          exact paint_culled_of_le (by omega) _
  | succ depth ih =>
      cases layers with
      | nil => cases found
      | cons top layers =>
          rw [culled, paint_cons, paint_cons, if_pos (by omega)]
          exact ih (by omega) found _ _

/-- Where no layer draws anything, nothing changes. -/
theorem paint_culled_of_id (same : ∀ layer ∈ layers, ∀ a, layer i a = a) (a : α) :
    paint (culled cutoff first layers) i a = a := by
  induction layers generalizing first a with
  | nil => rfl
  | cons layer layers ih =>
      rw [culled, paint_cons, same layer List.mem_cons_self, ite_self]
      exact ih (fun other member => same other (List.mem_cons_of_mem _ member)) _

/-- Layers that agree up to a change of representation come to the same. -/
theorem paint_culled_conj {f : α → α} {layers images : List (ι → α → α)}
    (agree : List.Forall₂ (fun layer image => ∀ a, image i (f a) = f (layer i a)) layers images)
    (a : α) :
    paint (culled cutoff first images) i (f a) = f (paint (culled cutoff first layers) i a) := by
  induction agree generalizing first a with
  | nil => rfl
  | cons same _ ih =>
      rw [culled, culled, paint_cons, paint_cons]
      split
      · exact ih a
      · rw [same, ih]

/-- **Culling is sound.** Every cutoff names a solid layer, and the ground is there
where nothing is cut off. -/
theorem paint_culled
    (sound : cutoff i ≠ 0 → ∃ layer, layers[cutoff i - 1]? = some layer ∧ Solid layer i) {a b : α}
    (ground : cutoff i = 0 → a = b) : paint (culled cutoff 0 layers) i a = paint layers i b := by
  by_cases cut : cutoff i = 0
  · rw [ground cut]
    exact paint_culled_of_le (by omega) b
  · obtain ⟨layer, found, solid⟩ := sound cut
    exact paint_culled_of_solid (by omega) found solid a b

end Layers
