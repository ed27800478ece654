/-
# Positions in a stable sort

Insertion sort is stable: of two elements that are as good as each other the one
that came first stays first. The last theorem counts what a list holds behind one
of its elements once it is sorted: the elements before it that are strictly greater
and the elements after it that are at least as great.
-/

import Mathlib.Data.List.Sort

universe u

namespace StableSort

variable {α : Type u} (r : α → α → Prop) [DecidableRel r]

/-- An element that may stand before `x` is inserted before it. -/
theorem orderedInsert_before {x y : α} (before after : List α) (small : r y x) :
    ∃ before', (before ++ x :: after).orderedInsert r y = before' ++ x :: after := by
  induction before with
  | nil => exact ⟨[y], by simp [small]⟩
  | cons b before ih =>
      by_cases here : r y b
      · exact ⟨y :: b :: before, by simp [here]⟩
      · obtain ⟨before', inserted⟩ := ih
        exact ⟨b :: before', by simp [here, inserted]⟩

/-- An element that may stand before none of these is inserted behind them. -/
theorem orderedInsert_behind {y : α} (before after : List α) (great : ∀ b ∈ before, ¬r y b) :
    (before ++ after).orderedInsert r y = before ++ after.orderedInsert r y := by
  induction before with
  | nil => rfl
  | cons b before ih =>
      have here := great b List.mem_cons_self
      have rest := ih fun c member => great c (List.mem_cons_of_mem _ member)
      simp [here, rest]

/-- In a sorted list the elements that `x` may stand before are at the end. -/
theorem length_dropWhile_of_pairwise [IsTrans α r] {x : α} {items : List α}
    (sorted : items.Pairwise r) :
    (items.dropWhile fun b => ¬r x b).length = items.countP fun b => r x b := by
  induction items with
  | nil => rfl
  | cons b items ih =>
      obtain ⟨least, sorted⟩ := List.pairwise_cons.mp sorted
      by_cases here : r x b
      · have all : ∀ c ∈ b :: items, r x c := by
          intro c member
          rcases List.mem_cons.mp member with rfl | later
          · exact here
          · exact Trans.trans here (least c later)
        rw [List.countP_eq_length.mpr fun c member => by simpa using all c member]
        simp [here]
      · rw [List.countP_cons_of_neg (by simpa using here), ← ih sorted]
        simp [here]

/-- What stands behind an element once the list is sorted. -/
theorem insertionSort_split [IsTrans α r] [Std.Total r] (front behind : List α) (x : α) :
    ∃ before after, (front ++ x :: behind).insertionSort r = before ++ x :: after ∧
      after.length = (front.countP fun y => ¬r y x) + behind.countP fun y => r x y := by
  induction front with
  | nil =>
      refine ⟨_, _, List.orderedInsert_eq_take_drop r x (behind.insertionSort r), ?_⟩
      rw [length_dropWhile_of_pairwise r (List.pairwise_insertionSort r behind),
        (List.perm_insertionSort r behind).countP_eq]
      simp
  | cons y front ih =>
      obtain ⟨before, after, split, length⟩ := ih
      have sorted := List.pairwise_insertionSort r (front ++ x :: behind)
      rw [split] at sorted
      rw [List.cons_append, List.insertionSort_cons, split]
      by_cases small : r y x
      · obtain ⟨before', inserted⟩ := orderedInsert_before r before after small
        refine ⟨before', after, inserted, ?_⟩
        rw [length, List.countP_cons_of_neg (by simpa using small)]
      · have great : ∀ b ∈ before ++ [x], ¬r y b := by
          intro b member least
          rcases List.mem_append.mp member with early | last
          · exact small (Trans.trans least
              ((List.pairwise_append.mp sorted).2.2 b early x List.mem_cons_self))
          · rw [List.mem_singleton.mp last] at least
            exact small least
        refine ⟨before, after.orderedInsert r y, ?_, ?_⟩
        · have behindX := orderedInsert_behind r (before ++ [x]) after great
          rwa [List.append_assoc, List.append_assoc] at behindX
        · rw [List.orderedInsert_length, length, List.countP_cons_of_pos (by simpa using small)]
          omega

end StableSort
