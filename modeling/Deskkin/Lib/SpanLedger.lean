/-
# Spans and their log

Spans are kept open under keys, and a log says when a span with an identity was opened and
closed. As long as no span is opened under a key or an identity that is in use, every
opening in the log is either that of a span that is still open or is followed by exactly one
closing. A span that is replaced under its key would be neither.
-/

import Mathlib.Data.List.Basic
import Mathlib.Data.List.Nodup
import Mathlib.Data.List.Perm.Basic

/-- What the entries of a log open and close. -/
structure SpanEvents (α ι : Type) where
  opened : α → Option ι
  closed : α → Option ι
  exclusive : ∀ a, opened a = none ∨ closed a = none

namespace SpanEvents

variable {α κ ι : Type} [DecidableEq ι] (events : SpanEvents α ι)

/-- The entries that close the span. -/
def closings (id : ι) (log : List α) : List α :=
  log.filter fun a => events.closed a = some id

/-- The spans are what the log has left open, and all others are closed once. -/
structure Accounted (spans : List (κ × ι)) (log : List α) : Prop where
  keys : (spans.map Prod.fst).Nodup
  ids : (spans.map Prod.snd).Nodup
  waiting : ∀ id ∈ spans.map Prod.snd, events.closings id log = []
  settled : ∀ before a after id, log = before ++ a :: after → events.opened a = some id →
    id ∈ spans.map Prod.snd ∨
      (events.closings id before = [] ∧ ∃ last, events.closings id after = [last])

variable {events} {spans : List (κ × ι)} {log : List α} {a : α} {key : κ} {id : ι}

theorem closings_append (one two : List α) :
    events.closings id (one ++ two) = events.closings id one ++ events.closings id two :=
  List.filter_append _ _

theorem closings_singleton_of_ne {other : Option ι} (closed : events.closed a = other)
    (ne : other ≠ some id) : events.closings id [a] = [] := by
  rw [closings, List.filter_singleton, closed, decide_eq_false ne]
  rfl

theorem closings_singleton (closed : events.closed a = some id) :
    events.closings id [a] = [a] := by
  rw [closings, List.filter_singleton, closed, decide_eq_true rfl]
  rfl

/-- A log that has grown was split before, or is split at what is new. -/
theorem split_concat {before after : List α} {b : α} (split : log ++ [a] = before ++ b :: after) :
    (∃ rest, after = rest ++ [a] ∧ log = before ++ b :: rest) ∨
      (after = [] ∧ a = b ∧ log = before) := by
  rcases List.eq_nil_or_concat' after with rfl | ⟨rest, last, rfl⟩
  · obtain ⟨same, tail⟩ := List.append_inj' split rfl
    exact Or.inr ⟨rfl, List.head_eq_of_cons_eq tail, same⟩
  · rw [← List.cons_append, ← List.append_assoc] at split
    obtain ⟨same, tail⟩ := List.append_inj' split rfl
    exact Or.inl ⟨rest, by rw [List.head_eq_of_cons_eq tail], same⟩

theorem accounted_nil : events.Accounted ([] : List (κ × ι)) [] :=
  ⟨List.nodup_nil, List.nodup_nil, fun _ member => absurd member List.not_mem_nil,
    fun before a after id split => by simp at split⟩

variable (accounted : events.Accounted spans log)
include accounted

/-- A span is opened under a key and with an identity that are not in use. -/
theorem Accounted.opening (opened : events.opened a = some id) (free : key ∉ spans.map Prod.fst)
    (unused : id ∉ spans.map Prod.snd) (unclosed : events.closings id log = []) :
    events.Accounted (spans ++ [(key, id)]) (log ++ [a]) := by
  have closed : events.closed a = none :=
    (events.exclusive a).resolve_left (by rw [opened]; exact Option.some_ne_none id)
  have same : ∀ other, events.closings other [a] = [] := fun other =>
    closings_singleton_of_ne closed (Option.some_ne_none other).symm
  refine ⟨?_, ?_, ?_, ?_⟩
  · rw [List.map_append, List.map_singleton, ← List.concat_eq_append]
    exact accounted.keys.concat free
  · rw [List.map_append, List.map_singleton, ← List.concat_eq_append]
    exact accounted.ids.concat unused
  · intro other member
    rw [closings_append, same, List.append_nil]
    rw [List.map_append, List.mem_append] at member
    rcases member with old | new
    · exact accounted.waiting other old
    · rw [List.mem_singleton.mp new]
      exact unclosed
  · intro before b after other split here
    rw [List.map_append, List.mem_append]
    rcases split_concat split with ⟨rest, rfl, old⟩ | ⟨rfl, rfl, rfl⟩
    · rw [closings_append, same, List.append_nil]
      exact (accounted.settled before b rest other old here).imp_left Or.inl
    · rw [opened] at here
      cases here
      exact Or.inl (Or.inr (List.mem_singleton_self _))

/-- An entry that neither opens nor closes. -/
theorem Accounted.passing (opened : events.opened a = none) (closed : events.closed a = none) :
    events.Accounted spans (log ++ [a]) := by
  have same : ∀ other, events.closings other [a] = [] := fun other =>
    closings_singleton_of_ne closed (Option.some_ne_none other).symm
  refine ⟨accounted.keys, accounted.ids, fun other member => ?_, ?_⟩
  · rw [closings_append, same, List.append_nil]
    exact accounted.waiting other member
  · intro before b after other split here
    rcases split_concat split with ⟨rest, rfl, old⟩ | ⟨rfl, rfl, rfl⟩
    · rw [closings_append, same, List.append_nil]
      exact accounted.settled before b rest other old here
    · rw [opened] at here
      cases here

omit accounted in
/-- A span that is open is closed. -/
theorem Accounted.closing {front back : List (κ × ι)}
    (accounted : events.Accounted (front ++ (key, id) :: back) log)
    (closed : events.closed a = some id) : events.Accounted (front ++ back) (log ++ [a]) := by
  have opened : events.opened a = none :=
    (events.exclusive a).resolve_right (by rw [closed]; exact Option.some_ne_none id)
  obtain ⟨keys, ids, waiting, settled⟩ := accounted
  simp only [List.map_append, List.map_cons] at keys ids waiting settled
  have apart : id ∉ front.map Prod.snd ++ back.map Prod.snd := (List.nodup_middle.mp ids).notMem
  have mine := waiting id (List.mem_append_right _ List.mem_cons_self)
  have others : ∀ {other}, other ≠ id → events.closings other [a] = [] := fun ne =>
    closings_singleton_of_ne closed fun same => ne (Option.some.inj same).symm
  refine ⟨?_, ?_, ?_, ?_⟩
  · rw [List.map_append]
    exact (List.nodup_middle.mp keys).of_cons
  · rw [List.map_append]
    exact (List.nodup_middle.mp ids).of_cons
  · intro other member
    rw [List.map_append] at member
    have ne : other ≠ id := fun same => apart (same ▸ member)
    rw [closings_append, others ne, List.append_nil]
    apply waiting
    rw [List.mem_append, List.mem_cons]
    exact (List.mem_append.mp member).imp_right Or.inr
  · intro before b after other split here
    rw [List.map_append]
    rcases split_concat split with ⟨rest, rfl, old⟩ | ⟨rfl, rfl, rfl⟩
    · by_cases own : other = id
      · subst own
        rw [old, closings_append, List.append_eq_nil_iff] at mine
        refine Or.inr ⟨mine.1, a, ?_⟩
        have after : events.closings other (b :: rest) = [] := mine.2
        rw [← List.singleton_append, closings_append, List.append_eq_nil_iff] at after
        rw [closings_append, after.2, closings_singleton closed]
        rfl
      · rw [closings_append, others own, List.append_nil]
        refine (settled before b rest other old here).imp_left fun member => ?_
        rw [List.mem_append, List.mem_cons] at member
        exact List.mem_append.mpr (member.imp_right fun either => either.resolve_left own)
    · rw [opened] at here
      cases here

/-- The order of the spans does not matter. -/
theorem Accounted.perm {others : List (κ × ι)} (same : others.Perm spans) :
    events.Accounted others log := by
  have members : ∀ {id}, id ∈ others.map Prod.snd ↔ id ∈ spans.map Prod.snd :=
    (same.map Prod.snd).mem_iff
  refine ⟨(same.map _).nodup_iff.mpr accounted.keys, (same.map _).nodup_iff.mpr accounted.ids,
    fun id member => accounted.waiting id (members.mp member), ?_⟩
  intro before a after id split here
  exact (accounted.settled before a after id split here).imp_left members.mpr

end SpanEvents
