/-
# Numbered requests and their answers

A component numbers what it asks for, waits for the answer to at most one
request and may give the request up. A request can have several answers that
come one after the other: once an early answer is in, only a later one is
awaited under the same number. This module says once what follows for every run
of such a component: the numbers increase, what is awaited is the last thing
that was asked for, and no answer is taken twice.

Nothing here depends on what is asked for and which component asks.
-/

import Deskkin.Lib.Runs
import Mathlib.Data.Nat.Basic
import Mathlib.Order.Defs.Unbundled

/-- The number of the last request and the answer that is awaited, if any: the
number of its request and which of the answers to that request it is. -/
@[ext]
structure Tickets (κ : Type*) where
  issued : ℕ
  outstanding : Option (ℕ × κ)

namespace Tickets

variable {κ : Type*} {later : κ → κ → Prop}

/-- Nothing has been asked for. -/
def unused : Tickets κ := ⟨0, none⟩

/-- An answer can be taken only when it is the awaited one. -/
def Answers (tickets : Tickets κ) (settled : Option (ℕ × κ)) : Prop :=
  ∀ answer, settled = some answer → tickets.outstanding = some answer

/-- What one step does: it takes at most one answer and asks for at most one
thing, and what it asks for is then the only thing awaited. -/
inductive Move (later : κ → κ → Prop) :
    Tickets κ → Option (ℕ × κ) → List (ℕ × κ) → Tickets κ → Prop
  | kept {tickets : Tickets κ} : Move later tickets none [] tickets
  | dropped {tickets : Tickets κ} {settled : Option (ℕ × κ)} (answers : tickets.Answers settled) :
      Move later tickets settled [] ⟨tickets.issued, none⟩
  | advanced {tickets : Tickets κ} {id : ℕ} {early late : κ}
      (awaited : tickets.outstanding = some (id, early)) (onward : later early late) :
      Move later tickets (some (id, early)) [] ⟨tickets.issued, some (id, late)⟩
  | issued {tickets : Tickets κ} {settled : Option (ℕ × κ)} {first : κ}
      (answers : tickets.Answers settled) :
      Move later tickets settled [(tickets.issued + 1, first)]
        ⟨tickets.issued + 1, some (tickets.issued + 1, first)⟩

theorem answers_none (tickets : Tickets κ) : tickets.Answers none := by
  intro answer impossible
  cases impossible

variable {tickets : Tickets κ}

/-- Ask for something with the given first answer. -/
theorem Move.ask (later : κ → κ → Prop) (first : κ) {settled : Option (ℕ × κ)}
    (answers : tickets.Answers settled) :
    Move later tickets settled [(tickets.issued + 1, first)]
      ⟨tickets.issued + 1, some (tickets.issued + 1, first)⟩ :=
  .issued answers

variable {before after : Tickets κ} {settled : Option (ℕ × κ)} {new : List (ℕ × κ)}

theorem Move.answers (move : Move later before settled new after) : before.Answers settled := by
  cases move with
  | kept => exact before.answers_none
  | dropped answers => exact answers
  | advanced awaited _ =>
      intro answer same
      cases same
      exact awaited
  | issued answers => exact answers

/-! ## What has been asked for -/

/-- The tickets agree with the list of everything asked for: its numbers
increase up to the last one, and what is awaited answers its last entry. -/
structure Records (later : κ → κ → Prop) (asked : List (ℕ × κ)) (tickets : Tickets κ) : Prop where
  increasing : (asked.map Prod.fst).Pairwise (· < ·)
  bounded : ∀ request ∈ asked, request.1 ≤ tickets.issued
  last : ∀ id kind, tickets.outstanding = some (id, kind) →
    ∃ first, asked.getLast? = some (id, first) ∧ (kind = first ∨ later first kind)

theorem records_unused : Records later [] (unused : Tickets κ) :=
  ⟨by simp, by simp, by simp [unused]⟩

theorem Records.outstanding_le {past : List (ℕ × κ)} (records : Records later past tickets) {id : ℕ}
    {kind : κ} (awaited : tickets.outstanding = some (id, kind)) : id ≤ tickets.issued := by
  obtain ⟨first, last, -⟩ := records.last id kind awaited
  exact records.bounded _ (List.mem_of_getLast? last)

/-- One step keeps the records. -/
theorem Records.move [IsTrans κ later] {past : List (ℕ × κ)}
    (records : Records later past before) (move : Move later before settled new after) :
    Records later (past ++ new) after := by
  cases move with
  | kept => simpa using records
  | dropped _ =>
      rw [List.append_nil]
      exact ⟨records.increasing, records.bounded, by simp⟩
  | @advanced id early late awaited onward =>
      rw [List.append_nil]
      refine ⟨records.increasing, records.bounded, ?_⟩
      intro number kind same
      cases same
      obtain ⟨first, last, stage⟩ := records.last id early awaited
      refine ⟨first, last, .inr ?_⟩
      cases stage with
      | inl same => exact same ▸ onward
      | inr earlier => exact IsTrans.trans _ _ _ earlier onward
  | issued _ =>
      refine ⟨?_, ?_, ?_⟩
      · rw [List.map_append, List.pairwise_append]
        refine ⟨records.increasing, by simp, ?_⟩
        intro number member fresh asked
        obtain ⟨request, here, rfl⟩ := List.mem_map.mp member
        have bound := records.bounded request here
        simp only [List.map_cons, List.map_nil, List.mem_singleton] at asked
        omega
      · intro request member
        rcases List.mem_append.mp member with member | member
        · exact Nat.le_succ_of_le (records.bounded request member)
        · rw [List.mem_singleton.mp member]
      · intro number kind same
        cases same
        exact ⟨_, List.getLast?_concat, .inl rfl⟩

/-! ## No answer is taken twice -/

/-- An answer is spent when what is awaited now lies beyond it: a later request,
or a later answer to the same one. -/
def Spent (later : κ → κ → Prop) (answer : ℕ × κ) (tickets : Tickets κ) : Prop :=
  answer.1 ≤ tickets.issued ∧ ∀ id kind, tickets.outstanding = some (id, kind) →
    answer.1 < id ∨ answer.1 = id ∧ later answer.2 kind

variable {answer : ℕ × κ}

/-- The answer a step takes is spent after it. -/
theorem Move.spent (bounded : answer.1 ≤ before.issued)
    (move : Move later before (some answer) new after) : Spent later answer after := by
  generalize taken : some answer = settled at move
  cases move with
  | kept => cases taken
  | dropped _ => exact ⟨bounded, by simp⟩
  | advanced _ onward =>
      cases taken
      refine ⟨bounded, ?_⟩
      intro number kind same
      cases same
      exact .inr ⟨rfl, onward⟩
  | issued _ =>
      refine ⟨Nat.le_succ_of_le bounded, ?_⟩
      intro number kind same
      cases same
      exact .inl (Nat.lt_succ_of_le bounded)

/-- A spent answer stays spent. -/
theorem Spent.move [IsTrans κ later] (spent : Spent later answer before)
    (move : Move later before settled new after) : Spent later answer after := by
  obtain ⟨bounded, beyond⟩ := spent
  cases move with
  | kept => exact ⟨bounded, beyond⟩
  | dropped _ => exact ⟨bounded, by simp⟩
  | advanced awaited onward =>
      refine ⟨bounded, ?_⟩
      intro number kind same
      cases same
      cases beyond _ _ awaited with
      | inl less => exact .inl less
      | inr same => exact .inr ⟨same.1, IsTrans.trans _ _ _ same.2 onward⟩
  | issued _ =>
      refine ⟨Nat.le_succ_of_le bounded, ?_⟩
      intro number kind same
      cases same
      exact .inl (Nat.lt_succ_of_le bounded)

/-- A spent answer is not the awaited one. -/
theorem Spent.not_outstanding [Std.Irrefl later] (spent : Spent later answer tickets) :
    tickets.outstanding ≠ some answer := by
  intro awaited
  cases spent.2 answer.1 answer.2 awaited with
  | inl less => exact Nat.lt_irrefl _ less
  | inr same => exact Std.Irrefl.irrefl answer.2 same.2

/-! ## Runs -/

universe u v

/-- A system whose steps, seen through its tickets, take answers and ask. -/
structure Ledger {σ : Type u} {α : Type v} (T : StepSystem σ α) (later : κ → κ → Prop) where
  tickets : σ → Tickets κ
  settles : σ → α → Option (ℕ × κ)
  asks : σ → α → List (ℕ × κ)
  initial : ∀ s, T.Initial s → tickets s = unused
  moves : ∀ s a t, T.step s a = some t →
    Move later (tickets s) (settles s a) (asks s a) (tickets t)

namespace Ledger

variable {σ : Type u} {α : Type v} {T : StepSystem σ α} (ledger : Ledger T later)

/-- Everything asked for along a history, oldest first. -/
def asked (past : List (σ × α)) : List (ℕ × κ) :=
  past.flatMap fun entry => ledger.asks entry.1 entry.2

variable {past : List (σ × α)} {s : σ}

theorem records [IsTrans κ later] (run : T.Run past s) :
    Records later (ledger.asked past) (ledger.tickets s) := by
  induction run with
  | start initial =>
      rw [ledger.initial _ initial]
      exact records_unused
  | step _ moved ih =>
      have extended := ih.move (ledger.moves _ _ _ moved)
      simpa [asked] using extended

/-- Whatever answer was taken on the way is spent at the end. -/
theorem spent [IsTrans κ later] (run : T.Run past s) {entry : σ × α} (member : entry ∈ past)
    {answer : ℕ × κ} (settled : ledger.settles entry.1 entry.2 = some answer) :
    Spent later answer (ledger.tickets s) := by
  induction run with
  | start _ => cases member
  | step earlier moved ih =>
      have move := ledger.moves _ _ _ moved
      rcases List.mem_append.mp member with member | member
      · exact (ih member).move move
      · cases List.mem_singleton.mp member
        have awaited := move.answers answer settled
        rw [settled] at move
        exact move.spent ((ledger.records earlier).outstanding_le awaited)

/-- **Exactly once.** An answer taken on the way is not awaited at the end. -/
theorem not_outstanding_of_settled [IsStrictOrder κ later] (run : T.Run past s)
    {entry : σ × α} (member : entry ∈ past) {answer : ℕ × κ}
    (settled : ledger.settles entry.1 entry.2 = some answer) :
    (ledger.tickets s).outstanding ≠ some answer :=
  (ledger.spent run member settled).not_outstanding

end Ledger

end Tickets
