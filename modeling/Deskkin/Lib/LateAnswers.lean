/-
# Late answers

A client asks a server one question at a time and does not wait for ever. When it gives
up, it takes the question back if the server has not taken it yet, and goes on to the next
one. The server knows nothing of this. It has one question at a time and answers every
question it has taken, so that an answer may arrive when the client is waiting for the
answer to another question. The client passes over answers that are not the one it waits
for.

Under way are the answers the client has not read, the question the server has and the
questions it has not taken. As long as no question is asked again while it is under way,
the question the client waits for is the last of them, and reading its answer leaves
nothing under way. A client that gives up only where there is nothing to read, or where
it has already passed over an answer, never leaves more than one question behind.

Nothing here depends on what the questions are.
-/

import Mathlib.Data.List.Nodup

/-- What the client waits for and whether it has passed over an answer meanwhile, the
questions the server has not taken and the one it has, and the questions whose answers
the client has not read. All lists are oldest first. -/
structure Exchange (α : Type*) where
  asked : Option α
  skipped : Bool
  queued : List α
  held : Option α
  answered : List α

namespace Exchange

variable {α : Type*} {exchange after : Exchange α} {stale : List α}

/-- The questions under way, oldest first. -/
def underWay (exchange : Exchange α) : List α :=
  exchange.answered ++ (exchange.held.toList ++ exchange.queued)

/-- What can happen next. The question asked is not under way, the client gives up only
where it is allowed to, and an answer may be lost. -/
inductive Move (allowed : Exchange α → Prop) (exchange : Exchange α) : Exchange α → Prop
  | ask (question : α) (idle : exchange.asked = none) (new : question ∉ exchange.underWay) :
      Move allowed exchange { exchange with
        asked := some question, skipped := false, queued := exchange.queued ++ [question] }
  | take (question : α) (rest : List α) (free : exchange.held = none)
      (next : exchange.queued = question :: rest) :
      Move allowed exchange { exchange with held := some question, queued := rest }
  | answer (question : α) (busy : exchange.held = some question) :
      Move allowed exchange { exchange with
        held := none, answered := exchange.answered ++ [question] }
  | lose : Move allowed exchange { exchange with held := none }
  | accept (question : α) (rest : List α) (waiting : exchange.asked = some question)
      (next : exchange.answered = question :: rest) :
      Move allowed exchange { exchange with asked := none, skipped := false, answered := rest }
  | skip (waiting : exchange.asked.isSome) (question : α) (rest : List α)
      (next : exchange.answered = question :: rest) :
      Move allowed exchange { exchange with skipped := true, answered := rest }
  | giveUp (waiting : exchange.asked.isSome) (may : allowed exchange) :
      Move allowed exchange { exchange with asked := none, skipped := false, queued := [] }

/-- Where the question the client waits for is: not taken, taken, or lost because the
client passed over its answer. `stale` are the other questions under way. -/
inductive Standing (exchange : Exchange α) (stale : List α) : Prop
  | idle (asked : exchange.asked = none) (queued : exchange.queued = [])
      (others : exchange.underWay = stale)
  | waiting (question : α) (asked : exchange.asked = some question)
      (queued : exchange.queued = [question])
      (others : exchange.answered ++ exchange.held.toList = stale)
  | taken (question : α) (asked : exchange.asked = some question)
      (queued : exchange.queued = []) (others : exchange.underWay = stale ++ [question])
  | lost (question : α) (asked : exchange.asked = some question)
      (queued : exchange.queued = []) (missing : question ∉ exchange.underWay)
      (others : exchange.underWay = stale)

/-- No question is under way twice, and the one the client waits for is the last. -/
def Sound (exchange : Exchange α) : Prop :=
  exchange.underWay.Nodup ∧ ∃ stale, exchange.Standing stale

/-- Sound, with one stale question at most, and none once an answer was passed over. -/
def Timely (exchange : Exchange α) : Prop :=
  exchange.underWay.Nodup ∧ ∃ stale, exchange.Standing stale ∧ stale.length ≤ 1 ∧
    (exchange.asked.isSome → exchange.skipped → stale = [])

/-- The client gives up where it has nothing to read or has passed over an answer. -/
def Patient (exchange : Exchange α) : Prop := exchange.answered = [] ∨ exchange.skipped

theorem Timely.sound (timely : exchange.Timely) : exchange.Sound := by
  obtain ⟨distinct, stale, standing, _⟩ := timely
  exact ⟨distinct, stale, standing⟩

/-- Nothing waits for the server but the question the client waits for. -/
theorem Standing.queued (standing : exchange.Standing stale) :
    exchange.queued = [] ∨ ∃ question, exchange.asked = some question ∧
      exchange.queued = [question] := by
  cases standing with
  | idle asked queued others => exact Or.inl queued
  | waiting question asked queued others => exact Or.inr ⟨question, asked, queued⟩
  | taken question asked queued others => exact Or.inl queued
  | lost question asked queued missing others => exact Or.inl queued

theorem Standing.queued_idle (standing : exchange.Standing stale) (idle : exchange.asked = none) :
    exchange.queued = [] := by
  cases standing.queued with
  | inl queued => exact queued
  | inr waiting =>
      obtain ⟨question, asked, _⟩ := waiting
      rw [asked] at idle
      cases idle

/-- At most the stale questions and one more are under way. -/
theorem Standing.length_underWay (standing : exchange.Standing stale) :
    exchange.underWay.length ≤ stale.length + 1 := by
  cases standing with
  | idle asked queued others => rw [others]; exact Nat.le_succ _
  | waiting question asked queued others =>
      apply Nat.le_of_eq
      rw [underWay, queued, ← List.append_assoc, others, List.length_append,
        List.length_singleton]
  | taken question asked queued others =>
      apply Nat.le_of_eq
      rw [others, List.length_append, List.length_singleton]
  | lost question asked queued missing others => rw [others]; exact Nat.le_succ _

variable {question : α} {rest : List α} {allowed : Exchange α → Prop}

/-- **Accepting an answer leaves nothing under way.** -/
theorem Standing.accepted (standing : exchange.Standing stale) (distinct : exchange.underWay.Nodup)
    (asked : exchange.asked = some question) (next : exchange.answered = question :: rest) :
    rest = [] ∧ exchange.held = none ∧ exchange.queued = [] := by
  have member : question ∈ exchange.underWay := by
    rw [underWay, next]
    exact List.mem_append_left _ List.mem_cons_self
  cases standing with
  | idle free queued others =>
      rw [asked] at free
      cases free
  | waiting other same queued others =>
      rw [asked] at same
      cases same
      rw [underWay, next, queued, List.cons_append, List.nodup_cons] at distinct
      exact absurd (by simp) distinct.1
  | taken other same queued others =>
      rw [asked] at same
      cases same
      rw [others] at distinct
      have first : stale = [] := by
        cases stale with
        | nil => rfl
        | cons head tail =>
            rw [underWay, next, List.cons_append, List.cons_append] at others
            obtain ⟨rfl, -⟩ := List.cons.inj others
            exact absurd (by simp) (List.nodup_cons.mp distinct).1
      rw [first, underWay, next, List.nil_append, List.cons_append] at others
      have nothing := (List.cons.inj others).2
      rw [List.append_eq_nil_iff, List.append_eq_nil_iff, Option.toList_eq_nil_iff] at nothing
      exact nothing
  | lost other same queued missing others =>
      rw [asked] at same
      cases same
      exact absurd member missing

/-! ## One move -/

theorem underWay_asked (question : α) (skipped : Bool) :
    ({ exchange with
        asked := some question, skipped := skipped, queued := exchange.queued ++ [question] } :
      Exchange α).underWay =
      exchange.underWay ++ [question] := by
  simp only [underWay, List.append_assoc]

theorem underWay_taken (free : exchange.held = none) (next : exchange.queued = question :: rest) :
    ({ exchange with held := some question, queued := rest } : Exchange α).underWay =
      exchange.underWay := by
  simp only [underWay, free, next, Option.toList_some, Option.toList_none, List.nil_append,
    List.singleton_append]

theorem underWay_answered (busy : exchange.held = some question) :
    ({ exchange with held := none, answered := exchange.answered ++ [question] } :
      Exchange α).underWay = exchange.underWay := by
  simp only [underWay, busy, Option.toList_some, Option.toList_none, List.nil_append,
    List.append_assoc]

theorem underWay_read (next : exchange.answered = question :: rest) :
    exchange.underWay = question :: (rest ++ (exchange.held.toList ++ exchange.queued)) := by
  rw [underWay, next]
  rfl

theorem underWay_purged :
    ({ exchange with asked := none, skipped := false, queued := [] } : Exchange α).underWay =
      exchange.answered ++ exchange.held.toList := by
  rw [underWay, List.append_nil]

/-- A move keeps the questions under way distinct. -/
theorem Move.nodup (move : Move allowed exchange after) (distinct : exchange.underWay.Nodup) :
    after.underWay.Nodup := by
  cases move with
  | ask question idle new =>
      rw [underWay_asked, ← List.concat_eq_append]
      exact distinct.concat new
  | take question rest free next =>
      rw [underWay_taken free next]
      exact distinct
  | answer question busy =>
      rw [underWay_answered busy]
      exact distinct
  | lose =>
      refine distinct.sublist (List.Sublist.append (.refl _) ?_)
      exact List.sublist_append_right _ _
  | accept question rest waiting next =>
      rw [underWay_read next] at distinct
      exact (List.nodup_cons.mp distinct).2
  | skip waiting question rest next =>
      rw [underWay_read next] at distinct
      exact (List.nodup_cons.mp distinct).2
  | giveUp waiting may =>
      rw [underWay_purged]
      rw [underWay, ← List.append_assoc] at distinct
      exact distinct.of_append_left

section

variable (standing : exchange.Standing stale)
include standing

theorem Standing.asked (idle : exchange.asked = none) (question : α) :
    ({ exchange with
        asked := some question, skipped := false, queued := exchange.queued ++ [question] } :
      Exchange α).Standing stale := by
  have empty := standing.queued_idle idle
  cases standing with
  | idle asked queued others =>
      refine .waiting question rfl (by rw [queued]; rfl) ?_
      rw [← others, underWay, queued, List.append_nil]
  | waiting other asked queued others =>
      rw [queued] at empty
      cases empty
  | taken other asked queued others =>
      rw [idle] at asked
      cases asked
  | lost other asked queued missing others =>
      rw [idle] at asked
      cases asked

theorem Standing.queue_taken (free : exchange.held = none)
    (next : exchange.queued = question :: rest) :
    ({ exchange with held := some question, queued := rest } : Exchange α).Standing stale := by
  cases standing with
  | waiting other asked queued others =>
      have same := queued
      rw [next] at same
      obtain ⟨rfl, rfl⟩ := List.cons.inj same
      refine .taken question asked rfl ?_
      rw [underWay_taken free next, underWay, queued, ← List.append_assoc, others]
  | idle asked queued others | taken _ asked queued others | lost _ asked queued missing others =>
      rw [next] at queued
      cases queued

theorem Standing.held_answered (busy : exchange.held = some question) :
    ({ exchange with held := none, answered := exchange.answered ++ [question] } :
      Exchange α).Standing stale := by
  have same := underWay_answered busy
  cases standing with
  | idle asked queued others => exact .idle asked queued (same.trans others)
  | waiting other asked queued others =>
      refine .waiting other asked queued ?_
      rw [← others, busy]
      exact List.append_nil _
  | taken other asked queued others => exact .taken other asked queued (same.trans others)
  | lost other asked queued missing others =>
      exact .lost other asked queued (same ▸ missing) (same.trans others)

/-- A lost answer is a stale one or the one the client waits for. -/
theorem Standing.held_lost (distinct : exchange.underWay.Nodup) :
    ∃ left, ({ exchange with held := none } : Exchange α).Standing left ∧
      left.length ≤ stale.length := by
  have shorter : ({ exchange with held := none } : Exchange α).underWay.length ≤
      exchange.underWay.length := by
    simp only [underWay, List.length_append, Option.toList_none, List.length_nil]
    omega
  cases standing with
  | idle asked queued others => exact ⟨_, .idle asked queued rfl, others ▸ shorter⟩
  | waiting question asked queued others =>
      refine ⟨exchange.answered, .waiting question asked queued (List.append_nil _), ?_⟩
      rw [← others, List.length_append]
      exact Nat.le_add_right _ _
  | taken question asked queued others =>
      cases held : exchange.held with
      | none =>
          refine ⟨stale, .taken question asked queued ?_, Nat.le_refl _⟩
          rw [← others, underWay, underWay, held]
      | some last =>
          have split : exchange.answered ++ [last] = stale ++ [question] := by
            rw [← others, underWay, held, queued]
            rfl
          have answered : exchange.answered = stale := (List.append_inj' split rfl).1
          have rest : ({ exchange with held := none } : Exchange α).underWay = stale := by
            simp only [underWay, queued, answered, Option.toList_none, List.append_nil]
          refine ⟨stale, .lost question asked queued ?_ rest, Nat.le_refl _⟩
          rw [rest]
          rw [others, List.nodup_append] at distinct
          intro member
          exact distinct.2.2 question member question (List.mem_singleton_self _) rfl
  | lost question asked queued missing others =>
      refine ⟨_, .lost question asked queued ?_ rfl, others ▸ shorter⟩
      intro member
      apply missing
      simp only [underWay, Option.toList_none, List.nil_append, List.mem_append] at member ⊢
      exact member.imp_right Or.inr

/-- An answer that is passed over is the oldest stale one, if there is one. -/
theorem Standing.skipped (waiting : exchange.asked.isSome)
    (next : exchange.answered = question :: rest) :
    ({ exchange with skipped := true, answered := rest } : Exchange α).Standing stale.tail := by
  have first := underWay_read next
  cases standing with
  | idle asked queued others =>
      rw [asked] at waiting
      cases waiting
  | waiting other asked queued others =>
      refine .waiting other asked queued ?_
      rw [← others, next]
      rfl
  | taken other asked queued others =>
      cases stale with
      | nil =>
          rw [first, List.nil_append] at others
          obtain ⟨-, nothing⟩ := List.cons.inj others
          refine .lost other asked queued ?_ nothing
          rw [underWay, nothing]
          exact List.not_mem_nil
      | cons head tail =>
          rw [first, List.cons_append] at others
          exact .taken other asked queued (List.cons.inj others).2
  | lost other asked queued missing others =>
      rw [first] at others missing
      refine .lost other asked queued (fun member => ?_) ?_
      · exact missing (List.mem_cons_of_mem _ member)
      · rw [← others]
        rfl

/-- What a client leaves behind that gives up: the stale questions, and its own one only
if the server has taken it. -/
theorem Standing.givenUp (waiting : exchange.asked.isSome) :
    ∃ left, ({ exchange with
      asked := none, skipped := false, queued := [] } : Exchange α).Standing left ∧
      (left = stale ∨ exchange.queued = [] ∧ left = exchange.underWay) := by
  have purged : exchange.queued = [] →
      ({ exchange with asked := none, skipped := false, queued := [] } : Exchange α).underWay =
        exchange.underWay := by
    intro queued
    rw [underWay_purged, underWay, queued, List.append_nil]
  cases standing with
  | idle asked queued others =>
      rw [asked] at waiting
      cases waiting
  | waiting question asked queued others =>
      exact ⟨stale, .idle rfl rfl (underWay_purged.trans others), Or.inl rfl⟩
  | taken question asked queued others =>
      exact ⟨_, .idle rfl rfl (purged queued), Or.inr ⟨queued, rfl⟩⟩
  | lost question asked queued missing others =>
      exact ⟨_, .idle rfl rfl (purged queued), Or.inr ⟨queued, rfl⟩⟩

/-! ## All moves -/

end

/-- **Every move keeps an exchange sound.** -/
theorem Move.sound (move : Move allowed exchange after) (sound : exchange.Sound) : after.Sound := by
  obtain ⟨distinct, stale, standing⟩ := sound
  refine ⟨move.nodup distinct, ?_⟩
  cases move with
  | ask question idle new => exact ⟨stale, standing.asked idle question⟩
  | take question rest free next => exact ⟨stale, standing.queue_taken free next⟩
  | answer question busy => exact ⟨stale, standing.held_answered busy⟩
  | lose =>
      obtain ⟨left, standing, _⟩ := standing.held_lost distinct
      exact ⟨left, standing⟩
  | accept question rest waiting next =>
      obtain ⟨rfl, held, queued⟩ := standing.accepted distinct waiting next
      exact ⟨_, .idle rfl queued rfl⟩
  | skip waiting question rest next => exact ⟨stale.tail, standing.skipped waiting next⟩
  | giveUp waiting may =>
      obtain ⟨left, standing, _⟩ := standing.givenUp waiting
      exact ⟨left, standing⟩

/-- **The moves of a patient client keep an exchange timely.** -/
theorem Move.timely (move : Move Patient exchange after) (timely : exchange.Timely) :
    after.Timely := by
  obtain ⟨distinct, stale, standing, few, none_left⟩ := timely
  refine ⟨move.nodup distinct, ?_⟩
  cases move with
  | ask question idle new =>
      refine ⟨stale, standing.asked idle question, few, fun _ skipped => ?_⟩
      cases skipped
  | take question rest free next =>
      exact ⟨stale, standing.queue_taken free next, few, none_left⟩
  | answer question busy => exact ⟨stale, standing.held_answered busy, few, none_left⟩
  | lose =>
      obtain ⟨left, standing, fewer⟩ := standing.held_lost distinct
      refine ⟨left, standing, Nat.le_trans fewer few, fun asked skipped => ?_⟩
      rw [none_left asked skipped, List.length_nil] at fewer
      exact List.length_eq_zero_iff.mp (Nat.le_zero.mp fewer)
  | accept question rest waiting next =>
      obtain ⟨rfl, held, queued⟩ := standing.accepted distinct waiting next
      refine ⟨[], .idle rfl queued ?_, Nat.zero_le _, fun _ _ => rfl⟩
      simp only [underWay, held, queued, Option.toList_none, List.append_nil]
  | skip waiting question rest next =>
      have fewer : stale.tail.length = 0 := by
        rw [List.length_tail]
        omega
      exact ⟨stale.tail, standing.skipped waiting next, by omega,
        fun _ _ => List.length_eq_zero_iff.mp fewer⟩
  | giveUp waiting may =>
      obtain ⟨left, later, left_eq⟩ := standing.givenUp waiting
      refine ⟨left, later, ?_, fun asked _ => by cases asked⟩
      rcases left_eq with rfl | ⟨queued, rfl⟩
      · exact few
      · cases may with
        | inl answered =>
            -- Only the question that the server has can be left.
            rw [underWay, answered, queued, List.append_nil, List.nil_append]
            exact Option.length_toList_le
        | inr skipped =>
            rw [none_left waiting skipped] at standing
            exact standing.length_underWay

end Exchange
