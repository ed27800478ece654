/-
# The reconnect series

A failed connection is answered with the next delay of a fixed series, which stays
at its last entry. A rejection because the host is busy is a failed connection too:
it takes a place of the series, and nobody sees its delay.

Three methods start the series again, and no other call goes back in it.
-/

import Deskkin.Protocol.SessionIsolation
import Mathlib.Data.List.Induction

namespace Deskkin.Protocol

/-- The delay at the `place`th failure after a reset. -/
def delayAt (place : ℕ) : ℕ := reconnectDelaysMs[min place 4]

/-- A call that starts the series again. -/
def Resets (adapter : ProtocolAdapter) : Call → Prop
  | .result session requestId operation wire =>
      (adapter.result session requestId operation wire).1.isOk
  | .validAvailabilityResult => adapter.state = .authenticated
  | .restartAfterPairing => True
  | _ => False

instance (adapter : ProtocolAdapter) : (call : Call) → Decidable (Resets adapter call)
  | .result session requestId operation wire =>
      inferInstanceAs
        (Decidable ((adapter.result session requestId operation wire).1.isOk = true))
  | .validAvailabilityResult => inferInstanceAs (Decidable (adapter.state = .authenticated))
  | .restartAfterPairing => isTrue trivial
  | .connecting | .authenticated _ | .beginRead _ _ | .connectionFailed | .helloRejected _
  | .disconnected | .stop => isFalse id

/-- The delay given by the `connectionFailed` call that a call is or makes. -/
def delayOf (adapter : ProtocolAdapter) : Call → Option ℕ
  | .connectionFailed | .helloRejected .sessionBusy => adapter.connectionFailed.1.toOption
  | _ => none

/-- The delay that a call returns to its owner. -/
def returnedDelay (adapter : ProtocolAdapter) : Call → Option ℕ
  | .connectionFailed => adapter.connectionFailed.1.toOption
  | _ => none

/-- What is read off the calls of a sequence, each in the adapter it is made on. -/
def collect (read : ProtocolAdapter → Call → Option ℕ) (adapter : ProtocolAdapter) :
    List Call → List ℕ
  | [] => []
  | call :: rest => (read adapter call).toList ++ collect read (perform adapter call) rest

/-- No call of a sequence starts the series again. -/
def Unreset (adapter : ProtocolAdapter) : List Call → Prop
  | [] => True
  | call :: rest => ¬ Resets adapter call ∧ Unreset (perform adapter call) rest

instance decidableUnreset (adapter : ProtocolAdapter) :
    (calls : List Call) → Decidable (Unreset adapter calls)
  | [] => isTrue trivial
  | call :: rest =>
      have := decidableUnreset (perform adapter call) rest
      inferInstanceAs (Decidable (¬ Resets adapter call ∧ Unreset (perform adapter call) rest))

/-- The adapter after a sequence of calls on a new one. -/
def adapterAfter (past : List Call) : ProtocolAdapter := past.foldl perform ProtocolAdapter.new

/-- The last call, if there was one, started the series again. -/
def Fresh (past : List Call) : Prop :=
  past = [] ∨ ∃ earlier call, past = earlier ++ [call] ∧ Resets (adapterAfter earlier) call

theorem adapterAfter_concat (earlier : List Call) (call : Call) :
    adapterAfter (earlier ++ [call]) = perform (adapterAfter earlier) call := by
  simp [adapterAfter]

/-! ## What one call does -/

theorem connectionFailed_delay (adapter : ProtocolAdapter) :
    adapter.connectionFailed.1.toOption =
      if adapter.state = .stopped then none else some (delayAt adapter.backoffIndex) := by
  unfold ProtocolAdapter.connectionFailed
  split <;> rfl

theorem connectionFailed_index (adapter : ProtocolAdapter) :
    adapter.connectionFailed.2.backoffIndex =
      if adapter.state = .stopped then adapter.backoffIndex
      else min (adapter.backoffIndex + 1) 4 := by
  unfold ProtocolAdapter.connectionFailed
  split <;> rfl

variable {adapter : ProtocolAdapter} {call : Call}

theorem delayOf_eq_some {delay : ℕ} (given : delayOf adapter call = some delay) :
    delay = delayAt adapter.backoffIndex ∧
      (perform adapter call).backoffIndex = min (adapter.backoffIndex + 1) 4 := by
  have failing : ∀ {next : ProtocolAdapter}, next = adapter.connectionFailed.2 →
      adapter.connectionFailed.1.toOption = some delay →
      delay = delayAt adapter.backoffIndex ∧
        next.backoffIndex = min (adapter.backoffIndex + 1) 4 := by
    intro next moved answer
    subst moved
    rw [connectionFailed_delay] at answer
    rw [connectionFailed_index]
    split at answer
    · cases answer
    · rename_i running
      cases answer
      exact ⟨rfl, if_neg running⟩
  cases call with
  | connectionFailed => exact failing rfl given
  | helloRejected reason =>
      cases reason with
      | sessionBusy => exact failing rfl given
      | _ => cases given
  | _ => cases given

theorem index_of_resets (resets : Resets adapter call) :
    (perform adapter call).backoffIndex = 0 := by
  cases call with
  | result session requestId operation wire =>
      cases answer : adapter.result session requestId operation wire with
      | mk outcome next =>
          cases outcome with
          | error error => simp [Resets, answer, Except.isOk, Except.toBool] at resets
          | ok event =>
              obtain ⟨-, -, -, -, -, rfl⟩ := ProtocolAdapter.result_eq_ok_iff.mp answer
              simp [perform, answer]
  | validAvailabilityResult =>
      have authenticated : adapter.state = .authenticated := resets
      simp [perform, ProtocolAdapter.validAvailabilityResult, authenticated]
  | restartAfterPairing => rfl
  | _ => exact resets.elim

/-- A call that neither starts the series again nor takes a place of it leaves the
place alone. -/
theorem index_of_idle (unreset : ¬ Resets adapter call) (idle : delayOf adapter call = none) :
    (perform adapter call).backoffIndex = adapter.backoffIndex := by
  have stopped_of (failed : adapter.connectionFailed.1.toOption = none) :
      adapter.connectionFailed.2.backoffIndex = adapter.backoffIndex := by
    rw [connectionFailed_delay] at failed
    rw [connectionFailed_index]
    split at failed
    · rename_i stopped
      exact if_pos stopped
    · cases failed
  cases call with
  | connecting =>
      simp only [perform, ProtocolAdapter.connecting]
      split <;> rfl
  | authenticated session =>
      simp only [perform, ProtocolAdapter.authenticated]
      split <;> rfl
  | beginRead effectId operation =>
      cases answer : adapter.beginRead effectId operation with
      | mk outcome next =>
          cases outcome with
          | ok request =>
              obtain ⟨-, -, -, -, -, rfl⟩ := ProtocolAdapter.beginRead_eq_ok_iff.mp answer
              simp [perform, answer]
          | error error => simp [perform, answer, ProtocolAdapter.beginRead_error answer]
  | result session requestId operation wire =>
      cases answer : adapter.result session requestId operation wire with
      | mk outcome next =>
          cases outcome with
          | ok event => simp [Resets, answer, Except.isOk, Except.toBool] at unreset
          | error error => simp [perform, answer, ProtocolAdapter.result_error answer]
  | connectionFailed => exact stopped_of idle
  | helloRejected reason =>
      cases reason with
      | sessionBusy => exact stopped_of idle
      | _ => rfl
  | disconnected =>
      simp only [perform, ProtocolAdapter.disconnected]
      split <;> rfl
  | stop => rfl
  | restartAfterPairing => exact absurd trivial unreset
  | validAvailabilityResult =>
      have elsewhere : adapter.state ≠ .authenticated := unreset
      simp [perform, ProtocolAdapter.validAvailabilityResult, elsewhere]

/-- The place of the series a call leaves, by what the call was. -/
theorem index_after (adapter : ProtocolAdapter) (call : Call) :
    (perform adapter call).backoffIndex =
      if Resets adapter call then 0
      else if (delayOf adapter call).isSome then min (adapter.backoffIndex + 1) 4
      else adapter.backoffIndex := by
  by_cases resets : Resets adapter call
  · rw [if_pos resets, index_of_resets resets]
  · rw [if_neg resets]
    cases given : delayOf adapter call with
    | none => simpa using index_of_idle resets given
    | some delay => simpa using (delayOf_eq_some given).2

/-- A stopped adapter stays stopped under every call but one. -/
theorem stopped_after (stopped : adapter.state = .stopped) (other : call ≠ .restartAfterPairing) :
    (perform adapter call).state = .stopped := by
  cases call with
  | helloRejected reason =>
      cases reason <;>
        simp [perform, ProtocolAdapter.helloRejected, ProtocolAdapter.connectionFailed, stopped]
  | result session requestId operation wire =>
      simp [perform, ProtocolAdapter.result, stopped]
  | restartAfterPairing => exact absurd rfl other
  | _ =>
      simp [perform, ProtocolAdapter.connecting, ProtocolAdapter.authenticated,
        ProtocolAdapter.beginRead, ProtocolAdapter.connectionFailed, ProtocolAdapter.disconnected,
        ProtocolAdapter.stop, ProtocolAdapter.validAvailabilityResult, stopped]

/-- Outside the stopped state a terminal reason comes with stopping only. -/
theorem terminalReason_after (none_ : adapter.terminalReason = none) :
    (perform adapter call).terminalReason = none ∨ (perform adapter call).state = .stopped := by
  cases call with
  | helloRejected reason =>
      cases reason with
      | sessionBusy =>
          left
          simp only [perform, ProtocolAdapter.helloRejected, ProtocolAdapter.connectionFailed]
          split <;> exact none_
      | _ => exact .inr rfl
  | result session requestId operation wire =>
      left
      cases answer : adapter.result session requestId operation wire with
      | mk outcome next =>
          cases outcome with
          | ok event =>
              obtain ⟨-, -, -, -, -, rfl⟩ := ProtocolAdapter.result_eq_ok_iff.mp answer
              simpa [perform, answer] using none_
          | error error => simpa [perform, answer, ProtocolAdapter.result_error answer] using none_
  | beginRead effectId operation =>
      left
      cases answer : adapter.beginRead effectId operation with
      | mk outcome next =>
          cases outcome with
          | ok request =>
              obtain ⟨-, -, -, -, -, rfl⟩ := ProtocolAdapter.beginRead_eq_ok_iff.mp answer
              simpa [perform, answer] using none_
          | error error =>
              simpa [perform, answer, ProtocolAdapter.beginRead_error answer] using none_
  | connecting =>
      left
      simp only [perform, ProtocolAdapter.connecting]
      split <;> exact none_
  | authenticated session =>
      left
      simp only [perform, ProtocolAdapter.authenticated]
      split <;> exact none_
  | connectionFailed =>
      left
      simp only [perform, ProtocolAdapter.connectionFailed]
      split <;> exact none_
  | disconnected =>
      left
      simp only [perform, ProtocolAdapter.disconnected]
      split
      · exact none_
      · rfl
  | stop => exact .inl none_
  | restartAfterPairing => exact .inl rfl
  | validAvailabilityResult =>
      left
      simp only [perform, ProtocolAdapter.validAvailabilityResult]
      split <;> exact none_

/-! ## What a sequence of calls does -/

/-- The place is one of the series', and a terminal reason is one of a stopped
adapter. -/
structure Paced (adapter : ProtocolAdapter) : Prop where
  index : adapter.backoffIndex ≤ 4
  terminal : adapter.terminalReason ≠ none → adapter.state = .stopped

theorem Paced.after (paced : Paced adapter) (call : Call) : Paced (perform adapter call) where
  index := by
    have bound := paced.index
    rw [index_after]
    split
    · exact Nat.zero_le 4
    · split
      · exact min_le_right _ 4
      · exact bound
  terminal := by
    intro reason
    by_cases stopped : adapter.state = .stopped
    · by_cases restart : call = .restartAfterPairing
      · subst restart
        exact absurd rfl reason
      · exact stopped_after stopped restart
    · have clear : adapter.terminalReason = none := by
        by_contra present
        exact stopped (paced.terminal present)
      exact (terminalReason_after clear).resolve_left reason

theorem paced_after (past : List Call) : Paced (adapterAfter past) := by
  induction past using List.reverseRecOn with
  | nil => exact ⟨Nat.zero_le 4, fun reason => absurd rfl reason⟩
  | append_singleton earlier call ih =>
      rw [adapterAfter_concat]
      exact ih.after call

theorem Fresh.index {past : List Call} (fresh : Fresh past) :
    (adapterAfter past).backoffIndex = 0 := by
  rcases fresh with rfl | ⟨earlier, call, rfl, resets⟩
  · rfl
  · rw [adapterAfter_concat]
    exact index_of_resets resets

/-- Between two resets the delays go on from the place the adapter is at. -/
theorem collect_delayOf (bound : adapter.backoffIndex ≤ 4) {segment : List Call}
    (unreset : Unreset adapter segment) :
    collect delayOf adapter segment =
      (List.range (collect delayOf adapter segment).length).map
        fun place => delayAt (adapter.backoffIndex + place) := by
  induction segment generalizing adapter with
  | nil => rfl
  | cons call rest ih =>
      obtain ⟨here, onward⟩ := unreset
      cases given : delayOf adapter call with
      | none =>
          have same := index_of_idle here given
          rw [collect, given]
          simpa [same] using ih (same ▸ bound) onward
      | some delay =>
          obtain ⟨rfl, moved⟩ := delayOf_eq_some given
          have later := ih (moved ▸ min_le_right _ 4) onward
          rw [collect, given, Option.toList_some, List.singleton_append, List.length_cons,
            List.range_succ_eq_map, List.map_cons, List.map_map, Nat.add_zero]
          congr 1
          rw [later, List.length_map, List.length_range]
          refine List.map_congr_left fun place _ => ?_
          -- The place is held at the last entry, and so is what is read there.
          have held : min (min (adapter.backoffIndex + 1) 4 + place) 4 =
              min (adapter.backoffIndex + (place + 1)) 4 := by
            omega
          simp only [moved, Function.comp_apply, delayAt, held]

/-- What holds of the adapter after any sequence of calls. -/
structure ReconnectLaw (past : List Call) : Prop where
  series : Fresh past → ∀ segment, Unreset (adapterAfter past) segment →
    collect delayOf (adapterAfter past) segment =
      (List.range (collect delayOf (adapterAfter past) segment).length).map delayAt
  resets : ∀ call, Resets (adapterAfter past) call →
    (perform (adapterAfter past) call).backoffIndex = 0
  others : ∀ call, ¬ Resets (adapterAfter past) call →
    (adapterAfter past).backoffIndex ≤ (perform (adapterAfter past) call).backoffIndex
  inBounds : (adapterAfter past).backoffIndex < reconnectDelaysMs.size
  terminal : (adapterAfter past).terminalReason ≠ none → (adapterAfter past).state = .stopped
  left : ∀ call, (adapterAfter past).state = .stopped →
    (perform (adapterAfter past) call).state ≠ .stopped → call = .restartAfterPairing

/-- **The reconnect series.** Counted from the last reset, the failures of a
connection are given the delays of the series in order. -/
theorem reconnect_law (past : List Call) : ReconnectLaw past where
  series := by
    intro fresh segment unreset
    have go := collect_delayOf (paced_after past).index unreset
    simpa only [fresh.index, Nat.zero_add] using go
  resets := fun _ => index_of_resets
  others := by
    intro call unreset
    have bound := (paced_after past).index
    rw [index_after, if_neg unreset]
    split <;> omega
  inBounds := Nat.lt_succ_of_le (paced_after past).index
  terminal := (paced_after past).terminal
  left := by
    intro call stopped moved
    by_contra other
    exact moved (stopped_after stopped other)

example : collect returnedDelay ProtocolAdapter.new (List.replicate 7 .connectionFailed) =
    [250, 500, 1000, 2000, 5000, 5000, 5000] := by
  decide

/-- A busy rejection between two failures takes the second entry of the series, and
the delays that are returned skip it. -/
theorem returned_delays_skip :
    ¬ ∀ segment, Unreset ProtocolAdapter.new segment →
      collect returnedDelay ProtocolAdapter.new segment =
        (List.range (collect returnedDelay ProtocolAdapter.new segment).length).map delayAt := by
  intro inOrder
  have skipped := inOrder [.connectionFailed, .helloRejected .sessionBusy, .connectionFailed]
    (by decide)
  exact absurd skipped (by decide)

end Deskkin.Protocol
