/-
# Checksums taken symbol by symbol

A checksum runs through a list with a register. Where a step can be undone from the
symbol it took, and the symbol read off from the register it started with, a change
of one symbol always shows in the register at the end.

A register that is shifted down, with a word added for the bit that falls out, has
such steps if the word has its uppermost bit set: that bit then tells what fell out.
-/

import Mathlib.Data.Nat.Notation
import Mathlib.Logic.Function.Basic

universe u v

namespace Checksum

variable {σ : Type u} {α : Type v}

/-- A step loses neither the register nor the symbol. -/
structure Reversible (step : σ → α → σ) : Prop where
  register : ∀ a, Function.Injective fun s => step s a
  symbol : ∀ s, Function.Injective (step s)

theorem Reversible.foldl_injective {step : σ → α → σ} (reversible : Reversible step)
    (symbols : List α) : Function.Injective fun s => symbols.foldl step s := by
  induction symbols with
  | nil => exact Function.injective_id
  | cons a rest ih => exact ih.comp (reversible.register a)

/-- **A changed symbol shows.** -/
theorem Reversible.foldl_changed {step : σ → α → σ} (reversible : Reversible step) {a b : α}
    (changed : a ≠ b) (s : σ) (before after : List α) :
    (before ++ a :: after).foldl step s ≠ (before ++ b :: after).foldl step s := by
  intro same
  rw [List.foldl_append, List.foldl_append] at same
  have here : step (before.foldl step s) a = step (before.foldl step s) b :=
    reversible.foldl_injective after same
  exact changed (reversible.symbol _ here)

/-- The register shifted down by one bit, with a word added if that bit was set. -/
def shiftOut {width : ℕ} (word register : BitVec width) : BitVec width :=
  (register >>> 1) ^^^ (if register.getLsbD 0 then word else 0)

variable {width : ℕ} {word : BitVec (width + 1)} (top : word.getLsbD width = true)
include top

/-- The uppermost bit after a shift is the bit that fell out. -/
theorem getLsbD_shiftOut (register : BitVec (width + 1)) :
    (shiftOut word register).getLsbD width = register.getLsbD 0 := by
  have empty : register.getLsbD (1 + width) = false :=
    BitVec.getLsbD_of_ge register (1 + width) (by omega)
  rw [shiftOut, BitVec.getLsbD_xor, BitVec.getLsbD_ushiftRight, empty, Bool.false_xor]
  cases register.getLsbD 0 with
  | false => simp
  | true => simpa using top

theorem shiftOut_injective : Function.Injective (shiftOut word) := by
  intro one two same
  have low : one.getLsbD 0 = two.getLsbD 0 := by
    rw [← getLsbD_shiftOut top one, ← getLsbD_shiftOut top two, same]
  have high : one >>> 1 = two >>> 1 := by
    rw [shiftOut, shiftOut, low] at same
    exact BitVec.xor_left_inj _ |>.mp same
  apply BitVec.eq_of_getLsbD_eq
  intro index _
  cases index with
  | zero => exact low
  | succ index =>
      have bit := congrArg (fun bits : BitVec (width + 1) => bits.getLsbD index) high
      simpa [Nat.add_comm] using bit

end Checksum
