/-
# Motion in the renderer

The renderer knows the time of its last frame and advances the scene by the milliseconds that
have passed since, less whole periods, which fit 32 bits. What is left of a millisecond waits
for the next frame.
-/

import Deskkin.Presentation.Motion

namespace Deskkin.Renderer

open Presentation Chunks

structure WorldMotion where
  scene : DemoMotion
  updatedAtUs : UInt64

namespace WorldMotion

/-- Milliseconds since the last frame. -/
def elapsedMs (self : WorldMotion) (nowUs : UInt64) : ℕ :=
  (nowUs.toNat - self.updatedAtUs.toNat) / 1000

def advance (self : WorldMotion) (nowUs : UInt64) : WorldMotion where
  scene := self.scene.advance (UInt32.ofNat (self.elapsedMs nowUs % 120000))
  updatedAtUs := UInt64.ofNat
    (min (self.updatedAtUs.toNat + self.elapsedMs nowUs * 1000) Checked.u64Max)

/-- Whole periods that are left out change nothing. -/
theorem scene_advance (self : WorldMotion) (nowUs : UInt64) :
    (self.advance nowUs).scene = self.scene.after (self.elapsedMs nowUs) := by
  have small : self.elapsedMs nowUs % 120000 < 2 ^ 32 :=
    (Nat.mod_lt _ (by decide)).trans (by decide)
  rw [advance, DemoMotion.advance, UInt32.toNat_ofNat_of_lt' small]
  exact self.scene.after_mod _

end WorldMotion

/-- **Animation does not depend on the chunks of its updates.** Times with one sum lead the
camera, the scene and the pet to one state, and the scene in the renderer is where all of the
time that has passed would lead it. -/
theorem advance_chunks (first second : List UInt32)
    (same : (first.map (·.toNat)).sum = (second.map (·.toNat)).sum) :
    (∀ camera : DemoCamera, first.foldl DemoCamera.advance camera =
      second.foldl DemoCamera.advance camera) ∧
    (∀ motion : DemoMotion, first.foldl DemoMotion.advance motion =
      second.foldl DemoMotion.advance motion) ∧
    (∀ animator : PetAnimator, first.foldl (fun pet elapsed => (pet.advance elapsed).1) animator =
      second.foldl (fun pet elapsed => (pet.advance elapsed).1) animator) ∧
    (∀ (motion : DemoMotion) (elapsed : UInt32),
      motion.advance (elapsed % 120000) = motion.advance elapsed) ∧
    ∀ (world : WorldMotion) (nowUs : UInt64),
      (first.map (·.toNat)).sum = world.elapsedMs nowUs →
        (world.advance nowUs).scene = first.foldl DemoMotion.advance world.scene := by
  refine ⟨fun camera => ?_, fun motion => ?_, fun animator => ?_, fun motion elapsed => ?_,
    fun world nowUs total => ?_⟩
  · exact foldl_congr DemoCamera.after_zero DemoCamera.after_after (fun _ _ => rfl) same camera
  · exact foldl_congr DemoMotion.after_zero DemoMotion.after_after (fun _ _ => rfl) same motion
  · exact foldl_congr PetAnimator.after_zero PetAnimator.after_after (fun _ _ => rfl) same animator
  · rw [DemoMotion.advance, DemoMotion.advance, UInt32.toNat_mod]
    exact motion.after_mod _
  · rw [WorldMotion.scene_advance, ← total]
    exact (foldl_eq DemoMotion.after_zero DemoMotion.after_after (fun _ _ => rfl) _ _).symm

/-- Seven seconds at once, or four and then three. -/
theorem advance_chunks_seconds :
    [7000].foldl DemoCamera.advance (DemoCamera.new ⟨0⟩) =
        [4000, 3000].foldl DemoCamera.advance (DemoCamera.new ⟨0⟩) ∧
      WorldMotion.scene (WorldMotion.advance ⟨.default, 500⟩ 7000900) =
        [7000].foldl DemoMotion.advance .default := by
  obtain ⟨camera, -, -, -, world⟩ := advance_chunks [7000] [4000, 3000] rfl
  exact ⟨camera _, world ⟨.default, 500⟩ 7000900 rfl⟩

end Deskkin.Renderer
