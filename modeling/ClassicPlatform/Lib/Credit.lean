import Mathlib.Tactic.Common

/-!
# Block credits

Both ends of a transfer count its frames. Each keeps a countdown to the frame after
which the next grant is due; a block size of zero stands for no limit. The two
countdowns may differ as long as they run out at the same frame of the transfer.
-/
namespace Credit

/-- How many of the `frames` will have passed when the next grant is due, for an end that has
passed `done` of them and counts down from `count`. -/
def stop (size count frames done : Nat) : Nat :=
  if size = 0 ∨ frames ≤ done + 1 then frames else min frames (done + count)

/-- The end is inside a block that runs to `due`. -/
structure Until (size count frames done due : Nat) : Prop where
  ends : stop size count frames done = due
  inside : done < due

variable {size count frames done due : Nat}

section

variable (block : Until size count frames done due)
include block

theorem Until.due_le : due ≤ frames := by
  rw [← block.ends]
  unfold stop
  split <;> omega

theorem Until.runs_out (more : done + 1 < frames) : count - 1 = 0 ∧ size ≠ 0 ↔ done + 1 = due := by
  obtain ⟨ends, inside⟩ := block
  unfold stop at ends
  split at ends <;> omega

theorem Until.pass (more : done + 1 < frames)
    (early : done + 1 ≠ due) : Until size (count - 1) frames (done + 1) due := by
  obtain ⟨ends, inside⟩ := block
  refine ⟨?_, by omega⟩
  unfold stop at ends ⊢
  split at ends <;> split <;> omega

end

theorem until_grant {own : Nat} (covers : min size (frames - done) ≤ own) (short : own ≤ size)
    (more : done < frames) :
    ∃ due, Until size own frames done due ∧ Until size size frames done due := by
  refine ⟨stop size size frames done, ⟨?_, ?_⟩, rfl, ?_⟩ <;> unfold stop <;> split <;>
    omega

end Credit
