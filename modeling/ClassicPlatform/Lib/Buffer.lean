import ClassicPlatform.Lib.ByteLanes

/-!
# Buffers in byte memory

A buffer is a number of consecutive bytes. `copy` moves a buffer from one memory to another;
buffers that the target does not overlap keep their bytes.
-/
namespace Buffer

open List
open ByteLanes (Memory)

/-- The bytes of the buffer at `p`. -/
def bytes (m : Memory) (p : Int) (count : Nat) : List (BitVec 8) :=
  (ByteLanes.ascending p count).map m

/-- Write `count` bytes of `source`, taken from `q` on, to `target` at `p`. -/
def copy (target : Memory) (p : Int) (source : Memory) (q : Int) (count : Nat) : Memory :=
  fun a => if p ≤ a ∧ a < p + count then source (q + (a - p)) else target a

variable {target source : Memory} {p q : Int} {count : Nat}

theorem copy_inside {a : Int} (low : p ≤ a) (high : a < p + count) :
    copy target p source q count a = source (q + (a - p)) := if_pos ⟨low, high⟩

@[simp] theorem length_bytes (m : Memory) : (bytes m p count).length = count := by
  simp [bytes, ByteLanes.ascending]

theorem bytes_congr {m m' : Memory} (same : ∀ a, p ≤ a → a < p + count → m a = m' a) :
    bytes m p count = bytes m' p count :=
  map_congr_left fun a member =>
    same a (ByteLanes.mem_ascending.mp member).1 (ByteLanes.mem_ascending.mp member).2

theorem bytes_copy : bytes (copy target p source q count) p count = bytes source q count := by
  simp only [bytes, ByteLanes.ascending, map_map]
  refine map_congr_left fun i member => ?_
  have inside := mem_range.mp member
  simp only [Function.comp_apply]
  rw [copy_inside (by omega) (by omega)]
  congr 1
  omega

end Buffer
