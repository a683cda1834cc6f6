import Mathlib.Data.List.MinMax
import Mathlib.Data.List.Pairwise

/-!
# Queues with priorities

A queue is a list without duplicates, the oldest element first. `List.argmax` takes the
first element of highest priority. What holds between elements in the order of the queue
is a `List.Pairwise` fact.

Elements may stay in the queue while they are served, and their priority may be raised
meanwhile. `Ordered` is what remains true of the order then.
-/
namespace Queue

open List

variable {α : Type} {R : α → α → Prop} {queue : List α} {priority : α → Nat} {top : α}

theorem enqueue (ordered : queue.Pairwise R) {item : α} (behind : ∀ a ∈ queue, R a item) :
    (queue ++ [item]).Pairwise R := by
  refine pairwise_append.mpr ⟨ordered, pairwise_singleton R item, ?_⟩
  intro a member b last
  rw [mem_singleton.mp last]
  exact behind a member

theorem related (ordered : queue.Pairwise R) {a b : α} (first : a ∈ queue) (second : b ∈ queue)
    (ne : a ≠ b) : R a b ∨ R b a := by
  have symmetric : queue.Pairwise fun a b => R a b ∨ R b a := ordered.imp .inl
  have : Std.Symm fun a b => R a b ∨ R b a := ⟨fun _ _ => Or.symm⟩
  exact symmetric.forall first second ne

theorem below_top [DecidableEq α] (nodup : queue.Nodup) (chosen : top ∈ queue.argmax priority) :
    queue.Pairwise fun a b => b = top → priority a < priority top := by
  rw [pairwise_iff_getElem]
  intro i j low high before here
  by_contra not_below
  have le := index_of_argmax chosen (getElem_mem low) (not_lt.mp not_below)
  rw [← here, nodup.idxOf_getElem, nodup.idxOf_getElem] at le
  omega

theorem argmax_lower [DecidableEq α] {priority' : α → Nat}
    (chosen : top ∈ queue.argmax priority) (same : priority' top = priority top)
    (lower : ∀ a, priority' a ≤ priority a) : top ∈ queue.argmax priority' := by
  obtain ⟨member, greatest, first⟩ := mem_argmax_iff.mp chosen
  refine mem_argmax_iff.mpr ⟨member, fun a here => ?_, fun a here above => ?_⟩
  · exact (lower a).trans (same ▸ greatest a here)
  · exact first a here (same ▸ above.trans (lower a))

/-! ## Served elements in the queue -/

section Ordered

variable {base active active' : α → Nat} {served served' : α → Prop} {top item : α}

/-- Elements that have not been served yet stand with their base priority; nothing in front of
an element that has been served reaches its base priority. -/
structure Ordered (queue : List α) (base active : α → Nat) (served : α → Prop) : Prop where
  base_le : ∀ a, base a ≤ active a
  unserved : ∀ a, ¬ served a → active a = base a
  behind : queue.Pairwise fun a b => served b → active a < base b

section

variable (ordered : Ordered queue base active served)
include ordered

theorem Ordered.congr (same : ∀ a, served' a ↔ served a) : Ordered queue base active served' := by
  obtain rfl : served' = served := funext fun a => propext (same a)
  exact ordered

theorem Ordered.enqueue (fresh : ¬ served item) : Ordered (queue ++ [item]) base active served where
  base_le := ordered.base_le
  unserved := ordered.unserved
  behind := Queue.enqueue ordered.behind fun _ _ served => absurd served fresh

theorem Ordered.sublist {queue' : List α}
    (sublist : queue'.Sublist queue) : Ordered queue' base active served where
  base_le := ordered.base_le
  unserved := ordered.unserved
  behind := ordered.behind.sublist sublist

theorem Ordered.leave (restored : active item = base item) :
    Ordered queue base active fun a => served a ∧ a ≠ item where
  base_le := ordered.base_le
  unserved a unserved := by
    by_cases own : a = item
    · rw [own]
      exact restored
    · exact ordered.unserved a fun served => unserved ⟨served, own⟩
  behind := ordered.behind.imp fun before served => before served.1

end

/-- The served elements stand before the one that has been chosen. -/
def Lead (queue : List α) (served : α → Prop) (top : α) : Prop :=
  queue.Pairwise fun a b => a = top → ¬ served b

theorem Ordered.lead (ordered : Ordered queue base active served)
    (chosen : top ∈ queue.argmax active) : Lead queue served top := by
  apply ordered.behind.imp_of_mem
  rintro a b - member before rfl is_served
  have less := before is_served
  have greater := le_of_mem_argmax member chosen
  have above := ordered.base_le b
  omega

theorem Lead.serve (lead : Lead queue served top) (nodup : queue.Nodup) :
    Lead queue (fun a => served a ∨ a = top) top := by
  apply (List.Pairwise.and lead nodup).imp
  rintro a b ⟨leads, ne⟩ rfl (is_served | rfl)
  · exact leads rfl is_served
  · exact ne rfl

theorem Ordered.serve [DecidableEq α] (ordered : Ordered queue base active served)
    (nodup : queue.Nodup) (chosen : top ∈ queue.argmax active) :
    Ordered queue base active fun a => served a ∨ a = top where
  base_le := ordered.base_le
  unserved a unserved := ordered.unserved a fun served => unserved (.inl served)
  behind := by
    apply (ordered.behind.and (below_top nodup chosen)).imp
    rintro a b ⟨before, below⟩ is_served
    by_cases was_served : served b
    · exact before was_served
    · obtain rfl := is_served.resolve_left was_served
      rw [← ordered.unserved b was_served]
      exact below rfl

theorem Ordered.change (ordered : Ordered queue base active served) (lead : Lead queue served top)
    (is_served : served top) (others : ∀ a, a ≠ top → active' a = active a)
    (base_le : base top ≤ active' top) : Ordered queue base active' served where
  base_le a := by
    by_cases own : a = top
    · rw [own]
      exact base_le
    · rw [others a own]
      exact ordered.base_le a
  unserved a unserved := by
    have own : a ≠ top := by
      rintro rfl
      exact unserved is_served
    rw [others a own]
    exact ordered.unserved a unserved
  behind := by
    apply (ordered.behind.and lead).imp
    rintro a b ⟨before, leads⟩ served
    have own : a ≠ top := fun own => leads own served
    rw [others a own]
    exact before served

/-- Elements of equal priority that have not been served yet stand in the order of their
stamps. -/
def Fifo (queue : List α) (base stamp : α → Nat) (served : α → Prop) : Prop :=
  queue.Pairwise fun a b => ¬ served a → ¬ served b → base a = base b → stamp a ≤ stamp b

theorem Ordered.oldest [DecidableEq α] {stamp : α → Nat}
    (ordered : Ordered queue base active served) (fifo : Fifo queue base stamp served)
    (nodup : queue.Nodup) (chosen : top ∈ queue.argmax active) (fresh : ¬ served top)
    (member : item ∈ queue) (other : item ≠ top) :
    active item < base top ∨ stamp top ≤ stamp item := by
  have restored := ordered.unserved top fresh
  have greatest := le_of_mem_argmax member chosen
  have pairs := (fifo.and (below_top nodup chosen)).and ordered.behind
  rcases related pairs member (argmax_mem chosen) other with
    ⟨⟨-, below⟩, -⟩ | ⟨⟨older, -⟩, before⟩
  · exact .inl (restored ▸ below rfl)
  · by_cases is_served : served item
    · have less := before is_served
      have above := ordered.base_le item
      omega
    · have unserved := ordered.unserved item is_served
      by_cases equal : base top = base item
      · exact .inr (older fresh is_served equal)
      · exact .inl (by omega)

end Ordered

end Queue
