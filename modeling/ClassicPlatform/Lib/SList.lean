import Mathlib.Tactic.Common

/-!
# Singly linked lists

Intrusive lists as kept by the `SLIST` macros: every element holds the link to the
next one, a head holds the link to the first. `Chain` says which elements a walk
along the links passes.
-/
namespace SList

open Function

variable {α : Type} {first : Option α} {link : α → Option α} {items : List α}

/-- The walk from `first` passes exactly `items`. -/
def Chain (link : α → Option α) : Option α → List α → Prop
  | first, [] => first = none
  | first, item :: rest => first = some item ∧ Chain link (link item) rest

theorem Chain.congr {link' : α → Option α} (chain : Chain link first items)
    (same : ∀ item ∈ items, link' item = link item) : Chain link' first items := by
  induction items generalizing first with
  | nil => exact chain
  | cons item rest ih =>
    obtain ⟨here, tail⟩ := chain
    refine ⟨here, ?_⟩
    rw [same item List.mem_cons_self]
    exact ih tail fun other member => same other (List.mem_cons_of_mem item member)

theorem Chain.insertHead [DecidableEq α] (chain : Chain link first items) {item : α}
    (fresh : item ∉ items) : Chain (update link item first) (some item) (item :: items) := by
  refine ⟨rfl, ?_⟩
  rw [update_self]
  refine chain.congr fun other member => update_of_ne ?_ _ _
  rintro rfl
  exact fresh member

end SList
