import Mathlib.Tactic.Common

/-!
# Sweeps

A loop that visits each element of a list once. What is seen of the state through a
`view` is left alone by the turns of most elements, so the whole loop does to the view
what the turn of its own element does.
-/
namespace Sweep

open List

variable {State Item View : Type} {turn : State → Item → State} (view : State → View)
  {items : List Item}

theorem foldl_frame (others : ∀ item ∈ items, ∀ state, view (turn state item) = view state)
    (state : State) : view (items.foldl turn state) = view state := by
  induction items generalizing state with
  | nil => rfl
  | cons item rest ih =>
    rw [foldl_cons, ih fun other member => others other (mem_cons_of_mem item member)]
    exact others item mem_cons_self state

theorem foldl_view (change : View → View) {own : Item} (nodup : items.Nodup) (member : own ∈ items)
    (others : ∀ item ∈ items, item ≠ own → ∀ state, view (turn state item) = view state)
    (changes : ∀ state, view (turn state own) = change (view state)) (state : State) :
    view (items.foldl turn state) = change (view state) := by
  induction items generalizing state with
  | nil => exact absurd member not_mem_nil
  | cons item rest ih =>
    obtain ⟨fresh, rest_nodup⟩ := nodup_cons.mp nodup
    have later : ∀ other ∈ rest, other ≠ own → ∀ state, view (turn state other) = view state :=
      fun other member => others other (mem_cons_of_mem item member)
    rw [foldl_cons]
    by_cases here : item = own
    · subst here
      -- the element does not come again
      rw [foldl_frame view fun other member => later other member (ne_of_mem_of_not_mem member fresh)]
      exact changes state
    · have ahead : own ∈ rest := (mem_cons.mp member).resolve_left (Ne.symm here)
      rw [ih rest_nodup ahead later, others item mem_cons_self here]

end Sweep
