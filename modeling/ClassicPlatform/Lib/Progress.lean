import Mathlib.Tactic.Common
import Mathlib.Data.Nat.Init

/-!
# Progress of endless runs

A run goes on forever. At some times it is blocked, at some times it acts, and while it asks for
something under a key it can be granted. In a fair run nothing stays blocked forever, there is
always another action, and what is asked for from some time on is granted. A goal is reached if
a rank never grows before it, and if every action that is neither blocked nor asks lowers the
rank.
-/
namespace Progress

open Nat

variable {State Action Key : Type} {goal : Nat → Prop} {start : Nat}

/-- The states of an endless run. -/
def trace (step : State → Action → State) (start : State) (actions : Nat → Action) : Nat → State
  | 0 => start
  | n + 1 => step (trace step start actions n) (actions n)

theorem trace_invariant {step : State → Action → State} {Invariant : State → Prop}
    {condition : State → Action → Prop} {start : State} {actions : Nat → Action}
    (keeps : ∀ state action, Invariant state → condition state action →
      Invariant (step state action))
    (holds : Invariant start) (n : Nat)
    (meets : ∀ m < n, condition (trace step start actions m) (actions m)) :
    Invariant (trace step start actions n) := by
  induction n with
  | zero => exact holds
  | succ n ih =>
    have before := ih fun m earlier => meets m (lt_succ_of_lt earlier)
    exact keeps _ _ before (meets n (lt_succ_self n))

theorem eventually_of_rank {rank : Nat → Nat}
    (shrinks : ∀ n ≥ start, ¬ goal n → ¬ goal (n + 1) → rank (n + 1) ≤ rank n)
    (drops : ∀ n ≥ start, ∃ m ≥ n, goal m ∨ rank (m + 1) < rank m) : ∃ m ≥ start, goal m := by
  by_contra none_reached
  have never (n : Nat) (later : start ≤ n) : ¬ goal n :=
    fun reached => none_reached ⟨n, later, reached⟩
  have below {n m : Nat} (later : start ≤ n) (after : n ≤ m) : rank m ≤ rank n := by
    induction m, after using Nat.le_induction with
    | base => exact Nat.le_refl _
    | succ m after ih =>
      have now : start ≤ m := Nat.le_trans later after
      exact Nat.le_trans (shrinks m now (never m now) (never _ (le_succ_of_le now))) ih
  -- no time has a rank, by induction on the rank
  have unranked (r : Nat) : ∀ n ≥ start, rank n ≠ r := by
    induction r using Nat.strongRecOn with
    | ind r ih =>
      intro n later same
      obtain ⟨m, after, reached | lower⟩ := drops n later
      · exact never m (Nat.le_trans later after) reached
      · have bound := below later after
        exact ih (rank (m + 1)) (by omega) (m + 1) (by omega) rfl
  exact unranked _ start (Nat.le_refl _) rfl

structure Fair (blocked acts : Nat → Prop) (asks grants : Nat → Key → Prop) : Prop where
  unblocked : ∀ n, ∃ m ≥ n, ¬ blocked m
  acts_again : ∀ n, ∃ m ≥ n, acts m
  granted : ∀ n key, (∀ m ≥ n, asks m key) → ∃ m ≥ n, grants m key

variable {blocked acts : Nat → Prop} {asks grants : Nat → Key → Prop}

theorem Fair.eventually (fair : Fair blocked acts asks grants)
    (rank : Nat → Nat)
    (shrinks : ∀ n ≥ start, ¬ goal n → ¬ goal (n + 1) → rank (n + 1) ≤ rank n)
    (moves : ∀ n ≥ start, ¬ goal n → ¬ blocked n →
      goal (n + 1) ∨ rank (n + 1) < rank n ∨ ¬ blocked (n + 1) ∧ (acts n → ∃ key, asks n key))
    (asking : ∀ n ≥ start, ∀ key, ¬ goal n → asks n key →
      goal (n + 1) ∨ rank (n + 1) < rank n ∨ asks (n + 1) key ∧ ¬ grants n key) :
    ∃ m ≥ start, goal m := by
  refine eventually_of_rank shrinks fun n later => ?_
  by_contra stuck
  have never (m : Nat) (after : n ≤ m) : ¬ goal m := fun reached => stuck ⟨m, after, .inl reached⟩
  have level (m : Nat) (after : n ≤ m) : ¬ rank (m + 1) < rank m :=
    fun lower => stuck ⟨m, after, .inr lower⟩
  -- once the run is not blocked it is never blocked again
  obtain ⟨first, after_first, free⟩ := fair.unblocked n
  have unblocked (m : Nat) (after : first ≤ m) :
      ¬ blocked (m + 1) ∧ (acts m → ∃ key, asks m key) := by
    have settled {m : Nat} (after : first ≤ m) (free : ¬ blocked m) :
        ¬ blocked (m + 1) ∧ (acts m → ∃ key, asks m key) := by
      have now : n ≤ m := Nat.le_trans after_first after
      rcases moves m (Nat.le_trans later now) (never m now) free with reached | lower | rest
      · exact absurd reached (never _ (le_succ_of_le now))
      · exact absurd lower (level m now)
      · exact rest
    induction m, after using Nat.le_induction with
    | base => exact settled (Nat.le_refl _) free
    | succ m after ih => exact settled (le_succ_of_le after) ih.1
  -- so the next action asks for something, and it is asked for from then on
  obtain ⟨asked, after_asked, acted⟩ := fair.acts_again first
  obtain ⟨key, asks_key⟩ := (unblocked asked after_asked).2 acted
  have now (m : Nat) (after : asked ≤ m) : n ≤ m :=
    Nat.le_trans after_first (Nat.le_trans after_asked after)
  have refused {m : Nat} (after : asked ≤ m) (asks_now : asks m key) :
      asks (m + 1) key ∧ ¬ grants m key := by
    rcases asking m (Nat.le_trans later (now m after)) key (never m (now m after)) asks_now with
      reached | lower | rest
    · exact absurd reached (never _ (le_succ_of_le (now m after)))
    · exact absurd lower (level m (now m after))
    · exact rest
  have asks_on (m : Nat) (after : asked ≤ m) : asks m key := by
    induction m, after using Nat.le_induction with
    | base => exact asks_key
    | succ m after ih => exact (refused after ih).1
  obtain ⟨m, after, grants_key⟩ := fair.granted asked key asks_on
  exact (refused after (asks_on m after)).2 grants_key

end Progress
