import Mathlib.Algebra.GroupWithZero.Nat
import Mathlib.Tactic.Common

/-!
# Machines with outputs

A machine maps a state and an action to the next state and the outputs of the
step. Runs take a list of actions; `Meets` says that every action of a run
satisfies a condition in the state it is taken in. A monitor reads outputs one by
one and gives up at the first that is out of order.
-/
namespace Machine

open List

variable {State Action Output Monitor : Type}

/-- The state a run ends in and everything it put out. -/
def run (step : State → Action → State × List Output) :
    State → List Action → State × List Output
  | state, [] => (state, [])
  | state, action :: rest =>
    let next := step state action
    let last := run step next.1 rest
    (last.1, next.2 ++ last.2)

def Meets (step : State → Action → State × List Output) (condition : State → Action → Prop) :
    State → List Action → Prop
  | _, [] => True
  | state, action :: rest =>
    condition state action ∧ Meets step condition (step state action).1 rest

instance decidableMeets {step : State → Action → State × List Output}
    {condition : State → Action → Prop} [∀ state action, Decidable (condition state action)] :
    (state : State) → (actions : List Action) → Decidable (Meets step condition state actions)
  | _, [] => isTrue trivial
  | state, action :: rest =>
    have : Decidable (Meets step condition (step state action).1 rest) := decidableMeets _ _
    inferInstanceAs (Decidable (_ ∧ _))

/-- How many of the steps of a run count. -/
def tally (step : State → Action → State × List Output) (counts : State → Action → Bool) :
    State → List Action → Nat
  | _, [] => 0
  | state, action :: rest =>
    (if counts state action then 1 else 0) + tally step counts (step state action).1 rest

def watch (monitor : Monitor → Output → Option Monitor) (seen : Monitor) (outputs : List Output) :
    Option Monitor :=
  outputs.foldlM monitor seen

/-- What is put out is in order, and the monitor tracks the state that is reached. -/
abbrev Accepts (monitor : Monitor → Output → Option Monitor) (Tracks : State → Monitor → Prop)
    (seen : Monitor) (outcome : State × List Output) : Prop :=
  ∃ next, watch monitor seen outcome.2 = some next ∧ Tracks outcome.1 next

variable {step : State → Action → State × List Output} {condition : State → Action → Prop}
variable {monitor : Monitor → Output → Option Monitor} {seen : Monitor}

@[simp] theorem run_nil (state : State) : run step state [] = (state, []) := rfl

theorem run_cons (state : State) (action : Action) (rest : List Action) :
    run step state (action :: rest) =
      ((run step (step state action).1 rest).1,
        (step state action).2 ++ (run step (step state action).1 rest).2) := rfl

theorem run_append (state : State) (first second : List Action) :
    (run step state (first ++ second)).1 = (run step (run step state first).1 second).1 := by
  induction first generalizing state with
  | nil => rfl
  | cons action rest ih => exact ih (step state action).1

theorem meets_append (state : State) (first second : List Action) :
    Meets step condition state (first ++ second) ↔
      Meets step condition state first ∧ Meets step condition (run step state first).1 second := by
  induction first generalizing state with
  | nil => simp [Meets]
  | cons action rest ih =>
    change _ ∧ Meets step condition _ (rest ++ second) ↔ (_ ∧ _) ∧ _
    rw [ih, and_assoc]
    rfl

@[simp] theorem watch_nil (seen : Monitor) : watch monitor seen [] = some seen := rfl

@[simp] theorem watch_cons (seen : Monitor) (output : Output) (rest : List Output) :
    watch monitor seen (output :: rest) =
      (monitor seen output).bind fun next => watch monitor next rest := rfl

theorem watch_append (seen : Monitor) (first second : List Output) :
    watch monitor seen (first ++ second) =
      (watch monitor seen first).bind fun next => watch monitor next second := by
  simp only [watch, foldlM_append]
  rfl

theorem watch_skip {outputs : List Output}
    (skipped : ∀ output ∈ outputs, monitor seen output = some seen) :
    watch monitor seen outputs = some seen := by
  induction outputs with
  | nil => rfl
  | cons output rest ih =>
    rw [watch_cons, skipped output mem_cons_self]
    exact ih fun other member => skipped other (mem_cons_of_mem _ member)

variable {actions : List Action} {state : State}

theorem Meets.of_forall {condition : Action → Prop} (each : ∀ action ∈ actions, condition action) :
    Meets step (fun _ action => condition action) state actions := by
  induction actions generalizing state with
  | nil => trivial
  | cons action rest ih =>
    exact ⟨each action mem_cons_self,
      ih fun other member => each other (mem_cons_of_mem action member)⟩

theorem Meets.imp {weaker : State → Action → Prop}
    (implies : ∀ state action, condition state action → weaker state action)
    (meets : Meets step condition state actions) : Meets step weaker state actions := by
  induction actions generalizing state with
  | nil => trivial
  | cons action rest ih => exact ⟨implies state action meets.1, ih meets.2⟩

theorem Meets.and {other : State → Action → Prop}
    (meets : Meets step condition state actions) (meets' : Meets step other state actions) :
    Meets step (fun state action => condition state action ∧ other state action) state
      actions := by
  induction actions generalizing state with
  | nil => trivial
  | cons action rest ih => exact ⟨⟨meets.1, meets'.1⟩, ih meets.2 meets'.2⟩

theorem run_simulates {Abstract : Type} {step' : Abstract → Action → Abstract × List Output}
    {condition' : Abstract → Action → Prop} {Related : State → Abstract → Prop}
    (keeps : ∀ state abstract action, Related state abstract → condition state action →
      condition' abstract action → (step state action).2 = (step' abstract action).2 ∧
        Related (step state action).1 (step' abstract action).1)
    {abstract : Abstract} (related : Related state abstract)
    (meets : Meets step condition state actions)
    (meets' : Meets step' condition' abstract actions) :
    (run step state actions).2 = (run step' abstract actions).2 := by
  induction actions generalizing state abstract with
  | nil => rfl
  | cons action rest ih =>
    obtain ⟨same, kept⟩ := keeps state abstract action related meets.1 meets'.1
    rw [run_cons, run_cons, same, ih kept meets.2 meets'.2]

variable (Invariant : State → Prop)

theorem run_invariant (holds : Invariant state) (meets : Meets step condition state actions)
    (keeps : ∀ state action, Invariant state → condition state action →
      Invariant (step state action).1) : Invariant (run step state actions).1 := by
  induction actions generalizing state with
  | nil => exact holds
  | cons action rest ih => exact ih (keeps state action holds meets.1) meets.2

theorem run_history (Invariant : State → List Output → Prop) {past : List Output}
    (holds : Invariant state past) (meets : Meets step condition state actions)
    (keeps : ∀ state action past, Invariant state past → condition state action →
      Invariant (step state action).1 (past ++ (step state action).2)) :
    Invariant (run step state actions).1 (past ++ (run step state actions).2) := by
  induction actions generalizing state past with
  | nil =>
    rw [run_nil, append_nil]
    exact holds
  | cons action rest ih =>
    rw [run_cons, ← append_assoc]
    exact ih (keeps state action past holds meets.1) meets.2

section

variable (keeps : ∀ state action, Invariant state → condition state action →
  Invariant (step state action).1)
include keeps

theorem Meets.strengthen {stronger : State → Action → Prop}
    (implies : ∀ state action, Invariant state → condition state action → stronger state action)
    (holds : Invariant state)
    (meets : Meets step condition state actions) : Meets step stronger state actions := by
  induction actions generalizing state with
  | nil => trivial
  | cons action rest ih =>
    exact ⟨implies state action holds meets.1, ih (keeps state action holds meets.1) meets.2⟩

theorem tally_le {counts : State → Action → Bool} {rank : State → Nat}
    (drops : ∀ state action, Invariant state → condition state action →
      rank (step state action).1 + (if counts state action then 1 else 0) ≤ rank state)
    (holds : Invariant state)
    (meets : Meets step condition state actions) : tally step counts state actions ≤ rank state := by
  induction actions generalizing state with
  | nil => exact Nat.zero_le _
  | cons action rest ih =>
    have later := ih (keeps state action holds meets.1) meets.2
    have now := drops state action holds meets.1
    simp only [tally]
    omega

end

theorem run_outputs {allowed : Output → Prop} (holds : Invariant state)
    (meets : Meets step condition state actions)
    (keeps : ∀ state action, Invariant state → condition state action →
      Invariant (step state action).1 ∧ ∀ output ∈ (step state action).2, allowed output) :
    Invariant (run step state actions).1 ∧
      ∀ output ∈ (run step state actions).2, allowed output := by
  induction actions generalizing state with
  | nil => exact ⟨holds, nofun⟩
  | cons action rest ih =>
    obtain ⟨kept, now⟩ := keeps state action holds meets.1
    obtain ⟨last, later⟩ := ih kept meets.2
    refine ⟨last, fun output member => ?_⟩
    rcases mem_append.mp member with member | member
    · exact now output member
    · exact later output member

theorem run_watched (Tracks : State → Monitor → Prop) (tracks : Tracks state seen)
    (meets : Meets step condition state actions)
    (keeps : ∀ state action seen, Tracks state seen → condition state action →
      Accepts monitor Tracks seen (step state action)) :
    Accepts monitor Tracks seen (run step state actions) := by
  induction actions generalizing state seen with
  | nil => exact ⟨seen, rfl, tracks⟩
  | cons action rest ih =>
    obtain ⟨next, watched, tracked⟩ := keeps state action seen tracks meets.1
    obtain ⟨last, rest_watched, rest_tracked⟩ := ih tracked meets.2
    refine ⟨last, ?_, rest_tracked⟩
    rw [run_cons, watch_append, watched]
    exact rest_watched

end Machine
