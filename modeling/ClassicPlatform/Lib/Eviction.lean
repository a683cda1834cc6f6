import Mathlib.Tactic.Common

/-!
# Choosing what to evict

One pass over the items of a full store looks for the item that has to make room. The oldest
passive item goes; only if there is none, the oldest of the items that are strictly less
important. The pass keeps the two running minima and what it would evict so far. An item is
seen with four properties: whether the newcomer may replace it when it is passive (`weak`) and
when it is not (`strict`), whether it is `passive`, and its `time`.
-/
namespace Eviction

open List

variable {Item : Type}

/-- What the pass remembers. -/
structure Choice (Item : Type) where
  oldestPassive : Nat
  oldestActive : Nat
  candidate : Option Item
  passiveFound : Bool
  activeFound : Bool

variable (limit : Nat) (weak strict passive : Item → Bool) (time : Item → Nat)

def start : Choice Item :=
  { oldestPassive := limit
    oldestActive := limit
    candidate := none
    passiveFound := false
    activeFound := false }

section

variable (choice : Choice Item) (item : Item)

def considerPassive : Choice Item :=
  if weak item && passive item && decide (time item < choice.oldestPassive) then
    { choice with oldestPassive := time item, candidate := some item, passiveFound := true }
  else choice

def considerActive : Choice Item :=
  if strict item && decide (time item < choice.oldestActive) then
    { choice with oldestActive := time item, candidate := some item, activeFound := true }
  else choice

def consider : Choice Item :=
  let next := considerPassive weak passive time choice item
  if next.passiveFound then next else considerActive strict time next item

end

def choose (items : List Item) : Option Item :=
  let last := items.foldl (consider weak strict passive time) (start limit)
  if last.passiveFound || last.activeFound then last.candidate else none

structure Oldest (eligible : Item → Prop) (items : List Item) (item : Item) : Prop where
  member : item ∈ items
  holds : eligible item
  least : ∀ other ∈ items, eligible other → time item ≤ time other

theorem oldest_filter {counts : Item → Bool} {eligible : Item → Prop} {items : List Item}
    {item : Item} :
    Oldest time eligible (items.filter counts) item ↔
      Oldest time (fun other => counts other ∧ eligible other) items item := by
  constructor
  · intro oldest
    obtain ⟨member, counted⟩ := mem_filter.mp oldest.member
    refine ⟨member, ⟨counted, oldest.holds⟩, fun other there both => ?_⟩
    exact oldest.least other (mem_filter.mpr ⟨there, both.1⟩) both.2
  · intro oldest
    refine ⟨mem_filter.mpr ⟨oldest.member, oldest.holds.1⟩, oldest.holds.2, ?_⟩
    intro other there holds
    obtain ⟨member, counted⟩ := mem_filter.mp there
    exact oldest.least other member ⟨counted, holds⟩

/-- What the pass knows after the items it has seen. -/
inductive Chosen (seen : List Item) : Choice Item → Prop
  | passive {item : Item} {oldestActive : Nat} {activeFound : Bool}
    (oldest : Oldest time (fun other => weak other = true ∧ passive other = true) seen item) :
    Chosen seen ⟨time item, oldestActive, some item, true, activeFound⟩
  | active {item : Item}
    (none_passive : ∀ other ∈ seen, ¬ (weak other = true ∧ passive other = true))
    (oldest : Oldest time (fun other => strict other = true) seen item) :
    Chosen seen ⟨limit, time item, some item, false, true⟩
  | neither
    (none_passive : ∀ other ∈ seen, ¬ (weak other = true ∧ passive other = true))
    (none_strict : ∀ other ∈ seen, ¬ strict other = true) :
    Chosen seen ⟨limit, limit, none, false, false⟩

section

variable {limit weak strict passive time} {eligible : Item → Prop}
variable {seen items : List Item} {item other : Item} {choice : Choice Item}

theorem Oldest.keep (oldest : Oldest time eligible seen item)
    (later : eligible other → time item ≤ time other) :
    Oldest time eligible (seen ++ [other]) item where
  member := mem_append_left _ oldest.member
  holds := oldest.holds
  least := by
    intro next member holds
    rcases mem_append.mp member with member | member
    · exact oldest.least next member holds
    · rw [mem_singleton] at member
      subst member
      exact later holds

theorem Oldest.last (holds : eligible other)
    (earlier : ∀ next ∈ seen, eligible next → time other ≤ time next) :
    Oldest time eligible (seen ++ [other]) other where
  member := by simp
  holds := holds
  least := by
    intro next member next_holds
    rcases mem_append.mp member with member | member
    · exact earlier next member next_holds
    · rw [mem_singleton] at member
      exact member ▸ Nat.le_refl _

private theorem none_append (before : ∀ next ∈ seen, ¬ eligible next)
    (last : ¬ eligible other) : ∀ next ∈ seen ++ [other], ¬ eligible next := by
  intro next member
  rcases mem_append.mp member with member | member
  · exact before next member
  · rw [mem_singleton] at member
    exact member ▸ last

private theorem considerActive_skip (skip : strict other → choice.oldestActive ≤ time other) :
    considerActive strict time choice other = choice := by
  rw [considerActive, if_neg]
  simp only [Bool.and_eq_true, decide_eq_true_eq, not_and, Nat.not_lt]
  exact skip

private theorem Chosen.turn (below : time other < limit)
    (none_passive : ∀ next ∈ seen, ¬ (weak next ∧ passive next))
    (bound : choice.oldestPassive = limit) (unfound : choice.passiveFound = false)
    (active : ¬ (weak other ∧ passive other) →
      Chosen limit weak strict passive time (seen ++ [other])
        (considerActive strict time choice other)) :
    Chosen limit weak strict passive time (seen ++ [other])
      (consider weak strict passive time choice other) := by
  by_cases passively : weak other = true ∧ passive other = true
  · simp only [consider, considerPassive, passively, bound, below]
    apply Chosen.passive
    exact Oldest.last passively fun next member holds => absurd holds (none_passive next member)
  · have skips : considerPassive weak passive time choice other = choice :=
      if_neg fun found => passively (by simp_all)
    simp only [consider, skips, unfound]
    exact active passively

theorem Chosen.step (below : time other < limit)
    (chosen : Chosen limit weak strict passive time seen choice) :
    Chosen limit weak strict passive time (seen ++ [other])
      (consider weak strict passive time choice other) := by
  cases chosen with
  | passive oldest =>
    next item oldestActive activeFound =>
    by_cases better : (weak other && passive other && decide (time other < time item)) = true
    · simp only [consider, considerPassive, if_pos better]
      simp only [Bool.and_eq_true, decide_eq_true_eq] at better
      apply Chosen.passive
      refine Oldest.last better.1 fun next member holds => ?_
      exact Nat.le_of_lt (Nat.lt_of_lt_of_le better.2 (oldest.least next member holds))
    · simp only [consider, considerPassive, if_neg better]
      apply Chosen.passive
      apply oldest.keep
      rintro ⟨weakly, passively⟩
      simpa [weakly, passively] using better
  | active none_passive oldest =>
    next item =>
    refine .turn below none_passive rfl rfl fun passively => ?_
    by_cases better : (strict other && decide (time other < time item)) = true
    · simp only [considerActive, if_pos better]
      simp only [Bool.and_eq_true, decide_eq_true_eq] at better
      apply Chosen.active (none_append none_passive passively)
      refine Oldest.last better.1 fun next member holds => ?_
      exact Nat.le_of_lt (Nat.lt_of_lt_of_le better.2 (oldest.least next member holds))
    · simp only [considerActive, if_neg better]
      apply Chosen.active (none_append none_passive passively)
      apply oldest.keep
      intro strictly
      simpa [strictly] using better
  | neither none_passive none_strict =>
    refine .turn below none_passive rfl rfl fun passively => ?_
    by_cases strictly : strict other = true
    · simp only [considerActive, strictly, below]
      apply Chosen.active (none_append none_passive passively)
      exact Oldest.last strictly fun next member holds => absurd holds (none_strict next member)
    · rw [considerActive_skip fun holds => absurd holds strictly]
      exact Chosen.neither (none_append none_passive passively) (none_append none_strict strictly)

theorem choose_mem (chosen : choose limit weak strict passive time items = some item) :
    item ∈ items := by
  have among : ∀ other, (items.foldl (consider weak strict passive time)
      (start limit)).candidate = some other → other ∈ items := by
    refine foldlRecOn (motive := fun choice : Choice Item =>
      ∀ other, choice.candidate = some other → other ∈ items) _ _ nofun ?_
    intro choice before next member other
    simp only [consider, considerPassive, considerActive]
    grind
  rw [choose] at chosen
  split at chosen
  · exact among item chosen
  · cases chosen

section

variable (below : ∀ item ∈ items, time item < limit)
include below

theorem Chosen.run (chosen : Chosen limit weak strict passive time seen choice) :
    Chosen limit weak strict passive time (seen ++ items)
      (items.foldl (consider weak strict passive time) choice) := by
  induction items generalizing seen choice with
  | nil => simpa using chosen
  | cons item rest ih =>
    have stepped := chosen.step (below item mem_cons_self)
    have finished := ih (fun other member => below other (mem_cons_of_mem item member)) stepped
    rw [append_assoc] at finished
    exact finished

private theorem chosen_items :
    Chosen limit weak strict passive time items
      (items.foldl (consider weak strict passive time) (start limit)) := by
  have first : Chosen limit weak strict passive time [] (start limit) := .neither nofun nofun
  exact Chosen.run below first

section

variable (strict_weak : ∀ item ∈ items, strict item → weak item)
include strict_weak

theorem choose_eq_some (chosen : choose limit weak strict passive time items = some item) :
    Oldest time (fun other => weak other ∧ passive other) items item ∨
      (∀ other ∈ items, ¬ (weak other ∧ passive other)) ∧
        Oldest time (fun other => strict other ∧ passive other = false) items item := by
  rw [choose] at chosen
  generalize found : items.foldl (consider weak strict passive time) (start limit) = last at chosen
  cases found ▸ chosen_items below with
  | passive oldest =>
    simp only [Bool.true_or, if_true, Option.some.injEq] at chosen
    subst chosen
    exact .inl oldest
  | active none_passive oldest =>
    simp only [Bool.false_or, if_true, Option.some.injEq] at chosen
    subst chosen
    have active (other : Item) (member : other ∈ items) (strictly : strict other = true) :
        passive other = false :=
      Bool.eq_false_iff.mpr fun passively =>
        none_passive other member ⟨strict_weak other member strictly, passively⟩
    exact .inr ⟨none_passive, oldest.member,
      ⟨oldest.holds, active _ oldest.member oldest.holds⟩,
      fun other member holds => oldest.least other member holds.1⟩
  | neither => simp at chosen

theorem choose_eq_none :
    choose limit weak strict passive time items = none ↔
      (∀ other ∈ items, ¬ (weak other ∧ passive other)) ∧
        ∀ other ∈ items, ¬ (strict other ∧ passive other = false) := by
  rw [choose]
  generalize found : items.foldl (consider weak strict passive time) (start limit) = last
  cases found ▸ chosen_items below with
  | passive oldest =>
    simp only [Bool.true_or, if_true, reduceCtorEq, false_iff]
    rintro ⟨none_passive, -⟩
    exact none_passive _ oldest.member oldest.holds
  | active none_passive oldest =>
    simp only [Bool.false_or, if_true, reduceCtorEq, false_iff]
    rintro ⟨-, none_strict⟩
    apply none_strict _ oldest.member
    refine ⟨oldest.holds, Bool.eq_false_iff.mpr fun passively => ?_⟩
    exact none_passive _ oldest.member ⟨strict_weak _ oldest.member oldest.holds, passively⟩
  | neither none_passive none_strict =>
    simp only [Bool.or_self, Bool.false_eq_true, if_false, true_iff]
    exact ⟨none_passive, fun other member holds => none_strict other member holds.1⟩

end

end

end

end Eviction
