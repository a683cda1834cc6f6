import Mathlib.Algebra.GroupWithZero.Nat
import Mathlib.Data.List.Perm.Basic
import Mathlib.Tactic.Common

/-!
# Renumbering a table in the order of its time stamps

A table with free places is sorted by exchanges and numbered in the same pass: for each used
place, the items behind it are visited from the last to the first and exchanged with it if they
are older; what then stands there gets the next number. Free places stay where they are.
-/
namespace Renumber

open Function List

variable {Item : Type} (free : Item → Bool) (time : Item → Nat) (stamp : Nat → Item → Item)

/-- The visits of one place: the item that stays there, and the items behind it. -/
def sink (held : Item) : List Item → Item × List Item
  | [] => (held, [])
  | item :: rest =>
    let after := sink held rest
    if !free item && decide (time item < time after.1) then (item, after.1 :: after.2)
    else (after.1, item :: after.2)

/-- The places that are left, and the next number. -/
def rearrange : Nat → Nat → List Item → List Item × Nat
  | fuel + 1, number, item :: rest =>
    if free item then
      let last := rearrange fuel number rest
      (item :: last.1, last.2)
    else
      let sunk := sink free time item rest
      let last := rearrange fuel (number + 1) sunk.2
      (stamp number sunk.1 :: last.1, last.2)
  | _, number, items => (items, number)

def renumber (number : Nat) (items : List Item) : List Item × Nat :=
  rearrange free time stamp items.length number items

/-- Several tables in a row. -/
def renumberAll {Place : Type} [DecidableEq Place] :
    List Place → Nat → (Place → List Item) → (Place → List Item) × Nat
  | [], number, tables => (tables, number)
  | place :: rest, number, tables =>
    let next := renumber free time stamp number (tables place)
    renumberAll rest next.2 (update tables place next.1)

def used (items : List Item) : List Item :=
  items.filter fun item => !free item

/-- How many places of several tables are used. -/
def total {Place : Type} (places : List Place) (tables : Place → List Item) : Nat :=
  (places.map fun place => (used free (tables place)).length).sum

/-- What the visits of one place do: nothing is lost, the places that were free are free, and the
oldest item stays. -/
structure Sunk (held : Item) (items : List Item) (sunk : Item × List Item) : Prop where
  perm : (sunk.1 :: used free sunk.2).Perm (held :: used free items)
  places : sunk.2.map free = items.map free
  is_used : free sunk.1 = false
  least : ∀ other ∈ used free sunk.2, time sunk.1 ≤ time other

/-- The items that are kept, from the oldest to the newest, have consecutive numbers. -/
structure Renumbered (number : Nat) (before after sorted : List Item) : Prop where
  same : sorted.Perm (used free before)
  ordered : sorted.Pairwise fun first second => time first ≤ time second
  numbers : used free after = sorted.mapIdx fun index item => stamp (number + index) item

/-- What renumbering does to several tables: their numbers follow each other, and a table that is
not among them stays as it is. -/
structure AllRenumbered {Place : Type} (places : List Place) (number : Nat)
    (before after : Place → List Item) (next : Nat) : Prop where
  each : ∀ place ∈ places, ∃ first sorted,
    Renumbered free time stamp first (before place) (after place) sorted
  numbers : (places.flatMap fun place => (used free (after place)).map time) =
    List.range' number (next - number)
  others : ∀ place, place ∉ places → after place = before place
  grows : number ≤ next

section

variable {free time stamp} {held item : Item} {items rest : List Item}

theorem used_cons_free (is_free : free item) : used free (item :: rest) = used free rest := by
  simp [used, is_free]

theorem used_cons_used (is_used : free item = false) :
    used free (item :: rest) = item :: used free rest := by
  simp [used, is_used]

theorem mem_used : item ∈ used free items ↔ item ∈ items ∧ free item = false := by
  simp [used]

theorem sink_sunk (is_used : free held = false) (items : List Item) :
    Sunk free time held items (sink free time held items) := by
  induction items with
  | nil => exact ⟨.refl _, rfl, is_used, nofun⟩
  | cons item rest ih =>
    rw [sink]
    generalize sink free time held rest = after at ih
    by_cases older : (!free item && decide (time item < time after.1)) = true
    · rw [if_pos older]
      simp only [Bool.and_eq_true, Bool.not_eq_eq_eq_not, decide_eq_true_eq] at older
      refine ⟨?_, by simp [ih.places, ih.is_used, older.1], older.1, fun other member => ?_⟩
      · simp only [used_cons_used ih.is_used, used_cons_used older.1]
        exact (ih.perm.cons item).trans (.swap held item _)
      · rw [used_cons_used ih.is_used, mem_cons] at member
        rcases member with rfl | member
        · exact Nat.le_of_lt older.2
        · exact Nat.le_trans (Nat.le_of_lt older.2) (ih.least other member)
    · rw [if_neg older]
      cases is_free : free item with
      | true =>
        refine ⟨?_, by simp [ih.places], ih.is_used, ?_⟩
        · simp only [used_cons_free is_free]
          exact ih.perm
        · simp only [used_cons_free is_free]
          exact ih.least
      | false =>
        refine ⟨?_, by simp [ih.places], ih.is_used, fun other member => ?_⟩
        · simp only [used_cons_used is_free]
          exact (List.Perm.swap item after.1 _).trans
            ((ih.perm.cons item).trans (.swap held item _))
        · rw [used_cons_used is_free, mem_cons] at member
          rcases member with rfl | member
          · simpa [is_free] using older
          · exact ih.least other member

private theorem Sunk.length {sunk : Item × List Item} (result : Sunk free time held items sunk) :
    sunk.2.length = items.length := by
  simpa using congrArg List.length result.places

variable (stamp_free : ∀ number item, free (stamp number item) = free item)
include stamp_free

theorem rearrange_renumbered (fuel number : Nat) (items : List Item)
    (enough : items.length ≤ fuel) :
    ∃ sorted, Renumbered free time stamp number items
        (rearrange free time stamp fuel number items).1 sorted ∧
      (rearrange free time stamp fuel number items).2 = number + sorted.length := by
  induction fuel generalizing items number with
  | zero =>
    rw [Nat.le_zero, length_eq_zero_iff] at enough
    subst enough
    exact ⟨[], ⟨.refl _, .nil, rfl⟩, rfl⟩
  | succ fuel ih =>
    cases items with
    | nil => exact ⟨[], ⟨.refl _, .nil, rfl⟩, rfl⟩
    | cons item rest =>
      rw [length_cons, Nat.add_le_add_iff_right] at enough
      cases is_free : free item with
      | true =>
        obtain ⟨sorted, result, next⟩ := ih number rest enough
        refine ⟨sorted, ⟨?_, result.ordered, ?_⟩, ?_⟩
        · rw [used_cons_free is_free]
          exact result.same
        · simp only [rearrange, is_free, if_true, used_cons_free]
          exact result.numbers
        · simp only [rearrange, is_free]
          exact next
      | false =>
        have sunk : Sunk free time item rest (sink free time item rest) :=
          sink_sunk is_free rest
        generalize held : sink free time item rest = after at sunk
        obtain ⟨sorted, result, next⟩ :=
          ih (number + 1) after.2 (Nat.le_trans (Nat.le_of_eq sunk.length) enough)
        -- the item that stays is older than all that are sorted after it
        refine ⟨after.1 :: sorted, ⟨?_, ?_, ?_⟩, ?_⟩
        · rw [used_cons_used is_free]
          exact (result.same.cons after.1).trans sunk.perm
        · refine List.Pairwise.cons (fun other member => ?_) result.ordered
          exact sunk.least other (result.same.subset member)
        · have stays : free (stamp number after.1) = false := (stamp_free _ _).trans sunk.is_used
          simp only [rearrange, is_free, held, Bool.false_eq_true, if_false, mapIdx_cons,
            used_cons_used stays, result.numbers, add_zero, add_assoc, add_comm 1]
        · simp only [rearrange, is_free, held, Bool.false_eq_true, if_false, length_cons]
          omega

theorem renumber_renumbered (number : Nat) (items : List Item) :
    ∃ sorted, Renumbered free time stamp number items
        (renumber free time stamp number items).1 sorted ∧
      (renumber free time stamp number items).2 = number + sorted.length :=
  rearrange_renumbered stamp_free items.length number items (Nat.le_refl _)

end

section

variable {free time stamp} {item : Item} {before after sorted : List Item} {number next : Nat}

variable (stamp_time : ∀ number item, time (stamp number item) = number)
include stamp_time

theorem Renumbered.times (result : Renumbered free time stamp number before after sorted) :
    (used free after).map time = List.range' number sorted.length := by
  rw [result.numbers]
  apply ext_getElem
  · simp
  · intro index _ _
    simp [stamp_time]

variable {Place : Type} [DecidableEq Place]
  (stamp_free : ∀ number item, free (stamp number item) = free item)
include stamp_free

theorem renumberAll_renumbered (places : List Place) (nodup : places.Nodup) (number : Nat)
    (tables : Place → List Item) :
    AllRenumbered free time stamp places number tables
      (renumberAll free time stamp places number tables).1
      (renumberAll free time stamp places number tables).2 := by
  induction places generalizing number tables with
  | nil => exact ⟨nofun, by simp [renumberAll], fun _ _ => rfl, Nat.le_refl number⟩
  | cons place rest ih =>
    obtain ⟨fresh, rest_nodup⟩ := nodup_cons.mp nodup
    obtain ⟨sorted, renumbered, next⟩ := renumber_renumbered stamp_free number (tables place)
    have later := ih rest_nodup (renumber free time stamp number (tables place)).2
      (update tables place (renumber free time stamp number (tables place)).1)
    rw [renumberAll]
    generalize renumberAll free time stamp rest _ _ = last at later
    have here : last.1 place = (renumber free time stamp number (tables place)).1 := by
      rw [later.others place fresh, update_self]
    refine ⟨?_, ?_, ?_, ?_⟩
    · intro other member
      rcases mem_cons.mp member with rfl | member
      · exact ⟨number, sorted, here ▸ renumbered⟩
      · obtain ⟨first, sorted, result⟩ := later.each other member
        rw [update_of_ne (ne_of_mem_of_not_mem member fresh)] at result
        exact ⟨first, sorted, result⟩
    · have grows := later.grows
      rw [flatMap_cons, here, renumbered.times stamp_time, later.numbers, next,
        List.range'_append_1]
      congr 1
      omega
    · intro other absent
      rw [mem_cons, not_or] at absent
      obtain ⟨apart, absent⟩ := absent
      rw [later.others other absent, update_of_ne apart]
    · exact Nat.le_trans (by rw [next]; exact Nat.le_add_right _ _) later.grows

omit stamp_time in
theorem renumberAll_next (places : List Place) (nodup : places.Nodup) (number : Nat)
    (tables : Place → List Item) :
    (renumberAll free time stamp places number tables).2 = number + total free places tables := by
  induction places generalizing number tables with
  | nil => rfl
  | cons place rest ih =>
    obtain ⟨fresh, rest_nodup⟩ := nodup_cons.mp nodup
    obtain ⟨sorted, renumbered, next⟩ := renumber_renumbered stamp_free number (tables place)
    have others : total free rest (update tables place
        (renumber free time stamp number (tables place)).1) = total free rest tables := by
      rw [total]
      congr 1
      apply map_congr_left
      intro other member
      rw [update_of_ne (ne_of_mem_of_not_mem member fresh)]
    rw [renumberAll, ih rest_nodup, others, next, renumbered.same.length_eq, total, total,
      map_cons, sum_cons, add_assoc]

omit [DecidableEq Place] stamp_time stamp_free in
theorem AllRenumbered.countP_eq {places : List Place} {tables renumbered : Place → List Item}
    (result : AllRenumbered free time stamp places number tables renumbered next)
    {counts : Item → Bool} (counts_used : ∀ item, counts item → free item = false)
    (stamp_counts : ∀ number item, counts (stamp number item) = counts item) (place : Place) :
    (renumbered place).countP counts = (tables place).countP counts := by
  have among_used (items : List Item) : (used free items).countP counts = items.countP counts := by
    rw [used, countP_filter]
    apply countP_congr
    intro item _
    have := counts_used item
    grind
  by_cases listed : place ∈ places
  · obtain ⟨first, sorted, each⟩ := result.each place listed
    rw [← among_used, ← among_used (tables place), each.numbers, ← each.same.countP_eq]
    rw [mapIdx_eq_zipIdx_map, countP_map]
    conv_rhs => rw [← zipIdx_map_fst 0 sorted, countP_map]
    apply countP_congr
    intro item _
    simp [stamp_counts]
  · rw [result.others place listed]

omit [DecidableEq Place] stamp_time stamp_free in
theorem AllRenumbered.below {places : List Place} {tables renumbered : Place → List Item}
    {place : Place} (result : AllRenumbered free time stamp places number tables renumbered next)
    (listed : place ∈ places) (member : item ∈ used free (renumbered place)) :
    time item < next := by
  have numbered : time item ∈ places.flatMap fun place => (used free (renumbered place)).map time :=
    mem_flatMap.mpr ⟨place, listed, mem_map_of_mem member⟩
  rw [result.numbers, mem_range'_1] at numbered
  omega

end

end Renumber
