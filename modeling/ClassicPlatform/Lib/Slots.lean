import Mathlib.Data.List.Count
import Mathlib.Tactic.Common

/-!
# Tables of places

A table is a list of places, each with a key; a place may be overwritten. How often a key occurs
says what the table holds, whatever the order of the places.
-/
namespace Slots

open List

variable {Item Key : Type} [DecidableEq Key] (key : Item → Key)

/-- The first place with a key. -/
def position (wanted : Key) (items : List Item) : Option Nat :=
  items.findIdx? fun item => decide (key item = wanted)

/-- How many places have a key. -/
def amount (wanted : Key) (items : List Item) : Nat :=
  items.countP fun item => decide (key item = wanted)

/-- The first place with a key is emptied. -/
def erase (blank : Item) (wanted : Key) (items : List Item) : List Item :=
  match position key wanted items with
  | some index => items.set index blank
  | none => items

def eraseAll (blank : Item) (keys : List Key) (items : List Item) : List Item :=
  keys.foldl (fun items wanted => erase key blank wanted items) items

variable {key} {wanted : Key} {items : List Item} {index : Nat} {old new blank : Item}

theorem position_eq_some (found : position key wanted items = some index) :
    ∃ item, items[index]? = some item ∧ key item = wanted := by
  obtain ⟨within, matching, -⟩ := List.findIdx?_eq_some_iff_getElem.mp found
  exact ⟨items[index], List.getElem?_eq_getElem within, of_decide_eq_true matching⟩

theorem position_eq_none : position key wanted items = none ↔ amount key wanted items = 0 := by
  rw [position, amount]
  simp

theorem amount_pos : 0 < amount key wanted items ↔ ∃ item ∈ items, key item = wanted := by
  rw [amount]
  simp

theorem amount_le {others : List Item} (kept : ∀ (index : Nat) (item : Item),
    items[index]? = some item → key item = wanted → others[index]? = some item) :
    amount key wanted items ≤ amount key wanted others := by
  induction items generalizing others with
  | nil => exact Nat.zero_le _
  | cons item rest ih =>
    have first := kept 0 item rfl
    have later : amount key wanted rest ≤ amount key wanted others.tail :=
      ih fun index item there own => by
        rw [getElem?_tail]
        exact kept (index + 1) item there own
    cases others <;> grind [amount]

theorem amount_set (there : items[index]? = some old) :
    amount key wanted (items.set index new) + (if key old = wanted then 1 else 0) =
      amount key wanted items + (if key new = wanted then 1 else 0) := by
  obtain ⟨within, rfl⟩ := List.getElem?_eq_some_iff.mp there
  have counted : key items[index] = wanted → 0 < amount key wanted items :=
    fun matching => amount_pos.mpr ⟨_, getElem_mem within, matching⟩
  rw [amount]
  rw [amount] at counted ⊢
  split <;> split <;> grind

theorem amount_set_le :
    amount key wanted (items.set index new) ≤
      amount key wanted items + (if key new = wanted then 1 else 0) := by
  cases there : items[index]? with
  | none =>
    rw [set_eq_of_length_le (getElem?_eq_none_iff.mp there)]
    exact Nat.le_add_right _ _
  | some old =>
    have counted : amount key wanted (items.set index new) + (if key old = wanted then 1 else 0) =
        amount key wanted items + (if key new = wanted then 1 else 0) := amount_set there
    omega

theorem amount_set_same (same : key new = key (items.getD index blank)) :
    amount key wanted (items.set index new) = amount key wanted items := by
  cases there : items[index]? with
  | none => rw [set_eq_of_length_le (getElem?_eq_none_iff.mp there)]
  | some old =>
    have counted : amount key wanted (items.set index new) + (if key old = wanted then 1 else 0) =
        amount key wanted items + (if key new = wanted then 1 else 0) := amount_set there
    rw [same, getD_eq_getElem?_getD, there, Option.getD_some] at counted
    omega

theorem getElem?_erase (other : position key wanted items ≠ some index) :
    (erase key blank wanted items)[index]? = items[index]? := by
  rw [erase]
  split
  next first found =>
    have apart : first ≠ index := by
      rintro rfl
      exact other found
    exact List.getElem?_set_ne apart
  · rfl

theorem erase_eq_map (single : amount key wanted items ≤ 1) :
    erase key blank wanted items = items.map fun item => if key item = wanted then blank else item := by
  induction items with
  | nil => rfl
  | cons item rest ih =>
    by_cases own : key item = wanted
    · have others : ∀ other ∈ rest, key other ≠ wanted := by
        intro other member same
        have again : 0 < amount key wanted rest := amount_pos.mpr ⟨other, member, same⟩
        simp only [amount, countP_cons, own, decide_true, if_true] at single again
        omega
      simp only [erase, position, findIdx?_cons, own, decide_true, if_true, set_cons_zero, map_cons]
      congr 1
      conv_lhs => rw [← map_id rest]
      exact map_congr_left fun other member => (if_neg (others other member)).symm
    · have shorter : amount key wanted rest ≤ 1 := by
        simpa [amount, countP_cons, own] using single
      rw [map_cons, if_neg own, ← ih shorter]
      simp only [erase, position, findIdx?_cons, own, decide_false, Bool.false_eq_true, if_false]
      cases findIdx? (fun item => decide (key item = wanted)) rest <;> rfl

theorem amount_erase {other : Key} (emptied : key blank ≠ wanted) :
    amount key wanted (erase key blank other items) =
      amount key wanted items - if other = wanted then 1 else 0 := by
  rw [erase]
  split
  next index found =>
    obtain ⟨item, there, own⟩ := position_eq_some found
    have counted : amount key wanted (items.set index blank) + (if key item = wanted then 1 else 0) =
        amount key wanted items + (if key blank = wanted then 1 else 0) := amount_set there
    rw [own, if_neg emptied] at counted
    omega
  next missing =>
    by_cases same : other = wanted
    · rw [← same, position_eq_none.mp missing, Nat.zero_sub]
    · rw [if_neg same, Nat.sub_zero]

/-! Several keys are erased, one after the other. -/

theorem amount_eraseAll (emptied : key blank ≠ wanted) {keys : List Key} :
    amount key wanted (eraseAll key blank keys items) =
      amount key wanted items - keys.count wanted := by
  induction keys generalizing items with
  | nil => rfl
  | cons first rest ih =>
    rw [eraseAll, foldl_cons, ← eraseAll, ih, amount_erase emptied, count_cons]
    simp only [beq_iff_eq]
    omega

theorem getElem?_eraseAll {keys : List Key} (there : items[index]? = some old)
    (kept : key old ∉ keys) : (eraseAll key blank keys items)[index]? = some old := by
  induction keys generalizing items with
  | nil => exact there
  | cons first rest ih =>
    rw [mem_cons, not_or] at kept
    refine ih ?_ kept.2
    rw [getElem?_erase, there]
    intro found
    obtain ⟨item, here, own⟩ := position_eq_some found
    exact kept.1 (Option.some.inj (there.symm.trans here) ▸ own)

end Slots
