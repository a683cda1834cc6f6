import Mathlib.Data.Int.NatAbs
import Mathlib.Logic.Function.Basic
import Mathlib.Data.List.Nodup
import Mathlib.Tactic.Common

/-!
# Byte lanes

Words are moved to and from byte memory one byte at a time. The order in which
the bytes are visited is a list of addresses, least significant byte first; both
byte orders are instances of it. A load shifts the bytes in from the most
significant end, a store shifts them out from the least significant end.
-/
namespace ByteLanes

open Function List

/-- Byte memory around an object; addresses are offsets and may be negative. -/
abbrev Memory := Int → BitVec 8

variable {w : Nat} (p : Int) (m : Memory) (count : Nat) (lanes : List Int)

/-- Accumulate the bytes of `lanes`, most significant lane first. -/
def load : BitVec w :=
  lanes.reverse.foldl (fun acc a => (acc <<< 8) ||| (m a).setWidth w) 0

/-- Write the low bytes of `v` to `lanes`, least significant lane first. -/
def store {w : Nat} (m : Memory) : List Int → BitVec w → Memory
  | [], _ => m
  | a :: rest, v => store (update m a (v.setWidth 8)) rest (v >>> 8)

/-- `count` consecutive addresses from `p` upwards. -/
def ascending : List Int := (List.range count).map fun i : Nat => p + (i : Int)

/-- `count` consecutive addresses from `p + count - 1` down to `p`. -/
def descending : List Int := (ascending p count).reverse

@[simp] theorem length_ascending : (ascending p count).length = count := by
  simp [ascending]

@[simp] theorem length_descending : (descending p count).length = count := by
  simp [descending]

theorem mem_ascending {p a : Int} {count : Nat} :
    a ∈ ascending p count ↔ p ≤ a ∧ a < p + count := by
  simp only [ascending, mem_map, mem_range]
  constructor
  · rintro ⟨i, below, rfl⟩
    omega
  · intro bounds
    exact ⟨(a - p).toNat, by omega, by omega⟩

theorem mem_descending {p a : Int} {count : Nat} :
    a ∈ descending p count ↔ p ≤ a ∧ a < p + count := by
  rw [descending, mem_reverse, mem_ascending]

theorem nodup_ascending : (ascending p count).Nodup := by
  have injective : Function.Injective fun i : Nat => p + (i : Int) := by
    intro i j same
    dsimp only at same
    omega
  exact nodup_range.map injective

theorem nodup_descending : (descending p count).Nodup :=
  nodup_reverse.mpr (nodup_ascending p count)

theorem load_cons (a : Int) (rest : List Int) :
    (load m (a :: rest) : BitVec w) = (load m rest <<< 8) ||| (m a).setWidth w := by
  simp [load]

theorem getLsbD_load (j : Nat) (inside : j < w) :
    (load m lanes : BitVec w).getLsbD j =
      match lanes[j / 8]? with
      | some a => (m a).getLsbD (j % 8)
      | none => false := by
  induction lanes generalizing j with
  | nil => simp [load]
  | cons a rest ih =>
    rw [load_cons, BitVec.getLsbD_or, BitVec.getLsbD_shiftLeft]
    by_cases low : j < 8
    · -- the newest byte: the shift has made room for exactly these bits
      have first : j / 8 = 0 := by omega
      have same : j % 8 = j := by omega
      simp [low, inside, first, same]
    · have high : (m a).getLsbD j = false := BitVec.getLsbD_of_ge _ _ (by omega)
      have split : j / 8 = (j - 8) / 8 + 1 := by omega
      have rem : j % 8 = (j - 8) % 8 := by omega
      have later := ih (j - 8) (by omega)
      rw [later, split, rem]
      simp [low, inside, high]

theorem store_frame (v : BitVec w) (x : Int) (outside : x ∉ lanes) : store m lanes v x = m x := by
  induction lanes generalizing m v with
  | nil => rfl
  | cons a rest ih =>
    simp only [mem_cons, not_or] at outside
    rw [store, ih _ _ outside.2, update_of_ne outside.1]

theorem getLsbD_store (distinct : lanes.Nodup)
    (v : BitVec w) (k : Nat) (a : Int) (lane : lanes[k]? = some a) (b : Nat) (low : b < 8) :
    (store m lanes v a).getLsbD b = v.getLsbD (8 * k + b) := by
  induction lanes generalizing m v k with
  | nil => simp at lane
  | cons first rest ih =>
    obtain ⟨fresh, distinct⟩ := nodup_cons.mp distinct
    cases k with
    | zero =>
      obtain rfl : first = a := by simpa using lane
      rw [store, store_frame _ _ _ _ fresh]
      simp [low]
    | succ k =>
      rw [store, ih _ distinct _ k (by simpa using lane), BitVec.getLsbD_ushiftRight]
      congr 1
      omega

theorem getLsbD_load_store {u : Nat} (m : Memory) (lanes : List Int) (distinct : lanes.Nodup)
    (v : BitVec w) (j : Nat) (inside : j < u) (covered : j < 8 * lanes.length) :
    (load (store m lanes v) lanes : BitVec u).getLsbD j = v.getLsbD j := by
  rw [getLsbD_load _ _ _ inside]
  have lane : lanes[j / 8]? = some lanes[j / 8] := List.getElem?_eq_getElem (by omega)
  rw [lane]
  change (store m lanes v lanes[j / 8]).getLsbD (j % 8) = _
  rw [getLsbD_store m lanes distinct v _ _ lane _ (by omega)]
  congr 1
  omega

theorem load_store (distinct : lanes.Nodup)
    (v : BitVec w) (width : w = 8 * lanes.length) : load (store m lanes v) lanes = v := by
  apply BitVec.eq_of_getLsbD_eq
  intro j inside
  exact getLsbD_load_store m lanes distinct v j inside (by omega)

theorem store_eq_self_iff (distinct : lanes.Nodup) (v : BitVec w)
    (width : w = 8 * lanes.length) : store m lanes v = m ↔ v = load m lanes := by
  constructor
  · intro same
    rw [← load_store m lanes distinct v width, same]
  · rintro rfl
    funext a
    by_cases member : a ∈ lanes
    · obtain ⟨k, inside, lane⟩ := mem_iff_getElem.mp member
      have lane := getElem?_eq_some_iff.mpr ⟨inside, lane⟩
      apply BitVec.eq_of_getLsbD_eq
      intro b low
      have here : (8 * k + b) / 8 = k ∧ (8 * k + b) % 8 = b := by omega
      rw [getLsbD_store m lanes distinct _ k a lane b low, getLsbD_load _ _ _ (by omega), here.1,
        lane, here.2]
    · exact store_frame _ _ _ _ member

end ByteLanes
