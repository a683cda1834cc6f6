import Mathlib.Data.Nat.ModEq
import Mathlib.Tactic.Common

/-!
# A timer on a wrapping counter

A counter runs from 0 to `max` and then starts again at 0. A timer is set to a value of
the counter. Every advance of the counter starts a lap, which looks at the timer once
and lets it act if it is set to the present value; when the action is over the timer is
settled, that is switched off or set again. The counter may advance again while the
timer acts, so laps can be open inside each other.

A `Plan` counts the advances and says at which of them the timer is due. `OnTime`
relates a timer to its plan, and the lemmas below say under which conditions each move
keeps the relation.
-/
namespace Timer

open List Nat

/-- Where a lap is: before the timer, in its action, or behind it. -/
inductive Stage
  | ahead
  | acting
  | past
  deriving DecidableEq

/-- A timer as its counter sees it; the latest lap comes first. `period` is the delay with
which the timer is set again after it has acted. -/
structure Wheel where
  val : Nat
  armed : Bool
  expire : Nat
  period : Option Nat
  laps : List Stage

structure Plan where
  ticks : Nat
  due : Option Nat
  deriving DecidableEq

/-! ## Values of the counter -/

section Values

variable {max origin ticks due n val : Nat}

theorem value_add (here : val = (origin + ticks) % (max + 1)) :
    (val + n) % (max + 1) = (origin + (ticks + n)) % (max + 1) := by
  rw [here, mod_add_mod, add_assoc]

theorem eq_of_value_eq (same : (origin + due) % (max + 1) = (origin + ticks) % (max + 1))
    (low : ticks ≤ due) (high : due ≤ ticks + max) : due = ticks := by
  have congruent : ticks ≡ due [MOD max + 1] := Nat.ModEq.add_left_cancel' origin same.symm
  have divides : max + 1 ∣ due - ticks := (modEq_iff_dvd' low).mp congruent
  have zero := eq_zero_of_dvd_of_lt divides (by omega)
  omega

theorem value_add_ne (here : val = (origin + ticks) % (max + 1)) (pos : 0 < n) (le : n ≤ max) :
    (val + n) % (max + 1) ≠ val := by
  intro same
  rw [value_add here, here] at same
  have := eq_of_value_eq same (by omega) (by omega)
  omega

end Values

/-! ## A timer and its plan -/

/-- A timer that does not act is armed exactly if it is due, for the value that the counter
has then. -/
def Waits (max origin : Nat) (w : Wheel) (p : Plan) : Prop :=
  match p.due with
  | none => w.armed = false
  | some due =>
    w.armed = true ∧ w.expire = (origin + due) % (max + 1) ∧ due ≤ p.ticks + max + 1 ∧
      (p.ticks < due ∨ due = p.ticks ∧ w.laps.head? = some .ahead)

/-- The plan of a timer that acts is already the one for the time after it is settled. -/
def Acts (w : Wheel) (p : Plan) : Prop :=
  w.armed = false ∧ p.due = none ∨
  w.armed = true ∧ w.period = none ∧ p.due = none ∨
  ∃ k, w.armed = true ∧ w.period = some k ∧ p.due = some (p.ticks + k)

structure OnTime (max origin : Nat) (w : Wheel) (p : Plan) : Prop where
  val : w.val = (origin + p.ticks) % (max + 1)
  once : w.laps.count .acting ≤ 1
  waits : .acting ∉ w.laps → Waits max origin w p
  acts : .acting ∈ w.laps → Acts w p
  /-- A lap that is still ahead of the timer lets it act only if it is due. -/
  honest : .ahead ∈ w.laps → w.laps.head? ≠ some .acting →
    w.armed = true → w.expire = w.val → p.due = some p.ticks
  fits : w.armed = true → ∀ k, w.period = some k → 0 < k ∧ k ≤ max

theorem OnTime.start {max origin : Nat} {w : Wheel} (low : w.val = origin % (max + 1))
    (off : w.armed = false) (no_laps : w.laps = []) :
    OnTime max origin w { ticks := 0, due := none } where
  val := low
  once := by simp [no_laps]
  waits _ := off
  acts member := by simp [no_laps] at member
  honest member := by simp [no_laps] at member
  fits on := by simp [off] at on

section Moves

variable {max origin : Nat} {w : Wheel} {p : Plan}

theorem Waits.later {laps : List Stage} (waits : Waits max origin w p)
    (not_now : p.due ≠ some p.ticks) : Waits max origin { w with laps } p := by
  unfold Waits at waits ⊢
  split at waits
  next due => simpa [due] using waits
  next due planned =>
    obtain ⟨on, expire, high, later⟩ := waits
    exact ⟨on, expire, high, .inl (later.resolve_right fun now => not_now (now.1 ▸ planned))⟩

section

variable (on_time : OnTime max origin w p)
include on_time

theorem OnTime.val_le : w.val ≤ max := by
  rw [on_time.val]
  exact le_of_lt_succ (mod_lt _ (succ_pos max))

private theorem OnTime.not_acting (on : w.armed)
    (due : p.due = some p.ticks) : .acting ∉ w.laps := by
  intro acting
  rcases on_time.acts acting with ⟨off, -⟩ | ⟨-, -, none_due⟩ | ⟨k, -, period, later⟩
  · simp [off] at on
  · simp [none_due] at due
  · have pos := (on_time.fits on k period).1
    rw [later, Option.some.injEq] at due
    omega

theorem OnTime.pending (due : p.due = some p.ticks) :
    .acting ∉ w.laps ∧ w.laps.head? = some .ahead ∧ w.armed ∧ w.expire = w.val := by
  have idle : .acting ∉ w.laps := by
    intro acting
    rcases on_time.acts acting with ⟨-, none_due⟩ | ⟨-, -, none_due⟩ | ⟨k, on, -, -⟩
    · simp [none_due] at due
    · simp [none_due] at due
    · exact on_time.not_acting on due acting
  have waits := on_time.waits idle
  simp only [Waits, due] at waits
  obtain ⟨on, expire, -, later | ⟨-, first⟩⟩ := waits
  · omega
  · exact ⟨idle, first, on, expire.trans on_time.val.symm⟩

theorem OnTime.not_overdue {due : Nat} (planned : p.due = some due) : p.ticks ≤ due := by
  by_cases acting : .acting ∈ w.laps
  · rcases on_time.acts acting with ⟨-, none_due⟩ | ⟨-, -, none_due⟩ | ⟨k, -, -, later⟩
    · simp [none_due] at planned
    · simp [none_due] at planned
    · rw [later, Option.some.injEq] at planned
      omega
  · have waits := on_time.waits acting
    simp only [Waits, planned] at waits
    omega

theorem OnTime.tick
    (seen : .acting ∉ w.laps → .ahead ∈ w.laps → w.armed → w.expire ≠ w.val)
    (alone : .acting ∈ w.laps → w.armed →
      w.period = none ∧ w.expire ≠ (w.val + 1) % (max + 1)) :
    OnTime max origin
      { w with val := (w.val + 1) % (max + 1), laps := .ahead :: w.laps }
      { p with ticks := p.ticks + 1 } := by
  have not_now : p.due ≠ some p.ticks := by
    intro due
    obtain ⟨idle, first, on, here⟩ := on_time.pending due
    exact seen idle (mem_of_mem_head? first) on here
  have next : (w.val + 1) % (max + 1) = (origin + (p.ticks + 1)) % (max + 1) :=
    value_add on_time.val
  have same_acting : .acting ∈ .ahead :: w.laps ↔ .acting ∈ w.laps := by simp
  refine ⟨next, by simpa using on_time.once, fun idle => ?_, fun acting => ?_,
    fun _ _ on here => ?_, on_time.fits⟩
  · have waits := on_time.waits fun acting => idle (same_acting.mpr acting)
    simp only [Waits] at waits ⊢
    split at waits
    next due => simpa [due] using waits
    next due planned =>
      obtain ⟨on, expire, high, -⟩ := waits
      have low := on_time.not_overdue planned
      have ne : due ≠ p.ticks := fun eq => not_now (eq ▸ planned)
      refine ⟨on, expire, by omega, ?_⟩
      by_cases now : due = p.ticks + 1
      · exact .inr ⟨now, rfl⟩
      · exact .inl (by omega)
  · rcases on_time.acts (same_acting.mp acting) with off | once | ⟨k, on, period, -⟩
    · exact .inl off
    · exact .inr (.inl once)
    · exact absurd (alone (same_acting.mp acting) on).1 (by simp [period])
  · by_cases acting : .acting ∈ w.laps
    · exact absurd here (alone acting on).2
    · have waits := on_time.waits acting
      simp only [Waits] at waits
      split at waits
      next due => cases on.symm.trans waits
      next due planned =>
        obtain ⟨-, expire, high, -⟩ := waits
        have low := on_time.not_overdue planned
        have ne : due ≠ p.ticks := fun eq => not_now (eq ▸ planned)
        have : due = p.ticks + 1 :=
          eq_of_value_eq ((expire.symm.trans here).trans next) (by omega) (by omega)
        exact planned.trans (by rw [this])

variable {laps : List Stage} {period : Option Nat}

theorem OnTime.fire (first : w.laps = .ahead :: laps) (on : w.armed) (here : w.expire = w.val) :
    p.due = some p.ticks ∧ OnTime max origin { w with laps := .acting :: laps }
        { p with due := w.period.map (p.ticks + ·) } := by
  have due := on_time.honest (by simp [first]) (by simp [first]) on here
  have idle : .acting ∉ laps := by
    have := on_time.not_acting on due
    simpa [first] using this
  refine ⟨due, on_time.val, ?_, absurd mem_cons_self,
    fun _ => ?_, fun _ ne => absurd rfl ne, on_time.fits⟩
  · simp [count_eq_zero_of_not_mem idle]
  · cases w.period with
    | none => exact .inr (.inl ⟨on, rfl, rfl⟩)
    | some k => exact .inr (.inr ⟨k, on, rfl, rfl⟩)

theorem OnTime.pass (first : w.laps = .ahead :: laps) (elsewhere : w.armed → w.expire ≠ w.val) :
    OnTime max origin { w with laps := .past :: laps } p := by
  have same_acting : .acting ∈ .past :: laps ↔ .acting ∈ w.laps := by simp [first]
  refine ⟨on_time.val, ?_, fun idle => ?_, fun acting => on_time.acts (same_acting.mp acting),
    fun member _ on here => absurd here (elsewhere on), on_time.fits⟩
  · simpa [first] using on_time.once
  · refine (on_time.waits fun acting => idle (same_acting.mpr acting)).later fun due => ?_
    obtain ⟨-, -, on, here⟩ := on_time.pending due
    exact elsewhere on here

theorem OnTime.settle
    (first : w.laps = .acting :: laps) {armed : Bool} {expire : Nat}
    (off : w.armed = false ∨ w.period = none → armed = false)
    (again : ∀ k, w.armed → w.period = some k →
      armed ∧ expire = (w.val + k) % (max + 1))
    (fits : armed → ∀ k, period = some k → 0 < k ∧ k ≤ max) :
    OnTime max origin { w with armed, expire, period, laps := .past :: laps } p := by
  have once := on_time.once
  have others : .acting ∉ laps := by
    simp only [first, count_cons_self] at once
    exact count_eq_zero.mp (by omega)
  have acts := on_time.acts (by simp [first])
  have not_here : armed = true → expire ≠ w.val := by
    intro on here
    rcases acts with ⟨was_off, -⟩ | ⟨-, single, -⟩ | ⟨k, was_on, cyclic, -⟩
    · simp [off (.inl was_off)] at on
    · simp [off (.inr single)] at on
    · obtain ⟨pos, le⟩ := on_time.fits was_on k cyclic
      exact value_add_ne on_time.val pos le ((again k was_on cyclic).2.symm.trans here)
  refine ⟨on_time.val, ?_, fun _ => ?_, fun acting => ?_,
    fun _ _ on here => absurd here (not_here on), fits⟩
  · simp [count_eq_zero_of_not_mem others]
  · rcases acts with ⟨was_off, due⟩ | ⟨-, single, due⟩ | ⟨k, was_on, cyclic, due⟩
    · simp only [Waits, due]
      exact off (.inl was_off)
    · simp only [Waits, due]
      exact off (.inr single)
    · obtain ⟨pos, le⟩ := on_time.fits was_on k cyclic
      obtain ⟨on, value⟩ := again k was_on cyclic
      simp only [Waits, due]
      exact ⟨on, value.trans (value_add on_time.val), by omega, .inl (by omega)⟩
  · simp [others] at acting

theorem OnTime.leave (first : w.laps = .past :: laps) : OnTime max origin { w with laps } p := by
  have same_acting : .acting ∈ laps ↔ .acting ∈ w.laps := by simp [first]
  refine ⟨on_time.val, ?_, fun idle => ?_, fun acting => on_time.acts (same_acting.mp acting),
    fun member _ => on_time.honest ?_ ?_, on_time.fits⟩
  · simpa [first] using on_time.once
  · refine (on_time.waits fun acting => idle (same_acting.mpr acting)).later fun due => ?_
    have ahead := (on_time.pending due).2.1
    simp [first] at ahead
  · simp only [first]
    exact mem_cons_of_mem _ member
  · simp [first]

theorem OnTime.arm {n expire : Nat} (pos : 0 < n) (le : n ≤ max + 1)
    (value : expire = (w.val + n) % (max + 1)) (fits : ∀ k, period = some k → 0 < k ∧ k ≤ max)
    (turn : .acting ∉ w.laps → .ahead ∈ w.laps → n ≤ max)
    (own : .acting ∈ w.laps → period = some n) :
    OnTime max origin { w with armed := true, expire, period }
      { p with due := some (p.ticks + n) } := by
  refine ⟨on_time.val, on_time.once, fun _ => ?_, fun acting => ?_, fun ahead _ _ here => ?_,
    fun _ => fits⟩
  · exact ⟨rfl, value.trans (value_add on_time.val), by simp only; omega, .inl (by simp only; omega)⟩
  · exact .inr (.inr ⟨n, rfl, own acting, rfl⟩)
  · have short : n ≤ max := by
      by_cases acting : .acting ∈ w.laps
      · exact (fits n (own acting)).2
      · exact turn acting ahead
    exact absurd (value.symm.trans here) (value_add_ne on_time.val pos short)

theorem OnTime.disarm (expire : Nat) (period : Option Nat) :
    OnTime max origin { w with armed := false, expire, period } { p with due := none } :=
  ⟨on_time.val, on_time.once, fun _ => rfl, fun _ => .inl ⟨rfl, rfl⟩, fun _ _ => nofun, nofun⟩

end

end Moves

end Timer
