import ClassicPlatform.Os.TableSteps
import Mathlib.Tactic.Ring

/-!
# Schedule tables expire on time

A schedule table is a timer on its counter as well. The code keeps one counter value
and an index that also counts a virtual point at the end of the table. The monitor
`expectTable` keeps the absolute position: the increment at which the table's own time
was zero, the round, and the index of the next point. It gives up when a point is
processed at any other increment than `zero + round * duration + offset`, when the table
ends at any other increment, or when an increment passes something that was due.
-/
namespace Os

open CounterSet List Machine Nat

/-! ## The plan of a schedule table -/

structure Place where
  zero : Nat
  round : Nat
  index : Nat
  deriving DecidableEq

structure TablePlan where
  ticks : Nat
  place : Option Place
  deriving DecidableEq

namespace CounterSet

/-- The offset of a point; the virtual point behind the last one is at the end. -/
def pointOffset (config : CounterSet) (table index : Nat) : Nat :=
  if index < config.expirePointCnt table then config.offset table index
  else (config.table table).duration

end CounterSet

variable (config : CounterSet) (table : Nat) (s : CounterState) (step : CounterStep)

def Place.due (p : Place) : Nat :=
  p.zero + p.round * (config.table table).duration + config.pointOffset table p.index

/-- After the last point a repeating table goes on with the next round, and a single-shot
table waits for its end. -/
def Place.next (p : Place) : Place :=
  if p.index + 1 < config.expirePointCnt table then { p with index := p.index + 1 }
  else if (config.table table).repeating then { p with round := p.round + 1, index := 0 }
  else { p with index := config.expirePointCnt table }

def TablePlan.missed (p : TablePlan) : Bool :=
  match p.place with
  | some place => place.due config table ≤ p.ticks
  | none => false

/-- The number of increments until the start value is reached. A start at the present value
counts as reached if the first point is still to come, and as a full turn otherwise. -/
def ticksUntilStart (max val start initial : Nat) : Nat :=
  if start = val ∧ initial = 0 then max + 1
  else if val ≤ start then start - val
  else start + (max + 1) - val

/-- `origin` is the value of the counter at the beginning. -/
def expectTable (table origin : Nat) (p : TablePlan) : CounterEvent → Option TablePlan
  | .incremented counter =>
    if counter ≠ config.tableCounter table then some p
    else if p.missed config table then none
    else some { p with ticks := p.ticks + 1 }
  | .tablesChecked counter =>
    if counter = config.tableCounter table ∧ p.missed config table then none else some p
  | .tableStartedRel other offset =>
    if other ≠ table then some p
    else some { p with place := some { zero := p.ticks + offset, round := 0, index := 0 } }
  | .tableStartedAbs other start =>
    if other ≠ table then some p
    else
      let max := config.tableMax table
      let val := (origin + p.ticks) % (max + 1)
      let first := p.ticks + ticksUntilStart max val start (config.initialOffset table)
      some { p with place := some { zero := first, round := 0, index := 0 } }
  | .tableStopped other => if other ≠ table then some p else some { p with place := none }
  | .pointExpired other index =>
    if other ≠ table then some p
    else
      match p.place with
      | none => none
      | some place =>
        if index = place.index ∧ index < config.expirePointCnt table ∧
            p.ticks = place.due config table then
          some { p with place := some (place.next config table) }
        else none
  | .tableEnded other =>
    if other ≠ table then some p
    else
      match p.place with
      | none => none
      | some place =>
        if place.index = config.expirePointCnt table ∧ p.ticks = place.due config table then
          some { p with place := none }
        else none
  | _ => some p

/-! ## A schedule table as a timer -/

/-- How long a table waits after the point with this index, if it goes on at all. -/
def tablePeriod (table index : Nat) : Option Nat :=
  if index + 1 = config.expirePointCnt table then
    if config.finalOffset table ≠ 0 then some (config.finalOffset table) else none
  else if index = config.expirePointCnt table then
    if (config.table table).repeating then some (config.initialOffset table) else none
  else some (tickSub (config.offset table (index + 1)) (config.offset table index))

def tableWheel : Timer.Wheel where
  val := tableVal config table s
  armed := (s.tables table).state.runs
  expire := (s.tables table).expireVal
  period := tablePeriod config table (s.tables table).expireCurrIndex
  laps := tableLaps config table s

/-! ## Configurations -/

/-- The rules for schedule tables: at least one point, offsets that grow by at most the
counter's maximum, an initial offset and a final delay of at most that, and a final delay of
zero in single-shot tables only. The lower bounds by the minimum cycle are not needed. -/
structure TableRules : Prop where
  points : 0 < config.expirePointCnt table
  gaps : ∀ index, index + 1 < config.expirePointCnt table →
    config.offset table index < config.offset table (index + 1) ∧
    config.offset table (index + 1) ≤ config.offset table index + config.tableMax table
  initial : config.initialOffset table ≤ config.tableMax table
  last : config.offset table (config.expirePointCnt table - 1) ≤ (config.table table).duration
  final : (config.table table).duration ≤
    config.offset table (config.expirePointCnt table - 1) + config.tableMax table
  repeats : (config.table table).repeating = true →
    config.offset table (config.expirePointCnt table - 1) < (config.table table).duration
  duration : (config.table table).duration < 2 ^ 32
  max : config.tableMax table < 2 ^ 32

section Rules

variable {config : CounterSet} {table : Nat}

theorem tickSub_eq {a b : Nat} (le : b ≤ a) (small : a < 2 ^ 32) : tickSub a b = a - b := by
  unfold tickSub
  omega

section

variable (rules : TableRules config table)
include rules

theorem TableRules.offset_le_last (distance : Nat) :
    ∀ index, index + distance + 1 = config.expirePointCnt table →
      config.offset table index ≤ config.offset table (config.expirePointCnt table - 1) := by
  induction distance with
  | zero =>
    intro index last
    rw [← last, add_zero, Nat.add_sub_cancel]
  | succ distance ih =>
    intro index below
    have growing := (rules.gaps index (by omega)).1
    have := ih (index + 1) (by omega)
    omega

theorem TableRules.offset_lt {index : Nat}
    (below : index < config.expirePointCnt table) : config.offset table index < 2 ^ 32 := by
  have le := rules.offset_le_last (config.expirePointCnt table - index - 1) index (by omega)
  have last := rules.last
  have duration := rules.duration
  omega

theorem TableRules.finalOffset_eq :
    config.finalOffset table =
      (config.table table).duration - config.offset table (config.expirePointCnt table - 1) :=
  tickSub_eq rules.last rules.duration

theorem TableRules.period_fits
    (delayed : (config.table table).repeating → config.initialOffset table ≠ 0) {index k : Nat}
    (le : index ≤ config.expirePointCnt table) (period : tablePeriod config table index = some k) :
    0 < k ∧ k ≤ config.tableMax table := by
  unfold tablePeriod at period
  split at period
  next last =>
    split at period
    next some_delay =>
      obtain rfl : config.finalOffset table = k := by simpa using period
      have final := rules.final
      rw [rules.finalOffset_eq] at some_delay ⊢
      omega
    next => cases period
  next not_last =>
    split at period
    next =>
      split at period
      next repeating =>
        obtain rfl : config.initialOffset table = k := by simpa using period
        exact ⟨pos_of_ne_zero (delayed repeating), rules.initial⟩
      next => cases period
    next inside =>
      have below : index + 1 < config.expirePointCnt table := by omega
      have gap := rules.gaps index below
      obtain rfl : tickSub (config.offset table (index + 1)) (config.offset table index) = k := by
        simpa using period
      rw [tickSub_eq gap.1.le (rules.offset_lt below)]
      omega

end

end Rules

/-! ## The next point in the code and in the plan -/

/-- The code waits for the point with this index until the increment `due`; at the end of a
round of a repeating table the plan is already at the first point of the next one. -/
def Awaits (table index due : Nat) (place : Place) : Prop :=
  place.index = index ∧ due = place.due config table ∧
      (index = config.expirePointCnt table → (config.table table).repeating = false) ∨
    index = config.expirePointCnt table ∧ (config.table table).repeating = true ∧
      place.index = 0 ∧ due + config.initialOffset table = place.due config table

section Awaiting

variable {config : CounterSet} {table : Nat} {place : Place}

theorem Awaits.le_due {index due : Nat} (awaits : Awaits config table index due place) :
    due ≤ place.due config table := by
  rcases awaits with ⟨-, same, -⟩ | ⟨-, -, -, sum⟩
  · exact same.le
  · omega

theorem TableRules.awaits_next (rules : TableRules config table)
    (below : place.index < config.expirePointCnt table) :
    (∀ k, tablePeriod config table place.index = some k →
      Awaits config table (place.index + 1) (place.due config table + k)
        (place.next config table)) ∧
    (tablePeriod config table place.index = none →
      (place.next config table).index = config.expirePointCnt table ∧
      (place.next config table).due config table = place.due config table) := by
  have points := rules.points
  by_cases last : place.index + 1 = config.expirePointCnt table
  · have here : config.expirePointCnt table - 1 = place.index := by omega
    have final := rules.finalOffset_eq
    have le := rules.last
    rw [here] at final le
    simp only [tablePeriod, last, if_true, Place.next, lt_irrefl, if_false,
      Option.ite_none_right_eq_some, ite_eq_right_iff, Option.some.injEq, reduceCtorEq, imp_false,
      not_not]
    by_cases repeating : (config.table table).repeating = true
    · have longer := rules.repeats repeating
      rw [here] at longer
      simp only [repeating]
      refine ⟨?_, fun no_delay => by omega⟩
      rintro _ ⟨-, rfl⟩
      refine .inr ⟨rfl, repeating, rfl, ?_⟩
      simp only [Place.due, pointOffset, below, points, if_true, initialOffset]
      have := add_mul place.round 1 (config.table table).duration
      omega
    · simp only [repeating, if_false, Bool.false_eq_true]
      have end_due : Place.due config table
          { zero := place.zero, round := place.round, index := config.expirePointCnt table } =
          place.due config table + config.finalOffset table := by
        simp only [Place.due, pointOffset, below, lt_irrefl, if_true, if_false]
        omega
      constructor
      · rintro _ ⟨-, rfl⟩
        exact .inl ⟨rfl, end_due.symm, fun _ => by simpa using repeating⟩
      · intro no_delay
        refine ⟨trivial, end_due.trans ?_⟩
        omega
  · have inside : place.index + 1 < config.expirePointCnt table := by omega
    have not_end : place.index ≠ config.expirePointCnt table := by omega
    have gap := rules.gaps place.index inside
    simp only [tablePeriod, last, not_end, Place.next, inside]
    refine ⟨fun k period => ?_, fun none => absurd none (Option.some_ne_none _)⟩
    obtain rfl : tickSub (config.offset table (place.index + 1))
        (config.offset table place.index) = k := by simpa using period
    refine .inl ⟨rfl, ?_, fun at_end => absurd at_end last⟩
    simp only [Place.due, pointOffset, below, inside, if_true]
    rw [tickSub_eq gap.1.le (rules.offset_lt inside)]
    omega

end Awaiting

/-! ## Updates -/

section Updates

variable {config : CounterSet} {table : Nat} {s : CounterState}

theorem TableRules.updateState_eq (rules : TableRules config table)
    (alone : (s.tables table).next = none) :
    schTblUpdateState config s table =
      match tablePeriod config table (s.tables table).expireCurrIndex with
      | some k =>
        (s.setTable table
          { s.tables table with
            expireVal := osCounterAdd (tableVal config table s)
              (config.tableMax table) k
            expireCurrIndex :=
              if (s.tables table).expireCurrIndex = config.expirePointCnt table then 0
              else (s.tables table).expireCurrIndex + 1 }, [])
      | none =>
        (s.setTable table { s.tables table with state := .stopped, expireCurrIndex := 0 },
          [.tableEnded table]) := by
  have final := rules.finalOffset_eq
  have repeats := rules.repeats
  simp only [schTblUpdateState, tablePeriod, schTblNextPoint, schTblAtFinal, alone]
  by_cases last : (s.tables table).expireCurrIndex + 1 = config.expirePointCnt table
  · have not_end : (s.tables table).expireCurrIndex ≠ config.expirePointCnt table := by omega
    simp only [last, not_end]
    by_cases no_delay : config.finalOffset table = 0
    · have single : (config.table table).repeating = false := by
        by_contra repeating
        have := repeats (by simpa using repeating)
        omega
      simp [no_delay, single]
    · simp [no_delay]
  · by_cases at_end : (s.tables table).expireCurrIndex = config.expirePointCnt table
    · simp only [at_end]
      by_cases repeating : (config.table table).repeating = true
      · simp [repeating]
      · simp [repeating]
    · simp [last, at_end]

end Updates

/-! ## What the monitor follows -/

/-- The position of the table in the code and in the plan. -/
def Stands (p : TablePlan) (due : Option Nat) : Prop :=
  match p.place with
  | none =>
    due = none ∧ (s.tables table).state = .stopped ∧ (s.tables table).expireCurrIndex = 0 ∧
      .acting ∉ tableLaps config table s
  | some place =>
    (s.tables table).state = .running ∧
    (.acting ∉ tableLaps config table s →
      (s.tables table).expireCurrIndex ≤ config.expirePointCnt table ∧
      ∃ tick, due = some tick ∧
        Awaits config table (s.tables table).expireCurrIndex tick place) ∧
    (.acting ∈ tableLaps config table s →
      (tableLaps config table s).head? = some .acting ∧
      (s.tables table).expireCurrIndex < config.expirePointCnt table ∧
      (∀ k, tablePeriod config table (s.tables table).expireCurrIndex = some k →
        Awaits config table ((s.tables table).expireCurrIndex + 1) (p.ticks + k) place) ∧
      (tablePeriod config table (s.tables table).expireCurrIndex = none →
        place.index = config.expirePointCnt table ∧ place.due config table = p.ticks))

/-- The timing of the table agrees with the plan. -/
structure TableTimed (table origin : Nat) (s : CounterState) (p : TablePlan) : Prop where
  timed : ∃ due, Timer.OnTime (config.tableMax table) origin
    (tableWheel config table s) { ticks := p.ticks, due } ∧ Stands config table s p due
  bounded : (s.tables table).expireVal ≤ config.tableMax table

abbrev TableAccepts (table origin : Nat) : TablePlan → CounterState × List CounterEvent → Prop :=
  Accepts (expectTable config table origin) (TableTimed config table origin)

structure TableTracks (table origin : Nat) (s : CounterState)
    (p : TablePlan) : Prop extends TableTimed config table origin s p where
  sound : s.Sound config
  alone : Alone table s

/-- No increment of the counter comes in while the table is being processed, or while it is
due and an open walk has not reached it. A start at an absolute value does not pass the end
of the counter on the way to the first point, and does not meet an open walk. -/
def TableInTime : CounterEvent → Prop
  | .incremented counter =>
    counter = config.tableCounter table →
      .acting ∉ tableLaps config table s ∧
      (.ahead ∈ tableLaps config table s → (s.tables table).state = .running →
        (s.tables table).expireVal ≠ (s.counters counter).val)
  | .tableStartedAbs other start =>
    other = table →
      (if tableVal config table s ≤ start then
        start + config.initialOffset table ≤ config.tableMax table
      else
        start + config.initialOffset table ≤ tableVal config table s) ∧
      (.ahead ∈ tableLaps config table s →
        start + config.initialOffset table ≠ tableVal config table s)
  | _ => True

/-- The table is started when it is stopped, with arguments in range, and otherwise left
alone. -/
def TableUsed : CounterEvent → Prop
  | .tableStartedRel other offset =>
    other = table →
      (s.tables table).state = .stopped ∧ 0 < offset + config.initialOffset table ∧
      offset + config.initialOffset table ≤ config.tableMax table
  | .tableStartedAbs other start =>
    other = table →
      (s.tables table).state = .stopped ∧ start ≤ config.tableMax table
  | .tableStopped other => other ≠ table
  | _ => True

instance : DecidablePred (TableInTime config table s) := fun event => by
  induction event using CounterEvent.casesOn <;>
    first | exact isTrue trivial | exact inferInstanceAs (Decidable (_ → _))

instance : DecidablePred (TableUsed config table s) := fun event => by
  induction event using CounterEvent.casesOn <;>
    first | exact isTrue trivial | exact inferInstanceAs (Decidable (_ → _))

section Steps

variable {config : CounterSet} {table origin : Nat} {s s' : CounterState} {p : TablePlan}

private theorem expectTable_skip {event : CounterEvent}
    (skipped : event.concerns config table = false) :
    expectTable config table origin p event = some p := by
  cases event <;> simp_all [expectTable, CounterEvent.concerns]

private theorem TableTimed.unseen (timed : TableTimed config table origin s p)
    (val : tableVal config table s' = tableVal config table s)
    (same : s'.tables table = s.tables table)
    (laps : tableLaps config table s' = tableLaps config table s) :
    TableTimed config table origin s' p := by
  have wheel : tableWheel config table s' = tableWheel config table s := by
    simp [tableWheel, val, same, laps]
  obtain ⟨due, on_time, stands⟩ := timed.timed
  refine ⟨⟨due, wheel ▸ on_time, ?_⟩, same ▸ timed.bounded⟩
  simpa [Stands, same, laps] using stands

section

variable {due : Option Nat} (stands : Stands config table s p due)
include stands

private theorem Stands.idle (ticks : Nat) (same : s'.tables table = s.tables table)
    (idle : .acting ∉ tableLaps config table s)
    (idle' : .acting ∉ tableLaps config table s') :
    Stands config table s' { p with ticks } due := by
  cases at_place : p.place with
  | none =>
    simp only [Stands, at_place, same] at stands ⊢
    exact ⟨stands.1, stands.2.1, stands.2.2.1, idle'⟩
  | some place =>
    simp only [Stands, at_place, same] at stands ⊢
    exact ⟨stands.1, fun _ => stands.2.1 idle, fun acting => absurd acting idle'⟩

private theorem Stands.not_acting
    (first : (tableLaps config table s).head? ≠ some .acting) :
    .acting ∉ tableLaps config table s := by
  intro acting
  cases at_place : p.place with
  | none =>
    simp only [Stands, at_place] at stands
    exact stands.2.2.2 acting
  | some place =>
    simp only [Stands, at_place] at stands
    exact first (stands.2.2 acting).1

private theorem Stands.running
    (runs : (s.tables table).state.runs) : (s.tables table).state = .running := by
  cases at_place : p.place with
  | none =>
    simp only [Stands, at_place] at stands
    simp [stands.2.1, TableState.runs] at runs
  | some place =>
    simp only [Stands, at_place] at stands
    exact stands.1

private theorem Stands.not_missed (idle : .acting ∉ tableLaps config table s)
    (later : ∀ tick, due = some tick → p.ticks < tick) : p.missed config table = false := by
  unfold TablePlan.missed
  cases at_place : p.place with
  | none => rfl
  | some place =>
    simp only [Stands, at_place] at stands
    obtain ⟨-, tick, planned, awaits⟩ := stands.2.1 idle
    have := later tick planned
    have := awaits.le_due
    exact decide_eq_false (by omega)

end

private theorem TableTimed.advanced (timed : TableTimed config table origin s p)
    (val : tableVal config table s' = osCounterAdd (tableVal config table s)
        (config.tableMax table) 1)
    (same : s'.tables table = s.tables table)
    (laps : tableLaps config table s' = .ahead :: tableLaps config table s)
    (in_time : TableInTime config table s (.incremented (config.tableCounter table))) :
    TableAccepts config table origin p (s', [.incremented (config.tableCounter table)]) := by
  obtain ⟨idle, seen⟩ := in_time rfl
  obtain ⟨due, on_time, stands⟩ := timed.timed
  have low : tableVal config table s ≤ _ := on_time.val_le
  have wheel : tableWheel config table s' = { tableWheel config table s with
        val := ((tableWheel config table s).val + 1) %
          (config.tableMax table + 1)
        laps := .ahead :: (tableWheel config table s).laps } := by
    simp [tableWheel, laps, same, val, osCounterAdd_eq_mod low]
  have moved := on_time.tick
    (fun _ ahead on => seen ahead (stands.running on)) (fun acting => absurd acting idle)
  have complete : p.missed config table = false :=
    stands.not_missed idle fun tick planned => moved.not_overdue planned
  refine ⟨{ p with ticks := p.ticks + 1 }, by simp [expectTable, complete],
    ⟨due, wheel ▸ moved, ?_⟩, same ▸ timed.bounded⟩
  have idle' : .acting ∉ tableLaps config table s' := by
    rw [laps]
    simpa using idle
  exact stands.idle _ same idle idle'

private theorem ticksUntilStart_spec {max val start initial : Nat} (low : val ≤ max)
    (high : start ≤ max)
    (in_time : if val ≤ start then start + initial ≤ max else start + initial ≤ val) :
    0 < ticksUntilStart max val start initial + initial ∧
      ticksUntilStart max val start initial + initial ≤ max + 1 ∧
      start + initial = (val + (ticksUntilStart max val start initial + initial)) % (max + 1) ∧
      (start + initial ≠ val → ticksUntilStart max val start initial + initial ≤ max) := by
  unfold ticksUntilStart
  split
  next now =>
    refine ⟨by omega, by omega, ?_, fun ne => absurd now.1 (by omega)⟩
    rw [now.1, now.2, add_zero, add_mod_right, mod_eq_of_lt (by omega)]
  next later =>
    split
    next ahead =>
      rw [if_pos ahead] at in_time
      refine ⟨by omega, by omega, ?_, fun _ => by omega⟩
      rw [mod_eq_of_lt (by omega)]
      omega
    next wraps =>
      rw [if_neg wraps] at in_time
      refine ⟨by omega, by omega, ?_, fun _ => by omega⟩
      rw [mod_eq_sub_mod (by omega), mod_eq_of_lt (by omega)]
      omega

section

variable (timed : TableTimed config table origin s p) (rules : TableRules config table)
variable (delayed : (config.table table).repeating = true → config.initialOffset table ≠ 0)
variable (alone : (s.tables table).next = none) {laps : List Timer.Stage}
variable (val : tableVal config table s' = tableVal config table s)
include timed rules delayed

private theorem TableTimed.start
    (stopped : (s.tables table).state = .stopped) {n expireVal first : Nat} (pos : 0 < n)
    (le : n ≤ config.tableMax table + 1)
    (value : expireVal = (tableVal config table s + n) %
      (config.tableMax table + 1))
    (turn : .ahead ∈ tableLaps config table s →
      n ≤ config.tableMax table)
    (due_first : first + config.initialOffset table = p.ticks + n) :
    TableTimed config table origin
      (s.setTable table { s.tables table with expireVal, state := .running })
      { p with place := some { zero := first, round := 0, index := 0 } } := by
  obtain ⟨due, on_time, stands⟩ := timed.timed
  have points := rules.points
  have idle : (s.tables table).expireCurrIndex = 0 ∧
      .acting ∉ tableLaps config table s := by
    simp only [Stands] at stands
    split at stands
    next => exact stands.2.2
    next => cases stopped.symm.trans stands.1
  have fits : ∀ k, tablePeriod config table 0 = some k →
      0 < k ∧ k ≤ config.tableMax table :=
    fun k period => rules.period_fits delayed (zero_le _) period
  have armed := on_time.arm pos le value fits (fun _ => turn) (fun acting => absurd acting idle.2)
  refine ⟨⟨some (p.ticks + n), ?_, ?_⟩, ?_⟩
  · have wheel : tableWheel config table
        (s.setTable table { s.tables table with expireVal, state := .running }) =
        { tableWheel config table s with
          armed := true, expire := expireVal, period := tablePeriod config table 0 } := by
      simp [tableWheel, idle.1, TableState.runs, lapsOf, CounterState.setTable]
    rw [wheel]
    exact armed
  · simp only [Stands, setTable_tables]
    refine ⟨trivial, fun _ => ⟨by rw [idle.1]; exact zero_le _, _, rfl, .inl ?_⟩,
      fun acting => absurd acting idle.2⟩
    rw [idle.1]
    refine ⟨rfl, ?_, fun empty => by omega⟩
    simp only [Place.due, pointOffset, points, if_true]
    have : config.initialOffset table = config.offset table 0 := rfl
    omega
  · rw [setTable_tables]
    exact value ▸ le_of_lt_succ (mod_lt _ (succ_pos _))

private theorem TableTimed.startedRel
    {offset : Nat} (used : TableUsed config table s (.tableStartedRel table offset)) :
    TableTimed config table origin
      (s.setTable table
        { s.tables table with
          expireVal := osCounterAdd (tableVal config table s)
            (config.tableMax table)
            (tickAdd offset (config.initialOffset table))
          state := .running })
      { p with place := some { zero := p.ticks + offset, round := 0, index := 0 } } := by
  obtain ⟨stopped, pos, le⟩ := used rfl
  obtain ⟨due, on_time, -⟩ := timed.timed
  have low : tableVal config table s ≤ _ := on_time.val_le
  have max_small := rules.max
  have exact_sum : tickAdd offset (config.initialOffset table) =
      offset + config.initialOffset table := mod_eq_of_lt (by omega)
  refine timed.start rules delayed stopped pos (by omega) ?_ (fun _ => le) (by omega)
  rw [exact_sum, osCounterAdd_eq_mod low (by omega)]

private theorem TableTimed.startedAbs {start : Nat}
    (used : TableUsed config table s (.tableStartedAbs table start))
    (in_time : TableInTime config table s (.tableStartedAbs table start)) :
    TableTimed config table origin
      (s.setTable table
        { s.tables table with
          expireVal := tickAdd start (config.initialOffset table)
          state := .running })
      { p with
        place := some
          { zero := p.ticks + ticksUntilStart (config.tableMax table)
              (tableVal config table s) start (config.initialOffset table)
            round := 0, index := 0 } } := by
  obtain ⟨stopped, high⟩ := used rfl
  obtain ⟨reached, apart⟩ := in_time rfl
  obtain ⟨due, on_time, -⟩ := timed.timed
  have low : tableVal config table s ≤ _ := on_time.val_le
  have max_small := rules.max
  obtain ⟨pos, le, value, turn⟩ := ticksUntilStart_spec low high reached
  have small : start + config.initialOffset table < 2 ^ 32 := by
    split at reached <;> omega
  refine timed.start rules delayed stopped pos le ?_ (fun ahead => turn (apart ahead)) (by omega)
  rw [tickAdd, mod_eq_of_lt small]
  exact value

/-! ## Walks -/

omit rules delayed

private theorem TableTimed.met (before : tableLaps config table s = .ahead :: laps)
    (runs : (s.tables table).state.runs)
    (here : (s.tables table).expireVal = tableVal config table s) :
    ∃ place, p.place = some place ∧ (s.tables table).state = .running ∧ .acting ∉ laps ∧
      (s.tables table).expireCurrIndex ≤ config.expirePointCnt table ∧
      Awaits config table (s.tables table).expireCurrIndex p.ticks place ∧
      Timer.OnTime (config.tableMax table) origin
        { tableWheel config table s with laps := .acting :: laps }
        { ticks := p.ticks, due := (tableWheel config table s).period.map (p.ticks + ·) } := by
  obtain ⟨due, on_time, stands⟩ := timed.timed
  have idle := stands.not_acting (by simp [before])
  have running := stands.running runs
  have others : .acting ∉ laps := by
    rw [before] at idle
    simpa using idle
  obtain ⟨now, acting⟩ := on_time.fire before runs here
  obtain rfl : due = some p.ticks := now
  cases at_place : p.place with
  | none =>
    simp only [Stands, at_place] at stands
    exact absurd stands.1 nofun
  | some place =>
    simp only [Stands, at_place] at stands
    obtain ⟨le, tick, same, awaits⟩ := stands.2.1 idle
    obtain rfl : p.ticks = tick := Option.some.inj same
    exact ⟨place, rfl, running, others, le, awaits, acting⟩

include val

omit timed in
private theorem TableTimed.behind (due : Option Nat)
    (after : tableLaps config table s' = .past :: laps) (others : .acting ∉ laps)
    (expireVal : (s'.tables table).expireVal ≤ config.tableMax table)
    (on_time : Timer.OnTime (config.tableMax table) origin
      { tableWheel config table s with
        armed := (s'.tables table).state.runs
        expire := (s'.tables table).expireVal
        period := tablePeriod config table (s'.tables table).expireCurrIndex
        laps := .past :: laps } { ticks := p.ticks, due })
    (stands : .acting ∉ tableLaps config table s' → Stands config table s' p due) :
    TableTimed config table origin s' p := by
  refine ⟨⟨due, ?_, stands ?_⟩, expireVal⟩
  · have wheel : tableWheel config table s' = { tableWheel config table s with
          armed := (s'.tables table).state.runs
          expire := (s'.tables table).expireVal
          period := tablePeriod config table (s'.tables table).expireCurrIndex
          laps := .past :: laps } := by
      simp [tableWheel, val, after]
    rw [wheel]
    exact on_time
  · rw [after]
    simpa using others

private theorem TableTimed.passed (same : s'.tables table = s.tables table)
    (before : tableLaps config table s = .ahead :: laps)
    (after : tableLaps config table s' = .past :: laps)
    (waits : (s.tables table).state.runs →
      (s.tables table).expireVal ≠ tableVal config table s) :
    TableTimed config table origin s' p := by
  obtain ⟨due, on_time, stands⟩ := timed.timed
  have idle := stands.not_acting (by simp [before])
  have others : .acting ∉ laps := by
    rw [before] at idle
    simpa using idle
  refine .behind val due after others (same ▸ timed.bounded) ?_ fun idle' =>
    stands.idle _ same idle idle'
  rw [same]
  exact on_time.pass before waits

private theorem TableTimed.left (same : s'.tables table = s.tables table)
    (before : tableLaps config table s = .past :: laps)
    (after : tableLaps config table s' = laps) :
    p.missed config table = false ∧ TableTimed config table origin s' p := by
  obtain ⟨due, on_time, stands⟩ := timed.timed
  have idle := stands.not_acting (by simp [before])
  have idle' : .acting ∉ tableLaps config table s' := by
    rw [before] at idle
    rw [after]
    simpa using idle
  have wheel : tableWheel config table s' = { tableWheel config table s with laps } := by
    simp [tableWheel, val, same, after]
  refine ⟨stands.not_missed idle fun tick planned => ?_,
    ⟨due, wheel ▸ on_time.leave before, stands.idle _ same idle idle'⟩, same ▸ timed.bounded⟩
  have low : p.ticks ≤ tick := on_time.not_overdue planned
  -- what is due now has a walk ahead of it
  have not_now : tick ≠ p.ticks := fun now => by
    have first := (on_time.pending (planned.trans (by rw [now]))).2.1
    simp [tableWheel, before] at first
  omega

include rules

private theorem TableTimed.reached (same : s'.tables table = s.tables table)
    (before : tableLaps config table s = .ahead :: laps)
    (after : tableLaps config table s' = .acting :: laps)
    (runs : (s.tables table).state.runs)
    (here : (s.tables table).expireVal = tableVal config table s)
    (below : (s.tables table).expireCurrIndex < config.expirePointCnt table) :
    TableAccepts config table origin p (s', [.pointExpired table (s.tables table).expireCurrIndex]) := by
  obtain ⟨place, at_place, running, -, -, awaits, acting⟩ := timed.met before runs here
  obtain ⟨index, at_due, -⟩ := awaits.resolve_right fun ended => by omega
  have wheel : tableWheel config table s' =
      { tableWheel config table s with laps := .acting :: laps } := by
    simp [tableWheel, val, same, after]
  have inside : place.index < config.expirePointCnt table := index ▸ below
  obtain ⟨goes_on, ends⟩ := rules.awaits_next inside
  refine ⟨{ p with place := some (place.next config table) }, ?_, ⟨_, wheel ▸ acting, ?_⟩,
    same ▸ timed.bounded⟩
  · simp [expectTable, at_place, index, at_due, below]
  · simp only [Stands, same, after]
    rw [← index, at_due]
    exact ⟨running, absurd mem_cons_self,
      fun _ => ⟨rfl, inside, goes_on, ends⟩⟩

include delayed alone

section

variable (same : s'.tables table = (schTblUpdateState config s table).1.tables table)
variable (after : tableLaps config table s' = .past :: laps)
include same after

private theorem TableTimed.settled {due : Option Nat} {place : Place} (others : .acting ∉ laps)
    (at_place : p.place = some place) (running : (s.tables table).state = .running)
    (le : (s.tables table).expireCurrIndex ≤ config.expirePointCnt table)
    (on_time : Timer.OnTime (config.tableMax table) origin
      { tableWheel config table s with laps := .acting :: laps } { ticks := p.ticks, due })
    (goes_on : ∀ k, tablePeriod config table (s.tables table).expireCurrIndex = some k →
      due = some (p.ticks + k) ∧
      Awaits config table
        (if (s.tables table).expireCurrIndex = config.expirePointCnt table then 0
        else (s.tables table).expireCurrIndex + 1) (p.ticks + k) place)
    (ends : tablePeriod config table (s.tables table).expireCurrIndex = none →
      due = none ∧ place.index = config.expirePointCnt table ∧
        p.ticks = place.due config table) :
    TableAccepts config table origin p (s', (schTblUpdateState config s table).2) := by
  have low : tableVal config table s ≤ _ := on_time.val_le
  have equation := rules.updateState_eq alone
  have on : (tableWheel config table s).armed = true := by
    simp [tableWheel, running, TableState.runs]
  cases period : tablePeriod config table (s.tables table).expireCurrIndex with
  | some k =>
    obtain ⟨rfl, awaits⟩ := goes_on k period
    simp only [period] at equation
    rw [equation, setTable_tables] at same
    have fits := rules.period_fits delayed le period
    have value := osCounterAdd_eq_mod low (le_succ_of_le fits.2)
    have in_table : (if (s.tables table).expireCurrIndex = config.expirePointCnt table then 0
        else (s.tables table).expireCurrIndex + 1) ≤ config.expirePointCnt table := by
      split <;> omega
    refine ⟨p, by rw [equation]; rfl, .behind val (some (p.ticks + k)) after others ?_ ?_
      fun idle => ?_⟩
    · rw [same]
      exact osCounterAdd_le low (le_succ_of_le fits.2)
    · rw [same]
      refine on_time.settle rfl (fun off => ?_) (fun k' _ next => ?_)
        (fun _ k' next => rules.period_fits delayed in_table next)
      · rcases off with off | off
        · cases on.symm.trans off
        · cases period.symm.trans off
      · obtain rfl : k = k' := Option.some.inj (period.symm.trans next)
        exact ⟨on, value⟩
    · simp only [Stands, at_place, same]
      exact ⟨running, fun _ => ⟨in_table, _, rfl, awaits⟩, fun acting => absurd acting idle⟩
  | none =>
    obtain ⟨rfl, at_end, now⟩ := ends period
    simp only [period] at equation
    rw [equation, setTable_tables] at same
    refine ⟨{ p with place := none }, by rw [equation]; simp [expectTable, at_place, at_end, now],
      .behind val none after others ?_ ?_ fun idle => ?_⟩
    · rw [same]
      exact timed.bounded
    · rw [same]
      refine on_time.settle rfl (fun _ => rfl) (fun k' _ next => ?_) (by rintro ⟨⟩)
      cases period.symm.trans next
    · simp only [Stands, same]
      exact ⟨trivial, trivial, trivial, idle⟩

private theorem TableTimed.acted (before : tableLaps config table s = .acting :: laps) :
    TableAccepts config table origin p (s', (schTblUpdateState config s table).2) := by
  obtain ⟨due, on_time, stands⟩ := timed.timed
  have wheel : tableWheel config table s =
      { tableWheel config table s with laps := .acting :: laps } := by
    simp [tableWheel, before]
  have acting : .acting ∈ tableLaps config table s := by
    rw [before]
    exact mem_cons_self
  have others : .acting ∉ laps := by
    have once := on_time.once
    simp only [tableWheel, before, count_cons_self] at once
    exact count_eq_zero.mp (by omega)
  cases at_place : p.place with
  | none =>
    simp only [Stands, at_place] at stands
    exact absurd acting stands.2.2.2
  | some place =>
    simp only [Stands, at_place] at stands
    obtain ⟨running, -, performs⟩ := stands
    obtain ⟨-, below, goes_on, ends⟩ := performs acting
    have on : (tableWheel config table s).armed = true := by
      simp [tableWheel, running, TableState.runs]
    refine timed.settled rules delayed alone val same after others at_place running below.le
      (by rw [← wheel]; exact on_time) (fun k period => ?_) fun period => ?_
    · rw [if_neg below.ne]
      refine ⟨?_, goes_on k period⟩
      rcases on_time.acts acting with ⟨off, -⟩ | ⟨-, single, -⟩ | ⟨k', -, cyclic, planned⟩
      · cases on.symm.trans off
      · cases period.symm.trans single
      · obtain rfl : k = k' := Option.some.inj (period.symm.trans cyclic)
        exact planned
    · obtain ⟨index, at_due⟩ := ends period
      refine ⟨?_, index, at_due.symm⟩
      rcases on_time.acts acting with ⟨off, -⟩ | ⟨-, -, planned⟩ | ⟨k', -, cyclic, -⟩
      · cases on.symm.trans off
      · exact planned
      · cases period.symm.trans cyclic

private theorem TableTimed.turned (before : tableLaps config table s = .ahead :: laps)
    (runs : (s.tables table).state.runs)
    (here : (s.tables table).expireVal = tableVal config table s)
    (at_last : config.expirePointCnt table ≤ (s.tables table).expireCurrIndex) :
    TableAccepts config table origin p (s', (schTblUpdateState config s table).2) := by
  obtain ⟨place, at_place, running, others, le, awaits, acting⟩ := timed.met before runs here
  have at_end : (s.tables table).expireCurrIndex = config.expirePointCnt table := by omega
  have points := rules.points
  have not_before : config.expirePointCnt table + 1 ≠ config.expirePointCnt table := by omega
  refine timed.settled rules delayed alone val same after others at_place running le acting
    (fun k period => ?_) fun period => ?_
  · refine ⟨by simp [tableWheel, period], ?_⟩
    rw [if_pos at_end]
    simp only [tablePeriod, at_end, not_before, if_true, if_false] at period
    split at period
    next repeating =>
      obtain rfl : config.initialOffset table = k := by simpa using period
      rcases awaits with ⟨-, -, single⟩ | ⟨-, -, first, at_due⟩
      · cases repeating.symm.trans (single at_end)
      · exact .inl ⟨first, at_due, fun empty => by omega⟩
    next => cases period
  · refine ⟨by simp [tableWheel, period], ?_⟩
    simp only [tablePeriod, at_end, not_before, if_true, if_false] at period
    split at period
    next => cases period
    next single =>
      rcases awaits with ⟨index, at_due, -⟩ | ⟨-, repeating, -⟩
      · exact ⟨index.trans at_end, at_due⟩
      · exact absurd repeating single

/-! ## One step -/

end

omit val

private theorem TableTimed.seen {events : List CounterEvent}
    (sees : TableSees config table s s' events)
    (used : ∀ event ∈ events, TableUsed config table s event)
    (in_time : ∀ event ∈ events, TableInTime config table s event) :
    TableAccepts config table origin p (s', events) := by
  cases sees with
  | unseen val same laps skipped =>
    exact ⟨p, watch_skip fun event member => expectTable_skip (skipped event member),
      timed.unseen val same laps⟩
  | advanced val same laps =>
    exact timed.advanced val same laps (in_time _ mem_cons_self)
  | startedRel offset =>
    exact ⟨_, by simp [expectTable], timed.startedRel rules delayed (used _ mem_cons_self)⟩
  | startedAbs start =>
    obtain ⟨due, on_time, -⟩ := timed.timed
    have here : (origin + p.ticks) % (config.tableMax table + 1) =
        tableVal config table s := on_time.val.symm
    exact ⟨_, by simp [expectTable, here], timed.startedAbs rules delayed
      (used _ mem_cons_self) (in_time _ mem_cons_self)⟩
  | stopped => exact absurd rfl (used _ mem_cons_self)
  | passed val same before after waits => exact ⟨p, rfl, timed.passed val same before after waits⟩
  | reached val same before after runs here below =>
    exact timed.reached rules val same before after runs here below
  | updated val same halts before after =>
    rcases before with acting | ⟨ahead, runs, here, at_last⟩
    · exact timed.acted rules delayed alone val same after acting
    · exact timed.turned rules delayed alone val same after ahead runs here at_last
  | left val same before after =>
    obtain ⟨complete, moved⟩ := timed.left val same before after
    exact ⟨p, by simp [expectTable, complete], moved⟩

end

theorem TableTracks.stepped (tracks : TableTracks config table origin s p)
    (known : table < config.schtblCnt) (rules : TableRules config table)
    (delayed : (config.table table).repeating → config.initialOffset table ≠ 0)
    (step : CounterStep) (no_successor : step.givesSuccessor table = false)
    (used : ∀ event ∈ (counterStep config s step).2, TableUsed config table s event)
    (in_time : ∀ event ∈ (counterStep config s step).2, TableInTime config table s event) :
    Accepts (expectTable config table origin) (TableTracks config table origin) p
      (counterStep config s step) := by
  obtain ⟨sees, alone⟩ := counterStep_tableSees known tracks.alone tracks.sound no_successor
  obtain ⟨next, watched, timed⟩ :=
    tracks.toTableTimed.seen rules delayed tracks.alone.own sees used in_time
  exact ⟨next, watched, timed, counterStep_sound tracks.sound step, alone⟩

end Steps

/-! ## Whole runs -/

/-- The table has not been used, and it is nobody's successor. -/
structure TableUnused : Prop where
  attached : s.Attached config
  no_walk : s.walks = []
  stopped : (s.tables table).state = .stopped
  index : (s.tables table).expireCurrIndex = 0
  alone : (s.tables table).next = none
  apart : ∀ other, (s.tables other).next ≠ some table
  expireVal : (s.tables table).expireVal ≤ config.tableMax table
  val : tableVal config table s ≤ config.tableMax table

/-- The table is started when it is stopped, and neither stopped nor given a successor. -/
def OnlyStarted : Prop :=
  step.givesSuccessor table = false ∧
    ∀ event ∈ (counterStep config s step).2, TableUsed config table s event
  deriving Decidable

def TableStepInTime : Prop :=
  ∀ event ∈ (counterStep config s step).2, TableInTime config table s event
  deriving Decidable

theorem TableUnused.tracks {config : CounterSet} {table : Nat} {s : CounterState}
    (unused : TableUnused config table s) :
    TableTracks config table (tableVal config table s) s
      { ticks := 0, place := none } where
  sound := ⟨unused.attached, by simp [unused.no_walk]⟩
  alone := ⟨unused.alone, unused.apart⟩
  timed := by
    refine ⟨none, .start (mod_eq_of_lt (lt_succ_of_le unused.val)).symm ?_ ?_, ?_⟩
    · simp [tableWheel, unused.stopped, TableState.runs]
    · simp [tableWheel, lapsOf, unused.no_walk]
    · exact ⟨rfl, unused.stopped, unused.index, by simp [lapsOf, unused.no_walk]⟩
  bounded := unused.expireVal

theorem TableTracks.place_none_iff {config : CounterSet} {table origin : Nat} {s : CounterState}
    {p : TablePlan} (tracks : TableTracks config table origin s p) :
    p.place = none ↔ (s.tables table).state = .stopped := by
  obtain ⟨due, -, stands⟩ := tracks.timed
  cases at_place : p.place with
  | none =>
    simp only [Stands, at_place] at stands
    exact ⟨fun _ => stands.2.1, fun _ => rfl⟩
  | some place =>
    simp only [Stands, at_place] at stands
    exact ⟨nofun, fun stopped => absurd (stopped.symm.trans stands.1) nofun⟩

/-- Every point is processed at its increments and at no other, and a single-shot table ends at
its duration, if a repeating table has an initial offset and every step meets the table in
time. -/
theorem table_expires_on_time (config : CounterSet) (table : Nat) (s : CounterState)
    (steps : List CounterStep) (known : table < config.schtblCnt)
    (rules : TableRules config table) (unused : TableUnused config table s)
    (only_started : Meets (counterStep config) (OnlyStarted config table) s steps)
    (delayed : (config.table table).repeating = true → config.initialOffset table ≠ 0)
    (in_time : Meets (counterStep config) (TableStepInTime config table) s steps) :
    let last := run (counterStep config) s steps
    (∃ plan, watch
        (expectTable config table (tableVal config table s))
        { ticks := 0, place := none } last.2 = some plan ∧
      (plan.place = none ↔ (last.1.tables table).state = .stopped)) ∧
    (last.1.tables table).expireVal ≤ config.tableMax table ∧
    -- an increment comes to its end, unless an assertion fails for another table
    (last.1.halted = false → (∀ other, (last.1.tables other).next = none) →
      (∀ other, (config.table other).repeating = true → config.finalOffset other ≠ 0) →
      ∀ rank : Nat → Nat,
        (∀ alarm other, (config.alarm alarm).action = .incrementCounter other →
          rank other < rank (config.alarmCounter alarm)) →
        ∃ n, (resumed config last.1 n).walks = []) := by
  obtain ⟨plan, watched, tracks⟩ := run_watched
    (TableTracks config table (tableVal config table s)) unused.tracks
    (only_started.and in_time) fun state action seen tracks ⟨⟨no_successor, used⟩, in_time⟩ =>
      tracks.stepped known rules delayed action no_successor used in_time
  refine ⟨⟨plan, watched, tracks.place_none_iff⟩, tracks.bounded, ?_⟩
  intro running alone delays rank acyclic
  have calm : CounterState.Calm config (run (counterStep config) s steps).1 :=
    ⟨tracks.sound, running, alone, fun other => .inl (delays other)⟩
  obtain ⟨n, ended, -⟩ := walks_end acyclic calm
  exact ⟨n, ended⟩

/-- One table with two points on a counter up to 9. -/
def oneTable (repeating : Bool) : CounterSet where
  statusExtended := true
  counterCnt := 1
  alarmCnt := 0
  schtblCnt := 1
  counter _ := { type := .soft, maxallowedvalue := 9, mincycle := 1 }
  alarm _ := { counter := 0, action := .alarmCallback }
  table _ :=
    { counter := 0, duration := 6, repeating
      expirePointList :=
        [{ offset := 2, taskList := [1], eventList := [] },
         { offset := 4, taskList := [], eventList := [(2, 1)] }] }

theorem oneTable_rules (repeating : Bool) : TableRules (oneTable repeating) 0 where
  points := by decide +revert
  gaps index below := by
    have : index = 0 := by
      have : (oneTable repeating).expirePointCnt 0 = 2 := rfl
      omega
    subst this
    decide +revert
  initial := by decide +revert
  last := by decide +revert
  final := by decide +revert
  repeats := by decide +revert
  duration := by decide +revert
  max := by decide +revert

theorem oneTable_unused (repeating : Bool) :
    TableUnused (oneTable repeating) 0 (.start (oneTable repeating)) where
  attached := start_attached _
  no_walk := rfl
  stopped := rfl
  index := rfl
  alone := rfl
  apart _ := nofun
  expireVal := zero_le _
  val := zero_le _

/-- Increments without an expiry point, continued to the end. -/
def plainTicks (n : Nat) : List CounterStep :=
  (List.replicate n (.call (.incrementCounter 0) :: List.replicate 3 .resume)).flatten

/-- An increment that reaches an expiry point with one action. -/
def pointTick : List CounterStep := .call (.incrementCounter 0) :: List.replicate 5 .resume

/-- Points at the increments 3, 5 and, in the second round, 9. -/
def repeatingRun : List CounterStep :=
  .call (.startScheduleTableRel 0 1) :: plainTicks 2 ++ pointTick ++ plainTicks 1 ++ pointTick ++
    plainTicks 3 ++ pointTick

theorem repeating_table_expires_on_time :
    (run (counterStep (oneTable true)) (.start (oneTable true)) repeatingRun).2.count
      (.pointExpired 0 0) = 2 ∧
    ∃ plan, watch (expectTable (oneTable true) 0 0) { ticks := 0, place := none }
      (run (counterStep (oneTable true)) (.start (oneTable true)) repeatingRun).2 = some plan := by
  refine ⟨by decide, ?_⟩
  obtain ⟨⟨plan, watched, -⟩, -⟩ :=
    table_expires_on_time (oneTable true) 0 (.start (oneTable true)) repeatingRun (by decide)
      (oneTable_rules true) (oneTable_unused true) (by decide) (by decide) (by decide)
  exact ⟨plan, watched⟩

/-- An absolute start at 8 with the first point 2 ticks later, on a counter up to 9. -/
def absoluteRun : List CounterStep := .call (.startScheduleTableAbs 0 8) :: plainTicks 10

/-- The expiry value is not taken modulo the counter: the first point is never reached. -/
theorem absolute_start_passes_counter_end :
    Meets (counterStep (oneTable false)) (OnlyStarted (oneTable false) 0)
      (.start (oneTable false)) absoluteRun ∧
    ((run (counterStep (oneTable false)) (.start (oneTable false)) absoluteRun).1.tables
      0).expireVal = 10 ∧
    (oneTable false).maxOf 0 = 9 ∧
    watch (expectTable (oneTable false) 0 0) { ticks := 0, place := none }
      (run (counterStep (oneTable false)) (.start (oneTable false)) absoluteRun).2 = none := by
  decide

end Os
