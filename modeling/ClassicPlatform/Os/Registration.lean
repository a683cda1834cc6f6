import ClassicPlatform.Lib.SList
import ClassicPlatform.Lib.Sweep
import ClassicPlatform.Os.Counters
import Mathlib.Data.List.Nodup

/-!
# Registration of alarms and schedule tables

`Os_CounterInit` links every alarm and every schedule table into a list of its
counter. The second half of the function initialises the alarm list of the counter of
the first schedule table once more, where the list of schedule tables is meant.
`Os_SchTblInit` checks the offsets of each schedule table.
-/
namespace Os

open Function List Nat

/-- The list heads of the counters and the links of the elements. -/
structure Links where
  alarmHead : Nat → Option Nat
  alarmLink : Nat → Option Nat
  schedHead : Nat → Option Nat
  schedLink : Nat → Option Nat

def Links.zero : Links :=
  { alarmHead := fun _ => none, alarmLink := fun _ => none
    schedHead := fun _ => none, schedLink := fun _ => none }

variable (config : CounterSet) (l : Links)

/-- `SLIST_INIT` of the alarm list of a counter. -/
def Links.initAlarmHead (counter : Nat) : Links :=
  { l with alarmHead := update l.alarmHead counter none }

/-- `SLIST_INSERT_HEAD` for an alarm. -/
def Links.insertAlarm (alarm : Nat) : Links :=
  let counter := config.alarmCounter alarm
  { l with
    alarmLink := update l.alarmLink alarm (l.alarmHead counter)
    alarmHead := update l.alarmHead counter (some alarm) }

/-- `SLIST_INSERT_HEAD` for a schedule table. -/
def Links.insertTable (table : Nat) : Links :=
  let counter := config.tableCounter table
  { l with
    schedLink := update l.schedLink table (l.schedHead counter)
    schedHead := update l.schedHead counter (some table) }

def osCounterInitAlarms : Links :=
  if config.alarmCnt ≠ 0 then
    (List.range config.alarmCnt).foldl (Links.insertAlarm config)
      (l.initAlarmHead (config.alarmCounter 0))
  else l

def osCounterInitTables : Links :=
  if config.schtblCnt ≠ 0 then
    -- the source initialises the alarm list here, not the list of schedule tables
    (List.range config.schtblCnt).foldl (Links.insertTable config)
      (l.initAlarmHead (config.tableCounter 0))
  else l

def osCounterInit : Links :=
  osCounterInitTables config (osCounterInitAlarms config l)

/-- The elements below `cnt` that belong to a counter, in the order in which insertions at
the head leave them. -/
def latestFirst (owner : Nat → Nat) (cnt counter : Nat) : List Nat :=
  ((List.range cnt).filter fun item => owner item = counter).reverse

/-- Every list holds exactly the elements configured on its counter. -/
structure Links.Registered : Prop where
  alarms : ∀ counter, ∃ items, SList.Chain l.alarmLink (l.alarmHead counter) items ∧
    items.Nodup ∧
    ∀ alarm, alarm ∈ items ↔ alarm < config.alarmCnt ∧ config.alarmCounter alarm = counter
  tables : ∀ counter, ∃ items, SList.Chain l.schedLink (l.schedHead counter) items ∧
    items.Nodup ∧
    ∀ table, table ∈ items ↔ table < config.schtblCnt ∧ config.tableCounter table = counter

/-- The lists of a state are those the links lead along. -/
structure CounterState.Reads (s : CounterState) : Prop where
  alarms : ∀ counter, SList.Chain l.alarmLink (l.alarmHead counter) (s.counters counter).alarmList
  tables : ∀ counter, SList.Chain l.schedLink (l.schedHead counter) (s.counters counter).schedList

/-- Every alarm and every schedule table is once in the list of its counter. -/
structure CounterState.Attached (s : CounterState) : Prop where
  alarms : ∀ counter, (s.counters counter).alarmList.Nodup ∧
    ∀ alarm, alarm ∈ (s.counters counter).alarmList ↔
      alarm < config.alarmCnt ∧ config.alarmCounter alarm = counter
  tables : ∀ counter, (s.counters counter).schedList.Nodup ∧
    ∀ table, table ∈ (s.counters counter).schedList ↔
      table < config.schtblCnt ∧ config.tableCounter table = counter

theorem CounterState.Attached.registered {config : CounterSet} {l : Links} {s : CounterState}
    (attached : s.Attached config) (reads : s.Reads l) : l.Registered config where
  alarms counter := ⟨_, reads.alarms counter, attached.alarms counter⟩
  tables counter := ⟨_, reads.tables counter, attached.tables counter⟩

/-! ## Insertion at the head, one element after another -/

section Insertion

variable {owner : Nat → Nat} {cnt counter : Nat}

theorem mem_latestFirst {item : Nat} :
    item ∈ latestFirst owner cnt counter ↔ item < cnt ∧ owner item = counter := by
  simp [latestFirst]

theorem latestFirst_nodup : (latestFirst owner cnt counter).Nodup :=
  nodup_reverse.mpr (nodup_range.filter _)

private theorem latestFirst_succ :
    latestFirst owner (cnt + 1) counter =
      if owner cnt = counter then cnt :: latestFirst owner cnt counter
      else latestFirst owner cnt counter := by
  simp only [latestFirst, range_succ]
  split <;> simp [*]

private theorem fresh_latestFirst : cnt ∉ latestFirst owner cnt counter := by
  simp [latestFirst]

/-- The heads and links lead along the first `cnt` elements. -/
def Linked (owner : Nat → Nat) (cnt : Nat) (head link : Nat → Option Nat) : Prop :=
  ∀ counter, SList.Chain link (head counter) (latestFirst owner cnt counter)

theorem Linked.zero {head link : Nat → Option Nat} (empty : ∀ counter, head counter = none) :
    Linked owner 0 head link := empty

theorem Linked.insert {head link : Nat → Option Nat} (linked : Linked owner cnt head link) :
    Linked owner (cnt + 1) (update head (owner cnt) (some cnt))
      (update link cnt (head (owner cnt))) := by
  intro counter
  rw [latestFirst_succ]
  by_cases own : owner cnt = counter
  · subst own
    rw [if_pos rfl, update_self]
    exact (linked _).insertHead fresh_latestFirst
  · rw [if_neg own, update_of_ne (Ne.symm own)]
    refine (linked counter).congr fun item member => update_of_ne ?_ _ _
    rintro rfl
    exact fresh_latestFirst member

end Insertion

/-! ## Both loops -/

section Loops

variable (config : CounterSet)

private theorem foldl_linked {owner : Nat → Nat} {insert : Links → Nat → Links}
    (head link : Links → Nat → Option Nat)
    (inserts : ∀ {l cnt}, Linked owner cnt (head l) (link l) →
      Linked owner (cnt + 1) (head (insert l cnt)) (link (insert l cnt)))
    {l : Links} (empty : ∀ counter, head l counter = none) (cnt : Nat) :
    let after := (List.range cnt).foldl insert l
    Linked owner cnt (head after) (link after) := by
  induction cnt with
  | zero => exact Linked.zero empty
  | succ cnt ih =>
    simp only [range_succ, foldl_append]
    exact inserts ih

theorem osCounterInitAlarms_linked {l : Links} (empty : ∀ counter, l.alarmHead counter = none) :
    Linked config.alarmCounter config.alarmCnt (osCounterInitAlarms config l).alarmHead
      (osCounterInitAlarms config l).alarmLink := by
  unfold osCounterInitAlarms
  split
  next some_alarm =>
    refine foldl_linked Links.alarmHead Links.alarmLink Linked.insert (fun counter => ?_) _
    by_cases own : counter = config.alarmCounter 0
    · subst own
      exact update_self _ _ _
    · exact (update_of_ne own _ _).trans (empty counter)
  next no_alarm =>
    rw [not_not.mp no_alarm]
    exact Linked.zero empty

theorem osCounterInitAlarms_sched (l : Links) :
    (osCounterInitAlarms config l).schedHead = l.schedHead := by
  unfold osCounterInitAlarms
  split
  · exact Sweep.foldl_frame Links.schedHead (fun _ _ _ => by rfl) _
  · rfl

theorem osCounterInitTables_linked {l : Links} (empty : ∀ counter, l.schedHead counter = none) :
    Linked config.tableCounter config.schtblCnt (osCounterInitTables config l).schedHead
      (osCounterInitTables config l).schedLink := by
  unfold osCounterInitTables
  split
  next some_table =>
    exact foldl_linked Links.schedHead Links.schedLink Linked.insert (l := l.initAlarmHead _) empty _
  next no_table =>
    rw [not_not.mp no_table]
    exact Linked.zero empty

theorem osCounterInitTables_alarms (l : Links) :
    (osCounterInitTables config l).alarmLink = l.alarmLink ∧
      ∀ counter, (osCounterInitTables config l).alarmHead counter =
        if config.schtblCnt ≠ 0 ∧ counter = config.tableCounter 0 then none
        else l.alarmHead counter := by
  unfold osCounterInitTables
  split
  next some_table =>
    refine ⟨Sweep.foldl_frame Links.alarmLink (fun _ _ _ => by rfl) _, fun counter => ?_⟩
    refine (congrFun (Sweep.foldl_frame Links.alarmHead (fun _ _ _ => by rfl) _) counter).trans ?_
    simp [Links.initAlarmHead, update_apply, some_table]
  next no_table => simp [no_table]

end Loops

/-- Zero-initialised data with the lists that the insertions leave. -/
def CounterState.start : CounterState where
  counters counter :=
    { val := 0
      alarmList := latestFirst config.alarmCounter config.alarmCnt counter
      schedList := latestFirst config.tableCounter config.schtblCnt counter }
  alarms _ := { active := false, expireVal := 0, cycletime := 0 }
  tables _ := { state := .stopped, expireCurrIndex := 0, expireVal := 0, next := none }
  walks := []
  halted := false

theorem start_attached : (CounterState.start config).Attached config where
  alarms _ := ⟨latestFirst_nodup, fun _ => mem_latestFirst⟩
  tables _ := ⟨latestFirst_nodup, fun _ => mem_latestFirst⟩

theorem start_reads {l : Links} (alarms_empty : ∀ counter, l.alarmHead counter = none)
    (tables_empty : ∀ counter, l.schedHead counter = none)
    (apart : config.schtblCnt = 0 ∨
      ∀ alarm < config.alarmCnt, config.alarmCounter alarm ≠ config.tableCounter 0) :
    (CounterState.start config).Reads (osCounterInit config l) where
  alarms counter := by
    obtain ⟨links, heads⟩ := osCounterInitTables_alarms config (osCounterInitAlarms config l)
    rw [osCounterInit, links, heads]
    split
    next taken =>
      -- the list is emptied, and no alarm is configured here
      have none_here : ((CounterState.start config).counters counter).alarmList = [] := by
        refine eq_nil_iff_forall_not_mem.mpr fun alarm member => ?_
        obtain ⟨configured, here⟩ := mem_latestFirst.mp member
        exact apart.resolve_left taken.1 alarm configured (here.trans taken.2)
      rw [none_here]
      rfl
    next => exact osCounterInitAlarms_linked config alarms_empty counter
  tables := by
    refine osCounterInitTables_linked config fun counter => ?_
    rw [osCounterInitAlarms_sched]
    exact tables_empty counter

/-- After `Os_CounterInit` every alarm and every schedule table is in the list of its counter,
and nothing else is, exactly if no alarm belongs to the counter of the first schedule table. -/
theorem registered_iff_first_table_counter_without_alarms (config : CounterSet) (l : Links)
    (alarms_empty : ∀ counter, l.alarmHead counter = none)
    (tables_empty : ∀ counter, l.schedHead counter = none) :
    (osCounterInit config l).Registered config ↔
      config.schtblCnt = 0 ∨
        ∀ alarm < config.alarmCnt, config.alarmCounter alarm ≠ config.tableCounter 0 := by
  obtain ⟨-, heads⟩ := osCounterInitTables_alarms config (osCounterInitAlarms config l)
  constructor
  · intro registered
    by_contra! lost
    obtain ⟨some_table, alarm, configured, shared⟩ := lost
    obtain ⟨items, chain, _, exact⟩ := registered.alarms (config.tableCounter 0)
    have member := (exact alarm).mpr ⟨configured, shared⟩
    rw [osCounterInit, heads, if_pos ⟨some_table, rfl⟩] at chain
    cases items with
    | nil => exact absurd member not_mem_nil
    | cons first rest => exact absurd chain.1 nofun
  · intro apart
    exact (start_attached config).registered (start_reads config alarms_empty tables_empty apart)

/-- Two counters, one alarm and one schedule table. -/
def oneAlarmOneTable (alarmCounter tableCounter : Nat) : CounterSet where
  statusExtended := true
  counterCnt := 2
  alarmCnt := 1
  schtblCnt := 1
  counter _ := { type := .soft, maxallowedvalue := 9, mincycle := 1 }
  alarm _ := { counter := alarmCounter, action := .activateTask 1 }
  table _ :=
    { counter := tableCounter, duration := 5, repeating := false
      expirePointList := [{ offset := 2, taskList := [1], eventList := [] }] }

theorem registered_on_separate_counters :
    (osCounterInit (oneAlarmOneTable 0 1) Links.zero).Registered (oneAlarmOneTable 0 1) :=
  (registered_iff_first_table_counter_without_alarms (oneAlarmOneTable 0 1) Links.zero
    (fun _ => rfl) (fun _ => rfl)).mpr (.inr fun _ _ => Nat.zero_ne_one)

/-- With the alarm and the schedule table on one counter the alarm is not registered. -/
theorem alarm_lost_on_shared_counter :
    ¬ (osCounterInit (oneAlarmOneTable 0 0) Links.zero).Registered (oneAlarmOneTable 0 0) := by
  intro registered
  obtain ⟨items, chain, -, configured⟩ := registered.alarms 0
  have member : 0 ∈ items := (configured 0).mpr (by decide)
  have empty : (osCounterInit (oneAlarmOneTable 0 0) Links.zero).alarmHead 0 = none := by decide
  cases items with
  | nil => exact absurd member not_mem_nil
  | cons first rest => cases empty.symm.trans chain.1

/-! ## Consistency of the schedule tables -/

namespace CounterSet

variable (table : Nat)

/-- The variable `delta` of `ScheduleTableConsistenyCheck`: a turn subtracts the difference of the
turn before, not the offset. -/
def delta : Nat → Nat
  | 0 => tickSub (config.offset table 0) 0
  | iter + 1 => tickSub (config.offset table (iter + 1)) (delta iter)

/-- The delay is neither too short nor too long for the counter of the table. -/
def Measures (delay : Int) : Prop :=
  (config.counter (config.tableCounter table)).mincycle ≤ delay ∧
    delay ≤ config.tableMax table
  deriving Decidable

/-- The assertions of `ScheduleTableConsistenyCheck`. -/
def ScheduleTableConsistenyCheck : Prop :=
  1 ≤ config.expirePointCnt table ∧
    (∀ iter ∈ range (config.expirePointCnt table),
      if iter = 0 then config.delta table iter ≤ config.tableMax table
      else config.Measures table (config.delta table iter)) ∧
    config.Measures table (config.finalOffset table)
  deriving Decidable

/-- The time to an expiry point from the one before it, or from the start. -/
def delay : Nat → Int
  | 0 => config.initialOffset table
  | index + 1 => config.offset table (index + 1) - config.offset table index

def finalDelay : Int :=
  (config.table table).duration - config.offset table (config.expirePointCnt table - 1)

/-- What the check is for, with differences of integers. -/
def Consistent : Prop :=
  config.initialOffset table ≤ config.tableMax table ∧
    (∀ index ∈ range (config.expirePointCnt table - 1),
      config.Measures table (config.delay table (index + 1))) ∧
    config.Measures table (config.finalDelay table)
  deriving Decidable

/-- The delay to an expiry point together with every second one before it. -/
def summed : Nat → Int
  | 0 => config.delay table 0
  | 1 => config.delay table 1
  | index + 2 => config.delay table (index + 2) + summed index

/-- The expiry points come in the order of their offsets, and none after the end of the table. -/
def Ordered : Prop :=
  (∀ index ∈ range (config.expirePointCnt table - 1),
    config.offset table index ≤ config.offset table (index + 1)) ∧
    config.offset table (config.expirePointCnt table - 1) ≤ (config.table table).duration
  deriving Decidable

/-- Every time of the table is a `TickType`. -/
def Fits : Prop :=
  (∀ point ∈ (config.table table).expirePointList, point.offset < 2 ^ 32) ∧
    (config.table table).duration < 2 ^ 32
  deriving Decidable

variable {config table}

theorem summed_one : config.summed table 1 = config.delay table 1 := rfl

theorem Fits.offset (fits : config.Fits table) (index : Nat) :
    config.offset table index < 2 ^ 32 := by
  unfold CounterSet.offset
  split
  next point found => exact fits.1 point (mem_of_getElem? found)
  next => exact Nat.two_pow_pos 32

theorem tickSub_emod {earlier later : Nat} (fits : earlier < 2 ^ 32) :
    (tickSub later earlier : Int) = ((later : Int) - earlier) % (2 ^ 32 : Nat) := by
  unfold tickSub
  omega

theorem Fits.finalOffset_eq (fits : config.Fits table) :
    (config.finalOffset table : Int) = config.finalDelay table % (2 ^ 32 : Nat) :=
  tickSub_emod (fits.offset _)

theorem Fits.delta_zero (fits : config.Fits table) :
    config.delta table 0 = config.initialOffset table := by
  have small := fits.offset 0
  rw [delta, tickSub, initialOffset]
  omega

theorem Fits.delta_eq (fits : config.Fits table) (index : Nat) :
    (config.delta table index : Int) = config.summed table index % (2 ^ 32 : Nat) := by
  have bounded : ∀ index, config.delta table index < 2 ^ 32 := by
    intro index
    cases index <;> exact mod_lt _ (Nat.two_pow_pos 32)
  induction index using summed.induct with
  | case1 =>
    have small := fits.offset 0
    rw [fits.delta_zero, summed, delay, initialOffset]
    omega
  | case2 =>
    rw [delta, tickSub_emod (bounded 0), fits.delta_zero]
    rfl
  | case3 index ih =>
    -- the difference of the turn before is itself a difference
    rw [delta, tickSub_emod (bounded _), delta, tickSub_emod (bounded _), ih, summed, delay]
    omega

theorem Ordered.summed_le (ordered : config.Ordered table) {index : Nat}
    (known : index < config.expirePointCnt table) :
    0 ≤ config.summed table index ∧ config.summed table index ≤ config.offset table index := by
  have rising : ∀ index, index + 1 < config.expirePointCnt table →
      config.offset table index ≤ config.offset table (index + 1) :=
    fun index below => ordered.1 index (mem_range.mpr (by omega))
  induction index using summed.induct with
  | case1 =>
    rw [summed, delay, initialOffset]
    omega
  | case2 =>
    have step : config.offset table 0 ≤ config.offset table 1 := rising 0 known
    have value : config.summed table 1 = config.offset table 1 - config.offset table 0 := rfl
    rw [value]
    omega
  | case3 index ih =>
    have lower := ih (by omega)
    have step := rising index (by omega)
    have step' := rising (index + 1) known
    rw [summed, delay, succ_eq_add_one]
    omega

section

variable (fits : config.Fits table) (ordered : config.Ordered table)
include fits ordered

theorem Ordered.summed_emod {index : Nat} (known : index < config.expirePointCnt table) :
    config.summed table index % (2 ^ 32 : Nat) = config.summed table index := by
  have bounds := ordered.summed_le known
  have small := fits.offset index
  omega

theorem Ordered.finalDelay_emod : config.finalDelay table % (2 ^ 32 : Nat) = config.finalDelay table := by
  have last := ordered.2
  have small := fits.2
  unfold finalDelay
  omega

end

theorem Consistent.ordered (consistent : config.Consistent table) : config.Ordered table := by
  obtain ⟨-, gaps, final⟩ := consistent
  refine ⟨fun index member => ?_, ?_⟩
  · have gap := (gaps index member).1
    rw [delay] at gap
    omega
  · have gap := final.1
    rw [finalDelay] at gap
    omega

theorem measures_second (times : Nat → Int) :
    (∀ index ∈ range (config.expirePointCnt table - 1),
        config.Measures table (times (index + 1))) ↔
      (2 ≤ config.expirePointCnt table → config.Measures table (times 1)) ∧
        ∀ index ∈ range (config.expirePointCnt table - 2),
          config.Measures table (times (index + 2)) := by
  simp only [mem_range]
  constructor
  · intro all
    exact ⟨fun two => all 0 (by omega), fun index below => all (index + 1) (by omega)⟩
  · rintro ⟨first, later⟩ (_ | index) below
    · exact first (by omega)
    · exact later index (by omega)

theorem Fits.check_iff (fits : config.Fits table) (points : 1 ≤ config.expirePointCnt table) :
    config.ScheduleTableConsistenyCheck table ↔
      config.initialOffset table ≤ config.tableMax table ∧
        (∀ index ∈ range (config.expirePointCnt table - 1),
          config.Measures table (config.summed table (index + 1) % (2 ^ 32 : Nat))) ∧
        config.Measures table (config.finalDelay table % (2 ^ 32 : Nat)) := by
  obtain ⟨last, cnt⟩ := Nat.exists_eq_add_of_le' points
  simp only [ScheduleTableConsistenyCheck, cnt, le_add_left, true_and, mem_range,
    forall_lt_succ_left, if_true, fits.delta_zero, add_one_ne_zero, if_false, Nat.add_sub_cancel,
    fits.delta_eq, fits.finalOffset_eq, and_assoc]

end CounterSet

open CounterSet

/-- From the third expiry point on the check measures a delay together with every second one
before it, modulo the width of a tick. It is exact for a table in order just if one of the times
that it measures rightly is out of range, or these sums are in range exactly if the later delays
are. -/
theorem consistency_check_exact (config : CounterSet) (table : Nat)
    (points : 1 ≤ config.expirePointCnt table) (fits : config.Fits table) :
    (config.ScheduleTableConsistenyCheck table ↔
      config.initialOffset table ≤ config.tableMax table ∧
        (∀ index ∈ range (config.expirePointCnt table - 1),
          config.Measures table (config.summed table (index + 1) % (2 ^ 32 : Nat))) ∧
        config.Measures table (config.finalDelay table % (2 ^ 32 : Nat))) ∧
    (¬ config.Ordered table → ¬ config.Consistent table) ∧
    (config.Ordered table →
      ((config.ScheduleTableConsistenyCheck table ↔ config.Consistent table) ↔
        (config.initialOffset table ≤ config.tableMax table →
          (2 ≤ config.expirePointCnt table → config.Measures table (config.delay table 1)) →
          config.Measures table (config.finalDelay table) →
          ((∀ index ∈ range (config.expirePointCnt table - 2),
              config.Measures table (config.summed table (index + 2))) ↔
            ∀ index ∈ range (config.expirePointCnt table - 2),
              config.Measures table (config.delay table (index + 2)))))) := by
  have check := fits.check_iff points
  refine ⟨check, mt Consistent.ordered, fun ordered => ?_⟩
  have sums : ∀ index ∈ range (config.expirePointCnt table - 1),
      (config.Measures table (config.summed table (index + 1) % (2 ^ 32 : Nat)) ↔
        config.Measures table (config.summed table (index + 1))) := by
    intro index member
    rw [ordered.summed_emod fits (by have := mem_range.mp member; omega)]
  rw [check, forall₂_congr sums, ordered.finalDelay_emod fits, Consistent,
    measures_second (config.summed table), measures_second (config.delay table)]
  simp only [summed_one, and_assoc, and_congr_right_iff, and_congr_left_iff]

/-- A table that ends two ticks after the last of its expiry points. -/
def pointsAt (offsets : List Nat) : CounterSet :=
  { oneAlarmOneTable 1 0 with
    counter _ := { type := .soft, maxallowedvalue := 4, mincycle := 2 }
    table _ :=
      { counter := 0, duration := offsets.getLastD 0 + 2, repeating := false
        expirePointList := offsets.map fun offset => { offset, taskList := [1], eventList := [] } } }

/-- A table of four expiry points passes, although the sums are longer than the delays. One whose
second delay is too short fails at once. -/
theorem four_points_judged :
    ((pointsAt [2, 4, 6, 8]).ScheduleTableConsistenyCheck 0 ↔ (pointsAt [2, 4, 6, 8]).Consistent 0) ∧
    (pointsAt [2, 4, 6, 8]).Consistent 0 ∧
    ((pointsAt [2, 3, 5]).ScheduleTableConsistenyCheck 0 ↔ (pointsAt [2, 3, 5]).Consistent 0) ∧
    ¬ (pointsAt [2, 3, 5]).Consistent 0 := by
  refine ⟨?_, by decide, ?_, by decide⟩
  · exact ((consistency_check_exact (pointsAt [2, 4, 6, 8]) 0 (by decide) (by decide)).2.2
      (by decide)).mpr (by decide)
  · exact ((consistency_check_exact (pointsAt [2, 3, 5]) 0 (by decide) (by decide)).2.2
      (by decide)).mpr (by decide)

/-- With three expiry points a consistent table fails, and one with a delay that is too short
passes. -/
theorem three_points_misjudged :
    ((pointsAt [3, 5, 7]).Consistent 0 ∧ ¬ (pointsAt [3, 5, 7]).ScheduleTableConsistenyCheck 0) ∧
    ¬ (pointsAt [2, 4, 5]).Consistent 0 ∧ (pointsAt [2, 4, 5]).ScheduleTableConsistenyCheck 0 := by
  decide

end Os
