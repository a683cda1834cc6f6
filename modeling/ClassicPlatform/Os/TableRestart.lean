import ClassicPlatform.Os.TableTiming

/-!
# Schedule tables that are started again

The index of the next expiry point is part of the table. It is reset when the table
comes to its end, but neither by a stop nor by a start. `expectOrder` follows the events
of one table and gives up at a point that is out of order, counting from the first point
at every start, and at an end that comes before the last point.
-/
namespace Os

open CounterState List Machine

variable (config : CounterSet) (table : Nat) (s : CounterState)

/-- The point to process after this one; behind the last point a single-shot table has only
its end. -/
def CounterSet.followingPoint (table index : Nat) : Nat :=
  if index + 1 < config.expirePointCnt table then index + 1
  else if (config.table table).repeating then 0
  else config.expirePointCnt table

/-- The monitor holds the index of the next point while the table runs. -/
def expectOrder (expected : Option Nat) : CounterEvent → Option (Option Nat)
  | .tableStartedRel other _ | .tableStartedAbs other _ =>
    some (if other = table then some 0 else expected)
  | .tableStopped other => some (if other = table then none else expected)
  | .pointExpired other index =>
    if other ≠ table then some expected
    else if expected = some index then some (some (config.followingPoint table index))
    else none
  | .tableEnded other =>
    if other ≠ table then some expected
    -- a table that was stopped in the actions of its last point ends as well
    else if expected = none ∨ expected = some (config.expirePointCnt table) then some none
    else none
  | _ => some expected

/-- A start finds the index at the first point and no walk in the actions of the table. The
counter does not come round to the value of a point while its actions are under way. -/
def StartsFresh : CounterEvent → Prop
  | .incremented counter =>
    counter = config.tableCounter table → .acting ∈ tableLaps config table s →
      (s.tables table).state.runs = true →
      (s.tables table).expireVal ≠ osCounterAdd (s.counters counter).val (config.maxOf counter) 1
  | .tableStartedRel other _ | .tableStartedAbs other _ =>
    other = table →
      (s.tables table).expireCurrIndex = 0 ∧ .acting ∉ tableLaps config table s
  | _ => True

instance : DecidablePred (StartsFresh config table s) := fun event => by
  induction event using CounterEvent.casesOn <;>
    first | exact isTrue trivial | exact inferInstanceAs (Decidable (_ → _))

def StepStartsFresh (step : CounterStep) : Prop :=
  ∀ event ∈ (counterStep config s step).2, StartsFresh config table s event
  deriving Decidable

/-- The index of the code while the monitor expects this point: the code passes the end of the
table, where a repeating table is expected to be at its first point again. -/
def Stored (table stored expected : Nat) : Prop :=
  stored = expected ∧
      (expected < config.expirePointCnt table ∨
        expected = config.expirePointCnt table ∧ (config.table table).repeating = false) ∨
    stored = config.expirePointCnt table ∧ expected = 0 ∧ (config.table table).repeating = true

/-- What the monitor follows. -/
structure Ordered (expected : Option Nat) : Prop where
  once : (tableLaps config table s).count .acting ≤ 1
  runs : (s.tables table).state.runs = expected.isSome
  idle : .acting ∉ tableLaps config table s → ∀ index, expected = some index →
    Stored config table (s.tables table).expireCurrIndex index
  acts : .acting ∈ tableLaps config table s →
    (s.tables table).expireCurrIndex < config.expirePointCnt table ∧
    ∀ index, expected = some index →
      index = config.followingPoint table (s.tables table).expireCurrIndex
  /-- Walks that came in during the actions do not meet the table. -/
  apart : .acting ∈ tableLaps config table s →
    (tableLaps config table s).head? ≠ some .acting →
    (s.tables table).state.runs = true →
    (s.tables table).expireVal ≠ tableVal config table s

variable {events : List CounterEvent}

section Steps

variable {config : CounterSet} {table : Nat} {s s' : CounterState} {expected : Option Nat}

theorem stored_zero (config : CounterSet) (table : Nat) : Stored config table 0 0 := by
  unfold Stored
  by_cases empty : config.expirePointCnt table = 0
  · cases repeating : (config.table table).repeating <;> simp [empty]
  · exact .inl ⟨rfl, .inl (pos_of_ne_zero empty)⟩

private theorem schTblUpdateState_outcomes (alone : (s.tables table).next = none) :
    let index := (s.tables table).expireCurrIndex
    let outcome := schTblUpdateState config s table
    (outcome.2 = [] ∧ outcome.1.halted = true) ∨
    (outcome.2 = [] ∧ (outcome.1.tables table).state = (s.tables table).state ∧
      (index < config.expirePointCnt table →
        Stored config table (outcome.1.tables table).expireCurrIndex
          (config.followingPoint table index)) ∧
      (index = config.expirePointCnt table →
        (config.table table).repeating = true ∧
          Stored config table (outcome.1.tables table).expireCurrIndex 0)) ∨
    (outcome.2 = [.tableEnded table] ∧ (outcome.1.tables table).state = .stopped ∧
      (config.table table).repeating = false ∧
      (index < config.expirePointCnt table → index + 1 = config.expirePointCnt table)) := by
  generalize updates : schTblUpdateState config s table = outcome
  cases schTblUpdateState_updated updates with
  | undelayed => exact .inl ⟨rfl, rfl⟩
  | failed _ successor | switched _ successor => cases alone.symm.trans successor
  | waits before =>
    have not_end : (s.tables table).expireCurrIndex ≠ config.expirePointCnt table := by
      rintro at_end
      simp [atFinal, at_end] at before
    refine .inr (.inl ⟨rfl, by simp [schTblNextPoint], fun _ => ?_,
      fun ends => absurd ends not_end⟩)
    simp only [schTblNextPoint, setTable_tables, CounterSet.followingPoint]
    split
    next inside => exact .inl ⟨rfl, .inl inside⟩
    next last =>
      -- the virtual point at the end
      have last : (s.tables table).expireCurrIndex + 1 = config.expirePointCnt table := by omega
      cases repeating : (config.table table).repeating <;> simp [Stored, repeating, last]
  | repeats final free repeating =>
    refine .inr (.inl ⟨rfl, by simp, fun below => ?_, fun _ => ⟨repeating, ?_⟩⟩)
    · simp [atFinal, repeating] at final
      omega
    · simpa using stored_zero config table
  | ended final free single =>
    refine .inr (.inr ⟨rfl, by simp, single, fun below => ?_⟩)
    simp only [atFinal] at final
    split at final
    next last => exact last
    next => simp at final; omega

private theorem expectOrder_skip {event : CounterEvent}
    (skipped : event.concerns config table = false) :
    expectOrder config table expected event = some expected := by
  cases event <;> simp_all [expectOrder, CounterEvent.concerns]

variable {laps : List Timer.Stage}

section

variable (ordered : Ordered config table s expected)
include ordered

private theorem Ordered.transport
    (val : tableVal config table s' = tableVal config table s)
    (same : s'.tables table = s.tables table)
    (count : (tableLaps config table s').count .acting = (tableLaps config table s).count .acting)
    (head : (tableLaps config table s).head? = some .acting →
      (tableLaps config table s').head? = some .acting) :
    Ordered config table s' expected := by
  have member : .acting ∈ tableLaps config table s' ↔
      .acting ∈ tableLaps config table s := by
    rw [← count_pos_iff, ← count_pos_iff, count]
  refine ⟨count ▸ ordered.once, same ▸ ordered.runs, fun idle => ?_, fun acting => ?_,
    fun acting first => ?_⟩
  · rw [same]
    exact ordered.idle fun acting => idle (member.mpr acting)
  · rw [same]
    exact ordered.acts (member.mp acting)
  · rw [same, val]
    exact ordered.apart (member.mp acting) fun here => first (head here)

private theorem Ordered.advanced
    (val : tableVal config table s' = osCounterAdd (tableVal config table s)
        (config.tableMax table) 1)
    (same : s'.tables table = s.tables table)
    (laps : tableLaps config table s' = .ahead :: tableLaps config table s)
    (fresh : StartsFresh config table s (.incremented (config.tableCounter table))) :
    Ordered config table s' expected := by
  have member : .acting ∈ tableLaps config table s' ↔
      .acting ∈ tableLaps config table s := by
    simp [laps]
  refine ⟨?_, same ▸ ordered.runs, fun idle => ?_, fun acting => ?_, fun acting _ => ?_⟩
  · rw [laps]
    simpa using ordered.once
  · rw [same]
    exact ordered.idle fun acting => idle (member.mpr acting)
  · rw [same]
    exact ordered.acts (member.mp acting)
  · rw [same, val]
    exact fresh rfl (member.mp acting)

private theorem Ordered.started (expireVal : Nat) (fresh : (s.tables table).expireCurrIndex = 0 ∧
      .acting ∉ tableLaps config table s) :
    Ordered config table (s.setTable table { s.tables table with expireVal, state := .running })
      (some 0) := by
  obtain ⟨at_first, idle⟩ := fresh
  refine ⟨ordered.once, by simp [TableState.runs], fun _ index zero => ?_,
    fun acting => absurd acting idle, fun acting => absurd acting idle⟩
  obtain rfl : 0 = index := Option.some.inj zero
  rw [setTable_tables, at_first]
  exact stored_zero config table

private theorem Ordered.stopped :
    Ordered config table (s.setTable table { s.tables table with state := .stopped }) none := by
  refine ⟨ordered.once, by simp [TableState.runs], fun _ _ => nofun, fun acting => ⟨?_, nofun⟩,
    fun _ _ on => ?_⟩
  · rw [setTable_tables]
    exact (ordered.acts acting).1
  · simp [TableState.runs] at on

variable (before : tableLaps config table s = .ahead :: laps)
variable (runs : (s.tables table).state.runs = true)
variable (here : (s.tables table).expireVal = tableVal config table s)
include before runs here

private theorem Ordered.met :
    .acting ∉ laps ∧ ∃ index, expected = some index ∧
      Stored config table (s.tables table).expireCurrIndex index := by
  have idle : .acting ∉ tableLaps config table s := fun acting =>
    ordered.apart acting (by simp [before]) runs here
  obtain ⟨index, same⟩ : ∃ index, expected = some index :=
    Option.isSome_iff_exists.mp (ordered.runs ▸ runs)
  refine ⟨?_, index, same, ordered.idle idle index same⟩
  rw [before] at idle
  simpa using idle

private theorem Ordered.reached (same : s'.tables table = s.tables table)
    (after : tableLaps config table s' = .acting :: laps)
    (below : (s.tables table).expireCurrIndex < config.expirePointCnt table) :
    Accepts (expectOrder config table) (Ordered config table) expected
      (s', [.pointExpired table (s.tables table).expireCurrIndex]) := by
  obtain ⟨others, index, rfl, stored⟩ := ordered.met before runs here
  obtain ⟨rfl, -⟩ := stored.resolve_right fun ended => by omega
  refine ⟨some (config.followingPoint table (s.tables table).expireCurrIndex),
    by simp [expectOrder], ?_, ?_, fun idle => ?_, fun _ => ?_, fun _ first => ?_⟩
  · rw [after, count_cons_self, count_eq_zero_of_not_mem others]
  · rw [same, runs]
    rfl
  · exact absurd (after ▸ mem_cons_self) idle
  · rw [same]
    exact ⟨below, fun next follows => (Option.some.inj follows).symm⟩
  · exact absurd (by rw [after]; rfl) first

end

section

variable (alone : (s.tables table).next = none)
variable (same : s'.tables table = (schTblUpdateState config s table).1.tables table)
variable (halts : s'.halted = (schTblUpdateState config s table).1.halted)
variable (after : tableLaps config table s' = .past :: laps)
include alone same halts after

private theorem Ordered.settled
    (le : (s.tables table).expireCurrIndex ≤ config.expirePointCnt table)
    (runs : (s.tables table).state.runs = expected.isSome)
    (inside : (s.tables table).expireCurrIndex < config.expirePointCnt table →
      ∀ index, expected = some index →
        index = config.followingPoint table (s.tables table).expireCurrIndex)
    (at_end : (s.tables table).expireCurrIndex = config.expirePointCnt table →
      ∃ index, expected = some index ∧ Stored config table (config.expirePointCnt table) index)
    (others : .acting ∉ laps) :
    ∃ next, watch (expectOrder config table) expected
        (schTblUpdateState config s table).2 = some next ∧
      (s'.halted ∨ Ordered config table s' next) := by
  have idle : .acting ∉ tableLaps config table s' := by
    rw [after]
    simpa using others
  have behind : ∀ next, (s'.tables table).state.runs = next.isSome →
      (∀ index, next = some index →
        Stored config table (s'.tables table).expireCurrIndex index) →
      Ordered config table s' next := fun next runs' stored =>
    ⟨by rw [count_eq_zero_of_not_mem idle]; exact Nat.zero_le 1, runs', fun _ => stored,
      fun acting => absurd acting idle, fun acting => absurd acting idle⟩
  rcases schTblUpdateState_outcomes alone with ⟨silent, halted⟩ | ⟨silent, state, next, round⟩ |
    ⟨ended, state, single, last⟩
  · exact ⟨expected, by rw [silent]; rfl, .inl (halts.trans halted)⟩
  · refine ⟨expected, by rw [silent]; rfl, .inr (behind expected ?_ fun index point => ?_)⟩
    · rw [same, state, runs]
    · rw [same]
      rcases lt_or_eq_of_le le with below | ends
      · rw [inside below index point]
        exact next below
      · obtain ⟨repeating, first⟩ := round ends
        obtain ⟨index', point', stored⟩ := at_end ends
        obtain rfl : index = index' := Option.some.inj (point.symm.trans point')
        rcases stored with ⟨here, below | ⟨-, single⟩⟩ | ⟨-, rfl, -⟩
        · exact absurd here below.ne'
        · cases repeating.symm.trans single
        · exact first
  · have complete : expected = none ∨ expected = some (config.expirePointCnt table) := by
      rcases lt_or_eq_of_le le with below | ends
      · cases point : expected with
        | none => exact .inl rfl
        | some index =>
          have follows := inside below index point
          simp only [CounterSet.followingPoint, last below, lt_irrefl, single, if_false,
            Bool.false_eq_true] at follows
          exact .inr (by rw [follows])
      · obtain ⟨index, rfl, stored⟩ := at_end ends
        rcases stored with ⟨here, -⟩ | ⟨-, -, repeating⟩
        · exact .inr (by rw [here])
        · cases repeating.symm.trans single
    refine ⟨none, by rw [ended]; simp [expectOrder, complete], .inr (behind none ?_ nofun)⟩
    rw [same, state]
    rfl

private theorem Ordered.updated (ordered : Ordered config table s expected)
    (before : tableLaps config table s = .acting :: laps ∨
      tableLaps config table s = .ahead :: laps ∧ (s.tables table).state.runs ∧
        (s.tables table).expireVal = tableVal config table s ∧
        config.expirePointCnt table ≤ (s.tables table).expireCurrIndex) :
    ∃ next, watch (expectOrder config table) expected
        (schTblUpdateState config s table).2 = some next ∧
      (s'.halted ∨ Ordered config table s' next) := by
  rcases before with first | ⟨first, runs, here, at_last⟩
  · -- the actions of a point are done
    have acting : .acting ∈ tableLaps config table s := by
      rw [first]
      exact mem_cons_self
    have others : .acting ∉ laps := by
      have once := ordered.once
      rw [first, count_cons_self] at once
      exact count_eq_zero.mp (by omega)
    obtain ⟨below, follows⟩ := ordered.acts acting
    exact Ordered.settled alone same halts after below.le ordered.runs (fun _ => follows)
      (fun ends => absurd ends below.ne) others
  · -- the virtual point at the end
    obtain ⟨others, index, point, stored⟩ := ordered.met first runs here
    have ends : (s.tables table).expireCurrIndex = config.expirePointCnt table := by
      rcases stored with ⟨here, below | ⟨last, -⟩⟩ | ⟨last, -⟩
      · omega
      · exact here.trans last
      · exact last
    exact Ordered.settled alone same halts after ends.le ordered.runs
      (fun below => absurd ends below.ne) (fun _ => ⟨index, point, ends ▸ stored⟩) others

end

private theorem Ordered.seen (ordered : Ordered config table s expected)
    (alone : (s.tables table).next = none) (sees : TableSees config table s s' events)
    (fresh : ∀ event ∈ events, StartsFresh config table s event) :
    ∃ next, watch (expectOrder config table) expected events = some next ∧
      (s'.halted ∨ Ordered config table s' next) := by
  cases sees with
  | unseen val same laps skipped =>
    exact ⟨expected, watch_skip fun event member => expectOrder_skip (skipped event member),
      .inr (ordered.transport val same (by rw [laps]) (by rw [laps]; exact id))⟩
  | advanced val same laps =>
    exact ⟨expected, rfl, .inr (ordered.advanced val same laps (fresh _ mem_cons_self))⟩
  | startedRel offset | startedAbs start =>
    exact ⟨some 0, by simp [expectOrder], .inr (ordered.started _ (fresh _ mem_cons_self rfl))⟩
  | stopped => exact ⟨none, by simp [expectOrder], .inr ordered.stopped⟩
  | passed val same before after waits | left val same before after =>
    exact ⟨expected, rfl,
      .inr (ordered.transport val same (by simp [before, after]) (by simp [before]))⟩
  | reached val same before after runs here below =>
    obtain ⟨next, expects, moved⟩ := ordered.reached before runs here same after below
    exact ⟨next, by simp [expects], .inr moved⟩
  | updated val same halts before after => exact ordered.updated alone same halts after before

end Steps

/-! ## Whole runs -/

/-- The monitor's view of a state; nothing happens any more after a failed assertion. -/
structure OrderTracks (expected : Option Nat) : Prop where
  sound : s.Sound config
  alone : Alone table s
  ordered : s.halted = true ∨ Ordered config table s expected

theorem counterStep_halted {config : CounterSet} {s : CounterState} (halted : s.halted)
    (step : CounterStep) : counterStep config s step = (s, []) := by
  cases step <;> simp [counterStep, halted]

theorem OrderTracks.stepped {config : CounterSet} {table : Nat} {s : CounterState}
    {expected : Option Nat} (tracks : OrderTracks config table s expected)
    (known : table < config.schtblCnt) {step : CounterStep}
    (no_successor : step.givesSuccessor table = false)
    (fresh : StepStartsFresh config table s step) :
    Accepts (expectOrder config table) (OrderTracks config table) expected
      (counterStep config s step) := by
  rcases tracks.ordered with halted | ordered
  · rw [counterStep_halted halted]
    exact ⟨expected, rfl, tracks⟩
  · obtain ⟨sees, alone⟩ := counterStep_tableSees known tracks.alone tracks.sound no_successor
    obtain ⟨next, watched, moved⟩ := ordered.seen tracks.alone.own sees fresh
    exact ⟨next, watched, counterStep_sound tracks.sound step, alone, moved⟩

theorem TableUnused.ordered {config : CounterSet} {table : Nat} {s : CounterState}
    (unused : TableUnused config table s) : OrderTracks config table s none where
  sound := ⟨unused.attached, by simp [unused.no_walk]⟩
  alone := ⟨unused.alone, unused.apart⟩
  ordered := by
    have no_laps : tableLaps config table s = [] := by simp [lapsOf, unused.no_walk]
    refine .inr ⟨by simp [no_laps], by simp [unused.stopped, TableState.runs],
      fun _ _ => by simp, ?_, ?_⟩
    · simp [no_laps]
    · simp [no_laps]

/-- The table as if it had never been used. -/
def CounterState.forget (table : Nat) : CounterState :=
  s.setTable table { state := .stopped, expireCurrIndex := 0, expireVal := 0, next := none }

private theorem start_forget_iff {config : CounterSet} {table : Nat} {s : CounterState}
    (alone : (s.tables table).next = none) (known fits : Bool) (expireVal : Nat)
    (accepted : .returned .eOk ∈ (validate config known .eOsId s
        (validate config fits .eOsValue s
          (validate config ((s.tables table).state == .stopped) .eOsState s
            (s.setTable table { s.tables table with expireVal, state := .running }, events)))).2) :
    validate config known .eOsId s
        (validate config fits .eOsValue s
          (validate config ((s.tables table).state == .stopped) .eOsState s
            (s.setTable table { s.tables table with expireVal, state := .running }, events))) =
      validate config known .eOsId (s.forget table)
        (validate config fits .eOsValue (s.forget table)
          (validate config (((s.forget table).tables table).state == .stopped) .eOsState
            (s.forget table)
            ((s.forget table).setTable table
              { (s.forget table).tables table with expireVal, state := .running }, events))) ↔
      (s.tables table).expireCurrIndex = 0 := by
  have started : (s.forget table).setTable table
      { (s.forget table).tables table with expireVal, state := .running } =
      s.setTable table { state := .running, expireCurrIndex := 0, expireVal, next := none } := by
    simp [forget, setTable]
  have stopped : ((s.forget table).tables table).state = .stopped := by
    simp [forget]
  revert accepted
  rw [started, stopped]
  unfold validate
  split
  · simp
  split
  · simp
  split
  · simp
  intro accepted
  simp only [beq_self_eq_true, Bool.not_true, Bool.and_false, Bool.false_eq_true, if_false,
    Prod.mk.injEq, and_true]
  refine ⟨fun same => ?_, fun first => ?_⟩
  · have records := congrArg (fun state : CounterState => state.tables table) same
    simp only [setTable_tables, Table.mk.injEq] at records
    exact records.2.1
  · rw [first, alone]

private theorem serve_forget_iff {config : CounterSet} {table : Nat} {s : CounterState}
    (alone : (s.tables table).next = none) {call : CounterCall}
    (starts : call.starts table) (accepted : .returned .eOk ∈ (serve config s call).2) :
    serve config s call = serve config (s.forget table) call ↔
      (s.tables table).expireCurrIndex = 0 := by
  cases call with
  | startScheduleTableRel other offset | startScheduleTableAbs other start =>
    obtain rfl : other = table := by simpa [CounterCall.starts] using starts
    exact start_forget_iff alone _ _ _ accepted
  | _ => simp [CounterCall.starts] at starts

/-- Every start processes the points from the first one on and in order, if it finds the index
at the first point. A start that finds it there, and no other, does the same as for a table
that has never been used. -/
theorem table_restarts_at_first_point (config : CounterSet) (table : Nat) (s : CounterState)
    (steps : List CounterStep) (known : table < config.schtblCnt)
    (unused : TableUnused config table s)
    (no_successor : ∀ step ∈ steps, step.givesSuccessor table = false)
    (fresh : Meets (counterStep config) (StepStartsFresh config table) s steps) :
    let last := run (counterStep config) s steps
    (∃ expected, watch (expectOrder config table) none last.2 = some expected ∧
      (last.1.halted = false →
        (expected.isSome ↔ (last.1.tables table).state.runs = true))) ∧
    ∀ call : CounterCall, call.starts table = true →
      .returned .eOk ∈ (serve config last.1 call).2 →
      (serve config last.1 call = serve config (last.1.forget table) call ↔
        (last.1.tables table).expireCurrIndex = 0) := by
  have alone : Meets (counterStep config)
      (fun _ step => step.givesSuccessor table = false) s steps := .of_forall no_successor
  obtain ⟨expected, watched, tracks⟩ := run_watched (OrderTracks config table) unused.ordered
    (alone.and fresh) fun _ _ _ tracks holds => tracks.stepped known holds.1 holds.2
  refine ⟨⟨expected, watched, fun running => ?_⟩, fun call starts accepted =>
    serve_forget_iff tracks.alone.own starts accepted⟩
  rcases tracks.ordered with halted | ordered
  · cases halted.symm.trans running
  · rw [ordered.runs]

/-- Stopped before its first point, the table starts again at the first point. -/
def restartRun : List CounterStep :=
  .call (.startScheduleTableRel 0 1) :: plainTicks 1 ++
    [.call (.stopScheduleTable 0), .call (.startScheduleTableRel 0 1)] ++ plainTicks 2 ++ pointTick

theorem table_restarted_before_first_point :
    .pointExpired 0 0 ∈ (run (counterStep (oneTable true)) (.start (oneTable true)) restartRun).2 ∧
    ∃ expected, watch (expectOrder (oneTable true) 0) none
      (run (counterStep (oneTable true)) (.start (oneTable true)) restartRun).2 =
        some expected := by
  refine ⟨by decide, ?_⟩
  obtain ⟨⟨expected, watched, -⟩, -⟩ :=
    table_restarts_at_first_point (oneTable true) 0 (.start (oneTable true)) restartRun (by decide)
      (oneTable_unused true) (by decide) (by decide)
  exact ⟨expected, watched⟩

/-- Stopped between its two points. -/
def stoppedBetweenRun : List CounterStep :=
  .call (.startScheduleTableRel 0 1) :: plainTicks 2 ++ pointTick ++
    [.call (.stopScheduleTable 0), .call (.startScheduleTableRel 0 1)] ++ plainTicks 2 ++ pointTick

/-- The second start goes on with the second point. -/
theorem table_restarts_at_second_point :
    (∀ step ∈ stoppedBetweenRun, step.givesSuccessor 0 = false) ∧
    (run (counterStep (oneTable true)) (.start (oneTable true)) stoppedBetweenRun).2.filter
        (fun event => event matches .pointExpired _ _ | .tableStartedRel _ _) =
      [.tableStartedRel 0 1, .pointExpired 0 0, .tableStartedRel 0 1, .pointExpired 0 1] ∧
    watch (expectOrder (oneTable true) 0) none
      (run (counterStep (oneTable true)) (.start (oneTable true)) stoppedBetweenRun).2 = none := by
  decide

end Os
