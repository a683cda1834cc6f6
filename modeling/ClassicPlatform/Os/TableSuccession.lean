import ClassicPlatform.Os.CounterSteps

/-!
# Successors of schedule tables

`NextScheduleTable` chains a stopped table to a running one, whose `next` pointer
designates it from then on. At the end of the running table the successor takes over.

The pointer is never cleared, neither at the end of the table nor when the table is
stopped, and a stop of the successor leaves the pointer to it. Pointers and states agree
in the runs in which no table with an old pointer is started or chained to another one,
and no table that takes part in a chain is stopped.
-/
namespace Os

open Function Machine Option

variable {config : CounterSet} {s s' : CounterState} {cnt table : Nat}

/-! ## States and pointers -/

/-- What holds between the states of all tables and their pointers. -/
structure Succession (cnt : Nat) (state : Nat → TableState) (next : Nat → Option Nat) : Prop where
  states : ∀ table, state table = .stopped ∨ state table = .next ∨ state table = .running
  known : ∀ table, cnt ≤ table → state table = .stopped ∧ next table = none
  /-- A table that is next has a predecessor that runs, and no pointer of its own. -/
  designated : ∀ table, state table = .next → ∃ current, state current = .running ∧
    next current = some table
  fresh : ∀ table, state table = .next → next table = none
  points : ∀ current table, state current = .running → next current = some table →
    state table = .next
  unique : ∀ current other table, state current = .running → state other = .running →
    next current = some table → next other = some table → current = other
  stale : ∀ current table, state current = .stopped → next current = some table →
    state table ≠ .next

variable {current follower : Nat} {value : TableState}

section Changes

variable {state : Nat → TableState} {next : Nat → Option Nat}

variable {state' : Nat → TableState}

theorem Succession.change (succession : Succession cnt state next)
    (changed : ∀ table, state' table = state table ∨
      table < cnt ∧ (state' table = .running ∨ state' table = .stopped))
    (pointing : ∀ current table, next current = some table →
      state' current = state current ∨ state current = .running)
    (together : ∀ current table, next current = some table → state current = .running →
      (state' current = .running ↔ state' table = .next)) : Succession cnt state' next := by
  obtain ⟨states, unknown, designated, fresh, points, unique, stale⟩ := succession
  have was_next {table : Nat} (now_next : state' table = .next) : state table = .next := by
    rcases changed table with same | ⟨-, running | stopped⟩
    · exact same.symm.trans now_next
    · cases running.symm.trans now_next
    · cases stopped.symm.trans now_next
  have was_running {current table : Nat} (running : state' current = .running)
      (pointer : next current = some table) : state current = .running :=
    (pointing current table pointer).elim (fun same => same.symm.trans running) id
  constructor
  · intro table
    rcases changed table with same | ⟨-, running | stopped⟩
    · exact same ▸ states table
    · exact .inr (.inr running)
    · exact .inl stopped
  · intro table above
    rcases changed table with same | ⟨below, -⟩
    · exact same ▸ unknown table above
    · exact absurd below (not_lt.mpr above)
  · intro table now_next
    obtain ⟨current, running, pointer⟩ := designated table (was_next now_next)
    exact ⟨current, (together current table pointer running).mpr now_next, pointer⟩
  · exact fun table now_next => fresh table (was_next now_next)
  · intro current table running pointer
    exact (together current table pointer (was_running running pointer)).mp running
  · intro current other table running running' pointer pointer'
    exact unique current other table (was_running running pointer) (was_running running' pointer')
      pointer pointer'
  · intro current table stopped pointer now_next
    rcases pointing current table pointer with same | running
    · exact stale current table (same.symm.trans stopped) pointer (was_next now_next)
    · cases stopped.symm.trans ((together current table pointer running).mpr now_next)

/-- The running table `current` gets a successor; the one that it had is stopped. -/
structure Joins (state state' : Nat → TableState) (next : Nat → Option Nat)
    (current follower : Nat) : Prop where
  running : state current = .running
  other : follower ≠ current
  free : next follower = none
  own : state follower = .next → next current = some follower
  apart : ∀ table, state table = .stopped → next table ≠ some follower
  follows : state' follower = .next
  released : ∀ old, next current = some old → old ≠ follower → state' old = .stopped
  kept : ∀ table, table ≠ follower → next current ≠ some table → state' table = state table

section Joining

variable (joins : Joins state state' next current follower)
include joins

private theorem Joins.is_next (ne : table ≠ follower) (now_next : state' table = .next) :
    state table = .next ∧ next current ≠ some table := by
  have not_old : next current ≠ some table := fun pointer =>
    absurd ((joins.released table pointer ne).symm.trans now_next) nofun
  rw [joins.kept table ne not_old] at now_next
  exact ⟨now_next, not_old⟩

variable (succession : Succession cnt state next)
include succession

-- the old successor was next, so it is neither the running table nor a pointing one
private theorem Joins.still_running : state' current = .running := by
  rw [joins.kept current joins.other.symm fun pointer => ?_]
  · exact joins.running
  · cases (succession.points current _ joins.running pointer).symm.trans joins.running

private theorem Joins.pointing (points_on : next table ≠ none) : state' table = state table := by
  refine joins.kept table (fun own => points_on (own ▸ joins.free)) fun pointer => ?_
  exact points_on (succession.fresh table (succession.points current _ joins.running pointer))

private theorem Joins.edge {before : Nat} (before_running : state' before = .running)
    (pointer : update next current (some follower) before = some table) :
    before = current ∧ table = follower ∨
      before ≠ current ∧ table ≠ follower ∧ state before = .running ∧ next before = some table := by
  by_cases here : before = current
  · rw [here, update_self] at pointer
    exact .inl ⟨here, (some.inj pointer).symm⟩
  · rw [update_of_ne here] at pointer
    rw [joins.pointing succession (by simp [pointer])] at before_running
    refine .inr ⟨here, ?_, before_running, pointer⟩
    rintro rfl
    have chosen := joins.own (succession.points before table before_running pointer)
    exact here
      (succession.unique before current table before_running joins.running pointer chosen)

private theorem Joins.designated (now_next : state' table = .next) :
    ∃ before, state' before = .running ∧
      update next current (some follower) before = some table := by
  by_cases here : table = follower
  · exact ⟨current, joins.still_running succession, by rw [here, update_self]⟩
  · obtain ⟨was_next, not_old⟩ := joins.is_next here now_next
    obtain ⟨before, before_running, pointer⟩ := succession.designated table was_next
    have ne : before ≠ current := by
      rintro rfl
      exact not_old pointer
    refine ⟨before, ?_, ?_⟩
    · rw [joins.pointing succession (by simp [pointer])]
      exact before_running
    · rw [update_of_ne ne]
      exact pointer

theorem Succession.chain (known : follower < cnt) :
    Succession cnt state' (update next current (some follower)) := by
  have others {table : Nat} (ne : table ≠ current) :
      update next current (some follower) table = next table := update_of_ne ne _ _
  constructor
  · intro table
    by_cases here : table = follower
    · exact .inr (.inl (here ▸ joins.follows))
    · by_cases old : next current = some table
      · exact .inl (joins.released table old here)
      · rw [joins.kept table here old]
        exact succession.states table
  · intro table above
    obtain ⟨stopped, nothing⟩ := succession.known table above
    have not_current : table ≠ current := by
      rintro rfl
      cases stopped.symm.trans joins.running
    have not_follower : table ≠ follower := by omega
    rw [others not_current, joins.kept table not_follower fun pointer => ?_]
    · exact ⟨stopped, nothing⟩
    · cases (succession.points current _ joins.running pointer).symm.trans stopped
  · exact fun table => joins.designated succession
  · intro table now_next
    by_cases here : table = follower
    · rw [here, others joins.other]
      exact joins.free
    · obtain ⟨was_next, -⟩ := joins.is_next here now_next
      have ne : table ≠ current := by
        rintro rfl
        cases was_next.symm.trans joins.running
      rw [others ne]
      exact succession.fresh table was_next
  · intro before table before_running pointer
    rcases joins.edge succession before_running pointer
      with ⟨-, rfl⟩ | ⟨ne, ne', before_running, pointer⟩
    · exact joins.follows
    · rw [joins.kept table ne' fun old =>
        ne (succession.unique before current table before_running joins.running pointer old)]
      exact succession.points before table before_running pointer
  · intro first second table first_running second_running pointer pointer'
    rcases joins.edge succession first_running pointer
      with ⟨rfl, rfl⟩ | ⟨-, ne, first_running, pointer⟩
    · rcases joins.edge succession second_running pointer' with ⟨rfl, -⟩ | ⟨-, ne, -⟩
      · rfl
      · exact absurd rfl ne
    · rcases joins.edge succession second_running pointer'
        with ⟨-, rfl⟩ | ⟨-, -, second_running, pointer'⟩
      · exact absurd rfl ne
      · exact succession.unique first second table first_running second_running pointer pointer'
  · intro before table stopped pointer now_next
    have ne : before ≠ current := by
      rintro rfl
      cases stopped.symm.trans (joins.still_running succession)
    rw [others ne] at pointer
    rw [joins.pointing succession (by simp [pointer])] at stopped
    by_cases here : table = follower
    · exact joins.apart before stopped (here ▸ pointer)
    · exact succession.stale before table stopped pointer (joins.is_next here now_next).1

end Joining

end Changes

/-! ## Ends of tables -/

section

variable (config s)

/-- The table that the latest walk hands to `Os_SchTblUpdateState` when it goes on. -/
def CounterState.updates : Option Nat :=
  match s.walks with
  | [] => none
  | { counter, position } :: _ =>
    match position with
    | .tables (table :: _) =>
      let t := s.tables table
      if ((t.state = .running ∨ t.state = .runningAndSynchronous) ∧
          (s.counters counter).val = t.expireVal) ∧
          ¬ t.expireCurrIndex < config.expirePointCnt table then some table
      else none
    | .tableAction table [] _ => some table
    | _ => none

/-- The table that comes to its end when the latest walk goes on. -/
def CounterState.endsTable : Option Nat :=
  if s.halted then none else (s.updates config).filter (s.atFinal config)

theorem resume_updates :
    ((resume config s).1.tables, (resume config s).1.halted) = match s.updates config with
      | some table =>
        ((schTblUpdateState config s table).1.tables, (schTblUpdateState config s table).1.halted)
      | none => (s.tables, s.halted) := by
  generalize resumes : resume config s = outcome
  unfold CounterState.updates
  cases resume_resumes resumes with
  | rests none_open => rw [none_open]
  | glides open_walk glides =>
    rw [open_walk]
    cases glides with
    | tablePassed table rest waits =>
      simp only
      rw [if_neg fun both => waits both.1.1 both.1.2]
      rfl
    | pointReached table rest runs here below =>
      simp only
      rw [if_neg fun both => both.2 below]
      rfl
    | _ => rfl
  | nests open_walk =>
    rw [open_walk]
    rfl
  | leaves open_walk => rw [open_walk]
  | processes open_walk =>
    rw [open_walk]
    simp only [alarmProcess_eq]
    rfl
  | updates open_walk ends =>
    rw [open_walk]
    rcases ends with rfl | ⟨rfl, runs, here, at_end⟩
    · rfl
    · simp only
      rw [if_pos ⟨⟨runs, here⟩, not_lt.mpr at_end⟩]
      rfl

end

/-! ## What the steps do to states and pointers -/

/-- No table changes its state or its pointer. -/
def SameChain (s s' : CounterState) : Prop :=
  ∀ table, (s'.tables table).state = (s.tables table).state ∧
    (s'.tables table).next = (s.tables table).next

theorem SameChain.of_tables (same : s'.tables = s.tables) : SameChain s s' :=
  fun table => by rw [same]; exact ⟨rfl, rfl⟩

/-- One table has been set to a state. -/
def SetsState (s s' : CounterState) (table : Nat) (value : TableState) : Prop :=
  (s'.tables table).state = value ∧
    (∀ other, other ≠ table → (s'.tables other).state = (s.tables other).state) ∧
    ∀ other, (s'.tables other).next = (s.tables other).next

theorem SetsState.set {value : Table} (tables : s'.tables = (s.setTable table value).tables)
    (same : value.next = (s.tables table).next) : SetsState s s' table value.state := by
  simp only [SetsState, tables]
  refine ⟨by rw [setTable_tables], fun other ne => ?_, fun other => ?_⟩
  · rw [setTable_tables_of_ne _ _ ne]
  · by_cases own : other = table
    · rw [own, setTable_tables, same]
    · rw [setTable_tables_of_ne _ _ own]

theorem SetsState.sameChain (sets : SetsState s s' table value)
    (already : (s.tables table).state = value) : SameChain s s' := by
  intro other
  refine ⟨?_, sets.2.2 other⟩
  by_cases own : other = table
  · rw [own, sets.1, already]
  · exact sets.2.1 other own

/-- A table gets a successor, and the one that it had is stopped. -/
structure Chains (s s' : CounterState) (current follower : Nat) : Prop where
  pointer : (s'.tables current).next = some follower
  others : ∀ table, table ≠ current → (s'.tables table).next = (s.tables table).next
  follows : (s'.tables follower).state = .next
  released : ∀ old, (s.tables current).next = some old → old ≠ follower →
    (s'.tables old).state = .stopped
  kept : ∀ table, table ≠ follower → (s.tables current).next ≠ some table →
    (s'.tables table).state = (s.tables table).state

theorem setNext_chains (s : CounterState) (current follower : Nat) :
    Chains s (setNext s current follower) current follower := by
  -- the old successor is stopped first, which changes no pointer
  have stopped : (∀ table, ((stopEarlierNext s current).tables table).next =
        (s.tables table).next) ∧
      (∀ old, (s.tables current).next = some old →
        ((stopEarlierNext s current).tables old).state = .stopped) ∧
      ∀ table, (s.tables current).next ≠ some table →
        ((stopEarlierNext s current).tables table).state = (s.tables table).state := by
    unfold stopEarlierNext
    split
    next old pointer =>
      have sets : SetsState s (s.setTable old { s.tables old with state := .stopped }) old
          .stopped := .set rfl rfl
      refine ⟨sets.2.2, fun other other_pointer => ?_, fun table ne => ?_⟩
      · obtain rfl := some.inj (pointer.symm.trans other_pointer)
        exact sets.1
      · exact sets.2.1 table fun own => ne (own ▸ pointer)
    next free =>
      refine ⟨fun _ => rfl, fun old pointer => ?_, fun _ _ => rfl⟩
      cases free.symm.trans pointer
  obtain ⟨same_next, old_stopped, same_state⟩ := stopped
  unfold setNext
  simp only
  generalize stopEarlierNext s current = freed at same_next old_stopped same_state ⊢
  -- then the pointer is set, which changes no state
  obtain ⟨linked, set⟩ : ∃ linked, freed.setTable current
      { freed.tables current with next := some follower } = linked := ⟨_, rfl⟩
  have pointer : (linked.tables current).next = some follower := by rw [← set, setTable_tables]
  have other_pointers (table : Nat) (ne : table ≠ current) :
      (linked.tables table).next = (freed.tables table).next := by
    rw [← set, setTable_tables_of_ne _ _ ne]
  have states (table : Nat) : (linked.tables table).state = (freed.tables table).state := by
    by_cases own : table = current
    · rw [← set, own, setTable_tables]
    · rw [← set, setTable_tables_of_ne _ _ own]
  rw [set]
  have sets : SetsState linked (linked.setTable follower
      { linked.tables follower with state := .next, expireCurrIndex := 0 }) follower .next :=
    .set rfl rfl
  constructor
  · rw [sets.2.2, pointer]
  · intro table ne
    rw [sets.2.2, other_pointers table ne]
    exact same_next table
  · exact sets.1
  · intro old old_pointer ne
    rw [sets.2.1 old ne, states]
    exact old_stopped old old_pointer
  · intro table ne not_old
    rw [sets.2.1 table ne, states]
    exact same_state table not_old

variable (config s) in
/-- What a step can do to states and pointers. -/
inductive Shifts : CounterStep → CounterOutcome → Prop
  | kept {step outcome} (same : SameChain s outcome.1) (halted : outcome.1.halted = s.halted)
      (calm : step = .resume → s.endsTable config = none ∨
        ∃ table, s.endsTable config = some table ∧ (s.tables table).next = none ∧
          (config.table table).repeating = true) :
      Shifts step outcome
  | started {call table outcome} (starts : call.starts table = true)
      (accepted : .returned .eOk ∈ outcome.2) (sets : SetsState s outcome.1 table .running)
      (halted : outcome.1.halted = s.halted) :
      Shifts (.call call) outcome
  | stopped {table outcome} (accepted : .returned .eOk ∈ outcome.2)
      (sets : SetsState s outcome.1 table .stopped) (halted : outcome.1.halted = s.halted) :
      Shifts (.call (.stopScheduleTable table)) outcome
  | chained {current follower outcome} (accepted : .returned .eOk ∈ outcome.2)
      (active : (s.tables current).state ≠ .stopped ∧ (s.tables current).state ≠ .next)
      (chains : Chains s outcome.1 current follower) (halted : outcome.1.halted = s.halted) :
      Shifts (.call (.nextScheduleTable current follower)) outcome
  | ended {table outcome} (ends : s.endsTable config = some table)
      (free : (s.tables table).next = none) (single : (config.table table).repeating = false)
      (sets : SetsState s outcome.1 table .stopped)
      (halted : outcome.1.halted = s.halted) :
      Shifts .resume outcome
  | switched {table follower outcome} (ends : s.endsTable config = some table)
      (pointer : (s.tables table).next = some follower)
      (waits : (s.tables follower).state = .next)
      (started : (outcome.1.tables follower).state = .running)
      (ended : table ≠ follower → (outcome.1.tables table).state = .stopped)
      (others : ∀ other, other ≠ table → other ≠ follower →
        (outcome.1.tables other).state = (s.tables other).state)
      (pointers : ∀ other, (outcome.1.tables other).next = (s.tables other).next)
      (halted : outcome.1.halted = s.halted) :
      Shifts .resume outcome
  | failed {table follower outcome} (ends : s.endsTable config = some table)
      (pointer : (s.tables table).next = some follower)
      (lost : (s.tables follower).state ≠ .next) :
      Shifts .resume outcome
  | undelayed {table outcome} (same : SameChain s outcome.1)
      (repeating : (config.table table).repeating = true)
      (no_delay : config.finalOffset table = 0) (calm : s.endsTable config = none) :
      Shifts .resume outcome

theorem nextScheduleTable_active
    (accepted : .returned .eOk ∈ (nextScheduleTable config s current follower).2) :
    (s.tables current).state ≠ .stopped ∧ (s.tables current).state ≠ .next := by
  by_contra idle
  have inactive : (s.tables current).state = .stopped ∨ (s.tables current).state = .next := by
    by_contra neither
    exact idle (not_or.mp neither)
  revert accepted
  unfold nextScheduleTable validate
  simp only [if_pos inactive]
  split
  · simp
  split
  · simp
  split <;> simp

private theorem serve_shifts (config : CounterSet) (s : CounterState) (call : CounterCall) :
    Shifts config s (.call call) (serve config s call) := by
  have active : ∀ current follower, call = .nextScheduleTable current follower →
      .returned .eOk ∈ (serve config s call).2 →
      (s.tables current).state ≠ .stopped ∧ (s.tables current).state ≠ .next := by
    rintro current follower rfl accepted
    exact nextScheduleTable_active accepted
  generalize serves : serve config s call = outcome at active
  cases serve_served serves with
  | refused error failed | incremented counter | setRel alarm increment cycle idle fits
  | setAbs alarm start cycle idle fits | cancelled alarm => exact .kept (.of_tables rfl) rfl nofun
  | startedRel table offset fits | startedAbs table start fits =>
    exact .started (by simp [CounterCall.starts]) (by simp) (.set rfl rfl) rfl
  | stopped table => exact .stopped (by simp) (.set rfl rfl) rfl
  | given current follower =>
    refine .chained (by simp) (active current follower rfl (by simp))
      (setNext_chains s current follower) ?_
    rw [setNext_eq]

section

variable (config s)

private theorem resume_shifts
    (running : s.halted = false) : Shifts config s .resume (resume config s) := by
  have updates := resume_updates config s
  have ends : s.endsTable config = (s.updates config).filter (s.atFinal config) := by
    rw [CounterState.endsTable, if_neg (by simp [running])]
  cases handed : s.updates config with
  | none =>
    rw [handed] at updates ends
    obtain ⟨tables, halted⟩ := Prod.mk.inj updates
    exact .kept (.of_tables tables) halted fun _ => .inl ends
  | some table =>
    rw [handed] at updates ends
    obtain ⟨tables, halted⟩ := Prod.mk.inj updates
    rw [filter_some] at ends
    generalize updates : schTblUpdateState config s table = outcome at tables halted
    cases schTblUpdateState_updated updates with
    | undelayed before repeating no_delay =>
      exact .undelayed (.of_tables tables) repeating no_delay (by simpa [before] using ends)
    | waits before =>
      exact .kept ((SetsState.set tables rfl).sameChain rfl) halted
        fun _ => .inl (by simpa [before] using ends)
    | failed final pointer lost =>
      exact .failed (by simpa [final] using ends) pointer lost
    | repeats final free repeating =>
      exact .kept ((SetsState.set tables rfl).sameChain rfl) halted
        fun _ => .inr ⟨table, by simpa [final] using ends, free, repeating⟩
    | ended final free single =>
      exact .ended (by simpa [final] using ends) free single (.set tables rfl) halted
    | @switched _ between final pointer waits stopped =>
      -- the ended table is stopped first, then its successor is started
      have stops : SetsState s between table .stopped :=
        .set (congrArg CounterState.tables stopped) rfl
      have starts := SetsState.set tables rfl
      refine .switched (by simpa [final] using ends) pointer waits starts.1 (fun ne => ?_)
        (fun other not_table not_follower => ?_) (fun other => ?_)
        (halted.trans (by rw [stopped]; rfl))
      · exact (starts.2.1 table ne).trans stops.1
      · exact (starts.2.1 other not_follower).trans (stops.2.1 other not_table)
      · exact (starts.2.2 other).trans (stops.2.2 other)

theorem counterStep_shifts (step : CounterStep) :
    Shifts config s step (counterStep config s step) := by
  generalize steps : counterStep config s step = outcome
  cases counterStep_stepped steps with
  | held step stuck =>
    exact .kept (.of_tables rfl) rfl fun resumes => .inl (if_pos (stuck resumes))
  | served call => exact serve_shifts config s call
  | ticked counter => exact .kept (.of_tables rfl) rfl nofun
  | resumed running => exact resume_shifts config s running

/-! ## Runs that keep pointers and states together -/

/-- No running table waits to start the table, and an old pointer does not become a live one. -/
def StartsClean (table : Nat) : Prop :=
  (s.tables table).state ≠ .next ∧
    ((s.tables table).state = .stopped → (s.tables table).next = none)
  deriving Decidable

/-- The table is not part of a chain. -/
def StopsAlone (table : Nat) : Prop :=
  (s.tables table).state ≠ .next ∧
    ((s.tables table).state = .running → (s.tables table).next = none)
  deriving Decidable

/-- The follower has no pointer, and no other table has one to it. -/
def ChainsFresh (current follower : Nat) : Prop :=
  follower ≠ current ∧ (s.tables follower).next = none ∧
    ((s.tables follower).state = .next → (s.tables current).next = some follower) ∧
    ∀ table < config.schtblCnt, (s.tables table).state = .stopped →
      (s.tables table).next ≠ some follower

/-- Nobody has stopped the table, or made it a successor, while its last point was served. -/
def EndsUndisturbed (table : Nat) : Prop :=
  (s.tables table).state = .running ∨
    (s.tables table).next = none ∧
      ((s.tables table).state = .stopped ∨ (config.table table).repeating = true)
  deriving Decidable

/-- The conditions on the calls that are accepted, and on the end of a table. -/
def StepChains : CounterStep → Prop
  | .call call =>
    .returned .eOk ∈ (counterStep config s (.call call)).2 →
      match call with
      | .startScheduleTableRel table _ | .startScheduleTableAbs table _ =>
        table < config.schtblCnt ∧ StartsClean s table
      | .stopScheduleTable table => StopsAlone s table
      | .nextScheduleTable current follower =>
        follower < config.schtblCnt ∧ ChainsFresh config s current follower
      | _ => True
  | .osTick _ => True
  | .resume => ∀ table ∈ s.endsTable config, EndsUndisturbed config s table

end

instance (config : CounterSet) (s : CounterState) (current follower : Nat) :
    Decidable (ChainsFresh config s current follower) :=
  inferInstanceAs (Decidable (_ ∧ _))

instance (config : CounterSet) (s : CounterState) (step : CounterStep) :
    Decidable (StepChains config s step) := by
  cases step with
  | call call => cases call <;> exact inferInstanceAs (Decidable (_ → _))
  | osTick counter => exact inferInstanceAs (Decidable True)
  | resume => exact inferInstanceAs (Decidable (∀ table ∈ s.endsTable config, _))

/-- States and pointers agree. -/
def CounterState.InSuccession (config : CounterSet) (s : CounterState) : Prop :=
  Succession config.schtblCnt (fun table => (s.tables table).state)
    fun table => (s.tables table).next

theorem Succession.known_of_active {state : Nat → TableState} {next : Nat → Option Nat}
    (succession : Succession cnt state next) (active : state table ≠ .stopped) : table < cnt := by
  by_contra above
  exact active (succession.known table (not_lt.mp above)).1

section

variable (succession : s.InSuccession config)
include succession

private theorem CounterState.InSuccession.same
    (same : SameChain s s') : s'.InSuccession config := by
  have states : (fun table => (s'.tables table).state) = fun table => (s.tables table).state :=
    funext fun table => (same table).1
  have pointers : (fun table => (s'.tables table).next) = fun table => (s.tables table).next :=
    funext fun table => (same table).2
  rw [CounterState.InSuccession, states, pointers]
  exact succession

private theorem CounterState.InSuccession.set (sets : SetsState s s' table value)
    (known : table < config.schtblCnt) (value_eq : value = .running ∨ value = .stopped)
    (not_next : (s.tables table).state ≠ .next) (free : (s.tables table).next = none) :
    s'.InSuccession config := by
  have pointers : (fun table => (s'.tables table).next) = fun table => (s.tables table).next :=
    funext sets.2.2
  have kept {current other : Nat} (pointer : (s.tables current).next = some other) :
      (s'.tables current).state = (s.tables current).state := by
    apply sets.2.1 current
    rintro rfl
    cases free.symm.trans pointer
  rw [CounterState.InSuccession, pointers]
  refine Succession.change succession (fun other => ?_) (fun current other pointer => ?_)
    fun current other pointer running => ?_
  · by_cases own : other = table
    · rw [own, sets.1]
      exact .inr ⟨known, value_eq⟩
    · exact .inl (sets.2.1 other own)
  · exact .inl (kept pointer)
  · have is_next := succession.points current other running pointer
    refine iff_of_true ((kept pointer).trans running) ((sets.2.1 other ?_).trans is_next)
    rintro rfl
    exact not_next is_next

private theorem CounterState.InSuccession.chain (chains : Chains s s' current follower)
    (running : (s.tables current).state = .running) (known : follower < config.schtblCnt)
    (fresh : ChainsFresh config s current follower) : s'.InSuccession config := by
  obtain ⟨other, free, own, apart⟩ := fresh
  have pointers : (fun table => (s'.tables table).next) =
      update (fun table => (s.tables table).next) current (some follower) := by
    funext table
    by_cases here : table = current
    · rw [here, update_self, chains.pointer]
    · rw [update_of_ne here, chains.others table here]
  rw [CounterState.InSuccession, pointers]
  refine Succession.chain ⟨running, other, free, own, fun table stopped pointer => ?_,
    chains.follows, chains.released, chains.kept⟩ succession known
  by_cases above : config.schtblCnt ≤ table
  · cases (succession.known table above).2.symm.trans pointer
  · exact apart table (not_le.mp above) stopped pointer

private theorem CounterState.InSuccession.finish (running : (s.tables table).state = .running)
    (pointer : (s.tables table).next = some follower)
    (started : (s'.tables follower).state = .running) (ended : (s'.tables table).state = .stopped)
    (others : ∀ other, other ≠ table → other ≠ follower →
      (s'.tables other).state = (s.tables other).state)
    (pointers : ∀ other, (s'.tables other).next = (s.tables other).next) :
    s'.InSuccession config := by
  have same : (fun table => (s'.tables table).next) = fun table => (s.tables table).next :=
    funext pointers
  have waits := succession.points table follower running pointer
  rw [CounterState.InSuccession, same]
  refine Succession.change succession (fun other => ?_) (fun current other pointer' => ?_)
    fun current other pointer' running' => ?_
  · by_cases own : other = table
    · exact .inr ⟨own ▸ succession.known_of_active (by simp [running]), .inr (own ▸ ended)⟩
    · by_cases there : other = follower
      · exact .inr ⟨there ▸ succession.known_of_active (by simp [waits]), .inl (there ▸ started)⟩
      · exact .inl (others other own there)
  · by_cases own : current = table
    · exact .inr (own ▸ running)
    · refine .inl (others current own ?_)
      rintro rfl
      cases (succession.fresh current waits).symm.trans pointer'
  · by_cases own : current = table
    · subst own
      obtain rfl := some.inj (pointer.symm.trans pointer')
      exact iff_of_false (by simp [ended]) (by simp [started])
    · have is_next := succession.points current other running' pointer'
      refine iff_of_true ((others current own ?_).trans running')
        ((others other ?_ ?_).trans is_next)
      · rintro rfl
        cases waits.symm.trans running'
      · rintro rfl
        cases is_next.symm.trans running
      · rintro rfl
        exact own (succession.unique current table other running' running pointer' pointer)

end

private theorem EndsUndisturbed.running (ends : EndsUndisturbed config s table)
    (pointer : (s.tables table).next = some follower) : (s.tables table).state = .running := by
  rcases ends with running | ⟨free, -⟩
  · exact running
  · cases free.symm.trans pointer

private theorem StepChains.start {call : CounterCall}
    (chains : StepChains config s (.call call)) (starts : call.starts table)
    (accepted : .returned .eOk ∈ (counterStep config s (.call call)).2) :
    table < config.schtblCnt ∧ StartsClean s table := by
  have clean := chains accepted
  cases call with
  | startScheduleTableRel other offset | startScheduleTableAbs other start =>
    obtain rfl : other = table := by simpa [CounterCall.starts] using starts
    exact clean
  | _ => simp [CounterCall.starts] at starts

variable {step : CounterStep}

theorem CounterState.InSuccession.stepped (succession : s.InSuccession config)
    (condition : StepChains config s step) : (counterStep config s step).1.InSuccession config := by
  have shifts := counterStep_shifts config s step
  generalize outcome_eq : counterStep config s step = outcome at shifts ⊢
  cases shifts with
  | kept same halted calm | undelayed same repeating no_delay calm => exact succession.same same
  | started starts accepted sets halted =>
    rw [← outcome_eq] at accepted
    obtain ⟨known, not_next, clean⟩ := condition.start starts accepted
    rcases succession.states _ with stopped | waits | running
    · exact succession.set sets known (.inl rfl) not_next (clean stopped)
    · exact absurd waits not_next
    · exact succession.same (sets.sameChain running)
  | stopped accepted sets halted =>
    rw [← outcome_eq] at accepted
    obtain ⟨not_next, alone⟩ := condition accepted
    rcases succession.states _ with stopped | waits | running
    · exact succession.same (sets.sameChain stopped)
    · exact absurd waits not_next
    · exact succession.set sets (succession.known_of_active (by simp [running])) (.inr rfl) not_next
        (alone running)
  | chained accepted active chains halted =>
    rw [← outcome_eq] at accepted
    obtain ⟨known, fresh⟩ := condition accepted
    rcases succession.states _ with stopped | waits | running
    · exact absurd stopped active.1
    · exact absurd waits active.2
    · exact succession.chain chains running known fresh
  | @ended table _ ends free single sets halted =>
    rcases condition _ ends with running | ⟨-, stopped | repeating⟩
    · have not_next : (s.tables table).state ≠ .next := by
        rw [running]
        nofun
      exact succession.set sets (succession.known_of_active (by simp [running])) (.inr rfl) not_next
        free
    · exact succession.same (sets.sameChain stopped)
    · cases single.symm.trans repeating
  | switched ends pointer waits started ended others pointers halted =>
    have running := (condition _ ends).running pointer
    refine succession.finish running pointer started (ended ?_) others pointers
    rintro rfl
    cases waits.symm.trans running
  | failed ends pointer lost =>
    have running := (condition _ ends).running pointer
    exact absurd (succession.points _ _ running pointer) lost

private theorem counterStep_alive (succession : s.InSuccession config)
    (condition : StepChains config s step)
    (delays : ∀ table, (config.table table).repeating → config.finalOffset table ≠ 0)
    (alive : s.halted = false) : (counterStep config s step).1.halted = false := by
  have shifts := counterStep_shifts config s step
  cases shifts with
  | kept same halted calm | started starts accepted sets halted | stopped accepted sets halted
  | chained accepted active chains halted | ended ends free single sets halted
  | switched ends pointer waits started ended others pointers halted => exact halted.trans alive
  | failed ends pointer lost =>
    have running := (condition _ ends).running pointer
    exact absurd (succession.points _ _ running pointer) lost
  | undelayed same repeating no_delay calm => exact absurd no_delay (delays _ repeating)

/-! ## Activation of successors -/

/-- What a step does to successors: the table that ends finds its successor in the state for
it, and a successor starts to run at the end of its predecessor and at no other time. -/
def Switches (config : CounterSet) (s : CounterState) (step : CounterStep) : Prop :=
  (∀ table follower, step = .resume → s.endsTable config = some table →
    (s.tables table).next = some follower →
      (s.tables follower).state = .next ∧
        ((counterStep config s step).1.tables table).state = .stopped) ∧
  ∀ follower, (s.tables follower).state = .next →
    (((counterStep config s step).1.tables follower).state = .running ↔
      step = .resume ∧ ∃ table, s.endsTable config = some table ∧
        (s.tables table).next = some follower)

private theorem Switches.of_calm
    (calm : step = .resume → ∀ table, s.endsTable config = some table →
      (s.tables table).next = none)
    (waits : ∀ follower, (s.tables follower).state = .next →
      ((counterStep config s step).1.tables follower).state ≠ .running) :
    Switches config s step := by
  have free : ∀ {table follower}, step = .resume → s.endsTable config = some table →
      (s.tables table).next ≠ some follower := by
    intro table follower is_resume ends pointer
    cases (calm is_resume table ends).symm.trans pointer
  refine ⟨fun table follower is_resume ends pointer => absurd pointer (free is_resume ends),
    fun follower is_next => iff_of_false (waits follower is_next) ?_⟩
  rintro ⟨is_resume, table, ends, pointer⟩
  exact free is_resume ends pointer

private theorem SetsState.not_running (sets : SetsState s s' table value)
    (is_next : (s.tables follower).state = .next)
    (otherwise : follower = table → value ≠ .running) : (s'.tables follower).state ≠ .running := by
  by_cases own : follower = table
  · rw [own, sets.1]
    exact otherwise own
  · rw [sets.2.1 follower own, is_next]
    nofun

private theorem Chains.not_running {other : Nat} (chains : Chains s s' current follower)
    (is_next : (s.tables other).state = .next) : (s'.tables other).state ≠ .running := by
  by_cases own : other = follower
  · rw [own, chains.follows]
    nofun
  · by_cases old : (s.tables current).next = some other
    · rw [chains.released other old own]
      nofun
    · rw [chains.kept other own old, is_next]
      nofun

theorem CounterState.InSuccession.switches (succession : s.InSuccession config)
    (condition : StepChains config s step) : Switches config s step := by
  have shifts := counterStep_shifts config s step
  have kept_waits : SameChain s (counterStep config s step).1 → ∀ follower,
      (s.tables follower).state = .next →
      ((counterStep config s step).1.tables follower).state ≠ .running := by
    intro same follower is_next
    rw [(same follower).1, is_next]
    nofun
  generalize outcome_eq : counterStep config s step = outcome at shifts
  cases shifts with
  | kept same halted calm =>
    refine .of_calm (fun is_resume table ends => ?_) (kept_waits (outcome_eq ▸ same))
    rcases calm is_resume with none_ends | ⟨other, other_ends, free, -⟩
    · cases none_ends.symm.trans ends
    · obtain rfl := some.inj (other_ends.symm.trans ends)
      exact free
  | started starts accepted sets halted =>
    rw [← outcome_eq] at accepted sets
    obtain ⟨-, not_next, -⟩ := condition.start starts accepted
    refine .of_calm nofun fun follower is_next => ?_
    exact sets.not_running is_next fun own => absurd (own ▸ is_next) not_next
  | stopped accepted sets halted =>
    rw [← outcome_eq] at sets
    exact .of_calm nofun fun follower is_next => sets.not_running is_next fun _ => nofun
  | chained accepted active chains halted =>
    rw [← outcome_eq] at chains
    exact .of_calm nofun fun follower is_next => chains.not_running is_next
  | ended ends free single sets halted =>
    rw [← outcome_eq] at sets
    refine .of_calm (fun _ other other_ends => ?_) fun follower is_next =>
      sets.not_running is_next fun _ => nofun
    obtain rfl := some.inj (ends.symm.trans other_ends)
    exact free
  | @switched table follower _ ends pointer waits started ended others pointers halted =>
    rw [← outcome_eq] at started ended others
    have running := (condition _ ends).running pointer
    have ne : ∀ {other}, (s.tables other).state = .next → other ≠ table := by
      rintro other is_next rfl
      cases is_next.symm.trans running
    refine ⟨fun table' follower' _ ends' pointer' => ?_, fun other is_next => ?_⟩
    · obtain rfl := some.inj (ends.symm.trans ends')
      obtain rfl := some.inj (pointer.symm.trans pointer')
      exact ⟨waits, ended (ne waits).symm⟩
    · by_cases own : other = follower
      · subst own
        exact iff_of_true started ⟨rfl, table, ends, pointer⟩
      · apply iff_of_false
        · rw [others other (ne is_next) own, is_next]
          nofun
        · rintro ⟨-, table', ends', pointer'⟩
          obtain rfl := some.inj (ends.symm.trans ends')
          exact own (some.inj (pointer'.symm.trans pointer))
  | failed ends pointer lost =>
    have running := (condition _ ends).running pointer
    exact absurd (succession.points _ _ running pointer) lost
  | undelayed same repeating no_delay calm =>
    refine .of_calm (fun _ other ends => ?_) (kept_waits (outcome_eq ▸ same))
    cases calm.symm.trans ends

/-! ## Every run -/

theorem CounterState.InSuccession.unused (config : CounterSet)
    (unused : ∀ table, (s.tables table).state = .stopped ∧ (s.tables table).next = none) :
    s.InSuccession config := by
  constructor
  · exact fun table => .inl (unused table).1
  · exact fun table _ => unused table
  · exact fun table is_next => absurd ((unused table).1.symm.trans is_next) nofun
  · exact fun table _ => (unused table).2
  · exact fun current _ running _ => absurd ((unused current).1.symm.trans running) nofun
  · exact fun current _ _ running _ _ _ => absurd ((unused current).1.symm.trans running) nofun
  · exact fun current _ _ pointer => absurd ((unused current).2.symm.trans pointer) nofun

/-- As long as no table with an old pointer is started or chained and no part of a chain is
stopped: a table is next exactly if one running table designates it, no stopped table
designates it, no table ends without finding its successor in the state for it, and a
successor starts to run at the end of its predecessor. -/
theorem schedule_table_succession (config : CounterSet) (start : CounterState)
    (steps : List CounterStep)
    (unused : ∀ table, (start.tables table).state = .stopped ∧ (start.tables table).next = none)
    (alive : start.halted = false)
    (chains : Meets (counterStep config) (StepChains config) start steps) :
    let last := (run (counterStep config) start steps).1
    (∀ table, (last.tables table).state = .next ↔
      ∃! current, (last.tables current).state = .running ∧
        (last.tables current).next = some table) ∧
    (∀ current table, (last.tables current).state = .stopped →
      (last.tables current).next = some table → (last.tables table).state ≠ .next) ∧
    ((∀ table, (config.table table).repeating = true → config.finalOffset table ≠ 0) →
      last.halted = false) ∧
    Meets (counterStep config) (Switches config) start steps := by
  intro last
  have fresh : start.InSuccession config := .unused config unused
  have keeps : ∀ (s : CounterState) step, s.InSuccession config → StepChains config s step →
      (counterStep config s step).1.InSuccession config :=
    fun s step succession condition => succession.stepped condition
  have succession : last.InSuccession config := run_invariant _ fresh chains keeps
  refine ⟨fun table => ⟨fun is_next => ?_, ?_⟩, succession.stale, fun delays => ?_, ?_⟩
  · obtain ⟨current, running, pointer⟩ := succession.designated table is_next
    refine ⟨current, ⟨running, pointer⟩, fun other designates => ?_⟩
    exact succession.unique other current table designates.1 running designates.2 pointer
  · rintro ⟨current, ⟨running, pointer⟩, -⟩
    exact succession.points current table running pointer
  · exact (run_invariant (fun s => s.InSuccession config ∧ s.halted = false) ⟨fresh, alive⟩ chains
      fun s step holds condition =>
        ⟨holds.1.stepped condition, counterStep_alive holds.1 condition delays holds.2⟩).2
  · exact .strengthen (CounterState.InSuccession config) keeps
      (fun s step succession condition => succession.switches condition) fresh chains

/-- Two tables with one expiry point, on one counter. -/
def twoTables : CounterSet where
  statusExtended := true
  counterCnt := 1
  alarmCnt := 0
  schtblCnt := 2
  counter _ := { type := .hard, maxallowedvalue := 9, mincycle := 1 }
  alarm _ := { counter := 0, action := .alarmCallback }
  table _ :=
    { counter := 0, duration := 2, repeating := false
      expirePointList := [{ offset := 1, taskList := [1], eventList := [] }] }

/-- A tick, and the walk along both tables. -/
def tableTick : List CounterStep := .osTick 0 :: List.replicate 8 .resume

/-- The first table runs with the second one as its successor. -/
def chainedStart : List CounterStep :=
  [.call (.startScheduleTableRel 0 1), .call (.nextScheduleTable 0 1)]

/-- The first table ends and the second one runs. -/
def switchedRun : List CounterStep := chainedStart ++ tableTick ++ tableTick ++ tableTick

theorem switchedRun_activates :
    ((run (counterStep twoTables) (.start twoTables) switchedRun).1.tables 1).state = .running ∧
    Meets (counterStep twoTables) (Switches twoTables) (.start twoTables) switchedRun ∧
    (run (counterStep twoTables) (.start twoTables) switchedRun).1.halted = false := by
  obtain ⟨-, -, alive, switches⟩ :=
    schedule_table_succession twoTables (.start twoTables) switchedRun (fun _ => ⟨rfl, rfl⟩) rfl
      (by decide +kernel)
  exact ⟨by decide +kernel, switches, alive fun _ repeating => nomatch repeating⟩

/-- Stopped before its end, the first table leaves the second one behind as the successor of a
stopped table. Started again after the switch, it still has its pointer to the second table,
and the assertion fails at its end. `InitOS` accepts both tables. -/
theorem old_pointers_break_succession :
    (∀ table < twoTables.schtblCnt, twoTables.ScheduleTableConsistenyCheck table) ∧
    (let last := (run (counterStep twoTables) (.start twoTables)
      (chainedStart ++ [.call (.stopScheduleTable 0)])).1
    (last.tables 1).state = .next ∧ (last.tables 0).state = .stopped ∧
      (last.tables 0).next = some 1) ∧
    (run (counterStep twoTables) (.start twoTables)
      (switchedRun ++ tableTick ++ tableTick ++ [.call (.startScheduleTableRel 0 1)] ++
        tableTick ++ tableTick ++ tableTick)).1.halted = true := by
  decide +kernel

end Os
