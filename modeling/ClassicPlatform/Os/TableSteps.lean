import ClassicPlatform.Os.CounterSteps

/-!
# What a schedule table sees of a step

`TableSees` lists everything that a step can do to one schedule table: nothing, an
increment of its counter, a service call for it, or one of the turns of a walk along
the tables. `counterStep_tableSees` says that there is nothing else, as long as the
table is not made a successor and has none. Facts about a table are then proved case by
case from this list.
-/
namespace Os

open CounterEvent List

/-- Where an open walk is with respect to a schedule table, if it is one of its counter. -/
def tableStage (config : CounterSet) (table : Nat) (walk : Walk) : Option Timer.Stage :=
  if walk.counter = config.tableCounter table then
    some <|
      match walk.position with
      | .alarms _ | .alarmIncrement _ _ _ | .alarmAction _ _ => .ahead
      | .tables rest => if table ∈ rest then .ahead else .past
      | .tableAction other _ rest =>
        if other = table then .acting else if table ∈ rest then .ahead else .past
  else none

def TableState.runs : TableState → Bool
  | .running | .runningAndSynchronous => true
  | _ => false

abbrev tableVal (config : CounterSet) (table : Nat) (s : CounterState) : Nat :=
  (s.counters (config.tableCounter table)).val

abbrev tableLaps (config : CounterSet) (table : Nat) (s : CounterState) : List Timer.Stage :=
  lapsOf (tableStage config table) s

/-- Events that a monitor of one table has to look at. -/
def CounterEvent.concerns (config : CounterSet) (table : Nat) : CounterEvent → Bool
  | .incremented counter | .tablesChecked counter => counter == config.tableCounter table
  | .tableStartedRel other _ => other == table
  | .tableStartedAbs other _ | .tableStopped other | .pointExpired other _ | .tableEnded other =>
    other == table
  | _ => false

def CounterStep.givesSuccessor (table : Nat) : CounterStep → Bool
  | .call (.nextScheduleTable current next) => current == table || next == table
  | _ => false

/-- The table has no successor and is none. -/
structure Alone (table : Nat) (s : CounterState) : Prop where
  own : (s.tables table).next = none
  others : ∀ other, (s.tables other).next ≠ some table

variable (config : CounterSet) (table : Nat) (s : CounterState) in
inductive TableSees : CounterState → List CounterEvent → Prop
  | unseen {s' : CounterState} {events : List CounterEvent}
      (val : tableVal config table s' = tableVal config table s)
      (same : s'.tables table = s.tables table)
      (laps : tableLaps config table s' = tableLaps config table s)
      (skipped : ∀ event ∈ events, event.concerns config table = false) :
      TableSees s' events
  | advanced {s' : CounterState}
      (val : tableVal config table s' = osCounterAdd (tableVal config table s)
          (config.tableMax table) 1)
      (same : s'.tables table = s.tables table)
      (laps : tableLaps config table s' = .ahead :: tableLaps config table s) :
      TableSees s' [.incremented (config.tableCounter table)]
  | startedRel (offset : Nat) :
      TableSees
        (s.setTable table
          { s.tables table with
            expireVal := osCounterAdd (tableVal config table s)
              (config.tableMax table)
              (tickAdd offset (config.initialOffset table))
            state := .running })
        [.tableStartedRel table offset, .returned .eOk]
  | startedAbs (start : Nat) :
      TableSees
        (s.setTable table
          { s.tables table with
            expireVal := tickAdd start (config.initialOffset table)
            state := .running })
        [.tableStartedAbs table start, .returned .eOk]
  | stopped :
      TableSees
        (s.setTable table { s.tables table with state := .stopped })
        [.tableStopped table, .returned .eOk]
  | passed {s' : CounterState} {laps : List Timer.Stage}
      (val : tableVal config table s' = tableVal config table s)
      (same : s'.tables table = s.tables table)
      (before : tableLaps config table s = .ahead :: laps)
      (after : tableLaps config table s' = .past :: laps)
      (waits : (s.tables table).state.runs = true →
        (s.tables table).expireVal ≠ tableVal config table s) :
      TableSees s' []
  | reached {s' : CounterState} {laps : List Timer.Stage}
      (val : tableVal config table s' = tableVal config table s)
      (same : s'.tables table = s.tables table)
      (before : tableLaps config table s = .ahead :: laps)
      (after : tableLaps config table s' = .acting :: laps)
      (runs : (s.tables table).state.runs = true)
      (here : (s.tables table).expireVal = tableVal config table s)
      (below : (s.tables table).expireCurrIndex < config.expirePointCnt table) :
      TableSees s' [.pointExpired table (s.tables table).expireCurrIndex]
  | updated {s' : CounterState} {laps : List Timer.Stage}
      (val : tableVal config table s' = tableVal config table s)
      (same : s'.tables table = (schTblUpdateState config s table).1.tables table)
      (halts : s'.halted = (schTblUpdateState config s table).1.halted)
      (before : tableLaps config table s = .acting :: laps ∨
        tableLaps config table s = .ahead :: laps ∧
          (s.tables table).state.runs = true ∧
          (s.tables table).expireVal = tableVal config table s ∧
          config.expirePointCnt table ≤ (s.tables table).expireCurrIndex)
      (after : tableLaps config table s' = .past :: laps) :
      TableSees s' (schTblUpdateState config s table).2
  | left {s' : CounterState} {laps : List Timer.Stage}
      (val : tableVal config table s' = tableVal config table s)
      (same : s'.tables table = s.tables table)
      (before : tableLaps config table s = .past :: laps)
      (after : tableLaps config table s' = laps) :
      TableSees s' [.tablesChecked (config.tableCounter table)]

section Sees

variable {config : CounterSet} {table : Nat} {s s' : CounterState}

theorem TableState.runs_iff (state : TableState) :
    state.runs = true ↔ state = .running ∨ state = .runningAndSynchronous := by
  cases state <;> simp [TableState.runs]

/-! ## Successors -/

section

variable (alone : Alone table s)
include alone

theorem Alone.set {key : Nat} {value : Table}
    (next : value.next = (s.tables key).next) : Alone table (s.setTable key value) := by
  have same : ∀ any, ((s.setTable key value).tables any).next = (s.tables any).next := by
    intro any
    by_cases own : any = key
    · subst own
      rw [setTable_tables, next]
    · rw [setTable_tables_of_ne _ _ own]
  exact ⟨(same table).trans alone.own, fun other => same other ▸ alone.others other⟩

theorem Alone.of_tables (same : s'.tables = s.tables) : Alone table s' :=
  ⟨same ▸ alone.own, same ▸ alone.others⟩

theorem Alone.update (other : Nat) : Alone table (schTblUpdateState config s other).1 :=
  ⟨(schTblUpdateState_next config s other table).trans alone.own, fun any =>
    schTblUpdateState_next config s other any ▸ alone.others any⟩

private theorem Alone.stopEarlierNext (current : Nat) :
    Alone table (stopEarlierNext s current) ∧
      (Os.stopEarlierNext s current).tables table = s.tables table := by
  unfold Os.stopEarlierNext
  split
  next old earlier =>
    have ne : table ≠ old := fun eq => alone.others current (eq ▸ earlier)
    exact ⟨alone.set rfl, setTable_tables_of_ne s old ne _⟩
  next => exact ⟨alone, rfl⟩

theorem Alone.setNext {current next : Nat} (not_current : table ≠ current)
    (not_next : table ≠ next) :
    Alone table (setNext s current next) ∧
      (Os.setNext s current next).tables table = s.tables table := by
  obtain ⟨first, same⟩ := alone.stopEarlierNext current
  unfold Os.setNext
  simp only
  generalize Os.stopEarlierNext s current = s₁ at first same
  have second : Alone table (s₁.setTable current { s₁.tables current with next := some next }) := by
    refine ⟨?_, fun any => ?_⟩
    · rw [setTable_tables_of_ne _ _ not_current]
      exact first.own
    · by_cases own : any = current
      · -- the new successor is not the table
        subst own
        rw [setTable_tables]
        simpa using not_next.symm
      · rw [setTable_tables_of_ne _ _ own]
        exact first.others any
  refine ⟨second.set rfl, ?_⟩
  rw [setTable_tables_of_ne _ _ not_next, setTable_tables_of_ne _ _ not_current, same]

/-! ## Service calls -/

end

private theorem advance_tableSees (counters : s'.counters = s.counters)
    (tables : s'.tables = s.tables)
    (laps : tableLaps config table s' = tableLaps config table s)
    (counter : Nat) :
    TableSees config table s (s'.advance config counter) [.incremented counter] := by
  by_cases own : counter = config.tableCounter table
  · subst own
    refine .advanced (by simp [tableVal, counters]) (congrFun tables _) ?_
    rw [← laps, tableLaps, lapsOf_cons (advance_walks s' _ config)]
    simp [tableStage, lapsOf]
  · refine .unseen ?_ (congrFun tables _) ?_ (by simp [concerns, own])
    · rw [tableVal, advance_counters_of_ne s' counter config (Ne.symm own), counters]
    · rw [← laps, tableLaps, lapsOf_cons (advance_walks s' counter config)]
      simp [tableStage, own, lapsOf]

private theorem serve_tableSees (alone : Alone table s) {call : CounterCall}
    (no_successor : (CounterStep.call call).givesSuccessor table = false) :
    TableSees config table s (serve config s call).1 (serve config s call).2 ∧
      Alone table (serve config s call).1 := by
  generalize serves : serve config s call = outcome
  have elsewhere : ∀ (other : Nat) (value : Table) (events : List CounterEvent), other ≠ table →
      (∀ event ∈ events, event.concerns config table = false) →
      TableSees config table s (s.setTable other value) events :=
    fun other value events ne skipped =>
      .unseen rfl (setTable_tables_of_ne s other ne.symm value) rfl skipped
  cases serve_served serves with
  | refused call error failed =>
    exact ⟨.unseen rfl rfl rfl (by simp [concerns]), alone⟩
  | incremented counter => exact ⟨advance_tableSees rfl rfl rfl counter, alone.of_tables rfl⟩
  | setRel | setAbs
  | cancelled => exact ⟨.unseen rfl rfl rfl (by simp [concerns]), alone.of_tables rfl⟩
  | startedRel other offset fits =>
    refine ⟨?_, alone.set rfl⟩
    by_cases own : other = table
    · subst own
      exact .startedRel offset
    · exact elsewhere other _ _ own (by simp [concerns, own])
  | startedAbs other start fits =>
    refine ⟨?_, alone.set rfl⟩
    by_cases own : other = table
    · subst own
      exact .startedAbs start
    · exact elsewhere other _ _ own (by simp [concerns, own])
  | stopped other =>
    refine ⟨?_, alone.set rfl⟩
    by_cases own : other = table
    · subst own
      exact .stopped
    · exact elsewhere other _ _ own (by simp [concerns, own])
  | given current next =>
    obtain ⟨not_current, not_next⟩ : table ≠ current ∧ table ≠ next := by
      simp only [CounterStep.givesSuccessor, Bool.or_eq_false_iff,
        beq_eq_false_iff_ne] at no_successor
      exact ⟨Ne.symm no_successor.1, Ne.symm no_successor.2⟩
    obtain ⟨still_alone, same⟩ := alone.setNext not_current not_next
    refine ⟨.unseen ?_ same ?_ (by simp [concerns]), still_alone⟩
    · rw [setNext_eq]
    · rw [setNext_eq]
      rfl

/-! ## Turns of a walk -/

variable {walks : List Walk} {position : Position} {walk : Walk}

variable {events : List CounterEvent}

private theorem glide_tableSees (open_walk : s.walks = walk :: walks)
    (counters : s'.counters = s.counters) (same : s'.tables table = s.tables table)
    (same_walks : s'.walks = s.walks)
    (stage : tableStage config table { walk with position } = tableStage config table walk)
    (skipped : ∀ event ∈ events, event.concerns config table = false) :
    TableSees config table s (s'.moveTo position) events :=
  .unseen (by simp [tableVal, counters]) same (lapsOf_moveTo open_walk same_walks stage) skipped

variable {other : Nat} {rest : List Nat}

variable {counter : Nat}

private theorem tableStage_next (ne : other ≠ table) :
    tableStage config table { counter, position := .tables rest } =
      tableStage config table { counter, position := .tables (other :: rest) } := by
  simp [tableStage, ne.symm]

private theorem tableStage_action {actions : List TableAction} (ne : other ≠ table) :
    tableStage config table { counter, position := .tableAction other actions rest } =
      tableStage config table { counter, position := .tables (other :: rest) } := by
  simp [tableStage, ne, ne.symm]

private theorem schTblUpdateState_events {event : CounterEvent}
    (member : event ∈ (schTblUpdateState config s other).2) : event = .tableEnded other := by
  generalize updates : schTblUpdateState config s other = outcome at member
  cases schTblUpdateState_updated updates with
  | switched | ended => exact mem_singleton.mp member
  | _ => cases member

private theorem otherUpdated_tableSees (alone : Alone table s) (ne : other ≠ table)
    (open_walk : s.walks = walk :: walks)
    (stage : tableStage config table { walk with position } = tableStage config table walk) :
    TableSees config table s ((schTblUpdateState config s other).1.moveTo position)
      (schTblUpdateState config s other).2 := by
  have updated := schTblUpdateState_tablesOnly config s other
  refine glide_tableSees open_walk updated.counters
    (schTblUpdateState_others config ne (alone.others other)) updated.walks stage ?_
  intro event member
  simp [schTblUpdateState_events member, concerns, ne]

private theorem ownUpdated_tableSees (open_walk : s.walks = walk :: walks)
    (before : tableStage config table walk = some .acting ∨
      tableStage config table walk = some .ahead ∧ (s.tables table).state.runs ∧
        (s.tables table).expireVal = tableVal config table s ∧
        config.expirePointCnt table ≤ (s.tables table).expireCurrIndex)
    (after : tableStage config table { walk with position } = some .past) :
    TableSees config table s ((schTblUpdateState config s table).1.moveTo position)
      (schTblUpdateState config s table).2 := by
  have updated := schTblUpdateState_tablesOnly config s table
  refine .updated (by simp [tableVal, updated.counters]) rfl rfl ?_
    (lapsOf_own (moveTo_walks _ (updated.walks.trans open_walk) position) after)
  rcases before with acting | ⟨ahead, ends⟩
  · exact .inl (lapsOf_own open_walk acting)
  · exact .inr ⟨lapsOf_own open_walk ahead, ends⟩

section

variable (known : table < config.schtblCnt)
include known

private theorem glides_tableSees (sound : s.Sound config) {position' : Position}
    (open_walk : s.walks = { counter, position } :: walks)
    (glides : Glides config s counter position position' events) :
    TableSees config table s (s.moveTo position') events := by
  have placed := sound.placed _ (open_walk ▸ mem_cons_self)
  have unseen (stage : tableStage config table { counter, position := position' } =
      tableStage config table { counter, position })
      (skipped : ∀ event ∈ events, event.concerns config table = false) :
      TableSees config table s (s.moveTo position') events :=
    glide_tableSees open_walk rfl rfl rfl stage skipped
  cases glides with
  | alarmsChecked =>
    refine unseen ?_ (by simp [concerns])
    by_cases own : counter = config.tableCounter table
    · have attached : table ∈ (s.counters counter).schedList :=
        ((sound.attached.tables counter).2 table).mpr ⟨known, own.symm⟩
      simp [tableStage, attached]
    · simp [tableStage, own]
  | alarmExpired _ _ _ _ acts =>
    refine unseen ?_ (by simp [concerns])
    rcases acts with rfl | ⟨_, -, rfl⟩ <;> simp [tableStage]
  | alarmPassed | refused | acted =>
    exact unseen (by simp [tableStage]) (by simp [concerns])
  | tablePassed other rest waits =>
    by_cases own : other = table
    · subst own
      obtain rfl : config.tableCounter other = counter := placed.2 other mem_cons_self
      have fresh : other ∉ rest := (nodup_cons.mp placed.1).1
      refine .passed rfl rfl (lapsOf_own open_walk (by simp [tableStage]))
        (lapsOf_own (moveTo_walks s open_walk _) (by simp [tableStage, fresh])) ?_
      exact fun runs here => waits ((TableState.runs_iff _).mp runs) here.symm
    · exact unseen (tableStage_next own) (by simp)
  | pointReached other rest runs here below =>
    by_cases own : other = table
    · subst own
      obtain rfl : config.tableCounter other = counter := placed.2 other mem_cons_self
      exact .reached rfl rfl (lapsOf_own open_walk (by simp [tableStage]))
        (lapsOf_own (moveTo_walks s open_walk _) (by simp [tableStage]))
        ((TableState.runs_iff _).mpr runs) here.symm below
    · exact unseen (tableStage_action own) (by simp [concerns, own])

private theorem resume_tableSees (alone : Alone table s) (sound : s.Sound config) :
    TableSees config table s (resume config s).1 (resume config s).2 ∧
      Alone table (resume config s).1 := by
  generalize resumes : resume config s = outcome
  cases resume_resumes resumes with
  | rests => exact ⟨.unseen rfl rfl rfl (by simp), alone⟩
  | glides open_walk glides =>
    exact ⟨glides_tableSees known sound open_walk glides, alone.of_tables rfl⟩
  | @nests counter alarm target rest walks open_walk =>
    have laps : tableLaps config table (s.moveTo (.alarmAction alarm rest)) = _ :=
      lapsOf_moveTo open_walk rfl (by simp [tableStage])
    exact ⟨advance_tableSees (moveTo_counters s _) (moveTo_tables s _) laps target,
      alone.of_tables rfl⟩
  | @processes counter alarm rest walks open_walk =>
    have tables : (alarmProcess config s alarm).tables = s.tables := by
      rw [alarmProcess_eq]
      rfl
    exact ⟨glide_tableSees open_walk (alarmProcess_counters config s alarm) (by rw [tables])
      (alarmProcess_walks config s alarm) (by simp [tableStage]) (by simp),
      alone.of_tables tables⟩
  | @updates counter other position rest walks open_walk ends =>
    have placed := sound.placed _ (open_walk ▸ mem_cons_self)
    refine ⟨?_, (alone.update other).of_tables rfl⟩
    by_cases own : other = table
    · subst own
      have listed : (other :: rest).Nodup ∧ config.tableCounter other = counter := by
        rcases ends with rfl | ⟨rfl, -⟩ <;> exact ⟨placed.1, placed.2 other mem_cons_self⟩
      obtain ⟨nodup, rfl⟩ := listed
      refine ownUpdated_tableSees open_walk ?_ (by simp [tableStage, (nodup_cons.mp nodup).1])
      rcases ends with acting | ⟨met, runs, here, at_end⟩
      · exact .inl (by simp [tableStage, acting])
      · exact .inr ⟨by simp [tableStage, met], (TableState.runs_iff _).mpr runs, here.symm, at_end⟩
    · apply otherUpdated_tableSees alone own open_walk
      rcases ends with rfl | ⟨rfl, -⟩
      · exact (tableStage_next own).trans (tableStage_action own).symm
      · exact tableStage_next own
  | @leaves counter walks open_walk =>
    refine ⟨?_, alone.of_tables rfl⟩
    by_cases own : counter = config.tableCounter table
    · subst own
      exact .left rfl rfl (lapsOf_own open_walk (by simp [tableStage])) rfl
    · refine .unseen rfl rfl ?_ (by simp [concerns, own])
      simp only [tableLaps]
      rw [lapsOf_cons open_walk]
      simp [tableStage, own, lapsOf]

theorem counterStep_tableSees (alone : Alone table s) (sound : s.Sound config) {step : CounterStep}
    (no_successor : step.givesSuccessor table = false) :
    TableSees config table s (counterStep config s step).1 (counterStep config s step).2 ∧
      Alone table (counterStep config s step).1 := by
  generalize steps : counterStep config s step = outcome
  cases counterStep_stepped steps with
  | held => exact ⟨.unseen rfl rfl rfl (by simp), alone⟩
  | served call => exact serve_tableSees alone no_successor
  | ticked counter => exact ⟨advance_tableSees rfl rfl rfl counter, alone.of_tables rfl⟩
  | resumed => exact resume_tableSees known alone sound

end

end Sees

end Os
