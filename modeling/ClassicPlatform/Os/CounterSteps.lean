import ClassicPlatform.Lib.Machine
import ClassicPlatform.Lib.Timer
import ClassicPlatform.Os.Registration

/-!
# What the steps of the counters do

Case lemmas for the services, frame lemmas for the walks, and two facts about every
run: a walk only meets elements of its own counter, each once, and a walk on which no
schedule table expires comes to its end.
-/
namespace Os

open CounterState Function List Nat

/-! ## Setters -/

variable {walks : List Walk} {other : Nat} {walk : Walk}

section Setters

variable (s : CounterState) (key : Nat)

@[simp] theorem setAlarm_alarms (value : Alarm) : (s.setAlarm key value).alarms key = value :=
  update_self _ _ _

theorem setAlarm_alarms_of_ne (ne : other ≠ key) (value : Alarm) :
    (s.setAlarm key value).alarms other = s.alarms other :=
  update_of_ne ne _ _

@[simp] theorem setAlarm_counters (value : Alarm) :
    (s.setAlarm key value).counters = s.counters := rfl

@[simp] theorem setAlarm_walks (value : Alarm) : (s.setAlarm key value).walks = s.walks := rfl

@[simp] theorem setTable_tables (value : Table) : (s.setTable key value).tables key = value :=
  update_self _ _ _

theorem setTable_tables_of_ne (ne : other ≠ key) (value : Table) :
    (s.setTable key value).tables other = s.tables other :=
  update_of_ne ne _ _

theorem setNext_eq (next : Nat) :
    setNext s key next = { s with tables := (setNext s key next).tables } := by
  simp only [setNext, stopEarlierNext]
  split <;> rfl

section

variable (position : Position)

@[simp] theorem moveTo_counters :
    (s.moveTo position).counters = s.counters := rfl

@[simp] theorem moveTo_alarms : (s.moveTo position).alarms = s.alarms := rfl

@[simp] theorem moveTo_tables : (s.moveTo position).tables = s.tables := rfl

end

theorem moveTo_walks (open_walk : s.walks = walk :: walks) (position : Position) :
    (s.moveTo position).walks = { walk with position } :: walks := by
  simp [moveTo, open_walk]

section

variable (config : CounterSet)
include config

@[simp] theorem advance_alarms :
    (s.advance config key).alarms = s.alarms := rfl

theorem advance_walks :
    (s.advance config key).walks =
      { counter := key, position := .alarms (s.counters key).alarmList } :: s.walks := rfl

@[simp] theorem advance_counters :
    (s.advance config key).counters key = { s.counters key with
        val := osCounterAdd (s.counters key).val (config.maxOf key) 1 } :=
  update_self _ _ _

theorem advance_counters_of_ne (ne : other ≠ key) :
    (s.advance config key).counters other = s.counters other :=
  update_of_ne ne _ _

end

end Setters

/-! ## Values of counters -/

theorem osCounterAdd_eq_mod {val max n : Nat} (low : val ≤ max) (le : n ≤ max + 1) :
    osCounterAdd val max n = (val + n) % (max + 1) := by
  unfold osCounterAdd
  split
  next short => exact (mod_eq_of_lt (by omega)).symm
  next long =>
    rw [mod_eq_sub_mod (by omega), mod_eq_of_lt (by omega)]
    omega

theorem osCounterAdd_le {val max n : Nat} (low : val ≤ max) (le : n ≤ max + 1) :
    osCounterAdd val max n ≤ max := by
  rw [osCounterAdd_eq_mod low le]
  exact le_of_lt_succ (mod_lt _ (succ_pos max))

/-! ## Services -/

variable (config : CounterSet) (s : CounterState) (table : Nat)

def CounterCall.starts : CounterCall → Bool
  | .startScheduleTableRel other _ | .startScheduleTableAbs other _ => other == table
  | _ => false

theorem validate_cases (ok : Bool) (error : StatusType) (s : CounterState) (body : CounterOutcome) :
    validate config ok error s body = (s, [.returned error]) ∨
      (config.statusExtended → ok) ∧ validate config ok error s body = body := by
  unfold validate
  split
  next failed => exact .inl rfl
  next passed => exact .inr ⟨fun extended => by simpa [extended] using passed, rfl⟩

/-- What a service can do: it is refused and changes nothing, or it does its work. The
conditions of each case are those that the service has checked. -/
inductive Served : CounterCall → CounterOutcome → Prop
  | refused (call : CounterCall) (error : StatusType) (failed : error ≠ .eOk) :
      Served call (s, [.returned error])
  | incremented (counter : Nat) :
      Served (.incrementCounter counter) (s.advance config counter, [.incremented counter])
  | setRel (alarm increment cycle : Nat) (idle : (s.alarms alarm).active = false)
      (fits : config.statusExtended = true →
        (0 < increment ∧ increment ≤ config.alarmMax alarm) ∧
          osAlarmCheckCycle config alarm cycle = true) :
      Served (.setRelAlarm alarm increment cycle)
        (s.setAlarm alarm
          { s.alarms alarm with
            active := true
            expireVal := osCounterAdd (s.counters (config.alarmCounter alarm)).val
              (config.alarmMax alarm) increment
            cycletime := cycle },
          [.alarmSetRel alarm increment cycle, .returned .eOk])
  | setAbs (alarm start cycle : Nat) (idle : (s.alarms alarm).active = false)
      (fits : config.statusExtended = true →
        start ≤ config.alarmMax alarm ∧
          osAlarmCheckCycle config alarm cycle = true) :
      Served (.setAbsAlarm alarm start cycle)
        (s.setAlarm alarm
          { s.alarms alarm with active := true, expireVal := start, cycletime := cycle },
          [.alarmSetAbs alarm start cycle, .returned .eOk])
  | cancelled (alarm : Nat) :
      Served (.cancelAlarm alarm)
        (s.setAlarm alarm { s.alarms alarm with active := false },
          [.alarmCancelled alarm, .returned .eOk])
  | startedRel (table offset : Nat)
      (fits : config.statusExtended = true →
        (offset ≠ 0 ∧ tickAdd offset (config.initialOffset table) ≤
          config.tableMax table) ∧ (s.tables table).state = .stopped) :
      Served (.startScheduleTableRel table offset)
        (s.setTable table
          { s.tables table with
            expireVal := osCounterAdd (s.counters (config.tableCounter table)).val
              (config.tableMax table)
              (tickAdd offset (config.initialOffset table))
            state := .running },
          [.tableStartedRel table offset, .returned .eOk])
  | startedAbs (table start : Nat)
      (fits : config.statusExtended = true →
        start ≤ config.tableMax table ∧ (s.tables table).state = .stopped) :
      Served (.startScheduleTableAbs table start)
        (s.setTable table
          { s.tables table with
            expireVal := tickAdd start (config.initialOffset table)
            state := .running },
          [.tableStartedAbs table start, .returned .eOk])
  | stopped (table : Nat) :
      Served (.stopScheduleTable table)
        (s.setTable table { s.tables table with state := .stopped },
          [.tableStopped table, .returned .eOk])
  | given (current next : Nat) :
      Served (.nextScheduleTable current next) (setNext s current next, [.returned .eOk])

variable {outcome : CounterOutcome}

section Services

variable (config : CounterSet) (s : CounterState)

theorem incrementCounter_cases (counter : Nat) :
    incrementCounter config s counter = (s, [.returned .eOsId]) ∨
      incrementCounter config s counter = (s.advance config counter, [.incremented counter]) := by
  unfold incrementCounter
  rcases validate_cases config (counter < config.counterCnt) .eOsId s _ with refused | ⟨-, passed⟩
  · exact .inl refused
  · rw [passed]
    exact (validate_cases config _ .eOsId s _).imp id And.right

variable {config s} in
private theorem Served.validate {call : CounterCall} {ok : Bool} {error : StatusType}
    {body : CounterOutcome} (failed : error ≠ .eOk)
    (passes : (config.statusExtended → ok) → Served config s call body) :
    Served config s call (validate config ok error s body) := by
  rcases validate_cases config ok error s body with refused | ⟨checked, passed⟩
  · rw [refused]
    exact .refused _ _ failed
  · rw [passed]
    exact passes checked

private theorem setRelAlarm_served (alarm increment cycle : Nat) :
    Served config s (.setRelAlarm alarm increment cycle)
      (setRelAlarm config s alarm increment cycle) := by
  refine .validate nofun fun _ => .validate nofun fun delay => .validate nofun fun period => ?_
  split
  next busy => exact .refused _ _ nofun
  next idle =>
    refine .setRel _ _ _ (by simpa using idle) fun extended => ⟨?_, period extended⟩
    have := delay extended
    simp at this
    omega

private theorem setAbsAlarm_served (alarm start cycle : Nat) :
    Served config s (.setAbsAlarm alarm start cycle) (setAbsAlarm config s alarm start cycle) := by
  refine .validate nofun fun _ => .validate nofun fun value => .validate nofun fun period => ?_
  split
  next busy => exact .refused _ _ nofun
  next idle =>
    exact .setAbs _ _ _ (by simpa using idle) fun extended =>
      ⟨by simpa using value extended, period extended⟩

private theorem cancelAlarm_served (alarm : Nat) :
    Served config s (.cancelAlarm alarm) (cancelAlarm config s alarm) := by
  refine .validate nofun fun _ => ?_
  split
  · exact .refused _ _ nofun
  · exact .cancelled _

private theorem startScheduleTableRel_served (table offset : Nat) :
    Served config s (.startScheduleTableRel table offset)
      (startScheduleTableRel config s table offset) := by
  refine .validate nofun fun _ => .validate nofun fun value => .validate nofun fun state => ?_
  refine .startedRel _ _ fun extended => ⟨?_, by simpa using state extended⟩
  simpa using value extended

private theorem startScheduleTableAbs_served (table start : Nat) :
    Served config s (.startScheduleTableAbs table start)
      (startScheduleTableAbs config s table start) := by
  refine .validate nofun fun _ => .validate nofun fun value => .validate nofun fun state => ?_
  exact .startedAbs _ _ fun extended =>
    ⟨by simpa using value extended, by simpa using state extended⟩

private theorem stopScheduleTable_served (table : Nat) :
    Served config s (.stopScheduleTable table) (stopScheduleTable config s table) :=
  .validate nofun fun _ => .validate nofun fun _ => .stopped _

private theorem nextScheduleTable_served (current next : Nat) :
    Served config s (.nextScheduleTable current next)
      (nextScheduleTable config s current next) := by
  refine .validate nofun fun _ => .validate nofun fun _ => .validate nofun fun _ => ?_
  split
  · exact .refused _ _ nofun
  · exact .validate nofun fun _ => .given _ _

variable {config s} in
theorem serve_served {call : CounterCall}
    (serves : serve config s call = outcome) : Served config s call outcome := by
  subst serves
  cases call with
  | incrementCounter counter =>
    simp only [serve]
    rcases incrementCounter_cases config s counter with refused | begun
    · rw [refused]; exact .refused _ _ nofun
    · rw [begun]; exact .incremented counter
  | setRelAlarm alarm increment cycle => exact setRelAlarm_served config s alarm increment cycle
  | setAbsAlarm alarm start cycle => exact setAbsAlarm_served config s alarm start cycle
  | cancelAlarm alarm => exact cancelAlarm_served config s alarm
  | startScheduleTableRel table offset => exact startScheduleTableRel_served config s table offset
  | startScheduleTableAbs table start => exact startScheduleTableAbs_served config s table start
  | stopScheduleTable table => exact stopScheduleTable_served config s table
  | nextScheduleTable current next => exact nextScheduleTable_served config s current next

theorem serve_error (call : CounterCall) {error : StatusType} (failed : error ≠ .eOk)
    (returned : .returned error ∈ (serve config s call).2) : (serve config s call).1 = s := by
  generalize serves : serve config s call = outcome at returned ⊢
  cases serve_served serves with
  | refused call error failed => rfl
  | _ => simp [failed] at returned

end Services

/-! ## Updates of alarms -/

section AlarmProcess

variable (config : CounterSet) (s : CounterState) (alarm : Nat)

theorem alarmProcess_eq :
    alarmProcess config s alarm = s.setAlarm alarm
        (if (s.alarms alarm).cycletime = 0 then { s.alarms alarm with active := false }
        else
          { s.alarms alarm with
            expireVal := osCounterAdd (s.counters (config.alarmCounter alarm)).val
              (config.alarmMax alarm) (s.alarms alarm).cycletime }) := by
  simp only [alarmProcess]
  split <;> rfl

@[simp] theorem alarmProcess_counters : (alarmProcess config s alarm).counters = s.counters := by
  rw [alarmProcess_eq, setAlarm_counters]

@[simp] theorem alarmProcess_walks : (alarmProcess config s alarm).walks = s.walks := by
  rw [alarmProcess_eq, setAlarm_walks]

theorem alarmProcess_alarms_of_ne (ne : other ≠ alarm) :
    (alarmProcess config s alarm).alarms other = s.alarms other := by
  rw [alarmProcess_eq, setAlarm_alarms_of_ne _ _ ne]

end AlarmProcess

/-! ## Updates of schedule tables -/

/-- `Os_SchTblUpdateState` takes its branch for the end of the table. -/
def CounterState.atFinal (table : Nat) : Bool :=
  let index := (s.tables table).expireCurrIndex
  if index + 1 = config.expirePointCnt table then
    config.finalOffset table == 0 && !(config.table table).repeating
  else index == config.expirePointCnt table

/-- What an update of a schedule table can do: one of the two assertions fails, the table waits
for a point, its successor takes over, it begins again, or it is over. -/
inductive Updated : CounterOutcome → Prop
  | undelayed (before : s.atFinal config table = false)
      (repeating : (config.table table).repeating = true)
      (no_delay : config.finalOffset table = 0) : Updated (s.halt, [])
  | waits (before : s.atFinal config table = false) (delta : Nat) :
      Updated (schTblNextPoint config s table delta)
  | failed {next : Nat} (final : s.atFinal config table = true)
      (successor : (s.tables table).next = some next) (lost : (s.tables next).state ≠ .next) :
      Updated (s.halt, [])
  | switched {next : Nat} {stopped : CounterState} (final : s.atFinal config table = true)
      (successor : (s.tables table).next = some next) (waits : (s.tables next).state = .next)
      (stops : stopped = s.setTable table
        { s.tables table with state := .stopped, expireCurrIndex := 0 }) (expireVal : Nat) :
      Updated (stopped.setTable next { stopped.tables next with state := .running, expireVal },
        [.tableEnded table])
  | repeats (final : s.atFinal config table = true) (free : (s.tables table).next = none)
      (repeating : (config.table table).repeating = true) (expireVal : Nat) :
      Updated (s.setTable table { s.tables table with expireVal, expireCurrIndex := 0 }, [])
  | ended (final : s.atFinal config table = true) (free : (s.tables table).next = none)
      (single : (config.table table).repeating = false) :
      Updated (s.setTable table { s.tables table with state := .stopped, expireCurrIndex := 0 },
        [.tableEnded table])

private theorem schTblAtFinal_updated (final : s.atFinal config table) :
    Updated config s table (schTblAtFinal config s table) := by
  unfold schTblAtFinal
  simp only
  split
  next next successor =>
    split
    next lost => exact .failed final successor lost
    next waits => exact .switched final successor (not_not.mp waits) rfl _
  next free =>
    split
    next repeating => exact .repeats final free repeating _
    next single => exact .ended final free (by simpa using single)

variable {config s table} in
theorem schTblUpdateState_updated
    (updates : schTblUpdateState config s table = outcome) : Updated config s table outcome := by
  subst updates
  have at_final := schTblAtFinal_updated config s table
  unfold schTblUpdateState
  simp only
  split
  next last =>
    split
    next delay => exact .waits (by simp [atFinal, last, delay]) _
    next no_delay =>
      have no_delay := not_not.mp no_delay
      split
      next repeating =>
        exact .undelayed (by simp [atFinal, last, repeating]) repeating no_delay
      next single => exact at_final (by simp [atFinal, last, no_delay, single])
  next not_last =>
    split
    next at_end => exact at_final (by simp [atFinal, at_end])
    next not_end => exact .waits (by simp [atFinal, not_last, not_end]) _

/-- An update of a schedule table touches tables only. -/
structure TablesOnly (outcome : CounterOutcome) : Prop where
  counters : outcome.1.counters = s.counters
  alarms : outcome.1.alarms = s.alarms
  walks : outcome.1.walks = s.walks
  events : ∀ event ∈ outcome.2, ∃ table, event = .tableEnded table

theorem schTblUpdateState_tablesOnly : TablesOnly s (schTblUpdateState config s table) := by
  generalize updates : schTblUpdateState config s table = outcome
  cases schTblUpdateState_updated updates with
  | switched _ _ _ stops =>
    rw [stops]
    exact ⟨rfl, rfl, rfl, by simp⟩
  | ended => exact ⟨rfl, rfl, rfl, by simp⟩
  | _ => exact ⟨rfl, rfl, rfl, nofun⟩

section Updates

variable {config : CounterSet} {table : Nat} {s : CounterState}

theorem schTblUpdateState_others (config : CounterSet) (ne : other ≠ table)
    (apart : (s.tables other).next ≠ some table) :
    (schTblUpdateState config s other).1.tables table = s.tables table := by
  generalize updates : schTblUpdateState config s other = outcome
  cases schTblUpdateState_updated updates with
  | undelayed | failed => rfl
  | waits | repeats | ended => exact setTable_tables_of_ne _ _ ne.symm _
  | @switched next _ _ successor _ stops =>
    have not_next : table ≠ next := fun eq => apart (eq ▸ successor)
    rw [setTable_tables_of_ne _ _ not_next, stops, setTable_tables_of_ne _ _ ne.symm]

theorem schTblUpdateState_next (config : CounterSet) (s : CounterState) (other any : Nat) :
    ((schTblUpdateState config s other).1.tables any).next = (s.tables any).next := by
  have set_next : ∀ (s : CounterState) (key : Nat) (value : Table),
      value.next = (s.tables key).next →
      ((s.setTable key value).tables any).next = (s.tables any).next := by
    intro s key value same
    by_cases own : any = key
    · subst own
      rw [setTable_tables, same]
    · rw [setTable_tables_of_ne _ _ own]
  generalize updates : schTblUpdateState config s other = outcome
  cases schTblUpdateState_updated updates with
  | undelayed | failed => rfl
  | waits | repeats | ended => exact set_next _ _ _ rfl
  | switched _ _ _ stops =>
    subst stops
    refine (set_next _ _ _ ?_).trans (set_next _ _ _ ?_) <;> rfl

theorem schTblUpdateState_halted (alone : (s.tables table).next = none)
    (delay : (config.table table).repeating → config.finalOffset table ≠ 0) :
    (schTblUpdateState config s table).1.halted = s.halted := by
  generalize updates : schTblUpdateState config s table = outcome
  cases schTblUpdateState_updated updates with
  | undelayed _ repeating no_delay => exact absurd no_delay (delay repeating)
  | failed _ successor | switched _ successor => cases alone.symm.trans successor
  | waits | repeats | ended => rfl

end Updates

/-! ## What a walk does -/

variable (counter : Nat) in
/-- The latest walk moves on, and nothing else changes. -/
inductive Glides : Position → Position → List CounterEvent → Prop
  | alarmsChecked :
      Glides (.alarms []) (.tables (s.counters counter).schedList) [.alarmsChecked counter]
  | alarmPassed (alarm : Nat) (rest : List Nat)
      (waits : (s.alarms alarm).active = true →
        (s.counters counter).val = (s.alarms alarm).expireVal →
        (config.alarm alarm).action = .alarmCallback) :
      Glides (.alarms (alarm :: rest)) (.alarms rest) []
  | alarmExpired (alarm : Nat) (rest : List Nat) (active : (s.alarms alarm).active = true)
      (here : (s.counters counter).val = (s.alarms alarm).expireVal) {position : Position}
      (acts : position = .alarmAction alarm rest ∨
        ∃ other, (config.alarm alarm).action = .incrementCounter other ∧
          position = .alarmIncrement alarm other rest) :
      Glides (.alarms (alarm :: rest)) position [.alarmExpired alarm]
  | refused (alarm other : Nat) (rest : List Nat) :
      Glides (.alarmIncrement alarm other rest) (.alarmAction alarm rest) [.returned .eOsId]
  | tablePassed (table : Nat) (rest : List Nat)
      (waits : (s.tables table).state = .running ∨ (s.tables table).state = .runningAndSynchronous →
        (s.counters counter).val ≠ (s.tables table).expireVal) :
      Glides (.tables (table :: rest)) (.tables rest) []
  | pointReached (table : Nat) (rest : List Nat)
      (runs : (s.tables table).state = .running ∨ (s.tables table).state = .runningAndSynchronous)
      (here : (s.counters counter).val = (s.tables table).expireVal)
      (below : (s.tables table).expireCurrIndex < config.expirePointCnt table) :
      Glides (.tables (table :: rest))
        (.tableAction table (config.pointActions table (s.tables table).expireCurrIndex) rest)
        [.pointExpired table (s.tables table).expireCurrIndex]
  | acted (table : Nat) (action : TableAction) (actions : List TableAction) (rest : List Nat) :
      Glides (.tableAction table (action :: actions) rest) (.tableAction table actions rest) []

/-- What happens when the latest walk goes on. -/
inductive Resumes : CounterOutcome → Prop
  | rests (none_open : s.walks = []) : Resumes (s, [])
  | glides {counter : Nat} {position position' : Position} {events : List CounterEvent}
      {walks : List Walk}
      (open_walk : s.walks = { counter, position } :: walks)
      (glides : Glides config s counter position position' events) :
      Resumes (s.moveTo position', events)
  | nests {counter alarm other : Nat} {rest : List Nat} {walks : List Walk}
      (open_walk : s.walks = { counter, position := .alarmIncrement alarm other rest } :: walks) :
      Resumes ((s.moveTo (.alarmAction alarm rest)).advance config other, [.incremented other])
  | processes {counter alarm : Nat} {rest : List Nat} {walks : List Walk}
      (open_walk : s.walks = { counter, position := .alarmAction alarm rest } :: walks) :
      Resumes ((alarmProcess config s alarm).moveTo (.alarms rest), [])
  | updates {counter table : Nat} {position : Position} {rest : List Nat} {walks : List Walk}
      (open_walk : s.walks = { counter, position } :: walks)
      (ends : position = .tableAction table [] rest ∨ position = .tables (table :: rest) ∧
        ((s.tables table).state = .running ∨ (s.tables table).state = .runningAndSynchronous) ∧
        (s.counters counter).val = (s.tables table).expireVal ∧
        config.expirePointCnt table ≤ (s.tables table).expireCurrIndex) :
      Resumes ((schTblUpdateState config s table).1.moveTo (.tables rest),
        (schTblUpdateState config s table).2)
  | leaves {counter : Nat} {walks : List Walk}
      (open_walk : s.walks = { counter, position := .tables [] } :: walks) :
      Resumes ({ s with walks }, [.tablesChecked counter])

variable {config s} in
theorem resume_resumes (resumes : resume config s = outcome) : Resumes config s outcome := by
  subst resumes
  unfold resume
  split
  next none_open => exact .rests none_open
  next counter position walks open_walk =>
    split
    next => exact .glides open_walk .alarmsChecked
    next alarm rest =>
      unfold alarmCheckTurn
      simp only
      split
      next expired =>
        have acts (position' : Position) (next : position' = .alarmAction alarm rest ∨ ∃ other,
            (config.alarm alarm).action = .incrementCounter other ∧
              position' = .alarmIncrement alarm other rest) :
            Resumes config s (s.moveTo position', [.alarmExpired alarm]) :=
          .glides open_walk (.alarmExpired alarm rest expired.1 expired.2 next)
        split
        next => exact acts _ (.inl rfl)
        next => exact acts _ (.inl rfl)
        next callback => exact .glides open_walk (.alarmPassed _ _ fun _ _ => callback)
        next other action => exact acts _ (.inr ⟨other, action, rfl⟩)
      next waits =>
        exact .glides open_walk (.alarmPassed _ _ fun active here => absurd ⟨active, here⟩ waits)
    next alarm other rest =>
      rcases incrementCounter_cases config (s.moveTo (.alarmAction alarm rest)) other with
        refused | begun
      · rw [refused]
        exact .glides open_walk (.refused alarm other rest)
      · rw [begun]
        exact .nests open_walk
    next => exact .processes open_walk
    next => exact .leaves open_walk
    next table rest =>
      unfold schTblCheckTurn
      simp only
      split
      next expired =>
        split
        next below => exact .glides open_walk (.pointReached _ _ expired.1 expired.2 below)
        next at_end => exact .updates open_walk (.inr ⟨rfl, expired.1, expired.2, not_lt.mp at_end⟩)
      next waits =>
        exact .glides open_walk (.tablePassed _ _ fun runs here => waits ⟨runs, here⟩)
    next => exact .glides open_walk (.acted _ _ _ _)
    next => exact .updates open_walk (.inl rfl)

/-- A step is not possible now, or it does what it asks for. -/
inductive Stepped : CounterStep → CounterOutcome → Prop
  | held (step : CounterStep) (stuck : step = .resume → s.halted = true) : Stepped step (s, [])
  | served (call : CounterCall) : Stepped (.call call) (serve config s call)
  | ticked (counter : Nat) :
      Stepped (.osTick counter) (s.advance config counter, [.incremented counter])
  | resumed (running : s.halted = false) : Stepped .resume (resume config s)

variable {config s} in
theorem counterStep_stepped {step : CounterStep}
    (steps : counterStep config s step = outcome) : Stepped config s step outcome := by
  subst steps
  cases step with
  | call call =>
    simp only [counterStep]
    split
    · exact .served call
    · exact .held _ nofun
  | osTick counter =>
    simp only [counterStep]
    split
    · exact .ticked counter
    · exact .held _ nofun
  | resume =>
    simp only [counterStep]
    split
    next halted => exact .held _ fun _ => halted
    next running => exact .resumed (by simpa using running)

/-! ## What a walk can meet -/

/-- The elements before a walk belong to its counter and come once. -/
def Walk.Placed (walk : Walk) : Prop :=
  match walk.position with
  | .alarms rest => rest.Nodup ∧ ∀ alarm ∈ rest, config.alarmCounter alarm = walk.counter
  | .alarmIncrement alarm target rest =>
    (config.alarm alarm).action = .incrementCounter target ∧
      (alarm :: rest).Nodup ∧ ∀ other ∈ alarm :: rest, config.alarmCounter other = walk.counter
  | .alarmAction alarm rest =>
    (alarm :: rest).Nodup ∧ ∀ other ∈ alarm :: rest, config.alarmCounter other = walk.counter
  | .tables rest => rest.Nodup ∧ ∀ table ∈ rest, config.tableCounter table = walk.counter
  | .tableAction table _ rest =>
    (table :: rest).Nodup ∧ ∀ other ∈ table :: rest, config.tableCounter other = walk.counter

/-- The lists are as configured and every open walk is on the list of its counter. -/
structure CounterState.Sound : Prop where
  attached : s.Attached config
  placed : ∀ walk ∈ s.walks, walk.Placed config

variable {rest : List Nat} {alarm counter : Nat} {position : Position}

section Placed

variable {config : CounterSet} {s s' : CounterState}

/-- The lists of the counters have not changed. -/
def SameLists (s s' : CounterState) : Prop :=
  ∀ counter, (s'.counters counter).alarmList = (s.counters counter).alarmList ∧
    (s'.counters counter).schedList = (s.counters counter).schedList

private theorem SameLists.of_counters (same : s'.counters = s.counters) : SameLists s s' := by
  intro counter
  simp [same]

theorem advance_sameLists (config : CounterSet) (s : CounterState) (counter : Nat) :
    SameLists s (s.advance config counter) := by
  intro other
  by_cases own : other = counter
  · subst own
    simp
  · simp [advance_counters_of_ne _ _ _ own]

theorem CounterState.Attached.transport (attached : s.Attached config) (same : SameLists s s') :
    s'.Attached config where
  alarms counter := by
    rw [(same counter).1]
    exact attached.alarms counter
  tables counter := by
    rw [(same counter).2]
    exact attached.tables counter

section

variable (sound : s.Sound config)
include sound

private theorem CounterState.Sound.frame
    (counters : s'.counters = s.counters) (walks : s'.walks = s.walks) : s'.Sound config :=
  ⟨sound.attached.transport (.of_counters counters), walks ▸ sound.placed⟩

theorem CounterState.Sound.advance (counter : Nat) : (s.advance config counter).Sound config := by
  refine ⟨sound.attached.transport (advance_sameLists config s counter), fun walk member => ?_⟩
  rcases mem_cons.mp member with rfl | earlier
  · obtain ⟨nodup, exact⟩ := sound.attached.alarms counter
    exact ⟨nodup, fun alarm member => ((exact alarm).mp member).2⟩
  · exact sound.placed walk earlier

theorem CounterState.Sound.move (counters : s'.counters = s.counters)
    (same_walks : s'.walks = s.walks) (open_walk : s.walks = walk :: walks)
    (placed : Walk.Placed config { walk with position }) : (s'.moveTo position).Sound config := by
  refine ⟨sound.attached.transport (.of_counters counters), fun other member => ?_⟩
  rw [moveTo_walks s' (same_walks.trans open_walk)] at member
  rcases mem_cons.mp member with rfl | earlier
  · exact placed
  · exact sound.placed other (open_walk ▸ mem_cons_of_mem _ earlier)

theorem serve_sound (call : CounterCall) : (serve config s call).1.Sound config := by
  generalize serves : serve config s call = outcome
  cases serve_served serves with
  | incremented counter => exact sound.advance counter
  | given current next => exact sound.frame (by rw [setNext_eq]) (by rw [setNext_eq])
  | _ => exact sound.frame rfl rfl

omit sound in
private theorem listed_behind {counterOf : Nat → Nat} {first : Nat}
    (placed : (first :: rest).Nodup ∧ ∀ other ∈ first :: rest, counterOf other = counter) :
    rest.Nodup ∧ ∀ other ∈ rest, counterOf other = counter :=
  ⟨placed.1.of_cons, fun other member => placed.2 other (mem_cons_of_mem _ member)⟩

theorem resume_sound : (resume config s).1.Sound config := by
  generalize resumes : resume config s = outcome
  cases resume_resumes resumes with
  | rests => exact sound
  | glides open_walk glides =>
    have placed := sound.placed _ (open_walk ▸ mem_cons_self)
    apply sound.move rfl rfl open_walk
    cases glides with
    | alarmsChecked =>
      obtain ⟨nodup, configured⟩ := sound.attached.tables _
      exact ⟨nodup, fun table member => ((configured table).mp member).2⟩
    | alarmPassed | tablePassed => exact listed_behind placed
    | alarmExpired _ _ _ _ acts =>
      rcases acts with rfl | ⟨other, action, rfl⟩
      · exact placed
      · exact ⟨action, placed⟩
    | refused => exact placed.2
    | pointReached | acted => exact placed
  | @nests _ alarm other rest _ open_walk =>
    have placed := sound.placed _ (open_walk ▸ mem_cons_self)
    have moved : (s.moveTo (.alarmAction alarm rest)).Sound config :=
      sound.move rfl rfl open_walk placed.2
    exact moved.advance other
  | @processes _ alarm _ _ open_walk =>
    have placed := sound.placed _ (open_walk ▸ mem_cons_self)
    exact sound.move (alarmProcess_counters config s alarm) (alarmProcess_walks config s alarm)
      open_walk (listed_behind placed)
  | @updates _ table _ _ _ open_walk ends =>
    have placed := sound.placed _ (open_walk ▸ mem_cons_self)
    have updated := schTblUpdateState_tablesOnly config s table
    apply sound.move updated.counters updated.walks open_walk
    rcases ends with rfl | ⟨rfl, -⟩ <;> exact listed_behind placed
  | leaves open_walk =>
    exact ⟨sound.attached.transport (.of_counters rfl), fun walk member =>
      sound.placed walk (open_walk ▸ mem_cons_of_mem _ member)⟩

theorem counterStep_sound (step : CounterStep) : (counterStep config s step).1.Sound config := by
  generalize steps : counterStep config s step = outcome
  cases counterStep_stepped steps with
  | held => exact sound
  | served call => exact serve_sound sound call
  | ticked counter => exact sound.advance counter
  | resumed => exact resume_sound sound

end

end Placed

/-! ## Walks as laps around a timer -/

/-- The open walks as an alarm or a schedule table sees them. -/
def lapsOf (stage : Walk → Option Timer.Stage) (s : CounterState) : List Timer.Stage :=
  s.walks.filterMap stage

section Laps

variable {stage : Walk → Option Timer.Stage} {s s' : CounterState} {walk : Walk}
  {walks : List Walk}

section

variable (open_walk : s.walks = walk :: walks)
include open_walk

theorem lapsOf_cons : lapsOf stage s = (stage walk).toList ++ walks.filterMap stage := by
  rw [lapsOf, open_walk, filterMap_cons]
  split
  next unrelated => simp [unrelated]
  next here => simp [here]

theorem lapsOf_own {first : Timer.Stage}
    (here : stage walk = some first) : lapsOf stage s = first :: walks.filterMap stage := by
  rw [lapsOf_cons open_walk, here]
  rfl

theorem lapsOf_moveTo (same_walks : s'.walks = s.walks)
    (same : stage { walk with position } = stage walk) :
    lapsOf stage (s'.moveTo position) = lapsOf stage s := by
  rw [lapsOf_cons (moveTo_walks s' (same_walks.trans open_walk) position), same,
    lapsOf_cons open_walk]

end

end Laps

/-! ## Runs on which no assertion fails -/

/-- Increments and services of alarms. -/
def CounterStep.alarmsOnly : CounterStep → Bool
  | .call (.startScheduleTableRel _ _) => false
  | .call (.startScheduleTableAbs _ _) => false
  | .call (.stopScheduleTable _) | .call (.nextScheduleTable _ _) => false
  | _ => true

/-- Every table that is in use can be updated without a failing assertion. -/
structure CounterState.Calm : Prop where
  sound : s.Sound config
  running : s.halted = false
  alone : ∀ table, (s.tables table).next = none
  harmless : ∀ table,
    ((config.table table).repeating = true → config.finalOffset table ≠ 0) ∨
    (s.tables table).state = .stopped ∧
      ∀ walk ∈ s.walks, ∀ actions rest, walk.position ≠ .tableAction table actions rest

section Calm

variable {config : CounterSet} {s s' : CounterState}

private theorem alarmProcess_tables (config : CounterSet) (s : CounterState) (alarm : Nat) :
    (alarmProcess config s alarm).tables = s.tables ∧
      (alarmProcess config s alarm).halted = s.halted := by
  rw [alarmProcess_eq]
  exact ⟨rfl, rfl⟩

section

variable (calm : s.Calm config)
include calm

private theorem CounterState.Calm.move (open_walk : s.walks = walk :: walks)
    (same_walks : s'.walks = s.walks)
    (tables : s'.tables = s.tables) (halted : s'.halted = s.halted)
    (sound : (s'.moveTo position).Sound config)
    (quiet : ∀ table actions rest, position = .tableAction table actions rest →
      (config.table table).repeating → config.finalOffset table ≠ 0) :
    (s'.moveTo position).Calm config := by
  refine ⟨sound, halted.trans calm.running, fun table => ?_, fun table => ?_⟩
  · rw [moveTo_tables, tables]
    exact calm.alone table
  · refine or_iff_not_imp_left.mpr fun short => ?_
    obtain ⟨stopped, unused⟩ := (calm.harmless table).resolve_left short
    refine ⟨by rwa [moveTo_tables, tables], fun other member actions rest => ?_⟩
    rw [moveTo_walks s' (same_walks.trans open_walk)] at member
    rcases mem_cons.mp member with rfl | earlier
    · exact fun here => short (quiet table actions rest here)
    · exact unused other (open_walk ▸ mem_cons_of_mem _ earlier) actions rest

private theorem CounterState.Calm.advance (counter : Nat) :
    (s.advance config counter).Calm config := by
  refine ⟨calm.sound.advance counter, calm.running, calm.alone, fun table => ?_⟩
  refine (calm.harmless table).imp id fun ⟨stopped, unused⟩ => ⟨stopped, fun walk member => ?_⟩
  rcases mem_cons.mp member with rfl | earlier
  · nofun
  · exact unused walk earlier

private theorem CounterState.Calm.update {table : Nat} (open_walk : s.walks = walk :: walks)
    (delay : (config.table table).repeating → config.finalOffset table ≠ 0)
    (sound : ((schTblUpdateState config s table).1.moveTo (.tables rest)).Sound config) :
    ((schTblUpdateState config s table).1.moveTo (.tables rest)).Calm config := by
  have walks_eq := (schTblUpdateState_tablesOnly config s table).walks.trans open_walk
  refine ⟨sound, (schTblUpdateState_halted (calm.alone table) delay).trans calm.running,
    fun other => (schTblUpdateState_next config s table other).trans (calm.alone other),
    fun other => or_iff_not_imp_left.mpr fun short => ?_⟩
  have ne : table ≠ other := by
    rintro rfl
    exact short delay
  obtain ⟨stopped, unused⟩ := (calm.harmless other).resolve_left short
  have apart : (s.tables table).next ≠ some other := by simp [calm.alone table]
  have same := schTblUpdateState_others config ne apart
  refine ⟨by rwa [moveTo_tables, same], fun any member => ?_⟩
  rw [moveTo_walks _ walks_eq] at member
  rcases mem_cons.mp member with rfl | earlier
  · nofun
  · exact unused any (open_walk ▸ mem_cons_of_mem _ earlier)

private theorem CounterState.Calm.delay {table : Nat}
    (runs : (s.tables table).state = .running ∨ (s.tables table).state = .runningAndSynchronous) :
    (config.table table).repeating → config.finalOffset table ≠ 0 := by
  refine (calm.harmless table).resolve_right fun inert => ?_
  rcases runs with state | state <;> cases inert.1.symm.trans state

theorem resume_calm : (resume config s).1.Calm config := by
  have sound := resume_sound calm.sound
  generalize resumes : resume config s = outcome at sound ⊢
  have acting : ∀ {table counter : Nat} {actions : List TableAction} {rest : List Nat}
      {walks : List Walk},
      s.walks = { counter, position := .tableAction table actions rest } :: walks →
      (config.table table).repeating = true → config.finalOffset table ≠ 0 :=
    fun open_walk => (calm.harmless _).resolve_right fun inert =>
      inert.2 _ (open_walk ▸ mem_cons_self) _ _ rfl
  cases resume_resumes resumes with
  | rests => exact calm
  | glides open_walk glides =>
    apply calm.move open_walk rfl rfl rfl sound
    cases glides with
    | alarmExpired _ _ _ _ acts => rcases acts with rfl | ⟨_, -, rfl⟩ <;> rintro _ _ _ ⟨⟩
    | pointReached _ _ runs => rintro _ _ _ ⟨⟩; exact calm.delay runs
    | acted => rintro _ _ _ ⟨⟩; exact acting open_walk
    | _ => rintro _ _ _ ⟨⟩
  | @nests _ alarm other rest _ open_walk =>
    have placed := calm.sound.placed _ (open_walk ▸ mem_cons_self)
    have moved : (s.moveTo (.alarmAction alarm rest)).Calm config :=
      calm.move open_walk rfl rfl rfl (calm.sound.move rfl rfl open_walk placed.2)
        (by rintro _ _ _ ⟨⟩)
    exact moved.advance other
  | @processes _ alarm _ _ open_walk =>
    obtain ⟨tables, halted⟩ := alarmProcess_tables config s alarm
    exact calm.move open_walk (alarmProcess_walks config s alarm) tables halted sound
      (by rintro _ _ _ ⟨⟩)
  | updates open_walk ends =>
    refine calm.update open_walk ?_ sound
    rcases ends with rfl | ⟨-, runs, -⟩
    · exact acting open_walk
    · exact calm.delay runs
  | leaves open_walk =>
    refine ⟨sound, calm.running, calm.alone, fun table => ?_⟩
    exact (calm.harmless table).imp id fun inert => ⟨inert.1, fun walk member =>
      inert.2 walk (open_walk ▸ mem_cons_of_mem _ member)⟩

theorem counterStep_calm {step : CounterStep}
    (alarms_only : step.alarmsOnly) : (counterStep config s step).1.Calm config := by
  have sound := counterStep_sound calm.sound step
  generalize steps : counterStep config s step = outcome at sound ⊢
  cases counterStep_stepped steps with
  | held => exact calm
  | served call =>
    generalize serves : serve config s call = outcome at sound ⊢
    cases serve_served serves with
    | refused => exact calm
    | incremented counter => exact calm.advance counter
    | setRel | setAbs | cancelled => exact { calm with sound }
    | startedRel | startedAbs | stopped | given => cases alarms_only
  | ticked counter => exact calm.advance counter
  | resumed => exact resume_calm calm

end

/-! ## Every walk comes to its end -/

/-- The state after `n` times continuing the latest walk. -/
def resumed (config : CounterSet) (s : CounterState) (n : Nat) : CounterState :=
  (Machine.run (counterStep config) s (List.replicate n .resume)).1

theorem resumed_succ (calm : s.Calm config) (n : Nat) :
    resumed config s (n + 1) = resumed config (resume config s).1 n := by
  simp only [resumed, replicate_succ, Machine.run_cons, counterStep, calm.running]
  rfl

/-- Continuing leads to a calm state with these walks. -/
def Continues (config : CounterSet) (s : CounterState) (walks : List Walk) : Prop :=
  ∃ n, (resumed config s n).walks = walks ∧ (resumed config s n).Calm config

private theorem Continues.here (calm : s.Calm config) : Continues config s s.walks :=
  ⟨0, rfl, calm⟩

private theorem Continues.step (calm : s.Calm config)
    (later : Continues config (resume config s).1 walks) : Continues config s walks := by
  obtain ⟨n, walks_eq, last⟩ := later
  exact ⟨n + 1, resumed_succ calm n ▸ walks_eq, resumed_succ calm n ▸ last⟩

theorem resumed_add (s : CounterState) (n m : Nat) :
    resumed config s (n + m) = resumed config (resumed config s n) m := by
  induction n generalizing s with
  | zero => simp [resumed]
  | succ n ih =>
    rw [succ_add]
    exact ih _

private theorem Continues.trans {between : List Walk} (first : Continues config s between)
    (second : ∀ s', s'.Calm config → s'.walks = between → Continues config s' walks) :
    Continues config s walks := by
  obtain ⟨n, walks_eq, middle⟩ := first
  obtain ⟨m, last_walks, last⟩ := second _ middle walks_eq
  exact ⟨n + m, resumed_add s n m ▸ last_walks, resumed_add s n m ▸ last⟩

private theorem actions_end {table : Nat} (later : ∀ s' : CounterState, s'.Calm config →
      s'.walks = { counter, position := .tables rest } :: walks → Continues config s' walks)
    (actions : List TableAction) (calm : s.Calm config)
    (open_walk : s.walks = { counter, position := .tableAction table actions rest } :: walks) :
    Continues config s walks := by
  induction actions generalizing s with
  | nil =>
    refine .step calm (later _ (resume_calm calm) ?_)
    rw [resume, open_walk]
    exact moveTo_walks _ ((schTblUpdateState_tablesOnly config s table).walks.trans open_walk) _
  | cons action actions ih =>
    refine .step calm (ih (resume_calm calm) ?_)
    rw [resume, open_walk]
    exact moveTo_walks s open_walk _

private theorem tables_end (counter : Nat) (rest : List Nat) (calm : s.Calm config)
    (open_walk : s.walks = { counter, position := .tables rest } :: walks) :
    Continues config s walks := by
  induction rest generalizing s with
  | nil =>
    refine .step calm ?_
    have later := Continues.here (resume_calm calm)
    rw [resume, open_walk] at later ⊢
    exact later
  | cons table rest ih =>
    refine .step calm ?_
    have next := resume_calm calm
    generalize resumes : resume config s = outcome at next ⊢
    cases resume_resumes resumes with
    | rests none_open => cases none_open.symm.trans open_walk
    | glides here glides =>
      cases here.symm.trans open_walk
      cases glides with
      | tablePassed => exact ih next (moveTo_walks s open_walk _)
      | pointReached => exact actions_end (fun _ => ih) _ next (moveTo_walks s open_walk _)
    | updates here ends =>
      cases here.symm.trans open_walk
      rcases ends with acting | ⟨met, -⟩
      · cases acting
      · cases met
        have updated := (schTblUpdateState_tablesOnly config s table).walks.trans open_walk
        exact ih next (moveTo_walks _ updated _)
    | nests here | processes here | leaves here => cases here.symm.trans open_walk

section

variable (later : ∀ s' : CounterState, s'.Calm config →
  s'.walks = { counter, position := .alarms rest } :: walks → Continues config s' walks)
variable (calm : s.Calm config)
include later calm

private theorem action_ends
    (open_walk : s.walks = { counter, position := .alarmAction alarm rest } :: walks) :
    Continues config s walks := by
  refine .step calm (later _ (resume_calm calm) ?_)
  rw [resume, open_walk]
  exact moveTo_walks _ ((alarmProcess_walks config s alarm).trans open_walk) _

private theorem increment_ends
    (nested : ∀ (s' : CounterState) (inner : Walk) (outer : List Walk), inner.counter = other →
      s'.Calm config → s'.walks = inner :: outer → Continues config s' outer)
    (open_walk : s.walks = { counter, position := .alarmIncrement alarm other rest } :: walks) :
    Continues config s walks := by
  refine .step calm ?_
  have next := resume_calm calm
  rw [resume, open_walk] at next ⊢
  simp only at next ⊢
  rcases incrementCounter_cases config (s.moveTo (.alarmAction alarm rest)) other with
    refused | begun
  · rw [refused] at next ⊢
    exact action_ends later next (moveTo_walks s open_walk _)
  · rw [begun] at next ⊢
    -- the inner walk ends first, then the action of the alarm
    refine (nested _ _ _ rfl next rfl).trans fun s' calm' walks_eq => ?_
    exact action_ends later calm' (walks_eq.trans (moveTo_walks s open_walk _))

end

section Acyclic

variable {rank : Nat → Nat}
  (acyclic : ∀ alarm other, (config.alarm alarm).action = .incrementCounter other →
    rank other < rank (config.alarmCounter alarm))
include acyclic

private theorem alarms_end
    (nested : ∀ (s' : CounterState) (inner : Walk) (outer : List Walk),
      rank inner.counter < rank counter → s'.Calm config → s'.walks = inner :: outer →
      Continues config s' outer)
    (rest : List Nat) (calm : s.Calm config)
    (open_walk : s.walks = { counter, position := .alarms rest } :: walks) :
    Continues config s walks := by
  induction rest generalizing s with
  | nil =>
    refine .step calm (tables_end counter (s.counters counter).schedList (resume_calm calm) ?_)
    rw [resume, open_walk]
    exact moveTo_walks s open_walk _
  | cons alarm rest ih =>
    have placed : _ ∧ ∀ other ∈ alarm :: rest, config.alarmCounter other = counter :=
      calm.sound.placed { counter, position := .alarms (alarm :: rest) } (open_walk ▸ mem_cons_self)
    refine .step calm ?_
    have next := resume_calm calm
    generalize resumes : resume config s = outcome at next ⊢
    cases resume_resumes resumes with
    | rests none_open => cases none_open.symm.trans open_walk
    | glides here glides =>
      cases here.symm.trans open_walk
      have moved := moveTo_walks s open_walk
      cases glides with
      | alarmPassed => exact ih next (moved _)
      | alarmExpired _ _ _ _ acts =>
        rcases acts with rfl | ⟨other, action, rfl⟩
        · exact action_ends (fun _ => ih) next (moved _)
        · have lower := acyclic alarm other action
          rw [placed.2 alarm mem_cons_self] at lower
          exact increment_ends (fun _ => ih) next
            (fun s' inner outer own => nested s' inner outer (own ▸ lower)) (moved _)
    | updates here ends =>
      cases here.symm.trans open_walk
      rcases ends with acting | ⟨met, -⟩
      · cases acting
      · cases met
    | nests here | processes here | leaves here => cases here.symm.trans open_walk

theorem walk_ends (bound : Nat) (low : rank walk.counter < bound) (calm : s.Calm config)
    (open_walk : s.walks = walk :: walks) : Continues config s walks := by
  induction bound generalizing s walk walks with
  | zero => omega
  | succ bound ih =>
    obtain ⟨counter, position⟩ := walk
    have nested : ∀ (s' : CounterState) (inner : Walk) (outer : List Walk),
        rank inner.counter < rank counter → s'.Calm config → s'.walks = inner :: outer →
        Continues config s' outer :=
      fun s' inner outer lower calm' open' => ih (by simp only at low; omega) calm' open'
    have alarms : ∀ (rest : List Nat) (s' : CounterState), s'.Calm config →
        s'.walks = { counter, position := .alarms rest } :: walks → Continues config s' walks :=
      fun rest s' => alarms_end acyclic nested rest
    cases position with
    | alarms rest => exact alarms rest s calm open_walk
    | alarmIncrement alarm other rest =>
      obtain ⟨action, -, own⟩ := calm.sound.placed _ (open_walk ▸ mem_cons_self)
      have lower := acyclic alarm other action
      rw [own alarm mem_cons_self] at lower
      exact increment_ends (alarms rest) calm
        (fun s' inner outer here => nested s' inner outer (here ▸ lower)) open_walk
    | alarmAction alarm rest => exact action_ends (alarms rest) calm open_walk
    | tables rest => exact tables_end counter rest calm open_walk
    | tableAction table actions rest =>
      exact actions_end (fun _ => tables_end counter rest) actions calm open_walk

theorem walks_end (calm : s.Calm config) : Continues config s [] := by
  generalize opened : s.walks = walks
  induction walks generalizing s with
  | nil => exact opened ▸ Continues.here calm
  | cons walk walks ih =>
    exact (walk_ends acyclic (rank walk.counter + 1) (lt_succ_self _) calm opened).trans
      fun s' calm' walks_eq => ih calm' walks_eq

end Acyclic

end Calm

end Os
