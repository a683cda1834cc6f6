import Mathlib.Algebra.GroupWithZero.Nat
import Mathlib.Logic.Function.Basic
import Mathlib.Tactic.Common

/-!
# Counters, alarms and schedule tables

Data model and services of `os_counter.c`, `os_alarm.c` and `os_sched_table.c` for one
core. `TickType` is `uint32`. The services check their arguments only with extended
status (`OS_STATUS_EXTENDED`); the check for disabled interrupts, the access checks
between applications and the synchronisation of schedule tables (scalability classes
2 and 4) are left out. An increment of a counter walks along the alarms and then along
the schedule tables of the counter. An expiry action that activates a task or sets an
event may switch to another task in the middle of the walk. The walks that are not
finished are therefore part of the state: `resume` continues the latest one, and other
calls come in while an action is under way. The lists themselves never change after
`Os_CounterInit`, so a walk holds the elements that it has not reached yet.
-/
namespace Os

open Function

inductive StatusType
  | eOk
  | eOsAccess
  | eOsId
  | eOsLimit
  | eOsNofunc
  | eOsResource
  | eOsState
  | eOsValue
  deriving DecidableEq, Repr

inductive CounterType
  | hard
  | soft
  deriving DecidableEq, Repr

inductive AlarmAction
  | activateTask (task : Nat)
  | setEvent (task event : Nat)
  | alarmCallback
  | incrementCounter (counter : Nat)
  deriving DecidableEq, Repr

structure CounterConfig where
  type : CounterType
  maxallowedvalue : Nat
  mincycle : Nat

structure AlarmConfig where
  counter : Nat
  action : AlarmAction

/-- `OsScheduleTableExpiryPointType`. -/
structure ExpiryPoint where
  offset : Nat
  taskList : List Nat
  eventList : List (Nat × Nat)

structure TableConfig where
  counter : Nat
  duration : Nat
  repeating : Bool
  expirePointList : List ExpiryPoint

structure CounterSet where
  statusExtended : Bool
  counterCnt : Nat
  alarmCnt : Nat
  schtblCnt : Nat
  counter : Nat → CounterConfig
  alarm : Nat → AlarmConfig
  table : Nat → TableConfig

/-- `ScheduleTableStatusType`. -/
inductive TableState
  | stopped
  | next
  | waiting
  | running
  | runningAndSynchronous
  deriving DecidableEq, Repr

structure Counter where
  val : Nat
  alarmList : List Nat
  schedList : List Nat

structure Alarm where
  active : Bool
  expireVal : Nat
  cycletime : Nat

structure Table where
  state : TableState
  expireCurrIndex : Nat
  expireVal : Nat
  next : Option Nat

/-- What an expiry point still has to do. -/
inductive TableAction
  | activateTask (task : Nat)
  | setEvent (task event : Nat)
  deriving DecidableEq, Repr

/-- How far an increment has come; `rest` are the elements behind the present one. -/
inductive Position
  | alarms (rest : List Nat)
  | alarmIncrement (alarm counter : Nat) (rest : List Nat)
  | alarmAction (alarm : Nat) (rest : List Nat)
  | tables (rest : List Nat)
  | tableAction (table : Nat) (actions : List TableAction) (rest : List Nat)
  deriving DecidableEq, Repr

structure Walk where
  counter : Nat
  position : Position
  deriving DecidableEq, Repr

/-- `halted` is set when an assertion of the source fails. -/
structure CounterState where
  counters : Nat → Counter
  alarms : Nat → Alarm
  tables : Nat → Table
  walks : List Walk
  halted : Bool

inductive CounterEvent
  | returned (status : StatusType)
  | incremented (counter : Nat)
  | alarmSetRel (alarm increment cycle : Nat)
  | alarmSetAbs (alarm start cycle : Nat)
  | alarmCancelled (alarm : Nat)
  | alarmExpired (alarm : Nat)
  | alarmsChecked (counter : Nat)
  | tableStartedRel (table offset : Nat)
  | tableStartedAbs (table start : Nat)
  | tableStopped (table : Nat)
  | pointExpired (table index : Nat)
  | tableEnded (table : Nat)
  | tablesChecked (counter : Nat)
  deriving DecidableEq, Repr

abbrev CounterOutcome := CounterState × List CounterEvent

namespace CounterState

def setCounter (s : CounterState) (counter : Nat) (value : Counter) : CounterState :=
  { s with counters := update s.counters counter value }

def setAlarm (s : CounterState) (alarm : Nat) (value : Alarm) : CounterState :=
  { s with alarms := update s.alarms alarm value }

def setTable (s : CounterState) (table : Nat) (value : Table) : CounterState :=
  { s with tables := update s.tables table value }

/-- A failed `ASSERT` does not return. -/
def halt (s : CounterState) : CounterState := { s with halted := true }

end CounterState

/-! ## Arithmetic of counters -/

/-- `Os_CounterAdd`; the current value never exceeds the maximum. -/
def osCounterAdd (curr max add : Nat) : Nat :=
  if add ≤ max - curr then curr + add else add - (max - curr) - 1

/-- Difference of two `TickType` values. -/
def tickSub (a b : Nat) : Nat := (a + (2 ^ 32 - b)) % 2 ^ 32

def tickAdd (a b : Nat) : Nat := (a + b) % 2 ^ 32

namespace CounterSet

variable (config : CounterSet) (table : Nat)

def maxOf (counter : Nat) : Nat := (config.counter counter).maxallowedvalue

def alarmCounter (alarm : Nat) : Nat := (config.alarm alarm).counter

def tableCounter : Nat := (config.table table).counter

abbrev alarmMax (alarm : Nat) : Nat := config.maxOf (config.alarmCounter alarm)

abbrev tableMax : Nat := config.maxOf (config.tableCounter table)

def expirePointCnt : Nat :=
  (config.table table).expirePointList.length

def offset (table index : Nat) : Nat :=
  match (config.table table).expirePointList[index]? with
  | some point => point.offset
  | none => 0

/-- `Os_SchTblGetInitialOffset`. -/
def initialOffset : Nat := config.offset table 0

/-- `Os_SchTblGetFinalOffset`. -/
def finalOffset : Nat :=
  tickSub (config.table table).duration (config.offset table (config.expirePointCnt table - 1))

/-- The actions of an expiry point: tasks first, then events. -/
def pointActions (table index : Nat) : List TableAction :=
  match (config.table table).expirePointList[index]? with
  | some point =>
    point.taskList.map .activateTask ++ point.eventList.map fun (task, event) => .setEvent task event
  | none => []

end CounterSet

variable (config : CounterSet) (s : CounterState) (table : Nat)

/-- The parameter checks are made with extended status only. -/
def validate (ok : Bool) (error : StatusType) (s : CounterState)
    (body : CounterOutcome) : CounterOutcome :=
  if config.statusExtended && !ok then (s, [.returned error]) else body

/-! ## Alarms -/

/-- `Os_AlarmCheckCycle`. -/
def osAlarmCheckCycle (alarm cycle : Nat) : Bool :=
  let counter := config.counter (config.alarmCounter alarm)
  !(cycle != 0 && (cycle < counter.mincycle || counter.maxallowedvalue < cycle))

def setRelAlarm (alarm increment cycle : Nat) : CounterOutcome :=
  let max := config.alarmMax alarm
  validate config (alarm < config.alarmCnt) .eOsId s
    (validate config (!(increment == 0 || max < increment)) .eOsValue s
      (validate config (osAlarmCheckCycle config alarm cycle) .eOsValue s
        (if (s.alarms alarm).active then (s, [.returned .eOsState])
        else
          let val := (s.counters (config.alarmCounter alarm)).val
          (s.setAlarm alarm
            { s.alarms alarm with
              active := true
              expireVal := osCounterAdd val max increment
              cycletime := cycle },
            [.alarmSetRel alarm increment cycle, .returned .eOk]))))

def setAbsAlarm (alarm start cycle : Nat) : CounterOutcome :=
  let max := config.alarmMax alarm
  validate config (alarm < config.alarmCnt) .eOsId s
    (validate config (!(max < start)) .eOsValue s
      (validate config (osAlarmCheckCycle config alarm cycle) .eOsValue s
        (if (s.alarms alarm).active then (s, [.returned .eOsState])
        else
          (s.setAlarm alarm
            { s.alarms alarm with active := true, expireVal := start, cycletime := cycle },
            [.alarmSetAbs alarm start cycle, .returned .eOk]))))

def cancelAlarm (alarm : Nat) : CounterOutcome :=
  validate config (alarm < config.alarmCnt) .eOsId s
    (if !(s.alarms alarm).active then (s, [.returned .eOsNofunc])
    else
      (s.setAlarm alarm { s.alarms alarm with active := false },
        [.alarmCancelled alarm, .returned .eOk]))

def alarmProcess (alarm : Nat) : CounterState :=
  let a := s.alarms alarm
  if a.cycletime = 0 then s.setAlarm alarm { a with active := false }
  else
    let counter := config.alarmCounter alarm
    s.setAlarm alarm
      { a with
        expireVal := osCounterAdd (s.counters counter).val (config.maxOf counter) a.cycletime }

/-! ## Schedule tables -/

def startScheduleTableRel (table offset : Nat) : CounterOutcome :=
  let counter := config.tableCounter table
  let max := config.maxOf counter
  validate config (table < config.schtblCnt) .eOsId s
    (validate config (!(offset == 0 || max < tickAdd offset (config.initialOffset table)))
      .eOsValue s
      (validate config ((s.tables table).state == .stopped) .eOsState s
        (s.setTable table
          { s.tables table with
            expireVal :=
              osCounterAdd (s.counters counter).val max
                (tickAdd offset (config.initialOffset table))
            state := .running },
          [.tableStartedRel table offset, .returned .eOk])))

def startScheduleTableAbs (table start : Nat) : CounterOutcome :=
  validate config (table < config.schtblCnt) .eOsId s
    (validate config (start ≤ config.tableMax table) .eOsValue s
      (validate config ((s.tables table).state == .stopped) .eOsState s
        (s.setTable table
          { s.tables table with
            expireVal := tickAdd start (config.initialOffset table)
            state := .running },
          [.tableStartedAbs table start, .returned .eOk])))

def stopScheduleTable : CounterOutcome :=
  validate config (table < config.schtblCnt) .eOsId s
    (validate config ((s.tables table).state != .stopped) .eOsNofunc s
      (s.setTable table { s.tables table with state := .stopped },
        [.tableStopped table, .returned .eOk]))

/-- A table that was to be next before is stopped. -/
def stopEarlierNext (current : Nat) : CounterState :=
  match (s.tables current).next with
  | some old => s.setTable old { s.tables old with state := .stopped }
  | none => s

def setNext (current next : Nat) : CounterState :=
  let s := stopEarlierNext s current
  let s := s.setTable current { s.tables current with next := some next }
  s.setTable next { s.tables next with state := .next, expireCurrIndex := 0 }

def nextScheduleTable (current next : Nat) : CounterOutcome :=
  let state := (s.tables current).state
  validate config (current < config.schtblCnt) .eOsId s
    (validate config (next < config.schtblCnt) .eOsId s
      (validate config (config.tableCounter current == config.tableCounter next) .eOsId s
        (if state = .stopped ∨ state = .next then (s, [.returned .eOsNofunc])
        else
          validate config ((s.tables next).state == .stopped) .eOsState s
            (setNext s current next, [.returned .eOk]))))

/-- The branch of `Os_SchTblUpdateState` at the end of the table. -/
def schTblAtFinal : CounterOutcome :=
  let t := s.tables table
  let afterInitialOffset := fun tbl =>
    let counter := config.tableCounter tbl
    osCounterAdd (s.counters counter).val (config.maxOf counter) (config.initialOffset tbl)
  match t.next with
  | some next =>
    if (s.tables next).state ≠ .next then (s.halt, [])
    else
      let s := s.setTable table { t with state := .stopped, expireCurrIndex := 0 }
      (s.setTable next { s.tables next with state := .running, expireVal := afterInitialOffset next },
        [.tableEnded table])
  | none =>
    if (config.table table).repeating then
      (s.setTable table { t with expireVal := afterInitialOffset table, expireCurrIndex := 0 }, [])
    else
      (s.setTable table { t with state := .stopped, expireCurrIndex := 0 }, [.tableEnded table])

/-- The table waits for its next point, the virtual one at the end included. -/
def schTblNextPoint (table delta : Nat) : CounterOutcome :=
  let t := s.tables table
  let counter := config.tableCounter table
  (s.setTable table
    { t with
      expireVal := osCounterAdd (s.counters counter).val (config.maxOf counter) delta
      expireCurrIndex := t.expireCurrIndex + 1 }, [])

/-- `Os_SchTblUpdateState`. -/
def schTblUpdateState : CounterOutcome :=
  let index := (s.tables table).expireCurrIndex
  if index + 1 = config.expirePointCnt table then
    if config.finalOffset table ≠ 0 then
      schTblNextPoint config s table (config.finalOffset table)
    else if (config.table table).repeating then (s.halt, [])
    else schTblAtFinal config s table
  else if index = config.expirePointCnt table then schTblAtFinal config s table
  else
    schTblNextPoint config s table
      (tickSub (config.offset table (index + 1)) (config.offset table index))

/-! ## Increments -/

namespace CounterState

/-- The counter is advanced and the walk along its alarms begins. -/
def advance (config : CounterSet) (s : CounterState) (counter : Nat) : CounterState :=
  let c := s.counters counter
  let s := s.setCounter counter { c with val := osCounterAdd c.val (config.maxOf counter) 1 }
  { s with walks := { counter, position := .alarms c.alarmList } :: s.walks }

/-- The latest walk goes on from another position. -/
def moveTo (s : CounterState) (position : Position) : CounterState :=
  { s with
    walks :=
      match s.walks with
      | walk :: rest => { walk with position } :: rest
      | [] => [] }

end CounterState

/-- `IncrementCounter` up to the walk. -/
def incrementCounter (counter : Nat) : CounterOutcome :=
  validate config (counter < config.counterCnt) .eOsId s
    (validate config ((config.counter counter).type == .soft) .eOsId s
      (s.advance config counter, [.incremented counter]))

/-- One turn of the loop of `Os_AlarmCheck`, up to the action of an alarm that has expired. -/
def alarmCheckTurn (counter alarm : Nat) (rest : List Nat) : CounterOutcome :=
  let a := s.alarms alarm
  if a.active ∧ (s.counters counter).val = a.expireVal then
    match (config.alarm alarm).action with
    | .activateTask _ | .setEvent _ _ => (s.moveTo (.alarmAction alarm rest), [.alarmExpired alarm])
    -- callbacks are not implemented: the alarm is neither served nor set again
    | .alarmCallback => (s.moveTo (.alarms rest), [])
    | .incrementCounter other =>
      (s.moveTo (.alarmIncrement alarm other rest), [.alarmExpired alarm])
  else (s.moveTo (.alarms rest), [])

/-- One turn of the loop of `Os_SchTblCheck`, up to the actions of an expiry point. -/
def schTblCheckTurn (counter table : Nat) (rest : List Nat) : CounterOutcome :=
  let t := s.tables table
  if (t.state = .running ∨ t.state = .runningAndSynchronous) ∧
      (s.counters counter).val = t.expireVal then
    if t.expireCurrIndex < config.expirePointCnt table then
      (s.moveTo (.tableAction table (config.pointActions table t.expireCurrIndex) rest),
        [.pointExpired table t.expireCurrIndex])
    else
      let updated := schTblUpdateState config s table
      (updated.1.moveTo (.tables rest), updated.2)
  else (s.moveTo (.tables rest), [])

/-- The latest walk goes on: back from an action, or to the next element. -/
def resume : CounterOutcome :=
  match s.walks with
  | [] => (s, [])
  | { counter, position } :: walks =>
    match position with
    | .alarms [] => (s.moveTo (.tables (s.counters counter).schedList), [.alarmsChecked counter])
    | .alarms (alarm :: rest) => alarmCheckTurn config s counter alarm rest
    | .alarmIncrement alarm other rest =>
      incrementCounter config (s.moveTo (.alarmAction alarm rest)) other
    | .alarmAction alarm rest => ((alarmProcess config s alarm).moveTo (.alarms rest), [])
    | .tables [] => ({ s with walks }, [.tablesChecked counter])
    | .tables (table :: rest) => schTblCheckTurn config s counter table rest
    | .tableAction table (_ :: actions) rest => (s.moveTo (.tableAction table actions rest), [])
    | .tableAction table [] rest =>
      let updated := schTblUpdateState config s table
      (updated.1.moveTo (.tables rest), updated.2)

inductive CounterCall
  | incrementCounter (counter : Nat)
  | setRelAlarm (alarm increment cycle : Nat)
  | setAbsAlarm (alarm start cycle : Nat)
  | cancelAlarm (alarm : Nat)
  | startScheduleTableRel (table offset : Nat)
  | startScheduleTableAbs (table start : Nat)
  | stopScheduleTable (table : Nat)
  | nextScheduleTable (current next : Nat)
  deriving DecidableEq, Repr

inductive CounterStep
  | call (call : CounterCall)
  | osTick (counter : Nat)
  | resume
  deriving DecidableEq, Repr

/-- Task code can run: no walk is open, or the latest one is in an action that may have
switched to another task. -/
def CounterState.switched : Bool :=
  match s.walks with
  | [] => true
  | walk :: _ =>
    match walk.position with
    | .alarmAction alarm _ =>
      match (config.alarm alarm).action with
      | .activateTask _ | .setEvent _ _ => true
      | _ => false
    | .tableAction _ (_ :: _) _ => true
    | _ => false

def serve : CounterCall → CounterOutcome
  | .incrementCounter counter => incrementCounter config s counter
  | .setRelAlarm alarm increment cycle => setRelAlarm config s alarm increment cycle
  | .setAbsAlarm alarm start cycle => setAbsAlarm config s alarm start cycle
  | .cancelAlarm alarm => cancelAlarm config s alarm
  | .startScheduleTableRel table offset => startScheduleTableRel config s table offset
  | .startScheduleTableAbs table start => startScheduleTableAbs config s table start
  | .stopScheduleTable table => stopScheduleTable config s table
  | .nextScheduleTable current next => nextScheduleTable config s current next

/-- `OsTick` advances its counter without the checks of `IncrementCounter`. -/
def counterStep : CounterStep → CounterOutcome
  | .call call => if s.switched config ∧ !s.halted then serve config s call else (s, [])
  | .osTick counter =>
    if s.switched config ∧ !s.halted then (s.advance config counter, [.incremented counter])
    else (s, [])
  | .resume => if s.halted then (s, []) else resume config s

end Os
