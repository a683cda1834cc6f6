import Mathlib.Data.Int.NatAbs
import Mathlib.Tactic.Common

/-!
# Watchdog manager

Data model and services of `WdgM.c`. The arrays of the configuration that only give a
value for an id are functions, with the lengths that the services check. The runtime
arrays have the lengths of the configuration. Development errors, the reports to the
event manager and the mode switches of the RTE are left out, as is the reset of the
controller in `WdgM_MainFunction`.

The supervised entities of a mode are in the order of their ids, which `WdgM_SetMode`
relies on. A mode's id is its place in the array of modes.
-/
namespace WdgM

open Function

inductive LocalStatus
  | ok
  | failed
  | expired
  | deactivated
  deriving DecidableEq, Repr

inductive GlobalStatus
  | ok
  | failed
  | expired
  | stopped
  | deactivated
  deriving DecidableEq, Repr

inductive Substate
  | incorrect
  | correct
  deriving DecidableEq, Repr

inductive WdgIfMode
  | offMode
  | slowMode
  | fastMode
  deriving DecidableEq, Repr

/-! ## Configuration -/

structure Trigger where
  triggerConditionValue : Nat
  watchdogMode : WdgIfMode
  watchdogId : Nat

structure AliveSupervision where
  checkpointId : Nat
  expectedAliveIndications : Nat
  minMargin : Nat
  maxMargin : Nat
  supervisionReferenceCycle : Nat

structure DeadlineSupervision where
  checkpointIdStart : Nat
  checkpointIdFinish : Nat
  deadlineMin : Nat
  deadlineMax : Nat

structure InternalTransition where
  checkpointIdSource : Nat
  checkpointIdDestination : Nat

structure SupervisedEntity where
  lengthCheckpointIds : Nat
  transitions : List InternalTransition
  startCheckpointIds : List Nat
  finalCheckpointIds : List Nat

structure SEConfiguration where
  supervisedEntityId : Nat
  checkInternalLogic : Bool
  aliveSupervisions : List AliveSupervision
  deadlineSupervisions : List DeadlineSupervision
  failedAliveSupervisionReferenceCycleTol : Nat
  osCounter : Nat

structure Mode where
  expiredSupervisionCycleTol : Nat
  seConfigurations : List SEConfiguration
  triggers : List Trigger
  sorted : (seConfigurations.map (·.supervisedEntityId)).Pairwise (· < ·)

/-- `ticksPerSecond` is `WDGM_OSTICKSPERSECOND`; `counterMax` are the maximal values of the
counters of the operating system. -/
structure Config where
  lengthSupervisedEntities : Nat
  supervisedEntity : Nat → SupervisedEntity
  lengthWatchdogs : Nat
  watchdogDeviceId : Nat → Nat
  initialModeId : Nat
  lengthModes : Nat
  mode : Nat → Mode
  offModeEnabled : Bool
  ticksPerSecond : Nat
  counterMax : Nat → Nat
  known : ∀ mode_id, ∀ conf ∈ (mode mode_id).seConfigurations,
    conf.supervisedEntityId < lengthSupervisedEntities
  few : lengthSupervisedEntities < 2 ^ 16

/-! ## Runtime data -/

structure RuntimeAlive where
  aliveCounter : Nat
  supervisionCycleCounter : Nat
  wasEvaluated : Bool
  deriving DecidableEq, Repr

structure RuntimeSE where
  localState : LocalStatus
  substateAlive : Substate
  substateDeadline : Substate
  substateLogical : Substate
  isInternalGraphActive : Bool
  previousCheckpointId : Nat
  failedAliveCyclesCounter : Nat
  deriving DecidableEq, Repr

/-- `lastTickValue` are the time stamps of the deadline supervisions. -/
structure RuntimeSEConfig where
  aliveSupervisions : Nat → RuntimeAlive
  lastTickValue : Nat → Nat

structure RuntimeMode where
  seConfigs : Nat → RuntimeSEConfig
  expiredSupervisionCycleCounter : Nat

structure State where
  isInitiated : Bool
  globalState : GlobalStatus
  currentMode : Nat
  resetInitiated : Bool
  isFirstExpiredSet : Bool
  firstExpiredSEID : BitVec 16
  firstExpiredSEIDInverse : BitVec 16
  ses : Nat → RuntimeSE
  modes : Nat → RuntimeMode

inductive Event
  | setMode (device : Nat) (mode : WdgIfMode)
  | setTriggerCondition (device value : Nat)
  | returned (ok : Bool)
  deriving DecidableEq, Repr

abbrev Outcome := State × List Event

namespace State

def setSE (s : State) (se : Nat) (value : RuntimeSE) : State :=
  { s with ses := update s.ses se value }

def setSEConfig (s : State) (mode index : Nat) (value : RuntimeSEConfig) : State :=
  { s with
    modes := update s.modes mode
      { s.modes mode with seConfigs := update (s.modes mode).seConfigs index value } }

/-- The runtime data of an entity's configuration in the current mode. -/
def seConfig (s : State) (index : Nat) : RuntimeSEConfig := (s.modes s.currentMode).seConfigs index

end State

/-! ## Alive supervision -/

def toSint16 (value : Int) : Int := Int.bmod value (2 ^ 16)

/-- `WdgM_internal_SpecAliveAlgo`. -/
def specAliveAlgo (alive : AliveSupervision) (runtime : RuntimeAlive) :
    Substate × RuntimeAlive :=
  let temp := toSint16 (toSint16 runtime.aliveCounter - toSint16 alive.expectedAliveIndications)
  (if temp ≤ alive.maxMargin ∧ -alive.minMargin ≤ temp then .correct else .incorrect,
    { runtime with aliveCounter := 0, supervisionCycleCounter := 0 })

/-- `WdgM_internal_IsAliveHold`, with the increment of the cycle counter before it. -/
def isAliveHold (alive : AliveSupervision) (runtime : RuntimeAlive) : Substate × RuntimeAlive :=
  let runtime :=
    { runtime with
      supervisionCycleCounter := (runtime.supervisionCycleCounter + 1) % 2 ^ 16
      wasEvaluated := false }
  if alive.supervisionReferenceCycle = 1 ∨
      runtime.supervisionCycleCounter = alive.supervisionReferenceCycle then
    let (result, runtime) := specAliveAlgo alive runtime
    (result, { runtime with wasEvaluated := true })
  else (.correct, runtime)

/-- The inner loop of `WdgM_internal_CheckAlives`: the result, and whether a supervision was
evaluated. -/
def checkAliveSupervisions :
    List (AliveSupervision × Nat) → RuntimeSEConfig → Substate × Bool × RuntimeSEConfig
  | [], runtime => (.correct, false, runtime)
  | (alive, index) :: rest, runtime =>
    let (result, updated) := isAliveHold alive (runtime.aliveSupervisions index)
    let runtime :=
      { runtime with
        aliveSupervisions := update runtime.aliveSupervisions index updated }
    let (later, evaluated, runtime) := checkAliveSupervisions rest runtime
    (if result = .incorrect then .incorrect else later, updated.wasEvaluated || evaluated, runtime)

variable (config : Config) (s : State) (mode : Nat) (answers : Nat → Bool)

/-- One turn of `WdgM_internal_CheckAlives`. -/
def checkAlivesTurn (entry : SEConfiguration × Nat) : State :=
  let (conf, index) := entry
  let (result, evaluated, runtime) :=
    checkAliveSupervisions conf.aliveSupervisions.zipIdx (s.seConfig index)
  let s := s.setSEConfig s.currentMode index runtime
  if evaluated then
    s.setSE conf.supervisedEntityId { s.ses conf.supervisedEntityId with substateAlive := result }
  else s

/-- The entities of the current mode, with their places. -/
def currentEntries : List (SEConfiguration × Nat) :=
  (config.mode s.currentMode).seConfigurations.zipIdx

def checkAlives : State :=
  (currentEntries config s).foldl checkAlivesTurn s

variable (se : RuntimeSE) (conf : SEConfiguration) (runtime : RuntimeSEConfig)

/-- `WdgM_internal_AliveMonitoring`. -/
def aliveMonitoring (cpId : Nat) : RuntimeSEConfig :=
  match conf.aliveSupervisions.findIdx? (·.checkpointId == cpId) with
  | some index =>
    let alive := runtime.aliveSupervisions index
    { runtime with
      aliveSupervisions := update runtime.aliveSupervisions index
        { alive with aliveCounter := (alive.aliveCounter + 1) % 2 ^ 32 } }
  | none => runtime

/-! ## Deadline supervision -/

/-- The values of the counter when a deadline supervision reads it: at its start, and at its
finish. -/
structure Reading where
  start : Nat
  finish : Nat

def osCounterDiff (curr old max : Nat) : Nat :=
  if old ≤ curr then curr - old else (curr + (max - old) + 1) % 2 ^ 32

/-- The comparison of `WdgM_internalIsDeadlineHold`, for the time that has elapsed. -/
def isDeadlineHold (deadline : DeadlineSupervision) (elapsed : Nat) : Bool :=
  deadline.deadlineMin * config.ticksPerSecond % 2 ^ 32 ≤ elapsed &&
    elapsed ≤ deadline.deadlineMax * config.ticksPerSecond % 2 ^ 32

def RuntimeSEConfig.setLastTick (index value : Nat) : RuntimeSEConfig :=
  { runtime with lastTickValue := update runtime.lastTickValue index value }

/-- The loop of `WdgM_internal_DeadlineMonitoring`. -/
def deadlineMonitoring (config : Config) (osCounter cpId : Nat) (readings : Nat → Reading) :
    List (DeadlineSupervision × Nat) → RuntimeSEConfig → Substate × RuntimeSEConfig
  | [], runtime => (.correct, runtime)
  | (deadline, index) :: rest, runtime =>
    let runtime :=
      if deadline.checkpointIdStart = cpId then runtime.setLastTick index (readings index).start
      else runtime
    if deadline.checkpointIdFinish = cpId ∧ runtime.lastTickValue index ≠ 0 then
      let now := (readings index).finish
      let elapsed :=
        osCounterDiff now (runtime.lastTickValue index) (config.counterMax osCounter)
      if isDeadlineHold config deadline elapsed then
        deadlineMonitoring config osCounter cpId readings rest (runtime.setLastTick index 0)
      -- the loop is left before the time stamp is cleared
      else (.incorrect, runtime.setLastTick index now)
    else deadlineMonitoring config osCounter cpId readings rest runtime

/-! ## Logical supervision -/

/-- `WdgM_internal_LogicalMonitoring`, with the two functions for an active and an inactive
graph. -/
def logicalMonitoring (entity : SupervisedEntity) (se : RuntimeSE) (cpId : Nat) :
    Substate × RuntimeSE :=
  if se.isInternalGraphActive then
    if entity.transitions.any fun transition =>
        transition.checkpointIdSource == se.previousCheckpointId &&
          transition.checkpointIdDestination == cpId then
      (.correct,
        { se with
          previousCheckpointId := cpId
          isInternalGraphActive := !entity.finalCheckpointIds.contains cpId })
    else (.incorrect, se)
  else if entity.startCheckpointIds.contains cpId then
    (.correct, { se with isInternalGraphActive := true, previousCheckpointId := cpId })
  else (.incorrect, se)

/-- The configuration of an entity in the current mode. -/
def findEntry (seId : Nat) : Option (SEConfiguration × Nat) :=
  (currentEntries config s).find? fun entry => entry.1.supervisedEntityId == seId

/-- `WdgM_CheckpointReached` once the configuration has been found. -/
def superviseCheckpoint (entry : SEConfiguration × Nat)
    (seId cpId : Nat) (readings : Nat → Reading) : State :=
  let (conf, index) := entry
  let runtime := aliveMonitoring conf (s.seConfig index) cpId
  let (deadline, runtime) :=
    deadlineMonitoring config conf.osCounter cpId readings conf.deadlineSupervisions.zipIdx runtime
  let s := s.setSEConfig s.currentMode index runtime
  let se := { s.ses seId with substateDeadline := deadline }
  if conf.checkInternalLogic then
    let (logical, se) := logicalMonitoring (config.supervisedEntity seId) se cpId
    s.setSE seId { se with substateLogical := logical }
  else s.setSE seId se

def checkpointReached (seId cpId : Nat) (readings : Nat → Reading) : Outcome :=
  if !s.isInitiated then (s, [.returned false])
  else if config.lengthSupervisedEntities ≤ seId then (s, [.returned false])
  else if (config.supervisedEntity seId).lengthCheckpointIds ≤ cpId then (s, [.returned false])
  else if (s.ses seId).localState = .deactivated then (s, [.returned false])
  else
    match findEntry config s seId with
    | none => (s, [.returned false])
    | some entry => (superviseCheckpoint config s entry seId cpId readings, [.returned true])

/-! ## Local and global status -/

def Substate.value : Substate → Nat
  | .incorrect => 0
  | .correct => 1

/-- `WdgM_internal_CalculateLocalState_FromFailedNoError`. -/
def fromFailedNoError : RuntimeSE :=
  if 1 < se.failedAliveCyclesCounter then
    { se with failedAliveCyclesCounter := se.failedAliveCyclesCounter - 1 }
  else { se with failedAliveCyclesCounter := 0, localState := .ok }

/-- `WdgM_internal_CalculateLocalState_FromOKOneError`. -/
def fromOKOneError : RuntimeSE :=
  let se :=
    if se.substateAlive = .incorrect then
      { se with
        localState := .failed
        failedAliveCyclesCounter := (se.failedAliveCyclesCounter + 1) % 2 ^ 8 }
    else se
  if conf.failedAliveSupervisionReferenceCycleTol < se.failedAliveCyclesCounter ∨
      se.substateAlive = .correct then { se with localState := .expired }
  else se

/-- `WdgM_internal_CalculateLocalState_FromFailedOneError`. -/
def fromFailedOneError : RuntimeSE :=
  let wasEval := (List.range conf.aliveSupervisions.length).any fun index =>
    (runtime.aliveSupervisions index).wasEvaluated
  let se :=
    if se.substateAlive = .incorrect ∧ wasEval then
      { se with failedAliveCyclesCounter := (se.failedAliveCyclesCounter + 1) % 2 ^ 8 }
    else se
  if conf.failedAliveSupervisionReferenceCycleTol < se.failedAliveCyclesCounter then
    { se with localState := .expired }
  else se

def nrOfCorrectSubstates : Nat :=
  se.substateAlive.value + se.substateDeadline.value + se.substateLogical.value

def calculateLocalState : RuntimeSE :=
  match nrOfCorrectSubstates se with
  | 3 => if se.localState = .failed then fromFailedNoError se else se
  | 2 =>
    if se.localState = .ok then fromOKOneError se conf
    else if se.localState = .failed then fromFailedOneError se conf runtime
    else se
  | _ => { se with localState := .expired }

/-- An entity of the current mode after its evaluation. -/
def localAfter (entry : SEConfiguration × Nat) : RuntimeSE :=
  calculateLocalState (s.ses entry.1.supervisedEntityId) entry.1 (s.seConfig entry.2)

/-- The counters of the loop of `WdgM_internal_CalculateGlobalState`. -/
structure Tally where
  state : State
  expired : Nat
  failed : Nat

/-- One turn of the loop of `WdgM_internal_CalculateGlobalState`. -/
def calculateTurn (tally : Tally) (entry : SEConfiguration × Nat) : Tally :=
  let se := localAfter tally.state entry
  let s := tally.state.setSE entry.1.supervisedEntityId se
  if se.localState = .expired then
    { tally with
      state :=
        if s.isFirstExpiredSet then s
        else
          { s with
            firstExpiredSEID := BitVec.ofNat 16 entry.2
            firstExpiredSEIDInverse := ~~~ BitVec.ofNat 16 entry.2
            isFirstExpiredSet := true }
      expired := tally.expired + 1 }
  else if se.localState = .failed then { tally with state := s, failed := tally.failed + 1 }
  else { tally with state := s }

/-- The cycles for which the current mode tolerates expired entities are not over. -/
def tolerates : Bool :=
  (s.modes s.currentMode).expiredSupervisionCycleCounter <
    (config.mode s.currentMode).expiredSupervisionCycleTol

def updateFromGlobalOK (expired failed : Nat) : State :=
  let s := if 0 < failed then { s with globalState := .failed } else s
  if 0 < expired then
    if tolerates config s then { s with globalState := .expired }
    else { s with globalState := .stopped }
  else s

def updateFromGlobalFAILED (expired failed : Nat) : State :=
  if failed = 0 ∧ expired = 0 then { s with globalState := .ok }
  else if 0 < expired then
    if tolerates config s then { s with globalState := .expired }
    else { s with globalState := .stopped }
  else s

def updateFromGlobalEXPIRED (expired : Nat) : State :=
  if 0 < expired then
    if tolerates config s then
      let mode := s.modes s.currentMode
      { s with
        modes := update s.modes s.currentMode
          { mode with
            expiredSupervisionCycleCounter := mode.expiredSupervisionCycleCounter + 1 } }
    else { s with globalState := .stopped }
  else s

/-- The loop of `WdgM_internal_CalculateGlobalState`. -/
def calculateLocalStates : Tally :=
  (currentEntries config s).foldl calculateTurn { state := s, expired := 0, failed := 0 }

def calculateGlobalState : State :=
  let tally := calculateLocalStates config s
  let s := tally.state
  match s.globalState with
  | .ok => updateFromGlobalOK config s tally.expired tally.failed
  | .failed => updateFromGlobalFAILED config s tally.expired tally.failed
  | .expired => updateFromGlobalEXPIRED config s tally.expired
  | .stopped | .deactivated => s

/-- The triggers that `WdgM_MainFunction` sets. -/
def mainTriggers : List Event :=
  (config.mode s.currentMode).triggers.filterMap fun trigger =>
    if trigger.watchdogMode ≠ .offMode ∧ s.resetInitiated = false then
      some (.setTriggerCondition (config.watchdogDeviceId trigger.watchdogId)
        (if s.globalState = .stopped then 0 else trigger.triggerConditionValue))
    else none

def mainFunction : Outcome :=
  if !s.isInitiated then (s, [])
  else
    let s := calculateGlobalState config (checkAlives config s)
    (s, mainTriggers config s)

/-! ## Modes -/

/-- `WdgM_internal_isAtLeastOneWdogEnabled`, which is not asked if the off mode is enabled. -/
def isAtLeastOneWdogEnabled : Bool :=
  config.offModeEnabled || (config.mode mode).triggers.any (·.watchdogMode != .offMode)

/-- The loop over the triggers of a mode that sets the modes of the watchdogs. `answers` says
which calls of `WdgIf_SetMode` succeed; the loop ends at the first that does not. `arms` tells
activation from deactivation. -/
def switchTriggers (config : Config) (arms : Bool) (answers : Nat → Bool) :
    List (Trigger × Nat) → State → Outcome × Bool
  | [], s => ((s, []), true)
  | (trigger, index) :: rest, s =>
    let device := config.watchdogDeviceId trigger.watchdogId
    let mode := if arms then trigger.watchdogMode else .offMode
    if answers index then
      let trigger_event :=
        if arms ∧ trigger.watchdogMode ≠ .offMode ∧ s.resetInitiated = false then
          [.setTriggerCondition device trigger.triggerConditionValue]
        else []
      let ((last, events), ok) := switchTriggers config arms answers rest s
      ((last, .setMode device mode :: trigger_event ++ events), ok)
    else (({ s with globalState := .stopped }, [.setMode device mode]), false)

def deactivateCurrentTriggers : Outcome × Bool :=
  switchTriggers config false answers (config.mode s.currentMode).triggers.zipIdx s

def activateTriggers : Outcome × Bool :=
  switchTriggers config true answers (config.mode mode).triggers.zipIdx s

/-- What `WdgM_internal_DeactivateAndResetSE` leaves of an entity. -/
def resetSE : RuntimeSE where
  localState := .deactivated
  substateAlive := .correct
  substateDeadline := .correct
  substateLogical := .correct
  isInternalGraphActive := false
  previousCheckpointId := 0
  failedAliveCyclesCounter := 0

def deactivateAndResetSE (se : Nat) : State := s.setSE se resetSE

/-- `WdgM_internal_ResetSEConfigsForMode`. -/
def resetSEConfigsForMode : State :=
  { s with
    modes := update s.modes mode
      { seConfigs := fun index =>
          { aliveSupervisions := fun alive =>
              { ((s.modes mode).seConfigs index).aliveSupervisions alive with
                aliveCounter := 0
                supervisionCycleCounter := 0 }
            lastTickValue := fun _ => 0 }
        expiredSupervisionCycleCounter := 0 } }

/-- Deactivates the entities from one id up to another, which is left out. -/
def deactivateUntil (first until_id : Nat) : State :=
  (List.range' first (until_id - first)).foldl deactivateAndResetSE s

def activateSE (se : Nat) : State :=
  s.setSE se { s.ses se with localState := .ok }

/-- The loop of `WdgM_SetMode` over the configurations of the new mode, from `seIndex` on. -/
def switchEntities (config : Config) : List SEConfiguration → Nat → State → State
  | [], seIndex, s => deactivateUntil s seIndex config.lengthSupervisedEntities
  | conf :: rest, seIndex, s =>
    let s := deactivateUntil s seIndex conf.supervisedEntityId
    let seIndex := max seIndex conf.supervisedEntityId
    let s := if (s.ses seIndex).localState = .deactivated then activateSE s seIndex else s
    switchEntities config rest (seIndex + 1) s

/-- The old triggers are deactivated and, if this succeeds, the new ones activated. `answers` are
those to the deactivation, `answers'` those to the activation. -/
def switchWatchdogs (answers answers' : Nat → Bool) : Outcome × Bool :=
  let ((s, events), ok) := deactivateCurrentTriggers config s answers
  if ok then
    let ((s, events'), ok) := activateTriggers config s mode answers'
    ((s, events ++ events'), ok)
  else ((s, events), false)

def setMode (answers answers' : Nat → Bool) : Outcome :=
  if !s.isInitiated then (s, [.returned false])
  else if config.lengthModes ≤ mode then (s, [.returned false])
  else if !isAtLeastOneWdogEnabled config mode then (s, [.returned false])
  else if s.globalState = .ok ∨ s.globalState = .failed then
    let s := switchEntities config (config.mode mode).seConfigurations 0 s
    let s := resetSEConfigsForMode s s.currentMode
    let ((s, events), ok) := switchWatchdogs config s mode answers answers'
    ({ s with currentMode := mode }, events ++ [.returned ok])
  else (s, [.returned true])

/-! ## Start and end -/

def init : Outcome :=
  if s.isInitiated then (s, [])
  else if !isAtLeastOneWdogEnabled config config.initialModeId then (s, [])
  else
    let s := (List.range config.lengthSupervisedEntities).foldl deactivateAndResetSE s
    let s := (config.mode config.initialModeId).seConfigurations.foldl
      (fun s conf => activateSE s conf.supervisedEntityId) s
    let s := resetSEConfigsForMode s config.initialModeId
    let s :=
      { s with
        globalState := .ok
        isFirstExpiredSet := false
        firstExpiredSEIDInverse := 0
        firstExpiredSEID := 0
        currentMode := config.initialModeId
        resetInitiated := false }
    let ((s, events), ok) := activateTriggers config s config.initialModeId answers
    if ok then ({ s with isInitiated := true }, events) else (s, events)

/-- The trigger conditions of all watchdogs are set to zero, unless this has been done. -/
def clearTriggers : List Event :=
  if s.resetInitiated then []
  else
    (List.range config.lengthWatchdogs).map fun watchdog =>
      .setTriggerCondition (config.watchdogDeviceId watchdog) 0

def deInit : Outcome :=
  if !s.isInitiated then (s, [])
  else if s.globalState = .ok then
    let s := { s with globalState := .deactivated }
    let ((s, events), ok) := deactivateCurrentTriggers config s answers
    if ok then ({ s with isInitiated := false }, events ++ clearTriggers config s)
    else (s, events)
  else (s, [])

def performReset : Outcome :=
  if !s.isInitiated then (s, [])
  else ({ s with resetInitiated := true }, clearTriggers config s)

/-- `WdgM_GetFirstExpiredSEID`: the return value and the id. -/
def getFirstExpiredSEID : Bool × Nat :=
  if ~~~ s.firstExpiredSEID = s.firstExpiredSEIDInverse then (true, s.firstExpiredSEID.toNat)
  else (false, 0)

inductive Call
  | checkpointReached (seId cpId : Nat) (readings : Nat → Reading)
  | mainFunction
  | setMode (mode : Nat) (answers answers' : Nat → Bool)
  | deInit (answers : Nat → Bool)
  | performReset

def step : Call → Outcome
  | .checkpointReached seId cpId readings => checkpointReached config s seId cpId readings
  | .mainFunction => mainFunction config s
  | .setMode mode answers answers' => setMode config s mode answers answers'
  | .deInit answers => deInit config s answers
  | .performReset => performReset config s

end WdgM
