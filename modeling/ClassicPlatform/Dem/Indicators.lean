import ClassicPlatform.Dem.Types

/-!
# Indicators

Each event has a list of indicators, each with a failure counter that requests it and a healing
counter that takes the request back. The copy for the non-volatile memory is left out.
-/
namespace Dem

section

variable (config : Config) (event : Nat)

/-- The indicators of an event that are handled. -/
def Config.indicatorsOf : List IndicatorAttribute :=
  if (config.event event).indicatorValid then (config.event event).indicatorAttributes else []

variable (indicators : Nat → IndicatorStatus) (own : IndicatorAttribute)

/-- The failure cycle of an indicator, by `IndicatorFailureCycleSource`. -/
def Config.indicatorFailureCycle : Nat :=
  match own.ownFailureCycle with
  | some (cycle, _) => cycle
  | none => (config.event event).failureCycleRef

def Config.indicatorFailureThreshold : Nat :=
  match own.ownFailureCycle with
  | some (_, threshold) => threshold
  | none => (config.event event).failureCycleCounterThreshold

def indicatorFailFulfilled : Bool :=
  decide (config.indicatorFailureCycle event own < operationCycleIdEndmark) &&
    decide (config.indicatorFailureThreshold event own ≤
      (indicators own.indicatorBufferIndex).failureCounter)

def warningIndicatorOnCriteriaFulfilled : Bool :=
  (config.indicatorsOf event).any (indicatorFailFulfilled config event indicators)

def eventActivatesMIL : Bool :=
  (config.indicatorsOf event).any fun own =>
    own.indicatorId == config.milIndicatorId && indicatorFailFulfilled config event indicators own

def setIndicator (change : IndicatorStatus → IndicatorStatus) : Nat → IndicatorStatus :=
  Function.update indicators own.indicatorBufferIndex (change (indicators own.indicatorBufferIndex))

def resetIndicatorCounters : Nat → IndicatorStatus :=
  (config.indicatorsOf event).foldl (fun indicators own => setIndicator indicators own fun _ => {})
    indicators

end

section

variable (config : Config) (s : State) (event : Nat)

/-- `handleHealingCounterOnFailed`: whether the failure clears the healing counter. -/
def clearsHealingCounter (own : IndicatorAttribute) : Bool :=
  match config.healingClear with
  | .failDuringFailureCycle =>
    s.operationCycleIsStarted (config.indicatorFailureCycle event own)
  | .failDuringFailureOrHealingCycle =>
    s.operationCycleIsStarted (config.indicatorFailureCycle event own) ||
      s.operationCycleIsStarted own.healingCycle
  | .allFail => true

/-- A failure, in `handleIndicators`. -/
def indicatorOnFailed (own : IndicatorAttribute) (indicator : IndicatorStatus) :
    IndicatorStatus :=
  let counted :=
    if s.operationCycleIsStarted (config.indicatorFailureCycle event own) then
      { indicator with
        failureCounter :=
          if !indicator.failedDuringFailureCycle && decide (indicator.failureCounter < counterMax)
          then indicator.failureCounter + 1 else indicator.failureCounter
        failedDuringFailureCycle := true }
    else indicator
  let flagged :=
    if s.operationCycleIsStarted own.healingCycle then
      { counted with failedDuringHealingCycle := true }
    else counted
  if clearsHealingCounter config s event own then { flagged with healingCounter := 0 } else flagged

/-- A passed test, in `handleIndicators`. -/
def indicatorOnPassed (own : IndicatorAttribute) (indicator : IndicatorStatus) :
    IndicatorStatus :=
  let flagged :=
    if s.operationCycleIsStarted (config.indicatorFailureCycle event own) then
      { indicator with passedDuringFailureCycle := true }
    else indicator
  if s.operationCycleIsStarted own.healingCycle then
    { flagged with passedDuringHealingCycle := true }
  else flagged

/-- The loop of `handleIndicators`. -/
def countIndicators (status : EventStatus) : Nat → IndicatorStatus :=
  (config.indicatorsOf event).foldl (fun indicators own =>
    match status with
    | .failed => setIndicator indicators own (indicatorOnFailed config s event own)
    | .passed => setIndicator indicators own (indicatorOnPassed config s event own)
    | _ => indicators) s.indicators

def handleIndicators (status : EventStatus) : State :=
  let indicators := countIndicators config s event status
  let record := s.status event
  let bits := record.eventStatusExtended
  { s with indicators := indicators }.setStatus event
    { record with
      eventStatusExtended :=
        { bits with
          warningIndicatorRequested := bits.warningIndicatorRequested ||
            warningIndicatorOnCriteriaFulfilled config event indicators } }

/-- The turn of one indicator in `indicatorOpCycleEnd`. -/
def indicatorCycleEnd (cycle : Nat) (indicators : Nat → IndicatorStatus)
    (own : IndicatorAttribute) : Nat → IndicatorStatus :=
  let healed :=
    setIndicator indicators own fun indicator =>
      if cycle == own.healingCycle && !indicator.failedDuringHealingCycle &&
          indicator.passedDuringHealingCycle && indicatorFailFulfilled config event indicators own
      then
        let healingCounter :=
          if indicator.healingCounter < counterMax then indicator.healingCounter + 1
          else indicator.healingCounter
        { indicator with
          healingCounter := healingCounter
          failureCounter :=
            if own.healingCycleThreshold ≤ healingCounter then 0 else indicator.failureCounter }
      else indicator
  setIndicator healed own fun indicator =>
    if cycle == config.indicatorFailureCycle event own && !indicator.failedDuringFailureCycle &&
        indicator.passedDuringFailureCycle && !indicatorFailFulfilled config event healed own
    then { indicator with failureCounter := 0 }
    else indicator

def indicatorOpCycleEnd (cycle : Nat) : State :=
  if (config.indicatorsOf event).isEmpty then s
  else
    let indicators :=
      (config.indicatorsOf event).foldl (indicatorCycleEnd config event cycle) s.indicators
    let record := s.status event
    let bits := record.eventStatusExtended
    { s with indicators := indicators }.setStatus event
      { record with
        eventStatusExtended :=
          { bits with
            warningIndicatorRequested := bits.warningIndicatorRequested &&
              warningIndicatorOnCriteriaFulfilled config event indicators } }

/-- The turn of one indicator in `indicatorOpCycleStart`, also for an event whose indicators are
not valid. -/
def indicatorCycleStart (cycle : Nat) (indicators : Nat → IndicatorStatus)
    (own : IndicatorAttribute) : Nat → IndicatorStatus :=
  setIndicator indicators own fun indicator =>
    let healing :=
      if cycle == own.healingCycle then
        { indicator with failedDuringHealingCycle := false, passedDuringHealingCycle := false }
      else indicator
    if cycle == config.indicatorFailureCycle event own then
      { healing with failedDuringFailureCycle := false, passedDuringFailureCycle := false }
    else healing

end

def indicatorOpCycleStart (config : Config) (s : State) (cycle : Nat) : State :=
  { s with
    indicators := config.events.foldl (fun indicators event =>
      (config.event event).indicatorAttributes.foldl (indicatorCycleStart config event cycle)
        indicators) s.indicators }

end Dem
