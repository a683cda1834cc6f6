import ClassicPlatform.Dem.Memory

/-!
# Events, cycles and the life of an entry

Reports of monitors, starts and ends of cycles, aging, clearing, and the event time stamp at the
initialization.
-/
namespace Dem

open Function

/-! ## Reports -/

section

variable (config : Config) (event : Nat) (started : Nat → Bool)

def faultConfirmationCriteriaFulfilled (record : EventStatusRec) : Bool :=
  decide ((config.event event).failureCycleRef ≠ operationCycleIdEndmark) &&
    decide ((config.event event).failureCycleCounterThreshold ≤ record.failureCounter)

/-- `handleFaultConfirmation`; `started` says which cycles are started. -/
def handleFaultConfirmation (record : EventStatusRec) : EventStatusRec :=
  if started (config.event event).failureCycleRef && !record.failedDuringFailureCycle then
    let counted :=
      if record.failureCounter < counterMax then
        { record with failureCounter := record.failureCounter + 1, errorStatusChanged := true }
      else record
    let confirmed :=
      if faultConfirmationCriteriaFulfilled config event counted then
        { counted with
          eventStatusExtended := { counted.eventStatusExtended with confirmedDTC := true }
          errorStatusChanged := true }
      else counted
    { confirmed with failedDuringFailureCycle := true }
  else record

/-- Whether a failure clears the aging counter, in `handleAgingCounterOnFailed`. -/
def clearsAgingCounter : Bool :=
  match config.agingClear with
  | .failDuringFailureCycle => started (config.event event).failureCycleRef
  | .failDuringFailureOrAgingCycle =>
    started (config.event event).failureCycleRef || started (config.event event).agingCycleRef
  | .allFail => true

/-- The aging part of `updateEventOnFAILED`. -/
def noteFailureForAging (record : EventStatusRec) : EventStatusRec :=
  if config.agingProcessingInternal then
    { record with
      failedDuringAgingCycle :=
        record.failedDuringAgingCycle || started (config.event event).agingCycleRef
      agingCounter := if clearsAgingCounter config event started then 0 else record.agingCounter }
  else record

/-- `updateEventOnFAILED`, for the record of the event. -/
def onFailed (record : EventStatusRec) : EventStatusRec :=
  let counted :=
    if record.eventStatusExtended.testFailed then record
    else
      { record with
        occurrence :=
          if record.occurrence < occurrenceCounterMax then record.occurrence + 1
          else record.occurrence
        errorStatusChanged := true }
  let aged := noteFailureForAging config event started counted
  let confirmed :=
    if config.failureProcessingInternal then handleFaultConfirmation config event started aged
    else aged
  { confirmed with
    eventStatusExtended :=
      { confirmed.eventStatusExtended with
        testFailed := true
        testFailedThisOperationCycle := true
        testFailedSinceLastClear := true
        pendingDTC := true
        testNotCompletedSinceLastClear := false
        testNotCompletedThisOperationCycle := false } }

/-- `updateEventOnPASSED`. -/
def onPassed (record : EventStatusRec) : EventStatusRec :=
  { record with
    errorStatusChanged := record.errorStatusChanged || record.eventStatusExtended.testFailed
    eventStatusExtended :=
      { record.eventStatusExtended with
        testFailed := false
        testNotCompletedSinceLastClear := false
        testNotCompletedThisOperationCycle := false }
    passedDuringAgingCycle := record.passedDuringAgingCycle ||
      (config.agingProcessingInternal && started (config.event event).agingCycleRef)
    passedDuringFailureCycle := record.passedDuringFailureCycle ||
      (config.failureProcessingInternal && started (config.event event).failureCycleRef) }

end

section

variable (config : Config) (s : State) (event : Nat)

/-- The other events of the combined DTC of an event. -/
def otherEvents : List Nat :=
  match config.combined event with
  | some id =>
    (config.combinedDTCConfig id).dtcClass.events.filter fun other =>
      decide (other ≠ event) && config.validEventId other
  | none => []

def resetAgingCounterEvtMem (origin : Origin) : State :=
  if config.supports origin then
    s.setEventBuffer origin ((s.eventBuffer origin).map fun entry =>
      if entry.eventId = event then { entry with agingCounter := 0 } else entry)
  else s

/-- The turn of one event in `clearCombinedEventAgingCounters`; `origin` is the memory of the
combined DTC. -/
def clearAgingCounter (origin : Origin) : State :=
  let record := s.status event
  if record.eventStatusExtended.confirmedDTC && decide (record.agingCounter ≠ 0) then
    resetAgingCounterEvtMem config
      (s.turn event (.otherFailed event) { record with agingCounter := 0 }) event origin
  else s

def clearCombinedEventAgingCounters : State :=
  match config.combined event with
  | some id =>
    (otherEvents config event).foldl (fun s other =>
      clearAgingCounter config s other (config.combinedDTCConfig id).memoryDestination) s
  | none => s

def updateEventOnFailed : State :=
  let failed := s.turn event (.failed event)
    (onFailed config event s.operationCycleIsStarted (s.status event))
  if config.agingProcessingInternal && config.clearCombinedAgingCountersOnFail &&
      clearsAgingCounter config event s.operationCycleIsStarted then
    clearCombinedEventAgingCounters config failed event
  else failed

def updateEventOnPassed : State :=
  s.turn event (.passed event) (onPassed config event s.operationCycleIsStarted (s.status event))

/-- `updateEventStatusRec`: the debounced status, and the state. -/
def updateEventStatusRec (reported : EventStatus) : EventStatus × State :=
  let debounced := runPredebounce config s event reported
  let status := debounced.1
  let unchanged := debounced.2.setStatus event
    { debounced.2.status event with errorStatusChanged := false }
  let updated :=
    match status with
    | .failed => updateEventOnFailed config unchanged event
    | .passed => updateEventOnPassed config unchanged event
    | _ => unchanged
  let indicated := handleIndicators config updated event status
  (status,
    if (indicated.status event).errorStatusChanged && decide (status = .failed) then
      setEventTimeStamp config indicated event
    else indicated)

def getEventDTCStatus : StatusBits :=
  match config.combined event, (config.event event).dtcClass with
  | some _, some dtcClass =>
    (getDTCUDSStatus config s dtcClass (config.destination event)).getD (s.bits event)
  | _, _ => s.bits event

/-- `getStorageConditions`. -/
def Capture.captures (failedNow stored : Bool) : Capture → Bool
  | .never => false
  | .testFailed => failedNow
  | .eventMemoryStorage => stored

/-- The extended data and freeze frames of `handleEvent`. -/
def captureData (failedNow stored : Bool) (oldStatus newStatus : StatusBits) : DataBuffers :=
  if eventDTCRecordDataUpdateDisabled config s event then s.data
  else
    let extended :=
      if config.extendedDataCapture.captures failedNow stored &&
          (config.event event).dataClasses.extendedDataClass.isSome then
        storeExtendedData config s event
      else (s.data, false)
    if config.freezeFrameCapture.captures failedNow stored then
      let frames :=
        if (config.dataClasses event).freezeFrameClass.isSome then
          storeFreezeFrameDataEvtMem config { s with data := extended.1 } event .nonObd
        else (extended.1, false)
      if eventIsEmissionRelated config event && (stored || extended.2 || frames.2) &&
          !oldStatus.confirmedDTC && newStatus.confirmedDTC then
        (storeFreezeFrameDataEvtMem config { s with data := frames.1 } event .obd).1
      else frames.1
    else extended.1

/-- The part of `handleEvent` that stores the event, after its status changed. `before` is the
state of the report. -/
def storeReport (before : State) : State :=
  let stored := storeEventEvtMem config s event
  let oldStatus := getEventDTCStatus config before event
  let newStatus := getEventDTCStatus config s event
  let failedNow :=
    if config.eventCombinationType1 then !oldStatus.testFailed && newStatus.testFailed
    else (s.bits event).testFailed
  let captured :=
    { stored.1 with data := captureData config stored.1 event failedNow stored.2 oldStatus newStatus }
  if stored.2 then captured
  else captured.turn event (.refused event) (captured.status event).unconfirm

/-- `handleEvent`: the state, and whether the report is accepted. `allowed` stands for the DTC
setting and the enable conditions (`eventProcessingAllowed`). -/
def handleEvent (reported : EventStatus) (allowed : Nat → Bool) : State × Bool :=
  if config.validEventId event && (s.status event).isAvailable &&
      s.operationCycleIsStarted (config.event event).operationCycleRef && allowed event then
    let updated := (updateEventStatusRec config s event reported).2
    (if (updated.status event).errorStatusChanged then storeReport config updated event s
      else updated, true)
  else (s, false)

end

variable (config : Config) (s : State) (cycle : Nat)

/-- One timer of `TimeBasedDebounceMainFunction`. -/
def driveTimer (allowed : Nat → Bool) (s : State) (index : Nat) : State :=
  let timer := s.timeBase index
  let set (timer : TimeBaseStatus) : State :=
    { s with timeBase := update s.timeBase index timer }
  match config.validEventId timer.eventId, (config.event timer.eventId).preDebounce with
  | true, .timeBased pdVars =>
    if s.operationCycleIsStarted (config.event timer.eventId).operationCycleRef then
      if !timer.started then s
      else if timer.counterReset then set { timer with counterReset := false }
      else
        let threshold :=
          if timer.failureCounting then pdVars.timeFailedThreshold else pdVars.timePassedThreshold
        let debounceTime :=
          if timer.debounceTime < threshold then (timer.debounceTime + config.taskTime) % 2 ^ 32
          else timer.debounceTime
        let driven := set { timer with debounceTime := debounceTime }
        if threshold ≤ debounceTime then
          (handleEvent config driven timer.eventId (if timer.failureCounting then .failed else .passed)
            allowed).1
        else driven
    else set { timer with started := false }
  | _, _ => s

def timeBasedDebounceMainFunction (allowed : Nat → Bool) : State :=
  (List.range config.nofTimeBasePredeb).foldl (driveTimer config allowed) s

/-! ## Cycles -/

/-- What `operationCycleStart` does to the record of an event. -/
def onCycleStart (event cycle : Nat) (record : EventStatusRec) : EventStatusRec :=
  let operation :=
    if record.isAvailable && decide ((config.event event).operationCycleRef = cycle) then
      { record with
        eventStatusExtended :=
          { record.eventStatusExtended with
            testFailedThisOperationCycle := false, testNotCompletedThisOperationCycle := true }
        fdcInternal := 0 }
    else record
  let failure :=
    if config.failureProcessingInternal && decide ((config.event event).failureCycleRef = cycle) then
      { operation with failedDuringFailureCycle := false, passedDuringFailureCycle := false }
    else operation
  if config.agingProcessingInternal && decide ((config.event event).agingCycleRef = cycle) then
    { failure with passedDuringAgingCycle := false, failedDuringAgingCycle := false }
  else failure

/-- The turn of one event in `operationCycleStart`. -/
def openEvent (s : State) (event : Nat) : State :=
  let ready :=
    if (s.status event).isAvailable && decide ((config.event event).operationCycleRef = cycle) then
      resetDebounceTimer config s event
    else s
  ready.turn event (.opened cycle event) (onCycleStart config event cycle (s.status event))

def operationCycleStart : State :=
  let running :=
    { s with operationCycles := update s.operationCycles cycle true }.note (.started cycle)
  indicatorOpCycleStart config (config.events.foldl (openEvent config cycle) running) cycle

section

variable (event cycle : Nat) (record : EventStatusRec)

/-- The event was tested and did not fail in its operation cycle, which ends. -/
def endsWithoutFailure : Bool :=
  !record.eventStatusExtended.testFailedThisOperationCycle &&
    !record.eventStatusExtended.testNotCompletedThisOperationCycle &&
    decide ((config.event event).operationCycleRef = cycle)

/-- The event passed and did not fail in its failure cycle, which ends. -/
def endsFailureCycleWell : Bool :=
  config.failureProcessingInternal && decide ((config.event event).failureCycleRef = cycle) &&
    record.passedDuringFailureCycle && !record.failedDuringFailureCycle

/-- What `operationCycleEnd` does to the record of an event that is available. -/
def onCycleEnd : EventStatusRec :=
  let pending :=
    if endsWithoutFailure config event cycle record then
      { record with
        eventStatusExtended := { record.eventStatusExtended with pendingDTC := false } }
    else record
  if endsFailureCycleWell config event cycle record then { pending with failureCounter := 0 }
  else pending

end

/-- The turn of one event in `operationCycleEnd`. -/
def closeEvent (s : State) (event : Nat) : State :=
  if (s.status event).isAvailable then
    let indicated := indicatorOpCycleEnd config s event cycle
    let record := indicated.status event
    let closed :=
      indicated.turn event (.closed cycle event) (onCycleEnd config event cycle record)
    let storeEvtMem :=
      (endsWithoutFailure config event cycle record && decide (closed.bits event ≠ s.bits event)) ||
        (endsFailureCycleWell config event cycle record && decide (record.failureCounter ≠ 0))
    if storeEvtMem then (storeEventEvtMem config closed event).1 else closed
  else s

def operationCycleEnd : State :=
  config.events.foldl (closeEvent config cycle)
    ({ s with operationCycles := update s.operationCycles cycle false }.note (.ended cycle))

/-! ## Aging -/

section

variable (config : Config) (s : State) (event : Nat)

/-- `getCombTypeStatusDuringAgingCycle`: passed and failed, if the events exist. A failure of
another event sets `failed` to `FALSE`, and the event itself is left out. -/
def getCombTypeStatusDuringAgingCycle (dtcClass : DtcClass) : Option (Bool × Bool) :=
  let others := dtcClass.events.filter fun other => decide (other ≠ event)
  if others.all config.validEventId then
    some (others.all fun other => (s.status other).passedDuringAgingCycle, false)
  else none

/-- The flags that `ageEvent` looks at: passed and failed during the aging cycle. -/
def statusDuringAgingCycle : Bool × Bool :=
  let record := s.status event
  match config.combinedDtcStatusAging, config.combined event with
  | true, some id =>
    (getCombTypeStatusDuringAgingCycle config s event
      (config.combinedDTCConfig id).dtcClass).getD (false, false)
  | _, _ => (record.passedDuringAgingCycle, record.failedDuringAgingCycle)

/-- The cycle counts for the aging of an event. -/
def agingCycleCounts (record : EventStatusRec) (passed : Bool) : Bool :=
  passed && !record.failedDuringAgingCycle

/-- The aging counter after a cycle that counts. -/
def EventStatusRec.countedAging (record : EventStatusRec) : Nat :=
  if record.agingCounter < counterMax then record.agingCounter + 1 else record.agingCounter

/-- `AgingCycleCounterThreshold` is reached. -/
def agingThresholdReached (record : EventStatusRec) : Bool :=
  match (config.event event).agingCycleCounterThreshold with
  | some threshold => decide (threshold ≤ record.countedAging)
  | none => false

/-- What `ageEvent` does to the record of a confirmed event. -/
def onAging (passed failed : Bool) (record : EventStatusRec) : EventStatusRec :=
  if agingCycleCounts record passed then
    if agingThresholdReached config event record then
      { record with
        agingCounter := 0
        eventStatusExtended :=
          { record.eventStatusExtended with confirmedDTC := false, pendingDTC := false }
        failureCounter := if config.failureProcessingInternal then 0 else record.failureCounter }
    else { record with agingCounter := record.countedAging }
  else if failed && decide (record.agingCounter ≠ 0) then { record with agingCounter := 0 }
  else record

/-- Whether `deletDTCDataIfAged` deletes the data of the combined DTC. -/
def combinedDTCIsAged : Bool :=
  match config.combined event, (config.event event).dtcClass with
  | some _, some dtcClass =>
    match getDTCUDSStatus config s dtcClass (config.destination event) with
    | some bits => !bits.confirmedDTC
    | none => false
  | _, _ => false

/-- `ageEvent` after an event has aged: the data is deleted, and the entry is written again if
there was none to delete but the counter changed. -/
def deleteAged (counted : Bool) : State :=
  let supported := config.supports (config.destination event)
  let deleted := supported && hasDTCData config s event false
  let own := deleteDTCData config s event false
  let aged := combinedDTCIsAged config own event
  let combinedDeleted := aged && supported && hasDTCData config own event true
  let done := if aged then deleteDTCData config own event true else own
  if !deleted && (counted || combinedDeleted) then (storeEventEvtMem config done event).1 else done

def ageEvent : State :=
  let record := s.status event
  if record.eventStatusExtended.confirmedDTC then
    let during := statusDuringAgingCycle config s event
    let aged := s.turn event (.aging event during.1 during.2)
      (onAging config event during.1 during.2 record)
    if agingCycleCounts record during.1 then
      let counted := decide (record.agingCounter < counterMax)
      if agingThresholdReached config event record then deleteAged config aged event counted
      else if counted then (storeEventEvtMem config aged event).1 else aged
    else if during.2 && decide (record.agingCounter ≠ 0) then (storeEventEvtMem config aged event).1
    else aged
  else s

end

/-- The turn of one event in `handleAging`. -/
def ageInCycle (s : State) (event : Nat) : State :=
  if (config.event event).agingAllowed && decide ((config.event event).agingCycleRef = cycle) &&
      decide (config.destination event = .primary ∨ config.destination event = .secondary) then
    ageEvent config s event
  else s

def handleAging : State :=
  config.events.foldl (ageInCycle config cycle) s

def setOperationCycleState (start : Bool) : State :=
  if cycle < operationCycleIdEndmark then
    if start then operationCycleStart config s cycle
    else if s.operationCycles cycle then
      let ended := operationCycleEnd config s cycle
      if config.agingProcessingInternal then handleAging config ended cycle else ended
    else s
  else s

/-! ## Clearing -/

/-- The turn of one event in `Dem_ClearDTC`. `selected` stands for the match with the DTC,
`allowed` for the callback of the event. -/
def clearEvent (selected allowed : Nat → Bool) (origin : Origin) (s : State) (event : Nat) : State :=
  if selected event && decide (config.destination event = origin) &&
      !eventDTCRecordDataUpdateDisabled config s event && allowed event &&
      config.supports (config.destination event) then
    let deleted := deleteDTCData config s event (config.combined event).isSome
    let reset := resetEventStatusRec config deleted event
    { reset with indicators := resetIndicatorCounters config event reset.indicators }
  else s

/-- `Dem_ClearDTC`. -/
def clearDTC (selected allowed : Nat → Bool) (origin : Origin) : State :=
  config.events.foldl (clearEvent config selected allowed origin) s

/-! ## Initialization -/

section

variable (config : Config)

def initCurrentEventTimeStamp (s : State) : State :=
  let ready := rearrangeEventTimeStamp config s
  let shifted (event : Nat) : EventStatusRec :=
    if config.validEventId event then
      { ready.status event with
        timeStamp := ((ready.status event).timeStamp + ready.eventTimeStamp) % 2 ^ 32 }
    else ready.status event
  { ready with
    status := shifted
    eventTimeStamp :=
      (highestTimeStamp (fun _ => false) EventStatusRec.timeStamp (config.events.map shifted) + 1)
        % 2 ^ 32 }

end

/-! ## Calls -/

/-- The calls after the initialization. -/
inductive Call where
  | setEventStatus (event : Nat) (status : EventStatus) (allowed : Nat → Bool)
  | mainFunction (allowed : Nat → Bool)
  | setOperationCycleState (cycle : Nat) (start : Bool)
  | clearDTC (selected allowed : Nat → Bool) (origin : Origin)
  | setDTCRecordUpdate (disabled : Option (Nat × Origin))

def perform : Call → State
  | .setEventStatus event status allowed => (handleEvent config s event status allowed).1
  | .mainFunction allowed => timeBasedDebounceMainFunction config s allowed
  | .setOperationCycleState cycle start => setOperationCycleState config s cycle start
  | .clearDTC selected allowed origin => clearDTC config s selected allowed origin
  | .setDTCRecordUpdate disabled => { s with dtcRecordDisabled := disabled }

/-- A call with an empty log; what happens is its output. -/
def step (call : Call) : State × List Happening :=
  let next := perform config { s with log := [] } call
  (next, next.log)

end Dem
