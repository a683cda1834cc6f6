import Mathlib.Algebra.GroupWithZero.Nat
import Mathlib.Logic.Function.Basic
import Mathlib.Tactic.Common

/-!
# The diagnostic event manager: types

Configuration, records and state of the diagnostic event manager, with the preprocessor switches
as fields of the configuration. An event is known by its number, from 1 up to the number of
events; 0 stands for no event. What a call does is also noted in a log, which no function reads.
-/
namespace Dem

open Function

/-- `Dem_DTCOriginType`. -/
inductive Origin where
  | notUsed
  | primary
  | mirror
  | permanent
  | secondary
  deriving DecidableEq, Repr

/-- `Dem_EventStatusType`. -/
inductive EventStatus where
  | passed
  | failed
  | prepassed
  | prefailed
  deriving DecidableEq, Repr

/-- The bits of `Dem_EventStatusExtendedType`. -/
structure StatusBits where
  testFailed : Bool := false
  testFailedThisOperationCycle : Bool := false
  pendingDTC : Bool := false
  confirmedDTC : Bool := false
  testNotCompletedSinceLastClear : Bool := false
  testFailedSinceLastClear : Bool := false
  testNotCompletedThisOperationCycle : Bool := false
  warningIndicatorRequested : Bool := false
  deriving DecidableEq, Repr

/-- `DEM_DEFAULT_EVENT_STATUS`. -/
def defaultEventStatus : StatusBits :=
  { testNotCompletedSinceLastClear := true, testNotCompletedThisOperationCycle := true }

def StatusBits.union (first second : StatusBits) : StatusBits where
  testFailed := first.testFailed || second.testFailed
  testFailedThisOperationCycle :=
    first.testFailedThisOperationCycle || second.testFailedThisOperationCycle
  pendingDTC := first.pendingDTC || second.pendingDTC
  confirmedDTC := first.confirmedDTC || second.confirmedDTC
  testNotCompletedSinceLastClear :=
    first.testNotCompletedSinceLastClear || second.testNotCompletedSinceLastClear
  testFailedSinceLastClear := first.testFailedSinceLastClear || second.testFailedSinceLastClear
  testNotCompletedThisOperationCycle :=
    first.testNotCompletedThisOperationCycle || second.testNotCompletedThisOperationCycle
  warningIndicatorRequested :=
    first.warningIndicatorRequested || second.warningIndicatorRequested

/-! ## Records -/

/-- `EventStatusRecType`, one for each event. -/
structure EventStatusRec where
  timeStamp : Nat := 0
  occurrence : Nat := 0
  fdcInternal : Int := 0
  failureCounter : Nat := 0
  agingCounter : Nat := 0
  eventStatusExtended : StatusBits := defaultEventStatus
  failedDuringAgingCycle : Bool := false
  passedDuringAgingCycle : Bool := false
  failedDuringFailureCycle : Bool := false
  passedDuringFailureCycle : Bool := false
  errorStatusChanged : Bool := false
  isAvailable : Bool := true
  deriving DecidableEq, Repr

/-- `EventRecType`, an entry of an event memory; all zero if it is free. -/
structure EventRec where
  timeStamp : Nat := 0
  eventId : Nat := 0
  occurrence : Nat := 0
  eventStatusExtended : StatusBits := {}
  failureCounter : Nat := 0
  agingCounter : Nat := 0
  deriving DecidableEq, Repr

/-- The event id of a freeze frame or of extended data, which are kept for the event itself or for
its combined DTC. -/
inductive DataId where
  | null
  | event (id : Nat)
  | combined (id : Nat)
  deriving DecidableEq, Repr

/-- `Dem_FreezeFrameKindType`. -/
inductive FreezeFrameKind where
  | nonObd
  | obd
  deriving DecidableEq, Repr

/-- `FreezeFrameRecType` without its bytes; all zero if it is free. -/
structure FreezeFrameRec where
  timeStamp : Nat := 0
  eventId : DataId := .null
  kind : Option FreezeFrameKind := none
  recordNumber : Nat := 0
  deriving DecidableEq, Repr

/-- `ExtDataRecType` without its bytes; all zero if it is free. -/
structure ExtDataRec where
  timeStamp : Nat := 0
  eventId : DataId := .null
  deriving DecidableEq, Repr

/-- `IndicatorStatusType`, with the bits of `OpCycleStatus`. -/
structure IndicatorStatus where
  failureCounter : Nat := 0
  healingCounter : Nat := 0
  failedDuringFailureCycle : Bool := false
  passedDuringFailureCycle : Bool := false
  failedDuringHealingCycle : Bool := false
  passedDuringHealingCycle : Bool := false
  deriving DecidableEq, Repr

/-- `TimeBaseStatusType`. -/
structure TimeBaseStatus where
  debounceTime : Nat := 0
  eventId : Nat := 0
  started : Bool := false
  failureCounting : Bool := false
  counterReset : Bool := false
  deriving DecidableEq, Repr

/-! ## Configuration -/

/-- When a failure clears the aging counter: `DEM_AGING_COUNTER_CLEAR_ON_...`. -/
inductive AgingClear where
  | failDuringFailureCycle
  | failDuringFailureOrAgingCycle
  | allFail
  deriving DecidableEq, Repr

/-- When a failure clears a healing counter: `DEM_HEALING_COUNTER_CLEAR_ON_...`. -/
inductive HealingClear where
  | failDuringFailureCycle
  | failDuringFailureOrHealingCycle
  | allFail
  deriving DecidableEq, Repr

/-- When data is captured: `DEM_FREEZE_FRAME_CAPTURE_...` and `DEM_EXTENDED_DATA_CAPTURE_...`. -/
inductive Capture where
  | never
  | testFailed
  | eventMemoryStorage
  deriving DecidableEq, Repr

/-- `Dem_Arc_EventDTCKindType`. -/
inductive DtcKind where
  | nonEmissionRelated
  | emissionRelated
  | emissionRelatedMilActivating
  deriving DecidableEq, Repr

/-- `Dem_PreDebounceCounterBasedType`. -/
structure PreDebounceCounterBased where
  failedThreshold : Int
  passedThreshold : Int
  incrementStepSize : Nat
  decrementStepSize : Nat
  jumpUp : Bool
  jumpUpValue : Int
  jumpDown : Bool
  jumpDownValue : Int
  deriving DecidableEq, Repr

/-- `Dem_PreDebounceTimeBasedType`. -/
structure PreDebounceTimeBased where
  index : Nat
  timeFailedThreshold : Nat
  timePassedThreshold : Nat
  deriving DecidableEq, Repr

/-- `Dem_PreDebounceAlgorithmClassType`; no class and no debouncing come to the same. -/
inductive PreDebounce where
  | noPreDebounce
  | counterBased (pdVars : PreDebounceCounterBased)
  | timeBased (pdVars : PreDebounceTimeBased)
  deriving DecidableEq, Repr

/-- `Dem_IndicatorAttributeType`. The failure cycle and threshold are its own, or those of the
event. -/
structure IndicatorAttribute where
  indicatorBufferIndex : Nat
  indicatorId : Nat
  ownFailureCycle : Option (Nat × Nat)
  healingCycle : Nat
  healingCycleThreshold : Nat
  deriving DecidableEq, Repr

/-- `Dem_UpdateRuleType`. -/
inductive UpdateRule where
  | no
  | yes
  | volatile
  deriving DecidableEq, Repr

/-- `Dem_ExtendedDataRecordClassType`; it has a source if there is a callback or an internal
element. -/
structure ExtendedDataRecordClass where
  dataSize : Nat
  updateRule : UpdateRule
  hasSource : Bool
  deriving DecidableEq, Repr

/-- `Dem_DTCClassType`. -/
structure DtcClass where
  events : List Nat
  udsDtc : Option Nat
  deriving DecidableEq, Repr

/-- What an event or a combined DTC has for freeze frames and extended data: the sizes of the DIDs
of its freeze frame class, the record numbers, the extended data class. -/
structure DataClasses where
  freezeFrameClass : Option (List Nat) := none
  maxNumberFreezeFrameRecords : Nat := 0
  freezeFrameRecordNumbers : List Nat := []
  extendedDataClass : Option (List ExtendedDataRecordClass) := none
  deriving DecidableEq, Repr

/-- `Dem_EventParameterType` with its `Dem_EventClassType`. -/
structure EventParameter where
  eventDestination : Origin := .primary
  eventPriority : Nat := 1
  operationCycleRef : Nat := 0
  agingCycleRef : Nat := 0
  failureCycleRef : Nat := 0
  failureCycleCounterThreshold : Nat := 1
  agingAllowed : Bool := false
  agingCycleCounterThreshold : Option Nat := none
  indicatorAttributes : List IndicatorAttribute := []
  indicatorValid : Bool := true
  eventDTCKind : DtcKind := .nonEmissionRelated
  dtcClass : Option DtcClass := none
  combinedDTC : Option Nat := none
  dataClasses : DataClasses := {}
  preDebounce : PreDebounce := .noPreDebounce

/-- `Dem_CombinedDTCCfgType`. -/
structure CombinedDTC where
  dtcClass : DtcClass
  priority : Nat
  memoryDestination : Origin
  dataClasses : DataClasses

/-- The configuration, preprocessor switches included. Time stamps and indicators are used; there
is no permanent memory and no extension. -/
structure Config where
  numEvents : Nat
  event : Nat → EventParameter
  combinedDTCConfig : Nat → CombinedDTC
  usePrimaryMemorySupport : Bool
  useSecondaryMemorySupport : Bool
  eventDisplacementSupport : Bool
  obdDisplacementSupport : Bool
  testFailedStorage : Bool
  treatConfirmedEventsAsActive : Bool
  failureProcessingInternal : Bool
  agingProcessingInternal : Bool
  agingClear : AgingClear
  healingClear : HealingClear
  eventCombinationType1 : Bool
  clearCombinedAgingCountersOnFail : Bool
  combinedDtcStatusAging : Bool
  milIndicatorId : Nat
  obdFreezeFrameClass : Option (List Nat)
  freezeFrameCapture : Capture
  extendedDataCapture : Capture
  ffDataInPreInit : Bool
  extDataInPreInit : Bool
  maxSizeFFData : Nat
  maxSizeExtData : Nat
  nofTimeBasePredeb : Nat
  taskTime : Nat
  /-- There is an event. -/
  events_pos : 0 < numEvents
  /-- Each event has its own places for its indicators. -/
  indicators_apart : ∀ first second, first ≠ second →
    ∀ own ∈ (event first).indicatorAttributes,
    ∀ other ∈ (event second).indicatorAttributes,
      own.indicatorBufferIndex ≠ other.indicatorBufferIndex

namespace Config

variable (config : Config)

/-- `IS_VALID_EVENT_ID`. -/
def validEventId (event : Nat) : Bool :=
  decide (0 < event) && decide (event ≤ config.numEvents)

/-- The numbers of the events, in the order of the status buffer. -/
def events : List Nat :=
  List.range' 1 config.numEvents

/-- Whether there is an event memory for an origin. -/
def supports : Origin → Bool
  | .primary => config.usePrimaryMemorySupport
  | .secondary => config.useSecondaryMemorySupport
  | _ => false

/-- The event memories, in the order they are gone through. -/
def origins : List Origin :=
  [.primary, .secondary].filter config.supports

def destination (event : Nat) : Origin :=
  (config.event event).eventDestination

def combined (event : Nat) : Option Nat :=
  if config.eventCombinationType1 then (config.event event).combinedDTC else none

/-- The id that freeze frames and extended data of an event are kept under. -/
def idToFind (event : Nat) : DataId :=
  match config.combined event with
  | some id => .combined id
  | none => .event event

/-- The classes of the freeze frames and extended data of an event. -/
def dataClasses (event : Nat) : DataClasses :=
  match config.combined event with
  | some id => (config.combinedDTCConfig id).dataClasses
  | none => (config.event event).dataClasses

theorem mem_events {event : Nat} : event ∈ config.events ↔ config.validEventId event = true := by
  rw [events, List.mem_range'_1, validEventId, Bool.and_eq_true, decide_eq_true_eq,
    decide_eq_true_eq]
  omega

theorem origins_nodup : config.origins.Nodup :=
  List.filter_sublist.nodup (by decide)

end Config

/-! ## State -/

/-- `DEM_OPERATION_CYCLE_ID_ENDMARK`. -/
def operationCycleIdEndmark : Nat := 5

/-- `DEM_MAX_TIMESTAMP_FOR_REARRANGEMENT`. -/
def maxTimestampForRearrangement : Nat := 2 ^ 32 - 1

/-- `DEM_MAX_TIMESTAMP_FOR_PRE_INIT`. -/
def maxTimestampForPreInit : Nat := (2 ^ 32 - 1) / 2

/-- `DEM_FAILURE_CNTR_MAX`, `DEM_AGING_CNTR_MAX` and `DEM_INDICATOR_CNTR_MAX`. -/
def counterMax : Nat := 255

/-- `DEM_OCCURENCE_COUNTER_MAX`. -/
def occurrenceCounterMax : Nat := 0xFFFF

/-- What is noted in the log. -/
inductive Happening where
  /-- An event was qualified as failed. -/
  | failed (event : Nat)
  /-- An event was qualified as passed. -/
  | passed (event : Nat)
  /-- An event got an entry in the event memory. -/
  | entered (event : Nat)
  /-- An event could not be stored, and its confirmed bit was taken back. -/
  | refused (event : Nat)
  /-- An event had to make room. -/
  | displaced (event : Nat)
  /-- An event was cleared. -/
  | cleared (event : Nat)
  /-- A failure of another event of the combined DTC cleared the aging counter. -/
  | otherFailed (event : Nat)
  /-- A cycle has started. -/
  | started (cycle : Nat)
  /-- The start of a cycle was handled for an event. -/
  | opened (cycle : Nat) (event : Nat)
  /-- A cycle has ended. -/
  | ended (cycle : Nat)
  /-- The end of a cycle was handled for an event. -/
  | closed (cycle : Nat) (event : Nat)
  /-- The end of its aging cycle was handled for an event that counted as passed, or failed. -/
  | aging (event : Nat) (passed failed : Bool)
  deriving DecidableEq, Repr

/-- `Dem_StateType`, as far as it matters. -/
inductive DemState where
  | preInitialized
  | initialized
  deriving DecidableEq, Repr

/-- The buffers of freeze frames and extended data, and the overflow indications. -/
structure DataBuffers where
  /-- `priMemFreezeFrameBuffer` and `secMemFreezeFrameBuffer`. -/
  freezeFrames : Origin → List FreezeFrameRec
  /-- `priMemExtDataBuffer` and `secMemExtDataBuffer`. -/
  extData : Origin → List ExtDataRec
  preInitFreezeFrames : List FreezeFrameRec
  preInitExtData : List ExtDataRec
  /-- `FF_TimeStamp` and `ExtData_TimeStamp`. -/
  ffTimeStamp : Nat
  extDataTimeStamp : Nat
  /-- `priMemOverflow` and `secMemOverflow`. -/
  overflow : Origin → Bool

namespace DataBuffers

variable (data : DataBuffers) (origin : Origin)

def setFreezeFrames (frames : List FreezeFrameRec) :
    DataBuffers :=
  { data with freezeFrames := update data.freezeFrames origin frames }

def setExtData (records : List ExtDataRec) : DataBuffers :=
  { data with extData := update data.extData origin records }

/-- `setOverflowIndication`. -/
def setOverflow : DataBuffers :=
  { data with overflow := update data.overflow origin true }

end DataBuffers

structure State where
  demState : DemState
  /-- `operationCycleStateList`: which cycles are started. -/
  operationCycles : Nat → Bool
  /-- `eventStatusBuffer`. -/
  status : Nat → EventStatusRec
  /-- `priMemEventBuffer` and `secMemEventBuffer`. -/
  eventBuffer : Origin → List EventRec
  data : DataBuffers
  /-- `indicatorStatusBuffer`. -/
  indicators : Nat → IndicatorStatus
  /-- `DemTimeBaseBuffer`. -/
  timeBase : Nat → TimeBaseStatus
  /-- `Event_TimeStamp`. -/
  eventTimeStamp : Nat
  /-- `DTCRecordDisabled`. -/
  dtcRecordDisabled : Option (Nat × Origin)
  log : List Happening

namespace State

variable (s : State) (origin : Origin) (event : Nat)

/-- The extended status of an event. -/
def bits : StatusBits :=
  (s.status event).eventStatusExtended

def operationCycleIsStarted (cycle : Nat) : Bool :=
  decide (cycle < operationCycleIdEndmark) && s.operationCycles cycle

def note (happening : Happening) : State :=
  { s with log := s.log ++ [happening] }

/-- The record of an event changes in what the log does not speak of. -/
def setStatus (record : EventStatusRec) : State :=
  { s with status := update s.status event record }

/-- Something happens to the record of an event. -/
def turn (happening : Happening) (record : EventStatusRec) : State :=
  (s.setStatus event record).note happening

def setEventBuffer (buffer : List EventRec) : State :=
  { s with eventBuffer := update s.eventBuffer origin buffer }

def Stored : Prop :=
  ∃ entry ∈ s.eventBuffer origin, entry.eventId = event
  deriving Decidable

end State

end Dem
