import ClassicPlatform.Lib.Eviction
import ClassicPlatform.Dem.Indicators

/-!
# Who has to make room

What displacement looks at: whether an event is passive, its priority, whether its data may be
removed at all, and the choice among the records of a full buffer.
-/
namespace Dem

variable (config : Config) (s : State)

/-- `checkDtcOrigin`; there is no permanent memory. -/
def checkDtcOrigin (origin : Origin) (event : Nat) (allowPermanentMemory : Bool) : Bool :=
  if allowPermanentMemory && decide (origin = .permanent) then false
  else decide (config.destination event = origin)

/-- The bits that a DTC with several events does not keep from all of them. -/
def StatusBits.mask (bits : StatusBits) : StatusBits :=
  { bits with
    testNotCompletedSinceLastClear :=
      bits.testNotCompletedSinceLastClear && !bits.testFailedSinceLastClear
    testNotCompletedThisOperationCycle :=
      bits.testNotCompletedThisOperationCycle && !bits.testFailedThisOperationCycle }

/-- `GetDTCUDSStatus`, if it is successful. -/
def getDTCUDSStatus (dtcClass : DtcClass) (origin : Origin) : Option StatusBits :=
  if dtcClass.events.all config.validEventId then
    let inOrigin := dtcClass.events.filter fun event =>
      checkDtcOrigin config origin event true && (s.status event).isAvailable
    if inOrigin.isEmpty then none
    else
      let joined := inOrigin.foldl (fun bits event => bits.union (s.bits event)) {}
      some (if 1 < dtcClass.events.length then joined.mask else joined)
  else none

/-- `getEventStatus`, if it is successful. -/
def getEventStatus (event : Nat) : Option StatusBits :=
  if config.validEventId event && (s.status event).isAvailable then some (s.bits event) else none

/-- The status that says whether an event, or a combined DTC, is passive. -/
def passiveStatus : DataId → Option StatusBits
  | .null => none
  | .event event =>
    match config.combined event, (config.event event).dtcClass with
    | none, _ => getEventStatus config s event
    | some _, some dtcClass =>
      if config.validEventId event then
        getDTCUDSStatus config s dtcClass (config.destination event)
      else none
    | some _, none => none
  | .combined id =>
    getDTCUDSStatus config s (config.combinedDTCConfig id).dtcClass
      (config.combinedDTCConfig id).memoryDestination

def getEventPassive (id : DataId) : Bool :=
  match passiveStatus config s id with
  | some bits =>
    !bits.testFailed && (config.testFailedStorage || !bits.testNotCompletedThisOperationCycle) &&
      !(config.treatConfirmedEventsAsActive && bits.confirmedDTC)
  | none => false

def getEventPriority : DataId → Nat
  | .null => 0xFF
  | .event event =>
    if config.validEventId event then
      match config.combined event with
      | some id => (config.combinedDTCConfig id).priority
      | none => (config.event event).eventPriority
    else 0xFF
  | .combined id => (config.combinedDTCConfig id).priority

def eventDTCRecordDataUpdateDisabled (event : Nat) : Bool :=
  match s.dtcRecordDisabled, (config.event event).dtcClass with
  | some (dtc, origin), some dtcClass =>
    config.validEventId event && decide (dtcClass.udsDtc = some dtc) &&
      decide (config.destination event = origin)
  | _, _ => false

def eventHoldsOBDFF (event : Nat) : Bool :=
  config.usePrimaryMemorySupport &&
    (s.data.freezeFrames .primary).any fun frame =>
      decide (frame.eventId = config.idToFind event) && decide (frame.kind = some .obd)

def eventIsEmissionRelated (event : Nat) : Bool :=
  decide ((config.event event).eventDTCKind ≠ .nonEmissionRelated)

def obdEventDisplacementProhibited (candidate event : Nat) : Bool :=
  config.obdDisplacementSupport && eventIsEmissionRelated config candidate &&
    (eventActivatesMIL config candidate s.indicators ||
      (eventHoldsOBDFF config s candidate &&
        decide ((config.event candidate).eventPriority ≤ (config.event event).eventPriority)) ||
      ((getEventStatus config s candidate).getD {}).pendingDTC)

/-- The event that stands for the id of a record: a combined DTC by its first event. -/
def candidateEvent : DataId → Nat
  | .null => 0
  | .event event => event
  | .combined id => (config.combinedDTCConfig id).dtcClass.events.headD 0

/-- The data kept under an id may be removed in favour of an event. -/
def mayMakeRoom (event : Nat) (id : DataId) : Bool :=
  decide (id ≠ .null) && !eventDTCRecordDataUpdateDisabled config s (candidateEvent config id) &&
    !obdEventDisplacementProhibited config s (candidateEvent config id) event

/-- The pass that the three choices share. -/
def chooseForDisplacement {Record : Type} (id : Record → DataId) (time : Record → Nat)
    (event : Nat) (records : List Record) : Option Record :=
  Eviction.choose maxTimestampForRearrangement
    (fun record => decide ((config.event event).eventPriority ≤ getEventPriority config (id record)))
    (fun record => decide ((config.event event).eventPriority < getEventPriority config (id record)))
    (fun record => getEventPassive config s (id record)) time
    (records.filter fun record => mayMakeRoom config s event (id record))

/-- The id of an entry, none if it is free. -/
def EventRec.dataId (entry : EventRec) : DataId :=
  if entry.eventId = 0 then .null else .event entry.eventId

def getEventForDisplacement (event : Nat) (buffer : List EventRec) : Option Nat :=
  (chooseForDisplacement config s EventRec.dataId EventRec.timeStamp event buffer).map
    EventRec.eventId

/-- `getFFEventForDisplacement`, which spares the freeze frames of the event and those for OBD. -/
def getFFEventForDisplacement (event : Nat) (buffer : List FreezeFrameRec) : Option DataId :=
  (chooseForDisplacement config s FreezeFrameRec.eventId FreezeFrameRec.timeStamp event
    (buffer.filter fun frame =>
      decide (frame.eventId ≠ .event event) && decide (frame.kind ≠ some .obd))).map
    FreezeFrameRec.eventId

def getExtDataEventForDisplacement (event : Nat) (buffer : List ExtDataRec) : Option DataId :=
  (chooseForDisplacement config s ExtDataRec.eventId ExtDataRec.timeStamp event buffer).map
    ExtDataRec.eventId

end Dem
