import ClassicPlatform.Dem.Debounce
import ClassicPlatform.Dem.Data

/-!
# The event memories

The entry of an event is found, a free place is taken, or another event is displaced with
everything that is kept for it.
-/
namespace Dem

namespace EventRec

def free (entry : EventRec) : Bool :=
  decide (entry.eventId = 0)

def stamp (number : Nat) (entry : EventRec) : EventRec :=
  { entry with timeStamp := number }

/-- What `storeEventMem` writes into an entry. -/
def update (config : Config) (entry : EventRec) (event : Nat) (record : EventStatusRec) :
    EventRec where
  timeStamp := if config.eventDisplacementSupport then record.timeStamp else entry.timeStamp
  eventId := event
  occurrence := record.occurrence
  eventStatusExtended := record.eventStatusExtended
  failureCounter :=
    if config.failureProcessingInternal then record.failureCounter else entry.failureCounter
  agingCounter := if config.agingProcessingInternal then record.agingCounter else entry.agingCounter

end EventRec

namespace EventStatusRec

/-- The confirmed bit is taken back. -/
def unconfirm (record : EventStatusRec) : EventStatusRec :=
  { record with
    eventStatusExtended := { record.eventStatusExtended with confirmedDTC := false } }

/-- What `findAndDisplaceEvent` does to the record. The switch for the aging counter and the flags
of the aging cycle is misspelled (`DEM_aging_PROCESSING_DEM_INTERNAL`), so they stay. -/
def displace (config : Config) (record : EventStatusRec) : EventStatusRec :=
  { record.unconfirm with
    failureCounter := if config.failureProcessingInternal then 0 else record.failureCounter
    failedDuringFailureCycle :=
      !config.failureProcessingInternal && record.failedDuringFailureCycle
    passedDuringFailureCycle :=
      !config.failureProcessingInternal && record.passedDuringFailureCycle }

/-- What `resetEventStatusRec` does to the record. -/
def reset (config : Config) (record : EventStatusRec) : EventStatusRec where
  timeStamp := 0
  occurrence := 0
  fdcInternal := 0
  failureCounter := if config.failureProcessingInternal then 0 else record.failureCounter
  agingCounter := if config.agingProcessingInternal then 0 else record.agingCounter
  eventStatusExtended := defaultEventStatus
  failedDuringAgingCycle := !config.agingProcessingInternal && record.failedDuringAgingCycle
  passedDuringAgingCycle := !config.agingProcessingInternal && record.passedDuringAgingCycle
  failedDuringFailureCycle := !config.failureProcessingInternal && record.failedDuringFailureCycle
  passedDuringFailureCycle := !config.failureProcessingInternal && record.passedDuringFailureCycle
  errorStatusChanged := false
  isAvailable := record.isAvailable

end EventStatusRec

section

variable (config : Config) (s : State) (event : Nat)

def place (event : Nat) (buffer : List EventRec) : Option Nat :=
  Slots.position EventRec.eventId event buffer

def rearrangeEventTimeStamp : State :=
  let last := Renumber.renumberAll EventRec.free EventRec.timeStamp EventRec.stamp config.origins 0
    s.eventBuffer
  { s with eventBuffer := last.1, eventTimeStamp := last.2 }

def setEventTimeStamp : State :=
  let stamped := takeTimeStamp State.eventTimeStamp
    (fun s number => { s with eventTimeStamp := number }) (rearrangeEventTimeStamp config)
    s.demState s
  stamped.2.setStatus event { stamped.2.status event with timeStamp := stamped.1 }

/-- An entry is written from the record of the event. -/
def writeEntry (origin : Origin) (index : Nat) : State :=
  let buffer := s.eventBuffer origin
  s.setEventBuffer origin
    (buffer.set index ((buffer.getD index {}).update config event (s.status event)))

/-- A buffer without the entry of an event. -/
def eraseFrom (event : Nat) (buffer : List EventRec) : List EventRec :=
  Slots.erase EventRec.eventId {} event buffer

def eraseEntry (origin : Origin) : State :=
  s.setEventBuffer origin (eraseFrom event (s.eventBuffer origin))

/-- The data that `findAndDisplaceEvent` deletes: nothing if the event has no class for it. -/
def dropData (config : Config) (data : DataBuffers) (event : Nat) (origin : Origin) : DataBuffers :=
  let combinedDTC := (config.combined event).isSome
  let frames :=
    if (config.dataClasses event).freezeFrameClass.isSome then
      deleteFreezeFrameDataMem config data event origin combinedDTC
    else data
  if (config.dataClasses event).extendedDataClass.isSome then
    deleteExtendedDataMem config frames event origin combinedDTC
  else frames

/-- The rest of `findAndDisplaceEvent`: the record is reset and the data deleted. -/
def dropEventData (origin : Origin) : State :=
  { s.turn event (.displaced event) ((s.status event).displace config) with
    data := dropData config s.data event origin
    indicators := resetIndicatorCounters config event s.indicators }

/-- `findAndDisplaceEvent`: the state, and the place that is free now. -/
def findAndDisplaceEvent (origin : Origin) : State × Option Nat :=
  (dropEventData config (eraseEntry s event origin) event origin,
    place event (s.eventBuffer origin))

/-- The events that go with a displaced event: all of its DTC. -/
def displacedWith (eventToRemove : Nat) : List Nat :=
  match config.eventCombinationType1, (config.event eventToRemove).dtcClass with
  | true, some dtcClass => dtcClass.events.filter config.validEventId
  | _, _ => [eventToRemove]

/-- `lookupEventForDisplacement`: the state, and the place that is free now; the last one if
several events go. -/
def lookupEventForDisplacement (origin : Origin) : State × Option Nat :=
  match getEventForDisplacement config s event (s.eventBuffer origin) with
  | none => (s, none)
  | some eventToRemove =>
    if config.validEventId eventToRemove then
      (displacedWith config eventToRemove).foldl (fun found other =>
        let next := findAndDisplaceEvent config found.1 other origin
        (next.1, next.2.or found.2)) (s, none)
    else (s, none)

/-- `storeEventMem`: the state, and whether the event is stored. -/
def storeEventMem (origin : Origin) : State × Bool :=
  match place event (s.eventBuffer origin) with
  | some index => (writeEntry config s event origin index, true)
  | none =>
    match place 0 (s.eventBuffer origin) with
    | some index => ((writeEntry config s event origin index).note (.entered event), true)
    | none =>
      if config.eventDisplacementSupport then
        let found := lookupEventForDisplacement config s event origin
        match found.2 with
        | some index => ((writeEntry config found.1 event origin index).note (.entered event), true)
        | none =>
          ({ found.1 with data := found.1.data.setOverflow (config.destination event) }, false)
      else ({ s with data := s.data.setOverflow (config.destination event) }, false)

def storeEventEvtMem : State × Bool :=
  if config.supports (config.destination event) then
    storeEventMem config s event (config.destination event)
  else (s, false)

def deleteEventMem (origin : Origin) : State :=
  eraseEntry s event origin

/-- Whether `DeleteDTCData` finds something to delete. -/
def hasDTCData (combinedDTC : Bool) : Bool :=
  let origin := config.destination event
  let idToFind := idToDelete config event combinedDTC
  (place event (s.eventBuffer origin)).isSome ||
    (s.data.freezeFrames origin).any (fun frame => decide (frame.eventId = idToFind)) ||
    (s.data.extData origin).any fun record => decide (record.eventId = idToFind)

/-- The deletions of `DeleteDTCData`, without the status. -/
def deleteDTCData (combinedDTC : Bool) : State :=
  let origin := config.destination event
  if config.supports origin then
    { deleteEventMem s event origin with
      data := deleteExtendedDataMem config
        (deleteFreezeFrameDataMem config s.data event origin combinedDTC) event origin combinedDTC }
  else s

def resetEventStatusRec : State :=
  (resetDebounceTimer config s event).turn event (.cleared event) ((s.status event).reset config)

end

end Dem
