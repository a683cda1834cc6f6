import ClassicPlatform.Lib.Renumber
import ClassicPlatform.Lib.Slots
import ClassicPlatform.Dem.Candidates

/-!
# Freeze frames and extended data

The records that are kept for a stored event: their time stamps, how they are stored, how room is
made for them and how they are deleted. Of a record's content it only matters whether there is
any.
-/
namespace Dem

/-! ## Time stamps -/

/-- `setEventTimeStamp`, `setFreezeFrameTimeStamp` and `setExtDataTimeStamp`: the next time stamp
is handed out, after the buffers have been rearranged if it is the last one. -/
def takeTimeStamp {Store : Type} (current : Store → Nat) (setCurrent : Store → Nat → Store)
    (rearrange : Store → Store) (demState : DemState) (store : Store) : Nat × Store :=
  match demState with
  | .initialized =>
    let ready := if maxTimestampForRearrangement ≤ current store then rearrange store else store
    (current ready, setCurrent ready (current ready + 1))
  | .preInitialized =>
    (current store,
      if current store < maxTimestampForPreInit then setCurrent store (current store + 1)
      else store)

/-- What was recorded before the initialization is newer than what was stored. -/
def shiftTimeStamps {Record : Type} (free : Record → Bool) (time : Record → Nat)
    (stamp : Nat → Record → Record) (offset : Nat) (records : List Record) : List Record :=
  records.map fun record =>
    if free record then record else stamp ((time record + offset) % 2 ^ 32) record

def highestTimeStamp {Record : Type} (free : Record → Bool) (time : Record → Nat)
    (records : List Record) : Nat :=
  records.foldl (fun highest record =>
    if !free record && decide (highest < time record) then time record else highest) 0

namespace FreezeFrameRec

def free (frame : FreezeFrameRec) : Bool :=
  decide (frame.eventId = .null)

def stamp (number : Nat) (frame : FreezeFrameRec) : FreezeFrameRec :=
  { frame with timeStamp := number }

end FreezeFrameRec

namespace ExtDataRec

def free (record : ExtDataRec) : Bool :=
  decide (record.eventId = .null)

def stamp (number : Nat) (record : ExtDataRec) : ExtDataRec :=
  { record with timeStamp := number }

end ExtDataRec

section

variable (config : Config) (data : DataBuffers)

def rearrangeFreezeFrameTimeStamp : DataBuffers :=
  let last := Renumber.renumberAll FreezeFrameRec.free FreezeFrameRec.timeStamp
    FreezeFrameRec.stamp config.origins 0 data.freezeFrames
  { data with freezeFrames := last.1, ffTimeStamp := last.2 }

def rearrangeExtDataTimeStamp : DataBuffers :=
  let last := Renumber.renumberAll ExtDataRec.free ExtDataRec.timeStamp ExtDataRec.stamp
    config.origins 0 data.extData
  { data with extData := last.1, extDataTimeStamp := last.2 }

def initCurrentFreezeFrameTimeStamp : DataBuffers :=
  if config.ffDataInPreInit then
    let ready := rearrangeFreezeFrameTimeStamp config data
    let shifted := shiftTimeStamps FreezeFrameRec.free FreezeFrameRec.timeStamp FreezeFrameRec.stamp
      ready.ffTimeStamp ready.preInitFreezeFrames
    { ready with
      preInitFreezeFrames := shifted
      ffTimeStamp :=
        (highestTimeStamp FreezeFrameRec.free FreezeFrameRec.timeStamp shifted + 1) % 2 ^ 32 }
  else data

def initCurrentExtDataTimeStamp : DataBuffers :=
  if config.extDataInPreInit && config.ffDataInPreInit then
    let ready := rearrangeExtDataTimeStamp config data
    let shifted := shiftTimeStamps ExtDataRec.free ExtDataRec.timeStamp ExtDataRec.stamp
      ready.extDataTimeStamp ready.preInitExtData
    { ready with
      preInitExtData := shifted
      extDataTimeStamp :=
        (highestTimeStamp ExtDataRec.free ExtDataRec.timeStamp shifted + 1) % 2 ^ 32 }
  else data

def setFreezeFrameTimeStamp (demState : DemState) : Nat × DataBuffers :=
  takeTimeStamp DataBuffers.ffTimeStamp (fun data number => { data with ffTimeStamp := number })
    (rearrangeFreezeFrameTimeStamp config) demState data

def setExtDataTimeStamp (demState : DemState) : Nat × DataBuffers :=
  takeTimeStamp DataBuffers.extDataTimeStamp
    (fun data number => { data with extDataTimeStamp := number })
    (rearrangeExtDataTimeStamp config) demState data

end

/-! ## Freeze frames -/

section

variable (config : Config) (s : State) (event : Nat)

/-- The `storeIndex` of `getDidData` and `getPidData`: what fits of the DIDs or PIDs. -/
def storeIndex (identifierSize maxSize : Nat) : List Nat → Nat → Nat
  | [], index => index
  | size :: rest, index =>
    if index + size + identifierSize ≤ maxSize then
      storeIndex identifierSize maxSize rest (index + identifierSize + size)
    else index

/-- How much `getFreezeFrameData` collects. -/
def freezeFrameSize : FreezeFrameKind → Nat
  | .nonObd =>
    storeIndex 2 config.maxSizeFFData ((config.dataClasses event).freezeFrameClass.getD []) 0
  | .obd => storeIndex 1 config.maxSizeFFData (config.obdFreezeFrameClass.getD []) 0

def getNofStoredNonOBDFreezeFrames (origin : Origin) : Nat :=
  let buffer :=
    match s.demState with
    | .initialized => if config.supports origin then s.data.freezeFrames origin else []
    | .preInitialized => if config.ffDataInPreInit then s.data.preInitFreezeFrames else []
  buffer.countP fun frame =>
    decide (frame.eventId = config.idToFind event) && decide (frame.kind = some .nonObd)

def getNextFFRecordNumber (origin : Origin) : FreezeFrameKind → Option Nat
  | .obd => some 0
  | .nonObd =>
    let classes := config.dataClasses event
    let maxNofRecords := classes.maxNumberFreezeFrameRecords
    let nofStored := getNofStoredNonOBDFreezeFrames config s event origin
    if maxNofRecords = 0 then none
    else if nofStored < maxNofRecords then some (classes.freezeFrameRecordNumbers.getD nofStored 0)
    else if 1 < maxNofRecords then
      some (classes.freezeFrameRecordNumbers.getD (maxNofRecords - 1) 0)
    else none

/-- `getFreezeFrameData`: a freeze frame, if there is data and a record number. -/
def getFreezeFrameData (kind : FreezeFrameKind) (origin : Origin) :
    Option FreezeFrameRec × DataBuffers :=
  if freezeFrameSize config event kind = 0 then (none, s.data)
  else
    match getNextFFRecordNumber config s event origin kind with
    | none => (none, s.data)
    | some number =>
      let stamped := setFreezeFrameTimeStamp config s.data s.demState
      (some
        { timeStamp := stamped.1
          eventId := config.idToFind event
          kind := some kind
          recordNumber := number }, stamped.2)

/-- `lookupFreezeFrameForDisplacement`: the place of the first freeze frame that goes, and the
buffer without those that go. -/
def lookupFreezeFrameForDisplacement (buffer : List FreezeFrameRec) :
    Option (Nat × List FreezeFrameRec) :=
  (getFFEventForDisplacement config s event buffer).bind fun eventToRemove =>
    (Slots.position FreezeFrameRec.eventId eventToRemove buffer).map fun place =>
      (place, buffer.map fun frame => if frame.eventId = eventToRemove then {} else frame)

/-- `storeFreezeFrameDataMem`: the buffer with the freeze frame, if it is stored. -/
def storeFreezeFrameDataMem (frame : FreezeFrameRec) (buffer : List FreezeFrameRec) :
    Option (List FreezeFrameRec) :=
  match buffer.findIdx? fun other =>
      decide (other.eventId = frame.eventId) && decide (other.recordNumber = frame.recordNumber) with
  | some place => some (buffer.set place frame)
  | none =>
    match buffer.findIdx? FreezeFrameRec.free with
    | some place => some (buffer.set place frame)
    | none =>
      if config.eventDisplacementSupport then
        (lookupFreezeFrameForDisplacement config s event buffer).map fun found =>
          found.2.set found.1 frame
      else none

/-- `storeOBDFreezeFrameDataMem`: the buffer, whether the freeze frame counts as stored, and
whether the memory overflows. A frame that is put into a free place does not count as stored. -/
def storeOBDFreezeFrameDataMem (frame : FreezeFrameRec) (buffer : List FreezeFrameRec) :
    List FreezeFrameRec × Bool × Bool :=
  match buffer.findIdx? fun other => !other.free && decide (other.kind = some .obd) with
  | some place =>
    let stored := (buffer.getD place {}).eventId
    -- the priority of an event here, not that of its combined DTC
    let priorityStored :=
      match stored with
      | .event other =>
        if config.validEventId other then (config.event other).eventPriority else 0xFF
      | id => getEventPriority config id
    if priorityStored ≤ (config.event event).eventPriority then (buffer, false, false)
    else (buffer.set place frame, true, false)
  | none =>
    match buffer.findIdx? FreezeFrameRec.free with
    | some place => (buffer.set place frame, false, false)
    | none =>
      if config.eventDisplacementSupport then
        match lookupFreezeFrameForDisplacement config s event buffer with
        | some (place, cleared) => (cleared.set place frame, true, false)
        | none => (buffer, false, false)
      else (buffer, false, true)

/-- `storeFreezeFrameDataEvtMem`: the buffers, and whether the freeze frame counts as stored. -/
def storeFreezeFrameDataEvtMem (kind : FreezeFrameKind) : DataBuffers × Bool :=
  let origin := config.destination event
  if config.supports origin then
    match getFreezeFrameData config s event kind origin, kind with
    | (none, data), _ => (data, false)
    | (some frame, data), .nonObd =>
      match storeFreezeFrameDataMem config s event frame (data.freezeFrames origin) with
      | some frames => (data.setFreezeFrames origin frames, true)
      | none => (data.setOverflow origin, false)
    | (some frame, data), .obd =>
      -- an OBD freeze frame is kept in the primary memory only
      if origin = .primary then
        let stored := storeOBDFreezeFrameDataMem config s event frame (data.freezeFrames origin)
        let updated := data.setFreezeFrames origin stored.1
        (if stored.2.2 then updated.setOverflow origin else updated, stored.2.1)
      else (data, false)
  else (s.data, false)

/-! ## Extended data -/

/-- `lookupExtDataForDisplacement`: the place of the record that goes. -/
def lookupExtDataForDisplacement (buffer : List ExtDataRec) : Option Nat :=
  (getExtDataEventForDisplacement config s event buffer).bind fun eventToRemove =>
    Slots.position ExtDataRec.eventId eventToRemove buffer

/-- The loop over the extended data records in `StoreExtDataInMem`: whether anything is stored.
`known` if the record already was the event's own. -/
def storesExtData (maxSize : Nat) (known : Bool) : List ExtendedDataRecordClass → Nat → Bool
  | [], _ => false
  | record :: rest, index =>
    if record.updateRule = .volatile then storesExtData maxSize known rest index
    else if index + record.dataSize ≤ maxSize then
      ((decide (record.updateRule = .yes) || !known) && record.hasSource) ||
        storesExtData maxSize known rest (index + record.dataSize)
    else false

/-- The place that `StoreExtDataInMem` uses, and the buffer; a displaced record is erased. -/
def placeExtData (buffer : List ExtDataRec) : Option (Nat × List ExtDataRec) :=
  match Slots.position ExtDataRec.eventId (config.idToFind event) buffer with
  | some place => some (place, buffer)
  | none =>
    match buffer.findIdx? ExtDataRec.free with
    | some place => some (place, buffer)
    | none =>
      if config.eventDisplacementSupport then
        (lookupExtDataForDisplacement config s event buffer).map fun place =>
          (place, buffer.set place {})
      else none

/-- `StoreExtDataInMem` for an event memory: the buffers, and whether anything was stored. The
time stamp goes to the place, whatever stands there after a rearrangement. -/
def storeExtDataInMem (origin : Origin) : DataBuffers × Bool :=
  match placeExtData config s event (s.data.extData origin) with
  | none => (s.data.setOverflow (config.destination event), false)
  | some (place, buffer) =>
    let record := buffer.getD place {}
    let known := decide (record.eventId = .event event)
    let data := s.data.setExtData origin buffer
    if storesExtData config.maxSizeExtData known
        ((config.dataClasses event).extendedDataClass.getD []) 0 then
      let owned := data.setExtData origin
        (buffer.set place { record with eventId := config.idToFind event })
      let stamped := setExtDataTimeStamp config owned s.demState
      let records := stamped.2.extData origin
      (stamped.2.setExtData origin
        (records.set place ((records.getD place {}).stamp stamped.1)), true)
    else (data, false)

/-- `storeExtendedData` after the initialization. -/
def storeExtendedData : DataBuffers × Bool :=
  let origin := config.destination event
  if config.supports origin then storeExtDataInMem config s event origin else (s.data, false)

end

/-! ## Deletion -/

section

variable (config : Config) (data : DataBuffers) (event : Nat) (origin : Origin)

/-- The id whose data is deleted: that of the combined DTC if `combinedDTC` is set. -/
def idToDelete (combinedDTC : Bool) : DataId :=
  if combinedDTC then config.idToFind event else .event event

def deleteFreezeFrameDataMem (combinedDTC : Bool) : DataBuffers :=
  data.setFreezeFrames origin ((data.freezeFrames origin).map fun frame =>
    if frame.eventId = idToDelete config event combinedDTC then {} else frame)

/-- `deleteExtendedDataMem`: the first record goes. -/
def deleteExtendedDataMem (combinedDTC : Bool) : DataBuffers :=
  data.setExtData origin
    (Slots.erase ExtDataRec.eventId {} (idToDelete config event combinedDTC) (data.extData origin))

end

end Dem
