import ClassicPlatform.Dem.Displacement

/-!
# Time stamps

Rearranging keeps the order in which records were stored. `Dem_PreInit` starts all time stamps at
0 again. At the initialization the next time stamp is taken from what was recorded since, which may
be nothing.
-/
namespace Dem

open Function List Nat Renumber

section

variable {Entry Record : Type} (vacant : Entry → Bool) (age : Entry → Nat)
variable (free : Record → Bool) (time : Record → Nat) (stamp : Nat → Record → Record)

/-- All entries of the buffers, and the records of the time before the initialization, are older
than the next time stamp. -/
def Older (places : List Origin) (buffers : Origin → List Entry) (recorded : List Record)
    (next : Nat) : Prop :=
  (∀ origin ∈ places, ∀ entry ∈ buffers origin, vacant entry = false → age entry < next) ∧
    ∀ record ∈ recorded, free record = false → time record < next

variable {vacant age free time stamp} {records : List Record} {record : Record}

variable {buffers : Origin → List Entry}

theorem Older.mono {places : List Origin} {next later : Nat}
    (older : Older vacant age free time places buffers records next) (after : next ≤ later) :
    Older vacant age free time places buffers records later :=
  ⟨fun origin listed entry member used =>
      lt_of_lt_of_le (older.1 origin listed entry member used) after,
    fun record member used => lt_of_lt_of_le (older.2 record member used) after⟩

theorem older_zero_iff {places : List Origin} (unrecorded : ∀ record ∈ records, free record = true) :
    Older vacant age free time places buffers records 0 ↔
      ∀ origin ∈ places, ∀ entry ∈ buffers origin, vacant entry = true := by
  constructor
  · intro older origin listed entry member
    by_contra used
    exact not_lt_zero _ (older.1 origin listed entry member (by simpa using used))
  · intro empty
    refine ⟨fun origin listed entry member used => ?_, fun record member used => ?_⟩
    · rw [empty origin listed entry member] at used
      cases used
    · rw [unrecorded record member] at used
      cases used

theorem highestTimeStamp_append (last : Record) :
    highestTimeStamp free time (records ++ [last]) =
      if !free last && decide (highestTimeStamp free time records < time last) then time last
      else highestTimeStamp free time records := by
  rw [highestTimeStamp, foldl_append]
  rfl

theorem le_highestTimeStamp (member : record ∈ records) (used : free record = false) :
    time record ≤ highestTimeStamp free time records := by
  induction records using List.reverseRecOn with
  | nil => exact absurd member not_mem_nil
  | append_singleton front last ih =>
    rw [highestTimeStamp_append]
    rcases mem_append.mp member with earlier | final
    · have bound := ih earlier
      split
      next higher =>
        simp only [Bool.and_eq_true, decide_eq_true_eq] at higher
        omega
      · exact bound
    · rw [mem_singleton] at final
      subst final
      simp only [used, Bool.not_false, Bool.true_and, decide_eq_true_eq]
      split <;> omega

theorem highestTimeStamp_attained :
    highestTimeStamp free time records = 0 ∨
      ∃ record ∈ records, free record = false ∧ time record = highestTimeStamp free time records := by
  induction records using List.reverseRecOn with
  | nil => exact .inl rfl
  | append_singleton front last ih =>
    rw [highestTimeStamp_append]
    split
    next higher =>
      simp only [Bool.and_eq_true, Bool.not_eq_true'] at higher
      exact .inr ⟨last, by simp, higher.1, rfl⟩
    · apply ih.imp_right
      rintro ⟨record, member, used, same⟩
      exact ⟨record, mem_append_left _ member, used, same⟩

section

variable (stamp_time : ∀ number record, time (stamp number record) = number)
include stamp_time

theorem mem_shiftTimeStamps {offset : Nat}
    (stamp_free : ∀ number record, free (stamp number record) =
      free record)
    (bounded : ∀ record ∈ records, free record = false → time record + offset + 1 < 2 ^ 32)
    (member : record ∈ shiftTimeStamps free time stamp offset records)
    (used : free record = false) :
    ∃ before ∈ records, free before = false ∧ time record = time before + offset := by
  obtain ⟨before, there, rfl⟩ := mem_map.mp member
  by_cases unused : free before = true
  · rw [if_pos unused, unused] at used
    cases used
  · rw [if_neg unused, stamp_free] at used
    refine ⟨before, there, used, ?_⟩
    have bound := bounded before there used
    rw [if_neg unused, stamp_time, mod_eq_of_lt (by omega)]

theorem older_init_iff {places : List Origin} {mark : Nat → Entry → Entry}
    (mark_vacant : ∀ number entry, vacant (mark number entry) = vacant entry)
    (mark_age : ∀ number entry, age (mark number entry) = number)
    (stamp_free : ∀ number record, free (stamp number record) = free record) (nodup : places.Nodup)
    (bounded : ∀ record ∈ records, free record = false →
      time record + total vacant places buffers + 1 < 2 ^ 32) :
    let ready := renumberAll vacant age mark places 0 buffers
    let shifted := shiftTimeStamps free time stamp ready.2 records
    Older vacant age free time places ready.1 shifted
        ((highestTimeStamp free time shifted + 1) % 2 ^ 32) ↔
      (∃ record ∈ records, free record = false) ∨ total vacant places buffers ≤ 1 := by
  intro ready shifted
  have renumbered := renumberAll_renumbered mark_age mark_vacant places nodup 0 buffers
  have next : ready.2 = total vacant places buffers := by
    rw [renumberAll_next mark_vacant places nodup 0 buffers, zero_add]
  have mem_shifted : ∀ record ∈ shifted, free record = false →
      ∃ before ∈ records, free before = false ∧ time record = time before + ready.2 :=
    fun record member used => mem_shiftTimeStamps stamp_time stamp_free
      (fun before there unused => next ▸ bounded before there unused) member used
  have attained : highestTimeStamp free time shifted = 0 ∨ ∃ record ∈ shifted,
      free record = false ∧ time record = highestTimeStamp free time shifted :=
    highestTimeStamp_attained
  have no_wrap : highestTimeStamp free time shifted + 1 < 2 ^ 32 := by
    rcases attained with zero | ⟨record, member, used, same⟩
    · rw [zero]
      decide
    · obtain ⟨before, there, unused, shift⟩ := mem_shifted record member used
      have bound := bounded before there unused
      omega
  rw [mod_eq_of_lt no_wrap]
  have stored : ∀ origin ∈ places, ∀ entry ∈ ready.1 origin, vacant entry = false →
      age entry < ready.2 :=
    fun origin listed entry member used =>
      renumbered.below listed (mem_used.mpr ⟨member, used⟩)
  constructor
  · intro older
    by_contra neither
    rw [not_or] at neither
    obtain ⟨nothing, several⟩ := neither
    -- nothing was recorded, so the next time stamp is 1; but a stored entry has it
    have first : highestTimeStamp free time shifted = 0 := by
      apply attained.resolve_right
      rintro ⟨record, member, used, -⟩
      obtain ⟨before, there, unused, -⟩ := mem_shifted record member used
      exact nothing ⟨before, there, unused⟩
    have second : 1 ∈ List.range' 0 (ready.2 - 0) := by
      rw [mem_range'_1]
      omega
    rw [← renumbered.numbers, mem_flatMap] at second
    obtain ⟨origin, listed, numbered⟩ := second
    obtain ⟨entry, member, one⟩ := mem_map.mp numbered
    obtain ⟨member, used⟩ := mem_used.mp member
    have young := older.1 origin listed entry member used
    omega
  · intro enough
    refine ⟨fun origin listed entry member used => ?_, fun record member used => ?_⟩
    · have bound := stored origin listed entry member used
      rcases enough with ⟨before, there, unused⟩ | few
      · have shift : stamp ((time before + ready.2) % 2 ^ 32) before ∈ shifted :=
          mem_map.mpr ⟨before, there, by rw [unused]; rfl⟩
        have high : time (stamp ((time before + ready.2) % 2 ^ 32) before) ≤
            highestTimeStamp free time shifted :=
          le_highestTimeStamp shift ((stamp_free _ _).trans unused)
        have small := bounded before there unused
        rw [stamp_time] at high
        omega
      · omega
    · exact lt_succ_of_le (le_highestTimeStamp member used)

end

end

/-! ## Before the initialization -/

/-- `Dem_PreInit`: the buffers of the time before the initialization are emptied, and the time
stamps start again; what is stored stays. -/
def demPreInit (data : DataBuffers) : DataBuffers :=
  { data with
    preInitFreezeFrames :=
      data.preInitFreezeFrames.map fun frame => { frame with eventId := .null, timeStamp := 0 }
    preInitExtData :=
      data.preInitExtData.map fun record => { record with eventId := .null, timeStamp := 0 }
    ffTimeStamp := 0
    extDataTimeStamp := 0 }

/-- What `handlePreInitEvent` records of an event: a freeze frame, for which those of `displaced`
may have to go, or extended data. A place beyond the buffer stands for a full buffer. -/
inductive Recorded where
  | freezeFrame (frame : FreezeFrameRec) (displaced : DataId) (place : Nat)
  | extData (record : ExtDataRec) (place : Nat)

section

variable (config : Config)

def recordPreInit (data : DataBuffers) : Recorded → DataBuffers
  | .freezeFrame frame displaced place =>
    if config.ffDataInPreInit then
      let stamped := setFreezeFrameTimeStamp config data .preInitialized
      let kept := stamped.2.preInitFreezeFrames.map fun other =>
        if other.eventId = displaced then {} else other
      { stamped.2 with preInitFreezeFrames := kept.set place (frame.stamp stamped.1) }
    else data
  | .extData record place =>
    if config.extDataInPreInit then
      let stamped := setExtDataTimeStamp config data .preInitialized
      { stamped.2 with
        preInitExtData := stamped.2.preInitExtData.set place (record.stamp stamped.1) }
    else data

/-- The buffers at the initialization: some were stored, and since `Dem_PreInit` something may have
been recorded. -/
def BeforeInit (data : DataBuffers) : Prop :=
  ∃ stored recorded, data = List.foldl (recordPreInit config) (demPreInit stored) recorded

/-- Without a buffer nothing is recorded and no time stamp is handed out. As long as there are time
stamps, each extended data record has an earlier one than the next. -/
structure PreInitialized (data : DataBuffers) : Prop where
  frames : config.ffDataInPreInit = false →
    data.ffTimeStamp = 0 ∧ ∀ frame ∈ data.preInitFreezeFrames, frame.free = true
  extData : config.extDataInPreInit = false →
    data.extDataTimeStamp = 0 ∧ ∀ record ∈ data.preInitExtData, record.free = true
  earlier : data.extDataTimeStamp < maxTimestampForPreInit →
    ∀ record ∈ data.preInitExtData, record.free = false → record.timeStamp < data.extDataTimeStamp

variable {config} {data : DataBuffers}

theorem demPreInit_preInitialized (stored : DataBuffers) :
    PreInitialized config (demPreInit stored) := by
  have frames_free : ∀ frame ∈ (demPreInit stored).preInitFreezeFrames, frame.free = true := by
    simp [demPreInit, FreezeFrameRec.free]
  have extData_free : ∀ record ∈ (demPreInit stored).preInitExtData, record.free = true := by
    simp [demPreInit, ExtDataRec.free]
  refine ⟨fun _ => ⟨rfl, frames_free⟩, fun _ => ⟨rfl, extData_free⟩, fun _ record member used => ?_⟩
  rw [extData_free record member] at used
  cases used

theorem PreInitialized.recorded (before : PreInitialized config data) (item : Recorded) :
    PreInitialized config (recordPreInit config data item) := by
  cases item with
  | freezeFrame frame displaced place =>
    by_cases buffered : config.ffDataInPreInit = true
    · simp only [recordPreInit, if_pos buffered, setFreezeFrameTimeStamp, takeTimeStamp]
      refine ⟨fun unbuffered => absurd buffered (by simp [unbuffered]), ?_, ?_⟩
      · split <;> exact before.extData
      · split <;> exact before.earlier
    · rwa [recordPreInit, if_neg buffered]
  | extData record place =>
    by_cases buffered : config.extDataInPreInit = true
    · simp only [recordPreInit, if_pos buffered, setExtDataTimeStamp, takeTimeStamp]
      refine ⟨?_, fun unbuffered => absurd buffered (by simp [unbuffered]), ?_⟩
      · split <;> exact before.frames
      · intro left other member used
        split at left
        next room =>
          simp only [if_pos room] at member ⊢
          rcases mem_or_eq_of_mem_set member with older | rfl
          · exact lt_succ_of_lt (before.earlier room other older used)
          · exact lt_succ_self _
        next full => exact absurd left full
    · rwa [recordPreInit, if_neg buffered]

theorem BeforeInit.preInitialized (started : BeforeInit config data) :
    PreInitialized config data := by
  obtain ⟨stored, recorded, rfl⟩ := started
  induction recorded using List.reverseRecOn with
  | nil => exact demPreInit_preInitialized stored
  | append_singleton earlier item ih =>
    rw [foldl_append]
    exact ih.recorded item

end

/-! ## The three kinds of records -/

section

variable (config : Config)

/-- The entries and the records of the events are older than the next event time stamp. -/
def EventsOlder (s : State) : Prop :=
  Older EventRec.free EventRec.timeStamp (fun _ => false) EventStatusRec.timeStamp config.origins
    s.eventBuffer (config.events.map s.status) s.eventTimeStamp

def FramesOlder (data : DataBuffers) : Prop :=
  Older FreezeFrameRec.free FreezeFrameRec.timeStamp FreezeFrameRec.free FreezeFrameRec.timeStamp
    config.origins data.freezeFrames data.preInitFreezeFrames data.ffTimeStamp

def ExtDataOlder (data : DataBuffers) : Prop :=
  Older ExtDataRec.free ExtDataRec.timeStamp ExtDataRec.free ExtDataRec.timeStamp config.origins
    data.extData data.preInitExtData data.extDataTimeStamp

/-- There are time stamps left when the stored records come before what was recorded since. -/
structure Unexhausted (s : State) : Prop where
  events : ∀ event, config.validEventId event = true →
    (s.status event).timeStamp + total EventRec.free config.origins s.eventBuffer + 1 < 2 ^ 32
  frames : ∀ frame ∈ s.data.preInitFreezeFrames, frame.free = false →
    frame.timeStamp + total FreezeFrameRec.free config.origins s.data.freezeFrames + 1 < 2 ^ 32
  extData : ∀ record ∈ s.data.preInitExtData, record.free = false →
    record.timeStamp + total ExtDataRec.free config.origins s.data.extData + 1 < 2 ^ 32
  preInit : s.data.extDataTimeStamp < maxTimestampForPreInit

/-- The three rearrangements keep the order of each buffer and give consecutive numbers. -/
structure Rearranges (s : State) : Prop where
  events : Renumber.AllRenumbered EventRec.free EventRec.timeStamp EventRec.stamp config.origins 0
    s.eventBuffer (rearrangeEventTimeStamp config s).eventBuffer
    (rearrangeEventTimeStamp config s).eventTimeStamp
  frames : Renumber.AllRenumbered FreezeFrameRec.free FreezeFrameRec.timeStamp FreezeFrameRec.stamp
    config.origins 0 s.data.freezeFrames (rearrangeFreezeFrameTimeStamp config s.data).freezeFrames
    (rearrangeFreezeFrameTimeStamp config s.data).ffTimeStamp
  extData : Renumber.AllRenumbered ExtDataRec.free ExtDataRec.timeStamp ExtDataRec.stamp
    config.origins 0 s.data.extData (rearrangeExtDataTimeStamp config s.data).extData
    (rearrangeExtDataTimeStamp config s.data).extDataTimeStamp

/-- A freeze frame was recorded before the initialization, or at most one was stored; without a
buffer for that time, none was stored. -/
def FramesTimed (data : DataBuffers) : Prop :=
  if config.ffDataInPreInit then
    (∃ frame ∈ data.preInitFreezeFrames, frame.free = false) ∨
      total FreezeFrameRec.free config.origins data.freezeFrames ≤ 1
  else ∀ origin ∈ config.origins, ∀ frame ∈ data.freezeFrames origin, frame.free = true

/-- The same for the extended data. With a buffer for them but none for freeze frames the
initialization leaves the time stamp alone: what is stored must have smaller time stamps than there
were records since `Dem_PreInit`. -/
def ExtDataTimed (data : DataBuffers) : Prop :=
  if config.extDataInPreInit then
    if config.ffDataInPreInit then
      (∃ record ∈ data.preInitExtData, record.free = false) ∨
        total ExtDataRec.free config.origins data.extData ≤ 1
    else
      ∀ origin ∈ config.origins, ∀ record ∈ data.extData origin, record.free = false →
        record.timeStamp < data.extDataTimeStamp
  else ∀ origin ∈ config.origins, ∀ record ∈ data.extData origin, record.free = true

/-- After the initialization, the time stamp that is handed out is newer than all records, and the
next one is newer still. -/
structure HandsOutNewer : Prop where
  events : ∀ s event, s.demState = .initialized → EventsOlder config s →
    s.eventTimeStamp < maxTimestampForRearrangement →
      ((setEventTimeStamp config s event).status event).timeStamp = s.eventTimeStamp ∧
        EventsOlder config (setEventTimeStamp config s event)
  frames : ∀ data, FramesOlder config data → data.ffTimeStamp < maxTimestampForRearrangement →
    (setFreezeFrameTimeStamp config data .initialized).1 = data.ffTimeStamp ∧
      FramesOlder config (setFreezeFrameTimeStamp config data .initialized).2 ∧
      data.ffTimeStamp < (setFreezeFrameTimeStamp config data .initialized).2.ffTimeStamp
  extData : ∀ data, ExtDataOlder config data →
    data.extDataTimeStamp < maxTimestampForRearrangement →
    (setExtDataTimeStamp config data .initialized).1 = data.extDataTimeStamp ∧
      ExtDataOlder config (setExtDataTimeStamp config data .initialized).2 ∧
      data.extDataTimeStamp < (setExtDataTimeStamp config data .initialized).2.extDataTimeStamp

end

section

variable {config : Config} {s : State} {data : DataBuffers}

theorem rearranges : Rearranges config s := by
  constructor
  all_goals
    apply renumberAll_renumbered
    · exact fun _ _ => rfl
    · exact fun _ _ => rfl
    · exact config.origins_nodup

theorem framesOlder_init_iff (preInitialized : PreInitialized config data)
    (bounded : ∀ frame ∈ data.preInitFreezeFrames, frame.free = false →
      frame.timeStamp + total FreezeFrameRec.free config.origins data.freezeFrames + 1 < 2 ^ 32) :
    FramesOlder config (initCurrentFreezeFrameTimeStamp config data) ↔ FramesTimed config data := by
  rw [initCurrentFreezeFrameTimeStamp, FramesTimed]
  split
  · exact older_init_iff (fun _ _ => rfl) (fun _ _ => rfl) (fun _ _ => rfl) (fun _ _ => rfl)
      config.origins_nodup bounded
  next unbuffered =>
    obtain ⟨zero_time, unrecorded⟩ := preInitialized.frames (by simpa using unbuffered)
    rw [FramesOlder, zero_time]
    exact older_zero_iff unrecorded

theorem extDataOlder_init_iff (preInitialized : PreInitialized config data)
    (left : data.extDataTimeStamp < maxTimestampForPreInit)
    (bounded : ∀ record ∈ data.preInitExtData, record.free = false →
      record.timeStamp + total ExtDataRec.free config.origins data.extData + 1 < 2 ^ 32) :
    ExtDataOlder config (initCurrentExtDataTimeStamp config data) ↔ ExtDataTimed config data := by
  rw [initCurrentExtDataTimeStamp, ExtDataTimed]
  cases buffered : config.extDataInPreInit with
  | true =>
    cases config.ffDataInPreInit with
    | true =>
      exact older_init_iff (fun _ _ => rfl) (fun _ _ => rfl) (fun _ _ => rfl) (fun _ _ => rfl)
        config.origins_nodup bounded
    | false => exact and_iff_left (preInitialized.earlier left)
  | false =>
    obtain ⟨zero_time, unrecorded⟩ := preInitialized.extData buffered
    change ExtDataOlder config data ↔ _
    rw [ExtDataOlder, zero_time]
    exact older_zero_iff unrecorded

theorem eventsOlder_init
    (bounded : ∀ event, config.validEventId event →
      (s.status event).timeStamp + total EventRec.free config.origins s.eventBuffer + 1 < 2 ^ 32) :
    EventsOlder config (initCurrentEventTimeStamp config s) := by
  have first : config.validEventId 1 = true := by
    have some_event := config.events_pos
    simp only [Config.validEventId, Bool.and_eq_true, decide_eq_true_eq]
    omega
  let after := initCurrentEventTimeStamp config s
  have shifted : config.events.map after.status =
      shiftTimeStamps (fun _ => false) EventStatusRec.timeStamp
        (fun number record => { record with timeStamp := number })
        (rearrangeEventTimeStamp config s).eventTimeStamp (config.events.map s.status) := by
    rw [shiftTimeStamps, map_map]
    apply map_congr_left
    intro event listed
    simp [after, initCurrentEventTimeStamp, rearrangeEventTimeStamp, config.mem_events.mp listed]
  change Older _ _ (fun _ => false) EventStatusRec.timeStamp _ after.eventBuffer
    (config.events.map after.status) ((highestTimeStamp (fun _ => false) EventStatusRec.timeStamp
      (config.events.map after.status) + 1) % 2 ^ 32)
  rw [shifted]
  have mark_vacant : ∀ number (entry : EventRec), (entry.stamp number).free = entry.free :=
    fun _ _ => rfl
  apply (older_init_iff ?_ mark_vacant (fun _ _ => rfl) ?_ config.origins_nodup ?_).mpr
  · exact .inl ⟨_, mem_map_of_mem (config.mem_events.mpr first), rfl⟩
  · exact fun _ _ => rfl
  · exact fun _ _ => rfl
  · intro record member _
    obtain ⟨event, listed, rfl⟩ := mem_map.mp member
    exact bounded event (config.mem_events.mp listed)

theorem takeTimeStamp_unexhausted {Store : Type} {current : Store → Nat}
    {setCurrent : Store → Nat → Store} {rearrange : Store → Store} {store : Store}
    (left : current store < maxTimestampForRearrangement) :
    takeTimeStamp current setCurrent rearrange .initialized store =
      (current store, setCurrent store (current store + 1)) := by
  simp [takeTimeStamp, if_neg (not_le.mpr left)]

theorem handsOutNewer : HandsOutNewer config where
  events s event initialized older left := by
    rw [setEventTimeStamp, initialized, takeTimeStamp_unexhausted left]
    refine ⟨?_, (older.mono (le_succ _)).1, ?_⟩
    · change (update s.status event _ event).timeStamp = s.eventTimeStamp
      rw [update_self]
    · intro record member _
      obtain ⟨other, listed, rfl⟩ := mem_map.mp member
      change (update s.status event _ other).timeStamp < s.eventTimeStamp + 1
      rw [update_apply]
      split
      · exact lt_succ_self _
      · exact lt_succ_of_lt (older.2 _ (mem_map_of_mem listed) rfl)
  frames data older left := by
    rw [setFreezeFrameTimeStamp, takeTimeStamp_unexhausted left]
    exact ⟨rfl, older.mono (le_succ _), lt_succ_self _⟩
  extData data older left := by
    rw [setExtDataTimeStamp, takeTimeStamp_unexhausted left]
    exact ⟨rfl, older.mono (le_succ _), lt_succ_self _⟩

end

def restartConfig : Config :=
  { sampleConfig with ffDataInPreInit := true, extDataInPreInit := true }

/-- Two freeze frames and an extended data record are stored; there is room for two freeze frames
and one extended data record before the initialization. -/
def storedData : DataBuffers where
  freezeFrames
    | .primary => [⟨4, .event 1, some .nonObd, 1⟩, ⟨7, .event 2, some .nonObd, 1⟩, {}]
    | _ => []
  extData
    | .primary => [{}, ⟨6, .event 1⟩]
    | _ => []
  preInitFreezeFrames := [{}, {}]
  preInitExtData := [{}]
  ffTimeStamp := 8
  extDataTimeStamp := 7
  overflow _ := false

/-- At the initialization; event 2 has failed since `Dem_PreInit`. -/
def restartState (recorded : List Recorded) : State :=
  { blankState 1 with
    demState := .preInitialized
    status := fun event =>
      if event = 2 then
        { timeStamp := 3, occurrence := 1,
          eventStatusExtended := { defaultEventStatus with testFailed := true } }
      else {}
    eventBuffer := fun origin =>
      if origin = .primary then
        [{ timeStamp := 9, eventId := 1, occurrence := 2 }, { timeStamp := 5, eventId := 2 }]
      else []
    data := recorded.foldl (recordPreInit restartConfig) (demPreInit storedData)
    eventTimeStamp := 4 }

/-- A freeze frame of event 2 was recorded. -/
def recordedState : State :=
  restartState [.freezeFrame ⟨0, .event 2, some .nonObd, 1⟩ .null 0]

private theorem recordedState_unexhausted : Unexhausted restartConfig recordedState := by
  refine ⟨fun event _ => ?_, by decide, by decide, by decide⟩
  change (if event = 2 then _ else ({} : EventStatusRec)).timeStamp + 2 + 1 < 2 ^ 32
  split <;> decide

end Dem
