import Mathlib.Data.List.Induction
import ClassicPlatform.Lib.Sweep
import ClassicPlatform.Dem.Replay

/-!
# Displacement

Which event has to make room in a full event memory, and what is left of it afterwards.
-/
namespace Dem

open EventStatusRec Function List Option Slots

/-! ## The choice -/

section

variable (config : Config) (s : State) (event : Nat)

/-- An entry that may go and whose event is passive and not more important than the new one. -/
def PassiveCandidate (entry : EventRec) : Prop :=
  mayMakeRoom config s event entry.dataId = true ∧
    (config.event event).eventPriority ≤ getEventPriority config entry.dataId ∧
    getEventPassive config s entry.dataId = true

/-- An entry that may go and whose event is not passive, but less important than the new one. -/
def ActiveCandidate (entry : EventRec) : Prop :=
  mayMakeRoom config s event entry.dataId = true ∧
    (config.event event).eventPriority < getEventPriority config entry.dataId ∧
    getEventPassive config s entry.dataId = false

/-- The choice is the oldest passive candidate or, without one, the oldest active candidate. -/
structure RightVictim (buffer : List EventRec) (victim : Option Nat) : Prop where
  oldest : ∀ id, victim = some id → ∃ entry, entry.eventId = id ∧
    (Eviction.Oldest EventRec.timeStamp (PassiveCandidate config s event) buffer entry ∨
      (∀ other ∈ buffer, ¬ PassiveCandidate config s event other) ∧
        Eviction.Oldest EventRec.timeStamp (ActiveCandidate config s event) buffer entry)
  none_iff : victim = none ↔
    (∀ other ∈ buffer, ¬ PassiveCandidate config s event other) ∧
      ∀ other ∈ buffer, ¬ ActiveCandidate config s event other

variable {config s event} {buffer : List EventRec}

private theorem none_of_filter {counts : EventRec → Bool} {eligible : EventRec → Prop}
    (absent : ∀ other ∈ buffer.filter counts, ¬ eligible other) :
    ∀ other ∈ buffer, ¬ (counts other ∧ eligible other) :=
  fun other member both => absent other (mem_filter.mpr ⟨member, both.1⟩) both.2

/-- The choice among the entries, with all time stamps below the largest one. -/
theorem getEventForDisplacement_right
    (below : ∀ entry ∈ buffer, entry.timeStamp < maxTimestampForRearrangement) :
    RightVictim config s event buffer (getEventForDisplacement config s event buffer) := by
  have filtered_below : ∀ entry ∈ buffer.filter fun entry =>
      mayMakeRoom config s event entry.dataId, entry.timeStamp < maxTimestampForRearrangement :=
    fun entry member => below entry (mem_of_mem_filter member)
  constructor
  · intro id chosen
    rw [getEventForDisplacement, map_eq_some_iff] at chosen
    obtain ⟨entry, chosen, rfl⟩ := chosen
    refine ⟨entry, rfl, ?_⟩
    rcases Eviction.choose_eq_some filtered_below (fun other _ strictly => by
      simp only [decide_eq_true_eq] at strictly ⊢
      exact strictly.le) chosen with oldest | ⟨none_passive, oldest⟩
    · have candidate := (Eviction.oldest_filter _).mp oldest
      simp only [decide_eq_true_eq] at candidate
      exact .inl candidate
    · have candidate := (Eviction.oldest_filter _).mp oldest
      have no_candidate := none_of_filter none_passive
      simp only [decide_eq_true_eq] at candidate no_candidate
      exact .inr ⟨no_candidate, candidate⟩
  · rw [getEventForDisplacement, map_eq_none_iff, chooseForDisplacement,
      Eviction.choose_eq_none filtered_below fun other _ strictly => by
        simp only [decide_eq_true_eq] at strictly ⊢
        exact strictly.le]
    simp [PassiveCandidate, ActiveCandidate]

end

/-! ## A small configuration -/

/-- Two events without options. -/
def sampleConfig : Config where
  numEvents := 2
  event _ := {}
  combinedDTCConfig _ := ⟨⟨[], none⟩, 0, .notUsed, {}⟩
  usePrimaryMemorySupport := true
  useSecondaryMemorySupport := false
  eventDisplacementSupport := true
  obdDisplacementSupport := false
  testFailedStorage := true
  treatConfirmedEventsAsActive := false
  failureProcessingInternal := true
  agingProcessingInternal := true
  agingClear := .allFail
  healingClear := .allFail
  eventCombinationType1 := false
  clearCombinedAgingCountersOnFail := false
  combinedDtcStatusAging := false
  milIndicatorId := 0
  obdFreezeFrameClass := none
  freezeFrameCapture := .never
  extendedDataCapture := .never
  ffDataInPreInit := false
  extDataInPreInit := false
  maxSizeFFData := 0
  maxSizeExtData := 0
  nofTimeBasePredeb := 0
  taskTime := 1
  events_pos := by decide
  indicators_apart _ _ _ _ member := absurd member not_mem_nil

/-- An initialized module with empty buffers; the primary memory has `size` places. -/
def blankState (size : Nat) : State where
  demState := .initialized
  operationCycles _ := false
  status _ := {}
  eventBuffer
    | .primary => List.replicate size {}
    | _ => []
  data := ⟨fun _ => [], fun _ => [], [], [], 0, 0, fun _ => false⟩
  indicators _ := {}
  timeBase _ := {}
  eventTimeStamp := 0
  dtcRecordDisabled := none
  log := []

/-- Events of different importance, each with a DTC that also lists event 4. -/
def rankedConfig : Config :=
  { sampleConfig with
    numEvents := 5
    eventCombinationType1 := true
    event := fun event =>
      { eventPriority := [0, 2, 1, 3, 2, 4].getD event 0
        agingCycleRef := 1
        dtcClass := some ⟨[event, 4], none⟩ }
    events_pos := by decide
    indicators_apart := fun _ _ _ _ member => absurd member not_mem_nil }

/-- The oldest entry is too important, the next one is active, and of the passive ones event 5 is
the older one. -/
theorem getEventForDisplacement_right_sample :
    let s := (blankState 4).setStatus 3 { eventStatusExtended := { testFailed := true } }
    let buffer : List EventRec := [{ eventId := 4, timeStamp := 6 }, { eventId := 2, timeStamp := 1 },
      { eventId := 5, timeStamp := 4 }, { eventId := 3, timeStamp := 2 }]
    getEventForDisplacement rankedConfig s 1 buffer = some 5 ∧
      RightVictim rankedConfig s 1 buffer (getEventForDisplacement rankedConfig s 1 buffer) :=
  ⟨by decide, getEventForDisplacement_right (by decide)⟩

/-- Without the storage of the test failed bit, an event that has not failed is still not passive
before it has been tested in the operation cycle: it is not displaced. -/
theorem untested_event_stays :
    let config := { sampleConfig with testFailedStorage := false }
    ((blankState 1).bits 2).testFailed = false ∧
      mayMakeRoom config (blankState 1) 1 (.event 2) = true ∧
      (config.event 1).eventPriority ≤ getEventPriority config (.event 2) ∧
      getEventForDisplacement config (blankState 1) 1 [{ eventId := 2 }] = none := by
  decide

/-! ## What is left of a displaced event -/

abbrev EventStatusRec.FailureClear (record : EventStatusRec) : Prop :=
  record.failureCounter = 0 ∧ record.failedDuringFailureCycle = false ∧
    record.passedDuringFailureCycle = false

abbrev EventStatusRec.AgingClear (record : EventStatusRec) : Prop :=
  record.agingCounter = 0 ∧ record.failedDuringAgingCycle = false ∧
    record.passedDuringAgingCycle = false

section

variable (config : Config) (s : State) (event : Nat) (origin : Origin)

abbrev IndicatorsClear : Prop :=
  ∀ own ∈ (config.event event).indicatorAttributes,
    (s.indicators own.indicatorBufferIndex).failureCounter = 0 ∧
      (s.indicators own.indicatorBufferIndex).healingCounter = 0

/-- Nothing is left of an event: no entry, no data, and a record and indicators that do not show
that it was stored. -/
structure NothingLeft : Prop where
  entry : ¬ s.Stored origin event
  frames : ∀ frame ∈ s.data.freezeFrames origin, frame.eventId ≠ config.idToFind event
  extData : ∀ record ∈ s.data.extData origin, record.eventId ≠ config.idToFind event
  confirmed : (s.bits event).confirmedDTC = false
  warning : (s.bits event).warningIndicatorRequested = false
  failure : (s.status event).FailureClear
  aging : (s.status event).AgingClear
  indicators : IndicatorsClear config s event

/-- There is neither an entry nor a free place for an event, and `victim` is to make room. -/
structure Displaces (victim : Nat) : Prop where
  unstored : place event (s.eventBuffer origin) = none
  full : place 0 (s.eventBuffer origin) = none
  supported : config.eventDisplacementSupport = true
  chosen : getEventForDisplacement config s event (s.eventBuffer origin) = some victim
  valid : config.validEventId victim = true

/-- The ids under which the freeze frames of some events are deleted. -/
def frameIds (events : List Nat) : List DataId :=
  (events.filter fun event => (config.dataClasses event).freezeFrameClass.isSome).map
    config.idToFind

def extDataIds (events : List Nat) : List DataId :=
  (events.filter fun event => (config.dataClasses event).extendedDataClass.isSome).map
    config.idToFind

/-- What displacement does not take care of is not there before. -/
structure DisplacesCleanly : Prop where
  listed : event ∈ displacedWith config event
  warning : (s.bits event).warningIndicatorRequested = false
  failure : config.failureProcessingInternal = false → (s.status event).FailureClear
  aging : (s.status event).AgingClear
  frames : config.idToFind event ∉ frameIds config (displacedWith config event) →
    ∀ frame ∈ s.data.freezeFrames origin, frame.eventId ≠ config.idToFind event
  extData : amount ExtDataRec.eventId (config.idToFind event) (s.data.extData origin) ≤
    (extDataIds config (displacedWith config event)).count (config.idToFind event)
  indicators : (config.event event).indicatorValid = false → IndicatorsClear config s event

/-- There is nothing to take from the other events of the DTC. -/
structure SparesOthers : Prop where
  status : ∀ other ∈ displacedWith config event, other ≠ event →
    (s.status other).displace config = s.status other
  entries : ∀ other ∈ displacedWith config event, other ≠ event → ¬ s.Stored origin other
  frames : ∀ frame ∈ s.data.freezeFrames origin, frame.eventId ≠ config.idToFind event →
    frame.eventId ∉ frameIds config (displacedWith config event)
  extData : ∀ record ∈ s.data.extData origin, record.eventId ≠ config.idToFind event →
    record.eventId ∉ extDataIds config (displacedWith config event)
  indicators : ∀ other ∈ displacedWith config event, other ≠ event →
    (config.event other).indicatorValid = true →
    ∀ own ∈ (config.event other).indicatorAttributes, s.indicators own.indicatorBufferIndex = {}

/-- All records outside of one memory and the spared ones in it are where they were. -/
def Kept {Record : Type} (spared : Record → Prop) (before after : Origin → List Record) : Prop :=
  ∀ (memory : Origin) (index : Nat) (record : Record), (before memory)[index]? = some record →
    memory ≠ origin ∨ spared record → (after memory)[index]? = some record

/-- Only one event and its data have changed. -/
structure OthersUntouched (s' : State) : Prop where
  status : ∀ other, other ≠ event → s'.status other = s.status other
  entries : Kept origin (fun entry => entry.eventId ≠ event) s.eventBuffer s'.eventBuffer
  frames : Kept origin (fun frame => frame.eventId ≠ config.idToFind event)
    s.data.freezeFrames s'.data.freezeFrames
  extData : Kept origin (fun record => record.eventId ≠ config.idToFind event)
    s.data.extData s'.data.extData
  indicators : ∀ other, other ≠ event → ∀ own ∈ (config.event other).indicatorAttributes,
    s'.indicators own.indicatorBufferIndex = s.indicators own.indicatorBufferIndex

/-- What happens to `s` while some events are displaced one after the other. -/
structure Displaced (events : List Nat) (found : State × Option Nat) : Prop where
  unrepeated : Unrepeated found.1
  status : ∀ event, found.1.status event =
    if event ∈ events then (s.status event).displace config else s.status event
  entries : found.1.eventBuffer = update s.eventBuffer origin
    ((s.eventBuffer origin).map fun entry => if entry.eventId ∈ events then {} else entry)
  freed : ∀ index, found.2 = some index →
    ∃ entry, (s.eventBuffer origin)[index]? = some entry ∧ entry.eventId ∈ events
  frames : found.1.data.freezeFrames = update s.data.freezeFrames origin
    ((s.data.freezeFrames origin).map fun frame =>
      if frame.eventId ∈ frameIds config events then {} else frame)
  extData : found.1.data.extData = update s.data.extData origin
    (eraseAll ExtDataRec.eventId {} (extDataIds config events) (s.data.extData origin))
  indicators : ∀ event, ∀ own ∈ (config.event event).indicatorAttributes,
    found.1.indicators own.indicatorBufferIndex =
      if event ∈ events ∧ (config.event event).indicatorValid = true then {}
      else s.indicators own.indicatorBufferIndex

end

section

variable {config : Config} {event : Nat} {origin : Origin}

theorem idToDelete_combined : idToDelete config event (config.combined event).isSome =
    config.idToFind event := by
  rw [idToDelete]
  split
  · rfl
  next absent =>
    rw [Config.idToFind, not_isSome_iff_eq_none.mp absent]

theorem idToFind_ne_null : config.idToFind event ≠ .null := by
  rw [Config.idToFind]
  split <;> nofun

variable {indicators : Nat → IndicatorStatus}

theorem resetIndicatorCounters_own {own : IndicatorAttribute}
    (handled : own ∈ config.indicatorsOf event) :
    resetIndicatorCounters config event indicators own.indicatorBufferIndex = {} := by
  rw [resetIndicatorCounters]
  generalize config.indicatorsOf event = attributes at handled
  induction attributes using List.reverseRecOn with
  | nil => exact absurd handled not_mem_nil
  | append_singleton front last ih =>
    rw [foldl_append, foldl_cons, foldl_nil]
    by_cases same : own.indicatorBufferIndex = last.indicatorBufferIndex
    · rw [same, setIndicator, update_self]
    · rw [setIndicator, update_of_ne same]
      rcases mem_append.mp handled with earlier | final
      · exact ih earlier
      · exact absurd (congrArg _ (mem_singleton.mp final)) same

theorem resetIndicatorCounters_other {index : Nat}
    (apart : ∀ own ∈ (config.event event).indicatorAttributes, own.indicatorBufferIndex ≠ index) :
    resetIndicatorCounters config event indicators index = indicators index := by
  have handled : ∀ own ∈ config.indicatorsOf event, own.indicatorBufferIndex ≠ index := by
    rw [Config.indicatorsOf]
    split
    · exact apart
    · nofun
  exact Sweep.foldl_frame (fun indicators => indicators index)
    (fun own member _ => update_of_ne (handled own member).symm _ _) indicators

section

variable (data : DataBuffers)

theorem dropData_freezeFrames :
    (dropData config data event origin).freezeFrames =
      if (config.dataClasses event).freezeFrameClass.isSome then
        update data.freezeFrames origin ((data.freezeFrames origin).map fun frame =>
          if frame.eventId = config.idToFind event then {} else frame)
      else data.freezeFrames := by
  simp only [dropData, deleteFreezeFrameDataMem, idToDelete_combined]
  split <;> split <;> rfl

theorem dropData_extData :
    (dropData config data event origin).extData =
      if (config.dataClasses event).extendedDataClass.isSome then
        update data.extData origin
          (erase ExtDataRec.eventId {} (config.idToFind event) (data.extData origin))
      else data.extData := by
  simp only [dropData, deleteExtendedDataMem, idToDelete_combined]
  split <;> split <;> rfl

end

variable {s : State}

theorem Kept.update {Record : Type} {spared : Record → Prop} {before : Origin → List Record}
    {records : List Record} (kept : ∀ (index : Nat) (record : Record),
      (before origin)[index]? = some record → spared record → records[index]? = some record) :
    Kept origin spared before (update before origin records) := by
  intro memory index record there apart
  by_cases same : memory = origin
  · subst same
    rw [update_self]
    exact kept index record there (apart.resolve_left fun apart => apart rfl)
  · rw [update_of_ne same, there]

theorem Displaced.nothing (unrepeated : Unrepeated s) : Displaced config s origin [] (s, none) where
  unrepeated := unrepeated
  status _ := (if_neg not_mem_nil).symm
  entries := by simp
  freed _ found := by cases found
  frames := by simp [frameIds]
  extData := by simp [extDataIds, eraseAll]
  indicators _ _ _ := (if_neg fun both => not_mem_nil both.1).symm

private theorem displace_displace (record : EventStatusRec) :
    (record.displace config).displace config = record.displace config := by
  simp only [displace, unconfirm]
  cases config.failureProcessingInternal <;> simp

theorem Displaced.step {events : List Nat} {found : State × Option Nat}
    (displaced : Displaced config s origin events found) (is_event : event ≠ 0) :
    Displaced config s origin (events ++ [event])
      ((findAndDisplaceEvent config found.1 event origin).1,
        (findAndDisplaceEvent config found.1 event origin).2.or found.2) where
  unrepeated := displaced.unrepeated.fewer findAndDisplaceEvent_fewer
  status other := by
    change update found.1.status event _ other = _
    by_cases own : other = event
    · subst own
      rw [update_self, if_pos (mem_append_right _ (mem_singleton_self _))]
      change (found.1.status other).displace config = _
      rw [displaced.status]
      split
      · exact displace_displace _
      · rfl
    · rw [update_of_ne own, displaced.status]
      simp [own]
  entries := by
    change update found.1.eventBuffer origin (eraseFrom event (found.1.eventBuffer origin)) = _
    rw [eraseFrom, erase_eq_map (displaced.unrepeated origin event is_event), displaced.entries,
      update_self, update_idem, List.map_map]
    congr 1
    apply map_congr_left
    intro entry _
    simp only [comp_apply, mem_append, mem_singleton]
    grind
  freed index freed := by
    rcases or_eq_some_iff.mp freed with here | ⟨-, earlier⟩
    · obtain ⟨entry, there, own⟩ := position_eq_some here
      rw [displaced.entries, update_self, List.getElem?_map, map_eq_some_iff] at there
      obtain ⟨before, there, rfl⟩ := there
      refine ⟨before, there, mem_append_right _ (mem_singleton.mpr ?_)⟩
      split at own
      · exact absurd own is_event.symm
      · exact own
    · obtain ⟨entry, there, listed⟩ := displaced.freed index earlier
      exact ⟨entry, there, mem_append_left _ listed⟩
  frames := by
    change (dropData config found.1.data event origin).freezeFrames = _
    rw [dropData_freezeFrames, displaced.frames, frameIds, frameIds, filter_append, filter_singleton]
    cases (config.dataClasses event).freezeFrameClass.isSome with
    | true =>
      rw [if_pos rfl, cond_true, update_self, update_idem, List.map_map]
      congr 1
      apply map_congr_left
      intro frame _
      have known : config.idToFind event ≠ .null := idToFind_ne_null
      simp only [comp_apply, map_append, map_cons, map_nil, mem_append, mem_singleton]
      grind
    | false => rw [cond_false, append_nil, if_neg Bool.false_ne_true]
  extData := by
    change (dropData config found.1.data event origin).extData = _
    rw [dropData_extData, displaced.extData, extDataIds, extDataIds, filter_append, filter_singleton]
    cases (config.dataClasses event).extendedDataClass.isSome with
    | true =>
      rw [if_pos rfl, cond_true, update_self, update_idem, map_append, eraseAll, eraseAll, foldl_append]
      rfl
    | false => rw [cond_false, append_nil, if_neg Bool.false_ne_true]
  indicators other own member := by
    change resetIndicatorCounters config event found.1.indicators own.indicatorBufferIndex = _
    by_cases same : other = event
    · subst same
      cases valid : (config.event other).indicatorValid with
      | true =>
        rw [resetIndicatorCounters_own (by rwa [Config.indicatorsOf, valid, if_pos rfl])]
        simp
      | false =>
        have nothing : config.indicatorsOf other = [] := by rw [Config.indicatorsOf, valid]; rfl
        rw [resetIndicatorCounters, nothing, foldl_nil, displaced.indicators other own member]
        simp [valid]
    · rw [resetIndicatorCounters_other fun mine handled =>
          config.indicators_apart event other (Ne.symm same) mine handled own member,
        displaced.indicators other own member]
      simp [same]

theorem foldl_displaced (unrepeated : Unrepeated s) (events : List Nat)
    (are_events : ∀ event ∈ events, event ≠ 0) :
    Displaced config s origin events (events.foldl (fun found other =>
      let next := findAndDisplaceEvent config found.1 other origin
      (next.1, next.2.or found.2)) (s, none)) := by
  induction events using List.reverseRecOn with
  | nil => exact .nothing unrepeated
  | append_singleton front last ih =>
    rw [foldl_append]
    exact (ih fun event member => are_events event (mem_append_left _ member)).step
      (are_events last (mem_append_right _ (mem_singleton_self _)))

end

/-! ## The whole displacement -/

section

variable {config : Config} {s s' : State} {event victim : Nat} {origin : Origin}

private theorem valid_ne_zero (valid : config.validEventId event = true) : event ≠ 0 := by
  rintro rfl
  simp [Config.validEventId] at valid

theorem displacedWith_ne_zero (valid : config.validEventId victim = true) :
    ∀ other ∈ displacedWith config victim, other ≠ 0 := by
  intro other member
  rw [displacedWith] at member
  split at member
  · exact valid_ne_zero (mem_filter.mp member).2
  · exact mem_singleton.mp member ▸ valid_ne_zero valid

/-- `s'` is what is left when the freed place has been handed to the new event. -/
structure Handed (event : Nat) (origin : Origin) (found : State × Option Nat) (s' : State) :
    Prop where
  status : s'.status = found.1.status
  frames : s'.data.freezeFrames = found.1.data.freezeFrames
  extData : s'.data.extData = found.1.data.extData
  indicators : s'.indicators = found.1.indicators
  kept : ∀ memory index, memory ≠ origin ∨ found.2 ≠ some index →
    (s'.eventBuffer memory)[index]? = (found.1.eventBuffer memory)[index]?
  handed : ∀ index entry, found.2 = some index → (s'.eventBuffer origin)[index]? = some entry →
    entry.eventId = event

variable (displaces : Displaces config s event origin victim)

section
include displaces

theorem Displaces.handed (unrepeated : Unrepeated s) :
    ∃ found, Displaced config s origin (displacedWith config victim) found ∧
      Handed event origin found (storeEventMem config s event origin).1 := by
  refine ⟨_, foldl_displaced unrepeated _ (displacedWith_ne_zero displaces.valid), ?_⟩
  rw [storeEventMem, displaces.unstored, displaces.full]
  simp only [displaces.supported, if_true, lookupEventForDisplacement, displaces.chosen,
    displaces.valid]
  generalize (displacedWith config victim).foldl _ (s, none) = found
  split
  next index freed =>
    refine ⟨rfl, rfl, rfl, rfl, fun memory other apart => ?_, fun other entry here there => ?_⟩
    · change (update found.1.eventBuffer origin _ memory)[other]? = _
      by_cases same : memory = origin
      · subst same
        have elsewhere : index ≠ other := by
          rintro rfl
          exact (apart.resolve_left fun apart => apart rfl) freed
        rw [update_self, List.getElem?_set_ne elsewhere]
      · rw [update_of_ne same]
    · obtain rfl : index = other := Option.some.inj (freed.symm.trans here)
      change (update found.1.eventBuffer origin _ origin)[index]? = _ at there
      rw [update_self] at there
      grind [EventRec.update]
  next missing =>
    refine ⟨rfl, rfl, rfl, rfl, fun _ _ _ => rfl, fun index _ here _ => ?_⟩
    cases missing.symm.trans here

theorem Displaces.stored : s.Stored origin victim := by
  have chosen := displaces.chosen
  rw [getEventForDisplacement, map_eq_some_iff] at chosen
  obtain ⟨entry, chosen, own⟩ := chosen
  exact ⟨entry, mem_of_mem_filter (Eviction.choose_mem chosen), own⟩

theorem Displaces.new {other : Nat} (stored : s.Stored origin other) : other ≠ event := by
  rintro rfl
  exact (amount_pos.mpr stored).ne' (position_eq_none.mp displaces.unstored)

end

section

variable {found : State × Option Nat}
  (displaced : Displaced config s origin (displacedWith config victim) found)
  (handed : Handed event origin found s')
include displaced handed

private theorem entry_kept {index : Nat} {entry : EventRec}
    (there : (s.eventBuffer origin)[index]? = some entry)
    (spared : entry.eventId ∉ displacedWith config victim) :
    (s'.eventBuffer origin)[index]? = some entry := by
  have unfreed : found.2 ≠ some index := by
    intro freed
    obtain ⟨own, here, listed⟩ := displaced.freed index freed
    exact spared (Option.some.inj (there.symm.trans here) ▸ listed)
  rw [handed.kept origin index (.inr unfreed), displaced.entries, update_self, List.getElem?_map,
    there, map_some, if_neg spared]

private theorem stored_iff {other : Nat} (is_event : other ≠ 0) (new : other ≠ event) :
    s'.Stored origin other ↔
      s.Stored origin other ∧ other ∉ displacedWith config victim := by
  constructor
  · rintro ⟨entry, member, rfl⟩
    obtain ⟨index, there⟩ := getElem?_of_mem member
    have unfreed : found.2 ≠ some index := fun freed =>
      new (handed.handed index entry freed there)
    rw [handed.kept origin index (.inr unfreed), displaced.entries, update_self,
      List.getElem?_map, map_eq_some_iff] at there
    obtain ⟨before, there, rfl⟩ := there
    split at is_event
    · exact absurd rfl is_event
    next unlisted =>
      rw [if_neg unlisted]
      exact ⟨⟨before, mem_of_getElem? there, rfl⟩, unlisted⟩
  · rintro ⟨⟨entry, member, rfl⟩, unlisted⟩
    obtain ⟨index, there⟩ := getElem?_of_mem member
    exact ⟨entry, mem_of_getElem? (entry_kept displaced handed there unlisted), rfl⟩

private theorem frames_gone_iff :
    (∀ frame ∈ s'.data.freezeFrames origin, frame.eventId ≠ config.idToFind victim) ↔
      (config.idToFind victim ∉ frameIds config (displacedWith config victim) →
        ∀ frame ∈ s.data.freezeFrames origin, frame.eventId ≠ config.idToFind victim) := by
  rw [handed.frames, displaced.frames, update_self, List.forall_mem_map]
  constructor
  · intro gone unlisted frame member own
    refine gone frame member ?_
    rwa [if_neg (own ▸ unlisted)]
  · intro gone frame member
    split
    · exact Ne.symm idToFind_ne_null
    next unlisted => exact fun own => gone (own ▸ unlisted) frame member own

private theorem amount_extData {id : DataId} (known : id ≠ .null) :
    amount ExtDataRec.eventId id (s'.data.extData origin) =
      amount ExtDataRec.eventId id (s.data.extData origin) -
        (extDataIds config (displacedWith config victim)).count id := by
  rw [handed.extData, displaced.extData, update_self]
  exact amount_eraseAll (Ne.symm known)

private theorem extData_gone_iff :
    (∀ record ∈ s'.data.extData origin, record.eventId ≠ config.idToFind victim) ↔
      amount ExtDataRec.eventId (config.idToFind victim) (s.data.extData origin) ≤
        (extDataIds config (displacedWith config victim)).count (config.idToFind victim) := by
  rw [← Nat.sub_eq_zero_iff_le, ← amount_extData displaced handed idToFind_ne_null, amount,
    countP_eq_zero]
  simp

theorem SparesOthers.untouched (spares : SparesOthers config s victim origin) :
    OthersUntouched config s victim origin s' where
  status other apart := by
    rw [handed.status, displaced.status]
    split
    next listed => exact spares.status other listed apart
    · rfl
  entries memory index entry there apart := by
    by_cases same : memory = origin
    · subst same
      refine entry_kept displaced handed there fun listed => ?_
      exact spares.entries _ listed (apart.resolve_left fun apart => apart rfl)
        ⟨entry, mem_of_getElem? there, rfl⟩
    · rw [handed.kept memory index (.inl same), displaced.entries, update_of_ne same, there]
  frames := by
    rw [handed.frames, displaced.frames]
    refine .update fun index frame there apart => ?_
    rw [List.getElem?_map, there, map_some, if_neg (spares.frames frame (mem_of_getElem? there) apart)]
  extData := by
    rw [handed.extData, displaced.extData]
    exact .update fun index record there apart =>
      getElem?_eraseAll there (spares.extData record (mem_of_getElem? there) apart)
  indicators other apart own member := by
    rw [handed.indicators, displaced.indicators other own member]
    split
    next reset => exact (spares.indicators other reset.1 apart reset.2 own member).symm
    · rfl

include displaces

theorem nothingLeft_iff :
    NothingLeft config s' victim origin ↔ DisplacesCleanly config s victim origin := by
  have gone : ¬ s'.Stored origin victim ↔ victim ∈ displacedWith config victim := by
    rw [stored_iff displaced handed (valid_ne_zero displaces.valid)
      (displaces.new displaces.stored)]
    simp [displaces.stored]
  have record (listed : victim ∈ displacedWith config victim) :
      s'.status victim = (s.status victim).displace config := by
    rw [handed.status, displaced.status, if_pos listed]
  have failure (listed : victim ∈ displacedWith config victim) :
      (s'.status victim).FailureClear ↔
        (config.failureProcessingInternal = false → (s.status victim).FailureClear) := by
    rw [record listed, displace]
    cases config.failureProcessingInternal <;> simp [FailureClear]
  constructor
  · rintro ⟨entry, frames, extData, -, warning, failed, aging, indicators⟩
    have listed := gone.mp entry
    rw [State.bits, record listed] at warning
    rw [record listed] at aging
    refine ⟨listed, warning, (failure listed).mp failed, aging,
      (frames_gone_iff displaced handed).mp frames,
      (extData_gone_iff displaced handed).mp extData, fun invalid own member => ?_⟩
    have cleared := indicators own member
    rwa [handed.indicators, displaced.indicators victim own member,
      if_neg fun both => by simp [invalid] at both] at cleared
  · rintro ⟨listed, warning, failed, aging, frames, extData, indicators⟩
    refine ⟨gone.mpr listed, (frames_gone_iff displaced handed).mpr frames,
      (extData_gone_iff displaced handed).mpr extData, ?_, ?_, (failure listed).mpr failed, ?_,
      fun own member => ?_⟩
    · rw [State.bits, record listed]
      rfl
    · rwa [State.bits, record listed]
    · rwa [record listed]
    · rw [handed.indicators, displaced.indicators victim own member]
      split
      · exact ⟨rfl, rfl⟩
      next invalid =>
        exact indicators (Bool.eq_false_iff.mpr fun valid => invalid ⟨listed, valid⟩) own member

theorem OthersUntouched.spares (others : OthersUntouched config s victim origin s') :
    SparesOthers config s victim origin where
  status other listed apart := by
    have same := others.status other apart
    rwa [handed.status, displaced.status, if_pos listed] at same
  entries other listed apart stored := by
    have still : s'.Stored origin other := by
      obtain ⟨entry, member, rfl⟩ := stored
      obtain ⟨index, there⟩ := getElem?_of_mem member
      exact ⟨entry, mem_of_getElem? (others.entries origin index entry there (.inr apart)), rfl⟩
    exact ((stored_iff displaced handed (displacedWith_ne_zero displaces.valid other listed)
      (displaces.new stored)).mp still).2 listed
  frames frame member apart listed := by
    obtain ⟨index, there⟩ := getElem?_of_mem member
    have kept := others.frames origin index frame there (.inr apart)
    rw [handed.frames, displaced.frames, update_self, List.getElem?_map, there, map_some,
      if_pos listed] at kept
    obtain ⟨other, -, null⟩ := mem_map.mp listed
    cases kept
    exact idToFind_ne_null null
  extData record member apart listed := by
    -- one record with this id is erased, but none may be missing
    have kept := amount_le fun index other there own =>
      others.extData origin index other there (.inr (ne_of_eq_of_ne own apart))
    obtain ⟨other, -, own⟩ := mem_map.mp listed
    have erased : 0 < (extDataIds config (displacedWith config victim)).count record.eventId :=
      count_pos_iff.mpr listed
    have stored : 0 < amount ExtDataRec.eventId record.eventId (s.data.extData origin) :=
      amount_pos.mpr ⟨record, member, rfl⟩
    rw [amount_extData displaced handed (own ▸ idToFind_ne_null)] at kept
    omega
  indicators other listed apart valid own member := by
    rw [← others.indicators other apart own member, handed.indicators,
      displaced.indicators other own member, if_pos ⟨listed, valid⟩]

end

/-- In every state that is reached, a displacement leaves nothing of the victim behind exactly if
there was nothing that displacement does not take care of, and it changes nothing of the other
events exactly if there was nothing to take from the other events of the DTC. -/
theorem displacement_clean_iff (reached : Reached config s) :
    (∀ calls, Reached config (Machine.run (step config) s calls).1) ∧
    ∀ event origin victim, Displaces config s event origin victim →
      let s' := (storeEventMem config s event origin).1
      (NothingLeft config s' victim origin ↔ DisplacesCleanly config s victim origin) ∧
        (OthersUntouched config s victim origin s' ↔ SparesOthers config s victim origin) := by
  refine ⟨run_reached reached, fun event origin victim displaces => ?_⟩
  obtain ⟨found, displaced, handed⟩ := displaces.handed reached.unrepeated
  exact ⟨nothingLeft_iff displaces displaced handed,
    fun others => others.spares displaces displaced handed,
    fun spares => spares.untouched displaced handed⟩

end

/-- Two events have failed; there is no room for a third one. -/
def crowdedState : State :=
  (Machine.run (step rankedConfig) (blankState 2)
    [.setOperationCycleState 0 true, .setEventStatus 3 .failed fun _ => true,
      .setEventStatus 5 .failed fun _ => true]).1

theorem displacement_clean_iff_sample :
    let s' := (storeEventMem rankedConfig crowdedState 2 .primary).1
    displacedWith rankedConfig 3 = [3, 4] ∧ s'.Stored .primary 2 ∧ s'.Stored .primary 5 ∧
      NothingLeft rankedConfig s' 3 .primary ∧
      OthersUntouched rankedConfig crowdedState 3 .primary s' := by
  refine ⟨by decide, by decide +kernel, by decide +kernel, ?_⟩
  have blank : Reached rankedConfig (blankState 2) := .empty fun origin => by cases origin <;> decide
  have reached : Reached rankedConfig crowdedState := run_reached blank _
  obtain ⟨nothing, others⟩ := (displacement_clean_iff reached).2 2 .primary 3
    ⟨by decide +kernel, by decide +kernel, rfl, by decide +kernel, by decide⟩
  refine ⟨nothing.mpr ⟨by decide, by decide +kernel, nofun, by decide +kernel, by decide +kernel,
    by decide +kernel, nofun⟩, others.mpr ⟨by decide +kernel, by decide +kernel,
    by decide +kernel, by decide +kernel, ?_⟩⟩
  exact fun _ _ _ _ _ member => absurd member not_mem_nil

/-- The first event ages and is less important than the second one. -/
def agingConfig : Config :=
  { sampleConfig with
    event := fun event =>
      if event = 1 then
        { eventPriority := 2, agingAllowed := true, agingCycleCounterThreshold := some 5 }
      else {}
    indicators_apart := fun first _ _ _ member => by
      by_cases one : first = 1 <;> simp [one] at member }

/-- The first event fails in one cycle and passes in the next; then the second one fails. -/
def displacingCalls : List Call :=
  [.setOperationCycleState 0 true, .setEventStatus 1 .failed fun _ => true,
    .setOperationCycleState 0 false, .setOperationCycleState 0 true,
    .setEventStatus 1 .passed fun _ => true, .setOperationCycleState 0 false,
    .setOperationCycleState 0 true, .setEventStatus 2 .failed fun _ => true]

/-- The first event is displaced, but its aging counter stays. -/
theorem displaced_keeps_agingCounter :
    let s := (Machine.run (step agingConfig) (blankState 1) displacingCalls).1
    Happening.displaced 1 ∈ s.log ∧ ¬ s.Stored .primary 1 ∧ s.Stored .primary 2 ∧
      (s.status 1).agingCounter = 1 := by
  decide +kernel

end Dem
