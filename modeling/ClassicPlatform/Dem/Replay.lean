import ClassicPlatform.Lib.Machine
import ClassicPlatform.Dem.Unrepeated

/-!
# The life of a record

The log of the module is enough to know what became of the status record of an event: time
stamps, debounce counters and the warning indicator apart, the record is what a small automaton
makes of the happenings, one after the other. What is said about the record over whole runs is
proved about the automaton.
-/
namespace Dem

open Function List

/-! ## The automaton of one event -/

/-- A record without what the log does not speak of. -/
def EventStatusRec.core (record : EventStatusRec) : EventStatusRec :=
  { record with
    timeStamp := 0
    occurrence := 0
    fdcInternal := 0
    eventStatusExtended := { record.eventStatusExtended with warningIndicatorRequested := false }
    errorStatusChanged := false }

def Happening.event : Happening → Option Nat
  | .failed event | .passed event | .entered event | .refused event | .displaced event
  | .cleared event | .otherFailed event | .opened _ event | .closed _ event | .aging event _ _ =>
    some event
  | .started _ | .ended _ => none

/-- The cycles that are started after something has happened. -/
def Happening.cycles (cycles : Nat → Bool) : Happening → Nat → Bool
  | .started cycle => update cycles cycle true
  | .ended cycle => update cycles cycle false
  | _ => cycles

/-- The cycles that are started, and the record of an event. -/
structure Life where
  cycles : Nat → Bool
  record : EventStatusRec

namespace Life

/-- `operationCycleIsStarted`. -/
def started (life : Life) (cycle : Nat) : Bool :=
  decide (cycle < operationCycleIdEndmark) && life.cycles cycle

variable (config : Config) (event : Nat) (life : Life)

/-- A report of the event is accepted. -/
def reportable : Bool :=
  life.record.isAvailable && life.started (config.event event).operationCycleRef

/-- What a happening that is about the event does to its record; `none` if it cannot happen. -/
def change : Happening → Option EventStatusRec
  | .failed _ =>
    if life.reportable config event then some (onFailed config event life.started life.record)
    else none
  | .passed _ =>
    if life.reportable config event then some (onPassed config event life.started life.record)
    else none
  | .refused _ => some life.record.unconfirm
  | .displaced _ => some (life.record.displace config)
  | .cleared _ => some (life.record.reset config)
  | .otherFailed _ => some { life.record with agingCounter := 0 }
  | .opened cycle _ => some (onCycleStart config event cycle life.record)
  | .closed cycle _ =>
    if life.record.isAvailable then some (onCycleEnd config event cycle life.record) else none
  | .aging _ passed failed =>
    if config.agingProcessingInternal && life.record.eventStatusExtended.confirmedDTC then
      some (onAging config event passed failed life.record)
    else none
  | _ => some life.record

def replay (happening : Happening) : Option Life :=
  if happening.event = some event then
    (life.change config event happening).map fun record => ⟨happening.cycles life.cycles, record⟩
  else some { life with cycles := happening.cycles life.cycles }

/-- What became of an event while something happened. In between the record may change in what the
log does not speak of. -/
inductive Goes (first : Life) : List Happening → Life → Prop where
  | refl : Goes first [] first
  | quiet {happenings : List Happening} {last : Life} {record : EventStatusRec} :
      Goes first happenings last → record.core = last.record.core →
      Goes first happenings { last with record := record }
  | happens {happenings : List Happening} {last next : Life} {happening : Happening} :
      Goes first happenings last → last.replay config event happening = some next →
      Goes first (happenings ++ [happening]) next

end Life

/-- What the automaton of an event sees of a state. -/
def State.life (s : State) (event : Nat) : Life :=
  ⟨s.operationCycles, s.status event⟩

/-- From one state to another as the log says. -/
def Logged (config : Config) (s s' : State) : Prop :=
  ∃ happenings, s'.log = s.log ++ happenings ∧
    ∀ event, Life.Goes config event (s.life event) happenings (s'.life event)

/-- From one state that is reached to another, as the log says. -/
structure Follows (config : Config) (s s' : State) : Prop where
  logged : Logged config s s'
  reached : Reached config s → Reached config s'

section

variable {config : Config} {s s' s'' : State} {event : Nat}

variable {happening : Happening}

theorem Life.replay_cases {life next : Life}
    (happens : life.replay config event happening = some next) :
    next.cycles = happening.cycles life.cycles ∧
      (happening.event ≠ some event ∧ next.record = life.record ∨
        happening.event = some event ∧ life.change config event happening = some next.record) := by
  unfold replay at happens
  split at happens
  next own =>
    obtain ⟨record, changes, rfl⟩ := Option.map_eq_some_iff.mp happens
    exact ⟨rfl, .inr ⟨own, changes⟩⟩
  next other =>
    rw [← Option.some.inj happens]
    exact ⟨rfl, .inl ⟨other, rfl⟩⟩

theorem Life.Goes.trans {first middle last : Life} {earlier later : List Happening}
    (begins : Goes config event first earlier middle)
    (goes_on : Goes config event middle later last) :
    Goes config event first (earlier ++ later) last := by
  induction goes_on with
  | refl => rwa [append_nil]
  | quiet _ same ih => exact ih.quiet same
  | happens _ next ih =>
    rw [← append_assoc]
    exact ih.happens next

theorem Logged.trans (first : Logged config s s') (second : Logged config s' s'') :
    Logged config s s'' := by
  obtain ⟨earlier, log, lives⟩ := first
  obtain ⟨later, log', lives'⟩ := second
  exact ⟨earlier ++ later, by rw [log', log, append_assoc],
    fun event => (lives event).trans (lives' event)⟩

theorem Follows.trans (first : Follows config s s') (second : Follows config s' s'') :
    Follows config s s'' :=
  ⟨first.logged.trans second.logged, fun reached => second.reached (first.reached reached)⟩

theorem Logged.quiet (log : s'.log = s.log) (cycles : s'.operationCycles = s.operationCycles)
    (same : ∀ event, (s'.status event).core = (s.status event).core) : Logged config s s' := by
  refine ⟨[], by rw [log, append_nil], fun event => ?_⟩
  rw [State.life, State.life, cycles]
  exact .quiet .refl (same event)

theorem Follows.quiet (log : s'.log = s.log) (cycles : s'.operationCycles = s.operationCycles)
    (same : ∀ event, (s'.status event).core = (s.status event).core)
    (entries : s'.eventBuffer = s.eventBuffer) : Follows config s s' :=
  ⟨.quiet log cycles same, fun reached => reached.fewer (.of_eq entries)⟩

theorem Follows.later (second : Follows config s' s'') (first : Follows config s s') :
    Follows config s s'' :=
  first.trans second

theorem Follows.refl (s : State) : Follows config s s :=
  .quiet rfl rfl (fun _ => rfl) rfl

theorem Logged.note (log : s'.log = s.log ++ [happening])
    (lives : ∀ event, (s.life event).replay config event happening = some (s'.life event)) :
    Logged config s s' :=
  ⟨[happening], log, fun event => .happens .refl (lives event)⟩

theorem Follows.note (log : s'.log = s.log ++ [happening])
    (lives : ∀ event, (s.life event).replay config event happening = some (s'.life event))
    (entries : s'.eventBuffer = s.eventBuffer) : Follows config s s' :=
  ⟨.note log lives, fun reached => reached.fewer (.of_eq entries)⟩

variable {record : EventStatusRec}

theorem Follows.turn (about : happening.event = some event)
    (changes : (s.life event).change config event happening = some record) :
    Follows config s (s.turn event happening record) := by
  refine .note rfl (fun other => ?_) rfl
  have still : happening.cycles s.operationCycles = s.operationCycles := by
    cases happening with
    | started | ended => cases about
    | _ => rfl
  unfold Life.replay
  rw [about]
  by_cases own : other = event
  · subst own
    rw [changes]
    simp [State.life, State.turn, State.setStatus, State.note, still]
  · rw [if_neg fun same => own (Option.some.inj same).symm]
    simp [State.life, State.turn, State.setStatus, State.note, update_of_ne own, still]

theorem setStatus_view {View : Type} {other : Nat}
    (view : EventStatusRec → View) (same : view record = view (s.status event)) :
    view ((s.setStatus event record).status other) = view (s.status other) := by
  by_cases own : other = event
  · subst own
    simp [State.setStatus, same]
  · simp [State.setStatus, update_of_ne own]

theorem Follows.setStatus (same : record.core = (s.status event).core) :
    Follows config s (s.setStatus event record) :=
  .quiet rfl rfl (fun _ => setStatus_view EventStatusRec.core same) rfl

theorem Follows.foldl {Item : Type} {next : State → Item → State} {items : List Item}
    (each : ∀ s, ∀ item ∈ items, Follows config s (next s item)) (s : State) :
    Follows config s (items.foldl next s) :=
  List.foldlRecOn _ _ (.refl s) fun reached before item member =>
    before.trans (each reached item member)

/-! ## What the functions do to the records -/

theorem runPredebounce_follows (reported : EventStatus) :
    Follows config s (runPredebounce config s event reported).2 := by
  unfold runPredebounce
  split
  · exact .refl s
  · exact .setStatus rfl
  · exact .quiet rfl rfl (fun _ => rfl) rfl

theorem setEventTimeStamp_follows : Follows config s (setEventTimeStamp config s event) := by
  refine ⟨?_, fun reached => reached.fewer setEventTimeStamp_fewer⟩
  unfold setEventTimeStamp takeTimeStamp
  split <;> dsimp only <;> split <;>
    exact .quiet rfl rfl fun _ => setStatus_view EventStatusRec.core rfl

theorem resetAgingCounterEvtMem_follows (origin : Origin) :
    Follows config s (resetAgingCounterEvtMem config s event origin) := by
  refine ⟨?_, fun reached => reached.fewer resetAgingCounterEvtMem_fewer⟩
  unfold resetAgingCounterEvtMem
  split <;> exact .quiet rfl rfl fun _ => rfl

theorem clearAgingCounter_follows (origin : Origin) :
    Follows config s (clearAgingCounter config s event origin) := by
  unfold clearAgingCounter
  dsimp only
  split
  · have turned : Follows config s
        (s.turn event (.otherFailed event) { s.status event with agingCounter := 0 }) := .turn rfl rfl
    exact turned.trans (resetAgingCounterEvtMem_follows origin)
  · exact .refl s

section

variable (reportable : (s.life event).reportable config event = true)
include reportable

theorem updateEventOnFailed_follows : Follows config s (updateEventOnFailed config s event) := by
  have failed : Follows config s (s.turn event (.failed event)
      (onFailed config event s.operationCycleIsStarted (s.status event))) :=
    .turn rfl (if_pos reportable)
  unfold updateEventOnFailed clearCombinedEventAgingCounters
  split
  · split
    · exact failed.trans (.foldl (fun _ _ _ => clearAgingCounter_follows _) _)
    · exact failed
  · exact failed

theorem updateEventOnPassed_follows : Follows config s (updateEventOnPassed config s event) :=
  .turn rfl (if_pos reportable)

private theorem qualified_follows (status : EventStatus) :
    Follows config s (match status with
      | .failed => updateEventOnFailed config s event
      | .passed => updateEventOnPassed config s event
      | _ => s) := by
  split
  · exact updateEventOnFailed_follows reportable
  · exact updateEventOnPassed_follows reportable
  · exact .refl s

theorem updateEventStatusRec_follows (reported : EventStatus) :
    Follows config s (updateEventStatusRec config s event reported).2 := by
  let t := (runPredebounce config s event reported).2
  let counted := t.setStatus event { t.status event with errorStatusChanged := false }
  have debounced : Follows config s counted :=
    (runPredebounce_follows reported).trans (.setStatus rfl)
  have still : (counted.life event).reportable config event = true := by
    unfold counted t runPredebounce
    split <;> simpa [Life.reportable, Life.started, State.life, State.setStatus] using reportable
  have stamped (indicated : State) (newly : Prop) [Decidable newly] : Follows config indicated
      (if newly then setEventTimeStamp config indicated event else indicated) := by
    split
    · exact setEventTimeStamp_follows
    · exact .refl indicated
  have indicated (s : State) (status : EventStatus) :
      Follows config s (handleIndicators config s event status) :=
    .later (.setStatus rfl) (.quiet rfl rfl (fun _ => rfl) rfl)
  exact ((debounced.trans (qualified_follows still _)).trans (indicated _ _)).trans (stamped _ _)

end

theorem findAndDisplaceEvent_follows (origin : Origin) :
    Follows config s (findAndDisplaceEvent config s event origin).1 := by
  have turned : Follows config s (s.turn event (.displaced event) ((s.status event).displace config)) :=
    .turn rfl rfl
  exact ⟨turned.logged.trans (.quiet rfl rfl fun _ => rfl),
    fun reached => reached.fewer findAndDisplaceEvent_fewer⟩

theorem lookupEventForDisplacement_follows {origin : Origin} :
    Follows config s (lookupEventForDisplacement config s event origin).1 := by
  unfold lookupEventForDisplacement
  split
  · exact .refl s
  · split
    · refine List.foldlRecOn (motive := fun found : State × Option Nat => Follows config s found.1)
        _ _ (.refl s) ?_
      exact fun _ before other _ => before.trans (findAndDisplaceEvent_follows origin)
    · exact .refl s

theorem storeEventEvtMem_follows : Follows config s (storeEventEvtMem config s event).1 := by
  refine ⟨?_, .stored event⟩
  have entered (s : State) (origin : Origin) (index : Nat) :
      Logged config s ((writeEntry config s event origin index).note (.entered event)) :=
    .note rfl fun other => by
      simp only [Life.replay]
      split <;> rfl
  unfold storeEventEvtMem storeEventMem
  split
  · split
    · exact .quiet rfl rfl fun _ => rfl
    · split
      · exact entered s _ _
      · split
        · dsimp only
          split
          · exact lookupEventForDisplacement_follows.logged.trans (entered _ _ _)
          · exact lookupEventForDisplacement_follows.logged.trans (.quiet rfl rfl fun _ => rfl)
        · exact .quiet rfl rfl fun _ => rfl
  · exact .quiet rfl rfl fun _ => rfl

theorem handleEvent_follows (reported : EventStatus) (allowed : Nat → Bool) :
    Follows config s (handleEvent config s event reported allowed).1 := by
  unfold handleEvent
  split
  next accepted =>
    simp only [Bool.and_eq_true] at accepted
    have updated : Follows config s (updateEventStatusRec config s event reported).2 :=
      updateEventStatusRec_follows (Bool.and_eq_true _ _ ▸ ⟨accepted.1.1.2, accepted.1.2⟩) reported
    dsimp only
    split
    · apply updated.trans
      unfold storeReport
      dsimp only
      have captured (s : State) (data : DataBuffers) : Follows config s { s with data := data } :=
        .quiet rfl rfl (fun _ => rfl) rfl
      split
      · exact storeEventEvtMem_follows.trans (captured _ _)
      · exact (storeEventEvtMem_follows.trans (captured _ _)).trans (.turn rfl rfl)
    · exact updated
  · exact .refl s

theorem deleteDTCData_follows (combinedDTC : Bool) :
    Follows config s (deleteDTCData config s event combinedDTC) := by
  refine ⟨?_, fun reached => reached.fewer (deleteDTCData_fewer combinedDTC)⟩
  unfold deleteDTCData
  dsimp only
  split <;> exact .quiet rfl rfl fun _ => rfl

theorem deleteAged_follows
    (counted : Bool) : Follows config s (deleteAged config s event counted) := by
  have done (aged : Bool) : Follows config s
      (if aged then deleteDTCData config (deleteDTCData config s event false) event true
      else deleteDTCData config s event false) := by
    split
    · exact (deleteDTCData_follows false).trans (deleteDTCData_follows true)
    · exact deleteDTCData_follows false
  unfold deleteAged
  dsimp only
  split
  · exact (done _).trans storeEventEvtMem_follows
  · exact done _

theorem ageEvent_follows (internal : config.agingProcessingInternal) :
    Follows config s (ageEvent config s event) := by
  unfold ageEvent
  dsimp only
  split
  next confirmed =>
    have ages : (config.agingProcessingInternal &&
        (s.life event).record.eventStatusExtended.confirmedDTC) = true := by
      rw [internal]
      exact confirmed
    have aged := fun passed failed => (.turn rfl (if_pos ages) : Follows config s
      (s.turn event (.aging event passed failed) (onAging config event passed failed (s.status event))))
    split
    · split
      · exact (aged _ _).trans (deleteAged_follows _)
      · split
        · exact (aged _ _).trans storeEventEvtMem_follows
        · exact aged _ _
    · split
      · exact (aged _ _).trans storeEventEvtMem_follows
      · exact aged _ _
  · exact .refl s

theorem closeEvent_follows (cycle : Nat) : Follows config s (closeEvent config cycle s event) := by
  unfold closeEvent
  dsimp only
  split
  next available =>
    have indicated : Follows config s (indicatorOpCycleEnd config s event cycle) ∧
        ((indicatorOpCycleEnd config s event cycle).status event).isAvailable = true := by
      unfold indicatorOpCycleEnd
      split
      · exact ⟨.refl s, available⟩
      · exact ⟨.later (.setStatus rfl) (.quiet rfl rfl (fun _ => rfl) rfl),
          by simpa [State.setStatus] using available⟩
    generalize indicatorOpCycleEnd config s event cycle = t at indicated ⊢
    have closed : Follows config s
        (t.turn event (.closed cycle event) (onCycleEnd config event cycle (t.status event))) :=
      indicated.1.trans (.turn rfl (if_pos indicated.2))
    split
    · exact closed.trans storeEventEvtMem_follows
    · exact closed
  · exact .refl s

theorem resetDebounceTimer_eq (config : Config) (s : State) (event : Nat) :
    ∃ timeBase, resetDebounceTimer config s event = { s with timeBase := timeBase } := by
  unfold resetDebounceTimer
  split
  · exact ⟨_, rfl⟩
  · exact ⟨s.timeBase, rfl⟩

theorem openEvent_follows (cycle : Nat) : Follows config s (openEvent config cycle s event) := by
  have turned (timeBase : Nat → TimeBaseStatus) : Follows config s
      ({ s with timeBase := timeBase }.turn event (.opened cycle event)
        (onCycleStart config event cycle (s.status event))) :=
    .later (.turn rfl rfl) (.quiet rfl rfl (fun _ => rfl) rfl)
  obtain ⟨timeBase, timed⟩ := resetDebounceTimer_eq config s event
  unfold openEvent
  split
  · rw [timed]
    exact turned timeBase
  · exact turned s.timeBase

theorem setOperationCycleState_follows (cycle : Nat) (start : Bool) :
    Follows config s (setOperationCycleState config s cycle start) := by
  have opened (s : State) : Follows config s (operationCycleStart config s cycle) := by
    have running : Follows config s
        ({ s with operationCycles := update s.operationCycles cycle true }.note
          (.started cycle)) := .note rfl (fun _ => rfl) rfl
    exact (running.trans (.foldl (fun _ _ _ => openEvent_follows cycle) _)).trans
      (.quiet rfl rfl (fun _ => rfl) rfl)
  have closed (s : State) : Follows config s (operationCycleEnd config s cycle) := by
    have over_ : Follows config s
        ({ s with operationCycles := update s.operationCycles cycle false }.note
          (.ended cycle)) := .note rfl (fun _ => rfl) rfl
    exact over_.trans (.foldl (fun _ _ _ => closeEvent_follows cycle) _)
  have aged (s : State) (internal : config.agingProcessingInternal = true) :
      Follows config s (handleAging config s cycle) := by
    refine .foldl (fun s event _ => ?_) s
    unfold ageInCycle
    split
    · exact ageEvent_follows internal
    · exact .refl s
  unfold setOperationCycleState
  split
  · split
    · exact opened s
    · split
      · split
        next internal => exact (closed s).trans (aged _ internal)
        · exact closed s
      · exact .refl s
  · exact .refl s

theorem clearEvent_follows (selected allowed : Nat → Bool) (origin : Origin) :
    Follows config s (clearEvent config selected allowed origin s event) := by
  unfold clearEvent
  dsimp only
  split
  · obtain ⟨timeBase, timed⟩ := resetDebounceTimer_eq config
      (deleteDTCData config s event (config.combined event).isSome) event
    have cleared (s : State) : Follows config s ({ s with timeBase := timeBase }.turn event
        (.cleared event) ((s.status event).reset config)) :=
      .later (.turn rfl rfl) (.quiet rfl rfl (fun _ => rfl) rfl)
    unfold resetEventStatusRec
    rw [timed]
    exact ((deleteDTCData_follows _).trans (cleared _)).trans
      (.quiet rfl rfl (fun _ => rfl) rfl)
  · exact .refl s

theorem driveTimer_cases (config : Config) (allowed : Nat → Bool) (s : State) (index : Nat) :
    ∃ timeBase, driveTimer config allowed s index = { s with timeBase := timeBase } ∨
      ∃ event reported, driveTimer config allowed s index =
        (handleEvent config { s with timeBase := timeBase } event reported allowed).1 := by
  have reports (timeBase : Nat → TimeBaseStatus) (due : Prop) [Decidable due] (event : Nat)
      (reported : EventStatus) (result : State) (eq : result =
        if due then (handleEvent config { s with timeBase := timeBase } event reported allowed).1
        else { s with timeBase := timeBase }) :
      ∃ timeBase, result = { s with timeBase := timeBase } ∨ ∃ event reported, result =
        (handleEvent config { s with timeBase := timeBase } event reported allowed).1 := by
    split at eq
    · exact ⟨timeBase, .inr ⟨event, reported, eq⟩⟩
    · exact ⟨timeBase, .inl eq⟩
  unfold driveTimer
  dsimp only
  split
  · split
    · split
      · exact ⟨s.timeBase, .inl rfl⟩
      · split
        · exact ⟨_, .inl rfl⟩
        · exact reports _ _ _ _ _ rfl
    · exact ⟨_, .inl rfl⟩
  · exact ⟨s.timeBase, .inl rfl⟩

theorem perform_follows (call : Call) : Follows config s (perform config s call) := by
  cases call with
  | setEventStatus event status allowed => exact handleEvent_follows status allowed
  | mainFunction allowed =>
    refine .foldl (fun s index _ => ?_) s
    obtain ⟨timeBase, driven | ⟨event, reported, driven⟩⟩ := driveTimer_cases config allowed s index
    · rw [driven]
      exact .quiet rfl rfl (fun _ => rfl) rfl
    · rw [driven]
      exact .later (handleEvent_follows reported allowed) (.quiet rfl rfl (fun _ => rfl) rfl)
  | setOperationCycleState cycle start => exact setOperationCycleState_follows cycle start
  | clearDTC selected allowed origin =>
    exact .foldl (fun _ _ _ => clearEvent_follows selected allowed origin) s
  | setDTCRecordUpdate disabled => exact .quiet rfl rfl (fun _ => rfl) rfl

end

theorem run_goes (config : Config) (s : State) (calls : List Call) (event : Nat) :
    Life.Goes config event (s.life event) (Machine.run (step config) s calls).2
      ((Machine.run (step config) s calls).1.life event) := by
  induction calls generalizing s with
  | nil => exact .refl
  | cons call rest ih =>
    obtain ⟨happenings, log, lives⟩ : Logged config { s with log := [] } _ :=
      (perform_follows call).logged
    have now : Life.Goes config event (s.life event) (step config s call).2
        ((step config s call).1.life event) := by
      change Life.Goes config event _ (perform config { s with log := [] } call).log _
      rw [log]
      exact lives event
    exact now.trans (ih _)

theorem run_reached {config : Config} {s : State} (reached : Reached config s) (calls : List Call) :
    Reached config (Machine.run (step config) s calls).1 := by
  induction calls generalizing s with
  | nil => exact reached
  | cons call rest ih =>
    have cleared : Reached config { s with log := [] } := reached.fewer (.refl s)
    exact ih ((perform_follows call).reached cleared)

end Dem
