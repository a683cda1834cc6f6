import ClassicPlatform.Lib.Machine
import ClassicPlatform.WdgM.Cycle

/-!
# Violations of deadlines and of the program flow

A checkpoint that is reported too late or out of turn must make its entity expire in the next
`WdgM_MainFunction`. The verdict is kept in one variable for each supervision, which every
report writes anew, so a later checkpoint of the same cycle can clear it. For an entity that
is already FAILED, a single wrong verdict other than that of the alive supervision has no
effect at all. In all other cases the entity expires.
-/
namespace WdgM

open Machine

variable {config : Config} {s s' : State} {se : Nat} {call : Call}

def Call.isReport : Call → Bool
  | .checkpointReached _ _ _ => true
  | _ => false

section

variable (config s se)

/-- The report is accepted, and the deadline or the logical supervision of the entity judges
it incorrect. -/
def Violates : Call → Prop
  | .checkpointReached seId cpId readings =>
    seId = se ∧ .returned true ∈ (checkpointReached config s seId cpId readings).2 ∧
      ∃ entry ∈ findEntry config s se,
        deadlineVerdict config s entry cpId readings = .incorrect ∨
          entry.1.checkInternalLogic = true ∧ logicalVerdict config s se cpId = .incorrect
  | _ => False

/-- The report is accepted, and leaves the entity with two correct verdicts. -/
def Clears : Call → Prop
  | .checkpointReached seId cpId readings =>
    seId = se ∧ .returned true ∈ (checkpointReached config s seId cpId readings).2 ∧
      ∃ entry ∈ findEntry config s se,
        deadlineVerdict config s entry cpId readings = .correct ∧
          (if entry.1.checkInternalLogic then logicalVerdict config s se cpId
          else (s.ses se).substateLogical) = .correct
  | _ => False

/-- The entity is FAILED within its tolerance, its alive supervision is content, and only one
verdict is wrong. -/
def Masked : Prop :=
  ∃ entry ∈ findEntry config s se,
    ((checkAlives config s).ses se).localState = .failed ∧
      ((checkAlives config s).ses se).substateAlive = .correct ∧
      nrOfCorrectSubstates ((checkAlives config s).ses se) = 2 ∧
      ((checkAlives config s).ses se).failedAliveCyclesCounter ≤
        entry.1.failedAliveSupervisionReferenceCycleTol
  deriving Decidable

/-- No report clears the verdicts, unless the entity has expired already, and the verdicts are
not masked when they are evaluated. -/
def Heeds (s : State) : Call → Prop
  | .mainFunction => ¬ Masked config s se
  | call => (s.ses se).localState ≠ .expired → ¬ Clears config s se call

end

instance (config : Config) (s : State) (se : Nat) (call : Call) :
    Decidable (Violates config s se call) := by
  cases call with
  | checkpointReached seId cpId readings => exact inferInstanceAs (Decidable (_ ∧ _))
  | _ => exact inferInstanceAs (Decidable False)

instance (config : Config) (s : State) (se : Nat) (call : Call) :
    Decidable (Clears config s se call) := by
  cases call with
  | checkpointReached seId cpId readings => exact inferInstanceAs (Decidable (_ ∧ _))
  | _ => exact inferInstanceAs (Decidable False)

instance (config : Config) (se : Nat) (s : State) (call : Call) :
    Decidable (Heeds config se s call) := by
  cases call with
  | mainFunction => exact inferInstanceAs (Decidable (¬ _))
  | _ => exact inferInstanceAs (Decidable (_ → ¬ _))

/-! ## Evaluation of a record -/

/-- A verdict of the deadline or the logical supervision against the entity is on record. -/
def RuntimeSE.Wrong (record : RuntimeSE) : Prop :=
  record.substateDeadline = .incorrect ∨ record.substateLogical = .incorrect

section Evaluation

variable {record : RuntimeSE} {conf : SEConfiguration} {runtime : RuntimeSEConfig}

theorem calculateLocalState_expired (expired : record.localState = .expired) :
    (calculateLocalState record conf runtime).localState = .expired := by
  unfold calculateLocalState
  split
  · rw [if_neg (by rw [expired]; nofun)]
    exact expired
  · rw [if_neg (by rw [expired]; nofun), if_neg (by rw [expired]; nofun)]
    exact expired
  · rfl

private theorem RuntimeSE.Wrong.few (wrong : record.Wrong) :
    nrOfCorrectSubstates record ≤ 2 ∧
      (nrOfCorrectSubstates record = 2 → record.substateAlive = .correct) := by
  unfold nrOfCorrectSubstates
  rcases wrong with deadline | logical
  · rw [deadline]
    cases record.substateAlive <;> cases record.substateLogical <;> simp [Substate.value]
  · rw [logical]
    cases record.substateAlive <;> cases record.substateDeadline <;> simp [Substate.value]

theorem calculateLocalState_wrong (wrong : record.Wrong) (active : record.localState ≠ .deactivated)
    (unmasked : record.localState = .failed → nrOfCorrectSubstates record = 2 →
      conf.failedAliveSupervisionReferenceCycleTol < record.failedAliveCyclesCounter) :
    (calculateLocalState record conf runtime).localState = .expired := by
  obtain ⟨few, content⟩ := wrong.few
  unfold calculateLocalState
  split
  next all_correct => omega
  next one_wrong =>
    have alive := content one_wrong
    cases status : record.localState with
    | ok => simp [fromOKOneError, alive]
    | failed =>
      have exceeded := unmasked status one_wrong
      simp [fromFailedOneError, alive, exceeded]
    | expired => simp [status]
    | deactivated => exact absurd status active
  next => rfl

end Evaluation

/-! ## A cycle -/

/-- The entity is supervised in the current mode, and has expired or will expire. -/
structure OnRecord (config : Config) (se : Nat) (s : State) : Prop where
  initiated : s.isInitiated = true
  found : ∃ entry, findEntry config s se = some entry
  active : (s.ses se).localState ≠ .deactivated
  record : (s.ses se).localState = .expired ∨ (s.ses se).Wrong

private theorem findEntry_of_frame (frame : s'.aliveFrame = s.aliveFrame) :
    findEntry config s' se = findEntry config s se := by
  simp only [State.aliveFrame, Prod.mk.injEq] at frame
  simp [findEntry, currentEntries, frame.2.2.1]

private theorem OnRecord.of_frame (on_record : OnRecord config se s)
    (frame : s'.aliveFrame = s.aliveFrame) (status : (s'.ses se).localState = (s.ses se).localState)
    (record : (s'.ses se).localState = .expired ∨ (s'.ses se).Wrong) : OnRecord config se s' := by
  constructor
  · simp only [State.aliveFrame, Prod.mk.injEq] at frame
    rw [frame.1]
    exact on_record.initiated
  · rw [findEntry_of_frame frame]
    exact on_record.found
  · rw [status]
    exact on_record.active
  · exact record

private theorem Violates.onRecord (violates : Violates config s se call) :
    OnRecord config se (step config s call).1 := by
  cases call with
  | checkpointReached seId cpId readings =>
    obtain ⟨rfl, accepted, entry, found, verdict⟩ := violates
    simp only [step]
    have reported := checkpointReached_reported config s seId cpId readings
    generalize checkpointReached config s seId cpId readings = outcome at reported accepted
    cases reported with
    | refused => simp at accepted
    | @accepted entry' s' initiated active found' supervised =>
      obtain rfl : entry = entry' := Option.some.inj (found.symm.trans found')
      have frame := supervised.frame
      constructor
      · simp only [State.aliveFrame, Prod.mk.injEq] at frame
        rw [frame.1]
        exact initiated
      · rw [findEntry_of_frame frame]
        exact ⟨entry, found⟩
      · rw [supervised.localState]
        exact active
      · right
        rcases verdict with late | ⟨checked, stray⟩
        · exact .inl (supervised.deadline.trans late)
        · right
          rw [supervised.logical, if_pos checked, stray]
  | _ => exact violates.elim

private theorem OnRecord.report (on_record : OnRecord config se s) (is_report : call.isReport)
    (heeds : Heeds config se s call) : OnRecord config se (step config s call).1 := by
  cases call with
  | checkpointReached seId cpId readings =>
    simp only [step]
    have reported := checkpointReached_reported config s seId cpId readings
    have cleared : (s.ses se).localState ≠ .expired →
        ¬ Clears config s se (.checkpointReached seId cpId readings) := heeds
    simp only [Clears] at cleared
    generalize checkpointReached config s seId cpId readings = outcome at reported cleared
    cases reported with
    | refused => exact on_record
    | @accepted entry s' initiated active found supervised =>
      by_cases own : seId = se
      · subst own
        apply on_record.of_frame supervised.frame supervised.localState
        by_cases expired : (s.ses seId).localState = .expired
        · exact .inl (supervised.localState.trans expired)
        · -- one of the two verdicts after the report is wrong
          right
          by_contra clean
          obtain ⟨deadline, logical⟩ := not_or.mp clean
          refine cleared expired ⟨rfl, by simp, entry, found, ?_, ?_⟩
          · rw [← supervised.deadline]
            cases verdict : (s'.ses seId).substateDeadline with
            | correct => rfl
            | incorrect => exact absurd verdict deadline
          · rw [← supervised.logical]
            cases verdict : (s'.ses seId).substateLogical with
            | correct => rfl
            | incorrect => exact absurd verdict logical
      · have same := supervised.others se (Ne.symm own)
        apply on_record.of_frame supervised.frame (by rw [same])
        rw [same]
        exact on_record.record
  | _ => simp [Call.isReport] at is_report

private theorem OnRecord.expires (on_record : OnRecord config se s)
    (heeds : Heeds config se s .mainFunction) :
    ((mainFunction config s).1.ses se).localState = .expired := by
  obtain ⟨entry, found⟩ := on_record.found
  obtain ⟨member, rfl⟩ := findEntry_some found
  rw [(mainFunction_evaluated config on_record.initiated).entity entry member]
  -- the alive supervision has written its own verdict only
  have same := checkAlives_ses config s entry.1.supervisedEntityId
  simp only [RuntimeSE.mk.injEq, true_and] at same
  obtain ⟨status, deadline, logical, -⟩ := same
  rcases on_record.record with expired | wrong
  · exact calculateLocalState_expired (status.trans expired)
  · replace wrong : ((checkAlives config s).ses entry.1.supervisedEntityId).Wrong := by
      rw [RuntimeSE.Wrong, deadline, logical]
      exact wrong
    refine calculateLocalState_wrong wrong (status ▸ on_record.active) fun failed one_wrong => ?_
    by_contra within
    exact heeds ⟨entry, found, failed, wrong.few.2 one_wrong, one_wrong, Nat.le_of_not_lt within⟩

/-- A violation that no later report of its cycle clears, and that is not masked by the state
FAILED, makes the entity expire in the next call of `WdgM_MainFunction`. -/
theorem violation_expires (config : Config) (s : State) (se : Nat) (before after : List Call)
    (report : Call) (reports : ∀ call ∈ after, call.isReport = true)
    (violates : Violates config (run (step config) s before).1 se report)
    (heeds : Meets (step config) (Heeds config se)
      (step config (run (step config) s before).1 report).1 (after ++ [.mainFunction])) :
    ((run (step config) s (before ++ report :: after ++ [.mainFunction])).1.ses
      se).localState = .expired := by
  obtain ⟨kept, ⟨last, -⟩⟩ := (meets_append _ _ _).mp heeds
  have is_report : Meets (step config) (fun _ call => call.isReport = true)
      (step config (run (step config) s before).1 report).1 after := .of_forall reports
  have on_record := run_invariant _ violates.onRecord (is_report.and kept)
    fun _ _ on_record condition => on_record.report condition.1 condition.2
  rw [run_append, run_append]
  exact on_record.expires last

/-- The program flow of an entity is checked, and its first checkpoint is expected once in a cycle,
which may fail twice. -/
def checkedFlow (se : Nat) : SEConfiguration where
  supervisedEntityId := se
  checkInternalLogic := true
  aliveSupervisions :=
    [{ checkpointId := 0, expectedAliveIndications := 1, minMargin := 0, maxMargin := 0
       supervisionReferenceCycle := 1 }]
  deadlineSupervisions := []
  failedAliveSupervisionReferenceCycleTol := 2
  osCounter := 0

/-- One entity, with a first and a second checkpoint. -/
def oneEntity : Config where
  lengthSupervisedEntities := 1
  supervisedEntity _ :=
    { lengthCheckpointIds := 2
      transitions := [{ checkpointIdSource := 0, checkpointIdDestination := 1 }]
      startCheckpointIds := [0]
      finalCheckpointIds := [1] }
  lengthWatchdogs := 1
  watchdogDeviceId _ := 0
  initialModeId := 0
  lengthModes := 1
  mode _ :=
    { expiredSupervisionCycleTol := 1
      seConfigurations := [checkedFlow 0]
      triggers := [{ triggerConditionValue := 10, watchdogMode := .slowMode, watchdogId := 0 }]
      sorted := by simp }
  offModeEnabled := false
  ticksPerSecond := 1000
  counterMax _ := 2 ^ 32 - 1
  known := by simp [checkedFlow]
  few := by decide

/-- Two such entities. -/
def twoEntities : Config :=
  { oneEntity with
    lengthSupervisedEntities := 2
    mode := fun _ =>
      { oneEntity.mode 0 with
        seConfigurations := [checkedFlow 0, checkedFlow 1]
        sorted := by decide }
    known := fun _ => by decide
    few := by decide }

def State.zero : State where
  isInitiated := false
  globalState := .deactivated
  currentMode := 0
  resetInitiated := false
  isFirstExpiredSet := false
  firstExpiredSEID := 0
  firstExpiredSEIDInverse := 0
  ses _ :=
    { localState := .ok
      substateAlive := .incorrect
      substateDeadline := .incorrect
      substateLogical := .incorrect
      isInternalGraphActive := false
      previousCheckpointId := 0
      failedAliveCyclesCounter := 0 }
  modes _ :=
    { seConfigs := fun _ =>
        { aliveSupervisions := fun _ =>
            { aliveCounter := 0, supervisionCycleCounter := 0, wasEvaluated := false }
          lastTickValue := fun _ => 0 }
      expiredSupervisionCycleCounter := 0 }

def started (config : Config) : State := (init config .zero fun _ => true).1

/-- The report of a checkpoint, while the counters stand at zero. -/
def Call.reached (seId cpId : Nat) : Call := .checkpointReached seId cpId fun _ => ⟨0, 0⟩

/-- The second checkpoint comes without the first one. It comes once more, and the other entity
reports as it should. -/
theorem stray_checkpoint_expires :
    Violates twoEntities (started twoEntities) 0 (.reached 0 1) ∧
    ((run (step twoEntities) (started twoEntities)
      [.reached 0 1, .reached 1 0, .reached 0 1, .mainFunction]).1.ses 0).localState = .expired := by
  have violates : Violates twoEntities (started twoEntities) 0 (.reached 0 1) := by decide +kernel
  refine ⟨violates, ?_⟩
  have expires := violation_expires twoEntities (started twoEntities) 0 []
    [.reached 1 0, .reached 0 1] (.reached 0 1) (by simp [Call.reached, Call.isReport]) violates
    (by decide +kernel)
  simpa only [List.nil_append, List.cons_append] using expires

/-- A violation is forgotten if the entity goes on with a right checkpoint in the same cycle, and
if the entity was FAILED before. -/
theorem violations_forgotten :
    (Violates oneEntity (started oneEntity) 0 (.reached 0 1) ∧
      ((run (step oneEntity) (started oneEntity)
        [.reached 0 1, .reached 0 0, .mainFunction]).1.ses 0).localState = .ok) ∧
    Violates oneEntity (run (step oneEntity) (started oneEntity)
        [.mainFunction, .reached 0 0, .reached 0 1]).1 0 (.reached 0 1) ∧
      ((run (step oneEntity) (started oneEntity)
        [.mainFunction, .reached 0 0, .reached 0 1, .reached 0 1, .mainFunction]).1.ses 0).localState =
        .failed := by
  decide +kernel

end WdgM
