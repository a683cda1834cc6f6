import ClassicPlatform.Lib.Sweep
import ClassicPlatform.WdgM.Manager
import Mathlib.Data.List.Find
import Mathlib.Data.List.Nodup

/-!
# A supervision cycle

What one call of `WdgM_MainFunction` does: to each entity of the current mode, to the record
of the first expired entity, and to the global status. The entities of a mode are distinct,
so each is evaluated once. The reports of checkpoints between two such calls leave verdicts.
-/
namespace WdgM

open Function List State

variable {config : Config} {s : State} {se : Nat}

/-! ## Entities of a mode -/

theorem setSE_ses (value : RuntimeSE) : (s.setSE se value).ses se = value :=
  update_self _ _ _

theorem setSE_ses_of_ne {other : Nat} (ne : other ≠ se) (value : RuntimeSE) :
    (s.setSE se value).ses other = s.ses other :=
  update_of_ne ne _ _

theorem currentEntries_ids (config : Config) (s : State) :
    ((currentEntries config s).map (·.1.supervisedEntityId)).Nodup := by
  have same : (currentEntries config s).map (·.1.supervisedEntityId) =
      (config.mode s.currentMode).seConfigurations.map (·.supervisedEntityId) := by
    unfold currentEntries
    rw [← comp_def (f := SEConfiguration.supervisedEntityId), ← map_map, zipIdx_map_fst]
  rw [same]
  exact (config.mode s.currentMode).sorted.imp ne_of_lt

theorem currentEntries_nodup (config : Config) (s : State) : (currentEntries config s).Nodup :=
  List.Nodup.of_map _ (currentEntries_ids config s)

variable {entry : SEConfiguration × Nat}

variable {other : SEConfiguration × Nat}

theorem currentEntries_inj
    (member : entry ∈ currentEntries config s) (member' : other ∈ currentEntries config s)
    (same : entry.1.supervisedEntityId = other.1.supervisedEntityId) : entry = other :=
  inj_on_of_nodup_map (currentEntries_ids config s) member member' same

theorem findEntry_some (found : findEntry config s se = some entry) :
    entry ∈ currentEntries config s ∧ entry.1.supervisedEntityId = se :=
  ⟨mem_of_find?_eq_some found, by simpa using List.find?_some found⟩

/-! ## Alive supervision -/

/-- What a turn of `WdgM_internal_CheckAlives` cannot change. -/
def State.aliveFrame (s : State) :=
  (s.isInitiated, s.globalState, s.currentMode, s.resetInitiated,
    (s.isFirstExpiredSet, s.firstExpiredSEID, s.firstExpiredSEIDInverse),
    fun mode => (s.modes mode).expiredSupervisionCycleCounter)

theorem setSEConfig_counters (mode index : Nat) (value : RuntimeSEConfig) (other : Nat) :
    ((s.setSEConfig mode index value).modes other).expiredSupervisionCycleCounter =
      (s.modes other).expiredSupervisionCycleCounter := by
  simp only [setSEConfig]
  by_cases own : other = mode
  · rw [own, update_self]
  · rw [update_of_ne own]

private theorem checkAlivesTurn_frame (s : State) (entry : SEConfiguration × Nat) :
    (checkAlivesTurn s entry).aliveFrame = s.aliveFrame := by
  have counters : ∀ runtime, (s.setSEConfig s.currentMode entry.2 runtime).aliveFrame =
      s.aliveFrame := by
    intro runtime
    simp only [aliveFrame, setSEConfig_counters]
    rfl
  unfold checkAlivesTurn
  simp only
  split
  · exact counters _
  · exact counters _

theorem checkAlives_frame (config : Config) (s : State) :
    (checkAlives config s).aliveFrame = s.aliveFrame :=
  Sweep.foldl_frame aliveFrame (fun entry _ state => checkAlivesTurn_frame state entry) s

theorem checkAlives_ses (config : Config) (s : State) (se : Nat) :
    { (checkAlives config s).ses se with substateAlive := .correct } =
      { s.ses se with substateAlive := .correct } := by
  refine Sweep.foldl_frame
    (fun state : State => { state.ses se with substateAlive := .correct })
    (fun entry _ state => ?_) s
  unfold checkAlivesTurn
  simp only
  split
  · by_cases own : se = entry.1.supervisedEntityId
    · subst own
      rw [setSE_ses]
      rfl
    · rw [setSE_ses_of_ne own]
      rfl
  · rfl

theorem checkAlives_others
    (absent : ∀ entry ∈ currentEntries config s, entry.1.supervisedEntityId ≠ se) :
    (checkAlives config s).ses se = s.ses se := by
  refine Sweep.foldl_frame (fun state : State => state.ses se) (fun entry member state => ?_) s
  unfold checkAlivesTurn
  simp only
  split
  · rw [setSE_ses_of_ne (absent entry member).symm]
    rfl
  · rfl

/-! ## Local status -/

/-- What the loop over the entities cannot change. -/
def State.evalFrame (s : State) :=
  (s.isInitiated, s.globalState, s.currentMode, s.resetInitiated, s.modes)

/-- The record of the first expired entity. -/
def State.firstExpired (s : State) : Bool × BitVec 16 × BitVec 16 :=
  (s.isFirstExpiredSet, s.firstExpiredSEID, s.firstExpiredSEIDInverse)

section Turns

variable {tally : Tally} {entry : SEConfiguration × Nat}

section

variable (tally entry)

theorem calculateTurn_frame :
    (calculateTurn tally entry).state.evalFrame = tally.state.evalFrame := by
  unfold calculateTurn
  simp only
  split <;> split <;> rfl

theorem calculateTurn_ses :
    (calculateTurn tally entry).state.ses entry.1.supervisedEntityId =
      localAfter tally.state entry := by
  unfold calculateTurn
  simp only
  split <;> split <;> exact setSE_ses _

end

theorem calculateTurn_ses_of_ne (ne : se ≠ entry.1.supervisedEntityId) :
    (calculateTurn tally entry).state.ses se = tally.state.ses se := by
  unfold calculateTurn
  simp only
  split <;> split <;> exact setSE_ses_of_ne ne _

theorem seConfig_of_frame {s' : State} (same : s'.evalFrame = s.evalFrame) (index : Nat) :
    s'.seConfig index = s.seConfig index := by
  simp only [evalFrame, Prod.mk.injEq] at same
  obtain ⟨-, -, mode, -, modes⟩ := same
  rw [seConfig, seConfig, modes, mode]

theorem localAfter_turn (ne : other.1.supervisedEntityId ≠ entry.1.supervisedEntityId) :
    localAfter (calculateTurn tally entry).state other = localAfter tally.state other := by
  rw [localAfter, calculateTurn_ses_of_ne ne, seConfig_of_frame (calculateTurn_frame tally entry)]
  rfl

section

variable (tally entry)

theorem calculateTurn_expired :
    (calculateTurn tally entry).expired =
      tally.expired + (if (localAfter tally.state entry).localState = .expired then 1 else 0) := by
  unfold calculateTurn
  generalize localAfter tally.state entry = after
  by_cases expired : after.localState = .expired
  · simp [expired]
  · by_cases failed : after.localState = .failed <;> simp [expired, failed]

theorem calculateTurn_failed :
    (calculateTurn tally entry).failed =
      tally.failed + (if (localAfter tally.state entry).localState = .failed then 1 else 0) := by
  unfold calculateTurn
  generalize localAfter tally.state entry = after
  by_cases expired : after.localState = .expired
  · simp [expired]
  · by_cases failed : after.localState = .failed <;> simp [expired, failed]

theorem calculateTurn_first :
    (calculateTurn tally entry).state.firstExpired =
      if (localAfter tally.state entry).localState = .expired ∧
          tally.state.isFirstExpiredSet = false then
        (true, BitVec.ofNat 16 entry.2, ~~~ BitVec.ofNat 16 entry.2)
      else tally.state.firstExpired := by
  unfold calculateTurn
  generalize localAfter tally.state entry = after
  by_cases expired : after.localState = .expired
  · cases recorded : tally.state.isFirstExpiredSet <;>
      simp [setSE, firstExpired, recorded, expired]
  · by_cases failed : after.localState = .failed <;>
      simp [setSE, firstExpired, expired, failed]

end

end Turns

private theorem foldl_counts (entries : List (SEConfiguration × Nat))
    (distinct : (entries.map (·.1.supervisedEntityId)).Nodup) (tally : Tally) :
    let last := entries.foldl calculateTurn tally
    (0 < last.expired ↔ 0 < tally.expired ∨
      ∃ entry ∈ entries, (localAfter tally.state entry).localState = .expired) ∧
    (0 < last.failed ↔ 0 < tally.failed ∨
      ∃ entry ∈ entries, (localAfter tally.state entry).localState = .failed) ∧
    last.state.firstExpired =
      if tally.state.isFirstExpiredSet then tally.state.firstExpired
      else
        match entries.find? fun entry => (localAfter tally.state entry).localState == .expired with
        | some entry => (true, BitVec.ofNat 16 entry.2, ~~~ BitVec.ofNat 16 entry.2)
        | none => tally.state.firstExpired := by
  induction entries generalizing tally with
  | nil => simp
  | cons entry rest ih =>
    intro last
    obtain ⟨fresh, rest_distinct⟩ := nodup_cons.mp distinct
    -- for the entities that come later, nothing has changed
    have same : ∀ other ∈ rest, localAfter (calculateTurn tally entry).state other =
        localAfter tally.state other := by
      intro other member
      refine localAfter_turn fun same_id => fresh ?_
      exact mem_map.mpr ⟨other, member, same_id⟩
    have later : ∀ status, (∃ other ∈ rest,
        (localAfter (calculateTurn tally entry).state other).localState = status) ↔
        ∃ other ∈ rest, (localAfter tally.state other).localState = status := by
      intro status
      exact exists_congr fun other => and_congr_right fun member => by rw [same other member]
    have found : rest.find? (fun other =>
        (localAfter (calculateTurn tally entry).state other).localState == .expired) =
        rest.find? fun other => (localAfter tally.state other).localState == .expired :=
      List.find?_congr fun other member => by rw [same other member]
    obtain ⟨expired, failed, recorded⟩ := ih rest_distinct (calculateTurn tally entry)
    rw [later] at expired failed
    rw [found] at recorded
    have counts (n : Nat) (now : Prop) [Decidable now] :
        0 < n + (if now then 1 else 0) ↔ 0 < n ∨ now := by
      split
      next now => simp [now]
      next not_now => simp [not_now]
    refine ⟨?_, ?_, ?_⟩
    · rw [exists_mem_cons_iff, ← or_assoc, ← counts, ← calculateTurn_expired]
      exact expired
    · rw [exists_mem_cons_iff, ← or_assoc, ← counts, ← calculateTurn_failed]
      exact failed
    · apply Eq.trans recorded
      have turn := calculateTurn_first tally entry
      have set_eq : (calculateTurn tally entry).state.isFirstExpiredSet =
          (calculateTurn tally entry).state.firstExpired.1 := rfl
      rw [set_eq, turn, List.find?_cons]
      by_cases now : (localAfter tally.state entry).localState = .expired
      · cases before : tally.state.isFirstExpiredSet with
        | true => simp [firstExpired, before]
        | false => simp [now]
      · simp [now, firstExpired, beq_eq_false_iff_ne.mpr now]

theorem calculateLocalStates_frame (config : Config) (s : State) :
    (calculateLocalStates config s).state.evalFrame = s.evalFrame :=
  Sweep.foldl_frame (fun tally : Tally => tally.state.evalFrame)
    (fun entry _ tally => calculateTurn_frame tally entry) _

theorem calculateLocalStates_ses (member : entry ∈ currentEntries config s) :
    (calculateLocalStates config s).state.ses entry.1.supervisedEntityId = localAfter s entry := by
  let view := fun tally : Tally =>
    (tally.state.ses entry.1.supervisedEntityId, tally.state.seConfig entry.2)
  let change := fun seen : RuntimeSE × RuntimeSEConfig =>
    (calculateLocalState seen.1 entry.1 seen.2, seen.2)
  have own : ∀ tally, view (calculateTurn tally entry) = change (view tally) := by
    intro tally
    simp only [view, calculateTurn_ses, seConfig_of_frame (calculateTurn_frame tally entry)]
    rfl
  have others : ∀ other ∈ currentEntries config s, other ≠ entry → ∀ tally,
      view (calculateTurn tally other) = view tally := by
    intro other member' ne tally
    have ne_id : entry.1.supervisedEntityId ≠ other.1.supervisedEntityId :=
      fun same => ne (currentEntries_inj member' member same.symm)
    simp [view, calculateTurn_ses_of_ne ne_id, seConfig_of_frame (calculateTurn_frame tally other)]
  exact congrArg Prod.fst
    (Sweep.foldl_view view change (currentEntries_nodup config s) member others own _)

theorem calculateLocalStates_others
    (absent : ∀ entry ∈ currentEntries config s, entry.1.supervisedEntityId ≠ se) :
    (calculateLocalStates config s).state.ses se = s.ses se :=
  Sweep.foldl_frame (fun tally : Tally => tally.state.ses se)
    (fun entry member _ => calculateTurn_ses_of_ne (absent entry member).symm) _

/-! ## Global status -/

/-- Some entity of the current mode has this local status. -/
def someLocal (config : Config) (s : State) (status : LocalStatus) : Bool :=
  (currentEntries config s).any fun entry =>
    (s.ses entry.1.supervisedEntityId).localState == status

theorem someLocal_iff {status : LocalStatus} :
    someLocal config s status = true ↔ ∃ entry ∈ currentEntries config s,
      (s.ses entry.1.supervisedEntityId).localState = status := by
  simp [someLocal]

/-- How the global status follows from expired and failed entities. -/
def GlobalStatus.next (expired failed tolerated : Bool) : GlobalStatus → GlobalStatus
  | .ok | .failed =>
    if expired then if tolerated then .expired else .stopped
    else if failed then .failed else .ok
  | .expired => if expired && !tolerated then .stopped else .expired
  | .stopped => .stopped
  | .deactivated => .deactivated

/-- What a call of `WdgM_MainFunction` does. -/
structure Evaluated (config : Config) (s s' : State) : Prop where
  initiated : s'.isInitiated = s.isInitiated
  mode : s'.currentMode = s.currentMode
  reset : s'.resetInitiated = s.resetInitiated
  entity : ∀ entry ∈ currentEntries config s,
    s'.ses entry.1.supervisedEntityId = localAfter (checkAlives config s) entry
  others : ∀ se, (∀ entry ∈ currentEntries config s, entry.1.supervisedEntityId ≠ se) →
    s'.ses se = s.ses se
  first : s'.firstExpired =
    if s.isFirstExpiredSet then s.firstExpired
    else
      match (currentEntries config s).find? fun entry =>
        (s'.ses entry.1.supervisedEntityId).localState == .expired with
      | some entry => (true, BitVec.ofNat 16 entry.2, ~~~ BitVec.ofNat 16 entry.2)
      | none => s.firstExpired
  status : s'.globalState = s.globalState.next (someLocal config s' .expired)
    (someLocal config s' .failed) (tolerates config s)
  counters : ∀ mode, (s'.modes mode).expiredSupervisionCycleCounter =
    (s.modes mode).expiredSupervisionCycleCounter +
      if mode = s.currentMode ∧ s.globalState = .expired ∧
        someLocal config s' .expired = true ∧ tolerates config s = true then 1 else 0

private theorem calculateGlobalState_status (config : Config) (s : State) :
    let t := calculateLocalStates config s
    let s' := calculateGlobalState config s
    s'.globalState = t.state.globalState.next (0 < t.expired) (0 < t.failed)
        (tolerates config t.state) ∧
      ∀ mode, (s'.modes mode).expiredSupervisionCycleCounter =
        (t.state.modes mode).expiredSupervisionCycleCounter +
          if mode = t.state.currentMode ∧ t.state.globalState = .expired ∧ 0 < t.expired ∧
            tolerates config t.state = true then 1 else 0 := by
  simp only [calculateGlobalState]
  generalize calculateLocalStates config s = t
  have tolerated : ∀ status, tolerates config { t.state with globalState := status } =
      tolerates config t.state := fun _ => rfl
  cases before : t.state.globalState with
  | ok =>
    simp only [updateFromGlobalOK, GlobalStatus.next]
    by_cases failed : 0 < t.failed <;> by_cases expired : 0 < t.expired <;>
      cases within : tolerates config t.state <;> simp [failed, expired, within, tolerated, before]
  | failed =>
    simp only [updateFromGlobalFAILED, GlobalStatus.next]
    by_cases failed : 0 < t.failed <;> by_cases expired : 0 < t.expired <;>
      cases within : tolerates config t.state <;>
      simp [failed, expired, before, Nat.pos_iff_ne_zero.mp, Nat.eq_zero_of_not_pos]
  | expired =>
    simp only [updateFromGlobalEXPIRED, GlobalStatus.next]
    by_cases expired : 0 < t.expired
    · cases within : tolerates config t.state with
      | false => simp [expired]
      | true =>
        refine ⟨by simp [expired, before], fun mode => ?_⟩
        by_cases own : mode = t.state.currentMode <;> simp [expired, own]
    · simp [expired, before]
  | stopped | deactivated => simp [GlobalStatus.next, before]

private theorem calculateGlobalState_rest (config : Config) (s : State) :
    let t := (calculateLocalStates config s).state
    let s' := calculateGlobalState config s
    s'.isInitiated = t.isInitiated ∧ s'.currentMode = t.currentMode ∧
      s'.resetInitiated = t.resetInitiated ∧ s'.ses = t.ses ∧ s'.firstExpired = t.firstExpired := by
  simp only [← Prod.mk.injEq, calculateGlobalState]
  split
  · simp only [updateFromGlobalOK]
    split <;> split <;> first | rfl | (split <;> rfl)
  · simp only [updateFromGlobalFAILED]
    split
    · rfl
    · split
      · split <;> rfl
      · rfl
  · simp only [updateFromGlobalEXPIRED]
    split
    · split <;> rfl
    · rfl
  · rfl
  · rfl

private theorem calculateGlobalState_ses (member : entry ∈ currentEntries config s) :
    (calculateGlobalState config s).ses entry.1.supervisedEntityId = localAfter s entry := by
  obtain ⟨-, -, -, ses, -⟩ := calculateGlobalState_rest config s
  rw [ses]
  exact calculateLocalStates_ses member

section

variable (config)

private theorem calculateGlobalState_entries (s : State) :
    currentEntries config (calculateGlobalState config s) = currentEntries config s := by
  obtain ⟨-, mode, -⟩ := calculateGlobalState_rest config s
  have frame := calculateLocalStates_frame config s
  simp only [evalFrame, Prod.mk.injEq] at frame
  rw [currentEntries, mode, frame.2.2.1]
  rfl

private theorem calculateLocalStates_counts (config : Config) (s : State) :
    let s' := calculateGlobalState config s
    (0 < (calculateLocalStates config s).expired ↔ someLocal config s' .expired = true) ∧
      (0 < (calculateLocalStates config s).failed ↔ someLocal config s' .failed = true) := by
  intro s'
  obtain ⟨expired, failed, -⟩ :=
    foldl_counts (currentEntries config s) (currentEntries_ids config s)
      { state := s, expired := 0, failed := 0 }
  have reached : ∀ status, (∃ entry ∈ currentEntries config s,
      (localAfter s entry).localState = status) ↔ someLocal config s' status = true := by
    intro status
    rw [someLocal_iff, calculateGlobalState_entries]
    refine exists_congr fun entry => and_congr_right fun member => ?_
    rw [calculateGlobalState_ses member]
  constructor
  · exact expired.trans (by simpa using reached .expired)
  · exact failed.trans (by simpa using reached .failed)

private theorem calculateGlobalState_first (s : State) :
    (calculateGlobalState config s).firstExpired =
      if s.isFirstExpiredSet then s.firstExpired
      else
        match (currentEntries config s).find? fun entry =>
          ((calculateGlobalState config s).ses entry.1.supervisedEntityId).localState ==
            .expired with
        | some entry => (true, BitVec.ofNat 16 entry.2, ~~~ BitVec.ofNat 16 entry.2)
        | none => s.firstExpired := by
  obtain ⟨-, -, -, -, first⟩ := calculateGlobalState_rest config s
  obtain ⟨-, -, recorded⟩ :=
    foldl_counts (currentEntries config s) (currentEntries_ids config s)
      { state := s, expired := 0, failed := 0 }
  have found : ((currentEntries config s).find? fun entry =>
      ((calculateGlobalState config s).ses entry.1.supervisedEntityId).localState == .expired) =
      (currentEntries config s).find? fun entry => (localAfter s entry).localState == .expired :=
    List.find?_congr fun entry member => by rw [calculateGlobalState_ses member]
  rw [first, found]
  exact recorded

theorem mainFunction_evaluated (initiated : s.isInitiated) :
    Evaluated config s (mainFunction config s).1 := by
  have main_eq : (mainFunction config s).1 =
      calculateGlobalState config (checkAlives config s) := by
    simp [mainFunction, initiated]
  have alive := checkAlives_frame config s
  simp only [aliveFrame, Prod.mk.injEq] at alive
  obtain ⟨initiated_eq, global_eq, mode_eq, reset_eq, ⟨set_eq, first_eq, inverse_eq⟩, counters_eq⟩ :=
    alive
  have others := @checkAlives_others config s
  generalize made : checkAlives config s = t at *
  -- the alive supervision changes neither the mode nor what the status depends on
  have first_frame : t.firstExpired = s.firstExpired := by
    simp [firstExpired, set_eq, first_eq, inverse_eq]
  have entries_eq : currentEntries config t = currentEntries config s := by
    rw [currentEntries, mode_eq]
    rfl
  have tolerates_eq : tolerates config t = tolerates config s := by
    have counter := congrFun counters_eq s.currentMode
    simp [tolerates, mode_eq, counter]
  obtain ⟨rest_initiated, rest_mode, rest_reset, rest_ses, -⟩ :=
    calculateGlobalState_rest config t
  obtain ⟨status, counters⟩ := calculateGlobalState_status config t
  obtain ⟨expired_iff, failed_iff⟩ := calculateLocalStates_counts config t
  have frame := calculateLocalStates_frame config t
  have tally_tolerates : tolerates config (calculateLocalStates config t).state =
      tolerates config s := by
    rw [← tolerates_eq]
    simp only [evalFrame, Prod.mk.injEq] at frame
    simp [tolerates, frame.2.2.1, frame.2.2.2.2]
  simp only [evalFrame, Prod.mk.injEq] at frame
  obtain ⟨frame_initiated, frame_global, frame_mode, frame_reset, frame_modes⟩ := frame
  rw [main_eq]
  constructor
  · rw [rest_initiated, frame_initiated, initiated_eq]
  · rw [rest_mode, frame_mode, mode_eq]
  · rw [rest_reset, frame_reset, reset_eq]
  · intro entry member
    rw [made]
    exact calculateGlobalState_ses (entries_eq ▸ member)
  · intro se absent
    rw [rest_ses, calculateLocalStates_others (entries_eq ▸ absent)]
    exact others absent
  · rw [calculateGlobalState_first, entries_eq, set_eq, first_frame]
  · rw [status, frame_global]
    congr 1
    · exact Bool.eq_iff_iff.mpr (by simpa using expired_iff)
    · exact Bool.eq_iff_iff.mpr (by simpa using failed_iff)
  · intro mode
    have counter := congrFun counters_eq mode
    rw [counters mode, frame_modes, frame_mode, mode_eq, frame_global, global_eq, tally_tolerates]
    simp only [expired_iff]
    exact congrArg (· + _) counter

/-! ## Reports of checkpoints -/

/-- The verdict of the deadline supervision on a checkpoint. -/
def deadlineVerdict (s : State) (entry : SEConfiguration × Nat) (cpId : Nat)
    (readings : Nat → Reading) : Substate :=
  (deadlineMonitoring config entry.1.osCounter cpId readings entry.1.deadlineSupervisions.zipIdx
    (aliveMonitoring entry.1 (s.seConfig entry.2) cpId)).1

/-- The verdict of the logical supervision on a checkpoint. -/
def logicalVerdict (s : State) (seId cpId : Nat) : Substate :=
  (logicalMonitoring (config.supervisedEntity seId) (s.ses seId) cpId).1

end

/-- Where the logical supervision of an entity goes on. -/
def RuntimeSE.flow (se : RuntimeSE) : Bool × Nat := (se.isInternalGraphActive, se.previousCheckpointId)

/-- What an accepted report does. -/
structure Supervised (config : Config) (s s' : State) (entry : SEConfiguration × Nat)
    (seId cpId : Nat) (readings : Nat → Reading) : Prop where
  frame : s'.aliveFrame = s.aliveFrame
  others : ∀ other, other ≠ seId → s'.ses other = s.ses other
  localState : (s'.ses seId).localState = (s.ses seId).localState
  deadline : (s'.ses seId).substateDeadline = deadlineVerdict config s entry cpId readings
  logical : (s'.ses seId).substateLogical =
    if entry.1.checkInternalLogic then logicalVerdict config s seId cpId
    else (s.ses seId).substateLogical
  flow : (s'.ses seId).flow =
    if entry.1.checkInternalLogic then
      (logicalMonitoring (config.supervisedEntity seId) (s.ses seId) cpId).2.flow
    else (s.ses seId).flow

private theorem logicalMonitoring_localState (entity : SupervisedEntity) (se : RuntimeSE)
    (cpId : Nat) : (logicalMonitoring entity se cpId).2.localState = se.localState ∧
      (logicalMonitoring entity se cpId).2.substateDeadline = se.substateDeadline := by
  unfold logicalMonitoring
  split <;> split <;> exact ⟨rfl, rfl⟩

theorem logicalMonitoring_flow (entity : SupervisedEntity) {se se' : RuntimeSE} (cpId : Nat)
    (same : se.flow = se'.flow) :
    (logicalMonitoring entity se cpId).1 = (logicalMonitoring entity se' cpId).1 ∧
      (logicalMonitoring entity se cpId).2.flow = (logicalMonitoring entity se' cpId).2.flow := by
  obtain ⟨active, previous⟩ := Prod.mk.inj same
  unfold logicalMonitoring
  rw [active, previous]
  split <;> split
  · exact ⟨rfl, rfl⟩
  · exact ⟨rfl, same⟩
  · exact ⟨rfl, rfl⟩
  · exact ⟨rfl, same⟩

theorem superviseCheckpoint_supervised (config : Config) (s : State)
    (entry : SEConfiguration × Nat) (seId cpId : Nat) (readings : Nat → Reading) :
    Supervised config s (superviseCheckpoint config s entry seId cpId readings) entry seId cpId
      readings := by
  have frame : ∀ runtime value,
      ((s.setSEConfig s.currentMode entry.2 runtime).setSE seId value).aliveFrame =
        s.aliveFrame := by
    intro runtime value
    simp only [aliveFrame, setSE, setSEConfig_counters]
    rfl
  unfold superviseCheckpoint
  simp only
  split
  next checked =>
    constructor
    · exact frame _ _
    · exact fun other ne => setSE_ses_of_ne ne _
    · rw [setSE_ses]
      exact (logicalMonitoring_localState _ _ _).1
    · rw [setSE_ses]
      exact (logicalMonitoring_localState _ _ _).2
    · rw [setSE_ses, if_pos checked]
      exact (logicalMonitoring_flow _ _ (by rfl)).1
    · rw [setSE_ses, if_pos checked]
      exact (logicalMonitoring_flow _ _ (by rfl)).2
  next unchecked =>
    constructor
    · exact frame _ _
    · exact fun other ne => setSE_ses_of_ne ne _
    · rw [setSE_ses]
      rfl
    · rw [setSE_ses]
      rfl
    · rw [setSE_ses, if_neg unchecked]
      rfl
    · rw [setSE_ses, if_neg unchecked]
      rfl

variable (config : Config) (s : State) (seId cpId : Nat) (readings : Nat → Reading) in
/-- A report is refused and changes nothing, or it is supervised. -/
inductive Reported : Outcome → Prop
  | refused : Reported (s, [.returned false])
  | accepted {entry s'} (initiated : s.isInitiated = true)
      (active : (s.ses seId).localState ≠ .deactivated)
      (found : findEntry config s seId = some entry)
      (supervised : Supervised config s s' entry seId cpId readings) :
      Reported (s', [.returned true])

theorem checkpointReached_reported (config : Config) (s : State) (seId cpId : Nat)
    (readings : Nat → Reading) :
    Reported config s seId cpId readings (checkpointReached config s seId cpId readings) := by
  unfold checkpointReached
  split
  · exact .refused
  next initiated =>
  split
  · exact .refused
  split
  · exact .refused
  split
  · exact .refused
  next active =>
  split
  · exact .refused
  next entry found =>
    exact .accepted (by simpa using initiated) active found
      (superviseCheckpoint_supervised config s entry seId cpId readings)

end WdgM
