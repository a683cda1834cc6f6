import ClassicPlatform.Lib.Machine
import ClassicPlatform.WdgM.Modes
import ClassicPlatform.WdgM.Violations

/-!
# Escalation of expired entities

While the global status is OK or FAILED, no entity has expired and no mode has counted a
cycle with expired entities. With the first expired entity the global status becomes EXPIRED
or STOPPED. From then on modes cannot be switched, so the entity stays in the current mode
and each call of `WdgM_MainFunction` uses up a cycle of the tolerance.
-/
namespace WdgM

open Machine List

variable {config : Config} {s : State} {se : Nat} {call : Call}

/-- Checkpoints, `WdgM_MainFunction`, and switches of the mode whose calls of `WdgIf_SetMode`
succeed. -/
def Call.Plain : Call → Prop
  | .checkpointReached _ _ _ | .mainFunction => True
  | .setMode _ answers answers' =>
    (∀ index, answers index = true) ∧ ∀ index, answers' index = true
  | _ => False

def Call.isMain : Call → Bool
  | .mainFunction => true
  | _ => false

/-! ## Local status along a run -/

theorem calculateLocalState_active (record : RuntimeSE) (conf : SEConfiguration)
    (runtime : RuntimeSEConfig) (active : record.localState ≠ .deactivated) :
    (calculateLocalState record conf runtime).localState ≠ .deactivated := by
  unfold calculateLocalState
  split
  · split
    · unfold fromFailedNoError
      split
      · exact active
      · simp
    · exact active
  · split
    · simp only [fromOKOneError]
      split <;> split <;> first | exact active | simp
    · split
      · simp only [fromFailedOneError]
        split <;> split <;> first | exact active | simp
      · exact active
  · simp

section

variable (config s se)

theorem checkAlives_localState :
    ((checkAlives config s).ses se).localState = (s.ses se).localState := by
  have same := checkAlives_ses config s se
  simp only [RuntimeSE.mk.injEq] at same
  exact same.1

theorem entry_or_absent :
    (∃ entry ∈ currentEntries config s, entry.1.supervisedEntityId = se) ∨
      ∀ entry ∈ currentEntries config s, entry.1.supervisedEntityId ≠ se := by
  by_cases present : ∃ entry ∈ currentEntries config s, entry.1.supervisedEntityId = se
  · exact .inl present
  · exact .inr fun entry member same => present ⟨entry, member, same⟩

end

variable {s' : State}

section

variable (evaluated : Evaluated config s s')
include evaluated

theorem Evaluated.expired
    (expired : (s.ses se).localState = .expired) : (s'.ses se).localState = .expired := by
  rcases entry_or_absent config s se with ⟨entry, member, rfl⟩ | absent
  · rw [evaluated.entity entry member]
    exact calculateLocalState_expired ((checkAlives_localState config s _).trans expired)
  · rw [evaluated.others se absent]
    exact expired

theorem Evaluated.active {entry : SEConfiguration × Nat} (member : entry ∈ currentEntries config s)
    (active : (s.ses entry.1.supervisedEntityId).localState ≠ .deactivated) :
    (s'.ses entry.1.supervisedEntityId).localState ≠ .deactivated := by
  rw [evaluated.entity entry member]
  apply calculateLocalState_active _ _ _
  rw [checkAlives_localState]
  exact active

theorem Evaluated.entries : currentEntries config s' = currentEntries config s := by
  rw [currentEntries, evaluated.mode]
  rfl

end

theorem checkpointReached_localState (config : Config) (s : State) (seId cpId : Nat)
    (readings : Nat → Reading) (se : Nat) :
    let s' := (checkpointReached config s seId cpId readings).1
    s'.aliveFrame = s.aliveFrame ∧ (s'.ses se).localState = (s.ses se).localState ∧
      ∀ event ∈ (checkpointReached config s seId cpId readings).2, ∃ ok, event = .returned ok := by
  have reported := checkpointReached_reported config s seId cpId readings
  generalize checkpointReached config s seId cpId readings = outcome at reported ⊢
  cases reported with
  | refused => exact ⟨rfl, rfl, by simp⟩
  | accepted initiated active found supervised =>
    refine ⟨supervised.frame, ?_, by simp⟩
    by_cases own : se = seId
    · rw [own]
      exact supervised.localState
    · rw [supervised.others se own]

/-! ## Global status along a run -/

section Next

variable {expired failed tolerated : Bool} {status : GlobalStatus}

theorem GlobalStatus.next_calm
    (calm : status.next expired failed tolerated = .ok ∨
      status.next expired failed tolerated = .failed) :
    expired = false ∧ (status = .ok ∨ status = .failed) := by
  cases status <;> cases expired <;> cases tolerated <;> simp [GlobalStatus.next] at calm ⊢

theorem GlobalStatus.next_ok (ok : status.next expired failed tolerated = .ok) :
    expired = false ∧ failed = false := by
  cases status <;> cases expired <;> cases failed <;> cases tolerated <;>
    simp [GlobalStatus.next] at ok ⊢

theorem GlobalStatus.next_failed (reached : status.next expired failed tolerated = .failed) :
    expired = false ∧ failed = true := by
  cases status <;> cases expired <;> cases failed <;> cases tolerated <;>
    simp [GlobalStatus.next] at reached ⊢

theorem GlobalStatus.next_alarmed
    (alarmed : status.next expired failed tolerated = .expired ∨
      status.next expired failed tolerated = .stopped) :
    expired ∨ status = .expired ∨ status = .stopped := by
  cases status <;> cases expired <;> cases failed <;> simp [GlobalStatus.next] at alarmed ⊢

theorem GlobalStatus.next_running (running : status ≠ .deactivated) :
    status.next expired failed tolerated ≠ .deactivated := by
  cases status <;> cases expired <;> cases failed <;> cases tolerated <;>
    simp [GlobalStatus.next] at running ⊢

end Next

theorem Evaluated.someExpired (evaluated : Evaluated config s s')
    (some_expired : someLocal config s .expired) : someLocal config s' .expired = true := by
  obtain ⟨entry, member, expired⟩ := someLocal_iff.mp some_expired
  exact someLocal_iff.mpr ⟨entry, evaluated.entries ▸ member, evaluated.expired expired⟩

def NoneExpired (config : Config) (s : State) : Prop :=
  ∀ se < config.lengthSupervisedEntities, (s.ses se).localState ≠ .expired

theorem Evaluated.noneExpired (evaluated : Evaluated config s s') (before : NoneExpired config s)
    (none_expired : someLocal config s' .expired = false) : NoneExpired config s' := by
  intro se known expired
  rcases entry_or_absent config s se with ⟨entry, member, rfl⟩ | absent
  · have found := someLocal_iff.mpr ⟨entry, evaluated.entries ▸ member, expired⟩
    cases none_expired.symm.trans found
  · rw [evaluated.others se absent] at expired
    exact before se known expired

theorem SwitchedTo.noneExpired {mode : Nat} (switched : SwitchedTo config s s' mode)
    (before : NoneExpired config s) : NoneExpired config s' := by
  intro se known
  rw [switched.ses]
  split
  · rw [RuntimeSE.activated]
    split
    · simp
    · exact before se known
  · rintro ⟨⟩

/-! ## The invariant -/

/-- The manager between two calls. -/
structure Supervising (config : Config) (s : State) : Prop where
  initiated : s.isInitiated = true
  running : s.globalState ≠ .deactivated
  active : ∀ entry ∈ currentEntries config s,
    (s.ses entry.1.supervisedEntityId).localState ≠ .deactivated
  /-- While the modes can be switched, nothing has expired. -/
  calm : s.globalState = .ok ∨ s.globalState = .failed →
    NoneExpired config s ∧ ∀ mode, (s.modes mode).expiredSupervisionCycleCounter = 0
  alarmed : s.globalState = .expired ∨ s.globalState = .stopped →
    someLocal config s .expired = true

theorem Started.supervising {fresh : State} (started : Started config fresh s)
    (initiated : s.isInitiated)
    (zero : ∀ mode, (fresh.modes mode).expiredSupervisionCycleCounter = 0) :
    Supervising config s where
  initiated := initiated
  running := by
    rw [started.status]
    nofun
  active := by
    intro entry member
    have supervised := mem_ids_of_entry member
    rw [started.current] at supervised
    rw [started.ses _ (entry_known member), if_pos supervised]
    nofun
  calm := by
    refine fun _ => ⟨fun se known => ?_, fun mode => started.counters mode (zero mode)⟩
    rw [started.ses se known]
    split <;> nofun
  alarmed := by
    rw [started.status]
    rintro (impossible | impossible) <;> cases impossible

variable {status : GlobalStatus}

private theorem GlobalStatus.not_both (calm : status = .ok ∨ status = .failed)
    (alarmed : status = .expired ∨ status = .stopped) : False := by
  rcases calm with rfl | rfl <;> rcases alarmed with impossible | impossible <;> cases impossible

section

variable (supervising : Supervising config s)
include supervising

private theorem Supervising.calm_or_alarmed : (s.globalState = .ok ∨ s.globalState = .failed) ∨
    s.globalState = .expired ∨ s.globalState = .stopped := by
  cases status : s.globalState with
  | deactivated => exact absurd status supervising.running
  | _ => simp

private theorem Supervising.report (frame : s'.aliveFrame = s.aliveFrame)
    (status : ∀ se, (s'.ses se).localState = (s.ses se).localState) : Supervising config s' := by
  simp only [State.aliveFrame, Prod.mk.injEq] at frame
  obtain ⟨initiated, global, mode, -, -, counters⟩ := frame
  have entries : currentEntries config s' = currentEntries config s := by
    rw [currentEntries, mode]
    rfl
  constructor
  · rw [initiated]
    exact supervising.initiated
  · rw [global]
    exact supervising.running
  · intro entry member
    rw [status]
    exact supervising.active entry (entries ▸ member)
  · intro calm
    obtain ⟨none_expired, zero⟩ := supervising.calm (global ▸ calm)
    refine ⟨fun se known => ?_, fun mode => ?_⟩
    · rw [status]
      exact none_expired se known
    · exact (congrFun counters mode).trans (zero mode)
  · intro alarmed
    obtain ⟨entry, member, expired⟩ := someLocal_iff.mp (supervising.alarmed (global ▸ alarmed))
    exact someLocal_iff.mpr ⟨entry, entries ▸ member, (status _).trans expired⟩

private theorem Supervising.main : Supervising config (mainFunction config s).1 := by
  have evaluated := mainFunction_evaluated config supervising.initiated
  have status := evaluated.status
  constructor
  · rw [evaluated.initiated]
    exact supervising.initiated
  · rw [status]
    exact GlobalStatus.next_running supervising.running
  · intro entry member
    rw [evaluated.entries] at member
    exact evaluated.active member (supervising.active entry member)
  · intro calm
    rw [status] at calm
    obtain ⟨none_expired, was_calm⟩ := GlobalStatus.next_calm calm
    obtain ⟨before, zero⟩ := supervising.calm was_calm
    refine ⟨evaluated.noneExpired before none_expired, fun mode => ?_⟩
    rw [evaluated.counters, zero, if_neg]
    rintro ⟨-, -, some_expired, -⟩
    cases none_expired.symm.trans some_expired
  · intro alarmed
    rw [status] at alarmed
    rcases GlobalStatus.next_alarmed alarmed with some_expired | was_alarmed
    · exact some_expired
    · exact evaluated.someExpired (supervising.alarmed was_alarmed)

private theorem Supervising.switched {mode : Nat}
    (calm : s.globalState = .ok ∨ s.globalState = .failed) (switched : SwitchedTo config s s' mode)
    (status : s'.globalState = s.globalState) : Supervising config s' := by
  obtain ⟨none_expired, zero⟩ := supervising.calm calm
  constructor
  · rw [switched.initiated]
    exact supervising.initiated
  · rw [status]
    exact supervising.running
  · intro entry member
    have supervised := mem_ids_of_entry member
    rw [switched.current] at supervised
    rw [switched.ses, if_pos supervised, RuntimeSE.activated]
    split
    · simp
    · assumption
  · refine fun _ => ⟨switched.noneExpired none_expired, fun other => ?_⟩
    rw [switched.counters, zero, ite_self]
  · intro alarmed
    rw [status] at alarmed
    exact (GlobalStatus.not_both calm alarmed).elim

theorem Supervising.stepped (plain : call.Plain) : Supervising config (step config s call).1 := by
  cases call with
  | checkpointReached seId cpId readings =>
    have same := checkpointReached_localState config s seId cpId readings
    exact supervising.report (same 0).1 fun se => (same se).2.1
  | mainFunction => exact supervising.main
  | setMode mode answers answers' =>
    simp only [step]
    rcases setMode_cases config s mode answers answers' with ⟨ok, same⟩ | ⟨-, calm, switched, status⟩
    · rw [same]
      exact supervising
    · exact supervising.switched calm switched (status plain.1 plain.2)
  | deInit answers | performReset => exact plain.elim

/-! ## After the first expired entity -/

end

theorem setMode_frozen (alarmed : s.globalState = .expired ∨ s.globalState = .stopped) (mode : Nat)
    (answers answers' : Nat → Bool) :
    ∃ ok, setMode config s mode answers answers' = (s, [.returned ok]) := by
  rcases setMode_cases config s mode answers answers' with same | ⟨-, calm, -⟩
  · exact same
  · exact (GlobalStatus.not_both calm alarmed).elim

/-- An expired entity, under a global status that shows it. -/
structure Frozen (se : Nat) (s : State) : Prop where
  initiated : s.isInitiated = true
  alarmed : s.globalState = .expired ∨ s.globalState = .stopped
  expired : (s.ses se).localState = .expired

theorem GlobalStatus.next_frozen {expired failed tolerated : Bool}
    (alarmed : status = .expired ∨ status = .stopped) :
    status.next expired failed tolerated = .expired ∨
      status.next expired failed tolerated = .stopped := by
  rcases alarmed with rfl | rfl
  · cases expired <;> cases tolerated <;> simp [GlobalStatus.next]
  · exact .inr rfl

theorem Frozen.stepped (frozen : Frozen se s) (plain : call.Plain) :
    Frozen se (step config s call).1 := by
  cases call with
  | checkpointReached seId cpId readings =>
    obtain ⟨frame, status, -⟩ := checkpointReached_localState config s seId cpId readings se
    simp only [State.aliveFrame, Prod.mk.injEq] at frame
    obtain ⟨initiated, global, -⟩ := frame
    constructor
    · exact initiated.trans frozen.initiated
    · simp only [step, global]
      exact frozen.alarmed
    · exact status.trans frozen.expired
  | mainFunction =>
    have evaluated := mainFunction_evaluated config frozen.initiated
    constructor
    · exact evaluated.initiated.trans frozen.initiated
    · simp only [step, evaluated.status]
      exact GlobalStatus.next_frozen frozen.alarmed
    · exact evaluated.expired frozen.expired
  | setMode mode answers answers' =>
    obtain ⟨ok, same⟩ := @setMode_frozen config s frozen.alarmed mode answers answers'
    simp only [step, same]
    exact frozen
  | deInit answers | performReset => exact plain.elim

/-- `cycles` calls of `WdgM_MainFunction` after the one in which the first entity of the mode has
expired. -/
structure Escalated (config : Config) (mode cycles : Nat) (s : State) : Prop where
  initiated : s.isInitiated = true
  current : s.currentMode = mode
  expired : someLocal config s .expired = true
  status :
    (0 < (config.mode mode).expiredSupervisionCycleTol ∧
      cycles ≤ (config.mode mode).expiredSupervisionCycleTol ∧ s.globalState = .expired ∧
      (s.modes mode).expiredSupervisionCycleCounter = cycles) ∨
    ((config.mode mode).expiredSupervisionCycleTol = 0 ∨
      (config.mode mode).expiredSupervisionCycleTol < cycles) ∧ s.globalState = .stopped

theorem Escalated.alarmed {mode cycles : Nat} (escalated : Escalated config mode cycles s) :
    s.globalState = .expired ∨ s.globalState = .stopped := by
  rcases escalated.status with ⟨-, -, expired, -⟩ | ⟨-, stopped⟩
  · exact .inl expired
  · exact .inr stopped

theorem Supervising.escalates (supervising : Supervising config s)
    (none_expired : someLocal config s .expired = false)
    (some_expired : someLocal config (mainFunction config s).1 .expired) :
    Escalated config (mainFunction config s).1.currentMode 0 (mainFunction config s).1 := by
  have evaluated := mainFunction_evaluated config supervising.initiated
  have calm : s.globalState = .ok ∨ s.globalState = .failed := by
    refine supervising.calm_or_alarmed.resolve_right fun alarmed => ?_
    cases none_expired.symm.trans (supervising.alarmed alarmed)
  have zero := (supervising.calm calm).2
  have status := evaluated.status
  rw [some_expired] at status
  refine ⟨evaluated.initiated.trans supervising.initiated, rfl, some_expired, ?_⟩
  have next_eq : (mainFunction config s).1.globalState =
      if tolerates config s then .expired else .stopped := by
    rw [status]
    rcases calm with calm | calm <;> rw [calm] <;> rfl
  rw [evaluated.mode, next_eq]
  simp only [tolerates, zero, decide_eq_true_eq]
  by_cases tolerated : 0 < (config.mode s.currentMode).expiredSupervisionCycleTol
  · refine .inl ⟨tolerated, Nat.zero_le _, if_pos tolerated, ?_⟩
    rw [evaluated.counters, zero, if_neg]
    rintro ⟨-, expired, -⟩
    rcases calm with calm | calm <;> rw [calm] at expired <;> cases expired
  · exact .inr ⟨.inl (Nat.eq_zero_of_not_pos tolerated), if_neg tolerated⟩

section

variable {cycles mode : Nat} (escalated : Escalated config mode cycles s)
include escalated

private theorem Escalated.main : Escalated config mode (cycles + 1) (mainFunction config s).1 := by
  have evaluated := mainFunction_evaluated config escalated.initiated
  have some_expired := evaluated.someExpired escalated.expired
  have status := evaluated.status
  rw [some_expired] at status
  refine ⟨evaluated.initiated.trans escalated.initiated, evaluated.mode.trans escalated.current,
    some_expired, ?_⟩
  rcases escalated.status with ⟨tolerated, within, expired, counter⟩ | ⟨exceeded, stopped⟩
  · rw [expired] at status
    have tolerates_iff : tolerates config s = true ↔
        cycles < (config.mode mode).expiredSupervisionCycleTol := by
      simp [tolerates, escalated.current, counter]
    by_cases more : cycles < (config.mode mode).expiredSupervisionCycleTol
    · have tolerating := tolerates_iff.mpr more
      refine .inl ⟨tolerated, more, ?_, ?_⟩
      · rw [status, tolerating]
        rfl
      · rw [evaluated.counters, counter,
          if_pos ⟨escalated.current.symm, expired, some_expired, tolerating⟩]
    · have not_tolerating : tolerates config s = false := by
        rw [← Bool.not_eq_true, tolerates_iff]
        exact more
      refine .inr ⟨.inr (by omega), ?_⟩
      rw [status, not_tolerating]
      rfl
  · rw [stopped] at status
    exact .inr ⟨exceeded.imp_right Nat.lt_succ_of_lt, status⟩

theorem Escalated.stepped (plain : call.Plain) :
    Escalated config mode (cycles + if call.isMain then 1 else 0) (step config s call).1 := by
  cases call with
  | checkpointReached seId cpId readings =>
    have same := checkpointReached_localState config s seId cpId readings
    have frame := (same 0).1
    simp only [State.aliveFrame, Prod.mk.injEq] at frame
    obtain ⟨initiated, global, current, -, -, counters⟩ := frame
    simp only [step]
    constructor
    · exact initiated.trans escalated.initiated
    · exact current.trans escalated.current
    · obtain ⟨entry, member, expired⟩ := someLocal_iff.mp escalated.expired
      refine someLocal_iff.mpr ⟨entry, ?_, ((same _).2.1).trans expired⟩
      rw [currentEntries, current]
      exact member
    · rw [global, show _ = _ from congrFun counters mode]
      exact escalated.status
  | mainFunction => exact escalated.main
  | setMode new_mode answers answers' =>
    obtain ⟨ok, same⟩ := @setMode_frozen config s escalated.alarmed new_mode answers answers'
    simp only [step, same]
    exact escalated
  | deInit answers | performReset => exact plain.elim

theorem Escalated.run {calls : List Call} (plain : ∀ call ∈ calls, call.Plain) :
    Escalated config mode (cycles + calls.countP (·.isMain)) (run (step config) s calls).1 := by
  induction calls generalizing s cycles with
  | nil => exact escalated
  | cons call rest ih =>
    have next := ih (escalated.stepped (plain call mem_cons_self))
      fun other member => plain other (mem_cons_of_mem call member)
    rw [countP_cons, add_comm (rest.countP _), ← add_assoc]
    exact next

/-! ## Triggers -/

end

theorem step_triggers (plain : call.Plain)
    (stopped : (step config s call).1.globalState = .stopped) {device value : Nat}
    (set : .setTriggerCondition device value ∈ (step config s call).2) : value = 0 := by
  cases call with
  | checkpointReached seId cpId readings =>
    obtain ⟨-, -, events⟩ := checkpointReached_localState config s seId cpId readings 0
    obtain ⟨ok, impossible⟩ := events _ set
    cases impossible
  | mainFunction =>
    simp only [step, mainFunction] at stopped set
    split at set
    · simp at set
    next initiated =>
      rw [if_neg initiated] at stopped
      simp only [mainTriggers, mem_filterMap] at set
      obtain ⟨trigger, -, event⟩ := set
      split at event
      · cases event
        rfl
      · cases event
  | setMode mode answers answers' =>
    simp only [step] at stopped set
    rcases setMode_cases config s mode answers answers' with ⟨ok, same⟩ | ⟨-, calm, -, status⟩
    · rw [same] at set
      simp at set
    · -- a switch that succeeds keeps the status OK or FAILED
      rw [status plain.1 plain.2] at stopped
      exact (GlobalStatus.not_both calm (.inr stopped)).elim
  | deInit answers | performReset => exact plain.elim

/-! ## Every run -/

/-- In every run after a successful start: an expired entity stays expired, keeps the global
status from OK and FAILED and the mode from being switched. With the first expired entity the
global status is EXPIRED for as many further calls of `WdgM_MainFunction` as the mode tolerates,
and then STOPPED; triggers are then set to zero. After `WdgM_MainFunction` the global status is OK
or FAILED only if the entities of the mode are. -/
theorem expired_entities_escalate (config : Config) (fresh : State) (answers : Nat → Bool)
    (off : fresh.isInitiated = false)
    (zero : ∀ mode, (fresh.modes mode).expiredSupervisionCycleCounter = 0)
    (initiated : (init config fresh answers).1.isInitiated = true)
    (calls : List Call) (plain : ∀ call ∈ calls, call.Plain) :
    let s := (run (step config) (init config fresh answers).1 calls).1
    let s' := (mainFunction config s).1
    let tol := (config.mode s'.currentMode).expiredSupervisionCycleTol
    (∀ entry ∈ currentEntries config s', ∀ later : List Call, (∀ call ∈ later, call.Plain) →
      (s'.ses entry.1.supervisedEntityId).localState = .expired →
      let last := (run (step config) s' later).1
      (last.ses entry.1.supervisedEntityId).localState = .expired ∧
        last.globalState ≠ .ok ∧ last.globalState ≠ .failed ∧
        ∀ mode answers answers', ∃ ok,
          setMode config last mode answers answers' = (last, [.returned ok])) ∧
    (someLocal config s .expired = false → someLocal config s' .expired = true →
      ∀ later : List Call, (∀ call ∈ later, call.Plain) →
      (run (step config) s' later).1.globalState =
        if 0 < tol ∧ later.countP (·.isMain) ≤ tol then .expired else .stopped) ∧
    (∀ call : Call, call.Plain → (step config s call).1.globalState = .stopped →
      ∀ device value, .setTriggerCondition device value ∈ (step config s call).2 → value = 0) ∧
    (s'.globalState = .ok → ∀ entry ∈ currentEntries config s',
      (s'.ses entry.1.supervisedEntityId).localState = .ok) ∧
    (s'.globalState = .failed →
      someLocal config s' .expired = false ∧ someLocal config s' .failed = true) := by
  intro s s' tol
  have started := (init_started off initiated).supervising initiated zero
  have supervising : Supervising config s :=
    run_invariant _ started (.of_forall plain) fun _ _ supervising => supervising.stepped
  have supervising' : Supervising config s' := supervising.main
  have evaluated : Evaluated config s s' := mainFunction_evaluated config supervising.initiated
  refine ⟨?_, ?_, fun call plain stopped device value set => step_triggers plain stopped set,
    ?_, ?_⟩
  · intro entry member later later_plain expired
    have alarmed : s'.globalState = .expired ∨ s'.globalState = .stopped :=
      supervising'.calm_or_alarmed.resolve_left fun calm =>
        (supervising'.calm calm).1 _ (entry_known member) expired
    have frozen : Frozen entry.1.supervisedEntityId (run (step config) s' later).1 :=
      run_invariant _ ⟨supervising'.initiated, alarmed, expired⟩ (.of_forall later_plain)
        fun _ _ frozen => frozen.stepped
    exact ⟨frozen.expired, fun ok => GlobalStatus.not_both (.inl ok) frozen.alarmed,
      fun failed => GlobalStatus.not_both (.inr failed) frozen.alarmed,
      setMode_frozen frozen.alarmed⟩
  · intro none_expired some_expired later later_plain
    have escalated := (supervising.escalates none_expired some_expired).run later_plain
    rw [zero_add] at escalated
    rcases escalated.status with ⟨tolerated, within, expired, -⟩ | ⟨exceeded, stopped⟩
    · rw [if_pos ⟨tolerated, within⟩]
      exact expired
    · have exceeded : tol = 0 ∨ tol < later.countP (·.isMain) := exceeded
      rw [if_neg (by omega)]
      exact stopped
  · intro ok entry member
    obtain ⟨none_expired, none_failed⟩ := GlobalStatus.next_ok (evaluated.status.symm.trans ok)
    have found : ∀ {status}, (s'.ses entry.1.supervisedEntityId).localState = status →
        someLocal config s' status = true :=
      fun reached => someLocal_iff.mpr ⟨entry, member, reached⟩
    cases reached : (s'.ses entry.1.supervisedEntityId).localState with
    | ok => rfl
    | failed => cases none_failed.symm.trans (found reached)
    | expired => cases none_expired.symm.trans (found reached)
    | deactivated => exact absurd reached (supervising'.active entry member)
  · exact fun failed => GlobalStatus.next_failed (evaluated.status.symm.trans failed)

/-- A stray checkpoint, with one tolerated cycle: the global status is EXPIRED after the call that
finds it and after the next one, and then STOPPED. -/
theorem stray_checkpoint_escalates :
    let s' := (mainFunction oneEntity (run (step oneEntity) (started oneEntity) [.reached 0 1]).1).1
    (run (step oneEntity) s' [.mainFunction]).1.globalState = .expired ∧
      (run (step oneEntity) s' [.mainFunction, .mainFunction]).1.globalState = .stopped := by
  obtain ⟨-, escalates, -⟩ := expired_entities_escalate oneEntity .zero (fun _ => true) rfl
    (fun _ => rfl) (by decide +kernel) [.reached 0 1] (by simp [Call.reached, Call.Plain])
  have later := escalates (by decide +kernel) (by decide +kernel)
  exact ⟨later [.mainFunction] (by simp [Call.Plain]),
    later [.mainFunction, .mainFunction] (by simp [Call.Plain])⟩

end WdgM
