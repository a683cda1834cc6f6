import ClassicPlatform.WdgM.Cycle

/-!
# Start and mode switches

What `WdgM_Init` and `WdgM_SetMode` leave of the entities. A switch walks along the entities
of the new mode and along all ids at once, which is right because the entities are in the
order of their ids: the entities of the new mode keep what they have, or start as OK, and
all others are deactivated.
-/
namespace WdgM

open List Nat

variable {config : Config} {s : State} {se : Nat}

/-! ## Watchdogs -/

/-- Watchdogs were switched, or the global status is STOPPED. -/
def SwitchEnds (s : State) (outcome : Outcome × Bool) : Prop :=
  outcome.2 = true ∧ outcome.1.1 = s ∨
    outcome.2 = false ∧ outcome.1.1 = { s with globalState := .stopped }

theorem switchTriggers_ends (config : Config) (arms : Bool) (answers : Nat → Bool)
    (triggers : List (Trigger × Nat)) (s : State) :
    SwitchEnds s (switchTriggers config arms answers triggers s) := by
  induction triggers with
  | nil => exact .inl ⟨rfl, rfl⟩
  | cons entry rest ih =>
    simp only [switchTriggers]
    split
    · exact ih
    · exact .inr ⟨rfl, rfl⟩

variable {answers : Nat → Bool}

section

variable (config)

theorem switchTriggers_ok (arms : Bool)
    (answered : ∀ index, answers index) (triggers : List (Trigger × Nat)) (s : State) :
    (switchTriggers config arms answers triggers s).2 = true := by
  induction triggers with
  | nil => rfl
  | cons entry rest ih =>
    simp only [switchTriggers, answered]
    exact ih

theorem switchWatchdogs_ends (s : State) (mode : Nat) (answers answers' : Nat → Bool) :
    SwitchEnds s (switchWatchdogs config s mode answers answers') := by
  simp only [switchWatchdogs, deactivateCurrentTriggers]
  rcases switchTriggers_ends config false answers (config.mode s.currentMode).triggers.zipIdx s with
    ⟨ok, same⟩ | ⟨failed, stopped⟩
  · simp only [ok, same]
    exact switchTriggers_ends config true answers' (config.mode mode).triggers.zipIdx s
  · simp only [failed]
    exact .inr ⟨rfl, stopped⟩

theorem switchWatchdogs_ok (s : State) (mode : Nat) {answers' : Nat → Bool}
    (answered : ∀ index, answers index) (answered' : ∀ index, answers' index) :
    (switchWatchdogs config s mode answers answers').2 = true := by
  simp only [switchWatchdogs, deactivateCurrentTriggers, switchTriggers_ok config false answered]
  exact switchTriggers_ok config true answered' _ _

/-! ## Entities -/

/-- Everything but the entities is the same. -/
def SameRest (s s' : State) : Prop := s' = { s with ses := s'.ses }

theorem SameRest.trans {s' s'' : State} (first : SameRest s s') (second : SameRest s' s'') :
    SameRest s s'' := by
  unfold SameRest at *
  rw [second, first]

theorem SameRest.foldl {Item : Type} {turn : State → Item → State}
    (same : ∀ s item, SameRest s (turn s item)) (items : List Item) (s : State) :
    SameRest s (items.foldl turn s) := by
  induction items generalizing s with
  | nil => rfl
  | cons item rest ih => exact (same s item).trans (ih _)

theorem deactivateUntil_rest (s : State) (first until_id : Nat) :
    SameRest s (deactivateUntil s first until_id) :=
  .foldl (fun _ _ => by rfl) _ s

theorem deactivateUntil_ses (s : State) (first until_id se : Nat) :
    (deactivateUntil s first until_id).ses se =
      if first ≤ se ∧ se < until_id then resetSE else s.ses se := by
  have others : ∀ {other : Nat}, other ≠ se → ∀ state : State,
      (deactivateAndResetSE state other).ses se = state.ses se :=
    fun ne state => setSE_ses_of_ne ne.symm _
  split
  next inside =>
    exact Sweep.foldl_view (fun state : State => state.ses se) (fun _ => resetSE)
      nodup_range' (mem_range'_1.mpr (by omega)) (fun other _ ne => others ne)
      (fun _ => setSE_ses _) s
  next outside =>
    refine Sweep.foldl_frame (fun state : State => state.ses se) (fun other member => ?_) s
    apply others
    have range := mem_range'_1.mp member
    omega

/-- An entity that is to be supervised: a deactivated one starts as OK. -/
def RuntimeSE.activated (record : RuntimeSE) : RuntimeSE :=
  if record.localState = .deactivated then { record with localState := .ok } else record

theorem switchEntities_rest (confs : List SEConfiguration) (seIndex : Nat)
    (s : State) : SameRest s (switchEntities config confs seIndex s) := by
  induction confs generalizing seIndex s with
  | nil => exact deactivateUntil_rest s _ _
  | cons conf rest ih =>
    simp only [switchEntities]
    apply (deactivateUntil_rest s seIndex conf.supervisedEntityId).trans
    split
    · have step : ∀ state : State, ∀ se, SameRest state (activateSE state se) := fun _ _ => rfl
      exact (step _ _).trans (ih _ _)
    · exact ih _ _

private theorem switchTurn_ses (s : State) (seIndex id se : Nat) :
    let t := deactivateUntil s seIndex id
    (if (t.ses id).localState = .deactivated then activateSE t id else t).ses se =
      if se = id then (s.ses id).activated
      else if seIndex ≤ se ∧ se < id then resetSE
      else s.ses se := by
  intro t
  have own : t.ses id = s.ses id := by
    rw [deactivateUntil_ses, if_neg (by omega)]
  have others (ne : se ≠ id) :
      (if (t.ses id).localState = .deactivated then activateSE t id else t).ses se = t.ses se := by
    split
    · exact setSE_ses_of_ne ne _
    · rfl
  by_cases here : se = id
  · subst here
    rw [if_pos rfl, RuntimeSE.activated, own]
    split
    · rw [activateSE, setSE_ses, own]
    · exact own
  · rw [others here, if_neg here, deactivateUntil_ses]

theorem switchEntities_ses (confs : List SEConfiguration) (seIndex : Nat)
    (s : State) (sorted : (confs.map (·.supervisedEntityId)).Pairwise (· < ·))
    (ahead : ∀ conf ∈ confs, seIndex ≤ conf.supervisedEntityId)
    (known : ∀ conf ∈ confs, conf.supervisedEntityId < config.lengthSupervisedEntities) (se : Nat) :
    (switchEntities config confs seIndex s).ses se = if se < seIndex then s.ses se
      else if se ∈ confs.map (·.supervisedEntityId) then (s.ses se).activated
      else if se < config.lengthSupervisedEntities then resetSE else s.ses se := by
  induction confs generalizing seIndex s with
  | nil =>
    simp only [switchEntities, deactivateUntil_ses, map_nil, not_mem_nil, if_false]
    by_cases before : se < seIndex
    · rw [if_pos before, if_neg (by omega)]
    · rw [if_neg before]
      by_cases known : se < config.lengthSupervisedEntities
      · rw [if_pos known, if_pos (by omega)]
      · rw [if_neg known, if_neg (by omega)]
  | cons conf rest ih =>
    obtain ⟨behind, rest_sorted⟩ := pairwise_cons.mp sorted
    have here : seIndex ≤ conf.supervisedEntityId := ahead conf mem_cons_self
    have conf_known := known conf mem_cons_self
    have rest_ahead : ∀ other ∈ rest, conf.supervisedEntityId + 1 ≤ other.supervisedEntityId :=
      fun other member => behind _ (mem_map_of_mem member)
    simp only [switchEntities, max_eq_right here]
    rw [ih _ _ rest_sorted rest_ahead fun other member => known other (mem_cons_of_mem _ member)]
    -- the gap before this configuration is deactivated, and its own entity is activated
    have turn := switchTurn_ses s seIndex conf.supervisedEntityId
    rw [turn]
    by_cases own : se = conf.supervisedEntityId
    · rw [if_pos (by omega), if_pos own, if_neg (by omega), if_pos (by simp [own]), own]
    · have same_members : se ∈ (conf :: rest).map (·.supervisedEntityId) ↔
          se ∈ rest.map (·.supervisedEntityId) := by
        rw [map_cons, mem_cons, or_iff_right own]
      rw [if_neg own]
      by_cases beyond : conf.supervisedEntityId < se
      · have not_done : ¬ se < conf.supervisedEntityId + 1 := by omega
        have not_gap : ¬ (seIndex ≤ se ∧ se < conf.supervisedEntityId) := by omega
        have not_before : ¬ se < seIndex := by omega
        simp only [if_neg not_done, if_neg not_gap, if_neg not_before, same_members]
      · have absent : se ∉ (conf :: rest).map (·.supervisedEntityId) := by
          rw [same_members]
          intro member
          obtain ⟨other, other_member, rfl⟩ := mem_map.mp member
          exact beyond (behind _ (mem_map_of_mem other_member))
        rw [if_pos (by omega), if_neg absent]
        by_cases before : se < seIndex
        · rw [if_pos before, if_neg (by omega)]
        · rw [if_neg before, if_pos (by omega), if_pos (by omega)]

/-! ## The services -/

end

def Mode.ids (mode : Mode) : List Nat := mode.seConfigurations.map (·.supervisedEntityId)

variable {entry : SEConfiguration × Nat}

theorem mem_ids_of_entry (member : entry ∈ currentEntries config s) :
    entry.1.supervisedEntityId ∈ (config.mode s.currentMode).ids :=
  mem_map_of_mem (fst_mem_of_mem_zipIdx member)

theorem entry_known (member : entry ∈ currentEntries config s) :
    entry.1.supervisedEntityId < config.lengthSupervisedEntities :=
  config.known _ _ (fst_mem_of_mem_zipIdx member)

theorem resetSEConfigsForMode_counters (s : State) (mode other : Nat) :
    ((resetSEConfigsForMode s mode).modes other).expiredSupervisionCycleCounter =
      if other = mode then 0 else (s.modes other).expiredSupervisionCycleCounter := by
  simp only [resetSEConfigsForMode]
  by_cases own : other = mode
  · rw [own, Function.update_self, if_pos rfl]
  · rw [Function.update_of_ne own, if_neg own]

/-- What a switch to another mode leaves. -/
structure SwitchedTo (config : Config) (s s' : State) (mode : Nat) : Prop where
  initiated : s'.isInitiated = s.isInitiated
  current : s'.currentMode = mode
  first : s'.firstExpired = s.firstExpired
  status : s'.globalState = s.globalState ∨ s'.globalState = .stopped
  ses : ∀ se, s'.ses se =
    if se ∈ (config.mode mode).ids then (s.ses se).activated
    else if se < config.lengthSupervisedEntities then resetSE
    else s.ses se
  counters : ∀ other, (s'.modes other).expiredSupervisionCycleCounter =
    if other = s.currentMode then 0 else (s.modes other).expiredSupervisionCycleCounter

private theorem switchedTo_of_status {mode : Nat} {status : GlobalStatus}
    (kept : status = s.globalState ∨ status = .stopped) :
    SwitchedTo config s
      { resetSEConfigsForMode (switchEntities config (config.mode mode).seConfigurations 0 s)
          (switchEntities config (config.mode mode).seConfigurations 0 s).currentMode with
        globalState := status
        currentMode := mode } mode := by
  have rest := switchEntities_rest config (config.mode mode).seConfigurations 0 s
  have ses := switchEntities_ses config (config.mode mode).seConfigurations 0 s
    (config.mode mode).sorted (fun _ _ => zero_le _) (config.known mode)
  rw [rest]
  constructor
  · rfl
  · rfl
  · rfl
  · exact kept
  · intro se
    exact (ses se).trans (if_neg (not_lt_zero se))
  · intro other
    exact resetSEConfigsForMode_counters _ _ other

theorem setMode_cases (config : Config) (s : State) (mode : Nat) (answers answers' : Nat → Bool) :
    (∃ ok, setMode config s mode answers answers' = (s, [.returned ok])) ∨
      s.isInitiated ∧ (s.globalState = .ok ∨ s.globalState = .failed) ∧
        SwitchedTo config s (setMode config s mode answers answers').1 mode ∧
        ((∀ index, answers index) → (∀ index, answers' index) →
          (setMode config s mode answers answers').1.globalState = s.globalState) := by
  unfold setMode
  split
  · exact .inl ⟨false, rfl⟩
  next initiated =>
  split
  · exact .inl ⟨false, rfl⟩
  split
  · exact .inl ⟨false, rfl⟩
  split
  next calm =>
    refine .inr ⟨by simpa using initiated, calm, ?_⟩
    have rest := switchEntities_rest config (config.mode mode).seConfigurations 0 s
    have stopped := @switchedTo_of_status config s mode .stopped (.inr rfl)
    have kept := @switchedTo_of_status config s mode s.globalState (.inl rfl)
    simp only
    generalize switchEntities config (config.mode mode).seConfigurations 0 s = switched at *
    have status_eq : (resetSEConfigsForMode switched switched.currentMode).globalState =
        s.globalState := by
      rw [rest]
      rfl
    generalize resetSEConfigsForMode switched switched.currentMode = t at *
    rcases switchWatchdogs_ends config t mode answers answers' with ⟨-, same⟩ | ⟨failed, stops⟩
    · rw [same]
      rw [← status_eq] at kept
      exact ⟨kept, fun _ _ => status_eq⟩
    · rw [stops]
      refine ⟨stopped, fun answered answered' => ?_⟩
      have ok := switchWatchdogs_ok config t mode answered answered'
      cases failed.symm.trans ok
  next => exact .inl ⟨true, rfl⟩

/-- What a successful start leaves. -/
structure Started (config : Config) (fresh s : State) : Prop where
  status : s.globalState = .ok
  current : s.currentMode = config.initialModeId
  first : s.isFirstExpiredSet = false
  ses : ∀ se, se < config.lengthSupervisedEntities → (s.ses se).localState =
    if se ∈ (config.mode config.initialModeId).ids then .ok else .deactivated
  counters : ∀ mode, (fresh.modes mode).expiredSupervisionCycleCounter = 0 →
    (s.modes mode).expiredSupervisionCycleCounter = 0

private theorem activateSEs_localState (confs : List SEConfiguration) (s : State) (se : Nat) :
    ((confs.foldl (fun s conf => activateSE s conf.supervisedEntityId) s).ses se).localState =
      if se ∈ confs.map (·.supervisedEntityId) then .ok else (s.ses se).localState := by
  induction confs generalizing s with
  | nil => rfl
  | cons conf rest ih =>
    rw [foldl_cons, ih, map_cons]
    by_cases later : se ∈ rest.map (·.supervisedEntityId)
    · rw [if_pos later, if_pos (mem_cons_of_mem _ later)]
    · by_cases own : se = conf.supervisedEntityId
      · rw [if_neg later, if_pos (by simp [own]), own, activateSE, setSE_ses]
      · rw [if_neg later, if_neg (by simp [own, later]), activateSE, setSE_ses_of_ne own]

theorem init_started {fresh : State} (off : fresh.isInitiated = false)
    (initiated : (init config fresh answers).1.isInitiated) :
    Started config fresh (init config fresh answers).1 := by
  -- all entities are deactivated first
  have range_eq : (List.range config.lengthSupervisedEntities).foldl deactivateAndResetSE fresh =
      deactivateUntil fresh 0 config.lengthSupervisedEntities := by
    rw [deactivateUntil, Nat.sub_zero, ← range_eq_range']
  have cleared_rest := deactivateUntil_rest fresh 0 config.lengthSupervisedEntities
  have cleared := deactivateUntil_ses fresh 0 config.lengthSupervisedEntities
  generalize deactivateUntil fresh 0 config.lengthSupervisedEntities = inactive at *
  have active_rest : SameRest inactive
      ((config.mode config.initialModeId).seConfigurations.foldl
        (fun s conf => activateSE s conf.supervisedEntityId) _) :=
    .foldl (fun _ _ => by rfl) _ _
  have active := activateSEs_localState (config.mode config.initialModeId).seConfigurations inactive
  have both := cleared_rest.trans active_rest
  have counters : ∀ (t : State) mode, t.modes = fresh.modes →
      (fresh.modes mode).expiredSupervisionCycleCounter = 0 →
      ((resetSEConfigsForMode t config.initialModeId).modes mode).expiredSupervisionCycleCounter =
        0 := by
    intro t mode same zero
    rw [resetSEConfigsForMode_counters, same, zero, ite_self]
  revert initiated
  simp only [init, off, Bool.false_eq_true, if_false, range_eq, activateTriggers]
  split
  · intro initiated
    cases off.symm.trans initiated
  · generalize (config.mode config.initialModeId).seConfigurations.foldl
      (fun s conf => activateSE s conf.supervisedEntityId) inactive = t at *
    have modes_eq : t.modes = fresh.modes := by
      rw [both]
    have ends := switchTriggers_ends config true answers
      (config.mode config.initialModeId).triggers.zipIdx
      { resetSEConfigsForMode t config.initialModeId with
        globalState := .ok
        isFirstExpiredSet := false
        firstExpiredSEIDInverse := 0
        firstExpiredSEID := 0
        currentMode := config.initialModeId
        resetInitiated := false }
    rcases ends with ⟨ok, same⟩ | ⟨failed, stops⟩
    · simp only [ok, same]
      intro _
      constructor
      · rfl
      · rfl
      · rfl
      · intro se known
        have reset : inactive.ses se = resetSE := by
          rw [cleared, if_pos ⟨zero_le se, known⟩]
        apply (active se).trans
        rw [reset]
        rfl
      · exact fun mode zero => counters t mode modes_eq zero
    · simp only [failed, stops]
      intro initiated
      have still_off : t.isInitiated = false := by
        rw [both]
        exact off
      cases still_off.symm.trans initiated

end WdgM
