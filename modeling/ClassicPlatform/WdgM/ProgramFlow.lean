import ClassicPlatform.WdgM.Escalation
import Mathlib.Data.List.Induction

/-!
# Program flow

The logical supervision of an entity follows the graph of its checkpoints. What it accepts are
complete runs through the graph one after another, and the beginning of one more, unless a start
checkpoint is final as well: such a run is complete at once, but the code goes on with it. Nor
does the code ask whether a run that has been begun can be completed.
-/
namespace WdgM

open List

variable {cp : Nat}

namespace SupervisedEntity

variable (entity : SupervisedEntity)

def Transition (source destination : Nat) : Prop :=
  ∃ transition ∈ entity.transitions,
    transition.checkpointIdSource = source ∧ transition.checkpointIdDestination = destination

/-- A run through the graph that has come to a checkpoint, past no final one. -/
inductive Walk : List Nat → Nat → Prop
  | start {cp : Nat} (start : cp ∈ entity.startCheckpointIds) : Walk [cp] cp
  | follow {walk : List Nat} {last cp : Nat} (before : Walk walk last)
      (goes_on : last ∉ entity.finalCheckpointIds) (transition : entity.Transition last cp) :
      Walk (walk ++ [cp]) cp

def Complete (walk : List Nat) : Prop :=
  ∃ last ∈ entity.finalCheckpointIds, entity.Walk walk last

/-- Complete runs one after another. -/
inductive Runs : List Nat → Prop
  | nil : Runs []
  | append {done walk : List Nat} (before : Runs done) (complete : entity.Complete walk) :
      Runs (done ++ walk)

/-- Complete runs, and the beginning of one more. -/
def Path (reported : List Nat) : Prop :=
  ∃ done rest, entity.Runs done ∧ (rest = [] ∨ ∃ walk, entity.Complete walk ∧ rest <+: walk) ∧
    reported = done ++ rest

/-- Complete runs, and one that has been begun, whether it can be completed or not. -/
def Follows (reported : List Nat) : Prop :=
  reported = [] ∨
    ∃ done walk last, entity.Runs done ∧ entity.Walk walk last ∧ reported = done ++ walk

/-- Where the run stands that has not come to a final checkpoint. -/
def position (reported : List Nat) : Option Nat :=
  reported.getLast?.filter (!entity.finalCheckpointIds.contains ·)

def Admits (cp : Nat) : Option Nat → Prop
  | none => cp ∈ entity.startCheckpointIds
  | some last => entity.Transition last cp

/-- The code has the graph active after these checkpoints: only a final checkpoint that is not the
first of its run deactivates it. -/
def active (reported : List Nat) : Bool :=
  reported.foldl (fun active cp => !active || !entity.finalCheckpointIds.contains cp) false

/-- The last run is complete, but the graph is active. -/
def Lingers (reported : List Nat) : Prop :=
  entity.active reported = true ∧ entity.position reported = none
  deriving Decidable

/-- The checkpoint is the first one of a run that can be completed. -/
def Begins (cp : Nat) : Prop := ∃ walk, entity.Complete walk ∧ [cp] <+: walk

/-- What makes the verdict on a checkpoint right. If the graph lingers, the transitions from the
last checkpoint must lead to the beginnings of runs, and otherwise a run that the checkpoint goes
on with must be one that can be completed. -/
def Apt (reported : List Nat) (cp : Nat) : Prop :=
  if entity.Lingers reported then
    ∀ last ∈ reported.getLast?, (entity.Transition last cp ↔ entity.Begins cp)
  else entity.Follows (reported ++ [cp]) → entity.Path (reported ++ [cp])

variable {entity} {done walk reported : List Nat} {last : Nat}

theorem position_concat : entity.position (reported ++ [cp]) =
    if cp ∈ entity.finalCheckpointIds then none else some cp := by
  simp [position, Option.filter]

theorem position_walk (walks : entity.Walk walk last) :
    entity.position (done ++ walk) =
      if last ∈ entity.finalCheckpointIds then none else some last := by
  cases walks with
  | start => exact position_concat
  | follow => rw [← append_assoc, position_concat]

theorem Runs.position (runs : entity.Runs done) : entity.position done = none := by
  cases runs with
  | nil => rfl
  | append _ complete =>
    obtain ⟨last, ends, walks⟩ := complete
    rw [position_walk walks, if_pos ends]

theorem Walk.of_prefix (walks : entity.Walk walk last) (begins : reported <+: walk) :
    reported = [] ∨ ∃ last, entity.Walk reported last := by
  induction walks with
  | start start =>
    obtain rfl | ⟨rest, rfl, none_left⟩ := prefix_cons_iff.mp begins
    · exact .inl rfl
    · rw [prefix_nil.mp none_left]
      exact .inr ⟨_, .start start⟩
  | follow before goes_on transition ih =>
    obtain rfl | earlier := prefix_concat_iff.mp begins
    · exact .inr ⟨_, before.follow goes_on transition⟩
    · exact ih earlier

theorem Path.last_run (path : entity.Path reported) : reported = [] ∨
    ∃ done walk last, entity.Runs done ∧ entity.Walk walk last ∧
      (∃ whole, entity.Complete whole ∧ walk <+: whole) ∧ reported = done ++ walk := by
  obtain ⟨done, rest, runs, begins, rfl⟩ := path
  have walked : rest = [] ∨
      ∃ last, entity.Walk rest last ∧ ∃ whole, entity.Complete whole ∧ rest <+: whole := by
    rcases begins with rfl | ⟨whole, ⟨last, ends, walks⟩, begins⟩
    · exact .inl rfl
    · refine (walks.of_prefix begins).imp_right fun ⟨last', walks'⟩ => ?_
      exact ⟨last', walks', whole, ⟨last, ends, walks⟩, begins⟩
  rcases walked with rfl | ⟨last, walks, completes⟩
  · rw [append_nil]
    cases runs with
    | nil => exact .inl rfl
    | append before complete =>
      obtain ⟨last, ends, walks⟩ := complete
      exact .inr ⟨_, _, last, before, walks, ⟨_, ⟨last, ends, walks⟩, prefix_rfl⟩, rfl⟩
  · exact .inr ⟨_, _, last, runs, walks, completes, rfl⟩

theorem Path.follows (path : entity.Path reported) : entity.Follows reported :=
  path.last_run.imp_right fun ⟨done, walk, last, runs, walks, _, split⟩ =>
    ⟨done, walk, last, runs, walks, split⟩

theorem follows_concat : entity.Follows (reported ++ [cp]) ↔
    entity.Follows reported ∧ entity.Admits cp (entity.position reported) := by
  constructor
  · intro follows
    obtain ⟨done, walk, last, runs, walks, split⟩ := follows.resolve_left (by simp)
    cases walks with
    | start start =>
      obtain ⟨rfl, rfl⟩ := append_singleton_inj.mp split
      have path : entity.Path reported := ⟨_, [], runs, .inl rfl, by simp⟩
      exact ⟨path.follows, by rwa [runs.position]⟩
    | follow before goes_on transition =>
      rw [← append_assoc] at split
      obtain ⟨rfl, rfl⟩ := append_singleton_inj.mp split
      exact ⟨.inr ⟨_, _, _, runs, before, rfl⟩, by rwa [position_walk before, if_neg goes_on]⟩
  · rintro ⟨rfl | ⟨done, walk, last, runs, walks, rfl⟩, admits⟩
    · exact .inr ⟨[], _, _, .nil, .start admits, rfl⟩
    · rw [position_walk walks] at admits
      split_ifs at admits with ends
      · exact .inr ⟨_, _, _, runs.append ⟨last, ends, walks⟩, .start admits, rfl⟩
      · exact .inr ⟨_, _, _, runs, walks.follow ends admits, append_assoc ..⟩

theorem Follows.runs (follows : entity.Follows reported) (idle : entity.position reported = none) :
    entity.Runs reported := by
  rcases follows with rfl | ⟨done, walk, last, runs, walks, rfl⟩
  · exact .nil
  · rw [position_walk walks] at idle
    split_ifs at idle with ends
    exact runs.append ⟨last, ends, walks⟩

private theorem Walk.single (walks : entity.Walk walk last) (idle : entity.position reported = none)
    (split : reported ++ [cp] = done ++ walk) : walk = [cp] := by
  cases walks with
  | start start =>
    obtain ⟨-, rfl⟩ := append_singleton_inj.mp split
    rfl
  | follow before goes_on transition =>
    rw [← append_assoc] at split
    obtain ⟨rfl, -⟩ := append_singleton_inj.mp split
    rw [position_walk before, if_neg goes_on] at idle
    cases idle

theorem Runs.path_concat (runs : entity.Runs reported) :
    entity.Path (reported ++ [cp]) ↔ entity.Begins cp := by
  constructor
  · intro path
    obtain ⟨done, walk, last, -, walks, completes, split⟩ := path.last_run.resolve_left (by simp)
    obtain rfl := walks.single runs.position split
    exact completes
  · rintro ⟨walk, complete, begins⟩
    exact ⟨_, _, runs, .inr ⟨walk, complete, begins⟩, rfl⟩

/-! ## The activity of the graph -/

theorem active_concat : entity.active (reported ++ [cp]) =
    (!entity.active reported || !entity.finalCheckpointIds.contains cp) :=
  foldl_concat ..

theorem position_of_active (apart : ¬ entity.Lingers reported) :
    (if entity.active reported then reported.getLast? else none) = entity.position reported := by
  induction reported using reverseRecOn with
  | nil => rfl
  | append_singleton reported cp _ =>
    rw [Lingers, position_concat, active_concat] at apart
    rw [position_concat, active_concat, getLast?_concat]
    by_cases ends : cp ∈ entity.finalCheckpointIds
    · simp_all
    · simp_all

end SupervisedEntity

open SupervisedEntity

variable {entity : SupervisedEntity}

/-! ## Verdicts -/

/-- The record of an entity after the logical supervision of its checkpoints. -/
def followed (entity : SupervisedEntity) (record : RuntimeSE) (reported : List Nat) : RuntimeSE :=
  reported.foldl (fun record cp => (logicalMonitoring entity record cp).2) record

theorem followed_concat (record : RuntimeSE) (reported : List Nat) (cp : Nat) :
    followed entity record (reported ++ [cp]) =
      (logicalMonitoring entity (followed entity record reported) cp).2 :=
  foldl_concat ..

/-- The verdict on a checkpoint after those reported before. -/
def flowVerdict (entity : SupervisedEntity) (record : RuntimeSE) (reported : List Nat) (cp : Nat) :
    Substate :=
  (logicalMonitoring entity (followed entity record reported) cp).1

def RuntimeSE.position (record : RuntimeSE) : Option Nat :=
  if record.isInternalGraphActive then some record.previousCheckpointId else none

theorem logicalMonitoring_spec (entity : SupervisedEntity) (record : RuntimeSE) (cp : Nat) :
    let judged := logicalMonitoring entity record cp
    (judged.1 = .correct ↔ entity.Admits cp record.position) ∧
      (judged.1 = .correct → judged.2.flow =
        (!record.isInternalGraphActive || !entity.finalCheckpointIds.contains cp, cp)) := by
  unfold logicalMonitoring RuntimeSE.position
  split
  next on => split <;> simp_all [Admits, Transition, RuntimeSE.flow]
  next off => split <;> simp_all [Admits, RuntimeSE.flow]

section

variable {record : RuntimeSE} {reported : List Nat}
  (inactive : record.isInternalGraphActive = false)
  (correct : ∀ earlier next, earlier ++ [next] <+: reported →
    flowVerdict entity record earlier next = .correct)
include inactive correct

theorem followed_position :
    (followed entity record reported).isInternalGraphActive = entity.active reported ∧
      (followed entity record reported).position =
        if entity.active reported then reported.getLast? else none := by
  induction reported using reverseRecOn with
  | nil => simp [followed, RuntimeSE.position, inactive, SupervisedEntity.active]
  | append_singleton reported cp ih =>
    obtain ⟨active, -⟩ := ih fun earlier next begins =>
      correct earlier next (begins.trans (prefix_append _ _))
    have now := correct reported cp prefix_rfl
    have next := (logicalMonitoring_spec entity (followed entity record reported) cp).2 now
    obtain ⟨flag, previous⟩ := Prod.mk.inj next
    rw [followed_concat, RuntimeSE.position, flag, previous, active, active_concat, getLast?_concat]
    exact ⟨rfl, rfl⟩

theorem flowVerdict_right_iff (follows : entity.Follows reported) (cp : Nat) :
    (flowVerdict entity record reported cp = .correct ↔ entity.Path (reported ++ [cp])) ↔
      entity.Apt reported cp := by
  have position := (followed_position inactive correct).2
  have judged := (logicalMonitoring_spec entity (followed entity record reported) cp).1
  rw [flowVerdict, judged, position]
  by_cases lingers : entity.Lingers reported
  · rw [Apt, if_pos lingers, if_pos lingers.1, (follows.runs lingers.2).path_concat]
    cases ends : reported.getLast? with
    | none =>
      obtain rfl := getLast?_eq_none_iff.mp ends
      exact absurd lingers.1 (by simp [SupervisedEntity.active])
    | some last => simp [Admits]
  · have goes_on : entity.Admits cp (entity.position reported) ↔
        entity.Follows (reported ++ [cp]) := by
      rw [follows_concat, and_iff_right follows]
    rw [Apt, if_neg lingers, position_of_active lingers, goes_on]
    exact ⟨Iff.mp, fun completes => ⟨completes, Path.follows⟩⟩

theorem flowVerdicts_right_iff (cp : Nat) :
    (∀ earlier next, earlier ++ [next] <+: reported ++ [cp] →
        (flowVerdict entity record earlier next = .correct ↔ entity.Path (earlier ++ [next]))) ↔
      ∀ earlier next, earlier ++ [next] <+: reported ++ [cp] → entity.Apt earlier next := by
  have split {P : List Nat → Nat → Prop} {reported : List Nat} {cp : Nat} :
      (∀ earlier next, earlier ++ [next] <+: reported ++ [cp] → P earlier next) ↔
        (∀ earlier next, earlier ++ [next] <+: reported → P earlier next) ∧ P reported cp := by
    simp only [prefix_concat_iff, append_singleton_inj]
    grind
  induction reported using reverseRecOn generalizing cp with
  | nil =>
    rw [split, split]
    have first := flowVerdict_right_iff inactive correct (.inl rfl) cp
    simpa using first
  | append_singleton reported last ih =>
    have earlier_correct : ∀ earlier next, earlier ++ [next] <+: reported →
        flowVerdict entity record earlier next = .correct :=
      fun earlier next begins => correct earlier next (begins.trans (prefix_append _ _))
    have next (right : ∀ earlier next, earlier ++ [next] <+: reported ++ [last] →
        (flowVerdict entity record earlier next = .correct ↔ entity.Path (earlier ++ [next]))) :=
      have path := (right reported last prefix_rfl).mp (correct reported last prefix_rfl)
      flowVerdict_right_iff inactive correct path.follows cp
    have same := (and_congr_right next).trans (and_congr_left' (ih earlier_correct last))
    exact split.trans (same.trans split.symm)

end

/-! ## Reports to the manager -/

/-- The entity is active, and its program flow is checked in the current mode. -/
structure Checked (config : Config) (se : Nat) (s : State) : Prop where
  initiated : s.isInitiated = true
  active : (s.ses se).localState ≠ .deactivated
  entry : ∃ entry, findEntry config s se = some entry ∧ entry.1.checkInternalLogic = true

/-- The checkpoint of the entity that the call reports. -/
def Call.reports (config : Config) (se : Nat) : Call → Option Nat
  | .checkpointReached seId cpId _ =>
    if seId = se ∧ cpId < (config.supervisedEntity se).lengthCheckpointIds then some cpId else none
  | _ => none

theorem calculateLocalState_flow (record : RuntimeSE) (conf : SEConfiguration)
    (runtime : RuntimeSEConfig) : (calculateLocalState record conf runtime).flow = record.flow := by
  unfold calculateLocalState
  split
  · split
    · unfold fromFailedNoError
      split <;> rfl
    · rfl
  · split
    · simp only [fromOKOneError]
      split <;> split <;> rfl
    · split
      · simp only [fromFailedOneError]
        split <;> split <;> rfl
      · rfl
  · rfl

theorem followed_flow {record record' : RuntimeSE} (same : record.flow = record'.flow)
    (reported : List Nat) :
    (followed entity record reported).flow = (followed entity record' reported).flow := by
  induction reported generalizing record record' with
  | nil => exact same
  | cons cp rest ih => exact ih (logicalMonitoring_flow entity cp same).2

section

variable {config : Config} {s s' : State} {se : Nat} {call : Call}

section

variable (checked : Checked config se s)
include checked

private theorem Checked.of_same (initiated : s'.isInitiated = s.isInitiated)
    (mode : s'.currentMode = s.currentMode) (active : (s'.ses se).localState ≠ .deactivated) :
    Checked config se s' := by
  refine ⟨initiated.trans checked.initiated, active, ?_⟩
  have found : findEntry config s' se = findEntry config s se := by
    simp [findEntry, currentEntries, mode]
  rw [found]
  exact checked.entry

theorem Checked.report {cpId : Nat}
    (known : cpId < (config.supervisedEntity se).lengthCheckpointIds) (readings : Nat → Reading) :
    let s' := (checkpointReached config s se cpId readings).1
    Checked config se s' ∧ (s'.ses se).substateLogical = logicalVerdict config s se cpId ∧
      (s'.ses se).flow = (logicalMonitoring (config.supervisedEntity se) (s.ses se) cpId).2.flow := by
  obtain ⟨entry, found, logic⟩ := checked.entry
  obtain ⟨member, id⟩ := findEntry_some found
  have accepted : checkpointReached config s se cpId readings =
      (superviseCheckpoint config s entry se cpId readings, [.returned true]) := by
    have se_known : se < config.lengthSupervisedEntities := id ▸ entry_known member
    simp [checkpointReached, checked.initiated, se_known.not_ge, known.not_ge, checked.active, found]
  have supervised := superviseCheckpoint_supervised config s entry se cpId readings
  rw [accepted]
  have frame := supervised.frame
  simp only [State.aliveFrame, Prod.mk.injEq] at frame
  refine ⟨checked.of_same frame.1 frame.2.2.1 (supervised.localState ▸ checked.active), ?_, ?_⟩
  · rw [supervised.logical, if_pos logic]
  · rw [supervised.flow, if_pos logic]

private theorem Checked.other_report {seId cpId : Nat} (readings : Nat → Reading)
    (other : ¬ (seId = se ∧ cpId < (config.supervisedEntity se).lengthCheckpointIds)) :
    let s' := (checkpointReached config s seId cpId readings).1
    Checked config se s' ∧ s'.ses se = s.ses se := by
  by_cases own : seId = se
  · subst own
    have unknown : ¬ cpId < (config.supervisedEntity seId).lengthCheckpointIds :=
      fun known => other ⟨rfl, known⟩
    have refused : (checkpointReached config s seId cpId readings).1 = s := by
      unfold checkpointReached
      split_ifs <;> first | rfl | omega
    rw [refused]
    exact ⟨checked, rfl⟩
  · have reported := checkpointReached_reported config s seId cpId readings
    generalize checkpointReached config s seId cpId readings = outcome at reported
    cases reported with
    | refused => exact ⟨checked, rfl⟩
    | accepted _ _ _ supervised =>
      have same := supervised.others se (Ne.symm own)
      have frame := supervised.frame
      simp only [State.aliveFrame, Prod.mk.injEq] at frame
      exact ⟨checked.of_same frame.1 frame.2.2.1 (same ▸ checked.active), same⟩

private theorem Checked.main :
    Checked config se (mainFunction config s).1 ∧
      ((mainFunction config s).1.ses se).flow = (s.ses se).flow := by
  obtain ⟨entry, found, -⟩ := checked.entry
  obtain ⟨member, rfl⟩ := findEntry_some found
  have evaluated := mainFunction_evaluated config checked.initiated
  have record := evaluated.entity entry member
  have same := checkAlives_ses config s entry.1.supervisedEntityId
  simp only [RuntimeSE.mk.injEq, true_and] at same
  refine ⟨checked.of_same evaluated.initiated evaluated.mode ?_, ?_⟩
  · rw [record]
    exact calculateLocalState_active _ _ _ (same.1 ▸ checked.active)
  · rw [record, localAfter, calculateLocalState_flow, RuntimeSE.flow, same.2.2.2.1, same.2.2.2.2.1]
    rfl

theorem Checked.stepped (supervises : call.isReport = true ∨ call.isMain = true) :
    Checked config se (step config s call).1 ∧ ((step config s call).1.ses se).flow =
      (followed (config.supervisedEntity se) (s.ses se) (call.reports config se).toList).flow := by
  cases call with
  | checkpointReached seId cpId readings =>
    by_cases own : seId = se ∧ cpId < (config.supervisedEntity se).lengthCheckpointIds
    · obtain ⟨rfl, known⟩ := own
      obtain ⟨checked, -, flow⟩ := checked.report known readings
      rw [Call.reports, if_pos ⟨rfl, known⟩]
      exact ⟨checked, flow⟩
    · obtain ⟨checked, same⟩ := checked.other_report readings own
      rw [Call.reports, if_neg own]
      exact ⟨checked, congrArg RuntimeSE.flow same⟩
  | mainFunction => exact checked.main
  | _ => simp [Call.isReport, Call.isMain] at supervises

end

theorem Checked.run {calls : List Call}
    (supervise : ∀ call ∈ calls, call.isReport = true ∨ call.isMain = true)
    (checked : Checked config se s) :
    let last := (Machine.run (step config) s calls).1
    Checked config se last ∧ (last.ses se).flow =
      (followed (config.supervisedEntity se) (s.ses se)
        (calls.filterMap (·.reports config se))).flow := by
  induction calls generalizing s with
  | nil => exact ⟨checked, rfl⟩
  | cons call rest ih =>
    obtain ⟨checked, flow⟩ := checked.stepped (supervise call mem_cons_self)
    obtain ⟨last_checked, last_flow⟩ :=
      ih (fun other member => supervise other (mem_cons_of_mem _ member)) checked
    have cons : (call :: rest).filterMap (·.reports config se) =
        (call.reports config se).toList ++ rest.filterMap (·.reports config se) := by
      cases reports : call.reports config se <;> simp [reports]
    rw [cons, followed, foldl_append]
    exact ⟨last_checked, last_flow.trans (followed_flow flow _)⟩

end

/-- The verdict on a report depends on the checkpoints that the entity has reported before. As long
as they were judged correct, all verdicts are right exactly if each checkpoint is apt. -/
theorem logical_supervision_exact (config : Config) (s : State) (se : Nat)
    (checked : Checked config se s) (inactive : (s.ses se).isInternalGraphActive = false) :
    let entity := config.supervisedEntity se
    (∀ calls cp readings, (∀ call ∈ calls, call.isReport = true ∨ call.isMain = true) →
      cp < entity.lengthCheckpointIds →
      ((Machine.run (step config) s
          (calls ++ [.checkpointReached se cp readings])).1.ses se).substateLogical =
        flowVerdict entity (s.ses se) (calls.filterMap (·.reports config se)) cp) ∧
    ∀ reported cp,
      (∀ earlier next, earlier ++ [next] <+: reported →
        flowVerdict entity (s.ses se) earlier next = .correct) →
      ((∀ earlier next, earlier ++ [next] <+: reported ++ [cp] →
          (flowVerdict entity (s.ses se) earlier next = .correct ↔
            entity.Path (earlier ++ [next]))) ↔
        ∀ earlier next, earlier ++ [next] <+: reported ++ [cp] → entity.Apt earlier next) := by
  intro entity
  refine ⟨fun calls cp readings supervise known => ?_, fun reported cp correct =>
    flowVerdicts_right_iff inactive correct cp⟩
  obtain ⟨checked, flow⟩ := checked.run supervise
  rw [Machine.run_append]
  refine (checked.report known readings).2.1.trans ?_
  exact (logicalMonitoring_flow entity cp flow).1

/-- The second checkpoint comes after a main function, and both are one run. -/
theorem logical_supervision_exact_second :
    ((Machine.run (step oneEntity) (started oneEntity)
      [.reached 0 0, .mainFunction, .reached 0 1]).1.ses 0).substateLogical = .correct ∧
      (oneEntity.supervisedEntity 0).Path [0, 1] := by
  have checked : Checked oneEntity 0 (started oneEntity) :=
    ⟨by decide +kernel, by decide +kernel, (checkedFlow 0, 0), by rfl, rfl⟩
  obtain ⟨verdicts, right_iff⟩ :=
    logical_supervision_exact oneEntity (started oneEntity) 0 checked (by decide +kernel)
  have only_first : ∀ earlier next, earlier ++ [next] <+: [0] → earlier = [] ∧ next = 0 := by
    intro earlier next begins
    have short := begins.length_le
    cases earlier <;> simp_all
  have complete : (oneEntity.supervisedEntity 0).Complete [0, 1] :=
    ⟨1, by decide, .follow (.start (by decide)) (by decide) (by simp [Transition, oneEntity])⟩
  have right := (right_iff [0] 1 ?_).mpr ?_ [0] 1 prefix_rfl
  · have judged := verdicts [.reached 0 0, .mainFunction] 1 (fun _ => ⟨0, 0⟩) (by decide +kernel)
      (by decide)
    have correct : flowVerdict (oneEntity.supervisedEntity 0) ((started oneEntity).ses 0) [0] 1 =
        .correct := by decide +kernel
    exact ⟨judged.trans correct, right.mp correct⟩
  · intro earlier next begins
    obtain ⟨rfl, rfl⟩ := only_first earlier next begins
    decide +kernel
  · intro earlier next begins
    have path : (oneEntity.supervisedEntity 0).Path (earlier ++ [next]) :=
      ⟨[], _, .nil, .inr ⟨_, complete, begins⟩, rfl⟩
    rw [Apt, if_neg]
    · exact fun _ => path
    · rcases prefix_concat_iff.mp begins with whole | begins
      · obtain ⟨rfl, -⟩ := append_singleton_inj.mp whole
        decide
      · obtain ⟨rfl, -⟩ := only_first earlier next begins
        decide

/-- A graph of one checkpoint that is both the start and the end. -/
def single : SupervisedEntity where
  lengthCheckpointIds := 1
  transitions := []
  startCheckpointIds := [0]
  finalCheckpointIds := [0]

/-- A second run through the graph is refused, and a run that cannot be completed is accepted. -/
theorem second_run_refused :
    (flowVerdict single resetSE [] 0 = .correct ∧ flowVerdict single resetSE [0] 0 = .incorrect ∧
      single.Path [0, 0]) ∧
    let endless := { single with finalCheckpointIds := [] }
    flowVerdict endless resetSE [] 0 = .correct ∧ ¬ endless.Path [0] := by
  have complete : single.Complete [0] := ⟨0, by decide, .start (by decide)⟩
  refine ⟨⟨by decide, by decide, [0], [0], Runs.nil.append complete, .inr ⟨_, complete, prefix_rfl⟩,
    rfl⟩, by decide, ?_⟩
  rintro ⟨done, rest, runs, begins, split⟩
  cases runs <;> simp_all [Complete, single]

end WdgM
