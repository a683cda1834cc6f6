import ClassicPlatform.WdgM.Escalation

/-!
# The first expired entity

`WdgM_internal_CalculateGlobalState` records the place of the first expired entity among the
configurations of the mode, not its id. The record is never written again, whatever is called
later, but it names an entity that has expired only if place and id agree.
-/
namespace WdgM

open List Machine Nat

variable {config : Config} {s : State} {se : Nat} {call : Call}

/-! ## Places and ids -/

private theorem le_of_strictly_sorted {ids : List Nat} (sorted : ids.Pairwise (· < ·)) {least : Nat}
    (bound : ∀ id ∈ ids, least ≤ id) {index id : Nat} (here : ids[index]? = some id) :
    least + index ≤ id := by
  induction ids generalizing least index with
  | nil => simp at here
  | cons first rest ih =>
    obtain ⟨above, rest_sorted⟩ := pairwise_cons.mp sorted
    cases index with
    | zero =>
      obtain rfl : first = id := by simpa using here
      exact bound first mem_cons_self
    | succ index =>
      have first_bound := bound first mem_cons_self
      have later := ih rest_sorted (fun other member => succ_le_of_lt (above other member))
        (by simpa using here)
      omega

variable {entry : SEConfiguration × Nat} {fresh s' : State}

theorem currentEntries_getElem? :
    entry ∈ currentEntries config s ↔
      (config.mode s.currentMode).seConfigurations[entry.2]? = some entry.1 :=
  mk_mem_zipIdx_iff_getElem?

theorem place_le_id (member : entry ∈ currentEntries config s) :
    entry.2 ≤ entry.1.supervisedEntityId := by
  have here := currentEntries_getElem?.mp member
  have place : 0 + entry.2 ≤ entry.1.supervisedEntityId :=
    le_of_strictly_sorted (config.mode s.currentMode).sorted (fun id _ => zero_le id)
      (by rw [List.getElem?_map, here]; rfl)
  omega

theorem place_lt (member : entry ∈ currentEntries config s) : entry.2 < 2 ^ 16 :=
  lt_of_le_of_lt (place_le_id member) (lt_trans (entry_known member) config.few)

/-- The first expired entity of the current mode, with its place. -/
def firstExpiredEntry (config : Config) (s : State) : Option (SEConfiguration × Nat) :=
  (currentEntries config s).find? fun entry =>
    (s.ses entry.1.supervisedEntityId).localState == .expired

theorem firstExpiredEntry_some (first : firstExpiredEntry config s = some entry) :
    entry ∈ currentEntries config s ∧ (s.ses entry.1.supervisedEntityId).localState = .expired :=
  ⟨mem_of_find?_eq_some first, by simpa using List.find?_some first⟩

theorem firstExpiredEntry_isSome (config : Config) (s : State) :
    (firstExpiredEntry config s).isSome = someLocal config s .expired :=
  isSome_find? ..

theorem firstExpiredEntry_least {other : SEConfiguration × Nat}
    (first : firstExpiredEntry config s = some entry) (member : other ∈ currentEntries config s)
    (expired : (s.ses other.1.supervisedEntityId).localState = .expired) : entry.2 ≤ other.2 := by
  obtain ⟨-, place, inside, here, before⟩ := List.find?_eq_some_iff_getElem.mp first
  have place_eq : entry.2 = place := by
    rw [← here]
    simp [currentEntries]
  by_contra earlier
  have other_here : (currentEntries config s)[other.2] = other := by
    have configured := currentEntries_getElem?.mp member
    obtain ⟨within, same⟩ := List.getElem?_eq_some_iff.mp configured
    simp [currentEntries, same]
  have not_expired := before other.2 (by omega)
  rw [other_here, expired] at not_expired
  simp at not_expired

/-! ## The record -/

/-- The record is set only when an entity has expired. -/
structure Recorded (config : Config) (s : State) : Prop where
  reason : s.isFirstExpiredSet = true →
    ∃ se < config.lengthSupervisedEntities, (s.ses se).localState = .expired
  calm : s.globalState = .ok ∨ s.globalState = .failed → NoneExpired config s

theorem Recorded.unset (recorded : Recorded config s) (none_expired : NoneExpired config s) :
    s.isFirstExpiredSet = false := by
  cases set : s.isFirstExpiredSet with
  | false => rfl
  | true =>
    obtain ⟨se, known, expired⟩ := recorded.reason set
    exact absurd expired (none_expired se known)

private theorem Recorded.main (recorded : Recorded config s)
    (evaluated : Evaluated config s s') : Recorded config s' := by
  have set_eq : s'.isFirstExpiredSet = s'.firstExpired.1 := rfl
  constructor
  · intro is_set
    rw [set_eq, evaluated.first] at is_set
    cases before : s.isFirstExpiredSet with
    | true =>
      obtain ⟨se, known, expired⟩ := recorded.reason before
      exact ⟨se, known, evaluated.expired expired⟩
    | false =>
      rw [before, if_neg nofun] at is_set
      split at is_set
      next entry found =>
        refine ⟨_, entry_known (mem_of_find?_eq_some found), ?_⟩
        simpa using List.find?_some found
      next => cases before.symm.trans is_set
  · intro calm
    rw [evaluated.status] at calm
    obtain ⟨none_expired, was_calm⟩ := GlobalStatus.next_calm calm
    exact evaluated.noneExpired (recorded.calm was_calm) none_expired

theorem deInit_cases (config : Config) (s : State) (answers : Nat → Bool) :
    let last := (deInit config s answers).1
    last = s ∨
      (s.globalState = .ok ∧ last.ses = s.ses ∧ last.firstExpired = s.firstExpired ∧
        (last.globalState = .deactivated ∨ last.globalState = .stopped)) := by
  unfold deInit
  split
  · exact .inl rfl
  split
  next ok =>
    refine .inr ⟨ok, ?_⟩
    have ends := switchTriggers_ends config false answers
      (config.mode s.currentMode).triggers.zipIdx { s with globalState := .deactivated }
    simp only [deactivateCurrentTriggers]
    rcases ends with ⟨done, same⟩ | ⟨failed, stops⟩
    · simp only [done, if_true, same]
      exact ⟨trivial, rfl, .inl trivial⟩
    · simp only [failed, Bool.false_eq_true, if_false, stops]
      exact ⟨trivial, rfl, .inr trivial⟩
  next => exact .inl rfl

private theorem mainFunction_off (off : s.isInitiated = false) : (mainFunction config s).1 = s := by
  simp [mainFunction, off]

/-- What a call does to the statuses and to the record: nothing, the evaluation of
`WdgM_MainFunction`, or a switch of the mode. -/
private inductive Stepped (config : Config) (s : State) : Call → State → Prop
  | keeps {call : Call} {s' : State} (first : s'.firstExpired = s.firstExpired)
      (calm : s'.globalState = .ok ∨ s'.globalState = .failed →
        s.globalState = .ok ∨ s.globalState = .failed)
      (status : ∀ se, (s'.ses se).localState = (s.ses se).localState) : Stepped config s call s'
  | evaluates {s' : State} (evaluated : Evaluated config s s') : Stepped config s .mainFunction s'
  | switches {s' : State} {mode : Nat} {answers answers' : Nat → Bool}
      (calm : s.globalState = .ok ∨ s.globalState = .failed)
      (switched : SwitchedTo config s s' mode) :
      Stepped config s (.setMode mode answers answers') s'

private theorem step_stepped (steps : (step config s call).1 = s') : Stepped config s call s' := by
  subst steps
  have rests {call : Call} : Stepped config s call s := .keeps rfl id fun _ => rfl
  cases call with
  | checkpointReached seId cpId readings =>
    have same := checkpointReached_localState config s seId cpId readings
    have frame := (same 0).1
    simp only [State.aliveFrame, Prod.mk.injEq] at frame
    obtain ⟨-, global, -, -, ⟨set, first, inverse⟩, -⟩ := frame
    exact .keeps (by simp [step, State.firstExpired, set, first, inverse])
      (fun calm => global ▸ calm) fun se => (same se).2.1
  | mainFunction =>
    cases initiated : s.isInitiated with
    | true => exact .evaluates (mainFunction_evaluated config initiated)
    | false =>
      simp only [step, mainFunction_off initiated]
      exact rests
  | setMode mode answers answers' =>
    simp only [step]
    rcases setMode_cases config s mode answers answers' with ⟨ok, same⟩ | ⟨-, calm, switched, -⟩
    · rw [same]
      exact rests
    · exact .switches calm switched
  | deInit answers =>
    simp only [step]
    rcases deInit_cases config s answers with same | ⟨-, ses, first, ended⟩
    · rw [same]
      exact rests
    · refine .keeps first (fun calm => ?_) fun se => by rw [ses]
      rcases ended with ended | ended <;> rw [ended] at calm <;>
        rcases calm with impossible | impossible <;> cases impossible
  | performReset =>
    simp only [step, performReset]
    split
    · exact rests
    · exact .keeps rfl id fun _ => rfl

theorem Recorded.stepped (recorded : Recorded config s) (call : Call) :
    Recorded config (step config s call).1 := by
  generalize steps : (step config s call).1 = s'
  cases step_stepped steps with
  | keeps first calm status =>
    constructor
    · intro is_set
      obtain ⟨se, known, expired⟩ := recorded.reason ((congrArg Prod.fst first).symm.trans is_set)
      exact ⟨se, known, (status se).trans expired⟩
    · intro calm' se known
      rw [status]
      exact recorded.calm (calm calm') se known
  | evaluates evaluated => exact recorded.main evaluated
  | switches calm switched =>
    have none_expired := recorded.calm calm
    have unset : s'.isFirstExpiredSet = false :=
      (congrArg Prod.fst switched.first).trans (recorded.unset none_expired)
    exact ⟨fun set => absurd (unset.symm.trans set) nofun,
      fun _ => switched.noneExpired none_expired⟩

theorem NoneExpired.stepped (none_expired : NoneExpired config s)
    (calm : call.isMain → someLocal config (step config s call).1 .expired = false) :
    NoneExpired config (step config s call).1 := by
  generalize steps : (step config s call).1 = s' at calm ⊢
  cases step_stepped steps with
  | keeps _ _ status =>
    intro se known
    rw [status]
    exact none_expired se known
  | evaluates evaluated => exact evaluated.noneExpired none_expired (calm rfl)
  | switches _ switched => exact switched.noneExpired none_expired

theorem firstExpired_kept (set : s.isFirstExpiredSet) (call : Call) :
    (step config s call).1.firstExpired = s.firstExpired := by
  generalize steps : (step config s call).1 = s'
  cases step_stepped steps with
  | keeps first => exact first
  | evaluates evaluated => exact evaluated.first.trans (if_pos set)
  | switches _ switched => exact switched.first

/-! ## The service -/

theorem Started.noneExpired (started : Started config fresh s) : NoneExpired config s := by
  intro se known
  rw [started.ses se known]
  split <;> nofun

theorem Started.recorded (started : Started config fresh s) : Recorded config s where
  reason set := absurd (started.first.symm.trans set) nofun
  calm _ := started.noneExpired

section

variable (none_expired : NoneExpired config s)
include none_expired

private theorem initiated_of_expiry
    (first : firstExpiredEntry config (mainFunction config s).1 = some entry) :
    s.isInitiated = true := by
  cases initiated : s.isInitiated with
  | true => rfl
  | false =>
    obtain ⟨member, expired⟩ := firstExpiredEntry_some first
    rw [mainFunction_off initiated] at expired member
    exact absurd expired (none_expired _ (entry_known member))

theorem getFirstExpiredSEID_place (recorded : Recorded config s)
    (first : firstExpiredEntry config (mainFunction config s).1 = some entry) (later : List Call) :
    getFirstExpiredSEID (run (step config) (mainFunction config s).1 later).1 = (true, entry.2) := by
  obtain ⟨member, -⟩ := firstExpiredEntry_some first
  have evaluated := mainFunction_evaluated config (initiated_of_expiry none_expired first)
  have record : (mainFunction config s).1.firstExpired =
      (true, BitVec.ofNat 16 entry.2, ~~~ BitVec.ofNat 16 entry.2) := by
    rw [evaluated.first, recorded.unset none_expired, if_neg nofun, ← evaluated.entries]
    rw [firstExpiredEntry] at first
    rw [first]
  have last : (run (step config) (mainFunction config s).1 later).1.firstExpired =
      (true, BitVec.ofNat 16 entry.2, ~~~ BitVec.ofNat 16 entry.2) := by
    refine run_invariant
      (fun state : State => state.firstExpired = (true, BitVec.ofNat 16 entry.2, _)) record
      (.of_forall fun _ _ => trivial) ?_
    intro state call kept _
    rw [firstExpired_kept (congrArg Prod.fst kept) call]
    exact kept
  simp only [State.firstExpired, Prod.mk.injEq] at last
  rw [getFirstExpiredSEID, last.2.1, last.2.2, if_pos rfl, BitVec.toNat_ofNat,
    mod_eq_of_lt (place_lt member)]

private theorem first_expiry (calls : List Call)
    (expired : ∃ se < config.lengthSupervisedEntities,
      ((run (step config) s calls).1.ses se).localState = .expired) :
    ∃ before after, calls = before ++ .mainFunction :: after ∧
      NoneExpired config (run (step config) s before).1 ∧
      ∃ entry, firstExpiredEntry config
        (mainFunction config (run (step config) s before).1).1 = some entry := by
  induction calls generalizing s with
  | nil =>
    obtain ⟨se, known, is_expired⟩ := expired
    exact absurd is_expired (none_expired se known)
  | cons call rest ih =>
    by_cases still : NoneExpired config (step config s call).1
    · obtain ⟨before, after, split_eq, none_before, found⟩ := ih still expired
      exact ⟨call :: before, after, by rw [split_eq]; rfl, none_before, found⟩
    · have is_main : call.isMain = true := by
        by_contra other
        exact still (none_expired.stepped fun main => absurd main other)
      obtain rfl : call = .mainFunction := by
        cases call <;> first | rfl | cases is_main
      refine ⟨[], rest, rfl, none_expired, Option.isSome_iff_exists.mp ?_⟩
      rw [firstExpiredEntry_isSome]
      by_contra none_found
      exact still (none_expired.stepped fun _ => Bool.eq_false_iff.mpr none_found)

private theorem place_expired_iff
    (first : firstExpiredEntry config (mainFunction config s).1 = some entry) :
    ((mainFunction config s).1.ses entry.2).localState = .expired ↔
      entry.1.supervisedEntityId = entry.2 := by
  have evaluated := mainFunction_evaluated config (initiated_of_expiry none_expired first)
  obtain ⟨member, expired⟩ := firstExpiredEntry_some first
  constructor
  · intro named
    rcases entry_or_absent config s entry.2 with ⟨other, other_member, same⟩ | absent
    · rw [← evaluated.entries] at other_member
      -- the entity with this id has an earlier place, unless it is the same
      have not_later := place_le_id other_member
      have not_earlier := firstExpiredEntry_least first other_member (by rw [same]; exact named)
      have here := currentEntries_getElem?.mp member
      have there := currentEntries_getElem?.mp other_member
      rw [show other.2 = entry.2 by omega, here] at there
      rw [Option.some.inj there, same]
    · rw [evaluated.others _ absent] at named
      have known : entry.2 < config.lengthSupervisedEntities :=
        lt_of_le_of_lt (place_le_id member) (entry_known member)
      exact absurd named (none_expired _ known)
  · intro same
    rw [← same]
    exact expired

end

/-- If an entity has expired since the start, there was a first call of `WdgM_MainFunction` in which
one did. From then on `WdgM_GetFirstExpiredSEID` returns the id of an entity that expired in that
call exactly if the first of them is at the place of its id in the mode. -/
theorem first_expired_named_iff (config : Config) (fresh : State) (answers : Nat → Bool)
    (off : fresh.isInitiated = false)
    (initiated : (init config fresh answers).1.isInitiated = true) (calls : List Call)
    (expired : ∃ se < config.lengthSupervisedEntities,
      ((run (step config) (init config fresh answers).1 calls).1.ses se).localState =
        .expired) :
    ∃ before after, calls = before ++ .mainFunction :: after ∧
      let s := (run (step config) (init config fresh answers).1 before).1
      let s' := (mainFunction config s).1
      NoneExpired config s ∧ ∃ entry, firstExpiredEntry config s' = some entry ∧
        ((∃ id, (s'.ses id).localState = .expired ∧ ∀ later : List Call,
          getFirstExpiredSEID (run (step config) s' later).1 = (true, id)) ↔
          entry.1.supervisedEntityId = entry.2) := by
  have started := init_started off initiated
  obtain ⟨before, after, split_eq, none_expired, entry, first⟩ :=
    first_expiry started.noneExpired calls expired
  have recorded : Recorded config (run (step config) (init config fresh answers).1 before).1 :=
    run_invariant _ started.recorded (.of_forall fun _ _ => trivial)
      fun _ call recorded _ => recorded.stepped call
  have place := getFirstExpiredSEID_place none_expired recorded first
  refine ⟨before, after, split_eq, none_expired, entry, first, ?_⟩
  rw [← place_expired_iff none_expired first]
  constructor
  · rintro ⟨id, id_expired, returned⟩
    have same : entry.2 = id := congrArg Prod.snd ((place []).symm.trans (returned []))
    rw [same]
    exact id_expired
  · exact fun place_expired => ⟨entry.2, place_expired, place⟩

/-- Of two entities the second one expires, and is at the place of its id. -/
theorem stray_checkpoint_named :
    let s' := (run (step twoEntities) (started twoEntities)
      [.reached 0 0, .reached 1 1, .mainFunction]).1
    (s'.ses 0).localState = .ok ∧ (s'.ses 1).localState = .expired ∧
      ∀ later : List Call, getFirstExpiredSEID (run (step twoEntities) s' later).1 = (true, 1) := by
  obtain ⟨before, after, split_eq, -, entry, first, named_iff⟩ :=
    first_expired_named_iff twoEntities .zero (fun _ => true) rfl (by decide +kernel)
      [.reached 0 0, .reached 1 1, .mainFunction] ⟨1, by decide, by decide +kernel⟩
  obtain rfl : before = [.reached 0 0, .reached 1 1] := by
    rcases before with _ | ⟨a, _ | ⟨b, _ | ⟨c, rest⟩⟩⟩ <;> simp_all [Call.reached]
  have places : ∀ entry ∈ [(checkedFlow 0, 0), (checkedFlow 1, 1)],
      entry.1.supervisedEntityId = entry.2 := by simp [checkedFlow]
  obtain ⟨id, -, named⟩ := named_iff.mpr (places entry (mem_of_find?_eq_some first))
  have first_id : (true, 1) = (true, id) := named []
  obtain rfl := (Prod.mk.inj first_id).2
  exact ⟨by decide +kernel, by decide +kernel, named⟩

/-- The second of two entities is the only one that the mode supervises. -/
def secondEntity : Config :=
  { twoEntities with
    mode := fun _ => { oneEntity.mode 0 with seConfigurations := [checkedFlow 1], sorted := by simp }
    known := fun _ => forall_mem_singleton.mpr Nat.one_lt_two }

/-- The second entity expires, and the service names the first one, which is not supervised. -/
theorem wrong_entity_named :
    let s := (run (step secondEntity) (started secondEntity) [.reached 1 1, .mainFunction]).1
    (s.ses 1).localState = .expired ∧ (s.ses 0).localState = .deactivated ∧
      getFirstExpiredSEID s = (true, 0) := by
  decide +kernel

end WdgM
