import ClassicPlatform.Lib.Machine
import Mathlib.Data.List.Rotate

/-!
# The state machine of E2E protection

`E2E_SMCheck` keeps the results of the latest checks in a ring and decides by how many of them
are good or bad.
-/
namespace E2E

open Machine List

inductive PCheckStatus
  | ok
  | repeated
  | wrongSequence
  | error
  | notAvailable
  | noNewData
  deriving DecidableEq

inductive SMState
  | valid
  | deinit
  | nodata
  | init
  | invalid
  deriving DecidableEq

inductive StdReturn
  | ok
  | inputErrWrong
  | wrongState
  deriving DecidableEq

structure SMConfig where
  windowSize : Nat
  minOkStateInit : Nat
  maxErrorStateInit : Nat
  minOkStateValid : Nat
  maxErrorStateValid : Nat
  minOkStateInvalid : Nat
  maxErrorStateInvalid : Nat

structure SMCheckState where
  /-- The cells of the window; there are none behind a null pointer. -/
  profileStatusWindow : Option (List PCheckStatus)
  windowTopIndex : Nat
  okCount : Nat
  errorCount : Nat
  smState : SMState

section

variable (windowSize : Nat) (profileStatus : PCheckStatus) (config : SMConfig) (s : SMCheckState)

def smClearStatus : SMCheckState :=
  { s with
    profileStatusWindow := s.profileStatusWindow.map fun _ => replicate windowSize .notAvailable
    okCount := 0
    errorCount := 0
    windowTopIndex := 0 }

def smAddStatus : SMCheckState :=
  let window := s.profileStatusWindow.map (·.set s.windowTopIndex profileStatus)
  { s with
    profileStatusWindow := window
    okCount := (window.getD []).count .ok
    errorCount := (window.getD []).count .error
    windowTopIndex := if windowSize - 1 ≤ s.windowTopIndex then 0 else s.windowTopIndex + 1 }

def smCheckNODATA : SMCheckState :=
  { s with
    smState := if profileStatus ≠ .error ∧ profileStatus ≠ .noNewData then .init else .nodata }

/-- The counts are within the bounds of a state. -/
def SMCheckState.Within (maxError minOk : Nat) : Prop :=
  s.errorCount ≤ maxError ∧ minOk ≤ s.okCount
  deriving Decidable

def smCheckINIT : SMCheckState :=
  { s with
    smState :=
      if s.Within config.maxErrorStateInit config.minOkStateInit then .valid
      else if config.maxErrorStateInit < s.errorCount then .invalid
      else .init }

def smCheckVALID : SMCheckState :=
  { s with
    smState :=
      if s.Within config.maxErrorStateValid config.minOkStateValid then .valid else .invalid }

def smCheckINVALID : SMCheckState :=
  { s with
    smState :=
      if s.Within config.maxErrorStateInvalid config.minOkStateInvalid then .valid else .invalid }

def smCheck : SMCheckState × StdReturn :=
  let added := smAddStatus config.windowSize profileStatus s
  if s.profileStatusWindow = none ∧ 0 < config.windowSize then (s, .inputErrWrong)
  else
    match s.smState with
    | .deinit => (s, .wrongState)
    | .nodata => (smCheckNODATA profileStatus s, .ok)
    | .init => (smCheckINIT config added, .ok)
    | .valid => (smCheckVALID config added, .ok)
    | .invalid => (smCheckINVALID config added, .ok)

def smCheckInit : SMCheckState × StdReturn :=
  if s.profileStatusWindow = none ∧ 0 < config.windowSize then (s, .inputErrWrong)
  else ({ smClearStatus config.windowSize s with smState := .nodata }, .ok)

/-- A check puts out the status that it processes: none as long as there is no data. -/
def smStep (profileStatus : PCheckStatus) : SMCheckState × List PCheckStatus :=
  ((smCheck profileStatus config s).1,
    match s.smState with
    | .deinit | .nodata => []
    | .init | .valid | .invalid => [profileStatus])

/-- The bounds of a state that is left for `VALID`, or kept as such. -/
def SMConfig.Admits : SMState → Prop
  | .init => s.Within config.maxErrorStateInit config.minOkStateInit
  | .valid => s.Within config.maxErrorStateValid config.minOkStateValid
  | .invalid => s.Within config.maxErrorStateInvalid config.minOkStateInvalid
  | .nodata | .deinit => False

end

variable {config : SMConfig} {s : SMCheckState} {seen : List PCheckStatus}
variable {profileStatus : PCheckStatus}

/-- Read from the cell that is overwritten next, the ring is what remains of the cleared cells
and all statuses without the oldest ones. -/
def Shows (config : SMConfig) (s : SMCheckState) (seen : List PCheckStatus) : Prop :=
  ∃ window, s.profileStatusWindow = some window ∧ window.length = config.windowSize ∧
    s.okCount = window.count .ok ∧ s.errorCount = window.count .error ∧
    s.windowTopIndex < config.windowSize ∧
    window.rotate s.windowTopIndex =
      (replicate config.windowSize PCheckStatus.notAvailable ++ seen).drop seen.length

theorem rotate_set_succ {α : Type} {ring : List α} {top : Nat} (inside : top < ring.length)
    (item : α) : (ring.set top item).rotate (top + 1) = (ring.rotate top).tail ++ [item] := by
  have inside' : top < (ring.set top item).length := by rwa [length_set]
  rw [rotate_eq_drop_append_take inside', rotate_eq_drop_append_take inside.le,
    drop_set_of_lt top.lt_succ_self, take_succ_eq_append_getElem inside', take_set_of_le le_rfl,
    getElem_set_self, drop_eq_getElem_cons inside, cons_append, tail_cons, append_assoc]

section

variable (shows : Shows config s seen)
include shows

theorem Shows.added :
    Shows config (smAddStatus config.windowSize profileStatus s) (seen ++ [profileStatus]) := by
  obtain ⟨window, linked, size, -, -, top, ring⟩ := shows
  refine ⟨window.set s.windowTopIndex profileStatus, by simp [smAddStatus, linked],
    by rw [length_set, size], by simp [smAddStatus, linked], by simp [smAddStatus, linked],
    by grind [smAddStatus], ?_⟩
  have turned : (smAddStatus config.windowSize profileStatus s).windowTopIndex =
      (s.windowTopIndex + 1) % (window.set s.windowTopIndex profileStatus).length := by
    rw [length_set, size]
    dsimp only [smAddStatus]
    split
    · rw [show s.windowTopIndex + 1 = config.windowSize by omega, Nat.mod_self]
    · rw [Nat.mod_eq_of_lt (by omega)]
  rw [turned, rotate_mod, rotate_set_succ (size ▸ top), ring, tail_drop, ← append_assoc,
    length_append]
  refine (drop_append_of_le_length ?_).symm
  rw [length_append, length_replicate]
  omega

theorem Shows.linked : ¬(s.profileStatusWindow = none ∧ 0 < config.windowSize) := by
  obtain ⟨window, linked, -⟩ := shows
  simp [linked]

theorem Shows.stepped :
    Shows config (smStep config s profileStatus).1 (seen ++ (smStep config s profileStatus).2) := by
  rw [smStep, smCheck, if_neg shows.linked]
  cases s.smState with
  | deinit | nodata => rwa [append_nil]
  | init | valid | invalid => exact shows.added

theorem smStep_nodata (nodata : (smStep config s profileStatus).1.smState = .nodata) :
    s.smState = .nodata := by
  rw [smStep, smCheck, if_neg shows.linked] at nodata
  cases state : s.smState <;> grind [smCheckINIT, smCheckVALID, smCheckINVALID]

theorem smStep_valid (valid : (smStep config s profileStatus).1.smState = .valid) :
    config.Admits (smStep config s profileStatus).1 s.smState := by
  rw [smStep, smCheck, if_neg shows.linked] at valid ⊢
  cases state : s.smState <;>
    grind [smCheckNODATA, smCheckINIT, smCheckVALID, smCheckINVALID, SMConfig.Admits,
      SMCheckState.Within]

theorem Shows.counts :
    let latest := seen.drop (seen.length - config.windowSize)
    s.okCount = latest.count .ok ∧ s.errorCount = latest.count .error := by
  obtain ⟨window, -, -, ok, error, -, ring⟩ := shows
  have counted {status : PCheckStatus} (other : PCheckStatus.notAvailable ≠ status) :
      window.count status = (seen.drop (seen.length - config.windowSize)).count status := by
    rw [← (rotate_perm window s.windowTopIndex).count_eq, ring, drop_append, count_append,
      length_replicate, drop_replicate, count_replicate, if_neg (by simpa using other),
      zero_add]
  exact ⟨ok.trans (counted nofun), error.trans (counted nofun)⟩

end

section

variable (sized : 1 ≤ config.windowSize) (inits : (smCheckInit config s).2 = .ok)
include sized inits

theorem smCheckInit_shows :
    Shows config (smCheckInit config s).1 [] ∧ (smCheckInit config s).1.smState = .nodata := by
  unfold smCheckInit at inits ⊢
  split at inits
  next => cases inits
  next linked =>
    obtain ⟨window, cells⟩ := Option.ne_none_iff_exists'.mp fun null => linked ⟨null, sized⟩
    rw [if_neg linked]
    refine ⟨⟨_, by rw [smClearStatus, cells]; rfl, length_replicate, ?_, ?_, sized, ?_⟩, rfl⟩ <;>
      simp [smClearStatus, count_replicate]

theorem smRun_shows (statuses : List PCheckStatus) :
    let (last, seen) := run (smStep config) (smCheckInit config s).1 statuses
    Shows config last seen ∧ (last.smState = .nodata → seen = []) := by
  refine run_history (fun s seen => Shows config s seen ∧ (s.smState = .nodata → seen = []))
    ⟨(smCheckInit_shows sized inits).1, fun _ => rfl⟩ (.of_forall fun _ _ => trivial) ?_
  rintro s status seen ⟨shows, fresh⟩ -
  refine ⟨shows.stepped, fun nodata => ?_⟩
  have before := smStep_nodata shows nodata
  rw [fresh before, smStep, before, append_nil]

end

/-- The counts are those of the latest statuses since there is data, as many as the window has
cells, and the state is `VALID` only within the bounds of the state before. -/
theorem window_semantics (config : SMConfig) (s : SMCheckState) (statuses : List PCheckStatus)
    (sized : 1 ≤ config.windowSize) (inits : (smCheckInit config s).2 = .ok) :
    let first := (smCheckInit config s).1
    let (last, seen) := run (smStep config) first statuses
    let latest := seen.drop (seen.length - config.windowSize)
    last.okCount = latest.count .ok ∧ last.errorCount = latest.count .error ∧
      last.windowTopIndex < config.windowSize ∧ (last.smState = .nodata → seen = []) ∧
      (last.smState = .valid → ∃ before status, statuses = before ++ [status] ∧
        config.Admits last (run (smStep config) first before).1.smState) := by
  intro first
  obtain ⟨shows, fresh⟩ := smRun_shows sized inits statuses
  obtain ⟨ok, error⟩ := shows.counts
  refine ⟨ok, error, ?_, fresh, fun valid => ?_⟩
  · obtain ⟨-, -, -, -, -, top, -⟩ := shows
    exact top
  · rcases eq_nil_or_concat' statuses with rfl | ⟨before, status, rfl⟩
    · cases valid.symm.trans (smCheckInit_shows sized inits).2
    · refine ⟨before, status, rfl, ?_⟩
      rw [run_append] at valid ⊢
      exact smStep_valid (smRun_shows sized inits before).1 valid

/-- The window of two cells is gone through once and a half: the error is overwritten. -/
theorem window_semantics_of_two :
    let config : SMConfig := ⟨2, 1, 0, 1, 0, 1, 0⟩
    let first := (smCheckInit config ⟨some [.ok, .ok], 0, 0, 0, .deinit⟩).1
    let last := (run (smStep config) first [.repeated, .error, .ok, .ok]).1
    last.smState = .valid ∧ last.okCount = 2 ∧ last.errorCount = 0 :=
  have latest := window_semantics ⟨2, 1, 0, 1, 0, 1, 0⟩ ⟨some [.ok, .ok], 0, 0, 0, .deinit⟩
    [.repeated, .error, .ok, .ok] (by decide) rfl
  ⟨by decide, latest.1, latest.2.1⟩

end E2E
