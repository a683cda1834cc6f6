import ClassicPlatform.Dem.Displacement
import ClassicPlatform.Dem.Replay

/-!
# The bits of the status byte

The eight bits are written by reports, by starts and ends of three cycles, by aging, displacement
and clearing. They never contradict each other: each happening keeps what the others rely on.
-/
namespace Dem

open EventStatusRec Function List Option

section

variable (config : Config) (event : Nat)

/-- The aging cycle of the event is its operation cycle. -/
def Config.agesByOperationCycle : Prop :=
  (config.event event).agingCycleRef = (config.event event).operationCycleRef

/-- What the bits say fits together. -/
structure Coherent (bits : StatusBits) : Prop where
  failed : (bits.testFailed || bits.testFailedThisOperationCycle || bits.pendingDTC ||
    bits.confirmedDTC) = true → bits.testFailedSinceLastClear = true
  tested : bits.testFailedSinceLastClear = true → bits.testNotCompletedSinceLastClear = false
  untested : bits.testNotCompletedSinceLastClear = true →
    bits.testNotCompletedThisOperationCycle = true
  thisCycle : bits.testFailedThisOperationCycle = true →
    bits.testNotCompletedThisOperationCycle = false
  pending : config.agesByOperationCycle event → bits.testFailedThisOperationCycle = true →
    bits.pendingDTC = true

/-- Whether an event was tested and whether it failed, after something has happened to it. -/
def testAfter (seen : Bool × Bool) : Happening → Bool × Bool
  | .failed _ => (true, true)
  | .passed _ => (true, seen.2)
  | .cleared _ => (false, false)
  | .opened cycle _ => if (config.event event).operationCycleRef = cycle then (false, false) else seen
  | _ => seen

/-- Whether an event was tested and whether it failed since its operation cycle started or it was
cleared. -/
def testOf (happenings : List Happening) : Bool × Bool :=
  happenings.foldl (fun seen happening =>
    if happening.event = some event then testAfter config event seen happening else seen)
    (false, false)

/-- What every happening keeps: the bits of the cycle say how the event was tested, a failure in the
operation cycle is also known to the aging of the event, and an event that is not available is not
tested. -/
structure SoundRecord (known : Bool × Bool) (record : EventStatusRec) : Prop where
  bits : Coherent config event record.eventStatusExtended
  seen : record.eventStatusExtended.testNotCompletedThisOperationCycle = !known.1 ∧
    record.eventStatusExtended.testFailedThisOperationCycle = known.2
  aging : config.agingProcessingInternal = true → config.agesByOperationCycle event →
    record.eventStatusExtended.testFailedThisOperationCycle = true →
      record.failedDuringAgingCycle = true
  unavailable : record.isAvailable = false →
    known = (false, false) ∧ record.eventStatusExtended.pendingDTC = false

end

section

variable {config : Config} {event : Nat} {seen : Bool × Bool} {record changed : EventStatusRec}
variable {life : Life}

theorem SoundRecord.fade {pending confirmed warning : Bool}
    (sound : SoundRecord config event seen record)
    (bits : changed.eventStatusExtended = { record.eventStatusExtended with
      pendingDTC := pending, confirmedDTC := confirmed, warningIndicatorRequested := warning })
    (was_pending : pending → record.eventStatusExtended.pendingDTC)
    (was_confirmed : confirmed → record.eventStatusExtended.confirmedDTC)
    (stays : config.agesByOperationCycle event →
      record.eventStatusExtended.testFailedThisOperationCycle →
        pending = record.eventStatusExtended.pendingDTC)
    (flag : changed.failedDuringAgingCycle = record.failedDuringAgingCycle)
    (available : changed.isAvailable = record.isAvailable) :
    SoundRecord config event seen changed := by
  obtain ⟨⟨failed, tested, untested, thisCycle, is_pending⟩, same, aging, unavailable⟩ := sound
  constructor
  · rw [bits]
    refine ⟨fun some => failed ?_, tested, untested, thisCycle, fun ages fails => ?_⟩
    · simp only [Bool.or_eq_true] at some ⊢
      exact some.imp (.imp id was_pending) was_confirmed
    · exact (stays ages fails).trans (is_pending ages fails)
  · rw [bits]
    exact same
  · rw [bits, flag]
    exact aging
  · rw [bits, available]
    intro is_not
    obtain ⟨untested, not_pending⟩ := unavailable is_not
    exact ⟨untested, eq_false_of_ne_true fun set =>
      absurd (not_pending.symm.trans (was_pending set)) nofun⟩

theorem SoundRecord.of_core (sound : SoundRecord config event seen record)
    (same : changed.core = record.core) : SoundRecord config event seen changed := by
  have core : SoundRecord config event seen record.core :=
    sound.fade rfl id id (fun _ _ => rfl) rfl rfl
  rw [← same] at core
  exact core.fade rfl id id (fun _ _ => rfl) rfl rfl

section

variable (config event record)

theorem onFailed_aging (started : Nat → Bool) :
    (onFailed config event started record).isAvailable = record.isAvailable ∧
      (onFailed config event started record).failedDuringAgingCycle =
        (record.failedDuringAgingCycle ||
          (config.agingProcessingInternal && started (config.event event).agingCycleRef)) := by
  unfold onFailed noteFailureForAging handleFaultConfirmation
  constructor
  · grind
  · grind

theorem onCycleStart_bits (cycle : Nat) (record : EventStatusRec) :
    let started := onCycleStart config event cycle record
    started.eventStatusExtended =
        (if record.isAvailable && decide ((config.event event).operationCycleRef = cycle) then
          { record.eventStatusExtended with
            testFailedThisOperationCycle := false, testNotCompletedThisOperationCycle := true }
        else record.eventStatusExtended) ∧
      started.isAvailable = record.isAvailable ∧
      ((config.event event).agingCycleRef ≠ cycle →
        started.failedDuringAgingCycle = record.failedDuringAgingCycle) := by
  unfold onCycleStart
  split <;> split <;> split <;> simp_all

theorem onCycleEnd_bits (cycle : Nat) (record : EventStatusRec) :
    let ended := onCycleEnd config event cycle record
    ended.eventStatusExtended = { record.eventStatusExtended with
        pendingDTC := record.eventStatusExtended.pendingDTC &&
          !endsWithoutFailure config event cycle record } ∧
      ended.isAvailable = record.isAvailable ∧
      ended.failedDuringAgingCycle = record.failedDuringAgingCycle := by
  unfold onCycleEnd
  split <;> split <;> simp_all

end

theorem SoundRecord.aged {passed failed : Bool} (sound : SoundRecord config event seen record)
    (internal : config.agingProcessingInternal) :
    SoundRecord config event seen (onAging config event passed failed record) := by
  unfold onAging
  split
  next counts =>
    split
    · refine sound.fade rfl nofun nofun (fun ages fails => ?_) rfl rfl
      rw [agingCycleCounts, sound.aging internal ages fails, Bool.not_true,
        Bool.and_false] at counts
      cases counts
    · exact sound.fade rfl id id (fun _ _ => rfl) rfl rfl
  · split
    · exact sound.fade rfl id id (fun _ _ => rfl) rfl rfl
    · exact sound

theorem SoundRecord.change {happening : Happening}
    (sound : SoundRecord config event seen life.record)
    (changes : life.change config event happening = some record) :
    SoundRecord config event (testAfter config event seen happening) record := by
  cases happening with
  | failed =>
    simp only [Life.change, ite_none_right_eq_some, Option.some.injEq] at changes
    obtain ⟨reportable, rfl⟩ := changes
    rw [Life.reportable, Bool.and_eq_true] at reportable
    obtain ⟨available, flag⟩ := onFailed_aging config event life.record life.started
    refine ⟨⟨fun _ => rfl, fun _ => rfl, by rintro ⟨⟩, fun _ => rfl, fun _ _ => rfl⟩, ⟨rfl, rfl⟩,
      fun internal ages _ => ?_, fun is_not => ?_⟩
    · rw [flag, internal, ages, reportable.2]
      simp
    · rw [available, reportable.1] at is_not
      cases is_not
  | passed =>
    simp only [Life.change, ite_none_right_eq_some, Option.some.injEq] at changes
    obtain ⟨reportable, rfl⟩ := changes
    rw [Life.reportable, Bool.and_eq_true] at reportable
    refine ⟨⟨fun some => sound.bits.failed ?_, fun _ => rfl, by rintro ⟨⟩, fun _ => rfl,
      sound.bits.pending⟩, ⟨rfl, sound.seen.2⟩, sound.aging, fun is_not => ?_⟩
    · simp only [onPassed, Bool.false_or, Bool.or_eq_true] at some ⊢
      exact some.imp_left (.imp_left .inr)
    · cases is_not.symm.trans reportable.1
  | opened cycle =>
    simp only [Life.change, Option.some.injEq] at changes
    obtain ⟨bits, available, flag⟩ := onCycleStart_bits config event cycle life.record
    rw [changes] at bits available flag
    have untested (is_not : record.isAvailable = false) := sound.unavailable (available ▸ is_not)
    simp only [testAfter]
    split at bits
    next own =>
      rw [Bool.and_eq_true, decide_eq_true_eq] at own
      rw [if_pos own.2]
      refine ⟨?_, by rw [bits]; exact ⟨rfl, rfl⟩, by rw [bits]; rintro _ _ ⟨⟩, fun is_not => ?_⟩
      · rw [bits]
        refine ⟨fun some => sound.bits.failed ?_, sound.bits.tested, fun _ => rfl, by simp,
          by rintro _ ⟨⟩⟩
        simp only [Bool.or_false, Bool.or_eq_true] at some ⊢
        exact some.imp_left (.imp_left .inl)
      · cases is_not.symm.trans (available.trans own.1)
    next other =>
      have same : (if (config.event event).operationCycleRef = cycle then (false, false) else seen) =
          seen := by
        split
        next own =>
          rw [decide_eq_true own, Bool.and_true] at other
          exact (sound.unavailable (eq_false_of_ne_true other)).1.symm
        · rfl
      rw [same]
      refine ⟨bits ▸ sound.bits, bits ▸ sound.seen, fun internal ages fails => ?_,
        fun is_not => bits ▸ untested is_not⟩
      -- an event that failed is available, so the cycle that starts is not its own
      rw [bits] at fails
      have available : life.record.isAvailable = true := by
        by_contra is_not
        have never := (sound.unavailable (eq_false_of_ne_true is_not)).1
        rw [sound.seen.2, never] at fails
        cases fails
      rw [flag fun same => other (by rw [available, ← ages, same]; simp)]
      exact sound.aging internal ages fails
  | closed cycle =>
    simp only [Life.change, ite_none_right_eq_some, Option.some.injEq] at changes
    obtain ⟨-, rfl⟩ := changes
    obtain ⟨bits, available, flag⟩ := onCycleEnd_bits config event cycle life.record
    refine sound.fade bits (fun set => (Bool.and_eq_true_iff.mp set).1) id (fun _ fails => ?_) flag
      available
    simp [endsWithoutFailure, fails]
  | aging =>
    simp only [Life.change, ite_none_right_eq_some, Option.some.injEq, Bool.and_eq_true] at changes
    obtain ⟨⟨internal, -⟩, rfl⟩ := changes
    exact sound.aged internal
  | cleared =>
    simp only [Life.change, Option.some.injEq] at changes
    subst changes
    exact ⟨⟨by rintro ⟨⟩, by rintro ⟨⟩, fun _ => rfl, by rintro ⟨⟩, by rintro _ ⟨⟩⟩, ⟨rfl, rfl⟩,
      by rintro _ _ ⟨⟩, fun _ => ⟨rfl, rfl⟩⟩
  | refused | displaced =>
    simp only [Life.change, Option.some.injEq] at changes
    subst changes
    exact sound.fade rfl id (by simp) (fun _ _ => rfl) rfl rfl
  | otherFailed | entered | started | ended =>
    simp only [Life.change, Option.some.injEq] at changes
    subst changes
    exact sound.fade rfl id id (fun _ _ => rfl) rfl rfl

theorem Life.Goes.sound {happenings : List Happening} {last : Life}
    (goes : Life.Goes config event life happenings last)
    (sound : SoundRecord config event (false, false) life.record) :
    SoundRecord config event (testOf config event happenings) last.record := by
  induction goes with
  | refl => exact sound
  | quiet _ same ih => exact ih.of_core same
  | happens _ next ih =>
    rw [testOf, foldl_append]
    obtain ⟨-, ⟨other, same⟩ | ⟨own, changes⟩⟩ := Life.replay_cases next
    · rw [foldl_cons, if_neg other, same]
      exact ih
    · rw [foldl_cons, if_pos own]
      exact ih.change changes

/-! ## The end of a cycle -/

variable {s : State}

/-- What the end of an operation cycle reads of a record. -/
def EventStatusRec.tried (record : EventStatusRec) : Bool × Bool × Bool × Bool :=
  (record.isAvailable, record.eventStatusExtended.pendingDTC,
    record.eventStatusExtended.testFailedThisOperationCycle,
    record.eventStatusExtended.testNotCompletedThisOperationCycle)

/-- What the end of a cycle, the own one or not, makes of it. -/
def closeTried (own : Bool) : Bool × Bool × Bool × Bool → Bool × Bool × Bool × Bool :=
  fun (available, pending, failed, untested) =>
    (available, pending && !(available && !failed && !untested && own), failed, untested)

theorem storeEventEvtMem_tried (other : Nat) :
    ((storeEventEvtMem config s event).1.status other).tried = (s.status other).tried := by
  have displaced (s : State) (removed : Nat) (origin : Origin) :
      ((findAndDisplaceEvent config s removed origin).1.status other).tried =
        (s.status other).tried := by
    exact setStatus_view (s := eraseEntry s removed origin) tried rfl
  have looked (origin : Origin) : ((lookupEventForDisplacement config s event origin).1.status
      other).tried = (s.status other).tried := by
    unfold lookupEventForDisplacement
    split
    · rfl
    · split
      · refine List.foldlRecOn (motive := fun found : State × Option Nat =>
          (found.1.status other).tried = (s.status other).tried) _ _ rfl ?_
        exact fun _ before removed _ => (displaced _ removed origin).trans before
      · rfl
  unfold storeEventEvtMem storeEventMem
  split
  · split
    · rfl
    · split
      · rfl
      · split
        · dsimp only
          split <;> exact looked _
        · rfl
  · rfl

theorem closeEvent_tried (cycle turn other : Nat) :
    ((closeEvent config cycle s turn).status other).tried =
      if other = turn then
        closeTried (decide ((config.event other).operationCycleRef = cycle)) (s.status other).tried
      else (s.status other).tried := by
  have indicated : ((indicatorOpCycleEnd config s turn cycle).status other).tried =
      (s.status other).tried := by
    unfold indicatorOpCycleEnd
    split
    · rfl
    · exact setStatus_view tried rfl
  unfold closeEvent
  dsimp only
  generalize indicatorOpCycleEnd config s turn cycle = t at indicated ⊢
  split
  next available =>
    rw [← indicated]
    have closed : ((t.turn turn (.closed cycle turn)
        (onCycleEnd config turn cycle (t.status turn))).status other).tried = if other = turn then
          closeTried (decide ((config.event other).operationCycleRef = cycle))
            (t.status other).tried
        else (t.status other).tried := by
      change ((update t.status turn _) other).tried = _
      by_cases own : other = turn
      · subst own
        have still : (t.status other).isAvailable = true :=
          (congrArg Prod.fst indicated).trans available
        obtain ⟨bits, same, -⟩ := onCycleEnd_bits config other cycle (t.status other)
        simp [tried, closeTried, bits, same, still, endsWithoutFailure]
      · rw [update_of_ne own, if_neg own]
    split
    · exact (storeEventEvtMem_tried other).trans closed
    · exact closed
  next is_not =>
    split
    next own =>
      subst own
      simp [closeTried, tried, is_not]
    · rfl

theorem operationCycleEnd_tried (cycle : Nat) (valid : config.validEventId event) :
    ((operationCycleEnd config s cycle).status event).tried =
      closeTried (decide ((config.event event).operationCycleRef = cycle)) (s.status event).tried := by
  refine Sweep.foldl_view (fun s : State => (s.status event).tried) _ nodup_range'
    (config.mem_events.mpr valid) (fun turn _ other s => ?_) (fun s => ?_) _
  · exact (closeEvent_tried cycle turn event).trans (if_neg other.symm)
  · exact (closeEvent_tried cycle event event).trans (if_pos rfl)

end

/-- From the default status on, the bits fit together after any calls. At the end of a cycle the
pending bit is taken back exactly if it is the operation cycle of the event, and the event was
tested and did not fail in it. -/
theorem status_bits_coherent (config : Config) (s : State) (calls : List Call) (event : Nat)
    (start : s.bits event = defaultEventStatus) :
    let reached := Machine.run (step config) s calls
    Coherent config event (reached.1.bits event) ∧
      (config.validEventId event = true → (reached.1.bits event).pendingDTC = true → ∀ cycle,
        (((operationCycleEnd config reached.1 cycle).bits event).pendingDTC = false ↔
          (config.event event).operationCycleRef = cycle ∧
            testOf config event reached.2 = (true, false))) := by
  intro reached
  have begins : SoundRecord config event (false, false) (s.status event) := by
    change (s.status event).eventStatusExtended = _ at start
    constructor <;> rw [start]
    · exact ⟨nofun, nofun, fun _ => rfl, nofun, nofun⟩
    · exact ⟨rfl, rfl⟩
    · nofun
    · exact fun _ => ⟨rfl, rfl⟩
  have sound : SoundRecord config event (testOf config event reached.2) (reached.1.status event) :=
    (run_goes config s calls event).sound begins
  refine ⟨sound.bits, fun valid pending cycle => ?_⟩
  have available : (reached.1.status event).isAvailable = true := by
    by_contra is_not
    have never := (sound.unavailable (eq_false_of_ne_true is_not)).2
    nomatch never.symm.trans pending
  have ended := congrArg (fun tried : Bool × Bool × Bool × Bool => tried.2.1)
    (operationCycleEnd_tried (s := reached.1) cycle valid)
  change ((operationCycleEnd config reached.1 cycle).bits event).pendingDTC = _ at ended
  change (reached.1.status event).eventStatusExtended.pendingDTC = true at pending
  rw [ended]
  simp only [closeTried, tried, available, pending, sound.seen.1, sound.seen.2]
  generalize testOf config event reached.2 = known
  obtain ⟨tested, failed⟩ := known
  cases tested <;> cases failed <;> simp

theorem status_bits_coherent_healed :
    let reached := Machine.run (step sampleConfig) (blankState 1) (displacingCalls.take 5)
    Coherent sampleConfig 1 (reached.1.bits 1) ∧ (reached.1.bits 1).pendingDTC = true ∧
      ((operationCycleEnd sampleConfig reached.1 0).bits 1).pendingDTC = false := by
  have coherent := status_bits_coherent sampleConfig (blankState 1) (displacingCalls.take 5) 1 rfl
  exact ⟨coherent.1, by decide +kernel,
    (coherent.2 (by decide) (by decide +kernel) 0).mpr ⟨rfl, by decide +kernel⟩⟩

end Dem
