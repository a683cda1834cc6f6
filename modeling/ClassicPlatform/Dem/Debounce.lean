import ClassicPlatform.Dem.Types
import Mathlib.Data.Int.ConditionallyCompleteOrder
import Mathlib.Order.ConditionallyCompleteLattice.Indexed

/-!
# Debouncing

`Dem_Debounce.c`: what a monitor reports becomes passed or failed at once, by a counter, or by a
timer that the main function drives. The fault detection counter for the diagnostic tester follows
the counter, and is kept apart from the records of the events.
-/
namespace Dem

/-- The counter of `preDebounceCounterBased`. -/
def PreDebounceCounterBased.count (pdVars : PreDebounceCounterBased) (fdcInternal : Int) :
    EventStatus → Int
  | .prefailed =>
    if fdcInternal < pdVars.failedThreshold then
      let jumped :=
        if pdVars.jumpUp && decide (fdcInternal < pdVars.jumpUpValue) then pdVars.jumpUpValue
        else fdcInternal
      if jumped + pdVars.incrementStepSize < pdVars.failedThreshold then
        jumped + pdVars.incrementStepSize
      else pdVars.failedThreshold
    else fdcInternal
  | .prepassed =>
    if pdVars.passedThreshold < fdcInternal then
      let jumped :=
        if pdVars.jumpDown && decide (pdVars.jumpDownValue < fdcInternal) then pdVars.jumpDownValue
        else fdcInternal
      if pdVars.passedThreshold < jumped - pdVars.decrementStepSize then
        jumped - pdVars.decrementStepSize
      else pdVars.passedThreshold
    else fdcInternal
  | .failed => pdVars.failedThreshold
  | .passed => pdVars.passedThreshold

/-- `preDebounceCounterBased`: the status, and the new counter. -/
def preDebounceCounterBased (pdVars : PreDebounceCounterBased) (reported : EventStatus)
    (fdcInternal : Int) : EventStatus × Int :=
  let counted := pdVars.count fdcInternal reported
  if pdVars.failedThreshold ≤ counted then (.failed, counted)
  else if counted ≤ pdVars.passedThreshold then (.passed, counted)
  else (reported, counted)

/-- The timer of `preDebounceTimeBased` is set for the other verdict than before. The final verdict
stands at once if it is reported as such, or if its threshold is 0. -/
def TimeBaseStatus.restart (timer : TimeBaseStatus) (failing final : Bool) (threshold : Nat) :
    TimeBaseStatus :=
  if final || threshold == 0 then
    { timer with
      started := true, failureCounting := failing, debounceTime := threshold, counterReset := false }
  else
    { timer with
      started := true, failureCounting := failing, debounceTime := 0, counterReset := true }

/-- `preDebounceTimeBased`: the status, and the timer. -/
def preDebounceTimeBased (pdVars : PreDebounceTimeBased) (event : Nat) (reported : EventStatus)
    (timer : TimeBaseStatus) : EventStatus × TimeBaseStatus :=
  let own := { timer with eventId := event }
  let failing := decide (reported = .failed ∨ reported = .prefailed)
  let threshold := if failing then pdVars.timeFailedThreshold else pdVars.timePassedThreshold
  let final := decide (reported = .failed ∨ reported = .passed)
  if own.started && own.failureCounting == failing then (reported, own)
  else
    (if final || threshold == 0 then (if failing then .failed else .passed) else reported,
      own.restart failing final threshold)

/-- `RunPredebounce`: the status, and the state with the counter or timer of the event. -/
def runPredebounce (config : Config) (s : State) (event : Nat) (reported : EventStatus) :
    EventStatus × State :=
  match (config.event event).preDebounce with
  | .noPreDebounce => (reported, s)
  | .counterBased pdVars =>
    let record := s.status event
    let counted := preDebounceCounterBased pdVars reported record.fdcInternal
    (counted.1, s.setStatus event { record with fdcInternal := counted.2 })
  | .timeBased pdVars =>
    let timed := preDebounceTimeBased pdVars event reported (s.timeBase pdVars.index)
    (timed.1, { s with timeBase := Function.update s.timeBase pdVars.index timed.2 })

/-- The part of `resetDebounceCounter` for the timer; the counter stands in the record. -/
def resetDebounceTimer (config : Config) (s : State) (event : Nat) : State :=
  match (config.event event).preDebounce with
  | .timeBased pdVars =>
    { s with
      timeBase := Function.update s.timeBase pdVars.index
        { s.timeBase pdVars.index with started := false, debounceTime := 0 } }
  | _ => s

/-! ## Fault detection counter -/

namespace PreDebounceCounterBased

section

variable (pdVars : PreDebounceCounterBased)

/-- `fdcInternalToUDSFdc`, with the division of C. -/
def fdcInternalToUDSFdc (fdcInternal : Int) : Int :=
  let pdRange := pdVars.failedThreshold - pdVars.passedThreshold
  ((255 * (fdcInternal - pdVars.passedThreshold) + -128 * pdRange).tdiv pdRange).bmod (2 ^ 8)

structure FaultDetection where
  fdcInternal : Int
  udsFdc : Int
  maxUDSFdc : Int

/-- `resetDebounceCounter`, with `getDefaultUDSFdc`. -/
def reset : FaultDetection :=
  let startFDC := pdVars.fdcInternalToUDSFdc 0
  { fdcInternal := 0, udsFdc := startFDC, maxUDSFdc := startFDC }

/-- The counters after a report, or after a reset if there is none. -/
def detect (counters : FaultDetection) : Option EventStatus → FaultDetection
  | none => pdVars.reset
  | some reported =>
    let fdcInternal := (preDebounceCounterBased pdVars reported counters.fdcInternal).2
    let udsFdc := pdVars.fdcInternalToUDSFdc fdcInternal
    { fdcInternal, udsFdc, maxUDSFdc := max counters.maxUDSFdc udsFdc }

abbrev range : Set Int := Set.Icc pdVars.passedThreshold pdVars.failedThreshold

end

private theorem mul_le_of_tdiv_eq {dividend divisor limit : Int} (positive : 0 < divisor)
    (above : 0 < limit) (quotient : dividend.tdiv divisor = limit) :
    divisor * limit ≤ dividend := by
  rw [← quotient]
  refine Int.mul_tdiv_self_le (not_lt.mp fun negative => ?_)
  have := Int.tdiv_le_tdiv positive negative.le
  rw [quotient, Int.zero_tdiv] at this
  omega

variable {pdVars : PreDebounceCounterBased} {fdcInternal : Int}

theorem count_sint16 (reported : EventStatus)
    (sint16 : ∀ value ∈ [fdcInternal, pdVars.failedThreshold, pdVars.passedThreshold,
      pdVars.jumpUpValue, pdVars.jumpDownValue], -2 ^ 15 ≤ value ∧ value < 2 ^ 15) :
    (pdVars.count fdcInternal reported).bmod (2 ^ 16) = pdVars.count fdcInternal reported := by
  simp only [List.forall_mem_cons] at sint16
  obtain ⟨counter, failed, passed, up, down, -⟩ := sint16
  have stored : -2 ^ 15 ≤ pdVars.count fdcInternal reported ∧
      pdVars.count fdcInternal reported < 2 ^ 15 := by
    cases reported <;> grind [count]
  exact Int.bmod_eq_of_le (by omega) (by omega)

variable (ordered : pdVars.passedThreshold < pdVars.failedThreshold)
include ordered

theorem preDebounceCounterBased_spec (within : fdcInternal ∈ pdVars.range)
    (reported : EventStatus) :
    let debounced := preDebounceCounterBased pdVars reported fdcInternal
    debounced.2 ∈ pdVars.range ∧
      (debounced.1 = .failed ↔ debounced.2 = pdVars.failedThreshold) ∧
      (debounced.1 = .passed ↔ debounced.2 = pdVars.passedThreshold) := by
  obtain ⟨least, most⟩ := within
  simp only [Set.mem_Icc, preDebounceCounterBased]
  cases reported <;> grind [count]

theorem fdcInternalToUDSFdc_spec (within : fdcInternal ∈ pdVars.range) :
    let pdRange := pdVars.failedThreshold - pdVars.passedThreshold
    let scaled := pdVars.fdcInternalToUDSFdc fdcInternal
    scaled = (255 * (fdcInternal - pdVars.passedThreshold) + -128 * pdRange).tdiv pdRange ∧
      (scaled = 127 ↔ fdcInternal = pdVars.failedThreshold) ∧
      (scaled = -128 ↔ fdcInternal = pdVars.passedThreshold) := by
  intro pdRange
  have positive : 0 < pdRange := Int.sub_pos.mpr ordered
  obtain ⟨least, most⟩ := within
  let dividend := 255 * (fdcInternal - pdVars.passedThreshold) + -128 * pdRange
  have below {limit : Int} (le : dividend ≤ limit * pdRange) : dividend.tdiv pdRange ≤ limit :=
    (Int.tdiv_le_tdiv positive le).trans_eq (Int.mul_tdiv_cancel limit positive.ne')
  have lower : -128 ≤ dividend.tdiv pdRange := Int.le_tdiv_of_mul_le positive (by omega)
  have upper : dividend.tdiv pdRange ≤ 127 := below (by omega)
  rw [fdcInternalToUDSFdc, Int.bmod_eq_of_le lower (Int.lt_add_one_of_le upper)]
  refine ⟨rfl, ⟨fun top => ?_, fun top => ?_⟩, fun bottom => ?_, fun bottom => ?_⟩
  · have := mul_le_of_tdiv_eq positive (by decide) top
    omega
  · exact upper.antisymm (Int.le_tdiv_of_mul_le positive (by omega))
  · have := mul_le_of_tdiv_eq positive (by decide) ((Int.neg_tdiv ..).trans (congrArg (-·) bottom))
    omega
  · exact lower.antisymm' (below (by omega))

theorem fdcInternalToUDSFdc_monotoneOn : MonotoneOn pdVars.fdcInternalToUDSFdc pdVars.range := by
  intro fdc within fdc' within' le
  rw [(fdcInternalToUDSFdc_spec ordered within).1, (fdcInternalToUDSFdc_spec ordered within').1]
  exact Int.tdiv_le_tdiv (Int.sub_pos.mpr ordered) (by omega)

end PreDebounceCounterBased

open PreDebounceCounterBased in
/-- The counter stays between the thresholds, whatever the steps and jumps are. The counter for the
tester follows it, and the verdict comes with the threshold. -/
theorem counter_debouncing (pdVars : PreDebounceCounterBased) (passed : pdVars.passedThreshold < 0)
    (failed : 0 < pdVars.failedThreshold) (inputs : List (Option EventStatus)) :
    let counters := inputs.foldl pdVars.detect pdVars.reset
    counters.fdcInternal ∈ pdVars.range ∧
      counters.udsFdc = pdVars.fdcInternalToUDSFdc counters.fdcInternal ∧
      MonotoneOn pdVars.fdcInternalToUDSFdc pdVars.range ∧
      (∀ fdc ∈ pdVars.range,
        (pdVars.fdcInternalToUDSFdc fdc = 127 ↔ fdc = pdVars.failedThreshold) ∧
        (pdVars.fdcInternalToUDSFdc fdc = -128 ↔ fdc = pdVars.passedThreshold)) ∧
      ∀ reported,
        let debounced := preDebounceCounterBased pdVars reported counters.fdcInternal
        (debounced.1 = .failed ↔ debounced.2 = pdVars.failedThreshold) ∧
          (debounced.1 = .passed ↔ debounced.2 = pdVars.passedThreshold) := by
  intro counters
  have ordered := passed.trans failed
  have start : pdVars.reset.fdcInternal ∈ pdVars.range := ⟨passed.le, failed.le⟩
  have kept := inputs.foldlRecOn (motive := fun counters => counters.fdcInternal ∈ pdVars.range ∧
    counters.udsFdc = pdVars.fdcInternalToUDSFdc counters.fdcInternal) pdVars.detect ⟨start, rfl⟩
    fun counters kept input _ => by
      cases input with
      | none => exact ⟨start, rfl⟩
      | some reported => exact ⟨(preDebounceCounterBased_spec ordered kept.1 reported).1, rfl⟩
  exact ⟨kept.1, kept.2, fdcInternalToUDSFdc_monotoneOn ordered,
    fun fdc within => (fdcInternalToUDSFdc_spec ordered within).2,
    fun reported => (preDebounceCounterBased_spec ordered kept.1 reported).2⟩

/-- A jump over the failed threshold ends there. -/
theorem counter_debouncing_of_jump :
    let pdVars : PreDebounceCounterBased :=
      { failedThreshold := 3, passedThreshold := -5, incrementStepSize := 1, decrementStepSize := 1
        jumpUp := true, jumpUpValue := 7, jumpDown := false, jumpDownValue := 0 }
    (preDebounceCounterBased pdVars .prefailed 0).1 = .failed :=
  ((counter_debouncing _ (by decide) (by decide) []).2.2.2.2 .prefailed).1.mpr rfl

end Dem
