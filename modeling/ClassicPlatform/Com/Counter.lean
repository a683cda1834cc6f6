import ClassicPlatform.Lib.Machine
import Mathlib.Data.Nat.Bitwise

/-!
# I-PDU counters

The sender keeps the counter value that it has sent last, the receiver the one that it expects
next. The I-PDU is started at both ends, and the callouts accept it.
-/
namespace Com

open Function Machine Nat

abbrev Sdu := Nat → BitVec 8

/-- `ComIPduCounter_type`, with a range of `2 ^ bits` that fits its byte. -/
structure IPduCounter where
  cntrRange : Nat
  cntrStartPos : Nat
  cntrThrshldStep : Nat
  cntrIndex : Nat
  bits : Nat
  range : cntrRange = 2 ^ bits
  fits : cntrStartPos % 8 + bits ≤ 8

/-- `Com_IPdu_Counters` and `ComIPduCountRxStart` of an ECU. -/
structure Counters where
  counters : Nat → Nat := fun _ => 0
  countRxStart : Nat → Bool := fun _ => false

section

variable (cfg : IPduCounter) (sduPtr : Sdu) (ecu : Counters)

/-- The value and the I-PDU with it. -/
def updateIPduCntr : Nat × Sdu :=
  let bytPos := cfg.cntrStartPos / 8
  let bitPos := cfg.cntrStartPos % 8
  let bitMask : BitVec 16 := ~~~(BitVec.ofNat 16 (cfg.cntrRange - 1) <<< bitPos)
  let cntrVal :=
    (ecu.counters cfg.cntrIndex + 1) % cfg.cntrRange % 2 ^ 8
  (cntrVal, update sduPtr bytPos
    ((sduPtr bytPos &&& bitMask.setWidth 8) ||| (BitVec.ofNat 8 cntrVal <<< bitPos)))

def extractIPduCntr : Nat :=
  let bytPos := cfg.cntrStartPos / 8
  let bitPos := cfg.cntrStartPos % 8
  ((sduPtr bytPos >>> bitPos) &&& BitVec.ofNat 8 (cfg.cntrRange - 1)).toNat

/-- `Com_Misc_validateIPduCounter`. -/
def validateIPduCounter : Bool × Counters :=
  let cntrIdx := cfg.cntrIndex
  let cntrRng := cfg.cntrRange
  let rxCntrVal := extractIPduCntr cfg sduPtr
  let expected := ecu.counters cntrIdx
  let diff :=
    (if rxCntrVal ≥ expected then rxCntrVal - expected else rxCntrVal + cntrRng - expected) % 2 ^ 8
  (if ecu.countRxStart cntrIdx then decide (diff ≤ cfg.cntrThrshldStep) else true,
    { counters := update ecu.counters cntrIdx ((rxCntrVal + 1) % cntrRng)
      countRxStart := update ecu.countRxStart cntrIdx true })

/-- What `Com_Misc_TriggerIPDUSend` does with the counter; `sent` is the answer of
`PduR_ComTransmit`. -/
def triggerIPDUSend (sent : Bool) : Sdu × Counters :=
  let (cntrVal, sdu) := updateIPduCntr cfg sduPtr ecu
  (sdu, if sent then
    { ecu with
      counters := update ecu.counters cfg.cntrIndex cntrVal }
    else ecu)

end

/-- An attempt to send, the answer of the lower layer, and whether the I-PDU arrives. -/
structure Attempt where
  data : Sdu
  sent : Bool
  delivered : Bool

/-- Both ends, and how many I-PDUs have been lost since the last delivery, if there was one. -/
structure Ends where
  sender : Counters := {}
  receiver : Counters := {}
  lost : Option Nat := none

/-- The outputs are the deliveries after the first: the I-PDUs lost before, and the verdict. -/
def exchange (cfg : IPduCounter) (ends : Ends) (attempt : Attempt) :
    Ends × List (Nat × Bool) :=
  let (sdu, sender) := triggerIPDUSend cfg attempt.data ends.sender attempt.sent
  if attempt.sent ∧ attempt.delivered then
    let (verdict, receiver) := validateIPduCounter cfg sdu ends.receiver
    ({ sender, receiver, lost := some 0 }, ends.lost.toList.map fun lost => (lost, verdict))
  else ({ ends with
    sender
    lost := if attempt.sent then ends.lost.map (· + 1) else ends.lost }, [])

/-- Fewer I-PDUs than the range are lost in a row. -/
def FewLost (cfg : IPduCounter) (ends : Ends) (attempt : Attempt) : Prop :=
  attempt.sent = true → attempt.delivered = false → ∀ lost ∈ ends.lost, lost + 1 < cfg.cntrRange
  deriving Decidable

theorem getLsbD_counterByte (byte : BitVec 8) {value bits : Nat} (small : value < 2 ^ bits)
    (bitPos : Nat) {i : Nat} (inside : i < 8) :
    ((byte &&& (~~~(BitVec.ofNat 16 (2 ^ bits - 1) <<< bitPos)).setWidth 8) |||
        (BitVec.ofNat 8 value <<< bitPos)).getLsbD i =
      if bitPos ≤ i ∧ i < bitPos + bits then value.testBit (i - bitPos) else byte.getLsbD i := by
  have low : i < 16 ∧ i - bitPos < 8 ∧ i - bitPos < 16 := by omega
  simp only [BitVec.getLsbD_or, BitVec.getLsbD_and, BitVec.getLsbD_not, BitVec.getLsbD_setWidth,
    BitVec.getLsbD_shiftLeft, BitVec.getLsbD_ofNat, inside, low]
  by_cases before : i < bitPos
  · simp [before]
  · by_cases own : i - bitPos < bits
    · have counted : bitPos ≤ i ∧ i < bitPos + bits := by omega
      simp [before, own, counted]
    · have other : ¬ (bitPos ≤ i ∧ i < bitPos + bits) := by omega
      have zero : value.testBit (i - bitPos) = false :=
        Nat.testBit_lt_two_pow (small.trans_le (Nat.pow_le_pow_right (by decide) (not_lt.mp own)))
      simp [own, other, zero]

section

variable {cfg : IPduCounter} (sduPtr : Sdu) (ecu : Counters)

theorem updateIPduCntr_fst : (updateIPduCntr cfg sduPtr ecu).1 =
    (ecu.counters cfg.cntrIndex + 1) % cfg.cntrRange := by
  have fits := cfg.fits
  refine Nat.mod_eq_of_lt ((Nat.mod_lt _ ?_).trans_le ?_) <;> rw [cfg.range]
  · exact Nat.two_pow_pos _
  · exact Nat.pow_le_pow_right (by decide) (by omega)

theorem updateIPduCntr_lt : (updateIPduCntr cfg sduPtr ecu).1 < 2 ^ cfg.bits := by
  rw [updateIPduCntr_fst, cfg.range]
  exact Nat.mod_lt _ (Nat.two_pow_pos _)

theorem getLsbD_updateIPduCntr {i : Nat} (inside : i < 8) :
    ((updateIPduCntr cfg sduPtr ecu).2 (cfg.cntrStartPos / 8)).getLsbD i =
      if cfg.cntrStartPos % 8 ≤ i ∧ i < cfg.cntrStartPos % 8 + cfg.bits then
        (updateIPduCntr cfg sduPtr ecu).1.testBit (i - cfg.cntrStartPos % 8)
      else (sduPtr (cfg.cntrStartPos / 8)).getLsbD i := by
  rw [← getLsbD_counterByte _ (updateIPduCntr_lt sduPtr ecu) _ inside, ← cfg.range]
  exact congrArg (BitVec.getLsbD · i) (update_self ..)

theorem extractIPduCntr_update :
    extractIPduCntr cfg (updateIPduCntr cfg sduPtr ecu).2 = (updateIPduCntr cfg sduPtr ecu).1 := by
  have fits := cfg.fits
  apply eq_of_testBit_eq
  intro i
  simp only [extractIPduCntr, BitVec.testBit_toNat, BitVec.getLsbD_and, BitVec.getLsbD_ushiftRight,
    BitVec.getLsbD_ofNat, cfg.range]
  by_cases own : i < cfg.bits
  · rw [getLsbD_updateIPduCntr _ _ (by omega)]
    have inside : i < 8 := by omega
    simp [own, inside]
  · have zero := Nat.testBit_lt_two_pow ((updateIPduCntr_lt sduPtr ecu).trans_le
      (Nat.pow_le_pow_right (by decide) (not_lt.mp own)))
    simp [own, zero]

end

/-- After a delivery the receiver expects what the sender sends next, apart from what has been
lost. -/
structure Aligned (cfg : IPduCounter) (ends : Ends) (lost : Nat) : Prop where
  started : ends.receiver.countRxStart cfg.cntrIndex = true
  few : lost < cfg.cntrRange
  small : ends.receiver.counters cfg.cntrIndex < cfg.cntrRange
  expected : (ends.receiver.counters cfg.cntrIndex + lost) % cfg.cntrRange =
    (ends.sender.counters cfg.cntrIndex + 1) % cfg.cntrRange

section

variable {cfg : IPduCounter} {ends : Ends}

theorem Aligned.diff {lost : Nat} (aligned : Aligned cfg ends lost) (data : Sdu) :
    (validateIPduCounter cfg (updateIPduCntr cfg data ends.sender).2 ends.receiver).1 = true ↔
      lost ≤ cfg.cntrThrshldStep := by
  obtain ⟨started, few, small, same⟩ := aligned
  have fits := cfg.fits
  have byte : cfg.cntrRange ≤ 2 ^ 8 := by
    rw [cfg.range]
    exact Nat.pow_le_pow_right (by decide) (by omega)
  simp only [validateIPduCounter, started, if_true, extractIPduCntr_update, updateIPduCntr_fst,
    ← same, decide_eq_true_eq]
  generalize ends.receiver.counters cfg.cntrIndex = expected at *
  generalize cfg.cntrRange = range at *
  have wraps : (expected + lost) % range =
      if range ≤ expected + lost then expected + lost - range else expected + lost := by
    rw [add_mod_eq_ite, Nat.mod_eq_of_lt small, Nat.mod_eq_of_lt few]
  have diff : (if (expected + lost) % range ≥ expected then (expected + lost) % range - expected
      else (expected + lost) % range + range - expected) = lost := by
    rw [wraps]
    split_ifs <;> omega
  rw [diff, Nat.mod_eq_of_lt (by omega)]

theorem Aligned.exchange (aligned : ∀ lost ∈ ends.lost, Aligned cfg ends lost)
    {attempt : Attempt} (few : FewLost cfg ends attempt) :
    (∀ lost ∈ (exchange cfg ends attempt).1.lost,
      Aligned cfg (exchange cfg ends attempt).1 lost) ∧
    ∀ verdict ∈ (exchange cfg ends attempt).2,
      verdict.2 = true ↔ verdict.1 ≤ cfg.cntrThrshldStep := by
  have positive : 0 < cfg.cntrRange := by
    rw [cfg.range]
    exact Nat.two_pow_pos _
  obtain ⟨data, sent, delivered⟩ := attempt
  cases sent with
  | false =>
    refine ⟨fun lost known => ?_, nofun⟩
    obtain ⟨started, few, small, expected⟩ := aligned lost known
    exact ⟨started, few, small, expected⟩
  | true =>
    cases delivered with
    | false =>
      refine ⟨fun lost known => ?_, nofun⟩
      obtain ⟨before, earlier, rfl⟩ := Option.map_eq_some_iff.mp known
      obtain ⟨started, -, small, expected⟩ := aligned before earlier
      refine ⟨started, few rfl rfl before earlier, small, ?_⟩
      simp only [Com.exchange, triggerIPDUSend, Bool.false_eq_true, and_false, if_false, if_true,
        update_self, updateIPduCntr_fst]
      rw [← add_assoc, ← mod_add_mod, expected]
    | true =>
      simp only [Com.exchange, triggerIPDUSend, and_self, if_true]
      refine ⟨?_, ?_⟩
      · rintro _ ⟨⟩
        refine ⟨update_self .., positive, ?_, ?_⟩
        · simp only [validateIPduCounter, update_self]
          exact Nat.mod_lt _ positive
        · simp only [validateIPduCounter, update_self, extractIPduCntr_update,
            updateIPduCntr_fst, add_zero, mod_mod]
      · rintro _ member
        obtain ⟨lost, known, rfl⟩ := List.mem_map.mp member
        exact (aligned lost (Option.mem_toList.mp known)).diff data

end

/-- After the first delivery the receiver accepts an I-PDU exactly if no more I-PDUs than the
threshold have been lost since the last one. The counter changes its own bits only, and an
attempt that the lower layer rejects does not consume a value. -/
theorem counters_aligned (cfg : IPduCounter) (attempts : List Attempt)
    (few : Meets (exchange cfg) (FewLost cfg) {} attempts) :
    (∀ verdict ∈ (run (exchange cfg) {} attempts).2,
      verdict.2 = true ↔ verdict.1 ≤ cfg.cntrThrshldStep) ∧
    (∀ (data : Sdu) (ecu : Counters) a i, i < 8 →
      ¬ (a = cfg.cntrStartPos / 8 ∧ cfg.cntrStartPos % 8 ≤ i ∧
        i < cfg.cntrStartPos % 8 + cfg.bits) →
      ((updateIPduCntr cfg data ecu).2 a).getLsbD i = (data a).getLsbD i) ∧
    ∀ (data : Sdu) (ecu : Counters), (triggerIPDUSend cfg data ecu false).2 = ecu := by
  refine ⟨(run_outputs (fun ends => ∀ lost ∈ ends.lost, Aligned cfg ends lost) ?_ few
    fun _ _ aligned few => Aligned.exchange aligned few).2, ?_, fun _ _ => rfl⟩
  · rintro _ ⟨⟩
  intro data ecu a i inside other
  by_cases here : a = cfg.cntrStartPos / 8
  · subst here
    rw [getLsbD_updateIPduCntr data ecu inside, if_neg fun own => other ⟨rfl, own⟩]
  · exact congrArg (BitVec.getLsbD · i) (update_of_ne here ..)

/-- A counter of four bits in the high half of the second byte. -/
def highNibble : IPduCounter where
  cntrRange := 16
  cntrStartPos := 12
  cntrThrshldStep := 1
  cntrIndex := 0
  bits := 4
  range := rfl
  fits := by decide

theorem third_loss_detected :
    let sent (delivered : Bool) : Attempt := ⟨fun _ => 0xFF, true, delivered⟩
    let attempts := [sent true, sent false, sent true, sent false, sent false, sent true]
    (run (exchange highNibble) {} attempts).2 = [(1, true), (2, false)] ∧
      ∀ verdict ∈ (run (exchange highNibble) {} attempts).2, verdict.2 = true ↔ verdict.1 ≤ 1 :=
  ⟨by decide, (counters_aligned highNibble _ (by decide)).1⟩

end Com
