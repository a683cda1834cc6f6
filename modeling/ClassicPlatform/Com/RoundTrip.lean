import ClassicPlatform.Com.Signal

/-!
# Round trip of signal packing

Writing a signal and reading it back returns the signal reduced to its bit size.
Everything is argued bit by bit: a signal bit `i` sits at bit `bitShift + i` of
the word behind `pduDataPtr`, or, past the width of that word, in the spill byte.
-/
namespace Com

open BitVec ByteLanes Function List SignalType

theorem getLsbD_signalMask (w n i : Nat) (fits : n ≤ w) :
    (signalMask w n).getLsbD i = decide (i < n) := by
  rw [signalMask, getLsbD_ushiftRight, getLsbD_allOnes]
  apply decide_eq_decide.mpr
  omega

section

variable (endian : SignalEndianess) (w lsb : Nat)

/-- The `k`-th byte from the one of the least significant bit; after the lanes comes the spill
byte. -/
def laneAt (k : Nat) : Int :=
  match endian with
  | .comBigEndian => (lsb / 8 : Nat) - (k : Int)
  | _ => (lsb / 8 : Nat) + (k : Int)

theorem laneAt_injective : Function.Injective (laneAt endian lsb) := by
  intro j k same
  cases endian <;> simp only [laneAt] at same <;> omega

theorem spillByte_eq : spillByte endian w lsb = laneAt endian lsb (w / 8) := by
  cases endian <;> simp only [spillByte, laneAt]
  omega

theorem pduLanes_eq : pduLanes endian w lsb = (List.range (w / 8)).map (laneAt endian lsb) := by
  cases endian
  case comBigEndian =>
    simp only [pduLanes, descending, ascending, ← map_reverse, range_eq_range',
      reverse_range', map_map]
    refine map_congr_left fun k member => ?_
    have inside := mem_range'_1.mp member
    simp only [comp, laneAt]
    omega
  all_goals rfl

theorem nodup_pduLanes : (pduLanes endian w lsb).Nodup := by
  rw [pduLanes_eq]
  exact nodup_range.map (laneAt_injective endian lsb)

theorem getElem?_pduLanes {k : Nat} (inside : k < w / 8) :
    (pduLanes endian w lsb)[k]? = some (laneAt endian lsb k) := by
  simp [pduLanes_eq, inside]

end

section

variable (endian : SignalEndianess) (w lsb : Nat) (m : Memory) {j k b : Nat}

theorem getLsbD_load_pduLanes (inside : j < w) (bytes : w % 8 = 0) :
    (load m (pduLanes endian w lsb) : BitVec w).getLsbD j =
      (m (laneAt endian lsb (j / 8))).getLsbD (j % 8) := by
  have lane : j / 8 < w / 8 := by omega
  rw [getLsbD_load _ _ _ inside, getElem?_pduLanes _ _ _ lane]

theorem getLsbD_store_pduLanes (v : BitVec w) (inside : k < w / 8) (low : b < 8) :
    (store m (pduLanes endian w lsb) v (laneAt endian lsb k)).getLsbD b =
      v.getLsbD (8 * k + b) := by
  exact getLsbD_store m _ (nodup_pduLanes endian w lsb) v k _ (getElem?_pduLanes _ _ _ inside) b low

theorem store_pduLanes_of_ge (v : BitVec w) (outside : w / 8 ≤ k) :
    store m (pduLanes endian w lsb) v (laneAt endian lsb k) = m (laneAt endian lsb k) := by
  refine store_frame _ _ _ _ fun member => ?_
  rw [pduLanes_eq, mem_map_of_injective (laneAt_injective endian lsb)] at member
  exact outside.not_gt (mem_range.mp member)

end

section Merge

variable {w n : Nat} (fits : n ≤ w) (old sig : BitVec w)
include fits

theorem getLsbD_merge (shift : Nat) {j : Nat} (inside : j < w) :
    ((old &&& ~~~(signalMask w n <<< shift)) ||| ((sig &&& signalMask w n) <<< shift)).getLsbD j =
      if shift ≤ j ∧ j < shift + n then sig.getLsbD (j - shift) else old.getLsbD j := by
  simp only [getLsbD_or, getLsbD_and, getLsbD_not, getLsbD_shiftLeft,
    getLsbD_signalMask w n _ fits, inside]
  by_cases below : j < shift
  · have above : ¬ shift ≤ j := by omega
    simp [below, above]
  · have selected : j - shift < n ↔ shift ≤ j ∧ j < shift + n := by omega
    split <;> simp [*]

theorem getLsbD_mergeSpill (written : Nat) {i : Nat} (inside : i < w) :
    ((old &&& ~~~(signalMask w n >>> written)) |||
        ((sig &&& signalMask w n) >>> written)).getLsbD i =
      if written + i < n then sig.getLsbD (written + i) else old.getLsbD i := by
  simp only [getLsbD_or, getLsbD_and, getLsbD_not, getLsbD_ushiftRight,
    getLsbD_signalMask w n _ fits]
  split <;> simp [*]

end Merge

section

variable (w : Nat) (pdu : Memory) (bitPosition n : Nat) (endian : SignalEndianess)
variable (bytes : w % 8 = 0) (word : 8 < w) (fits : n ≤ w)
include bytes word fits

variable {lsb : Nat}

theorem getLsbD_readWord (at_lsb : lsbIndex endian bitPosition n = lsb) (i : Nat) :
    (readWord w pdu bitPosition n endian).getLsbD i = (decide (i < n) &&
      (pdu (laneAt endian lsb ((lsb % 8 + i) / 8))).getLsbD ((lsb % 8 + i) % 8)) := by
  simp only [readWord, at_lsb, getLsbD_and, getLsbD_signalMask w n i fits, Bool.and_comm]
  by_cases below : i < n
  · by_cases low : lsb % 8 + i < w
    · -- the bit comes from the word; what is added from the spill byte is higher
      have before : i < w - lsb % 8 := by omega
      rw [← getLsbD_load_pduLanes endian w lsb pdu low bytes]
      split <;> simp [before]
    · have spills : w - lsb % 8 < n := by omega
      have lane : (lsb % 8 + i) / 8 = w / 8 := by omega
      have bit : i - (w - lsb % 8) = (lsb % 8 + i) % 8 := by omega
      have after : ¬ i < w - lsb % 8 := by omega
      have outside : (load pdu (pduLanes endian w lsb) : BitVec w).getLsbD (lsb % 8 + i) = false :=
        getLsbD_of_ge _ _ (by omega)
      rw [if_pos spills, getLsbD_or, getLsbD_ushiftRight, outside, lane, spillByte_eq,
        getLsbD_shiftLeft, getLsbD_setWidth, bit]
      have inWord : i < w ∧ (lsb % 8 + i) % 8 < w := by omega
      simp only [after, inWord, decide_true, decide_false, Bool.not_false, Bool.true_and,
        Bool.false_or]
  · simp [below]

theorem getLsbD_writeWord (sigVal : BitVec w)
    (at_lsb : lsbIndex endian bitPosition n = lsb) (k b : Nat) (low : b < 8) :
    ((writeWord w sigVal pdu bitPosition n endian).1 (laneAt endian lsb k)).getLsbD b =
      if lsb % 8 ≤ 8 * k + b ∧ 8 * k + b < lsb % 8 + n then sigVal.getLsbD (8 * k + b - lsb % 8)
      else (pdu (laneAt endian lsb k)).getLsbD b := by
  simp only [writeWord, at_lsb, spillByte_eq]
  by_cases lane : k < w / 8
  · -- a lane of the word, which the update of the spill byte does not meet
    have inside : 8 * k + b < w := by omega
    have apart : laneAt endian lsb k ≠ laneAt endian lsb (w / 8) := fun same => by
      have := laneAt_injective endian lsb same
      omega
    have here : (8 * k + b) / 8 = k ∧ (8 * k + b) % 8 = b := by omega
    have stored := (getLsbD_store_pduLanes endian w lsb pdu _ lane low).trans
      (getLsbD_merge fits (load pdu (pduLanes endian w lsb)) sigVal (lsb % 8) inside)
    rw [getLsbD_load_pduLanes endian w lsb pdu inside bytes, here.1, here.2] at stored
    split
    · exact (congrArg (BitVec.getLsbD · b) (update_of_ne apart ..)).trans stored
    · exact stored
  · have outside (v : BitVec w) := store_pduLanes_of_ge endian w lsb pdu v (not_lt.mp lane)
    by_cases spill : k = w / 8 ∧ w - lsb % 8 < n
    · obtain ⟨rfl, spills⟩ := spill
      have inside : b < w := by omega
      have place : 8 * (w / 8) + b - lsb % 8 = w - lsb % 8 + b := by omega
      have same : w - lsb % 8 + b < n ↔
          lsb % 8 ≤ 8 * (w / 8) + b ∧ 8 * (w / 8) + b < lsb % 8 + n := by omega
      simp only [if_pos spills, update_self]
      rw [getLsbD_setWidth, getLsbD_mergeSpill fits _ _ _ inside, outside, place]
      simp [same, low, inside]
    · have above : ¬ (lsb % 8 ≤ 8 * k + b ∧ 8 * k + b < lsb % 8 + n) := by omega
      split
      next spills =>
        refine congrArg (BitVec.getLsbD · b)
          ((update_of_ne (fun same => ?_) ..).trans (outside _))
        exact spill ⟨laneAt_injective endian lsb same, spills⟩
      next => exact congrArg (BitVec.getLsbD · b) (outside _)

omit bytes word fits in
theorem writeWord_frame (sigVal : BitVec w) (at_lsb : lsbIndex endian bitPosition n = lsb) {a : Int}
    (apart : ∀ k, a ≠ laneAt endian lsb k) :
    (writeWord w sigVal pdu bitPosition n endian).1 a = pdu a := by
  have stored (v : BitVec w) : store pdu (pduLanes endian w lsb) v a = pdu a := by
    refine store_frame _ _ _ _ fun member => ?_
    rw [pduLanes_eq] at member
    obtain ⟨k, -, here⟩ := mem_map.mp member
    exact apart k here.symm
  simp only [writeWord, at_lsb]
  split
  · exact (update_of_ne (spillByte_eq endian w lsb ▸ apart (w / 8)) ..).trans (stored _)
  · exact stored _

theorem writeWord_changed (sigVal : BitVec w) :
    (writeWord w sigVal pdu bitPosition n endian).2 = false ↔
      (writeWord w sigVal pdu bitPosition n endian).1 = pdu := by
  generalize at_lsb : lsbIndex endian bitPosition n = lsb
  have stored (v : BitVec w) : store pdu (pduLanes endian w lsb) v = pdu ↔
      v = load pdu (pduLanes endian w lsb) :=
    store_eq_self_iff _ _ (nodup_pduLanes endian w lsb) v (by simp [pduLanes_eq]; omega)
  have outside (v : BitVec w) := store_pduLanes_of_ge endian w lsb pdu v le_rfl
  simp only [writeWord, at_lsb, spillByte_eq, outside, spillChanged_eq]
  split
  next spills =>
    generalize at_spill : pdu (laneAt endian lsb (w / 8)) = old
    have bits (i : Nat) := getLsbD_mergeSpill fits (old.setWidth w) sigVal (w - lsb % 8) (i := i)
    generalize (old.setWidth w &&& _) ||| _ = new at bits ⊢
    -- less than a byte of the signal is left for the spill byte
    have narrow : new = old.setWidth w ↔ new.setWidth 8 = old := by
      constructor
      · rintro rfl
        rw [setWidth_setWidth (by omega), setWidth_eq]
      · intro same
        apply eq_of_getLsbD_eq
        intro i inside
        by_cases low : i < 8
        · rw [← same]
          simp [low, inside]
        · rw [bits i inside, if_neg (by omega)]
    generalize (load pdu _ &&& _) ||| _ = merged
    have apart : (∀ x, x ≠ laneAt endian lsb (w / 8) →
        store pdu (pduLanes endian w lsb) merged x = pdu x) ↔
        merged = load pdu (pduLanes endian w lsb) := by
      rw [← stored]
      refine ⟨fun same => funext fun x => ?_, fun same x _ => congrFun same x⟩
      by_cases spill : x = laneAt endian lsb (w / 8)
      · rw [spill, outside]
      · exact same x spill
    rw [update_eq_iff, at_spill, apart, ← narrow]
    by_cases same : new = old.setWidth w <;> simp [same]
  next => simp [stored]

theorem readWord_writeWord (sigVal : BitVec w) :
    readWord w (writeWord w sigVal pdu bitPosition n endian).1 bitPosition n endian =
      (sigVal.setWidth n).setWidth w := by
  apply eq_of_getLsbD_eq
  intro i inside
  rw [getLsbD_readWord w _ bitPosition n endian bytes word fits rfl]
  simp only [getLsbD_setWidth, inside, decide_true, Bool.true_and]
  by_cases below : i < n
  · have place : 8 * ((lsbIndex endian bitPosition n % 8 + i) / 8) +
        (lsbIndex endian bitPosition n % 8 + i) % 8 = lsbIndex endian bitPosition n % 8 + i := by
      omega
    have own : lsbIndex endian bitPosition n % 8 ≤ lsbIndex endian bitPosition n % 8 + i ∧
        lsbIndex endian bitPosition n % 8 + i < lsbIndex endian bitPosition n % 8 + n := by omega
    rw [getLsbD_writeWord w pdu bitPosition n endian bytes word fits sigVal rfl _ _
      (Nat.mod_lt _ (by decide)), place, if_pos own, Nat.add_sub_cancel_left]
  · simp [below]

end

variable {w : Nat}

private theorem getLsbD_signmask (w n i : Nat) (positive : 1 ≤ n) (fits : n ≤ w) (inside : i < w) :
    (~~~(signalMask w n >>> 1)).getLsbD i = decide (n - 1 ≤ i) := by
  have shifted : decide (1 + i < n) = !decide (n - 1 ≤ i) := by
    rw [← decide_not]
    apply decide_eq_decide.mpr
    omega
  simp [getLsbD_signalMask w n _ fits, inside, shifted]

variable {n t : Nat}

private theorem signmask_pos_iff (x : BitVec n) (positive : 1 ≤ n) (fits : n ≤ w) :
    0#w < x.setWidth w &&& ~~~(signalMask w n >>> 1) ↔ x.msb = true := by
  rw [msb_eq_getLsbD_last, pos_iff_ne_zero]
  constructor
  · intro nonzero
    by_contra clear
    apply nonzero
    apply eq_of_getLsbD_eq
    intro i inside
    simp only [getLsbD_and, getLsbD_signmask w n i positive fits inside]
    by_cases high : n - 1 ≤ i
    · -- above the top bit the reduced word is zero, at the top bit by assumption
      rcases Nat.eq_or_lt_of_le high with same | above
      · subst same
        simp [Bool.eq_false_iff.mpr clear]
      · simp [getLsbD_of_ge x i (by omega)]
    · simp [high]
  · intro set zero
    have bit := congrArg (fun y => BitVec.getLsbD y (n - 1)) zero
    simp only [getLsbD_and, getLsbD_signmask w n (n - 1) positive fits (by omega),
      getLsbD_setWidth, set] at bit
    have inside : n - 1 < w := by omega
    simp [inside] at bit

theorem addSignBits_setWidth (x : BitVec n) (positive : 1 ≤ n) (fits : n ≤ w) :
    addSignBits n (x.setWidth w) = x.signExtend w := by
  unfold addSignBits
  simp only [signmask_pos_iff x positive fits]
  split
  next negative =>
    apply eq_of_getLsbD_eq
    intro i inside
    simp only [getLsbD_signExtend, getLsbD_or, getLsbD_setWidth, inside,
      getLsbD_signmask w n i positive fits inside, negative]
    rw [msb_eq_getLsbD_last] at negative
    by_cases top : n - 1 ≤ i
    · rcases Nat.eq_or_lt_of_le top with rfl | above
      · simp [negative]
      · have beyond : ¬ i < n := by omega
        simp [top, beyond]
    · have below : i < n := by omega
      simp [top, below]
  next => rw [signExtend_eq_setWidth_of_msb_false (Bool.eq_false_iff.mpr ‹_›)]

theorem loadObject_storeObject (host : HostOrder) (ptr : Memory) (v : BitVec w)
    (bytes : w % 8 = 0) : loadObject host w (storeObject host ptr v) = v := by
  cases host
  · exact load_store ptr _ (nodup_ascending _ _) v (by simp; omega)
  · exact load_store ptr _ (nodup_descending _ _) v (by simp; omega)

private theorem setWidth_signExtend (x : BitVec n) (narrow : t ≤ w) :
    (x.signExtend w).setWidth t = x.signExtend t := by
  apply eq_of_getLsbD_eq
  intro i inside
  have wide : i < w := by omega
  simp only [getLsbD_setWidth, getLsbD_signExtend, wide, decide_true, Bool.true_and]

section

variable (t : SignalType) (n : Nat) (v : BitVec t.width)

/-- The value the claimed round trip returns: reduced to `n` bits, then extended back to the
object's width with the sign the type has. -/
def SignalType.reduce : BitVec t.width :=
  if t.isSigned then (v.setWidth n).signExtend t.width else (v.setWidth n).setWidth t.width

/-- The values of a type that `n` bits hold. -/
def SignalType.representable : Prop :=
  if t.isSigned then -(2 ^ (n - 1) : Int) ≤ v.toInt ∧ v.toInt < 2 ^ (n - 1) else v.toNat < 2 ^ n

end

theorem reduce_of_representable (t : SignalType) (n : Nat) (v : BitVec t.width) (positive : 1 ≤ n)
    (fits : n ≤ t.width) (holds : t.representable n v) : t.reduce n v = v := by
  unfold representable at holds
  unfold reduce
  split at holds
  next signed =>
    rw [if_pos signed]
    apply eq_of_toInt_eq
    rw [toInt_signExtend_of_le fits, ← signExtend_eq_setWidth_of_le v fits,
      toInt_signExtend_eq_toInt_bmod_of_le v fits]
    have double : (2 ^ n : Int) = 2 * 2 ^ (n - 1) := by
      rw [Int.mul_comm, ← Int.pow_succ, Nat.succ_eq_add_one, Nat.sub_add_cancel positive]
    apply Int.bmod_eq_of_le_mul_two
    · push_cast
      omega
    · push_cast
      omega
  next unsigned =>
    rw [if_neg unsigned]
    apply eq_of_toNat_eq
    rw [toNat_setWidth, toNat_setWidth, Nat.mod_eq_of_lt holds, Nat.mod_eq_of_lt v.isLt]

private theorem narrow_signed (v : BitVec t) (narrow : t ≤ 32) (positive : 1 ≤ n) (fits : n ≤ t) :
    (addSignBits n (((v.setWidth 32).setWidth n).setWidth 32)).setWidth t =
      (v.setWidth n).signExtend t := by
  rw [setWidth_setWidth (w := n) (by omega), addSignBits_setWidth _ positive (by omega),
    setWidth_signExtend _ narrow]

private theorem narrow_unsigned (v : BitVec t) (narrow : t ≤ 32) :
    (((v.setWidth 32).setWidth n).setWidth 32).setWidth t = (v.setWidth n).setWidth t := by
  rw [setWidth_setWidth (w := n) (by omega), setWidth_setWidth (by omega)]

theorem loadObject_read_write (host : HostOrder) (pdu signal out : Memory) (t : SignalType)
    (v : BitVec t.width) (bitPosition n : Nat) (endian : SignalEndianess) (integer : t.isInteger)
    (converted : endian ≠ .comOpaque) (positive : 1 ≤ n) (fits : n ≤ t.width) :
    loadObject host t.width (readSignalDataFromPdu host
      (writeSignalDataToPdu host (storeObject host signal v) t pdu bitPosition n endian).1
      bitPosition n endian t out) = t.reduce n v := by
  have trip32 (x : BitVec 32) (fits : n ≤ 32) :=
    readWord_writeWord 32 pdu bitPosition n endian rfl (by decide) fits x
  have trip64 (x : BitVec 64) (fits : n ≤ 64) :=
    readWord_writeWord 64 pdu bitPosition n endian rfl (by decide) fits x
  cases t <;> simp only [width] at v fits ⊢ <;>
    simp only [isInteger, decide_true, decide_false, ne_eq, reduceCtorEq,
      not_false_eq_true, not_true, Bool.and_true, Bool.and_false] at integer <;>
    simp only [readSignalDataFromPdu, readSignalDataFromPdu64Bits, writeSignalDataToPdu,
      writeSignalDataToPdu64Bits, converted, reduceCtorEq, or_false, not_false_eq_true, and_true,
      and_false, not_true, if_true, if_false, ne_eq]
  all_goals rw [loadObject_storeObject host _ _ rfl, loadObject_storeObject host _ _ rfl]
  case comBoolean | comUint8 | comUint16 =>
    rw [trip32 _ (by omega)]
    exact narrow_unsigned v (by decide)
  case comSint8 | comSint16 =>
    rw [trip32 _ (by omega)]
    exact narrow_signed v (by decide) positive fits
  case comUint32 => exact trip32 v fits
  case comSint32 =>
    rw [trip32 v fits]
    exact addSignBits_setWidth _ positive fits
  case comUint64 => exact trip64 v fits
  case comSint64 =>
    rw [trip64 v fits]
    exact addSignBits_setWidth _ positive fits

/-- **Signal packing round trip**: whatever the I-PDU and the memory around it hold, a signal
written at a bit position and read back there is the written value reduced modulo `2 ^ n` and
extended to the width of its type, and it is the written value when `n` bits represent it. -/
theorem signal_round_trip (host : HostOrder) (pdu signal out : Memory) (t : SignalType)
    (v : BitVec t.width) (bitPosition n : Nat) (endian : SignalEndianess)
    (integer : t.isInteger = true) (converted : endian ≠ .comOpaque) (positive : 1 ≤ n)
    (fits : n ≤ t.width) :
    let written := (writeSignalDataToPdu host (storeObject host signal v) t pdu bitPosition n
      endian).1
    let result := loadObject host t.width
      (readSignalDataFromPdu host written bitPosition n endian t out)
    result = t.reduce n v ∧ (t.representable n v → result = v) := by
  intro written result
  have reduced : result = t.reduce n v :=
    loadObject_read_write host pdu signal out t v bitPosition n endian integer converted positive
      fits
  refine ⟨reduced, fun holds => ?_⟩
  rw [reduced, reduce_of_representable t n v positive fits holds]

/-- A 12-bit signed signal at bit 5 of a big-endian I-PDU, spread over three bytes. -/
theorem signal_round_trip_sint16 :
    let written := (writeSignalDataToPdu .littleEndianHost
      (storeObject .littleEndianHost (fun _ => 0) (0xF85#16)) .comSint16 (fun _ => 0xFF) 5 12
      .comBigEndian).1
    let result := loadObject .littleEndianHost 16
      (readSignalDataFromPdu .littleEndianHost written 5 12 .comBigEndian .comSint16 (fun _ => 0))
    result = reduce .comSint16 12 0xF85#16 :=
  (signal_round_trip .littleEndianHost (fun _ => 0xFF) (fun _ => 0) (fun _ => 0) .comSint16
    0xF85#16 5 12 .comBigEndian rfl (by decide) (by decide) (by decide)).1

end Com
