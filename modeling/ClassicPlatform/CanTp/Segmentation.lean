import ClassicPlatform.CanTp.Types

/-!
# Segmentation of an SDU

Which bytes of an SDU each frame of a classic CAN transfer carries, and what the
frame looks like on the bus. Neither end of the transfer is mentioned here: the
sender produces these frames and the receiver takes them apart.
-/
namespace CanTp

open List

section Cuts

variable (format : AddressingFormat) (total : Nat)

/-- What a single frame can carry, and also a consecutive frame. -/
def AddressingFormat.payload : AddressingFormat → Nat
  | .canTpStandard => 7
  | .canTpExtended => 6

/-- The payload of the frame a transfer begins with. -/
def beginning : Nat :=
  if total ≤ format.payload then total else format.payload - 1

/-- How many bytes the first frames of a transfer carry together. -/
def carried : Nat → Nat
  | 0 => 0
  | n + 1 => min total (beginning format total + n * format.payload)

def frameCount : Nat :=
  1 + (total - beginning format total + (format.payload - 1)) / format.payload

/-- The number of address and PCI bytes in front of a frame's payload. -/
def headerBytes (n : Nat) : Nat :=
  format.tpciOffset + if n = 0 ∧ ¬ total ≤ format.payload then 2 else 1

def pciByte (n : Nat) : Byte :=
  if n ≠ 0 then BitVec.ofNat 8 (n &&& 0x0F) + 0x20#8
  else if total ≤ format.payload then 0x0F#8 &&& BitVec.ofNat 8 total
  else 0x10#8 ||| BitVec.ofNat 8 ((total &&& 0xF00) >>> 8)

variable {format total}

theorem frameCount_pos : 0 < frameCount format total := Nat.lt_add_right _ Nat.one_pos

theorem frameCount_eq_one : frameCount format total = 1 ↔ total ≤ format.payload := by
  unfold frameCount beginning
  by_cases single : total ≤ format.payload
  · refine iff_of_true ?_ single
    rw [if_pos single]
    cases format <;> simp only [AddressingFormat.payload] <;> omega
  · refine iff_of_false ?_ single
    rw [if_neg single]
    cases format <;> simp only [AddressingFormat.payload] at single ⊢ <;> omega

theorem frameCount_lt (most : total ≤ 4095) : frameCount format total < 65536 := by
  unfold frameCount
  have share : (total - beginning format total + (format.payload - 1)) / format.payload ≤
      total + format.payload := Nat.le_trans (Nat.div_le_self _ _) (by omega)
  cases format <;> simp only [AddressingFormat.payload] at share ⊢ <;> omega

variable {n : Nat}

theorem carried_lt_iff (later : 0 < n) :
    carried format total n < total ↔ n < frameCount format total := by
  obtain ⟨n, rfl⟩ := Nat.exists_eq_add_of_lt later
  unfold frameCount beginning
  simp only [carried, beginning]
  by_cases single : total ≤ format.payload
  · cases format <;> simp only [AddressingFormat.payload] <;> omega
  · cases format <;> simp only [AddressingFormat.payload] at single ⊢ <;> omega

theorem carried_le (n : Nat) : carried format total n ≤ total := by
  cases n with
  | zero => exact Nat.zero_le _
  | succ n => exact Nat.min_le_left _ _

theorem carried_frameCount : carried format total (frameCount format total) = total := by
  refine Nat.le_antisymm (carried_le _) (Nat.not_lt.mp fun less => ?_)
  exact Nat.lt_irrefl _ ((carried_lt_iff frameCount_pos).mp less)

theorem carried_succ (later : 0 < n) :
    carried format total (n + 1) =
      carried format total n + min format.payload (total - carried format total n) := by
  obtain ⟨n, rfl⟩ := Nat.exists_eq_add_of_lt later
  simp only [carried]
  cases format <;> simp only [AddressingFormat.payload] <;> omega

theorem carried_one : carried format total 1 = beginning format total := by
  have within : beginning format total ≤ total := by
    unfold beginning
    split <;> omega
  simp [carried, Nat.min_eq_right within]

theorem frames_left (later : 0 < n) :
    (total - carried format total n + (format.payload - 1)) / format.payload =
      frameCount format total - n := by
  obtain ⟨n, rfl⟩ := Nat.exists_eq_add_of_lt later
  unfold frameCount
  simp only [carried]
  cases format <;> simp only [AddressingFormat.payload] <;> omega

theorem carried_mono (n : Nat) : carried format total n ≤ carried format total (n + 1) := by
  cases n with
  | zero => exact Nat.zero_le _
  | succ n =>
    rw [carried_succ (Nat.succ_pos n)]
    exact Nat.le_add_right _ _

theorem carried_lt_succ (some_byte : 0 < total) (left : n < frameCount format total) :
    carried format total n < carried format total (n + 1) := by
  have wide : 1 < format.payload := by cases format <;> decide
  rcases Nat.eq_zero_or_pos n with rfl | later
  · simp only [carried, beginning]
    split <;> omega
  · have missing := (carried_lt_iff later).mpr left
    rw [carried_succ later]
    omega

end Cuts

section Frames

variable (format : AddressingFormat) (address : Byte) (sdu : List Byte)

/-- The frame number `n` of the transfer on the bus, padded or not. -/
structure Carries (n : Nat) (frame : List Byte) : Prop where
  short : frame.length ≤ 8
  whole : headerBytes format sdu.length n +
    (carried format sdu.length (n + 1) - carried format sdu.length n) ≤ frame.length
  target : format = .canTpExtended → frame.getD 0 0 = address
  pci : frame.getD format.tpciOffset 0 = pciByte format sdu.length n
  low : n = 0 → ¬ sdu.length ≤ format.payload →
    frame.getD (format.tpciOffset + 1) 0 = BitVec.ofNat 8 (sdu.length &&& 0xFF)
  payload : ∀ i < carried format sdu.length (n + 1) - carried format sdu.length n,
    frame.getD (headerBytes format sdu.length n + i) 0 =
      sdu.getD (carried format sdu.length n + i) 0

private theorem pci_nibble : ∀ nibble : Fin 16,
    (0x10#8 ||| BitVec.ofNat 8 nibble) &&& 0x30#8 = 0x10#8 ∧
    ((0x10#8 ||| BitVec.ofNat 8 nibble) &&& 0x0F#8).toNat = nibble ∧
    (BitVec.ofNat 8 nibble + 0x20#8) &&& 0x30#8 = 0x20#8 ∧
    ((BitVec.ofNat 8 nibble + 0x20#8) &&& 0x0F#8).toNat = nibble ∧
    (0x0F#8 &&& BitVec.ofNat 8 nibble) &&& 0x30#8 = 0x00#8 ∧
    ((0x0F#8 &&& BitVec.ofNat 8 nibble) &&& 0x0F#8).toNat = nibble := by
  decide

private theorem low_nibble_lt (n : Nat) : n &&& 0x0F < 16 :=
  Nat.lt_of_le_of_lt Nat.and_le_right (by decide)

private theorem high_nibble (total : Nat) : (total &&& 0xF00) >>> 8 = total / 256 % 16 := by
  rw [Nat.shiftRight_and_distrib, Nat.shiftRight_eq_div_pow]
  exact Nat.and_two_pow_sub_one_eq_mod (total / 256) 4

variable {format address sdu} {n : Nat} {frame : List Byte}

theorem Carries.getFrameType (carries : Carries format address sdu n frame) :
    getFrameType format (.ofList frame) =
      if n ≠ 0 then .consecutiveFrame
      else if sdu.length ≤ format.payload then .singleFrame else .firstFrame := by
  have pci : (Pdu.ofList frame).sduDataPtr format.tpciOffset = pciByte format sdu.length n :=
    carries.pci
  unfold CanTp.getFrameType
  simp only [pci, pciByte]
  by_cases later : n = 0
  · simp only [later, ne_eq, not_true_eq_false, if_false]
    split
    next single =>
      have small : sdu.length < 16 := by
        cases format <;> simp only [AddressingFormat.payload] at single <;> omega
      simp [(pci_nibble ⟨_, small⟩).2.2.2.2.1]
    next =>
      have small := Nat.mod_lt (sdu.length / 256) (show 16 > 0 by decide)
      rw [high_nibble]
      simp only [(pci_nibble ⟨_, small⟩).1]
      rfl
  · simp only [later, ne_eq, not_false_eq_true, if_true, (pci_nibble ⟨_, low_nibble_lt n⟩).2.2.1]
    rfl

theorem Carries.singleLength (carries : Carries format address sdu 0 frame)
    (single : sdu.length ≤ format.payload) :
    getPduLength format .singleFrame (.ofList frame) = sdu.length := by
  have pci : (Pdu.ofList frame).sduDataPtr format.tpciOffset = pciByte format sdu.length 0 :=
    carries.pci
  have short : ¬ (Pdu.ofList frame).sduLength > 8 := Nat.not_lt.mpr carries.short
  have small : sdu.length < 16 := by
    cases format <;> simp only [AddressingFormat.payload] at single <;> omega
  simp only [getPduLength, short, pci, pciByte, single]
  exact (pci_nibble ⟨_, small⟩).2.2.2.2.2

theorem Carries.firstLength (carries : Carries format address sdu 0 frame)
    (segmented : ¬ sdu.length ≤ format.payload) (most : sdu.length ≤ 4095) :
    getPduLength format .firstFrame (.ofList frame) = sdu.length := by
  have pci : (Pdu.ofList frame).sduDataPtr format.tpciOffset = pciByte format sdu.length 0 :=
    carries.pci
  have low : (Pdu.ofList frame).sduDataPtr (format.tpciOffset + 1) =
      BitVec.ofNat 8 (sdu.length &&& 0xFF) := carries.low rfl segmented
  have small := Nat.mod_lt (sdu.length / 256) (show 16 > 0 by decide)
  have byte : sdu.length &&& 0xFF = sdu.length % 256 := Nat.and_two_pow_sub_one_eq_mod _ 8
  simp only [getPduLength, pci, low, pciByte, segmented, ne_eq, not_true_eq_false, if_false]
  rw [high_nibble, (pci_nibble ⟨_, small⟩).2.1, BitVec.toNat_ofNat]
  simp only
  omega

theorem Carries.segmentNumber (carries : Carries format address sdu n frame) (later : n ≠ 0) :
    ((Pdu.ofList frame).sduDataPtr format.tpciOffset &&& 0x0F#8).toNat = n &&& 0x0F := by
  have pci : (Pdu.ofList frame).sduDataPtr format.tpciOffset = pciByte format sdu.length n :=
    carries.pci
  simp only [pci, pciByte, later, ne_eq]
  exact (pci_nibble ⟨_, low_nibble_lt n⟩).2.2.2.1

theorem Carries.take_append (carries : Carries format address sdu n frame) {offset size : Nat}
    (header : offset = headerBytes format sdu.length n)
    (share : size = carried format sdu.length (n + 1) - carried format sdu.length n) :
    sdu.take (carried format sdu.length n) ++
        takeBytes (fun i => (Pdu.ofList frame).sduDataPtr (offset + i)) size =
      sdu.take (carried format sdu.length (n + 1)) := by
  subst header share
  have next := @carried_mono format sdu.length n
  have within := @carried_le format sdu.length (n + 1)
  apply ext_getElem
  · simp only [length_append, length_take, length_takeBytes]
    omega
  · intro i inside bound
    simp only [length_take] at bound
    rw [getElem_append]
    split
    next => simp
    next behind =>
      simp only [length_take] at behind
      have index : i - min (carried format sdu.length n) sdu.length <
          carried format sdu.length (n + 1) - carried format sdu.length n := by omega
      have byte := carries.payload _ index
      simp only [takeBytes, getElem_map, getElem_range, length_take, getElem_take, Pdu.ofList]
      rw [byte, getD_eq_getElem?_getD, List.getElem?_eq_getElem (by omega), Option.getD_some]
      congr 1
      omega

end Frames

end CanTp
