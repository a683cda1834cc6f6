import ClassicPlatform.Com.RoundTrip
import Mathlib.Data.List.Induction

/-!
# Signals of one I-PDU do not disturb each other

A write rewrites whole words, but it changes only the bits that the signal occupies; a read
depends on these bits only.
-/
namespace Com

open ByteLanes Nat

structure Signal where
  signalType : SignalType
  bitPosition : Nat
  bitSize : Nat
  endian : SignalEndianess

namespace Signal

variable (signal : Signal)

/-- Signals that are copied byte by byte. -/
def Copied : Prop := signal.endian = .comOpaque ∨ signal.signalType = .comUint8N
  deriving Decidable

def width : Nat :=
  if signal.signalType ≠ .comUint64 ∧ signal.signalType ≠ .comSint64 then 32 else 64

/-- Copied signals are aligned; others fit the word of their path. -/
def Mapped : Prop :=
  if signal.Copied then
    signal.bitSize % 8 = 0 ∧
      signal.bitPosition % 8 = if signal.endian = .comBigEndian then 7 else 0
  else 0 < signal.bitSize ∧ signal.bitSize ≤ signal.width
  deriving Decidable

/-- Bits are counted up from the position, and down through the bytes in the big-endian case. -/
def bitIndex (i : Nat) : Nat :=
  match signal.endian with
  | .comBigEndian => ((signal.bitPosition ^^^ 7) + i) ^^^ 7
  | _ => signal.bitPosition + i

/-- Bit `b` of byte `a` belongs to the signal. -/
def Occupies (a : Int) (b : Nat) : Prop :=
  ∃ i < signal.bitSize, a = (signal.bitIndex i / 8 : Nat) ∧ b = signal.bitIndex i % 8

variable (host : HostOrder)

def write (data pdu : Memory) : Memory :=
  (writeSignalDataToPdu host data signal.signalType pdu signal.bitPosition signal.bitSize
    signal.endian).1

/-- The flag `*dataChanged` of the write. -/
def changed (data pdu : Memory) : Bool :=
  (writeSignalDataToPdu host data signal.signalType pdu signal.bitPosition signal.bitSize
    signal.endian).2

def read (pdu out : Memory) : Memory :=
  readSignalDataFromPdu host pdu signal.bitPosition signal.bitSize signal.endian
    signal.signalType out

end Signal

theorem xor_seven (x : Nat) : (x ^^^ 7) / 8 = x / 8 ∧ (x ^^^ 7) % 8 = 7 - x % 8 := by
  have low : ∀ r < 8, r ^^^ 7 = 7 - r := by decide
  constructor
  · exact (xor_div_two_pow (n := 3)).trans (Nat.xor_zero _)
  · exact (xor_mod_two_pow (n := 3)).trans (low _ (mod_lt _ (by decide)))

variable {signal : Signal} {host : HostOrder} {a : Int} {b : Nat}

theorem occupies_lane (some_bit : 0 < signal.bitSize) {lsb : Nat}
    (at_lsb : lsbIndex signal.endian signal.bitPosition signal.bitSize = lsb) :
    signal.Occupies a b ↔ b < 8 ∧ ∃ k, a = laneAt signal.endian lsb k ∧ lsb % 8 ≤ 8 * k + b ∧
      8 * k + b < lsb % 8 + signal.bitSize := by
  obtain ⟨signalType, p, n, endian⟩ := signal
  subst at_lsb
  cases endian
  case comBigEndian =>
    simp only [Signal.Occupies, Signal.bitIndex, lsbIndex, bigEndianLsbIndex, laneAt, xor_seven]
      at some_bit ⊢
    generalize p ^^^ 7 = first
    constructor
    · rintro ⟨i, below, rfl, rfl⟩
      exact ⟨by omega, (first + n - 1) / 8 - (first + i) / 8, by omega, by omega, by omega⟩
    · rintro ⟨low, k, rfl, above, below⟩
      exact ⟨n - 1 - (8 * k + b - (7 - (first + n - 1) % 8)), by omega, by omega, by omega⟩
  all_goals
    simp only [Signal.Occupies, Signal.bitIndex, lsbIndex, laneAt]
    constructor
    · rintro ⟨i, below, rfl, rfl⟩
      exact ⟨by omega, (p + i) / 8 - p / 8, by omega, by omega, by omega⟩
    · rintro ⟨low, k, rfl, above, below⟩
      exact ⟨8 * k + b - p % 8, by omega, by omega, by omega⟩

theorem occupies_copied (mapped : signal.Mapped) (copied : signal.Copied) :
    signal.Occupies a b ↔ b < 8 ∧ (signal.bitPosition / 8 : Nat) ≤ a ∧
      a < (signal.bitPosition / 8 : Nat) + (signal.bitSize / 8 : Nat) := by
  rw [Signal.Mapped, if_pos copied] at mapped
  obtain ⟨signalType, p, n, endian⟩ := signal
  have first := xor_seven p
  unfold Signal.Occupies Signal.bitIndex
  constructor
  · cases endian <;> simp only [reduceCtorEq, if_true, if_false, xor_seven] at mapped ⊢ <;>
      (rintro ⟨i, below, rfl, rfl⟩; omega)
  · rintro ⟨low, above, below⟩
    cases endian <;> simp only [reduceCtorEq, if_true, if_false, xor_seven] at mapped above below ⊢
    case comBigEndian =>
      exact ⟨8 * (a - (p / 8 : Nat)).toNat + (7 - b), by omega, by omega, by omega⟩
    all_goals exact ⟨8 * (a - (p / 8 : Nat)).toNat + b, by omega, by omega, by omega⟩

section

variable (mapped : signal.Mapped)
include mapped

theorem Signal.write_word (host : HostOrder) (data : Memory) (words : ¬ signal.Copied) :
    0 < signal.bitSize ∧ ∃ w, w % 8 = 0 ∧ 8 < w ∧ signal.bitSize ≤ w ∧ ∃ sigVal : BitVec w,
      ∀ pdu, writeSignalDataToPdu host data signal.signalType pdu signal.bitPosition
        signal.bitSize signal.endian =
          writeWord w sigVal pdu signal.bitPosition signal.bitSize signal.endian := by
  rw [Signal.Mapped, if_neg words, Signal.width] at mapped
  refine ⟨mapped.1, ?_⟩
  unfold writeSignalDataToPdu
  simp only [if_neg (show ¬ (signal.endian = _ ∨ _) from words)]
  split
  next narrow =>
    rw [if_pos narrow] at mapped
    exact ⟨32, rfl, by decide, mapped.2, _, fun _ => rfl⟩
  next wide =>
    rw [if_neg wide] at mapped
    exact ⟨64, rfl, by decide, mapped.2, _, fun _ => rfl⟩

theorem Signal.write_bit (host : HostOrder) (data : Memory) (low : b < 8) : ∃ bit, ∀ pdu,
    (signal.Occupies a b → (signal.write host data pdu a).getLsbD b = bit) ∧
    (¬ signal.Occupies a b → (signal.write host data pdu a).getLsbD b = (pdu a).getLsbD b) := by
  by_cases copied : signal.Copied
  · refine ⟨(data (0 + (a - (signal.bitPosition / 8 : Nat)))).getLsbD b, fun pdu => ?_⟩
    unfold Signal.write writeSignalDataToPdu
    rw [occupies_copied mapped copied, if_pos (show signal.endian = _ ∨ _ from copied)]
    simp only [memcpy, low, true_and]
    exact ⟨fun inside => by rw [if_pos inside], fun outside => by rw [if_neg outside]⟩
  · obtain ⟨some_bit, w, bytes, word, fits, sigVal, written⟩ :=
      signal.write_word mapped host data copied
    generalize at_lsb : lsbIndex signal.endian signal.bitPosition signal.bitSize = lsb
    simp only [occupies_lane some_bit at_lsb, Signal.write, written, low, true_and]
    by_cases lane : ∃ k, a = laneAt signal.endian lsb k
    · obtain ⟨k, rfl⟩ := lane
      refine ⟨sigVal.getLsbD (8 * k + b - lsb % 8), fun pdu => ?_⟩
      rw [getLsbD_writeWord w _ _ _ _ bytes word fits _ at_lsb _ _ low]
      refine ⟨?_, fun outside => if_neg fun inside => outside ⟨k, rfl, inside⟩⟩
      rintro ⟨k', same, inside⟩
      exact if_pos (laneAt_injective _ _ same ▸ inside)
    · refine ⟨false, fun pdu => ⟨fun ⟨k, here, _⟩ => absurd ⟨k, here⟩ lane, fun _ => ?_⟩⟩
      rw [writeWord_frame _ _ _ _ _ _ at_lsb fun k here => lane ⟨k, here⟩]

theorem Signal.read_own {pdu pdu' : Memory} (out : Memory)
    (same : ∀ a b, signal.Occupies a b → (pdu a).getLsbD b = (pdu' a).getLsbD b) :
    signal.read host pdu out = signal.read host pdu' out := by
  by_cases copied : signal.Copied
  · unfold Signal.read readSignalDataFromPdu
    simp only [if_pos (show signal.endian = _ ∨ _ from copied)]
    funext x
    unfold memcpy
    split
    next inside =>
      apply BitVec.eq_of_getLsbD_eq
      intro b low
      exact same _ _ ((occupies_copied mapped copied).mpr ⟨low, by omega, by omega⟩)
    next => rfl
  · rw [Signal.Mapped, if_neg copied] at mapped
    have words {w : Nat} (bytes : w % 8 = 0) (word : 8 < w) (fits : signal.bitSize ≤ w) :
        readWord w pdu signal.bitPosition signal.bitSize signal.endian =
          readWord w pdu' signal.bitPosition signal.bitSize signal.endian := by
      apply BitVec.eq_of_getLsbD_eq
      intro i inside
      rw [getLsbD_readWord w _ _ _ _ bytes word fits rfl,
        getLsbD_readWord w _ _ _ _ bytes word fits rfl]
      by_cases below : i < signal.bitSize
      · rw [same _ _ ((occupies_lane mapped.1 rfl).mpr
          ⟨mod_lt _ (by decide), _, rfl, by omega, by omega⟩)]
      · simp [below]
    unfold Signal.width at mapped
    unfold Signal.read readSignalDataFromPdu readSignalDataFromPdu64Bits
    simp only [if_neg (show ¬ (signal.endian = _ ∨ _) from copied)]
    split
    next narrow =>
      rw [if_pos narrow] at mapped
      simp [words rfl (by decide) mapped.2]
    next wide =>
      rw [if_neg wide] at mapped
      simp [words rfl (by decide) mapped.2]

end

/-- For signals that have no bit in common, a write changes no bit outside its own signal, does
not change what is read of the other one, and commutes with a write of it. -/
theorem signals_isolated (host : HostOrder) (first second : Signal) (mapped : first.Mapped)
    (mapped' : second.Mapped) (apart : ∀ a b, first.Occupies a b → ¬ second.Occupies a b)
    (data data' pdu out : Memory) :
    (∀ a b, b < 8 → ¬ first.Occupies a b →
      (first.write host data pdu a).getLsbD b = (pdu a).getLsbD b) ∧
    second.read host (first.write host data pdu) out = second.read host pdu out ∧
    second.write host data' (first.write host data pdu) =
      first.write host data (second.write host data' pdu) := by
  have frame (a : Int) (b : Nat) (low : b < 8) (outside : ¬ first.Occupies a b) :
      (first.write host data pdu a).getLsbD b = (pdu a).getLsbD b := by
    obtain ⟨bit, bits⟩ := first.write_bit mapped host data low (a := a)
    exact (bits pdu).2 outside
  refine ⟨frame, second.read_own mapped' out fun a b own => ?_, ?_⟩
  · have low : b < 8 := by
      obtain ⟨i, -, -, rfl⟩ := own
      exact mod_lt _ (by decide)
    exact frame a b low fun other => apart a b other own
  · funext a
    apply BitVec.eq_of_getLsbD_eq
    intro b low
    obtain ⟨bit, bits⟩ := first.write_bit mapped host data low (a := a)
    obtain ⟨bit', bits'⟩ := second.write_bit mapped' host data' low (a := a)
    by_cases own : first.Occupies a b
    · rw [(bits' _).2 (apart a b own), (bits _).1 own, (bits _).1 own]
    · rw [(bits _).2 own]
      by_cases other : second.Occupies a b
      · rw [(bits' _).1 other, (bits' _).1 other]
      · rw [(bits' _).2 other, (bits' _).2 other, (bits _).2 own]

/-- A 12-bit big-endian signal from bit 5 on and a 4-bit little-endian one beside it. -/
theorem mixed_signals_isolated :
    let first : Signal := ⟨.comSint16, 5, 12, .comBigEndian⟩
    let second : Signal := ⟨.comUint8, 16, 4, .comLittleEndian⟩
    second.read .littleEndianHost (first.write .littleEndianHost (fun _ => 0xFF) fun _ => 0)
      (fun _ => 0) = second.read .littleEndianHost (fun _ => 0) (fun _ => 0) := by
  have apart : ∀ i < 12, ∀ j < 4, ((5 ^^^ 7) + i) ^^^ 7 ≠ 16 + j := by decide
  refine (signals_isolated .littleEndianHost _ _ (by decide) (by decide) ?_ _ (fun _ => 0) _ _).2.1
  rintro a b ⟨i, below, rfl, rfl⟩ ⟨j, below', byte, bit⟩
  have := apart i below j below'
  simp only [Signal.bitIndex] at byte bit
  omega

/-- The flag tells whether a bit of the signal changes, and whether anything changes at all. -/
theorem data_changed_exact (host : HostOrder) (signal : Signal) (mapped : signal.Mapped)
    (data pdu : Memory) :
    let written := signal.write host data pdu
    (signal.changed host data pdu = true ↔
      ∃ a b, signal.Occupies a b ∧ (written a).getLsbD b ≠ (pdu a).getLsbD b) ∧
    (signal.changed host data pdu = true ↔ written ≠ pdu) := by
  intro written
  have flag : signal.changed host data pdu = false ↔ written = pdu := by
    by_cases copied : signal.Copied
    · simp only [written, Signal.changed, Signal.write, writeSignalDataToPdu, memDiffers, memcpy,
        if_pos (show signal.endian = _ ∨ _ from copied), funext_iff, List.any_eq_false,
        List.mem_range, bne_iff_ne, ne_eq, not_not]
      generalize (signal.bitPosition / 8 : Nat) = first
      constructor
      · intro same x
        split
        next inside =>
          have byte := same (x - first).toNat (by omega)
          rw [Int.toNat_of_nonneg (by omega), add_sub_cancel] at byte
          rw [zero_add, byte]
        next => rfl
      · intro same i below
        have byte := same (first + i)
        rw [if_pos (by omega), zero_add, add_sub_cancel_left] at byte
        exact byte.symm
    · obtain ⟨-, w, bytes, word, fits, sigVal, path⟩ := signal.write_word mapped host data copied
      simp only [written, Signal.changed, Signal.write, path]
      exact writeWord_changed w pdu _ _ _ bytes word fits sigVal
  have differs : (∃ a b, signal.Occupies a b ∧ (written a).getLsbD b ≠ (pdu a).getLsbD b) ↔
      written ≠ pdu := by
    constructor
    · rintro ⟨a, b, -, differs⟩ same
      exact differs (by rw [same])
    · contrapose!
      intro same
      funext a
      apply BitVec.eq_of_getLsbD_eq
      intro b low
      by_cases own : signal.Occupies a b
      · exact same a b own
      · obtain ⟨bit, bits⟩ := signal.write_bit mapped host data low (a := a)
        exact (bits pdu).2 own
  rw [differs, and_self, ne_eq, ← flag, Bool.not_eq_false]

/-- Only the fifth byte of a 32-bit signal from bit 4 on changes. -/
theorem spill_change_flagged :
    let signal : Signal := ⟨.comUint32, 4, 32, .comLittleEndian⟩
    signal.write .littleEndianHost (fun a => if a = 3 then 0x10 else 0) (fun _ => 0) ≠
      fun _ => 0 :=
  (data_changed_exact _ _ (by decide) _ _).2.mp (by decide)

/-! ## The I-PDU as a store -/

/-- What a read makes of the data that was written: the bytes of a copied signal, the value reduced
to the bits of the signal otherwise. -/
def Signal.delivered (host : HostOrder) (signal : Signal) (data out : Memory) : Memory :=
  if signal.Copied then memcpy out 0 data 0 (signal.bitSize / 8)
  else if signal.signalType.isInteger then
    storeObject host out
      (signal.signalType.reduce signal.bitSize (loadObject host signal.signalType.width data))
  else out

private theorem read_stores (host : HostOrder) (pdu out : Memory) (p n : Nat) {t : SignalType}
    {endian : SignalEndianess} (integer : t.isInteger) (converted : endian ≠ .comOpaque) :
    ∃ v : BitVec t.width, readSignalDataFromPdu host pdu p n endian t out =
      storeObject host out v := by
  cases t <;> simp only [SignalType.isInteger, reduceCtorEq, ne_eq, not_true, decide_false,
    Bool.false_and, Bool.and_false, Bool.false_eq_true] at integer <;>
    exact ⟨_, by simp [readSignalDataFromPdu, readSignalDataFromPdu64Bits, converted]; rfl⟩

private theorem write_loads (host : HostOrder) (data pdu : Memory) (p n : Nat) {t : SignalType}
    {endian : SignalEndianess} (integer : t.isInteger) (converted : endian ≠ .comOpaque) :
    writeSignalDataToPdu host data t pdu p n endian = writeSignalDataToPdu host
      (storeObject host data (loadObject host t.width data)) t pdu p n endian := by
  cases t <;> simp only [SignalType.isInteger, reduceCtorEq, ne_eq, not_true, decide_false,
    Bool.false_and, Bool.and_false, Bool.false_eq_true] at integer <;>
    simp [writeSignalDataToPdu, writeSignalDataToPdu64Bits, converted, SignalType.width,
      loadObject_storeObject]

theorem Signal.read_write (host : HostOrder) (mapped : signal.Mapped)
    (sized : signal.Copied ∨ signal.bitSize ≤ signal.signalType.width) (data pdu out : Memory) :
    signal.read host (signal.write host data pdu) out = signal.delivered host data out := by
  unfold Signal.delivered
  split
  next copied =>
    unfold Signal.read Signal.write readSignalDataFromPdu writeSignalDataToPdu
    simp only [if_pos (show signal.endian = _ ∨ _ from copied)]
    funext x
    simp only [memcpy]
    split
    next inside => rw [if_pos (by omega), zero_add, zero_add, add_sub_cancel_left]
    next => rfl
  next words =>
    have converted : signal.endian ≠ .comOpaque := fun copied => words (.inl copied)
    rw [Signal.Mapped, if_neg words] at mapped
    split
    next integer =>
      obtain ⟨v, stores⟩ := read_stores host (signal.write host data pdu) out signal.bitPosition
        signal.bitSize integer converted
      have reduced := loadObject_read_write host pdu data out signal.signalType
        (loadObject host _ data) signal.bitPosition signal.bitSize signal.endian integer converted
        mapped.1 (sized.resolve_left words)
      rw [← write_loads host data pdu _ _ integer converted] at reduced
      have bytes : signal.signalType.width % 8 = 0 := by cases signal.signalType <;> rfl
      unfold Signal.read Signal.write at *
      rw [stores, loadObject_storeObject host out v bytes] at reduced
      rw [stores, reduced]
    next text =>
      have dynamic : signal.signalType = .comUint8Dyn := by
        cases kind : signal.signalType <;> simp_all [SignalType.isInteger, Signal.Copied]
      simp [Signal.read, readSignalDataFromPdu, dynamic, converted]

/-- Signals without a common bit make an I-PDU a store: after writes in any order, a read delivers
the data of the last write of its signal, or what the first I-PDU holds. -/
theorem reads_give_last_write {ι : Type} [DecidableEq ι] (host : HostOrder) (signals : ι → Signal)
    (mapped : ∀ id, (signals id).Mapped)
    (sized : ∀ id, (signals id).Copied ∨ (signals id).bitSize ≤ (signals id).signalType.width)
    (apart : ∀ id other, id ≠ other → ∀ a b, (signals id).Occupies a b →
      ¬ (signals other).Occupies a b)
    (writes : List (ι × Memory)) (pdu out : Memory) (id : ι) :
    let last := writes.foldl (fun pdu (id, data) => (signals id).write host data pdu) pdu
    let store := writes.foldl (fun store (id, data) => Function.update store id (some data))
      fun _ => none
    (signals id).read host last out =
      match store id with
      | some data => (signals id).delivered host data out
      | none => (signals id).read host pdu out := by
  intro last store
  -- the latest write decides, or leaves the bits of the signal to the earlier ones
  induction writes using List.reverseRecOn with
  | nil => rfl
  | append_singleton earlier write ih =>
    obtain ⟨written, data⟩ := write
    simp only [last, store, List.foldl_append, List.foldl_cons, List.foldl_nil]
    by_cases here : id = written
    · subst here
      rw [Function.update_self]
      exact Signal.read_write host (mapped id) (sized id) data _ out
    · rw [Function.update_of_ne here]
      refine ((signals id).read_own (mapped id) out fun a b own => ?_).trans ih
      have low : b < 8 := by
        obtain ⟨i, -, -, rfl⟩ := own
        exact mod_lt _ (by decide)
      obtain ⟨bit, sets⟩ := (signals written).write_bit (mapped written) host data low (a := a)
      exact (sets _).2 (apart id written here a b own)

/-- Two halves of a byte: the upper one is written twice, with more bits than it has. -/
theorem nibbles_read_back :
    let signals (high : Bool) : Signal := ⟨.comUint8, if high then 4 else 0, 4, .comLittleEndian⟩
    let writes : List (Bool × Memory) :=
      [(true, fun _ => 5), (false, fun _ => 3), (true, fun _ => 0x69)]
    let last := writes.foldl (fun pdu (id, data) =>
        (signals id).write .littleEndianHost data pdu) fun _ => 0
    loadObject .littleEndianHost 8 ((signals true).read .littleEndianHost last fun _ => 0) = 9 := by
  intro signals writes last
  have apart : ∀ id other, id ≠ other → ∀ a b, (signals id).Occupies a b →
      ¬ (signals other).Occupies a b := by
    rintro (_ | _) (_ | _) ne a b ⟨i, below, rfl, rfl⟩ ⟨j, below', byte, bit⟩ <;>
      simp [signals, Signal.bitIndex] at * <;> omega
  have reads := reads_give_last_write .littleEndianHost signals (by decide) (by decide) apart writes
    (fun _ => 0) (fun _ => 0) true
  rw [reads]
  decide

end Com
