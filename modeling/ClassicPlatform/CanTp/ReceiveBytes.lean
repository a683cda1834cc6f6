import ClassicPlatform.Lib.Machine
import ClassicPlatform.CanTp.Receiver

/-!
# Byte accounting of a reception

Which frames a receive channel can take without reading past the frame's end and
without counting more bytes than the transfer has. The condition is on the frame,
the state it meets and the answers of the upper layer; ticks need none.
-/
namespace CanTp

open List Machine Nat SimplexChannel

/-- The frame bytes a call hands over or stores lie inside a frame of this length. -/
def Call.Inside (sduLength : Nat) : Call → Prop
  | .pduRCopyRxData _ (.frame offset) bytes _ => bytes = [] ∨ offset + bytes.length ≤ sduLength
  | .localRxBuffer offset size => offset + size ≤ sduLength
  | _ => True

def AllInside (sduLength : Nat) (calls : List Call) : Prop :=
  ∀ call ∈ calls, call.Inside sduLength

variable (rxConfig : RxNSdu) (rx : SimplexChannel) (pdu : Pdu) (ans : RxAnswers)

/-- `transferTotal - transferCount` does not wrap, now or when the local buffer is handed over. -/
@[mk_iff] structure BytesKept : Prop where
  within : rx.transferCount ≤ rx.transferTotal
  small : rx.transferTotal < 65536
  parked : rx.state = .rxWaitCfSduBuffer ∨ rx.state = .rxWaitSfSduBuffer →
    rx.transferCount + rx.canFrameBuffer.byteCount ≤ rx.transferTotal

/-- The length of the frame an event delivers; a tick delivers none. -/
def RxEvent.sduLength : RxEvent → Nat
  | .rxIndication _ pdu _ => pdu.sduLength
  | .mainFunction _ => 0

def StepKeepsBytes (config : Config) (kind : TaType) (rx : SimplexChannel) (event : RxEvent) :
    Prop :=
  AllInside event.sduLength (rxStep config kind rx event).2 ∧
    BytesKept (rxStep config kind rx event).1

/-- The upper layer takes the first segment of a reception, or asks to wait with it. -/
def RxAnswers.opens : Prop :=
  ans.startOfReception.1 = .bufReqOk ∨ ans.startOfReception.1 = .bufReqEBusy

/-- A single frame whose payload is there; an empty one (CAN FD only) must not be put off
while the local buffer holds the bytes of an earlier frame. -/
def SingleFrameFits : Prop :=
  let pduLength := getPduLength rxConfig.canTpAddressingFormant .singleFrame pdu
  (ans.opens → pduLength = 0 ∨
    singleFrameOffset rxConfig rx.canfdSupport + pduLength ≤ pdu.sduLength) ∧
  (pduLength = 0 → ans.firstResult 0 = .bufReqEBusy → rx.canFrameBuffer.byteCount = 0)

/-- A first frame that is as long as the payload taken from it, for a transfer that needs
that many bytes. -/
def FirstFrameFits : Prop :=
  let payload := firstFramePayload rxConfig rx.canfdSupport
  let pduLength := getPduLength rxConfig.canTpAddressingFormant .firstFrame pdu
  (ans.opens → rxConfig.addressBytes + 2 + payload ≤ pdu.sduLength) ∧
  (ans.firstResult payload = .bufReqOk ∨
    (ans.firstResult payload = .bufReqEBusy ∧ ans.canIfTransmit = .eOk) → payload ≤ pduLength)

/-- The consecutive frame is put into the local buffer. -/
def Parks (size : Nat) (ans : RxAnswers) : Prop :=
  segmentResult rx size ans = .bufReqEBusy ∧ rx.nextFlowControlCount = 1 ∧
    rxConfig.exceedsFrame (sub16 rx.transferTotal rx.transferCount) = true ∧ size < rx.maxSegSize

/-- A consecutive frame with all its header bytes, or one of which no byte is used. -/
def ConsecutiveFrameFits : Prop :=
  let size := currentSegmentSize rxConfig rx pdu
  rxConfig.addressBytes + 1 ≤ pdu.sduLength ∨ size = 0 ∨
    ¬ HandsOver rx size ans ∧ ¬ Parks rxConfig rx size ans

/-- Frames that keep the byte accounting, by the kind of frame and the branch they take. -/
def FrameFits (config : Config) (rx : SimplexChannel) : RxEvent → Prop
  | .rxIndication tpIndex pdu ans =>
    let entry := config.canTpRxIdList tpIndex
    let nSdu := config.canTpNSduList entry.canTpNSduIndex
    let rxConfig := nSdu.canTpRxNSdu
    let rx := rx.setFD nSdu.canTpFDSupport
    config.addressed entry pdu →
      match getFrameType entry.canTpAddressingMode pdu with
      | .singleFrame =>
        singleFrameValid rxConfig rx.canfdSupport pdu → SingleFrameFits rxConfig rx pdu ans
      | .firstFrame =>
        ¬ rxConfig.foreign pdu →
          firstFrameValid config.canTpGeneral rxConfig rx.canfdSupport pdu →
          FirstFrameFits rxConfig rx pdu ans
      | .consecutiveFrame =>
        ¬ rxConfig.foreign pdu → rx.state = .rxWaitConsecutiveFrame →
          (pdu.sduDataPtr rxConfig.addressBytes &&& 0x0F#8).toNat =
            rx.framesHandledCount &&& 0x0F →
          ConsecutiveFrameFits rxConfig rx pdu ans
      | _ => True
  | .mainFunction _ => True

variable {segment : Nat → Byte} {copied : SegmentCopy} {offset size : Nat}

section Inside

variable {rx : SimplexChannel} {ans : RxAnswers} {n : Nat}

/-- A step reads inside a frame and keeps the byte counts. -/
private abbrev KeepsBytes (sduLength : Nat) (outcome : SimplexChannel × List Call) : Prop :=
  AllInside sduLength outcome.2 ∧ BytesKept outcome.1

private theorem allInside_nil : AllInside n [] := forall_mem_nil _

private theorem allInside_append {first second : List Call} :
    AllInside n (first ++ second) ↔ AllInside n first ∧ AllInside n second :=
  forall_mem_append

private theorem abortOngoing_inside (config : Config) (rx : SimplexChannel) :
    AllInside n (abortOngoing config rx) := by
  unfold abortOngoing AllInside
  split <;> simp [Call.Inside]

private theorem sendFlowControlFrame_inside (general : General) (rxConfig : RxNSdu)
    (rx : SimplexChannel) (status : BufReq) :
    AllInside n (sendFlowControlFrame general rxConfig rx status ans).2 := by
  unfold sendFlowControlFrame AllInside
  split <;> simp [Call.Inside]

private theorem finishRx_inside (rx : SimplexChannel) (pduRPduId : Nat) (result : NotifResult) :
    AllInside n (finishRx rx pduRPduId result).2 := by
  simp [finishRx, AllInside, Call.Inside]

private theorem SegmentSpec.inside {rxConfig : RxNSdu}
    (spec : SegmentSpec rx size ans rxConfig (.frame offset) segment copied) :
    AllInside n copied.calls ↔ (HandsOver rx size ans → size = 0 ∨ offset + size ≤ n) := by
  have asked : (bufferRequest rxConfig rx ans).Inside n := by
    unfold bufferRequest
    split <;> trivial
  have empty : takeBytes segment size = [] ↔ size = 0 := by simp [takeBytes]
  rw [spec.calls, AllInside, forall_mem_cons]
  by_cases handed : HandsOver rx size ans
  · simp only [handed, if_true, forall_mem_singleton, asked, true_and, forall_const]
    simp [Call.Inside, empty]
  · simp [asked, handed]

private theorem localRxBuffer_inside (rx : SimplexChannel) (pdu : Pdu) (offset size : Nat) :
    AllInside n (copySegmentToLocalRxBuffer rx pdu offset size).2.2 ↔
      (size < rx.maxSegSize → size = 0 ∨ offset + size ≤ n) := by
  unfold copySegmentToLocalRxBuffer AllInside
  split
  next stored =>
    simp only [forall_mem_singleton, Call.Inside]
    omega
  next kept =>
    simp only [not_mem_nil, IsEmpty.forall_iff, implies_true, true_iff]
    omega

section FirstSegment

variable {size : Nat}

private theorem opens_of_busy (busy : ans.firstResult size = .bufReqEBusy) : ans.opens := by
  unfold RxAnswers.firstResult at busy
  split at busy
  next granted => exact .inl granted.1
  next =>
    split at busy
    next granted => exact .inl granted
    next => exact .inr busy

variable (starting : rx.state ≠ .rxWaitConsecutiveFrame)
include starting

private theorem handsOver_iff_opens (settled : segmentResult rx size ans ≠ .bufReqEBusy) :
    HandsOver rx size ans ↔ ans.opens := by
  have answer : bufferAnswer rx ans = ans.startOfReception := by simp [bufferAnswer, starting]
  constructor
  · intro handed
    exact .inl (answer ▸ handed.1)
  · intro opened
    by_contra unoffered
    apply settled
    unfold segmentResult
    rw [if_neg unoffered, answer]
    rcases opened with granted | busy
    · rw [if_pos granted]
    · simp [busy]

private theorem firstSegment_inside (pdu : Pdu) {rxConfig : RxNSdu}
    (spec : SegmentSpec rx size ans rxConfig (.frame offset) segment copied)
    (limit : size < rx.maxSegSize) :
    (AllInside n copied.calls ∧ (copied.ret = .bufReqEBusy →
        AllInside n (copySegmentToLocalRxBuffer copied.rx pdu offset size).2.2)) ↔
      (ans.opens → size = 0 ∨ offset + size ≤ n) := by
  have same : copied.rx.maxSegSize = rx.maxSegSize := by
    rw [spec.channel]
    rfl
  rw [spec.inside, localRxBuffer_inside, same]
  by_cases busy : copied.ret = .bufReqEBusy
  · have opened := opens_of_busy ((spec.first starting).symm.trans busy)
    simp only [busy, limit, opened, forall_const]
    exact ⟨fun inside => inside.2, fun inside => ⟨fun _ => inside, inside⟩⟩
  · have handed : HandsOver rx size ans ↔ ans.opens :=
      handsOver_iff_opens starting (spec.ret ▸ busy)
    simp [busy, handed]

end FirstSegment

private theorem singleFrame_lt_maxSegSize {rxConfig : RxNSdu} {pdu : Pdu}
    (valid : singleFrameValid rxConfig rx.canfdSupport pdu) :
    getPduLength rxConfig.canTpAddressingFormant .singleFrame pdu < rx.maxSegSize := by
  unfold singleFrameValid at valid
  dsimp only at valid
  unfold maxSegSize
  cases fd : rx.canfdSupport with
  | true | false => split at valid <;> split at valid <;> simp_all <;> omega

private theorem firstFramePayload_lt_maxSegSize (rxConfig : RxNSdu) (rx : SimplexChannel) :
    firstFramePayload rxConfig rx.canfdSupport < rx.maxSegSize := by
  unfold firstFramePayload maxSegSize
  split <;> split <;> omega

private theorem firstFramePayload_pos (rxConfig : RxNSdu) (fd : Bool) :
    0 < firstFramePayload rxConfig fd := by
  unfold firstFramePayload
  split <;> split <;> decide

private theorem sub16_le (a : Nat) {b : Nat} (le : b ≤ a) : b + sub16 a b ≤ a := by
  unfold sub16
  omega

private theorem currentSegmentSize_inside (rxConfig : RxNSdu) (rx : SimplexChannel) (pdu : Pdu) :
    (currentSegmentSize rxConfig rx pdu = 0 ∨
      rxConfig.addressBytes + 1 + currentSegmentSize rxConfig rx pdu ≤ pdu.sduLength) ↔
    (rxConfig.addressBytes + 1 ≤ pdu.sduLength ∨ currentSegmentSize rxConfig rx pdu = 0) := by
  have bound : currentSegmentSize rxConfig rx pdu ≤
      sub16 pdu.sduLength (rxConfig.addressBytes + 1) := by
    unfold currentSegmentSize
    simp only
    split <;> omega
  constructor
  · rintro (empty | inside)
    · exact .inr empty
    · exact .inl (by omega)
  · rintro (header | empty)
    · have inside := sub16_le pdu.sduLength header
      exact .inr (by omega)
    · exact .inl empty

private theorem parkConsecutiveFrame_inside (general : General) (rxConfig : RxNSdu)
    (rx : SimplexChannel) (pdu : Pdu) (offset left size : Nat) :
    AllInside n (parkConsecutiveFrame general rxConfig rx pdu offset left size ans).2 ↔
      (rx.nextFlowControlCount = 1 ∧ rxConfig.exceedsFrame left →
        size < rx.maxSegSize → size = 0 ∨ offset + size ≤ n) := by
  have stored := localRxBuffer_inside (n := n) rx pdu offset size
  unfold parkConsecutiveFrame
  split
  next last =>
    simp only [last, and_self, forall_const, ← stored]
    split
    · simp [allInside_append, sendFlowControlFrame_inside]
    · rfl
  next other => simp [other, finishRx_inside]

private theorem handleConsecutiveFrame_inside {general : General} {rxConfig : RxNSdu} {pdu : Pdu}
    (mine : rxConfig.foreign pdu = false) (waiting : rx.state = .rxWaitConsecutiveFrame)
    (numbered : (pdu.sduDataPtr rxConfig.addressBytes &&& 0x0F#8).toNat =
      rx.framesHandledCount &&& 0x0F) :
    AllInside pdu.sduLength (handleConsecutiveFrame general rxConfig rx pdu ans).2 ↔
      ConsecutiveFrameFits rxConfig rx pdu ans := by
  have header := currentSegmentSize_inside rxConfig rx pdu
  have narrow : sub16 (currentSegmentSize rxConfig rx pdu) 0 =
      currentSegmentSize rxConfig rx pdu := sub16_of_le (Nat.zero_le _) (currentSegmentSize_lt _ _ _)
  unfold handleConsecutiveFrame ConsecutiveFrameFits Parks
  simp only [mine, waiting, numbered, Bool.false_eq_true, if_false, if_true, ne_eq,
    not_true_eq_false]
  generalize currentSegmentSize rxConfig rx pdu = size at header narrow ⊢
  generalize rxConfig.addressBytes + 1 = offset at header ⊢
  generalize copies : copySegmentToPduRRxBuffer _ _ _ _ _ _ = copied
  have spec := copySegment_spec copies
  have inside := spec.inside (n := pdu.sduLength)
  have fields : copied.rx.nextFlowControlCount = rx.nextFlowControlCount ∧
      copied.rx.maxSegSize = rx.maxSegSize := by
    rw [spec.channel]
    exact ⟨rfl, rfl⟩
  rw [← spec.ret, ← or_assoc]
  simp only [header] at inside
  cases result : copied.ret with
  | bufReqEBusy =>
    have written := spec.bytesWritten
    simp only [result, reduceCtorEq, if_false] at written
    simp only [allInside_append, inside, parkConsecutiveFrame_inside, fields, written, narrow,
      add_zero, header, true_and]
    by_cases present : offset ≤ pdu.sduLength ∨ size = 0
    · simp [present]
    · simp [present]
  | bufReqOk =>
    have advanced : AllInside pdu.sduLength (advanceReception general rxConfig copied.rx ans).2 := by
      unfold advanceReception
      simp only
      split
      · split
        · exact sendFlowControlFrame_inside _ _ _ _
        · exact allInside_nil
      · exact finishRx_inside _ _ _
    simp only [allInside_append, inside, advanced, reduceCtorEq, false_and, not_false_eq_true,
      and_true]
    rw [imp_iff_not_or]
    exact or_comm
  | _ =>
    simp only [allInside_append, inside, finishRx_inside, reduceCtorEq, false_and,
      not_false_eq_true, and_true]
    rw [imp_iff_not_or]
    exact or_comm

end Inside

section Kept

variable {rx : SimplexChannel} {ans : RxAnswers}

private theorem bytesKept_release :
    BytesKept rx.release ↔ rx.transferCount ≤ rx.transferTotal ∧ rx.transferTotal < 65536 := by
  simp [bytesKept_iff, release]

private theorem bytesKept_setTimeout (count : Nat) :
    BytesKept (rx.setTimeout count) ↔ BytesKept rx := by
  simp [bytesKept_iff, setTimeout]

private theorem bytesKept_setState (state : TransferState) :
    BytesKept (rx.setState state) ↔ rx.transferCount ≤ rx.transferTotal ∧
      rx.transferTotal < 65536 ∧
      (state = .rxWaitCfSduBuffer ∨ state = .rxWaitSfSduBuffer →
        rx.transferCount + rx.canFrameBuffer.byteCount ≤ rx.transferTotal) := by
  simp [bytesKept_iff, setState]

private theorem localRxBuffer_kept (rx : SimplexChannel) (pdu : Pdu) (offset size : Nat) :
    let stored := (copySegmentToLocalRxBuffer rx pdu offset size).2.1
    stored.canFrameBuffer.byteCount =
      (if size < rx.maxSegSize ∧ 0 < size then size else rx.canFrameBuffer.byteCount) ∧
    stored.transferCount = rx.transferCount ∧ stored.transferTotal = rx.transferTotal := by
  unfold copySegmentToLocalRxBuffer
  split <;> simp

private theorem bytesKept_noteFlowControl (rxConfig : RxNSdu) (status : BufReq) :
    BytesKept (noteFlowControl rxConfig rx status) ↔ BytesKept rx := by
  cases status <;> simp [bytesKept_iff, noteFlowControl]

private theorem BytesKept.release (kept : BytesKept rx) : BytesKept rx.release :=
  bytesKept_release.mpr ⟨kept.within, kept.small⟩

private theorem bytesKept_sendFlowControlFrame (general : General) (rxConfig : RxNSdu)
    (status : BufReq) :
    BytesKept (sendFlowControlFrame general rxConfig rx status ans).1 ↔
      if ans.canIfTransmit = .eOk then BytesKept rx else BytesKept rx.release := by
  have same : BytesKept (noteFlowControl rxConfig rx status).release ↔ BytesKept rx.release := by
    cases status <;> simp [bytesKept_release, noteFlowControl]
  unfold sendFlowControlFrame
  split
  · exact bytesKept_noteFlowControl rxConfig status
  · exact same

private theorem sendFlowControlFrame_release (general : General) (rxConfig : RxNSdu)
    (status : BufReq) :
    BytesKept (sendFlowControlFrame general rxConfig rx status ans).1.release ↔
      BytesKept rx.release := by
  unfold sendFlowControlFrame
  cases status <;> simp only <;> split <;> simp [bytesKept_release, noteFlowControl] <;>
    simp [release]

variable {general : General} {config : Config} {rxConfig : RxNSdu} {index : Nat}

private theorem handleSingleFrame_keeps {pdu : Pdu}
    (valid : singleFrameValid rxConfig rx.canfdSupport pdu) :
    KeepsBytes pdu.sduLength (handleSingleFrame config rxConfig rx pdu index ans) ↔
    SingleFrameFits rxConfig rx pdu ans := by
  have limit := singleFrame_lt_maxSegSize valid
  have small := getPduLength_lt rxConfig.canTpAddressingFormant .singleFrame pdu
  unfold handleSingleFrame SingleFrameFits
  simp only [valid, if_true]
  generalize getPduLength rxConfig.canTpAddressingFormant .singleFrame pdu = len at limit small ⊢
  generalize singleFrameOffset rxConfig rx.canfdSupport = offset
  have starting : (openReception rx len index (rxConfig.canTpNbr + 1)).state ≠
      .rxWaitConsecutiveFrame := nofun
  generalize copies : copySegmentToPduRRxBuffer _ _ _ _ _ _ = copied
  have spec := copySegment_spec copies
  apply and_congr
  · rw [← firstSegment_inside starting pdu spec limit]
    cases copied.ret <;>
      simp [allInside_append, abortOngoing_inside, finishRx_inside]
  · have result := spec.first starting
    have fields : copied.rx.transferTotal = len ∧
        copied.rx.transferCount = (if copied.ret = .bufReqOk then len else 0) ∧
        copied.rx.canFrameBuffer = rx.canFrameBuffer ∧ copied.rx.maxSegSize = rx.maxSegSize := by
      rw [spec.channel]
      refine ⟨rfl, ?_, rfl, rfl⟩
      simp only [openReception, initRx15765RuntimeData, zero_add]
      rw [mod_eq_of_lt (by omega)]
    obtain ⟨total, count, buffer, size⟩ := fields
    cases ret : copied.ret with
    | bufReqEBusy =>
      obtain ⟨bytes, storedCount, storedTotal⟩ := localRxBuffer_kept copied.rx pdu offset len
      simp only [bytesKept_setState, bytes, storedCount, storedTotal, total, count, buffer, size,
        ret, reduceCtorEq, if_false]
      by_cases empty : len = 0
      · subst empty
        simp [← result, ret]
      · have stored : len < rx.maxSegSize ∧ 0 < len := ⟨limit, by omega⟩
        simp only [stored, and_self, if_true]
        omega
    | _ =>
      have settled : len = 0 → ans.firstResult 0 ≠ .bufReqEBusy := by
        rintro rfl
        rw [← result, ret]
        nofun
      simp only [finishRx, bytesKept_release, count, ret, reduceCtorEq, if_true, if_false]
      apply iff_of_true ⟨by omega, by omega⟩
      exact fun empty busy => absurd busy (settled empty)

private theorem handleFirstFrame_keeps {pdu : Pdu} (mine : rxConfig.foreign pdu = false)
    (valid : firstFrameValid config.canTpGeneral rxConfig rx.canfdSupport pdu) :
    KeepsBytes pdu.sduLength (handleFirstFrame config rxConfig rx pdu index ans) ↔
    FirstFrameFits rxConfig rx pdu ans := by
  have limit := firstFramePayload_lt_maxSegSize rxConfig rx
  have nonempty := firstFramePayload_pos rxConfig rx.canfdSupport
  have bound : rx.maxSegSize ≤ 64 := by
    unfold maxSegSize
    split <;> omega
  have small := getPduLength_lt rxConfig.canTpAddressingFormant .firstFrame pdu
  unfold handleFirstFrame FirstFrameFits
  simp only [mine, valid, if_true, Bool.false_eq_true, if_false]
  generalize getPduLength rxConfig.canTpAddressingFormant .firstFrame pdu = len at small ⊢
  generalize firstFramePayload rxConfig rx.canfdSupport = size at limit nonempty ⊢
  generalize rxConfig.addressBytes + 2 = offset
  have starting : (openSegmented rxConfig rx len index).state ≠ .rxWaitConsecutiveFrame := nofun
  generalize copies : copySegmentToPduRRxBuffer _ _ _ _ _ _ = copied
  have spec := copySegment_spec copies
  apply and_congr
  · have segment := firstSegment_inside (n := pdu.sduLength) starting pdu spec limit
    simp only [Nat.ne_of_gt nonempty, false_or] at segment
    rw [← segment]
    cases copied.ret <;>
      simp [allInside_append, abortOngoing_inside, finishRx_inside, sendFlowControlFrame_inside]
  · rw [← spec.first starting]
    have fields : copied.rx.transferTotal = len ∧
        copied.rx.transferCount = (if copied.ret = .bufReqOk then size else 0) ∧
        copied.rx.maxSegSize = rx.maxSegSize := by
      rw [spec.channel]
      refine ⟨rfl, ?_, rfl⟩
      simp only [openSegmented, openReception, initRx15765RuntimeData, zero_add]
      rw [mod_eq_of_lt (by omega)]
    obtain ⟨total, count, room⟩ := fields
    cases ret : copied.ret with
    | bufReqOk =>
      simp only [ret, if_true] at count
      rw [bytesKept_sendFlowControlFrame]
      rw [bytesKept_setState, bytesKept_release]
      simp only [setState, setTimeout, reduceCtorEq,
        or_self, false_imp_iff, true_or, forall_const, and_true, ite_self]
      omega
    | bufReqEBusy =>
      simp only [ret, reduceCtorEq, if_false] at count
      obtain ⟨bytes, storedCount, storedTotal⟩ := localRxBuffer_kept copied.rx pdu offset size
      rw [room] at bytes
      have some : 0 < size := nonempty
      simp only [limit, some] at bytes
      rw [bytesKept_sendFlowControlFrame, bytesKept_setState, bytesKept_release]
      simp only [setState, setTimeout, bytes, storedCount, count]
      by_cases sent : ans.canIfTransmit = .eOk
      · simp only [sent, if_true, true_or, and_self, or_true, forall_const]
        omega
      · simp only [sent, and_false, reduceCtorEq, or_self, false_imp_iff]
        exact iff_of_true ⟨Nat.zero_le _, by omega⟩ trivial
    | bufReqEOvfl =>
      simp only [ret, reduceCtorEq, if_false] at count
      have counted : BytesKept copied.rx.release := by
        rw [bytesKept_release]
        omega
      refine iff_of_true ?_ (by simp)
      exact (sendFlowControlFrame_release config.canTpGeneral rxConfig .bufReqEOvfl).mpr counted
    | bufReqENotOk =>
      simp only [ret, reduceCtorEq, if_false] at count
      simp only [finishRx, bytesKept_release, reduceCtorEq, false_and, or_self,
        false_imp_iff, iff_true]
      omega

private theorem sendFlowControlFrame_kept {status : BufReq} (kept : BytesKept rx) :
    BytesKept (sendFlowControlFrame general rxConfig rx status ans).1 := by
  rw [bytesKept_sendFlowControlFrame]
  split
  · exact kept
  · exact kept.release

private theorem SegmentSpec.counted {source : Source}
    (spec : SegmentSpec rx size ans rxConfig source segment copied) (kept : BytesKept rx)
    (missing : rx.transferCount + size ≤ rx.transferTotal) :
    copied.rx.transferCount ≤ copied.rx.transferTotal ∧ copied.rx.transferTotal < 65536 := by
  have small := kept.small
  rw [spec.channel]
  split
  · rw [mod_eq_of_lt (by omega)]
    exact ⟨missing, small⟩
  · exact ⟨kept.within, small⟩

private theorem currentSegmentSize_missing (rxConfig : RxNSdu) (pdu : Pdu) (kept : BytesKept rx) :
    rx.transferCount + currentSegmentSize rxConfig rx pdu ≤ rx.transferTotal := by
  have left := sub16_of_le kept.within kept.small
  have within := kept.within
  unfold currentSegmentSize
  simp only [left]
  split <;> omega

private theorem stored_byteCount {pdu : Pdu}
    (stored : (copySegmentToLocalRxBuffer rx pdu offset size).1 = true) :
    (copySegmentToLocalRxBuffer rx pdu offset size).2.1.canFrameBuffer.byteCount = size := by
  unfold copySegmentToLocalRxBuffer at stored ⊢
  split at stored
  next fits => simp [fits]
  next => cases stored

private theorem parkConsecutiveFrame_kept {pdu : Pdu} {left : Nat}
    (within : rx.transferCount + size ≤ rx.transferTotal) (small : rx.transferTotal < 65536) :
    BytesKept (parkConsecutiveFrame general rxConfig rx pdu offset left size ans).1 := by
  have counted : rx.transferCount ≤ rx.transferTotal := by omega
  obtain ⟨-, storedCount, storedTotal⟩ := localRxBuffer_kept rx pdu offset size
  unfold parkConsecutiveFrame
  split
  · simp only
    split
    next stored =>
      apply sendFlowControlFrame_kept
      rw [bytesKept_setState]
      simp only [setTimeout, countFrame, stored_byteCount stored, storedCount, storedTotal]
      exact ⟨counted, small, fun _ => within⟩
    next =>
      rw [bytesKept_release, storedCount, storedTotal]
      exact ⟨counted, small⟩
  · exact bytesKept_release.mpr ⟨counted, small⟩

section

variable (kept : BytesKept rx)
include kept

private theorem advanceReception_kept : BytesKept (advanceReception general rxConfig rx ans).1 := by
  have counted : ∀ count, BytesKept { rx.countFrame with nextFlowControlCount := count } :=
    fun count => { kept with }
  unfold advanceReception
  split
  · simp only
    split
    · exact sendFlowControlFrame_kept (counted _)
    · exact (bytesKept_setTimeout _).mpr (counted _)
  · exact kept.release

private theorem handleConsecutiveFrame_kept {pdu : Pdu} :
    BytesKept (handleConsecutiveFrame general rxConfig rx pdu ans).1 := by
  unfold handleConsecutiveFrame
  split
  · exact kept
  split
  next waiting =>
    simp only
    split
    · exact kept.release
    · have missing := currentSegmentSize_missing rxConfig pdu kept
      have narrow := currentSegmentSize_lt rxConfig rx pdu
      generalize copies : copySegmentToPduRRxBuffer _ _ _ _ _ _ = copied
      have spec := copySegment_spec copies
      obtain ⟨counted, small⟩ := spec.counted kept missing
      have state : copied.rx.state = .rxWaitConsecutiveFrame := by
        rw [spec.channel]
        exact waiting
      have taken : BytesKept copied.rx :=
        ⟨counted, small, fun parked => by rcases parked with h | h <;> rw [state] at h <;> cases h⟩
      cases ret : copied.ret with
      | bufReqEBusy =>
        have written := spec.bytesWritten
        have channel := spec.channel
        simp only [ret, reduceCtorEq, if_false] at written channel
        apply parkConsecutiveFrame_kept _ small
        rw [written, sub16_of_le (Nat.zero_le _) narrow, channel]
        exact missing
      | bufReqOk => exact advanceReception_kept taken
      | bufReqENotOk => exact taken.release
      | bufReqEOvfl => exact taken
  · exact kept

private theorem localSegment_kept
    (parked : rx.state = .rxWaitCfSduBuffer ∨ rx.state = .rxWaitSfSduBuffer)
    (copies : copySegmentToPduRRxBuffer rxConfig (rx.setTimeout (decrement rx.stateTimeoutCount))
      .localBuffer rx.canFrameBuffer.data rx.canFrameBuffer.byteCount ans = copied) :
    AllInside 0 copied.calls ∧ BytesKept copied.rx.release ∧
      (copied.ret ≠ .bufReqOk → BytesKept copied.rx) := by
  have timed := (bytesKept_setTimeout (decrement rx.stateTimeoutCount)).mpr kept
  have spec := copySegment_spec copies
  have counted := spec.counted timed (timed.parked parked)
  refine ⟨?_, bytesKept_release.mpr counted, ?_⟩
  · have asked : ∀ rx, (bufferRequest rxConfig rx ans).Inside 0 := by
      unfold bufferRequest
      intro rx
      split <;> trivial
    rw [spec.calls, AllInside, forall_mem_cons]
    refine ⟨asked _, ?_⟩
    split <;> simp [Call.Inside]
  · intro refused
    rw [spec.channel, if_neg refused]
    exact { timed with }

private theorem getBuffSingleFrame_kept
    (waiting : rx.state = .rxWaitSfSduBuffer) : KeepsBytes 0 (getBuffSingleFrame rxConfig rx ans) := by
  unfold getBuffSingleFrame
  simp only
  generalize copies : copySegmentToPduRRxBuffer _ _ _ _ _ _ = copied
  obtain ⟨inside, released, unchanged⟩ := localSegment_kept kept (.inr waiting) copies
  split
  · exact ⟨allInside_append.mpr ⟨inside, finishRx_inside _ _ _⟩, released⟩
  next refused =>
    split
    · exact ⟨inside, released⟩
    · exact ⟨inside, unchanged refused⟩

end

private theorem abandonBuffer_inside (rxConfig : RxNSdu) (rx : SimplexChannel) (n : Nat) :
    AllInside n (abandonBuffer rxConfig rx).2 := by
  unfold abandonBuffer AllInside
  split <;> simp [Call.Inside]

private theorem abandonBuffer_kept (rxConfig : RxNSdu) (released : BytesKept rx.release) :
    BytesKept (abandonBuffer rxConfig rx).1 :=
  { released with }

private theorem retryBuffer_kept (kept : BytesKept rx) (waiting : rx.state = .rxWaitCfSduBuffer) :
    KeepsBytes 0 (retryBuffer general rxConfig rx ans) := by
  unfold retryBuffer
  simp only
  generalize copies : copySegmentToPduRRxBuffer _ _ _ _ _ _ = copied
  obtain ⟨inside, released, unchanged⟩ := localSegment_kept kept (.inl waiting) copies
  cases ret : copied.ret with
  | bufReqOk =>
    simp only
    split
    · refine ⟨allInside_append.mpr ⟨inside, sendFlowControlFrame_inside _ _ _ _⟩, ?_⟩
      have sent : BytesKept (sendFlowControlFrame general rxConfig copied.rx .bufReqOk
          ans).1.release := (sendFlowControlFrame_release _ _ _).mpr released
      exact ⟨sent.within, sent.small, by simp [setState]⟩
    · exact ⟨allInside_append.mpr ⟨inside, finishRx_inside _ _ _⟩, released⟩
  | bufReqEBusy =>
    have same : BytesKept copied.rx := unchanged (by simp [ret])
    simp only
    split
    · exact ⟨allInside_append.mpr ⟨inside, sendFlowControlFrame_inside _ _ _ _⟩,
        (bytesKept_setTimeout _).mpr (sendFlowControlFrame_kept same)⟩
    · split
      · exact ⟨allInside_append.mpr ⟨inside, abandonBuffer_inside _ _ _⟩,
          abandonBuffer_kept rxConfig released⟩
      · exact ⟨inside, same⟩
  | bufReqENotOk =>
    exact ⟨allInside_append.mpr ⟨inside, abandonBuffer_inside _ _ _⟩,
      abandonBuffer_kept rxConfig released⟩
  | bufReqEOvfl => exact ⟨inside, unchanged (by simp [ret])⟩

private theorem mainFunction_kept {kind : TaType} (kept : BytesKept rx) :
    KeepsBytes 0 (canTpRxMainFunction config kind rx ans) := by
  have ignored : KeepsBytes 0 (rx, []) := ⟨allInside_nil, kept⟩
  unfold canTpRxMainFunction
  split
  · cases kind with
    | canTpPhysical =>
      simp only [rxPhySduStateMachine]
      split
      · split
        · exact ⟨finishRx_inside _ _ _, ((bytesKept_setTimeout _).mpr kept).release⟩
        · exact ⟨allInside_nil, (bytesKept_setTimeout _).mpr kept⟩
      next waiting => exact retryBuffer_kept kept waiting
      next waiting => exact getBuffSingleFrame_kept kept waiting
      · exact ignored
    | canTpFunctional =>
      simp only [rxFncSduStateMachine]
      split
      next waiting => exact getBuffSingleFrame_kept kept waiting
      · exact ignored
  · exact ignored

end Kept

section Frames

variable {config : Config} {rxConfig : RxNSdu} {rx : SimplexChannel} {pdu : Pdu} {ans : RxAnswers}
  {index : Nat}

private theorem singleFrame_keeps (kept : BytesKept rx) :
    KeepsBytes pdu.sduLength (handleSingleFrame config rxConfig rx pdu index ans) ↔
    (singleFrameValid rxConfig rx.canfdSupport pdu → SingleFrameFits rxConfig rx pdu ans) := by
  by_cases valid : singleFrameValid rxConfig rx.canfdSupport pdu = true
  · simp only [valid, forall_const]
    exact handleSingleFrame_keeps valid
  · have ignored : handleSingleFrame config rxConfig rx pdu index ans = (rx, []) := by
      simp [handleSingleFrame, valid]
    rw [ignored]
    exact iff_of_true ⟨allInside_nil, kept⟩ fun taken => absurd taken valid

private theorem firstFrame_keeps (kept : BytesKept rx) :
    KeepsBytes pdu.sduLength (handleFirstFrame config rxConfig rx pdu index ans) ↔
    (¬ rxConfig.foreign pdu →
      firstFrameValid config.canTpGeneral rxConfig rx.canfdSupport pdu →
      FirstFrameFits rxConfig rx pdu ans) := by
  by_cases foreign : rxConfig.foreign pdu = true
  · have ignored : handleFirstFrame config rxConfig rx pdu index ans = (rx, []) := by
      simp [handleFirstFrame, foreign]
    rw [ignored]
    exact iff_of_true ⟨allInside_nil, kept⟩ fun mine => absurd foreign mine
  · have mine := Bool.eq_false_iff.mpr foreign
    by_cases valid : firstFrameValid config.canTpGeneral rxConfig rx.canfdSupport pdu = true
    · simp only [mine, valid, forall_const, Bool.false_eq_true, not_false_eq_true]
      exact handleFirstFrame_keeps mine valid
    · have small := getPduLength_lt rxConfig.canTpAddressingFormant .firstFrame pdu
      refine iff_of_true ?_ fun _ taken => absurd taken valid
      simp only [handleFirstFrame, mine, valid]
      refine ⟨abortOngoing_inside _ _, Nat.zero_le _, ?_, nofun⟩
      exact Nat.lt_trans small (by decide)

private theorem consecutiveFrame_keeps {general : General} (kept : BytesKept rx) :
    KeepsBytes pdu.sduLength (handleConsecutiveFrame general rxConfig rx pdu ans) ↔
    (¬ rxConfig.foreign pdu → rx.state = .rxWaitConsecutiveFrame →
      (pdu.sduDataPtr rxConfig.addressBytes &&& 0x0F#8).toNat = rx.framesHandledCount &&& 0x0F →
      ConsecutiveFrameFits rxConfig rx pdu ans) := by
  rw [KeepsBytes, and_iff_left (handleConsecutiveFrame_kept kept)]
  by_cases taken : rxConfig.foreign pdu = false ∧ rx.state = .rxWaitConsecutiveFrame ∧
      (pdu.sduDataPtr rxConfig.addressBytes &&& 0x0F#8).toNat = rx.framesHandledCount &&& 0x0F
  · obtain ⟨mine, waiting, numbered⟩ := taken
    rw [handleConsecutiveFrame_inside mine waiting numbered]
    simp [mine, waiting, numbered]
  · refine iff_of_true ?_ fun mine waiting numbered =>
      absurd ⟨Bool.eq_false_iff.mpr mine, waiting, numbered⟩ taken
    unfold handleConsecutiveFrame
    split
    · exact allInside_nil
    next mine =>
      split
      next waiting =>
        simp only
        split
        · exact finishRx_inside _ _ _
        next numbered =>
          exact absurd ⟨Bool.eq_false_iff.mpr mine, waiting, not_not.mp numbered⟩ taken
      · exact allInside_nil

end Frames

private theorem stepKeepsBytes_iff {config : Config} {kind : TaType} {rx : SimplexChannel}
    (kept : BytesKept rx) (event : RxEvent) :
    StepKeepsBytes config kind rx event ↔ FrameFits config rx event := by
  cases event with
  | mainFunction ans => exact iff_of_true (mainFunction_kept kept) trivial
  | rxIndication tpIndex pdu ans =>
    have stays : BytesKept (rx.setFD
        (config.canTpNSduList (config.canTpRxIdList tpIndex).canTpNSduIndex).canTpFDSupport) :=
      { kept with }
    unfold StepKeepsBytes FrameFits rxStep canTpRxRxIndication RxEvent.sduLength
    simp only
    split
    next addressed =>
      simp only [addressed, forall_const]
      cases getFrameType _ pdu with
      | singleFrame => exact singleFrame_keeps stays
      | firstFrame => exact firstFrame_keeps stays
      | consecutiveFrame => exact consecutiveFrame_keeps stays
      | _ => exact iff_of_true ⟨allInside_nil, stays⟩ trivial
    next other => exact iff_of_true ⟨allInside_nil, kept⟩ fun addressed => absurd addressed other

/-- In every run whose frames fit, no byte outside a frame is handed over or stored and
`transferCount` stays within `transferTotal`. In every state so reached, fitting is also what
the next frame must do. -/
theorem receive_bytes_accounted (config : Config) (kind : TaType) (channel : SimplexChannel)
    (events : List RxEvent)
    (fits : Meets (rxStep config kind) (FrameFits config) (initRx15765RuntimeData channel) events) :
    BytesKept (run (rxStep config kind) (initRx15765RuntimeData channel) events).1 ∧
    ∀ event,
      StepKeepsBytes config kind
        (run (rxStep config kind) (initRx15765RuntimeData channel) events).1 event ↔
      FrameFits config (run (rxStep config kind) (initRx15765RuntimeData channel) events).1
        event := by
  have initial : BytesKept (initRx15765RuntimeData channel) := by
    simp [bytesKept_iff, initRx15765RuntimeData]
  have kept := run_invariant BytesKept initial fits
    fun rx event kept fits => ((stepKeepsBytes_iff kept event).mpr fits).2
  exact ⟨kept, stepKeepsBytes_iff kept⟩

theorem tenByteTransfer_accounted :
    Meets (rxStep (receiveConfig false) .canTpPhysical) (FrameFits (receiveConfig false))
      (initRx15765RuntimeData .cleared) tenByteTransfer ∧
    (run (rxStep (receiveConfig false) .canTpPhysical) (initRx15765RuntimeData .cleared)
      tenByteTransfer).1.transferCount ≤
    (run (rxStep (receiveConfig false) .canTpPhysical) (initRx15765RuntimeData .cleared)
      tenByteTransfer).1.transferTotal := by
  have fits : Meets (rxStep (receiveConfig false) .canTpPhysical)
      (FrameFits (receiveConfig false)) (initRx15765RuntimeData .cleared) tenByteTransfer :=
    ⟨fun _ _ _ => ⟨fun _ => by decide, fun _ => by decide⟩, fun _ _ _ _ => .inl (by decide), trivial⟩
  exact ⟨fits,
    (receive_bytes_accounted (receiveConfig false) .canTpPhysical .cleared _ fits).1.within⟩

/-- A one-byte frame that announces five payload bytes makes the receiver hand over bytes from
behind the frame; a CAN FD first frame for 20 bytes counts 62 of them. -/
theorem bytes_miscounted :
    (rxStep (receiveConfig false) .canTpPhysical (initRx15765RuntimeData .cleared)
      (.rxIndication 0 (.ofList [0x05]) (.agreeing 100))).2 =
      [.pduRStartOfReception 5 5 .bufReqOk,
        .pduRCopyRxData 5 (.frame 1) [0, 0, 0, 0, 0] .bufReqOk, .pduRRxIndication 5 .ntfRsltOk] ∧
    ¬ StepKeepsBytes (receiveConfig false) .canTpPhysical (initRx15765RuntimeData .cleared)
      (.rxIndication 0 (.ofList [0x05]) (.agreeing 100)) ∧
    (rxStep (receiveConfig true) .canTpPhysical (initRx15765RuntimeData .cleared)
      (.rxIndication 0 (.ofList [0x10, 20, 1, 2, 3, 4, 5, 6]) (.agreeing 100))).1.transferTotal =
      20 ∧
    (rxStep (receiveConfig true) .canTpPhysical (initRx15765RuntimeData .cleared)
      (.rxIndication 0 (.ofList [0x10, 20, 1, 2, 3, 4, 5, 6]) (.agreeing 100))).1.transferCount =
      62 := by
  refine ⟨by decide, ?_, by decide, by decide⟩
  intro keeps
  have outside := keeps.1 (.pduRCopyRxData 5 (.frame 1) [0, 0, 0, 0, 0] .bufReqOk) (by decide)
  revert outside
  simp [Call.Inside, RxEvent.sduLength, Pdu.ofList]

end CanTp
