import ClassicPlatform.CanTp.Types

/-!
# CanTp receiver

The receiving half of a channel. As on the transmitting side, an entry point takes
the answers its neighbours give during the call and returns the new run-time data
and the calls it made.
-/
namespace CanTp

/-- What the neighbours answer if they are called: a buffer request result and the buffer
size written back. `queryRxData` answers the call without data that asks for the free space.
`stack` is what the local `sduData` array of `sendFlowControlFrame` happens to hold. -/
structure RxAnswers where
  startOfReception : BufReq × Nat
  queryRxData : BufReq × Nat
  copyRxData : BufReq × Nat
  canIfTransmit : StdReturn
  stack : Nat → Byte

/-- Every neighbour agrees; the upper layer always reports this much free space. -/
def RxAnswers.agreeing (free : Nat) : RxAnswers where
  startOfReception := (.bufReqOk, free)
  queryRxData := (.bufReqOk, free)
  copyRxData := (.bufReqOk, free)
  canIfTransmit := .eOk
  stack := fun _ => 0

variable (general : General) (config : Config) (rxConfig : RxNSdu) (rx : SimplexChannel)
variable (ans : RxAnswers)

def initRx15765RuntimeData : SimplexChannel :=
  { rx with
    state := .idle
    framesHandledCount := 0
    nextFlowControlCount := 0
    transferTotal := 0
    transferCount := 0
    sizeBuffer := 0
    canTpWftMaxCounter := 0
    pduId := invalidPduId }

def SimplexChannel.release : SimplexChannel :=
  { rx with state := .idle, pduId := invalidPduId }

/-- What `copySegmentToPduRRxBuffer` returns, with the run-time data and the calls. -/
structure SegmentCopy where
  ret : BufReq
  bytesWritten : Nat
  rx : SimplexChannel
  calls : List Call

/-- The call that opens a segment: a new buffer, or in a reception that waits for consecutive
frames the question how much space is left. -/
def bufferRequest : Call :=
  if rx.state ≠ .rxWaitConsecutiveFrame then
    .pduRStartOfReception rxConfig.pduRPduId rx.transferTotal ans.startOfReception.1
  else .pduRCopyRxData rxConfig.pduRPduId .null [] ans.queryRxData.1

def bufferAnswer : BufReq × Nat :=
  if rx.state ≠ .rxWaitConsecutiveFrame then ans.startOfReception else ans.queryRxData

def copySegmentToPduRRxBuffer (source : Source)
    (segment : Nat → Byte) (segmentSize : Nat) (ans : RxAnswers) : SegmentCopy :=
  let asked := bufferRequest rxConfig rx ans
  let answer := bufferAnswer rx ans
  if answer.1 = .bufReqOk then
    if segmentSize ≤ answer.2 then
      let copied := Call.pduRCopyRxData rxConfig.pduRPduId source (takeBytes segment segmentSize)
        ans.copyRxData.1
      let rx := { rx with sizeBuffer := ans.copyRxData.2 }
      if ans.copyRxData.1 = .bufReqOk then
        { ret := .bufReqOk, bytesWritten := segmentSize
          rx := { rx with transferCount := (rx.transferCount + segmentSize) % 65536 }
          calls := [asked, copied] }
      else { ret := ans.copyRxData.1, bytesWritten := 0, rx := rx, calls := [asked, copied] }
    else
      { ret := .bufReqEBusy, bytesWritten := 0, rx := { rx with sizeBuffer := answer.2 }
        calls := [asked] }
  else
    { ret := answer.1, bytesWritten := 0, rx := { rx with sizeBuffer := answer.2 }
      calls := [asked] }

section Segment

variable (rx : SimplexChannel) (segmentSize : Nat) (ans : RxAnswers)

/-- The segment is offered to the upper layer, which has announced room for it. -/
def HandsOver : Prop :=
  (bufferAnswer rx ans).1 = .bufReqOk ∧ segmentSize ≤ (bufferAnswer rx ans).2
  deriving Decidable

def segmentResult : BufReq :=
  if HandsOver rx segmentSize ans then ans.copyRxData.1
  else if (bufferAnswer rx ans).1 = .bufReqOk then .bufReqEBusy
  else (bufferAnswer rx ans).1

def freeSpace : Nat :=
  if HandsOver rx segmentSize ans then ans.copyRxData.2 else (bufferAnswer rx ans).2

structure SegmentSpec (rxConfig : RxNSdu) (source : Source) (segment : Nat → Byte)
    (copied : SegmentCopy) : Prop where
  ret : copied.ret = segmentResult rx segmentSize ans
  bytesWritten : copied.bytesWritten = if copied.ret = .bufReqOk then segmentSize else 0
  channel : copied.rx = { rx with
    sizeBuffer := freeSpace rx segmentSize ans
    transferCount := if copied.ret = .bufReqOk then (rx.transferCount + segmentSize) % 65536
      else rx.transferCount }
  calls : copied.calls = bufferRequest rxConfig rx ans ::
    if HandsOver rx segmentSize ans then
      [.pduRCopyRxData rxConfig.pduRPduId source (takeBytes segment segmentSize) ans.copyRxData.1]
    else []

variable {rx segmentSize ans} {rxConfig : RxNSdu} {source : Source} {segment : Nat → Byte}
  {copied : SegmentCopy}

theorem copySegment_spec
    (copies : copySegmentToPduRRxBuffer rxConfig rx source segment segmentSize ans = copied) :
    SegmentSpec rx segmentSize ans rxConfig source segment copied := by
  subst copies
  unfold copySegmentToPduRRxBuffer
  by_cases granted : (bufferAnswer rx ans).1 = .bufReqOk
  · by_cases fits : segmentSize ≤ (bufferAnswer rx ans).2
    · by_cases taken : ans.copyRxData.1 = .bufReqOk <;> constructor <;>
        simp [segmentResult, freeSpace, HandsOver, granted, fits, taken]
    · constructor <;> simp [segmentResult, freeSpace, HandsOver, granted, fits]
  · constructor <;> simp [segmentResult, freeSpace, HandsOver, granted]

/-- The result for a segment for which a new buffer is requested. -/
def RxAnswers.firstResult (segmentSize : Nat) (ans : RxAnswers) : BufReq :=
  if ans.startOfReception.1 = .bufReqOk ∧ segmentSize ≤ ans.startOfReception.2 then
    ans.copyRxData.1
  else if ans.startOfReception.1 = .bufReqOk then .bufReqEBusy
  else ans.startOfReception.1

theorem SegmentSpec.first (spec : SegmentSpec rx segmentSize ans rxConfig source segment copied)
    (starting : rx.state ≠ .rxWaitConsecutiveFrame) : copied.ret = ans.firstResult segmentSize := by
  simp [spec.ret, segmentResult, RxAnswers.firstResult, HandsOver, bufferAnswer, starting]

end Segment

def SimplexChannel.countFrame : SimplexChannel :=
  { rx with framesHandledCount := (rx.framesHandledCount + 1) % 65536 }

/-- The size of the local buffer, which `copySegmentToLocalRxBuffer` never fills up. -/
def SimplexChannel.maxSegSize : Nat := if rx.canfdSupport then 64 else 8

/-- `copySegmentToLocalRxBuffer` of frame bytes from an offset on. The result is set inside
the copying loop, so that an empty segment counts as a failure. -/
def copySegmentToLocalRxBuffer (pdu : Pdu) (offset segmentSize : Nat) :
    Bool × SimplexChannel × List Call :=
  if segmentSize < rx.maxSegSize ∧ 0 < segmentSize then
    (true, { rx with
      canFrameBuffer :=
        { data := fun i =>
            if i < segmentSize then pdu.sduDataPtr (offset + i) else rx.canFrameBuffer.data i
          byteCount := segmentSize } }, [.localRxBuffer offset segmentSize])
  else (false, rx, [])

/-- The number of address bytes in front of the PCI bytes. -/
def RxNSdu.addressBytes : Nat :=
  if rxConfig.canTpAddressingFormant = .canTpExtended then 1 else 0

/-- The payload size `sendFlowControlFrame` divides the free buffer space by. -/
def blockPayload (canfdSupport : Bool) : Nat :=
  if rxConfig.canTpAddressingFormant = .canTpExtended then
    if canfdSupport then 61 else 6
  else if canfdSupport then 62 else 7

/-- The `computedBs` of `sendFlowControlFrame`; one frame more than the buffer holds fits into
the local buffer. -/
def computedBs : Nat :=
  min (rx.sizeBuffer / blockPayload rxConfig rx.canfdSupport + 1) rxConfig.canTpBs

/-- The eight bytes of a flow control frame. Block size and STmin are only written for
clear-to-send; the frame is always eight bytes long, padded or not. -/
def flowControlFrame (flowStatus : BufReq) (stack : Nat → Byte) : List Byte :=
  let address := if rxConfig.canTpAddressingFormant = .canTpExtended then [rx.extendedAddress]
    else []
  let k := rxConfig.addressBytes
  let body := match flowStatus with
    | .bufReqOk => [0x30#8, BitVec.ofNat 8 rxConfig.canTpBs, BitVec.ofNat 8 rxConfig.canTpSTmin]
    | .bufReqEBusy => [0x31#8, stack (k + 1), stack (k + 2)]
    | .bufReqEOvfl => [0x32#8, stack (k + 1), stack (k + 2)]
    | .bufReqENotOk => []
  let written := address ++ body
  let rest := if rxConfig.canTpRxPaddingActivation then fun _ => general.padding else stack
  written ++ takeBytes (fun i => rest (written.length + i)) (8 - written.length)

/-- The run-time data `sendFlowControlFrame` updates before it sends. -/
def noteFlowControl : BufReq → SimplexChannel
  | .bufReqOk =>
    { rx with
      bs := rxConfig.canTpBs
      nextFlowControlCount := computedBs rxConfig rx
      canTpWftMaxCounter := 0 }
  | .bufReqEBusy => { rx with canTpWftMaxCounter := (rx.canTpWftMaxCounter + 1) % 65536 }
  | _ => rx

def sendFlowControlFrame (flowStatus : BufReq) (ans : RxAnswers) : SimplexChannel × List Call :=
  let frame := flowControlFrame general rxConfig rx flowStatus ans.stack
  let sent := Call.canIfTransmit rxConfig.canIfFcPduId frame ans.canIfTransmit
  if ans.canIfTransmit = .eOk then (noteFlowControl rxConfig rx flowStatus, [sent])
  else
    ((noteFlowControl rxConfig rx flowStatus).release,
      [sent, .pduRRxIndication rxConfig.pduRPduId .ntfRsltENotOk])

/-- The end of a reception: an indication, and the channel is free again. -/
def finishRx (pduRPduId : Nat) (result : NotifResult) : SimplexChannel × List Call :=
  (rx.release, [.pduRRxIndication pduRPduId result])

/-- The `status` of `handleConsecutiveFrame`: more is missing than one classic frame carries. -/
def RxNSdu.exceedsFrame (bytesLeftToCopy : Nat) : Bool :=
  if rxConfig.canTpAddressingFormant = .canTpStandard then bytesLeftToCopy > 7
  else bytesLeftToCopy > 6

/-- The `BUFREQ_E_BUSY` case of `handleConsecutiveFrame`: only the last frame of a block is
kept in the local buffer, everything else aborts the reception. -/
def parkConsecutiveFrame
    (rxPduData : Pdu) (offset bytesLeftToCopy bytesNotCopied : Nat) (ans : RxAnswers) :
    SimplexChannel × List Call :=
  if rx.nextFlowControlCount = 1 ∧ rxConfig.exceedsFrame bytesLeftToCopy then
    let stored := copySegmentToLocalRxBuffer rx rxPduData offset bytesNotCopied
    if stored.1 then
      let sent := sendFlowControlFrame general rxConfig
        ((stored.2.1.countFrame.setTimeout (rxConfig.canTpNbr + 1)).setState .rxWaitCfSduBuffer)
        .bufReqEBusy ans
      (sent.1, stored.2.2 ++ sent.2)
    else (stored.2.1.release, stored.2.2)
  else finishRx rx rxConfig.pduRPduId .ntfRsltENotOk

/-- The `BUFREQ_OK` case of `handleConsecutiveFrame`. -/
def advanceReception : SimplexChannel × List Call :=
  if sub16 rx.transferTotal rx.transferCount > 0 then
    let rx := { rx.countFrame with nextFlowControlCount := decrement rx.nextFlowControlCount }
    if rx.nextFlowControlCount = 0 ∧ rx.bs > 0 then
      sendFlowControlFrame general rxConfig rx .bufReqOk ans
    else (rx.setTimeout (rxConfig.canTpNcr + 1), [])
  else finishRx rx rxConfig.pduRPduId .ntfRsltOk

/-- The `currentSegmentSize` of `handleConsecutiveFrame`: what the frame carries, cut to what is
still missing. Both differences are 16 bit wide. -/
def currentSegmentSize (rxPduData : Pdu) : Nat :=
  let currentSegmentMaxSize := sub16 rxPduData.sduLength (rxConfig.addressBytes + 1)
  let bytesLeftToCopy := sub16 rx.transferTotal rx.transferCount
  if bytesLeftToCopy < currentSegmentMaxSize then bytesLeftToCopy else currentSegmentMaxSize

theorem currentSegmentSize_lt (rxPduData : Pdu) :
    currentSegmentSize rxConfig rx rxPduData < 65536 := by
  unfold currentSegmentSize
  simp only
  split <;> exact sub16_lt _ _

/-- The frame's target address is not the one of the N-SDU. -/
def RxNSdu.foreign (rxPduData : Pdu) : Bool :=
  rxConfig.canTpAddressingFormant = .canTpExtended ∧
    (rxPduData.sduDataPtr 0).toNat ≠ rxConfig.canTpNTa

def handleConsecutiveFrame (rxPduData : Pdu) (ans : RxAnswers) : SimplexChannel × List Call :=
  if rxConfig.foreign rxPduData then (rx, [])
  else if rx.state = .rxWaitConsecutiveFrame then
    let segmentNumber := (rxPduData.sduDataPtr rxConfig.addressBytes &&& 0x0F#8).toNat
    let indexCount := rxConfig.addressBytes + 1
    if segmentNumber ≠ rx.framesHandledCount &&& 0x0F then
      finishRx rx rxConfig.pduRPduId .ntfRsltEWrongSn
    else
      let bytesLeftToCopy := sub16 rx.transferTotal rx.transferCount
      let size := currentSegmentSize rxConfig rx rxPduData
      let copied := copySegmentToPduRRxBuffer rxConfig rx (.frame indexCount)
        (fun i => rxPduData.sduDataPtr (indexCount + i)) size ans
      match copied.ret with
      | .bufReqENotOk =>
        let done := finishRx copied.rx rxConfig.pduRPduId .ntfRsltENotOk
        (done.1, copied.calls ++ done.2)
      | .bufReqEBusy =>
        let parked := parkConsecutiveFrame general rxConfig copied.rx rxPduData
          (indexCount + copied.bytesWritten) bytesLeftToCopy
          (sub16 size copied.bytesWritten) ans
        (parked.1, copied.calls ++ parked.2)
      | .bufReqOk =>
        let next := advanceReception general rxConfig copied.rx ans
        (next.1, copied.calls ++ next.2)
      | .bufReqEOvfl => (copied.rx, copied.calls)
  else (rx, [])

/-- A single or first frame ends a reception that waits for consecutive frames. Receptions
that wait for a buffer end without an indication. -/
def abortOngoing : List Call :=
  if rx.state ≠ .idle ∧ rx.state ≠ .rxWaitCfSduBuffer ∧ rx.state ≠ .rxWaitSfSduBuffer then
    [.pduRRxIndication (config.canTpNSduList rx.pduId).canTpRxNSdu.pduRPduId .ntfRsltENotOk]
  else []

/-- Where `handleSingleFrame` takes the payload from. -/
def singleFrameOffset (canfdSupport : Bool) : Nat :=
  rxConfig.addressBytes + if canfdSupport then 2 else 1

/-- The length and address check of `handleSingleFrame`. -/
def singleFrameValid (canfdSupport : Bool) (rxPduData : Pdu) : Bool :=
  let pduLength := getPduLength rxConfig.canTpAddressingFormant .singleFrame rxPduData
  if rxConfig.canTpAddressingFormant = .canTpExtended then
    if (rxPduData.sduDataPtr 0).toNat ≠ rxConfig.canTpNTa ∨ pduLength > 6 ∨ pduLength = 0 then
      canfdSupport && pduLength ≤ 61
    else true
  else if pduLength > 7 ∨ pduLength = 0 then canfdSupport && pduLength ≤ 62
  else true

/-- The run-time data of a reception that asks for its first buffer. -/
def openReception (pduLength canTpRxNSduId stateTimeoutCount : Nat) : SimplexChannel :=
  { initRx15765RuntimeData rx with
    transferTotal := pduLength
    state := .sfOrFfReceivedWaitingPdurBuffer
    stateTimeoutCount := stateTimeoutCount
    pduId := canTpRxNSduId }

def handleSingleFrame
    (rxPduData : Pdu) (canTpRxNSduId : Nat) (ans : RxAnswers) : SimplexChannel × List Call :=
  let pduLength := getPduLength rxConfig.canTpAddressingFormant .singleFrame rxPduData
  if singleFrameValid rxConfig rx.canfdSupport rxPduData then
    let aborted := abortOngoing config rx
    let offset := singleFrameOffset rxConfig rx.canfdSupport
    let rx := openReception rx pduLength canTpRxNSduId (rxConfig.canTpNbr + 1)
    let copied := copySegmentToPduRRxBuffer rxConfig rx (.frame offset)
      (fun i => rxPduData.sduDataPtr (offset + i)) pduLength ans
    match copied.ret with
    | .bufReqOk =>
      let done := finishRx copied.rx rxConfig.pduRPduId .ntfRsltOk
      (done.1, aborted ++ copied.calls ++ done.2)
    | .bufReqEBusy =>
      let stored := copySegmentToLocalRxBuffer copied.rx rxPduData offset pduLength
      (stored.2.1.setState .rxWaitSfSduBuffer, aborted ++ copied.calls ++ stored.2.2)
    | _ =>
      let done := finishRx copied.rx rxConfig.pduRPduId .ntfRsltENotOk
      (done.1, aborted ++ copied.calls ++ done.2)
  else (rx, [])

/-- The payload size `handleFirstFrame` takes from the frame, whatever the frame's length. -/
def firstFramePayload (canfdSupport : Bool) : Nat :=
  if rxConfig.canTpAddressingFormant = .canTpStandard then
    if canfdSupport then 62 else 6
  else if canfdSupport then 61 else 5

/-- The check of `handleFirstFrame` that a segmented transfer was called for. -/
def segmentationValid (canfdSupport : Bool) (pduLength : Nat) : Bool :=
  if rxConfig.canTpAddressingFormant = .canTpStandard then
    if pduLength ≤ 7 then canfdSupport && pduLength ≤ 62 else true
  else if pduLength ≤ 6 then canfdSupport && pduLength ≤ 61 else true

/-- The checks `handleFirstFrame` makes once the channel has been reset. -/
def firstFrameValid (canfdSupport : Bool) (rxPduData : Pdu) : Bool :=
  let pduLength := getPduLength rxConfig.canTpAddressingFormant .firstFrame rxPduData
  ¬ (general.devErrorDetect ∧ pduLength = 0) ∧
    segmentationValid rxConfig canfdSupport pduLength ∧ ¬ rxPduData.sduLength < 8

/-- The run-time data of a segmented reception that asks for its first buffer; consecutive
frames count from one on. -/
def openSegmented (pduLength canTpRxNSduId : Nat) : SimplexChannel :=
  { openReception rx pduLength canTpRxNSduId rxConfig.canTpNbr with
    framesHandledCount := 1
    extendedAddress := if rxConfig.canTpAddressingFormant = .canTpStandard then
      rx.extendedAddress else BitVec.ofNat 8 rxConfig.canTpNTa }

def handleFirstFrame
    (rxPduData : Pdu) (canTpRxNSduId : Nat) (ans : RxAnswers) : SimplexChannel × List Call :=
  if rxConfig.foreign rxPduData then (rx, [])
  else
    let aborted := abortOngoing config rx
    let pduLength := getPduLength rxConfig.canTpAddressingFormant .firstFrame rxPduData
    if firstFrameValid config.canTpGeneral rxConfig rx.canfdSupport rxPduData then
      let offset := rxConfig.addressBytes + 2
      let maxSize := firstFramePayload rxConfig rx.canfdSupport
      let rx := openSegmented rxConfig rx pduLength canTpRxNSduId
      let copied := copySegmentToPduRRxBuffer rxConfig rx (.frame offset)
        (fun i => rxPduData.sduDataPtr (offset + i)) maxSize ans
      match copied.ret with
      | .bufReqOk =>
        let sent := sendFlowControlFrame config.canTpGeneral rxConfig
          ((copied.rx.setTimeout (rxConfig.canTpNcr + 1)).setState .rxWaitConsecutiveFrame)
          .bufReqOk ans
        (sent.1, aborted ++ copied.calls ++ sent.2)
      | .bufReqEBusy =>
        let stored := copySegmentToLocalRxBuffer copied.rx rxPduData offset maxSize
        let sent := sendFlowControlFrame config.canTpGeneral rxConfig
          ((stored.2.1.setTimeout (rxConfig.canTpNbr + 1)).setState .rxWaitCfSduBuffer)
          .bufReqEBusy ans
        (sent.1, aborted ++ copied.calls ++ stored.2.2 ++ sent.2)
      | .bufReqEOvfl =>
        let sent := sendFlowControlFrame config.canTpGeneral rxConfig copied.rx .bufReqEOvfl ans
        (sent.1.release, aborted ++ copied.calls ++ sent.2)
      -- the indication names the internal N-SDU index, not the PduR identifier
      | .bufReqENotOk =>
        let done := finishRx copied.rx copied.rx.pduId .ntfRsltENotOk
        (done.1, aborted ++ copied.calls ++ done.2)
    else
      ({ initRx15765RuntimeData rx with transferTotal := pduLength, pduId := canTpRxNSduId },
        aborted)

def getBuffSingleFrame : SimplexChannel × List Call :=
  let rx := rx.setTimeout (decrement rx.stateTimeoutCount)
  let copied := copySegmentToPduRRxBuffer rxConfig rx .localBuffer
    rx.canFrameBuffer.data rx.canFrameBuffer.byteCount ans
  if copied.ret = .bufReqOk then
    let done := finishRx copied.rx rxConfig.pduRPduId .ntfRsltOk
    (done.1, copied.calls ++ done.2)
  else if (copied.ret = .bufReqEBusy ∧ copied.rx.stateTimeoutCount = 0) ∨
      copied.ret = .bufReqENotOk then
    (copied.rx.release, copied.calls)
  else (copied.rx, copied.calls)

/-- `rxPhySduStateMachine` gives up a reception that waits for a buffer: the upper layer
hears of it only if bytes had been transferred. -/
def abandonBuffer : SimplexChannel × List Call :=
  ({ rx.release with canTpWftMaxCounter := 0 },
    if rx.transferCount ≠ 0 then [.pduRRxIndication rxConfig.pduRPduId .ntfRsltENotOk] else [])

/-- The `RX_WAIT_CF_SDU_BUFFER` case of `rxPhySduStateMachine`. -/
def retryBuffer : SimplexChannel × List Call :=
  let rx := rx.setTimeout (decrement rx.stateTimeoutCount)
  let copied := copySegmentToPduRRxBuffer rxConfig rx .localBuffer
    rx.canFrameBuffer.data rx.canFrameBuffer.byteCount ans
  let bytesRemaining := sub16 copied.rx.transferTotal copied.rx.transferCount
  match copied.ret with
  | .bufReqOk =>
    if bytesRemaining > 0 then
      -- the state is set after the frame was handed over, also when that failed
      let sent := sendFlowControlFrame general rxConfig copied.rx .bufReqOk ans
      ((sent.1.setTimeout rxConfig.canTpNcr).setState .rxWaitConsecutiveFrame,
        copied.calls ++ sent.2)
    else
      let done := finishRx copied.rx rxConfig.pduRPduId .ntfRsltOk
      (done.1, copied.calls ++ done.2)
  | .bufReqEBusy =>
    if copied.rx.stateTimeoutCount = 0 ∧ copied.rx.canTpWftMaxCounter < rxConfig.canTpWftMax then
      let sent := sendFlowControlFrame general rxConfig copied.rx .bufReqEBusy ans
      (sent.1.setTimeout rxConfig.canTpNbr, copied.calls ++ sent.2)
    else if copied.rx.canTpWftMaxCounter ≥ rxConfig.canTpWftMax then
      let done := abandonBuffer rxConfig copied.rx
      (done.1, copied.calls ++ done.2)
    else (copied.rx, copied.calls)
  | .bufReqENotOk =>
    let done := abandonBuffer rxConfig copied.rx
    (done.1, copied.calls ++ done.2)
  | .bufReqEOvfl => (copied.rx, copied.calls)

def rxPhySduStateMachine : SimplexChannel × List Call :=
  match rx.state with
  | .rxWaitConsecutiveFrame =>
    let rx := rx.setTimeout (decrement rx.stateTimeoutCount)
    if rx.stateTimeoutCount = 0 then finishRx rx rxConfig.pduRPduId .ntfRsltETimeoutCr
    else (rx, [])
  | .rxWaitCfSduBuffer => retryBuffer general rxConfig rx ans
  | .rxWaitSfSduBuffer => getBuffSingleFrame rxConfig rx ans
  | _ => (rx, [])

def rxFncSduStateMachine : SimplexChannel × List Call :=
  match rx.state with
  | .rxWaitSfSduBuffer => getBuffSingleFrame rxConfig rx ans
  | _ => (rx, [])

/-- `CanTp_RxIndication` picks an entry of `CanTpRxIdList` for the frames of a receive N-SDU:
with extended addressing only if N_TA is the frame's target address. -/
def selectsReceive (mode : AddressingFormat) (canTpRxPduPtr : Pdu) : Bool :=
  match mode with
  | .canTpExtended => (canTpRxPduPtr.sduDataPtr 0).toNat = rxConfig.canTpNTa
  | .canTpStandard => true

/-- `CanTp_RxIndication` finds a receive N-SDU for the frame. -/
def Config.addressed (entry : RxId) (canTpRxPduPtr : Pdu) : Bool :=
  entry.canTpNSduIndex ≠ 0xFFFF ∧
    getFrameType entry.canTpAddressingMode canTpRxPduPtr ≠ .flowControlFrame ∧
    selectsReceive (config.canTpNSduList entry.canTpNSduIndex).canTpRxNSdu
      entry.canTpAddressingMode canTpRxPduPtr

/-- The part of `CanTp_RxIndication` that serves a receive N-SDU, for an entry of
`CanTpRxIdList` that refers to it. -/
def canTpRxRxIndication (entry : RxId) (rx : SimplexChannel)
    (canTpRxPduPtr : Pdu) (ans : RxAnswers) : SimplexChannel × List Call :=
  if config.addressed entry canTpRxPduPtr then
    let canTpRxNSduId := entry.canTpNSduIndex
    let nSdu := config.canTpNSduList canTpRxNSduId
    let rxConfig := nSdu.canTpRxNSdu
    let rx := rx.setFD nSdu.canTpFDSupport
    match getFrameType entry.canTpAddressingMode canTpRxPduPtr with
    | .singleFrame => handleSingleFrame config rxConfig rx canTpRxPduPtr canTpRxNSduId ans
    | .firstFrame => handleFirstFrame config rxConfig rx canTpRxPduPtr canTpRxNSduId ans
    | .consecutiveFrame =>
      handleConsecutiveFrame config.canTpGeneral rxConfig rx canTpRxPduPtr ans
    | _ => (rx, [])
  else (rx, [])

/-- The receive part of `CanTp_MainFunction` for one channel, the physical or the functional
one. -/
def canTpRxMainFunction (kind : TaType) (rx : SimplexChannel)
    (ans : RxAnswers) : SimplexChannel × List Call :=
  if rx.pduId ≠ invalidPduId then
    let rxConfig := (config.canTpNSduList rx.pduId).canTpRxNSdu
    match kind with
    | .canTpPhysical => rxPhySduStateMachine config.canTpGeneral rxConfig rx ans
    | .canTpFunctional => rxFncSduStateMachine rxConfig rx ans
  else (rx, [])

/-- What can happen to a receive channel: a frame for an entry of `CanTpRxIdList` whose N-SDU
uses the channel, or a tick. -/
inductive RxEvent
  | rxIndication (tpIndex : Nat) (pdu : Pdu) (answers : RxAnswers)
  | mainFunction (answers : RxAnswers)

def rxStep (kind : TaType) (rx : SimplexChannel) : RxEvent → SimplexChannel × List Call
  | .rxIndication tpIndex pdu answers =>
    canTpRxRxIndication config (config.canTpRxIdList tpIndex) rx pdu answers
  | .mainFunction answers => canTpRxMainFunction config kind rx answers

/-- A physical receive N-SDU with standard addressing, on classic CAN or on CAN FD. -/
def receiveConfig (fd : Bool) : Config :=
  Config.uniform .canTpStandard {
    canTpRxNSdu := RxNSdu.sample .canTpStandard 0
    canTpTxNSdu := TxNSdu.sample .canTpStandard
    canTpFDSupport := fd }

/-- Ten bytes in a first and a consecutive frame. -/
def tenByteTransfer : List RxEvent :=
  [.rxIndication 0 (.ofList [0x10, 10, 1, 2, 3, 4, 5, 6]) (.agreeing 100),
    .rxIndication 0 (.ofList [0x21, 7, 8, 9, 10, 0, 0, 0]) (.agreeing 100)]

end CanTp
