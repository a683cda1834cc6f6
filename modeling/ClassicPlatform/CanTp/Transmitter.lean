import ClassicPlatform.CanTp.Types

/-!
# CanTp transmitter

The sending half of a channel. Each entry point takes the answers its neighbours
give during the call and returns the new run-time data and the calls it made.
-/
namespace CanTp

/-- What `PduR_CanTpCopyTxData` and `CanIf_Transmit` answer if they are called. The upper
layers leave `SduLength` as requested. -/
structure TxAnswers where
  copyTxData : BufReq
  txData : Nat → Byte
  canIfTransmit : StdReturn

/-- The index of the N-SDU that a transmit identifier stands for. -/
def Config.txIndex (config : Config) (canTpTxSduId : Nat) : Nat :=
  (config.canTpRxIdList canTpTxSduId).canTpNSduIndex

def Config.txConfig (config : Config) (canTpTxSduId : Nat) : TxNSdu :=
  (config.canTpNSduList (config.txIndex canTpTxSduId)).canTpTxNSdu

variable (general : General) (config : Config) (txConfig : TxNSdu) (tx : SimplexChannel)
variable (ans : TxAnswers)

def initTx15765RuntimeData : SimplexChannel :=
  { tx with
    state := .idle
    framesHandledCount := 0
    nextFlowControlCount := 0
    transferTotal := 0
    transferCount := 0
    sizeBuffer := 0
    pduId := invalidPduId }

def convertMsToMainCycles (ms : Nat) : Nat := ms / general.mainFunctionPeriod

def canTansmitPaddingHelper
    (sduLength : Nat) (ans : TxAnswers) : StdReturn × SimplexChannel × List Call :=
  if txConfig.canTpTxPaddingActivation then
    let data := fun i =>
      if sduLength ≤ i ∧ i < txConfig.canTpNPduLen then general.padding
      else tx.canFrameBuffer.data i
    (ans.canIfTransmit, { tx with canFrameBuffer := { tx.canFrameBuffer with data := data } },
      [.canIfTransmit txConfig.canIfPduId (takeBytes data txConfig.canTpNPduLen) ans.canIfTransmit])
  else
    (ans.canIfTransmit, tx,
      [.canIfTransmit txConfig.canIfPduId (takeBytes tx.canFrameBuffer.data sduLength)
        ans.canIfTransmit])

/-- The number of payload bytes `sendNextTxFrame` asks the upper layer for. -/
def nextSduLength : Nat :=
  let offset : Int := tx.canFrameBuffer.byteCount % 256
  let maxDataSize : Int := if tx.canfdSupport then txConfig.canTpNPduLen % 256 else 8
  let left : Int := (tx.transferTotal : Int) - tx.transferCount
  if left > maxDataSize - offset then ((maxDataSize - offset) % 65536).toNat
  else (left % 65536).toNat

/-- The run-time data once the upper layer has copied its bytes behind the header. -/
def fillFrame : SimplexChannel :=
  let offset := tx.canFrameBuffer.byteCount % 256
  let sduLength := nextSduLength txConfig tx
  { tx with
    canFrameBuffer :=
      { data := fun i =>
          if offset ≤ i ∧ i < offset + sduLength then ans.txData (i - offset)
          else tx.canFrameBuffer.data i
        byteCount := (tx.canFrameBuffer.byteCount + sduLength) % 65536 }
    transferCount := (tx.transferCount + sduLength) % 65536
    stateTimeoutCount := txConfig.canTpNas + 1
    state := .txWaitTxConfirmation }

def sendNextTxFrame : BufReq × SimplexChannel × List Call :=
  let offset := tx.canFrameBuffer.byteCount % 256
  let sduLength := nextSduLength txConfig tx
  let copy := Call.pduRCopyTxData txConfig.pduRPduId sduLength ans.copyTxData
  if ans.copyTxData = .bufReqOk then
    let (resp, tx, calls) := canTansmitPaddingHelper general txConfig (fillFrame txConfig tx ans)
      ((sduLength + offset) % 65536) ans
    (if resp = .eOk then .bufReqOk else .bufReqENotOk, tx, copy :: calls)
  else (ans.copyTxData, tx, [copy])

/-- The transfer is over: `PduR_CanTpTxConfirmation` and back to IDLE. -/
def finishTx (result : NotifResult) : SimplexChannel × List Call :=
  ({ tx with state := .idle, pduId := invalidPduId },
    [.pduRTxConfirmation txConfig.pduRPduId result])

/-- The number of address bytes in front of the PCI bytes. -/
def TxNSdu.addressBytes : Nat :=
  if txConfig.canTpAddressingMode = .canTpExtended then 1 else 0

/-- Count the frame that was sent and put the header of the next consecutive frame in place. -/
def prepareNextFrame : SimplexChannel :=
  let frames := (tx.framesHandledCount + 1) % 65536
  { tx with
    framesHandledCount := frames
    canFrameBuffer :=
      { data := Function.update tx.canFrameBuffer.data txConfig.addressBytes
          (BitVec.ofNat 8 (frames &&& 0x0F) + 0x20#8)
        byteCount := txConfig.addressBytes + 1 }
    nextFlowControlCount := decrement tx.nextFlowControlCount }

/-- The STmin delay in main-function cycles; values outside the ISO ranges count as the
longest one. -/
def stMinCycles (stMin : Nat) : Nat :=
  if stMin < 0x80 then convertMsToMainCycles general stMin + 1
  else if stMin > 0xF0 ∧ stMin < 0xFA then 1
  else convertMsToMainCycles general 0x7F + 1

def handleNextTxFrameSent : SimplexChannel × List Call :=
  let tx := prepareNextFrame txConfig tx
  if tx.transferTotal ≤ tx.transferCount then finishTx txConfig tx .ntfRsltOk
  else if tx.nextFlowControlCount = 0 ∧ tx.bs ≠ 0 then
    ({ tx with stateTimeoutCount := txConfig.canTpNbs + 1, state := .txWaitFlowControl }, [])
  else if tx.stMin = 0 then
    let (resp, tx, calls) := sendNextTxFrame general txConfig tx ans
    if resp = .bufReqOk then (tx, calls)
    else if resp = .bufReqEBusy then
      ({ tx with stateTimeoutCount := txConfig.canTpNcs + 1, state := .txWaitTransmit }, calls)
    else
      let (tx, done) := finishTx txConfig tx .ntfRsltENotOk
      (tx, calls ++ done)
  else
    ({ tx with stateTimeoutCount := stMinCycles general tx.stMin, state := .txWaitStmin }, [])

def handleFlowControlFrame (txPduData : Pdu) : SimplexChannel × List Call :=
  let index := txConfig.addressBytes
  if txConfig.canTpAddressingMode = .canTpExtended ∧
      (txPduData.sduDataPtr 0).toNat ≠ txConfig.canTpNSa then (tx, [])
  else if tx.state = .txWaitFlowControl then
    let flowStatus := txPduData.sduDataPtr index &&& 0x0F#8
    if flowStatus = 0#8 then
      ({ tx with
        bs := (txPduData.sduDataPtr (index + 1)).toNat
        nextFlowControlCount := (txPduData.sduDataPtr (index + 1)).toNat
        stMin := (txPduData.sduDataPtr (index + 2)).toNat
        stateTimeoutCount := txConfig.canTpNcs + 1
        state := .txWaitTransmit }, [])
    else if flowStatus = 1#8 then
      ({ tx with stateTimeoutCount := txConfig.canTpNbs + 1, state := .txWaitFlowControl }, [])
    else if flowStatus = 2#8 then finishTx txConfig tx .ntfRsltENoBuffer
    else finishTx txConfig tx .ntfRsltEInvalidFs
  else (tx, [])

/-- The `maxPayload` of `calcRequiredProtocolFrameType`: what a single frame can carry. -/
def maxPayload (canfdSupport : Bool) : Nat :=
  if txConfig.canTpAddressingMode = .canTpExtended then
    if canfdSupport then 61 else 6
  else if canfdSupport then 62 else 7

def calcRequiredProtocolFrameType : FrameType :=
  if tx.transferTotal ≤ maxPayload txConfig tx.canfdSupport then .singleFrame
  else if txConfig.canTpTxTaType = .canTpPhysical then .firstFrame
  else .invalidFrame

/-- Append one byte to the frame under construction. -/
def CanIfSdu.push (buffer : CanIfSdu) (value : Byte) : CanIfSdu :=
  { data := Function.update buffer.data buffer.byteCount value, byteCount := buffer.byteCount + 1 }

/-- The header bytes `CanTp_Transmit` puts in front of the payload. -/
def frameHeader (frame : FrameType) : List Byte :=
  (if txConfig.canTpAddressingMode = .canTpExtended then [BitVec.ofNat 8 txConfig.canTpNTa]
    else []) ++
  match frame with
  | .singleFrame =>
    if tx.canfdSupport then [0#8, 0xFF#8 &&& BitVec.ofNat 8 tx.transferTotal]
    else [0x0F#8 &&& BitVec.ofNat 8 tx.transferTotal]
  | .firstFrame =>
    [0x10#8 ||| BitVec.ofNat 8 ((tx.transferTotal &&& 0xF00) >>> 8),
      BitVec.ofNat 8 (tx.transferTotal &&& 0xFF)]
  | _ => []

/-- What `CanTp_Transmit` does on an idle channel. -/
def startTransfer (nSdu : NSdu) (internalTxNSduId sduLength : Nat) (tx : SimplexChannel) :
    StdReturn × SimplexChannel :=
  let txConfig := nSdu.canTpTxNSdu
  let tx := { tx with
    canFrameBuffer := { tx.canFrameBuffer with byteCount := 0 }
    transferCount := 0
    framesHandledCount := 0
    transferTotal := sduLength
    stateTimeoutCount := txConfig.canTpNcs + 1
    pduId := internalTxNSduId
    canfdSupport := nSdu.canTpFDSupport }
  let iso15765Frame := calcRequiredProtocolFrameType txConfig tx
  let tx := { tx with
    canFrameBuffer :=
      (frameHeader txConfig tx iso15765Frame).foldl CanIfSdu.push tx.canFrameBuffer
    state := .txWaitTransmit }
  match iso15765Frame with
  | .singleFrame => (.eOk, tx)
  -- block size 1 makes the state machine wait for flow control after the first frame
  | .firstFrame => (.eOk, { tx with nextFlowControlCount := 1, bs := 1 })
  | _ => (.eNotOk, tx)

/-- `CanTp_Transmit` for an initialised module, on the channel of the requested N-SDU. -/
def canTpTransmit (canTpTxSduId sduLength : Nat) (tx : SimplexChannel) :
    StdReturn × SimplexChannel :=
  if config.canTpGeneral.devErrorDetect ∧ ¬ canTpTxSduId < config.canTpGeneral.numberOfSdus then
    (.eNotOk, tx)
  else
    let internalTxNSduId := (config.canTpRxIdList canTpTxSduId).canTpNSduIndex
    if internalTxNSduId ≠ 0xFFFF then
      if tx.state = .idle then
        startTransfer (config.canTpNSduList internalTxNSduId) internalTxNSduId sduLength tx
      else (.eNotOk, tx)
    -- the return value is still the zero it was initialised with
    else (.eOk, tx)

/-- `CanTp_TxConfirmation` for a transmitted N-PDU. -/
def canTpTxConfirmation : SimplexChannel × List Call :=
  if tx.state = .txWaitTxConfirmation then handleNextTxFrameSent general txConfig tx ans
  else (tx, [])

/-- `CanTp_RxIndication` picks an entry of `CanTpRxIdList` for a flow control frame: with
extended addressing only if N_SA of the transmit N-SDU is the frame's target address. -/
def selectsFlowControl (mode : AddressingFormat) (canTpRxPduPtr : Pdu) : Bool :=
  match mode with
  | .canTpExtended => (canTpRxPduPtr.sduDataPtr 0).toNat = txConfig.canTpNSa
  | .canTpStandard => true

/-- The part of `CanTp_RxIndication` that serves a transmit N-SDU, for the entry of
`CanTpRxIdList` with this addressing mode that refers to it. -/
def canTpTxRxIndication (mode : AddressingFormat) (tx : SimplexChannel)
    (canTpRxPduPtr : Pdu) : SimplexChannel × List Call :=
  if selectsFlowControl txConfig mode canTpRxPduPtr ∧
      getFrameType mode canTpRxPduPtr = .flowControlFrame then
    handleFlowControlFrame txConfig tx canTpRxPduPtr
  else (tx, [])

/-- The `TX_WAIT_TRANSMIT` case of `txSduStateMachine`. -/
def transmitNext : SimplexChannel × List Call :=
  let (ret, tx, calls) := sendNextTxFrame general txConfig tx ans
  if ret = .bufReqOk then (tx, calls)
  else if ret = .bufReqEBusy then
    let tx := { tx with stateTimeoutCount := decrement tx.stateTimeoutCount }
    if tx.stateTimeoutCount = 0 then
      let (tx, done) := finishTx txConfig tx .ntfRsltENotOk
      (tx, calls ++ done)
    else (tx, calls)
  else
    let (tx, done) := finishTx txConfig tx .ntfRsltENotOk
    (tx, calls ++ done)

def txSduStateMachine : SimplexChannel × List Call :=
  match tx.state with
  | .txWaitStmin =>
    let tx := { tx with stateTimeoutCount := decrement tx.stateTimeoutCount }
    if tx.stateTimeoutCount ≠ 0 then (tx, [])
    else
      -- no break: the frame goes out in the same cycle
      transmitNext general txConfig
        { tx with state := .txWaitTransmit, stateTimeoutCount := txConfig.canTpNcs + 1 } ans
  | .txWaitTransmit => transmitNext general txConfig tx ans
  | .txWaitFlowControl =>
    let tx := { tx with stateTimeoutCount := decrement tx.stateTimeoutCount }
    if tx.stateTimeoutCount = 0 then finishTx txConfig tx .ntfRsltETimeoutBs else (tx, [])
  | .txWaitTxConfirmation =>
    let tx := { tx with stateTimeoutCount := decrement tx.stateTimeoutCount }
    if tx.stateTimeoutCount = 0 then finishTx txConfig tx .ntfRsltETimeoutA else (tx, [])
  | _ => (tx, [])

/-- The transmit part of `CanTp_MainFunction` for one channel. -/
def canTpTxMainFunction : SimplexChannel × List Call :=
  if tx.pduId ≠ invalidPduId then
    txSduStateMachine config.canTpGeneral (config.canTpNSduList tx.pduId).canTpTxNSdu tx ans
  else (tx, [])

end CanTp
