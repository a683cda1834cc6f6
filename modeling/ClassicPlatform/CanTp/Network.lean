import ClassicPlatform.Lib.Machine
import ClassicPlatform.CanTp.Transmitter
import ClassicPlatform.CanTp.Receiver
import ClassicPlatform.CanTp.Segmentation

/-!
# Two nodes on a CAN bus

A transmit N-SDU of one node is connected to a receive N-SDU of another. Frames
travel in order in both directions; which node acts next is open. The upper layer
of the sender provides the SDU as it is asked for, the one of the receiver answers
as it likes within the conditions of a run.
-/
namespace CanTp

open Machine

structure Link where
  sender : Config
  txSduId : Nat
  receiver : Config
  tpIndex : Nat
  sdu : List Byte

namespace Link

variable (link : Link)

def txConfig : TxNSdu := link.sender.txConfig link.txSduId

def format : AddressingFormat := link.txConfig.canTpAddressingMode

/-- The address byte of the frames to the receiver. -/
def target : Byte := BitVec.ofNat 8 link.txConfig.canTpNTa

def entry : RxId := link.receiver.canTpRxIdList link.tpIndex

def rxNSdu : NSdu := link.receiver.canTpNSduList link.entry.canTpNSduIndex

def rxConfig : RxNSdu := link.rxNSdu.canTpRxNSdu

/-- The two N-SDUs fit together: one addressing format, the same N_TA and N_SA, classic CAN with
frames of eight bytes. -/
structure Matching : Prop where
  txIndex : link.sender.txIndex link.txSduId ≠ 0xFFFF
  rxIndex : link.entry.canTpNSduIndex ≠ 0xFFFF
  rxFormat : link.rxConfig.canTpAddressingFormant = link.format
  rxMode : link.entry.canTpAddressingMode = link.format
  txClassic : (link.sender.canTpNSduList (link.sender.txIndex link.txSduId)).canTpFDSupport = false
  rxClassic : link.rxNSdu.canTpFDSupport = false
  padded : link.txConfig.canTpTxPaddingActivation = true → link.txConfig.canTpNPduLen = 8
  addresses : link.format = .canTpExtended →
    link.txConfig.canTpNTa = link.rxConfig.canTpNTa ∧
    link.txConfig.canTpNSa = link.rxConfig.canTpNSa ∧ link.txConfig.canTpNTa < 256
  blockSize : link.rxConfig.canTpBs < 256

/-- The sender's neighbours agree to everything, after `provided` bytes of the SDU. -/
def txAnswers (provided : Nat) : TxAnswers where
  copyTxData := .bufReqOk
  txData := fun i => link.sdu.getD (provided + i) 0
  canIfTransmit := .eOk

/-- Two nodes with ordinary parameters. -/
def sample (format : AddressingFormat) (bs stMin : Nat) (sdu : List Byte) : Link where
  sender := Config.uniform format {
    canTpRxNSdu := RxNSdu.sample format bs
    canTpTxNSdu := TxNSdu.sample format
    canTpFDSupport := false }
  txSduId := 0
  receiver := Config.uniform format {
    canTpRxNSdu := { RxNSdu.sample format bs with canTpSTmin := stMin }
    canTpTxNSdu := TxNSdu.sample format
    canTpFDSupport := false }
  tpIndex := 0
  sdu := sdu

theorem sample_matching (format : AddressingFormat) {bs : Nat} (byte : bs < 256) (stMin : Nat)
    (sdu : List Byte) : (sample format bs stMin sdu).Matching where
  txIndex := show (0 : Nat) ≠ 0xFFFF by decide
  rxIndex := show (0 : Nat) ≠ 0xFFFF by decide
  rxFormat := rfl
  rxMode := rfl
  txClassic := rfl
  rxClassic := rfl
  padded := fun _ => rfl
  addresses := fun _ => ⟨rfl, rfl, show (2 : Nat) < 256 by decide⟩
  blockSize := byte

end Link

structure Network where
  tx : SimplexChannel
  rx : SimplexChannel
  /-- How much of the SDU the sender's upper layer has handed out. -/
  provided : Nat
  /-- Data frames whose `CanTp_TxConfirmation` is outstanding. -/
  unconfirmed : Nat
  /-- Frames on their way to the receiver, the oldest first. -/
  data : List (List Byte)
  /-- Flow control frames on their way to the sender. -/
  flow : List (List Byte)

inductive Action
  | senderMain
  | txConfirmation
  | deliverData (answers : RxAnswers)
  | deliverFlowControl
  | receiverMain (answers : RxAnswers)

/-- What can be seen of a run: the calls of both nodes, and after how many frames the sender
starts to wait for flow control and the receiver sends a clear-to-send frame. -/
inductive Observation
  | sender (call : Call)
  | receiver (call : Call)
  | waits (frames : Nat)
  | grants (frames : Nat)
  deriving DecidableEq

/-- The frames given to `CanIf_Transmit`. -/
def transmitted (calls : List Call) : List (List Byte) :=
  calls.filterMap fun call => match call with
    | .canIfTransmit _ frame .eOk => some frame
    | _ => none

/-- The number of bytes taken from the sender's upper layer. -/
def requested (calls : List Call) : Nat :=
  (calls.map fun call => match call with
    | .pduRCopyTxData _ sduLength .bufReqOk => sduLength
    | _ => 0).sum

variable (link : Link) (net : Network) (rx : SimplexChannel)

def Link.clearToSend (frame : List Byte) : Bool :=
  frame.getD link.format.tpciOffset 0 = 0x30#8

def Network.senderActs (result : SimplexChannel × List Call) : Network × List Observation :=
  ({ net with
      tx := result.1
      provided := net.provided + requested result.2
      unconfirmed := net.unconfirmed + (transmitted result.2).length
      data := net.data ++ transmitted result.2 },
    result.2.map .sender ++
      if net.tx.state ≠ .txWaitFlowControl ∧ result.1.state = .txWaitFlowControl then
        [.waits result.1.framesHandledCount]
      else [])

def Network.receiverActs (result : SimplexChannel × List Call) : Network × List Observation :=
  ({ net with rx := result.1, flow := net.flow ++ transmitted result.2 },
    result.2.map .receiver ++
      ((transmitted result.2).filter link.clearToSend).map
        fun _ => .grants result.1.framesHandledCount)

def Network.step : Action → Network × List Observation
  | .senderMain =>
    net.senderActs (canTpTxMainFunction link.sender net.tx (link.txAnswers net.provided))
  | .txConfirmation =>
    { net with unconfirmed := net.unconfirmed - 1 }.senderActs
      (canTpTxConfirmation link.sender.canTpGeneral link.txConfig net.tx
        (link.txAnswers net.provided))
  | .deliverData answers =>
    match net.data with
    | [] => (net, [])
    | frame :: rest =>
      { net with data := rest }.receiverActs link
        (canTpRxRxIndication link.receiver link.entry net.rx (.ofList frame) answers)
  | .deliverFlowControl =>
    match net.flow with
    | [] => (net, [])
    | frame :: rest =>
      { net with flow := rest }.senderActs
        (canTpTxRxIndication link.txConfig link.format net.tx (.ofList frame))
  | .receiverMain answers =>
    net.receiverActs link
      (canTpRxMainFunction link.receiver link.rxConfig.canTpRxTaType net.rx answers)

/-- The state in which `CanTp_Transmit` leaves two idle channels. -/
def Link.start (tx rx : SimplexChannel) : Network where
  tx := (canTpTransmit link.sender link.txSduId link.sdu.length tx).2
  rx := rx
  provided := 0
  unconfirmed := 0
  data := []
  flow := []

/-- Confirmations and frames arrive only if they are on their way, flow control frames not
before the confirmation of the frame they answer, and no timer expires. -/
def Timely : Action → Prop
  | .senderMain =>
    net.tx.state = .txWaitFlowControl ∨ net.tx.state = .txWaitTxConfirmation →
      1 < net.tx.stateTimeoutCount
  | .txConfirmation => 0 < net.unconfirmed
  | .deliverData _ => net.data ≠ []
  | .deliverFlowControl => net.flow ≠ [] ∧ net.unconfirmed = 0
  | .receiverMain _ =>
    net.rx.state = .rxWaitConsecutiveFrame → link.rxConfig.canTpRxTaType = .canTpPhysical →
      1 < net.rx.stateTimeoutCount

instance : (action : Action) → Decidable (Timely link net action)
  | .senderMain => inferInstanceAs (Decidable (_ ∨ _ → _))
  | .txConfirmation => inferInstanceAs (Decidable (_ < _))
  | .deliverData _ => inferInstanceAs (Decidable (net.data ≠ []))
  | .deliverFlowControl => inferInstanceAs (Decidable (net.flow ≠ [] ∧ _))
  | .receiverMain _ => inferInstanceAs (Decidable (_ → _ → _))

/-- The free space reported with a clear-to-send frame covers the announced block, or all frames
that are still missing; one frame more fits into the local buffer. -/
def Link.Ample (free missing : Nat) : Prop :=
  min link.rxConfig.canTpBs ((missing + (link.format.payload - 1)) / link.format.payload) ≤
    free / link.format.payload + 1
  deriving Decidable

/-- How the receiver's upper layer answers to the segment in the frame. -/
def Link.answer (pdu : Pdu) (ans : RxAnswers) : BufReq :=
  match getFrameType link.format pdu with
  | .singleFrame => ans.firstResult (getPduLength link.format .singleFrame pdu)
  | .firstFrame => ans.firstResult (firstFramePayload link.rxConfig false)
  | .consecutiveFrame => segmentResult rx (currentSegmentSize link.rxConfig rx pdu) ans
  | _ => .bufReqOk

/-- The receiver can put the segment off: the first one, or the last of a block. -/
def Link.deferrable (pdu : Pdu) : Bool :=
  match getFrameType link.format pdu with
  | .firstFrame => true
  | .consecutiveFrame =>
    rx.nextFlowControlCount = 1 ∧
      link.rxConfig.exceedsFrame (sub16 rx.transferTotal rx.transferCount)
  | _ => false

/-- How much is missing after the frame, if clear-to-send is the answer to it. -/
def Link.missing (pdu : Pdu) : Option Nat :=
  match getFrameType link.format pdu with
  | .firstFrame => some (link.sdu.length - firstFramePayload link.rxConfig false)
  | .consecutiveFrame =>
    if rx.nextFlowControlCount = 1 then
      some (sub16 rx.transferTotal rx.transferCount - currentSegmentSize link.rxConfig rx pdu)
    else none
  | _ => none

section Conditions

variable (link : Link) (net : Network) (rx : SimplexChannel) (pdu : Pdu) (ans : RxAnswers)

/-- The receiver's upper layer takes the segment. -/
def Link.Taken : Prop := link.answer rx pdu ans = .bufReqOk
  deriving Decidable

/-- The answers let the receiver store the frame. -/
def Link.Storable : Prop :=
  link.Taken rx pdu ans ∨ link.answer rx pdu ans = .bufReqEBusy ∧ link.deferrable rx pdu = true
  deriving Decidable

/-- If the frame is answered with clear-to-send, the block is covered. -/
def Link.Covered : Prop :=
  link.Taken rx pdu ans → ∀ missing ∈ link.missing rx pdu, link.Ample ans.copyRxData.2 missing
  deriving Decidable

/-- The same for a tick that retries a segment: the reception goes on, and if it is granted the
block is covered. -/
def Link.Retries : Prop :=
  let size := rx.canFrameBuffer.byteCount
  rx.state = .rxWaitCfSduBuffer →
    ans.firstResult size ≠ .bufReqENotOk ∧
    (ans.firstResult size = .bufReqEBusy → rx.canTpWftMaxCounter < link.rxConfig.canTpWftMax) ∧
    (ans.firstResult size = .bufReqOk →
      link.Ample ans.copyRxData.2 (rx.transferTotal - (rx.transferCount + size)))
  deriving Decidable

/-- The answers of the receiver's neighbours let it store what arrives and cover the blocks it
grants. -/
def Supports : Action → Prop
  | .deliverData answers =>
    answers.canIfTransmit = .eOk ∧ ∀ frame ∈ net.data.head?,
      link.Storable net.rx (.ofList frame) answers ∧ link.Covered net.rx (.ofList frame) answers
  | .receiverMain answers => answers.canIfTransmit = .eOk ∧ link.Retries net.rx answers
  | _ => True

instance : Decidable (link.Taken rx pdu ans) := inferInstanceAs (Decidable (_ = _))

instance : Decidable (link.Storable rx pdu ans) := inferInstanceAs (Decidable (_ ∨ _))

instance : Decidable (link.Covered rx pdu ans) := inferInstanceAs (Decidable (_ → _))

instance : (action : Action) → Decidable (Supports link net action)
  | .deliverData _ | .receiverMain _ => inferInstanceAs (Decidable (_ ∧ _))
  | .senderMain | .txConfirmation | .deliverFlowControl => inferInstanceAs (Decidable True)

end Conditions

/-- What the observers of a run have learned: the bytes taken by the receiver's upper layer, the
results reported to both upper layers, and after how many frames the sender has waited and the
receiver has sent clear-to-send frames. -/
structure Observed where
  received : List Byte
  indicated : Option NotifResult
  confirmed : Option NotifResult
  waits : List Nat
  grants : List Nat

def Observed.nothing : Observed := ⟨[], none, none, [], []⟩

/-- The result `PduR_CanTpTxConfirmation` has reported by now if all goes well. -/
def SimplexChannel.confirmation (tx : SimplexChannel) : Option NotifResult :=
  if tx.state = .idle then some .ntfRsltOk else none

/-- Data after an indication, a second indication or confirmation and calls for another N-SDU
are out of order. -/
def observe (seen : Observed) : Observation → Option Observed
  | .receiver (.pduRCopyRxData id _ bytes .bufReqOk) =>
    if seen.indicated = none ∧ id = link.rxConfig.pduRPduId then
      some { seen with received := seen.received ++ bytes }
    else none
  | .receiver (.pduRRxIndication id result) =>
    if seen.indicated = none ∧ id = link.rxConfig.pduRPduId then
      some { seen with indicated := some result }
    else none
  | .sender (.pduRTxConfirmation id result) =>
    if seen.confirmed = none ∧ id = link.txConfig.pduRPduId then
      some { seen with confirmed := some result }
    else none
  | .waits frames => some { seen with waits := seen.waits ++ [frames] }
  | .grants frames => some { seen with grants := seen.grants ++ [frames] }
  | _ => some seen

end CanTp
