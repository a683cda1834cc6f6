import Mathlib.Algebra.GroupWithZero.Nat
import Mathlib.Tactic.Common

/-!
# CanTp data model

Configuration and run-time data of the ISO 15765 transport layer in `CanTp.c`.
`PduLengthType` and `PduIdType` are `uint16`: lengths are natural numbers and
wrap where the source subtracts or accumulates them. Fields that the source only
writes (`mode`, the N_As/N_Ar book-keeping) are left out.
-/
namespace CanTp

abbrev Byte := BitVec 8

inductive AddressingFormat
  | canTpExtended
  | canTpStandard
  deriving DecidableEq, Repr

inductive TaType
  | canTpFunctional
  | canTpPhysical
  deriving DecidableEq, Repr

inductive StdReturn
  | eOk
  | eNotOk
  deriving DecidableEq, Repr

/-- `BufReq_ReturnType`. -/
inductive BufReq
  | bufReqOk
  | bufReqENotOk
  | bufReqEBusy
  | bufReqEOvfl
  deriving DecidableEq, Repr

/-- The `NotifResultType` values CanTp reports. -/
inductive NotifResult
  | ntfRsltOk
  | ntfRsltENotOk
  | ntfRsltETimeoutA
  | ntfRsltETimeoutBs
  | ntfRsltETimeoutCr
  | ntfRsltEWrongSn
  | ntfRsltEInvalidFs
  | ntfRsltENoBuffer
  deriving DecidableEq, Repr

/-- `ISO15765TransferStateTypes`. -/
inductive TransferState
  | uninitialized
  | idle
  | sfOrFfReceivedWaitingPdurBuffer
  | rxWaitConsecutiveFrame
  | rxWaitSfSduBuffer
  | rxWaitCfSduBuffer
  | txWaitStmin
  | txWaitTransmit
  | txWaitFlowControl
  | txWaitTxConfirmation
  deriving DecidableEq, Repr

/-- `ISO15765FrameType`. -/
inductive FrameType
  | invalidFrame
  | singleFrame
  | firstFrame
  | consecutiveFrame
  | flowControlFrame
  deriving DecidableEq, Repr

/-- `CanTp_RxNSduType`. -/
structure RxNSdu where
  canIfFcPduId : Nat
  pduRPduId : Nat
  canTpAddressingFormant : AddressingFormat
  canTpBs : Nat
  canTpNbr : Nat
  canTpNcr : Nat
  canTpRxPaddingActivation : Bool
  canTpRxTaType : TaType
  canTpWftMax : Nat
  canTpSTmin : Nat
  canTpNSa : Nat
  canTpNTa : Nat
  deriving Repr

/-- `CanTp_TxNSduType`. -/
structure TxNSdu where
  canIfPduId : Nat
  pduRPduId : Nat
  canTpNPduLen : Nat
  canTpAddressingMode : AddressingFormat
  canTpNas : Nat
  canTpNbs : Nat
  canTpNcs : Nat
  canTpTxPaddingActivation : Bool
  canTpTxTaType : TaType
  canTpNSa : Nat
  canTpNTa : Nat
  deriving Repr

/-- `CanTp_GeneralType`, with the compile-time switch `CANTP_DEV_ERROR_DETECT`. -/
structure General where
  mainFunctionPeriod : Nat
  numberOfSdus : Nat
  padding : Byte
  devErrorDetect : Bool
  deriving Repr

/-- `CanTp_NSduType`; both members of the `configData` union are kept, the code
picks one without looking at the direction. -/
structure NSdu where
  canTpRxNSdu : RxNSdu
  canTpTxNSdu : TxNSdu
  canTpFDSupport : Bool
  deriving Repr

/-- `CanTp_RxIdType`. -/
structure RxId where
  canTpAddressingMode : AddressingFormat
  canTpNSduIndex : Nat
  deriving Repr

structure Config where
  canTpGeneral : General
  canTpNSduList : Nat → NSdu
  canTpRxIdList : Nat → RxId

/-- Ordinary receive parameters with this addressing format and block size. -/
def RxNSdu.sample (format : AddressingFormat) (bs : Nat) : RxNSdu where
  canIfFcPduId := 3
  pduRPduId := 5
  canTpAddressingFormant := format
  canTpBs := bs
  canTpNbr := 10
  canTpNcr := 10
  canTpRxPaddingActivation := true
  canTpRxTaType := .canTpPhysical
  canTpWftMax := 2
  canTpSTmin := 0
  canTpNSa := 1
  canTpNTa := 2

/-- Ordinary transmit parameters with this addressing format. -/
def TxNSdu.sample (format : AddressingFormat) : TxNSdu where
  canIfPduId := 4
  pduRPduId := 7
  canTpNPduLen := 8
  canTpAddressingMode := format
  canTpNas := 10
  canTpNbs := 10
  canTpNcs := 10
  canTpTxPaddingActivation := false
  canTpTxTaType := .canTpPhysical
  canTpNSa := 1
  canTpNTa := 2

/-- A configuration whose only N-SDU has index 0. -/
def Config.uniform (format : AddressingFormat) (nSdu : NSdu) : Config where
  canTpGeneral :=
    { mainFunctionPeriod := 1, numberOfSdus := 1, padding := 0, devErrorDetect := true }
  canTpNSduList := fun _ => nSdu
  canTpRxIdList := fun _ => { canTpAddressingMode := format, canTpNSduIndex := 0 }

def invalidPduId : Nat := 0xFFFF

/-- A received `PduInfoType`. `sduDataPtr` shows the memory from the frame on, also
past the frame's last byte. -/
structure Pdu where
  sduDataPtr : Nat → Byte
  sduLength : Nat

def Pdu.ofList (bytes : List Byte) : Pdu where
  sduDataPtr := fun i => bytes.getD i 0
  sduLength := bytes.length

/-- `CanIfSduType`. -/
structure CanIfSdu where
  data : Nat → Byte
  byteCount : Nat

/-- `CanTp_SimplexChannelPrivateType` with its `ISO15765TransferControlType` inlined. -/
structure SimplexChannel where
  nextFlowControlCount : Nat
  framesHandledCount : Nat
  stateTimeoutCount : Nat
  extendedAddress : Byte
  stMin : Nat
  bs : Nat
  state : TransferState
  transferTotal : Nat
  transferCount : Nat
  sizeBuffer : Nat
  canFrameBuffer : CanIfSdu
  canTpWftMaxCounter : Nat
  pduId : Nat
  canfdSupport : Bool

/-- Run-time data as the C start-up code leaves it. -/
def SimplexChannel.cleared : SimplexChannel where
  nextFlowControlCount := 0
  framesHandledCount := 0
  stateTimeoutCount := 0
  extendedAddress := 0
  stMin := 0
  bs := 0
  state := .uninitialized
  transferTotal := 0
  transferCount := 0
  sizeBuffer := 0
  canFrameBuffer := { data := fun _ => 0, byteCount := 0 }
  canTpWftMaxCounter := 0
  pduId := 0
  canfdSupport := false

def SimplexChannel.setState (channel : SimplexChannel) (state : TransferState) :
    SimplexChannel :=
  { channel with state := state }

def SimplexChannel.setTimeout (channel : SimplexChannel) (count : Nat) : SimplexChannel :=
  { channel with stateTimeoutCount := count }

def SimplexChannel.setFD (channel : SimplexChannel) (canfdSupport : Bool) : SimplexChannel :=
  { channel with canfdSupport := canfdSupport }

/-- Where the bytes behind a `PduInfoType` handed to `PduR_CanTpCopyRxData` lie: at an
offset of the received frame, in the channel's local buffer, or nowhere. -/
inductive Source
  | frame (offset : Nat)
  | localBuffer
  | null
  deriving DecidableEq, Repr

/-- The calls CanTp makes to its neighbours, with what they answered, and the copies of frame
bytes it makes into the channel's local buffer. -/
inductive Call
  | localRxBuffer (offset size : Nat)
  | pduRStartOfReception (id tpSduLength : Nat) (answer : BufReq)
  | pduRCopyRxData (id : Nat) (source : Source) (bytes : List Byte) (answer : BufReq)
  | pduRRxIndication (id : Nat) (result : NotifResult)
  | pduRCopyTxData (id sduLength : Nat) (answer : BufReq)
  | pduRTxConfirmation (id : Nat) (result : NotifResult)
  | canIfTransmit (id : Nat) (frame : List Byte) (answer : StdReturn)
  deriving DecidableEq, Repr

/-- Subtraction of `uint16` values assigned to a `uint16`. -/
def sub16 (a b : Nat) : Nat := (a + (65536 - b % 65536)) % 65536

theorem sub16_of_le {a b : Nat} (le : b ≤ a) (small : a < 65536) : sub16 a b = a - b := by
  unfold sub16
  omega

theorem sub16_lt (a b : Nat) : sub16 a b < 65536 := Nat.mod_lt _ (by decide)

/-- `TIMER_DECREMENT` and `COUNT_DECREMENT`: both stop at zero. -/
def decrement (timer : Nat) : Nat := if timer > 0 then timer - 1 else timer

theorem decrement_eq (timer : Nat) : decrement timer = timer - 1 := by
  unfold decrement
  split <;> omega

/-- The bytes `ptr[0 .. n-1]`. -/
def takeBytes (ptr : Nat → Byte) (n : Nat) : List Byte := (List.range n).map ptr

@[simp] theorem length_takeBytes (ptr : Nat → Byte) (n : Nat) : (takeBytes ptr n).length = n := by
  simp [takeBytes]

/-- The position of the PCI byte. -/
def AddressingFormat.tpciOffset : AddressingFormat → Nat
  | .canTpStandard => 0
  | .canTpExtended => 1

def getFrameType (formatType : AddressingFormat) (canTpRxPduPtr : Pdu) : FrameType :=
  let kind := canTpRxPduPtr.sduDataPtr formatType.tpciOffset &&& 0x30#8
  if kind = 0x00#8 then .singleFrame
  else if kind = 0x10#8 then .firstFrame
  else if kind = 0x20#8 then .consecutiveFrame
  else if kind = 0x30#8 then .flowControlFrame
  else .invalidFrame

/-- `getPduLength`; the data length of single frames longer than a classic CAN frame is in
the byte after the PCI byte. -/
def getPduLength (formatType : AddressingFormat) (iso15765Frame : FrameType)
    (canTpRxPduPtr : Pdu) : Nat :=
  match iso15765Frame with
  | .singleFrame =>
    if canTpRxPduPtr.sduLength > 8 then
      (canTpRxPduPtr.sduDataPtr (formatType.tpciOffset + 1) &&& 0xFF#8).toNat
    else (canTpRxPduPtr.sduDataPtr formatType.tpciOffset &&& 0x0F#8).toNat
  | .firstFrame =>
    (canTpRxPduPtr.sduDataPtr (formatType.tpciOffset + 1)).toNat +
      (canTpRxPduPtr.sduDataPtr formatType.tpciOffset &&& 0x0F#8).toNat <<< 8
  | _ => 0

theorem getPduLength_lt (format : AddressingFormat) (frame : FrameType) (pdu : Pdu) :
    getPduLength format frame pdu < 4096 := by
  unfold getPduLength
  cases frame with
  | singleFrame =>
    simp only
    split <;> omega
  | firstFrame =>
    have high : (pdu.sduDataPtr format.tpciOffset &&& 0x0F#8).toNat ≤ 15 := by
      exact Nat.and_le_right
    simp only [Nat.shiftLeft_eq]
    omega
  | _ => simp

end CanTp
