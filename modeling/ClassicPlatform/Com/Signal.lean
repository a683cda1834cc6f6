import ClassicPlatform.Lib.ByteLanes

/-!
# Com signal packing

The access paths of `Com_misc.c` between a signal and the I-PDU it is mapped to.
The 32-bit and the 64-bit path run the same code at two word widths; both are
`readWord` and `writeWord` below, instantiated at the width.
-/
namespace Com

open ByteLanes

/-- `ComSignalEndianess_type`. -/
inductive SignalEndianess
  | comLittleEndian
  | comBigEndian
  | comOpaque
  deriving DecidableEq, Repr

/-- `Com_SignalType`. -/
inductive SignalType
  | comBoolean
  | comUint8
  | comUint16
  | comUint32
  | comUint64
  | comUint8N
  | comUint8Dyn
  | comSint8
  | comSint16
  | comSint32
  | comSint64
  deriving DecidableEq, Repr

/-- Width in bits of the C object behind a `SignalData` pointer of an integer type. -/
def SignalType.width : SignalType → Nat
  | .comBoolean | .comUint8 | .comSint8 => 8
  | .comUint16 | .comSint16 => 16
  | .comUint32 | .comSint32 => 32
  | .comUint64 | .comSint64 => 64
  | .comUint8N | .comUint8Dyn => 8

/-- The signal types held in one C integer object. -/
def SignalType.isInteger (t : SignalType) : Bool := t ≠ .comUint8N && t ≠ .comUint8Dyn

def SignalType.isSigned : SignalType → Bool
  | .comSint8 | .comSint16 | .comSint32 | .comSint64 => true
  | _ => false

/-- Byte order of the machine the code runs on; it decides how a C integer
object behind a `uint8 *` is laid out. -/
inductive HostOrder
  | littleEndianHost
  | bigEndianHost
  deriving DecidableEq, Repr

def HostOrder.lanes : HostOrder → Nat → List Int
  | .littleEndianHost, count => ascending 0 count
  | .bigEndianHost, count => descending 0 count

variable (host : HostOrder) (w : Nat) (comIPduDataPtr : Memory) (bitPosition bitSize : Nat)
variable (endian : SignalEndianess)

/-- Read the integer object of `w` bits behind a `uint8 *`, as `*(uintw *)ptr` does. -/
def loadObject (ptr : Memory) : BitVec w :=
  load ptr (host.lanes (w / 8))

/-- `*(uintw *)ptr = v`. -/
def storeObject {w : Nat} (ptr : Memory) (v : BitVec w) : Memory :=
  store ptr (host.lanes (w / 8)) v

/-- `((bitPosition ^ 0x7u) + bitSize - 1) ^ 7u`, the index of the least significant bit of a
big-endian signal. -/
def bigEndianLsbIndex : Nat :=
  ((bitPosition ^^^ 7) + bitSize - 1) ^^^ 7

def lsbIndex (bitPosition bitSize : Nat) : Nat :=
  match endian with
  | .comBigEndian => bigEndianLsbIndex bitPosition bitSize
  | _ => bitPosition

/-- The `w / 8` bytes behind `pduDataPtr`, least significant first. In the big-endian case
`pduDataPtr` stands `w / 8 - 1` bytes before the byte of the least significant bit. -/
def pduLanes (w lsb : Nat) : List Int :=
  match endian with
  | .comBigEndian => descending ((lsb / 8 : Nat) - ((w / 8 : Nat) - 1 : Int)) (w / 8)
  | _ => ascending (lsb / 8 : Nat) (w / 8)

/-- The byte past the most significant end of the window: `pduDataPtr[-1]` in the
big-endian case, `pduDataPtr[w / 8]` in the little-endian one. -/
def spillByte (w lsb : Nat) : Int :=
  match endian with
  | .comBigEndian => (lsb / 8 : Nat) - ((w / 8 : Nat) - 1 : Int) - 1
  | _ => (lsb / 8 : Nat) + (w / 8 : Nat)

/-- `0xFF..FF >> (w - bitSize)`. -/
def signalMask (w bitSize : Nat) : BitVec w := BitVec.allOnes w >>> (w - bitSize)

/-- The data word of a signal as the read paths assemble it, before sign extension. -/
def readWord : BitVec w :=
  let lsb := lsbIndex endian bitPosition bitSize
  let bitShift := lsb % 8
  let pduData : BitVec w := load comIPduDataPtr (pduLanes endian w lsb)
  let pduData := pduData >>> bitShift
  let pduData :=
    if w - bitShift < bitSize then
      pduData ||| ((comIPduDataPtr (spillByte endian w lsb)).setWidth w <<< (w - bitShift))
    else pduData
  pduData &&& signalMask w bitSize

/-- `if(0 < (pduData & signmask)) pduData |= signmask`. -/
def addSignBits {w : Nat} (bitSize : Nat) (pduData : BitVec w) : BitVec w :=
  let signmask := ~~~(signalMask w bitSize >>> 1)
  if 0#w < pduData &&& signmask then pduData ||| signmask else pduData

/-- The second update of `*dataChanged`: `|=` in the big-endian path and `=` in the little-endian
one. -/
def spillChanged (endian : SignalEndianess) (differs dataChanged : Bool) : Bool :=
  match endian with
  | .comBigEndian => dataChanged || (if differs then true else dataChanged)
  | _ => if differs then true else dataChanged

theorem spillChanged_eq (endian : SignalEndianess) (differs dataChanged : Bool) :
    spillChanged endian differs dataChanged = (differs || dataChanged) := by
  cases endian <;> cases differs <;> cases dataChanged <;> rfl

/-- The read-modify-write of a masked signal value, with the `dataChanged` flag. -/
def writeWord (sigVal : BitVec w) (comIPduDataPtr : Memory)
    (bitPosition bitSize : Nat) (endian : SignalEndianess) : Memory × Bool :=
  let mask := signalMask w bitSize
  let sigVal := sigVal &&& mask
  let lsb := lsbIndex endian bitPosition bitSize
  let bitShift := lsb % 8
  let lanes := pduLanes endian w lsb
  let pduData : BitVec w := load comIPduDataPtr lanes
  let newPduData := (pduData &&& ~~~(mask <<< bitShift)) ||| (sigVal <<< bitShift)
  let dataChanged := newPduData != pduData
  let ptr := store comIPduDataPtr lanes newPduData
  let maxBitsWritten := w - bitShift
  if maxBitsWritten < bitSize then
    let spill := spillByte endian w lsb
    let pduData : BitVec w := (ptr spill).setWidth w
    let newPduData := (pduData &&& ~~~(mask >>> maxBitsWritten)) ||| (sigVal >>> maxBitsWritten)
    (Function.update ptr spill (newPduData.setWidth 8),
      spillChanged endian (newPduData != pduData) dataChanged)
  else (ptr, dataChanged)

/-- `memcpy(dst + target, src + source, length)`. -/
def memcpy (dst : Memory) (target : Int) (src : Memory) (source : Int) (length : Nat) : Memory :=
  fun x => if target ≤ x ∧ x < target + length then src (source + (x - target)) else dst x

/-- `memcmp(left + offset, right, length) != 0`. -/
def memDiffers (left : Memory) (offset : Int) (right : Memory) (length : Nat) : Bool :=
  (List.range length).any fun i : Nat => left (offset + (i : Int)) != right (i : Int)

/-- `Com_Misc_ReadSignalDataFromPdu64Bits`. -/
def readSignalDataFromPdu64Bits (signalType : SignalType) (signalData : Memory) : Memory :=
  let pduData := readWord 64 comIPduDataPtr bitPosition bitSize endian
  match signalType with
  | .comSint64 => storeObject host signalData (addSignBits bitSize pduData)
  | .comUint64 => storeObject host signalData pduData
  | _ => signalData

/-- `Com_Misc_ReadSignalDataFromPdu`. -/
def readSignalDataFromPdu (signalType : SignalType) (signalData : Memory) : Memory :=
  if endian = .comOpaque ∨ signalType = .comUint8N then
    memcpy signalData 0 comIPduDataPtr (bitPosition / 8 : Nat) (bitSize / 8)
  else if signalType ≠ .comUint64 ∧ signalType ≠ .comSint64 then
    let pduData := readWord 32 comIPduDataPtr bitPosition bitSize endian
    match signalType with
    | .comSint8 => storeObject host signalData ((addSignBits bitSize pduData).setWidth 8)
    | .comBoolean | .comUint8 => storeObject host signalData (pduData.setWidth 8)
    | .comSint16 => storeObject host signalData ((addSignBits bitSize pduData).setWidth 16)
    | .comUint16 => storeObject host signalData (pduData.setWidth 16)
    | .comSint32 => storeObject host signalData (addSignBits bitSize pduData)
    | .comUint32 => storeObject host signalData pduData
    | .comUint8N | .comUint8Dyn | .comSint64 | .comUint64 => signalData
  else
    readSignalDataFromPdu64Bits host comIPduDataPtr bitPosition bitSize endian signalType signalData

/-- `Com_Misc_WriteSignalDataToPdu64Bits`. -/
def writeSignalDataToPdu64Bits (signalDataPtr : Memory)
    (comIPduDataPtr : Memory) (bitPosition bitSize : Nat) (endian : SignalEndianess) :
    Memory × Bool :=
  writeWord 64 (loadObject host 64 signalDataPtr) comIPduDataPtr bitPosition bitSize endian

/-- `Com_Misc_WriteSignalDataToPdu`; the result is the I-PDU memory and `*dataChanged`. -/
def writeSignalDataToPdu (signalDataPtr : Memory) (signalType : SignalType)
    (comIPduDataPtr : Memory) (bitPosition bitSize : Nat) (endian : SignalEndianess) :
    Memory × Bool :=
  if endian = .comOpaque ∨ signalType = .comUint8N then
    (memcpy comIPduDataPtr (bitPosition / 8 : Nat) signalDataPtr 0 (bitSize / 8),
      memDiffers comIPduDataPtr (bitPosition / 8 : Nat) signalDataPtr (bitSize / 8))
  else if signalType ≠ .comUint64 ∧ signalType ≠ .comSint64 then
    let sigVal : BitVec 32 :=
      match signalType with
      | .comBoolean | .comUint8 | .comSint8 => (loadObject host 8 signalDataPtr).setWidth 32
      | .comUint16 | .comSint16 => (loadObject host 16 signalDataPtr).setWidth 32
      | .comUint32 | .comSint32 => loadObject host 32 signalDataPtr
      | .comUint8N | .comUint8Dyn | .comUint64 | .comSint64 => 0
    writeWord 32 sigVal comIPduDataPtr bitPosition bitSize endian
  else
    writeSignalDataToPdu64Bits host signalDataPtr comIPduDataPtr bitPosition bitSize endian

end Com
