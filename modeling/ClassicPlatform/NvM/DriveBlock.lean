import ClassicPlatform.NvM.Types

/-!
# Processing of one block

`DriveBlock` advances the request for one block by one step of the block's own state machine.
It works on the record of the block and on what all blocks share. A failed assertion shuts the
system down, and so does a copy to or from a null pointer.
-/
namespace NvM

open ByteLanes (Memory)

/-- What one call of `DriveBlock` works on. -/
structure Context where
  adm : AdministrativeBlock
  ram : Memory
  workBuffer : Memory
  memIf : MemIf
  pendingErrorStatus : RequestResult
  asserted : Bool
  events : List Event

/-- `blockDone` and `status` of `DriveBlock`; with `aborted` the block counts as done but is
not finished. -/
inductive Drive where
  | more
  | done
  | aborted
  deriving DecidableEq, Repr

/-- The parameters of `DriveBlock`; `service` is the service id that the callbacks are given. -/
structure Params where
  service : NvmState
  block : Nat
  dataPtr : Option Int
  isWrite : Bool
  multiBlock : Bool
  restoreFromRom : Bool

def Context.halt (x : Context) : Context × Drive := ({ x with asserted := true }, .more)

def Context.emit (x : Context) (event : Event) : Context := { x with events := x.events ++ [event] }

/-- The record with a final status, ready for the next request. -/
def AdministrativeBlock.finish (adm : AdministrativeBlock) (status : RequestResult) :
    AdministrativeBlock :=
  { adm with blockState := .memifReq, errorStatus := status }

section

variable (config : Config) (p : Params)

variable (buffer : Int) (answer : Answer) (block : Nat) (x : Context)

/-- The RAM that a request works on: the caller's buffer, or else the permanent RAM block. -/
def ramData (dataPtr : Option Int) : Option Int :=
  dataPtr.or (config.block block).ramBlockDataAddress

def writeCrcToBuffer (ramCrc : BitVec 32) (buffer : Memory) : Memory :=
  let bPtr := config.block block
  if bPtr.blockUseCrc then
    if bPtr.blockCRCType = .crc16 then
      ByteLanes.store buffer (ByteLanes.descending bPtr.nvBlockLength 2) (ramCrc.setWidth 16)
    else ByteLanes.store buffer (ByteLanes.descending bPtr.nvBlockLength 4) ramCrc
  else buffer

/-- The checksum that follows the user data in a buffer. -/
def readCrcFromBuffer (buffer : Memory) : BitVec 32 :=
  let bPtr := config.block block
  if bPtr.blockCRCType = .crc16 then
    (ByteLanes.load buffer (ByteLanes.descending bPtr.nvBlockLength 2) : BitVec 16).setWidth 32
  else ByteLanes.load buffer (ByteLanes.descending bPtr.nvBlockLength 4)

/-- Go on with the other copy of a redundant block. The first result is the new record, the
second tells whether there is another copy to try; the assertion is about the configuration. -/
def handleRedundantBlock (adm : AdministrativeBlock) : Option (AdministrativeBlock × Bool) :=
  let bPtr := config.block block
  if bPtr.blockManagementType = .redundant then
    if adm.flags = 1 then
      if bPtr.nvBlockNum = 2 then
        some ({ adm with
          dataIndex := if adm.dataIndex ≠ 0 then 0 else 1
          blockState := .memifReq
          flags := (adm.flags + 1) % 256 }, true)
      else none
    else some ({ adm with flags := (adm.flags + 1) % 256 }, false)
  else some (adm, false)

/-! ## BLOCK_STATE_MEMIF_REQ -/

/-- The request ends without a job. -/
def failRequest : Context × Drive :=
  ({ x with adm := { x.adm with errorStatus := .notOk } }, .done)

def requestWrite : Context × Drive :=
  let bPtr := config.block p.block
  if p.multiBlock && p.dataPtr.isSome then x.halt
  else
    match x.adm.savedDataPtr with
    | none => x.halt
    | some source =>
      let data := Buffer.copy x.workBuffer 0 x.ram source bPtr.nvBlockLength
      let x := { x with workBuffer := writeCrcToBuffer config p.block x.adm.ramCrc data }
      if x.adm.dataIndex < bPtr.nvBlockNum then
        match x.memIf.request answer (.write (config.blockNr p.block x.adm.dataIndex)) with
        | (memIf, .accepted) =>
          (({ x with memIf, adm := { x.adm with blockState := .memifProcess } }).emit
            (.memIfWrite p.service p.block x.adm.dataIndex source
              (Buffer.bytes x.ram source bPtr.nvBlockLength)), .more)
        | (_, .busy) => (x, .more)
        | (_, .refused) => failRequest x
      else failRequest x

/-- The user data that an NV block holds. -/
def Config.contents (block set : Nat) (memIf : MemIf) : Option (List Byte) :=
  (memIf.nv (config.blockNr block set)).map
    fun data => Buffer.bytes data 0 (config.block block).nvBlockLength

def requestRead : Context × Drive :=
  let bPtr := config.block p.block
  let length := (bPtr.nvBlockLength + crcLength bPtr.blockUseCrc bPtr.blockCRCType) % 65536
  if x.adm.dataIndex < bPtr.nvBlockNum then
    match x.memIf.request answer (.read (config.blockNr p.block x.adm.dataIndex) length) with
    | (memIf, .accepted) =>
      (({ x with memIf, adm := { x.adm with blockState := .memifProcess } }).emit
        (.memIfRead p.service p.block x.adm.dataIndex x.adm.savedDataPtr
          (config.contents p.block x.adm.dataIndex x.memIf)), .more)
    | (_, .busy) => (x, .more)
    | (_, .refused) => failRequest x
  else failRequest x

/-- Write the user data of a block to the RAM. -/
def copyToRam (source : Memory) (x : Context) : Context :=
  ({ x with ram := Buffer.copy x.ram buffer source 0 (config.block p.block).nvBlockLength }).emit
    (.copied p.service p.block buffer (Buffer.bytes source 0 (config.block p.block).nvBlockLength))

def restoreDefaults : Context × Drive :=
  match (config.block p.block).romBlockDataAddress, x.adm.savedDataPtr with
  | some rom, some buffer =>
    let x := copyToRam config p buffer rom x
    ({ x with adm := { x.adm with errorStatus := .ok } }, .done)
  | _, _ => x.halt

def memifReq : Context × Drive :=
  let x := { x with adm := { x.adm with savedDataPtr := ramData config p.block p.dataPtr } }
  if p.isWrite then requestWrite config p answer x
  else if p.restoreFromRom then restoreDefaults config p x
  else requestRead config p answer x

/-! ## BLOCK_STATE_MEMIF_PROCESS -/

/-- The data of the block is in the work buffer. -/
def deliver : Context × Drive :=
  let bPtr := config.block p.block
  match x.adm.savedDataPtr with
  | none => x.halt
  | some buffer =>
    if bPtr.blockUseCrc then
      let x := { x with
        adm := { x.adm with ramCrc := readCrcFromBuffer config p.block x.workBuffer } }
      let x := copyToRam config p buffer x.workBuffer x
      if bPtr.calcRamBlockCrc then
        ({ x with
          adm := { x.adm with
            blockState := .calcCrcRead
            blockSubState := .substate0
            flags := 0 } }, .more)
      else (({ x with adm := x.adm.finish .ok }).emit (.outcome p.service p.block true), .done)
    else
      let x := copyToRam config p buffer x.workBuffer x
      (({ x with adm := x.adm.finish .ok }).emit (.outcome p.service p.block true), .done)

/-- The status for a job that did not succeed. -/
def failureStatus : JobResult → Option RequestResult
  | .blockInvalid => some .nvInvalidated
  | .blockInconsistent => some .integrityFailed
  | .failed => some .notOk
  | _ => none

/-- All copies have failed. Reads fall back on the default data; the state of the block is
changed only where there is none. -/
def fallBack (status : RequestResult) (x : Context) : Context × Drive :=
  let bPtr := config.block p.block
  let x := { x with adm := { x.adm with errorStatus := status } }
  if !p.isWrite && (bPtr.romBlockDataAddress.isSome || bPtr.initBlockCallback.isSome) then
    match bPtr.romBlockDataAddress, bPtr.initBlockCallback with
    | some rom, _ =>
      let x := copyToRam config p buffer rom x
      ({ x with adm := { x.adm with errorStatus := .ok } }, .done)
    | none, some callback =>
      ({ x with ram := callback x.ram, adm := { x.adm with errorStatus := .ok } }, .done)
    | none, none => (x, .done)
  else
    ({ x with
      adm := { x.adm with blockState := .memifReq }
      pendingErrorStatus := .notOk }, .done)

/-- The job has failed for good. -/
def handleFailure : Context × Drive :=
  match handleRedundantBlock config p.block x.adm with
  | none => x.halt
  | some (adm, true) => ({ x with adm }, .done)
  | some (adm, false) =>
    match failureStatus x.memIf.result with
    | none => x.halt
    | some status => fallBack config p buffer status { x with adm }

/-- A failed write is counted; it counts as failed for good when the count is too high. -/
def countFailure : Context × Drive :=
  let x := x.emit (.outcome p.service p.block false)
  if p.isWrite then
    let failed := (x.adm.numberOfWriteFailed + 1) % 256
    if config.maxNumberOfWriteRetries < failed then
      handleFailure config p buffer { x with adm := { x.adm with numberOfWriteFailed := 0 } }
    else ({ x with adm := { x.adm with numberOfWriteFailed := failed } }, .more)
  else handleFailure config p buffer x

def memifProcess : Context × Drive :=
  match ramData config p.block p.dataPtr with
  | none => (x, .aborted)
  | some buffer =>
    match x.memIf.result with
    | .pending => (x, .more)
    | .ok =>
      if p.isWrite then
        (({ x with adm := x.adm.finish .ok }).emit (.outcome p.service p.block true), .done)
      else deliver config p x
    | _ => countFailure config p buffer x

/-! ## BLOCK_STATE_CALC_CRC_WRITE and BLOCK_STATE_CALC_CRC_READ -/

def calcCrcWrite : Context × Drive :=
  match ramData config p.block p.dataPtr with
  | none => x.halt
  | some buffer =>
    let data := Buffer.bytes x.ram buffer (config.block p.block).nvBlockLength
    ({ x with
      adm := { x.adm with ramCrc := config.crcOf p.block data, blockState := .memifReq } }, .more)

/-- The checksum does not match, and there is no other copy. -/
def crcFallBack : Context × Drive :=
  let bPtr := config.block p.block
  match bPtr.romBlockDataAddress, bPtr.initBlockCallback with
  | some rom, _ =>
    let x := copyToRam config p buffer rom x
    ({ x with adm := { x.adm with blockSubState := .substate1 } }, .more)
  | none, some callback =>
    ({ x with ram := callback x.ram, adm := { x.adm with blockSubState := .substate1 } }, .more)
  | none, none => ({ x with adm := x.adm.finish .integrityFailed }, .done)

def calcCrcRead : Context × Drive :=
  let bPtr := config.block p.block
  if bPtr.calcRamBlockCrc then
    match x.adm.savedDataPtr with
    | none => x.halt
    | some buffer =>
      let crc := config.crcOf p.block (Buffer.bytes x.ram buffer bPtr.nvBlockLength)
      match x.adm.blockSubState with
      | .substate0 =>
        if crc = x.adm.ramCrc then
          (({ x with adm := x.adm.finish .ok }).emit (.outcome p.service p.block true), .done)
        else
          let x := x.emit (.outcome p.service p.block false)
          match handleRedundantBlock config p.block x.adm with
          | none => x.halt
          | some (adm, true) => ({ x with adm }, .more)
          | some (adm, false) => crcFallBack config p buffer { x with adm }
      | .substate1 =>
        -- the default data is in place, with its checksum
        ({ x with
          adm := { x.adm.finish .integrityFailed with
            ramCrc := crc
            blockSubState := .substate0 } }, .done)
  else x.halt

/-! ## DriveBlock -/

def driveStates : Context × Drive :=
  match x.adm.blockState with
  | .memifReq => memifReq config p answer x
  | .memifProcess => memifProcess config p x
  | .calcCrc => x.halt
  | .calcCrcWrite => calcCrcWrite config p x
  | .calcCrcRead => calcCrcRead config p x

end

def State.context (s : State) (block : Nat) : Context where
  adm := s.admin block
  ram := s.ram
  workBuffer := s.workBuffer
  memIf := s.memIf
  pendingErrorStatus := s.pendingErrorStatus
  asserted := s.asserted
  events := s.events

def State.withContext (s : State) (block : Nat) (x : Context) : State :=
  { s with
    admin := Function.update s.admin block x.adm
    ram := x.ram
    workBuffer := x.workBuffer
    memIf := x.memIf
    pendingErrorStatus := x.pendingErrorStatus
    asserted := x.asserted
    events := x.events }

/-- The RAM block of a request that succeeded is valid and as in the NV block. -/
def AdministrativeBlock.settle (adm : AdministrativeBlock) : AdministrativeBlock :=
  if adm.errorStatus = .ok then { adm with blockChanged := false, blockValid := true } else adm

/-- The end of a request for one block; for a request of this block alone the manager is idle
again. -/
def finishBlock (p : Params) (s : State) : State :=
  let adm := s.admin p.block
  { s with
    admin := Function.update s.admin p.block adm.settle
    events := s.events ++ [.finished p.service p.block adm.errorStatus]
    nvmState := if p.multiBlock then s.nvmState else .idle
    nvmSubState := if p.multiBlock then s.nvmSubState else .init }

/-- The second result tells whether the block is done. -/
def driveEnd (p : Params) (s : State) (x : Context) : Drive → State × Bool
  | .more => (s.withContext p.block x, false)
  | .aborted => (s.withContext p.block x, true)
  | .done => (finishBlock p (s.withContext p.block x), true)

def driveBlock (config : Config) (answer : Answer) (p : Params) (s : State) : State × Bool :=
  if (s.admin p.block).errorStatus = .pending then
    let result := driveStates config p answer (s.context p.block)
    driveEnd p s result.1 result.2
  else ({ s with asserted := true }, false)

end NvM
