import ClassicPlatform.Lib.Buffer

/-!
# Data of the NVRAM manager

The manager keeps one administrative record for each NVRAM block, a queue of requests for
single blocks and the state of at most one request for all blocks. Data goes through one work
buffer, which all blocks share, to and from the memory interface. The interface runs one job at
a time and holds the contents of the NV blocks.
-/
namespace NvM

open ByteLanes (Memory)

abbrev Byte := BitVec 8

/-- Results of requests, as far as the manager sets them. -/
inductive RequestResult where
  | ok
  | notOk
  | pending
  | integrityFailed
  | blockSkipped
  | nvInvalidated
  deriving DecidableEq, Repr

/-- The request in progress; a request is named by the state in which it is processed. -/
inductive NvmState where
  | uninitialized
  | idle
  | readAll
  | writeAll
  | readBlock
  | writeBlock
  | restoreBlockDefaults
  | invalidateNvBlock
  deriving DecidableEq, Repr

inductive SubState where
  | init
  | pending
  deriving DecidableEq, Repr

inductive BlockState where
  | memifReq
  | memifProcess
  | calcCrc
  | calcCrcWrite
  | calcCrcRead
  deriving DecidableEq, Repr

inductive BlockSubState where
  | substate0
  | substate1
  deriving DecidableEq, Repr

/-! ## Configuration -/

inductive BlockManagementType where
  | native
  | redundant
  | dataset
  deriving DecidableEq, Repr

inductive BlockCRCType where
  | crc8
  | crc16
  | crc32
  deriving DecidableEq, Repr

/-- Every type but `crc16` is treated as a checksum of four bytes. -/
def crcLength (useCrc : Bool) (crcType : BlockCRCType) : Nat :=
  if useCrc then if crcType = .crc16 then 2 else 4 else 0

structure BlockDescriptor where
  blockManagementType : BlockManagementType
  blockWriteProt : Bool
  selectBlockForReadall : Bool
  nvBlockLength : Nat
  blockUseCrc : Bool
  blockCRCType : BlockCRCType
  /-- The permanent RAM block, if there is one. -/
  ramBlockDataAddress : Option Int
  calcRamBlockCrc : Bool
  nvBlockNum : Nat
  nvBlockBaseNumber : Nat
  romBlockNum : Nat
  romBlockDataAddress : Option Memory
  /-- What the application's callback does to the RAM when it fills in default data. -/
  initBlockCallback : Option (Memory → Memory)
  /-- Lengths are passed to the memory interface with 16 bits. -/
  fits : nvBlockLength + crcLength blockUseCrc blockCRCType < 65536

/-- The block with the identifier `i + 1` is `block i`. The routines of the Crc module are
parameters, with the start values that the manager passes. -/
structure Config where
  numOfNvramBlocks : Nat
  block : Nat → BlockDescriptor
  datasetSelectionBits : Nat
  maxNumberOfWriteRetries : Nat
  sizeStandardJobQueue : Nat
  setRamBlockStatusApi : Bool
  crc16 : List Byte → BitVec 16
  crc32 : List Byte → BitVec 32
  /-- The range of the configuration parameter. -/
  retries : maxNumberOfWriteRetries ≤ 7

/-- BLOCK_BASE_AND_SET_TO_BLOCKNR: the number of an NV block at the memory interface. -/
def Config.blockNr (config : Config) (block set : Nat) : Nat :=
  (((config.block block).nvBlockBaseNumber * 2 ^ config.datasetSelectionBits) % 65536 + set) % 65536

/-- The checksum of the user data of a block; a 16 bit sum in the low half of the union. -/
def Config.crcOf (config : Config) (block : Nat) (data : List Byte) : BitVec 32 :=
  if (config.block block).blockCRCType = .crc16 then (config.crc16 data).setWidth 32
  else config.crc32 data

/-- A block of one byte without a checksum, with default data; a small example. -/
def plainBlock (address : Int) (number : Nat) : BlockDescriptor where
  blockManagementType := .native
  blockWriteProt := false
  selectBlockForReadall := false
  nvBlockLength := 1
  blockUseCrc := false
  blockCRCType := .crc16
  ramBlockDataAddress := some address
  calcRamBlockCrc := false
  nvBlockNum := 1
  nvBlockBaseNumber := number
  romBlockNum := 1
  romBlockDataAddress := some fun _ => 0xAA
  initBlockCallback := none
  fits := by decide

/-- Two such blocks. -/
def plainConfig : Config where
  numOfNvramBlocks := 2
  block := fun block => plainBlock block (block + 1)
  datasetSelectionBits := 0
  maxNumberOfWriteRetries := 2
  sizeStandardJobQueue := 4
  setRamBlockStatusApi := true
  crc16 := fun _ => 0
  crc32 := fun _ => 0
  retries := by decide

/-! ## State -/

structure AdministrativeBlock where
  blockState : BlockState
  blockSubState : BlockSubState
  dataIndex : Nat
  blockWriteProtected : Bool
  errorStatus : RequestResult
  blockChanged : Bool
  blockValid : Bool
  numberOfWriteFailed : Nat
  ramCrc : BitVec 32
  savedDataPtr : Option Int
  flags : Nat

/-- A queued request: `op` is the state in which it will be processed. -/
structure QueueEntry where
  op : NvmState
  block : Nat
  dataPtr : Option Int
  deriving DecidableEq, Repr

/-! ## Memory interface -/

inductive JobResult where
  | ok
  | failed
  | pending
  | canceled
  | blockInconsistent
  | blockInvalid
  deriving DecidableEq, Repr

/-- A job moves data between the work buffer and the NV block with number `nr`. -/
inductive Job where
  | read (nr length : Nat)
  | write (nr : Nat)
  | invalidate (nr : Nat)
  deriving DecidableEq, Repr

/-- How the interface answers a request: it takes the job, it has no time for it, or it
refuses the job although it is idle. -/
inductive Answer where
  | accepted
  | busy
  | refused
  deriving DecidableEq, Repr

/-- The memory interface; a block that was never written or is invalidated has no contents. -/
structure MemIf where
  nv : Nat → Option Memory
  job : Option Job
  result : JobResult

def MemIf.request (memIf : MemIf) (answer : Answer) (job : Job) : MemIf × Answer :=
  if memIf.job.isSome then (memIf, .busy)
  else
    match answer with
    | .accepted => ({ memIf with job := some job, result := .pending }, .accepted)
    | .busy => (memIf, .busy)
    | .refused => (memIf, .refused)

def MemIf.ended (memIf : MemIf) (result : JobResult) : MemIf :=
  { memIf with job := none, result }

/-! ## Observations -/

/-- What can be observed of the manager at work. -/
inductive Event where
  /-- A service has returned E_OK for a request of a single block. -/
  | accepted (entry : QueueEntry)
  /-- A request for all blocks starts with these blocks. -/
  | multiStarted (service : NvmState) (blocks : List Nat)
  /-- The memory interface has taken a read of the copy `set`, for the RAM at `buffer`; `contents`
  is the user data of this copy, if it has contents. -/
  | memIfRead (service : NvmState) (block set : Nat) (buffer : Option Int)
      (contents : Option (List Byte))
  /-- The memory interface has taken a write of the copy `set`; `source` are the bytes that the
  RAM at `buffer` holds. -/
  | memIfWrite (service : NvmState) (block set : Nat) (buffer : Int) (source : List Byte)
  /-- A copy has been read or written: the job succeeded, and the checksum if it is checked. -/
  | outcome (service : NvmState) (block : Nat) (good : Bool)
  /-- The manager writes the user data of a block to RAM. -/
  | copied (service : NvmState) (block : Nat) (buffer : Int) (data : List Byte)
  /-- The request has been processed for this block: the call of SingleBlockCallback. -/
  | finished (service : NvmState) (block : Nat) (status : RequestResult)
  /-- The call of MultiBlockCallback. -/
  | multiFinished (service : NvmState) (status : RequestResult)
  deriving DecidableEq, Repr

/-- The state of the manager, with the application's RAM and the memory interface. -/
structure State where
  nvmState : NvmState
  nvmSubState : SubState
  admin : Nat → AdministrativeBlock
  /-- The result of the last request for all blocks. -/
  multiErrorStatus : RequestResult
  /-- The request for all blocks that waits, or `uninitialized`. -/
  multiReqState : NvmState
  currBlockIndex : Nat
  pendingErrorStatus : RequestResult
  queue : List QueueEntry
  /-- The request of a single block that was taken from the queue last. -/
  qEntry : QueueEntry
  /-- The copy of a redundant block that is being invalidated. -/
  blockIndex : Nat
  ram : Memory
  workBuffer : Memory
  memIf : MemIf
  /-- An assertion has failed, and the operating system is shut down. -/
  asserted : Bool
  /-- What has been observed of the current call. -/
  events : List Event

end NvM
