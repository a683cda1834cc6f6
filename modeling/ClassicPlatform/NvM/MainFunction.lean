import ClassicPlatform.NvM.DriveBlock

/-!
# Services and main function of the NVRAM manager

The services queue their requests; the main function takes them from the queue one after the
other. A request for all blocks waits until the queue is empty. It marks the blocks it selects
in the records of the blocks and then processes them in order. Development errors are detected:
a service that is called with a wrong parameter, or for a block with a pending request, returns
E_NOT_OK.
-/
namespace NvM

open ByteLanes (Memory)

variable (config : Config)

/-! ## Services -/

variable (answers : Nat → Answer) (block : Nat) (s : State)

def enqueue (entry : QueueEntry) (update : AdministrativeBlock → AdministrativeBlock) : State :=
  if s.queue.length = config.sizeStandardJobQueue then s
  else
    { s with
      queue := s.queue ++ [entry]
      admin := Function.update s.admin entry.block
        (update { s.admin entry.block with errorStatus := .pending })
      events := s.events ++ [.accepted entry] }

/-- NVM_ASSERT( blockId >= 2 ): the identifier 1 belongs to the configuration id. -/
def State.assertUserBlock (block : Nat) (next : State) : State :=
  if block = 0 then { s with asserted := true } else next

def readBlock (dataPtr : Option Int) (s : State) : State :=
  if s.nvmState = .uninitialized ∨ config.numOfNvramBlocks ≤ block ∨
      ramData config block dataPtr = none ∨ (s.admin block).errorStatus = .pending then s
  else enqueue config s { op := .readBlock, block, dataPtr } id

/-- A block with a checksum starts with the calculation of the checksum. -/
def BlockDescriptor.startState (bPtr : BlockDescriptor) : BlockState :=
  if bPtr.blockUseCrc then .calcCrcWrite else .memifReq

def writeBlock (dataPtr : Option Int) (s : State) : State :=
  let bPtr := config.block block
  let adm := s.admin block
  s.assertUserBlock block <|
    if s.nvmState = .uninitialized ∨ config.numOfNvramBlocks ≤ block ∨
        adm.blockWriteProtected ∨ ¬ adm.dataIndex < bPtr.nvBlockNum ∨
        ramData config block dataPtr = none ∨ adm.errorStatus = .pending then s
    else
      enqueue config s { op := .writeBlock, block, dataPtr }
        fun adm => { adm with blockState := bPtr.startState }

def restoreBlockDefaults (dataPtr : Option Int) (s : State) : State :=
  let bPtr := config.block block
  let adm := s.admin block
  s.assertUserBlock block <|
    if s.nvmState = .uninitialized ∨ config.numOfNvramBlocks ≤ block ∨
        ramData config block dataPtr = none ∨ adm.errorStatus = .pending ∨
        (bPtr.blockManagementType = .dataset ∧ bPtr.romBlockNum ≠ 0 ∧
          adm.dataIndex < bPtr.nvBlockNum) then s
    else
      enqueue config s { op := .restoreBlockDefaults, block, dataPtr }
        fun adm => { adm with blockState := bPtr.startState }

def invalidateNvBlock : State :=
  let adm := s.admin block
  s.assertUserBlock block <|
    if s.nvmState = .uninitialized ∨ config.numOfNvramBlocks ≤ block ∨
        adm.errorStatus = .pending ∨ adm.blockWriteProtected ∨
        (config.block block).nvBlockNum ≤ adm.dataIndex then s
    else enqueue config s { op := .invalidateNvBlock, block, dataPtr := none } id

def setDataIndex (block dataIndex : Nat) (s : State) : State :=
  let bPtr := config.block block
  let adm := s.admin block
  s.assertUserBlock block <|
    if s.nvmState = .uninitialized ∨ config.numOfNvramBlocks ≤ block ∨
        bPtr.blockManagementType ≠ .dataset ∨ ¬ dataIndex < bPtr.nvBlockNum + bPtr.romBlockNum ∨
        adm.errorStatus = .pending then s
    else
      { s with admin := Function.update s.admin block { adm with dataIndex, errorStatus := .ok } }

/-- Reading the index also sets the status of the block, whether a request is pending or not. -/
def getDataIndex : State :=
  let adm := s.admin block
  s.assertUserBlock block <|
    if s.nvmState = .uninitialized ∨ config.numOfNvramBlocks ≤ block ∨
        (config.block block).blockManagementType ≠ .dataset then s
    else { s with admin := Function.update s.admin block { adm with errorStatus := .ok } }

def setRamBlockStatus (blockChanged : Bool) (s : State) : State :=
  let adm := s.admin block
  if config.setRamBlockStatusApi = false ∨ config.numOfNvramBlocks ≤ block ∨
      s.nvmState = .uninitialized ∨ block = 0 ∨ adm.errorStatus = .pending ∨
      (config.block block).ramBlockDataAddress = none then s
  else
    { s with
      admin := Function.update s.admin block { adm with blockChanged, blockValid := blockChanged } }

/-- `NvM_ReadAll` and `NvM_WriteAll`. -/
def requestAll (service : NvmState) (s : State) : State :=
  if s.nvmState = .uninitialized then s
  else { s with multiReqState := service, multiErrorStatus := .pending }

/-! ## Requests for all blocks -/

/-- The blocks that a request for all blocks selects. -/
def selectedForRead (adm : AdministrativeBlock) : Bool :=
  (config.block block).selectBlockForReadall &&
    (!config.setRamBlockStatusApi || !adm.blockValid || !adm.blockChanged)

def selectedForWrite (adm : AdministrativeBlock) : Bool :=
  (config.block block).ramBlockDataAddress.isSome &&
    (!config.setRamBlockStatusApi || adm.blockValid && adm.blockChanged) &&
    !adm.blockWriteProtected && decide (adm.dataIndex < (config.block block).nvBlockNum)

/-- The configuration that the assertions of `ReadAllInit` ask for. -/
def BlockDescriptor.readable (bPtr : BlockDescriptor) : Bool :=
  bPtr.ramBlockDataAddress.isSome && bPtr.blockManagementType ≠ .dataset

def startRead (adm : AdministrativeBlock) : AdministrativeBlock :=
  { adm with errorStatus := .pending, blockState := .memifReq }

/-- The number of failed writes is set back for blocks without a checksum only. -/
def startWrite (adm : AdministrativeBlock) : AdministrativeBlock :=
  if (config.block block).blockUseCrc then
    { adm with errorStatus := .pending, blockState := .calcCrcWrite }
  else { adm with errorStatus := .pending, blockState := .memifReq, numberOfWriteFailed := 0 }

section

variable (selected : Nat → AdministrativeBlock → Bool)
  (start : Nat → AdministrativeBlock → AdministrativeBlock) (s : State)

/-- Mark the selected blocks as pending and the others as skipped. -/
def selectBlocks : State :=
  { s with
    pendingErrorStatus := .ok
    currBlockIndex := 0
    admin := fun block =>
      if block < config.numOfNvramBlocks then
        if selected block (s.admin block) then start block (s.admin block)
        else { s.admin block with errorStatus := .blockSkipped }
      else s.admin block
    events := s.events ++ [.multiStarted s.nvmState
      ((List.range config.numOfNvramBlocks).filter fun block => selected block (s.admin block))] }

/-- `ReadAllInit` and `WriteAllInit`, and what the main function does with their result. -/
def startAll : State :=
  let s' := selectBlocks config selected start s
  if (List.range config.numOfNvramBlocks).any fun block => selected block (s.admin block) then
    { s' with nvmSubState := .pending }
  else
    { s' with
      multiErrorStatus := .ok
      nvmState := .idle
      nvmSubState := .init
      events := s'.events ++ [.multiFinished s.nvmState .ok] }

end

def readAllInit : State :=
  if (List.range config.numOfNvramBlocks).all fun block =>
      !selectedForRead config block (s.admin block) || (config.block block).readable then
    startAll config (selectedForRead config) (fun _ => startRead)
      { s with multiErrorStatus := .pending }
  else { s with asserted := true }

def writeAllInit : State :=
  startAll config (selectedForWrite config) (startWrite config) s

/-- The parameters with which a block is driven for all blocks. -/
def multiParams (service : NvmState) (isWrite : Bool) (block : Nat) : Params where
  service
  block
  dataPtr := none
  isWrite
  multiBlock := true
  restoreFromRom := false

/-- The loop of `MultiblockMain`; each round moves on to the next block. -/
def multiblockLoop (answers : Nat → Answer) (isWrite : Bool) : Nat → State → State
  | 0, s => s
  | rounds + 1, s =>
    let block := s.currBlockIndex
    if block < config.numOfNvramBlocks then
      if (s.admin block).errorStatus = .blockSkipped then
        multiblockLoop answers isWrite rounds { s with currBlockIndex := block + 1 }
      else
        match driveBlock config (answers block) (multiParams s.nvmState isWrite block) s with
        | (s', false) => s'
        | (s', true) =>
          multiblockLoop answers isWrite rounds { s' with currBlockIndex := block + 1 }
    else s

def finishAll : State :=
  let status := if s.pendingErrorStatus = .notOk then .notOk else .ok
  { s with
    currBlockIndex := 0
    multiErrorStatus := status
    nvmState := .idle
    nvmSubState := .init
    events := s.events ++ [.multiFinished s.nvmState status] }

def multiblockMain (isWrite : Bool) (s : State) : State :=
  let s := multiblockLoop config answers isWrite (config.numOfNvramBlocks - s.currBlockIndex) s
  if config.numOfNvramBlocks ≤ s.currBlockIndex then finishAll s else s

/-! ## Invalidation -/

def finishInvalidation (status : RequestResult) : State :=
  let block := s.qEntry.block
  { s with
    blockIndex := 0
    nvmState := .idle
    nvmSubState := .init
    admin := Function.update s.admin block { s.admin block with errorStatus := status } }

def invalidate (answer : Answer) (s : State) : State :=
  let block := s.qEntry.block
  match s.nvmSubState with
  | .init =>
    let set := (s.admin block).dataIndex + s.blockIndex
    match s.memIf.request answer (.invalidate (config.blockNr block set)) with
    | (memIf, .accepted) => { s with memIf, nvmSubState := .pending }
    | _ => s
  | .pending =>
    match s.memIf.result with
    | .pending => s
    | .ok =>
      if (config.block block).blockManagementType = .redundant ∧ s.blockIndex = 0 then
        { s with blockIndex := 1, nvmSubState := .init }
      else finishInvalidation s .ok
    | _ => finishInvalidation s .notOk

/-! ## Main function -/

/-- The parameters with which a request of a single block is driven. -/
def singleParams (entry : QueueEntry) (isWrite restoreFromRom : Bool) : Params where
  service := entry.op
  block := entry.block
  dataPtr := entry.dataPtr
  isWrite
  multiBlock := false
  restoreFromRom

/-- Take up a new request when there is none in progress. -/
def takeRequest : State :=
  if s.nvmState = .idle then
    match s.queue with
    | entry :: rest =>
      { s with
        nvmState := entry.op
        nvmSubState := .init
        queue := rest
        qEntry := entry
        admin := Function.update s.admin entry.block
          { s.admin entry.block with errorStatus := .pending } }
    | [] =>
      if s.multiReqState ≠ .uninitialized then
        { s with
          nvmState := s.multiReqState
          nvmSubState := .init
          multiReqState := .uninitialized }
      else s
  else s

/-- Go on with the request in progress. -/
def process : State :=
  let single (isWrite restoreFromRom : Bool) : State :=
    (driveBlock config (answers s.qEntry.block) (singleParams s.qEntry isWrite restoreFromRom) s).1
  match s.nvmState with
  | .uninitialized | .idle => s
  | .readAll =>
    match s.nvmSubState with
    | .init => readAllInit config s
    | .pending => multiblockMain config answers false s
  | .writeAll =>
    match s.nvmSubState with
    | .init => writeAllInit config s
    | .pending => multiblockMain config answers true s
  | .readBlock => single false false
  | .restoreBlockDefaults => single false true
  | .writeBlock => single true false
  | .invalidateNvBlock => invalidate config (answers s.qEntry.block) s

def mainFunction : State :=
  process config answers (takeRequest s)

/-! ## Runs -/

/-- The memory interface ends its job. A job that succeeds moves exactly the addressed block; a
read of a block without contents cannot succeed, and a read that fails may leave anything in the
work buffer. No job is canceled, since the manager never asks for it. -/
def jobEnd (result : JobResult) (spoiled : Memory) (s : State) : State :=
  match s.memIf.job, result with
  | none, _ | some _, .pending | some _, .canceled => s
  | some (.read nr length), .ok =>
    match s.memIf.nv nr with
    | some data =>
      { s with
        workBuffer := Buffer.copy s.workBuffer 0 data 0 length
        memIf := s.memIf.ended .ok }
    | none => { s with memIf := s.memIf.ended .blockInconsistent }
  | some (.write nr), .ok =>
    { s with
      memIf := { s.memIf.ended .ok with nv := Function.update s.memIf.nv nr (some s.workBuffer) } }
  | some (.invalidate nr), .ok =>
    { s with memIf := { s.memIf.ended .ok with nv := Function.update s.memIf.nv nr none } }
  | some (.read _ length), failure =>
    { s with
      workBuffer := Buffer.copy s.workBuffer 0 spoiled 0 length
      memIf := s.memIf.ended failure }
  | some _, failure => { s with memIf := s.memIf.ended failure }

/-- What can happen next: a call of a service or of the main function, the end of a job, or the
application writing to its RAM. The memory interface answers each block's request in a call of
the main function; a block makes at most one. -/
inductive Call where
  | readBlock (block : Nat) (dataPtr : Option Int)
  | writeBlock (block : Nat) (dataPtr : Option Int)
  | restoreBlockDefaults (block : Nat) (dataPtr : Option Int)
  | invalidateNvBlock (block : Nat)
  | setDataIndex (block dataIndex : Nat)
  | getDataIndex (block : Nat)
  | setRamBlockStatus (block : Nat) (blockChanged : Bool)
  | readAll
  | writeAll
  | mainFunction (answers : Nat → Answer)
  | jobEnd (result : JobResult) (spoiled : Memory)
  | ramWrite (address : Int) (value : Byte)

def perform : Call → State
  | .readBlock block dataPtr => readBlock config block dataPtr s
  | .writeBlock block dataPtr => writeBlock config block dataPtr s
  | .restoreBlockDefaults block dataPtr => restoreBlockDefaults config block dataPtr s
  | .invalidateNvBlock block => invalidateNvBlock config block s
  | .setDataIndex block dataIndex => setDataIndex config block dataIndex s
  | .getDataIndex block => getDataIndex config block s
  | .setRamBlockStatus block blockChanged => setRamBlockStatus config block blockChanged s
  | .readAll => requestAll .readAll s
  | .writeAll => requestAll .writeAll s
  | .mainFunction answers => mainFunction config answers s
  | .jobEnd result spoiled => jobEnd result spoiled s
  | .ramWrite address value => { s with ram := Function.update s.ram address value }

/-- Nothing happens any more once an assertion has failed. -/
def step (call : Call) : State × List Event :=
  if s.asserted then (s, [])
  else
    let s' := perform config { s with events := [] } call
    (s', s'.events)

/-- The records after `NvM_Init`, which leaves the fields alone that it does not name. -/
def initAdmin : AdministrativeBlock where
  blockState := .memifReq
  blockSubState := .substate0
  dataIndex := 0
  blockWriteProtected := (config.block block).blockWriteProt
  errorStatus := .notOk
  blockChanged := false
  blockValid := false
  numberOfWriteFailed := 0
  ramCrc := 0
  savedDataPtr := none
  flags := 0

/-- The state after `NvM_Init` at start-up, with any contents of the memories. -/
def init (ram workBuffer : Memory) (nv : Nat → Option Memory) : State where
  nvmState := .idle
  nvmSubState := .init
  admin := initAdmin config
  multiErrorStatus := .notOk
  multiReqState := .uninitialized
  currBlockIndex := 0
  pendingErrorStatus := .ok
  queue := []
  qEntry := { op := .uninitialized, block := 0, dataPtr := none }
  blockIndex := 0
  ram
  workBuffer
  memIf := { nv, job := none, result := .ok }
  asserted := false
  events := []

/-- The example at start-up: the NV block 1 holds 0x77, the NV block 2 holds 0x55. -/
def plainInit : State :=
  init plainConfig (fun _ => 0) (fun _ => 0) fun nr =>
    if nr = 1 then some fun _ => 0x77 else some fun _ => 0x55

end NvM
