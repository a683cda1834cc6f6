import ClassicPlatform.NvM.Drives

/-!
# Order among the requests

A block has at most one request at a time: it waits in the queue, it is driven, or it is one
of the blocks that a request for all blocks has yet to pass. The record of the block fits the
request, and the job of the memory interface belongs to the block that is driven. This holds
in every run in which no service is called for a block that a request for all blocks has
skipped but not passed, and `NvM_GetDataIndex` is not called for a block with a pending
request: these calls change the status that marks the blocks of the other requests.
-/
namespace NvM

open Function List Nat NvmState Option State
open ByteLanes (Memory)

/-! ## Services -/

def NvmState.isWrite : NvmState → Bool
  | .writeAll | .writeBlock => true
  | _ => false

def NvmState.isRead : NvmState → Bool
  | .readAll | .readBlock => true
  | _ => false

def NvmState.isAll : NvmState → Bool
  | .readAll | .writeAll => true
  | _ => false

/-- Requests of a single block that `DriveBlock` processes. -/
def NvmState.isSingle : NvmState → Bool
  | .readBlock | .writeBlock | .restoreBlockDefaults => true
  | _ => false

variable {service : NvmState}

theorem NvmState.isRead_of
    (drives : service.isAll ∨ service.isSingle) (write : service.isWrite = false)
    (restore : service ≠ .restoreBlockDefaults) : service.isRead = true := by
  cases service <;> simp_all [isAll, isSingle, isWrite, isRead]

theorem NvmState.isAll_of_single
    (single : service.isSingle ∨ service = .invalidateNvBlock) : service.isAll = false := by
  cases service <;> simp_all [isAll, isSingle]

theorem NvmState.isRead_of_write (write : service.isWrite) : service.isRead = false := by
  cases service <;> first | rfl | cases write

theorem NvmState.readBlock_of (single : service.isSingle)
    (read : service.isRead) : service = .readBlock := by
  cases service <;> simp_all [isSingle, isRead]

theorem NvmState.writeBlock_of (single : service.isSingle)
    (write : service.isWrite) : service = .writeBlock := by
  cases service <;> simp_all [isSingle, isWrite]

/-- The parameters of `DriveBlock` are those of the service. -/
def paramsOf (service : NvmState) (block : Nat) (dataPtr : Option Int) : Params where
  service
  block
  dataPtr
  isWrite := service.isWrite
  multiBlock := service.isAll
  restoreFromRom := decide (service = .restoreBlockDefaults)

abbrev QueueEntry.params (entry : QueueEntry) : Params :=
  paramsOf entry.op entry.block entry.dataPtr

/-- The parameters for the request in progress. -/
abbrev State.params (s : State) : Params := paramsOf s.nvmState s.qEntry.block s.qEntry.dataPtr

/-! ## Records -/

/-- The record of a block without a request. A read that fell back on default data leaves the
block in the state in which it polled the job. -/
def AdministrativeBlock.Rests (adm : AdministrativeBlock) : Prop :=
  adm.numberOfWriteFailed = 0 ∧
    (adm.blockState = .memifReq ∨ adm.blockState = .memifProcess ∧ adm.savedDataPtr ≠ none)

variable (config : Config) (s : State) (block : Nat)

/-- The record of a block whose request has not been driven yet. -/
def Ready (service : NvmState) (block : Nat) (dataPtr : Option Int)
    (adm : AdministrativeBlock) : Prop :=
  adm.errorStatus = .pending ∧ adm.numberOfWriteFailed = 0 ∧
    match service with
    | .readBlock => ramData config block dataPtr ≠ none ∧ adm.Rests
    | .readAll => ramData config block dataPtr ≠ none ∧ adm.blockState = .memifReq
    | .writeBlock | .writeAll =>
      ramData config block dataPtr ≠ none ∧ adm.blockState = (config.block block).startState ∧
        adm.dataIndex < (config.block block).nvBlockNum
    | .restoreBlockDefaults =>
      ramData config block dataPtr ≠ none ∧ adm.blockState = (config.block block).startState
    | .invalidateNvBlock => adm.Rests
    | _ => False

/-- The number of bytes of a block at the memory interface. -/
def Config.nvLength : Nat :=
  (config.block block).nvBlockLength +
    crcLength (config.block block).blockUseCrc (config.block block).blockCRCType

/-- The result of a job is pending as long as it runs. -/
def MemIf.Consistent (memIf : MemIf) : Prop := memIf.job.isSome = true ↔ memIf.result = .pending

/-- The job reads the copy `set` of the block, or has done so. -/
def ReadJob (memIf : MemIf) (work : Memory) (block set : Nat) : Prop :=
  let nr := config.blockNr block set
  memIf.job = some (.read nr (config.nvLength block)) ∨
    memIf.job = none ∧ (memIf.result = .ok → ∃ data, memIf.nv nr = some data ∧
      ∀ i : Int, 0 ≤ i → i < config.nvLength block → work i = data i)

/-- How far the request of the driven block is. -/
inductive Stage (config : Config) (memIf : MemIf) (work : Memory) (service : NvmState)
    (block : Nat) (dataPtr : Option Int) (adm : AdministrativeBlock) : Prop where
  | sums (other : service.isRead = false) (state : adm.blockState = .calcCrcWrite)
      (failed : adm.numberOfWriteFailed = 0) (free : memIf.job = none)
  | requests (state : adm.blockState = .memifReq) (failed : adm.numberOfWriteFailed = 0)
      (free : memIf.job = none)
  | reading (read : service.isRead = true) (state : adm.blockState = .memifProcess)
      (failed : adm.numberOfWriteFailed = 0)
      (saved : adm.savedDataPtr = ramData config block dataPtr)
      (job : ReadJob config memIf work block adm.dataIndex)
  -- a failed write is polled again and again until the count is high enough
  | writing (write : service.isWrite = true) (state : adm.blockState = .memifProcess)
      (failed : adm.numberOfWriteFailed ≤ config.maxNumberOfWriteRetries)
      (counted : adm.numberOfWriteFailed ≠ 0 → memIf.job = none ∧ memIf.result.failure = true)
      (job : memIf.job = some (.write (config.blockNr block adm.dataIndex)) ∨ memIf.job = none)
  | checking (read : service.isRead = true) (state : adm.blockState = .calcCrcRead)
      (failed : adm.numberOfWriteFailed = 0) (saved : adm.savedDataPtr ≠ none)
      (checked : (config.block block).calcRamBlockCrc = true) (free : memIf.job = none)

variable {adm : AdministrativeBlock} {dataPtr : Option Int} {memIf : MemIf} {work : Memory}

theorem Stage.start {config : Config} {block : Nat}
    (other : service.isRead = false) (state : adm.blockState = (config.block block).startState)
    (failed : adm.numberOfWriteFailed = 0) (free : memIf.job = none) :
    Stage config memIf work service block dataPtr adm := by
  unfold BlockDescriptor.startState at state
  split at state
  · exact .sums other state failed free
  · exact .requests state failed free

structure Underway (memIf : MemIf) (work : Memory) (service : NvmState)
    (block : Nat) (dataPtr : Option Int) (adm : AdministrativeBlock) : Prop where
  pending : adm.errorStatus = .pending
  buffer : ramData config block dataPtr ≠ none
  index : service.isWrite = true → adm.dataIndex < (config.block block).nvBlockNum
  stage : Stage config memIf work service block dataPtr adm

/-- A read that starts in the state that an earlier read has left. -/
structure Stale (memIf : MemIf) (service : NvmState) (block : Nat)
    (dataPtr : Option Int) (adm : AdministrativeBlock) : Prop where
  pending : adm.errorStatus = .pending
  buffer : ramData config block dataPtr ≠ none
  read : service.isRead = true
  state : adm.blockState = .memifProcess
  saved : adm.savedDataPtr ≠ none
  failed : adm.numberOfWriteFailed = 0
  free : memIf.job = none

/-! ## Order -/

def State.queuedBlocks : List Nat := s.queue.map QueueEntry.block

/-- A block that a request for all blocks has yet to pass is skipped, or will be driven. -/
def Expects : Prop :=
  (s.admin block).errorStatus = .blockSkipped ∧ (s.admin block).Rests ∨
    Ready config s.nvmState block none (s.admin block)

/-- A request for all blocks has come to the current block. -/
structure Passing : Prop where
  service : s.nvmState.isAll = true
  sub : s.nvmSubState = .pending
  apart : ∀ block ∈ s.queuedBlocks, block < s.currBlockIndex
  here : s.currBlockIndex < config.numOfNvramBlocks →
    (s.admin s.currBlockIndex).errorStatus = .blockSkipped ∧
      (s.admin s.currBlockIndex).Rests ∧ s.memIf.job = none ∨
    Underway config s.memIf s.workBuffer s.nvmState s.currBlockIndex none (s.admin s.currBlockIndex)
  passed : config.numOfNvramBlocks ≤ s.currBlockIndex → s.memIf.job = none
  ahead : ∀ block, s.currBlockIndex < block → block < config.numOfNvramBlocks →
    Expects config s block

abbrev State.EntryUnderway : Prop :=
  Underway config s.memIf s.workBuffer s.nvmState s.qEntry.block s.qEntry.dataPtr
    (s.admin s.qEntry.block)

abbrev State.EntryStale : Prop :=
  Stale config s.memIf s.nvmState s.qEntry.block s.qEntry.dataPtr (s.admin s.qEntry.block)

/-- The request in progress. -/
inductive Current (config : Config) (s : State) : Prop where
  | idle (state : s.nvmState = .idle) (free : s.memIf.job = none)
  | single (service : s.nvmState.isSingle = true) (op : s.qEntry.op = s.nvmState)
      (apart : s.qEntry.block ∉ s.queuedBlocks)
      (underway : Underway config s.memIf s.workBuffer s.nvmState s.qEntry.block
        s.qEntry.dataPtr (s.admin s.qEntry.block))
  | invalidates (state : s.nvmState = .invalidateNvBlock)
      (apart : s.qEntry.block ∉ s.queuedBlocks)
      (pending : (s.admin s.qEntry.block).errorStatus = .pending)
      (rests : (s.admin s.qEntry.block).Rests)
      (free : s.nvmSubState = .init → s.memIf.job = none)
  | all (passing : Passing config s)

/-- A request for all blocks has yet to pass the block. -/
def Ahead : Prop :=
  s.nvmState.isAll = true ∧ s.currBlockIndex ≤ block ∧ block < config.numOfNvramBlocks
  deriving Decidable

/-- The block belongs to the request in progress. -/
def Engaged : Prop :=
  (s.nvmState.isSingle = true ∨ s.nvmState = .invalidateNvBlock) ∧ s.qEntry.block = block ∨
    Ahead config s block

/-- The requests that are not in progress. -/
structure Surroundings : Prop where
  result : s.memIf.Consistent
  distinct : s.queuedBlocks.Nodup
  waiting : ∀ entry ∈ s.queue, (entry.op.isSingle = true ∨ entry.op = .invalidateNvBlock) ∧
    entry.block < config.numOfNvramBlocks ∧
    Ready config entry.op entry.block entry.dataPtr (s.admin entry.block)
  multiReq : s.multiReqState = .uninitialized ∨ s.multiReqState.isAll = true
  others : ∀ block, block ∉ s.queuedBlocks → ¬ Engaged config s block → (s.admin block).Rests

structure Orderly : Prop extends Surroundings config s where
  current : Current config s

/-- The block is skipped by a request for all blocks that has yet to pass it. -/
def Skipped : Prop :=
  Ahead config s block ∧ (s.admin block).errorStatus = .blockSkipped
  deriving Decidable

/-- The call does not disturb the order. -/
def Undisturbed : Call → Prop
  | .readBlock block _ => ¬ Skipped config s block
  | .writeBlock block _ => ¬ Skipped config s block
  | .restoreBlockDefaults block _ | .invalidateNvBlock block | .setDataIndex block _ =>
    ¬ Skipped config s block
  | .getDataIndex block => ¬ Skipped config s block ∧ (s.admin block).errorStatus ≠ .pending
  | _ => True

instance (call : Call) : Decidable (Undisturbed config s call) := by
  cases call with
  | getDataIndex block => exact inferInstanceAs (Decidable (¬ _ ∧ _))
  | setRamBlockStatus block blockChanged => exact inferInstanceAs (Decidable True)
  | readAll | writeAll | mainFunction answers | jobEnd result spoiled | ramWrite address value =>
    exact inferInstanceAs (Decidable True)
  | _ => exact inferInstanceAs (Decidable (¬ _))

variable {config s} in
theorem Undisturbed.cleared {call : Call} (undisturbed : Undisturbed config s call) :
    Undisturbed config { s with events := [] } call := by
  cases call <;> exact undisturbed

/-! ## Driving a block -/

section

variable {config : Config} {memIf : MemIf} {work : Memory} {service : NvmState} {block : Nat}
variable {dataPtr : Option Int} {adm : AdministrativeBlock}

theorem MemIf.Consistent.free (consistent : memIf.Consistent)
    (over_ : memIf.result ≠ .pending) : memIf.job = none := by
  cases job : memIf.job with
  | none => rfl
  | some job' => exact absurd (consistent.mp (by rw [job]; rfl)) over_

section

variable (underway : Underway config memIf work service block dataPtr adm)
include underway

theorem Underway.of_req
    (state : adm.blockState = .memifReq) : adm.numberOfWriteFailed = 0 ∧ memIf.job = none := by
  cases underway.stage with
  | requests _ failed free => exact ⟨failed, free⟩
  | sums _ other | reading _ other | writing _ other
  | checking _ other => rw [state] at other; cases other

theorem Underway.of_crcWrite (state : adm.blockState = .calcCrcWrite) :
    adm.numberOfWriteFailed = 0 ∧ memIf.job = none := by
  cases underway.stage with
  | sums _ _ failed free => exact ⟨failed, free⟩
  | requests other | reading _ other | writing _ other
  | checking _ other => rw [state] at other; cases other

theorem Underway.of_crcRead (state : adm.blockState = .calcCrcRead) :
    service.isRead ∧ adm.numberOfWriteFailed = 0 ∧ adm.savedDataPtr ≠ none ∧
      (config.block block).calcRamBlockCrc ∧ memIf.job = none := by
  cases underway.stage with
  | checking read _ failed saved checked free => exact ⟨read, failed, saved, checked, free⟩
  | sums _ other | requests other | reading _ other
  | writing _ other => rw [state] at other; cases other

end

section

variable
  (underway : Underway config memIf work service block dataPtr adm ∨ Stale config memIf service block dataPtr adm)
  (state : adm.blockState = .memifProcess)

include underway state

theorem Underway.of_process_read (read : service.isWrite = false) :
    service.isRead ∧ adm.numberOfWriteFailed = 0 ∧ adm.savedDataPtr ≠ none := by
  rcases underway with underway | stale
  · cases underway.stage with
    | reading is_read _ failed saved => exact ⟨is_read, failed, saved ▸ underway.buffer⟩
    | writing write => rw [read] at write; cases write
    | sums _ other | requests other | checking _ other => rw [state] at other; cases other
  · exact ⟨stale.read, stale.failed, stale.saved⟩

theorem Underway.of_process_write (write : service.isWrite) :
    adm.dataIndex < (config.block block).nvBlockNum ∧
      adm.numberOfWriteFailed ≤ config.maxNumberOfWriteRetries ∧
      (adm.numberOfWriteFailed ≠ 0 → memIf.job = none ∧ memIf.result.failure) := by
  have not_read : service.isRead ≠ true := by
    rw [isRead_of_write write]
    nofun
  rcases underway with underway | stale
  · cases underway.stage with
    | writing _ _ failed counted => exact ⟨underway.index write, failed, counted⟩
    | reading read => exact absurd read not_read
    | sums _ other | requests other | checking _ other => rw [state] at other; cases other
  · exact absurd stale.read not_read

end

theorem Underway.contents (underway : Underway config memIf work service block dataPtr adm)
    (consistent : memIf.Consistent) (state : adm.blockState = .memifProcess)
    (read : service.isWrite = false) (ok : memIf.result = .ok) :
    adm.savedDataPtr = ramData config block dataPtr ∧
      ∃ data, memIf.nv (config.blockNr block adm.dataIndex) = some data ∧
        Buffer.bytes work 0 (config.block block).nvBlockLength =
          Buffer.bytes data 0 (config.block block).nvBlockLength := by
  cases underway.stage with
  | reading _ _ _ saved job =>
    refine ⟨saved, ?_⟩
    rcases job with running | ⟨-, contents⟩
    · have pending := consistent.mp (by rw [running]; rfl)
      rw [ok] at pending
      cases pending
    · obtain ⟨data, stored, same⟩ := contents ok
      refine ⟨data, stored, Buffer.bytes_congr fun a low high => same a low ?_⟩
      unfold Config.nvLength
      omega
  | writing write => rw [read] at write; cases write
  | sums _ other | requests other | checking _ other => rw [state] at other; cases other

/-- What a call of `DriveBlock` leaves behind. -/
def Kept (config : Config) (service : NvmState) (block : Nat) (dataPtr : Option Int)
    (y : Context) : Drive → Prop
  | .more => Underway config y.memIf y.workBuffer service block dataPtr y.adm
  | .done => y.adm.Rests ∧ y.memIf.job = none
  | .aborted => False

variable {x y : Context} {drive : Drive} {answer : Answer}

theorem Underway.crc_mismatch
    (underway : Underway config x.memIf x.workBuffer service block dataPtr x.adm)
    (state : x.adm.blockState = .calcCrcRead) :
    Underway config x.memIf x.workBuffer service block dataPtr
      { countCopy config block x.adm with blockSubState := .substate1 } := by
  obtain ⟨read, failed, saved, checked, free⟩ := underway.of_crcRead state
  refine ⟨by simp [underway.pending], underway.buffer, fun write => ?_,
    .checking read (by simp [state]) (by simp [failed]) (by simp [saved]) checked free⟩
  cases (isRead_of_write write).symm.trans read

variable (consistent : x.memIf.Consistent)
  (driven : Drives config (paramsOf service block dataPtr) answer x y drive)
include consistent driven

theorem Drives.kept_working (drives : service.isAll ∨ service.isSingle)
    (underway : Underway config x.memIf x.workBuffer service block dataPtr x.adm)
    (working : x.adm.blockState ≠ .memifProcess) :
    drive = .more ∧ y.asserted ∨
      y.memIf.Consistent ∧ Kept config service block dataPtr y drive := by
  have ⟨pending, buffer, index, _⟩ := underway
  cases driven with
  | halted _ asserted => exact .inl ⟨rfl, asserted⟩
  | waits state =>
    obtain ⟨failed, free⟩ := underway.of_req state
    exact .inr ⟨consistent, pending, buffer, index, .requests state failed free⟩
  | refused state | restores state =>
    obtain ⟨failed, free⟩ := underway.of_req state
    exact .inr ⟨consistent, ⟨failed, .inl state⟩, free⟩
  | writes state write aimed index free =>
    have failed := (underway.of_req state).1
    have few : x.adm.numberOfWriteFailed ≤ config.maxNumberOfWriteRetries := by omega
    exact .inr ⟨⟨fun _ => rfl, fun _ => rfl⟩, pending, buffer, fun _ => index,
      .writing write rfl few (absurd failed) (.inl rfl)⟩
  | reads state write restore index free =>
    have failed := (underway.of_req state).1
    have read := isRead_of drives write (of_decide_eq_false restore)
    refine .inr ⟨⟨fun _ => rfl, fun _ => rfl⟩, pending, buffer, fun write' => ?_,
      .reading read rfl failed rfl (.inl rfl)⟩
    cases write.symm.trans write'
  | aborts _ null => exact absurd null buffer
  | pends state | written state | delivers state | checks state | counts state | switches state
  | defaults state | initializes state | fails state => exact absurd state working
  | sums state =>
    obtain ⟨failed, free⟩ := underway.of_crcWrite state
    exact .inr ⟨consistent, pending, buffer, index, .requests rfl failed free⟩
  | verifies state | settles state =>
    obtain ⟨-, failed, -, -, free⟩ := underway.of_crcRead state
    exact .inr ⟨consistent, ⟨failed, .inl rfl⟩, free⟩
  | crcSwitches state =>
    obtain ⟨read, failed, -, -, free⟩ := underway.of_crcRead state
    refine .inr ⟨consistent, pending, buffer, fun write => ?_, .requests rfl failed free⟩
    cases (isRead_of_write write).symm.trans read
  | crcDefaults state | crcInitializes state => exact .inr ⟨consistent, underway.crc_mismatch state⟩
  | crcFails state =>
    obtain ⟨-, failed, -, -, free⟩ := underway.of_crcRead state
    have counted : (countCopy config block x.adm).numberOfWriteFailed = 0 := by simp [failed]
    exact .inr ⟨consistent, ⟨counted, .inl rfl⟩, free⟩

variable (underway : Underway config x.memIf x.workBuffer service block dataPtr x.adm ∨
  Stale config x.memIf service block dataPtr x.adm)
include underway

omit consistent driven in
theorem Underway.failed_zero (state : x.adm.blockState = .memifProcess) :
    (x.failed (paramsOf service block dataPtr)).adm.numberOfWriteFailed = 0 := by
  cases write : service.isWrite with
  | true => rw [Context.failed_write write]; rfl
  | false =>
    rw [Context.failed_read write]
    exact (of_process_read underway state write).2.1

omit consistent driven in
theorem Underway.defaulted (state : x.adm.blockState = .memifProcess)
    (read : service.isWrite = false) {status : RequestResult} :
    ({ countCopy config block (x.failed (paramsOf service block dataPtr)).adm with
      errorStatus := status } : AdministrativeBlock).Rests := by
  obtain ⟨-, -, saved⟩ := of_process_read underway state read
  exact ⟨by simp [failed_zero underway state], .inr ⟨by simp [state], by simp [saved]⟩⟩

theorem Drives.kept_polling (state : x.adm.blockState = .memifProcess) :
    drive = .more ∧ y.asserted ∨
      y.memIf.Consistent ∧ Kept config service block dataPtr y drive := by
  have pending : x.adm.errorStatus = .pending := underway.elim Underway.pending Stale.pending
  have buffer : ramData config block dataPtr ≠ none := underway.elim Underway.buffer Stale.buffer
  have over_ (failure : x.memIf.result.failure = true) : x.memIf.job = none :=
    consistent.free fun result => by rw [result] at failure; cases failure
  have failed_zero := Underway.failed_zero underway state
  cases driven with
  | halted _ asserted => exact .inl ⟨rfl, asserted⟩
  | waits other | refused other | restores other | writes other | reads other | sums other
  | verifies other | settles other | crcSwitches other | crcDefaults other | crcInitializes other
  | crcFails other => cases state.symm.trans other
  | aborts _ null => exact absurd null buffer
  | pends _ result =>
    refine .inr ⟨consistent, underway.resolve_right fun stale => ?_⟩
    have taken := consistent.mpr result
    rw [stale.free] at taken
    cases taken
  | written _ write ok =>
    have free := consistent.free (by rw [ok]; nofun)
    obtain ⟨-, -, counted⟩ := Underway.of_process_write underway state write
    have failed : x.adm.numberOfWriteFailed = 0 := by
      by_contra some_failed
      have failure := (counted some_failed).2
      rw [ok] at failure
      cases failure
    exact .inr ⟨consistent, ⟨failed, .inl rfl⟩, free⟩
  | delivers _ read ok =>
    have free := consistent.free (by rw [ok]; nofun)
    obtain ⟨-, failed, -⟩ := Underway.of_process_read underway state read
    exact .inr ⟨consistent, ⟨failed, .inl rfl⟩, free⟩
  | checks _ read ok saved crc checked =>
    have free := consistent.free (by rw [ok]; nofun)
    obtain ⟨is_read, failed, saved'⟩ := Underway.of_process_read underway state read
    refine .inr ⟨consistent, pending, buffer, fun write => ?_,
      .checking is_read rfl failed saved' checked free⟩
    cases read.symm.trans write
  | counts _ write failure few =>
    obtain ⟨index, -, -⟩ := Underway.of_process_write underway state write
    exact .inr ⟨consistent, pending, buffer, fun _ => index,
      .writing write state few (fun _ => ⟨over_ failure, failure⟩) (.inr (over_ failure))⟩
  | switches _ failure => exact .inr ⟨consistent, ⟨failed_zero, .inl rfl⟩, over_ failure⟩
  | defaults _ failure _ read | initializes _ failure _ read =>
    exact .inr ⟨consistent, Underway.defaulted underway state read, over_ failure⟩
  | fails _ _ _ failure =>
    have counted : (countCopy config block
        (x.failed (paramsOf service block dataPtr)).adm).numberOfWriteFailed = 0 := by
      simp [failed_zero]
    have free := consistent.free fun result => by rw [result] at failure; cases failure
    exact .inr ⟨consistent, ⟨counted, .inl rfl⟩, free⟩

theorem Drives.kept (drives : service.isAll ∨ service.isSingle) :
    drive = .more ∧ y.asserted ∨
      y.memIf.Consistent ∧ Kept config service block dataPtr y drive := by
  by_cases state : x.adm.blockState = .memifProcess
  · exact kept_polling consistent driven underway state
  · refine kept_working consistent driven drives (underway.resolve_right fun stale => ?_) state
    exact state stale.state

end

/-! ## A single block -/

section

variable {config : Config} {s : State} {answer : Answer}

theorem Orderly.underway (orderly : Orderly config s) (single : s.nvmState.isSingle) :
    s.EntryUnderway config := by
  cases orderly.current with
  | idle state | invalidates state => rw [state] at single; cases single
  | single _ _ _ underway => exact underway
  | all passing => nomatch isAll_of_single (.inl single) ▸ passing.service

theorem Orderly.passing (orderly : Orderly config s) (all : s.nvmState.isAll) :
    Passing config s := by
  cases orderly.current with
  | idle state | invalidates state => rw [state] at all; cases all
  | single single => nomatch isAll_of_single (.inl single) ▸ all
  | all passing => exact passing

variable {entry : QueueEntry}

theorem paramsOf_single (single : entry.op.isSingle) :
    paramsOf entry.op entry.block entry.dataPtr =
      singleParams entry entry.op.isWrite (decide (entry.op = .restoreBlockDefaults)) := by
  have all : entry.op.isAll = false := by
    cases op : entry.op <;> first | rfl | (rw [op] at single; cases single)
  simp [paramsOf, singleParams, all]

theorem paramsOf_all (all : service.isAll) (block : Nat) :
    paramsOf service block none = multiParams service service.isWrite block := by
  have restore : service ≠ .restoreBlockDefaults := by
    rintro rfl
    cases all
  simp [paramsOf, multiParams, all, decide_eq_false restore]

theorem AdministrativeBlock.Rests.settle (rests : adm.Rests) : adm.settle.Rests := by
  obtain ⟨failed, state⟩ := rests
  exact ⟨by simpa using failed, by simpa using state⟩

variable {s' : State}

theorem Surroundings.update {block : Nat} (around : Surroundings config s)
    (apart : block ∉ s.queuedBlocks) (result : s'.memIf.Consistent) (queue : s'.queue = s.queue)
    (multiReq : s'.multiReqState = s.multiReqState)
    (same : ∀ other ≠ block, s'.admin other = s.admin other)
    (engaged : ∀ other ≠ block, ¬ Engaged config s' other → ¬ Engaged config s other)
    (own : ¬ Engaged config s' block → (s'.admin block).Rests) : Surroundings config s' where
  result := result
  distinct := by
    rw [queuedBlocks, queue]
    exact around.distinct
  waiting entry member := by
    rw [queue] at member
    obtain ⟨op, known, ready⟩ := around.waiting entry member
    have other : entry.block ≠ block :=
      fun here => apart (here ▸ mem_map_of_mem member)
    rw [same _ other]
    exact ⟨op, known, ready⟩
  multiReq := multiReq ▸ around.multiReq
  others other absent free := by
    by_cases here : other = block
    · rw [here] at free ⊢
      exact own free
    · rw [queuedBlocks, queue] at absent
      rw [same other here]
      exact around.others other absent (engaged other here free)

theorem Surroundings.of_empty (result : s.memIf.Consistent) (empty : s.queue = [])
    (multiReq : s.multiReqState = .uninitialized)
    (others : ∀ block, ¬ Engaged config s block → (s.admin block).Rests) :
    Surroundings config s where
  result := result
  distinct := by simp [queuedBlocks, empty]
  waiting := by simp [empty]
  multiReq := .inl multiReq
  others block _ := others block

theorem not_engaged_idle {block : Nat} (idle : s.nvmState = .idle) : ¬ Engaged config s block := by
  simp [Engaged, Ahead, idle, isSingle, isAll]

theorem engaged_single (single : s.nvmState.isSingle ∨ s.nvmState = .invalidateNvBlock)
    (block : Nat) : Engaged config s block ↔ s.qEntry.block = block := by
  simp [Engaged, Ahead, single, isAll_of_single single]

/-- Nothing but the record of the block, what all blocks share and the service in progress has
changed. -/
structure Beside (block : Nat) (s s' : State) : Prop where
  queue : s'.queue = s.queue
  qEntry : s'.qEntry = s.qEntry
  multiReq : s'.multiReqState = s.multiReqState
  curr : s'.currBlockIndex = s.currBlockIndex
  same : ∀ other ≠ block, s'.admin other = s.admin other

theorem driveBlock_kept {block : Nat}
    (drives : service.isAll ∨ service.isSingle) (consistent : s.memIf.Consistent)
    (underway : Underway config s.memIf s.workBuffer service block dataPtr (s.admin block) ∨
      Stale config s.memIf service block dataPtr (s.admin block)) (answer : Answer) :
    let r := driveBlock config answer (paramsOf service block dataPtr) s
    r.2 = false ∧ r.1.asserted = true ∨ Beside block s r.1 ∧ r.1.memIf.Consistent ∧
      (r.2 = false ∧ r.1.nvmState = s.nvmState ∧ r.1.nvmSubState = s.nvmSubState ∧
          Underway config r.1.memIf r.1.workBuffer service block dataPtr (r.1.admin block) ∨
        r.2 = true ∧ r.1.nvmState = (if service.isAll then s.nvmState else .idle) ∧
          r.1.nvmSubState = (if service.isAll then s.nvmSubState else .init) ∧
          (r.1.admin block).Rests ∧ r.1.memIf.job = none) := by
  obtain ⟨y, drive, driven, eq⟩ := driveBlock_drives config answer (paramsOf service block dataPtr)
    (underway.elim Underway.pending Stale.pending)
  obtain ⟨queue, qEntry, multiReq, curr, -, -, memIf, -, work, asserted⟩ :=
    driveEnd_fields (p := paramsOf service block dataPtr) (s := s) y drive
  simp only [eq, memIf]
  refine (driven.kept consistent underway drives).imp (fun ⟨more, halted⟩ => ?_)
    fun ⟨consistent', kept⟩ => ?_
  · rw [more]
    exact ⟨rfl, halted⟩
  have beside : Beside block s (driveEnd (paramsOf service block dataPtr) s y drive).1 :=
    ⟨queue, qEntry, multiReq, curr, fun _ other => driveEnd_other y drive other⟩
  refine ⟨beside, consistent', ?_⟩
  cases drive with
  | aborted => exact kept.elim
  | more =>
    obtain ⟨own, state, sub, -⟩ := driveEnd_more (paramsOf service block dataPtr) s y
    exact .inl ⟨rfl, state, sub, own ▸ kept⟩
  | done =>
    obtain ⟨own, state, sub, -⟩ := driveEnd_done (paramsOf service block dataPtr) s y
    exact .inr ⟨rfl, state, sub, own ▸ kept.1.settle, kept.2⟩

theorem Surroundings.driven (around : Surroundings config s) (single : s.nvmState.isSingle)
    (op : s.qEntry.op = s.nvmState) (apart : s.qEntry.block ∉ s.queuedBlocks)
    (underway : s.EntryUnderway config ∨ s.EntryStale config) (answer : Answer) :
    let s' := (driveBlock config answer s.params s).1
    s'.asserted = true ∨ Orderly config s' := by
  intro s'
  apply (driveBlock_kept (.inr single) around.result underway answer).imp And.right
  rintro ⟨beside, consistent, kept⟩
  have engaged_iff (block : Nat) : Engaged config s block ↔ s.qEntry.block = block :=
    engaged_single (.inl single) block
  have around' (own : ¬ Engaged config s' s.qEntry.block → (s'.admin s.qEntry.block).Rests) :
      Surroundings config s' :=
    around.update apart consistent beside.queue beside.multiReq beside.same
      (fun other ne _ engaged => ne ((engaged_iff other).mp engaged).symm) own
  rcases kept with ⟨-, state, -, underway'⟩ | ⟨-, state, -, rests, free⟩
  · have single' : s'.nvmState.isSingle = true := state ▸ single
    refine ⟨around' fun free => ?_, .single single' ?_ ?_ ?_⟩
    · exact absurd ((engaged_single (.inl single') _).mpr (by rw [beside.qEntry])) free
    · rw [beside.qEntry, state, op]
    · rw [beside.qEntry, queuedBlocks, beside.queue]
      exact apart
    · rw [beside.qEntry, state]
      exact underway'
  · rw [isAll_of_single (.inl single)] at state
    exact ⟨around' fun _ => rests, .idle state free⟩

/-! ## All blocks -/

theorem Ready.state {block : Nat} (drives : service.isAll ∨ service.isSingle)
    (ready : Ready config service block dataPtr adm) :
    adm.blockState = .memifReq ∧
        (service.isWrite → (config.block block).blockUseCrc = false) ∨
      adm.blockState = .calcCrcWrite ∨ service = .readBlock ∧ adm.blockState = .memifProcess := by
  have start (state : adm.blockState = (config.block block).startState) :
      adm.blockState = .memifReq ∧ (config.block block).blockUseCrc = false ∨
        adm.blockState = .calcCrcWrite := by
    rw [state, BlockDescriptor.startState]
    cases (config.block block).blockUseCrc <;> simp
  obtain ⟨-, -, fits⟩ := ready
  cases service with
  | readBlock =>
    exact fits.2.2.imp (fun request => ⟨request, nofun⟩) fun stale => .inr ⟨rfl, stale.1⟩
  | readAll => exact .inl ⟨fits.2, nofun⟩
  | writeBlock | writeAll => exact (start fits.2.1).imp (And.imp_right fun none _ => none) .inl
  | restoreBlockDefaults => exact (start fits.2).imp (And.imp_right fun none _ => none) .inl
  | _ => rcases drives with other | other <;> cases other

theorem Ready.underway {block : Nat} (all : service.isAll)
    (ready : Ready config service block none adm) (free : memIf.job = none) :
    Underway config memIf work service block none adm := by
  obtain ⟨pending, failed, fits⟩ := ready
  cases service with
  | readAll => exact ⟨pending, fits.1, nofun, .requests fits.2 failed free⟩
  | writeAll =>
    obtain ⟨buffer, state, index⟩ := fits
    exact ⟨pending, buffer, fun _ => index, .start rfl state failed free⟩
  | _ => cases all

section

variable (passing : Passing config s)
include passing

private theorem Passing.unqueued : s.currBlockIndex ∉ s.queuedBlocks :=
  fun member => lt_irrefl _ (passing.apart _ member)

private theorem Passing.finish (around : Surroundings config s)
    (passed : config.numOfNvramBlocks ≤ s.currBlockIndex) : Orderly config (finishAll s) where
  result := around.result
  distinct := around.distinct
  waiting := around.waiting
  multiReq := around.multiReq
  others block absent _ := by
    apply around.others block absent
    rintro (⟨single, -⟩ | ⟨-, later, known⟩)
    · nomatch isAll_of_single single ▸ passing.service
    · omega
  current := .idle rfl (passing.passed passed)

variable (beside : Beside s.currBlockIndex s s') (state : s'.nvmState = s.nvmState)
include beside state

theorem Passing.expects {block : Nat} (later : s.currBlockIndex < block)
    (known : block < config.numOfNvramBlocks) : Expects config s' block := by
  rw [Expects, state, beside.same block (ne_of_gt later)]
  exact passing.ahead block later known

private theorem Passing.advance (sub : s'.nvmSubState = s.nvmSubState)
    (free : s'.memIf.job = none) :
    Passing config { s' with currBlockIndex := s.currBlockIndex + 1 } := by
  have all : s'.nvmState.isAll = true := state ▸ passing.service
  refine ⟨all, sub.trans passing.sub, fun block member => ?_, fun inside => ?_, fun _ => free,
    fun block later known =>
      (passing.expects beside state (lt_of_succ_lt later) known : Expects config s' block)⟩
  · have member : block ∈ s.queuedBlocks := by
      rw [queuedBlocks, ← beside.queue]
      exact member
    exact lt_succ_of_lt (passing.apart block member)
  · rcases passing.expects beside state (lt_succ_self _) inside with ⟨skipped, rests⟩ | ready
    · exact .inl ⟨skipped, rests, free⟩
    · exact .inr (ready.underway all free)

private theorem Passing.around (around : Surroundings config s)
    (consistent : s'.memIf.Consistent) (rests : (s'.admin s.currBlockIndex).Rests) :
    Surroundings config { s' with currBlockIndex := s.currBlockIndex + 1 } := by
  refine around.update passing.unqueued consistent beside.queue beside.multiReq beside.same ?_
    fun _ => rests
  intro other ne free engaged
  refine free (.inr ?_)
  rcases engaged with ⟨single, -⟩ | ⟨all, later, known⟩
  · nomatch isAll_of_single single ▸ passing.service
  · have behind := succ_le_of_lt (lt_of_le_of_ne later ne.symm)
    exact ⟨by rw [state]; exact all, behind, known⟩

private theorem Passing.stay
    (inside : s.currBlockIndex < config.numOfNvramBlocks) (around : Surroundings config s)
    (sub : s'.nvmSubState = s.nvmSubState) (consistent : s'.memIf.Consistent)
    (underway : Underway config s'.memIf s'.workBuffer s'.nvmState s'.currBlockIndex none
      (s'.admin s'.currBlockIndex)) : Orderly config s' := by
  have engaged_iff (block : Nat) : Engaged config s' block ↔ Engaged config s block := by
    unfold Engaged Ahead
    rw [beside.curr, state, beside.qEntry]
  have here : Engaged config s s.currBlockIndex := .inr ⟨passing.service, le_rfl, inside⟩
  refine ⟨around.update passing.unqueued consistent beside.queue beside.multiReq beside.same
    (fun other _ free => mt (engaged_iff other).mpr free)
    (fun free => absurd ((engaged_iff _).mpr here) free), .all ?_⟩
  refine ⟨state ▸ passing.service, sub.trans passing.sub, ?_, fun _ => .inr underway, ?_, ?_⟩
  · rw [queuedBlocks, beside.queue, beside.curr]
    exact passing.apart
  · intro passed
    rw [beside.curr] at passed
    exact absurd inside (not_lt.mpr passed)
  · intro block later known
    rw [beside.curr] at later
    exact passing.expects beside state later known

end

/-- The loop over the blocks takes up a block. A block that it does not begin with is as it was. -/
structure Reaches (config : Config) (s t : State) : Prop where
  around : Surroundings config t
  passing : Passing config t
  state : t.nvmState = s.nvmState
  untouched : t = s ∨ s.currBlockIndex < t.currBlockIndex ∧
    ∀ other, t.currBlockIndex ≤ other → t.admin other = s.admin other

theorem Reaches.expects {t : State} (reaches : Reaches config s t) (passing : Passing config s) :
    t = s ∨ (t.currBlockIndex < config.numOfNvramBlocks → Expects config t t.currBlockIndex) := by
  refine reaches.untouched.imp_right fun ⟨later, same⟩ inside => ?_
  rw [Expects, reaches.state, same _ le_rfl]
  exact passing.ahead _ later inside

private theorem Reaches.next {t t' : State} (reaches : Reaches config s t)
    (beside : Beside t.currBlockIndex t t') (state : t'.nvmState = t.nvmState)
    (sub : t'.nvmSubState = t.nvmSubState) (consistent : t'.memIf.Consistent)
    (rests : (t'.admin t.currBlockIndex).Rests) (free : t'.memIf.job = none) :
    Reaches config s { t' with currBlockIndex := t.currBlockIndex + 1 } := by
  refine ⟨reaches.passing.around beside state reaches.around consistent rests,
    reaches.passing.advance beside state sub free, state.trans reaches.state, .inr ?_⟩
  rcases reaches.untouched with rfl | ⟨later, before⟩
  · exact ⟨lt_succ_self _, fun other behind => beside.same other (ne_of_gt behind)⟩
  · exact ⟨lt_succ_of_lt later, fun other behind =>
      (beside.same other (ne_of_gt behind)).trans (before other (le_of_lt behind))⟩

theorem Passing.rule (Before After : State → Prop) {answers : Nat → Answer}
    (around : Surroundings config s) (passing : Passing config s) (before : Before s)
    (skip : ∀ t, Reaches config s t → Before t → t.currBlockIndex < config.numOfNvramBlocks →
      (t.admin t.currBlockIndex).errorStatus = .blockSkipped →
      Before { t with currBlockIndex := t.currBlockIndex + 1 })
    (drives : ∀ t, Reaches config s t → Before t → t.currBlockIndex < config.numOfNvramBlocks →
      Underway config t.memIf t.workBuffer t.nvmState t.currBlockIndex none
        (t.admin t.currBlockIndex) →
      let r := driveBlock config (answers t.currBlockIndex)
        (paramsOf t.nvmState t.currBlockIndex none) t
      (r.2 = false → (r.1.asserted ∨ Orderly config r.1 ∧ Beside t.currBlockIndex t r.1 ∧
        r.1.nvmState = t.nvmState ∧ (r.1.admin t.currBlockIndex).errorStatus = .pending) →
        After r.1) ∧
      (r.2 = true → Beside t.currBlockIndex t r.1 → r.1.nvmState = t.nvmState →
        Before { r.1 with currBlockIndex := t.currBlockIndex + 1 }))
    (finish : ∀ t, Reaches config s t → Before t → config.numOfNvramBlocks ≤ t.currBlockIndex →
      After (finishAll t)) :
    After (multiblockMain config answers s.nvmState.isWrite s) := by
  refine multiblockMain_rule (fun t => Reaches config s t ∧ Before t) After
    ?skip ?drives ?finish ⟨⟨around, passing, rfl, .inl rfl⟩, before⟩
  case skip =>
    rintro t ⟨reaches, before⟩ inside skipped
    have beside : Beside t.currBlockIndex t t := ⟨rfl, rfl, rfl, rfl, fun _ _ => rfl⟩
    obtain ⟨rests, free⟩ : (t.admin t.currBlockIndex).Rests ∧ t.memIf.job = none := by
      rcases reaches.passing.here inside with ⟨-, rests⟩ | underway
      · exact rests
      · cases skipped.symm.trans underway.pending
    exact ⟨reaches.next beside rfl rfl reaches.around.result rests free,
      skip t reaches before inside skipped⟩
  case drives =>
    rintro t ⟨reaches, before⟩ inside selected
    have ⟨around, passing, state, _⟩ := reaches
    have underway := (passing.here inside).resolve_left fun here => selected here.1
    have kept := driveBlock_kept (.inl passing.service) around.result (.inl underway)
      (answers t.currBlockIndex)
    have drives := drives t reaches before inside underway
    rw [← state, ← paramsOf_all passing.service]
    refine ⟨fun more => ?_, fun done => ?_⟩
    · simp only [more, Bool.false_eq_true, false_and, or_false, true_and] at kept
      refine drives.1 more (kept.imp_right fun ⟨beside, consistent, state', sub, underway'⟩ => ?_)
      refine ⟨passing.stay beside state' inside around sub consistent ?_, beside, state',
        underway'.pending⟩
      rw [beside.curr, state']
      exact underway'
    · simp only [done, Bool.true_eq_false, false_and, false_or, true_and, passing.service] at kept
      obtain ⟨beside, consistent, state', sub, rests, free⟩ := kept
      exact ⟨reaches.next beside state' sub consistent rests free, drives.2 done beside state'⟩
  case finish =>
    rintro t ⟨reaches, before⟩ passed
    exact finish t reaches before passed

theorem multiblockMain_orderly (around : Surroundings config s) (passing : Passing config s)
    (answers : Nat → Answer) :
    (multiblockMain config answers s.nvmState.isWrite s).asserted ∨
      Orderly config (multiblockMain config answers s.nvmState.isWrite s) := by
  refine passing.rule (fun _ => True) (fun t => t.asserted = true ∨ Orderly config t) around trivial
    (fun _ _ _ _ _ => trivial)
    (fun _ _ _ _ _ => ⟨fun _ kept => kept.imp_right And.left, fun _ _ _ => trivial⟩) ?finish
  case finish =>
    intro t reaches _ passed
    exact .inr (reaches.passing.finish reaches.around passed)

/-! ## The start of a request for all blocks -/

variable {selected : Nat → AdministrativeBlock → Bool}

private theorem selectBlocks_expects
    {start : Nat → AdministrativeBlock → AdministrativeBlock}
    (rest : ∀ block, (s.admin block).Rests)
    (ready : ∀ block < config.numOfNvramBlocks, selected block (s.admin block) →
      Ready config s.nvmState block none (start block (s.admin block)))
    {block : Nat} (known : block < config.numOfNvramBlocks) :
    let s' := { selectBlocks config selected start s with nvmSubState := .pending }
    Expects config s' block ∧
      ((s'.admin block).errorStatus = .pending ↔ selected block (s.admin block) = true) := by
  unfold Expects
  simp only [selectBlocks, known]
  by_cases chosen : selected block (s.admin block) = true
  · rw [if_pos chosen]
    have ready := ready block known chosen
    exact ⟨.inr ready, fun _ => chosen, fun _ => ready.1⟩
  · rw [if_neg chosen]
    exact ⟨.inl ⟨rfl, rest block⟩, nofun, fun selected => absurd selected chosen⟩

private theorem startRead_ready {block : Nat} (rests : adm.Rests)
    (readable : (!selectedForRead config block adm || (config.block block).readable) = true)
    (chosen : selectedForRead config block adm) :
    Ready config .readAll block none (startRead adm) := by
  simp only [chosen, Bool.not_true, Bool.false_or, BlockDescriptor.readable,
    Bool.and_eq_true] at readable
  refine ⟨rfl, rests.1, ?_, rfl⟩
  simpa [ramData, isSome_iff_ne_none] using readable.1

private theorem startWrite_ready {block : Nat} (rests : adm.Rests)
    (chosen : selectedForWrite config block adm) :
    Ready config .writeAll block none (startWrite config block adm) := by
  simp only [selectedForWrite, Bool.and_eq_true, decide_eq_true_eq] at chosen
  obtain ⟨⟨⟨permanent, -⟩, -⟩, index⟩ := chosen
  have buffer : ramData config block none ≠ none := by
    simpa [ramData, isSome_iff_ne_none] using permanent
  unfold startWrite
  split
  next crc => exact ⟨rfl, rests.1, buffer, by simp [BlockDescriptor.startState, crc], index⟩
  next crc => exact ⟨rfl, rfl, buffer, by simp [BlockDescriptor.startState, crc], index⟩

/-- The assertions of `ReadAllInit` hold. -/
def ReadableAll (config : Config) (s : State) : Prop :=
  ∀ block < config.numOfNvramBlocks, selectedForRead config block (s.admin block) = true →
    (config.block block).readable = true

instance (config : Config) (s : State) : Decidable (ReadableAll config s) :=
  inferInstanceAs (Decidable (∀ block < config.numOfNvramBlocks, _ → _))

/-- A request for all blocks starts: no block is selected, or the request comes to the first
block. -/
inductive Starts (config : Config) (s s' : State) : Prop where
  | halts (service : s.multiReqState = .readAll) (unreadable : ¬ ReadableAll config s)
      (asserted : s'.asserted = true) (events : s'.events = s.events)
  | ends (state : s'.nvmState = .idle) (events : s'.events = s.events ++
      [.multiStarted s.multiReqState [], .multiFinished s.multiReqState .ok])
      (shared : s'.memIf = s.memIf ∧ s'.queue = s.queue ∧ s'.asserted = s.asserted)
      (status : s'.multiErrorStatus = .ok)
      (skipped : ∀ block < config.numOfNvramBlocks, (s'.admin block).errorStatus = .blockSkipped)
      (beyond : ∀ block, config.numOfNvramBlocks ≤ block → s'.admin block = s.admin block)
  | begins (state : s'.nvmState = s.multiReqState) (curr : s'.currBlockIndex = 0)
      (shared : s'.memIf = s.memIf ∧ s'.queue = s.queue ∧ s'.asserted = s.asserted)
      (expects : ∀ block < config.numOfNvramBlocks, Expects config s' block)
      (beyond : ∀ block, config.numOfNvramBlocks ≤ block → s'.admin block = s.admin block)
      (events : s'.events = s.events ++ [.multiStarted s.multiReqState
        ((List.range config.numOfNvramBlocks).filter fun block =>
          decide ((s'.admin block).errorStatus = .pending))])

/-! ## The main function -/

theorem Ready.single {block : Nat} (single : service.isSingle)
    (ready : Ready config service block dataPtr adm) (free : memIf.job = none) :
    Underway config memIf work service block dataPtr adm ∨
      Stale config memIf service block dataPtr adm := by
  obtain ⟨pending, failed, fits⟩ := ready
  cases service with
  | readBlock =>
    obtain ⟨buffer, -, request | ⟨process, saved⟩⟩ := fits
    · exact .inl ⟨pending, buffer, nofun, .requests request failed free⟩
    · exact .inr ⟨pending, buffer, rfl, process, saved, failed, free⟩
  | writeBlock =>
    obtain ⟨buffer, state, index⟩ := fits
    exact .inl ⟨pending, buffer, fun _ => index, .start rfl state failed free⟩
  | restoreBlockDefaults =>
    obtain ⟨buffer, state⟩ := fits
    exact .inl ⟨pending, buffer, nofun, .start rfl state failed free⟩
  | _ => cases single

theorem process_single (single : s.nvmState.isSingle) (op : s.qEntry.op = s.nvmState)
    (answers : Nat → Answer) :
    process config answers s = (driveBlock config (answers s.qEntry.block) s.params s).1 := by
  rw [params, ← op, paramsOf_single (op ▸ single), op]
  unfold process
  cases state : s.nvmState <;> first | rfl | (rw [state] at single; cases single)

theorem process_all (all : s.nvmState.isAll) (sub : s.nvmSubState = .pending)
    (answers : Nat → Answer) :
    process config answers s = multiblockMain config answers s.nvmState.isWrite s := by
  unfold process
  cases state : s.nvmState with
  | readAll | writeAll => simp only [sub]; rfl
  | _ => rw [state] at all; cases all

theorem process_invalidates (state : s.nvmState = .invalidateNvBlock) (answers : Nat → Answer) :
    process config answers s = invalidate config (answers s.qEntry.block) s := by
  simp [process, state]

variable (answer : Answer) (s : State) in
/-- What a call of the main function does to an invalidation. -/
inductive Invalidates : State → Prop where
  | waits (sub : s.nvmSubState = .init) (reason : s.memIf.job ≠ none ∨ answer ≠ .accepted) :
      Invalidates s
  | requests {memIf : MemIf} (sub : s.nvmSubState = .init) (result : memIf.result = .pending) :
      Invalidates { s with memIf, nvmSubState := .pending }
  | pends (sub : s.nvmSubState = .pending) (result : s.memIf.result = .pending) :
      Invalidates s
  | again (sub : s.nvmSubState = .pending) (first : s.blockIndex = 0) :
      Invalidates { s with blockIndex := 1, nvmSubState := .init }
  | finishes {status : RequestResult} (final : status ≠ .pending) :
      Invalidates (finishInvalidation s status)

theorem invalidate_invalidates (config : Config) (answer : Answer) (s : State) :
    Invalidates answer s (invalidate config answer s) := by
  unfold invalidate
  cases sub : s.nvmSubState with
  | init =>
    rcases request_cases s.memIf answer with
      ⟨-, -, requested⟩ | ⟨busy, requested⟩ | ⟨-, refused, requested⟩ <;> simp only [requested]
    · exact .requests sub rfl
    · refine .waits sub (busy.imp isSome_iff_ne_none.mp fun busy => ?_)
      rw [busy]
      nofun
    · exact .waits sub (.inr (by rw [refused]; nofun))
  | pending =>
    simp only
    split
    next pending => exact .pends sub pending
    next =>
      split
      next copies => exact .again sub copies.2
      next => exact .finishes nofun
    next => exact .finishes nofun

theorem Invalidates.fields {answer : Answer} (invalidates : Invalidates answer s s') :
    s'.multiReqState = s.multiReqState ∧ s'.events = s.events ∧
      (s'.nvmState = .idle ∨ s'.nvmState = s.nvmState) ∧ s'.queue = s.queue ∧
      s'.asserted = s.asserted ∧
      (s'.memIf.result = .pending ∨ s'.memIf.result = s.memIf.result) := by
  cases invalidates with
  | waits | pends | again => exact ⟨rfl, rfl, .inr rfl, rfl, rfl, .inr rfl⟩
  | requests _ result => exact ⟨rfl, rfl, .inr rfl, rfl, rfl, .inl result⟩
  | finishes => exact ⟨rfl, rfl, .inl rfl, rfl, rfl, .inr rfl⟩

theorem invalidate_orderly (around : Surroundings config s)
    (state : s.nvmState = .invalidateNvBlock) (apart : s.qEntry.block ∉ s.queuedBlocks)
    (pending : (s.admin s.qEntry.block).errorStatus = .pending)
    (rests : (s.admin s.qEntry.block).Rests) (free : s.nvmSubState = .init → s.memIf.job = none)
    (answer : Answer) : Orderly config (invalidate config answer s) := by
  have engaged_iff (block : Nat) : Engaged config s block ↔ s.qEntry.block = block :=
    engaged_single (.inr state) block
  have finished (status : RequestResult) (over_ : s.memIf.result ≠ .pending) :
      Orderly config (finishInvalidation s status) := by
    have same (other : Nat) (ne : other ≠ s.qEntry.block) :
        (finishInvalidation s status).admin other = s.admin other := update_of_ne ne ..
    refine ⟨around.update apart around.result rfl rfl same (fun other ne _ engaged => ?_)
      fun _ => ?_, .idle rfl (around.result.free over_)⟩
    · exact ne ((engaged_iff other).mp engaged).symm
    · simp only [finishInvalidation, update_self]
      exact rests
  unfold invalidate
  cases sub : s.nvmSubState with
  | init =>
    rcases request_cases s.memIf answer with
      ⟨-, -, requested⟩ | ⟨-, requested⟩ | ⟨-, -, requested⟩ <;> simp only [requested]
    · refine ⟨around.update apart ⟨fun _ => rfl, fun _ => rfl⟩ rfl rfl (fun _ _ => rfl)
        (fun _ _ free => free) fun _ => rests, ?_⟩
      exact .invalidates state apart pending rests nofun
    · exact ⟨around, .invalidates state apart pending rests free⟩
    · exact ⟨around, .invalidates state apart pending rests free⟩
  | pending =>
    simp only
    split
    next => exact ⟨around, .invalidates state apart pending rests free⟩
    next ok =>
      have over_ : s.memIf.result ≠ .pending := by rw [ok]; nofun
      split
      · refine ⟨around.update apart around.result rfl rfl (fun _ _ => rfl)
          (fun _ _ free => free) fun _ => rests, ?_⟩
        exact .invalidates state apart pending rests fun _ => around.result.free over_
      · exact finished .ok over_
    next not_pending _ => exact finished .notOk not_pending

/-- The state in which a request from the queue is taken up. -/
def State.popped (s : State) (entry : QueueEntry) (rest : List QueueEntry) : State :=
  { s with nvmState := entry.op, nvmSubState := .init, queue := rest, qEntry := entry }

section

variable (orderly : Orderly config s) (idle : s.nvmState = .idle)
include orderly idle

theorem Orderly.takeRequest_entry {rest : List QueueEntry} (queue : s.queue = entry :: rest) :
    takeRequest s = s.popped entry rest := by
  have member : entry ∈ s.queue := by rw [queue]; exact mem_cons_self
  have pending := (orderly.waiting entry member).2.2.1
  have same : { s.admin entry.block with errorStatus := .pending } = s.admin entry.block := by
    rw [← pending]
  simp only [takeRequest, idle, queue, same, update_eq_self]
  rfl

theorem Orderly.popped {rest : List QueueEntry} (queue : s.queue = entry :: rest) :
    Surroundings config (s.popped entry rest) ∧ entry.block ∉ (s.popped entry rest).queuedBlocks ∧
      s.memIf.job = none := by
  have blocks : s.queuedBlocks = entry.block :: (s.popped entry rest).queuedBlocks := by
    rw [queuedBlocks, queue]
    rfl
  have distinct := orderly.distinct
  rw [blocks] at distinct
  obtain ⟨apart, distinct⟩ := nodup_cons.mp distinct
  have member : entry ∈ s.queue := by rw [queue]; exact mem_cons_self
  have free : s.memIf.job = none := by
    cases orderly.current with
    | idle _ free => exact free
    | single single => rw [idle] at single; cases single
    | invalidates invalidate => rw [idle] at invalidate; cases invalidate
    | all passing => nomatch idle ▸ passing.service
  refine ⟨⟨orderly.result, distinct, ?_, orderly.multiReq, ?_⟩, apart, free⟩
  · intro other later
    exact orderly.waiting other (by rw [queue]; exact mem_cons_of_mem entry later)
  · intro block absent unengaged
    refine orderly.others block ?_ (not_engaged_idle idle)
    rw [blocks, mem_cons, not_or]
    refine ⟨?_, absent⟩
    rintro rfl
    exact unengaged (.inl ⟨(orderly.waiting entry member).1, rfl⟩)

private theorem Orderly.rest (empty : s.queue = []) (block : Nat) : (s.admin block).Rests := by
  refine orderly.others block ?_ (not_engaged_idle idle)
  rw [queuedBlocks, empty]
  exact not_mem_nil

private theorem Orderly.startAll (empty : s.queue = []) (free : s.memIf.job = none)
    (waits : s.multiReqState = service) (all : service.isAll) (status : RequestResult)
    {start : Nat → AdministrativeBlock → AdministrativeBlock}
    (ready : ∀ block < config.numOfNvramBlocks, selected block (s.admin block) →
      Ready config service block none (start block (s.admin block))) :
    let s' := startAll config selected start { s with
      nvmState := service, nvmSubState := .init, multiReqState := .uninitialized,
      multiErrorStatus := status }
    Starts config s s' ∧ Orderly config s' := by
  subst waits
  have rest := orderly.rest idle empty
  have expects {block : Nat} (known : block < config.numOfNvramBlocks) :=
    selectBlocks_expects (s := { s with
      nvmState := s.multiReqState, nvmSubState := .init, multiReqState := .uninitialized,
      multiErrorStatus := status }) rest ready known
  have beyond (t : State) (block : Nat) (unknown : config.numOfNvramBlocks ≤ block) :
      (selectBlocks config selected start t).admin block = t.admin block := by
    simp [selectBlocks, not_lt.mpr unknown]
  unfold NvM.startAll
  by_cases any : ((List.range config.numOfNvramBlocks).any
      fun block => selected block (s.admin block)) = true
  · rw [if_pos any]
    refine ⟨.begins rfl rfl ⟨rfl, rfl, rfl⟩ (fun _ known => (expects known).1) (beyond _) ?_,
      .of_empty orderly.result empty rfl fun block unengaged => ?_,
      .all ⟨all, rfl, ?_, fun inside => ?_, fun _ => free, fun _ _ known => (expects known).1⟩⟩
    · have listed := filter_congr (l := List.range config.numOfNvramBlocks)
        fun block member => Bool.eq_iff_iff.mpr
          ((expects (mem_range.mp member)).2.symm.trans decide_eq_true_iff.symm)
      rw [← listed]
      rfl
    · refine (beyond _ block (not_lt.mp fun known => unengaged ?_)).symm ▸ rest block
      exact .inr ⟨all, zero_le _, known⟩
    · simp [queuedBlocks, selectBlocks, empty]
    · rcases (expects inside).1 with ⟨skipped, rests⟩ | ready
      · exact .inl ⟨skipped, rests, free⟩
      · exact .inr (ready.underway all free)
  · rw [if_neg any]
    have skipped {block : Nat} (known : block < config.numOfNvramBlocks) (t : State)
        (same : t.admin = s.admin) : (selectBlocks config selected start t).admin block =
          { s.admin block with errorStatus := .blockSkipped } := by
      have unselected : selected block (s.admin block) ≠ true :=
        fun chosen => any (any_eq_true.mpr ⟨block, mem_range.mpr known, chosen⟩)
      simp [selectBlocks, known, same, if_neg unselected]
    have none_selected : (List.range config.numOfNvramBlocks).filter
        (fun block => selected block (s.admin block)) = [] := by
      rw [filter_eq_nil_iff]
      exact fun block member chosen => any (any_eq_true.mpr ⟨block, member, chosen⟩)
    refine ⟨.ends rfl ?_ ⟨rfl, rfl, rfl⟩ rfl
      (fun _ known => congrArg _ (skipped known _ rfl)) (beyond _),
      .of_empty orderly.result empty rfl fun block _ => ?_, .idle rfl free⟩
    · simp [selectBlocks, none_selected]
    · by_cases known : block < config.numOfNvramBlocks
      · exact (skipped known _ rfl).symm ▸ rest block
      · exact (beyond _ block (not_lt.mp known)).symm ▸ rest block

theorem Orderly.started (empty : s.queue = []) (free : s.memIf.job = none)
    (waits : s.multiReqState.isAll) (answers : Nat → Answer) :
    let s' := mainFunction config answers s
    Starts config s s' ∧ (s'.asserted = true ∨ Orderly config s') := by
  have rest := orderly.rest idle empty
  have waiting : s.multiReqState ≠ .uninitialized := by
    intro none_waits
    rw [none_waits] at waits
    cases waits
  have taken : takeRequest s = { s with
      nvmState := s.multiReqState, nvmSubState := .init, multiReqState := .uninitialized } := by
    simp [takeRequest, idle, empty, waiting]
  rw [NvM.mainFunction, taken]
  cases service : s.multiReqState with
  | readAll =>
    simp only [process, readAllInit]
    split
    next readable =>
      refine (orderly.startAll idle empty free service rfl .pending ?_).imp_right .inr
      intro block known chosen
      exact startRead_ready (rest block)
        (all_eq_true.mp readable block (mem_range.mpr known)) chosen
    next unreadable =>
      refine ⟨.halts service (fun readable => unreadable ?_) rfl rfl, .inl rfl⟩
      refine all_eq_true.mpr fun block member => ?_
      have readable := readable block (mem_range.mp member)
      cases chosen : selectedForRead config block (s.admin block) with
      | false => rfl
      | true => exact readable chosen
  | writeAll =>
    refine (orderly.startAll idle empty free service rfl s.multiErrorStatus ?_).imp_right .inr
    intro block known chosen
    exact startWrite_ready (rest block) chosen
  | _ => rw [service] at waits; cases waits

end

/-- The state in which the main function works on a request for one block: the request is in
progress, or it has just been taken from the queue. -/
inductive TakenUp (config : Config) (s : State) : State → Prop where
  | inProgress (busy : s.nvmState ≠ .idle) : TakenUp config s s
  | popped {entry : QueueEntry} {rest : List QueueEntry} (idle : s.nvmState = .idle)
      (queue : s.queue = entry :: rest) (free : s.memIf.job = none)
      (ready : Ready config entry.op entry.block entry.dataPtr (s.admin entry.block)) :
      TakenUp config s (s.popped entry rest)

variable (config : Config) (answers : Nat → Answer) (s : State) in
/-- What a call of the main function does in an orderly state. -/
inductive MainCall : State → Prop where
  | rests (idle : s.nvmState = .idle) (empty : s.queue = [])
      (none_waits : s.multiReqState = .uninitialized) : MainCall s
  | starts {s' : State} (idle : s.nvmState = .idle) (empty : s.queue = [])
      (waits : s.multiReqState.isAll = true) (free : s.memIf.job = none)
      (starts : Starts config s s') : MainCall s'
  | drives {t : State} (taken : TakenUp config s t) (around : Surroundings config t)
      (single : t.nvmState.isSingle = true) (op : t.qEntry.op = t.nvmState)
      (apart : t.qEntry.block ∉ t.queuedBlocks)
      (underway : Underway config t.memIf t.workBuffer t.nvmState t.qEntry.block t.qEntry.dataPtr
          (t.admin t.qEntry.block) ∨
        Stale config t.memIf t.nvmState t.qEntry.block t.qEntry.dataPtr
          (t.admin t.qEntry.block) ∧ s.nvmState = .idle) :
      MainCall (driveBlock config (answers t.qEntry.block)
        (paramsOf t.nvmState t.qEntry.block t.qEntry.dataPtr) t).1
  | invalidates {t : State} (taken : TakenUp config s t) (around : Surroundings config t)
      (state : t.nvmState = .invalidateNvBlock) (apart : t.qEntry.block ∉ t.queuedBlocks)
      (pending : (t.admin t.qEntry.block).errorStatus = .pending)
      (rests : (t.admin t.qEntry.block).Rests)
      (free : t.nvmSubState = .init → t.memIf.job = none) :
      MainCall (invalidate config (answers t.qEntry.block) t)
  | all (busy : s.nvmState ≠ .idle) (passing : Passing config s) :
      MainCall (multiblockMain config answers s.nvmState.isWrite s)

theorem Orderly.mainCall (orderly : Orderly config s) (answers : Nat → Answer) :
    MainCall config answers s (mainFunction config answers s) := by
  have busy (other : s.nvmState ≠ .idle) : mainFunction config answers s =
      process config answers s := by
    simp [NvM.mainFunction, takeRequest, other]
  cases orderly.current with
  | idle idle free =>
    cases queue : s.queue with
    | nil =>
      rcases orderly.multiReq with none_waits | waits
      · have same : mainFunction config answers s = s := by
          simp [NvM.mainFunction, takeRequest, idle, queue, none_waits, process]
        rw [same]
        exact .rests idle queue none_waits
      · exact .starts idle queue waits free (orderly.started idle queue free waits answers).1
    | cons entry rest =>
      rw [NvM.mainFunction, orderly.takeRequest_entry idle queue]
      obtain ⟨around, apart, -⟩ := orderly.popped idle queue
      have member : entry ∈ s.queue := by rw [queue]; exact mem_cons_self
      obtain ⟨op, -, ready⟩ := orderly.waiting entry member
      rcases op with single | invalidates
      · rw [process_single (s := s.popped entry rest) single rfl]
        refine .drives (.popped idle queue free ready) around single rfl apart ?_
        exact (ready.single single free).imp_right fun stale => ⟨stale, idle⟩
      · have state : (s.popped entry rest).nvmState = .invalidateNvBlock := invalidates
        rw [process_invalidates state]
        have resting := ready
        rw [invalidates] at resting
        exact .invalidates (.popped idle queue free ready) around state apart resting.1 resting.2.2
          fun _ => free
  | single single op apart underway =>
    have other : s.nvmState ≠ .idle := by
      intro idle
      rw [idle] at single
      cases single
    rw [busy other, process_single single op]
    exact .drives (.inProgress other) orderly.toSurroundings single op apart (.inl underway)
  | invalidates state apart pending rests free =>
    have other : s.nvmState ≠ .idle := by rw [state]; nofun
    rw [busy other, process_invalidates state]
    exact .invalidates (.inProgress other) orderly.toSurroundings state apart pending rests free
  | all passing =>
    have other : s.nvmState ≠ .idle := by
      intro idle
      nomatch idle ▸ passing.service
    rw [busy other, process_all passing.service passing.sub]
    exact .all other passing

theorem Orderly.mainFunction (orderly : Orderly config s) (answers : Nat → Answer) :
    (mainFunction config answers s).asserted ∨
      Orderly config (mainFunction config answers s) := by
  have call := orderly.mainCall answers
  generalize called : NvM.mainFunction config answers s = s' at call
  cases call with
  | rests => exact .inr orderly
  | starts idle empty waits free => exact called ▸ (orderly.started idle empty free waits answers).2
  | drives taken around single op apart underway =>
    exact around.driven single op apart (underway.imp_right And.left) _
  | invalidates taken around state apart pending rests free =>
    exact .inr (invalidate_orderly around state apart pending rests free _)
  | all busy passing => exact multiblockMain_orderly orderly.toSurroundings passing answers

end

end NvM
