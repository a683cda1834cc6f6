import ClassicPlatform.NvM.MainFunction

/-!
# What `DriveBlock` can do

One inversion lemma for a call of `DriveBlock`: every way in which the call can end, with the
guards that lead there. All later proofs about the state machine of a block are case analyses
of `Drives`.
-/
namespace NvM

open Context
open ByteLanes (Memory)

/-- The RAM that a call works on. -/
def Params.buffer (config : Config) (p : Params) : Option Int := ramData config p.block p.dataPtr

/-- A request to the memory interface notes the RAM it is made for. -/
def Context.aim (x : Context) (buffer : Option Int) : Context :=
  { x with adm := { x.adm with savedDataPtr := buffer } }

/-- The job is over and did not succeed. -/
def JobResult.failure : JobResult → Bool
  | .ok | .pending => false
  | _ => true

section

variable (config : Config) (p : Params)

/-- A redundant block with its first copy failed has no second copy. -/
def Unpaired (x : Context) : Prop :=
  (config.block p.block).blockManagementType = .redundant ∧ x.adm.flags = 1 ∧
    (config.block p.block).nvBlockNum ≠ 2

/-- An assertion fails, or a null pointer is used. -/
def Faulty (x : Context) : Prop :=
  match x.adm.blockState with
  | .memifReq =>
    if p.isWrite then (p.multiBlock && p.dataPtr.isSome) = true ∨ p.buffer config = none
    else p.restoreFromRom = true ∧
      ((config.block p.block).romBlockDataAddress = none ∨ p.buffer config = none)
  | .memifProcess =>
    p.isWrite = false ∧ x.memIf.result = .ok ∧ x.adm.savedDataPtr = none ∨
      x.memIf.result = .canceled ∨
      x.memIf.result.failure = true ∧ Unpaired config p x
  | .calcCrc => True
  | .calcCrcWrite => p.buffer config = none
  | .calcCrcRead =>
    (config.block p.block).calcRamBlockCrc = false ∨ x.adm.savedDataPtr = none ∨
      Unpaired config p x

/-- The other copy is to be tried next. -/
def AdministrativeBlock.switchCopy (adm : AdministrativeBlock) : AdministrativeBlock :=
  { adm with
    dataIndex := if adm.dataIndex ≠ 0 then 0 else 1
    blockState := .memifReq
    flags := (adm.flags + 1) % 256 }

def countCopy (block : Nat) (adm : AdministrativeBlock) : AdministrativeBlock :=
  if (config.block block).blockManagementType = .redundant then
    { adm with flags := (adm.flags + 1) % 256 }
  else adm

/-- The first copy of a redundant block has failed. -/
def Switches (x : Context) : Prop :=
  (config.block p.block).blockManagementType = .redundant ∧ x.adm.flags = 1 ∧
    (config.block p.block).nvBlockNum = 2
  deriving Decidable

/-- A failed job that counts for good: a read, or a write that has failed too often. -/
def Final (x : Context) : Prop :=
  p.isWrite = true → config.maxNumberOfWriteRetries < (x.adm.numberOfWriteFailed + 1) % 256
  deriving Decidable

/-- The context after a failed job that counts for good. -/
def Context.failed (x : Context) : Context :=
  ({ x with
    adm := if p.isWrite then { x.adm with numberOfWriteFailed := 0 } else x.adm }).emit
      (.outcome p.service p.block false)

/-- The default data is in the RAM. -/
def Context.default (x : Context) (status : RequestResult) : Context :=
  { x with adm := { countCopy config p.block x.adm with errorStatus := status } }

/-- The checksum did not match, and there is no other copy. -/
def Context.mismatched (x : Context) : Context :=
  ({ x with adm := countCopy config p.block x.adm }).emit (.outcome p.service p.block false)

/-- The checksum of the RAM that the data was read to. -/
def Context.crcAt (x : Context) (buffer : Int) : BitVec 32 :=
  config.crcOf p.block (Buffer.bytes x.ram buffer (config.block p.block).nvBlockLength)

variable (answer : Answer) (x : Context) in
inductive Drives : Context → Drive → Prop where
  | halted {y : Context} (faulty : Faulty config p x) (asserted : y.asserted = true)
      (index : y.adm.dataIndex = x.adm.dataIndex)
      (events : y.events = x.events ∨
        (x.adm.blockState = .memifProcess ∨ x.adm.blockState = .calcCrcRead) ∧
          y.events = x.events ++ [.outcome p.service p.block false]) : Drives y .more
  -- BLOCK_STATE_MEMIF_REQ
  | waits {work : Memory} (state : x.adm.blockState = .memifReq)
      (job : p.isWrite = true ∨ p.restoreFromRom = false)
      (busy : x.memIf.job.isSome = true ∨ answer = .busy) :
      Drives { x.aim (p.buffer config) with workBuffer := work } .more
  | refused {work : Memory} (state : x.adm.blockState = .memifReq)
      (job : p.isWrite = true ∨ p.restoreFromRom = false)
      (reason : x.memIf.job = none ∧ answer = .refused ∨
        (config.block p.block).nvBlockNum ≤ x.adm.dataIndex) :
      Drives
        { x.aim (p.buffer config) with
          workBuffer := work
          adm := { (x.aim (p.buffer config)).adm with errorStatus := .notOk } } .done
  | writes {source : Int} (state : x.adm.blockState = .memifReq)
      (write : p.isWrite = true) (buffer : p.buffer config = some source)
      (index : x.adm.dataIndex < (config.block p.block).nvBlockNum) (free : x.memIf.job = none)
      (accepted : answer = .accepted) :
      Drives
        (({ x with
          workBuffer := writeCrcToBuffer config p.block x.adm.ramCrc
            (Buffer.copy x.workBuffer 0 x.ram source (config.block p.block).nvBlockLength)
          memIf := { x.memIf with
            job := some (.write (config.blockNr p.block x.adm.dataIndex)), result := .pending }
          adm := { x.adm with savedDataPtr := some source, blockState := .memifProcess } }).emit
          (.memIfWrite p.service p.block x.adm.dataIndex source
            (Buffer.bytes x.ram source (config.block p.block).nvBlockLength))) .more
  | reads (state : x.adm.blockState = .memifReq) (read : p.isWrite = false)
      (restore : p.restoreFromRom = false)
      (index : x.adm.dataIndex < (config.block p.block).nvBlockNum) (free : x.memIf.job = none)
      (accepted : answer = .accepted) :
      Drives
        (({ x with
          memIf := { x.memIf with
            job := some (.read (config.blockNr p.block x.adm.dataIndex)
              ((config.block p.block).nvBlockLength + crcLength (config.block p.block).blockUseCrc
                (config.block p.block).blockCRCType)),
            result := .pending }
          adm := { x.adm with
            savedDataPtr := p.buffer config, blockState := .memifProcess } }).emit
          (.memIfRead p.service p.block x.adm.dataIndex (p.buffer config)
            (config.contents p.block x.adm.dataIndex x.memIf))) .more
  | restores {buffer : Int} {rom : Memory} (state : x.adm.blockState = .memifReq)
      (read : p.isWrite = false) (restore : p.restoreFromRom = true)
      (aimed : p.buffer config = some buffer)
      (default : (config.block p.block).romBlockDataAddress = some rom) :
      Drives
        (copyToRam config p buffer rom
          { x with adm := { x.adm with savedDataPtr := some buffer, errorStatus := .ok } }) .done
  -- BLOCK_STATE_MEMIF_PROCESS
  | aborts (state : x.adm.blockState = .memifProcess)
      (null : p.buffer config = none) : Drives x .aborted
  | pends (state : x.adm.blockState = .memifProcess)
      (pending : x.memIf.result = .pending) : Drives x .more
  | written (state : x.adm.blockState = .memifProcess) (write : p.isWrite = true)
      (ok : x.memIf.result = .ok) :
      Drives (({ x with adm := x.adm.finish .ok }).emit (.outcome p.service p.block true)) .done
  | delivers {buffer : Int} {crc : BitVec 32}
      (state : x.adm.blockState = .memifProcess) (read : p.isWrite = false)
      (ok : x.memIf.result = .ok) (saved : x.adm.savedDataPtr = some buffer)
      (unchecked : ((config.block p.block).blockUseCrc &&
        (config.block p.block).calcRamBlockCrc) = false) :
      Drives
        ((copyToRam config p buffer x.workBuffer
          { x with adm := { x.adm.finish .ok with ramCrc := crc } }).emit
            (.outcome p.service p.block true)) .done
  | checks {buffer : Int} (state : x.adm.blockState = .memifProcess)
      (read : p.isWrite = false) (ok : x.memIf.result = .ok)
      (saved : x.adm.savedDataPtr = some buffer) (crc : (config.block p.block).blockUseCrc = true)
      (checked : (config.block p.block).calcRamBlockCrc = true) :
      Drives
        (copyToRam config p buffer x.workBuffer
          { x with
            adm := { x.adm with
              ramCrc := readCrcFromBuffer config p.block x.workBuffer
              blockState := .calcCrcRead
              blockSubState := .substate0
              flags := 0 } }) .more
  | counts (state : x.adm.blockState = .memifProcess) (write : p.isWrite = true)
      (failure : x.memIf.result.failure = true)
      (few : (x.adm.numberOfWriteFailed + 1) % 256 ≤ config.maxNumberOfWriteRetries) :
      Drives
        (({ x with
          adm := { x.adm with
            numberOfWriteFailed := (x.adm.numberOfWriteFailed + 1) % 256 } }).emit
            (.outcome p.service p.block false)) .more
  | switches (state : x.adm.blockState = .memifProcess)
      (failure : x.memIf.result.failure = true) (final : Final config p x)
      (first : Switches config p x) :
      Drives { x.failed p with adm := (x.failed p).adm.switchCopy } .done
  | defaults {buffer : Int} {rom : Memory} (state : x.adm.blockState = .memifProcess)
      (failure : x.memIf.result.failure = true) (last : ¬ Switches config p x)
      (read : p.isWrite = false) (aimed : p.buffer config = some buffer)
      (default : (config.block p.block).romBlockDataAddress = some rom) :
      Drives (copyToRam config p buffer rom ((x.failed p).default config p .ok)) .done
  | initializes {callback : Memory → Memory} (state : x.adm.blockState = .memifProcess)
      (failure : x.memIf.result.failure = true) (last : ¬ Switches config p x)
      (read : p.isWrite = false)
      (default : (config.block p.block).initBlockCallback = some callback) :
      Drives { (x.failed p).default config p .ok with ram := callback x.ram } .done
  | fails {status : RequestResult} (state : x.adm.blockState = .memifProcess)
      (final : Final config p x) (last : ¬ Switches config p x)
      (failure : failureStatus x.memIf.result = some status) :
      Drives
        { (x.failed p).default config p status with
          adm := { ((x.failed p).default config p status).adm with blockState := .memifReq }
          pendingErrorStatus := .notOk } .done
  -- BLOCK_STATE_CALC_CRC_WRITE
  | sums {buffer : Int} (state : x.adm.blockState = .calcCrcWrite)
      (aimed : p.buffer config = some buffer) :
      Drives
        { x with
          adm := { x.adm with ramCrc := x.crcAt config p buffer, blockState := .memifReq } } .more
  -- BLOCK_STATE_CALC_CRC_READ
  | verifies {buffer : Int} (state : x.adm.blockState = .calcCrcRead)
      (first : x.adm.blockSubState = .substate0) (saved : x.adm.savedDataPtr = some buffer)
      (good : x.crcAt config p buffer = x.adm.ramCrc) :
      Drives (({ x with adm := x.adm.finish .ok }).emit (.outcome p.service p.block true)) .done
  | crcSwitches {buffer : Int} (state : x.adm.blockState = .calcCrcRead)
      (sub : x.adm.blockSubState = .substate0) (saved : x.adm.savedDataPtr = some buffer)
      (bad : x.crcAt config p buffer ≠ x.adm.ramCrc) (first : Switches config p x) :
      Drives (({ x with adm := x.adm.switchCopy }).emit (.outcome p.service p.block false)) .more
  | crcDefaults {buffer : Int} {rom : Memory}
      (state : x.adm.blockState = .calcCrcRead) (sub : x.adm.blockSubState = .substate0)
      (saved : x.adm.savedDataPtr = some buffer) (bad : x.crcAt config p buffer ≠ x.adm.ramCrc)
      (default : (config.block p.block).romBlockDataAddress = some rom) :
      Drives
        (copyToRam config p buffer rom
          { x.mismatched config p with
            adm := { (x.mismatched config p).adm with blockSubState := .substate1 } }) .more
  | crcInitializes {buffer : Int} {callback : Memory → Memory}
      (state : x.adm.blockState = .calcCrcRead) (sub : x.adm.blockSubState = .substate0)
      (saved : x.adm.savedDataPtr = some buffer) (bad : x.crcAt config p buffer ≠ x.adm.ramCrc)
      (default : (config.block p.block).initBlockCallback = some callback) :
      Drives
        { x.mismatched config p with
          ram := callback x.ram
          adm := { (x.mismatched config p).adm with blockSubState := .substate1 } } .more
  | crcFails {buffer : Int} (state : x.adm.blockState = .calcCrcRead)
      (sub : x.adm.blockSubState = .substate0) (saved : x.adm.savedDataPtr = some buffer)
      (bad : x.crcAt config p buffer ≠ x.adm.ramCrc) :
      Drives
        { x.mismatched config p with
          adm := (x.mismatched config p).adm.finish .integrityFailed } .done
  | settles {buffer : Int} (state : x.adm.blockState = .calcCrcRead)
      (sub : x.adm.blockSubState = .substate1) (saved : x.adm.savedDataPtr = some buffer) :
      Drives
        { x with
          adm := { x.adm.finish .integrityFailed with
            ramCrc := x.crcAt config p buffer
            blockSubState := .substate0 } } .done

variable {config p} {answer : Answer} {x : Context}

theorem handleRedundantBlock_switches (first : Switches config p x) :
    handleRedundantBlock config p.block x.adm = some (x.adm.switchCopy, true) := by
  obtain ⟨redundant, flags, copies⟩ := first
  simp [handleRedundantBlock, redundant, flags, copies, AdministrativeBlock.switchCopy]

theorem handleRedundantBlock_unpaired (unpaired : Unpaired config p x) :
    handleRedundantBlock config p.block x.adm = none := by
  obtain ⟨redundant, flags, copies⟩ := unpaired
  simp [handleRedundantBlock, redundant, flags, copies]

theorem handleRedundantBlock_last (last : ¬ Switches config p x) (paired : ¬ Unpaired config p x) :
    handleRedundantBlock config p.block x.adm = some (countCopy config p.block x.adm, false) := by
  unfold handleRedundantBlock countCopy
  by_cases redundant : (config.block p.block).blockManagementType = .redundant
  · have flags : x.adm.flags ≠ 1 := by
      intro flags
      by_cases copies : (config.block p.block).nvBlockNum = 2
      · exact last ⟨redundant, flags, copies⟩
      · exact paired ⟨redundant, flags, copies⟩
    simp [redundant, flags]
  · simp [redundant]

@[simp] theorem countCopy_fields (block : Nat) (adm : AdministrativeBlock) :
    (countCopy config block adm).blockState = adm.blockState ∧
    (countCopy config block adm).blockSubState = adm.blockSubState ∧
    (countCopy config block adm).savedDataPtr = adm.savedDataPtr ∧
    (countCopy config block adm).dataIndex = adm.dataIndex ∧
    (countCopy config block adm).errorStatus = adm.errorStatus ∧
    (countCopy config block adm).ramCrc = adm.ramCrc ∧
    (countCopy config block adm).numberOfWriteFailed = adm.numberOfWriteFailed := by
  unfold countCopy
  split <;> simp

@[simp] theorem Context.failed_fields :
    (x.failed p).adm.blockState = x.adm.blockState ∧
    (x.failed p).adm.savedDataPtr = x.adm.savedDataPtr ∧
    (x.failed p).adm.dataIndex = x.adm.dataIndex ∧
    (x.failed p).adm.errorStatus = x.adm.errorStatus := by
  unfold failed
  cases p.isWrite <;> simp [emit]

theorem Context.failed_read (read : p.isWrite = false) :
    x.failed p = x.emit (.outcome p.service p.block false) := by
  simp [failed, read]

theorem Context.failed_write (write : p.isWrite) :
    x.failed p = ({ x with adm := { x.adm with numberOfWriteFailed := 0 } }).emit
      (.outcome p.service p.block false) := by
  simp [failed, write]

/-- What a function of `DriveBlock` returns is as `Drives` says. -/
abbrev DrivesTo (config : Config) (p : Params) (answer : Answer) (x : Context)
    (outcome : Context × Drive) : Prop :=
  Drives config p answer x outcome.1 outcome.2

/-! ## BLOCK_STATE_MEMIF_REQ -/

theorem request_cases (memIf : MemIf) (answer : Answer) :
    (memIf.job = none ∧ answer = .accepted ∧ ∀ job,
      memIf.request answer job = ({ memIf with job := some job, result := .pending }, .accepted)) ∨
    ((memIf.job.isSome ∨ answer = .busy) ∧ ∀ job, memIf.request answer job = (memIf, .busy)) ∨
    (memIf.job = none ∧ answer = .refused ∧ ∀ job,
      memIf.request answer job = (memIf, .refused)) := by
  unfold MemIf.request
  cases taken : memIf.job with
  | some job => exact .inr (.inl ⟨.inl rfl, fun _ => rfl⟩)
  | none =>
    cases answer with
    | accepted => exact .inl ⟨rfl, rfl, fun _ => rfl⟩
    | busy => exact .inr (.inl ⟨.inr rfl, fun _ => rfl⟩)
    | refused => exact .inr (.inr ⟨rfl, rfl, fun _ => rfl⟩)

section

variable (state : x.adm.blockState = .memifReq)
include state

private theorem requestWrite_drives (write : p.isWrite) :
    DrivesTo config p answer x (requestWrite config p answer (x.aim (p.buffer config))) := by
  unfold requestWrite
  by_cases clash : (p.multiBlock && p.dataPtr.isSome) = true
  · rw [if_pos clash]
    refine .halted ?_ rfl rfl (.inl rfl)
    simp only [Faulty, state, write]
    exact .inl clash
  · rw [if_neg clash]
    by_cases null : p.buffer config = none
    · have saved : (x.aim (p.buffer config)).adm.savedDataPtr = none := null
      simp only [saved]
      refine .halted ?_ rfl rfl (.inl rfl)
      simp only [Faulty, state, write]
      exact .inr null
    · obtain ⟨source, buffer⟩ := Option.ne_none_iff_exists'.mp null
      have saved : (x.aim (p.buffer config)).adm.savedDataPtr = some source := buffer
      simp only [saved]
      by_cases index : (x.aim (p.buffer config)).adm.dataIndex < (config.block p.block).nvBlockNum
      · rw [if_pos index]
        rcases request_cases x.memIf answer with
          ⟨free, accepted, requested⟩ | ⟨busy, requested⟩ | ⟨free, refused, requested⟩ <;>
          simp only [aim, requested]
        · exact .writes state write buffer index free accepted
        · exact .waits state (.inl write) busy
        · exact .refused state (.inl write) (.inl ⟨free, refused⟩)
      · rw [if_neg index]
        exact .refused state (.inl write) (.inr (not_lt.mp index))

private theorem requestRead_drives (read : p.isWrite = false) (restore : p.restoreFromRom = false) :
    DrivesTo config p answer x (requestRead config p answer (x.aim (p.buffer config))) := by
  unfold requestRead
  by_cases index : (x.aim (p.buffer config)).adm.dataIndex < (config.block p.block).nvBlockNum
  · rw [if_pos index, Nat.mod_eq_of_lt (config.block p.block).fits]
    rcases request_cases x.memIf answer with
      ⟨free, accepted, requested⟩ | ⟨busy, requested⟩ | ⟨free, refused, requested⟩ <;>
      simp only [aim, requested]
    · exact .reads state read restore index free accepted
    · exact .waits state (.inr restore) busy
    · exact .refused state (.inr restore) (.inl ⟨free, refused⟩)
  · rw [if_neg index]
    exact .refused state (.inr restore) (.inr (not_lt.mp index))

private theorem restoreDefaults_drives (read : p.isWrite = false) (restore : p.restoreFromRom) :
    DrivesTo config p answer x (restoreDefaults config p (x.aim (p.buffer config))) := by
  have halted (missing : (config.block p.block).romBlockDataAddress = none ∨
      p.buffer config = none) : Faulty config p x := by
    simp only [Faulty, state, read]
    exact ⟨restore, missing⟩
  unfold restoreDefaults
  split
  next rom buffer default saved =>
    have aimed : p.buffer config = some buffer := saved
    simp only [aimed]
    exact .restores state read restore aimed default
  next missing =>
    refine .halted (halted ?_) rfl rfl (.inl rfl)
    cases default : (config.block p.block).romBlockDataAddress with
    | none => exact .inl rfl
    | some rom =>
      cases aimed : p.buffer config with
      | none => exact .inr rfl
      | some buffer => exact absurd aimed (missing rom buffer default)

theorem memifReq_drives : DrivesTo config p answer x (memifReq config p answer x) := by
  unfold memifReq
  cases write : p.isWrite with
  | true => exact requestWrite_drives state write
  | false =>
    cases restore : p.restoreFromRom with
    | true => exact restoreDefaults_drives state write restore
    | false => exact requestRead_drives state write restore

/-! ## BLOCK_STATE_MEMIF_PROCESS -/

end

private theorem deliver_drives (state : x.adm.blockState = .memifProcess) (read : p.isWrite = false)
    (ok : x.memIf.result = .ok) : DrivesTo config p answer x (deliver config p x) := by
  unfold deliver
  split
  next null =>
    refine .halted ?_ rfl rfl (.inl rfl)
    simp only [Faulty, state]
    exact .inl ⟨read, ok, null⟩
  next buffer saved =>
    cases crc : (config.block p.block).blockUseCrc with
    | false =>
      simp only [crc]
      exact .delivers state read ok saved (by rw [crc]; rfl)
    | true =>
      cases checked : (config.block p.block).calcRamBlockCrc with
      | true =>
        simp only [crc, checked]
        exact .checks state read ok saved crc checked
      | false =>
        simp only [crc, checked]
        exact .delivers state read ok saved (by rw [crc, checked]; rfl)

variable {result : JobResult}

theorem failureStatus_eq (failure : result.failure) :
    result = .canceled ∨ ∃ status, failureStatus result = some status := by
  cases result with
  | canceled => exact .inl rfl
  | ok | pending => cases failure
  | _ => exact .inr ⟨_, rfl⟩

variable {status : RequestResult}

theorem failureStatus_ne_ok (failure : failureStatus result = some status) : status ≠ .ok := by
  rintro rfl
  cases result <;> cases failure

theorem failureStatus_failure
    (failure : failureStatus result = some status) : result.failure = true := by
  cases result <;> first | rfl | cases failure

section

variable {buffer : Int} (state : x.adm.blockState = .memifProcess)
variable (failure : x.memIf.result.failure = true) (aimed : p.buffer config = some buffer)
include state failure aimed

private theorem fallBack_drives (final : Final config p x) (last : ¬ Switches config p x)
    (failed : failureStatus x.memIf.result = some status) :
    DrivesTo config p answer x
      (fallBack config p buffer status
        { x.failed p with adm := countCopy config p.block (x.failed p).adm }) := by
  unfold fallBack
  by_cases usable : (!p.isWrite && ((config.block p.block).romBlockDataAddress.isSome ||
      (config.block p.block).initBlockCallback.isSome)) = true
  · rw [if_pos usable]
    simp only [Bool.and_eq_true, Bool.not_eq_true'] at usable
    cases default : (config.block p.block).romBlockDataAddress with
    | some rom => exact .defaults state failure last usable.1 aimed default
    | none =>
      cases init : (config.block p.block).initBlockCallback with
      | some callback => exact .initializes state failure last usable.1 init
      | none => simp [default, init] at usable
  · rw [if_neg usable]
    exact .fails state final last failed

private theorem handleFailure_drives (answer : Answer) (final : Final config p x) :
    DrivesTo config p answer x (handleFailure config p buffer (x.failed p)) := by
  have switches_iff : Switches config p (x.failed p) ↔ Switches config p x := by
    unfold Switches failed
    cases p.isWrite <;> exact Iff.rfl
  have unpaired_iff : Unpaired config p (x.failed p) ↔ Unpaired config p x := by
    unfold Unpaired failed
    cases p.isWrite <;> exact Iff.rfl
  have halted (reason : x.memIf.result = .canceled ∨
      x.memIf.result.failure = true ∧ Unpaired config p x) :
      Drives config p answer x { x.failed p with asserted := true } .more := by
    refine .halted ?_ rfl (by simp) (.inr ⟨.inl state, rfl⟩)
    simp only [Faulty, state]
    exact .inr reason
  unfold handleFailure
  by_cases first : Switches config p x
  · rw [handleRedundantBlock_switches (switches_iff.mpr first)]
    exact .switches state failure final first
  · by_cases unpaired : Unpaired config p x
    · rw [handleRedundantBlock_unpaired (unpaired_iff.mpr unpaired)]
      exact halted (.inr ⟨failure, unpaired⟩)
    · rw [handleRedundantBlock_last (mt switches_iff.mp first) (mt unpaired_iff.mp unpaired)]
      have result_eq : (x.failed p).memIf.result = x.memIf.result := rfl
      simp only [result_eq]
      rcases failureStatus_eq failure with canceled | ⟨status, failed⟩
      · simp only [canceled]
        exact halted (.inl canceled)
      · simp only [failed]
        exact fallBack_drives state failure aimed final first failed

private theorem countFailure_drives :
    DrivesTo config p answer x (countFailure config p buffer x) := by
  unfold countFailure
  cases write : p.isWrite with
  | false =>
    have final : Final config p x := fun is_write => absurd (write.symm.trans is_write) nofun
    have handled := handleFailure_drives state failure aimed answer final
    rw [failed_read write] at handled
    exact handled
  | true =>
    by_cases exceeded : config.maxNumberOfWriteRetries < (x.adm.numberOfWriteFailed + 1) % 256
    · have final : Final config p x := fun _ => exceeded
      have handled := handleFailure_drives state failure aimed answer final
      rw [failed_write write] at handled
      simp only [emit, exceeded]
      exact handled
    · simp only [emit, exceeded]
      exact .counts state write failure (not_lt.mp exceeded)

end

theorem memifProcess_drives (state : x.adm.blockState = .memifProcess) :
    DrivesTo config p answer x (memifProcess config p x) := by
  unfold memifProcess
  split
  next null => exact .aborts state null
  next buffer aimed =>
    split
    next pending => exact .pends state pending
    next ok =>
      cases write : p.isWrite with
      | true => exact .written state write ok
      | false => exact deliver_drives state write ok
    next not_pending not_ok =>
      refine countFailure_drives state ?_ aimed
      cases result : x.memIf.result with
      | ok => exact absurd result not_ok
      | pending => exact absurd result not_pending
      | _ => rfl

/-! ## BLOCK_STATE_CALC_CRC_WRITE and BLOCK_STATE_CALC_CRC_READ -/

theorem calcCrcWrite_drives (state : x.adm.blockState = .calcCrcWrite) :
    DrivesTo config p answer x (calcCrcWrite config p x) := by
  unfold calcCrcWrite
  split
  next null =>
    refine .halted ?_ rfl rfl (.inl rfl)
    simp only [Faulty, state]
    exact null
  next buffer aimed => exact .sums state aimed

private theorem crcFallBack_drives {buffer : Int} (state : x.adm.blockState = .calcCrcRead)
    (sub : x.adm.blockSubState = .substate0) (saved : x.adm.savedDataPtr = some buffer)
    (bad : x.crcAt config p buffer ≠ x.adm.ramCrc) :
    DrivesTo config p answer x (crcFallBack config p buffer (x.mismatched config p)) := by
  unfold crcFallBack
  cases default : (config.block p.block).romBlockDataAddress with
  | some rom =>
    simp only [default]
    exact .crcDefaults state sub saved bad default
  | none =>
    cases init : (config.block p.block).initBlockCallback with
    | some callback =>
      simp only [default, init]
      exact .crcInitializes state sub saved bad init
    | none =>
      simp only [default, init]
      exact .crcFails state sub saved bad

theorem calcCrcRead_drives (state : x.adm.blockState = .calcCrcRead) :
    DrivesTo config p answer x (calcCrcRead config p x) := by
  have halted (reason : (config.block p.block).calcRamBlockCrc = false ∨
      x.adm.savedDataPtr = none ∨ Unpaired config p x) : Faulty config p x := by
    simp only [Faulty, state]
    exact reason
  unfold calcCrcRead
  cases checked : (config.block p.block).calcRamBlockCrc with
  | false =>
    simp only [checked]
    exact .halted (halted (.inl checked)) rfl rfl (.inl rfl)
  | true =>
    simp only [checked, if_true]
    split
    next null => exact .halted (halted (.inr (.inl null))) rfl rfl (.inl rfl)
    next buffer saved =>
      split
      next sub =>
        have adm_eq : (x.emit (.outcome p.service p.block false)).adm = x.adm := rfl
        by_cases good : config.crcOf p.block
            (Buffer.bytes x.ram buffer (config.block p.block).nvBlockLength) = x.adm.ramCrc
        · rw [if_pos good]
          exact .verifies state sub saved good
        · rw [if_neg good, adm_eq]
          by_cases first : Switches config p x
          · rw [handleRedundantBlock_switches first]
            exact .crcSwitches state sub saved good first
          · by_cases unpaired : Unpaired config p x
            · rw [handleRedundantBlock_unpaired unpaired]
              exact .halted (halted (.inr (.inr unpaired))) rfl rfl (.inr ⟨.inr state, rfl⟩)
            · rw [handleRedundantBlock_last first unpaired]
              exact crcFallBack_drives state sub saved good
      next sub => exact .settles state sub saved

theorem driveStates_drives (config : Config) (p : Params) (answer : Answer) (x : Context) :
    DrivesTo config p answer x (driveStates config p answer x) := by
  unfold driveStates
  split
  next state => exact memifReq_drives state
  next state => exact memifProcess_drives state
  next state =>
    refine .halted ?_ rfl rfl (.inl rfl)
    simp [Faulty, state]
  next state => exact calcCrcWrite_drives state
  next state => exact calcCrcRead_drives state

end

/-! ## Calls of `DriveBlock` -/

section

variable {config : Config} {p : Params} {answer : Answer} {s : State}

theorem driveBlock_drives (config : Config) (answer : Answer) (p : Params)
    (pending : (s.admin p.block).errorStatus = .pending) :
    ∃ y drive, Drives config p answer (s.context p.block) y drive ∧
      driveBlock config answer p s = driveEnd p s y drive := by
  refine ⟨_, _, driveStates_drives config p answer (s.context p.block), ?_⟩
  rw [driveBlock, if_pos pending]

variable (y : Context) (drive : Drive)

@[simp] theorem driveEnd_fields :
    (driveEnd p s y drive).1.queue = s.queue ∧ (driveEnd p s y drive).1.qEntry = s.qEntry ∧
    (driveEnd p s y drive).1.multiReqState = s.multiReqState ∧
    (driveEnd p s y drive).1.currBlockIndex = s.currBlockIndex ∧
    (driveEnd p s y drive).1.blockIndex = s.blockIndex ∧
    (driveEnd p s y drive).1.multiErrorStatus = s.multiErrorStatus ∧
    (driveEnd p s y drive).1.memIf = y.memIf ∧ (driveEnd p s y drive).1.ram = y.ram ∧
    (driveEnd p s y drive).1.workBuffer = y.workBuffer ∧
    (driveEnd p s y drive).1.asserted = y.asserted := by
  cases drive <;> exact ⟨rfl, rfl, rfl, rfl, rfl, rfl, rfl, rfl, rfl, rfl⟩

theorem driveEnd_other {block : Nat} (other : block ≠ p.block) :
    (driveEnd p s y drive).1.admin block = s.admin block := by
  cases drive <;> simp [driveEnd, finishBlock, State.withContext, Function.update_of_ne other]

@[simp] theorem AdministrativeBlock.settle_fields (adm : AdministrativeBlock) :
    adm.settle.blockState = adm.blockState ∧ adm.settle.blockSubState = adm.blockSubState ∧
    adm.settle.savedDataPtr = adm.savedDataPtr ∧ adm.settle.dataIndex = adm.dataIndex ∧
    adm.settle.errorStatus = adm.errorStatus ∧ adm.settle.ramCrc = adm.ramCrc ∧
    adm.settle.flags = adm.flags ∧
    adm.settle.numberOfWriteFailed = adm.numberOfWriteFailed := by
  unfold AdministrativeBlock.settle
  split <;> simp

theorem driveEnd_more (p : Params) (s : State) (y : Context) :
    let last := (driveEnd p s y .more).1
    last.admin p.block = y.adm ∧ last.nvmState = s.nvmState ∧ last.nvmSubState = s.nvmSubState ∧
      last.events = y.events :=
  ⟨Function.update_self .., rfl, rfl, rfl⟩

theorem driveEnd_done (p : Params) (s : State) (y : Context) :
    let last := (driveEnd p s y .done).1
    last.admin p.block = y.adm.settle ∧
      last.nvmState = (if p.multiBlock then s.nvmState else .idle) ∧
      last.nvmSubState = (if p.multiBlock then s.nvmSubState else .init) ∧
      last.events = y.events ++ [.finished p.service p.block y.adm.errorStatus] := by
  simp [driveEnd, finishBlock, State.withContext]

end

/-! ## Requests for all blocks -/

section

variable {config : Config} {answers : Nat → Answer} {isWrite : Bool}

theorem multiblockMain_rule (Before After : State → Prop)
    (skip : ∀ s, Before s → s.currBlockIndex < config.numOfNvramBlocks →
      (s.admin s.currBlockIndex).errorStatus = .blockSkipped →
      Before { s with currBlockIndex := s.currBlockIndex + 1 })
    (drives : ∀ s, Before s → s.currBlockIndex < config.numOfNvramBlocks →
      (s.admin s.currBlockIndex).errorStatus ≠ .blockSkipped →
      let r := driveBlock config (answers s.currBlockIndex)
        (multiParams s.nvmState isWrite s.currBlockIndex) s
      (r.2 = false → After r.1) ∧
        (r.2 = true → Before { r.1 with currBlockIndex := s.currBlockIndex + 1 }))
    (finish : ∀ s, Before s → config.numOfNvramBlocks ≤ s.currBlockIndex → After (finishAll s))
    {s : State} (before : Before s) : After (multiblockMain config answers isWrite s) := by
  -- the loop ends with a block that is not done, or behind the last block
  have loop (rounds : Nat) : ∀ s : State, Before s →
      rounds = config.numOfNvramBlocks - s.currBlockIndex →
      let s' := multiblockLoop config answers isWrite rounds s
      s'.currBlockIndex < config.numOfNvramBlocks ∧ After s' ∨
        config.numOfNvramBlocks ≤ s'.currBlockIndex ∧ Before s' := by
    induction rounds with
    | zero =>
      intro s before last
      exact .inr ⟨by simp only [multiblockLoop]; omega, before⟩
    | succ rounds ih =>
      intro s before last
      have inside : s.currBlockIndex < config.numOfNvramBlocks := by omega
      simp only [multiblockLoop, inside, if_true]
      by_cases skipped : (s.admin s.currBlockIndex).errorStatus = .blockSkipped
      · simp only [skipped]
        exact ih _ (skip s before inside skipped) (by simp only; omega)
      · simp only [skipped, if_false]
        have drives := drives s before inside skipped
        split
        next s' driven =>
          rw [driven] at drives
          refine .inl ⟨?_, drives.1 rfl⟩
          have index : (driveBlock config (answers s.currBlockIndex)
              (multiParams s.nvmState isWrite s.currBlockIndex) s).1.currBlockIndex =
                s.currBlockIndex := by
            unfold driveBlock
            split
            · exact (driveEnd_fields _ _).2.2.2.1
            · rfl
          rw [driven] at index
          exact index ▸ inside
        next s' driven =>
          rw [driven] at drives
          exact ih _ (drives.2 rfl) (by simp only; omega)
  unfold multiblockMain
  rcases loop _ s before rfl with ⟨inside, after⟩ | ⟨passed, before⟩
  · rw [if_neg (not_le.mpr inside)]
    exact after
  · rw [if_pos passed]
    exact finish _ before passed

end

end NvM
