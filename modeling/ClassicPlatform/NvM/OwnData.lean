import ClassicPlatform.Lib.Machine
import ClassicPlatform.NvM.Services

/-!
# The data of a block

All blocks share one work buffer. A read that succeeds must deliver what was written to the NV
block, or the default data, and a write that succeeds must have stored the bytes of its source
with their checksum. Both hold while a block is driven, since the buffer and the job are the
block's own then. But a read that fell back on default data leaves its block in the state in
which it polled the job: the next read of the block starts there, takes the result of whatever
job was the last one for its own, and copies what that job left in the work buffer. Also, the
checksum of a write is calculated one call before the data is copied.
-/
namespace NvM

open Buffer Function Machine NvmState
open ByteLanes (Memory)

/-! ## Stored data -/

variable (config : Config) (block : Nat) (s : State)

/-- The NV block holds the user data, and the checksum of the data if the block has one. -/
def Carries (data : Memory) (source : List Byte) : Prop :=
  bytes data 0 (config.block block).nvBlockLength = source ∧
    ((config.block block).blockUseCrc = true →
      readCrcFromBuffer config block data = config.crcOf block source)

section

variable {config : Config} {block : Nat}

theorem readCrc_writeCrc (crc : BitVec 32) (buffer : Memory) (source : List Byte)
    (useCrc : (config.block block).blockUseCrc) (sum : crc = config.crcOf block source) :
    readCrcFromBuffer config block (writeCrcToBuffer config block crc buffer) =
      config.crcOf block source := by
  subst sum
  unfold readCrcFromBuffer writeCrcToBuffer Config.crcOf
  simp only [useCrc]
  by_cases crc16 : (config.block block).blockCRCType = .crc16
  · simp only [crc16, if_true]
    rw [ByteLanes.load_store _ _ (ByteLanes.nodup_descending _ _) _ (by simp)]
    simp
  · simp only [crc16]
    exact ByteLanes.load_store _ _ (ByteLanes.nodup_descending _ _) _ (by simp)

theorem writeCrc_bytes (crc : BitVec 32) (buffer : Memory) :
    bytes (writeCrcToBuffer config block crc buffer) 0 (config.block block).nvBlockLength =
      bytes buffer 0 (config.block block).nvBlockLength := by
  refine bytes_congr fun a low high => ?_
  have outside (count : Nat) :
      a ∉ ByteLanes.descending ((config.block block).nvBlockLength : Int) count := by
    rw [ByteLanes.mem_descending]
    omega
  unfold writeCrcToBuffer
  split
  · split
    · exact ByteLanes.store_frame _ _ _ _ (outside 2)
    · exact ByteLanes.store_frame _ _ _ _ (outside 4)
  · rfl

theorem Carries.of_request {x : Context} {source : Int}
    (summed : (config.block block).blockUseCrc → x.adm.ramCrc = config.crcOf block
      (bytes x.ram source (config.block block).nvBlockLength)) :
    Carries config block
      (writeCrcToBuffer config block x.adm.ramCrc
        (copy x.workBuffer 0 x.ram source (config.block block).nvBlockLength))
      (bytes x.ram source (config.block block).nvBlockLength) :=
  ⟨(writeCrc_bytes _ _).trans bytes_copy, fun useCrc => readCrc_writeCrc _ _ _ useCrc
    (summed useCrc)⟩

end

/-! ## The data of the request in progress -/

/-- The copy, the buffer and the bytes of the last write of a block that was issued. -/
def issued (events : List Event) : Option (Nat × Int × List Byte) :=
  events.foldl (fun last event =>
    match event with
    | .memIfWrite _ other set buffer source =>
      if other = block then some (set, buffer, source) else last
    | _ => last) none

/-- The RAM at `buffer` holds the user data of the addressed NV block. -/
def HoldsCopy (buffer : Int) (x : Context) : Prop :=
  ∃ data, x.memIf.nv (config.blockNr block x.adm.dataIndex) = some data ∧
    bytes x.ram buffer (config.block block).nvBlockLength =
      bytes data 0 (config.block block).nvBlockLength

/-- What a successful read leaves: the data of the NV block, or the default data; the RAM was
`before` when the callback of the application filled it in. -/
def Delivered (dataPtr : Option Int) (before : Memory) (x : Context) : Prop :=
  ∃ buffer, ramData config block dataPtr = some buffer ∧
    (HoldsCopy config block buffer x ∨
      (∃ rom, (config.block block).romBlockDataAddress = some rom ∧
        bytes x.ram buffer (config.block block).nvBlockLength =
          bytes rom 0 (config.block block).nvBlockLength) ∨
      ∃ callback, (config.block block).initBlockCallback = some callback ∧
        x.ram = callback before)

/-- The addressed NV block holds what was issued for it from the buffer of the request. -/
def Stored (dataPtr : Option Int) (last : Option (Nat × Int × List Byte)) (x : Context) : Prop :=
  ∃ buffer source data, ramData config block dataPtr = some buffer ∧
    last = some (x.adm.dataIndex, buffer, source) ∧
    x.memIf.nv (config.blockNr block x.adm.dataIndex) = some data ∧
    Carries config block data source

/-- The data of the block that is driven, at each stage of its request. -/
structure Own (service : NvmState) (block : Nat) (dataPtr : Option Int)
    (last : Option (Nat × Int × List Byte)) (x : Context) : Prop where
  checked : x.adm.blockState = .calcCrcRead → ∃ buffer, ramData config block dataPtr = some buffer ∧
    x.adm.savedDataPtr = some buffer ∧
    (x.adm.blockSubState = .substate0 → HoldsCopy config block buffer x)
  summed : service.isWrite = true → x.adm.blockState = .memifReq →
    (config.block block).blockUseCrc = true → ∀ source, ramData config block dataPtr = some source →
      x.adm.ramCrc = config.crcOf block (bytes x.ram source (config.block block).nvBlockLength)
  written : service.isWrite = true → x.adm.blockState = .memifProcess → ∃ buffer source,
    ramData config block dataPtr = some buffer ∧ last = some (x.adm.dataIndex, buffer, source) ∧
    (x.memIf.job ≠ none → Carries config block x.workBuffer source) ∧
    (x.memIf.result = .ok → ∃ data,
      x.memIf.nv (config.blockNr block x.adm.dataIndex) = some data ∧
      Carries config block data source)

section

variable {config : Config} {service : NvmState} {block : Nat} {dataPtr : Option Int}
variable {x y : Context} {drive : Drive} {answer : Answer} {past : List Event}

@[simp] theorem issued_snoc (events : List Event) (event : Event) :
    issued block (events ++ [event]) =
      match event with
      | .memIfWrite _ other set buffer source =>
        if other = block then some (set, buffer, source) else issued block events
      | _ => issued block events := by
  simp [issued]

theorem Drives.own (consistent : x.memIf.Consistent)
    (underway : Underway config x.memIf x.workBuffer service block dataPtr x.adm ∨
      Stale config x.memIf service block dataPtr x.adm ∧ x.memIf.result ≠ .ok)
    (own : Own config service block dataPtr (issued block (past ++ x.events)) x)
    (driven : Drives config (paramsOf service block dataPtr) answer x y drive) :
    match drive with
    | .more => y.asserted ∨
      Own config service block dataPtr (issued block (past ++ y.events)) y
    | .done => y.adm.errorStatus = .ok →
      (service.isRead → Delivered config block dataPtr x.ram y) ∧
      (service.isWrite →
        Stored config block dataPtr (issued block (past ++ x.events)) y)
    | .aborted => True := by
  have pending : x.adm.errorStatus = .pending :=
    underway.elim Underway.pending fun stale => stale.1.pending
  have not_read (write : service.isWrite = true) : service.isRead ≠ true := by
    rw [isRead_of_write write]
    simp
  have contents (ok : x.memIf.result = .ok) (state : x.adm.blockState = .memifProcess)
      (read : service.isWrite = false) :=
    (underway.resolve_right fun stale => stale.2 ok).contents consistent state read ok
  have not_write {P : Prop} (read : service.isWrite = false) (write : service.isWrite = true) : P := by
    cases read.symm.trans write
  have crcRead (state : x.adm.blockState = .calcCrcRead) : service.isWrite = false := by
    refine Bool.eq_false_iff.mpr fun write => not_read write ?_
    refine ((underway.resolve_right fun stale => ?_).of_crcRead state).1
    cases state.symm.trans stale.1.state
  cases driven with
  | halted _ asserted => exact .inl asserted
  | waits state =>
    refine .inr ⟨fun other => ?_, own.summed, fun _ other => ?_⟩
    · cases state.symm.trans other
    · cases state.symm.trans other
  | refused | crcFails | settles => rintro ⟨⟩
  | aborts => trivial
  | writes state write aimed =>
    refine .inr ⟨by rintro ⟨⟩, fun _ => by rintro ⟨⟩, fun _ _ => ?_⟩
    have summed := own.summed write state
    refine ⟨_, _, aimed, ?_, fun _ => Carries.of_request fun useCrc => summed useCrc _ aimed,
      by rintro ⟨⟩⟩
    rw [Context.emit, ← List.append_assoc, issued_snoc]
    exact if_pos rfl
  | reads state read => exact .inr ⟨by rintro ⟨⟩, not_write read, not_write read⟩
  | restores state read restore =>
    refine fun _ => ⟨fun is_read => ?_, not_write read⟩
    have restores : service = .restoreBlockDefaults := of_decide_eq_true restore
    rw [restores] at is_read
    cases is_read
  | pends => exact .inr own
  | written state write ok =>
    refine fun _ => ⟨fun read => absurd read (not_read write), fun _ => ?_⟩
    obtain ⟨buffer, source, aimed, last, -, stored⟩ := own.written write state
    obtain ⟨data, contents, carries⟩ := stored ok
    exact ⟨buffer, source, data, aimed, last, contents, carries⟩
  | @delivers buffer _ state read ok saved =>
    refine fun _ => ⟨fun _ => ?_, not_write read⟩
    obtain ⟨aimed, data, stored, same⟩ := contents ok state read
    exact ⟨buffer, aimed.symm.trans saved, .inl ⟨data, stored, bytes_copy.trans same⟩⟩
  | @checks buffer state read ok saved =>
    refine .inr ⟨fun _ => ?_, not_write read, not_write read⟩
    obtain ⟨aimed, data, stored, same⟩ := contents ok state read
    exact ⟨buffer, aimed.symm.trans saved, saved, fun _ =>
      ⟨data, stored, bytes_copy.trans same⟩⟩
  | counts state write failure =>
    refine .inr ⟨fun other => ?_, fun _ other => ?_, fun _ _ => ?_⟩
    · cases state.symm.trans other
    · cases state.symm.trans other
    · rw [Context.emit, ← List.append_assoc, issued_snoc]
      exact own.written write state
  | switches =>
    intro status
    have same : (x.failed (paramsOf service block dataPtr)).adm.errorStatus = .ok := status
    simp [pending] at same
  | @defaults buffer rom state failure _ read aimed default =>
    refine fun _ => ⟨fun _ => ?_, not_write read⟩
    exact ⟨buffer, aimed, .inr (.inl ⟨rom, default, bytes_copy⟩)⟩
  | initializes state failure _ read default =>
    refine fun _ => ⟨fun _ => ?_, not_write read⟩
    have buffer := underway.elim Underway.buffer fun stale => stale.1.buffer
    obtain ⟨buffer, aimed⟩ := Option.ne_none_iff_exists'.mp buffer
    exact ⟨buffer, aimed, .inr (.inr ⟨_, default, rfl⟩)⟩
  | fails _ _ _ failure => exact fun status => absurd status (failureStatus_ne_ok failure)
  | sums state aimed =>
    refine .inr ⟨by simp, fun _ _ _ source aimed' => ?_, fun _ => by simp⟩
    obtain rfl := Option.some.inj (aimed.symm.trans aimed')
    rfl
  | verifies state first =>
    refine fun _ => ⟨fun _ => ?_, not_write (crcRead state)⟩
    obtain ⟨buffer, aimed, -, holds⟩ := own.checked state
    exact ⟨buffer, aimed, .inl (holds first)⟩
  | crcSwitches state =>
    exact .inr ⟨by rintro ⟨⟩, not_write (crcRead state), fun _ => by rintro ⟨⟩⟩
  | crcDefaults state | crcInitializes state =>
    refine .inr ⟨fun _ => ?_, not_write (crcRead state), not_write (crcRead state)⟩
    obtain ⟨buffer, aimed, saved, -⟩ := own.checked state
    exact ⟨buffer, aimed, (countCopy_fields block x.adm).2.2.1.trans saved, by rintro ⟨⟩⟩

theorem Drives.unfinished {p : Params} (driven : Drives config p answer x y drive)
    {service' : NvmState} {block' : Nat} {status : RequestResult}
    (finished : .finished service' block' status ∈ y.events) :
    .finished service' block' status ∈ x.events := by
  cases driven with
  | halted _ _ _ events =>
    rcases events with events | ⟨-, events⟩ <;> simpa [events] using finished
  | _ =>
    simpa [Context.emit, Context.aim, copyToRam, Context.default, Context.failed,
      Context.mismatched] using finished

private theorem Ready.own (single : service.isSingle)
    (ready : Ready config service block dataPtr x.adm) (last : Option (Nat × Int × List Byte)) :
    Own config service block dataPtr last x := by
  have state := ready.state (.inr single)
  refine ⟨fun crc => ?_, fun write request useCrc => ?_, fun write process => ?_⟩
  · rcases state with ⟨state, -⟩ | state | ⟨-, state⟩ <;> cases state.symm.trans crc
  · rcases state with ⟨-, without⟩ | state | ⟨rfl, -⟩
    · cases (without write).symm.trans useCrc
    · cases state.symm.trans request
    · cases write
  · rcases state with ⟨state, -⟩ | state | ⟨rfl, -⟩
    · cases state.symm.trans process
    · cases state.symm.trans process
    · cases write

variable {last : Option (Nat × Int × List Byte)}

private theorem Own.congr (own : Own config service block dataPtr last x) (adm : y.adm = x.adm)
    (ram : y.ram = x.ram) (work : y.workBuffer = x.workBuffer) (memIf : y.memIf = x.memIf) :
    Own config service block dataPtr last y := by
  have holds_iff (buffer : Int) : HoldsCopy config block buffer y ↔ HoldsCopy config block buffer x := by
    rw [HoldsCopy, HoldsCopy, adm, ram, memIf]
  refine ⟨?_, ?_, ?_⟩
  · simp only [adm, holds_iff]
    exact own.checked
  · rw [adm, ram]
    exact own.summed
  · rw [adm, work, memIf]
    exact own.written

private theorem Delivered.congr {before : Memory}
    (delivered : Delivered config block dataPtr before x)
    (index : y.adm.dataIndex = x.adm.dataIndex) (ram : y.ram = x.ram) (memIf : y.memIf = x.memIf) :
    Delivered config block dataPtr before y := by
  unfold Delivered HoldsCopy
  rw [index, ram, memIf]
  exact delivered

private theorem Stored.congr (stored : Stored config block dataPtr last x)
    (index : y.adm.dataIndex = x.adm.dataIndex) (memIf : y.memIf = x.memIf) :
    Stored config block dataPtr last y := by
  unfold Stored
  rw [index, memIf]
  exact stored

private theorem Own.ended {memIf : MemIf} {work : Memory}
    (own : Own config service block dataPtr last x)
    (underway : Underway config x.memIf x.workBuffer service block dataPtr x.adm)
    (ends : JobEnds x.memIf x.workBuffer memIf work) :
    Own config service block dataPtr last { x with memIf, workBuffer := work } := by
  refine ⟨fun state => ?_, own.summed, fun write state => ?_⟩
  · -- no job runs while a checksum is checked
    obtain ⟨-, -, -, -, free⟩ := underway.of_crcRead state
    rcases ends.over_ with ⟨rfl, -⟩ | ⟨taken, -⟩
    · exact own.checked state
    · exact absurd free taken
  · obtain ⟨buffer, source, aimed, issued, carries, stored⟩ := own.written write state
    refine ⟨buffer, source, aimed, issued, ?_⟩
    cases underway.stage with
    | sums _ other | requests other
    | checking _ other => cases state.symm.trans other
    | reading read => cases (isRead_of_write write).symm.trans read
    | writing _ _ _ _ job =>
      cases ends with
      | nothing => exact ⟨carries, stored⟩
      | @failed _ result _ failure =>
        refine ⟨absurd rfl, fun ok => ?_⟩
        have ok : result = .ok := ok
        rw [ok] at failure
        cases failure
      | read running | invalidated running =>
        rcases job with own | free
        · cases running.symm.trans own
        · cases running.symm.trans free
      | written running =>
        refine ⟨absurd rfl, fun _ => ⟨x.workBuffer, ?_, carries ?_⟩⟩
        · rcases job with own | free
          · obtain rfl := Job.write.inj (Option.some.inj (running.symm.trans own))
            exact update_self ..
          · cases running.symm.trans free
        · rw [running]
          nofun

end

/-! ## Runs -/

/-- The address lies in the RAM of the request in progress, and the request has calculated the
checksum of this RAM and has not used it yet, or is about to check it. -/
def Touches (address : Int) : Prop :=
  (s.nvmState = .writeBlock ∧ (s.admin s.qEntry.block).blockState = .memifReq ∧
      (config.block s.qEntry.block).blockUseCrc = true ∨
    s.nvmState = .readBlock ∧ (s.admin s.qEntry.block).blockState = .calcCrcRead) ∧
  ∃ buffer ∈ ramData config s.qEntry.block s.qEntry.dataPtr,
    buffer ≤ address ∧ address < buffer + (config.block s.qEntry.block).nvBlockLength
  deriving Decidable

/-- Only requests of single blocks. A read is not taken up in the polling state while the last
job, which is another block's, has succeeded; and the application leaves RAM alone between the
calculation of its checksum and the use of the checksum. -/
def Fresh : Call → Prop
  | .readAll | .writeAll | .getDataIndex _ => False
  | .mainFunction _ => s.nvmState = .idle → ∀ entry ∈ s.queue.head?, entry.op = .readBlock →
      (s.admin entry.block).blockState = .memifProcess → s.memIf.result ≠ .ok
  | .ramWrite address _ => ¬ Touches config s address
  | _ => True

instance (call : Call) : Decidable (Fresh config s call) := by
  induction call using Call.casesOn with
  | readAll | writeAll | getDataIndex block => exact inferInstanceAs (Decidable False)
  | mainFunction answers => exact inferInstanceAs (Decidable (_ → _))
  | ramWrite address value => exact inferInstanceAs (Decidable (¬ _))
  | _ => exact inferInstanceAs (Decidable True)

/-- The requests are in order, and the data of the block that is driven is its own. -/
structure Tidy (past : List Event) : Prop extends Orderly config s where
  solo : s.multiReqState = .uninitialized ∧ s.nvmState.isAll = false
  own : s.nvmState.isSingle = true → Own config s.nvmState s.qEntry.block s.qEntry.dataPtr
    (issued s.qEntry.block past) (s.context s.qEntry.block)

/-- The block for which a call finishes a request has its own data. -/
def FinishesOwn (past : List Event) (before : Memory) (s : State) (events : List Event) : Prop :=
  ∀ block,
    (.finished .readBlock block .ok ∈ events → s.qEntry.block = block ∧
      Delivered config block s.qEntry.dataPtr before (s.context block)) ∧
    (.finished .writeBlock block .ok ∈ events → s.qEntry.block = block ∧
      Stored config block s.qEntry.dataPtr (issued block past) (s.context block))

section

variable {config : Config} {s : State} {past : List Event}

private theorem FinishesOwn.of_none {before : Memory} (none_new : s.events = []) :
    FinishesOwn config past before s s.events := by
  rw [none_new]
  exact fun block => ⟨nofun, nofun⟩

/-- What a call of the main function does with the data. -/
private abbrev KeepsOwn (config : Config) (past : List Event) (before : Memory) (s : State) : Prop :=
  FinishesOwn config past before s s.events ∧
    (s.asserted = true ∨ s.multiReqState = .uninitialized ∧ s.nvmState.isAll = false ∧
      (s.nvmState.isSingle = true → Own config s.nvmState s.qEntry.block s.qEntry.dataPtr
        (issued s.qEntry.block (past ++ s.events)) (s.context s.qEntry.block)))

private theorem Surroundings.drivenOwn (around : Surroundings config s)
    (solo : s.multiReqState = .uninitialized) (none_yet : s.events = [])
    (single : s.nvmState.isSingle)
    (underway : s.EntryUnderway config ∨ s.EntryStale config ∧ s.memIf.result ≠ .ok)
    (own : Own config s.nvmState s.qEntry.block s.qEntry.dataPtr (issued s.qEntry.block past)
      (s.context s.qEntry.block)) (answer : Answer) :
    KeepsOwn config past s.ram (driveBlock config answer s.params s).1 := by
  have all : s.nvmState.isAll = false := isAll_of_single (.inl single)
  have pending : (s.admin s.qEntry.block).errorStatus = .pending :=
    underway.elim Underway.pending fun stale => stale.1.pending
  obtain ⟨y, drive, driven, eq⟩ := driveBlock_drives config answer s.params pending
  change Drives config _ answer (s.context s.qEntry.block) y drive at driven
  obtain ⟨-, qEntry, multiReq, -, -, -, memIf, ram, work, asserted⟩ :=
    driveEnd_fields (p := s.params) (s := s) y drive
  have none_before : (s.context s.qEntry.block).events = [] := none_yet
  have past_eq : past ++ (s.context s.qEntry.block).events = past := by
    rw [none_before, List.append_nil]
  have owned := driven.own around.result underway (past_eq.symm ▸ own)
  rw [past_eq] at owned
  have unfinished {service : NvmState} {block : Nat} {status : RequestResult} :
      .finished service block status ∉ y.events := by
    intro finished
    have before := driven.unfinished finished
    rw [none_before] at before
    cases before
  rw [KeepsOwn, eq]
  cases drive with
  | aborted =>
    have buffer := underway.elim Underway.buffer fun stale => stale.1.buffer
    cases driven with
    | aborts _ null => exact absurd null buffer
  | more =>
    obtain ⟨adm, state, -, events⟩ := driveEnd_more s.params s y
    exact ⟨fun block => ⟨fun finished => absurd finished unfinished,
        fun finished => absurd finished unfinished⟩,
      owned.imp_right fun own' =>
        ⟨multiReq.trans solo, all, fun _ => own'.congr adm ram work memIf⟩⟩
  | done =>
    obtain ⟨adm, state, -, events⟩ := driveEnd_done s.params s y
    replace state := state.trans (if_neg (by rw [State.params, paramsOf, all]; simp))
    -- the only request that is finished is the one in progress
    have finished_eq {service : NvmState} {block : Nat}
        (finished : .finished service block .ok ∈ (driveEnd s.params s y .done).1.events) :
        service = s.nvmState ∧ block = s.qEntry.block ∧ y.adm.errorStatus = .ok := by
      rw [events, List.mem_append, List.mem_singleton] at finished
      have last := finished.resolve_left unfinished
      injection last with service_eq block_eq status
      exact ⟨service_eq, block_eq, status.symm⟩
    have index : ((driveEnd s.params s y .done).1.admin s.qEntry.block).dataIndex =
        y.adm.dataIndex := by
      apply (congrArg AdministrativeBlock.dataIndex adm).trans
      simp
    rw [state]
    refine ⟨fun block => ⟨fun finished => ?_, fun finished => ?_⟩,
      .inr ⟨multiReq.trans solo, rfl, by rintro ⟨⟩⟩⟩ <;>
      obtain ⟨service, rfl, ok⟩ := finished_eq finished
    · have delivered := (owned ok).1 (by rw [← service]; rfl)
      exact ⟨rfl, delivered.congr index ram memIf⟩
    · have stored := (owned ok).2 (by rw [← service]; rfl)
      exact ⟨rfl, stored.congr index memIf⟩

theorem Tidy.mainFunction (tidy : Tidy config s past) (none_yet : s.events = [])
    {answers : Nat → Answer} (fresh : Fresh config s (.mainFunction answers)) :
    let s' := mainFunction config answers s
    FinishesOwn config past s.ram s' s'.events ∧
      (s'.asserted = true ∨ Tidy config s' (past ++ s'.events)) := by
  intro s'
  -- the order is kept anyhow; what is left is the data
  suffices data : KeepsOwn config past s.ram s' by
    refine ⟨data.1, ?_⟩
    rcases tidy.toOrderly.mainFunction answers with halted | orderly
    · exact .inl halted
    · exact data.2.imp_right fun ⟨multiReq, all, own⟩ => ⟨orderly, ⟨multiReq, all⟩, own⟩
  have call := tidy.mainCall answers
  change MainCall config answers s s' at call
  generalize s' = t at call ⊢
  cases call with
  | rests idle empty =>
    rw [KeepsOwn, idle]
    exact ⟨.of_none none_yet, .inr ⟨tidy.solo.1, rfl, nofun⟩⟩
  | starts idle empty waits => nomatch tidy.solo.1 ▸ waits
  | drives taken around single op apart underway =>
    cases taken with
    | inProgress busy =>
      refine around.drivenOwn tidy.solo.1 none_yet single (.inl ?_) (tidy.own single) _
      exact underway.resolve_right fun stale => busy stale.2
    | @popped entry rest idle queue free ready =>
      refine around.drivenOwn tidy.solo.1 none_yet single ?_ (ready.own single _) _
      refine underway.imp_right fun ⟨stale, _⟩ => ⟨stale, ?_⟩
      refine fresh idle entry (by rw [queue]; rfl) ?_ stale.state
      exact readBlock_of single stale.read
  | @invalidates t taken around state =>
    obtain ⟨multiReq, none_new⟩ : t.multiReqState = .uninitialized ∧ t.events = [] := by
      cases taken <;> exact ⟨tidy.solo.1, none_yet⟩
    obtain ⟨same, events, left, -⟩ := (invalidate_invalidates config (answers t.qEntry.block) t).fields
    refine ⟨.of_none (events.trans none_new), .inr ⟨same.trans multiReq, ?_⟩⟩
    rcases left.imp_right fun same => same.trans state with left | left <;> rw [left] <;>
      exact ⟨rfl, nofun⟩
  | all busy passing => cases tidy.solo.2.symm.trans passing.service

variable {call : Call}

private theorem Quiet.observed {s' : State} (quiet : Quiet s s') (none_yet : s.events = []) :
    s'.events = [] ∨ ∃ entry, s'.events = [.accepted entry] := by
  apply quiet.accepted.imp (fun ⟨_, same⟩ => same.trans none_yet)
  rintro ⟨entry, -, same, -⟩
  exact ⟨entry, by rw [same, none_yet]; rfl⟩

section

variable (tidy : Tidy config s past)
include tidy

private theorem Tidy.undisturbed (fresh : Fresh config s call) : Undisturbed config s call := by
  have not_skipped (block : Nat) : ¬ Skipped config s block :=
    fun skipped => absurd (tidy.solo.2.symm.trans skipped.1.1) nofun
  cases call with
  | getDataIndex block => exact fresh.elim
  | readAll => trivial
  | writeAll => trivial
  | setRamBlockStatus block blockChanged => trivial
  | mainFunction answers | jobEnd result spoiled | ramWrite address value => trivial
  | _ => exact not_skipped _

private theorem Tidy.quiet {s' : State} (none_yet : s.events = [])
    (quiet : Quiet s s') (orderly : Orderly config s') : Tidy config s' (past ++ s'.events) := by
  have issued_same (block : Nat) : issued block (past ++ s'.events) = issued block past := by
    rcases quiet.observed none_yet with same | ⟨entry, same⟩
    · rw [same, List.append_nil]
    · rw [same, issued_snoc]
  refine ⟨orderly, ?_, fun single => ?_⟩
  · rw [quiet.multiReq, quiet.nvmState]
    exact tidy.solo
  · rw [quiet.nvmState] at single
    have pending := (tidy.underway single).pending
    rw [quiet.nvmState, quiet.qEntry, issued_same]
    exact (tidy.own single).congr (quiet.records _ pending) quiet.ram quiet.work quiet.memIf

private theorem Tidy.jobEnd (result : JobResult) (spoiled : Memory) :
    Tidy config (jobEnd result spoiled s) past := by
  have orderly := tidy.toOrderly.jobEnd result spoiled
  obtain ⟨memIf, work, ends, eq⟩ := jobEnd_ends result spoiled s
  rw [eq] at orderly ⊢
  refine ⟨orderly, tidy.solo, fun single => ?_⟩
  exact (tidy.own single).ended (tidy.underway single) ends

private theorem Tidy.ramWrite {address : Int} {value : Byte} (fresh : ¬ Touches config s address) :
    Tidy config { s with ram := update s.ram address value } past := by
  refine ⟨tidy.toOrderly.congr rfl, tidy.solo, fun single => ?_⟩
  have own := tidy.own single
  -- the bytes of the request are as before while they matter
  have same {buffer : Int} (aimed : ramData config s.qEntry.block s.qEntry.dataPtr = some buffer)
      (matters : s.nvmState = .writeBlock ∧ (s.admin s.qEntry.block).blockState = .memifReq ∧
          (config.block s.qEntry.block).blockUseCrc = true ∨
        s.nvmState = .readBlock ∧ (s.admin s.qEntry.block).blockState = .calcCrcRead) :
      bytes (update s.ram address value) buffer (config.block s.qEntry.block).nvBlockLength =
        bytes s.ram buffer (config.block s.qEntry.block).nvBlockLength := by
    refine bytes_congr fun a low high => update_of_ne ?_ ..
    rintro rfl
    exact fresh ⟨matters, buffer, aimed, low, high⟩
  refine ⟨fun state => ?_, fun write state useCrc source aimed => ?_, own.written⟩
  · have read := ((tidy.underway single).of_crcRead state).1
    obtain ⟨buffer, aimed, saved, holds⟩ := own.checked state
    refine ⟨buffer, aimed, saved, fun first => ?_⟩
    obtain ⟨data, stored, bytes⟩ := holds first
    exact ⟨data, stored, (same aimed (.inr ⟨readBlock_of single read, state⟩)).trans bytes⟩
  · refine (own.summed write state useCrc source aimed).trans (congrArg _ (Eq.symm ?_))
    exact same aimed (.inl ⟨writeBlock_of single write, state, useCrc⟩)

theorem Tidy.perform (none_yet : s.events = []) (fresh : Fresh config s call) :
    let s' := perform config s call
    FinishesOwn config past s.ram s' s'.events ∧
      (s'.asserted = true ∨ Tidy config s' (past ++ s'.events)) := by
  have undisturbed := tidy.undisturbed fresh
  have unchanged {t : State} (none_new : t.events = []) (tidy' : Tidy config t past) :
      FinishesOwn config past s.ram t t.events ∧
        (t.asserted = true ∨ Tidy config t (past ++ t.events)) := by
    refine ⟨.of_none none_new, .inr ?_⟩
    rw [none_new, List.append_nil]
    exact tidy'
  by_cases service : call.isService = true
  · rcases perform_quiet service undisturbed with ⟨halted, events⟩ | quiet
    · exact ⟨.of_none (events.trans none_yet), .inl halted⟩
    · refine ⟨fun block => ?_, (tidy.toOrderly.perform call undisturbed).imp_right
        (tidy.quiet none_yet quiet)⟩
      rcases quiet.observed none_yet with same | ⟨entry, same⟩ <;> simp [same]
  · cases call with
    | readAll | writeAll => exact fresh.elim
    | mainFunction answers => exact tidy.mainFunction none_yet fresh
    | jobEnd result spoiled =>
      refine unchanged ?_ (tidy.jobEnd result spoiled)
      obtain ⟨memIf, work, -, eq⟩ := jobEnd_ends result spoiled s
      rw [NvM.perform, eq]
      exact none_yet
    | ramWrite address value => exact unchanged none_yet (tidy.ramWrite fresh)
    | _ => exact absurd rfl service

end

theorem step_tidy (tidy : s.asserted ∨ Tidy config s past) (fresh : Fresh config s call) :
    let s' := (step config s call).1
    FinishesOwn config past s.ram s' (step config s call).2 ∧
      (s'.asserted = true ∨ Tidy config s' (past ++ (step config s call).2)) := by
  unfold step
  split
  next asserted => exact ⟨fun block => ⟨nofun, nofun⟩, .inl asserted⟩
  next alive =>
    obtain ⟨orderly, solo, own⟩ := tidy.resolve_left alive
    have cleared : Tidy config { s with events := [] } past :=
      ⟨orderly.congr rfl, solo, fun single => (own single).congr rfl rfl rfl rfl⟩
    apply cleared.perform rfl
    cases call <;> exact fresh

end

/-- For every run of requests of single blocks that meets `Fresh`: a read that succeeds leaves
the data of its NV block or the default data in its buffer, and a write that succeeds has stored
the bytes that its buffer held when it was issued, with their checksum. -/
theorem requests_finish_with_own_data (config : Config) (ram workBuffer : Memory)
    (nv : Nat → Option Memory) (calls : List Call) (call : Call)
    (fresh : Meets (step config) (Fresh config) (init config ram workBuffer nv) (calls ++ [call])) :
    let before := run (step config) (init config ram workBuffer nv) calls
    let after := step config before.1 call
    ∀ block,
      (.finished .readBlock block .ok ∈ after.2 → after.1.qEntry.block = block ∧
        Delivered config block after.1.qEntry.dataPtr before.1.ram (after.1.context block)) ∧
      (.finished .writeBlock block .ok ∈ after.2 → after.1.qEntry.block = block ∧
        Stored config block after.1.qEntry.dataPtr (issued block before.2)
          (after.1.context block)) := by
  intro before after
  obtain ⟨earlier, last, -⟩ := (meets_append _ _ _).mp fresh
  have start : Tidy config (init config ram workBuffer nv) [] :=
    ⟨init_orderly config ram workBuffer nv, ⟨rfl, rfl⟩, nofun⟩
  have tidy : before.1.asserted = true ∨ Tidy config before.1 before.2 :=
    run_history (fun s past => s.asserted = true ∨ Tidy config s past) (.inr start) earlier
      fun _ _ _ tidy fresh => (step_tidy tidy fresh).2
  exact (step_tidy tidy last).1

/-- A read of a block: the request, its job and the end of the job. -/
def readingCalls (result : JobResult) : List Call :=
  [.readBlock block none, .mainFunction fun _ => .accepted, .jobEnd result fun _ => 0,
    .mainFunction fun _ => .accepted]

theorem requests_finish_with_own_data_plain :
    let calls := readingCalls 0 .failed ++ readingCalls 1 .ok
    Event.finished .readBlock 1 .ok ∈ (step plainConfig
      (run (step plainConfig) plainInit calls.dropLast).1
      (.mainFunction fun _ => .accepted)).2 ∧
    Delivered plainConfig 1 none
      (run (step plainConfig) plainInit calls.dropLast).1.ram
      ((step plainConfig (run (step plainConfig) plainInit calls.dropLast).1
        (.mainFunction fun _ => .accepted)).1.context 1) := by
  have finished : Event.finished .readBlock 1 .ok ∈ (step plainConfig
      (run (step plainConfig) plainInit (readingCalls 0 .failed ++ readingCalls 1 .ok).dropLast).1
      (.mainFunction fun _ => .accepted)).2 := by
    decide +kernel
  refine ⟨finished, ?_⟩
  exact ((requests_finish_with_own_data plainConfig _ _ _
    (readingCalls 0 .failed ++ readingCalls 1 .ok).dropLast (.mainFunction fun _ => .accepted)
    (by decide +kernel) 1).1 finished).2

/-- After a failed read of block 0 and a read of block 1, the next read of block 0 succeeds without
a job and delivers the data of block 1. -/
theorem stale_read_delivers_foreign_data :
    let before := run (step plainConfig) plainInit
      (readingCalls 0 .failed ++ readingCalls 1 .ok ++ [.readBlock 0 none])
    let after := step plainConfig before.1 (.mainFunction fun _ => .accepted)
    after.2 = [.copied .readBlock 0 0 [0x55], .outcome .readBlock 0 true, .finished .readBlock 0 .ok] ∧
      ¬ Delivered plainConfig 0 after.1.qEntry.dataPtr before.1.ram (after.1.context 0) := by
  intro before after
  refine ⟨by decide +kernel, ?_⟩
  have aimed : ramData plainConfig 0 after.1.qEntry.dataPtr = some 0 := by decide +kernel
  have delivered : bytes after.1.ram 0 1 = [0x55] := by decide +kernel
  have stored : (after.1.memIf.nv 1).map (fun data => bytes data 0 1) = some [0x77] := by
    decide +kernel
  have number : plainConfig.blockNr 0 (after.1.admin 0).dataIndex = 1 := by decide +kernel
  rintro ⟨buffer, aimed', copy | ⟨rom, default, same⟩ | ⟨callback, default, -⟩⟩
  · obtain rfl := Option.some.inj (aimed.symm.trans aimed')
    obtain ⟨data, contents, same⟩ := copy
    have contents : after.1.memIf.nv 1 = some data := number ▸ contents
    rw [contents] at stored
    have same : bytes after.1.ram 0 1 = bytes data 0 1 := same
    rw [Option.map_some, ← same] at stored
    exact absurd stored (by decide)
  · obtain rfl := Option.some.inj (aimed.symm.trans aimed')
    cases default
    exact absurd (delivered.symm.trans same) (by decide)
  · cases default

end NvM
