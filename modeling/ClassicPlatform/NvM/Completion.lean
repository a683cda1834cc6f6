import ClassicPlatform.Lib.Progress
import ClassicPlatform.NvM.MultiBlock

/-!
# Requests come to an end

If the memory interface takes every job in the end and finishes every job, then the main function
brings every request to a final status: the blocks before it in the queue are processed one after
the other, and each call that neither waits for a job nor is told to come back brings the block
closer to its end. There is one way out: the manager counts a redundant block as done when the
read of its second copy is yet to be made. The block keeps its pending status, and no request of
its own is accepted any more; only a request for all blocks gives it another status.
-/
namespace NvM

open Context List Nat NvmState Underway
open ByteLanes (Memory)

/-! ## The condition -/

variable (config : Config) (adm : AdministrativeBlock)

/-- A failed copy of a redundant block is counted as done, before the other copy is tried. -/
def GivesUp (p : Params) (x : Context) : Prop :=
  x.adm.blockState = .memifProcess ∧ x.memIf.result.failure = true ∧ Final config p x ∧
    Switches config p x
  deriving Decidable

/-- No service is called for a block that a request for all blocks has skipped and has yet to
pass, no assertion of a service or of `ReadAllInit` fails, default data is restored where there is
any, and no redundant block is given up. -/
def Completable (s : State) (call : Call) : Prop :=
  Undisturbed config s call ∧ (∀ block ∈ call.userBlock, block ≠ 0) ∧
    (∀ block ∈ call.restored, (config.block block).romBlockDataAddress.isSome = true) ∧
    ∀ _ ∈ call.answers,
      (s.nvmState = .idle → s.queue = [] → s.multiReqState = .readAll → ReadableAll config s) ∧
      ∀ entry ∈ s.due config,
        ¬ GivesUp config (paramsOf entry.op entry.block entry.dataPtr) (s.context entry.block)
  deriving Decidable

/-! ## One call of DriveBlock -/

/-- A checksum that has not been compared yet: no copy has been counted as failed. -/
def Unchecked : Prop :=
  adm.blockState = .calcCrcRead → adm.blockSubState = .substate0 → adm.flags = 0

/-- A bound for the calls of `DriveBlock` that a block still needs. -/
def workLeft : Nat :=
  match adm.blockState with
  | .calcCrcWrite => config.maxNumberOfWriteRetries + 6
  | .memifReq => config.maxNumberOfWriteRetries + 5
  | .memifProcess => config.maxNumberOfWriteRetries + 4 - adm.numberOfWriteFailed
  | .calcCrc => 3
  | .calcCrcRead => match adm.blockSubState with
    | .substate0 => 2
    | .substate1 => 1

theorem workLeft_le : workLeft config adm ≤ config.maxNumberOfWriteRetries + 6 := by
  unfold workLeft
  split
  · omega
  · omega
  · omega
  · omega
  · split <;> omega

section

variable (service : NvmState) (answer : Answer)

/-- The block waits for its job, or for the memory interface to take one. -/
def Stalled (x : Context) : Prop :=
  x.memIf.job ≠ none ∨
    x.adm.blockState = .memifReq ∧ service ≠ .restoreBlockDefaults ∧ answer ≠ .accepted

/-- The block has less to do than before, or it waits as it did. -/
def Advanced (x : Context) : Prop :=
  Unchecked adm ∧ (workLeft config adm < workLeft config x.adm ∨
    Stalled service answer x ∧ adm.blockState = x.adm.blockState ∧
      workLeft config adm = workLeft config x.adm)

/-- What a call of `DriveBlock` does for the end of the request. -/
structure Works (x y : Context) (drive : Drive) : Prop where
  asserted : y.asserted = x.asserted
  result : y.memIf.result = x.memIf.result ∨ y.memIf.result = .pending
  goes_on : drive = .more → Advanced config y.adm service answer x
  over_ : drive = .done → y.adm.errorStatus ≠ .pending
  ends : drive ≠ .aborted

end

section

variable {config : Config} {entry : QueueEntry} {x y : Context} {drive : Drive} {answer : Answer}

theorem failureStatus_ne_pending {result : JobResult} {status : RequestResult}
    (failure : failureStatus result = some status) : status ≠ .pending := by
  rintro rfl
  cases result <;> cases failure

variable {service : NvmState}

private theorem Works.more (asserted : y.asserted = x.asserted)
    (result : y.memIf.result = x.memIf.result ∨ y.memIf.result = .pending)
    (advanced : Advanced config y.adm service answer x) : Works config service answer x y .more :=
  ⟨asserted, result, fun _ => advanced, nofun, nofun⟩

private theorem Works.done (asserted : y.asserted = x.asserted)
    (result : y.memIf.result = x.memIf.result) (final : y.adm.errorStatus ≠ .pending) :
    Works config service answer x y .done :=
  ⟨asserted, .inl result, nofun, fun _ => final, nofun⟩

theorem Drives.works (drivable : Drivable config entry x.memIf)
    (underway : Underway config x.memIf x.workBuffer entry.op entry.block entry.dataPtr x.adm ∨
      Stale config x.memIf entry.op entry.block entry.dataPtr x.adm)
    (unchecked : Unchecked x.adm) (kept : ¬ GivesUp config entry.params x)
    (driven : Drives config entry.params answer x y drive) :
    Works config entry.op answer x y drive := by
  have fresh (other : x.adm.blockState ≠ .memifProcess) :
      Underway config x.memIf x.workBuffer entry.op entry.block entry.dataPtr x.adm :=
    underway.resolve_right fun stale => other stale.state
  have buffer : ramData config entry.block entry.dataPtr ≠ none :=
    underway.elim buffer Stale.buffer
  cases driven with
  | halted faulty => exact absurd faulty (drivable.faultless underway)
  | waits state job busy =>
    have free := ((fresh (by rw [state]; simp)).of_req state).2
    have busy : answer = .busy := busy.resolve_left (by rw [free]; simp)
    have other : entry.op ≠ .restoreBlockDefaults := by
      intro restore
      rcases job with write | other
      · rw [QueueEntry.params, restore] at write
        cases write
      · exact of_decide_eq_false other restore
    refine .more rfl (.inl rfl) ⟨(fun crc => by cases state.symm.trans crc), .inr ?_⟩
    exact ⟨.inr ⟨state, other, by rw [busy]; rintro ⟨⟩⟩, rfl, rfl⟩
  | refused state | restores | written | delivers | defaults | initializes | verifies | crcFails
  | settles => exact .done rfl rfl (by rintro ⟨⟩)
  | writes state | reads state =>
    refine .more rfl (.inr rfl) ⟨by rintro ⟨⟩, .inl ?_⟩
    simp only [workLeft, emit, state]
    omega
  | aborts _ null => exact absurd null buffer
  | pends state pending =>
    have running : x.memIf.job ≠ none := Option.isSome_iff_ne_none.mp (drivable.consistent.mpr pending)
    exact .more rfl (.inl rfl) ⟨unchecked, .inr ⟨.inl running, rfl, rfl⟩⟩
  | checks state read =>
    have failed := (of_process_read underway state read).2.1
    refine .more rfl (.inl rfl) ⟨fun _ _ => rfl, .inl ?_⟩
    simp only [workLeft, copyToRam, emit, state]
    omega
  | counts state write failure few =>
    have bound := (of_process_write underway state write).2.1
    have range := config.retries
    refine .more rfl (.inl rfl) ⟨(fun crc => by cases state.symm.trans crc), .inl ?_⟩
    simp only [workLeft, emit, state]
    omega
  | switches state failure final first => exact absurd ⟨state, failure, final, first⟩ kept
  | fails state _ _ failure =>
    exact .done rfl rfl (failureStatus_ne_pending failure)
  | sums state =>
    refine .more rfl (.inl rfl) ⟨by rintro ⟨⟩, .inl ?_⟩
    simp only [workLeft, state]
    omega
  | crcSwitches state sub _ _ first =>
    cases first.2.1.symm.trans (unchecked state sub)
  | crcDefaults state sub =>
    refine .more rfl (.inl rfl) ⟨by rintro _ ⟨⟩, .inl ?_⟩
    simp [workLeft, copyToRam, emit, mismatched, state, sub]
  | crcInitializes state sub =>
    refine .more rfl (.inl rfl) ⟨by rintro _ ⟨⟩, .inl ?_⟩
    simp [workLeft, emit, mismatched, state, sub]

/-! ## What is kept -/

variable {s : State}

/-- Every pending block belongs to a request, and nothing stands in the way of its end. -/
structure Accounted (config : Config) (s : State) : Prop where
  alive : s.asserted = false
  canceled : s.memIf.result ≠ .canceled
  traced : ∀ block, (s.admin block).errorStatus = .pending →
    block ∈ s.queuedBlocks ∨ Engaged config s block
  unchecked : ∀ entry ∈ s.driven config, Unchecked (s.admin entry.block)
  rom : ∀ entry ∈ s.singles, entry.Restorable config
  multi : s.multiErrorStatus = .pending →
    s.nvmState.isAll = true ∨ s.multiReqState.isAll = true

theorem Accounted.none_pending (accounted : Accounted config s) (idle : s.nvmState = .idle)
    (empty : s.queue = []) (block : Nat) : (s.admin block).errorStatus ≠ .pending := by
  intro pending
  rcases accounted.traced block pending with queued | engaged
  · rw [State.queuedBlocks, empty] at queued
    cases queued
  · exact not_engaged_idle idle engaged

theorem Accounted.none_multi (accounted : Accounted config s) (idle : s.nvmState = .idle)
    (none_waits : s.multiReqState = .uninitialized) : s.multiErrorStatus ≠ .pending := by
  intro pending
  rcases accounted.multi pending with all | waits
  · rw [idle] at all
    cases all
  · rw [none_waits] at waits
    cases waits

/-- More than any block needs. -/
def roundLoad (config : Config) : Nat := config.maxNumberOfWriteRetries + 8

/-- The calls that the request in progress still needs. -/
def State.load (config : Config) (s : State) : Nat :=
  if s.nvmState.isSingle then workLeft config (s.admin s.qEntry.block) + 1
  else if s.nvmState.isAll then
    (config.numOfNvramBlocks - s.currBlockIndex) * roundLoad config + 1 +
      if s.currBlockIndex < config.numOfNvramBlocks ∧
          (s.admin s.currBlockIndex).errorStatus = .pending then
        workLeft config (s.admin s.currBlockIndex)
      else 0
  else if s.nvmState = .invalidateNvBlock then
    (if s.blockIndex = 0 then 2 else 0) + (if s.nvmSubState = .init then 2 else 1)
  else 0

/-- A job of the block is to be taken by the memory interface. -/
def Requests (config : Config) (s : State) (block : Nat) : Prop :=
  s.nvmState = .invalidateNvBlock ∧ s.nvmSubState = .init ∧ s.qEntry.block = block ∨
    ∃ entry ∈ s.driven config, entry.block = block ∧ (s.admin block).blockState = .memifReq ∧
      entry.op ≠ .restoreBlockDefaults

/-- The call waits for a job, or for the memory interface to take one. -/
def Waits (config : Config) (answers : Nat → Answer) (s s' : State) : Prop :=
  s.memIf.job ≠ none ∨
    ∃ block, Requests config s block ∧ answers block ≠ .accepted ∧ Requests config s' block

/-- The call brings the request in progress closer to its end, or waits. -/
def Nears (config : Config) (answers : Nat → Answer) (s s' : State) : Prop :=
  s'.load config < s.load config ∨
    s'.load config = s.load config ∧ s'.nvmState = s.nvmState ∧ Waits config answers s s'

theorem driveBlock_works (entry : QueueEntry) (drivable : Drivable config entry s.memIf)
    (underway : Underway config s.memIf s.workBuffer entry.op entry.block entry.dataPtr
        (s.admin entry.block) ∨
      Stale config s.memIf entry.op entry.block entry.dataPtr (s.admin entry.block))
    (unchecked : Unchecked (s.admin entry.block))
    (kept : ¬ GivesUp config entry.params (s.context entry.block)) (answer : Answer) :
    let r := driveBlock config answer entry.params s
    r.1.asserted = s.asserted ∧ r.1.memIf.result ≠ .canceled ∧
      r.1.multiErrorStatus = s.multiErrorStatus ∧
      (r.2 = false → Advanced config (r.1.admin entry.block) entry.op answer
        (s.context entry.block)) ∧
      (r.2 = true → (r.1.admin entry.block).errorStatus ≠ .pending) := by
  obtain ⟨y, drive, drove, eq⟩ := driveBlock_drives config answer entry.params
    (underway.elim pending Stale.pending)
  obtain ⟨-, -, -, -, -, multi, memIf, -, -, asserted⟩ :=
    driveEnd_fields (p := entry.params) (s := s) y drive
  have works := drove.works drivable underway unchecked kept
  simp only [eq, memIf, asserted, multi]
  refine ⟨works.asserted, not_canceled drivable.canceled works.result, trivial, ?_⟩
  cases drive with
  | aborted => exact absurd rfl works.ends
  | more =>
    have own : (driveEnd entry.params s y .more).1.admin entry.block = y.adm :=
      (driveEnd_more entry.params s y).1
    rw [own]
    exact ⟨fun _ => works.goes_on rfl, nofun⟩
  | done =>
    have own : (driveEnd entry.params s y .done).1.admin entry.block = y.adm.settle :=
      (driveEnd_done entry.params s y).1
    rw [own, y.adm.settle_fields.2.2.2.2.1]
    exact ⟨nofun, fun _ => works.over_ rfl⟩

theorem not_driven_idle (idle : s.nvmState = .idle) : entry ∉ s.driven config := by
  rw [driven_none (.inl idle)]
  nofun

theorem load_single (single : s.nvmState.isSingle) :
    s.load config = workLeft config (s.admin s.qEntry.block) + 1 := by
  rw [State.load, if_pos single]

theorem load_idle (idle : s.nvmState = .idle) : s.load config = 0 := by
  simp [State.load, idle, isSingle, isAll]

theorem load_all (all : s.nvmState.isAll) :
    s.load config = (config.numOfNvramBlocks - s.currBlockIndex) * roundLoad config + 1 +
      if s.currBlockIndex < config.numOfNvramBlocks ∧
          (s.admin s.currBlockIndex).errorStatus = .pending then
        workLeft config (s.admin s.currBlockIndex)
      else 0 := by
  rw [State.load, if_neg (by rw [isSingle_of_all all]; nofun), if_pos all]

theorem load_driven (driven : s.driven config = some entry) :
    s.load config = workLeft config (s.admin entry.block) + 1 +
      if s.nvmState.isAll then (config.numOfNvramBlocks - s.currBlockIndex) * roundLoad config
      else 0 := by
  rcases driven_eq_some.mp driven with ⟨single, rfl⟩ | ⟨⟨all, here⟩, rfl⟩
  · rw [load_single single, isAll_of_single (.inl single)]
    rfl
  · rw [load_all all, if_pos here, if_pos all]
    dsimp only
    omega

variable {t : State}

theorem Accounted.goes_on {answers : Nat → Answer} (accounted : Accounted config s)
    (driven : s.driven config = some entry) (beside : Beside entry.block s t)
    (state : t.nvmState = s.nvmState) (alive : t.asserted = false)
    (canceled : t.memIf.result ≠ .canceled) (multi : t.multiErrorStatus = s.multiErrorStatus)
    (pending : (s.admin entry.block).errorStatus = .pending)
    (pending' : (t.admin entry.block).errorStatus = .pending)
    (works : Advanced config (t.admin entry.block) entry.op (answers entry.block)
      (s.context entry.block)) : Accounted config t ∧ Nears config answers s t := by
  have driven' : t.driven config = some entry := beside.driven state driven pending'
  have singles : t.singles = s.singles := beside.singles state
  refine ⟨⟨alive, canceled, fun block raised => ?_, fun other driven'' => ?_,
    singles ▸ accounted.rom, ?_⟩, ?_⟩
  · have raised : (s.admin block).errorStatus = .pending := by
      by_cases here : block = entry.block
      · rw [here, pending]
      · rw [← beside.same block here, raised]
    have traced := accounted.traced block raised
    unfold State.queuedBlocks Engaged Ahead at traced ⊢
    rw [beside.queue, state, beside.qEntry, beside.curr]
    exact traced
  · rw [driven'] at driven''
    cases driven''
    exact works.1
  · rw [multi, state, beside.multiReq]
    exact accounted.multi
  · rw [Nears, load_driven driven, load_driven driven', state, beside.curr]
    refine works.2.imp (fun less => ?_) fun ⟨stalled, same, equal⟩ =>
      ⟨by rw [equal]; rfl, rfl, stalled.imp_right fun ⟨request, other, refused⟩ => ?_⟩
    · exact Nat.add_lt_add_right (Nat.succ_lt_succ less) _
    · exact ⟨entry.block, .inr ⟨entry, driven, rfl, request, other⟩, refused,
        .inr ⟨entry, driven', rfl, same.trans request, other⟩⟩

/-! ## The main function -/

theorem Accounted.single (paired : Paired config) (accounted : Accounted config s)
    (around : Surroundings config s) (single : s.nvmState.isSingle)
    (op : s.qEntry.op = s.nvmState) (underway : s.EntryUnderway config ∨ s.EntryStale config)
    (kept : ¬ GivesUp config s.params (s.context s.qEntry.block)) (answers : Nat → Answer) :
    let s' := (driveBlock config (answers s.qEntry.block) s.params s).1
    Accounted config s' ∧ s'.queue = s.queue ∧ s'.nvmState.isAll = false ∧
      Nears config answers s s' := by
  intro s'
  have all := isAll_of_single (.inl single)
  have listed := singles_single single
  have drivable : Drivable config s.qEntry s.memIf :=
    .of_single paired single op around.result accounted.canceled accounted.rom
  have works := driveBlock_works s.qEntry drivable (op ▸ underway)
    (accounted.unchecked s.qEntry (driven_single single)) (by rwa [QueueEntry.params, op])
    (answers s.qEntry.block)
  rw [QueueEntry.params, op] at works
  obtain ⟨asserted, canceled, multi, goes_on, final⟩ := works
  have alive : s'.asserted = false := asserted.trans accounted.alive
  rcases driveBlock_kept (.inr single) around.result underway (answers s.qEntry.block) with
    ⟨-, halted⟩ | ⟨beside, -, ⟨more, state, -, underway'⟩ | ⟨done, state, -⟩⟩
  · cases halted.symm.trans alive
  · obtain ⟨accounted', nears⟩ := accounted.goes_on (driven_single single) beside state alive
      canceled multi (underway.elim pending Stale.pending) underway'.pending
      (by rw [op]; exact goes_on more)
    exact ⟨accounted', beside.queue, by rw [state]; exact all, nears⟩
  · rw [all] at state
    have idle : s'.nvmState = .idle := state
    have singles : s'.singles = s.queue.filter fun entry => entry.op.isSingle := by
      rw [singles_other (by rw [idle]; rfl), beside.queue]
    refine ⟨⟨alive, canceled, fun block pending => .inl ?_, ?_, ?_, fun pending => .inr ?_⟩,
      beside.queue, by rw [idle]; rfl, .inl ?_⟩
    · have ne : block ≠ s.qEntry.block := by
        rintro rfl
        exact final done pending
      rw [beside.same block ne] at pending
      rw [State.queuedBlocks, beside.queue]
      refine (accounted.traced block pending).resolve_right fun engaged => ?_
      exact ne ((engaged_single (.inl single) block).mp engaged).symm
    · exact fun entry driven => absurd driven (not_driven_idle idle)
    · intro entry member
      rw [singles] at member
      exact accounted.rom entry (listed ▸ mem_cons_of_mem _ member)
    · rw [beside.multiReq]
      exact (accounted.multi (multi.symm.trans pending)).resolve_left (by rw [all]; simp)
    · rw [load_idle idle, load_single single]
      exact succ_pos _

theorem load_next (all : s.nvmState.isAll) (all' : t.nvmState.isAll)
    (inside : s.currBlockIndex < config.numOfNvramBlocks)
    (next : t.currBlockIndex = s.currBlockIndex + 1) : t.load config < s.load config := by
  have round : (config.numOfNvramBlocks - s.currBlockIndex) * roundLoad config =
      (config.numOfNvramBlocks - t.currBlockIndex) * roundLoad config + roundLoad config := by
    rw [← succ_mul]
    congr 1
    omega
  have small : (if t.currBlockIndex < config.numOfNvramBlocks ∧
      (t.admin t.currBlockIndex).errorStatus = .pending then
      workLeft config (t.admin t.currBlockIndex) else 0) < roundLoad config := by
    have bound := workLeft_le config (t.admin t.currBlockIndex)
    unfold roundLoad
    split <;> omega
  rw [load_all all, load_all all']
  omega

variable {block : Nat}

private theorem Expects.unchecked (all : s.nvmState.isAll)
    (expects : s.currBlockIndex < config.numOfNvramBlocks → Expects config s s.currBlockIndex)
    (entry : QueueEntry) (driven : entry ∈ s.driven config) : Unchecked (s.admin entry.block) := by
  intro crc
  rcases Expects.driven all expects driven with start | start <;> cases start.symm.trans crc

theorem Accounted.next (accounted : Accounted config s) (passing : Passing config s)
    (beside : Beside s.currBlockIndex s t) (state : t.nvmState = s.nvmState)
    (alive : t.asserted = false) (canceled : t.memIf.result ≠ .canceled)
    (final : (t.admin s.currBlockIndex).errorStatus ≠ .pending) :
    Accounted config { t with currBlockIndex := s.currBlockIndex + 1 } := by
  have all : t.nvmState.isAll = true := state ▸ passing.service
  have singles : ({ t with currBlockIndex := s.currBlockIndex + 1 } : State).singles =
      s.singles := beside.singles state
  have expects (known) : Expects config t (s.currBlockIndex + 1) :=
    passing.expects beside state (lt_succ_self _) known
  refine ⟨alive, canceled, fun block pending => ?_, Expects.unchecked all expects,
    singles ▸ accounted.rom, fun _ => .inl all⟩
  · have ne : block ≠ s.currBlockIndex := by
      rintro rfl
      exact final pending
    have pending : (s.admin block).errorStatus = .pending := by
      rw [← beside.same block ne]
      exact pending
    refine (accounted.traced block pending).imp (fun queued => ?_) fun engaged => .inr ?_
    · rw [beside.queue]
      exact queued
    · rcases engaged with ⟨single, -⟩ | ⟨-, later, known⟩
      · cases isAll_of_single single ▸ passing.service
      · exact ⟨all, succ_le_of_lt (lt_of_le_of_ne later ne.symm), known⟩

theorem Accounted.all (paired : Paired config) (accounted : Accounted config s)
    (around : Surroundings config s) (passing : Passing config s)
    (kept : s.currBlockIndex < config.numOfNvramBlocks →
      (s.admin s.currBlockIndex).errorStatus = .pending →
      ¬ GivesUp config (paramsOf s.nvmState s.currBlockIndex none) (s.context s.currBlockIndex))
    (answers : Nat → Answer) :
    let s' := multiblockMain config answers s.nvmState.isWrite s
    Accounted config s' ∧ s'.queue = s.queue ∧
      (s'.nvmState.isAll = true ∨ s'.multiErrorStatus ≠ .pending) ∧
      Nears config answers s s' := by
  have lower {t t' : State} (reached : t = s ∨ t.load config < s.load config)
      (less : t'.load config < t.load config) : t'.load config < s.load config := by
    rcases reached with rfl | before
    · exact less
    · exact lt_trans less before
  refine passing.rule
    (fun t => (t = s ∨ t.load config < s.load config) ∧ Accounted config t ∧ t.queue = s.queue)
    (fun t => Accounted config t ∧ t.queue = s.queue ∧
      (t.nvmState.isAll = true ∨ t.multiErrorStatus ≠ .pending) ∧ Nears config answers s t) around
    ⟨.inl rfl, accounted, rfl⟩ ?skip ?drives ?finish
  case skip =>
    rintro t ⟨-, passing', -, -⟩ ⟨reached, accounted', queue⟩ inside skipped
    have accounted'' := accounted'.next passing' ⟨rfl, rfl, rfl, rfl, fun _ _ => rfl⟩
      rfl accounted'.alive accounted'.canceled (by rw [skipped]; simp)
    exact ⟨.inr (lower reached (load_next passing'.service passing'.service inside rfl)),
      accounted'', queue⟩
  case drives =>
    rintro t reaches ⟨reached, accounted', queue⟩ inside underway r
    have passing' := reaches.passing
    have all := passing'.service
    have driven := driven_all all inside underway.pending
    obtain ⟨asserted, canceled, multi, goes_on, final⟩ :=
      driveBlock_works ⟨t.nvmState, t.currBlockIndex, none⟩
        ⟨paired _, fun restore => absurd restore (restores_single all), fun _ => rfl,
          reaches.around.result, accounted'.canceled⟩ (.inl underway)
        (accounted'.unchecked _ driven)
        (by
          rcases reaches.expects passing with rfl | expects
          · exact kept inside underway.pending
          -- a block that the call has just come to has no failed job
          · rintro ⟨process, -⟩
            rcases (expects inside).starts all underway.pending with start | start
            · cases start.symm.trans process
            · cases start.symm.trans process)
        (answers t.currBlockIndex)
    have alive : r.1.asserted = false := asserted.trans accounted'.alive
    refine ⟨fun more kept' => ?_, fun done beside state' => ?_⟩
    · obtain ⟨-, beside, state', pending⟩ :=
        kept'.resolve_left fun halted => by cases halted.symm.trans alive
      have all' : r.1.nvmState.isAll = true := state' ▸ all
      obtain ⟨accounted'', nears⟩ := accounted'.goes_on driven beside state' alive canceled multi
        underway.pending pending (goes_on more)
      refine ⟨accounted'', beside.queue.trans queue, .inl all', ?_⟩
      rcases reached with rfl | before
      · exact nears
      · exact .inl (nears.elim (fun less => lt_trans less before) fun same => same.1 ▸ before)
    · have accounted'' := accounted'.next passing' beside state' alive canceled (final done)
      have all' : r.1.nvmState.isAll = true := state' ▸ all
      exact ⟨.inr (lower reached (load_next all all' inside rfl)), accounted'',
        beside.queue.trans queue⟩
  case finish =>
    rintro t ⟨-, passing', -, -⟩ ⟨reached, accounted', queue⟩ passed
    have singles : (finishAll t).singles = t.singles :=
      singles_same (isSingle_of_all passing'.service) rfl rfl
    have final : (finishAll t).multiErrorStatus ≠ .pending := by
      simp only [finishAll]
      split <;> simp
    have idle : (finishAll t).nvmState = .idle := rfl
    refine ⟨⟨accounted'.alive, accounted'.canceled, fun block pending => ?_, fun entry driven => ?_,
      singles ▸ accounted'.rom, fun pending => absurd pending final⟩, queue, .inr final,
      .inl (lower reached ?_)⟩
    · refine .inl ((accounted'.traced block pending).resolve_right ?_)
      rintro (⟨single, -⟩ | ⟨-, later, known⟩)
      · cases isAll_of_single single ▸ passing'.service
      · omega
    · exact absurd driven (not_driven_idle idle)
    · rw [load_idle idle, load_all passing'.service]
      omega

theorem load_invalidates (state : s.nvmState = .invalidateNvBlock) :
    s.load config =
      (if s.blockIndex = 0 then 2 else 0) + (if s.nvmSubState = .init then 2 else 1) := by
  simp [State.load, state, isSingle, isAll]

theorem Accounted.invalidate (accounted : Accounted config s) (around : Surroundings config s)
    (state : s.nvmState = .invalidateNvBlock) (answers : Nat → Answer) :
    let s' := invalidate config (answers s.qEntry.block) s
    Accounted config s' ∧ s'.queue = s.queue ∧ s'.nvmState.isAll = false ∧
      Nears config answers s s' := by
  intro s'
  obtain ⟨single, all⟩ := undriven (.inr state)
  have invalidates : Invalidates (answers s.qEntry.block) s s' :=
    invalidate_invalidates config (answers s.qEntry.block) s
  generalize s' = t at invalidates
  cases invalidates with
  | waits sub reason =>
    refine ⟨accounted, rfl, all, .inr ⟨rfl, rfl, reason.imp_right fun refused => ?_⟩⟩
    exact ⟨s.qEntry.block, .inl ⟨state, sub, rfl⟩, refused, .inl ⟨state, sub, rfl⟩⟩
  | @requests memIf sub result =>
    refine ⟨{ accounted with canceled := by rw [result]; rintro ⟨⟩ }, rfl, all, .inl ?_⟩
    have after : State.load config { s with memIf, nvmSubState := .pending } = _ :=
      load_invalidates state
    simp [after, load_invalidates state, sub]
  | pends sub result =>
    have running : s.memIf.job ≠ none := Option.isSome_iff_ne_none.mp (around.result.mpr result)
    exact ⟨accounted, rfl, all, .inr ⟨rfl, rfl, .inl running⟩⟩
  | again sub first =>
    refine ⟨{ accounted with }, rfl, all, .inl ?_⟩
    have after : State.load config { s with blockIndex := 1, nvmSubState := .init } = _ :=
      load_invalidates state
    simp [after, load_invalidates state, sub, first]
  | @finishes status final =>
    have idle : (finishInvalidation s status).nvmState = .idle := rfl
    have singles : (finishInvalidation s status).singles = s.singles :=
      singles_same single rfl rfl
    refine ⟨⟨accounted.alive, accounted.canceled, fun block pending => .inl ?_,
      fun entry driven => ?_, singles ▸ accounted.rom, fun pending => ?_⟩, rfl, rfl, .inl ?_⟩
    · by_cases here : block = s.qEntry.block
      · simp only [finishInvalidation, here, Function.update_self] at pending
        exact absurd pending final
      · simp only [finishInvalidation, Function.update_of_ne here] at pending
        refine (accounted.traced block pending).resolve_right fun engaged => ?_
        exact here ((engaged_single (.inr state) block).mp engaged).symm
    · exact absurd driven (not_driven_idle idle)
    · exact .inr ((accounted.multi pending).resolve_left (by rw [all]; simp))
    · rw [load_idle idle, load_invalidates state]
      split <;> split <;> decide

/-- What a call of the main function does for the end of the requests. -/
inductive Moves (config : Config) (answers : Nat → Answer) (s s' : State) : Prop where
  | rests (idle : s.nvmState = .idle) (empty : s.queue = [])
      (none_waits : s.multiReqState = .uninitialized)
  | takes {entry : QueueEntry} {rest : List QueueEntry} (idle : s.nvmState = .idle)
      (queue : s.queue = entry :: rest) (queue' : s'.queue = rest)
      (load : s'.load config < roundLoad config) (single : s'.nvmState.isAll = false)
  | starts (idle : s.nvmState = .idle) (empty : s.queue = [])
      (outcome : s'.nvmState.isAll = true ∨ s'.multiErrorStatus ≠ .pending)
  | proceeds (busy : s.nvmState ≠ .idle) (queue : s'.queue = s.queue)
      (outcome : s'.nvmState.isAll = s.nvmState.isAll ∨ s'.multiErrorStatus ≠ .pending)
      (load : s'.load config < s.load config)
  | stalls (busy : s.nvmState ≠ .idle) (queue : s'.queue = s.queue)
      (state : s'.nvmState = s.nvmState) (load : s'.load config = s.load config)
      (waits : Waits config answers s s')

variable {answers : Nat → Answer}

private theorem Moves.of_busy {s' : State} (busy : s.nvmState ≠ .idle) (queue : s'.queue = s.queue)
    (outcome : s'.nvmState.isAll = s.nvmState.isAll ∨ s'.multiErrorStatus ≠ .pending)
    (nears : Nears config answers s s') : Moves config answers s s' := by
  rcases nears with less | ⟨equal, state, waits⟩
  · exact .proceeds busy queue outcome less
  · exact .stalls busy queue state equal waits

private theorem Ready.unchecked {dataPtr : Option Int}
    {adm : AdministrativeBlock} (single : service.isSingle)
    (ready : Ready config service block dataPtr adm) : Unchecked adm := by
  intro crc
  rcases ready.state (.inr single) with ⟨state, -⟩ | state | ⟨-, state⟩ <;>
    cases state.symm.trans crc

variable {rest : List QueueEntry}

theorem Accounted.popped
    (accounted : Accounted config s) (orderly : Orderly config s) (idle : s.nvmState = .idle)
    (queue : s.queue = entry :: rest) : Accounted config (s.popped entry rest) := by
  have member : entry ∈ s.queue := by rw [queue]; exact mem_cons_self
  obtain ⟨op, -, ready⟩ := orderly.waiting entry member
  refine ⟨accounted.alive, accounted.canceled, fun block pending => ?_, fun other driven => ?_, ?_,
    fun pending => .inr ((accounted.multi pending).resolve_left (by rw [idle]; nofun))⟩
  · have queued := (accounted.traced block pending).resolve_right (not_engaged_idle idle)
    rw [State.queuedBlocks, queue] at queued
    rcases mem_cons.mp queued with rfl | later
    · exact .inr (.inl ⟨op, rfl⟩)
    · exact .inl later
  · rcases op with single | invalidates
    · rw [driven_single (s := s.popped entry rest) single] at driven
      cases driven
      exact ready.unchecked single
    · rw [driven_none (s := s.popped entry rest) (.inr invalidates)] at driven
      cases driven
  · rw [popped_singles idle queue]
    exact accounted.rom

theorem Moves.took {others : List QueueEntry} (idle : s.nvmState = .idle)
    (queue : s.queue = entry :: others) (queue' : t.queue = others)
    (single : t.nvmState.isAll = false) (nears : Nears config answers (s.popped entry others) t)
    (bound : (s.popped entry others).load config < roundLoad config) :
    Moves config answers s t := by
  refine .takes idle queue queue' ?_ single
  rcases nears with less | ⟨equal, -⟩
  · exact lt_trans less bound
  · exact equal ▸ bound

theorem Accounted.mainFunction (paired : Paired config) (accounted : Accounted config s)
    (orderly : Orderly config s)
    (readable : s.nvmState = .idle → s.queue = [] → s.multiReqState = .readAll →
      ReadableAll config s)
    (kept : ∀ entry ∈ s.due config, ¬ GivesUp config entry.params (s.context entry.block))
    (answers : Nat → Answer) :
    let s' := mainFunction config answers s
    Accounted config s' ∧ Moves config answers s s' := by
  intro s'
  have call := orderly.mainCall answers
  change MainCall config answers s s' at call
  generalize s' = last at call ⊢
  cases call with
  | rests idle empty none_waits => exact ⟨accounted, .rests idle empty none_waits⟩
  | starts idle empty waits free starts =>
    have none_pending := accounted.none_pending idle empty
    cases starts with
    | halts service unreadable => exact absurd (readable idle empty service) unreadable
    | ends state _ shared status skipped beyond =>
      obtain ⟨memIf, queue', asserted⟩ := shared
      refine ⟨⟨asserted.trans accounted.alive, memIf ▸ accounted.canceled,
        fun block pending => ?_, fun entry driven => ?_, ?_, fun pending => ?_⟩,
        .starts idle empty (.inr ?_)⟩
      · by_cases known : block < config.numOfNvramBlocks
        · cases (skipped block known).symm.trans pending
        · rw [beyond block (not_lt.mp known)] at pending
          exact absurd pending (none_pending block)
      · exact absurd driven (not_driven_idle state)
      · rw [singles_none (undriven (.inl state)).1 (queue'.trans empty)]
        nofun
      · cases status.symm.trans pending
      · rw [status]
        nofun
    | begins state curr shared expects beyond =>
      obtain ⟨memIf, queue', asserted⟩ := shared
      have all' : last.nvmState.isAll = true := state ▸ waits
      refine ⟨⟨asserted.trans accounted.alive, memIf ▸ accounted.canceled,
        fun block pending => .inr (.inr ⟨all', curr ▸ zero_le _, ?_⟩),
        Expects.unchecked all' (expects _), ?_, fun _ => .inl all'⟩,
        .starts idle empty (.inl all')⟩
      · by_contra unknown
        rw [beyond block (not_lt.mp unknown)] at pending
        exact none_pending block pending
      · rw [singles_none (isSingle_of_all all') (queue'.trans empty)]
        nofun
  | drives taken around single op apart underway =>
    cases taken with
    | inProgress other =>
      have kept' := kept s.qEntry (by simp [State.due, other, State.driven, single])
      rw [QueueEntry.params, op] at kept'
      obtain ⟨accounted', queue, single', load⟩ := accounted.single paired around single op
        (underway.imp_right And.left) kept' answers
      refine ⟨accounted', .of_busy other queue (.inl ?_) load⟩
      rw [single', isAll_of_single (.inl single)]
    | @popped entry others idle queue free ready =>
      have kept' := kept entry (by simp [State.due, idle, queue]; exact single)
      have popped := accounted.popped orderly idle queue
      obtain ⟨accounted', queue', single', load⟩ := popped.single (s := s.popped entry others)
        paired around single rfl (underway.imp_right And.left) kept' answers
      refine ⟨accounted', .took idle queue queue' single' load ?_⟩
      have bound := workLeft_le config (s.admin entry.block)
      rw [load_single (s := s.popped entry others) single]
      change workLeft config (s.admin entry.block) + 1 < config.maxNumberOfWriteRetries + 8
      omega
  | invalidates taken around state =>
    cases taken with
    | inProgress other =>
      obtain ⟨accounted', queue, single', load⟩ := accounted.invalidate around state answers
      refine ⟨accounted', .of_busy other queue (.inl ?_) load⟩
      rw [single', state]
      rfl
    | @popped entry others idle queue =>
      have popped := accounted.popped orderly idle queue
      obtain ⟨accounted', queue', single', load⟩ :=
        popped.invalidate (s := s.popped entry others) around state answers
      refine ⟨accounted', .took idle queue queue' single' load ?_⟩
      rw [load_invalidates (s := s.popped entry others) state, roundLoad]
      split <;> split <;> omega
  | all other passing =>
    obtain ⟨accounted', queue, outcome, load⟩ := accounted.all paired orderly.toSurroundings passing
      (fun inside pending => by
        apply kept ⟨s.nvmState, s.currBlockIndex, none⟩
        rw [State.due, if_neg other]
        exact driven_all passing.service inside pending) answers
    refine ⟨accounted', .of_busy other queue (outcome.imp_left fun all' => ?_) load⟩
    rw [all', passing.service]

/-! ## The other calls -/

/-- A step that is not a call of the main function; it may queue a request. -/
structure Passive (config : Config) (s s' : State) : Prop where
  nvmState : s'.nvmState = s.nvmState
  load : s'.load config = s.load config
  requests : ∀ block, Requests config s block → Requests config s' block
  free : s.memIf.job = none → s'.memIf.job = none
  queue : s'.queue = s.queue ∨
    ∃ entry, s'.queue = s.queue ++ [entry] ∧ (s.admin entry.block).errorStatus ≠ .pending

theorem perform_alive {call : Call} (service : call.isService)
    (user : ∀ block ∈ call.userBlock, block ≠ 0) :
    (perform config s call).asserted = s.asserted := by
  have serves := perform_serves config s service
  generalize perform config s call = s' at serves ⊢
  cases serves with
  | asserts zero => exact absurd rfl (user 0 zero)
  | refuses | accepts | sets => rfl

theorem perform_queue {call : Call} (service : call.isService) (other : call.queues = false) :
    (perform config s call).queue = s.queue := by
  have serves := perform_serves config s service
  generalize perform config s call = s' at serves ⊢
  cases serves with
  | accepts queues => cases other.symm.trans queues
  | asserts | refuses | sets => rfl

theorem Quiet.load {s' : State} (quiet : Quiet s s') (orderly : Orderly config s)
    (orderly' : Orderly config s') : s'.load config = s.load config := by
  unfold State.load
  rw [quiet.nvmState, quiet.qEntry, quiet.curr, quiet.blockIndex, quiet.sub]
  split
  next single =>
    have driven : s.driven config = some s.qEntry := driven_single single
    rw [quiet.records _ (orderly.driven_pending driven)]
  next =>
    split
    next all =>
      have status := quiet.ahead orderly' all (le_refl s.currBlockIndex)
      by_cases pending : (s.admin s.currBlockIndex).errorStatus = .pending
      · rw [quiet.records _ pending]
      · simp [status, pending]
    next => rfl

theorem Quiet.passive {s' : State} (quiet : Quiet s s') (orderly : Orderly config s)
    (orderly' : Orderly config s') : Passive config s s' where
  nvmState := quiet.nvmState
  load := quiet.load orderly orderly'
  requests block := by
    rintro (⟨state, sub, same⟩ | ⟨entry, driven, rfl, request, other⟩)
    · exact .inl ⟨quiet.nvmState.trans state, quiet.sub.trans sub, quiet.qEntry ▸ same⟩
    · refine .inr ⟨entry, (quiet.driven orderly').trans driven, rfl, ?_, other⟩
      rw [quiet.records _ (orderly.driven_pending driven)]
      exact request
  free := by
    rw [quiet.memIf]
    exact id
  queue := quiet.accepted.imp And.left fun ⟨entry, queue, _, free⟩ => ⟨entry, queue, free⟩

theorem Accounted.quiet {s' : State} (accounted : Accounted config s) (none_yet : s.events = [])
    (orderly : Orderly config s) (orderly' : Orderly config s') (quiet : Quiet s s')
    (rom : ∀ entry, s'.events = [.accepted entry] → entry.Restorable config) : Accounted config s' := by
  have queued (block : Nat) (member : block ∈ s.queuedBlocks) : block ∈ s'.queuedBlocks := by
    rcases quiet.accepted with ⟨queue, -⟩ | ⟨entry, queue, -⟩
    · rw [State.queuedBlocks, queue]
      exact member
    · rw [State.queuedBlocks, queue, map_append]
      exact mem_append_left _ member
  refine ⟨quiet.asserted.trans accounted.alive, quiet.memIf ▸ accounted.canceled,
    fun block pending => ?_, fun entry driven => ?_, fun entry member => ?_, ?_⟩
  · rcases quiet.raised block pending with before | new
    · refine (accounted.traced block before).imp (queued block) fun engaged => ?_
      unfold Engaged Ahead at engaged ⊢
      rw [quiet.nvmState, quiet.qEntry, quiet.curr]
      exact engaged
    · exact .inl new
  · rw [quiet.driven orderly'] at driven
    rw [quiet.records _ (orderly.driven_pending driven)]
    exact accounted.unchecked entry driven
  · rw [State.singles, quiet.nvmState, quiet.qEntry] at member
    rcases quiet.accepted with ⟨queue, -⟩ | ⟨new, queue, events, -⟩
    · rw [queue] at member
      exact accounted.rom entry member
    · rw [queue, filter_append, ← append_assoc, mem_append] at member
      rcases member with member | last
      · exact accounted.rom entry member
      · obtain rfl := mem_singleton.mp (mem_filter.mp last).1
        apply rom entry
        rw [events, none_yet]
        rfl
  · rw [quiet.multiStatus, quiet.nvmState, quiet.multiReq]
    exact accounted.multi

/-! ## Steps -/

/-- What is kept by every step. -/
structure Sound (config : Config) (s : State) : Prop where
  orderly : Orderly config s
  accounted : Accounted config s

/-- What a step does for the end of the requests. -/
inductive Stepped (config : Config) (call : Call) (s s' : State) : Prop where
  | main (answers : Nat → Answer) (called : call = .mainFunction answers)
      (moves : Moves config answers s s')
  | other (waits : call.answers = none) (passive : Passive config s s')
      (queue : call.queues = false → s'.queue = s.queue)

private theorem Passive.of_same {s' : State} (nvmState : s'.nvmState = s.nvmState)
    (load : s'.load config = s.load config) (queue : s'.queue = s.queue)
    (requests : ∀ block, Requests config s block → Requests config s' block)
    (free : s.memIf.job = none → s'.memIf.job = none) : Passive config s s' :=
  ⟨nvmState, load, requests, free, .inl queue⟩

private theorem Accounted.requestAll (accounted : Accounted config s) (service : NvmState)
    (all : service.isAll) :
    Accounted config (requestAll service s) ∧ Passive config s (requestAll service s) ∧
      (requestAll service s).queue = s.queue := by
  unfold NvM.requestAll
  split
  · exact ⟨accounted, .of_same rfl rfl rfl (fun _ => id) id, rfl⟩
  · exact ⟨{ accounted with multi := fun _ => .inr all },
      .of_same rfl rfl rfl (fun _ => id) id, rfl⟩

theorem Sound.perform (paired : Paired config) (sound : Sound config s) (none_yet : s.events = [])
    {call : Call} (completable : Completable config s call) :
    Sound config (perform config s call) ∧ Stepped config call s (perform config s call) := by
  obtain ⟨undisturbed, user, rom, main⟩ := completable
  obtain ⟨orderly, accounted⟩ := sound
  have in_order := orderly.perform call undisturbed
  have orderly_of (alive : (NvM.perform config s call).asserted = false) :
      Orderly config (NvM.perform config s call) :=
    in_order.resolve_left fun halted => absurd (halted.symm.trans alive) nofun
  by_cases service : call.isService = true
  · have alive : (NvM.perform config s call).asserted = false :=
      (perform_alive service user).trans accounted.alive
    rcases perform_quiet service undisturbed with ⟨halted, -⟩ | quiet
    · cases halted.symm.trans alive
    · have orderly' := orderly_of alive
      refine ⟨⟨orderly', accounted.quiet none_yet orderly orderly' quiet
        fun entry accepted restore =>
          rom entry.block (perform_restored service none_yet accepted restore)⟩,
        .other ?_ (quiet.passive orderly orderly') (perform_queue service)⟩
      cases call <;> first | rfl | cases service
  · cases call with
    | mainFunction answers =>
      obtain ⟨readable, kept⟩ := main answers rfl
      obtain ⟨accounted', moves⟩ := accounted.mainFunction paired orderly readable kept answers
      exact ⟨⟨orderly_of accounted'.alive, accounted'⟩, .main answers rfl moves⟩
    | jobEnd result spoiled =>
      obtain ⟨memIf, work, ends, eq⟩ := jobEnd_ends result spoiled s
      have orderly' := orderly_of (by rw [NvM.perform, eq]; exact accounted.alive)
      rw [NvM.perform, eq] at orderly' ⊢
      exact ⟨⟨orderly', { accounted with canceled := ends.canceled accounted.canceled }⟩,
        .other rfl (.of_same rfl rfl rfl (fun _ => id) ends.free) fun _ => rfl⟩
    | ramWrite address value =>
      have orderly' := orderly_of accounted.alive
      exact ⟨⟨orderly', { accounted with }⟩,
        .other rfl (.of_same rfl rfl rfl (fun _ => id) id) fun _ => rfl⟩
    | readAll =>
      obtain ⟨accounted', passive, queue⟩ := accounted.requestAll .readAll rfl
      exact ⟨⟨orderly_of accounted'.alive, accounted'⟩, .other rfl passive fun _ => queue⟩
    | writeAll =>
      obtain ⟨accounted', passive, queue⟩ := accounted.requestAll .writeAll rfl
      exact ⟨⟨orderly_of accounted'.alive, accounted'⟩, .other rfl passive fun _ => queue⟩
    | _ => exact absurd rfl service

theorem Sound.stepped (paired : Paired config) (sound : Sound config s) {call : Call}
    (completable : Completable config s call) :
    Sound config (step config s call).1 ∧ Stepped config call s (step config s call).1 := by
  have cleared : Sound config { s with events := [] } :=
    ⟨sound.orderly.congr rfl, { sound.accounted with }⟩
  have completable' : Completable config { s with events := [] } call :=
    ⟨completable.1.cleared, completable.2⟩
  rw [step, if_neg (by rw [sound.accounted.alive]; simp)]
  obtain ⟨sound', stepped⟩ := cleared.perform paired rfl completable'
  refine ⟨sound', ?_⟩
  cases stepped with
  | main answers called moves =>
    refine .main answers called ?_
    cases moves with
    | rests idle empty none_waits => exact .rests idle empty none_waits
    | takes idle queue queue' load single => exact .takes idle queue queue' load single
    | starts idle empty outcome => exact .starts idle empty outcome
    | proceeds busy queue outcome load => exact .proceeds busy queue outcome load
    | stalls busy queue state load waits => exact .stalls busy queue state load waits
  | other waits passive queue =>
    exact .other waits { passive with } queue

section

variable (requests : Requests config s block)
include requests

theorem Sound.requests_free (sound : Sound config s) : s.memIf.job = none := by
  rcases requests with ⟨state, sub, -⟩ | ⟨entry, driven, rfl, request, -⟩
  · cases sound.orderly.current with
    | idle _ free => exact free
    | single single => rw [state] at single; cases single
    | invalidates _ _ _ _ free => exact free sub
    | all passing => nomatch state ▸ passing.service
  · rcases driven_eq_some.mp driven with ⟨single, rfl⟩ | ⟨⟨all, inside, -⟩, rfl⟩
    · exact ((sound.orderly.underway single).of_req request).2
    · rcases (sound.orderly.passing all).here inside with ⟨-, -, free⟩ | underway
      · exact free
      · exact (underway.of_req request).2

theorem Requests.unique {block' : Nat} (requests' : Requests config s block') : block = block' := by
  have invalidation {block : Nat} (state : s.nvmState = .invalidateNvBlock)
      (driven : ∃ entry ∈ s.driven config, entry.block = block ∧
        (s.admin block).blockState = .memifReq ∧ entry.op ≠ .restoreBlockDefaults) : False := by
    obtain ⟨entry, driven, -⟩ := driven
    rw [driven_none (.inr state)] at driven
    cases driven
  rcases requests with ⟨state, -, same⟩ | driven
  · rcases requests' with ⟨-, -, same'⟩ | driven'
    · exact same.symm.trans same'
    · exact (invalidation state driven').elim
  · rcases requests' with ⟨state, -⟩ | ⟨entry', driven', rfl, -⟩
    · exact (invalidation state driven).elim
    · obtain ⟨entry, driven, rfl, -⟩ := driven
      have same := Option.some.inj (driven.symm.trans driven')
      rw [same]

theorem Requests.busy : s.nvmState ≠ .idle := by
  intro idle
  rcases requests with ⟨state, -⟩ | ⟨entry, driven, -⟩
  · rw [idle] at state
    cases state
  · exact not_driven_idle idle driven

/-! ## Ranks -/

end

variable {s' : State} {call : Call}

/-- How a step comes closer to a goal, in terms of a rank. -/
structure Approaches (config : Config) (call : Call) (s s' : State) (reached : Prop)
    (before after : Nat) : Prop where
  shrinks : reached ∨ after ≤ before
  moves : s.memIf.job = none → reached ∨ after < before ∨
    s'.memIf.job = none ∧ (call.answers.isSome = true → ∃ block, Requests config s block)
  asking : ∀ block, Requests config s block → reached ∨ after < before ∨
    Requests config s' block ∧ ¬ ∃ answers ∈ call.answers, answers block = .accepted

theorem Stepped.approaches {reached : Prop} {before after : Nat} (sound : Sound config s)
    (sound' : Sound config s') (stepped : Stepped config call s s')
    (moved : ∀ answers, Moves config answers s s' →
      reached ∨ after < before ∨ after = before ∧ Waits config answers s s')
    (kept : Passive config s s' → (call.queues = false → s'.queue = s.queue) → after ≤ before) :
    Approaches config call s s' reached before after := by
  cases stepped with
  | main answers called moves =>
    rcases moved answers moves with goal | lower | ⟨equal, waits⟩
    · exact ⟨.inl goal, fun _ => .inl goal, fun _ _ => .inl goal⟩
    · exact ⟨.inr (le_of_lt lower), fun _ => .inr (.inl lower), fun _ _ => .inr (.inl lower)⟩
    · refine ⟨.inr (le_of_eq equal), fun free => .inr (.inr ?_), fun block requests =>
        .inr (.inr ?_)⟩
      · rcases waits with running | ⟨block, requests, -, requests'⟩
        · exact absurd free running
        · exact ⟨sound'.requests_free requests', fun _ => ⟨block, requests⟩⟩
      · rcases waits with running | ⟨other, requests_other, refused, requests'⟩
        · exact absurd (sound.requests_free requests) running
        · obtain rfl := requests.unique requests_other
          refine ⟨requests', ?_⟩
          rintro ⟨answers', called', accepted⟩
          rw [called] at called'
          cases called'
          exact refused accepted
  | other waits passive queue =>
    refine ⟨.inr (kept passive queue), fun free => .inr (.inr ⟨passive.free free, ?_⟩),
      fun block requests => .inr (.inr ⟨passive.requests block requests, ?_⟩)⟩ <;>
      rw [waits] <;> nofun

/-- The place of a block in the queue, counted from one; 0 for a block that is not queued. -/
def State.position (s : State) (block : Nat) : Nat :=
  if block ∈ s.queuedBlocks then s.queuedBlocks.idxOf block + 1 else 0

/-- A bound for the calls until a block has its final status. -/
def State.blockRank (config : Config) (block : Nat) (s : State) : Nat :=
  s.position block * roundLoad config + s.load config

theorem position_appended (queue : s'.queue = s.queue ++ [entry])
    (other : entry.block ≠ block) : s'.position block = s.position block := by
  have blocks : s'.queuedBlocks = s.queuedBlocks ++ [entry.block] := by
    rw [State.queuedBlocks, queue, map_append]
    rfl
  unfold State.position
  rw [blocks]
  by_cases member : block ∈ s.queuedBlocks
  · rw [if_pos member, if_pos (mem_append_left _ member), idxOf_append_of_mem member]
  · rw [if_neg member, if_neg]
    rw [mem_append, mem_singleton, not_or]
    exact ⟨member, other.symm⟩

theorem position_taken (queue : s.queue = entry :: rest) (queue' : s'.queue = rest)
    (apart : entry.block ∉ rest.map QueueEntry.block) (member : block ∈ s.queuedBlocks) :
    s'.position block + 1 = s.position block := by
  have blocks : s.queuedBlocks = entry.block :: s'.queuedBlocks := by
    rw [State.queuedBlocks, queue, State.queuedBlocks, queue']
    rfl
  unfold State.position
  rw [if_pos member, blocks]
  by_cases here : entry.block = block
  · rw [idxOf_cons_eq _ here, if_neg]
    rw [← here, State.queuedBlocks, queue']
    exact apart
  · have later : block ∈ s'.queuedBlocks := by
      rw [blocks, mem_cons] at member
      exact member.resolve_left (Ne.symm here)
    rw [idxOf_cons_ne _ here, if_pos later]

theorem Sound.block_approaches (sound : Sound config s) (sound' : Sound config s')
    (stepped : Stepped config call s s') (pending : (s.admin block).errorStatus = .pending) :
    Approaches config call s s' ((s'.admin block).errorStatus ≠ .pending)
      (s.blockRank config block) (s'.blockRank config block) := by
  have traced := sound.accounted.traced block pending
  have queued (idle : s.nvmState = .idle) : block ∈ s.queuedBlocks :=
    traced.resolve_right (not_engaged_idle idle)
  refine stepped.approaches sound sound' (fun answers moves => .inr ?_) fun passive _ => ?_
  · cases moves with
    | rests idle empty | starts idle empty =>
      exact absurd pending (sound.accounted.none_pending idle empty block)
    | @takes entry rest idle queue queue' load =>
      have distinct := sound.orderly.distinct
      rw [State.queuedBlocks, queue] at distinct
      have moved_up := position_taken queue queue' (nodup_cons.mp distinct).1 (queued idle)
      left
      unfold State.blockRank
      rw [← moved_up, succ_mul]
      omega
    | proceeds _ queue _ load =>
      left
      unfold State.blockRank State.position State.queuedBlocks
      rw [queue]
      exact Nat.add_lt_add_left load _
    | stalls _ queue _ load waits =>
      refine .inr ⟨?_, waits⟩
      unfold State.blockRank State.position State.queuedBlocks
      rw [queue, load]
  · have same : s'.position block = s.position block := by
      rcases passive.queue with queue | ⟨entry, queue, free⟩
      · unfold State.position State.queuedBlocks
        rw [queue]
      · apply position_appended queue
        rintro rfl
        exact free pending
    unfold State.blockRank
    exact le_of_eq (by rw [same, passive.load])

/-- More than any request for all blocks needs. -/
def allLoad (config : Config) : Nat := (config.numOfNvramBlocks + 1) * roundLoad config + 1

theorem load_lt_allLoad (all : s.nvmState.isAll) : s.load config < allLoad config := by
  have bound := workLeft_le config (s.admin s.currBlockIndex)
  have rounds : (config.numOfNvramBlocks - s.currBlockIndex) * roundLoad config ≤
      config.numOfNvramBlocks * roundLoad config :=
    mul_le_mul_right _ (sub_le _ _)
  rw [load_all all, allLoad, succ_mul]
  have small : roundLoad config = config.maxNumberOfWriteRetries + 8 := rfl
  split <;> omega

/-- A bound for the calls until a request for all blocks has its final status, if no request is
queued before it starts. -/
def State.multiRank (config : Config) (s : State) : Nat :=
  if s.nvmState.isAll then s.load config
  else allLoad config + s.queue.length * roundLoad config + s.load config

theorem Sound.multi_approaches (sound : Sound config s) (sound' : Sound config s')
    (stepped : Stepped config call s s') (pending : s.multiErrorStatus = .pending)
    (alone : s.nvmState.isAll ∨ call.queues = false) :
    Approaches config call s s' (s'.multiErrorStatus ≠ .pending) (s.multiRank config)
      (s'.multiRank config) := by
  have not_all (idle : s.nvmState = .idle) : ¬ s.nvmState.isAll = true := by
    rw [idle]
    nofun
  refine stepped.approaches sound sound' (fun answers moves => ?_) fun passive queue => ?_
  · cases moves with
    | rests idle _ none_waits => exact absurd pending (sound.accounted.none_multi idle none_waits)
    | takes idle queue queue' load single =>
      refine .inr (.inl ?_)
      unfold State.multiRank
      rw [if_neg (not_all idle), single, queue, queue', length_cons, succ_mul]
      simp only [Bool.false_eq_true, if_false]
      omega
    | starts idle _ outcome =>
      refine outcome.symm.imp id fun all' => .inl ?_
      have less : s'.load config < allLoad config := load_lt_allLoad all'
      unfold State.multiRank
      rw [if_neg (not_all idle), if_pos all']
      omega
    | proceeds _ queue outcome load =>
      refine outcome.symm.imp id fun same => .inl ?_
      unfold State.multiRank
      rw [same, queue]
      split
      · exact load
      · exact Nat.add_lt_add_left load _
    | stalls _ queue state load waits =>
      refine .inr (.inr ⟨?_, waits⟩)
      unfold State.multiRank
      rw [state, queue, load]
  · unfold State.multiRank
    rw [passive.nvmState, passive.load]
    split
    · exact le_rfl
    next single => exact le_of_eq (by rw [queue (alone.resolve_left single)])

theorem init_sound (config : Config) (ram workBuffer : Memory) (nv : Nat → Option Memory) :
    Sound config (init config ram workBuffer nv) where
  orderly := init_orderly config ram workBuffer nv
  accounted := ⟨rfl, nofun, nofun, nofun, nofun, nofun⟩

end

/-! ## Endless runs -/

/-- The memory interface takes every job in the end, every job ends, and the main function is
called again and again. -/
def FairRun (calls : Nat → Call) (states : Nat → State) : Prop :=
  Progress.Fair (fun n => (states n).memIf.job ≠ none) (fun n => (calls n).answers.isSome = true)
    (fun n block => Requests config (states n) block)
    (fun n block => ∃ answers ∈ (calls n).answers, answers block = .accepted)

/-- A request for all blocks is not kept from its start: it has started, the main function finds
the queue empty when it has nothing to do, or no more requests are queued. -/
def Lull (calls : Nat → Call) (states : Nat → State) (n : Nat) : Prop :=
  (states n).nvmState.isAll = true ∨
  (∃ k ≥ n, (calls k).answers.isSome = true ∧ (states k).nvmState = .idle ∧ (states k).queue = []) ∨
  ∃ k, ∀ m ≥ k, (calls m).queues = false

section

variable {config : Config} {calls : Nat → Call} {states : Nat → State}
variable (sound : ∀ n, Sound config (states n))
variable (stepped : ∀ n, Stepped config (calls n) (states n) (states (n + 1)))
variable (fair : FairRun config calls states)
include sound stepped fair

variable {start : Nat}

omit sound stepped in
private theorem eventually_reached {status : Nat → RequestResult} (rank : State → Nat)
    (approaches : ∀ n ≥ start, status n = .pending → Approaches config (calls n) (states n)
      (states (n + 1)) (status (n + 1) ≠ .pending) (rank (states n)) (rank (states (n + 1)))) :
    ∃ m ≥ start, status m ≠ .pending := by
  apply Progress.Fair.eventually fair (fun n => rank (states n))
  · intro n later waits waits'
    exact (approaches n later (not_not.mp waits)).shrinks.resolve_left waits'
  · intro n later waits free
    refine ((approaches n later (not_not.mp waits)).moves (not_not.mp free)).imp_right fun moved => ?_
    exact moved.imp_right fun ⟨free', asks⟩ => ⟨not_not.mpr free', asks⟩
  · intro n later key waits asks
    exact (approaches n later (not_not.mp waits)).asking key asks

theorem block_eventually (block start : Nat) :
    ∃ m ≥ start, ((states m).admin block).errorStatus ≠ .pending :=
  eventually_reached fair (State.blockRank config block) fun n _ =>
    (sound n).block_approaches (sound (n + 1)) (stepped n)

theorem multi_eventually (start : Nat)
    (alone : ∀ m ≥ start, (states m).nvmState.isAll ∨ (calls m).queues = false) :
    ∃ m ≥ start, (states m).multiErrorStatus ≠ .pending :=
  eventually_reached fair (State.multiRank config) fun n later pending =>
    (sound n).multi_approaches (sound (n + 1)) (stepped n) pending (alone n later)

theorem all_eventually (all : (states start).nvmState.isAll) :
    ∃ m ≥ start, (states m).multiErrorStatus ≠ .pending := by
  by_contra never
  have pending (m : Nat) (later : start ≤ m) : (states m).multiErrorStatus = .pending :=
    not_not.mp fun final => never ⟨m, later, final⟩
  refine never (multi_eventually sound stepped fair start fun m later => .inl ?_)
  induction m, later using le_induction with
  | base => exact all
  | succ m later ih =>
    have busy : (states m).nvmState ≠ .idle := by
      intro idle
      rw [idle] at ih
      cases ih
    cases stepped m with
    | main answers _ moves =>
      cases moves with
      | rests idle | takes idle | starts idle => exact absurd idle busy
      | proceeds _ _ outcome =>
        rcases outcome with same | final
        · rw [same, ih]
        · exact absurd (pending (m + 1) (le_succ_of_le later)) final
      | stalls _ _ state => rw [state, ih]
    | other _ passive => rw [passive.nvmState, ih]

theorem lull_eventually (lull : Lull calls states start) :
    ∃ m ≥ start, (states m).multiErrorStatus ≠ .pending := by
  rcases lull with all | ⟨k, later, called, idle, empty⟩ | ⟨k, quiet⟩
  · exact all_eventually sound stepped fair all
  · by_cases final : (states k).multiErrorStatus = .pending
    · cases stepped k with
      | other waits =>
        rw [waits] at called
        cases called
      | main answers _ moves =>
        cases moves with
        | proceeds busy | stalls busy => exact absurd idle busy
        | takes _ queue =>
          rw [empty] at queue
          cases queue
        | rests _ _ none_waits =>
          exact absurd final ((sound k).accounted.none_multi idle none_waits)
        | starts _ _ outcome =>
          rcases outcome with all | ended
          · obtain ⟨m, after, ended⟩ := all_eventually sound stepped fair all
            exact ⟨m, by omega, ended⟩
          · exact ⟨k + 1, by omega, ended⟩
    · exact ⟨k, later, final⟩
  · obtain ⟨m, after, ended⟩ := multi_eventually sound stepped fair (max start k)
      fun m later => .inr (quiet m (by omega))
    exact ⟨m, by omega, ended⟩

end

/-- Requests come to an end. When the manager has nothing to do, no request is pending; and in a
fair run every block has its final status in the end, and so has a request for all blocks that is
not kept from its start. -/
theorem requests_complete {config : Config} (paired : Paired config) (ram workBuffer : Memory)
    (nv : Nat → Option Memory) (calls : Nat → Call) :
    let states := Progress.trace (fun s call => (step config s call).1)
      (init config ram workBuffer nv) calls
    (∀ n, (∀ m < n, Completable config (states m) (calls m)) →
      (states n).nvmState = .idle → (states n).queue = [] →
      (states n).multiReqState = .uninitialized →
      (states n).multiErrorStatus ≠ .pending ∧
        ∀ block, ((states n).admin block).errorStatus ≠ .pending) ∧
    ((∀ n, Completable config (states n) (calls n)) → FairRun config calls states →
      (∀ n block, ∃ m ≥ n, ((states m).admin block).errorStatus ≠ .pending) ∧
        ∀ n, Lull calls states n → ∃ m ≥ n, (states m).multiErrorStatus ≠ .pending) := by
  intro states
  have kept (n : Nat) (meets : ∀ m < n, Completable config (states m) (calls m)) :
      Sound config (states n) :=
    Progress.trace_invariant
      (fun _ _ sound (completable : Completable config _ _) =>
        (sound.stepped paired completable).1)
      (init_sound config ram workBuffer nv) n meets
  constructor
  · intro n meets idle empty none_waits
    have accounted := (kept n meets).accounted
    exact ⟨accounted.none_multi idle none_waits, accounted.none_pending idle empty⟩
  · intro completable fair
    have sound (n : Nat) : Sound config (states n) := kept n fun m _ => completable m
    have stepped (n : Nat) : Stepped config (calls n) (states n) (states (n + 1)) :=
      ((sound n).stepped paired (completable n)).2
    exact ⟨fun n block => block_eventually sound stepped fair block n,
      fun n lull => lull_eventually sound stepped fair lull⟩

/-! ## A fair run -/

/-- A first call; then the main function and the memory interface take turns. -/
def turns (first : Call) : Nat → Call
  | 0 => first
  | n + 1 => if n % 2 = 0 then .mainFunction fun _ => .accepted else .jobEnd .ok fun _ => 0

def turnStates (config : Config) (s : State) (first : Call) : Nat → State :=
  Progress.trace (fun s call => (step config s call).1) s (turns first)

/-- Nothing is left to do. -/
def Rests (s : State) : Prop :=
  s.asserted = false ∧ s.nvmState = .idle ∧ s.queue = [] ∧ s.multiReqState = .uninitialized ∧
    s.memIf.job = none ∧ s.events = []
  deriving Decidable

section

variable {config : Config} {s : State} {first : Call} (rests : Rests (turnStates config s first 5))
include rests

theorem turnStates_settled (n : Nat) :
    turnStates config s first (n + 5) = turnStates config s first 5 := by
  induction n with
  | zero => rfl
  | succ n ih =>
    have next : turnStates config s first (n + 1 + 5) =
        (step config (turnStates config s first (n + 5)) (turns first (n + 5))).1 := rfl
    rw [next, ih]
    generalize turnStates config s first 5 = t at rests
    obtain ⟨alive, idle, empty, none_waits, free, none_yet⟩ := rests
    have cleared : { t with events := [] } = t := by rw [← none_yet]
    rw [step, if_neg (by rw [alive]; simp), cleared, turns]
    split
    · simp [perform, mainFunction, takeRequest, process, idle, empty, none_waits]
    · simp [perform, jobEnd, free]

theorem turns_meet (condition : State → Call → Prop)
    (early : ∀ m < 7, condition (turnStates config s first m) (turns first m)) (n : Nat) :
    condition (turnStates config s first n) (turns first n) := by
  by_cases late : 5 ≤ n
  · obtain ⟨k, rfl⟩ := Nat.exists_eq_add_of_le' late
    have fifth := early 5 (by decide)
    have sixth := early 6 (by decide)
    rw [turnStates_settled rests 1] at sixth
    rw [turnStates_settled rests]
    rcases mod_two_eq_zero_or_one k with even | odd
    · rwa [show turns first (k + 5) = turns first 5 by simp [turns, add_mod, even]]
    · rwa [show turns first (k + 5) = turns first 6 by simp [turns, add_mod, odd]]
  · exact early n (by omega)

theorem turnStates_fair : FairRun config (turns first) (turnStates config s first) where
  unblocked n := by
    refine ⟨n + 5, le_add_right n 5, ?_⟩
    rw [turnStates_settled rests]
    exact not_not.mpr rests.2.2.2.2.1
  acts_again n := by
    refine ⟨2 * n + 1, by omega, ?_⟩
    simp [turns, Call.answers]
  granted n block asks := by
    have requests := asks (n + 5) (le_add_right n 5)
    rw [turnStates_settled rests] at requests
    exact absurd rests.2.1 requests.busy

end

theorem plainConfig_paired : Paired plainConfig := by
  intro block redundant
  cases redundant

theorem requests_complete_turns :
    let states := turnStates plainConfig plainInit (.readBlock 1 none)
    (∀ n, Completable plainConfig (states n) (turns (.readBlock 1 none) n)) ∧
      FairRun plainConfig (turns (.readBlock 1 none)) states ∧
      ∀ n block, ∃ m ≥ n, ((states m).admin block).errorStatus ≠ .pending := by
  intro states
  have rests : Rests (states 5) := by decide +kernel
  have completable := turns_meet rests (Completable plainConfig) (by decide +kernel)
  have fair := turnStates_fair rests
  exact ⟨completable, fair, ((requests_complete plainConfig_paired _ _ _ _).2 completable fair).1⟩

/-- A redundant block without default data. -/
def barePair : Config :=
  { plainConfig with
    numOfNvramBlocks := 1
    block := fun _ =>
      { plainBlock 0 1 with
        blockManagementType := .redundant
        nvBlockNum := 2
        romBlockDataAddress := none } }

/-- A read of the block whose job fails. -/
def failedRead : List Call :=
  [.readBlock 0 none, .mainFunction fun _ => .accepted, .jobEnd .failed fun _ => 0,
    .mainFunction fun _ => .accepted]

/-- After two reads with a failed job the manager has nothing to do, but the block is pending. -/
theorem block_stays_pending :
    let s := (Machine.run (step barePair)
      (init barePair (fun _ => 0) (fun _ => 0) fun _ => some fun _ => 0x55)
      (failedRead ++ failedRead)).1
    s.asserted = false ∧ s.nvmState = .idle ∧ s.queue = [] ∧ s.multiReqState = .uninitialized ∧
      s.memIf.job = none ∧ (s.admin 0).errorStatus = .pending := by
  decide +kernel

end NvM
