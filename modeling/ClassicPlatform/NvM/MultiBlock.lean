import ClassicPlatform.NvM.Watching

/-!
# Requests for all blocks beside requests of single blocks

While a request for all blocks is processed, requests of single blocks can be queued. The request
for all blocks must process the blocks that it selected and no others, and the queued requests
follow one after the other, each once, in its own direction and with its own buffer. The manager
notes both in one field: the status of a block tells whether the block was selected, and whether
a request of its own is queued. A service that is called for a block which was skipped and has
yet to be passed makes it look selected.
-/
namespace NvM

open List Machine NvmState Option Underway
open ByteLanes (Memory)

/-! ## What is asked for -/

/-- What has been accepted and is not over: the requests of single blocks in their order, the
request for all blocks with the blocks still to be processed, and whether the request that is
processed now has been carried out: the memory interface has taken a job for it, or the default
data has been restored. -/
structure Board where
  waiting : List QueueEntry
  running : Option (NvmState × List Nat)
  issued : Bool
  deriving DecidableEq

def Board.empty : Board := ⟨[], none, false⟩

/-- The request that is to be processed now. -/
def Board.current (seen : Board) : Option QueueEntry :=
  match seen.running with
  | some (service, blocks) =>
    blocks.head?.map fun block => { op := service, block, dataPtr := none }
  | none => seen.waiting.head?

/-- The writes that are queued behind it. -/
def Board.guarded (seen : Board) : List QueueEntry :=
  (if seen.running.isSome then seen.waiting else seen.waiting.tail).filter
    fun entry => entry.op = .writeBlock

variable (config : Config) (s : State)

/-- The RAM that a request works on. -/
def QueueEntry.buffer (entry : QueueEntry) : Option Int :=
  ramData config entry.block entry.dataPtr

/-- A copy of `count` bytes to `buffer` leaves the RAM of a request alone. -/
def Spares (buffer : Int) (count : Nat) (entry : QueueEntry) : Prop :=
  ∀ source ∈ entry.buffer config,
    buffer + count ≤ source ∨ source + (config.block entry.block).nvBlockLength ≤ buffer
  deriving Decidable

def Board.finish (seen : Board) : Board :=
  match seen.running with
  | some (service, blocks) => ⟨seen.waiting, some (service, blocks.tail), false⟩
  | none => ⟨seen.waiting.tail, none, false⟩

/-- The order in which things may happen. Only the request that is due is processed, with its own
service, block and buffer, and it has been carried out if it succeeds; a request for all blocks
starts when nothing waits and ends when all its blocks are processed; and a copy to the RAM leaves
the data of queued writes alone. -/
def board (seen : Board) : Event → Option Board
  | .accepted entry =>
    some (if entry.op.isSingle then { seen with waiting := seen.waiting ++ [entry] } else seen)
  | .multiStarted service blocks =>
    if seen.running = none ∧ seen.waiting = [] then
      some { seen with running := some (service, blocks), issued := false }
    else none
  | .multiFinished service _ =>
    if seen.running = some (service, []) then some { seen with running := none } else none
  | .memIfRead service block _ buffer _ =>
    if ∃ entry ∈ seen.current, entry.op = service ∧ entry.block = block ∧
        service.isRead = true ∧ entry.buffer config = buffer then some { seen with issued := true }
    else none
  | .memIfWrite service block _ buffer _ =>
    if ∃ entry ∈ seen.current, entry.op = service ∧ entry.block = block ∧
        service.isWrite = true ∧ entry.buffer config = some buffer then
      some { seen with issued := true }
    else none
  | .outcome service block _ =>
    if ∃ entry ∈ seen.current, entry.op = service ∧ entry.block = block then some seen else none
  | .copied service block buffer data =>
    if (∃ entry ∈ seen.current, entry.op = service ∧ entry.block = block ∧
        service.isWrite = false ∧ entry.buffer config = some buffer) ∧
        ∀ entry ∈ seen.guarded, Spares config buffer data.length entry then
      some { seen with issued := seen.issued || decide (service = .restoreBlockDefaults) }
    else none
  | .finished service block status =>
    if (∃ entry ∈ seen.current, entry.op = service ∧ entry.block = block) ∧
        (status = .ok → seen.issued = true) then some seen.finish
    else none

/-! ## The condition -/

/-- The request that is being processed by `DriveBlock`, between two calls. -/
def State.driven : Option QueueEntry :=
  if s.nvmState.isSingle then some s.qEntry
  else if s.nvmState.isAll ∧ s.currBlockIndex < config.numOfNvramBlocks ∧
      (s.admin s.currBlockIndex).errorStatus = .pending then
    some { op := s.nvmState, block := s.currBlockIndex, dataPtr := none }
  else none

/-- The request that a call of the main function goes on with, or takes from the queue. -/
def State.due : Option QueueEntry :=
  if s.nvmState = .idle then s.queue.head?.filter fun entry => entry.op.isSingle
  else s.driven config

/-- The requests that are queued behind it. -/
def State.behind : List QueueEntry :=
  if s.nvmState = .idle then s.queue.tail else s.queue

/-- A read does not start in the state that a failed read has left, and what is read or restored
goes to other RAM than that of queued writes. -/
def Apart (entry : QueueEntry) : Prop :=
  (s.nvmState = .idle → entry.op = .readBlock →
    (s.admin entry.block).blockState ≠ .memifProcess) ∧
  (entry.op.isWrite = false → ∀ buffer ∈ entry.buffer config, ∀ later ∈ s.behind,
    later.op = .writeBlock → Spares config buffer (config.block entry.block).nvBlockLength later)
  deriving Decidable

/-- No service is called for a block that a request for all blocks has skipped and has yet to
pass, default data is restored where there is any, and the request that is processed is apart from
the others. -/
def Separate (call : Call) : Prop :=
  Undisturbed config s call ∧
    (∀ block ∈ call.restored, (config.block block).romBlockDataAddress.isSome = true) ∧
    ∀ _ ∈ call.answers, ∀ entry ∈ s.due config, Apart config s entry
  deriving Decidable

/-! ## One call of DriveBlock -/

/-- How far the request in progress is: a job has been taken, and a checksum is calculated over
the RAM of the request. -/
def Progress (entry : QueueEntry) (adm : AdministrativeBlock) (issued : Bool) : Prop :=
  (adm.blockState = .memifProcess ∨ adm.blockState = .calcCrcRead → issued = true) ∧
    (adm.blockState = .calcCrcRead → adm.savedDataPtr = entry.buffer config)

variable {adm : AdministrativeBlock}

variable {issued : Bool}

theorem Progress.of_start {config : Config} {entry : QueueEntry}
    (state : adm.blockState = .memifReq ∨ adm.blockState = .calcCrcWrite) :
    Progress config entry adm issued := by
  constructor
  · rintro (process | read)
    · rcases state with state | state <;> rw [state] at process <;> cases process
    · rcases state with state | state <;> rw [state] at read <;> cases read
  · intro read
    rcases state with state | state <;> rw [state] at read <;> cases read

section

variable {config : Config} {entry : QueueEntry} {seen : Board} {buffer : Int} {data : List Byte}

section

variable (due : seen.current = some entry)
include due

theorem board_outcome (good : Bool) :
    board config seen (.outcome entry.op entry.block good) = some seen := by
  simp [board, due]

theorem board_read (read : entry.op.isRead) (set : Nat) (contents : Option (List Byte)) :
    board config seen (.memIfRead entry.op entry.block set (entry.buffer config) contents) =
      some { seen with issued := true } := by
  simp [board, due, read]

theorem board_written (write : entry.op.isWrite)
    (aimed : entry.buffer config = some buffer) (set : Nat) :
    board config seen (.memIfWrite entry.op entry.block set buffer data) =
      some { seen with issued := true } := by
  simp [board, due, write, aimed]

theorem board_copied (read : entry.op.isRead) (aimed : entry.buffer config = some buffer)
    (spares : ∀ later ∈ seen.guarded, Spares config buffer data.length later) :
    board config seen (.copied entry.op entry.block buffer data) = some seen := by
  have not_write : entry.op.isWrite = false := by
    cases op : entry.op <;> simp_all [isRead, isWrite]
  have not_restore : entry.op ≠ .restoreBlockDefaults := by
    intro restore
    rw [restore] at read
    cases read
  simp only [board, due, mem_some_iff, exists_eq_left', not_write, aimed, true_and]
  rw [if_pos spares, decide_eq_false not_restore, Bool.or_false]

theorem board_restored
    (restore : entry.op = .restoreBlockDefaults) (aimed : entry.buffer config = some buffer)
    (spares : ∀ later ∈ seen.guarded, Spares config buffer data.length later) :
    board config seen (.copied entry.op entry.block buffer data) =
      some { seen with issued := true } := by
  have not_write : entry.op.isWrite = false := by rw [restore]; rfl
  simp only [board, due, mem_some_iff, exists_eq_left', not_write, aimed, true_and]
  rw [if_pos spares, decide_eq_true restore, Bool.or_true]

theorem board_finished {status : RequestResult} (carried : status = .ok → seen.issued) :
    board config seen (.finished entry.op entry.block status) = some seen.finish := by
  simp only [board, due, mem_some_iff, exists_eq_left', true_and]
  exact if_pos carried

end

variable {x y : Context} {drive : Drive} {answer : Answer}

/-- There is default data to restore. -/
def QueueEntry.Restorable (config : Config) (entry : QueueEntry) : Prop :=
  entry.op = .restoreBlockDefaults → (config.block entry.block).romBlockDataAddress.isSome = true

/-- What the assertions of `DriveBlock` need for a request. -/
structure Drivable (config : Config) (entry : QueueEntry) (memIf : MemIf) : Prop where
  paired : (config.block entry.block).blockManagementType = .redundant →
    (config.block entry.block).nvBlockNum = 2
  rom : entry.Restorable config
  lacks : entry.op.isAll = true → entry.dataPtr = none
  consistent : memIf.Consistent
  canceled : memIf.result ≠ .canceled

theorem Drivable.faultless (drivable : Drivable config entry x.memIf)
    (underway : Underway config x.memIf x.workBuffer entry.op entry.block entry.dataPtr x.adm ∨
      Stale config x.memIf entry.op entry.block entry.dataPtr x.adm) :
    ¬ Faulty config entry.params x := by
  have buffer : ramData config entry.block entry.dataPtr ≠ none :=
    underway.elim buffer Stale.buffer
  have fresh (other : x.adm.blockState ≠ .memifProcess) :
      Underway config x.memIf x.workBuffer entry.op entry.block entry.dataPtr x.adm :=
    underway.resolve_right fun stale => other stale.state
  have not_unpaired : ¬ Unpaired config entry.params x :=
    fun ⟨redundant, _, copies⟩ => copies (drivable.paired redundant)
  intro faulty
  unfold Faulty at faulty
  split at faulty
  next state =>
    split at faulty
    · rcases faulty with clash | null
      · simp only [paramsOf, Bool.and_eq_true] at clash
        rw [drivable.lacks clash.1] at clash
        cases clash.2
      · exact buffer null
    · obtain ⟨restore, default | null⟩ := faulty
      · have some_rom := drivable.rom (of_decide_eq_true restore)
        exact absurd default (isSome_iff_ne_none.mp some_rom)
      · exact buffer null
  next state =>
    rcases faulty with ⟨read, -, null⟩ | halted | ⟨-, unpaired⟩
    · exact (of_process_read underway state read).2.2 null
    · exact drivable.canceled halted
    · exact not_unpaired unpaired
  next state =>
    cases (fresh (by rw [state]; simp)).stage with
    | sums _ other | requests other | reading _ other | writing _ other
    | checking _ other => rw [state] at other; cases other
  next => exact buffer faulty
  next state =>
    obtain ⟨-, -, saved, checked, -⟩ := (fresh (by rw [state]; simp)).of_crcRead state
    rcases faulty with unchecked | null | unpaired
    · cases unchecked.symm.trans checked
    · exact saved null
    · exact not_unpaired unpaired

theorem not_canceled {result result' : JobResult} (canceled : result ≠ .canceled)
    (same : result' = result ∨ result' = .pending) : result' ≠ .canceled := by
  rcases same with rfl | rfl
  · exact canceled
  · nofun

/-- What a call of `DriveBlock` does to the board. -/
structure Advances (config : Config) (entry : QueueEntry) (seen : Board) (x y : Context)
    (drive : Drive) (new : List Event) (issued : Bool) : Prop where
  events : y.events = x.events ++ new
  watched : watch (board config) seen new = some { seen with issued }
  asserted : y.asserted = x.asserted
  result : y.memIf.result = x.memIf.result ∨ y.memIf.result = .pending
  goes_on : drive = .more → Progress config entry y.adm issued
  carried : drive = .done → y.adm.errorStatus = .ok → issued = true
  ends : drive ≠ .aborted

section

variable {new : List Event} {issued : Bool} (events : y.events = x.events ++ new)
  (watched : watch (board config) seen new = some { seen with issued })
  (asserted : y.asserted = x.asserted)
  (result : y.memIf.result = x.memIf.result ∨ y.memIf.result = .pending)
include events watched asserted result

private theorem Advances.more (progress : Progress config entry y.adm issued) :
    Advances config entry seen x y .more new issued :=
  ⟨events, watched, asserted, result, fun _ => progress, nofun, nofun⟩

private theorem Advances.done (carried : y.adm.errorStatus = .ok → issued) :
    Advances config entry seen x y .done new issued :=
  ⟨events, watched, asserted, result, nofun, fun _ => carried, nofun⟩

end

theorem Drives.advances (drivable : Drivable config entry x.memIf)
    (drives : entry.op.isAll ∨ entry.op.isSingle)
    (underway : Underway config x.memIf x.workBuffer entry.op entry.block entry.dataPtr x.adm)
    (due : seen.current = some entry) (progress : Progress config entry x.adm seen.issued)
    (spares : entry.op.isWrite = false →
      (x.adm.blockState = .memifReq → entry.op = .restoreBlockDefaults) →
      ∀ buffer ∈ entry.buffer config, ∀ later ∈ seen.guarded,
        Spares config buffer (config.block entry.block).nvBlockLength later)
    (driven : Drives config entry.params answer x y drive) :
    ∃ new issued, Advances config entry seen x y drive new issued := by
  -- the events do not change the board
  have same {new : List Event} (skips : ∀ event ∈ new, board config seen event = some seen) :
      watch (board config) seen new = some { seen with issued := seen.issued } :=
    watch_skip skips
  have same_two {first second : Event} (skip : board config seen first = some seen)
      (skip' : board config seen second = some seen) :
      watch (board config) seen [first, second] = some { seen with issued := seen.issued } :=
    same (forall_mem_cons.mpr ⟨skip, forall_mem_singleton.mpr skip'⟩)
  have outcome (good : Bool) := same (forall_mem_singleton.mpr (board_outcome due good))
  have copied {buffer : Int} (source : Memory) (read : entry.op.isRead = true)
      (state : x.adm.blockState = .memifProcess ∨ x.adm.blockState = .calcCrcRead)
      (aimed : entry.buffer config = some buffer) :
      board config seen (.copied entry.op entry.block buffer
        (Buffer.bytes source 0 (config.block entry.block).nvBlockLength)) = some seen := by
    apply board_copied due read aimed
    rw [Buffer.length_bytes]
    have not_write : entry.op.isWrite = false := by
      cases op : entry.op <;> simp_all [isRead, isWrite]
    refine spares not_write (fun request => ?_) buffer aimed
    rcases state with state | state <;> cases state.symm.trans request
  have none_new {events : List Event} : events = events ++ [] := (append_nil _).symm
  have two_new {events : List Event} {first second : Event} :
      events ++ [first] ++ [second] = events ++ [first, second] := append_assoc ..
  cases driven with
  | halted faulty => exact absurd faulty (drivable.faultless (.inl underway))
  | waits state =>
    exact ⟨[], seen.issued, .more none_new rfl rfl (.inl rfl) (.of_start (.inl state))⟩
  | refused state =>
    exact ⟨[], seen.issued, .done none_new rfl rfl (.inl rfl) fun other => by cases other⟩
  | writes state write aimed =>
    refine ⟨[_], true, .more rfl ?_ rfl (.inr rfl) ⟨fun _ => rfl, fun other => by cases other⟩⟩
    exact (congrArg (Option.bind · _) (board_written due write aimed _)).trans rfl
  | reads state write restore =>
    refine ⟨[_], true, .more rfl ?_ rfl (.inr rfl) ⟨fun _ => rfl, fun other => by cases other⟩⟩
    have read := isRead_of drives write (of_decide_eq_false restore)
    exact (congrArg (Option.bind · _) (board_read due read _ _)).trans rfl
  | @restores buffer rom' state write restore aimed =>
    refine ⟨[_], true, .done rfl ?_ rfl (.inl rfl) fun _ => rfl⟩
    have restore : entry.op = .restoreBlockDefaults := of_decide_eq_true restore
    refine (congrArg (Option.bind · _) (board_restored due restore aimed ?_)).trans rfl
    rw [Buffer.length_bytes]
    exact spares write (fun _ => restore) buffer aimed
  | aborts _ null => exact absurd null underway.buffer
  | pends state => exact ⟨[], seen.issued, .more none_new rfl rfl (.inl rfl) progress⟩
  | written state =>
    exact ⟨[_], seen.issued, .done rfl (outcome true) rfl (.inl rfl) fun _ => progress.1 (.inl state)⟩
  | delivers state write ok saved =>
    have read := (of_process_read (.inl underway) state write).1
    have aimed := (underway.contents drivable.consistent state write ok).1.symm.trans saved
    exact ⟨_, seen.issued, .done two_new (same_two (copied _ read (.inl state) aimed)
      (board_outcome due true)) rfl (.inl rfl) fun _ => progress.1 (.inl state)⟩
  | checks state write ok saved =>
    have read := (of_process_read (.inl underway) state write).1
    have own := (underway.contents drivable.consistent state write ok).1
    refine ⟨[_], seen.issued, .more rfl (same (forall_mem_singleton.mpr ?_)) rfl (.inl rfl)
      ⟨fun _ => progress.1 (.inl state), fun _ => own⟩⟩
    exact copied _ read (.inl state) (own.symm.trans saved)
  | counts state =>
    exact ⟨[_], seen.issued, .more rfl (outcome false) rfl (.inl rfl)
      ⟨fun _ => progress.1 (.inl state), fun crc => by cases state.symm.trans crc⟩⟩
  | switches state | initializes state | fails state =>
    exact ⟨[_], seen.issued, .done rfl (outcome false) rfl (.inl rfl) fun _ => progress.1 (.inl state)⟩
  | defaults state failure last write aimed =>
    have read := (of_process_read (.inl underway) state write).1
    exact ⟨_, seen.issued, .done two_new (same_two (board_outcome due false)
      (copied _ read (.inl state) aimed)) rfl (.inl rfl) fun _ => progress.1 (.inl state)⟩
  | sums state =>
    exact ⟨[], seen.issued, .more none_new rfl rfl (.inl rfl) (.of_start (.inl rfl))⟩
  | verifies state =>
    exact ⟨[_], seen.issued, .done rfl (outcome true) rfl (.inl rfl) fun _ => progress.1 (.inr state)⟩
  | crcSwitches state =>
    exact ⟨[_], seen.issued, .more rfl (outcome false) rfl (.inl rfl) (.of_start (.inl rfl))⟩
  | crcDefaults state sub saved =>
    have read := (underway.of_crcRead state).1
    have aimed := (progress.2 state).symm.trans saved
    refine ⟨_, seen.issued, .more two_new (same_two (board_outcome due false)
      (copied _ read (.inr state) aimed)) rfl (.inl rfl)
      ⟨fun _ => progress.1 (.inr state), fun _ => ?_⟩⟩
    exact (countCopy_fields entry.block x.adm).2.2.1.trans (progress.2 state)
  | crcInitializes state =>
    refine ⟨[_], seen.issued, .more rfl (outcome false) rfl (.inl rfl)
      ⟨fun _ => progress.1 (.inr state), fun _ => ?_⟩⟩
    exact (countCopy_fields entry.block x.adm).2.2.1.trans (progress.2 state)
  | crcFails state =>
    exact ⟨[_], seen.issued, .done rfl (outcome false) rfl (.inl rfl) fun _ => progress.1 (.inr state)⟩
  | settles state =>
    exact ⟨[], seen.issued, .done none_new rfl rfl (.inl rfl) fun _ => progress.1 (.inr state)⟩

/-! ## The board of a state -/

variable {s : State}

/-- The requests of single blocks that are not over. -/
def State.singles (s : State) : List QueueEntry :=
  (if s.nvmState.isSingle then [s.qEntry] else []) ++ s.queue.filter fun entry => entry.op.isSingle

/-- The blocks that a request for all blocks has yet to process. -/
def remaining (config : Config) (admin : Nat → AdministrativeBlock) (curr : Nat) : List Nat :=
  (List.range' curr (config.numOfNvramBlocks - curr)).filter
    fun block => (admin block).errorStatus = .pending

/-- The board says what the state says. -/
structure Posted (config : Config) (s : State) (seen : Board) : Prop where
  waiting : seen.waiting = s.singles
  running : seen.running = if s.nvmState.isAll then
    some (s.nvmState, remaining config s.admin s.currBlockIndex) else none
  progress : ∀ entry ∈ s.driven config, Progress config entry (s.admin entry.block) seen.issued
  canceled : s.memIf.result ≠ .canceled
  rom : ∀ entry ∈ s.singles, entry.Restorable config

variable {admin : Nat → AdministrativeBlock} {curr : Nat}

theorem remaining_cons (inside : curr < config.numOfNvramBlocks) :
    remaining config admin curr =
      if (admin curr).errorStatus = .pending then curr :: remaining config admin (curr + 1)
      else remaining config admin (curr + 1) := by
  have count : config.numOfNvramBlocks - curr = config.numOfNvramBlocks - (curr + 1) + 1 := by
    omega
  unfold remaining
  rw [count, List.range'_succ, filter_cons]
  simp

theorem remaining_nil
    (passed : config.numOfNvramBlocks ≤ curr) : remaining config admin curr = [] := by
  rw [remaining, Nat.sub_eq_zero_of_le passed]
  rfl

theorem remaining_congr {admin' : Nat → AdministrativeBlock} (same : ∀ block, curr ≤ block →
      ((admin' block).errorStatus = .pending ↔ (admin block).errorStatus = .pending)) :
    remaining config admin' curr = remaining config admin curr := by
  refine filter_congr fun block member => ?_
  rw [decide_eq_decide]
  exact same block (mem_range'_1.mp member).1

theorem driven_eq_some : s.driven config = some entry ↔
    s.nvmState.isSingle ∧ s.qEntry = entry ∨
      (s.nvmState.isAll ∧ s.currBlockIndex < config.numOfNvramBlocks ∧
        (s.admin s.currBlockIndex).errorStatus = .pending) ∧
        { op := s.nvmState, block := s.currBlockIndex, dataPtr := none } = entry := by
  unfold State.driven
  split
  next single => simp [single, isAll_of_single (.inl single)]
  next single =>
    split
    next here => simp [single, here]
    next elsewhere => simp [single, elsewhere]

theorem driven_single (single : s.nvmState.isSingle) : s.driven config = some s.qEntry := by
  simp [State.driven, single]

theorem driven_all (all : s.nvmState.isAll) (inside : s.currBlockIndex < config.numOfNvramBlocks)
    (pending : (s.admin s.currBlockIndex).errorStatus = .pending) :
    s.driven config = some { op := s.nvmState, block := s.currBlockIndex, dataPtr := none } := by
  simp [State.driven, isSingle_of_all all, all, inside, pending]

theorem singles_single (single : s.nvmState.isSingle) :
    s.singles = s.qEntry :: s.queue.filter fun entry => entry.op.isSingle := by
  simp [State.singles, single]

variable {block : Nat} {t : State} {service : NvmState}

theorem Beside.singles (beside : Beside block s t)
    (state : t.nvmState = s.nvmState) : t.singles = s.singles := by
  rw [State.singles, State.singles, state, beside.qEntry, beside.queue]

theorem Beside.driven (beside : Beside entry.block s t)
    (state : t.nvmState = s.nvmState) (driven : s.driven config = some entry)
    (pending : (t.admin entry.block).errorStatus = .pending) : t.driven config = some entry := by
  rw [driven_eq_some, state, beside.qEntry, beside.curr]
  refine (driven_eq_some.mp driven).imp_right fun ⟨⟨all, inside, _⟩, same⟩ => ?_
  subst same
  exact ⟨⟨all, inside, pending⟩, rfl⟩

theorem Posted.current (posted : Posted config s seen) (driven : s.driven config = some entry) :
    seen.current = some entry := by
  have running := posted.running
  rcases driven_eq_some.mp driven with ⟨single, rfl⟩ | ⟨⟨all, inside, pending⟩, rfl⟩
  · rw [isAll_of_single (.inl single)] at running
    have waiting := posted.waiting
    rw [singles_single single] at waiting
    simp only [Board.current, running, waiting]
    rfl
  · rw [if_pos all, remaining_cons inside, if_pos pending] at running
    simp only [Board.current, running]
    rfl

theorem NvmState.undriven (state : service = .idle ∨ service = .invalidateNvBlock) :
    service.isSingle = false ∧ service.isAll = false := by
  rcases state with rfl | rfl <;> exact ⟨rfl, rfl⟩

theorem driven_none (state : s.nvmState = .idle ∨ s.nvmState = .invalidateNvBlock) :
    s.driven config = none := by
  simp [State.driven, undriven state]

section

variable (single : s.nvmState.isSingle = false)
include single

theorem singles_other : s.singles = s.queue.filter fun entry => entry.op.isSingle := by
  simp [State.singles, single]

theorem singles_none (empty : s.queue = []) : s.singles = [] := by
  rw [singles_other single, empty]
  rfl

theorem singles_same (single' : t.nvmState.isSingle = false)
    (queue : t.queue = s.queue) : t.singles = s.singles := by
  rw [singles_other single, singles_other single', queue]

end

theorem Posted.resting (state : s.nvmState = .idle ∨ s.nvmState = .invalidateNvBlock)
    (waiting : seen.waiting = s.singles) (running : seen.running = none)
    (canceled : s.memIf.result ≠ .canceled)
    (rom : ∀ entry ∈ s.singles, entry.Restorable config) : Posted config s seen where
  waiting := waiting
  running := by rw [running, (undriven state).2]; rfl
  progress entry driven := by
    rw [driven_none state] at driven
    cases driven
  canceled := canceled
  rom := rom

theorem Posted.queued (posted : Posted config s seen) (driven : s.driven config = some entry)
    {later : QueueEntry} (member : later ∈ seen.guarded) :
    later ∈ s.queue ∧ later.op = .writeBlock := by
  have queue : (if seen.running.isSome then seen.waiting else seen.waiting.tail) =
      s.queue.filter fun entry => entry.op.isSingle := by
    rw [posted.running, posted.waiting]
    rcases driven_eq_some.mp driven with ⟨single, -⟩ | ⟨⟨all, -⟩, -⟩
    · rw [isAll_of_single (.inl single), singles_single single]
      rfl
    · rw [if_pos all, singles_other (isSingle_of_all all)]
      rfl
  rw [Board.guarded, queue, mem_filter, mem_filter] at member
  exact ⟨member.1.1, of_decide_eq_true member.2⟩

/-- Redundant blocks have two copies. -/
def Paired (config : Config) : Prop :=
  ∀ block, (config.block block).blockManagementType = .redundant →
    (config.block block).nvBlockNum = 2

variable {start : Board}

theorem Posted.drove (posted : Posted config s seen)
    (watched : watch (board config) start s.events = some seen)
    (driven : s.driven config = some entry) (drivable : Drivable config entry s.memIf)
    (drives : entry.op.isAll ∨ entry.op.isSingle)
    (underway : Underway config s.memIf s.workBuffer entry.op entry.block entry.dataPtr
      (s.admin entry.block))
    (spares : entry.op.isWrite = false →
      ((s.admin entry.block).blockState = .memifReq → entry.op = .restoreBlockDefaults) →
      ∀ buffer ∈ entry.buffer config, ∀ later ∈ s.queue, later.op = .writeBlock →
        Spares config buffer (config.block entry.block).nvBlockLength later) (answer : Answer) :
    let r := driveBlock config answer entry.params s
    r.1.asserted = s.asserted ∧ r.1.memIf.result ≠ .canceled ∧
      (r.2 = false → ∃ issued, watch (board config) start r.1.events = some { seen with issued } ∧
        Progress config entry (r.1.admin entry.block) issued) ∧
      (r.2 = true → watch (board config) start r.1.events = some seen.finish) := by
  have due := posted.current driven
  obtain ⟨y, drive, drove, eq⟩ := driveBlock_drives config answer entry.params underway.pending
  obtain ⟨-, -, -, -, -, -, memIf, -, -, asserted⟩ :=
    driveEnd_fields (p := entry.params) (s := s) y drive
  obtain ⟨new, issued, advances⟩ := drove.advances drivable drives underway due
    (posted.progress entry driven) fun read copies buffer aimed later member =>
      have queued := posted.queued driven member
      spares read copies buffer aimed later queued.1 queued.2
  have watched' : watch (board config) start y.events = some { seen with issued } := by
    rw [advances.events, watch_append]
    exact (congrArg (Option.bind · _) watched).trans advances.watched
  simp only [eq, memIf, asserted]
  refine ⟨advances.asserted, not_canceled posted.canceled advances.result, ?_⟩
  cases drive with
  | aborted => exact absurd rfl advances.ends
  | more =>
    obtain ⟨own, -, -, observed⟩ := driveEnd_more entry.params s y
    refine ⟨fun _ => ⟨issued, by rw [observed, watched'], ?_⟩, nofun⟩
    exact (congrArg (Progress config entry · issued) own).mpr (advances.goes_on rfl)
  | done =>
    obtain ⟨-, -, -, observed⟩ := driveEnd_done entry.params s y
    refine ⟨nofun, fun _ => ?_⟩
    have finished : board config { seen with issued }
        (.finished entry.op entry.block y.adm.errorStatus) = some seen.finish :=
      board_finished (show ({ seen with issued } : Board).current = _ from due)
        (advances.carried rfl)
    rw [observed, watch_append, watched', bind_some]
    exact (congrArg (Option.bind · _) finished).trans rfl

theorem Posted.goes_on (posted : Posted config s seen)
    (driven : s.driven config = some entry) (beside : Beside entry.block s t)
    (state : t.nvmState = s.nvmState) (pending : (s.admin entry.block).errorStatus = .pending)
    (pending' : (t.admin entry.block).errorStatus = .pending)
    (canceled : t.memIf.result ≠ .canceled)
    (progress : Progress config entry (t.admin entry.block) issued) :
    Posted config t { seen with issued } := by
  have singles : t.singles = s.singles := beside.singles state
  have selected : remaining config t.admin s.currBlockIndex =
      remaining config s.admin s.currBlockIndex := by
    refine remaining_congr fun block _ => ?_
    by_cases here : block = entry.block
    · rw [here]
      exact iff_of_true pending' pending
    · rw [beside.same block here]
  refine ⟨posted.waiting.trans singles.symm, ?_, fun other driven' => ?_, canceled,
    singles ▸ posted.rom⟩
  · rw [beside.curr, selected, state]
    exact posted.running
  · rw [beside.driven state driven pending'] at driven'
    cases driven'
    exact progress

/-! ## The main function -/

theorem restores_single (all : service.isAll) : service ≠ .restoreBlockDefaults := by
  rintro rfl
  cases all

theorem Drivable.of_single (paired : Paired config) (single : s.nvmState.isSingle)
    (op : s.qEntry.op = s.nvmState) (consistent : s.memIf.Consistent)
    (canceled : s.memIf.result ≠ .canceled)
    (rom : ∀ entry ∈ s.singles, entry.Restorable config) :
    Drivable config s.qEntry s.memIf := by
  refine ⟨paired _, rom s.qEntry ?_, fun all => ?_, consistent, canceled⟩
  · exact singles_single single ▸ mem_cons_self
  · rw [op, isAll_of_single (.inl single)] at all
    cases all

theorem Posted.single (paired : Paired config) (alive : s.asserted = false)
    (consistent : s.memIf.Consistent) (posted : Posted config s seen)
    (watched : watch (board config) start s.events = some seen)
    (single : s.nvmState.isSingle) (op : s.qEntry.op = s.nvmState)
    (underway : s.EntryUnderway config)
    (spares : s.qEntry.op.isWrite = false → ∀ buffer ∈ s.qEntry.buffer config,
      ∀ later ∈ s.queue, later.op = .writeBlock →
        Spares config buffer (config.block s.qEntry.block).nvBlockLength later) (answer : Answer) :
    let s' := (driveBlock config answer s.params s).1
    s'.asserted = false ∧
      ∃ next, watch (board config) start s'.events = some next ∧ Posted config s' next := by
  intro s'
  have all := isAll_of_single (.inl single)
  have listed := singles_single single
  have drove := posted.drove watched (driven_single single)
    (.of_single paired single op consistent posted.canceled posted.rom) (.inr (op ▸ single))
    (op ▸ underway) (fun read _ => spares read) answer
  rw [QueueEntry.params, op] at drove
  obtain ⟨asserted, canceled, goes_on, over_⟩ := drove
  have alive' : s'.asserted = false := asserted.trans alive
  refine ⟨alive', ?_⟩
  rcases driveBlock_kept (.inr single) consistent (.inl underway) answer with
    ⟨-, halted⟩ | ⟨beside, -, ⟨more, state, -, underway'⟩ | ⟨done, state, -⟩⟩
  · cases halted.symm.trans alive'
  · obtain ⟨issued, watched', progress⟩ := goes_on more
    exact ⟨_, watched', posted.goes_on (driven_single single) beside state underway.pending
      underway'.pending canceled progress⟩
  · rw [all] at state
    have idle : s'.nvmState = .idle := state
    have singles : s'.singles = s.queue.filter fun entry => entry.op.isSingle := by
      rw [singles_other (by rw [idle]; rfl), beside.queue]
    have finish : seen.finish = ⟨seen.waiting.tail, none, false⟩ := by
      rw [Board.finish, posted.running, all]
      rfl
    refine ⟨_, over_ done, .resting (.inl idle) ?_ (by rw [finish]) canceled fun entry member => ?_⟩
    · rw [finish, singles, posted.waiting, listed]
      rfl
    · rw [singles] at member
      exact posted.rom entry (listed ▸ mem_cons_of_mem _ member)

section

variable (all : s.nvmState.isAll)
include all

theorem Expects.starts
    (expects : Expects config s block) (pending : (s.admin block).errorStatus = .pending) :
    (s.admin block).blockState = .memifReq ∨ (s.admin block).blockState = .calcCrcWrite := by
  rcases expects with ⟨skipped, -⟩ | ready
  · cases skipped.symm.trans pending
  · exact ready.begins all

theorem Expects.driven
    (expects : s.currBlockIndex < config.numOfNvramBlocks → Expects config s s.currBlockIndex)
    (driven : s.driven config = some entry) : (s.admin entry.block).blockState = .memifReq ∨
      (s.admin entry.block).blockState = .calcCrcWrite := by
  rcases driven_eq_some.mp driven with ⟨single, -⟩ | ⟨⟨-, inside, pending⟩, rfl⟩
  · cases (isSingle_of_all all).symm.trans single
  · exact (expects inside).starts all pending

theorem Posted.arrives (waiting : seen.waiting = s.singles)
    (running : seen.running = some (s.nvmState, remaining config s.admin s.currBlockIndex))
    (expects : s.currBlockIndex < config.numOfNvramBlocks → Expects config s s.currBlockIndex)
    (canceled : s.memIf.result ≠ .canceled)
    (rom : ∀ entry ∈ s.singles, entry.Restorable config) : Posted config s seen where
  waiting := waiting
  running := by rw [if_pos all, running]
  progress entry driven := .of_start (Expects.driven all expects driven)
  canceled := canceled
  rom := rom

end

private theorem Ready.requests (all : service.isAll) (read : service.isWrite = false)
    (ready : Ready config service block none adm) : adm.blockState = .memifReq := by
  cases service with
  | readAll => exact ready.2.2.2
  | writeAll => cases read
  | _ => cases all

theorem Posted.all (paired : Paired config) (alive : s.asserted = false) (none_yet : s.events = [])
    (around : Surroundings config s) (passing : Passing config s) (posted : Posted config s seen)
    (spares : s.nvmState.isWrite = false → s.currBlockIndex < config.numOfNvramBlocks →
      (s.admin s.currBlockIndex).errorStatus = .pending →
      ∀ buffer ∈ ramData config s.currBlockIndex none, ∀ later ∈ s.queue, later.op = .writeBlock →
        Spares config buffer (config.block s.currBlockIndex).nvBlockLength later)
    (answers : Nat → Answer) :
    let s' := multiblockMain config answers s.nvmState.isWrite s
    ∃ next, watch (board config) seen s'.events = some next ∧ s'.asserted = false ∧
      Posted config s' next := by
  refine passing.rule
    (fun t => t.asserted = false ∧
      ∃ next, watch (board config) seen t.events = some next ∧ Posted config t next)
    (fun t => ∃ next, watch (board config) seen t.events = some next ∧
      t.asserted = false ∧ Posted config t next) around
    ⟨alive, seen, by rw [none_yet]; rfl, posted⟩ ?skip ?drives ?finish
  case skip =>
    rintro t ⟨-, passing', -, -⟩ ⟨alive', seen', watched, posted'⟩ inside skipped
    have running := posted'.running
    have not_selected : (t.admin t.currBlockIndex).errorStatus ≠ .pending := by
      rw [skipped]
      nofun
    rw [if_pos passing'.service, remaining_cons inside, if_neg not_selected] at running
    exact ⟨alive', seen', watched, .arrives passing'.service posted'.waiting running
      (passing'.ahead _ (Nat.lt_succ_self _)) posted'.canceled posted'.rom⟩
  case drives =>
    rintro t reaches ⟨alive', seen', watched, posted'⟩ inside underway r
    have passing' := reaches.passing
    have all := passing'.service
    have driven := driven_all all inside underway.pending
    obtain ⟨asserted, canceled, goes_on, over_⟩ := posted'.drove watched driven
      ⟨paired _, fun restore => absurd restore (restores_single all), fun _ => rfl,
        reaches.around.result, posted'.canceled⟩ (.inl all) underway (fun read copies => by
        rcases reaches.expects passing with rfl | expects
        · exact spares read inside underway.pending
        -- a block that the call has just come to is not copied to the RAM
        · rcases expects inside with ⟨skipped, -⟩ | ready
          · cases skipped.symm.trans underway.pending
          · exact absurd (copies (ready.requests all read)) (restores_single all))
      (answers t.currBlockIndex)
    have alive'' : r.1.asserted = false := asserted.trans alive'
    refine ⟨fun more kept => ?_, fun done beside state' => ?_⟩
    · obtain ⟨-, beside, state', pending⟩ :=
        kept.resolve_left fun halted => absurd (halted.symm.trans alive'') nofun
      obtain ⟨issued, watched', progress⟩ := goes_on more
      exact ⟨_, watched', alive'', posted'.goes_on driven beside state' underway.pending pending
        canceled progress⟩
    have all' : r.1.nvmState.isAll = true := state' ▸ all
    have singles : r.1.singles = t.singles := beside.singles state'
    have finish : seen'.finish = ⟨seen'.waiting, some (t.nvmState,
        remaining config t.admin (t.currBlockIndex + 1)), false⟩ := by
      rw [Board.finish, posted'.running, if_pos passing'.service, remaining_cons inside,
        if_pos underway.pending]
      rfl
    have selected : remaining config r.1.admin (t.currBlockIndex + 1) =
        remaining config t.admin (t.currBlockIndex + 1) :=
      remaining_congr fun block behind => by rw [beside.same block (ne_of_gt behind)]
    have expects (known) : Expects config r.1 (t.currBlockIndex + 1) :=
      passing'.expects beside state' (Nat.lt_succ_self _) known
    refine ⟨alive'', _, over_ done, .arrives all' ?_ ?_ expects canceled ?_⟩
    · rw [finish]
      exact posted'.waiting.trans singles.symm
    · rw [finish, selected, state']
    · change ∀ entry ∈ r.1.singles, _
      rw [singles]
      exact posted'.rom
  case finish =>
    rintro t ⟨-, passing', -, -⟩ ⟨alive', seen', watched, posted'⟩ passed
    have running := posted'.running
    rw [if_pos passing'.service, remaining_nil passed] at running
    have singles : (finishAll t).singles = t.singles :=
      singles_same (isSingle_of_all passing'.service) rfl rfl
    refine ⟨{ seen' with running := none }, ?_, alive',
      .resting (.inl rfl) (posted'.waiting.trans singles.symm) rfl posted'.canceled ?_⟩
    · rw [finishAll, watch_append, watched, bind_some]
      simp [board, running]
    · rw [singles]
      exact posted'.rom

private theorem Ready.starts (single : entry.op.isSingle)
    (ready : Ready config entry.op entry.block entry.dataPtr adm)
    (fresh : entry.op = .readBlock → adm.blockState ≠ .memifProcess) :
    Progress config entry adm issued := by
  rcases ready.state (.inr single) with ⟨request, -⟩ | sums | ⟨read, stale⟩
  · exact .of_start (.inl request)
  · exact .of_start (.inr sums)
  · exact absurd stale (fresh read)

variable {rest : List QueueEntry}

theorem popped_singles (idle : s.nvmState = .idle) (queue : s.queue = entry :: rest) :
    (s.popped entry rest).singles = s.singles := by
  rw [singles_other (s := s) (by rw [idle]; rfl), queue, filter_cons]
  unfold State.singles State.popped
  split <;> rfl

theorem Posted.popped (posted : Posted config s seen) (idle : s.nvmState = .idle)
    (queue : s.queue = entry :: rest) (op : entry.op.isSingle ∨ entry.op = .invalidateNvBlock)
    (starts : entry.op.isSingle → Progress config entry (s.admin entry.block) seen.issued) :
    Posted config (s.popped entry rest) seen := by
  have listed : (s.popped entry rest).singles = s.singles := popped_singles idle queue
  have all : (s.popped entry rest).nvmState.isAll = false := isAll_of_single op
  refine ⟨posted.waiting.trans listed.symm, ?_, fun other driven => ?_, posted.canceled,
    listed.symm ▸ posted.rom⟩
  · rw [posted.running, idle, all]
    rfl
  · rcases driven_eq_some.mp driven with ⟨single, rfl⟩ | ⟨⟨other, -⟩, -⟩
    · exact starts single
    · cases all.symm.trans other

/-- The configuration that `ReadAllInit` asserts is checked in this call. -/
def ChecksReadable (s : State) : Prop :=
  s.nvmState = .idle ∧ s.queue = [] ∧ s.multiReqState = .readAll

theorem Posted.mainFunction (paired : Paired config) (alive : s.asserted = false)
    (none_yet : s.events = []) (orderly : Orderly config s) (posted : Posted config s seen)
    (apart : ∀ entry ∈ s.due config, Apart config s entry) (answers : Nat → Answer) :
    let s' := mainFunction config answers s
    ∃ next, watch (board config) seen s'.events = some next ∧
      (s'.asserted = true ∧ ChecksReadable s ∨ s'.asserted = false ∧ Posted config s' next) := by
  intro s'
  have call := orderly.mainCall answers
  change MainCall config answers s s' at call
  generalize s' = last at call ⊢
  have resting (idle : s.nvmState = .idle) : seen.running = none ∧
      s.singles = s.queue.filter fun entry => entry.op.isSingle := by
    rw [posted.running, idle]
    exact ⟨rfl, singles_other (by rw [idle]; rfl)⟩
  cases call with
  | rests => exact ⟨seen, by rw [none_yet]; rfl, .inr ⟨alive, posted⟩⟩
  | starts idle queue waits free starts =>
    obtain ⟨running, singles⟩ := resting idle
    have empty : seen.waiting = [] := by
      rw [posted.waiting, singles, queue]
      rfl
    cases starts with
    | halts service _ asserted events =>
      exact ⟨seen, by rw [events, none_yet]; rfl, .inl ⟨asserted, idle, queue, service⟩⟩
    | ends state events shared =>
      obtain ⟨memIf, queue', asserted⟩ := shared
      have left := singles_none (undriven (.inl state)).1 (queue'.trans queue)
      refine ⟨{ seen with running := none, issued := false }, ?_,
        .inr ⟨asserted.trans alive, .resting (.inl state) (empty.trans left.symm) rfl
          (memIf ▸ posted.canceled) ?_⟩⟩
      · rw [events, none_yet]
        simp [board, running, empty]
      · rw [left]
        nofun
    | begins state curr shared expects _ events =>
      obtain ⟨memIf, queue', asserted⟩ := shared
      have all' : last.nvmState.isAll = true := state ▸ waits
      have left := singles_none (isSingle_of_all all') (queue'.trans queue)
      have selected : remaining config last.admin last.currBlockIndex =
          (List.range config.numOfNvramBlocks).filter
            fun block => decide ((last.admin block).errorStatus = .pending) := by
        rw [remaining, curr, Nat.sub_zero, range_eq_range']
      refine ⟨{ seen with
          running := some (last.nvmState, remaining config last.admin last.currBlockIndex)
          issued := false }, ?_, .inr ⟨asserted.trans alive, .arrives all'
          (empty.trans left.symm) rfl (expects _) (memIf ▸ posted.canceled) ?_⟩⟩
      · rw [events, none_yet, selected, state]
        simp [board, running, empty]
      · rw [left]
        nofun
  | drives taken around single op _ underway =>
    cases taken with
    | inProgress other =>
      have underway := underway.resolve_right fun stale => other stale.2
      have spares := (apart s.qEntry (by simp [State.due, other, State.driven, single])).2
      rw [State.behind, if_neg other] at spares
      obtain ⟨alive', next, watched, posted'⟩ := posted.single paired alive orderly.result
        (by rw [none_yet]; rfl) single op underway spares (answers s.qEntry.block)
      exact ⟨next, watched, .inr ⟨alive', posted'⟩⟩
    | @popped entry others idle queue free ready =>
      obtain ⟨fresh, spares⟩ := apart entry (by simp [State.due, idle, queue]; exact single)
      rw [State.behind, if_pos idle, queue] at spares
      have underway := underway.resolve_right fun ⟨stale, _⟩ =>
        fresh idle (readBlock_of single stale.read) stale.state
      have popped := posted.popped idle queue (.inl single) fun single =>
        ready.starts single (fresh idle)
      obtain ⟨alive', next, watched, posted'⟩ := popped.single (s := s.popped entry others) paired
        alive around.result (show watch _ seen s.events = _ by rw [none_yet]; rfl) single rfl
        underway spares (answers (s.popped entry others).qEntry.block)
      exact ⟨next, watched, .inr ⟨alive', posted'⟩⟩
  | @invalidates t taken around state =>
    -- an invalidation leaves the board alone
    obtain ⟨none_new, alive', posted'⟩ :
        t.events = [] ∧ t.asserted = false ∧ Posted config t seen := by
      cases taken with
      | inProgress => exact ⟨none_yet, alive, posted⟩
      | @popped entry others idle queue =>
        refine ⟨none_yet, alive, posted.popped idle queue (.inr state) fun single => ?_⟩
        rw [show entry.op = _ from state] at single
        cases single
    obtain ⟨-, same, left, queue, asserted, result⟩ :=
      (invalidate_invalidates config (answers t.qEntry.block) t).fields
    replace left := left.imp_right (·.trans state)
    have singles := singles_same (undriven (.inr state)).1 (undriven left).1 queue
    have running : seen.running = none := by
      rw [posted'.running, state]
      rfl
    refine ⟨seen, by rw [same, none_new]; rfl, .inr ⟨asserted.trans alive', .resting left
      (posted'.waiting.trans singles.symm) running
      (not_canceled posted'.canceled result.symm) (singles ▸ posted'.rom)⟩⟩
  | all other passing =>
    obtain ⟨next, watched, alive', posted'⟩ := posted.all paired alive none_yet
      orderly.toSurroundings passing (fun read inside pending => by
        have spares := (apart _ (by
          rw [State.due, if_neg other]
          exact driven_all passing.service inside pending)).2
        rw [State.behind, if_neg other] at spares
        exact spares read) answers
    exact ⟨next, watched, .inr ⟨alive', posted'⟩⟩

/-! ## Runs -/

variable {call : Call} {s' : State}

theorem perform_restored (service : call.isService) (none_yet : s.events = [])
    (accepted : (perform config s call).events = [.accepted entry])
    (restore : entry.op = .restoreBlockDefaults) : call.restored = some entry.block := by
  have serves := perform_serves config s service
  generalize perform config s call = s' at serves accepted
  cases serves with
  | accepts _ restored =>
    rw [State.accept, none_yet] at accepted
    cases accepted
    exact restored restore
  | asserts | refuses | sets => cases none_yet.symm.trans accepted

theorem Orderly.driven_pending (orderly : Orderly config s)
    (driven : s.driven config = some entry) : (s.admin entry.block).errorStatus = .pending := by
  rcases driven_eq_some.mp driven with ⟨single, rfl⟩ | ⟨⟨-, -, pending⟩, rfl⟩
  · exact (orderly.underway single).pending
  · exact pending

theorem Quiet.driven (quiet : Quiet s s') (orderly' : Orderly config s') :
    s'.driven config = s.driven config := by
  unfold State.driven
  rw [quiet.nvmState, quiet.qEntry, quiet.curr]
  congr 2
  refine propext (and_congr_right fun all => and_congr_right fun _ => ?_)
  exact quiet.ahead orderly' all le_rfl

theorem Posted.quiet (posted : Posted config s seen) (none_yet : s.events = [])
    (orderly : Orderly config s) (orderly' : Orderly config s') (quiet : Quiet s s')
    (rom : ∀ entry, s'.events = [.accepted entry] → entry.Restorable config) :
    ∃ next, watch (board config) seen s'.events = some next ∧ Posted config s' next := by
  have driven_eq : s'.driven config = s.driven config := quiet.driven orderly'
  -- the board differs at most in what waits
  have posted_with {waiting : List QueueEntry} (same : waiting = s'.singles)
      (rom' : ∀ entry ∈ s'.singles, entry.Restorable config) :
      Posted config s' { seen with waiting } := by
    refine ⟨same, ?_, fun entry driven => ?_, quiet.memIf ▸ posted.canceled, rom'⟩
    · rw [quiet.nvmState, quiet.curr, posted.running]
      split
      next all => rw [remaining_congr fun block later => quiet.ahead orderly' all later]
      next => rfl
    · rw [driven_eq] at driven
      rw [quiet.records entry.block (orderly.driven_pending driven)]
      exact posted.progress entry driven
  have singles : s'.singles = (if s.nvmState.isSingle then [s.qEntry] else []) ++
      s'.queue.filter fun entry => entry.op.isSingle := by
    rw [State.singles, quiet.nvmState, quiet.qEntry]
  rcases quiet.accepted with ⟨queue, events⟩ | ⟨entry, queue, events, -⟩
  · have same : s'.singles = s.singles := by
      rw [singles, queue]
      rfl
    refine ⟨seen, by rw [events, none_yet]; rfl, ?_⟩
    exact posted_with (posted.waiting.trans same.symm) (same.symm ▸ posted.rom)
  · have observed : s'.events = [.accepted entry] := by
      rw [events, none_yet]
      rfl
    rw [queue, filter_append, ← append_assoc] at singles
    change s'.singles = s.singles ++ _ at singles
    refine ⟨_, by rw [observed]; rfl, ?_⟩
    by_cases single : entry.op.isSingle = true
    · rw [if_pos single]
      rw [filter_cons, if_pos single, filter_nil] at singles
      refine posted_with (by rw [singles, posted.waiting]) fun other member => ?_
      rw [singles, mem_append, mem_singleton] at member
      rcases member with member | rfl
      · exact posted.rom other member
      · exact rom other observed
    · rw [if_neg single]
      rw [filter_cons, if_neg single, filter_nil, append_nil] at singles
      exact posted_with (posted.waiting.trans singles.symm) (singles.symm ▸ posted.rom)

theorem JobEnds.canceled {memIf memIf' : MemIf} {work work' : Memory}
    (ends : JobEnds memIf work memIf' work') (canceled : memIf.result ≠ .canceled) :
    memIf'.result ≠ .canceled := by
  cases ends with
  | nothing => exact canceled
  | failed _ _ other => exact other
  | read | written | invalidated => nofun

theorem Posted.requestAll (posted : Posted config s seen) (service : NvmState) :
    Posted config (requestAll service s) seen ∧ (requestAll service s).events = s.events := by
  unfold NvM.requestAll
  split
  · exact ⟨posted, rfl⟩
  · exact ⟨{ posted with }, rfl⟩

theorem Posted.perform (paired : Paired config) (alive : s.asserted = false)
    (none_yet : s.events = []) (orderly : Orderly config s) (posted : Posted config s seen)
    (separate : Separate config s call) :
    let s' := perform config s call
    ∃ next, watch (board config) seen s'.events = some next ∧
      (s'.asserted = true ∨ Posted config s' next) := by
  intro s'
  obtain ⟨undisturbed, rom, apart⟩ := separate
  by_cases service : call.isService = true
  · rcases perform_quiet service undisturbed with ⟨halted, events⟩ | quiet
    · exact ⟨seen, by rw [events, none_yet]; rfl, .inl halted⟩
    · rcases orderly.perform call undisturbed with halted | orderly'
      · rcases quiet.accepted with ⟨-, events⟩ | ⟨entry, -, events, -⟩
        · exact ⟨seen, by rw [events, none_yet]; rfl, .inl halted⟩
        · exact ⟨_, by rw [events, none_yet]; rfl, .inl halted⟩
      · obtain ⟨next, watched, posted'⟩ := posted.quiet none_yet orderly orderly' quiet
          fun entry accepted restore =>
            rom entry.block (perform_restored service none_yet accepted restore)
        exact ⟨next, watched, .inr posted'⟩
  · cases call with
    | mainFunction answers =>
      obtain ⟨next, watched, ends⟩ :=
        posted.mainFunction paired alive none_yet orderly (apart answers rfl) answers
      exact ⟨next, watched, ends.imp And.left And.right⟩
    | jobEnd result spoiled =>
      obtain ⟨memIf, work, ends, eq⟩ := jobEnd_ends result spoiled s
      simp only [s', NvM.perform, eq]
      exact ⟨seen, by rw [none_yet]; rfl, .inr
        { posted with canceled := ends.canceled posted.canceled }⟩
    | ramWrite address value =>
      refine ⟨seen, by simp only [s', NvM.perform, none_yet]; rfl, .inr ?_⟩
      exact { posted with }
    | readAll =>
      obtain ⟨posted', events⟩ := posted.requestAll .readAll
      exact ⟨seen, by simp only [s', NvM.perform, events, none_yet]; rfl, .inr posted'⟩
    | writeAll =>
      obtain ⟨posted', events⟩ := posted.requestAll .writeAll
      exact ⟨seen, by simp only [s', NvM.perform, events, none_yet]; rfl, .inr posted'⟩
    | _ => exact absurd rfl service

/-- The requests are on the board, unless an assertion has failed. -/
def OnBoard (config : Config) (s : State) (seen : Board) : Prop :=
  s.asserted = true ∨ Orderly config s ∧ Posted config s seen

theorem Posted.cleared (posted : Posted config s seen) :
    Posted config { s with events := [] } seen :=
  { posted with }

theorem OnBoard.stepped (paired : Paired config) (on_board : OnBoard config s seen)
    (separate : Separate config s call) :
    Accepts (board config) (OnBoard config) seen (step config s call) := by
  by_cases asserted : s.asserted = true
  · simp only [step, asserted]
    exact ⟨seen, rfl, .inl asserted⟩
  · obtain ⟨orderly, posted⟩ := on_board.resolve_left asserted
    have in_order := InOrder.stepped (.inr orderly) separate.1
    rw [step, if_neg asserted] at in_order ⊢
    have cleared : Orderly config { s with events := [] } := orderly.congr rfl
    have separate' : Separate config { s with events := [] } call :=
      ⟨separate.1.cleared, separate.2⟩
    obtain ⟨next, watched, ends⟩ := posted.cleared.perform paired (Bool.not_eq_true _ ▸ asserted) rfl
      cleared separate'
    refine ⟨next, watched, ?_⟩
    rcases ends with halted | posted''
    · exact .inl halted
    · exact in_order.imp_right fun orderly' => ⟨orderly', posted''⟩

theorem OnBoard.survives (paired : Paired config) (on_board : OnBoard config s seen)
    (alive : s.asserted = false) {answers : Nat → Answer}
    (separate : Separate config s (.mainFunction answers)) (unchecked : ¬ ChecksReadable s) :
    (step config s (.mainFunction answers)).1.asserted = false := by
  obtain ⟨orderly, posted⟩ :=
    on_board.resolve_left fun halted => by cases halted.symm.trans alive
  have cleared : Orderly config { s with events := [] } := orderly.congr rfl
  obtain ⟨_, -, ends⟩ := posted.cleared.mainFunction (s := { s with events := [] }) paired alive
    rfl cleared (separate.2.2 answers rfl) answers
  rw [step, if_neg (by rw [alive]; simp)]
  rcases ends with ⟨-, checked⟩ | ⟨alive', -⟩
  · exact absurd checked unchecked
  · exact alive'

theorem OnBoard.ran (paired : Paired config) (ram workBuffer : Memory) (nv : Nat → Option Memory)
    {calls : List Call}
    (meets : Meets (step config) (Separate config) (init config ram workBuffer nv) calls) :
    Accepts (board config) (OnBoard config) .empty
      (run (step config) (init config ram workBuffer nv) calls) := by
  have start : Posted config (init config ram workBuffer nv) .empty :=
    .resting (.inl rfl) rfl rfl nofun nofun
  exact run_watched (OnBoard config) (.inr ⟨init_orderly config ram workBuffer nv, start⟩) meets
    fun _ _ _ => OnBoard.stepped paired

end

end NvM
