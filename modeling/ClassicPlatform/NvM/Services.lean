import ClassicPlatform.NvM.Orderly

/-!
# Order in every run

Services queue a request for a block that has none, or change the record of such a block; the
memory interface ends the job of the block that is driven. So the requests stay in order in
every run of undisturbed calls.
-/
namespace NvM

open Function List
open ByteLanes (Memory)

section

variable {config : Config} {s : State}

/-! ## Services -/

/-- The block has no request. -/
structure Free (config : Config) (s : State) (block : Nat) : Prop where
  apart : block ∉ s.queuedBlocks
  unengaged : ¬ Engaged config s block

variable {block : Nat}

theorem Orderly.free (orderly : Orderly config s) (status : (s.admin block).errorStatus ≠ .pending)
    (passed : ¬ Skipped config s block) : Free config s block where
  apart member := by
    obtain ⟨entry, here, same⟩ := mem_map.mp member
    have pending := (orderly.waiting entry here).2.2.1
    rw [same] at pending
    exact status pending
  unengaged engaged := by
    cases orderly.current with
    | idle idle => exact not_engaged_idle idle engaged
    | single single _ _ underway =>
      have same := (engaged_single (.inl single) block).mp engaged
      exact status (same ▸ underway.pending)
    | invalidates state _ pending =>
      have same := (engaged_single (.inr state) block).mp engaged
      exact status (same ▸ pending)
    | all passing =>
      rcases engaged with ⟨single, -⟩ | ahead
      · nomatch NvmState.isAll_of_single single ▸ passing.service
      · have not_skipped (skipped : (s.admin block).errorStatus = .blockSkipped) : False :=
          passed ⟨ahead, skipped⟩
        obtain ⟨-, later, known⟩ := ahead
        rcases lt_or_eq_of_le later with later | here
        · rcases passing.ahead block later known with ⟨skipped, -⟩ | ready
          · exact not_skipped skipped
          · exact status ready.1
        · subst here
          rcases passing.here known with ⟨skipped, -⟩ | underway
          · exact not_skipped skipped
          · exact status underway.pending

variable {s' : State}

theorem Current.update (current : Current config s) (state : s'.nvmState = s.nvmState)
    (sub : s'.nvmSubState = s.nvmSubState) (qEntry : s'.qEntry = s.qEntry)
    (curr : s'.currBlockIndex = s.currBlockIndex) (memIf : s'.memIf = s.memIf)
    (work : s'.workBuffer = s.workBuffer)
    (engaged_same : ∀ other, Engaged config s other → s'.admin other = s.admin other)
    (queued : ∀ other, Engaged config s other → other ∈ s'.queuedBlocks →
      other ∈ s.queuedBlocks)
    (passed : s.nvmState.isAll → ∀ other ∈ s'.queuedBlocks,
      other ∈ s.queuedBlocks ∨ other < s.currBlockIndex) :
    Current config s' := by
  cases current with
  | idle idle job => exact .idle (state.trans idle) (memIf ▸ job)
  | single single op apart underway =>
    have engaged : Engaged config s s.qEntry.block := (engaged_single (.inl single) _).mpr rfl
    refine .single (state ▸ single) (by rw [qEntry, state, op]) ?_ ?_
    · rw [qEntry]
      exact fun member => apart (queued _ engaged member)
    · rw [qEntry, memIf, work, state, engaged_same _ engaged]
      exact underway
  | invalidates invalidate apart pending rests job =>
    have engaged : Engaged config s s.qEntry.block := (engaged_single (.inr invalidate) _).mpr rfl
    refine .invalidates (state ▸ invalidate) ?_ ?_ ?_ ?_
    · rw [qEntry]
      exact fun member => apart (queued _ engaged member)
    · rw [qEntry, engaged_same _ engaged]
      exact pending
    · rw [qEntry, engaged_same _ engaged]
      exact rests
    · rw [sub, memIf]
      exact job
  | all passing =>
    have ahead_same (other : Nat) (later : s.currBlockIndex ≤ other)
        (known : other < config.numOfNvramBlocks) : s'.admin other = s.admin other :=
      engaged_same other (.inr ⟨passing.service, later, known⟩)
    refine .all ⟨state ▸ passing.service, sub.trans passing.sub, ?_, ?_, ?_, ?_⟩
    · intro other member
      rw [curr]
      exact (passed passing.service other member).elim (passing.apart other) id
    · rw [curr]
      intro inside
      rw [ahead_same _ le_rfl inside, memIf, work, state]
      exact passing.here inside
    · rw [curr, memIf]
      exact passing.passed
    · rw [curr]
      intro other later known
      rw [Expects, ahead_same other (le_of_lt later) known, state]
      exact passing.ahead other later known

variable {entry : QueueEntry} {adm : AdministrativeBlock}

/-- A request is queued for a block that has none. -/
def State.accept (s : State) (entry : QueueEntry) (adm : AdministrativeBlock) : State :=
  { s with
    queue := s.queue ++ [entry]
    admin := update s.admin entry.block adm
    events := s.events ++ [.accepted entry] }

theorem Orderly.accept (orderly : Orderly config s) (free : Free config s entry.block)
    (op : entry.op.isSingle ∨ entry.op = .invalidateNvBlock)
    (known : entry.block < config.numOfNvramBlocks)
    (ready : Ready config entry.op entry.block entry.dataPtr adm) :
    Orderly config (s.accept entry adm) := by
  have same (other : Nat) (ne : other ≠ entry.block) :
      (s.accept entry adm).admin other = s.admin other := update_of_ne ne ..
  have mem_iff (block : Nat) : block ∈ (s.accept entry adm).queuedBlocks ↔
      block ∈ s.queuedBlocks ∨ block = entry.block := by
    simp [State.queuedBlocks, State.accept]
  refine ⟨⟨orderly.result, ?_, ?_, orderly.multiReq, ?_⟩, ?_⟩
  · rw [State.queuedBlocks, State.accept, map_append]
    exact List.Nodup.append orderly.distinct (nodup_singleton _) (disjoint_singleton.mpr free.apart)
  · intro other member
    rcases mem_append.mp member with member | last
    · have ne : other.block ≠ entry.block :=
        fun here => free.apart (here ▸ mem_map_of_mem member)
      rw [same _ ne]
      exact orderly.waiting other member
    · have own : (s.accept entry adm).admin entry.block = adm := update_self ..
      rw [mem_singleton.mp last, own]
      exact ⟨op, known, ready⟩
  · intro block absent unengaged
    rw [mem_iff, not_or] at absent
    rw [same _ absent.2]
    exact orderly.others block absent.1 unengaged
  · refine orderly.current.update rfl rfl rfl rfl rfl rfl
      (fun other engaged => same other fun here => free.unengaged (here ▸ engaged)) ?_ ?_
    · intro other engaged member
      rcases (mem_iff other).mp member with member | here
      · exact member
      · exact absurd (here ▸ engaged) free.unengaged
    · intro all other member
      refine ((mem_iff other).mp member).imp_right fun here => ?_
      -- a block that a request for all blocks has yet to pass is not free
      by_contra later
      exact free.unengaged (.inr ⟨all, here ▸ Nat.le_of_not_lt later, known⟩)

theorem Orderly.setRecord (orderly : Orderly config s) (free : Free config s block)
    (rests : adm.Rests) : Orderly config { s with admin := update s.admin block adm } := by
  have same (other : Nat) (ne : other ≠ block) :
      update s.admin block adm other = s.admin other := update_of_ne ne ..
  refine ⟨orderly.toSurroundings.update free.apart orderly.result rfl rfl same
    (fun _ _ unengaged => unengaged) fun _ => ?_, ?_⟩
  · simp only [update_self]
    exact rests
  · exact orderly.current.update rfl rfl rfl rfl rfl rfl
      (fun other engaged => same other fun here => free.unengaged (here ▸ engaged))
      (fun _ _ member => member) fun _ _ member => .inl member

/-- What the order depends on. -/
def State.core (s : State) :=
  ((s.nvmState, s.nvmSubState, s.multiReqState, s.currBlockIndex), (s.queue, s.qEntry), s.admin,
    s.memIf, s.workBuffer)

theorem Orderly.congr (orderly : Orderly config s) (same : s'.core = s.core) :
    Orderly config s' := by
  simp only [State.core, Prod.mk.injEq] at same
  obtain ⟨⟨state, sub, multiReq, curr⟩, ⟨queue, qEntry⟩, admin, memIf, work⟩ := same
  have blocks : s'.queuedBlocks = s.queuedBlocks := by rw [State.queuedBlocks, queue]; rfl
  refine ⟨⟨memIf ▸ orderly.result, blocks ▸ orderly.distinct, ?_, multiReq ▸ orderly.multiReq, ?_⟩,
    orderly.current.update state sub qEntry curr memIf work (fun other _ => by rw [admin])
      (fun other _ member => blocks ▸ member) fun _ other member => .inl (blocks ▸ member)⟩
  · rw [queue, admin]
    exact orderly.waiting
  · intro block absent unengaged
    rw [admin]
    refine orderly.others block (blocks ▸ absent) fun engaged => unengaged ?_
    unfold Engaged Ahead
    rw [state, qEntry, curr]
    exact engaged

theorem Orderly.setSkipped (orderly : Orderly config s) (skipped : Skipped config s block)
    (status : adm.errorStatus = .blockSkipped) (rests : (s.admin block).Rests → adm.Rests) :
    Orderly config { s with admin := update s.admin block adm } := by
  obtain ⟨⟨all, later, known⟩, skipped⟩ := skipped
  have passing := orderly.passing all
  have same (other : Nat) (ne : other ≠ block) :
      update s.admin block adm other = s.admin other := update_of_ne ne ..
  have own : update s.admin block adm block = adm := update_self ..
  have apart : block ∉ s.queuedBlocks :=
    fun member => not_lt.mpr later (passing.apart block member)
  refine ⟨orderly.toSurroundings.update apart orderly.result rfl rfl same
    (fun _ _ unengaged => unengaged) (fun unengaged => absurd (.inr ⟨all, later, known⟩) unengaged),
    .all { passing with here := fun inside => ?_, ahead := fun other behind inside => ?_ }⟩
  · by_cases here : s.currBlockIndex = block
    · rcases passing.here inside with ⟨-, rests', free⟩ | underway
      · simp only [here, own]
        exact .inl ⟨status, rests (here ▸ rests'), free⟩
      · have pending := underway.pending
        rw [here, skipped] at pending
        cases pending
    · simp only [same _ here]
      exact passing.here inside
  · by_cases here : other = block
    · rcases passing.ahead other behind inside with ⟨-, rests'⟩ | ready
      · left
        simp only [here, own]
        exact ⟨status, rests (here ▸ rests')⟩
      · have pending := ready.1
        rw [here, skipped] at pending
        cases pending
    · have expects := passing.ahead other behind inside
      simp only [Expects, same _ here]
      exact expects

/-- The calls of services, other than those for all blocks. -/
def Call.isService : Call → Bool
  | .readAll | .writeAll | .mainFunction _ | .jobEnd _ _ | .ramWrite _ _ => false
  | _ => true

def Call.queues : Call → Bool
  | .readBlock _ _ | .writeBlock _ _ | .restoreBlockDefaults _ _ | .invalidateNvBlock _ => true
  | _ => false

/-- The block whose default data is to be restored. -/
def Call.restored : Call → Option Nat
  | .restoreBlockDefaults block _ => some block
  | _ => none

/-- The block of a service that asserts that it is not the block of the configuration id. -/
def Call.userBlock : Call → Option Nat
  | .writeBlock block _ => some block
  | .restoreBlockDefaults block _ => some block
  | .invalidateNvBlock block | .setDataIndex block _ | .getDataIndex block => some block
  | _ => none

variable {call : Call}

variable (config s call) in
/-- What a service does: its assertion fails, it is refused, it queues a request, or it changes
the record of a block. -/
inductive Serves : State → Prop where
  | asserts (user : call.userBlock = some 0) : Serves { s with asserted := true }
  | refuses : Serves s
  | accepts {entry : QueueEntry} {adm : AdministrativeBlock} (queues : call.queues = true)
      (restored : entry.op = .restoreBlockDefaults → call.restored = some entry.block)
      (passed : Undisturbed config s call → ¬ Skipped config s entry.block)
      (op : entry.op.isSingle = true ∨ entry.op = .invalidateNvBlock)
      (known : entry.block < config.numOfNvramBlocks)
      (status : (s.admin entry.block).errorStatus ≠ .pending)
      (index : adm.dataIndex = (s.admin entry.block).dataIndex)
      (ready : (s.admin entry.block).Rests →
        Ready config entry.op entry.block entry.dataPtr adm) :
      Serves (s.accept entry adm)
  | sets {block : Nat} {adm : AdministrativeBlock}
      (status : Undisturbed config s call → (s.admin block).errorStatus ≠ .pending)
      (status' : adm.errorStatus ≠ .pending)
      (skipped : Undisturbed config s call → Skipped config s block →
        adm.errorStatus = .blockSkipped)
      (rests : (s.admin block).Rests → adm.Rests)
      (index : (config.block block).blockManagementType ≠ .dataset →
        adm.dataIndex = (s.admin block).dataIndex) :
      Serves { s with admin := update s.admin block adm }

private theorem Serves.enqueue {update : AdministrativeBlock → AdministrativeBlock}
    (accepts : Serves config s call
      (s.accept entry (update { s.admin entry.block with errorStatus := .pending }))) :
    Serves config s call (enqueue config s entry update) := by
  unfold NvM.enqueue
  split
  · exact .refuses
  · exact accepts

private theorem Serves.assertUserBlock {next : State} (user : call.userBlock = some block)
    (serves : Serves config s call next) : Serves config s call (s.assertUserBlock block next) := by
  unfold State.assertUserBlock
  split
  next zero => exact .asserts (zero ▸ user)
  next => exact serves

theorem perform_serves (config : Config) (s : State) (service : call.isService) :
    Serves config s call (perform config s call) := by
  cases call with
  | readBlock block dataPtr =>
    simp only [perform, readBlock]
    split
    · exact .refuses
    next accepted =>
      simp only [not_or] at accepted
      obtain ⟨-, known, buffer, status⟩ := accepted
      exact .enqueue (.accepts rfl nofun id (.inl rfl) (not_le.mp known) status rfl
        fun rests => ⟨rfl, rests.1, buffer, rests⟩)
  | writeBlock block dataPtr =>
    refine .assertUserBlock rfl ?_
    split
    · exact .refuses
    next accepted =>
      simp only [not_or, not_not] at accepted
      obtain ⟨-, known, -, index, buffer, status⟩ := accepted
      exact .enqueue (.accepts rfl nofun id (.inl rfl) (not_le.mp known) status rfl
        fun rests => ⟨rfl, rests.1, buffer, rfl, index⟩)
  | restoreBlockDefaults block dataPtr =>
    refine .assertUserBlock rfl ?_
    split
    · exact .refuses
    next accepted =>
      simp only [not_or] at accepted
      obtain ⟨-, known, buffer, status, -⟩ := accepted
      exact .enqueue (.accepts rfl (fun _ => rfl) id (.inl rfl) (not_le.mp known) status rfl
        fun rests => ⟨rfl, rests.1, buffer, rfl⟩)
  | invalidateNvBlock block =>
    refine .assertUserBlock rfl ?_
    split
    · exact .refuses
    next accepted =>
      simp only [not_or] at accepted
      obtain ⟨-, known, status, -⟩ := accepted
      exact .enqueue (.accepts rfl nofun id (.inr rfl) (not_le.mp known) status rfl
        fun rests => ⟨rfl, rests.1, rests⟩)
  | setDataIndex block dataIndex =>
    refine .assertUserBlock rfl ?_
    split
    · exact .refuses
    next accepted =>
      simp only [not_or, not_not] at accepted
      exact .sets (fun _ => accepted.2.2.2.2) nofun (fun passed skipped => absurd skipped passed) id
        fun other => absurd accepted.2.2.1 other
  | getDataIndex block =>
    refine .assertUserBlock rfl ?_
    split
    · exact .refuses
    · exact .sets And.right nofun (fun passed skipped => absurd skipped passed.1) id fun _ => rfl
  | setRamBlockStatus block blockChanged =>
    simp only [perform, setRamBlockStatus]
    split
    · exact .refuses
    next accepted =>
      simp only [not_or] at accepted
      have status := accepted.2.2.2.2.1
      exact .sets (fun _ => status) status (fun _ => And.right) id fun _ => rfl
  | _ => cases service

/-- The requests are in order, unless an assertion has failed. -/
def InOrder (config : Config) (s : State) : Prop := s.asserted = true ∨ Orderly config s

theorem Orderly.serves (orderly : Orderly config s) (undisturbed : Undisturbed config s call)
    (serves : Serves config s call s') : InOrder config s' := by
  cases serves with
  | asserts => exact .inl rfl
  | refuses => exact .inr orderly
  | accepts _ _ passed op known status _ ready =>
    have free := orderly.free status (passed undisturbed)
    exact .inr (orderly.accept free op known (ready (orderly.others _ free.apart free.unengaged)))
  | @sets block adm status _ skipped rests =>
    by_cases passed : Skipped config s block
    · exact .inr (orderly.setSkipped passed (skipped undisturbed passed) rests)
    · have free := orderly.free (status undisturbed) passed
      exact .inr (orderly.setRecord free (rests (orderly.others block free.apart free.unengaged)))

/-! ## The memory interface -/

section

variable {memIf memIf' : MemIf} {work work' : Memory}

variable (memIf work) in
inductive JobEnds : MemIf → Memory → Prop where
  | nothing : JobEnds memIf work
  | read {nr length : Nat} {data : Memory} (job : memIf.job = some (.read nr length))
      (contents : memIf.nv nr = some data) :
      JobEnds (memIf.ended .ok) (Buffer.copy work 0 data 0 length)
  | written {nr : Nat} (job : memIf.job = some (.write nr)) :
      JobEnds { memIf.ended .ok with nv := update memIf.nv nr (some work) } work
  | invalidated {nr : Nat} (job : memIf.job = some (.invalidate nr)) :
      JobEnds { memIf.ended .ok with nv := update memIf.nv nr none } work
  | failed {work' : Memory} {result : JobResult} (job : memIf.job ≠ none)
      (failure : result.failure = true) (canceled : result ≠ .canceled) :
      JobEnds (memIf.ended result) work'

theorem jobEnd_ends (result : JobResult) (spoiled : Memory) (s : State) :
    ∃ memIf work, JobEnds s.memIf s.workBuffer memIf work ∧
      jobEnd result spoiled s = { s with memIf, workBuffer := work } := by
  have nothing : ∃ memIf work, JobEnds s.memIf s.workBuffer memIf work ∧
      s = { s with memIf, workBuffer := work } := ⟨_, _, .nothing, rfl⟩
  unfold NvM.jobEnd
  cases job : s.memIf.job with
  | none => exact nothing
  | some running =>
    have taken : s.memIf.job ≠ none := by rw [job]; nofun
    cases running with
    | read nr length =>
      cases result with
      | ok =>
        dsimp only
        split
        next data contents => exact ⟨_, _, .read job contents, rfl⟩
        next => refine ⟨_, _, .failed taken ?_ ?_, rfl⟩ <;> simp [JobResult.failure]
      | pending | canceled => exact nothing
      | _ => refine ⟨_, _, .failed taken ?_ ?_, rfl⟩ <;> simp [JobResult.failure]
    | write nr =>
      cases result with
      | ok => exact ⟨_, _, .written job, rfl⟩
      | pending | canceled => exact nothing
      | _ => refine ⟨_, _, .failed taken ?_ ?_, rfl⟩ <;> simp [JobResult.failure]
    | invalidate nr =>
      cases result with
      | ok => exact ⟨_, _, .invalidated job, rfl⟩
      | pending | canceled => exact nothing
      | _ => refine ⟨_, _, .failed taken ?_ ?_, rfl⟩ <;> simp [JobResult.failure]

section

variable (ends : JobEnds memIf work memIf' work')
include ends

theorem JobEnds.over_ :
    memIf' = memIf ∧ work' = work ∨
      memIf.job ≠ none ∧ memIf'.job = none ∧ memIf'.result ≠ .pending := by
  cases ends with
  | nothing => exact .inl ⟨rfl, rfl⟩
  | @failed _ result taken failure =>
    refine .inr ⟨taken, rfl, fun pending => ?_⟩
    have pending : result = .pending := pending
    rw [pending] at failure
    cases failure
  | read job | written job | invalidated job => exact .inr ⟨by rw [job]; nofun, rfl, nofun⟩

theorem JobEnds.consistent (consistent : memIf.Consistent) : memIf'.Consistent := by
  rcases ends.over_ with ⟨rfl, -⟩ | ⟨-, free, over_⟩
  · exact consistent
  · rw [MemIf.Consistent, free]
    exact ⟨nofun, fun pending => absurd pending over_⟩

theorem JobEnds.free (free : memIf.job = none) : memIf'.job = none := by
  rcases ends.over_ with ⟨rfl, -⟩ | ⟨-, free, -⟩ <;> exact free

theorem ReadJob.ended {set : Nat}
    (job : ReadJob config memIf work block set) : ReadJob config memIf' work' block set := by
  cases ends with
  | nothing => exact job
  | @read nr length data running contents =>
    -- the job is the block's own
    rcases job with own | ⟨free, -⟩
    · obtain ⟨rfl, rfl⟩ := Job.read.inj (Option.some.inj (running.symm.trans own))
      refine .inr ⟨rfl, fun _ => ⟨data, contents, fun i low high => ?_⟩⟩
      rw [Buffer.copy_inside low (by omega)]
      congr 1
      omega
    · cases running.symm.trans free
  | written running | invalidated running =>
    rcases job with own | ⟨free, -⟩
    · cases running.symm.trans own
    · cases running.symm.trans free
  | @failed _ result _ failure =>
    refine .inr ⟨rfl, fun ok => ?_⟩
    have ok : result = .ok := ok
    rw [ok] at failure
    cases failure

theorem Underway.ended {service : NvmState} {dataPtr : Option Int}
    (underway : Underway config memIf work service block dataPtr adm) :
    Underway config memIf' work' service block dataPtr adm := by
  refine { underway with stage := ?_ }
  cases underway.stage with
  | sums other state failed free => exact .sums other state failed (ends.free free)
  | requests state failed free => exact .requests state failed (ends.free free)
  | checking read state failed saved checked free =>
    exact .checking read state failed saved checked (ends.free free)
  | reading read state failed saved job =>
    exact .reading read state failed saved (job.ended ends)
  | writing write state failed counted job =>
    rcases ends.over_ with ⟨rfl, -⟩ | ⟨taken, free, -⟩
    · exact .writing write state failed counted job
    · exact .writing write state failed (fun some_failed => absurd (counted some_failed).1 taken)
        (.inr free)

end

end

theorem Orderly.jobEnd (orderly : Orderly config s) (result : JobResult) (spoiled : Memory) :
    Orderly config (jobEnd result spoiled s) := by
  obtain ⟨memIf, work, ends, eq⟩ := jobEnd_ends result spoiled s
  rw [eq]
  refine ⟨{ orderly with result := ends.consistent orderly.result }, ?_⟩
  cases orderly.current with
  | idle state free => exact .idle state (ends.free free)
  | single single op apart underway => exact .single single op apart (underway.ended ends)
  | invalidates state apart pending rests free =>
    exact .invalidates state apart pending rests fun init => ends.free (free init)
  | all passing =>
    refine .all { passing with
      here := fun inside => ?_, passed := fun passed => ends.free (passing.passed passed) }
    exact (passing.here inside).imp (fun ⟨skipped, rests, free⟩ => ⟨skipped, rests, ends.free free⟩)
      fun underway => underway.ended ends

theorem Orderly.requestAll (orderly : Orderly config s) {service : NvmState}
    (all : service.isAll) : Orderly config (requestAll service s) := by
  unfold NvM.requestAll
  split
  · exact orderly
  · exact ⟨{ orderly with multiReq := .inr all },
      orderly.current.update rfl rfl rfl rfl rfl rfl (fun _ _ => rfl) (fun _ _ member => member)
        fun _ _ member => .inl member⟩

/-! ## What services leave alone -/

/-- Only records of blocks that are not pending change, and a request may have been queued. -/
structure Quiet (s s' : State) : Prop where
  nvmState : s'.nvmState = s.nvmState
  sub : s'.nvmSubState = s.nvmSubState
  qEntry : s'.qEntry = s.qEntry
  multiReq : s'.multiReqState = s.multiReqState
  multiStatus : s'.multiErrorStatus = s.multiErrorStatus
  curr : s'.currBlockIndex = s.currBlockIndex
  ram : s'.ram = s.ram
  work : s'.workBuffer = s.workBuffer
  memIf : s'.memIf = s.memIf
  blockIndex : s'.blockIndex = s.blockIndex
  asserted : s'.asserted = s.asserted
  records : ∀ block, (s.admin block).errorStatus = .pending → s'.admin block = s.admin block
  raised : ∀ block, (s'.admin block).errorStatus = .pending →
    (s.admin block).errorStatus = .pending ∨ block ∈ s'.queuedBlocks
  accepted : s'.queue = s.queue ∧ s'.events = s.events ∨
    ∃ entry, s'.queue = s.queue ++ [entry] ∧ s'.events = s.events ++ [.accepted entry] ∧
      (s.admin entry.block).errorStatus ≠ .pending

theorem Quiet.refl (s : State) : Quiet s s :=
  ⟨rfl, rfl, rfl, rfl, rfl, rfl, rfl, rfl, rfl, rfl, rfl, fun _ _ => rfl, fun _ => .inl,
    .inl ⟨rfl, rfl⟩⟩

theorem Quiet.setRecord (status : (s.admin block).errorStatus ≠ .pending)
    (status' : adm.errorStatus ≠ .pending) :
    Quiet s { s with admin := update s.admin block adm } where
  nvmState := rfl
  sub := rfl
  qEntry := rfl
  multiReq := rfl
  multiStatus := rfl
  curr := rfl
  ram := rfl
  work := rfl
  memIf := rfl
  blockIndex := rfl
  asserted := rfl
  records other pending := by
    refine update_of_ne ?_ ..
    rintro rfl
    exact status pending
  raised other pending := by
    by_cases here : other = block
    · simp only [here, update_self] at pending
      exact absurd pending status'
    · simp only [update_of_ne here] at pending
      exact .inl pending
  accepted := .inl ⟨rfl, rfl⟩

theorem Quiet.accept (status : (s.admin entry.block).errorStatus ≠ .pending) :
    Quiet s (s.accept entry adm) := by
  refine ⟨rfl, rfl, rfl, rfl, rfl, rfl, rfl, rfl, rfl, rfl, rfl, fun other pending => ?_,
    fun other pending => ?_, .inr ⟨entry, rfl, rfl, status⟩⟩
  · refine update_of_ne ?_ ..
    rintro rfl
    exact status pending
  · by_cases here : other = entry.block
    · exact .inr (by simp [State.queuedBlocks, State.accept, here])
    · simp only [State.accept, update_of_ne here] at pending
      exact .inl pending

theorem perform_quiet (service : call.isService) (undisturbed : Undisturbed config s call) :
    (perform config s call).asserted ∧ (perform config s call).events = s.events ∨
      Quiet s (perform config s call) := by
  have serves := perform_serves config s service
  generalize perform config s call = s' at serves ⊢
  cases serves with
  | asserts => exact .inl ⟨rfl, rfl⟩
  | refuses => exact .inr (.refl s)
  | accepts _ _ _ _ _ status => exact .inr (.accept status)
  | sets status status' => exact .inr (.setRecord (status undisturbed) status')

theorem Quiet.ahead (quiet : Quiet s s') (orderly' : Orderly config s')
    (all : s.nvmState.isAll) (later : s.currBlockIndex ≤ block) :
    (s'.admin block).errorStatus = .pending ↔ (s.admin block).errorStatus = .pending := by
  refine ⟨fun pending => ?_, fun pending => by rw [quiet.records block pending, pending]⟩
  refine (quiet.raised block pending).resolve_right fun queued => ?_
  -- no request is queued for a block that has yet to be passed
  have passed := (orderly'.passing (quiet.nvmState ▸ all)).apart block queued
  rw [quiet.curr] at passed
  exact not_lt.mpr later passed

/-! ## Runs -/

theorem Orderly.perform (orderly : Orderly config s) (call : Call)
    (undisturbed : Undisturbed config s call) : InOrder config (perform config s call) := by
  by_cases service : call.isService = true
  · exact orderly.serves undisturbed (perform_serves config s service)
  · cases call with
    | readAll | writeAll => exact .inr (orderly.requestAll rfl)
    | mainFunction answers => exact orderly.mainFunction answers
    | jobEnd result spoiled => exact .inr (orderly.jobEnd result spoiled)
    | ramWrite address value => exact .inr (orderly.congr rfl)
    | _ => exact absurd rfl service

theorem init_orderly (config : Config) (ram work : Memory) (nv : Nat → Option Memory) :
    Orderly config (init config ram work nv) where
  result := ⟨nofun, nofun⟩
  distinct := nodup_nil
  waiting := nofun
  multiReq := .inl rfl
  others _ _ _ := ⟨rfl, .inl rfl⟩
  current := .idle rfl rfl

theorem InOrder.stepped (in_order : InOrder config s) {call : Call}
    (undisturbed : Undisturbed config s call) : InOrder config (step config s call).1 := by
  unfold step
  split
  next asserted => exact .inl asserted
  next alive =>
    have orderly := in_order.resolve_left alive
    have cleared : Orderly config { s with events := [] } := orderly.congr rfl
    exact cleared.perform call undisturbed.cleared

end

end NvM
