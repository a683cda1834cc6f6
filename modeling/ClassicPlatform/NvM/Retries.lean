import ClassicPlatform.NvM.Fulfilment

/-!
# Retries of failed writes

A write that fails is meant to be issued again, up to the configured number of retries. The
manager counts the failures, but it does not go back to the state that issues the write: it
looks at the result of the same failed job again in the next calls until the count is too high.
So a write is issued once per request, and only with no retries configured, or without failed
jobs, the request ends as it should. A write that the memory interface refuses is not tried
again either.
-/
namespace NvM

open Machine List
open ByteLanes (Memory)

/-- The writes of one request: those issued, those that failed, and whether one succeeded. -/
structure Attempts where
  issued : Nat
  failed : Nat
  good : Bool
  deriving DecidableEq

def Attempts.none : Attempts := ⟨0, 0, false⟩

/-- A request is over: with NVM_REQ_OK if a write succeeded, and otherwise not before all the
writes that are allowed have been issued and have failed. -/
def Attempts.mayEnd (config : Config) (seen : Attempts) (status : RequestResult) : Bool :=
  if seen.good then status = .ok
  else status ≠ .ok ∧ seen.failed = config.maxNumberOfWriteRetries + 1

/-- The writes of a block as they should be. A write is issued first, and again after each that
failed; nothing but the end of the request follows one that succeeded. -/
def attempts (config : Config) (block : Nat) (seen : Attempts) : Event → Option Attempts
  | .memIfWrite service other _ _ _ =>
    if other = block ∧ service.isWrite then
      if seen.failed = seen.issued ∧ seen.issued ≤ config.maxNumberOfWriteRetries ∧
          seen.good = false then some { seen with issued := seen.issued + 1 }
      else Option.none
    else some seen
  | .outcome service other good =>
    if other = block ∧ service.isWrite then
      if seen.issued = seen.failed + 1 ∧ seen.good = false then
        some (if good then { seen with good := true } else { seen with failed := seen.failed + 1 })
      else Option.none
    else some seen
  | .finished service other status =>
    if other = block ∧ service.isWrite then
      if seen.mayEnd config status then some .none else Option.none
    else some seen
  | _ => some seen

/-- The call does not disturb the order of the requests. When the block is driven for a write,
the memory interface does not refuse the write, and the main function does not find a failed job
unless there are no retries. -/
def Unfailing (config : Config) (block : Nat) (s : State) (call : Call) : Prop :=
  Undisturbed config s call ∧ ∀ answers ∈ call.answers, ∀ service ∈ s.serviceOf config block,
    service.isWrite = true → answers block ≠ .refused ∧
      ((s.admin block).blockState = .memifProcess → s.memIf.result.failure = true →
        config.maxNumberOfWriteRetries = 0)
  deriving Decidable

/-! ## One call -/

/-- While the job of a write runs, one write has been issued. -/
def Attempting (service : NvmState) (adm : AdministrativeBlock) (_ : MemIf) (seen : Attempts) :
    Prop :=
  seen = if service.isWrite ∧ adm.blockState = .memifProcess then ⟨1, 0, false⟩ else .none

/-- What `Unfailing` asks of a call of `DriveBlock`. -/
def Unfailed (config : Config) (service : NvmState) (x : Context) (answer : Answer) : Prop :=
  service.isWrite = true → answer ≠ .refused ∧
    (x.adm.blockState = .memifProcess → x.memIf.result.failure = true →
      config.maxNumberOfWriteRetries = 0)

section

variable {config : Config} {block : Nat} {service : NvmState} {dataPtr : Option Int}
variable {x y : Context} {drive : Drive} {answer : Answer} {seen : Attempts}

private theorem attempts_skips {event : Event} (seen : Attempts)
    (apart : event.Apart NvmState.isWrite block) : attempts config block seen event = some seen := by
  cases event with
  | memIfWrite service block' | outcome service block'
  | finished service block' => exact if_neg (apart.not_watched rfl)
  | _ => rfl

private theorem Drives.attempted (write : service.isWrite)
    (underway : Underway config x.memIf x.workBuffer service block dataPtr x.adm)
    (unfailed : Unfailed config service x answer)
    (driven : Drives config (paramsOf service block dataPtr) answer x y drive) :
    ∃ new, y.events = x.events ++ new ∧ (∀ seen, Attempting service x.adm x.memIf seen →
      (drive = .more → ∃ next, watch (attempts config block) seen new = some next ∧
        (y.asserted ∨ Attempting service y.adm y.memIf next)) ∧
      (drive = .done → watch (attempts config block) seen
        (new ++ [.finished service block y.adm.errorStatus]) = some .none)) := by
  have unchecked : x.adm.blockState ≠ .calcCrcRead := by
    intro state
    have read := (underway.of_crcRead state).1
    cases (NvmState.isRead_of_write write).symm.trans read
  obtain ⟨accepted, failure_free⟩ := unfailed write
  have idle {adm : AdministrativeBlock} {memIf : MemIf} {seen : Attempts}
      (state : adm.blockState ≠ .memifProcess) :
      Attempting service adm memIf seen ↔ seen = .none := by
    rw [Attempting, if_neg fun running => state running.2]
  have running {adm : AdministrativeBlock} {memIf : MemIf} {seen : Attempts}
      (state : adm.blockState = .memifProcess) :
      Attempting service adm memIf seen ↔ seen = ⟨1, 0, false⟩ := by
    rw [Attempting, if_pos ⟨write, state⟩]
  have failed : attempts config block ⟨1, 0, false⟩ (.outcome service block false) =
      some ⟨1, 1, false⟩ := by simp [attempts, write]
  -- a failed job ends the request, since there are no retries
  have given_up {status : RequestResult} {seen : Attempts}
      (state : x.adm.blockState = .memifProcess) (failure : x.memIf.result.failure = true)
      (bad : status ≠ .ok) (attempting : Attempting service x.adm x.memIf seen) :
      watch (attempts config block) seen
        ([.outcome service block false] ++ [.finished service block status]) = some .none := by
    obtain rfl := (running state).mp attempting
    simp [attempts, write, Attempts.mayEnd, bad, failure_free state failure]
  cases driven with
  | halted _ asserted _ events =>
    rcases events with events | ⟨state, events⟩
    · exact ⟨[], by rw [events, append_nil], fun seen _ =>
        ⟨fun _ => ⟨seen, rfl, .inl asserted⟩, by simp⟩⟩
    · refine ⟨[.outcome service block false], events, fun seen attempting =>
        ⟨fun _ => ?_, by simp⟩⟩
      obtain rfl := (running (state.resolve_right unchecked)).mp attempting
      exact ⟨_, by rw [watch_cons, failed]; rfl, .inl asserted⟩
  | waits state | sums state =>
    refine ⟨[], (append_nil _).symm, fun seen attempting => ⟨fun _ => ?_, by simp⟩⟩
    refine ⟨seen, rfl, .inr ((idle (by simp [Context.aim, state])).mpr ?_)⟩
    exact (idle (by simp [state])).mp attempting
  | refused _ _ reason =>
    rcases reason with ⟨-, refused⟩ | index
    · exact absurd refused accepted
    · exact absurd (underway.index write) (not_lt.mpr index)
  | writes state =>
    refine ⟨_, rfl, fun seen attempting => ⟨fun _ => ?_, by simp⟩⟩
    obtain rfl := (idle (by simp [state])).mp attempting
    refine ⟨⟨1, 0, false⟩, ?_, .inr ((running rfl).mpr rfl)⟩
    simp [attempts, write, Attempts.none, paramsOf]
  | reads _ read | restores _ read | delivers _ read | checks _ read | defaults _ _ _ read
  | initializes _ _ _ read => cases read.symm.trans write
  | aborts => exact ⟨[], (append_nil _).symm, fun seen _ => ⟨by simp, by simp⟩⟩
  | pends state =>
    refine ⟨[], (append_nil _).symm, fun seen attempting => ⟨fun _ => ?_, by simp⟩⟩
    exact ⟨seen, rfl, .inr attempting⟩
  | written state =>
    refine ⟨_, rfl, fun seen attempting => ⟨by simp, fun _ => ?_⟩⟩
    obtain rfl := (running state).mp attempting
    simp [attempts, write, Attempts.mayEnd, paramsOf, AdministrativeBlock.finish, Context.emit]
  | counts state _ failure few =>
    -- the count is one, and that is too high
    have zero := failure_free state failure
    have counted := (Underway.of_process_write (.inl underway) state write).2.1
    omega
  | switches state failure =>
    have bad : (x.failed (paramsOf service block dataPtr)).adm.errorStatus ≠ .ok := by
      simp [underway.pending]
    exact ⟨_, rfl, fun seen attempting =>
      ⟨by simp, fun _ => given_up state failure bad attempting⟩⟩
  | fails state _ _ failure =>
    have bad := failureStatus_ne_ok failure
    have failure' : x.memIf.result.failure = true := failureStatus_failure failure
    exact ⟨_, rfl, fun seen attempting =>
      ⟨by simp, fun _ => given_up state failure' bad attempting⟩⟩
  | verifies state | crcSwitches state | crcDefaults state | crcInitializes state | crcFails state
  | settles state => exact absurd state unchecked

theorem attempts_follow (config : Config) (block : Nat) :
    Follows config block (attempts config block) (fun seen => seen = .none) Attempting
      (fun _ _ => True) (Unfailed config) where
  skips seen event other := attempts_skips seen fun service _ => other service
  starts := by
    rintro service dataPtr adm memIf seen rfl - ready
    refine (if_neg ?_).symm
    rintro ⟨write, state⟩
    obtain ⟨-, -, fits⟩ := ready
    have start : adm.blockState = (config.block block).startState := by
      cases service with
      | writeBlock | writeAll => exact fits.2.1
      | _ => cases write
    rw [state, BlockDescriptor.startState] at start
    split at start <;> cases start
  drives := by
    intro service dataPtr answer x y drive seen _ _ underway attempting unfailed driven
    cases write : service.isWrite with
    | false =>
      have none_seen : seen = .none := attempting.trans (if_neg (by simp [write]))
      obtain ⟨new, events, watched, finished⟩ :=
        driven.unwatched write fun event => attempts_skips seen
      refine ⟨new, events, fun _ => ⟨seen, watched, .inr ?_⟩, fun _ => ⟨seen, finished, none_seen⟩⟩
      exact none_seen.trans (if_neg (by simp [write])).symm
    | true =>
      have underway := underway.resolve_right fun stale =>
        by cases (NvmState.isRead_of_write write).symm.trans stale.1.read
      obtain ⟨new, events, watched⟩ := driven.attempted write underway unfailed
      obtain ⟨goes_on, ends⟩ := watched seen attempting
      exact ⟨new, events, goes_on, fun done => ⟨.none, ends done, rfl⟩⟩
  ended _ _ attempting := attempting
  fresh _ := trivial
  later := by
    intro service x y answer unfailed same state write
    refine ⟨(unfailed write).1, fun process => ?_⟩
    rw [same] at process
    rcases state with state | state <;> cases state.symm.trans process

end

/-! ## Runs -/

/-- In every run that meets `Unfailing` for a block, the writes of the block are as they should
be, and the call that finds a write successful ends the request. In a favourable run every request
comes to its end. -/
theorem writes_are_retried {config : Config} (paired : Paired config) (block : Nat)
    (ram workBuffer : Memory) (nv : Nat → Option Memory) :
    (∀ calls, Meets (step config) (Unfailing config block) (init config ram workBuffer nv) calls →
      let r := run (step config) (init config ram workBuffer nv) calls
      ∃ last, watch (attempts config block) .none r.2 = some last ∧
        (r.1.asserted = true ∨ last.good = false)) ∧
    ∀ calls, Favourable config (init config ram workBuffer nv) calls →
      Fulfils config (init config ram workBuffer nv) calls := by
  refine ⟨fun calls unfailing => ?_, requests_fulfilled paired ram workBuffer nv⟩
  obtain ⟨last, watched, tracks⟩ := (attempts_follow config block).watched
    (fun s call unfailing => unfailing.1) (fun s answers unfailing =>
      ⟨fun _ _ _ => trivial, fun service serves write => unfailing.2 answers rfl service serves write⟩)
    ram workBuffer nv rfl unfailing
  refine ⟨last, watched, tracks.imp_right fun tracks =>
    tracks.elim (fun seen => seen.good = false) (by rintro rfl; rfl) ?_⟩
  intro service adm memIf attempting
  rw [attempting]
  split <;> rfl

/-- A write of block 1: the request, its job, the end of the job and the calls that follow. -/
def writingCalls (result : JobResult) (polls : Nat) : List Call :=
  [.writeBlock 1 none, .mainFunction fun _ => .accepted, .jobEnd result fun _ => 0] ++
    List.replicate polls (.mainFunction fun _ => .accepted)

theorem writes_are_retried_plain :
    Event.finished .writeBlock 1 .ok ∈ (run (step plainConfig) plainInit (writingCalls .ok 1)).2 ∧
    (∃ last, watch (attempts plainConfig 1) .none
      (run (step plainConfig) plainInit (writingCalls .ok 1)).2 = some last) ∧
    Fulfils plainConfig plainInit (turns (.writeBlock 1 none)) := by
  obtain ⟨retried, fulfilled⟩ := writes_are_retried plainConfig_paired 1 (fun _ => 0) (fun _ => 0)
    fun nr => if nr = 1 then some fun _ => 0x77 else some fun _ => 0x55
  obtain ⟨last, watched, -⟩ := retried (writingCalls .ok 1) (by decide +kernel)
  exact ⟨by decide +kernel, ⟨last, watched⟩,
    fulfilled _ (.of_turns (by decide +kernel) (by decide +kernel))⟩

/-- With two retries configured, a write that fails is issued once only: its failure is counted
three times, and the request ends. -/
theorem failed_write_is_not_retried :
    plainConfig.maxNumberOfWriteRetries = 2 ∧
    (run (step plainConfig) plainInit (writingCalls .failed 3)).2 =
      [.accepted { op := .writeBlock, block := 1, dataPtr := none },
        .memIfWrite .writeBlock 1 0 1 [0], .outcome .writeBlock 1 false,
        .outcome .writeBlock 1 false, .outcome .writeBlock 1 false,
        .finished .writeBlock 1 .notOk] ∧
    watch (attempts plainConfig 1) .none
      (run (step plainConfig) plainInit (writingCalls .failed 3)).2 = none := by
  decide +kernel

end NvM
