import ClassicPlatform.NvM.Fulfilment

/-!
# Redundant blocks

A redundant block has two copies, and a read is meant to try the second one when the first one
fails. Whether it does is up to a counter that is kept from one request to the next and must be
exactly one: the first failure counts up and delivers default data or an error, and a failure
with the counter at one drops the request with its status still pending. A checksum that is
checked sets the counter to zero first. So only a read whose first copy is good ends as it
should.
-/
namespace NvM

open AdministrativeBlock Machine Option
open ByteLanes (Memory)

/-! ## What is asked for -/

/-- What has been seen of a read: the copies that were requested, what the last of them holds,
what was written to the RAM, and whether a copy was found good. -/
structure Reading where
  tried : List Nat
  contents : Option (List Byte)
  copied : Option (List Byte)
  good : Bool
  deriving DecidableEq

def Reading.none : Reading := ⟨[], Option.none, Option.none, false⟩

/-- With a good copy the read ends with NVM_REQ_OK and the data of this copy in the RAM. Without
one, default data or an error follow after both copies were tried. -/
def Reading.mayEnd (seen : Reading) (status : RequestResult) : Bool :=
  if seen.good then status = .ok ∧ seen.contents.isSome ∧ seen.copied = seen.contents
  else 0 ∈ seen.tried ∧ 1 ∈ seen.tried

variable (config : Config) (block : Nat) (s : State)

def reading (seen : Reading) : Event → Option Reading
  | .memIfRead service other set _ contents =>
    if other = block ∧ service.isRead then
      some { seen with tried := set :: seen.tried, contents }
    else some seen
  | .copied service other _ data =>
    if other = block ∧ service.isRead then some { seen with copied := some data } else some seen
  | .outcome service other good =>
    if other = block ∧ service.isRead then some { seen with good := seen.good || good }
    else some seen
  | .finished service other status =>
    if other = block ∧ service.isRead then
      if seen.mayEnd status then some .none else Option.none
    else some seen
  | _ => some seen

/-- The checksum of the data in the RAM is the one that was read. -/
def Matches (ram : Memory) (adm : AdministrativeBlock) : Prop :=
  ∀ buffer ∈ adm.savedDataPtr,
    config.crcOf block (Buffer.bytes ram buffer (config.block block).nvBlockLength) = adm.ramCrc
  deriving Decidable

/-- The call does not disturb the order of the requests. When the block is driven for a read, the
read is not refused and does not start with the job of another block, no failed job is found, and
a checksum that is checked matches. -/
def Intact (call : Call) : Prop :=
  Undisturbed config s call ∧ ∀ answers ∈ call.answers, ∀ service ∈ s.serviceOf config block,
    service.isRead = true → answers block ≠ .refused ∧
      ((s.admin block).blockState = .memifProcess →
        s.nvmState ≠ .idle ∧ s.memIf.result.failure = false) ∧
      ((s.admin block).blockState = .calcCrcRead → Matches config block s.ram (s.admin block))
  deriving Decidable

/-! ## The copy in use -/

/-- Blocks that are no datasets use one of their first two NV blocks. -/
def Indexed : Prop :=
  ∀ block, (config.block block).blockManagementType ≠ .dataset → (s.admin block).dataIndex ≤ 1

section

variable {config : Config} {s : State}

theorem Drives.index {p : Params} {answer : Answer} {x y : Context} {drive : Drive}
    (driven : Drives config p answer x y drive) :
    y.adm.dataIndex = x.adm.dataIndex ∨ y.adm.dataIndex ≤ 1 := by
  have switched (adm : AdministrativeBlock) : adm.switchCopy.dataIndex ≤ 1 := by
    unfold switchCopy
    dsimp only
    split <;> omega
  cases driven with
  | halted _ _ index => exact .inl index
  | switches | crcSwitches => exact .inr (switched _)
  | defaults => exact .inl (by simp [Context.default, copyToRam, Context.emit])
  | initializes | fails => exact .inl (by simp [Context.default])
  | crcDefaults => exact .inl (by simp [Context.mismatched, copyToRam, Context.emit])
  | crcInitializes => exact .inl (by simp [Context.mismatched, Context.emit])
  | crcFails =>
    exact .inl (by simp [Context.mismatched, Context.emit, finish])
  | _ => exact .inl rfl

section

variable (indexed : Indexed config s)
include indexed

private theorem Indexed.update {s' : State} (block : Nat)
    (own : (config.block block).blockManagementType ≠ .dataset →
      (s'.admin block).dataIndex = (s.admin block).dataIndex ∨ (s'.admin block).dataIndex ≤ 1)
    (same : ∀ other ≠ block, s'.admin other = s.admin other) : Indexed config s' := by
  intro other kind
  by_cases here : other = block
  · subst here
    rcases own kind with own | own
    · rw [own]
      exact indexed other kind
    · exact own
  · rw [same other here]
    exact indexed other kind

theorem Indexed.driveBlock (answer : Answer) (p : Params) :
    Indexed config (driveBlock config answer p s).1 := by
  by_cases pending : (s.admin p.block).errorStatus = .pending
  · obtain ⟨y, drive, driven, eq⟩ := driveBlock_drives config answer p pending
    rw [eq]
    refine indexed.update p.block (fun _ => ?_) fun other ne => driveEnd_other y drive ne
    have own : ((driveEnd p s y drive).1.admin p.block).dataIndex = y.adm.dataIndex := by
      cases drive with
      | more => rw [(driveEnd_more p s y).1]
      | done => rw [(driveEnd_done p s y).1]; simp
      | aborted => simp [driveEnd, State.withContext]
    rw [own]
    exact driven.index
  · rw [NvM.driveBlock, if_neg pending]
    exact indexed

private theorem Indexed.setRecord {block : Nat}
    {adm : AdministrativeBlock} (index : adm.dataIndex = (s.admin block).dataIndex) :
    Indexed config { s with admin := Function.update s.admin block adm } := by
  refine indexed.update block (fun _ => .inl ?_) fun other ne => Function.update_of_ne ne ..
  simp only [Function.update_self]
  exact index

private theorem Indexed.startAll {selected : Nat → AdministrativeBlock → Bool}
    {start : Nat → AdministrativeBlock → AdministrativeBlock}
    (same : ∀ block adm, (start block adm).dataIndex = adm.dataIndex) :
    Indexed config (startAll config selected start s) := by
  have selects : Indexed config (selectBlocks config selected start s) := by
    intro block kind
    have before := indexed block kind
    simp only [selectBlocks]
    split
    · split
      · rw [same]
        exact before
      · exact before
    · exact before
  unfold NvM.startAll
  dsimp only
  split <;> exact selects

private theorem Indexed.multiblockMain (answers : Nat → Answer)
    (isWrite : Bool) : Indexed config (multiblockMain config answers isWrite s) := by
  refine multiblockMain_rule (Indexed config) (Indexed config) (fun _ indexed _ _ => indexed) ?_
    (fun _ indexed _ => indexed) indexed
  intro t indexed _ _
  have driven := indexed.driveBlock (answers t.currBlockIndex)
    (multiParams t.nvmState isWrite t.currBlockIndex)
  exact ⟨fun _ => driven, fun _ => driven⟩

private theorem Indexed.invalidate (answer : Answer) :
    Indexed config (invalidate config answer s) := by
  have invalidates := invalidate_invalidates config answer s
  generalize NvM.invalidate config answer s = s' at invalidates ⊢
  cases invalidates with
  | waits | pends | requests | again => exact indexed
  | finishes => exact indexed.setRecord rfl

theorem Indexed.mainFunction (answers : Nat → Answer) :
    Indexed config (mainFunction config answers s) := by
  have taken : Indexed config (takeRequest s) := by
    unfold takeRequest
    split
    · split
      · exact indexed.setRecord rfl
      · split <;> exact indexed
    · exact indexed
  unfold NvM.mainFunction process
  dsimp only
  split
  · exact taken
  · exact taken
  · split
    · unfold readAllInit
      split
      · exact Indexed.startAll (s := { takeRequest s with multiErrorStatus := .pending }) taken
          fun _ _ => rfl
      · exact taken
    · exact taken.multiblockMain answers false
  · split
    · refine taken.startAll fun block adm => ?_
      unfold startWrite
      split <;> rfl
    · exact taken.multiblockMain answers true
  · exact taken.driveBlock _ _
  · exact taken.driveBlock _ _
  · exact taken.driveBlock _ _
  · exact taken.invalidate _

theorem Indexed.step (call : Call) : Indexed config (step config s call).1 := by
  unfold NvM.step
  split
  · exact indexed
  dsimp only
  by_cases service : call.isService = true
  · have serves := perform_serves config { s with events := [] } service
    generalize perform config { s with events := [] } call = s' at serves ⊢
    cases serves with
    | asserts | refuses => exact indexed
    | accepts _ _ _ _ _ _ index => exact indexed.setRecord index
    | @sets block adm _ _ _ _ index =>
      refine indexed.update block (fun kind => .inl ?_) fun other ne => Function.update_of_ne ne ..
      simp [index kind]
  · cases call with
    | readAll | writeAll =>
      simp only [perform, requestAll]
      split <;> exact indexed
    | mainFunction answers =>
      exact Indexed.mainFunction (s := { s with events := [] }) indexed answers
    | jobEnd result spoiled =>
      obtain ⟨memIf, work, -, eq⟩ := jobEnd_ends result spoiled { s with events := [] }
      rw [perform, eq]
      exact indexed
    | ramWrite address value => exact indexed
    | _ => exact absurd rfl service

end

end

/-! ## One call -/

/-- What has been seen of a read at each stage. -/
def Watched (service : NvmState) (adm : AdministrativeBlock)
    (memIf : MemIf) (seen : Reading) : Prop :=
  if service.isRead then
    match adm.blockState with
    | .memifProcess =>
      seen = ⟨[adm.dataIndex], config.contents block adm.dataIndex memIf, none, false⟩
    | .calcCrcRead => adm.blockSubState = .substate0 ∧ ∃ set data,
        seen = ⟨[set], some data, some data, false⟩
    | _ => seen = .none
  else seen = .none

/-- What `Intact` asks of a call of `DriveBlock`. -/
def Intended (service : NvmState) (x : Context) (answer : Answer) : Prop :=
  service.isRead = true → answer ≠ .refused ∧
    x.adm.dataIndex < (config.block block).nvBlockNum ∧
    (x.adm.blockState = .memifProcess → x.memIf.result.failure = false) ∧
    (x.adm.blockState = .calcCrcRead → Matches config block x.ram x.adm)

section

variable {config : Config} {block : Nat} {service : NvmState} {dataPtr : Option Int}
variable {x y : Context} {drive : Drive} {answer : Answer} {seen : Reading}

private theorem reading_skips {event : Event} (seen : Reading)
    (apart : event.Apart NvmState.isRead block) : reading block seen event = some seen := by
  cases event with
  | memIfRead service block' | copied service block' | outcome service block'
  | finished service block' => exact if_neg (apart.not_watched rfl)
  | _ => rfl

section

variable (read : service.isRead) (seen : Reading)
include read

private theorem reading_copied (buffer : Int) (data : List Byte) :
    reading block seen (.copied service block buffer data) =
      some { seen with copied := some data } :=
  if_pos ⟨rfl, read⟩

private theorem reading_outcome (good : Bool) :
    reading block seen (.outcome service block good) =
      some { seen with good := seen.good || good } :=
  if_pos ⟨rfl, read⟩

private theorem reading_finished {status : RequestResult} (ends : seen.mayEnd status = true) :
    reading block seen (.finished service block status) = some .none :=
  (if_pos ⟨rfl, read⟩).trans (if_pos ends)

end

/-- What is asked of a call of `DriveBlock` for a read. -/
def ReadOn (config : Config) (block : Nat) (service : NvmState) (x y : Context) (drive : Drive)
    (seen : Reading) : Prop :=
  ∃ new, y.events = x.events ++ new ∧
    (drive = .more → ∃ next, watch (reading block) seen new = some next ∧
      (y.asserted = true ∨ Watched config block service y.adm y.memIf next)) ∧
    (drive = .done → watch (reading block) seen
      (new ++ [.finished service block y.adm.errorStatus]) = some .none)

private theorem ReadOn.more (new : List Event) {next : Reading} (events : y.events = x.events ++ new)
    (watched : watch (reading block) seen new = some next)
    (goes_on : y.asserted = true ∨ Watched config block service y.adm y.memIf next) :
    ReadOn config block service x y .more seen :=
  ⟨new, events, fun _ => ⟨next, watched, goes_on⟩, nofun⟩

private theorem ReadOn.done (new : List Event) (events : y.events = x.events ++ new)
    (watched : watch (reading block) seen
      (new ++ [.finished service block y.adm.errorStatus]) = some .none) :
    ReadOn config block service x y .done seen :=
  ⟨new, events, nofun, fun _ => watched⟩

private theorem Underway.read_contents (not_write : service.isWrite = false)
    (consistent : x.memIf.Consistent)
    (underway : Underway config x.memIf x.workBuffer service block dataPtr x.adm)
    (state : x.adm.blockState = .memifProcess) (ok : x.memIf.result = .ok) :
    config.contents block x.adm.dataIndex x.memIf =
      some (Buffer.bytes x.workBuffer 0 (config.block block).nvBlockLength) := by
  obtain ⟨-, data, stored, same⟩ := underway.contents consistent state not_write ok
  rw [Config.contents, stored, map_some, same]

private theorem Drives.read (read : service.isRead) (consistent : x.memIf.Consistent)
    (underway : Underway config x.memIf x.workBuffer service block dataPtr x.adm)
    (intended : Intended config block service x answer)
    (watched : Watched config block service x.adm x.memIf seen)
    (driven : Drives config (paramsOf service block dataPtr) answer x y drive) :
    ReadOn config block service x y drive seen := by
  have not_write : service.isWrite = false := by
    cases write : service.isWrite with
    | false => rfl
    | true => cases (NvmState.isRead_of_write write).symm.trans read
  obtain ⟨accepted, index, unfailed, matching⟩ := intended read
  simp only [Watched, read] at watched
  cases driven with
  | halted _ asserted _ events =>
    rcases events with events | ⟨-, events⟩
    · exact .more [] (by rw [events, List.append_nil]) rfl (.inl asserted)
    · exact .more [.outcome service block false] events
        (by rw [watch_cons, reading_outcome read]; rfl) (.inl asserted)
  | waits state =>
    rw [state] at watched
    refine .more [] (List.append_nil _).symm rfl (.inr ?_)
    simp only [Watched, read, Context.aim, state]
    exact watched
  | refused _ _ reason =>
    rcases reason with ⟨-, refused⟩ | excess
    · exact absurd refused accepted
    · exact absurd index (not_lt.mpr excess)
  | writes _ write | written _ write | counts _ write => cases not_write.symm.trans write
  | reads state =>
    rw [state] at watched
    obtain rfl := watched
    refine .more [_] rfl (by rw [watch_cons, reading, if_pos ⟨rfl, read⟩]; rfl) (.inr ?_)
    simp only [Watched, read]
    rfl
  | restores state _ restore =>
    have restores : service = .restoreBlockDefaults := of_decide_eq_true restore
    rw [restores] at read
    cases read
  | aborts =>
    refine ⟨[], (List.append_nil _).symm, fun more => ?_, fun done => ?_⟩
    · cases more
    · cases done
  | pends state =>
    refine .more [] (List.append_nil _).symm rfl (.inr ?_)
    simp only [Watched, read]
    exact watched
  | @delivers buffer _ state _ ok =>
    rw [state] at watched
    obtain rfl := watched
    refine .done [.copied service block buffer
      (Buffer.bytes x.workBuffer 0 (config.block block).nvBlockLength),
      .outcome service block true] (List.append_assoc _ [_] [_]) ?_
    rw [List.cons_append, watch_cons, reading_copied read, bind_some, List.singleton_append,
      watch_cons, reading_outcome read, bind_some, watch_cons, reading_finished read]
    · rfl
    · simp [Reading.mayEnd, underway.read_contents not_write consistent state ok, copyToRam,
        Context.emit, finish]
  | @checks buffer state _ ok =>
    rw [state] at watched
    obtain rfl := watched
    refine .more [.copied service block buffer
      (Buffer.bytes x.workBuffer 0 (config.block block).nvBlockLength)] rfl
      (by rw [watch_cons, reading_copied read]; rfl) (.inr ?_)
    simp only [Watched, read, copyToRam, Context.emit, true_and]
    exact ⟨_, _, by rw [underway.read_contents not_write consistent state ok]⟩
  | switches state failure | defaults state failure | initializes state failure =>
    cases failure.symm.trans (unfailed state)
  | fails state _ _ failure =>
    cases (failureStatus_failure failure).symm.trans (unfailed state)
  | sums state =>
    cases underway.stage with
    | sums other => cases other.symm.trans read
    | requests other | reading _ other | writing _ other
    | checking _ other => cases state.symm.trans other
  | verifies state =>
    rw [state] at watched
    obtain ⟨-, set, data, rfl⟩ := watched
    refine .done [.outcome service block true] rfl ?_
    rw [List.singleton_append, watch_cons, reading_outcome read, bind_some, watch_cons,
      reading_finished read]
    · rfl
    · simp [Reading.mayEnd, Context.emit, finish]
  | crcSwitches state _ saved bad | crcDefaults state _ saved bad | crcInitializes state _ saved bad
  | crcFails state _ saved bad => exact absurd (matching state _ saved) bad
  | settles state sub =>
    rw [state] at watched
    cases watched.1.symm.trans sub

theorem reading_follows (config : Config) (block : Nat) :
    Follows config block (reading block) (fun seen => seen = .none) (Watched config block)
      (fun service adm => service.isRead → adm.blockState ≠ .memifProcess)
      (Intended config block) where
  skips seen event other := reading_skips seen fun service _ => other service
  starts := by
    rintro service dataPtr adm memIf seen rfl begins ready
    unfold Watched
    split
    next read =>
      have first : adm.blockState = .memifReq := by
        obtain ⟨-, -, fits⟩ := ready
        cases service with
        | readAll => exact fits.2
        | readBlock => exact fits.2.2.resolve_right fun process => begins rfl process.1
        | _ => cases read
      rw [first]
    next => rfl
  drives := by
    intro service dataPtr answer x y drive seen _ consistent underway watched intended driven
    cases read : service.isRead with
    | false =>
      simp only [Watched, read] at watched
      obtain ⟨new, events, unwatched, finished⟩ :=
        driven.unwatched read fun event => reading_skips seen
      refine ⟨new, events, fun _ => ⟨seen, unwatched, .inr ?_⟩, fun _ => ⟨seen, finished, watched⟩⟩
      simp only [Watched, read]
      exact watched
    | true =>
      have underway := underway.resolve_right fun ⟨stale, begins⟩ => begins read stale.state
      obtain ⟨new, events, goes_on, ends⟩ :=
        driven.read read consistent underway intended watched
      exact ⟨new, events, goes_on, fun done => ⟨.none, ends done, rfl⟩⟩
  ended := by
    intro service dataPtr adm memIf work memIf' work' seen underway ends watched
    unfold Watched at watched ⊢
    split at watched
    next read =>
      rw [if_pos read]
      split at watched
      next state =>
        -- the job that ends is the read of this copy
        have same : config.contents block adm.dataIndex memIf' =
            config.contents block adm.dataIndex memIf := by
          cases underway.stage with
          | reading _ _ _ _ job =>
            cases ends with
            | nothing | read | failed => rfl
            | written running | invalidated running =>
              rcases job with own | ⟨free, -⟩
              · cases running.symm.trans own
              · cases running.symm.trans free
          | sums _ other | requests other
          | checking _ other => cases state.symm.trans other
          | writing write => cases (NvmState.isRead_of_write write).symm.trans read
        rw [same]
        exact watched
      next => exact watched
      next => exact watched
    next read =>
      rw [if_neg read]
      exact watched
  fresh other _ := other
  later := by
    intro service x y answer intended same state read
    obtain ⟨accepted, index, -, -⟩ := intended read
    rw [same]
    refine ⟨accepted, index, fun process => ?_, fun check => ?_⟩
    · rcases state with state | state <;> cases state.symm.trans process
    · rcases state with state | state <;> cases state.symm.trans check

end

/-! ## Runs -/

/-- In every run that meets `Intact` for a redundant block with two copies, the reads of the block
are as they should be, and the call that finds a copy good ends the read. In a favourable run every
request comes to its end. -/
theorem redundant_reads_survive {config : Config} (paired : Paired config) (block : Nat)
    (redundant : (config.block block).blockManagementType = .redundant) (ram workBuffer : Memory)
    (nv : Nat → Option Memory) :
    (∀ calls, Meets (step config) (Intact config block) (init config ram workBuffer nv) calls →
      let r := run (step config) (init config ram workBuffer nv) calls
      ∃ last, watch (reading block) .none r.2 = some last ∧
        (r.1.asserted = true ∨ last.good = false)) ∧
    ∀ calls, Favourable config (init config ram workBuffer nv) calls →
      Fulfils config (init config ram workBuffer nv) calls := by
  refine ⟨fun calls intact => ?_, requests_fulfilled paired ram workBuffer nv⟩
  have indexed : Indexed config (init config ram workBuffer nv) := fun _ _ => Nat.zero_le 1
  -- the copy in use exists
  have meets : Meets (step config)
      (fun s call => Intact config block s call ∧ Indexed config s)
      (init config ram workBuffer nv) calls :=
    Meets.strengthen (Indexed config) (fun s call indexed _ => indexed.step call)
      (fun s call indexed intact => ⟨intact, indexed⟩) indexed intact
  obtain ⟨last, watched, tracks⟩ := (reading_follows config block).watched
    (fun s call intact => intact.1.1) (fun s answers ⟨⟨_, intact⟩, indexed⟩ => by
      refine ⟨fun idle service serves read process => ?_, fun service serves read => ?_⟩
      · exact ((intact answers rfl service serves read).2.1 process).1 idle
      · obtain ⟨accepted, process, check⟩ := intact answers rfl service serves read
        have index := indexed block (by rw [redundant]; nofun)
        refine ⟨accepted, ?_, fun state => (process state).2, check⟩
        rw [paired block redundant]
        exact Nat.lt_succ_of_le index) ram workBuffer nv rfl meets
  refine ⟨last, watched, tracks.imp_right fun tracks =>
    tracks.elim (fun seen => seen.good = false) (by rintro rfl; rfl) ?_⟩
  intro service adm memIf seen
  unfold Watched at seen
  split at seen
  · split at seen
    · rw [seen]
    · obtain ⟨-, set, data, rfl⟩ := seen
      rfl
    · rw [seen]
      rfl
  · rw [seen]
    rfl

/-- One redundant block of one byte without a checksum, with default data. -/
def redundantConfig : Config :=
  { plainConfig with
    numOfNvramBlocks := 1
    block := fun _ => { plainBlock 0 1 with blockManagementType := .redundant, nvBlockNum := 2 } }

/-- The first copy holds 0x77, the second one 0x55. -/
def redundantInit : State :=
  init redundantConfig (fun _ => 0) (fun _ => 0) fun nr =>
    if nr = 1 then some fun _ => 0x77 else some fun _ => 0x55

/-- A read of the block: the request, its job and the end of the job. -/
def redundantCalls (result : JobResult) : List Call :=
  [.readBlock 0 none, .mainFunction fun _ => .accepted, .jobEnd result fun _ => 0,
    .mainFunction fun _ => .accepted]

theorem redundant_reads_survive_good :
    Event.finished .readBlock 0 .ok ∈
      (run (step redundantConfig) redundantInit (redundantCalls .ok)).2 ∧
    (∃ last, watch (reading 0) .none
      (run (step redundantConfig) redundantInit (redundantCalls .ok)).2 = some last) ∧
    Fulfils redundantConfig redundantInit (turns (.readBlock 0 none)) := by
  have paired : Paired redundantConfig := fun _ _ => rfl
  obtain ⟨survive, fulfilled⟩ := redundant_reads_survive paired 0 rfl (fun _ => 0) (fun _ => 0)
    fun nr => if nr = 1 then some fun _ => 0x77 else some fun _ => 0x55
  obtain ⟨last, watched, -⟩ := survive (redundantCalls .ok) (by decide +kernel)
  exact ⟨by decide +kernel, ⟨last, watched⟩,
    fulfilled _ (.of_turns (by decide +kernel) (by decide +kernel))⟩

/-- The first copy fails: the default data is delivered, and the second copy is not tried. -/
theorem second_copy_is_not_tried :
    (run (step redundantConfig) redundantInit (redundantCalls .failed)).2 =
      [.accepted { op := .readBlock, block := 0, dataPtr := none },
        .memIfRead .readBlock 0 0 (some 0) (some [0x77]), .outcome .readBlock 0 false,
        .copied .readBlock 0 0 [0xAA], .finished .readBlock 0 .ok] ∧
    watch (reading 0) .none
      (run (step redundantConfig) redundantInit (redundantCalls .failed)).2 = none := by
  decide +kernel

end NvM
