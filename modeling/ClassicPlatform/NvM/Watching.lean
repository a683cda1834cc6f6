import ClassicPlatform.Lib.Machine
import ClassicPlatform.NvM.Services

/-!
# Watching the requests of one block

A monitor of one block reads what is observed of the block's requests. While the block is driven
the monitor is in a phase that fits the block's record and the memory interface, and at rest
otherwise. If it follows every call of `DriveBlock`, it follows every run of undisturbed calls,
whether the block is driven for a request of its own or for all blocks.
-/
namespace NvM

open Machine List NvmState State
open ByteLanes (Memory)

/-- The service and the block whose processing is observed. -/
def Event.request : Event → Option (NvmState × Nat)
  | .memIfRead service block _ _ _ => some (service, block)
  | .memIfWrite service block _ _ _ => some (service, block)
  | .outcome service block _ | .copied service block _ _ | .finished service block _ =>
    some (service, block)
  | _ => none

/-- The service for which the main function drives a block that is pending. -/
def State.serviceOf (config : Config) (s : State) (block : Nat) : Option NvmState :=
  if (s.admin block).errorStatus = .pending then
    if s.nvmState = .idle then
      (s.queue.head?.filter fun entry => entry.block = block).map QueueEntry.op
    else if s.nvmState.isAll then
      if s.currBlockIndex ≤ block ∧ block < config.numOfNvramBlocks then some s.nvmState else none
    else if s.qEntry.block = block then some s.nvmState
    else none
  else none

/-- The request for which a block is being driven, between two calls. -/
def State.drivenFor (config : Config) (s : State) (block : Nat) : Option NvmState :=
  if s.nvmState.isSingle ∧ s.qEntry.block = block ∨
    s.nvmState.isAll ∧ s.currBlockIndex = block ∧ block < config.numOfNvramBlocks ∧
      (s.admin block).errorStatus = .pending then some s.nvmState
  else none

/-- The answers that a call of the main function gets. -/
def Call.answers : Call → Option (Nat → Answer)
  | .mainFunction answers => some answers
  | _ => none

/-- How a monitor follows the requests of `block`. Requests begin with a record that `Begins`
admits, and `Allowed` is what is asked of a call of `DriveBlock`. -/
structure Follows {Monitor : Type} (config : Config) (block : Nat)
    (monitor : Monitor → Event → Option Monitor) (Rest : Monitor → Prop)
    (Phase : NvmState → AdministrativeBlock → MemIf → Monitor → Prop)
    (Begins : NvmState → AdministrativeBlock → Prop)
    (Allowed : NvmState → Context → Answer → Prop) : Prop where
  skips : ∀ seen event, (∀ service, event.request ≠ some (service, block)) →
    monitor seen event = some seen
  starts : ∀ {service dataPtr adm memIf seen}, Rest seen → Begins service adm →
    Ready config service block dataPtr adm → Phase service adm memIf seen
  drives : ∀ {service dataPtr answer x y drive seen},
    service.isAll = true ∨ service.isSingle = true → x.memIf.Consistent →
    Underway config x.memIf x.workBuffer service block dataPtr x.adm ∨
      Stale config x.memIf service block dataPtr x.adm ∧ Begins service x.adm →
    Phase service x.adm x.memIf seen → Allowed service x answer →
    Drives config (paramsOf service block dataPtr) answer x y drive →
    ∃ new, y.events = x.events ++ new ∧
      (drive = .more → ∃ next, watch monitor seen new = some next ∧
        (y.asserted = true ∨ Phase service y.adm y.memIf next)) ∧
      (drive = .done → ∃ next, watch monitor seen
        (new ++ [.finished service block y.adm.errorStatus]) = some next ∧ Rest next)
  ended : ∀ {service dataPtr adm memIf work memIf' work' seen},
    Underway config memIf work service block dataPtr adm → JobEnds memIf work memIf' work' →
    Phase service adm memIf seen → Phase service adm memIf' seen
  fresh : ∀ {service adm}, adm.blockState ≠ .memifProcess → Begins service adm
  later : ∀ {service x y answer}, Allowed service x answer → y.adm = x.adm →
    x.adm.blockState = .memifReq ∨ x.adm.blockState = .calcCrcWrite → Allowed service y answer

/-- What a call of the main function must meet for the block. -/
structure Permits (config : Config) (block : Nat) (Begins : NvmState → AdministrativeBlock → Prop)
    (Allowed : NvmState → Context → Answer → Prop) (answers : Nat → Answer) (s : State) :
    Prop where
  begins : s.nvmState = .idle → ∀ service ∈ s.serviceOf config block, Begins service (s.admin block)
  allowed : ∀ service ∈ s.serviceOf config block, Allowed service (s.context block) (answers block)

section

variable {config : Config}

/-! ## What is observed of a call -/

variable {answer : Answer}

theorem Drives.observed {p : Params} {x y : Context} {drive : Drive}
    (driven : Drives config p answer x y drive) :
    ∃ new, y.events = x.events ++ new ∧
      ∀ event ∈ new, event.request = some (p.service, p.block) := by
  cases driven with
  | halted _ _ _ events =>
    rcases events with events | ⟨-, events⟩
    · exact ⟨[], by rw [events, append_nil], nofun⟩
    · exact ⟨_, events, by simp [Event.request]⟩
  | waits | refused | aborts | pends | sums | settles =>
    exact ⟨[], (append_nil _).symm, nofun⟩
  | writes | reads | restores | written | checks | counts | switches | initializes | fails
  | verifies | crcSwitches | crcInitializes | crcFails =>
    exact ⟨[_], rfl, by simp [Event.request]⟩
  | delivers | defaults | crcDefaults =>
    exact ⟨[_, _], append_assoc _ _ _, by simp [Event.request]⟩

variable {Monitor : Type} {block : Nat} {monitor : Monitor → Event → Option Monitor}

variable {service : NvmState}

/-- The event is not one of the services that are watched in `block`. -/
def Event.Apart (kind : NvmState → Bool) (block : Nat) (event : Event) : Prop :=
  ∀ service, kind service = true → event.request ≠ some (service, block)

variable {kind : NvmState → Bool}

theorem Event.Apart.not_watched {event : Event} {block' : Nat} (apart : event.Apart kind block)
    (same : event.request = some (service, block')) : ¬ (block' = block ∧ kind service) := by
  rintro ⟨rfl, watched⟩
  exact apart service watched same

section

variable {x y : Context} {drive : Drive} {seen : Monitor}

private theorem Drives.unnoticed {p : Params}
    (skips : ∀ event : Event, event.request = some (p.service, p.block) →
      monitor seen event = some seen) (driven : Drives config p answer x y drive) :
    ∃ new, y.events = x.events ++ new ∧ watch monitor seen new = some seen ∧
      watch monitor seen (new ++ [.finished p.service p.block y.adm.errorStatus]) =
        some seen := by
  obtain ⟨new, events, request⟩ := driven.observed
  refine ⟨new, events, watch_skip fun event member => skips event (request event member),
    watch_skip fun event member => skips event ?_⟩
  rcases mem_append.mp member with member | last
  · exact request event member
  · rw [mem_singleton.mp last]
    rfl

theorem Drives.unwatched {dataPtr : Option Int} (other : kind service = false)
    (skips : ∀ event : Event, event.Apart kind block → monitor seen event = some seen)
    (driven : Drives config (paramsOf service block dataPtr) answer x y drive) :
    ∃ new, y.events = x.events ++ new ∧ watch monitor seen new = some seen ∧
      watch monitor seen (new ++ [.finished service block y.adm.errorStatus]) = some seen := by
  refine driven.unnoticed fun event same => skips event fun watched is_watched same' => ?_
  obtain rfl := (Prod.mk.inj (Option.some.inj (same.symm.trans same'))).1
  cases other.symm.trans is_watched

end

variable {Rest : Monitor → Prop}
variable {Phase : NvmState → AdministrativeBlock → MemIf → Monitor → Prop}
variable {Begins : NvmState → AdministrativeBlock → Prop}
variable {Allowed : NvmState → Context → Answer → Prop} {s : State} {start seen : Monitor}

section

variable (follows : Follows config block monitor Rest Phase Begins Allowed)
include follows

private theorem Follows.unnoticed {events : List Event}
    (about : ∀ event ∈ events, event.request = none) : watch monitor seen events = some seen :=
  watch_skip fun event member => follows.skips _ _ fun _ => by simp [about event member]

theorem Follows.drove
    {driven : Nat} {dataPtr : Option Int} (watched : watch monitor start s.events = some seen)
    (drives : service.isAll ∨ service.isSingle) (consistent : s.memIf.Consistent)
    (underway : Underway config s.memIf s.workBuffer service driven dataPtr (s.admin driven) ∨
      Stale config s.memIf service driven dataPtr (s.admin driven) ∧
        (driven = block → Begins service (s.admin driven)))
    (phase : driven = block → Phase service (s.admin block) s.memIf seen)
    (allowed : driven = block → Allowed service (s.context block) answer) :
    let r := driveBlock config answer (paramsOf service driven dataPtr) s
    ∃ next, watch monitor start r.1.events = some next ∧ (driven ≠ block → next = seen) ∧
      (driven = block →
        (r.2 = false → r.1.asserted = true ∨ Phase service (r.1.admin block) r.1.memIf next) ∧
          (r.2 = true → Rest next)) := by
  obtain ⟨y, drive, drove, eq⟩ := driveBlock_drives config answer
    (paramsOf service driven dataPtr) (underway.elim Underway.pending fun stale => stale.1.pending)
  have buffer : ramData config driven dataPtr ≠ none :=
    underway.elim Underway.buffer fun stale => stale.1.buffer
  have watch_new {new last : List Event} (events : y.events = s.events ++ new) :
      watch monitor start (y.events ++ last) = watch monitor seen (new ++ last) := by
    rw [events, append_assoc, watch_append, watched, Option.bind_some]
  simp only [eq]
  by_cases here : driven = block
  · subst here
    obtain ⟨new, events, goes_on, ends⟩ :=
      follows.drives drives consistent
        (underway.imp_right fun ⟨stale, begins⟩ => ⟨stale, begins rfl⟩) (phase rfl) (allowed rfl)
        drove
    cases drive with
    | aborted =>
      cases drove with
      | aborts _ null => exact absurd null buffer
    | more =>
      obtain ⟨next, watched', phase'⟩ := goes_on rfl
      obtain ⟨adm, -, -, observed⟩ := driveEnd_more (paramsOf service driven dataPtr) s y
      refine ⟨next, ?_, absurd rfl, fun _ => ⟨fun _ => ?_, nofun⟩⟩
      · rw [observed, ← append_nil y.events, watch_new events, append_nil, watched']
      · exact phase'.imp_right fun phase' => adm.symm ▸ phase'
    | done =>
      obtain ⟨next, watched', rest⟩ := ends rfl
      refine ⟨next, ?_, absurd rfl, fun _ => ⟨nofun, fun _ => rest⟩⟩
      rw [(driveEnd_done _ s y).2.2.2, watch_new events]
      exact watched'
  · -- the monitor does not notice
    obtain ⟨new, events, skipped, finished⟩ := drove.unnoticed fun event same =>
      follows.skips seen event fun _ same' =>
        here (Prod.mk.inj (Option.some.inj (same.symm.trans same'))).2
    refine ⟨seen, ?_, fun _ => rfl, fun same => absurd same here⟩
    cases drive with
    | aborted | more =>
      change watch monitor start y.events = _
      rw [← append_nil y.events, watch_new events, append_nil, skipped]
    | done =>
      rw [(driveEnd_done _ s y).2.2.2, watch_new events]
      exact finished

/-! ## The main function -/

end

/-- The monitor is in the phase of the block. -/
def Tracks (config : Config) (block : Nat) (Rest : Monitor → Prop)
    (Phase : NvmState → AdministrativeBlock → MemIf → Monitor → Prop) (s : State)
    (seen : Monitor) : Prop :=
  match s.drivenFor config block with
  | some service => Phase service (s.admin block) s.memIf seen
  | none => Rest seen

theorem Tracks.of_phase (driven : s.drivenFor config block = some service)
    (phase : Phase service (s.admin block) s.memIf seen) :
    Tracks config block Rest Phase s seen := by
  simp only [Tracks, driven]
  exact phase

theorem Tracks.of_rest (resting : s.drivenFor config block = none) (rest : Rest seen) :
    Tracks config block Rest Phase s seen := by
  simp only [Tracks, resting]
  exact rest

section

variable (tracks : Tracks config block Rest Phase s seen)
include tracks

theorem Tracks.phase (driven : s.drivenFor config block = some service) :
    Phase service (s.admin block) s.memIf seen := by
  simp only [Tracks, driven] at tracks
  exact tracks

theorem Tracks.rest (resting : s.drivenFor config block = none) : Rest seen := by
  simp only [Tracks, resting] at tracks
  exact tracks

theorem Tracks.elim (Property : Monitor → Prop)
    (rest : Rest seen → Property seen)
    (phase : ∀ service adm memIf, Phase service adm memIf seen → Property seen) : Property seen := by
  unfold Tracks at tracks
  split at tracks
  · exact phase _ _ _ tracks
  · exact rest tracks

end

theorem drivenFor_single (single : s.nvmState.isSingle) :
    s.drivenFor config block = if s.qEntry.block = block then some s.nvmState else none := by
  have all := isAll_of_single (.inl single)
  simp [drivenFor, single, all]

theorem drivenFor_other (other : s.nvmState = .idle ∨ s.nvmState = .invalidateNvBlock) :
    s.drivenFor config block = none := by
  rcases other with state | state <;> simp [drivenFor, state, isSingle, isAll]

theorem NvmState.isSingle_of_all (all : service.isAll) : service.isSingle = false := by
  cases service <;> simp_all [isAll, isSingle]

private theorem Follows.single
    (follows : Follows config block monitor Rest Phase Begins Allowed) {answers : Nat → Answer}
    (around : Surroundings config s) (single : s.nvmState.isSingle)
    (underway : s.EntryUnderway config ∨ s.EntryStale config ∧
        (s.qEntry.block = block → Begins s.nvmState (s.admin s.qEntry.block)))
    (watched : watch monitor start s.events = some seen)
    (tracks : Tracks config block Rest Phase s seen)
    (allowed : s.qEntry.block = block → Allowed s.nvmState (s.context block) (answers block)) :
    let s' := (driveBlock config (answers s.qEntry.block) s.params s).1
    ∃ next, watch monitor start s'.events = some next ∧
      (s'.asserted = true ∨ Tracks config block Rest Phase s' next) := by
  intro s'
  have phase (here : s.qEntry.block = block) : Phase s.nvmState (s.admin block) s.memIf seen :=
    tracks.phase (by rw [drivenFor_single single, if_pos here])
  have allowed' (here : s.qEntry.block = block) :
      Allowed s.nvmState (s.context block) (answers s.qEntry.block) := by
    rw [here]
    exact allowed here
  obtain ⟨next, watched', other, own⟩ :=
    follows.drove watched (.inr single) around.result underway phase allowed'
  refine ⟨next, watched', ?_⟩
  rcases driveBlock_kept (.inr single) around.result (underway.imp_right And.left)
    (answers s.qEntry.block) with
    ⟨-, halted⟩ | ⟨beside, -, kept⟩
  · exact .inl halted
  by_cases here : s.qEntry.block = block
  · rcases kept with ⟨more, state, -⟩ | ⟨done, state, -⟩
    · have driven : s'.drivenFor config block = some s.nvmState := by
        have single' : s'.nvmState.isSingle = true := state ▸ single
        rw [drivenFor_single single', beside.qEntry, if_pos here, state]
      exact ((own here).1 more).imp_right (.of_phase driven)
    · rw [isAll_of_single (.inl single)] at state
      exact .inr (.of_rest (drivenFor_other (.inl state)) ((own here).2 done))
  · rw [other here]
    have rest : Rest seen := tracks.rest (by rw [drivenFor_single single, if_neg here])
    refine .inr (.of_rest ?_ rest)
    rcases kept with ⟨-, state, -⟩ | ⟨-, state, -⟩
    · have single' : s'.nvmState.isSingle = true := state ▸ single
      rw [drivenFor_single single', beside.qEntry, if_neg here]
    · rw [isAll_of_single (.inl single)] at state
      exact drivenFor_other (.inl state)

theorem drivenFor_all (all : s.nvmState.isAll) (elsewhere : s.currBlockIndex ≠ block) :
    s.drivenFor config block = none := by
  have single := isSingle_of_all all
  simp [drivenFor, single, elsewhere]

theorem drivenFor_here (all : s.nvmState.isAll) (here : s.currBlockIndex = block)
    (known : block < config.numOfNvramBlocks) (pending : (s.admin block).errorStatus = .pending) :
    s.drivenFor config block = some s.nvmState := by
  simp [drivenFor, all, here, known, pending]

theorem Ready.begins {adm : AdministrativeBlock}
    (all : service.isAll) (ready : Ready config service block none adm) :
    adm.blockState = .memifReq ∨ adm.blockState = .calcCrcWrite := by
  rcases ready.state (.inl all) with ⟨request, -⟩ | sums | ⟨rfl, -⟩
  · exact .inl request
  · exact .inr sums
  · cases all

section

variable (follows : Follows config block monitor Rest Phase Begins Allowed)
include follows

private theorem Follows.arrives
    (all : s.nvmState.isAll) (rest : Rest seen)
    (expects : s.currBlockIndex = block → block < config.numOfNvramBlocks →
      Expects config s block) : Tracks config block Rest Phase s seen := by
  by_cases driven : s.currBlockIndex = block ∧ block < config.numOfNvramBlocks ∧
      (s.admin block).errorStatus = .pending
  · obtain ⟨here, known, pending⟩ := driven
    refine .of_phase (drivenFor_here all here known pending) ?_
    rcases expects here known with ⟨skipped, -⟩ | ready
    · cases skipped.symm.trans pending
    · refine follows.starts rest (follows.fresh ?_) ready
      rcases ready.begins all with state | state <;> rw [state] <;> nofun
  · refine .of_rest ?_ rest
    have single := isSingle_of_all all
    simp only [drivenFor, single, Bool.false_eq_true, false_and, false_or, all, true_and]
    exact if_neg driven

private theorem Follows.all {answers : Nat → Answer}
    (none_yet : s.events = []) (around : Surroundings config s) (passing : Passing config s)
    (tracks : Tracks config block Rest Phase s seen)
    (allowed : s.currBlockIndex ≤ block → block < config.numOfNvramBlocks →
      (s.admin block).errorStatus = .pending →
      Allowed s.nvmState (s.context block) (answers block)) :
    let s' := multiblockMain config answers s.nvmState.isWrite s
    ∃ next, watch monitor seen s'.events = some next ∧
      (s'.asserted = true ∨ Tracks config block Rest Phase s' next) := by
  have allowed_at {t : State} (reaches : Reaches config s t) (here : t.currBlockIndex = block)
      (known : block < config.numOfNvramBlocks)
      (pending : (t.admin block).errorStatus = .pending) :
      Allowed t.nvmState (t.context block) (answers t.currBlockIndex) := by
    rw [here]
    rcases reaches.untouched with rfl | ⟨later, before⟩
    · exact allowed (le_of_eq here) known pending
    · -- the block has not been driven in this call
      have same : t.admin block = s.admin block := before block (le_of_eq here)
      have behind : s.currBlockIndex < block := here ▸ later
      rw [same] at pending
      rcases passing.ahead block behind known with ⟨skipped, -⟩ | ready
      · cases skipped.symm.trans pending
      · rw [reaches.state]
        exact follows.later (allowed (le_of_lt behind) known pending) same
          (ready.begins passing.service)
  refine passing.rule
    (fun t => ∃ next, watch monitor seen t.events = some next ∧
      Tracks config block Rest Phase t next)
    (fun t => ∃ next, watch monitor seen t.events = some next ∧
      (t.asserted = true ∨ Tracks config block Rest Phase t next)) around
    ⟨seen, by rw [none_yet]; rfl, tracks⟩ ?skip ?drives ?finish
  case skip =>
    rintro t ⟨-, passing', -, -⟩ ⟨seen', watched, tracks⟩ inside skipped
    refine ⟨seen', watched, ?_⟩
    refine follows.arrives passing'.service (tracks.rest ?_) fun here known => ?_
    · by_cases here : t.currBlockIndex = block
      · simp [drivenFor, isSingle_of_all passing'.service, here ▸ skipped]
      · exact drivenFor_all passing'.service here
    · exact passing'.ahead block (here ▸ Nat.lt_succ_self _) known
  case drives =>
    rintro t reaches ⟨seen', watched, tracks⟩ inside underway r
    have passing' := reaches.passing
    obtain ⟨next, watched', other, own⟩ := follows.drove watched (.inl passing'.service)
      reaches.around.result (.inl underway)
      (fun here => tracks.phase (drivenFor_here passing'.service here (here ▸ inside)
        (here ▸ underway.pending)))
      (fun here => allowed_at reaches here (here ▸ inside) (here ▸ underway.pending))
    refine ⟨fun more kept => ⟨next, watched', ?_⟩, fun done beside state' => ⟨next, watched', ?_⟩⟩
    · refine kept.elim .inl fun ⟨_, beside, state', pending⟩ => ?_
      have all : r.1.nvmState.isAll = true := state' ▸ passing'.service
      by_cases here : t.currBlockIndex = block
      · refine ((own here).1 more).imp_right fun phase => ?_
        have driven := drivenFor_here all (beside.curr.trans here) (here ▸ inside) (here ▸ pending)
        exact .of_phase (driven.trans (congrArg some state')) phase
      · rw [other here]
        refine .inr (.of_rest (drivenFor_all all (by rw [beside.curr]; exact here)) ?_)
        exact tracks.rest (drivenFor_all passing'.service here)
    · have all : r.1.nvmState.isAll = true := state' ▸ passing'.service
      have rest : Rest next := by
        by_cases here : t.currBlockIndex = block
        · exact (own here).2 done
        · rw [other here]
          exact tracks.rest (drivenFor_all passing'.service here)
      refine follows.arrives all rest fun arrived known => ?_
      have behind : t.currBlockIndex < block := Nat.lt_of_lt_of_eq (Nat.lt_succ_self _) arrived
      exact (passing'.expects beside state' behind known : Expects config r.1 block)
  case finish =>
    rintro t ⟨-, passing', -, -⟩ ⟨seen', watched, tracks⟩ passed
    refine ⟨seen', ?_, .inr (.of_rest (drivenFor_other (.inl rfl)) (tracks.rest ?_))⟩
    · rw [finishAll, watch_append, watched]
      exact follows.unnoticed (by simp [Event.request])
    · have single := isSingle_of_all passing'.service
      simp only [drivenFor, single, Bool.false_eq_true, false_and, false_or]
      refine if_neg fun ⟨_, here, known, _⟩ => ?_
      omega

end

theorem serviceOf_head {entry : QueueEntry} {rest : List QueueEntry} (idle : s.nvmState = .idle)
    (queue : s.queue = entry :: rest) (pending : (s.admin entry.block).errorStatus = .pending) :
    s.serviceOf config entry.block = some entry.op := by
  simp [serviceOf, idle, queue, pending]

theorem serviceOf_single (single : s.nvmState.isSingle)
    (pending : (s.admin s.qEntry.block).errorStatus = .pending) :
    s.serviceOf config s.qEntry.block = some s.nvmState := by
  have all := isAll_of_single (.inl single)
  have idle : s.nvmState ≠ .idle := by
    intro idle
    rw [idle] at single
    cases single
  simp [serviceOf, idle, all, pending]

theorem serviceOf_all (all : s.nvmState.isAll) (ahead : s.currBlockIndex ≤ block)
    (known : block < config.numOfNvramBlocks) (pending : (s.admin block).errorStatus = .pending) :
    s.serviceOf config block = some s.nvmState := by
  have idle : s.nvmState ≠ .idle := by
    intro idle
    rw [idle] at all
    cases all
  simp [serviceOf, idle, all, pending, ahead, known]

section

variable (orderly : Orderly config s)
include orderly

theorem Follows.mainFunction (follows : Follows config block monitor Rest Phase Begins Allowed)
    {answers : Nat → Answer} (none_yet : s.events = [])
    (tracks : Tracks config block Rest Phase s seen)
    (permits : Permits config block Begins Allowed answers s) :
    let s' := mainFunction config answers s
    ∃ next, watch monitor seen s'.events = some next ∧
      (s'.asserted = true ∨ Tracks config block Rest Phase s' next) := by
  intro s'
  have call := orderly.mainCall answers
  change MainCall config answers s s' at call
  generalize s' = last at call ⊢
  have rest (idle : s.nvmState = .idle) : Rest seen :=
    tracks.rest (drivenFor_other (.inl idle))
  cases call with
  | rests => exact ⟨seen, by rw [none_yet]; rfl, .inr tracks⟩
  | starts idle empty waits free starts =>
    cases starts with
    | halts _ _ asserted events => exact ⟨seen, by rw [events, none_yet]; rfl, .inl asserted⟩
    | ends state events =>
      refine ⟨seen, ?_, .inr (.of_rest ?_ (rest idle))⟩
      · rw [events, none_yet]
        exact follows.unnoticed (by simp [Event.request])
      · exact drivenFor_other (.inl state)
    | begins state curr _ expects _ events =>
      refine ⟨seen, ?_, .inr ?_⟩
      · rw [events, none_yet]
        exact follows.unnoticed (by simp [Event.request])
      · exact follows.arrives (state ▸ waits) (rest idle) fun _ known => expects block known
  | drives taken around single op apart underway =>
    cases taken with
    | inProgress busy =>
      have underway := underway.resolve_right fun stale => busy stale.2
      exact follows.single around single (.inl underway) (by rw [none_yet]; rfl) tracks
        (fun here => permits.allowed _ (here ▸ serviceOf_single single underway.pending))
    | @popped entry others idle queue free ready =>
      have service : s.serviceOf config entry.block = some entry.op :=
        serviceOf_head idle queue ready.1
      have begins (here : entry.block = block) : Begins entry.op (s.admin entry.block) := by
        subst here
        exact permits.begins idle _ service
      have popped : Tracks config block Rest Phase (s.popped entry others) seen := by
        have driven : (s.popped entry others).drivenFor config block =
            if entry.block = block then some entry.op else none := drivenFor_single single
        by_cases here : entry.block = block
        · subst here
          refine .of_phase (driven.trans (if_pos rfl)) ?_
          exact follows.starts (rest idle) (begins rfl) ready
        · exact .of_rest (driven.trans (if_neg here)) (rest idle)
      have allowed (here : entry.block = block) :
          Allowed entry.op (s.context block) (answers block) :=
        permits.allowed _ (here ▸ service)
      exact follows.single around single (underway.imp_right fun stale => ⟨stale.1, begins⟩)
        (show watch monitor seen s.events = _ by rw [none_yet]; rfl) popped allowed
  | @invalidates t taken around state =>
    -- an invalidation does not concern the monitor
    obtain ⟨none_new, rest⟩ : t.events = [] ∧ Rest seen := by
      cases taken with
      | inProgress => exact ⟨none_yet, tracks.rest (drivenFor_other (.inr state))⟩
      | popped idle => exact ⟨none_yet, rest idle⟩
    obtain ⟨-, same, left, -⟩ := (invalidate_invalidates config (answers t.qEntry.block) t).fields
    refine ⟨seen, by rw [same, none_new]; rfl, .inr (.of_rest ?_ rest)⟩
    exact drivenFor_other (left.imp_right (·.trans state))
  | all busy passing =>
    exact follows.all none_yet orderly.toSurroundings passing tracks fun ahead known pending =>
      permits.allowed _ (serviceOf_all passing.service ahead known pending)

/-! ## Runs -/

theorem Orderly.drivenUnderway (driven : s.drivenFor config block = some service) :
    ∃ dataPtr, Underway config s.memIf s.workBuffer service block dataPtr (s.admin block) := by
  unfold drivenFor at driven
  split at driven
  next reason =>
    cases driven
    rcases reason with ⟨single, rfl⟩ | ⟨all, rfl, known, pending⟩
    · exact ⟨_, orderly.underway single⟩
    · rcases (orderly.passing all).here known with ⟨skipped, -⟩ | underway
      · cases skipped.symm.trans pending
      · exact ⟨none, underway⟩
  next => cases driven

private theorem Tracks.quiet {s' : State} (tracks : Tracks config block Rest Phase s seen)
    (orderly' : Orderly config s') (quiet : Quiet s s') :
    Tracks config block Rest Phase s' seen := by
  have same : s'.drivenFor config block = s.drivenFor config block := by
    unfold drivenFor
    rw [quiet.nvmState, quiet.qEntry, quiet.curr]
    congr 1
    refine propext (or_congr Iff.rfl (and_congr_right fun all => and_congr_right fun here => ?_))
    exact and_congr_right fun _ => quiet.ahead orderly' all (le_of_eq here)
  cases driven : s.drivenFor config block with
  | none => exact .of_rest (same.trans driven) (tracks.rest driven)
  | some service =>
    obtain ⟨dataPtr, underway⟩ := orderly.drivenUnderway driven
    refine .of_phase (same.trans driven) ?_
    rw [quiet.records block underway.pending, quiet.memIf]
    exact tracks.phase driven

end

section

variable (follows : Follows config block monitor Rest Phase Begins Allowed)
include follows

private theorem Follows.jobEnd (orderly : Orderly config s)
    (tracks : Tracks config block Rest Phase s seen) (result : JobResult) (spoiled : Memory) :
    Tracks config block Rest Phase (jobEnd result spoiled s) seen := by
  obtain ⟨memIf, work, ends, eq⟩ := jobEnd_ends result spoiled s
  rw [eq]
  cases driven : s.drivenFor config block with
  | none => exact .of_rest driven (tracks.rest driven)
  | some service =>
    obtain ⟨dataPtr, underway⟩ := orderly.drivenUnderway driven
    exact .of_phase driven (follows.ended underway ends (tracks.phase driven))

theorem Follows.perform
    (orderly : Orderly config s) (none_yet : s.events = [])
    (tracks : Tracks config block Rest Phase s seen) {call : Call}
    (undisturbed : Undisturbed config s call) (permits : ∀ answers, call = .mainFunction answers →
      Permits config block Begins Allowed answers s) :
    let s' := perform config s call
    ∃ next, watch monitor seen s'.events = some next ∧
      (s'.asserted = true ∨ Tracks config block Rest Phase s' next) := by
  by_cases service : call.isService = true
  · rcases perform_quiet service undisturbed with ⟨halted, events⟩ | quiet
    · exact ⟨seen, by rw [events, none_yet]; rfl, .inl halted⟩
    · refine ⟨seen, ?_, (orderly.perform call undisturbed).imp_right fun orderly' =>
        tracks.quiet orderly orderly' quiet⟩
      rcases quiet.accepted with ⟨-, events⟩ | ⟨entry, -, events, -⟩
      · rw [events, none_yet]
        rfl
      · rw [events, none_yet]
        exact follows.unnoticed (by simp [Event.request])
  · cases call with
    | mainFunction answers => exact follows.mainFunction orderly none_yet tracks (permits _ rfl)
    | jobEnd result spoiled =>
      refine ⟨seen, ?_, .inr (follows.jobEnd orderly tracks result spoiled)⟩
      obtain ⟨memIf, work, -, eq⟩ := jobEnd_ends result spoiled s
      rw [NvM.perform, eq, none_yet]
      rfl
    | ramWrite address value => exact ⟨seen, by rw [NvM.perform, none_yet]; rfl, .inr tracks⟩
    | readAll | writeAll =>
      refine ⟨seen, ?_, .inr ?_⟩
      · simp only [NvM.perform, requestAll]
        split <;> rw [none_yet] <;> rfl
      · simp only [NvM.perform, requestAll]
        split <;> exact tracks
    | _ => exact absurd rfl service

theorem Follows.watched
    {condition : State → Call → Prop}
    (undisturbed : ∀ s call, condition s call → Undisturbed config s call)
    (permits : ∀ s answers, condition s (.mainFunction answers) →
      Permits config block Begins Allowed answers { s with events := [] })
    (ram workBuffer : Memory) (nv : Nat → Option Memory) (rest : Rest start) {calls : List Call}
    (meets : Meets (step config) condition (init config ram workBuffer nv) calls) :
    let r := run (step config) (init config ram workBuffer nv) calls
    ∃ last, watch monitor start r.2 = some last ∧
      (r.1.asserted = true ∨ Tracks config block Rest Phase r.1 last) := by
  have resting : Tracks config block Rest Phase (init config ram workBuffer nv) start :=
    .of_rest (drivenFor_other (.inl rfl)) rest
  refine (run_watched
    (fun s seen => s.asserted = true ∨ Orderly config s ∧ Tracks config block Rest Phase s seen)
    (.inr ⟨init_orderly config ram workBuffer nv, resting⟩) meets ?_).imp
    fun _ => .imp_right (.imp_right And.right)
  intro s call seen tracks allowed
  by_cases asserted : s.asserted = true
  · simp only [step, asserted]
    exact ⟨seen, rfl, .inl asserted⟩
  · obtain ⟨orderly, tracks⟩ := tracks.resolve_left asserted
    have in_order : InOrder config (step config s call).1 :=
      InOrder.stepped (.inr orderly) (undisturbed s call allowed)
    rw [step, if_neg asserted] at in_order ⊢
    have cleared : Orderly config { s with events := [] } := orderly.congr rfl
    obtain ⟨next, watched, tracks'⟩ := follows.perform cleared rfl tracks
      (undisturbed s call allowed).cleared (by rintro answers rfl; exact permits s answers allowed)
    refine ⟨next, watched, ?_⟩
    rcases tracks' with halted | tracks'
    · exact .inl halted
    · exact in_order.imp_right fun orderly' => ⟨orderly', tracks'⟩

end

end

end NvM
