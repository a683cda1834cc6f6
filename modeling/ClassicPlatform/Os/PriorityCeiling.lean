import ClassicPlatform.Os.ResourceStacks
import Mathlib.Order.Bounds.Basic

/-!
# The priority ceiling protocol

A task that holds resources has the highest of their ceilings as its priority, a resource
has one owner, and `GetResource` finds it free. This holds in the runs in which no task
loses the processor with its internal resource below another one or, through an interrupt,
with its internal resource at all: the dispatcher takes the internal resource away without
regard to what lies above it, and `Os_Isr` does not take it away, so that it is taken twice.

The argument is about the ready queue. Tasks in front of a task that holds resources, or
has the processor, do not reach its configured priority; so what a task can be refused is
held by a task of lower priority, and that would have been a resource without access.
-/
namespace Os

open List Machine Option

variable {config : TaskSet} {isr : Bool} {call : KernelCall} {s s' left : Kernel}
variable {task top resource : Nat} {op : DispatchOp} {running : Option Nat}

/-! ## Owners -/

/-- The owner of a resource has it on its list once, and nobody else has it. Only `RES_SCHEDULER`
can be taken again by its owner. -/
def Listed (config : TaskSet) (s : Kernel) : Prop :=
  ∀ task resource, resource ≠ config.resScheduler →
    (s.tasks task).resources.count resource =
      if config.typeOf resource ≠ .internal ∧ (s.resources resource).owner = some task then 1 else 0

section

variable (listed : Listed config s)
include listed

theorem Listed.of_priorities (same : SamePriorities s s') : Listed config s' := by
  intro task resource ne
  rw [same.held, same.resources]
  exact listed task resource ne

theorem Listed.of_internal
    (held : ∀ task, (s'.tasks task).resources = (s.tasks task).resources)
    (same : ∀ resource, config.typeOf resource ≠ .internal →
      s'.resources resource = s.resources resource) : Listed config s' := by
  intro task resource ne
  rw [held, listed task resource ne]
  by_cases internal : config.typeOf resource = .internal
  · simp [internal]
  · rw [same resource internal]

theorem Listed.add (standard : config.typeOf resource ≠ .internal)
    (free : resource ≠ config.resScheduler → (s.resources resource).owner = none) :
    Listed config (osTaskResourceAdd config s resource task) := by
  obtain ⟨same, taken, others, -, pushed⟩ := osTaskResourceAdd_takes config s resource task
  rw [if_neg standard] at pushed
  intro other resource' ne
  by_cases here : resource' = resource
  · subst here
    have absent := listed other resource' ne
    rw [free ne, if_neg (by simp)] at absent
    rw [taken]
    by_cases own : other = task
    · subst own
      rw [pushed, count_append, absent]
      simp [standard]
    · rw [others other own, absent, if_neg]
      rintro ⟨-, owned⟩
      exact own (some.inj owned).symm
  · rw [same resource' here, ← listed other resource' ne]
    by_cases own : other = task
    · subst own
      rw [pushed, count_append]
      simp [Ne.symm here]
    · rw [others other own]

theorem Listed.remove (standard : config.typeOf resource ≠ .internal)
    (removed : osTaskResourceRemove config s resource task = some s') : Listed config s' := by
  obtain ⟨owned, last, -⟩ := osTaskResourceRemove_some removed
  obtain ⟨rest, split⟩ := List.getLast?_eq_some_iff.mp (last standard)
  obtain ⟨same, freed, others, -, popped⟩ := osTaskResourceRemove_gives removed
  rw [if_neg standard, split] at popped
  intro other resource' ne
  by_cases here : resource' = resource
  · subst here
    have count := listed other resource' ne
    rw [freed, if_neg fun owned => absurd owned.2 nofun]
    by_cases own : other = task
    · subst own
      rw [split, owned, if_pos ⟨standard, rfl⟩] at count
      rw [popped]
      simpa using count
    · rw [others other own, count, if_neg]
      rintro ⟨-, owned'⟩
      exact own (some.inj (owned'.symm.trans owned))
  · rw [same resource' here, ← listed other resource' ne]
    by_cases own : other = task
    · subst own
      rw [popped, split, count_append]
      simp [Ne.symm here]
    · rw [others other own]

theorem Listed.owned (held : resource ∈ (s.tasks task).resources)
    (ne : resource ≠ config.resScheduler) :
    config.typeOf resource ≠ .internal ∧ (s.resources resource).owner = some task := by
  have count := listed task resource ne
  have positive : 0 < (s.tasks task).resources.count resource := count_pos_iff.mpr held
  by_contra foreign
  rw [if_neg foreign] at count
  omega

/-! ## Order of the ready queue -/

end

/-- The task holds resources or has the processor. -/
def Occupies (running : Option Nat) (s : Kernel) (task : Nat) : Prop :=
  (s.tasks task).resources ≠ [] ∨ running = some task

/-- The ceilings are respected while a task has the processor, or between two tasks. -/
structure Ceilings (config : TaskSet) (running : Option Nat) (s : Kernel) : Prop where
  queue : QueueHolds s
  stacked : Stacks config s
  listed : Listed config s
  inside : ∀ task resource, config.typeOf resource = .internal →
    (s.resources resource).owner = some task →
    running = some task ∧ (config.task task).resourceInt = some resource
  grouped : ∀ task, running ≠ some task → (config.task task).resourceInt ≠ none →
    (s.tasks task).resources = []
  holders : ∀ task, (s.tasks task).resources ≠ [] → task ∈ s.ready
  ordered : Queue.Ordered s.ready (fun task => (config.task task).prio) s.activePriority
    (Occupies running s)
  lead : ∀ task, running = some task → Queue.Lead s.ready (Occupies running s) task

theorem occupies_congr (held : ∀ task, (s'.tasks task).resources = (s.tasks task).resources) :
    Occupies running s' = Occupies running s := by
  funext task
  rw [Occupies, Occupies, held]

section

variable (ceilings : Ceilings config running s) {value : Task}
include ceilings

theorem Ceilings.unowned (internal : config.typeOf resource = .internal)
    (not_own : ∀ task, running = some task → (config.task task).resourceInt = some resource →
      (s.resources resource).owner ≠ some task) : (s.resources resource).owner = none := by
  cases owner : (s.resources resource).owner with
  | none => rfl
  | some task =>
    obtain ⟨has, group⟩ := ceilings.inside task resource internal owner
    exact absurd owner (not_own task has group)

theorem Ceilings.requeue (queue : QueueHolds s') (same : SamePriorities s s')
    (stays : ∀ task, (s.tasks task).resources ≠ [] → task ∈ s.ready → task ∈ s'.ready)
    (order : ∀ {prio active}, Queue.Ordered s.ready prio active (Occupies running s) →
      Queue.Ordered s'.ready prio active (Occupies running s))
    (leads : ∀ {task}, Queue.Lead s.ready (Occupies running s) task →
      Queue.Lead s'.ready (Occupies running s) task) : Ceilings config running s' := by
  have active : s'.activePriority = s.activePriority := funext same.active
  have occupies : Occupies running s' = Occupies running s := occupies_congr same.held
  obtain ⟨-, stacked, listed, inside, grouped, holders, ordered, lead⟩ := ceilings
  constructor
  · exact queue
  · exact stacked.of_priorities same
  · exact listed.of_priorities same
  · rw [same.resources]
    exact inside
  · intro task
    rw [same.held]
    exact grouped task
  · intro task
    rw [same.held]
    exact fun held => stays task held (holders task held)
  · rw [active, occupies]
    exact order ordered
  · rw [occupies]
    exact fun task has => leads (lead task has)

theorem Ceilings.of_same (queue : QueueHolds s')
    (ready : s'.ready = s.ready) (same : SamePriorities s s') : Ceilings config running s' := by
  refine ceilings.requeue queue same (fun _ _ => ?_) ?_ ?_
  all_goals
    rw [ready]
    exact id

theorem Ceilings.enqueue (absent : task ∉ s.ready) (other : running ≠ some task)
    (ready : value.state = .ready) (active : value.activePriority = s.activePriority task)
    (held : value.resources = (s.tasks task).resources) :
    Ceilings config running (s.enqueue task value) := by
  have fresh : ¬ Occupies running s task := by
    rintro (held | has)
    · exact absent (ceilings.holders task held)
    · exact other has
  apply ceilings.requeue (ceilings.queue.enqueue absent ready) (.enqueue active held)
  · exact fun _ _ => mem_append_left _
  · exact fun ordered => ordered.enqueue fresh
  · exact fun lead => Queue.enqueue lead fun _ _ _ => fresh

theorem Ceilings.dequeue (released : (s.tasks task).resources = [])
    (inactive : ¬ (value.state = .ready ∨ value.state = .running))
    (active : value.activePriority = s.activePriority task)
    (held : value.resources = (s.tasks task).resources) :
    Ceilings config running (s.dequeue task value) := by
  have sublist : (s.ready.erase task).Sublist s.ready := erase_sublist
  apply ceilings.requeue (ceilings.queue.dequeue inactive) (.dequeue active held)
  · intro other some_held member
    refine ceilings.queue.nodup.mem_erase_iff.mpr ⟨?_, member⟩
    rintro rfl
    exact some_held released
  · exact fun ordered => ordered.sublist sublist
  · exact fun lead => lead.sublist sublist

end

variable (valid : config.ResourcesValid)

section

variable (ceilings : Ceilings config (some task) s)
variable (same : SameStates s s') (stacked : Stacks config s') (listed : Listed config s')
include valid ceilings same stacked listed

theorem Ceilings.changed (member : task ∈ s.ready)
    (inside : ∀ owner resource, config.typeOf resource = .internal →
      (s'.resources resource).owner = some owner →
      owner = task ∧ (config.task owner).resourceInt = some resource)
    (others : ∀ other, other ≠ task → s'.tasks other = s.tasks other) :
    Ceilings config (some task) s' := by
  have occupies : Occupies (some task) s' = Occupies (some task) s := by
    funext other
    by_cases own : other = task
    · simp [Occupies, own]
    · rw [Occupies, Occupies, others other own]
  obtain ⟨queue, -, -, -, grouped, holders, ordered, lead⟩ := ceilings
  constructor
  · exact queue.of_same same
  · exact stacked
  · exact listed
  · intro owner resource internal owned
    obtain ⟨rfl, group⟩ := inside owner resource internal owned
    exact ⟨rfl, group⟩
  · intro other not_running
    rw [others other (fun own => not_running (own ▸ rfl))]
    exact grouped other not_running
  · intro other held
    rw [same.ready]
    by_cases own : other = task
    · exact own ▸ member
    · rw [others other own] at held
      exact holders other held
  · rw [same.ready, occupies]
    refine ordered.change (lead task rfl) (.inr rfl) ?_ ((stacked task).prio_le valid)
    exact fun other ne => congrArg Task.activePriority (others other ne)
  · rw [same.ready, occupies]
    exact lead

theorem Ceilings.vacate
    (free : ∀ resource, config.typeOf resource = .internal → (s'.resources resource).owner = none)
    (held : ∀ task, (s'.tasks task).resources = (s.tasks task).resources)
    (others : ∀ other, other ≠ task → s'.activePriority other = s.activePriority other)
    (released : (config.task task).resourceInt ≠ none → (s.tasks task).resources = []) :
    Ceilings config none s' := by
  obtain ⟨queue, -, -, -, grouped, holders, ordered, lead⟩ := ceilings
  have changed : Queue.Ordered s.ready (fun task => (config.task task).prio) s'.activePriority
      (Occupies (some task) s) :=
    ordered.change (lead task rfl) (.inr rfl) others ((stacked task).prio_le valid)
  constructor
  · exact queue.of_same same
  · exact stacked
  · exact listed
  · intro owner resource internal owned
    cases (free resource internal).symm.trans owned
  · intro other _
    rw [held]
    by_cases own : other = task
    · exact own ▸ released
    · exact grouped other fun has => own (some.inj has).symm
  · intro other
    rw [held, same.ready]
    exact holders other
  · rw [same.ready]
    by_cases empty : (s.tasks task).resources = []
    · -- without resources the task stands in the queue like one that has not run
      have restored : s'.activePriority task = (config.task task).prio := by
        have active : s'.activePriority task = _ := (stacked task).active
        rw [held, empty, level_nil] at active
        rw [active]
        unfold basePriority
        split
        next resource group =>
          rw [free resource (valid.member task resource group).1]
          exact if_neg nofun
        next => rfl
      refine (changed.leave restored).congr fun other => ?_
      rw [Occupies, Occupies, held]
      by_cases own : other = task
      · simp [own, empty]
      · simp [own, Ne.symm own]
    · refine changed.congr fun other => ?_
      rw [Occupies, Occupies, held]
      by_cases own : other = task
      · simp [own, empty]
      · simp [Ne.symm own]
  · nofun

end

theorem Ceilings.occupy (ceilings : Ceilings config none s)
    (chosen : top ∈ s.ready.argmax s.activePriority) : Ceilings config (some top) s := by
  have occupies : Occupies (some top) s = fun task => Occupies none s task ∨ task = top := by
    funext task
    simp [Occupies, @eq_comm _ top task]
  obtain ⟨queue, stacked, listed, inside, grouped, holders, ordered, -⟩ := ceilings
  refine ⟨queue, stacked, listed, ?_, fun task _ => grouped task nofun, holders, ?_, ?_⟩
  · intro task resource internal owned
    exact absurd (inside task resource internal owned).1 nofun
  · rw [occupies]
    exact ordered.serve queue.nodup chosen
  · rintro task ⟨⟩
    rw [occupies]
    exact (ordered.lead chosen).serve queue.nodup

theorem Left.ceilings (ceilings : Ceilings config (some s.curr) s)
    (running : s.state s.curr = .running) (leaving : Left s op left)
    (released : op = .waitEvent ∨ op.ends → (s.tasks s.curr).resources = []) :
    Ceilings config (some left.curr) left := by
  have queue := leaving.queueHolds ceilings.queue running
  cases leaving with
  | kept | selfChained => exact ceilings
  | readied | again | flagged => exact ceilings.of_same queue rfl (.setTask rfl rfl)
  | waiting => exact ceilings.dequeue (released (.inl rfl)) (by simp) rfl rfl
  | suspended ends => exact ceilings.dequeue (released (.inr ends)) (by simp) rfl rfl

section

include valid

theorem Ceilings.getInternal (ceilings : Ceilings config none s)
    (chosen : top ∈ s.ready.argmax s.activePriority) (curr : s.curr = top) :
    Ceilings config (some top) (osResourceGetInternal config s) := by
  have occupied := ceilings.occupy chosen
  unfold osResourceGetInternal
  split
  next resource group =>
    rw [curr] at group
    have internal := (valid.member top resource group).1
    have free := ceilings.unowned internal nofun
    have released := ceilings.grouped top nofun (by simp [group])
    subst curr
    have takes := osTaskResourceAdd_takes config s resource s.curr
    refine occupied.changed valid (osTaskResourceAdd_same config s resource s.curr).toSameStates
      (ceilings.stacked.getInternal valid group free released) ?_ (argmax_mem chosen) ?_
      takes.others
    · exact ceilings.listed.of_internal (takes.lists internal) fun _ => takes.standard internal
    · intro owner other is_internal owned
      by_cases own : other = resource
      · subst own
        rw [takes.taken, some.injEq] at owned
        exact ⟨owned.symm, owned ▸ group⟩
      · rw [takes.same other own] at owned
        exact absurd (ceilings.inside owner other is_internal owned).1 nofun
  next => exact occupied

/-! ## Services -/

theorem TaskServed.ceilings {service : Service} (ceilings : Ceilings config (some s.curr) s)
    (member : s.curr ∈ s.ready)
    (standard : UsesStandard config call) (served : TaskServed config isr call s service) :
    Ceilings config (some service.state.curr) service.state := by
  have queue := served.effect.queueHolds ceilings.queue
  have stacked := served.stacked valid ceilings.stacked standard
  have other : ∀ {task}, s.state task = .suspended ∨ s.state task = .waitEvent →
      task ∉ s.ready ∧ some s.curr ≠ some task := by
    intro task asleep
    have absent := ceilings.queue.absent asleep
    refine ⟨absent, ?_⟩
    rintro ⟨⟩
    exact absent member
  -- internal resources are not among the ones that services give
  have inside : ∀ {s' : Kernel} {resource}, config.typeOf resource ≠ .internal →
      (∀ other, other ≠ resource → s'.resources other = s.resources other) →
      ∀ owner other, config.typeOf other = .internal → (s'.resources other).owner = some owner →
        owner = s.curr ∧ (config.task owner).resourceInt = some other := by
    intro s' resource standard same owner other internal owned
    rw [same other (fun here => standard (here ▸ internal))] at owned
    obtain ⟨has, group⟩ := ceilings.inside owner other internal owned
    exact ⟨(some.inj has).symm, group⟩
  have removes : ∀ {s' : Kernel} {resource}, config.typeOf resource ≠ .internal →
      osTaskResourceRemove config s resource s.curr = some s' → Stacks config s' →
      Ceilings config (some s'.curr) s' := by
    intro s' resource standard removed stacked
    have same := osTaskResourceRemove_same removed
    rw [same.curr]
    have gives := osTaskResourceRemove_gives removed
    exact ceilings.changed valid same.toSameStates stacked
      (ceilings.listed.remove standard removed) member (inside standard gives.same) gives.others
  cases served with
  | refused | done | terminates | chainsSelf | schedules => exact ceilings
  | masked | waits | chainsQueued => exact ceilings.of_same queue rfl (.setTask rfl rfl)
  | queued =>
    rw [offer_state] at queue ⊢
    exact ceilings.of_same queue rfl (.setTask rfl rfl)
  | activated task evSet evWait suspended =>
    rw [offer_state]
    exact ceilings.enqueue (other (.inl suspended)).1 (other (.inl suspended)).2 rfl rfl rfl
  | woken task evSet waits =>
    rw [offer_state]
    exact ceilings.enqueue (other (.inr waits)).1 (other (.inr waits)).2 rfl rfl rfl
  | chainsActivated level task evSet evWait called ne free suspended =>
    exact ceilings.enqueue (other (.inl suspended)).1 (other (.inl suspended)).2 rfl rfl rfl
  | taken level resource called free =>
    subst called
    have takes := osTaskResourceAdd_takes config s resource s.curr
    exact ceilings.changed valid (osTaskResourceAdd_same config s resource s.curr).toSameStates
      stacked (ceilings.listed.add standard fun ne => (free ne).2.1) member
      (inside standard takes.same) takes.others
  | released level resource called access removed
  | releasedTo level resource called access removed =>
    subst called
    exact removes standard removed stacked

/-! ## The dispatcher -/

theorem Ceilings.releaseInternal (ceilings : Ceilings config (some s.curr) s)
    (held : (config.task s.curr).resourceInt ≠ none → (s.tasks s.curr).resources = [])
    (released : osResourceReleaseInternal config s = some s') :
    Ceilings config none s' ∧ (∀ task, task ≠ s.curr → s'.activePriority task = s.activePriority task) ∧
      s'.activePriority s.curr ≤ s.activePriority s.curr := by
  have stacked := ceilings.stacked.releaseInternal held released
  have same := (releaseInternal_same released).toSameStates
  unfold osResourceReleaseInternal at released
  split at released
  next resource group =>
    have internal := (valid.member s.curr resource group).1
    have gives := osTaskResourceRemove_gives released
    have lists := gives.lists internal
    have others : ∀ task, task ≠ s.curr → s'.activePriority task = s.activePriority task :=
      fun task ne => congrArg Task.activePriority (gives.others task ne)
    refine ⟨ceilings.vacate valid same stacked ?_ ?_ lists others held, others, ?_⟩
    · exact ceilings.listed.of_internal lists fun _ => gives.standard internal
    · intro other is_internal
      by_cases own : other = resource
      · rw [own, gives.freed]
      · rw [gives.same other own]
        -- the running task has no other internal resource
        apply ceilings.unowned is_internal
        rintro _ ⟨⟩ member
        exact absurd (some.inj (member.symm.trans group)) own
    · have owned := (osTaskResourceRemove_some released).1
      rw [gives.active, (ceilings.stacked s.curr).internal resource group owned]
      exact (ceilings.stacked s.curr).prio_le valid
  next none_inside =>
    cases released
    refine ⟨ceilings.vacate valid same stacked ceilings.listed ?_ (fun _ => rfl) (fun _ _ => rfl)
      held, fun _ _ => rfl, le_rfl⟩
    refine fun other is_internal => ceilings.unowned is_internal ?_
    rintro _ ⟨⟩ member
    cases none_inside.symm.trans member

theorem Ceilings.seated (ceilings : Ceilings config none s)
    (chosen : top ∈ s.ready.argmax s.activePriority)
    (queue : QueueHolds s') (ready : s'.ready = s.ready)
    (taken : SamePriorities (osResourceGetInternal config { s with curr := top }) s') :
    Ceilings config (some top) s' := by
  have switched : Ceilings config none { s with curr := top } :=
    ceilings.of_same { ceilings.queue with } rfl (.switched s top)
  refine (switched.getInternal valid chosen rfl).of_same queue ?_ taken
  unfold osResourceGetInternal
  split <;> exact ready

end

/-- Resources are released before a task waits or ends, and a task with an internal resource is
not displaced while it holds others. -/
def LeavesReleased (config : TaskSet) (left : Kernel) (op : DispatchOp) (top : Nat) : Prop :=
  (op = .waitEvent ∨ op.ends = true → (left.tasks left.curr).resources = []) ∧
  (top ≠ left.curr → (config.task left.curr).resourceInt ≠ none →
    (left.tasks left.curr).resources = [])
  deriving Decidable

theorem Dispatched.ceilings {outcome : KernelOutcome} (valid : config.ResourcesValid)
    (ceilings : Ceilings config (some s.curr) s) (running : s.state s.curr = .running)
    (leaves_released : ∀ left top, osDispatchLeave s op = some left →
      osTaskGetTop left = some top → LeavesReleased config left op top)
    (dispatched : Dispatched config s op outcome) :
    Ceilings config (some outcome.1.curr) outcome.1 := by
  obtain ⟨left, middle, top, leaves, chosen, same, seated⟩ := dispatched.seated
  obtain ⟨left₂, top₂, leaves₂, chosen₂, changes⟩ := dispatched.priorities
  obtain rfl := some.inj (leaves.symm.trans leaves₂)
  obtain rfl := some.inj (chosen.symm.trans chosen₂)
  obtain ⟨member, -, -, argmax⟩ := osTaskGetTop_some chosen
  have leaving := osDispatchLeave_left running leaves
  obtain ⟨done, displaced⟩ := leaves_released left top leaves chosen
  rw [leaving.curr, leaving.priorities.held] at done
  have left_ceilings := leaving.ceilings ceilings running done
  have queue : QueueHolds outcome.1 :=
    (left_ceilings.queue.of_same same).seated (same.ready ▸ member) seated
  have ready : outcome.1.ready = left.ready := seated.ready.trans same.ready
  rw [seated.curr]
  rcases changes with ⟨rfl, priorities⟩ | ⟨other, freed, released, next⟩
  · exact left_ceilings.of_same queue ready priorities
  · obtain ⟨free, others, lower⟩ :=
      left_ceilings.releaseInternal valid (displaced other) released
    have freed_ready := (releaseInternal_same released).ready
    have still : top ∈ freed.ready.argmax freed.activePriority := by
      rw [freed_ready]
      refine Queue.argmax_lower argmax (others top other) fun task => ?_
      by_cases own : task = left.curr
      · exact own ▸ lower
      · exact (others task own).le
    rcases next with ⟨-, priorities⟩ | ⟨-, taken⟩
    · exact (free.occupy still).of_same queue (ready.trans freed_ready.symm) priorities
    · exact free.seated valid still queue (ready.trans freed_ready.symm) taken

/-! ## Runs -/

/-- An interrupt does not take the processor from a task with an internal resource. -/
def SwitchReleased (config : TaskSet) (s : Kernel) (_top : Nat) : Prop :=
  ∀ resource ∈ (config.task s.curr).resourceInt,
    (s.resources resource).owner ≠ some s.curr ∧ (s.tasks s.curr).resources = []
  deriving Decidable

def StepReleased (config : TaskSet) (s : Kernel) : KernelStep → Prop
  | .call call => UsesStandard config call ∧ DispatchMeets config (LeavesReleased config) s call
  | .interrupt calls => SwitchMeets config (SwitchReleased config) s calls

instance decidableStepReleased (s : Kernel) :
    (step : KernelStep) → Decidable (StepReleased config s step)
  | .call _ => inferInstanceAs (Decidable (_ ∧ _))
  | .interrupt _ => inferInstanceAs (Decidable (SwitchMeets _ _ _ _))

/-- The ceilings are respected while task code executes. -/
structure CeilingsKept (config : TaskSet) (s : Kernel) : Prop where
  ceilings : Ceilings config (some s.curr) s
  running : s.state s.curr = .running

theorem CeilingsKept.member (kept : CeilingsKept config s) : s.curr ∈ s.ready :=
  (kept.ceilings.queue.member s.curr).mpr (.inr kept.running)

theorem CeilingsKept.stepped (valid : config.ResourcesValid) {step : KernelStep}
    (kept : s.halted ∨ CeilingsKept config s) (meets : StepReleased config s step) :
    (kernelStep config s step).1.halted ∨
      CeilingsKept config (kernelStep config s step).1 := by
  apply kernelStep_invariant kept
  · rintro call service kept rfl given served
    have ceilings := served.ceilings valid kept.ceilings kept.member meets.1
    have running := served.effect.still_running kept.running
    refine ⟨fun _ => ⟨ceilings, running⟩, ?_⟩
    intro op outcome dispatch _ dispatched
    refine .inr ⟨dispatched.ceilings valid ceilings running ?_, dispatched.running⟩
    exact fun left top leaves chosen => meets.2.found given dispatch leaves chosen
  · rintro calls outcome kept rfl served
    obtain ⟨s₁, events, top, entered, chosen, ended⟩ := osIsr_cases served
    obtain ⟨ceilings, member⟩ := isrEntry_standard (fun s => Ceilings config (some s.curr) s)
      (fun ceilings member standard served => served.ceilings valid ceilings member standard)
      (kept.ceilings.of_same (kept.ceilings.queue.setTask kept.member (.inl rfl)) rfl
        (.setTask rfl rfl)) kept.member entered
    rcases ended with ⟨-, rfl⟩ | ⟨other, full, rfl⟩
    · refine .inr ⟨?_, by simp [Kernel.state]⟩
      exact ceilings.of_same (ceilings.queue.setTask member (.inr rfl)) rfl (.setTask rfl rfl)
    · have released : SwitchReleased config s₁ top := meets.found entered chosen other full
      have seated := osTaskSwapContextTo_seated config s₁ top
      obtain ⟨ready, -, -, argmax⟩ := osTaskGetTop_some chosen
      have free : Ceilings config none s₁ := by
        refine ceilings.vacate valid (.refl s₁) ceilings.stacked ceilings.listed ?_
          (fun _ => rfl) (fun _ _ => rfl) ?_
        · refine fun resource internal => ceilings.unowned internal ?_
          rintro _ ⟨⟩ group
          exact (released resource group).1
        · intro grouped
          obtain ⟨resource, group⟩ := ne_none_iff_exists'.mp grouped
          exact (released resource group).2
      refine .inr ⟨?_, ?_⟩ <;> rw [seated.curr]
      · exact free.seated valid argmax (free.queue.seated ready seated) seated.ready
          (osTaskSwapContextTo_priorities config s₁ top)
      · exact seated.running

theorem initOs_ceilings (valid : config.Valid) : Ceilings config none (initOs config) where
  queue := (initOs_interrupted valid).queue
  stacked := initOs_stacked config
  listed := fun _ _ _ => (if_neg nofun).symm
  inside := fun _ _ _ owned => absurd owned nofun
  grouped := fun _ _ _ => rfl
  holders := fun _ held => absurd rfl held
  ordered := by
    refine ⟨fun _ => le_rfl, fun _ _ => rfl, ?_⟩
    refine List.Pairwise.imp ?_ (initOs_interrupted valid).queue.nodup
    rintro a b - (held | has)
    · exact absurd rfl held
    · cases has
  lead := nofun

theorem osStart_ceilings (valid : config.Valid) (resources : config.ResourcesValid) :
    CeilingsKept config (osStart config).1 := by
  have seated := osTaskSwapContextTo_seated config (initOs config) (firstTask config)
  obtain ⟨member, -, -, argmax⟩ := osTaskGetTop_some (firstTask_top valid)
  have curr : (osStart config).1.curr = firstTask config := seated.curr
  refine ⟨?_, curr ▸ seated.running⟩
  rw [curr]
  have free := initOs_ceilings valid
  exact free.seated resources argmax (free.queue.seated member seated) seated.ready
    (osTaskSwapContextTo_priorities config _ _)

/-! ## The protocol -/

/-- A standard resource is on the list of the task, an internal one belongs to it. -/
def Kernel.Holds (config : TaskSet) (s : Kernel) (task resource : Nat) : Prop :=
  resource ∈ (s.tasks task).resources ∨
    config.typeOf resource = .internal ∧ (s.resources resource).owner = some task

theorem Ceilings.apart {other : Nat} (ceilings : Ceilings config running s)
    (held : (s.tasks task).resources ≠ []) (held' : (s.tasks other).resources ≠ [])
    (ne : task ≠ other) :
    s.activePriority task < (config.task other).prio ∨
      s.activePriority other < (config.task task).prio := by
  rcases Queue.related ceilings.ordered.behind (ceilings.holders task held)
    (ceilings.holders other held') ne with before | before
  · exact .inl (before (.inl held'))
  · exact .inr (before (.inl held))

theorem CeilingsKept.below (kept : CeilingsKept config s) (held : (s.tasks task).resources ≠ [])
    (ne : task ≠ s.curr) : s.activePriority task < (config.task s.curr).prio := by
  have pairs := kept.ceilings.ordered.behind.and (kept.ceilings.lead s.curr rfl)
  rcases Queue.related pairs (kept.ceilings.holders task held) kept.member ne with
    ⟨before, -⟩ | ⟨-, lead⟩
  · exact before (.inr rfl)
  · exact absurd (.inl held) (lead rfl)

section

variable (ceilings : Ceilings config running s)
include ceilings

theorem Ceilings.standard
    (held : resource ∈ (s.tasks task).resources) : config.typeOf resource ≠ .internal := by
  by_cases scheduler : resource = config.resScheduler
  · simp [scheduler, TaskSet.typeOf]
  · exact (ceilings.listed.owned held scheduler).1

theorem Ceilings.one_owner (valid : config.ResourcesValid) {other : Nat}
    (held : s.Holds config task resource)
    (held' : s.Holds config other resource) : task = other := by
  rcases held with member | ⟨internal, owned⟩
  · rcases held' with member' | ⟨internal, -⟩
    · by_cases scheduler : resource = config.resScheduler
      · -- nobody is above a task that holds the scheduler
        by_contra ne
        have top : ∀ {task'}, resource ∈ (s.tasks task').resources →
            TaskSet.resSchedulerPrio ≤ s.activePriority task' := by
          intro task' member
          have le := (ceilings.stacked task').ceiling_le member
          rwa [TaskSet.ceilingPriority, if_pos scheduler] at le
        have below := valid.prio_le task
        have below' := valid.prio_le other
        have above := top member
        have above' := top member'
        rcases ceilings.apart (ne_nil_of_mem member) (ne_nil_of_mem member') ne with
          lower | lower <;> omega
      · have owned := (ceilings.listed.owned member scheduler).2
        have owned' := (ceilings.listed.owned member' scheduler).2
        exact some.inj (owned.symm.trans owned')
    · exact absurd internal (ceilings.standard member)
  · rcases held' with member' | ⟨-, owned'⟩
    · exact absurd internal (ceilings.standard member')
    · exact some.inj (owned.symm.trans owned')

theorem Ceilings.owner_holds
    (owned : (s.resources resource).owner = some task) : s.Holds config task resource := by
  by_cases internal : config.typeOf resource = .internal
  · exact .inr ⟨internal, owned⟩
  · obtain ⟨below, above, split, -⟩ := (ceilings.stacked task).old resource internal owned
    left
    simp [split]

theorem Ceilings.priority (valid : config.ResourcesValid) (task : Nat) :
    IsGreatest
      (insert (config.task task).prio
        (config.ceilingPriority '' {resource | s.Holds config task resource}))
      (s.activePriority task) := by
  have stack := ceilings.stacked task
  have active : s.activePriority task = _ := stack.active
  constructor
  · rw [active, level]
    split
    next resource last => exact .inr ⟨resource, .inl (mem_of_getLast? last), rfl⟩
    next =>
      unfold basePriority
      split
      next resource group =>
        split
        next owned =>
          exact .inr ⟨resource, .inr ⟨(valid.member task resource group).1, owned⟩, rfl⟩
        next => exact .inl rfl
      next => exact .inl rfl
  · rintro priority (rfl | ⟨resource, held | ⟨internal, owned⟩, rfl⟩)
    · exact stack.prio_le valid
    · exact stack.ceiling_le held
    · have group := (ceilings.inside task resource internal owned).2
      have base : basePriority config s.resources task = config.ceilingPriority resource := by
        simp [basePriority, group, owned]
      exact base ▸ stack.base_le

end

theorem CeilingsKept.getResource_refused (valid : config.ResourcesValid)
    (kept : CeilingsKept config s) (executes : s.halted = false)
    (exists_resource : resource ≤ config.resourceCnt)
    (standard : config.typeOf resource ≠ .internal) (known : s.curr < config.taskCnt)
    (access : config.hasAccess s.curr resource) (not_held : ¬ s.Holds config s.curr resource) :
    (kernelStep config s (.call (.getResource resource))).2 = [.returned .eOsAccess] ↔
      config.ceilingPriority resource < s.activePriority s.curr := by
  have free : (s.resources resource).owner = none := by
    cases owner : (s.resources resource).owner with
    | none => rfl
    | some task =>
      -- the owner would be too high for the running task
      have held := kept.ceilings.owner_holds owner
      have ne : task ≠ s.curr := by
        rintro rfl
        exact not_held held
      have member := held.resolve_right fun internal => standard internal.1
      have above := (kept.ceilings.stacked task).ceiling_le member
      have below := kept.below (ne_nil_of_mem member) ne
      have covered := prio_le_ceilingPriority valid known access
      have active : s.activePriority task = (s.tasks task).activePriority := rfl
      omega
  have served : serveTask config s (.getResource resource) =
      if resource ≠ config.resScheduler ∧
          config.ceilingPriority resource < s.activePriority s.curr then
        some (returns s .eOsAccess)
      else some (returns (osTaskResourceAdd config s resource s.curr) .eOk) := by
    simp [serveTask, getResource, validateTask, exists_resource, access, free]
  by_cases above : config.ceilingPriority resource < s.activePriority s.curr
  · have ne : resource ≠ config.resScheduler := by
      rintro rfl
      have le := (kept.ceilings.stacked s.curr).le_scheduler valid
      rw [TaskSet.ceilingPriority, if_pos rfl] at above
      exact absurd le (not_le.mpr above)
    rw [if_pos ⟨ne, above⟩] at served
    simp [kernelStep, executes, callTask, served, returns, above]
  · simp [kernelStep, executes, callTask, served, returns, above]

theorem priority_ceiling (config : TaskSet) (valid : config.Valid)
    (resources : config.ResourcesValid) (steps : List KernelStep)
    (meets : Meets (kernelStep config) (StepReleased config) (osStart config).1 steps) :
    let last := (run (kernelStep config) (osStart config).1 steps).1
    last.halted = false →
      (∀ resource task other, last.Holds config task resource →
        last.Holds config other resource → task = other) ∧
      (∀ resource task, (last.resources resource).owner = some task →
        last.Holds config task resource) ∧
      (∀ task, IsGreatest
        (insert (config.task task).prio
          (config.ceilingPriority '' {resource | last.Holds config task resource}))
        (last.activePriority task)) ∧
      (∀ task, last.state task = .suspended ∨ last.state task = .waitEvent →
        last.activePriority task = (config.task task).prio) ∧
      ∀ resource ≤ config.resourceCnt, config.typeOf resource ≠ .internal →
        last.curr < config.taskCnt → config.hasAccess last.curr resource = true →
        ¬ last.Holds config last.curr resource →
        ((kernelStep config last (.call (.getResource resource))).2 = [.returned .eOsAccess] ↔
          config.ceilingPriority resource < last.activePriority last.curr) := by
  intro last executes
  have kept : CeilingsKept config last := kernelRun_invariant meets
    (osStart_ceilings valid resources) (CeilingsKept.stepped resources) executes
  refine ⟨?_, ?_, kept.ceilings.priority resources, ?_, ?_⟩
  · exact fun _ _ _ held held' => kept.ceilings.one_owner resources held held'
  · exact fun _ _ owned => kept.ceilings.owner_holds owned
  · intro task asleep
    have absent := kept.ceilings.queue.absent asleep
    apply kept.ceilings.ordered.unserved task
    rintro (held | has)
    · exact absent (kept.ceilings.holders task held)
    · exact absent (some.inj has ▸ kept.member)
  · intro resource exists_resource standard known access not_held
    exact kept.getResource_refused resources executes exists_resource standard known access not_held

/-- Tasks 1 and 2 share the internal resource 0. Resource 1 has a higher ceiling than the group,
resource 2 a lower one. -/
def groupTasks : TaskSet where
  statusExtended := true
  taskCnt := 5
  resourceCnt := 3
  task task :=
    { prio := min task 4
      procType := .basic
      autostart := task ≤ 1
      scheduling := .full
      resourceAccess :=
        match task with
        | 1 => 0b111
        | 2 => 0b001
        | 3 => 0b010
        | _ => 0
      resourceInt := if task = 1 ∨ task = 2 then some 0 else none
      activationLimit := 1 }
  resourceType resource := if resource = 0 then .internal else .standard

theorem groupTasks_valid : groupTasks.Valid :=
  ⟨by simp [groupTasks], fun _ => by simp [groupTasks], fun _ => by simp [groupTasks]⟩

theorem groupTasks_resourcesValid : groupTasks.ResourcesValid := by
  constructor
  · exact fun task => (min_le_right task 4).trans (by simp [TaskSet.resSchedulerPrio])
  · intro task resource member
    simp only [groupTasks, ite_none_right_eq_some, some.injEq] at member
    obtain ⟨rfl | rfl, rfl⟩ := member <;> decide +kernel

/-- The running task takes and releases a resource, and is preempted then. -/
def releasedRun : List KernelStep :=
  [.call (.getResource 1), .call (.releaseResource 1), .call (.activateTask 4),
    .call .terminateTask, .call .terminateTask]

theorem releasedRun_restored :
    let last := (run (kernelStep groupTasks) (osStart groupTasks).1 releasedRun).1
    last.halted = false ∧ last.state 1 = .suspended ∧ last.activePriority 1 = 1 := by
  refine ⟨by decide +kernel, by decide +kernel, ?_⟩
  exact (priority_ceiling groupTasks groupTasks_valid groupTasks_resourcesValid releasedRun
    (by decide +kernel) (by decide +kernel)).2.2.2.1 1 (by decide +kernel)

/-- A task of the group is refused a free resource with a lower ceiling. Preempted by a service, it
loses the ceiling of a resource that it holds; preempted by an interrupt, it keeps the ceiling
of the group after its end. -/
theorem group_breaks_ceilings :
    let first := (osStart groupTasks).1
    let preempted := (run (kernelStep groupTasks) first
      [.call (.getResource 1), .call (.activateTask 4)]).1
    let last := (run (kernelStep groupTasks) first
      [.interrupt [.activateTask 4], .call .terminateTask, .call .terminateTask]).1
    (first.curr = 1 ∧ groupTasks.hasAccess 1 2 = true ∧ (first.resources 2).owner = none ∧
      (kernelStep groupTasks first (.call (.getResource 2))).2 = [.returned .eOsAccess]) ∧
    (preempted.halted = false ∧ (preempted.tasks 1).resources = [1] ∧
      groupTasks.ceilingPriority 1 = 3 ∧ preempted.activePriority 1 = 1) ∧
    (last.halted = false ∧ last.state 1 = .suspended ∧ (groupTasks.task 1).prio = 1 ∧
      last.activePriority 1 = 2) := by
  decide +kernel

end Os
