import ClassicPlatform.Os.ResourceStacks

/-!
# Preemption

Without internal resources, a preemptable task executes only while no ready task has a
higher priority, and a task that is not preemptable gives the processor away only in four
services. Both hold in every run.
-/
namespace Os

open Machine List

variable {config : TaskSet} {isr : Bool} {call : KernelCall} {s s' left : Kernel}
variable {task top : Nat} {op : DispatchOp} {step : KernelStep}

structure TaskSet.NoInternal (config : TaskSet) : Prop where
  tasks : ∀ task, (config.task task).resourceInt = none
  types : ∀ resource, config.resourceType resource ≠ .internal

section

variable (plain : config.NoInternal)
include plain

theorem TaskSet.NoInternal.usesStandard (call : KernelCall) : UsesStandard config call := by
  have standard : ∀ resource, config.typeOf resource ≠ .internal := by
    intro resource
    unfold TaskSet.typeOf
    split
    · nofun
    · exact plain.types resource
  cases call with
  | getResource resource | releaseResource resource => exact standard resource
  | _ => trivial

theorem osResourceGetInternal_plain (s : Kernel) : osResourceGetInternal config s = s := by
  simp [osResourceGetInternal, plain.tasks]

theorem basePriority_plain (resources : Nat → Resource) (task : Nat) :
    basePriority config resources task = (config.task task).prio := by
  simp [basePriority, plain.tasks]

theorem osTaskSwapContextTo_plain (s : Kernel) (task : Nat) :
    SamePriorities s (osTaskSwapContextTo config s task).1 := by
  have same := osTaskSwapContextTo_priorities config s task
  rw [osResourceGetInternal_plain plain] at same
  exact { same with }

end

theorem Dispatched.plain {outcome : KernelOutcome} (plain : config.NoInternal)
    (dispatched : Dispatched config s op outcome) :
    ∃ left top, osDispatchLeave s op = some left ∧ osTaskGetTop left = some top ∧
      SamePriorities left outcome.1 := by
  obtain ⟨left, top, leaves, chosen, same | ⟨-, freed, released, next⟩⟩ := dispatched.priorities
  · exact ⟨left, top, leaves, chosen, same.2⟩
  · simp only [osResourceReleaseInternal, plain.tasks, Option.some.injEq] at released
    subst released
    refine ⟨left, top, leaves, chosen, ?_⟩
    rcases next with ⟨-, same⟩ | ⟨-, same⟩
    · exact same
    · rw [osResourceGetInternal_plain plain] at same
      exact { same with }

/-! ## Preemptable tasks -/

structure Foremost (config : TaskSet) (s : Kernel) : Prop where
  queue : QueueHolds s
  stacked : Stacks config s
  running : s.state s.curr = .running
  highest : (config.task s.curr).scheduling = .full →
    ∀ task ∈ s.ready, s.activePriority task ≤ s.activePriority s.curr

/-- No task of the queue exceeds the running one. -/
private abbrev Highest (s : Kernel) : Prop :=
  ∀ task ∈ s.ready, s.activePriority task ≤ s.activePriority s.curr

section

variable (highest : Highest s)
variable (full : (config.task s.curr).scheduling = .full)
include highest full

theorem highest_enqueue {value : Task} (same : SamePriorities s (s.enqueue task value))
    (stays : preempts config false (s.enqueue task value) task = false) :
    Highest (s.enqueue task value) := by
  intro other member
  rcases mem_append.mp member with old | new
  · rw [same.active, same.active]
    exact highest other old
  · rw [mem_singleton.mp new]
    simp only [preempts, enqueue_curr, full] at stays
    exact not_lt.mp (of_decide_eq_false stays)

theorem TaskServed.still_highest {service : Service} (valid : config.ResourcesValid)
    (stacked : Stacks config s) (served : TaskServed config false call s service)
    (returns : service.dispatch = none) : Highest service.state := by
  have kept : ∀ {s'}, SamePriorities s s' → s'.ready = s.ready → s'.curr = s.curr →
      Highest s' := by
    intro s' same ready curr task member
    rw [same.active, same.active, curr]
    exact highest task (ready ▸ member)
  cases served with
  | refused | done => exact highest
  | masked => exact kept (.setTask rfl rfl) rfl rfl
  | queued =>
    rw [offer_state]
    exact kept (.setTask rfl rfl) rfl rfl
  | activated | woken =>
    rw [offer_state]
    exact highest_enqueue highest full (.enqueue rfl rfl) (offer_returns returns)
  | waits | terminates | chainsSelf | chainsQueued | chainsActivated | schedules | releasedTo =>
    cases returns
  | taken level resource called free =>
    -- the priority of the running task does not fall
    have raised : s.activePriority s.curr ≤
        (osTaskResourceAdd config s resource s.curr).activePriority s.curr := by
      simpa [osTaskResourceAdd, Kernel.activePriority] using stacked.fits valid free
    intro task member
    by_cases own : task = s.curr
    · rw [own]
      exact le_rfl
    · have unchanged : (osTaskResourceAdd config s resource s.curr).tasks task = s.tasks task :=
        setTask_tasks_of_ne _ _ _ own
      exact (congrArg Task.activePriority unchanged).le.trans ((highest task member).trans raised)
  | released level resource called access removed stays =>
    have curr := (osTaskResourceRemove_same removed).curr
    exact stays (curr ▸ full)

end

theorem Foremost.of_seated {before : Kernel} (queue : QueueHolds before)
    (stacked : Stacks config before) (chosen : osTaskGetTop before = some top)
    (same : SameStates before s) (priorities : SamePriorities before s')
    (seated : Seated s top s') : Foremost config s' := by
  obtain ⟨member, greatest, -, -⟩ := osTaskGetTop_some chosen
  refine ⟨(queue.of_same same).seated (same.ready ▸ member) seated,
    stacked.of_priorities priorities, seated.curr ▸ seated.running, ?_⟩
  intro _ task ready
  rw [seated.ready, same.ready] at ready
  rw [priorities.active, priorities.active, seated.curr]
  exact greatest task ready

theorem Foremost.stepped (valid : config.ResourcesValid) (plain : config.NoInternal)
    (foremost : s.halted ∨ Foremost config s) :
    (kernelStep config s step).1.halted ∨ Foremost config (kernelStep config s step).1 := by
  apply kernelStep_invariant foremost
  · rintro call service foremost rfl - served
    have queue := served.effect.queueHolds foremost.queue
    have stacked := served.stacked valid foremost.stacked (plain.usesStandard call)
    have curr := served.effect.curr
    constructor
    · intro returns
      refine ⟨queue, stacked, ?_, fun full => ?_⟩
      · exact served.effect.still_running foremost.running
      · rw [curr] at full
        exact served.still_highest (foremost.highest full) full valid foremost.stacked returns
    · intro op outcome dispatch running dispatched
      obtain ⟨left, left', top, leaves, chosen, same, seated⟩ := dispatched.seated
      obtain ⟨left₂, top₂, leaves₂, chosen₂, priorities⟩ := dispatched.plain plain
      obtain rfl := Option.some.inj (leaves.symm.trans leaves₂)
      have leaving := osDispatchLeave_left running leaves
      exact .inr (.of_seated (leaving.queueHolds queue running) (leaving.stacked stacked) chosen same
        priorities seated)
  · rintro calls outcome foremost rfl served
    obtain ⟨s₁, events, top, entered, chosen, ended⟩ := osIsr_cases served
    have member := (foremost.queue.member s.curr).mpr (.inr foremost.running)
    obtain ⟨⟨queue, stacked⟩, member⟩ := isrEntry_standard
      (fun s => QueueHolds s ∧ Stacks config s)
      (fun ⟨queue, stacked⟩ _ standard served =>
        ⟨served.effect.queueHolds queue, served.stacked valid stacked standard⟩)
      ⟨foremost.queue.setTask member (.inl rfl), foremost.stacked.setTask rfl rfl⟩ member entered
    rcases ended with ⟨stays, rfl⟩ | ⟨-, -, rfl⟩
    · refine .inr ⟨queue.setTask member (.inr rfl), stacked.setTask rfl rfl, ?_, fun full => ?_⟩
      · simp [Kernel.state]
      · -- a preemptable task goes on only if it is on top
        have own : top = s₁.curr := stays.resolve_right fun non => by cases non.symm.trans full
        subst own
        have same := resumed_priorities s₁ s₁.curr
        intro task ready
        rw [same.active, same.active]
        exact (osTaskGetTop_some chosen).2.1 task ready
    · refine .inr (.of_seated queue stacked chosen (.refl s₁) ?_
        (osTaskSwapContextTo_seated config s₁ top))
      exact osTaskSwapContextTo_plain plain s₁ top

/-! ## Tasks that are not preemptable -/

/-- The services in which a task that is not preemptable may lose the processor. -/
def KernelCall.givesWay : KernelCall → Bool
  | .schedule | .waitEvent _ | .terminateTask | .chainTask _ => true
  | _ => false

def KernelStep.givesWay : KernelStep → Bool
  | .call call => call.givesWay
  | .interrupt _ => false

/-- A task gets, loses or leaves the processor. -/
def KernelEvent.switches : KernelEvent → Bool
  | .returned _ | .activated _ | .woken _ => false
  | _ => true

/-- Gives up when a task gets or loses the processor. -/
def quietly (_ : Unit) (event : KernelEvent) : Option Unit :=
  if event.switches then none else some ()

theorem watch_quietly {events : List KernelEvent} :
    watch quietly () events = some () ↔ ∀ event ∈ events, event.switches = false := by
  constructor
  · intro watched
    induction events with
    | nil => nofun
    | cons first rest ih =>
      cases switches : first.switches with
      | true => simp [quietly, switches] at watched
      | false =>
        simp only [watch_cons, quietly, switches] at watched
        simpa [switches] using ih watched
  · intro quiet
    apply watch_skip
    intro event member
    simp [quietly, quiet event member]

theorem TaskServed.stays {service : Service} (non : (config.task s.curr).scheduling = .non)
    (keeps : call.givesWay = false) (served : TaskServed config isr call s service) :
    service.dispatch = none ∧ ∀ event ∈ service.events, event.switches = false := by
  have offered : ∀ {s' task event op}, s'.curr = s.curr → event.switches = false →
      (offer config isr s' task event op).dispatch = none ∧
        ∀ other ∈ (offer config isr s' task event op).events, other.switches = false := by
    intro s' task event op curr quiet
    have stays : preempts config isr s' task = false := by
      simp [preempts, curr, non]
    simp only [offer, stays, Bool.false_eq_true, if_false, true_and, mem_cons,
      not_mem_nil, or_false]
    rintro other (rfl | rfl)
    · exact quiet
    · rfl
  cases served with
  | refused | done | masked | taken | released => simp [returns, KernelEvent.switches]
  | queued | activated | woken => exact offered rfl rfl
  | waits _ _ called | terminates _ called | chainsSelf _ called | chainsQueued _ _ called
  | chainsActivated _ _ _ _ called | schedules _ called =>
    rw [called] at keeps
    cases keeps
  | releasedTo level resource called access removed full =>
    rw [(osTaskResourceRemove_same removed).curr, non] at full
    cases full

theorem non_stays (non : (config.task s.curr).scheduling = .non) (keeps : step.givesWay = false) :
    Follows quietly (fun next _ => next.curr = s.curr) () (kernelStep config s step) := by
  refine kernelStep_follows (.inr rfl) ?_ ?_
  · rintro call service - rfl - served
    obtain ⟨returns, quiet⟩ := served.stays non keeps
    refine ⟨(), watch_quietly.mpr quiet, fun _ => served.effect.curr, ?_⟩
    intro op outcome dispatch
    rw [returns] at dispatch
    cases dispatch
  · rintro calls outcome - rfl served
    obtain ⟨s₁, events, top, entered, -, ended⟩ := osIsr_cases served
    have kept : ∃ next, watch quietly () events = some next ∧ s₁.curr = s.curr := by
      have same : s.interrupted.curr = s.curr := rfl
      refine isrEntry_keeps (fun s' _ => s'.curr = s.curr) same (isrMeets_true _ calls) entered ?_
      rintro s' call service seen curr - served
      have served := serveIsr_served served
      have quiet := served.stays (curr ▸ non) (by cases call <;> rfl)
      exact ⟨(), watch_quietly.mpr quiet.2, served.effect.curr.trans curr⟩
    obtain ⟨next, watched, curr⟩ := kept
    rcases ended with ⟨-, rfl⟩ | ⟨-, full, -⟩
    · exact ⟨next, watched, .inr curr⟩
    · rw [curr, non] at full
      cases full

end Os
