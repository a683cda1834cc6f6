import ClassicPlatform.Os.Kernel
import ClassicPlatform.Lib.Machine
import ClassicPlatform.Lib.Queue

/-!
# What a step of the kernel can do

`TaskServed` lists what a service has done when it returns or calls the dispatcher, `Left` the
states in which the running task is left there, and `Dispatched` the ways in which the
processor is given away. Invariants of the kernel are proved case by case from these
lists.
-/
namespace Os

open Machine List Option

variable {other : Nat}

section Setters

variable (s : Kernel) (task resource : Nat) (value : Task) (held : Resource)

@[simp] theorem setTask_tasks : (s.setTask task value).tasks task = value := by
  simp [Kernel.setTask]

theorem setTask_tasks_of_ne (ne : other ≠ task) :
    (s.setTask task value).tasks other = s.tasks other := by
  simp [Kernel.setTask, ne]

@[simp] theorem setTask_resources : (s.setTask task value).resources = s.resources := rfl

@[simp] theorem setTask_ready : (s.setTask task value).ready = s.ready := rfl

@[simp] theorem setTask_curr : (s.setTask task value).curr = s.curr := rfl

@[simp] theorem setResource_tasks : (s.setResource resource held).tasks = s.tasks := rfl

@[simp] theorem setResource_resources :
    (s.setResource resource held).resources resource = held := by
  simp [Kernel.setResource]

theorem setResource_resources_of_ne (ne : other ≠ resource) :
    (s.setResource resource held).resources other = s.resources other := by
  simp [Kernel.setResource, ne]

@[simp] theorem setTask_setTask (value' : Task) :
    (s.setTask task value).setTask task value' = s.setTask task value' := by
  simp [Kernel.setTask]

def Kernel.enqueue : Kernel := { s.setTask task value with ready := s.ready ++ [task] }

def Kernel.dequeue : Kernel := { s.setTask task value with ready := s.ready.erase task }

@[simp] theorem enqueue_setTask (value' : Task) :
    (s.setTask task value).enqueue task value' = s.enqueue task value' := by
  simp [Kernel.enqueue, Kernel.setTask]

@[simp] theorem setTask_enqueue (value' : Task) :
    (s.enqueue task value).setTask task value' = s.enqueue task value' := by
  simp [Kernel.enqueue, Kernel.setTask]

@[simp] theorem enqueue_tasks : (s.enqueue task value).tasks task = value :=
  setTask_tasks s task value

@[simp] theorem enqueue_ready : (s.enqueue task value).ready = s.ready ++ [task] := rfl

@[simp] theorem enqueue_curr : (s.enqueue task value).curr = s.curr := rfl

@[simp] theorem dequeue_tasks : (s.dequeue task value).tasks task = value :=
  setTask_tasks s task value

theorem dequeue_tasks_of_ne (ne : other ≠ task) :
    (s.dequeue task value).tasks other = s.tasks other :=
  setTask_tasks_of_ne s task value ne

@[simp] theorem dequeue_ready : (s.dequeue task value).ready = s.ready.erase task := rfl

@[simp] theorem dequeue_curr : (s.dequeue task value).curr = s.curr := rfl

theorem forall_setTask {P : Nat → Task → Prop}
    (others : ∀ other, other ≠ task → P other (s.tasks other)) (own : P task value) :
    ∀ other, P other ((s.setTask task value).tasks other) := by
  intro other
  by_cases same : other = task
  · subst same
    rw [setTask_tasks]
    exact own
  · rw [setTask_tasks_of_ne s task value same]
    exact others other same

theorem setTask_field {α : Type} (field : Task → α) (same : field value = field (s.tasks task)) :
    ∀ other, field ((s.setTask task value).tasks other) = field (s.tasks other) :=
  forall_setTask s task value (P := fun other t => field t = field (s.tasks other))
    (fun _ _ => rfl) same

end Setters

/-! ## Services -/

/-- The services that may be called from an interrupt are services for tasks as well. -/
def IsrCall.toCall : IsrCall → KernelCall
  | .activateTask task => .activateTask task
  | .setEvent task mask => .setEvent task mask

variable {top : Nat}

section Services

variable {config : TaskSet} {isr : Bool} {call : KernelCall} {s s' : Kernel} {task : Nat}

theorem makeReady_clean (config : TaskSet) (suspended : s.state task = .suspended) :
    ∃ evSet evWait,
      osTaskMakeReady (osArcSetCleanContext config s task) task =
        s.enqueue task { s.tasks task with evSet, evWait, context := .start, state := .ready } := by
  have state : (s.tasks task).state = .suspended := suspended
  unfold osArcSetCleanContext
  split
  · refine ⟨0, 0, ?_⟩
    simp [osTaskMakeReady, state, Kernel.enqueue]
  · refine ⟨(s.tasks task).evSet, (s.tasks task).evWait, ?_⟩
    simp [osTaskMakeReady, state, Kernel.enqueue]

variable {mask : EventMask} {resource : Nat} {service : Service}

theorem osTaskResourceRemove_some
    (removed : osTaskResourceRemove config s resource task = some s') :
    (s.resources resource).owner = some task ∧
    (config.typeOf resource ≠ .internal → (s.tasks task).resources.getLast? = some resource) ∧
    s' = (s.setResource resource { s.resources resource with owner := none }).setTask task
      { s.tasks task with
        activePriority := (s.resources resource).oldTaskPrio
        resources :=
          if config.typeOf resource = .internal then (s.tasks task).resources
          else (s.tasks task).resources.dropLast } := by
  unfold osTaskResourceRemove at removed
  simp only at removed
  split at removed
  next => cases removed
  next owned =>
    refine ⟨not_not.mp owned, ?_⟩
    split at removed
    next internal =>
      cases removed
      exact ⟨absurd internal, by simp [internal]⟩
    next standard =>
      split at removed
      next last =>
        cases removed
        exact ⟨fun _ => last, by simp [standard]⟩
      next => cases removed

variable (config isr call s) in
/-- What a service can have done; `isr` says that it is called from an interrupt. -/
inductive TaskServed : Service → Prop
  | refused (error : StatusType) (failed : error ≠ .eOk) :
      TaskServed (returns s error)
  | done : TaskServed (returns s .eOk)
  | masked (task : Nat) (evSet : EventMask) :
      TaskServed (returns (s.setTask task { s.tasks task with evSet }) .eOk)
  | queued (task : Nat) (called : call = .activateTask task) (awake : s.state task ≠ .suspended)
      (fits : ((s.tasks task).activations + 1) % 2 ^ 8 ≤ (config.task task).activationLimit) :
      TaskServed
        (offer config isr
          (s.setTask task
            { s.tasks task with activations := ((s.tasks task).activations + 1) % 2 ^ 8 })
          task (.activated task) .activateTask)
  | activated (task : Nat) (evSet evWait : EventMask) (suspended : s.state task = .suspended)
      (none_queued : ((s.tasks task).activations + 1) % 2 ^ 8 = 1) :
      TaskServed
        (offer config isr
          (s.enqueue task
            { s.tasks task with
              activations := 1, evSet, evWait, context := .start, state := .ready })
          task (.activated task) .activateTask)
  | woken (task : Nat) (evSet : EventMask) (waits : s.state task = .waitEvent) :
      TaskServed
        (offer config isr
          (s.enqueue task { s.tasks task with evSet, state := .ready })
          task (.woken task) .setEvent)
  | waits (level : isr = false) (evWait : EventMask) (called : call = .waitEvent evWait)
      (free : config.statusExtended = true → (s.tasks s.curr).resources = []) :
      TaskServed
        { state := s.setTask s.curr { s.tasks s.curr with evWait }
          events := []
          dispatch := some .waitEvent }
  | terminates (level : isr = false) (called : call = .terminateTask)
      (free : config.statusExtended = true → (s.tasks s.curr).resources = []) :
      TaskServed { state := s, events := [], dispatch := some .terminateTask }
  | chainsSelf (level : isr = false) (called : call = .chainTask s.curr)
      (free : config.statusExtended = true → (s.tasks s.curr).resources = []) :
      TaskServed { state := s, events := [.activated s.curr], dispatch := some (.chainTask s.curr) }
  | chainsQueued (level : isr = false) (task : Nat) (called : call = .chainTask task)
      (other : s.curr ≠ task)
      (free : config.statusExtended = true → (s.tasks s.curr).resources = [])
      (awake : s.state task ≠ .suspended)
      (fits : (s.tasks task).activations + 1 ≤ (config.task task).activationLimit) :
      TaskServed
        { state := s.setTask task
            { s.tasks task with activations := ((s.tasks task).activations + 1) % 2 ^ 8 }
          events := [.activated task]
          dispatch := some (.chainTask task) }
  | chainsActivated (level : isr = false) (task : Nat) (evSet evWait : EventMask)
      (called : call = .chainTask task) (other : s.curr ≠ task)
      (free : config.statusExtended = true → (s.tasks s.curr).resources = [])
      (suspended : s.state task = .suspended) (none_queued : (s.tasks task).activations = 0)
      (fits : 1 ≤ (config.task task).activationLimit) :
      TaskServed
        { state := s.enqueue task
            { s.tasks task with
              activations := 1, evSet, evWait, context := .start, state := .ready }
          events := [.activated task]
          dispatch := some (.chainTask task) }
  | schedules (level : isr = false) {top : Nat} (called : call = .schedule)
      (non : (config.task s.curr).scheduling = .non) (chosen : osTaskGetTop s = some top)
      (higher : s.activePriority s.curr < s.activePriority top) :
      TaskServed { state := s, events := [], dispatch := some .schedule }
  | taken (level : isr = false) (resource : Nat) (called : call = .getResource resource)
      (free : resource ≠ config.resScheduler →
        config.hasAccess s.curr resource = true ∧ (s.resources resource).owner = none ∧
        s.activePriority s.curr ≤ config.ceilingPriority resource) :
      TaskServed (returns (osTaskResourceAdd config s resource s.curr) .eOk)
  | released (level : isr = false) (resource : Nat) {s' : Kernel}
      (called : call = .releaseResource resource)
      (access : resource ≠ config.resScheduler → config.hasAccess s.curr resource = true)
      (removed : osTaskResourceRemove config s resource s.curr = some s')
      (stays : (config.task s'.curr).scheduling = .full →
        ∀ task ∈ s'.ready, s'.activePriority task ≤ s'.activePriority s'.curr) :
      TaskServed (returns s' .eOk)
  | releasedTo (level : isr = false) (resource : Nat) {s' : Kernel} {top : Nat}
      (called : call = .releaseResource resource)
      (access : resource ≠ config.resScheduler → config.hasAccess s.curr resource = true)
      (removed : osTaskResourceRemove config s resource s.curr = some s')
      (full : (config.task s'.curr).scheduling = .full) (chosen : osTaskGetTop s' = some top)
      (higher : s'.activePriority s'.curr < s'.activePriority top) :
      TaskServed { state := s', events := [], dispatch := some .releaseResource }

private theorem validateTask_served {ok : Bool} {error : StatusType} {body : Option Service}
    (served : validateTask config ok error s body = some service)
    (passes : (config.statusExtended → ok) → body = some service →
      TaskServed config isr call s service) (failed : error ≠ .eOk := by decide) :
    TaskServed config isr call s service := by
  unfold validateTask at served
  split at served
  next =>
    cases served
    exact .refused error failed
  next passed => exact passes (fun extended => by simpa [extended] using passed) served

theorem activateTask_served (served : activateTask config isr s task = some service) :
    TaskServed config isr (.activateTask task) s service := by
  refine validateTask_served served fun _ served => ?_
  simp only at served
  split at served
  next awake =>
    split at served
    next =>
      cases served
      exact .refused _ (by decide)
    next fits =>
      cases served
      exact .queued task rfl awake (not_lt.mp fits)
  next suspended =>
    split at served
    next one =>
      have state : (s.tasks task).state = .suspended := not_not.mp suspended
      cases served
      have made : ∃ evSet evWait,
          osTaskMakeReady (osArcSetCleanContext config (s.setTask task
            { s.tasks task with activations := ((s.tasks task).activations + 1) % 2 ^ 8 }) task)
            task = _ := makeReady_clean config (by simp [Kernel.state, state])
      obtain ⟨evSet, evWait, made⟩ := made
      rw [made, enqueue_setTask, setTask_tasks, one]
      exact .activated task evSet evWait state one
    next => cases served

theorem setEvent_served (served : setEvent config isr s task mask = some service) :
    TaskServed config isr call s service := by
  refine validateTask_served served fun _ served => ?_
  refine validateTask_served served fun _ served => ?_
  refine validateTask_served served fun _ served => ?_
  simp only at served
  split at served
  next =>
    cases served
    exact .masked task _
  next =>
    split at served
    next waits =>
      cases served
      have made : osTaskMakeReady
          (s.setTask task { s.tasks task with evSet := (s.tasks task).evSet ||| mask }) task =
          s.enqueue task
            { s.tasks task with evSet := (s.tasks task).evSet ||| mask, state := .ready } := by
        simp [osTaskMakeReady, waits, Kernel.enqueue]
      rw [made]
      exact .woken task _ waits
    next =>
      cases served
      exact .masked task _
    next =>
      cases served
      exact .masked task _
    next => cases served

private theorem resources_nil {resources : List Nat} {extended : Bool}
    (free : extended → resources.isEmpty) :
    extended → resources = [] := fun on => isEmpty_iff.mp (free on)

private theorem terminateTask_served (served : terminateTask config s = some service) :
    TaskServed config false .terminateTask s service := by
  refine validateTask_served served fun free served => ?_
  cases served
  exact .terminates rfl rfl (resources_nil free)

private theorem chainTask_served (served : chainTask config s task = some service) :
    TaskServed config false (.chainTask task) s service := by
  refine validateTask_served served fun _ served => ?_
  refine validateTask_served served fun free served => ?_
  have free := resources_nil free
  simp only at served
  split at served
  next own =>
    subst own
    cases served
    exact .chainsSelf rfl rfl free
  next other =>
    split at served
    next =>
      cases served
      exact .refused _ (by decide)
    next fits =>
      have fits := not_lt.mp fits
      split at served
      next awake =>
        cases served
        exact .chainsQueued rfl task rfl other free awake fits
      next suspended =>
        split at served
        next none_queued =>
          have state : (s.tasks task).state = .suspended := not_not.mp suspended
          cases served
          obtain ⟨evSet, evWait, made⟩ := makeReady_clean config state
          rw [made, setTask_enqueue, enqueue_tasks, none_queued]
          exact .chainsActivated rfl task evSet evWait rfl other free state none_queued (by omega)
        next => cases served

private theorem schedule_served (served : schedule config s = some service) :
    TaskServed config false .schedule s service := by
  refine validateTask_served served fun _ served => ?_
  split at served
  next => cases served
  next =>
    split at served
    next =>
      cases served
      exact .done
    next preemptable =>
      obtain ⟨top, chosen, served⟩ := bind_eq_some_iff.mp served
      split at served
      next higher =>
        cases served
        refine .schedules rfl rfl ?_ chosen higher
        cases schedule : (config.task s.curr).scheduling with
        | full => exact absurd schedule preemptable
        | non => rfl
      next =>
        cases served
        exact .done

private theorem waitEvent_served (served : waitEvent config s mask = some service) :
    TaskServed config false (.waitEvent mask) s service := by
  refine validateTask_served served fun _ served => ?_
  refine validateTask_served served fun free served => ?_
  simp only at served
  split at served
  next =>
    cases served
    exact .waits rfl mask rfl (resources_nil free)
  next =>
    cases served
    exact .done

private theorem clearEvent_served (served : clearEvent config s mask = some service) :
    TaskServed config false (.clearEvent mask) s service := by
  refine validateTask_served served fun _ served => ?_
  cases served
  exact .masked s.curr _

private theorem getResource_served (served : getResource config s resource = some service) :
    TaskServed config false (.getResource resource) s service := by
  refine validateTask_served served fun _ served => ?_
  split at served
  next =>
    cases served
    exact .refused _ (by decide)
  next passed =>
    cases served
    refine .taken rfl resource rfl fun standard => ?_
    simpa [standard] using passed

theorem not_higher (chosen : osTaskGetTop s = some top)
    (not_above : ¬ s.activePriority task < s.activePriority top) :
    ∀ other ∈ s.ready, s.activePriority other ≤ s.activePriority task := by
  intro other member
  unfold osTaskGetTop at chosen
  split at chosen
  next => exact (le_of_mem_argmax member chosen).trans (not_lt.mp not_above)
  next => cases chosen

private theorem releaseResource_served (served : releaseResource config s resource = some service) :
    TaskServed config false (.releaseResource resource) s service := by
  refine validateTask_served served fun _ served => ?_
  split at served
  next =>
    cases served
    exact .refused _ (by decide)
  next access =>
    have access : resource ≠ config.resScheduler → config.hasAccess s.curr resource = true := by
      intro standard
      simpa [standard] using access
    split at served
    next =>
      cases served
      exact .refused _ (by decide)
    next =>
      split at served
      next => cases served
      next =>
        obtain ⟨s', removed, served⟩ := bind_eq_some_iff.mp served
        split at served
        next non =>
          cases served
          exact .released rfl resource rfl access removed fun full =>
            absurd (non.symm.trans full) nofun
        next preemptable =>
          obtain ⟨top, chosen, served⟩ := bind_eq_some_iff.mp served
          split at served
          next higher =>
            cases served
            refine .releasedTo rfl resource rfl access removed ?_ chosen higher
            cases schedule : (config.task s'.curr).scheduling with
            | full => rfl
            | non => exact absurd schedule preemptable
          next not_above =>
            cases served
            exact .released rfl resource rfl access removed fun _ => not_higher chosen not_above

theorem serveTask_served (served : serveTask config s call = some service) :
    TaskServed config false call s service := by
  cases call with
  | activateTask task => exact activateTask_served served
  | terminateTask => exact terminateTask_served served
  | chainTask task => exact chainTask_served served
  | schedule => exact schedule_served served
  | setEvent task mask => exact setEvent_served served
  | waitEvent mask => exact waitEvent_served served
  | clearEvent mask => exact clearEvent_served served
  | getResource resource => exact getResource_served served
  | releaseResource resource => exact releaseResource_served served

theorem serveIsr_served {call : IsrCall} (served : serveIsr config s call = some service) :
    TaskServed config true call.toCall s service := by
  cases call with
  | activateTask task => exact activateTask_served served
  | setEvent task mask => exact setEvent_served served

end Services

/-! ## The dispatcher -/

variable {outcome : KernelOutcome} {task : Nat}

section Dispatcher

variable {config : TaskSet} {s s₁ s₂ : Kernel} {op : DispatchOp} {top : Nat}

/-- The running task after the operation, in the state in which the dispatcher looks for the
top task. -/
inductive Left (s : Kernel) : DispatchOp → Kernel → Prop
  | readied {op : DispatchOp} (gives : op = .setEvent ∨ op = .schedule ∨ op = .releaseResource) :
      Left s op (s.setTask s.curr { s.tasks s.curr with state := .ready })
  -- `Os_TaskMakeReady` does nothing for a running task
  | kept : Left s .activateTask s
  | waiting : Left s .waitEvent (s.dequeue s.curr { s.tasks s.curr with state := .waitEvent })
  | suspended {op : DispatchOp} (ends : op.ends = true) (other : op ≠ .chainTask s.curr)
      (last : (s.tasks s.curr).activations = 1) :
      Left s op (s.dequeue s.curr { s.tasks s.curr with state := .suspended, activations := 0 })
  | again (more : 1 < (s.tasks s.curr).activations) :
      Left s .terminateTask
        (s.setTask s.curr { s.tasks s.curr with activations := (s.tasks s.curr).activations - 1 })
  | flagged {chained : Nat} (other : s.curr ≠ chained) (more : 1 < (s.tasks s.curr).activations) :
      Left s (.chainTask chained)
        (s.setTask s.curr
          { s.tasks s.curr with
            activations := (s.tasks s.curr).activations - 1
            state := .ready
            reactivation := true })
  | selfChained : Left s (.chainTask s.curr) s

theorem osDispatchLeave_left (running : s.state s.curr = .running)
    (left : osDispatchLeave s op = some s₁) : Left s op s₁ := by
  have state : (s.tasks s.curr).state = .running := running
  cases op with
  | setEvent | schedule | releaseResource =>
    simp only [osDispatchLeave, osTaskRunningToReady, running, if_true, Option.some.injEq] at left
    exact left ▸ .readied (by simp)
  | waitEvent =>
    simp only [osDispatchLeave, osTaskMakeWaiting, osTaskMake, state, or_true, if_true,
      Option.some.injEq] at left
    exact left ▸ .waiting
  | activateTask =>
    simp only [osDispatchLeave, osTaskMakeReady, state, Option.some.injEq] at left
    exact left ▸ .kept
  | terminateTask =>
    simp only [osDispatchLeave] at left
    split at left
    next => cases left
    next some_left =>
      split at left
      next last =>
        have one : (s.tasks s.curr).activations = 1 := by omega
        simp only [osTaskMakeSuspended, osTaskMake, setTask_curr, setTask_tasks, state, or_true,
          if_true, setTask_setTask, last, Option.some.injEq] at left
        exact left ▸ .suspended rfl nofun one
      next more =>
        cases left
        exact .again (by omega)
  | chainTask chained =>
    simp only [osDispatchLeave] at left
    split at left
    next own =>
      cases left
      exact own ▸ .selfChained
    next other =>
      split at left
      next => cases left
      next some_left =>
        split at left
        next last =>
          have one : (s.tasks s.curr).activations = 1 := by omega
          simp only [osTaskMakeSuspended, osTaskMake, setTask_curr, setTask_tasks, state, or_true,
            if_true, setTask_setTask, last, Option.some.injEq] at left
          refine left ▸ .suspended rfl ?_ one
          rintro ⟨⟩
          exact other rfl
        next more =>
          simp only [osTaskRunningToReady, Kernel.state, setTask_curr, setTask_tasks, state,
            if_true, setTask_setTask, map_some, Option.some.injEq] at left
          exact left ▸ .flagged other (by omega)

variable (config : TaskSet) (s : Kernel) (op : DispatchOp) in
/-- How the processor is given away. -/
inductive Dispatched : KernelOutcome → Prop
  | restarted {s₁ : Kernel} (left : osDispatchLeave s op = some s₁)
      (chosen : osTaskGetTop s₁ = some s₁.curr) :
      Dispatched
        ((osTaskStartFromBeginning s₁ s₁.curr).1,
          if op.ends then [op.departure s₁.curr, .started s₁.curr] else [.started s₁.curr])
  | started {s₁ s₂ : Kernel} {top : Nat} (left : osDispatchLeave s op = some s₁)
      (chosen : osTaskGetTop s₁ = some top) (other : top ≠ s₁.curr)
      (released : osResourceReleaseInternal config s₁ = some s₂)
      (flagged : (s₂.tasks top).reactivation = true) :
      Dispatched
        ((osTaskStartFromBeginning
            (s₂.setTask top { s₂.tasks top with reactivation := false }) top).1,
          [op.departure s₂.curr, .started top])
  | swapped {s₁ s₂ : Kernel} {top : Nat} (left : osDispatchLeave s op = some s₁)
      (chosen : osTaskGetTop s₁ = some top) (other : top ≠ s₁.curr)
      (released : osResourceReleaseInternal config s₁ = some s₂)
      (unflagged : (s₂.tasks top).reactivation = false) :
      Dispatched
        ((osTaskSwapContext config s₂ op top).1,
          op.departure s₂.curr :: (osTaskSwapContext config s₂ op top).2)

theorem osDispatch_dispatched (dispatched : osDispatch config s op = some outcome) :
    s.state s.curr = .running ∧ Dispatched config s op outcome := by
  unfold osDispatch at dispatched
  split at dispatched
  next => cases dispatched
  next allowed =>
    refine ⟨(not_not.mp allowed).2, ?_⟩
    obtain ⟨s₁, left, dispatched⟩ := bind_eq_some_iff.mp dispatched
    obtain ⟨top, chosen, dispatched⟩ := bind_eq_some_iff.mp dispatched
    split at dispatched
    next other =>
      obtain ⟨s₂, released, rfl⟩ := map_eq_some_iff.mp dispatched
      cases flag : (s₂.tasks top).reactivation with
      | true =>
        exact .started left chosen other released flag
      | false =>
        exact .swapped left chosen other released flag
    next own =>
      obtain rfl := not_not.mp own
      cases dispatched
      exact .restarted left chosen

theorem osTaskGetTop_some (chosen : osTaskGetTop s = some top) :
    top ∈ s.ready ∧ (∀ task ∈ s.ready, s.activePriority task ≤ s.activePriority top) ∧
    (∀ task ∈ s.ready, s.state task = .ready ∨ s.state task = .running) ∧
    top ∈ s.ready.argmax s.activePriority := by
  unfold osTaskGetTop at chosen
  split at chosen
  next all =>
    refine ⟨argmax_mem chosen, fun task member => le_of_mem_argmax member chosen, ?_, chosen⟩
    simpa using all
  next => cases chosen

theorem enter_cases (s : Kernel) (task : Nat) :
    ((s.tasks task).context = .start ∧
      s.enter task =
        (s.setTask task { s.tasks task with context := .live }, [.started task])) ∨
    (((s.tasks task).context = .interrupted ∨
        ∃ op : DispatchOp, (s.tasks task).context = .saved op ∧ op.ends = false) ∧
      s.enter task =
        (s.setTask task { s.tasks task with context := .live }, [.resumed task])) ∨
    ((∃ op : DispatchOp, (s.tasks task).context = .saved op ∧ op.ends) ∧
      s.enter task = (s.halt, [.deadEnd task])) ∨
    ((s.tasks task).context = .live ∧ s.enter task = (s.halt, [.lost task])) := by
  unfold Kernel.enter
  cases context : (s.tasks task).context with
  | start | interrupted | live => simp [context]
  | saved op => cases op <;> simp [context, DispatchOp.ends]

/-- Resources and events have changed, but neither the states of the tasks nor the queue. -/
structure SameStates (s s' : Kernel) : Prop where
  ready : s'.ready = s.ready
  curr : s'.curr = s.curr
  state : ∀ task, s'.state task = s.state task
  activations : ∀ task, (s'.tasks task).activations = (s.tasks task).activations

theorem SameStates.refl (s : Kernel) : SameStates s s :=
  ⟨rfl, rfl, fun _ => rfl, fun _ => rfl⟩

theorem SameStates.trans (first : SameStates s s₁) (second : SameStates s₁ s₂) : SameStates s s₂ :=
  ⟨second.ready.trans first.ready, second.curr.trans first.curr,
    fun task => (second.state task).trans (first.state task),
    fun task => (second.activations task).trans (first.activations task)⟩

theorem SameStates.setTask {value : Task} (state : value.state = s.state task)
    (activations : value.activations = (s.tasks task).activations) :
    SameStates s (s.setTask task value) where
  ready := rfl
  curr := rfl
  state := setTask_field s task value Task.state state
  activations := setTask_field s task value Task.activations activations

/-- Only resources, priorities and events have changed. -/
structure SameTasks (s s' : Kernel) : Prop extends SameStates s s' where
  context : ∀ task, (s'.tasks task).context = (s.tasks task).context
  reactivation : ∀ task, (s'.tasks task).reactivation = (s.tasks task).reactivation

theorem SameTasks.refl (s : Kernel) : SameTasks s s :=
  ⟨.refl s, fun _ => rfl, fun _ => rfl⟩

theorem SameTasks.setTask {value : Task} (state : value.state = s.state task)
    (activations : value.activations = (s.tasks task).activations)
    (context : value.context = (s.tasks task).context)
    (reactivation : value.reactivation = (s.tasks task).reactivation) :
    SameTasks s (s.setTask task value) where
  toSameStates := .setTask state activations
  context := setTask_field s task value Task.context context
  reactivation := setTask_field s task value Task.reactivation reactivation

section

variable (config : TaskSet) (s : Kernel) (resource task : Nat)

theorem osTaskResourceAdd_same : SameTasks s (osTaskResourceAdd config s resource task) := by
  have same : SameTasks (s.setResource resource _) (osTaskResourceAdd config s resource task) :=
    .setTask rfl rfl rfl rfl
  exact { same with }

/-- What changes when a task takes a resource. -/
structure Takes (s' : Kernel) : Prop where
  same : ∀ other, other ≠ resource → s'.resources other = s.resources other
  taken : s'.resources resource = { oldTaskPrio := s.activePriority task, owner := some task }
  others : ∀ other, other ≠ task → s'.tasks other = s.tasks other
  active : s'.activePriority task = config.ceilingPriority resource
  held : (s'.tasks task).resources =
    if config.typeOf resource = .internal then (s.tasks task).resources
    else (s.tasks task).resources ++ [resource]

theorem osTaskResourceAdd_takes :
    Takes config s resource task (osTaskResourceAdd config s resource task) where
  same _ ne := setResource_resources_of_ne _ _ _ ne
  taken := setResource_resources _ _ _
  others _ ne := setTask_tasks_of_ne _ _ _ ne
  active := congrArg Task.activePriority (setTask_tasks _ _ _)
  held := congrArg Task.resources (setTask_tasks _ _ _)

end

variable {resource : Nat}

theorem Takes.lists (takes : Takes config s resource task s₁)
    (internal : config.typeOf resource = .internal) (other : Nat) :
    (s₁.tasks other).resources = (s.tasks other).resources := by
  by_cases own : other = task
  · rw [own, takes.held, if_pos internal]
  · rw [takes.others other own]

theorem Takes.standard (takes : Takes config s resource task s₁)
    (internal : config.typeOf resource = .internal) (standard : config.typeOf other ≠ .internal) :
    s₁.resources other = s.resources other :=
  takes.same other fun here => standard (here ▸ internal)

/-- What changes when a task gives a resource back. -/
structure Gives (config : TaskSet) (s : Kernel) (resource task : Nat) (s' : Kernel) : Prop where
  same : ∀ other, other ≠ resource → s'.resources other = s.resources other
  freed : s'.resources resource = { s.resources resource with owner := none }
  others : ∀ other, other ≠ task → s'.tasks other = s.tasks other
  active : s'.activePriority task = (s.resources resource).oldTaskPrio
  held : (s'.tasks task).resources =
    if config.typeOf resource = .internal then (s.tasks task).resources
    else (s.tasks task).resources.dropLast

theorem osTaskResourceRemove_gives
    (removed : osTaskResourceRemove config s resource task = some s₁) :
    Gives config s resource task s₁ := by
  obtain ⟨-, -, rfl⟩ := osTaskResourceRemove_some removed
  constructor
  · exact fun _ ne => setResource_resources_of_ne _ _ _ ne
  · exact setResource_resources _ _ _
  · exact fun _ ne => setTask_tasks_of_ne _ _ _ ne
  · exact congrArg Task.activePriority (setTask_tasks _ _ _)
  · exact congrArg Task.resources (setTask_tasks _ _ _)

section

variable (gives : Gives config s resource task s₁)
include gives

theorem Gives.lists (internal : config.typeOf resource = .internal) (other : Nat) :
    (s₁.tasks other).resources = (s.tasks other).resources := by
  by_cases own : other = task
  · rw [own, gives.held, if_pos internal]
  · rw [gives.others other own]

theorem Gives.standard (internal : config.typeOf resource = .internal)
    (standard : config.typeOf other ≠ .internal) : s₁.resources other = s.resources other :=
  gives.same other fun here => standard (here ▸ internal)

theorem Gives.still {owner : Nat} (owned : (s₁.resources other).owner = some owner) :
    other ≠ resource ∧ (s.resources other).owner = some owner := by
  by_cases here : other = resource
  · rw [here, gives.freed] at owned
    cases owned
  · rw [gives.same other here] at owned
    exact ⟨here, owned⟩

end

theorem osTaskResourceRemove_same
    (removed : osTaskResourceRemove config s resource task = some s₁) : SameTasks s s₁ := by
  obtain ⟨-, -, eq⟩ := osTaskResourceRemove_some removed
  have same : SameTasks (s.setResource resource { s.resources resource with owner := none }) s₁ := by
    rw [eq]
    exact .setTask rfl rfl rfl rfl
  exact { same with }

theorem releaseInternal_same
    (released : osResourceReleaseInternal config s = some s₁) : SameTasks s s₁ := by
  unfold osResourceReleaseInternal at released
  split at released
  next => exact osTaskResourceRemove_same released
  next =>
    cases released
    exact .refl s

/-- The task has the processor; the queue and the other tasks are as before. -/
structure Seated (s : Kernel) (task : Nat) (s' : Kernel) : Prop where
  ready : s'.ready = s.ready
  curr : s'.curr = task
  running : s'.state task = .running
  activations : (s'.tasks task).activations = (s.tasks task).activations
  reactivation : (s'.tasks task).reactivation = (s.tasks task).reactivation
  others : ∀ other, other ≠ task → s'.tasks other = s.tasks other

theorem enter_seated (curr : s.curr = task) (running : s.state task = .running) :
    Seated s task (s.enter task).1 := by
  have live : Seated s task (s.setTask task { s.tasks task with context := .live }) :=
    ⟨rfl, curr, by simpa [Kernel.state] using running, by simp, by simp,
      fun other ne => setTask_tasks_of_ne _ _ _ ne⟩
  have halted : Seated s task s.halt := ⟨rfl, curr, running, rfl, rfl, fun _ _ => rfl⟩
  rcases enter_cases s task with ⟨-, entered⟩ | ⟨-, entered⟩ | ⟨-, entered⟩ | ⟨-, entered⟩ <;>
    rw [entered]
  · exact live
  · exact live
  · exact halted
  · exact halted

section

variable (config s)

/-- The kernel when the task has been given the processor, before its context is entered. -/
def Kernel.seat (task : Nat) : Kernel :=
  let s := osResourceGetInternal config { s with curr := task }
  s.setTask task { s.tasks task with state := .running }

theorem seat_seated (task : Nat) : Seated s task (s.seat config task) := by
  unfold Kernel.seat osResourceGetInternal
  split
  · refine ⟨rfl, rfl, by simp [Kernel.state], by simp [osTaskResourceAdd],
      by simp [osTaskResourceAdd], fun other ne => ?_⟩
    simp [osTaskResourceAdd, setTask_tasks_of_ne _ _ _ ne]
  · refine ⟨rfl, rfl, by simp [Kernel.state], by simp, by simp, fun other ne => ?_⟩
    rw [setTask_tasks_of_ne _ _ _ ne]

theorem osTaskSwapContextTo_seated (task : Nat) :
    Seated s task (osTaskSwapContextTo config s task).1 := by
  have seated := seat_seated config s task
  have entered : Seated (s.seat config task) task ((s.seat config task).enter task).1 :=
    enter_seated seated.curr seated.running
  exact ⟨entered.ready.trans seated.ready, entered.curr, entered.running,
    entered.activations.trans seated.activations,
    entered.reactivation.trans seated.reactivation,
    fun other ne => (entered.others other ne).trans (seated.others other ne)⟩

theorem seat_context (task : Nat) :
    ((s.seat config task).tasks task).context = (s.tasks task).context := by
  unfold Kernel.seat osResourceGetInternal
  split <;> simp [osTaskResourceAdd]

/-- A context that task code of the same instance goes on from. -/
def Context.resumes : Context → Bool
  | .interrupted => true
  | .saved op => !op.ends
  | _ => false

theorem osTaskSwapContextTo_events (task : Nat) :
    ((s.tasks task).context = .start →
      (osTaskSwapContextTo config s task).2 = [.started task]) ∧
    ((s.tasks task).context.resumes →
      (osTaskSwapContextTo config s task).2 = [.resumed task]) := by
  have context := seat_context config s task
  have entered : osTaskSwapContextTo config s task = (s.seat config task).enter task := rfl
  rw [entered, ← context]
  rcases enter_cases (s.seat config task) task with ⟨context, entered⟩ | ⟨context, entered⟩ |
    ⟨⟨op, context, ends⟩, entered⟩ | ⟨context, entered⟩ <;> rw [entered]
  · simp [context, Context.resumes]
  · rcases context with context | ⟨op, context, -⟩ <;> simp [context]
  · simp [context, Context.resumes, ends]
  · simp [context, Context.resumes]

theorem osTaskStartFromBeginning_seated (task : Nat) :
    Seated s task (osTaskStartFromBeginning s task).1 := by
  refine ⟨rfl, rfl, by simp [osTaskStartFromBeginning, Kernel.state],
    by simp [osTaskStartFromBeginning], by simp [osTaskStartFromBeginning], fun other ne => ?_⟩
  simp [osTaskStartFromBeginning, setTask_tasks_of_ne _ _ _ ne]

theorem resumed_seated : Seated s s.curr
    (s.setTask s.curr { s.tasks s.curr with state := .running, context := .live }) :=
  ⟨rfl, rfl, by simp [Kernel.state], by simp, by simp, fun _ ne => setTask_tasks_of_ne _ _ _ ne⟩

end

theorem Dispatched.seated (dispatched : Dispatched config s op outcome) :
    ∃ s₁ s₂ top, osDispatchLeave s op = some s₁ ∧ osTaskGetTop s₁ = some top ∧
      SameStates s₁ s₂ ∧ Seated s₂ top outcome.1 := by
  cases dispatched with
  | restarted left chosen =>
    exact ⟨_, _, _, left, chosen, .refl _, osTaskStartFromBeginning_seated _ _⟩
  | started left chosen other released flagged =>
    refine ⟨_, _, _, left, chosen, ?_, osTaskStartFromBeginning_seated _ _⟩
    exact (releaseInternal_same released).toSameStates.trans (.setTask rfl rfl)
  | swapped left chosen other released unflagged =>
    refine ⟨_, _, _, left, chosen, ?_, osTaskSwapContextTo_seated _ _ _⟩
    exact (releaseInternal_same released).toSameStates.trans (.setTask rfl rfl)

theorem Dispatched.running (dispatched : Dispatched config s op outcome) :
    outcome.1.state outcome.1.curr = .running := by
  obtain ⟨_, _, _, _, _, _, seated⟩ := dispatched.seated
  rw [seated.curr]
  exact seated.running

end Dispatcher

/-! ## Priorities -/

section Priorities

variable {config : TaskSet} {s s₁ s₂ : Kernel} {op : DispatchOp} {task : Nat}

/-- The resources and the priorities of the tasks are as before. -/
structure SamePriorities (s s' : Kernel) : Prop where
  resources : s'.resources = s.resources
  active : ∀ task, s'.activePriority task = s.activePriority task
  held : ∀ task, (s'.tasks task).resources = (s.tasks task).resources

theorem SamePriorities.refl (s : Kernel) : SamePriorities s s :=
  ⟨rfl, fun _ => rfl, fun _ => rfl⟩

theorem SamePriorities.switched (s : Kernel) (top : Nat) : SamePriorities s { s with curr := top } :=
  ⟨rfl, fun _ => rfl, fun _ => rfl⟩

theorem SamePriorities.trans (first : SamePriorities s s₁) (second : SamePriorities s₁ s₂) :
    SamePriorities s s₂ :=
  ⟨second.resources.trans first.resources,
    fun task => (second.active task).trans (first.active task),
    fun task => (second.held task).trans (first.held task)⟩

section

variable {value : Task} (active : value.activePriority = s.activePriority task)
include active

section

variable (held : value.resources = (s.tasks task).resources)
include held

theorem SamePriorities.setTask : SamePriorities s (s.setTask task value) where
  resources := rfl
  active := setTask_field s task value Task.activePriority active
  held := setTask_field s task value Task.resources held

theorem SamePriorities.enqueue : SamePriorities s (s.enqueue task value) := by
  have same : SamePriorities s (s.setTask task value) := .setTask active held
  exact { same with }

theorem SamePriorities.dequeue : SamePriorities s (s.dequeue task value) := by
  have same : SamePriorities s (s.setTask task value) := .setTask active held
  exact { same with }

end

end

theorem Left.priorities (leaving : Left s op s₁) : SamePriorities s s₁ := by
  cases leaving with
  | kept | selfChained => exact .refl s
  | readied | again | flagged => exact .setTask rfl rfl
  | waiting | suspended => exact .dequeue rfl rfl

theorem enter_priorities (s : Kernel) (task : Nat) : SamePriorities s (s.enter task).1 := by
  rcases enter_cases s task with ⟨-, entered⟩ | ⟨-, entered⟩ | ⟨-, entered⟩ | ⟨-, entered⟩ <;>
    rw [entered]
  · exact .setTask rfl rfl
  · exact .setTask rfl rfl
  · exact ⟨rfl, fun _ => rfl, fun _ => rfl⟩
  · exact ⟨rfl, fun _ => rfl, fun _ => rfl⟩

theorem osTaskSwapContextTo_priorities (config : TaskSet) (s : Kernel) (task : Nat) :
    SamePriorities (osResourceGetInternal config { s with curr := task })
      (osTaskSwapContextTo config s task).1 := by
  have seated : SamePriorities (osResourceGetInternal config { s with curr := task })
      (s.seat config task) := .setTask rfl rfl
  exact seated.trans (enter_priorities _ task)

theorem resumed_priorities (s : Kernel) (task : Nat) : SamePriorities s
    (s.setTask task { s.tasks task with state := .running, context := .live }) :=
  .setTask rfl rfl

theorem osTaskStartFromBeginning_priorities (s : Kernel) (task : Nat) :
    SamePriorities s (osTaskStartFromBeginning s task).1 :=
  { resumed_priorities s task with }

theorem startMarked_priorities (s : Kernel) (task : Nat) :
    SamePriorities s (osTaskStartFromBeginning
      (s.setTask task { s.tasks task with reactivation := false }) task).1 := by
  have cleared : SamePriorities s (s.setTask task { s.tasks task with reactivation := false }) :=
    .setTask rfl rfl
  exact cleared.trans (osTaskStartFromBeginning_priorities _ task)

theorem SamePriorities.getInternal (same : SamePriorities s s₁) (top : Nat) :
    SamePriorities (osResourceGetInternal config { s with curr := top })
      (osResourceGetInternal config { s₁ with curr := top }) := by
  unfold osResourceGetInternal
  simp only
  split
  next resource _ =>
    have takes := osTaskResourceAdd_takes config { s with curr := top } resource top
    have takes₁ := osTaskResourceAdd_takes config { s₁ with curr := top } resource top
    refine ⟨funext fun other => ?_, fun task => ?_, fun task => ?_⟩
    · by_cases here : other = resource
      · rw [here, takes.taken, takes₁.taken]
        exact congrArg (Resource.mk · (some top)) (same.active top)
      · rw [takes.same other here, takes₁.same other here]
        exact congrFun same.resources other
    · by_cases own : task = top
      · rw [own, takes.active, takes₁.active]
      · rw [Kernel.activePriority, takes₁.others task own, Kernel.activePriority,
          takes.others task own]
        exact same.active task
    · by_cases own : task = top
      · rw [own, takes.held, takes₁.held]
        simp [same.held]
      · rw [takes.others task own, takes₁.others task own]
        exact same.held task
  next => exact { same with }

theorem osTaskSwapContext_priorities (config : TaskSet) (s : Kernel) (op : DispatchOp) (top : Nat) :
    SamePriorities (osResourceGetInternal config { s with curr := top })
      (osTaskSwapContext config s op top).1 := by
  have saved : SamePriorities s
      (s.setTask s.curr { s.tasks s.curr with context := .saved op }) := .setTask rfl rfl
  exact (saved.getInternal top).trans (osTaskSwapContextTo_priorities config _ top)

theorem Dispatched.priorities (dispatched : Dispatched config s op outcome) :
    ∃ left top, osDispatchLeave s op = some left ∧ osTaskGetTop left = some top ∧
      (top = left.curr ∧ SamePriorities left outcome.1 ∨
        top ≠ left.curr ∧ ∃ freed, osResourceReleaseInternal config left = some freed ∧
          ((left.tasks top).reactivation ∧ SamePriorities freed outcome.1 ∨
            (left.tasks top).reactivation = false ∧
              SamePriorities (osResourceGetInternal config { freed with curr := top })
                outcome.1)) := by
  cases dispatched with
  | restarted left chosen =>
    exact ⟨_, _, left, chosen, .inl ⟨rfl, osTaskStartFromBeginning_priorities _ _⟩⟩
  | @started left freed top leaves chosen other released marked =>
    have same := releaseInternal_same released
    exact ⟨left, top, leaves, chosen, .inr ⟨other, freed, released,
      .inl ⟨same.reactivation top ▸ marked, startMarked_priorities freed top⟩⟩⟩
  | @swapped left freed top leaves chosen other released unmarked =>
    have same := releaseInternal_same released
    exact ⟨left, top, leaves, chosen, .inr ⟨other, freed, released,
      .inr ⟨same.reactivation top ▸ unmarked, osTaskSwapContext_priorities config freed op top⟩⟩⟩

end Priorities

/-- What the dispatcher finds when a call comes to it: the running task left, the operation
and the top task. -/
def dispatchOf (config : TaskSet) (s : Kernel) (call : KernelCall) :
    Option (Kernel × DispatchOp × Nat) :=
  (serveTask config s call).bind fun service =>
    service.dispatch.bind fun op =>
      (osDispatchLeave service.state op).bind fun left =>
        (osTaskGetTop left).map fun top => (left, op, top)

/-- A condition on what the dispatcher finds. -/
def DispatchMeets (config : TaskSet) (condition : Kernel → DispatchOp → Nat → Prop) (s : Kernel)
    (call : KernelCall) : Prop :=
  ∀ found ∈ dispatchOf config s call, condition found.1 found.2.1 found.2.2

instance decidableDispatchMeets {config : TaskSet} {condition : Kernel → DispatchOp → Nat → Prop}
    [∀ left op top, Decidable (condition left op top)] {s : Kernel} {call : KernelCall} :
    Decidable (DispatchMeets config condition s call) :=
  inferInstanceAs (Decidable (∀ found ∈ _, _))

variable {call : KernelCall} {op : DispatchOp}

theorem DispatchMeets.found {config : TaskSet} {condition : Kernel → DispatchOp → Nat → Prop}
    {s left : Kernel} {service : Service} (meets : DispatchMeets config condition s call)
    (served : serveTask config s call = some service) (dispatch : service.dispatch = some op)
    (leaves : osDispatchLeave service.state op = some left)
    (chosen : osTaskGetTop left = some top) : condition left op top := by
  apply meets (left, op, top)
  simp [dispatchOf, served, dispatch, leaves, chosen]

/-! ## Interrupts -/

variable {Invariant : Kernel → Prop} {events : List KernelEvent}

section Interrupts

variable {config : TaskSet} {s : Kernel}

/-- The interrupted task is ready, and its context is saved. -/
def Kernel.interrupted (s : Kernel) : Kernel :=
  s.setTask s.curr { s.tasks s.curr with state := .ready, context := .interrupted }

/-- Every call of a service routine meets a condition in the state it is made in. -/
def IsrMeets (config : TaskSet) (condition : Kernel → IsrCall → Prop) :
    Kernel → List IsrCall → Prop
  | _, [] => True
  | s, call :: rest =>
    condition s call ∧
      match serveIsr config s call with
      | some service => IsrMeets config condition service.state rest
      | none => True

instance decidableIsrMeets {condition : Kernel → IsrCall → Prop}
    [∀ s call, Decidable (condition s call)] :
    (s : Kernel) → (calls : List IsrCall) → Decidable (IsrMeets config condition s calls)
  | _, [] => isTrue trivial
  | s, call :: rest =>
    have : Decidable (match serveIsr config s call with
        | some service => IsrMeets config condition service.state rest
        | none => True) :=
      match serveIsr config s call with
      | some service => decidableIsrMeets service.state rest
      | none => isTrue trivial
    inferInstanceAs (Decidable (_ ∧ _))

theorem isrMeets_true (s : Kernel) (calls : List IsrCall) :
    IsrMeets config (fun _ _ => True) s calls := by
  induction calls generalizing s with
  | nil => trivial
  | cons call rest ih =>
    refine ⟨trivial, ?_⟩
    split
    · exact ih _
    · trivial

variable {calls : List IsrCall} {condition : Kernel → IsrCall → Prop}

theorem isrEntry_keeps {Monitor : Type} {monitor : Monitor → KernelEvent → Option Monitor}
    (Tracks : Kernel → Monitor → Prop) {seen : Monitor} (tracks : Tracks s seen)
    (meets : IsrMeets config condition s calls) (served : isrEntry config s calls = some outcome)
    (keeps : ∀ s call service seen, Tracks s seen → condition s call →
      serveIsr config s call = some service →
      Accepts monitor Tracks seen (service.state, service.events)) :
    Accepts monitor Tracks seen outcome := by
  induction calls generalizing s seen outcome with
  | nil =>
    cases served
    exact ⟨seen, rfl, tracks⟩
  | cons call rest ih =>
    obtain ⟨service, called, served⟩ := bind_eq_some_iff.mp served
    obtain ⟨last, rest_served, rfl⟩ := map_eq_some_iff.mp served
    obtain ⟨fits, rest_meets⟩ := meets
    rw [called] at rest_meets
    obtain ⟨middle, watched, tracked⟩ := keeps s call service seen tracks fits called
    obtain ⟨next, rest_watched, rest_tracked⟩ := ih tracked rest_meets rest_served
    refine ⟨next, ?_, rest_tracked⟩
    rw [watch_append, watched]
    exact rest_watched

theorem isrEntry_invariant (Invariant : Kernel → Prop) (holds : Invariant s)
    (meets : IsrMeets config condition s calls) (served : isrEntry config s calls = some outcome)
    (keeps : ∀ s call service, Invariant s → condition s call →
      serveIsr config s call = some service → Invariant service.state) : Invariant outcome.1 := by
  have kept : ∃ next, watch (fun _ _ => some ()) () outcome.2 = some next ∧ Invariant outcome.1 :=
    isrEntry_keeps (fun s (_ : Unit) => Invariant s) holds meets served
      fun s call service seen holds fits served =>
        ⟨(), watch_skip fun _ _ => rfl, keeps s call service holds fits served⟩
  obtain ⟨_, _, kept⟩ := kept
  exact kept

theorem osIsr_cases (served : osIsr config s calls = some outcome) :
    ∃ s₁ events top, isrEntry config s.interrupted calls = some (s₁, events) ∧
      osTaskGetTop s₁ = some top ∧
      ((top = s₁.curr ∨ (config.task s₁.curr).scheduling = .non) ∧
          outcome =
            (s₁.setTask s₁.curr { s₁.tasks s₁.curr with state := .running, context := .live },
              events) ∨
        top ≠ s₁.curr ∧ (config.task s₁.curr).scheduling = .full ∧ outcome =
            ((osTaskSwapContextTo config s₁ top).1,
              events ++ .preempted s₁.curr :: (osTaskSwapContextTo config s₁ top).2)) := by
  obtain ⟨⟨s₁, events⟩, entered, served⟩ := bind_eq_some_iff.mp served
  obtain ⟨top, chosen, rfl⟩ := map_eq_some_iff.mp served
  refine ⟨s₁, events, top, entered, chosen, ?_⟩
  by_cases stays : top = s₁.curr ∨ (config.task s₁.curr).scheduling = .non
  · exact .inl ⟨stays, by rw [if_pos stays]⟩
  · obtain ⟨other, preemptable⟩ := not_or.mp stays
    refine .inr ⟨other, ?_, by rw [if_neg stays]⟩
    cases schedule : (config.task s₁.curr).scheduling with
    | full => rfl
    | non => exact absurd schedule preemptable

/-- The task that an interrupt gives the processor to, if it is not the interrupted one. -/
def switchOf (config : TaskSet) (s : Kernel) (calls : List IsrCall) : Option (Kernel × Nat) :=
  (isrEntry config s.interrupted calls).bind fun served =>
    (osTaskGetTop served.1).bind fun top =>
      if top = served.1.curr ∨ (config.task served.1.curr).scheduling = .non then none
      else some (served.1, top)

/-- A condition on what an interrupt that switches tasks finds. -/
def SwitchMeets (config : TaskSet) (condition : Kernel → Nat → Prop) (s : Kernel)
    (calls : List IsrCall) : Prop :=
  ∀ found ∈ switchOf config s calls, condition found.1 found.2

instance decidableSwitchMeets {condition : Kernel → Nat → Prop}
    [∀ s top, Decidable (condition s top)] {calls : List IsrCall} :
    Decidable (SwitchMeets config condition s calls) :=
  inferInstanceAs (Decidable (∀ found ∈ _, _))

theorem SwitchMeets.found {condition : Kernel → Nat → Prop} {s₁ : Kernel}
    (meets : SwitchMeets config condition s calls)
    (entered : isrEntry config s.interrupted calls = some (s₁, events))
    (chosen : osTaskGetTop s₁ = some top) (other : top ≠ s₁.curr)
    (full : (config.task s₁.curr).scheduling = .full) : condition s₁ top := by
  apply meets (s₁, top)
  simp [switchOf, entered, chosen, other, full]

theorem osIsr_seated (served : osIsr config s calls = some outcome) :
    ∃ s₁ events next, isrEntry config s.interrupted calls = some (s₁, events) ∧
      (next = s₁.curr ∨ osTaskGetTop s₁ = some next) ∧ Seated s₁ next outcome.1 := by
  obtain ⟨s₁, events, top, entered, chosen, ⟨-, rfl⟩ | ⟨-, -, rfl⟩⟩ := osIsr_cases served
  · exact ⟨s₁, events, s₁.curr, entered, .inl rfl, resumed_seated s₁⟩
  · exact ⟨s₁, events, top, entered, .inr chosen, osTaskSwapContextTo_seated config s₁ top⟩

end Interrupts

/-! ## Steps -/

section Steps

variable {config : TaskSet} {s : Kernel} {Monitor : Type}
variable {monitor : Monitor → KernelEvent → Option Monitor} {Tracks : Kernel → Monitor → Prop}

/-- The monitor accepts the events, and unless an assertion has failed it is up to date. -/
def Follows (monitor : Monitor → KernelEvent → Option Monitor)
    (Tracks : Kernel → Monitor → Prop) (seen : Monitor) (outcome : KernelOutcome) : Prop :=
  ∃ next, watch monitor seen outcome.2 = some next ∧
    (outcome.1.halted = true ∨ Tracks outcome.1 next)

variable {seen : Monitor} {event : KernelEvent} {step : KernelStep} {isr : Bool}

theorem Follows.after {middle : Monitor} (watched : watch monitor seen events = some middle)
    (follows : Follows monitor Tracks middle outcome) :
    Follows monitor Tracks seen (outcome.1, events ++ outcome.2) := by
  obtain ⟨next, rest_watched, tracks⟩ := follows
  refine ⟨next, ?_, tracks⟩
  rw [watch_append, watched]
  exact rest_watched

@[simp] theorem offer_state (config : TaskSet) (isr : Bool) (s : Kernel) (task : Nat)
    (event : KernelEvent) (op : DispatchOp) : (offer config isr s task event op).state = s := by
  unfold offer
  split <;> rfl

theorem offer_dispatch_ne {op' : DispatchOp} (other : op' ≠ op) :
    (offer config isr s task event op).dispatch ≠ some op' := by
  unfold offer
  split
  · exact fun same => other (Option.some.inj same).symm
  · nofun

theorem offer_returns (returns : (offer config isr s task event op).dispatch = none) :
    preempts config isr s task = false := by
  unfold offer at returns
  split at returns
  next => cases returns
  next stays => exact Bool.eq_false_iff.mpr stays

theorem TaskServed.isr_returns {service : Service}
    (served : TaskServed config true call s service) : service.dispatch = none := by
  have offered : ∀ {s : Kernel} {task : Nat} {event : KernelEvent} {op : DispatchOp},
      (offer config true s task event op).dispatch = none := by
    simp [offer, preempts]
  cases served with
  | refused | done | masked | taken | released => rfl
  | queued | activated | woken => exact offered
  | waits level | terminates level | chainsSelf level | chainsQueued level
  | chainsActivated level | schedules level | releasedTo level => cases level

theorem watch_offer (skips : ∀ seen status, monitor seen (.returned status) = some seen)
    (config : TaskSet) (isr : Bool) (s : Kernel) (task : Nat) (event : KernelEvent)
    (op : DispatchOp) (seen : Monitor) :
    watch monitor seen (offer config isr s task event op).events = monitor seen event := by
  unfold offer
  split <;> simp [skips]

theorem kernelStep_follows (tracks : s.halted ∨ Tracks s seen)
    (serves : ∀ call service, Tracks s seen → step = .call call →
      serveTask config s call = some service → TaskServed config false call s service →
      ∃ middle, watch monitor seen service.events = some middle ∧
        (service.dispatch = none → Tracks service.state middle) ∧
        ∀ op outcome, service.dispatch = some op →
          service.state.state service.state.curr = .running →
          Dispatched config service.state op outcome → Follows monitor Tracks middle outcome)
    (interrupts : ∀ calls outcome, Tracks s seen → step = .interrupt calls →
      osIsr config s calls = some outcome → Follows monitor Tracks seen outcome) :
    Follows monitor Tracks seen (kernelStep config s step) := by
  unfold kernelStep
  split
  next halted => exact ⟨seen, rfl, .inl halted⟩
  next running =>
    have tracks := tracks.resolve_left running
    have fails : Follows monitor Tracks seen (s.halt, []) := ⟨seen, rfl, .inl rfl⟩
    cases step with
    | call call =>
      cases called : callTask config s call with
      | none => simpa [called] using fails
      | some outcome =>
        suffices follows : Follows monitor Tracks seen outcome by simpa [called] using follows
        obtain ⟨service, served, called⟩ := bind_eq_some_iff.mp called
        obtain ⟨middle, watched, returned, dispatched⟩ :=
          serves call service tracks rfl served (serveTask_served served)
        split at called
        next no_dispatch =>
          cases called
          exact ⟨middle, watched, .inr (returned no_dispatch)⟩
        next op dispatches =>
          obtain ⟨next, given, rfl⟩ := map_eq_some_iff.mp called
          obtain ⟨running, given⟩ := osDispatch_dispatched given
          exact (dispatched op next dispatches running given).after watched
    | interrupt isr =>
      cases called : osIsr config s isr with
      | none => simpa [called] using fails
      | some outcome => simpa [called] using interrupts isr outcome tracks rfl called

theorem kernelStep_invariant (holds : s.halted ∨ Invariant s)
    (serves : ∀ call service, Invariant s → step = .call call →
      serveTask config s call = some service → TaskServed config false call s service →
      (service.dispatch = none → Invariant service.state) ∧
        ∀ op outcome, service.dispatch = some op →
          service.state.state service.state.curr = .running →
          Dispatched config service.state op outcome →
          outcome.1.halted ∨ Invariant outcome.1)
    (interrupts : ∀ calls outcome, Invariant s → step = .interrupt calls →
      osIsr config s calls = some outcome → outcome.1.halted ∨ Invariant outcome.1) :
    (kernelStep config s step).1.halted ∨ Invariant (kernelStep config s step).1 := by
  have watched : ∀ events, watch (fun (_ : Unit) (_ : KernelEvent) => some ()) () events =
      some () := fun _ => watch_skip fun _ _ => rfl
  have follows : Follows (fun _ _ => some ()) (fun s (_ : Unit) => Invariant s) ()
      (kernelStep config s step) := by
    apply kernelStep_follows holds
    · intro call service holds is_call given served
      obtain ⟨kept, dispatched⟩ := serves call service holds is_call given served
      exact ⟨(), watched _, kept, fun op outcome dispatch running given =>
        ⟨(), watched _, dispatched op outcome dispatch running given⟩⟩
    · intro calls outcome holds is_interrupt served
      exact ⟨(), watched _, interrupts calls outcome holds is_interrupt served⟩
  obtain ⟨_, _, kept⟩ := follows
  exact kept

section Runs

variable {Condition : Kernel → KernelStep → Prop} {steps : List KernelStep}
variable (meets : Meets (kernelStep config) Condition (osStart config).1 steps)
include meets

theorem kernelRun_invariant (start : Invariant (osStart config).1)
    (stepped : ∀ {s step}, s.halted ∨ Invariant s → Condition s step →
      (kernelStep config s step).1.halted ∨ Invariant (kernelStep config s step).1)
    (executes : (run (kernelStep config) (osStart config).1 steps).1.halted = false) :
    Invariant (run (kernelStep config) (osStart config).1 steps).1 := by
  refine (run_invariant (fun s => s.halted = true ∨ Invariant s) (.inr start) meets
    fun _ _ => stepped).resolve_left ?_
  simp [executes]

theorem kernelRun_follows (start : Follows monitor Tracks seen (osStart config))
    (stepped : ∀ {s step seen}, s.halted ∨ Tracks s seen → Condition s step →
      Follows monitor Tracks seen (kernelStep config s step)) :
    Follows monitor Tracks seen
      ((run (kernelStep config) (osStart config).1 steps).1,
        (osStart config).2 ++ (run (kernelStep config) (osStart config).1 steps).2) := by
  obtain ⟨first, started, tracks⟩ := start
  apply Follows.after started
  exact run_watched (fun (s : Kernel) seen => s.halted = true ∨ Tracks s seen) tracks meets
    fun _ _ _ => stepped

end Runs

end Steps

end Os
