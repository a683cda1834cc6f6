import ClassicPlatform.Os.Counters
import Mathlib.Data.List.MinMax

/-!
# Tasks, events, resources and the dispatcher

The kernel of `os_task.c`, `os_event.c`, `os_resource.c` and `os_isr.c` on one core, up to
`Os_Dispatch` for the architectures without a context save area (not `CFG_TC2XX`). Left
out are the checks for disabled interrupts and for the calling level, the access checks
between applications, hooks, stack checks and the semaphores of the kernel extension.

Task code is not modelled: a step is a service call of the running task, or an interrupt
with the calls of its service routine. What becomes of the processor when a service calls
the dispatcher depends on the context in which the chosen task was left, so the contexts
are part of the state. A function with an `ASSERT` returns `none` where it fails.
-/
namespace Os

abbrev EventMask := BitVec 64

inductive ProcType
  | basic
  | extended
  deriving DecidableEq, Repr

/-- `OsTaskSchedule`. -/
inductive TaskSchedule
  | full
  | non
  deriving DecidableEq, Repr

inductive TaskState
  | ready
  | waitEvent
  | suspended
  | running
  deriving DecidableEq, Repr

/-- `OsResourcePropertyType`. -/
inductive ResourceProperty
  | standard
  | linked
  | internal
  deriving DecidableEq, Repr

structure TaskConfig where
  prio : Nat
  procType : ProcType
  autostart : Bool
  scheduling : TaskSchedule
  /-- A bit for every resource that the task may use. -/
  resourceAccess : Nat
  resourceInt : Option Nat
  activationLimit : Nat

/-- The resources are numbered from 0; `RES_SCHEDULER` follows behind the last one. -/
structure TaskSet where
  statusExtended : Bool
  taskCnt : Nat
  resourceCnt : Nat
  task : Nat → TaskConfig
  resourceType : Nat → ResourceProperty

/-- `OpType`; the chained task stands in `chainedPcbPtr`, which only the dispatcher reads. -/
inductive DispatchOp
  | setEvent
  | waitEvent
  | activateTask
  | terminateTask
  | schedule
  | chainTask (chained : Nat)
  | releaseResource
  deriving DecidableEq, Repr

/-- Where a task goes on when it gets the processor: at its entry, behind the `Os_Dispatch` of
the service that it has called, or where an interrupt has stopped it. A task that runs has
no saved context. -/
inductive Context
  | start
  | saved (op : DispatchOp)
  | interrupted
  | live
  deriving DecidableEq, Repr

/-- `OsTaskVarType`. The resources are in the order in which they were taken. -/
structure Task where
  state : TaskState
  evWait : EventMask
  evSet : EventMask
  activePriority : Nat
  activations : Nat
  reactivation : Bool
  resources : List Nat
  context : Context

structure Resource where
  oldTaskPrio : Nat
  owner : Option Nat

/-- `halted` is set when an assertion of the source has failed. -/
structure Kernel where
  tasks : Nat → Task
  resources : Nat → Resource
  ready : List Nat
  curr : Nat
  halted : Bool

inductive KernelEvent
  | returned (status : StatusType)
  | activated (task : Nat)
  | woken (task : Nat)
  | started (task : Nat)
  | resumed (task : Nat)
  | preempted (task : Nat)
  | yielded (task : Nat)
  | waited (task : Nat)
  | ended (task : Nat)
  /-- The assertion behind `TerminateTask` or `ChainTask` is reached. -/
  | deadEnd (task : Nat)
  /-- The task has no saved context. -/
  | lost (task : Nat)
  deriving DecidableEq, Repr

abbrev KernelOutcome := Kernel × List KernelEvent

namespace Kernel

def setTask (s : Kernel) (task : Nat) (value : Task) : Kernel :=
  { s with tasks := Function.update s.tasks task value }

def setResource (s : Kernel) (resource : Nat) (value : Resource) : Kernel :=
  { s with resources := Function.update s.resources resource value }

/-- A failed `ASSERT` does not return. -/
def halt (s : Kernel) : Kernel := { s with halted := true }

def state (s : Kernel) (task : Nat) : TaskState := (s.tasks task).state

def activePriority (s : Kernel) (task : Nat) : Nat := (s.tasks task).activePriority

end Kernel

namespace TaskSet

def resScheduler (config : TaskSet) : Nat := config.resourceCnt

/-- `OS_RES_SCHEDULER_PRIO`. -/
def resSchedulerPrio : Nat := 2 ^ 32 - 1

def hasAccess (config : TaskSet) (task resource : Nat) : Bool :=
  (config.task task).resourceAccess.testBit resource

/-- The ceilings that `Os_ResourceInit` computes; they do not change any more. -/
def ceilingPriority (config : TaskSet) (resource : Nat) : Nat :=
  if resource = config.resScheduler then resSchedulerPrio
  else
    (List.range config.taskCnt).foldl
      (fun top task =>
        if config.hasAccess task resource then max top (config.task task).prio else top) 0

/-- `resScheduler` is zero-initialised, which makes it a standard resource. -/
def typeOf (config : TaskSet) (resource : Nat) : ResourceProperty :=
  if resource = config.resScheduler then .standard else config.resourceType resource

end TaskSet

/-! ## Queue and states -/

variable (config : TaskSet) (s : Kernel) (task : Nat)

def osTaskMakeReady : Kernel :=
  let t := s.tasks task
  if t.state = .ready ∨ t.state = .running then s
  else { s.setTask task { t with state := .ready } with ready := s.ready ++ [task] }

/-- `Os_TaskMakeWaiting` and `Os_TaskMakeSuspended`. -/
def osTaskMake (state : TaskState) (s : Kernel) (task : Nat) : Option Kernel :=
  let t := s.tasks task
  if t.state = .ready ∨ t.state = .running then
    some { s.setTask task { t with state } with ready := s.ready.erase task }
  else none

def osTaskMakeWaiting : Kernel → Nat → Option Kernel := osTaskMake .waitEvent

def osTaskMakeSuspended : Kernel → Nat → Option Kernel := osTaskMake .suspended

def osTaskRunningToReady : Option Kernel :=
  if s.state task = .running then some (s.setTask task { s.tasks task with state := .ready })
  else none

/-- The first task of the ready queue with the highest priority; the running task is included. -/
def osTaskGetTop : Option Nat :=
  if s.ready.all fun task => s.state task = .ready ∨ s.state task = .running then
    s.ready.argmax s.activePriority
  else none

/-- `Os_Arc_SetCleanContext`. -/
def osArcSetCleanContext : Kernel :=
  let t := s.tasks task
  match (config.task task).procType with
  | .extended => s.setTask task { t with evSet := 0, evWait := 0, context := .start }
  | .basic => s.setTask task { t with context := .start }

/-! ## Resources of a task -/

def osTaskResourceAdd (resource task : Nat) : Kernel :=
  let t := s.tasks task
  let s := s.setResource resource { oldTaskPrio := t.activePriority, owner := some task }
  s.setTask task
    { t with
      activePriority := config.ceilingPriority resource
      resources :=
        if config.typeOf resource = .internal then t.resources else t.resources ++ [resource] }

/-- The resources of a task are given back in the opposite order. -/
def osTaskResourceRemove (resource task : Nat) : Option Kernel :=
  let t := s.tasks task
  let r := s.resources resource
  if r.owner ≠ some task then none
  else
    let s := s.setResource resource { r with owner := none }
    if config.typeOf resource = .internal then
      some (s.setTask task { t with activePriority := r.oldTaskPrio })
    else if t.resources.getLast? = some resource then
      some (s.setTask task
        { t with activePriority := r.oldTaskPrio, resources := t.resources.dropLast })
    else none

def osResourceGetInternal : Kernel :=
  match (config.task s.curr).resourceInt with
  | some resource => osTaskResourceAdd config s resource s.curr
  | none => s

def osResourceReleaseInternal : Option Kernel :=
  match (config.task s.curr).resourceInt with
  | some resource => osTaskResourceRemove config s resource s.curr
  | none => some s

def osSchedulerResourceIsFree : Bool :=
  (s.resources config.resScheduler).owner = none

/-! ## The dispatcher -/

/-- The processor goes on in the context of the task. -/
def Kernel.enter : KernelOutcome :=
  let t := s.tasks task
  let live := s.setTask task { t with context := .live }
  match t.context with
  | .start => (live, [.started task])
  | .saved .terminateTask | .saved (.chainTask _) => (s.halt, [.deadEnd task])
  | .saved _ | .interrupted => (live, [.resumed task])
  | .live => (s.halt, [.lost task])

def osTaskSwapContextTo : KernelOutcome :=
  let s := osResourceGetInternal config { s with curr := task }
  let s := s.setTask task { s.tasks task with state := .running }
  s.enter task

/-- The context of the outgoing task is saved, behind its call of `Os_Dispatch`. -/
def osTaskSwapContext (op : DispatchOp) (task : Nat) : KernelOutcome :=
  let s := s.setTask s.curr { s.tasks s.curr with context := .saved op }
  osTaskSwapContextTo config s task

/-- `Os_TaskStartFromBeginning`; nothing of the outgoing task is saved. -/
def osTaskStartFromBeginning : KernelOutcome :=
  let s := s.setTask task { s.tasks task with state := .running, context := .live }
  ({ s with curr := task }, [.started task])

/-- The state of the running task after the operation. -/
def osDispatchLeave : DispatchOp → Option Kernel
  | .setEvent | .schedule | .releaseResource => osTaskRunningToReady s s.curr
  | .waitEvent => osTaskMakeWaiting s s.curr
  | .activateTask => some (osTaskMakeReady s s.curr)
  | .chainTask chained =>
    let t := s.tasks s.curr
    if s.curr = chained then some s
    else if t.activations = 0 then none
    else
      let s := s.setTask s.curr { t with activations := t.activations - 1 }
      if t.activations - 1 = 0 then osTaskMakeSuspended s s.curr
      else
        (osTaskRunningToReady s s.curr).map fun s =>
          s.setTask s.curr { s.tasks s.curr with reactivation := true }
  | .terminateTask =>
    let t := s.tasks s.curr
    if t.activations = 0 then none
    else
      let s := s.setTask s.curr { t with activations := t.activations - 1 }
      if t.activations - 1 = 0 then osTaskMakeSuspended s s.curr else some s

/-- `TerminateTask` and `ChainTask` end an instance of the task. -/
def DispatchOp.ends : DispatchOp → Bool
  | .terminateTask | .chainTask _ => true
  | _ => false

/-- How a task loses the processor. -/
def DispatchOp.departure : DispatchOp → KernelEvent
  | .setEvent | .activateTask | .releaseResource => .preempted task
  | .schedule => .yielded task
  | .waitEvent => .waited task
  | .terminateTask | .chainTask _ => .ended task

def osDispatch (op : DispatchOp) : Option KernelOutcome :=
  if ¬ (osSchedulerResourceIsFree config s ∧ s.state s.curr = .running) then none
  else
    (osDispatchLeave s op).bind fun s =>
      (osTaskGetTop s).bind fun top =>
        if top ≠ s.curr then
          (osResourceReleaseInternal config s).map fun s =>
            let next :=
              if (s.tasks top).reactivation then
                osTaskStartFromBeginning
                  (s.setTask top { s.tasks top with reactivation := false }) top
              else osTaskSwapContext config s op top
            (next.1, op.departure s.curr :: next.2)
        else
          let next := osTaskStartFromBeginning s top
          some (next.1, if op.ends then op.departure s.curr :: next.2 else next.2)

/-! ## Services -/

/-- What a service has done when it returns or calls the dispatcher. -/
structure Service where
  state : Kernel
  events : List KernelEvent
  dispatch : Option DispatchOp

/-- The service returns without a call of the dispatcher. -/
def returns (status : StatusType) : Service :=
  { state := s, events := [.returned status], dispatch := none }

/-- The parameter checks are made with extended status only. -/
def validateTask (ok : Bool) (error : StatusType) (s : Kernel)
    (body : Option Service) : Option Service :=
  if config.statusExtended && !ok then some (returns s error) else body

section

variable (isr : Bool) (s : Kernel) (task : Nat)

/-- The running task is preempted at task level by a task of higher priority. -/
def preempts : Bool :=
  !isr && (config.task s.curr).scheduling == .full &&
    decide (s.activePriority s.curr < s.activePriority task)

/-- The end of the services that make a task ready. -/
def offer (event : KernelEvent) (op : DispatchOp) : Service :=
  if preempts config isr s task then { state := s, events := [event], dispatch := some op }
  else { state := s, events := [event, .returned .eOk], dispatch := none }

/-- The activation counter has 8 bits. -/
def activateTask : Option Service :=
  validateTask config (task < config.taskCnt) .eOsId s <|
    let t := s.tasks task
    let activations := (t.activations + 1) % 2 ^ 8
    let s' := s.setTask task { t with activations }
    if t.state ≠ .suspended then
      if (config.task task).activationLimit < activations then some (returns s .eOsLimit)
      else some <| offer config isr s' task (.activated task) .activateTask
    else if activations = 1 then
      some <| offer config isr (osTaskMakeReady (osArcSetCleanContext config s' task) task) task
        (.activated task) .activateTask
    else none

end

def terminateTask : Option Service :=
  validateTask config (s.tasks s.curr).resources.isEmpty .eOsResource s <|
    some { state := s, events := [], dispatch := some .terminateTask }

def chainTask : Option Service :=
  validateTask config (task < config.taskCnt) .eOsId s <|
    validateTask config (s.tasks s.curr).resources.isEmpty .eOsResource s <|
      let t := s.tasks task
      let chain := fun s : Kernel =>
        some { state := s, events := [.activated task], dispatch := some (.chainTask task) }
      let count := fun s : Kernel =>
        let t := s.tasks task
        s.setTask task { t with activations := (t.activations + 1) % 2 ^ 8 }
      if s.curr = task then chain s
      else if (config.task task).activationLimit < t.activations + 1 then
        some (returns s .eOsLimit)
      else if t.state ≠ .suspended then chain (count s)
      else if t.activations = 0 then
        chain (count (osTaskMakeReady (osArcSetCleanContext config s task) task))
      else none

def getTaskState : Except StatusType TaskState :=
  if config.statusExtended ∧ ¬ task < config.taskCnt then .error .eOsId else .ok (s.state task)

/-- Tasks that are not preemptable give way to a task of higher priority. -/
def schedule : Option Service :=
  validateTask config (s.tasks s.curr).resources.isEmpty .eOsResource s <|
    if s.state s.curr ≠ .running then none
    else if (config.task s.curr).scheduling = .full then some (returns s .eOk)
    else
      (osTaskGetTop s).bind fun top =>
        if s.activePriority s.curr < s.activePriority top then
          some { state := s, events := [], dispatch := some .schedule }
        else some (returns s .eOk)

def setEvent (isr : Bool) (s : Kernel) (task : Nat) (mask : EventMask) : Option Service :=
  validateTask config (task < config.taskCnt) .eOsId s <|
    validateTask config ((config.task task).procType == .extended) .eOsAccess s <|
      validateTask config (s.state task != .suspended) .eOsState s <|
        let t := s.tasks task
        let s' := s.setTask task { t with evSet := t.evSet ||| mask }
        if mask &&& t.evWait = 0 then some (returns s' .eOk)
        else
          match t.state with
          | .waitEvent =>
            some (offer config isr (osTaskMakeReady s' task) task (.woken task) .setEvent)
          | .ready | .running => some (returns s' .eOk)
          | .suspended => none

def waitEvent (mask : EventMask) : Option Service :=
  validateTask config ((config.task s.curr).procType == .extended) .eOsAccess s <|
    validateTask config (s.tasks s.curr).resources.isEmpty .eOsResource s <|
      let t := s.tasks s.curr
      if t.evSet &&& mask = 0 then
        some
          { state := s.setTask s.curr { t with evWait := mask }
            events := []
            dispatch := some .waitEvent }
      else some (returns s .eOk)

def clearEvent (mask : EventMask) : Option Service :=
  validateTask config ((config.task s.curr).procType == .extended) .eOsAccess s <|
    let t := s.tasks s.curr
    some (returns (s.setTask s.curr { t with evSet := t.evSet &&& ~~~ mask }) .eOk)

def getResource (resource : Nat) : Option Service :=
  validateTask config (resource ≤ config.resourceCnt) .eOsId s <|
    if resource ≠ config.resScheduler ∧
        (config.hasAccess s.curr resource = false ∨ (s.resources resource).owner ≠ none ∨
          config.ceilingPriority resource < s.activePriority s.curr) then
      some (returns s .eOsAccess)
    else some (returns (osTaskResourceAdd config s resource s.curr) .eOk)

def releaseResource (resource : Nat) : Option Service :=
  validateTask config (resource ≤ config.resourceCnt) .eOsId s <|
    if resource ≠ config.resScheduler ∧ config.hasAccess s.curr resource = false then
      some (returns s .eOsId)
    else if (s.resources resource).owner = none then some (returns s .eOsNofunc)
    else if s.activePriority s.curr < config.ceilingPriority resource then none
    else
      (osTaskResourceRemove config s resource s.curr).bind fun s =>
        if (config.task s.curr).scheduling = .non then some (returns s .eOk)
        else
          (osTaskGetTop s).bind fun top =>
            if s.activePriority s.curr < s.activePriority top then
              some { state := s, events := [], dispatch := some .releaseResource }
            else some (returns s .eOk)

/-! ## Interrupts -/

inductive IsrCall
  | activateTask (task : Nat)
  | setEvent (task : Nat) (mask : EventMask)
  deriving DecidableEq

def serveIsr : IsrCall → Option Service
  | .activateTask task => activateTask config true s task
  | .setEvent task mask => setEvent config true s task mask

/-- The calls of a service routine, those of nested interrupts included. -/
def isrEntry (config : TaskSet) (s : Kernel) : List IsrCall → Option KernelOutcome
  | [] => some (s, [])
  | call :: rest =>
    (serveIsr config s call).bind fun service =>
      (isrEntry config service.state rest).map fun last =>
        (last.1, service.events ++ last.2)

/-- `Os_Isr` for an interrupt of a task. The interrupted task is ready while the service
routine runs. -/
def osIsr (calls : List IsrCall) : Option KernelOutcome :=
  let interrupted :=
    s.setTask s.curr { s.tasks s.curr with state := .ready, context := .interrupted }
  (isrEntry config interrupted calls).bind fun served =>
    let s := served.1
    (osTaskGetTop s).map fun top =>
      if top = s.curr ∨ (config.task s.curr).scheduling = .non then
        (s.setTask s.curr { s.tasks s.curr with state := .running, context := .live }, served.2)
      else
        let next := osTaskSwapContextTo config s top
        (next.1, served.2 ++ .preempted s.curr :: next.2)

/-! ## Steps and start -/

inductive KernelCall
  | activateTask (task : Nat)
  | terminateTask
  | chainTask (task : Nat)
  | schedule
  | setEvent (task : Nat) (mask : EventMask)
  | waitEvent (mask : EventMask)
  | clearEvent (mask : EventMask)
  | getResource (resource : Nat)
  | releaseResource (resource : Nat)
  deriving DecidableEq

inductive KernelStep
  | call (call : KernelCall)
  | interrupt (calls : List IsrCall)
  deriving DecidableEq

def serveTask : KernelCall → Option Service
  | .activateTask task => activateTask config false s task
  | .terminateTask => terminateTask config s
  | .chainTask task => chainTask config s task
  | .schedule => schedule config s
  | .setEvent task mask => setEvent config false s task mask
  | .waitEvent mask => waitEvent config s mask
  | .clearEvent mask => clearEvent config s mask
  | .getResource resource => getResource config s resource
  | .releaseResource resource => releaseResource config s resource

def callTask (call : KernelCall) : Option KernelOutcome :=
  (serveTask config s call).bind fun service =>
    match service.dispatch with
    | none => some (service.state, service.events)
    | some op =>
      (osDispatch config service.state op).map fun next => (next.1, service.events ++ next.2)

/-- One step of task code or of an interrupt; after a failed assertion nothing happens. -/
def kernelStep (step : KernelStep) : KernelOutcome :=
  if s.halted then (s, [])
  else
    let outcome :=
      match step with
      | .call call => callTask config s call
      | .interrupt calls => osIsr config s calls
    outcome.getD (s.halt, [])

/-- The tasks after `InitOS`, in the order of their numbers. -/
def initOs : Kernel where
  tasks task :=
    let autostart := decide (task < config.taskCnt) && (config.task task).autostart
    { state := if autostart then .ready else .suspended
      evWait := 0
      evSet := 0
      activePriority := (config.task task).prio
      activations := if autostart then 1 else 0
      reactivation := false
      resources := []
      context := .start }
  resources _ := { oldTaskPrio := 0, owner := none }
  ready := (List.range config.taskCnt).filter fun task => (config.task task).autostart
  curr := 0
  halted := false

/-- The search for the first task; the idle task is task 0. -/
def firstTask : Nat :=
  (List.range config.taskCnt).foldl
    (fun top task =>
      if (config.task task).autostart ∧ (config.task top).prio < (config.task task).prio then task
      else top) 0

/-- `os_start`. -/
def osStart : KernelOutcome :=
  let s := initOs config
  let next := osTaskSwapContextTo config s (firstTask config)
  (next.1, s.ready.map .activated ++ next.2)

end Os
