import ClassicPlatform.Os.KernelSteps

/-!
# States of the tasks

While task code executes, the running task should be the only one in state `ST_RUNNING`,
the ready queue should hold the ready tasks and the running one, and a task should be
suspended if and only if no activation of it is pending.

The queue is right in every run. The activations are right as long as the 8-bit counter
does not overflow. `Os_Dispatch` leaves the running task in `ST_RUNNING` when it is
displaced by `ActivateTask`, or by a higher priority when it chains to itself or
terminates with a further activation pending.
-/
namespace Os

open Kernel List Machine Nat

variable {config : TaskSet} {isr : Bool} {call : KernelCall} {s s' s₁ : Kernel} {task top : Nat}

/-! ## The ready queue -/

structure QueueHolds (s : Kernel) : Prop where
  nodup : s.ready.Nodup
  member : ∀ task, task ∈ s.ready ↔ s.state task = .ready ∨ s.state task = .running

variable {value : Task}

section

variable (holds : QueueHolds s)
include holds

theorem QueueHolds.of_same (same : SameStates s s') : QueueHolds s' where
  nodup := by
    rw [same.ready]
    exact holds.nodup
  member task := by
    rw [same.ready, same.state]
    exact holds.member task

theorem QueueHolds.enqueue (absent : task ∉ s.ready)
    (state : value.state = .ready) : QueueHolds (s.enqueue task value) where
  nodup := by
    apply Queue.enqueue holds.nodup
    rintro other member rfl
    exact absent member
  member := by
    apply forall_setTask s task value
      (P := fun other t => other ∈ s.ready ++ [task] ↔ t.state = .ready ∨ t.state = .running)
    · intro other ne
      rw [mem_append, mem_singleton, or_iff_left ne]
      exact holds.member other
    · simp [state]

theorem QueueHolds.dequeue (state : ¬ (value.state = .ready ∨ value.state = .running)) :
    QueueHolds (s.dequeue task value) where
  nodup := holds.nodup.erase task
  member := by
    apply forall_setTask s task value
      (P := fun other t => other ∈ s.ready.erase task ↔ t.state = .ready ∨ t.state = .running)
    · intro other ne
      rw [holds.nodup.mem_erase_iff, and_iff_right ne]
      exact holds.member other
    · rw [holds.nodup.mem_erase_iff]
      exact ⟨fun own => absurd rfl own.1, fun active => absurd active state⟩

theorem QueueHolds.setTask (member : task ∈ s.ready)
    (state : value.state = .ready ∨ value.state = .running) :
    QueueHolds (s.setTask task value) where
  nodup := holds.nodup
  member := by
    apply forall_setTask s task value
      (P := fun other t => other ∈ s.ready ↔ t.state = .ready ∨ t.state = .running)
    · exact fun other _ => holds.member other
    · exact iff_of_true member state

theorem QueueHolds.absent
    (asleep : s.state task = .suspended ∨ s.state task = .waitEvent) : task ∉ s.ready := by
  rw [holds.member]
  rcases asleep with state | state <;> simp [state]

theorem QueueHolds.awake (member : task ∈ s.ready) : s.state task ≠ .suspended := by
  rcases (holds.member task).mp member with state | state <;> simp [state]

theorem QueueHolds.seated (member : top ∈ s.ready) (seated : Seated s top s') : QueueHolds s' where
  nodup := by
    rw [seated.ready]
    exact holds.nodup
  member task := by
    rw [seated.ready]
    by_cases own : task = top
    · subst own
      exact iff_of_true member (.inr seated.running)
    · rw [state, seated.others task own]
      exact holds.member task

/-! ## What services and the dispatcher change -/

end

variable (config call s) in
/-- What a service changes of the states, the activations and the queue. -/
inductive Effect : Kernel → Prop
  | same {s' : Kernel} (same : SameStates s s') : Effect s'
  | queued (task : Nat) (awake : s.state task ≠ .suspended)
      (fits : ((s.tasks task).activations + 1) % 2 ^ 8 ≤ (config.task task).activationLimit)
      (counts : call = .activateTask task ∨
        (s.tasks task).activations + 1 ≤ (config.task task).activationLimit) :
      Effect
        (s.setTask task
          { s.tasks task with activations := ((s.tasks task).activations + 1) % 2 ^ 8 })
  | readied (task : Nat) (value : Task) (ready : value.state = .ready)
      (asleep : s.state task = .suspended ∧ value.activations = 1 ∨
        s.state task = .waitEvent ∧ value.activations = (s.tasks task).activations) :
      Effect (s.enqueue task value)

theorem TaskServed.effect {service : Service} (served : TaskServed config isr call s service) :
    Effect config call s service.state := by
  cases served with
  | refused | done | terminates | chainsSelf | schedules => exact .same (.refl s)
  | masked | waits => exact .same (.setTask rfl rfl)
  | queued task called awake fits =>
    rw [offer_state]
    exact .queued task awake fits (.inl called)
  | activated task evSet evWait suspended =>
    rw [offer_state]
    exact .readied task _ rfl (.inl ⟨suspended, rfl⟩)
  | woken task evSet waits =>
    rw [offer_state]
    exact .readied task _ rfl (.inr ⟨waits, rfl⟩)
  | chainsQueued level task called other free awake fits =>
    exact .queued task awake ((mod_le _ _).trans fits) (.inr fits)
  | chainsActivated level task evSet evWait called other free suspended =>
    exact .readied task _ rfl (.inl ⟨suspended, rfl⟩)
  | taken level resource => exact .same (osTaskResourceAdd_same config s resource s.curr).toSameStates
  | released level resource called access removed
  | releasedTo level resource called access removed => exact .same (osTaskResourceRemove_same removed).toSameStates

theorem Effect.queueHolds (holds : QueueHolds s) (effect : Effect config call s s') :
    QueueHolds s' := by
  cases effect with
  | same same => exact holds.of_same same
  | queued task awake =>
    -- the task is ready, running or waiting, and stays so
    refine ⟨holds.nodup, ?_⟩
    apply forall_setTask s task
      (P := fun other t => other ∈ s.ready ↔ t.state = .ready ∨ t.state = .running)
    · exact fun other _ => holds.member other
    · exact holds.member task
  | readied task value ready asleep =>
    refine holds.enqueue (holds.absent ?_) ready
    exact asleep.imp And.left And.left

section

variable (effect : Effect config call s s')
include effect

theorem Effect.curr : s'.curr = s.curr := by
  cases effect with
  | same same => exact same.curr
  | queued | readied => rfl

theorem Effect.ready_subset : s.ready ⊆ s'.ready := by
  cases effect with
  | same same => exact (same.ready ▸ List.Subset.refl _)
  | queued => exact List.Subset.refl _
  | readied => exact subset_append_left _ _

theorem Effect.running (task : Nat) : s'.state task = .running ↔ s.state task = .running := by
  cases effect with
  | same same => rw [same.state]
  | queued changed =>
    apply forall_setTask s changed
      (P := fun other t => t.state = .running ↔ s.state other = .running)
    · exact fun _ _ => Iff.rfl
    · exact Iff.rfl
  | readied changed value ready asleep =>
    apply forall_setTask s changed value
      (P := fun other t => t.state = .running ↔ s.state other = .running)
    · exact fun _ _ => Iff.rfl
    · rcases asleep with ⟨state, -⟩ | ⟨state, -⟩ <;> simp [ready, state]

theorem Effect.still_running
    (running : s.state s.curr = .running) : s'.state s'.curr = .running := by
  rw [effect.running, effect.curr]
  exact running

theorem Effect.still_ready (member : s.curr ∈ s.ready) : s'.curr ∈ s'.ready :=
  effect.curr ▸ effect.ready_subset member

end

variable {op : DispatchOp}

section

variable (left : Left s op s₁)
include left

theorem Left.curr : s₁.curr = s.curr := by
  cases left <;> rfl

theorem Left.others {other : Nat} (ne : other ≠ s.curr) : s₁.tasks other = s.tasks other := by
  cases left with
  | kept | selfChained => rfl
  | readied | again | flagged => exact setTask_tasks_of_ne _ _ _ ne
  | waiting | suspended => exact dequeue_tasks_of_ne _ _ _ ne

theorem Left.queueHolds (holds : QueueHolds s)
    (running : s.state s.curr = .running) : QueueHolds s₁ := by
  have member : s.curr ∈ s.ready := (holds.member s.curr).mpr (.inr running)
  cases left with
  | kept | selfChained => exact holds
  | readied | flagged => exact holds.setTask member (.inl rfl)
  | again => exact holds.setTask member (.inr running)
  | waiting | suspended => exact holds.dequeue (by simp)

theorem Left.ready_of_member (holds : QueueHolds s)
    (member : s₁.curr ∈ s₁.ready) : s₁.ready = s.ready := by
  cases left with
  | kept | selfChained | readied | again | flagged => rfl
  | waiting | suspended =>
    rw [dequeue_ready, holds.nodup.mem_erase_iff] at member
    exact absurd rfl member.1

/-! ## Activations -/

end

/-- The values that the generator guarantees: task 0 is the idle task, and activation limits
have 8 bits. -/
structure TaskSet.Valid (config : TaskSet) : Prop where
  idle : 0 < config.taskCnt ∧ (config.task 0).autostart = true
  limit_pos : ∀ task, 1 ≤ (config.task task).activationLimit
  limit_le : ∀ task, (config.task task).activationLimit ≤ 255

structure Task.Counted (limit : Nat) (t : Task) : Prop where
  suspended : t.state = .suspended ↔ t.activations = 0
  limited : t.activations ≤ limit

def Counted (config : TaskSet) (s : Kernel) : Prop :=
  ∀ task, (s.tasks task).Counted (config.task task).activationLimit

/-- The activation that is asked for can be counted with 8 bits. -/
def RoomToCount (s : Kernel) : KernelCall → Prop
  | .activateTask task => (s.tasks task).activations < 255
  | _ => True

instance decidableRoomToCount (s : Kernel) : (call : KernelCall) → Decidable (RoomToCount s call)
  | .activateTask _ => inferInstanceAs (Decidable (_ < _))
  | .terminateTask | .chainTask _ | .schedule | .setEvent _ _ | .waitEvent _ | .clearEvent _
  | .getResource _ | .releaseResource _ => isTrue trivial

section

variable (counted : Counted config s)
include counted

theorem Counted.of_same (same : SameStates s s') : Counted config s' := by
  intro task
  have state : (s'.tasks task).state = (s.tasks task).state := same.state task
  constructor
  · rw [state, same.activations]
    exact (counted task).suspended
  · rw [same.activations]
    exact (counted task).limited

theorem Counted.awake (awake : s.state task ≠ .suspended) : 0 < (s.tasks task).activations :=
  Nat.pos_of_ne_zero fun zero => awake ((counted task).suspended.mpr zero)

theorem Counted.ready (holds : QueueHolds s)
    (member : task ∈ s.ready) : 0 < (s.tasks task).activations :=
  counted.awake (holds.awake member)

end

theorem counted_up (valid : config.Valid) (room : RoomToCount s call)
    (counts : call = .activateTask task ∨
      (s.tasks task).activations + 1 ≤ (config.task task).activationLimit) :
    ((s.tasks task).activations + 1) % 2 ^ 8 = (s.tasks task).activations + 1 := by
  have below : (s.tasks task).activations < 255 := by
    rcases counts with called | fits
    · rw [called] at room
      exact room
    · exact lt_of_succ_le (fits.trans (valid.limit_le task))
  exact mod_eq_of_lt (by omega)

theorem Counted.readied (valid : config.Valid) (counted : Counted config s)
    (ready : value.state = .ready) (asleep : s.state task = .suspended ∧ value.activations = 1 ∨
      s.state task = .waitEvent ∧ value.activations = (s.tasks task).activations) :
    Counted config (s.enqueue task value) := by
  apply forall_setTask s task
  · exact fun other _ => counted other
  · rcases asleep with ⟨-, one⟩ | ⟨waits, same⟩
    · exact ⟨by simp [ready, one], one ▸ valid.limit_pos task⟩
    · have pending : 0 < (s.tasks task).activations := counted.awake (by simp [waits])
      exact ⟨by simp [ready]; omega, same ▸ (counted task).limited⟩

theorem Effect.counted (valid : config.Valid) (counted : Counted config s)
    (room : RoomToCount s call) (effect : Effect config call s s') : Counted config s' := by
  cases effect with
  | same same => exact counted.of_same same
  | queued task awake fits counts =>
    apply forall_setTask s task
    · exact fun other _ => counted other
    · refine ⟨iff_of_false awake fun none_left => ?_, fits⟩
      exact succ_ne_zero _ ((counted_up valid room counts).symm.trans none_left)
  | readied task value ready asleep => exact counted.readied valid ready asleep

theorem Left.counted (counted : Counted config s)
    (running : s.state s.curr = .running) (left : Left s op s₁) : Counted config s₁ := by
  have pending : 0 < (s.tasks s.curr).activations := counted.awake (by simp [running])
  have limited := (counted s.curr).limited
  have others : ∀ other, other ≠ s.curr →
      (s.tasks other).Counted (config.task other).activationLimit := fun other _ => counted other
  cases left with
  | kept | selfChained => exact counted
  | readied | waiting => exact forall_setTask s s.curr _ others ⟨by simp; omega, limited⟩
  | suspended => exact forall_setTask s s.curr _ others ⟨by simp, zero_le _⟩
  | again more =>
    have state : (s.tasks s.curr).state = .running := running
    exact forall_setTask s s.curr _ others ⟨by simp [state]; omega, (sub_le _ 1).trans limited⟩
  | flagged other more =>
    exact forall_setTask s s.curr _ others ⟨by simp; omega, (sub_le _ 1).trans limited⟩

theorem Counted.seated (counted : Counted config s) (holds : QueueHolds s) (member : top ∈ s.ready)
    (seated : Seated s top s') : Counted config s' := by
  intro task
  by_cases own : task = top
  · subst own
    have pending := counted.ready holds member
    have running : (s'.tasks task).state = .running := seated.running
    refine ⟨?_, seated.activations ▸ (counted task).limited⟩
    rw [running, seated.activations]
    simp
    omega
  · rw [seated.others task own]
    exact counted task

/-! ## States -/

structure StatesAgree (config : TaskSet) (s : Kernel) : Prop where
  queue : QueueHolds s
  counted : Counted config s
  running : ∀ task, s.state task = .running ↔ task = s.curr

theorem StatesAgree.of_seated (holds : QueueHolds s) (counted : Counted config s)
    (member : top ∈ s.ready) (others : ∀ task, task ≠ top → s.state task ≠ .running)
    (seated : Seated s top s') : StatesAgree config s' where
  queue := holds.seated member seated
  counted := counted.seated holds member seated
  running task := by
    rw [seated.curr]
    by_cases own : task = top
    · subst own
      exact iff_of_true seated.running rfl
    · refine iff_of_false ?_ own
      rw [state, seated.others task own]
      exact others task own

/-- A displaced task that the dispatcher does not make ready. -/
def LeftRunning (left : Kernel) (op : DispatchOp) (top : Nat) : Prop :=
  top ≠ left.curr ∧
    (op = .activateTask ∨ op = .chainTask left.curr ∨
      op = .terminateTask ∧ 0 < (left.tasks left.curr).activations)
  deriving Decidable

theorem Left.displaced (left : Left s op s₁) (other : top ≠ s₁.curr)
    (handled : ¬ LeftRunning s₁ op top) : s₁.state s₁.curr ≠ .running := by
  cases left with
  | readied | waiting | suspended | flagged => simp [state]
  | kept => exact absurd ⟨other, .inl rfl⟩ handled
  | again more =>
    refine absurd ⟨other, .inr (.inr ⟨rfl, ?_⟩)⟩ handled
    simp
    omega
  | selfChained => exact absurd ⟨other, .inr (.inl rfl)⟩ handled

theorem StatesAgree.dispatched {outcome : KernelOutcome} (agree : StatesAgree config s)
    (handled : ∀ left top, osDispatchLeave s op = some left → osTaskGetTop left = some top →
      ¬ LeftRunning left op top)
    (dispatched : Dispatched config s op outcome) : StatesAgree config outcome.1 := by
  obtain ⟨s₁, s₂, top, leaves, chosen, same, seated⟩ := dispatched.seated
  have running : s.state s.curr = .running := (agree.running s.curr).mpr rfl
  have left := osDispatchLeave_left running leaves
  have member := (osTaskGetTop_some chosen).1
  refine .of_seated ((left.queueHolds agree.queue running).of_same same)
    ((left.counted agree.counted running).of_same same) (same.ready ▸ member) ?_ seated
  intro task ne
  rw [same.state]
  by_cases own : task = s₁.curr
  · subst own
    exact left.displaced ne.symm (handled s₁ top leaves chosen)
  · rw [left.curr] at own
    rw [state, left.others own]
    exact fun runs => own ((agree.running task).mp runs)

/-- While service routines run, no task does. -/
structure Interrupted (config : TaskSet) (s : Kernel) : Prop where
  queue : QueueHolds s
  counted : Counted config s
  idle : ∀ task, s.state task ≠ .running
  member : s.curr ∈ s.ready

theorem StatesAgree.interrupted (agree : StatesAgree config s) :
    Interrupted config s.interrupted := by
  have running : s.state s.curr = .running := (agree.running s.curr).mpr rfl
  have member : s.curr ∈ s.ready := (agree.queue.member s.curr).mpr (.inr running)
  have pending := agree.counted.ready agree.queue member
  refine ⟨agree.queue.setTask member (.inl rfl), ?_, ?_, member⟩
  · apply forall_setTask s s.curr
    · exact fun other _ => agree.counted other
    · exact ⟨by simp; omega, (agree.counted s.curr).limited⟩
  · apply forall_setTask s s.curr (P := fun _ t => t.state ≠ .running)
    · exact fun other ne runs => ne ((agree.running other).mp runs)
    · simp

theorem Effect.interrupted (valid : config.Valid) (holds : Interrupted config s)
    (room : RoomToCount s call) (effect : Effect config call s s') : Interrupted config s' where
  queue := effect.queueHolds holds.queue
  counted := effect.counted valid holds.counted room
  idle task := fun runs => holds.idle task ((effect.running task).mp runs)
  member := effect.still_ready holds.member

theorem Interrupted.left (holds : Interrupted config s) (member : top ∈ s.ready)
    (seated : Seated s top s') : StatesAgree config s' :=
  .of_seated holds.queue holds.counted member (fun task _ => holds.idle task) seated

/-! ## Start and runs -/

theorem firstTask_top (valid : config.Valid) :
    osTaskGetTop (initOs config) = some (firstTask config) := by
  obtain ⟨some_task, idle⟩ := valid.idle
  have states : (initOs config).ready.all
      (fun task => (initOs config).state task = .ready ∨ (initOs config).state task = .running) =
        true := by
    simp only [initOs, all_eq_true, mem_filter, mem_range]
    rintro task ⟨known, autostart⟩
    simp [state, known, autostart]
  -- both searches go through the tasks in the order of their numbers
  have searched : ∀ count, (List.range (count + 1)).foldl
      (fun top task =>
        if (config.task task).autostart ∧ (config.task top).prio < (config.task task).prio then task
        else top) 0 ∈
      ((List.range (count + 1)).filter fun task => (config.task task).autostart).argmax
        (initOs config).activePriority := by
    intro count
    induction count with
    | zero => simp [idle]
    | succ count ih =>
      rw [range_succ, filter_append]
      cases autostart : (config.task (count + 1)).autostart with
      | false => simpa [autostart] using ih
      | true =>
        simp only [autostart, filter_cons, if_true, filter_nil, argmax_concat, Option.mem_def.mp ih]
        split <;> simp_all [initOs, activePriority]
  obtain ⟨count, known⟩ : ∃ count, config.taskCnt = count + 1 := ⟨config.taskCnt - 1, by omega⟩
  rw [osTaskGetTop, if_pos states, firstTask, known]
  have ready : (initOs config).ready =
      (List.range (count + 1)).filter fun task => (config.task task).autostart := by
    rw [← known]
    rfl
  rw [ready]
  exact searched count

theorem initOs_interrupted (valid : config.Valid) : Interrupted config (initOs config) where
  queue :=
    { nodup := nodup_range.filter _
      member := by
        intro task
        simp only [initOs, state]
        split <;> simp_all }
  counted := by
    intro task
    have limit := valid.limit_pos task
    constructor
    · simp only [initOs]
      split <;> simp_all
    · simp only [initOs]
      split <;> omega
  idle task := by
    simp only [initOs, state]
    split <;> simp
  member := by
    simp only [initOs, mem_filter, mem_range]
    exact valid.idle

theorem osStart_agree (valid : config.Valid) : StatesAgree config (osStart config).1 :=
  (initOs_interrupted valid).left (osTaskGetTop_some (firstTask_top valid)).1
    (osTaskSwapContextTo_seated config (initOs config) (firstTask config))

/-- The activations of a step can be counted, and its dispatcher call makes the displaced task
ready. -/
def StepSettles (config : TaskSet) (s : Kernel) : KernelStep → Prop
  | .call call =>
    RoomToCount s call ∧
      DispatchMeets config (fun left op top => ¬ LeftRunning left op top) s call
  | .interrupt calls =>
    IsrMeets config (fun s call => RoomToCount s call.toCall) s.interrupted calls

instance decidableStepSettles (s : Kernel) :
    (step : KernelStep) → Decidable (StepSettles config s step)
  | .call _ => inferInstanceAs (Decidable (_ ∧ _))
  | .interrupt _ => inferInstanceAs (Decidable (IsrMeets _ _ _ _))

theorem StatesAgree.stepped (valid : config.Valid) {step : KernelStep}
    (agree : s.halted ∨ StatesAgree config s) (settles : StepSettles config s step) :
    (kernelStep config s step).1.halted ∨ StatesAgree config (kernelStep config s step).1 := by
  apply kernelStep_invariant agree
  · rintro call service agree rfl given served
    have effect := served.effect
    have served_agree : StatesAgree config service.state :=
      ⟨effect.queueHolds agree.queue, effect.counted valid agree.counted settles.1, by
        intro task
        rw [effect.running, agree.running, effect.curr]⟩
    refine ⟨fun _ => served_agree, fun op outcome dispatch _ dispatched => .inr ?_⟩
    apply served_agree.dispatched _ dispatched
    intro left top leaves chosen
    exact settles.2.found given dispatch leaves chosen
  · rintro calls outcome agree rfl served
    obtain ⟨s₁, events, next, entered, chosen, seated⟩ := osIsr_seated served
    have holds : Interrupted config s₁ :=
      isrEntry_invariant (Interrupted config) agree.interrupted settles entered
        fun _ _ _ holds room served => (serveIsr_served served).effect.interrupted valid holds room
    refine .inr (holds.left ?_ seated)
    rcases chosen with rfl | chosen
    · exact holds.member
    · exact (osTaskGetTop_some chosen).1

theorem task_states_agree (config : TaskSet) (steps : List KernelStep) (valid : config.Valid)
    (settles : Meets (kernelStep config) (StepSettles config) (osStart config).1 steps) :
    let s := (run (kernelStep config) (osStart config).1 steps).1
    s.halted = false →
      (∀ task, s.state task = .running ↔ task = s.curr) ∧
      s.ready.Nodup ∧
      (∀ task, task ∈ s.ready ↔ s.state task = .ready ∨ s.state task = .running) ∧
      (∀ task, s.state task = .suspended ↔ (s.tasks task).activations = 0) ∧
      (∀ task, (s.tasks task).activations ≤ (config.task task).activationLimit) ∧
      ∀ task ∈ s.ready, task < config.taskCnt → task ≠ s.curr →
        getTaskState config s task = .ok .ready := by
  intro s executes
  have agree : StatesAgree config s :=
    kernelRun_invariant settles (osStart_agree valid) (StatesAgree.stepped valid) executes
  refine ⟨agree.running, agree.queue.nodup, agree.queue.member,
    fun task => (agree.counted task).suspended, fun task => (agree.counted task).limited, ?_⟩
  intro task member known displaced
  have state : s.state task = .ready := by
    refine ((agree.queue.member task).mp member).resolve_right fun runs => ?_
    exact displaced ((agree.running task).mp runs)
  simp [getTaskState, known, state]

/-- An idle task, and three tasks of growing priority of which the first one starts. -/
def threeTasks (scheduling : TaskSchedule) (limit : Nat) : TaskSet where
  statusExtended := true
  taskCnt := 4
  resourceCnt := 1
  task task :=
    { prio := task
      procType := if task = 3 then .extended else .basic
      autostart := task ≤ 1
      scheduling
      resourceAccess := 1
      resourceInt := none
      activationLimit := limit }
  resourceType _ := .standard

theorem threeTasks_valid (scheduling : TaskSchedule) : (threeTasks scheduling 2).Valid :=
  ⟨by simp [threeTasks], fun _ => by simp [threeTasks], fun _ => by simp [threeTasks]⟩

/-- An interrupt makes a task of higher priority ready, which gives way again when it terminates. -/
def displacedRun : List KernelStep :=
  [.interrupt [.activateTask 2], .call (.getResource 0), .call (.releaseResource 0),
    .call (.activateTask 1), .call .terminateTask]

theorem displaced_task_ready :
    (run (kernelStep (threeTasks .full 2)) (osStart (threeTasks .full 2)).1
      [.interrupt [.activateTask 2]]).1.curr = 2 ∧
    getTaskState (threeTasks .full 2)
      (run (kernelStep (threeTasks .full 2)) (osStart (threeTasks .full 2)).1
        [.interrupt [.activateTask 2]]).1 1 = .ok .ready ∧
    ((run (kernelStep (threeTasks .full 2)) (osStart (threeTasks .full 2)).1
      displacedRun).1.tasks 1).activations ≤ 2 := by
  refine ⟨by decide +kernel, ?_, ?_⟩
  · exact (task_states_agree (threeTasks .full 2) [.interrupt [.activateTask 2]]
      (threeTasks_valid .full) (by decide +kernel) (by decide +kernel)).2.2.2.2.2 1 (by decide +kernel) (by decide +kernel)
        (by decide +kernel)
  · exact (task_states_agree (threeTasks .full 2) displacedRun (threeTasks_valid .full)
      (by decide +kernel) (by decide +kernel)).2.2.2.2.1 1

/-- The running task activates a task of higher priority and is still reported as running. -/
theorem preempted_task_running :
    let s := (run (kernelStep (threeTasks .full 2)) (osStart (threeTasks .full 2)).1
      [.call (.activateTask 2)]).1
    s.halted = false ∧ s.curr = 2 ∧ s.state 2 = .running ∧ s.state 1 = .running ∧
      getTaskState (threeTasks .full 2) s 1 matches .ok .running := by
  decide +kernel

end Os
