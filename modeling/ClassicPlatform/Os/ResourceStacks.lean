import ClassicPlatform.Os.TaskStates

/-!
# Resources held by a task

The priority of a task before it took a resource is stored in the resource. A task takes
and releases its standard resources like a stack, and its priority is the ceiling of the
resource on top. An internal resource is taken with the processor and lies below all
standard resources.
-/
namespace Os

open List TaskSet

variable {config : TaskSet} {isr : Bool} {call : KernelCall} {s s' : Kernel}
variable {task resource : Nat}

/-! ## Ceilings -/

/-- What the generator guarantees: priorities have 32 bits, and the tasks of a group have access
to their internal resource. -/
structure TaskSet.ResourcesValid (config : TaskSet) : Prop where
  prio_le : ∀ task, (config.task task).prio ≤ resSchedulerPrio
  member : ∀ task resource, (config.task task).resourceInt = some resource →
    config.typeOf resource = .internal ∧ task < config.taskCnt ∧
      config.hasAccess task resource = true

private theorem le_ceiling_fold (tasks : List Nat) (start : Nat) :
    let ceiling := tasks.foldl
      (fun top task =>
        if config.hasAccess task resource then max top (config.task task).prio else top) start
    start ≤ ceiling ∧ (task ∈ tasks → config.hasAccess task resource = true →
      (config.task task).prio ≤ ceiling) := by
  induction tasks generalizing start with
  | nil => exact ⟨le_rfl, nofun⟩
  | cons first rest ih =>
    simp only [foldl_cons]
    obtain ⟨grows, covers⟩ := ih
      (if config.hasAccess first resource then max start (config.task first).prio else start)
    constructor
    · refine le_trans ?_ grows
      split
      · exact le_max_left _ _
      · exact le_rfl
    · intro member access
      rcases mem_cons.mp member with rfl | later
      · rw [if_pos access] at grows ⊢
        exact (le_max_right _ _).trans grows
      · exact covers later access

variable (valid : config.ResourcesValid)

section

include valid

theorem ceilingPriority_le (resource : Nat) :
    config.ceilingPriority resource ≤ resSchedulerPrio := by
  unfold ceilingPriority
  split
  · exact le_rfl
  · apply List.foldlRecOn (motive := (· ≤ resSchedulerPrio)) _ _ (Nat.zero_le _)
    intro top low task _
    split
    · exact max_le low (valid.prio_le task)
    · exact low

theorem prio_le_ceilingPriority (known : task < config.taskCnt)
    (access : config.hasAccess task resource) :
    (config.task task).prio ≤ config.ceilingPriority resource := by
  unfold ceilingPriority
  split
  · exact valid.prio_le task
  · exact (le_ceiling_fold _ 0).2 (mem_range.mpr known) access

theorem TaskSet.ResourcesValid.prio_le_internal
    (member : (config.task task).resourceInt = some resource) :
    (config.task task).prio ≤ config.ceilingPriority resource := by
  obtain ⟨-, known, access⟩ := valid.member task resource member
  exact prio_le_ceilingPriority valid known access

end

/-! ## Stacks -/

/-- The priority of a task that holds the resources on top of others. -/
def level (config : TaskSet) (base : Nat) (resources : List Nat) : Nat :=
  match resources.getLast? with
  | some resource => config.ceilingPriority resource
  | none => base

@[simp] theorem level_nil (base : Nat) : level config base [] = base := rfl

@[simp] theorem level_concat (base : Nat) (resources : List Nat) :
    level config base (resources ++ [resource]) = config.ceilingPriority resource := by
  simp [level]

/-- The priority of a task below its standard resources. -/
def basePriority (config : TaskSet) (resources : Nat → Resource) (task : Nat) : Nat :=
  match (config.task task).resourceInt with
  | some resource =>
    if (resources resource).owner = some task then config.ceilingPriority resource
    else (config.task task).prio
  | none => (config.task task).prio

structure Stack (config : TaskSet) (resources : Nat → Resource) (task : Nat) (t : Task) :
    Prop where
  active : t.activePriority = level config (basePriority config resources task) t.resources
  above : ∀ resource ∈ t.resources,
    basePriority config resources task ≤ config.ceilingPriority resource
  ascends : t.resources.Pairwise fun lower upper =>
    config.ceilingPriority lower ≤ config.ceilingPriority upper
  /-- A resource may be listed twice; its owner has taken the last one. -/
  old : ∀ resource, config.typeOf resource ≠ .internal →
    (resources resource).owner = some task →
    ∃ below above, t.resources = below ++ resource :: above ∧ resource ∉ above ∧
      (resources resource).oldTaskPrio = level config (basePriority config resources task) below
  internal : ∀ resource, (config.task task).resourceInt = some resource →
    (resources resource).owner = some task →
    (resources resource).oldTaskPrio = (config.task task).prio

def Stacks (config : TaskSet) (s : Kernel) : Prop :=
  ∀ task, Stack config s.resources task (s.tasks task)

section

variable {t : Task} {resources : Nat → Resource} (stack : Stack config resources task t)
include stack

theorem Stack.congr {t' : Task} (active : t'.activePriority = t.activePriority)
    (held : t'.resources = t.resources) : Stack config resources task t' := by
  constructor
  · rw [active, held]
    exact stack.active
  · rw [held]
    exact stack.above
  · rw [held]
    exact stack.ascends
  · rw [held]
    exact stack.old
  · exact stack.internal

theorem Stack.base_le : basePriority config resources task ≤ t.activePriority := by
  rw [stack.active]
  unfold level
  split
  next top last => exact stack.above top (mem_of_getLast? last)
  next => exact le_rfl

theorem Stack.ceiling_le (held : resource ∈ t.resources) :
    config.ceilingPriority resource ≤ t.activePriority := by
  have some_held : t.resources ≠ [] := ne_nil_of_mem held
  have last := dropLast_concat_getLast some_held
  rw [stack.active, ← last, level_concat]
  have ascends := stack.ascends
  rw [← last] at ascends held
  rcases mem_append.mp held with below | top
  · exact (pairwise_append.mp ascends).2.2 resource below _ (mem_singleton_self _)
  · rw [mem_singleton.mp top]

end

section

include valid

theorem prio_le_basePriority (resources : Nat → Resource) (task : Nat) :
    (config.task task).prio ≤ basePriority config resources task := by
  unfold basePriority
  split
  next resource member =>
    split
    · exact valid.prio_le_internal member
    · exact le_rfl
  next => exact le_rfl

variable {resources : Nat → Resource} {t : Task} (stack : Stack config resources task t)
include stack

theorem Stack.prio_le : (config.task task).prio ≤ t.activePriority :=
  (prio_le_basePriority valid resources task).trans stack.base_le

theorem Stack.le_scheduler : t.activePriority ≤ resSchedulerPrio := by
  rw [stack.active]
  unfold level basePriority
  split
  · exact ceilingPriority_le valid _
  · split
    · split
      · exact ceilingPriority_le valid _
      · exact valid.prio_le task
    · exact valid.prio_le task

end

section

variable {resources : Nat → Resource} {t : Task} (standard : config.typeOf resource ≠ .internal)

section

variable {resources' : Nat → Resource}
variable (same : ∀ other, other ≠ resource → resources' other = resources other)
include same

theorem basePriority_foreign (foreign : (resources' resource).owner ≠ some task)
    (foreign' : (resources resource).owner ≠ some task) :
    basePriority config resources' task = basePriority config resources task := by
  unfold basePriority
  split
  next internal _ =>
    by_cases own : internal = resource
    · rw [own, if_neg foreign, if_neg foreign']
    · rw [same internal own]
  next => rfl

theorem Stack.other (stack : Stack config resources task t)
    (base : basePriority config resources' task = basePriority config resources task)
    (foreign : (resources' resource).owner ≠ some task) : Stack config resources' task t := by
  have own : ∀ other, (resources' other).owner = some task → resources' other = resources other := by
    intro other owned
    apply same other
    rintro rfl
    exact foreign owned
  constructor
  · rw [base]
    exact stack.active
  · rw [base]
    exact stack.above
  · exact stack.ascends
  · intro other is_standard owned
    rw [base, own other owned]
    exact stack.old other is_standard (own other owned ▸ owned)
  · intro other member owned
    rw [own other owned]
    exact stack.internal other member (own other owned ▸ owned)

include valid standard

private theorem internal_same {internal : Nat}
    (member : (config.task task).resourceInt = some internal) :
    resources' internal = resources internal := by
  apply same
  rintro rfl
  exact standard (valid.member task _ member).1

theorem basePriority_congr (task : Nat) :
    basePriority config resources' task = basePriority config resources task := by
  unfold basePriority
  split
  next internal member => rw [internal_same valid standard same member]
  next => rfl

theorem Stack.push (stack : Stack config resources task t)
    (fits : t.activePriority ≤ config.ceilingPriority resource)
    (old : (resources' resource).oldTaskPrio = t.activePriority) :
    Stack config resources' task
      { t with
        activePriority := config.ceilingPriority resource
        resources := t.resources ++ [resource] } := by
  have base := basePriority_congr valid standard same task
  constructor
  · simp
  · intro other held
    rw [base]
    rcases mem_append.mp held with below | top
    · exact stack.above other below
    · rw [mem_singleton.mp top]
      exact stack.base_le.trans fits
  · exact Queue.enqueue stack.ascends fun other held => (stack.ceiling_le held).trans fits
  · intro other is_standard owned
    rw [base]
    by_cases own : other = resource
    · subst own
      exact ⟨t.resources, [], rfl, not_mem_nil, old.trans stack.active⟩
    · rw [same other own] at owned ⊢
      obtain ⟨below, above, held, last, old⟩ := stack.old other is_standard owned
      refine ⟨below, above ++ [resource], ?_, ?_, old⟩
      · rw [held, append_assoc, cons_append]
      · simp [last, own]
  · intro other member
    rw [internal_same valid standard same member]
    exact stack.internal other member

theorem Stack.pop (stack : Stack config resources task t)
    (owned : (resources resource).owner = some task) (last : t.resources.getLast? = some resource)
    (free : (resources' resource).owner = none) :
    Stack config resources' task
      { t with
        activePriority := (resources resource).oldTaskPrio
        resources := t.resources.dropLast } := by
  have base := basePriority_congr valid standard same task
  have sublist : t.resources.dropLast.Sublist t.resources := dropLast_sublist _
  constructor
  · -- the owner has taken the last one of this name
    obtain ⟨below, above, held, is_last, old⟩ := stack.old resource standard owned
    have top : above = [] := by
      by_contra more
      have top : (below ++ resource :: above).getLast? = above.getLast? := by
        rw [List.getLast?_append, List.getLast?_cons]
        obtain ⟨front, final, rfl⟩ : ∃ front final, above = front ++ [final] :=
          ⟨above.dropLast, above.getLast more, (dropLast_concat_getLast more).symm⟩
        simp
      rw [← held, last] at top
      exact is_last (mem_of_getLast? top.symm)
    subst top
    rw [base, old, held, dropLast_concat]
  · intro other held
    rw [base]
    exact stack.above other (sublist.subset held)
  · exact stack.ascends.sublist sublist
  · intro other is_standard owned'
    have ne : other ≠ resource := by
      rintro rfl
      cases free.symm.trans owned'
    rw [same other ne] at owned' ⊢
    obtain ⟨below, above, held, is_last, old⟩ := stack.old other is_standard owned'
    have more : above ≠ [] := by
      rintro rfl
      rw [held, List.getLast?_concat] at last
      exact ne (Option.some.inj last)
    refine ⟨below, above.dropLast, ?_, ?_, base ▸ old⟩
    · simp only [held]
      rw [dropLast_append_cons, dropLast_cons_of_ne_nil more]
    · exact fun later => is_last (dropLast_subset _ later)
  · intro other member
    rw [internal_same valid standard same member]
    exact stack.internal other member

end

include valid standard

theorem Stacks.add (stacked : Stacks config s)
    (fits : s.activePriority task ≤ config.ceilingPriority resource) :
    Stacks config (osTaskResourceAdd config s resource task) := by
  obtain ⟨same, taken, others, active, held⟩ := osTaskResourceAdd_takes config s resource task
  intro other
  by_cases own : other = task
  · subst own
    have pushed := (stacked other).push valid standard same fits (by rw [taken]; rfl)
    rw [if_neg standard] at held
    exact pushed.congr active held
  · rw [others other own]
    apply (stacked other).other same (basePriority_congr valid standard same other)
    rw [taken]
    exact fun owned => own (Option.some.inj owned).symm

theorem Stacks.remove (stacked : Stacks config s)
    (removed : osTaskResourceRemove config s resource task = some s') : Stacks config s' := by
  obtain ⟨owned, last, -⟩ := osTaskResourceRemove_some removed
  obtain ⟨same, freed, others, active, held⟩ := osTaskResourceRemove_gives removed
  intro other
  by_cases own : other = task
  · subst own
    have popped := (stacked other).pop valid standard same owned (last standard) (by rw [freed])
    rw [if_neg standard] at held
    exact popped.congr active held
  · rw [others other own]
    apply (stacked other).other same (basePriority_congr valid standard same other)
    rw [freed]
    nofun

end

theorem Stacks.of_priorities (stacked : Stacks config s) (same : SamePriorities s s') :
    Stacks config s' := by
  intro task
  rw [same.resources]
  exact (stacked task).congr (same.active task) (same.held task)

theorem initOs_stacked (config : TaskSet) : Stacks config (initOs config) := by
  intro task
  have base : basePriority config (initOs config).resources task = (config.task task).prio := by
    unfold basePriority
    split
    · exact if_neg nofun
    · rfl
  refine ⟨?_, nofun, .nil, fun _ _ owned => absurd owned nofun, fun _ _ owned => absurd owned nofun⟩
  rw [base]
  rfl

/-! ## Internal resources -/

theorem Stacks.getInternal (valid : config.ResourcesValid) (stacked : Stacks config s)
    (group : (config.task s.curr).resourceInt = some resource)
    (free : (s.resources resource).owner = none) (held : (s.tasks s.curr).resources = []) :
    Stacks config (osTaskResourceAdd config s resource s.curr) := by
  have internal := (valid.member s.curr resource group).1
  obtain ⟨same, taken, others, -, -⟩ := osTaskResourceAdd_takes config s resource s.curr
  intro task
  by_cases own : task = s.curr
  · subst own
    have value : (osTaskResourceAdd config s resource s.curr).tasks s.curr =
        { s.tasks s.curr with
          activePriority := config.ceilingPriority resource
          resources := [] } := by
      simp [osTaskResourceAdd, internal, held]
    have below : s.activePriority s.curr = (config.task s.curr).prio := by
      have active := (stacked s.curr).active
      rw [held, basePriority, group] at active
      simpa [free, Kernel.activePriority] using active
    have base : basePriority config (osTaskResourceAdd config s resource s.curr).resources s.curr =
        config.ceilingPriority resource := by
      simp [basePriority, group, taken]
    rw [value]
    refine ⟨base.symm, by rintro _ ⟨⟩, .nil, ?_, ?_⟩
    · intro other standard owned
      have ne : other ≠ resource := by
        rintro rfl
        exact standard internal
      rw [same other ne] at owned
      obtain ⟨below, above, split, -⟩ := (stacked s.curr).old other standard owned
      rw [held] at split
      simp at split
    · intro other member _
      obtain rfl := Option.some.inj (group.symm.trans member)
      rw [taken]
      exact below
  · have foreign : ((osTaskResourceAdd config s resource s.curr).resources resource).owner ≠
        some task := by
      rw [taken]
      exact fun owned => own (Option.some.inj owned).symm
    rw [others task own]
    exact (stacked task).other same (basePriority_foreign same foreign (by simp [free])) foreign

theorem Stacks.releaseInternal (stacked : Stacks config s)
    (held : (config.task s.curr).resourceInt ≠ none → (s.tasks s.curr).resources = [])
    (released : osResourceReleaseInternal config s = some s') : Stacks config s' := by
  unfold osResourceReleaseInternal at released
  split at released
  next resource group =>
    have held := held (by simp [group])
    obtain ⟨owned, -, rfl⟩ := osTaskResourceRemove_some released
    have same : ∀ other, other ≠ resource →
        (s.setResource resource { s.resources resource with owner := none }).resources other =
          s.resources other := fun other ne => setResource_resources_of_ne _ _ _ ne
    intro task
    by_cases own : task = s.curr
    · subst own
      have base : basePriority config
          (s.setResource resource { s.resources resource with owner := none }).resources s.curr =
            (config.task s.curr).prio := by
        simp [basePriority, group]
      have old := (stacked s.curr).internal resource group owned
      refine ⟨?_, ?_, ?_, ?_, ?_⟩
      · rw [setTask_resources, base, ← old]
        simp [held]
      · simp [held]
      · simp [held]
      · intro other standard owned'
        by_cases ne : other = resource
        · subst ne
          simp at owned'
        · rw [setTask_resources, same other ne] at owned'
          obtain ⟨below, above, split, -⟩ := (stacked s.curr).old other standard owned'
          rw [held] at split
          simp at split
      · intro other member owned'
        obtain rfl := Option.some.inj (group.symm.trans member)
        simp at owned'
    · rw [setTask_tasks_of_ne _ _ _ own]
      have foreign : (s.resources resource).owner ≠ some task := by
        rw [owned]
        exact fun owned => own (Option.some.inj owned).symm
      exact (stacked task).other same (basePriority_foreign same (by simp) foreign) (by simp)
  next =>
    cases released
    exact stacked

/-! ## Services -/

/-- Internal resources are not given to `GetResource` and `ReleaseResource`. -/
def UsesStandard (config : TaskSet) : KernelCall → Prop
  | .getResource resource | .releaseResource resource => config.typeOf resource ≠ .internal
  | _ => True

instance decidableUsesStandard (config : TaskSet) :
    (call : KernelCall) → Decidable (UsesStandard config call)
  | .getResource _ | .releaseResource _ => inferInstanceAs (Decidable (_ ≠ _))
  | .activateTask _ | .terminateTask | .chainTask _ | .schedule | .setEvent _ _ | .waitEvent _
  | .clearEvent _ => isTrue trivial

theorem Stacks.setTask {value : Task} (stacked : Stacks config s)
    (active : value.activePriority = s.activePriority task)
    (held : value.resources = (s.tasks task).resources) : Stacks config (s.setTask task value) := by
  apply forall_setTask s task value (P := Stack config s.resources)
  · exact fun other _ => stacked other
  · exact (stacked task).congr active held

theorem Stacks.fits (valid : config.ResourcesValid) (stacked : Stacks config s)
    (free : resource ≠ config.resScheduler →
      config.hasAccess s.curr resource ∧ (s.resources resource).owner = none ∧
      s.activePriority s.curr ≤ config.ceilingPriority resource) :
    s.activePriority s.curr ≤ config.ceilingPriority resource := by
  by_cases scheduler : resource = config.resScheduler
  · rw [ceilingPriority, if_pos scheduler]
    exact (stacked s.curr).le_scheduler valid
  · exact (free scheduler).2.2

theorem TaskServed.stacked {service : Service} (valid : config.ResourcesValid)
    (stacked : Stacks config s) (standard : UsesStandard config call)
    (served : TaskServed config isr call s service) : Stacks config service.state := by
  cases served with
  | refused | done | terminates | chainsSelf | schedules => exact stacked
  | masked | waits | chainsQueued => exact stacked.setTask rfl rfl
  | queued | activated | woken =>
    rw [offer_state]
    exact stacked.setTask rfl rfl
  | chainsActivated => exact stacked.setTask rfl rfl
  | taken level resource called free =>
    subst called
    exact stacked.add valid standard (stacked.fits valid free)
  | released level resource called access removed
  | releasedTo level resource called access removed =>
    subst called
    exact stacked.remove valid standard removed

theorem Left.stacked {op : DispatchOp} {left : Kernel} (stacked : Stacks config s)
    (leaves : Left s op left) : Stacks config left := by
  cases leaves with
  | kept | selfChained => exact stacked
  | readied | waiting | suspended | again | flagged => exact stacked.setTask rfl rfl

theorem isrEntry_standard (Invariant : Kernel → Prop)
    (keeps : ∀ {s call service}, Invariant s → s.curr ∈ s.ready → UsesStandard config call →
      TaskServed config true call s service → Invariant service.state)
    {calls : List IsrCall} {events : List KernelEvent} (holds : Invariant s.interrupted)
    (member : s.curr ∈ s.ready)
    (entered : isrEntry config s.interrupted calls = some (s', events)) :
    Invariant s' ∧ s'.curr ∈ s'.ready := by
  refine isrEntry_invariant (fun s => Invariant s ∧ s.curr ∈ s.ready) ⟨holds, member⟩
    (isrMeets_true s.interrupted calls) entered ?_
  rintro s call service ⟨holds, member⟩ - served
  have served := serveIsr_served served
  have standard : UsesStandard config call.toCall := by cases call <;> trivial
  exact ⟨keeps holds member standard served, served.effect.still_ready member⟩

end Os
