import ClassicPlatform.Os.PriorityCeiling

/-!
# Resources of a task that ends without `TerminateTask`

When the function of a task returns, `Os_TaskPost` frees the resources that the task still
holds. The list is walked from its head, but `Os_TaskResourceRemove` asserts that the resource
is the last one of the list: the assertion fails as soon as a task holds two of them.
-/
namespace Os

open Machine List

/-- `TAILQ_REMOVE` leaves the link of the removed element as it is: the loop visits what was in
the list when it began. -/
def osTaskResourceFreeAll (config : TaskSet) (s : Kernel) (task : Nat) : Option Kernel :=
  (s.tasks task).resources.foldlM (osTaskResourceRemove config · · task) s

variable {config : TaskSet} {s freed : Kernel} {task resource : Nat}

private theorem freeAll_unowned {held : List Nat} (member : resource ∈ held)
    (unowned : (s.resources resource).owner ≠ some task) :
    held.foldlM (osTaskResourceRemove config · · task) s = none := by
  induction held generalizing s with
  | nil => cases member
  | cons first rest ih =>
    rw [foldlM_cons]
    cases removed : osTaskResourceRemove config s first task with
    | none => rfl
    | some s₁ =>
      have own : resource ≠ first := by
        rintro rfl
        exact unowned (osTaskResourceRemove_some removed).1
      apply ih ((mem_cons.mp member).resolve_left own)
      exact fun owned => unowned ((osTaskResourceRemove_gives removed).still owned).2

section

variable (standard : ∀ resource ∈ (s.tasks task).resources, config.typeOf resource ≠ .internal)
include standard

theorem osTaskResourceFreeAll_isSome :
    (osTaskResourceFreeAll config s task).isSome ↔ (s.tasks task).resources.length ≤ 1 ∧
      ∀ resource ∈ (s.tasks task).resources, (s.resources resource).owner = some task := by
  unfold osTaskResourceFreeAll
  rcases held : (s.tasks task).resources with _ | ⟨first, _ | ⟨second, rest⟩⟩
  · simp
  · simp [osTaskResourceRemove, held, standard first (by simp [held])]
  · suffices stuck : (first :: second :: rest).foldlM (osTaskResourceRemove config · · task) s =
        none by simp [stuck]
    rw [foldlM_cons]
    cases removed : osTaskResourceRemove config s first task with
    | none => rfl
    | some s₁ =>
      -- the first one is then listed once more at the end, where it has no owner any more
      have last := (osTaskResourceRemove_some removed).2.1 (standard first (by simp [held]))
      rw [held] at last
      refine freeAll_unowned (mem_of_getLast? last) ?_
      rw [(osTaskResourceRemove_gives removed).freed]
      nofun

theorem osTaskResourceFreeAll_frees (frees : osTaskResourceFreeAll config s task = some freed) :
    (freed.tasks task).resources = [] ∧
      (∀ resource ∈ (s.tasks task).resources, (freed.resources resource).owner = none) ∧
      ((s.tasks task).resources = [] → freed = s) ∧
      ∀ resource ∈ (s.tasks task).resources, (s.tasks task).resources = [resource] ∧
        freed.activePriority task = (s.resources resource).oldTaskPrio := by
  have short := ((osTaskResourceFreeAll_isSome standard).mp (by rw [frees]; rfl)).1
  unfold osTaskResourceFreeAll at frees
  rcases held : (s.tasks task).resources with _ | ⟨first, _ | ⟨second, rest⟩⟩
  · rw [held] at frees
    cases frees
    exact ⟨held, by simp, fun _ => rfl, by simp⟩
  · rw [held] at frees
    obtain ⟨s₁, removed, same⟩ := Option.bind_eq_some_iff.mp frees
    cases same
    have gives := osTaskResourceRemove_gives removed
    have listed := standard first (by simp [held])
    refine ⟨by rw [gives.held, if_neg listed, held]; rfl, by simp [gives.freed], by simp, ?_⟩
    intro resource member
    obtain rfl := mem_singleton.mp member
    exact ⟨rfl, gives.active⟩
  · simp [held] at short

end

/-! ## Where a held resource was taken -/

/-- Nothing is taken: the lists lose resources at their end only, and what a task still owns is
as it was. -/
structure Retains (config : TaskSet) (s s' : Kernel) : Prop where
  listed : ∀ task, ∃ dropped, (s.tasks task).resources = (s'.tasks task).resources ++ dropped ∧
    ∀ resource ∈ dropped, config.typeOf resource ≠ .internal →
      (s'.resources resource).owner ≠ some task
  owned : ∀ resource task, config.typeOf resource ≠ .internal →
    (s'.resources resource).owner = some task → s'.resources resource = s.resources resource

variable (resources : config.ResourcesValid)

section

variable {s' s₁ s₂ : Kernel}

private theorem Retains.of_lists
    (lists : ∀ task, (s'.tasks task).resources = (s.tasks task).resources)
    (same : ∀ resource, config.typeOf resource ≠ .internal →
      s'.resources resource = s.resources resource) : Retains config s s' where
  listed task := ⟨[], by simp [lists], by simp⟩
  owned resource _ standard _ := same resource standard

theorem SamePriorities.retains (same : SamePriorities s s') : Retains config s s' :=
  .of_lists same.held fun resource _ => congrFun same.resources resource

theorem Retains.trans (first : Retains config s s₁) (second : Retains config s₁ s₂) :
    Retains config s s₂ where
  listed task := by
    obtain ⟨dropped, split, lost⟩ := first.listed task
    obtain ⟨dropped', split', lost'⟩ := second.listed task
    refine ⟨dropped' ++ dropped, by rw [split, split', append_assoc], ?_⟩
    intro resource member standard owned
    rcases mem_append.mp member with later | earlier
    · exact lost' resource later standard owned
    · refine lost resource earlier standard ?_
      rw [← second.owned resource task standard owned]
      exact owned
  owned resource task standard owned := by
    have same := second.owned resource task standard owned
    exact same.trans (first.owned resource task standard (same ▸ owned))

theorem Retains.remove (removed : osTaskResourceRemove config s resource task = some s') :
    Retains config s s' := by
  have gives := osTaskResourceRemove_gives removed
  by_cases internal : config.typeOf resource = .internal
  · exact .of_lists (gives.lists internal) fun _ => gives.standard internal
  refine ⟨fun other => ?_, fun other _ _ owned => gives.same other (gives.still owned).1⟩
  by_cases own : other = task
  · have last := (osTaskResourceRemove_some removed).2.1 internal
    refine ⟨[resource], ?_, ?_⟩
    · rw [own, gives.held, if_neg internal, dropLast_append_getLast? resource last]
    · simp [gives.freed]
  · exact ⟨[], by simp [gives.others other own], by simp⟩

theorem Retains.releaseInternal (released : osResourceReleaseInternal config s = some s') :
    Retains config s s' := by
  unfold osResourceReleaseInternal at released
  split at released
  · exact .remove released
  · cases released
    exact (SamePriorities.refl s).retains

theorem TaskServed.retains {isr : Bool} {call : KernelCall} {service : Service}
    (served : TaskServed config isr call s service) :
    Retains config s service.state ∨
      ∃ resource, isr = false ∧ call = .getResource resource ∧
        config.typeOf resource ≠ .internal ∧
        service.state = osTaskResourceAdd config s resource s.curr := by
  cases served with
  | refused | done | terminates | chainsSelf | schedules =>
    exact .inl (SamePriorities.refl s).retains
  | masked | waits | chainsQueued => exact .inl (SamePriorities.retains (.setTask rfl rfl))
  | queued =>
    rw [offer_state]
    exact .inl (SamePriorities.retains (.setTask rfl rfl))
  | activated | woken =>
    rw [offer_state]
    exact .inl (SamePriorities.retains (.enqueue rfl rfl))
  | chainsActivated => exact .inl (SamePriorities.retains (.enqueue rfl rfl))
  | taken level resource called free =>
    by_cases internal : config.typeOf resource = .internal
    · have takes := osTaskResourceAdd_takes config s resource s.curr
      exact .inl (.of_lists (takes.lists internal) fun _ => takes.standard internal)
    · exact .inr ⟨resource, level, called, internal, rfl⟩
  | released level resource called access removed
  | releasedTo level resource called access removed => exact .inl (.remove removed)

include resources

theorem Retains.getInternal (s : Kernel) : Retains config s (osResourceGetInternal config s) := by
  unfold osResourceGetInternal
  split
  next resource group =>
    have internal := (resources.member _ resource group).1
    have takes := osTaskResourceAdd_takes config s resource s.curr
    exact .of_lists (takes.lists internal) fun _ => takes.standard internal
  next => exact (SamePriorities.refl s).retains

theorem Retains.seated {top : Nat}
    (taken : SamePriorities (osResourceGetInternal config { s with curr := top }) s') :
    Retains config s s' := by
  have switched := SamePriorities.switched s top
  exact (switched.retains.trans (.getInternal resources _)).trans taken.retains

theorem Dispatched.retains {op : DispatchOp} {outcome : Kernel × List KernelEvent}
    (running : s.state s.curr = .running)
    (dispatched : Dispatched config s op outcome) : Retains config s outcome.1 := by
  obtain ⟨left, top, leaves, -, outcome⟩ := dispatched.priorities
  have leaving : Retains config s left := (osDispatchLeave_left running leaves).priorities.retains
  rcases outcome with ⟨-, same⟩ | ⟨-, freed, released, outcome⟩
  · exact leaving.trans same.retains
  have freeing := leaving.trans (.releaseInternal released)
  rcases outcome with ⟨-, same⟩ | ⟨-, taken⟩
  · exact freeing.trans same.retains
  · exact freeing.trans (.seated resources taken)

end

/-- The task took the resource in a step of the run. The rest of its list came on top of it, and
the priority it had before is the stored one. -/
def TakenIn (config : TaskSet) (steps : List KernelStep) (last : Kernel) (resource task : Nat) :
    Prop :=
  ∃ before after above, steps = before ++ .call (.getResource resource) :: after ∧
    let s := (run (kernelStep config) (osStart config).1 before).1
    s.curr = task ∧ resource ∉ above ∧
      (last.tasks task).resources = (s.tasks task).resources ++ resource :: above ∧
      (last.resources resource).oldTaskPrio = s.activePriority task

structure Accounted (config : TaskSet) (steps : List KernelStep) (s : Kernel) : Prop where
  standard : ∀ task, ∀ resource ∈ (s.tasks task).resources, config.typeOf resource ≠ .internal
  taken : ∀ resource task, config.typeOf resource ≠ .internal →
    (s.resources resource).owner = some task → TakenIn config steps s resource task

section

variable {steps : List KernelStep} {s' : Kernel}

theorem Accounted.extend (accounted : Accounted config steps s) (step : KernelStep) :
    Accounted config (steps ++ [step]) s where
  standard := accounted.standard
  taken resource task standard owned := by
    obtain ⟨before, after, above, rfl, found⟩ := accounted.taken resource task standard owned
    exact ⟨before, after ++ [step], above, by simp, found⟩

theorem Accounted.retained (accounted : Accounted config steps s)
    (retains : Retains config s s') : Accounted config steps s' where
  standard task resource member := by
    obtain ⟨dropped, split, -⟩ := retains.listed task
    exact accounted.standard task resource (by simp [split, member])
  taken resource task standard owned := by
    have same := retains.owned resource task standard owned
    obtain ⟨before, after, above, history, current, fresh, held, old⟩ :=
      accounted.taken resource task standard (same ▸ owned)
    obtain ⟨dropped, split, lost⟩ := retains.listed task
    have kept : resource ∉ dropped := fun member => lost resource member standard owned
    -- what is lost lies above the resource
    obtain ⟨above', split', rfl⟩ : ∃ above', (s'.tasks task).resources =
        ((run (kernelStep config) (osStart config).1 before).1.tasks task).resources ++
          resource :: above' ∧ above = above' ++ dropped := by
      rcases append_eq_append_iff.mp (held.symm.trans split) with
        ⟨_ | ⟨first, above'⟩, longer, rest⟩ | ⟨lower, -, rest⟩
      · obtain rfl : resource :: above = dropped := rest
        exact absurd mem_cons_self kept
      · obtain ⟨rfl, rfl⟩ := cons.inj rest
        exact ⟨above', longer, rfl⟩
      · exact absurd (by simp [rest]) kept
    refine ⟨before, after, above', history, current, ?_, split', same ▸ old⟩
    exact fun member => fresh (mem_append_left _ member)

theorem Accounted.take {before : List KernelStep} (standard : config.typeOf resource ≠ .internal)
    (reached : s = (run (kernelStep config) (osStart config).1 before).1)
    (history : steps = before ++ [.call (.getResource resource)])
    (accounted : Accounted config steps s) :
    Accounted config steps (osTaskResourceAdd config s resource s.curr) := by
  have takes := osTaskResourceAdd_takes config s resource s.curr
  have held := takes.held
  rw [if_neg standard] at held
  refine ⟨fun task => ?_, fun other task standard' owned => ?_⟩
  · by_cases own : task = s.curr
    · intro other member
      rw [own, held, mem_append, mem_singleton] at member
      rcases member with listed | rfl
      · exact accounted.standard s.curr other listed
      · exact standard
    · rw [takes.others task own]
      exact accounted.standard task
  · by_cases here : other = resource
    · subst here
      rw [takes.taken] at owned
      obtain rfl := Option.some.inj owned
      refine ⟨before, [], [], history, by rw [← reached], by simp, by rw [← reached, held], ?_⟩
      rw [takes.taken, ← reached]
    · have same := takes.same other here
      obtain ⟨earlier, after, above, split, current, fresh, listed, old⟩ :=
        accounted.taken other task standard' (same ▸ owned)
      by_cases own : task = s.curr
      · refine ⟨earlier, after, above ++ [resource], split, current, ?_, ?_, same ▸ old⟩
        · simp [fresh, here]
        · rw [own, held, ← own, listed, append_assoc, cons_append]
      · refine ⟨earlier, after, above, split, current, fresh, ?_, same ▸ old⟩
        rw [takes.others task own, listed]

include resources

theorem Accounted.stepped {step : KernelStep}
    (reached : s = (run (kernelStep config) (osStart config).1 steps).1)
    (accounted : s.halted ∨ Accounted config steps s) :
    (kernelStep config s step).1.halted ∨
      Accounted config (steps ++ [step]) (kernelStep config s step).1 := by
  apply kernelStep_invariant (accounted.imp_right (·.extend step))
  · rintro call service accounted rfl given served
    have kept : Accounted config (steps ++ [.call call]) service.state := by
      rcases served.retains with retains | ⟨resource, -, rfl, standard, taken⟩
      · exact accounted.retained retains
      · rw [taken]
        exact accounted.take standard reached rfl
    refine ⟨fun _ => kept, fun op outcome _ running dispatched => .inr ?_⟩
    exact kept.retained (dispatched.retains resources running)
  · rintro calls outcome accounted rfl served
    obtain ⟨s₁, events, top, entered, -, ended⟩ := osIsr_cases served
    have interrupted : SamePriorities s s.interrupted := .setTask rfl rfl
    have kept : Accounted config (steps ++ [.interrupt calls]) s₁ := by
      refine isrEntry_invariant (Accounted config (steps ++ [.interrupt calls]))
        (accounted.retained interrupted.retains) (isrMeets_true s.interrupted calls) entered ?_
      intro s call service accounted _ served
      rcases (serveIsr_served served).retains with retains | ⟨_, task_level, -⟩
      · exact accounted.retained retains
      · cases task_level
    rcases ended with ⟨-, rfl⟩ | ⟨-, -, rfl⟩
    · exact .inr (kept.retained (resumed_priorities s₁ s₁.curr).retains)
    · exact .inr (kept.retained (.seated resources (osTaskSwapContextTo_priorities config s₁ top)))

theorem osStart_accounted : Accounted config [] (osStart config).1 := by
  have started : Accounted config [] (initOs config) :=
    ⟨by simp [initOs], fun _ _ _ owned => by simp [initOs] at owned⟩
  exact started.retained (.seated resources (osTaskSwapContextTo_priorities config _ _))

theorem run_accounted (steps : List KernelStep) :
    let last := (run (kernelStep config) (osStart config).1 steps).1
    last.halted ∨ Accounted config steps last := by
  induction steps using reverseRecOn with
  | nil => exact .inr (osStart_accounted resources)
  | append_singleton steps step accounted =>
    rw [run_append]
    exact Accounted.stepped resources rfl accounted

end

/-- The resources that a task holds when its function returns are freed exactly if it is one at
most, and the task owns it. Its priority is then the one it had when it took the resource and
held no other. -/
theorem forced_release_iff (config : TaskSet) (resources : config.ResourcesValid)
    (steps : List KernelStep) :
    let last := (run (kernelStep config) (osStart config).1 steps).1
    let held := (last.tasks last.curr).resources
    last.halted = false →
      ((osTaskResourceFreeAll config last last.curr).isSome ↔
        held.length ≤ 1 ∧ ∀ resource ∈ held, (last.resources resource).owner = some last.curr) ∧
      ∀ freed, osTaskResourceFreeAll config last last.curr = some freed →
        (freed.tasks last.curr).resources = [] ∧
        (∀ resource ∈ held, (freed.resources resource).owner = none) ∧
        (held = [] → freed = last) ∧
        ∀ resource ∈ held, ∃ before after,
          steps = before ++ .call (.getResource resource) :: after ∧
          let s := (run (kernelStep config) (osStart config).1 before).1
          s.curr = last.curr ∧ (s.tasks last.curr).resources = [] ∧
            freed.activePriority last.curr = s.activePriority last.curr := by
  intro last held executes
  have accounted : Accounted config steps last :=
    (run_accounted resources steps).resolve_left (by simp [last, executes])
  have standard := accounted.standard last.curr
  have exact_release := osTaskResourceFreeAll_isSome standard
  refine ⟨exact_release, fun freed frees => ?_⟩
  obtain ⟨empty, unowned, unchanged, restored⟩ := osTaskResourceFreeAll_frees standard frees
  refine ⟨empty, unowned, unchanged, fun resource member => ?_⟩
  obtain ⟨single, priority⟩ := restored resource member
  have owned := (exact_release.mp (by rw [frees]; rfl)).2 resource member
  obtain ⟨before, after, above, history, current, -, listed, old⟩ :=
    accounted.taken resource last.curr (standard resource member) owned
  refine ⟨before, after, history, current, ?_, priority.trans old⟩
  rw [single] at listed
  exact (append_eq_singleton_iff.mp listed.symm).elim (·.1) fun other => by simp at other

/-- A task takes a resource and is preempted. It is freed of the resource when it runs again and
its function returns, and gets back the priority from before. -/
theorem forced_release_of_one :
    let steps := [.call (.getResource 1), .call (.activateTask 4), .call .terminateTask]
    let last := (run (kernelStep groupTasks) (osStart groupTasks).1 steps).1
    last.curr = 1 ∧ (last.tasks 1).resources = [1] ∧
      ∃ freed, osTaskResourceFreeAll groupTasks last 1 = some freed ∧
        (freed.tasks 1).resources = [] ∧ (freed.resources 1).owner = none ∧
        freed.activePriority 1 = 2 := by
  intro steps last
  have released := forced_release_iff groupTasks groupTasks_resourcesValid steps (by decide +kernel)
  obtain ⟨freed, frees⟩ := Option.isSome_iff_exists.mp (released.1.mpr (by decide +kernel))
  obtain ⟨empty, unowned, -, restored⟩ := released.2 freed frees
  obtain ⟨before, after, history, -, -, priority⟩ := restored 1 (by decide +kernel)
  refine ⟨by decide +kernel, by decide +kernel, freed, frees, empty,
    unowned 1 (by decide +kernel), ?_⟩
  cases before with
  | nil => exact priority
  | cons first rest =>
    have later : KernelStep.call (.getResource 1) ∈ [.call (.activateTask 4), .call .terminateTask] :=
      (cons.inj history).2 ▸ by simp
    simp at later

/-- With a second resource the assertion fails at the first one. -/
theorem forced_release_of_two_fails :
    let last := (run (kernelStep groupTasks) (osStart groupTasks).1
      [.call (.getResource 1), .call (.getResource groupTasks.resScheduler)]).1
    last.halted = false ∧ last.curr = 1 ∧ (last.tasks 1).resources = [1, 3] ∧
      (osTaskResourceRemove groupTasks last 1 1).isNone = true ∧
      (osTaskResourceFreeAll groupTasks last 1).isNone = true := by
  decide +kernel

end Os
