import ClassicPlatform.Os.PriorityCeiling

/-!
# Exclusion in a group

The tasks of a group share an internal resource, which each of them takes with the
processor. From its start or resumption to its end, `Schedule` or `WaitEvent`, a task of
the group should keep the others of the group from executing, whoever preempts it.

This holds in the runs in which it is preempted by interrupts only: the other preemptions
go through the dispatcher, which releases the internal resource. Besides, a task that the
dispatcher starts because of a mark left by `ChainTask` does not take its internal resource,
and an interrupt must not find the task above the ceiling of its group, because the priority
to return to is stored again when the task is resumed.
-/
namespace Os

open List Machine Option TaskSet

variable {config : TaskSet} {isr : Bool} {call : KernelCall} {s s' left : Kernel}
variable {task top resource group : Nat} {op : DispatchOp} {running engaged : Option Nat}
  {service : Service}

/-! ## Tasks with internal resources -/

/-- A task with an internal resource does not exceed its ceiling without the processor, and does
not fall below it with the processor. -/
structure Grouped (config : TaskSet) (running : Option Nat) (s : Kernel) : Prop where
  queue : QueueHolds s
  owners : ∀ task resource, config.typeOf resource ≠ .internal →
    (s.resources resource).owner = some task → resource ∈ (s.tasks task).resources
  released : ∀ task, task ∉ s.ready → (s.tasks task).resources = []
  bounded : ∀ task, s.activePriority task ≤ resSchedulerPrio
  bounded_old : ∀ resource, (s.resources resource).oldTaskPrio ≤ resSchedulerPrio
  away : ∀ task group, (config.task task).resourceInt = some group → running ≠ some task →
    s.activePriority task ≤ config.ceilingPriority group
  inside : ∀ task group, running = some task → (config.task task).resourceInt = some group →
    (s.resources group).owner = some task ∧
    (s.resources group).oldTaskPrio ≤ config.ceilingPriority group ∧
    config.ceilingPriority group ≤ s.activePriority task
  above : ∀ task group resource, (config.task task).resourceInt = some group →
    config.typeOf resource ≠ .internal → (s.resources resource).owner = some task →
    config.ceilingPriority group ≤ (s.resources resource).oldTaskPrio

theorem Grouped.of_priorities (grouped : Grouped config running s) (queue : QueueHolds s')
    (released : ∀ task, task ∉ s'.ready → (s.tasks task).resources = [])
    (same : SamePriorities s s') : Grouped config running s' := by
  have active : s'.activePriority = s.activePriority := funext same.active
  obtain ⟨-, owners, -, bounded, bounded_old, away, inside, above⟩ := grouped
  constructor
  · exact queue
  · intro task
    rw [same.resources, same.held]
    exact owners task
  · intro task
    rw [same.held]
    exact released task
  · rw [active]
    exact bounded
  · rw [same.resources]
    exact bounded_old
  · rw [active]
    exact away
  · rw [active, same.resources]
    exact inside
  · rw [same.resources]
    exact above

section

variable (bounded : ∀ task, s.activePriority task ≤ resSchedulerPrio)
variable (bounded_old : ∀ resource, (s.resources resource).oldTaskPrio ≤ resSchedulerPrio)
include bounded

theorem Takes.active_le (takes : Takes config s resource task s') (valid : config.ResourcesValid)
    (other : Nat) : s'.activePriority other ≤ resSchedulerPrio := by
  by_cases own : other = task
  · rw [own, takes.active]
    exact ceilingPriority_le valid resource
  · exact (congrArg Task.activePriority (takes.others other own)).le.trans (bounded other)

include bounded_old

theorem Takes.old_le (takes : Takes config s resource task s') (other : Nat) :
    (s'.resources other).oldTaskPrio ≤ resSchedulerPrio := by
  by_cases here : other = resource
  · rw [here, takes.taken]
    exact bounded task
  · rw [takes.same other here]
    exact bounded_old other

theorem Gives.active_le (gives : Gives config s resource task s') (other : Nat) :
    s'.activePriority other ≤ resSchedulerPrio := by
  by_cases own : other = task
  · rw [own, gives.active]
    exact bounded_old resource
  · exact (congrArg Task.activePriority (gives.others other own)).le.trans (bounded other)

omit bounded in
theorem Gives.old_le (gives : Gives config s resource task s') (other : Nat) :
    (s'.resources other).oldTaskPrio ≤ resSchedulerPrio := by
  by_cases here : other = resource
  · rw [here, gives.freed]
    exact bounded_old resource
  · rw [gives.same other here]
    exact bounded_old other

end

section

variable (valid : config.ResourcesValid) (grouped : Grouped config (some s.curr) s)
include valid grouped

theorem Grouped.taken (member : s.curr ∈ s.ready) (standard : config.typeOf resource ≠ .internal)
    (fits : s.activePriority s.curr ≤ config.ceilingPriority resource) :
    Grouped config (some s.curr) (osTaskResourceAdd config s resource s.curr) := by
  have takes := osTaskResourceAdd_takes config s resource s.curr
  obtain ⟨same, taken, others, active, held⟩ := osTaskResourceAdd_takes config s resource s.curr
  rw [if_neg standard] at held
  obtain ⟨queue, owners, released, bounded, bounded_old, away, inside, above⟩ := grouped
  constructor
  · exact queue.of_same (osTaskResourceAdd_same config s resource s.curr).toSameStates
  · intro task other is_standard owned
    by_cases here : other = resource
    · subst here
      rw [taken] at owned
      cases owned
      simp [held]
    · rw [same other here] at owned
      have listed := owners task other is_standard owned
      by_cases own : task = s.curr
      · subst own
        rw [held]
        exact mem_append_left _ listed
      · rw [others task own]
        exact listed
  · intro task absent
    have own : task ≠ s.curr := by
      rintro rfl
      exact absent member
    rw [others task own]
    exact released task absent
  · exact takes.active_le bounded valid
  · exact takes.old_le bounded bounded_old
  · intro task group member away_from
    have own : task ≠ s.curr := fun own => away_from (own ▸ rfl)
    exact (congrArg Task.activePriority (others task own)).le.trans (away task group member away_from)
  · rintro task group ⟨⟩ member
    have ne : group ≠ resource := by
      rintro rfl
      exact standard (valid.member s.curr group member).1
    obtain ⟨owned, old, high⟩ := inside s.curr group rfl member
    rw [same group ne, active]
    exact ⟨owned, old, high.trans fits⟩
  · intro task group other member is_standard owned
    by_cases here : other = resource
    · subst here
      rw [taken] at owned ⊢
      cases owned
      exact (inside s.curr group rfl member).2.2
    · rw [same other here] at owned ⊢
      exact above task group other member is_standard owned

theorem Grouped.removed (member : s.curr ∈ s.ready) (standard : config.typeOf resource ≠ .internal)
    (removed : osTaskResourceRemove config s resource s.curr = some s') :
    Grouped config (some s.curr) s' := by
  have same_states := (osTaskResourceRemove_same removed).toSameStates
  have gives := osTaskResourceRemove_gives removed
  obtain ⟨was_owner, last, -⟩ := osTaskResourceRemove_some removed
  obtain ⟨rest, split⟩ := List.getLast?_eq_some_iff.mp (last standard)
  obtain ⟨queue, owners, released, bounded, bounded_old, away, inside, above⟩ := grouped
  constructor
  · exact queue.of_same same_states
  · intro task other is_standard owned
    obtain ⟨here, owned⟩ := gives.still owned
    have listed := owners task other is_standard owned
    by_cases own : task = s.curr
    · subst own
      rw [split] at listed
      have listed := (mem_append.mp listed).resolve_right fun top =>
        here (mem_singleton.mp top)
      rw [gives.held, if_neg standard, split, dropLast_concat]
      exact listed
    · rw [gives.others task own]
      exact listed
  · intro task absent
    rw [same_states.ready] at absent
    have own : task ≠ s.curr := by
      rintro rfl
      exact absent member
    rw [gives.others task own]
    exact released task absent
  · exact gives.active_le bounded bounded_old
  · exact gives.old_le bounded_old
  · intro task group member away_from
    have own : task ≠ s.curr := fun own => away_from (own ▸ rfl)
    rw [Kernel.activePriority, gives.others task own]
    exact away task group member away_from
  · rintro task group ⟨⟩ member
    have ne : group ≠ resource := by
      rintro rfl
      exact standard (valid.member s.curr group member).1
    obtain ⟨owned, old, -⟩ := inside s.curr group rfl member
    rw [gives.same group ne, gives.active]
    exact ⟨owned, old, above s.curr group resource member standard was_owner⟩
  · intro task group other member is_standard owned
    obtain ⟨here, owned⟩ := gives.still owned
    rw [gives.same other here]
    exact above task group other member is_standard owned

theorem Grouped.releaseInternal (given : osResourceReleaseInternal config s = some s') :
    Grouped config none s' ∧ s'.activePriority s.curr ≤ s.activePriority s.curr ∧
      (∀ task, task ≠ s.curr → s'.activePriority task = s.activePriority task) ∧
      ∀ resource, config.typeOf resource ≠ .internal →
        s'.resources resource = s.resources resource := by
  have same_states := (releaseInternal_same given).toSameStates
  obtain ⟨queue, owners, released, bounded, bounded_old, away, inside, above⟩ := grouped
  unfold osResourceReleaseInternal at given
  split at given
  next group member =>
    have internal := (valid.member s.curr group member).1
    obtain ⟨-, old, high⟩ := inside s.curr group rfl member
    have gives := osTaskResourceRemove_gives given
    have others : ∀ task, task ≠ s.curr → s'.activePriority task = s.activePriority task :=
      fun task own => congrArg Task.activePriority (gives.others task own)
    refine ⟨⟨queue.of_same same_states, ?_, ?_, gives.active_le bounded bounded_old,
      gives.old_le bounded_old, ?_, nofun, ?_⟩, ?_, others, fun _ => gives.standard internal⟩
    · intro task other standard owned
      rw [gives.standard internal standard] at owned
      rw [gives.lists internal]
      exact owners task other standard owned
    · intro task absent
      rw [same_states.ready] at absent
      rw [gives.lists internal]
      exact released task absent
    · intro task group' member' _
      by_cases own : task = s.curr
      · subst own
        obtain rfl := some.inj (member.symm.trans member')
        rw [gives.active]
        exact old
      · rw [others task own]
        exact away task group' member' fun has => own (some.inj has).symm
    · intro task group' other member' standard
      rw [gives.standard internal standard]
      exact above task group' other member' standard
    · rw [gives.active]
      exact old.trans high
  next none_inside =>
    cases given
    refine ⟨⟨queue, owners, released, bounded, bounded_old, ?_, nofun, above⟩, le_rfl,
      fun _ _ => rfl, fun _ _ => rfl⟩
    intro task group member _
    apply away task group member
    rintro ⟨⟩
    cases none_inside.symm.trans member

end

theorem Grouped.suspend (grouped : Grouped config (some s.curr) s)
    (fits : ∀ group ∈ (config.task s.curr).resourceInt,
      s.activePriority s.curr ≤ config.ceilingPriority group) : Grouped config none s := by
  obtain ⟨queue, owners, released, bounded, bounded_old, away, inside, above⟩ := grouped
  refine ⟨queue, owners, released, bounded, bounded_old, ?_, nofun, above⟩
  intro task group member _
  by_cases own : task = s.curr
  · subst own
    exact fits group member
  · exact away task group member fun has => own (some.inj has).symm

theorem Grouped.getInternal (valid : config.ResourcesValid) (grouped : Grouped config none s) :
    Grouped config (some s.curr) (osResourceGetInternal config s) := by
  obtain ⟨queue, owners, released, bounded, bounded_old, away, -, above⟩ := grouped
  unfold osResourceGetInternal
  split
  next group member =>
    have internal := (valid.member s.curr group member).1
    have takes := osTaskResourceAdd_takes config s group s.curr
    constructor
    · exact queue.of_same (osTaskResourceAdd_same config s group s.curr).toSameStates
    · intro task other standard owned
      rw [takes.standard internal standard] at owned
      rw [takes.lists internal]
      exact owners task other standard owned
    · intro task absent
      rw [takes.lists internal]
      exact released task absent
    · exact takes.active_le bounded valid
    · exact takes.old_le bounded bounded_old
    · intro task group' member' away_from
      have own : task ≠ s.curr := fun own => away_from (own ▸ rfl)
      exact (congrArg Task.activePriority (takes.others task own)).le.trans
        (away task group' member' nofun)
    · rintro task group' ⟨⟩ member'
      obtain rfl := some.inj (member.symm.trans member')
      rw [takes.taken, takes.active]
      exact ⟨rfl, away s.curr group member nofun, le_rfl⟩
    · intro task group' other member' standard
      rw [takes.standard internal standard]
      exact above task group' other member' standard
  next none_inside =>
    refine ⟨queue, owners, released, bounded, bounded_old, fun task group member _ =>
      away task group member nofun, ?_, above⟩
    rintro task group ⟨⟩ member
    cases none_inside.symm.trans member

/-! ## The task of the group that is engaged -/

/-- Whatever the task releases, it stays above the ceiling. -/
def StaysAbove (config : TaskSet) (resource task : Nat) (s : Kernel) : Prop :=
  ∀ held, config.typeOf held ≠ .internal → (s.resources held).owner = some task →
    config.ceilingPriority resource < (s.resources held).oldTaskPrio

theorem StaysAbove.of_same (above : StaysAbove config resource task s)
    (same : ∀ held, config.typeOf held ≠ .internal → s'.resources held = s.resources held) :
    StaysAbove config resource task s' := by
  intro held standard
  rw [same held standard]
  exact above held standard

/-- While a task of the group is engaged, what stands before it in the ready queue is below the
ceiling, and whoever has the processor instead is above it. -/
structure Excludes (config : TaskSet) (resource : Nat) (running engaged : Option Nat) (s : Kernel) :
    Prop where
  own : ∀ task, running = some task → (config.task task).resourceInt = some resource →
    engaged = some task
  member : ∀ task, engaged = some task → (config.task task).resourceInt = some resource ∧
    task ∈ s.ready ∧ config.ceilingPriority resource ≤ s.activePriority task
  ahead : ∀ task, engaged = some task → s.ready.Pairwise fun before here => here = task →
    running ≠ some before ∧ s.activePriority before < config.ceilingPriority resource
  -- a task that can become lower than the ceiling by a release is not above it now
  others : ∀ task other, engaged = some task → other ∈ s.ready → other ≠ task →
    s.activePriority other ≤ config.ceilingPriority resource ∨ StaysAbove config resource other s
  higher : ∀ task other, engaged = some task → running = some other → other ≠ task →
    config.ceilingPriority resource < s.activePriority other

section

variable (excludes : Excludes config resource running engaged s)
include excludes

theorem Excludes.of_same (ready : s'.ready = s.ready) (same : SamePriorities s s') :
    Excludes config resource running engaged s' := by
  have active : s'.activePriority = s.activePriority := funext same.active
  obtain ⟨own, member, ahead, others, higher⟩ := excludes
  constructor
  · exact own
  · rw [ready, active]
    exact member
  · rw [ready, active]
    exact ahead
  · rw [ready, active]
    unfold StaysAbove
    rw [same.resources]
    exact others
  · rw [active]
    exact higher

theorem Excludes.enqueue {value : Task} (grouped : Grouped config running s)
    (absent : task ∉ s.ready) (active : value.activePriority = s.activePriority task)
    (held : value.resources = (s.tasks task).resources) :
    Excludes config resource running engaged (s.enqueue task value) := by
  have same : SamePriorities s (s.enqueue task value) := .enqueue active held
  have active : (s.enqueue task value).activePriority = s.activePriority := funext same.active
  obtain ⟨own, member, ahead, others, higher⟩ := excludes
  constructor
  · exact own
  · intro first engages
    rw [active]
    obtain ⟨grouped, ready, high⟩ := member first engages
    exact ⟨grouped, mem_append_left _ ready, high⟩
  · intro first engages
    rw [active]
    apply Queue.enqueue (ahead first engages)
    rintro before - rfl
    exact absurd (member _ engages).2.1 absent
  · intro first other engages ready ne
    rw [active]
    rcases mem_append.mp ready with old | new
    · exact others first other engages old ne
    · -- a task that was not ready holds nothing
      obtain rfl := mem_singleton.mp new
      refine .inr fun resource standard owned => ?_
      have listed := grouped.owners other resource standard owned
      rw [grouped.released other absent] at listed
      exact absurd listed not_mem_nil
  · rw [active]
    exact higher

end

section

variable (excludes : Excludes config resource (some s.curr) engaged s)
variable (others : ∀ task, task ≠ s.curr → s'.activePriority task = s.activePriority task)
include excludes others

theorem Excludes.changed (in_queue : s.curr ∈ s.ready) (ready : s'.ready = s.ready)
    (member : (config.task s.curr).resourceInt = some resource →
      config.ceilingPriority resource ≤ s'.activePriority s.curr)
    (foreign : ∀ task held, task ≠ s.curr → (s'.resources held).owner = some task →
      s'.resources held = s.resources held)
    (clean : config.ceilingPriority resource < s.activePriority s.curr →
      StaysAbove config resource s.curr s →
      config.ceilingPriority resource < s'.activePriority s.curr ∧
        StaysAbove config resource s.curr s') :
    Excludes config resource (some s.curr) engaged s' := by
  -- the running task if another one is engaged
  have current : ∀ task, engaged = some task → s.curr ≠ task →
      config.ceilingPriority resource < s'.activePriority s.curr ∧
        StaysAbove config resource s.curr s' := by
    intro task engages ne
    have above := excludes.higher task s.curr engages rfl ne
    apply clean above
    exact (excludes.others task s.curr engages in_queue ne).resolve_left (not_le.mpr above)
  constructor
  · exact excludes.own
  · intro task engages
    obtain ⟨is_member, in_ready, high⟩ := excludes.member task engages
    refine ⟨is_member, ready ▸ in_ready, ?_⟩
    by_cases own : task = s.curr
    · subst own
      exact member is_member
    · rw [others task own]
      exact high
  · intro task engages
    rw [ready]
    apply (excludes.ahead task engages).imp
    intro before here lower is_task
    obtain ⟨ne, lower⟩ := lower is_task
    rw [others before fun own => ne (own ▸ rfl)]
    exact ⟨ne, lower⟩
  · intro task other engages in_ready ne
    rw [ready] at in_ready
    by_cases own : other = s.curr
    · subst own
      exact .inr (current task engages ne).2
    · rw [others other own]
      refine (excludes.others task other engages in_ready ne).imp_right fun clean held standard owned => ?_
      have unchanged := foreign other held own owned
      rw [unchanged] at owned ⊢
      exact clean held standard owned
  · rintro task other engages ⟨⟩ ne
    exact (current task engages ne).1

theorem Excludes.vacate {engaged' : Option Nat} (sublist : s'.ready.Sublist s.ready)
    (stay : ∀ task ∈ s.ready, task ≠ s.curr → task ∈ s'.ready)
    (same : ∀ held, config.typeOf held ≠ .internal → s'.resources held = s.resources held)
    (cleared : (config.task s.curr).resourceInt = some resource → engaged' = none)
    (kept : ∀ task, engaged' = some task → engaged = some task) :
    Excludes config resource none engaged' s' := by
  have other : ∀ task, engaged' = some task → task ≠ s.curr := by
    rintro task engages rfl
    have is_member := (excludes.member s.curr (kept s.curr engages)).1
    cases (cleared is_member).symm.trans engages
  constructor
  · nofun
  · intro task engages
    obtain ⟨is_member, ready, high⟩ := excludes.member task (kept task engages)
    rw [others task (other task engages)]
    exact ⟨is_member, stay task ready (other task engages), high⟩
  · intro task engages
    apply ((excludes.ahead task (kept task engages)).sublist sublist).imp
    intro before here lower is_task
    obtain ⟨ne, lower⟩ := lower is_task
    rw [others before fun own => ne (own ▸ rfl)]
    exact ⟨nofun, lower⟩
  · intro task third engages ready ne
    have engages := kept task engages
    have clean := excludes.others task third engages (sublist.subset ready) ne
    by_cases own : third = s.curr
    · subst own
      have above := excludes.higher task s.curr engages rfl ne
      exact .inr ((clean.resolve_left (not_le.mpr above)).of_same same)
    · rw [others third own]
      exact clean.imp_right fun clean => clean.of_same same
  · nofun

end

theorem Excludes.suspend (excludes : Excludes config resource running engaged s) :
    Excludes config resource none engaged s where
  own := nofun
  member := excludes.member
  ahead task engages := (excludes.ahead task engages).imp
    fun lower is_task => ⟨nofun, (lower is_task).2⟩
  others := excludes.others
  higher := nofun

/-- The engaged task after the top task has got the processor. -/
def engagedBy (config : TaskSet) (resource top : Nat) (engaged : Option Nat) : Option Nat :=
  if (config.task top).resourceInt = some resource then some top else engaged

section

variable (excludes : Excludes config resource none engaged s)
include excludes

theorem Excludes.chosen (queue : QueueHolds s) (chosen : top ∈ s.ready.argmax s.activePriority)
    (engages : engaged = some task) (other : top ≠ task) :
    config.ceilingPriority resource < s.activePriority top := by
  obtain ⟨-, ready, high⟩ := excludes.member task engages
  have pairs := (excludes.ahead task engages).and (Queue.below_top queue.nodup chosen)
  rcases Queue.related pairs (argmax_mem chosen) ready other with ⟨lower, -⟩ | ⟨-, below⟩
  · have greatest := le_of_mem_argmax ready chosen
    omega
  · exact high.trans_lt (below rfl)

theorem Excludes.alone (grouped : Grouped config none s)
    (chosen : top ∈ s.ready.argmax s.activePriority)
    (member : (config.task top).resourceInt = some resource) :
    engaged = none ∨ engaged = some top := by
  cases engages : engaged with
  | none => exact .inl rfl
  | some task =>
    by_cases own : top = task
    · exact .inr (congrArg some own.symm)
    · have above := excludes.chosen grouped.queue chosen engages own
      have below := grouped.away top resource member nofun
      omega

theorem Excludes.getInternal (valid : config.ResourcesValid) (grouped : Grouped config none s)
    (chosen : s.curr ∈ s.ready.argmax s.activePriority) :
    Excludes config resource (some s.curr) (engagedBy config resource s.curr engaged)
      (osResourceGetInternal config s) := by
  have ready : (osResourceGetInternal config s).ready = s.ready := by
    unfold osResourceGetInternal
    split <;> rfl
  have taken := grouped.getInternal valid
  have member_curr := argmax_mem chosen
  have others : ∀ task, task ≠ s.curr →
      (osResourceGetInternal config s).activePriority task = s.activePriority task := by
    intro task own
    unfold osResourceGetInternal
    split
    · exact congrArg Task.activePriority (setTask_tasks_of_ne _ _ _ own)
    · rfl
  have raised : s.activePriority s.curr ≤
      (osResourceGetInternal config s).activePriority s.curr := by
    cases group : (config.task s.curr).resourceInt with
    | none => simp [osResourceGetInternal, group]
    | some own =>
      exact (grouped.away s.curr own group nofun).trans (taken.inside s.curr own rfl group).2.2
  have same : ∀ held, config.typeOf held ≠ .internal →
      (osResourceGetInternal config s).resources held = s.resources held := by
    intro held standard
    unfold osResourceGetInternal
    split
    next own group =>
      apply setResource_resources_of_ne _ _ _
      rintro rfl
      exact standard (valid.member s.curr held group).1
    next => rfl
  have below := Queue.below_top grouped.queue.nodup chosen
  by_cases member : (config.task s.curr).resourceInt = some resource
  · -- the task is engaged from now on, or again
    have low := grouped.away s.curr resource member nofun
    rw [engagedBy, if_pos member]
    constructor
    · exact fun task has _ => has
    · rintro task ⟨⟩
      exact ⟨member, ready ▸ member_curr, (taken.inside s.curr resource rfl member).2.2⟩
    · rintro task ⟨⟩
      rw [ready]
      apply (below.and grouped.queue.nodup).imp
      rintro before here ⟨lower, ne⟩ rfl
      rw [others before ne]
      exact ⟨fun has => ne (some.inj has).symm, (lower rfl).trans_le low⟩
    · rintro task other ⟨⟩ in_ready ne
      rw [others other ne]
      rw [ready] at in_ready
      exact .inl ((le_of_mem_argmax in_ready chosen).trans low)
    · rintro task other ⟨⟩ ⟨⟩ ne
      exact absurd rfl ne
  · rw [engagedBy, if_neg member]
    have apart : ∀ task, engaged = some task → s.curr ≠ task := by
      rintro task engages rfl
      exact member (excludes.member s.curr engages).1
    constructor
    · rintro task ⟨⟩ is_member
      exact absurd is_member member
    · intro task engages
      obtain ⟨is_member, in_ready, high⟩ := excludes.member task engages
      rw [others task (apart task engages).symm, ready]
      exact ⟨is_member, in_ready, high⟩
    · intro task engages
      rw [ready]
      have above := excludes.chosen grouped.queue chosen engages (apart task engages)
      apply (excludes.ahead task engages).imp
      intro before here lower is_task
      obtain ⟨-, lower⟩ := lower is_task
      have ne : before ≠ s.curr := by
        rintro rfl
        omega
      rw [others before ne]
      exact ⟨fun has => ne (some.inj has).symm, lower⟩
    · intro task other engages in_ready ne
      rw [ready] at in_ready
      have clean := excludes.others task other engages in_ready ne
      by_cases own : other = s.curr
      · subst own
        have above := excludes.chosen grouped.queue chosen engages ne
        exact .inr ((clean.resolve_left (not_le.mpr above)).of_same same)
      · rw [others other own]
        exact clean.imp_right fun clean => clean.of_same same
    · rintro task other engages ⟨⟩ ne
      exact (excludes.chosen grouped.queue chosen engages ne).trans_le raised

/-! ## Services -/

end

theorem TaskServed.excludes (valid : config.ResourcesValid)
    (grouped : Grouped config (some s.curr) s)
    (excludes : Excludes config resource (some s.curr) engaged s) (member : s.curr ∈ s.ready)
    (standard : UsesStandard config call) (served : TaskServed config isr call s service) :
    Grouped config (some service.state.curr) service.state ∧
      Excludes config resource (some service.state.curr) engaged service.state := by
  have queue := served.effect.queueHolds grouped.queue
  have same : ∀ {s'}, s'.curr = s.curr → s'.ready = s.ready → QueueHolds s' → SamePriorities s s' →
      Grouped config (some s'.curr) s' ∧ Excludes config resource (some s'.curr) engaged s' := by
    intro s' curr ready queue same
    rw [curr]
    refine ⟨grouped.of_priorities queue ?_ same, excludes.of_same ready same⟩
    rw [ready]
    exact grouped.released
  have enqueued : ∀ {task value}, task ∉ s.ready → QueueHolds (s.enqueue task value) →
      value.activePriority = s.activePriority task → value.resources = (s.tasks task).resources →
      Grouped config (some (s.enqueue task value).curr) (s.enqueue task value) ∧
        Excludes config resource (some (s.enqueue task value).curr) engaged
          (s.enqueue task value) := by
    intro task value absent queue active held
    refine ⟨grouped.of_priorities queue (fun other away => ?_) (.enqueue active held),
      excludes.enqueue grouped absent active held⟩
    exact grouped.released other fun ready => away (mem_append_left _ ready)
  cases served with
  | refused | done | terminates | chainsSelf | schedules => exact ⟨grouped, excludes⟩
  | masked | waits | chainsQueued => exact same rfl rfl queue (.setTask rfl rfl)
  | queued =>
    rw [offer_state] at queue ⊢
    exact same rfl rfl queue (.setTask rfl rfl)
  | activated task evSet evWait suspended =>
    rw [offer_state] at queue ⊢
    exact enqueued (grouped.queue.absent (.inl suspended)) queue rfl rfl
  | woken task evSet waits =>
    rw [offer_state] at queue ⊢
    exact enqueued (grouped.queue.absent (.inr waits)) queue rfl rfl
  | chainsActivated level task evSet evWait called ne free suspended =>
    exact enqueued (grouped.queue.absent (.inl suspended)) queue rfl rfl
  | taken level held called free =>
    subst called
    have fits : s.activePriority s.curr ≤ config.ceilingPriority held := by
      by_cases scheduler : held = config.resScheduler
      · rw [ceilingPriority, if_pos scheduler]
        exact grouped.bounded s.curr
      · exact (free scheduler).2.2
    obtain ⟨unchanged, owner, -, active, -⟩ := osTaskResourceAdd_takes config s held s.curr
    rw [returns]
    refine ⟨grouped.taken valid member standard fits, excludes.changed ?_ member rfl ?_ ?_ ?_⟩
    · exact fun task ne => congrArg Task.activePriority (setTask_tasks_of_ne _ _ _ ne)
    · intro is_member
      rw [active]
      exact (grouped.inside s.curr resource rfl is_member).2.2.trans fits
    · intro task other ne owned
      apply unchanged other
      rintro rfl
      rw [owner] at owned
      exact ne (some.inj owned).symm
    · intro above clean
      rw [active]
      refine ⟨above.trans_le fits, fun other is_standard owned => ?_⟩
      by_cases here : other = held
      · rw [here, owner]
        exact above
      · rw [unchanged other here] at owned ⊢
        exact clean other is_standard owned
  | released level held called access removed | releasedTo level held called access removed =>
    subst called
    have same_states := (osTaskResourceRemove_same removed).toSameStates
    have gives := osTaskResourceRemove_gives removed
    have owned := (osTaskResourceRemove_some removed).1
    simp only [returns, same_states.curr]
    refine ⟨grouped.removed valid member standard removed, excludes.changed
      (fun task ne => congrArg Task.activePriority (gives.others task ne)) member same_states.ready
      ?_ ?_ ?_⟩
    · intro is_member
      rw [gives.active]
      exact grouped.above s.curr resource held is_member standard owned
    · exact fun task other _ still => gives.same other (gives.still still).1
    · intro _ clean
      rw [gives.active]
      refine ⟨clean held standard owned, fun other is_standard still => ?_⟩
      obtain ⟨here, still⟩ := gives.still still
      rw [gives.same other here]
      exact clean other is_standard still

/-! ## The dispatcher -/

theorem Left.stay (queue : QueueHolds s) (leaving : Left s op left) :
    left.ready.Sublist s.ready ∧ ∀ task ∈ s.ready, task ≠ s.curr → task ∈ left.ready := by
  cases leaving with
  | kept | selfChained | readied | again | flagged =>
    exact ⟨List.Sublist.refl _, fun _ ready _ => ready⟩
  | waiting | suspended =>
    refine ⟨erase_sublist, fun task ready ne => ?_⟩
    rw [dequeue_ready, queue.nodup.mem_erase_iff]
    exact ⟨ne, ready⟩

theorem Left.grouped (grouped : Grouped config (some s.curr) s)
    (running : s.state s.curr = .running) (leaving : Left s op left)
    (released : op = .waitEvent ∨ op.ends → (s.tasks s.curr).resources = []) :
    Grouped config (some left.curr) left := by
  rw [leaving.curr]
  refine grouped.of_priorities (leaving.queueHolds grouped.queue running) ?_ leaving.priorities
  intro task absent
  by_cases own : task = s.curr
  · subst own
    -- only a task that waits or ends leaves the queue
    cases leaving with
    | kept | selfChained | readied | again | flagged => exact grouped.released s.curr absent
    | waiting => exact released (.inl rfl)
    | suspended ends => exact released (.inr ends)
  · refine grouped.released task fun ready => absent ?_
    exact (leaving.stay grouped.queue).2 task ready own

/-- A task of the group is not preempted by the dispatcher. A marked task without internal resource
may be started from another one. -/
def GroupLeaves (config : TaskSet) (resource : Nat) (left : Kernel) (op : DispatchOp) (top : Nat) :
    Prop :=
  (op = .waitEvent ∨ op.ends = true → (left.tasks left.curr).resources = []) ∧
  (top ≠ left.curr → (config.task left.curr).resourceInt = some resource →
    op = .waitEvent ∨ op = .schedule ∨ op.ends = true) ∧
  (top ≠ left.curr → (config.task top).resourceInt ≠ none →
    (left.tasks top).reactivation = false)
  deriving Decidable

/-- Gives up when a task of the group executes while another one is engaged. -/
def engage (config : TaskSet) (resource : Nat) (engaged : Option Nat) :
    KernelEvent → Option (Option Nat)
  | .started task | .resumed task => enters task
  | .ended task | .waited task | .yielded task =>
    some (if engaged = some task then none else engaged)
  | _ => some engaged
where
  enters (task : Nat) : Option (Option Nat) :=
    if (config.task task).resourceInt = some resource then
      if engaged = none ∨ engaged = some task then some (some task) else none
    else some engaged

theorem enters_alone (alone : (config.task top).resourceInt = some resource →
      engaged = none ∨ engaged = some top) :
    engage.enters config resource engaged top = some (engagedBy config resource top engaged) := by
  unfold engage.enters engagedBy
  split
  next member => rw [if_pos (alone member)]
  next => rfl

theorem engage_departure (config : TaskSet) (resource : Nat) (engaged : Option Nat)
    (op : DispatchOp) (task : Nat) :
    ∃ engaged', engage config resource engaged (op.departure task) = some engaged' ∧
      (engaged ≠ some task → engaged' = engaged) ∧
      (∀ other, engaged' = some other → engaged = some other) ∧
      (op = .waitEvent ∨ op = .schedule ∨ op.ends → engaged = some task →
        engaged' = none) := by
  have leaves : ∃ engaged',
      some (if engaged = some task then none else engaged) = some engaged' ∧
      (engaged ≠ some task → engaged' = engaged) ∧
      (∀ other, engaged' = some other → engaged = some other) ∧
      (engaged = some task → engaged' = none) := by
    refine ⟨_, rfl, fun other => if_neg other, fun other => ?_, fun own => if_pos own⟩
    split
    · nofun
    · exact id
  cases op with
  | setEvent | activateTask | releaseResource =>
    exact ⟨engaged, rfl, fun _ => rfl, fun _ => id,
      fun given => absurd given (by simp [DispatchOp.ends])⟩
  | schedule | waitEvent | terminateTask | chainTask =>
    obtain ⟨engaged', departs, same, kept, cleared⟩ := leaves
    exact ⟨engaged', departs, same, kept, fun _ => cleared⟩

/-- Exclusion holds while task code executes. -/
structure Exclusive (config : TaskSet) (resource : Nat) (s : Kernel) (engaged : Option Nat) :
    Prop where
  grouped : Grouped config (some s.curr) s
  excludes : Excludes config resource (some s.curr) engaged s
  running : s.state s.curr = .running

theorem Exclusive.member (exclusive : Exclusive config resource s engaged) : s.curr ∈ s.ready :=
  (exclusive.grouped.queue.member s.curr).mpr (.inr exclusive.running)

theorem Exclusive.seated {middle : Kernel} (valid : config.ResourcesValid)
    (grouped : Grouped config none s) (excludes : Excludes config resource none engaged s)
    (chosen : top ∈ s.ready.argmax s.activePriority) (states : SameStates s middle)
    (seated : Seated middle top s')
    (taken : SamePriorities (osResourceGetInternal config { s with curr := top }) s') :
    Exclusive config resource s' (engagedBy config resource top engaged) := by
  have switched := SamePriorities.switched s top
  have switched_grouped : Grouped config none { s with curr := top } :=
    grouped.of_priorities { grouped.queue with } grouped.released switched
  have switched_excludes : Excludes config resource none engaged { s with curr := top } :=
    excludes.of_same rfl switched
  have ready : s'.ready = (osResourceGetInternal config { s with curr := top }).ready := by
    rw [seated.ready, states.ready]
    unfold osResourceGetInternal
    split <;> rfl
  have taken_grouped := switched_grouped.getInternal valid
  refine ⟨?_, ?_, seated.curr ▸ seated.running⟩
  · rw [seated.curr]
    refine taken_grouped.of_priorities ?_ ?_ taken
    · exact (grouped.queue.of_same states).seated (states.ready ▸ argmax_mem chosen) seated
    · rw [ready]
      exact taken_grouped.released
  · rw [seated.curr]
    exact (switched_excludes.getInternal valid switched_grouped chosen).of_same ready taken

theorem osTaskSwapContextTo_follows {Tracks : Kernel → Option Nat → Prop}
    (alone : (config.task top).resourceInt = some resource → engaged = none ∨ engaged = some top)
    (tracks : Tracks (osTaskSwapContextTo config s top).1 (engagedBy config resource top engaged)) :
    Follows (engage config resource) Tracks engaged (osTaskSwapContextTo config s top) := by
  have entered : osTaskSwapContextTo config s top = (s.seat config top).enter top := rfl
  rw [entered] at tracks ⊢
  rcases enter_cases (s.seat config top) top with ⟨-, entered⟩ | ⟨-, entered⟩ | ⟨-, entered⟩ |
    ⟨-, entered⟩ <;> rw [entered] at tracks ⊢
  · exact ⟨_, by simp [engage, enters_alone alone], .inr tracks⟩
  · exact ⟨_, by simp [engage, enters_alone alone], .inr tracks⟩
  · exact ⟨engaged, rfl, .inl rfl⟩
  · exact ⟨engaged, rfl, .inl rfl⟩

theorem Exclusive.restarted (exclusive : Exclusive config resource s engaged)
    (leaving : Left s op left) (chosen : osTaskGetTop left = some left.curr)
    (released : op = .waitEvent ∨ op.ends → (s.tasks s.curr).resources = []) :
    Exclusive config resource (osTaskStartFromBeginning left left.curr).1 engaged := by
  have seated := osTaskStartFromBeginning_seated left left.curr
  have priorities := osTaskStartFromBeginning_priorities left left.curr
  have member := (osTaskGetTop_some chosen).1
  have grouped := leaving.grouped exclusive.grouped exclusive.running released
  have ready := leaving.ready_of_member exclusive.grouped.queue member
  refine ⟨?_, ?_, seated.curr ▸ seated.running⟩
  · exact grouped.of_priorities (grouped.queue.seated member seated) grouped.released priorities
  · rw [leaving.curr]
    exact exclusive.excludes.of_same (seated.ready.trans ready)
      (leaving.priorities.trans (leaving.curr ▸ priorities))

theorem Exclusive.watch_restarted (exclusive : Exclusive config resource s engaged) :
    watch (engage config resource) engaged
      (if op.ends then [op.departure s.curr, .started s.curr] else [.started s.curr]) =
        some engaged := by
  have entered : ∀ {engaged'}, (engaged ≠ some s.curr → engaged' = engaged) →
      (engaged = some s.curr → engaged' = none ∨ engaged' = some s.curr) →
      engage.enters config resource engaged' s.curr = some engaged := by
    intro engaged' foreign own
    by_cases member : (config.task s.curr).resourceInt = some resource
    · have engages := exclusive.excludes.own s.curr rfl member
      rw [enters_alone fun _ => own engages, engagedBy, if_pos member, engages]
    · have other : engaged ≠ some s.curr := by
        intro engages
        exact member (exclusive.excludes.member s.curr engages).1
      rw [engage.enters, if_neg member, foreign other]
  split
  next ends =>
    obtain ⟨engaged', departs, foreign, -, cleared⟩ :=
      engage_departure config resource engaged op s.curr
    rw [watch_cons, departs, bind_some, watch_cons, engage]
    rw [entered foreign fun engages => .inl (cleared (.inr (.inr ends)) engages)]
    rfl
  next =>
    rw [watch_cons, engage, entered (fun _ => rfl) .inr]
    rfl

theorem Dispatched.excludes {outcome : KernelOutcome} (valid : config.ResourcesValid)
    (exclusive : Exclusive config resource s engaged)
    (leaves_group : ∀ left top, osDispatchLeave s op = some left →
      osTaskGetTop left = some top → GroupLeaves config resource left op top)
    (dispatched : Dispatched config s op outcome) :
    Follows (engage config resource) (Exclusive config resource) engaged outcome := by
  -- the processor goes to another task
  have switches : ∀ {left freed : Kernel} {top : Nat}, osDispatchLeave s op = some left →
      osTaskGetTop left = some top → top ≠ left.curr →
      osResourceReleaseInternal config left = some freed →
      ∃ engaged', engage config resource engaged (op.departure freed.curr) = some engaged' ∧
        ((config.task top).resourceInt = some resource → engaged' = none ∨ engaged' = some top) ∧
        ∀ {middle next}, SameStates freed middle → Seated middle top next →
          SamePriorities (osResourceGetInternal config { freed with curr := top }) next →
          Exclusive config resource next (engagedBy config resource top engaged') := by
    intro left freed top leaves chosen other released
    have leaving := osDispatchLeave_left exclusive.running leaves
    obtain ⟨done, gives_way, -⟩ := leaves_group left top leaves chosen
    rw [leaving.curr, leaving.priorities.held] at done
    have left_grouped := leaving.grouped exclusive.grouped exclusive.running done
    obtain ⟨grouped, lower, others, same⟩ := left_grouped.releaseInternal valid released
    have freed_states := (releaseInternal_same released).toSameStates
    obtain ⟨engaged', departs, -, kept, cleared⟩ :=
      engage_departure config resource engaged op freed.curr
    obtain ⟨sublist, stay⟩ := leaving.stay exclusive.grouped.queue
    have excludes : Excludes config resource none engaged' freed := by
      refine exclusive.excludes.vacate ?_ (freed_states.ready ▸ sublist) ?_ ?_ ?_ kept
      · intro task ne
        rw [others task (leaving.curr ▸ ne), leaving.priorities.active]
      · intro task ready ne
        rw [freed_states.ready]
        exact stay task ready ne
      · intro held standard
        rw [same held standard, leaving.priorities.resources]
      · intro member
        have engages := exclusive.excludes.own s.curr rfl member
        refine cleared (gives_way other ?_) ?_
        · rw [leaving.curr]
          exact member
        · rw [freed_states.curr, leaving.curr]
          exact engages
    have argmax : top ∈ freed.ready.argmax freed.activePriority := by
      rw [freed_states.ready]
      refine Queue.argmax_lower (osTaskGetTop_some chosen).2.2.2 (others top other) fun task => ?_
      by_cases own : task = left.curr
      · exact own ▸ lower
      · exact (others task own).le
    exact ⟨engaged', departs, excludes.alone grouped argmax,
      fun states seated taken => .seated valid grouped excludes argmax states seated taken⟩
  cases dispatched with
  | @restarted left leaves chosen =>
    have leaving := osDispatchLeave_left exclusive.running leaves
    have done := (leaves_group left left.curr leaves chosen).1
    rw [leaving.curr, leaving.priorities.held] at done
    refine ⟨engaged, ?_, .inr (exclusive.restarted leaving chosen done)⟩
    simp only [leaving.curr]
    exact exclusive.watch_restarted
  | @started left freed top leaves chosen other released marked =>
    obtain ⟨engaged', departs, alone, enters⟩ := switches leaves chosen other released
    have same := releaseInternal_same released
    -- a marked task has no internal resource to take
    have plain : (config.task top).resourceInt = none := by
      by_contra group
      have unmarked := (leaves_group left top leaves chosen).2.2 other group
      rw [← same.reactivation top, marked] at unmarked
      cases unmarked
    have taken : SamePriorities (osResourceGetInternal config { freed with curr := top })
        (osTaskStartFromBeginning
          (freed.setTask top { freed.tasks top with reactivation := false }) top).1 := by
      simp only [osResourceGetInternal, plain]
      exact { startMarked_priorities freed top with }
    refine ⟨engagedBy config resource top engaged', ?_,
      .inr (enters ?_ (osTaskStartFromBeginning_seated _ top) taken)⟩
    · rw [watch_cons, departs, bind_some, watch_cons, engage, enters_alone alone]
      rfl
    · exact .setTask rfl rfl
  | @swapped left freed top leaves chosen other released unmarked =>
    obtain ⟨engaged', departs, alone, enters⟩ := switches leaves chosen other released
    have entered : Exclusive config resource (osTaskSwapContext config freed op top).1
        (engagedBy config resource top engaged') := by
      refine enters ?_ (osTaskSwapContextTo_seated config _ top)
        (osTaskSwapContext_priorities config freed op top)
      exact .setTask rfl rfl
    have departed : watch (engage config resource) engaged [op.departure freed.curr] =
        some engaged' := by
      simp [departs]
    exact Follows.after departed (osTaskSwapContextTo_follows alone entered)

/-! ## Runs -/

/-- An interrupt does not find a task above the ceiling of its group when it gives the processor
to another one. -/
def GroupSwitches (config : TaskSet) (s : Kernel) (_top : Nat) : Prop :=
  ∀ group ∈ (config.task s.curr).resourceInt, s.activePriority s.curr ≤ config.ceilingPriority group
  deriving Decidable

def StepExcludes (config : TaskSet) (resource : Nat) (s : Kernel) : KernelStep → Prop
  | .call call =>
    UsesStandard config call ∧ DispatchMeets config (GroupLeaves config resource) s call
  | .interrupt calls => SwitchMeets config (GroupSwitches config) s calls

instance decidableStepExcludes (s : Kernel) :
    (step : KernelStep) → Decidable (StepExcludes config resource s step)
  | .call _ => inferInstanceAs (Decidable (_ ∧ _))
  | .interrupt _ => inferInstanceAs (Decidable (SwitchMeets _ _ _ _))

theorem TaskServed.watch_engage (served : TaskServed config isr call s service) :
    watch (engage config resource) engaged service.events = some engaged := by
  cases served with
  | queued | activated | woken =>
    rw [watch_offer fun _ _ => rfl]
    rfl
  | _ => rfl

theorem Exclusive.stepped (valid : config.ResourcesValid) {step : KernelStep}
    (exclusive : s.halted ∨ Exclusive config resource s engaged)
    (meets : StepExcludes config resource s step) :
    Follows (engage config resource) (Exclusive config resource) engaged
      (kernelStep config s step) := by
  apply kernelStep_follows exclusive
  · rintro call service exclusive rfl given served
    obtain ⟨grouped, excludes⟩ :=
      served.excludes valid exclusive.grouped exclusive.excludes exclusive.member meets.1
    have running := served.effect.still_running exclusive.running
    refine ⟨engaged, served.watch_engage, fun _ => ⟨grouped, excludes, running⟩, ?_⟩
    intro op outcome dispatch running dispatched
    apply dispatched.excludes valid ⟨grouped, excludes, running⟩
    exact fun left top leaves chosen => meets.2.found given dispatch leaves chosen
  · rintro calls outcome exclusive rfl served
    obtain ⟨s₁, events, top, entered, chosen, ended⟩ := osIsr_cases served
    have same : SamePriorities s s.interrupted := .setTask rfl rfl
    obtain ⟨⟨grouped, excludes⟩, member⟩ := isrEntry_standard
      (fun s => Grouped config (some s.curr) s ∧ Excludes config resource (some s.curr) engaged s)
      (fun ⟨grouped, excludes⟩ member standard served =>
        served.excludes valid grouped excludes member standard)
      ⟨exclusive.grouped.of_priorities (exclusive.grouped.queue.setTask exclusive.member (.inl rfl))
        exclusive.grouped.released same, exclusive.excludes.of_same rfl same⟩
      exclusive.member entered
    obtain ⟨next, watched, rfl⟩ :
        ∃ next, watch (engage config resource) engaged events = some next ∧ next = engaged :=
      isrEntry_keeps (fun _ seen => seen = engaged) rfl (isrMeets_true s.interrupted calls) entered
        fun s call service seen same _ served => ⟨seen, (serveIsr_served served).watch_engage, same⟩
    rcases ended with ⟨-, rfl⟩ | ⟨other, full, rfl⟩
    · have same := resumed_priorities s₁ s₁.curr
      refine ⟨next, watched, .inr ⟨?_, excludes.of_same rfl same, by simp [Kernel.state]⟩⟩
      exact grouped.of_priorities (grouped.queue.setTask member (.inr rfl)) grouped.released same
    · have fits : GroupSwitches config s₁ top := meets.found entered chosen other full
      obtain ⟨-, -, -, argmax⟩ := osTaskGetTop_some chosen
      have away := grouped.suspend fits
      have stopped := excludes.suspend
      have switched : Exclusive config resource (osTaskSwapContextTo config s₁ top).1
          (engagedBy config resource top next) :=
        .seated valid away stopped argmax (.refl s₁) (osTaskSwapContextTo_seated config s₁ top)
          (osTaskSwapContextTo_priorities config s₁ top)
      have preempted : watch (engage config resource) next
          (events ++ [.preempted s₁.curr]) = some next := by
        rw [watch_append, watched]
        rfl
      have follows := Follows.after preempted
        (osTaskSwapContextTo_follows (stopped.alone away argmax) switched)
      rw [append_assoc] at follows
      exact follows

theorem initOs_grouped (valid : config.Valid) (resources : config.ResourcesValid) :
    Grouped config none (initOs config) where
  queue := (initOs_interrupted valid).queue
  owners := fun _ _ _ owned => absurd owned nofun
  released := fun _ _ => rfl
  bounded := resources.prio_le
  bounded_old := fun _ => Nat.zero_le _
  away := fun _ _ member _ => resources.prio_le_internal member
  inside := nofun
  above := fun _ _ _ _ _ owned => absurd owned nofun

theorem osStart_exclusive (valid : config.Valid) (resources : config.ResourcesValid)
    (resource : Nat) :
    Follows (engage config resource) (Exclusive config resource) none (osStart config) := by
  have grouped := initOs_grouped valid resources
  have excludes : Excludes config resource none none (initOs config) :=
    ⟨nofun, nofun, nofun, nofun, nofun⟩
  obtain ⟨-, -, -, argmax⟩ := osTaskGetTop_some (firstTask_top valid)
  have entered : Exclusive config resource
      (osTaskSwapContextTo config (initOs config) (firstTask config)).1
      (engagedBy config resource (firstTask config) none) :=
    .seated resources grouped excludes argmax (.refl _) (osTaskSwapContextTo_seated config _ _)
      (osTaskSwapContextTo_priorities config _ _)
  refine Follows.after (watch_skip fun event listed => ?_)
    (osTaskSwapContextTo_follows (fun _ => .inl rfl) entered)
  obtain ⟨task, -, rfl⟩ := mem_map.mp listed
  rfl

theorem group_exclusion (config : TaskSet) (valid : config.Valid)
    (resources : config.ResourcesValid) (resource : Nat) (steps : List KernelStep)
    (meets : Meets (kernelStep config) (StepExcludes config resource) (osStart config).1 steps) :
    let last := run (kernelStep config) (osStart config).1 steps
    ∃ engaged,
      watch (engage config resource) none ((osStart config).2 ++ last.2) = some engaged ∧
      (last.1.halted = false →
        ((config.task last.1.curr).resourceInt = some resource → engaged = some last.1.curr) ∧
        ∀ task, engaged = some task → task ≠ last.1.curr →
          config.ceilingPriority resource < last.1.activePriority last.1.curr) := by
  intro last
  obtain ⟨engaged, watched, exclusive⟩ := kernelRun_follows meets
    (osStart_exclusive valid resources resource) (Exclusive.stepped resources)
  refine ⟨engaged, watched, fun executes => ?_⟩
  have exclusive : Exclusive config resource last.1 engaged :=
    exclusive.resolve_left (Bool.eq_false_iff.mp executes)
  refine ⟨exclusive.excludes.own last.1.curr rfl, fun task engages other => ?_⟩
  exact exclusive.excludes.higher task last.1.curr engages rfl other.symm

/-- The running task of the group is stopped by an interrupt that activates the other task of the
group and a task above the ceiling. -/
def interruptedRun : List KernelStep :=
  [.interrupt [.activateTask 2, .activateTask 4], .call .terminateTask, .call .terminateTask]

theorem interruptedRun_excludes :
    (run (kernelStep groupTasks) (osStart groupTasks).1 interruptedRun).2 =
      [.activated 2, .returned .eOk, .activated 4, .returned .eOk, .preempted 1, .started 4,
        .ended 4, .resumed 1, .ended 1, .started 2] ∧
    ∃ engaged, watch (engage groupTasks 0) none ((osStart groupTasks).2 ++
      (run (kernelStep groupTasks) (osStart groupTasks).1 interruptedRun).2) =
        some engaged := by
  refine ⟨by decide +kernel, ?_⟩
  obtain ⟨engaged, watched, -⟩ := group_exclusion groupTasks groupTasks_valid
    groupTasks_resourcesValid 0 interruptedRun (by decide +kernel)
  exact ⟨engaged, watched⟩

/-- The running task of the group is preempted by a service, and the other one is activated
meanwhile. -/
def preemptedRun : List KernelStep :=
  [.call (.activateTask 4), .call (.activateTask 2), .call .terminateTask]

/-- The other task of the group starts although the first one has not ended. -/
theorem preempted_group_task_not_alone :
    (run (kernelStep groupTasks) (osStart groupTasks).1 preemptedRun).2 =
      [.activated 4, .preempted 1, .started 4, .activated 2, .returned .eOk, .ended 4, .started 2] ∧
    watch (engage groupTasks 0) none ((osStart groupTasks).2 ++
      (run (kernelStep groupTasks) (osStart groupTasks).1 preemptedRun).2) = none := by
  decide +kernel

end Os
