import ClassicPlatform.Os.Preemption

/-!
# Scheduling order

Among tasks of equal priority the one with the oldest request should come first. A
preempted task counts as oldest of its priority, and a further activation of a task from
the time of its own `ActivateTask`.

`Requests` keeps the times of the requests beside the kernel. Since a task that ends with a
further activation keeps its place in the ready queue, the order is kept in the runs in
which such an activation is not younger than the requests of other ready tasks of the same
priority.
-/
namespace Os

open Function List Machine Nat Option

/-! ## Requests -/

/-- The request for which a task is ready was made at the time of its stamp, or at no time if the
task has had the processor already. -/
inductive Standing
  | idle
  | waiting
  | listed (stamp : Nat)
  deriving DecidableEq

/-- The requests of all tasks; `queued` has the times of further activations. -/
structure Requests where
  clock : Nat
  standing : Nat → Standing
  queued : Nat → List Nat

namespace Requests

def empty : Requests where
  clock := 0
  standing _ := .idle
  queued _ := []

variable (r : Requests) (task : Nat)

def stamp : Nat :=
  match r.standing task with
  | .listed stamp => stamp
  | _ => 0

def stand (standing : Standing) : Requests :=
  { r with standing := update r.standing task standing }

def request : Requests :=
  { r.stand task (.listed (r.clock + 1)) with clock := r.clock + 1 }

def queue : Requests :=
  { r with
    clock := r.clock + 1
    queued := update r.queued task (r.queued task ++ [r.clock + 1]) }

/-- The next activation is up. -/
def finish : Requests :=
  match r.queued task with
  | [] => r.stand task .idle
  | next :: rest =>
    { r.stand task (.listed next) with queued := update r.queued task rest }

end Requests

def note (r : Requests) : KernelEvent → Requests
  | .activated task => if r.standing task = .idle then r.request task else r.queue task
  | .woken task => r.request task
  | .waited task => r.stand task .waiting
  | .ended task => r.finish task
  | .preempted task | .yielded task => r.stand task (.listed 0)
  | _ => r

variable {config : TaskSet} {isr : Bool} {call : KernelCall} {s s' left : Kernel}
variable {task top : Nat} {op : DispatchOp} {r r' : Requests} {served : Nat → Prop}

section Requests

variable (r : Requests) (task : Nat) {other : Nat}

@[simp] theorem stand_standing (standing : Standing) :
    (r.stand task standing).standing task = standing := by
  simp [Requests.stand]

theorem stand_standing_of_ne (standing : Standing) (ne : other ≠ task) :
    (r.stand task standing).standing other = r.standing other := by
  simp [Requests.stand, ne]

theorem stamp_congr (same : r'.standing other = r.standing other) :
    r'.stamp other = r.stamp other := by
  simp [Requests.stamp, same]

theorem stamp_listed {stamp : Nat} (listed : r.standing task = .listed stamp) :
    r.stamp task = stamp := by
  simp [Requests.stamp, listed]

theorem finish_cases :
    (r.queued task = [] ∧ r.finish task = r.stand task .idle) ∨
    ∃ next rest, r.queued task = next :: rest ∧
      r.finish task =
        { r.stand task (.listed next) with queued := update r.queued task rest } := by
  unfold Requests.finish
  cases queued : r.queued task with
  | nil => exact .inl ⟨rfl, rfl⟩
  | cons next rest => exact .inr ⟨next, rest, rfl, rfl⟩

end Requests

/-! ## Order of the ready queue -/

/-- The ready queue is in order for the tasks that have been served and those that have not. -/
structure Sorted (config : TaskSet) (served : Nat → Prop) (s : Kernel) (r : Requests) : Prop where
  queue : QueueHolds s
  stacked : Stacks config s
  listed : ∀ task, task ∈ s.ready ↔ ∃ stamp, r.standing task = .listed stamp
  stamps : ∀ task, r.stamp task ≤ r.clock
  queued : ∀ task, ∀ stamp ∈ r.queued task, 0 < stamp ∧ stamp ≤ r.clock
  ordered : Queue.Ordered s.ready (fun task => (config.task task).prio) s.activePriority served
  fifo : Queue.Fifo s.ready (fun task => (config.task task).prio) r.stamp served

/-- The task had the processor since its request. -/
def Displaced (r : Requests) (task : Nat) : Prop := r.standing task = .listed 0

/-- The task has or had the processor since its request. -/
def HasRun (s : Kernel) (r : Requests) (task : Nat) : Prop := Displaced r task ∨ task = s.curr

/-- The order while the running task has the processor or is interrupted. -/
structure InTurn (config : TaskSet) (s : Kernel) (r : Requests) : Prop where
  sorted : Sorted config (HasRun s r) s r
  member : s.curr ∈ s.ready
  lead : Queue.Lead s.ready (HasRun s r) s.curr
  turn : ∀ task ∈ s.ready, task ≠ s.curr →
    s.activePriority task < (config.task s.curr).prio ∨ r.stamp s.curr ≤ r.stamp task

theorem InTurn.oldest (turn : InTurn config s r) :
    ∀ task ∈ s.ready, task ≠ s.curr → s.activePriority task = s.activePriority s.curr →
      r.stamp s.curr ≤ r.stamp task := by
  intro task member other equal
  have base : (config.task s.curr).prio ≤ s.activePriority s.curr :=
    turn.sorted.ordered.base_le s.curr
  refine (turn.turn task member other).resolve_left fun lower => ?_
  omega

/-- States and activations match the requests. -/
structure Match (t : Task) (standing : Standing) (queued : List Nat) : Prop where
  idle : t.state = .suspended ↔ standing = .idle
  none_queued : standing = .idle → queued = []
  count : t.activations = queued.length + if standing = .idle then 0 else 1

def Matched (s : Kernel) (r : Requests) : Prop :=
  ∀ task, Match (s.tasks task) (r.standing task) (r.queued task)

private theorem Sorted.stood (sorted : Sorted config served s r) (ready : List Nat)
    (others : ∀ other, other ≠ task → r'.standing other = r.standing other ∧
      (other ∈ ready ↔ other ∈ s.ready))
    (own : task ∈ ready ↔ ∃ stamp, r'.standing task = .listed stamp)
    (clock : r.clock ≤ r'.clock) (stamp : r'.stamp task ≤ r'.clock) :
    (∀ other, other ∈ ready ↔ ∃ stamp, r'.standing other = .listed stamp) ∧
      ∀ other, r'.stamp other ≤ r'.clock := by
  refine ⟨fun other => ?_, fun other => ?_⟩
  · by_cases here : other = task
    · exact here ▸ own
    · rw [(others other here).1, (others other here).2]
      exact sorted.listed other
  · by_cases here : other = task
    · exact here ▸ stamp
    · rw [stamp_congr r (others other here).1]
      exact (sorted.stamps other).trans clock

/-! ## Services -/

section

variable (turn : InTurn config s r)
include turn

private theorem InTurn.transport (queue : QueueHolds s')
    (stacked : Stacks config s') (ready : s'.ready = s.ready) (curr : s'.curr = s.curr)
    (others : ∀ task, task ≠ s.curr → s'.activePriority task = s.activePriority task)
    (ordered : Queue.Ordered s.ready (fun task => (config.task task).prio) s'.activePriority
      (HasRun s r)) : InTurn config s' r := by
  have has_run : HasRun s' r = HasRun s r := by
    funext task
    rw [HasRun, HasRun, curr]
  obtain ⟨⟨-, -, listed, stamps, queued, -, fifo⟩, member, lead, turn⟩ := turn
  refine ⟨⟨queue, stacked, ?_, stamps, queued, ?_, ?_⟩, ?_, ?_, ?_⟩
  · rw [ready]
    exact listed
  · rw [ready, has_run]
    exact ordered
  · rw [ready, has_run]
    exact fifo
  · rw [ready, curr]
    exact member
  · rw [ready, curr, has_run]
    exact lead
  · rw [ready, curr]
    intro task is_ready other
    rw [others task other]
    exact turn task is_ready other

theorem InTurn.of_same (queue : QueueHolds s') (ready : s'.ready = s.ready)
    (curr : s'.curr = s.curr) (same : SamePriorities s s') : InTurn config s' r := by
  have active : s'.activePriority = s.activePriority := funext same.active
  refine turn.transport queue (turn.sorted.stacked.of_priorities same) ready curr
    (fun task _ => same.active task) ?_
  rw [active]
  exact turn.sorted.ordered

theorem InTurn.queued (task : Nat) : InTurn config s (r.queue task) := by
  obtain ⟨⟨queue, stacked, listed, stamps, queued, ordered, fifo⟩, member, lead, turn⟩ := turn
  refine ⟨⟨queue, stacked, listed, fun other => (stamps other).trans (le_succ _), ?_, ordered,
    fifo⟩, member, lead, turn⟩
  intro other stamp noted
  by_cases own : other = task
  · subst own
    simp only [Requests.queue, update_self, mem_append, mem_singleton] at noted
    rcases noted with earlier | rfl
    · exact (queued other stamp earlier).imp_right (·.trans (le_succ _))
    · exact ⟨succ_pos _, le_rfl⟩
  · simp only [Requests.queue, update_of_ne own] at noted
    exact (queued other stamp noted).imp_right (·.trans (le_succ _))

end

variable {value : Task} {middle : Kernel}

theorem InTurn.requested (turn : InTurn config s r) (absent : task ∉ s.ready)
    (ready : value.state = .ready) (active : value.activePriority = s.activePriority task)
    (held : value.resources = (s.tasks task).resources) :
    InTurn config (s.enqueue task value) (r.request task) := by
  have sorted := turn.sorted
  obtain ⟨⟨queue, stacked, listed, stamps, queued, ordered, fifo⟩, member, lead, turn⟩ := turn
  have same : SamePriorities s (s.enqueue task value) := .enqueue active held
  have active : (s.enqueue task value).activePriority = s.activePriority := funext same.active
  have other : task ≠ s.curr := by
    rintro rfl
    exact absent member
  have standing : ∀ other, other ≠ task →
      (r.request task).standing other = r.standing other :=
    fun other ne => stand_standing_of_ne r task _ ne
  have own : (r.request task).standing task = .listed (r.clock + 1) := stand_standing r task _
  have stamp_own : (r.request task).stamp task = r.clock + 1 := stamp_listed _ _ own
  have stamp_of_ne : ∀ other, other ≠ task → (r.request task).stamp other = r.stamp other :=
    fun other ne => stamp_congr r (standing other ne)
  obtain ⟨listed', stamp_le⟩ := sorted.stood (s.enqueue task value).ready
    (fun other here => ⟨standing other here, by simp [here]⟩)
    (iff_of_true (by simp [enqueue_ready]) ⟨_, own⟩) (le_succ _) stamp_own.le
  have fresh : ¬ HasRun (s.enqueue task value) (r.request task) task := by
    rintro (listed | curr)
    · rw [Displaced, own] at listed
      exact absurd listed (by simp)
    · exact other curr
  have has_run : ∀ other,
      HasRun (s.enqueue task value) (r.request task) other ↔ HasRun s r other := by
    intro other'
    by_cases here : other' = task
    · subst here
      apply iff_of_false fresh
      rintro (was_listed | curr)
      · exact absent ((listed other').mpr ⟨0, was_listed⟩)
      · exact other curr
    · simp [HasRun, Displaced, standing other' here]
  have served : HasRun (s.enqueue task value) (r.request task) = HasRun s r :=
    funext fun other => propext (has_run other)
  rw [served] at fresh
  refine ⟨⟨queue.enqueue absent ready, stacked.of_priorities same, listed', stamp_le, ?_, ?_, ?_⟩,
    mem_append_left _ member, ?_, ?_⟩
  · exact fun other stamp noted =>
      (queued other stamp noted).imp_right (·.trans (le_succ _))
  · rw [active, served]
    exact ordered.enqueue fresh
  · rw [served]
    refine Queue.enqueue (List.Pairwise.imp_of_mem ?_ fifo) ?_
    · intro a b first second older
      rw [stamp_of_ne a (ne_of_mem_of_not_mem first absent),
        stamp_of_ne b (ne_of_mem_of_not_mem second absent)]
      exact older
    · intro a _ _ _ _
      rw [stamp_own]
      exact stamp_le a
  · rw [served]
    exact Queue.enqueue lead fun _ _ _ => fresh
  · intro other ready not_curr
    rw [active]
    rcases mem_append.mp ready with old | new
    · rw [enqueue_curr, stamp_of_ne _ (Ne.symm ‹task ≠ s.curr›),
        stamp_of_ne other (ne_of_mem_of_not_mem old absent)]
      exact turn other old not_curr
    · right
      rw [mem_singleton.mp new, stamp_own]
      exact stamp_le _

theorem InTurn.changed (valid : config.ResourcesValid) (turn : InTurn config s r)
    (same : SameStates s s') (stacked : Stacks config s')
    (others : ∀ task, task ≠ s.curr → s'.activePriority task = s.activePriority task) :
    InTurn config s' r :=
  turn.transport (turn.sorted.queue.of_same same) stacked same.ready same.curr others
    (turn.sorted.ordered.change turn.lead (.inr rfl) others ((stacked s.curr).prio_le valid))

private theorem queue_others (r : Requests) (task : Nat) :
    ∀ other, other ≠ task → (r.queue task).standing other = r.standing other ∧
      (r.queue task).queued other = r.queued other :=
  fun _ ne => ⟨rfl, update_of_ne ne ..⟩

private theorem queue_queued (r : Requests) (task : Nat) :
    (r.queue task).queued task = r.queued task ++ [r.clock + 1] := update_self ..

section

variable (matched : Matched s r)
include matched

theorem Matched.update
    (others : ∀ other, other ≠ task →
      r'.standing other = r.standing other ∧ r'.queued other = r.queued other)
    (own : Match value (r'.standing task) (r'.queued task)) : Matched (s.setTask task value) r' := by
  apply forall_setTask s task value
    (P := fun other t => Match t (r'.standing other) (r'.queued other))
  · intro other ne
    rw [(others other ne).1, (others other ne).2]
    exact matched other
  · exact own

theorem Matched.setTask (state : value.state = .suspended ↔ s.state task = .suspended)
    (activations : value.activations = (s.tasks task).activations) :
    Matched (s.setTask task value) r := by
  apply matched.update (fun _ _ => ⟨rfl, rfl⟩)
  obtain ⟨idle, none_queued, count⟩ := matched task
  exact ⟨state.trans idle, none_queued, activations.trans count⟩

theorem Matched.of_same (same : SameStates s s') : Matched s' r := by
  intro task
  obtain ⟨idle, none_queued, count⟩ := matched task
  have state : (s'.tasks task).state = (s.tasks task).state := same.state task
  exact ⟨state ▸ idle, none_queued, (same.activations task).trans count⟩

theorem Matched.awake (awake : s.state task ≠ .suspended) :
    r.standing task ≠ .idle ∧ (s.tasks task).activations = (r.queued task).length + 1 := by
  obtain ⟨idle, -, count⟩ := matched task
  have not_idle : r.standing task ≠ .idle := idle.not.mp awake
  rw [if_neg not_idle] at count
  exact ⟨not_idle, count⟩

theorem Matched.queued {count : Nat} (awake : s.state task ≠ .suspended)
    (counts : count = (s.tasks task).activations + 1) :
    Matched (s.setTask task { s.tasks task with activations := count }) (r.queue task) := by
  obtain ⟨not_idle, count'⟩ := matched.awake awake
  have standing : (r.queue task).standing task ≠ .idle := not_idle
  apply matched.update (queue_others r task)
  refine ⟨(matched task).idle, fun is_idle => absurd is_idle not_idle, ?_⟩
  rw [queue_queued, if_neg standing, length_append]
  simp [counts, count']

theorem Matched.stand {standing : Standing} (own : Match value standing (r.queued task)) :
    Matched (s.setTask task value) (r.stand task standing) := by
  apply matched.update (fun _ ne => ⟨stand_standing_of_ne r task _ ne, rfl⟩)
  rw [stand_standing]
  exact own

theorem Matched.requested (ready : value.state = .ready)
    (count : value.activations = (r.queued task).length + 1) :
    Matched (s.enqueue task value) (r.request task) := by
  have stood : Matched (s.setTask task value) (r.stand task (.listed (r.clock + 1))) :=
    matched.stand ⟨by simp [ready], nofun, by simpa using count⟩
  exact stood

end

private theorem foldl_offer (config : TaskSet) (isr : Bool) (s : Kernel) (task : Nat)
    (event : KernelEvent) (op : DispatchOp) (r : Requests) :
    (offer config isr s task event op).events.foldl note r = note r event := by
  unfold offer
  split <;> rfl

theorem TaskServed.inTurn {service : Service} (valid : config.Valid)
    (resources : config.ResourcesValid) (plain : config.NoInternal) (turn : InTurn config s r)
    (matched : Matched s r) (room : RoomToCount s call)
    (served : TaskServed config isr call s service) :
    InTurn config service.state (service.events.foldl note r) ∧
    (service.dispatch = some (.chainTask s.curr) →
      service.state = s ∧ service.events.foldl note r = r.queue s.curr) ∧
    (service.dispatch ≠ some (.chainTask s.curr) →
      Matched service.state (service.events.foldl note r)) := by
  have queue := served.effect.queueHolds turn.sorted.queue
  have stacked := served.stacked resources turn.sorted.stacked (plain.usesStandard call)
  have awake_listed : ∀ {task}, s.state task ≠ .suspended → note r (.activated task) = r.queue task :=
    fun awake => if_neg (matched.awake awake).1
  have idle_listed : ∀ {task}, s.state task = .suspended →
      note r (.activated task) = r.request task ∧ r.queued task = [] := by
    intro task suspended
    have idle := (matched task).idle.mp suspended
    exact ⟨if_pos idle, (matched task).none_queued idle⟩
  cases served with
  | refused | done | terminates | schedules => exact ⟨turn, nofun, fun _ => matched⟩
  | masked | waits =>
    exact ⟨turn.of_same queue rfl rfl (.setTask rfl rfl), nofun,
      fun _ => matched.setTask Iff.rfl rfl⟩
  | queued task called awake fits =>
    rw [foldl_offer, awake_listed awake, offer_state] at *
    refine ⟨(turn.of_same queue rfl rfl (.setTask rfl rfl)).queued task,
      fun chains => absurd chains (offer_dispatch_ne nofun), fun _ => ?_⟩
    exact matched.queued awake (counted_up valid room (.inl called))
  | activated task evSet evWait suspended =>
    obtain ⟨noted, none_queued⟩ := idle_listed suspended
    rw [foldl_offer, noted, offer_state]
    refine ⟨turn.requested (turn.sorted.queue.absent (.inl suspended)) rfl rfl rfl,
      fun chains => absurd chains (offer_dispatch_ne nofun), fun _ => ?_⟩
    exact matched.requested rfl (by simp [none_queued])
  | woken task evSet waits =>
    rw [foldl_offer, offer_state]
    refine ⟨turn.requested (turn.sorted.queue.absent (.inr waits)) rfl rfl rfl,
      fun chains => absurd chains (offer_dispatch_ne nofun), fun _ => ?_⟩
    exact matched.requested rfl (matched.awake (by simp [waits])).2
  | chainsSelf level called free =>
    have running := turn.sorted.queue.awake turn.member
    refine ⟨?_, fun _ => ⟨rfl, awake_listed running⟩, absurd rfl⟩
    rw [foldl_cons, awake_listed running]
    exact turn.queued s.curr
  | chainsQueued level task called other free awake fits =>
    rw [foldl_cons, awake_listed awake]
    refine ⟨(turn.of_same queue rfl rfl (.setTask rfl rfl)).queued task, ?_, fun _ => ?_⟩
    · rintro ⟨⟩
      exact absurd rfl other
    · exact matched.queued awake (counted_up valid room (.inr fits))
  | chainsActivated level task evSet evWait called other free suspended =>
    obtain ⟨noted, none_queued⟩ := idle_listed suspended
    rw [foldl_cons, noted]
    refine ⟨turn.requested (turn.sorted.queue.absent (.inl suspended)) rfl rfl rfl, ?_, fun _ => ?_⟩
    · rintro ⟨⟩
      exact absurd rfl other
    · exact matched.requested rfl (by simp [none_queued])
  | taken level resource =>
    have same := (osTaskResourceAdd_same config s resource s.curr).toSameStates
    refine ⟨turn.changed resources same stacked ?_, nofun, fun _ => matched.of_same same⟩
    intro task other
    exact congrArg Task.activePriority (setTask_tasks_of_ne _ _ _ other)
  | released level resource called access removed
  | releasedTo level resource called access removed =>
    have same := (osTaskResourceRemove_same removed).toSameStates
    refine ⟨turn.changed resources same stacked ?_, nofun, fun _ => matched.of_same same⟩
    exact fun task other =>
      congrArg Task.activePriority ((osTaskResourceRemove_gives removed).others task other)

/-! ## The processor is given away -/

theorem Stacks.restored (plain : config.NoInternal) (stacked : Stacks config s)
    (released : (s.tasks task).resources = []) :
    s.activePriority task = (config.task task).prio := by
  have active := (stacked task).active
  rw [released, basePriority_plain plain] at active
  exact active

section

variable (turn : InTurn config s r)
include turn

private theorem InTurn.departs (queue : QueueHolds left)
    (same : SamePriorities s left) (sublist : left.ready.Sublist s.ready)
    (others : ∀ task, task ≠ s.curr → r'.standing task = r.standing task ∧
      (task ∈ left.ready ↔ task ∈ s.ready))
    (own : s.curr ∈ left.ready ↔ ∃ stamp, r'.standing s.curr = .listed stamp)
    (clock : r'.clock = r.clock) (stamp : r'.stamp s.curr ≤ r.clock)
    (queued : ∀ task, ∀ stamp ∈ r'.queued task, stamp ∈ r.queued task)
    (restored : ¬ Displaced r' s.curr → s.activePriority s.curr = (config.task s.curr).prio)
    (oldest : ¬ Displaced r' s.curr → s.curr ∈ left.ready → ∀ task ∈ s.ready, task ≠ s.curr →
      s.activePriority task = s.activePriority s.curr → r'.stamp s.curr ≤ r.stamp task) :
    Sorted config (Displaced r') left r' := by
  obtain ⟨-, stacked, -, -, bounds, ordered, fifo⟩ := turn.sorted
  obtain ⟨listed, stamps⟩ := turn.sorted.stood left.ready others own clock.ge (clock ▸ stamp)
  have served : ∀ task, task ≠ s.curr → (Displaced r' task ↔ HasRun s r task) := by
    intro task here
    rw [HasRun, or_iff_left here, Displaced, Displaced, (others task here).1]
  refine ⟨queue, stacked.of_priorities same, listed, stamps, ?_, ?_, ?_⟩
  · rw [clock]
    exact fun task stamp noted => bounds task stamp (queued task stamp noted)
  · rw [show left.activePriority = s.activePriority from funext same.active]
    by_cases displaced : Displaced r' s.curr
    · refine (ordered.congr fun task => ?_).sublist sublist
      by_cases here : task = s.curr
      · exact iff_of_true (here ▸ displaced) (.inr here)
      · exact served task here
    · refine ((ordered.leave (restored displaced)).congr fun task => ?_).sublist sublist
      by_cases here : task = s.curr
      · exact iff_of_false (here ▸ displaced) fun run => run.2 here
      · exact (served task here).trans (and_iff_left here).symm
  · apply ((List.Pairwise.and fifo ordered.behind).sublist sublist).imp_of_mem
    rintro a b first second ⟨older, before⟩ fresh fresh' equal
    have base : ∀ task, task ≠ s.curr → ¬ Displaced r' task →
        s.activePriority task = (config.task task).prio :=
      fun task here fresh => ordered.unserved task fun run => fresh ((served task here).mpr run)
    by_cases first_here : a = s.curr
    · by_cases second_here : b = s.curr
      · rw [first_here, second_here]
      · -- the other task is not older than the activation that is up
        subst first_here
        rw [stamp_congr r (others b second_here).1]
        apply oldest fresh first b (sublist.subset second) second_here
        rw [base b second_here fresh', restored fresh]
        exact equal.symm
    · by_cases second_here : b = s.curr
      · -- nothing of equal priority stands before the running task
        subst second_here
        have lower := before (.inr rfl)
        have active := base a first_here fresh
        simp only at equal lower
        omega
      · rw [stamp_congr r (others a first_here).1, stamp_congr r (others b second_here).1]
        exact older ((served a first_here).not.mp fresh) ((served b second_here).not.mp fresh') equal

theorem InTurn.preempted (queue : QueueHolds left)
    (ready : left.ready = s.ready) (same : SamePriorities s left) :
    Sorted config (Displaced (r.stand s.curr (.listed 0))) left (r.stand s.curr (.listed 0)) := by
  have own := stand_standing r s.curr (.listed 0)
  refine turn.departs queue same (ready ▸ .refl _)
    (fun task here => ⟨stand_standing_of_ne r s.curr _ here, by rw [ready]⟩)
    (iff_of_true (ready ▸ turn.member) ⟨0, own⟩) rfl ?_ (fun _ _ => id) (absurd own) (absurd own)
  rw [stamp_listed _ _ own]
  exact zero_le _

theorem InTurn.gone {standing : Standing}
    (restored : s.activePriority s.curr = (config.task s.curr).prio)
    (done : ∀ stamp, standing ≠ .listed stamp)
    (inactive : ¬ (value.state = .ready ∨ value.state = .running))
    (active : value.activePriority = s.activePriority s.curr)
    (held : value.resources = (s.tasks s.curr).resources) :
    Sorted config (Displaced (r.stand s.curr standing)) (s.dequeue s.curr value)
      (r.stand s.curr standing) := by
  have queue := turn.sorted.queue
  have absent : s.curr ∉ (s.dequeue s.curr value).ready := by
    simp [queue.nodup.mem_erase_iff]
  have own := stand_standing r s.curr standing
  refine turn.departs (queue.dequeue inactive) (.dequeue active held) erase_sublist
    (fun task here => ⟨stand_standing_of_ne r s.curr _ here, by
      rw [dequeue_ready, queue.nodup.mem_erase_iff, and_iff_right here]⟩)
    (iff_of_false absent fun listed => done _ (own.symm.trans listed.choose_spec)) rfl ?_
    (fun _ _ => id) (fun _ => restored) fun _ member => absurd member absent
  rw [Requests.stamp, own]
  cases standing with
  | listed stamp => exact absurd rfl (done stamp)
  | _ => exact zero_le _

end

private theorem departure_idle (ends : op.ends) (none_queued : r.queued task = []) :
    note r (op.departure task) = r.stand task .idle := by
  have departs : note r (op.departure task) = r.finish task := by
    cases op <;> first | rfl | cases ends
  rw [departs, Requests.finish, none_queued]

theorem InTurn.renewed {next : Nat} {rest : List Nat} (turn : InTurn config s r)
    (queue : QueueHolds left) (ready : left.ready = s.ready) (same : SamePriorities s left)
    (restored : s.activePriority s.curr = (config.task s.curr).prio)
    (queued : r.queued s.curr = next :: rest) (oldest : ∀ task ∈ s.ready, task ≠ s.curr →
      s.activePriority task = s.activePriority s.curr → next ≤ r.stamp task) :
    Sorted config (Displaced (r.finish s.curr)) left (r.finish s.curr) := by
  have finished : r.finish s.curr =
      { r.stand s.curr (.listed next) with
        queued := update r.queued s.curr rest } := by
    simp [Requests.finish, queued]
  rw [finished]
  have own := stand_standing r s.curr (.listed next)
  have stamp := stamp_listed { r.stand s.curr (.listed next) with
    queued := update r.queued s.curr rest } s.curr own
  refine turn.departs queue same (ready ▸ .refl _)
    (fun task here => ⟨stand_standing_of_ne r s.curr _ here, by rw [ready]⟩)
    (iff_of_true (ready ▸ turn.member) ⟨next, own⟩) rfl ?_ ?_ (fun _ => restored) ?_
  · rw [stamp]
    exact (turn.sorted.queued s.curr next (by simp [queued])).2
  · intro task stamp noted
    by_cases here : task = s.curr
    · subst here
      rw [queued]
      exact mem_cons_of_mem next (by simpa using noted)
    · simpa [here] using noted
  · rw [stamp]
    exact fun _ _ => oldest

theorem Left.sorted (plain : config.NoInternal) (turn : InTurn config s r)
    (running : s.state s.curr = .running) (leaving : Left s op left)
    (released : op = .waitEvent ∨ op.ends → (s.tasks s.curr).resources = [])
    (queued : op.ends → (r.queued s.curr = [] ↔ s.curr ∉ left.ready))
    (oldest : op.ends → s.curr ∈ left.ready → ∀ task ∈ left.ready, task ≠ s.curr →
      left.activePriority task = left.activePriority s.curr →
      (r.queued s.curr).headD 0 ≤ r.stamp task) :
    Sorted config (Displaced (note r (op.departure s.curr))) left
      (note r (op.departure s.curr)) := by
  have queue := leaving.queueHolds turn.sorted.queue running
  have restored : op = .waitEvent ∨ op.ends = true →
      s.activePriority s.curr = (config.task s.curr).prio :=
    fun done => turn.sorted.stacked.restored plain (released done)
  -- a task that stays in the queue after its end has a further activation
  have renewed : op.ends = true → left.ready = s.ready → SamePriorities s left →
      Sorted config (Displaced (r.finish s.curr)) left (r.finish s.curr) := by
    intro ends ready same
    have member : s.curr ∈ left.ready := ready ▸ turn.member
    cases more : r.queued s.curr with
    | nil => exact absurd member ((queued ends).mp more)
    | cons next rest =>
      refine turn.renewed queue ready same (restored (.inr ends)) more fun task is_ready other equal => ?_
      have older := oldest ends member task (ready ▸ is_ready) other
        (by rw [same.active, same.active]; exact equal)
      simpa [more] using older
  cases leaving with
  | readied gives =>
    rcases gives with rfl | rfl | rfl <;> exact turn.preempted queue rfl (.setTask rfl rfl)
  | kept => exact turn.preempted queue rfl (.refl s)
  | waiting => exact turn.gone (restored (.inl rfl)) nofun (by simp) rfl rfl
  | suspended ends other last =>
    have none_queued : r.queued s.curr = [] := by
      apply (queued ends).mpr
      rw [dequeue_ready, turn.sorted.queue.nodup.mem_erase_iff]
      exact fun here => here.1 rfl
    rw [departure_idle ends none_queued]
    exact turn.gone (restored (.inr ends)) nofun (by simp) rfl rfl
  | again | flagged => exact renewed rfl rfl (.setTask rfl rfl)
  | selfChained => exact renewed rfl rfl (.refl s)

theorem Sorted.enter (sorted : Sorted config (Displaced r) left r)
    (chosen : osTaskGetTop left = some top) (same : SameStates left middle)
    (seated : Seated middle top s') (priorities : SamePriorities left s') : InTurn config s' r := by
  obtain ⟨queue, stacked, listed, stamps, queued, ordered, fifo⟩ := sorted
  obtain ⟨member, greatest, -, argmax⟩ := osTaskGetTop_some chosen
  have active : s'.activePriority = left.activePriority := funext priorities.active
  have ready : s'.ready = left.ready := seated.ready.trans same.ready
  have served : HasRun s' r = fun task => Displaced r task ∨ task = top := by
    funext task
    rw [HasRun, seated.curr]
  refine ⟨⟨(queue.of_same same).seated (same.ready ▸ member) seated,
    stacked.of_priorities priorities, ready ▸ listed, stamps, queued, ?_, ?_⟩, ?_, ?_, ?_⟩
  · rw [ready, active, served]
    exact ordered.serve queue.nodup argmax
  · rw [ready]
    refine List.Pairwise.imp ?_ fifo
    intro a b older first second
    exact older (fun run => first (.inl run)) (fun run => second (.inl run))
  · rw [ready, seated.curr]
    exact member
  · rw [ready, served, seated.curr]
    exact (ordered.lead argmax).serve queue.nodup
  · rw [ready, active, seated.curr]
    intro task is_ready other
    by_cases displaced : Displaced r top
    · rw [stamp_listed r top displaced]
      exact .inr (zero_le _)
    · exact ordered.oldest fifo queue.nodup argmax displaced is_ready other

theorem foldl_swapContextTo (config : TaskSet) (s : Kernel) (task : Nat) (r : Requests) :
    (osTaskSwapContextTo config s task).2.foldl note r = r := by
  have entered : osTaskSwapContextTo config s task = (s.seat config task).enter task := rfl
  rw [entered]
  rcases enter_cases (s.seat config task) task with ⟨-, entered⟩ | ⟨-, entered⟩ | ⟨-, entered⟩ |
    ⟨-, entered⟩ <;> rw [entered] <;> rfl

variable {outcome : KernelOutcome}

theorem Dispatched.noted (running : s.state s.curr = .running)
    (dispatched : Dispatched config s op outcome) (r : Requests) :
    outcome.2.foldl note r = note r (op.departure s.curr) ∨
    op.ends = false ∧ outcome.2.foldl note r = r ∧
      ∃ left, osDispatchLeave s op = some left ∧ osTaskGetTop left = some left.curr := by
  cases dispatched with
  | @restarted left leaves chosen =>
    rw [(osDispatchLeave_left running leaves).curr]
    cases ends : op.ends with
    | true => exact .inl rfl
    | false => exact .inr ⟨rfl, rfl, left, leaves, chosen⟩
  | started leaves chosen other released =>
    rw [(releaseInternal_same released).curr, (osDispatchLeave_left running leaves).curr]
    exact .inl rfl
  | swapped leaves chosen other released =>
    rw [(releaseInternal_same released).curr, (osDispatchLeave_left running leaves).curr]
    exact .inl (foldl_swapContextTo _ _ _ _)

/-- A task that waits or ends holds no resource, and a task that ends with a further activation is
still the oldest of its priority then. -/
def GoesInTurn (r : Requests) (left : Kernel) (op : DispatchOp) : Prop :=
  (op = .waitEvent ∨ op.ends = true → (left.tasks left.curr).resources = []) ∧
  (op.ends = true → left.curr ∈ left.ready → ∀ task ∈ left.ready, task ≠ left.curr →
    left.activePriority task = left.activePriority left.curr →
    (r.queued left.curr).headD 0 ≤ r.stamp task)
  deriving Decidable

theorem Dispatched.inTurn (plain : config.NoInternal)
    (turn : InTurn config s r) (running : s.state s.curr = .running)
    (queued : ∀ left, osDispatchLeave s op = some left → op.ends →
      (r.queued s.curr = [] ↔ s.curr ∉ left.ready))
    (goes : ∀ left top, osDispatchLeave s op = some left → osTaskGetTop left = some top →
      GoesInTurn r left op)
    (dispatched : Dispatched config s op outcome) :
    InTurn config outcome.1 (outcome.2.foldl note r) := by
  obtain ⟨left, middle, top, leaves, chosen, same, seated⟩ := dispatched.seated
  obtain ⟨left₂, top₂, leaves₂, -, priorities⟩ := dispatched.plain plain
  obtain rfl := some.inj (leaves.symm.trans leaves₂)
  have leaving := osDispatchLeave_left running leaves
  rcases dispatched.noted running r with noted | ⟨continues, noted, left₃, leaves₃, own⟩
  · rw [noted]
    refine Sorted.enter ?_ chosen same seated priorities
    obtain ⟨released, oldest⟩ := goes left top leaves chosen
    rw [leaving.curr] at released oldest
    refine leaving.sorted plain turn running ?_ (queued left leaves) oldest
    rw [← leaving.priorities.held]
    exact released
  · -- the running task is on top and has not ended
    obtain rfl := some.inj (leaves.symm.trans leaves₃)
    obtain rfl := some.inj (chosen.symm.trans own)
    rw [noted]
    have member := (osTaskGetTop_some chosen).1
    have queue := leaving.queueHolds turn.sorted.queue running
    have ready := leaving.ready_of_member turn.sorted.queue member
    refine turn.of_same ((queue.of_same same).seated (same.ready ▸ member) seated) ?_ ?_
      (leaving.priorities.trans priorities)
    · rw [seated.ready, same.ready, ready]
    · rw [seated.curr, leaving.curr]

/-! ## States and requests at the dispatcher -/

theorem Matched.queued_iff (matched : Matched s r) (running : s.state s.curr = .running)
    (queue : QueueHolds s) (leaving : Left s op left) (chains : op ≠ .chainTask s.curr)
    (ends : op.ends) : r.queued s.curr = [] ↔ s.curr ∉ left.ready := by
  have awake : s.state s.curr ≠ .suspended := by simp [running]
  have count := (matched.awake awake).2
  have member : s.curr ∈ s.ready := (queue.member s.curr).mpr (.inr running)
  cases leaving with
  | readied gives => rcases gives with rfl | rfl | rfl <;> cases ends
  | kept | waiting => cases ends
  | suspended _ _ last =>
    apply iff_of_true (length_eq_zero_iff.mp (by omega))
    rw [dequeue_ready, queue.nodup.mem_erase_iff]
    exact fun here => here.1 rfl
  | again more | flagged other more =>
    refine iff_of_false (fun none_queued => ?_) (not_not_intro member)
    rw [none_queued] at count
    simp only [length_nil] at count
    omega
  | selfChained => exact absurd rfl chains

private theorem finish_others (r : Requests) (task : Nat) :
    ∀ other, other ≠ task → (r.finish task).standing other = r.standing other ∧
      (r.finish task).queued other = r.queued other := by
  intro other ne
  rcases finish_cases r task with ⟨-, finished⟩ | ⟨next, rest, -, finished⟩ <;> rw [finished]
  · exact ⟨stand_standing_of_ne r task _ ne, rfl⟩
  · exact ⟨stand_standing_of_ne r task _ ne, update_of_ne ne ..⟩

theorem finish_match {t : Task} (active : t.state ≠ .suspended)
    (count : t.activations = (r.queued task).length) (pending : 0 < t.activations) :
    Match t ((r.finish task).standing task) ((r.finish task).queued task) := by
  rcases finish_cases r task with ⟨none_queued, -⟩ | ⟨next, rest, queued, finished⟩
  · rw [none_queued] at count
    simp only [length_nil] at count
    omega
  · have standing : (r.finish task).standing task = .listed next := by
      rw [finished]
      exact stand_standing r task _
    have left_over : (r.finish task).queued task = rest := by
      rw [finished]
      exact update_self ..
    rw [standing, left_over]
    refine ⟨by simp [active], nofun, ?_⟩
    rw [queued] at count
    simpa using count

theorem Matched.displaced (matched : Matched s r) (awake : s.state task ≠ .suspended) :
    Matched s (r.stand task (.listed 0)) := by
  have state : (s.tasks task).state ≠ .suspended := awake
  have stood : Matched (s.setTask task (s.tasks task)) (r.stand task (.listed 0)) :=
    matched.stand ⟨by simp [state], nofun, by simpa using (matched.awake awake).2⟩
  rw [Kernel.setTask, update_eq_self] at stood
  exact stood

theorem Left.matched (matched : Matched s r) (running : s.state s.curr = .running)
    (leaving : Left s op left) (chains : op ≠ .chainTask s.curr) :
    Matched left (note r (op.departure s.curr)) := by
  have awake : s.state s.curr ≠ .suspended := by simp [running]
  obtain ⟨-, count⟩ := matched.awake awake
  cases leaving with
  | readied gives =>
    have displaced : Matched (s.setTask s.curr { s.tasks s.curr with state := .ready })
        (r.stand s.curr (.listed 0)) := (matched.displaced awake).setTask (by simp [running]) rfl
    rcases gives with rfl | rfl | rfl <;> exact displaced
  | kept => exact matched.displaced awake
  | waiting =>
    have stood : Matched (s.setTask s.curr { s.tasks s.curr with state := .waitEvent })
        (r.stand s.curr .waiting) :=
      matched.stand ⟨by simp, nofun, by simpa using count⟩
    exact stood
  | suspended ends _ last =>
    have none_queued : r.queued s.curr = [] := length_eq_zero_iff.mp (by omega)
    rw [departure_idle ends none_queued]
    have stood : Matched
        (s.setTask s.curr { s.tasks s.curr with state := .suspended, activations := 0 })
        (r.stand s.curr .idle) :=
      matched.stand (by rw [none_queued]; exact ⟨by simp, fun _ => rfl, rfl⟩)
    exact stood
  | again more =>
    refine matched.update (finish_others r s.curr) (finish_match awake ?_ ?_) <;> simp only <;> omega
  | flagged other more =>
    refine matched.update (finish_others r s.curr) (finish_match (by simp) ?_ ?_) <;>
      simp only <;> omega
  | selfChained => exact absurd rfl chains

theorem Matched.selfChained (matched : Matched s r) (running : s.state s.curr = .running) :
    Matched s ((r.queue s.curr).finish s.curr) := by
  have awake : s.state s.curr ≠ .suspended := by simp [running]
  obtain ⟨-, count⟩ := matched.awake awake
  have updated : Matched (s.setTask s.curr (s.tasks s.curr)) ((r.queue s.curr).finish s.curr) := by
    refine matched.update ?_ (finish_match awake ?_ ?_)
    · intro other ne
      obtain ⟨standing, queued⟩ := finish_others (r.queue s.curr) s.curr other ne
      obtain ⟨standing', queued'⟩ := queue_others r s.curr other ne
      exact ⟨standing.trans standing', queued.trans queued'⟩
    · rw [queue_queued, length_append]
      exact count
    · omega
  rw [Kernel.setTask, update_eq_self] at updated
  exact updated

theorem Matched.seated (matched : Matched left r) (queue : QueueHolds left)
    (member : top ∈ left.ready) (same : SameStates left middle) (seated : Seated middle top s') :
    Matched s' r := by
  intro task
  by_cases own : task = top
  · subst own
    obtain ⟨not_idle, count⟩ := matched.awake (queue.awake member)
    have running : (s'.tasks task).state = .running := seated.running
    refine ⟨by simp [running, not_idle], (matched task).none_queued, ?_⟩
    rw [seated.activations, same.activations, count, if_neg not_idle]
  · rw [seated.others task own]
    exact (matched.of_same same) task

theorem Dispatched.matched (queue : QueueHolds s) (running : s.state s.curr = .running)
    (matched : op.ends = false → Matched s r)
    (departed : ∀ left, osDispatchLeave s op = some left → Matched left (note r (op.departure s.curr)))
    (dispatched : Dispatched config s op outcome) : Matched outcome.1 (outcome.2.foldl note r) := by
  obtain ⟨left, middle, top, leaves, chosen, same, seated⟩ := dispatched.seated
  have leaving := osDispatchLeave_left running leaves
  have left_queue := leaving.queueHolds queue running
  have member := (osTaskGetTop_some chosen).1
  rcases dispatched.noted running r with noted | ⟨continues, noted, left₂, leaves₂, own⟩
  · rw [noted]
    exact (departed left leaves).seated left_queue member same seated
  · obtain rfl := some.inj (leaves.symm.trans leaves₂)
    obtain rfl := some.inj (chosen.symm.trans own)
    rw [noted]
    refine Matched.seated ?_ left_queue member same seated
    have still := matched continues
    cases leaving with
    | kept | selfChained => exact still
    | readied => exact still.setTask (by simp [running]) rfl
    | waiting | suspended =>
      rw [dequeue_ready, queue.nodup.mem_erase_iff] at member
      exact absurd rfl member.1
    | again | flagged => cases continues

/-! ## Start and runs -/

/-- The requests when the dispatcher is called. -/
def requestsAt (config : TaskSet) (s : Kernel) (r : Requests) (call : KernelCall) : Requests :=
  match serveTask config s call with
  | some service => service.events.foldl note r
  | none => r

/-- The activations of a step can be counted, and a task that leaves the processor goes in turn. -/
def StepInTurn (config : TaskSet) (state : Kernel × Requests) : KernelStep → Prop
  | .call call =>
    RoomToCount state.1 call ∧
      DispatchMeets config
        (fun left op _ => GoesInTurn (requestsAt config state.1 state.2 call) left op) state.1 call
  | .interrupt calls =>
    IsrMeets config (fun s call => RoomToCount s call.toCall) state.1.interrupted calls

instance decidableStepInTurn (state : Kernel × Requests) :
    (step : KernelStep) → Decidable (StepInTurn config state step)
  | .call _ => inferInstanceAs (Decidable (_ ∧ _))
  | .interrupt _ => inferInstanceAs (Decidable (IsrMeets _ _ _ _))

/-- The kernel together with the requests. -/
def orderStep (config : TaskSet) (state : Kernel × Requests) (step : KernelStep) :
    (Kernel × Requests) × List KernelEvent :=
  let next := kernelStep config state.1 step
  ((next.1, next.2.foldl note state.2), next.2)

def orderStart (config : TaskSet) : Kernel × Requests :=
  ((osStart config).1, (osStart config).2.foldl note .empty)

def noting (r : Requests) (event : KernelEvent) : Option Requests := some (note r event)

theorem watch_noting (r : Requests) (events : List KernelEvent) :
    watch noting r events = some (events.foldl note r) := by
  induction events generalizing r with
  | nil => rfl
  | cons event rest ih =>
    exact ih (note r event)

/-- What holds while task code executes. -/
structure OrderKept (config : TaskSet) (s : Kernel) (r : Requests) : Prop where
  turn : InTurn config s r
  matched : Matched s r
  running : s.state s.curr = .running

theorem OrderKept.stepped (valid : config.Valid) (resources : config.ResourcesValid)
    (plain : config.NoInternal) {step : KernelStep}
    (kept : s.halted ∨ OrderKept config s r) (meets : StepInTurn config (s, r) step) :
    Follows noting (OrderKept config) r (kernelStep config s step) := by
  apply kernelStep_follows kept
  · rintro call service kept rfl given served
    obtain ⟨turn, chains, matched⟩ :=
      served.inTurn valid resources plain kept.turn kept.matched meets.1
    have running := served.effect.still_running kept.running
    refine ⟨_, watch_noting r service.events, fun returns => ?_, ?_⟩
    · exact ⟨turn, matched (by simp [returns]), running⟩
    · intro op outcome dispatch running dispatched
      have noted : requestsAt config s r call = service.events.foldl note r := by
        simp [requestsAt, given]
      have goes : ∀ left top, osDispatchLeave service.state op = some left →
          osTaskGetTop left = some top → GoesInTurn (service.events.foldl note r) left op := by
        intro left top leaves chosen
        rw [← noted]
        exact meets.2.found given dispatch leaves chosen
      have departed : ∀ left, osDispatchLeave service.state op = some left →
          (op.ends = true → ((service.events.foldl note r).queued service.state.curr = [] ↔
            service.state.curr ∉ left.ready)) ∧
          Matched left (note (service.events.foldl note r) (op.departure service.state.curr)) := by
        intro left leaves
        by_cases own : op = .chainTask s.curr
        · subst own
          obtain ⟨state, queued⟩ := chains dispatch
          simp only [state, osDispatchLeave, if_true, some.injEq] at leaves
          rw [queued, state, queue_queued, ← leaves]
          exact ⟨fun _ => by simp [kept.turn.member], kept.matched.selfChained kept.running⟩
        · have leaving := osDispatchLeave_left running leaves
          have matched := matched (by simp [dispatch, own])
          rw [← served.effect.curr] at own
          exact ⟨matched.queued_iff running turn.sorted.queue leaving own,
            leaving.matched matched running own⟩
      refine ⟨_, watch_noting _ outcome.2, .inr ⟨?_, ?_, dispatched.running⟩⟩
      · exact dispatched.inTurn plain turn running (fun left leaves => (departed left leaves).1) goes
      · refine dispatched.matched turn.sorted.queue running (fun continues => matched fun own => ?_)
          fun left leaves => (departed left leaves).2
        obtain rfl := some.inj (dispatch.symm.trans own)
        cases continues
  · rintro calls outcome kept rfl served
    obtain ⟨s₁, events, top, entered, chosen, ended⟩ := osIsr_cases served
    have interrupted : InTurn config s.interrupted r ∧ Matched s.interrupted r :=
      ⟨kept.turn.of_same (kept.turn.sorted.queue.setTask kept.turn.member (.inl rfl)) rfl rfl
        (.setTask rfl rfl), kept.matched.setTask (by simp [kept.running]) rfl⟩
    obtain ⟨next, watched, turn, matched⟩ := isrEntry_keeps
      (fun s r => InTurn config s r ∧ Matched s r) interrupted meets entered (by
        rintro s call service r ⟨turn, matched⟩ room served
        obtain ⟨turn, -, matched⟩ :=
          (serveIsr_served served).inTurn valid resources plain turn matched room
        refine ⟨_, watch_noting r service.events, turn, matched ?_⟩
        rw [(serveIsr_served served).isr_returns]
        simp)
    rcases ended with ⟨-, rfl⟩ | ⟨other, full, rfl⟩
    · refine ⟨next, watched, .inr ⟨?_, ?_, by simp [Kernel.state]⟩⟩
      · exact turn.of_same (turn.sorted.queue.setTask turn.member (.inr rfl)) rfl rfl
          (.setTask rfl rfl)
      · exact matched.setTask
          (iff_of_false (by simp) (turn.sorted.queue.awake turn.member)) rfl
    · have seated := osTaskSwapContextTo_seated config s₁ top
      have member := (osTaskGetTop_some chosen).1
      have sorted := turn.preempted turn.sorted.queue rfl (.refl s₁)
      refine ⟨next.stand s₁.curr (.listed 0), ?_, .inr ⟨?_, ?_, ?_⟩⟩
      · rw [watch_append, watched, bind_some, watch_noting, foldl_cons, foldl_swapContextTo]
        rfl
      · exact sorted.enter chosen (.refl s₁) seated (osTaskSwapContextTo_plain plain s₁ top)
      · have awake := turn.sorted.queue.awake turn.member
        exact (matched.displaced awake).seated turn.sorted.queue member (.refl s₁) seated
      · rw [seated.curr]
        exact seated.running

theorem foldl_activated {tasks : List Nat} (nodup : tasks.Nodup) :
    let r := (tasks.map .activated).foldl note .empty
    r.clock = tasks.length ∧ (∀ task, r.queued task = []) ∧
    ∀ task, r.standing task =
      if task ∈ tasks then .listed (tasks.idxOf task + 1) else .idle := by
  induction tasks using List.reverseRecOn with
  | nil => exact ⟨rfl, fun _ => rfl, fun _ => rfl⟩
  | append_singleton earlier last ih =>
    obtain ⟨first, -, apart⟩ := nodup_append.mp nodup
    have absent : last ∉ earlier := fun member => apart last member last (by simp) rfl
    obtain ⟨clock, queued, standing⟩ := ih first
    rw [map_append, foldl_append]
    generalize (earlier.map .activated).foldl note .empty = r at clock queued standing
    have noted : ([last].map KernelEvent.activated).foldl note r = r.request last := by
      have idle : r.standing last = .idle := by rw [standing, if_neg absent]
      simp [note, idle]
    rw [noted]
    refine ⟨by simp [Requests.request, clock], queued, fun task => ?_⟩
    by_cases own : task = last
    · subst own
      have listed : (r.request task).standing task = .listed (r.clock + 1) :=
        stand_standing r task _
      rw [listed, idxOf_append_of_notMem absent, clock]
      simp
    · have unchanged : (r.request last).standing task = r.standing task :=
        stand_standing_of_ne r last _ own
      rw [unchanged, standing]
      by_cases member : task ∈ earlier
      · rw [if_pos member, if_pos (mem_append_left _ member), idxOf_append_of_mem member]
      · rw [if_neg member, if_neg (by simp [member, own])]

theorem osStart_foremost (valid : config.Valid) (plain : config.NoInternal) :
    Foremost config (osStart config).1 :=
  .of_seated (initOs_interrupted valid).queue (initOs_stacked config) (firstTask_top valid)
    (.refl _) (osTaskSwapContextTo_plain plain _ _)
    (osTaskSwapContextTo_seated config (initOs config) (firstTask config))

theorem orderStart_kept (valid : config.Valid) (plain : config.NoInternal) :
    OrderKept config (orderStart config).1 (orderStart config).2 := by
  have queue := (initOs_interrupted valid).queue
  obtain ⟨clock, queued, standing⟩ := foldl_activated queue.nodup
  have noted : (orderStart config).2 =
      ((initOs config).ready.map .activated).foldl note .empty := by
    simp [orderStart, osStart, foldl_swapContextTo]
  rw [noted]
  generalize ((initOs config).ready.map .activated).foldl note .empty = r at *
  have listed : ∀ task ∈ (initOs config).ready,
      r.standing task = .listed ((initOs config).ready.idxOf task + 1) := by
    intro task member
    rw [standing, if_pos member]
  have fresh : ∀ task, ¬ Displaced r task := by
    intro task displaced
    rw [Displaced, standing] at displaced
    split at displaced <;> simp at displaced
  have sorted : Sorted config (Displaced r) (initOs config) r := by
    refine ⟨queue, initOs_stacked config, ?_, ?_, ?_, ⟨fun _ => le_rfl, fun _ _ => rfl, ?_⟩, ?_⟩
    · intro task
      rw [standing]
      split
      next member => exact iff_of_true member ⟨_, rfl⟩
      next absent => exact iff_of_false absent (by rintro ⟨_, ⟨⟩⟩)
    · intro task
      by_cases member : task ∈ (initOs config).ready
      · rw [stamp_listed r task (listed task member), clock]
        exact idxOf_lt_length_of_mem member
      · rw [Requests.stamp, standing, if_neg member]
        exact zero_le _
    · intro task stamp member
      rw [queued] at member
      exact absurd member not_mem_nil
    · exact List.Pairwise.imp (fun _ displaced => absurd displaced (fresh _)) queue.nodup
    · refine pairwise_iff_getElem.mpr fun i j low high before _ _ _ => ?_
      rw [stamp_listed r _ (listed _ (getElem_mem low)),
        stamp_listed r _ (listed _ (getElem_mem high)), queue.nodup.idxOf_getElem,
        queue.nodup.idxOf_getElem]
      omega
  have matched : Matched (initOs config) r := by
    intro task
    rw [queued, standing]
    have autostart : task ∈ (initOs config).ready ↔
        task < config.taskCnt ∧ (config.task task).autostart = true := by
      simp [initOs]
    by_cases member : task ∈ (initOs config).ready
    · rw [if_pos member]
      have starts := autostart.mp member
      exact ⟨by simp [initOs, starts], by simp, by simp [initOs, starts]⟩
    · rw [if_neg member]
      have waits := autostart.not.mp member
      exact ⟨by simpa [initOs] using waits, fun _ => rfl, by simpa [initOs] using waits⟩
  have chosen := firstTask_top valid
  have seated := osTaskSwapContextTo_seated config (initOs config) (firstTask config)
  refine ⟨sorted.enter chosen (.refl _) seated (osTaskSwapContextTo_plain plain _ _),
    matched.seated queue (osTaskGetTop_some chosen).1 (.refl _) seated, ?_⟩
  have curr : (orderStart config).1.curr = firstTask config := seated.curr
  rw [curr]
  exact seated.running

theorem orderRun_kept (valid : config.Valid) (resources : config.ResourcesValid)
    (plain : config.NoInternal) {steps : List KernelStep}
    (meets : Meets (orderStep config) (StepInTurn config) (orderStart config) steps) :
    let last := (run (orderStep config) (orderStart config) steps).1
    last.1.halted = true ∨ OrderKept config last.1 last.2 := by
  refine run_invariant (fun state => state.1.halted = true ∨ OrderKept config state.1 state.2)
    (.inr (orderStart_kept valid plain)) meets fun state step kept meets => ?_
  obtain ⟨next, watched, kept⟩ := OrderKept.stepped valid resources plain kept meets
  -- the requests advance by exactly the events of the step
  obtain rfl := some.inj ((watch_noting _ _).symm.trans watched)
  exact kept

theorem scheduling_order (config : TaskSet) (valid : config.Valid)
    (resources : config.ResourcesValid) (plain : config.NoInternal) :
    (∀ steps : List KernelStep,
      let s := (run (kernelStep config) (osStart config).1 steps).1
      s.halted = false → (config.task s.curr).scheduling = .full →
        ∀ task, s.state task = .ready ∨ s.state task = .running →
          s.activePriority task ≤ s.activePriority s.curr) ∧
    (∀ (s : Kernel) (step : KernelStep),
      (config.task s.curr).scheduling = .non → step.givesWay = false →
      ((kernelStep config s step).1.halted = false → (kernelStep config s step).1.curr = s.curr) ∧
        ∀ event ∈ (kernelStep config s step).2, event.switches = false) ∧
    ∀ steps : List KernelStep,
      Meets (orderStep config) (StepInTurn config) (orderStart config) steps →
      let last := (run (orderStep config) (orderStart config) steps).1
      last.1.halted = false →
        ∀ task, last.1.state task = .ready ∨ last.1.state task = .running → task ≠ last.1.curr →
          last.1.activePriority task = last.1.activePriority last.1.curr →
          last.2.stamp last.1.curr ≤ last.2.stamp task := by
  constructor
  · intro steps s executes full task active
    have meets : Meets (kernelStep config) (fun _ _ => True) (osStart config).1 steps :=
      .of_forall fun _ _ => trivial
    have foremost : Foremost config s := kernelRun_invariant meets (osStart_foremost valid plain)
      (fun foremost _ => Foremost.stepped resources plain foremost) executes
    exact foremost.highest full task ((foremost.queue.member task).mpr active)
  constructor
  · intro s step non keeps
    obtain ⟨_, watched, kept⟩ := non_stays non keeps
    exact ⟨fun executes => kept.resolve_left (by simp [executes]), watch_quietly.mp watched⟩
  · intro steps meets last executes task active other equal
    have reached : last.1.halted = true ∨ OrderKept config last.1 last.2 :=
      orderRun_kept valid resources plain meets
    have kept := reached.resolve_left (by simp [executes])
    exact kept.turn.oldest task ((kept.turn.sorted.queue.member task).mpr active) other equal

/-- An idle task, and two tasks of equal priority of which the first one starts. -/
def equalTasks : TaskSet where
  statusExtended := true
  taskCnt := 3
  resourceCnt := 1
  task task :=
    { prio := min task 1
      procType := .basic
      autostart := task ≤ 1
      scheduling := .full
      resourceAccess := 1
      resourceInt := none
      activationLimit := 2 }
  resourceType _ := .standard

theorem equalTasks_valid : equalTasks.Valid :=
  ⟨by simp [equalTasks], fun _ => by simp [equalTasks], fun _ => by simp [equalTasks]⟩

theorem equalTasks_resourcesValid : equalTasks.ResourcesValid :=
  ⟨fun task => (min_le_right task 1).trans (by simp [TaskSet.resSchedulerPrio]),
    fun _ _ member => absurd member nofun⟩

theorem equalTasks_noInternal : equalTasks.NoInternal := ⟨fun _ => rfl, fun _ => nofun⟩

/-- The first task is activated again before the second one. -/
def inTurnRun : List KernelStep :=
  [.call (.activateTask 1), .call (.activateTask 2), .call .terminateTask]

theorem inTurnRun_oldest :
    (run (orderStep equalTasks) (orderStart equalTasks) inTurnRun).1.1.curr = 1 ∧
    (run (orderStep equalTasks) (orderStart equalTasks) inTurnRun).1.2.stamp 1 ≤
      (run (orderStep equalTasks) (orderStart equalTasks) inTurnRun).1.2.stamp 2 := by
  refine ⟨by decide +kernel, ?_⟩
  exact (scheduling_order equalTasks equalTasks_valid equalTasks_resourcesValid
    equalTasks_noInternal).2.2 inTurnRun (by decide +kernel) (by decide +kernel) 2 (by decide +kernel)
      (by decide +kernel) (by decide +kernel)

/-- The first task is activated again after the second one. -/
def outOfTurnRun : List KernelStep :=
  [.call (.activateTask 2), .call (.activateTask 1), .call .terminateTask]

/-- The second instance of the first task is started before the older request. -/
theorem younger_activation_first :
    let last := (run (orderStep equalTasks) (orderStart equalTasks) outOfTurnRun).1
    (run (orderStep equalTasks) (orderStart equalTasks) outOfTurnRun).2 =
      [.activated 2, .returned .eOk, .activated 1, .returned .eOk, .ended 1, .started 1] ∧
    last.1.halted = false ∧ last.1.curr = 1 ∧ last.1.state 2 = .ready ∧
    last.1.activePriority 2 = last.1.activePriority 1 ∧ last.2.stamp 2 < last.2.stamp 1 := by
  decide +kernel

end Os
