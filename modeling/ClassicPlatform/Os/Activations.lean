import ClassicPlatform.Os.TaskStates
import Mathlib.Data.List.Nodup

/-!
# Activations and executions

Every accepted activation of a task should lead to one execution of the task from its entry
point, and an instance that has been started should go on where it was left until it ends.

`Os_Dispatch` decides from `reactivation`, and from whether the top task is the running one,
whether a task is restarted or resumed. The accounts are kept in the runs in which a task
that ends with another task on top of it has either no further activation or is marked for
a restart, in which no other task than an ending one makes room for a marked task, and in
which the running task is on top only when it ends.
-/
namespace Os

open List Machine Nat

/-- Accepted activations of a task, its instances that were started and those that have ended. -/
structure Entry where
  accepted : Nat
  started : Nat
  ended : Nat
  deriving DecidableEq

/-- The activations for which no instance has been started yet. -/
def Entry.pending (entry : Entry) (t : Task) : Nat := t.activations - (entry.started - entry.ended)

def Book : Type := Nat → Entry

namespace Book

def empty : Book := fun _ => { accepted := 0, started := 0, ended := 0 }

def accept (book : Book) (task : Nat) : Book :=
  Function.update book task { book task with accepted := (book task).accepted + 1 }

def start (book : Book) (task : Nat) : Book :=
  Function.update book task { book task with started := (book task).started + 1 }

def finish (book : Book) (task : Nat) : Book :=
  Function.update book task { book task with ended := (book task).ended + 1 }

variable (book : Book) (task : Nat)

theorem accept_self :
    book.accept task task = { book task with accepted := (book task).accepted + 1 } :=
  Function.update_self ..

variable {other : Nat}

theorem accept_of_ne (ne : other ≠ task) : book.accept task other = book other :=
  Function.update_of_ne ne ..

theorem accept_progress (other : Nat) :
    (book.accept task other).started = (book other).started ∧
      (book.accept task other).ended = (book other).ended := by
  by_cases own : other = task
  · subst own
    simp [accept_self]
  · simp [accept_of_ne book task own]

theorem start_self : book.start task task = { book task with started := (book task).started + 1 } :=
  Function.update_self ..

theorem start_of_ne (ne : other ≠ task) : book.start task other = book other :=
  Function.update_of_ne ne ..

theorem finish_self : book.finish task task = { book task with ended := (book task).ended + 1 } :=
  Function.update_self ..

theorem finish_of_ne (ne : other ≠ task) : book.finish task other = book other :=
  Function.update_of_ne ne ..

end Book

/-- Gives up when an instance is started before the previous one has ended, when a task goes
on that has no instance, and when a task without a usable context gets the processor. -/
def account (book : Book) : KernelEvent → Option Book
  | .activated task => some (book.accept task)
  | .started task =>
    if (book task).started = (book task).ended then some (book.start task) else none
  | .resumed task => if (book task).started = (book task).ended + 1 then some book else none
  | .ended task =>
    if (book task).started = (book task).ended + 1 then some (book.finish task) else none
  | .deadEnd _ | .lost _ => none
  | _ => some book

variable {config : TaskSet} {isr : Bool} {call : KernelCall} {s s' s₁ : Kernel}
variable {task top : Nat} {book : Book} {op : DispatchOp} {executes : Bool}

/-! ## The life of a task -/

/-- How far a task has come; `runs` says that it has the processor. -/
inductive Phase (runs : Prop) (entry : Entry) (t : Task) : Prop
  | asleep (idle : t.activations = 0) (done : entry.started = entry.ended)
      (unmarked : t.reactivation = false)
  | fresh (pending : 0 < t.activations) (outside : ¬ runs) (done : entry.started = entry.ended)
      (begins : t.reactivation = true ∨ t.reactivation = false ∧ t.context = .start)
  | alive (pending : 0 < t.activations) (unfinished : entry.started = entry.ended + 1)
      (unmarked : t.reactivation = false) (goes : runs ∨ t.context.resumes = true)

structure Booked (runs : Prop) (entry : Entry) (t : Task) : Prop where
  accepted : entry.accepted = entry.ended + t.activations
  phase : Phase runs entry t

variable {entry : Entry} {runs : Prop} {t t' : Task}

theorem Booked.congr {runs' : Prop} (booked : Booked runs entry t) (same : runs' ↔ runs)
    (activations : t'.activations = t.activations) (reactivation : t'.reactivation = t.reactivation)
    (context : t'.context = t.context) : Booked runs' entry t' := by
  obtain ⟨accepted, phase⟩ := booked
  refine ⟨by rw [activations]; exact accepted, ?_⟩
  cases phase with
  | asleep idle done unmarked =>
    exact .asleep (activations.trans idle) done (reactivation.trans unmarked)
  | fresh pending outside done begins =>
    refine .fresh (activations ▸ pending) (same.not.mpr outside) done ?_
    rw [reactivation, context]
    exact begins
  | alive pending unfinished unmarked goes =>
    refine .alive (activations ▸ pending) unfinished (reactivation.trans unmarked) ?_
    rw [same, context]
    exact goes

theorem Booked.balance (booked : Booked runs entry t) :
    entry.ended ≤ entry.started ∧ entry.started ≤ entry.ended + 1 ∧
      entry.started + entry.pending t = entry.accepted := by
  obtain ⟨accepted, phase⟩ := booked
  unfold Entry.pending
  cases phase with
  | asleep idle done | fresh pending _ done | alive pending unfinished => omega

/-- The book is up to date; `executes` says that task code executes, no service routine. -/
structure Ledger (config : TaskSet) (executes : Bool) (s : Kernel) (book : Book) : Prop where
  queue : QueueHolds s
  counted : Counted config s
  member : executes = true → s.curr ∈ s.ready
  booked : ∀ task, Booked (executes = true ∧ task = s.curr) (book task) (s.tasks task)

/-! ## Services -/

theorem Ledger.of_same (ledger : Ledger config executes s book) (same : SameTasks s s') :
    Ledger config executes s' book where
  queue := ledger.queue.of_same same.toSameStates
  counted := ledger.counted.of_same same.toSameStates
  member := by
    rw [same.curr, same.ready]
    exact ledger.member
  booked task := by
    apply (ledger.booked task).congr
    · rw [same.curr]
    · exact same.activations task
    · exact same.reactivation task
    · exact same.context task

theorem Booked.accept {count : Nat} (booked : Booked runs entry t) (pending : 0 < t.activations)
    (counts : count = t.activations + 1) :
    Booked runs { entry with accepted := entry.accepted + 1 } { t with activations := count } := by
  subst counts
  obtain ⟨accepted, phase⟩ := booked
  refine ⟨by simp only; omega, ?_⟩
  cases phase with
  | asleep idle => omega
  | fresh pending outside done begins => exact .fresh (succ_pos _) outside done begins
  | alive pending unfinished unmarked goes =>
    exact .alive (succ_pos _) unfinished unmarked goes

theorem Booked.activate (booked : Booked runs entry t)
    (outside : ¬ runs) (idle : t.activations = 0) (one : t'.activations = 1)
    (reactivation : t'.reactivation = t.reactivation) (context : t'.context = .start) :
    Booked runs { entry with accepted := entry.accepted + 1 } t' := by
  obtain ⟨accepted, phase⟩ := booked
  refine ⟨by simp only; omega, ?_⟩
  cases phase with
  | asleep _ done unmarked =>
    exact .fresh (by omega) outside done (.inr ⟨reactivation.trans unmarked, context⟩)
  | fresh pending | alive pending => omega

theorem Ledger.accepted {value : Task} (ledger : Ledger config executes s book)
    (own : Booked (executes ∧ task = s.curr)
      { book task with accepted := (book task).accepted + 1 } value) :
    ∀ other, Booked (executes ∧ other = s.curr) (book.accept task other)
      ((s.setTask task value).tasks other) := by
  apply forall_setTask s task value
    (P := fun other t => Booked (executes = true ∧ other = s.curr) (book.accept task other) t)
  · intro other ne
    rw [Book.accept_of_ne book task ne]
    exact ledger.booked other
  · rw [Book.accept_self]
    exact own

section

variable (valid : config.Valid) (ledger : Ledger config executes s book)
include valid ledger

theorem Ledger.queued
    (room : RoomToCount s call) (awake : s.state task ≠ .suspended)
    (fits : ((s.tasks task).activations + 1) % 2 ^ 8 ≤ (config.task task).activationLimit)
    (counts : call = .activateTask task ∨
      (s.tasks task).activations + 1 ≤ (config.task task).activationLimit) :
    Ledger config executes
      (s.setTask task { s.tasks task with activations := ((s.tasks task).activations + 1) % 2 ^ 8 })
      (book.accept task) := by
  have effect : Effect config call s _ := .queued task awake fits counts
  refine ⟨effect.queueHolds ledger.queue, effect.counted valid ledger.counted room, ledger.member,
    ledger.accepted ?_⟩
  apply (ledger.booked task).accept (ledger.counted.awake awake)
  exact counted_up valid room counts

theorem Ledger.readied {value : Task} (suspended : s.state task = .suspended)
    (ready : value.state = .ready) (one : value.activations = 1) (context : value.context = .start)
    (reactivation : value.reactivation = (s.tasks task).reactivation) :
    Ledger config executes (s.enqueue task value) (book.accept task) := by
  have idle : (s.tasks task).activations = 0 := (ledger.counted task).suspended.mp suspended
  refine ⟨ledger.queue.enqueue (ledger.queue.absent (.inl suspended)) ready,
    ledger.counted.readied valid ready (.inl ⟨suspended, one⟩),
    fun on => mem_append_left _ (ledger.member on), ledger.accepted ?_⟩
  apply (ledger.booked task).activate _ idle one reactivation context
  -- the running task has an activation
  rintro ⟨on, rfl⟩
  have pending := ledger.counted.ready ledger.queue (ledger.member on)
  omega

theorem Ledger.woken {evSet : EventMask} (waits : s.state task = .waitEvent) :
    Ledger config executes (s.enqueue task { s.tasks task with evSet, state := .ready }) book := by
  refine ⟨ledger.queue.enqueue (ledger.queue.absent (.inr waits)) rfl,
    ledger.counted.readied valid rfl (.inr ⟨waits, rfl⟩),
    fun on => mem_append_left _ (ledger.member on), ?_⟩
  apply forall_setTask s task _
    (P := fun other t => Booked (executes = true ∧ other = s.curr) (book other) t)
  · exact fun other _ => ledger.booked other
  · exact (ledger.booked task).congr Iff.rfl rfl rfl rfl

end

private theorem account_returned (book : Book) (status : StatusType) :
    account book (.returned status) = some book := rfl

variable {service : Service}

theorem TaskServed.booked (valid : config.Valid) (ledger : Ledger config executes s book)
    (room : RoomToCount s call) (served : TaskServed config isr call s service) :
    ∃ next, watch account book service.events = some next ∧
      (∀ task, (next task).started = (book task).started ∧
        (next task).ended = (book task).ended) ∧
      (service.dispatch = some (.chainTask s.curr) →
        service.state = s ∧ next = book.accept s.curr) ∧
      (service.dispatch ≠ some (.chainTask s.curr) →
        Ledger config executes service.state next) := by
  have unchanged : ∀ task, (book task).started = (book task).started ∧
      (book task).ended = (book task).ended := fun _ => ⟨rfl, rfl⟩
  cases served with
  | refused | done | terminates | schedules =>
    exact ⟨book, rfl, unchanged, nofun, fun _ => ledger⟩
  | masked | waits =>
    exact ⟨book, rfl, unchanged, nofun, fun _ => ledger.of_same (.setTask rfl rfl rfl rfl)⟩
  | queued task called awake fits =>
    refine ⟨book.accept task, watch_offer account_returned .., book.accept_progress task,
      fun chains => absurd chains (offer_dispatch_ne nofun), fun _ => ?_⟩
    rw [offer_state]
    exact ledger.queued valid room awake fits (.inl called)
  | activated task evSet evWait suspended =>
    refine ⟨book.accept task, watch_offer account_returned .., book.accept_progress task,
      fun chains => absurd chains (offer_dispatch_ne nofun), fun _ => ?_⟩
    rw [offer_state]
    exact ledger.readied valid suspended rfl rfl rfl rfl
  | woken task evSet waits =>
    refine ⟨book, watch_offer account_returned .., unchanged,
      fun chains => absurd chains (offer_dispatch_ne nofun), fun _ => ?_⟩
    rw [offer_state]
    exact ledger.woken valid waits
  | chainsSelf =>
    exact ⟨book.accept s.curr, rfl, book.accept_progress s.curr, fun _ => ⟨rfl, rfl⟩,
      absurd rfl⟩
  | chainsQueued level task called other free awake fits =>
    refine ⟨book.accept task, rfl, book.accept_progress task, ?_, fun _ => ?_⟩
    · rintro ⟨⟩
      exact absurd rfl other
    · exact ledger.queued valid room awake ((mod_le _ _).trans fits) (.inr fits)
  | chainsActivated level task evSet evWait called other free suspended =>
    refine ⟨book.accept task, rfl, book.accept_progress task, ?_, fun _ => ?_⟩
    · rintro ⟨⟩
      exact absurd rfl other
    · exact ledger.readied valid suspended rfl rfl rfl rfl
  | taken level resource =>
    exact ⟨book, rfl, unchanged, nofun, fun _ => ledger.of_same (osTaskResourceAdd_same ..)⟩
  | released level resource called access removed
  | releasedTo level resource called access removed =>
    exact ⟨book, rfl, unchanged, nofun, fun _ => ledger.of_same (osTaskResourceRemove_same removed)⟩

/-! ## The processor is given away -/

theorem Ledger.alive (ledger : Ledger config true s book) :
    (book s.curr).started = (book s.curr).ended + 1 ∧ (s.tasks s.curr).reactivation = false ∧
      0 < (s.tasks s.curr).activations := by
  have pending := ledger.counted.ready ledger.queue (ledger.member rfl)
  cases (ledger.booked s.curr).phase with
  | asleep idle => omega
  | fresh _ outside => exact absurd ⟨rfl, rfl⟩ outside
  | alive _ unfinished unmarked => exact ⟨unfinished, unmarked, pending⟩

/-- The running task has been left; what becomes of it is still open. -/
structure Departed (config : TaskSet) (op : DispatchOp) (left : Kernel) (book : Book) : Prop where
  queue : QueueHolds left
  counted : Counted config left
  others : ∀ task, task ≠ left.curr → Booked False (book task) (left.tasks task)
  accepted : (book left.curr).accepted =
    (book left.curr).ended + (left.tasks left.curr).activations
  unfinished : op.ends = false → (book left.curr).started = (book left.curr).ended + 1 ∧
    (left.tasks left.curr).reactivation = false ∧ 0 < (left.tasks left.curr).activations
  done : op.ends = true → (book left.curr).started = (book left.curr).ended ∧
    ((left.tasks left.curr).activations = 0 → (left.tasks left.curr).reactivation = false)

private theorem account_departure (unfinished : (book task).started = (book task).ended + 1) :
    account book (op.departure task) = some (if op.ends then book.finish task else book) := by
  cases op <;> simp [account, DispatchOp.departure, DispatchOp.ends, unfinished]

theorem Left.departed (ledger : Ledger config true s book) (running : s.state s.curr = .running)
    (left : Left s op s₁) (chains : op ≠ .chainTask s.curr) :
    ∃ next, account book (op.departure s.curr) = some next ∧ Departed config op s₁ next := by
  obtain ⟨unfinished, unmarked, pending⟩ := ledger.alive
  have accepted := (ledger.booked s.curr).accepted
  have others : ∀ task, task ≠ s.curr →
      Booked False ((if op.ends then book.finish s.curr else book) task) (s₁.tasks task) := by
    intro task ne
    rw [left.others ne]
    have booked : Booked False (book task) (s.tasks task) :=
      (ledger.booked task).congr (by simp [ne]) rfl rfl rfl
    split
    · rw [Book.finish_of_ne book s.curr ne]
      exact booked
    · exact booked
  have own : ∀ next, next = (if op.ends then book.finish s.curr else book) →
      (next s.curr).accepted = (next s.curr).ended + (s₁.tasks s.curr).activations ∧
      (op.ends = false → (next s.curr).started = (next s.curr).ended + 1 ∧
        (s₁.tasks s.curr).reactivation = false ∧ 0 < (s₁.tasks s.curr).activations) ∧
      (op.ends = true → (next s.curr).started = (next s.curr).ended ∧
        ((s₁.tasks s.curr).activations = 0 → (s₁.tasks s.curr).reactivation = false)) := by
    rintro next rfl
    cases left with
    | readied gives =>
      rcases gives with rfl | rfl | rfl <;>
        simp [DispatchOp.ends, accepted, unfinished, unmarked, pending]
    | kept | waiting => simp [DispatchOp.ends, accepted, unfinished, unmarked, pending]
    | suspended ends _ last =>
      simp [ends, Book.finish_self, accepted, unfinished, unmarked, last]
    | again more =>
      refine ⟨?_, by rintro ⟨⟩, fun _ => ?_⟩
      · simp only [DispatchOp.ends, ↓reduceIte, Book.finish_self, setTask_tasks]
        omega
      · simp [DispatchOp.ends, Book.finish_self, unfinished, unmarked]
    | flagged other more =>
      refine ⟨?_, by rintro ⟨⟩, fun _ => ?_⟩
      · simp only [DispatchOp.ends, ↓reduceIte, Book.finish_self, setTask_tasks]
        omega
      · simp only [DispatchOp.ends, ↓reduceIte, Book.finish_self, setTask_tasks]
        omega
    | selfChained => exact absurd rfl chains
  obtain ⟨accepted, kept, done⟩ := own _ rfl
  exact ⟨_, account_departure unfinished, left.queueHolds ledger.queue running,
    left.counted ledger.counted running, left.curr ▸ others, left.curr ▸ accepted,
    left.curr ▸ kept, left.curr ▸ done⟩

theorem Ledger.selfChained (ledger : Ledger config true s book) :
    ∃ next,
      account (book.accept s.curr) ((DispatchOp.chainTask s.curr).departure s.curr) = some next ∧
      Departed config (.chainTask s.curr) s next := by
  obtain ⟨unfinished, unmarked, pending⟩ := ledger.alive
  have accepted := (ledger.booked s.curr).accepted
  refine ⟨(book.accept s.curr).finish s.curr, ?_, ledger.queue, ledger.counted, ?_, ?_, nofun, ?_⟩
  · simp [account, DispatchOp.departure, Book.accept_self, unfinished]
  · intro task ne
    rw [Book.finish_of_ne _ _ ne, Book.accept_of_ne _ _ ne]
    exact (ledger.booked task).congr (by simp [ne]) rfl rfl rfl
  · simp only [Book.finish_self, Book.accept_self]
    omega
  · simp [Book.finish_self, Book.accept_self, unfinished, unmarked]

/-- What the dispatcher finds lets every instance go on or end: the running task is on top only
if it ends without a mark; otherwise it does not end with a further activation except for a
chained task, and makes room for a marked task only if it ends. -/
def KeepsInstances (left : Kernel) (op : DispatchOp) (top : Nat) : Prop :=
  (top = left.curr → op.ends = true ∧ (left.tasks top).reactivation = false) ∧
  (top ≠ left.curr →
    op ≠ .chainTask left.curr ∧
    (op = .terminateTask → (left.tasks left.curr).activations = 0) ∧
    ((left.tasks top).reactivation = true → op.ends = true))
  deriving Decidable

theorem Left.gone (left : Left s op s₁) (chains : op ≠ .chainTask s₁.curr)
    (last : op = .terminateTask → (s₁.tasks s₁.curr).activations = 0) (ends : op.ends) :
    (s₁.tasks s₁.curr).activations = 0 ∨ (s₁.tasks s₁.curr).reactivation = true := by
  cases left with
  | readied gives => rcases gives with rfl | rfl | rfl <;> cases ends
  | kept | waiting => cases ends
  | suspended => exact .inl (by simp)
  | again => exact .inl (last rfl)
  | flagged => exact .inr (by simp)
  | selfChained => exact absurd rfl chains

theorem Departed.booked {left : Kernel} (departed : Departed config op left book)
    (gone : op.ends →
      (left.tasks left.curr).activations = 0 ∨ (left.tasks left.curr).reactivation)
    (activations : t.activations = (left.tasks left.curr).activations)
    (reactivation : t.reactivation = (left.tasks left.curr).reactivation)
    (resumes : op.ends = false → t.context.resumes) :
    Booked False (book left.curr) t := by
  refine ⟨activations ▸ departed.accepted, ?_⟩
  cases ends : op.ends with
  | false =>
    obtain ⟨unfinished, unmarked, pending⟩ := departed.unfinished ends
    exact .alive (activations ▸ pending) unfinished (reactivation.trans unmarked)
      (.inr (resumes ends))
  | true =>
    obtain ⟨done, unmarked⟩ := departed.done ends
    rcases Nat.eq_zero_or_pos (left.tasks left.curr).activations with idle | pending
    · exact .asleep (activations.trans idle) done (reactivation.trans (unmarked idle))
    · have marked := (gone ends).resolve_left (by omega)
      exact .fresh (activations ▸ pending) not_false done (.inl (reactivation.trans marked))

theorem Ledger.of_seated (queue : QueueHolds s) (counted : Counted config s)
    (member : top ∈ s.ready) (others : ∀ task, task ≠ top → Booked False (book task) (s.tasks task))
    (accepted : (book top).accepted = (book top).ended + (s.tasks top).activations)
    (unfinished : (book top).started = (book top).ended + 1)
    (unmarked : (s.tasks top).reactivation = false) (seated : Seated s top s') :
    Ledger config true s' book where
  queue := queue.seated member seated
  counted := counted.seated queue member seated
  member _ := by
    rw [seated.ready, seated.curr]
    exact member
  booked task := by
    rw [seated.curr]
    by_cases own : task = top
    · subst own
      refine ⟨seated.activations ▸ accepted, .alive ?_ unfinished ?_ (.inl ⟨rfl, rfl⟩)⟩
      · rw [seated.activations]
        exact counted.ready queue member
      · exact seated.reactivation.trans unmarked
    · rw [seated.others task own]
      exact (others task own).congr (by simp [own]) rfl rfl rfl

variable {outcome : KernelOutcome}

theorem Follows.started (queue : QueueHolds s) (counted : Counted config s) (member : top ∈ s.ready)
    (others : ∀ task, task ≠ top → Booked False (book task) (s.tasks task))
    (accepted : (book top).accepted = (book top).ended + (s.tasks top).activations)
    (done : (book top).started = (book top).ended) (unmarked : (s.tasks top).reactivation = false)
    (seated : Seated s top outcome.1) (starts : outcome.2 = [.started top]) :
    Follows account (Ledger config true) book outcome := by
  refine ⟨book.start top, by simp [starts, account, done], .inr ?_⟩
  apply Ledger.of_seated queue counted member _ _ _ unmarked seated
  · intro task ne
    rw [Book.start_of_ne book top ne]
    exact others task ne
  · rw [Book.start_self]
    exact accepted
  · rw [Book.start_self]
    simp [done]

theorem Ledger.swapTo (ledger : Ledger config false s book) (member : top ∈ s.ready)
    (unmarked : (s.tasks top).reactivation = false) :
    Follows account (Ledger config true) book (osTaskSwapContextTo config s top) := by
  have pending := ledger.counted.ready ledger.queue member
  have seated := osTaskSwapContextTo_seated config s top
  have booked := ledger.booked top
  have others : ∀ task, task ≠ top → Booked False (book task) (s.tasks task) :=
    fun task _ => (ledger.booked task).congr (by simp) rfl rfl rfl
  obtain ⟨starts, resumes⟩ := osTaskSwapContextTo_events config s top
  cases booked.phase with
  | asleep idle => omega
  | fresh _ _ done begins =>
    have context := (begins.resolve_left (by simp [unmarked])).2
    exact .started ledger.queue ledger.counted member others booked.accepted done unmarked seated
      (starts context)
  | alive _ unfinished _ goes =>
    have context := goes.resolve_left (by simp)
    refine ⟨book, ?_, .inr ?_⟩
    · rw [resumes context]
      simp [account, unfinished]
    · exact .of_seated ledger.queue ledger.counted member others booked.accepted unfinished unmarked
        seated

section

variable {left : Kernel} (departed : Departed config op left book)
include departed

theorem Departed.of_same {left' : Kernel}
    (same : SameTasks left left') : Departed config op left' book where
  queue := departed.queue.of_same same.toSameStates
  counted := departed.counted.of_same same.toSameStates
  others task ne := by
    rw [same.curr] at ne
    exact (departed.others task ne).congr Iff.rfl (same.activations task) (same.reactivation task)
      (same.context task)
  accepted := by
    rw [same.curr, same.activations]
    exact departed.accepted
  unfinished := by
    rw [same.curr, same.activations, same.reactivation]
    exact departed.unfinished
  done := by
    rw [same.curr, same.activations, same.reactivation]
    exact departed.done

section

variable
  (gone : op.ends = true → (left.tasks left.curr).activations = 0 ∨ (left.tasks left.curr).reactivation = true)

include gone

theorem Departed.starts (ends : op.ends) (member : top ∈ left.ready) (other : top ≠ left.curr)
    (marked : (left.tasks top).reactivation) :
    Follows account (Ledger config true) book
      (osTaskStartFromBeginning
        (left.setTask top { left.tasks top with reactivation := false }) top) := by
  have same : SameStates left (left.setTask top { left.tasks top with reactivation := false }) :=
    .setTask rfl rfl
  have booked := departed.others top other
  have done : (book top).started = (book top).ended := by
    cases booked.phase with
    | asleep _ done | fresh _ _ done => exact done
    | alive _ _ unmarked => cases marked.symm.trans unmarked
  refine .started (departed.queue.of_same same) (departed.counted.of_same same) member ?_ ?_ done
    (by simp) (osTaskStartFromBeginning_seated _ top) rfl
  · intro task ne
    rw [setTask_tasks_of_ne _ _ _ ne]
    by_cases own : task = left.curr
    · subst own
      exact departed.booked gone rfl rfl fun goes => absurd (ends.symm.trans goes) nofun
    · exact departed.others task own
  · simpa using booked.accepted

theorem Departed.swaps (member : top ∈ left.ready) (other : top ≠ left.curr)
    (unmarked : (left.tasks top).reactivation = false) :
    Follows account (Ledger config true) book (osTaskSwapContext config left op top) := by
  have same : SameStates left
      (left.setTask left.curr { left.tasks left.curr with context := .saved op }) :=
    .setTask rfl rfl
  have ledger : Ledger config false
      (left.setTask left.curr { left.tasks left.curr with context := .saved op }) book := by
    refine ⟨departed.queue.of_same same, departed.counted.of_same same, nofun, ?_⟩
    apply forall_setTask left left.curr _
      (P := fun task t => Booked (false = true ∧ task = left.curr) (book task) t)
    · intro task ne
      exact (departed.others task ne).congr (by simp) rfl rfl rfl
    · have booked := departed.booked
        (t := { left.tasks left.curr with context := .saved op }) gone rfl rfl
        fun goes => by simp [Context.resumes, goes]
      exact booked.congr (by simp) rfl rfl rfl
  apply ledger.swapTo member
  rw [setTask_tasks_of_ne _ _ _ other]
  exact unmarked

end

end

theorem Dispatched.follows {before : Book} (running : s.state s.curr = .running)
    (departs : account before (op.departure s.curr) = some book)
    (departed : ∀ left, osDispatchLeave s op = some left → Departed config op left book)
    (keeps : ∀ left top, osDispatchLeave s op = some left → osTaskGetTop left = some top →
      KeepsInstances left op top)
    (dispatched : Dispatched config s op outcome) :
    Follows account (Ledger config true) before outcome := by
  have watched : watch account before [op.departure s.curr] = some book := by
    simp [departs]
  -- the processor goes to another task
  have switches : ∀ {left freed : Kernel} {top : Nat}, osDispatchLeave s op = some left →
      osTaskGetTop left = some top → top ≠ left.curr →
      osResourceReleaseInternal config left = some freed →
      freed.curr = s.curr ∧ top ∈ freed.ready ∧ top ≠ freed.curr ∧
        (op.ends = true → (freed.tasks freed.curr).activations = 0 ∨
          (freed.tasks freed.curr).reactivation = true) ∧ Departed config op freed book := by
    intro left freed top leaves chosen other released
    have same := releaseInternal_same released
    have leaving := osDispatchLeave_left running leaves
    obtain ⟨chains, last, -⟩ := (keeps left top leaves chosen).2 other
    refine ⟨same.curr.trans leaving.curr, same.ready ▸ (osTaskGetTop_some chosen).1,
      same.curr ▸ other, ?_, (departed left leaves).of_same same⟩
    rw [same.curr, same.activations, same.reactivation]
    exact leaving.gone chains last
  cases dispatched with
  | restarted left chosen =>
    obtain ⟨ends, unmarked⟩ := (keeps _ _ left chosen).1 rfl
    have departed := departed _ left
    have follows : Follows account (Ledger config true) book (osTaskStartFromBeginning _ _) :=
      .started departed.queue departed.counted (osTaskGetTop_some chosen).1 departed.others
        departed.accepted (departed.done ends).1 unmarked (osTaskStartFromBeginning_seated _ _) rfl
    rw [ends, (osDispatchLeave_left running left).curr]
    rw [(osDispatchLeave_left running left).curr] at follows
    exact follows.after watched
  | started left chosen other released marked =>
    obtain ⟨curr, member, apart, gone, departed⟩ := switches left chosen other released
    have ends := ((keeps _ _ left chosen).2 other).2.2
      ((releaseInternal_same released).reactivation _ ▸ marked)
    rw [curr]
    exact Follows.after watched (departed.starts gone ends member apart marked)
  | swapped left chosen other released unmarked =>
    obtain ⟨curr, member, apart, gone, departed⟩ := switches left chosen other released
    rw [curr]
    exact Follows.after watched (departed.swaps gone member apart unmarked)

/-! ## Interrupts -/

/-- While service routines run, the instance of the interrupted task is under way. -/
structure InterruptLedger (config : TaskSet) (s : Kernel) (book : Book) : Prop where
  ledger : Ledger config false s book
  member : s.curr ∈ s.ready
  unfinished : (book s.curr).started = (book s.curr).ended + 1

theorem Ledger.interrupted (ledger : Ledger config true s book) :
    InterruptLedger config s.interrupted book := by
  obtain ⟨unfinished, unmarked, pending⟩ := ledger.alive
  have member := ledger.member rfl
  refine ⟨⟨ledger.queue.setTask member (.inl rfl), ?_, nofun, ?_⟩, member, unfinished⟩
  · apply forall_setTask s s.curr
    · exact fun other _ => ledger.counted other
    · exact ⟨by simp; omega, (ledger.counted s.curr).limited⟩
  · apply forall_setTask s s.curr _
      (P := fun task t => Booked (false = true ∧ task = s.curr) (book task) t)
    · intro task ne
      exact (ledger.booked task).congr (by simp [ne]) rfl rfl rfl
    · exact ⟨(ledger.booked s.curr).accepted, .alive pending unfinished unmarked (.inr rfl)⟩

theorem InterruptLedger.served (valid : config.Valid) (holds : InterruptLedger config s book)
    (room : RoomToCount s call) (served : TaskServed config true call s service) :
    ∃ next, watch account book service.events = some next ∧
      InterruptLedger config service.state next := by
  obtain ⟨next, watched, progress, -, ledger⟩ := served.booked valid holds.ledger room
  have effect := served.effect
  refine ⟨next, watched, ledger ?_, ?_, ?_⟩
  · rw [served.isr_returns]
    nofun
  · exact effect.still_ready holds.member
  · rw [effect.curr, (progress s.curr).1, (progress s.curr).2]
    exact holds.unfinished

theorem InterruptLedger.stays (holds : InterruptLedger config s book)
    (seated : Seated s s.curr s') : Ledger config true s' book := by
  have booked := holds.ledger.booked s.curr
  have unfinished := holds.unfinished
  have unmarked : (s.tasks s.curr).reactivation = false := by
    cases booked.phase with
    | asleep _ done | fresh _ _ done => omega
    | alive _ _ unmarked => exact unmarked
  exact .of_seated holds.ledger.queue holds.ledger.counted holds.member
    (fun task _ => (holds.ledger.booked task).congr (by simp) rfl rfl rfl) booked.accepted unfinished
    unmarked seated

/-! ## Start and runs -/

/-- The activations of a step can be counted, the dispatcher keeps the instances, and an
interrupt does not give the processor to a marked task. -/
def StepKeepsInstances (config : TaskSet) (s : Kernel) : KernelStep → Prop
  | .call call => RoomToCount s call ∧ DispatchMeets config KeepsInstances s call
  | .interrupt calls =>
    IsrMeets config (fun s call => RoomToCount s call.toCall) s.interrupted calls ∧
      SwitchMeets config (fun s top => (s.tasks top).reactivation = false) s calls

instance decidableStepKeepsInstances (s : Kernel) :
    (step : KernelStep) → Decidable (StepKeepsInstances config s step)
  | .call _ | .interrupt _ => inferInstanceAs (Decidable (_ ∧ _))

theorem Ledger.stepped (valid : config.Valid) {step : KernelStep}
    (ledger : s.halted ∨ Ledger config true s book) (keeps : StepKeepsInstances config s step) :
    Follows account (Ledger config true) book (kernelStep config s step) := by
  apply kernelStep_follows ledger
  · rintro call service ledger rfl given served
    obtain ⟨next, watched, -, chains, books⟩ := served.booked valid ledger keeps.1
    refine ⟨next, watched, fun returns => books (by simp [returns]), ?_⟩
    intro op outcome dispatch running dispatched
    have kept : ∀ left top, osDispatchLeave service.state op = some left →
        osTaskGetTop left = some top → KeepsInstances left op top :=
      fun left top leaves chosen => keeps.2.found given dispatch leaves chosen
    by_cases own : op = .chainTask s.curr
    · subst own
      obtain ⟨state, rfl⟩ := chains dispatch
      rw [state] at running dispatched kept
      obtain ⟨book', departs, departed⟩ := ledger.selfChained
      refine dispatched.follows running departs ?_ kept
      intro left leaves
      simp only [osDispatchLeave, if_true, Option.some.injEq] at leaves
      exact leaves ▸ departed
    · have served_ledger := books (by simp [dispatch, own])
      have other : op ≠ .chainTask service.state.curr := by
        rw [served.effect.curr]
        exact own
      obtain ⟨left, s₂, top, leaves, -⟩ := dispatched.seated
      obtain ⟨book', departs, departed⟩ :=
        (osDispatchLeave_left running leaves).departed served_ledger running other
      refine dispatched.follows running departs ?_ kept
      intro left' leaves'
      exact Option.some.inj (leaves.symm.trans leaves') ▸ departed
  · rintro calls outcome ledger rfl served
    obtain ⟨s₁, events, top, entered, chosen, ended⟩ := osIsr_cases served
    obtain ⟨next, watched, holds⟩ := isrEntry_keeps (InterruptLedger config) ledger.interrupted
      keeps.1 entered fun _ _ _ _ holds room served => holds.served valid room (serveIsr_served served)
    rcases ended with ⟨-, rfl⟩ | ⟨other, full, rfl⟩
    · exact ⟨next, watched, .inr (holds.stays (resumed_seated s₁))⟩
    · have unmarked := keeps.2.found entered chosen other full
      have follows := holds.ledger.swapTo (osTaskGetTop_some chosen).1 unmarked
      have preempted : watch account next [.preempted s₁.curr] = some next := rfl
      exact (follows.after preempted).after watched

theorem watch_activated (tasks : List Nat) (book : Book) :
    watch account book (tasks.map .activated) =
      some fun task => { book task with accepted := (book task).accepted + tasks.count task } := by
  induction tasks generalizing book with
  | nil => rfl
  | cons first rest ih =>
    have noted : account book (.activated first) = some (book.accept first) := rfl
    rw [map_cons, watch_cons, noted, Option.bind_some, ih]
    congr 1
    funext task
    by_cases own : task = first
    · subst own
      simp only [Book.accept_self, count_cons_self, Entry.mk.injEq, and_true]
      omega
    · simp [Book.accept_of_ne book first own, count_cons_of_ne (Ne.symm own)]

theorem osStart_follows (valid : config.Valid) :
    Follows account (Ledger config true) .empty (osStart config) := by
  have init := initOs_interrupted valid
  have watched := watch_activated (initOs config).ready .empty
  generalize activated : (fun task => { Book.empty task with
    accepted := (Book.empty task).accepted + (initOs config).ready.count task } : Book) =
      book at watched
  have ledger : Ledger config false (initOs config) book := by
    refine ⟨init.queue, init.counted, nofun, fun task => ?_⟩
    subst activated
    by_cases ready : task ∈ (initOs config).ready
    · have one : (initOs config).ready.count task = 1 :=
        count_eq_one_of_mem init.queue.nodup ready
      have autostart : task < config.taskCnt ∧ (config.task task).autostart = true := by
        simpa [initOs] using ready
      have pending : ((initOs config).tasks task).activations = 1 := by simp [initOs, autostart]
      refine ⟨by simp [Book.empty, one, pending], .fresh (by omega) (by simp) rfl ?_⟩
      exact .inr ⟨rfl, rfl⟩
    · have none_counted : (initOs config).ready.count task = 0 := count_eq_zero.mpr ready
      have manual : ¬ (task < config.taskCnt ∧ (config.task task).autostart = true) := by
        simpa [initOs] using ready
      have idle : ((initOs config).tasks task).activations = 0 := by simpa [initOs] using manual
      exact ⟨by simp [Book.empty, none_counted, idle], .asleep idle rfl rfl⟩
  have member := (osTaskGetTop_some (firstTask_top valid)).1
  exact (ledger.swapTo member rfl).after watched

theorem TaskServed.limit (served : TaskServed config isr call s service)
    (limit : .returned .eOsLimit ∈ service.events) :
    service.state = s ∧ service.dispatch = none := by
  have offered : ∀ {s' task event op}, event ≠ .returned .eOsLimit →
      .returned .eOsLimit ∉ (offer config isr s' task event op).events := by
    intro s' task event op other
    unfold offer
    split <;> simp [other.symm]
  cases served with
  | refused => exact ⟨rfl, rfl⟩
  | queued | activated | woken => exact absurd limit (offered nofun)
  | _ => simp [returns] at limit

theorem activations_accounted (config : TaskSet) (steps : List KernelStep) (valid : config.Valid)
    (keeps : Meets (kernelStep config) (StepKeepsInstances config) (osStart config).1 steps) :
    let last := run (kernelStep config) (osStart config).1 steps
    (∃ book, watch account .empty ((osStart config).2 ++ last.2) = some book ∧
      (last.1.halted = false → ∀ task,
        (book task).ended ≤ (book task).started ∧ (book task).started ≤ (book task).ended + 1 ∧
        (book task).started + (book task).pending (last.1.tasks task) = (book task).accepted)) ∧
    (∀ call service, serveTask config last.1 call = some service →
      .returned .eOsLimit ∈ service.events →
      service.state = last.1 ∧ service.dispatch = none) ∧
    ∀ s call service, serveIsr config s call = some service →
      .returned .eOsLimit ∈ service.events → service.state = s ∧ service.dispatch = none := by
  intro last
  refine ⟨?_, fun call service served limit => (serveTask_served served).limit limit,
    fun s call service served limit => (serveIsr_served served).limit limit⟩
  obtain ⟨book, watched, ledger⟩ :=
    kernelRun_follows keeps (osStart_follows valid) (Ledger.stepped valid)
  refine ⟨book, watched, fun executing task => ?_⟩
  have ledger := ledger.resolve_left (Bool.eq_false_iff.mp executing)
  exact (ledger.booked task).balance

/-- Two tasks share the processor: the first is interrupted and activated again, terminates, is
restarted, and chains to itself. -/
def accountedRun : List KernelStep :=
  [.interrupt [.activateTask 2], .call (.activateTask 1), .call .terminateTask,
    .call .terminateTask, .call (.chainTask 1)]

theorem accountedRun_accounted :
    (run (kernelStep (threeTasks .full 2)) (osStart (threeTasks .full 2)).1
      accountedRun).2 =
        [.activated 2, .returned .eOk, .preempted 1, .started 2, .activated 1, .returned .eOk,
          .ended 2, .resumed 1, .ended 1, .started 1, .activated 1, .ended 1, .started 1] ∧
    ∃ book, watch account .empty
      ((osStart (threeTasks .full 2)).2 ++ (run (kernelStep (threeTasks .full 2))
        (osStart (threeTasks .full 2)).1 accountedRun).2) = some book := by
  refine ⟨by decide +kernel, ?_⟩
  obtain ⟨⟨book, watched, -⟩, -⟩ := activations_accounted (threeTasks .full 2) accountedRun
    (threeTasks_valid .full) (by decide +kernel)
  exact ⟨book, watched⟩

/-- A task that is not preemptable activates itself and a task of higher priority, and
terminates. -/
def deadEndRun : List KernelStep :=
  [.call (.activateTask 1), .call (.activateTask 2), .call .terminateTask, .call .terminateTask]

/-- The second instance of the first task is resumed inside `TerminateTask`. -/
theorem second_instance_reaches_assertion :
    (run (kernelStep (threeTasks .non 2)) (osStart (threeTasks .non 2)).1 deadEndRun).2 =
      [.activated 1, .returned .eOk, .activated 2, .returned .eOk, .ended 1, .started 2, .ended 2,
        .deadEnd 1] ∧
    (watch account .empty ((osStart (threeTasks .non 2)).2 ++
      (run (kernelStep (threeTasks .non 2)) (osStart (threeTasks .non 2)).1
        deadEndRun).2)).isNone = true := by
  decide +kernel

end Os
