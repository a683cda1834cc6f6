import ClassicPlatform.NvM.Completion

/-!
# Every request is executed

What is on the board of requests stays there until it is brought to its end, and in a fair run no
block stays pending. So each request that is accepted is executed, each block that a request for
all blocks has selected is processed, and by the order of the board this happens once.
-/
namespace NvM

open List Machine
open ByteLanes (Memory)

/-- What is on the board; a request for all blocks counts once for each block. -/
def Board.requests (seen : Board) : List QueueEntry :=
  (match seen.running with
    | some (service, blocks) => blocks.map fun block => ⟨service, block, none⟩
    | none => []) ++ seen.waiting

/-- The requests that are not over. -/
def State.requests (config : Config) (s : State) : List QueueEntry :=
  Board.requests ⟨s.singles, if s.nvmState.isAll then
    some (s.nvmState, remaining config s.admin s.currBlockIndex) else none, false⟩

section

variable (config : Config) (start : State) (calls : Nat → Call)

/-- The states of an endless run. -/
def states : Nat → State :=
  Progress.trace (fun s call => (step config s call).1) start calls

/-- Nothing keeps the requests of an endless run from their ends. -/
structure Favourable : Prop where
  completable : ∀ n, Completable config (states config start calls n) (calls n)
  separate : ∀ n, Separate config (states config start calls n) (calls n)
  fair : FairRun config calls (states config start calls)

/-- Every request comes to its own end. -/
def Fulfils : Prop :=
  ∀ n, ∀ entry ∈ (states config start calls n).requests config, ∃ m ≥ n, ∃ status,
    .finished entry.op entry.block status ∈ (step config (states config start calls m) (calls m)).2

end

section

variable {config : Config} {seen next : Board} {entry : QueueEntry}

theorem board_keeps {event : Event} (noted : board config seen event = some next)
    (member : entry ∈ seen.requests) :
    entry ∈ next.requests ∨ ∃ status, event = .finished entry.op entry.block status := by
  cases event with
  | accepted new =>
    cases noted
    refine .inl ?_
    split
    · exact (mem_append.mp member).elim (mem_append_left _) fun waits =>
        mem_append_right _ (mem_append_left _ waits)
    · exact member
  | multiStarted =>
    simp only [board] at noted
    split at noted
    next empty =>
      rw [Board.requests, empty.1, empty.2] at member
      cases member
    · cases noted
  | multiFinished =>
    simp only [board] at noted
    split at noted
    next ended =>
      cases noted
      rw [Board.requests, ended] at member
      exact .inl member
    · cases noted
  | memIfRead | memIfWrite | outcome | copied =>
    simp only [board] at noted
    split at noted
    · cases noted
      exact .inl member
    · cases noted
  | finished service block status =>
    simp only [board] at noted
    split at noted
    next due =>
      cases noted
      obtain ⟨⟨current, due, rfl, rfl⟩, -⟩ := due
      unfold Board.current at due
      unfold Board.finish
      rw [Board.requests] at member
      cases running : seen.running with
      | none =>
        rw [running] at due member
        obtain ⟨rest, waiting⟩ := head?_eq_some_iff.mp due
        rw [nil_append, waiting] at member
        rcases mem_cons.mp member with rfl | later
        · exact .inr ⟨status, rfl⟩
        · rw [waiting]
          exact .inl later
      | some all =>
        rw [running] at due member
        obtain ⟨block, first, rfl⟩ := Option.map_eq_some_iff.mp due
        obtain ⟨rest, blocks⟩ := head?_eq_some_iff.mp first
        simp only [blocks] at member ⊢
        rcases mem_cons.mp member with rfl | later
        · exact .inr ⟨status, rfl⟩
        · exact .inl later
    · cases noted

theorem watch_keeps {events : List Event} (watched : watch (board config) seen events = some next)
    (member : entry ∈ seen.requests) :
    entry ∈ next.requests ∨ ∃ status, .finished entry.op entry.block status ∈ events := by
  induction events generalizing seen with
  | nil =>
    cases watched
    exact .inl member
  | cons event rest ih =>
    obtain ⟨between, noted, watched⟩ := Option.bind_eq_some_iff.mp watched
    rcases board_keeps noted member with kept | ⟨status, rfl⟩
    · exact (ih watched kept).imp_right fun ⟨status, later⟩ => ⟨status, mem_cons_of_mem _ later⟩
    · exact .inr ⟨status, mem_cons_self⟩

variable {s : State}

theorem Posted.requests (posted : Posted config s seen) : seen.requests = s.requests config := by
  rw [Board.requests, posted.waiting, posted.running]
  rfl

theorem Orderly.requests_pending (orderly : Orderly config s)
    (member : entry ∈ s.requests config) : (s.admin entry.block).errorStatus = .pending := by
  rcases mem_append.mp member with later | single
  · dsimp only at later
    split at later
    next running =>
      split at running
      · cases running
        obtain ⟨block, selected, rfl⟩ := mem_map.mp later
        exact of_decide_eq_true (mem_filter.mp selected).2
      · cases running
    · cases later
  · rcases mem_append.mp single with current | waits
    · split at current
      next service =>
        rw [mem_singleton.mp current]
        exact (orderly.underway service).pending
      · cases current
    · exact (orderly.waiting entry (mem_filter.mp waits).1).2.2.1

variable (paired : Paired config) (ram workBuffer : Memory) (nv : Nat → Option Memory)
include paired

theorem requests_fulfilled (calls : Nat → Call)
    (favourable : Favourable config (init config ram workBuffer nv) calls) :
    Fulfils config (init config ram workBuffer nv) calls := by
  intro n entry member
  obtain ⟨completable, separate, fair⟩ := favourable
  let states := states config (init config ram workBuffer nv) calls
  have stepped {n : Nat} {seen : Board} (sound : Sound config (states n))
      (posted : Posted config (states n) seen) : Sound config (states (n + 1)) ∧
        ∃ next, watch (board config) seen (step config (states n) (calls n)).2 = some next ∧
          Posted config (states (n + 1)) next := by
    have sound' := (sound.stepped paired (completable n)).1
    obtain ⟨next, watched, on_board⟩ :=
      OnBoard.stepped paired (.inr ⟨sound.orderly, posted⟩) (separate n)
    have posted' := on_board.resolve_left (by rw [sound'.accounted.alive]; nofun)
    exact ⟨sound', next, watched, posted'.2⟩
  have kept (n : Nat) : Sound config (states n) ∧ ∃ seen, Posted config (states n) seen := by
    induction n with
    | zero =>
      exact ⟨init_sound config ram workBuffer nv, .empty, .resting (.inl rfl) rfl rfl nofun nofun⟩
    | succ n ih =>
      obtain ⟨sound, seen, posted⟩ := ih
      obtain ⟨sound', next, -, posted'⟩ := stepped sound posted
      exact ⟨sound', next, posted'⟩
  by_contra never
  have still (m : Nat) (later : n ≤ m) : entry ∈ (states m).requests config := by
    induction m, later using Nat.le_induction with
    | base => exact member
    | succ m later ih =>
      obtain ⟨sound, seen, posted⟩ := kept m
      obtain ⟨-, next, watched, posted'⟩ := stepped sound posted
      rw [← posted.requests] at ih
      rw [← posted'.requests]
      exact (watch_keeps watched ih).resolve_right fun ends => never ⟨m, later, ends⟩
  obtain ⟨m, later, final⟩ := block_eventually (fun n => (kept n).1)
    (fun n => ((kept n).1.stepped paired (completable n)).2) fair entry.block n
  exact final ((kept m).1.orderly.requests_pending (still m later))

omit paired in
theorem Favourable.of_turns {first : Call} (rests : Rests (turnStates config s first 5))
    (early : ∀ m < 7, Completable config (turnStates config s first m) (turns first m) ∧
      Separate config (turnStates config s first m) (turns first m)) :
    Favourable config s (turns first) :=
  have meets := turns_meet rests
    (fun s call => Completable config s call ∧ Separate config s call) early
  ⟨fun n => (meets n).1, fun n => (meets n).2, turnStates_fair rests⟩

end

/-- Three blocks: `NvM_ReadAll` reads the third; the second is a dataset and is skipped. -/
def mixedConfig : Config :=
  { plainConfig with
    numOfNvramBlocks := 3
    block := fun block =>
      { plainBlock block (block + 1) with
        selectBlockForReadall := decide (block = 2)
        blockManagementType := if block = 1 then .dataset else .native } }

def mixedInit : State := init mixedConfig (fun _ => 0) (fun _ => 0) fun _ => some fun _ => 0x55

/-- The second block is written after the request for all blocks has passed it. -/
def passedCalls : List Call :=
  [.readAll, .mainFunction fun _ => .accepted, .mainFunction fun _ => .accepted,
    .writeBlock 1 none, .jobEnd .ok fun _ => 0, .mainFunction fun _ => .accepted,
    .mainFunction fun _ => .accepted, .jobEnd .ok fun _ => 0, .mainFunction fun _ => .accepted]

theorem mixedConfig_paired : Paired mixedConfig := by
  intro block redundant
  simp only [mixedConfig] at redundant
  split at redundant <;> cases redundant

/-- The second block is written while it is skipped and has yet to be passed. -/
def skippedCalls : List Call :=
  [.readAll, .mainFunction fun _ => .accepted, .writeBlock 1 none,
    .mainFunction fun _ => .accepted, .jobEnd .ok fun _ => 0, .mainFunction fun _ => .accepted]

end NvM
