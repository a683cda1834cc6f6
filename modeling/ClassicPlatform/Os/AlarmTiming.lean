import ClassicPlatform.Lib.Timer
import ClassicPlatform.Os.CounterSteps

/-!
# Alarms expire on time

An alarm is a timer on its counter. The monitor `expectAlarm` follows one alarm: it
counts the increments of the counter and keeps the number of the increment at which the
alarm is due. It gives up when the alarm acts at any other increment, or when an increment
begins or ends while an action that was due is missing.
-/
namespace Os

open List Machine Nat

/-! ## The plan of an alarm -/

/-- How many increments there have been, and when the alarm is due with which cycle. -/
structure AlarmPlan where
  ticks : Nat
  next : Option (Nat × Nat)
  deriving DecidableEq

def AlarmPlan.missed (p : AlarmPlan) : Bool :=
  match p.next with
  | some (due, _) => due ≤ p.ticks
  | none => false

/-- The number of increments after which a counter that is at `val` is next at `value`. -/
def ticksUntil (max val value : Nat) : Nat :=
  if val < value then value - val else value + (max + 1) - val

variable (config : CounterSet) (alarm : Nat) (s : CounterState) (step : CounterStep)

/-- `origin` is the value of the counter at the beginning. -/
def expectAlarm (alarm origin : Nat) (p : AlarmPlan) : CounterEvent → Option AlarmPlan
  | .incremented counter =>
    if counter ≠ config.alarmCounter alarm then some p
    else if p.missed then none
    else some { p with ticks := p.ticks + 1 }
  | .alarmsChecked counter =>
    if counter = config.alarmCounter alarm ∧ p.missed then none else some p
  | .alarmSetRel other increment cycle =>
    if other ≠ alarm then some p
    else some { p with next := some (p.ticks + increment, cycle) }
  | .alarmSetAbs other start cycle =>
    if other ≠ alarm then some p
    else
      let max := config.alarmMax alarm
      some { p with
        next := some (p.ticks + ticksUntil max ((origin + p.ticks) % (max + 1)) start, cycle) }
  | .alarmCancelled other => if other ≠ alarm then some p else some { p with next := none }
  | .alarmExpired other =>
    if other ≠ alarm then some p
    else
      match p.next with
      | none => none
      | some (due, cycle) =>
        if due ≠ p.ticks then none
        else some { p with next := if cycle = 0 then none else some (due + cycle, cycle) }
  | _ => some p

/-! ## An alarm as a timer -/

/-- Where an open walk is with respect to an alarm, if it is a walk of its counter. -/
def alarmStage (walk : Walk) : Option Timer.Stage :=
  if walk.counter = config.alarmCounter alarm then
    some <|
      match walk.position with
      | .alarms rest => if alarm ∈ rest then .ahead else .past
      | .alarmIncrement other _ rest | .alarmAction other rest =>
        if other = alarm then .acting else if alarm ∈ rest then .ahead else .past
      | .tables _ | .tableAction _ _ _ => .past
  else none

def Alarm.period (a : Alarm) : Option Nat := if a.cycletime = 0 then none else some a.cycletime

def alarmWheel : Timer.Wheel where
  val := (s.counters (config.alarmCounter alarm)).val
  armed := (s.alarms alarm).active
  expire := (s.alarms alarm).expireVal
  period := (s.alarms alarm).period
  laps := lapsOf (alarmStage config alarm) s

/-- Setting the alarm does not get lost: the arguments fit the counter, an alarm whose own
action is under way is set to what the end of the action makes of it, and an alarm that an
open walk has not reached is not set to the present value. -/
def SetsInTime : CounterEvent → Prop
  | .alarmSetRel other increment cycle =>
    other = alarm →
      0 < increment ∧ increment ≤ config.alarmMax alarm ∧
      cycle ≤ config.alarmMax alarm ∧
      (.acting ∈ lapsOf (alarmStage config alarm) s → cycle = increment)
  | .alarmSetAbs other start cycle =>
    other = alarm →
      start ≤ config.alarmMax alarm ∧
      cycle ≤ config.alarmMax alarm ∧
      (.acting ∈ lapsOf (alarmStage config alarm) s →
        cycle = ticksUntil (config.alarmMax alarm)
          (s.counters (config.alarmCounter alarm)).val start) ∧
      (.acting ∉ lapsOf (alarmStage config alarm) s → .ahead ∈ lapsOf (alarmStage config alarm) s →
        start ≠ (s.counters (config.alarmCounter alarm)).val)
  | _ => True

/-- An increment inside an open walk does not disturb the alarm: if it is due now it is not
ahead of the walk, and if its action is under way it is single and not met again. -/
def AdvancesInTime : CounterEvent → Prop
  | .incremented counter =>
    counter = config.alarmCounter alarm → (s.alarms alarm).active = true →
      (.acting ∉ lapsOf (alarmStage config alarm) s → .ahead ∈ lapsOf (alarmStage config alarm) s →
        (s.alarms alarm).expireVal ≠ (s.counters counter).val) ∧
      (.acting ∈ lapsOf (alarmStage config alarm) s →
        (s.alarms alarm).cycletime = 0 ∧
        (s.alarms alarm).expireVal ≠ osCounterAdd (s.counters counter).val (config.maxOf counter) 1)
  | _ => True

instance : DecidablePred (SetsInTime config alarm s) := fun event => by
  cases event <;> first | exact isTrue trivial | exact inferInstanceAs (Decidable (_ → _))

instance : DecidablePred (AdvancesInTime config alarm s) := fun event => by
  cases event <;> first | exact isTrue trivial | exact inferInstanceAs (Decidable (_ → _))

/-! ## Views of the state -/

def AlarmPlan.plan (p : AlarmPlan) : Timer.Plan := { ticks := p.ticks, due := p.next.map Prod.fst }

structure AlarmTracks (alarm origin : Nat) (s : CounterState) (p : AlarmPlan) : Prop where
  sound : s.Sound config
  on_time : Timer.OnTime (config.alarmMax alarm) origin
    (alarmWheel config alarm s) p.plan
  cycle : ∀ due cycle, p.next = some (due, cycle) → (s.alarms alarm).cycletime = cycle
  bounded : (s.alarms alarm).expireVal ≤ config.alarmMax alarm ∧
    (s.alarms alarm).cycletime ≤ config.alarmMax alarm

/-- The monitor accepts what a step puts out, and the alarm still agrees with the plan. -/
abbrev AlarmAccepts (alarm origin : Nat) : AlarmPlan → CounterState × List CounterEvent → Prop :=
  Accepts (expectAlarm config alarm origin) (AlarmTracks config alarm origin)

section Views

variable {config : CounterSet} {alarm origin : Nat} {s s' : CounterState} {p : AlarmPlan}

theorem ticksUntil_spec {max val value : Nat} (low : val ≤ max) (high : value ≤ max) :
    0 < ticksUntil max val value ∧ ticksUntil max val value ≤ max + 1 ∧
      value = (val + ticksUntil max val value) % (max + 1) ∧
      (value ≠ val → ticksUntil max val value ≤ max) := by
  unfold ticksUntil
  split
  next later =>
    refine ⟨by omega, by omega, ?_, fun _ => by omega⟩
    rw [mod_eq_of_lt (by omega)]
    omega
  next wraps =>
    refine ⟨by omega, by omega, ?_, fun _ => by omega⟩
    rw [mod_eq_sub_mod (by omega), mod_eq_of_lt (by omega)]
    omega

theorem AlarmTracks.not_missed (tracks : AlarmTracks config alarm origin s p)
    (reached : lapsOf (alarmStage config alarm) s = [] ∨ ∃ laps, lapsOf (alarmStage config alarm) s = .past :: laps) :
    p.missed = false := by
  unfold AlarmPlan.missed
  split
  next due cycle planned =>
    have due_eq : p.plan.due = some due := by simp [AlarmPlan.plan, planned]
    have low := tracks.on_time.not_overdue due_eq
    have : p.plan.ticks = p.ticks := rfl
    by_contra overdue
    have now : due ≤ p.ticks := by simpa using overdue
    obtain ⟨-, first, -⟩ := tracks.on_time.pending (due_eq.trans (by congr 1; omega))
    rcases reached with none_open | ⟨laps, past⟩
    · simp [alarmWheel, none_open] at first
    · simp [alarmWheel, past] at first
  next => rfl

theorem AlarmTracks.unseen (tracks : AlarmTracks config alarm origin s p) (sound : s'.Sound config)
    (val : (s'.counters (config.alarmCounter alarm)).val =
      (s.counters (config.alarmCounter alarm)).val)
    (same : s'.alarms alarm = s.alarms alarm)
    (laps : lapsOf (alarmStage config alarm) s' = lapsOf (alarmStage config alarm) s) :
    AlarmTracks config alarm origin s' p := by
  have wheel : alarmWheel config alarm s' = alarmWheel config alarm s := by
    simp [alarmWheel, val, same, laps]
  exact ⟨sound, wheel ▸ tracks.on_time, same ▸ tracks.cycle, same ▸ tracks.bounded⟩

end Views

/-! ## Services -/

section Steps

variable {config : CounterSet} {alarm origin : Nat} {s s' : CounterState} {p : AlarmPlan}

variable {walks : List Walk} {position : Position} {walk : Walk}

section

variable (tracks : AlarmTracks config alarm origin s p)
include tracks

theorem AlarmTracks.advance (known : alarm < config.alarmCnt) (counter : Nat)
    (in_time : AdvancesInTime config alarm s (.incremented counter)) :
    AlarmAccepts config alarm origin p (s.advance config counter, [.incremented counter]) := by
  have sound := tracks.sound.advance counter
  by_cases own : counter = config.alarmCounter alarm
  · subst own
    have low : (s.counters (config.alarmCounter alarm)).val ≤ _ := tracks.on_time.val_le
    have attached : alarm ∈ (s.counters (config.alarmCounter alarm)).alarmList :=
      ((tracks.sound.attached.alarms _).2 alarm).mpr ⟨known, rfl⟩
    have wheel : alarmWheel config alarm (s.advance config (config.alarmCounter alarm)) =
        { alarmWheel config alarm s with
          val := ((alarmWheel config alarm s).val + 1) %
            (config.alarmMax alarm + 1)
          laps := .ahead :: (alarmWheel config alarm s).laps } := by
      have laps : lapsOf (alarmStage config alarm) (s.advance config (config.alarmCounter alarm)) =
          .ahead :: lapsOf (alarmStage config alarm) s := by
        rw [lapsOf_cons (advance_walks s _ config)]
        simp [alarmStage, attached, lapsOf]
      simp [alarmWheel, laps, osCounterAdd_eq_mod low]
    have moved := tracks.on_time.tick
      (fun idle ahead on => (in_time rfl on).1 idle ahead)
      (fun acting on => by
        obtain ⟨single, elsewhere⟩ := (in_time rfl on).2 acting
        rw [osCounterAdd_eq_mod low (by omega)] at elsewhere
        exact ⟨if_pos single, elsewhere⟩)
    have complete : p.missed = false := by
      unfold AlarmPlan.missed
      split
      next due cycle planned =>
        have due_eq : p.plan.due = some due := by simp [AlarmPlan.plan, planned]
        have := moved.not_overdue due_eq
        simp only [AlarmPlan.plan] at this
        exact decide_eq_false (by omega)
      next => rfl
    refine ⟨{ p with ticks := p.ticks + 1 }, ?_, sound, wheel ▸ moved, tracks.cycle, tracks.bounded⟩
    simp [expectAlarm, complete]
  · refine ⟨p, by simp [expectAlarm, own], tracks.unseen sound ?_ rfl ?_⟩
    · rw [advance_counters_of_ne s counter config (Ne.symm own)]
    · rw [lapsOf_cons (advance_walks s counter config)]
      simp [alarmStage, own, lapsOf]

private theorem AlarmTracks.set
    {n expireVal cycle : Nat} (pos : 0 < n) (le : n ≤ config.alarmMax alarm + 1)
    (value : expireVal = ((s.counters (config.alarmCounter alarm)).val + n) %
      (config.alarmMax alarm + 1))
    (fits : cycle ≤ config.alarmMax alarm)
    (turn : .acting ∉ lapsOf (alarmStage config alarm) s → .ahead ∈ lapsOf (alarmStage config alarm) s →
      n ≤ config.alarmMax alarm)
    (own : .acting ∈ lapsOf (alarmStage config alarm) s → cycle = n) :
    AlarmTracks config alarm origin
      (s.setAlarm alarm { s.alarms alarm with active := true, expireVal, cycletime := cycle })
      { p with next := some (p.ticks + n, cycle) } := by
  have period : ∀ k, (if cycle = 0 then none else some cycle) = some k →
      0 < k ∧ k ≤ config.alarmMax alarm := by
    intro k
    split
    · simp
    · rintro ⟨⟩
      omega
  have armed := tracks.on_time.arm pos le value period turn
    (fun acting => by rw [own acting, if_neg (by omega)])
  refine ⟨⟨tracks.sound.attached.transport fun _ => ⟨rfl, rfl⟩, tracks.sound.placed⟩, ?_, ?_, ?_⟩
  · have wheel : alarmWheel config alarm
        (s.setAlarm alarm { s.alarms alarm with active := true, expireVal, cycletime := cycle }) =
        { alarmWheel config alarm s with
          armed := true, expire := expireVal
          period := if cycle = 0 then none else some cycle } := by
      simp [alarmWheel, lapsOf, Alarm.period]
    rw [wheel]
    exact armed
  · simp
  · rw [setAlarm_alarms]
    exact ⟨value ▸ le_of_lt_succ (mod_lt _ (succ_pos _)), fits⟩

theorem AlarmTracks.served (known : alarm < config.alarmCnt) (call : CounterCall)
    (sets : ∀ event ∈ (serve config s call).2, SetsInTime config alarm s event)
    (advances : ∀ event ∈ (serve config s call).2, AdvancesInTime config alarm s event) :
    AlarmAccepts config alarm origin p (serve config s call) := by
  have sound := serve_sound tracks.sound call
  generalize serves : serve config s call = outcome at sets advances sound ⊢
  have low : (s.counters (config.alarmCounter alarm)).val ≤ _ := tracks.on_time.val_le
  cases serve_served serves with
  | refused call error failed => exact ⟨p, rfl, tracks⟩
  | incremented counter => exact tracks.advance known counter (advances _ mem_cons_self)
  | setRel other increment cycle idle fits =>
    have in_time := sets _ mem_cons_self
    by_cases own : other = alarm
    · subst own
      obtain ⟨pos, le, small, acting⟩ := in_time rfl
      refine ⟨_, by simp [expectAlarm], tracks.set pos (by omega) ?_ small (fun _ _ => le) acting⟩
      exact osCounterAdd_eq_mod low (by omega)
    · refine ⟨p, by simp [expectAlarm, own], tracks.unseen sound rfl ?_ rfl⟩
      exact setAlarm_alarms_of_ne s other (Ne.symm own) _
  | setAbs other start cycle idle fits =>
    have in_time := sets _ mem_cons_self
    by_cases own : other = alarm
    · subst own
      obtain ⟨le, small, acting, elsewhere⟩ := in_time rfl
      obtain ⟨pos, turn, value, short⟩ := ticksUntil_spec low le
      have here : (origin + p.ticks) % (config.alarmMax other + 1) =
          (s.counters (config.alarmCounter other)).val := tracks.on_time.val.symm
      refine ⟨_, by simp [expectAlarm, here],
        tracks.set pos turn value small (fun idle ahead => short (elsewhere idle ahead)) acting⟩
    · refine ⟨p, by simp [expectAlarm, own], tracks.unseen sound rfl ?_ rfl⟩
      exact setAlarm_alarms_of_ne s other (Ne.symm own) _
  | cancelled other =>
    by_cases own : other = alarm
    · subst own
      refine ⟨{ p with next := none }, by simp [expectAlarm], sound, ?_, nofun, ?_⟩
      · have wheel : alarmWheel config other
            (s.setAlarm other { s.alarms other with active := false }) =
            { alarmWheel config other s with armed := false } := by
          simp [alarmWheel, lapsOf, Alarm.period]
        rw [wheel]
        exact tracks.on_time.disarm _ _
      · rw [setAlarm_alarms]
        exact tracks.bounded
    · refine ⟨p, by simp [expectAlarm, own], tracks.unseen sound rfl ?_ rfl⟩
      exact setAlarm_alarms_of_ne s other (Ne.symm own) _
  | startedRel table offset fits | startedAbs table start fits
  | stopped table => exact ⟨p, rfl, tracks.unseen sound rfl rfl rfl⟩
  | given current next =>
    rw [setNext_eq] at sound ⊢
    exact ⟨p, rfl, tracks.unseen sound rfl rfl rfl⟩

/-! ## Walks -/

private theorem AlarmTracks.glide (open_walk : s.walks = walk :: walks)
    (sound : (s'.moveTo position).Sound config) (counters : s'.counters = s.counters)
    (same : s'.alarms alarm = s.alarms alarm) (same_walks : s'.walks = s.walks)
    (stage : alarmStage config alarm { walk with position } = alarmStage config alarm walk) :
    AlarmTracks config alarm origin (s'.moveTo position) p := by
  refine tracks.unseen sound ?_ same (lapsOf_moveTo open_walk same_walks stage)
  simp [counters]

end

variable {rest : List Nat} {counter other : Nat}

private theorem alarmStage_next (ne : other ≠ alarm) :
    alarmStage config alarm { counter, position := .alarms rest } =
      alarmStage config alarm { counter, position := .alarms (other :: rest) } := by
  simp [alarmStage, ne.symm]

private theorem alarmStage_action (ne : other ≠ alarm) :
    alarmStage config alarm { counter, position := .alarmAction other rest } =
      alarmStage config alarm { counter, position := .alarms (other :: rest) } := by
  simp [alarmStage, ne, ne.symm]

private theorem alarmStage_increment {target : Nat} (ne : other ≠ alarm) :
    alarmStage config alarm { counter, position := .alarmIncrement other target rest } =
      alarmStage config alarm { counter, position := .alarms (other :: rest) } := by
  simp [alarmStage, ne, ne.symm]

section

variable (tracks : AlarmTracks config alarm origin s p)
include tracks

private theorem AlarmTracks.expire
    (open_walk : s.walks = walk :: walks) (before : alarmStage config alarm walk = some .ahead)
    (after : alarmStage config alarm { walk with position } = some .acting)
    (on : (s.alarms alarm).active)
    (here : (s.alarms alarm).expireVal = (s.counters (config.alarmCounter alarm)).val)
    (sound : (s.moveTo position).Sound config) :
    AlarmAccepts config alarm origin p (s.moveTo position, [.alarmExpired alarm]) := by
  obtain ⟨due, moved⟩ := tracks.on_time.fire (lapsOf_own open_walk before) on here
  obtain ⟨⟨due', cycle⟩, planned, rfl⟩ : ∃ next, p.next = some next ∧ next.1 = p.ticks := by
    simpa [AlarmPlan.plan] using due
  have same_cycle := tracks.cycle _ _ planned
  refine ⟨{ p with next := if cycle = 0 then none else some (p.ticks + cycle, cycle) }, ?_, sound,
    ?_, ?_, tracks.bounded⟩
  · simp [expectAlarm, planned]
  · have wheel : alarmWheel config alarm (s.moveTo position) = { alarmWheel config alarm s with
          laps := .acting :: walks.filterMap (alarmStage config alarm) } := by
      simp [alarmWheel, lapsOf_own (moveTo_walks s open_walk position) after]
    have plan : AlarmPlan.plan
        { p with next := if cycle = 0 then none else some (p.ticks + cycle, cycle) } =
        { p.plan with
          due := (alarmWheel config alarm s).period.map (p.plan.ticks + ·) } := by
      simp only [AlarmPlan.plan, alarmWheel, Alarm.period, same_cycle]
      split <;> simp
    rw [wheel, plan]
    exact moved
  · intro due'' cycle' next
    split at next
    · cases next
    · simp only [Option.some.injEq, Prod.mk.injEq] at next
      exact same_cycle.trans next.2

private theorem AlarmTracks.behind
    (open_walk : s.walks = walk :: walks) (same_walks : s'.walks = s.walks)
    (counters : s'.counters = s.counters)
    (after : alarmStage config alarm { walk with position } = some .past)
    (sound : (s'.moveTo position).Sound config)
    (cycletime : (s'.alarms alarm).cycletime = (s.alarms alarm).cycletime)
    (expireVal : (s'.alarms alarm).expireVal ≤ config.alarmMax alarm)
    (on_time : Timer.OnTime (config.alarmMax alarm) origin
      { alarmWheel config alarm s with
        armed := (s'.alarms alarm).active
        expire := (s'.alarms alarm).expireVal
        period := (s'.alarms alarm).period
        laps := .past :: walks.filterMap (alarmStage config alarm) } p.plan) :
    AlarmTracks config alarm origin (s'.moveTo position) p := by
  refine ⟨sound, ?_, fun due cycle planned => cycletime.trans (tracks.cycle due cycle planned),
    expireVal, cycletime ▸ tracks.bounded.2⟩
  have wheel : alarmWheel config alarm (s'.moveTo position) = { alarmWheel config alarm s with
        armed := (s'.alarms alarm).active
        expire := (s'.alarms alarm).expireVal
        period := (s'.alarms alarm).period
        laps := .past :: walks.filterMap (alarmStage config alarm) } := by
    simp [alarmWheel, counters,
      lapsOf_own (moveTo_walks s' (same_walks.trans open_walk) position) after]
  rw [wheel]
  exact on_time

private theorem AlarmTracks.glided (no_callback : (config.alarm alarm).action ≠ .alarmCallback)
    {position' : Position} {events : List CounterEvent}
    (open_walk : s.walks = { counter, position } :: walks)
    (sound : (s.moveTo position').Sound config)
    (glides : Glides config s counter position position' events) :
    AlarmAccepts config alarm origin p (s.moveTo position', events) := by
  have placed := tracks.sound.placed _ (open_walk ▸ mem_cons_self)
  have unseen (quiet : watch (expectAlarm config alarm origin) p events = some p)
      (stage : alarmStage config alarm { counter, position := position' } =
        alarmStage config alarm { counter, position }) :
      AlarmAccepts config alarm origin p (s.moveTo position', events) :=
    ⟨p, quiet, tracks.glide open_walk sound rfl rfl rfl stage⟩
  cases glides with
  | alarmsChecked =>
    refine unseen ?_ (by simp [alarmStage])
    simp only [watch_cons, expectAlarm]
    split
    next checked =>
      have past : alarmStage config alarm { counter, position := .alarms [] } = some .past := by
        simp [alarmStage, checked.1]
      have complete := tracks.not_missed (.inr ⟨_, lapsOf_own open_walk past⟩)
      simp [complete] at checked
    next => rfl
  | alarmPassed other rest waits =>
    by_cases own : other = alarm
    · subst own
      obtain rfl : config.alarmCounter other = counter := placed.2 other mem_cons_self
      have fresh : other ∉ rest := (nodup_cons.mp placed.1).1
      refine ⟨p, rfl, tracks.behind open_walk rfl rfl (by simp [alarmStage, fresh]) sound rfl
        tracks.bounded.1 ?_⟩
      exact tracks.on_time.pass (lapsOf_own open_walk (by simp [alarmStage])) fun on here =>
        no_callback (waits on here.symm)
    · exact unseen rfl (alarmStage_next own)
  | alarmExpired other rest active here acts =>
    by_cases own : other = alarm
    · subst own
      obtain rfl : config.alarmCounter other = counter := placed.2 other mem_cons_self
      exact tracks.expire open_walk (by simp [alarmStage])
        (by rcases acts with rfl | ⟨_, -, rfl⟩ <;> simp [alarmStage]) active here.symm sound
    · apply unseen (by simp [expectAlarm, own])
      rcases acts with rfl | ⟨_, -, rfl⟩
      · exact alarmStage_action own
      · exact alarmStage_increment own
  | refused | tablePassed | pointReached | acted => exact unseen rfl (by simp [alarmStage])

private theorem alarmProcess_own
    (open_walk : s.walks =
      { counter := config.alarmCounter alarm, position := .alarmAction alarm rest } :: walks)
    (sound : ((alarmProcess config s alarm).moveTo (.alarms rest)).Sound config) :
    AlarmTracks config alarm origin ((alarmProcess config s alarm).moveTo (.alarms rest)) p := by
  have placed : (alarm :: rest).Nodup ∧ _ :=
    tracks.sound.placed
      { counter := config.alarmCounter alarm, position := .alarmAction alarm rest }
      (open_walk ▸ mem_cons_self)
  have fresh : alarm ∉ rest := (nodup_cons.mp placed.1).1
  have low : (s.counters (config.alarmCounter alarm)).val ≤ _ := tracks.on_time.val_le
  have before : alarmStage config alarm
      { counter := config.alarmCounter alarm, position := .alarmAction alarm rest } =
      some .acting := by simp [alarmStage]
  have fits : ∀ k, (s.alarms alarm).active = true → (s.alarms alarm).period = some k →
      0 < k ∧ k ≤ config.alarmMax alarm :=
    fun k on period => tracks.on_time.fits on k period
  refine tracks.behind open_walk (alarmProcess_walks config s alarm)
    (alarmProcess_counters config s alarm) (by simp [alarmStage, fresh]) sound ?_ ?_ ?_
  · rw [alarmProcess_eq, setAlarm_alarms]
    split <;> rfl
  · rw [alarmProcess_eq, setAlarm_alarms]
    split
    · exact tracks.bounded.1
    · exact osCounterAdd_le low (le_succ_of_le tracks.bounded.2)
  · apply tracks.on_time.settle (lapsOf_own open_walk before)
    · rw [alarmProcess_eq]
      simp only [alarmWheel, Alarm.period]
      split <;> simp
    · intro k on period
      have le := (fits k on period).2
      simp only [alarmWheel, Alarm.period] at on period
      split at period
      · cases period
      next cyclic =>
        obtain rfl : (s.alarms alarm).cycletime = k := by simpa using period
        rw [alarmProcess_eq, setAlarm_alarms, if_neg cyclic]
        exact ⟨on, osCounterAdd_eq_mod low (by omega)⟩
    · rw [alarmProcess_eq, setAlarm_alarms]
      split
      · simp
      · exact fun on k period => fits k on period

end

section

variable (tracks : AlarmTracks config alarm origin s p) (known : alarm < config.alarmCnt)
  (no_callback : (config.alarm alarm).action ≠ .alarmCallback)
include tracks known no_callback

theorem AlarmTracks.resumed
    (advances : ∀ event ∈ (resume config s).2, AdvancesInTime config alarm s event) :
    AlarmAccepts config alarm origin p (resume config s) := by
  have sound := resume_sound tracks.sound
  generalize resumes : resume config s = outcome at advances sound ⊢
  cases resume_resumes resumes with
  | rests => exact ⟨p, rfl, tracks⟩
  | glides open_walk glides => exact tracks.glided no_callback open_walk sound glides
  | @nests counter other target rest walks open_walk =>
    have placed := tracks.sound.placed _ (open_walk ▸ mem_cons_self)
    have stage : alarmStage config alarm { counter, position := .alarmAction other rest } =
        alarmStage config alarm { counter, position := .alarmIncrement other target rest } := by
      simp [alarmStage]
    have moved : AlarmTracks config alarm origin (s.moveTo (.alarmAction other rest)) p :=
      tracks.glide open_walk (tracks.sound.move rfl rfl open_walk placed.2) rfl rfl rfl stage
    have laps : lapsOf (alarmStage config alarm) (s.moveTo (.alarmAction other rest)) = _ :=
      lapsOf_moveTo open_walk rfl stage
    have in_time := advances _ mem_cons_self
    apply moved.advance known target
    simpa [AdvancesInTime, laps, moveTo_alarms, moveTo_counters] using in_time
  | @processes counter other rest walks open_walk =>
    have placed := tracks.sound.placed _ (open_walk ▸ mem_cons_self)
    refine ⟨p, rfl, ?_⟩
    by_cases own : other = alarm
    · subst own
      obtain rfl : config.alarmCounter other = counter := placed.2 other mem_cons_self
      exact alarmProcess_own tracks open_walk sound
    · refine tracks.glide open_walk sound (alarmProcess_counters config s other)
        (alarmProcess_alarms_of_ne config s other (Ne.symm own))
        (alarmProcess_walks config s other) ?_
      exact (alarmStage_next own).trans (alarmStage_action own).symm
  | @updates counter table position rest walks open_walk ends =>
    have updated := schTblUpdateState_tablesOnly config s table
    refine ⟨p, watch_skip fun event member => ?_, tracks.glide open_walk sound updated.counters
      (by rw [updated.alarms]) updated.walks ?_⟩
    · obtain ⟨table, rfl⟩ := updated.events event member
      rfl
    · rcases ends with rfl | ⟨rfl, -⟩ <;> simp [alarmStage]
  | @leaves counter walks open_walk =>
    refine ⟨p, rfl, ?_⟩
    by_cases own : counter = config.alarmCounter alarm
    · have past : alarmStage config alarm { counter, position := .tables [] } = some .past := by
        simp [alarmStage, own]
      exact ⟨sound, tracks.on_time.leave (lapsOf_own open_walk past), tracks.cycle, tracks.bounded⟩
    · apply tracks.unseen sound rfl rfl
      rw [lapsOf_cons open_walk]
      simp [alarmStage, own, lapsOf]

theorem AlarmTracks.stepped (step : CounterStep)
    (sets : ∀ event ∈ (counterStep config s step).2, SetsInTime config alarm s event)
    (advances : ∀ event ∈ (counterStep config s step).2, AdvancesInTime config alarm s event) :
    AlarmAccepts config alarm origin p (counterStep config s step) := by
  generalize steps : counterStep config s step = outcome at sets advances ⊢
  cases counterStep_stepped steps with
  | held => exact ⟨p, rfl, tracks⟩
  | served call => exact tracks.served known call sets advances
  | ticked counter => exact tracks.advance known counter (advances _ mem_cons_self)
  | resumed => exact tracks.resumed known no_callback advances

end

end Steps

/-! ## Whole runs -/

/-- The alarm has not been used, and no schedule table has. -/
structure AlarmUnused : Prop where
  attached : s.Attached config
  no_walk : s.walks = []
  running : s.halted = false
  stopped : ∀ table, (s.tables table).state = .stopped
  alone : ∀ table, (s.tables table).next = none
  inactive : (s.alarms alarm).active = false
  expireVal : (s.alarms alarm).expireVal ≤ config.alarmMax alarm
  cycletime : (s.alarms alarm).cycletime ≤ config.alarmMax alarm
  val : (s.counters (config.alarmCounter alarm)).val ≤ config.alarmMax alarm

/-- No expiry action on the counter of the alarm leads to an increment of this counter. -/
def NotNested : Prop :=
  step.alarmsOnly = true ∧
    (.incremented (config.alarmCounter alarm) ∈ (counterStep config s step).2 →
      lapsOf (alarmStage config alarm) s = [])
  deriving Decidable

/-- Every setting of the alarm by this step is in time. -/
def SetInTime : Prop :=
  ∀ event ∈ (counterStep config s step).2, SetsInTime config alarm s event
  deriving Decidable

/-- Increments inside open walks are allowed where they do not disturb the alarm. -/
def NestedInTime : Prop :=
  step.alarmsOnly = true ∧
    ∀ event ∈ (counterStep config s step).2, AdvancesInTime config alarm s event
  deriving Decidable

section Runs

variable {config : CounterSet} {alarm : Nat} {s : CounterState}

theorem AlarmUnused.calm (unused : AlarmUnused config alarm s) : s.Calm config where
  sound := ⟨unused.attached, by simp [unused.no_walk]⟩
  running := unused.running
  alone := unused.alone
  harmless table := .inr ⟨unused.stopped table, by simp [unused.no_walk]⟩

theorem AlarmUnused.tracks (unused : AlarmUnused config alarm s) :
    AlarmTracks config alarm (s.counters (config.alarmCounter alarm)).val s
      { ticks := 0, next := none } where
  sound := unused.calm.sound
  on_time := .start (mod_eq_of_lt (lt_succ_of_le unused.val)).symm unused.inactive
    (by simp [alarmWheel, lapsOf, unused.no_walk])
  cycle := nofun
  bounded := ⟨unused.expireVal, unused.cycletime⟩

theorem NotNested.nestedInTime {step : CounterStep} (not_nested : NotNested config alarm s step) :
    NestedInTime config alarm s step := by
  refine ⟨not_nested.1, fun event member => ?_⟩
  cases event with
  | incremented counter =>
    rintro rfl -
    simp [not_nested.2 member]
  | _ => trivial

theorem AlarmTracks.run {origin : Nat} {p : AlarmPlan}
    (tracks : AlarmTracks config alarm origin s p) (calm : s.Calm config)
    (known : alarm < config.alarmCnt)
    (no_callback : (config.alarm alarm).action ≠ .alarmCallback) {steps : List CounterStep}
    (in_time : Meets (counterStep config)
      (fun state step => NestedInTime config alarm state step ∧ SetInTime config alarm state step)
      s steps) :
    Accepts (expectAlarm config alarm origin)
      (fun state seen => state.Calm config ∧ AlarmTracks config alarm origin state seen) p
      (run (counterStep config) s steps) := by
  apply run_watched _ ⟨calm, tracks⟩ in_time
  rintro state action seen ⟨calm, tracks⟩ ⟨⟨alarms_only, advances⟩, sets⟩
  obtain ⟨next, watched, moved⟩ := tracks.stepped known no_callback action sets advances
  exact ⟨next, watched, counterStep_calm calm alarms_only, moved⟩

end Runs

/-! ## Two alarms on one counter -/

def twoAlarms : CounterSet where
  statusExtended := true
  counterCnt := 1
  alarmCnt := 2
  schtblCnt := 0
  counter _ := { type := .soft, maxallowedvalue := 9, mincycle := 1 }
  alarm alarm := { counter := 0, action := .activateTask (alarm + 1) }
  table _ := { counter := 0, duration := 0, repeating := false, expirePointList := [] }

theorem twoAlarms_unused : AlarmUnused twoAlarms alarm (.start twoAlarms) where
  attached := start_attached twoAlarms
  no_walk := rfl
  running := rfl
  stopped _ := rfl
  alone _ := rfl
  inactive := rfl
  expireVal := zero_le _
  cycletime := zero_le _
  val := zero_le _

/-- An increment that is continued `n` times. -/
def tickAndResume (n : Nat) : List CounterStep :=
  .call (.incrementCounter 0) :: List.replicate n .resume

/-- An alarm acts at exactly the increments at which it is due, if no expiry action increments
its counter and every setting of it is in time. -/
theorem alarm_expires_on_time (config : CounterSet) (alarm : Nat) (rank : Nat → Nat)
    (s : CounterState) (steps : List CounterStep) (known : alarm < config.alarmCnt)
    (no_callback : (config.alarm alarm).action ≠ .alarmCallback)
    (acyclic : ∀ alarm other, (config.alarm alarm).action = .incrementCounter other →
      rank other < rank (config.alarmCounter alarm))
    (unused : AlarmUnused config alarm s) (not_nested : Meets (counterStep config)
      (fun state step => NotNested config alarm state step ∧ SetInTime config alarm state step)
      s steps) :
    let last := run (counterStep config) s steps
    (watch (expectAlarm config alarm (s.counters (config.alarmCounter alarm)).val)
      { ticks := 0, next := none } last.2).isSome = true ∧
    (last.1.alarms alarm).expireVal ≤ config.alarmMax alarm ∧
    (∀ call error, error ≠ .eOk → .returned error ∈ (counterStep config last.1 (.call call)).2 →
      (counterStep config last.1 (.call call)).1.alarms = last.1.alarms) ∧
    ∃ n, (resumed config last.1 n).walks = [] := by
  have in_time := not_nested.imp fun state step condition =>
    And.imp NotNested.nestedInTime id condition
  obtain ⟨plan, watched, calm, tracks⟩ := unused.tracks.run unused.calm known no_callback in_time
  refine ⟨by rw [watched]; rfl, tracks.bounded.1, fun call error failed returned => ?_, ?_⟩
  · generalize steps : counterStep config _ (.call call) = outcome at returned ⊢
    cases counterStep_stepped steps with
    | held => rfl
    | served => rw [serve_error config _ call failed returned]
  · obtain ⟨n, ended, -⟩ := walks_end acyclic calm
    exact ⟨n, ended⟩

/-- A cyclic alarm acts at the second and at the fifth increment. -/
def cyclicRun : List CounterStep :=
  .call (.setRelAlarm 0 2 3) :: tickAndResume 4 ++ tickAndResume 5 ++ tickAndResume 4 ++
    tickAndResume 4 ++ tickAndResume 5

theorem cyclic_alarm_expires_on_time :
    (run (counterStep twoAlarms) (.start twoAlarms) cyclicRun).2.count (.alarmExpired 0) = 2 ∧
    (watch (expectAlarm twoAlarms 0 0) { ticks := 0, next := none }
      (run (counterStep twoAlarms) (.start twoAlarms) cyclicRun).2).isSome = true :=
  ⟨by decide, (alarm_expires_on_time twoAlarms 0 (fun _ => 0) (.start twoAlarms) cyclicRun
    (by decide) (by decide) nofun (twoAlarms_unused 0) (by decide)).1⟩

/-- The task that an alarm activates cancels the alarm and sets it again. -/
def setInOwnActionRun : List CounterStep :=
  .call (.setRelAlarm 0 1 0) :: tickAndResume 2 ++
    [.call (.cancelAlarm 0), .call (.setRelAlarm 0 2 0)] ++ List.replicate 3 .resume ++
    tickAndResume 4 ++ tickAndResume 4

/-- An alarm that is set again in its own expiry action does not act at all. -/
theorem alarm_set_in_own_action_is_lost :
    Meets (counterStep twoAlarms) (NotNested twoAlarms 0) (.start twoAlarms) setInOwnActionRun ∧
    (run (counterStep twoAlarms) (.start twoAlarms) setInOwnActionRun).2.count
      (.alarmSetRel 0 2 0) = 1 ∧
    (run (counterStep twoAlarms) (.start twoAlarms) setInOwnActionRun).2.count
      (.alarmExpired 0) = 1 ∧
    watch (expectAlarm twoAlarms 0 0) { ticks := 0, next := none }
      (run (counterStep twoAlarms) (.start twoAlarms) setInOwnActionRun).2 = none := by
  decide

/-- Also when an expiry action leads to further increments of the counter before the walk is
over: an alarm acts once at each of its increments, and its period does not drift, if no
increment disturbs it and every setting of it is in time. -/
theorem alarm_expires_on_time_when_nested (config : CounterSet) (alarm : Nat) (rank : Nat → Nat)
    (s : CounterState) (steps : List CounterStep) (known : alarm < config.alarmCnt)
    (no_callback : (config.alarm alarm).action ≠ .alarmCallback)
    (acyclic : ∀ alarm other, (config.alarm alarm).action = .incrementCounter other →
      rank other < rank (config.alarmCounter alarm))
    (unused : AlarmUnused config alarm s) (in_time : Meets (counterStep config)
      (fun state step => NestedInTime config alarm state step ∧ SetInTime config alarm state step)
      s steps) :
    let last := run (counterStep config) s steps
    (∃ plan, watch
        (expectAlarm config alarm (s.counters (config.alarmCounter alarm)).val)
        { ticks := 0, next := none } last.2 = some plan ∧
      -- with all walks ended nothing that was due is missing
      (last.1.walks = [] → plan.missed = false)) ∧
    ∃ n, (resumed config last.1 n).walks = [] := by
  obtain ⟨plan, watched, calm, tracks⟩ := unused.tracks.run unused.calm known no_callback in_time
  refine ⟨⟨plan, watched, fun ended => tracks.not_missed (.inl ?_)⟩, ?_⟩
  · simp [lapsOf, ended]
  · obtain ⟨n, ended, -⟩ := walks_end acyclic calm
    exact ⟨n, ended⟩

/-- The task that alarm 1 activates increments the counter once more; alarm 0 is due one
increment later. -/
def nestedRun : List CounterStep :=
  [.call (.setRelAlarm 1 1 0), .call (.setRelAlarm 0 2 0)] ++ tickAndResume 1 ++
    tickAndResume 5 ++ List.replicate 4 .resume

theorem alarm_expires_in_nested_increment :
    (run (counterStep twoAlarms) (.start twoAlarms) nestedRun).2.count (.alarmExpired 0) = 1 ∧
    ∃ plan, watch (expectAlarm twoAlarms 0 0) { ticks := 0, next := none }
      (run (counterStep twoAlarms) (.start twoAlarms) nestedRun).2 = some plan ∧
      plan.missed = false := by
  refine ⟨by decide, ?_⟩
  obtain ⟨⟨plan, watched, complete⟩, -⟩ :=
    alarm_expires_on_time_when_nested twoAlarms 0 (fun _ => 0) (.start twoAlarms) nestedRun
      (by decide) (by decide) nofun (twoAlarms_unused 0) (by decide)
  exact ⟨plan, watched, complete (by decide)⟩

/-- Both alarms are due at the first increment; the task that alarm 1 activates increments the
counter before the walk reaches alarm 0. -/
def skippingRun : List CounterStep :=
  [.call (.setRelAlarm 1 1 0), .call (.setRelAlarm 0 1 0)] ++ tickAndResume 1 ++
    tickAndResume 4 ++ List.replicate 4 .resume

/-- The alarm behind the one that acts is skipped: all walks have ended, and it has not acted. -/
theorem alarm_skipped_by_nested_increment :
    Meets (counterStep twoAlarms) (SetInTime twoAlarms 0) (.start twoAlarms) skippingRun ∧
    (run (counterStep twoAlarms) (.start twoAlarms) skippingRun).1.walks = [] ∧
    (run (counterStep twoAlarms) (.start twoAlarms) skippingRun).2.count (.incremented 0) = 2 ∧
    (run (counterStep twoAlarms) (.start twoAlarms) skippingRun).2.count (.alarmExpired 0) = 0 ∧
    watch (expectAlarm twoAlarms 0 0) { ticks := 0, next := none }
      (run (counterStep twoAlarms) (.start twoAlarms) skippingRun).2 = none := by
  decide

end Os
