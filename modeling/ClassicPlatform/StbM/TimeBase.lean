import ClassicPlatform.Lib.Machine

/-!
# Synchronized time bases

A time base that an OS counter drives is brought up to date with the ticks that `GetElapsedValue`
reports. An offset time base is read as the sum of its own time and that of another one.
-/
namespace StbM

open Machine BitVec

structure TimeStamp where
  timeBaseStatus : BitVec 8
  nanoseconds : BitVec 32
  seconds : BitVec 32
  secondsHi : BitVec 16
  deriving DecidableEq, Repr

structure TimeBase where
  synchronisedRawtime : BitVec 32
  currentUserData : List (BitVec 8)
  currentTimeStamp : TimeStamp

structure SyncTimeBase where
  offsetTimeBaseID : Option Nat
  localTimeRef : Option Nat
  ethGlobalTimeDomainRef : Option Nat
  syncTimeBaseId : Nat

structure Config where
  syncTimeBase : List SyncTimeBase
  osTickDuration : BitVec 32

structure State where
  initialized : Bool
  timeBase : Nat → TimeBase

section

variable (config : Config)

/-- `StbM_Internal_UpdateOSCounterTimeStamp`; there are no ticks if `GetElapsedValue` fails. -/
def updateOSCounterTimeStamp (ticks : Option (BitVec 32)) (b : TimeBase) : TimeBase :=
  match ticks with
  | none => b
  | some ticks =>
    let ticksinNs := config.osTickDuration * ticks
    let t : TimeStamp :=
      { b.currentTimeStamp with nanoseconds := b.currentTimeStamp.nanoseconds + ticksinNs }
    { b with
      synchronisedRawtime := b.synchronisedRawtime + ticksinNs
      currentTimeStamp :=
        if 999999999#32 < t.nanoseconds then
          let secondsValue : BitVec 64 :=
            (t.secondsHi.setWidth 64 <<< 32 ||| t.seconds.setWidth 64) + 1
          { t with
            secondsHi := (secondsValue >>> 32).setWidth 16
            seconds := secondsValue.setWidth 32
            nanoseconds := t.nanoseconds - 1000000000#32 }
        else t }

def validateTimeBaseId (timeBaseId : Nat) : Option Nat :=
  config.syncTimeBase.findIdx? (·.syncTimeBaseId = timeBaseId)

/-- What an offset time base is read as. -/
def offsetTime (base offset : TimeStamp) : TimeStamp where
  nanoseconds := base.nanoseconds + offset.nanoseconds
  seconds := base.seconds + offset.seconds
  secondsHi := base.secondsHi + offset.secondsHi
  timeBaseStatus :=
    if offset.nanoseconds ≠ 0 ∨ offset.seconds ≠ 0 ∨ offset.secondsHi ≠ 0 then base.timeBaseStatus
    else 0

/-- What `StbM_GetCurrentTime` returns, and what it writes. -/
structure CurrentTime where
  ok : Bool
  timeStamp : Option TimeStamp := none
  userData : Option (List (BitVec 8)) := none
  deriving DecidableEq, Repr

/-- `StbM_GetCurrentTime`, without hardware time stamps of the Ethernet. -/
def getCurrentTime (timeBaseId : Nat) (ticks : Option (BitVec 32)) (s : State) :
    State × CurrentTime :=
  match if s.initialized then validateTimeBaseId config timeBaseId else none with
  | none => (s, { ok := false })
  | some index =>
    let conf := config.syncTimeBase[index]?
    let userData := some (s.timeBase index).currentUserData
    if timeBaseId ≤ 15 then
      if (conf.bind (·.ethGlobalTimeDomainRef)).isSome ∨ conf.bind (·.localTimeRef) = none then
        (s, { ok := true, userData })
      else
        let b := updateOSCounterTimeStamp config ticks (s.timeBase index)
        ({ s with timeBase := Function.update s.timeBase index b },
          { ok := ticks.isSome, timeStamp := some b.currentTimeStamp, userData })
    else if 31 < timeBaseId then (s, { ok := false })
    else match conf.bind (·.offsetTimeBaseID) with
      | none => (s, { ok := true })
      | some absolute =>
        match validateTimeBaseId config absolute with
        | none => (s, { ok := false })
        | some base =>
          let time := offsetTime (s.timeBase base).currentTimeStamp
            (s.timeBase index).currentTimeStamp
          (s, { ok := true, timeStamp := some time })

/-- An update of a time base, with the ticks that are reported for it. -/
def step (b : TimeBase) (ticks : Option (BitVec 32)) : TimeBase × List (BitVec 32) :=
  (updateOSCounterTimeStamp config ticks b, ticks.toList)

end

/-! ## Exactness -/

/-- The nanoseconds that a time stamp stands for. -/
def TimeStamp.value (t : TimeStamp) : Nat :=
  (t.secondsHi.toNat * 2 ^ 32 + t.seconds.toNat) * 10 ^ 9 + t.nanoseconds.toNat

/-- A normalized time stamp that stands for `time`; the seconds have 48 bits. -/
def TimeStamp.Shows (t : TimeStamp) (time : Nat) : Prop :=
  t.nanoseconds.toNat < 10 ^ 9 ∧ t.value = time % (2 ^ 48 * 10 ^ 9)
  deriving Decidable

theorem secondsValue_toNat (hi : BitVec 16) (lo : BitVec 32) :
    ((hi.setWidth 64 <<< 32 ||| lo.setWidth 64) + 1#64).toNat = hi.toNat * 2 ^ 32 + lo.toNat + 1 := by
  have joined : hi.toNat <<< 32 + lo.toNat = hi.toNat <<< 32 ||| lo.toNat :=
    Nat.shiftLeft_add_eq_or_of_lt lo.isLt _
  simp only [toNat_add, toNat_or, toNat_shiftLeft, toNat_setWidth, toNat_ofNat]
  rw [Nat.mod_eq_of_lt (a := hi.toNat) (by omega), Nat.mod_eq_of_lt (a := lo.toNat) (by omega),
    Nat.mod_eq_of_lt (a := hi.toNat <<< 32) (by rw [Nat.shiftLeft_eq]; omega), ← joined]
  omega

section

variable (config : Config)

/-- The ticks of an OS counter, each of `tickNs` nanoseconds, last as long as so many OS ticks,
and one second is all that is to be carried. -/
def Fits (tickNs : BitVec 32) (b : TimeBase) (ticks : BitVec 32) : Prop :=
  (config.osTickDuration * ticks).toNat = tickNs.toNat * ticks.toNat ∧
    b.currentTimeStamp.nanoseconds.toNat + tickNs.toNat * ticks.toNat < 2 * 10 ^ 9
  deriving Decidable

theorem update_shows_iff (tickNs : BitVec 32) (b : TimeBase) (ticks : BitVec 32) :
    (updateOSCounterTimeStamp config (some ticks) b).currentTimeStamp.Shows
      (b.currentTimeStamp.value + tickNs.toNat * ticks.toNat) ↔ Fits config tickNs b ticks := by
  have bounded : tickNs.toNat * ticks.toNat < 2 ^ 32 * 2 ^ 32 :=
    Nat.mul_lt_mul'' tickNs.isLt ticks.isLt
  simp only [updateOSCounterTimeStamp, TimeStamp.Shows, TimeStamp.value, Fits]
  generalize config.osTickDuration * ticks = ns, tickNs.toNat * ticks.toNat = time at bounded ⊢
  have value := secondsValue_toNat b.currentTimeStamp.secondsHi b.currentTimeStamp.seconds
  generalize (_ + 1#64) = secondsValue at value ⊢
  have sum : (b.currentTimeStamp.nanoseconds + ns).toNat = _ := toNat_add _ _
  split
  next carries =>
    simp only [lt_def, toNat_ofNat] at carries
    simp only [toNat_setWidth, toNat_ushiftRight, toNat_sub, toNat_ofNat]
    omega
  next stays =>
    simp only [lt_def, toNat_ofNat] at stays
    simp only
    omega

theorem offset_shows_iff (base offset : TimeStamp) :
    (offsetTime base offset).Shows (base.value + offset.value) ↔
      base.nanoseconds.toNat + offset.nanoseconds.toNat < 10 ^ 9 ∧
        base.seconds.toNat + offset.seconds.toNat < 2 ^ 32 := by
  simp only [TimeStamp.Shows, TimeStamp.value, offsetTime, toNat_add]
  omega

/-! ## Runs -/

/-- What the reported ticks last. -/
def elapsedTime (tickNs : BitVec 32) (reported : List (BitVec 32)) : Nat :=
  (reported.map fun ticks => tickNs.toNat * ticks.toNat).sum

/-- The time base shows its time at the start and what has elapsed since. -/
def Exact (tickNs : BitVec 32) (start b : TimeBase) (reported : List (BitVec 32)) : Prop :=
  b.currentTimeStamp.Shows (start.currentTimeStamp.value + elapsedTime tickNs reported)
  deriving Decidable

variable {config} {tickNs : BitVec 32} {start b : TimeBase} {past : List (BitVec 32)}

theorem Exact.step {ticks : Option (BitVec 32)} (shows : Exact tickNs start b past)
    (fits : ∀ reported ∈ ticks, Fits config tickNs b reported) :
    Exact tickNs start (step config b ticks).1 (past ++ (step config b ticks).2) := by
  cases ticks with
  | none => simpa [StbM.step, updateOSCounterTimeStamp] using shows
  | some ticks =>
    have shows' := (update_shows_iff config tickNs b ticks).mpr (fits ticks rfl)
    rw [TimeStamp.Shows, shows.2, Nat.mod_add_mod] at shows'
    simpa [StbM.step, Exact, elapsedTime, TimeStamp.Shows, add_assoc] using shows'

end

/-- In every run of updates that fit, a time base is exact; an update is exact if and only if it
fits. An offset time base is read exactly if and only if there is nothing to carry. -/
theorem time_stamps_exact_iff (config : Config) :
    (∀ tickNs start reports, start.currentTimeStamp.nanoseconds.toNat < 10 ^ 9 →
      Meets (step config) (fun b ticks => ∀ reported ∈ ticks, Fits config tickNs b reported) start
        reports →
      Exact tickNs start (run (step config) start reports).1 (run (step config) start reports).2) ∧
    (∀ tickNs b ticks, Exact tickNs b (step config b (some ticks)).1 [ticks] ↔
      Fits config tickNs b ticks) ∧
    ∀ timeBaseId ticks s index conf absolute base, s.initialized = true →
      15 < timeBaseId → timeBaseId ≤ 31 → validateTimeBaseId config timeBaseId = some index →
      config.syncTimeBase[index]? = some conf → conf.offsetTimeBaseID = some absolute →
      validateTimeBaseId config absolute = some base →
      let own := (s.timeBase index).currentTimeStamp
      let other := (s.timeBase base).currentTimeStamp
      ∃ time, (getCurrentTime config timeBaseId ticks s).2 = { ok := true, timeStamp := some time } ∧
        (time.Shows (other.value + own.value) ↔
          other.nanoseconds.toNat + own.nanoseconds.toNat < 10 ^ 9 ∧
            other.seconds.toNat + own.seconds.toNat < 2 ^ 32) := by
  refine ⟨fun tickNs start reports normalized meets => ?_, update_shows_iff config, ?_⟩
  · have shown : Exact tickNs start start [] := by
      refine ⟨normalized, ?_⟩
      simp only [TimeStamp.value, elapsedTime, List.map_nil, List.sum_nil]
      omega
    exact run_history (Exact tickNs start) shown meets fun _ _ _ => Exact.step
  · intro timeBaseId ticks s index conf absolute base on offset known found here refers valid
    refine ⟨_, ?_, offset_shows_iff _ _⟩
    simp [getCurrentTime, on, found, here, refers, valid, Nat.not_le.mpr offset,
      Nat.not_lt.mpr known]

/-- A tick lasts a millisecond; time base 16 is an offset to time base 0. -/
def oneMs : Config where
  syncTimeBase := [⟨none, some 0, none, 0⟩, ⟨some 0, none, none, 16⟩]
  osTickDuration := 1000000

def TimeBase.ofNs (nanoseconds : BitVec 32) : TimeBase := ⟨0, [], ⟨0, nanoseconds, 0, 0⟩⟩

/-- Of two seconds at once only one is carried, and of an offset none. -/
theorem seconds_not_carried :
    ¬ Exact 1000000 (.ofNs 0) (step oneMs (.ofNs 0) (some 2000)).1 [2000] ∧
    (getCurrentTime oneMs 16 none ⟨true, fun _ => .ofNs 600000000⟩).2.timeStamp =
      some ⟨0, 1200000000, 0, 0⟩ := by
  decide

theorem time_stamps_exact_while_fitting :
    Exact 1000000 (.ofNs 0) (run (step oneMs) (.ofNs 0) [some 1500, none, some 700]).1 [1500, 700] := by
  refine (time_stamps_exact_iff oneMs).1 1000000 (.ofNs 0) _ (by decide) ⟨?_, nofun, ?_, trivial⟩ <;>
    rintro reported ⟨⟩ <;> decide

end StbM
