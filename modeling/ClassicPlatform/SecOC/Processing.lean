import Mathlib.Data.BitVec
import ClassicPlatform.SecOC.Module

/-!
# Every PDU is processed once

Each main function comes to a result for every PDU that was accepted since the last one, in the
order in which they came in and whatever becomes of the others. `Pending.step` says so, of the
bytes that were accepted. The code keeps pointers to them; it does the same as long as these bytes
stay in place and no genuine PDU has others behind it.
-/
namespace SecOC

open Function List Machine
open ByteLanes (Memory)

/-- A secured PDU with the payload that was received. -/
structure Received extends SecuredIPDU where
  sdu : Bytes

/-- An authentic PDU with the payload that was to be sent. -/
structure Accepted extends AuthenticIPDU where
  sdu : Bytes

def SecuredIPDU.received (m : Memory) (pdu : SecuredIPDU) : Received :=
  { pdu with sdu := pdu.authenticIPDU.sdu m }

def AuthenticIPDU.accepted (m : Memory) (pdu : AuthenticIPDU) : Accepted :=
  { pdu with sdu := pdu.pduInfo.sdu m }

/-- The PDUs that were accepted and have not been processed yet. -/
structure Pending where
  secured : List Received
  authentic : List Accepted

section

variable (config : Config) (keyList : Nat → Bytes)

def Received.data (pdu : Received) : Bytes :=
  dataIdBytes (config.secOCRxPduProcessing pdu.pduId).secOCDataId ++ pdu.sdu

/-- A secured PDU verifies within the attempts that are configured for it. -/
def Received.Passes (cal : Nat → Cal) (pdu : Received) : Prop :=
  ∃ n < (config.secOCRxPduProcessing pdu.pduId).secOCFreshnessCounterSyncAttempts + 1,
    verifyIPDU (cal n) (pdu.data config) pdu.auth = .ok

instance (cal : Nat → Cal) (pdu : Received) : Decidable (pdu.Passes config cal) :=
  inferInstanceAs (Decidable (∃ n < _, _))

def Received.outcome (cal : Nat → Cal) (pdu : Received) : List Output :=
  if pdu.Passes config cal then
    [.rxIndication (config.secOCRxPduProcessing pdu.pduId).secOCPduRPduId pdu.sdu,
      .verified pdu.pduId .verificationSuccess]
  else [.verified pdu.pduId .verificationFailure]

def Accepted.data (pdu : Accepted) : Bytes :=
  dataIdBytes (config.secOCTxPduProcessing pdu.pduId).secOCDataId ++ pdu.sdu

def Accepted.authenticator (cal : Cal) (pdu : Accepted) : StdReturn × Bytes :=
  authenticateIPDU keyList cal (config.secOCTxPduProcessing pdu.pduId).secOCKeyId (pdu.data config)

def Accepted.outcome (cal : Cal) (pdu : Accepted) : List Output :=
  let res := pdu.authenticator config keyList cal
  if res.1 = .ok then
    [.authenticated pdu.pduId .ok,
      .transmit (config.secOCTxPduProcessing pdu.pduId).secOCPduRPduId (pdu.sdu ++ res.2)]
  else [.authenticated pdu.pduId .notOk]

/-- At most 32 PDUs wait in each direction; a main function processes all of them. -/
def Pending.step (pending : Pending) : Call → Pending × List Output
  | .rxIndication m rxPduId (some info) =>
    if pending.secured.length < 32 then
      ({ pending with
        secured := pending.secured ++ [(securedIPDU m rxPduId info).received m] }, [])
    else (pending, [])
  | .rxIndication _ _ none => (pending, [])
  | .transmit m id (some info) =>
    if id < config.nbrOfTxPdus ∧ pending.authentic.length < 32 then
      ({ pending with authentic := pending.authentic ++ [AuthenticIPDU.accepted m ⟨id, info⟩] },
        [.answered .ok])
    else (pending, [.answered .notOk])
  | .transmit _ _ none => (pending, [.answered .notOk])
  | .mainFunction _ cal =>
    (⟨[], []⟩, (pending.secured.mapIdx fun i pdu => pdu.outcome config (cal i)).flatten ++
      (pending.authentic.mapIdx fun i pdu => pdu.outcome config keyList (cal i 0)).flatten)

/-- The bytes that were accepted are still where they were. -/
def Kept (pending : Pending) : Call → Prop
  | .mainFunction m _ => (∀ pdu ∈ pending.secured, pdu.authenticIPDU.sdu m = pdu.sdu) ∧
    ∀ pdu ∈ pending.authentic, pdu.pduInfo.sdu m = pdu.sdu
  | _ => True

/-- The message fits the buffer it is copied to, and the attempts that are configured can be
counted or are not used up. -/
structure Received.Clear (cal : Nat → Cal) (pdu : Received) : Prop where
  fits : (pdu.data config).length ≤ 32
  counted : (config.secOCRxPduProcessing pdu.pduId).secOCFreshnessCounterSyncAttempts < 256 ∨
    pdu.Passes config cal

/-- The message fits the buffer, and so does the secured PDU if there is one. -/
structure Accepted.Clear (cal : Cal) (pdu : Accepted) : Prop where
  fits : (pdu.data config).length ≤ 64
  room : pdu.sdu.length + 32 ≤ 64 ∨ (pdu.authenticator config keyList cal).1 = .notOk

/-- Every PDU can be processed, and only the last of the secured ones is genuine. -/
structure Clear (m : Memory) (cal : Nat → Nat → Cal) (s : State) : Prop where
  secured : ∀ i < s.securedPos, ((s.securedPduBuffer i).received m).Clear config (cal i)
  last : ∀ i, i + 1 < s.securedPos → ¬ ((s.securedPduBuffer i).received m).Passes config (cal i)
  authentic : ∀ i < s.authenticPos,
    ((s.authenticPduBuffer i).accepted m).Clear config s.keyList (cal i 0)

def ClearCall (s : State) : Call → Prop
  | .mainFunction m cal => Clear config m cal s
  | _ => True

end

section

variable {config : Config} {keyList : Nat → Bytes} {m : Memory}

instance {pending : Pending} : (call : Call) → Decidable (Kept pending call)
  | .rxIndication _ _ _ | .transmit _ _ _ => isTrue trivial
  | .mainFunction _ _ => inferInstanceAs (Decidable (_ ∧ _))

instance {cal : Nat → Cal} {pdu : Received} : Decidable (pdu.Clear config cal) :=
  decidable_of_iff (_ ∧ _) ⟨fun h => ⟨h.1, h.2⟩, fun h => ⟨h.fits, h.counted⟩⟩

instance {cal : Cal} {pdu : Accepted} : Decidable (pdu.Clear config keyList cal) :=
  decidable_of_iff (_ ∧ _) ⟨fun h => ⟨h.1, h.2⟩, fun h => ⟨h.fits, h.room⟩⟩

theorem clearCall_iff {s : State} {cal : Nat → Nat → Cal} :
    (∀ i < s.securedPos, ((s.securedPduBuffer i).received m).Clear config (cal i)) ∧
      (∀ i < s.securedPos - 1, ¬ ((s.securedPduBuffer i).received m).Passes config (cal i)) ∧
      (∀ i < s.authenticPos,
        ((s.authenticPduBuffer i).accepted m).Clear config s.keyList (cal i 0)) ↔
    ClearCall config s (.mainFunction m cal) :=
  ⟨fun h => ⟨h.1, fun i below => h.2.1 i (by omega), h.2.2⟩,
    fun h => ⟨h.secured, fun i below => h.last i (by omega), h.authentic⟩⟩

instance {s : State} : (call : Call) → Decidable (ClearCall config s call)
  | .rxIndication _ _ _ | .transmit _ _ _ => isTrue trivial
  | .mainFunction _ _ => decidable_of_iff _ clearCall_iff

end

/-! ## The loops -/

section

variable {config : Config} {keyList : Nat → Bytes} {m : Memory} {cal : Nat → Nat → Cal}
  {verify : Nat → StdReturn}

private theorem verifyAttempts_ok {limit n : Nat} {left tries : Nat}
    (all : left + tries = limit + 1) (below : n < limit + 1) (ahead : tries ≤ n)
    (passes : verify n = .ok) : verifyAttempts limit verify left tries = .ok .ok := by
  induction left generalizing tries with
  | zero => omega
  | succ left ih =>
    rw [verifyAttempts]
    cases verdict : verify tries with
    | ok => rfl
    | notOk =>
      have later : tries ≠ n := by
        rintro rfl
        cases verdict.symm.trans passes
      simp only [show ¬ limit ≤ tries % 256 by omega]
      exact ih (by omega) (by omega)

private theorem verifyAttempts_notOk {limit : Nat} {left tries : Nat}
    (all : left + tries = limit + 1) (counted : limit < 256) (ahead : tries ≤ limit)
    (fails : ∀ n < limit + 1, verify n = .notOk) :
    verifyAttempts limit verify left tries = .ok .notOk := by
  induction left generalizing tries with
  | zero => omega
  | succ left ih =>
    rw [verifyAttempts, fails tries (by omega)]
    simp only [Nat.mod_eq_of_lt (show tries < 256 by omega)]
    split
    · rfl
    · exact ih (by omega) (by omega)

private theorem verifySlot_eq {s : State} {i : Nat}
    (clear : ((s.securedPduBuffer i).received m).Clear config (cal i)) :
    verifySlot config m cal s i =
      .ok (if ((s.securedPduBuffer i).received m).Passes config (cal i) then .ok else .notOk) := by
  have fits : ¬ 32 < ((s.securedPduBuffer i).dataToAuthenticator config m).length :=
    not_lt.mpr clear.fits
  rw [verifySlot, if_neg fits]
  by_cases passes : ((s.securedPduBuffer i).received m).Passes config (cal i)
  · rw [if_pos passes]
    obtain ⟨n, below, genuine⟩ := passes
    exact verifyAttempts_ok (Nat.add_zero _) below (Nat.zero_le n) genuine
  · rw [if_neg passes]
    refine verifyAttempts_notOk (add_zero _) (clear.counted.resolve_right passes)
      (Nat.zero_le _) fun n below => ?_
    cases verdict : verifyIPDU (cal i n) ((s.securedPduBuffer i).dataToAuthenticator config m)
        (s.securedPduBuffer i).auth with
    | ok => exact absurd ⟨n, below, verdict⟩ passes
    | notOk => rfl

private theorem verifyFrom_eq {slots : Nat → SecuredIPDU} {left i : Nat} {s : State}
    (same : ∀ j, i ≤ j → s.securedPduBuffer j = slots j)
    (clear : ∀ j < i + left, ((slots j).received m).Clear config (cal j))
    (last : ∀ j, j + 1 < i + left → ¬ ((slots j).received m).Passes config (cal j)) :
    ∃ buffer, verifyFrom config m cal left i s =
      .ok ({ s with securedPduBuffer := buffer, securedPos := 0 },
        ((List.range' i left).map fun j =>
          ((slots j).received m).outcome config (cal j)).flatten) := by
  induction left generalizing i s with
  | zero => exact ⟨s.securedPduBuffer, rfl⟩
  | succ left ih =>
    have here := same i le_rfl
    rw [List.range'_succ, map_cons, verifyFrom,
      verifySlot_eq (here ▸ clear i (by omega)), here, Received.outcome]
    by_cases passes : ((slots i).received m).Passes config (cal i)
    · -- nothing stands behind a genuine PDU
      obtain rfl : left = 0 := by
        by_contra more
        exact last i (by omega) passes
      simp only [if_pos passes]
      exact ⟨_, rfl⟩
    · have others : ∀ j, i + 1 ≤ j →
          (freeSecuredIPDUBuffers i s).securedPduBuffer j = slots j := fun j behind =>
        (update_of_ne (by omega) _ _).trans (same j (by omega))
      obtain ⟨buffer, rest⟩ := ih others (fun j ahead => clear j (by omega))
        (fun j ahead => last j (by omega))
      refine ⟨buffer, ?_⟩
      simp only [if_neg passes]
      rw [rest]
      rfl

private theorem authenticateSlot_eq {s : State} {i : Nat}
    (clear : ((s.authenticPduBuffer i).accepted m).Clear config s.keyList (cal i 0)) :
    authenticateSlot config m cal s i =
      .ok (((s.authenticPduBuffer i).accepted m).outcome config s.keyList (cal i 0)) := by
  obtain ⟨fits, room⟩ := clear
  have fits : ¬ 64 < ((s.authenticPduBuffer i).dataToAuthenticator config m).length :=
    not_lt.mpr fits
  rw [authenticateSlot, Accepted.outcome, if_neg fits]
  change (if (((s.authenticPduBuffer i).accepted m).authenticator config s.keyList
    (cal i 0)).1 = .notOk then _ else _) = _
  rcases room with room | failed
  · rw [if_neg (show ¬ 64 < ((s.authenticPduBuffer i).pduInfo.sdu m).length + 32 from
      not_lt.mpr room)]
    cases (((s.authenticPduBuffer i).accepted m).authenticator config s.keyList (cal i 0)).1 <;> rfl
  · simp only [failed]
    rfl

private theorem mapM_ok {α β : Type} {f : α → Except Fault β} {g : α → β} {items : List α}
    (each : ∀ a ∈ items, f a = .ok (g a)) : items.mapM f = .ok (items.map g) := by
  induction items with
  | nil => rfl
  | cons a rest ih =>
    rw [mapM_cons, each a mem_cons_self, ih fun b member => each b (mem_cons_of_mem a member)]
    rfl

private theorem authLoop_eq {s : State}
    (clear : ∀ i < s.authenticPos,
      ((s.authenticPduBuffer i).accepted m).Clear config s.keyList (cal i 0)) :
    authLoop config m cal s = .ok ({ s with authenticPos := 0 },
      ((List.range s.authenticPos).map fun i =>
        ((s.authenticPduBuffer i).accepted m).outcome config s.keyList (cal i 0)).flatten) := by
  rw [authLoop, mapM_ok fun i member => authenticateSlot_eq (clear i (mem_range.mp member))]
  rfl

end

/-! ## Runs -/

section

variable {config : Config} {s : State} {pending : Pending}

/-- The slots of the queues hold the PDUs that wait. -/
structure Holds (keyList : Nat → Bytes) (s : State) (pending : Pending) : Prop where
  init : s.state = .init
  keys : s.keyList = keyList
  secured : (List.range s.securedPos).map s.securedPduBuffer =
    pending.secured.map Received.toSecuredIPDU
  authentic : (List.range s.authenticPos).map s.authenticPduBuffer =
    pending.authentic.map Accepted.toAuthenticIPDU

private theorem map_range_push {α : Type} (slots : Nat → α) (pos : Nat) (item : α) :
    (List.range (pos + 1)).map (update slots pos item) =
      (List.range pos).map slots ++ [item] := by
  rw [range_succ, map_append, map_singleton, update_self]
  congr 1
  exact map_congr_left fun i member =>
    update_of_ne (ne_of_lt (mem_range.mp member)) _ _

private theorem mapIdx_slots {α β : Type} (slots : Nat → α) (pos : Nat) (f : Nat → α → β) :
    ((List.range pos).map slots).mapIdx f = (List.range pos).map fun i => f i (slots i) :=
  ext_getElem (by simp) (by simp)

private theorem slots_again {α β : Type} {slots : List α} {items : List β} {forget : β → α}
    (again : α → β) (same : slots = items.map forget)
    (kept : ∀ item ∈ items, again (forget item) = item) : slots.map again = items := by
  rw [same, map_map]
  exact (map_congr_left kept).trans (map_id items)

theorem mainFunction_eq {m : Memory} {cal : Nat → Nat → Cal} (init : s.state = .init)
    (clear : Clear config m cal s) :
    ∃ buffer, mainFunction config m cal s =
      .ok ({ s with securedPduBuffer := buffer, securedPos := 0, authenticPos := 0 },
        ((List.range s.securedPos).map fun i =>
          ((s.securedPduBuffer i).received m).outcome config (cal i)).flatten ++
        ((List.range s.authenticPos).map fun i =>
          ((s.authenticPduBuffer i).accepted m).outcome config s.keyList (cal i 0)).flatten) := by
  obtain ⟨buffer, verified⟩ := @verifyFrom_eq config m cal s.securedPduBuffer s.securedPos 0 s
    (fun _ _ => rfl) (fun i below => clear.secured i (by omega)) fun i below => clear.last i (by omega)
  refine ⟨buffer, ?_⟩
  have authenticated := @authLoop_eq config m cal
    { s with securedPduBuffer := buffer, securedPos := 0 } clear.authentic
  rw [mainFunction, if_neg (by rw [init]; nofun), verifyLoop, verified, range_eq_range']
  change (do let authenticated ← authLoop config m cal _; _) = _
  rw [authenticated]
  rfl

variable {keyList : Nat → Bytes}

theorem Holds.step (holds : Holds keyList s pending) (call : Call)
    (clear : ClearCall config s call) (kept : Kept pending call) :
    (step config s call).2 = (pending.step config keyList call).2 ∧
      Holds keyList (step config s call).1 (pending.step config keyList call).1 := by
  have secured : s.securedPos = pending.secured.length := by
    simpa using congrArg length holds.secured
  have authentic : s.authenticPos = pending.authentic.length := by
    simpa using congrArg length holds.authentic
  cases call with
  | rxIndication m rxPduId info =>
    cases info with
    | none => exact ⟨rfl, holds⟩
    | some info =>
      simp only [SecOC.step, rxIndication, Pending.step]
      by_cases room : pending.secured.length < 32
      · rw [if_pos room, if_neg (show ¬ 31 < s.securedPos by omega)]
        refine ⟨rfl, { holds with secured := ?_ }⟩
        rw [map_append, ← holds.secured]
        exact map_range_push _ _ _
      · rw [if_neg room, if_pos (show 31 < s.securedPos by omega)]
        exact ⟨rfl, holds⟩
  | transmit m id info =>
    have ready : ¬ s.state = .uninit := by rw [holds.init]; nofun
    simp only [SecOC.step, transmit, if_neg ready]
    cases info with
    | none => exact ⟨by split <;> rfl, by split <;> exact holds⟩
    | some info =>
      by_cases room : id < config.nbrOfTxPdus ∧ pending.authentic.length < 32
      · simp only [Pending.step, if_pos room, if_neg (not_le.mpr room.1),
          if_neg (show ¬ 31 < s.authenticPos by omega)]
        refine ⟨trivial, { holds with authentic := ?_ }⟩
        rw [map_append, ← holds.authentic]
        exact map_range_push _ _ _
      · simp only [Pending.step, if_neg room]
        split
        · exact ⟨rfl, holds⟩
        · rw [if_pos (show 31 < s.authenticPos by omega)]
          exact ⟨rfl, holds⟩
  | mainFunction m cal =>
    obtain ⟨buffer, processed⟩ := mainFunction_eq holds.init clear
    have received := slots_again (SecuredIPDU.received m) holds.secured fun pdu member =>
      congrArg (Received.mk pdu.toSecuredIPDU) (kept.1 pdu member)
    have accepted := slots_again (AuthenticIPDU.accepted m) holds.authentic fun pdu member =>
      congrArg (Accepted.mk pdu.toAuthenticIPDU) (kept.2 pdu member)
    simp only [SecOC.step, processed, Pending.step, ← received, ← accepted, map_map, ← holds.keys,
      mapIdx_slots, comp_apply]
    exact ⟨trivial, holds.init, rfl, rfl, rfl⟩

/-- Every PDU that is accepted is processed exactly once, by the next main function, with its own
result and in its turn. -/
theorem processed_exactly_once (calls : List Call)
    (meets : Machine.Meets (step config) (ClearCall config) (secOCInit s) calls)
    (kept : Machine.Meets (Pending.step config s.keyList) Kept ⟨[], []⟩ calls) :
    (run (step config) (secOCInit s) calls).2 =
      (run (Pending.step config s.keyList) ⟨[], []⟩ calls).2 :=
  have start : Holds s.keyList (secOCInit s) ⟨[], []⟩ := ⟨rfl, rfl, rfl, rfl⟩
  run_simulates (fun _ _ call holds => holds.step call) start meets kept

end

/-! ## Genuine PDUs that are lost -/

/-- A code for the examples: all bytes of the key and of the message are added up. -/
def sumMac (key data : Bytes) : Bytes := List.replicate 32 (key ++ data).sum

/-- A crypto library that works without failures. -/
def macCal (mac : Bytes → Bytes → Bytes) : Cal where
  macVerifyStart _ := .ok
  macVerifyUpdate _ _ := .ok
  macVerifyFinish key data tag := (.ok, if tag = mac key data then .verOk else .verNotOk)
  macGenerateStart _ := .ok
  macGenerateUpdate _ _ := .ok
  macGenerateFinish key data := (.ok, mac key data)

def sampleConfig : Config where
  nbrOfTxPdus := 1
  secOCTxPduProcessing _ := { secOCPduRPduId := 5, secOCDataId := 1, secOCKeyId := 0 }
  secOCRxPduProcessing _ :=
    { secOCPduRPduId := 7, secOCDataId := 1, secOCFreshnessCounterSyncAttempts := 1,
      secOCKeyId := 0 }

def sampleState : State where
  state := .uninit
  keyList _ := keyData
  securedPduBuffer _ := { pduId := 0, authenticIPDU := { sduDataPtr := 0, sduLength := 0 }, auth := [] }
  securedPos := 0
  authenticPduBuffer _ := { pduId := 0, pduInfo := { sduDataPtr := 0, sduLength := 0 } }
  authenticPos := 0

/-- A payload in front of its authenticator, and further up with a wrong authenticator. -/
def sampleMemory (payload : BitVec 8) : Memory := fun a =>
  if a = 0 ∨ a = 100 then payload else if a < 100 then payload + 221 else 0

def sampleCall (payload : BitVec 8) (address : Int) : Call :=
  .rxIndication (sampleMemory payload) 0 (some { sduDataPtr := address, sduLength := 33 })

def sampleMain (payload : BitVec 8) : Call :=
  .mainFunction (sampleMemory payload) fun _ _ => macCal sumMac

/-- Of two genuine PDUs only the first is passed on. Where the second one comes in the buffer of
the first, the payload of the second is verified with both authenticators. -/
theorem second_genuine_lost :
    (run (step sampleConfig) (secOCInit sampleState)
      [sampleCall 1 0, sampleCall 1 0, sampleMain 1]).2 =
        [.rxIndication 7 [1], .verified 0 .verificationSuccess] ∧
    (run (Pending.step sampleConfig sampleState.keyList) ⟨[], []⟩
      [sampleCall 1 0, sampleCall 1 0, sampleMain 1]).2 =
        [.rxIndication 7 [1], .verified 0 .verificationSuccess,
          .rxIndication 7 [1], .verified 0 .verificationSuccess] ∧
    (run (step sampleConfig) (secOCInit sampleState)
      [sampleCall 1 0, sampleCall 2 0, sampleMain 2]).2 =
        [.verified 0 .verificationFailure,
          .rxIndication 7 [2], .verified 0 .verificationSuccess] ∧
    (run (Pending.step sampleConfig sampleState.keyList) ⟨[], []⟩
      [sampleCall 1 0, sampleCall 2 0, sampleMain 2]).2 =
        [.rxIndication 7 [1], .verified 0 .verificationSuccess,
          .rxIndication 7 [2], .verified 0 .verificationSuccess] := by
  decide +kernel

/-- A PDU that is not genuine stands before one that is. -/
def forgedFirst : List Call :=
  [sampleCall 1 100, sampleCall 1 0,
    .transmit (sampleMemory 1) 0 (some { sduDataPtr := 0, sduLength := 1 }), sampleMain 1]

theorem processed_exactly_once_sample :
    Machine.Meets (step sampleConfig) (ClearCall sampleConfig) (secOCInit sampleState) forgedFirst ∧
    Machine.Meets (Pending.step sampleConfig sampleState.keyList) Kept ⟨[], []⟩ forgedFirst ∧
    (run (step sampleConfig) (secOCInit sampleState) forgedFirst).2 =
      (run (Pending.step sampleConfig sampleState.keyList) ⟨[], []⟩ forgedFirst).2 :=
  ⟨by decide +kernel, by decide +kernel,
    processed_exactly_once _ (by decide +kernel) (by decide +kernel)⟩

end SecOC
