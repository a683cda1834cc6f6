import ClassicPlatform.Lib.Machine
import ClassicPlatform.CanTp.Receiver

/-!
# Reception sessions towards the upper layer

A monitor follows the calls of a receive channel: a granted start of reception
opens a session, its segments and exactly one indication belong to it. Which
frames, ticks and answers keep to this is spelled out branch by branch.
-/
namespace CanTp

open Machine Option SimplexChannel

/-- The PduR identifier whose reception is open, if any. -/
def sessionMonitor (opened : Option Nat) : Call → Option (Option Nat)
  | .pduRStartOfReception id _ .bufReqOk => if opened = none then some (some id) else none
  | .pduRCopyRxData id _ _ _ => if opened = some id then some opened else none
  | .pduRRxIndication id _ => if opened = some id then some none else none
  | _ => some opened

variable (config : Config) (rxConfig : RxNSdu) (rx : SimplexChannel)

/-- The PduR identifier of the N-SDU the channel works for. -/
def Config.owner : Nat :=
  (config.canTpNSduList rx.pduId).canTpRxNSdu.pduRPduId

/-- How an open session and the channel belong together; in particular an idle channel has
none. A reception put off before its first segment was taken has none either. -/
def SessionTracks (opened : Option Nat) : Prop :=
  match rx.state with
  | .idle => opened = none
  | .rxWaitConsecutiveFrame => opened = some (config.owner rx)
  | .rxWaitCfSduBuffer => (opened = none ∧ rx.transferCount = 0) ∨ opened = some (config.owner rx)
  | .rxWaitSfSduBuffer => opened = none ∨ opened = some (config.owner rx)
  | _ => False

/-- The event starts a new reception, whatever the channel was doing. -/
def Resets : RxEvent → Prop
  | .rxIndication tpIndex pdu _ =>
    let entry := config.canTpRxIdList tpIndex
    let nSdu := config.canTpNSduList entry.canTpNSduIndex
    config.addressed entry pdu ∧
      match getFrameType entry.canTpAddressingMode pdu with
      | .singleFrame => singleFrameValid nSdu.canTpRxNSdu nSdu.canTpFDSupport pdu = true
      | .firstFrame => nSdu.canTpRxNSdu.foreign pdu = false
      | _ => False
  | .mainFunction _ => False

/-- The step's calls are in order, a new reception leaves no open session behind, and the
channel still works for the session that is open afterwards. -/
def StepDisciplined (kind : TaType) (rx : SimplexChannel)
    (opened : Option Nat) (event : RxEvent) : Prop :=
  (Resets config event → watch sessionMonitor opened (abortOngoing config rx) = some none) ∧
  ∃ next, watch sessionMonitor opened (rxStep config kind rx event).2 = some next ∧
    SessionTracks config (rxStep config kind rx event).1 next

/-- A step's calls are in order, and the channel works for the session that is open afterwards. -/
def InSession (opened : Option Nat) (step : SimplexChannel × List Call) : Prop :=
  ∃ next, watch sessionMonitor opened step.2 = some next ∧ SessionTracks config step.1 next

/-- A new reception must not find one that was started and then put off. -/
def NothingParked (opened : Option Nat) : Prop :=
  rx.state = .rxWaitCfSduBuffer ∨ rx.state = .rxWaitSfSduBuffer → opened = none

/-- A refused single frame is indicated although nothing was started. -/
def SingleFrameOrderly (ans : RxAnswers) : Prop :=
  ans.startOfReception.1 = .bufReqOk ∨ ans.startOfReception.1 = .bufReqEBusy

/-- A first frame: the request must be granted, or put off or refused with a flow control
frame that can be sent; once granted the segment must not overflow unless the overflow frame
cannot be sent, and a failed copy is indicated under the N-SDU's index. -/
def FirstFrameOrderly (canTpRxNSduId size : Nat) (ans : RxAnswers) : Prop :=
  match ans.startOfReception.1 with
  | .bufReqENotOk => False
  | .bufReqEBusy | .bufReqEOvfl => ans.canIfTransmit = .eOk
  | .bufReqOk =>
    match ans.firstResult size with
    | .bufReqOk | .bufReqEBusy => True
    | .bufReqEOvfl => ans.canIfTransmit ≠ .eOk
    | .bufReqENotOk => canTpRxNSduId = rxConfig.pduRPduId

/-- A consecutive frame must belong to the open session, and if it is put off it must fit into
the local buffer. -/
def ConsecutiveFrameOrderly (pdu : Pdu) (ans : RxAnswers) : Prop :=
  let size := currentSegmentSize rxConfig rx pdu
  rxConfig.pduRPduId = config.owner rx ∧
    ((pdu.sduDataPtr rxConfig.addressBytes &&& 0x0F#8).toNat = rx.framesHandledCount &&& 0x0F →
      segmentResult rx size ans = .bufReqEBusy → rx.nextFlowControlCount = 1 →
      rxConfig.exceedsFrame (sub16 rx.transferTotal rx.transferCount) = true →
      0 < size ∧ size < rx.maxSegSize)

/-- A tick that retries a single frame: a second grant for an open session, and giving up an
open one, are out of order. -/
def SingleRetryOrderly (opened : Option Nat) (ans : RxAnswers) : Prop :=
  let expires := decrement rx.stateTimeoutCount = 0
  match ans.startOfReception.1 with
  | .bufReqOk =>
    opened = none ∧
      match ans.firstResult rx.canFrameBuffer.byteCount with
      | .bufReqOk | .bufReqEOvfl => True
      | .bufReqEBusy => ¬ expires
      | .bufReqENotOk => False
  | .bufReqEBusy => ¬ expires ∨ opened = none
  | .bufReqENotOk => opened = none
  | .bufReqEOvfl => True

/-- A tick that retries the first or a parked consecutive frame. Giving up is in order if no
session is open or if bytes have been transferred, because only then it is indicated. -/
def RetryOrderly (opened : Option Nat) (ans : RxAnswers) : Prop :=
  let exhausted := rx.canTpWftMaxCounter ≥ rxConfig.canTpWftMax
  let expires := decrement rx.stateTimeoutCount = 0
  let size := rx.canFrameBuffer.byteCount
  match ans.startOfReception.1 with
  | .bufReqOk =>
    opened = none ∧
      match ans.firstResult size with
      | .bufReqOk => sub16 rx.transferTotal ((rx.transferCount + size) % 65536) > 0 →
          ans.canIfTransmit = .eOk
      | .bufReqEBusy => ¬ exhausted
      | .bufReqENotOk => False
      | .bufReqEOvfl => True
  | .bufReqEBusy =>
    if exhausted then opened = none ∨ rx.transferCount ≠ 0
    else expires → opened ≠ none ∨ ans.canIfTransmit = .eOk
  | .bufReqENotOk => opened = none ∨ rx.transferCount ≠ 0
  | .bufReqEOvfl => True

/-- Events that keep the sessions in order, by the branch they take. -/
def Orderly (kind : TaType) (rx : SimplexChannel) (opened : Option Nat) : RxEvent → Prop
  | .rxIndication tpIndex pdu ans =>
    let entry := config.canTpRxIdList tpIndex
    let nSdu := config.canTpNSduList entry.canTpNSduIndex
    let rxConfig := nSdu.canTpRxNSdu
    let rx := rx.setFD nSdu.canTpFDSupport
    config.addressed entry pdu →
      match getFrameType entry.canTpAddressingMode pdu with
      | .singleFrame =>
        singleFrameValid rxConfig rx.canfdSupport pdu →
          NothingParked rx opened ∧ SingleFrameOrderly ans
      | .firstFrame =>
        ¬ rxConfig.foreign pdu →
          NothingParked rx opened ∧
            (firstFrameValid config.canTpGeneral rxConfig rx.canfdSupport pdu →
              FirstFrameOrderly rxConfig entry.canTpNSduIndex
                (firstFramePayload rxConfig rx.canfdSupport) ans)
      | .consecutiveFrame =>
        ¬ rxConfig.foreign pdu → rx.state = .rxWaitConsecutiveFrame →
          ConsecutiveFrameOrderly config rxConfig rx pdu ans
      | _ => True
  | .mainFunction ans =>
    rx.pduId ≠ invalidPduId →
      match rx.state, kind with
      | .rxWaitSfSduBuffer, _ => SingleRetryOrderly rx opened ans
      | .rxWaitCfSduBuffer, .canTpPhysical =>
        RetryOrderly (config.canTpNSduList rx.pduId).canTpRxNSdu rx opened ans
      | _, _ => True

variable {copied : SegmentCopy} {size : Nat}

section Watching

variable {rx : SimplexChannel} {ans : RxAnswers} {opened : Option Nat} {rxConfig : RxNSdu}

variable {segment : Nat → Byte} {source : Source}

private theorem watch_started (opened : Option Nat)
    (spec : SegmentSpec rx size ans rxConfig source segment copied)
    (starting : rx.state ≠ .rxWaitConsecutiveFrame) :
    watch sessionMonitor opened copied.calls = if ans.startOfReception.1 = .bufReqOk then
        if opened = none then some (some rxConfig.pduRPduId) else none else some opened := by
  rw [spec.calls]
  simp only [bufferRequest, HandsOver, bufferAnswer, starting, ne_eq, not_false_eq_true, if_true]
  cases ans.startOfReception.1 <;> cases opened <;> simp [sessionMonitor]
  split <;> simp [sessionMonitor]

private theorem watch_queried (opened : Option Nat) (waiting : rx.state = .rxWaitConsecutiveFrame)
    (spec : SegmentSpec rx size ans rxConfig source segment copied) :
    watch sessionMonitor opened copied.calls =
      if opened = some rxConfig.pduRPduId then some opened else none := by
  rw [spec.calls]
  simp only [bufferRequest, waiting, ne_eq, not_true_eq_false, if_false]
  by_cases mine : opened = some rxConfig.pduRPduId
  · split <;> simp [sessionMonitor, mine]
  · simp [sessionMonitor, mine]

variable {config : Config} (general : General)

private theorem watch_flowControl (status : BufReq) :
    watch sessionMonitor opened (sendFlowControlFrame general rxConfig rx status ans).2 =
      if ans.canIfTransmit = .eOk then some opened
      else if opened = some rxConfig.pduRPduId then some none else none := by
  unfold sendFlowControlFrame
  split
  · simp [sessionMonitor]
  · simp [sessionMonitor]

private theorem watch_finish (id : Nat) (result : NotifResult) :
    watch sessionMonitor opened (finishRx rx id result).2 =
      if opened = some id then some none else none := by
  simp [finishRx, sessionMonitor]

private theorem watch_stored (pdu : Pdu) (offset size : Nat) :
    watch sessionMonitor opened (copySegmentToLocalRxBuffer rx pdu offset size).2.2 =
      some opened := by
  unfold copySegmentToLocalRxBuffer
  split <;> simp [sessionMonitor]

private theorem stored_pduId (pdu : Pdu) (offset size : Nat) :
    (copySegmentToLocalRxBuffer rx pdu offset size).2.1.pduId = rx.pduId ∧
      (copySegmentToLocalRxBuffer rx pdu offset size).2.1.transferCount = rx.transferCount := by
  unfold copySegmentToLocalRxBuffer
  split <;> exact ⟨rfl, rfl⟩

private theorem tracks_release : SessionTracks config rx.release opened ↔ opened = none := Iff.rfl

private theorem tracks_finish (id : Nat) (result : NotifResult) :
    SessionTracks config (finishRx rx id result).1 opened ↔ opened = none := Iff.rfl

private theorem tracks_waiting : SessionTracks config (rx.setState .rxWaitConsecutiveFrame) opened ↔
      opened = some (config.owner rx) := Iff.rfl

private theorem tracks_parked : SessionTracks config (rx.setState .rxWaitCfSduBuffer) opened ↔
      (opened = none ∧ rx.transferCount = 0) ∨ opened = some (config.owner rx) := Iff.rfl

private theorem tracks_single : SessionTracks config (rx.setState .rxWaitSfSduBuffer) opened ↔
      opened = none ∨ opened = some (config.owner rx) := Iff.rfl

private theorem tracks_flowControl (status : BufReq) :
    SessionTracks config (sendFlowControlFrame general rxConfig rx status ans).1 opened ↔
      if ans.canIfTransmit = .eOk then SessionTracks config rx opened else opened = none := by
  have noted : SessionTracks config (noteFlowControl rxConfig rx status) opened ↔
      SessionTracks config rx opened := by
    cases status <;> exact Iff.rfl
  unfold sendFlowControlFrame
  split
  · exact noted
  · exact tracks_release

private theorem tracks_setTimeout (count : Nat) :
    SessionTracks config (rx.setTimeout count) opened ↔ SessionTracks config rx opened := Iff.rfl

private theorem flowControl_owner (status : BufReq) (timeout : Nat) :
    config.owner ((sendFlowControlFrame general rxConfig rx status ans).1.setTimeout timeout) =
      if ans.canIfTransmit = .eOk then config.owner rx else config.owner rx.release := by
  unfold sendFlowControlFrame
  split <;> cases status <;> rfl

private theorem firstResult_refused (refused : ans.startOfReception.1 ≠ .bufReqOk) :
    ans.firstResult size = ans.startOfReception.1 := by
  simp [RxAnswers.firstResult, refused]

private theorem watch_abort (tracks : SessionTracks config rx opened) :
    watch sessionMonitor opened (abortOngoing config rx) = some none ↔ NothingParked rx opened := by
  unfold SessionTracks at tracks
  unfold abortOngoing NothingParked
  cases state : rx.state <;> simp only [state] at tracks <;> simp_all [sessionMonitor, Config.owner]

end Watching

variable {general : General}

section Frames

variable {config : Config} {rx : SimplexChannel} {ans : RxAnswers} {pdu : Pdu} {index : Nat}
  {opened : Option Nat}

private theorem handleSingleFrame_disciplined {rxConfig : RxNSdu}
    (own : (config.canTpNSduList index).canTpRxNSdu = rxConfig)
    (valid : singleFrameValid rxConfig rx.canfdSupport pdu)
    (closed : watch sessionMonitor opened (abortOngoing config rx) = some none) :
    InSession config opened (handleSingleFrame config rxConfig rx pdu index ans) ↔
    SingleFrameOrderly ans := by
  unfold InSession handleSingleFrame
  simp only [valid]
  generalize getPduLength rxConfig.canTpAddressingFormant .singleFrame pdu = len
  generalize singleFrameOffset rxConfig rx.canfdSupport = offset
  have starting : (openReception rx len index (rxConfig.canTpNbr + 1)).state ≠
      .rxWaitConsecutiveFrame := nofun
  generalize copies : copySegmentToPduRRxBuffer _ _ _ _ _ _ = copied
  have spec := copySegment_spec copies
  have started := watch_started none spec starting
  have result := spec.first starting
  have owner : copied.rx.pduId = index := by
    rw [spec.channel]
    rfl
  unfold SingleFrameOrderly
  cases ret : copied.ret with
  | bufReqEBusy =>
    have keeps : config.owner (copySegmentToLocalRxBuffer copied.rx pdu offset len).2.1 =
        rxConfig.pduRPduId := by
      simp [Config.owner, stored_pduId, owner, own]
    simp only [watch_append, closed, started, watch_stored, bind_some, if_true,
      tracks_single, keeps]
    by_cases granted : ans.startOfReception.1 = .bufReqOk
    · simp [granted]
    · have busy := (firstResult_refused granted).symm.trans (result.symm.trans ret)
      simp [busy]
  | _ =>
    simp only [watch_append, closed, started, watch_finish, bind_some, if_true, tracks_finish]
    by_cases granted : ans.startOfReception.1 = .bufReqOk
    · simp [granted]
    · have refused := (firstResult_refused granted).symm.trans (result.symm.trans ret)
      first
        | exact absurd refused granted
        | simp [refused]

private theorem handleFirstFrame_disciplined {rxConfig : RxNSdu}
    (own : (config.canTpNSduList index).canTpRxNSdu = rxConfig)
    (mine : rxConfig.foreign pdu = false)
    (closed : watch sessionMonitor opened (abortOngoing config rx) = some none) :
    InSession config opened (handleFirstFrame config rxConfig rx pdu index ans) ↔
    (firstFrameValid config.canTpGeneral rxConfig rx.canfdSupport pdu →
      FirstFrameOrderly rxConfig index (firstFramePayload rxConfig rx.canfdSupport) ans) := by
  unfold InSession handleFirstFrame
  simp only [mine, Bool.false_eq_true, if_false]
  split
  next valid =>
    simp only [valid]
    generalize getPduLength rxConfig.canTpAddressingFormant .firstFrame pdu = len
    generalize firstFramePayload rxConfig rx.canfdSupport = size
    generalize rxConfig.addressBytes + 2 = offset
    have starting : (openSegmented rxConfig rx len index).state ≠ .rxWaitConsecutiveFrame := nofun
    generalize copies : copySegmentToPduRRxBuffer _ _ _ _ _ _ = copied
    have spec := copySegment_spec copies
    have started := watch_started none spec starting
    have result := spec.first starting
    have owner : copied.rx.pduId = index := by
      rw [spec.channel]
      rfl
    have count : copied.ret ≠ .bufReqOk → copied.rx.transferCount = 0 := by
      intro refused
      rw [spec.channel, if_neg refused]
      rfl
    have mine : config.owner copied.rx = rxConfig.pduRPduId := by
      simp [Config.owner, owner, own]
    have settle : ans.startOfReception.1 ≠ .bufReqOk → ans.startOfReception.1 = copied.ret :=
      fun refused => (firstResult_refused refused).symm.trans result.symm
    unfold FirstFrameOrderly
    rw [← result]
    cases ret : copied.ret with
    | bufReqOk =>
      have granted : ans.startOfReception.1 = .bufReqOk := by
        by_contra refused
        exact refused ((settle refused).trans ret)
      have waiting : config.owner (copied.rx.setTimeout (rxConfig.canTpNcr + 1)) =
          rxConfig.pduRPduId := mine
      simp only [watch_append, closed, started, granted, watch_flowControl, tracks_flowControl,
        tracks_waiting, waiting, bind_some, if_true]
      split <;> simp
    | bufReqEBusy =>
      have parked : config.owner ((copySegmentToLocalRxBuffer copied.rx pdu offset
          size).2.1.setTimeout (rxConfig.canTpNbr + 1)) = rxConfig.pduRPduId := by
        simp [Config.owner, setTimeout, stored_pduId, owner, own]
      have none_yet : ((copySegmentToLocalRxBuffer copied.rx pdu offset size).2.1.setTimeout
          (rxConfig.canTpNbr + 1)).transferCount = 0 := by
        simp [setTimeout, stored_pduId, count (by simp [ret])]
      simp only [watch_append, closed, started, watch_stored, watch_flowControl,
        tracks_flowControl, tracks_parked, parked, bind_some]
      by_cases granted : ans.startOfReception.1 = .bufReqOk
      · simp only [granted, if_true]
        split <;> simp
      · have busy := (settle granted).trans ret
        simp only [busy, reduceCtorEq, if_false]
        split <;> simp [*]
    | bufReqEOvfl =>
      simp only [watch_append, watch_flowControl, tracks_release]
      by_cases granted : ans.startOfReception.1 = .bufReqOk
      · split <;> simp [*]
      · have overflow := (settle granted).trans ret
        split <;> simp [*]
    | bufReqENotOk =>
      simp only [watch_append, closed, started, watch_finish, tracks_finish, owner, bind_some]
      by_cases granted : ans.startOfReception.1 = .bufReqOk
      · simp only [granted]
        by_cases same : index = rxConfig.pduRPduId
        · simp [same]
        · simp [same, Ne.symm same]
      · have refused := (settle granted).trans ret
        simp [refused]
  next invalid =>
    refine iff_of_true ⟨none, closed, rfl⟩ fun valid => absurd valid invalid

private theorem advanceReception_disciplined {rxConfig : RxNSdu}
    (waiting : rx.state = .rxWaitConsecutiveFrame) (mine : config.owner rx = rxConfig.pduRPduId) :
    InSession config (some rxConfig.pduRPduId) (advanceReception general rxConfig rx ans) := by
  have counted : ∀ count, SessionTracks config
      { rx.countFrame with nextFlowControlCount := count } (some rxConfig.pduRPduId) := by
    intro count
    simp only [countFrame, waiting]
    exact congrArg some mine.symm
  unfold InSession advanceReception
  split
  · simp only
    split
    · simp only [watch_flowControl, tracks_flowControl]
      split
      · exact ⟨_, rfl, counted _⟩
      · exact ⟨_, rfl, rfl⟩
    · exact ⟨_, rfl, counted (decrement rx.nextFlowControlCount)⟩
  · exact ⟨none, by simp [watch_finish], rfl⟩

private theorem stored_iff (pdu : Pdu) (offset size : Nat) :
    (copySegmentToLocalRxBuffer rx pdu offset size).1 = true ↔ 0 < size ∧ size < rx.maxSegSize := by
  unfold copySegmentToLocalRxBuffer
  split
  next fits => simp [fits]
  next small =>
    simp only [Bool.false_eq_true, false_iff]
    exact fun fits => small fits.symm

private theorem parkConsecutiveFrame_disciplined {rxConfig : RxNSdu}
    {offset left : Nat} (mine : config.owner rx = rxConfig.pduRPduId) :
    InSession config (some rxConfig.pduRPduId)
      (parkConsecutiveFrame general rxConfig rx pdu offset left size ans) ↔
    (rx.nextFlowControlCount = 1 → rxConfig.exceedsFrame left →
      0 < size ∧ size < rx.maxSegSize) := by
  unfold InSession parkConsecutiveFrame
  split
  next last =>
    simp only [last.1, last.2]
    rw [← stored_iff pdu offset size]
    split
    next stored =>
      have owner : config.owner ((copySegmentToLocalRxBuffer rx pdu offset
          size).2.1.countFrame.setTimeout (rxConfig.canTpNbr + 1)) = rxConfig.pduRPduId := by
        rw [← mine]
        simp [Config.owner, setTimeout, countFrame, stored_pduId]
      simp only [stored, watch_append, watch_stored, watch_flowControl, tracks_flowControl,
        tracks_parked, owner]
      split <;> simp
    next unstored =>
      simp only [unstored, watch_stored, tracks_release]
      simp
  next other =>
    refine iff_of_true ⟨none, by simp [watch_finish], rfl⟩ fun last exceeds => ?_
    exact absurd ⟨last, exceeds⟩ other

private theorem handleConsecutiveFrame_disciplined {rxConfig : RxNSdu}
    (mine : rxConfig.foreign pdu = false) (waiting : rx.state = .rxWaitConsecutiveFrame) :
    InSession config (some (config.owner rx)) (handleConsecutiveFrame general rxConfig rx pdu ans) ↔
    ConsecutiveFrameOrderly config rxConfig rx pdu ans := by
  have narrow : sub16 (currentSegmentSize rxConfig rx pdu) 0 = currentSegmentSize rxConfig rx pdu :=
    sub16_of_le (Nat.zero_le _) (currentSegmentSize_lt _ _ _)
  unfold InSession handleConsecutiveFrame ConsecutiveFrameOrderly
  simp only [mine, waiting, Bool.false_eq_true, if_false, if_true, ne_eq]
  by_cases same : rxConfig.pduRPduId = config.owner rx
  · rw [← same]
    by_cases numbered : (pdu.sduDataPtr rxConfig.addressBytes &&& 0x0F#8).toNat =
        rx.framesHandledCount &&& 0x0F
    · simp only [numbered, not_true_eq_false, if_false, true_and]
      generalize copies : copySegmentToPduRRxBuffer _ _ _ _ _ _ = copied
      have spec := copySegment_spec copies
      have queried := watch_queried (some rxConfig.pduRPduId) waiting spec
      have owner : config.owner copied.rx = rxConfig.pduRPduId := by
        rw [spec.channel]
        exact same.symm
      have state : copied.rx.state = .rxWaitConsecutiveFrame := by
        rw [spec.channel]
        exact waiting
      have tracks : SessionTracks config copied.rx (some rxConfig.pduRPduId) := by
        simp [SessionTracks, state, owner]
      rw [← spec.ret]
      cases ret : copied.ret with
      | bufReqEBusy =>
        have fields : copied.rx.nextFlowControlCount = rx.nextFlowControlCount ∧
            copied.rx.maxSegSize = rx.maxSegSize := by
          rw [spec.channel]
          exact ⟨rfl, rfl⟩
        have written := spec.bytesWritten
        simp only [ret, reduceCtorEq, if_false] at written
        simp only [watch_append, queried, forall_const]
        apply (parkConsecutiveFrame_disciplined owner).trans
        rw [written, narrow, fields.1, fields.2]
      | bufReqOk =>
        simp only [watch_append, queried]
        exact iff_of_true (advanceReception_disciplined state owner) nofun
      | bufReqENotOk =>
        simp [watch_append, queried, watch_finish, tracks_finish]
      | bufReqEOvfl => exact iff_of_true ⟨_, by simp [queried], tracks⟩ nofun
    · simp only [numbered, not_false_eq_true, if_true, watch_finish, false_imp_iff,
        and_true, iff_true]
      exact ⟨none, rfl, rfl⟩
  -- the first call already concerns another session
  · have other : ¬ some (config.owner rx) = some rxConfig.pduRPduId :=
      fun equal => same (Option.some.inj equal).symm
    simp only [same, false_and, iff_false]
    rintro ⟨next, watched, -⟩
    split at watched
    · rw [watch_finish, if_neg other] at watched
      cases watched
    · generalize copies : copySegmentToPduRRxBuffer _ _ _ _ _ _ = copied at watched
      have queried := (watch_queried (some (config.owner rx)) waiting
        (copySegment_spec copies)).trans (if_neg other)
      split at watched <;> simp [watch_append, queried] at watched

end Frames

section Ticks

variable {config : Config} {rx : SimplexChannel} {ans : RxAnswers} {opened : Option Nat}
  {rxConfig : RxNSdu}

/-- What a retry of the local buffer has done before its result is looked at. -/
private structure Retried (config : Config) (rxConfig : RxNSdu) (rx : SimplexChannel)
    (ans : RxAnswers) (opened : Option Nat) (copied : SegmentCopy) : Prop where
  result : copied.ret = ans.firstResult rx.canFrameBuffer.byteCount
  timeout : copied.rx.stateTimeoutCount = decrement rx.stateTimeoutCount
  state : copied.rx.state = rx.state
  owner : config.owner copied.rx = rxConfig.pduRPduId
  waits : copied.rx.canTpWftMaxCounter = rx.canTpWftMaxCounter
  total : copied.rx.transferTotal = rx.transferTotal
  count : copied.rx.transferCount = if copied.ret = .bufReqOk then
    (rx.transferCount + rx.canFrameBuffer.byteCount) % 65536 else rx.transferCount
  watched : watch sessionMonitor opened copied.calls =
    if ans.startOfReception.1 = .bufReqOk then
      if opened = none then some (some rxConfig.pduRPduId) else none
    else some opened

private theorem Retried.settle (retried : Retried config rxConfig rx ans opened copied)
    (refused : ans.startOfReception.1 ≠ .bufReqOk) : copied.ret = ans.startOfReception.1 :=
  retried.result.trans (firstResult_refused refused)

private theorem abandonBuffer_disciplined
    (tracks : (opened = none ∧ copied.rx.transferCount = 0) ∨ opened = some rxConfig.pduRPduId) :
    InSession config opened (abandonBuffer rxConfig copied.rx) ↔
    (opened = none ∨ copied.rx.transferCount ≠ 0) := by
  have idle : ∀ next, SessionTracks config (abandonBuffer rxConfig copied.rx).1 next ↔
      next = none := fun next => Iff.rfl
  simp only [InSession, idle]
  unfold abandonBuffer
  rcases tracks with ⟨free, untouched⟩ | taken
  · simp [untouched]
  · by_cases untouched : copied.rx.transferCount = 0
    · simp [untouched]
    · simp [untouched, taken, sessionMonitor]

section

variable (own : (config.canTpNSduList rx.pduId).canTpRxNSdu = rxConfig)
include own

private theorem copySegment_retried (parked : rx.state ≠ .rxWaitConsecutiveFrame)
    (copies : copySegmentToPduRRxBuffer rxConfig (rx.setTimeout (decrement rx.stateTimeoutCount))
      .localBuffer rx.canFrameBuffer.data rx.canFrameBuffer.byteCount ans = copied) :
    Retried config rxConfig rx ans opened copied := by
  have spec := copySegment_spec copies
  constructor
  case result => exact spec.first parked
  case watched => exact watch_started opened spec parked
  case owner =>
    rw [spec.channel]
    exact congrArg RxNSdu.pduRPduId own
  all_goals
    rw [spec.channel]
    rfl

private theorem getBuffSingleFrame_disciplined (parked : rx.state = .rxWaitSfSduBuffer)
    (tracks : opened = none ∨ opened = some rxConfig.pduRPduId) :
    InSession config opened (getBuffSingleFrame rxConfig rx ans) ↔
    SingleRetryOrderly rx opened ans := by
  unfold InSession getBuffSingleFrame SingleRetryOrderly
  simp only
  generalize copies : copySegmentToPduRRxBuffer _ _ _ _ _ _ = copied
  have retried : Retried config rxConfig rx ans opened copied :=
    copySegment_retried own (by simp [parked]) copies
  have still : ∀ next, SessionTracks config copied.rx next ↔
      next = none ∨ next = some rxConfig.pduRPduId := by
    intro next
    simp [SessionTracks, retried.state, parked, retried.owner]
  by_cases granted : ans.startOfReception.1 = .bufReqOk
  · simp only [granted, ← retried.result, retried.timeout]
    by_cases free : opened = none
    · have watched := retried.watched
      simp only [granted, free] at watched ⊢
      cases copied.ret <;>
        simp [watch_append, watched, watch_finish, tracks_finish, tracks_release, still]
      split <;> simp_all [tracks_release]
    · have watched := retried.watched
      simp only [granted, free] at watched
      simp only [free, false_and, iff_false]
      rintro ⟨next, seen, -⟩
      split at seen
      · simp [watch_append, watched] at seen
      · split at seen <;> simp [watched] at seen
  · have refused := retried.settle granted
    have watched := retried.watched
    simp only [granted] at watched
    rw [← refused] at granted ⊢
    cases ret : copied.ret with
    | bufReqOk => exact absurd ret granted
    | bufReqENotOk => simp [watched, tracks_release]
    | bufReqEBusy =>
      simp only [retried.timeout, reduceCtorEq, if_false, true_and, or_false]
      split
      next expired => simp [watched, tracks_release, expired]
      next waiting => simp [watched, still, waiting, tracks]
    | bufReqEOvfl => simp [watched, still, tracks]

variable (parked : rx.state = .rxWaitCfSduBuffer)
include parked

omit own in
private theorem Retried.still (retried : Retried config rxConfig rx ans opened copied)
    (next : Option Nat) : SessionTracks config copied.rx next ↔
      (next = none ∧ copied.rx.transferCount = 0) ∨ next = some rxConfig.pduRPduId := by
  simp [SessionTracks, retried.state, parked, retried.owner]

private theorem retryBuffer_opens (granted : ans.startOfReception.1 = .bufReqOk)
    (untouched : rx.transferCount = 0) :
    InSession config none (retryBuffer general rxConfig rx ans) ↔
      RetryOrderly rxConfig rx none ans := by
  unfold InSession retryBuffer RetryOrderly
  simp only
  generalize copies : copySegmentToPduRRxBuffer _ _ _ _ _ _ = copied
  have retried : Retried config rxConfig rx ans none copied :=
    copySegment_retried own (by simp [parked]) copies
  have still := retried.still parked
  have watched := retried.watched
  simp only [granted, ← retried.result, if_true] at watched ⊢
  rw [← retried.total, ← retried.waits]
  have count := retried.count
  cases ret : copied.ret with
  | bufReqOk =>
    simp only [ret, if_true] at count
    rw [← count]
    simp only [true_and]
    split
    next more =>
      simp only [more, watch_append, watched, watch_flowControl, tracks_waiting, flowControl_owner,
        retried.owner]
      split
      next sent => simp [sent]
      next failed => simp [failed]
    next complete =>
      simp [watch_append, watched, watch_finish, tracks_finish, complete]
  | bufReqEBusy =>
    simp only [ret] at count
    have nothing := count.trans untouched
    simp only [true_and]
    split
    next due =>
      have left : ¬ copied.rx.canTpWftMaxCounter ≥ rxConfig.canTpWftMax := by omega
      simp only [left, watch_append, watched, watch_flowControl, tracks_setTimeout,
        tracks_flowControl, still]
      split <;> simp
    next =>
      split
      next exhausted =>
        simp only [exhausted, watch_append, watched]
        apply (abandonBuffer_disciplined (.inr rfl)).trans
        simp [nothing]
      next left => simp [left, watched, still]
  | bufReqENotOk =>
    simp only [ret] at count
    simp only [watch_append, watched]
    apply (abandonBuffer_disciplined (.inr rfl)).trans
    simp [count, untouched]
  | bufReqEOvfl => simp [watched, still]

private theorem retryBuffer_reopens (granted : ans.startOfReception.1 = .bufReqOk)
    (taken : opened ≠ none) : ¬ InSession config opened (retryBuffer general rxConfig rx ans) := by
  unfold InSession retryBuffer
  simp only
  generalize copies : copySegmentToPduRRxBuffer _ _ _ _ _ _ = copied
  have retried : Retried config rxConfig rx ans opened copied :=
    copySegment_retried own (by simp [parked]) copies
  have watched := retried.watched
  simp only [granted, taken] at watched
  rintro ⟨next, seen, -⟩
  split at seen
  · split at seen <;> simp [watch_append, watched] at seen
  · split at seen
    · simp [watch_append, watched] at seen
    · split at seen <;> simp [watch_append, watched] at seen
  · simp [watch_append, watched] at seen
  · simp [watched] at seen

private theorem retryBuffer_waits (granted : ans.startOfReception.1 ≠ .bufReqOk)
    (tracks : (opened = none ∧ rx.transferCount = 0) ∨ opened = some rxConfig.pduRPduId) :
    InSession config opened (retryBuffer general rxConfig rx ans) ↔
      RetryOrderly rxConfig rx opened ans := by
  unfold InSession retryBuffer RetryOrderly
  simp only
  generalize copies : copySegmentToPduRRxBuffer _ _ _ _ _ _ = copied
  have retried : Retried config rxConfig rx ans opened copied :=
    copySegment_retried own (by simp [parked]) copies
  have still := retried.still parked
  have refused := retried.settle granted
  have watched := retried.watched
  simp only [granted] at watched
  rw [← refused] at granted ⊢
  have count := retried.count
  simp only [granted, if_false] at count
  have tracked := count ▸ tracks
  rw [← count, ← retried.waits]
  cases ret : copied.ret with
  | bufReqOk => exact absurd ret granted
  | bufReqEBusy =>
    simp only [retried.timeout]
    split
    next due =>
      have left : ¬ copied.rx.canTpWftMaxCounter ≥ rxConfig.canTpWftMax := by omega
      simp only [due.1, if_false, watch_append, watched, watch_flowControl, tracks_setTimeout,
        tracks_flowControl, still]
      split
      next sent => simp [sent, tracked]
      next failed =>
        rcases tracks with ⟨free, -⟩ | taken
        · simp [failed, free]
        · simp [taken]
    next early =>
      split
      next =>
        simp only [watch_append, watched]
        exact abandonBuffer_disciplined tracked
      next left =>
        have waiting : ¬ decrement rx.stateTimeoutCount = 0 := by
          intro expired
          exact early ⟨expired, by omega⟩
        simp [waiting, watched, still, tracked]
  | bufReqENotOk =>
    simp only [watch_append, watched]
    exact abandonBuffer_disciplined tracked
  | bufReqEOvfl => simp [watched, still, tracked]

private theorem retryBuffer_disciplined
    (tracks : (opened = none ∧ rx.transferCount = 0) ∨ opened = some rxConfig.pduRPduId) :
    InSession config opened (retryBuffer general rxConfig rx ans) ↔
      RetryOrderly rxConfig rx opened ans := by
  by_cases granted : ans.startOfReception.1 = .bufReqOk
  · rcases tracks with ⟨rfl, untouched⟩ | rfl
    · exact retryBuffer_opens own parked granted untouched
    · refine iff_of_false (retryBuffer_reopens own parked granted nofun) ?_
      simp [RetryOrderly, granted]
  · exact retryBuffer_waits own parked granted tracks

end

end Ticks

section Dispatch

variable {config : Config} {rx : SimplexChannel} {ans : RxAnswers} {pdu : Pdu} {index : Nat}
  {opened : Option Nat} (tracks : SessionTracks config rx opened)
include tracks

private theorem taken_disciplined {taken orderly : Prop} {step : SimplexChannel × List Call}
    (ignored : ¬ taken → step = (rx, []))
    (handled : taken → watch sessionMonitor opened (abortOngoing config rx) = some none →
      (InSession config opened step ↔ orderly)) :
    ((taken → watch sessionMonitor opened (abortOngoing config rx) = some none) ∧
      InSession config opened step) ↔ (taken → NothingParked rx opened ∧ orderly) := by
  by_cases is_taken : taken
  · simp only [is_taken, forall_const]
    rw [watch_abort tracks]
    refine and_congr_right fun clear => ?_
    exact handled is_taken ((watch_abort tracks).mpr clear)
  · refine iff_of_true ⟨fun taken => absurd taken is_taken, ?_⟩ fun taken => absurd taken is_taken
    rw [ignored is_taken]
    exact ⟨opened, rfl, tracks⟩

private theorem consecutiveFrame_disciplined {rxConfig : RxNSdu} :
    InSession config opened (handleConsecutiveFrame general rxConfig rx pdu ans) ↔
    (¬ rxConfig.foreign pdu → rx.state = .rxWaitConsecutiveFrame →
      ConsecutiveFrameOrderly config rxConfig rx pdu ans) := by
  by_cases foreign : rxConfig.foreign pdu = true
  · refine iff_of_true ⟨opened, ?_⟩ fun mine => absurd foreign mine
    simpa [handleConsecutiveFrame, foreign] using tracks
  · have mine := Bool.eq_false_iff.mpr foreign
    by_cases waiting : rx.state = .rxWaitConsecutiveFrame
    · have session : opened = some (config.owner rx) := by
        simpa [SessionTracks, waiting] using tracks
      simp only [mine, waiting, Bool.false_eq_true, not_false_eq_true, forall_const]
      rw [session]
      exact handleConsecutiveFrame_disciplined mine waiting
    · refine iff_of_true ⟨opened, ?_⟩ fun _ taken => absurd taken waiting
      simpa [handleConsecutiveFrame, waiting] using tracks

end Dispatch

variable {kind : TaType} {opened : Option Nat}

private theorem mainFunction_disciplined {config : Config} {rx : SimplexChannel} {ans : RxAnswers}
    (tracks : SessionTracks config rx opened) :
    StepDisciplined config kind rx opened (.mainFunction ans) ↔
      Orderly config kind rx opened (.mainFunction ans) := by
  have ignored : ∃ next, watch sessionMonitor opened [] = some next ∧
      SessionTracks config rx next := ⟨opened, rfl, tracks⟩
  simp only [StepDisciplined, Resets, false_imp_iff, true_and, Orderly, rxStep, canTpRxMainFunction]
  split
  next active =>
    simp only [active, not_false_eq_true, forall_const, ne_eq]
    unfold SessionTracks at tracks
    cases state : rx.state <;> simp only [state] at tracks
    case idle =>
      cases kind <;> simpa [rxPhySduStateMachine, rxFncSduStateMachine, state] using ignored
    case rxWaitConsecutiveFrame =>
      cases kind with
      | canTpFunctional => simpa [rxFncSduStateMachine, state] using ignored
      | canTpPhysical =>
        simp only [rxPhySduStateMachine, state, iff_true]
        split
        · exact ⟨none, by rw [watch_finish, tracks]; exact if_pos rfl, rfl⟩
        · exact ignored
    case rxWaitCfSduBuffer =>
      cases kind with
      | canTpFunctional => simpa [rxFncSduStateMachine, state] using ignored
      | canTpPhysical =>
        simp only [rxPhySduStateMachine, state]
        exact retryBuffer_disciplined rfl state tracks
    case rxWaitSfSduBuffer =>
      cases kind <;> simp only [rxPhySduStateMachine, rxFncSduStateMachine, state] <;>
        exact getBuffSingleFrame_disciplined rfl state tracks
  next inactive => exact iff_of_true ignored fun active => absurd active inactive

private theorem stepDisciplined_iff {config : Config} {rx : SimplexChannel}
    (tracks : SessionTracks config rx opened) (event : RxEvent) :
    StepDisciplined config kind rx opened event ↔ Orderly config kind rx opened event := by
  cases event with
  | mainFunction ans => exact mainFunction_disciplined tracks
  | rxIndication tpIndex pdu ans =>
    simp only [StepDisciplined, Resets, Orderly, rxStep, canTpRxRxIndication]
    generalize config.canTpRxIdList tpIndex = entry
    by_cases addressed : config.addressed entry pdu = true
    · simp only [addressed, true_and, forall_const]
      have stays : SessionTracks config
          (rx.setFD (config.canTpNSduList entry.canTpNSduIndex).canTpFDSupport) opened := tracks
      cases getFrameType entry.canTpAddressingMode pdu with
      | singleFrame =>
        exact taken_disciplined stays (fun invalid => if_neg invalid)
          fun valid closed => handleSingleFrame_disciplined rfl valid closed
      | firstFrame =>
        simp only [Bool.not_eq_true]
        exact taken_disciplined stays (fun foreign => if_pos (eq_true_of_ne_false foreign))
          (handleFirstFrame_disciplined rfl)
      | consecutiveFrame =>
        simp only [false_imp_iff, true_and]
        exact consecutiveFrame_disciplined stays
      | _ => exact iff_of_true ⟨by simp, opened, rfl, stays⟩ trivial
    · simp only [addressed, Bool.false_eq_true, false_and, false_imp_iff, true_and, iff_true]
      exact ⟨opened, rfl, tracks⟩

/-- The channel with the upper layer's view of it. -/
def sessionStep (kind : TaType) (state : SimplexChannel × Option Nat)
    (event : RxEvent) : (SimplexChannel × Option Nat) × List Call :=
  let (rx, calls) := rxStep config kind state.1 event
  ((rx, (watch sessionMonitor state.2 calls).getD none), calls)

/-- The view is what the monitor has seen, and it fits the channel. -/
private def Follows (state : SimplexChannel × Option Nat) (seen : Option Nat) : Prop :=
  state.2 = seen ∧ SessionTracks config state.1 state.2

private theorem sessionStep_follows {config : Config}
    (state : SimplexChannel × Option Nat) (event : RxEvent) (seen : Option Nat)
    (follows : Follows config state seen) (orderly : Orderly config kind state.1 state.2 event) :
    Accepts sessionMonitor (Follows config) seen (sessionStep config kind state event) := by
  obtain ⟨rx, opened⟩ := state
  obtain ⟨rfl, tracks⟩ := follows
  obtain ⟨-, next, watched, tracked⟩ := (stepDisciplined_iff tracks event).mpr orderly
  have view : (sessionStep config kind (rx, opened) event).1.2 = next := by
    simp [sessionStep, watched]
  refine ⟨next, watched, view, ?_⟩
  rw [view]
  exact tracked

/-- In every run of orderly events the calls of a receive channel form sessions, and no open
session is left behind by the channel. In every state so reached, orderly is also what the next
event must be. -/
theorem receive_sessions_disciplined (config : Config) (kind : TaType) (channel : SimplexChannel)
    (events : List RxEvent) (orderly : Meets (sessionStep config kind)
      (fun state event => Orderly config kind state.1 state.2 event)
      (initRx15765RuntimeData channel, none) events) :
    let last := (run (sessionStep config kind) (initRx15765RuntimeData channel, none) events).1
    watch sessionMonitor none
      (run (sessionStep config kind) (initRx15765RuntimeData channel, none) events).2 =
        some last.2 ∧
    SessionTracks config last.1 last.2 ∧
    ∀ event, StepDisciplined config kind last.1 last.2 event ↔
      Orderly config kind last.1 last.2 event := by
  intro last
  have initially : Follows config (initRx15765RuntimeData channel, none) none := ⟨rfl, rfl⟩
  obtain ⟨seen, watched, rfl, tracks⟩ := run_watched _ initially orderly sessionStep_follows
  exact ⟨watched, tracks, stepDisciplined_iff tracks⟩

theorem tenByteTransfer_disciplined :
    Meets (sessionStep (receiveConfig false) .canTpPhysical)
      (fun state event => Orderly (receiveConfig false) .canTpPhysical state.1 state.2 event)
      (initRx15765RuntimeData .cleared, none) tenByteTransfer ∧
    watch sessionMonitor none (run (sessionStep (receiveConfig false) .canTpPhysical)
      (initRx15765RuntimeData .cleared, none) tenByteTransfer).2 = some none := by
  have orderly : Meets (sessionStep (receiveConfig false) .canTpPhysical)
      (fun state event => Orderly (receiveConfig false) .canTpPhysical state.1 state.2 event)
      (initRx15765RuntimeData .cleared, none) tenByteTransfer := by
    refine ⟨fun _ _ => ⟨fun _ => rfl, fun _ => ?_⟩, fun _ _ _ => ⟨rfl, fun _ busy => ?_⟩, trivial⟩
    · exact trivial
    · exact absurd busy (by decide)
  exact ⟨orderly, (receive_sessions_disciplined (receiveConfig false) .canTpPhysical .cleared _
    orderly).1⟩

/-- A first frame whose reception is granted but whose segment does not fit yet is put off; the
next tick asks for the same reception again and it is granted twice. -/
def grantedTwice : List RxEvent :=
  [.rxIndication 0 (.ofList [0x10, 20, 1, 2, 3, 4, 5, 6]) (.agreeing 3),
    .mainFunction (.agreeing 100)]

theorem reception_granted_twice :
    (run (rxStep (receiveConfig false) .canTpPhysical) (initRx15765RuntimeData .cleared)
      grantedTwice).2.filter (fun call => match call with
        | .pduRStartOfReception .. | .pduRRxIndication .. => true
        | _ => false) =
      [.pduRStartOfReception 5 20 .bufReqOk, .pduRStartOfReception 5 20 .bufReqOk] ∧
    watch sessionMonitor none
      (run (rxStep (receiveConfig false) .canTpPhysical) (initRx15765RuntimeData .cleared)
        grantedTwice).2 = none := by
  decide

end CanTp
