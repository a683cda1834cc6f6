import ClassicPlatform.CanTp.Sending

/-!
# The receiving end of a transfer

How many frames a receive channel has taken and after how many it will send the
next clear-to-send frame. A frame ends the reception, moves it on, or is the last
of a block and then granted or put off.
-/
namespace CanTp

open AddressingFormat Credit List Machine Nat SimplexChannel

section

variable (link : Link) (rx : SimplexChannel)

/-- What stays the same from the first frame on. -/
structure Receiving : Prop where
  pduId : rx.pduId = link.entry.canTpNSduIndex
  classic : rx.canfdSupport = false
  total : rx.transferTotal = link.sdu.length
  target : link.format = .canTpExtended →
    rx.extendedAddress = BitVec.ofNat 8 link.rxConfig.canTpNTa

/-- The channel has taken this many frames and expects them until `due`. -/
inductive ReceiverAt : (received due : Nat) → Prop
  | fresh (state : rx.state = .idle) : ReceiverAt 0 1
  | waiting {received due : Nat} (receiving : Receiving link rx)
      (state : rx.state = .rxWaitConsecutiveFrame) (size : rx.bs = link.rxConfig.canTpBs)
      (unlimited : link.rxConfig.canTpBs = 0 → rx.nextFlowControlCount = 0)
      (number : rx.framesHandledCount = received)
      (count : rx.transferCount = link.carried received) (begun : 0 < received)
      (left : received < link.frames)
      (block : Until link.rxConfig.canTpBs rx.nextFlowControlCount link.frames received due) :
      ReceiverAt received due

/-- The payload of the last of these frames waits in the local buffer. -/
structure ParkedAt (received : Nat) : Prop where
  receiving : Receiving link rx
  state : rx.state = .rxWaitCfSduBuffer
  number : rx.framesHandledCount = received + 1
  count : rx.transferCount = link.carried received
  left : received + 1 < link.frames
  byteCount : rx.canFrameBuffer.byteCount = link.carried (received + 1) - link.carried received
  payload : link.sdu.take (link.carried received) ++
      takeBytes rx.canFrameBuffer.data rx.canFrameBuffer.byteCount =
    link.sdu.take (link.carried (received + 1))

end

/-- The upper layer's share grows from the first `before` to the first `after` frames. -/
def Takes (link : Link) (before after : Nat) (indicated : Option NotifResult)
    (calls : List Call) : Prop :=
  ∀ seen : Observed, seen.indicated = none →
    seen.received = link.sdu.take (link.carried before) →
    watch (observe link) seen (calls.map .receiver) = some { seen with
      received := link.sdu.take (link.carried after), indicated := indicated }

/-- The receiver has sent clear-to-send after this many frames, and its countdown agrees with
the block size it has announced. -/
structure Granted (link : Link) (received : Nat) (result : SimplexChannel × List Call) : Prop where
  reaches : ∃ due, ReceiverAt link result.1 received due ∧
    Until link.rxConfig.canTpBs link.rxConfig.canTpBs link.frames received due
  number : result.1.framesHandledCount = received
  sends : ∃ frame, transmitted result.2 = [frame] ∧ FlowControl link 0#8 frame

/-- What becomes of frame number `received`. -/
inductive Delivered (link : Link) (received due : Nat) (taken : Prop)
    (result : SimplexChannel × List Call) : Prop
  | ends (last : received + 1 = link.frames) (state : result.1.state = .idle)
      (silent : transmitted result.2 = [])
      (takes : Takes link received (received + 1) (some .ntfRsltOk) result.2)
  | continues (early : received + 1 < due) (reaches : ReceiverAt link result.1 (received + 1) due)
      (silent : transmitted result.2 = [])
      (takes : Takes link received (received + 1) none result.2)
  | grants (turn : received + 1 = due) (left : due < link.frames)
      (granted : Granted link (received + 1) result)
      (takes : Takes link received (received + 1) none result.2)
  | parks (refused : ¬ taken) (turn : received + 1 = due) (parked : ParkedAt link result.1 received)
      (sends : ∀ frame ∈ transmitted result.2, FlowControl link 1#8 frame)
      (takes : Takes link received received none result.2)

section Receiver

variable {link : Link} {rx : SimplexChannel} {received due : Nat} {frame : List Byte}
  {ans : RxAnswers}

theorem rxAddressBytes_eq (rxConfig : RxNSdu) :
    rxConfig.addressBytes = rxConfig.canTpAddressingFormant.tpciOffset := by
  unfold RxNSdu.addressBytes tpciOffset
  cases rxConfig.canTpAddressingFormant <;> rfl

private theorem flowControlFrame_control (matching : link.Matching) (general : General)
    (receiving : Receiving link rx) (stack : Nat → Byte) :
    FlowControl link 0#8 (flowControlFrame general link.rxConfig rx .bufReqOk stack) ∧
      FlowControl link 1#8 (flowControlFrame general link.rxConfig rx .bufReqEBusy stack) := by
  have same := matching.rxFormat
  have target := receiving.target
  cases format : link.format with
  | canTpStandard =>
    constructor <;> constructor <;>
      simp [flowControlFrame, same, format, tpciOffset]
  | canTpExtended =>
    have address := target format
    constructor <;> constructor <;>
      simp [flowControlFrame, same, format, tpciOffset, address]

theorem transmitted_append (first second : List Call) :
    transmitted (first ++ second) = transmitted first ++ transmitted second :=
  filterMap_append

private theorem Takes.append {before middle after : Nat} {indicated : Option NotifResult}
    {first second : List Call} (takes : Takes link before middle none first)
    (next : Takes link middle after indicated second) :
    Takes link before after indicated (first ++ second) := by
  intro seen open_ have_
  rw [map_append, watch_append, takes seen open_ have_, Option.bind_some]
  rw [next _ rfl rfl]

private theorem takes_nothing {n : Nat} {calls : List Call}
    (skipped : ∀ seen : Observed, seen.indicated = none →
      ∀ call ∈ calls, observe link seen (.receiver call) = some seen) :
    Takes link n n none calls := by
  intro seen open_ have_
  have watched : watch (observe link) seen (calls.map .receiver) = some seen := by
    refine watch_skip fun output member => ?_
    obtain ⟨call, inside, rfl⟩ := mem_map.mp member
    exact skipped seen open_ call inside
  rw [watched, ← have_, ← open_]

private theorem observe_bufferRequest (seen : Observed) (open_ : seen.indicated = none) :
    observe link seen (.receiver (bufferRequest link.rxConfig rx ans)) = some seen := by
  unfold bufferRequest
  split
  · rfl
  · obtain ⟨bytes, indicated, confirmed, waits, grants⟩ := seen
    subst open_
    cases ans.queryRxData.1 <;> simp [observe]

section Segment

variable {size : Nat} {source : Source} {segment : Nat → Byte} {copied : SegmentCopy}

theorem segment_silent {rxConfig : RxNSdu}
    (spec : SegmentSpec rx size ans rxConfig source segment copied) :
    transmitted copied.calls = [] := by
  rw [spec.calls]
  unfold bufferRequest transmitted
  split <;> split <;> rfl

variable (spec : SegmentSpec rx size ans link.rxConfig source segment copied)
include spec

private theorem segment_taken (ok : copied.ret = .bufReqOk) :
    copied.rx = { rx with
      sizeBuffer := ans.copyRxData.2, transferCount := (rx.transferCount + size) % 65536 } ∧
    ∀ before after, link.sdu.take (link.carried before) ++ takeBytes segment size =
      link.sdu.take (link.carried after) → Takes link before after none copied.calls := by
  have result := spec.ret.symm.trans ok
  have handed : HandsOver rx size ans := by
    by_contra kept
    simp only [segmentResult, kept, if_false] at result
    split at result
    · cases result
    · exact absurd result ‹_›
  have taken : ans.copyRxData.1 = .bufReqOk := by
    simpa [segmentResult, handed, if_true] using result
  constructor
  · rw [spec.channel, ok]
    simp [freeSpace, handed]
  · intro before after grows seen open_ have_
    rw [spec.calls]
    simp only [handed, map_cons, watch_cons]
    rw [observe_bufferRequest seen open_]
    simp [observe, taken, open_, have_, grows]

private theorem segment_refused (kept : copied.ret ≠ .bufReqOk) (n : Nat) :
    copied.rx = { rx with sizeBuffer := freeSpace rx size ans } ∧
      Takes link n n none copied.calls := by
  constructor
  · rw [spec.channel, if_neg kept]
  · refine takes_nothing fun seen open_ call member => ?_
    rw [spec.calls, mem_cons] at member
    rcases member with rfl | member
    · exact observe_bufferRequest seen open_
    · split at member
      next handed =>
        obtain rfl := mem_singleton.mp member
        have other : ans.copyRxData.1 ≠ .bufReqOk := by
          simpa [spec.ret, segmentResult, handed, if_true] using kept
        cases answer : ans.copyRxData.1 <;> first | exact absurd answer other | rfl
      next => cases member

end Segment

private theorem sendFlowControlFrame_sent (link : Link) (rx : SimplexChannel) (general : General)
    (status : BufReq) (n : Nat) (accepted : ans.canIfTransmit = .eOk) :
    let sent := sendFlowControlFrame general link.rxConfig rx status ans
    sent.1 = noteFlowControl link.rxConfig rx status ∧
      transmitted sent.2 = [flowControlFrame general link.rxConfig rx status ans.stack] ∧
      Takes link n n none sent.2 := by
  have sends : sendFlowControlFrame general link.rxConfig rx status ans =
      (noteFlowControl link.rxConfig rx status, [.canIfTransmit link.rxConfig.canIfFcPduId
        (flowControlFrame general link.rxConfig rx status ans.stack) .eOk]) := by
    simp [sendFlowControlFrame, accepted]
  rw [sends]
  refine ⟨rfl, rfl, takes_nothing fun seen open_ call member => ?_⟩
  obtain rfl := mem_singleton.mp member
  rfl

private theorem finishRx_reported (n : Nat) :
    let finished := finishRx rx link.rxConfig.pduRPduId .ntfRsltOk
    finished.1.state = .idle ∧ transmitted finished.2 = [] ∧
      Takes link n n (some .ntfRsltOk) finished.2 := by
  refine ⟨rfl, rfl, fun seen open_ have_ => ?_⟩
  simp [finishRx, observe, open_, ← have_]

section

variable (matching : link.Matching)
include matching

private theorem computedBs_covers (classic : rx.canfdSupport = false)
    (begun : 0 < received) (left : received < link.frames)
    (ample : link.Ample rx.sizeBuffer (link.sdu.length - link.carried received)) :
    ∃ due, Until link.rxConfig.canTpBs (computedBs link.rxConfig rx) link.frames received due ∧
      Until link.rxConfig.canTpBs link.rxConfig.canTpBs link.frames received due := by
  have payload : blockPayload link.rxConfig rx.canfdSupport = link.format.payload := by
    unfold blockPayload
    rw [matching.rxFormat, classic]
    cases link.format <;> rfl
  unfold Link.Ample Link.carried at ample
  rw [frames_left begun] at ample
  refine until_grant ?_ (Nat.min_le_right _ _) left
  unfold computedBs
  rw [payload]
  exact Nat.le_min.mpr ⟨ample, Nat.min_le_left _ _⟩

section

variable (carries : Carries link.format link.target link.sdu received frame)
include carries

private theorem carries_addressed :
    link.receiver.addressed link.entry (.ofList frame) ∧
      link.rxConfig.foreign (.ofList frame) = false ∧
      (link.format = .canTpExtended →
        ((Pdu.ofList frame).sduDataPtr 0).toNat = link.rxConfig.canTpNTa) := by
  have target : link.format = .canTpExtended →
      ((Pdu.ofList frame).sduDataPtr 0).toNat = link.rxConfig.canTpNTa := by
    intro extended
    obtain ⟨same, -, byte⟩ := matching.addresses extended
    apply (congrArg BitVec.toNat (carries.target extended)).trans
    rw [Link.target, BitVec.toNat_ofNat, mod_eq_of_lt byte, same]
  have kind := carries.getFrameType
  refine ⟨?_, ?_, target⟩
  · unfold Config.addressed
    rw [matching.rxMode, kind]
    have selected : selectsReceive link.rxConfig link.format (.ofList frame) = true := by
      unfold selectsReceive
      split
      next extended => simpa using target extended
      next => rfl
    refine decide_eq_true ⟨matching.rxIndex, ?_, selected⟩
    split
    · simp
    · split <;> simp
  · unfold RxNSdu.foreign
    rw [matching.rxFormat]
    apply decide_eq_false
    rintro ⟨extended, other⟩
    exact other (target extended)

theorem canTpRxRxIndication_carries (ans : RxAnswers) :
    canTpRxRxIndication link.receiver link.entry rx (.ofList frame) ans =
      if received ≠ 0 then
        handleConsecutiveFrame link.receiver.canTpGeneral link.rxConfig (rx.setFD false)
          (.ofList frame) ans
      else if link.sdu.length ≤ link.format.payload then
        handleSingleFrame link.receiver link.rxConfig (rx.setFD false) (.ofList frame)
          link.entry.canTpNSduIndex ans
      else
        handleFirstFrame link.receiver link.rxConfig (rx.setFD false) (.ofList frame)
          link.entry.canTpNSduIndex ans := by
  have classic : (link.receiver.canTpNSduList link.entry.canTpNSduIndex).canTpFDSupport = false :=
    matching.rxClassic
  have config : (link.receiver.canTpNSduList link.entry.canTpNSduIndex).canTpRxNSdu =
      link.rxConfig := rfl
  unfold canTpRxRxIndication
  rw [if_pos (carries_addressed matching carries).1, matching.rxMode, carries.getFrameType]
  simp only [classic, config]
  by_cases first : received = 0
  · by_cases single : link.sdu.length ≤ link.format.payload
    · simp [first, single]
    · simp [first, single]
  · simp [first]

end

private theorem deliver_single (some_byte : 0 < link.sdu.length)
    (idle : rx.state = .idle) (carries : Carries link.format link.target link.sdu 0 frame)
    (single : link.sdu.length ≤ link.format.payload)
    (stored : link.Storable rx (.ofList frame) ans) :
    Delivered link 0 1 (link.Taken rx (.ofList frame) ans)
      (canTpRxRxIndication link.receiver link.entry rx (.ofList frame) ans) := by
  have one : link.frames = 1 := frameCount_eq_one.mpr single
  have length := carries.singleLength single
  have target := (carries_addressed matching carries).2.2
  have result : ans.firstResult link.sdu.length = .bufReqOk := by
    have kind := carries.getFrameType
    simp only [ne_eq, not_true_eq_false, if_false, single, if_true] at kind
    simpa [Link.Storable, Link.Taken, Link.answer, Link.deferrable, kind, length,
      Bool.false_eq_true, and_false, or_false] using stored
  have valid : singleFrameValid link.rxConfig false (.ofList frame) = true := by
    unfold singleFrameValid
    rw [matching.rxFormat, length]
    cases format : link.format with
    | canTpStandard =>
      rw [format] at single
      simp only [payload] at single
      simp only [reduceCtorEq, if_false]
      rw [if_neg (by omega)]
    | canTpExtended =>
      rw [format] at single
      simp only [payload] at single
      simp only [if_true, target format]
      rw [if_neg (by omega)]
  have offset : singleFrameOffset link.rxConfig false =
      headerBytes link.format link.sdu.length 0 := by
    unfold singleFrameOffset headerBytes
    rw [rxAddressBytes_eq, matching.rxFormat, if_neg (not_and_of_not_right _ (not_not.mpr single))]
    rfl
  have share : link.sdu.length = CanTp.carried link.format link.sdu.length 1 -
      CanTp.carried link.format link.sdu.length 0 := by
    rw [carried_one, beginning, if_pos single]
    rfl
  have grows := carries.take_append offset share
  rw [canTpRxRxIndication_carries matching carries, if_neg (not_not.mpr rfl), if_pos single]
  have quiet : abortOngoing link.receiver (rx.setFD false) = [] := by
    simp [abortOngoing, setFD, idle]
  unfold handleSingleFrame
  simp only [matching.rxFormat, length, show (rx.setFD false).canfdSupport = false from rfl,
    valid, if_true]
  generalize copies : copySegmentToPduRRxBuffer _ _ _ _ _ _ = copied
  have spec := copySegment_spec copies
  have stored := (spec.first (by rintro ⟨⟩)).trans result
  have taken := segment_taken spec stored
  have silent := segment_silent spec
  simp only [stored, quiet, nil_append]
  refine .ends one.symm rfl ?_ ?_
  · rw [transmitted_append, silent]
    rfl
  · exact (taken.2 0 1 grows).append (finishRx_reported 1).2.2

end

private theorem localRxBuffer_keeps (link : Link) (classic : rx.canfdSupport = false) (pdu : Pdu)
    (offset n : Nat) {size : Nat} (some_byte : 0 < size) (fits : size < 8) :
    let copied := copySegmentToLocalRxBuffer rx pdu offset size
    copied.1 = true ∧
      (∃ data, copied.2.1 = { rx with canFrameBuffer := { data := data, byteCount := size } } ∧
        takeBytes data size = takeBytes (fun i => pdu.sduDataPtr (offset + i)) size) ∧
      transmitted copied.2.2 = [] ∧ Takes link n n none copied.2.2 := by
  have room : size < rx.maxSegSize ∧ 0 < size := by
    simp only [maxSegSize, classic]
    exact ⟨fits, some_byte⟩
  unfold copySegmentToLocalRxBuffer
  rw [if_pos room]
  refine ⟨rfl, ⟨_, rfl, ?_⟩, rfl, takes_nothing fun seen open_ call member => ?_⟩
  · refine map_congr_left fun i inside => ?_
    rw [if_pos (mem_range.mp inside)]
  · obtain rfl := mem_singleton.mp member
    rfl

private theorem grant_reached (matching : link.Matching) (general : General)
    (receiving : Receiving link rx) (number : rx.framesHandledCount = received)
    (count : rx.transferCount = link.carried received) (begun : 0 < received)
    (left : received < link.frames)
    (ample : link.Ample rx.sizeBuffer (link.sdu.length - link.carried received))
    (accepted : ans.canIfTransmit = .eOk) {before : List Call} (silent : transmitted before = [])
    (timeout : Nat) :
    let sent := sendFlowControlFrame general link.rxConfig rx .bufReqOk ans
    Granted link received
      ((sent.1.setTimeout timeout).setState .rxWaitConsecutiveFrame, before ++ sent.2) := by
  obtain ⟨channel, sends, -⟩ := sendFlowControlFrame_sent link rx general .bufReqOk 0 accepted
  obtain ⟨due, mine, theirs⟩ := computedBs_covers matching receiving.classic begun left ample
  have unlimited : link.rxConfig.canTpBs = 0 → computedBs link.rxConfig rx = 0 := by
    intro zero
    simp [computedBs, zero]
  dsimp only
  rw [channel]
  constructor
  case reaches =>
    refine ⟨due, .waiting ?_ rfl rfl unlimited number count begun left mine, theirs⟩
    exact { receiving with }
  case number => exact number
  case sends =>
    refine ⟨_, ?_, (flowControlFrame_control matching general receiving ans.stack).1⟩
    rw [transmitted_append, silent, sends]
    rfl

private theorem sendFlowControlFrame_waiting (general : General)
    (state : rx.state = .rxWaitConsecutiveFrame) (accepted : ans.canIfTransmit = .eOk) :
    let sent := sendFlowControlFrame general link.rxConfig rx .bufReqOk ans
    sent.1 = (sent.1.setTimeout rx.stateTimeoutCount).setState .rxWaitConsecutiveFrame := by
  dsimp only
  rw [(sendFlowControlFrame_sent link rx general .bufReqOk 0 accepted).1, ← state]
  rfl

section

variable (matching : link.Matching)
include matching

private theorem wait_sent (general : General)
    (parked : ParkedAt link rx received) (accepted : ans.canIfTransmit = .eOk) :
    let sent := sendFlowControlFrame general link.rxConfig rx .bufReqEBusy ans
    ParkedAt link sent.1 received ∧
      (∀ frame ∈ transmitted sent.2, FlowControl link 1#8 frame) ∧
      Takes link received received none sent.2 := by
  obtain ⟨channel, sends, takes⟩ :=
    sendFlowControlFrame_sent link rx general .bufReqEBusy received accepted
  refine ⟨?_, ?_, takes⟩
  · rw [channel]
    exact { parked with receiving := { parked.receiving with } }
  · rw [sends]
    intro frame member
    obtain rfl := mem_singleton.mp member
    exact (flowControlFrame_control matching general parked.receiving ans.stack).2

private theorem consecutive_offset (later : received ≠ 0) :
    link.rxConfig.addressBytes + 1 = headerBytes link.format link.sdu.length received := by
  unfold headerBytes
  rw [rxAddressBytes_eq, matching.rxFormat, if_neg (fun first => later first.1)]

private theorem parked_share (begun : 0 < received)
    (block : Until link.rxConfig.canTpBs rx.nextFlowControlCount link.frames received due)
    (unlimited : link.rxConfig.canTpBs = 0 → rx.nextFlowControlCount = 0)
    (last : rx.nextFlowControlCount = 1)
    (exceeds : link.rxConfig.exceedsFrame (link.sdu.length - link.carried received) = true) :
    link.carried (received + 1) - link.carried received < 8 ∧
      0 < link.carried (received + 1) - link.carried received ∧
      received + 1 < link.frames ∧ received + 1 = due := by
  have wide : link.format.payload < link.sdu.length - link.carried received := by
    unfold RxNSdu.exceedsFrame at exceeds
    rw [matching.rxFormat] at exceeds
    cases format : link.format <;> simpa [format, payload] using exceeds
  have next : link.carried (received + 1) = link.carried received +
      min link.format.payload (link.sdu.length - link.carried received) := carried_succ begun
  have narrow : link.format.payload < 8 ∧ 0 < link.format.payload := by
    cases link.format <;> decide
  have more : received + 1 < link.frames :=
    (carried_lt_iff (succ_pos _)).mp (show link.carried (received + 1) < _ by omega)
  exact ⟨by omega, by omega, more,
    (block.runs_out more).mp ⟨by omega, fun zero => absurd (unlimited zero) (by omega)⟩⟩

section

variable (most : link.sdu.length ≤ 4095)
include most

private theorem deliver_first
    (idle : rx.state = .idle) (carries : Carries link.format link.target link.sdu 0 frame)
    (segmented : ¬ link.sdu.length ≤ link.format.payload)
    (stored : link.Storable rx (.ofList frame) ans) (covered : link.Covered rx (.ofList frame) ans)
    (accepted : ans.canIfTransmit = .eOk) :
    Delivered link 0 1 (link.Taken rx (.ofList frame) ans)
      (canTpRxRxIndication link.receiver link.entry rx (.ofList frame) ans) := by
  have several : 1 < link.frames := by
    have positive := @frameCount_pos link.format link.sdu.length
    have one := mt frameCount_eq_one.mp segmented
    unfold Link.frames
    omega
  have length := carries.firstLength segmented most
  have foreign := (carries_addressed matching carries).2.1
  have kind := carries.getFrameType
  simp only [ne_eq, not_true_eq_false, if_false, segmented] at kind
  simp only [Link.Storable, Link.Taken, Link.answer, Link.Covered, Link.missing,
    kind] at stored covered ⊢
  have share : firstFramePayload link.rxConfig false =
      CanTp.carried link.format link.sdu.length 1 -
        CanTp.carried link.format link.sdu.length 0 := by
    rw [carried_one, beginning, if_neg segmented, firstFramePayload, matching.rxFormat]
    cases link.format <;> rfl
  have offset : link.rxConfig.addressBytes + 2 = headerBytes link.format link.sdu.length 0 := by
    unfold headerBytes
    rw [rxAddressBytes_eq, matching.rxFormat, if_pos ⟨rfl, segmented⟩]
  have valid : firstFrameValid link.receiver.canTpGeneral link.rxConfig false (.ofList frame) =
      true := by
    have whole := carries.whole
    rw [← offset, ← share] at whole
    simp only [firstFrameValid, matching.rxFormat, length, segmentationValid, decide_eq_true_eq]
    simp only [firstFramePayload, matching.rxFormat, rxAddressBytes_eq] at whole
    have long : ¬ (Pdu.ofList frame).sduLength < 8 := by
      change ¬ frame.length < 8
      cases format : link.format <;>
        simp only [format, tpciOffset, reduceCtorEq, if_true, if_false] at whole <;>
        omega
    refine ⟨fun empty => segmented (by omega), ?_, long⟩
    cases format : link.format <;> simp only [format, payload] at segmented <;>
      simp [segmented]
  have quiet : abortOngoing link.receiver (rx.setFD false) = [] := by
    simp [abortOngoing, setFD, idle]
  rw [canTpRxRxIndication_carries matching carries, if_neg (not_not.mpr rfl), if_neg segmented]
  have opened : Receiving link (openSegmented link.rxConfig (rx.setFD false) link.sdu.length
      link.entry.canTpNSduIndex) := by
    refine ⟨rfl, rfl, rfl, fun extended => ?_⟩
    simp [openSegmented, matching.rxFormat, extended]
  unfold handleFirstFrame
  simp only [foreign, Bool.false_eq_true, if_false, quiet, matching.rxFormat, length,
    show (rx.setFD false).canfdSupport = false from rfl, valid, if_true, nil_append]
  generalize copies : copySegmentToPduRRxBuffer _ _ _ _ _ _ = copied
  have spec := copySegment_spec copies
  have silent := segment_silent spec
  rw [← spec.first (by rintro ⟨⟩)] at stored covered ⊢
  have small : firstFramePayload link.rxConfig false < 8 ∧ 0 < firstFramePayload link.rxConfig false := by
    unfold firstFramePayload
    split <;> decide
  have first : firstFramePayload link.rxConfig false = link.carried 1 := share
  rcases stored with taken | busy
  · obtain ⟨channel, takes⟩ := segment_taken spec taken
    simp only [taken]
    have count : copied.rx.transferCount = link.carried 1 := by
      rw [channel]
      change (0 + firstFramePayload link.rxConfig false) % 65536 = _
      omega
    have receiving : Receiving link ((copied.rx.setTimeout (link.rxConfig.canTpNcr + 1)).setState
        .rxWaitConsecutiveFrame) := by
      rw [channel]
      exact { opened with }
    have number : copied.rx.framesHandledCount = 1 := by
      rw [channel]
      rfl
    have free : copied.rx.sizeBuffer = ans.copyRxData.2 := by rw [channel]
    refine .grants rfl several ?_
      ((takes 0 1 (carries.take_append offset share)).append
        (sendFlowControlFrame_sent link _ _ .bufReqOk 1 accepted).2.2)
    rw [sendFlowControlFrame_waiting _ rfl accepted]
    refine grant_reached matching _ receiving number count Nat.one_pos several ?_ accepted silent _
    change link.Ample copied.rx.sizeBuffer _
    rw [free, ← first]
    exact covered taken _ rfl
  · obtain ⟨channel, takes⟩ := segment_refused spec (by simp [busy]) 0
    have classic : copied.rx.canfdSupport = false := by rw [channel]; exact opened.classic
    obtain ⟨-, ⟨data, kept, same⟩, unsent, untaken⟩ := localRxBuffer_keeps link classic
      (.ofList frame) (link.rxConfig.addressBytes + 2) 0 small.2 small.1
    simp only [busy]
    generalize copySegmentToLocalRxBuffer _ _ _ _ = local_ at *
    have parked : ParkedAt link ((local_.2.1.setTimeout (link.rxConfig.canTpNbr + 1)).setState
        .rxWaitCfSduBuffer) 0 := by
      rw [kept, channel]
      refine ⟨{ opened with }, rfl, rfl, rfl, several, share, ?_⟩
      change _ ++ takeBytes data (firstFramePayload link.rxConfig false) = _
      rw [same]
      exact carries.take_append offset share
    obtain ⟨still, sends, quietly⟩ := wait_sent matching link.receiver.canTpGeneral parked accepted
    refine .parks (by simp) rfl still ?_ ((takes.append untaken).append quietly)
    rw [transmitted_append, transmitted_append, silent, unsent]
    simpa [nil_append] using sends

private theorem currentSegmentSize_carries (receiving : Receiving link rx)
    (count : rx.transferCount = link.carried received) (begun : 0 < received)
    (carries : Carries link.format link.target link.sdu received frame) :
    currentSegmentSize link.rxConfig rx (.ofList frame) =
      link.carried (received + 1) - link.carried received := by
  have within := @carried_le link.format link.sdu.length received
  have share : link.carried (received + 1) - link.carried received =
      min link.format.payload (link.sdu.length - link.carried received) := by
    unfold Link.carried
    rw [carried_succ begun, Nat.add_sub_cancel_left]
  have whole := carries.whole
  have header : headerBytes link.format link.sdu.length received = link.format.tpciOffset + 1 := by
    unfold headerBytes
    rw [if_neg (fun first => Nat.ne_of_gt begun first.1)]
  have room : link.format.tpciOffset + 1 + link.format.payload = 8 := by
    cases link.format <;> rfl
  have short := carries.short
  unfold Link.carried at share count ⊢
  unfold currentSegmentSize
  rw [receiving.total, count, rxAddressBytes_eq, matching.rxFormat, sub16_of_le within (by omega)]
  change (if _ < sub16 frame.length _ then _ else sub16 frame.length _) = _
  rw [sub16_of_le (by omega) (by omega)]
  split <;> omega

omit matching in
private theorem park_consecutive (receiving : Receiving link rx)
    (number : rx.framesHandledCount = received) (count : rx.transferCount = link.carried received)
    (more : received + 1 < link.frames) {data : Nat → Byte} {n timeout : Nat}
    (share : n = link.carried (received + 1) - link.carried received)
    (grows : link.sdu.take (link.carried received) ++ takeBytes data n =
      link.sdu.take (link.carried (received + 1))) :
    ParkedAt link (((({ rx with canFrameBuffer := { data, byteCount := n } }).countFrame.setTimeout
      timeout).setState .rxWaitCfSduBuffer)) received := by
  have small : link.frames < 65536 := frameCount_lt most
  refine ⟨{ receiving with }, rfl, ?_, count, more, share, grows⟩
  change (rx.framesHandledCount + 1) % 65536 = received + 1
  rw [number]
  exact mod_eq_of_lt (by omega)

section

variable (receiving : Receiving link rx) (state : rx.state = .rxWaitConsecutiveFrame)
  (size : rx.bs = link.rxConfig.canTpBs)
  (unlimited : link.rxConfig.canTpBs = 0 → rx.nextFlowControlCount = 0)
  (number : rx.framesHandledCount = received)
include receiving state size unlimited number

private theorem advanceReception_delivered
    (count : rx.transferCount = link.carried (received + 1)) (left : received < link.frames)
    (block : Until link.rxConfig.canTpBs rx.nextFlowControlCount link.frames received due)
    (covered : rx.nextFlowControlCount = 1 →
      link.Ample rx.sizeBuffer (link.sdu.length - link.carried (received + 1)))
    (accepted : ans.canIfTransmit = .eOk) {before : List Call} (silent : transmitted before = [])
    (takes : Takes link received (received + 1) none before) (taken : Prop) :
    let advanced := advanceReception link.receiver.canTpGeneral link.rxConfig rx ans
    Delivered link received due taken (advanced.1, before ++ advanced.2) := by
  have missing : link.carried (received + 1) < link.sdu.length ↔ received + 1 < link.frames :=
    carried_lt_iff (succ_pos received)
  have within : link.carried (received + 1) ≤ link.sdu.length := carried_le _
  have small : link.frames < 65536 := frameCount_lt most
  have counted : rx.countFrame.framesHandledCount = received + 1 := by
    simp only [countFrame, number]
    exact mod_eq_of_lt (by omega)
  have still : Receiving link
      { rx.countFrame with nextFlowControlCount := rx.nextFlowControlCount - 1 } :=
    { receiving with }
  unfold advanceReception
  rw [receiving.total, count, sub16_of_le within (by omega)]
  split
  next more =>
    have more : received + 1 < link.frames := by omega
    simp only [decrement_eq]
    split
    next runs_out =>
      rw [show rx.countFrame.bs = rx.bs from rfl] at runs_out
      have turn : received + 1 = due := (block.runs_out more).mp ⟨runs_out.1, by omega⟩
      have once : rx.nextFlowControlCount = 1 := by
        have inside := block.ends
        unfold stop at inside
        rw [if_neg (by omega)] at inside
        omega
      refine .grants turn (by omega) ?_
        (takes.append (sendFlowControlFrame_sent link _ _ .bufReqOk _ accepted).2.2)
      rw [sendFlowControlFrame_waiting _ (by exact state) accepted]
      exact grant_reached matching _ still counted count (succ_pos _) more (covered once)
        accepted silent _
    next goes_on =>
      have early : received + 1 ≠ due := by
        intro turn
        obtain ⟨zero, limited⟩ := (block.runs_out more).mpr turn
        refine goes_on ⟨zero, ?_⟩
        rw [show rx.countFrame.bs = rx.bs from rfl]
        omega
      have inside := block.inside
      refine .continues (by omega) (.waiting
        { receiving with } state size ?_
        counted count (succ_pos _) more (block.pass more early)) ?_ ?_
      · intro zero
        change rx.nextFlowControlCount - 1 = 0
        rw [unlimited zero]
      · rw [append_nil, silent]
      · rw [append_nil]
        exact takes
  next complete =>
    refine .ends (by omega) rfl ?_ (takes.append (finishRx_reported _).2.2)
    rw [transmitted_append, silent]
    rfl

private theorem deliver_consecutive (count : rx.transferCount = link.carried received)
    (begun : 0 < received) (left : received < link.frames)
    (block : Until link.rxConfig.canTpBs rx.nextFlowControlCount link.frames received due)
    (carries : Carries link.format link.target link.sdu received frame)
    (stored : link.Storable rx (.ofList frame) ans) (covered : link.Covered rx (.ofList frame) ans)
    (accepted : ans.canIfTransmit = .eOk) :
    Delivered link received due (link.Taken rx (.ofList frame) ans)
      (canTpRxRxIndication link.receiver link.entry rx (.ofList frame) ans) := by
  have later : received ≠ 0 := Nat.ne_of_gt begun
  have foreign := (carries_addressed matching carries).2.1
  have kind := carries.getFrameType
  simp only [later, ne_eq, not_false_eq_true, if_true] at kind
  simp only [Link.Storable, Link.Taken, Link.answer, Link.deferrable, Link.Covered, Link.missing,
    kind, decide_eq_true_eq] at stored covered ⊢
  have share := currentSegmentSize_carries matching most receiving count begun carries
  have mono : link.carried received ≤ link.carried (received + 1) := carried_mono _
  have within : link.carried (received + 1) ≤ link.sdu.length := carried_le _
  have offset := consecutive_offset matching later
  have numbered : ((Pdu.ofList frame).sduDataPtr link.rxConfig.addressBytes &&& 0x0F#8).toNat =
      rx.framesHandledCount &&& 0x0F := by
    rw [rxAddressBytes_eq, matching.rxFormat, number]
    exact carries.segmentNumber later
  have classic : rx.setFD false = rx := by
    rw [← receiving.classic]
    rfl
  rw [canTpRxRxIndication_carries matching carries, if_pos later, classic]
  unfold handleConsecutiveFrame
  simp only [foreign, Bool.false_eq_true, if_false, state, if_true, numbered, ne_eq,
    not_true_eq_false]
  rw [receiving.total, count, sub16_of_le (by omega) (by omega)] at stored covered ⊢
  rw [share] at stored covered ⊢
  generalize copies : copySegmentToPduRRxBuffer _ _ _ _ _ _ = copied
  have spec := copySegment_spec copies
  have silent := segment_silent spec
  rw [← spec.ret] at stored covered ⊢
  have grows := carries.take_append offset (show link.carried (received + 1) -
    link.carried received = _ from rfl)
  rcases stored with taken | ⟨busy, last, exceeds⟩
  · obtain ⟨channel, takes⟩ := segment_taken spec taken
    simp only [taken]
    have next : copied.rx.transferCount = link.carried (received + 1) := by
      rw [channel]
      simp only [count]
      omega
    have free : copied.rx.nextFlowControlCount = 1 → link.Ample copied.rx.sizeBuffer
        (link.sdu.length - link.carried (received + 1)) := by
      rw [channel]
      intro once
      have ample := covered taken _ (if_pos once)
      rwa [show link.sdu.length - link.carried received -
        (link.carried (received + 1) - link.carried received) =
        link.sdu.length - link.carried (received + 1) by omega] at ample
    refine advanceReception_delivered matching most ?_ ?_ ?_ ?_ ?_ next left ?_ free
      accepted silent (takes received (received + 1) grows) _
    all_goals rw [channel]
    · exact { receiving with }
    · exact state
    · exact size
    · exact unlimited
    · exact number
    · exact block
  · obtain ⟨channel, takes⟩ := segment_refused spec (by simp [busy]) received
    have written := spec.bytesWritten
    simp only [busy, reduceCtorEq, if_false] at written
    obtain ⟨short, some_byte, more, turn⟩ := parked_share matching begun block unlimited last
      exceeds
    obtain ⟨open_, number, count, last⟩ : Receiving link copied.rx ∧
        copied.rx.framesHandledCount = received ∧
        copied.rx.transferCount = link.carried received ∧ copied.rx.nextFlowControlCount = 1 := by
      rw [channel]
      exact ⟨{ receiving with }, number, count, last⟩
    obtain ⟨fits, ⟨data, kept, bytes⟩, unsent, untaken⟩ := localRxBuffer_keeps link open_.classic
      (.ofList frame) (link.rxConfig.addressBytes + 1) received
      some_byte short
    simp only [busy]
    rw [written, sub16_of_le (Nat.zero_le _) (by omega), Nat.sub_zero]
    unfold parkConsecutiveFrame
    rw [if_pos ⟨last, exceeds⟩]
    simp only [fits, if_true]
    generalize copySegmentToLocalRxBuffer _ _ _ _ = local_ at *
    have parked : ParkedAt link ((local_.2.1.countFrame.setTimeout
        (link.rxConfig.canTpNbr + 1)).setState .rxWaitCfSduBuffer) received := by
      rw [kept]
      exact park_consecutive most open_ number count more rfl (bytes ▸ grows)
    obtain ⟨still, sends, quietly⟩ := wait_sent matching link.receiver.canTpGeneral parked accepted
    refine .parks (by simp) turn still ?_ (takes.append (untaken.append quietly))
    rw [transmitted_append, transmitted_append, silent, unsent]
    simpa [nil_append] using sends

end

end

theorem frame_delivered (some_byte : 0 < link.sdu.length)
    (most : link.sdu.length ≤ 4095) (here : ReceiverAt link rx received due)
    (carries : Carries link.format link.target link.sdu received frame)
    (stored : link.Storable rx (.ofList frame) ans) (covered : link.Covered rx (.ofList frame) ans)
    (accepted : ans.canIfTransmit = .eOk) :
    Delivered link received due (link.Taken rx (.ofList frame) ans)
      (canTpRxRxIndication link.receiver link.entry rx (.ofList frame) ans) := by
  cases here with
  | fresh idle =>
    by_cases single : link.sdu.length ≤ link.format.payload
    · exact deliver_single matching some_byte idle carries single stored
    · exact deliver_first matching most idle carries single stored covered accepted
  | waiting receiving state size unlimited number count begun left block =>
    exact deliver_consecutive matching most receiving state size unlimited number count
      begun left block carries stored covered accepted

end

theorem canTpRxMainFunction_idle (idle : rx.state = .idle) (kind : TaType) :
    canTpRxMainFunction link.receiver kind rx ans = (rx, []) := by
  unfold canTpRxMainFunction
  split
  · cases kind <;> simp [rxPhySduStateMachine, rxFncSduStateMachine, idle]
  · rfl

private theorem pduId_valid (matching : link.Matching) (receiving : Receiving link rx) :
    rx.pduId ≠ invalidPduId ∧
      (link.receiver.canTpNSduList rx.pduId).canTpRxNSdu = link.rxConfig := by
  rw [receiving.pduId]
  exact ⟨matching.rxIndex, rfl⟩

theorem ReceiverAt.setTimeout (here : ReceiverAt link rx received due) (timeout : Nat) :
    ReceiverAt link (rx.setTimeout timeout) received due := by
  cases here with
  | fresh idle => exact .fresh idle
  | waiting receiving state size unlimited number count begun left block =>
    exact .waiting { receiving with } state size unlimited number count begun left block

theorem canTpRxMainFunction_waits (matching : link.Matching) (here : ReceiverAt link rx received due)
    (kind : TaType) (ans : RxAnswers)
    (timely : rx.state = .rxWaitConsecutiveFrame → kind = .canTpPhysical →
      1 < rx.stateTimeoutCount) :
    ∃ timeout, canTpRxMainFunction link.receiver kind rx ans = (rx.setTimeout timeout, []) := by
  cases here with
  | fresh idle => exact ⟨rx.stateTimeoutCount, canTpRxMainFunction_idle idle kind⟩
  | waiting receiving state size unlimited number count begun left block =>
    obtain ⟨valid, own⟩ := pduId_valid matching receiving
    simp only [canTpRxMainFunction, valid, ne_eq, own]
    cases kind with
    | canTpFunctional =>
      have ignored : rxFncSduStateMachine link.rxConfig rx ans = (rx, []) := by
        simp [rxFncSduStateMachine, state]
      exact ⟨rx.stateTimeoutCount, ignored⟩
    | canTpPhysical =>
      have running : ¬ rx.stateTimeoutCount - 1 = 0 := by
        have := timely state rfl
        omega
      refine ⟨rx.stateTimeoutCount - 1, ?_⟩
      simp [rxPhySduStateMachine, state, decrement_eq, running, setTimeout]

/-- A parked reception after a tick: granted, or parked still, possibly with a wait frame. -/
inductive RetryOutcome (link : Link) (received : Nat) (result : SimplexChannel × List Call) : Prop
  | grants (granted : Granted link (received + 1) result)
      (takes : Takes link received (received + 1) none result.2)
  | waits (parked : ParkedAt link result.1 received)
      (sends : ∀ frame ∈ transmitted result.2, FlowControl link 1#8 frame)
      (takes : Takes link received received none result.2)

theorem canTpRxMainFunction_parked (matching : link.Matching) (most : link.sdu.length ≤ 4095)
    (parked : ParkedAt link rx received) (kind : TaType) (retries : link.Retries rx ans)
    (accepted : ans.canIfTransmit = .eOk) :
    RetryOutcome link received (canTpRxMainFunction link.receiver kind rx ans) := by
  obtain ⟨valid, own⟩ := pduId_valid matching parked.receiving
  simp only [canTpRxMainFunction, valid, ne_eq, not_false_eq_true, if_true, own]
  cases kind with
  | canTpFunctional =>
    have ignored : rxFncSduStateMachine link.rxConfig rx ans = (rx, []) := by
      simp [rxFncSduStateMachine, parked.state]
    rw [ignored]
    exact .waits parked nofun (takes_nothing nofun)
  | canTpPhysical =>
    simp only [rxPhySduStateMachine, parked.state, retryBuffer]
    replace parked : ParkedAt link (rx.setTimeout (decrement rx.stateTimeoutCount)) received :=
      { parked with receiving := { parked.receiving with } }
    replace retries : link.Retries (rx.setTimeout (decrement rx.stateTimeoutCount)) ans := retries
    generalize rx.setTimeout (decrement rx.stateTimeoutCount) = rx at *
    obtain ⟨refused, exhausted, ample⟩ := retries parked.state
    generalize copies : copySegmentToPduRRxBuffer _ _ _ _ _ _ = copied
    have spec := copySegment_spec copies
    rw [← spec.first (by simp [parked.state])] at refused exhausted ample
    have silent := segment_silent spec
    by_cases taken : copied.ret = .bufReqOk
    · obtain ⟨channel, takes⟩ := segment_taken spec taken
      have mono : link.carried received ≤ link.carried (received + 1) := carried_mono _
      have within : link.carried (received + 1) ≤ link.sdu.length := carried_le _
      have count : (rx.transferCount + rx.canFrameBuffer.byteCount) % 65536 =
          link.carried (received + 1) := by
        rw [parked.count, parked.byteCount]
        omega
      have missing : link.carried (received + 1) < link.sdu.length :=
        (carried_lt_iff (succ_pos _)).mpr parked.left
      have total : copied.rx.transferTotal = link.sdu.length := by
        rw [channel]
        exact parked.receiving.total
      have next : copied.rx.transferCount = link.carried (received + 1) := by
        rw [channel]
        exact count
      simp only [taken]
      rw [total, next, sub16_of_le within (by omega), if_pos (by omega)]
      refine .grants ?_ ((takes received (received + 1) parked.payload).append
        (sendFlowControlFrame_sent link _ _ .bufReqOk _ accepted).2.2)
      refine grant_reached matching _ ?_ ?_ next (succ_pos _) parked.left ?_ accepted silent _
      · rw [channel]
        exact { parked.receiving with }
      · rw [channel]
        exact parked.number
      · rw [channel]
        have free := ample taken
        rwa [parked.receiving.total, parked.count, parked.byteCount, add_sub_of_le mono] at free
    · obtain ⟨channel, takes⟩ := segment_refused spec taken received
      have waiting : ParkedAt link copied.rx received := by
        rw [channel]
        exact { parked with receiving := { parked.receiving with } }
      cases answer : copied.ret with
      | bufReqOk => exact absurd answer taken
      | bufReqENotOk => exact absurd answer refused
      | bufReqEOvfl => exact .waits waiting (by simp [silent]) takes
      | bufReqEBusy =>
        have left : copied.rx.canTpWftMaxCounter < link.rxConfig.canTpWftMax := by
          rw [channel]
          exact exhausted answer
        simp only
        split
        next =>
          obtain ⟨waits, sends, quietly⟩ :=
            wait_sent matching link.receiver.canTpGeneral waiting accepted
          refine .waits { waits with receiving := { waits.receiving with } } ?_
            (takes.append quietly)
          rw [transmitted_append, silent]
          simpa [nil_append] using sends
        next =>
          rw [if_neg (by omega)]
          exact .waits waiting (by simp [silent]) takes

end Receiver

end CanTp
