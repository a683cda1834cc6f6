import ClassicPlatform.CanTp.Handshake

/-!
# Agreement on the block size

The sender waits for flow control after exactly the frames after which the receiver
sends a clear-to-send frame, as long as the free space the receiver's upper layer
reports covers the block size it is configured to announce.
-/
namespace CanTp

open Credit List Machine Observation

/-- The frame after which the sender starts to wait for flow control. -/
def Observation.waited : Observation → Option Nat
  | .waits frames => some frames
  | _ => none

/-- The frame after which the receiver sends a clear-to-send frame. -/
def Observation.granted : Observation → Option Nat
  | .grants frames => some frames
  | _ => none

/-- Both ends take their turns after the same frames; one of them may be a turn ahead while the
frame, its confirmation or the answer to it is on its way or the receiver holds it back. -/
inductive BlocksAgree (net : Network) (waits grants : List Nat) : Prop
  | level (same : waits = grants)
  | senderAhead (frames : Nat) (ahead : waits = grants ++ [frames])
      (state : net.tx.state = .txWaitFlowControl)
      (pending : net.data ≠ [] ∨ net.rx.state = .rxWaitCfSduBuffer)
  | receiverAhead (frames : Nat) (ahead : grants = waits ++ [frames])
      (state : net.tx.state = .txWaitTxConfirmation) (pending : 0 < net.unconfirmed)

/-- Each end waits for the other, and nothing is on its way. -/
def Network.Deadlocked (net : Network) : Prop :=
  net.tx.state = .txWaitFlowControl ∧ net.rx.state = .rxWaitConsecutiveFrame ∧
    net.data = [] ∧ net.flow = []

variable {tx : SimplexChannel} {frames : List (List Byte)}

section Turns

variable {link : Link} {net : Network} {seen : Observed} {stalled : List Nat}

private theorem SenderAt.turn {turn unconfirmed : Nat}
    (here : SenderAt link tx turn turn unconfirmed stalled) (left : turn < link.frames) :
    (stalled = [turn] ∧ tx.state = .txWaitFlowControl) ∨
      (stalled = [] ∧ tx.state = .txWaitTxConfirmation ∧ 0 < unconfirmed) := by
  cases here with
  | ready _ _ _ _ block => exact absurd block.inside (Nat.lt_irrefl _)
  | confirming _ _ _ state _ => exact .inr ⟨rfl, state, Nat.one_pos⟩
  | blocked _ _ _ state => exact .inl ⟨rfl, state⟩
  | done all _ => exact absurd all (Nat.ne_of_lt left)

private theorem SenderAt.stalls {sent due unconfirmed : Nat}
    (here : SenderAt link tx sent due unconfirmed stalled) :
    stalled = [] ∧ tx.state ≠ .txWaitFlowControl ∨
      sent = due ∧ due < link.frames ∧ stalled = [due] ∧ tx.state = .txWaitFlowControl := by
  cases here with
  | ready _ _ _ state _ => exact .inl ⟨rfl, by rcases state with state | state <;> simp [state]⟩
  | confirming _ _ _ state _ | done _ state => exact .inl ⟨rfl, by simp [state]⟩
  | blocked _ _ left state => exact .inr ⟨rfl, left, rfl, state⟩

private theorem InFlight.ne_nil {first last : Nat}
    (sent : InFlight link first last frames) (some_frame : first < last) : frames ≠ [] := by
  rintro rfl
  have length := sent.length_eq
  simp only [length_nil] at length
  omega

private theorem InStep.blocksAgree (inStep : InStep link net seen) :
    BlocksAgree net seen.waits seen.grants := by
  cases inStep with
  | flowing sender receiver expected data flow provided view =>
    rw [view.waits, view.grants]
    rcases sender.stalls with ⟨rfl, -⟩ | ⟨rfl, -, rfl, state⟩
    · exact .level (append_nil _)
    · exact .senderAhead _ rfl state (.inl (data.ne_nil expected))
  | turning sender left receiver block data flow waiting granting provided view =>
    rw [view.waits, view.grants]
    rcases sender.turn left with ⟨rfl, -⟩ | ⟨rfl, state, pending⟩
    · exact .level rfl
    · exact .receiverAhead _ (by rw [append_nil]) state pending
  | holding sender parked data waiting provided view =>
    rw [view.waits, view.grants]
    rcases sender.turn parked.left with ⟨rfl, state⟩ | ⟨rfl, -⟩
    · exact .senderAhead _ rfl state (.inr parked.state)
    · exact .level (append_nil _)
  | finished sender idle data flow provided view =>
    rw [view.waits, view.grants]
    -- a channel that has sent every frame has no reason to wait
    rcases sender.stalls with ⟨rfl, -⟩ | ⟨-, left, -⟩
    · exact .level (append_nil _)
    · exact absurd left (Nat.lt_irrefl _)

private theorem InStep.not_deadlocked (inStep : InStep link net seen) : ¬ net.Deadlocked := by
  rintro ⟨blocked, waiting, no_data, no_flow⟩
  cases inStep with
  | flowing sender receiver expected data flow provided view =>
    rcases sender.stalls with ⟨-, other⟩ | ⟨rfl, -⟩
    · exact other blocked
    · exact data.ne_nil expected no_data
  | turning sender left receiver block data flow =>
    rw [flow] at no_flow
    exact append_ne_nil_of_right_ne_nil _ (cons_ne_nil _ _) no_flow
  | holding sender parked => nomatch parked.state.symm.trans waiting
  | finished sender idle => nomatch idle.symm.trans waiting

private theorem observe_turns {last : Observed} {outputs : List Observation}
    (watched : watch (observe link) seen outputs = some last) :
    last.waits = seen.waits ++ outputs.filterMap waited ∧
      last.grants = seen.grants ++ outputs.filterMap granted := by
  induction outputs generalizing seen with
  | nil =>
    cases watched
    exact ⟨(append_nil _).symm, (append_nil _).symm⟩
  | cons output rest ih =>
    obtain ⟨next, now, later⟩ := Option.bind_eq_some_iff.mp watched
    obtain ⟨waits, grants⟩ := ih later
    have one : next.waits = seen.waits ++ output.waited.toList ∧
        next.grants = seen.grants ++ output.granted.toList := by
      unfold observe at now
      split at now
      case h_1 | h_2 | h_3 =>
        split at now
        · cases now
          simp [waited, granted]
        · cases now
      all_goals
        cases now
        simp [waited, granted]
    rw [waits, grants, one.1, one.2, append_assoc, append_assoc]
    cases output <;> exact ⟨rfl, rfl⟩

end Turns

/-- A transfer in a single frame. The receiver's upper layer may answer as it likes. -/
structure Alone (link : Link) (net : Network) : Prop where
  sender : ∃ sent, SenderAt link net.tx sent 1 net.unconfirmed [] ∧
    net.provided = link.carried sent
  data : ∀ frame ∈ net.data, Carries link.format link.target link.sdu 0 frame
  flow : net.flow = []
  receiver : net.rx.state = .idle ∨ net.rx.state = .rxWaitSfSduBuffer

section Single

variable {link : Link} {net : Network} {result : SimplexChannel × List Call}

/-- No end of the transfer takes a turn. -/
def Observation.NoTurn (output : Observation) : Prop :=
  output.waited = none ∧ output.granted = none

private theorem InFlight.first {sent sent' : Nat} (flight : InFlight link sent sent' frames)
    (one : sent' ≤ 1) : ∀ frame ∈ frames, Carries link.format link.target link.sdu 0 frame := by
  cases flight with
  | nil => nofun
  | cons carries behind =>
    have last := behind.le
    obtain rfl : sent = 0 := by omega
    obtain rfl : sent' = 1 := by omega
    rw [behind.eq_nil]
    intro frame member
    obtain rfl := mem_singleton.mp member
    exact carries

private theorem senderActs_alone
    (data : ∀ frame ∈ net.data, Carries link.format link.target link.sdu 0 frame)
    (flow : net.flow = []) (receiver : net.rx.state = .idle ∨ net.rx.state = .rxWaitSfSduBuffer)
    {sent sent' unconfirmed' : Nat} (moves : SenderMoves link sent sent' 1 unconfirmed' [] result)
    (provided : net.provided = link.carried sent) (confirmed : net.unconfirmed = 0)
    (one : sent + unconfirmed' = sent') :
    Alone link (net.senderActs result).1 ∧
      ∀ output ∈ (net.senderActs result).2, output.NoTurn := by
  have reaches := moves.reaches_eq confirmed one
  constructor
  · refine ⟨⟨sent', reaches, moves.provided_eq provided⟩, fun frame member => ?_, flow, receiver⟩
    rcases mem_append.mp member with old | new
    · exact data frame old
    · exact moves.frames.first reaches.le.1 frame new
  · have other : result.1.state ≠ .txWaitFlowControl := by
      rcases moves.reaches.stalls with ⟨-, other⟩ | ⟨-, -, waits, -⟩
      · exact other
      · cases waits
    intro output member
    simp only [Network.senderActs, other, and_false, if_false, append_nil] at member
    obtain ⟨call, -, rfl⟩ := mem_map.mp member
    exact ⟨rfl, rfl⟩

private theorem Alone.receiverActs (alone : Alone link net) (silent : transmitted result.2 = [])
    (receiver : result.1.state = .idle ∨ result.1.state = .rxWaitSfSduBuffer) :
    Alone link (net.receiverActs link result).1 ∧
      ∀ output ∈ (net.receiverActs link result).2, output.NoTurn := by
  constructor
  · exact ⟨alone.sender, alone.data, by simp [Network.receiverActs, silent, alone.flow], receiver⟩
  · intro output member
    simp only [Network.receiverActs, silent, filter_nil, map_nil, append_nil] at member
    obtain ⟨call, -, rfl⟩ := mem_map.mp member
    exact ⟨rfl, rfl⟩

private theorem abortOngoing_silent (config : Config) (rx : SimplexChannel) :
    transmitted (abortOngoing config rx) = [] := by
  unfold abortOngoing
  split <;> rfl

variable {rx : SimplexChannel}

private theorem handleSingleFrame_alone (config : Config) (rxConfig : RxNSdu) (pdu : Pdu)
    (nSduId : Nat) (ans : RxAnswers) (before : rx.state = .idle ∨ rx.state = .rxWaitSfSduBuffer) :
    let result := handleSingleFrame config rxConfig rx pdu nSduId ans
    transmitted result.2 = [] ∧
      (result.1.state = .idle ∨ result.1.state = .rxWaitSfSduBuffer) := by
  have aborted := abortOngoing_silent config rx
  unfold handleSingleFrame
  simp only
  split
  next =>
    generalize copies : copySegmentToPduRRxBuffer _ _ _ _ _ _ = copied
    have silent := segment_silent (copySegment_spec copies)
    cases copied.ret
    case bufReqEBusy =>
      refine ⟨?_, .inr rfl⟩
      rw [transmitted_append, transmitted_append, aborted, silent]
      unfold copySegmentToLocalRxBuffer
      split <;> rfl
    all_goals
      refine ⟨?_, .inl rfl⟩
      rw [transmitted_append, transmitted_append, aborted, silent]
      rfl
  next => exact ⟨rfl, before⟩

private theorem getBuffSingleFrame_alone (rxConfig : RxNSdu)
    (ans : RxAnswers) (waiting : rx.state = .rxWaitSfSduBuffer) :
    let result := getBuffSingleFrame rxConfig rx ans
    transmitted result.2 = [] ∧
      (result.1.state = .idle ∨ result.1.state = .rxWaitSfSduBuffer) := by
  have state : (rx.setTimeout (decrement rx.stateTimeoutCount)).state = .rxWaitSfSduBuffer := waiting
  unfold getBuffSingleFrame
  simp only
  generalize copies : copySegmentToPduRRxBuffer _ _ _ _ _ _ = copied
  have spec := copySegment_spec copies
  have silent := segment_silent spec
  split
  · refine ⟨?_, .inl rfl⟩
    rw [transmitted_append, silent]
    rfl
  · split
    · exact ⟨silent, .inl rfl⟩
    · refine ⟨silent, .inr ?_⟩
      rw [spec.channel]
      exact state

private theorem canTpRxMainFunction_alone (config : Config) (kind : TaType)
    (ans : RxAnswers) (before : rx.state = .idle ∨ rx.state = .rxWaitSfSduBuffer) :
    let result := canTpRxMainFunction config kind rx ans
    transmitted result.2 = [] ∧
      (result.1.state = .idle ∨ result.1.state = .rxWaitSfSduBuffer) := by
  unfold canTpRxMainFunction
  split
  · rcases before with idle | waiting
    · cases kind <;> simp [rxPhySduStateMachine, rxFncSduStateMachine, idle, transmitted]
    · cases kind <;> simp only [rxPhySduStateMachine, rxFncSduStateMachine, waiting] <;>
        exact getBuffSingleFrame_alone _ ans waiting
  · exact ⟨rfl, before⟩

section

variable (matching : link.Matching) (most : link.sdu.length ≤ 4095)
include matching most

private theorem senderMain_alone (alone : Alone link net) (timely : Timely link net .senderMain) :
    Alone link (net.step link .senderMain).1 ∧
      ∀ output ∈ (net.step link .senderMain).2, output.NoTurn := by
  obtain ⟨sent, sender, provided⟩ := alone.sender
  have quiet : ∀ timeout, canTpTxMainFunction link.sender net.tx (link.txAnswers net.provided) =
      (net.tx.setTimeout timeout, []) → Alone link (net.step link .senderMain).1 ∧
        ∀ output ∈ (net.step link .senderMain).2, output.NoTurn := by
    intro timeout ticks
    simp only [Network.step, ticks, senderActs_quiet]
    exact ⟨{ alone with sender := ⟨sent, sender.setTimeout timeout, provided⟩ }, by rintro _ ⟨⟩⟩
  by_cases running : net.tx.state = .txWaitTransmit ∨ net.tx.state = .txWaitStmin
  · obtain ⟨-, confirmed, -, busy, -⟩ := sender.running running
    have ready := sender
    rw [confirmed] at ready
    rcases canTpTxMainFunction_ready matching most ready busy with moves | ⟨-, -, ticks⟩
    · simp only [Network.step, provided]
      exact senderActs_alone alone.data alone.flow alone.receiver moves provided confirmed rfl
    · exact quiet _ (provided ▸ ticks)
  · obtain ⟨timeout, ticks⟩ := canTpTxMainFunction_waits matching sender (not_or.mp running) timely
      (link.txAnswers net.provided)
    exact quiet timeout ticks

private theorem txConfirmation_alone (single : link.frames = 1) (alone : Alone link net)
    (timely : Timely link net .txConfirmation) :
    Alone link (net.step link .txConfirmation).1 ∧
      ∀ output ∈ (net.step link .txConfirmation).2, output.NoTurn := by
  obtain ⟨sent, sender, provided⟩ := alone.sender
  obtain ⟨last, rfl, one, -, -⟩ := sender.outstanding timely
  have confirming := sender
  rw [one] at confirming
  simp only [Network.step, provided]
  rcases canTpTxConfirmation_moves matching most confirming with
    ⟨-, -, moves⟩ | ⟨-, early, -⟩ | ⟨early, -⟩
  · refine senderActs_alone ?_ ?_ ?_ moves rfl (by simp [one]) rfl
    · exact alone.data
    · exact alone.flow
    · exact alone.receiver
  · exact absurd early (by omega)
  · exact absurd early (by omega)

theorem step_alone (single : link.sdu.length ≤ link.format.payload) (action : Action)
    (alone : Alone link net) (timely : Timely link net action) :
    Alone link (net.step link action).1 ∧
      ∀ output ∈ (net.step link action).2, output.NoTurn := by
  cases action with
  | senderMain => exact senderMain_alone matching most alone timely
  | txConfirmation =>
    exact txConfirmation_alone matching most (frameCount_eq_one.mpr single) alone timely
  | deliverFlowControl => exact absurd alone.flow timely.1
  | receiverMain ans =>
    obtain ⟨silent, state⟩ := canTpRxMainFunction_alone link.receiver link.rxConfig.canTpRxTaType
      ans alone.receiver
    exact alone.receiverActs silent state
  | deliverData ans =>
    cases queue : net.data with
    | nil => exact absurd queue timely
    | cons frame rest =>
      have carries : Carries link.format link.target link.sdu 0 frame :=
        alone.data frame (by rw [queue]; exact mem_cons_self)
      have behind : Alone link { net with data := rest } := by
        refine ⟨alone.sender, fun other member => alone.data other ?_, alone.flow, alone.receiver⟩
        rw [queue]
        exact mem_cons_of_mem _ member
      simp only [Network.step, queue]
      rw [canTpRxRxIndication_carries matching carries, if_pos single]
      obtain ⟨silent, state⟩ := handleSingleFrame_alone link.receiver link.rxConfig
        (.ofList frame) link.entry.canTpNSduIndex ans
        (show (net.rx.setFD false).state = _ ∨ (net.rx.setFD false).state = _ from alone.receiver)
      exact behind.receiverActs silent state

end

theorem start_alone (matching : link.Matching) (tx_idle : tx.state = .idle)
    (rx_idle : rx.state = .idle)
    (accepted : (canTpTransmit link.sender link.txSduId link.sdu.length tx).1 = .eOk) :
    Alone link (link.start tx rx) :=
  ⟨⟨0, canTpTransmit_starts matching tx_idle accepted, rfl⟩, nofun, rfl, .inl rx_idle⟩

end Single

/-- The answers meet the demand: a transfer in several frames is stored, and each clear-to-send
frame is covered by free space. -/
def Covering (link : Link) (net : Network) (action : Action) : Prop :=
  Timely link net action ∧ (¬ link.sdu.length ≤ link.format.payload → Supports link net action)
  deriving Decidable

/-- Both ends after their initialisation, and the request. -/
def Link.initial (link : Link) : Network :=
  link.start (initTx15765RuntimeData .cleared) (initRx15765RuntimeData .cleared)

/-- A first frame, the answer to it and two consecutive frames of a sender that keeps STmin. The
receiver's upper layer reports this much free space. -/
def oneBlock (free : Nat) : List Action :=
  [.senderMain, .txConfirmation, .deliverData (.agreeing free), .deliverFlowControl,
    .senderMain, .txConfirmation, .deliverData (.agreeing free),
    .senderMain, .senderMain, .txConfirmation, .deliverData (.agreeing free)]

/-- The receiver's upper layer takes every frame. -/
def Taking (link : Link) (net : Network) : Action → Prop
  | .deliverData answers =>
    answers.canIfTransmit = .eOk ∧ ∀ frame ∈ net.data.head?,
      link.Taken net.rx (.ofList frame) answers
  | _ => True

instance (link : Link) (net : Network) : (action : Action) → Decidable (Taking link net action)
  | .deliverData _ => inferInstanceAs (Decidable (_ ∧ _))
  | .senderMain | .txConfirmation | .deliverFlowControl | .receiverMain _ =>
    inferInstanceAs (Decidable True)

/-- The same block with room for one frame at a time: the receiver announces two frames but
counts one, and answers the first of them, which the sender ignores. -/
def shortBlock : List Action :=
  [.senderMain, .txConfirmation, .deliverData (.agreeing 6), .deliverFlowControl,
    .senderMain, .txConfirmation, .deliverData (.agreeing 7), .deliverFlowControl,
    .senderMain, .senderMain, .txConfirmation, .deliverData (.agreeing 7)]

/-- The answer to the first frame arrives before the confirmation of that frame. -/
def earlyAnswer : List Action :=
  [.senderMain, .deliverData (.agreeing 100), .deliverFlowControl, .txConfirmation]

end CanTp
