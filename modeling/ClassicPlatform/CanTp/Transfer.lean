import ClassicPlatform.CanTp.BlockAgreement

/-!
# End-to-end transfer

With an upper layer that takes every frame, a transfer gets through in every order
in which the two ends act, exactly if the flow control frames of the receiver reach
the sender or none are needed. Time is measured in steps that move the transfer on;
there are only so many of them, and there is always one until the transfer is over.
-/
namespace CanTp

open Credit List Machine Nat Network SimplexChannel

variable (link : Link) (net : Network)

/-- The receiver's upper layer takes what arrives and reports enough free space for the block
that is announced. -/
def Accommodates : Action → Prop
  | .deliverData answers =>
    answers.canIfTransmit = .eOk ∧ ∀ frame ∈ net.data.head?,
      link.Taken net.rx (.ofList frame) answers ∧ link.Covered net.rx (.ofList frame) answers
  | .receiverMain answers => answers.canIfTransmit = .eOk
  | _ => True

instance : (action : Action) → Decidable (Accommodates link net action)
  | .deliverData _ => inferInstanceAs (Decidable (_ ∧ _))
  | .receiverMain _ => inferInstanceAs (Decidable (_ = _))
  | .senderMain | .txConfirmation | .deliverFlowControl => inferInstanceAs (Decidable True)

/-- What the two ends may do next. -/
def Admissible (action : Action) : Prop :=
  Timely link net action ∧ Accommodates link net action
  deriving Decidable

/-- The sender has a frame to send, possibly after STmin. -/
def Network.sending : Bool :=
  net.tx.state = .txWaitTransmit ∨ net.tx.state = .txWaitStmin

/-- The steps that move a transfer on; all others only let time pass. -/
def Network.progresses : Action → Bool
  | .senderMain => net.sending
  | .receiverMain _ => false
  | .txConfirmation | .deliverData _ | .deliverFlowControl => true

/-- Nothing is on its way, and the sender has nothing to send. -/
def Network.Quiescent : Prop :=
  net.unconfirmed = 0 ∧ net.data = [] ∧ net.flow = [] ∧ net.sending = false

structure Completed (seen : Observed) : Prop where
  received : seen.received = link.sdu
  indicated : seen.indicated = some .ntfRsltOk
  confirmed : seen.confirmed = some .ntfRsltOk
  senderIdle : net.tx.state = .idle
  receiverIdle : net.rx.state = .idle

/-- A run of the transfer: what arrives is a part of the SDU, progress is bounded and possible
until nothing is left to do, and then the transfer is complete. -/
structure Transfers (start : Network) (actions : List Action) : Prop where
  bounded : tally (step link) progresses start actions ≤ 132 * link.sdu.length
  live : ¬ (run (step link) start actions).1.Quiescent →
    ∃ action, Admissible link (run (step link) start actions).1 action ∧
      (run (step link) start actions).1.progresses action = true
  observed : ∃ seen, watch (observe link) .nothing (run (step link) start actions).2 =
      some seen ∧ seen.received <+: link.sdu ∧
    ((run (step link) start actions).1.Quiescent →
      Completed link (run (step link) start actions).1 seen)

/-- Both ends are in step and the receiver holds nothing back. -/
structure Steady (seen : Observed) : Prop where
  inStep : InStep link net seen
  unparked : net.rx.state ≠ .rxWaitCfSduBuffer

/-- The steps until the sender's next frame at the latest, once the present one is confirmed;
STmin takes at most 128 ticks. -/
def SimplexChannel.phase (tx : SimplexChannel) : Nat :=
  match tx.state with
  | .txWaitTxConfirmation => 129
  | .txWaitStmin => tx.stateTimeoutCount
  | _ => 0

/-- A bound for the steps that are left. Every frame carries a byte at least, costs a confirmation
and a delivery, and may be answered. -/
def Network.work : Nat :=
  132 * (link.sdu.length - net.provided) + net.tx.phase + 2 * net.data.length + net.flow.length

variable {tx : SimplexChannel}

section Work

variable {link : Link} {net : Network} {seen : Observed}

private theorem senderActs_work (net : Network) {result : SimplexChannel × List Call} (k : Nat)
    {sent sent' due' unconfirmed' : Nat} {stalled' : List Nat} (some_byte : 0 < link.sdu.length)
    (moves : SenderMoves link sent sent' due' unconfirmed' stalled' result)
    (provided : net.provided = link.carried sent) (one : sent + unconfirmed' = sent')
    (small : k ≤ 1) (slack : unconfirmed' = 0 → result.1.phase + k ≤ net.tx.phase) :
    (net.senderActs result).1.work link + k ≤ net.work link := by
  have length := moves.frames.length_eq
  have after := moves.provided_eq provided
  unfold work
  rw [after]
  simp only [senderActs, length_append]
  rcases Nat.eq_zero_or_pos unconfirmed' with silent | sends
  · obtain rfl : sent = sent' := by omega
    omega
  · have bounds := moves.reaches.le
    have outstanding := moves.reaches.outstanding sends
    obtain ⟨last, ends, rfl, -, state⟩ := outstanding
    have phase : result.1.phase = 129 := by simp [phase, state]
    obtain rfl : sent = last := by omega
    have grows : link.carried sent < link.carried (sent + 1) :=
      carried_lt_succ some_byte (by unfold Link.frames at bounds; omega)
    have within : link.carried (sent + 1) ≤ link.sdu.length := carried_le _
    subst ends
    omega

private theorem SenderAt.all_sent {sent due : Nat}
    (here : SenderAt link tx sent due 0 []) (all : sent = link.frames) : tx.state = .idle := by
  cases here with
  | ready _ _ left => exact absurd all (Nat.ne_of_lt left)
  | done _ state => exact state

private theorem phase_waiting (state : tx.state ≠ .txWaitStmin)
    (timeout : Nat) : (tx.setTimeout timeout).phase = tx.phase := by
  unfold phase setTimeout
  cases kind : tx.state <;> simp [kind] at state ⊢

private theorem deliverFlowControl_work (matching : link.Matching) (answerable : link.Answerable)
    (some_byte : 0 < link.sdu.length) (steady : Steady link net seen)
    (timely : Timely link net .deliverFlowControl) :
    (net.step link .deliverFlowControl).1.work link + 1 ≤ net.work link := by
  obtain ⟨some_frame, confirmed⟩ := timely
  cases steady.inStep with
  | flowing _ _ _ _ flow | finished _ _ _ flow => exact absurd flow some_frame
  | holding _ parked => exact absurd parked.state steady.unparked
  | @turning turn due stalled turns waits grant sender left receiver block data flow waiting
      granting provided view =>
    obtain ⟨rfl, state⟩ := sender.stands left confirmed
    rw [confirmed] at sender
    cases waits with
    | nil =>
      obtain ⟨moves, next⟩ := canTpTxRxIndication_grant matching granting answerable sender block
      have costs := senderActs_work { net with flow := [] } 0 some_byte moves provided rfl
        (zero_le 1) fun _ => by simp [phase, next]
      simp only [step, flow]
      apply Nat.le_trans (Nat.add_le_add_right costs 1)
      simp [work, flow]
    | cons wait waits =>
      obtain ⟨moves, next⟩ := canTpTxRxIndication_wait matching (waiting wait mem_cons_self)
        answerable sender
      have costs := senderActs_work { net with flow := waits ++ [grant] } 0 some_byte moves
        provided rfl (zero_le 1) fun _ => by simp [phase, next]
      simp only [step, flow]
      apply Nat.le_trans (Nat.add_le_add_right costs 1)
      simp only [work, flow, cons_append, length_cons]
      omega

private theorem ReceiverAt.unparked {rx : SimplexChannel} {received due : Nat}
    (here : ReceiverAt link rx received due) : rx.state ≠ .rxWaitCfSduBuffer := by
  cases here with
  | fresh state | waiting _ state => simp [state]

private theorem receiverMain_steady (matching : link.Matching) {ans : RxAnswers}
    (steady : Steady link net seen) (timely : Timely link net (.receiverMain ans)) :
    (net.step link (.receiverMain ans)).1.rx.state ≠ .rxWaitCfSduBuffer ∧
      (net.step link (.receiverMain ans)).1.work link ≤ net.work link := by
  have ticks : ∃ timeout, canTpRxMainFunction link.receiver link.rxConfig.canTpRxTaType net.rx ans =
      (net.rx.setTimeout timeout, []) := by
    cases steady.inStep with
    | flowing _ receiver
    | turning _ _ receiver => exact canTpRxMainFunction_waits matching receiver _ ans timely
    | holding _ parked => exact absurd parked.state steady.unparked
    | finished _ idle => exact ⟨net.rx.stateTimeoutCount, canTpRxMainFunction_idle idle _⟩
  obtain ⟨timeout, ticks⟩ := ticks
  simp only [step, ticks, receiverActs_quiet]
  exact ⟨steady.unparked, Nat.le_refl _⟩

section

variable (matching : link.Matching) (some_byte : 0 < link.sdu.length)
  (most : link.sdu.length ≤ 4095)
include matching some_byte most

section

variable (inStep : InStep link net seen)
include inStep

private theorem senderMain_work (timely : Timely link net .senderMain) :
    (net.step link .senderMain).1.work link + (if net.sending then 1 else 0) ≤ net.work link := by
  obtain ⟨sent, due, stalled, sender, provided⟩ := inStep.sender_at
  by_cases running : net.tx.state = .txWaitTransmit ∨ net.tx.state = .txWaitStmin
  · obtain ⟨-, confirmed, rfl, busy, -⟩ := sender.running running
    have ready := sender
    rw [confirmed] at ready
    have sending : net.sending = true := decide_eq_true running
    rw [if_pos sending]
    rcases canTpTxMainFunction_ready matching most ready busy with moves | ⟨stmin, running_on, ticks⟩
    · simp only [step, provided]
      exact senderActs_work net 1 some_byte moves provided rfl (Nat.le_refl 1) (by simp)
    · simp only [step, provided, ticks, senderActs_quiet]
      simp only [work, phase, setTimeout, stmin]
      omega
  · obtain ⟨timeout, ticks⟩ := canTpTxMainFunction_waits matching sender (not_or.mp running) timely
      (link.txAnswers net.provided)
    have sending : net.sending = false := decide_eq_false running
    have phase := phase_waiting (not_or.mp running).2 timeout
    simp only [step, ticks, senderActs_quiet, work, phase, sending]
    simp

private theorem txConfirmation_work (timely : Timely link net .txConfirmation) :
    (net.step link .txConfirmation).1.work link + 1 ≤ net.work link := by
  obtain ⟨sent, due, stalled, sender, provided⟩ := inStep.sender_at
  obtain ⟨last, rfl, one, rfl, state⟩ := sender.outstanding timely
  rw [one] at sender
  have outcome := canTpTxConfirmation_moves matching most sender
  rw [← provided] at outcome
  have costs := fun result sent' unconfirmed' stalled' => @senderActs_work link
    { net with unconfirmed := net.unconfirmed - 1 } result 1 (last + 1) sent' due unconfirmed'
    stalled' some_byte
  rcases outcome with
    ⟨all, -, moves⟩ | ⟨-, -, moves, waits, -⟩ | ⟨-, moves | ⟨moves, stmin, ticks⟩⟩
  · refine costs _ _ _ _ moves provided rfl (Nat.le_refl 1) fun _ => ?_
    have idle := moves.reaches.all_sent all
    simp [phase, state, idle]
  · refine costs _ _ _ _ moves provided rfl (Nat.le_refl 1) fun _ => ?_
    simp [phase, state, waits]
  · exact costs _ _ _ _ moves provided rfl (Nat.le_refl 1) nofun
  · refine costs _ _ _ _ moves provided rfl (Nat.le_refl 1) fun _ => ?_
    simp only [phase, state, stmin]
    omega

private theorem deliverData_steady {ans : RxAnswers} (timely : Timely link net (.deliverData ans))
    (accommodates : Accommodates link net (.deliverData ans)) :
    (net.step link (.deliverData ans)).1.rx.state ≠ .rxWaitCfSduBuffer ∧
      (net.step link (.deliverData ans)).1.work link + 1 ≤ net.work link := by
  have some_frame : net.data ≠ [] := timely
  obtain ⟨accepted, takes⟩ := accommodates
  cases inStep with
  | turning _ _ _ _ data | holding _ _ data | finished _ _ data => exact absurd data some_frame
  | @flowing sent received due stalled turns sender receiver expected data flow provided view =>
    cases queue : net.data with
    | nil => exact absurd queue some_frame
    | cons frame rest =>
      rw [queue] at data takes
      obtain ⟨taken, covered⟩ := takes frame rfl
      have costs : ∀ result : SimplexChannel × List Call, (transmitted result.2).length ≤ 1 →
          ({ net with data := rest }.receiverActs link result).1.work link + 1 ≤ net.work link := by
        intro result short
        simp only [work, receiverActs, queue, length_append, length_cons]
        omega
      cases data with
      | cons carries behind =>
        simp only [step, queue]
        cases frame_delivered matching some_byte most receiver carries (.inl taken) covered
          accepted with
        | ends last state silent _ =>
          exact ⟨by simp [receiverActs, state], costs _ (by simp [silent])⟩
        | continues early reaches silent _ => exact ⟨reaches.unparked, costs _ (by simp [silent])⟩
        | grants turn left granted _ =>
          obtain ⟨due', reaches, -⟩ := granted.reaches
          obtain ⟨grant, sends, -⟩ := granted.sends
          exact ⟨reaches.unparked, costs _ (by simp [sends])⟩
        | parks refused => exact absurd taken refused

end

private theorem step_steady {action : Action}
    (answerable : action = .deliverFlowControl → link.Answerable) (steady : Steady link net seen)
    (admissible : Admissible link net action) :
    Accepts (observe link) (Steady link) seen (net.step link action) ∧
    (net.step link action).1.work link + (if net.progresses action then 1 else 0) ≤
      net.work link := by
  obtain ⟨timely, accommodates⟩ := admissible
  have supports : Supports link net action := by
    cases action with
    | deliverData ans =>
      exact ⟨accommodates.1, fun frame member =>
        ⟨.inl (accommodates.2 frame member).1, (accommodates.2 frame member).2⟩⟩
    | receiverMain ans => exact ⟨accommodates, fun parked => absurd parked steady.unparked⟩
    | senderMain | txConfirmation | deliverFlowControl => trivial
  obtain ⟨next, watched, inStep⟩ := step_inStep matching some_byte most steady.inStep answerable
    timely supports
  suffices (net.step link action).1.rx.state ≠ .rxWaitCfSduBuffer ∧
      (net.step link action).1.work link + (if net.progresses action then 1 else 0) ≤
        net.work link from ⟨⟨next, watched, inStep, this.1⟩, this.2⟩
  cases action with
  | senderMain =>
    exact ⟨steady.unparked, senderMain_work matching some_byte most steady.inStep timely⟩
  | txConfirmation =>
    exact ⟨steady.unparked, txConfirmation_work matching some_byte most steady.inStep timely⟩
  | deliverData ans =>
    exact deliverData_steady matching some_byte most steady.inStep timely accommodates
  | receiverMain ans => exact receiverMain_steady matching steady timely
  | deliverFlowControl =>
    refine ⟨?_, deliverFlowControl_work matching (answerable rfl) some_byte steady timely⟩
    simp only [step]
    split <;> exact steady.unparked

end

private theorem SenderAt.rests {sent due unconfirmed : Nat} {stalled : List Nat}
    (here : SenderAt link tx sent due unconfirmed stalled) (confirmed : unconfirmed = 0)
    (nothing : ¬ (tx.state = .txWaitTransmit ∨ tx.state = .txWaitStmin)) :
    sent = due ∧ (due = link.frames → tx.state = .idle) := by
  cases here with
  | ready _ _ _ state => exact absurd state nothing
  | confirming => cases confirmed
  | blocked _ _ left => exact ⟨rfl, fun all => absurd all (Nat.ne_of_lt left)⟩
  | done _ state => exact ⟨rfl, fun _ => state⟩

private theorem Steady.completed (steady : Steady link net seen) (quiescent : net.Quiescent) :
    Completed link net seen := by
  obtain ⟨confirmed, no_data, no_flow, nothing⟩ := quiescent
  have nothing := of_decide_eq_false nothing
  cases steady.inStep with
  | flowing sender receiver expected data flow provided view =>
    have ends := (sender.rests confirmed nothing).1
    have length := data.length_eq
    rw [no_data, length_nil] at length
    omega
  | turning _ _ _ _ _ flow =>
    rw [flow] at no_flow
    exact absurd no_flow (append_ne_nil_of_right_ne_nil _ (cons_ne_nil _ _))
  | holding _ parked => exact absurd parked.state steady.unparked
  | finished sender idle data flow provided view =>
    have done := (sender.rests confirmed nothing).2 rfl
    refine ⟨view.received, view.indicated, view.confirmed.trans ?_, done, idle⟩
    exact if_pos done

private theorem InStep.received_prefix (inStep : InStep link net seen) :
    seen.received <+: link.sdu := by
  cases inStep with
  | flowing _ _ _ _ _ _ view | turning _ _ _ _ _ _ _ _ _ view
  | holding _ _ _ _ _ view => exact view.received ▸ take_prefix _ _
  | finished _ _ _ _ _ view => exact view.received ▸ prefix_refl _

theorem Link.ample_of_le {free missing : Nat} (fits : missing ≤ free) :
    link.Ample free missing := by
  apply Nat.le_trans (Nat.min_le_right _ _)
  cases link.format <;> simp only [AddressingFormat.payload] <;> omega

private theorem firstResult_agreeing {free size : Nat} (fits : size ≤ free) :
    (RxAnswers.agreeing free).firstResult size = .bufReqOk :=
  if_pos ⟨rfl, fits⟩

private theorem agreeing_accommodates (net : Network) (most : link.sdu.length ≤ 4095) :
    Accommodates link net (.deliverData (.agreeing 65535)) := by
  refine ⟨rfl, fun frame _ => ⟨?_, fun _ missing member => Link.ample_of_le ?_⟩⟩
  · unfold Link.Taken Link.answer
    split
    · have small := getPduLength_lt link.format .singleFrame (.ofList frame)
      exact firstResult_agreeing (by omega)
    · apply firstResult_agreeing
      unfold firstFramePayload
      split <;> decide
    · have small := currentSegmentSize_lt link.rxConfig net.rx (.ofList frame)
      have answers : bufferAnswer net.rx (.agreeing 65535) = (.bufReqOk, 65535) := ite_self _
      unfold segmentResult
      rw [if_pos]
      · rfl
      · unfold HandsOver
        rw [answers]
        exact ⟨rfl, le_of_lt_succ small⟩
    · rfl
  · unfold Link.missing at member
    split at member
    · cases member
      change _ ≤ 65535
      omega
    · split at member
      · cases member
        have small := sub16_lt net.rx.transferTotal net.rx.transferCount
        change _ ≤ 65535
        omega
      · cases member
    · cases member

private theorem progress_possible (most : link.sdu.length ≤ 4095) (busy : ¬ net.Quiescent) :
    ∃ action, Admissible link net action ∧ net.progresses action = true := by
  by_cases sending : net.sending = true
  · refine ⟨.senderMain, ⟨fun waiting => ?_, trivial⟩, sending⟩
    rcases of_decide_eq_true sending with state | state <;> simp [state] at waiting
  · by_cases outstanding : 0 < net.unconfirmed
    · exact ⟨.txConfirmation, ⟨outstanding, trivial⟩, rfl⟩
    · by_cases data : net.data = []
      · have flow : net.flow ≠ [] := by
          intro flow
          exact busy ⟨Nat.eq_zero_of_not_pos outstanding, data, flow, eq_false_of_ne_true sending⟩
        exact ⟨.deliverFlowControl, ⟨⟨flow, Nat.eq_zero_of_not_pos outstanding⟩, trivial⟩, rfl⟩
      · exact ⟨.deliverData (.agreeing 65535), ⟨data, agreeing_accommodates net most⟩, rfl⟩

end Work

/-- The first frame of several is on its way. -/
private structure Opening (unconfirmed : Nat) (stalled : List Nat) : Prop where
  sender : SenderAt link net.tx 1 1 net.unconfirmed stalled
  outstanding : net.unconfirmed = unconfirmed
  receiver : net.rx.state = .idle
  provided : net.provided = link.carried 1
  data : ∃ frame, net.data = [frame] ∧ Carries link.format link.target link.sdu 0 frame
  flow : net.flow = []

private theorem InFlight.one_frame {link : Link} {n : Nat} {frames : List (List Byte)}
    (flight : InFlight link n (n + 1) frames) :
    ∃ frame, frames = [frame] ∧ Carries link.format link.target link.sdu n frame := by
  cases flight with
  | cons carries behind => exact ⟨_, by rw [behind.eq_nil], carries⟩

section Opening

variable {link : Link} {net : Network} (matching : link.Matching)
  (most : link.sdu.length ≤ 4095)
include matching most

private theorem start_opens {rx : SimplexChannel} (tx_idle : tx.state = .idle)
    (rx_idle : rx.state = .idle)
    (accepted : (canTpTransmit link.sender link.txSduId link.sdu.length tx).1 = .eOk) :
    Opening link ((link.start tx rx).step link .senderMain).1 1 [] := by
  have sender : SenderAt link (link.start tx rx).tx 0 1 0 [] :=
    canTpTransmit_starts matching tx_idle accepted
  have state : (link.start tx rx).tx.state = .txWaitTransmit :=
    canTpTransmit_state matching tx_idle accepted
  rcases canTpTxMainFunction_ready matching most sender (by simp [state]) with
    moves | ⟨stmin, -⟩
  · have reaches := moves.reaches_eq (show (link.start tx rx).unconfirmed = 0 from rfl) rfl
    have length := moves.frames.length_eq
    refine ⟨reaches, ?_, rx_idle, moves.provided_eq rfl, ?_, rfl⟩
    · exact length
    · exact moves.frames.one_frame
  · nomatch state.symm.trans stmin

private theorem Opening.confirm (opening : Opening link net 1 []) (several : 1 < link.frames) :
    Opening link (net.step link .txConfirmation).1 0 [1] ∧
      (net.step link .txConfirmation).1.tx.state = .txWaitFlowControl := by
  obtain ⟨sender, outstanding, receiver, provided, data, flow⟩ := opening
  rw [outstanding] at sender
  have outcome := canTpTxConfirmation_moves matching most sender
  rw [← provided] at outcome
  rcases outcome with ⟨all, -⟩ | ⟨-, -, moves, waits, -⟩ | ⟨early, -⟩
  · omega
  · have confirmed : ({ net with unconfirmed := net.unconfirmed - 1 } : Network).unconfirmed = 0 := by
      simp [outstanding]
    have silent := moves.frames.eq_nil
    refine ⟨⟨moves.reaches_eq confirmed rfl, ?_, receiver, moves.provided_eq provided, ?_, flow⟩,
      waits⟩
    · change net.unconfirmed - 1 + (transmitted _).length = 0
      rw [silent, outstanding, length_nil]
    · change ∃ frame, net.data ++ transmitted _ = [frame] ∧ _
      rw [silent, append_nil]
      exact data
  · exact absurd early (Nat.lt_irrefl 1)

private theorem Opening.answer (opening : Opening link net 0 [1]) (several : 1 < link.frames)
    (some_byte : 0 < link.sdu.length) :
    let next := (net.step link (.deliverData (.agreeing 65535))).1
    next.tx = net.tx ∧ next.unconfirmed = 0 ∧ next.data = [] ∧
      ∃ grant, next.flow = [grant] ∧ FlowControl link 0#8 grant := by
  obtain ⟨sender, outstanding, receiver, provided, ⟨frame, queue, carries⟩, flow⟩ := opening
  obtain ⟨taken, covered⟩ := (agreeing_accommodates net most).2 frame (by rw [queue]; rfl)
  simp only [step, queue]
  cases frame_delivered matching some_byte most (.fresh receiver) carries (.inl taken) covered
    rfl with
  | ends last | continues early => omega
  | parks refused => exact absurd taken refused
  | grants turn left granted takes =>
    obtain ⟨grant, sends, control⟩ := granted.sends
    refine ⟨rfl, outstanding, rfl, grant, ?_, control⟩
    simp [receiverActs, flow, sends]

omit most in
private theorem ignored_answer (unanswerable : ¬ link.Answerable) {grant : List Byte}
    (flow : net.flow = [grant]) (control : FlowControl link 0#8 grant) :
    net.step link .deliverFlowControl = ({ net with flow := [] }, []) := by
  simp only [step, flow]
  rw [canTpTxRxIndication_unanswerable matching control unanswerable]
  exact senderActs_quiet { net with flow := [] } net.tx.stateTimeoutCount

end Opening

section Runs

variable {link : Link} {tx rx : SimplexChannel}
  (matching : link.Matching) (some_byte : 0 < link.sdu.length) (most : link.sdu.length ≤ 4095)
  (tx_idle : tx.state = .idle) (rx_idle : rx.state = .idle)
  (accepted : (canTpTransmit link.sender link.txSduId link.sdu.length tx).1 = .eOk)
include matching some_byte most tx_idle rx_idle accepted

private theorem transfer_completes {actions : List Action} (meets : Meets (step link)
      (fun net action => Admissible link net action ∧
        (action = .deliverFlowControl → link.Answerable)) (link.start tx rx) actions) :
    Transfers link (link.start tx rx) actions := by
  have start : Steady link (link.start tx rx) .nothing := by
    refine ⟨start_inStep matching tx_idle rx_idle accepted, ?_⟩
    change rx.state ≠ _
    simp [rx_idle]
  have begins : (link.start tx rx).tx.state = .txWaitTransmit :=
    canTpTransmit_state matching tx_idle accepted
  have work : (link.start tx rx).work link = 132 * link.sdu.length := by
    simp only [work, phase, begins]
    simp [Link.start]
  have keeps : ∀ net action seen, Steady link net seen →
      (Admissible link net action ∧ (action = .deliverFlowControl → link.Answerable)) →
      Accepts (observe link) (Steady link) seen (net.step link action) ∧
      (net.step link action).1.work link + (if net.progresses action then 1 else 0) ≤
        net.work link :=
    fun net action seen steady meets => step_steady matching some_byte most meets.2 steady meets.1
  obtain ⟨seen, watched, steady⟩ := run_watched _ start meets
    fun net action seen steady meets => (keeps net action seen steady meets).1
  refine ⟨?_, progress_possible most, seen, watched, steady.inStep.received_prefix,
    steady.completed⟩
  rw [← work]
  refine tally_le (fun net => ∃ seen, Steady link net seen) ?_ ?_ ⟨_, start⟩ meets
  · rintro net action ⟨seen, steady⟩ meets
    obtain ⟨⟨next, -, steady⟩, -⟩ := keeps net action seen steady meets
    exact ⟨next, steady⟩
  · rintro net action ⟨seen, steady⟩ meets
    exact (keeps net action seen steady meets).2

private theorem unanswered_stalls (several : ¬ link.sdu.length ≤ link.format.payload)
    (unanswerable : ¬ link.Answerable) :
    let stalling := [.senderMain, .txConfirmation, .deliverData (.agreeing 65535),
      .deliverFlowControl]
    Meets (step link) (Admissible link) (link.start tx rx) stalling ∧
      (run (step link) (link.start tx rx) stalling).1.Quiescent ∧
      (run (step link) (link.start tx rx) stalling).1.tx.state = .txWaitFlowControl := by
  have frames : 1 < link.frames := by
    have positive : 0 < link.frames := frameCount_pos
    have other : link.frames ≠ 1 := fun one => several (frameCount_eq_one.mp one)
    omega
  have opens := start_opens matching most tx_idle rx_idle accepted
  obtain ⟨waiting, state⟩ := opens.confirm matching most frames
  obtain ⟨same, confirmed, no_data, grant, answer, control⟩ :=
    waiting.answer matching most frames some_byte
  have flowing : ¬ ((link.start tx rx).tx.state = .txWaitFlowControl ∨
      (link.start tx rx).tx.state = .txWaitTxConfirmation) := by
    have begins : (link.start tx rx).tx.state = .txWaitTransmit :=
      canTpTransmit_state matching tx_idle accepted
    simp [begins]
  obtain ⟨frame, queue, -⟩ := waiting.data
  simp only [Meets, run_cons]
  generalize ((link.start tx rx).step link .senderMain).1 = sent at *
  generalize (sent.step link .txConfirmation).1 = blocked at *
  generalize (blocked.step link (.deliverData (.agreeing 65535))).1 = answered at *
  have ignored := ignored_answer matching unanswerable answer control
  rw [ignored]
  have halted : answered.tx.state = .txWaitFlowControl := same ▸ state
  refine ⟨⟨⟨fun expired => absurd expired flowing, trivial⟩, ⟨?_, trivial⟩,
    ⟨?_, agreeing_accommodates blocked most⟩, ⟨⟨?_, confirmed⟩, trivial⟩, trivial⟩,
    ⟨confirmed, no_data, rfl, ?_⟩, halted⟩
  · change 0 < sent.unconfirmed
    rw [opens.outstanding]
    exact Nat.one_pos
  · change blocked.data ≠ []
    rw [queue]
    exact cons_ne_nil _ _
  · rw [answer]
    exact cons_ne_nil _ _
  · simp [sending, halted]

end Runs

theorem transfer_completes_iff (link : Link) (matching : link.Matching)
    (some_byte : 0 < link.sdu.length) (most : link.sdu.length ≤ 4095) (tx rx : SimplexChannel)
    (tx_idle : tx.state = .idle) (rx_idle : rx.state = .idle)
    (accepted : (canTpTransmit link.sender link.txSduId link.sdu.length tx).1 = .eOk) :
    (∀ actions, Meets (step link) (Admissible link) (link.start tx rx) actions →
      Transfers link (link.start tx rx) actions) ↔
    link.Answerable ∨ link.sdu.length ≤ link.format.payload := by
  constructor
  · intro completes
    by_contra neither
    obtain ⟨unanswerable, several⟩ := not_or.mp neither
    obtain ⟨meets, quiescent, waits⟩ := unanswered_stalls matching some_byte most tx_idle rx_idle
      accepted several unanswerable
    obtain ⟨seen, -, -, ends⟩ := (completes _ meets).observed
    nomatch waits.symm.trans (ends quiescent).senderIdle
  · rintro (answerable | single) actions meets
    · refine transfer_completes matching some_byte most tx_idle rx_idle accepted
        (meets.strengthen (fun _ => True) (fun _ _ _ _ => trivial) (fun _ _ _ admissible => ?_)
          trivial)
      exact ⟨admissible, fun _ => answerable⟩
    · refine transfer_completes matching some_byte most tx_idle rx_idle accepted
        (meets.strengthen (Alone link) (fun net action alone admissible => ?_)
          (fun net action alone admissible => ?_) (start_alone matching tx_idle rx_idle accepted))
      · exact (step_alone matching most single action alone admissible.1).1
      · refine ⟨admissible, ?_⟩
        rintro rfl
        exact absurd alone.flow admissible.1.1

def tenBytes : List Action :=
  [.senderMain, .txConfirmation, .deliverData (.agreeing 100), .deliverFlowControl,
    .senderMain, .deliverData (.agreeing 100), .txConfirmation]

theorem tenBytes_transferred :
    let link := Link.sample .canTpStandard 0 0 (List.replicate 10 0x55)
    Meets (step link) (Admissible link) link.initial tenBytes ∧
      (run (step link) link.initial tenBytes).1.Quiescent ∧
      Transfers link link.initial tenBytes := by
  intro link
  have admissible : Meets (step link) (Admissible link) link.initial tenBytes := by decide
  refine ⟨admissible, ⟨by decide, by decide, by decide, by decide⟩, ?_⟩
  exact (transfer_completes_iff link (Link.sample_matching _ (by decide) _ _) (by decide)
    (by decide) _ _ rfl rfl rfl).mpr (.inl (.inl rfl)) _ admissible

/-- A first frame and the answer to it. -/
def untilAnswered (free : Nat) : List Action :=
  [.senderMain, .txConfirmation, .deliverData (.agreeing free), .deliverFlowControl]

/-- With extended addressing and different N_TA and N_SA the flow control frame carries the
address of the receiver, the sender takes no notice, and the transfer stands still. -/
theorem extended_transfer_stalls :
    let link := Link.sample .canTpExtended 0 0 (List.replicate 10 0x55)
    let last := run (step link) link.initial (untilAnswered 100)
    Meets (step link) (Admissible link) link.initial (untilAnswered 100) ∧
      last.1.Quiescent ∧ last.1.tx.state = .txWaitFlowControl ∧
      last.1.rx.state = .rxWaitConsecutiveFrame := by
  intro link last
  exact ⟨by decide, ⟨by decide, by decide, by decide, by decide⟩, by decide, by decide⟩

end CanTp
