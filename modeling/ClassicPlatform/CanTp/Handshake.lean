import ClassicPlatform.CanTp.Receiving

/-!
# The flow-control handshake

Both ends of a transfer agree on the frame after which the next clear-to-send frame
is due. The invariant says where the two ends are relative to each other: frames
flow, the turn is with the receiver's flow control frame, the receiver holds a
segment back, or everything has arrived.
-/
namespace CanTp

open Machine Credit List Option Network SimplexChannel

/-- What has been observed so far. -/
structure Viewed (seen : Observed) (bytes : List Byte) (indication confirmation : Option NotifResult)
    (waited granted : List Nat) : Prop where
  received : seen.received = bytes
  indicated : seen.indicated = indication
  confirmed : seen.confirmed = confirmation
  waits : seen.waits = waited
  grants : seen.grants = granted

/-- The two ends, the frames between them and what has been observed fit together. In `turns` are
the frames after which flow control has taken place. -/
inductive InStep (link : Link) (net : Network) (seen : Observed) : Prop
  | flowing {sent received due : Nat} {stalled turns : List Nat}
      (sender : SenderAt link net.tx sent due net.unconfirmed stalled)
      (receiver : ReceiverAt link net.rx received due) (expected : received < due)
      (data : InFlight link received sent net.data) (flow : net.flow = [])
      (provided : net.provided = link.carried sent)
      (view : Viewed seen (link.sdu.take (link.carried received)) none net.tx.confirmation
        (turns ++ stalled) turns)
  | turning {turn due : Nat} {stalled turns : List Nat} {waits : List (List Byte)}
      {grant : List Byte} (sender : SenderAt link net.tx turn turn net.unconfirmed stalled)
      (left : turn < link.frames) (receiver : ReceiverAt link net.rx turn due)
      (block : Until link.rxConfig.canTpBs link.rxConfig.canTpBs link.frames turn due)
      (data : net.data = []) (flow : net.flow = waits ++ [grant])
      (waiting : ∀ frame ∈ waits, FlowControl link 1#8 frame)
      (granting : FlowControl link 0#8 grant) (provided : net.provided = link.carried turn)
      (view : Viewed seen (link.sdu.take (link.carried turn)) none net.tx.confirmation
        (turns ++ stalled) (turns ++ [turn]))
  | holding {received : Nat} {stalled turns : List Nat}
      (sender : SenderAt link net.tx (received + 1) (received + 1) net.unconfirmed stalled)
      (parked : ParkedAt link net.rx received) (data : net.data = [])
      (waiting : ∀ frame ∈ net.flow, FlowControl link 1#8 frame)
      (provided : net.provided = link.carried (received + 1))
      (view : Viewed seen (link.sdu.take (link.carried received)) none net.tx.confirmation
        (turns ++ stalled) turns)
  | finished {stalled turns : List Nat}
      (sender : SenderAt link net.tx link.frames link.frames net.unconfirmed stalled)
      (idle : net.rx.state = .idle) (data : net.data = []) (flow : net.flow = [])
      (provided : net.provided = link.carried link.frames)
      (view : Viewed seen link.sdu (some .ntfRsltOk) net.tx.confirmation (turns ++ stalled) turns)

section Step

variable {link : Link} {net : Network} {seen : Observed}

variable {tx : SimplexChannel} {sent due unconfirmed : Nat} {stalled : List Nat}

theorem SenderAt.le
    (here : SenderAt link tx sent due unconfirmed stalled) : sent ≤ due ∧ due ≤ link.frames := by
  cases here with
  | ready _ _ _ _ block => exact ⟨Nat.le_of_lt block.inside, block.due_le⟩
  | confirming _ _ _ _ block => exact ⟨block.inside, block.due_le⟩
  | blocked _ _ left _ => exact ⟨Nat.le_refl _, Nat.le_of_lt left⟩
  | done all _ => exact ⟨Nat.le_refl _, Nat.le_of_eq all⟩

theorem InStep.setTxTimeout (inStep : InStep link net seen) (timeout : Nat) :
    InStep link { net with tx := net.tx.setTimeout timeout } seen := by
  cases inStep with
  | flowing sender receiver expected data flow provided view =>
    exact .flowing (sender.setTimeout timeout) receiver expected data flow provided view
  | turning sender left receiver block data flow waiting granting provided view =>
    exact .turning (sender.setTimeout timeout) left receiver block data flow waiting granting
      provided view
  | holding sender parked data waiting provided view =>
    exact .holding (sender.setTimeout timeout) parked data waiting provided view
  | finished sender idle data flow provided view =>
    exact .finished (sender.setTimeout timeout) idle data flow provided view

theorem InStep.sender_at (inStep : InStep link net seen) :
    ∃ sent due stalled, SenderAt link net.tx sent due net.unconfirmed stalled ∧
      net.provided = link.carried sent := by
  cases inStep with
  | flowing sender _ _ _ _ provided _ | turning sender _ _ _ _ _ _ _ provided _
  | holding sender _ _ _ provided _
  | finished sender _ _ _ provided _ => exact ⟨_, _, _, sender, provided⟩

private theorem SenderAt.stalled_eq (here : SenderAt link tx sent due unconfirmed stalled) :
    stalled = if tx.state = .txWaitFlowControl then [tx.framesHandledCount] else [] := by
  cases here with
  | ready _ _ _ state _ => rcases state with state | state <;> simp [state]
  | confirming _ _ _ state _ => simp [state]
  | blocked _ headed _ state => simp [state, headed.number]
  | done _ state => simp [state]

section Acting

variable {result : SimplexChannel × List Call} {sent sent' due' unconfirmed' : Nat}
  {stalled' : List Nat}
  (moves : SenderMoves link sent sent' due' unconfirmed' stalled' result)
  (fresh : seen.confirmed = none)
include moves fresh

private theorem senderActs_watched (other : net.tx.state ≠ .txWaitFlowControl) :
    watch (observe link) seen (net.senderActs result).2 = some { seen with
      confirmed := result.1.confirmation, waits := seen.waits ++ stalled' } := by
  rw [moves.reaches.stalled_eq]
  simp only [senderActs, watch_append, moves.reported seen fresh, other,
    ne_eq, not_false_eq_true, true_and]
  split
  · rfl
  · simp

private theorem senderActs_watched_blocked (blocked : net.tx.state = .txWaitFlowControl) :
    watch (observe link) seen (net.senderActs result).2 = some { seen with
      confirmed := result.1.confirmation } := by
  simp only [senderActs, watch_append, moves.reported seen fresh, bind_some, blocked,
    ne_eq, not_true_eq_false, false_and, if_false, watch_nil]

end Acting

theorem SenderAt.running (here : SenderAt link tx sent due unconfirmed stalled)
    (running : tx.state = .txWaitTransmit ∨ tx.state = .txWaitStmin) :
    sent < due ∧ unconfirmed = 0 ∧ stalled = [] ∧ tx.state ≠ .idle ∧
      tx.state ≠ .txWaitFlowControl := by
  cases here with
  | ready _ _ _ state block =>
    refine ⟨block.inside, rfl, rfl, ?_⟩
    rcases state with state | state <;> simp [state]
  | confirming _ _ _ state _ | blocked _ _ _ state | done _ state => simp [state] at running

variable {result : SimplexChannel × List Call} {bytes : List Byte}

section

variable {due' sent' unconfirmed' : Nat} {stalled' : List Nat}
  (moves : SenderMoves link sent sent' due' unconfirmed' stalled' result)
include moves

theorem SenderMoves.provided_eq (provided : net.provided = link.carried sent) :
    (net.senderActs result).1.provided = link.carried sent' := by
  rw [← moves.provided, ← provided]
  rfl

theorem SenderMoves.reaches_eq
    (confirmed : net.unconfirmed = 0) (one : sent + unconfirmed' = sent') :
    SenderAt link (net.senderActs result).1.tx sent' due' (net.senderActs result).1.unconfirmed
      stalled' := by
  have length := moves.frames.length_eq
  have count : (net.senderActs result).1.unconfirmed = unconfirmed' := by
    change net.unconfirmed + (transmitted result.2).length = unconfirmed'
    omega
  rw [count]
  exact moves.reaches

end

private theorem Viewed.stalls {indication confirmation : Option NotifResult}
    {turns granted : List Nat}
    (view : Viewed seen bytes indication confirmation (turns ++ []) granted)
    (next : Option NotifResult) (stalled : List Nat) :
    Viewed { seen with confirmed := next, waits := seen.waits ++ stalled } bytes indication next
      (turns ++ stalled) granted := by
  obtain ⟨received, indicated, confirmed, waits, grants⟩ := view
  refine ⟨received, indicated, rfl, ?_, grants⟩
  simp [waits]

theorem senderActs_quiet (net : Network) (timeout : Nat) :
    net.senderActs (net.tx.setTimeout timeout, []) =
      ({ net with tx := net.tx.setTimeout timeout }, []) := by
  have still : ¬ (net.tx.state ≠ .txWaitFlowControl ∧
      (net.tx.setTimeout timeout).state = .txWaitFlowControl) := fun both => both.1 both.2
  simp [senderActs, still, requested, transmitted]

theorem SenderAt.outstanding (here : SenderAt link tx sent due unconfirmed stalled)
    (outstanding : 0 < unconfirmed) :
    ∃ last, sent = last + 1 ∧ unconfirmed = 1 ∧ stalled = [] ∧ tx.state = .txWaitTxConfirmation := by
  cases here with
  | confirming _ _ _ state _ => exact ⟨_, rfl, rfl, rfl, state⟩
  | ready | blocked | done => exact absurd outstanding (Nat.lt_irrefl _)

theorem SenderAt.stands (here : SenderAt link tx sent sent unconfirmed stalled)
    (left : sent < link.frames) (confirmed : unconfirmed = 0) :
    stalled = [sent] ∧ tx.state = .txWaitFlowControl := by
  cases here with
  | ready _ _ _ _ block => exact absurd block.inside (Nat.lt_irrefl _)
  | confirming => cases confirmed
  | blocked _ _ _ state => exact ⟨rfl, state⟩
  | done all _ => exact absurd all (Nat.ne_of_lt left)

private theorem Viewed.unstalls
    {indication confirmation : Option NotifResult} {waited granted : List Nat}
    (view : Viewed seen bytes indication confirmation waited granted) (next : Option NotifResult) :
    Viewed { seen with confirmed := next } bytes indication next waited granted :=
  ⟨view.received, view.indicated, rfl, view.waits, view.grants⟩

private theorem receiverActs_watched (net : Network) {before after : Nat}
    {indicated : Option NotifResult} (takes : Takes link before after indicated result.2)
    (sends : ∀ frame ∈ transmitted result.2, FlowControl link 1#8 frame)
    (open_ : seen.indicated = none) (have_ : seen.received = link.sdu.take (link.carried before)) :
    watch (observe link) seen (net.receiverActs link result).2 = some { seen with
      received := link.sdu.take (link.carried after), indicated := indicated } := by
  have none_granted : (transmitted result.2).filter link.clearToSend = [] := by
    refine filter_eq_nil_iff.mpr fun frame member => ?_
    have pci := (sends frame member).pci
    simp only [Link.clearToSend, pci]
    decide
  simp only [receiverActs, none_granted, map_nil, append_nil]
  exact takes seen open_ have_

private theorem receiverActs_granted (net : Network) {before after : Nat}
    (takes : Takes link before after none result.2) (granted : Granted link after result)
    (open_ : seen.indicated = none) (have_ : seen.received = link.sdu.take (link.carried before)) :
    watch (observe link) seen (net.receiverActs link result).2 = some { seen with
      received := link.sdu.take (link.carried after), indicated := none
      grants := seen.grants ++ [after] } := by
  obtain ⟨frame, sends, control⟩ := granted.sends
  have pci : link.clearToSend frame = true := by
    simp only [Link.clearToSend, control.pci]
    decide
  simp only [receiverActs, sends, filter_cons, pci, watch_append, takes seen open_ have_,
    granted.number]
  rfl

theorem receiverActs_quiet (timeout : Nat) :
    net.receiverActs link (net.rx.setTimeout timeout, []) =
      ({ net with rx := net.rx.setTimeout timeout }, []) := by
  simp [receiverActs, transmitted]

section

variable (matching : link.Matching) {ans : RxAnswers}
include matching

section

variable (most : link.sdu.length ≤ 4095)
include most

private theorem senderMain_inStep
    (inStep : InStep link net seen) (timely : Timely link net .senderMain) :
    Accepts (observe link) (InStep link) seen (net.step link .senderMain) := by
  obtain ⟨sent, due, stalled, sender, provided⟩ := inStep.sender_at
  have quiet : ∀ timeout, canTpTxMainFunction link.sender net.tx (link.txAnswers net.provided) =
      (net.tx.setTimeout timeout, []) →
      Accepts (observe link) (InStep link) seen (net.step link .senderMain) := by
    intro timeout ticks
    simp only [step, ticks, senderActs_quiet]
    exact ⟨seen, rfl, inStep.setTxTimeout timeout⟩
  by_cases running : net.tx.state = .txWaitTransmit ∨ net.tx.state = .txWaitStmin
  · cases inStep with
    | @flowing sent received due stalled turns sender receiver expected data flow provided view =>
      obtain ⟨-, none_open, free, busy, unblocked⟩ := sender.running running
      subst free
      rw [none_open] at sender
      rcases canTpTxMainFunction_ready matching most sender busy with moves | ⟨-, -, ticks⟩
      · simp only [step, provided]
        exact ⟨_, senderActs_watched moves (view.confirmed.trans (if_neg busy)) unblocked, .flowing
          (moves.reaches_eq none_open rfl) receiver expected (data.append moves.frames) flow
          (moves.provided_eq provided) (view.stalls _ _)⟩
      · exact quiet _ (provided ▸ ticks)
    | turning sender | holding sender
    | finished sender => exact absurd (sender.running running).1 (Nat.lt_irrefl _)
  · obtain ⟨timeout, ticks⟩ := canTpTxMainFunction_waits matching sender (not_or.mp running) timely
      (link.txAnswers net.provided)
    exact quiet timeout ticks

private theorem confirmation_moves (sender : SenderAt link net.tx sent due net.unconfirmed stalled)
    (provided : net.provided = link.carried sent) (outstanding : 0 < net.unconfirmed) :
    stalled = [] ∧ net.tx.confirmation = none ∧ net.tx.state ≠ .txWaitFlowControl ∧
      ∃ sent' unconfirmed' stalled', sent + unconfirmed' = sent' ∧
        SenderMoves link sent sent' due unconfirmed' stalled'
          (canTpTxConfirmation link.sender.canTpGeneral link.txConfig net.tx
            (link.txAnswers net.provided)) ∧
        net.unconfirmed - 1 = 0 ∧ (sent = due → sent' = due) := by
  obtain ⟨last, rfl, one, free, state⟩ := sender.outstanding outstanding
  subst free
  rw [one] at sender
  refine ⟨rfl, by simp [confirmation, state], by simp [state], ?_⟩
  rw [provided]
  rcases canTpTxConfirmation_moves matching most sender with
    ⟨-, rfl, moves⟩ | ⟨rfl, -, moves, -⟩ | ⟨early, moves | ⟨moves, -⟩⟩
  · exact ⟨last + 1, 0, _, rfl, moves, by omega, id⟩
  · exact ⟨last + 1, 0, _, rfl, moves, by omega, id⟩
  · exact ⟨last + 2, 1, _, rfl, moves, by omega, fun ends => absurd ends (Nat.ne_of_lt early)⟩
  · exact ⟨last + 1, 0, _, rfl, moves, by omega, id⟩

private theorem txConfirmation_inStep (inStep : InStep link net seen)
    (timely : Timely link net .txConfirmation) :
    Accepts (observe link) (InStep link) seen (net.step link .txConfirmation) := by
  have outstanding : 0 < net.unconfirmed := timely
  simp only [step]
  cases inStep with
  | flowing sender receiver expected data flow provided view =>
    obtain ⟨rfl, fresh, unblocked, sent', unconfirmed', stalled', one, moves, confirmed, -⟩ :=
      confirmation_moves matching most sender provided outstanding
    exact ⟨_, senderActs_watched moves (view.confirmed.trans fresh) unblocked, .flowing
      (moves.reaches_eq confirmed one) receiver expected (data.append moves.frames) flow
      (moves.provided_eq provided) (view.stalls _ _)⟩
  | turning sender left receiver block data flow waiting granting provided view =>
    obtain ⟨rfl, fresh, unblocked, sent', unconfirmed', stalled', one, moves, confirmed, ends⟩ :=
      confirmation_moves matching most sender provided outstanding
    obtain rfl := ends rfl
    have silent := moves.frames.eq_nil
    refine ⟨_, senderActs_watched moves (view.confirmed.trans fresh) unblocked, .turning
      (moves.reaches_eq confirmed one) left receiver block ?_ flow waiting granting
      (moves.provided_eq provided) (view.stalls _ _)⟩
    simp [senderActs, data, silent]
  | holding sender parked data waiting provided view =>
    obtain ⟨rfl, fresh, unblocked, sent', unconfirmed', stalled', one, moves, confirmed, ends⟩ :=
      confirmation_moves matching most sender provided outstanding
    obtain rfl := ends rfl
    have silent := moves.frames.eq_nil
    refine ⟨_, senderActs_watched moves (view.confirmed.trans fresh) unblocked, .holding
      (moves.reaches_eq confirmed one) parked ?_ waiting (moves.provided_eq provided)
      (view.stalls _ _)⟩
    simp [senderActs, data, silent]
  | finished sender idle data flow provided view =>
    obtain ⟨rfl, fresh, unblocked, sent', unconfirmed', stalled', one, moves, confirmed, ends⟩ :=
      confirmation_moves matching most sender provided outstanding
    obtain rfl := ends rfl
    have silent := moves.frames.eq_nil
    refine ⟨_, senderActs_watched moves (view.confirmed.trans fresh) unblocked, .finished
      (moves.reaches_eq confirmed one) idle ?_ flow (moves.provided_eq provided) (view.stalls _ _)⟩
    simp [senderActs, data, silent]

end

private theorem deliverFlowControl_inStep (answerable : link.Answerable)
    (inStep : InStep link net seen) (timely : Timely link net .deliverFlowControl) :
    Accepts (observe link) (InStep link) seen (net.step link .deliverFlowControl) := by
  obtain ⟨some_frame, confirmed⟩ := timely
  cases inStep with
  | flowing _ _ _ _ flow | finished _ _ _ flow => exact absurd flow some_frame
  | @turning turn due stalled turns waits grant sender left receiver block data flow waiting
      granting provided view =>
    obtain ⟨rfl, state⟩ := sender.stands left confirmed
    have fresh : seen.confirmed = none := view.confirmed.trans (by
      simp [confirmation, state])
    rw [confirmed] at sender
    cases waits with
    | nil =>
      obtain ⟨moves, -⟩ := canTpTxRxIndication_grant matching granting answerable sender block
      have caught_up : Viewed seen (link.sdu.take (link.carried turn)) none net.tx.confirmation
          (turns ++ [turn] ++ []) (turns ++ [turn]) := by
        rw [append_nil]
        exact view
      simp only [step, flow]
      refine ⟨_, senderActs_watched_blocked moves fresh state, .flowing
        (moves.reaches_eq confirmed rfl) receiver block.inside ?_ rfl (moves.provided_eq provided)
        (caught_up.unstalls _)⟩
      simpa [senderActs, data] using moves.frames
    | cons wait waits =>
      obtain ⟨moves, -⟩ := canTpTxRxIndication_wait matching
        (waiting wait mem_cons_self) answerable sender
      have silent := moves.frames.eq_nil
      simp only [step, flow]
      refine ⟨_, senderActs_watched_blocked moves fresh state, .turning
        (moves.reaches_eq confirmed rfl) left receiver block ?_ rfl
        (fun frame member => waiting frame (mem_cons_of_mem _ member)) granting
        (moves.provided_eq provided) (view.unstalls _)⟩
      simp [senderActs, data, silent]
  | @holding received stalled turns sender parked data waiting provided view =>
    obtain ⟨rfl, state⟩ := sender.stands parked.left confirmed
    have fresh : seen.confirmed = none := view.confirmed.trans (by
      simp [confirmation, state])
    rw [confirmed] at sender
    cases flow : net.flow with
    | nil => exact absurd flow some_frame
    | cons wait waits =>
      rw [flow] at waiting
      obtain ⟨moves, -⟩ := canTpTxRxIndication_wait matching
        (waiting wait mem_cons_self) answerable sender
      have silent := moves.frames.eq_nil
      simp only [step, flow]
      refine ⟨_, senderActs_watched_blocked moves fresh state, .holding
        (moves.reaches_eq confirmed rfl) parked ?_
        (fun frame member => waiting frame (mem_cons_of_mem _ member))
        (moves.provided_eq provided) (view.unstalls _)⟩
      simp [senderActs, data, silent]

private theorem deliverData_inStep (some_byte : 0 < link.sdu.length) (most : link.sdu.length ≤ 4095)
    (inStep : InStep link net seen) (timely : Timely link net (.deliverData ans))
    (supports : Supports link net (.deliverData ans)) :
    Accepts (observe link) (InStep link) seen (net.step link (.deliverData ans)) := by
  have some_frame : net.data ≠ [] := timely
  obtain ⟨accepted, stores⟩ := supports
  cases inStep with
  | turning _ _ _ _ data | holding _ _ data | finished _ _ data => exact absurd data some_frame
  | @flowing sent received due stalled turns sender receiver expected data flow provided view =>
    cases queue : net.data with
    | nil => exact absurd queue some_frame
    | cons frame rest =>
      rw [queue] at data stores
      obtain ⟨stored, covered⟩ := stores frame rfl
      obtain ⟨within, reaches⟩ := sender.le
      cases data with
      | cons carries behind =>
        have after := behind.le
        simp only [step, queue]
        cases frame_delivered matching some_byte most receiver carries stored covered accepted with
        | ends last state silent takes =>
          have watched := receiverActs_watched { net with data := rest } takes
            (by simp [silent]) view.indicated view.received
          obtain rfl : sent = link.frames := by omega
          obtain rfl : due = link.frames := by omega
          rw [last] at behind
          have all : link.sdu.take (link.carried (received + 1)) = link.sdu := by
            rw [last]
            exact take_of_length_le (Nat.le_of_eq carried_frameCount.symm)
          refine ⟨_, watched, .finished sender state behind.eq_nil ?_ provided { view with
            received := all, indicated := rfl }⟩
          simp [receiverActs, flow, silent]
        | continues early reaches silent takes =>
          have watched := receiverActs_watched { net with data := rest } takes
            (by simp [silent]) view.indicated view.received
          refine ⟨_, watched, .flowing sender reaches early behind ?_ provided { view with
            received := rfl, indicated := rfl }⟩
          simp [receiverActs, flow, silent]
        | grants turn left granted takes =>
          have watched := receiverActs_granted { net with data := rest } takes granted
            view.indicated view.received
          subst turn
          obtain rfl : sent = received + 1 := by omega
          obtain ⟨due', reaches, block⟩ := granted.reaches
          obtain ⟨grant, sends, control⟩ := granted.sends
          have flying : net.flow ++ transmitted (canTpRxRxIndication link.receiver link.entry net.rx
              (.ofList frame) ans).2 = [] ++ [grant] := by rw [flow, sends]
          refine ⟨_, watched, .turning sender left reaches block behind.eq_nil flying nofun
            control provided ⟨rfl, rfl, view.confirmed, view.waits, ?_⟩⟩
          rw [view.grants]
        | parks _ turn parked sends takes =>
          have watched := receiverActs_watched { net with data := rest } takes sends
            view.indicated view.received
          subst turn
          obtain rfl : sent = received + 1 := by omega
          refine ⟨_, watched, .holding sender parked behind.eq_nil ?_ provided { view with
            received := rfl, indicated := rfl }⟩
          simpa [receiverActs, flow, nil_append] using sends

private theorem receiverMain_inStep (most : link.sdu.length ≤ 4095) (inStep : InStep link net seen)
    (timely : Timely link net (.receiverMain ans))
    (supports : Supports link net (.receiverMain ans)) :
    Accepts (observe link) (InStep link) seen (net.step link (.receiverMain ans)) := by
  obtain ⟨accepted, retries⟩ := supports
  simp only [step]
  cases inStep with
  | flowing sender receiver expected data flow provided view =>
    obtain ⟨timeout, ticks⟩ := canTpRxMainFunction_waits matching receiver
      link.rxConfig.canTpRxTaType ans timely
    rw [ticks, receiverActs_quiet]
    exact ⟨seen, rfl, .flowing sender (receiver.setTimeout timeout) expected data flow provided view⟩
  | turning sender left receiver block data flow waiting granting provided view =>
    obtain ⟨timeout, ticks⟩ := canTpRxMainFunction_waits matching receiver
      link.rxConfig.canTpRxTaType ans timely
    rw [ticks, receiverActs_quiet]
    exact ⟨seen, rfl, .turning sender left (receiver.setTimeout timeout) block data flow waiting
      granting provided view⟩
  | finished sender idle data flow provided view =>
    rw [canTpRxMainFunction_idle idle]
    exact ⟨seen, rfl, .finished sender idle data (by simp [receiverActs, flow, transmitted])
      provided view⟩
  | holding sender parked data waiting provided view =>
    cases canTpRxMainFunction_parked matching most parked link.rxConfig.canTpRxTaType
      retries accepted with
    | grants granted takes =>
      have watched := receiverActs_granted net takes granted view.indicated view.received
      obtain ⟨due', reaches, block⟩ := granted.reaches
      obtain ⟨grant, sends, control⟩ := granted.sends
      have flying : net.flow ++ transmitted (canTpRxMainFunction link.receiver
          link.rxConfig.canTpRxTaType net.rx ans).2 = net.flow ++ [grant] := by rw [sends]
      refine ⟨_, watched, .turning sender parked.left reaches block data flying waiting control
        provided ⟨rfl, rfl, view.confirmed, view.waits, ?_⟩⟩
      rw [view.grants]
    | waits still sends takes =>
      have watched := receiverActs_watched net takes sends view.indicated view.received
      refine ⟨_, watched, .holding sender still data ?_ provided { view with
        received := rfl, indicated := rfl }⟩
      intro frame member
      rcases mem_append.mp member with old | new
      · exact waiting frame old
      · exact sends frame new

theorem step_inStep (some_byte : 0 < link.sdu.length)
    (most : link.sdu.length ≤ 4095) {action : Action} (inStep : InStep link net seen)
    (answerable : action = .deliverFlowControl → link.Answerable)
    (timely : Timely link net action) (supports : Supports link net action) :
    Accepts (observe link) (InStep link) seen (net.step link action) := by
  cases action with
  | senderMain => exact senderMain_inStep matching most inStep timely
  | txConfirmation => exact txConfirmation_inStep matching most inStep timely
  | deliverData ans => exact deliverData_inStep matching some_byte most inStep timely supports
  | deliverFlowControl => exact deliverFlowControl_inStep matching (answerable rfl) inStep timely
  | receiverMain ans => exact receiverMain_inStep matching most inStep timely supports

theorem start_inStep {rx : SimplexChannel} (tx_idle : tx.state = .idle) (rx_idle : rx.state = .idle)
    (accepted : (canTpTransmit link.sender link.txSduId link.sdu.length tx).1 = .eOk) :
    InStep link (link.start tx rx) .nothing := by
  have sender := canTpTransmit_starts matching tx_idle accepted
  refine .flowing sender (.fresh rx_idle) Nat.one_pos (.nil 0) rfl rfl
    ⟨rfl, rfl, ?_, (append_nil []).symm, rfl⟩
  have state : (link.start tx rx).tx.state = .txWaitTransmit :=
    canTpTransmit_state matching tx_idle accepted
  simp [Observed.nothing, confirmation, state]

end

end Step

end CanTp
