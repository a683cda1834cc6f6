import ClassicPlatform.Lib.Machine
import ClassicPlatform.CanTp.Transmitter

/-!
# Transmit requests and their confirmations

One transmit N-SDU with its channel, driven by any sequence of requests, frame
confirmations, received frames and main-function ticks. A monitor follows what
the upper layer sees: every accepted request is confirmed once, and frames leave
only on behalf of an accepted request.
-/
namespace CanTp

open Machine List SimplexChannel

inductive TxEvent
  | transmit (sduLength : Nat)
  | txConfirmation (answers : TxAnswers)
  | rxIndication (mode : AddressingFormat) (pdu : Pdu)
  | mainFunction (answers : TxAnswers)

inductive TxOutput
  | returned (result : StdReturn)
  | called (call : Call)
  deriving DecidableEq

variable (config : Config) (canTpTxSduId sduLength : Nat)

/-- One entry-point call for the N-SDU on its channel. -/
def txStep (canTpTxSduId : Nat) (tx : SimplexChannel) : TxEvent → SimplexChannel × List TxOutput
  | .transmit sduLength =>
    let (ret, tx) := canTpTransmit config canTpTxSduId sduLength tx
    (tx, [.returned ret])
  | .txConfirmation answers =>
    let (tx, calls) := canTpTxConfirmation config.canTpGeneral (config.txConfig canTpTxSduId) tx
      answers
    (tx, calls.map .called)
  | .rxIndication mode pdu =>
    let (tx, calls) := canTpTxRxIndication (config.txConfig canTpTxSduId) mode tx pdu
    (tx, calls.map .called)
  | .mainFunction answers =>
    let (tx, calls) := canTpTxMainFunction config tx answers
    (tx, calls.map .called)

/-- The upper layer's view: `true` while an accepted request waits for its confirmation. -/
def txMonitor (pduRPduId : Nat) (outstanding : Bool) : TxOutput → Option Bool
  | .returned .eOk => if outstanding then none else some true
  | .returned .eNotOk => some outstanding
  | .called (.pduRTxConfirmation id _) =>
    if outstanding ∧ id = pduRPduId then some false else none
  | .called (.canIfTransmit _ _ _) => if outstanding then some outstanding else none
  | .called _ => some outstanding

/-- The longest SDU a single frame of the N-SDU can carry. -/
def Config.singleFrameLimit (canTpTxSduId : Nat) : Nat :=
  maxPayload (config.txConfig canTpTxSduId)
    (config.canTpNSduList (config.txIndex canTpTxSduId)).canTpFDSupport

/-- The development error check of `CanTp_Transmit` on its identifier. -/
def Config.rejectsId (canTpTxSduId : Nat) : Prop :=
  config.canTpGeneral.devErrorDetect ∧ ¬ canTpTxSduId < config.canTpGeneral.numberOfSdus

/-- The target type of the N-SDU allows an SDU of this length. -/
def Config.Sendable : Prop :=
  (config.txConfig canTpTxSduId).canTpTxTaType = .canTpPhysical ∨
    sduLength ≤ config.singleFrameLimit canTpTxSduId

/-- Requests that `CanTp_Transmit` answers lawfully: the identifier is refused, or it stands
for an N-SDU and, if the channel is idle, the SDU can be sent. -/
def Servable (tx : SimplexChannel) : Prop :=
  config.rejectsId canTpTxSduId ∨
    config.txIndex canTpTxSduId ≠ 0xFFFF ∧
      (tx.state = .idle → config.Sendable canTpTxSduId sduLength)

def RequestsServable (canTpTxSduId : Nat) (tx : SimplexChannel) : TxEvent → Prop
  | .transmit sduLength => Servable config canTpTxSduId sduLength tx
  | _ => True

/-- An accepted request occupies the idle channel; a refused one changes nothing. -/
def Lawful (tx : SimplexChannel) : Prop :=
  match canTpTransmit config canTpTxSduId sduLength tx with
  | (.eOk, next) => tx.state = .idle ∧ next.state ≠ .idle
  | (.eNotOk, next) => next = tx

def TransferState.active : TransferState → Bool
  | .txWaitStmin | .txWaitTransmit | .txWaitFlowControl | .txWaitTxConfirmation => true
  | _ => false

theorem TransferState.ne_idle_of_active {state : TransferState} (busy : state.active) :
    state ≠ .idle := by
  rintro rfl
  cases busy

/-- Calls that neither confirm nor concern the receiving side. -/
def Call.working : Call → Bool
  | .pduRCopyTxData _ _ _ | .canIfTransmit _ _ _ => true
  | _ => false

/-- What an entry point other than `CanTp_Transmit` can do to a busy channel: carry on, or
end the transfer with one confirmation as its last call. -/
inductive TxProgress (txConfig : TxNSdu) (pduId : Nat) : SimplexChannel × List Call → Prop
  | carriesOn {next : SimplexChannel} {calls : List Call} (busy : next.state.active = true)
      (same : next.pduId = pduId) (working : ∀ call ∈ calls, call.working = true) :
      TxProgress txConfig pduId (next, calls)
  | ends {next : SimplexChannel} {calls : List Call} (result : NotifResult)
      (idle : next.state = .idle) (working : ∀ call ∈ calls, call.working = true) :
      TxProgress txConfig pduId (next, calls ++ [.pduRTxConfirmation txConfig.pduRPduId result])

section Progress

variable (general : General) (txConfig : TxNSdu) {tx : SimplexChannel} (ans : TxAnswers)

private theorem finishTx_ends (last : SimplexChannel) (result : NotifResult) :
    TxProgress txConfig tx.pduId (finishTx txConfig last result) :=
  TxProgress.ends result rfl (forall_mem_nil _)

private theorem padding_keeps (last : SimplexChannel) (sduLength : Nat) :
    let padded := canTansmitPaddingHelper general txConfig last sduLength ans
    padded.2.1.state = last.state ∧ padded.2.1.pduId = last.pduId ∧
      ∀ call ∈ padded.2.2, call.working = true := by
  unfold canTansmitPaddingHelper
  split <;> simp [Call.working]

variable (busy : tx.state.active = true)
include busy

private theorem sendNextTxFrame_busy :
    let sent := sendNextTxFrame general txConfig tx ans
    sent.2.1.state.active = true ∧ sent.2.1.pduId = tx.pduId ∧
      ∀ call ∈ sent.2.2, call.working = true := by
  unfold sendNextTxFrame
  split
  · obtain ⟨state, pduId, working⟩ := padding_keeps general txConfig ans
      (fillFrame txConfig tx ans)
      ((nextSduLength txConfig tx + tx.canFrameBuffer.byteCount % 256) % 65536)
    refine ⟨(congrArg TransferState.active state).trans rfl, pduId, ?_⟩
    intro call member
    rcases mem_cons.mp member with rfl | member
    · rfl
    · exact working call member
  · exact ⟨busy, rfl, by simp [Call.working]⟩

private theorem transmitNext_progress :
    TxProgress txConfig tx.pduId (transmitNext general txConfig tx ans) := by
  obtain ⟨still, same, working⟩ := sendNextTxFrame_busy general txConfig ans busy
  unfold transmitNext
  simp only [finishTx]
  split
  · exact .carriesOn still same working
  split
  · split
    · exact .ends _ rfl working
    · exact .carriesOn still same working
  · exact .ends _ rfl working

private theorem handleNextTxFrameSent_progress :
    TxProgress txConfig tx.pduId (handleNextTxFrameSent general txConfig tx ans) := by
  have prepared : (prepareNextFrame txConfig tx).state.active = true := busy
  obtain ⟨still, same, working⟩ := sendNextTxFrame_busy general txConfig ans prepared
  unfold handleNextTxFrameSent
  simp only
  split
  · exact finishTx_ends _ _ _
  split
  · exact .carriesOn rfl rfl (forall_mem_nil _)
  split
  · split
    · exact .carriesOn still same working
    split
    · exact .carriesOn rfl same working
    · exact .ends _ rfl working
  · exact .carriesOn rfl rfl (forall_mem_nil _)

private theorem handleFlowControlFrame_progress (pdu : Pdu) :
    TxProgress txConfig tx.pduId (handleFlowControlFrame txConfig tx pdu) := by
  unfold handleFlowControlFrame
  simp only
  split
  · exact .carriesOn busy rfl (forall_mem_nil _)
  split
  · split
    · exact .carriesOn rfl rfl (forall_mem_nil _)
    split
    · exact .carriesOn rfl rfl (forall_mem_nil _)
    split <;> exact finishTx_ends _ _ _
  · exact .carriesOn busy rfl (forall_mem_nil _)

private theorem txSduStateMachine_progress :
    TxProgress txConfig tx.pduId (txSduStateMachine general txConfig tx ans) := by
  unfold txSduStateMachine
  simp only
  split
  · split
    · exact .carriesOn busy rfl (forall_mem_nil _)
    · have waiting : ({ tx with
          state := .txWaitTransmit
          stateTimeoutCount := txConfig.canTpNcs + 1 } : SimplexChannel).state.active = true := rfl
      exact transmitNext_progress general txConfig ans waiting
  · exact transmitNext_progress general txConfig ans busy
  · split
    · exact finishTx_ends _ _ _
    · exact .carriesOn busy rfl (forall_mem_nil _)
  · split
    · exact finishTx_ends _ _ _
    · exact .carriesOn busy rfl (forall_mem_nil _)
  · exact .carriesOn busy rfl (forall_mem_nil _)

end Progress

private theorem txMonitor_working {pduRPduId : Nat} {calls : List Call}
    (working : ∀ call ∈ calls, call.working) :
    watch (txMonitor pduRPduId) true (calls.map .called) = some true := by
  apply watch_skip
  intro output member
  obtain ⟨call, present, rfl⟩ := mem_map.mp member
  have works := working call present
  cases call with
  | pduRCopyTxData | canIfTransmit => rfl
  | _ => cases works

variable (config : Config) (canTpTxSduId : Nat) (tx : SimplexChannel) in
/-- How the monitor's state and the channel belong together. -/
inductive TxTracks : Bool → Prop
  | free (idle : tx.state = .idle) : TxTracks false
  | occupied (busy : tx.state.active = true) (owner : tx.pduId = config.txIndex canTpTxSduId)
      (valid : config.txIndex canTpTxSduId ≠ 0xFFFF) : TxTracks true

private inductive TransmitOutcome (tx : SimplexChannel) : StdReturn × SimplexChannel → Prop
  | rejected (rejects : config.rejectsId canTpTxSduId) :
      TransmitOutcome tx (.eNotOk, tx)
  | unknown (taken : ¬ config.rejectsId canTpTxSduId)
      (none : config.txIndex canTpTxSduId = 0xFFFF) :
      TransmitOutcome tx (.eOk, tx)
  | occupied (known : config.txIndex canTpTxSduId ≠ 0xFFFF) (busy : tx.state ≠ .idle) :
      TransmitOutcome tx (.eNotOk, tx)
  | started {next : SimplexChannel} (known : config.txIndex canTpTxSduId ≠ 0xFFFF)
      (idle : tx.state = .idle) (sendable : config.Sendable canTpTxSduId sduLength)
      (waiting : next.state = .txWaitTransmit) (owner : next.pduId = config.txIndex canTpTxSduId) :
      TransmitOutcome tx (.eOk, next)
  | stranded {next : SimplexChannel} (taken : ¬ config.rejectsId canTpTxSduId)
      (idle : tx.state = .idle) (unsendable : ¬ config.Sendable canTpTxSduId sduLength)
      (waiting : next.state = .txWaitTransmit) :
      TransmitOutcome tx (.eNotOk, next)

section Tracking

variable {config : Config} {canTpTxSduId : Nat} {tx : SimplexChannel} {outstanding : Bool}

private theorem TxProgress.tracked {result : SimplexChannel × List Call}
    (progress : TxProgress (config.txConfig canTpTxSduId) (config.txIndex canTpTxSduId) result)
    (valid : config.txIndex canTpTxSduId ≠ 0xFFFF) :
    Accepts (txMonitor (config.txConfig canTpTxSduId).pduRPduId) (TxTracks config canTpTxSduId)
      true (result.1, result.2.map .called) := by
  cases progress with
  | carriesOn busy same working => exact ⟨true, txMonitor_working working, .occupied busy same valid⟩
  | ends result idle working =>
    refine ⟨false, ?_, .free idle⟩
    rw [map_append, watch_append, txMonitor_working working]
    simp [txMonitor]

private theorem idle_ignores (idle : tx.state = .idle) {event : TxEvent}
    (other : ∀ sduLength, event ≠ .transmit sduLength) :
    txStep config canTpTxSduId tx event = (tx, []) := by
  cases event with
  | transmit sduLength => exact absurd rfl (other sduLength)
  | txConfirmation answers => simp [txStep, canTpTxConfirmation, idle]
  | rxIndication mode pdu =>
    simp [txStep, canTpTxRxIndication, handleFlowControlFrame, idle]
  | mainFunction answers => simp [txStep, canTpTxMainFunction, txSduStateMachine, idle]

private theorem startTransfer_outcome {sduLength : Nat} (taken : ¬ config.rejectsId canTpTxSduId)
    (known : config.txIndex canTpTxSduId ≠ 0xFFFF) (idle : tx.state = .idle) :
    TransmitOutcome config canTpTxSduId sduLength tx
      (startTransfer (config.canTpNSduList (config.txIndex canTpTxSduId))
        (config.txIndex canTpTxSduId) sduLength tx) := by
  unfold startTransfer calcRequiredProtocolFrameType
  by_cases short : sduLength ≤ maxPayload (config.txConfig canTpTxSduId)
      (config.canTpNSduList (config.txIndex canTpTxSduId)).canTpFDSupport
  · simp only [Config.txConfig] at short
    simp only [short]
    exact .started known idle (.inr short) rfl rfl
  · by_cases physical : (config.txConfig canTpTxSduId).canTpTxTaType = .canTpPhysical
    · have sendable : config.Sendable canTpTxSduId sduLength := .inl physical
      simp only [Config.txConfig] at short physical
      simp only [short, physical]
      exact .started known idle sendable rfl rfl
    · have unsendable : ¬ config.Sendable canTpTxSduId sduLength :=
        not_or.mpr ⟨physical, short⟩
      simp only [Config.txConfig] at short physical
      simp only [short, physical]
      exact .stranded taken idle unsendable rfl

private theorem canTpTransmit_outcome (config : Config) (canTpTxSduId sduLength : Nat)
    (tx : SimplexChannel) :
    TransmitOutcome config canTpTxSduId sduLength tx
      (canTpTransmit config canTpTxSduId sduLength tx) := by
  unfold canTpTransmit
  split
  next rejects => exact .rejected rejects
  next taken =>
    simp only
    split
    next known =>
      split
      next idle => exact startTransfer_outcome taken known idle
      next occupied => exact .occupied known occupied
    next unknown => exact .unknown taken (not_not.mp unknown)

private theorem lawful_iff_servable (config : Config) (canTpTxSduId sduLength : Nat)
    (tx : SimplexChannel) :
    Lawful config canTpTxSduId sduLength tx ↔ Servable config canTpTxSduId sduLength tx := by
  have outcome := canTpTransmit_outcome config canTpTxSduId sduLength tx
  unfold Lawful Servable
  generalize canTpTransmit config canTpTxSduId sduLength tx = result at outcome
  cases outcome with
  | rejected rejects => simp [rejects]
  | unknown taken none => simp [taken, none]
  | occupied known busy => simp [known, busy]
  | started known idle sendable waiting => simp [known, idle, sendable, waiting]
  | @stranded next taken idle unsendable waiting =>
    have changed : next ≠ tx := by
      rintro rfl
      rw [waiting] at idle
      cases idle
    simp [taken, idle, unsendable, changed]

private theorem transmit_tracked (sduLength : Nat)
    (tracks : TxTracks config canTpTxSduId tx outstanding)
    (servable : Servable config canTpTxSduId sduLength tx) :
    Accepts (txMonitor (config.txConfig canTpTxSduId).pduRPduId) (TxTracks config canTpTxSduId)
      outstanding (txStep config canTpTxSduId tx (.transmit sduLength)) := by
  simp only [txStep]
  have outcome := canTpTransmit_outcome config canTpTxSduId sduLength tx
  generalize canTpTransmit config canTpTxSduId sduLength tx = result at outcome
  cases outcome with
  | rejected | occupied => exact ⟨outstanding, rfl, tracks⟩
  | unknown taken none => exact absurd none (servable.resolve_left taken).1
  | started known idle sendable waiting owner =>
    cases tracks with
    | free => exact ⟨true, rfl, .occupied (by rw [waiting]; rfl) owner known⟩
    | occupied busy => exact absurd idle (TransferState.ne_idle_of_active busy)
  | stranded taken idle unsendable =>
    exact absurd ((servable.resolve_left taken).2 idle) unsendable

private theorem txStep_tracked (event : TxEvent)
    (tracks : TxTracks config canTpTxSduId tx outstanding)
    (servable : RequestsServable config canTpTxSduId tx event) :
    Accepts (txMonitor (config.txConfig canTpTxSduId).pduRPduId) (TxTracks config canTpTxSduId)
      outstanding (txStep config canTpTxSduId tx event) := by
  cases tracks with
  | free idle =>
    cases event with
    | transmit sduLength => exact transmit_tracked sduLength (.free idle) servable
    | _ =>
      rw [idle_ignores idle (by simp)]
      exact ⟨false, rfl, .free idle⟩
  | occupied busy owner valid =>
    cases event with
    | transmit sduLength => exact transmit_tracked sduLength (.occupied busy owner valid) servable
    | txConfirmation answers =>
      refine @TxProgress.tracked _ _ (canTpTxConfirmation _ _ tx answers) ?_ valid
      unfold canTpTxConfirmation
      split
      · exact owner ▸ handleNextTxFrameSent_progress _ _ answers busy
      · exact .carriesOn busy owner (forall_mem_nil _)
    | rxIndication mode pdu =>
      refine @TxProgress.tracked _ _ (canTpTxRxIndication _ mode tx pdu) ?_ valid
      unfold canTpTxRxIndication
      split
      · exact owner ▸ handleFlowControlFrame_progress _ busy pdu
      · exact .carriesOn busy owner (forall_mem_nil _)
    | mainFunction answers =>
      have machine := txSduStateMachine_progress config.canTpGeneral
        (config.txConfig canTpTxSduId) answers busy
      refine @TxProgress.tracked _ _ (canTpTxMainFunction config tx answers) ?_ valid
      unfold canTpTxMainFunction
      rw [owner] at machine ⊢
      rw [if_pos (show config.txIndex canTpTxSduId ≠ invalidPduId from valid)]
      exact machine

end Tracking

/-- Along every run whose requests are all servable, each accepted request is confirmed
exactly once, nothing is sent or confirmed without one, and the channel is idle exactly when
none is outstanding. In every state so reached, servable is also what a request must be to
be either accepted into the idle channel or refused without a trace. -/
theorem transmit_requests_accounted (config : Config) (canTpTxSduId : Nat)
    (channel : SimplexChannel) (events : List TxEvent)
    (servable : Meets (txStep config canTpTxSduId) (RequestsServable config canTpTxSduId)
      (initTx15765RuntimeData channel) events) :
    (∃ outstanding, watch (txMonitor (config.txConfig canTpTxSduId).pduRPduId) false
        (run (txStep config canTpTxSduId) (initTx15765RuntimeData channel) events).2 =
          some outstanding ∧
      (outstanding = false ↔
        (run (txStep config canTpTxSduId) (initTx15765RuntimeData channel) events).1.state =
          .idle)) ∧
    ∀ sduLength,
      Lawful config canTpTxSduId sduLength
        (run (txStep config canTpTxSduId) (initTx15765RuntimeData channel) events).1 ↔
      Servable config canTpTxSduId sduLength
        (run (txStep config canTpTxSduId) (initTx15765RuntimeData channel) events).1 := by
  refine ⟨?_, fun sduLength => lawful_iff_servable config canTpTxSduId sduLength _⟩
  obtain ⟨outstanding, watched, tracks⟩ := run_watched _ (TxTracks.free rfl) servable
    fun _ event _ tracks servable => txStep_tracked event tracks servable
  refine ⟨outstanding, watched, ?_⟩
  cases tracks with
  | free idle => simp [idle]
  | occupied busy => simp [TransferState.ne_idle_of_active busy]

/-- A functionally addressed N-SDU with standard addressing on classic CAN. -/
def functionalConfig : Config :=
  Config.uniform .canTpStandard {
    canTpRxNSdu := RxNSdu.sample .canTpStandard 0
    canTpTxNSdu := { TxNSdu.sample .canTpStandard with canTpTxTaType := .canTpFunctional }
    canTpFDSupport := false }

def agreeable : TxAnswers where
  copyTxData := .bufReqOk
  txData := fun i => BitVec.ofNat 8 (i + 1)
  canIfTransmit := .eOk

theorem short_request_accounted :
    Meets (txStep functionalConfig 0) (RequestsServable functionalConfig 0)
      (initTx15765RuntimeData cleared)
      [.transmit 7, .mainFunction agreeable, .txConfirmation agreeable] ∧
    (run (txStep functionalConfig 0) (initTx15765RuntimeData cleared)
      [.transmit 7, .mainFunction agreeable, .txConfirmation agreeable]).1.state = .idle ∧
    watch (txMonitor 7) false (run (txStep functionalConfig 0)
      (initTx15765RuntimeData cleared)
      [.transmit 7, .mainFunction agreeable, .txConfirmation agreeable]).2 = some false := by
  have servable : Meets (txStep functionalConfig 0) (RequestsServable functionalConfig 0)
      (initTx15765RuntimeData cleared)
      [.transmit 7, .mainFunction agreeable, .txConfirmation agreeable] :=
    ⟨.inr ⟨by decide, fun _ => .inr (by decide)⟩, trivial, trivial, trivial⟩
  obtain ⟨⟨outstanding, watched, free⟩, -⟩ :=
    transmit_requests_accounted functionalConfig 0 cleared _ servable
  have idle : (run (txStep functionalConfig 0) (initTx15765RuntimeData cleared)
      [.transmit 7, .mainFunction agreeable, .txConfirmation agreeable]).1.state = .idle := by
    decide
  exact ⟨servable, idle, free.mpr idle ▸ watched⟩

/-- A functional request for eight bytes is refused, yet its bytes go out as a frame
without PCI and are confirmed. -/
theorem refused_request_sent :
    (run (txStep functionalConfig 0) (initTx15765RuntimeData cleared)
      [.transmit 8, .mainFunction agreeable, .txConfirmation agreeable]).2 =
      [.returned .eNotOk, .called (.pduRCopyTxData 7 8 .bufReqOk),
        .called (.canIfTransmit 4 [1, 2, 3, 4, 5, 6, 7, 8] .eOk),
        .called (.pduRTxConfirmation 7 .ntfRsltOk)] ∧
    ¬ Lawful functionalConfig 0 8 (initTx15765RuntimeData cleared) := by
  refine ⟨by decide, ?_⟩
  intro lawful
  have unchanged : (canTpTransmit functionalConfig 0 8
      (initTx15765RuntimeData cleared)).2.state = .idle :=
    congrArg state lawful
  revert unchanged
  decide

end CanTp
