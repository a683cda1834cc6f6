import ClassicPlatform.Lib.Credit
import ClassicPlatform.CanTp.Network

/-!
# The sending end of a transfer

How far a transmit channel has come, in frames, and when it next has to wait for
flow control. Each entry point moves it on, puts at most one frame on the bus and
takes the bytes of that frame from the upper layer.
-/
namespace CanTp

open AddressingFormat Credit List Machine Nat SimplexChannel

namespace Link

variable (link : Link)

/-- The number of frames of the transfer. -/
def frames : Nat := frameCount link.format link.sdu.length

/-- The number of bytes in the first `n` frames. -/
def carried (n : Nat) : Nat := CanTp.carried link.format link.sdu.length n

end Link

/-- These are the frames `first`, …, `last - 1` of the transfer. -/
inductive InFlight (link : Link) : Nat → Nat → List (List Byte) → Prop
  | nil (n : Nat) : InFlight link n n []
  | cons {first last : Nat} {frame : List Byte} {rest : List (List Byte)}
      (carries : Carries link.format link.target link.sdu first frame)
      (behind : InFlight link (first + 1) last rest) : InFlight link first last (frame :: rest)

variable {last : Nat} {link : Link}

variable {first : Nat} {frames : List (List Byte)}

theorem InFlight.append {middle : Nat} {front back : List (List Byte)}
    (sent : InFlight link first middle front) (next : InFlight link middle last back) :
    InFlight link first last (front ++ back) := by
  induction sent with
  | nil => exact next
  | cons carries _ ih => exact .cons carries (ih next)

theorem InFlight.length_eq
    (sent : InFlight link first last frames) : first + frames.length = last := by
  induction sent with
  | nil => rfl
  | cons _ _ ih =>
    rw [length_cons]
    omega

theorem InFlight.le (sent : InFlight link first last frames) : first ≤ last := by
  have length := sent.length_eq
  omega

theorem InFlight.eq_nil {n : Nat} (sent : InFlight link n n frames) : frames = [] := by
  have length := sent.length_eq
  exact length_eq_zero_iff.mp (by omega)

/-- Flow control frames reach the sender: they carry the N_TA of the receive N-SDU, where the
sender expects its own N_SA. -/
def Link.Answerable (link : Link) : Prop :=
  link.format = .canTpStandard ∨ link.txConfig.canTpNTa = link.txConfig.canTpNSa

/-- A flow control frame of the receiver; the block size counts in clear-to-send frames only. -/
structure FlowControl (link : Link) (status : Byte) (frame : List Byte) : Prop where
  target : link.format = .canTpExtended →
    frame.getD 0 0 = BitVec.ofNat 8 link.rxConfig.canTpNTa
  pci : frame.getD link.format.tpciOffset 0 = 0x30#8 ||| status
  blockSize : status = 0#8 →
    frame.getD (link.format.tpciOffset + 1) 0 = BitVec.ofNat 8 link.rxConfig.canTpBs

/-- The channel has taken the bytes of the first `sent` frames from the upper layer. -/
structure Sending (link : Link) (sent : Nat) (tx : SimplexChannel) : Prop where
  pduId : tx.pduId = link.sender.txIndex link.txSduId
  classic : tx.canfdSupport = false
  total : tx.transferTotal = link.sdu.length
  count : tx.transferCount = link.carried sent
  target : link.format = .canTpExtended → tx.canFrameBuffer.data 0 = link.target

/-- The header of the next frame is in the buffer. -/
structure Headed (link : Link) (next : Nat) (tx : SimplexChannel) : Prop where
  number : tx.framesHandledCount = next
  byteCount : tx.canFrameBuffer.byteCount = headerBytes link.format link.sdu.length next
  pci : tx.canFrameBuffer.data link.format.tpciOffset = pciByte link.format link.sdu.length next
  low : next = 0 → ¬ link.sdu.length ≤ link.format.payload →
    tx.canFrameBuffer.data (link.format.tpciOffset + 1) = BitVec.ofNat 8 (link.sdu.length &&& 0xFF)

variable (link : Link) (tx : SimplexChannel) in
/-- The channel has sent this many frames and has to wait for flow control after `due` frames;
`stalled` names the frame it waits at. -/
inductive SenderAt : (sent due unconfirmed : Nat) → (stalled : List Nat) → Prop
  | ready {sent due : Nat} (sending : Sending link sent tx) (headed : Headed link sent tx)
      (left : sent < link.frames) (state : tx.state = .txWaitTransmit ∨ tx.state = .txWaitStmin)
      (block : Until tx.bs tx.nextFlowControlCount link.frames sent due) :
      SenderAt sent due 0 []
  | confirming {last due : Nat} (sending : Sending link (last + 1) tx)
      (number : tx.framesHandledCount = last) (left : last < link.frames)
      (state : tx.state = .txWaitTxConfirmation)
      (block : Until tx.bs tx.nextFlowControlCount link.frames last due) :
      SenderAt (last + 1) due 1 []
  | blocked {sent : Nat} (sending : Sending link sent tx) (headed : Headed link sent tx)
      (left : sent < link.frames) (state : tx.state = .txWaitFlowControl) :
      SenderAt sent sent 0 [sent]
  | done {sent : Nat} (all : sent = link.frames) (state : tx.state = .idle) :
      SenderAt sent sent 0 []

/-- What a step of the sender does, from `sent` frames on. -/
structure SenderMoves (link : Link) (sent sent' due' unconfirmed' : Nat) (stalled' : List Nat)
    (result : SimplexChannel × List Call) : Prop where
  reaches : SenderAt link result.1 sent' due' unconfirmed' stalled'
  frames : InFlight link sent sent' (transmitted result.2)
  provided : link.carried sent + requested result.2 = link.carried sent'
  reported : ∀ seen, seen.confirmed = none →
    watch (observe link) seen (result.2.map .sender) =
      some { seen with confirmed := result.1.confirmation }

section Sender

variable {link : Link} {tx : SimplexChannel} {sent due : Nat}

theorem addressBytes_eq_tpciOffset (txConfig : TxNSdu) :
    txConfig.addressBytes = txConfig.canTpAddressingMode.tpciOffset := by
  unfold TxNSdu.addressBytes tpciOffset
  cases txConfig.canTpAddressingMode <;> rfl

private theorem getD_takeBytes (ptr : Nat → Byte) {n i : Nat} (inside : i < n) :
    (takeBytes ptr n).getD i 0 = ptr i := by
  simp [takeBytes, inside]

private theorem headerBytes_pos (format : AddressingFormat) (total n : Nat) :
    format.tpciOffset + 1 ≤ headerBytes format total n ∧ headerBytes format total n ≤ 3 := by
  unfold headerBytes
  cases format <;> simp only [tpciOffset] <;> split <;> omega

private theorem share_eq (format : AddressingFormat) (total n : Nat) :
    CanTp.carried format total (n + 1) - CanTp.carried format total n =
      min (8 - headerBytes format total n) (total - CanTp.carried format total n) := by
  cases n with
  | zero =>
    rw [carried_one]
    unfold beginning headerBytes
    simp only [CanTp.carried, true_and]
    by_cases single : total ≤ format.payload
    · rw [if_pos single, if_neg (not_not.mpr single)]
      cases format <;>
        simp only [payload, tpciOffset] at single ⊢ <;> omega
    · rw [if_neg single, if_pos single]
      cases format <;>
        simp only [payload, tpciOffset] at single ⊢ <;> omega
  | succ n =>
    have header : 8 - headerBytes format total (n + 1) = format.payload := by
      cases format <;> rfl
    rw [carried_succ (Nat.succ_pos n), header, Nat.add_sub_cancel_left]

private theorem nextSduLength_eq (sending : Sending link sent tx) (headed : Headed link sent tx)
    (most : link.sdu.length ≤ 4095) :
    nextSduLength link.txConfig tx = link.carried (sent + 1) - link.carried sent := by
  have header := headerBytes_pos link.format link.sdu.length sent
  have within := @carried_le link.format link.sdu.length sent
  have share := share_eq link.format link.sdu.length sent
  unfold nextSduLength
  simp only [sending.classic, Bool.false_eq_true, if_false, sending.total, sending.count,
    headed.byteCount, Link.carried]
  split <;> omega

private theorem carries_of_buffer (sending : Sending link sent tx) (headed : Headed link sent tx)
    {data : Nat → Byte} {length : Nat} (short : length ≤ 8)
    (whole : headerBytes link.format link.sdu.length sent +
      (link.carried (sent + 1) - link.carried sent) ≤ length)
    (header : ∀ i < headerBytes link.format link.sdu.length sent, data i = tx.canFrameBuffer.data i)
    (payload : ∀ i < link.carried (sent + 1) - link.carried sent,
      data (headerBytes link.format link.sdu.length sent + i) =
        link.sdu.getD (link.carried sent + i) 0) :
    Carries link.format link.target link.sdu sent (takeBytes data length) := by
  have positive := headerBytes_pos link.format link.sdu.length sent
  constructor
  case short => simpa using short
  case whole =>
    rw [length_takeBytes]
    exact whole
  case target =>
    intro extended
    rw [getD_takeBytes _ (by omega), header _ (by omega)]
    exact sending.target extended
  case pci =>
    rw [getD_takeBytes _ (by omega), header _ (by omega)]
    exact headed.pci
  case low =>
    intro first segmented
    have two : headerBytes link.format link.sdu.length sent = link.format.tpciOffset + 2 := by
      unfold headerBytes
      rw [if_pos ⟨first, segmented⟩]
    rw [getD_takeBytes _ (by omega), header _ (by omega)]
    exact headed.low first segmented
  case payload =>
    intro i inside
    rw [getD_takeBytes _ (Nat.lt_of_lt_of_le (Nat.add_lt_add_left inside _) whole)]
    exact payload i inside

/-- What the next frame leaves in the channel. -/
private structure Sent (link : Link) (sent : Nat) (tx next : SimplexChannel) (calls : List Call) :
    Prop where
  sending : Sending link (sent + 1) next
  number : next.framesHandledCount = tx.framesHandledCount
  state : next.state = .txWaitTxConfirmation
  credit : next.bs = tx.bs ∧ next.nextFlowControlCount = tx.nextFlowControlCount
  calls : ∃ frame, Carries link.format link.target link.sdu sent frame ∧
    calls = [.pduRCopyTxData link.txConfig.pduRPduId (link.carried (sent + 1) - link.carried sent)
        .bufReqOk,
      .canIfTransmit link.txConfig.canIfPduId frame .eOk]

private theorem sendNextTxFrame_sent (matching : link.Matching) (most : link.sdu.length ≤ 4095)
    (sending : Sending link sent tx) (headed : Headed link sent tx) :
    ∃ next calls, sendNextTxFrame link.sender.canTpGeneral link.txConfig tx
        (link.txAnswers (link.carried sent)) = (.bufReqOk, next, calls) ∧
      Sent link sent tx next calls := by
  have positive := headerBytes_pos link.format link.sdu.length sent
  have share := share_eq link.format link.sdu.length sent
  have mono := @carried_mono link.format link.sdu.length sent
  have within := @carried_le link.format link.sdu.length (sent + 1)
  have narrow : headerBytes link.format link.sdu.length sent % 256 =
      headerBytes link.format link.sdu.length sent := mod_eq_of_lt (by omega)
  have length := nextSduLength_eq sending headed most
  have room : headerBytes link.format link.sdu.length sent +
      (link.carried (sent + 1) - link.carried sent) ≤ 8 := by
    unfold Link.carried
    omega
  have total : (link.carried (sent + 1) - link.carried sent +
      headerBytes link.format link.sdu.length sent) % 65536 =
      headerBytes link.format link.sdu.length sent +
        (link.carried (sent + 1) - link.carried sent) := by omega
  have count : (link.carried sent + (link.carried (sent + 1) - link.carried sent)) % 65536 =
      link.carried (sent + 1) := by
    unfold Link.carried
    omega
  simp only [sendNextTxFrame, canTansmitPaddingHelper, fillFrame, Link.txAnswers, length,
    headed.byteCount, narrow, total]
  by_cases padding : link.txConfig.canTpTxPaddingActivation = true
  · simp only [padding, if_true, matching.padded padding]
    refine ⟨_, _, rfl, { sending with count := ?_, target := ?_ }, rfl, rfl,
      ⟨rfl, rfl⟩, _, carries_of_buffer sending headed (Nat.le_refl 8) room ?_ ?_, rfl⟩
    · simp [sending.count, count]
    · intro extended
      have front : ¬ (headerBytes link.format link.sdu.length sent ≤ 0 ∧
          0 < headerBytes link.format link.sdu.length sent +
            (link.carried (sent + 1) - link.carried sent)) := by omega
      simp only [front]
      rw [if_neg (by omega)]
      exact sending.target extended
    · intro i inside
      rw [if_neg (by omega), if_neg (by omega)]
    · intro i inside
      rw [if_neg (by omega), if_pos (by omega), Nat.add_sub_cancel_left]
  · simp only [padding, Bool.false_eq_true, if_false]
    refine ⟨_, _, rfl, { sending with count := ?_, target := ?_ }, rfl, rfl,
      ⟨rfl, rfl⟩, _, carries_of_buffer sending headed room (Nat.le_refl _) ?_ ?_, rfl⟩
    · simp [sending.count, count]
    · intro extended
      simp only
      rw [if_neg (by omega)]
      exact sending.target extended
    · intro i inside
      rw [if_neg (by omega)]
    · intro i inside
      rw [if_pos (by omega), Nat.add_sub_cancel_left]

variable {next : SimplexChannel}

private theorem Sent.moves {calls : List Call}
    (leaves : Sent link sent tx next calls) (number : tx.framesHandledCount = sent)
    (left : sent < link.frames) (block : Until tx.bs tx.nextFlowControlCount link.frames sent due) :
    SenderMoves link sent (sent + 1) due 1 [] (next, calls) := by
  obtain ⟨sending, same, state, ⟨size, credit⟩, frame, carries, rfl⟩ := leaves
  have mono := @carried_mono link.format link.sdu.length sent
  rw [← size, ← credit] at block
  constructor
  case reaches => exact .confirming sending (same.trans number) left state block
  case frames => exact .cons carries (.nil _)
  case provided =>
    simp only [requested, map_cons, map_nil, sum_cons, sum_nil, Link.carried]
    omega
  case reported =>
    intro seen fresh
    simp only [map_cons, watch_cons, observe, confirmation, state]
    simp [← fresh]

private theorem moves_quietly {due' unconfirmed' : Nat} {stalled' : List Nat}
    (reaches : SenderAt link next sent due' unconfirmed' stalled') (busy : next.state ≠ .idle) :
    SenderMoves link sent sent due' unconfirmed' stalled' (next, []) where
  reaches := reaches
  frames := .nil _
  provided := rfl
  reported := by
    intro seen fresh
    simp [confirmation, busy, ← fresh]

theorem SenderAt.setTimeout {unconfirmed : Nat} {stalled : List Nat}
    (here : SenderAt link tx sent due unconfirmed stalled) (timeout : Nat) :
    SenderAt link (tx.setTimeout timeout) sent due unconfirmed stalled := by
  cases here with
  | ready sending headed left state block =>
    exact .ready { sending with } { headed with } left state block
  | confirming sending number left state block =>
    exact .confirming { sending with } number left state block
  | blocked sending headed left state =>
    exact .blocked { sending with } { headed with } left state
  | done all state => exact .done all state

theorem canTpTxMainFunction_ready (matching : link.Matching) (most : link.sdu.length ≤ 4095)
    (at_ready : SenderAt link tx sent due 0 []) (busy : tx.state ≠ .idle) :
    SenderMoves link sent (sent + 1) due 1 []
        (canTpTxMainFunction link.sender tx (link.txAnswers (link.carried sent))) ∨
      (tx.state = .txWaitStmin ∧ 1 < tx.stateTimeoutCount ∧
        canTpTxMainFunction link.sender tx (link.txAnswers (link.carried sent)) =
          (tx.setTimeout (tx.stateTimeoutCount - 1), [])) := by
  cases at_ready with
  | done _ state => exact absurd state busy
  | ready sending headed left state block =>
    have valid : tx.pduId ≠ invalidPduId := by
      rw [sending.pduId]
      exact matching.txIndex
    have own : (link.sender.canTpNSduList tx.pduId).canTpTxNSdu = link.txConfig := by
      rw [sending.pduId]
      rfl
    simp only [canTpTxMainFunction, valid, ne_eq, not_false_eq_true, if_true, own]
    rcases state with transmit | stmin
    · left
      obtain ⟨next, calls, sends, leaves⟩ := sendNextTxFrame_sent matching most sending headed
      simp only [txSduStateMachine, transmit, transmitNext, sends]
      exact leaves.moves headed.number left block
    · simp only [txSduStateMachine, stmin, decrement_eq]
      split
      next running =>
        right
        exact ⟨trivial, by omega, by simp [setTimeout, stmin]⟩
      next elapsed =>
        left
        have sending : Sending link sent ((tx.setTimeout (link.txConfig.canTpNcs + 1)).setState
            .txWaitTransmit) := { sending with }
        obtain ⟨next, calls, sends, leaves⟩ :=
          sendNextTxFrame_sent matching most sending { headed with }
        simp only [setState, setTimeout] at sends
        simp only [transmitNext, sends]
        exact leaves.moves headed.number left block

private theorem prepareNextFrame_headed (most : link.sdu.length ≤ 4095)
    (sending : Sending link (last + 1) tx) (number : tx.framesHandledCount = last)
    (left : last < link.frames) :
    Sending link (last + 1) (prepareNextFrame link.txConfig tx) ∧
      Headed link (last + 1) (prepareNextFrame link.txConfig tx) := by
  have small := @frameCount_lt link.format link.sdu.length most
  have next : (last + 1) % 65536 = last + 1 := mod_eq_of_lt (by unfold Link.frames at left; omega)
  refine ⟨{ sending with target := ?_ }, ⟨?_, ?_, ?_, nofun⟩⟩
  · intro extended
    have behind : (0 : Nat) ≠ link.txConfig.addressBytes := by
      rw [addressBytes_eq_tpciOffset]
      change 0 ≠ link.format.tpciOffset
      rw [extended]
      decide
    simp only [prepareNextFrame]
    rw [Function.update_of_ne behind]
    exact sending.target extended
  · simp [prepareNextFrame, number, next]
  · simp only [prepareNextFrame, addressBytes_eq_tpciOffset]
    rfl
  · simp only [prepareNextFrame, addressBytes_eq_tpciOffset, number, next]
    exact Function.update_self _ _ _

private theorem stMinCycles_le (general : General) (stMin : Nat) :
    stMinCycles general stMin ≤ 128 := by
  have cycles : ∀ ms, convertMsToMainCycles general ms ≤ ms := fun ms => div_le_self _ _
  have here := cycles stMin
  have longest := cycles 0x7F
  unfold stMinCycles
  split
  · omega
  · split <;> omega

section

variable (matching : link.Matching)
include matching

theorem canTpTxConfirmation_moves
    (most : link.sdu.length ≤ 4095) (at_confirming : SenderAt link tx (last + 1) due 1 []) :
    let result := canTpTxConfirmation link.sender.canTpGeneral link.txConfig tx
      (link.txAnswers (link.carried (last + 1)))
    (last + 1 = link.frames ∧ due = link.frames ∧
        SenderMoves link (last + 1) (last + 1) due 0 [] result) ∨
      (last + 1 = due ∧ due < link.frames ∧
        SenderMoves link (last + 1) (last + 1) due 0 [due] result ∧
        result.1.state = .txWaitFlowControl ∧ result.1.framesHandledCount = due) ∨
      (last + 1 < due ∧ (SenderMoves link (last + 1) (last + 2) due 1 [] result ∨
        SenderMoves link (last + 1) (last + 1) due 0 [] result ∧
          result.1.state = .txWaitStmin ∧ result.1.stateTimeoutCount ≤ 128)) := by
  cases at_confirming with
  | confirming sending number left state block =>
    obtain ⟨prepared, headed⟩ := prepareNextFrame_headed most sending number left
    have missing : link.carried (last + 1) < link.sdu.length ↔ last + 1 < link.frames :=
      carried_lt_iff (Nat.succ_pos last)
    have credit : (prepareNextFrame link.txConfig tx).nextFlowControlCount =
        tx.nextFlowControlCount - 1 := decrement_eq _
    simp only [canTpTxConfirmation, state, if_true, handleNextTxFrameSent]
    split
    next complete =>
      rw [prepared.total, prepared.count] at complete
      have all : last + 1 = link.frames := by omega
      have reached := block.due_le
      have inside := block.inside
      refine .inl ⟨all, by omega, ⟨?_, .nil _, rfl, ?_⟩⟩
      · have same : due = last + 1 := by omega
        rw [same]
        exact .done all rfl
      · intro seen fresh
        simp [finishTx, observe, fresh, confirmation]
    next more =>
      rw [prepared.total, prepared.count] at more
      have more : last + 1 < link.frames := by omega
      split
      next runs_out =>
        rw [credit] at runs_out
        have ends := (block.runs_out more).mp runs_out
        subst ends
        refine .inr (.inl ⟨rfl, more, moves_quietly ?_ nofun, rfl, headed.number⟩)
        exact .blocked { prepared with } { headed with } more rfl
      next goes_on =>
        rw [credit] at goes_on
        have early : last + 1 ≠ due := fun ends => goes_on ((block.runs_out more).mpr ends)
        have inside := block.inside
        have next_block := block.pass more early
        rw [← credit] at next_block
        refine .inr (.inr ⟨by omega, ?_⟩)
        split
        next =>
          left
          obtain ⟨next, calls, sends, leaves⟩ := sendNextTxFrame_sent matching most prepared headed
          simp only [sends]
          exact leaves.moves headed.number more next_block
        next =>
          right
          refine ⟨moves_quietly ?_ nofun, rfl, stMinCycles_le _ _⟩
          exact .ready { prepared with } { headed with } more (.inr rfl) next_block

variable {status : Byte} {frame : List Byte}

section

variable (control : FlowControl link status frame)
include control

private theorem selectsFlowControl_iff :
    selectsFlowControl link.txConfig link.format (.ofList frame) = true ↔ link.Answerable := by
  unfold selectsFlowControl Link.Answerable
  cases format : link.format with
  | canTpStandard => simp
  | canTpExtended =>
    obtain ⟨same, -, byte⟩ := matching.addresses format
    have target : (Pdu.ofList frame).sduDataPtr 0 = BitVec.ofNat 8 link.rxConfig.canTpNTa :=
      control.target format
    simp [target, ← same, mod_eq_of_lt byte]

theorem canTpTxRxIndication_unanswerable (unanswerable : ¬ link.Answerable) :
    canTpTxRxIndication link.txConfig link.format tx (.ofList frame) = (tx, []) := by
  unfold canTpTxRxIndication
  rw [if_neg]
  exact fun selected => unanswerable ((selectsFlowControl_iff matching control).mp selected.1)

private theorem canTpTxRxIndication_answerable (answerable : link.Answerable)
    (kind : (0x30#8 ||| status) &&& 0x30#8 = 0x30#8) :
    (∀ tx, canTpTxRxIndication link.txConfig link.format tx (.ofList frame) =
      handleFlowControlFrame link.txConfig tx (.ofList frame)) ∧
    (Pdu.ofList frame).sduDataPtr link.txConfig.addressBytes = 0x30#8 ||| status ∧
    ¬ (link.txConfig.canTpAddressingMode = .canTpExtended ∧
      ((Pdu.ofList frame).sduDataPtr 0).toNat ≠ link.txConfig.canTpNSa) := by
  have selected := (selectsFlowControl_iff matching control).mpr answerable
  have pci : (Pdu.ofList frame).sduDataPtr link.format.tpciOffset = 0x30#8 ||| status := control.pci
  have flow : getFrameType link.format (.ofList frame) = .flowControlFrame := by
    simp only [getFrameType, pci, kind]
    rfl
  refine ⟨fun tx => ?_, addressBytes_eq_tpciOffset _ ▸ pci, ?_⟩
  · unfold canTpTxRxIndication
    rw [if_pos ⟨selected, flow⟩]
  · rintro ⟨extended, other⟩
    have format : link.format = .canTpExtended := extended
    simp only [selectsFlowControl, format, decide_eq_true_eq] at selected
    exact other selected

end

theorem canTpTxRxIndication_grant (control : FlowControl link 0#8 frame)
    (answerable : link.Answerable) (at_blocked : SenderAt link tx sent sent 0 [sent])
    (block : Until link.rxConfig.canTpBs link.rxConfig.canTpBs link.frames sent due) :
    let moved := canTpTxRxIndication link.txConfig link.format tx (.ofList frame)
    SenderMoves link sent sent due 0 [] moved ∧ moved.1.state = .txWaitTransmit := by
  cases at_blocked with
  | blocked sending headed left state =>
    obtain ⟨reaches, pci, target⟩ :=
      canTpTxRxIndication_answerable matching control answerable (by decide)
    have size : ((Pdu.ofList frame).sduDataPtr (link.txConfig.addressBytes + 1)).toNat =
        link.rxConfig.canTpBs := by
      rw [addressBytes_eq_tpciOffset]
      apply (congrArg BitVec.toNat (control.blockSize rfl)).trans
      rw [BitVec.toNat_ofNat, mod_eq_of_lt matching.blockSize]
    rw [reaches]
    simp only [handleFlowControlFrame, target, state, pci, size]
    refine ⟨moves_quietly (.ready ?_ ?_ left (.inl rfl) block) nofun, rfl⟩
    · exact { sending with }
    · exact { headed with }

theorem canTpTxRxIndication_wait (control : FlowControl link 1#8 frame)
    (answerable : link.Answerable) (at_blocked : SenderAt link tx sent sent 0 [sent]) :
    let moved := canTpTxRxIndication link.txConfig link.format tx (.ofList frame)
    SenderMoves link sent sent sent 0 [sent] moved ∧ moved.1.state = .txWaitFlowControl := by
  cases at_blocked with
  | blocked sending headed left state =>
    obtain ⟨reaches, pci, target⟩ :=
      canTpTxRxIndication_answerable matching control answerable (by decide)
    rw [reaches]
    simp only [handleFlowControlFrame, target, state, pci]
    exact ⟨moves_quietly (.blocked { sending with } { headed with } left rfl) nofun, rfl⟩

theorem canTpTxMainFunction_waits {unconfirmed : Nat}
    {stalled : List Nat} (here : SenderAt link tx sent due unconfirmed stalled)
    (waits : tx.state ≠ .txWaitTransmit ∧ tx.state ≠ .txWaitStmin)
    (timely : tx.state = .txWaitFlowControl ∨ tx.state = .txWaitTxConfirmation →
      1 < tx.stateTimeoutCount) (ans : TxAnswers) :
    ∃ timeout, canTpTxMainFunction link.sender tx ans = (tx.setTimeout timeout, []) := by
  have ticks : tx.state = .txWaitFlowControl ∨ tx.state = .txWaitTxConfirmation →
      tx.pduId = link.sender.txIndex link.txSduId →
      canTpTxMainFunction link.sender tx ans = (tx.setTimeout (tx.stateTimeoutCount - 1), []) := by
    intro waiting pduId
    have valid : tx.pduId ≠ invalidPduId := by
      rw [pduId]
      exact matching.txIndex
    have running : ¬ tx.stateTimeoutCount - 1 = 0 := by
      have := timely waiting
      omega
    simp only [canTpTxMainFunction, valid, ne_eq]
    rcases waiting with state | state <;>
      simp [txSduStateMachine, state, decrement_eq, running, setTimeout]
  cases here with
  | ready _ _ _ state _ => exact absurd state (not_or.mpr waits)
  | confirming sending _ _ state _ => exact ⟨_, ticks (.inr state) sending.pduId⟩
  | blocked sending _ _ state => exact ⟨_, ticks (.inl state) sending.pduId⟩
  | done _ state =>
    have ignored : canTpTxMainFunction link.sender tx ans = (tx, []) := by
      simp [canTpTxMainFunction, txSduStateMachine, state]
    exact ⟨tx.stateTimeoutCount, ignored⟩

end

private theorem maxPayload_classic (txConfig : TxNSdu) :
    maxPayload txConfig false = txConfig.canTpAddressingMode.payload := by
  unfold maxPayload
  cases txConfig.canTpAddressingMode <;> rfl

private theorem frameHeader_headed {buffer : CanIfSdu} {kind : FrameType}
    (classic : tx.canfdSupport = false) (length : tx.transferTotal = link.sdu.length)
    (empty : buffer.byteCount = 0)
    (fits : kind = if link.sdu.length ≤ link.format.payload then .singleFrame else .firstFrame)
    (number : next.framesHandledCount = 0) (written : next.canFrameBuffer =
      (frameHeader link.txConfig tx kind).foldl CanIfSdu.push buffer) :
    Headed link 0 next ∧
      (link.format = .canTpExtended → next.canFrameBuffer.data 0 = link.target) := by
  have own : link.txConfig.canTpAddressingMode = link.format := rfl
  subst fits
  unfold frameHeader at written
  refine ⟨⟨number, ?_, ?_, fun _ => ?_⟩, ?_⟩ <;>
    by_cases single : link.sdu.length ≤ link.format.payload <;>
    cases format : link.format <;>
    simp [format ▸ single, written, CanIfSdu.push, empty, classic, length, own, format,
      headerBytes, pciByte, tpciOffset, Link.target]

section

variable (matching : link.Matching) (idle : tx.state = .idle)
  (accepted : (canTpTransmit link.sender link.txSduId link.sdu.length tx).1 = .eOk)
include matching idle accepted

theorem canTpTransmit_state :
    (canTpTransmit link.sender link.txSduId link.sdu.length tx).2.state = .txWaitTransmit := by
  have index : (link.sender.canTpRxIdList link.txSduId).canTpNSduIndex ≠ 0xFFFF := matching.txIndex
  unfold canTpTransmit at accepted ⊢
  split at accepted
  next => cases accepted
  next known =>
    rw [if_neg known]
    simp only [index, ne_eq, not_false_eq_true, if_true, idle, startTransfer]
    split <;> rfl

theorem canTpTransmit_starts :
    SenderAt link (canTpTransmit link.sender link.txSduId link.sdu.length tx).2 0 1 0 [] := by
  have single_iff := @frameCount_eq_one link.format link.sdu.length
  have positive := @frameCount_pos link.format link.sdu.length
  unfold canTpTransmit at accepted ⊢
  split at accepted
  next => cases accepted
  next known =>
    have index : (link.sender.canTpRxIdList link.txSduId).canTpNSduIndex ≠ 0xFFFF := matching.txIndex
    have config : (link.sender.canTpNSduList
        (link.sender.canTpRxIdList link.txSduId).canTpNSduIndex).canTpTxNSdu = link.txConfig := rfl
    have classic : (link.sender.canTpNSduList
        (link.sender.canTpRxIdList link.txSduId).canTpNSduIndex).canTpFDSupport = false :=
      matching.txClassic
    rw [if_neg known]
    simp only [index, ne_eq, idle] at accepted ⊢
    simp only [startTransfer, config, classic, calcRequiredProtocolFrameType,
      maxPayload_classic] at accepted ⊢
    by_cases single : link.sdu.length ≤ link.txConfig.canTpAddressingMode.payload
    · simp only [single]
      have one : link.frames = 1 := single_iff.mpr single
      refine .ready ⟨rfl, rfl, rfl, rfl, ?_⟩ ?_ (by omega) (.inl rfl) ⟨?_, Nat.one_pos⟩
      · exact (frameHeader_headed rfl rfl rfl (if_pos single).symm rfl rfl).2
      · exact (frameHeader_headed rfl rfl rfl (if_pos single).symm rfl rfl).1
      · unfold stop
        rw [one, if_pos (.inr (Nat.le_refl 1))]
    · have several : link.frames ≠ 1 := fun one => single (single_iff.mp one)
      have more : 1 < link.frames := by
        unfold Link.frames at several ⊢
        omega
      by_cases physical : link.txConfig.canTpTxTaType = .canTpPhysical
      · simp only [single, physical]
        refine .ready ⟨rfl, rfl, rfl, rfl, ?_⟩ ?_ (by omega) (.inl rfl) ⟨?_, Nat.one_pos⟩
        · exact (frameHeader_headed rfl rfl rfl (if_neg single).symm rfl rfl).2
        · exact (frameHeader_headed rfl rfl rfl (if_neg single).symm rfl rfl).1
        · change stop 1 1 link.frames 0 = 1
          unfold stop
          rw [if_neg (by omega)]
          omega
      · simp [single, physical] at accepted

end

end Sender

end CanTp
