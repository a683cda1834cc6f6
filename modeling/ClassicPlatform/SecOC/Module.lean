import ClassicPlatform.Lib.Buffer
import ClassicPlatform.Lib.Machine

/-!
# Secure onboard communication

`SecOC_RxIndication` and `SecOC_Transmit` put PDUs in two queues, of which they keep pointers to
the bytes. `SecOC_MainFunction` verifies the secured PDUs and passes the genuine ones on to the
upper layer, then it appends authenticators to the authentic PDUs and sends them.
-/
namespace SecOC

open Function
open ByteLanes (Memory)

inductive StdReturn
  | ok | notOk
  deriving DecidableEq, Repr

inductive CalReturn
  | ok | notOk | smallBuffer | entropyExhaustion
  deriving DecidableEq, Repr

inductive CalVerifyResult
  | verOk | verNotOk
  deriving DecidableEq, Repr

inductive VerificationResult
  | verificationSuccess | verificationFailure
  deriving DecidableEq, Repr

abbrev Bytes := List (BitVec 8)

/-- The crypto library: the answers of its calls, each depending on all that it was given so
far, and the 32 bytes of the authenticator after `Cal_MacGenerateFinish`. -/
structure Cal where
  macVerifyStart (key : Bytes) : CalReturn
  macVerifyUpdate (key data : Bytes) : CalReturn
  macVerifyFinish (key data mac : Bytes) : CalReturn × CalVerifyResult
  macGenerateStart (key : Bytes) : CalReturn
  macGenerateUpdate (key data : Bytes) : CalReturn
  macGenerateFinish (key data : Bytes) : CalReturn × Bytes

structure PduInfo where
  sduDataPtr : Int
  sduLength : Nat
  deriving DecidableEq, Repr

/-- The bytes the PDU stands for at the moment. -/
def PduInfo.sdu (info : PduInfo) (m : Memory) : Bytes :=
  Buffer.bytes m info.sduDataPtr info.sduLength

structure RxPduProcessing where
  secOCPduRPduId : Nat
  secOCDataId : BitVec 16
  secOCFreshnessCounterSyncAttempts : Nat
  secOCKeyId : Nat

structure TxPduProcessing where
  secOCPduRPduId : Nat
  secOCDataId : BitVec 16
  secOCKeyId : Nat

structure Config where
  nbrOfTxPdus : Nat
  secOCTxPduProcessing : Nat → TxPduProcessing
  secOCRxPduProcessing : Nat → RxPduProcessing

structure AuthenticIPDU where
  pduId : Nat
  pduInfo : PduInfo

structure SecuredIPDU where
  pduId : Nat
  authenticIPDU : PduInfo
  auth : Bytes

inductive ModuleState
  | uninit | init
  deriving DecidableEq, Repr

structure State where
  state : ModuleState
  keyList : Nat → Bytes
  securedPduBuffer : Nat → SecuredIPDU
  securedPos : Nat
  authenticPduBuffer : Nat → AuthenticIPDU
  authenticPos : Nat

/-- How a main function may fail to return. -/
inductive Fault
  | overflow  -- bytes were copied beyond the end of a buffer on the stack
  | endless   -- a loop goes on although the configured attempts have been made
  deriving DecidableEq, Repr

/-- The calls into the PDU router, where the processing of a PDU comes to its result, what
`SecOC_Transmit` returns, and a main function that fails to return. -/
inductive Output
  | rxIndication (id : Nat) (sdu : Bytes)
  | transmit (id : Nat) (sdu : Bytes)
  | verified (pduId : Nat) (result : VerificationResult)
  | authenticated (pduId : Nat) (result : StdReturn)
  | answered (result : StdReturn)
  | fault (kind : Fault)
  deriving DecidableEq, Repr

/-- `SecOCDataId` as it stands in memory. -/
def dataIdBytes (id : BitVec 16) : Bytes := [id.setWidth 8, (id >>> 8).setWidth 8]

/-- The key that `verifyIPDU` is compiled with. -/
def keyData : Bytes := List.replicate 20 0x0b

def verifyIPDU (cal : Cal) (data authenticator : Bytes) : StdReturn :=
  if cal.macVerifyStart keyData ≠ .ok then .notOk
  else if cal.macVerifyUpdate keyData data ≠ .ok then .notOk
  else if cal.macVerifyFinish keyData data authenticator = (.ok, .verOk) then .ok
  else .notOk

def authenticateIPDU (keyList : Nat → Bytes) (cal : Cal) (keyId : Nat) (data : Bytes) :
    StdReturn × Bytes :=
  let key := keyList keyId
  if cal.macGenerateStart key ≠ .ok then (.notOk, [])
  else if cal.macGenerateUpdate key data ≠ .ok then (.notOk, [])
  else
    let finish := cal.macGenerateFinish key data
    if finish.1 ≠ .ok then (.notOk, finish.2) else (.ok, finish.2)

def freeSecuredIPDUBuffers (pos : Nat) (s : State) : State :=
  let freed := { s.securedPduBuffer pos with pduId := 0 }
  { s with securedPduBuffer := update s.securedPduBuffer pos freed }

/-- The `while` loop of `verifyLoop`, at most `left` more turns of it after `tries` of them. The
counter `attempts` is a `uint8`; it never passes the limit, so the loop only ends by its breaks. -/
def verifyAttempts (limit : Nat) (verify : Nat → StdReturn) :
    (left tries : Nat) → Except Fault StdReturn
  | 0, _ => .error .endless
  | left + 1, tries =>
    match verify tries with
    | .ok => .ok .ok
    | .notOk =>
      let attempts := tries % 256
      if limit ≤ attempts then .ok .notOk else verifyAttempts limit verify left (tries + 1)

section

variable (config : Config) (m : Memory) (cal : Nat → Nat → Cal)

/-- What is verified of a secured PDU. -/
def SecuredIPDU.dataToAuthenticator (pdu : SecuredIPDU) : Bytes :=
  dataIdBytes (config.secOCRxPduProcessing pdu.pduId).secOCDataId ++ pdu.authenticIPDU.sdu m

/-- What is authenticated of an authentic PDU. -/
def AuthenticIPDU.dataToAuthenticator (pdu : AuthenticIPDU) : Bytes :=
  dataIdBytes (config.secOCTxPduProcessing pdu.pduId).secOCDataId ++ pdu.pduInfo.sdu m

/-- One turn of the `for` loop of `verifyLoop`, up to its break. The crypto library answers
`cal i n` when the PDU in slot `i` is verified for the `n`-th time. -/
def verifySlot (s : State) (i : Nat) : Except Fault StdReturn :=
  let pdu := s.securedPduBuffer i
  let data := pdu.dataToAuthenticator config m
  let limit := (config.secOCRxPduProcessing pdu.pduId).secOCFreshnessCounterSyncAttempts
  if 32 < data.length then .error .overflow
  else verifyAttempts limit (fun n => verifyIPDU (cal i n) data pdu.auth) (limit + 1) 0

/-- The `for` loop over the secured PDUs from slot `i` on. -/
def verifyFrom : (left i : Nat) → State → Except Fault (State × List Output)
  | 0, _, s => .ok ({ s with securedPos := 0 }, [])
  | left + 1, i, s => do
    let pdu := s.securedPduBuffer i
    match ← verifySlot config m cal s i with
    | .ok =>
      -- the new length of the queue ends the loop
      .ok ({ freeSecuredIPDUBuffers i s with securedPos := 0 },
        [.rxIndication (config.secOCRxPduProcessing pdu.pduId).secOCPduRPduId
          (pdu.authenticIPDU.sdu m), .verified pdu.pduId .verificationSuccess])
    | .notOk =>
      let rest ← verifyFrom left (i + 1) (freeSecuredIPDUBuffers i s)
      .ok (rest.1, .verified pdu.pduId .verificationFailure :: rest.2)

def verifyLoop (s : State) : Except Fault (State × List Output) :=
  verifyFrom config m cal s.securedPos 0 s

def authenticateSlot (s : State) (i : Nat) : Except Fault (List Output) :=
  let pdu := s.authenticPduBuffer i
  let tx := config.secOCTxPduProcessing pdu.pduId
  let sdu := pdu.pduInfo.sdu m
  let data := pdu.dataToAuthenticator config m
  let res := authenticateIPDU s.keyList (cal i 0) tx.secOCKeyId data
  if 64 < data.length then .error .overflow
  else if res.1 = .notOk then .ok [.authenticated pdu.pduId .notOk]
  else if 64 < sdu.length + 32 then .error .overflow
  else .ok [.authenticated pdu.pduId .ok, .transmit tx.secOCPduRPduId (sdu ++ res.2)]

def authLoop (s : State) : Except Fault (State × List Output) := do
  let outputs ← (List.range s.authenticPos).mapM (authenticateSlot config m cal s)
  .ok ({ s with authenticPos := 0 }, outputs.flatten)

def mainFunction (s : State) : Except Fault (State × List Output) :=
  if s.state = .uninit then .ok (s, [])
  else do
    let verified ← verifyLoop config m cal s
    let authenticated ← authLoop config m cal verified.1
    .ok (authenticated.1, verified.2 ++ authenticated.2)

end

/-- `SecOC_Init`. -/
def secOCInit (s : State) : State :=
  { s with authenticPos := 0, securedPos := 0, state := .init }

def transmit (config : Config) (id : Nat) (info : Option PduInfo) (s : State) :
    State × StdReturn :=
  if s.state = .uninit then (s, .notOk)
  else if config.nbrOfTxPdus ≤ id then (s, .notOk)
  else match info with
    | none => (s, .notOk)
    | some info =>
      if 31 < s.authenticPos then (s, .notOk)
      else ({ s with
        authenticPduBuffer :=
          update s.authenticPduBuffer s.authenticPos { pduId := id, pduInfo := info }
        authenticPos := s.authenticPos + 1 }, .ok)

/-- The queue entry of a secured PDU; its length is an unsigned 16-bit number. -/
def securedIPDU (m : Memory) (rxPduId : Nat) (info : PduInfo) : SecuredIPDU where
  pduId := rxPduId
  authenticIPDU := { info with sduLength := (info.sduLength + (2 ^ 16 - 32)) % 2 ^ 16 }
  auth := Buffer.bytes m (info.sduDataPtr + (info.sduLength - 32 : Int)) 32

def rxIndication (m : Memory) (rxPduId : Nat) (info : Option PduInfo) (s : State) : State :=
  match info with
  | none => s
  | some info =>
    if 31 < s.securedPos then s
    else { s with
      securedPduBuffer :=
        update s.securedPduBuffer s.securedPos (securedIPDU m rxPduId info)
      securedPos := s.securedPos + 1 }

/-- The calls of the other modules, with the bytes in memory at that moment. -/
inductive Call
  | rxIndication (m : Memory) (rxPduId : Nat) (info : Option PduInfo)
  | transmit (m : Memory) (id : Nat) (info : Option PduInfo)
  | mainFunction (m : Memory) (cal : Nat → Nat → Cal)

def step (config : Config) (s : State) : Call → State × List Output
  | .rxIndication m rxPduId info => (rxIndication m rxPduId info s, [])
  | .transmit _ id info =>
    let transmitted := transmit config id info s
    (transmitted.1, [.answered transmitted.2])
  | .mainFunction m cal =>
    match mainFunction config m cal s with
    | .ok processed => processed
    | .error kind => (s, [.fault kind])

end SecOC
