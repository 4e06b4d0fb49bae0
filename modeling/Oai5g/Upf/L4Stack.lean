import Oai5g.Lib.Run

/-!
# The PFCP transaction layer

* `PfcpL4Stack`: the pending procedures by sequence number, whoever started them, with the timers and the
  sequence numbers of the transactions.
* `handleReceiveMessageCb`, `sendRequest`, `sendResponse`, `timeOutEvent`: its operations.
* `L4State`: the stack with the clock and a record of what was received, sent, answered and handed up;
  `l4Step`.
-/

namespace Oai5g.Upf

/-! ## Message types -/

/-- Message type: Heartbeat Request. -/
def PFCP_HEARTBEAT_REQUEST : UInt8 := 1

/-- Message type: PFD Management Request. -/
def PFCP_PFCP_PFD_MANAGEMENT_REQUEST : UInt8 := 3

/-- Message type: Association Setup Request. -/
def PFCP_ASSOCIATION_SETUP_REQUEST : UInt8 := 5

/-- Message type: Association Update Request. -/
def PFCP_ASSOCIATION_UPDATE_REQUEST : UInt8 := 7

/-- Message type: Association Release Request. -/
def PFCP_ASSOCIATION_RELEASE_REQUEST : UInt8 := 9

/-- Message type: Version Not Supported Response. -/
def PFCP_VERSION_NOT_SUPPORTED_RESPONSE : UInt8 := 11

/-- Message type: Node Report Request. -/
def PFCP_NODE_REPORT_REQUEST : UInt8 := 12

/-- Message type: Node Report Response. -/
def PFCP_NODE_REPORT_RESPONSE : UInt8 := 13

/-- Message type: Session Establishment Request. -/
def PFCP_SESSION_ESTABLISHMENT_REQUEST : UInt8 := 50

/-- Message type: Session Modification Request. -/
def PFCP_SESSION_MODIFICATION_REQUEST : UInt8 := 52

/-- Message type: Session Deletion Request. -/
def PFCP_SESSION_DELETION_REQUEST : UInt8 := 54

/-- Message type: Session Report Request. -/
def PFCP_SESSION_REPORT_REQUEST : UInt8 := 56

/-- Message type: Session Report Response. -/
def PFCP_SESSION_REPORT_RESPONSE : UInt8 := 57

/-- The requests that `check_response_type` knows a response of. -/
def requestTypes : List UInt8 :=
  [PFCP_HEARTBEAT_REQUEST, PFCP_PFCP_PFD_MANAGEMENT_REQUEST, PFCP_ASSOCIATION_SETUP_REQUEST,
    PFCP_ASSOCIATION_UPDATE_REQUEST, PFCP_ASSOCIATION_RELEASE_REQUEST, PFCP_NODE_REPORT_REQUEST,
    PFCP_SESSION_ESTABLISHMENT_REQUEST, PFCP_SESSION_MODIFICATION_REQUEST,
    PFCP_SESSION_DELETION_REQUEST, PFCP_SESSION_REPORT_REQUEST]

/-- The message is a request. -/
def isRequest (type : UInt8) : Bool := requestTypes.contains type

/-- `check_request_type`: two responses are taken for requests as well. -/
def checkRequestType (initial : UInt8) : Bool :=
  isRequest initial || initial = PFCP_NODE_REPORT_RESPONSE || initial = PFCP_SESSION_REPORT_RESPONSE

/-- `check_response_type` -/
def checkResponseType (initial triggered : UInt8) : Bool :=
  if isRequest initial then triggered = initial + 1
  else triggered = PFCP_VERSION_NOT_SUPPORTED_RESPONSE

/-- The requests this node sends. -/
inductive SentType
  | heartbeat | associationSetup | associationRelease | nodeReport | sessionEstablishment
  | sessionModification | sessionDeletion | sessionReport
  deriving DecidableEq

/-- The message type of a request that is sent. -/
def SentType.messageType : SentType → UInt8
  | .heartbeat => PFCP_HEARTBEAT_REQUEST
  | .associationSetup => PFCP_ASSOCIATION_SETUP_REQUEST
  | .associationRelease => PFCP_ASSOCIATION_RELEASE_REQUEST
  | .nodeReport => PFCP_NODE_REPORT_REQUEST
  | .sessionEstablishment => PFCP_SESSION_ESTABLISHMENT_REQUEST
  | .sessionModification => PFCP_SESSION_MODIFICATION_REQUEST
  | .sessionDeletion => PFCP_SESSION_DELETION_REQUEST
  | .sessionReport => PFCP_SESSION_REPORT_REQUEST

/-! ## The stack -/

/-- Address and port of a peer. -/
structure Endpoint where
  address : UInt32
  port : UInt16
  deriving DecidableEq

/-- A received message, as far as the transaction layer reads it. -/
structure PfcpMsg where
  messageType : UInt8
  sequenceNumber : UInt32
  deriving DecidableEq

/-- A pending procedure; `retryMsg` is the request to repeat when this node sent it. -/
structure PfcpProcedure where
  retryMsg : Option PfcpMsg
  remoteEndpoint : Endpoint
  retryTimerId : ℕ
  procCleanupTimerId : ℕ
  trxnId : ℕ
  initialMsgType : UInt8
  triggeredMsgType : UInt8
  retryCount : ℕ

/-- `PFCP_T1_RESPONSE_MS` -/
def PFCP_T1_RESPONSE_MS : ℕ := 1000

/-- `PFCP_N1_REQUESTS` -/
def PFCP_N1_REQUESTS : ℕ := 3

/-- `PFCP_PROC_TIME_OUT_MS` -/
def PFCP_PROC_TIME_OUT_MS : ℕ := PFCP_T1_RESPONSE_MS * (PFCP_N1_REQUESTS + 1 + 1)

/-- The transaction layer with the ITTI timers that are armed (their deadlines) and the clock. -/
structure PfcpL4Stack where
  seqNum : UInt32
  trxnIdGenerator : ℕ
  timerGenerator : ℕ
  clock : ℕ
  timers : ℕ → Option ℕ
  trxnId2seqNum : ℕ → Option UInt32
  procCleanupTimers : ℕ → Option UInt32
  msgOutRetryTimers : ℕ → Option UInt32
  pendingProcedures : UInt32 → Option PfcpProcedure

namespace PfcpL4Stack

/-- A stack whose sequence numbers go on from `seqNum`. -/
def init (seqNum : UInt32) : PfcpL4Stack :=
  { seqNum := seqNum, trxnIdGenerator := 0, timerGenerator := 0, clock := 0, timers := fun _ => none
    trxnId2seqNum := fun _ => none, procCleanupTimers := fun _ => none
    msgOutRetryTimers := fun _ => none, pendingProcedures := fun _ => none }

variable (s : PfcpL4Stack)

/-- `get_next_seq_num` -/
def nextSeqNum : UInt32 := if (s.seqNum + 1) &&& 0x80000000 ≠ 0 then 0 else s.seqNum + 1

/-- The sequence number of the next request, as a message carries it. -/
def nextMessageNumber : UInt32 := s.nextSeqNum &&& 0x00FFFFFF

/-- The id that the transaction generator gives next. -/
def nextTrxnId : ℕ := s.trxnIdGenerator + 1

/-- The id that the timers get next. -/
def nextTimerId : ℕ := s.timerGenerator + 1

/-- `timer_setup` -/
def timerSetup (ms : ℕ) : PfcpL4Stack :=
  { s with
    timerGenerator := s.nextTimerId
    timers := Function.update s.timers s.nextTimerId (some (s.clock + ms)) }

/-- `timer_remove` -/
def timerRemove (id : ℕ) : PfcpL4Stack := { s with timers := Function.update s.timers id none }

/-- The part of `start_proc_cleanup_timer` outside the procedure. -/
def startProcCleanupTimer (n : UInt32) : PfcpL4Stack :=
  { s.timerSetup PFCP_PROC_TIME_OUT_MS with
    procCleanupTimers := Function.update s.procCleanupTimers s.nextTimerId (some n) }

/-- The part of `start_msg_retry_timer` outside the procedure. -/
def startMsgRetryTimer (n : UInt32) : PfcpL4Stack :=
  { s.timerSetup PFCP_T1_RESPONSE_MS with
    msgOutRetryTimers := Function.update s.msgOutRetryTimers s.nextTimerId (some n) }

/-- Erase an armed timer and its entry among the retry timers, as both `stop` functions do. -/
def stopTimer (id : ℕ) : PfcpL4Stack :=
  { s.timerRemove id with msgOutRetryTimers := Function.update s.msgOutRetryTimers id none }

/-- The procedure of a sequence number. -/
def setPending (n : UInt32) (p : PfcpProcedure) : PfcpL4Stack :=
  { s with pendingProcedures := Function.update s.pendingProcedures n (some p) }

/-- No procedure under a sequence number. -/
def erasePending (n : UInt32) : PfcpL4Stack :=
  { s with pendingProcedures := Function.update s.pendingProcedures n none }

/-- `std::map::insert`: an entry that is there stays. -/
def insertPending (n : UInt32) (p : PfcpProcedure) : PfcpL4Stack :=
  match s.pendingProcedures n with
  | some _ => s
  | none => s.setPending n p

/-- `insert` into the map of transactions. -/
def insertTrxn (trxnId : ℕ) (n : UInt32) : PfcpL4Stack :=
  match s.trxnId2seqNum trxnId with
  | some _ => s
  | none => { s with trxnId2seqNum := Function.update s.trxnId2seqNum trxnId (some n) }

/-- `erase` in the map of transactions. -/
def eraseTrxn (trxnId : ℕ) : PfcpL4Stack :=
  { s with trxnId2seqNum := Function.update s.trxnId2seqNum trxnId none }

/-- A transaction id is taken. -/
def takeTrxnId : PfcpL4Stack := { s with trxnIdGenerator := s.nextTrxnId }

/-- A sequence number is taken. -/
def takeSeqNum : PfcpL4Stack := { s with seqNum := s.nextSeqNum }

/-- The procedure of a received request. -/
def receivedProcedure (type : UInt8) : PfcpProcedure :=
  { retryMsg := none, remoteEndpoint := ⟨0, 0⟩, retryTimerId := 0
    procCleanupTimerId := s.nextTimerId, trxnId := s.nextTrxnId, initialMsgType := type
    triggeredMsgType := 0, retryCount := 0 }

end PfcpL4Stack

namespace PfcpProcedure

variable (p : PfcpProcedure)

/-- The type the next message of the procedure is checked against. -/
def checkInitialMsgType : UInt8 :=
  if p.triggeredMsgType = 0 then p.initialMsgType else p.triggeredMsgType

/-- The procedure after a message that was taken for its response. -/
def respond (type : UInt8) : PfcpProcedure :=
  { p with
    triggeredMsgType := if p.triggeredMsgType = 0 then type else p.triggeredMsgType
    retryTimerId := 0 }

/-- The procedure after a retransmission. -/
def retried (timerId : ℕ) : PfcpProcedure :=
  { p with retryCount := p.retryCount + 1, retryTimerId := timerId }

end PfcpProcedure

namespace PfcpL4Stack

variable (s : PfcpL4Stack)

/-- `handle_receive_message_cb`, with the transaction id handed to the upper layer; `none` is an error.
The sender of the message is not looked at. -/
def handleReceiveMessageCb (msg : PfcpMsg) : PfcpL4Stack × Option ℕ :=
  match s.pendingProcedures msg.sequenceNumber with
  | none =>
    if checkRequestType msg.messageType then
      (((s.takeTrxnId.startProcCleanupTimer msg.sequenceNumber).insertPending msg.sequenceNumber
          (s.receivedProcedure msg.messageType)).insertTrxn s.nextTrxnId msg.sequenceNumber,
        some s.nextTrxnId)
    else (s, none)
  | some p =>
    if checkResponseType p.checkInitialMsgType msg.messageType then
      ((if p.retryTimerId = 0 then s else s.stopTimer p.retryTimerId).setPending msg.sequenceNumber
          (p.respond msg.messageType),
        some p.trxnId)
    else (s, none)

/-- `send_request` with a transaction id from `generate_trxn_id`, as its callers do. -/
def sendRequest (dest : Endpoint) (type : SentType) : PfcpL4Stack :=
  let n := s.nextMessageNumber
  let s₁ := s.takeTrxnId.takeSeqNum.startMsgRetryTimer n
  let p : PfcpProcedure :=
    { retryMsg := some ⟨type.messageType, n⟩, remoteEndpoint := dest, retryTimerId := s.nextTimerId
      procCleanupTimerId := s₁.nextTimerId, trxnId := s.nextTrxnId
      initialMsgType := type.messageType, triggeredMsgType := 0, retryCount := 0 }
  ((s₁.startProcCleanupTimer n).insertPending n p).insertTrxn s.nextTrxnId n

/-- `send_response` with `DELETE_TX`: whatever is pending under the number is erased. -/
def sendResponse (trxnId : ℕ) : PfcpL4Stack :=
  match s.trxnId2seqNum trxnId with
  | none => s
  | some n =>
    (match s.pendingProcedures n with
      | none => s
      | some p => (s.stopTimer p.procCleanupTimerId).erasePending n).eraseTrxn trxnId

/-- The retry of a request whose response did not come. -/
def retry (n : UInt32) (p : PfcpProcedure) : PfcpL4Stack :=
  if p.retryCount < PFCP_N1_REQUESTS then
    match p.retryMsg with
    | some msg => (s.startMsgRetryTimer msg.sequenceNumber).setPending n (p.retried s.nextTimerId)
    | none => s
  else s

/-- `time_out_event` for a timer that was armed and has expired. -/
def timeOutEvent (id : ℕ) : PfcpL4Stack :=
  let s₀ := s.timerRemove id
  match s.msgOutRetryTimers id with
  | some n =>
    let s₁ := { s₀ with msgOutRetryTimers := Function.update s₀.msgOutRetryTimers id none }
    match s.pendingProcedures n with
    | some p => s₁.retry n p
    | none => s₁
  | none =>
    match s.procCleanupTimers id with
    | some n =>
      { s₀ with procCleanupTimers := Function.update s₀.procCleanupTimers id none }.erasePending n
    | none => s₀

end PfcpL4Stack

/-! ## Runs -/

/-- A request handed to the upper layer. -/
structure ReceivedRequest where
  endpoint : Endpoint
  sequenceNumber : UInt32
  trxnId : ℕ
  time : ℕ

/-- A request that was sent. -/
structure SentRequest where
  dest : Endpoint
  type : SentType
  trxnId : ℕ

/-- Another message than a request handed to the upper layer. -/
structure ReceivedResponse where
  endpoint : Endpoint
  messageType : UInt8
  trxnId : ℕ

/-- The stack and what has happened: the requests handed up, the transactions they were answered in, the
requests sent and the responses handed up. -/
structure L4State where
  stack : PfcpL4Stack
  received : List ReceivedRequest
  answered : List ℕ
  sent : List SentRequest
  responses : List ReceivedResponse

/-- Nothing was received or sent. -/
def L4State.init (seqNum : UInt32) : L4State :=
  { stack := .init seqNum, received := [], answered := [], sent := [], responses := [] }

/-- What happens to the stack. -/
inductive L4Event
  | receive (endpoint : Endpoint) (msg : PfcpMsg)
  | sendRequest (dest : Endpoint) (type : SentType)
  | sendResponse (trxnId : ℕ)
  | timeOut (id : ℕ)
  | wait (ms : ℕ)

namespace L4State

variable (s : L4State)

/-- The message is handed up or dropped. -/
def receive (endpoint : Endpoint) (msg : PfcpMsg) : L4State :=
  match s.stack.handleReceiveMessageCb msg with
  | (stack, none) => { s with stack := stack }
  | (stack, some trxnId) =>
    if isRequest msg.messageType then
      { s with
        stack := stack
        received := ⟨endpoint, msg.sequenceNumber, trxnId, s.stack.clock⟩ :: s.received }
    else
      { s with stack := stack, responses := ⟨endpoint, msg.messageType, trxnId⟩ :: s.responses }

end L4State

/-- One event. -/
def l4Step (s : L4State) : L4Event → L4State
  | .receive endpoint msg => s.receive endpoint msg
  | .sendRequest dest type =>
    { s with
      stack := s.stack.sendRequest dest type
      sent := ⟨dest, type, s.stack.nextTrxnId⟩ :: s.sent }
  | .sendResponse trxnId =>
    match s.stack.trxnId2seqNum trxnId with
    | none => s
    | some _ =>
      { s with stack := s.stack.sendResponse trxnId, answered := trxnId :: s.answered }
  -- a timer event comes only from a timer that is armed, and not before its time
  | .timeOut id =>
    match s.stack.timers id with
    | none => s
    | some d => if d ≤ s.stack.clock then { s with stack := s.stack.timeOutEvent id } else s
  | .wait ms => { s with stack := { s.stack with clock := s.stack.clock + ms } }

end Oai5g.Upf
