import Oai5g.Upf.L4Stack

/-!
# Transaction matching

* `RequestRule`: a request is handed up unless a request of that peer with that number is pending or was
  handed up within the procedure time-out. `ResponseRule`: what is handed up besides requests is the first
  response to a request sent, of its type and from its destination.
* `NumbersApart`: the events for which one table keyed by the sequence number does not confuse parties:
  no number is used by two of them at a time, no copy of a request comes after its response, and what is
  taken for a response comes once, from the right peer.
* `L4Inv`: what holds in every state of such a run; `transactions_matched`.
-/

namespace Oai5g.Upf

/-! ## The rules -/

section

variable (s : L4State) (endpoint : Endpoint) (n : UInt32)

/-- A request of the peer is pending under the number. -/
def BeingProcessed : Prop :=
  ∃ p, s.stack.pendingProcedures n = some p ∧
    ∃ r ∈ s.received, r.trxnId = p.trxnId ∧ r.endpoint = endpoint

/-- A request of the peer with the number was handed up within the procedure time-out. -/
def ProcessedWithin : Prop :=
  ∃ r ∈ s.received, r.endpoint = endpoint ∧ r.sequenceNumber = n ∧
    s.stack.clock < r.time + PFCP_PROC_TIME_OUT_MS

/-- What must hold of an event in the state it finds. -/
def RequestRule (s : L4State) : L4Event → Prop
  | .receive endpoint msg => isRequest msg.messageType = true →
      ((s.stack.handleReceiveMessageCb msg).2.isSome = true ↔
        ¬ (BeingProcessed s endpoint msg.sequenceNumber ∨
          ProcessedWithin s endpoint msg.sequenceNumber))
  | _ => True

/-- What must hold of the responses handed up. -/
structure ResponseRule : Prop where
  matched : ∀ x ∈ s.responses, ∃ q ∈ s.sent, x.trxnId = q.trxnId ∧
    x.messageType = q.type.messageType + 1 ∧ x.endpoint = q.dest
  once : ∀ q ∈ s.sent, s.responses.countP (fun x => x.trxnId = q.trxnId) ≤ 1

/-- The events that keep the parties apart, in the state they find. -/
def NumbersApart (s : L4State) : L4Event → Prop
  | .receive endpoint msg =>
    if isRequest msg.messageType then
      (∀ p, s.stack.pendingProcedures msg.sequenceNumber = some p →
        ∃ r ∈ s.received, r.trxnId = p.trxnId ∧ r.endpoint = endpoint) ∧
      ∀ r ∈ s.received, r.endpoint = endpoint → r.sequenceNumber = msg.sequenceNumber →
        s.stack.clock < r.time + PFCP_PROC_TIME_OUT_MS → r.trxnId ∉ s.answered
    else
      (s.stack.pendingProcedures msg.sequenceNumber = none →
        checkRequestType msg.messageType = false) ∧
      ∀ p, s.stack.pendingProcedures msg.sequenceNumber = some p →
        checkResponseType p.checkInitialMsgType msg.messageType = true →
        p.retryMsg.isSome = true ∧ p.remoteEndpoint = endpoint ∧ p.triggeredMsgType = 0
  | .sendRequest _ _ => s.stack.pendingProcedures s.stack.nextMessageNumber = none
  | .sendResponse trxnId => ∀ n p, s.stack.trxnId2seqNum trxnId = some n →
      s.stack.pendingProcedures n = some p → p.trxnId = trxnId
  | _ => True

end

/-! ## The invariant -/

/-- What holds of the table, the timers and the record. -/
structure L4Inv (s : L4State) : Prop where
  /-- Transaction ids are handed out once. -/
  receivedGen : ∀ r ∈ s.received, r.trxnId ≤ s.stack.trxnIdGenerator
  responsesGen : ∀ x ∈ s.responses, x.trxnId ≤ s.stack.trxnIdGenerator
  trxnGen : ∀ t n, s.stack.trxnId2seqNum t = some n → t ≤ s.stack.trxnIdGenerator
  cleanupGen : ∀ id n, s.stack.procCleanupTimers id = some n → id ≤ s.stack.timerGenerator
  /-- A pending procedure is found by its transaction. -/
  pending : ∀ n p, s.stack.pendingProcedures n = some p → s.stack.trxnId2seqNum p.trxnId = some n
  /-- An armed cleanup timer is the one of the procedure pending under its number. -/
  cleanup : ∀ id n d, s.stack.procCleanupTimers id = some n → s.stack.timers id = some d →
    ∃ p, s.stack.pendingProcedures n = some p ∧ p.procCleanupTimerId = id ∧
      ∀ r ∈ s.received, r.trxnId = p.trxnId → r.time + PFCP_PROC_TIME_OUT_MS ≤ d
  /-- A request handed up is pending until it is answered or its time is over. -/
  received : ∀ r ∈ s.received,
    (∃ p, s.stack.pendingProcedures r.sequenceNumber = some p ∧ p.trxnId = r.trxnId) ∨
      r.trxnId ∈ s.answered ∨ r.time + PFCP_PROC_TIME_OUT_MS ≤ s.stack.clock
  /-- A procedure with a message to repeat is one of a request sent. -/
  sent : ∀ n p, s.stack.pendingProcedures n = some p → p.retryMsg.isSome = true →
    ∃ q ∈ s.sent, p.trxnId = q.trxnId ∧ p.initialMsgType = q.type.messageType ∧
      p.remoteEndpoint = q.dest
  matched : ∀ x ∈ s.responses, ∃ q ∈ s.sent, x.trxnId = q.trxnId ∧
    x.messageType = q.type.messageType + 1 ∧ x.endpoint = q.dest
  once : (s.responses.map ReceivedResponse.trxnId).Nodup
  unanswered : ∀ n p, s.stack.pendingProcedures n = some p → p.triggeredMsgType = 0 →
    ∀ x ∈ s.responses, x.trxnId ≠ p.trxnId

theorem L4Inv.init (seqNum : UInt32) : L4Inv (.init seqNum) where
  receivedGen := by simp [L4State.init]
  responsesGen := by simp [L4State.init]
  trxnGen := by simp [L4State.init, PfcpL4Stack.init]
  cleanupGen := by simp [L4State.init, PfcpL4Stack.init]
  pending := by simp [L4State.init, PfcpL4Stack.init]
  cleanup := by simp [L4State.init, PfcpL4Stack.init]
  received := by simp [L4State.init]
  sent := by simp [L4State.init, PfcpL4Stack.init]
  matched := by simp [L4State.init]
  once := by simp [L4State.init]
  unanswered := by simp [L4State.init, PfcpL4Stack.init]

/-! ## Message types -/

theorem checkResponseType_of_isRequest {initial type : UInt8} (h : isRequest type = true) :
    checkResponseType initial type = false := by
  have hmem : type ∈ requestTypes := by simpa [isRequest] using h
  have hsucc : ∀ t ∈ requestTypes, ∀ i ∈ requestTypes, t ≠ i + 1 := by decide +kernel
  have hversion : ∀ t ∈ requestTypes, t ≠ PFCP_VERSION_NOT_SUPPORTED_RESPONSE := by
    decide +kernel
  unfold checkResponseType
  split_ifs with hi
  · have himem : initial ∈ requestTypes := by simpa [isRequest] using hi
    simpa using hsucc type hmem initial himem
  · simpa using hversion type hmem

theorem isRequest_messageType (type : SentType) : isRequest type.messageType = true := by
  cases type <;> decide

theorem response_ne_zero (type : SentType) : type.messageType + 1 ≠ 0 := by
  cases type <;> decide

/-! ## The operations on the table -/

section

variable {s : PfcpL4Stack} {msg : PfcpMsg}

/-- What the stack becomes when a message opens a procedure. -/
def PfcpL4Stack.opened (s : PfcpL4Stack) (n : UInt32) (p : PfcpProcedure) : PfcpL4Stack :=
  { s with
    trxnIdGenerator := s.nextTrxnId
    timerGenerator := s.nextTimerId
    timers := Function.update s.timers s.nextTimerId (some (s.clock + PFCP_PROC_TIME_OUT_MS))
    procCleanupTimers := Function.update s.procCleanupTimers s.nextTimerId (some n)
    pendingProcedures := Function.update s.pendingProcedures n (some p)
    trxnId2seqNum := Function.update s.trxnId2seqNum s.nextTrxnId (some n) }

theorem handleReceiveMessageCb_of_none (hp : s.pendingProcedures msg.sequenceNumber = none)
    (ht : s.trxnId2seqNum s.nextTrxnId = none) :
    s.handleReceiveMessageCb msg =
      if checkRequestType msg.messageType then
        (s.opened msg.sequenceNumber (s.receivedProcedure msg.messageType), some s.nextTrxnId)
      else (s, none) := by
  unfold PfcpL4Stack.handleReceiveMessageCb
  rw [hp]
  dsimp only
  split_ifs
  · simp only [PfcpL4Stack.insertPending, PfcpL4Stack.insertTrxn, PfcpL4Stack.startProcCleanupTimer,
      PfcpL4Stack.timerSetup, PfcpL4Stack.takeTrxnId, PfcpL4Stack.setPending, hp, ht]
    rfl
  · rfl

theorem handleReceiveMessageCb_of_some {p : PfcpProcedure}
    (hp : s.pendingProcedures msg.sequenceNumber = some p) :
    s.handleReceiveMessageCb msg =
      if checkResponseType p.checkInitialMsgType msg.messageType then
        ((if p.retryTimerId = 0 then s else s.stopTimer p.retryTimerId).setPending msg.sequenceNumber
          (p.respond msg.messageType), some p.trxnId)
      else (s, none) := by
  unfold PfcpL4Stack.handleReceiveMessageCb
  rw [hp]

end

/-! ## Received messages -/

section

variable {s : L4State} {endpoint : Endpoint} {msg : PfcpMsg} {p : PfcpProcedure}

theorem L4Inv.trxn_fresh (hs : L4Inv s) : s.stack.trxnId2seqNum s.stack.nextTrxnId = none := by
  cases h : s.stack.trxnId2seqNum s.stack.nextTrxnId with
  | none => rfl
  | some n =>
    have := hs.trxnGen _ n h
    simp only [PfcpL4Stack.nextTrxnId] at this
    omega

theorem L4Inv.pending_le (hs : L4Inv s) {n : UInt32} (hp : s.stack.pendingProcedures n = some p) :
    p.trxnId ≤ s.stack.trxnIdGenerator := hs.trxnGen _ n (hs.pending n p hp)

theorem L4Inv.pending_unique (hs : L4Inv s) {n m : UInt32} {q : PfcpProcedure}
    (hp : s.stack.pendingProcedures n = some p) (hq : s.stack.pendingProcedures m = some q)
    (heq : p.trxnId = q.trxnId) : n = m :=
  Option.some.inj ((hs.pending n p hp).symm.trans (heq ▸ hs.pending m q hq))

/-- **A new request keeps the invariant.** -/
theorem L4Inv.opened (hs : L4Inv s) {n : UInt32} (hn : s.stack.pendingProcedures n = none)
    {type : UInt8} :
    L4Inv { s with
      stack := s.stack.opened n (s.stack.receivedProcedure type)
      received := ⟨endpoint, n, s.stack.nextTrxnId, s.stack.clock⟩ :: s.received } where
  receivedGen := by
    intro r hr
    rcases List.mem_cons.mp hr with rfl | hr
    · exact le_rfl
    · exact Nat.le_succ_of_le (hs.receivedGen r hr)
  responsesGen := fun x hx => Nat.le_succ_of_le (hs.responsesGen x hx)
  trxnGen := by
    intro t m ht
    simp only [PfcpL4Stack.opened] at ht ⊢
    by_cases hne : t = s.stack.nextTrxnId
    · exact hne.le
    · rw [Function.update_of_ne hne] at ht
      exact Nat.le_succ_of_le (hs.trxnGen t m ht)
  cleanupGen := by
    intro id m hid
    simp only [PfcpL4Stack.opened] at hid ⊢
    by_cases hne : id = s.stack.nextTimerId
    · exact hne.le
    · rw [Function.update_of_ne hne] at hid
      exact Nat.le_succ_of_le (hs.cleanupGen id m hid)
  pending := by
    intro m q hq
    simp only [PfcpL4Stack.opened] at hq ⊢
    rcases update_some_eq_some.mp hq with ⟨rfl, rfl⟩ | ⟨hm, hq⟩
    · exact Function.update_self ..
    · have hle := hs.pending_le hq
      rw [Function.update_of_ne (by simp only [PfcpL4Stack.nextTrxnId]; omega)]
      exact hs.pending m q hq
  cleanup := by
    intro id m d hid hd
    simp only [PfcpL4Stack.opened] at hid hd ⊢
    by_cases hne : id = s.stack.nextTimerId
    · subst hne
      rw [Function.update_self] at hid hd
      obtain rfl := Option.some.inj hid
      obtain rfl := Option.some.inj hd
      refine ⟨_, Function.update_self .., rfl, fun r hr htrxn => ?_⟩
      rcases List.mem_cons.mp hr with rfl | hr
      · exact le_rfl
      · have := hs.receivedGen r hr
        simp only [PfcpL4Stack.receivedProcedure, PfcpL4Stack.nextTrxnId] at htrxn
        omega
    · rw [Function.update_of_ne hne] at hid hd
      obtain ⟨q, hq, hcleanup, htime⟩ := hs.cleanup id m d hid hd
      have hm : m ≠ n := fun h => by simp [h ▸ hq] at hn
      refine ⟨q, by rw [Function.update_of_ne hm, hq], hcleanup, fun r hr htrxn => ?_⟩
      rcases List.mem_cons.mp hr with rfl | hr
      · have := hs.pending_le hq
        simp only [PfcpL4Stack.nextTrxnId] at htrxn
        omega
      · exact htime r hr htrxn
  received := by
    intro r hr
    simp only [PfcpL4Stack.opened]
    rcases List.mem_cons.mp hr with rfl | hr
    · exact .inl ⟨_, Function.update_self .., rfl⟩
    · rcases hs.received r hr with ⟨q, hq, htrxn⟩ | hrest
      · have hm : r.sequenceNumber ≠ n := fun h => by simp [h ▸ hq] at hn
        exact .inl ⟨q, by rw [Function.update_of_ne hm, hq], htrxn⟩
      · exact .inr hrest
  sent := by
    intro m q hq hretry
    simp only [PfcpL4Stack.opened] at hq
    rcases update_some_eq_some.mp hq with ⟨rfl, rfl⟩ | ⟨hm, hq⟩
    · simp [PfcpL4Stack.receivedProcedure] at hretry
    · exact hs.sent m q hq hretry
  matched := hs.matched
  once := hs.once
  unanswered := by
    intro m q hq htrig x hx
    simp only [PfcpL4Stack.opened] at hq
    rcases update_some_eq_some.mp hq with ⟨rfl, rfl⟩ | ⟨hm, hq⟩
    · have := hs.responsesGen x hx
      simp only [PfcpL4Stack.receivedProcedure, PfcpL4Stack.nextTrxnId]
      omega
    · exact hs.unanswered m q hq htrig x hx

theorem respond_fields {n : UInt32} {type : UInt8} :
    let stack := (if p.retryTimerId = 0 then s.stack else s.stack.stopTimer p.retryTimerId).setPending n
      (p.respond type)
    stack.trxnIdGenerator = s.stack.trxnIdGenerator ∧ stack.timerGenerator = s.stack.timerGenerator ∧
      stack.clock = s.stack.clock ∧ stack.trxnId2seqNum = s.stack.trxnId2seqNum ∧
      stack.procCleanupTimers = s.stack.procCleanupTimers ∧
      stack.pendingProcedures = Function.update s.stack.pendingProcedures n (some (p.respond type)) ∧
      ∀ id d, stack.timers id = some d → s.stack.timers id = some d := by
  dsimp only
  split_ifs
  · exact ⟨rfl, rfl, rfl, rfl, rfl, rfl, fun _ _ h => h⟩
  · refine ⟨rfl, rfl, rfl, rfl, rfl, rfl, fun id d h => ?_⟩
    simp only [PfcpL4Stack.setPending, PfcpL4Stack.stopTimer, PfcpL4Stack.timerRemove] at h
    exact (update_none_eq_some.mp h).1

/-- **The first response to a request sent keeps the invariant.** -/
theorem L4Inv.responded (hs : L4Inv s) {n : UInt32} (hp : s.stack.pendingProcedures n = some p)
    {type : UInt8} (hcheck : checkResponseType p.checkInitialMsgType type = true)
    (hretry : p.retryMsg.isSome = true) (hdest : p.remoteEndpoint = endpoint)
    (htrig : p.triggeredMsgType = 0) :
    L4Inv { s with
      stack := (if p.retryTimerId = 0 then s.stack else s.stack.stopTimer p.retryTimerId).setPending n
        (p.respond type)
      responses := ⟨endpoint, type, p.trxnId⟩ :: s.responses } := by
  obtain ⟨hgen, htgen, hclock, htrxn, hcleanup, hpending, htimers⟩ :=
    @respond_fields s p n type
  obtain ⟨q, hq, hqtrxn, hqtype, hqdest⟩ := hs.sent n p hp hretry
  have htype : type = q.type.messageType + 1 := by
    rw [PfcpProcedure.checkInitialMsgType, if_pos htrig, hqtype, checkResponseType,
      if_pos (isRequest_messageType q.type)] at hcheck
    simpa using hcheck
  have htrig' : (p.respond type).triggeredMsgType ≠ 0 := by
    simp only [PfcpProcedure.respond, htrig, if_true, htype]
    exact response_ne_zero q.type
  constructor
  case receivedGen =>
    rw [hgen]
    exact hs.receivedGen
  case responsesGen =>
    rw [hgen]
    intro x hx
    rcases List.mem_cons.mp hx with rfl | hx
    · exact hs.pending_le hp
    · exact hs.responsesGen x hx
  case trxnGen =>
    rw [hgen, htrxn]
    exact hs.trxnGen
  case cleanupGen =>
    rw [htgen, hcleanup]
    exact hs.cleanupGen
  case pending =>
    rw [hpending, htrxn]
    intro m q' hq'
    rcases update_some_eq_some.mp hq' with ⟨rfl, rfl⟩ | ⟨hm, hq'⟩
    · exact hs.pending m p hp
    · exact hs.pending m q' hq'
  case cleanup =>
    rw [hcleanup, hpending]
    intro id m d hid hd
    obtain ⟨q', hq', hid', htime⟩ := hs.cleanup id m d hid (htimers id d hd)
    by_cases hm : m = n
    · subst hm
      obtain rfl := Option.some.inj (hp.symm.trans hq')
      exact ⟨_, Function.update_self .., hid', htime⟩
    · exact ⟨q', by rw [Function.update_of_ne hm, hq'], hid', htime⟩
  case received =>
    rw [hpending, hclock]
    intro r hr
    rcases hs.received r hr with ⟨q', hq', hr'⟩ | hrest
    · left
      by_cases hm : r.sequenceNumber = n
      · rw [hm] at hq' ⊢
        obtain rfl := Option.some.inj (hp.symm.trans hq')
        exact ⟨_, Function.update_self .., hr'⟩
      · exact ⟨q', by rw [Function.update_of_ne hm, hq'], hr'⟩
    · exact .inr hrest
  case sent =>
    rw [hpending]
    intro m q' hq' hretry'
    rcases update_some_eq_some.mp hq' with ⟨rfl, rfl⟩ | ⟨hm, hq'⟩
    · exact hs.sent m p hp hretry
    · exact hs.sent m q' hq' hretry'
  case matched =>
    intro x hx
    rcases List.mem_cons.mp hx with rfl | hx
    · exact ⟨q, hq, hqtrxn, htype, hdest ▸ hqdest⟩
    · exact hs.matched x hx
  case once =>
    rw [List.map_cons, List.nodup_cons]
    refine ⟨fun hmem => ?_, hs.once⟩
    obtain ⟨x, hx, heq⟩ := List.mem_map.mp hmem
    exact hs.unanswered n p hp htrig x hx heq
  case unanswered =>
    rw [hpending]
    intro m q' hq' htrig₂ x hx
    rcases update_some_eq_some.mp hq' with ⟨rfl, rfl⟩ | ⟨hm, hq'⟩
    · exact absurd htrig₂ htrig'
    · rcases List.mem_cons.mp hx with rfl | hx
      · exact fun heq => hm (hs.pending_unique hq' hp heq.symm)
      · exact hs.unanswered m q' hq' htrig₂ x hx

/-- **A received message keeps the invariant.** -/
theorem L4Inv.receive (hs : L4Inv s) (h : NumbersApart s (.receive endpoint msg)) :
    L4Inv (s.receive endpoint msg) := by
  unfold L4State.receive
  unfold NumbersApart at h
  dsimp only at h
  cases hp : s.stack.pendingProcedures msg.sequenceNumber with
  | none =>
    rw [handleReceiveMessageCb_of_none hp hs.trxn_fresh]
    by_cases hreq : isRequest msg.messageType = true
    · have hcheck : checkRequestType msg.messageType = true := by simp [checkRequestType, hreq]
      simp only [hcheck, hreq, if_true]
      exact hs.opened hp
    · rw [if_neg hreq] at h
      rw [if_neg (by simp [h.1 hp])]
      exact hs
  | some p =>
    rw [handleReceiveMessageCb_of_some hp]
    by_cases hcheck : checkResponseType p.checkInitialMsgType msg.messageType = true
    · have hreq : isRequest msg.messageType = false := by
        by_contra hreq
        rw [checkResponseType_of_isRequest (by simpa using hreq)] at hcheck
        exact absurd hcheck (by simp)
      rw [if_neg (by simp [hreq])] at h
      obtain ⟨hretry, hdest, htrig⟩ := h.2 p hp hcheck
      simp only [hcheck, hreq, if_true]
      exact hs.responded hp hcheck hretry hdest htrig
    · rw [if_neg hcheck]
      exact hs

end

/-! ## Requests and responses sent -/

section

variable {s : L4State} {p : PfcpProcedure}

/-- The procedure of a request sent. -/
def PfcpL4Stack.sentProcedure (s : PfcpL4Stack) (dest : Endpoint) (type : SentType) :
    PfcpProcedure :=
  { retryMsg := some ⟨type.messageType, s.nextMessageNumber⟩, remoteEndpoint := dest
    retryTimerId := s.nextTimerId, procCleanupTimerId := s.nextTimerId + 1, trxnId := s.nextTrxnId
    initialMsgType := type.messageType, triggeredMsgType := 0, retryCount := 0 }

theorem sendRequest_fields {stack : PfcpL4Stack} {dest : Endpoint} {type : SentType}
    (hn : stack.pendingProcedures stack.nextMessageNumber = none)
    (ht : stack.trxnId2seqNum stack.nextTrxnId = none) :
    (stack.sendRequest dest type).trxnIdGenerator = stack.nextTrxnId ∧
      (stack.sendRequest dest type).timerGenerator = stack.nextTimerId + 1 ∧
      (stack.sendRequest dest type).clock = stack.clock ∧
      (stack.sendRequest dest type).trxnId2seqNum =
        Function.update stack.trxnId2seqNum stack.nextTrxnId (some stack.nextMessageNumber) ∧
      (stack.sendRequest dest type).procCleanupTimers =
        Function.update stack.procCleanupTimers (stack.nextTimerId + 1)
          (some stack.nextMessageNumber) ∧
      (stack.sendRequest dest type).pendingProcedures =
        Function.update stack.pendingProcedures stack.nextMessageNumber
          (some (stack.sentProcedure dest type)) ∧
      (stack.sendRequest dest type).timers =
        Function.update (Function.update stack.timers stack.nextTimerId
          (some (stack.clock + PFCP_T1_RESPONSE_MS))) (stack.nextTimerId + 1)
          (some (stack.clock + PFCP_PROC_TIME_OUT_MS)) := by
  unfold PfcpL4Stack.sendRequest
  simp only [PfcpL4Stack.insertPending, PfcpL4Stack.insertTrxn, PfcpL4Stack.startProcCleanupTimer,
    PfcpL4Stack.startMsgRetryTimer, PfcpL4Stack.timerSetup, PfcpL4Stack.takeTrxnId,
    PfcpL4Stack.takeSeqNum, PfcpL4Stack.setPending, hn, ht]
  refine ⟨?_, ?_, ?_, ?_, ?_, ?_, ?_⟩ <;> first | exact trivial | rfl

/-- **A request sent under a free number keeps the invariant.** -/
theorem L4Inv.sendRequest (hs : L4Inv s) {dest : Endpoint} {type : SentType}
    (hn : s.stack.pendingProcedures s.stack.nextMessageNumber = none) :
    L4Inv (l4Step s (.sendRequest dest type)) := by
  obtain ⟨hgen, htgen, hclock, htrxn, hcleanup, hpending, htimers⟩ :=
    @sendRequest_fields s.stack dest type hn hs.trxn_fresh
  have hother : ∀ {m q}, s.stack.pendingProcedures m = some q → m ≠ s.stack.nextMessageNumber :=
    fun hq h => by simp [h ▸ hq] at hn
  unfold l4Step
  constructor
  case receivedGen =>
    intro r hr
    have := hs.receivedGen r hr
    simp only [hgen, PfcpL4Stack.nextTrxnId]
    omega
  case responsesGen =>
    intro x hx
    have := hs.responsesGen x hx
    simp only [hgen, PfcpL4Stack.nextTrxnId]
    omega
  case trxnGen =>
    intro t m ht
    simp only [hgen, htrxn] at ht ⊢
    by_cases hne : t = s.stack.nextTrxnId
    · exact hne.le
    · rw [Function.update_of_ne hne] at ht
      exact Nat.le_succ_of_le (hs.trxnGen t m ht)
  case cleanupGen =>
    intro id m hid
    simp only [htgen, hcleanup] at hid ⊢
    by_cases hne : id = s.stack.nextTimerId + 1
    · exact hne.le
    · rw [Function.update_of_ne hne] at hid
      have := hs.cleanupGen id m hid
      simp only [PfcpL4Stack.nextTimerId]
      omega
  case pending =>
    intro m q hq
    simp only [hpending, htrxn] at hq ⊢
    rcases update_some_eq_some.mp hq with ⟨rfl, rfl⟩ | ⟨hm, hq⟩
    · exact Function.update_self ..
    · have hle := hs.pending_le hq
      rw [Function.update_of_ne (by simp only [PfcpL4Stack.nextTrxnId]; omega)]
      exact hs.pending m q hq
  case cleanup =>
    intro id m d hid hd
    simp only [hcleanup, htimers, hpending] at hid hd ⊢
    by_cases hne : id = s.stack.nextTimerId + 1
    · subst hne
      rw [Function.update_self] at hid hd
      obtain rfl := Option.some.inj hid
      refine ⟨_, Function.update_self .., rfl, fun r hr heq => ?_⟩
      have := hs.receivedGen r hr
      simp only [PfcpL4Stack.sentProcedure, PfcpL4Stack.nextTrxnId] at heq
      omega
    · rw [Function.update_of_ne hne] at hid hd
      have hle := hs.cleanupGen id m hid
      rw [Function.update_of_ne (by simp only [PfcpL4Stack.nextTimerId]; omega)] at hd
      obtain ⟨q, hq, hqid, htime⟩ := hs.cleanup id m d hid hd
      exact ⟨q, by rw [Function.update_of_ne (hother hq), hq], hqid, htime⟩
  case received =>
    intro r hr
    simp only [hpending, hclock]
    rcases hs.received r hr with ⟨q, hq, heq⟩ | hrest
    · exact .inl ⟨q, by rw [Function.update_of_ne (hother hq), hq], heq⟩
    · exact .inr hrest
  case sent =>
    intro m q hq hretry
    simp only [hpending] at hq
    rcases update_some_eq_some.mp hq with ⟨rfl, rfl⟩ | ⟨hm, hq⟩
    · exact ⟨_, List.mem_cons_self, rfl, rfl, rfl⟩
    · obtain ⟨r, hr, hrest⟩ := hs.sent m q hq hretry
      exact ⟨r, List.mem_cons_of_mem _ hr, hrest⟩
  case matched =>
    intro x hx
    obtain ⟨q, hq, hrest⟩ := hs.matched x hx
    exact ⟨q, List.mem_cons_of_mem _ hq, hrest⟩
  case once =>
    exact hs.once
  case unanswered =>
    intro m q hq htrig x hx
    simp only [hpending] at hq
    rcases update_some_eq_some.mp hq with ⟨rfl, rfl⟩ | ⟨hm, hq⟩
    · have := hs.responsesGen x hx
      simp only [PfcpL4Stack.sentProcedure, PfcpL4Stack.nextTrxnId]
      omega
    · exact hs.unanswered m q hq htrig x hx

/-- A procedure leaves the table: it was answered, or its cleanup timer has fired. -/
theorem L4Inv.erased (hs : L4Inv s) {n : UInt32} {stack : PfcpL4Stack} {answered : List ℕ}
    (hgen : stack.trxnIdGenerator = s.stack.trxnIdGenerator)
    (htgen : stack.timerGenerator = s.stack.timerGenerator) (hclock : stack.clock = s.stack.clock)
    (htrxn : ∀ t m, stack.trxnId2seqNum t = some m → s.stack.trxnId2seqNum t = some m)
    (hkept : ∀ m q, m ≠ n → s.stack.pendingProcedures m = some q →
      stack.trxnId2seqNum q.trxnId = some m)
    (hcleanup : ∀ id m, stack.procCleanupTimers id = some m → s.stack.procCleanupTimers id = some m)
    (htimers : ∀ id m d, stack.procCleanupTimers id = some m → stack.timers id = some d →
      s.stack.timers id = some d ∧
        ∀ p, s.stack.pendingProcedures n = some p → p.procCleanupTimerId ≠ id)
    (hpending : stack.pendingProcedures = Function.update s.stack.pendingProcedures n none)
    (hanswered : ∀ t ∈ s.answered, t ∈ answered)
    (hgone : ∀ r ∈ s.received, ∀ p, s.stack.pendingProcedures n = some p → p.trxnId = r.trxnId →
      r.trxnId ∈ answered ∨ r.time + PFCP_PROC_TIME_OUT_MS ≤ s.stack.clock) :
    L4Inv { s with stack := stack, answered := answered } := by
  have hof : ∀ {m q}, stack.pendingProcedures m = some q →
      m ≠ n ∧ s.stack.pendingProcedures m = some q := by
    intro m q hq
    rw [hpending, update_none_eq_some] at hq
    exact ⟨hq.2, hq.1⟩
  constructor
  case receivedGen =>
    rw [hgen]
    exact hs.receivedGen
  case responsesGen =>
    rw [hgen]
    exact hs.responsesGen
  case trxnGen =>
    rw [hgen]
    exact fun t m ht => hs.trxnGen t m (htrxn t m ht)
  case cleanupGen =>
    rw [htgen]
    exact fun id m hid => hs.cleanupGen id m (hcleanup id m hid)
  case pending =>
    intro m q hq
    exact hkept m q (hof hq).1 (hof hq).2
  case cleanup =>
    intro id m d hid hd
    obtain ⟨hd', hne⟩ := htimers id m d hid hd
    obtain ⟨q, hq, hqid, htime⟩ := hs.cleanup id m d (hcleanup id m hid) hd'
    have hm : m ≠ n := fun h => hne q (h ▸ hq) hqid
    exact ⟨q, by rw [hpending, Function.update_of_ne hm, hq], hqid, htime⟩
  case received =>
    intro r hr
    simp only [hclock]
    rcases hs.received r hr with ⟨q, hq, heq⟩ | ha | htime
    · by_cases hm : r.sequenceNumber = n
      · exact .inr (hgone r hr q (hm ▸ hq) heq)
      · exact .inl ⟨q, by rw [hpending, Function.update_of_ne hm, hq], heq⟩
    · exact .inr (.inl (hanswered _ ha))
    · exact .inr (.inr htime)
  case sent =>
    exact fun m q hq => hs.sent m q (hof hq).2
  case matched =>
    exact hs.matched
  case once =>
    exact hs.once
  case unanswered =>
    exact fun m q hq => hs.unanswered m q (hof hq).2

/-- **A response keeps the invariant when its own procedure is pending under its number.** -/
theorem L4Inv.sendResponse (hs : L4Inv s) {t : ℕ} (h : NumbersApart s (.sendResponse t)) :
    L4Inv (l4Step s (.sendResponse t)) := by
  unfold l4Step
  dsimp only
  cases ht : s.stack.trxnId2seqNum t with
  | none =>
    dsimp only
    exact hs
  | some n =>
    dsimp only
    unfold PfcpL4Stack.sendResponse
    simp only [ht]
    cases hp : s.stack.pendingProcedures n with
    | none =>
      apply hs.erased (n := n)
      · rfl
      · rfl
      · rfl
      · intro u m hu
        simp only [PfcpL4Stack.eraseTrxn] at hu
        exact (update_none_eq_some.mp hu).1
      · intro m q hm hq
        have hq' := hs.pending m q hq
        have hut : q.trxnId ≠ t := fun hut => hm (Option.some.inj ((hut ▸ hq').symm.trans ht))
        simp only [PfcpL4Stack.eraseTrxn]
        rw [Function.update_of_ne hut, hq']
      · exact fun _ _ h => h
      · exact fun id m d _ hd => ⟨hd, fun p hp' => by simp [hp] at hp'⟩
      · exact (Function.update_eq_self_iff.mpr hp.symm).symm
      · exact fun u hu => List.mem_cons_of_mem _ hu
      · exact fun r _ p hp' => by simp [hp] at hp'
    | some p =>
      have hpt : p.trxnId = t := h n p ht hp
      apply hs.erased (n := n)
      · rfl
      · rfl
      · rfl
      · intro u m hu
        simp only [PfcpL4Stack.eraseTrxn, PfcpL4Stack.erasePending, PfcpL4Stack.stopTimer,
          PfcpL4Stack.timerRemove] at hu
        exact (update_none_eq_some.mp hu).1
      · intro m q hm hq
        have hq' := hs.pending m q hq
        have hut : q.trxnId ≠ t := fun hut => hm (Option.some.inj ((hut ▸ hq').symm.trans ht))
        simp only [PfcpL4Stack.eraseTrxn, PfcpL4Stack.erasePending, PfcpL4Stack.stopTimer,
          PfcpL4Stack.timerRemove]
        rw [Function.update_of_ne hut, hq']
      · exact fun _ _ h => h
      · intro id m d _ hd
        simp only [PfcpL4Stack.eraseTrxn, PfcpL4Stack.erasePending, PfcpL4Stack.stopTimer,
          PfcpL4Stack.timerRemove] at hd
        obtain ⟨hd, hid⟩ := update_none_eq_some.mp hd
        refine ⟨hd, fun q hq => ?_⟩
        obtain rfl := Option.some.inj (hp.symm.trans hq)
        exact hid.symm
      · rfl
      · exact fun u hu => List.mem_cons_of_mem _ hu
      · intro r _ q hq heq
        obtain rfl := Option.some.inj (hp.symm.trans hq)
        exact .inl (by rw [← heq, hpt]; exact List.mem_cons_self)

end

/-! ## Timers -/

section

variable {s : L4State}

/-- The parts of a procedure that a retry keeps. -/
structure SameProcedure (p q : PfcpProcedure) : Prop where
  trxnId : q.trxnId = p.trxnId
  cleanup : q.procCleanupTimerId = p.procCleanupTimerId
  initial : q.initialMsgType = p.initialMsgType
  triggered : q.triggeredMsgType = p.triggeredMsgType
  remote : q.remoteEndpoint = p.remoteEndpoint
  retryMsg : q.retryMsg = p.retryMsg

theorem L4Inv.retimed (hs : L4Inv s) {stack : PfcpL4Stack}
    (hgen : stack.trxnIdGenerator = s.stack.trxnIdGenerator)
    (htgen : s.stack.timerGenerator ≤ stack.timerGenerator) (hclock : s.stack.clock ≤ stack.clock)
    (htrxn : stack.trxnId2seqNum = s.stack.trxnId2seqNum)
    (hcleanup : ∀ id m, stack.procCleanupTimers id = some m → s.stack.procCleanupTimers id = some m)
    (htimers : ∀ id m d, s.stack.procCleanupTimers id = some m → stack.timers id = some d →
      s.stack.timers id = some d)
    (hto : ∀ m p, s.stack.pendingProcedures m = some p →
      ∃ q, stack.pendingProcedures m = some q ∧ SameProcedure p q)
    (hof : ∀ m q, stack.pendingProcedures m = some q →
      ∃ p, s.stack.pendingProcedures m = some p ∧ SameProcedure p q) :
    L4Inv { s with stack := stack } := by
  constructor
  case receivedGen =>
    rw [hgen]
    exact hs.receivedGen
  case responsesGen =>
    rw [hgen]
    exact hs.responsesGen
  case trxnGen =>
    rw [hgen, htrxn]
    exact hs.trxnGen
  case cleanupGen =>
    exact fun id m hid => (hs.cleanupGen id m (hcleanup id m hid)).trans htgen
  case pending =>
    intro m q hq
    obtain ⟨p, hp, hsame⟩ := hof m q hq
    rw [htrxn, hsame.trxnId]
    exact hs.pending m p hp
  case cleanup =>
    intro id m d hid hd
    obtain ⟨p, hp, hpid, htime⟩ := hs.cleanup id m d (hcleanup id m hid)
      (htimers id m d (hcleanup id m hid) hd)
    obtain ⟨q, hq, hsame⟩ := hto m p hp
    exact ⟨q, hq, hsame.cleanup.trans hpid, fun r hr heq => htime r hr (heq.trans hsame.trxnId)⟩
  case received =>
    intro r hr
    rcases hs.received r hr with ⟨p, hp, heq⟩ | ha | htime
    · obtain ⟨q, hq, hsame⟩ := hto _ p hp
      exact .inl ⟨q, hq, hsame.trxnId.trans heq⟩
    · exact .inr (.inl ha)
    · exact .inr (.inr (htime.trans hclock))
  case sent =>
    intro m q hq hretry
    obtain ⟨p, hp, hsame⟩ := hof m q hq
    rw [hsame.trxnId, hsame.initial, hsame.remote]
    exact hs.sent m p hp (hsame.retryMsg ▸ hretry)
  case matched =>
    exact hs.matched
  case once =>
    exact hs.once
  case unanswered =>
    intro m q hq htrig x hx
    obtain ⟨p, hp, hsame⟩ := hof m q hq
    rw [hsame.trxnId]
    exact hs.unanswered m p hp (hsame.triggered ▸ htrig) x hx

theorem SameProcedure.refl (p : PfcpProcedure) : SameProcedure p p := ⟨rfl, rfl, rfl, rfl, rfl, rfl⟩

/-- A timer that fires is gone from the timers; its entry in the table of the retries may go with it. -/
theorem L4Inv.timerFired (hs : L4Inv s) (id : ℕ) (msgOutRetryTimers : ℕ → Option UInt32) :
    L4Inv { s with
      stack := { s.stack with
        timers := Function.update s.stack.timers id none
        msgOutRetryTimers := msgOutRetryTimers } } := by
  apply hs.retimed
  · rfl
  · exact le_rfl
  · exact le_rfl
  · rfl
  · exact fun _ _ h => h
  · exact fun _ _ _ _ h => (update_none_eq_some.mp h).1
  · exact fun m p hp => ⟨p, hp, .refl p⟩
  · exact fun m p hp => ⟨p, hp, .refl p⟩

/-- **A time-out keeps the invariant.** -/
theorem L4Inv.timeOut (hs : L4Inv s) (id : ℕ) : L4Inv (l4Step s (.timeOut id)) := by
  unfold l4Step
  dsimp only
  cases hd : s.stack.timers id with
  | none =>
    dsimp only
    exact hs
  | some d =>
    dsimp only
    split_ifs with hle
    · unfold PfcpL4Stack.timeOutEvent
      dsimp only
      cases hretry : s.stack.msgOutRetryTimers id with
      | some n =>
        dsimp only
        cases hp : s.stack.pendingProcedures n with
        | none =>
          dsimp only
          exact hs.timerFired id _
        | some p =>
          dsimp only
          unfold PfcpL4Stack.retry
          split_ifs
          · cases hmsg : p.retryMsg with
            | none =>
              dsimp only
              exact hs.timerFired id _
            | some msg =>
              dsimp only
              have hsame : SameProcedure p (p.retried s.stack.nextTimerId) := ⟨rfl, rfl, rfl, rfl, rfl, rfl⟩
              apply hs.retimed
              · rfl
              · exact Nat.le_succ _
              · exact le_rfl
              · rfl
              · exact fun _ _ h => h
              · intro id' m d' hid' hd'
                have hlt := hs.cleanupGen id' m hid'
                simp only [PfcpL4Stack.setPending, PfcpL4Stack.startMsgRetryTimer,
                  PfcpL4Stack.timerSetup, PfcpL4Stack.timerRemove] at hd'
                rw [Function.update_of_ne (by simp only [PfcpL4Stack.nextTimerId]; omega)] at hd'
                exact (update_none_eq_some.mp hd').1
              · intro m q hq
                by_cases hm : m = n
                · subst hm
                  obtain rfl := Option.some.inj (hp.symm.trans hq)
                  exact ⟨_, Function.update_self .., hsame⟩
                · exact ⟨q, by
                    simp only [PfcpL4Stack.setPending, PfcpL4Stack.startMsgRetryTimer,
                      PfcpL4Stack.timerSetup, PfcpL4Stack.timerRemove]
                    rw [Function.update_of_ne hm, hq], .refl q⟩
              · intro m q hq
                simp only [PfcpL4Stack.setPending, PfcpL4Stack.startMsgRetryTimer,
                  PfcpL4Stack.timerSetup, PfcpL4Stack.timerRemove] at hq
                rcases update_some_eq_some.mp hq with ⟨rfl, rfl⟩ | ⟨hm, hq⟩
                · exact ⟨p, hp, hsame⟩
                · exact ⟨q, hq, .refl q⟩
          · exact hs.timerFired id _
      | none =>
        dsimp only
        cases hcl : s.stack.procCleanupTimers id with
        | none =>
          dsimp only
          exact hs.timerFired id _
        | some n =>
          dsimp only
          obtain ⟨p, hp, hpid, htime⟩ := hs.cleanup id n d hcl hd
          apply @L4Inv.erased s hs n _ s.answered
          · rfl
          · rfl
          · rfl
          · exact fun _ _ h => h
          · exact fun m q _ hq => hs.pending m q hq
          · intro id' m h
            simp only [PfcpL4Stack.erasePending, PfcpL4Stack.timerRemove] at h
            exact (update_none_eq_some.mp h).1
          · intro id' m d' _ hd'
            simp only [PfcpL4Stack.erasePending, PfcpL4Stack.timerRemove] at hd'
            refine ⟨(update_none_eq_some.mp hd').1, fun q hq hid => ?_⟩
            obtain rfl := Option.some.inj (hp.symm.trans hq)
            rw [← hid, hpid, Function.update_self] at hd'
            exact absurd hd' (by simp)
          · rfl
          · exact fun _ h => h
          · intro r hr q hq heq
            obtain rfl := Option.some.inj (hp.symm.trans hq)
            exact .inr ((htime r hr heq.symm).trans hle)
    · exact hs

end

/-! ## Runs -/

theorem L4Inv.step {s : L4State} {e : L4Event} (hs : L4Inv s) (h : NumbersApart s e) :
    L4Inv (l4Step s e) := by
  cases e with
  | receive endpoint msg => exact hs.receive h
  | sendRequest dest type => exact hs.sendRequest h
  | sendResponse trxnId => exact hs.sendResponse h
  | timeOut id => exact hs.timeOut id
  | wait ms =>
    exact hs.retimed rfl le_rfl (Nat.le_add_right _ _) rfl (fun _ _ h => h) (fun _ _ _ _ h => h)
      (fun m p hp => ⟨p, hp, .refl p⟩) fun m p hp => ⟨p, hp, .refl p⟩

/-- **A request is handed up as it should be**, in a state of the invariant. -/
theorem L4Inv.requestRule {s : L4State} {e : L4Event} (hs : L4Inv s) (h : NumbersApart s e) :
    RequestRule s e := by
  cases e with
  | receive endpoint msg =>
    intro hreq
    unfold NumbersApart at h
    dsimp only at h
    rw [if_pos hreq] at h
    obtain ⟨hpending, hanswered⟩ := h
    cases hp : s.stack.pendingProcedures msg.sequenceNumber with
    | none =>
      have hcheck : checkRequestType msg.messageType = true := by simp [checkRequestType, hreq]
      rw [handleReceiveMessageCb_of_none hp hs.trxn_fresh, if_pos hcheck]
      refine ⟨fun _ => ?_, fun _ => rfl⟩
      rintro (⟨p, hp', -⟩ | ⟨r, hr, hend, hseq, htime⟩)
      · simp [hp] at hp'
      · rcases hs.received r hr with ⟨p, hp', -⟩ | ha | hover
        · simp [hseq, hp] at hp'
        · exact hanswered r hr hend hseq htime ha
        · omega
    | some p =>
      rw [handleReceiveMessageCb_of_some hp, checkResponseType_of_isRequest hreq]
      refine ⟨fun h => by simp at h, fun h => absurd (.inl ⟨p, hp, hpending p hp⟩) h⟩
  | _ => trivial

theorem L4Inv.responseRule {s : L4State} (hs : L4Inv s) : ResponseRule s where
  matched := hs.matched
  once := by
    intro q _
    have hcount := List.nodup_iff_count_le_one.mp hs.once q.trxnId
    rw [List.count_eq_countP, List.countP_map] at hcount
    refine le_trans (List.countP_mono_left fun x _ hx => ?_) hcount
    simpa using hx

theorem along_requestRule {s : L4State} {es : List L4Event} (hs : L4Inv s)
    (h : Along l4Step NumbersApart s es) : Along l4Step RequestRule s es := by
  induction es generalizing s with
  | nil => trivial
  | cons e es ih => exact ⟨hs.requestRule h.1, ih (hs.step h.1) h.2⟩

/-- **Requests and responses are matched** in every run that keeps the parties apart. -/
theorem transactions_matched (seqNum : UInt32) (es : List L4Event)
    (h : Along l4Step NumbersApart (.init seqNum) es) :
    Along l4Step RequestRule (.init seqNum) es ∧ ResponseRule (run l4Step (.init seqNum) es) :=
  ⟨along_requestRule (.init seqNum) h,
    (h.invariant (I := L4Inv) (fun _ _ hs he => hs.step he) (.init seqNum)).responseRule⟩

/-- An SMF. -/
def exampleSmf : Endpoint := ⟨0x0a000001, 8805⟩

/-- Another SMF. -/
def otherSmf : Endpoint := ⟨0x0a000002, 8805⟩

/-- A session establishment request with number 7. -/
def request7 : PfcpMsg := ⟨PFCP_SESSION_ESTABLISHMENT_REQUEST, 7⟩

theorem transactions_matched_copy :
    Along l4Step RequestRule (.init 0)
      [.receive exampleSmf request7, .receive exampleSmf request7] := by
  refine (transactions_matched 0 [.receive exampleSmf request7, .receive exampleSmf request7]
    ⟨⟨fun p hp => ?_, fun r hr => ?_⟩, ⟨fun p hp => ?_, fun r _ _ _ _ => ?_⟩, trivial⟩).1
  · exact absurd hp (by simp [L4State.init, PfcpL4Stack.init])
  · exact absurd hr (by simp [L4State.init])
  · obtain rfl := Option.some.inj (show some _ = some p from hp)
    exact ⟨_, List.mem_cons_self, rfl, rfl⟩
  · exact List.not_mem_nil

/-- A request of one SMF is dropped while another SMF's request with the same number is pending, and a
copy of a request is handed up again once its response is sent. -/
theorem request_of_other_dropped :
    ¬ RequestRule (run l4Step (.init 0) [.receive exampleSmf request7])
        (.receive otherSmf request7) ∧
      ¬ RequestRule (run l4Step (.init 0) [.receive exampleSmf request7, .sendResponse 1])
        (.receive exampleSmf request7) := by
  constructor
  · intro h
    have hup := (h (by decide)).mpr (by
      rintro (⟨p, -, r, hr, -, hend⟩ | ⟨r, hr, hend, -⟩)
      · obtain rfl := List.mem_singleton.mp (show r ∈ [_] from hr)
        exact absurd hend (by decide)
      · obtain rfl := List.mem_singleton.mp (show r ∈ [_] from hr)
        exact absurd hend (by decide))
    exact absurd hup (by decide)
  · intro h
    exact (h (by decide)).mp (by decide) (.inr ⟨_, List.mem_cons_self, rfl, rfl, by decide⟩)

end Oai5g.Upf
