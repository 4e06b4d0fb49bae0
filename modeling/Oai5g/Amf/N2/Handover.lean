import Oai5g.Amf.N1.Context

/-!
# The N2 handover procedure

The handlers of `amf_n2` for Handover Required, Handover Request Acknowledge, Handover Notify and UE
Context Release Complete, `send_handover_preparation_failure` and the dispatcher `amf_n2_task`.

* `N2State`: the gNB and UE NGAP contexts with their maps, the NAS contexts, the UE contexts and PDU
  sessions of `amf_app`, and what was sent.
* An NGAP message is what the handler builds and the octets `Encode` makes of it. The APER encoder
  is a parameter; of its refusals two are modelled, a `NextHopChainingCount` above 7 and a `Cause`
  with no choice. A refused message has no octets, and then SCTP has nothing to send.
* What an SMF answers is an input of the step.

IEs that the AMF fills from its configuration, the user plane state of a session and the location
events are left out.
-/

namespace Oai5g.Amf

/-! ## Messages -/

/-- `sctp_assoc_id_t`. -/
abbrev SctpAssocId : Type := UInt32

/-- The user location of a Handover Notify. -/
structure UserLocation where
  nrCellId : UInt64
  tac : UInt32
  deriving DecidableEq, Repr

/-- `Ngap_HandoverType`. -/
inductive HandoverType
  | intra5gs
  | fivegsToEps
  | epsTo5gs
  deriving DecidableEq, Repr

/-- What the handler reads of a Handover Required. -/
structure HandoverRequired where
  amfUeNgapId : UInt64
  ranUeNgapId : UInt32
  handoverType : HandoverType
  targetGnbId : UInt32
  sourceToTarget : List UInt8
  pduSessions : List (UInt8 × List UInt8)
  deriving DecidableEq, Repr

/-- What the handler reads of a Handover Request Acknowledge. -/
structure HandoverRequestAck where
  amfUeNgapId : UInt64
  ranUeNgapId : UInt32
  admitted : Option (List (UInt8 × List UInt8))
  targetToSource : List UInt8
  deriving DecidableEq, Repr

/-- What the handler reads of a Handover Notify. -/
structure HandoverNotify where
  amfUeNgapId : UInt64
  ranUeNgapId : UInt32
  userLocationInfoNr : Option UserLocation
  deriving DecidableEq, Repr

/-- What the handler reads of a UE Context Release Complete. -/
structure UeContextReleaseComplete where
  amfUeNgapId : UInt64
  ranUeNgapId : UInt32
  pduSessions : List UInt8
  deriving DecidableEq, Repr

/-- `Ngap_Cause_PR`. -/
inductive CausePr
  | nothing
  | radioNetwork
  | transport
  | nas
  | protocol
  | misc
  deriving DecidableEq, Repr

/-- The NGAP messages built by the handlers. -/
inductive NgapMsg
  | handoverRequest (amfUeNgapId : UInt64) (ncc : UInt8) (nh : List UInt8)
      (sourceToTarget : List UInt8) (pduSessions : List (UInt8 × List UInt8))
  | handoverCommand (amfUeNgapId : UInt64) (ranUeNgapId : UInt32) (targetToSource : List UInt8)
      (pduSessions : List (UInt8 × List UInt8))
  | ueContextReleaseCommand (amfUeNgapId : UInt64) (ranUeNgapId : UInt32)
  | handoverPreparationFailure (amfUeNgapId : UInt64) (ranUeNgapId : UInt32) (cause : CausePr)
  | downlinkNasTransport (amfUeNgapId : UInt64) (ranUeNgapId : UInt32) (nasPdu : List UInt8)
  | initialContextSetupRequest (amfUeNgapId : UInt64) (ranUeNgapId : UInt32) (securityKey nasPdu : List UInt8)
  deriving DecidableEq, Repr

/-- `NgapMessage::Encode`: the octets the APER encoder writes, none where it fails. -/
def NgapMsg.encode (aper : NgapMsg → List UInt8) (msg : NgapMsg) : List UInt8 :=
  match msg with
  | .handoverRequest _ ncc _ _ _ => if 7 < ncc.toNat then [] else aper msg
  | .handoverPreparationFailure _ _ .nothing => []
  | _ => aper msg

/-- `ho_state` and `up_cnx_state` of a request to the SMF. -/
inductive SmContextUpdate
  | preparing
  | prepared
  | completed
  | deactivated
  deriving DecidableEq, Repr

/-- What the task sends. -/
inductive N2Out
  | sctp (assoc : SctpAssocId) (msg : NgapMsg) (octets : List UInt8)
  | smf (update : SmContextUpdate) (pduSessionId : UInt8) (amfUeNgapId : UInt64)
      (ranUeNgapId : UInt32)
  | mobileReachableTimer (amfUeNgapId : UInt64)
  deriving DecidableEq, Repr

/-! ## State -/

/-- `gnb_context`. -/
structure GnbContext where
  gnbId : UInt32
  sctpAssocId : SctpAssocId
  deriving DecidableEq, Repr

/-- `ng_ue_state_t`. -/
inductive NgUeState
  | invalid
  | waitingCsr
  | handover
  | connected
  | waitingCrr
  deriving DecidableEq, Repr

/-- `Ngap_CauseRadioNetwork_successful_handover`. -/
def successfulHandover : ℕ := 2

/-- `ue_ngap_context`. -/
structure UeNgapContext where
  ranUeNgapId : UInt32
  amfUeNgapId : UInt64
  targetRanUeNgapId : UInt32
  gnbAssocId : SctpAssocId
  targetGnbAssocId : SctpAssocId
  ngUeState : NgUeState
  ncc : UInt8
  releaseCause : ℕ
  releaseGnb : UInt32
  pduSessionsToBeReleased : List UInt8
  deriving DecidableEq, Repr

/-- The update of Handover Notify. `release_gnb` is read from the UE context, whose gNB is the target
already. -/
def UeNgapContext.notified (unc : UeNgapContext) (assoc : SctpAssocId) (gnbId ranUeNgapId : UInt32) :
    UeNgapContext :=
  { unc with
    releaseCause := successfulHandover
    releaseGnb := gnbId
    ranUeNgapId := ranUeNgapId
    targetRanUeNgapId := 0
    ngUeState := .connected
    gnbAssocId := assoc }

/-- `ue_context`. -/
structure UeContext where
  ranUeNgapId : UInt32
  amfUeNgapId : UInt64
  gnbId : UInt32
  location : UserLocation
  deriving DecidableEq, Repr

/-- `pdu_session_context`. -/
structure PduSessionContext where
  pduSessionId : UInt8
  isHoAccepted : Bool
  deriving DecidableEq, Repr

/-- The contexts of `amf_n2`, with what was sent. -/
structure N2State where
  assoc2gnb : SctpAssocId → Option GnbContext
  gnbid2gnb : UInt32 → Option GnbContext
  uncs : Heap UeNgapContext
  amfueid2uecontext : UInt64 → Option ℕ
  ranid2uecontext : UInt32 × UInt32 → Option ℕ
  nas : NasMaps
  ueContexts : UInt32 × UInt64 → Option UeContext
  pduSessions : Str → List PduSessionContext
  sent : List N2Out

/-- What stands outside `amf_n2`: the APER encoder and `handover_ncc_derive_knh`. -/
structure N2Env where
  aper : NgapMsg → List UInt8
  deriveKnh : (ulCount : ℕ) → (kamf : List UInt8) → (ncc : UInt8) → List UInt8

/-- The `n2sm` of an SMF's answer, by PDU session; `none` where it does not answer or leaves it out. -/
abbrev SmfAnswers : Type := UInt8 → Option (List UInt8)

/-- The keys of `curl_responses`, a `std::map`. -/
def responseKeys (ids : List UInt8) : List UInt8 := ids.dedup.insertionSort (· ≤ ·)

namespace N2State

variable (s : N2State)

/-- The UE NGAP context of a pointer. -/
def unc (r : ℕ) : UeNgapContext := s.uncs.cell r

/-- A write to the UE NGAP context of a pointer. -/
def modifyUnc (r : ℕ) (f : UeNgapContext → UeNgapContext) : N2State :=
  { s with uncs := s.uncs.modify r f }

/-- A write to the NAS context of a pointer. -/
def modifyNc (r : ℕ) (f : NasContext → NasContext) : N2State :=
  { s with nas := s.nas.modifyNc r f }

/-- More things are sent. -/
def sendAll (os : List N2Out) : N2State := { s with sent := s.sent ++ os }

/-- `Encode` and `sctp_send_msg`. -/
def sctpSend (env : N2Env) (assoc : SctpAssocId) (msg : NgapMsg) : N2State :=
  s.sendAll [.sctp assoc msg (msg.encode env.aper)]

/-- `set_ran_ue_ngap_id_2_ue_ngap_context` -/
def setRanUeNgapId2UeNgapContext (key : UInt32 × UInt32) (r : ℕ) : N2State :=
  { s with ranid2uecontext := Function.update s.ranid2uecontext key (some r) }

/-- `remove_ran_ue_ngap_id_2_ngap_context` -/
def removeRanUeNgapId2NgapContext (key : UInt32 × UInt32) : N2State :=
  { s with ranid2uecontext := Function.update s.ranid2uecontext key none }

/-- `remove_amf_ue_ngap_id_2_ue_ngap_context` -/
def removeAmfUeNgapId2UeNgapContext (id : UInt64) : N2State :=
  { s with amfueid2uecontext := Function.update s.amfueid2uecontext id none }

/-- The UE context of a key. -/
def setUeContext (key : UInt32 × UInt64) (uc : UeContext) : N2State :=
  { s with ueContexts := Function.update s.ueContexts key (some uc) }

/-- `find_pdu_session_context`. -/
def findPduSession (supi : Str) (id : UInt8) : Option PduSessionContext :=
  (s.pduSessions supi).find? (·.pduSessionId = id)

/-- `psc->is_ho_accepted = true` for the sessions found. -/
def acceptHandover (supi : Str) (ids : List UInt8) : N2State :=
  { s with
    pduSessions := Function.update s.pduSessions supi
      ((s.pduSessions supi).map fun psc =>
        if psc.pduSessionId ∈ ids then { psc with isHoAccepted := true } else psc) }

end N2State

/-! ## Handlers -/

section

variable (env : N2Env)

/-- The checks of Handover Required before the context is written: the UE NGAP context. -/
def findHandoverUe (s : N2State) (assoc : SctpAssocId) (msg : HandoverRequired) : Option ℕ :=
  match s.assoc2gnb assoc with
  | none => none
  | some gc =>
    match s.ranid2uecontext (msg.ranUeNgapId, gc.gnbId) with
    | none => none
    | some r =>
      if (s.unc r).amfUeNgapId ≠ msg.amfUeNgapId then none
      else if msg.handoverType ≠ .intra5gs then none
      else some r

/-- The security data of Handover Required: NAS context, uplink count and K_AMF. -/
def findHandoverKeys (s : N2State) (amfUeNgapId : UInt64) : Option (NasContext × ℕ × List UInt8) :=
  match s.nas.amfueid2nasContext amfUeNgapId with
  | none => none
  | some n =>
    match (s.nas.nc n).securityCtx with
    | none => none
    | some nsc =>
      match (s.nas.nc n).getKamf nsc.vectorPointer with
      | none => none
      | some kamf => some (s.nas.nc n, nsc.ulCount.value, kamf)

/-- The sessions of the message that have a context. -/
def preparedSessions (s : N2State) (supi : Str) (msg : HandoverRequired) : List UInt8 :=
  (msg.pduSessions.map Prod.fst).filter fun id => (s.findPduSession supi id).isSome

/-- The items of the Handover Request, one for each session whose SMF sent an `n2sm`. -/
def setupList (answers : SmfAnswers) (ids : List UInt8) : List (UInt8 × List UInt8) :=
  (responseKeys ids).filterMap fun id => (answers id).map fun n2sm => (id, n2sm)

/-- `amf_n2::handle_itti_message(itti_handover_required)`. The context is written and the SMFs are
asked before the rest of the checks. -/
def handleHandoverRequired (s : N2State) (assoc : SctpAssocId) (msg : HandoverRequired)
    (answers : SmfAnswers) : N2State × Bool :=
  match findHandoverUe s assoc msg with
  | none => (s, false)
  | some r =>
    let s := s.modifyUnc r fun unc =>
      { unc with gnbAssocId := assoc, ncc := unc.ncc + 1, ngUeState := .handover }
    match findHandoverKeys s msg.amfUeNgapId with
    | none => (s, false)
    | some (nc, ulCount, kamf) =>
      let ncc := (s.unc r).ncc
      let ids := preparedSessions s nc.supi msg
      let s := s.sendAll (ids.map fun id => .smf .preparing id msg.amfUeNgapId msg.ranUeNgapId)
      let handoverRequest := NgapMsg.handoverRequest msg.amfUeNgapId ncc
        (env.deriveKnh ulCount kamf ncc) msg.sourceToTarget (setupList answers ids)
      match s.gnbid2gnb msg.targetGnbId with
      | none => (s, false)
      | some gcTarget =>
        let s := s.modifyUnc r fun unc => { unc with targetGnbAssocId := gcTarget.sctpAssocId }
        (s.sctpSend env gcTarget.sctpAssocId handoverRequest, true)

/-- `amf_n2::send_handover_preparation_failure`: the AMF UE NGAP ID goes into both ids, and the cause
has no choice. -/
def sendHandoverPreparationFailure (s : N2State) (amfUeNgapId : UInt64) (_ranUeNgapId : UInt32)
    (gnbAssocId : SctpAssocId) : N2State :=
  s.sctpSend env gnbAssocId (.handoverPreparationFailure amfUeNgapId amfUeNgapId.toUInt32 .nothing)

/-- The branch `HANDOVER_REQUIRED_MSG` of `amf_n2_task`: the handler is called twice, and the first
result is dropped. -/
def dispatchHandoverRequired (s : N2State) (assoc : SctpAssocId) (msg : HandoverRequired)
    (answers answers' : SmfAnswers) : N2State :=
  let (s, _) := handleHandoverRequired env s assoc msg answers
  match handleHandoverRequired env s assoc msg answers' with
  | (s, true) => s
  | (s, false) => sendHandoverPreparationFailure env s msg.amfUeNgapId msg.ranUeNgapId assoc

/-- `amf_n2::handle_itti_message(itti_handover_request_ack)`. -/
def handleHandoverRequestAck (s : N2State) (assoc : SctpAssocId) (msg : HandoverRequestAck)
    (answers : SmfAnswers) : N2State :=
  match s.assoc2gnb assoc, s.amfueid2uecontext msg.amfUeNgapId with
  | some _, some r =>
    let s := s.modifyUnc r fun unc => { unc with targetRanUeNgapId := msg.ranUeNgapId }
    match msg.admitted, s.nas.amfueid2nasContext msg.amfUeNgapId with
    | some list, some n =>
      let supi := (s.nas.nc n).supi
      let ran := (s.unc r).ranUeNgapId
      let s := s.sendAll (list.map fun item => .smf .prepared item.1 msg.amfUeNgapId ran)
      let handoverList := setupList answers (list.map Prod.fst)
      let s := s.acceptHandover supi (handoverList.map Prod.fst)
      s.sctpSend env (s.unc r).gnbAssocId
        (.handoverCommand msg.amfUeNgapId ran msg.targetToSource handoverList)
    | _, _ => s
  | _, _ => s

/-- `amf_n2::handle_itti_message(itti_handover_notify)`. -/
def handleHandoverNotify (s : N2State) (assoc : SctpAssocId) (msg : HandoverNotify) : N2State :=
  match s.assoc2gnb assoc, s.amfueid2uecontext msg.amfUeNgapId, msg.userLocationInfoNr,
      s.nas.amfueid2nasContext msg.amfUeNgapId with
  | some gc, some r, some location, some n =>
    let s := s.setUeContext (msg.ranUeNgapId, msg.amfUeNgapId)
      { ranUeNgapId := msg.ranUeNgapId, amfUeNgapId := msg.amfUeNgapId, gnbId := gc.gnbId,
        location := location }
    let accepted := (s.pduSessions (s.nas.nc n).supi).filter (·.isHoAccepted)
    let s := s.sendAll (accepted.map fun psc =>
      .smf .completed psc.pduSessionId msg.amfUeNgapId msg.ranUeNgapId)
    let s := s.sctpSend env (s.unc r).gnbAssocId
      (.ueContextReleaseCommand msg.amfUeNgapId (s.unc r).ranUeNgapId)
    let s := s.modifyUnc r (·.notified assoc gc.gnbId msg.ranUeNgapId)
    let s := s.modifyNc n fun nc => { nc with ranUeNgapId := msg.ranUeNgapId }
    s.setRanUeNgapId2UeNgapContext (msg.ranUeNgapId, gc.gnbId) r
  | _, _, _, _ => s

/-- The sessions of the message, or else those of the UE Context Release Request. -/
def sessionsToBeReleased (unc : UeNgapContext) (msg : UeContextReleaseComplete) : List UInt8 :=
  if msg.pduSessions = [] then unc.pduSessionsToBeReleased else msg.pduSessions

/-- `amf_n2::handle_itti_message(itti_ue_context_release_complete)`. -/
def handleUeContextReleaseComplete (s : N2State) (assoc : SctpAssocId)
    (msg : UeContextReleaseComplete) : N2State :=
  match s.ueContexts (msg.ranUeNgapId, msg.amfUeNgapId), s.amfueid2uecontext msg.amfUeNgapId,
      s.assoc2gnb assoc with
  | some _, some r, some gc =>
    let key := (msg.ranUeNgapId, gc.gnbId)
    if (s.unc r).releaseCause = successfulHandover ∧ gc.gnbId = (s.unc r).releaseGnb then
      (s.removeRanUeNgapId2NgapContext key).modifyUnc r fun unc => { unc with releaseCause := 0 }
    else
      match s.nas.amfueid2nasContext msg.amfUeNgapId with
      | none => s
      | some n =>
        if (s.nas.supi2amfId (s.nas.nc n).supi).getD INVALID_AMF_UE_NGAP_ID ≠ msg.amfUeNgapId then
          (s.removeAmfUeNgapId2UeNgapContext msg.amfUeNgapId).removeRanUeNgapId2NgapContext key
        else
          let s := s.modifyNc n fun nc => { nc with nasStatus := .idle }
          let s := s.sendAll [.mobileReachableTimer msg.amfUeNgapId]
          let s := s.sendAll ((sessionsToBeReleased (s.unc r) msg).map fun id =>
            .smf .deactivated id msg.amfUeNgapId msg.ranUeNgapId)
          (s.removeAmfUeNgapId2UeNgapContext msg.amfUeNgapId).removeRanUeNgapId2NgapContext key
  | _, _, _ => s

/-- The messages of the handover procedure, with the association each came over and what the SMFs
answer while it is handled. -/
inductive N2Event
  | handoverRequired (assoc : SctpAssocId) (msg : HandoverRequired) (answers answers' : SmfAnswers)
  | handoverRequestAck (assoc : SctpAssocId) (msg : HandoverRequestAck) (answers : SmfAnswers)
  | handoverNotify (assoc : SctpAssocId) (msg : HandoverNotify)
  | ueContextReleaseComplete (assoc : SctpAssocId) (msg : UeContextReleaseComplete)

/-- `amf_n2_task`. -/
def amfN2Task (s : N2State) : N2Event → N2State
  | .handoverRequired assoc msg answers answers' =>
    dispatchHandoverRequired env s assoc msg answers answers'
  | .handoverRequestAck assoc msg answers => handleHandoverRequestAck env s assoc msg answers
  | .handoverNotify assoc msg => handleHandoverNotify env s assoc msg
  | .ueContextReleaseComplete assoc msg => handleUeContextReleaseComplete s assoc msg

end

end Oai5g.Amf
