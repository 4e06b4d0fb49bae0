import Oai5g.Amf.N1.Registration

/-!
# Service requests and NAS transport

The two `amf_n1::service_request_handle`, `ul_nas_transport_handle` and
`handle_itti_message(itti_downlink_nas_transfer&)`. A function whose name ends in `Reply` also gives the message that
the handler has encoded.
-/

namespace Oai5g.Amf

/-- What `service_request_handle` copies from an old context; `nsc` is its security context with the
sequence number of the request. -/
def NasContext.takeOver (nc old : NasContext) (nsc : NasSecuCtx) : NasContext :=
  { nc with
    securityCtx := some nsc
    kamf := old.kamf
    imsi := old.imsi
    oldRanUeNgapId := old.ranUeNgapId
    oldAmfUeNgapId := old.amfUeNgapId
    ueSecurityCapability := old.ueSecurityCapability }

section

variable (P : N1Params) (E : N1Env)

/-- The statuses of a Service Request, those that are missing from its container; `none` when the
container is too short. -/
def readSessionStatus (req : ServiceRequest) : Option SessionStatus :=
  if req.uplinkDataStatus.isSome ∧ req.pduSessionStatus.isSome then
    some ⟨req.uplinkDataStatus, req.pduSessionStatus⟩
  else
    match req.nasMessageContainer with
    | none => some ⟨req.uplinkDataStatus, req.pduSessionStatus⟩
    | some plainMsg =>
      if plainMsg.length < kNasMessageMinLength then none
      else if getNasMessageType (some plainMsg) = kServiceRequest then
        let inner := (P.decode.serviceRequest plainMsg).2
        some ⟨req.uplinkDataStatus.or inner.uplinkDataStatus,
          req.pduSessionStatus.or inner.pduSessionStatus⟩
      else some ⟨req.uplinkDataStatus, req.pduSessionStatus⟩

/-- A Service Reject, with the message. -/
def serviceRejectReply (r : ℕ) (cause : UInt8) (s : N1State) : N1State × Option DlNasMessage :=
  (sendServiceReject E r cause s, some (.serviceReject cause))

/-- A message is encoded and protected; `carry` is what becomes of it. -/
def encodeReply (r : ℕ) (m : DlNasMessage) (carry : Bstring → N1State → N1State) (s : N1State) :
    N1State × Option DlNasMessage :=
  let (s, protectedNas) := encodeProtected P E r false .integrityProtectedAndCiphered (E.encode m) s
  (carry protectedNas s, some m)

/-! ## On an existing connection -/

/-- `amf_n1::service_request_handle` without `ulCount`, with the message that it has encoded: the accept is filled
before the loop over the sessions. -/
def serviceRequestReply (r : ℕ) (ran : UInt32) (amf : UInt64) (nas : Bstring) (s : N1State) :
    N1State × Option DlNasMessage :=
  if (E.ueContext ran amf).isNone then (s, none)
  else
    let (decoded, req) := P.decode.serviceRequest (nas.getD [])
    if (s.nc r).securityCtx.isNone ∨ !decoded then
      serviceRejectReply E r k5gmmCauseUeIdentityCannotBeDerived s
    else
      let s := s.onMaps fun m => m.setAmfUeNgapId2NasContext amf r
      match readSessionStatus P req with
      | none => (s, none)
      | some st =>
        if st.toBeActivated = [] then serviceRejectReply E r k5gmmCauseSemanticallyIncorrect s
        else
          encodeReply P E r (.serviceAccept (st.uplinkDataStatus.map fun _ => 0) st.pduSessionStatus)
            (fun protectedNas s =>
              s.send (.pduSessionResourceSetupRequest amf ran protectedNas st.toBeActivated)) s

/-- The state after it. -/
def serviceRequestHandle (r : ℕ) (ran : UInt32) (amf : UInt64) (nas : Bstring) (s : N1State) : N1State :=
  (serviceRequestReply P E r ran amf nas s).1

/-! ## On a new connection -/

/-- The old context a Service Request names by its 5G-S-TMSI. -/
def oldNasContext (uc : N1UeContext) (r : ℕ) (decoded : Bool) (req : ServiceRequest) (s : N1State) :
    Option ℕ :=
  if !decoded ∨ (s.nc r).guti.isSome then none
  else req.fivegSTmsi.bind fun (setId, pointer, tmsi) =>
    s.maps.guti2nasContext (tmsiToGuti uc.mcc uc.mnc P.regionId setId pointer tmsi)

/-- The security context of `old` is copied to `r`. -/
def takeOldContext (r old : ℕ) (nsc : NasSecuCtx) (ulCount : UInt8) (s : N1State) : N1State :=
  let nsc := nsc.setUlSeqNum ulCount
  ((s.modifyNc r fun nc => nc.takeOver (s.nc old) nsc).observe (.installed r nsc)).observe
    (.accepted r nsc false)

/-- The old connection is released. -/
def releaseOldConnection (r : ℕ) (s : N1State) : N1State :=
  let nc := s.nc r
  if nc.oldRanUeNgapId ≠ nc.ranUeNgapId ∧ nc.oldAmfUeNgapId ≠ INVALID_AMF_UE_NGAP_ID then
    match E.ueContext nc.oldRanUeNgapId nc.oldAmfUeNgapId with
    | none => s
    | some uc =>
      if E.isUeNgapContext nc.oldRanUeNgapId uc.gnbId then
        s.send (.ueContextReleaseCommand nc.oldAmfUeNgapId nc.oldRanUeNgapId)
      else s
  else s

/-- The Service Accept of a request on a new connection: it is filled after the loop where there is one. -/
def serviceAcceptReply (r : ℕ) (ran : UInt32) (amf : UInt64) (st : SessionStatus) (s : N1State) :
    N1State × Option DlNasMessage :=
  if st.toBeActivated = [] then
    encodeReply P E r (.serviceAccept (st.uplinkDataStatus.map fun _ => 0) st.pduSessionStatus)
      (fun protectedNas s =>
        match kgnb P (s.nc r) with
        | none => s
        | some k =>
          let csr : N1Out := .initialContextSetupRequest amf ran k protectedNas true []
          if E.sendMsg csr then (s.send csr).modifyNc r fun nc => nc.setFivegmmState .registered
          else s.send csr) s
  else
    encodeReply P E r (.serviceAccept (st.reactivationResult E) (st.answeredStatus E))
      (fun protectedNas s =>
        match kgnb P (s.nc r) with
        | none => s
        | some k =>
          (s.send (.initialContextSetupRequest amf ran k protectedNas true st.toBeActivated)).modifyNc r
            fun nc => nc.setFivegmmState .registered) s

/-- `service_request_handle` once the context is there, with the message that it has encoded. -/
def continueServiceRequestReply (r : ℕ) (ran : UInt32) (amf : UInt64) (decoded : Bool) (req : ServiceRequest)
    (s : N1State) : N1State × Option DlNasMessage :=
  if (s.nc r).securityCtx.isNone ∨ !decoded then
    serviceRejectReply E r k5gmmCauseUeIdentityCannotBeDerived s
  else
    let s := releaseOldConnection E r (s.onMaps fun m => m.setAmfUeNgapId2NasContext amf r)
    let supi := (s.nc r).supi
    let s := s.onMaps fun m => (m.setSupi2AmfId supi amf).setSupi2RanId supi ran
    match readSessionStatus P req with
    | none => (s, none)
    | some st => serviceAcceptReply P E r ran amf st s

/-- The state after it. -/
def continueServiceRequest (r : ℕ) (ran : UInt32) (amf : UInt64) (decoded : Bool) (req : ServiceRequest)
    (s : N1State) : N1State :=
  (continueServiceRequestReply P E r ran amf decoded req s).1

/-- `amf_n1::service_request_handle` with `ulCount`, with the message that it has encoded. An old context without
security context ends the process with an exception. -/
def serviceRequestReplyUlCount (r : ℕ) (ran : UInt32) (amf : UInt64) (nas : Bstring) (ulCount : UInt8)
    (s : N1State) : N1State × Option DlNasMessage :=
  match E.ueContext ran amf with
  | none => (s, none)
  | some uc =>
    let (decoded, req) := P.decode.serviceRequest (nas.getD [])
    match oldNasContext P uc r decoded req s with
    | none => continueServiceRequestReply P E r ran amf decoded req s
    | some old =>
      match (s.nc old).securityCtx with
      | none => (s, none)
      | some nsc =>
        continueServiceRequestReply P E r ran amf decoded req (takeOldContext r old nsc ulCount s)

/-- The state after it. -/
def serviceRequestHandleUlCount (r : ℕ) (ran : UInt32) (amf : UInt64) (nas : Bstring) (ulCount : UInt8)
    (s : N1State) : N1State :=
  (serviceRequestReplyUlCount P E r ran amf nas ulCount s).1

/-! ## NAS transport -/

/-- `amf_n1::ul_nas_transport_handle`. -/
def ulNasTransportHandle (ran : UInt32) (amf : UInt64) (nas : Bstring) (mcc mnc : Str) (s : N1State) :
    N1State :=
  let ul := P.decode.ulNasTransport (nas.getD [])
  if ul.requestType &&& 7 = kPduSessionInitialRequest ∨ ul.requestType &&& 7 = kExistingPduSession then
    if !ul.isSNssaiPresent ∧ ((s.maps.amfueid2nasContext amf).isNone ∨ !E.isSNssaiFound) then s
    else if ul.payloadContainerType = kN1SmInformation then
      s.send (.pduSessionCreateSmContext amf ran ul.requestType ul.pduSessionId ul.payloadContainer mcc
        mnc)
    else s
  else if ul.payloadContainerType = kN1SmInformation then
    s.send (.pduSessionUpdateSmContext amf ran ul.pduSessionId ul.payloadContainer)
  else s

/-- The N2 message that carries a downlink NAS message. -/
def sendDownlinkNas (r : ℕ) (msg : DownlinkNasTransfer) (nas : Bstring) (s : N1State) : N1State :=
  let amf := msg.amfUeNgapId
  let ran := msg.ranUeNgapId
  match msg.n2sm with
  | none => s.send (.dlNasTransport amf ran nas)
  | some infoType =>
    if infoType = "PDU_RES_REL_CMD".toList then
      s.send (.pduSessionResourceReleaseCommand amf ran nas msg.pduSessionId)
    else if infoType = "PDU_RES_MOD_REQ".toList then
      if E.isPduSessionContext (s.nc r).imsi msg.pduSessionId then
        s.send (.pduSessionResourceModifyRequest amf ran nas msg.pduSessionId)
      else s
    else
      match E.ueContext ran amf with
      | none => s
      | some uc =>
        if uc.isUeContextRequest then
          s.send (.pduSessionResourceSetupRequest amf ran nas [msg.pduSessionId])
        else
          match kgnb P (s.nc r) with
          | none => s
          | some k => s.send (.initialContextSetupRequest amf ran k nas false [msg.pduSessionId])

/-- `amf_n1::handle_itti_message(itti_downlink_nas_transfer&)`. -/
def handleDownlinkNasTransfer (msg : DownlinkNasTransfer) (s : N1State) : N1State :=
  match s.maps.amfueid2nasContext msg.amfUeNgapId with
  | none => s
  | some r =>
    if (s.nc r).securityCtx.isNone then s
    else
      let (s, protectedNas) :=
        encodeProtected P E r false .integrityProtectedAndCiphered msg.dlNas s
      sendDownlinkNas P E r msg protectedNas s

end

end Oai5g.Amf
