import Oai5g.Amf.N1.Procedures

/-!
# Registration and de-registration

`amf_n1::registration_request_handle` with the procedures it starts, `identity_response_handle`,
`security_mode_complete_handle` and `ue_initiate_de_registration_handle`.

`registration_request_handle` uses `nc` before it tests whether there is one, so its branches for a
missing context are never reached and are left out.
-/

namespace Oai5g.Amf

namespace NasContext

/-- The Registration Request is kept as it came. -/
def storeRegistrationRequest (nc : NasContext) (reg : Bstring) : NasContext :=
  { nc with registrationRequest := reg, registrationRequestIsSet := true }

/-- The identity of a Registration Request with an IMSI. -/
def storeImsi (nc : NasContext) (imsi : Str) : NasContext :=
  { nc with
    imsi := imsi
    isImsiPresent := true
    fivegmmState := .commonProcedureInitiated }

/-- The identity of a Registration Request with a GUTI. -/
def markGuti (nc : NasContext) : NasContext :=
  { nc with is5gGutiPresent := true, toBeRegisterByNewSuci := true }

/-- The fields a Registration Request sets after its identity. -/
def updateByRegistrationRequest (nc : NasContext) (ran : UInt32) (amf : UInt64) (snn : Str)
    (req : RegistrationRequest) : NasContext :=
  { nc with
    ranUeNgapId := ran
    amfUeNgapId := amf
    servingNetwork := snn
    securityCtx := nc.securityCtx.map fun nsc => { nsc with scType := .notAvailable }
    registrationType := req.registrationType
    followOnReqPendingInd := req.isFollowOnReq
    ngksi := req.ngKsi
    fivegmmCapability := req.fivegmmCapability.getD 0
    ueSecurityCapability := req.ueSecurityCapability.getD nc.ueSecurityCapability
    ctxAvaliabilityInd := true }

/-- The fields an Identity Response sets. -/
def updateByIdentityResponse (nc : NasContext) (ran : UInt32) (amf : UInt64) (imsi : Str) :
    NasContext :=
  { nc with
    ctxAvaliabilityInd := true
    nasStatus := .connected
    amfUeNgapId := amf
    ranUeNgapId := ran
    isImsiPresent := true
    imsi := imsi }

/-- The GUTI that `security_mode_complete_handle` allocates; the procedure has ended. -/
def storeGuti (nc : NasContext) (guti : Str) : NasContext :=
  { nc with guti := some guti, isCommonProcedureForSecurityModeControlRunning := false }

end NasContext

section

variable (P : N1Params) (E : N1Env)

/-! ## Registration Request -/

/-- The Registration Accept of an update: the GUAMI of the AMF and the TMSI of the UE context. -/
def updateAccept (uc : N1UeContext) (pduSessionStatus : Option UInt16) : DlNasMessage :=
  .registrationAccept P.guamiMcc P.guamiMnc P.regionId P.amfSetId P.amfPointer uc.tmsi none
    pduSessionStatus

/-- The end shared by the updates: a protected message to the UE of `r`. -/
def sendProtected (r : ℕ) (nas : List UInt8) (s : N1State) : N1State :=
  let (s, protectedNas) := encodeProtected P E r false .integrityProtectedAndCiphered nas s
  s.send (.dlNasTransport (s.nc r).amfUeNgapId (s.nc r).ranUeNgapId protectedNas)

/-- `amf_n1::run_mobility_registration_update_procedure`. The key KgNB is derived and not used, but the
message goes out only if there is one. -/
def runMobilityRegistrationUpdateProcedure (r : ℕ) (s : N1State) : N1State :=
  match E.ueContext (s.nc r).ranUeNgapId (s.nc r).amfUeNgapId with
  | none => s
  | some uc =>
    if (s.nc r).securityCtx.isNone then runRegistrationProcedure P E r s
    else
      match E.encode (updateAccept P uc none) with
      | [] => s
      | nas =>
        if (kgnb P (s.nc r)).isNone then
          (encodeProtected P E r false .integrityProtectedAndCiphered nas s).1
        else sendProtected P E r nas s

/-- `amf_n1::run_periodic_registration_update_procedure`, both overloads: the status is the one of the
message or of its container. -/
def runPeriodicRegistrationUpdateProcedure (r : ℕ) (pduSessionStatus : UInt16) (s : N1State) :
    N1State :=
  match E.ueContext (s.nc r).ranUeNgapId (s.nc r).amfUeNgapId with
  | none => s
  | some uc =>
    match E.encode (updateAccept P uc (some pduSessionStatus)) with
    | [] => s
    | nas => if (s.nc r).securityCtx.isNone then s else sendProtected P E r nas s

/-- The PDU session status of a periodic update. -/
def periodicStatus (req : RegistrationRequest) : UInt16 :=
  match req.nasMessageContainer with
  | none => req.pduSessionStatus.getD 0
  | some nasMsg => (P.decode.registrationRequest nasMsg).pduSessionStatus.getD 0

/-- The identity of a Registration Request. -/
def handleMobileIdentity (r : ℕ) (ran : UInt32) (amf : UInt64) (identity : MobileIdentity)
    (s : N1State) : N1State :=
  match identity with
  | .suci none => s
  | .suci (some imsi) =>
    (s.modifyNc r fun nc => nc.storeImsi imsi).onMaps fun m =>
      ((m.setSupi2AmfId (imsiToSupi imsi) amf).setSupi2RanId (imsiToSupi imsi) ran).setSupi2NasContext
        (imsiToSupi imsi) r
  | .guti _ => s.modifyNc r NasContext.markGuti
  | .other => s

/-- The procedure a Registration Request asks for. -/
def runRequestedProcedure (r : ℕ) (ran : UInt32) (amf : UInt64) (req : RegistrationRequest)
    (s : N1State) : N1State :=
  if req.registrationType = kInitialRegistration then runRegistrationProcedure P E r s
  else if req.registrationType = kMobilityRegistrationUpdating then
    runMobilityRegistrationUpdateProcedure P E r s
  else if req.registrationType = kPeriodicRegistrationUpdating then
    runPeriodicRegistrationUpdateProcedure P E r (periodicStatus P req) s
  else if req.registrationType = kEmergencyRegistration ∧ !P.isEmergencySupport then
    sendRegistrationRejectMsg E k5gmmCauseIllegalUe ran amf s
  else s

/-- The context of a Registration Request before the procedure it asks for. -/
def registerRequest (r : ℕ) (ran : UInt32) (amf : UInt64) (snn : Str) (req : RegistrationRequest)
    (s : N1State) : N1State :=
  ((handleMobileIdentity r ran amf req.mobileIdentity s).onMaps fun m =>
      m.setAmfUeNgapId2NasContext amf r).modifyNc r fun nc =>
    nc.updateByRegistrationRequest ran amf snn req

/-- `amf_n1::registration_request_handle`. -/
def registrationRequestHandle (r : ℕ) (ran : UInt32) (amf : UInt64) (snn : Str) (reg : Bstring)
    (s : N1State) : N1State :=
  let req := P.decode.registrationRequest (reg.getD [])
  let s := (s.modifyNc r fun nc => nc.storeRegistrationRequest reg).observe (.registrationRequest r)
  if (E.ueContext ran amf).isNone then s
  else runRequestedProcedure P E r ran amf req (registerRequest r ran amf snn req s)

/-! ## Identity Response -/

/-- The context of an AMF UE NGAP ID, a new one where there is none. -/
def findOrCreateNc (amf : UInt64) (s : N1State) : N1State × ℕ :=
  match s.maps.amfueid2nasContext amf with
  | some r => (s, r)
  | none =>
    let (s, r) := s.newNc
    (s.onMaps fun m => m.setAmfUeNgapId2NasContext amf r, r)

/-- `amf_n1::identity_response_handle`. -/
def identityResponseHandle (ran : UInt32) (amf : UInt64) (plainMsg : Bstring) (s : N1State) : N1State :=
  let imsi := P.decode.identityResponse (plainMsg.getD [])
  let (s, r) := findOrCreateNc amf s
  let s := (s.modifyNc r fun nc => nc.updateByIdentityResponse ran amf imsi).onMaps fun m =>
    (m.setSupi2AmfId (imsiToSupi imsi) amf).setSupi2RanId (imsiToSupi imsi) ran
  if (s.nc r).toBeRegisterByNewSuci then
    runRegistrationProcedure P E r (s.modifyNc r fun nc => nc.setFivegmmState .commonProcedureInitiated)
  else s

/-! ## Security Mode Complete -/

/-- The statuses of the Registration Request in the container of a Security Mode Complete. -/
def containerStatus (container : Bstring) : SessionStatus :=
  if getNasMessageType container = kRegistrationRequest then
    let req := P.decode.registrationRequest (container.getD [])
    ⟨req.uplinkDataStatus, req.pduSessionStatus⟩
  else ⟨none, none⟩

/-- The state of a context becomes `_5GMM_REGISTERED`. -/
def markRegistered (r : ℕ) (s : N1State) : N1State :=
  (s.modifyNc r fun nc => nc.setFivegmmState .registered).observe (.registered r)

/-- The Registration Accept goes out and the context is registered. -/
def sendRegistrationAccept (uc : N1UeContext) (r : ℕ) (ran : UInt32) (amf : UInt64)
    (sessions : List UInt8) (nas : List UInt8) (s : N1State) : N1State :=
  let (s, protectedNas) := encodeProtected P E r false .integrityProtectedAndCiphered nas s
  if !uc.isUeContextRequest then markRegistered r (s.send (.dlNasTransport amf ran protectedNas))
  else
    match kgnb P (s.nc r) with
    | none => s
    | some k =>
      markRegistered r (s.send (.initialContextSetupRequest amf ran k protectedNas false sessions))

/-- The GUTI under which `security_mode_complete_handle` stores a context. -/
def allocatedGuti (mcc mnc : Str) (tmsi : UInt32) : Str :=
  tmsiToGuti mcc mnc P.regionId P.amfSetId P.amfPointer (tmsiToString tmsi)

/-- `amf_n1::security_mode_complete_handle`, with the message that it has encoded. -/
def securityModeCompleteReply (ran : UInt32) (amf : UInt64) (nasMsg : Bstring) (s : N1State) :
    N1State × Option DlNasMessage :=
  match E.ueContext ran amf, s.maps.amfueid2nasContext amf with
  | some uc, some r =>
    let st := containerStatus P (P.decode.securityModeComplete (nasMsg.getD []))
    match E.rerouteRegistrationRequest (s.nc r) with
    | (true, _) => (s, none)
    | (false, false) => (sendRegistrationRejectMsg E 7 ran amf s, some (.registrationReject 7))
    | (false, true) =>
      match E.generate5gGuti ran amf with
      | none => (s, none)
      | some (mcc, mnc, tmsi) =>
        let guti := allocatedGuti P mcc mnc tmsi
        let s := (s.onMaps fun m => m.setGuti2NasContext guti r).modifyNc r fun nc => nc.storeGuti guti
        if (s.nc r).securityCtx.isNone then (s, none)
        else
          let accept : DlNasMessage := .registrationAccept mcc mnc P.regionId P.amfSetId P.amfPointer tmsi
            (st.reactivationResult E) (st.answeredStatus E)
          match E.encode accept with
          | [] => (s, none)
          | nas => (sendRegistrationAccept P E uc r ran amf st.toBeActivated nas s, some accept)
  | _, _ => (s, none)

/-- The state after `amf_n1::security_mode_complete_handle`. -/
def securityModeCompleteHandle (ran : UInt32) (amf : UInt64) (nasMsg : Bstring) (s : N1State) :
    N1State :=
  (securityModeCompleteReply P E ran amf nasMsg s).1

/-! ## De-registration -/

/-- The clean-up of `ue_initiate_de_registration_handle`. -/
def deregister (r : ℕ) (ran : UInt32) (amf : UInt64) (guti : Str) (s : N1State) : N1State :=
  let s := s.modifyNc r fun nc => nc.setFivegmmState .deregistered
  let supi := (s.nc r).supi
  (s.onMaps fun m =>
      ((m.removeAmfUeNgapId2NasContext amf).removeSupi2NasContext supi).removeGuti2NasContext guti).send
    (.ueContextReleaseCommand amf ran)

/-- `amf_n1::ue_initiate_de_registration_handle`. -/
def ueInitiateDeRegistrationHandle (ran : UInt32) (amf : UInt64) (nas : Bstring) (s : N1State) :
    N1State :=
  match s.maps.amfueid2nasContext amf with
  | none => s
  | some r =>
    let req := P.decode.deregistrationRequest (nas.getD [])
    match E.ueContext (s.nc r).ranUeNgapId (s.nc r).amfUeNgapId with
    | none => s
    | some uc =>
      let s := E.pduSessions.foldl (fun s i => s.send (.pduSessionReleaseSmContext uc.supi i)) s
      if req.deregistrationType &&& kDeregistrationTypeMask = 0 then
        match E.encode .deregistrationAccept with
        | [] => s
        | accept =>
          deregister r ran amf req.guti (ittiSendDlNasBufferToTaskN2 (some accept) ran amf s)
      else deregister r ran amf req.guti s

end

end Oai5g.Amf
