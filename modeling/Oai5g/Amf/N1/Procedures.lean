import Oai5g.Amf.N1.Messages

/-!
# Common procedures

Protecting a downlink message, the rejects, authentication vectors, the authentication procedure and the
security mode control procedure of `amf_n1`.
-/

namespace Oai5g.Amf

namespace NasContext

/-- The context with a security context. -/
def setSecurityCtx (nc : NasContext) (nsc : NasSecuCtx) : NasContext :=
  { nc with securityCtx := some nsc }

/-- `set_5gmm_state` -/
def setFivegmmState (nc : NasContext) (st : FivegmmState) : NasContext :=
  { nc with fivegmmState := st }

/-- An authentication is running, or no longer. -/
def setAuthenticationRunning (nc : NasContext) (b : Bool) : NasContext :=
  { nc with isCommonProcedureForAuthenticationRunning := b }

/-- A security mode control is running, or no longer. -/
def setSecurityModeControlRunning (nc : NasContext) (b : Bool) : NasContext :=
  { nc with isCommonProcedureForSecurityModeControlRunning := b }

/-- There are authentication vectors, or no longer. -/
def setAuthVectorsPresent (nc : NasContext) (b : Bool) : NasContext :=
  { nc with isAuthVectorsPresent := b }

/-- A registration is running. -/
def setRegistrationRunning (nc : NasContext) : NasContext :=
  { nc with isSpecificProcedureForRegistrationRunning := true }

/-- The AUTS of a synchronisation failure. -/
def setAuts (nc : NasContext) (auts : Bstring) : NasContext := { nc with auts := auts }

/-- The ngKSI after one that is in use already. -/
def nextNgksi (nc : NasContext) : NasContext :=
  { nc with ngksi := UInt8.ofNat ((nc.ngksi.toNat + 1) % ngksiModulus) }

/-- `amf_n1::check_nas_common_procedure_on_going`. -/
def checkNasCommonProcedureOnGoing (nc : NasContext) : Bool :=
  nc.isCommonProcedureForAuthenticationRunning || nc.isCommonProcedureForIdentificationRunning ||
    nc.isCommonProcedureForSecurityModeControlRunning || nc.isCommonProcedureForNasTransportRunning

/-- The context made by `handle_auth_vector_successful_result` where there is none, with its ngKSI. -/
def createSecurityCtx (nc : NasContext) : NasContext :=
  match nc.securityCtx with
  | some _ => nc
  | none =>
    { nc with
      securityCtx := some .zero
      ngksi := if nc.ngksi ≠ kNasKeySetIdentifierNotAvailable then
          UInt8.ofNat ((nc.amfUeNgapId + 1).toNat % ngksiModulus)
        else 0 }

/-- The ngKSI `run_registration_procedure` chooses. -/
def chooseNgksi (nc : NasContext) : NasContext :=
  { nc with
    ngksi := if nc.securityCtx.isSome ∧ nc.ngksi ≠ kNasKeySetIdentifierNotAvailable then
        (nc.amfUeNgapId + 1).toUInt8
      else 0 }

/-- What `get_authentication_vectors_from_ausf` stores. -/
def storeAusfVector (nc : NasContext) (rand autn hxresStar : List UInt8) (href : Option Str) :
    NasContext :=
  { nc with
    fivegAv := { nc.fivegAv with rand := rand, autn := autn, hxresStar := hxresStar }
    href := href.getD nc.href }

/-- What `auth_vectors_generator` stores without an AUSF. -/
def storeLocalVector (deriveKamf : Str → List UInt8 → List UInt8) (nc : NasContext) (av : AuthVector) :
    NasContext :=
  { nc with fivegAv := av, kamf := deriveKamf nc.imsi av.kseaf }

/-- What `_5g_aka_confirmation_from_ausf` stores. -/
def storeKseaf (deriveKamf : Str → List UInt8 → List UInt8) (nc : NasContext) (kseaf : List UInt8) :
    NasContext :=
  { nc with
    fivegAv := { nc.fivegAv with kseaf := kseaf }
    kamf := deriveKamf nc.imsi kseaf }

end NasContext

section

variable (P : N1Params) (E : N1Env)

/-- `amf_n1::encode_nas_message_protected` on the security context of `r`; its callers have looked that
there is one. -/
def encodeProtected (r : ℕ) (isNew : Bool) (type : SecurityHeaderType) (input : List UInt8)
    (s : N1State) : N1State × Bstring :=
  match (s.nc r).securityCtx with
  | none => (s, none)
  | some nsc =>
    match encodeNasMessageProtected P.alg E.stack E.beyond nsc isNew type input with
    | (nsc', none) => (s.modifyNc r fun nc => nc.setSecurityCtx nsc', none)
    | (nsc', some nas) =>
      ((s.modifyNc r fun nc => nc.setSecurityCtx nsc').observe (.downlink r nsc type), some nas)

/-- The key KgNB of a context; `none` when `get_kamf` fails. -/
def kgnb (nc : NasContext) : Option (List UInt8) :=
  nc.securityCtx.bind fun nsc => (nc.getKamf nsc.vectorPointer).map (P.deriveKgnb nsc.ulCount.value)

/-- `amf_n1::itti_send_dl_nas_buffer_to_task_n2`. -/
def ittiSendDlNasBufferToTaskN2 (nas : Bstring) (ran : UInt32) (amf : UInt64) (s : N1State) : N1State :=
  s.send (.dlNasTransport amf ran nas)

/-- `amf_n1::send_registration_reject_msg`. -/
def sendRegistrationRejectMsg (cause : UInt8) (ran : UInt32) (amf : UInt64) (s : N1State) : N1State :=
  match E.encode (.registrationReject cause) with
  | [] => s
  | nas => ittiSendDlNasBufferToTaskN2 (some nas) ran amf s

/-- `amf_n1::send_service_reject`. -/
def sendServiceReject (r : ℕ) (cause : UInt8) (s : N1State) : N1State :=
  match E.encode (.serviceReject cause) with
  | [] => s
  | nas =>
    let dnt : N1Out := .dlNasTransport (s.nc r).amfUeNgapId (s.nc r).ranUeNgapId (some nas)
    if E.sendMsg dnt then (s.send dnt).modifyNc r fun nc => nc.setFivegmmState .deregistered
    else s.send dnt

/-! ## Authentication -/

/-- `amf_n1::auth_vectors_generator`. -/
def authVectorsGenerator (r : ℕ) (s : N1State) : N1State × Bool :=
  if P.enableExternalAusfUdm then
    match E.ausfVector (s.nc r) with
    | none => (s, false)
    | some (rand, autn, hxresStar, href) =>
      (s.modifyNc r fun nc => nc.storeAusfVector rand autn hxresStar href, true)
  else
    match E.localVector (s.nc r) with
    | none => (s, false)
    | some av => (s.modifyNc r fun nc => nc.storeLocalVector P.deriveKamf av, true)

/-- `amf_n1::start_authentication_procedure`. -/
def startAuthenticationProcedure (r : ℕ) (s : N1State) : N1State × Bool :=
  let nc := s.nc r
  if nc.checkNasCommonProcedureOnGoing then
    (sendRegistrationRejectMsg E k5gmmCauseInvalidMandatoryInfo nc.ranUeNgapId nc.amfUeNgapId s, false)
  else
    let s := s.modifyNc r fun nc => nc.setAuthenticationRunning true
    match E.encode (.authenticationRequest nc.ngksi nc.fivegAv.rand nc.fivegAv.autn) with
    | [] => (s, false)
    | nas => (ittiSendDlNasBufferToTaskN2 (some nas) nc.ranUeNgapId nc.amfUeNgapId s, true)

/-- The end shared by the callers of `start_authentication_procedure`: a Registration Reject where it
answers `false`. -/
def startAuthenticationOrReject (r : ℕ) (s : N1State) : N1State :=
  match startAuthenticationProcedure E r s with
  | (s, true) => s
  | (s, false) =>
    sendRegistrationRejectMsg E k5gmmCauseInvalidMandatoryInfo (s.nc r).ranUeNgapId
      (s.nc r).amfUeNgapId s

/-- `amf_n1::handle_auth_vector_successful_result`. -/
def handleAuthVectorSuccessfulResult (r : ℕ) (s : N1State) : N1State :=
  startAuthenticationOrReject E r
    ((s.modifyNc r fun nc => nc.setAuthVectorsPresent true).modifyNc r NasContext.createSecurityCtx)

/-- `amf_n1::run_registration_procedure`. -/
def runRegistrationProcedure (r : ℕ) (s : N1State) : N1State :=
  if !(s.nc r).ctxAvaliabilityInd then s
  else
    let s := s.modifyNc r NasContext.setRegistrationRunning
    let nc := s.nc r
    if nc.isImsiPresent then
      if nc.isAuthVectorsPresent then
        handleAuthVectorSuccessfulResult E r (s.modifyNc r NasContext.chooseNgksi)
      else
        match authVectorsGenerator P E r s with
        | (s, true) => handleAuthVectorSuccessfulResult E r (s.modifyNc r NasContext.chooseNgksi)
        | (s, false) =>
          sendRegistrationRejectMsg E k5gmmCauseIllegalUe nc.ranUeNgapId nc.amfUeNgapId s
    else if nc.is5gGutiPresent then
      (s.modifyNc r fun nc => nc.setAuthVectorsPresent false).send
        (.dlNasTransport nc.amfUeNgapId nc.ranUeNgapId (some (E.encode .identityRequest)))
    else s

/-- The outcome of the check of an Authentication Response: the context may get a new KAMF. -/
def checkResStar (r : ℕ) (resStar : List UInt8) (s : N1State) : N1State × Bool :=
  let nc := s.nc r
  if P.enableExternalAusfUdm then
    match E.ausfConfirmation nc (some resStar) with
    | none => (s, false)
    | some kseaf => (s.modifyNc r fun nc => nc.storeKseaf P.deriveKamf kseaf, true)
  else
    (s, (P.sha256 (nc.fivegAv.rand ++ resStar)).take 16 == nc.fivegAv.hxresStar)

/-- `amf_n1::security_select_algorithms`: the first preferred algorithm the UE has, for ciphering or for
integrity. -/
def selectAlgorithm (prefered : List (Fin 16)) (capability : UInt8) : Fin 16 :=
  (prefered.find? fun i => capability.toNat &&& (0x80 >>> i.val) != 0).getD 0

/-- The new security context of `start_security_mode_control_procedure`. -/
def newSecurityCtx (nc : NasContext) (nsc : NasSecuCtx) : NasSecuCtx :=
  let nea := selectAlgorithm P.preferedCipheringAlgorithm nc.ueSecurityCapability.ea
  let nia := selectAlgorithm P.preferedIntegrityAlgorithm nc.ueSecurityCapability.ia
  { nsc with
    ngksi := nc.ngksi
    dlCount := ⟨0, 0⟩
    ulCount := ⟨0, 0⟩
    nasAlgs := ⟨nea, nia⟩
    scType := .fullNative
    knasInt := P.deriveKnas NAS_INT_ALG nia nc.kamf
    knasEnc := P.deriveKnas NAS_ENC_ALG nea nc.kamf }

/-- The security context becomes the current one. -/
def NasContext.installSecurityCtx (nc : NasContext) (nsc : NasSecuCtx) : NasContext :=
  { nc with securityCtx := some nsc, isCurrentSecurityAvailable := true }

/-- The Security Mode Command of a context, protected and sent. -/
def sendSecurityModeCommand (r : ℕ) (isNew : Bool) (nea nia : Fin 16) (s : N1State) : N1State :=
  let nc := s.nc r
  let (s, protectedNas) := encodeProtected P E r isNew .integrityProtectedWithNew5GNASSecurityContext
    (E.encode (.securityModeCommand nea nia (nc.ngksi &&& 7) nc.ueSecurityCapability)) s
  ittiSendDlNasBufferToTaskN2 protectedNas nc.ranUeNgapId nc.amfUeNgapId s

/-- `amf_n1::start_security_mode_control_procedure`. -/
def startSecurityModeControlProcedure (r : ℕ) (s : N1State) : N1State :=
  let s := s.modifyNc r fun nc => nc.setSecurityModeControlRunning true
  match (s.nc r).securityCtx with
  | none => s
  | some nsc =>
    if nsc.scType = .notAvailable then
      let nsc := newSecurityCtx P (s.nc r) nsc
      sendSecurityModeCommand P E r true nsc.nasAlgs.encryption nsc.nasAlgs.integrity
        ((s.modifyNc r fun nc => nc.installSecurityCtx nsc).observe (.installed r nsc))
    else sendSecurityModeCommand P E r false 0 0 s

/-- `amf_n1::authentication_response_handle`. Without a RES* `isAuthOk` keeps its first value `true`. -/
def authenticationResponseHandle (ran : UInt32) (amf : UInt64) (plainMsg : Bstring) (s : N1State) :
    N1State :=
  match s.maps.amfueid2nasContext amf with
  | none => sendRegistrationRejectMsg E k5gmmCauseIllegalUe ran amf s
  | some r =>
    let s := s.modifyNc r fun nc => nc.setAuthenticationRunning false
    match P.decode.authenticationResponse (plainMsg.getD []) with
    | none => startSecurityModeControlProcedure P E r s
    | some resStar =>
      match checkResStar P E r resStar s with
      | (s, true) =>
        startSecurityModeControlProcedure P E r (s.observe (.authenticated r (s.nc r).kamf))
      | (s, false) => sendRegistrationRejectMsg E k5gmmCauseIllegalUe ran amf s

/-- `amf_n1::authentication_failure_handle`. -/
def authenticationFailureHandle (ran : UInt32) (amf : UInt64) (plainMsg : Bstring) (s : N1State) :
    N1State :=
  match s.maps.amfueid2nasContext amf with
  | none => sendRegistrationRejectMsg E k5gmmCauseIllegalUe ran amf s
  | some r =>
    let s := s.modifyNc r fun nc => nc.setAuthenticationRunning false
    let failure := P.decode.authenticationFailure (plainMsg.getD [])
    if failure.fivegmmCause = k5gmmCauseSynchFailure then
      let s := s.modifyNc r fun nc => nc.setAuts failure.authenticationFailureParameter
      match authVectorsGenerator P E r s with
      | (s, true) => handleAuthVectorSuccessfulResult E r s
      | (s, false) =>
        sendRegistrationRejectMsg E k5gmmCauseIllegalUe (s.nc r).ranUeNgapId (s.nc r).amfUeNgapId s
    else if failure.fivegmmCause = k5gmmCauseNgksiAlreadyInUse then
      let s := s.modifyNc r NasContext.nextNgksi
      if (s.nc r).securityCtx.isNone then s else startAuthenticationOrReject E r s
    else s

end

end Oai5g.Amf
