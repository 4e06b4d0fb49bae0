import Oai5g.Amf.N1.Context
import Oai5g.Amf.Guti.Model

/-!
# What `amf_n1` receives, sends and asks for

* the contents of the uplink NAS messages, as far as a handler reads them, and the decoders
  (`NasDecoders`) as a parameter;
* the downlink NAS messages (`DlNasMessage`) and the ITTI messages `amf_n1` sends (`N1Out`);
* what is fixed for a run (`N1Params`), and what the other tasks, the AUSF, the UDM and the encoders
  answer while one message is handled (`N1Env`);
* the state (`N1State`) with a record of what happened (`N1Obs`), which no handler reads.

The slices, the DNN, the N2 SM information and the event notifications are left out.
-/

namespace Oai5g.Amf

/-! ## Message types and causes -/

/-- Message type: Registration Request. -/
def kRegistrationRequest : UInt8 := 0x41

/-- Message type: Registration Complete. -/
def kRegistrationComplete : UInt8 := 0x43

/-- Message type: De-registration Request of the UE. -/
def kDeregistrationRequestUeOriginating : UInt8 := 0x45

/-- Message type: Service Request. -/
def kServiceRequest : UInt8 := 0x4c

/-- Message type: Authentication Response. -/
def kAuthenticationResponse : UInt8 := 0x57

/-- Message type: Authentication Failure. -/
def kAuthenticationFailure : UInt8 := 0x59

/-- Message type: Identity Response. -/
def kIdentityResponse : UInt8 := 0x5c

/-- Message type: Security Mode Complete. -/
def kSecurityModeComplete : UInt8 := 0x5e

/-- Message type: Security Mode Reject. -/
def kSecurityModeReject : UInt8 := 0x5f

/-- Message type: UL NAS Transport. -/
def kUlNasTransport : UInt8 := 0x67

/-- 5GMM cause: illegal UE. -/
def k5gmmCauseIllegalUe : UInt8 := 3

/-- 5GMM cause: the network cannot derive the identity of the UE. -/
def k5gmmCauseUeIdentityCannotBeDerived : UInt8 := 9

/-- 5GMM cause: the UE finds SQN out of range. -/
def k5gmmCauseSynchFailure : UInt8 := 21

/-- 5GMM cause: the ngKSI is in use already. -/
def k5gmmCauseNgksiAlreadyInUse : UInt8 := 71

/-- 5GMM cause: a message that makes no sense. -/
def k5gmmCauseSemanticallyIncorrect : UInt8 := 95

/-- 5GMM cause: a mandatory IE is wrong or missing. -/
def k5gmmCauseInvalidMandatoryInfo : UInt8 := 96

/-- Registration type: initial. -/
def kInitialRegistration : UInt8 := 1

/-- Registration type: mobility updating. -/
def kMobilityRegistrationUpdating : UInt8 := 2

/-- Registration type: periodic updating. -/
def kPeriodicRegistrationUpdating : UInt8 := 3

/-- Registration type: emergency. -/
def kEmergencyRegistration : UInt8 := 4

/-- The ngKSI of a UE without a key. -/
def kNasKeySetIdentifierNotAvailable : UInt8 := 7

/-- The switch-off bit of the de-registration type. -/
def kDeregistrationTypeMask : UInt8 := 8

/-- The shortest NAS message. -/
def kNasMessageMinLength : ℕ := 3

/-- Request type: a new PDU session. -/
def kPduSessionInitialRequest : UInt8 := 1

/-- Request type: an existing PDU session. -/
def kExistingPduSession : UInt8 := 2

/-- Payload container type: N1 SM information. -/
def kN1SmInformation : UInt8 := 1

/-- The type distinguisher of the ciphering key. -/
def NAS_ENC_ALG : UInt8 := 1

/-- The type distinguisher of the integrity key. -/
def NAS_INT_ALG : UInt8 := 2

/-- `NGKSI_MAX_VALUE + 1`. -/
def ngksiModulus : ℕ := 7

/-- `amf_n1::get_nas_message_type`. -/
def getNasMessageType (msg : Bstring) : UInt8 :=
  match msg.getD [] with
  | _ :: _ :: t :: _ => t
  | _ => 0

/-! ## Uplink messages -/

/-- The identity of a Registration Request: `none` under `suci` is an identity without IMSI. -/
inductive MobileIdentity
  | suci (imsi : Option Str)
  | guti (guti : Str)
  | other
  deriving DecidableEq, Repr

/-- What the handlers read of a Registration Request. -/
structure RegistrationRequest where
  mobileIdentity : MobileIdentity
  registrationType : UInt8
  isFollowOnReq : Bool
  ngKsi : UInt8
  fivegmmCapability : Option UInt8
  ueSecurityCapability : Option UeSecurityCapability
  uplinkDataStatus : Option UInt16
  pduSessionStatus : Option UInt16
  nasMessageContainer : Bstring
  deriving DecidableEq, Repr

/-- `fivegSTmsi` is what `Get5gSTmsi` returns: set id, pointer and TMSI. -/
structure ServiceRequest where
  fivegSTmsi : Option (ℕ × ℕ × Str)
  uplinkDataStatus : Option UInt16
  pduSessionStatus : Option UInt16
  nasMessageContainer : Bstring
  deriving DecidableEq, Repr

/-- What the handler reads of an Authentication Failure. -/
structure AuthenticationFailure where
  fivegmmCause : UInt8
  authenticationFailureParameter : Bstring
  deriving DecidableEq, Repr

/-- What the handler reads of a De-registration Request. -/
structure DeregistrationRequest where
  deregistrationType : UInt8
  guti : Str
  deriving DecidableEq, Repr

/-- What the handler reads of an UL NAS Transport. -/
structure UlNasTransport where
  payloadContainerType : UInt8
  payloadContainer : Bstring
  pduSessionId : UInt8
  requestType : UInt8
  isSNssaiPresent : Bool
  deriving DecidableEq, Repr

/-- The decoders of `5gmm-msgs`, on the octets of a plain message. Only the handlers of a Service
Request look at the answer of `Decode`; an Authentication Response gives its RES*, an Identity Response
the IMSI, a Security Mode Complete the NAS message container. -/
structure NasDecoders where
  registrationRequest : List UInt8 → RegistrationRequest
  serviceRequest : List UInt8 → Bool × ServiceRequest
  authenticationResponse : List UInt8 → Bstring
  authenticationFailure : List UInt8 → AuthenticationFailure
  identityResponse : List UInt8 → Str
  securityModeComplete : List UInt8 → Bstring
  deregistrationRequest : List UInt8 → DeregistrationRequest
  ulNasTransport : List UInt8 → UlNasTransport

/-- `itti_uplink_nas_data_ind`; `guti` is there when `is_guti_valid` is set. -/
structure UplinkNasDataInd where
  amfUeNgapId : UInt64
  ranUeNgapId : UInt32
  isNasSignallingEstabReq : Bool
  nasMsg : List UInt8
  guti : Option Str
  mcc : Str
  mnc : Str
  deriving DecidableEq, Repr

/-- `itti_downlink_nas_transfer`; `n2sm` is there when `is_n2sm_set` is set and holds the information
type. -/
structure DownlinkNasTransfer where
  amfUeNgapId : UInt64
  ranUeNgapId : UInt32
  dlNas : List UInt8
  n2sm : Option Str
  pduSessionId : UInt8
  deriving DecidableEq, Repr

/-- `amf_conv::get_serving_network_name`. -/
def getServingNetworkName (mnc mcc : Str) : Str :=
  (if mnc.length = 2 then "5G:mnc0".toList else "5G:mnc".toList) ++ mnc ++ ".mcc".toList ++ mcc ++
    ".3gppnetwork.org".toList

/-! ## Downlink messages -/

/-- The plain downlink NAS messages. -/
inductive DlNasMessage
  | registrationReject (cause : UInt8)
  | identityRequest
  | authenticationRequest (ngksi : UInt8) (rand autn : List UInt8)
  | securityModeCommand (nea nia : Fin 16) (ngksi : UInt8) (capability : UeSecurityCapability)
  | registrationAccept (mcc mnc : Str) (regionId setId pointer : ℕ) (tmsi : UInt32)
      (pduSessionReactivationResult pduSessionStatus : Option UInt16)
  | serviceReject (cause : UInt8)
  | serviceAccept (pduSessionReactivationResult pduSessionStatus : Option UInt16)
  | deregistrationAccept
  deriving DecidableEq, Repr

/-- The ITTI messages to the tasks `amf_n2` and `amf_sbi`. -/
inductive N1Out
  | dlNasTransport (amf : UInt64) (ran : UInt32) (nas : Bstring)
  | initialContextSetupRequest (amf : UInt64) (ran : UInt32) (kgnb : List UInt8) (nas : Bstring)
      (isSr : Bool) (pduSessions : List UInt8)
  | pduSessionResourceSetupRequest (amf : UInt64) (ran : UInt32) (nas : Bstring)
      (pduSessions : List UInt8)
  | pduSessionResourceReleaseCommand (amf : UInt64) (ran : UInt32) (nas : Bstring) (session : UInt8)
  | pduSessionResourceModifyRequest (amf : UInt64) (ran : UInt32) (nas : Bstring) (session : UInt8)
  | ueContextReleaseCommand (amf : UInt64) (ran : UInt32)
  | pduSessionCreateSmContext (amf : UInt64) (ran : UInt32) (requestType session : UInt8)
      (smMsg : Bstring) (mcc mnc : Str)
  | pduSessionUpdateSmContext (amf : UInt64) (ran : UInt32) (session : UInt8) (n1sm : Bstring)
  | pduSessionReleaseSmContext (supi : Str) (session : UInt8)
  deriving DecidableEq, Repr

/-! ## Parameters and environment -/

/-- The part of `amf_cfg` that is read, and the functions taken as given. -/
structure N1Params where
  enableExternalAusfUdm : Bool
  isEmergencySupport : Bool
  preferedCipheringAlgorithm : List (Fin 16)
  preferedIntegrityAlgorithm : List (Fin 16)
  guamiMcc : Str
  guamiMnc : Str
  regionId : ℕ
  amfSetId : ℕ
  amfPointer : ℕ
  decode : NasDecoders
  alg : NasAlgorithms
  sha256 : List UInt8 → List UInt8
  deriveKamf : Str → List UInt8 → List UInt8
  deriveKnas : UInt8 → Fin 16 → List UInt8 → Key
  deriveKgnb : ℕ → List UInt8 → List UInt8

/-- `ue_context`, as far as `amf_n1` reads it. -/
structure N1UeContext where
  supi : Str
  mcc : Str
  mnc : Str
  tmsi : UInt32
  gnbId : UInt32
  isUeContextRequest : Bool
  deriving DecidableEq, Repr

/-- What the rest of the AMF and of the core answers while one message is handled. -/
structure N1Env where
  /-- An uninitialised stack buffer. -/
  stack : Memory
  /-- The heap behind a `bstring`. -/
  beyond : Memory
  /-- `amf_app::ran_amf_id_2_ue_context`. -/
  ueContext : UInt32 → UInt64 → Option N1UeContext
  /-- `amf_n2::ran_ue_id_2_ue_ngap_context`: whether there is one. -/
  isUeNgapContext : UInt32 → UInt32 → Bool
  /-- The vector generated in the AMF. -/
  localVector : NasContext → Option AuthVector
  /-- The vector of the AUSF: RAND, AUTN, HXRES* and the link for the confirmation. -/
  ausfVector : NasContext → Option (List UInt8 × List UInt8 × List UInt8 × Option Str)
  /-- The confirmation of the AUSF for a RES*: the key KSEAF. -/
  ausfConfirmation : NasContext → Bstring → Option (List UInt8)
  /-- `amf_n1::reroute_registration_request`: the answer and `reroute_result`. -/
  rerouteRegistrationRequest : NasContext → Bool × Bool
  /-- `amf_app::generate_5g_guti`. -/
  generate5gGuti : UInt32 → UInt64 → Option (Str × Str × UInt32)
  /-- The PDU sessions of a UE context. -/
  pduSessions : List UInt8
  /-- Whether the PDU session has N2 SM information. -/
  isN2smAvailable : UInt8 → Bool
  /-- `amf_app::find_pdu_session_context`, where a Modify Request needs it. -/
  isPduSessionContext : Str → UInt8 → Bool
  /-- Whether a slice for a new PDU session is found without one in the message. -/
  isSNssaiFound : Bool
  /-- The encoders of `5gmm-msgs`; `[]` is a failure. -/
  encode : DlNasMessage → List UInt8
  /-- Whether `send_msg` returns `0`. -/
  sendMsg : N1Out → Bool

/-! ## The state -/

/-- What happened, for the statements about runs. A received message is `passed` on without a
security context, or `accepted` under one: `nsc` then holds the COUNT of the message, and `verified` says
whether its MAC was compared. `downlink` is a call of `encode_nas_message_protected`. -/
inductive N1Obs
  | passed
  | accepted (r : ℕ) (nsc : NasSecuCtx) (verified : Bool)
  | dispatched (messageType : UInt8)
  | registrationRequest (r : ℕ)
  | authenticated (r : ℕ) (kamf : List UInt8)
  | installed (r : ℕ) (nsc : NasSecuCtx)
  | downlink (r : ℕ) (nsc : NasSecuCtx) (type : SecurityHeaderType)
  | registered (r : ℕ)
  deriving DecidableEq, Repr

/-- The state of `amf_n1`; the newest message sent and the newest observation come first. -/
structure N1State where
  maps : NasMaps
  sent : List N1Out
  trace : List N1Obs

namespace N1State

/-- `amf_n1::amf_n1`. -/
def init : N1State := { maps := .empty, sent := [], trace := [] }

/-- The context behind a pointer. -/
def nc (s : N1State) (r : ℕ) : NasContext := s.maps.nc r

/-- A write to the context of a pointer. -/
def modifyNc (s : N1State) (r : ℕ) (f : NasContext → NasContext) : N1State :=
  { s with maps := s.maps.modifyNc r f }

/-- A change of the maps only. -/
def onMaps (s : N1State) (f : NasMaps → NasMaps) : N1State := { s with maps := f s.maps }

/-- One more thing is sent. -/
def send (s : N1State) (o : N1Out) : N1State := { s with sent := o :: s.sent }

/-- One more thing is observed. -/
def observe (s : N1State) (o : N1Obs) : N1State := { s with trace := o :: s.trace }

/-- A new context. -/
def newNc (s : N1State) : N1State × ℕ :=
  let (ncs, r) := s.maps.ncs.alloc NasContext.new
  ({ s with maps := { s.maps with ncs := ncs } }, r)

end N1State

/-- `amf_n1::get_pdu_session_to_be_activated`: bit 8 stands for no session. -/
def getPduSessionToBeActivated (status : UInt16) : List UInt8 :=
  (List.range 16).filterMap fun i =>
    if status.toNat.testBit i then
      if i ≤ 7 then some (UInt8.ofNat (8 + i))
      else if 8 < i then some (UInt8.ofNat (i - 8))
      else none
    else none

/-- The bit of a PDU session in a status. -/
def pduSessionBit (pduSessionId : UInt8) : UInt16 :=
  if 0 < pduSessionId.toNat ∧ pduSessionId.toNat ≤ 7 then 1 <<< UInt16.ofNat (pduSessionId.toNat + 8)
  else if 7 < pduSessionId.toNat ∧ pduSessionId.toNat ≤ 15 then
    1 <<< UInt16.ofNat (pduSessionId.toNat - 8)
  else 0

/-- `amf_n1::set_pdu_session_status_inactive`. -/
def setPduSessionStatusInactive (status : UInt16) (pduSessionId : UInt8) : UInt16 :=
  status &&& ~~~ pduSessionBit pduSessionId

/-- `amf_n1::set_pdu_session_reactivation_result`. -/
def setPduSessionReactivationResult (result : UInt16) (pduSessionId : UInt8) : UInt16 :=
  result ||| pduSessionBit pduSessionId

/-- The statuses a handler has read, and what it makes of them: the sessions to be activated, the
reactivation result and the status of the answer. -/
structure SessionStatus where
  uplinkDataStatus : Option UInt16
  pduSessionStatus : Option UInt16
  deriving DecidableEq, Repr

namespace SessionStatus

variable (E : N1Env) (st : SessionStatus)

/-- The PSIs of the Uplink Data Status, or of the PDU Session Status where the former is missing. -/
def toBeActivated : List UInt8 :=
  match st.uplinkDataStatus, st.pduSessionStatus with
  | some u, _ => getPduSessionToBeActivated u
  | none, some p => getPduSessionToBeActivated p
  | none, none => []

/-- The reactivation result after the loop over the sessions. -/
def reactivationResult : Option UInt16 :=
  st.uplinkDataStatus.map fun _ =>
    (st.toBeActivated.filter fun i => !E.isN2smAvailable i).foldl setPduSessionReactivationResult 0

/-- The PDU Session Status after the loop over the sessions. -/
def answeredStatus : Option UInt16 :=
  st.pduSessionStatus.map fun p =>
    (st.toBeActivated.filter fun i => !E.isN2smAvailable i).foldl setPduSessionStatusInactive p

end SessionStatus

/-! ## An AMF whose parameters and neighbours answer nothing -/

/-- Decoders that find nothing. -/
def blankDecoders : NasDecoders :=
  { registrationRequest := fun _ => ⟨.other, 0, false, 0, none, none, none, none, none⟩
    serviceRequest := fun _ => (false, ⟨none, none, none, none⟩)
    authenticationResponse := fun _ => none
    authenticationFailure := fun _ => ⟨0, none⟩
    identityResponse := fun _ => []
    securityModeComplete := fun _ => none
    deregistrationRequest := fun _ => ⟨0, []⟩
    ulNasTransport := fun _ => ⟨0, none, 0, 0, false⟩ }

/-- An AMF in which no derived key and no MAC depends on anything. -/
def blankParams : N1Params :=
  { enableExternalAusfUdm := false, isEmergencySupport := false, preferedCipheringAlgorithm := [2],
    preferedIntegrityAlgorithm := [2], guamiMcc := "001".toList, guamiMnc := "01".toList, regionId := 1,
    amfSetId := 1, amfPointer := 1, decode := blankDecoders,
    alg := ⟨fun _ _ => 0, fun _ _ => 0, fun _ _ => 0, fun _ _ => 0⟩, sha256 := fun _ => [],
    deriveKamf := fun _ _ => [], deriveKnas := fun _ _ _ => 0, deriveKgnb := fun _ _ => [] }

/-- An AMF whose other tasks have no answer. -/
def blankEnv : N1Env :=
  { stack := fun _ => 0, beyond := fun _ => 0, ueContext := fun _ _ => none,
    isUeNgapContext := fun _ _ => false, localVector := fun _ => none, ausfVector := fun _ => none,
    ausfConfirmation := fun _ _ => none, rerouteRegistrationRequest := fun _ => (false, true),
    generate5gGuti := fun _ _ => none, pduSessions := [], isN2smAvailable := fun _ => false,
    isPduSessionContext := fun _ _ => false, isSNssaiFound := false, encode := fun _ => [],
    sendMsg := fun _ => true }

end Oai5g.Amf
