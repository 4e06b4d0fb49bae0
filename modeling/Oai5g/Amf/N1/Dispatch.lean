import Oai5g.Amf.N1.Service

/-!
# Receiving an uplink NAS message

`amf_n1::handle_itti_message(itti_uplink_nas_data_ind&)`: the context is looked up (`findNasContext`),
the protection is taken off (`unprotectUplink`) and the message is dispatched (`dispatch`). A message that
gets as far as a handler is a `Delivery`; `deliver` is everything before.
-/

namespace Oai5g.Amf

/-- The rewriting of a context that is found by a GUTI. -/
def NasContext.moveTo (nc : NasContext) (guti : Str) (ran : UInt32) (amf : UInt64) : NasContext :=
  { nc with
    guti := some guti
    oldAmfUeNgapId := nc.amfUeNgapId
    oldRanUeNgapId := nc.ranUeNgapId
    amfUeNgapId := amf
    ranUeNgapId := ran }

/-- A context made by `nas_signalling_establishment_request_handle`. -/
def NasContext.connect (nc : NasContext) (ran : UInt32) (amf : UInt64) (snn : Str) : NasContext :=
  { nc with
    ctxAvaliabilityInd := false
    nasStatus := .connected
    amfUeNgapId := amf
    ranUeNgapId := ran
    servingNetwork := snn }

/-- The GUTI branch of `handle_itti_message`. -/
def moveToConnection (ind : UplinkNasDataInd) (guti : Str) (r : ℕ) (s : N1State) : N1State :=
  let s := s.modifyNc r fun nc => nc.moveTo guti ind.ranUeNgapId ind.amfUeNgapId
  let supi := (s.nc r).supi
  s.onMaps fun m =>
    (((m.setAmfUeNgapId2NasContext ind.amfUeNgapId r).setSupi2AmfId supi ind.amfUeNgapId).setSupi2RanId
      supi ind.ranUeNgapId).setSupi2NasContext supi r

/-- The context of a message: by the GUTI where there is one, else by the AMF UE NGAP ID. -/
def findNasContext (ind : UplinkNasDataInd) (s : N1State) : N1State × Option ℕ :=
  match ind.guti with
  | none => (s, s.maps.amfueid2nasContext ind.amfUeNgapId)
  | some guti =>
    match s.maps.guti2nasContext guti with
    | none => (s, none)
    | some r => (moveToConnection ind guti r s, some r)

/-- A message on its way to a handler: its context, its security header type, the plain message and
`ulCount`. -/
structure Delivery where
  nc : Option ℕ
  type : SecurityHeaderType
  plainMsg : Bstring
  ulCount : UInt8
  deriving DecidableEq, Repr

section

variable (P : N1Params) (E : N1Env)

/-- A context that is there and has a security context. -/
def securityCtxOf (nc : Option ℕ) (s : N1State) : Option (ℕ × NasSecuCtx) :=
  nc.bind fun r => (s.nc r).securityCtx.map fun nsc => (r, nsc)

/-- The octet that carries the sequence number. -/
def sequenceNumber (msg : List UInt8) : UInt8 := Memory.ofList msg E.beyond kSequenceNumberOctet

/-- Header type 1: no MAC is computed. -/
def passIntegrityProtected (nc : Option ℕ) (msg : List UInt8) (s : N1State) :
    N1State × Option Delivery :=
  let ulCount := sequenceNumber E msg
  let plainMsg := blk2bstr (Memory.ofList msg E.beyond) kHeaderLength (msg.length - kHeaderLength : ℤ)
  let s := match securityCtxOf nc s with
    | none => s.observe .passed
    | some (r, nsc) => s.observe (.accepted r (nsc.setUlSeqNum ulCount) false)
  (s, some ⟨nc, .integrityProtected, plainMsg, ulCount⟩)

/-- Header types 2 to 4. -/
def passProtected (type : SecurityHeaderType) (nc : Option ℕ) (msg : List UInt8) (s : N1State) :
    N1State × Option Delivery :=
  match securityCtxOf nc s with
  | none => (s, none)
  | some (r, nsc) =>
    match unprotectNasMessage P.alg E.beyond nsc .uplink msg with
    | (nsc', none) => (s.modifyNc r fun nc => nc.setSecurityCtx nsc', none)
    | (nsc', some u) =>
      ((s.modifyNc r fun nc => nc.setSecurityCtx nsc').observe (.accepted r nsc' u.isMatched),
        some ⟨nc, type, u.decodedPlainMsg, 0⟩)

/-- The protection of a message is taken off. -/
def unprotectUplink (nc : Option ℕ) (msg : List UInt8) (s : N1State) : N1State × Option Delivery :=
  match checkSecurityHeaderType msg with
  | none => (s, none)
  | some .plain5gsMessage => (s.observe .passed, some ⟨nc, .plain5gsMessage, some msg, 0⟩)
  | some .integrityProtected => passIntegrityProtected E nc msg s
  | some type => passProtected P E type nc msg s

/-- Everything before a message is dispatched. -/
def deliver (ind : UplinkNasDataInd) (s : N1State) : N1State × Option Delivery :=
  match findNasContext ind s with
  | (s, nc) => unprotectUplink P E nc ind.nasMsg s

/-- The context of an initial message: a new one where there is none. -/
def establishNc (ind : UplinkNasDataInd) (nc : Option ℕ) (s : N1State) : N1State × ℕ :=
  match nc with
  | some r => (s.onMaps fun m => m.setAmfUeNgapId2NasContext ind.amfUeNgapId r, r)
  | none =>
    let (s, r) := s.newNc
    ((s.onMaps fun m => m.setAmfUeNgapId2NasContext ind.amfUeNgapId r).modifyNc r fun nc =>
      nc.connect ind.ranUeNgapId ind.amfUeNgapId (getServingNetworkName ind.mnc ind.mcc), r)

/-- `amf_n1::nas_signalling_establishment_request_handle`. -/
def nasSignallingEstablishmentRequestHandle (ind : UplinkNasDataInd) (d : Delivery) (s : N1State) :
    N1State :=
  let ran := ind.ranUeNgapId
  let amf := ind.amfUeNgapId
  let (s, r) := establishNc ind d.nc s
  let messageType := getNasMessageType d.plainMsg
  if messageType = kRegistrationRequest then
    registrationRequestHandle P E r ran amf (getServingNetworkName ind.mnc ind.mcc) d.plainMsg
      (s.observe (.dispatched messageType))
  else if messageType = kServiceRequest then
    let s := s.observe (.dispatched messageType)
    serviceRequestHandleUlCount P E r ran amf d.plainMsg d.ulCount
      (s.modifyNc r fun nc => nc.mapSecurityCtx fun nsc => nsc.setUlSeqNum d.ulCount)
  else s

/-- The handlers of a context that is looked up by its AMF UE NGAP ID. -/
def withNc (amf : UInt64) (handle : ℕ → N1State → N1State) (s : N1State) : N1State :=
  match s.maps.amfueid2nasContext amf with
  | none => s
  | some r => handle r s

/-- `amf_n1::uplink_nas_msg_handle`. `security_mode_reject_handle` and `registration_complete_handle`
change nothing and send nothing. -/
def uplinkNasMsgHandle (ind : UplinkNasDataInd) (plainMsg : Bstring) (s : N1State) : N1State :=
  let ran := ind.ranUeNgapId
  let amf := ind.amfUeNgapId
  let messageType := getNasMessageType plainMsg
  let dispatched := s.observe (.dispatched messageType)
  if messageType = kAuthenticationResponse then
    authenticationResponseHandle P E ran amf plainMsg dispatched
  else if messageType = kAuthenticationFailure then
    authenticationFailureHandle P E ran amf plainMsg dispatched
  else if messageType = kSecurityModeComplete then
    securityModeCompleteHandle P E ran amf plainMsg dispatched
  else if messageType = kSecurityModeReject then dispatched
  else if messageType = kUlNasTransport then
    ulNasTransportHandle P E ran amf plainMsg ind.mcc ind.mnc dispatched
  else if messageType = kDeregistrationRequestUeOriginating then
    ueInitiateDeRegistrationHandle P E ran amf plainMsg dispatched
  else if messageType = kIdentityResponse then
    identityResponseHandle P E ran amf plainMsg dispatched
  else if messageType = kRegistrationComplete then dispatched
  else if messageType = kServiceRequest then
    withNc amf (fun r => serviceRequestHandle P E r ran amf plainMsg) dispatched
  else if messageType = kRegistrationRequest then
    withNc amf (fun r => registrationRequestHandle P E r ran amf
      (getServingNetworkName ind.mnc ind.mcc) plainMsg) dispatched
  else s

theorem withNc_cases {motive : N1State → Prop} {amf : UInt64} {handle : ℕ → N1State → N1State} {s : N1State}
    (known : ∀ r, s.maps.amfueid2nasContext amf = some r → motive (handle r s)) (unknown : motive s) :
    motive (withNc amf handle s) := by
  unfold withNc
  split
  · exact unknown
  · next r hmap => exact known r hmap

/-- **What a dispatched message can do**, by its type. -/
theorem uplinkNasMsgHandle_cases {motive : N1State → Prop} {ind : UplinkNasDataInd} {plainMsg : Bstring}
    {s s₀ : N1State} (hs₀ : s₀ = s.observe (.dispatched (getNasMessageType plainMsg)))
    (authenticationResponse : getNasMessageType plainMsg = kAuthenticationResponse →
      motive (authenticationResponseHandle P E ind.ranUeNgapId ind.amfUeNgapId plainMsg s₀))
    (authenticationFailure :
      motive (authenticationFailureHandle P E ind.ranUeNgapId ind.amfUeNgapId plainMsg s₀))
    (securityModeComplete : getNasMessageType plainMsg = kSecurityModeComplete →
      motive (securityModeCompleteHandle P E ind.ranUeNgapId ind.amfUeNgapId plainMsg s₀))
    (ulNasTransport :
      motive (ulNasTransportHandle P E ind.ranUeNgapId ind.amfUeNgapId plainMsg ind.mcc ind.mnc s₀))
    (deregistrationRequest :
      motive (ueInitiateDeRegistrationHandle P E ind.ranUeNgapId ind.amfUeNgapId plainMsg s₀))
    (identityResponse : getNasMessageType plainMsg = kIdentityResponse →
      motive (identityResponseHandle P E ind.ranUeNgapId ind.amfUeNgapId plainMsg s₀))
    (serviceRequest : ∀ r, s₀.maps.amfueid2nasContext ind.amfUeNgapId = some r →
      motive (serviceRequestHandle P E r ind.ranUeNgapId ind.amfUeNgapId plainMsg s₀))
    (registrationRequest : getNasMessageType plainMsg = kRegistrationRequest →
      ∀ r, s₀.maps.amfueid2nasContext ind.amfUeNgapId = some r →
        motive (registrationRequestHandle P E r ind.ranUeNgapId ind.amfUeNgapId
          (getServingNetworkName ind.mnc ind.mcc) plainMsg s₀))
    (dispatched : motive s₀)
    (other : getNasMessageType plainMsg ∉ [kAuthenticationResponse, kAuthenticationFailure,
      kSecurityModeComplete, kSecurityModeReject, kUlNasTransport, kDeregistrationRequestUeOriginating,
      kIdentityResponse, kRegistrationComplete, kServiceRequest, kRegistrationRequest] → motive s) :
    motive (uplinkNasMsgHandle P E ind plainMsg s) := by
  subst hs₀
  unfold uplinkNasMsgHandle
  refine iteInduction authenticationResponse fun h₁ => ?_
  refine iteInduction (fun _ => authenticationFailure) fun h₂ => ?_
  refine iteInduction securityModeComplete fun h₃ => ?_
  refine iteInduction (fun _ => dispatched) fun h₄ => ?_
  refine iteInduction (fun _ => ulNasTransport) fun h₅ => ?_
  refine iteInduction (fun _ => deregistrationRequest) fun h₆ => ?_
  refine iteInduction identityResponse fun h₇ => ?_
  refine iteInduction (fun _ => dispatched) fun h₈ => ?_
  refine iteInduction (fun _ => withNc_cases serviceRequest dispatched) fun h₉ => ?_
  refine iteInduction (fun h => withNc_cases (registrationRequest h) dispatched) fun h₁₀ => other ?_
  simp only [List.mem_cons, List.not_mem_nil, h₁, h₂, h₃, h₄, h₅, h₆, h₇, h₈, h₉, h₁₀, or_false,
    not_false_eq_true]

/-- The handler of a delivered message. -/
def dispatch (ind : UplinkNasDataInd) (d : Delivery) (s : N1State) : N1State :=
  if ind.isNasSignallingEstabReq then nasSignallingEstablishmentRequestHandle P E ind d s
  else uplinkNasMsgHandle P E ind d.plainMsg s

/-- `amf_n1::handle_itti_message(itti_uplink_nas_data_ind&)`. -/
def handleUplinkNasDataInd (ind : UplinkNasDataInd) (s : N1State) : N1State :=
  match deliver P E ind s with
  | (s, none) => s
  | (s, some d) => dispatch P E ind d s

end

/-- An ITTI message to `amf_n1`, with what the others answer while it is handled. -/
inductive N1Event
  | uplinkNasDataInd (ind : UplinkNasDataInd) (env : N1Env)
  | downlinkNasTransfer (msg : DownlinkNasTransfer) (env : N1Env)

/-- **One message to `amf_n1`.** -/
def n1Step (P : N1Params) (s : N1State) : N1Event → N1State
  | .uplinkNasDataInd ind env => handleUplinkNasDataInd P env ind s
  | .downlinkNasTransfer msg env => handleDownlinkNasTransfer P env msg s

end Oai5g.Amf
