import Oai5g.Amf.N1.Steps

/-!
# Messages that are not authentic

A message with a MAC that does not verify under the context it is for should change nothing.

* The record of a run only grows (`dispatch_suffix`), so a dispatched message leaves its mark.
* `moveToConnection_setSecurityCtx_iff`: when the GUTI branch changes nothing (`AtHome`).
* **`unauthentic_unchanged_iff`**: exactly when such a message changes nothing.
-/

namespace Oai5g.Amf

/-! ## The record only grows -/

section

variable {r : ℕ} {s s' : N1State}

theorem Touch.suffix (h : Touch r s s') : s.trace <:+ s'.trace := by
  rw [h.trace]

theorem Answers.suffix (h : Answers r s s') : s.trace <:+ s'.trace := by
  rcases h with h | ⟨nsc, s₁, -, h, h'⟩
  · exact h.suffix
  · exact (h.suffix.trans (List.suffix_cons _ _)).trans h'.suffix

end

section

variable (P : N1Params) (E : N1Env) (r : ℕ) (s : N1State) (ran : UInt32) (amf : UInt64)

theorem registrationRequestHandle_suffix (snn : Str) (reg : Bstring) :
    s.trace <:+ (registrationRequestHandle P E r ran amf snn reg s).trace := by
  have h : s.trace <:+ (receiveRequest r reg s).trace := List.suffix_cons _ _
  rcases registrationRequestHandle_cases P E r s ran amf snn reg with ⟨-, h'⟩ | ⟨-, h'⟩
  · rw [h']
    exact h
  · refine h.trans (List.IsSuffix.trans ?_ h'.suffix)
    unfold registerRequest handleMobileIdentity
    split <;> exact List.suffix_rfl

theorem startSecurityModeControlProcedure_suffix :
    s.trace <:+ (startSecurityModeControlProcedure P E r s).trace := by
  rcases startSecurityModeControlProcedure_cases P E r s with ⟨-, h⟩ | ⟨nsc, -, -, h⟩ | ⟨nsc, -, -, h⟩
  · rw [h]
    exact List.suffix_rfl
  · exact h.suffix
  · exact ((List.suffix_cons _ _).trans (List.suffix_cons _ _)).trans h.suffix

theorem authenticationResponseHandle_suffix (plainMsg : Bstring) :
    s.trace <:+ (authenticationResponseHandle P E ran amf plainMsg s).trace := by
  unfold authenticationResponseHandle
  split
  · exact (sendRegistrationRejectMsg_touch E 0 s _ _ _).suffix
  · rename_i r _
    dsimp only
    split
    · refine List.IsSuffix.trans ?_ (startSecurityModeControlProcedure_suffix P E r _)
      exact List.suffix_rfl
    · rename_i resStar _
      have h : s.trace <:+ (checkResStar P E r resStar
          (s.modifyNc r fun nc => nc.setAuthenticationRunning false)).1.trace := by
        unfold checkResStar
        dsimp only
        split_ifs
        · split <;> exact List.suffix_rfl
        · exact List.suffix_rfl
      split <;> rename_i s' heq <;> rw [heq] at h
      · refine List.IsSuffix.trans ?_ (startSecurityModeControlProcedure_suffix P E r _)
        exact h.trans (List.suffix_cons _ _)
      · exact h.trans (sendRegistrationRejectMsg_touch E r s' _ _ _).suffix

theorem securityModeCompleteHandle_suffix (nasMsg : Bstring) :
    s.trace <:+ (securityModeCompleteHandle P E ran amf nasMsg s).trace := by
  rcases securityModeCompleteHandle_cases P E s ran amf nasMsg with
    h | ⟨r, guti, s₁, -, h, h' | ⟨-, h'⟩⟩
  · exact (h 0).suffix
  · rw [h']
    exact h.suffix
  · rw [h']
    exact h.suffix.trans (List.suffix_cons _ _)

theorem findOrCreateNc_trace : (findOrCreateNc amf s).1.trace = s.trace := by
  unfold findOrCreateNc
  split <;> rfl

theorem continueServiceRequest_suffix (decoded : Bool) (req : ServiceRequest) :
    s.trace <:+ (continueServiceRequest P E r ran amf decoded req s).trace := by
  rcases continueServiceRequest_answers P E r s ran amf decoded req with ⟨-, h⟩ | ⟨-, h⟩
  · exact h.suffix
  · exact h.suffix

theorem serviceRequestHandleUlCount_suffix (nas : Bstring) (ulCount : UInt8) :
    s.trace <:+ (serviceRequestHandleUlCount P E r ran amf nas ulCount s).trace := by
  rcases serviceRequestHandleUlCount_cases P E r s ran amf nas ulCount with
    h | ⟨-, d, req, -, -, -, h⟩ | ⟨-, d, req, old, nsc, -, -, -, -, h⟩ <;> rw [h]
  · exact continueServiceRequest_suffix P E r s ran amf d req
  · refine List.IsSuffix.trans ?_ (continueServiceRequest_suffix P E r _ ran amf d req)
    exact (List.suffix_cons _ _).trans (List.suffix_cons _ _)

end

/-- The types of the messages that have a handler. -/
def dispatchedTypes (isNasSignallingEstabReq : Bool) : List UInt8 :=
  if isNasSignallingEstabReq then [kRegistrationRequest, kServiceRequest]
  else [kAuthenticationResponse, kAuthenticationFailure, kSecurityModeComplete, kSecurityModeReject,
    kUlNasTransport, kDeregistrationRequestUeOriginating, kIdentityResponse, kRegistrationComplete,
    kServiceRequest, kRegistrationRequest]

section

variable (P : N1Params) (E : N1Env) (ind : UplinkNasDataInd) (s : N1State)

theorem uplinkNasMsgHandle_suffix (plainMsg : Bstring)
    (h : getNasMessageType plainMsg ∈ dispatchedTypes false) :
    (.dispatched (getNasMessageType plainMsg) :: s.trace) <:+
      (uplinkNasMsgHandle P E ind plainMsg s).trace := by
  change (s.observe (.dispatched (getNasMessageType plainMsg))).trace <:+ _
  refine uplinkNasMsgHandle_cases P E
    (motive := fun s' => (s.observe (.dispatched (getNasMessageType plainMsg))).trace <:+ s'.trace) rfl
    ?response ?failure ?complete ?transport ?deregistration ?identity ?service ?registration
    List.suffix_rfl fun hother => absurd h hother
  case response => exact fun _ => authenticationResponseHandle_suffix P E _ _ _ _
  case failure => exact (authenticationFailureHandle_touch P E _ _ _ _).choose_spec.suffix
  case complete => exact fun _ => securityModeCompleteHandle_suffix P E _ _ _ _
  case transport => exact (ulNasTransportHandle_touch P E 0 _ _ _ _ _ _).suffix
  case deregistration =>
    rcases ueInitiateDeRegistrationHandle_cases P E (s.observe (.dispatched (getNasMessageType plainMsg)))
      ind.ranUeNgapId ind.amfUeNgapId plainMsg with ⟨-, h⟩ | ⟨r, -, -, h⟩
    · exact (h 0).suffix
    · exact h.suffix
  case identity =>
    intro _
    have h := (identityResponseHandle_touch P E (s.observe (.dispatched (getNasMessageType plainMsg)))
      ind.ranUeNgapId ind.amfUeNgapId plainMsg).suffix
    rwa [N1State.onMaps_trace, N1State.modifyNc_trace, findOrCreateNc_trace] at h
  case service =>
    intro r _
    rcases serviceRequestHandle_answers P E r (s.observe (.dispatched (getNasMessageType plainMsg)))
      ind.ranUeNgapId ind.amfUeNgapId plainMsg with h | h
    · exact h.suffix
    · exact h.suffix
  case registration => exact fun _ r _ => registrationRequestHandle_suffix P E r _ _ _ _ _

@[simp] theorem establishNc_trace (nc : Option ℕ) : (establishNc ind nc s).1.trace = s.trace := by
  unfold establishNc
  split <;> rfl

theorem nasSignallingEstablishmentRequestHandle_suffix (d : Delivery)
    (h : getNasMessageType d.plainMsg ∈ dispatchedTypes true) :
    (.dispatched (getNasMessageType d.plainMsg) :: s.trace) <:+
      (nasSignallingEstablishmentRequestHandle P E ind d s).trace := by
  have hs := establishNc_trace ind s d.nc
  unfold nasSignallingEstablishmentRequestHandle
  dsimp only
  split_ifs
  · rw [← hs]
    exact registrationRequestHandle_suffix P E _
      ((establishNc ind d.nc s).1.observe (.dispatched (getNasMessageType d.plainMsg))) _ _ _ _
  · rw [← hs]
    exact serviceRequestHandleUlCount_suffix P E _
      (((establishNc ind d.nc s).1.observe (.dispatched (getNasMessageType d.plainMsg))).modifyNc _ _)
      _ _ _ _
  · simp_all [dispatchedTypes]

/-- **A message that has a handler leaves its mark.** -/
theorem dispatch_suffix (d : Delivery)
    (h : getNasMessageType d.plainMsg ∈ dispatchedTypes ind.isNasSignallingEstabReq) :
    (.dispatched (getNasMessageType d.plainMsg) :: s.trace) <:+ (dispatch P E ind d s).trace := by
  unfold dispatch
  split_ifs with hi <;> simp only [hi] at h
  · exact nasSignallingEstablishmentRequestHandle_suffix P E ind s d h
  · exact uplinkNasMsgHandle_suffix P E ind s d.plainMsg h

/-- A message without a handler changes at most the map from AMF UE NGAP IDs. -/
theorem dispatch_of_notMem (d : Delivery)
    (h : getNasMessageType d.plainMsg ∉ dispatchedTypes ind.isNasSignallingEstabReq) :
    dispatch P E ind d s = if ind.isNasSignallingEstabReq then (establishNc ind d.nc s).1 else s := by
  unfold dispatch
  split_ifs with hi <;> simp only [hi] at h
  · simp only [dispatchedTypes, if_true, List.mem_cons, List.not_mem_nil, or_false, not_or] at h
    simp only [nasSignallingEstablishmentRequestHandle, h, if_false]
  · simp only [dispatchedTypes, Bool.false_eq_true, if_false, List.mem_cons, List.not_mem_nil, or_false,
      not_or] at h
    simp only [uplinkNasMsgHandle, h, if_false]

end

/-! ## The GUTI branch -/

/-- The context of a message, before anything is written. -/
def contextOf (ind : UplinkNasDataInd) (s : N1State) : Option ℕ :=
  match ind.guti with
  | none => s.maps.amfueid2nasContext ind.amfUeNgapId
  | some guti => s.maps.guti2nasContext guti

/-- The context `r` has the GUTI, the connection and the map entries that the GUTI branch writes. -/
structure AtHome (ind : UplinkNasDataInd) (guti : Str) (r : ℕ) (s : N1State) : Prop where
  guti : (s.nc r).guti = some guti
  amfUeNgapId : (s.nc r).amfUeNgapId = ind.amfUeNgapId
  ranUeNgapId : (s.nc r).ranUeNgapId = ind.ranUeNgapId
  oldAmfUeNgapId : (s.nc r).oldAmfUeNgapId = ind.amfUeNgapId
  oldRanUeNgapId : (s.nc r).oldRanUeNgapId = ind.ranUeNgapId
  amfueid2nasContext : s.maps.amfueid2nasContext ind.amfUeNgapId = some r
  supi2amfId : s.maps.supi2amfId (s.nc r).supi = some ind.amfUeNgapId
  supi2ranId : s.maps.supi2ranId (s.nc r).supi = some ind.ranUeNgapId
  supi2nasContext : s.maps.supi2nasContext (s.nc r).supi = some r

section

variable (ind : UplinkNasDataInd) (guti : Str) (r : ℕ) (s : N1State)

theorem moveToConnection_nc_self :
    (moveToConnection ind guti r s).nc r =
      (s.nc r).moveTo guti ind.ranUeNgapId ind.amfUeNgapId :=
  s.modifyNc_nc_self r fun nc => nc.moveTo guti ind.ranUeNgapId ind.amfUeNgapId

theorem moveToConnection_securityCtx :
    ((moveToConnection ind guti r s).nc r).securityCtx = (s.nc r).securityCtx := by
  rw [moveToConnection_nc_self]
  rfl

theorem moveToConnection_maps :
    (moveToConnection ind guti r s).maps =
      { ncs := s.maps.ncs.modify r fun nc => nc.moveTo guti ind.ranUeNgapId ind.amfUeNgapId
        amfueid2nasContext := Function.update s.maps.amfueid2nasContext ind.amfUeNgapId (some r)
        guti2nasContext := s.maps.guti2nasContext
        supi2nasContext := Function.update s.maps.supi2nasContext (s.nc r).supi (some r)
        supi2amfId := Function.update s.maps.supi2amfId (s.nc r).supi (some ind.amfUeNgapId)
        supi2ranId := Function.update s.maps.supi2ranId (s.nc r).supi (some ind.ranUeNgapId) } := by
  have hsupi : ((s.modifyNc r fun nc => nc.moveTo guti ind.ranUeNgapId ind.amfUeNgapId).nc r).supi =
      (s.nc r).supi := by
    rw [N1State.modifyNc_nc_self]
    rfl
  unfold moveToConnection
  dsimp only
  rw [hsupi]
  rfl

variable {ind guti r s}

/-- **When the GUTI branch and a change of the security context leave the maps as they were.** -/
theorem moveToConnection_setSecurityCtx_iff (nsc : NasSecuCtx) :
    ((moveToConnection ind guti r s).modifyNc r fun nc => nc.setSecurityCtx nsc).maps = s.maps ↔
      AtHome ind guti r s ∧ (s.nc r).securityCtx = some nsc := by
  constructor
  · intro h
    have hnc : ((s.nc r).moveTo guti ind.ranUeNgapId ind.amfUeNgapId).setSecurityCtx nsc = s.nc r := by
      have := congrArg (fun m => NasMaps.nc m r) h
      rw [← moveToConnection_nc_self]
      exact (N1State.modifyNc_nc_self _ _ _).symm.trans this
    have hmap : ∀ {α β : Type} [DecidableEq α] (f : α → Option β) (a : α) (b : β),
        Function.update f a (some b) = f → f a = some b := by
      intro α β _ f a b hf
      rw [← hf, Function.update_self]
    rw [N1State.modifyNc_maps, moveToConnection_maps] at h
    refine ⟨⟨?_, ?_, ?_, ?_, ?_, ?_, ?_, ?_, ?_⟩, ?_⟩
    · exact (congrArg NasContext.guti hnc).symm
    · exact (congrArg NasContext.amfUeNgapId hnc).symm
    · exact (congrArg NasContext.ranUeNgapId hnc).symm
    · exact (congrArg NasContext.oldAmfUeNgapId hnc).symm.trans
        (congrArg NasContext.amfUeNgapId hnc).symm
    · exact (congrArg NasContext.oldRanUeNgapId hnc).symm.trans
        (congrArg NasContext.ranUeNgapId hnc).symm
    · exact hmap _ _ _ (congrArg NasMaps.amfueid2nasContext h)
    · exact hmap _ _ _ (congrArg NasMaps.supi2amfId h)
    · exact hmap _ _ _ (congrArg NasMaps.supi2ranId h)
    · exact hmap _ _ _ (congrArg NasMaps.supi2nasContext h)
    · exact (congrArg NasContext.securityCtx hnc).symm
  · rintro ⟨h, hctx⟩
    have hnc : ((s.nc r).moveTo guti ind.ranUeNgapId ind.amfUeNgapId).setSecurityCtx nsc = s.nc r := by
      have h₁ := h.guti
      have h₂ := h.amfUeNgapId
      have h₃ := h.ranUeNgapId
      have h₄ := h.oldAmfUeNgapId
      have h₅ := h.oldRanUeNgapId
      revert hctx h₁ h₂ h₃ h₄ h₅
      generalize s.nc r = nc
      cases nc
      rintro rfl rfl rfl rfl rfl rfl
      rfl
    have hmap : ∀ {α β : Type} [DecidableEq α] {f : α → Option β} {a : α} {b : β},
        f a = some b → Function.update f a (some b) = f := by
      intro α β _ f a b hf
      rw [← hf, Function.update_eq_self]
    rw [N1State.modifyNc_maps, moveToConnection_maps, hmap h.amfueid2nasContext, hmap h.supi2amfId,
      hmap h.supi2ranId, hmap h.supi2nasContext]
    have hcell : ((s.maps.ncs.modify r fun nc =>
        nc.moveTo guti ind.ranUeNgapId ind.amfUeNgapId).modify r fun nc => nc.setSecurityCtx nsc) =
          s.maps.ncs := by
      refine Heap.ext ?_ rfl
      funext q
      by_cases hq : q = r
      · subst hq
        rw [Heap.modify_cell_self, Heap.modify_cell_self]
        exact hnc
      · rw [Heap.modify_cell_of_ne _ _ _ hq, Heap.modify_cell_of_ne _ _ _ hq]
    exact NasMaps.ext hcell rfl rfl rfl rfl rfl

theorem modifyNc_setSecurityCtx_self {nsc : NasSecuCtx} (h : (s.nc r).securityCtx = some nsc) :
    s.modifyNc r (fun nc => nc.setSecurityCtx nsc) = s := by
  have hnc : (s.nc r).setSecurityCtx nsc = s.nc r := by
    unfold NasContext.setSecurityCtx
    rw [← h]
  unfold N1State.modifyNc NasMaps.modifyNc
  rw [Heap.modify_id_of_eq _ _ _ hnc]

end

/-! ## The law -/

/-- The MAC of a message verifies under a security context. -/
def MacVerifies (alg : NasAlgorithms) (beyond : Memory) (nsc : NasSecuCtx) (msg : List UInt8) : Prop :=
  (nasMessageIntegrityProtected alg nsc .uplink (Memory.ofList msg beyond) kSequenceNumberOctet
    (msg.length - kSequenceNumberOctet : ℤ) 0).2 = some (receivedMac (Memory.ofList msg beyond))

/-- The messages that reached a handler. -/
def dispatchedOf (trace : List N1Obs) : List UInt8 :=
  trace.filterMap fun
    | .dispatched t => some t
    | _ => none

/-- **Nothing has changed**: the contexts and the maps, the messages sent, the messages dispatched. -/
structure Unchanged (s s' : N1State) : Prop where
  maps : s'.maps = s.maps
  sent : s'.sent = s.sent
  dispatched : dispatchedOf s'.trace = dispatchedOf s.trace

/-- The GUTI branch, where it is taken, changes nothing. -/
def GutiBranchIdle (ind : UplinkNasDataInd) (r : ℕ) (s : N1State) : Prop :=
  ∀ guti, ind.guti = some guti → AtHome ind guti r s

/-- The octets that header type 1 passes on without a look at the MAC. -/
def unverifiedPayload (E : N1Env) (msg : List UInt8) : Bstring :=
  blk2bstr (Memory.ofList msg E.beyond) kHeaderLength (msg.length - kHeaderLength : ℤ)

section

variable {P : N1Params} {E : N1Env} {ind : UplinkNasDataInd} {s : N1State} {r : ℕ} {nsc : NasSecuCtx}

theorem dispatchedOf_ne {t : UInt8} {a b : List N1Obs} (h : (.dispatched t :: a) <:+ b) :
    dispatchedOf b ≠ dispatchedOf a := by
  intro heq
  have hlen := (h.filterMap fun
    | .dispatched t => some t
    | _ => none).length_le
  change (t :: dispatchedOf a).length ≤ (dispatchedOf b).length at hlen
  rw [heq, List.length_cons] at hlen
  omega

theorem findNasContext_spec (hr : contextOf ind s = some r) (hctx : (s.nc r).securityCtx = some nsc) :
    ∃ s₀, findNasContext ind s = (s₀, some r) ∧ s₀.trace = s.trace ∧ s₀.sent = s.sent ∧
      (s₀.nc r).securityCtx = some nsc ∧ s₀.maps.amfueid2nasContext ind.amfUeNgapId = some r ∧
      ∀ c, (s₀.modifyNc r fun nc => nc.setSecurityCtx c).maps = s.maps ↔
        GutiBranchIdle ind r s ∧ c = nsc := by
  unfold contextOf at hr
  cases hg : ind.guti with
  | none =>
    simp only [hg] at hr
    refine ⟨s, by simp [findNasContext, hg, hr], rfl, rfl, hctx, hr, fun c => ?_⟩
    simp only [GutiBranchIdle, hg, reduceCtorEq, false_implies, implies_true, true_and]
    constructor
    · intro h
      have hc := congrArg (fun m => (NasMaps.nc m r).securityCtx) h
      have hself := congrArg NasContext.securityCtx
        (N1State.modifyNc_nc_self s r fun nc => nc.setSecurityCtx c)
      exact Option.some_injective _ (hself.symm.trans (hc.trans hctx))
    · rintro rfl
      rw [modifyNc_setSecurityCtx_self hctx]
  | some guti =>
    simp only [hg] at hr
    refine ⟨moveToConnection ind guti r s, by simp [findNasContext, hg, hr], rfl, rfl,
      (moveToConnection_securityCtx ..).trans hctx, ?_, fun c => ?_⟩
    · rw [moveToConnection_maps]
      exact Function.update_self ..
    · rw [moveToConnection_setSecurityCtx_iff, hctx]
      simp only [GutiBranchIdle, hg, Option.some.injEq, forall_eq', eq_comm]

/-- A MAC that does not verify stops the message, but the sequence number is stored. -/
theorem unprotectNasMessage_of_not_verifies {alg : NasAlgorithms} {beyond : Memory} {msg : List UInt8}
    (hi : nsc.nasAlgs.integrity ≠ 0) (hm : ¬ MacVerifies alg beyond nsc msg) :
    unprotectNasMessage alg beyond nsc .uplink msg =
      (nsc.setUlSeqNum (Memory.ofList msg beyond kSequenceNumberOctet), none) := by
  have h₁ := @nasMessageIntegrityProtected_uplink alg nsc (Memory.ofList msg beyond)
    kSequenceNumberOctet (msg.length - kSequenceNumberOctet : ℤ) 0
  have h₂ := mt (@nasMessageIntegrityProtected_eq_none_iff alg nsc .uplink
    (Memory.ofList msg beyond) kSequenceNumberOctet (msg.length - kSequenceNumberOctet : ℤ) 0).mp hi
  obtain ⟨mac, hmac⟩ := Option.ne_none_iff_exists'.mp h₂
  have hne : mac ≠ receivedMac (Memory.ofList msg beyond) := by
    rintro rfl
    exact hm hmac
  unfold unprotectNasMessage
  simp only [h₁, hmac, if_neg hne]

/-- The messages with a bad MAC that change nothing: the GUTI branch has nothing to write, and the
sequence number is the one stored, or header type 1 carries a message that has no handler. -/
def IdleWithoutMac (E : N1Env) (ind : UplinkNasDataInd) (r : ℕ) (nsc : NasSecuCtx) (s : N1State) :
    Prop :=
  GutiBranchIdle ind r s ∧
    match checkSecurityHeaderType ind.nasMsg with
    | none => True
    | some .integrityProtected =>
      getNasMessageType (unverifiedPayload E ind.nasMsg) ∉ dispatchedTypes ind.isNasSignallingEstabReq
    | some _ => nsc.ulCount.seqNum = sequenceNumber E ind.nasMsg

/-- **A message whose MAC does not verify changes nothing exactly when `IdleWithoutMac` holds.** -/
theorem unauthentic_unchanged_iff (P : N1Params) (E : N1Env) (ind : UplinkNasDataInd) (s : N1State)
    (r : ℕ) (nsc : NasSecuCtx) (hr : contextOf ind s = some r)
    (hctx : (s.nc r).securityCtx = some nsc) (hi : nsc.nasAlgs.integrity ≠ 0)
    (ht : checkSecurityHeaderType ind.nasMsg ≠ some .plain5gsMessage)
    (hm : ¬ MacVerifies P.alg E.beyond nsc ind.nasMsg) :
    Unchanged s (n1Step P s (.uplinkNasDataInd ind E)) ↔ IdleWithoutMac E ind r nsc s := by
  obtain ⟨s₀, hfind, htrace, hsent, hctx₀, hamf, hmaps⟩ := findNasContext_spec hr hctx
  have hidle : s₀.maps = s.maps ↔ GutiBranchIdle ind r s := by
    have h := hmaps nsc
    rw [modifyNc_setSecurityCtx_self hctx₀] at h
    simpa using h
  have hnc : securityCtxOf (some r) s₀ = some (r, nsc) := by
    simp [securityCtxOf, hctx₀]
  -- header types 2 to 4: the message is stopped, and the sequence number is stored
  have hprotected : ∀ type, unprotectUplink P E (some r) ind.nasMsg s₀ =
      passProtected P E type (some r) ind.nasMsg s₀ →
      (Unchanged s (n1Step P s (.uplinkNasDataInd ind E)) ↔ GutiBranchIdle ind r s ∧
        nsc.ulCount.seqNum = sequenceNumber E ind.nasMsg) := by
    intro type h
    have hstep : n1Step P s (.uplinkNasDataInd ind E) = s₀.modifyNc r fun nc =>
        nc.setSecurityCtx (nsc.setUlSeqNum (sequenceNumber E ind.nasMsg)) := by
      simp only [n1Step, handleUplinkNasDataInd, deliver, hfind, h, passProtected, hnc,
        unprotectNasMessage_of_not_verifies hi hm]
      rfl
    rw [hstep, ← NasSecuCtx.setUlSeqNum_eq_self_iff, ← hmaps]
    exact ⟨fun h => h.maps, fun h => ⟨h, hsent, congrArg dispatchedOf htrace⟩⟩
  unfold IdleWithoutMac
  match hty : checkSecurityHeaderType ind.nasMsg with
  | none =>
    have hstep : n1Step P s (.uplinkNasDataInd ind E) = s₀ := by
      simp only [n1Step, handleUplinkNasDataInd, deliver, hfind, unprotectUplink, hty]
    rw [hstep, ← hidle, and_true]
    exact ⟨fun h => h.maps, fun h => ⟨h, hsent, congrArg dispatchedOf htrace⟩⟩
  | some .plain5gsMessage => exact absurd hty ht
  | some .integrityProtected =>
    have hstep : n1Step P s (.uplinkNasDataInd ind E) =
        dispatch P E ind ⟨some r, .integrityProtected, unverifiedPayload E ind.nasMsg,
            sequenceNumber E ind.nasMsg⟩
          (s₀.observe (.accepted r (nsc.setUlSeqNum (sequenceNumber E ind.nasMsg)) false)) := by
      simp only [n1Step, handleUplinkNasDataInd, deliver, hfind, unprotectUplink, hty,
        passIntegrityProtected, hnc]
      rfl
    rw [hstep]
    by_cases hmem : getNasMessageType (unverifiedPayload E ind.nasMsg) ∈
        dispatchedTypes ind.isNasSignallingEstabReq
    · refine ⟨fun h => ?_, fun h => absurd hmem h.2⟩
      have hsuffix := dispatch_suffix P E ind
        (s₀.observe (.accepted r (nsc.setUlSeqNum (sequenceNumber E ind.nasMsg)) false))
        ⟨some r, .integrityProtected, unverifiedPayload E ind.nasMsg, sequenceNumber E ind.nasMsg⟩ hmem
      refine absurd (h.dispatched.trans ?_) (dispatchedOf_ne hsuffix)
      rw [N1State.observe_trace, htrace]
      rfl
    · rw [dispatch_of_notMem P E ind _ _ hmem]
      have hsame : (s₀.onMaps fun m => m.setAmfUeNgapId2NasContext ind.amfUeNgapId r).maps = s₀.maps := by
        refine NasMaps.ext rfl ?_ rfl rfl rfl rfl
        change Function.update s₀.maps.amfueid2nasContext ind.amfUeNgapId (some r) = _
        rw [← hamf, Function.update_eq_self]
      have hkeep : ∀ s' : N1State, s'.maps = s₀.maps → s'.sent = s.sent →
          dispatchedOf s'.trace = dispatchedOf s.trace → (Unchanged s s' ↔ GutiBranchIdle ind r s) := by
        intro s' h₁ h₂ h₃
        rw [← hidle, ← h₁]
        exact ⟨fun h => h.maps, fun h => ⟨h, h₂, h₃⟩⟩
      simp only [hmem, not_false_eq_true, and_true]
      have hdis := congrArg dispatchedOf htrace
      split_ifs
      · exact hkeep _ hsame hsent hdis
      · exact hkeep _ rfl hsent hdis
  | some .integrityProtectedAndCiphered =>
    exact hprotected .integrityProtectedAndCiphered (by simp only [unprotectUplink, hty])
  | some .integrityProtectedWithNew5GNASSecurityContext =>
    exact hprotected .integrityProtectedWithNew5GNASSecurityContext
      (by simp only [unprotectUplink, hty])
  | some .integrityProtectedAndCipheredWithNew5GNASSecurityContext =>
    exact hprotected .integrityProtectedAndCipheredWithNew5GNASSecurityContext
      (by simp only [unprotectUplink, hty])

end

/-! ## A message with a wrong MAC and a new sequence number -/

section

/-- Keys with NEA2 and NIA2 and the uplink count 5. -/
def countFive : NasSecuCtx :=
  { NasSecuCtx.zero with scType := .fullNative, ulCount := ⟨0, 5⟩, nasAlgs := ⟨2, 2⟩ }

/-- One context, on the AMF UE NGAP ID 1. -/
def oneContext (nsc : NasSecuCtx) : N1State :=
  { maps := { NasMaps.empty with
      ncs := ⟨fun _ => { NasContext.new with amfUeNgapId := 1, securityCtx := some nsc }, 1⟩
      amfueid2nasContext := fun id => if id = 1 then some 0 else none }
    sent := []
    trace := [] }

/-- An uplink NAS transport of the header type 2 with the sequence number `seq` and a wrong MAC. -/
def wrongMac (seq : UInt8) : UplinkNasDataInd :=
  { amfUeNgapId := 1, ranUeNgapId := 1, isNasSignallingEstabReq := false,
    nasMsg := [0x7e, 2, 1, 2, 3, 4, seq, 0x7e, 0, 0x67], guti := none, mcc := "001".toList,
    mnc := "01".toList }

theorem not_macVerifies_wrongMac (seq : UInt8) :
    ¬ MacVerifies blankParams.alg blankEnv.beyond countFive (wrongMac seq).nasMsg := by
  intro h
  have h' : some (0 : UInt32) = some (ofBe32 1 2 3 4) := h
  exact absurd h' (by decide)

/-- A wrong MAC on the sequence number that is stored: nothing changes. -/
theorem unauthentic_unchanged_iff_sameSeq :
    Unchanged (oneContext countFive)
      (n1Step blankParams (oneContext countFive) (.uplinkNasDataInd (wrongMac 5) blankEnv)) ↔
    IdleWithoutMac blankEnv (wrongMac 5) 0 countFive (oneContext countFive) :=
  unauthentic_unchanged_iff blankParams blankEnv (wrongMac 5) (oneContext countFive) 0 countFive rfl rfl
    (by decide) (by decide) (not_macVerifies_wrongMac 5)

/-- **A wrong MAC on another sequence number**: the message is dropped, and the uplink count of the context
is the one the message carried. -/
theorem wrongMac_overwrites_count :
    contextOf (wrongMac 9) (oneContext countFive) = some 0 ∧
    ((oneContext countFive).nc 0).securityCtx = some countFive ∧ countFive.nasAlgs.integrity ≠ 0 ∧
    checkSecurityHeaderType (wrongMac 9).nasMsg ≠ some .plain5gsMessage ∧
    ¬ MacVerifies blankParams.alg blankEnv.beyond countFive (wrongMac 9).nasMsg ∧
    ¬ Unchanged (oneContext countFive)
      (n1Step blankParams (oneContext countFive) (.uplinkNasDataInd (wrongMac 9) blankEnv)) := by
  refine ⟨rfl, rfl, by decide, by decide, not_macVerifies_wrongMac 9, fun h => ?_⟩
  have hseq := congrArg (fun m => (NasMaps.nc m 0).securityCtx.map fun nsc => nsc.ulCount.seqNum) h.maps
  exact absurd hseq (by decide)

end

end Oai5g.Amf
