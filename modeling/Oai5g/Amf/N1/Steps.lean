import Oai5g.Amf.N1.Dispatch

/-!
# What the handlers of `amf_n1` can do

* `Touch r s s'`: nothing a map or a key depends on has changed; at most the context `r` got an empty
  security context where it had none.
* `Answers r s s'`: `Touch`, and at most one message was protected under the context of `r`.
* one lemma for each handler, from which the invariants are derived.
-/

namespace Oai5g.Amf

namespace N1State

variable (s : N1State) (r q : ℕ) (f : NasContext → NasContext) (g : NasMaps → NasMaps) (o : N1Out)
  (b : N1Obs)

@[simp] theorem send_maps : (s.send o).maps = s.maps := rfl
@[simp] theorem send_trace : (s.send o).trace = s.trace := rfl
@[simp] theorem send_nc : (s.send o).nc q = s.nc q := rfl
@[simp] theorem observe_maps : (s.observe b).maps = s.maps := rfl
@[simp] theorem observe_trace : (s.observe b).trace = b :: s.trace := rfl
@[simp] theorem observe_sent : (s.observe b).sent = s.sent := rfl
@[simp] theorem observe_nc : (s.observe b).nc q = s.nc q := rfl
@[simp] theorem modifyNc_trace : (s.modifyNc r f).trace = s.trace := rfl
@[simp] theorem modifyNc_sent : (s.modifyNc r f).sent = s.sent := rfl
@[simp] theorem modifyNc_maps : (s.modifyNc r f).maps = s.maps.modifyNc r f := rfl
@[simp] theorem onMaps_trace : (s.onMaps g).trace = s.trace := rfl
@[simp] theorem onMaps_sent : (s.onMaps g).sent = s.sent := rfl
@[simp] theorem onMaps_maps : (s.onMaps g).maps = g s.maps := rfl

@[simp] theorem modifyNc_nc_self : (s.modifyNc r f).nc r = f (s.nc r) := Heap.modify_cell_self ..

theorem modifyNc_nc_of_ne (h : q ≠ r) : (s.modifyNc r f).nc q = s.nc q :=
  Heap.modify_cell_of_ne _ _ _ h

theorem onMaps_nc (h : (g s.maps).ncs = s.maps.ncs) : (s.onMaps g).nc q = s.nc q := by
  simp [nc, NasMaps.nc, h]

@[simp] theorem newNc_snd : s.newNc.2 = s.maps.ncs.next := rfl
@[simp] theorem newNc_trace : s.newNc.1.trace = s.trace := rfl

theorem newNc_nc_self : s.newNc.1.nc s.maps.ncs.next = NasContext.new := Heap.alloc_cell_next ..

theorem newNc_nc_of_ne (h : q ≠ s.maps.ncs.next) : s.newNc.1.nc q = s.nc q :=
  Heap.alloc_cell_of_ne _ _ h

end N1State

/-! ## Contexts and states that agree -/

/-- The same identity, the same procedure and the same security context; an empty one may be new. -/
structure NasContext.Same (nc nc' : NasContext) : Prop where
  imsi : nc'.imsi = nc.imsi
  guti : nc'.guti = nc.guti
  amfUeNgapId : nc'.amfUeNgapId = nc.amfUeNgapId
  ranUeNgapId : nc'.ranUeNgapId = nc.ranUeNgapId
  smcRunning : nc'.isCommonProcedureForSecurityModeControlRunning =
    nc.isCommonProcedureForSecurityModeControlRunning
  securityCtx : nc'.securityCtx = nc.securityCtx ∨
    nc.securityCtx = none ∧ nc'.securityCtx = some .zero

namespace NasContext.Same

theorem refl (nc : NasContext) : nc.Same nc := ⟨rfl, rfl, rfl, rfl, rfl, .inl rfl⟩

theorem trans {nc nc' nc'' : NasContext} (h : nc.Same nc') (h' : nc'.Same nc'') : nc.Same nc'' where
  imsi := h'.imsi.trans h.imsi
  guti := h'.guti.trans h.guti
  amfUeNgapId := h'.amfUeNgapId.trans h.amfUeNgapId
  ranUeNgapId := h'.ranUeNgapId.trans h.ranUeNgapId
  smcRunning := h'.smcRunning.trans h.smcRunning
  securityCtx := by
    rcases h.securityCtx with h₁ | ⟨h₁, h₂⟩
    · rw [← h₁]
      exact h'.securityCtx
    · rcases h'.securityCtx with h₃ | ⟨h₃, -⟩
      · exact .inr ⟨h₁, h₃.trans h₂⟩
      · rw [h₂] at h₃
        cases h₃

theorem createSecurityCtx (nc : NasContext) : nc.Same nc.createSecurityCtx := by
  unfold NasContext.createSecurityCtx
  split
  · exact refl nc
  · rename_i h
    exact ⟨rfl, rfl, rfl, rfl, rfl, .inr ⟨h, rfl⟩⟩

end NasContext.Same

/-- Nothing a map or a key depends on has changed. -/
structure Touch (r : ℕ) (s s' : N1State) : Prop where
  next : s'.maps.ncs.next = s.maps.ncs.next
  amfueid2nasContext : s'.maps.amfueid2nasContext = s.maps.amfueid2nasContext
  guti2nasContext : s'.maps.guti2nasContext = s.maps.guti2nasContext
  supi2nasContext : s'.maps.supi2nasContext = s.maps.supi2nasContext
  supi2amfId : s'.maps.supi2amfId = s.maps.supi2amfId
  supi2ranId : s'.maps.supi2ranId = s.maps.supi2ranId
  trace : s'.trace = s.trace
  other : ∀ q, q ≠ r → s'.nc q = s.nc q
  self : (s.nc r).Same (s'.nc r)

namespace Touch

variable {r : ℕ} {s s' s'' : N1State}

@[refl] theorem refl (r : ℕ) (s : N1State) : Touch r s s :=
  ⟨rfl, rfl, rfl, rfl, rfl, rfl, rfl, fun _ _ => rfl, .refl _⟩

theorem trans (h : Touch r s s') (h' : Touch r s' s'') : Touch r s s'' where
  next := h'.next.trans h.next
  amfueid2nasContext := h'.amfueid2nasContext.trans h.amfueid2nasContext
  guti2nasContext := h'.guti2nasContext.trans h.guti2nasContext
  supi2nasContext := h'.supi2nasContext.trans h.supi2nasContext
  supi2amfId := h'.supi2amfId.trans h.supi2amfId
  supi2ranId := h'.supi2ranId.trans h.supi2ranId
  trace := h'.trace.trans h.trace
  other q hq := (h'.other q hq).trans (h.other q hq)
  self := h.self.trans h'.self

theorem send (h : Touch r s s') (o : N1Out) : Touch r s (s'.send o) :=
  h.trans ⟨rfl, rfl, rfl, rfl, rfl, rfl, rfl, fun _ _ => rfl, .refl _⟩

theorem modifyNc (h : Touch r s s') {f : NasContext → NasContext} (hf : ∀ nc : NasContext, nc.Same (f nc)) :
    Touch r s (s'.modifyNc r f) :=
  h.trans ⟨rfl, rfl, rfl, rfl, rfl, rfl, rfl, fun _ hq => s'.modifyNc_nc_of_ne r _ f hq,
    (s'.modifyNc_nc_self r f).symm ▸ hf _⟩

end Touch

section

variable (P : N1Params) (E : N1Env) (r : ℕ) (s : N1State)

/-! ## The handlers that only touch a context -/

theorem sendRegistrationRejectMsg_touch (cause : UInt8) (ran : UInt32) (amf : UInt64) :
    Touch r s (sendRegistrationRejectMsg E cause ran amf s) := by
  unfold sendRegistrationRejectMsg ittiSendDlNasBufferToTaskN2
  split
  · rfl
  · exact (Touch.refl r s).send _

theorem sendServiceReject_touch (cause : UInt8) : Touch r s (sendServiceReject E r cause s) := by
  unfold sendServiceReject
  split
  · rfl
  · dsimp only
    split_ifs
    · exact ((Touch.refl r s).send _).modifyNc fun _ => ⟨rfl, rfl, rfl, rfl, rfl, .inl rfl⟩
    · exact (Touch.refl r s).send _

theorem authVectorsGenerator_touch : Touch r s (authVectorsGenerator P E r s).1 := by
  unfold authVectorsGenerator
  split_ifs
  · split
    · rfl
    · exact (Touch.refl r s).modifyNc fun _ => ⟨rfl, rfl, rfl, rfl, rfl, .inl rfl⟩
  · split
    · rfl
    · exact (Touch.refl r s).modifyNc fun _ => ⟨rfl, rfl, rfl, rfl, rfl, .inl rfl⟩

theorem startAuthenticationProcedure_touch : Touch r s (startAuthenticationProcedure E r s).1 := by
  unfold startAuthenticationProcedure ittiSendDlNasBufferToTaskN2
  dsimp only
  split_ifs
  · exact sendRegistrationRejectMsg_touch ..
  · have h : Touch r s (s.modifyNc r fun nc => nc.setAuthenticationRunning true) :=
      (Touch.refl r s).modifyNc fun _ => ⟨rfl, rfl, rfl, rfl, rfl, .inl rfl⟩
    split
    · exact h
    · exact h.send _

theorem startAuthenticationOrReject_touch : Touch r s (startAuthenticationOrReject E r s) := by
  have h := startAuthenticationProcedure_touch E r s
  unfold startAuthenticationOrReject
  split <;> rename_i s' heq <;> rw [heq] at h
  · exact h
  · exact h.trans (sendRegistrationRejectMsg_touch ..)

theorem handleAuthVectorSuccessfulResult_touch :
    Touch r s (handleAuthVectorSuccessfulResult E r s) := by
  refine Touch.trans ?_ (startAuthenticationOrReject_touch E r _)
  refine Touch.modifyNc ?_ NasContext.Same.createSecurityCtx
  exact (Touch.refl r s).modifyNc fun _ => ⟨rfl, rfl, rfl, rfl, rfl, .inl rfl⟩

/-- The vector is stored and the context gets an ngKSI, or the request is rejected. -/
theorem runRegistrationProcedure_touch : Touch r s (runRegistrationProcedure P E r s) := by
  have h : Touch r s (s.modifyNc r NasContext.setRegistrationRunning) :=
    (Touch.refl r s).modifyNc fun _ => ⟨rfl, rfl, rfl, rfl, rfl, .inl rfl⟩
  unfold runRegistrationProcedure
  dsimp only
  split_ifs
  · rfl
  · refine Touch.trans ?_ (handleAuthVectorSuccessfulResult_touch E r _)
    exact h.modifyNc fun _ => ⟨rfl, rfl, rfl, rfl, rfl, .inl rfl⟩
  · have h' := h.trans (authVectorsGenerator_touch P E r _)
    split <;> rename_i s' heq <;> rw [heq] at h'
    · refine Touch.trans ?_ (handleAuthVectorSuccessfulResult_touch E r _)
      exact h'.modifyNc fun _ => ⟨rfl, rfl, rfl, rfl, rfl, .inl rfl⟩
    · exact h'.trans (sendRegistrationRejectMsg_touch ..)
  · refine Touch.send ?_ _
    exact h.modifyNc fun _ => ⟨rfl, rfl, rfl, rfl, rfl, .inl rfl⟩
  · exact h

theorem releaseOldConnection_touch : Touch r s (releaseOldConnection E r s) := by
  unfold releaseOldConnection
  dsimp only
  split_ifs
  · split
    · rfl
    · split_ifs
      · exact (Touch.refl r s).send _
      · rfl
  · rfl

theorem ulNasTransportHandle_touch (ran : UInt32) (amf : UInt64) (nas : Bstring) (mcc mnc : Str) :
    Touch r s (ulNasTransportHandle P E ran amf nas mcc mnc s) := by
  unfold ulNasTransportHandle
  dsimp only
  split_ifs <;> first | rfl | exact (Touch.refl r s).send _

theorem sendDownlinkNas_touch (msg : DownlinkNasTransfer) (nas : Bstring) :
    Touch r s (sendDownlinkNas P E r msg nas s) := by
  unfold sendDownlinkNas
  dsimp only
  split
  · exact (Touch.refl r s).send _
  · split_ifs
    · exact (Touch.refl r s).send _
    · exact (Touch.refl r s).send _
    · rfl
    · split
      · rfl
      · split_ifs
        · exact (Touch.refl r s).send _
        · split
          · rfl
          · exact (Touch.refl r s).send _

theorem foldl_send_touch (f : UInt8 → N1Out) (l : List UInt8) :
    Touch r s (l.foldl (fun s i => s.send (f i)) s) := by
  induction l generalizing s with
  | nil => rfl
  | cons i l ih => exact ((Touch.refl r s).send (f i)).trans (ih (s.send (f i)))

theorem authenticationFailureHandle_touch (ran : UInt32) (amf : UInt64) (plainMsg : Bstring) :
    ∃ r, Touch r s (authenticationFailureHandle P E ran amf plainMsg s) := by
  unfold authenticationFailureHandle
  split
  · exact ⟨0, sendRegistrationRejectMsg_touch ..⟩
  · rename_i r _
    refine ⟨r, ?_⟩
    have h : Touch r s (s.modifyNc r fun nc => nc.setAuthenticationRunning false) :=
      (Touch.refl r s).modifyNc fun _ => ⟨rfl, rfl, rfl, rfl, rfl, .inl rfl⟩
    dsimp only
    split_ifs
    · have h' : Touch r s ((s.modifyNc r fun nc => nc.setAuthenticationRunning false).modifyNc r
          fun nc => nc.setAuts (P.decode.authenticationFailure
            (plainMsg.getD [])).authenticationFailureParameter) :=
        h.modifyNc fun _ => ⟨rfl, rfl, rfl, rfl, rfl, .inl rfl⟩
      replace h' := h'.trans (authVectorsGenerator_touch P E r _)
      split <;> rename_i s' heq <;> rw [heq] at h'
      · exact h'.trans (handleAuthVectorSuccessfulResult_touch E r _)
      · exact h'.trans (sendRegistrationRejectMsg_touch ..)
    · exact h.modifyNc fun _ => ⟨rfl, rfl, rfl, rfl, rfl, .inl rfl⟩
    · refine Touch.trans ?_ (startAuthenticationOrReject_touch E r _)
      exact h.modifyNc fun _ => ⟨rfl, rfl, rfl, rfl, rfl, .inl rfl⟩
    · exact h

end

/-! ## Protecting one message -/

/-- The context of `r` protects a message: the downlink count moves on. -/
def N1State.useDownlink (s : N1State) (r : ℕ) (nsc : NasSecuCtx) (type : SecurityHeaderType) : N1State :=
  (s.modifyNc r fun nc => nc.setSecurityCtx nsc.incDlSeqNum).observe (.downlink r nsc type)

/-- `Touch`, and at most one message was protected under the security context that `r` had. -/
def Answers (r : ℕ) (s s' : N1State) : Prop :=
  Touch r s s' ∨ ∃ nsc s₁, (s.nc r).securityCtx = some nsc ∧ Touch r s s₁ ∧
    Touch r (s₁.useDownlink r nsc .integrityProtectedAndCiphered) s'

section

variable {P : N1Params} {E : N1Env} {r : ℕ} {s s' s₁ : N1State} {nsc : NasSecuCtx}

theorem encodeProtected_ciphered (h : (s.nc r).securityCtx = some nsc) (isNew : Bool)
    (input : List UInt8) :
    (encodeProtected P E r isNew .integrityProtectedAndCiphered input s).1 =
      s.useDownlink r nsc .integrityProtectedAndCiphered := by
  simp [encodeProtected, h, encodeNasMessageProtected, N1State.useDownlink]

theorem encodeProtected_new (h : (s.nc r).securityCtx = some nsc) (input : List UInt8) :
    (encodeProtected P E r true .integrityProtectedWithNew5GNASSecurityContext input s).1 =
      s.useDownlink r nsc .integrityProtectedWithNew5GNASSecurityContext := by
  simp [encodeProtected, h, encodeNasMessageProtected, N1State.useDownlink]

theorem encodeProtected_notNew (input : List UInt8) :
    Touch r s
      (encodeProtected P E r false .integrityProtectedWithNew5GNASSecurityContext input s).1 := by
  unfold encodeProtected
  split
  · rfl
  · rename_i nsc h
    have hs : (s.nc r).Same ((s.nc r).setSecurityCtx nsc) := ⟨rfl, rfl, rfl, rfl, rfl, .inl h.symm⟩
    exact ⟨rfl, rfl, rfl, rfl, rfl, rfl, rfl, fun _ hq => s.modifyNc_nc_of_ne r _ _ hq,
      (s.modifyNc_nc_self r _).symm ▸ hs⟩

theorem Touch.securityCtx (h : Touch r s s') (hr : (s.nc r).securityCtx = some nsc) :
    (s'.nc r).securityCtx = some nsc := by
  rcases h.self.securityCtx with h | ⟨h, -⟩
  · rw [h, hr]
  · rw [hr] at h
    cases h

theorem Answers.of_encode (P : N1Params) (E : N1Env) (isNew : Bool) (input : List UInt8)
    (hr : (s.nc r).securityCtx = some nsc) (h : Touch r s s₁)
    (h' : Touch r (encodeProtected P E r isNew .integrityProtectedAndCiphered input s₁).1 s') :
    Answers r s s' := by
  rw [encodeProtected_ciphered (h.securityCtx hr)] at h'
  exact .inr ⟨nsc, s₁, hr, h, h'⟩

end

section

variable (P : N1Params) (E : N1Env) (r : ℕ) (s : N1State)

theorem sendProtected_answers (nas : List UInt8) (hr : (s.nc r).securityCtx ≠ none) :
    Answers r s (sendProtected P E r nas s) := by
  obtain ⟨nsc, hr⟩ := Option.ne_none_iff_exists'.mp hr
  exact .of_encode P E false nas hr (.refl r s) ((Touch.refl r _).send _)

theorem runMobilityRegistrationUpdateProcedure_answers :
    Answers r s (runMobilityRegistrationUpdateProcedure P E r s) := by
  unfold runMobilityRegistrationUpdateProcedure
  split
  · exact .inl (.refl r s)
  · split
    · exact .inl (runRegistrationProcedure_touch ..)
    · rename_i hr
      rw [Option.isNone_iff_eq_none] at hr
      split
      · exact .inl (.refl r s)
      · split_ifs
        · obtain ⟨nsc, hr⟩ := Option.ne_none_iff_exists'.mp hr
          exact .of_encode P E false _ hr (.refl r s) (.refl r _)
        · exact sendProtected_answers P E r s _ hr

theorem runPeriodicRegistrationUpdateProcedure_answers (status : UInt16) :
    Answers r s (runPeriodicRegistrationUpdateProcedure P E r status s) := by
  unfold runPeriodicRegistrationUpdateProcedure
  split
  · exact .inl (.refl r s)
  · split
    · exact .inl (.refl r s)
    · split_ifs with hr
      · exact .inl (.refl r s)
      · rw [Option.isNone_iff_eq_none] at hr
        exact sendProtected_answers P E r s _ hr

theorem runRequestedProcedure_answers (ran : UInt32) (amf : UInt64) (req : RegistrationRequest) :
    Answers r s (runRequestedProcedure P E r ran amf req s) := by
  unfold runRequestedProcedure
  split_ifs
  · exact .inl (runRegistrationProcedure_touch ..)
  · exact runMobilityRegistrationUpdateProcedure_answers ..
  · exact runPeriodicRegistrationUpdateProcedure_answers ..
  · exact .inl (sendRegistrationRejectMsg_touch ..)
  · exact .inl (.refl r s)

theorem serviceAcceptReply_answers (ran : UInt32) (amf : UInt64) (st : SessionStatus)
    (hr : (s.nc r).securityCtx ≠ none) : Answers r s (serviceAcceptReply P E r ran amf st s).1 := by
  obtain ⟨nsc, hr⟩ := Option.ne_none_iff_exists'.mp hr
  unfold serviceAcceptReply encodeReply
  split
  · refine .of_encode P E false
      (E.encode (.serviceAccept (st.uplinkDataStatus.map fun _ => 0) st.pduSessionStatus)) hr
      (.refl r s) ?_
    dsimp only
    split
    · rfl
    · split_ifs
      · exact ((Touch.refl r _).send _).modifyNc fun _ => ⟨rfl, rfl, rfl, rfl, rfl, .inl rfl⟩
      · exact (Touch.refl r _).send _
  · refine .of_encode P E false
      (E.encode (.serviceAccept (st.reactivationResult E) (st.answeredStatus E))) hr (.refl r s) ?_
    dsimp only
    split
    · rfl
    · exact ((Touch.refl r _).send _).modifyNc fun _ => ⟨rfl, rfl, rfl, rfl, rfl, .inl rfl⟩

/-! ## The handlers that protect a message or write a map -/

/-- The maps after a Service Request that is not rejected. -/
def NasMaps.serve (m : NasMaps) (r : ℕ) (ran : UInt32) (amf : UInt64) (supi : Str) : NasMaps :=
  ((m.setAmfUeNgapId2NasContext amf r).setSupi2AmfId supi amf).setSupi2RanId supi ran

/-- The maps after a de-registration. -/
def NasMaps.removeNc (m : NasMaps) (amf : UInt64) (supi guti : Str) : NasMaps :=
  ((m.removeAmfUeNgapId2NasContext amf).removeSupi2NasContext supi).removeGuti2NasContext guti

theorem serviceRequestHandle_answers (ran : UInt32) (amf : UInt64) (nas : Bstring) :
    Touch r s (serviceRequestHandle P E r ran amf nas s) ∨
      Answers r (s.onMaps fun m => m.setAmfUeNgapId2NasContext amf r)
        (serviceRequestHandle P E r ran amf nas s) := by
  unfold serviceRequestHandle serviceRequestReply serviceRejectReply encodeReply
  dsimp only
  split_ifs with _ hr
  · exact .inl (.refl r s)
  · exact .inl (sendServiceReject_touch ..)
  · refine .inr ?_
    split
    · exact .inl (.refl r _)
    · split_ifs
      · exact .inl (sendServiceReject_touch ..)
      · simp only [not_or, Option.isNone_iff_eq_none] at hr
        obtain ⟨nsc, hr⟩ := Option.ne_none_iff_exists'.mp hr.1
        exact .of_encode P E false _ hr (.refl r _) ((Touch.refl r _).send _)

variable {r s} in
theorem Touch.setSupiIds {s' : N1State} (h : Touch r s s') (ran : UInt32) (amf : UInt64) (supi : Str) :
    Touch r (s.onMaps fun m => (m.setSupi2AmfId supi amf).setSupi2RanId supi ran)
      (s'.onMaps fun m => (m.setSupi2AmfId supi amf).setSupi2RanId supi ran) where
  next := h.next
  amfueid2nasContext := h.amfueid2nasContext
  guti2nasContext := h.guti2nasContext
  supi2nasContext := h.supi2nasContext
  supi2amfId :=
    congrArg (fun f : Str → Option UInt64 => Function.update f supi (some amf)) h.supi2amfId
  supi2ranId :=
    congrArg (fun f : Str → Option UInt32 => Function.update f supi (some ran)) h.supi2ranId
  trace := h.trace
  other := h.other
  self := h.self

variable {r s} in
theorem Touch.removeNc {s' : N1State} (h : Touch r s s') (amf : UInt64) {supi supi' : Str}
    (hsupi : supi' = supi) (guti : Str) :
    Touch r (s.onMaps fun m => m.removeNc amf supi guti)
      (s'.onMaps fun m => m.removeNc amf supi' guti) where
  next := h.next
  amfueid2nasContext :=
    congrArg (fun f : UInt64 → Option ℕ => Function.update f amf none) h.amfueid2nasContext
  guti2nasContext := congrArg (fun f : Str → Option ℕ => Function.update f guti none) h.guti2nasContext
  supi2nasContext := by
    subst hsupi
    exact congrArg (fun f : Str → Option ℕ => Function.update f supi' none) h.supi2nasContext
  supi2amfId := h.supi2amfId
  supi2ranId := h.supi2ranId
  trace := h.trace
  other := h.other
  self := h.self

theorem continueServiceRequest_answers (ran : UInt32) (amf : UInt64) (decoded : Bool)
    (req : ServiceRequest) :
    ((s.nc r).securityCtx = none ∨ decoded = false) ∧
        Touch r s (continueServiceRequest P E r ran amf decoded req s) ∨
      ((s.nc r).securityCtx ≠ none ∧ decoded = true) ∧
        Answers r (s.onMaps fun m => m.serve r ran amf (s.nc r).supi)
          (continueServiceRequest P E r ran amf decoded req s) := by
  unfold continueServiceRequest continueServiceRequestReply serviceRejectReply
  dsimp only
  split_ifs with hr
  · refine .inl ⟨hr.imp Option.isNone_iff_eq_none.mp fun h => ?_, sendServiceReject_touch ..⟩
    exact (Bool.not_eq_true' decoded).mp h
  · simp only [not_or, Option.isNone_iff_eq_none, Bool.not_eq_true', Bool.not_eq_false] at hr
    refine .inr ⟨hr, ?_⟩
    have h := releaseOldConnection_touch E r (s.onMaps fun m => m.setAmfUeNgapId2NasContext amf r)
    have hsupi : ((releaseOldConnection E r
        (s.onMaps fun m => m.setAmfUeNgapId2NasContext amf r)).nc r).supi = (s.nc r).supi :=
      congrArg imsiToSupi h.self.imsi
    rw [hsupi]
    replace h := h.setSupiIds ran amf (s.nc r).supi
    split
    · exact .inl h
    · obtain ⟨nsc, hnsc⟩ := Option.ne_none_iff_exists'.mp hr.1
      have hs : ((s.onMaps fun m => m.serve r ran amf (s.nc r).supi).nc r).securityCtx = some nsc := hnsc
      rcases serviceAcceptReply_answers P E r _ ran amf _ (by rw [h.securityCtx hs]; simp) with
        h' | ⟨nsc', s₁, hr', h₁, h₂⟩
      · exact .inl (h.trans h')
      · rw [h.securityCtx hs] at hr'
        cases hr'
        exact .inr ⟨nsc, s₁, hs, h.trans h₁, h₂⟩

theorem serviceRequestHandleUlCount_cases (ran : UInt32) (amf : UInt64) (nas : Bstring)
    (ulCount : UInt8) :
    serviceRequestHandleUlCount P E r ran amf nas ulCount s = s ∨
    (∃ uc decoded req, E.ueContext ran amf = some uc ∧
      P.decode.serviceRequest (nas.getD []) = (decoded, req) ∧
      oldNasContext P uc r decoded req s = none ∧
      serviceRequestHandleUlCount P E r ran amf nas ulCount s =
        continueServiceRequest P E r ran amf decoded req s) ∨
    ∃ uc decoded req old nsc, E.ueContext ran amf = some uc ∧
      P.decode.serviceRequest (nas.getD []) = (decoded, req) ∧
      oldNasContext P uc r decoded req s = some old ∧ (s.nc old).securityCtx = some nsc ∧
      serviceRequestHandleUlCount P E r ran amf nas ulCount s =
        continueServiceRequest P E r ran amf decoded req (takeOldContext r old nsc ulCount s) := by
  unfold serviceRequestHandleUlCount serviceRequestReplyUlCount
  split
  · exact .inl rfl
  · rename_i uc huc
    dsimp only
    split
    · rename_i hold
      exact .inr (.inl ⟨uc, _, _, huc, rfl, hold, rfl⟩)
    · rename_i old hold
      split
      · exact .inl rfl
      · rename_i nsc hnsc
        exact .inr (.inr ⟨uc, _, _, old, nsc, huc, rfl, hold, hnsc, rfl⟩)

theorem handleDownlinkNasTransfer_cases (msg : DownlinkNasTransfer) :
    handleDownlinkNasTransfer P E msg s = s ∨
    ∃ r, s.maps.amfueid2nasContext msg.amfUeNgapId = some r ∧
      Answers r s (handleDownlinkNasTransfer P E msg s) := by
  unfold handleDownlinkNasTransfer
  split
  · exact .inl rfl
  · rename_i r hmap
    split_ifs with hr
    · exact .inl rfl
    · rw [Option.isNone_iff_eq_none] at hr
      obtain ⟨nsc, hr⟩ := Option.ne_none_iff_exists'.mp hr
      exact .inr ⟨r, hmap, .of_encode P E false _ hr (.refl r s) (sendDownlinkNas_touch ..)⟩

/-- The state in which a Registration Request is received. -/
def receiveRequest (r : ℕ) (reg : Bstring) (s : N1State) : N1State :=
  (s.modifyNc r fun nc => nc.storeRegistrationRequest reg).observe (.registrationRequest r)

theorem registrationRequestHandle_cases (ran : UInt32) (amf : UInt64) (snn : Str) (reg : Bstring) :
    ((E.ueContext ran amf).isNone ∧
      registrationRequestHandle P E r ran amf snn reg s = receiveRequest r reg s) ∨
    ((E.ueContext ran amf).isSome ∧
      Answers r (registerRequest r ran amf snn (P.decode.registrationRequest (reg.getD []))
        (receiveRequest r reg s)) (registrationRequestHandle P E r ran amf snn reg s)) := by
  unfold registrationRequestHandle
  dsimp only
  split_ifs with h
  · exact .inl ⟨h, rfl⟩
  · refine .inr ⟨?_, runRequestedProcedure_answers ..⟩
    simpa [Option.isSome_iff_ne_none] using h

theorem identityResponseHandle_touch (ran : UInt32) (amf : UInt64) (plainMsg : Bstring) :
    Touch (findOrCreateNc amf s).2
      (((findOrCreateNc amf s).1.modifyNc (findOrCreateNc amf s).2 fun nc =>
          nc.updateByIdentityResponse ran amf (P.decode.identityResponse (plainMsg.getD []))).onMaps
        fun m =>
          (m.setSupi2AmfId (imsiToSupi (P.decode.identityResponse (plainMsg.getD []))) amf).setSupi2RanId
            (imsiToSupi (P.decode.identityResponse (plainMsg.getD []))) ran)
      (identityResponseHandle P E ran amf plainMsg s) := by
  unfold identityResponseHandle
  dsimp only
  split_ifs
  · refine Touch.trans ?_ (runRegistrationProcedure_touch ..)
    exact (Touch.refl _ _).modifyNc fun _ => ⟨rfl, rfl, rfl, rfl, rfl, .inl rfl⟩
  · rfl

/-- The state after the GUTI is allocated. -/
def allocate (r : ℕ) (guti : Str) (s : N1State) : N1State :=
  (s.onMaps fun m => m.setGuti2NasContext guti r).modifyNc r fun nc => nc.storeGuti guti

theorem sendRegistrationAccept_cases (uc : N1UeContext) (ran : UInt32) (amf : UInt64)
    (sessions nas : List UInt8) (hr : (s.nc r).securityCtx ≠ none) :
    ∃ s₁, Answers r s s₁ ∧ (sendRegistrationAccept P E uc r ran amf sessions nas s = s₁ ∨
      sendRegistrationAccept P E uc r ran amf sessions nas s = markRegistered r s₁) := by
  obtain ⟨nsc, hr⟩ := Option.ne_none_iff_exists'.mp hr
  unfold sendRegistrationAccept
  dsimp only
  split_ifs
  · exact ⟨_, .of_encode P E false nas hr (.refl r s) ((Touch.refl r _).send _), .inr rfl⟩
  · split
    · exact ⟨_, .of_encode P E false nas hr (.refl r s) (.refl r _), .inl rfl⟩
    · exact ⟨_, .of_encode P E false nas hr (.refl r s) ((Touch.refl r _).send _), .inr rfl⟩

/-- The context for which a Security Mode Complete allocates a GUTI, and the GUTI. -/
def allocates (ran : UInt32) (amf : UInt64) (s : N1State) : Option (ℕ × Str) :=
  match E.ueContext ran amf, s.maps.amfueid2nasContext amf with
  | some _, some r =>
    if E.rerouteRegistrationRequest (s.nc r) = (false, true) then
      (E.generate5gGuti ran amf).map fun (mcc, mnc, tmsi) => (r, allocatedGuti P mcc mnc tmsi)
    else none
  | _, _ => none

variable {r s} in
theorem allocates_amfueid2nasContext {ran : UInt32} {amf : UInt64} {guti : Str}
    (h : allocates P E ran amf s = some (r, guti)) : s.maps.amfueid2nasContext amf = some r := by
  unfold allocates at h
  split at h
  · rename_i hmap
    split_ifs at h
    obtain ⟨_, -, h⟩ := Option.map_eq_some_iff.mp h
    cases h
    exact hmap
  · cases h

/-- A Security Mode Complete is dropped or rejected, or a GUTI is allocated; then the context may be
registered. -/
theorem securityModeCompleteHandle_cases (ran : UInt32) (amf : UInt64) (nasMsg : Bstring) :
    (∀ r, Touch r s (securityModeCompleteHandle P E ran amf nasMsg s)) ∨
    ∃ r guti s₁, allocates P E ran amf s = some (r, guti) ∧ Answers r (allocate r guti s) s₁ ∧
      (securityModeCompleteHandle P E ran amf nasMsg s = s₁ ∨
        (s.nc r).securityCtx ≠ none ∧
          securityModeCompleteHandle P E ran amf nasMsg s = markRegistered r s₁) := by
  unfold securityModeCompleteHandle securityModeCompleteReply
  split
  · rename_i uc r huc hmap
    dsimp only
    split
    · exact .inl fun _ => .refl _ s
    · exact .inl fun _ => sendRegistrationRejectMsg_touch ..
    · rename_i hroute
      split
      · exact .inl fun _ => .refl _ s
      · rename_i mcc mnc tmsi hgen
        have hall : allocates P E ran amf s = some (r, allocatedGuti P mcc mnc tmsi) := by
          simp [allocates, huc, hmap, hroute, hgen]
        split_ifs with hr
        · exact .inr ⟨r, _, _, hall, .inl (.refl r _), .inl rfl⟩
        · split
          · exact .inr ⟨r, _, _, hall, .inl (.refl r _), .inl rfl⟩
          · rw [Option.isNone_iff_eq_none] at hr
            obtain ⟨s₁, h₁, h₂⟩ := sendRegistrationAccept_cases P E r
              (allocate r (allocatedGuti P mcc mnc tmsi) s) uc ran amf _ _ hr
            refine .inr ⟨r, _, s₁, hall, h₁, h₂.imp id fun h => ⟨?_, h⟩⟩
            have hctx : ((allocate r (allocatedGuti P mcc mnc tmsi) s).nc r).securityCtx =
                (s.nc r).securityCtx := by
              rw [allocate, N1State.modifyNc_nc_self]
              rfl
            rw [← hctx]
            exact hr
  · exact .inl fun _ => .refl _ s

/-- The context that a De-registration Request removes: it is dropped when there is no UE context, or no
De-registration Accept can be made. -/
def deregisters (amf : UInt64) (nas : Bstring) (s : N1State) : Option ℕ :=
  (s.maps.amfueid2nasContext amf).bind fun r =>
    if (E.ueContext (s.nc r).ranUeNgapId (s.nc r).amfUeNgapId).isSome ∧
        ((P.decode.deregistrationRequest (nas.getD [])).deregistrationType &&& kDeregistrationTypeMask = 0 →
          E.encode .deregistrationAccept ≠ []) then some r
    else none

theorem ueInitiateDeRegistrationHandle_cases (ran : UInt32) (amf : UInt64) (nas : Bstring) :
    deregisters P E amf nas s = none ∧
      (∀ r, Touch r s (ueInitiateDeRegistrationHandle P E ran amf nas s)) ∨
    ∃ r, deregisters P E amf nas s = some r ∧ s.maps.amfueid2nasContext amf = some r ∧
      Touch r (s.onMaps fun m => m.removeNc amf (s.nc r).supi
          (P.decode.deregistrationRequest (nas.getD [])).guti)
        (ueInitiateDeRegistrationHandle P E ran amf nas s) := by
  have hderegister : ∀ r guti s', Touch r s s' →
      Touch r (s.onMaps fun m => m.removeNc amf (s.nc r).supi guti) (deregister r ran amf guti s') := by
    intro r guti s' h
    replace h : Touch r s (s'.modifyNc r fun nc => nc.setFivegmmState .deregistered) :=
      h.modifyNc fun _ => ⟨rfl, rfl, rfl, rfl, rfl, .inl rfl⟩
    have hsupi := congrArg imsiToSupi h.self.imsi
    exact (h.removeNc amf hsupi guti).send _
  unfold ueInitiateDeRegistrationHandle deregisters
  split
  · rename_i hmap
    exact .inl ⟨by simp [hmap], fun _ => .refl _ s⟩
  · rename_i r hmap
    simp only [hmap, Option.bind_some]
    cases huc : E.ueContext (s.nc r).ranUeNgapId (s.nc r).amfUeNgapId with
    | none => exact .inl ⟨by simp, fun _ => .refl _ s⟩
    | some uc =>
      have h : ∀ q, Touch q s (E.pduSessions.foldl
          (fun s i => s.send (.pduSessionReleaseSmContext uc.supi i)) s) := fun q =>
        foldl_send_touch q s (fun i => .pduSessionReleaseSmContext uc.supi i) _
      by_cases hswitch : (P.decode.deregistrationRequest (nas.getD [])).deregistrationType &&&
          kDeregistrationTypeMask = 0
      · cases hacc : E.encode .deregistrationAccept with
        | nil =>
          simp only [if_pos hswitch]
          exact .inl ⟨by simp [hswitch], h⟩
        | cons b accept =>
          simp only [if_pos hswitch]
          exact .inr ⟨r, by simp, rfl, hderegister _ _ _ ((h r).send _)⟩
      · simp only [if_neg hswitch]
        exact .inr ⟨r, by simp [hswitch], rfl, hderegister _ _ _ (h r)⟩

/-- A Security Mode Command goes out, with new keys where the context has no type. -/
theorem startSecurityModeControlProcedure_cases :
    (s.nc r).securityCtx = none ∧
      startSecurityModeControlProcedure P E r s =
        (s.modifyNc r fun nc => nc.setSecurityModeControlRunning true) ∨
    (∃ nsc, (s.nc r).securityCtx = some nsc ∧ nsc.scType ≠ .notAvailable ∧
      Touch r (s.modifyNc r fun nc => nc.setSecurityModeControlRunning true)
        (startSecurityModeControlProcedure P E r s)) ∨
    ∃ nsc, (s.nc r).securityCtx = some nsc ∧ nsc.scType = .notAvailable ∧
      Touch r (((((s.modifyNc r fun nc => nc.setSecurityModeControlRunning true).modifyNc r fun nc =>
          nc.installSecurityCtx (newSecurityCtx P (s.nc r) nsc)).observe
        (.installed r (newSecurityCtx P (s.nc r) nsc)))).useDownlink r (newSecurityCtx P (s.nc r) nsc)
          .integrityProtectedWithNew5GNASSecurityContext)
        (startSecurityModeControlProcedure P E r s) := by
  have hctx : ((s.modifyNc r fun nc => nc.setSecurityModeControlRunning true).nc r).securityCtx =
      (s.nc r).securityCtx := by
    rw [N1State.modifyNc_nc_self]
    rfl
  have hnew : ∀ nsc, newSecurityCtx P
      ((s.modifyNc r fun nc => nc.setSecurityModeControlRunning true).nc r) nsc =
        newSecurityCtx P (s.nc r) nsc := by
    intro nsc
    rw [N1State.modifyNc_nc_self]
    rfl
  unfold startSecurityModeControlProcedure sendSecurityModeCommand ittiSendDlNasBufferToTaskN2
  dsimp only
  split
  · rename_i h
    exact .inl ⟨hctx.symm.trans h, rfl⟩
  · rename_i nsc h
    rw [hnew]
    split_ifs with hsc
    · refine .inr (.inr ⟨nsc, hctx.symm.trans h, hsc, ?_⟩)
      refine Touch.send ?_ _
      rw [encodeProtected_new]
      rw [N1State.observe_nc, N1State.modifyNc_nc_self]
      rfl
    · exact .inr (.inl ⟨nsc, hctx.symm.trans h, hsc, (encodeProtected_notNew _).send _⟩)

end

end Oai5g.Amf
