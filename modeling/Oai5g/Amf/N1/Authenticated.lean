import Oai5g.Amf.N1.Steps

/-!
# Registration and authentication

A context should become registered only by a Security Mode Complete whose MAC verifies under keys that
come from an authentication after the last Registration Request.

* `RegisteredProperly`: the property, on the record of a run.
* `Guarded`: what the messages must meet for it to hold: a Security Mode Complete is protected and
  its procedure is running, an Authentication Response carries a RES* when keys are made from it, a
  Registration Request is not dropped and no keys are copied while a Security Mode Command is out.
* `KeysOk`: the invariant, kept by every handler (`Keeps`).
* **`registered_only_authenticated`**: a guarded run registers only authenticated contexts.
-/

namespace Oai5g.Amf

/-! ## The property -/

/-- The message that was received last. -/
def lastReceived : List N1Obs → Option N1Obs
  | [] => none
  | .passed :: _ => some .passed
  | .accepted r nsc verified :: _ => some (.accepted r nsc verified)
  | _ :: trace => lastReceived trace

/-- After the last Registration Request of `r`, an authentication gave `kamf`. -/
def AuthenticatedSince (r : ℕ) (kamf : List UInt8) : List N1Obs → Prop
  | [] => False
  | .registrationRequest q :: trace => q ≠ r ∧ AuthenticatedSince r kamf trace
  | .authenticated q k :: trace => q = r ∧ k = kamf ∨ AuthenticatedSince r kamf trace
  | _ :: trace => AuthenticatedSince r kamf trace

/-- The integrity key of a security context comes from such an authentication. -/
def KeysAuthenticated (P : N1Params) (r : ℕ) (nsc : NasSecuCtx) (trace : List N1Obs) : Prop :=
  ∃ kamf, nsc.knasInt = P.deriveKnas NAS_INT_ALG nsc.nasAlgs.integrity kamf ∧
    AuthenticatedSince r kamf trace

/-- NIA1 or NIA2. -/
def NasSecuCtx.HasMac (nsc : NasSecuCtx) : Prop :=
  nsc.nasAlgs.integrity = 1 ∨ nsc.nasAlgs.integrity = 2

/-- The Security Mode Complete of a registration: its MAC was compared and matched, under such keys. -/
def ProperComplete (P : N1Params) (r : ℕ) (trace : List N1Obs) : Prop :=
  ∃ nsc : NasSecuCtx, lastReceived trace = some (.accepted r nsc true) ∧ nsc.HasMac ∧
    KeysAuthenticated P r nsc trace

/-- **Every registration is proper.** -/
def RegisteredProperly (P : N1Params) : List N1Obs → Prop
  | [] => True
  | .registered r :: trace => ProperComplete P r trace ∧ RegisteredProperly P trace
  | _ :: trace => RegisteredProperly P trace

/-! ## The condition -/

/-- A Security Mode Command with keys is out. -/
def Pending (r : ℕ) (s : N1State) : Prop :=
  (s.nc r).isCommonProcedureForSecurityModeControlRunning ∧
    ∃ nsc, (s.nc r).securityCtx = some nsc ∧ nsc.scType ≠ .notAvailable

/-- What a delivered message meets in the state it is delivered in. -/
structure Guarded (P : N1Params) (E : N1Env) (ind : UplinkNasDataInd) (s : N1State) (d : Delivery) :
    Prop where
  /-- A Security Mode Complete has one of the header types 2 to 4, and NIA1 or NIA2; its procedure is
  running. -/
  securityModeComplete : ind.isNasSignallingEstabReq = false →
    getNasMessageType d.plainMsg = kSecurityModeComplete →
    ∀ r, s.maps.amfueid2nasContext ind.amfUeNgapId = some r →
      d.type ≠ .plain5gsMessage ∧ d.type ≠ .integrityProtected ∧ Pending r s ∧
        ∀ nsc, (s.nc r).securityCtx = some nsc → nsc.HasMac
  /-- An Authentication Response for a context without keys carries a RES*; with keys, their Security
  Mode Command is out. -/
  authenticationResponse : ind.isNasSignallingEstabReq = false →
    getNasMessageType d.plainMsg = kAuthenticationResponse →
    ∀ r nsc, s.maps.amfueid2nasContext ind.amfUeNgapId = some r → (s.nc r).securityCtx = some nsc →
      nsc.scType = .notAvailable ∧ P.decode.authenticationResponse (d.plainMsg.getD []) ≠ none ∨
        nsc.scType ≠ .notAvailable ∧ Pending r s
  /-- A Registration Request is not dropped while a Security Mode Command is out. -/
  registrationRequest : getNasMessageType d.plainMsg = kRegistrationRequest →
    ∀ r, (if ind.isNasSignallingEstabReq then d.nc else s.maps.amfueid2nasContext ind.amfUeNgapId) =
        some r → E.ueContext ind.ranUeNgapId ind.amfUeNgapId = none → ¬ Pending r s
  /-- Nor does an initial Service Request copy keys then. -/
  serviceRequest : ind.isNasSignallingEstabReq = true →
    getNasMessageType d.plainMsg = kServiceRequest →
    ∀ r uc, d.nc = some r → E.ueContext ind.ranUeNgapId ind.amfUeNgapId = some uc →
      oldNasContext P uc r (P.decode.serviceRequest (d.plainMsg.getD [])).1
        (P.decode.serviceRequest (d.plainMsg.getD [])).2 s ≠ none →
      (s.nc r).isCommonProcedureForSecurityModeControlRunning = false

/-- **The condition on one message.** -/
def GuardedEvent (P : N1Params) (s : N1State) : N1Event → Prop
  | .uplinkNasDataInd ind E => ∀ s' d, deliver P E ind s = (s', some d) → Guarded P E ind s' d
  | .downlinkNasTransfer _ _ => True

/-! ## The invariant -/

/-- The keys of a context with a Security Mode Command out come from an authentication. -/
def KeysOk (P : N1Params) (r : ℕ) (s : N1State) : Prop :=
  (s.nc r).isCommonProcedureForSecurityModeControlRunning = true →
    ∀ nsc, (s.nc r).securityCtx = some nsc → nsc.scType ≠ .notAvailable →
      KeysAuthenticated P r nsc s.trace

/-- What a guarded step keeps. -/
structure Keeps (P : N1Params) (s s' : N1State) : Prop where
  keysOk : (∀ r, KeysOk P r s) → ∀ r, KeysOk P r s'
  registered : (∀ r, KeysOk P r s) → RegisteredProperly P s.trace → RegisteredProperly P s'.trace

/-- The observations that say nothing about a registration. -/
def N1Obs.Harmless : N1Obs → Prop
  | .registrationRequest _ => False
  | .registered _ => False
  | _ => True

/-- The keys of `nc'` are those of `nc`, where they matter. -/
def NasContext.Weaker (nc nc' : NasContext) : Prop :=
  nc'.isCommonProcedureForSecurityModeControlRunning = true →
    ∀ nsc', nc'.securityCtx = some nsc' → nsc'.scType ≠ .notAvailable →
      nc.isCommonProcedureForSecurityModeControlRunning = true ∧
        ∃ nsc, nc.securityCtx = some nsc ∧ nsc.scType ≠ .notAvailable ∧
          nsc.knasInt = nsc'.knasInt ∧ nsc.nasAlgs = nsc'.nasAlgs

section

variable {P : N1Params} {r : ℕ} {kamf : List UInt8} {o : N1Obs} {trace : List N1Obs} {nc : NasContext}
  {s s' s'' : N1State}

theorem AuthenticatedSince.cons (ho : o.Harmless) (h : AuthenticatedSince r kamf trace) :
    AuthenticatedSince r kamf (o :: trace) := by
  cases o with
  | registrationRequest q => exact ho.elim
  | authenticated q k => exact .inr h
  | registered q => exact h
  | passed => exact h
  | accepted q nsc v => exact h
  | dispatched t => exact h
  | installed q nsc => exact h
  | downlink q nsc t => exact h

theorem RegisteredProperly.cons (ho : o.Harmless) (h : RegisteredProperly P trace) :
    RegisteredProperly P (o :: trace) := by
  cases o with
  | registered q => exact ho.elim
  | _ => exact h

theorem KeysAuthenticated.cons {nsc : NasSecuCtx} (ho : o.Harmless)
    (h : KeysAuthenticated P r nsc trace) : KeysAuthenticated P r nsc (o :: trace) :=
  h.imp fun _ hk => ⟨hk.1, hk.2.cons ho⟩

namespace NasContext.Weaker

theorem refl (nc : NasContext) : nc.Weaker nc := fun h nsc hn hs => ⟨h, nsc, hn, hs, rfl, rfl⟩

theorem of_same {nc' : NasContext} (h : nc.Same nc') : nc.Weaker nc' := by
  intro hrun nsc' hn hs
  rw [h.smcRunning] at hrun
  rcases h.securityCtx with h | ⟨-, h⟩
  · exact ⟨hrun, nsc', h ▸ hn, hs, rfl, rfl⟩
  · rw [h] at hn
    cases hn
    exact absurd rfl hs

theorem of_idle {nc' : NasContext}
    (h : ∀ nsc', nc'.securityCtx = some nsc' → nsc'.scType = .notAvailable) : nc.Weaker nc' :=
  fun _ nsc' hn hs => absurd (h nsc' hn) hs

theorem setSecurityCtx {nsc nsc' : NasSecuCtx} (h : nc.securityCtx = some nsc)
    (hs : nsc'.scType = nsc.scType) (hk : nsc'.knasInt = nsc.knasInt)
    (ha : nsc'.nasAlgs = nsc.nasAlgs) : nc.Weaker (nc.setSecurityCtx nsc') := by
  intro hrun c hc hne
  cases hc
  exact ⟨hrun, nsc, h, hs ▸ hne, hk.symm, ha.symm⟩

end NasContext.Weaker

theorem KeysOk.of_weaker (h : KeysOk P r s) (hnc : (s.nc r).Weaker (s'.nc r))
    (htrace : ∀ nsc, KeysAuthenticated P r nsc s.trace → KeysAuthenticated P r nsc s'.trace) :
    KeysOk P r s' := by
  intro hrun nsc' hn hs
  obtain ⟨hrun', nsc, hn', hs', hk, ha⟩ := hnc hrun nsc' hn hs
  obtain ⟨kamf, hkamf, hsince⟩ := htrace nsc (h hrun' nsc hn' hs')
  exact ⟨kamf, by rw [← hk, ← ha, hkamf], hsince⟩

namespace Keeps

@[refl] theorem refl (P : N1Params) (s : N1State) : Keeps P s s := ⟨fun h => h, fun _ h => h⟩

theorem trans (h : Keeps P s s') (h' : Keeps P s' s'') : Keeps P s s'' :=
  ⟨fun hs => h'.keysOk (h.keysOk hs), fun hs ht => h'.registered (h.keysOk hs) (h.registered hs ht)⟩

theorem of_weaker (hnc : ∀ q, (s.nc q).Weaker (s'.nc q)) (ht : s'.trace = s.trace) : Keeps P s s' where
  keysOk h q := (h q).of_weaker (hnc q) fun _ => by rw [ht]; exact id
  registered _ := by
    rw [ht]
    exact id

theorem observe (ho : o.Harmless) : Keeps P s (s.observe o) where
  keysOk h q := (h q).of_weaker (.refl _) fun _ hk => hk.cons ho
  registered _ h := h.cons ho

theorem modifyNc {f : NasContext → NasContext} (h : (s.nc r).Weaker (f (s.nc r))) :
    Keeps P s (s.modifyNc r f) := by
  refine of_weaker (fun q => ?_) rfl
  by_cases hq : q = r
  · subst hq
    rw [N1State.modifyNc_nc_self]
    exact h
  · rw [s.modifyNc_nc_of_ne r q f hq]
    exact .refl _

theorem onMaps {g : NasMaps → NasMaps} (h : (g s.maps).ncs = s.maps.ncs) : Keeps P s (s.onMaps g) :=
  of_weaker (fun q => by rw [s.onMaps_nc q g h]; exact .refl _) rfl

theorem of_touch (h : Touch r s s') : Keeps P s s' := by
  refine of_weaker (fun q => ?_) h.trace
  by_cases hq : q = r
  · subst hq
    exact .of_same h.self
  · rw [h.other q hq]
    exact .refl _

theorem useDownlink {nsc : NasSecuCtx} (h : (s.nc r).securityCtx = some nsc)
    (type : SecurityHeaderType) : Keeps P s (s.useDownlink r nsc type) := by
  refine trans (modifyNc ?_) (observe trivial)
  exact .setSecurityCtx h rfl rfl rfl

theorem of_answers (h : Answers r s s') : Keeps P s s' := by
  rcases h with h | ⟨nsc, s₁, hr, h₁, h₂⟩
  · exact of_touch h
  · exact ((of_touch h₁).trans (useDownlink (h₁.securityCtx hr) _)).trans (of_touch h₂)

theorem newNc : Keeps P s s.newNc.1 := by
  refine of_weaker (fun q => ?_) rfl
  by_cases hq : q = s.maps.ncs.next
  · subst hq
    rw [s.newNc_nc_self]
    exact .of_idle (by simp [NasContext.new])
  · rw [s.newNc_nc_of_ne q hq]
    exact .refl _

/-- A Registration Request of `r` is received, and `r` has no Security Mode Command out afterwards. -/
theorem receive (hr : ¬ Pending r s') (hq : ∀ q, q ≠ r → s'.nc q = s.nc q)
    (ht : s'.trace = .registrationRequest r :: s.trace) : Keeps P s s' where
  keysOk h q := by
    by_cases hqr : q = r
    · subst hqr
      exact fun hrun nsc hn hs => absurd ⟨hrun, nsc, hn, hs⟩ hr
    · refine (h q).of_weaker (hq q hqr ▸ .refl _) fun nsc hk => ?_
      rw [ht]
      exact hk.imp fun _ hk => ⟨hk.1, Ne.symm hqr, hk.2⟩
  registered _ h := by
    rw [ht]
    exact h

end Keeps

end

/-! ## The handlers -/

section

variable (P : N1Params) (E : N1Env) (r : ℕ) (s : N1State) (ran : UInt32) (amf : UInt64)

theorem handleMobileIdentity_nc_of_ne (identity : MobileIdentity) {q : ℕ} (hq : q ≠ r) :
    (handleMobileIdentity r ran amf identity s).nc q = s.nc q := by
  unfold handleMobileIdentity
  split
  · rfl
  · rename_i imsi
    exact s.modifyNc_nc_of_ne r q (fun nc => nc.storeImsi imsi) hq
  · exact s.modifyNc_nc_of_ne r q _ hq
  · rfl

theorem handleMobileIdentity_trace (identity : MobileIdentity) :
    (handleMobileIdentity r ran amf identity s).trace = s.trace := by
  unfold handleMobileIdentity
  split <;> rfl

theorem registerRequest_nc_of_ne (snn : Str) (req : RegistrationRequest) {q : ℕ} (hq : q ≠ r) :
    (registerRequest r ran amf snn req s).nc q = s.nc q :=
  (N1State.modifyNc_nc_of_ne _ r q _ hq).trans
    (handleMobileIdentity_nc_of_ne r s ran amf req.mobileIdentity hq)

theorem registerRequest_nc_self (snn : Str) (req : RegistrationRequest) :
    (registerRequest r ran amf snn req s).nc r =
      ((handleMobileIdentity r ran amf req.mobileIdentity s).nc r).updateByRegistrationRequest ran amf snn
        req := N1State.modifyNc_nc_self ..

theorem not_pending_registerRequest (snn : Str) (req : RegistrationRequest) :
    ¬ Pending r (registerRequest r ran amf snn req s) := by
  rintro ⟨-, nsc, hn, hs⟩
  rw [registerRequest_nc_self] at hn
  obtain ⟨nsc', -, rfl⟩ := Option.map_eq_some_iff.mp hn
  exact hs rfl

theorem registrationRequestHandle_keeps (snn : Str) (reg : Bstring)
    (h : E.ueContext ran amf = none → ¬ Pending r s) :
    Keeps P s (registrationRequestHandle P E r ran amf snn reg s) := by
  rcases registrationRequestHandle_cases P E r s ran amf snn reg with ⟨huc, h'⟩ | ⟨-, h'⟩
  · rw [h']
    refine .receive (r := r) ?_ (fun q hq => s.modifyNc_nc_of_ne r q _ hq) rfl
    rintro ⟨hrun, nsc, hn, hs⟩
    rw [receiveRequest, N1State.observe_nc, N1State.modifyNc_nc_self] at hrun hn
    exact h (Option.isNone_iff_eq_none.mp huc) ⟨hrun, nsc, hn, hs⟩
  · refine Keeps.trans (Keeps.receive (not_pending_registerRequest r _ ran amf snn _) (fun q hq => ?_) ?_)
      (.of_answers h')
    · rw [registerRequest_nc_of_ne r _ ran amf snn _ hq]
      exact s.modifyNc_nc_of_ne r q _ hq
    · exact handleMobileIdentity_trace ..

/-- The Security Mode Command keeps the invariant where the keys it makes are authenticated, or where
one is out already. -/
theorem startSecurityModeControlProcedure_keeps
    (h : ∀ nsc, (s.nc r).securityCtx = some nsc →
      nsc.scType = .notAvailable ∧ AuthenticatedSince r (s.nc r).kamf s.trace ∨
        nsc.scType ≠ .notAvailable ∧ Pending r s) :
    Keeps P s (startSecurityModeControlProcedure P E r s) := by
  rcases startSecurityModeControlProcedure_cases P E r s with
    ⟨hn, h'⟩ | ⟨nsc, hn, hs, h'⟩ | ⟨nsc, hn, hs, h'⟩
  · rw [h']
    exact .modifyNc (.of_idle fun nsc hc => by rw [NasContext.setSecurityModeControlRunning, hn] at hc
                                               cases hc)
  · refine Keeps.trans (.modifyNc ?_) (.of_touch h')
    intro _ nsc' hc hs'
    rcases h nsc hn with ⟨hs'', -⟩ | ⟨-, hrun, -⟩
    · exact absurd hs'' hs
    · exact ⟨hrun, nsc', hc, hs', rfl, rfl⟩
  · have hkamf : AuthenticatedSince r (s.nc r).kamf s.trace := by
      rcases h nsc hn with ⟨-, hk⟩ | ⟨hs', -⟩
      · exact hk
      · exact absurd hs hs'
    refine Keeps.trans ⟨fun hk q => ?_, fun _ ht => ?_⟩ (.of_touch h')
    · by_cases hq : q = r
      · subst hq
        intro _ nsc' hc _
        rw [N1State.useDownlink, N1State.observe_nc, N1State.modifyNc_nc_self] at hc
        cases hc
        exact ⟨(s.nc q).kamf, rfl, .cons (o := .downlink q _ _) trivial
          (.cons (o := .installed q _) trivial hkamf)⟩
      · refine (hk q).of_weaker ?_ fun nsc' hk' => .cons (o := .downlink r _ _) trivial
          (.cons (o := .installed r _) trivial hk')
        rw [N1State.useDownlink, N1State.observe_nc, N1State.modifyNc_nc_of_ne _ _ _ _ hq,
          N1State.observe_nc, N1State.modifyNc_nc_of_ne _ _ _ _ hq, N1State.modifyNc_nc_of_ne _ _ _ _ hq]
        exact .refl _
    · exact .cons (o := .downlink r _ _) trivial (.cons (o := .installed r _) trivial ht)

theorem checkResStar_spec (resStar : List UInt8) :
    Keeps P s (checkResStar P E r resStar s).1 ∧
      (((checkResStar P E r resStar s).1.nc r).securityCtx = (s.nc r).securityCtx) ∧
      (((checkResStar P E r resStar s).1.nc r).isCommonProcedureForSecurityModeControlRunning =
        (s.nc r).isCommonProcedureForSecurityModeControlRunning) := by
  unfold checkResStar
  dsimp only
  split_ifs
  · split
    · exact ⟨.refl P s, rfl, rfl⟩
    · refine ⟨.modifyNc fun hrun nsc hn hs => ⟨hrun, nsc, hn, hs, rfl, rfl⟩, ?_, ?_⟩
      · rw [N1State.modifyNc_nc_self]
        rfl
      · rw [N1State.modifyNc_nc_self]
        rfl
  · exact ⟨.refl P s, rfl, rfl⟩

theorem authenticationResponseHandle_keeps (plainMsg : Bstring)
    (h : ∀ r nsc, s.maps.amfueid2nasContext amf = some r → (s.nc r).securityCtx = some nsc →
      nsc.scType = .notAvailable ∧ P.decode.authenticationResponse (plainMsg.getD []) ≠ none ∨
        nsc.scType ≠ .notAvailable ∧ Pending r s) :
    Keeps P s (authenticationResponseHandle P E ran amf plainMsg s) := by
  unfold authenticationResponseHandle
  split
  · exact .of_touch (sendRegistrationRejectMsg_touch E 0 s _ _ _)
  · rename_i r hmap
    dsimp only
    have h₁ : Keeps P s (s.modifyNc r fun nc => nc.setAuthenticationRunning false) :=
      .modifyNc fun hrun nsc hn hs => ⟨hrun, nsc, hn, hs, rfl, rfl⟩
    have hself := s.modifyNc_nc_self r fun nc => nc.setAuthenticationRunning false
    have hctx : ((s.modifyNc r fun nc => nc.setAuthenticationRunning false).nc r).securityCtx =
        (s.nc r).securityCtx := by rw [hself]; rfl
    have hrun : ((s.modifyNc r fun nc => nc.setAuthenticationRunning
        false).nc r).isCommonProcedureForSecurityModeControlRunning =
          (s.nc r).isCommonProcedureForSecurityModeControlRunning := by rw [hself]; rfl
    split
    · rename_i hres
      refine h₁.trans (startSecurityModeControlProcedure_keeps P E r _ fun nsc hn => ?_)
      rw [hctx] at hn
      rcases h r nsc hmap hn with ⟨-, hne⟩ | ⟨hs, hp⟩
      · exact absurd hres hne
      · exact .inr ⟨hs, hrun.trans hp.1, hctx ▸ hp.2⟩
    · rename_i resStar _
      obtain ⟨h₂, hctx', hrun'⟩ := checkResStar_spec P E r
        (s.modifyNc r fun nc => nc.setAuthenticationRunning false) resStar
      split <;> rename_i s' heq <;> rw [heq] at h₂ hctx' hrun'
      · refine (h₁.trans h₂).trans (Keeps.trans (.observe (o := .authenticated r _) trivial)
          (startSecurityModeControlProcedure_keeps P E r _ fun nsc hn => ?_))
        have hn' : (s.nc r).securityCtx = some nsc := hctx.symm.trans (hctx'.symm.trans hn)
        rcases h r nsc hmap hn' with ⟨hs, -⟩ | ⟨hs, hp⟩
        · exact .inl ⟨hs, .inl ⟨rfl, rfl⟩⟩
        · exact .inr ⟨hs, hrun'.trans (hrun.trans hp.1), nsc, hn, hs⟩
      · exact (h₁.trans h₂).trans (.of_touch (sendRegistrationRejectMsg_touch E r s' _ _ _))

theorem ProperComplete.cons {o : N1Obs} {trace : List N1Obs} (ho : o.Harmless)
    (hr : lastReceived (o :: trace) = lastReceived trace) (h : ProperComplete P r trace) :
    ProperComplete P r (o :: trace) := by
  obtain ⟨nsc, hlast, hmac, hk⟩ := h
  exact ⟨nsc, hr.trans hlast, hmac, hk.cons ho⟩

theorem ProperComplete.of_answers {s₁ : N1State} (h : Answers r s s₁)
    (hp : ProperComplete P r s.trace) : ProperComplete P r s₁.trace := by
  rcases h with h | ⟨nsc, s₂, -, h, h'⟩
  · rw [h.trace]
    exact hp
  · rw [h'.trace, N1State.useDownlink, N1State.observe_trace, N1State.modifyNc_trace, h.trace]
    exact hp.cons P r trivial rfl

theorem securityModeCompleteHandle_keeps (nasMsg : Bstring)
    (h : (∀ r, KeysOk P r s) → ∀ r, s.maps.amfueid2nasContext amf = some r →
      ProperComplete P r s.trace) :
    Keeps P s (securityModeCompleteHandle P E ran amf nasMsg s) := by
  rcases securityModeCompleteHandle_cases P E s ran amf nasMsg with
    h' | ⟨r, guti, s₁, hguti, hans, h'⟩
  · exact .of_touch (h' 0)
  · have hmap := allocates_amfueid2nasContext P E hguti
    have hall : Keeps P s (allocate r guti s) :=
      Keeps.trans (.onMaps rfl) (.modifyNc fun hrun => absurd hrun (by simp [NasContext.storeGuti]))
    rcases h' with h' | ⟨-, h'⟩ <;> rw [h']
    · exact hall.trans (.of_answers hans)
    · have hmark : Keeps P s₁ (s₁.modifyNc r fun nc => nc.setFivegmmState .registered) :=
        .modifyNc fun hrun nsc hn hs => ⟨hrun, nsc, hn, hs, rfl, rfl⟩
      have hall' := (hall.trans (.of_answers hans)).trans hmark
      refine ⟨fun hk q => hall'.keysOk hk q, fun hk ht => ⟨?_, hall'.registered hk ht⟩⟩
      have hp : ProperComplete P r s₁.trace := ProperComplete.of_answers P r _ hans (h hk r hmap)
      exact hp

theorem findOrCreateNc_keeps : Keeps P s (findOrCreateNc amf s).1 := by
  unfold findOrCreateNc
  split
  · rfl
  · refine Keeps.newNc.trans ?_
    exact .onMaps (s := s.newNc.1) (g := fun m => m.setAmfUeNgapId2NasContext amf s.newNc.2) rfl

theorem identityResponseHandle_keeps (plainMsg : Bstring) :
    Keeps P s (identityResponseHandle P E ran amf plainMsg s) := by
  refine Keeps.trans ?_ (.of_touch (identityResponseHandle_touch P E s ran amf plainMsg))
  refine (findOrCreateNc_keeps P s amf).trans (Keeps.trans (.modifyNc ?_) (.onMaps rfl))
  exact fun hrun nsc hn hs => ⟨hrun, nsc, hn, hs, rfl, rfl⟩

theorem continueServiceRequest_keeps (decoded : Bool) (req : ServiceRequest) :
    Keeps P s (continueServiceRequest P E r ran amf decoded req s) := by
  rcases continueServiceRequest_answers P E r s ran amf decoded req with ⟨-, h⟩ | ⟨-, h⟩
  · exact .of_touch h
  · exact Keeps.trans (.onMaps rfl) (.of_answers h)

theorem takeOldContext_keeps (old : ℕ) (nsc : NasSecuCtx) (ulCount : UInt8)
    (h : (s.nc r).isCommonProcedureForSecurityModeControlRunning = false) :
    Keeps P s (takeOldContext r old nsc ulCount s) := by
  refine Keeps.trans (.modifyNc fun hrun => ?_)
    (Keeps.trans (.observe (o := .installed r _) trivial) (.observe (o := .accepted r _ _) trivial))
  rw [NasContext.takeOver, h] at hrun
  cases hrun

theorem serviceRequestHandleUlCount_keeps (nas : Bstring) (ulCount : UInt8)
    (h : ∀ uc, E.ueContext ran amf = some uc →
      oldNasContext P uc r (P.decode.serviceRequest (nas.getD [])).1
        (P.decode.serviceRequest (nas.getD [])).2 s ≠ none →
      (s.nc r).isCommonProcedureForSecurityModeControlRunning = false) :
    Keeps P s (serviceRequestHandleUlCount P E r ran amf nas ulCount s) := by
  rcases serviceRequestHandleUlCount_cases P E r s ran amf nas ulCount with
    h' | ⟨-, d, req, -, -, -, h'⟩ | ⟨uc, d, req, old, nsc, huc, hdec, hold, -, h'⟩ <;> rw [h']
  · exact continueServiceRequest_keeps P E r s ran amf d req
  · refine (takeOldContext_keeps P r s old nsc ulCount (h uc huc ?_)).trans
      (continueServiceRequest_keeps P E r _ ran amf d req)
    rw [hdec, hold]
    exact Option.some_ne_none old

theorem ueInitiateDeRegistrationHandle_keeps (nas : Bstring) :
    Keeps P s (ueInitiateDeRegistrationHandle P E ran amf nas s) := by
  rcases ueInitiateDeRegistrationHandle_cases P E s ran amf nas with ⟨-, h⟩ | ⟨r, -, -, h⟩
  · exact .of_touch (h 0)
  · exact Keeps.trans (.onMaps rfl) (.of_touch h)

theorem serviceRequestHandle_keeps (nas : Bstring) :
    Keeps P s (serviceRequestHandle P E r ran amf nas s) := by
  rcases serviceRequestHandle_answers P E r s ran amf nas with h | h
  · exact .of_touch h
  · exact Keeps.trans (.onMaps rfl) (.of_answers h)

/-! ## Receiving a message -/

variable (ind : UplinkNasDataInd) (d : Delivery)

theorem findNasContext_keeps : Keeps P s (findNasContext ind s).1 := by
  unfold findNasContext
  split
  · rfl
  · split
    · rfl
    · unfold moveToConnection
      dsimp only
      refine Keeps.trans (.modifyNc ?_) (.onMaps rfl)
      exact fun hrun nsc hn hs => ⟨hrun, nsc, hn, hs, rfl, rfl⟩

/-- The algorithms and keys of a security context survive the receipt of a message. -/
theorem unprotectNasMessage_fst (alg : NasAlgorithms) (beyond : Memory) (nsc : NasSecuCtx)
    (msg : List UInt8) :
    (unprotectNasMessage alg beyond nsc .uplink msg).1 =
      nsc.setUlSeqNum (Memory.ofList msg beyond kSequenceNumberOctet) := by
  unfold unprotectNasMessage
  dsimp only
  split
  · exact nasMessageIntegrityProtected_uplink ..
  · split_ifs <;> exact nasMessageIntegrityProtected_uplink ..

theorem unprotectNasMessage_isMatched {alg : NasAlgorithms} {beyond : Memory} {nsc : NasSecuCtx}
    {msg : List UInt8} {u : Unprotected} (hi : nsc.nasAlgs.integrity ≠ 0)
    (h : (unprotectNasMessage alg beyond nsc .uplink msg).2 = some u) : u.isMatched = true := by
  have hne := mt (@nasMessageIntegrityProtected_eq_none_iff alg nsc .uplink
    (Memory.ofList msg beyond) kSequenceNumberOctet (msg.length - kSequenceNumberOctet : ℤ) 0).mp hi
  obtain ⟨mac, hmac⟩ := Option.ne_none_iff_exists'.mp hne
  unfold unprotectNasMessage at h
  simp only [hmac] at h
  split_ifs at h
  cases h
  rfl

theorem setSecurityCtx_ul_keeps {nsc : NasSecuCtx} (h : (s.nc r).securityCtx = some nsc) (seq : UInt8) :
    Keeps P s (s.modifyNc r fun nc => nc.setSecurityCtx (nsc.setUlSeqNum seq)) := by
  refine .modifyNc ?_
  exact .setSecurityCtx h rfl rfl rfl

theorem securityCtxOf_eq_some {nc : Option ℕ} {nsc : NasSecuCtx} (h : securityCtxOf nc s = some (r, nsc)) :
    nc = some r ∧ (s.nc r).securityCtx = some nsc := by
  unfold securityCtxOf at h
  obtain ⟨q, hq, hn⟩ := Option.bind_eq_some_iff.mp h
  obtain ⟨c, hc, he⟩ := Option.map_eq_some_iff.mp hn
  cases he
  exact ⟨hq, hc⟩

theorem unprotectUplink_keeps (nc : Option ℕ) (msg : List UInt8) :
    Keeps P s (unprotectUplink P E nc msg s).1 := by
  have hprotected : ∀ type, Keeps P s (passProtected P E type nc msg s).1 := by
    intro type
    unfold passProtected
    split
    · rfl
    · rename_i r nsc hctx
      have hctx' := (securityCtxOf_eq_some r s hctx).2
      have hfst := unprotectNasMessage_fst P.alg E.beyond nsc msg
      split <;> rename_i heq <;> rw [heq] at hfst <;> dsimp only at hfst <;> subst hfst
      · exact setSecurityCtx_ul_keeps P r s hctx' _
      · exact (setSecurityCtx_ul_keeps P r s hctx' _).trans (.observe (o := .accepted r _ _) trivial)
  unfold unprotectUplink
  split
  · rfl
  · exact .observe (o := .passed) trivial
  · unfold passIntegrityProtected
    dsimp only
    split
    · exact .observe (o := .passed) trivial
    · exact .observe (o := .accepted _ _ _) trivial
  · exact hprotected _

theorem deliver_protected {s' : N1State} (h : deliver P E ind s = (s', some d))
    (h₀ : d.type ≠ .plain5gsMessage) (h₁ : d.type ≠ .integrityProtected) :
    ∃ r nsc b trace, d.nc = some r ∧ (s'.nc r).securityCtx = some nsc ∧
      s'.trace = .accepted r nsc b :: trace ∧ (nsc.nasAlgs.integrity ≠ 0 → b = true) := by
  unfold deliver at h
  dsimp only at h
  generalize findNasContext ind s = p at h
  obtain ⟨s₀, nc⟩ := p
  have hprotected : ∀ type, passProtected P E type nc ind.nasMsg s₀ = (s', some d) →
      ∃ r nsc b trace, d.nc = some r ∧ (s'.nc r).securityCtx = some nsc ∧
        s'.trace = .accepted r nsc b :: trace ∧ (nsc.nasAlgs.integrity ≠ 0 → b = true) := by
    intro type hpass
    unfold passProtected at hpass
    split at hpass
    · cases hpass
    · rename_i r nsc hctx
      obtain ⟨rfl, -⟩ := securityCtxOf_eq_some r s₀ hctx
      have hfst := unprotectNasMessage_fst P.alg E.beyond nsc ind.nasMsg
      split at hpass
      · cases hpass
      · rename_i nsc' u heq
        rw [heq] at hfst
        cases hpass
        refine ⟨r, nsc', u.isMatched, s₀.trace, rfl, ?_, rfl, fun hi => ?_⟩
        · rw [N1State.observe_nc, N1State.modifyNc_nc_self]
          rfl
        · obtain rfl : nsc' = _ := hfst
          exact unprotectNasMessage_isMatched hi (congrArg Prod.snd heq)
  unfold unprotectUplink at h
  dsimp only at h
  split at h
  · cases h
  · cases h
    exact absurd rfl h₀
  · cases h
    exact absurd rfl h₁
  · exact hprotected _ h

/-- Taking the protection off keeps the maps, and the context the message is for. -/
theorem unprotectUplink_spec (nc : Option ℕ) (msg : List UInt8) :
    (unprotectUplink P E nc msg s).1.maps.amfueid2nasContext = s.maps.amfueid2nasContext ∧
      ∀ d, (unprotectUplink P E nc msg s).2 = some d → d.nc = nc := by
  have hprotected : ∀ type,
      (passProtected P E type nc msg s).1.maps.amfueid2nasContext = s.maps.amfueid2nasContext ∧
        ∀ d, (passProtected P E type nc msg s).2 = some d → d.nc = nc := by
    intro type
    unfold passProtected
    split
    · exact ⟨rfl, fun d hd => by cases hd⟩
    · split
      · exact ⟨rfl, fun d hd => by cases hd⟩
      · exact ⟨rfl, fun d hd => by cases hd; rfl⟩
  unfold unprotectUplink
  split
  · exact ⟨rfl, fun d hd => by cases hd⟩
  · exact ⟨rfl, fun d hd => by cases hd; rfl⟩
  · unfold passIntegrityProtected
    dsimp only
    split
    · exact ⟨rfl, fun d hd => by cases hd; rfl⟩
    · exact ⟨rfl, fun d hd => by cases hd; rfl⟩
  · exact hprotected _

theorem findNasContext_amfueid2nasContext {q : ℕ} (h : (findNasContext ind s).2 = some q) :
    (findNasContext ind s).1.maps.amfueid2nasContext ind.amfUeNgapId = some q := by
  unfold findNasContext at h ⊢
  cases hg : ind.guti with
  | none =>
    simp only [hg] at h ⊢
    exact h
  | some guti =>
    simp only [hg] at h ⊢
    cases hm : s.maps.guti2nasContext guti with
    | none =>
      simp only [hm] at h
      cases h
    | some r =>
      simp only [hm] at h ⊢
      cases h
      exact Function.update_self ..

theorem deliver_nc {s' : N1State} {q : ℕ} (h : deliver P E ind s = (s', some d)) (hd : d.nc = some q) :
    s'.maps.amfueid2nasContext ind.amfUeNgapId = some q := by
  have hfind := findNasContext_amfueid2nasContext s ind (q := q)
  unfold deliver at h
  generalize findNasContext ind s = p at h hfind
  obtain ⟨s₀, nc⟩ := p
  have hspec := unprotectUplink_spec P E s₀ nc ind.nasMsg
  dsimp only at h hfind
  rw [h] at hspec
  rw [hspec.1]
  exact hfind ((hspec.2 d rfl).symm.trans hd)

theorem establishNc_keeps (nc : Option ℕ) : Keeps P s (establishNc ind nc s).1 := by
  unfold establishNc
  split
  · rename_i r
    exact .onMaps (g := fun m => m.setAmfUeNgapId2NasContext ind.amfUeNgapId r) rfl
  · dsimp only
    refine Keeps.newNc.trans (Keeps.trans (.onMaps rfl) (.modifyNc ?_))
    exact fun hrun nsc hn hs => ⟨hrun, nsc, hn, hs, rfl, rfl⟩

/-- An old context is looked for by the GUTI of the context and the map of GUTIs only. -/
theorem oldNasContext_congr {uc : N1UeContext} {decoded : Bool} {req : ServiceRequest} {s' : N1State}
    (hguti : (s'.nc r).guti = (s.nc r).guti)
    (hmap : s'.maps.guti2nasContext = s.maps.guti2nasContext) :
    oldNasContext P uc r decoded req s' = oldNasContext P uc r decoded req s := by
  unfold oldNasContext
  rw [hguti, hmap]

theorem nasSignallingEstablishmentRequestHandle_keeps (h : Guarded P E ind s d)
    (hi : ind.isNasSignallingEstabReq = true) :
    Keeps P s (nasSignallingEstablishmentRequestHandle P E ind d s) := by
  have hest := establishNc_keeps P s ind d.nc
  -- an existing context only gets a map entry, a new one has no keys
  have hnc : d.nc = some (establishNc ind d.nc s).2 ∧ (establishNc ind d.nc s).1 = s.onMaps
        (fun m => m.setAmfUeNgapId2NasContext ind.amfUeNgapId (establishNc ind d.nc s).2) ∨
      ((establishNc ind d.nc s).1.nc
        (establishNc ind d.nc s).2).isCommonProcedureForSecurityModeControlRunning = false := by
    cases hd : d.nc with
    | some r => exact .inl ⟨rfl, rfl⟩
    | none =>
      refine .inr ?_
      unfold establishNc
      dsimp only
      rw [N1State.modifyNc_nc_self]
      exact congrArg NasContext.isCommonProcedureForSecurityModeControlRunning s.newNc_nc_self
  unfold nasSignallingEstablishmentRequestHandle
  dsimp only
  generalize establishNc ind d.nc s = p at hest hnc
  obtain ⟨s₁, r⟩ := p
  dsimp only at hest hnc ⊢
  split_ifs with hreq hserv
  · refine hest.trans (Keeps.trans (.observe (o := .dispatched _) trivial)
      (registrationRequestHandle_keeps P E _ _ _ _ _ _ fun huc => ?_))
    rintro ⟨hrun, hctx⟩
    rcases hnc with ⟨hd, rfl⟩ | hidle
    · exact h.registrationRequest hreq r (by rw [if_pos hi]; exact hd) huc ⟨hrun, hctx⟩
    · rw [N1State.observe_nc, hidle] at hrun
      cases hrun
  · refine hest.trans (Keeps.trans (.observe (o := .dispatched _) trivial) (Keeps.trans (.modifyNc ?_)
      (serviceRequestHandleUlCount_keeps P E _ _ _ _ _ _ fun uc huc hold => ?_)))
    · intro hrun nsc' hn hs
      obtain ⟨nsc, hn', rfl⟩ := Option.map_eq_some_iff.mp hn
      exact ⟨hrun, nsc, hn', hs, rfl, rfl⟩
    · rw [N1State.modifyNc_nc_self]
      rcases hnc with ⟨hd, rfl⟩ | hidle
      · refine h.serviceRequest hi hserv r uc hd huc ?_
        refine fun hnone => hold (Eq.trans (oldNasContext_congr P r s ?_ ?_) hnone)
        · rw [N1State.modifyNc_nc_self]
          rfl
        · rfl
      · exact hidle
  · exact hest

theorem uplinkNasMsgHandle_keeps (h : Guarded P E ind s d) (hi : ind.isNasSignallingEstabReq = false)
    (hcomplete : getNasMessageType d.plainMsg = kSecurityModeComplete → (∀ r, KeysOk P r s) →
      ∀ r, s.maps.amfueid2nasContext ind.amfUeNgapId = some r → ProperComplete P r s.trace) :
    Keeps P s (uplinkNasMsgHandle P E ind d.plainMsg s) := by
  have hdis : Keeps P s (s.observe (.dispatched (getNasMessageType d.plainMsg))) :=
    .observe (o := .dispatched _) trivial
  refine uplinkNasMsgHandle_cases P E (motive := Keeps P s) rfl ?response ?failure ?complete ?transport
    ?deregistration ?identity ?service ?registration hdis fun _ => .refl P s
  case response =>
    exact fun htype => hdis.trans
      (authenticationResponseHandle_keeps P E _ _ _ _ (h.authenticationResponse hi htype))
  case failure =>
    obtain ⟨r, hr⟩ := authenticationFailureHandle_touch P E
      (s.observe (.dispatched (getNasMessageType d.plainMsg))) ind.ranUeNgapId ind.amfUeNgapId d.plainMsg
    exact hdis.trans (.of_touch hr)
  case complete =>
    intro htype
    refine hdis.trans (securityModeCompleteHandle_keeps P E _ _ _ _ fun hk r hmap => ?_)
    exact (hcomplete htype hk r hmap).cons P r trivial rfl
  case transport =>
    exact hdis.trans (.of_touch (ulNasTransportHandle_touch P E 0 _ _ _ _ _ _))
  case deregistration =>
    exact hdis.trans (ueInitiateDeRegistrationHandle_keeps P E _ _ _ _)
  case identity =>
    exact fun _ => hdis.trans (identityResponseHandle_keeps P E _ _ _ _)
  case service =>
    exact fun r _ => hdis.trans (serviceRequestHandle_keeps P E r _ _ _ _)
  case registration =>
    intro htype r hmap
    refine hdis.trans (registrationRequestHandle_keeps P E r _ _ _ _ _ fun huc => ?_)
    exact h.registrationRequest htype r (by simpa [hi] using hmap) huc

/-- **One guarded message keeps the invariant and the property.** -/
theorem n1Step_keeps (e : N1Event) (h : GuardedEvent P s e) : Keeps P s (n1Step P s e) := by
  cases e with
  | downlinkNasTransfer msg E =>
    rcases handleDownlinkNasTransfer_cases P E s msg with h' | ⟨r, -, h'⟩
    · change Keeps P s (handleDownlinkNasTransfer P E msg s)
      rw [h']
    · exact .of_answers h'
  | uplinkNasDataInd ind E =>
    have hdel : Keeps P s (deliver P E ind s).1 := by
      have hfind := findNasContext_keeps P s ind
      unfold deliver
      exact hfind.trans (unprotectUplink_keeps P E _ _ _)
    change Keeps P s (handleUplinkNasDataInd P E ind s)
    unfold handleUplinkNasDataInd
    split
    · rename_i s' heq
      rw [heq] at hdel
      exact hdel
    · rename_i s' d heq
      rw [heq] at hdel
      have hg := h s' d heq
      refine hdel.trans ?_
      unfold dispatch
      split_ifs with hi
      · exact nasSignallingEstablishmentRequestHandle_keeps P E s' ind d hg hi
      · rw [Bool.not_eq_true] at hi
        refine uplinkNasMsgHandle_keeps P E s' ind d hg hi fun hty hk r hmap => ?_
        -- the message was accepted under the context that is now registered
        obtain ⟨h₀, h₁, ⟨hrun, nsc, hctx, hs⟩, hmac⟩ := hg.securityModeComplete hi hty r hmap
        obtain ⟨q, nsc', b, trace, hd, hctx', ht, hb⟩ := deliver_protected P E s ind d heq h₀ h₁
        have hq : q = r := Option.some_injective _ ((deliver_nc P E s ind d heq hd).symm.trans hmap)
        subst hq
        rw [hctx] at hctx'
        cases hctx'
        have hmac' := hmac nsc hctx
        have hb' : b = true := hb (by rcases hmac' with h | h <;> rw [h] <;> decide)
        refine ⟨nsc, ?_, hmac', hk q hrun nsc hctx hs⟩
        rw [ht, hb']
        rfl

/-- **A run of guarded messages registers a context only by a Security Mode Complete that verifies under
keys from an authentication since the last Registration Request.** -/
theorem registered_only_authenticated (es : List N1Event)
    (h : Along (n1Step P) (GuardedEvent P) N1State.init es) :
    RegisteredProperly P (run (n1Step P) N1State.init es).trace := by
  have hinv : (∀ r, KeysOk P r (run (n1Step P) N1State.init es)) ∧
      RegisteredProperly P (run (n1Step P) N1State.init es).trace := by
    refine h.invariant (I := fun s => (∀ r, KeysOk P r s) ∧ RegisteredProperly P s.trace)
      (fun s e hs he => ?_) ⟨fun r hrun => ?_, trivial⟩
    · have hk := n1Step_keeps P s e he
      exact ⟨hk.keysOk hs.1, hk.registered hs.1 hs.2⟩
    · cases hrun
  exact hinv.2

end

/-! ## A registration, and one without authentication -/

section

/-- One UE with the algorithms NEA2 and NIA2; its RES* is the octet 1. -/
def oneUeParams : N1Params :=
  { blankParams with
    decode := { blankDecoders with
      registrationRequest := fun _ =>
        ⟨.suci (some "001010000000001".toList), 1, false, 7, none, some ⟨0x20, 0x20⟩, none, none, none⟩
      authenticationResponse := fun msg => if msg.length = 3 then none else some (msg.drop 3) }
    sha256 := fun msg => msg.drop 16 ++ List.replicate 31 0
    deriveKamf := fun _ kseaf => kseaf
    alg := { blankParams.alg with nia2 := fun c msg => UInt32.ofNat (c.count + msg.length) } }

/-- The neighbours of `amf_n1` for that UE. -/
def oneUeEnv : N1Env :=
  { blankEnv with
    ueContext := fun _ _ => some ⟨"imsi-001010000000001".toList, "001".toList, "01".toList, 1, 1, false⟩
    localVector := fun _ => some ⟨List.replicate 16 7, List.replicate 16 8, 1 :: List.replicate 15 0,
      List.replicate 32 9⟩
    generate5gGuti := fun _ _ => some ("001".toList, "01".toList, 1)
    encode := fun _ => [0x7e, 0, 0x42] }

/-- An uplink message of that UE. -/
def fromOneUe (isNasSignallingEstabReq : Bool) (nasMsg : List UInt8) : N1Event :=
  .uplinkNasDataInd ⟨1, 1, isNasSignallingEstabReq, nasMsg, none, "001".toList, "01".toList⟩ oneUeEnv

/-- Registration Request, Authentication Response with RES*, Security Mode Complete of header type 4. -/
def registration : List N1Event :=
  [fromOneUe true [0x7e, 0, 0x41], fromOneUe false [0x7e, 0, 0x57, 1],
    fromOneUe false [0x7e, 4, 0, 0, 0, 4, 0, 0x7e, 0, 0x5e]]

theorem registration_guarded : Along (n1Step oneUeParams) (GuardedEvent oneUeParams) N1State.init
    registration := by
  refine ⟨?_, ?_, ?_, trivial⟩
  · rintro s' d h
    obtain ⟨rfl, hd⟩ := Prod.mk.inj h
    cases hd
    refine ⟨fun h => absurd h (by decide), fun h => absurd h (by decide), fun _ r hr => ?_,
      fun _ h => absurd h (by decide)⟩
    cases (show none = some r from hr)
  · rintro s' d h
    obtain ⟨rfl, hd⟩ := Prod.mk.inj h
    cases hd
    refine ⟨fun _ h => absurd h (by decide), fun _ _ r nsc hr hctx => .inl ⟨?_, by decide⟩,
      fun h => absurd h (by decide), fun h => absurd h (by decide)⟩
    cases hr
    cases hctx
    rfl
  · rintro s' d h
    obtain ⟨rfl, hd⟩ := Prod.mk.inj h
    cases hd
    refine ⟨fun _ _ r hr => ?_, fun _ h => absurd h (by decide), fun h => absurd h (by decide),
      fun h => absurd h (by decide)⟩
    cases hr
    refine ⟨by decide, by decide, ⟨rfl, _, rfl, by decide⟩, fun nsc hctx => ?_⟩
    cases hctx
    exact .inr rfl

/-- The UE is registered, properly. -/
theorem registered_only_authenticated_registration :
    N1Obs.registered 0 ∈ (run (n1Step oneUeParams) N1State.init registration).trace ∧
      RegisteredProperly oneUeParams (run (n1Step oneUeParams) N1State.init registration).trace :=
  ⟨by decide, registered_only_authenticated oneUeParams registration registration_guarded⟩

theorem not_registeredProperly_of_passed {P : N1Params} {trace : List N1Obs} {r : ℕ}
    (hhead : trace.head? = some (.registered r)) (hlast : lastReceived trace = some .passed) :
    ¬ RegisteredProperly P trace := by
  cases trace with
  | nil => cases hhead
  | cons o trace =>
    obtain rfl : o = .registered r := Option.some_injective _ hhead
    rintro ⟨⟨nsc, hacc, -⟩, -⟩
    rw [show lastReceived trace = some .passed from hlast] at hacc
    cases hacc

/-- **A plain Security Mode Complete right after the Registration Request** registers a context that was
never authenticated. -/
theorem plainComplete_registers :
    ¬ RegisteredProperly oneUeParams (run (n1Step oneUeParams) N1State.init
      [fromOneUe true [0x7e, 0, 0x41], fromOneUe false [0x7e, 0, 0x5e]]).trace :=
  not_registeredProperly_of_passed (r := 0) (by decide) (by decide)

end

end Oai5g.Amf
