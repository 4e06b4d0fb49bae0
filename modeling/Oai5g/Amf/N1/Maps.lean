import Oai5g.Amf.N1.Authenticated
import Oai5g.Amf.N1.Unauthentic

/-!
# The maps of NAS contexts

* `MapsAgree`: every context in a map is stored under its own IDs only, and `supi2amfId` and `supi2ranId`
  give the IDs of the context with that SUPI.
* `Forgotten`: what a de-registration should leave.
* `KeepsMaps`: the messages that keep the maps.
* `MapsInv`: the invariant. `of_ids` is the one place where a context gets an identity or new IDs, and
  every handler comes down to it, to `of_sameIds` or to a removal.
* **`mapsKept_run`**: the runs of such messages.
-/

namespace Oai5g.Amf

/-! ## The property -/

section

variable (m : NasMaps)

/-- A context is in one of the maps. -/
def Live (r : ℕ) : Prop :=
  (∃ a, m.amfueid2nasContext a = some r) ∨ (∃ g, m.guti2nasContext g = some r) ∨
    ∃ x, m.supi2nasContext x = some r

/-- With this IMSI, a context has a SUPI: the IMSI is there, or its entry in `supi2nas_context`. -/
def NamedBy (r : ℕ) (imsi : Str) : Prop := imsi ≠ [] ∨ m.supi2nasContext (imsiToSupi imsi) = some r

/-- A context has a SUPI. -/
def Named (r : ℕ) : Prop := NamedBy m r (m.nc r).imsi

/-- **Every context in the maps is found under its own IDs only, and its SUPI gives its IDs.** -/
structure MapsAgree : Prop where
  amf : ∀ a r, m.amfueid2nasContext a = some r → (m.nc r).amfUeNgapId = a
  guti : ∀ g r, m.guti2nasContext g = some r → (m.nc r).guti = some g
  supi : ∀ x r, m.supi2nasContext x = some r → (m.nc r).supi = x
  ids : ∀ r, Live m r → Named m r → m.supi2amfId (m.nc r).supi = some (m.nc r).amfUeNgapId ∧
    m.supi2ranId (m.nc r).supi = some (m.nc r).ranUeNgapId

/-- No map mentions a context or its SUPI. -/
structure Forgotten (r : ℕ) (supi : Str) : Prop where
  amf : ∀ a, m.amfueid2nasContext a ≠ some r
  guti : ∀ g, m.guti2nasContext g ≠ some r
  nc : ∀ x, m.supi2nasContext x ≠ some r
  free : m.supi2nasContext supi = none
  amfId : m.supi2amfId supi = none
  ranId : m.supi2ranId supi = none

end

/-- The context that a De-registration Request is for, with its SUPI: an initial message makes one where the
UE has none. -/
def deregisteringNc (ind : UplinkNasDataInd) (d : Delivery) (s : N1State) : Option (ℕ × Str) :=
  if ind.isNasSignallingEstabReq then
    let (s, r) := establishNc ind d.nc s
    some (r, (s.nc r).supi)
  else (s.maps.amfueid2nasContext ind.amfUeNgapId).map fun r => (r, (s.nc r).supi)

/-- A De-registration Request leaves nothing of its context. -/
def Deregisters (P : N1Params) (s : N1State) : N1Event → Prop
  | .uplinkNasDataInd ind E => ∀ s' d r supi, deliver P E ind s = (s', some d) →
      getNasMessageType d.plainMsg = kDeregistrationRequestUeOriginating →
      deregisteringNc ind d s' = some (r, supi) →
      Forgotten (n1Step P s (.uplinkNasDataInd ind E)).maps r supi
  | .downlinkNasTransfer _ _ => True

/-- **The maps agree in every state of a run, and every de-registration leaves nothing behind.** -/
def MapsKept (P : N1Params) (es : List N1Event) : Prop :=
  MapsAgree (run (n1Step P) N1State.init es).maps ∧
    Along (n1Step P) (fun s e => MapsAgree s.maps ∧ Deregisters P s e) N1State.init es

/-! ## The condition -/

/-- The other contexts in the maps with a SUPI have the IDs that it is given. -/
def OthersAgree (m : NasMaps) (r : ℕ) (supi : Str) (amf : UInt64) (ran : UInt32) : Prop :=
  ∀ q, q ≠ r → Live m q → Named m q → (m.nc q).supi = supi →
    (m.nc q).amfUeNgapId = amf ∧ (m.nc q).ranUeNgapId = ran

section

variable (P : N1Params) (E : N1Env)

/-- A context found by its GUTI has no other AMF UE NGAP ID. -/
def MoveKeeps (ind : UplinkNasDataInd) (s : N1State) : Prop :=
  ∀ guti r, ind.guti = some guti → s.maps.guti2nasContext guti = some r →
    (∀ a, s.maps.amfueid2nasContext a = some r → a = ind.amfUeNgapId) ∧
    OthersAgree ((s.maps.setAmfUeNgapId2NasContext ind.amfUeNgapId r).setSupi2NasContext (s.nc r).supi r)
      r (s.nc r).supi ind.amfUeNgapId ind.ranUeNgapId

/-- A Registration Request brings the SUPI that the context has, or had none yet; without an IMSI, the
RAN UE NGAP ID stays. -/
def RegisterKeeps (r : ℕ) (ran : UInt32) (amf : UInt64) (reg : Bstring) (s : N1State) : Prop :=
  (E.ueContext ran amf).isSome →
  match (P.decode.registrationRequest (reg.getD [])).mobileIdentity with
  | .suci (some imsi) => (∀ x, s.maps.supi2nasContext x = some r → x = imsiToSupi imsi) ∧
      OthersAgree (s.maps.setSupi2NasContext (imsiToSupi imsi) r) r (imsiToSupi imsi) amf ran
  | _ => Named s.maps r → (s.nc r).ranUeNgapId = ran

/-- An initial Service Request is for the SUPI of one context only, on the connection it has. -/
def ServeKeeps (r : ℕ) (ran : UInt32) (amf : UInt64) (nas : Bstring) (s : N1State) : Prop :=
  ∀ uc, E.ueContext ran amf = some uc →
  let (decoded, req) := P.decode.serviceRequest (nas.getD [])
  match oldNasContext P uc r decoded req s with
  | none => decoded = true → (s.nc r).securityCtx.isSome →
      OthersAgree s.maps r (s.nc r).supi amf ran ∧ (Named s.maps r → (s.nc r).ranUeNgapId = ran)
  | some old => (s.nc old).securityCtx.isSome →
      (∀ x, s.maps.supi2nasContext x = some r → x = (s.nc old).supi) ∧
      OthersAgree s.maps r (s.nc old).supi amf ran ∧
      (NamedBy s.maps r (s.nc old).imsi → (s.nc r).ranUeNgapId = ran)

/-- An Identity Response brings the SUPI that the context has, or had none yet. -/
def IdentifyKeeps (ran : UInt32) (amf : UInt64) (plainMsg : Bstring) (s : N1State) : Prop :=
  let supi := imsiToSupi (P.decode.identityResponse (plainMsg.getD []))
  let r := (findOrCreateNc amf s).2
  (∀ x, s.maps.supi2nasContext x = some r → x = supi) ∧ OthersAgree s.maps r supi amf ran

/-- The context has no other GUTI. -/
def AllocateKeeps (ran : UInt32) (amf : UInt64) (s : N1State) : Prop :=
  ∀ r guti, allocates P E ran amf s = some (r, guti) →
    ∀ g, s.maps.guti2nasContext g = some r → g = guti

/-- The request is not dropped, the context is stored under the GUTI of the message, and its SUPI never got
IDs. -/
def DeregisterKeeps (amf : UInt64) (nas : Bstring) (s : N1State) : Prop :=
  ∀ r, s.maps.amfueid2nasContext amf = some r → deregisters P E amf nas s = some r ∧
    (∀ g, s.maps.guti2nasContext g = some r → g = (P.decode.deregistrationRequest (nas.getD [])).guti) ∧
    s.maps.supi2amfId (s.nc r).supi = none ∧ s.maps.supi2ranId (s.nc r).supi = none

/-- The condition on a message that is delivered. -/
structure DeliveryKeeps (ind : UplinkNasDataInd) (d : Delivery) (s : N1State) : Prop where
  initialRequest : ind.isNasSignallingEstabReq = true →
    getNasMessageType d.plainMsg = kRegistrationRequest →
    RegisterKeeps P E (establishNc ind d.nc s).2 ind.ranUeNgapId ind.amfUeNgapId d.plainMsg
      (establishNc ind d.nc s).1
  serviceRequest : ind.isNasSignallingEstabReq = true →
    getNasMessageType d.plainMsg = kServiceRequest →
    ServeKeeps P E (establishNc ind d.nc s).2 ind.ranUeNgapId ind.amfUeNgapId d.plainMsg
      (establishNc ind d.nc s).1
  request : ind.isNasSignallingEstabReq = false → getNasMessageType d.plainMsg = kRegistrationRequest →
    ∀ r, s.maps.amfueid2nasContext ind.amfUeNgapId = some r →
      RegisterKeeps P E r ind.ranUeNgapId ind.amfUeNgapId d.plainMsg s
  identityResponse : ind.isNasSignallingEstabReq = false →
    getNasMessageType d.plainMsg = kIdentityResponse →
    IdentifyKeeps P ind.ranUeNgapId ind.amfUeNgapId d.plainMsg s
  securityModeComplete : ind.isNasSignallingEstabReq = false →
    getNasMessageType d.plainMsg = kSecurityModeComplete →
    AllocateKeeps P E ind.ranUeNgapId ind.amfUeNgapId s
  noInitialDeregistration : ind.isNasSignallingEstabReq = true →
    getNasMessageType d.plainMsg ≠ kDeregistrationRequestUeOriginating
  deregistrationRequest : ind.isNasSignallingEstabReq = false →
    getNasMessageType d.plainMsg = kDeregistrationRequestUeOriginating →
    DeregisterKeeps P E ind.amfUeNgapId d.plainMsg s

end

/-- **The condition on one message.** -/
def KeepsMaps (P : N1Params) (s : N1State) : N1Event → Prop
  | .uplinkNasDataInd ind E => MoveKeeps ind s ∧
      ∀ s' d, deliver P E ind s = (s', some d) → DeliveryKeeps P E ind d s'
  | .downlinkNasTransfer _ _ => True

/-! ## The invariant -/

/-- The maps agree, and hold contexts that were made. -/
structure MapsInv (m : NasMaps) : Prop extends MapsAgree m where
  made : ∀ r, Live m r → r < m.ncs.next

theorem MapsInv.empty : MapsInv .empty where
  amf _ _ h := nomatch h
  guti _ _ h := nomatch h
  supi _ _ h := nomatch h
  ids _ _ h := by
    rcases h with h | h
    · exact absurd rfl h
    · cases h
  made r h := by
    rcases h with ⟨_, h⟩ | ⟨_, h⟩ | ⟨_, h⟩ <;> cases h

/-- The IDs of the contexts and the maps are the same. -/
structure SameIds (m m' : NasMaps) : Prop where
  next : m'.ncs.next = m.ncs.next
  amfueid2nasContext : m'.amfueid2nasContext = m.amfueid2nasContext
  guti2nasContext : m'.guti2nasContext = m.guti2nasContext
  supi2nasContext : m'.supi2nasContext = m.supi2nasContext
  supi2amfId : m'.supi2amfId = m.supi2amfId
  supi2ranId : m'.supi2ranId = m.supi2ranId
  amf : ∀ r, (m'.nc r).amfUeNgapId = (m.nc r).amfUeNgapId
  ran : ∀ r, (m'.nc r).ranUeNgapId = (m.nc r).ranUeNgapId
  guti : ∀ r, (m'.nc r).guti = (m.nc r).guti
  imsi : ∀ r, (m'.nc r).imsi = (m.nc r).imsi

namespace SameIds

variable {m m' m'' : NasMaps} {r : ℕ}

@[refl] theorem refl (m : NasMaps) : SameIds m m :=
  ⟨rfl, rfl, rfl, rfl, rfl, rfl, fun _ => rfl, fun _ => rfl, fun _ => rfl, fun _ => rfl⟩

theorem trans (h : SameIds m m') (h' : SameIds m' m'') : SameIds m m'' where
  next := h'.next.trans h.next
  amfueid2nasContext := h'.amfueid2nasContext.trans h.amfueid2nasContext
  guti2nasContext := h'.guti2nasContext.trans h.guti2nasContext
  supi2nasContext := h'.supi2nasContext.trans h.supi2nasContext
  supi2amfId := h'.supi2amfId.trans h.supi2amfId
  supi2ranId := h'.supi2ranId.trans h.supi2ranId
  amf r := (h'.amf r).trans (h.amf r)
  ran r := (h'.ran r).trans (h.ran r)
  guti r := (h'.guti r).trans (h.guti r)
  imsi r := (h'.imsi r).trans (h.imsi r)

theorem supi (h : SameIds m m') (r : ℕ) : (m'.nc r).supi = (m.nc r).supi :=
  congrArg imsiToSupi (h.imsi r)

theorem live (h : SameIds m m') : Live m' r ↔ Live m r := by
  unfold Live
  rw [h.amfueid2nasContext, h.guti2nasContext, h.supi2nasContext]

theorem named (h : SameIds m m') : Named m' r ↔ Named m r := by
  unfold Named NamedBy
  rw [h.imsi, h.supi2nasContext]

theorem modifyNc (m : NasMaps) (r : ℕ) {f : NasContext → NasContext}
    (hamf : ∀ nc, (f nc).amfUeNgapId = nc.amfUeNgapId) (hran : ∀ nc, (f nc).ranUeNgapId = nc.ranUeNgapId)
    (hguti : ∀ nc, (f nc).guti = nc.guti) (himsi : ∀ nc, (f nc).imsi = nc.imsi) :
    SameIds m (m.modifyNc r f) :=
  ⟨rfl, rfl, rfl, rfl, rfl, rfl, m.ncs.modify_cell_proj r f NasContext.amfUeNgapId (hamf _),
    m.ncs.modify_cell_proj r f NasContext.ranUeNgapId (hran _),
    m.ncs.modify_cell_proj r f NasContext.guti (hguti _),
    m.ncs.modify_cell_proj r f NasContext.imsi (himsi _)⟩

theorem of_touch {s s' : N1State} (h : Touch r s s') : SameIds s.maps s'.maps := by
  have hsame (q : ℕ) : (s.nc q).Same (s'.nc q) := by
    by_cases hq : q = r
    · subst hq
      exact h.self
    · rw [h.other q hq]
      exact .refl _
  exact ⟨h.next, h.amfueid2nasContext, h.guti2nasContext, h.supi2nasContext, h.supi2amfId,
    h.supi2ranId, fun q => (hsame q).amfUeNgapId, fun q => (hsame q).ranUeNgapId,
    fun q => (hsame q).guti, fun q => (hsame q).imsi⟩

theorem setSecurityCtx (m : NasMaps) (r : ℕ) (nsc : NasSecuCtx) :
    SameIds m (m.modifyNc r fun nc => nc.setSecurityCtx nsc) :=
  modifyNc m r (fun _ => rfl) (fun _ => rfl) (fun _ => rfl) fun _ => rfl

theorem of_answers {s s' : N1State} (h : Answers r s s') : SameIds s.maps s'.maps := by
  rcases h with h | ⟨nsc, s₁, -, h, h'⟩
  · exact .of_touch h
  · exact ((of_touch h).trans (setSecurityCtx _ r _)).trans (of_touch h')

end SameIds

namespace MapsInv

variable {m m' : NasMaps} {r : ℕ}

theorem of_sameIds (hm : MapsInv m) (h : SameIds m m') : MapsInv m' where
  amf a q hq := by
    rw [h.amfueid2nasContext] at hq
    rw [h.amf, hm.amf a q hq]
  guti g q hq := by
    rw [h.guti2nasContext] at hq
    rw [h.guti, hm.guti g q hq]
  supi x q hq := by
    rw [h.supi2nasContext] at hq
    rw [h.supi, hm.supi x q hq]
  ids q hl hn := by
    rw [h.supi, h.supi2amfId, h.supi2ranId, h.amf, h.ran]
    exact hm.ids q (h.live.mp hl) (h.named.mp hn)
  made q hl := by
    rw [h.next]
    exact hm.made q (h.live.mp hl)

/-- **A context gets its SUPI and its IDs.** -/
theorem of_ids (hm : MapsInv m) {supi : Str} {amf : UInt64} {ran : UInt32}
    (hother : ∀ q, q ≠ r → m'.nc q = m.nc q) (hamfid : (m'.nc r).amfUeNgapId = amf)
    (hsupi : (m'.nc r).supi = supi) (hran : Named m' r → (m'.nc r).ranUeNgapId = ran)
    (hguti : ∀ g, m.guti2nasContext g = some r → (m'.nc r).guti = some g)
    (hamfs : ∀ a q, m'.amfueid2nasContext a = some q →
      a = amf ∧ q = r ∨ q ≠ r ∧ m.amfueid2nasContext a = some q)
    (hgutis : m'.guti2nasContext = m.guti2nasContext)
    (hsupis : ∀ x q, m'.supi2nasContext x = some q →
      x = supi ∧ q = r ∨ q ≠ r ∧ m.supi2nasContext x = some q)
    (hids : m'.supi2amfId = Function.update m.supi2amfId supi (some amf))
    (hrans : m'.supi2ranId = Function.update m.supi2ranId supi (some ran))
    (hothers : OthersAgree m' r supi amf ran) (hnext : m.ncs.next ≤ m'.ncs.next)
    (hr : r < m'.ncs.next) : MapsInv m' := by
  have hlive {q : ℕ} (hq : q ≠ r) (hl : Live m' q) : Live m q := by
    rcases hl with ⟨a, h⟩ | ⟨g, h⟩ | ⟨x, h⟩
    · exact .inl ⟨a, ((hamfs a q h).resolve_left fun h => hq h.2).2⟩
    · exact .inr (.inl ⟨g, hgutis ▸ h⟩)
    · exact .inr (.inr ⟨x, ((hsupis x q h).resolve_left fun h => hq h.2).2⟩)
  have hnamed {q : ℕ} (hq : q ≠ r) (hn : Named m' q) : Named m q := by
    unfold Named at hn ⊢
    rw [hother q hq] at hn
    exact hn.imp id fun h => ((hsupis _ q h).resolve_left fun h => hq h.2).2
  refine ⟨⟨fun a q hq => ?_, fun g q hq => ?_, fun x q hq => ?_, fun q hl hn => ?_⟩, fun q hl => ?_⟩
  · rcases hamfs a q hq with ⟨rfl, rfl⟩ | ⟨hne, hq⟩
    · exact hamfid
    · rw [hother q hne]
      exact hm.amf a q hq
  · rw [hgutis] at hq
    by_cases hqr : q = r
    · subst hqr
      exact hguti g hq
    · rw [hother q hqr]
      exact hm.guti g q hq
  · rcases hsupis x q hq with ⟨rfl, rfl⟩ | ⟨hne, hq⟩
    · exact hsupi
    · rw [hother q hne]
      exact hm.supi x q hq
  · rw [hids, hrans]
    by_cases hqr : q = r
    · subst hqr
      rw [hsupi, Function.update_self, Function.update_self, hamfid, hran hn]
      exact ⟨rfl, rfl⟩
    · by_cases hs : (m'.nc q).supi = supi
      · obtain ⟨ha, hb⟩ := hothers q hqr hl hn hs
        rw [hs, Function.update_self, Function.update_self, ha, hb]
        exact ⟨rfl, rfl⟩
      · rw [Function.update_of_ne hs, Function.update_of_ne hs, hother q hqr]
        exact hm.ids q (hlive hqr hl) (hnamed hqr hn)
  · by_cases hqr : q = r
    · rw [hqr]
      exact hr
    · exact (hm.made q (hlive hqr hl)).trans_le hnext

/-- **A new context**, which has no SUPI yet. -/
theorem of_new (hm : MapsInv m) {amf : UInt64} (hnext : m'.ncs.next = m.ncs.next + 1)
    (hother : ∀ q, q ≠ m.ncs.next → m'.nc q = m.nc q)
    (hamfid : (m'.nc m.ncs.next).amfUeNgapId = amf) (himsi : (m'.nc m.ncs.next).imsi = [])
    (hamfs : m'.amfueid2nasContext = Function.update m.amfueid2nasContext amf (some m.ncs.next))
    (hgutis : m'.guti2nasContext = m.guti2nasContext)
    (hsupis : m'.supi2nasContext = m.supi2nasContext) (hids : m'.supi2amfId = m.supi2amfId)
    (hrans : m'.supi2ranId = m.supi2ranId) : MapsInv m' := by
  have hne {q : ℕ} (hl : Live m q) : q ≠ m.ncs.next := (hm.made q hl).ne
  have hlive {q : ℕ} (hq : q ≠ m.ncs.next) (hl : Live m' q) : Live m q := by
    unfold Live at hl ⊢
    rw [hgutis, hsupis] at hl
    refine hl.imp ?_ id
    rintro ⟨a, h⟩
    rw [hamfs, update_some_eq_some] at h
    exact ⟨a, (h.resolve_left fun h => hq h.2.symm).2⟩
  -- the new context is not named
  have hold {q : ℕ} (hn : Named m' q) : q ≠ m.ncs.next := by
    rintro rfl
    rcases hn with h | h
    · exact h himsi
    · rw [hsupis] at h
      exact hne (.inr (.inr ⟨_, h⟩)) rfl
  have hnamed {q : ℕ} (hn : Named m' q) : Named m q := by
    have hq := hold hn
    unfold Named NamedBy at hn ⊢
    rwa [hother q hq, hsupis] at hn
  refine ⟨⟨fun a q hq => ?_, fun g q hq => ?_, fun x q hq => ?_, fun q hl hn => ?_⟩, fun q hl => ?_⟩
  · rw [hamfs, update_some_eq_some] at hq
    rcases hq with ⟨rfl, rfl⟩ | ⟨-, hq⟩
    · exact hamfid
    · rw [hother q (hne (.inl ⟨a, hq⟩))]
      exact hm.amf a q hq
  · rw [hgutis] at hq
    rw [hother q (hne (.inr (.inl ⟨g, hq⟩)))]
    exact hm.guti g q hq
  · rw [hsupis] at hq
    rw [hother q (hne (.inr (.inr ⟨x, hq⟩)))]
    exact hm.supi x q hq
  · have hq := hold hn
    rw [hother q hq, hids, hrans]
    exact hm.ids q (hlive hq hl) (hnamed hn)
  · rw [hnext]
    by_cases hq : q = m.ncs.next
    · omega
    · exact Nat.lt_succ_of_lt (hm.made q (hlive hq hl))

/-- **A context gets a RAN UE NGAP ID**, and keeps the rest. -/
theorem of_ran (hm : MapsInv m) (hother : ∀ q, q ≠ r → m'.nc q = m.nc q)
    (hamfid : (m'.nc r).amfUeNgapId = (m.nc r).amfUeNgapId) (himsi : (m'.nc r).imsi = (m.nc r).imsi)
    (hguti : (m'.nc r).guti = (m.nc r).guti) (hnext : m'.ncs.next = m.ncs.next)
    (hamfs : m'.amfueid2nasContext = m.amfueid2nasContext)
    (hgutis : m'.guti2nasContext = m.guti2nasContext)
    (hsupis : m'.supi2nasContext = m.supi2nasContext) (hids : m'.supi2amfId = m.supi2amfId)
    (hrans : m'.supi2ranId = m.supi2ranId)
    (hran : Named m r → (m'.nc r).ranUeNgapId = (m.nc r).ranUeNgapId) : MapsInv m' := by
  have hsame {β : Type} (f : NasContext → β) (hf : f (m'.nc r) = f (m.nc r)) (q : ℕ) :
      f (m'.nc q) = f (m.nc q) := by
    by_cases hq : q = r
    · rw [hq, hf]
    · rw [hother q hq]
  have hamf := hsame NasContext.amfUeNgapId hamfid
  have hsupi := hsame NasContext.supi (congrArg imsiToSupi himsi)
  have hlive {q : ℕ} : Live m' q ↔ Live m q := by
    unfold Live
    rw [hamfs, hgutis, hsupis]
  have hnamed {q : ℕ} : Named m' q ↔ Named m q := by
    unfold Named NamedBy
    rw [hsame NasContext.imsi himsi, hsupis]
  refine ⟨⟨fun a q hq => ?_, fun g q hq => ?_, fun x q hq => ?_, fun q hl hn => ?_⟩, fun q hl => ?_⟩
  · rw [hamfs] at hq
    rw [hamf, hm.amf a q hq]
  · rw [hgutis] at hq
    rw [hsame NasContext.guti hguti, hm.guti g q hq]
  · rw [hsupis] at hq
    rw [hsupi, hm.supi x q hq]
  · rw [hsupi, hids, hrans, hamf]
    have hran' : (m'.nc q).ranUeNgapId = (m.nc q).ranUeNgapId := by
      by_cases hq : q = r
      · subst hq
        exact hran (hnamed.mp hn)
      · rw [hother q hq]
    rw [hran']
    exact hm.ids q (hlive.mp hl) (hnamed.mp hn)
  · rw [hnext]
    exact hm.made q (hlive.mp hl)

/-- **A context that is in the maps gets a GUTI**, its only one. -/
theorem allocate (hm : MapsInv m) {guti : Str} (hr : Live m r)
    (h : ∀ g, m.guti2nasContext g = some r → g = guti) :
    MapsInv ((m.setGuti2NasContext guti r).modifyNc r fun nc => nc.storeGuti guti) := by
  generalize hm' : (m.setGuti2NasContext guti r).modifyNc r (fun nc => nc.storeGuti guti) = m'
  have hgutis : m'.guti2nasContext = Function.update m.guti2nasContext guti (some r) := by
    rw [← hm']
    rfl
  have hguti : (m'.nc r).guti = some guti := by
    rw [← hm']
    exact congrArg NasContext.guti (m.ncs.modify_cell_self r fun nc => nc.storeGuti guti)
  have hother {q : ℕ} (hq : q ≠ r) : m'.nc q = m.nc q := by
    rw [← hm']
    exact m.ncs.modify_cell_of_ne r (fun nc => nc.storeGuti guti) hq
  have hlive {q : ℕ} (hl : Live m' q) : Live m q := by
    rcases hl with ⟨a, h⟩ | ⟨g, h⟩ | ⟨x, h⟩
    · rw [← hm'] at h
      exact .inl ⟨a, h⟩
    · rw [hgutis, update_some_eq_some] at h
      rcases h with ⟨-, rfl⟩ | ⟨-, h⟩
      · exact hr
      · exact .inr (.inl ⟨g, h⟩)
    · rw [← hm'] at h
      exact .inr (.inr ⟨x, h⟩)
  have hproj {β : Type} (f : NasContext → β) (hf : ∀ nc : NasContext, f (nc.storeGuti guti) = f nc)
      (q : ℕ) : f (m'.nc q) = f (m.nc q) := by
    rw [← hm']
    exact m.ncs.modify_cell_proj r (fun nc => nc.storeGuti guti) f (hf _) q
  have hamf := hproj NasContext.amfUeNgapId fun _ => rfl
  have hran := hproj NasContext.ranUeNgapId fun _ => rfl
  have hsupi := hproj NasContext.supi fun _ => rfl
  have hnamed {q : ℕ} (hn : Named m' q) : Named m q := by
    unfold Named at hn ⊢
    rw [hproj NasContext.imsi (fun _ => rfl), ← hm'] at hn
    exact hn
  refine ⟨⟨fun a q hq => ?_, fun g q hq => ?_, fun x q hq => ?_, fun q hl hn => ?_⟩, fun q hl => ?_⟩
  · rw [← hm'] at hq
    rw [hamf, hm.amf a q hq]
  · rw [hgutis, update_some_eq_some] at hq
    rcases hq with ⟨rfl, rfl⟩ | ⟨hg, hq⟩
    · exact hguti
    · have hqr : q ≠ r := by
        rintro rfl
        exact hg (h g hq)
      rw [hother hqr]
      exact hm.guti g q hq
  · rw [← hm'] at hq
    rw [hsupi, hm.supi x q hq]
  · rw [hsupi, hamf, hran]
    have hids := hm.ids q (hlive hl) (hnamed hn)
    rw [← hm']
    exact hids
  · rw [← hm']
    exact hm.made q (hlive hl)

/-- **Entries are removed.** -/
theorem removeNc (hm : MapsInv m) (amf : UInt64) (supi guti : Str) :
    MapsInv (m.removeNc amf supi guti) := by
  have hlive {q : ℕ} (hl : Live (m.removeNc amf supi guti) q) : Live m q := by
    rcases hl with ⟨a, h⟩ | ⟨g, h⟩ | ⟨x, h⟩
    · exact .inl ⟨a, (update_none_eq_some.mp h).1⟩
    · exact .inr (.inl ⟨g, (update_none_eq_some.mp h).1⟩)
    · exact .inr (.inr ⟨x, (update_none_eq_some.mp h).1⟩)
  have hnamed {q : ℕ} (hn : Named (m.removeNc amf supi guti) q) : Named m q :=
    hn.imp id fun h => (update_none_eq_some.mp h).1
  exact {
    amf := fun a q hq => hm.amf a q (update_none_eq_some.mp hq).1
    guti := fun g q hq => hm.guti g q (update_none_eq_some.mp hq).1
    supi := fun x q hq => hm.supi x q (update_none_eq_some.mp hq).1
    ids := fun q hl hn => hm.ids q (hlive hl) (hnamed hn)
    made := fun q hl => hm.made q (hlive hl) }

end MapsInv

namespace OthersAgree

variable {m m' : NasMaps} {r : ℕ} {supi : Str} {amf : UInt64} {ran : UInt32}

theorem mono (h : OthersAgree m r supi amf ran) (hlive : ∀ q, q ≠ r → Live m' q → Live m q)
    (hsupis : m'.supi2nasContext = m.supi2nasContext) (hother : ∀ q, q ≠ r → m'.nc q = m.nc q) :
    OthersAgree m' r supi amf ran := by
  intro q hq hl hn hs
  unfold Named NamedBy at hn
  rw [hother q hq, hsupis] at hn
  rw [hother q hq] at hs ⊢
  exact h q hq (hlive q hq hl) hn hs

theorem congr (h : OthersAgree m r supi amf ran)
    (hamfs : m'.amfueid2nasContext = m.amfueid2nasContext)
    (hgutis : m'.guti2nasContext = m.guti2nasContext)
    (hsupis : m'.supi2nasContext = m.supi2nasContext) (hother : ∀ q, q ≠ r → m'.nc q = m.nc q) :
    OthersAgree m' r supi amf ran := by
  refine h.mono (fun q _ hl => ?_) hsupis hother
  unfold Live at hl
  rwa [hamfs, hgutis, hsupis] at hl

theorem of_sameIds (h : OthersAgree m r supi amf ran) (hm : SameIds m m') :
    OthersAgree m' r supi amf ran := by
  intro q hq hl hn hs
  rw [hm.supi] at hs
  rw [hm.amf, hm.ran]
  exact h q hq (hm.live.mp hl) (hm.named.mp hn) hs

end OthersAgree

/-! ## The handlers -/

section

variable (P : N1Params) (E : N1Env) {s : N1State} {r : ℕ} {ran : UInt32} {amf : UInt64}

theorem findNasContext_inv {ind : UplinkNasDataInd} (hs : MapsInv s.maps) (h : MoveKeeps ind s) :
    MapsInv (findNasContext ind s).1.maps := by
  unfold findNasContext
  split
  · exact hs
  · rename_i guti hguti
    split
    · exact hs
    · rename_i r hr
      obtain ⟨honly, hothers⟩ := h guti r hguti hr
      have hself := moveToConnection_nc_self ind guti r s
      have hother (q : ℕ) (hq : q ≠ r) : (moveToConnection ind guti r s).nc q = s.nc q :=
        s.modifyNc_nc_of_ne r q (fun nc => nc.moveTo guti ind.ranUeNgapId ind.amfUeNgapId) hq
      have hmaps := moveToConnection_maps ind guti r s
      have hlive : Live s.maps r := .inr (.inl ⟨guti, hr⟩)
      refine hs.of_ids (r := r) hother (congrArg NasContext.amfUeNgapId hself)
        (congrArg NasContext.supi hself) (fun _ => congrArg NasContext.ranUeNgapId hself)
        (fun g hg => ?_) (fun a q hq => ?_) (by rw [hmaps]) (fun x q hq => ?_) (by rw [hmaps]; rfl)
        (by rw [hmaps]; rfl) (hothers.congr (by rw [hmaps]; rfl) (by rw [hmaps]; rfl)
          (by rw [hmaps]; rfl) hother) (by rw [hmaps]; exact le_rfl)
        (by rw [hmaps]; exact hs.made r hlive)
      · have hg' := (hs.guti g r hg).symm.trans (hs.guti guti r hr)
        rw [hg']
        exact congrArg NasContext.guti hself
      · rw [hmaps, update_some_eq_some] at hq
        rcases hq with ⟨ha, rfl⟩ | ⟨ha, hq⟩
        · exact .inl ⟨ha, rfl⟩
        · refine .inr ⟨?_, hq⟩
          rintro rfl
          exact ha (honly a hq)
      · rw [hmaps, update_some_eq_some] at hq
        rcases hq with ⟨hx, rfl⟩ | ⟨hx, hq⟩
        · exact .inl ⟨hx, rfl⟩
        · refine .inr ⟨?_, hq⟩
          rintro rfl
          exact hx (hs.supi x q hq).symm

/-- Taking the protection off a message changes a security context at most. -/
theorem unprotectUplink_sameIds (nc : Option ℕ) (msg : List UInt8) :
    SameIds s.maps (unprotectUplink P E nc msg s).1.maps := by
  have hprotected (type : SecurityHeaderType) :
      SameIds s.maps (passProtected P E type nc msg s).1.maps := by
    unfold passProtected
    split
    · rfl
    · split
      · exact .setSecurityCtx _ _ _
      · exact .setSecurityCtx _ _ _
  unfold unprotectUplink
  split
  · rfl
  · rfl
  · unfold passIntegrityProtected
    dsimp only
    split <;> rfl
  · exact hprotected _

theorem deliver_inv {ind : UplinkNasDataInd} (hs : MapsInv s.maps) (h : MoveKeeps ind s) :
    MapsInv (deliver P E ind s).1.maps := by
  unfold deliver
  exact (findNasContext_inv hs h).of_sameIds (unprotectUplink_sameIds P E _ _)

theorem setAmf_of_eq (hmap : s.maps.amfueid2nasContext amf = some r) :
    (s.onMaps fun m => m.setAmfUeNgapId2NasContext amf r) = s := by
  have hupdate : Function.update s.maps.amfueid2nasContext amf (some r) =
      s.maps.amfueid2nasContext := by
    rw [← hmap, Function.update_eq_self]
  unfold N1State.onMaps NasMaps.setAmfUeNgapId2NasContext
  dsimp only
  rw [hupdate]

theorem registerRequest_inv {snn : Str} {reg : Bstring} {req : RegistrationRequest}
    (hs : MapsInv s.maps) (hmap : s.maps.amfueid2nasContext amf = some r)
    (h : match req.mobileIdentity with
      | .suci (some imsi) => (∀ x, s.maps.supi2nasContext x = some r → x = imsiToSupi imsi) ∧
          OthersAgree (s.maps.setSupi2NasContext (imsiToSupi imsi) r) r (imsiToSupi imsi) amf ran
      | _ => Named s.maps r → (s.nc r).ranUeNgapId = ran) :
    MapsInv (registerRequest r ran amf snn req (receiveRequest r reg s)).maps := by
  have hother (q : ℕ) (hq : q ≠ r) :
      (registerRequest r ran amf snn req (receiveRequest r reg s)).nc q = s.nc q :=
    (registerRequest_nc_of_ne r _ ran amf snn req hq).trans
      (s.modifyNc_nc_of_ne r q (fun nc => nc.storeRegistrationRequest reg) hq)
  have hself := registerRequest_nc_self r (receiveRequest r reg s) ran amf snn req
  have hreceived : (receiveRequest r reg s).nc r = (s.nc r).storeRegistrationRequest reg :=
    s.modifyNc_nc_self r fun nc => nc.storeRegistrationRequest reg
  have hamfs : (registerRequest r ran amf snn req (receiveRequest r reg s)).maps.amfueid2nasContext =
      s.maps.amfueid2nasContext := by
    have hupdate : Function.update s.maps.amfueid2nasContext amf (some r) =
        s.maps.amfueid2nasContext := by
      rw [← hmap, Function.update_eq_self]
    refine Eq.trans ?_ hupdate
    unfold registerRequest handleMobileIdentity
    split <;> rfl
  have hgutis : (registerRequest r ran amf snn req (receiveRequest r reg s)).maps.guti2nasContext =
      s.maps.guti2nasContext := by
    unfold registerRequest handleMobileIdentity
    split <;> rfl
  have hnext : (registerRequest r ran amf snn req (receiveRequest r reg s)).maps.ncs.next =
      s.maps.ncs.next := by
    unfold registerRequest handleMobileIdentity
    split <;> rfl
  have hamf := hs.amf amf r hmap
  -- without an IMSI only the RAN UE NGAP ID is new
  have noImsi (himsi : ((handleMobileIdentity r ran amf req.mobileIdentity
        (receiveRequest r reg s)).nc r).imsi = (s.nc r).imsi)
      (hguti : ((handleMobileIdentity r ran amf req.mobileIdentity
        (receiveRequest r reg s)).nc r).guti = (s.nc r).guti)
      (hsupis : (handleMobileIdentity r ran amf req.mobileIdentity
        (receiveRequest r reg s)).maps.supi2nasContext = s.maps.supi2nasContext)
      (hids : (handleMobileIdentity r ran amf req.mobileIdentity
        (receiveRequest r reg s)).maps.supi2amfId = s.maps.supi2amfId)
      (hrans : (handleMobileIdentity r ran amf req.mobileIdentity
        (receiveRequest r reg s)).maps.supi2ranId = s.maps.supi2ranId)
      (hran : Named s.maps r → (s.nc r).ranUeNgapId = ran) :
      MapsInv (registerRequest r ran amf snn req (receiveRequest r reg s)).maps := by
    refine hs.of_ran (r := r) hother ?_ ?_ ?_ hnext hamfs hgutis hsupis hids hrans fun hn => ?_
    · exact (congrArg NasContext.amfUeNgapId hself).trans hamf.symm
    · exact (congrArg NasContext.imsi hself).trans himsi
    · exact (congrArg NasContext.guti hself).trans hguti
    · exact (congrArg NasContext.ranUeNgapId hself).trans (hran hn).symm
  have hguti' : ((receiveRequest r reg s).nc r).guti = (s.nc r).guti := by
    rw [hreceived]
    rfl
  have himsi' : ((receiveRequest r reg s).nc r).imsi = (s.nc r).imsi := by
    rw [hreceived]
    rfl
  cases hid : req.mobileIdentity with
  | other =>
    rw [hid] at h
    refine noImsi ?_ ?_ ?_ ?_ ?_ h <;> simp only [hid, handleMobileIdentity]
    · exact himsi'
    · exact hguti'
    all_goals rfl
  | guti guti =>
    rw [hid] at h
    refine noImsi ?_ ?_ ?_ ?_ ?_ h <;> simp only [hid, handleMobileIdentity]
    · rw [N1State.modifyNc_nc_self]
      exact himsi'
    · rw [N1State.modifyNc_nc_self]
      exact hguti'
    all_goals rfl
  | suci imsi =>
    cases imsi with
    | none =>
      rw [hid] at h
      refine noImsi ?_ ?_ ?_ ?_ ?_ h <;> simp only [hid, handleMobileIdentity]
      · exact himsi'
      · exact hguti'
      all_goals rfl
    | some imsi =>
      simp only [hid] at h
      obtain ⟨honly, hothers⟩ := h
      have hnc : (registerRequest r ran amf snn req (receiveRequest r reg s)).nc r =
          (((s.nc r).storeRegistrationRequest reg).storeImsi imsi).updateByRegistrationRequest ran amf
            snn req := by
        rw [hself, hid, ← hreceived]
        exact congrArg (fun nc => nc.updateByRegistrationRequest ran amf snn req)
          (N1State.modifyNc_nc_self _ r fun nc => nc.storeImsi imsi)
      have hsupis : (registerRequest r ran amf snn req (receiveRequest r reg s)).maps.supi2nasContext =
          Function.update s.maps.supi2nasContext (imsiToSupi imsi) (some r) := by
        simp only [registerRequest, handleMobileIdentity, hid]
        rfl
      refine hs.of_ids (r := r) hother (congrArg NasContext.amfUeNgapId hnc)
        (congrArg NasContext.supi hnc) (fun _ => congrArg NasContext.ranUeNgapId hnc) (fun g hg => ?_)
        (fun a q hq => ?_) hgutis (fun x q hq => ?_) ?_ ?_ (hothers.congr hamfs hgutis hsupis hother)
        hnext.ge ?_
      · exact (congrArg NasContext.guti hnc).trans (hs.guti g r hg)
      · rw [hamfs] at hq
        by_cases hqr : q = r
        · subst hqr
          exact .inl ⟨(hs.amf a q hq).symm.trans hamf, rfl⟩
        · exact .inr ⟨hqr, hq⟩
      · rw [hsupis, update_some_eq_some] at hq
        rcases hq with ⟨hx, rfl⟩ | ⟨hx, hq⟩
        · exact .inl ⟨hx, rfl⟩
        · refine .inr ⟨?_, hq⟩
          rintro rfl
          exact hx (honly x hq)
      · simp only [registerRequest, handleMobileIdentity, hid]
        rfl
      · simp only [registerRequest, handleMobileIdentity, hid]
        rfl
      · rw [hnext]
        exact hs.made r (.inl ⟨amf, hmap⟩)

theorem registrationRequestHandle_inv {snn : Str} {reg : Bstring} (hs : MapsInv s.maps)
    (hmap : s.maps.amfueid2nasContext amf = some r) (h : RegisterKeeps P E r ran amf reg s) :
    MapsInv (registrationRequestHandle P E r ran amf snn reg s).maps := by
  rcases registrationRequestHandle_cases P E r s ran amf snn reg with ⟨-, h'⟩ | ⟨huc, h'⟩
  · rw [h']
    exact hs.of_sameIds
      (.modifyNc s.maps r (f := fun nc => nc.storeRegistrationRequest reg) (fun _ => rfl) (fun _ => rfl)
        (fun _ => rfl) fun _ => rfl)
  · exact (registerRequest_inv hs hmap (h huc)).of_sameIds (.of_answers h')

/-- An initial message without a context gets a new one, under its AMF UE NGAP ID. -/
theorem establishNc_inv {ind : UplinkNasDataInd} {nc : Option ℕ} (hs : MapsInv s.maps)
    (hnc : ∀ q, nc = some q → s.maps.amfueid2nasContext ind.amfUeNgapId = some q) :
    MapsInv (establishNc ind nc s).1.maps ∧
      (establishNc ind nc s).1.maps.amfueid2nasContext ind.amfUeNgapId =
        some (establishNc ind nc s).2 := by
  cases nc with
  | some q =>
    have hself : (establishNc ind (some q) s).1 = s := setAmf_of_eq (hnc q rfl)
    rw [hself]
    exact ⟨hs, hnc q rfl⟩
  | none =>
    have hnew := s.newNc_nc_self
    have hself : (establishNc ind none s).1.nc s.maps.ncs.next =
        NasContext.new.connect ind.ranUeNgapId ind.amfUeNgapId
          (getServingNetworkName ind.mnc ind.mcc) := by
      rw [← hnew]
      exact N1State.modifyNc_nc_self _ _ _
    have hother (q : ℕ) (hq : q ≠ s.maps.ncs.next) : (establishNc ind none s).1.nc q = s.nc q :=
      (N1State.modifyNc_nc_of_ne _ _ q _ hq).trans (s.newNc_nc_of_ne q hq)
    have hmap : (establishNc ind none s).1.maps.amfueid2nasContext =
      Function.update s.maps.amfueid2nasContext ind.amfUeNgapId (some s.maps.ncs.next) := rfl
    refine ⟨hs.of_new rfl hother (congrArg NasContext.amfUeNgapId hself)
      (congrArg NasContext.imsi hself) hmap rfl rfl rfl rfl, ?_⟩
    rw [hmap, Function.update_self]
    rfl

/-- **A Service Request gives the IDs of its connection to the SUPI**, which may be new. -/
theorem serve_inv {s₁ : N1State} (hs : MapsInv s.maps) (hmap : s.maps.amfueid2nasContext amf = some r)
    (hother : ∀ q, q ≠ r → s₁.nc q = s.nc q)
    (hamfid : (s₁.nc r).amfUeNgapId = (s.nc r).amfUeNgapId)
    (hranid : (s₁.nc r).ranUeNgapId = (s.nc r).ranUeNgapId) (hguti : (s₁.nc r).guti = (s.nc r).guti)
    (hmaps : s₁.maps = { s.maps with ncs := s₁.maps.ncs })
    (hnext : s₁.maps.ncs.next = s.maps.ncs.next)
    (honly : ∀ x, s.maps.supi2nasContext x = some r → x = (s₁.nc r).supi)
    (hothers : OthersAgree s.maps r (s₁.nc r).supi amf ran)
    (hran : NamedBy s.maps r (s₁.nc r).imsi → (s.nc r).ranUeNgapId = ran) :
    MapsInv (s₁.onMaps fun m => m.serve r ran amf (s₁.nc r).supi).maps := by
  generalize hsupi : (s₁.nc r).supi = supi at honly hothers
  have hamfs : (s₁.onMaps fun m => m.serve r ran amf supi).maps.amfueid2nasContext =
      s.maps.amfueid2nasContext := by
    have hupdate : Function.update s.maps.amfueid2nasContext amf (some r) =
        s.maps.amfueid2nasContext := by
      rw [← hmap, Function.update_eq_self]
    rw [N1State.onMaps_maps, hmaps]
    exact hupdate
  have hgutis : (s₁.onMaps fun m => m.serve r ran amf supi).maps.guti2nasContext =
      s.maps.guti2nasContext := by
    rw [N1State.onMaps_maps, hmaps]
    rfl
  have hsupis : (s₁.onMaps fun m => m.serve r ran amf supi).maps.supi2nasContext =
      s.maps.supi2nasContext := by
    rw [N1State.onMaps_maps, hmaps]
    rfl
  have hamf := hs.amf amf r hmap
  refine hs.of_ids (r := r) hother (hamfid.trans hamf) hsupi (fun hn => hranid.trans (hran ?_))
    (fun g hg => hguti.trans (hs.guti g r hg)) (fun a q hq => ?_) hgutis (fun x q hq => ?_) ?_ ?_
    (hothers.congr hamfs hgutis hsupis hother) hnext.ge ?_
  · unfold Named NamedBy at hn
    rw [hsupis] at hn
    exact hn
  · rw [hamfs] at hq
    by_cases hqr : q = r
    · subst hqr
      exact .inl ⟨(hs.amf a q hq).symm.trans hamf, rfl⟩
    · exact .inr ⟨hqr, hq⟩
  · rw [hsupis] at hq
    by_cases hqr : q = r
    · subst hqr
      exact .inl ⟨honly x hq, rfl⟩
    · exact .inr ⟨hqr, hq⟩
  · rw [N1State.onMaps_maps, hmaps]
    rfl
  · rw [N1State.onMaps_maps, hmaps]
    rfl
  · exact (hs.made r (.inl ⟨amf, hmap⟩)).trans_eq hnext.symm

variable {P E} in
/-- The condition on a Service Request is about IDs and the presence of security contexts. -/
theorem ServeKeeps.congr {s' : N1State} {nas : Bstring} (h : ServeKeeps P E r ran amf nas s)
    (hm : SameIds s.maps s'.maps)
    (hctx : ∀ q, (s'.nc q).securityCtx.isSome → (s.nc q).securityCtx.isSome) :
    ServeKeeps P E r ran amf nas s' := by
  have hsupi (q : ℕ) : (s'.nc q).supi = (s.nc q).supi := hm.supi q
  have hran : (s'.nc r).ranUeNgapId = (s.nc r).ranUeNgapId := hm.ran r
  intro uc huc
  replace h := h uc huc
  generalize P.decode.serviceRequest (nas.getD []) = p at h ⊢
  obtain ⟨decoded, req⟩ := p
  dsimp only at h ⊢
  rw [oldNasContext_congr P r s (hm.guti r) hm.guti2nasContext]
  generalize oldNasContext P uc r decoded req s = o at h ⊢
  cases o with
  | none =>
    intro hd hc
    obtain ⟨hothers, hnamed⟩ := h hd (hctx r hc)
    rw [hsupi, hran]
    exact ⟨hothers.of_sameIds hm, fun hn => hnamed (hm.named.mp hn)⟩
  | some old =>
    intro hc
    obtain ⟨honly, hothers, hnamed⟩ := h (hctx old hc)
    have himsi : (s'.nc old).imsi = (s.nc old).imsi := hm.imsi old
    rw [hm.supi2nasContext, hsupi, hran, himsi]
    refine ⟨honly, hothers.of_sameIds hm, fun hn => hnamed ?_⟩
    unfold NamedBy at hn ⊢
    rwa [hm.supi2nasContext] at hn

theorem serviceRequestHandleUlCount_inv {nas : Bstring} (ulCount : UInt8) (hs : MapsInv s.maps)
    (hmap : s.maps.amfueid2nasContext amf = some r) (h : ServeKeeps P E r ran amf nas s) :
    MapsInv (serviceRequestHandleUlCount P E r ran amf nas ulCount s).maps := by
  rcases serviceRequestHandleUlCount_cases P E r s ran amf nas ulCount with
    h' | ⟨uc, d, req, huc, hdec, hold, h'⟩ | ⟨uc, d, req, old, nsc, huc, hdec, hold, hnsc, h'⟩ <;>
    rw [h']
  · exact hs
  · replace h := h uc huc
    rw [hdec] at h
    dsimp only at h
    rw [hold] at h
    rcases continueServiceRequest_answers P E r s ran amf d req with ⟨-, h₁⟩ | ⟨⟨hctx, hd⟩, h₁⟩
    · exact hs.of_sameIds (.of_touch h₁)
    · obtain ⟨hothers, hran⟩ := h hd (Option.isSome_iff_ne_none.mpr hctx)
      exact (serve_inv hs hmap (fun _ _ => rfl) rfl rfl rfl rfl rfl (fun x hx => (hs.supi x r hx).symm)
        hothers hran).of_sameIds (.of_answers h₁)
  · replace h := h uc huc
    rw [hdec] at h
    dsimp only at h
    rw [hold] at h
    obtain ⟨honly, hothers, hran⟩ := h (Option.isSome_iff_exists.mpr ⟨nsc, hnsc⟩)
    have hself : (takeOldContext r old nsc ulCount s).nc r =
        (s.nc r).takeOver (s.nc old) (nsc.setUlSeqNum ulCount) :=
      s.modifyNc_nc_self r fun nc => nc.takeOver (s.nc old) (nsc.setUlSeqNum ulCount)
    have hsupi : ((takeOldContext r old nsc ulCount s).nc r).supi = (s.nc old).supi := by
      rw [hself]
      rfl
    have hd : d = true := by
      unfold oldNasContext at hold
      split_ifs at hold with hd
      simp only [not_or, Bool.not_eq_true', Bool.not_eq_false] at hd
      exact hd.1
    rcases continueServiceRequest_answers P E r (takeOldContext r old nsc ulCount s) ran amf d req with
      ⟨h₁, -⟩ | ⟨-, h₁⟩
    · rw [hself, hd] at h₁
      rcases h₁ with h₁ | h₁ <;> cases h₁
    · refine MapsInv.of_sameIds ?_ (.of_answers h₁)
      refine serve_inv hs hmap (fun q hq => ?_) ?_ ?_ ?_ rfl rfl ?_ ?_ ?_
      · exact s.modifyNc_nc_of_ne r q (fun nc => nc.takeOver (s.nc old) (nsc.setUlSeqNum ulCount)) hq
      · rw [hself]
        rfl
      · rw [hself]
        rfl
      · rw [hself]
        rfl
      · rw [hsupi]
        exact honly
      · rw [hsupi]
        exact hothers
      · rw [hself]
        exact hran

theorem serviceRequestHandle_inv {nas : Bstring} (hs : MapsInv s.maps)
    (hmap : s.maps.amfueid2nasContext amf = some r) :
    MapsInv (serviceRequestHandle P E r ran amf nas s).maps := by
  rcases serviceRequestHandle_answers P E r s ran amf nas with h | h
  · exact hs.of_sameIds (.of_touch h)
  · rw [setAmf_of_eq hmap] at h
    exact hs.of_sameIds (.of_answers h)

/-- The context of an Identity Response is new or the one of its AMF UE NGAP ID. -/
theorem findOrCreateNc_inv (amf : UInt64) (hs : MapsInv s.maps) :
    (∀ q, q ≠ (findOrCreateNc amf s).2 → (findOrCreateNc amf s).1.nc q = s.nc q) ∧
      (∀ g, s.maps.guti2nasContext g = some (findOrCreateNc amf s).2 →
        ((findOrCreateNc amf s).1.nc (findOrCreateNc amf s).2).guti = some g) ∧
      (∀ a q, (findOrCreateNc amf s).1.maps.amfueid2nasContext a = some q →
        a = amf ∧ q = (findOrCreateNc amf s).2 ∨
          q ≠ (findOrCreateNc amf s).2 ∧ s.maps.amfueid2nasContext a = some q) ∧
      s.maps.ncs.next ≤ (findOrCreateNc amf s).1.maps.ncs.next ∧
      (findOrCreateNc amf s).2 < (findOrCreateNc amf s).1.maps.ncs.next := by
  unfold findOrCreateNc
  split
  · rename_i r hmap
    refine ⟨fun _ _ => rfl, fun g hg => hs.guti g r hg, fun a q hq => ?_, le_rfl,
      hs.made r (.inl ⟨amf, hmap⟩)⟩
    by_cases hqr : q = r
    · subst hqr
      exact .inl ⟨(hs.amf a q hq).symm.trans (hs.amf amf q hmap), rfl⟩
    · exact .inr ⟨hqr, hq⟩
  · refine ⟨fun q hq => s.newNc_nc_of_ne q hq, fun g hg => ?_, fun a q hq => ?_, Nat.le_succ _,
      Nat.lt_succ_self _⟩
    · exact absurd (hs.made _ (.inr (.inl ⟨g, hg⟩))) (lt_irrefl _)
    · replace hq : Function.update s.maps.amfueid2nasContext amf (some s.maps.ncs.next) a = some q := hq
      rw [update_some_eq_some] at hq
      rcases hq with ⟨ha, hq⟩ | ⟨-, hq⟩
      · exact .inl ⟨ha, hq.symm⟩
      · exact .inr ⟨(hs.made q (.inl ⟨a, hq⟩)).ne, hq⟩

variable {P} in
theorem IdentifyKeeps.observe {plainMsg : Bstring} (h : IdentifyKeeps P ran amf plainMsg s) (o : N1Obs) :
    IdentifyKeeps P ran amf plainMsg (s.observe o) := by
  have hr : (findOrCreateNc amf (s.observe o)).2 = (findOrCreateNc amf s).2 := by
    unfold findOrCreateNc
    rw [N1State.observe_maps]
    split <;> rfl
  unfold IdentifyKeeps
  rw [hr]
  exact h

theorem identityResponseHandle_inv {plainMsg : Bstring} (hs : MapsInv s.maps)
    (h : IdentifyKeeps P ran amf plainMsg s) :
    MapsInv (identityResponseHandle P E ran amf plainMsg s).maps := by
  refine MapsInv.of_sameIds ?_ (.of_touch (identityResponseHandle_touch P E s ran amf plainMsg))
  obtain ⟨honly, hothers⟩ := h
  generalize P.decode.identityResponse (plainMsg.getD []) = imsi at honly hothers ⊢
  have hgutis : (findOrCreateNc amf s).1.maps.guti2nasContext = s.maps.guti2nasContext := by
    unfold findOrCreateNc
    split <;> rfl
  have hsupis : (findOrCreateNc amf s).1.maps.supi2nasContext = s.maps.supi2nasContext := by
    unfold findOrCreateNc
    split <;> rfl
  have hids : (findOrCreateNc amf s).1.maps.supi2amfId = s.maps.supi2amfId := by
    unfold findOrCreateNc
    split <;> rfl
  have hrans : (findOrCreateNc amf s).1.maps.supi2ranId = s.maps.supi2ranId := by
    unfold findOrCreateNc
    split <;> rfl
  obtain ⟨hother, hguti, hamfs, hnext, hr⟩ := findOrCreateNc_inv amf hs
  generalize findOrCreateNc amf s = p at *
  obtain ⟨s₁, r⟩ := p
  dsimp only at *
  have hself := s₁.modifyNc_nc_self r fun nc => nc.updateByIdentityResponse ran amf imsi
  have hother' (q : ℕ) (hq : q ≠ r) :
      (s₁.modifyNc r fun nc => nc.updateByIdentityResponse ran amf imsi).nc q = s.nc q :=
    (s₁.modifyNc_nc_of_ne r q _ hq).trans (hother q hq)
  refine hs.of_ids (r := r) hother' (congrArg NasContext.amfUeNgapId hself)
    (congrArg NasContext.supi hself) (fun _ => congrArg NasContext.ranUeNgapId hself)
    (fun g hg => (congrArg NasContext.guti hself).trans (hguti g hg)) hamfs hgutis (fun x q hq => ?_) ?_
    ?_ (hothers.mono (fun q hq hl => ?_) hsupis hother') hnext hr
  · replace hq : s₁.maps.supi2nasContext x = some q := hq
    rw [hsupis] at hq
    by_cases hqr : q = r
    · subst hqr
      exact .inl ⟨honly x hq, rfl⟩
    · exact .inr ⟨hqr, hq⟩
  · exact congrArg (fun f : Str → Option UInt64 => Function.update f (imsiToSupi imsi) (some amf)) hids
  · exact congrArg (fun f : Str → Option UInt32 => Function.update f (imsiToSupi imsi) (some ran)) hrans
  · rcases hl with ⟨a, hl⟩ | ⟨g, hl⟩ | ⟨x, hl⟩
    · exact .inl ⟨a, ((hamfs a q hl).resolve_left fun h => hq h.2).2⟩
    · exact .inr (.inl ⟨g, hgutis ▸ hl⟩)
    · exact .inr (.inr ⟨x, hsupis ▸ hl⟩)

theorem checkResStar_sameIds (resStar : List UInt8) :
    SameIds s.maps (checkResStar P E r resStar s).1.maps := by
  unfold checkResStar
  dsimp only
  split_ifs
  · split
    · rfl
    · exact .modifyNc _ _ (fun _ => rfl) (fun _ => rfl) (fun _ => rfl) fun _ => rfl
  · rfl

theorem startSecurityModeControlProcedure_sameIds :
    SameIds s.maps (startSecurityModeControlProcedure P E r s).maps := by
  have hrun : SameIds s.maps (s.modifyNc r fun nc => nc.setSecurityModeControlRunning true).maps :=
    .modifyNc _ _ (fun _ => rfl) (fun _ => rfl) (fun _ => rfl) fun _ => rfl
  rcases startSecurityModeControlProcedure_cases P E r s with ⟨-, h⟩ | ⟨nsc, -, -, h⟩ | ⟨nsc, -, -, h⟩
  · rw [h]
    exact hrun
  · exact hrun.trans (.of_touch h)
  · have hinstall := SameIds.modifyNc (s.maps.modifyNc r fun nc => nc.setSecurityModeControlRunning true)
      r (f := fun nc => nc.installSecurityCtx (newSecurityCtx P (s.nc r) nsc)) (fun _ => rfl)
      (fun _ => rfl) (fun _ => rfl) fun _ => rfl
    exact ((hrun.trans hinstall).trans (.setSecurityCtx _ r _)).trans (.of_touch h)

theorem authenticationResponseHandle_sameIds (plainMsg : Bstring) :
    SameIds s.maps (authenticationResponseHandle P E ran amf plainMsg s).maps := by
  unfold authenticationResponseHandle
  split
  · exact .of_touch (sendRegistrationRejectMsg_touch E 0 s _ _ _)
  · rename_i r _
    dsimp only
    have hstop : SameIds s.maps (s.modifyNc r fun nc => nc.setAuthenticationRunning false).maps :=
      .modifyNc _ _ (fun _ => rfl) (fun _ => rfl) (fun _ => rfl) fun _ => rfl
    split
    · exact hstop.trans (startSecurityModeControlProcedure_sameIds P E)
    · rename_i resStar _
      have h := hstop.trans (checkResStar_sameIds P E (r := r) resStar)
      split <;> rename_i s' heq <;> rw [heq] at h
      · exact h.trans (startSecurityModeControlProcedure_sameIds P E
          (s := s'.observe (.authenticated r (s'.nc r).kamf)))
      · exact h.trans (.of_touch (sendRegistrationRejectMsg_touch E r s' _ _ _))

theorem securityModeCompleteHandle_inv {nasMsg : Bstring} (hs : MapsInv s.maps)
    (h : AllocateKeeps P E ran amf s) :
    MapsInv (securityModeCompleteHandle P E ran amf nasMsg s).maps := by
  rcases securityModeCompleteHandle_cases P E s ran amf nasMsg with h' | ⟨r, guti, s₁, hall, hans, h'⟩
  · exact hs.of_sameIds (.of_touch (h' 0))
  · have hmap := allocates_amfueid2nasContext P E hall
    have h₁ : MapsInv s₁.maps :=
      (hs.allocate (.inl ⟨amf, hmap⟩) (h r guti hall)).of_sameIds (.of_answers hans)
    rcases h' with h' | ⟨-, h'⟩ <;> rw [h']
    · exact h₁
    · exact h₁.of_sameIds (.modifyNc s₁.maps r (f := fun nc => nc.setFivegmmState .registered)
        (fun _ => rfl) (fun _ => rfl) (fun _ => rfl) fun _ => rfl)

theorem ueInitiateDeRegistrationHandle_inv {nas : Bstring} (hs : MapsInv s.maps) :
    MapsInv (ueInitiateDeRegistrationHandle P E ran amf nas s).maps := by
  rcases ueInitiateDeRegistrationHandle_cases P E s ran amf nas with ⟨-, h⟩ | ⟨r, -, -, h⟩
  · exact hs.of_sameIds (.of_touch (h 0))
  · exact (hs.removeNc amf (s.nc r).supi _).of_sameIds (.of_touch h)

/-- **A de-registration under the condition leaves nothing.** -/
theorem ueInitiateDeRegistrationHandle_forgotten {nas : Bstring} (hs : MapsInv s.maps)
    (hmap : s.maps.amfueid2nasContext amf = some r) (h : DeregisterKeeps P E amf nas s) :
    Forgotten (ueInitiateDeRegistrationHandle P E ran amf nas s).maps r (s.nc r).supi := by
  obtain ⟨hr, hguti, hid, hran⟩ := h r hmap
  rcases ueInitiateDeRegistrationHandle_cases P E s ran amf nas with ⟨h', -⟩ | ⟨q, h', -, ht⟩
  · rw [hr] at h'
    cases h'
  · rw [hr] at h'
    obtain rfl : r = q := Option.some_injective _ h'
    refine ⟨fun a ha => ?_, fun g hg => ?_, fun x hx => ?_, ?_, ht.supi2amfId ▸ hid, ht.supi2ranId ▸ hran⟩
    · rw [ht.amfueid2nasContext] at ha
      obtain ⟨ha, hne⟩ := update_none_eq_some.mp ha
      exact hne ((hs.amf a r ha).symm.trans (hs.amf amf r hmap))
    · rw [ht.guti2nasContext] at hg
      obtain ⟨hg, hne⟩ := update_none_eq_some.mp hg
      exact hne (hguti g hg)
    · rw [ht.supi2nasContext] at hx
      obtain ⟨hx, hne⟩ := update_none_eq_some.mp hx
      exact hne (hs.supi x r hx).symm
    · rw [ht.supi2nasContext]
      exact Function.update_self ..

theorem nasSignallingEstablishmentRequestHandle_inv {ind : UplinkNasDataInd} {d : Delivery}
    (hs : MapsInv s.maps)
    (hnc : ∀ q, d.nc = some q → s.maps.amfueid2nasContext ind.amfUeNgapId = some q)
    (hi : ind.isNasSignallingEstabReq = true) (h : DeliveryKeeps P E ind d s) :
    MapsInv (nasSignallingEstablishmentRequestHandle P E ind d s).maps := by
  obtain ⟨hest, hmap⟩ := establishNc_inv hs hnc
  have hreq := h.initialRequest hi
  have hserv := h.serviceRequest hi
  unfold nasSignallingEstablishmentRequestHandle
  dsimp only
  generalize establishNc ind d.nc s = p at hest hmap hreq hserv ⊢
  obtain ⟨s₁, r⟩ := p
  dsimp only at *
  split_ifs with h₁ h₂
  · exact registrationRequestHandle_inv P E (s := s₁.observe _) hest hmap (hreq h₁)
  · have hseq : SameIds s₁.maps ((s₁.observe (.dispatched (getNasMessageType d.plainMsg))).modifyNc r
        fun nc => nc.mapSecurityCtx fun nsc => nsc.setUlSeqNum d.ulCount).maps :=
      .modifyNc _ _ (fun _ => rfl) (fun _ => rfl) (fun _ => rfl) fun _ => rfl
    refine serviceRequestHandleUlCount_inv P E _ (hest.of_sameIds hseq) hmap
      ((hserv h₂).congr hseq fun q hq => ?_)
    by_cases hqr : q = r
    · subst hqr
      rw [N1State.modifyNc_nc_self] at hq
      exact Option.isSome_map.symm.trans hq
    · rw [N1State.modifyNc_nc_of_ne _ _ _ _ hqr] at hq
      exact hq
  · exact hest

theorem uplinkNasMsgHandle_inv {ind : UplinkNasDataInd} {d : Delivery} (hs : MapsInv s.maps)
    (hi : ind.isNasSignallingEstabReq = false) (h : DeliveryKeeps P E ind d s) :
    MapsInv (uplinkNasMsgHandle P E ind d.plainMsg s).maps := by
  have hdis : MapsInv (s.observe (.dispatched (getNasMessageType d.plainMsg))).maps := hs
  refine uplinkNasMsgHandle_cases P E (motive := fun s => MapsInv s.maps) rfl ?response ?failure ?complete
    ?transport ?deregistration ?identity ?service ?registration hdis fun _ => hs
  case response =>
    exact fun _ => hdis.of_sameIds (authenticationResponseHandle_sameIds P E d.plainMsg)
  case failure =>
    obtain ⟨r, hr⟩ := authenticationFailureHandle_touch P E
      (s.observe (.dispatched (getNasMessageType d.plainMsg))) ind.ranUeNgapId ind.amfUeNgapId d.plainMsg
    exact hdis.of_sameIds (.of_touch hr)
  case complete =>
    exact fun htype => securityModeCompleteHandle_inv P E hdis (h.securityModeComplete hi htype)
  case transport =>
    exact hdis.of_sameIds (.of_touch (ulNasTransportHandle_touch P E 0 _ _ _ _ _ _))
  case deregistration =>
    exact ueInitiateDeRegistrationHandle_inv P E hdis
  case identity =>
    exact fun htype => identityResponseHandle_inv P E hdis ((h.identityResponse hi htype).observe _)
  case service =>
    exact fun r hmap => serviceRequestHandle_inv P E hdis hmap
  case registration =>
    exact fun htype r hmap => registrationRequestHandle_inv P E hdis hmap (h.request hi htype r hmap)

/-- **One message.** -/
theorem n1Step_inv (e : N1Event) (hs : MapsInv s.maps) (h : KeepsMaps P s e) :
    MapsInv (n1Step P s e).maps := by
  cases e with
  | downlinkNasTransfer msg E =>
    rcases handleDownlinkNasTransfer_cases P E s msg with h' | ⟨r, -, h'⟩
    · exact (congrArg (fun s : N1State => MapsInv s.maps) h').mpr hs
    · exact hs.of_sameIds (.of_answers h')
  | uplinkNasDataInd ind E =>
    obtain ⟨hmove, hdelivery⟩ := h
    have hs' := deliver_inv P E hs hmove
    have hnc {s' : N1State} {d : Delivery} {q : ℕ} := @deliver_nc P E s ind d s' q
    change MapsInv (handleUplinkNasDataInd P E ind s).maps
    unfold handleUplinkNasDataInd
    generalize deliver P E ind s = p at hs' hdelivery hnc
    obtain ⟨s', _ | d⟩ := p
    · exact hs'
    · replace hdelivery := hdelivery s' d rfl
      dsimp only at hs' ⊢
      unfold dispatch
      split_ifs with hi
      · exact nasSignallingEstablishmentRequestHandle_inv P E hs' (fun q hq => hnc rfl hq) hi hdelivery
      · exact uplinkNasMsgHandle_inv P E hs' (Bool.not_eq_true _ ▸ hi) hdelivery

/-- **A de-registration under the condition.** -/
theorem deregisters_of_keepsMaps (e : N1Event) (hs : MapsInv s.maps) (h : KeepsMaps P s e) :
    Deregisters P s e := by
  cases e with
  | downlinkNasTransfer msg E => trivial
  | uplinkNasDataInd ind E =>
    obtain ⟨hmove, hdelivery⟩ := h
    intro s' d r supi hdel htype hnc
    have hs' := deliver_inv P E hs hmove
    rw [hdel] at hs'
    have hkeeps := hdelivery s' d hdel
    have hi : ind.isNasSignallingEstabReq = false := by
      by_contra hi
      exact hkeeps.noInitialDeregistration (Bool.not_eq_false _ ▸ hi) htype
    obtain ⟨hmap, rfl⟩ : s'.maps.amfueid2nasContext ind.amfUeNgapId = some r ∧ (s'.nc r).supi = supi := by
      unfold deregisteringNc at hnc
      rw [hi, if_neg Bool.false_ne_true] at hnc
      obtain ⟨q, hq, heq⟩ := Option.map_eq_some_iff.mp hnc
      obtain ⟨rfl, rfl⟩ := Prod.mk.inj heq
      exact ⟨hq, rfl⟩
    have hstep : n1Step P s (.uplinkNasDataInd ind E) =
        ueInitiateDeRegistrationHandle P E ind.ranUeNgapId ind.amfUeNgapId d.plainMsg
          (s'.observe (.dispatched (getNasMessageType d.plainMsg))) := by
      change handleUplinkNasDataInd P E ind s = _
      unfold handleUplinkNasDataInd dispatch
      rw [hdel]
      dsimp only
      rw [hi, if_neg Bool.false_ne_true]
      unfold uplinkNasMsgHandle
      dsimp only
      rw [htype]
      rfl
    rw [hstep]
    exact ueInitiateDeRegistrationHandle_forgotten P E
      (s := s'.observe (.dispatched (getNasMessageType d.plainMsg))) hs' hmap
      (hkeeps.deregistrationRequest hi htype)

end

/-! ## Runs -/

/-- **In every run of such messages the maps agree and a de-registration leaves nothing behind.** -/
theorem mapsKept_run (P : N1Params) (es : List N1Event)
    (h : Along (n1Step P) (KeepsMaps P) N1State.init es) : MapsKept P es := by
  have hstep (s : N1State) (e : N1Event) (hs : MapsInv s.maps) (he : KeepsMaps P s e) :
      MapsInv (n1Step P s e).maps := n1Step_inv P e hs he
  have hinit : MapsInv N1State.init.maps := .empty
  refine ⟨(h.invariant (I := fun s => MapsInv s.maps) hstep hinit).toMapsAgree, ?_⟩
  exact h.mono_of_invariant (I := fun s => MapsInv s.maps) hstep
    (fun s e hs he => ⟨hs.toMapsAgree, deregisters_of_keepsMaps P e hs he⟩) hinit

/-- The registration of one UE keeps the maps. -/
theorem mapsKept_registration : Along (n1Step oneUeParams) (KeepsMaps oneUeParams) N1State.init
    registration ∧ MapsKept oneUeParams registration := by
  have h : Along (n1Step oneUeParams) (KeepsMaps oneUeParams) N1State.init registration := by
    refine ⟨⟨fun _ _ h => (nomatch h), ?_⟩, ⟨fun _ _ h => (nomatch h), ?_⟩,
      ⟨fun _ _ h => (nomatch h), ?_⟩, trivial⟩
    · rintro s' d h
      obtain ⟨rfl, hd⟩ := Prod.mk.inj h
      cases hd
      refine ⟨fun _ _ _ => ⟨fun x hx => ?_, fun q hq hl _ _ => ?_⟩, fun _ h => absurd h (by decide),
        fun h => (nomatch h), fun h => (nomatch h), fun h => (nomatch h), fun _ h => absurd h (by decide),
        fun h => (nomatch h)⟩
      · cases hx
      · refine absurd ?_ hq
        rcases hl with ⟨_, hl⟩ | ⟨_, hl⟩ | ⟨_, hl⟩
        · rcases update_some_eq_some.mp hl with ⟨-, h⟩ | ⟨-, h⟩
          · exact h.symm
          · cases h
        · cases hl
        · rcases update_some_eq_some.mp hl with ⟨-, h⟩ | ⟨-, h⟩
          · exact h.symm
          · cases h
    · rintro s' d h
      obtain ⟨rfl, hd⟩ := Prod.mk.inj h
      cases hd
      exact ⟨fun h => (nomatch h), fun h => (nomatch h), fun _ h => absurd h (by decide),
        fun _ h => absurd h (by decide), fun _ h => absurd h (by decide), fun h => (nomatch h),
        fun _ h => absurd h (by decide)⟩
    · rintro s' d h
      obtain ⟨rfl, hd⟩ := Prod.mk.inj h
      cases hd
      refine ⟨fun h => (nomatch h), fun h => (nomatch h), fun _ h => absurd h (by decide),
        fun _ h => absurd h (by decide), fun _ _ => ?_, fun h => (nomatch h),
        fun _ h => absurd h (by decide)⟩
      intro r guti hr g hg
      cases hg
  exact ⟨h, mapsKept_run oneUeParams registration h⟩

/-- **The ids of a SUPI stay after a de-registration.** -/
theorem not_mapsKept_deregistration : ¬ MapsKept oneUeParams
    [fromOneUe true [0x7e, 0, 0x41], fromOneUe false [0x7e, 0, 0x45]] := by
  rintro ⟨-, -, ⟨-, hd⟩, -⟩
  have h := hd _ _ 0 _ rfl (by decide) rfl
  exact absurd h.amfId (by decide)

end Oai5g.Amf
