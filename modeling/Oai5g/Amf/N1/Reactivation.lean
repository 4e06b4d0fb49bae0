import Oai5g.Amf.N1.Steps

/-!
# The outcome for PDU sessions

* `psiBit`, `hasPsi`: the bits of a status.
* `Reports`: two IEs tell which sessions are active.
* `ConnectedRun`, `InitialRun`, `SecurityModeRun`: the runs of the three handlers that come to the statuses, and
  the message that each encodes.
* **`accept_reports_iff`**: on a new connection and after the security mode command the message tells the outcome; on
  an existing connection it is the same exactly when there is something to activate and all of it has N2 SM
  information.
-/

namespace Oai5g.Amf

/-! ## Bits -/

/-- Where a status has the bit of a PSI: octet 3 is the upper half and holds PSI 0 to 7. -/
def psiBit (p : Fin 16) : ℕ := if p.val ≤ 7 then p.val + 8 else p.val - 8

/-- The bit of a PSI in a status. -/
def hasPsi (status : UInt16) (p : Fin 16) : Bool := status.toNat.testBit (psiBit p)

theorem hasPsi_or (a b : UInt16) (p : Fin 16) : hasPsi (a ||| b) p = (hasPsi a p || hasPsi b p) := by
  simp [hasPsi]

theorem hasPsi_and_not (a b : UInt16) (p : Fin 16) : hasPsi (a &&& ~~~ b) p = (hasPsi a p && !hasPsi b p) := by
  have hlt : psiBit p < 16 := by unfold psiBit; split <;> omega
  change (a &&& ~~~ b).toBitVec.getLsbD _ = (a.toBitVec.getLsbD _ && !b.toBitVec.getLsbD _)
  simp [hlt]

theorem hasPsi_pduSessionBit_small : ∀ p q : Fin 16,
    hasPsi (pduSessionBit (UInt8.ofNat q.val)) p = decide (p = q ∧ p ≠ 0) := by
  decide

theorem hasPsi_pduSessionBit (p : Fin 16) (q : UInt8) :
    hasPsi (pduSessionBit q) p = decide (UInt8.ofNat p.val = q ∧ p ≠ 0) := by
  by_cases hq : q.toNat < 16
  · have hofNat : UInt8.ofNat (Fin.mk q.toNat hq).val = q := UInt8.ofNat_toNat
    have h := hasPsi_pduSessionBit_small p ⟨q.toNat, hq⟩
    rw [hofNat] at h
    rw [h, decide_eq_decide]
    refine and_congr ⟨fun he => ?_, fun he => ?_⟩ Iff.rfl
    · rw [he]
      exact hofNat
    · have hval : (UInt8.ofNat p.val).toNat = p.val := by
        simp only [UInt8.toNat_ofNat']
        omega
      have hpq : p.val = q.toNat := by rw [← he, hval]
      exact Fin.ext hpq
  · have hzero : pduSessionBit q = 0 := by
      simp only [pduSessionBit]
      rw [if_neg (by omega), if_neg (by omega)]
    have hne : UInt8.ofNat p.val ≠ q := by
      rintro rfl
      simp only [UInt8.toNat_ofNat'] at hq
      omega
    simp [hzero, hasPsi, hne]

theorem session_of_bit : ∀ i p : Fin 16,
    (if i.val ≤ 7 then some (UInt8.ofNat (8 + i.val))
      else if 8 < i.val then some (UInt8.ofNat (i.val - 8)) else none) = some (UInt8.ofNat p.val) ↔
      i.val = psiBit p ∧ p ≠ 0 := by
  decide

theorem mem_getPduSessionToBeActivated (status : UInt16) (p : Fin 16) :
    UInt8.ofNat p.val ∈ getPduSessionToBeActivated status ↔ hasPsi status p = true ∧ p ≠ 0 := by
  simp only [getPduSessionToBeActivated, List.mem_filterMap, List.mem_range, hasPsi]
  constructor
  · rintro ⟨i, hi, h⟩
    split at h
    · rename_i hbit
      obtain ⟨rfl, hp⟩ := (session_of_bit ⟨i, hi⟩ p).mp h
      exact ⟨hbit, hp⟩
    · cases h
  · rintro ⟨hbit, hp⟩
    have hlt : psiBit p < 16 := by
      unfold psiBit
      split <;> omega
    refine ⟨psiBit p, hlt, ?_⟩
    rw [if_pos hbit]
    exact (session_of_bit ⟨psiBit p, hlt⟩ p).mpr ⟨rfl, hp⟩

/-! ## The loop -/

theorem hasPsi_foldl_reactivationResult (l : List UInt8) (v : UInt16) {p : Fin 16} (hp : p ≠ 0) :
    hasPsi (l.foldl setPduSessionReactivationResult v) p = true ↔ hasPsi v p = true ∨ UInt8.ofNat p.val ∈ l := by
  induction l generalizing v with
  | nil => simp
  | cons q l ih =>
    rw [List.foldl_cons, ih, setPduSessionReactivationResult, hasPsi_or, hasPsi_pduSessionBit]
    simp [hp, or_assoc]

theorem hasPsi_foldl_statusInactive (l : List UInt8) (v : UInt16) {p : Fin 16} (hp : p ≠ 0) :
    hasPsi (l.foldl setPduSessionStatusInactive v) p = false ↔ hasPsi v p = false ∨ UInt8.ofNat p.val ∈ l := by
  induction l generalizing v with
  | nil => simp
  | cons q l ih =>
    rw [List.foldl_cons, ih, setPduSessionStatusInactive, hasPsi_and_not, hasPsi_pduSessionBit]
    cases hv : hasPsi v p <;> simp [hp]

/-! ## What the answer has to say -/

/-- The two IEs of an accept. -/
structure SessionIes where
  pduSessionReactivationResult : Option UInt16
  pduSessionStatus : Option UInt16
deriving DecidableEq

namespace SessionStatus

variable (E : N1Env) (st : SessionStatus)

/-- The IEs of the accept on a new connection. -/
def initialIes : SessionIes :=
  if st.toBeActivated = [] then ⟨st.uplinkDataStatus.map fun _ => 0, st.pduSessionStatus⟩
  else ⟨st.reactivationResult E, st.answeredStatus E⟩

/-- The IEs of the accept after the security mode command. -/
def securityModeIes : SessionIes := ⟨st.reactivationResult E, st.answeredStatus E⟩

/-- The UE wants the session active: by its Uplink Data Status, by its PDU Session Status where this is missing. -/
def ToActivate (p : Fin 16) : Prop :=
  match st.uplinkDataStatus, st.pduSessionStatus with
  | some u, _ => hasPsi u p = true
  | none, some q => hasPsi q p = true
  | none, none => False

/-- The session is to be activated and cannot be. -/
def Fails (p : Fin 16) : Prop := st.ToActivate p ∧ E.isN2smAvailable (UInt8.ofNat p.val) = false

/-- The IEs tell the outcome of each PSI. The bit of PSI 0 is spare. -/
structure Reports (ies : SessionIes) : Prop where
  result_isSome : ies.pduSessionReactivationResult.isSome = st.uplinkDataStatus.isSome
  status_isSome : ies.pduSessionStatus.isSome = st.pduSessionStatus.isSome
  result : ∀ u, st.uplinkDataStatus = some u → ∀ v, ies.pduSessionReactivationResult = some v →
    ∀ p, p ≠ 0 → (hasPsi v p = true ↔ hasPsi u p = true ∧ E.isN2smAvailable (UInt8.ofNat p.val) = false)
  status : ∀ q, st.pduSessionStatus = some q → ∀ v, ies.pduSessionStatus = some v →
    ∀ p, p ≠ 0 → (hasPsi v p = false ↔ hasPsi q p = false ∨ st.Fails E p)

variable {E st}

theorem mem_toBeActivated {p : Fin 16} : UInt8.ofNat p.val ∈ st.toBeActivated ↔ st.ToActivate p ∧ p ≠ 0 := by
  obtain ⟨u, q⟩ := st
  cases u with
  | some u => exact mem_getPduSessionToBeActivated u p
  | none =>
    cases q with
    | some q => exact mem_getPduSessionToBeActivated q p
    | none => simp [toBeActivated, ToActivate]

theorem mem_failing {p : Fin 16} (hp : p ≠ 0) :
    UInt8.ofNat p.val ∈ st.toBeActivated.filter (fun i => !E.isN2smAvailable i) ↔ st.Fails E p := by
  rw [List.mem_filter, mem_toBeActivated, Fails]
  simp [hp]

theorem reports_securityModeIes : st.Reports E (st.securityModeIes E) := by
  constructor
  · simp [securityModeIes, reactivationResult]
  · simp [securityModeIes, answeredStatus]
  · intro u hu v hv p hp
    simp only [securityModeIes, reactivationResult, hu, Option.map_some, Option.some.injEq] at hv
    rw [← hv, hasPsi_foldl_reactivationResult _ _ hp, mem_failing hp]
    simp [hasPsi, Fails, ToActivate, hu]
  · intro q hq v hv p hp
    simp only [securityModeIes, answeredStatus, hq, Option.map_some, Option.some.injEq] at hv
    rw [← hv, hasPsi_foldl_statusInactive _ _ hp, mem_failing hp]

theorem initialIes_eq : st.initialIes E = st.securityModeIes E := by
  unfold initialIes securityModeIes
  split
  · rename_i hnil
    simp [reactivationResult, answeredStatus, hnil]
  · rfl

theorem exists_of_mem_toBeActivated {i : UInt8} (hi : i ∈ st.toBeActivated) :
    ∃ p : Fin 16, p ≠ 0 ∧ i = UInt8.ofNat p.val := by
  have hmem : ∃ status, i ∈ getPduSessionToBeActivated status := by
    unfold toBeActivated at hi
    split at hi
    · exact ⟨_, hi⟩
    · exact ⟨_, hi⟩
    · cases hi
  obtain ⟨status, hmem⟩ := hmem
  simp only [getPduSessionToBeActivated, List.mem_filterMap, List.mem_range] at hmem
  obtain ⟨k, hk, h⟩ := hmem
  split at h
  · split at h
    · exact ⟨⟨8 + k, by omega⟩, by simp [Fin.ext_iff], (Option.some.inj h).symm⟩
    · split at h
      · exact ⟨⟨k - 8, by omega⟩, by simp [Fin.ext_iff]; omega, (Option.some.inj h).symm⟩
      · cases h
  · cases h

theorem unset_eq (h : ∀ p, p ≠ 0 → ¬ st.Fails E p) :
    (⟨st.uplinkDataStatus.map fun _ => 0, st.pduSessionStatus⟩ : SessionIes) = st.securityModeIes E := by
  have hnil : st.toBeActivated.filter (fun i => !E.isN2smAvailable i) = [] := by
    rw [List.eq_nil_iff_forall_not_mem]
    intro i hi
    obtain ⟨p, hp, rfl⟩ := exists_of_mem_toBeActivated (List.mem_of_mem_filter hi)
    exact h p hp ((mem_failing hp).mp hi)
  simp [securityModeIes, reactivationResult, answeredStatus, hnil]

/-- An accept that is filled before the loop tells the outcome if no session fails, and only then. -/
theorem reports_unset_iff : st.Reports E ⟨st.uplinkDataStatus.map fun _ => 0, st.pduSessionStatus⟩ ↔
    ∀ p, p ≠ 0 → ¬ st.Fails E p := by
  constructor
  · rintro h p hp ⟨hactive, hn2sm⟩
    obtain ⟨u, q⟩ := st
    cases u with
    | some u =>
      have hzero := (h.result u rfl 0 rfl p hp).mpr ⟨hactive, hn2sm⟩
      simp [hasPsi] at hzero
    | none =>
      cases q with
      | some q =>
        have hclear := (h.status q rfl q rfl p hp).mpr (.inr ⟨hactive, hn2sm⟩)
        have hset : hasPsi q p = true := hactive
        rw [hset] at hclear
        cases hclear
      | none => exact hactive
  · intro h
    rw [unset_eq h]
    exact reports_securityModeIes

theorem toBeActivated_ne_nil_iff : st.toBeActivated ≠ [] ↔ ∃ p, p ≠ 0 ∧ st.ToActivate p := by
  constructor
  · intro h
    obtain ⟨i, hi⟩ := List.exists_mem_of_ne_nil _ h
    obtain ⟨p, hp, rfl⟩ := exists_of_mem_toBeActivated hi
    exact ⟨p, hp, (mem_toBeActivated.mp hi).1⟩
  · rintro ⟨p, hp, hactive⟩
    exact List.ne_nil_of_mem (mem_toBeActivated.mpr ⟨hactive, hp⟩)

end SessionStatus

/-! ## The messages -/

/-- The two IEs that a message carries: only the accepts carry any. -/
def DlNasMessage.sessionIes : DlNasMessage → SessionIes
  | .serviceAccept result status => ⟨result, status⟩
  | .registrationAccept _ _ _ _ _ _ result status => ⟨result, status⟩
  | _ => ⟨none, none⟩

/-- A Service Accept or a Registration Accept. -/
def DlNasMessage.isAccept : DlNasMessage → Bool
  | .serviceAccept _ _ | .registrationAccept _ _ _ _ _ _ _ _ => true
  | _ => false

section Handlers

variable (P : N1Params) (E : N1Env) (st : SessionStatus) (r : ℕ) (ran : UInt32) (amf : UInt64) (nas : Bstring)
  (s : N1State)

/-- A Service Request with these statuses on an existing connection, of a UE with its contexts. -/
structure ConnectedRun : Prop where
  ueContext : (E.ueContext ran amf).isSome = true
  securityCtx : (s.nc r).securityCtx.isSome = true
  decoded : (P.decode.serviceRequest (nas.getD [])).1 = true
  statuses : readSessionStatus P (P.decode.serviceRequest (nas.getD [])).2 = some st

/-- One on a new connection: the security context is the one of the old NAS context where there is one. -/
structure InitialRun : Prop where
  ueContext : (E.ueContext ran amf).isSome = true
  securityCtx : ∀ uc, E.ueContext ran amf = some uc → (s.nc ((oldNasContext P uc r true
    (P.decode.serviceRequest (nas.getD [])).2 s).getD r)).securityCtx.isSome = true
  decoded : (P.decode.serviceRequest (nas.getD [])).1 = true
  statuses : readSessionStatus P (P.decode.serviceRequest (nas.getD [])).2 = some st

/-- A Security Mode Complete with these statuses, of a UE with its contexts: the AMF keeps the UE, gives it a GUTI
and can encode the accept. -/
structure SecurityModeRun : Prop where
  ueContext : (E.ueContext ran amf).isSome = true
  nasContext : ∃ r, s.maps.amfueid2nasContext amf = some r ∧ (s.nc r).securityCtx.isSome = true ∧
    E.rerouteRegistrationRequest (s.nc r) = (false, true)
  encodes : ∃ mcc mnc tmsi, E.generate5gGuti ran amf = some (mcc, mnc, tmsi) ∧ ∀ result status,
    E.encode (.registrationAccept mcc mnc P.regionId P.amfSetId P.amfPointer tmsi result status) ≠ []
  statuses : containerStatus P (P.decode.securityModeComplete (nas.getD [])) = st

variable {P E st r ran amf nas s}

/-- On an existing connection: an accept that was filled before the loop, or a reject where there is no loop. -/
theorem ConnectedRun.message (h : ConnectedRun P E st r ran amf nas s) :
    (serviceRequestReply P E r ran amf nas s).2 =
      some (if st.toBeActivated = [] then .serviceReject k5gmmCauseSemanticallyIncorrect
        else .serviceAccept (st.uplinkDataStatus.map fun _ => 0) st.pduSessionStatus) := by
  obtain ⟨uc, huc⟩ := Option.isSome_iff_exists.mp h.ueContext
  obtain ⟨nsc, hnsc⟩ := Option.isSome_iff_exists.mp h.securityCtx
  unfold serviceRequestReply serviceRejectReply encodeReply
  simp only [huc, hnsc, h.decoded, h.statuses, Option.isNone_some, Bool.false_eq_true, Bool.not_true, or_self,
    if_false]
  split_ifs <;> rfl

theorem serviceAcceptReply_message (s : N1State) : (serviceAcceptReply P E r ran amf st s).2 =
    some (.serviceAccept (st.initialIes E).pduSessionReactivationResult (st.initialIes E).pduSessionStatus) := by
  unfold serviceAcceptReply encodeReply SessionStatus.initialIes
  split_ifs <;> rfl

theorem InitialRun.message {ulCount : UInt8} (h : InitialRun P E st r ran amf nas s) :
    (serviceRequestReplyUlCount P E r ran amf nas ulCount s).2 =
      some (.serviceAccept (st.initialIes E).pduSessionReactivationResult (st.initialIes E).pduSessionStatus) := by
  obtain ⟨uc, huc⟩ := Option.isSome_iff_exists.mp h.ueContext
  have hctx := h.securityCtx uc huc
  have hcontinue : ∀ s', (s'.nc r).securityCtx.isSome = true →
      (continueServiceRequestReply P E r ran amf true (P.decode.serviceRequest (nas.getD [])).2 s').2 =
        some (.serviceAccept (st.initialIes E).pduSessionReactivationResult (st.initialIes E).pduSessionStatus) := by
    intro s' hs'
    obtain ⟨nsc, hnsc⟩ := Option.isSome_iff_exists.mp hs'
    unfold continueServiceRequestReply
    simp only [hnsc, h.statuses, Option.isNone_some, Bool.false_eq_true, Bool.not_true, or_self, if_false]
    exact serviceAcceptReply_message _
  unfold serviceRequestReplyUlCount
  simp only [huc, h.decoded]
  cases hold : oldNasContext P uc r true (P.decode.serviceRequest (nas.getD [])).2 s with
  | none =>
    rw [hold] at hctx
    exact hcontinue s hctx
  | some old =>
    rw [hold] at hctx
    obtain ⟨nsc, hnsc⟩ := Option.isSome_iff_exists.mp hctx
    rw [Option.getD_some] at hnsc
    simp only [hnsc]
    refine hcontinue _ ?_
    unfold takeOldContext
    have hnc : (((s.modifyNc r fun nc => nc.takeOver (s.nc old) (nsc.setUlSeqNum ulCount)).observe
        (.installed r (nsc.setUlSeqNum ulCount))).observe (.accepted r (nsc.setUlSeqNum ulCount) false)).nc r =
          (s.nc r).takeOver (s.nc old) (nsc.setUlSeqNum ulCount) :=
      N1State.modifyNc_nc_self s r _
    rw [hnc]
    rfl

theorem SecurityModeRun.message (h : SecurityModeRun P E st ran amf nas s) :
    ∃ mcc mnc tmsi, (securityModeCompleteReply P E ran amf nas s).2 =
      some (.registrationAccept mcc mnc P.regionId P.amfSetId P.amfPointer tmsi
        (st.securityModeIes E).pduSessionReactivationResult (st.securityModeIes E).pduSessionStatus) := by
  obtain ⟨uc, huc⟩ := Option.isSome_iff_exists.mp h.ueContext
  obtain ⟨r, hr, hctx, hroute⟩ := h.nasContext
  obtain ⟨mcc, mnc, tmsi, hguti, hencode⟩ := h.encodes
  obtain ⟨nsc, hnsc⟩ := Option.isSome_iff_exists.mp hctx
  refine ⟨mcc, mnc, tmsi, ?_⟩
  have hstored : (((s.onMaps fun m => m.setGuti2NasContext (allocatedGuti P mcc mnc tmsi) r).modifyNc r
      fun nc => nc.storeGuti (allocatedGuti P mcc mnc tmsi)).nc r).securityCtx = some nsc := by
    rw [N1State.modifyNc_nc_self]
    exact hnsc
  unfold securityModeCompleteReply
  simp only [huc, hr, hroute, hguti, h.statuses, hstored, Option.isNone_some, Bool.false_eq_true, if_false]
  split
  · rename_i hnil
    exact absurd hnil (hencode _ _)
  · rfl

end Handlers

/-! ## The three paths -/

section

variable (E : N1Env) (st : SessionStatus)

/-- A message has been encoded, and an accept tells the outcome. -/
def TellsOutcome (message : Option DlNasMessage) : Prop :=
  ∃ m, message = some m ∧ (m.isAccept = true → st.Reports E m.sessionIes)

/-- **The messages of the three paths** tell the outcome and carry the same two IEs. -/
structure OutcomeReported (connected initial securityMode : Option DlNasMessage) : Prop where
  connected_tells : TellsOutcome E st connected
  initial_tells : TellsOutcome E st initial
  securityMode_tells : TellsOutcome E st securityMode
  connected_same : connected.map DlNasMessage.sessionIes = initial.map DlNasMessage.sessionIes
  initial_same : initial.map DlNasMessage.sessionIes = securityMode.map DlNasMessage.sessionIes

/-- Each session to be activated has N2 SM information, and there is one unless no status was received at all. -/
structure AllActivated : Prop where
  available : ∀ p, p ≠ 0 → st.ToActivate p → E.isN2smAvailable (UInt8.ofNat p.val) = true
  something : st.uplinkDataStatus.isSome = true ∨ st.pduSessionStatus.isSome = true → ∃ p, p ≠ 0 ∧ st.ToActivate p

variable {E st}

/-- **What the three handlers encode**: the two that fill their accept after the loop tell the outcome, always and
alike; the third one does so exactly when everything there is to activate can be activated. -/
theorem accept_reports_iff (P : N1Params) (E : N1Env) (st : SessionStatus) {r r' : ℕ} {ran ran' ran'' : UInt32}
    {amf amf' amf'' : UInt64} {nas nas' nas'' : Bstring} {s s' s'' : N1State} (ulCount : UInt8)
    (hconnected : ConnectedRun P E st r ran amf nas s) (hinitial : InitialRun P E st r' ran' amf' nas' s')
    (hsecurityMode : SecurityModeRun P E st ran'' amf'' nas'' s'') :
    (OutcomeReported E st (serviceRequestReply P E r ran amf nas s).2
        (serviceRequestReplyUlCount P E r' ran' amf' nas' ulCount s').2
        (securityModeCompleteReply P E ran'' amf'' nas'' s'').2 ↔ AllActivated E st) ∧
      TellsOutcome E st (serviceRequestReplyUlCount P E r' ran' amf' nas' ulCount s').2 ∧
      TellsOutcome E st (securityModeCompleteReply P E ran'' amf'' nas'' s'').2 ∧
      (serviceRequestReplyUlCount P E r' ran' amf' nas' ulCount s').2.map DlNasMessage.sessionIes =
        (securityModeCompleteReply P E ran'' amf'' nas'' s'').2.map DlNasMessage.sessionIes := by
  obtain ⟨mcc, mnc, tmsi, hthird⟩ := hsecurityMode.message
  rw [hconnected.message, hinitial.message, hthird, SessionStatus.initialIes_eq]
  have htells : TellsOutcome E st (some (.serviceAccept (st.securityModeIes E).pduSessionReactivationResult
      (st.securityModeIes E).pduSessionStatus)) := ⟨_, rfl, fun _ => SessionStatus.reports_securityModeIes⟩
  have htells' : TellsOutcome E st (some (.registrationAccept mcc mnc P.regionId P.amfSetId P.amfPointer tmsi
      (st.securityModeIes E).pduSessionReactivationResult (st.securityModeIes E).pduSessionStatus)) :=
    ⟨_, rfl, fun _ => SessionStatus.reports_securityModeIes⟩
  refine ⟨?_, htells, htells', rfl⟩
  by_cases hnil : st.toBeActivated = []
  · have hnone : ¬ ∃ p, p ≠ 0 ∧ st.ToActivate p := fun h => SessionStatus.toBeActivated_ne_nil_iff.mpr h hnil
    rw [if_pos hnil]
    constructor
    · intro h
      have hies : (⟨none, none⟩ : SessionIes) = st.securityModeIes E := Option.some.inj h.connected_same
      have hresult : st.reactivationResult E = none := (congrArg SessionIes.pduSessionReactivationResult hies).symm
      have hstatus : st.answeredStatus E = none := (congrArg SessionIes.pduSessionStatus hies).symm
      refine ⟨fun p hp hactive => absurd ⟨p, hp, hactive⟩ hnone, fun hsome => ?_⟩
      rw [Option.map_eq_none_iff.mp hresult, Option.map_eq_none_iff.mp hstatus] at hsome
      simp at hsome
    · intro h
      have hboth : st.uplinkDataStatus = none ∧ st.pduSessionStatus = none := by
        constructor
        · by_contra hsome
          exact hnone (h.something (.inl (Option.isSome_iff_ne_none.mpr hsome)))
        · by_contra hsome
          exact hnone (h.something (.inr (Option.isSome_iff_ne_none.mpr hsome)))
      have hresult : st.reactivationResult E = none := Option.map_eq_none_iff.mpr hboth.1
      have hstatus : st.answeredStatus E = none := Option.map_eq_none_iff.mpr hboth.2
      refine ⟨⟨_, rfl, fun hno => by cases hno⟩, htells, htells', ?_, rfl⟩
      unfold SessionStatus.securityModeIes
      rw [hresult, hstatus]
      rfl
  · rw [if_neg hnil]
    have hfails : (∀ p, p ≠ 0 → ¬ st.Fails E p) ↔ AllActivated E st := by
      constructor
      · intro h
        refine ⟨fun p hp hactive => ?_, fun _ => SessionStatus.toBeActivated_ne_nil_iff.mp hnil⟩
        by_contra hno
        exact h p hp ⟨hactive, eq_false_of_ne_true hno⟩
      · rintro h p hp ⟨hactive, hno⟩
        rw [h.available p hp hactive] at hno
        cases hno
    rw [← hfails, ← SessionStatus.reports_unset_iff]
    constructor
    · rintro ⟨⟨m, hm, hreports⟩, -, -, -, -⟩
      obtain rfl := Option.some.inj hm
      exact hreports rfl
    · intro hreports
      have hsame : (⟨st.uplinkDataStatus.map fun _ => 0, st.pduSessionStatus⟩ : SessionIes) =
          st.securityModeIes E := SessionStatus.unset_eq (SessionStatus.reports_unset_iff.mp hreports)
      exact ⟨⟨_, rfl, fun _ => hreports⟩, htells, htells', congrArg some hsame, rfl⟩

/-! ## Examples -/

/-- A UE that asks for the sessions of a status, whatever the message. -/
def requestingParams (status : UInt16) : N1Params :=
  { blankParams with
    decode := { blankDecoders with
      serviceRequest := fun _ => (true, ⟨none, some status, some status, none⟩)
      securityModeComplete := fun _ => some [0x7E, 0, kRegistrationRequest]
      registrationRequest := fun _ => ⟨.other, 0, false, 0, none, none, some status, some status, none⟩ } }

/-- Sessions 1 and 9 have N2 SM information. -/
def twoSessionsEnv : N1Env :=
  { blankEnv with
    ueContext := fun _ _ => some ⟨"imsi-1".toList, "001".toList, "01".toList, 1, 1, true⟩
    generate5gGuti := fun _ _ => some ("001".toList, "01".toList, 1)
    encode := fun _ => [0x7E]
    isN2smAvailable := fun i => i = 1 ∨ i = 9 }

/-- A UE with a security context. -/
def securedState : N1State :=
  (N1State.init.newNc.1.modifyNc 0 fun nc => nc.setSecurityCtx .zero).onMaps fun m => m.setAmfUeNgapId2NasContext 1 0

/-- The UE asks for sessions 1 and 9. -/
theorem accept_reports_iff_two :
    OutcomeReported twoSessionsEnv ⟨some 0x0202, some 0x0202⟩
      (serviceRequestReply (requestingParams 0x0202) twoSessionsEnv 0 1 1 none securedState).2
      (serviceRequestReplyUlCount (requestingParams 0x0202) twoSessionsEnv 0 1 1 none 0 securedState).2
      (securityModeCompleteReply (requestingParams 0x0202) twoSessionsEnv 1 1 none securedState).2 := by
  have hconnected : ConnectedRun (requestingParams 0x0202) twoSessionsEnv ⟨some 0x0202, some 0x0202⟩ 0 1 1 none
      securedState := ⟨rfl, rfl, rfl, rfl⟩
  have hinitial : InitialRun (requestingParams 0x0202) twoSessionsEnv ⟨some 0x0202, some 0x0202⟩ 0 1 1 none
      securedState := ⟨rfl, fun _ _ => rfl, rfl, rfl⟩
  have hsecurityMode : SecurityModeRun (requestingParams 0x0202) twoSessionsEnv ⟨some 0x0202, some 0x0202⟩ 1 1 none
      securedState :=
    ⟨rfl, ⟨0, rfl, rfl, rfl⟩, ⟨_, _, _, rfl, fun _ _ => by simp [twoSessionsEnv]⟩, rfl⟩
  refine (accept_reports_iff (requestingParams 0x0202) twoSessionsEnv ⟨some 0x0202, some 0x0202⟩ 0 hconnected
    hinitial hsecurityMode).1.mpr ⟨?_, fun _ => ?_⟩
  · have hall : ∀ p : Fin 16, p ≠ 0 → hasPsi 0x0202 p = true → UInt8.ofNat p.val = 1 ∨ UInt8.ofNat p.val = 9 := by
      decide
    exact fun p hp hactive => decide_eq_true (hall p hp hactive)
  · exact ⟨1, by decide, (by decide : hasPsi 0x0202 1 = true)⟩

/-- The UE asks for session 5, which has no N2 SM information: on an existing connection it is not told. -/
theorem not_outcomeReported_connected :
    ¬ OutcomeReported twoSessionsEnv ⟨some 0x2000, some 0x2000⟩
      (serviceRequestReply (requestingParams 0x2000) twoSessionsEnv 0 1 1 none securedState).2
      (serviceRequestReplyUlCount (requestingParams 0x2000) twoSessionsEnv 0 1 1 none 0 securedState).2
      (securityModeCompleteReply (requestingParams 0x2000) twoSessionsEnv 1 1 none securedState).2 := by
  rintro ⟨⟨m, hm, hreports⟩, -⟩
  have hactive : hasPsi 0x2000 5 = true := by decide
  obtain rfl : DlNasMessage.serviceAccept (some 0) (some 0x2000) = m := Option.some.inj hm
  have hclear := ((hreports rfl).status 0x2000 rfl 0x2000 rfl 5 (by decide)).mpr (.inr ⟨hactive, rfl⟩)
  rw [hactive] at hclear
  cases hclear

end

end Oai5g.Amf
