import Oai5g.Amf.N2.Steps

/-!
# Refused handovers

* A refused Handover Required is never answered: the failure message has no cause to encode.
* `leavesUe_iff`: the UE is left as it was exactly when the checks before the NCC is raised refuse.
* `Encodes`: the Handover Requests that get out.
-/

namespace Oai5g.Amf

/-- The NCC of a Handover Request that has octets to send. -/
def N2Out.requestNcc : N2Out → Option UInt8
  | .sctp _ (.handoverRequest _ ncc _ _ _) octets => if octets = [] then none else some ncc
  | _ => none

/-- A Handover Preparation Failure that has octets to send. -/
def N2Out.isFailure : N2Out → Bool
  | .sctp _ (.handoverPreparationFailure _ _ _) octets => octets ≠ []
  | _ => false

/-- The request that a handover is being prepared. -/
def N2Out.isPreparing : N2Out → Bool
  | .smf .preparing _ _ _ => true
  | _ => false

section

variable (env : N2Env)

/-- What one event adds to the messages sent. -/
def sentBy (s : N2State) (e : N2Event) : List N2Out := (amfN2Task env s e).sent.drop s.sent.length

/-- The handling of a Handover Required ends without a Handover Request being sent. -/
def Refused (s : N2State) (assoc : SctpAssocId) (msg : HandoverRequired)
    (answers answers' : SmfAnswers) : Prop :=
  (sentBy env s (.handoverRequired assoc msg answers answers')).filterMap N2Out.requestNcc = []

/-- The UE is left as it was: its NGAP context is unchanged and no PDU session was told. -/
structure LeavesUe (s : N2State) (assoc : SctpAssocId) (msg : HandoverRequired)
    (answers answers' : SmfAnswers) : Prop where
  context : ∀ r, (amfN2Task env s (.handoverRequired assoc msg answers answers')).unc r = s.unc r
  sessions : (sentBy env s (.handoverRequired assoc msg answers answers')).filter N2Out.isPreparing = []

/-- One Handover Preparation Failure with the ids of the request goes to the requesting gNB. -/
def ReportsFailure (s : N2State) (assoc : SctpAssocId) (msg : HandoverRequired)
    (answers answers' : SmfAnswers) : Prop :=
  ∃ cause octets,
    (sentBy env s (.handoverRequired assoc msg answers answers')).filter N2Out.isFailure =
      [.sctp assoc (.handoverPreparationFailure msg.amfUeNgapId msg.ranUeNgapId cause) octets]

/-! ## One Handover Required -/

section

variable {s : N2State} {assoc : SctpAssocId} {msg : HandoverRequired} {answers answers' : SmfAnswers}

theorem sentBy_of_none (h : findHandoverUe s assoc msg = none) :
    sentBy env s (.handoverRequired assoc msg answers answers') = [failureOut assoc msg] := by
  simp only [sentBy, amfN2Task, dispatch_of_none env answers answers' h, N2State.sendAll,
    List.drop_left]

theorem sentBy_of_some {r : ℕ} (h : findHandoverUe s assoc msg = some r) :
    sentBy env s (.handoverRequired assoc msg answers answers') =
      preparingOut s msg ++ requestOut env s msg answers ((s.unc r).ncc + 1) ++
        (preparingOut s msg ++ requestOut env s msg answers' ((s.unc r).ncc + 2)) ++
        (if Prepares s msg then [] else [failureOut assoc msg]) := by
  simp only [sentBy, amfN2Task, dispatch_sent env answers answers' h, List.append_assoc,
    List.drop_left]

theorem preparingOut_isFailure : (preparingOut s msg).filter N2Out.isFailure = [] := by
  unfold preparingOut
  split
  · rfl
  · rw [List.filter_eq_nil_iff]
    intro o ho
    obtain ⟨id, -, rfl⟩ := List.mem_map.mp ho
    simp [N2Out.isFailure]

theorem preparingOut_requestNcc : (preparingOut s msg).filterMap N2Out.requestNcc = [] := by
  unfold preparingOut
  split
  · rfl
  · rw [List.filterMap_eq_nil_iff]
    intro o ho
    obtain ⟨id, -, rfl⟩ := List.mem_map.mp ho
    rfl

theorem requestOut_isFailure (ncc : UInt8) :
    (requestOut env s msg answers ncc).filter N2Out.isFailure = [] := by
  by_cases h : Prepares s msg
  · obtain ⟨gc, nh, list, ho⟩ := requestOut_of_prepares env answers h ncc
    rw [ho]
    rfl
  · rw [requestOut_of_not_prepares env answers h]
    rfl

theorem sentBy_isFailure :
    (sentBy env s (.handoverRequired assoc msg answers answers')).filter N2Out.isFailure = [] := by
  cases h : findHandoverUe s assoc msg with
  | none =>
    rw [sentBy_of_none env h]
    rfl
  | some r =>
    rw [sentBy_of_some env h]
    simp only [List.filter_append, preparingOut_isFailure, requestOut_isFailure, List.nil_append]
    split_ifs <;> rfl

theorem not_reportsFailure : ¬ ReportsFailure env s assoc msg answers answers' := by
  rintro ⟨cause, octets, h⟩
  rw [sentBy_isFailure] at h
  cases h

/-- **The UE is left as it was exactly when it is refused before its context is written.** -/
theorem leavesUe_iff :
    LeavesUe env s assoc msg answers answers' ↔ findHandoverUe s assoc msg = none := by
  constructor
  · intro h
    cases hf : findHandoverUe s assoc msg with
    | none => rfl
    | some r =>
      -- the NCC has moved by two
      obtain ⟨_, hu⟩ := dispatch_unc env answers answers' hf
      have hc := congrArg UeNgapContext.ncc ((h.context r).symm.trans hu)
      simp only at hc
      have : ((s.unc r).ncc + 2).toNat = (s.unc r).ncc.toNat := by rw [← hc]
      rw [UInt8.toNat_add] at this
      have := (s.unc r).ncc.toNat_lt
      have : (2 : UInt8).toNat = 2 := rfl
      omega
  · intro h
    refine ⟨fun r => ?_, ?_⟩
    · simp only [amfN2Task, dispatch_of_none env answers answers' h, N2State.sendAll_unc]
    · rw [sentBy_of_none env h]
      rfl

end

/-! ## Requests that get out -/

/-- The encoder takes the Handover Request with a given NCC. -/
def Encodes (s : N2State) (msg : HandoverRequired) (answers : SmfAnswers) (ncc : UInt8) : Prop :=
  (requestOut env s msg answers ncc).filterMap N2Out.requestNcc ≠ []

instance (s : N2State) (msg : HandoverRequired) (answers : SmfAnswers) (ncc : UInt8) :
    Decidable (Encodes env s msg answers ncc) := inferInstanceAs (Decidable (_ ≠ _))

section

variable {s : N2State} {msg : HandoverRequired} {answers : SmfAnswers} {ncc : UInt8}

theorem requestOut_requestNcc (h : Encodes env s msg answers ncc) :
    (requestOut env s msg answers ncc).filterMap N2Out.requestNcc = [ncc] ∧ ncc.toNat ≤ 7 := by
  unfold Encodes at h
  by_cases hp : Prepares s msg
  · obtain ⟨gc, nh, list, ho⟩ := requestOut_of_prepares env answers hp ncc
    rw [ho] at h ⊢
    by_cases hn : 7 < ncc.toNat
    · simp [N2Out.requestNcc, NgapMsg.encode, hn] at h
    · refine ⟨?_, by omega⟩
      by_cases ha : env.aper (.handoverRequest msg.amfUeNgapId ncc nh msg.sourceToTarget list) = []
      · simp [N2Out.requestNcc, NgapMsg.encode, ha] at h
      · simp [N2Out.requestNcc, NgapMsg.encode, hn, ha]
  · rw [requestOut_of_not_prepares env answers hp] at h
    simp at h

theorem prepares_of_encodes (h : Encodes env s msg answers ncc) : Prepares s msg := by
  by_contra hp
  unfold Encodes at h
  rw [requestOut_of_not_prepares env answers hp] at h
  simp at h

end

end

/-! ## A UE and two gNBs -/

/-- An encoder that writes one octet, and no key derivation. -/
def plainEnv : N2Env := { aper := fun _ => [0], deriveKnh := fun _ _ _ => [] }

/-- A connected UE with AMF UE NGAP ID 1 and RAN UE NGAP ID 7 at gNB 1; gNB 2 is there as well. The
context of the UE is behind pointer 0. -/
def twoGnbs (ncc : UInt8) : N2State :=
  let gnb : UInt32 → Option GnbContext := fun id =>
    if id = 1 ∨ id = 2 then some { gnbId := id, sctpAssocId := id } else none
  { assoc2gnb := gnb
    gnbid2gnb := gnb
    uncs :=
      { cell := fun _ =>
          { ranUeNgapId := 7, amfUeNgapId := 1, targetRanUeNgapId := 0, gnbAssocId := 1,
            targetGnbAssocId := 0, ngUeState := .connected, ncc := ncc, releaseCause := 0,
            releaseGnb := 0, pduSessionsToBeReleased := [] }
        next := 1 }
    amfueid2uecontext := fun id => if id = 1 then some 0 else none
    ranid2uecontext := fun key => if key = (7, 1) then some 0 else none
    nas :=
      { NasMaps.empty with
        ncs :=
          { cell := fun _ =>
              { NasContext.new with
                amfUeNgapId := 1, ranUeNgapId := 7, nasStatus := .connected,
                securityCtx := some NasSecuCtx.zero }
            next := 1 }
        amfueid2nasContext := fun id => if id = 1 then some 0 else none
        supi2amfId := fun _ => some 1 }
    ueContexts := fun key =>
      if key = (7, 1) then
        some { ranUeNgapId := 7, amfUeNgapId := 1, gnbId := 1, location := ⟨0, 0⟩ }
      else none
    pduSessions := fun _ => [{ pduSessionId := 5, isHoAccepted := false }]
    sent := [] }

/-- Handover Required for that UE and a target gNB. -/
def requireTarget (gnb : UInt32) : HandoverRequired :=
  { amfUeNgapId := 1, ranUeNgapId := 7, handoverType := .intra5gs, targetGnbId := gnb,
    sourceToTarget := [], pduSessions := [(5, [])] }

/-- **An unknown target gNB is refused, is not reported, and moves the NCC from 0 to 2.** -/
theorem unknownTarget_not_clean :
    Refused plainEnv (twoGnbs 0) 1 (requireTarget 9) (fun _ => none) (fun _ => none) ∧
      ¬ ReportsFailure plainEnv (twoGnbs 0) 1 (requireTarget 9) (fun _ => none) (fun _ => none) ∧
      ¬ LeavesUe plainEnv (twoGnbs 0) 1 (requireTarget 9) (fun _ => none) (fun _ => none) := by
  refine ⟨by unfold Refused; decide, not_reportsFailure _, fun h => ?_⟩
  have := (leavesUe_iff plainEnv).mp h
  revert this
  decide

end Oai5g.Amf
