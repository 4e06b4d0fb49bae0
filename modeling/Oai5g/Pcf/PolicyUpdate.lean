import Oai5g.Lib.Numeral

/-!
# Policy updates of the PCF

* `handlePlmnChange`, `handleAccessTypeChange`, `handleIpAddressChange`, `handleRatTypeChange`, `redecide`
  of `policy_decision`, and `updateSmPolicyHandler`.
* `writes`, `MeetsTrigger`: what a trigger copies from an update, and when it succeeds;
  `handle_spec`, `redecide_spec`.
* `UpdateAtomic`: a refused update changes nothing, and the order of the triggers does not matter.
* **`updateAtomic_iff`**: exactly when.
-/

namespace Oai5g.Pcf

/-! ## Data -/

/-- `sm_policy::status_code` -/
inductive StatusCode
  | created
  | userUnknown
  | invalidParameters
  | contextDenied
  | notFound
  | ok
  deriving DecidableEq

/-- `ePolicyControlRequestTrigger_anyOf` -/
inductive PolicyControlRequestTrigger
  | invalidValueOpenapiGenerated
  | PLMN_CH | RES_MO_RE | AC_TY_CH | UE_IP_CH | UE_MAC_CH | AN_CH_COR | US_RE | APP_STA | APP_STO | AN_INFO
  | CM_SES_FAIL | PS_DA_OFF | DEF_QOS_CH | SE_AMBR_CH | QOS_NOTIF | NO_CREDIT | REALLO_OF_CREDIT | PRA_CH
  | SAREA_CH | SCNN_CH | RE_TIMEOUT | RES_RELEASE | SUCC_RES_ALLO | RAT_TY_CH | REF_QOS_IND_CH
  | NUM_OF_PACKET_FILTER | UE_STATUS_RESUME | UE_TZ_CH | AUTH_PROF_CH | QOS_MONITORING | SCELL_CH
  | EPS_FALLBACK | MA_PDU | TSN_BRIDGE_INFO | _5G_RG_JOIN | _5G_RG_LEAVE | DDN_FAILURE | DDN_DELIVERY_STATUS
  | GROUP_ID_LIST_CHG | DDN_FAILURE_CANCELLATION | DDN_DELIVERY_STATUS_CANCELLATION | VPLMN_QOS_CH
  deriving DecidableEq

/-- The attributes of the context that an update can change. -/
inductive ContextAttribute
  | servingNetwork
  | accessType
  | ratType
  | addAccessInfo
  | ipv4Address
  | ipv6AddressPrefix
  deriving DecidableEq

/-- `SmPolicyContextData`: the attributes that are set, as JSON texts. -/
abbrev SmPolicyContextData : Type := ContextAttribute → Option Str

/-- `SmPolicyUpdateContextData` -/
structure SmPolicyUpdateContextData where
  repPolicyCtrlReqTriggers : Option (List PolicyControlRequestTrigger)
  attributes : SmPolicyContextData
  relIpv4AddressIsSet : Bool
  relIpv6AddressPrefixIsSet : Bool
  addIpv6AddrPrefixesIsSet : Bool

/-- `individual_sm_association` -/
structure IndividualSmAssociation where
  context : SmPolicyContextData
  decision : Str

/-- The status with the context and the problem details. -/
structure Handled where
  status : StatusCode
  context : SmPolicyContextData
  problemDetails : Str

/-! ## Handlers -/

/-- The attribute is set to the value of the update, if that has one. -/
def copy (update : SmPolicyUpdateContextData) (context : SmPolicyContextData) (a : ContextAttribute) :
    SmPolicyContextData :=
  if (update.attributes a).isSome then Function.update context a (update.attributes a) else context

section

variable (update : SmPolicyUpdateContextData) (context : SmPolicyContextData) (problemDetails : Str)

/-- `handle_plmn_change` -/
def handlePlmnChange : Handled :=
  if (update.attributes .servingNetwork).isSome then
    ⟨.ok, copy update context .servingNetwork, problemDetails⟩
  else ⟨.invalidParameters, context, "Serving Network is not set".toList⟩

/-- `handle_access_type_change` -/
def handleAccessTypeChange : Handled :=
  if (update.attributes .accessType).isSome then ⟨.ok, copy update context .accessType, problemDetails⟩
  else if (update.attributes .addAccessInfo).isSome then
    ⟨.invalidParameters, context, "ATSSS not supported".toList⟩
  else ⟨.invalidParameters, context, problemDetails⟩

/-- `handle_ip_address_change` -/
def handleIpAddressChange : Handled :=
  let context := copy update context .ipv4Address
  let context := copy update context .ipv6AddressPrefix
  let unsupported := update.addIpv6AddrPrefixesIsSet || update.relIpv6AddressPrefixIsSet
  let code := if unsupported then .invalidParameters
    else if (update.attributes .ipv4Address).isSome || (update.attributes .ipv6AddressPrefix).isSome ||
      (update.relIpv4AddressIsSet || update.relIpv6AddressPrefixIsSet) then .ok
    else .invalidParameters
  let det := "IPv4 or IPv6 address needs to be specified".toList
  ⟨code, context, if code = .ok then []
    else if unsupported then "Multiple IPv6 addresses not supported".toList ++ " | ".toList ++ det
    else det⟩

/-- The access type alone is not enough. -/
def handleRatTypeChange : Handled :=
  let context := copy update context .ratType
  let context := copy update context .accessType
  let context := copy update context .addAccessInfo
  if (update.attributes .ratType).isSome || (update.attributes .addAccessInfo).isSome then
    ⟨.ok, context, problemDetails⟩
  else ⟨.invalidParameters, context, "RAT type or additional access information needs to be set".toList⟩

/-- One turn of the loop of `redecide`; what is not supported is logged. -/
def handle : PolicyControlRequestTrigger → Handled
  | .PLMN_CH => handlePlmnChange update context problemDetails
  | .AC_TY_CH => handleAccessTypeChange update context problemDetails
  | .UE_IP_CH => handleIpAddressChange update context
  | .RAT_TY_CH => handleRatTypeChange update context problemDetails
  | _ => ⟨.ok, context, problemDetails⟩

/-- The loop of `redecide`, which stops at the first error. -/
def redecideLoop : List PolicyControlRequestTrigger → Handled → Handled
  | [], h => h
  | t :: ts, h =>
    if h.status ≠ .ok then h else redecideLoop ts (handle update h.context h.problemDetails t)

/-- `policy_decision::redecide`; the decision stays as it is. -/
def redecide : Handled :=
  redecideLoop update (update.repPolicyCtrlReqTriggers.getD []) ⟨.ok, context, problemDetails⟩

end

/-- `pcf_smpc::update_sm_policy_handler`: the status, the associations, the problem details and the decision
that is given back, if there is one. -/
def updateSmPolicyHandler (associations : Str → Option IndividualSmAssociation) (id : Str)
    (update : SmPolicyUpdateContextData) (problemDetails : Str) :
    StatusCode × (Str → Option IndividualSmAssociation) × Str × Option Str :=
  match associations id with
  | none =>
    (.notFound, associations,
      "Could not update policy association: ID ".toList ++ id ++ " not found".toList, none)
  | some association =>
    let h := redecide update association.context problemDetails
    (h.status, Function.update associations id (some { association with context := h.context }),
      h.problemDetails, some association.decision)

/-! ## The property -/

/-- **A refused update changes nothing**, and an accepted one does the same for every order of its triggers. -/
structure UpdateAtomic (associations : Str → Option IndividualSmAssociation) (id : Str)
    (update : SmPolicyUpdateContextData) (problemDetails : Str) : Prop where
  refused : (updateSmPolicyHandler associations id update problemDetails).1 ≠ .ok →
    (updateSmPolicyHandler associations id update problemDetails).2.1 = associations
  order : (updateSmPolicyHandler associations id update problemDetails).1 = .ok →
    ∀ ts, ts.Perm (update.repPolicyCtrlReqTriggers.getD []) →
      let reordered := { update with repPolicyCtrlReqTriggers := some ts }
      (updateSmPolicyHandler associations id reordered problemDetails).1 = .ok ∧
        (updateSmPolicyHandler associations id reordered problemDetails).2.1 =
          (updateSmPolicyHandler associations id update problemDetails).2.1

/-- The attributes that a trigger copies. -/
def writes : PolicyControlRequestTrigger → List ContextAttribute
  | .PLMN_CH => [.servingNetwork]
  | .AC_TY_CH => [.accessType]
  | .UE_IP_CH => [.ipv4Address, .ipv6AddressPrefix]
  | .RAT_TY_CH => [.ratType, .accessType, .addAccessInfo]
  | _ => []

/-- The update has what the trigger asks for. -/
def MeetsTrigger (update : SmPolicyUpdateContextData) : PolicyControlRequestTrigger → Prop
  | .PLMN_CH => (update.attributes .servingNetwork).isSome = true
  | .AC_TY_CH => (update.attributes .accessType).isSome = true
  | .UE_IP_CH => update.addIpv6AddrPrefixesIsSet = false ∧ update.relIpv6AddressPrefixIsSet = false ∧
      ((update.attributes .ipv4Address).isSome = true ∨ (update.attributes .ipv6AddressPrefix).isSome = true ∨
        update.relIpv4AddressIsSet = true)
  | .RAT_TY_CH => (update.attributes .ratType).isSome = true ∨ (update.attributes .addAccessInfo).isSome = true
  | _ => True

instance (update : SmPolicyUpdateContextData) : ∀ t, Decidable (MeetsTrigger update t) := fun t => by
  unfold MeetsTrigger
  split <;> infer_instance

/-- The triggers up to the first that is not met, with that one. -/
def tried (update : SmPolicyUpdateContextData) : List PolicyControlRequestTrigger →
    List PolicyControlRequestTrigger
  | [] => []
  | t :: ts => if MeetsTrigger update t then t :: tried update ts else [t]

/-- The trigger would set its attributes to the values they have. -/
def SetsNothingNew (update : SmPolicyUpdateContextData) (context : SmPolicyContextData)
    (t : PolicyControlRequestTrigger) : Prop :=
  ∀ a ∈ writes t, (update.attributes a).isSome = true → context a = update.attributes a

/-- **The condition**: every trigger is met, or what is tried sets nothing new. -/
def AllOrNothing (update : SmPolicyUpdateContextData) (context : SmPolicyContextData) : Prop :=
  (∀ t ∈ update.repPolicyCtrlReqTriggers.getD [], MeetsTrigger update t) ∨
    ∀ t ∈ tried update (update.repPolicyCtrlReqTriggers.getD []), SetsNothingNew update context t

/-! ## Copies -/

section

variable {update : SmPolicyUpdateContextData} {context : SmPolicyContextData} {problemDetails : Str}

/-- The attributes copied one after the other. -/
def copies (update : SmPolicyUpdateContextData) (context : SmPolicyContextData)
    (as : List ContextAttribute) : SmPolicyContextData := as.foldl (copy update) context

theorem copy_apply (a b : ContextAttribute) : copy update context a b =
    if b = a ∧ (update.attributes b).isSome = true then update.attributes b else context b := by
  unfold copy
  by_cases ha : (update.attributes a).isSome = true
  · rw [if_pos ha]
    by_cases hb : b = a
    · subst hb
      rw [Function.update_self, if_pos ⟨rfl, ha⟩]
    · rw [Function.update_of_ne hb, if_neg fun h => hb h.1]
  · rw [if_neg ha]
    by_cases hb : b = a
    · subst hb
      rw [if_neg fun h => ha h.2]
    · rw [if_neg fun h => hb h.1]

/-- **The order of copies does not matter.** -/
theorem copies_apply (as : List ContextAttribute) (b : ContextAttribute) : copies update context as b =
    if b ∈ as ∧ (update.attributes b).isSome = true then update.attributes b else context b := by
  induction as generalizing context with
  | nil => simp [copies]
  | cons a as ih =>
    show copies update (copy update context a) as b = _
    rw [ih, copy_apply]
    simp only [List.mem_cons]
    by_cases hset : (update.attributes b).isSome = true
    · by_cases hb : b ∈ as
      · rw [if_pos ⟨hb, hset⟩, if_pos ⟨.inr hb, hset⟩]
      · rw [if_neg fun h => hb h.1]
        by_cases hba : b = a
        · rw [if_pos ⟨hba, hset⟩, if_pos ⟨.inl hba, hset⟩]
        · rw [if_neg fun h => hba h.1, if_neg fun h => h.1.elim hba hb]
    · rw [if_neg fun h => hset h.2, if_neg fun h => hset h.2, if_neg fun h => hset h.2]

theorem copies_append (as bs : List ContextAttribute) :
    copies update context (as ++ bs) = copies update (copies update context as) bs := List.foldl_append

theorem copies_eq_self_iff (as : List ContextAttribute) : copies update context as = context ↔
    ∀ a ∈ as, (update.attributes a).isSome = true → context a = update.attributes a := by
  rw [funext_iff]
  constructor
  · intro h a ha hset
    have := h a
    rw [copies_apply, if_pos ⟨ha, hset⟩] at this
    exact this.symm
  · intro h a
    rw [copies_apply]
    by_cases ha : a ∈ as ∧ (update.attributes a).isSome = true
    · rw [if_pos ha, h a ha.1 ha.2]
    · rw [if_neg ha]

theorem copy_of_not_isSome {a : ContextAttribute} (h : ¬ (update.attributes a).isSome = true) :
    copy update context a = context := if_neg h

/-! ## One trigger -/

/-- **A handler** succeeds when its trigger is met, and copies its attributes in any case. -/
theorem handle_spec (update : SmPolicyUpdateContextData) (context : SmPolicyContextData) (problemDetails : Str)
    (t : PolicyControlRequestTrigger) :
    ((handle update context problemDetails t).status = .ok ↔ MeetsTrigger update t) ∧
      (handle update context problemDetails t).context = copies update context (writes t) := by
  cases t with
  | PLMN_CH =>
    show ((handlePlmnChange update context problemDetails).status = .ok ↔ _) ∧
      (handlePlmnChange update context problemDetails).context = copy update context _
    unfold handlePlmnChange
    by_cases h : (update.attributes .servingNetwork).isSome = true
    · rw [if_pos h]
      exact ⟨iff_of_true rfl h, rfl⟩
    · rw [if_neg h, copy_of_not_isSome h]
      exact ⟨iff_of_false nofun h, rfl⟩
  | AC_TY_CH =>
    show ((handleAccessTypeChange update context problemDetails).status = .ok ↔ _) ∧
      (handleAccessTypeChange update context problemDetails).context = copy update context _
    unfold handleAccessTypeChange
    by_cases h : (update.attributes .accessType).isSome = true
    · rw [if_pos h]
      exact ⟨iff_of_true rfl h, rfl⟩
    · rw [if_neg h, copy_of_not_isSome h]
      refine ⟨iff_of_false ?_ h, ?_⟩
      · split <;> nofun
      · split <;> rfl
  | UE_IP_CH =>
    refine ⟨?_, rfl⟩
    simp only [handle, handleIpAddressChange, MeetsTrigger]
    cases (update.attributes .ipv4Address).isSome <;> cases (update.attributes .ipv6AddressPrefix).isSome <;>
      cases update.relIpv4AddressIsSet <;> cases update.relIpv6AddressPrefixIsSet <;>
        cases update.addIpv6AddrPrefixesIsSet <;> simp
  | RAT_TY_CH =>
    show ((handleRatTypeChange update context problemDetails).status = .ok ↔ _) ∧
      (handleRatTypeChange update context problemDetails).context =
        copy update (copy update (copy update context _) _) _
    unfold handleRatTypeChange
    dsimp only
    by_cases h : ((update.attributes .ratType).isSome || (update.attributes .addAccessInfo).isSome) = true
    · rw [if_pos h]
      exact ⟨iff_of_true rfl (Bool.or_eq_true_iff.mp h), rfl⟩
    · rw [if_neg h]
      exact ⟨iff_of_false nofun fun hor => h (Bool.or_eq_true_iff.mpr hor), rfl⟩
  | _ => exact ⟨iff_of_true rfl trivial, rfl⟩

/-! ## The loop -/

theorem redecideLoop_of_ne_ok {h : Handled} (hne : h.status ≠ .ok) (ts : List PolicyControlRequestTrigger) :
    redecideLoop update ts h = h := by
  cases ts with
  | nil => rfl
  | cons t ts => exact if_pos hne

/-- **The loop** succeeds when every trigger is met, and copies what is tried. -/
theorem redecideLoop_spec (update : SmPolicyUpdateContextData) (ts : List PolicyControlRequestTrigger)
    (context : SmPolicyContextData) (problemDetails : Str) :
    ((redecideLoop update ts ⟨.ok, context, problemDetails⟩).status = .ok ↔
        ∀ t ∈ ts, MeetsTrigger update t) ∧
      (redecideLoop update ts ⟨.ok, context, problemDetails⟩).context =
        copies update context ((tried update ts).flatMap writes) := by
  induction ts generalizing context problemDetails with
  | nil => exact ⟨iff_of_true rfl nofun, rfl⟩
  | cons t ts ih =>
    have hstep : redecideLoop update (t :: ts) ⟨.ok, context, problemDetails⟩ =
        redecideLoop update ts (handle update context problemDetails t) := if_neg (not_not.mpr rfl)
    obtain ⟨hstatus, hcontext⟩ := handle_spec update context problemDetails t
    rw [hstep, tried, List.forall_mem_cons]
    by_cases ht : MeetsTrigger update t
    · rw [if_pos ht, List.flatMap_cons, copies_append, ← hcontext]
      have hh : handle update context problemDetails t = ⟨.ok, (handle update context problemDetails t).context,
          (handle update context problemDetails t).problemDetails⟩ := by
        rw [← hstatus.mpr ht]
      obtain ⟨ih1, ih2⟩ := ih (handle update context problemDetails t).context
        (handle update context problemDetails t).problemDetails
      rw [hh]
      exact ⟨ih1.trans (and_iff_right ht).symm, ih2⟩
    · have hne : (handle update context problemDetails t).status ≠ .ok := fun h => ht (hstatus.mp h)
      rw [redecideLoop_of_ne_ok hne, if_neg ht, hcontext]
      exact ⟨iff_of_false hne fun h => ht h.1, by rw [List.flatMap_singleton]⟩

theorem tried_eq_self {ts : List PolicyControlRequestTrigger} (h : ∀ t ∈ ts, MeetsTrigger update t) :
    tried update ts = ts := by
  induction ts with
  | nil => rfl
  | cons t ts ih =>
    rw [tried, if_pos (h t List.mem_cons_self), ih fun x hx => h x (List.mem_cons_of_mem _ hx)]

theorem copies_perm {ts ts' : List PolicyControlRequestTrigger} (h : ts.Perm ts') :
    copies update context (ts.flatMap writes) = copies update context (ts'.flatMap writes) := by
  funext b
  rw [copies_apply, copies_apply]
  exact if_congr (and_congr_left' (h.flatMap_right writes).mem_iff) rfl rfl

end

/-! ## The exact condition -/

/-- **What the handler does** without an association, and with one. -/
theorem updateSmPolicyHandler_none {associations : Str → Option IndividualSmAssociation} {id : Str}
    (hid : associations id = none) (update : SmPolicyUpdateContextData) (problemDetails : Str) :
    updateSmPolicyHandler associations id update problemDetails = (.notFound, associations,
      "Could not update policy association: ID ".toList ++ id ++ " not found".toList, none) := by
  rw [updateSmPolicyHandler, hid]

theorem updateSmPolicyHandler_some {associations : Str → Option IndividualSmAssociation} {id : Str}
    {association : IndividualSmAssociation} (hid : associations id = some association)
    (update : SmPolicyUpdateContextData) (problemDetails : Str) :
    updateSmPolicyHandler associations id update problemDetails =
      ((redecide update association.context problemDetails).status,
        Function.update associations id (some { association with
          context := (redecide update association.context problemDetails).context }),
        (redecide update association.context problemDetails).problemDetails, some association.decision) := by
  rw [updateSmPolicyHandler, hid]

/-- The redecision leaves the context alone exactly when what is tried sets nothing new. -/
theorem redecide_context_eq_self_iff (update : SmPolicyUpdateContextData) (context : SmPolicyContextData)
    (problemDetails : Str) :
    (redecide update context problemDetails).context = context ↔
      ∀ t ∈ tried update (update.repPolicyCtrlReqTriggers.getD []), SetsNothingNew update context t := by
  have hcontext := (redecideLoop_spec update (update.repPolicyCtrlReqTriggers.getD []) context problemDetails).2
  rw [show (redecide update context problemDetails).context = _ from hcontext, copies_eq_self_iff]
  constructor
  · exact fun h t ht a ha => h a (List.mem_flatMap.mpr ⟨t, ht, ha⟩)
  · intro h a ha
    obtain ⟨t, ht, ha⟩ := List.mem_flatMap.mp ha
    exact h t ht a ha

theorem update_context_eq_self_iff {associations : Str → Option IndividualSmAssociation} {id : Str}
    {association : IndividualSmAssociation} (hid : associations id = some association)
    (context : SmPolicyContextData) :
    Function.update associations id (some { association with context := context }) = associations ↔
      context = association.context := by
  rw [Function.update_eq_self_iff, hid, Option.some_inj]
  constructor
  · exact fun h => congrArg IndividualSmAssociation.context h
  · intro h
    rw [h]

/-- **An accepted update in another order** of its triggers is accepted, too, and leaves the same context. -/
theorem redecide_perm {update : SmPolicyUpdateContextData} {ts : List PolicyControlRequestTrigger}
    (hperm : ts.Perm (update.repPolicyCtrlReqTriggers.getD [])) (context : SmPolicyContextData)
    (problemDetails : Str) (hok : (redecide update context problemDetails).status = .ok) :
    (redecide { update with repPolicyCtrlReqTriggers := some ts } context problemDetails).status = .ok ∧
      (redecide { update with repPolicyCtrlReqTriggers := some ts } context problemDetails).context =
        (redecide update context problemDetails).context := by
  obtain ⟨hstatus, hcontext⟩ :=
    redecideLoop_spec update (update.repPolicyCtrlReqTriggers.getD []) context problemDetails
  obtain ⟨hstatus', hcontext'⟩ :=
    redecideLoop_spec { update with repPolicyCtrlReqTriggers := some ts } ts context problemDetails
  have hall := hstatus.mp hok
  have hall' : ∀ t ∈ ts, MeetsTrigger { update with repPolicyCtrlReqTriggers := some ts } t :=
    fun t ht => hall t (hperm.mem_iff.mp ht)
  refine ⟨hstatus'.mpr hall', hcontext'.trans (Eq.trans ?_ hcontext.symm)⟩
  rw [tried_eq_self hall', tried_eq_self hall]
  exact copies_perm hperm

/-- **A policy update** leaves the association unchanged when it is refused, whatever the order of the triggers,
exactly when every trigger is met or what is tried sets nothing new. -/
theorem updateAtomic_iff (associations : Str → Option IndividualSmAssociation) (id : Str)
    (update : SmPolicyUpdateContextData) (problemDetails : Str) :
    UpdateAtomic associations id update problemDetails ↔
      ∀ association, associations id = some association → AllOrNothing update association.context := by
  cases hid : associations id with
  | none =>
    refine iff_of_true ⟨fun _ => by rw [updateSmPolicyHandler_none hid], fun h => ?_⟩ nofun
    rw [updateSmPolicyHandler_none hid] at h
    cases h
  | some association =>
    have hstatus := (redecideLoop_spec update (update.repPolicyCtrlReqTriggers.getD []) association.context
      problemDetails).1
    have hsame := (update_context_eq_self_iff hid
      (redecide update association.context problemDetails).context).trans
      (redecide_context_eq_self_iff update association.context problemDetails)
    constructor
    · rintro ⟨hrefused, -⟩ x hx
      cases hx
      rw [updateSmPolicyHandler_some hid] at hrefused
      by_cases hok : ∀ t ∈ update.repPolicyCtrlReqTriggers.getD [], MeetsTrigger update t
      · exact .inl hok
      · exact .inr (hsame.mp (hrefused fun h => hok (hstatus.mp h)))
    · intro h
      refine ⟨fun hne => ?_, fun hok ts hperm => ?_⟩
      · rw [updateSmPolicyHandler_some hid] at hne ⊢
        exact hsame.mpr ((h association rfl).resolve_left fun hall => hne (hstatus.mpr hall))
      · dsimp only
        rw [updateSmPolicyHandler_some hid] at hok ⊢
        rw [updateSmPolicyHandler_some hid]
        obtain ⟨hok', hcontext⟩ := redecide_perm hperm association.context problemDetails hok
        exact ⟨hok', by rw [hcontext]⟩

/-- A change of the PLMN that has its serving network, and a change of the access type without an access
type. -/
def halfUpdate : SmPolicyUpdateContextData :=
  ⟨some [.PLMN_CH, .AC_TY_CH], fun a => if a = .servingNetwork then some "208 95".toList else none, false, false,
    false⟩

/-- The serving network is changed, and the update refused. -/
theorem not_updateAtomic : ¬ ∀ (associations : Str → Option IndividualSmAssociation) (id : Str)
    (update : SmPolicyUpdateContextData) (problemDetails : Str),
    UpdateAtomic associations id update problemDetails := by
  intro h
  have hrefused := (h (fun _ => some ⟨fun _ => none, []⟩) [] halfUpdate []).refused (by decide)
  have hcontext := congrArg (fun m => (m []).map fun x => x.context .servingNetwork) hrefused
  revert hcontext
  decide

end Oai5g.Pcf
