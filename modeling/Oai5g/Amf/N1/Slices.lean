import Oai5g.Amf.N2.Setup

/-!
# The slices of a NAS context

* `initializeRegistrationAccept`, `getSliceSelectionSubscriptionData` with
  `getSliceSelectionSubscriptionDataFromConfFile`, and the choice of a slice in `ul_nas_transport_handle`: what
  they read and append of the slice lists of a NAS context.
* `run_allowed`, `run_subscribed`: after any updates each list is the first one and copies of what an update
  appends.
* **`noDrift_iff`**: when the lists do not drift, and what an accept answers.
-/

namespace Oai5g.Amf

open Numeral

/-! ## Data -/

/-- `oai::nas::RejectedSNssai` -/
structure RejectedSNssai where
  cause : UInt8
  sst : UInt8
  sd : Option UInt32
  deriving DecidableEq, Repr

/-- `oai::model::common::Snssai` -/
structure ModelSnssai where
  sst : ℤ
  sd : Str
  deriving DecidableEq, Repr

/-- `nas_context`, its slice lists. -/
structure NasSlices where
  requestedNssai : List SNSSAI
  allowedNssai : List SNSSAI
  subscribedSnssai : List (Bool × SNSSAI)
  deriving DecidableEq, Repr

/-- What does not change from one update to the next: whether `find_ue_context` finds the UE, the Supported TA
List of its gNB where `amf_n2` finds one, `enable_external_ausf_udm`, and the default S-NSSAIs that the UDM
answers with. -/
structure SliceEnv where
  ueContext : Bool
  supportedTaList : Option (List SupportedTaItem)
  enableExternalAusfUdm : Bool
  udm : Option (List ModelSnssai)
  deriving DecidableEq, Repr

/-- The slice lists of a Registration Accept. -/
structure AcceptedSlices where
  allowedNssai : Option (List SNSSAI)
  rejectedNssai : Option (List RejectedSNssai)
  configuredNssai : Option (List SNSSAI)
  deriving DecidableEq, Repr

/-! ## The source -/

/-- `RegistrationAccept::SetAllowedNssai` and its siblings set no empty list. -/
def setNssai {α : Type*} (nssai : List α) : Option (List α) := if nssai = [] then none else some nssai

/-- The S-NSSAI of the Allowed NSSAI. -/
def allowedSnssai (s : SNSSAI) : SNSSAI :=
  { sst := s.sst, sd := s.sd, length := if s.sd = SD_NO_VALUE then 1 else 4 }

/-- The S-NSSAI of the Rejected NSSAI. -/
def rejectedSnssai (rn : SNSSAI) : RejectedSNssai :=
  ⟨1, rn.sst, if rn.sd = SD_NO_VALUE then none else some rn.sd⟩

/-- Where nothing is requested, the subscribed S-NSSAIs stand in. -/
def NasSlices.requestedOrSubscribed (nc : NasSlices) : List SNSSAI :=
  if nc.requestedNssai = [] then nc.subscribedSnssai.map Prod.snd else nc.requestedNssai

/-- `amf_n1::initialize_registration_accept`: it returns before the lists where there is no UE context. -/
def initializeRegistrationAccept (env : SliceEnv) (nc : NasSlices) : AcceptedSlices × NasSlices :=
  if env.ueContext = false then (⟨none, none, none⟩, nc)
  else
    let commonNssais := (env.supportedTaList.map getCommonNssai).getD []
    let allowedNssais := commonNssais.map allowedSnssai
    let rejectedNssais := (nc.requestedOrSubscribed.filter fun rn =>
      !commonNssais.any fun s => rn.sst = s.sst ∧ rn.sd = s.sd).map rejectedSnssai
    (⟨setNssai allowedNssais, setNssai rejectedNssais, setNssai allowedNssais⟩,
      { nc with allowedNssai := nc.allowedNssai ++ allowedNssais })

/-- What is pushed for a subscribed S-NSSAI. -/
def subscribedSnssai (ds : ModelSnssai) : Bool × SNSSAI :=
  (true, { sst := UInt8.ofNat (ds.sst % 256).toNat, sd := (sdStringToInt ds.sd).2 })

/-- The loop of `get_slice_selection_subscription_data_from_conf_file` over the slices of all tracking areas, which
ends at an SST that is no number. -/
def confFileSnssais : List S_Nssai → Bool × List ModelSnssai
  | [] => (true, [])
  | s :: slices =>
    match stoi s.sst with
    | none => (false, [])
    | some sst =>
      let rest := confFileSnssais slices
      (rest.1, ⟨sst % 256, s.sd⟩ :: rest.2)

/-- `amf_n1::get_slice_selection_subscription_data_from_conf_file`: whether it succeeds, the default single
NSSAIs, and what is pushed to the context in any case. -/
def getSliceSelectionSubscriptionDataFromConfFile (env : SliceEnv) :
    Bool × List ModelSnssai × List (Bool × SNSSAI) :=
  if env.ueContext = false then (false, [], [])
  else
    match env.supportedTaList with
    | none => (false, [], [])
    | some supportedTaList =>
      let slices := supportedTaList.flatMap fun ta => ta.plmnSliceSupportList.flatMap fun p => p.sliceList
      let common := confFileSnssais slices
      (common.1, if common.1 then common.2 else [], common.2.map subscribedSnssai)

/-- `amf_n1::get_slice_selection_subscription_data`, with what it pushes. -/
def getSliceSelectionSubscriptionData (env : SliceEnv) : Bool × List ModelSnssai × List (Bool × SNSSAI) :=
  if env.enableExternalAusfUdm then
    if env.ueContext = false then (false, [], [])
    else
      match env.udm with
      | none => (false, [], [])
      | some defaultSnssais => (true, defaultSnssais, defaultSnssais.map subscribedSnssai)
  else getSliceSelectionSubscriptionDataFromConfFile env

/-- `amf_n1::reroute_registration_request`, what it does to the lists. -/
def rerouteRegistrationRequest (env : SliceEnv) (nc : NasSlices) : NasSlices :=
  { nc with subscribedSnssai := nc.subscribedSnssai ++ (getSliceSelectionSubscriptionData env).2.2 }

/-- `amf_n1::ul_nas_transport_handle`: the slice of a PDU session that names none; `none` where the request is
dropped. -/
def choosePduSessionSnssai (env : SliceEnv) (nc : NasSlices) : Option SNSSAI :=
  match nc.allowedNssai with
  | snssai :: _ => some snssai
  | [] =>
    match nc.subscribedSnssai.find? Prod.fst with
    | some sn => some sn.2
    | none =>
      if env.ueContext = false then none
      else
        match (env.supportedTaList.map getCommonNssai).getD [] with
        | s :: _ => some (allowedSnssai s)
        | [] => some { sst := 1, sd := SD_NO_VALUE, length := 1 }

/-! ## Updates -/

/-- The two functions that a registration update runs: the first update all of them, a mobility or periodic
update only the second. -/
inductive SliceUpdate
  | reroute
  | accept
  deriving DecidableEq, Repr

/-- One update of the slices of a context. -/
def sliceStep (env : SliceEnv) (nc : NasSlices) : SliceUpdate → NasSlices
  | .reroute => rerouteRegistrationRequest env nc
  | .accept => (initializeRegistrationAccept env nc).2

/-- The slice that is meant. -/
def SNSSAI.value (s : SNSSAI) : Slice := ⟨s.sst, s.sd⟩

/-- The slice that is meant. -/
def RejectedSNssai.value (r : RejectedSNssai) : Slice := ⟨r.sst, r.sd.getD SD_NO_VALUE⟩

/-- The slices of an optional list. -/
def slicesOf {α : Type*} (value : α → Slice) (nssai : Option (List α)) : List Slice :=
  (nssai.getD []).map value

/-- **An accept splits what was requested**: no slice is allowed and rejected, and each requested one is either. -/
structure SplitsRequested (nc : NasSlices) (a : AcceptedSlices) : Prop where
  disjoint : ∀ x ∈ slicesOf SNSSAI.value a.allowedNssai, x ∉ slicesOf RejectedSNssai.value a.rejectedNssai
  cover : ∀ s ∈ nc.requestedNssai,
    s.value ∈ slicesOf SNSSAI.value a.allowedNssai ∨ s.value ∈ slicesOf RejectedSNssai.value a.rejectedNssai

/-- **The lists of a context do not drift** over a sequence of updates: each is as after its first update and has
each slice once, and each accept splits what was requested. -/
structure NoDrift (env : SliceEnv) (nc : NasSlices) (us : List SliceUpdate) : Prop where
  allowed : .accept ∈ us →
    (run (sliceStep env) nc us).allowedNssai = (sliceStep env nc .accept).allowedNssai
  subscribed : .reroute ∈ us →
    (run (sliceStep env) nc us).subscribedSnssai = (sliceStep env nc .reroute).subscribedSnssai
  allowedOnce : .accept ∈ us → ((run (sliceStep env) nc us).allowedNssai.map SNSSAI.value).Nodup
  subscribedOnce : .reroute ∈ us →
    ((run (sliceStep env) nc us).subscribedSnssai.map fun sn => sn.2.value).Nodup
  splits : ∀ vs ws, us = vs ++ .accept :: ws →
    SplitsRequested nc (initializeRegistrationAccept env (run (sliceStep env) nc vs)).1

/-! ## What an update appends -/

variable {env : SliceEnv} {nc : NasSlices} {us : List SliceUpdate}

/-- What an accept appends to the allowed S-NSSAIs. -/
def acceptAppends (env : SliceEnv) : List SNSSAI :=
  if env.ueContext then ((env.supportedTaList.map getCommonNssai).getD []).map allowedSnssai else []

/-- What the check before an accept appends to the subscribed S-NSSAIs. -/
def rerouteAppends (env : SliceEnv) : List (Bool × SNSSAI) := (getSliceSelectionSubscriptionData env).2.2

theorem sliceStep_accept (env : SliceEnv) (nc : NasSlices) :
    sliceStep env nc .accept = { nc with allowedNssai := nc.allowedNssai ++ acceptAppends env } := by
  cases h : env.ueContext <;> simp [sliceStep, initializeRegistrationAccept, acceptAppends, h]

theorem sliceStep_reroute (env : SliceEnv) (nc : NasSlices) :
    sliceStep env nc .reroute = { nc with subscribedSnssai := nc.subscribedSnssai ++ rerouteAppends env } := rfl

theorem run_requested (env : SliceEnv) (nc : NasSlices) (us : List SliceUpdate) :
    (run (sliceStep env) nc us).requestedNssai = nc.requestedNssai := by
  induction us generalizing nc with
  | nil => rfl
  | cons u us ih =>
    rw [run_cons, ih]
    cases u with
    | reroute => rfl
    | accept => rw [sliceStep_accept]

/-- **Each accept appends the same S-NSSAIs again.** -/
theorem run_allowed (env : SliceEnv) (nc : NasSlices) (us : List SliceUpdate) :
    (run (sliceStep env) nc us).allowedNssai =
      nc.allowedNssai ++ (List.replicate (us.count .accept) (acceptAppends env)).flatten := by
  induction us generalizing nc with
  | nil => simp
  | cons u us ih =>
    rw [run_cons, ih]
    cases u with
    | reroute => simp [sliceStep_reroute]
    | accept => simp [sliceStep_accept, List.replicate_succ]

theorem run_subscribed (env : SliceEnv) (nc : NasSlices) (us : List SliceUpdate) :
    (run (sliceStep env) nc us).subscribedSnssai =
      nc.subscribedSnssai ++ (List.replicate (us.count .reroute) (rerouteAppends env)).flatten := by
  induction us generalizing nc with
  | nil => simp
  | cons u us ih =>
    rw [run_cons, ih]
    cases u with
    | reroute => simp [sliceStep_reroute, List.replicate_succ]
    | accept => simp [sliceStep_accept]

/-- Copies of a list behind another are one copy exactly when there is one, or nothing to copy. -/
theorem append_copies_eq_iff {α : Type*} (l c : List α) {n : ℕ} (hn : 0 < n) :
    l ++ (List.replicate n c).flatten = l ++ c ↔ c = [] ∨ n = 1 := by
  rw [List.append_cancel_left_eq]
  constructor
  · intro h
    have hlength := congrArg List.length h
    rw [List.length_flatten, List.map_replicate, List.sum_replicate, smul_eq_mul] at hlength
    rcases Nat.eq_zero_or_pos c.length with hc | hc
    · exact .inl (List.eq_nil_of_length_eq_zero hc)
    · exact .inr (Nat.eq_of_mul_eq_mul_right hc (by rw [hlength, one_mul]))
  · rintro (rfl | rfl)
    · simp
    · simp

/-! ## The answers -/

theorem slicesOf_setNssai {α : Type*} (value : α → Slice) (l : List α) :
    slicesOf value (setNssai l) = l.map value := by
  by_cases h : l = [] <;> simp [slicesOf, setNssai, h]

theorem value_rejectedSnssai (s : SNSSAI) : (rejectedSnssai s).value = s.value := by
  by_cases h : s.sd = SD_NO_VALUE <;> simp [rejectedSnssai, RejectedSNssai.value, SNSSAI.value, h]

theorem not_any_iff {common : List SNSSAI} {rn : SNSSAI} :
    (!common.any fun s => rn.sst = s.sst ∧ rn.sd = s.sd) = true ↔ ¬ ∃ s ∈ common, s.value = rn.value := by
  have hiff : (∃ s ∈ common, rn.sst = s.sst ∧ rn.sd = s.sd) ↔ ∃ s ∈ common, s.value = rn.value :=
    exists_congr fun s => and_congr_right fun _ => by
      simp only [SNSSAI.value, Slice.mk.injEq]
      exact and_congr eq_comm eq_comm
  rw [Bool.not_eq_true', List.any_eq_false, ← hiff]
  simp

theorem mem_allowed_iff {common : List SNSSAI} {x : Slice} :
    x ∈ slicesOf SNSSAI.value (setNssai (common.map allowedSnssai)) ↔ ∃ s ∈ common, s.value = x := by
  rw [slicesOf_setNssai, List.map_map]
  exact List.mem_map

theorem mem_rejected_iff {common requested : List SNSSAI} {x : Slice} :
    x ∈ slicesOf RejectedSNssai.value (setNssai ((requested.filter
      fun rn => !common.any fun s => rn.sst = s.sst ∧ rn.sd = s.sd).map rejectedSnssai)) ↔
      (∃ rn ∈ requested, rn.value = x) ∧ ¬ ∃ s ∈ common, s.value = x := by
  rw [slicesOf_setNssai, List.map_map, List.mem_map]
  simp only [List.mem_filter, Function.comp_apply, value_rejectedSnssai, not_any_iff]
  constructor
  · rintro ⟨rn, ⟨hrn, hno⟩, rfl⟩
    exact ⟨⟨rn, hrn, rfl⟩, hno⟩
  · rintro ⟨⟨rn, hrn, rfl⟩, hno⟩
    exact ⟨rn, ⟨hrn, hno⟩, rfl⟩

/-- **An accept splits what was requested** exactly when there is a UE context or nothing requested. -/
theorem splitsRequested_iff {nc' : NasSlices} (hreq : nc'.requestedNssai = nc.requestedNssai) :
    SplitsRequested nc (initializeRegistrationAccept env nc').1 ↔
      env.ueContext = true ∨ nc.requestedNssai = [] := by
  by_cases hue : env.ueContext = false
  · have hnone : (initializeRegistrationAccept env nc').1 = ⟨none, none, none⟩ := by
      rw [initializeRegistrationAccept, if_pos hue]
    rw [hnone]
    constructor
    · intro h
      refine .inr (List.eq_nil_iff_forall_not_mem.mpr fun s hs => ?_)
      rcases h.cover s hs with h | h <;> exact absurd h List.not_mem_nil
    · rintro (h | h)
      · exact absurd hue (by rw [h]; decide)
      · exact ⟨fun x hx => absurd hx List.not_mem_nil, fun s hs => by rw [h] at hs; exact absurd hs List.not_mem_nil⟩
  · refine iff_of_true ?_ (.inl (by simpa using hue))
    rw [initializeRegistrationAccept, if_neg hue]
    generalize (env.supportedTaList.map getCommonNssai).getD [] = common
    constructor
    · intro x hx hno
      exact (mem_rejected_iff.mp hno).2 (mem_allowed_iff.mp hx)
    · intro s hs
      by_cases h : ∃ s' ∈ common, s'.value = s.value
      · exact .inl (mem_allowed_iff.mpr h)
      · refine .inr (mem_rejected_iff.mpr ⟨⟨s, ?_, rfl⟩, h⟩)
        rw [NasSlices.requestedOrSubscribed, hreq, if_neg (List.ne_nil_of_mem hs)]
        exact hs

/-! ## When the lists do not drift -/

/-- **What a sequence of updates has to meet**: at most one accept, or nothing to append, and the list stays
without duplicates; the same for the check; and a UE context for an accept, where slices are requested. -/
structure DriftMet (env : SliceEnv) (nc : NasSlices) (us : List SliceUpdate) : Prop where
  accepts : .accept ∈ us → acceptAppends env = [] ∨ us.count .accept = 1
  acceptOnce : .accept ∈ us → ((nc.allowedNssai ++ acceptAppends env).map SNSSAI.value).Nodup
  reroutes : .reroute ∈ us → rerouteAppends env = [] ∨ us.count .reroute = 1
  rerouteOnce : .reroute ∈ us →
    ((nc.subscribedSnssai ++ rerouteAppends env).map fun sn => sn.2.value).Nodup
  ueContext : .accept ∈ us → env.ueContext = true ∨ nc.requestedNssai = []

theorem allowed_eq_iff (nc : NasSlices) (hus : .accept ∈ us) :
    (run (sliceStep env) nc us).allowedNssai = (sliceStep env nc .accept).allowedNssai ↔
      acceptAppends env = [] ∨ us.count .accept = 1 := by
  rw [run_allowed, sliceStep_accept]
  exact append_copies_eq_iff _ _ (List.count_pos_iff.mpr hus)

theorem subscribed_eq_iff (nc : NasSlices) (hus : .reroute ∈ us) :
    (run (sliceStep env) nc us).subscribedSnssai = (sliceStep env nc .reroute).subscribedSnssai ↔
      rerouteAppends env = [] ∨ us.count .reroute = 1 := by
  rw [run_subscribed, sliceStep_reroute]
  exact append_copies_eq_iff _ _ (List.count_pos_iff.mpr hus)

/-- The slice of a PDU session that names none stays the same over updates, once slices are allowed. -/
theorem choosePduSessionSnssai_run (h : nc.allowedNssai ≠ []) (us : List SliceUpdate) :
    choosePduSessionSnssai env (run (sliceStep env) nc us) = choosePduSessionSnssai env nc := by
  obtain ⟨s, rest, hs⟩ := List.exists_cons_of_ne_nil h
  have hrun : (run (sliceStep env) nc us).allowedNssai =
      s :: (rest ++ (List.replicate (us.count .accept) (acceptAppends env)).flatten) := by
    rw [run_allowed, hs, List.cons_append]
  simp only [choosePduSessionSnssai, hrun, hs]

/-- **The lists of a NAS context do not drift** exactly when nothing is appended twice; in any case an allowed
slice at the head stays the one that PDU sessions get. -/
theorem noDrift_iff (env : SliceEnv) (nc : NasSlices) (us : List SliceUpdate) :
    (NoDrift env nc us ↔ DriftMet env nc us) ∧ (nc.allowedNssai ≠ [] →
      choosePduSessionSnssai env (run (sliceStep env) nc us) = choosePduSessionSnssai env nc) := by
  refine ⟨?_, fun h => choosePduSessionSnssai_run h us⟩
  constructor
  · intro h
    refine ⟨fun hus => (allowed_eq_iff nc hus).mp (h.allowed hus), fun hus => ?_,
      fun hus => (subscribed_eq_iff nc hus).mp (h.subscribed hus), fun hus => ?_, fun hus => ?_⟩
    · have honce := h.allowedOnce hus
      rwa [h.allowed hus, sliceStep_accept] at honce
    · have honce := h.subscribedOnce hus
      rwa [h.subscribed hus, sliceStep_reroute] at honce
    · obtain ⟨vs, ws, hvs⟩ := List.append_of_mem hus
      exact (splitsRequested_iff (run_requested env nc vs)).mp (h.splits vs ws hvs)
  · intro h
    have hallowed (hus : .accept ∈ us) := (allowed_eq_iff nc hus).mpr (h.accepts hus)
    have hsubscribed (hus : .reroute ∈ us) := (subscribed_eq_iff nc hus).mpr (h.reroutes hus)
    refine ⟨hallowed, hsubscribed, fun hus => ?_, fun hus => ?_, fun vs ws hus => ?_⟩
    · rw [hallowed hus, sliceStep_accept]
      exact h.acceptOnce hus
    · rw [hsubscribed hus, sliceStep_reroute]
      exact h.rerouteOnce hus
    · refine (splitsRequested_iff (run_requested env nc vs)).mpr (h.ueContext ?_)
      rw [hus]
      exact List.mem_append_right _ List.mem_cons_self

/-- A gNB with one slice in common. -/
def oneSlice : SliceEnv :=
  ⟨true, some [⟨1, [⟨"208".toList, "95".toList, [⟨"1".toList, "16777215".toList⟩]⟩]⟩], false, none⟩

/-- Two updates make the slice stand twice. -/
theorem not_noDrift : ¬ ∀ (env : SliceEnv) (nc : NasSlices) (us : List SliceUpdate), NoDrift env nc us := by
  intro h
  have hallowed := (h oneSlice ⟨[], [], []⟩ [.accept, .accept]).allowed (by decide)
  revert hallowed
  decide

end Oai5g.Amf
