import Mathlib.Tactic

/-!
# Slice selection of the NSSF

* `compareSnssai`, `getValidAmf`, `getValidAmfset`, `validateRnssaiInPlmn`, `validateTa`,
  `handleSliceInfoForRegistration`: the selection for a registration.
* `Selects`: what an answer has to say, for a reading of when two S-NSSAIs are the same.
* **`handleSliceInfoForRegistration_selects_iff`**: the handler meets it for a request without subscribed
  S-NSSAIs, and for one that is subscribed as a whole and that the candidates serve; a mixed request is never
  answered in full.
-/

namespace Oai5g.Nssf

/-! ## Data -/

/-- `Snssai`; an SD that is not set reads as the empty string. -/
structure Snssai where
  sst : ℤ
  sd : Option String
deriving DecidableEq, Repr

/-- `getSd`: the empty text where there is none. -/
def Snssai.getSd (s : Snssai) : String := s.sd.getD ""

/-- `ExtSnssai`, without the SD ranges, which selection does not read. -/
structure ExtSnssai where
  sst : ℤ
  sd : Option String
deriving DecidableEq, Repr

/-- The S-NSSAI of an extended one. -/
def ExtSnssai.toSnssai (e : ExtSnssai) : Snssai := ⟨e.sst, e.sd⟩

/-- MCC and MNC. -/
structure PlmnId where
  mcc : String
  mnc : String
deriving DecidableEq, Repr

/-- A tracking area. -/
structure Tai where
  plmnId : PlmnId
  tac : String
deriving DecidableEq, Repr

/-- The S-NSSAIs of one tracking area. -/
structure SupportedNssaiAvailabilityData where
  supportedSnssaiList : List ExtSnssai
deriving DecidableEq, Repr

/-- `amf_info_t` -/
structure AmfInfo where
  targetAmfSet : String
  nrfAmfSet : String
  nrfAmfSetMgt : String
  amfList : List (String × List SupportedNssaiAvailabilityData)
deriving DecidableEq, Repr

/-- What selection reads of `nssf_config`. -/
structure NssfConfig where
  amfInfoList : List AmfInfo
  taInfoList : List Tai
deriving DecidableEq, Repr

/-- What a registration asks for. -/
structure SliceInfoForRegistration where
  requestMappingIsSet : Bool
  mappingOfNssaiIsSet : Bool
  requestedNssai : Option (List Snssai)
  subscribedNssai : Option (List Snssai)
deriving DecidableEq, Repr

namespace SliceInfoForRegistration

/-- `getRequestedNssai` -/
def getRequestedNssai (info : SliceInfoForRegistration) : List Snssai := info.requestedNssai.getD []

/-- `getSubscribedNssai` -/
def getSubscribedNssai (info : SliceInfoForRegistration) : List Snssai := info.subscribedNssai.getD []

end SliceInfoForRegistration

/-- `AccessType` -/
inductive AccessType
  | threeGppAccess
  | nonThreeGppAccess
deriving DecidableEq, Repr

/-- What is allowed over an access. -/
structure AllowedNssai where
  accessType : AccessType
  allowedSnssaiList : List Snssai
deriving DecidableEq, Repr

/-- The answer to a registration. -/
structure AuthorizedNetworkSliceInfo where
  allowedNssaiList : Option (List AllowedNssai)
  rejectedNssaiInPlmn : Option (List Snssai)
  candidateAmfList : Option (List String)
  targetAmfSet : Option String
  nrfAmfSet : Option String
  nrfAmfSetNfMgtUri : Option String
deriving DecidableEq, Repr

namespace AuthorizedNetworkSliceInfo

/-- Nothing is set. -/
def empty : AuthorizedNetworkSliceInfo := ⟨none, none, none, none, none, none⟩

/-- The S-NSSAIs of the Allowed NSSAI, of every access type. -/
def allowed (auth : AuthorizedNetworkSliceInfo) : List Snssai :=
  (auth.allowedNssaiList.getD []).flatMap (·.allowedSnssaiList)

/-- The rejected S-NSSAIs. -/
def rejected (auth : AuthorizedNetworkSliceInfo) : List Snssai := auth.rejectedNssaiInPlmn.getD []

/-- The candidate AMFs. -/
def candidates (auth : AuthorizedNetworkSliceInfo) : List String := auth.candidateAmfList.getD []

end AuthorizedNetworkSliceInfo

/-- The largest standardised SST. -/
def sstMaxStandardizedValue : ℤ := 127

/-! ## The source -/

/-- `compare_snssai` -/
def compareSnssai (a b : Snssai) : Bool :=
  if a.sst = b.sst then
    if (a.sd.isSome || b.sd.isSome) && a.sst ≥ sstMaxStandardizedValue then a.getSd = b.getSd else true
  else false

/-- `set_allowed_nssai` -/
def setAllowedNssai (nssai : List Snssai) (auth : AuthorizedNetworkSliceInfo) : AuthorizedNetworkSliceInfo :=
  { auth with allowedNssaiList := some [⟨.threeGppAccess, nssai.map fun s => ⟨s.sst, s.sd⟩⟩] }

/-- `get_valid_amf` -/
def getValidAmf (eSnssaiList : List ExtSnssai) (rNssai : List Snssai) : Bool :=
  (rNssai.filter fun r => !eSnssaiList.any fun e => compareSnssai r e.toSnssai).isEmpty

/-- The AMFs of a set that the inner loops of `get_valid_amfset` collect. -/
def candidateAmfs (amfSet : AmfInfo) (reqNssai : List Snssai) : List String :=
  (amfSet.amfList.filter fun amf => amf.2.any fun ext => getValidAmf ext.supportedSnssaiList reqNssai).map (·.1)

/-- `get_valid_amfset` -/
def getValidAmfset : List AmfInfo → List Snssai → AuthorizedNetworkSliceInfo → Bool × AuthorizedNetworkSliceInfo
  | [], _, auth => (false, auth)
  | amfSet :: amfSets, reqNssai, auth =>
    if candidateAmfs amfSet reqNssai ≠ [] then
      (true, { auth with
        candidateAmfList := some (candidateAmfs amfSet reqNssai)
        targetAmfSet := some amfSet.targetAmfSet
        nrfAmfSet := some amfSet.nrfAmfSet
        nrfAmfSetNfMgtUri := some amfSet.nrfAmfSetMgt })
    else getValidAmfset amfSets reqNssai auth

/-- `validate_rnssai_in_ta` -/
def validateRnssaiInTa (_ : SliceInfoForRegistration) (auth : AuthorizedNetworkSliceInfo) :
    Bool × AuthorizedNetworkSliceInfo := (true, auth)

/-- `snssai_matched` -/
def snssaiMatched (info : SliceInfoForRegistration) (r : Snssai) : Bool :=
  info.getSubscribedNssai.any fun s => compareSnssai r s

/-- `validate_rnssai_in_plmn` -/
def validateRnssaiInPlmn (info : SliceInfoForRegistration) (auth : AuthorizedNetworkSliceInfo) :
    Bool × AuthorizedNetworkSliceInfo :=
  let rejectedSnssai := info.getRequestedNssai.filter fun r => !snssaiMatched info r
  let matchedSnssai := info.getRequestedNssai.filter fun r => snssaiMatched info r
  if rejectedSnssai.length = info.getRequestedNssai.length then
    (false, { auth with rejectedNssaiInPlmn := some info.getRequestedNssai })
  else (true, setAllowedNssai matchedSnssai auth)

/-- `validate_ta` -/
def validateTa (cfg : NssfConfig) (tai : Tai) : Bool :=
  cfg.taInfoList.any fun t => tai.plmnId.mcc = t.plmnId.mcc && tai.plmnId.mnc = t.plmnId.mnc && tai.tac = t.tac

/-- The result of a handler, with the variables of its caller that it has written. -/
structure Answer where
  ok : Bool
  httpCode : ℕ
  auth : AuthorizedNetworkSliceInfo
deriving DecidableEq, Repr

/-- `handle_slice_info_for_registration` -/
def handleSliceInfoForRegistration (cfg : NssfConfig) (info : SliceInfoForRegistration) (tai : Tai)
    (homePlmnid : PlmnId) (httpCode : ℕ) (auth : AuthorizedNetworkSliceInfo) : Answer :=
  if info.requestMappingIsSet then ⟨false, 503, auth⟩
  else if info.mappingOfNssaiIsSet then ⟨false, 503, auth⟩
  else if homePlmnid.mcc ≠ "" then ⟨false, 503, auth⟩
  -- an unknown TAI leaves the code as it is
  else if tai.tac ≠ "" && !validateTa cfg tai then ⟨false, httpCode, auth⟩
  else if info.requestedNssai.isSome then
    if info.subscribedNssai.isSome then
      let (validInPlmn, auth) := validateRnssaiInPlmn info auth
      if !validInPlmn then ⟨false, 403, auth⟩
      else
        let (validInTa, auth) := validateRnssaiInTa info auth
        if !validInTa then ⟨false, 403, auth⟩
        else
          -- the requested S-NSSAIs, not the matched ones
          let (valid, auth) := getValidAmfset cfg.amfInfoList info.getRequestedNssai auth
          if !valid then ⟨false, 403, auth⟩ else ⟨true, 200, auth⟩
    else ⟨true, httpCode, auth⟩
  else ⟨true, httpCode, auth⟩

/-! ## What an answer has to say -/

/-- An AMF supports S-NSSAIs if its availability data list each of them. -/
def Supports (same : Snssai → Snssai → Bool) (data : List SupportedNssaiAvailabilityData) (nssai : List Snssai) :
    Prop :=
  ∀ a ∈ nssai, ∃ ext ∈ data, ∃ e ∈ ext.supportedSnssaiList, same a e.toSnssai

/-- In a set of that name, an AMF of that name supports the S-NSSAIs. -/
def Serves (same : Snssai → Snssai → Bool) (cfg : NssfConfig) (target : Option String) (nfId : String)
    (nssai : List Snssai) : Prop :=
  ∃ amfSet ∈ cfg.amfInfoList, target = some amfSet.targetAmfSet ∧
    ∃ amf ∈ amfSet.amfList, amf.1 = nfId ∧ Supports same amf.2 nssai

/-- The UE is subscribed to it. -/
def subscribed (same : Snssai → Snssai → Bool) (info : SliceInfoForRegistration) (r : Snssai) : Bool :=
  info.getSubscribedNssai.any fun s => same r s

/-- Sound and complete selection. -/
structure Selects (same : Snssai → Snssai → Bool) (cfg : NssfConfig) (info : SliceInfoForRegistration)
    (answer : Answer) : Prop where
  allowed : answer.httpCode = 200 → answer.auth.allowed = info.getRequestedNssai.filter (subscribed same info ·)
  rejected : answer.httpCode = 200 →
    answer.auth.rejected = info.getRequestedNssai.filter (!subscribed same info ·)
  candidates : answer.httpCode = 200 → ∀ nfId ∈ answer.auth.candidates,
    Serves same cfg answer.auth.targetAmfSet nfId answer.auth.allowed
  complete : (∃ r ∈ info.getRequestedNssai, subscribed same info r) →
    (∃ amfSet ∈ cfg.amfInfoList, ∃ amf ∈ amfSet.amfList,
      Supports same amf.2 (info.getRequestedNssai.filter (subscribed same info ·))) → answer.httpCode = 200
  refused : answer.httpCode ≠ 200 → 400 ≤ answer.httpCode ∧ answer.auth.allowed = [] ∧ answer.auth.candidates = []

/-- Neither mapping nor roaming nor an unknown TAI, and both lists are there. -/
structure Plain (cfg : NssfConfig) (info : SliceInfoForRegistration) (tai : Tai) (homePlmnid : PlmnId) : Prop where
  noRequestMapping : info.requestMappingIsSet = false
  noMappingOfNssai : info.mappingOfNssaiIsSet = false
  noRoaming : homePlmnid.mcc = ""
  knownTai : tai.tac = "" ∨ validateTa cfg tai = true
  requestedIsSet : info.requestedNssai.isSome
  subscribedIsSet : info.subscribedNssai.isSome

/-! ## The loops -/

theorem getValidAmf_iff {eSnssaiList : List ExtSnssai} {rNssai : List Snssai} :
    getValidAmf eSnssaiList rNssai = true ↔
      ∀ r ∈ rNssai, ∃ e ∈ eSnssaiList, compareSnssai r e.toSnssai = true := by
  simp [getValidAmf, List.filter_eq_nil_iff]

theorem mem_candidateAmfs {amfSet : AmfInfo} {reqNssai : List Snssai} {nfId : String} :
    nfId ∈ candidateAmfs amfSet reqNssai ↔ ∃ amf ∈ amfSet.amfList, amf.1 = nfId ∧
      ∃ ext ∈ amf.2, getValidAmf ext.supportedSnssaiList reqNssai = true := by
  simp only [candidateAmfs, List.mem_map, List.mem_filter, List.any_eq_true]
  constructor
  · rintro ⟨amf, ⟨hamf, hext⟩, rfl⟩
    exact ⟨amf, hamf, rfl, hext⟩
  · rintro ⟨amf, hamf, rfl, hext⟩
    exact ⟨amf, ⟨hamf, hext⟩, rfl⟩

/-- The first AMF set with a candidate. -/
def targetSet (cfg : NssfConfig) (reqNssai : List Snssai) : Option AmfInfo :=
  cfg.amfInfoList.find? fun amfSet => candidateAmfs amfSet reqNssai ≠ []

/-- What `get_valid_amfset` writes for that set. -/
def setTarget (auth : AuthorizedNetworkSliceInfo) (reqNssai : List Snssai) (amfSet : AmfInfo) :
    AuthorizedNetworkSliceInfo :=
  { auth with
    candidateAmfList := some (candidateAmfs amfSet reqNssai)
    targetAmfSet := some amfSet.targetAmfSet
    nrfAmfSet := some amfSet.nrfAmfSet
    nrfAmfSetNfMgtUri := some amfSet.nrfAmfSetMgt }

theorem getValidAmfset_eq (amfSets : List AmfInfo) (reqNssai : List Snssai) (auth : AuthorizedNetworkSliceInfo) :
    getValidAmfset amfSets reqNssai auth =
      match amfSets.find? fun amfSet => candidateAmfs amfSet reqNssai ≠ [] with
      | none => (false, auth)
      | some amfSet => (true, setTarget auth reqNssai amfSet) := by
  induction amfSets with
  | nil => rfl
  | cons amfSet amfSets ih =>
    by_cases h : candidateAmfs amfSet reqNssai = []
    · simp [getValidAmfset, h, ih]
    · simp [getValidAmfset, h, setTarget]

theorem validateRnssaiInPlmn_eq (info : SliceInfoForRegistration) (auth : AuthorizedNetworkSliceInfo) :
    validateRnssaiInPlmn info auth =
      if ∀ r ∈ info.getRequestedNssai, snssaiMatched info r = false then
        (false, { auth with rejectedNssaiInPlmn := some info.getRequestedNssai })
      else (true, setAllowedNssai (info.getRequestedNssai.filter fun r => snssaiMatched info r) auth) := by
  simp [validateRnssaiInPlmn, List.length_filter_eq_length_iff]

/-! ## The handler, by cases -/

section Cases

variable {cfg : NssfConfig} {info : SliceInfoForRegistration} {tai : Tai} {homePlmnid : PlmnId}

theorem Plain.handle_eq (h : Plain cfg info tai homePlmnid) (httpCode : ℕ) (auth : AuthorizedNetworkSliceInfo) :
    handleSliceInfoForRegistration cfg info tai homePlmnid httpCode auth =
      if ∀ r ∈ info.getRequestedNssai, snssaiMatched info r = false then
        ⟨false, 403, { auth with rejectedNssaiInPlmn := some info.getRequestedNssai }⟩
      else
        let auth := setAllowedNssai (info.getRequestedNssai.filter fun r => snssaiMatched info r) auth
        match targetSet cfg info.getRequestedNssai with
        | none => ⟨false, 403, auth⟩
        | some amfSet => ⟨true, 200, setTarget auth info.getRequestedNssai amfSet⟩ := by
  have htai : (tai.tac ≠ "" && !validateTa cfg tai) = false := by
    rcases h.knownTai with ht | ht <;> simp [ht]
  simp only [handleSliceInfoForRegistration, h.noRequestMapping, h.noMappingOfNssai, h.noRoaming, htai, h.requestedIsSet,
    h.subscribedIsSet, validateRnssaiInPlmn_eq, validateRnssaiInTa, getValidAmfset_eq, targetSet]
  by_cases hm : ∀ r ∈ info.getRequestedNssai, snssaiMatched info r = false
  · simp only [if_pos hm]
    simp
  · simp only [if_neg hm]
    cases cfg.amfInfoList.find? fun amfSet => candidateAmfs amfSet info.getRequestedNssai ≠ [] <;> simp

@[simp]
theorem allowed_setAllowedNssai (nssai : List Snssai) (auth : AuthorizedNetworkSliceInfo) :
    (setAllowedNssai nssai auth).allowed = nssai := by
  simp [setAllowedNssai, AuthorizedNetworkSliceInfo.allowed]

@[simp]
theorem allowed_setTarget (auth : AuthorizedNetworkSliceInfo) (reqNssai : List Snssai) (amfSet : AmfInfo) :
    (setTarget auth reqNssai amfSet).allowed = auth.allowed := rfl

@[simp]
theorem rejected_setTarget_empty (nssai reqNssai : List Snssai) (amfSet : AmfInfo) :
    (setTarget (setAllowedNssai nssai .empty) reqNssai amfSet).rejected = [] := rfl

@[simp]
theorem candidates_setTarget (auth : AuthorizedNetworkSliceInfo) (reqNssai : List Snssai) (amfSet : AmfInfo) :
    (setTarget auth reqNssai amfSet).candidates = candidateAmfs amfSet reqNssai := rfl

section Same

/-! `same` is the reading of equal S-NSSAIs; it is at least as fine as the comparison of the code. -/

variable {same : Snssai → Snssai → Bool}

theorem matched_of_subscribed (hsame : ∀ a b, same a b → compareSnssai a b = true) {r : Snssai}
    (h : subscribed same info r = true) : snssaiMatched info r = true := by
  obtain ⟨s, hs, hrs⟩ := List.any_eq_true.mp h
  exact List.any_eq_true.mpr ⟨s, hs, hsame r s hrs⟩

/-- A request without a subscribed S-NSSAI is refused and leaves nothing behind. -/
theorem Plain.selects_of_none (h : Plain cfg info tai homePlmnid)
    (hsame : ∀ a b, same a b → compareSnssai a b = true) (httpCode : ℕ)
    (hnone : ∀ r ∈ info.getRequestedNssai, snssaiMatched info r = false) :
    Selects same cfg info (handleSliceInfoForRegistration cfg info tai homePlmnid httpCode .empty) := by
  rw [h.handle_eq, if_pos hnone]
  refine ⟨by simp, by simp, by simp, ?_, fun _ => ⟨by simp, rfl, rfl⟩⟩
  rintro ⟨r, hr, hsub⟩
  exact absurd (matched_of_subscribed hsame hsub) (by simp [hnone r hr])

theorem Plain.not_selects_of_no_target (h : Plain cfg info tai homePlmnid) (httpCode : ℕ)
    (hsome : ¬ ∀ r ∈ info.getRequestedNssai, snssaiMatched info r = false)
    (htarget : targetSet cfg info.getRequestedNssai = none) :
    ¬ Selects same cfg info (handleSliceInfoForRegistration cfg info tai homePlmnid httpCode .empty) := by
  intro hsel
  rw [h.handle_eq, if_neg hsome, htarget] at hsel
  have hallowed := (hsel.refused (by simp)).2.1
  simp only [allowed_setAllowedNssai, List.filter_eq_nil_iff, Bool.not_eq_true] at hallowed
  exact hsome hallowed

/-- An answer 200 is right if nothing was to be rejected and the candidates serve the request. -/
theorem Plain.selects_iff_of_target (h : Plain cfg info tai homePlmnid)
    (hsame : ∀ a b, same a b → compareSnssai a b = true) (httpCode : ℕ)
    (hsome : ¬ ∀ r ∈ info.getRequestedNssai, snssaiMatched info r = false) {amfSet : AmfInfo}
    (htarget : targetSet cfg info.getRequestedNssai = some amfSet) :
    Selects same cfg info (handleSliceInfoForRegistration cfg info tai homePlmnid httpCode .empty) ↔
      (∀ r ∈ info.getRequestedNssai, subscribed same info r = true) ∧
        ∀ nfId ∈ candidateAmfs amfSet info.getRequestedNssai,
          Serves same cfg (some amfSet.targetAmfSet) nfId info.getRequestedNssai := by
  rw [h.handle_eq, if_neg hsome, htarget]
  constructor
  · intro hsel
    -- the rejected list is empty
    have hall : ∀ r ∈ info.getRequestedNssai, subscribed same info r = true := by
      have hrejected := hsel.rejected rfl
      rw [rejected_setTarget_empty, eq_comm, List.filter_eq_nil_iff] at hrejected
      simpa using hrejected
    have hallowed := hsel.allowed rfl
    rw [List.filter_eq_self.mpr hall] at hallowed
    have hserves := hsel.candidates rfl
    rw [hallowed] at hserves
    exact ⟨hall, hserves⟩
  · rintro ⟨hall, hserves⟩
    have hfilter : info.getRequestedNssai.filter (subscribed same info ·) = info.getRequestedNssai :=
      List.filter_eq_self.mpr hall
    have hmatched : info.getRequestedNssai.filter (fun r => snssaiMatched info r) = info.getRequestedNssai :=
      List.filter_eq_self.mpr fun r hr => matched_of_subscribed hsame (hall r hr)
    refine ⟨fun _ => ?_, fun _ => ?_, fun _ => ?_, fun _ _ => rfl, fun hcode => absurd rfl hcode⟩
    · rw [hfilter]
      simpa using hmatched
    · have hnone : ∀ r ∈ info.getRequestedNssai, ¬ (!subscribed same info r) = true := by
        simpa using hall
      rw [List.filter_eq_nil_iff.mpr hnone, rejected_setTarget_empty]
    · rw [hmatched]
      change ∀ nfId ∈ _, Serves same cfg _ nfId (setAllowedNssai info.getRequestedNssai .empty).allowed
      rw [allowed_setAllowedNssai]
      exact hserves

end Same

theorem targetSet_eq_none_iff {reqNssai : List Snssai} :
    targetSet cfg reqNssai = none ↔ ∀ amfSet ∈ cfg.amfInfoList, candidateAmfs amfSet reqNssai = [] := by
  simp [targetSet]

/-- A candidate supports the request, if equal S-NSSAIs are those that the code compares as equal. -/
theorem serves_of_mem_candidateAmfs {reqNssai : List Snssai} {amfSet : AmfInfo}
    (htarget : targetSet cfg reqNssai = some amfSet) {nfId : String} (hnf : nfId ∈ candidateAmfs amfSet reqNssai) :
    Serves compareSnssai cfg (some amfSet.targetAmfSet) nfId reqNssai := by
  obtain ⟨amf, hamf, hid, ext, hext, hvalid⟩ := mem_candidateAmfs.mp hnf
  refine ⟨amfSet, List.mem_of_find?_eq_some htarget, rfl, amf, hamf, hid, fun r hr => ?_⟩
  obtain ⟨e, he, hre⟩ := getValidAmf_iff.mp hvalid r hr
  exact ⟨ext, hext, e, he, hre⟩

/-- Some configured AMF lists all the S-NSSAIs for one of its tracking areas. -/
def ValidAmf (cfg : NssfConfig) (reqNssai : List Snssai) : Prop :=
  ∃ amfSet ∈ cfg.amfInfoList, ∃ amf ∈ amfSet.amfList, ∃ ext ∈ amf.2,
    getValidAmf ext.supportedSnssaiList reqNssai = true

theorem exists_targetSet_iff {reqNssai : List Snssai} :
    (∃ amfSet, targetSet cfg reqNssai = some amfSet) ↔ ValidAmf cfg reqNssai := by
  rw [← Option.ne_none_iff_exists', Ne, targetSet_eq_none_iff]
  simp only [List.eq_nil_iff_forall_not_mem, mem_candidateAmfs, ValidAmf]
  push Not
  constructor
  · rintro ⟨amfSet, hset, _, amf, hamf, _, ext, hext, hvalid⟩
    exact ⟨amfSet, hset, amf, hamf, ext, hext, hvalid⟩
  · rintro ⟨amfSet, hset, amf, hamf, ext, hext, hvalid⟩
    exact ⟨amfSet, hset, amf.1, amf, hamf, rfl, ext, hext, hvalid⟩

theorem Plain.selects_iff_cases (h : Plain cfg info tai homePlmnid) {same : Snssai → Snssai → Bool}
    (hsame : ∀ a b, same a b → compareSnssai a b = true) (httpCode : ℕ) :
    Selects same cfg info (handleSliceInfoForRegistration cfg info tai homePlmnid httpCode .empty) ↔
      (∀ r ∈ info.getRequestedNssai, snssaiMatched info r = false) ∨
        (∀ r ∈ info.getRequestedNssai, subscribed same info r = true) ∧
          ∃ amfSet, targetSet cfg info.getRequestedNssai = some amfSet ∧
            ∀ nfId ∈ candidateAmfs amfSet info.getRequestedNssai,
              Serves same cfg (some amfSet.targetAmfSet) nfId info.getRequestedNssai := by
  by_cases hnone : ∀ r ∈ info.getRequestedNssai, snssaiMatched info r = false
  · exact iff_of_true (h.selects_of_none hsame httpCode hnone) (.inl hnone)
  cases htarget : targetSet cfg info.getRequestedNssai with
  | none => simpa [hnone] using h.not_selects_of_no_target httpCode hnone htarget
  | some amfSet => simpa [hnone] using h.selects_iff_of_target hsame httpCode hnone htarget

theorem compareSnssai_self (a : Snssai) : compareSnssai a a = true := by
  simp [compareSnssai]

/-- Both readings: S-NSSAIs that the code compares as equal, and S-NSSAIs with the same SST and SD. -/
theorem handleSliceInfoForRegistration_selects_iff (h : Plain cfg info tai homePlmnid) (httpCode : ℕ) :
    (Selects compareSnssai cfg info (handleSliceInfoForRegistration cfg info tai homePlmnid httpCode .empty) ↔
      (∀ r ∈ info.getRequestedNssai, snssaiMatched info r = false) ∨
        (∀ r ∈ info.getRequestedNssai, snssaiMatched info r = true) ∧ ValidAmf cfg info.getRequestedNssai) ∧
    (Selects (fun a b => a = b) cfg info
        (handleSliceInfoForRegistration cfg info tai homePlmnid httpCode .empty) ↔
      (∀ r ∈ info.getRequestedNssai, snssaiMatched info r = false) ∨
        (∀ r ∈ info.getRequestedNssai, r ∈ info.getSubscribedNssai) ∧
          ∃ amfSet, targetSet cfg info.getRequestedNssai = some amfSet ∧
            ∀ nfId ∈ candidateAmfs amfSet info.getRequestedNssai,
              Serves (fun a b => a = b) cfg (some amfSet.targetAmfSet) nfId info.getRequestedNssai) := by
  constructor
  · rw [h.selects_iff_cases (fun _ _ hab => hab), ← exists_targetSet_iff]
    refine or_congr Iff.rfl (and_congr Iff.rfl ?_)
    constructor
    · rintro ⟨amfSet, htarget, _⟩
      exact ⟨amfSet, htarget⟩
    · rintro ⟨amfSet, htarget⟩
      exact ⟨amfSet, htarget, fun nfId hnf => serves_of_mem_candidateAmfs htarget hnf⟩
  · have hsame : ∀ a b : Snssai, decide (a = b) = true → compareSnssai a b = true := by
      intro a b hab
      rw [of_decide_eq_true hab]
      exact compareSnssai_self b
    simpa [subscribed] using h.selects_iff_cases hsame httpCode

end Cases

/-- One AMF set with one AMF, for two slices. -/
def oneAmf : NssfConfig where
  amfInfoList := [⟨"1-1-1", "nrf", "nrf/nf", [("amf", [⟨[⟨1, none⟩, ⟨222, some "00007B"⟩]⟩])]⟩]
  taInfoList := [⟨⟨"208", "95"⟩, "000001"⟩]

/-- Both slices are requested, the first is subscribed. -/
def mixedInfo : SliceInfoForRegistration where
  requestMappingIsSet := false
  mappingOfNssaiIsSet := false
  requestedNssai := some [⟨1, some "FFFFFF"⟩, ⟨222, some "00007B"⟩]
  subscribedNssai := some [⟨1, some "FFFFFF"⟩]

/-- A request for two slices of the configuration. -/
def wholeInfo : SliceInfoForRegistration where
  requestMappingIsSet := false
  mappingOfNssaiIsSet := false
  requestedNssai := some [⟨222, some "00007B"⟩, ⟨1, some "FFFFFF"⟩]
  subscribedNssai := some [⟨1, some "FFFFFF"⟩, ⟨222, some "00007B"⟩]

theorem plain_mixedInfo : Plain oneAmf mixedInfo ⟨⟨"208", "95"⟩, "000001"⟩ ⟨"", ""⟩ :=
  ⟨rfl, rfl, rfl, .inr (by decide), rfl, rfl⟩

/-- The S-NSSAI that is not subscribed is neither allowed nor rejected. -/
theorem mixedInfo_not_selects :
    Plain oneAmf mixedInfo ⟨⟨"208", "95"⟩, "000001"⟩ ⟨"", ""⟩ ∧
      (handleSliceInfoForRegistration oneAmf mixedInfo ⟨⟨"208", "95"⟩, "000001"⟩ ⟨"", ""⟩ 0 .empty).httpCode = 200 ∧
      ¬ Selects compareSnssai oneAmf mixedInfo
        (handleSliceInfoForRegistration oneAmf mixedInfo ⟨⟨"208", "95"⟩, "000001"⟩ ⟨"", ""⟩ 0 .empty) ∧
      ¬ Selects (fun a b => a = b) oneAmf mixedInfo
        (handleSliceInfoForRegistration oneAmf mixedInfo ⟨⟨"208", "95"⟩, "000001"⟩ ⟨"", ""⟩ 0 .empty) := by
  refine ⟨plain_mixedInfo, by decide, fun h => ?_, fun h => ?_⟩
  · exact absurd (h.rejected (by decide)) (by decide)
  · exact absurd (h.rejected (by decide)) (by decide)

theorem wholeInfo_selects :
    Selects compareSnssai oneAmf wholeInfo
      (handleSliceInfoForRegistration oneAmf wholeInfo ⟨⟨"208", "95"⟩, "000001"⟩ ⟨"", ""⟩ 0 .empty) := by
  have h : Plain oneAmf wholeInfo ⟨⟨"208", "95"⟩, "000001"⟩ ⟨"", ""⟩ := ⟨rfl, rfl, rfl, .inr (by decide), rfl, rfl⟩
  refine (handleSliceInfoForRegistration_selects_iff h 0).1.mpr (.inr ⟨by decide, ?_⟩)
  exact ⟨_, List.mem_singleton.mpr rfl, _, List.mem_singleton.mpr rfl, _, List.mem_singleton.mpr rfl, by decide⟩

end Oai5g.Nssf
