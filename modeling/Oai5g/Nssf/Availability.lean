import Oai5g.Nssf.Selection

/-!
# NSSAI availability at the NSSF

* `handleCreateNssaiAvailability`: an update of an AMF, made in a copy of its AMF set.
* `Reaches`: what a run of updates has to mean for slice selection.
* **`run_reaches_iff`**: a run does so exactly when each update that is acknowledged says what is configured.
-/

namespace Oai5g.Nssf

/-- The body of an update. -/
structure NssaiAvailabilityInfo where
  supportedNssaiAvailabilityData : List SupportedNssaiAvailabilityData
  amfSetId : Option String
deriving DecidableEq, Repr

/-! ## The source -/

/-- `amf_set_present`, with the copy of the set that it returns. -/
def amfSetPresent (cfg : NssfConfig) (targetAmfSet : String) : Option AmfInfo :=
  cfg.amfInfoList.find? fun amfInfo => amfInfo.targetAmfSet = targetAmfSet

/-- The rest of the handler: `amf_info` at its end and the code. The loop runs over copies of the AMFs. -/
def createInCopy (amfInfo : AmfInfo) (nfId : String) (info : NssaiAvailabilityInfo) : AmfInfo × ℕ :=
  if amfInfo.amfList.any fun amf => amf.1 = nfId then (amfInfo, 204)
  else ({ amfInfo with amfList := amfInfo.amfList ++ [(nfId, info.supportedNssaiAvailabilityData)] }, 204)

/-- The result of the handler, with the code and the configuration after it. -/
structure Created where
  ok : Bool
  httpCode : ℕ
  cfg : NssfConfig
deriving DecidableEq, Repr

/-- `handle_create_nssai_availability` -/
def handleCreateNssaiAvailability (cfg : NssfConfig) (nfId : String) (info : NssaiAvailabilityInfo)
    (httpCode : ℕ) : Created :=
  match info.amfSetId with
  | some amfSet =>
    if amfSet ≠ "" then
      match amfSetPresent cfg amfSet with
      -- the copy is gone when the handler returns
      | some amfInfo => ⟨true, (createInCopy amfInfo nfId info).2, cfg⟩
      | none => ⟨false, 503, cfg⟩
    else ⟨true, httpCode, cfg⟩
  | none => ⟨false, 503, cfg⟩

/-! ## Runs of updates -/

/-- An update of an NF. -/
structure Update where
  nfId : String
  info : NssaiAvailabilityInfo
deriving DecidableEq, Repr

/-- A request for an update; the servers start from code 0. -/
def put (cfg : NssfConfig) (u : Update) : Created := handleCreateNssaiAvailability cfg u.nfId u.info 0

/-- The configuration after some updates. -/
def run (cfg : NssfConfig) (us : List Update) : NssfConfig := us.foldl (fun cfg u => (put cfg u).cfg) cfg

/-- The updates of a run that are answered with 204. -/
def acknowledged : NssfConfig → List Update → List Update
  | _, [] => []
  | cfg, u :: us =>
    if (put cfg u).httpCode = 204 then u :: acknowledged (put cfg u).cfg us else acknowledged (put cfg u).cfg us

/-- Selection takes the AMF for a candidate of the set when this is requested. -/
def treated (cfg : NssfConfig) (nfId targetAmfSet : String) (reqNssai : List Snssai) : Bool :=
  cfg.amfInfoList.any fun amfSet => amfSet.targetAmfSet = targetAmfSet && nfId ∈ candidateAmfs amfSet reqNssai

/-- What an update says of its AMF: it is in this set and supports these S-NSSAIs. -/
def listed (u : Update) (targetAmfSet : String) (reqNssai : List Snssai) : Bool :=
  u.info.amfSetId = some targetAmfSet &&
    u.info.supportedNssaiAvailabilityData.any fun ext => getValidAmf ext.supportedSnssaiList reqNssai

/-- The latest update of an AMF. -/
def latest (us : List Update) (nfId : String) : Option Update := (us.filter fun u => u.nfId = nfId).getLast?

/-- After the run, selection treats each AMF as its latest acknowledged update says, and the others as before. -/
def Reaches (cfg : NssfConfig) (us : List Update) : Prop :=
  ∀ nfId targetAmfSet reqNssai,
    treated (run cfg us) nfId targetAmfSet reqNssai =
      match latest (acknowledged cfg us) nfId with
      | some u => listed u targetAmfSet reqNssai
      | none => treated cfg nfId targetAmfSet reqNssai

/-- The update names an AMF set of the configuration. -/
def Names (cfg : NssfConfig) (u : Update) : Prop :=
  ∃ amfSet, u.info.amfSetId = some amfSet ∧ amfSet ≠ "" ∧ ∃ amfInfo ∈ cfg.amfInfoList, amfInfo.targetAmfSet = amfSet

/-! ## What a run changes -/

@[simp]
theorem put_cfg (cfg : NssfConfig) (u : Update) : (put cfg u).cfg = cfg := by
  unfold put handleCreateNssaiAvailability
  split
  · split
    · split <;> rfl
    · rfl
  · rfl

@[simp]
theorem run_eq (cfg : NssfConfig) (us : List Update) : run cfg us = cfg := by
  induction us with
  | nil => rfl
  | cons u us ih =>
    change run (put cfg u).cfg us = cfg
    rw [put_cfg, ih]

theorem createInCopy_snd (amfInfo : AmfInfo) (nfId : String) (info : NssaiAvailabilityInfo) :
    (createInCopy amfInfo nfId info).2 = 204 := by
  unfold createInCopy
  split <;> rfl

theorem put_httpCode_iff {cfg : NssfConfig} {u : Update} : (put cfg u).httpCode = 204 ↔ Names cfg u := by
  unfold put handleCreateNssaiAvailability Names
  cases hset : u.info.amfSetId with
  | none => simp
  | some amfSet =>
    by_cases hempty : amfSet = ""
    · subst hempty
      simp only [ne_eq, not_true_eq_false, if_false, Option.some.injEq, Nat.zero_ne_add_one, false_iff]
      rintro ⟨_, rfl, hne, -⟩
      exact hne rfl
    · cases hfind : amfSetPresent cfg amfSet with
      | none =>
        have hno : ∀ amfInfo ∈ cfg.amfInfoList, amfInfo.targetAmfSet ≠ amfSet := by
          simpa [amfSetPresent] using hfind
        simp only [ne_eq, hempty, not_false_eq_true, if_true, hfind, Option.some.injEq]
        refine iff_of_false (by decide) ?_
        rintro ⟨_, rfl, -, amfInfo, hmem, hname⟩
        exact hno amfInfo hmem hname
      | some amfInfo =>
        have hmem : amfInfo ∈ cfg.amfInfoList := List.mem_of_find?_eq_some hfind
        have hname : amfInfo.targetAmfSet = amfSet := by simpa using List.find?_some hfind
        simp only [ne_eq, hempty, not_false_eq_true, if_true, hfind, createInCopy_snd, Option.some.injEq, true_iff]
        exact ⟨amfSet, rfl, hempty, amfInfo, hmem, hname⟩

open Classical in
theorem acknowledged_eq (cfg : NssfConfig) (us : List Update) :
    acknowledged cfg us = us.filter fun u => Names cfg u := by
  induction us with
  | nil => rfl
  | cons u us ih =>
    by_cases h : Names cfg u
    · simp [acknowledged, put_httpCode_iff, h, ih]
    · simp [acknowledged, put_httpCode_iff, h, ih]

/-- In every state of a run, selection follows the updates exactly when these say what is configured. -/
theorem run_reaches_iff (cfg : NssfConfig) (us : List Update) :
    (∀ pre, pre <+: us → Reaches cfg pre) ↔
      ∀ u ∈ us, Names cfg u → ∀ targetAmfSet reqNssai,
        treated cfg u.nfId targetAmfSet reqNssai = listed u targetAmfSet reqNssai := by
  classical
  constructor
  · intro h u hu hnames targetAmfSet reqNssai
    -- the run up to this update
    obtain ⟨pre, post, rfl⟩ := List.append_of_mem hu
    have hpre : pre ++ [u] <+: pre ++ u :: post := ⟨post, by simp⟩
    have hlatest : latest (acknowledged cfg (pre ++ [u])) u.nfId = some u := by
      simp [acknowledged_eq, latest, hnames]
    simpa [hlatest] using h _ hpre u.nfId targetAmfSet reqNssai
  · intro h pre hpre nfId targetAmfSet reqNssai
    rw [run_eq]
    cases hlatest : latest (acknowledged cfg pre) nfId with
    | none => rfl
    | some u =>
      have hmem : u ∈ (acknowledged cfg pre).filter fun u => u.nfId = nfId := List.mem_of_getLast? hlatest
      rw [acknowledged_eq, List.mem_filter, List.mem_filter] at hmem
      obtain ⟨⟨hu, hnames⟩, hid⟩ := hmem
      rw [← of_decide_eq_true hid]
      exact h u (hpre.subset hu) (of_decide_eq_true hnames) targetAmfSet reqNssai

/-- An AMF that was not configured is acknowledged. -/
def newAmf : Update := ⟨"amf2", ⟨[⟨[⟨3, none⟩]⟩], some "1-1-1"⟩⟩

/-- Selection never hears of it. -/
theorem newAmf_not_reaches :
    (put oneAmf newAmf).httpCode = 204 ∧ ¬ Reaches oneAmf [newAmf] := by
  refine ⟨by decide, fun h => ?_⟩
  exact absurd (h "amf2" "1-1-1" [⟨3, none⟩]) (by decide)

end Oai5g.Nssf
