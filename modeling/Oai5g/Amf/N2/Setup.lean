import Oai5g.Lib.Run
import Oai5g.Lib.Strtoul
import Oai5g.Amf.N2.Gnb

/-!
# The slices of an NG Setup

* `getCommonPlmn`, `getCommonNssai` and the handler of NG Setup Requests of `amf_n2`, with everything it
  stores in the context of the gNB.
* `CommonAt`: the slices that both sides have at a tracking area and a PLMN; `count_textsAt`: how often one
  is stored.
* **`setupsRight_iff`**: when a sequence of setups stores exactly these.
* The response is made from the configuration and is not looked at; its encoder is an input.
-/

namespace Oai5g.Amf

open Numeral

/-! ## Slices -/

/-- The SD of a slice without one. -/
def SD_NO_VALUE : UInt32 := 0xFFFFFF

/-- `slice_t` -/
structure Slice where
  sst : UInt8
  sd : UInt32
  deriving DecidableEq, Repr

/-- `S_Nssai` -/
structure S_Nssai where
  sst : Str
  sd : Str
  deriving DecidableEq, Repr

/-- `oai::nas::SNSSAI_t` -/
structure SNSSAI where
  sst : UInt8 := 0
  sd : UInt32 := 0
  length : UInt8 := 0
  mHplmnSst : UInt8 := 0
  mHplmnSd : UInt32 := 0
  deriving DecidableEq, Repr

/-- `oai::ngap::SNssai`: what is decoded from a message. -/
structure SNssai where
  sst : UInt8
  sd : Option UInt32
  deriving DecidableEq, Repr

/-- `SNssai::getSst` and `SNssai::getSd`, as texts. -/
def SNssai.text (s : SNssai) : S_Nssai := ⟨dec s.sst.toNat, dec (s.sd.getD SD_NO_VALUE).toNat⟩

/-- `boost::iequals(sd_str.substr(0, 2), "0x")` -/
def isHex (sdStr : Str) : Bool := sdStr.take 2 = ['0', 'x'] ∨ sdStr.take 2 = ['0', 'X']

/-- `amf_conv::sd_string_to_int`. -/
def sdStringToInt (sdStr : Str) : Bool × UInt32 :=
  if sdStr = [] then (false, SD_NO_VALUE)
  else
    let base := if 2 < sdStr.length ∧ isHex sdStr then 16 else 10
    match stoul base sdStr with
    | none => (false, SD_NO_VALUE)
    | some sd => (true, UInt32.ofNat sd)

/-- The comparison of `get_common_plmn`. -/
def isCommon (s1 : S_Nssai) (s2 : Slice) : Bool :=
  s1.sst = dec s2.sst.toNat ∧ (sdStringToInt s1.sd).2 = s2.sd

/-! ## Tracking areas -/

/-- `PlmnSliceSupport_t` -/
structure PlmnSliceSupport where
  mcc : Str
  mnc : Str
  sliceList : List S_Nssai
  deriving DecidableEq, Repr

/-- `SupportedTaItem_t` -/
structure SupportedTaItem where
  tac : UInt32
  plmnSliceSupportList : List PlmnSliceSupport
  deriving DecidableEq, Repr

/-- `oai::ngap::BroadcastPlmnItem` -/
structure BroadcastPlmnItem where
  mcc : Str
  mnc : Str
  tAiSliceSupportList : List SNssai
  deriving DecidableEq, Repr

/-- `oai::ngap::SupportedTaItem` -/
structure NgapSupportedTaItem where
  tac : UInt32
  broadcastPlmnList : List BroadcastPlmnItem
  deriving DecidableEq, Repr

/-- `plmn_item_t` -/
structure PlmnItem where
  mcc : Str
  mnc : Str
  tac : UInt32
  sliceList : List Slice
  deriving DecidableEq, Repr

/-- A slice of a gNB, pushed for each configured slice that it is equal to. -/
def commonSlices (c : PlmnItem) (s1 : S_Nssai) : List S_Nssai :=
  (c.sliceList.filter (isCommon s1)).map fun _ => s1

/-- What is stored for a common PLMN. -/
def commonItem (c : PlmnItem) (tac : UInt32) (p : PlmnSliceSupport) : SupportedTaItem :=
  ⟨tac, [{ p with sliceList := p.sliceList.flatMap (commonSlices c) }]⟩

/-- What `amf_n2::get_common_plmn` appends. -/
def commonItems (plmnList : List PlmnItem) (list : List SupportedTaItem) : List SupportedTaItem :=
  plmnList.flatMap fun c => list.flatMap fun ta =>
    if c.tac ≠ ta.tac then []
    else (ta.plmnSliceSupportList.filter fun p => p.mcc = c.mcc ∧ p.mnc = c.mnc).map
      (commonItem c ta.tac)

/-- `amf_n2::get_common_plmn`: `found_common_plmn` is set where a slice is pushed, and the PLMN is appended in
any case. -/
def getCommonPlmn (plmnList : List PlmnItem) (list result : List SupportedTaItem) :
    Bool × List SupportedTaItem :=
  let items := commonItems plmnList list
  (items.any fun item => item.plmnSliceSupportList.any fun p => !p.sliceList.isEmpty, result ++ items)

/-- The slices of one PLMN in `get_common_NSSAI`, up to the first that is none. -/
def readSlices : List S_Nssai → List SNSSAI
  | [] => []
  | slice :: slices =>
    match stoi slice.sst with
    | none => []
    | some sst =>
      { sst := UInt8.ofNat (sst % 256).toNat, sd := (sdStringToInt slice.sd).2 } :: readSlices slices

/-- `amf_n2::get_common_NSSAI`, for the list of a gNB. -/
def getCommonNssai (supportedTaList : List SupportedTaItem) : List SNSSAI :=
  supportedTaList.flatMap fun ta => ta.plmnSliceSupportList.flatMap fun plmn => readSlices plmn.sliceList

/-! ## The handler -/

/-- `Ngap_PagingDRX` -/
inductive PagingDrx
  | v32
  | v64
  | v128
  | v256
  deriving DecidableEq, Repr

/-- `NgSetupRequestMsg`, without the octets. -/
structure NgSetupRequestMsg where
  globalGnbId : Option (UInt32 × Str × Str)
  ranNodeName : Option Str
  supportedTaList : List NgapSupportedTaItem
  defaultPagingDrx : PagingDrx
  /-- `UeRetentionInformation`, of which 0 is `ues_retained`. -/
  ueRetentionInformation : Option ℕ
  deriving DecidableEq, Repr

/-- `NgSetupRequestMsg::getSupportedTaList`. -/
def NgSetupRequestMsg.getSupportedTaList (req : NgSetupRequestMsg) : List SupportedTaItem :=
  req.supportedTaList.map fun ta =>
    ⟨ta.tac, ta.broadcastPlmnList.map fun p => ⟨p.mcc, p.mnc, p.tAiSliceSupportList.map SNssai.text⟩⟩

/-- `gnb_context`, what a setup reads and writes of it. -/
structure GnbSetupContext where
  gnbName : Str
  gnbId : UInt32
  ngState : NgGnbState
  mcc : Str
  mnc : Str
  defaultPagingDrx : PagingDrx
  supportedTaList : List SupportedTaItem
  ueRetentionInfo : Option ℕ
  deriving DecidableEq, Repr

/-- The context of one gNB and the table from IDs to contexts, in which a context is named by its
association. -/
structure GnbSetupState where
  gc : GnbSetupContext
  gnbid2gnb : UInt32 → Option SctpAssocId

/-- `amf_cfg.plmn_list`, and how many octets `NgSetupResponseMsg::Encode` makes of the response, which has
the retention information or not. -/
structure NgSetupEnv where
  plmnList : List PlmnItem
  encode : Bool → ℤ

/-- The cause of an NG Setup Failure. -/
inductive SetupCause
  | falselyConstructedMessage
  | unknownPlmn
  | unspecified
  deriving DecidableEq, Repr

/-- What a gNB is answered. -/
inductive SetupAnswer
  | response
  | failure (cause : SetupCause)
  deriving DecidableEq, Repr

namespace GnbSetupContext

/-- What is stored before the slices are compared. -/
def store (gc : GnbSetupContext) (req : NgSetupRequestMsg) (gnbId : UInt32) (mcc mnc : Str) :
    GnbSetupContext :=
  { gc with
    gnbId := gnbId
    mcc := mcc
    mnc := mnc
    gnbName := req.ranNodeName.getD gc.gnbName
    defaultPagingDrx := req.defaultPagingDrx
    ueRetentionInfo := req.ueRetentionInformation }

@[simp] theorem store_supportedTaList (gc : GnbSetupContext) (req : NgSetupRequestMsg) (gnbId : UInt32)
    (mcc mnc : Str) : (gc.store req gnbId mcc mnc).supportedTaList = gc.supportedTaList := rfl

end GnbSetupContext

/-- `amf_n2::handle_itti_message(itti_ng_setup_request)`, for a gNB that has a context. A Supported TA List is
always found. -/
def handleNgSetup (env : NgSetupEnv) (assoc : SctpAssocId) (s : GnbSetupState) (req : NgSetupRequestMsg) :
    SetupAnswer × GnbSetupState :=
  match req.globalGnbId with
  | none => (.failure .falselyConstructedMessage, s)
  | some (gnbId, mcc, mnc) =>
    let gc := s.gc.store req gnbId mcc mnc
    let common := getCommonPlmn env.plmnList req.getSupportedTaList gc.supportedTaList
    let gc := { gc with supportedTaList := common.2 }
    if common.1 = false then (.failure .unknownPlmn, { s with gc := gc })
    else
      let s := { gc := gc, gnbid2gnb := Function.update s.gnbid2gnb gnbId (some assoc) }
      if env.encode (req.ueRetentionInformation = some 0) < 1 then (.failure .unspecified, s)
      else (.response, { s with gc := { gc with ngState := .ready } })

/-! ## What is common -/

/-- A tracking area and a PLMN. -/
abbrev TaPlmn : Type := UInt32 × Str × Str

/-- The slice of a configuration that is meant. -/
def SNssai.value (s : SNssai) : Slice := ⟨s.sst, s.sd.getD SD_NO_VALUE⟩

/-- The configured slices. -/
def configuredSlices (plmnList : List PlmnItem) (k : TaPlmn) : List Slice :=
  (plmnList.filter fun c => (c.tac, c.mcc, c.mnc) = k).flatMap PlmnItem.sliceList

/-- The slices of a request. -/
def NgSetupRequestMsg.slicesAt (req : NgSetupRequestMsg) (k : TaPlmn) : List Slice :=
  req.supportedTaList.flatMap fun ta =>
    (ta.broadcastPlmnList.filter fun p => (ta.tac, p.mcc, p.mnc) = k).flatMap fun p =>
      p.tAiSliceSupportList.map SNssai.value

/-- The slices of a stored list. -/
def textsAt (list : List SupportedTaItem) (k : TaPlmn) : List S_Nssai :=
  list.flatMap fun ta =>
    (ta.plmnSliceSupportList.filter fun p => (ta.tac, p.mcc, p.mnc) = k).flatMap PlmnSliceSupport.sliceList

/-- A tracking area and a PLMN that are configured and supported. -/
def CommonTaPlmn (plmnList : List PlmnItem) (req : NgSetupRequestMsg) (k : TaPlmn) : Prop :=
  (∃ c ∈ plmnList, (c.tac, c.mcc, c.mnc) = k) ∧
    ∃ ta ∈ req.supportedTaList, ∃ p ∈ ta.broadcastPlmnList, (ta.tac, p.mcc, p.mnc) = k

/-- A slice that both sides have there. -/
def CommonAt (plmnList : List PlmnItem) (req : NgSetupRequestMsg) (k : TaPlmn) (x : Slice) : Prop :=
  x ∈ configuredSlices plmnList k ∧ x ∈ req.slicesAt k

/-- As it is stored. -/
def Slice.text (x : Slice) : S_Nssai := ⟨dec x.sst.toNat, dec x.sd.toNat⟩

/-- As it is offered to a UE. -/
def Slice.offer (x : Slice) : SNSSAI := { sst := x.sst, sd := x.sd }

/-- **The list holds exactly the common slices**, each once, and no other slice is offered. -/
structure ExactlyCommon (plmnList : List PlmnItem) (req : NgSetupRequestMsg) (list : List SupportedTaItem) :
    Prop where
  nodup : ∀ k, CommonTaPlmn plmnList req k → (textsAt list k).Nodup
  slices : ∀ k, CommonTaPlmn plmnList req k →
    ∀ t, t ∈ textsAt list k ↔ ∃ x, CommonAt plmnList req k x ∧ t = x.text
  offered : ∀ s ∈ getCommonNssai list, ∃ k x, CommonAt plmnList req k x ∧ s = x.offer

/-- **A setup is right**: what an accepted one stores, when one is refused, and that this changes nothing. -/
structure SetupRight (env : NgSetupEnv) (assoc : SctpAssocId) (s : GnbSetupState) (req : NgSetupRequestMsg) :
    Prop where
  accepted : (handleNgSetup env assoc s req).1 = .response →
    ExactlyCommon env.plmnList req (handleNgSetup env assoc s req).2.gc.supportedTaList
  refused_iff : (handleNgSetup env assoc s req).1 ≠ .response ↔ ∀ k x, ¬ CommonAt env.plmnList req k x
  refused : (handleNgSetup env assoc s req).1 ≠ .response → (handleNgSetup env assoc s req).2 = s

/-! ## Texts -/

theorem Slice.text_injective : Function.Injective Slice.text := by
  intro x y h
  obtain ⟨hsst, hsd⟩ := S_Nssai.mk.inj h
  have hsst' : x.sst = y.sst := UInt8.toNat_inj.mp (dec_injective hsst)
  have hsd' : x.sd = y.sd := UInt32.toNat_inj.mp (dec_injective hsd)
  cases x
  cases y
  simp_all

theorem isHex_dec (n : ℕ) : isHex (dec n) = false := by
  have hdigit : ∀ c ∈ (dec n).take 2, c.isDigit = true := fun c hc =>
    isDigit_of_mem_dec (List.mem_of_mem_take hc)
  have hx : (dec n).take 2 ≠ ['0', 'x'] := fun h => by
    have := hdigit 'x' (by rw [h]; decide)
    revert this
    decide
  have hX : (dec n).take 2 ≠ ['0', 'X'] := fun h => by
    have := hdigit 'X' (by rw [h]; decide)
    revert this
    decide
  simp [isHex, hx, hX]

/-- **A slice differentiator is read back.** -/
theorem sdStringToInt_dec (x : UInt32) : sdStringToInt (dec x.toNat) = (true, x) := by
  have hlt : x.toNat < 2 ^ 64 := lt_trans x.toNat_lt (by decide)
  rw [sdStringToInt, if_neg (dec_ne_nil _)]
  simp only [isHex_dec, Bool.false_eq_true, and_false, if_false, stoul_dec hlt, UInt32.ofNat_toNat]

theorem isCommon_text (x y : Slice) : isCommon x.text y = decide (x = y) := by
  cases x with
  | mk sst sd =>
    cases y with
    | mk sst' sd' =>
      have hsst : dec sst.toNat = dec sst'.toNat ↔ sst = sst' :=
        dec_injective.eq_iff.trans UInt8.toNat_inj
      simp [isCommon, Slice.text, sdStringToInt_dec, hsst]

theorem readSlices_map_text (xs : List Slice) : readSlices (xs.map Slice.text) = xs.map Slice.offer := by
  induction xs with
  | nil => rfl
  | cons x xs ih =>
    have hsst : stoi (dec x.sst.toNat) = some (x.sst.toNat : ℤ) :=
      stoi_dec (by have := x.sst.toNat_lt; omega)
    have hbyte : UInt8.ofNat ((x.sst.toNat : ℤ) % 256).toNat = x.sst := by
      have := x.sst.toNat_lt
      rw [show ((x.sst.toNat : ℤ) % 256).toNat = x.sst.toNat by omega, UInt8.ofNat_toNat]
    simp only [List.map_cons, readSlices, Slice.text, hsst, sdStringToInt_dec, hbyte, Slice.offer]
    exact congrArg _ ih

/-! ## How often a slice is stored -/

variable {plmnList : List PlmnItem} {req : NgSetupRequestMsg} {k : TaPlmn}

theorem textsAt_append (l l' : List SupportedTaItem) (k : TaPlmn) :
    textsAt (l ++ l') k = textsAt l k ++ textsAt l' k := List.flatMap_append

theorem textsAt_flatMap {α : Type*} (l : List α) (f : α → List SupportedTaItem) (k : TaPlmn) :
    textsAt (l.flatMap f) k = l.flatMap fun a => textsAt (f a) k := List.flatMap_assoc

theorem textsAt_eq_flatMap (l : List SupportedTaItem) (k : TaPlmn) :
    textsAt l k = l.flatMap fun ta => textsAt [ta] k := by
  rw [← textsAt_flatMap, List.flatMap_singleton']

theorem textsAt_commonItem (c : PlmnItem) (tac : UInt32) (p : PlmnSliceSupport) (k : TaPlmn) :
    textsAt [commonItem c tac p] k =
      if (tac, p.mcc, p.mnc) = k then p.sliceList.flatMap (commonSlices c) else [] := by
  by_cases h : (tac, p.mcc, p.mnc) = k <;> simp [textsAt, commonItem, h]

theorem textsAt_singleton_cons (tac : UInt32) (p : PlmnSliceSupport) (ps : List PlmnSliceSupport)
    (k : TaPlmn) :
    textsAt [⟨tac, p :: ps⟩] k =
      (if (tac, p.mcc, p.mnc) = k then p.sliceList else []) ++ textsAt [⟨tac, ps⟩] k := by
  by_cases h : (tac, p.mcc, p.mnc) = k <;> simp [textsAt, h]

theorem textsAt_items (c : PlmnItem) (ta : SupportedTaItem) (k : TaPlmn) :
    textsAt (if c.tac ≠ ta.tac then []
      else (ta.plmnSliceSupportList.filter fun p => p.mcc = c.mcc ∧ p.mnc = c.mnc).map
        (commonItem c ta.tac)) k =
      if (c.tac, c.mcc, c.mnc) = k then (textsAt [ta] k).flatMap (commonSlices c) else [] := by
  obtain ⟨tac, ps⟩ := ta
  by_cases htac : c.tac = tac
  · subst htac
    rw [if_neg (not_not.mpr rfl)]
    induction ps with
    | nil => simp [textsAt]
    | cons p ps ih =>
      rw [textsAt_singleton_cons, List.flatMap_append, List.filter_cons]
      by_cases hp : p.mcc = c.mcc ∧ p.mnc = c.mnc
      · have hkey : (c.tac, p.mcc, p.mnc) = (c.tac, c.mcc, c.mnc) := by rw [hp.1, hp.2]
        simp only [hp, and_self, decide_true, if_true, List.map_cons]
        rw [← List.singleton_append, textsAt_append, ih, textsAt_commonItem, hkey]
        by_cases hk : (c.tac, c.mcc, c.mnc) = k <;> simp [hk]
      · have hkey : (c.tac, c.mcc, c.mnc) = k → (c.tac, p.mcc, p.mnc) ≠ k := by
          rintro rfl h
          obtain ⟨-, hmcc, hmnc⟩ := Prod.mk.inj h |>.imp_right Prod.mk.inj
          exact hp ⟨hmcc, hmnc⟩
        simp only [hp, decide_false, Bool.false_eq_true, if_false]
        rw [ih]
        by_cases hk : (c.tac, c.mcc, c.mnc) = k
        · simp [hk, hkey hk]
        · simp [hk]
  · rw [if_pos htac]
    by_cases hk : (c.tac, c.mcc, c.mnc) = k
    · have hnone : textsAt [⟨tac, ps⟩] k = [] := by
        have hne : ∀ p : PlmnSliceSupport, (tac, p.mcc, p.mnc) ≠ k := by
          rintro p rfl
          exact htac (Prod.mk.inj hk).1
        simp [textsAt, hne]
      rw [if_pos hk, hnone]
      rfl
    · rw [if_neg hk]
      rfl

/-- **What is stored at a tracking area and a PLMN**: for each configured PLMN, what it has of the slices of the
gNB. -/
theorem textsAt_commonItems (plmnList : List PlmnItem) (list : List SupportedTaItem) (k : TaPlmn) :
    textsAt (commonItems plmnList list) k =
      (plmnList.filter fun c => (c.tac, c.mcc, c.mnc) = k).flatMap fun c =>
        (textsAt list k).flatMap (commonSlices c) := by
  have hc : ∀ c : PlmnItem, textsAt (list.flatMap fun ta =>
      if c.tac ≠ ta.tac then []
      else (ta.plmnSliceSupportList.filter fun p => p.mcc = c.mcc ∧ p.mnc = c.mnc).map
        (commonItem c ta.tac)) k =
      if (c.tac, c.mcc, c.mnc) = k then (textsAt list k).flatMap (commonSlices c) else [] := by
    intro c
    rw [textsAt_flatMap]
    simp only [textsAt_items]
    by_cases hk : (c.tac, c.mcc, c.mnc) = k
    · simp only [hk, if_true]
      rw [textsAt_eq_flatMap list, List.flatMap_assoc]
    · simp [hk]
  rw [commonItems, textsAt_flatMap]
  simp only [hc]
  induction plmnList with
  | nil => rfl
  | cons c cs ih => by_cases hk : (c.tac, c.mcc, c.mnc) = k <;> simp [hk, ih]

theorem textsAt_getSupportedTaList (req : NgSetupRequestMsg) (k : TaPlmn) :
    textsAt req.getSupportedTaList k = (req.slicesAt k).map Slice.text := by
  simp only [textsAt, NgSetupRequestMsg.getSupportedTaList, NgSetupRequestMsg.slicesAt, List.flatMap_map,
    List.map_flatMap, List.filter_map, List.map_map]
  rfl

theorem count_flatMap_commonSlices (c : PlmnItem) (ys : List Slice) (x : Slice) :
    ((ys.map Slice.text).flatMap (commonSlices c)).count x.text = c.sliceList.count x * ys.count x := by
  induction ys with
  | nil => rfl
  | cons y ys ih =>
    have hy : (commonSlices c y.text).count x.text = if y = x then c.sliceList.count x else 0 := by
      have hfun : isCommon y.text = fun z => decide (y = z) := funext fun z => isCommon_text y z
      rw [commonSlices, hfun, List.map_const', List.count_replicate]
      simp only [beq_iff_eq, Slice.text_injective.eq_iff]
      by_cases hyx : y = x
      · subst hyx
        simp only [if_true, List.count_eq_length_filter, BEq.comm]
        rfl
      · simp [hyx]
    rw [List.map_cons, List.flatMap_cons, List.count_append, ih, hy, List.count_cons]
    by_cases hyx : y = x <;> simp [hyx, Nat.mul_add, Nat.add_comm]

/-- **How often a slice is stored**: as often as it is configured, for each time the gNB supports it. -/
theorem count_textsAt (plmnList : List PlmnItem) (req : NgSetupRequestMsg) (k : TaPlmn) (x : Slice) :
    (textsAt (commonItems plmnList req.getSupportedTaList) k).count x.text =
      (configuredSlices plmnList k).count x * (req.slicesAt k).count x := by
  rw [textsAt_commonItems, textsAt_getSupportedTaList, configuredSlices]
  induction plmnList.filter fun c => (c.tac, c.mcc, c.mnc) = k with
  | nil => simp
  | cons c cs ih =>
    rw [List.flatMap_cons, List.count_append, ih, count_flatMap_commonSlices, List.flatMap_cons,
      List.count_append, Nat.add_mul]

/-! ## What is stored and offered -/

theorem exists_text_of_mem_textsAt {t : S_Nssai}
    (ht : t ∈ textsAt (commonItems plmnList req.getSupportedTaList) k) : ∃ x : Slice, t = x.text := by
  rw [textsAt_commonItems, textsAt_getSupportedTaList] at ht
  obtain ⟨c, -, hc⟩ := List.mem_flatMap.mp ht
  obtain ⟨s1, hs1, ht⟩ := List.mem_flatMap.mp hc
  obtain ⟨x, -, rfl⟩ := List.mem_map.mp hs1
  obtain ⟨-, -, rfl⟩ := List.mem_map.mp ht
  exact ⟨x, rfl⟩

/-- **The common slices are stored, and no others.** -/
theorem mem_textsAt (t : S_Nssai) :
    t ∈ textsAt (commonItems plmnList req.getSupportedTaList) k ↔
      ∃ x, CommonAt plmnList req k x ∧ t = x.text := by
  have hcount : ∀ x : Slice, x.text ∈ textsAt (commonItems plmnList req.getSupportedTaList) k ↔
      CommonAt plmnList req k x := by
    intro x
    rw [← List.count_pos_iff, count_textsAt, CanonicallyOrderedAdd.mul_pos, List.count_pos_iff,
      List.count_pos_iff]
    rfl
  constructor
  · intro ht
    obtain ⟨x, rfl⟩ := exists_text_of_mem_textsAt ht
    exact ⟨x, (hcount x).mp ht, rfl⟩
  · rintro ⟨x, hx, rfl⟩
    exact (hcount x).mpr hx

/-- Each slice on both sides stands there once. -/
def OnceAt (plmnList : List PlmnItem) (req : NgSetupRequestMsg) (k : TaPlmn) : Prop :=
  ∀ x, CommonAt plmnList req k x →
    (configuredSlices plmnList k).count x = 1 ∧ (req.slicesAt k).count x = 1

theorem nodup_textsAt :
    (textsAt (commonItems plmnList req.getSupportedTaList) k).Nodup ↔ OnceAt plmnList req k := by
  rw [List.nodup_iff_count_le_one]
  constructor
  · intro h x hx
    have hle := h x.text
    have hpos₁ := List.count_pos_iff.mpr hx.1
    have hpos₂ := List.count_pos_iff.mpr hx.2
    rw [count_textsAt] at hle
    have hone := le_antisymm hle (Nat.mul_pos hpos₁ hpos₂)
    exact ⟨Nat.eq_one_of_mul_eq_one_right hone, Nat.eq_one_of_mul_eq_one_left hone⟩
  · intro h t
    by_cases ht : t ∈ textsAt (commonItems plmnList req.getSupportedTaList) k
    · obtain ⟨x, hx, rfl⟩ := (mem_textsAt t).mp ht
      rw [count_textsAt, (h x hx).1, (h x hx).2]
    · rw [List.count_eq_zero_of_not_mem ht]
      exact Nat.zero_le 1

/-- **A list with the common items behind it** is right at a tracking area and a PLMN exactly when it held nothing
there and both sides name each slice once. -/
theorem exactly_append_iff (old : List SupportedTaItem) :
    ((textsAt (old ++ commonItems plmnList req.getSupportedTaList) k).Nodup ∧
        ∀ t, t ∈ textsAt (old ++ commonItems plmnList req.getSupportedTaList) k ↔
          ∃ x, CommonAt plmnList req k x ∧ t = x.text) ↔
      textsAt old k = [] ∧ OnceAt plmnList req k := by
  rw [textsAt_append]
  constructor
  · rintro ⟨hnodup, hmem⟩
    obtain ⟨-, hnew, hdisjoint⟩ := List.nodup_append.mp hnodup
    refine ⟨List.eq_nil_iff_forall_not_mem.mpr fun t ht => ?_, nodup_textsAt.mp hnew⟩
    have hcommon := (hmem t).mp (List.mem_append_left _ ht)
    exact hdisjoint t ht t ((mem_textsAt t).mpr hcommon) rfl
  · rintro ⟨hold, honce⟩
    rw [hold, List.nil_append]
    exact ⟨nodup_textsAt.mpr honce, mem_textsAt⟩

theorem exists_map_text {ts : List S_Nssai} (hts : ∀ t ∈ ts, ∃ x : Slice, t = x.text) :
    ∃ xs : List Slice, ts = xs.map Slice.text := by
  induction ts with
  | nil => exact ⟨[], rfl⟩
  | cons t ts ih =>
    obtain ⟨x, rfl⟩ := hts t List.mem_cons_self
    obtain ⟨xs, rfl⟩ := ih fun t ht => hts t (List.mem_cons_of_mem _ ht)
    exact ⟨x :: xs, rfl⟩

theorem mem_readSlices {ts : List S_Nssai} (hts : ∀ t ∈ ts, ∃ x : Slice, t = x.text) {s : SNSSAI}
    (hs : s ∈ readSlices ts) : ∃ x : Slice, x.text ∈ ts ∧ s = x.offer := by
  obtain ⟨xs, rfl⟩ := exists_map_text hts
  rw [readSlices_map_text] at hs
  obtain ⟨x, hx, rfl⟩ := List.mem_map.mp hs
  exact ⟨x, List.mem_map_of_mem hx, rfl⟩

theorem getCommonNssai_append (l l' : List SupportedTaItem) :
    getCommonNssai (l ++ l') = getCommonNssai l ++ getCommonNssai l' := List.flatMap_append

/-- **What is offered of the common items is common.** -/
theorem common_of_mem_getCommonNssai {s : SNSSAI}
    (hs : s ∈ getCommonNssai (commonItems plmnList req.getSupportedTaList)) :
    ∃ k x, CommonAt plmnList req k x ∧ s = x.offer := by
  obtain ⟨ta, hta, hs⟩ := List.mem_flatMap.mp hs
  obtain ⟨p, hp, hs⟩ := List.mem_flatMap.mp hs
  have hat : ∀ t ∈ p.sliceList,
      t ∈ textsAt (commonItems plmnList req.getSupportedTaList) (ta.tac, p.mcc, p.mnc) := fun t ht =>
    List.mem_flatMap.mpr ⟨ta, hta, List.mem_flatMap.mpr ⟨p, List.mem_filter.mpr ⟨hp, by simp⟩, ht⟩⟩
  obtain ⟨x, hx, rfl⟩ := mem_readSlices (fun t ht => exists_text_of_mem_textsAt (hat t ht)) hs
  obtain ⟨y, hy, hxy⟩ := (mem_textsAt _).mp (hat _ hx)
  rw [Slice.text_injective hxy]
  exact ⟨_, y, hy, rfl⟩

/-! ## When a setup is right -/

/-- There is a slice in common. -/
def HasCommon (plmnList : List PlmnItem) (req : NgSetupRequestMsg) : Prop := ∃ k x, CommonAt plmnList req k x

theorem getCommonPlmn_fst_iff (old : List SupportedTaItem) :
    (getCommonPlmn plmnList req.getSupportedTaList old).1 = true ↔ HasCommon plmnList req := by
  constructor
  · intro h
    obtain ⟨ta, hta, h⟩ := List.any_eq_true.mp h
    obtain ⟨p, hp, h⟩ := List.any_eq_true.mp h
    obtain ⟨t, ts, hts⟩ := List.exists_cons_of_ne_nil (by simpa using h)
    obtain ⟨x, hx, -⟩ := (mem_textsAt (k := (ta.tac, p.mcc, p.mnc)) t).mp
      (List.mem_flatMap.mpr ⟨ta, hta, List.mem_flatMap.mpr ⟨p, List.mem_filter.mpr ⟨hp, by simp⟩,
        by rw [hts]; exact List.mem_cons_self⟩⟩)
    exact ⟨_, x, hx⟩
  · rintro ⟨k, x, hx⟩
    obtain ⟨ta, hta, h⟩ := List.mem_flatMap.mp ((mem_textsAt x.text).mpr ⟨x, hx, rfl⟩)
    obtain ⟨p, hp, h⟩ := List.mem_flatMap.mp h
    refine List.any_eq_true.mpr ⟨ta, hta, List.any_eq_true.mpr ⟨p, (List.mem_filter.mp hp).1, ?_⟩⟩
    cases hs : p.sliceList with
    | nil => rw [hs] at h; exact absurd h List.not_mem_nil
    | cons t ts => rfl

/-- Nothing is appended exactly when no PLMN is common, with slices or without. -/
theorem commonItems_eq_nil_iff :
    commonItems plmnList req.getSupportedTaList = [] ↔ ∀ k, ¬ CommonTaPlmn plmnList req k := by
  constructor
  · rintro h k ⟨⟨c, hc, hck⟩, ta, hta, p, hp, hpk⟩
    obtain ⟨htac, hmcc, hmnc⟩ := Prod.mk.inj (hck.trans hpk.symm) |>.imp_right Prod.mk.inj
    have hnil := List.flatMap_eq_nil_iff.mp (List.flatMap_eq_nil_iff.mp h c hc) _
      (List.mem_map_of_mem hta)
    rw [if_neg (not_not.mpr htac), List.map_eq_nil_iff, List.filter_eq_nil_iff] at hnil
    exact hnil _ (List.mem_map_of_mem hp) (by simp [hmcc, hmnc])
  · intro h
    refine List.flatMap_eq_nil_iff.mpr fun c hc => List.flatMap_eq_nil_iff.mpr fun t ht => ?_
    obtain ⟨ta, hta, rfl⟩ := List.mem_map.mp ht
    by_cases htac : c.tac = ta.tac
    · rw [if_neg (not_not.mpr htac), List.map_eq_nil_iff, List.filter_eq_nil_iff]
      intro q hq hcommon
      obtain ⟨p, hp, rfl⟩ := List.mem_map.mp hq
      obtain ⟨hmcc, hmnc⟩ := of_decide_eq_true hcommon
      exact h _ ⟨⟨c, hc, rfl⟩, ta, hta, p, hp, Prod.ext htac.symm (Prod.ext hmcc hmnc)⟩
    · exact if_pos htac

theorem commonTaPlmn_of_commonAt {x : Slice} (h : CommonAt plmnList req k x) :
    CommonTaPlmn plmnList req k := by
  obtain ⟨c, hc, -⟩ := List.mem_flatMap.mp h.1
  obtain ⟨ta, hta, hx⟩ := List.mem_flatMap.mp h.2
  obtain ⟨p, hp, -⟩ := List.mem_flatMap.mp hx
  exact ⟨⟨c, (List.mem_filter.mp hc).1, by simpa using (List.mem_filter.mp hc).2⟩, ta, hta, p,
    (List.mem_filter.mp hp).1, by simpa using (List.mem_filter.mp hp).2⟩

/-- Every slice that a list offers is common. -/
def OffersCommon (plmnList : List PlmnItem) (req : NgSetupRequestMsg) (list : List SupportedTaItem) : Prop :=
  ∀ s ∈ getCommonNssai list, ∃ k x, CommonAt plmnList req k x ∧ s = x.offer

/-- **When the stored list is right**: it was right before where nothing is common, and held nothing where
something is. -/
theorem exactlyCommon_iff (old : List SupportedTaItem) :
    ExactlyCommon plmnList req (old ++ commonItems plmnList req.getSupportedTaList) ↔
      (∀ k, CommonTaPlmn plmnList req k → textsAt old k = [] ∧ OnceAt plmnList req k) ∧
        OffersCommon plmnList req old := by
  constructor
  · intro h
    refine ⟨fun k hk => (exactly_append_iff old).mp ⟨h.nodup k hk, h.slices k hk⟩, fun s hs => ?_⟩
    refine h.offered s ?_
    rw [getCommonNssai_append]
    exact List.mem_append_left _ hs
  · rintro ⟨hat, hoffers⟩
    have hexactly k hk := (exactly_append_iff old).mpr (hat k hk)
    refine ⟨fun k hk => (hexactly k hk).1, fun k hk => (hexactly k hk).2, fun s hs => ?_⟩
    rw [getCommonNssai_append] at hs
    rcases List.mem_append.mp hs with hold | hnew
    · exact hoffers s hold
    · exact common_of_mem_getCommonNssai hnew

/-- **What a setup has to meet**: with a slice in common, the response has to be encoded, and the list must
hold nothing yet at a common PLMN and offer nothing that is not common; with none, no PLMN may be common and
the gNB must be known as the request describes it. -/
def SetupMet (env : NgSetupEnv) (s : GnbSetupState) (req : NgSetupRequestMsg) : Prop :=
  match req.globalGnbId with
  | none => ¬ HasCommon env.plmnList req
  | some (gnbId, mcc, mnc) =>
    (HasCommon env.plmnList req ∧ 1 ≤ env.encode (req.ueRetentionInformation = some 0) ∧
        (∀ k, CommonTaPlmn env.plmnList req k →
          textsAt s.gc.supportedTaList k = [] ∧ OnceAt env.plmnList req k) ∧
        OffersCommon env.plmnList req s.gc.supportedTaList) ∨
      (∀ k, ¬ CommonTaPlmn env.plmnList req k) ∧ s.gc.store req gnbId mcc mnc = s.gc

section

variable {env : NgSetupEnv} {assoc : SctpAssocId} {s : GnbSetupState} {gnbId : UInt32} {mcc mnc : Str}

variable (assoc s) in
theorem handleNgSetup_of_none (hid : req.globalGnbId = none) :
    handleNgSetup env assoc s req = (.failure .falselyConstructedMessage, s) := by
  rw [handleNgSetup, hid]

/-- The list of a setup that names its gNB. -/
def setupContext (env : NgSetupEnv) (s : GnbSetupState) (req : NgSetupRequestMsg) (gnbId : UInt32)
    (mcc mnc : Str) : GnbSetupContext :=
  { s.gc.store req gnbId mcc mnc with
    supportedTaList := s.gc.supportedTaList ++ commonItems env.plmnList req.getSupportedTaList }

variable (assoc s) in
theorem handleNgSetup_of_not_common (hid : req.globalGnbId = some (gnbId, mcc, mnc))
    (hno : ¬ HasCommon env.plmnList req) :
    handleNgSetup env assoc s req =
      (.failure .unknownPlmn, { s with gc := setupContext env s req gnbId mcc mnc }) := by
  have hfound := (not_congr (getCommonPlmn_fst_iff s.gc.supportedTaList)).mpr hno
  simp only [handleNgSetup, hid, GnbSetupContext.store_supportedTaList]
  exact if_pos (by simpa using hfound)

variable (assoc s) in
theorem handleNgSetup_of_common (hid : req.globalGnbId = some (gnbId, mcc, mnc))
    (hcommon : HasCommon env.plmnList req) :
    handleNgSetup env assoc s req =
      if env.encode (req.ueRetentionInformation = some 0) < 1 then
        (.failure .unspecified,
          { gc := setupContext env s req gnbId mcc mnc
            gnbid2gnb := Function.update s.gnbid2gnb gnbId (some assoc) })
      else
        (.response,
          { gc := { setupContext env s req gnbId mcc mnc with ngState := .ready }
            gnbid2gnb := Function.update s.gnbid2gnb gnbId (some assoc) }) := by
  have hfound := (getCommonPlmn_fst_iff s.gc.supportedTaList).mpr hcommon
  simp only [handleNgSetup, hid, GnbSetupContext.store_supportedTaList, hfound]
  rfl

theorem not_common_iff : ¬ HasCommon env.plmnList req ↔ ∀ k x, ¬ CommonAt env.plmnList req k x := by
  simp [HasCommon]

theorem setupMet_of_some (hid : req.globalGnbId = some (gnbId, mcc, mnc)) :
    SetupMet env s req ↔
      (HasCommon env.plmnList req ∧ 1 ≤ env.encode (req.ueRetentionInformation = some 0) ∧
          (∀ k, CommonTaPlmn env.plmnList req k →
            textsAt s.gc.supportedTaList k = [] ∧ OnceAt env.plmnList req k) ∧
          OffersCommon env.plmnList req s.gc.supportedTaList) ∨
        (∀ k, ¬ CommonTaPlmn env.plmnList req k) ∧ s.gc.store req gnbId mcc mnc = s.gc := by
  rw [SetupMet, hid]

/-- Nothing is stored exactly when nothing is appended and the rest is known. -/
theorem setupContext_eq_iff :
    setupContext env s req gnbId mcc mnc = s.gc ↔
      (∀ k, ¬ CommonTaPlmn env.plmnList req k) ∧ s.gc.store req gnbId mcc mnc = s.gc := by
  rw [← commonItems_eq_nil_iff]
  constructor
  · intro h
    have hlist : s.gc.supportedTaList ++ commonItems env.plmnList req.getSupportedTaList =
        s.gc.supportedTaList := congrArg GnbSetupContext.supportedTaList h
    have hnil := List.append_right_eq_self.mp hlist
    refine ⟨hnil, Eq.trans ?_ h⟩
    rw [setupContext, hnil, List.append_nil]
    rfl
  · rintro ⟨hnil, hstore⟩
    rw [setupContext, hnil, List.append_nil, hstore]

/-- **One setup** is right exactly when it meets the condition. -/
theorem setupRight_iff : SetupRight env assoc s req ↔ SetupMet env s req := by
  cases hid : req.globalGnbId with
  | none =>
    have hh : handleNgSetup env assoc s req = _ := handleNgSetup_of_none assoc s hid
    have hmet : SetupMet env s req ↔ ¬ HasCommon env.plmnList req := by rw [SetupMet, hid]
    rw [hmet, not_common_iff]
    constructor
    · intro h
      exact h.refused_iff.mp (by rw [hh]; nofun)
    · intro hno
      exact ⟨by rw [hh]; nofun, iff_of_true (by rw [hh]; nofun) hno, fun _ => by rw [hh]⟩
  | some id =>
    obtain ⟨gnbId, mcc, mnc⟩ := id
    rw [setupMet_of_some hid]
    by_cases hcommon : HasCommon env.plmnList req
    · have htaPlmn : ¬ ∀ k, ¬ CommonTaPlmn env.plmnList req k := by
        obtain ⟨k, x, hx⟩ := hcommon
        exact fun hno => hno k (commonTaPlmn_of_commonAt hx)
      have hnot := mt not_common_iff.mpr (not_not.mpr hcommon)
      by_cases hencode : env.encode (req.ueRetentionInformation = some 0) < 1
      -- The response is not encoded, after all has been stored.
      · have hh := (handleNgSetup_of_common assoc s hid hcommon).trans (if_pos hencode)
        refine iff_of_false (fun h => hnot (h.refused_iff.mp (by rw [hh]; nofun))) ?_
        rintro (⟨-, hle, -⟩ | ⟨hno, -⟩)
        · omega
        · exact htaPlmn hno
      · have hh := (handleNgSetup_of_common assoc s hid hcommon).trans (if_neg hencode)
        have hresponse : (handleNgSetup env assoc s req).1 = .response := by rw [hh]
        have hlist : (handleNgSetup env assoc s req).2.gc.supportedTaList =
            s.gc.supportedTaList ++ commonItems env.plmnList req.getSupportedTaList := by rw [hh]; rfl
        constructor
        · intro h
          have hexactly := h.accepted hresponse
          rw [hlist, exactlyCommon_iff] at hexactly
          exact .inl ⟨hcommon, by omega, hexactly⟩
        · rintro (⟨-, -, hexactly⟩ | ⟨hno, -⟩)
          · refine ⟨fun _ => ?_, iff_of_false (not_not.mpr hresponse) hnot, fun h => absurd hresponse h⟩
            rw [hlist, exactlyCommon_iff]
            exact hexactly
          · exact absurd hno htaPlmn
    · have hh := handleNgSetup_of_not_common assoc s hid hcommon
      have hrefused : (handleNgSetup env assoc s req).1 ≠ .response := by rw [hh]; nofun
      rw [← setupContext_eq_iff]
      constructor
      · intro h
        have hsame := h.refused hrefused
        rw [hh] at hsame
        exact .inr (congrArg GnbSetupState.gc hsame)
      · rintro (⟨h, -⟩ | hsame)
        · exact absurd h hcommon
        · refine ⟨fun h => absurd h hrefused, iff_of_true hrefused (not_common_iff.mp hcommon),
            fun _ => ?_⟩
          rw [hh, hsame]

end

/-! ## Sequences of setups -/

/-- The state after a request. -/
def afterNgSetup (env : NgSetupEnv) (assoc : SctpAssocId) (s : GnbSetupState) (req : NgSetupRequestMsg) :
    GnbSetupState := (handleNgSetup env assoc s req).2

/-- **Every setup of a sequence is right** exactly when each meets its condition. -/
theorem setupsRight_iff (env : NgSetupEnv) (assoc : SctpAssocId) (s : GnbSetupState)
    (reqs : List NgSetupRequestMsg) :
    Along (afterNgSetup env assoc) (SetupRight env assoc) s reqs ↔
      Along (afterNgSetup env assoc) (SetupMet env) s reqs :=
  ⟨Along.mono fun _ _ => setupRight_iff.mp, Along.mono fun _ _ => setupRight_iff.mpr⟩

/-- One PLMN with two slices. -/
def twoSlices : NgSetupEnv := ⟨[⟨"208".toList, "95".toList, 1, [⟨1, SD_NO_VALUE⟩, ⟨2, 10⟩]⟩], fun _ => 100⟩

/-- A gNB with the same slices. -/
def twoSlicesRequest : NgSetupRequestMsg :=
  ⟨some (1, "208".toList, "95".toList), none, [⟨1, [⟨"208".toList, "95".toList, [⟨1, none⟩, ⟨2, some 10⟩]⟩]⟩],
    .v32, none⟩

/-- A gNB of which nothing is known. -/
def newGnb : GnbSetupState := ⟨⟨[], 0, .init, [], [], .v32, [], none⟩, fun _ => none⟩

/-- The second of two equal setups stores the slices again. -/
theorem not_setupsRight : ¬ ∀ (env : NgSetupEnv) (assoc : SctpAssocId) (s : GnbSetupState)
    (reqs : List NgSetupRequestMsg), Along (afterNgSetup env assoc) (SetupRight env assoc) s reqs := by
  intro h
  obtain ⟨-, hsecond, -⟩ := h twoSlices 0 newGnb [twoSlicesRequest, twoSlicesRequest]
  have hnodup := (hsecond.accepted (by decide)).nodup (1, "208".toList, "95".toList)
    ⟨⟨_, List.mem_cons_self, rfl⟩, _, List.mem_cons_self, _, List.mem_cons_self, rfl⟩
  revert hnodup
  decide

end Oai5g.Amf
