import Oai5g.Amf.Security.Protection
import Oai5g.Lib.Numeral
import Oai5g.Lib.Run

/-!
# NAS contexts and their maps

`nas_context` and the five maps of `amf_n1`. A `shared_ptr<nas_context>` is the index of a cell of the
heap of contexts, so two maps can hold the same context.

The slices (`requested_nssai` and the like), the timers and the IMEISV are left out: they decide
nothing that is modelled.
-/

namespace Oai5g.Amf

/-- `_5gmm_state_t`. -/
inductive FivegmmState
  | invalid
  | deregistered
  | registered
  | deregisteredInitiated
  | commonProcedureInitiated
  deriving DecidableEq, Repr

/-- `cm_state_t`. -/
inductive CmState
  | idle
  | connected
  deriving DecidableEq, Repr

/-- `_5G_AV_t`: `rand`, `autn` and `hxresStar` of 16 octets, `kseaf` of 32. -/
structure AuthVector where
  rand : List UInt8
  autn : List UInt8
  hxresStar : List UInt8
  kseaf : List UInt8
  deriving DecidableEq, Repr

/-- `UeSecurityCapability`: the octets `EA` and `IA`. -/
structure UeSecurityCapability where
  ea : UInt8
  ia : UInt8
  deriving DecidableEq, Repr

/-- `INVALID_AMF_UE_NGAP_ID`. -/
def INVALID_AMF_UE_NGAP_ID : UInt64 := 0x010000000000

/-- `nas_context`. There is one authentication vector (`MAX_5GS_AUTH_VECTORS`), and `kamf` is
`kamf[0]`. -/
structure NasContext where
  ctxAvaliabilityInd : Bool
  amfUeNgapId : UInt64
  ranUeNgapId : UInt32
  oldAmfUeNgapId : UInt64
  oldRanUeNgapId : UInt32
  nasStatus : CmState
  fivegmmState : FivegmmState
  registrationType : UInt8
  followOnReqPendingInd : Bool
  ngksi : UInt8
  imsi : Str
  guti : Option Str
  fivegmmCapability : UInt8
  ueSecurityCapability : UeSecurityCapability
  registrationRequest : Bstring
  registrationRequestIsSet : Bool
  servingNetwork : Str
  auts : Bstring
  isSpecificProcedureForRegistrationRunning : Bool
  isCommonProcedureForAuthenticationRunning : Bool
  isCommonProcedureForIdentificationRunning : Bool
  isCommonProcedureForSecurityModeControlRunning : Bool
  isCommonProcedureForNasTransportRunning : Bool
  fivegAv : AuthVector
  href : Str
  kamf : List UInt8
  securityCtx : Option NasSecuCtx
  isCurrentSecurityAvailable : Bool
  isImsiPresent : Bool
  is5gGutiPresent : Bool
  isAuthVectorsPresent : Bool
  toBeRegisterByNewSuci : Bool
  deriving DecidableEq, Repr

/-- The constructor of `nas_context`. -/
def NasContext.new : NasContext :=
  { ctxAvaliabilityInd := false, amfUeNgapId := INVALID_AMF_UE_NGAP_ID, ranUeNgapId := 0,
    oldAmfUeNgapId := INVALID_AMF_UE_NGAP_ID, oldRanUeNgapId := 0, nasStatus := .idle,
    fivegmmState := .invalid, registrationType := 0, followOnReqPendingInd := false, ngksi := 0,
    imsi := [], guti := none, fivegmmCapability := 0, ueSecurityCapability := ⟨0, 0⟩,
    registrationRequest := none, registrationRequestIsSet := false, servingNetwork := [],
    auts := none, isSpecificProcedureForRegistrationRunning := false,
    isCommonProcedureForAuthenticationRunning := false,
    isCommonProcedureForIdentificationRunning := false,
    isCommonProcedureForSecurityModeControlRunning := false,
    isCommonProcedureForNasTransportRunning := false,
    fivegAv := ⟨List.replicate 16 0, List.replicate 16 0, List.replicate 16 0, List.replicate 32 0⟩,
    href := [], kamf := List.replicate 32 0, securityCtx := none, isCurrentSecurityAvailable := false,
    isImsiPresent := false, is5gGutiPresent := false, isAuthVectorsPresent := false,
    toBeRegisterByNewSuci := false }

namespace NasContext

/-- `nas_context::get_kamf`: only the first of `MAX_5GS_AUTH_VECTORS` vectors is there. -/
def getKamf (nc : NasContext) (index : ℕ) : Option (List UInt8) :=
  if 1 ≤ index % 2 ^ 8 then none else some nc.kamf

/-- A change of the security context, where there is one. -/
def mapSecurityCtx (nc : NasContext) (f : NasSecuCtx → NasSecuCtx) : NasContext :=
  { nc with securityCtx := nc.securityCtx.map f }

end NasContext

/-- `amf_conv::imsi_to_supi`, with `DEFAULT_SUPI_TYPE`. -/
def imsiToSupi (imsi : Str) : Str := "imsi-".toList ++ imsi

/-- The SUPI of a context. -/
def NasContext.supi (nc : NasContext) : Str := imsiToSupi nc.imsi

/-- The NAS contexts and the maps `amfueid2nas_context`, `guti2nas_context`, `supi2nas_context`,
`supi2amfId` and `supi2ranId`. -/
@[ext] structure NasMaps where
  ncs : Heap NasContext
  amfueid2nasContext : UInt64 → Option ℕ
  guti2nasContext : Str → Option ℕ
  supi2nasContext : Str → Option ℕ
  supi2amfId : Str → Option UInt64
  supi2ranId : Str → Option UInt32

namespace NasMaps

/-- `amf_n1::amf_n1` starts with empty maps. -/
def empty : NasMaps :=
  { ncs := ⟨fun _ => NasContext.new, 0⟩, amfueid2nasContext := fun _ => none,
    guti2nasContext := fun _ => none, supi2nasContext := fun _ => none,
    supi2amfId := fun _ => none, supi2ranId := fun _ => none }

/-- The context behind a pointer. -/
def nc (m : NasMaps) (r : ℕ) : NasContext := m.ncs.cell r

/-- A write to the context of a pointer. -/
def modifyNc (m : NasMaps) (r : ℕ) (f : NasContext → NasContext) : NasMaps :=
  { m with ncs := m.ncs.modify r f }

/-- `set_amf_ue_ngap_id_2_nas_context` -/
def setAmfUeNgapId2NasContext (m : NasMaps) (id : UInt64) (r : ℕ) : NasMaps :=
  { m with amfueid2nasContext := Function.update m.amfueid2nasContext id (some r) }

/-- `remove_amf_ue_ngap_id_2_nas_context` -/
def removeAmfUeNgapId2NasContext (m : NasMaps) (id : UInt64) : NasMaps :=
  { m with amfueid2nasContext := Function.update m.amfueid2nasContext id none }

/-- `set_guti_2_nas_context` -/
def setGuti2NasContext (m : NasMaps) (guti : Str) (r : ℕ) : NasMaps :=
  { m with guti2nasContext := Function.update m.guti2nasContext guti (some r) }

/-- `remove_guti_2_nas_context` -/
def removeGuti2NasContext (m : NasMaps) (guti : Str) : NasMaps :=
  { m with guti2nasContext := Function.update m.guti2nasContext guti none }

/-- `set_supi_2_nas_context` -/
def setSupi2NasContext (m : NasMaps) (supi : Str) (r : ℕ) : NasMaps :=
  { m with supi2nasContext := Function.update m.supi2nasContext supi (some r) }

/-- `remove_supi_2_nas_context` -/
def removeSupi2NasContext (m : NasMaps) (supi : Str) : NasMaps :=
  { m with supi2nasContext := Function.update m.supi2nasContext supi none }

/-- `set_supi_2_amf_id` -/
def setSupi2AmfId (m : NasMaps) (supi : Str) (id : UInt64) : NasMaps :=
  { m with supi2amfId := Function.update m.supi2amfId supi (some id) }

/-- `set_supi_2_ran_id` -/
def setSupi2RanId (m : NasMaps) (supi : Str) (id : UInt32) : NasMaps :=
  { m with supi2ranId := Function.update m.supi2ranId supi (some id) }

end NasMaps

end Oai5g.Amf
