import Oai5g.Lib.Memory
import Oai5g.Lib.Numeral

/-!
# 5G-GUTIs and the keys built from them

A NAS context is found again by a string made of its 5G-GUTI. The string is built in
`security_mode_complete_handle` when the GUTI is allocated, and again whenever the UE presents it: in
a Registration or De-registration Request, in a Service Request and as NGAP 5G-S-TMSI.

* `PlmnId`, `AmfId`, `Guti`: an allocated GUTI; invalid digits and identifiers cannot be built.
* `FiveGGuti`, `encode5gGuti`, `decode5gGuti`: the GUTI on its way to the UE and back.
* `storedKey`, `registrationKey`, `deregistrationKey`, `serviceKey`, `ngapKey`: the five keys.
-/

namespace Oai5g.Amf

open Numeral

/-! ## Identifiers -/

/-- `PlmnId`: three MCC digits and two or three MNC digits; `mncDigit3 = none` is the filler `0xf`. -/
structure PlmnId where
  mccDigit1 : Fin 10
  mccDigit2 : Fin 10
  mccDigit3 : Fin 10
  mncDigit1 : Fin 10
  mncDigit2 : Fin 10
  mncDigit3 : Option (Fin 10)
  deriving DecidableEq, Repr

namespace PlmnId

/-- The number `PlmnId::getMcc` prints. -/
def mccValue (p : PlmnId) : ℕ := p.mccDigit1 * 100 + p.mccDigit2 * 10 + p.mccDigit3

/-- `PlmnId::getMcc`. -/
def getMcc (p : PlmnId) : Str :=
  let mcc := dec p.mccValue
  if p.mccDigit2 = 0 ∧ p.mccDigit1 = 0 then '0' :: '0' :: mcc
  else if p.mccDigit1 = 0 then '0' :: mcc
  else mcc

/-- The number `PlmnId::getMnc` prints. -/
def mncValue (p : PlmnId) : ℕ :=
  match p.mncDigit3 with
  | none => p.mncDigit1 * 10 + p.mncDigit2
  | some d => d * 100 + p.mncDigit1 * 10 + p.mncDigit2

/-- `PlmnId::getMnc`: only the two-digit form is padded. -/
def getMnc (p : PlmnId) : Str :=
  match p.mncDigit3 with
  | none => if p.mncDigit1 = 0 then '0' :: dec p.mncValue else dec p.mncValue
  | some _ => dec p.mncValue

end PlmnId

/-- An AMF identifier: region (8 bits), set (10 bits) and pointer (6 bits). -/
structure AmfId where
  regionId : ℕ
  amfSetId : ℕ
  amfPointer : ℕ
  regionId_lt : regionId < 2 ^ 8
  amfSetId_lt : amfSetId < 2 ^ 10
  amfPointer_lt : amfPointer < 2 ^ 6
  deriving DecidableEq

/-- An allocated 5G-GUTI. -/
structure Guti where
  plmn : PlmnId
  amf : AmfId
  tmsi : UInt32
  deriving DecidableEq

/-! ## `amf_conv` -/

/-- `amf_conv::tmsi_to_string`, also `conv::tmsi_to_string`: as many zeros as the hexadecimal numeral
lacks to eight digits, then the decimal numeral. -/
def tmsiToString (tmsi : UInt32) : Str :=
  List.replicate (8 - (Nat.toDigits 16 tmsi.toNat).length) '0' ++ dec tmsi.toNat

/-- `amf_conv::get_amf_id`. -/
def getAmfId (amfRegionId amfSetId amfPointer : ℕ) : ℕ :=
  0x00ffffff &&& (amfRegionId <<< 16 ||| (amfSetId &&& 0x03ff) <<< 6 ||| (amfPointer &&& 0x3f))

/-- `amf_conv::tmsi_to_guti` on an AMF identifier. -/
def tmsiToGuti (mcc mnc : Str) (regionId amfSetId amfPointer : ℕ) (tmsi : Str) : Str :=
  mcc ++ mnc ++ hex 6 (getAmfId regionId amfSetId amfPointer) ++ tmsi

/-- `amf_conv::tmsi_to_guti` on a 5G-S-TMSI. -/
def sTmsiToGuti (mcc mnc : Str) (regionId : ℕ) (sTmsi : Str) : Str :=
  mcc ++ mnc ++ hex 2 regionId ++ sTmsi

/-! ## The GUTI in NAS messages -/

/-- `_5G_GUTI_t`; the set identifier has 8 bits. -/
structure FiveGGuti where
  mcc : Str
  mnc : Str
  amfRegionId : UInt8
  amfSetId : UInt8
  amfPointer : UInt16
  tmsi : UInt32
  deriving DecidableEq, Repr

/-- `_5gsMobileIdentity::Set5gGuti`. -/
def set5gGuti (mcc mnc : Str) (amfRegionId amfSetId amfPointer : ℕ) (tmsi : UInt32) : FiveGGuti :=
  { mcc, mnc, amfRegionId := UInt8.ofNat amfRegionId, amfSetId := UInt8.ofNat amfSetId,
    amfPointer := UInt16.ofNat amfPointer, tmsi }

/-- `nas_utils::encodeMccMnc2Buffer`. -/
def encodeMccMnc2Buffer (mccStr mncStr : Str) : List UInt8 :=
  let mcc := ofDec mccStr
  let mnc := ofDec mncStr
  if mnc / 100 = 0 then
    [nibbles (mcc / 100) (mcc % 100 / 10), nibbles (mcc % 10) 0xf,
      nibbles (mnc % 100 / 10) (mnc % 10)]
  else
    [nibbles (mcc / 100) (mcc % 100 / 10), nibbles (mcc % 10) (mnc % 10),
      nibbles (mnc / 100) (mnc % 100 / 10)]

/-- `nas_utils::decodeMccMncFromBuffer` on three octets. -/
def decodeMccMncFromBuffer (o₁ o₂ o₃ : UInt8) : Str × Str :=
  let mcc := o₁.toNat % 16 * 100 + o₁.toNat / 16 * 10 + o₂.toNat % 16
  let mnc := if o₂.toNat / 16 = 0xf then o₃.toNat % 16 * 10 + o₃.toNat / 16
    else o₂.toNat / 16 + (o₃.toNat % 16 * 100 + o₃.toNat / 16 * 10)
  (if mcc < 10 then '0' :: '0' :: dec mcc else if mcc < 100 then '0' :: dec mcc else dec mcc,
    if mnc < 10 then '0' :: dec mnc else dec mnc)

/-- The octets of `_5gsMobileIdentity::Encode5gGuti` behind IEI and length: type of identity, PLMN,
region, set and pointer, TMSI. -/
def encode5gGuti (g : FiveGGuti) : List UInt8 :=
  0xf2 :: encodeMccMnc2Buffer g.mcc g.mnc ++ g.amfRegionId :: UInt8.ofNat (g.amfSetId.toNat / 4) ::
    UInt8.ofNat (g.amfPointer.toNat % 64 + g.amfSetId.toNat % 4 * 64) :: be32 g.tmsi

/-- `_5gsMobileIdentity::Decode5gGuti` on the same octets. `octet << 2` is assigned to 8 bits. -/
def decode5gGuti : List UInt8 → Option FiveGGuti
  | [_, o₁, o₂, o₃, region, setHigh, setLow, t₁, t₂, t₃, t₄] =>
    let (mcc, mnc) := decodeMccMncFromBuffer o₁ o₂ o₃
    some { mcc, mnc, amfRegionId := region,
           amfSetId := UInt8.ofNat (setHigh.toNat * 4 + setLow.toNat / 64),
           amfPointer := UInt16.ofNat (setLow.toNat % 64), tmsi := ofBe32 t₁ t₂ t₃ t₄ }
  | _ => none

/-- `Get5gGuti` of a Registration Request and of a De-registration Request. -/
def get5gGuti (g : FiveGGuti) : Str :=
  g.mcc ++ g.mnc ++ dec g.amfRegionId.toNat ++ dec g.amfSetId.toNat ++ dec g.amfPointer.toNat ++
    tmsiToString g.tmsi

/-- The 5G-S-TMSI: AMF set identifier, AMF pointer and TMSI as read from its six octets by
`_5gsMobileIdentity::Decode5gSTmsi` and by the NGAP `FiveGSTmsi::decode`. -/
def decode5gSTmsi : List UInt8 → Option (ℕ × ℕ × UInt32)
  | [setHigh, setLow, t₁, t₂, t₃, t₄] =>
    some (setHigh.toNat * 4 + setLow.toNat / 64, setLow.toNat % 64, ofBe32 t₁ t₂ t₃ t₄)
  | _ => none

/-- `m_5gSTmsi` of `FiveGSTmsi::decode`. -/
def fiveGSTmsi (amfSetId amfPointer : ℕ) (tmsi : UInt32) : Str :=
  hex 4 ((amfSetId &&& 0x03ff) <<< 6 ||| (amfPointer &&& 0x3f)) ++ tmsiToString tmsi

/-! ## The five keys -/

/-- The identity octets the UE was given in the Registration Accept. -/
def Guti.octets (g : Guti) : List UInt8 :=
  encode5gGuti (set5gGuti g.plmn.getMcc g.plmn.getMnc g.amf.regionId g.amf.amfSetId g.amf.amfPointer
    g.tmsi)

/-- The key under which `security_mode_complete_handle` stores the NAS context. -/
def storedKey (g : Guti) : Str :=
  tmsiToGuti g.plmn.getMcc g.plmn.getMnc g.amf.regionId g.amf.amfSetId g.amf.amfPointer
    (tmsiToString g.tmsi)

/-- `Get5gGuti` of a message in which the UE presents its GUTI. -/
def presentedKey (g : Guti) : Str := ((decode5gGuti g.octets).map get5gGuti).getD []

/-- `RegistrationRequest::Get5gGuti`. -/
def registrationKey (g : Guti) : Str := presentedKey g

/-- `DeregistrationRequest::Get5gGuti`. -/
def deregistrationKey (g : Guti) : Str := presentedKey g

/-- `service_request_handle` when the UE presents the 5G-S-TMSI of its GUTI, the last six octets. -/
def serviceKey (g : Guti) : Str :=
  ((decode5gSTmsi (g.octets.drop 5)).map fun (amfSetId, amfPointer, tmsi) =>
    tmsiToGuti g.plmn.getMcc g.plmn.getMnc g.amf.regionId amfSetId amfPointer
      (tmsiToString tmsi)).getD []

/-- `amf_app::handle_itti_message(itti_nas_signalling_establishment_request&)` when the gNB forwards
the 5G-S-TMSI. -/
def ngapKey (g : Guti) : Str :=
  ((decode5gSTmsi (g.octets.drop 5)).map fun (amfSetId, amfPointer, tmsi) =>
    sTmsiToGuti g.plmn.getMcc g.plmn.getMnc g.amf.regionId
      (fiveGSTmsi amfSetId amfPointer tmsi)).getD []

end Oai5g.Amf
