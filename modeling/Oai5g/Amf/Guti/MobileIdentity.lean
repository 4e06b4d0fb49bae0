import Oai5g.Amf.Guti.Lookup

/-!
# The 5GS mobile identity

* `FiveGsMobileIdentity`: the information element, with its setters, `encode` and `decode`.
* `Identity`: a 5G-GUTI, a SUCI with an IMSI, a 5G-S-TMSI or an IMEISV, given by its digits and numbers.
* **`readsBack_iff_kept`**: which identities are read back from their octets.
-/

namespace Oai5g.Amf

open Numeral
open Nat (digitChar)

/-! ## The information element -/

/-- Type of identity: SUCI. -/
def kSuci : UInt8 := 1

/-- Type of identity: 5G-GUTI. -/
def k5gGuti : UInt8 := 2

/-- Type of identity: 5G-S-TMSI. -/
def k5gSTmsi : UInt8 := 4

/-- Type of identity: IMEISV. -/
def kImeisv : UInt8 := 5

/-- `SUCI_imsi_t` -/
structure SuciImsi where
  mcc : Str
  mnc : Str
  routingIndicator : Option Str
  protectionSchemeId : ℕ
  homeNetworkPki : UInt8
  msin : Str
  deriving DecidableEq, Repr

/-- `_5G_S_TMSI_t` -/
structure FiveGSTmsi where
  amfSetId : ℕ
  amfPointer : ℕ
  tmsi : Str
  deriving DecidableEq, Repr

/-- `_5gsMobileIdentity`, with IEI and length indicator. -/
structure FiveGsMobileIdentity where
  iei : Option UInt8
  li : ℕ
  typeOfIdentity : UInt8
  fiveGGuti : Option FiveGGuti
  supiFormatImsi : Option SuciImsi
  fiveGSTmsi : Option FiveGSTmsi
  imeisv : Option Str
  deriving DecidableEq, Repr

namespace FiveGsMobileIdentity

/-- The constructors, without and with an IEI. -/
def new (iei : Option UInt8) : FiveGsMobileIdentity := ⟨iei, 0, 0, none, none, none, none⟩

/-- `ClearIe` -/
def clearIe (ie : FiveGsMobileIdentity) : FiveGsMobileIdentity :=
  { ie with fiveGGuti := none, supiFormatImsi := none, fiveGSTmsi := none, imeisv := none }

/-- `Set5gGuti` of the IE. -/
def set5gGuti (ie : FiveGsMobileIdentity) (mcc mnc : Str) (amfRegionId amfSetId amfPointer : ℕ) (tmsi : UInt32) :
    FiveGsMobileIdentity :=
  { ie.clearIe with
    typeOfIdentity := k5gGuti
    fiveGGuti := some (Amf.set5gGuti mcc mnc amfRegionId amfSetId amfPointer tmsi)
    li := 11 }

/-- The IEI becomes 0. -/
def setSuciWithSupiImsi (ie : FiveGsMobileIdentity) (mcc mnc routingInd : Str) (protectionSchId : ℕ) (msin : Str) :
    FiveGsMobileIdentity :=
  { ie.clearIe with
    iei := some 0
    typeOfIdentity := kSuci
    supiFormatImsi := some ⟨mcc, mnc, some routingInd, protectionSchId % 16, 0, msin⟩
    li := 10 + msin.length / 2 }

/-- `Set5gSTmsi` of the IE. -/
def set5gSTmsi (ie : FiveGsMobileIdentity) (amfSetId amfPointer : ℕ) (tmsi : Str) : FiveGsMobileIdentity :=
  { ie.clearIe with
    typeOfIdentity := k5gSTmsi
    fiveGSTmsi := some ⟨amfSetId % 2 ^ 16, amfPointer % 2 ^ 8, tmsi⟩
    li := 7 }

/-- The type of identity is not set. -/
def setImeisv (ie : FiveGsMobileIdentity) (identity : Str) : FiveGsMobileIdentity :=
  { ie.clearIe with imeisv := some identity }

/-! ## Encode -/

/-- `GetHeaderLength` -/
def headerLength (ie : FiveGsMobileIdentity) : ℕ := if ie.iei.isSome then 3 else 2

end FiveGsMobileIdentity

/-- Two octets, the upper one first. -/
def be16 (n : ℕ) : List UInt8 := [UInt8.ofNat (n / 256), UInt8.ofNat n]

/-- `conv::string_to_int8` on a digit. -/
def stringToInt8 (str : Str) : ℕ := ofDec str % 256

/-- `std::string::substr` -/
def substr (str : Str) (pos n : ℕ) : Str := (str.drop pos).take n

/-- `utils::fromString<int>` on a string without blank and sign: the digits in front, at most `INT_MAX`. -/
def fromStringInt (str : Str) : ℕ := min (ofDec (str.takeWhile Char.isDigit)) (2 ^ 31 - 1)

/-- `EncodeRoutingIndicator` -/
def encodeRoutingIndicator : Option Str → List UInt8
  | none => [0xf0, 0xff]
  | some s =>
    let rooutid := ofDec s
    match s.length with
    | 1 => [nibbles rooutid 0xf, 0xff]
    | 2 => [nibbles (rooutid / 10) (rooutid % 10), 0xff]
    | 3 => [nibbles (rooutid / 100) (rooutid % 100 / 10), nibbles (rooutid % 10) 0xf]
    | 4 => [nibbles (rooutid / 1000) (rooutid % 1000 / 100), nibbles (rooutid % 100 / 10) (rooutid % 10)]
    | _ => []

/-- The octets of an MSIN in `EncodeSuci`. The loop takes the digits `i` and `i + 1`. -/
def encodeMsin (msin : Str) : List UInt8 :=
  ((List.range (msin.length / 2)).map fun i =>
      nibbles (stringToInt8 (substr msin i 1)) (stringToInt8 (substr msin (i + 1) 1))) ++
    if msin.length % 2 ≠ 0 then [nibbles (stringToInt8 (substr msin (msin.length - 1) 1)) 0xf] else []

/-- `EncodeSuci` behind IEI and length. -/
def encodeSuci (s : SuciImsi) : List UInt8 :=
  1 :: encodeMccMnc2Buffer s.mcc s.mnc ++ encodeRoutingIndicator s.routingIndicator ++
    UInt8.ofNat s.protectionSchemeId :: s.homeNetworkPki :: encodeMsin s.msin

/-- `Encode5gSTmsi` behind IEI and length. -/
def encode5gSTmsi (s : FiveGSTmsi) : List UInt8 :=
  0xf4 :: UInt8.ofNat (s.amfSetId % 1024 / 4) :: UInt8.ofNat (s.amfPointer % 64 + s.amfSetId % 4 * 64) ::
    be32 (UInt32.ofNat (fromStringInt s.tmsi))

/-- The turns of the loop of `EncodeImeisv` after the first. -/
def encodeImeisvPairs : Str → List UInt8
  | [] => []
  | [d] => [nibbles (stringToInt8 [d]) 0xf]
  | d :: e :: identity => nibbles (stringToInt8 [d]) (stringToInt8 [e]) :: encodeImeisvPairs identity

/-- `EncodeImeisv` behind IEI and length. -/
def encodeImeisv : Str → List UInt8
  | [] => []
  | d :: identity => nibbles 5 (stringToInt8 [d]) :: encodeImeisvPairs identity

namespace FiveGsMobileIdentity

/-- IEI, length and value; `none` when the buffer is too short for the length indicator. -/
def encodeTlv (ie : FiveGsMobileIdentity) (len length : ℕ) (value : List UInt8) : Option (List UInt8) :=
  if len < ie.headerLength + ie.li then none else some (ie.iei.toList ++ be16 length ++ value)

/-- `Encode` into a buffer of this length; `none` for `KEncodeDecodeError` and for an exception. -/
def encode (ie : FiveGsMobileIdentity) (len : ℕ) : Option (List UInt8) :=
  if ie.typeOfIdentity = kSuci then
    ie.supiFormatImsi.bind fun s => ie.encodeTlv len (encodeSuci s).length (encodeSuci s)
  else if ie.typeOfIdentity = k5gGuti then
    -- the log line reads the IEI
    ie.iei.bind fun _ => ie.fiveGGuti.bind fun g => ie.encodeTlv len (encode5gGuti g).length (encode5gGuti g)
  else if ie.typeOfIdentity = kImeisv then
    ie.imeisv.bind fun identity => ie.encodeTlv len (encodeImeisv identity).length (encodeImeisv identity)
  else if ie.typeOfIdentity = k5gSTmsi then
    -- the length indicator as it was set
    ie.fiveGSTmsi.bind fun s => ie.encodeTlv len ie.li (encode5gSTmsi s)
  else none

end FiveGsMobileIdentity

/-! ## Decode -/

/-- The loop over the digits of a routing indicator. -/
def routingIndicatorDigits : List ℕ → Str
  | [] => []
  | d :: ds => if d ≤ 9 then dec d ++ routingIndicatorDigits ds else if d = 0xf then [] else routingIndicatorDigits ds

/-- The routing indicator of two octets; four F digits are none. -/
def decodeRoutingIndicator (o₁ o₂ : UInt8) : Option Str :=
  if o₁.toNat % 16 = 0 ∧ o₁.toNat / 16 = 0xf ∧ o₂.toNat % 16 = 0xf ∧ o₂.toNat / 16 = 0xf then none
  else some (routingIndicatorDigits [o₁.toNat % 16, o₁.toNat / 16, o₂.toNat % 16, o₂.toNat / 16])

/-- The MSIN of some octets. -/
def decodeMsin : List UInt8 → Str
  | [] => []
  | [o] => if o.toNat / 16 ≠ 0xf then dec (o.toNat % 16) ++ dec (o.toNat / 16) else dec (o.toNat % 16)
  | o :: os => dec (o.toNat % 16) ++ dec (o.toNat / 16) ++ decodeMsin os

/-- `DecodeSuci`: the octets that are read and the SUCI. At least one octet is read for the MSIN. -/
def decodeSuci (buf : List UInt8) (ieLen : ℕ) : Option (ℕ × Option SuciImsi) :=
  match buf with
  | [] => none
  | o :: buf =>
    if o.toNat / 16 % 8 ≠ 0 then some (1, none)
    else
      match buf with
      | o₁ :: o₂ :: o₃ :: r₁ :: r₂ :: scheme :: pki :: buf =>
        let numMsin := max (ieLen - 8) 1
        if buf.length < numMsin then none
        else
          let (mcc, mnc) := decodeMccMncFromBuffer o₁ o₂ o₃
          some (8 + numMsin, some ⟨mcc, mnc, decodeRoutingIndicator r₁ r₂, scheme.toNat % 16, pki,
            decodeMsin (buf.take numMsin)⟩)
      | _ => none

/-- The octets of an IMEISV after the first. -/
def decodeImeisvPairs : List UInt8 → Str
  | [] => []
  | [o] => dec (o.toNat % 16)
  | o :: os => dec (o.toNat % 16) ++ dec (o.toNat / 16) ++ decodeImeisvPairs os

/-- `DecodeImeisv` -/
def decodeImeisv : List UInt8 → Str
  | [] => []
  | o :: os => dec (o.toNat / 16) ++ decodeImeisvPairs os

namespace FiveGsMobileIdentity

/-- The value of `Decode`, behind IEI and length; `none` when the type is not known or when octets behind the buffer
are read. -/
def decodeValue (ie : FiveGsMobileIdentity) (buf : List UInt8) : Option (ℕ × FiveGsMobileIdentity) :=
  match buf.head? with
  | none => none
  | some octet =>
    let type := octet.toNat % 8
    if type = 1 then
      (decodeSuci buf ie.li).map fun (n, s) =>
        (n, { ie with typeOfIdentity := kSuci, supiFormatImsi := s.or ie.supiFormatImsi })
    else if type = 2 then
      (decode5gGuti (buf.take 11)).map fun g => (11, { ie with typeOfIdentity := k5gGuti, fiveGGuti := some g })
    else if type = 4 then
      (decode5gSTmsi ((buf.drop 1).take 6)).map fun (setId, pointer, tmsi) =>
        (7, { ie with typeOfIdentity := k5gSTmsi, fiveGSTmsi := some ⟨setId, pointer, tmsiToString tmsi⟩ })
    else if type = 5 then
      if buf.length < ie.li then none
      else some (ie.li, { ie with typeOfIdentity := kImeisv, imeisv := some (decodeImeisv (buf.take ie.li)) })
    else none

/-- `Decode` of a buffer; `none` for `KEncodeDecodeError` and 0, too. -/
def decode (ie : FiveGsMobileIdentity) (buf : List UInt8) (isIei : Bool) : Option (ℕ × FiveGsMobileIdentity) :=
  if buf.length < ie.headerLength then none
  else
    let ie := if isIei then { ie with iei := buf.head? } else ie
    match if isIei then buf.drop 1 else buf with
    | l₁ :: l₂ :: value =>
      let ie := { ie with li := l₁.toNat * 256 + l₂.toNat }
      if buf.length < ie.headerLength + ie.li then none
      else (ie.decodeValue value).map fun (n, read) => (ie.headerLength + n, read)
    | _ => none

end FiveGsMobileIdentity

/-! ## Identities -/

/-- Decimal digits, the first one first. -/
abbrev Digits : Type := List (Fin 10)

/-- The digits as characters. -/
def Digits.print (ds : Digits) : Str := ds.map fun d => digitChar d.val

/-- The number that the digits write. -/
def Digits.value (ds : Digits) : ℕ := ds.foldl (fun n d => 10 * n + d.val) 0

/-- MCC and MNC by their digits. -/
structure PlmnDigits where
  mcc : Digits
  mnc : Digits
  length_mcc : mcc.length = 3
  length_mnc : mnc.length = 2 ∨ mnc.length = 3

/-- A 5G-S-TMSI has its 5G-TMSI as a string, in whatever base. -/
inductive Identity
  | fiveGGuti (plmn : PlmnDigits) (amfRegionId : Fin 256) (amfSetId : Fin 1024) (amfPointer : Fin 64) (tmsi : UInt32)
  | suci (plmn : PlmnDigits) (routingIndicator : Digits) (protectionSchemeId : Fin 16) (msin : Digits)
      (hrouting : 1 ≤ routingIndicator.length ∧ routingIndicator.length ≤ 4)
      (hmsin : 1 ≤ msin.length ∧ msin.length ≤ 10)
  | fiveGSTmsi (amfSetId : Fin 1024) (amfPointer : Fin 64) (tmsi : Str)
      (htmsi : tmsi ≠ [] ∧ ∀ c ∈ tmsi, '0' ≤ c ∧ c ≤ '9' ∨ 'A' ≤ c ∧ c ≤ 'F' ∨ 'a' ≤ c ∧ c ≤ 'f')
  | imeisv (digits : Digits) (hdigits : digits.length = 16)

namespace FiveGsMobileIdentity

/-- The setter of the identity. -/
def store (ie : FiveGsMobileIdentity) : Identity → FiveGsMobileIdentity
  | .fiveGGuti plmn region setId pointer tmsi =>
    ie.set5gGuti plmn.mcc.print plmn.mnc.print region.val setId.val pointer.val tmsi
  | .suci plmn routing scheme msin _ _ =>
    ie.setSuciWithSupiImsi plmn.mcc.print plmn.mnc.print routing.print scheme.val msin.print
  | .fiveGSTmsi setId pointer tmsi _ => ie.set5gSTmsi setId.val pointer.val tmsi
  | .imeisv digits _ => ie.setImeisv digits.print

/-- The information element has this identity. No routing indicator is the routing indicator 0. -/
def Holds (ie : FiveGsMobileIdentity) : Identity → Prop
  | .fiveGGuti plmn region setId pointer tmsi =>
    ie.typeOfIdentity = k5gGuti ∧ ∃ g, ie.fiveGGuti = some g ∧ g.mcc = plmn.mcc.print ∧ g.mnc = plmn.mnc.print ∧
      g.amfRegionId.toNat = region.val ∧ g.amfSetId.toNat = setId.val ∧ g.amfPointer.toNat = pointer.val ∧
      g.tmsi = tmsi
  | .suci plmn routing scheme msin _ _ =>
    ie.typeOfIdentity = kSuci ∧ ∃ s, ie.supiFormatImsi = some s ∧ s.mcc = plmn.mcc.print ∧ s.mnc = plmn.mnc.print ∧
      s.routingIndicator.getD ['0'] = routing.print ∧ s.protectionSchemeId = scheme.val ∧ s.msin = msin.print
  | .fiveGSTmsi setId pointer tmsi _ =>
    ie.typeOfIdentity = k5gSTmsi ∧ ie.fiveGSTmsi = some ⟨setId.val, pointer.val, tmsi⟩
  | .imeisv digits _ => ie.typeOfIdentity = kImeisv ∧ ie.imeisv = some digits.print

/-- What `encode` writes, `decode` reads as this identity, to the last octet. -/
def ReadsBack (ie : FiveGsMobileIdentity) (len : ℕ) (identity : Identity) : Prop :=
  ∃ buf, ie.encode len = some buf ∧ ∃ ie', (new none).decode buf ie.iei.isSome = some (buf.length, ie') ∧
    ie'.Holds identity

end FiveGsMobileIdentity

/-- The MNC has two digits or does not begin with 0. -/
def PlmnDigits.MncKept (plmn : PlmnDigits) : Prop := plmn.mnc.length = 2 ∨ plmn.mnc.head? ≠ some 0

/-- From the second one on, the digits that the loop takes in pairs are the same. -/
def MsinKept (msin : Digits) : Prop := ∀ i, 1 ≤ i → i < 2 * (msin.length / 2) → msin[i]? = msin[1]?

/-- The identities that are kept, in an element that was made with or without IEI. -/
def Identity.Kept (iei : Option UInt8) : Identity → Prop
  | .fiveGGuti plmn _ setId _ _ => iei.isSome ∧ plmn.MncKept ∧ setId.val < 256
  | .suci plmn _ _ msin _ _ => plmn.MncKept ∧ MsinKept msin
  | .fiveGSTmsi _ _ tmsi _ => ∃ n : UInt32, n.toNat < 2 ^ 31 ∧ tmsi = tmsiToString n
  | .imeisv _ _ => False

/-! ## Digits -/

theorem ofDigitChars_print (ds : Digits) (n : ℕ) :
    Nat.ofDigitChars 10 ds.print n = ds.foldl (fun n d => 10 * n + d.val) n := by
  induction ds generalizing n with
  | nil => simp [Digits.print]
  | cons d ds ih =>
    simp only [Digits.print, List.map_cons, List.foldl_cons] at ih ⊢
    rw [Nat.ofDigitChars_cons_digitChar_of_lt_ten d.isLt, ih]

theorem ofDec_print (ds : Digits) : ofDec ds.print = ds.value := ofDigitChars_print ds 0

theorem dec_digit (d : Fin 10) : dec d.val = [digitChar d.val] := dec_of_lt_ten d.isLt

theorem padMcc_value (a b c : Fin 10) : padMcc (Digits.value [a, b, c]) = Digits.print [a, b, c] := by
  have hval : Digits.value [a, b, c] = 100 * a.val + 10 * b.val + c.val := by
    simp only [Digits.value, List.foldl_cons, List.foldl_nil]
    omega
  rw [hval]
  simp only [Digits.print, List.map_cons, List.map_nil]
  unfold padMcc
  split_ifs with h₁ h₂
  · have ha : a.val = 0 := by omega
    have hb : b.val = 0 := by omega
    rw [ha, hb, dec_of_lt_ten (by omega), show 100 * 0 + 10 * 0 + c.val = c.val by omega]
    rfl
  · have ha : a.val = 0 := by omega
    rw [dec_of_lt_hundred (by omega) h₂, ha, show (100 * 0 + 10 * b.val + c.val) / 10 = b.val by omega,
      show (100 * 0 + 10 * b.val + c.val) % 10 = c.val by omega]
    rfl
  · rw [dec_of_lt_thousand (by omega) (by omega), show (100 * a.val + 10 * b.val + c.val) / 100 = a.val by omega,
      show (100 * a.val + 10 * b.val + c.val) / 10 % 10 = b.val by omega,
      show (100 * a.val + 10 * b.val + c.val) % 10 = c.val by omega]

theorem padMnc_value_two (a b : Fin 10) : padMnc (Digits.value [a, b]) = Digits.print [a, b] := by
  have hval : Digits.value [a, b] = 10 * a.val + b.val := by
    simp only [Digits.value, List.foldl_cons, List.foldl_nil]
    omega
  rw [hval]
  simp only [Digits.print, List.map_cons, List.map_nil]
  unfold padMnc
  split_ifs with h
  · have ha : a.val = 0 := by omega
    rw [ha, dec_of_lt_ten (by omega), show 10 * 0 + b.val = b.val by omega]
    rfl
  · rw [dec_of_lt_hundred (by omega) (by omega), show (10 * a.val + b.val) / 10 = a.val by omega,
      show (10 * a.val + b.val) % 10 = b.val by omega]

theorem padMnc_value_three_iff (a b c : Fin 10) :
    padMnc (Digits.value [a, b, c]) = Digits.print [a, b, c] ↔ a ≠ 0 := by
  have hval : Digits.value [a, b, c] = 100 * a.val + 10 * b.val + c.val := by
    simp only [Digits.value, List.foldl_cons, List.foldl_nil]
    omega
  rw [hval]
  simp only [Digits.print, List.map_cons, List.map_nil]
  constructor
  · rintro h rfl
    have hlen := congrArg List.length h
    unfold padMnc at hlen
    split_ifs at hlen with h₁
    · rw [dec_of_lt_ten h₁] at hlen
      simp at hlen
    · rw [dec_of_lt_hundred (by omega) (by simp; omega)] at hlen
      simp at hlen
  · intro ha
    have ha' : a.val ≠ 0 := fun h => ha (Fin.ext h)
    unfold padMnc
    rw [if_neg (by omega), dec_of_lt_thousand (by omega) (by omega),
      show (100 * a.val + 10 * b.val + c.val) / 100 = a.val by omega,
      show (100 * a.val + 10 * b.val + c.val) / 10 % 10 = b.val by omega,
      show (100 * a.val + 10 * b.val + c.val) % 10 = c.val by omega]

namespace PlmnDigits

variable (plmn : PlmnDigits)

theorem padMcc_value : padMcc plmn.mcc.value = plmn.mcc.print := by
  obtain ⟨mcc, mnc, hmcc, -⟩ := plmn
  obtain ⟨a, b, c, rfl⟩ := List.length_eq_three.mp hmcc
  exact Amf.padMcc_value a b c

theorem padMnc_value_iff : padMnc plmn.mnc.value = plmn.mnc.print ↔ plmn.MncKept := by
  obtain ⟨mcc, mnc, -, hmnc⟩ := plmn
  rcases hmnc with hmnc | hmnc
  · obtain ⟨a, b, rfl⟩ := List.length_eq_two.mp hmnc
    exact iff_of_true (padMnc_value_two a b) (.inl rfl)
  · obtain ⟨a, b, c, rfl⟩ := List.length_eq_three.mp hmnc
    simpa [MncKept] using padMnc_value_three_iff a b c

theorem value_lt : plmn.mcc.value < 1000 ∧ plmn.mnc.value < 1000 := by
  obtain ⟨mcc, mnc, hmcc, hmnc⟩ := plmn
  obtain ⟨a, b, c, rfl⟩ := List.length_eq_three.mp hmcc
  refine ⟨by simp [Digits.value]; omega, ?_⟩
  rcases hmnc with hmnc | hmnc
  · obtain ⟨a, b, rfl⟩ := List.length_eq_two.mp hmnc
    simp [Digits.value]
    omega
  · obtain ⟨a, b, c, rfl⟩ := List.length_eq_three.mp hmnc
    simp [Digits.value]
    omega

theorem decode_encode : ∃ o₁ o₂ o₃, encodeMccMnc2Buffer plmn.mcc.print plmn.mnc.print = [o₁, o₂, o₃] ∧
    decodeMccMncFromBuffer o₁ o₂ o₃ = (plmn.mcc.print, padMnc plmn.mnc.value) := by
  obtain ⟨o₁, o₂, o₃, henc, hdec⟩ := decode_encodeMccMnc plmn.mcc.print plmn.mnc.print
    (by rw [ofDec_print]; exact plmn.value_lt.1) (by rw [ofDec_print]; exact plmn.value_lt.2)
  rw [ofDec_print, ofDec_print, plmn.padMcc_value] at hdec
  exact ⟨o₁, o₂, o₃, henc, hdec⟩

end PlmnDigits

/-! ## Routing indicators -/

theorem nibbles_of_lt {low high : ℕ} (hlow : low < 16) (hhigh : high < 16) :
    (nibbles low high).toNat % 16 = low ∧ (nibbles low high).toNat / 16 = high := by
  rw [nibbles_mod, nibbles_div]
  omega

theorem decodeRoutingIndicator_nibbles {x y z w : ℕ} (hx : x < 16) (hy : y < 16) (hz : z < 16) (hw : w < 16) :
    decodeRoutingIndicator (nibbles x y) (nibbles z w) =
      if x = 0 ∧ y = 15 ∧ z = 15 ∧ w = 15 then none else some (routingIndicatorDigits [x, y, z, w]) := by
  simp only [decodeRoutingIndicator, (nibbles_of_lt hx hy).1, (nibbles_of_lt hx hy).2, (nibbles_of_lt hz hw).1,
    (nibbles_of_lt hz hw).2]

theorem routingIndicatorDigits_cons (d : Fin 10) (ds : List ℕ) :
    routingIndicatorDigits (d.val :: ds) = digitChar d.val :: routingIndicatorDigits ds := by
  rw [routingIndicatorDigits, if_pos (by omega), dec_digit]
  rfl

theorem routingIndicatorDigits_end (ds : List ℕ) : routingIndicatorDigits (15 :: ds) = [] := rfl

theorem decode_encodeRoutingIndicator {ds : Digits} (h : 1 ≤ ds.length ∧ ds.length ≤ 4) :
    ∃ o₁ o₂, encodeRoutingIndicator (some ds.print) = [o₁, o₂] ∧
      (decodeRoutingIndicator o₁ o₂).getD ['0'] = ds.print := by
  have hlen : ds.print.length = ds.length := List.length_map ..
  have hfill : (0xff : UInt8) = nibbles 15 15 := rfl
  match ds, h with
  | [a], _ =>
    have hval : Digits.value [a] = a.val := by simp [Digits.value]
    simp only [encodeRoutingIndicator, hlen, ofDec_print, hval, List.length_singleton, hfill]
    refine ⟨_, _, rfl, ?_⟩
    rw [decodeRoutingIndicator_nibbles (by omega) (by omega) (by omega) (by omega)]
    by_cases ha : a = 0
    · subst ha
      rfl
    · have ha' : a.val ≠ 0 := fun h => ha (Fin.ext h)
      rw [if_neg (by omega), routingIndicatorDigits_cons, routingIndicatorDigits_end]
      rfl
  | [a, b], _ =>
    have hval : Digits.value [a, b] = 10 * a.val + b.val := by simp [Digits.value]
    simp only [encodeRoutingIndicator, hlen, ofDec_print, hval, List.length_cons, List.length_nil, hfill,
      show (10 * a.val + b.val) / 10 = a.val by omega, show (10 * a.val + b.val) % 10 = b.val by omega]
    refine ⟨_, _, rfl, ?_⟩
    rw [decodeRoutingIndicator_nibbles (by omega) (by omega) (by omega) (by omega), if_neg (by omega),
      routingIndicatorDigits_cons, routingIndicatorDigits_cons, routingIndicatorDigits_end]
    rfl
  | [a, b, c], _ =>
    have hval : Digits.value [a, b, c] = 100 * a.val + 10 * b.val + c.val := by simp [Digits.value]; omega
    simp only [encodeRoutingIndicator, hlen, ofDec_print, hval, List.length_cons, List.length_nil,
      show (100 * a.val + 10 * b.val + c.val) / 100 = a.val by omega,
      show (100 * a.val + 10 * b.val + c.val) % 100 / 10 = b.val by omega,
      show (100 * a.val + 10 * b.val + c.val) % 10 = c.val by omega]
    refine ⟨_, _, rfl, ?_⟩
    rw [decodeRoutingIndicator_nibbles (by omega) (by omega) (by omega) (by omega), if_neg (by omega),
      routingIndicatorDigits_cons, routingIndicatorDigits_cons, routingIndicatorDigits_cons,
      routingIndicatorDigits_end]
    rfl
  | [a, b, c, d], _ =>
    have hval : Digits.value [a, b, c, d] = 1000 * a.val + 100 * b.val + 10 * c.val + d.val := by
      simp [Digits.value]; omega
    simp only [encodeRoutingIndicator, hlen, ofDec_print, hval, List.length_cons, List.length_nil,
      show (1000 * a.val + 100 * b.val + 10 * c.val + d.val) / 1000 = a.val by omega,
      show (1000 * a.val + 100 * b.val + 10 * c.val + d.val) % 1000 / 100 = b.val by omega,
      show (1000 * a.val + 100 * b.val + 10 * c.val + d.val) % 100 / 10 = c.val by omega,
      show (1000 * a.val + 100 * b.val + 10 * c.val + d.val) % 10 = d.val by omega]
    refine ⟨_, _, rfl, ?_⟩
    rw [decodeRoutingIndicator_nibbles (by omega) (by omega) (by omega) (by omega), if_neg (by omega),
      routingIndicatorDigits_cons, routingIndicatorDigits_cons, routingIndicatorDigits_cons,
      routingIndicatorDigits_cons]
    rfl

/-! ## MSINs -/

theorem stringToInt8_substr (ds : Digits) {i : ℕ} (hi : i < ds.length) :
    stringToInt8 (substr ds.print i 1) = (ds.getD i 0).val := by
  have hsub : substr ds.print i 1 = Digits.print [ds.getD i 0] := by
    simp only [substr, Digits.print, ← List.map_drop, ← List.map_take, List.getD_eq_getElem ds 0 hi,
      List.drop_eq_getElem_cons hi]
    rfl
  have hlt := (ds.getD i 0).isLt
  rw [stringToInt8, hsub, ofDec_print]
  simp only [Digits.value, List.foldl_cons, List.foldl_nil]
  omega

theorem decodeMsin_pairs (ps : List (Fin 10 × Fin 10)) :
    decodeMsin (ps.map fun p => nibbles p.1.val p.2.val) = Digits.print (ps.flatMap fun p => [p.1, p.2]) := by
  induction ps with
  | nil => rfl
  | cons p ps ih =>
    obtain ⟨hlow, hhigh⟩ := nibbles_of_lt (by omega : p.1.val < 16) (by omega : p.2.val < 16)
    cases ps with
    | nil =>
      simp only [List.map_cons, List.map_nil, decodeMsin, hlow, hhigh, dec_digit]
      rw [if_pos (by omega)]
      rfl
    | cons q ps =>
      simp only [List.map_cons, decodeMsin, hlow, hhigh, dec_digit] at ih ⊢
      rw [ih]
      rfl

theorem decodeMsin_pairs_odd (ps : List (Fin 10 × Fin 10)) (d : Fin 10) :
    decodeMsin ((ps.map fun p => nibbles p.1.val p.2.val) ++ [nibbles d.val 15]) =
      Digits.print ((ps.flatMap fun p => [p.1, p.2]) ++ [d]) := by
  induction ps with
  | nil =>
    obtain ⟨hlow, hhigh⟩ := nibbles_of_lt (by omega : d.val < 16) (by omega : 15 < 16)
    simp only [List.map_nil, List.nil_append, decodeMsin, hlow, hhigh, dec_digit, List.flatMap_nil]
    rfl
  | cons p ps ih =>
    obtain ⟨hlow, hhigh⟩ := nibbles_of_lt (by omega : p.1.val < 16) (by omega : p.2.val < 16)
    have hcons : ∃ o os, (ps.map fun p => nibbles p.1.val p.2.val) ++ [nibbles d.val 15] = o :: os := by
      cases ps with
      | nil => exact ⟨_, _, rfl⟩
      | cons q ps => exact ⟨_, _, rfl⟩
    obtain ⟨o, os, hos⟩ := hcons
    rw [List.map_cons, List.cons_append, hos, decodeMsin, ← hos, ih, hlow, hhigh, dec_digit, dec_digit]
    · rfl
    · rintro ⟨⟩

/-- The digits that a MSIN is read as. -/
def msinReadBack (ds : Digits) : Digits :=
  (List.range (ds.length / 2)).flatMap (fun i => [ds.getD i 0, ds.getD (i + 1) 0]) ++
    if ds.length % 2 ≠ 0 then [ds.getD (ds.length - 1) 0] else []

theorem decode_encodeMsin (ds : Digits) : decodeMsin (encodeMsin ds.print) = (msinReadBack ds).print := by
  have hlen : ds.print.length = ds.length := List.length_map ..
  have hloop : (List.range (ds.length / 2)).map (fun i =>
      nibbles (stringToInt8 (substr ds.print i 1)) (stringToInt8 (substr ds.print (i + 1) 1))) =
      ((List.range (ds.length / 2)).map fun i => (ds.getD i 0, ds.getD (i + 1) 0)).map
        fun p => nibbles p.1.val p.2.val := by
    rw [List.map_map]
    refine List.map_congr_left fun i hi => ?_
    have hi' : i < ds.length / 2 := List.mem_range.mp hi
    rw [stringToInt8_substr ds (by omega), stringToInt8_substr ds (by omega)]
    rfl
  have hpairs : (List.range (ds.length / 2)).flatMap (fun i => [ds.getD i 0, ds.getD (i + 1) 0]) =
      ((List.range (ds.length / 2)).map fun i => (ds.getD i 0, ds.getD (i + 1) 0)).flatMap
        fun p => [p.1, p.2] := by
    rw [List.flatMap_map]
  rw [encodeMsin, msinReadBack, hlen, hloop, hpairs]
  by_cases hodd : ds.length % 2 ≠ 0
  · rw [if_pos hodd, if_pos hodd, stringToInt8_substr ds (by omega)]
    exact decodeMsin_pairs_odd _ _
  · rw [if_neg hodd, if_neg hodd, List.append_nil, List.append_nil]
    exact decodeMsin_pairs _

theorem getElem?_pairs {α : Type*} (f g : ℕ → α) (m j : ℕ) :
    ((List.range m).flatMap fun i => [f i, g i])[j]? =
      if j < 2 * m then some (if j % 2 = 0 then f (j / 2) else g (j / 2)) else none := by
  have hlen : ∀ m, ((List.range m).flatMap fun i => [f i, g i]).length = 2 * m := by
    intro m
    simp [Nat.mul_comm]
  induction m with
  | zero => simp
  | succ m ih =>
    rw [List.range_succ, List.flatMap_append, List.getElem?_append, hlen, ih]
    by_cases h : j < 2 * m
    · rw [if_pos h, if_pos h, if_pos (by omega : j < 2 * (m + 1))]
    · rw [if_neg h]
      by_cases h₀ : j = 2 * m
      · rw [if_pos (by omega : j < 2 * (m + 1)), if_pos (by omega : j % 2 = 0), h₀, show 2 * m / 2 = m by omega]
        simp
      · by_cases h₁ : j = 2 * m + 1
        · rw [if_pos (by omega : j < 2 * (m + 1)), if_neg (by omega : ¬ j % 2 = 0), h₁,
            show (2 * m + 1) / 2 = m by omega, show 2 * m + 1 - 2 * m = 1 by omega]
          simp
        · rw [if_neg (by omega : ¬ j < 2 * (m + 1)), List.getElem?_eq_none_iff]
          simp
          omega

/-- Reading the digits `i` and `i + 1` is reading the digits `2 * i` and `2 * i + 1` exactly when these are all the same
from the second one on. -/
theorem pairs_kept_iff {α : Type*} (d : ℕ → α) (m : ℕ) :
    (∀ j, j < 2 * m → d j = if j % 2 = 0 then d (j / 2) else d (j / 2 + 1)) ↔
      ∀ i, 1 ≤ i → i < 2 * m → d i = d 1 := by
  constructor
  · intro h i
    induction i using Nat.strong_induction_on with
    | _ i ih =>
      intro h1 hm
      by_cases hi : i = 1
      · rw [hi]
      · rw [h i hm]
        split
        · exact ih (i / 2) (by omega) (by omega) (by omega)
        · exact ih (i / 2 + 1) (by omega) (by omega) (by omega)
  · intro h j hj
    split
    · by_cases hj0 : j = 0
      · rw [hj0]
      · rw [h j (by omega) hj, h (j / 2) (by omega) (by omega)]
    · by_cases hj1 : j = 1
      · rw [hj1]
      · rw [h j (by omega) hj, h (j / 2 + 1) (by omega) (by omega)]

theorem getElem?_msinReadBack (ds : Digits) (j : ℕ) :
    (msinReadBack ds)[j]? =
      if j < 2 * (ds.length / 2) then some (if j % 2 = 0 then ds.getD (j / 2) 0 else ds.getD (j / 2 + 1) 0)
      else ds[j]? := by
  have hlen : ((List.range (ds.length / 2)).flatMap fun i => [ds.getD i 0, ds.getD (i + 1) 0]).length =
      2 * (ds.length / 2) := by
    simp [Nat.mul_comm]
  rw [msinReadBack, List.getElem?_append, hlen]
  by_cases h : j < 2 * (ds.length / 2)
  · rw [if_pos h, if_pos h, getElem?_pairs (fun i => ds.getD i 0) (fun i => ds.getD (i + 1) 0), if_pos h]
  · rw [if_neg h, if_neg h]
    by_cases hodd : ds.length % 2 ≠ 0
    · rw [if_pos hodd]
      by_cases hj : j = ds.length - 1
      · have hlt : ds.length - 1 < ds.length := by omega
        rw [hj, show ds.length - 1 - 2 * (ds.length / 2) = 0 by omega, List.getD_eq_getElem ds 0 hlt,
          List.getElem?_eq_getElem hlt]
        rfl
      · rw [List.getElem?_eq_none (by simp; omega), List.getElem?_eq_none (by omega)]
    · rw [if_neg hodd, List.getElem?_nil, List.getElem?_eq_none (by omega)]

theorem msinReadBack_eq_iff (ds : Digits) : msinReadBack ds = ds ↔ MsinKept ds := by
  have hget : ∀ {j}, j < ds.length → ds[j]? = some (ds.getD j 0) := by
    intro j hj
    rw [List.getD_eq_getElem ds 0 hj, List.getElem?_eq_getElem hj]
  have hkept : MsinKept ds ↔ ∀ i, 1 ≤ i → i < 2 * (ds.length / 2) → ds.getD i 0 = ds.getD 1 0 := by
    refine forall_congr' fun i => forall_congr' fun h1 => forall_congr' fun hi => ?_
    rw [hget (by omega : i < ds.length), hget (by omega : 1 < ds.length), Option.some.injEq]
  rw [hkept, ← pairs_kept_iff (fun j => ds.getD j 0), List.ext_getElem?_iff]
  refine forall_congr' fun j => ?_
  rw [getElem?_msinReadBack]
  by_cases hj : j < 2 * (ds.length / 2)
  · rw [if_pos hj, hget (by omega), Option.some.injEq]
    exact ⟨fun h _ => h.symm, fun h => (h hj).symm⟩
  · rw [if_neg hj]
    exact iff_of_true rfl fun h => absurd h hj

theorem Digits.print_injective {ds es : Digits} (h : ds.print = es.print) : ds = es := by
  have hinj : Function.Injective fun d : Fin 10 => digitChar d.val := by decide
  exact List.map_injective_iff.mpr hinj h

/-! ## IMEISVs -/

theorem stringToInt8_digit (d : Fin 10) : stringToInt8 [digitChar d.val] = d.val := by
  have h : ofDec (Digits.print [d]) = Digits.value [d] := ofDec_print [d]
  simp only [Digits.value, List.foldl_cons, List.foldl_nil] at h
  rw [stringToInt8, show [digitChar d.val] = Digits.print [d] from rfl, h]
  omega

theorem length_encodeImeisvPairs (identity : Str) :
    (encodeImeisvPairs identity).length = (identity.length + 1) / 2 := by
  fun_induction encodeImeisvPairs identity with
  | case1 => rfl
  | case2 d => simp
  | case3 d e identity ih =>
    simp only [List.length_cons, ih]
    omega

theorem decode_encodeImeisvPairs (ds : Digits) (h : ds.length % 2 = 1) :
    decodeImeisvPairs (encodeImeisvPairs ds.print) = ds.print := by
  match ds, h with
  | [d], _ =>
    obtain ⟨hlow, -⟩ := nibbles_of_lt (by omega : d.val < 16) (by omega : 15 < 16)
    simp only [Digits.print, List.map_cons, List.map_nil, encodeImeisvPairs, decodeImeisvPairs, stringToInt8_digit,
      hlow, dec_digit]
  | [d, e], h => exact absurd h (by simp)
  | d :: e :: f :: ds, h =>
    have ih := decode_encodeImeisvPairs (f :: ds) (by simp at h ⊢; omega)
    obtain ⟨hlow, hhigh⟩ := nibbles_of_lt (by omega : d.val < 16) (by omega : e.val < 16)
    have hcons : ∃ o os, encodeImeisvPairs (Digits.print (f :: ds)) = o :: os := by
      cases ds with
      | nil => exact ⟨_, _, rfl⟩
      | cons g ds => exact ⟨_, _, rfl⟩
    obtain ⟨o, os, hos⟩ := hcons
    change decodeImeisvPairs (nibbles (stringToInt8 [digitChar d.val]) (stringToInt8 [digitChar e.val]) ::
      encodeImeisvPairs (Digits.print (f :: ds))) = _
    rw [stringToInt8_digit, stringToInt8_digit, hos, decodeImeisvPairs, ← hos, ih, hlow, hhigh, dec_digit, dec_digit]
    · rfl
    · rintro ⟨⟩

theorem decode_encodeImeisv {ds : Digits} (h : ds.length = 16) : decodeImeisv (encodeImeisv ds.print) = ds.print := by
  match ds, h with
  | d :: ds, h =>
    obtain ⟨-, hhigh⟩ := nibbles_of_lt (by omega : 5 < 16) (by omega : d.val < 16)
    have hrest := decode_encodeImeisvPairs ds (by simp at h; omega)
    change dec ((nibbles 5 (stringToInt8 [digitChar d.val])).toNat / 16) ++
      decodeImeisvPairs (encodeImeisvPairs (Digits.print ds)) = _
    rw [stringToInt8_digit, hhigh, hrest, dec_digit]
    rfl

/-! ## 5G-TMSIs -/

theorem fromStringInt_tmsiToString (n : UInt32) : fromStringInt (tmsiToString n) = min n.toNat (2 ^ 31 - 1) := by
  have hdigits : (tmsiToString n).takeWhile Char.isDigit = tmsiToString n := by
    refine List.takeWhile_eq_self_iff.mpr fun c hc => ?_
    rcases List.mem_append.mp hc with hc | hc
    · rw [List.eq_of_mem_replicate hc]
      rfl
    · exact Nat.isDigit_of_mem_toDigits (by decide) (by decide) hc
  rw [fromStringInt, hdigits]
  unfold tmsiToString
  rw [ofDec_replicate_append]

theorem tmsiToString_fromStringInt_iff (tmsi : Str) :
    tmsiToString (UInt32.ofNat (fromStringInt tmsi)) = tmsi ↔
      ∃ n : UInt32, n.toNat < 2 ^ 31 ∧ tmsi = tmsiToString n := by
  have hlt : fromStringInt tmsi < 2 ^ 31 := by
    unfold fromStringInt
    omega
  have hnat : (UInt32.ofNat (fromStringInt tmsi)).toNat = fromStringInt tmsi := by
    rw [UInt32.toNat_ofNat']
    omega
  constructor
  · intro h
    exact ⟨_, by rw [hnat]; exact hlt, h.symm⟩
  · rintro ⟨n, hn, rfl⟩
    rw [fromStringInt_tmsiToString, min_eq_left (by omega), UInt32.ofNat_toNat]

/-! ## The information element -/

namespace FiveGsMobileIdentity

theorem be16_toNat {n : ℕ} (h : n < 2 ^ 16) : (UInt8.ofNat (n / 256)).toNat * 256 + (UInt8.ofNat n).toNat = n := by
  simp only [UInt8.toNat_ofNat']
  omega

section

variable {ie : FiveGsMobileIdentity} {len : ℕ}

theorem encodeTlv_of_le (h : ie.headerLength + ie.li ≤ len) (length : ℕ) (value : List UInt8) :
    ie.encodeTlv len length value = some (ie.iei.toList ++ be16 length ++ value) :=
  if_neg (by omega)

theorem headerLength_le : ie.headerLength ≤ 3 := by
  unfold headerLength
  split <;> omega

theorem encode_of_suci {s : SuciImsi} (htype : ie.typeOfIdentity = kSuci) (hs : ie.supiFormatImsi = some s) :
    ie.encode len = ie.encodeTlv len (encodeSuci s).length (encodeSuci s) := by
  rw [encode, htype, hs, if_pos rfl]
  rfl

theorem encode_of_fiveGGuti {t : UInt8} {g : FiveGGuti} (htype : ie.typeOfIdentity = k5gGuti) (hiei : ie.iei = some t)
    (hg : ie.fiveGGuti = some g) :
    ie.encode len = ie.encodeTlv len (encode5gGuti g).length (encode5gGuti g) := by
  rw [encode, htype, hiei, hg, if_neg (by decide), if_pos rfl]
  rfl

theorem encode_of_imeisv {identity : Str} (htype : ie.typeOfIdentity = kImeisv) (hs : ie.imeisv = some identity) :
    ie.encode len = ie.encodeTlv len (encodeImeisv identity).length (encodeImeisv identity) := by
  rw [encode, htype, hs, if_neg (by decide), if_neg (by decide), if_pos rfl]
  rfl

theorem encode_of_fiveGSTmsi {s : FiveGSTmsi} (htype : ie.typeOfIdentity = k5gSTmsi) (hs : ie.fiveGSTmsi = some s) :
    ie.encode len = ie.encodeTlv len ie.li (encode5gSTmsi s) := by
  rw [encode, htype, hs, if_neg (by decide), if_neg (by decide), if_neg (by decide), if_pos rfl]
  rfl

end

theorem decode_encodeTlv (iei : Option UInt8) (value : List UInt8) (h : value.length < 2 ^ 16) :
    (new none).decode (iei.toList ++ be16 value.length ++ value) iei.isSome =
      ({ new iei with li := value.length }.decodeValue value).map
        fun (n, read) => ((new iei).headerLength + n, read) := by
  have hli := be16_toNat h
  cases iei with
  | none =>
    simp only [decode, headerLength, new, be16, Option.toList_none, Option.isSome_none, List.nil_append,
      List.cons_append, Bool.false_eq_true, if_false, List.length_cons, hli]
    rw [if_neg (by omega), if_neg (by omega)]
  | some t =>
    simp only [decode, headerLength, new, be16, Option.toList_some, Option.isSome_some, List.cons_append,
      List.nil_append, if_true, List.length_cons, List.drop_succ_cons, List.drop_zero, List.head?_cons, hli,
      Option.isSome_none, Bool.false_eq_true, if_false]
    rw [if_neg (by omega), if_neg (by omega)]

theorem readsBack_iff {ie : FiveGsMobileIdentity} {len : ℕ} {identity : Identity} {value : List UInt8}
    (henc : ie.encode len = some (ie.iei.toList ++ be16 value.length ++ value)) (h : value.length < 2 ^ 16) :
    ie.ReadsBack len identity ↔
      ∃ read, { new ie.iei with li := value.length }.decodeValue value = some (value.length, read) ∧
        read.Holds identity := by
  have hlen : (ie.iei.toList ++ be16 value.length ++ value).length = (new ie.iei).headerLength + value.length := by
    cases hiei : ie.iei <;> simp [be16, headerLength, new] <;> omega
  simp only [ReadsBack, henc, Option.some.injEq, exists_eq_left', decode_encodeTlv ie.iei value h, hlen]
  refine exists_congr fun read => and_congr_left fun _ => ?_
  cases { new ie.iei with li := value.length }.decodeValue value with
  | none => simp
  | some p => simp [Prod.ext_iff]

theorem readsBack_iff_holds {ie read : FiveGsMobileIdentity} {len : ℕ} {identity : Identity} {value : List UInt8}
    (henc : ie.encode len = some (ie.iei.toList ++ be16 value.length ++ value)) (h : value.length < 2 ^ 16)
    (hdec : { new ie.iei with li := value.length }.decodeValue value = some (value.length, read)) :
    ie.ReadsBack len identity ↔ read.Holds identity := by
  rw [readsBack_iff henc h, hdec]
  simp

section

variable {ie : FiveGsMobileIdentity} {o : UInt8} {os : List UInt8}

theorem decodeValue_of_suci {n : ℕ} {s : SuciImsi} (ho : o.toNat % 8 = 1)
    (h : decodeSuci (o :: os) ie.li = some (n, some s)) :
    ie.decodeValue (o :: os) = some (n, { ie with typeOfIdentity := kSuci, supiFormatImsi := some s }) := by
  simp only [decodeValue, List.head?_cons, ho, if_true, h, Option.map_some, Option.some_or]

theorem decodeValue_of_fiveGGuti {g : FiveGGuti} (ho : o.toNat % 8 = 2)
    (h : decode5gGuti ((o :: os).take 11) = some g) :
    ie.decodeValue (o :: os) = some (11, { ie with typeOfIdentity := k5gGuti, fiveGGuti := some g }) := by
  simp only [decodeValue, List.head?_cons, ho, if_true, h, Option.map_some]
  rw [if_neg (by decide)]

theorem decodeValue_of_fiveGSTmsi {setId pointer : ℕ} {tmsi : UInt32} (ho : o.toNat % 8 = 4)
    (h : decode5gSTmsi (os.take 6) = some (setId, pointer, tmsi)) :
    ie.decodeValue (o :: os) = some (7,
      { ie with typeOfIdentity := k5gSTmsi, fiveGSTmsi := some ⟨setId, pointer, tmsiToString tmsi⟩ }) := by
  simp only [decodeValue, List.head?_cons, ho, if_true, List.drop_succ_cons, List.drop_zero, h, Option.map_some]
  rw [if_neg (by decide), if_neg (by decide)]

theorem decodeValue_of_imeisv (ho : o.toNat % 8 = 5) (h : (o :: os).length = ie.li) :
    ie.decodeValue (o :: os) = some (ie.li,
      { ie with typeOfIdentity := kImeisv, imeisv := some (decodeImeisv (o :: os)) }) := by
  simp only [decodeValue, List.head?_cons, ho, if_true, ← h, List.take_length]
  rw [if_neg (by decide), if_neg (by decide), if_neg (by decide), if_neg (by omega)]

end

/-! ## The four identities -/

section

variable {iei : Option UInt8} {len : ℕ}

theorem encode5gGuti_set5gGuti (plmn : PlmnDigits) (region : Fin 256) (setId : Fin 1024) (pointer : Fin 64)
    (tmsi : UInt32) : ∃ o₁ o₂ o₃,
    decodeMccMncFromBuffer o₁ o₂ o₃ = (plmn.mcc.print, padMnc plmn.mnc.value) ∧
      encode5gGuti (Amf.set5gGuti plmn.mcc.print plmn.mnc.print region.val setId.val pointer.val tmsi) =
        0xf2 :: o₁ :: o₂ :: o₃ :: UInt8.ofNat region.val :: UInt8.ofNat (setId.val % 256 / 4) ::
          UInt8.ofNat (pointer.val + setId.val % 4 * 64) :: be32 tmsi := by
  obtain ⟨o₁, o₂, o₃, henc, hdec⟩ := plmn.decode_encode
  have hset : (UInt8.ofNat setId.val).toNat = setId.val % 256 := UInt8.toNat_ofNat' ..
  have hpointer : (UInt16.ofNat pointer.val).toNat = pointer.val := by
    rw [UInt16.toNat_ofNat']
    omega
  refine ⟨o₁, o₂, o₃, hdec, ?_⟩
  unfold encode5gGuti Amf.set5gGuti
  rw [henc]
  simp only [hset, hpointer]
  rw [show pointer.val % 64 = pointer.val by omega, show setId.val % 256 % 4 = setId.val % 4 by omega]
  rfl

/-- The GUTI as it is read back: the set identifier has lost its two high bits. -/
theorem decode_encode5gGuti (plmn : PlmnDigits) (region : Fin 256) (setId : Fin 1024) (pointer : Fin 64)
    (tmsi : UInt32) :
    decode5gGuti (encode5gGuti
        (Amf.set5gGuti plmn.mcc.print plmn.mnc.print region.val setId.val pointer.val tmsi)) = some
      { mcc := plmn.mcc.print, mnc := padMnc plmn.mnc.value, amfRegionId := UInt8.ofNat region.val,
        amfSetId := UInt8.ofNat setId.val, amfPointer := UInt16.ofNat pointer.val, tmsi := tmsi } := by
  obtain ⟨o₁, o₂, o₃, hplmn, henc⟩ := encode5gGuti_set5gGuti plmn region setId pointer tmsi
  rw [henc]
  simp only [be32, decode5gGuti, hplmn, ofBe32_be32, UInt8.toNat_ofNat']
  congr 2
  · apply UInt8.toNat_inj.mp
    simp only [UInt8.toNat_ofNat']
    omega
  · congr 1
    omega

theorem readsBack_fiveGGuti_iff (hlen : 64 ≤ len) (plmn : PlmnDigits) (region : Fin 256) (setId : Fin 1024)
    (pointer : Fin 64) (tmsi : UInt32) :
    ((new iei).store (.fiveGGuti plmn region setId pointer tmsi)).ReadsBack len
        (.fiveGGuti plmn region setId pointer tmsi) ↔
      iei.isSome ∧ plmn.MncKept ∧ setId.val < 256 := by
  cases iei with
  | none =>
    refine iff_of_false ?_ fun h => absurd h.1 (by decide)
    rintro ⟨buf, henc, -⟩
    cases henc
  | some t =>
    have hdec := decode_encode5gGuti plmn region setId pointer tmsi
    obtain ⟨o₁, o₂, o₃, -, hvalue⟩ := encode5gGuti_set5gGuti plmn region setId pointer tmsi
    have henc : ((new (some t)).store (.fiveGGuti plmn region setId pointer tmsi)).encode len = _ :=
      (encode_of_fiveGGuti rfl rfl rfl).trans (encodeTlv_of_le (by change 3 + 11 ≤ len; omega) _ _)
    rw [hvalue] at hdec henc
    rw [readsBack_iff_holds henc (by simp [be32]) (decodeValue_of_fiveGGuti rfl hdec), ← plmn.padMnc_value_iff]
    simp only [Holds, true_and, and_true, Option.some.injEq, exists_eq_left', Option.isSome_some, UInt8.toNat_ofNat',
      UInt16.toNat_ofNat']
    constructor
    · rintro ⟨hmnc, -, hset, -⟩
      exact ⟨hmnc, by omega⟩
    · rintro ⟨hmnc, hset⟩
      exact ⟨hmnc, by omega, by omega, by omega⟩

theorem encodeSuci_eq (plmn : PlmnDigits) (routing : Digits) (scheme : ℕ) (msin : Digits)
    (hrouting : 1 ≤ routing.length ∧ routing.length ≤ 4) : ∃ o₁ o₂ o₃ r₁ r₂,
    decodeMccMncFromBuffer o₁ o₂ o₃ = (plmn.mcc.print, padMnc plmn.mnc.value) ∧
      (decodeRoutingIndicator r₁ r₂).getD ['0'] = routing.print ∧
      encodeSuci ⟨plmn.mcc.print, plmn.mnc.print, some routing.print, scheme, 0, msin.print⟩ =
        1 :: o₁ :: o₂ :: o₃ :: r₁ :: r₂ :: UInt8.ofNat scheme :: 0 :: encodeMsin msin.print := by
  obtain ⟨o₁, o₂, o₃, henc, hdec⟩ := plmn.decode_encode
  obtain ⟨r₁, r₂, hrenc, hrdec⟩ := decode_encodeRoutingIndicator hrouting
  refine ⟨o₁, o₂, o₃, r₁, r₂, hdec, hrdec, ?_⟩
  unfold encodeSuci
  rw [henc, hrenc]
  rfl

theorem length_encodeMsin (msin : Digits) : (encodeMsin msin.print).length = (msin.length + 1) / 2 := by
  have hlen : msin.print.length = msin.length := List.length_map ..
  rw [encodeMsin, List.length_append, List.length_map, List.length_range, hlen]
  split
  · simp only [List.length_singleton]
    omega
  · simp only [List.length_nil]
    omega

theorem readsBack_suci_iff (hlen : 64 ≤ len) (plmn : PlmnDigits) (routing : Digits) (scheme : Fin 16) (msin : Digits)
    (hrouting : 1 ≤ routing.length ∧ routing.length ≤ 4) (hmsin : 1 ≤ msin.length ∧ msin.length ≤ 10) :
    ((new iei).store (.suci plmn routing scheme msin hrouting hmsin)).ReadsBack len
        (.suci plmn routing scheme msin hrouting hmsin) ↔
      plmn.MncKept ∧ MsinKept msin := by
  obtain ⟨o₁, o₂, o₃, r₁, r₂, hplmn, hroutingBack, hvalue⟩ :=
    encodeSuci_eq plmn routing (scheme.val % 16) msin hrouting
  have hmsinLen := length_encodeMsin msin
  have hprint : msin.print.length = msin.length := List.length_map ..
  have henc : ((new iei).store (.suci plmn routing scheme msin hrouting hmsin)).encode len = _ :=
    (encode_of_suci rfl rfl).trans (encodeTlv_of_le (by change 3 + (10 + msin.print.length / 2) ≤ len; omega) _ _)
  rw [hvalue] at henc
  have hscheme : (UInt8.ofNat (scheme.val % 16)).toNat % 16 = scheme.val := by
    rw [UInt8.toNat_ofNat']
    omega
  have hdec : decodeSuci (1 :: o₁ :: o₂ :: o₃ :: r₁ :: r₂ :: UInt8.ofNat (scheme.val % 16) :: 0 ::
      encodeMsin msin.print) (8 + (encodeMsin msin.print).length) =
      some (8 + (encodeMsin msin.print).length, some ⟨plmn.mcc.print, padMnc plmn.mnc.value,
        decodeRoutingIndicator r₁ r₂, scheme.val, 0, (msinReadBack msin).print⟩) := by
    have hnum : max (8 + (encodeMsin msin.print).length - 8) 1 = (encodeMsin msin.print).length := by omega
    simp only [decodeSuci, hnum, hplmn, hscheme, List.take_length, decode_encodeMsin]
    rw [if_neg (by decide), if_neg (by omega)]
  have hvalueLen : (1 :: o₁ :: o₂ :: o₃ :: r₁ :: r₂ :: UInt8.ofNat (scheme.val % 16) :: 0 ::
      encodeMsin msin.print).length = 8 + (encodeMsin msin.print).length := by
    simp only [List.length_cons]
    omega
  rw [readsBack_iff_holds henc (by omega) (by rw [hvalueLen]; exact decodeValue_of_suci rfl hdec),
    ← plmn.padMnc_value_iff, ← msinReadBack_eq_iff]
  simp only [Holds, true_and, Option.some.injEq, exists_eq_left', hroutingBack]
  exact and_congr_right fun _ => ⟨Digits.print_injective, congrArg Digits.print⟩

theorem readsBack_fiveGSTmsi_iff (hlen : 64 ≤ len) (setId : Fin 1024) (pointer : Fin 64) (tmsi : Str)
    (htmsi : tmsi ≠ [] ∧ ∀ c ∈ tmsi, '0' ≤ c ∧ c ≤ '9' ∨ 'A' ≤ c ∧ c ≤ 'F' ∨ 'a' ≤ c ∧ c ≤ 'f') :
    ((new iei).store (.fiveGSTmsi setId pointer tmsi htmsi)).ReadsBack len (.fiveGSTmsi setId pointer tmsi htmsi) ↔
      ∃ n : UInt32, n.toNat < 2 ^ 31 ∧ tmsi = tmsiToString n := by
  have hheader : (new iei).headerLength ≤ 3 := headerLength_le
  have hvalue : encode5gSTmsi ⟨setId.val % 2 ^ 16, pointer.val % 2 ^ 8, tmsi⟩ =
      0xf4 :: UInt8.ofNat (setId.val / 4) :: UInt8.ofNat (pointer.val + setId.val % 4 * 64) ::
        be32 (UInt32.ofNat (fromStringInt tmsi)) := by
    rw [encode5gSTmsi, show setId.val % 2 ^ 16 % 1024 / 4 = setId.val / 4 by omega,
      show pointer.val % 2 ^ 8 % 64 = pointer.val by omega, show setId.val % 2 ^ 16 % 4 = setId.val % 4 by omega]
  have henc : ((new iei).store (.fiveGSTmsi setId pointer tmsi htmsi)).encode len = some (iei.toList ++
      be16 (encode5gSTmsi ⟨setId.val % 2 ^ 16, pointer.val % 2 ^ 8, tmsi⟩).length ++
        encode5gSTmsi ⟨setId.val % 2 ^ 16, pointer.val % 2 ^ 8, tmsi⟩) :=
    (encode_of_fiveGSTmsi rfl rfl).trans
      (encodeTlv_of_le (by change (new iei).headerLength + 7 ≤ len; omega) _ _)
  rw [hvalue] at henc
  have hdec : decode5gSTmsi ((UInt8.ofNat (setId.val / 4) :: UInt8.ofNat (pointer.val + setId.val % 4 * 64) ::
      be32 (UInt32.ofNat (fromStringInt tmsi))).take 6) =
      some (setId.val, pointer.val, UInt32.ofNat (fromStringInt tmsi)) := by
    simp only [be32, List.take_succ_cons, List.take_nil, decode5gSTmsi, ofBe32_be32, UInt8.toNat_ofNat',
      Option.some.injEq, Prod.mk.injEq, and_true]
    omega
  rw [readsBack_iff_holds henc (by simp [be32]) (decodeValue_of_fiveGSTmsi rfl hdec),
    ← tmsiToString_fromStringInt_iff]
  simp only [Holds, true_and, Option.some.injEq, FiveGSTmsi.mk.injEq]

theorem not_readsBack_imeisv (digits : Digits) (hdigits : digits.length = 16) :
    ¬ ((new iei).store (.imeisv digits hdigits)).ReadsBack len (.imeisv digits hdigits) := by
  rintro ⟨buf, henc, -⟩
  cases henc

/-- **With its type set an IMEISV is read back**: nothing but the setter is at fault. -/
theorem readsBack_imeisv_of_type (hlen : 64 ≤ len) (digits : Digits) (hdigits : digits.length = 16) :
    { (new iei).store (.imeisv digits hdigits) with typeOfIdentity := kImeisv }.ReadsBack len
      (.imeisv digits hdigits) := by
  have hdec := decode_encodeImeisv hdigits
  obtain ⟨d, ds, rfl⟩ := List.exists_cons_of_ne_nil (List.ne_nil_of_length_pos (by omega : 0 < digits.length))
  have hheader : (new iei).headerLength ≤ 3 := headerLength_le
  have hvalue : encodeImeisv (Digits.print (d :: ds)) = nibbles 5 d.val :: encodeImeisvPairs (Digits.print ds) := by
    change nibbles 5 (stringToInt8 [digitChar d.val]) :: _ = _
    rw [stringToInt8_digit]
    rfl
  have htype : (nibbles 5 d.val).toNat % 8 = 5 := by
    rw [← Nat.mod_mod_of_dvd _ (by decide : 8 ∣ 16), (nibbles_of_lt (by omega) (by omega)).1]
  have hpairs := length_encodeImeisvPairs (Digits.print ds)
  have hprint : (Digits.print ds).length = ds.length := List.length_map ..
  have henc : { (new iei).store (.imeisv (d :: ds) hdigits) with typeOfIdentity := kImeisv }.encode len = _ :=
    (encode_of_imeisv rfl rfl).trans
      (encodeTlv_of_le (by change (new iei).headerLength + 0 ≤ len; omega) _ _)
  rw [hvalue] at hdec henc
  simp only [List.length_cons] at hdigits
  rw [readsBack_iff_holds henc (by rw [List.length_cons]; omega) (decodeValue_of_imeisv htype rfl)]
  exact ⟨rfl, congrArg some hdec⟩

end

/-- **Round trip**: the identities that are read back with the same fields are those that are kept. -/
theorem readsBack_iff_kept {len : ℕ} (hlen : 64 ≤ len) (iei : Option UInt8) (identity : Identity) :
    ((new iei).store identity).ReadsBack len identity ↔ identity.Kept iei := by
  cases identity with
  | fiveGGuti plmn region setId pointer tmsi => exact readsBack_fiveGGuti_iff hlen plmn region setId pointer tmsi
  | suci plmn routing scheme msin hrouting hmsin =>
    exact readsBack_suci_iff hlen plmn routing scheme msin hrouting hmsin
  | fiveGSTmsi setId pointer tmsi htmsi => exact readsBack_fiveGSTmsi_iff hlen setId pointer tmsi htmsi
  | imeisv digits hdigits => exact iff_of_false (not_readsBack_imeisv digits hdigits) id

end FiveGsMobileIdentity

/-- MCC 208, MNC 95. -/
def testPlmn : PlmnDigits := ⟨[2, 0, 8], [9, 5], rfl, .inl rfl⟩

/-- The digits of this MSIN are the same from the second one on. -/
def uniformSuci : Identity := .suci testPlmn [0] 0 [3, 1, 1, 1] (by decide) (by decide)

theorem uniformSuci_readsBack : 64 ≤ 64 ∧
    (((FiveGsMobileIdentity.new none).store uniformSuci).ReadsBack 64 uniformSuci ↔ uniformSuci.Kept none) ∧
      uniformSuci.Kept none := by
  refine ⟨le_rfl, FiveGsMobileIdentity.readsBack_iff_kept le_rfl none uniformSuci, .inl rfl, fun i h₁ hi => ?_⟩
  have hi' : i < 4 := hi
  have hcases : i = 1 ∨ i = 2 ∨ i = 3 := by omega
  rcases hcases with rfl | rfl | rfl <;> rfl

/-- The MSIN 0000000031 -/
def subscriberSuci : Identity := .suci testPlmn [0] 0 [0, 0, 0, 0, 0, 0, 0, 0, 3, 1] (by decide) (by decide)

/-- It is read as 0000000000. -/
theorem subscriberSuci_not_readsBack :
    ¬ ((FiveGsMobileIdentity.new none).store subscriberSuci).ReadsBack 64 subscriberSuci := by
  intro h
  obtain ⟨-, hmsin⟩ := (FiveGsMobileIdentity.readsBack_suci_iff le_rfl testPlmn [0] 0 [0, 0, 0, 0, 0, 0, 0, 0, 3, 1]
    (by decide) (by decide)).mp h
  exact absurd (hmsin 8 (by decide) (by decide)) (by decide)

end Oai5g.Amf

