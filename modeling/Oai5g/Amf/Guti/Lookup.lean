import Oai5g.Amf.Guti.Model

/-!
# Finding a UE again by its GUTI

* `decode5gGuti_octets`: what the AMF decodes when the UE presents its GUTI.
* `presentedKey_ne_storedKey`: the key of a presented GUTI, which concatenates decimal numerals, is
  never the stored key, which has the AMF identifier as six hexadecimal digits.
* `ngapKey_eq_storedKey_iff`, `serviceKey_eq_storedKey_iff`: these two paths agree iff the set
  identifier fits into 8 bits.
* `storedKey_injective`: among PLMNs with MNCs of one length stored keys are different; two MNC
  lengths can collide.
* **`gutiLookup_never_faithful`**.
-/

namespace Oai5g.Amf

open Nat (digitChar)
open Numeral

/-! ## The AMF identifier -/

theorem getAmfId_eq {r s p : ℕ} (hr : r < 2 ^ 8) (hs : s < 2 ^ 10) (hp : p < 2 ^ 6) :
    getAmfId r s p = r * 2 ^ 16 + s * 2 ^ 6 + p := by
  have h₁ : (s &&& 0x03ff) = s := by
    rw [show (0x03ff : ℕ) = 2 ^ 10 - 1 from rfl, Nat.and_two_pow_sub_one_eq_mod, Nat.mod_eq_of_lt hs]
  have h₂ : (p &&& 0x3f) = p := by
    rw [show (0x3f : ℕ) = 2 ^ 6 - 1 from rfl, Nat.and_two_pow_sub_one_eq_mod, Nat.mod_eq_of_lt hp]
  have h₃ : r <<< 16 ||| s <<< 6 = (r * 2 ^ 10 + s) <<< 6 := by
    rw [← Nat.shiftLeft_add_eq_or_of_lt (by rw [Nat.shiftLeft_eq]; omega)]
    simp only [Nat.shiftLeft_eq]
    omega
  unfold getAmfId
  rw [h₁, h₂, h₃, ← Nat.shiftLeft_add_eq_or_of_lt hp, Nat.and_comm,
    show (0x00ffffff : ℕ) = 2 ^ 24 - 1 from rfl, Nat.and_two_pow_sub_one_eq_mod, Nat.shiftLeft_eq,
    Nat.mod_eq_of_lt (by omega)]
  omega

/-- Set and pointer as the 16 low bits. -/
def AmfId.low (a : AmfId) : ℕ := a.amfSetId * 2 ^ 6 + a.amfPointer

theorem AmfId.low_lt (a : AmfId) : a.low < 2 ^ 16 := by
  have := a.amfSetId_lt
  have := a.amfPointer_lt
  unfold low
  omega

theorem hex_getAmfId (a : AmfId) :
    hex 6 (getAmfId a.regionId a.amfSetId a.amfPointer) =
      fixed 16 2 a.regionId ++ fixed 16 4 a.low := by
  have hr := a.regionId_lt
  have hl := a.low_lt
  rw [getAmfId_eq hr a.amfSetId_lt a.amfPointer_lt, Nat.add_assoc,
    show a.amfSetId * 2 ^ 6 + a.amfPointer = a.low from rfl, hex_eq_fixed (by decide) (by omega),
    show (6 : ℕ) = 2 + 4 from rfl, fixed_add]
  congr 1
  · congr 1; omega
  · exact fixed_mul_add (by decide) 4 _ _

/-! ## PLMNs -/

theorem PlmnId.mccValue_lt (p : PlmnId) : p.mccValue < 1000 := by
  unfold mccValue
  omega

theorem PlmnId.mncValue_lt (p : PlmnId) : p.mncValue < 1000 := by
  unfold mncValue
  split <;> omega

/-- An MCC padded to three digits. -/
def padMcc (mcc : ℕ) : Str :=
  if mcc < 10 then '0' :: '0' :: dec mcc else if mcc < 100 then '0' :: dec mcc else dec mcc

/-- An MNC padded to two digits. -/
def padMnc (mnc : ℕ) : Str := if mnc < 10 then '0' :: dec mnc else dec mnc

theorem PlmnId.getMcc_eq (p : PlmnId) : p.getMcc = padMcc p.mccValue := by
  unfold getMcc padMcc
  simp only [Fin.ext_iff, Fin.val_zero]
  have h₁ : (p.mccDigit2.val = 0 ∧ p.mccDigit1.val = 0) ↔ p.mccValue < 10 := by
    unfold mccValue; omega
  by_cases h : p.mccValue < 10
  · rw [if_pos (h₁.mpr h), if_pos h]
  · rw [if_neg (fun hh => h (h₁.mp hh)), if_neg h]
    have h₂ : p.mccDigit1.val = 0 ↔ p.mccValue < 100 := by unfold mccValue; omega
    exact if_congr h₂ rfl rfl

theorem ofDec_padMcc (n : ℕ) : ofDec (padMcc n) = n := by
  unfold padMcc
  split_ifs
  · exact ofDec_replicate_append 2 n
  · exact ofDec_replicate_append 1 n
  · exact ofDec_dec n

/-- `getMnc` and the decoder pad alike, except that a three-digit MNC below ten is not padded. -/
theorem PlmnId.getMnc_cases (p : PlmnId) :
    p.getMnc = padMnc p.mncValue ∨ p.mncValue < 10 ∧ p.getMnc = dec p.mncValue := by
  unfold getMnc padMnc mncValue
  rcases p.mncDigit3 with _ | d
  · left
    simp only [Fin.ext_iff, Fin.val_zero]
    exact if_congr (by omega) rfl rfl
  · by_cases h : d.val * 100 + p.mncDigit1 * 10 + p.mncDigit2 < 10
    · exact Or.inr ⟨h, rfl⟩
    · left
      simp only
      rw [if_neg h]

theorem PlmnId.ofDec_getMnc (p : PlmnId) : ofDec p.getMnc = p.mncValue := by
  rcases p.getMnc_cases with h | ⟨-, h⟩ <;> rw [h]
  · unfold padMnc
    split_ifs
    · exact ofDec_replicate_append 1 _
    · exact ofDec_dec _
  · exact ofDec_dec _

theorem decode_encodeMccMnc (mcc mnc : Str) (h₁ : ofDec mcc < 1000) (h₂ : ofDec mnc < 1000) :
    ∃ o₁ o₂ o₃, encodeMccMnc2Buffer mcc mnc = [o₁, o₂, o₃] ∧
      decodeMccMncFromBuffer o₁ o₂ o₃ = (padMcc (ofDec mcc), padMnc (ofDec mnc)) := by
  unfold encodeMccMnc2Buffer
  generalize ofDec mcc = a at *
  generalize ofDec mnc = b at *
  -- the decoder reads both numbers back, the MNC with or without a third digit
  have key : ∀ o₂ o₃ : UInt8, o₂.toNat % 16 = a % 10 →
      (if o₂.toNat / 16 = 0xf then o₃.toNat % 16 * 10 + o₃.toNat / 16
        else o₂.toNat / 16 + (o₃.toNat % 16 * 100 + o₃.toNat / 16 * 10)) = b →
      decodeMccMncFromBuffer (nibbles (a / 100) (a % 100 / 10)) o₂ o₃ = (padMcc a, padMnc b) := by
    intro o₂ o₃ hm hn
    unfold decodeMccMncFromBuffer
    rw [nibbles_mod, nibbles_div, hm, hn,
      show a / 100 % 16 * 100 + a % 100 / 10 % 16 * 10 + a % 10 = a by omega]
    rfl
  by_cases h : b / 100 = 0
  · refine ⟨_, _, _, if_pos h, key _ _ ?_ ?_⟩
    · rw [nibbles_mod]; omega
    · simp only [nibbles_mod, nibbles_div]
      rw [if_true]
      omega
  · refine ⟨_, _, _, if_neg h, key _ _ ?_ ?_⟩
    · rw [nibbles_mod]; omega
    · simp only [nibbles_mod, nibbles_div]
      rw [if_neg (by omega)]
      omega

/-! ## What the AMF decodes -/

theorem Guti.octets_eq (g : Guti) : ∃ o₁ o₂ o₃,
    decodeMccMncFromBuffer o₁ o₂ o₃ = (g.plmn.getMcc, padMnc g.plmn.mncValue) ∧
    g.octets = [0xf2, o₁, o₂, o₃, UInt8.ofNat g.amf.regionId,
      UInt8.ofNat (g.amf.amfSetId % 2 ^ 8 / 4),
      UInt8.ofNat (g.amf.amfPointer + g.amf.amfSetId % 4 * 64)] ++ be32 g.tmsi := by
  have hmcc : ofDec g.plmn.getMcc = g.plmn.mccValue := by rw [PlmnId.getMcc_eq, ofDec_padMcc]
  have hmnc := g.plmn.ofDec_getMnc
  obtain ⟨o₁, o₂, o₃, h₁, h₂⟩ := decode_encodeMccMnc g.plmn.getMcc g.plmn.getMnc
    (by rw [hmcc]; exact g.plmn.mccValue_lt) (by rw [hmnc]; exact g.plmn.mncValue_lt)
  refine ⟨o₁, o₂, o₃, ?_, ?_⟩
  · rw [h₂, hmcc, hmnc, ← PlmnId.getMcc_eq]
  · have hp := g.amf.amfPointer_lt
    have e₁ : (UInt8.ofNat g.amf.amfSetId).toNat = g.amf.amfSetId % 2 ^ 8 := UInt8.toNat_ofNat' ..
    have e₂ : (UInt16.ofNat g.amf.amfPointer).toNat = g.amf.amfPointer := by
      rw [UInt16.toNat_ofNat']; omega
    unfold octets set5gGuti encode5gGuti
    rw [h₁]
    simp only [e₁, e₂]
    rw [show g.amf.amfPointer % 64 = g.amf.amfPointer by omega,
      show g.amf.amfSetId % 2 ^ 8 % 4 = g.amf.amfSetId % 4 by omega]
    rfl

/-- **The GUTI the AMF decodes**: the set identifier has lost its two high bits. -/
theorem decode5gGuti_octets (g : Guti) : decode5gGuti g.octets = some
    { mcc := g.plmn.getMcc, mnc := padMnc g.plmn.mncValue, amfRegionId := UInt8.ofNat g.amf.regionId,
      amfSetId := UInt8.ofNat g.amf.amfSetId, amfPointer := UInt16.ofNat g.amf.amfPointer,
      tmsi := g.tmsi } := by
  obtain ⟨o₁, o₂, o₃, hplmn, ho⟩ := g.octets_eq
  have hs := g.amf.amfSetId_lt
  have hp := g.amf.amfPointer_lt
  rw [ho]
  simp only [be32, List.cons_append, List.nil_append, decode5gGuti, hplmn, ofBe32_be32,
    UInt8.toNat_ofNat']
  congr 2
  · apply UInt8.toNat_inj.mp
    simp only [UInt8.toNat_ofNat']
    omega
  · congr 1
    omega

theorem decode5gSTmsi_octets (g : Guti) : decode5gSTmsi (g.octets.drop 5) =
    some (g.amf.amfSetId % 2 ^ 8, g.amf.amfPointer, g.tmsi) := by
  obtain ⟨o₁, o₂, o₃, -, ho⟩ := g.octets_eq
  have hp := g.amf.amfPointer_lt
  rw [ho]
  simp only [be32, List.cons_append, List.nil_append, List.drop_succ_cons, List.drop_zero,
    decode5gSTmsi, ofBe32_be32, UInt8.toNat_ofNat', Option.some.injEq, Prod.mk.injEq, and_true]
  omega

/-! ## The Registration and the De-registration Request -/

/-- The decimal numerals of a presented GUTI. -/
def AmfId.decimal (a : AmfId) : Str :=
  dec a.regionId ++ dec (a.amfSetId % 2 ^ 8) ++ dec a.amfPointer

theorem presentedKey_eq (g : Guti) : presentedKey g =
    g.plmn.getMcc ++ padMnc g.plmn.mncValue ++ g.amf.decimal ++ tmsiToString g.tmsi := by
  have hr := g.amf.regionId_lt
  have hp := g.amf.amfPointer_lt
  unfold presentedKey
  rw [decode5gGuti_octets]
  simp only [Option.map_some, Option.getD_some, get5gGuti, AmfId.decimal, UInt8.toNat_ofNat',
    UInt16.toNat_ofNat', List.append_assoc]
  rw [Nat.mod_eq_of_lt hr, Nat.mod_eq_of_lt (by omega : g.amf.amfPointer < 2 ^ 16)]

theorem storedKey_eq (g : Guti) : storedKey g =
    g.plmn.getMcc ++ g.plmn.getMnc ++ (fixed 16 2 g.amf.regionId ++ fixed 16 4 g.amf.low) ++
      tmsiToString g.tmsi := by
  rw [← hex_getAmfId]
  rfl

theorem fixed_two {n : ℕ} (h : n < 256) : fixed 16 2 n = [digitChar (n / 16), digitChar (n % 16)] := by
  simp only [fixed, List.nil_append, List.cons_append]
  rw [Nat.mod_eq_of_lt (by omega : n / 16 < 16)]

theorem fixed_four {n : ℕ} (h : n < 2 ^ 16) : fixed 16 4 n = [digitChar (n / 4096),
    digitChar (n / 256 % 16), digitChar (n / 16 % 16), digitChar (n % 16)] := by
  simp only [fixed, List.nil_append, List.cons_append, Nat.div_div_eq_div_mul]
  rw [Nat.mod_eq_of_lt (by omega : n / (16 * (16 * 16)) < 16)]

theorem length_dec_le_two {n : ℕ} (h : n < 100) : (dec n).length ≤ 2 :=
  (Nat.length_toDigits_le_iff (by decide) (by decide)).mpr h

theorem dec_eq_zero_cons {n : ℕ} (hn : n < 1000) {s : Str} (h : dec n = digitChar 0 :: s) :
    n = 0 ∧ s = [] := by
  have hz : ∀ d, d < 16 → digitChar d = digitChar 0 → d = 0 := fun d hd he =>
    (digitChar_inj hd (by decide)).mp he
  rcases Nat.lt_or_ge n 10 with h₁ | h₁
  · rw [dec_of_lt_ten h₁, List.cons.injEq] at h
    exact ⟨hz n (by omega) h.1, h.2.symm⟩
  rcases Nat.lt_or_ge n 100 with h₂ | h₂
  · rw [dec_of_lt_hundred h₁ h₂, List.cons.injEq] at h
    have := hz _ (by omega) h.1
    omega
  · rw [dec_of_lt_thousand h₂ hn, List.cons.injEq] at h
    have := hz _ (by omega) h.1
    omega

theorem digitChar_eq {a b : ℕ} (h : digitChar a = digitChar b) (ha : a < 16) (hb : b < 16) :
    a = b := (digitChar_inj ha hb).mp h

/-- **Six hexadecimal digits are never the three decimal numerals.** -/
theorem hex_ne_decimal (a : AmfId) :
    fixed 16 2 a.regionId ++ fixed 16 4 a.low ≠ a.decimal := by
  intro h
  have hr := a.regionId_lt
  have hp := a.amfPointer_lt
  rw [fixed_two hr, AmfId.decimal] at h
  -- the region decides: its decimal numeral has one, two or three digits
  rcases Nat.lt_or_ge a.regionId 10 with h₁ | h₁
  · rw [dec_of_lt_ten h₁] at h
    simp only [List.cons_append, List.nil_append, List.cons.injEq] at h
    have hz := digitChar_eq h.1 (by omega) (by omega)
    -- the second digit is zero as well, so the set is zero and two digits are left for four
    obtain ⟨c, cs, hc⟩ := List.exists_cons_of_ne_nil
      (show dec (a.amfSetId % 2 ^ 8) ≠ [] from Nat.toDigits_ne_nil)
    have h' := h.2
    rw [hc, List.cons_append, List.cons.injEq] at h'
    have hd : digitChar (a.regionId % 16) = digitChar 0 := by congr 1; omega
    obtain ⟨-, rfl⟩ := dec_eq_zero_cons (n := a.amfSetId % 2 ^ 8) (s := cs) (by omega)
      (by rw [hc, ← h'.1, hd])
    have hlen := congrArg List.length h'.2
    have hle := length_dec_le_two (show a.amfPointer < 100 by omega)
    simp only [length_fixed, List.nil_append] at hlen
    omega
  rcases Nat.lt_or_ge a.regionId 100 with h₂ | h₂
  · rw [dec_of_lt_hundred h₁ h₂] at h
    simp only [List.cons_append, List.nil_append, List.cons.injEq] at h
    have e₁ := digitChar_eq h.1 (by omega) (by omega)
    have e₂ := digitChar_eq h.2.1 (by omega) (by omega)
    omega
  · rw [dec_of_lt_thousand h₂ (by omega)] at h
    simp only [List.cons_append, List.nil_append, List.cons.injEq] at h
    have e₁ := digitChar_eq h.1 (by omega) (by omega)
    omega

/-- The four low hexadecimal digits are never the two decimal numerals of set and pointer. -/
theorem low_ne_decimal (a : AmfId) :
    fixed 16 4 a.low ≠ dec (a.amfSetId % 2 ^ 8) ++ dec a.amfPointer := by
  intro h
  have hs := a.amfSetId_lt
  have hp := a.amfPointer_lt
  have hl : a.low = a.amfSetId * 64 + a.amfPointer := rfl
  rw [fixed_four a.low_lt] at h
  rcases Nat.lt_or_ge a.amfPointer 10 with h₁ | h₁
  · rw [dec_of_lt_ten h₁] at h
    rcases Nat.lt_or_ge (a.amfSetId % 2 ^ 8) 10 with h₂ | h₂
    · rw [dec_of_lt_ten h₂] at h
      simp at h
    rcases Nat.lt_or_ge (a.amfSetId % 2 ^ 8) 100 with h₃ | h₃
    · rw [dec_of_lt_hundred h₂ h₃] at h
      simp at h
    · rw [dec_of_lt_thousand h₃ (by omega)] at h
      simp only [List.cons_append, List.nil_append, List.cons.injEq] at h
      have e₁ := digitChar_eq h.1 (by omega) (by omega)
      have e₂ := digitChar_eq h.2.1 (by omega) (by omega)
      rw [show a.low / 4096 = a.amfSetId / 64 by omega] at e₁
      rw [show a.low / 256 = a.amfSetId / 4 by omega] at e₂
      have hset : a.amfSetId / 64 = 1 := by omega
      have hmod : a.amfSetId % 2 ^ 8 = a.amfSetId := by omega
      rw [hmod] at h₃ e₂
      have hq : a.amfSetId / 4 / 16 = 1 := by omega
      omega
  · rw [dec_of_lt_hundred h₁ (by omega)] at h
    rcases Nat.lt_or_ge (a.amfSetId % 2 ^ 8) 10 with h₂ | h₂
    · rw [dec_of_lt_ten h₂] at h
      simp at h
    rcases Nat.lt_or_ge (a.amfSetId % 2 ^ 8) 100 with h₃ | h₃
    · rw [dec_of_lt_hundred h₂ h₃] at h
      simp only [List.cons_append, List.nil_append, List.cons.injEq] at h
      have e₃ := digitChar_eq h.2.2.1 (by omega) (by omega)
      have e₄ := digitChar_eq h.2.2.2.1 (by omega) (by omega)
      omega
    · rw [dec_of_lt_thousand h₃ (by omega)] at h
      simp at h

theorem hex_ne_zero_decimal (a : AmfId) :
    fixed 16 2 a.regionId ++ fixed 16 4 a.low ≠ '0' :: a.decimal := by
  intro h
  have hr := a.regionId_lt
  rw [fixed_two hr, AmfId.decimal, show '0' = digitChar 0 from rfl] at h
  rcases Nat.lt_or_ge a.regionId 10 with h₁ | h₁
  · rw [dec_of_lt_ten h₁] at h
    simp only [List.cons_append, List.nil_append, List.cons.injEq] at h
    exact low_ne_decimal a h.2.2
  rcases Nat.lt_or_ge a.regionId 100 with h₂ | h₂
  · rw [dec_of_lt_hundred h₁ h₂] at h
    simp only [List.cons_append, List.nil_append, List.cons.injEq] at h
    have e₁ := digitChar_eq h.1 (by omega) (by omega)
    have e₂ := digitChar_eq h.2.1 (by omega) (by omega)
    omega
  · rw [dec_of_lt_thousand h₂ (by omega)] at h
    simp only [List.cons_append, List.nil_append, List.cons.injEq] at h
    have e₁ := digitChar_eq h.1 (by omega) (by omega)
    omega

/-- **A presented GUTI never has the key under which it was stored.** -/
theorem presentedKey_ne_storedKey (g : Guti) : presentedKey g ≠ storedKey g := by
  rw [presentedKey_eq, storedKey_eq]
  intro h
  have h' := List.append_cancel_right h
  rw [List.append_assoc, List.append_assoc] at h'
  have h'' := (List.append_cancel_left h').symm
  rcases g.plmn.getMnc_cases with hm | ⟨hlt, hm⟩
  · rw [hm] at h''
    exact hex_ne_decimal _ (List.append_cancel_left h'')
  · -- a three-digit MNC below ten: the decoder prints one zero more
    rw [hm, padMnc, if_pos hlt, dec_of_lt_ten hlt] at h''
    simp only [List.cons_append, List.nil_append, List.cons.injEq] at h''
    have hz := digitChar_eq (b := 0) h''.1 (by omega) (by omega)
    rw [hz] at h''
    exact hex_ne_zero_decimal _ h''.2

/-! ## The Service Request and the NGAP 5G-S-TMSI -/

/-- The key of an AMF identifier with another set identifier. -/
def keyWithSet (g : Guti) (amfSetId : ℕ) : Str :=
  tmsiToGuti g.plmn.getMcc g.plmn.getMnc g.amf.regionId amfSetId g.amf.amfPointer
    (tmsiToString g.tmsi)

theorem serviceKey_eq (g : Guti) : serviceKey g = keyWithSet g (g.amf.amfSetId % 2 ^ 8) := by
  unfold serviceKey
  rw [decode5gSTmsi_octets]
  rfl

/-- The gNB's key is built from region and 5G-S-TMSI, and is the Service Request's. -/
theorem ngapKey_eq_serviceKey (g : Guti) : ngapKey g = serviceKey g := by
  have hr := g.amf.regionId_lt
  have hp := g.amf.amfPointer_lt
  have hs : g.amf.amfSetId % 2 ^ 8 < 2 ^ 10 := by omega
  have hlow : ((g.amf.amfSetId % 2 ^ 8 &&& 0x03ff) <<< 6 ||| (g.amf.amfPointer &&& 0x3f)) =
      getAmfId 0 (g.amf.amfSetId % 2 ^ 8) g.amf.amfPointer := by
    rw [getAmfId_eq (by decide) hs hp, show (0x03ff : ℕ) = 2 ^ 10 - 1 from rfl,
      show (0x3f : ℕ) = 2 ^ 6 - 1 from rfl, Nat.and_two_pow_sub_one_eq_mod,
      Nat.and_two_pow_sub_one_eq_mod, Nat.mod_eq_of_lt hs, Nat.mod_eq_of_lt hp,
      ← Nat.shiftLeft_add_eq_or_of_lt hp, Nat.shiftLeft_eq]
    omega
  rw [serviceKey_eq]
  unfold ngapKey
  rw [decode5gSTmsi_octets]
  simp only [Option.map_some, Option.getD_some, sTmsiToGuti, fiveGSTmsi, keyWithSet, tmsiToGuti]
  rw [hlow, getAmfId_eq (by decide) hs hp, getAmfId_eq hr hs hp, hex_eq_fixed (by decide) (by omega),
    hex_eq_fixed (by decide) (by omega), hex_eq_fixed (by decide) (by omega), fixed_add 16 2 4,
    Nat.add_assoc, Nat.add_assoc, show (2 : ℕ) ^ 16 = 16 ^ 4 from rfl,
    fixed_mul_add (by decide) 4 g.amf.regionId, fixed_mul_add (by decide) 4 0]
  simp only [List.append_assoc]
  congr 4
  omega

/-- **The Service Request finds the context iff** the set identifier fits into 8 bits. -/
theorem serviceKey_eq_storedKey_iff (g : Guti) :
    serviceKey g = storedKey g ↔ g.amf.amfSetId < 2 ^ 8 := by
  have hr := g.amf.regionId_lt
  have hs := g.amf.amfSetId_lt
  have hp := g.amf.amfPointer_lt
  rw [serviceKey_eq]
  constructor
  · intro h
    have h' := List.append_cancel_left (List.append_cancel_right h)
    rw [getAmfId_eq hr hs hp, getAmfId_eq hr (by omega) hp, hex_eq_fixed (by decide) (by omega),
      hex_eq_fixed (by decide) (by omega)] at h'
    have := fixed_injective (by omega) (by omega) h'
    omega
  · intro h
    rw [Nat.mod_eq_of_lt h]
    rfl

/-- **The forwarded 5G-S-TMSI finds the context iff** the set identifier fits into 8 bits. -/
theorem ngapKey_eq_storedKey_iff (g : Guti) :
    ngapKey g = storedKey g ↔ g.amf.amfSetId < 2 ^ 8 := by
  rw [ngapKey_eq_serviceKey, serviceKey_eq_storedKey_iff]

/-! ## Different GUTIs -/

theorem tmsiToString_injective {t t' : UInt32} (h : tmsiToString t = tmsiToString t') : t = t' := by
  have h' := congrArg ofDec h
  unfold tmsiToString at h'
  rw [ofDec_replicate_append, ofDec_replicate_append] at h'
  exact UInt32.toNat_inj.mp h'

theorem length_padMcc {n : ℕ} (h : n < 1000) : (padMcc n).length = 3 := by
  unfold padMcc
  split_ifs with h₁ h₂
  · rw [dec_of_lt_ten h₁]; rfl
  · rw [dec_of_lt_hundred (by omega) h₂]; rfl
  · rw [dec_of_lt_thousand (by omega) h]; rfl

/-- **Stored keys determine the printed PLMN, the AMF identifier and the TMSI** where the printed MNCs
have the same length. -/
theorem storedKey_injective {g g' : Guti} (hlen : g.plmn.getMnc.length = g'.plmn.getMnc.length)
    (h : storedKey g = storedKey g') :
    g.plmn.getMcc = g'.plmn.getMcc ∧ g.plmn.getMnc = g'.plmn.getMnc ∧ g.amf = g'.amf ∧
      g.tmsi = g'.tmsi := by
  have hr := g.amf.regionId_lt
  have hr' := g'.amf.regionId_lt
  have hp := g.amf.amfPointer_lt
  have hp' := g'.amf.amfPointer_lt
  have hmcc : g.plmn.getMcc.length = g'.plmn.getMcc.length := by
    rw [PlmnId.getMcc_eq, PlmnId.getMcc_eq, length_padMcc g.plmn.mccValue_lt,
      length_padMcc g'.plmn.mccValue_lt]
  rw [storedKey_eq, storedKey_eq] at h
  simp only [List.append_assoc] at h
  obtain ⟨h₁, h⟩ := List.append_inj h hmcc
  obtain ⟨h₂, h⟩ := List.append_inj h hlen
  obtain ⟨h₃, h⟩ := List.append_inj h (by simp)
  obtain ⟨h₄, h⟩ := List.append_inj h (by simp)
  have hreg := fixed_injective (by omega) (by omega) h₃
  have hlow := fixed_injective g.amf.low_lt g'.amf.low_lt h₄
  refine ⟨h₁, h₂, ?_, tmsiToString_injective h⟩
  unfold AmfId.low at hlow
  obtain ⟨plmn, ⟨r, s, p, _, _, _⟩, t⟩ := g
  obtain ⟨plmn', ⟨r', s', p', _, _, _⟩, t'⟩ := g'
  simp only [AmfId.mk.injEq] at *
  omega

/-- PLMN 208/95 with TMSI 1000000010. -/
def collidingGuti : Guti where
  plmn := ⟨2, 0, 8, 9, 5, none⟩
  amf := { regionId := 0x10, amfSetId := 0, amfPointer := 0, regionId_lt := by decide,
           amfSetId_lt := by decide, amfPointer_lt := by decide }
  tmsi := 1000000010

/-- PLMN 208/951 with TMSI 10. -/
def collidingGuti' : Guti where
  plmn := ⟨2, 0, 8, 5, 1, some 9⟩
  amf := { regionId := 0, amfSetId := 0, amfPointer := 1, regionId_lt := by decide,
           amfSetId_lt := by decide, amfPointer_lt := by decide }
  tmsi := 10

/-- **Two MNC lengths collide.** -/
theorem storedKey_collision : collidingGuti ≠ collidingGuti' ∧
    storedKey collidingGuti = storedKey collidingGuti' := by decide +kernel

/-! ## The lookup as a whole -/

/-- Every path of the AMF computes the stored key. -/
structure KeysAgree (g : Guti) : Prop where
  registration : registrationKey g = storedKey g
  deregistration : deregistrationKey g = storedKey g
  service : serviceKey g = storedKey g
  ngap : ngapKey g = storedKey g

/-- The AMF finds a UE again by its GUTI, and finds no other UE: `tmsis` are the TMSIs allocated under
a PLMN and an AMF identifier. -/
structure GutiLookupFaithful (plmn : PlmnId) (amf : AmfId) (tmsis : Set UInt32) : Prop where
  agree : ∀ tmsi ∈ tmsis, KeysAgree ⟨plmn, amf, tmsi⟩
  separate : ∀ g g' : Guti, g ≠ g' → storedKey g ≠ storedKey g'

/-- **For no GUAMI and no set of TMSIs is the lookup faithful**: no allocated TMSI is found under the
key of a Registration or De-registration Request, under the other two keys only if the set identifier
fits into 8 bits, and only among MNCs of one length are stored keys different. -/
theorem gutiLookup_never_faithful (plmn : PlmnId) (amf : AmfId) (tmsis : Set UInt32) :
    ¬ GutiLookupFaithful plmn amf tmsis ∧
      (∀ tmsi ∈ tmsis, registrationKey ⟨plmn, amf, tmsi⟩ ≠ storedKey ⟨plmn, amf, tmsi⟩ ∧
        deregistrationKey ⟨plmn, amf, tmsi⟩ ≠ storedKey ⟨plmn, amf, tmsi⟩ ∧
        (serviceKey ⟨plmn, amf, tmsi⟩ = storedKey ⟨plmn, amf, tmsi⟩ ↔ amf.amfSetId < 2 ^ 8) ∧
        (ngapKey ⟨plmn, amf, tmsi⟩ = storedKey ⟨plmn, amf, tmsi⟩ ↔ amf.amfSetId < 2 ^ 8)) ∧
      ∀ g g' : Guti, g.plmn.getMnc.length = g'.plmn.getMnc.length → storedKey g = storedKey g' →
        g.plmn.getMcc = g'.plmn.getMcc ∧ g.plmn.getMnc = g'.plmn.getMnc ∧ g.amf = g'.amf ∧
          g.tmsi = g'.tmsi := by
  refine ⟨?_, ?_, ?_⟩
  · intro h
    exact h.separate _ _ storedKey_collision.1 storedKey_collision.2
  · intro tmsi _
    exact ⟨presentedKey_ne_storedKey _, presentedKey_ne_storedKey _,
      serviceKey_eq_storedKey_iff _, ngapKey_eq_storedKey_iff _⟩
  · intro g g' hlen h
    exact storedKey_injective hlen h

/-- PLMN 208/95, AMF identifier `0x80`/`1`/`1`, TMSI 1. -/
def firstGuti : Guti where
  plmn := ⟨2, 0, 8, 9, 5, none⟩
  amf := { regionId := 0x80, amfSetId := 1, amfPointer := 1, regionId_lt := by decide,
           amfSetId_lt := by decide, amfPointer_lt := by decide }
  tmsi := 1

theorem firstGuti_not_found :
    ¬ GutiLookupFaithful firstGuti.plmn firstGuti.amf {t | t = firstGuti.tmsi} ∧
      storedKey firstGuti = "2089580004100000001".toList ∧
      registrationKey firstGuti = "208951281100000001".toList := by
  refine ⟨fun h => ?_, by decide +kernel, by decide +kernel⟩
  exact presentedKey_ne_storedKey firstGuti (h.agree firstGuti.tmsi rfl).registration

end Oai5g.Amf
