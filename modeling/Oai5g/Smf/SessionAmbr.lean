import Oai5g.Lib.Strtoul

/-!
# The session AMBR for the UE and for the gNB

`smf_context::get_session_ambr` has two versions. One fills a unit and a 16-bit value for the N1 message, the
other a number of bits per second for the N2 message, in an `INTEGER_t` of four octets.

* `sessionAmbrN1`, `bitRateN2`: what each makes of a text such as `100 Mbps`; `getSessionAmbrN1`, `getSessionAmbrN2`.
* `ambrRate`, `asnInteger2imax`: the rates that the fields stand for.
* `RateAgrees`: the two are the rate of the text. `rateAgrees_iff`: when they are.
-/

namespace Oai5g.Smf

open Numeral

/-! ## Units -/

/-- The units of a bit rate. -/
inductive BitRateUnit
  | kbps | mbps | gbps | tbps | pbps
  deriving DecidableEq

namespace BitRateUnit

/-- The last four characters of a text. -/
def name : BitRateUnit → Str
  | .kbps => ['K', 'b', 'p', 's']
  | .mbps => ['M', 'b', 'p', 's']
  | .gbps => ['G', 'b', 'p', 's']
  | .tbps => ['T', 'b', 'p', 's']
  | .pbps => ['P', 'b', 'p', 's']

/-- Bits per second. -/
def bps : BitRateUnit → ℕ
  | .kbps => 1000
  | .mbps => 1000000
  | .gbps => 1000000000
  | .tbps => 1000000000000
  | .pbps => 1000000000000000

/-- `AMBR_VALUE_IS_INCREMENTED_IN_MULTIPLES_OF_1KBPS` and the others. -/
def code : BitRateUnit → UInt8
  | .kbps => 0b00000001
  | .mbps => 0b00000110
  | .gbps => 0b00001011
  | .tbps => 0b00010000
  | .pbps => 0b00010101

/-- The unit with this name. -/
def ofName? (s : Str) : Option BitRateUnit :=
  if s = name .kbps then some .kbps
  else if s = name .mbps then some .mbps
  else if s = name .gbps then some .gbps
  else if s = name .tbps then some .tbps
  else if s = name .pbps then some .pbps
  else none

@[simp] theorem ofName?_name (u : BitRateUnit) : ofName? u.name = some u := by cases u <;> decide

@[simp] theorem length_name (u : BitRateUnit) : u.name.length = 4 := by cases u <;> rfl

end BitRateUnit

/-- The bits per second that one step of the value stands for: four times as many from code to code, and five codes
for each unit. With the code 0 the value is not used. -/
def ambrStep (unit : UInt8) : ℕ :=
  if unit = 0 then 0 else 4 ^ ((unit.toNat - 1) % 5) * 1000 ^ ((unit.toNat - 1) / 5 + 1)

theorem ambrStep_code (u : BitRateUnit) : ambrStep u.code = u.bps := by cases u <;> rfl

/-! ## The two parsers -/

/-- The unit and the value of the N1 message for one direction. -/
structure AmbrField where
  unit : UInt8 := 0
  value : UInt16 := 0
  deriving DecidableEq

/-- The rate of the field. -/
def AmbrField.rate (f : AmbrField) : ℕ := f.value.toNat * ambrStep f.unit

/-- The default of the N1 message. -/
def ambrDefault : AmbrField := ⟨BitRateUnit.mbps.code, 1⟩

theorem rate_ambrDefault : ambrDefault.rate = 1000000 := rfl

/-- `get_session_ambr` for the N1 message and one direction. An unknown unit leaves the code as it was; without four
characters, or without a number that fits an `int`, there is an exception. -/
def sessionAmbrN1 (field : AmbrField) (text : Str) : AmbrField :=
  if text.length < 4 then ambrDefault
  else
    match stoi (text.take (text.length - 4)) with
    | none => ambrDefault
    | some v =>
      { unit := ((BitRateUnit.ofName? (text.drop (text.length - 4))).map BitRateUnit.code).getD field.unit
        value := UInt16.ofInt v }

/-- `get_session_ambr` for the N2 message and one direction; an exception gives one bit per second. -/
def bitRateN2 (text : Str) : UInt32 :=
  if text.length < 4 then 1
  else
    match stoi (text.take (text.length - 4)) with
    | none => 1
    | some v =>
      match BitRateUnit.ofName? (text.drop (text.length - 4)) with
      | some .kbps => UInt32.ofInt v * 1000
      | some .mbps => UInt32.ofInt v * 1000000
      | some .gbps => UInt32.ofInt v * 1000000000
      | _ => UInt32.ofInt v

/-- `INT32_TO_BUFFER` -/
def int32ToBuffer (x : UInt32) : List UInt8 :=
  [(x >>> 24).toUInt8, (x >>> 16).toUInt8, (x >>> 8).toUInt8, x.toUInt8]

/-- `asn_INTEGER2imax` of at most eight octets: the first one has the sign. -/
def asnInteger2imax (buf : List UInt8) : ℤ :=
  buf.foldl (fun value b => 256 * value + b.toNat) (if buf.head?.any (128 ≤ ·) then -1 else 0)

/-! ## The subscription -/

/-- Downlink or uplink. -/
inductive Direction
  | downlink | uplink
  deriving DecidableEq

/-- `session_ambr_t` -/
structure SessionAmbrText where
  uplink : Str
  downlink : Str

/-- The text for a direction. -/
def SessionAmbrText.at (t : SessionAmbrText) : Direction → Str
  | .downlink => t.downlink
  | .uplink => t.uplink

/-- `snssai_t` -/
structure SnssaiT where
  sst : UInt8
  sd : UInt32

/-- `get_snssai_key` -/
def getSnssaiKey (snssai : SnssaiT) : UInt32 := snssai.sd <<< 8 ||| snssai.sst.toUInt32

/-- `smf_context`: the session AMBR of each DNN of the subscribed slices. -/
structure AmbrContext where
  dnnSubscriptions : UInt32 → Option (Str → Option SessionAmbrText)

/-- `SessionAMBR` -/
structure SessionAMBR where
  downlink : AmbrField := {}
  uplink : AmbrField := {}

/-- The field for a direction. -/
def SessionAMBR.at (a : SessionAMBR) : Direction → AmbrField
  | .downlink => a.downlink
  | .uplink => a.uplink

/-- `Ngap_PDUSessionAggregateMaximumBitRate_t` -/
structure NgapAmbr where
  bitRateDL : List UInt8
  bitRateUL : List UInt8

/-- The octets for a direction. -/
def NgapAmbr.at (a : NgapAmbr) : Direction → List UInt8
  | .downlink => a.bitRateDL
  | .uplink => a.bitRateUL

namespace AmbrContext

variable (c : AmbrContext) (snssai : SnssaiT) (dnn : Str)

/-- `get_session_ambr` for the N1 message. -/
def getSessionAmbrN1 (ambr : SessionAMBR) : SessionAMBR :=
  match c.dnnSubscriptions (getSnssaiKey snssai) with
  | none => ⟨ambrDefault, ambrDefault⟩
  | some configurations =>
    match configurations dnn with
    | none => ambr
    | some t => ⟨sessionAmbrN1 ambr.downlink t.downlink, sessionAmbrN1 ambr.uplink t.uplink⟩

/-- `get_session_ambr` for the N2 message. -/
def getSessionAmbrN2 : NgapAmbr :=
  match c.dnnSubscriptions (getSnssaiKey snssai) with
  | none => ⟨int32ToBuffer 110000000, int32ToBuffer 110000000⟩
  | some configurations =>
    match configurations dnn with
    | none => ⟨[0, 0, 0, 0], [0, 0, 0, 0]⟩
    | some t => ⟨int32ToBuffer (bitRateN2 t.downlink), int32ToBuffer (bitRateN2 t.uplink)⟩

end AmbrContext

/-! ## What is asked of the two -/

/-- The text is the number `n`, a space and the unit `u`. -/
def IsRate (text : Str) (n : ℕ) (u : BitRateUnit) : Prop :=
  ∃ digits : Str, digits ≠ [] ∧ (∀ c ∈ digits, c.isDigit = true) ∧ ofDec digits = n ∧
    text = digits ++ ' ' :: u.name

/-- Two rates for a text: the rate of the text where its number fits 16 bits, and the same one where it is no rate. -/
structure TextAgrees (text : Str) (n1 n2 : ℤ) : Prop where
  exact : ∀ n u, n ≤ 65535 → IsRate text n u → n1 = n * u.bps ∧ n2 = n * u.bps
  same : (∀ n u, ¬ IsRate text n u) → n1 = n2

/-- A number with what follows it that both parsers read as one rate. -/
def ReadAlike (v : ℤ) : Option BitRateUnit → Prop
  | some .tbps | some .pbps | none => v = 0
  | some u => v % 65536 * u.bps < 2147483648 ∧ (4294967296 : ℤ) ∣ (v - v % 65536) * u.bps

/-- What a text has to be: a rate below `2 ^ 31` bits per second; if it is no rate, then a number and four more
characters that are read alike. -/
structure TextOk (text : Str) : Prop where
  exact : ∀ n u, n ≤ 65535 → IsRate text n u → n * u.bps < 2147483648
  same : (∀ n u, ¬ IsRate text n u) → 4 ≤ text.length ∧ ∃ v, stoi (text.take (text.length - 4)) = some v ∧
    ReadAlike v (BitRateUnit.ofName? (text.drop (text.length - 4)))

namespace AmbrContext

variable (c : AmbrContext) (snssai : SnssaiT) (dnn : Str) (d : Direction)

/-- The rate of the N1 message; the field is all zero before. -/
def rateN1 : ℤ := ((c.getSessionAmbrN1 snssai dnn {}).at d).rate

/-- The rate of the N2 message. -/
def rateN2 : ℤ := asnInteger2imax ((c.getSessionAmbrN2 snssai dnn).at d)

/-- **UE and gNB have the subscribed rate**, or without a subscription the same one. -/
def RateAgrees : Prop :=
  match (c.dnnSubscriptions (getSnssaiKey snssai)).bind (· dnn) with
  | none => c.rateN1 snssai dnn d = c.rateN2 snssai dnn d
  | some t => TextAgrees (t.at d) (c.rateN1 snssai dnn d) (c.rateN2 snssai dnn d)

/-- The slice is subscribed, and if the DNN is, then with a text as it has to be. -/
def RateOk : Prop :=
  ∃ configurations, c.dnnSubscriptions (getSnssaiKey snssai) = some configurations ∧
    ∀ t, configurations dnn = some t → TextOk (t.at d)

end AmbrContext

/-! ## The rates of a text -/

variable {text : Str} {v : ℤ} {n : ℕ} {u : BitRateUnit} {x : UInt32}

/-- **The four octets are read with a sign.** -/
theorem asnInteger2imax_int32ToBuffer (x : UInt32) :
    asnInteger2imax (int32ToBuffer x) = if x.toNat < 2147483648 then (x.toNat : ℤ) else x.toNat - 4294967296 := by
  have hx : x.toNat < 4294967296 := x.toNat_lt
  have h24 : (x >>> 24).toUInt8.toNat = x.toNat / 16777216 % 256 := by
    simp [UInt32.toNat_shiftRight, Nat.shiftRight_eq_div_pow]
  have h16 : (x >>> 16).toUInt8.toNat = x.toNat / 65536 % 256 := by
    simp [UInt32.toNat_shiftRight, Nat.shiftRight_eq_div_pow]
  have h8 : (x >>> 8).toUInt8.toNat = x.toNat / 256 % 256 := by
    simp [UInt32.toNat_shiftRight, Nat.shiftRight_eq_div_pow]
  have h0 : x.toUInt8.toNat = x.toNat % 256 := by simp
  have hsign : (128 : UInt8) ≤ (x >>> 24).toUInt8 ↔ 2147483648 ≤ x.toNat := by
    rw [UInt8.le_iff_toNat_le, h24]
    change 128 ≤ _ ↔ _
    omega
  simp only [asnInteger2imax, int32ToBuffer, List.head?_cons, Option.any_some, decide_eq_true_eq, hsign,
    List.foldl_cons, List.foldl_nil, h24, h16, h8, h0]
  split_ifs <;> omega

theorem toNat_uInt16_ofInt (v : ℤ) : ((UInt16.ofInt v).toNat : ℤ) = v % 65536 := by
  have hmod : (v % 65536).toNat % 65536 = (v % 65536).toNat := Nat.mod_eq_of_lt (by omega)
  have hofInt : (UInt16.ofInt v).toNat = (v % 65536).toNat := by
    rw [UInt16.ofInt, UInt16.toNat_ofNat']
    exact hmod
  omega

theorem toNat_ofInt_mul (v : ℤ) (k : ℕ) :
    ((UInt32.ofInt v * UInt32.ofNat k).toNat : ℤ) = v * k % 4294967296 := by
  have hofInt : ((v % 2 ^ 32).toNat % 2 ^ 32 : ℕ) = (v % 4294967296).toNat := Nat.mod_eq_of_lt (by omega)
  have hpos : ((v % 4294967296).toNat : ℤ) = v % 4294967296 := Int.toNat_of_nonneg (by omega)
  rw [UInt32.toNat_mul, UInt32.ofInt, UInt32.toNat_ofNat', UInt32.toNat_ofNat', hofInt]
  push_cast
  rw [hpos, ← Int.mul_emod]

theorem asnInteger2imax_ofInt_mul (v : ℤ) (k : ℕ) :
    asnInteger2imax (int32ToBuffer (UInt32.ofInt v * UInt32.ofNat k)) = (v * k).bmod 4294967296 := by
  have hmul := toNat_ofInt_mul v k
  rw [asnInteger2imax_int32ToBuffer, Int.bmod_def]
  push_cast
  rw [← hmul]
  split_ifs <;> omega

/-! ## Reading a text -/

/-- What the parsers make of a text: a number, and a unit or none. -/
def Reads (text : Str) (v : ℤ) (o : Option BitRateUnit) : Prop :=
  4 ≤ text.length ∧ stoi (text.take (text.length - 4)) = some v ∧
    BitRateUnit.ofName? (text.drop (text.length - 4)) = o

theorem reads_of_isRate (h : IsRate text n u) (hn : n ≤ 65535) : Reads text n (some u) := by
  obtain ⟨digits, hne, hdigits, rfl, rfl⟩ := h
  have hlength : (digits ++ ' ' :: u.name).length - 4 = (digits ++ [' ']).length := by simp
  have htext : digits ++ ' ' :: u.name = (digits ++ [' ']) ++ u.name := by simp
  refine ⟨by simp, ?_, ?_⟩
  · rw [hlength, htext, List.take_left]
    exact stoi_digits hne hdigits (by simp [digitValue]) (by omega)
  · rw [hlength, htext, List.drop_left, BitRateUnit.ofName?_name]

theorem rate_sessionAmbrN1 {o : Option BitRateUnit} (h : Reads text v o) :
    ((sessionAmbrN1 {} text).rate : ℤ) = v % 65536 * (o.map BitRateUnit.bps).getD 0 := by
  obtain ⟨hlength, hstoi, rfl⟩ := h
  unfold sessionAmbrN1
  rw [if_neg (by omega), hstoi]
  simp only [AmbrField.rate]
  push_cast
  rw [toNat_uInt16_ofInt]
  congr 2
  cases BitRateUnit.ofName? (text.drop (text.length - 4)) with
  | none => rfl
  | some u => exact ambrStep_code u

/-- The factor of `bitRateN2`. -/
def n2Factor : Option BitRateUnit → ℕ
  | some .tbps | some .pbps | none => 1
  | some u => u.bps

theorem rate_bitRateN2 {o : Option BitRateUnit} (h : Reads text v o) :
    asnInteger2imax (int32ToBuffer (bitRateN2 text)) = (v * n2Factor o).bmod 4294967296 := by
  obtain ⟨hlength, hstoi, rfl⟩ := h
  rw [← asnInteger2imax_ofInt_mul]
  unfold bitRateN2
  rw [if_neg (by omega), hstoi]
  have hone : UInt32.ofInt v * UInt32.ofNat 1 = UInt32.ofInt v := UInt32.mul_one _
  congr 2
  cases BitRateUnit.ofName? (text.drop (text.length - 4)) with
  | none => exact hone.symm
  | some u =>
    cases u with
    | kbps | mbps | gbps => rfl
    | tbps | pbps => exact hone.symm

theorem rates_of_not_reads (h : ¬ ∃ v o, Reads text v o) :
    ((sessionAmbrN1 {} text).rate : ℤ) = 1000000 ∧ asnInteger2imax (int32ToBuffer (bitRateN2 text)) = 1 := by
  by_cases hlength : text.length < 4
  · unfold sessionAmbrN1 bitRateN2
    rw [if_pos hlength, if_pos hlength]
    exact ⟨congrArg Nat.cast rate_ambrDefault, (asnInteger2imax_int32ToBuffer 1).trans (by decide)⟩
  · cases hstoi : stoi (text.take (text.length - 4)) with
    | none =>
      unfold sessionAmbrN1 bitRateN2
      rw [if_neg hlength, if_neg hlength, hstoi]
      exact ⟨congrArg Nat.cast rate_ambrDefault, (asnInteger2imax_int32ToBuffer 1).trans (by decide)⟩
    | some v => exact absurd ⟨v, _, by omega, hstoi, rfl⟩ h

theorem bmod_eq_iff {w r : ℤ} (hr : 0 ≤ r) :
    w.bmod 4294967296 = r ↔ r < 2147483648 ∧ (4294967296 : ℤ) ∣ w - r := by
  rw [Int.bmod_def]
  push_cast
  split_ifs <;> omega

/-- **The two rates of a text that both parsers read.** -/
theorem rates_eq_iff {o : Option BitRateUnit} (h : Reads text v o) :
    ((sessionAmbrN1 {} text).rate : ℤ) = asnInteger2imax (int32ToBuffer (bitRateN2 text)) ↔ ReadAlike v o := by
  have hrange := stoi_range h.2.1
  have hpos : 0 ≤ v % 65536 := Int.emod_nonneg v (by norm_num)
  rw [rate_sessionAmbrN1 h, rate_bitRateN2 h, eq_comm]
  have hsmall (k : ℤ) (hk : 4294967296 < k ∨ k = 0) : v.bmod 4294967296 = v % 65536 * k ↔ v = 0 := by
    rw [Int.bmod_eq_of_le (by omega) (by omega)]
    constructor
    · intro hv
      rcases hk with hk | rfl
      · rcases hpos.eq_or_lt with h0 | h0
        · rw [← h0] at hv
          omega
        · have hle : k ≤ v % 65536 * k := le_mul_of_one_le_left (by omega) h0
          omega
      · omega
    · rintro rfl
      simp
  have hunit (k : ℕ) : (v * k).bmod 4294967296 = v % 65536 * k ↔
      v % 65536 * k < 2147483648 ∧ (4294967296 : ℤ) ∣ (v - v % 65536) * k := by
    rw [bmod_eq_iff (by positivity), sub_mul]
  cases o with
  | none => simpa [n2Factor, ReadAlike] using hsmall 0 (Or.inr rfl)
  | some u =>
    cases u with
    | kbps | mbps | gbps => exact hunit _
    | tbps | pbps => simpa [n2Factor, ReadAlike] using hsmall _ (Or.inl (by norm_num [BitRateUnit.bps]))

/-- **The rates of a text that is a rate.** -/
theorem rates_of_isRate (h : IsRate text n u) (hn : n ≤ 65535) :
    ((sessionAmbrN1 {} text).rate : ℤ) = n * u.bps ∧
      (asnInteger2imax (int32ToBuffer (bitRateN2 text)) = n * u.bps ↔ n * u.bps < 2147483648) := by
  have hreads := reads_of_isRate h hn
  have hmod : (n : ℤ) % 65536 = n := Int.emod_eq_of_lt (by omega) (by omega)
  have hn1 : ((sessionAmbrN1 {} text).rate : ℤ) = n * u.bps := by
    rw [rate_sessionAmbrN1 hreads, hmod]
    rfl
  refine ⟨hn1, ?_⟩
  rw [← hn1, eq_comm, rates_eq_iff hreads]
  have hunit : ((n : ℤ) % 65536 * u.bps < 2147483648 ∧ (4294967296 : ℤ) ∣ (n - n % 65536) * u.bps) ↔
      n * u.bps < 2147483648 := by
    rw [hmod, sub_self, zero_mul]
    norm_cast
    simp
  have hlarge (hu : 2147483648 ≤ u.bps) : (n : ℤ) = 0 ↔ n * u.bps < 2147483648 := by
    constructor
    · intro h0
      rw [show n = 0 by omega, zero_mul]
      norm_num
    · intro hlt
      by_contra h0
      have hle : u.bps ≤ n * u.bps := Nat.le_mul_of_pos_left _ (by omega)
      omega
  cases u with
  | kbps | mbps | gbps => exact hunit
  | tbps | pbps => exact hlarge (by norm_num [BitRateUnit.bps])

/-- **The two parsers agree on a text exactly if it is as it has to be.** -/
theorem textAgrees_iff (text : Str) :
    TextAgrees text (sessionAmbrN1 {} text).rate (asnInteger2imax (int32ToBuffer (bitRateN2 text))) ↔
      TextOk text := by
  constructor
  · intro h
    constructor
    case exact => exact fun n u hn hrate => (rates_of_isRate hrate hn).2.mp (h.exact n u hn hrate).2
    case same =>
      intro hnone
      have heq := h.same hnone
      by_contra hno
      by_cases hreads : ∃ v o, Reads text v o
      · obtain ⟨v, o, hlength, hstoi, hname⟩ := hreads
        apply hno
        refine ⟨hlength, v, hstoi, ?_⟩
        rw [hname]
        exact (rates_eq_iff ⟨hlength, hstoi, hname⟩).mp heq
      · obtain ⟨h1, h2⟩ := rates_of_not_reads hreads
        omega
  · intro h
    constructor
    case exact =>
      intro n u hn hrate
      obtain ⟨h1, h2⟩ := rates_of_isRate hrate hn
      exact ⟨h1, h2.mpr (h.exact n u hn hrate)⟩
    case same =>
      intro hnone
      obtain ⟨hlength, v, hstoi, halike⟩ := h.same hnone
      exact (rates_eq_iff ⟨hlength, hstoi, rfl⟩).mpr halike

/-! ## The two messages -/

namespace AmbrContext

variable (c : AmbrContext) (snssai : SnssaiT) (dnn : Str) (d : Direction)

/-- **UE and gNB have the subscribed rate exactly if** the slice is subscribed and the text of the DNN, if there is
one, is as it has to be. -/
theorem rateAgrees_iff : c.RateAgrees snssai dnn d ↔ c.RateOk snssai dnn d := by
  unfold RateAgrees RateOk rateN1 rateN2 getSessionAmbrN1 getSessionAmbrN2
  cases hslice : c.dnnSubscriptions (getSnssaiKey snssai) with
  | none =>
    have hne : ((ambrDefault.rate : ℕ) : ℤ) ≠ asnInteger2imax (int32ToBuffer 110000000) := by
      rw [asnInteger2imax_int32ToBuffer, rate_ambrDefault]
      decide
    cases d <;> simpa [SessionAMBR.at, NgapAmbr.at] using hne
  | some configurations =>
    cases hdnn : configurations dnn with
    | none => cases d <;> simp [SessionAMBR.at, NgapAmbr.at, hdnn, AmbrField.rate, asnInteger2imax]
    | some t =>
      cases d
      case downlink => simpa [SessionAMBR.at, NgapAmbr.at, SessionAmbrText.at, hdnn] using textAgrees_iff t.downlink
      case uplink => simpa [SessionAMBR.at, NgapAmbr.at, SessionAmbrText.at, hdnn] using textAgrees_iff t.uplink

/-- One text for every DNN of every slice, uplink and downlink. -/
def ofText (text : Str) : AmbrContext := ⟨fun _ => some fun _ => some ⟨text, text⟩⟩

/-- With `5 Gbps` the UE has 5 Gbps and the gNB has 705032704 bits per second. -/
theorem fiveGbps_not_rateAgrees :
    ¬ (ofText ['5', ' ', 'G', 'b', 'p', 's']).RateAgrees ⟨1, 0xFFFFFF⟩ ['o', 'a', 'i'] .downlink := by
  intro h
  have hrate : IsRate ['5', ' ', 'G', 'b', 'p', 's'] 5 .gbps := ⟨['5'], by simp, by simp, rfl, rfl⟩
  have hn2 := (h.exact 5 .gbps (by norm_num) hrate).2
  have hlt := (rates_of_isRate hrate (by norm_num)).2.mp hn2
  norm_num [BitRateUnit.bps] at hlt

end AmbrContext

end Oai5g.Smf
