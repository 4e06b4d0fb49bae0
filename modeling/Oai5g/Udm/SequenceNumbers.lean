import Oai5g.Lib.Run
import Oai5g.Common.Conversions

/-!
# The sequence numbers of the UDM

* `incrementSqn`, `sqnMsDerive`, `generateAutn`: the functions of a Generate Auth Data request.
* `AuthState`: the sequence number of a subscriber in the UDR, the requests on their way and the vectors that were
  issued; `authStep`: the next UDR operation of a request.
* `Follows`: the vector is newer than those before, and only a new AUTS takes the stored number back; `Conforms`: nobody
  has advanced the number meanwhile, and an AUTS is new.
* **`sqn_increases`**, for every interleaving of the requests.
-/

namespace Oai5g.Udm

open Numeral

/-! ## Numbers, octets and strings -/

/-- What `std::hex` reads of a string without a prefix, blank or sign, and of a number below `2 ^ 64`. -/
def parseHex (string : Str) : ℕ :=
  ((string.map hexValue).takeWhile Option.isSome).foldl (fun n d => 16 * n + d.getD 0) 0

/-- `increment_sqn` -/
def incrementSqn (cSqn : Str) : Str := hex 12 ((parseHex cSqn + 32) % 2 ^ 64)

/-- The number of some octets. -/
def sqnValue (v : List UInt8) : ℕ := v.foldl (fun n b => 256 * n + b.toNat) 0

/-- The exclusive or, octet by octet. -/
def xorOctets (v w : List UInt8) : List UInt8 := List.zipWith (· ^^^ ·) v w

/-! ## 5G AKA -/

/-- The functions of `Authentication_5gaka` with the key and OPc of the subscriber. -/
structure Milenage where
  f1 (rand sqn amf : List UInt8) : List UInt8
  f1star (rand sqn amf : List UInt8) : List UInt8
  f5 (rand : List UInt8) : List UInt8
  f5star (rand : List UInt8) : List UInt8
  length_f5 : ∀ rand, (f5 rand).length = 6
  length_f5star : ∀ rand, (f5star rand).length = 6

/-- The octets of `ResynchronizationInfo`. -/
structure ResynchronizationInfo where
  rand : List UInt8
  auts : List UInt8
  length_auts : auts.length = 14

/-- `sqn_ms_derive` -/
def sqnMsDerive (aka : Milenage) (info : ResynchronizationInfo) : Option (List UInt8) :=
  let sqnMs := xorOctets (aka.f5star info.rand) (info.auts.take 6)
  if aka.f1star info.rand sqnMs [0, 0] = info.auts.drop 6 then some sqnMs else none

/-- RAND and AUTN of an authentication vector. -/
structure AuthenticationVector where
  rand : List UInt8
  autn : List UInt8
  deriving DecidableEq

/-- `generate_autn` -/
def generateAutn (sqn ak amf macA : List UInt8) : List UInt8 := xorOctets sqn ak ++ amf ++ macA

/-- The sequence number that is concealed in the AUTN. -/
def concealedSqn (aka : Milenage) (v : AuthenticationVector) : ℕ :=
  sqnValue (xorOctets (v.autn.take 6) (aka.f5 v.rand))

/-! ## Requests -/

/-- A request with the RAND it generates and the octets that lie behind `sqn` on its stack. -/
structure AuthRequest where
  resynchronizationInfo : Option ResynchronizationInfo
  rand : List UInt8
  stack : List UInt8

/-- SQNms, when there is an AUTS and it is valid. -/
def AuthRequest.sqnMs (aka : Milenage) (r : AuthRequest) : Option (List UInt8) :=
  r.resynchronizationInfo.bind (sqnMsDerive aka)

/-- How far a request is: `sqn_s` and `sqn`. -/
inductive Progress
  | waiting
  | fetched (sqnS : Str) (sqn : List UInt8)
  /-- After the PATCH with SQNms. -/
  | resynchronized (sqnS : Str) (sqn : List UInt8) (exceeds : Bool)
  | answered

/-- The stored sequence number with the requests under way. -/
structure AuthState where
  /-- `sequenceNumber.sqn` -/
  stored : Str
  progress : ℕ → Progress
  issued : List AuthenticationVector
  /-- The requests whose AUTS was valid. -/
  resynchronizations : List ℕ

/-- What the requests have in common. -/
structure Subscriber where
  aka : Milenage
  amf : List UInt8
  requests : ℕ → AuthRequest

namespace Subscriber

variable (u : Subscriber)

/-- The end of `handle_generate_auth_data_request`: the vector, and the PATCH for the next round. -/
def finish (s : AuthState) (i : ℕ) (sqnS : Str) (sqn : List UInt8) : Option AuthState :=
  let currentSqn := incrementSqn sqnS
  (hexStrToUint8 currentSqn sqn).map fun sqn =>
    let rand := (u.requests i).rand
    let autn := generateAutn sqn (u.aka.f5 rand) u.amf (u.aka.f1 rand sqn u.amf)
    { s with
      stored := incrementSqn currentSqn
      progress := Function.update s.progress i .answered
      issued := s.issued ++ [⟨rand, autn⟩] }

/-- The GET. -/
def fetch (s : AuthState) (i : ℕ) : Option AuthState :=
  (hexStrToUint8 s.stored (List.replicate 6 0)).map fun sqn =>
    { s with progress := Function.update s.progress i (.fetched s.stored sqn) }

/-- The PATCH with SQNms. The string is made of 16 octets, and cut. -/
def resynchronize (s : AuthState) (i : ℕ) (sqnMs : List UInt8) : AuthState :=
  let sqnS := (uint8ToHexString (sqnMs ++ (u.requests i).stack)).set 12 '\x00'
  { s with
    stored := uint8ToHexString sqnMs
    progress := Function.update s.progress i
      (.resynchronized sqnS sqnMs (decide (parseHex s.stored < sqnValue sqnMs)))
    resynchronizations := i :: s.resynchronizations }

/-- The next UDR operation of a request; `none` when an array is overrun. -/
def handle (s : AuthState) (i : ℕ) : Option AuthState :=
  match s.progress i with
  | .waiting => fetch s i
  | .fetched sqnS sqn =>
    match (u.requests i).sqnMs u.aka with
    | some sqnMs => some (u.resynchronize s i sqnMs)
    | none => u.finish s i sqnS sqn
  | .resynchronized sqnS sqn _ => u.finish s i sqnS sqn
  | .answered => some s

/-- One step of a request. -/
def authStep (s : Option AuthState) (i : ℕ) : Option AuthState := s.bind fun s => u.handle s i

/-! ## Fresh sequence numbers -/

/-- The AUTS of this request was used by another one. -/
def Replayed (s : AuthState) (i : ℕ) : Prop :=
  ∃ j ∈ s.resynchronizations, j ≠ i ∧ (u.requests j).resynchronizationInfo.map (·.auts) =
    (u.requests i).resynchronizationInfo.map (·.auts)

/-- The request goes on from an SQNms that was above the stored number. -/
def NewSqnMs (s : AuthState) (i : ℕ) (sqnMs : List UInt8) : Prop :=
  ∃ sqnS, s.progress i = .resynchronized sqnS sqnMs true

/-- What is asked of an operation that leads from `s` to `s'`. -/
structure StepFollows (s : AuthState) (i : ℕ) (s' : AuthState) : Prop where
  increasing : ∀ v, s'.issued = s.issued ++ [v] → (∀ sqnMs, ¬ NewSqnMs s i sqnMs) →
    ∀ w ∈ s.issued, concealedSqn u.aka w < concealedSqn u.aka v
  resynchronized : ∀ v, s'.issued = s.issued ++ [v] → ∀ sqnMs, NewSqnMs s i sqnMs →
    sqnValue sqnMs < concealedSqn u.aka v
  stored : (u.requests i).sqnMs u.aka = none ∨ u.Replayed s i → parseHex s.stored ≤ parseHex s'.stored

/-- Every number is below `2 ^ 48 - 64`. -/
def StepInRange (s : AuthState) (i : ℕ) : Prop :=
  match s.progress i with
  | .fetched sqnS _ | .resynchronized sqnS _ _ => parseHex sqnS < 2 ^ 48 - 64
  | _ => True

/-- An AUTS was not used before, and its SQNms is not far below the numbers that were issued. The stored number is not
above the one the request goes on with. -/
def StepConforms (s : AuthState) (i : ℕ) : Prop :=
  match s.progress i with
  | .fetched sqnS _ =>
    match (u.requests i).sqnMs u.aka with
    | some sqnMs => ¬ u.Replayed s i ∧ ∀ w ∈ s.issued, concealedSqn u.aka w < sqnValue sqnMs + 32
    | none => parseHex s.stored ≤ parseHex sqnS
  | .resynchronized sqnS _ _ => parseHex s.stored ≤ parseHex sqnS
  | _ => True

/-- A step changes the sequence number as it should. -/
def Follows (s : Option AuthState) (i : ℕ) : Prop :=
  ∀ t, s = some t → ∀ t', u.handle t i = some t' → u.StepFollows t i t'

/-- A step leaves the sequence number below its limit. -/
def InRange (s : Option AuthState) (i : ℕ) : Prop := ∀ t, s = some t → StepInRange t i

/-- A step meets its condition in the state that it finds. -/
def Conforms (s : Option AuthState) (i : ℕ) : Prop := ∀ t, s = some t → u.StepConforms t i

end Subscriber

/-! ## Numbers as strings -/

theorem foldl_halves (v : List UInt8) (n : ℕ) :
    (halves v).foldl (fun n d => 16 * n + d) n = v.foldl (fun n b => 256 * n + b.toNat) n := by
  induction v generalizing n with
  | nil => rfl
  | cons b v ih =>
    have hstep : 16 * (16 * n + b.toNat / 16) + b.toNat % 16 = 256 * n + b.toNat := by omega
    simp only [halves, List.flatMap_cons, List.cons_append, List.nil_append, List.foldl_cons] at ih ⊢
    rw [ih, hstep]

theorem parseHex_append {string rest : Str} {v : List UInt8} (h : IsHexOf string v)
    (hrest : ∀ c ∈ rest.head?, hexValue c = none) : parseHex (string ++ rest) = sqnValue v := by
  have hall : ∀ d ∈ (halves v).map some, d.isSome := by simp
  have hstop : (rest.map hexValue).takeWhile Option.isSome = [] := by
    cases rest with
    | nil => rfl
    | cons c rest => simp [hrest c rfl]
  rw [parseHex, List.map_append, h, List.takeWhile_append_of_pos hall, hstop, List.append_nil, List.foldl_map]
  exact foldl_halves v 0

theorem parseHex_of_isHexOf {string : Str} {v : List UInt8} (h : IsHexOf string v) : parseHex string = sqnValue v := by
  have happ : parseHex (string ++ []) = sqnValue v := parseHex_append h (by simp)
  rwa [List.append_nil] at happ

/-- The six octets of a number. -/
def sqnOctets (n : ℕ) : List UInt8 :=
  [UInt8.ofNat (n / 256 ^ 5), UInt8.ofNat (n / 256 ^ 4), UInt8.ofNat (n / 256 ^ 3), UInt8.ofNat (n / 256 ^ 2),
    UInt8.ofNat (n / 256), UInt8.ofNat n]

theorem sqnValue_sqnOctets {n : ℕ} (h : n < 2 ^ 48) : sqnValue (sqnOctets n) = n := by
  simp only [sqnValue, sqnOctets, List.foldl_cons, List.foldl_nil, UInt8.toNat_ofNat']
  omega

theorem uint8ToHexString_sqnOctets {n : ℕ} (h : n < 2 ^ 48) : uint8ToHexString (sqnOctets n) = hex 12 n := by
  rw [hex_eq_fixed (by decide) (by omega)]
  simp only [uint8ToHexString, sqnOctets, List.flatMap_cons, List.flatMap_nil, hex_octet, fixed, List.cons_append,
    List.nil_append, List.append_nil, UInt8.toNat_ofNat', Nat.div_div_eq_div_mul, List.cons.injEq, and_true]
  refine ⟨?_, ?_, ?_, ?_, ?_, ?_, ?_, ?_, ?_, ?_, ?_, ?_⟩ <;> congr 1 <;> omega

theorem isHexOf_incrementSqn {string : Str} (h : parseHex string + 32 < 2 ^ 48) :
    IsHexOf (incrementSqn string) (sqnOctets (parseHex string + 32)) := by
  rw [incrementSqn, Nat.mod_eq_of_lt (by omega), ← uint8ToHexString_sqnOctets h]
  exact isHexOf_uint8ToHexString _

theorem parseHex_incrementSqn {string : Str} (h : parseHex string + 32 < 2 ^ 48) :
    parseHex (incrementSqn string) = parseHex string + 32 := by
  rw [parseHex_of_isHexOf (isHexOf_incrementSqn h), sqnValue_sqnOctets h]

theorem xorOctets_cancel {v w : List UInt8} (h : v.length = w.length) : xorOctets (xorOctets v w) w = v := by
  induction v generalizing w with
  | nil => cases w <;> rfl
  | cons b v ih =>
    cases w with
    | nil => cases h
    | cons c w =>
      have hrest := ih (w := w) (by simpa using h)
      simp only [xorOctets, List.zipWith_cons_cons] at hrest ⊢
      rw [hrest, UInt8.xor_assoc, UInt8.xor_self, UInt8.xor_zero]

theorem concealedSqn_generateAutn (aka : Milenage) (rand amf macA : List UInt8) {sqn : List UInt8}
    (h : sqn.length = 6) : concealedSqn aka ⟨rand, generateAutn sqn (aka.f5 rand) amf macA⟩ = sqnValue sqn := by
  have hlen : (xorOctets sqn (aka.f5 rand)).length = 6 := by
    simp [xorOctets, h, aka.length_f5]
  have htake : (generateAutn sqn (aka.f5 rand) amf macA).take 6 = xorOctets sqn (aka.f5 rand) := by
    rw [generateAutn, List.append_assoc, List.take_append_of_le_length hlen.ge, List.take_of_length_le hlen.le]
  rw [concealedSqn, htake, xorOctets_cancel (by rw [h, aka.length_f5])]

theorem length_sqnMs {aka : Milenage} {r : AuthRequest} {sqnMs : List UInt8} (h : r.sqnMs aka = some sqnMs) :
    sqnMs.length = 6 := by
  obtain ⟨info, -, hderive⟩ := Option.bind_eq_some_iff.mp h
  simp only [sqnMsDerive] at hderive
  split at hderive
  · cases hderive
    simp [xorOctets, aka.length_f5star, info.length_auts]
  · cases hderive

/-! ## One operation -/

namespace Subscriber

variable {u : Subscriber} {s s' : AuthState} {i : ℕ}

/-- Six octets that are the number of the string. -/
def GoodProgress : Progress → Prop
  | .fetched _ sqn => sqn.length = 6
  | .resynchronized sqnS sqn _ => sqn.length = 6 ∧ parseHex sqnS = sqnValue sqn
  | _ => True

/-- What every operation keeps. -/
structure Good (u : Subscriber) (s : AuthState) : Prop where
  stored : ∃ v, v.length = 6 ∧ IsHexOf s.stored v
  progress : ∀ i, GoodProgress (s.progress i)
  issued : ∀ w ∈ s.issued, concealedSqn u.aka w < parseHex s.stored + 32

theorem StepFollows.of_issued_eq (hissued : s'.issued = s.issued)
    (hstored : (u.requests i).sqnMs u.aka = none ∨ u.Replayed s i → parseHex s.stored ≤ parseHex s'.stored) :
    u.StepFollows s i s' := by
  have hno : ∀ v, s'.issued ≠ s.issued ++ [v] := by
    intro v hv
    simpa [hissued] using congrArg List.length hv
  exact ⟨fun v hv => absurd hv (hno v), fun v hv => absurd hv (hno v), hstored⟩

theorem goodProgress_update {progress : ℕ → Progress} (h : ∀ i, GoodProgress (progress i)) {p : Progress}
    (hp : GoodProgress p) (i j : ℕ) : GoodProgress (Function.update progress i p j) := by
  by_cases hij : j = i
  · rw [hij, Function.update_self]
    exact hp
  · rw [Function.update_of_ne hij]
    exact h j

theorem fetch_spec (h : u.Good s) (hfetch : fetch s i = some s') : u.StepFollows s i s' ∧ u.Good s' := by
  obtain ⟨v, hlen, hhex⟩ := h.stored
  rw [fetch, hexStrToUint8_of_isHexOf hhex (by simp [hlen])] at hfetch
  cases hfetch
  exact ⟨.of_issued_eq rfl fun _ => le_rfl, h.stored,
    goodProgress_update (p := .fetched s.stored v) h.progress hlen i, h.issued⟩

theorem parseHex_cut {sqnMs : List UInt8} (h : sqnMs.length = 6) (stack : List UInt8) :
    parseHex ((uint8ToHexString (sqnMs ++ stack)).set 12 '\x00') = sqnValue sqnMs := by
  have hhex := isHexOf_uint8ToHexString sqnMs
  have hlen : (uint8ToHexString sqnMs).length = 12 := by rw [hhex.length_eq, h]
  have happend : uint8ToHexString (sqnMs ++ stack) = uint8ToHexString sqnMs ++ uint8ToHexString stack :=
    List.flatMap_append
  rw [happend, List.set_append_right _ _ hlen.le, hlen]
  refine parseHex_append hhex fun c hc => ?_
  cases hstack : uint8ToHexString stack with
  | nil =>
    rw [hstack] at hc
    cases hc
  | cons d string =>
    rw [hstack] at hc
    cases hc
    decide

theorem resynchronize_spec (h : u.Good s) {sqnMs : List UInt8} (hsqn : (u.requests i).sqnMs u.aka = some sqnMs)
    (hfresh : ¬ u.Replayed s i) (hissued : ∀ w ∈ s.issued, concealedSqn u.aka w < sqnValue sqnMs + 32) :
    u.StepFollows s i (u.resynchronize s i sqnMs) ∧ u.Good (u.resynchronize s i sqnMs) := by
  have hlen := length_sqnMs hsqn
  have hhex := isHexOf_uint8ToHexString sqnMs
  refine ⟨.of_issued_eq rfl fun hstale => ?_, ⟨sqnMs, hlen, hhex⟩,
    goodProgress_update (p := .resynchronized _ sqnMs _) h.progress ⟨hlen, parseHex_cut hlen _⟩ i, fun w hw => ?_⟩
  · rcases hstale with hnone | hreplayed
    · rw [hsqn] at hnone
      cases hnone
    · exact absurd hreplayed hfresh
  · change _ < parseHex (uint8ToHexString sqnMs) + 32
    rw [parseHex_of_isHexOf hhex]
    exact hissued w hw

/-- A vector with the next number but 31, and a store with the one after it. -/
theorem finish_spec (h : u.Good s) {sqnS : Str} {sqn : List UInt8} (hlen : sqn.length = 6)
    (hnew : ∀ sqnMs, NewSqnMs s i sqnMs → parseHex sqnS = sqnValue sqnMs) (hrange : parseHex sqnS < 2 ^ 48 - 64)
    (hle : parseHex s.stored ≤ parseHex sqnS) (hfinish : u.finish s i sqnS sqn = some s') :
    u.StepFollows s i s' ∧ u.Good s' := by
  have hcurrent : parseHex (incrementSqn sqnS) = parseHex sqnS + 32 := parseHex_incrementSqn (by omega)
  have hhex := isHexOf_incrementSqn (by omega : parseHex sqnS + 32 < 2 ^ 48)
  have hnext := isHexOf_incrementSqn (by omega : parseHex (incrementSqn sqnS) + 32 < 2 ^ 48)
  have hstored : parseHex (incrementSqn (incrementSqn sqnS)) = parseHex sqnS + 64 := by
    rw [parseHex_incrementSqn (by omega), hcurrent]
  rw [finish, hexStrToUint8_of_isHexOf hhex hlen] at hfinish
  cases hfinish
  have hconcealed := concealedSqn_generateAutn u.aka (u.requests i).rand u.amf
    (u.aka.f1 (u.requests i).rand (sqnOctets (parseHex sqnS + 32)) u.amf)
    (by rfl : (sqnOctets (parseHex sqnS + 32)).length = 6)
  rw [sqnValue_sqnOctets (by omega)] at hconcealed
  refine ⟨⟨fun v hv _ w hw => ?_, fun v hv sqnMs hms => ?_, fun _ => ?_⟩, ⟨_, by rfl, hnext⟩,
    goodProgress_update (p := .answered) h.progress trivial i, fun w hw => ?_⟩
  · cases List.append_cancel_left hv
    rw [hconcealed]
    have hw' := h.issued w hw
    omega
  · cases List.append_cancel_left hv
    rw [hconcealed, hnew sqnMs hms]
    omega
  · change _ ≤ parseHex (incrementSqn (incrementSqn sqnS))
    omega
  · change _ < parseHex (incrementSqn (incrementSqn sqnS)) + 32
    rw [hstored]
    rcases List.mem_append.mp hw with hw | hw
    · have hw' := h.issued w hw
      omega
    · rw [List.mem_singleton.mp hw, hconcealed]
      omega

theorem stepConforms_of_sqnMs {sqnS : Str} {sqn m : List UInt8} (hprogress : s.progress i = .fetched sqnS sqn)
    (hm : (u.requests i).sqnMs u.aka = some m) (hfresh : ¬ u.Replayed s i)
    (hissued : ∀ w ∈ s.issued, concealedSqn u.aka w < sqnValue m + 32) : u.StepConforms s i := by
  simp only [StepConforms, hprogress, hm]
  exact ⟨hfresh, hissued⟩

/-- **An operation that conforms does what it should.** -/
theorem handle_spec (h : u.Good s) (hrange : StepInRange s i) (hc : u.StepConforms s i)
    (hstep : u.handle s i = some s') : u.StepFollows s i s' ∧ u.Good s' := by
  simp only [handle] at hstep
  simp only [StepInRange] at hrange
  simp only [StepConforms] at hc
  cases hprogress : s.progress i with
  | waiting =>
    rw [hprogress] at hstep
    exact fetch_spec h hstep
  | fetched sqnS sqn =>
    simp only [hprogress] at hstep hrange hc
    have hlen : GoodProgress (.fetched sqnS sqn) := hprogress ▸ h.progress i
    cases hsqn : (u.requests i).sqnMs u.aka with
    | some sqnMs =>
      simp only [hsqn] at hstep hc
      cases hstep
      exact resynchronize_spec h hsqn hc.1 hc.2
    | none =>
      simp only [hsqn] at hstep hc
      refine finish_spec h hlen ?_ hrange hc hstep
      rintro sqnMs ⟨sqnS', hms⟩
      rw [hprogress] at hms
      cases hms
  | resynchronized sqnS sqn exceeds =>
    simp only [hprogress] at hstep hrange hc
    have hlen : GoodProgress (.resynchronized sqnS sqn exceeds) := hprogress ▸ h.progress i
    refine finish_spec h hlen.1 ?_ hrange hc hstep
    rintro sqnMs ⟨sqnS', hms⟩
    rw [hprogress] at hms
    cases hms
    exact hlen.2
  | answered =>
    rw [hprogress] at hstep
    cases hstep
    exact ⟨.of_issued_eq rfl fun _ => le_rfl, h⟩

/-! ## Runs -/

/-- Before the first request. -/
def start (stored : Str) : AuthState := ⟨stored, fun _ => .waiting, [], []⟩

theorem good_start {stored : Str} {v : List UInt8} (hlen : v.length = 6) (hhex : IsHexOf stored v) :
    u.Good (start stored) := ⟨⟨v, hlen, hhex⟩, fun _ => trivial, fun _ hw => absurd hw List.not_mem_nil⟩

/-- **Sequence numbers do not go back**: in every interleaving whose operations conform, each one does what it
should. -/
theorem sqn_increases {stored : Str} {v : List UInt8} (hlen : v.length = 6) (hhex : IsHexOf stored v)
    {operations : List ℕ}
    (hc : Along u.authStep (fun s i => InRange s i ∧ u.Conforms s i) (some (start stored)) operations) :
    Along u.authStep u.Follows (some (start stored)) operations := by
  refine Along.mono_of_invariant (I := fun s => ∀ t, s = some t → u.Good t) ?_ ?_ ?_ hc
  · rintro s i hs ⟨hr, hc⟩ t' ht'
    obtain ⟨t, ht, hstep⟩ := Option.bind_eq_some_iff.mp ht'
    exact (handle_spec (hs t ht) (hr t ht) (hc t ht) hstep).2
  · rintro s i hs ⟨hr, hc⟩ t ht t' hstep
    exact (handle_spec (hs t ht) (hr t ht) (hc t ht) hstep).1
  · rintro _ ⟨⟩
    exact good_start hlen hhex

end Subscriber

/-! ## Two requests -/

/-- Functions that show their arguments. -/
def plainAka : Milenage where
  f1 _ sqn amf := sqn ++ amf
  f1star _ sqn amf := sqn ++ amf
  f5 rand := (rand ++ List.replicate 6 0).take 6
  f5star rand := (rand ++ List.replicate 6 0).take 6
  length_f5 _ := by simp
  length_f5star _ := by simp

/-- The second request has the AUTS of SQNms 256. -/
def testSubscriber : Subscriber where
  aka := plainAka
  amf := [0x80, 0]
  requests i :=
    if i = 1 then ⟨some ⟨[], [0, 0, 0, 0, 1, 0, 0, 0, 0, 0, 1, 0, 0, 0], rfl⟩, [1], []⟩ else ⟨none, [2], []⟩

/-- The sequence number 32 as stored. -/
def testSqn : Str := uint8ToHexString [0, 0, 0, 0, 0, 32]

open Subscriber in
/-- One after the other. -/
theorem sqn_increases_sequential : IsHexOf testSqn [0, 0, 0, 0, 0, 32] ∧
    Along testSubscriber.authStep testSubscriber.Follows (some (start testSqn)) [0, 0, 1, 1, 1] := by
  refine ⟨isHexOf_uint8ToHexString _, sqn_increases rfl (isHexOf_uint8ToHexString _)
    ⟨⟨?_, ?_⟩, ⟨?_, ?_⟩, ⟨?_, ?_⟩, ⟨?_, ?_⟩, ⟨?_, ?_⟩, trivial⟩⟩
  · rintro _ ⟨⟩
    trivial
  · rintro _ ⟨⟩
    trivial
  · rintro _ ⟨⟩
    change parseHex testSqn < 2 ^ 48 - 64
    decide
  · rintro _ ⟨⟩
    exact le_refl (parseHex testSqn)
  · rintro _ ⟨⟩
    trivial
  · rintro _ ⟨⟩
    trivial
  · rintro _ ⟨⟩
    change parseHex (incrementSqn (incrementSqn testSqn)) < 2 ^ 48 - 64
    decide
  · rintro _ ⟨⟩
    refine stepConforms_of_sqnMs (m := [0, 0, 0, 0, 1, 0]) rfl (by decide) ?_ ?_
    · rintro ⟨j, hj, -⟩
      cases hj
    · intro w hw
      cases List.mem_singleton.mp hw
      decide
  · rintro _ ⟨⟩
    change parseHex ((uint8ToHexString [0, 0, 0, 0, 1, 0]).set 12 '\x00') < 2 ^ 48 - 64
    decide
  · rintro _ ⟨⟩
    change parseHex (uint8ToHexString [0, 0, 0, 0, 1, 0]) ≤
      parseHex ((uint8ToHexString [0, 0, 0, 0, 1, 0]).set 12 '\x00')
    decide

open Subscriber in
/-- Two requests that overlap: the same number twice. -/
theorem not_sqn_increases_overlapping :
    Along testSubscriber.authStep InRange (some (start testSqn)) [0, 2, 0, 2] ∧
      ¬ Along testSubscriber.authStep testSubscriber.Follows (some (start testSqn)) [0, 2, 0, 2] := by
  refine ⟨⟨?_, ?_, ?_, ?_, trivial⟩, ?_⟩
  · rintro _ ⟨⟩
    trivial
  · rintro _ ⟨⟩
    trivial
  · rintro _ ⟨⟩
    change parseHex testSqn < 2 ^ 48 - 64
    decide
  · rintro _ ⟨⟩
    change parseHex testSqn < 2 ^ 48 - 64
    decide
  · rintro ⟨-, -, -, h, -⟩
    have hlt := (h _ rfl _ rfl).increasing _ rfl (fun sqnMs ⟨_, hms⟩ => by cases hms) _ List.mem_cons_self
    exact absurd hlt (by decide)

end Oai5g.Udm
