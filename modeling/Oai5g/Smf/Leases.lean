import Oai5g.Smf.Paa
import Oai5g.Lib.Run

/-!
# UE addresses are leased uniquely

* `PaaState`: the pools with the addresses that are leased.
* `LeasesExact`, `LeaseRule`: the free addresses of a pool are those of its range that are not leased, and
  what follows for each call.
* `ReleaseFinds`: the first pool that claims the released address has it.
* `PoolInv`: the words of one pool; **`leases_unique`**.
-/

namespace Oai5g.Smf

/-! ## Configurations -/

/-- An address range with its pool. -/
structure PoolRange where
  poolId : ℤ
  first : Addr
  range : BitVec 32
  deriving DecidableEq

namespace PoolRange

variable (c : PoolRange) (a : Addr)

/-- The address lies in the range. -/
def contains : Bool := (a - c.first).toNat < c.range.toNat

/-- `in_pool` on the range. -/
def claims : Bool := (a - c.first).toInt < c.range.toInt

end PoolRange

/-- The addresses that a configured pool holds. -/
def rangeOf : AddPool → Option (DnnLabel × PoolRange)
  | .ipv4 dnn poolId first range => if 0 ≤ poolId then some (dnn, ⟨poolId, first, range⟩) else none
  | .ipv6 .. => none

/-- The IPv4 ranges of a configuration with their DNNs. -/
def ranges (cfg : List AddPool) : List (DnnLabel × PoolRange) := cfg.filterMap rangeOf

/-- The ranges of a DNN, in the order of its pools. -/
def rangesOf (cfg : List AddPool) (dnn : DnnLabel) : List PoolRange :=
  (ranges cfg).filterMap fun x => if x.1 = dnn then some x.2 else none

/-- Pools with different ids have no address in common; the same id is the same pool. -/
def PoolsDisjoint (cfg : List AddPool) : Prop :=
  ∀ x ∈ ranges cfg, ∀ y ∈ ranges cfg,
    if x.2.poolId = y.2.poolId then x.2.first = y.2.first ∧ x.2.range = y.2.range
    else ∀ a, ¬ (x.2.contains a = true ∧ y.2.contains a = true)

/-! ## Leases -/

/-- The pools and the addresses that are leased. -/
structure PaaState where
  paa : PaaDynamic
  leased : Finset Addr

/-- A call that takes or gives back an address. -/
inductive PaaCall
  | getFreePaa (dnn : DnnLabel) (type : PduSessionType)
  | releasePaa (dnn : DnnLabel) (type : Option PduSessionType) (a : Addr)

/-- The address is released: it is one of the DNN, and the type has an IPv4 address. -/
def releases (cfg : List AddPool) (dnn : DnnLabel) (type : Option PduSessionType) (a : Addr) : Bool :=
  (type = none || type = some .ipv4 || type = some .ipv4v6) && (rangesOf cfg dnn).any (·.contains a)

/-- The configured pools, with nothing handed out. -/
def PaaState.init (cfg : List AddPool) : PaaState := ⟨cfg.foldl PaaDynamic.addPool .empty, ∅⟩

/-- The address a call hands out. -/
def handedOut (s : PaaState) (dnn : DnnLabel) (type : PduSessionType) : Option Addr :=
  (s.paa.getFreePaa dnn type).2.bind Paa.ipv4Address

/-- One call. -/
def paaStep (cfg : List AddPool) (s : PaaState) : PaaCall → PaaState
  | .getFreePaa dnn type =>
    ⟨(s.paa.getFreePaa dnn type).1, (handedOut s dnn type).elim s.leased fun a => insert a s.leased⟩
  | .releasePaa dnn type a =>
    ⟨s.paa.releasePaa dnn type a, if releases cfg dnn type a then s.leased.erase a else s.leased⟩

/-- A bit that is not set. -/
def Clear (m : WordMap) (b : ℕ) : Prop :=
  ∃ w, m.word (b / 32 : ℕ) = some w ∧ w.getLsbD (b % 32) = false

/-- The pool can hand out the address. -/
def Ipv4Pool.Free (p : Ipv4Pool) (a : Addr) : Prop := ∃ b, Clear p.alloc b ∧ a = p.start + BitVec.ofNat 32 b

/-- **The free addresses of a pool are those of its range that are not leased.** -/
def LeasesExact (cfg : List AddPool) (s : PaaState) : Prop :=
  ∀ x ∈ ranges cfg, ∀ a, (s.paa.ipv4Pool x.2.poolId).Free a ↔ x.2.contains a = true ∧ a ∉ s.leased

/-- **What should hold of a call.** -/
def LeaseRule (cfg : List AddPool) (s : PaaState) : PaaCall → Prop
  | .getFreePaa dnn type =>
    (∀ a, handedOut s dnn type = some a → a ∉ s.leased ∧ ∃ c ∈ rangesOf cfg dnn, c.contains a = true) ∧
    (type = .ipv4 → (s.paa.getFreePaa dnn type).2 = none →
      ∀ c ∈ rangesOf cfg dnn, ∀ a, c.contains a = true → a ∈ s.leased)
  | .releasePaa dnn type a =>
    ∀ x ∈ ranges cfg, ∀ b,
      ((paaStep cfg s (.releasePaa dnn type a)).paa.ipv4Pool x.2.poolId).Free b ↔
        (s.paa.ipv4Pool x.2.poolId).Free b ∨
          b = a ∧ releases cfg dnn type a = true ∧ a ∈ s.leased ∧ x.2.contains a = true

/-- **The condition on a release.** -/
def ReleaseFinds (cfg : List AddPool) : PaaCall → Prop
  | .getFreePaa _ _ => True
  | .releasePaa dnn _ a => (rangesOf cfg dnn).find? (·.claims a) = (rangesOf cfg dnn).find? (·.contains a)

/-! ## Bits -/

theorem firstClearBit_spec {w : BitVec 32} (h : w ≠ BitVec.allOnes 32) :
    firstClearBit w < 32 ∧ w.getLsbD (firstClearBit w) = false := by
  have hclear : ∃ i ∈ List.range 32, (!w.getLsbD i) = true := by
    by_contra hall
    simp only [not_exists, not_and, List.mem_range, Bool.not_eq_true', Bool.not_eq_false] at hall
    refine h (BitVec.eq_of_getLsbD_eq fun i hi => ?_)
    rw [hall i hi, BitVec.getLsbD_allOnes, decide_eq_true hi]
  obtain ⟨k, hk⟩ := Option.isSome_iff_exists.mp (List.find?_isSome.mpr hclear)
  have hmem := List.mem_range.mp (List.mem_of_find?_eq_some hk)
  have hbit := List.find?_some hk
  have hfirst : firstClearBit w = k := by
    unfold firstClearBit
    rw [hk]
    rfl
  rw [hfirst]
  exact ⟨hmem, by simpa using hbit⟩

namespace WordMap

variable {m : WordMap} {i : ℤ} {w : BitVec 32} {k : ℕ}

theorem read_of_some (h : m.word i = some w) : m.read i = (m, w) := by
  unfold read
  rw [h]

theorem size_set_of_some (h : m.word i = some w) (w' : BitVec 32) : (m.set i w').size = m.size := by
  unfold set
  rw [h]
  rfl

theorem isSome_set (h : m.word i = some w) (w' : BitVec 32) (j : ℤ) :
    ((m.set i w').word j).isSome = (m.word j).isSome := by
  by_cases hj : j = i
  · subst hj
    rw [h]
    simp [set]
  · simp [set, hj]

end WordMap

section

variable {m : WordMap} {i k : ℕ} {w : BitVec 32}

theorem clear_of_word (h : m.word i = some w) (hk : k < 32) :
    Clear m (32 * i + k) ↔ w.getLsbD k = false := by
  have hdiv : (32 * i + k) / 32 = i := by omega
  have hmod : (32 * i + k) % 32 = k := by omega
  unfold Clear
  rw [hdiv, hmod, h]
  simp

theorem clear_of_word_div (h : m.word i = some w) {b : ℕ} (hb : b / 32 = i) :
    Clear m b ↔ w.getLsbD (b % 32) = false := by
  rw [← clear_of_word h (Nat.mod_lt b (by decide)), ← hb, Nat.div_add_mod]

theorem clear_set_of_ne {b : ℕ} (w' : BitVec 32) (hb : b / 32 ≠ i) : Clear (m.set i w') b ↔ Clear m b := by
  have hne : ((b / 32 : ℕ) : ℤ) ≠ i := by exact_mod_cast hb
  unfold Clear WordMap.set
  dsimp only
  rw [Function.update_of_ne hne]

theorem clear_set_self {b : ℕ} (w' : BitVec 32) (hb : b / 32 = i) :
    Clear (m.set i w') b ↔ w'.getLsbD (b % 32) = false := by
  unfold Clear WordMap.set
  dsimp only
  rw [hb, Function.update_self]
  simp

theorem clear_setBit (h : m.word i = some w) (hk : k < 32) (b : ℕ) :
    Clear (m.set i (w ||| BitVec.twoPow 32 k)) b ↔ Clear m b ∧ b ≠ 32 * i + k := by
  by_cases hb : b / 32 = i
  · have hbk : b = 32 * i + k ↔ b % 32 = k := by omega
    have hmod : b % 32 < 32 := Nat.mod_lt _ (by decide)
    rw [clear_set_self _ hb, clear_of_word_div h hb, Ne, hbk, BitVec.getLsbD_or, BitVec.getLsbD_twoPow]
    by_cases hkb : k = b % 32
    · simp [hkb, hmod]
    · simp [hkb, Ne.symm hkb]
  · rw [clear_set_of_ne _ hb]
    refine (and_iff_left ?_).symm
    omega

theorem clear_resetBit (h : m.word i = some w) (hk : k < 32) (b : ℕ) :
    Clear (m.set i (w &&& ~~~BitVec.twoPow 32 k)) b ↔ Clear m b ∨ b = 32 * i + k := by
  by_cases hb : b / 32 = i
  · have hbk : b = 32 * i + k ↔ b % 32 = k := by omega
    have hmod : b % 32 < 32 := Nat.mod_lt _ (by decide)
    rw [clear_set_self _ hb, clear_of_word_div h hb, hbk, BitVec.getLsbD_and, BitVec.getLsbD_not, BitVec.getLsbD_twoPow]
    by_cases hkb : k = b % 32
    · simp [hkb, hmod]
    · simp [hkb, hmod, Ne.symm hkb]
  · rw [clear_set_of_ne _ hb]
    refine (or_iff_left ?_).symm
    omega

end

/-! ## One pool -/

/-- The words from 0 to `n` are there, and no others. -/
def HasWords (m : WordMap) (n : ℕ) : Prop :=
  m.size = n ∧ ∀ j : ℤ, (m.word j).isSome = true ↔ 0 ≤ j ∧ j < n

section

variable {m : WordMap} {n i : ℕ}

theorem HasWords.word (h : HasWords m n) (hi : i < n) : ∃ w, m.word i = some w :=
  Option.isSome_iff_exists.mp ((h.2 i).mpr ⟨Int.natCast_nonneg i, by exact_mod_cast hi⟩)

theorem HasWords.set (h : HasWords m n) (hi : i < n) (w' : BitVec 32) : HasWords (m.set i w') n := by
  obtain ⟨w, hw⟩ := h.word hi
  refine ⟨(WordMap.size_set_of_some hw w').trans h.1, fun j => ?_⟩
  rw [WordMap.isSome_set hw]
  exact h.2 j

theorem HasWords.push (h : HasWords m n) (w' : BitVec 32) : HasWords (m.set n w') (n + 1) := by
  have hnone : (m.word n).isSome = false := by
    rw [Bool.eq_false_iff]
    intro hs
    exact absurd ((h.2 n).mp hs).2 (lt_irrefl _)
  refine ⟨?_, fun j => ?_⟩
  · unfold WordMap.set
    rw [hnone, h.1]
    rfl
  · unfold WordMap.set
    dsimp only
    by_cases hj : j = n
    · subst hj
      simp
    · rw [Function.update_of_ne hj, h.2 j]
      omega

theorem HasWords.not_clear (h : HasWords m n) {b : ℕ} (hb : 32 * n ≤ b) : ¬ Clear m b := by
  rintro ⟨w, hw, -⟩
  have hlt := ((h.2 _).mp (Option.isSome_iff_exists.mpr ⟨w, hw⟩)).2
  omega

theorem allocFreeBitFrom_spec (h : HasWords m n) (remaining : ℕ) (hi : i + remaining = n) :
    match Ipv4Pool.allocFreeBitFrom m i remaining with
    | none => ∀ b, 32 * i ≤ b → ¬ Clear m b
    | some (m', b) => Clear m b ∧ HasWords m' n ∧ ∀ b', Clear m' b' ↔ Clear m b' ∧ b' ≠ b := by
  induction remaining generalizing i with
  | zero =>
    obtain rfl : i = n := by omega
    exact fun b hb => h.not_clear hb
  | succ remaining ih =>
    obtain ⟨w, hw⟩ := h.word (show i < n by omega)
    unfold Ipv4Pool.allocFreeBitFrom
    rw [WordMap.read_of_some hw]
    dsimp only
    by_cases hfull : w = BitVec.allOnes 32
    · rw [if_neg (not_not.mpr hfull)]
      have hrest := ih (show i + 1 + remaining = n by omega)
      revert hrest
      cases Ipv4Pool.allocFreeBitFrom m (i + 1) remaining with
      | some x => exact id
      | none =>
        intro hrest b hb
        by_cases hnext : 32 * (i + 1) ≤ b
        · exact hrest b hnext
        · have hmod : b % 32 < 32 := Nat.mod_lt _ (by decide)
          have hsplit : b = 32 * i + b % 32 := by omega
          rw [hsplit, clear_of_word hw hmod, hfull, BitVec.getLsbD_allOnes, decide_eq_true hmod]
          decide
    · rw [if_pos hfull]
      obtain ⟨hk, hbit⟩ := firstClearBit_spec hfull
      exact ⟨(clear_of_word hw hk).mpr hbit, h.set (by omega) _, clear_setBit hw hk⟩

end

/-- What holds of the pool of a range. -/
structure PoolInv (c : PoolRange) (leased : Finset Addr) (p : Ipv4Pool) : Prop where
  start : p.start = c.first
  num : p.num = c.range.toInt
  words : HasWords p.alloc ((c.range.toNat + 31) / 32)
  clear : ∀ b, Clear p.alloc b ↔ b < c.range.toNat ∧ c.first + BitVec.ofNat 32 b ∉ leased

section

variable {c : PoolRange} {leased : Finset Addr} {p : Ipv4Pool} {a : Addr}

theorem sub_add_ofNat (first : Addr) (b : ℕ) : first + BitVec.ofNat 32 b - first = BitVec.ofNat 32 b := by
  rw [BitVec.add_comm, BitVec.add_sub_cancel]

theorem PoolRange.contains_add (c : PoolRange) {b : ℕ} (hb : b < c.range.toNat) :
    c.contains (c.first + BitVec.ofNat 32 b) = true := by
  have hlt := c.range.isLt
  unfold contains
  rw [sub_add_ofNat, BitVec.toNat_ofNat, Nat.mod_eq_of_lt (by omega)]
  exact decide_eq_true hb

theorem add_ofNat_toNat (first : Addr) (a : Addr) : first + BitVec.ofNat 32 (a - first).toNat = a := by
  rw [BitVec.ofNat_toNat, BitVec.setWidth_eq, BitVec.add_comm, BitVec.sub_add_cancel]

theorem add_ofNat_injective (first : Addr) {b b' : ℕ} (hb : b < 2 ^ 32) (hb' : b' < 2 ^ 32)
    (h : first + BitVec.ofNat 32 b = first + BitVec.ofNat 32 b') : b = b' := by
  have h' := congrArg (fun x => (x - first).toNat) h
  simp only [sub_add_ofNat, BitVec.toNat_ofNat] at h'
  rwa [Nat.mod_eq_of_lt hb, Nat.mod_eq_of_lt hb'] at h'

theorem PoolInv.free_iff (h : PoolInv c leased p) :
    p.Free a ↔ c.contains a = true ∧ a ∉ leased := by
  constructor
  · rintro ⟨b, hb, rfl⟩
    obtain ⟨hlt, hnot⟩ := (h.clear b).mp hb
    rw [h.start]
    exact ⟨c.contains_add hlt, hnot⟩
  · rintro ⟨hc, hnot⟩
    refine ⟨(a - c.first).toNat, (h.clear _).mpr ⟨of_decide_eq_true hc, ?_⟩, ?_⟩
    · rwa [add_ofNat_toNat]
    · rw [h.start, add_ofNat_toNat]

theorem PoolInv.congr (h : PoolInv c leased p) {leased' : Finset Addr}
    (heq : ∀ a, c.contains a = true → (a ∈ leased' ↔ a ∈ leased)) : PoolInv c leased' p where
  start := h.start
  num := h.num
  words := h.words
  clear b := by
    rw [h.clear]
    refine and_congr_right fun hb => not_congr ?_
    exact (heq _ (c.contains_add hb)).symm

theorem PoolInv.new (c : PoolRange) : PoolInv c ∅ (.new c.first c.range) := by
  have hfold (n : ℕ) : HasWords ((List.range n).foldl (fun (m : WordMap) (i : ℕ) => m.set i 0) .empty) n ∧
      ∀ b, b < 32 * n → Clear ((List.range n).foldl (fun (m : WordMap) (i : ℕ) => m.set i 0) .empty) b := by
    induction n with
    | zero =>
      refine ⟨⟨rfl, fun j => ⟨fun h => (nomatch h), fun h => ?_⟩⟩, fun b hb => ?_⟩ <;> omega
    | succ n ih =>
      rw [List.range_succ, List.foldl_append, List.foldl_cons, List.foldl_nil]
      refine ⟨ih.1.push 0, fun b hb => ?_⟩
      by_cases hn : b / 32 = n
      · rw [clear_set_self _ hn]
        exact BitVec.getLsbD_zero
      · rw [clear_set_of_ne _ hn]
        exact ih.2 b (by omega)
  obtain ⟨hwords, hclear⟩ := hfold (c.range.toNat / 32)
  have hout {b : ℕ} (hb : Clear ((List.range (c.range.toNat / 32)).foldl
      (fun (m : WordMap) (i : ℕ) => m.set i 0) .empty) b) : b < 32 * (c.range.toNat / 32) := by
    by_contra hge
    exact hwords.not_clear (not_lt.mp hge) hb
  refine ⟨rfl, rfl, ?_, fun b => ?_⟩
  · unfold Ipv4Pool.new Ipv4Pool.initWords
    dsimp only
    split_ifs with hmod
    · have : (c.range.toNat + 31) / 32 = c.range.toNat / 32 := by omega
      rw [this]
      exact hwords
    · have : (c.range.toNat + 31) / 32 = c.range.toNat / 32 + 1 := by omega
      rw [this]
      exact hwords.push _
  · unfold Ipv4Pool.new Ipv4Pool.initWords
    dsimp only
    rw [and_iff_left (Finset.notMem_empty _)]
    split_ifs with hmod
    · constructor
      · intro hb
        have := hout hb
        omega
      · exact fun hb => hclear b (by omega)
    · by_cases hn : b / 32 = c.range.toNat / 32
      · have hlt : b % 32 < 32 := Nat.mod_lt _ (by decide)
        rw [clear_set_self _ hn, BitVec.getLsbD_shiftLeft]
        by_cases hb : b % 32 < c.range.toNat % 32
        · simp only [hb, hlt, decide_true, Bool.not_true, Bool.and_false, Bool.false_and]
          exact iff_of_true trivial (by omega)
        · have hsub : b % 32 - c.range.toNat % 32 < 32 := by omega
          simp only [hb, hlt, decide_true, decide_false, Bool.not_false, Bool.true_and,
            BitVec.getLsbD_allOnes, hsub]
          exact iff_of_false (by decide) (by omega)
      · rw [clear_set_of_ne _ hn]
        constructor
        · intro hb
          have := hout hb
          omega
        · exact fun hb => hclear b (by omega)

/-- **An address is allocated**: a free one, and none only when all are leased. -/
theorem PoolInv.allocAddress (h : PoolInv c leased p) :
    match p.allocAddress with
    | none => ∀ a, c.contains a = true → a ∈ leased
    | some (p', a) => a ∉ leased ∧ c.contains a = true ∧ PoolInv c (insert a leased) p' := by
  have hspec := allocFreeBitFrom_spec h.words p.alloc.size (i := 0) (by rw [h.words.1]; omega)
  unfold Ipv4Pool.allocAddress
  revert hspec
  cases Ipv4Pool.allocFreeBitFrom p.alloc 0 p.alloc.size with
  | none =>
    intro hspec a ha
    by_contra hnot
    obtain ⟨b, hb, -⟩ := h.free_iff.mpr ⟨ha, hnot⟩
    exact hspec b (Nat.zero_le _) hb
  | some x =>
    obtain ⟨m', b⟩ := x
    rintro ⟨hb, hwords, hclear⟩
    obtain ⟨hlt, hnot⟩ := (h.clear b).mp hb
    dsimp only [Option.map_some]
    rw [h.start]
    refine ⟨hnot, c.contains_add hlt, ⟨rfl, h.num, hwords, fun b' => ?_⟩⟩
    have hrange := c.range.isLt
    rw [hclear, h.clear, Finset.mem_insert, not_or, and_assoc]
    refine and_congr_right fun hb' => ?_
    rw [and_comm]
    refine and_congr_left fun _ => not_congr ⟨fun heq => by rw [heq], fun heq => ?_⟩
    exact add_ofNat_injective c.first (by omega) (by omega) heq

/-- In a range of fewer than `2 ^ 31` addresses, the signed position is the position. -/
theorem PoolRange.toInt_sub (ha : c.contains a = true) (hrange : 0 ≤ c.range.toInt) :
    (a - c.first).toInt = (a - c.first).toNat ∧ c.range.toInt = c.range.toNat := by
  have hlt : (a - c.first).toNat < c.range.toNat := of_decide_eq_true ha
  have hsize : 2 * c.range.toNat < 2 ^ 32 := by
    by_contra hlarge
    rw [BitVec.toInt_eq_toNat_cond, if_neg hlarge] at hrange
    have hbound := c.range.isLt
    omega
  refine ⟨?_, ?_⟩
  · rw [BitVec.toInt_eq_toNat_cond, if_pos (by omega)]
  · rw [BitVec.toInt_eq_toNat_cond, if_pos hsize]

theorem PoolRange.claims_of_contains (ha : c.contains a = true) (hrange : 0 ≤ c.range.toInt) :
    c.claims a = true := by
  have hlt : (a - c.first).toNat < c.range.toNat := of_decide_eq_true ha
  obtain ⟨h₁, h₂⟩ := PoolRange.toInt_sub ha hrange
  refine decide_eq_true ?_
  rw [h₁, h₂]
  exact_mod_cast hlt

/-- **An address of the range is freed.** -/
theorem PoolInv.freeAddress (h : PoolInv c leased p) (ha : c.contains a = true)
    (hrange : 0 ≤ c.range.toInt) :
    ∃ p', p.freeAddress a = some p' ∧ PoolInv c (leased.erase a) p' := by
  have hlt : (a - c.first).toNat < c.range.toNat := of_decide_eq_true ha
  have hself := add_ofNat_toNat c.first a
  obtain ⟨hpos, hnum⟩ := PoolRange.toInt_sub ha hrange
  have hin : p.inPool a = true := by
    unfold Ipv4Pool.inPool
    rw [h.start, h.num]
    exact PoolRange.claims_of_contains ha hrange
  generalize (a - c.first).toNat = d at *
  obtain ⟨w, hw⟩ := h.words.word (show d / 32 < (c.range.toNat + 31) / 32 by omega)
  have hdiv : (d : ℤ) / 32 = (d / 32 : ℕ) := by omega
  have hmod : ((d : ℤ) % 32).toNat = d % 32 := by omega
  refine ⟨{ p with alloc := p.alloc.set (d / 32 : ℕ) (w &&& ~~~BitVec.twoPow 32 (d % 32)) }, ?_, ?_⟩
  · unfold Ipv4Pool.freeAddress Ipv4Pool.freeBit
    rw [if_pos hin, h.start, h.num, hpos, hnum, if_pos (by exact_mod_cast hlt), hdiv, hmod,
      WordMap.read_of_some hw]
  · refine ⟨h.start, h.num, h.words.set (by omega) _, fun b => ?_⟩
    have hrest := c.range.isLt
    have hd : 32 * (d / 32) + d % 32 = d := by omega
    rw [clear_resetBit hw (Nat.mod_lt _ (by decide)), h.clear, hd, Finset.mem_erase, not_and_or,
      not_not]
    constructor
    · rintro (⟨hb, hnot⟩ | rfl)
      · exact ⟨hb, .inr hnot⟩
      · exact ⟨hlt, .inl hself⟩
    · rintro ⟨hb, heq | hnot⟩
      · exact .inr (add_ofNat_injective c.first (by omega) (by omega) (heq.trans hself.symm))
      · exact .inl ⟨hb, hnot⟩

theorem PoolInv.freeAddress_none (h : PoolInv c leased p) (hclaims : c.claims a = false) :
    p.freeAddress a = none := by
  have hin : p.inPool a = false := by
    unfold Ipv4Pool.inPool
    rw [h.start, h.num]
    exact hclaims
  unfold Ipv4Pool.freeAddress
  rw [hin]
  rfl

end

/-! ## The pools of all DNNs -/

/-- What holds of the pools. -/
structure PaaInv (cfg : List AddPool) (s : PaaState) : Prop where
  pools : ∀ x ∈ ranges cfg, ∃ p, s.paa.ipv4Pools x.2.poolId = some p ∧ PoolInv x.2 s.leased p
  ids : ∀ dnn, (s.paa.dnnPools dnn).ipv4PoolIds = (rangesOf cfg dnn).map PoolRange.poolId

section

variable {cfg : List AddPool} {s : PaaState} {c : PoolRange} {dnn : DnnLabel} {a : Addr}

theorem mem_rangesOf : c ∈ rangesOf cfg dnn ↔ (dnn, c) ∈ ranges cfg := by
  unfold rangesOf
  rw [List.mem_filterMap]
  constructor
  · rintro ⟨⟨d, c'⟩, hmem, heq⟩
    split_ifs at heq with hd
    obtain rfl := Option.some.inj heq
    subst hd
    exact hmem
  · exact fun hmem => ⟨(dnn, c), hmem, if_pos rfl⟩

theorem PoolsDisjoint.eq_of_poolId (h : PoolsDisjoint cfg) {x y : DnnLabel × PoolRange}
    (hx : x ∈ ranges cfg) (hy : y ∈ ranges cfg) (hid : x.2.poolId = y.2.poolId) : x.2 = y.2 := by
  have hxy := h x hx y hy
  rw [if_pos hid] at hxy
  obtain ⟨_, id, first, range⟩ := x
  obtain ⟨_, id', first', range'⟩ := y
  obtain ⟨rfl, rfl⟩ := hxy
  obtain rfl : id = id' := hid
  rfl

theorem PaaInv.ipv4Pool (hs : PaaInv cfg s) {x : DnnLabel × PoolRange} (hx : x ∈ ranges cfg) :
    PoolInv x.2 s.leased (s.paa.ipv4Pool x.2.poolId) := by
  obtain ⟨p, hp, hinv⟩ := hs.pools x hx
  unfold PaaDynamic.ipv4Pool
  rw [hp]
  exact hinv

theorem PaaInv.leasesExact (hs : PaaInv cfg s) : LeasesExact cfg s :=
  fun _ hx _ => (hs.ipv4Pool hx).free_iff

/-- **One pool changes**, and with it at most the leases of its range. -/
theorem PaaInv.setIpv4Pool (hs : PaaInv cfg s) (hcfg : PoolsDisjoint cfg) (hc : (dnn, c) ∈ ranges cfg)
    {p : Ipv4Pool} {leased : Finset Addr} (hp : PoolInv c leased p)
    (hrest : ∀ b, c.contains b = false → (b ∈ leased ↔ b ∈ s.leased)) :
    PaaInv cfg ⟨s.paa.setIpv4Pool c.poolId p, leased⟩ where
  pools x hx := by
    unfold PaaDynamic.setIpv4Pool
    dsimp only
    by_cases hid : x.2.poolId = c.poolId
    · rw [hid, Function.update_self, hcfg.eq_of_poolId hx hc hid]
      exact ⟨p, rfl, hp⟩
    · rw [Function.update_of_ne hid]
      obtain ⟨q, hq, hinv⟩ := hs.pools x hx
      refine ⟨q, hq, hinv.congr fun b hb => hrest b ?_⟩
      have hdisj := hcfg x hx (dnn, c) hc
      rw [if_neg hid] at hdisj
      exact Bool.eq_false_iff.mpr fun hcb => hdisj b ⟨hb, hcb⟩
  ids := hs.ids

theorem ranges_append (cfg : List AddPool) (call : AddPool) :
    ranges (cfg ++ [call]) = ranges cfg ++ (rangeOf call).toList := by
  unfold ranges
  rw [List.filterMap_append]
  cases h : rangeOf call <;> simp [h]

theorem rangesOf_append (cfg : List AddPool) (call : AddPool) (dnn : DnnLabel) :
    rangesOf (cfg ++ [call]) dnn = rangesOf cfg dnn ++
      ((rangeOf call).toList.filterMap fun x => if x.1 = dnn then some x.2 else none) := by
  unfold rangesOf
  rw [ranges_append, List.filterMap_append]

theorem PaaInv.skip {paa paa' : PaaDynamic} {call : AddPool} (hs : PaaInv cfg ⟨paa, ∅⟩)
    (hcall : rangeOf call = none) (hpools : paa'.ipv4Pools = paa.ipv4Pools)
    (hids : ∀ dnn, (paa'.dnnPools dnn).ipv4PoolIds = (paa.dnnPools dnn).ipv4PoolIds) :
    PaaInv (cfg ++ [call]) ⟨paa', ∅⟩ where
  pools x hx := by
    rw [ranges_append, hcall, Option.toList_none, List.append_nil] at hx
    dsimp only
    rw [hpools]
    exact hs.pools x hx
  ids dnn := by
    rw [rangesOf_append, hcall, Option.toList_none, List.filterMap_nil, List.append_nil]
    exact (hids dnn).trans (hs.ids dnn)

theorem dnnPools_update (paa : PaaDynamic) (dnn dnn' : DnnLabel) (pools : DnnDynamicPools) :
    ({ paa with dnns := Function.update paa.dnns dnn (some pools) } : PaaDynamic).dnnPools dnn' =
      if dnn' = dnn then pools else paa.dnnPools dnn' := by
  unfold PaaDynamic.dnnPools
  dsimp only
  split_ifs with h
  · rw [h, Function.update_self]
    rfl
  · rw [Function.update_of_ne h]

/-- Pools that are there are pools of the configuration. -/
def PoolsKnown (cfg : List AddPool) (paa : PaaDynamic) : Prop :=
  ∀ id p, paa.ipv4Pools id = some p → ∃ x ∈ ranges cfg, x.2.poolId = id

/-- **One more pool.** -/
theorem PaaInv.addPool {paa : PaaDynamic} {call : AddPool} (hs : PaaInv cfg ⟨paa, ∅⟩)
    (hknown : PoolsKnown cfg paa) (hcfg : PoolsDisjoint (cfg ++ [call])) :
    PaaInv (cfg ++ [call]) ⟨paa.addPool call, ∅⟩ ∧ PoolsKnown (cfg ++ [call]) (paa.addPool call) := by
  have hsub {x : DnnLabel × PoolRange} (hx : x ∈ ranges cfg) : x ∈ ranges (cfg ++ [call]) := by
    rw [ranges_append]
    exact List.mem_append_left _ hx
  have hold {paa' : PaaDynamic} (h : paa'.ipv4Pools = paa.ipv4Pools) : PoolsKnown (cfg ++ [call]) paa' := by
    intro id p hp
    rw [h] at hp
    obtain ⟨x, hx, hid⟩ := hknown id p hp
    exact ⟨x, hsub hx, hid⟩
  cases call with
  | ipv6 dnn poolId pref prefLen =>
    unfold PaaDynamic.addPool
    dsimp only
    by_cases hpos : 0 ≤ poolId
    · rw [if_pos hpos]
      refine ⟨hs.skip rfl rfl fun dnn' => ?_, hold rfl⟩
      have hupdate := dnnPools_update paa dnn dnn'
        { paa.dnnPools dnn with ipv6PoolIds := (paa.dnnPools dnn).ipv6PoolIds ++ [poolId] }
      refine (congrArg DnnDynamicPools.ipv4PoolIds hupdate).trans ?_
      split_ifs with h
      · rw [h]
      · rfl
    · rw [if_neg hpos]
      exact ⟨hs.skip rfl rfl fun _ => rfl, hold rfl⟩
  | ipv4 dnn poolId first range =>
    by_cases hpos : 0 ≤ poolId
    · have hrange : rangeOf (.ipv4 dnn poolId first range) = some (dnn, ⟨poolId, first, range⟩) := if_pos hpos
      have hmem {x : DnnLabel × PoolRange} (hx : x ∈ ranges (cfg ++ [.ipv4 dnn poolId first range])) :
          x ∈ ranges cfg ∨ x = (dnn, ⟨poolId, first, range⟩) := by
        rw [ranges_append, hrange] at hx
        exact (List.mem_append.mp hx).imp id List.mem_singleton.mp
      have hnew : (dnn, ⟨poolId, first, range⟩) ∈ ranges (cfg ++ [.ipv4 dnn poolId first range]) := by
        rw [ranges_append, hrange]
        exact List.mem_append_right _ (List.mem_singleton_self _)
      unfold PaaDynamic.addPool
      dsimp only
      rw [if_pos hpos]
      refine ⟨⟨fun x hx => ?_, fun dnn' => ?_⟩, fun id p hp => ?_⟩
      · dsimp only
        split_ifs with hsome
        · rcases hmem hx with hx | rfl
          · exact hs.pools x hx
          · obtain ⟨p, hp⟩ := Option.isSome_iff_exists.mp hsome
            obtain ⟨y, hy, hid⟩ := hknown poolId p hp
            have heq := hcfg.eq_of_poolId (hsub hy) hnew hid
            rw [← heq]
            exact hs.pools y hy
        · by_cases hid : x.2.poolId = poolId
          · rcases hmem hx with hx | rfl
            · obtain ⟨p, hp, -⟩ := hs.pools x hx
              rw [hid] at hp
              exact absurd (Option.isSome_iff_exists.mpr ⟨p, hp⟩) hsome
            · exact ⟨_, Function.update_self .., .new _⟩
          · rcases hmem hx with hx | rfl
            · rw [Function.update_of_ne hid]
              exact hs.pools x hx
            · exact absurd rfl hid
      · have hupdate := dnnPools_update paa dnn dnn'
          { paa.dnnPools dnn with ipv4PoolIds := (paa.dnnPools dnn).ipv4PoolIds ++ [poolId] }
        refine (congrArg DnnDynamicPools.ipv4PoolIds hupdate).trans ?_
        rw [rangesOf_append, hrange, List.map_append]
        split_ifs with h
        · subst h
          refine congrArg₂ (· ++ ·) (hs.ids dnn') ?_
          simp
        · have hs' := hs.ids dnn'
          dsimp only at hs'
          rw [hs']
          simp [Ne.symm h]
      · dsimp only at hp
        by_cases hid : id = poolId
        · exact ⟨_, hnew, hid.symm⟩
        · have hp' : paa.ipv4Pools id = some p := by
            split_ifs at hp
            · exact hp
            · rwa [Function.update_of_ne hid] at hp
          obtain ⟨x, hx, hxid⟩ := hknown id p hp'
          exact ⟨x, hsub hx, hxid⟩
    · unfold PaaDynamic.addPool
      dsimp only
      rw [if_neg hpos]
      exact ⟨hs.skip (if_neg hpos) rfl fun _ => rfl, hold rfl⟩

theorem PaaInv.init (hcfg : PoolsDisjoint cfg) : PaaInv cfg (.init cfg) := by
  suffices h : PaaInv cfg (.init cfg) ∧ PoolsKnown cfg (PaaState.init cfg).paa from h.1
  induction cfg using List.reverseRecOn with
  | nil => exact ⟨⟨fun x hx => (nomatch hx), fun dnn => rfl⟩, fun id p hp => (nomatch hp)⟩
  | append_singleton cfg call ih =>
    have hsub {x : DnnLabel × PoolRange} (hx : x ∈ ranges cfg) : x ∈ ranges (cfg ++ [call]) := by
      rw [ranges_append]
      exact List.mem_append_left _ hx
    obtain ⟨hinv, hknown⟩ := ih fun x hx y hy => hcfg x (hsub hx) y (hsub hy)
    have hfold : PaaState.init (cfg ++ [call]) = ⟨(PaaState.init cfg).paa.addPool call, ∅⟩ := by
      unfold PaaState.init
      rw [List.foldl_append]
      rfl
    rw [hfold]
    exact hinv.addPool hknown hcfg

/-! ## The calls -/

theorem PaaInv.allocIpv4 (hs : PaaInv cfg s) (hcfg : PoolsDisjoint cfg) {cs : List PoolRange}
    (hcs : ∀ c ∈ cs, (dnn, c) ∈ ranges cfg) :
    match s.paa.allocIpv4 (cs.map PoolRange.poolId) with
    | none => ∀ c ∈ cs, ∀ a, c.contains a = true → a ∈ s.leased
    | some (paa, id, a) => a ∉ s.leased ∧ PaaInv cfg ⟨paa, insert a s.leased⟩ ∧
        ∃ c ∈ cs, c.poolId = id ∧ c.contains a = true := by
  induction cs with
  | nil => exact fun c hc => (nomatch hc)
  | cons c cs ih =>
    have hc := hcs c List.mem_cons_self
    have hpool := (hs.ipv4Pool hc).allocAddress
    have hrest := ih fun c' hc' => hcs c' (List.mem_cons_of_mem _ hc')
    rw [List.map_cons]
    unfold PaaDynamic.allocIpv4
    dsimp only at hpool ⊢
    revert hpool
    cases (s.paa.ipv4Pool c.poolId).allocAddress with
    | some x =>
      obtain ⟨p, a⟩ := x
      rintro ⟨hnot, hin, hinv⟩
      refine ⟨hnot, hs.setIpv4Pool hcfg hc hinv fun b hb => ?_, c, List.mem_cons_self, rfl, hin⟩
      rw [Finset.mem_insert, or_iff_right]
      rintro rfl
      rw [hin] at hb
      cases hb
    | none =>
      intro hall
      dsimp only
      revert hrest
      cases s.paa.allocIpv4 (cs.map PoolRange.poolId) with
      | none =>
        intro hrest c' hc'
        rcases List.mem_cons.mp hc' with rfl | hc'
        · exact hall
        · exact hrest c' hc'
      | some x =>
        rintro ⟨hnot, hinv, c', hc', hid⟩
        exact ⟨hnot, hinv, c', List.mem_cons_of_mem _ hc', hid⟩

/-- **The address goes back to its pool**, when the first pool that claims it has it. -/
theorem PaaInv.freeIpv4 (hs : PaaInv cfg s) (hcfg : PoolsDisjoint cfg)
    (hsize : ∀ x ∈ ranges cfg, 0 ≤ x.2.range.toInt) {cs : List PoolRange}
    (hcs : ∀ c ∈ cs, (dnn, c) ∈ ranges cfg)
    (hfind : cs.find? (·.claims a) = cs.find? (·.contains a)) :
    match s.paa.freeIpv4 a (cs.map PoolRange.poolId) with
    | none => cs.any (·.contains a) = false
    | some paa => cs.any (·.contains a) = true ∧ PaaInv cfg ⟨paa, s.leased.erase a⟩ := by
  induction cs with
  | nil => rfl
  | cons c cs ih =>
    have hc := hcs c List.mem_cons_self
    rw [List.map_cons, List.any_cons]
    unfold PaaDynamic.freeIpv4
    by_cases hin : c.contains a = true
    · obtain ⟨p, hp, hinv⟩ := (hs.ipv4Pool hc).freeAddress hin (hsize _ hc)
      dsimp only at hp
      rw [hp, hin]
      refine ⟨rfl, hs.setIpv4Pool hcfg hc hinv fun b hb => ?_⟩
      rw [Finset.mem_erase, and_iff_right]
      rintro rfl
      rw [hin] at hb
      cases hb
    · rw [Bool.not_eq_true] at hin
      have hclaims : c.claims a = false := by
        rw [List.find?_cons, List.find?_cons, hin] at hfind
        cases hcl : c.claims a with
        | false => rfl
        | true =>
          rw [hcl] at hfind
          have hcontains := List.find?_some hfind.symm
          rw [hin] at hcontains
          cases hcontains
      have hnone := (hs.ipv4Pool hc).freeAddress_none hclaims
      dsimp only at hnone
      rw [hnone, hin, Bool.false_or]
      rw [List.find?_cons, List.find?_cons, hin, hclaims] at hfind
      exact ih (fun c' hc' => hcs c' (List.mem_cons_of_mem _ hc')) hfind

theorem getFreePaa_step {type : PduSessionType} {paa : PaaDynamic} {r : Option Paa}
    (h : s.paa.getFreePaa dnn type = (paa, r)) :
    paaStep cfg s (.getFreePaa dnn type) =
        ⟨paa, (r.bind Paa.ipv4Address).elim s.leased fun a => insert a s.leased⟩ ∧
      handedOut s dnn type = r.bind Paa.ipv4Address := by
  unfold paaStep handedOut
  dsimp only
  rw [h]
  exact ⟨rfl, rfl⟩

/-- **An address is handed out**, or there is none. -/
theorem PaaInv.getFreePaa (hs : PaaInv cfg s) (hcfg : PoolsDisjoint cfg)
    (hsize : ∀ x ∈ ranges cfg, 0 ≤ x.2.range.toInt) (dnn : DnnLabel) (type : PduSessionType) :
    LeaseRule cfg s (.getFreePaa dnn type) ∧ PaaInv cfg (paaStep cfg s (.getFreePaa dnn type)) := by
  have hids := hs.ids dnn
  unfold PaaDynamic.dnnPools at hids
  have hcs : ∀ c ∈ rangesOf cfg dnn, (dnn, c) ∈ ranges cfg := fun c hc => mem_rangesOf.mp hc
  have halloc := hs.allocIpv4 hcfg hcs
  -- nothing is handed out, for another reason than that all is leased
  have hnothing {paa : PaaDynamic} (hget : s.paa.getFreePaa dnn type = (paa, none))
      (hinv : PaaInv cfg ⟨paa, s.leased⟩) (hall : type = .ipv4 →
        ∀ c ∈ rangesOf cfg dnn, ∀ a, c.contains a = true → a ∈ s.leased) :
      LeaseRule cfg s (.getFreePaa dnn type) ∧ PaaInv cfg (paaStep cfg s (.getFreePaa dnn type)) := by
    obtain ⟨hstep, hout⟩ := @getFreePaa_step cfg s dnn type _ _ hget
    rw [hstep]
    refine ⟨⟨fun a ha => ?_, fun htype _ => hall htype⟩, hinv⟩
    rw [hout] at ha
    cases ha
  have hsome (pref : Option (BitVec 128)) {paa : PaaDynamic} {id : ℤ} {a : Addr}
      (hget : s.paa.getFreePaa dnn type = (paa, some ⟨some a, pref⟩))
      (hspec : a ∉ s.leased ∧ PaaInv cfg ⟨paa, insert a s.leased⟩ ∧
        ∃ c ∈ rangesOf cfg dnn, c.poolId = id ∧ c.contains a = true) :
      LeaseRule cfg s (.getFreePaa dnn type) ∧ PaaInv cfg (paaStep cfg s (.getFreePaa dnn type)) := by
    obtain ⟨hstep, hout⟩ := @getFreePaa_step cfg s dnn type _ _ hget
    obtain ⟨hnot, hinv, c, hc, -, hin⟩ := hspec
    rw [hstep]
    refine ⟨⟨fun b hb => ?_, fun _ hnone => ?_⟩, hinv⟩
    · rw [hout] at hb
      obtain rfl : a = b := Option.some.inj hb
      exact ⟨hnot, c, hc, hin⟩
    · rw [hget] at hnone
      cases hnone
  cases hd : s.paa.dnns dnn with
  | none =>
    rw [hd] at hids
    have hempty : rangesOf cfg dnn = [] := List.map_eq_nil_iff.mp hids.symm
    refine hnothing (by simp only [PaaDynamic.getFreePaa, hd]) hs fun _ c hc => ?_
    rw [hempty] at hc
    cases hc
  | some pools =>
    rw [hd] at hids
    replace hids : pools.ipv4PoolIds = (rangesOf cfg dnn).map PoolRange.poolId := hids
    rw [← hids] at halloc
    cases type with
    | ipv4 =>
      revert halloc
      cases hr : s.paa.allocIpv4 pools.ipv4PoolIds with
      | none => exact fun hall => hnothing (by simp only [PaaDynamic.getFreePaa, hd, hr]) hs fun _ => hall
      | some x =>
        obtain ⟨paa, id, a⟩ := x
        exact fun hspec => hsome none (by simp only [PaaDynamic.getFreePaa, hd, hr]) hspec
    | ipv4v6 =>
      revert halloc
      cases hr : s.paa.allocIpv4 pools.ipv4PoolIds with
      | none =>
        exact fun _ => hnothing (by simp only [PaaDynamic.getFreePaa, hd, hr]) hs fun h => (nomatch h)
      | some x =>
        obtain ⟨paa, id, a⟩ := x
        intro hspec
        cases hr6 : paa.allocIpv6 pools.ipv6PoolIds with
        | some pref => exact hsome (some pref) (by simp only [PaaDynamic.getFreePaa, hd, hr, hr6]) hspec
        | none =>
          -- the IPv4 address goes back
          obtain ⟨hnot, hinv, c, hc, rfl, hin⟩ := hspec
          obtain ⟨p, hp, hpinv⟩ :=
            (hinv.ipv4Pool (hcs c hc)).freeAddress hin (hsize _ (hcs c hc))
          dsimp only at hp hpinv
          rw [Finset.erase_insert hnot] at hpinv
          refine hnothing (by simp only [PaaDynamic.getFreePaa, hd, hr, hr6, hp])
            (hinv.setIpv4Pool hcfg (hcs c hc) hpinv fun b hb => ?_) fun h => (nomatch h)
          rw [Finset.mem_insert, or_iff_right]
          rintro rfl
          rw [hin] at hb
          cases hb
    | ipv6 =>
      cases hr6 : s.paa.allocIpv6 pools.ipv6PoolIds with
      | none => exact hnothing (by simp only [PaaDynamic.getFreePaa, hd, hr6]) hs fun h => (nomatch h)
      | some pref =>
        have hget : s.paa.getFreePaa dnn .ipv6 = (s.paa, some ⟨none, some pref⟩) := by
          simp only [PaaDynamic.getFreePaa, hd, hr6]
        obtain ⟨hstep, hout⟩ := @getFreePaa_step cfg s dnn .ipv6 _ _ hget
        rw [hstep]
        refine ⟨⟨fun a ha => ?_, fun h => (nomatch h)⟩, hs⟩
        rw [hout] at ha
        cases ha
    | unstructured | ethernet | reserved =>
      exact hnothing (by simp only [PaaDynamic.getFreePaa, hd]) hs fun h => (nomatch h)

/-- **An address is released.** -/
theorem PaaInv.releasePaa (hs : PaaInv cfg s) (hcfg : PoolsDisjoint cfg)
    (hsize : ∀ x ∈ ranges cfg, 0 ≤ x.2.range.toInt) (dnn : DnnLabel) (type : Option PduSessionType)
    (a : Addr) (hfind : ReleaseFinds cfg (.releasePaa dnn type a)) :
    PaaInv cfg (paaStep cfg s (.releasePaa dnn type a)) := by
  have hids := hs.ids dnn
  unfold PaaDynamic.dnnPools at hids
  have hfree := hs.freeIpv4 hcfg hsize (fun c hc => mem_rangesOf.mp hc) hfind
  -- the pools of the DNN are asked
  have hasked (hrel : releases cfg dnn type a = (rangesOf cfg dnn).any (·.contains a)) {pools : DnnDynamicPools}
      (hpools : pools.ipv4PoolIds = (rangesOf cfg dnn).map PoolRange.poolId)
      (hget : s.paa.releasePaa dnn type a = (s.paa.freeIpv4 a pools.ipv4PoolIds).getD s.paa) :
      PaaInv cfg (paaStep cfg s (.releasePaa dnn type a)) := by
    unfold paaStep
    dsimp only
    rw [hget, hrel, hpools]
    revert hfree
    cases s.paa.freeIpv4 a ((rangesOf cfg dnn).map PoolRange.poolId) with
    | none =>
      intro hany
      rw [hany]
      exact hs
    | some paa =>
      rintro ⟨hany, hinv⟩
      rw [hany]
      exact hinv
  have hnotAsked (hrel : releases cfg dnn type a = false) (hget : s.paa.releasePaa dnn type a = s.paa) :
      PaaInv cfg (paaStep cfg s (.releasePaa dnn type a)) := by
    unfold paaStep
    dsimp only
    rw [hget, hrel]
    exact hs
  cases hd : s.paa.dnns dnn with
  | none =>
    rw [hd] at hids
    have hempty : rangesOf cfg dnn = [] := List.map_eq_nil_iff.mp hids.symm
    refine hnotAsked ?_ (by simp only [PaaDynamic.releasePaa, hd])
    unfold releases
    rw [hempty]
    exact Bool.and_false _
  | some pools =>
    rw [hd] at hids
    replace hids : pools.ipv4PoolIds = (rangesOf cfg dnn).map PoolRange.poolId := hids
    cases type with
    | none => exact hasked (Bool.true_and _) hids (by simp only [PaaDynamic.releasePaa, hd])
    | some type =>
      cases type with
      | ipv4 | ipv4v6 =>
        exact hasked (Bool.true_and _) hids (by simp only [PaaDynamic.releasePaa, hd])
      | ipv6 | unstructured | ethernet | reserved =>
        exact hnotAsked (Bool.false_and _) (by simp only [PaaDynamic.releasePaa, hd])

theorem PaaInv.releaseRule (hs : PaaInv cfg s) {type : Option PduSessionType}
    (hs' : PaaInv cfg (paaStep cfg s (.releasePaa dnn type a))) :
    LeaseRule cfg s (.releasePaa dnn type a) := by
  intro x hx b
  rw [hs'.leasesExact x hx, hs.leasesExact x hx]
  unfold paaStep
  dsimp only
  split_ifs with hrel
  · rw [Finset.mem_erase, not_and_or, not_not]
    constructor
    · rintro ⟨hin, rfl | hnot⟩
      · by_cases hb : b ∈ s.leased
        · exact .inr ⟨rfl, hrel, hb, hin⟩
        · exact .inl ⟨hin, hb⟩
      · exact .inl ⟨hin, hnot⟩
    · rintro (⟨hin, hnot⟩ | ⟨rfl, -, -, hin⟩)
      · exact ⟨hin, .inr hnot⟩
      · exact ⟨hin, .inl rfl⟩
  · exact (or_iff_left fun h => hrel h.2.1).symm

/-- **One call.** -/
theorem PaaInv.paaStep (hs : PaaInv cfg s) (hcfg : PoolsDisjoint cfg)
    (hsize : ∀ x ∈ ranges cfg, 0 ≤ x.2.range.toInt) (call : PaaCall) (h : ReleaseFinds cfg call) :
    LeaseRule cfg s call ∧ PaaInv cfg (paaStep cfg s call) := by
  cases call with
  | getFreePaa dnn type => exact hs.getFreePaa hcfg hsize dnn type
  | releasePaa dnn type a =>
    have hs' := hs.releasePaa hcfg hsize dnn type a h
    exact ⟨hs.releaseRule hs', hs'⟩

end

/-! ## Runs -/

/-- **Leases are unique in every run whose releases find their pool.** -/
theorem leases_unique (cfg : List AddPool) (hcfg : PoolsDisjoint cfg)
    (hsize : ∀ x ∈ ranges cfg, 0 ≤ x.2.range.toInt) (calls : List PaaCall)
    (h : Along (paaStep cfg) (fun _ => ReleaseFinds cfg) (.init cfg) calls) :
    LeasesExact cfg (run (paaStep cfg) (.init cfg) calls) ∧
      Along (paaStep cfg) (fun s call => LeasesExact cfg s ∧ LeaseRule cfg s call) (.init cfg) calls := by
  have hstep (s : PaaState) (call : PaaCall) (hs : PaaInv cfg s) (hcall : ReleaseFinds cfg call) :
      PaaInv cfg (paaStep cfg s call) := (hs.paaStep hcfg hsize call hcall).2
  refine ⟨(h.invariant hstep (.init hcfg)).leasesExact, ?_⟩
  exact h.mono_of_invariant hstep
    (fun s call hs hcall => ⟨hs.leasesExact, (hs.paaStep hcfg hsize call hcall).1⟩) (.init hcfg)

/-- Two pools of one DNN, of two addresses each. -/
def twoPools (first second : Addr) : List AddPool := [.ipv4 [] 0 first 2, .ipv4 [] 1 second 2]

theorem twoPools_disjoint {first second : Addr} (h : 2 ≤ (first - second).toNat)
    (h' : 2 ≤ (second - first).toNat) : PoolsDisjoint (twoPools first second) := by
  have hapart (a : Addr) : ¬ ((a - first).toNat < 2 ∧ (a - second).toNat < 2) := by
    rintro ⟨h₁, h₂⟩
    bv_omega
  intro x hx y hy
  rcases List.mem_cons.mp hx with rfl | hx <;> rcases List.mem_cons.mp hy with rfl | hy
  · exact ⟨rfl, rfl⟩
  · obtain rfl := List.mem_singleton.mp hy
    intro a
    simpa [PoolRange.contains] using hapart a
  · obtain rfl := List.mem_singleton.mp hx
    intro a
    simpa [PoolRange.contains, and_comm] using hapart a
  · obtain rfl := List.mem_singleton.mp hx
    obtain rfl := List.mem_singleton.mp hy
    exact ⟨rfl, rfl⟩

/-- Three addresses are leased, the third is released and another one asked for. -/
def threeLeases (third : Addr) : List PaaCall :=
  [.getFreePaa [] .ipv4, .getFreePaa [] .ipv4, .getFreePaa [] .ipv4, .releasePaa [] none third,
    .getFreePaa [] .ipv4]

theorem leases_unique_ascending :
    LeasesExact (twoPools 10 100) (run (paaStep (twoPools 10 100)) (.init (twoPools 10 100)) (threeLeases 100)) ∧
      Along (paaStep (twoPools 10 100))
        (fun s call => LeasesExact (twoPools 10 100) s ∧ LeaseRule (twoPools 10 100) s call)
        (.init (twoPools 10 100)) (threeLeases 100) :=
  leases_unique (twoPools 10 100) (twoPools_disjoint (by decide) (by decide)) (by decide) (threeLeases 100)
    ⟨trivial, trivial, trivial, by unfold ReleaseFinds; decide, trivial, trivial⟩

/-- **With the pools the other way round** the first one takes the released address, which lies below it,
and then hands out an address of no pool. -/
theorem not_leases_unique_descending : PoolsDisjoint (twoPools 100 10) ∧
    ¬ Along (paaStep (twoPools 100 10)) (LeaseRule (twoPools 100 10)) (.init (twoPools 100 10))
      (threeLeases 10) := by
  refine ⟨twoPools_disjoint (by decide) (by decide), fun h => ?_⟩
  obtain ⟨-, -, -, -, hget, -⟩ := h
  obtain ⟨-, c, hc, hin⟩ := hget.1 132 (by decide)
  revert c
  decide

end Oai5g.Smf
