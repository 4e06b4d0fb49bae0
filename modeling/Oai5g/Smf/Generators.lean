import Oai5g.Smf.Session

/-!
# Ids from a counter and a set

`util::uint_generator` and `util::uint_uid_generator`: `get_uid` counts on, modulo `2 ^ bits`, to the next
number that is not in use, and `free_uid` takes a number out of use.

* `search_eq_some`, `search_eq_none_iff`: what the loop of `get_uid` finds; `getUid_terminates`.
* `GetOk`: the id is found, new and not `0`. `FreeAbove`: the counter does not have to wrap.
* `along_getOk_iff`: over any calls the one holds exactly as long as the other does.
-/

namespace Oai5g.Smf.UintGenerator

variable {bits n k start uid : ℕ} {s : Finset ℕ} {g : UintGenerator}

/-! ## The loop -/

theorem search_eq_some (hstart : start < 2 ^ bits) (hused : ∀ j < k, (start + j) % 2 ^ bits ∈ s)
    (hfree : (start + k) % 2 ^ bits ∉ s) (hk : k < n) :
    search bits s n start = some ((start + k) % 2 ^ bits) := by
  induction n generalizing start k with
  | zero => omega
  | succ n ih =>
    have hmod : start % 2 ^ bits = start := Nat.mod_eq_of_lt hstart
    have hnext (j : ℕ) : ((start + 1) % 2 ^ bits + j) % 2 ^ bits = (start + (j + 1)) % 2 ^ bits := by
      rw [Nat.mod_add_mod, add_assoc, add_comm 1 j]
    unfold search
    cases k with
    | zero =>
      rw [add_zero, hmod] at hfree
      rw [if_neg hfree, add_zero, hmod]
    | succ k =>
      have hstart' : (start + 1) % 2 ^ bits < 2 ^ bits := Nat.mod_lt _ (by positivity)
      have h0 : start ∈ s := by simpa [hmod] using hused 0 (by omega)
      rw [if_pos h0, ← hnext k]
      apply ih hstart'
      · intro j hj
        rw [hnext]
        exact hused (j + 1) (by omega)
      · rwa [hnext]
      · omega

theorem search_eq_none_iff (hstart : start < 2 ^ bits) :
    search bits s n start = none ↔ ∀ j < n, (start + j) % 2 ^ bits ∈ s := by
  constructor
  · intro hnone
    by_contra hex
    push Not at hex
    obtain ⟨hlt, hfree⟩ := Nat.find_spec hex
    have hused : ∀ j < Nat.find hex, (start + j) % 2 ^ bits ∈ s := by
      intro j hj
      by_contra hj'
      exact Nat.find_min hex hj ⟨hj.trans hlt, hj'⟩
    rw [search_eq_some hstart hused hfree hlt] at hnone
    cases hnone
  · intro hall
    induction n generalizing start with
    | zero => rfl
    | succ n ih =>
      have h0 : start ∈ s := by simpa [Nat.mod_eq_of_lt hstart] using hall 0 (by omega)
      unfold search
      rw [if_pos h0]
      refine ih (Nat.mod_lt _ (by positivity)) fun j hj => ?_
      rw [Nat.mod_add_mod, add_assoc, add_comm 1 j]
      exact hall (j + 1) (by omega)

/-- **A loop that is not done after `2 ^ bits` turns never is.** -/
theorem search_forever (hstart : start < 2 ^ bits) (h : search bits s (2 ^ bits) start = none) :
    search bits s n start = none := by
  rw [search_eq_none_iff hstart] at h ⊢
  intro j _
  have hj := h (j % 2 ^ bits) (Nat.mod_lt _ (by positivity))
  rwa [Nat.add_mod_mod] at hj

/-- **Where a number is free, the loop ends.** -/
theorem exists_search_eq_some (hstart : start < 2 ^ bits) (hcard : s.card < 2 ^ bits) :
    ∃ uid, search bits s (2 ^ bits) start = some uid := by
  by_contra hnone
  have hall : ∀ j < 2 ^ bits, (start + j) % 2 ^ bits ∈ s := by
    rw [← search_eq_none_iff hstart]
    exact Option.eq_none_iff_forall_ne_some.mpr fun uid huid => hnone ⟨uid, huid⟩
  have hsub : Finset.range (2 ^ bits) ⊆ s := by
    intro v hv
    have hv' : v < 2 ^ bits := Finset.mem_range.mp hv
    have hback : (start + (v + (2 ^ bits - start)) % 2 ^ bits) % 2 ^ bits = v := by
      rw [Nat.add_mod_mod, show start + (v + (2 ^ bits - start)) = v + 2 ^ bits by omega, Nat.add_mod_right,
        Nat.mod_eq_of_lt hv']
    rw [← hback]
    exact hall _ (Nat.mod_lt _ (by positivity))
  have := Finset.card_le_card hsub
  rw [Finset.card_range] at this
  omega

/-! ## One call -/

theorem start_lt : (g.uidGenerator + 1) % 2 ^ bits < 2 ^ bits := Nat.mod_lt _ (by positivity)

/-- **`get_uid` returns as long as a number is free.** -/
theorem getUid_terminates (hcard : g.uidGenerated.card < 2 ^ bits) :
    ∃ uid, g.getUid bits = some (⟨uid, insert uid g.uidGenerated⟩, uid) := by
  obtain ⟨uid, huid⟩ := exists_search_eq_some start_lt hcard
  exact ⟨uid, by unfold getUid; rw [huid]; rfl⟩

theorem getUid_eq_some (hused : ∀ j < k, (g.uidGenerator + 1 + j) % 2 ^ bits ∈ g.uidGenerated)
    (hfree : (g.uidGenerator + 1 + k) % 2 ^ bits ∉ g.uidGenerated) (hk : k < 2 ^ bits)
    (huid : (g.uidGenerator + 1 + k) % 2 ^ bits = uid) :
    g.getUid bits = some (⟨uid, insert uid g.uidGenerated⟩, uid) := by
  have hsearch : search bits g.uidGenerated (2 ^ bits) ((g.uidGenerator + 1) % 2 ^ bits) =
      some (((g.uidGenerator + 1) % 2 ^ bits + k) % 2 ^ bits) := by
    apply search_eq_some start_lt
    · intro j hj
      rw [Nat.mod_add_mod]
      exact hused j hj
    · rwa [Nat.mod_add_mod]
    · exact hk
  rw [Nat.mod_add_mod, huid] at hsearch
  unfold getUid
  rw [hsearch]
  rfl

theorem getUid_of_lt (hcounter : g.uidGenerator < uid) (hlt : uid < 2 ^ bits) (hfree : uid ∉ g.uidGenerated)
    (hused : ∀ v, g.uidGenerator < v → v < uid → v ∈ g.uidGenerated) :
    g.getUid bits = some (⟨uid, insert uid g.uidGenerated⟩, uid) := by
  have hmod (j : ℕ) (hj : j ≤ uid - g.uidGenerator - 1) :
      (g.uidGenerator + 1 + j) % 2 ^ bits = g.uidGenerator + 1 + j := Nat.mod_eq_of_lt (by omega)
  have hlast : g.uidGenerator + 1 + (uid - g.uidGenerator - 1) = uid := by omega
  refine getUid_eq_some (k := uid - g.uidGenerator - 1) (fun j hj => ?_) ?_ (by omega) ?_
  · rw [hmod j hj.le]
    exact hused _ (by omega) (by omega)
  · rwa [hmod _ le_rfl, hlast]
  · rw [hmod _ le_rfl, hlast]

theorem getUid_eq_zero (hcounter : g.uidGenerator < 2 ^ bits) (h0 : 0 ∉ g.uidGenerated)
    (hused : ∀ v, g.uidGenerator < v → v < 2 ^ bits → v ∈ g.uidGenerated) :
    g.getUid bits = some (⟨0, insert 0 g.uidGenerated⟩, 0) := by
  have hlast : g.uidGenerator + 1 + (2 ^ bits - g.uidGenerator - 1) = 2 ^ bits := by omega
  refine getUid_eq_some (k := 2 ^ bits - g.uidGenerator - 1) (fun j hj => ?_) ?_ (by omega) ?_
  · rw [Nat.mod_eq_of_lt (by omega)]
    exact hused _ (by omega) (by omega)
  · rwa [hlast, Nat.mod_self]
  · rw [hlast, Nat.mod_self]

theorem search_lt (hstart : start < 2 ^ bits) (h : search bits s n start = some uid) : uid < 2 ^ bits := by
  induction n generalizing start with
  | zero => cases h
  | succ n ih =>
    unfold search at h
    split at h
    · exact ih (Nat.mod_lt _ (by positivity)) h
    · cases h
      exact hstart

theorem getUid_lt {g' : UintGenerator} (h : g.getUid bits = some (g', uid)) : uid < 2 ^ bits := by
  obtain ⟨found, hfound, heq⟩ := Option.map_eq_some_iff.mp h
  cases heq
  exact search_lt start_lt hfound

/-! ## Calls -/

/-- The two calls. -/
inductive Call
  | get
  | free (uid : ℕ)
  deriving DecidableEq

variable (bits)

/-- A `get_uid` that never returns leaves the generator as it is. -/
def step (g : UintGenerator) : Call → UintGenerator
  | .get => ((g.getUid bits).map Prod.fst).getD g
  | .free uid => g.freeUid uid

variable (g)

/-- What is asked of `get_uid`: with fewer than `2 ^ bits - 1` ids in use it returns one, after at most
`2 ^ bits` increments, that is a new number of the type and not `0`; and it never returns `0`. -/
structure GetOk : Prop where
  returns : g.uidGenerated.card < 2 ^ bits - 1 →
    ∃ turns uid, turns ≤ 2 ^ bits ∧
      search bits g.uidGenerated turns ((g.uidGenerator + 1) % 2 ^ bits) = some uid ∧
      g.getUid bits = some (⟨uid, insert uid g.uidGenerated⟩, uid) ∧ uid < 2 ^ bits ∧ uid ≠ 0 ∧
      uid ∉ g.uidGenerated
  neverZero : ∀ g' uid, g.getUid bits = some (g', uid) → uid ≠ 0

/-- Some number of the type above the counter is not in use. -/
def FreeAbove : Prop := ∃ uid, g.uidGenerator < uid ∧ uid < 2 ^ bits ∧ uid ∉ g.uidGenerated

/-- The counter is a number of the type, and `0` is not in use. -/
structure NoZero : Prop where
  counter : g.uidGenerator < 2 ^ bits
  zero : 0 ∉ g.uidGenerated

variable {bits g}

theorem noZero_empty : empty.NoZero bits := ⟨by simp [empty], by simp [empty]⟩

/-- **Above the counter the least free number is given.** -/
theorem FreeAbove.getUid (h : g.FreeAbove bits) :
    ∃ uid, g.uidGenerator < uid ∧ uid < 2 ^ bits ∧ uid ∉ g.uidGenerated ∧
      g.getUid bits = some (⟨uid, insert uid g.uidGenerated⟩, uid) := by
  classical
  obtain ⟨hcounter, hlt, hfree⟩ := Nat.find_spec h
  refine ⟨Nat.find h, hcounter, hlt, hfree, getUid_of_lt hcounter hlt hfree fun v hv hvlt => ?_⟩
  by_contra hv'
  exact Nat.find_min h hvlt ⟨hv, hvlt.trans hlt, hv'⟩

theorem getOk_of_freeAbove (h : g.FreeAbove bits) : g.GetOk bits := by
  obtain ⟨uid, hcounter, hlt, hfree, hget⟩ := h.getUid
  constructor
  case returns =>
    intro _
    refine ⟨2 ^ bits, uid, le_rfl, ?_, hget, hlt, by omega, hfree⟩
    obtain ⟨found, hfound, heq⟩ := Option.map_eq_some_iff.mp hget
    cases heq
    exact hfound
  case neverZero =>
    intro g' uid' hget'
    rw [hget] at hget'
    cases hget'
    omega

/-- **With no free number above the counter, `0` is given.** -/
theorem GetOk.freeAbove (hg : g.NoZero bits) (hok : g.GetOk bits) : g.FreeAbove bits := by
  by_contra h
  have hused : ∀ v, g.uidGenerator < v → v < 2 ^ bits → v ∈ g.uidGenerated := by
    intro v hv hlt
    by_contra hfree
    exact h ⟨v, hv, hlt, hfree⟩
  exact hok.neverZero _ _ (getUid_eq_zero hg.counter hg.zero hused) rfl

theorem NoZero.step (hg : g.NoZero bits) (c : Call) (h : c = .get → g.FreeAbove bits) :
    (g.step bits c).NoZero bits := by
  cases c with
  | get =>
    obtain ⟨uid, hcounter, hlt, -, hget⟩ := (h rfl).getUid
    have hstep : g.step bits .get = ⟨uid, insert uid g.uidGenerated⟩ := by simp [UintGenerator.step, hget]
    rw [hstep]
    refine ⟨hlt, ?_⟩
    rw [Finset.mem_insert, not_or]
    exact ⟨by omega, hg.zero⟩
  | free uid => exact ⟨hg.counter, fun h0 => hg.zero (Finset.mem_of_mem_erase h0)⟩

/-- **New ids until the counter wraps**: over any calls, every `get_uid` does what is asked of it exactly if
each finds a free number above the counter. -/
theorem along_getOk_iff (bits : ℕ) (calls : List Call) :
    Along (step bits) (fun g c => c = .get → g.GetOk bits) empty calls ↔
      Along (step bits) (fun g c => c = .get → g.FreeAbove bits) empty calls := by
  apply Along.iff_of_invariant (I := NoZero bits)
  · intro g c hg hok
    apply hg.step c
    exact fun hc => (hok hc).freeAbove hg
  · intro g c hg
    constructor
    · exact fun hok hc => (hok hc).freeAbove hg
    · exact fun h hc => getOk_of_freeAbove (h hc)
  · exact noZero_empty

/-- `n` ids, each given back at once. -/
def pairs (n : ℕ) : List Call := (List.range n).flatMap fun i => [.get, .free (i + 1)]

theorem run_pairs (hn : n < 2 ^ bits) : run (step bits) empty (pairs n) = ⟨n, ∅⟩ := by
  induction n with
  | zero => rfl
  | succ n ih =>
    have hget : UintGenerator.getUid bits ⟨n, ∅⟩ = some (⟨n + 1, insert (n + 1) ∅⟩, n + 1) := by
      apply getUid_of_lt
      · exact Nat.lt_succ_self n
      · exact hn
      · exact Finset.notMem_empty _
      · intro v hv hlt
        change n < v at hv
        omega
    have hpairs : pairs (n + 1) = pairs n ++ [.get, .free (n + 1)] := by
      simp [pairs, List.range_succ]
    rw [hpairs, run_append, ih (by omega)]
    simp [step, hget, freeUid]

/-- After 255 ids of 8 bits, all given back, the next one is `0`. -/
theorem pairs_getOk_fails :
    ¬ Along (step 8) (fun g c => c = .get → g.GetOk 8) empty (pairs 255 ++ [.get]) := by
  rw [Along.append, run_pairs (by norm_num)]
  rintro ⟨-, hlast, -⟩
  have hget : UintGenerator.getUid 8 ⟨255, ∅⟩ = some (⟨0, insert 0 ∅⟩, 0) := by
    apply getUid_eq_zero
    · change 255 < 2 ^ 8
      norm_num
    · exact Finset.notMem_empty _
    · intro v hv hlt
      change 255 < v at hv
      omega
  exact (hlast rfl).neverZero _ _ hget rfl

end Oai5g.Smf.UintGenerator
