import Oai5g.Smf.StateMachine

/-!
# The identifiers of QoS rules

* `QosRuleHolder`: the QoS part of a `session_handler` with the identifiers its callers hold.
* `Permitted`: what the callers do; `Right`: what is asked of `generate_qos_rule_id` and
  `release_qos_rule_id`.
* **`right_iff_generates_le`**: a run is right exactly when it generates at most 255 identifiers: the
  generator counts on in 32 bits, and its 256th number is `0` in eight.
-/

namespace Oai5g.Smf

/-! ## Calls -/

/-- A call that takes or gives back a QoS rule id. -/
inductive QosRuleCall
  | generate
  | release (ruleId : UInt8)
  deriving DecidableEq

/-- A `session_handler` and the rules that are live. -/
structure QosRuleHolder where
  qos : SessionQos
  live : List UInt8

namespace QosRuleHolder

/-- One call; an identifier that was returned is live until it is released. -/
def call (h : QosRuleHolder) : QosRuleCall → QosRuleHolder
  | .generate =>
    match h.qos.generateQosRuleId with
    | none => h
    | some (qos, ruleId) => ⟨qos, ruleId :: h.live⟩
  | .release ruleId => ⟨h.qos.releaseQosRuleId ruleId, h.live.erase ruleId⟩

/-- At most 254 rules are live, and only live ones are released. -/
def Permitted (h : QosRuleHolder) : QosRuleCall → Prop
  | .generate => h.live.length < 254
  | .release ruleId => ruleId ∈ h.live

/-- A new identifier is in range and not live; a released one, and no other, is free again. -/
def Right (h : QosRuleHolder) : QosRuleCall → Prop
  | .generate => ∃ qos ruleId, h.qos.generateQosRuleId = some (qos, ruleId) ∧
      SessionQos.ValidRuleId ruleId ∧ ruleId ∉ h.live
  | .release ruleId =>
      ruleId.toNat ∈ h.qos.qosRuleIdGenerator.uidGenerated ∧
        (h.qos.releaseQosRuleId ruleId).qosRuleIdGenerator.uidGenerated =
          h.qos.qosRuleIdGenerator.uidGenerated \ {ruleId.toNat}

/-! ## The first 255 identifiers -/

/-- `n` identifiers were generated, and the generator holds those that are live. -/
structure Counted (h : QosRuleHolder) (n : ℕ) : Prop where
  counter : h.qos.qosRuleIdGenerator.uidGenerator = n
  small : n ≤ 255
  inUse : ∀ uid, uid ∈ h.qos.qosRuleIdGenerator.uidGenerated ↔ ∃ ruleId ∈ h.live, ruleId.toNat = uid
  range : ∀ ruleId ∈ h.live, 1 ≤ ruleId.toNat ∧ ruleId.toNat ≤ n
  nodup : h.live.Nodup

namespace Counted

variable {h : QosRuleHolder} {n : ℕ}

theorem getUid_eq (hn : h.Counted n) : h.qos.qosRuleIdGenerator.getUid 32 =
    some (⟨n + 1, insert (n + 1) h.qos.qosRuleIdGenerator.uidGenerated⟩, n + 1) := by
  have hmod : (n + 1) % 2 ^ 32 = n + 1 := Nat.mod_eq_of_lt (by have := hn.small; omega)
  have hfresh : n + 1 ∉ h.qos.qosRuleIdGenerator.uidGenerated := by
    rw [hn.inUse]
    rintro ⟨ruleId, hlive, heq⟩
    have := (hn.range ruleId hlive).2
    omega
  obtain ⟨m, hm⟩ : ∃ m, 2 ^ 32 = m + 1 := ⟨2 ^ 32 - 1, by omega⟩
  unfold UintGenerator.getUid
  rw [hn.counter, hmod, hm, UintGenerator.search, if_neg hfresh]
  rfl

theorem generateQosRuleId_eq (hn : h.Counted n) : h.qos.generateQosRuleId =
    some ({ h.qos with qosRuleIdGenerator :=
      ⟨n + 1, insert (n + 1) h.qos.qosRuleIdGenerator.uidGenerated⟩ }, UInt8.ofNat (n + 1)) := by
  rw [SessionQos.generateQosRuleId, hn.getUid_eq]
  rfl

theorem toNat_next (hlt : n < 255) : (UInt8.ofNat (n + 1)).toNat = n + 1 := by
  rw [UInt8.toNat_ofNat']
  omega

theorem next_notMem (hn : h.Counted n) (hlt : n < 255) : UInt8.ofNat (n + 1) ∉ h.live := by
  intro hmem
  have := (hn.range _ hmem).2
  rw [toNat_next hlt] at this
  omega

theorem call_generate (hn : h.Counted n) (hlt : n < 255) : (h.call .generate).Counted (n + 1) := by
  rw [call, hn.generateQosRuleId_eq]
  have hnext := toNat_next hlt
  refine ⟨rfl, hlt, fun uid => ?_, ?_, List.nodup_cons.mpr ⟨hn.next_notMem hlt, hn.nodup⟩⟩
  · simp only [Finset.mem_insert, hn.inUse, List.exists_mem_cons_iff, hnext]
    exact or_congr eq_comm Iff.rfl
  · intro ruleId hmem
    obtain rfl | hmem := List.mem_cons.mp hmem
    · rw [hnext]
      omega
    · have := hn.range ruleId hmem
      omega

theorem call_release (hn : h.Counted n) (ruleId : UInt8) : (h.call (.release ruleId)).Counted n := by
  refine ⟨hn.counter, hn.small, fun uid => ?_, fun id hid => hn.range id (List.mem_of_mem_erase hid),
    hn.nodup.erase _⟩
  show uid ∈ h.qos.qosRuleIdGenerator.uidGenerated.erase ruleId.toNat ↔
    ∃ id ∈ h.live.erase ruleId, id.toNat = uid
  simp only [Finset.mem_erase, hn.inUse, hn.nodup.mem_erase_iff]
  constructor
  · rintro ⟨hne, id, hid, rfl⟩
    exact ⟨id, ⟨fun heq => hne (heq ▸ rfl), hid⟩, rfl⟩
  · rintro ⟨id, ⟨hne, hid⟩, rfl⟩
    exact ⟨fun heq => hne (UInt8.toNat_inj.mp heq), id, hid, rfl⟩

theorem right_release (hn : h.Counted n) {ruleId : UInt8} (hlive : ruleId ∈ h.live) :
    h.Right (.release ruleId) :=
  ⟨(hn.inUse _).mpr ⟨ruleId, hlive, rfl⟩, Finset.erase_eq _ _⟩

theorem right_generate_iff (hn : h.Counted n) : h.Right .generate ↔ n < 255 := by
  rw [Right, hn.generateQosRuleId_eq]
  constructor
  · rintro ⟨qos, ruleId, heq, ⟨hpos, -⟩, -⟩
    by_contra hlt
    obtain rfl : n = 255 := by have := hn.small; omega
    cases heq
    revert hpos
    decide
  · intro hlt
    refine ⟨_, _, rfl, ⟨?_, ?_⟩, hn.next_notMem hlt⟩
    · rw [UInt8.le_iff_toNat_le, toNat_next hlt]
      exact Nat.succ_le_succ (Nat.zero_le n)
    · rw [UInt8.le_iff_toNat_le, toNat_next hlt]
      exact hlt

end Counted

/-! ## Runs -/

/-- The number of identifiers generated. -/
def generates (calls : List QosRuleCall) : ℕ := calls.count .generate

theorem Counted.right_iff {h : QosRuleHolder} {n : ℕ} {calls : List QosRuleCall} (hn : h.Counted n)
    (hcalls : Along call Permitted h calls) :
    Along call Right h calls ↔ n + generates calls ≤ 255 := by
  induction calls generalizing h n with
  | nil => exact ⟨fun _ => hn.small, fun _ => trivial⟩
  | cons c calls ih =>
    cases c with
    | generate =>
      have hcount : generates (.generate :: calls) = generates calls + 1 := List.count_cons_self
      rw [hcount, Along, hn.right_generate_iff]
      by_cases hlt : n < 255
      · rw [ih (hn.call_generate hlt) hcalls.2]
        omega
      · have := hn.small
        constructor
        · exact fun h => absurd h.1 hlt
        · intro hle
          omega
    | release ruleId =>
      have hcount : generates (.release ruleId :: calls) = generates calls :=
        List.count_cons_of_ne (by simp)
      rw [hcount, Along, ih (hn.call_release ruleId) hcalls.2]
      exact and_iff_right (hn.right_release hcalls.1)

theorem counted_zero {q : SessionQos} (hq : q.qosRuleIdGenerator = .empty) : Counted ⟨q, []⟩ 0 := by
  refine ⟨by rw [hq]; rfl, by omega, fun uid => ?_, by simp, List.nodup_nil⟩
  rw [hq]
  simp [UintGenerator.empty]

/-- **The identifiers of QoS rules** are in range, unique and freed one by one exactly when the session
generates at most 255 of them. -/
theorem right_iff_generates_le (q : SessionQos) (hq : q.qosRuleIdGenerator = .empty)
    (calls : List QosRuleCall) (hcalls : Along call Permitted ⟨q, []⟩ calls) :
    Along call Right ⟨q, []⟩ calls ↔ generates calls ≤ 255 := by
  rw [(counted_zero hq).right_iff hcalls, Nat.zero_add]

/-! ## One rule after the other -/

/-- A session handler without rules. -/
def newQos : SessionQos := ⟨[], fun _ => none, [], .empty⟩

/-- A rule is made and removed, `n` times. -/
def oneByOne (n : ℕ) : List QosRuleCall :=
  (List.range n).flatMap fun i => [.generate, .release (UInt8.ofNat (i + 1))]

theorem oneByOne_succ (n : ℕ) :
    oneByOne (n + 1) = oneByOne n ++ [.generate, .release (UInt8.ofNat (n + 1))] := by
  simp [oneByOne, List.range_succ]

theorem oneByOne_permitted {n : ℕ} (hn : n ≤ 255) :
    Along call Permitted ⟨newQos, []⟩ (oneByOne n) ∧
      (run call ⟨newQos, []⟩ (oneByOne n)).Counted n ∧ (run call ⟨newQos, []⟩ (oneByOne n)).live = [] := by
  induction n with
  | zero => exact ⟨trivial, counted_zero rfl, rfl⟩
  | succ n ih =>
    obtain ⟨hperm, hcounted, hlive⟩ := ih (by omega)
    have hlive' : ((run call ⟨newQos, []⟩ (oneByOne n)).call .generate).live = [UInt8.ofNat (n + 1)] := by
      rw [call, hcounted.generateQosRuleId_eq]
      exact congrArg _ hlive
    rw [oneByOne_succ, Along.append, run_append]
    refine ⟨⟨hperm, ?_, ?_, trivial⟩, (hcounted.call_generate (by omega)).call_release _, ?_⟩
    · show (run call ⟨newQos, []⟩ (oneByOne n)).live.length < 254
      rw [hlive]
      exact Nat.zero_lt_succ _
    · show _ ∈ ((run call ⟨newQos, []⟩ (oneByOne n)).call .generate).live
      rw [hlive']
      exact List.mem_singleton_self _
    · show (((run call ⟨newQos, []⟩ (oneByOne n)).call .generate).live).erase (UInt8.ofNat (n + 1)) = []
      rw [hlive', List.erase_cons_head]

/-- Two rules, one after the other, have right identifiers. -/
theorem right_twoRules :
    Along call Right ⟨newQos, []⟩ (oneByOne 2) ↔ generates (oneByOne 2) ≤ 255 :=
  right_iff_generates_le newQos rfl (oneByOne 2) (oneByOne_permitted (by decide)).1

/-- The 256th rule of a session has the identifier `0`. -/
theorem not_right_after_255 : ¬ ∀ (q : SessionQos) (calls : List QosRuleCall),
    q.qosRuleIdGenerator = .empty → Along call Permitted ⟨q, []⟩ calls →
      Along call Right ⟨q, []⟩ calls := by
  intro h
  obtain ⟨hperm, hcounted, hlive⟩ := oneByOne_permitted (le_refl 255)
  have hnext : Permitted (run call ⟨newQos, []⟩ (oneByOne 255)) .generate := by
    rw [Permitted, hlive]
    exact Nat.zero_lt_succ _
  have hright := h newQos (oneByOne 255 ++ [.generate]) rfl (Along.append.mpr ⟨hperm, hnext, trivial⟩)
  exact absurd (hcounted.right_generate_iff.mp (Along.append.mp hright).2.1) (lt_irrefl 255)

end QosRuleHolder

end Oai5g.Smf
