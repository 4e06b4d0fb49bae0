import Oai5g.Upf.Index

/-!
# The order of the PDRs under one key

* `lookUpPackInAccess`, `lookUpPackInCore`, `foundInAccess`, `foundInCore`: which PDR an IPv4 packet
  is handled by.
* `PrecedenceKept`: the PDRs inserted under a key are all there, in order of precedence, and a packet
  finds one of the highest precedence value.
* **`precedenceKept_iff`**: this is so exactly when no PDR comes after the first one without a greater
  precedence value.
-/

namespace Oai5g.Upf

open PfcpSwitch

/-- `OUTER_HEADER_REMOVAL_GTPU_UDP_IPV4` -/
def OUTER_HEADER_REMOVAL_GTPU_UDP_IPV4 : UInt8 := 0

/-- `pfcp_pdr::look_up_pack_in_access` for an IPv4 packet. -/
def PfcpPdr.lookUpPackInAccess (pdr : PfcpPdr) (saddr tunnelId : UInt32) : Bool :=
  pdr.outerHeaderRemoval == some OUTER_HEADER_REMOVAL_GTPU_UDP_IPV4 &&
    match pdr.pdi with
    | none => false
    | some pdi =>
      pdi.sourceInterface.all (· == INTERFACE_VALUE_ACCESS) &&
        pdi.localFteid.all (fun fteid => fteid.teid == tunnelId) &&
          pdi.ueIpAddress.all fun ue => ue.v4 && ue.ipv4Address == saddr

/-- `pfcp_pdr::look_up_pack_in_core`. -/
def PfcpPdr.lookUpPackInCore (pdr : PfcpPdr) (daddr : UInt32) : Bool :=
  pdr.outerHeaderRemoval.isNone &&
    (pdr.pdi.bind Pdi.ueIpAddress).all fun ue => ue.v4 && ue.ipv4Address == daddr

namespace PfcpSwitch

variable (s : PfcpSwitch)

/-- The PDR at which the loop of `pfcp_session_look_up_pack_in_access` stops. -/
def foundInAccess (saddr tunnelId : UInt32) : Option ℕ :=
  (s.pdrTable (.n3Teid tunnelId)).bind fun pdrs =>
    pdrs.find? fun p => (s.pdr p).lookUpPackInAccess saddr tunnelId

/-- The PDR at which the loop of `pfcp_session_look_up_pack_in_core` stops. -/
def foundInCore (daddr : UInt32) : Option ℕ :=
  (s.pdrTable (.ueIpv4 (be32toh daddr))).bind fun pdrs =>
    pdrs.find? fun p => (s.pdr p).lookUpPackInCore daddr

/-- PDRs inserted one after the other under a key. -/
def addPfcpPdrs (key : LookupKey) (ps : List ℕ) : PfcpSwitch :=
  ps.foldl (fun s p => s.addPfcpPdr key p) s

/-- The vector under a key. -/
def pdrsUnder (key : LookupKey) : List ℕ := (s.pdrTable key).getD []

/-- `found` is a PDR among `ps` with the greatest precedence value of those that `hit` accepts. -/
def FoundExtreme (ps : List ℕ) (hit : PfcpPdr → Bool) (found : Option ℕ) : Prop :=
  match found with
  | none => ∀ q ∈ ps, hit (s.pdr q) = false
  | some p => p ∈ ps ∧ hit (s.pdr p) = true ∧
      ∀ q ∈ ps, hit (s.pdr q) = true → (s.pdr p).lt (s.pdr q) = false

end PfcpSwitch

/-- `s` holds under `key` what was inserted: every PDR, in non-increasing order, and a packet is
handled by one of the greatest precedence value. -/
structure PrecedenceKept (s : PfcpSwitch) (key : LookupKey) (ps : List ℕ) : Prop where
  perm : (s.pdrsUnder key).Perm ps
  sorted : (s.pdrsUnder key).Pairwise fun p q => (s.pdr p).lt (s.pdr q) = false
  access : ∀ saddr tunnelId, key = .n3Teid tunnelId →
    s.FoundExtreme ps (fun pdr => pdr.lookUpPackInAccess saddr tunnelId) (s.foundInAccess saddr tunnelId)
  core : ∀ daddr, key = .ueIpv4 (be32toh daddr) →
    s.FoundExtreme ps (fun pdr => pdr.lookUpPackInCore daddr) (s.foundInCore daddr)

/-- Every PDR after the first has a greater precedence value than it. -/
def FirstLowest (s : PfcpSwitch) : List ℕ → Prop
  | [] => True
  | p :: ps => ∀ q ∈ ps, (s.pdr p).lt (s.pdr q) = true

/-! ## One insertion -/

section

variable {s : PfcpSwitch} {p q : ℕ} {l : List ℕ}

theorem PfcpPdr.lt_iff {p q : PfcpPdr} : p.lt q = true ↔ p.precedence.getD 0 < q.precedence.getD 0 := by
  simp [PfcpPdr.lt]

theorem PfcpPdr.lt_eq_false_iff {p q : PfcpPdr} :
    p.lt q = false ↔ q.precedence.getD 0 ≤ p.precedence.getD 0 := by
  simp [PfcpPdr.lt]

/-- An insertion that finds a smaller PDR adds the new one and nothing else. -/
theorem insertPdr_perm (h : ∃ q ∈ l, (s.pdr q).lt (s.pdr p) = true) : (s.insertPdr p l).Perm (p :: l) := by
  induction l with
  | nil => simp at h
  | cons a l ih =>
    rw [PfcpSwitch.insertPdr]
    by_cases ha : (s.pdr a).lt (s.pdr p) = true
    · rw [if_pos ha]
    · rw [if_neg ha]
      obtain ⟨q, hq, hlt⟩ := h
      have hql : q ∈ l := (List.mem_cons.mp hq).resolve_left fun h => ha (h ▸ hlt)
      exact ((ih ⟨q, hql, hlt⟩).cons a).trans (List.Perm.swap p a l)

theorem insertPdr_eq_self (h : ¬ ∃ q ∈ l, (s.pdr q).lt (s.pdr p) = true) : s.insertPdr p l = l := by
  induction l with
  | nil => rfl
  | cons a l ih =>
    have ha : ¬ (s.pdr a).lt (s.pdr p) = true := fun ha => h ⟨a, List.mem_cons_self, ha⟩
    rw [PfcpSwitch.insertPdr, if_neg ha, ih]
    rintro ⟨q, hq, hlt⟩
    exact h ⟨q, List.mem_cons_of_mem _ hq, hlt⟩

theorem insertPdr_sorted (hl : l.Pairwise fun p q => (s.pdr p).lt (s.pdr q) = false) :
    (s.insertPdr p l).Pairwise fun p q => (s.pdr p).lt (s.pdr q) = false := by
  induction l with
  | nil => exact List.Pairwise.nil
  | cons a l ih =>
    obtain ⟨hal, hl⟩ := List.pairwise_cons.mp hl
    rw [PfcpSwitch.insertPdr]
    by_cases ha : (s.pdr a).lt (s.pdr p) = true
    · rw [if_pos ha]
      have hpa : (s.pdr a).precedence.getD 0 ≤ (s.pdr p).precedence.getD 0 :=
        UInt32.le_of_lt (PfcpPdr.lt_iff.mp ha)
      refine List.pairwise_cons.mpr ⟨fun q hq => ?_, List.pairwise_cons.mpr ⟨hal, hl⟩⟩
      rw [PfcpPdr.lt_eq_false_iff]
      obtain rfl | hq := List.mem_cons.mp hq
      · exact hpa
      · exact UInt32.le_trans (PfcpPdr.lt_eq_false_iff.mp (hal q hq)) hpa
    · rw [if_neg ha]
      refine List.pairwise_cons.mpr ⟨fun q hq => ?_, ih hl⟩
      obtain rfl | hq := mem_insertPdr hq
      · rw [PfcpPdr.lt_eq_false_iff]
        exact UInt32.not_lt.mp fun h => ha (PfcpPdr.lt_iff.mpr h)
      · exact hal q hq

end

/-! ## A sequence of insertions -/

section

variable (s : PfcpSwitch) (key : LookupKey)

theorem addPfcpPdrs_append (ps : List ℕ) (p : ℕ) :
    s.addPfcpPdrs key (ps ++ [p]) = (s.addPfcpPdrs key ps).addPfcpPdr key p := by
  simp [addPfcpPdrs]

theorem addPfcpPdrs_pdr (ps : List ℕ) (p : ℕ) : (s.addPfcpPdrs key ps).pdr p = s.pdr p := by
  induction ps using List.reverseRecOn with
  | nil => rfl
  | append_singleton ps q ih =>
    rw [addPfcpPdrs_append]
    exact ih

theorem pdrsUnder_addPfcpPdr (p : ℕ) : (s.addPfcpPdr key p).pdrsUnder key =
    match s.pdrTable key with
    | none => [p]
    | some l => s.insertPdr p l := by
  have h : (s.addPfcpPdr key p).pdrTable key = _ := Function.update_self key _ s.pdrTable
  rw [pdrsUnder, h]
  cases s.pdrTable key <;> rfl

theorem pdrTable_addPfcpPdr_ne_none (p : ℕ) : (s.addPfcpPdr key p).pdrTable key ≠ none := by
  have h : (s.addPfcpPdr key p).pdrTable key = _ := Function.update_self key _ s.pdrTable
  rw [h]
  cases s.pdrTable key <;> simp

variable {s key}

theorem insertPdr_congr {s' : PfcpSwitch} (h : ∀ p, s'.pdr p = s.pdr p) (p : ℕ) (l : List ℕ) :
    s'.insertPdr p l = s.insertPdr p l := by
  induction l with
  | nil => rfl
  | cons a l ih => rw [PfcpSwitch.insertPdr, PfcpSwitch.insertPdr, h, h, ih]

theorem pdrsUnder_snoc (hs : s.pdrTable key = none) (ps : List ℕ) (p : ℕ) :
    (s.addPfcpPdrs key (ps ++ [p])).pdrsUnder key =
      if ps = [] then [p] else s.insertPdr p ((s.addPfcpPdrs key ps).pdrsUnder key) := by
  rw [addPfcpPdrs_append, pdrsUnder_addPfcpPdr]
  obtain rfl | ⟨qs, q, rfl⟩ := List.eq_nil_or_concat' ps
  · have hnone : (s.addPfcpPdrs key []).pdrTable key = none := hs
    rw [hnone, if_pos rfl]
  · rw [if_neg (by simp)]
    have hsome : (s.addPfcpPdrs key (qs ++ [q])).pdrTable key ≠ none := by
      rw [addPfcpPdrs_append]
      exact pdrTable_addPfcpPdr_ne_none _ key q
    obtain ⟨l, hl⟩ := Option.ne_none_iff_exists'.mp hsome
    rw [pdrsUnder, hl]
    exact insertPdr_congr (addPfcpPdrs_pdr s key _) p l

theorem pdrsUnder_sorted (hs : s.pdrTable key = none) (ps : List ℕ) :
    ((s.addPfcpPdrs key ps).pdrsUnder key).Pairwise fun p q => (s.pdr p).lt (s.pdr q) = false := by
  induction ps using List.reverseRecOn with
  | nil =>
    rw [show (s.addPfcpPdrs key []).pdrsUnder key = [] by simp [addPfcpPdrs, pdrsUnder, hs]]
    exact List.Pairwise.nil
  | append_singleton ps p ih =>
    rw [pdrsUnder_snoc hs]
    by_cases hps : ps = []
    · rw [if_pos hps]
      exact List.pairwise_singleton _ _
    · rw [if_neg hps]
      exact insertPdr_sorted ih

theorem length_insertPdr_le (p : ℕ) (l : List ℕ) : (s.insertPdr p l).length ≤ l.length + 1 := by
  by_cases h : ∃ q ∈ l, (s.pdr q).lt (s.pdr p) = true
  · exact (insertPdr_perm h).length_eq.le
  · rw [insertPdr_eq_self h]
    omega

theorem length_pdrsUnder_le (hs : s.pdrTable key = none) (ps : List ℕ) :
    ((s.addPfcpPdrs key ps).pdrsUnder key).length ≤ ps.length := by
  induction ps using List.reverseRecOn with
  | nil => simp [addPfcpPdrs, pdrsUnder, hs]
  | append_singleton ps p ih =>
    rw [pdrsUnder_snoc hs, List.length_append]
    by_cases hps : ps = []
    · rw [if_pos hps, hps]
      simp
    · rw [if_neg hps]
      have := length_insertPdr_le (s := s) p ((s.addPfcpPdrs key ps).pdrsUnder key)
      simp only [List.length_singleton]
      omega

theorem FirstLowest.snoc_iff {ps : List ℕ} {p : ℕ} (hps : ps ≠ []) :
    FirstLowest s (ps ++ [p]) ↔ FirstLowest s ps ∧ (s.pdr (ps.head hps)).lt (s.pdr p) = true := by
  cases ps with
  | nil => exact absurd rfl hps
  | cons a ps =>
    simp only [List.cons_append, FirstLowest, List.head_cons, List.mem_append, List.mem_singleton]
    constructor
    · exact fun h => ⟨fun q hq => h q (Or.inl hq), h p (Or.inr rfl)⟩
    · rintro ⟨h, hp⟩ q (hq | rfl)
      · exact h q hq
      · exact hp

/-- The first PDR is a lower bound of the others when each of them is above it. -/
theorem FirstLowest.head_le {ps : List ℕ} (h : FirstLowest s ps) (hps : ps ≠ []) {q : ℕ} (hq : q ∈ ps) :
    (s.pdr (ps.head hps)).precedence.getD 0 ≤ (s.pdr q).precedence.getD 0 := by
  cases ps with
  | nil => exact absurd rfl hps
  | cons a ps =>
    obtain rfl | hq := List.mem_cons.mp hq
    · exact UInt32.le_refl _
    · exact UInt32.le_of_lt (PfcpPdr.lt_iff.mp (h q hq))

theorem pdrsUnder_perm_iff (hs : s.pdrTable key = none) (ps : List ℕ) :
    ((s.addPfcpPdrs key ps).pdrsUnder key).Perm ps ↔ FirstLowest s ps := by
  induction ps using List.reverseRecOn with
  | nil => simp [addPfcpPdrs, pdrsUnder, hs, FirstLowest]
  | append_singleton ps p ih =>
    rw [pdrsUnder_snoc hs]
    by_cases hps : ps = []
    · rw [if_pos hps, hps]
      simp [FirstLowest]
    rw [if_neg hps, FirstLowest.snoc_iff hps, ← ih]
    constructor
    · intro hperm
      have hle := length_pdrsUnder_le hs ps
      have hlen := hperm.length_eq
      -- were nothing smaller there, the vector would stay shorter than what was inserted
      have hex : ∃ q ∈ (s.addPfcpPdrs key ps).pdrsUnder key, (s.pdr q).lt (s.pdr p) = true := by
        by_contra hno
        rw [insertPdr_eq_self hno, List.length_append, List.length_singleton] at hlen
        omega
      have hps' : ((s.addPfcpPdrs key ps).pdrsUnder key).Perm ps := by
        have h := (insertPdr_perm hex).symm.trans (hperm.trans (List.perm_append_singleton p ps))
        exact (List.perm_cons p).mp h
      refine ⟨hps', ?_⟩
      obtain ⟨q, hq, hlt⟩ := hex
      have hle := (ih.mp hps').head_le hps (hps'.mem_iff.mp hq)
      exact PfcpPdr.lt_iff.mpr (UInt32.lt_of_le_of_lt hle (PfcpPdr.lt_iff.mp hlt))
    · rintro ⟨hperm, hlt⟩
      have hex : ∃ q ∈ (s.addPfcpPdrs key ps).pdrsUnder key, (s.pdr q).lt (s.pdr p) = true :=
        ⟨ps.head hps, hperm.mem_iff.mpr (List.head_mem hps), hlt⟩
      exact (insertPdr_perm hex).trans ((hperm.cons p).trans (List.perm_append_singleton p ps).symm)

end

/-! ## The lookup -/

section

variable {s : PfcpSwitch}

/-- The first hit in a sorted vector has the greatest precedence value of all hits. -/
theorem foundExtreme_find {l ps : List ℕ} (hperm : l.Perm ps)
    (hl : l.Pairwise fun p q => (s.pdr p).lt (s.pdr q) = false) (hit : PfcpPdr → Bool) :
    s.FoundExtreme ps hit (l.find? fun p => hit (s.pdr p)) := by
  cases hfound : l.find? fun p => hit (s.pdr p) with
  | none =>
    intro q hq
    exact Bool.not_eq_true _ ▸ List.find?_eq_none.mp hfound q (hperm.mem_iff.mpr hq)
  | some p =>
    obtain ⟨hp, as, bs, rfl, has⟩ := List.find?_eq_some_iff_append.mp hfound
    refine ⟨hperm.mem_iff.mp (by simp), hp, fun q hq hhit => ?_⟩
    rw [← hperm.mem_iff, List.mem_append, List.mem_cons] at hq
    obtain hq | rfl | hq := hq
    · exact absurd hhit (by simpa using has q hq)
    · simp [PfcpPdr.lt]
    · exact (List.pairwise_cons.mp (List.pairwise_append.mp hl).2.1).1 q hq

theorem foundInAccess_eq (saddr tunnelId : UInt32) : s.foundInAccess saddr tunnelId =
    (s.pdrsUnder (.n3Teid tunnelId)).find? fun p => (s.pdr p).lookUpPackInAccess saddr tunnelId := by
  rw [foundInAccess, pdrsUnder]
  cases s.pdrTable (.n3Teid tunnelId) <;> rfl

theorem foundInCore_eq (daddr : UInt32) : s.foundInCore daddr =
    (s.pdrsUnder (.ueIpv4 (be32toh daddr))).find? fun p => (s.pdr p).lookUpPackInCore daddr := by
  rw [foundInCore, pdrsUnder]
  cases s.pdrTable (.ueIpv4 (be32toh daddr)) <;> rfl

end

/-- **The insertions under one key** keep every PDR in order exactly when each later one has a greater
precedence value than the first. -/
theorem precedenceKept_iff (s : PfcpSwitch) (key : LookupKey) (ps : List ℕ)
    (hs : s.pdrTable key = none) :
    PrecedenceKept (s.addPfcpPdrs key ps) key ps ↔ FirstLowest s ps := by
  constructor
  · exact fun h => (pdrsUnder_perm_iff hs ps).mp h.perm
  · intro h
    have hperm := (pdrsUnder_perm_iff hs ps).mpr h
    have hsorted : ((s.addPfcpPdrs key ps).pdrsUnder key).Pairwise fun p q =>
        ((s.addPfcpPdrs key ps).pdr p).lt ((s.addPfcpPdrs key ps).pdr q) = false := by
      have hpdr : (s.addPfcpPdrs key ps).pdr = s.pdr := funext (addPfcpPdrs_pdr s key ps)
      rw [hpdr]
      exact pdrsUnder_sorted hs ps
    refine ⟨hperm, hsorted, ?_, ?_⟩
    · rintro saddr tunnelId rfl
      rw [foundInAccess_eq]
      exact foundExtreme_find hperm hsorted _
    · rintro daddr rfl
      rw [foundInCore_eq]
      exact foundExtreme_find hperm hsorted _

/-- **PDR insertion** keeps every rule under a TEID, and likewise under a UE address, exactly when each
rule after the first has a greater precedence value than the first. -/
theorem pdrInsertion_keeps_iff (s : PfcpSwitch) (ps : List ℕ) :
    (∀ teid, s.pdrTable (.n3Teid teid) = none →
      (PrecedenceKept (ps.foldl (fun s p => s.addPfcpUlPdrByUpTeid teid p) s) (.n3Teid teid) ps ↔
        FirstLowest s ps)) ∧
    ∀ ueIp, s.pdrTable (.ueIpv4 ueIp) = none →
      (PrecedenceKept (ps.foldl (fun s p => s.addPfcpDlPdrByUeIp ueIp p) s) (.ueIpv4 ueIp) ps ↔
        FirstLowest s ps) :=
  ⟨fun teid hs => precedenceKept_iff s (.n3Teid teid) ps hs,
    fun ueIp hs => precedenceKept_iff s (.ueIpv4 ueIp) ps hs⟩

/-- Two PDRs, the second of greater precedence value. -/
def twoPdrs : PfcpSwitch :=
  { PfcpSwitch.init with
    pdrs := ⟨fun p => ⟨1, UInt16.ofNat p, some (UInt32.ofNat p), none, none, none, none, none⟩, 2⟩ }

theorem pdrInsertion_keeps_two :
    PrecedenceKept ([0, 1].foldl (fun s p => s.addPfcpUlPdrByUpTeid 7 p) twoPdrs) (.n3Teid 7) [0, 1] ∧
      PrecedenceKept ([0, 1].foldl (fun s p => s.addPfcpDlPdrByUeIp 7 p) twoPdrs) (.ueIpv4 7) [0, 1] :=
  ⟨((pdrInsertion_keeps_iff twoPdrs [0, 1]).1 7 rfl).mpr (by simp [FirstLowest, PfcpSwitch.pdr, twoPdrs, PfcpPdr.lt]),
    ((pdrInsertion_keeps_iff twoPdrs [0, 1]).2 7 rfl).mpr (by simp [FirstLowest, PfcpSwitch.pdr, twoPdrs, PfcpPdr.lt])⟩

/-- The PDR of lower precedence value comes second and is lost. -/
theorem pdrInsertion_loses : ¬ ∀ (s : PfcpSwitch) (ps : List ℕ),
    (∀ teid, s.pdrTable (.n3Teid teid) = none →
      PrecedenceKept (ps.foldl (fun s p => s.addPfcpUlPdrByUpTeid teid p) s) (.n3Teid teid) ps) ∧
    ∀ ueIp, s.pdrTable (.ueIpv4 ueIp) = none →
      PrecedenceKept (ps.foldl (fun s p => s.addPfcpDlPdrByUeIp ueIp p) s) (.ueIpv4 ueIp) ps := by
  intro h
  have hlen := ((h twoPdrs [1, 0]).1 7 rfl).perm.length_eq
  revert hlen
  decide

end Oai5g.Upf
