import Oai5g.Smf.Update

/-!
# Rule ids of a session

* `deallocateResources`: what happens to the ids at the end of a session.
* `IdsExact`: the ids in use are those on the edges of the graph.
* `IdsInv`: the same with what the counters of the generators are; `preserved_idsInv`.
* **`idsExact_iff`**: an AN release leaks the ids of the edges that it clears.
-/

namespace Oai5g.Smf

/-- One edge in `deallocate_resources`. -/
def deallocateEdge (s : PduSession) (e : ℕ) : PduSession :=
  { s with generator := fun r => (s.generator r).freeUid ((s.edge e).ruleId r) }.modifyEdge e
    QosUpfEdge.clearSession

/-- `session_handler::deallocate_resources`: the edges of `get_access_edges`. -/
def deallocateResources (graph : List ℕ) (s : PduSession) : PduSession :=
  (graph.filter fun e => (s.edge e).type = .n3).foldl deallocateEdge s

/-- A procedure on the edges of the graph. -/
abbrev GraphProcedure (graph : List ℕ) : Type := { p : SessionProcedure // ∀ e ∈ p.edges, e ∈ graph }

/-- A procedure of a session; after one that does not return there is none. -/
def graphStep (graph : List ℕ) (s : Option PduSession) (p : GraphProcedure graph) : Option PduSession :=
  s.bind fun s => sessionStep s p.1

/-- **The ids in use are exactly the ids on the edges of the graph**, each on one edge. -/
structure IdsExact (graph : List ℕ) (s : PduSession) : Prop where
  inUse : ∀ r id, id ∈ (s.generator r).uidGenerated ↔ id ≠ 0 ∧ ∃ e ∈ graph, (s.edge e).ruleId r = id
  one : ∀ r, ∀ e ∈ graph, ∀ f ∈ graph, (s.edge e).ruleId r = (s.edge f).ruleId r →
    (s.edge e).ruleId r ≠ 0 → e = f

/-- **The condition**: an AN release finds no ids on the edges that it clears. -/
def ReleasesNoIds (graph : List ℕ) (s : Option PduSession) (p : GraphProcedure graph) : Prop :=
  ∀ t, s = some t → ∀ e ∈ clearedEdges t p.1, ∀ r, (t.edge e).ruleId r = 0

/-! ## The counters -/

/-- The invariant: the generators have given out the numbers up to their counters. -/
structure IdsInv (graph : List ℕ) (s : PduSession) : Prop where
  exact : IdsExact graph s
  counter : ∀ r id, id ∈ (s.generator r).uidGenerated ↔ 0 < id ∧ id ≤ (s.generator r).uidGenerator

theorem Rule.le_bits (r : Rule) : 16 ≤ r.bits := by
  cases r <;> decide

namespace IdsInv

variable {graph : List ℕ} {s : PduSession} {r : Rule} {e : ℕ}

theorem counter_lt (h : IdsInv graph s) (he : e ∈ graph) (hid : (s.edge e).ruleId r = 0) :
    (s.generator r).uidGenerator < graph.length := by
  have hsub : Finset.Icc 1 (s.generator r).uidGenerator ⊆
      (graph.toFinset.erase e).image fun f => (s.edge f).ruleId r := by
    intro id hmem
    obtain ⟨hpos, hle⟩ := Finset.mem_Icc.mp hmem
    obtain ⟨hne, f, hf, hfid⟩ := (h.exact.inUse r id).mp ((h.counter r id).mpr ⟨hpos, hle⟩)
    refine Finset.mem_image.mpr ⟨f, Finset.mem_erase.mpr ⟨?_, List.mem_toFinset.mpr hf⟩, hfid⟩
    rintro rfl
    exact hne (hfid.symm.trans hid)
  have hcard := (Finset.card_le_card hsub).trans Finset.card_image_le
  rw [Nat.card_Icc, Nat.add_sub_cancel, Finset.card_erase_of_mem (List.mem_toFinset.mpr he)] at hcard
  have hpos : 0 < graph.toFinset.card := Finset.card_pos.mpr ⟨e, List.mem_toFinset.mpr he⟩
  have := List.toFinset_card_le graph
  omega

/-- **The next number is the next of the counter.** -/
theorem getUid_eq (h : IdsInv graph s) (hgraph : graph.length < 2 ^ 16) (he : e ∈ graph)
    (hid : (s.edge e).ruleId r = 0) :
    (s.generator r).getUid r.bits = some (⟨(s.generator r).uidGenerator + 1,
      insert ((s.generator r).uidGenerator + 1) (s.generator r).uidGenerated⟩,
      (s.generator r).uidGenerator + 1) := by
  have hlt := h.counter_lt he hid
  have hpow : 2 ^ 16 ≤ 2 ^ r.bits := Nat.pow_le_pow_right (by decide) r.le_bits
  have hmod : ((s.generator r).uidGenerator + 1) % 2 ^ r.bits = (s.generator r).uidGenerator + 1 :=
    Nat.mod_eq_of_lt (by omega)
  have hfresh : (s.generator r).uidGenerator + 1 ∉ (s.generator r).uidGenerated := by
    rw [h.counter]
    omega
  obtain ⟨n, hn⟩ : ∃ n, 2 ^ r.bits = n + 1 := ⟨2 ^ r.bits - 1, by omega⟩
  unfold UintGenerator.getUid
  rw [hmod, hn, UintGenerator.search, if_neg hfresh]
  rfl

theorem giveId (h : IdsInv graph s) (he : e ∈ graph) (hid : (s.edge e).ruleId r = 0) :
    IdsInv graph (s.giveId r e (⟨(s.generator r).uidGenerator + 1,
      insert ((s.generator r).uidGenerator + 1) (s.generator r).uidGenerated⟩,
      (s.generator r).uidGenerator + 1)) := by
  have hfresh : ∀ f ∈ graph, (s.edge f).ruleId r ≠ (s.generator r).uidGenerator + 1 := by
    intro f hf heq
    have hmem := (h.exact.inUse r _).mpr ⟨Nat.succ_ne_zero _, f, hf, heq⟩
    rw [h.counter] at hmem
    omega
  refine ⟨⟨fun r' id => ?_, fun r' f hf q hq heq hne => ?_⟩, fun r' id => ?_⟩
  · by_cases hr : r' = r
    · subst hr
      rw [PduSession.giveId_generator_self, Finset.mem_insert, h.exact.inUse]
      constructor
      · rintro (rfl | ⟨hne, f, hf, hfid⟩)
        · exact ⟨Nat.succ_ne_zero _, e, he, PduSession.giveId_ruleId_self _⟩
        · have hfe : ¬(f = e ∧ r' = r') := fun hfe => hne (hfid.symm.trans (hfe.1 ▸ hid))
          exact ⟨hne, f, hf, (PduSession.giveId_ruleId_of_ne _ hfe).trans hfid⟩
      · rintro ⟨hne, f, hf, hfid⟩
        by_cases hfe : f = e ∧ r' = r'
        · rw [hfe.1, PduSession.giveId_ruleId_self] at hfid
          exact .inl hfid.symm
        · exact .inr ⟨hne, f, hf, (PduSession.giveId_ruleId_of_ne _ hfe).symm.trans hfid⟩
    · rw [PduSession.giveId_generator_of_ne _ hr, h.exact.inUse]
      have hsame : ∀ f, ((s.giveId r e _).edge f).ruleId r' = (s.edge f).ruleId r' := fun f =>
        PduSession.giveId_ruleId_of_ne (⟨(s.generator r).uidGenerator + 1,
          insert ((s.generator r).uidGenerator + 1) (s.generator r).uidGenerated⟩,
          (s.generator r).uidGenerator + 1) fun hfe => hr hfe.2
      simp only [hsame]
  · by_cases hfe : f = e ∧ r' = r
    · by_cases hqe : q = e ∧ r' = r
      · rw [hfe.1, hqe.1]
      · obtain ⟨rfl, rfl⟩ := hfe
        rw [PduSession.giveId_ruleId_self, PduSession.giveId_ruleId_of_ne _ hqe] at heq
        exact absurd heq.symm (hfresh q hq)
    · rw [PduSession.giveId_ruleId_of_ne _ hfe] at heq hne
      by_cases hqe : q = e ∧ r' = r
      · obtain ⟨rfl, rfl⟩ := hqe
        rw [PduSession.giveId_ruleId_self] at heq
        exact absurd heq (hfresh f hf)
      · rw [PduSession.giveId_ruleId_of_ne _ hqe] at heq
        exact h.exact.one r' f hf q hq heq hne
  · by_cases hr : r' = r
    · subst hr
      rw [PduSession.giveId_generator_self, Finset.mem_insert, h.counter]
      dsimp only
      omega
    · rw [PduSession.giveId_generator_of_ne _ hr]
      exact h.counter r' id

theorem of_ruleId_eq {s' : PduSession} (h : IdsInv graph s)
    (hid : ∀ e r, (s'.edge e).ruleId r = (s.edge e).ruleId r) (hgen : s'.generator = s.generator) :
    IdsInv graph s' where
  exact := {
    inUse := fun r id => by
      simp only [hgen, hid]
      exact h.exact.inUse r id
    one := fun r e he f hf => by
      simp only [hid]
      exact h.exact.one r e he f hf }
  counter r id := by
    rw [hgen]
    exact h.counter r id

end IdsInv

/-- **Every procedure but an AN release keeps the ids exact**, and returns. -/
theorem preserved_idsInv {graph : List ℕ} (hgraph : graph.length < 2 ^ 16) :
    Preserved True (· ∈ graph) (IdsInv graph) where
  ensureId s r e he h := by
    unfold PduSession.ensureId
    by_cases hid : (s.edge e).ruleId r = 0
    · rw [if_pos hid, h.getUid_eq hgraph he hid]
      exact .some (h.giveId he hid)
    · rw [if_neg hid]
      exact .some h
  modifyEdge s e f hf h := by
    refine h.of_ruleId_eq (fun q r => ?_) rfl
    by_cases hq : q = e
    · subst hq
      rw [PduSession.modifyEdge_edge_self, hf]
    · rw [PduSession.modifyEdge_edge_of_ne _ hq]

/-! ## AN release -/

theorem ruleId_foldl_removePdrAndFar (es : List ℕ) (w : N4Work) (f : ℕ) (r : Rule) :
    ((es.foldl N4Work.removePdrAndFar w).session.edge f).ruleId r =
      if f ∈ es then 0 else (w.session.edge f).ruleId r := by
  induction es generalizing w with
  | nil => rfl
  | cons e es ih =>
    rw [List.foldl_cons, ih, removePdrAndFar_session]
    by_cases hf : f ∈ es
    · rw [if_pos hf, if_pos (List.mem_cons_of_mem _ hf)]
    · rw [if_neg hf]
      by_cases hfe : f = e
      · subst hfe
        rw [PduSession.modifyEdge_edge_self, if_pos List.mem_cons_self]
        rfl
      · rw [PduSession.modifyEdge_edge_of_ne _ hfe, if_neg (by simp [hfe, hf])]

theorem generator_foldl_removePdrAndFar (es : List ℕ) (w : N4Work) :
    (es.foldl N4Work.removePdrAndFar w).session.generator = w.session.generator := by
  induction es generalizing w with
  | nil => rfl
  | cons e es ih =>
    rw [List.foldl_cons, ih, removePdrAndFar_session]
    rfl

section Release

variable {graph : List ℕ} {s : PduSession} {p : GraphProcedure graph}

theorem sessionStep_eq_of_cleared {e : ℕ} (he : e ∈ clearedEdges s p.1) :
    sessionStep s p.1 = some ((clearedEdges s p.1).foldl N4Work.removePdrAndFar ⟨s, []⟩).session := by
  obtain ⟨p, hp⟩ := p
  cases p with
  | update upf usageReporting req =>
    obtain ⟨t, qfis, gnbFteid⟩ := req
    cases t with
    | pduSessionReleaseAnInitiated =>
      show (N4Work.updateSmContext s upf usageReporting _).map _ = _
      rw [updateSmContext_release s upf usageReporting rfl]
      rfl
    | _ => cases he
  | _ => cases he

theorem mem_graph_of_clearedEdges {e : ℕ} (he : e ∈ clearedEdges s p.1) : e ∈ graph := by
  obtain ⟨p, hp⟩ := p
  cases p with
  | update upf usageReporting req =>
    obtain ⟨t, qfis, gnbFteid⟩ := req
    cases t with
    | pduSessionReleaseAnInitiated =>
      refine hp e ?_
      change e ∈ releasedEdges s upf qfis at he
      unfold releasedEdges at he
      dsimp only at he
      split at he
      · cases he
      · rcases List.mem_append.mp he with he | he
        · exact PduSession.mem_edges_of_ulServed he
        · exact PduSession.mem_edges_of_dlServed he
    | _ => cases he
  | _ => cases he

/-- **A step under the condition.** -/
theorem IdsInv.sessionStep (h : IdsInv graph s) (hgraph : graph.length < 2 ^ 16)
    (hno : ∀ e ∈ clearedEdges s p.1, ∀ r, (s.edge e).ruleId r = 0) :
    ∃ s', sessionStep s p.1 = some s' ∧ IdsInv graph s' := by
  refine ((preserved_idsInv hgraph).sessionStep p.2 h ?_).exists_of_total trivial
  refine h.of_ruleId_eq (fun e r => ?_) (generator_foldl_removePdrAndFar _ _)
  rw [ruleId_foldl_removePdrAndFar]
  split
  · rename_i he
    exact (hno e he r).symm
  · rfl

/-- **An id that an AN release clears stays in use.** -/
theorem IdsInv.leak (h : IdsInv graph s) {e : ℕ} (he : e ∈ clearedEdges s p.1) {r : Rule}
    (hid : (s.edge e).ruleId r ≠ 0) {s' : PduSession} (hs : Smf.sessionStep s p.1 = some s') :
    ¬ IdsExact graph s' := by
  intro hexact
  rw [sessionStep_eq_of_cleared he] at hs
  cases hs
  have hused : (s.edge e).ruleId r ∈ (s.generator r).uidGenerated :=
    (h.exact.inUse r _).mpr ⟨hid, e, mem_graph_of_clearedEdges he, rfl⟩
  have hstill := (hexact.inUse r ((s.edge e).ruleId r)).mp (by
    rw [generator_foldl_removePdrAndFar]
    exact hused)
  obtain ⟨-, f, hf, hfid⟩ := hstill
  rw [ruleId_foldl_removePdrAndFar] at hfid
  split at hfid
  · exact hid hfid.symm
  · rename_i hnot
    have hfe := h.exact.one r f hf e (mem_graph_of_clearedEdges he) hfid (by rwa [hfid])
    exact hnot (hfe ▸ he)

end Release

/-! ## The end of a session -/

theorem mem_foldl_deallocateEdge (es : List ℕ) (s : PduSession) (r : Rule) {id : ℕ} (hid : id ≠ 0) :
    id ∈ ((es.foldl deallocateEdge s).generator r).uidGenerated ↔
      id ∈ (s.generator r).uidGenerated ∧ ∀ e ∈ es, (s.edge e).ruleId r ≠ id := by
  induction es generalizing s with
  | nil => simp
  | cons e es ih =>
    have hgen : id ∈ ((deallocateEdge s e).generator r).uidGenerated ↔
        id ∈ (s.generator r).uidGenerated ∧ (s.edge e).ruleId r ≠ id := by
      show id ∈ (s.generator r).uidGenerated.erase _ ↔ _
      rw [Finset.mem_erase, and_comm, ne_comm]
    have hedge : ∀ f, f ≠ e → ((deallocateEdge s e).edge f).ruleId r = (s.edge f).ruleId r := fun f hf => by
      unfold deallocateEdge
      rw [PduSession.modifyEdge_edge_of_ne _ hf]
    have hself : ((deallocateEdge s e).edge e).ruleId r = 0 := by
      unfold deallocateEdge
      rw [PduSession.modifyEdge_edge_self]
      rfl
    rw [List.foldl_cons, ih, hgen, and_assoc, List.forall_mem_cons]
    refine and_congr_right fun _ => and_congr_right fun he => forall₂_congr fun f _ => ?_
    by_cases hf : f = e
    · subst hf
      rw [hself]
      exact iff_of_true hid.symm he
    · rw [hedge f hf]

/-- **All ids are returned exactly when only N3 edges have one.** -/
theorem deallocateResources_empty_iff {graph : List ℕ} {s : PduSession} (h : IdsExact graph s) :
    (∀ r, ((deallocateResources graph s).generator r).uidGenerated = ∅) ↔
      ∀ e ∈ graph, ∀ r, (s.edge e).ruleId r ≠ 0 → (s.edge e).type = .n3 := by
  have hmem : ∀ r id, id ≠ 0 → (id ∈ ((deallocateResources graph s).generator r).uidGenerated ↔
      id ∈ (s.generator r).uidGenerated ∧
        ∀ e ∈ graph, (s.edge e).type = .n3 → (s.edge e).ruleId r ≠ id) := by
    intro r id hid
    unfold deallocateResources
    rw [mem_foldl_deallocateEdge _ _ _ hid]
    simp only [List.mem_filter, decide_eq_true_eq, and_imp]
  constructor
  · intro hempty e he r hid
    by_contra htype
    have hin := (hmem r _ hid).mpr ⟨(h.inUse r _).mpr ⟨hid, e, he, rfl⟩, fun f hf hn3 heq => ?_⟩
    · rw [hempty r] at hin
      cases hin
    · have hfe := h.one r f hf e he heq (by rwa [heq])
      exact htype (hfe ▸ hn3)
  · intro hall r
    refine Finset.eq_empty_of_forall_notMem fun id hin => ?_
    have hused : id ∈ (s.generator r).uidGenerated := by
      have hsub : ∀ (es : List ℕ) (s : PduSession), ((es.foldl deallocateEdge s).generator r).uidGenerated ⊆
          (s.generator r).uidGenerated := by
        intro es
        induction es with
        | nil => exact fun s => Finset.Subset.refl _
        | cons e es ih => exact fun s => (ih _).trans (Finset.erase_subset _ _)
      exact hsub _ _ hin
    obtain ⟨hid, e, he, heid⟩ := (h.inUse r id).mp hused
    exact ((hmem r id hid).mp hin).2 e he (hall e he r (heid ▸ hid)) heid

/-! ## Runs -/

theorem idsInv_of_fresh (graph : List ℕ) {s : PduSession} (h : s.Fresh) : IdsInv graph s where
  exact := {
    inUse := fun r id => by
      rw [h.2 r]
      refine iff_of_false (Finset.notMem_empty _) ?_
      rintro ⟨hid, e, -, heq⟩
      exact hid (heq.symm.trans (h.1 e r))
    one := fun r e _ f _ _ hne => absurd (h.1 e r) hne }
  counter r id := by
    rw [h.2 r]
    refine iff_of_false (Finset.notMem_empty _) ?_
    show ¬(0 < id ∧ id ≤ 0)
    omega

theorem twoFlows_fresh : twoFlows.Fresh := ⟨fun _ _ => rfl, fun _ => rfl⟩

/-- The session is established with its first flow, and the AN releases it. -/
def establishAndRelease : List (GraphProcedure [0, 1]) :=
  [⟨.establish ⟨[0, 1], by decide⟩ false false, fun _ he => he⟩,
    ⟨.update ⟨[0, 1], by decide⟩ false ⟨.pduSessionReleaseAnInitiated, [5], {}⟩, fun _ he => he⟩]

/-- The first UPF is set up, the AN releases the second one before that, and the first one is updated. -/
def releaseBeforeSetup : List (GraphProcedure [0, 1, 2, 3]) :=
  [⟨.establish ⟨[0, 1], by decide⟩ true true, by decide⟩,
    ⟨.update ⟨[2, 3], by decide⟩ true ⟨.pduSessionReleaseAnInitiated, [6], {}⟩, by decide⟩,
    ⟨.update ⟨[0, 1], by decide⟩ true ⟨.serviceRequestUeTriggeredStep2, [5], {}⟩, by decide⟩]

end Oai5g.Smf
