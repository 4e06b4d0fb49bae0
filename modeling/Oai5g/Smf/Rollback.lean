import Oai5g.Smf.Selection

/-!
# Failed candidates of UPF selection

* `tryCandidate`, `tryLoop`, `tryPolicyLoop`: the loops of `select_upf_nodes` with the QFIs, where the copy of a
  graph shares its edges with the original.
* `edges_prefix_dfs`: a search leaves the shared edges as they are; `tryLoop_graph`: without the QFIs these are
  the loops of `selectLoop`.
* **`rollsBack_iff`**: a failed candidate leaves the graph unchanged exactly when the graph counts no N3 edge.
-/

namespace Oai5g.Smf

/-! ## The loops -/

/-- An `upf_graph` with its `qfi_generator`. -/
structure SessionGraph where
  graph : SubGraph
  qfis : UintGenerator

namespace SessionGraph

/-- No edges. -/
def empty : SessionGraph := ⟨.empty, .empty⟩

/-- The copy that was made before a search, as it is after it: it has the edges of the original, which are the
first ones of the searched graph. -/
def copyAfter (x : SessionGraph) (searched : SubGraph) : SessionGraph :=
  ⟨{ SubGraph.empty with edges := searched.edges.take x.graph.edges.length }, .empty⟩

end SessionGraph

/-- What the loop over the candidates changes. -/
structure TryState where
  subGraphPtr : Option SessionGraph
  visited : Finset (Option PfcpAssociation)
  hasN3 : Bool
  qfi : ℕ

/-- What became of a candidate. -/
inductive Candidate
  | skipped
  | failed
  | found
  deriving DecidableEq

section Loops

variable (g : UpfGraph)

/-- A candidate is looked at. -/
def TryState.see (s : TryState) (upf : PfcpAssociation) : TryState :=
  { s with hasN3 := s.hasN3 || (g.edges upf).any (·.type = .n3) }

/-- The graph of a search and `criteria.qfi`: where there is no graph a new one, and a QFI if there is none. -/
def TryState.begin (s : TryState) : Option (SessionGraph × ℕ) :=
  let x := s.subGraphPtr.getD .empty
  if s.qfi = 0 then (x.qfis.getUid 8).map fun given => (⟨x.graph, given.1⟩, given.2) else some (x, s.qfi)

/-- One turn of the third `select_upf_nodes`. -/
def tryCandidate (dfs : DfsState → Option DfsState) (dnais : Finset String) (upf : PfcpAssociation)
    (s : TryState) : Option (TryState × Candidate) :=
  if some upf ∈ s.visited then some (s, .skipped)
  else
    let s := s.see g upf
    if s.hasN3 = false then some (s, .skipped)
    else s.begin.bind fun x => (dfs ⟨[some upf], s.visited, x.1.graph⟩).map fun st =>
      if st.sub.verify dnais then
        ({ s with subGraphPtr := some ⟨st.sub, x.1.qfis⟩, visited := st.visited, qfi := x.2 }, .found)
      else
        ({ s with
            subGraphPtr := s.subGraphPtr.map fun y => y.copyAfter st.sub
            visited := st.visited
            qfi := 0 }, .failed)

/-- The loop over the candidates, up to the first that is found. -/
def tryLoop (dfs : DfsState → Option DfsState) (dnais : Finset String) :
    List PfcpAssociation → TryState → Option (TryState × Bool)
  | [], s => some (s, false)
  | upf :: order, s =>
    (tryCandidate g dfs dnais upf s).bind fun r =>
      if r.2 = .found then some (r.1, true) else tryLoop dfs dnais order r.1

/-- What the loop over the PCC rules changes. -/
structure TryPolicyState where
  subGraphPtr : Option SessionGraph
  qfi : ℕ
  verifyDnais : Finset String
  precedences : Finset ℕ

/-- The selection for a rule starts. -/
def TryPolicyState.start (p : TryPolicyState) : TryState := ⟨p.subGraphPtr, ∅, false, p.qfi⟩

/-- The DNAIs of a rule are asked for. -/
def TryPolicyState.ask (p : TryPolicyState) (rule : PccRule) : TryPolicyState :=
  { p with verifyDnais := p.verifyDnais ∪ rule.dnais }

/-- A rule has found a candidate. -/
def TryPolicyState.select (p : TryPolicyState) (rule : PccRule) (s : TryState) : TryPolicyState :=
  { p.ask rule with
    subGraphPtr := s.subGraphPtr
    qfi := s.qfi
    precedences := insert rule.precedence p.precedences }

/-- The candidates of a loop that fail: the graph before and after. -/
inductive Fails (dfs : DfsState → Option DfsState) (dnais : Finset String) :
    List PfcpAssociation → TryState → Option SessionGraph → Option SessionGraph → Prop
  | here (upf : PfcpAssociation) (order : List PfcpAssociation) (s s' : TryState) :
      tryCandidate g dfs dnais upf s = some (s', .failed) →
      Fails dfs dnais (upf :: order) s s.subGraphPtr s'.subGraphPtr
  | next (upf : PfcpAssociation) (order : List PfcpAssociation) (s : TryState) (r : TryState × Candidate)
      (before after : Option SessionGraph) : tryCandidate g dfs dnais upf s = some r → r.2 ≠ .found →
      Fails dfs dnais order r.1 before after → Fails dfs dnais (upf :: order) s before after

/-- The candidates that fail in `select_upf_nodes` for a policy decision. -/
inductive PolicyFails (fuel : ℕ) (order : List PfcpAssociation) (base : UpfSelectionCriteria) :
    List PccRule → TryPolicyState → Option SessionGraph → Option SessionGraph → Prop
  | noTcData (rule : PccRule) (rules : List PccRule) (p : TryPolicyState) (before after : Option SessionGraph) :
      rule.hasRefTcData = false → PolicyFails fuel order base rules p before after →
      PolicyFails fuel order base (rule :: rules) p before after
  | noFlow (rule : PccRule) (rules : List PccRule) (p : TryPolicyState) (before after : Option SessionGraph) :
      rule.hasRefTcData = true → rule.hasFlowInfos = false →
      PolicyFails fuel order base rules (p.ask rule) before after →
      PolicyFails fuel order base (rule :: rules) p before after
  | here (rule : PccRule) (rules : List PccRule) (p : TryPolicyState) (before after : Option SessionGraph) :
      rule.hasRefTcData = true → rule.hasFlowInfos = true → rule.precedence ∉ p.precedences →
      Fails g (createSubgraphDfs g (base.forRule rule) fuel) (p.ask rule).verifyDnais order p.start before after →
      PolicyFails fuel order base (rule :: rules) p before after
  | next (rule : PccRule) (rules : List PccRule) (p : TryPolicyState) (r : TryState × Bool)
      (before after : Option SessionGraph) :
      rule.hasRefTcData = true → rule.hasFlowInfos = true → rule.precedence ∉ p.precedences →
      tryLoop g (createSubgraphDfs g (base.forRule rule) fuel) (p.ask rule).verifyDnais order p.start = some r →
      PolicyFails fuel order base rules (p.select rule r.1) before after →
      PolicyFails fuel order base (rule :: rules) p before after

/-- A policy decision is looked at: there is no graph yet. -/
def TryPolicyState.init (qfi : ℕ) : TryPolicyState := ⟨none, qfi, ∅, ∅⟩

/-- **A failed candidate leaves the graph as it was**: its edges and nodes, its counters, the DNAIs it serves and
its QFIs. -/
def RollsBack (fuel : ℕ) (order : List PfcpAssociation) (base : UpfSelectionCriteria) (qfi : ℕ)
    (rules : List PccRule) : Prop :=
  ∀ before after, PolicyFails g fuel order base rules (.init qfi) before after → after = before

/-- The graph counts no N3 edge: there is none yet, or it was copied. -/
def CountsNothing (graph : Option SessionGraph) : Prop := ∀ x, graph = some x → x.graph.accessEdgeCount = 0

end Loops

/-! ## What a search leaves -/

variable {g : UpfGraph} {criteria : UpfSelectionCriteria}

/-- The invariant of the loop over the edges: edges are added behind those of the graph, and only new ones are
to be connected. -/
structure AddsBehind (sub : SubGraph) (l : EdgeLoop) : Prop where
  edges : sub.edges <+: l.sub.edges
  connect : ∀ i ∈ l.edgesToConnect, sub.edges.length ≤ i

theorem addsBehind_considerEdge {sub : SubGraph} {visited : Finset (Option PfcpAssociation)}
    {node : PfcpAssociation} {l : EdgeLoop} (h : AddsBehind sub l) (e : UpfGraphEdge) :
    AddsBehind sub (considerEdge criteria visited node l e) := by
  unfold considerEdge
  cases servesNetwork criteria node e with
  | none => exact h
  | some usedDnai =>
    dsimp only
    generalize hl : (if usedDnai = "" then l else { l with sub := { l.sub with
      servedDnais := insert usedDnai l.sub.servedDnais } }) = l'
    have h' : AddsBehind sub l' := by
      rw [← hl]
      split
      · exact h
      · exact ⟨h.edges, h.connect⟩
    refine iteInduction (fun _ => h') fun _ => iteInduction (fun _ => ⟨h'.edges, h'.connect⟩) fun _ => ?_
    refine ⟨h'.edges.trans (List.prefix_append _ _), fun i hi => ?_⟩
    rcases List.mem_append.mp hi with hi | hi
    · exact h'.connect i hi
    · rw [List.mem_singleton.mp hi]
      exact h'.edges.length_le

variable (g criteria) in
theorem addsBehind_considerNode (visited : Finset (Option PfcpAssociation)) (node : PfcpAssociation)
    (sub : SubGraph) : AddsBehind sub (considerNode g criteria visited node sub) := by
  have hfold : ∀ (es : List UpfGraphEdge) (l : EdgeLoop), AddsBehind sub l →
      AddsBehind sub (es.foldl (considerEdge criteria visited node) l) := by
    intro es
    induction es with
    | nil => exact fun l hl => hl
    | cons e es ih => exact fun l hl => ih _ (addsBehind_considerEdge hl e)
  exact hfold _ _ ⟨List.prefix_rfl, fun i hi => absurd hi List.not_mem_nil⟩

theorem take_associate {sub : SubGraph} {n i j : ℕ} (hi : n ≤ i) (hj : n ≤ j) :
    (sub.associate i j).edges.take n = sub.edges.take n := by
  apply List.ext_getElem?
  intro k
  by_cases hk : k < n
  · have hki : k ≠ i := by omega
    have hkj : k ≠ j := by omega
    simp [SubGraph.associate, hk, hki, hkj]
  · simp [hk]

/-- **A turn leaves the edges that were there.** -/
theorem edges_prefix_dfsStep (st : DfsState) : st.sub.edges <+: (dfsStep g criteria st).sub.edges := by
  unfold dfsStep
  split
  · exact List.prefix_rfl
  · exact List.prefix_rfl
  · next node rest _ =>
    dsimp only
    split
    · have h := addsBehind_considerNode g criteria (insert (some node) st.visited) node st.sub
      split
      · next i j hconnect =>
        have hi := h.connect i (by rw [hconnect]; simp)
        have hj := h.connect j (by rw [hconnect]; simp)
        rw [List.prefix_iff_eq_take, take_associate hi hj]
        exact List.prefix_iff_eq_take.mp h.edges
      · exact h.edges
    · exact List.prefix_rfl

theorem edges_prefix_dfs {fuel : ℕ} {st r : DfsState} (h : createSubgraphDfs g criteria fuel st = some r) :
    st.sub.edges <+: r.sub.edges := by
  induction fuel generalizing st with
  | zero =>
    unfold createSubgraphDfs at h
    split at h
    · cases h
      exact List.prefix_rfl
    · cases h
  | succ fuel ih =>
    unfold createSubgraphDfs at h
    split at h
    · cases h
      exact List.prefix_rfl
    · exact (edges_prefix_dfsStep st).trans (ih h)

theorem copyAfter_eq {x : SessionGraph} {searched : SubGraph} (h : x.graph.edges <+: searched.edges) :
    x.copyAfter searched = ⟨x.graph.copy, .empty⟩ := by
  rw [SessionGraph.copyAfter, ← List.prefix_iff_eq_take.mp h]
  rfl

/-! ## One candidate -/

section Candidates

variable {dfs : DfsState → Option DfsState} {dnais : Finset String} {upf : PfcpAssociation} {s s' : TryState}

/-- A search that leaves the edges that are there. -/
def LeavesEdges (dfs : DfsState → Option DfsState) : Prop :=
  ∀ st r, dfs st = some r → st.sub.edges <+: r.sub.edges

theorem begin_graph {x : SessionGraph × ℕ} (h : s.begin = some x) :
    x.1.graph = (s.subGraphPtr.getD .empty).graph := by
  unfold TryState.begin at h
  dsimp only at h
  split at h
  · obtain ⟨given, -, rfl⟩ := Option.map_eq_some_iff.mp h
    rfl
  · cases h
    rfl

theorem copyAfter_begin (hdfs : LeavesEdges dfs) {x : SessionGraph × ℕ} {st : DfsState}
    (hx : s.begin = some x) (hst : dfs ⟨[some upf], s.visited, x.1.graph⟩ = some st) :
    (s.subGraphPtr.map fun y => y.copyAfter st.sub) =
      s.subGraphPtr.map fun y => ⟨y.graph.copy, .empty⟩ := by
  cases hptr : s.subGraphPtr with
  | none => rfl
  | some y =>
    have hprefix := hdfs _ _ hst
    rw [begin_graph hx, hptr] at hprefix
    exact congrArg some (copyAfter_eq hprefix)

/-- **All that becomes of a candidate.** -/
theorem tryCandidate_cases (hdfs : LeavesEdges dfs) {what : Candidate}
    (h : tryCandidate g dfs dnais upf s = some (s', what)) :
    (what = .skipped ∧ s'.subGraphPtr = s.subGraphPtr) ∨
      (what = .failed ∧ s'.subGraphPtr = s.subGraphPtr.map fun y => ⟨y.graph.copy, .empty⟩) ∨
      what = .found ∧ ∃ x, s'.subGraphPtr = some x ∧ x.graph.verify dnais = true := by
  unfold tryCandidate at h
  split at h
  · cases h
    exact .inl ⟨rfl, rfl⟩
  · dsimp only at h
    split at h
    · cases h
      exact .inl ⟨rfl, rfl⟩
    · obtain ⟨x, hx, h⟩ := Option.bind_eq_some_iff.mp h
      obtain ⟨st, hst, h⟩ := Option.map_eq_some_iff.mp h
      split at h
      · next hverify =>
        cases h
        exact .inr (.inr ⟨rfl, _, rfl, hverify⟩)
      · cases h
        exact .inr (.inl ⟨rfl, copyAfter_begin hdfs hx hst⟩)

/-! ## The loops -/

/-- The graph is a copy, of which nothing is counted, or it counts an N3 edge. -/
def CopiedOrCounts (graph : Option SessionGraph) : Prop :=
  ∀ x, graph = some x → x = ⟨x.graph.copy, .empty⟩ ∨ x.graph.accessEdgeCount ≠ 0

theorem copiedOrCounts_copy (graph : Option SessionGraph) :
    CopiedOrCounts (graph.map fun y => ⟨y.graph.copy, .empty⟩) := by
  intro x hx
  obtain ⟨y, -, rfl⟩ := Option.map_eq_some_iff.mp hx
  exact .inl rfl

theorem accessEdgeCount_of_verify {sub : SubGraph} (h : sub.verify dnais = true) : sub.accessEdgeCount ≠ 0 := by
  unfold SubGraph.verify at h
  simp only [Bool.and_eq_true, decide_eq_true_eq] at h
  exact h.1.1.2

theorem CopiedOrCounts.tryCandidate (hdfs : LeavesEdges dfs) {r : TryState × Candidate}
    (hs : CopiedOrCounts s.subGraphPtr) (h : tryCandidate g dfs dnais upf s = some r) :
    CopiedOrCounts r.1.subGraphPtr := by
  obtain ⟨s', what⟩ := r
  rcases tryCandidate_cases hdfs h with ⟨-, heq⟩ | ⟨-, heq⟩ | ⟨-, x, heq, hverify⟩
  · exact heq ▸ hs
  · exact heq ▸ copiedOrCounts_copy _
  · intro y hy
    cases heq.symm.trans hy
    exact .inr (accessEdgeCount_of_verify hverify)

theorem CopiedOrCounts.tryLoop (hdfs : LeavesEdges dfs) {order : List PfcpAssociation} {r : TryState × Bool}
    (hs : CopiedOrCounts s.subGraphPtr) (h : tryLoop g dfs dnais order s = some r) :
    CopiedOrCounts r.1.subGraphPtr := by
  induction order generalizing s with
  | nil =>
    cases h
    exact hs
  | cons upf order ih =>
    obtain ⟨t, ht, h⟩ := Option.bind_eq_some_iff.mp h
    split at h
    · cases h
      exact hs.tryCandidate hdfs ht
    · exact ih (hs.tryCandidate hdfs ht) h

/-- **A failed candidate leaves a copy**, of a graph that is a copy or counts an N3 edge. -/
theorem Fails.spec (hdfs : LeavesEdges dfs) {order : List PfcpAssociation} {before after : Option SessionGraph}
    (h : Fails g dfs dnais order s before after) (hs : CopiedOrCounts s.subGraphPtr) :
    CopiedOrCounts before ∧ after = before.map fun y => ⟨y.graph.copy, .empty⟩ := by
  induction h with
  | here upf order s s' hfail =>
    rcases tryCandidate_cases hdfs hfail with ⟨hwhat, -⟩ | ⟨-, heq⟩ | ⟨hwhat, -⟩
    · cases hwhat
    · exact ⟨hs, heq⟩
    · cases hwhat
  | next upf order s r before after htry hnot _ ih => exact ih (hs.tryCandidate hdfs htry)

theorem leavesEdges_createSubgraphDfs (g : UpfGraph) (criteria : UpfSelectionCriteria) (fuel : ℕ) :
    LeavesEdges (createSubgraphDfs g criteria fuel) := fun _ _ h => edges_prefix_dfs h

theorem PolicyFails.spec {fuel : ℕ} {order : List PfcpAssociation} {base : UpfSelectionCriteria}
    {rules : List PccRule} {p : TryPolicyState} {before after : Option SessionGraph}
    (h : PolicyFails g fuel order base rules p before after) (hp : CopiedOrCounts p.subGraphPtr) :
    CopiedOrCounts before ∧ after = before.map fun y => ⟨y.graph.copy, .empty⟩ := by
  induction h with
  | noTcData _ _ _ _ _ _ _ ih => exact ih hp
  | noFlow _ _ _ _ _ _ _ _ ih => exact ih hp
  | here rule rules p before after _ _ _ hfails =>
    exact hfails.spec (leavesEdges_createSubgraphDfs g _ fuel) hp
  | next rule rules p r before after _ _ _ hloop _ ih =>
    have hstart : CopiedOrCounts p.start.subGraphPtr := hp
    exact ih (hstart.tryLoop (leavesEdges_createSubgraphDfs g _ fuel) hloop)

/-! ## The exact condition -/

theorem copy_eq_iff {graph : Option SessionGraph} (h : CopiedOrCounts graph) :
    (graph.map fun y => ⟨y.graph.copy, .empty⟩) = graph ↔ CountsNothing graph := by
  cases graph with
  | none => exact iff_of_true rfl nofun
  | some x =>
    constructor
    · intro heq y hy
      cases hy
      rw [← Option.some.inj heq]
      rfl
    · intro hnothing
      rcases h x rfl with hcopy | hcounts
      · exact congrArg some hcopy.symm
      · exact absurd (hnothing x rfl) hcounts

/-- **Failed candidates leave the graph of a policy decision unchanged** exactly when each of them is tried on a
graph that counts no N3 edge. -/
theorem rollsBack_iff (g : UpfGraph) (fuel : ℕ) (order : List PfcpAssociation) (base : UpfSelectionCriteria)
    (qfi : ℕ) (rules : List PccRule) :
    RollsBack g fuel order base qfi rules ↔
      ∀ before after, PolicyFails g fuel order base rules (.init qfi) before after → CountsNothing before := by
  have hinit : CopiedOrCounts (TryPolicyState.init qfi).subGraphPtr := nofun
  constructor
  · intro h before after hfails
    obtain ⟨hbefore, hafter⟩ := hfails.spec hinit
    exact (copy_eq_iff hbefore).mp (hafter.symm.trans (h before after hfails))
  · intro h before after hfails
    obtain ⟨hbefore, hafter⟩ := hfails.spec hinit
    exact hafter.trans ((copy_eq_iff hbefore).mpr (h before after hfails))

/-! ## Without the QFIs -/

/-- The state of `selectLoop`. -/
def TryState.forget (s : TryState) : SelectState :=
  ⟨s.subGraphPtr.map SessionGraph.graph, s.visited, s.hasN3⟩

/-- **The loop chooses as `selectLoop` does.** -/
theorem tryLoop_graph (hdfs : LeavesEdges dfs) {order : List PfcpAssociation} {found : Bool}
    (h : tryLoop g dfs dnais order s = some (s', found)) :
    selectLoop g dfs dnais order s.forget = some (s'.subGraphPtr.map SessionGraph.graph, found) := by
  induction order generalizing s with
  | nil =>
    cases h
    rfl
  | cons upf order ih =>
    obtain ⟨r, hr, h⟩ := Option.bind_eq_some_iff.mp h
    unfold tryCandidate at hr
    by_cases hvisited : some upf ∈ s.visited
    · rw [if_pos hvisited] at hr
      cases hr
      simp only [reduceCtorEq, if_false] at h
      rw [selectLoop_visited (s := s.forget) hvisited]
      exact ih h
    · rw [if_neg hvisited] at hr
      dsimp only at hr
      by_cases hn3 : (s.see g upf).hasN3 = false
      · rw [if_pos hn3] at hr
        cases hr
        simp only [reduceCtorEq, if_false] at h
        rw [selectLoop_noN3 (s := s.forget) hvisited hn3]
        exact ih h
      · rw [if_neg hn3] at hr
        obtain ⟨x, hx, hr⟩ := Option.bind_eq_some_iff.mp hr
        obtain ⟨st, hst, hr⟩ := Option.map_eq_some_iff.mp hr
        have hstart : dfs ((s.forget.see g upf).start upf) = some st := by
          rw [← hst, begin_graph hx]
          cases hptr : s.subGraphPtr <;> simp [SelectState.start, SelectState.see, TryState.forget, hptr,
            TryState.see, SessionGraph.empty]
        have hn3' : (s.forget.see g upf).hasN3 = true := eq_true_of_ne_false hn3
        by_cases hverify : st.sub.verify dnais = true
        · rw [if_pos hverify] at hr
          cases hr
          cases h
          rw [selectLoop_found hvisited hn3' hstart hverify]
          rfl
        · rw [if_neg hverify] at hr
          cases hr
          simp only [reduceCtorEq, if_false] at h
          rw [selectLoop_next hvisited hn3' hstart (by simpa using hverify)]
          have hnext := ih h
          simp only [TryState.forget, copyAfter_begin hdfs hx hst, Option.map_map] at hnext
          rw [← hnext]
          simp only [SelectState.fail, TryState.forget, SelectState.see, TryState.see, Option.map_map]
          rfl

end Candidates

/-! ## A second rule -/

/-- A UPF with an N3 and an N6 interface. -/
def singleUpf : PfcpAssociation := ⟨1, "e", [⟨.n3, "", [], ""⟩, ⟨.n6, "", [], ""⟩], []⟩

/-- The UPF alone. -/
def singleGraph : UpfGraph := UpfGraph.empty.insertIntoGraph [singleUpf] singleUpf

/-- Two rules without routes. -/
def twoRules : List PccRule := [⟨true, ∅, true, 1⟩, ⟨true, ∅, true, 2⟩]

/-- The try of the first rule. -/
def afterFirstRule : TryState × Bool :=
  (tryLoop singleGraph (createSubgraphDfs singleGraph (anyCriteria.forRule ⟨true, ∅, true, 1⟩) 1) ∅ [singleUpf]
    (TryPolicyState.init 1).start).get (by decide)

/-- Between the two rules. -/
def betweenRules : TryPolicyState := (TryPolicyState.init 1).select ⟨true, ∅, true, 1⟩ afterFirstRule.1

/-- The try of the second rule. -/
def afterSecondRule : TryState × Candidate :=
  (tryCandidate singleGraph (createSubgraphDfs singleGraph (anyCriteria.forRule ⟨true, ∅, true, 2⟩) 1) ∅ singleUpf
    betweenRules.start).get (by decide)

/-- **The counters are lost**: the first rule is satisfied, the second is not, and what it started on is not what is
left. -/
theorem not_rollsBack : ¬ ∀ (g : UpfGraph) (fuel : ℕ) (order : List PfcpAssociation)
    (base : UpfSelectionCriteria) (qfi : ℕ) (rules : List PccRule), RollsBack g fuel order base qfi rules := by
  intro h
  have hsecond : tryCandidate singleGraph
      (createSubgraphDfs singleGraph (anyCriteria.forRule ⟨true, ∅, true, 2⟩) 1)
      (betweenRules.ask ⟨true, ∅, true, 2⟩).verifyDnais singleUpf betweenRules.start =
        some (afterSecondRule.1, .failed) := by
    have hget : tryCandidate singleGraph
        (createSubgraphDfs singleGraph (anyCriteria.forRule ⟨true, ∅, true, 2⟩) 1)
        (betweenRules.ask ⟨true, ∅, true, 2⟩).verifyDnais singleUpf betweenRules.start =
          some afterSecondRule := (Option.some_get _).symm
    have hfailed : afterSecondRule.2 = .failed := by decide
    rw [hget, ← hfailed]
  have hsame := h singleGraph 1 [singleUpf] anyCriteria 1 twoRules _ _
    (.next _ _ _ afterFirstRule _ _ rfl rfl (by decide) (Option.some_get _).symm
      (.here _ _ betweenRules _ _ rfl rfl (by decide) (.here singleUpf [] _ afterSecondRule.1 hsecond)))
  have hcount := congrArg (Option.map fun x => x.graph.accessEdgeCount) hsame
  revert hcount
  decide

end Oai5g.Smf
