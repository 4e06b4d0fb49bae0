import Oai5g.Lib.Stack
import Oai5g.Smf.Topology

/-!
# UPF selection

* `dfsStep`, `createSubgraphDfs`: the loop of `create_subgraph_dfs`.
* `selectLoop`, `selectUpfNodes`, `selectUpfNodesPolicy`: the candidates with an N3 interface, for criteria and
  for a policy decision.
* `upfsBehind`: the UPFs behind a UPF, by its edges, their order and the visited UPFs.
* `takenFrom_selectUpfNodes`: the edges of a selected graph are edges of the graph it is selected from.
* **`selects_iff`**: selection returns exactly when in each search that it starts the way over these UPFs never goes
  round.
-/

namespace Oai5g.Smf

/-! ## The search -/

/-- `upf_selection_criteria` -/
structure UpfSelectionCriteria where
  snssai : Snssai
  dnn : String
  dnais : Finset String

/-- A copy of an edge for a session, at its UPF. -/
structure SubEdge where
  edge : UpfGraphEdge
  source : PfcpAssociation
  uplink : Bool
  usedDnai : String
  associatedEdge : Option ℕ

/-- The `upf_graph` of a session. An edge is known by its position. -/
structure SubGraph where
  edges : List SubEdge
  accessEdgeCount : ℕ
  exitEdgeCount : ℕ
  totalEdgeCount : ℕ
  associatedEdgeCount : ℕ
  servedDnais : Finset String

namespace SubGraph

/-- No edges. -/
def empty : SubGraph := ⟨[], 0, 0, 0, 0, ∅⟩

/-- The copy constructor: the counters start again. -/
def copy (sub : SubGraph) : SubGraph := { empty with edges := sub.edges }

/-- `upf_graph::verify` -/
def verify (sub : SubGraph) (dnais : Finset String) : Bool :=
  sub.totalEdgeCount = sub.associatedEdgeCount && sub.accessEdgeCount ≠ 0 && sub.exitEdgeCount ≠ 0 &&
    ((((sub.edges.map (·.source)).dedup.length = 1) && sub.servedDnais.card + 1 = dnais.card) ||
      sub.servedDnais.card = dnais.card)

/-- `associated_edge` of two edges. -/
def associate (sub : SubGraph) (i j : ℕ) : SubGraph :=
  { sub with
    edges := sub.edges.mapIdx fun k e =>
      if k = i then { e with associatedEdge := some j }
      else if k = j then { e with associatedEdge := some i } else e
    associatedEdgeCount := sub.associatedEdgeCount + 2 }

end SubGraph

/-- `pfcp_association::serves_network` -/
def PfcpAssociation.servesNetwork (upf : PfcpAssociation) (snssai : Snssai) (dnn : String) : Bool :=
  upf.sNssaiUpfInfoList.isEmpty ||
    upf.sNssaiUpfInfoList.any fun item => item.sNssai = snssai && item.dnnUpfInfoList.any (·.dnn = dnn)

/-- `qos_upf_edge::serves_network`: the DNAI that is used, if the edge serves the network. -/
def servesNetwork (criteria : UpfSelectionCriteria) (source : PfcpAssociation) (e : UpfGraphEdge) :
    Option String :=
  if criteria.dnais = ∅ then
    if source.servesNetwork criteria.snssai criteria.dnn then some "" else none
  else (e.dnaiDnnSlices.find? fun x => x.dnai ∈ criteria.dnais && criteria.dnn = x.dnn &&
    criteria.snssai = x.snssai).map (·.dnai)

/-- The stack, the visited nodes and the graph of the session. A null pointer is a node, too. -/
structure DfsState where
  stack : List (Option PfcpAssociation)
  visited : Finset (Option PfcpAssociation)
  sub : SubGraph

/-- What the loop over the edges of a node changes, with the nodes it has pushed. -/
structure EdgeLoop where
  sub : SubGraph
  edgesToConnect : List ℕ
  uplinkNextHopEdges : ℕ
  pushNextUpf : Bool
  pushes : List (Option PfcpAssociation)

section Search

variable (g : UpfGraph) (criteria : UpfSelectionCriteria)

/-- One turn of that loop. -/
def considerEdge (visited : Finset (Option PfcpAssociation)) (node : PfcpAssociation) (l : EdgeLoop)
    (e : UpfGraphEdge) : EdgeLoop :=
  match servesNetwork criteria node e with
  | none => l
  | some usedDnai =>
    let l := if usedDnai = "" then l
      else { l with sub := { l.sub with servedDnais := insert usedDnai l.sub.servedDnais } }
    let simpleMode : Bool := criteria.dnais = ∅
    if e.type = .n3 ∧ simpleMode ∧ l.sub.accessEdgeCount = 1 then l
    else
      let opens : Bool := e.type = .n9 ∧ e.destinationUpf ≠ none ∧ e.destinationUpf ∉ visited
      let l := { l with
        sub := { l.sub with
          accessEdgeCount := l.sub.accessEdgeCount + if e.type = .n3 then 1 else 0
          exitEdgeCount := l.sub.exitEdgeCount + if e.type = .n6 then 1 else 0 }
        uplinkNextHopEdges := l.uplinkNextHopEdges + if e.type = .n6 ∨ opens then 1 else 0
        -- the flag stays set for the edges that follow
        pushNextUpf := l.pushNextUpf || opens }
      if simpleMode ∧ 1 < l.uplinkNextHopEdges then l
      else { l with
        sub := { l.sub with
          edges := l.sub.edges ++ [⟨e, node, e.type = .n6 || opens, usedDnai, none⟩]
          totalEdgeCount := l.sub.totalEdgeCount + 1 }
        edgesToConnect := l.edgesToConnect ++ [l.sub.edges.length]
        pushes := if l.pushNextUpf then e.destinationUpf :: l.pushes else l.pushes }

/-- The edges of a node. -/
def considerNode (visited : Finset (Option PfcpAssociation)) (node : PfcpAssociation) (sub : SubGraph) :
    EdgeLoop :=
  (g.edges node).foldl (considerEdge criteria visited node) ⟨sub, [], 0, false, []⟩

/-- One turn of `create_subgraph_dfs`. -/
def dfsStep (st : DfsState) : DfsState :=
  match st.stack with
  | [] => st
  | none :: rest => { st with stack := rest, visited := insert none st.visited }
  | some node :: rest =>
    let visited := insert (some node) st.visited
    if node ∈ g.nodes then
      let l := considerNode g criteria visited node st.sub
      { stack := l.pushes ++ rest
        visited := visited
        -- two edges are connected
        sub := match l.edgesToConnect with
          | [i, j] => l.sub.associate i j
          | _ => l.sub }
    else { st with stack := rest, visited := visited }

/-- `create_subgraph_dfs`, with a bound on its turns. -/
def createSubgraphDfs : ℕ → DfsState → Option DfsState
  | 0, st => if st.stack = [] then some st else none
  | n + 1, st => if st.stack = [] then some st else createSubgraphDfs n (dfsStep g criteria st)

end Search

/-! ## The UPFs behind a UPF -/

/-- The elements before the second one with a property. -/
def beforeSecond {α : Type*} (p : α → Bool) : List α → List α
  | [] => []
  | a :: l => a :: if p a then l.takeWhile fun b => !p b else beforeSecond p l

namespace UpfGraphEdge

variable (visited : Finset PfcpAssociation) (e : UpfGraphEdge)

/-- An N9 edge to a UPF that was not visited. -/
def leadsOut : Bool := e.type = .n9 && e.destinationUpf.any (· ∉ visited)

/-- An edge to a next hop: an N6 edge, or one to a UPF that was not visited. -/
def nextHop : Bool := e.type = .n6 || e.leadsOut visited

end UpfGraphEdge

section Search

variable (g : UpfGraph) (criteria : UpfSelectionCriteria)

/-- The edges of a UPF that serve the network. -/
def servingEdges (upf : PfcpAssociation) : List UpfGraphEdge :=
  if upf ∈ g.nodes then (g.edges upf).filter fun e => (servesNetwork criteria upf e).isSome else []

/-- Those that count: without DNAIs the ones before a second next hop. -/
def consideredEdges (visited : Finset PfcpAssociation) (upf : PfcpAssociation) : List UpfGraphEdge :=
  if criteria.dnais = ∅ then beforeSecond (·.nextHop visited) (servingEdges g criteria upf)
  else servingEdges g criteria upf

/-- **The UPFs behind a UPF**, the last one first: where the first of these edges to an unvisited UPF leads, and all
that come after it. -/
def upfsBehind (visited : Finset PfcpAssociation) (upf : PfcpAssociation) : List PfcpAssociation :=
  (((consideredEdges g criteria visited upf).dropWhile (!·.leadsOut visited)).filterMap (·.destinationUpf)).reverse

/-- The UPFs that a search has visited. -/
def DfsState.visitedUpfs (st : DfsState) : Finset PfcpAssociation := st.visited.eraseNone

/-- **In no turn of a search the way from the UPF on top goes round**: over the first UPF behind it that is unvisited
or has such UPFs behind it itself, and on, it does not come back to a UPF. -/
def NeverGoesRound (st : DfsState) : Prop :=
  ∀ k upf rest, ((dfsStep g criteria)^[k] st).stack = some upf :: rest →
    ¬ GoesRound (upfsBehind g criteria) (insert upf ((dfsStep g criteria)^[k] st).visitedUpfs) upf

/-! ## What a turn pushes -/

variable {g criteria}

/-- What decides the pushes: the next hops, the flag and the UPFs that are pushed. -/
def EdgeLoop.view (l : EdgeLoop) : ℕ × Bool × List PfcpAssociation :=
  (l.uplinkNextHopEdges, l.pushNextUpf, l.pushes.reduceOption)

/-- An edge that serves the network. -/
def viewStep (simpleMode : Bool) (visited : Finset PfcpAssociation) (v : ℕ × Bool × List PfcpAssociation)
    (e : UpfGraphEdge) : ℕ × Bool × List PfcpAssociation :=
  let hops := v.1 + if e.nextHop visited then 1 else 0
  let push := v.2.1 || e.leadsOut visited
  (hops, push, if simpleMode ∧ 1 < hops then v.2.2 else if push then e.destinationUpf.toList ++ v.2.2 else v.2.2)

theorem leadsOut_eraseNone (visited : Finset (Option PfcpAssociation)) (e : UpfGraphEdge) :
    decide (e.type = .n9 ∧ e.destinationUpf ≠ none ∧ e.destinationUpf ∉ visited) =
      e.leadsOut visited.eraseNone := by
  unfold UpfGraphEdge.leadsOut
  cases e.destinationUpf <;> simp

theorem notMem_of_leadsOut {visited : Finset (Option PfcpAssociation)} {e : UpfGraphEdge}
    (h : e.leadsOut visited.eraseNone = true) :
    e.type = .n9 ∧ e.destinationUpf ≠ none ∧ e.destinationUpf ∉ visited := by
  rw [← leadsOut_eraseNone] at h
  exact of_decide_eq_true h

theorem UpfGraphEdge.type_of_nextHop {visited : Finset PfcpAssociation} {e : UpfGraphEdge}
    (h : e.nextHop visited = true) : e.type = .n6 ∨ e.type = .n9 := by
  unfold UpfGraphEdge.nextHop UpfGraphEdge.leadsOut at h
  simp only [Bool.or_eq_true, Bool.and_eq_true, decide_eq_true_eq] at h
  exact h.imp_right And.left

theorem insert_visitedUpfs (st : DfsState) (upf : PfcpAssociation) :
    (insert (some upf) st.visited).eraseNone = insert upf st.visitedUpfs := by
  ext v
  simp [DfsState.visitedUpfs]

theorem view_considerEdge {e : UpfGraphEdge} (he : e.type ≠ .n9 → e.destinationUpf = none)
    (visited : Finset (Option PfcpAssociation)) (node : PfcpAssociation) (l : EdgeLoop) :
    (considerEdge criteria visited node l e).view =
      if (servesNetwork criteria node e).isSome then
        viewStep (criteria.dnais = ∅) visited.eraseNone l.view e
      else l.view := by
  unfold considerEdge
  cases servesNetwork criteria node e with
  | none => rfl
  | some usedDnai =>
    dsimp only [Option.isSome_some]
    rw [if_pos rfl, leadsOut_eraseNone]
    -- the DNAIs that are served do not matter here
    generalize hl : (if usedDnai = "" then l else { l with sub := { l.sub with
      servedDnais := insert usedDnai l.sub.servedDnais } }) = l'
    have hview : l.view = l'.view := by
      rw [← hl]
      split <;> rfl
    rw [hview]
    unfold viewStep EdgeLoop.view UpfGraphEdge.nextHop
    split
    · -- an N3 edge leads nowhere
      rename_i hn3
      have hshut : e.leadsOut visited.eraseNone = false := by simp [UpfGraphEdge.leadsOut, hn3.1]
      simp [hn3.1, hshut, he (by rw [hn3.1]; decide)]
    · simp only [Bool.or_eq_true, decide_eq_true_eq]
      split_ifs <;> cases e.destinationUpf <;> rfl

theorem view_foldl {node : PfcpAssociation} {visited : Finset (Option PfcpAssociation)} {es : List UpfGraphEdge}
    (hes : ∀ e ∈ es, e.type ≠ .n9 → e.destinationUpf = none) (l : EdgeLoop) :
    (es.foldl (considerEdge criteria visited node) l).view =
      (es.filter fun e => (servesNetwork criteria node e).isSome).foldl
        (viewStep (criteria.dnais = ∅) visited.eraseNone) l.view := by
  induction es generalizing l with
  | nil => rfl
  | cons e es ih =>
    obtain ⟨he, hes⟩ := List.forall_mem_cons.mp hes
    rw [List.foldl_cons, ih hes, view_considerEdge he, List.filter_cons]
    cases (servesNetwork criteria node e).isSome <;> rfl

section

variable {visited : Finset PfcpAssociation} {ps : List PfcpAssociation} {n : ℕ} {push : Bool}

theorem foldl_viewStep_full (hn : 1 < n) (es : List UpfGraphEdge) :
    (es.foldl (viewStep true visited) (n, push, ps)).2.2 = ps := by
  induction es generalizing n push with
  | nil => rfl
  | cons e es ih =>
    have hmore : 1 < n + if e.nextHop visited then 1 else 0 := hn.trans_le (Nat.le_add_right _ _)
    simp only [List.foldl_cons, viewStep, hmore, and_true, if_true]
    exact ih hmore

theorem foldl_viewStep_one (es : List UpfGraphEdge) :
    (es.foldl (viewStep true visited) (1, push, ps)).2.2 =
      (if push then ((es.takeWhile (!·.nextHop visited)).filterMap (·.destinationUpf)).reverse else []) ++ ps := by
  induction es generalizing ps with
  | nil => cases push <;> rfl
  | cons e es ih =>
    cases hhop : e.nextHop visited with
    | true =>
      have hstop : (viewStep true visited (1, push, ps) e) = (2, push || e.leadsOut visited, ps) := by
        simp [viewStep, hhop]
      rw [List.foldl_cons, hstop, foldl_viewStep_full (by decide), List.takeWhile_cons_of_neg (by simp [hhop])]
      cases push <;> rfl
    | false =>
      have hshut := (Bool.or_eq_false_iff.mp hhop).2
      rw [List.foldl_cons, List.takeWhile_cons_of_pos (by simp [hhop])]
      cases push <;> cases hdest : e.destinationUpf <;> simp [viewStep, hhop, hshut, hdest, ih]

theorem foldl_viewStep_simple (es : List UpfGraphEdge) :
    (es.foldl (viewStep true visited) (0, false, ps)).2.2 =
      (((beforeSecond (·.nextHop visited) es).dropWhile (!·.leadsOut visited)).filterMap
        (·.destinationUpf)).reverse ++ ps := by
  induction es generalizing ps with
  | nil => rfl
  | cons e es ih =>
    rw [List.foldl_cons, beforeSecond]
    cases hhop : e.nextHop visited with
    | false =>
      have hshut := (Bool.or_eq_false_iff.mp hhop).2
      have hstep : viewStep true visited (0, false, ps) e = (0, false, ps) := by simp [viewStep, hhop, hshut]
      rw [hstep, ih, if_neg Bool.false_ne_true, List.dropWhile_cons_of_pos (by simp [hshut])]
    | true =>
      rw [if_pos rfl]
      cases hout : e.leadsOut visited with
      | true =>
        have hstep : viewStep true visited (0, false, ps) e = (1, true, e.destinationUpf.toList ++ ps) := by
          simp [viewStep, hhop, hout]
        rw [hstep, foldl_viewStep_one, if_pos rfl, List.dropWhile_cons_of_neg (by simp [hout])]
        cases hdest : e.destinationUpf <;> simp [hdest]
      | false =>
        have hstep : viewStep true visited (0, false, ps) e = (1, false, ps) := by simp [viewStep, hhop, hout]
        rw [hstep, foldl_viewStep_one, if_neg Bool.false_ne_true, List.dropWhile_cons_of_pos (by simp [hout]),
          List.dropWhile_eq_nil_iff.mpr fun f hf => ?_]
        · rfl
        · have hshut := List.mem_takeWhile_imp hf
          rw [Bool.not_eq_true'] at hshut ⊢
          exact (Bool.or_eq_false_iff.mp hshut).2

theorem foldl_viewStep_push (es : List UpfGraphEdge) :
    (es.foldl (viewStep false visited) (n, true, ps)).2.2 = (es.filterMap (·.destinationUpf)).reverse ++ ps := by
  induction es generalizing n ps with
  | nil => rfl
  | cons e es ih =>
    cases hdest : e.destinationUpf <;> simp [viewStep, hdest, ih]

theorem foldl_viewStep_all (es : List UpfGraphEdge) :
    (es.foldl (viewStep false visited) (n, false, ps)).2.2 =
      ((es.dropWhile (!·.leadsOut visited)).filterMap (·.destinationUpf)).reverse ++ ps := by
  induction es generalizing n ps with
  | nil => rfl
  | cons e es ih =>
    rw [List.foldl_cons]
    cases hout : e.leadsOut visited with
    | true =>
      rw [List.dropWhile_cons_of_neg (by simp [hout])]
      cases hdest : e.destinationUpf <;> simp [viewStep, hout, hdest, foldl_viewStep_push]
    | false =>
      rw [List.dropWhile_cons_of_pos (by simp [hout])]
      simp [viewStep, hout, ih]

end

/-- **What a turn pushes** are the UPFs behind its UPF. -/
theorem reduceOption_pushes (hg : OnlyN9Leads g) (visited : Finset (Option PfcpAssociation)) {node : PfcpAssociation}
    (hnode : node ∈ g.nodes) (sub : SubGraph) :
    (considerNode g criteria visited node sub).pushes.reduceOption =
      upfsBehind g criteria visited.eraseNone node := by
  have hview := @view_foldl criteria node visited (g.edges node) (hg node) ⟨sub, [], 0, false, []⟩
  have hpushes := congrArg (fun v => v.2.2) hview
  change (considerNode g criteria visited node sub).pushes.reduceOption = _ at hpushes
  rw [hpushes]
  unfold upfsBehind consideredEdges servingEdges EdgeLoop.view
  rw [if_pos hnode]
  by_cases hsimple : criteria.dnais = ∅
  · rw [decide_eq_true hsimple, if_pos hsimple]
    exact (foldl_viewStep_simple _).trans (List.append_nil _)
  · rw [decide_eq_false hsimple, if_neg hsimple]
    exact (foldl_viewStep_all _).trans (List.append_nil _)

theorem mem_consideredEdges {visited : Finset PfcpAssociation} {upf : PfcpAssociation} {e : UpfGraphEdge}
    (he : e ∈ consideredEdges g criteria visited upf) :
    upf ∈ g.nodes ∧ e ∈ g.edges upf ∧ (servesNetwork criteria upf e).isSome = true := by
  have hsub : ∀ es : List UpfGraphEdge, beforeSecond (·.nextHop visited) es ⊆ es := by
    intro es
    induction es with
    | nil => exact List.nil_subset _
    | cons f es ih =>
      rw [beforeSecond]
      refine List.cons_subset_cons f ?_
      split
      · exact (List.takeWhile_sublist _).subset
      · exact ih
  have hserving : e ∈ servingEdges g criteria upf := by
    unfold consideredEdges at he
    split_ifs at he
    · exact hsub _ he
    · exact he
  unfold servingEdges at hserving
  split_ifs at hserving with hnode
  · obtain ⟨hmem, hserves⟩ := List.mem_filter.mp hserving
    exact ⟨hnode, hmem, hserves⟩
  · cases hserving

theorem mem_upfsBehind {visited : Finset PfcpAssociation} {upf v : PfcpAssociation}
    (hv : v ∈ upfsBehind g criteria visited upf) :
    upf ∈ g.nodes ∧ ∃ e ∈ g.edges upf, e.destinationUpf = some v := by
  unfold upfsBehind at hv
  obtain ⟨e, he, hdest⟩ := List.mem_filterMap.mp (List.mem_reverse.mp hv)
  obtain ⟨hnode, hmem, -⟩ := mem_consideredEdges ((List.dropWhile_sublist _).subset he)
  exact ⟨hnode, e, hmem, hdest⟩

theorem exists_unvisited_upfsBehind {visited : Finset PfcpAssociation} {upf : PfcpAssociation}
    (hne : upfsBehind g criteria visited upf ≠ []) : ∃ v ∈ upfsBehind g criteria visited upf, v ∉ visited := by
  unfold upfsBehind at hne ⊢
  cases hes : (consideredEdges g criteria visited upf).dropWhile (!·.leadsOut visited) with
  | nil =>
    rw [hes] at hne
    exact absurd rfl hne
  | cons e es =>
    -- the first of the edges leads out
    have hout : e.leadsOut visited = true := by
      have hhead := List.head_dropWhile_not (fun e : UpfGraphEdge => !e.leadsOut visited)
        (l := consideredEdges g criteria visited upf) (by rw [hes]; exact List.cons_ne_nil _ _)
      simpa [hes] using hhead
    obtain ⟨-, hany⟩ := Bool.and_eq_true_iff.mp hout
    cases hdest : e.destinationUpf with
    | none =>
      rw [hdest] at hany
      cases hany
    | some v =>
      rw [hdest] at hany
      exact ⟨v, by simp [hdest], of_decide_eq_true hany⟩

/-! ## When a search ends -/

/-- The search from a UPF, as a loop over a stack. -/
def dfsLoop (hg : OnlyN9Leads g) (criteria : UpfSelectionCriteria) (start : PfcpAssociation) :
    StackLoop DfsState PfcpAssociation where
  step := dfsStep g criteria
  stack st := st.stack
  visited st := st.visitedUpfs
  next := upfsBehind g criteria
  nodes := insert start (g.nodes.biUnion fun u => ((g.edges u).filterMap (·.destinationUpf)).toFinset)
  step_nil st hst := by
    unfold dfsStep
    rw [hst]
  step_none st rest hst := by
    unfold dfsStep DfsState.visitedUpfs
    rw [hst]
    refine ⟨rfl, ?_⟩
    ext upf
    simp
  step_some st node rest hst := by
    have hinsert := insert_visitedUpfs st node
    unfold dfsStep
    rw [hst]
    dsimp only
    by_cases hnode : node ∈ g.nodes
    · rw [if_pos hnode]
      exact ⟨hinsert, _, rfl, (reduceOption_pushes hg _ hnode st.sub).trans (by rw [hinsert])⟩
    · rw [if_neg hnode]
      refine ⟨hinsert, [], rfl, ?_⟩
      rw [eq_comm, List.reduceOption_nil, List.eq_nil_iff_forall_not_mem]
      exact fun v hv => hnode (mem_upfsBehind hv).1
  next_nodes visited upf v hv := by
    obtain ⟨hnode, e, he, hdest⟩ := mem_upfsBehind hv
    refine Finset.mem_insert_of_mem (Finset.mem_biUnion.mpr ⟨upf, hnode, ?_⟩)
    exact List.mem_toFinset.mpr (List.mem_filterMap.mpr ⟨e, he, hdest⟩)
  next_unvisited visited upf hne := exists_unvisited_upfsBehind hne

theorem createSubgraphDfs_returns_iff (st : DfsState) :
    (∃ fuel, createSubgraphDfs g criteria fuel st ≠ none) ↔ ∃ k, ((dfsStep g criteria)^[k] st).stack = [] := by
  constructor
  · rintro ⟨fuel, h⟩
    induction fuel generalizing st with
    | zero =>
      unfold createSubgraphDfs at h
      split at h
      · exact ⟨0, ‹_›⟩
      · exact absurd rfl h
    | succ fuel ih =>
      unfold createSubgraphDfs at h
      split at h
      · exact ⟨0, ‹_›⟩
      · obtain ⟨k, hk⟩ := ih _ h
        exact ⟨k + 1, hk⟩
  · rintro ⟨k, h⟩
    refine ⟨k, ?_⟩
    induction k generalizing st with
    | zero =>
      have hnil : st.stack = [] := h
      unfold createSubgraphDfs
      rw [if_pos hnil]
      exact Option.some_ne_none st
    | succ k ih =>
      unfold createSubgraphDfs
      split
      · exact Option.some_ne_none st
      · exact ih _ h

/-- **A search from one UPF returns exactly when its way never goes round.** -/
theorem dfs_returns_iff (hg : OnlyN9Leads g) {st : DfsState} {start : PfcpAssociation} (hst : st.stack = [some start]) :
    (∃ fuel, createSubgraphDfs g criteria fuel st ≠ none) ↔ NeverGoesRound g criteria st := by
  have hnodes : ∀ b, some b ∈ (dfsLoop hg criteria start).stack st → b ∈ (dfsLoop hg criteria start).nodes := by
    intro b hb
    change some b ∈ st.stack at hb
    rw [hst, List.mem_singleton, Option.some_inj] at hb
    rw [hb]
    exact Finset.mem_insert_self _ _
  rw [createSubgraphDfs_returns_iff]
  exact StackLoop.terminates_iff hnodes

theorem createSubgraphDfs_mono {fuel fuel' : ℕ} (hle : fuel ≤ fuel') {st r : DfsState}
    (h : createSubgraphDfs g criteria fuel st = some r) : createSubgraphDfs g criteria fuel' st = some r := by
  induction fuel generalizing fuel' st with
  | zero =>
    unfold createSubgraphDfs at h
    split at h
    · cases fuel' <;> simpa [createSubgraphDfs, ‹st.stack = []›] using h
    · cases h
  | succ fuel ih =>
    obtain ⟨n, rfl⟩ : ∃ n, fuel' = n + 1 := ⟨fuel' - 1, by omega⟩
    unfold createSubgraphDfs at h ⊢
    split at h
    · rwa [if_pos ‹_›]
    · rw [if_neg ‹_›]
      exact ih (by omega) h

end Search

/-! ## Selection -/

/-- The loop over the candidates. The flag stays set when one had an N3 interface. -/
structure SelectState where
  subGraphPtr : Option SubGraph
  visited : Finset (Option PfcpAssociation)
  hasN3 : Bool

section Select

variable (g : UpfGraph)

/-- A UPF is looked at. -/
def SelectState.see (s : SelectState) (upf : PfcpAssociation) : SelectState :=
  { s with hasN3 := s.hasN3 || (g.edges upf).any (·.type = .n3) }

/-- The search from a candidate. -/
def SelectState.start (s : SelectState) (upf : PfcpAssociation) : DfsState :=
  ⟨[some upf], s.visited, s.subGraphPtr.getD .empty⟩

/-- After a search whose graph is not right. -/
def SelectState.fail (s : SelectState) (st : DfsState) : SelectState :=
  { s with subGraphPtr := s.subGraphPtr.map SubGraph.copy, visited := st.visited }

/-- The third `select_upf_nodes`, over the nodes in the order of the hash map. -/
def selectLoop (dfs : DfsState → Option DfsState) (dnais : Finset String) :
    List PfcpAssociation → SelectState → Option (Option SubGraph × Bool)
  | [], s => some (s.subGraphPtr, false)
  | upf :: order, s =>
    if some upf ∈ s.visited then selectLoop dfs dnais order s
    else if (s.see g upf).hasN3 then
      (dfs ((s.see g upf).start upf)).bind fun st =>
        if st.sub.verify dnais then some (some st.sub, true)
        else selectLoop dfs dnais order ((s.see g upf).fail st)
    else selectLoop dfs dnais order (s.see g upf)

/-- `select_upf_nodes` for criteria. -/
def selectUpfNodes (fuel : ℕ) (order : List PfcpAssociation) (criteria : UpfSelectionCriteria) :
    Option (Option SubGraph) :=
  (selectLoop g (createSubgraphDfs g criteria fuel) criteria.dnais order ⟨some .empty, ∅, false⟩).map
    fun r => if r.2 then r.1 else none

/-- A PCC rule: the DNAIs of its first traffic control data. -/
structure PccRule where
  hasRefTcData : Bool
  dnais : Finset String
  hasFlowInfos : Bool
  precedence : ℕ

/-- What the loop over the PCC rules carries. -/
structure PolicyState where
  subGraphPtr : Option SubGraph
  verifyDnais : Finset String
  precedences : Finset ℕ

/-- The DNAIs of a rule are asked for. -/
def PolicyState.ask (p : PolicyState) (rule : PccRule) : PolicyState :=
  { p with verifyDnais := p.verifyDnais ∪ rule.dnais }

/-- After the selection for a rule. -/
def PolicyState.select (p : PolicyState) (rule : PccRule) (sub : Option SubGraph) : PolicyState :=
  { p.ask rule with subGraphPtr := sub, precedences := insert rule.precedence p.precedences }

/-- The criteria with the DNAIs of a rule. -/
def UpfSelectionCriteria.forRule (base : UpfSelectionCriteria) (rule : PccRule) : UpfSelectionCriteria :=
  { base with dnais := rule.dnais }

/-- The loop over the PCC rules; `some none` is the return when a precedence comes twice. -/
def policyLoop (fuel : ℕ) (order : List PfcpAssociation) (base : UpfSelectionCriteria) :
    List PccRule → PolicyState → Option (Option PolicyState)
  | [], p => some (some p)
  | rule :: rules, p =>
    if rule.hasRefTcData = false then policyLoop fuel order base rules p
    else if rule.hasFlowInfos = false then policyLoop fuel order base rules (p.ask rule)
    else if rule.precedence ∈ p.precedences then some none
    else
      (selectLoop g (createSubgraphDfs g (base.forRule rule) fuel) (p.ask rule).verifyDnais order
        ⟨p.subGraphPtr, ∅, false⟩).bind fun r => policyLoop fuel order base rules (p.select rule r.1)

/-- `select_upf_nodes` for a policy decision. -/
def selectUpfNodesPolicy (fuel : ℕ) (order : List PfcpAssociation) (base : UpfSelectionCriteria)
    (rules : List PccRule) : Option (Option SubGraph) :=
  (policyLoop g fuel order base rules ⟨none, ∅, ∅⟩).map fun r => r.bind fun p =>
    p.subGraphPtr.bind fun sub => if sub.verify p.verifyDnais then some sub else none

/-- The searches that the loop over the candidates starts. -/
inductive Starts (criteria : UpfSelectionCriteria) (dnais : Finset String) :
    List PfcpAssociation → SelectState → DfsState → Prop
  | here (upf : PfcpAssociation) (order : List PfcpAssociation) (s : SelectState) :
      some upf ∉ s.visited → (s.see g upf).hasN3 = true →
      Starts criteria dnais (upf :: order) s ((s.see g upf).start upf)
  | visited (upf : PfcpAssociation) (order : List PfcpAssociation) (s : SelectState) (st : DfsState) :
      some upf ∈ s.visited → Starts criteria dnais order s st → Starts criteria dnais (upf :: order) s st
  | noN3 (upf : PfcpAssociation) (order : List PfcpAssociation) (s : SelectState) (st : DfsState) :
      some upf ∉ s.visited → (s.see g upf).hasN3 = false → Starts criteria dnais order (s.see g upf) st →
      Starts criteria dnais (upf :: order) s st
  | next (upf : PfcpAssociation) (order : List PfcpAssociation) (s : SelectState) (st r : DfsState)
      (fuel : ℕ) : some upf ∉ s.visited → (s.see g upf).hasN3 = true →
      createSubgraphDfs g criteria fuel ((s.see g upf).start upf) = some r → r.sub.verify dnais = false →
      Starts criteria dnais order ((s.see g upf).fail r) st → Starts criteria dnais (upf :: order) s st

/-- The searches that the loop over the PCC rules starts, each with its criteria. -/
inductive PolicyStarts (order : List PfcpAssociation) (base : UpfSelectionCriteria) :
    List PccRule → PolicyState → UpfSelectionCriteria → DfsState → Prop
  | noTcData (rule : PccRule) (rules : List PccRule) (p : PolicyState) (c : UpfSelectionCriteria)
      (st : DfsState) : rule.hasRefTcData = false → PolicyStarts order base rules p c st →
      PolicyStarts order base (rule :: rules) p c st
  | noFlow (rule : PccRule) (rules : List PccRule) (p : PolicyState) (c : UpfSelectionCriteria)
      (st : DfsState) : rule.hasRefTcData = true → rule.hasFlowInfos = false →
      PolicyStarts order base rules (p.ask rule) c st → PolicyStarts order base (rule :: rules) p c st
  | here (rule : PccRule) (rules : List PccRule) (p : PolicyState) (st : DfsState) :
      rule.hasRefTcData = true → rule.hasFlowInfos = true → rule.precedence ∉ p.precedences →
      Starts g (base.forRule rule) (p.ask rule).verifyDnais order ⟨p.subGraphPtr, ∅, false⟩ st →
      PolicyStarts order base (rule :: rules) p (base.forRule rule) st
  | next (rule : PccRule) (rules : List PccRule) (p : PolicyState) (c : UpfSelectionCriteria)
      (st : DfsState) (fuel : ℕ) (r : Option SubGraph × Bool) :
      rule.hasRefTcData = true → rule.hasFlowInfos = true → rule.precedence ∉ p.precedences →
      selectLoop g (createSubgraphDfs g (base.forRule rule) fuel) (p.ask rule).verifyDnais order
        ⟨p.subGraphPtr, ∅, false⟩ = some r →
      PolicyStarts order base rules (p.select rule r.1) c st → PolicyStarts order base (rule :: rules) p c st

variable {g} {criteria : UpfSelectionCriteria} {dnais : Finset String}

section

variable {dfs : DfsState → Option DfsState} {upf : PfcpAssociation} {order : List PfcpAssociation}
  {s : SelectState} {r : DfsState}

theorem selectLoop_visited (hvisited : some upf ∈ s.visited) :
    selectLoop g dfs dnais (upf :: order) s = selectLoop g dfs dnais order s := if_pos hvisited

theorem selectLoop_noN3 (hvisited : some upf ∉ s.visited) (hn3 : (s.see g upf).hasN3 = false) :
    selectLoop g dfs dnais (upf :: order) s = selectLoop g dfs dnais order (s.see g upf) := by
  rw [selectLoop, if_neg hvisited, hn3, if_neg Bool.false_ne_true]

theorem selectLoop_stuck (hvisited : some upf ∉ s.visited) (hn3 : (s.see g upf).hasN3 = true)
    (hr : dfs ((s.see g upf).start upf) = none) : selectLoop g dfs dnais (upf :: order) s = none := by
  rw [selectLoop, if_neg hvisited, hn3, if_pos rfl, hr]
  rfl

theorem selectLoop_found (hvisited : some upf ∉ s.visited) (hn3 : (s.see g upf).hasN3 = true)
    (hr : dfs ((s.see g upf).start upf) = some r) (hverify : r.sub.verify dnais = true) :
    selectLoop g dfs dnais (upf :: order) s = some (some r.sub, true) := by
  rw [selectLoop, if_neg hvisited, hn3, if_pos rfl, hr]
  exact if_pos hverify

theorem selectLoop_next (hvisited : some upf ∉ s.visited) (hn3 : (s.see g upf).hasN3 = true)
    (hr : dfs ((s.see g upf).start upf) = some r) (hverify : r.sub.verify dnais = false) :
    selectLoop g dfs dnais (upf :: order) s = selectLoop g dfs dnais order ((s.see g upf).fail r) := by
  rw [selectLoop, if_neg hvisited, hn3, if_pos rfl, hr]
  exact if_neg (Bool.eq_false_iff.mp hverify)

end

theorem selectLoop_mono {fuel fuel' : ℕ} (hle : fuel ≤ fuel') {order : List PfcpAssociation} {s : SelectState}
    {r : Option SubGraph × Bool}
    (h : selectLoop g (createSubgraphDfs g criteria fuel) dnais order s = some r) :
    selectLoop g (createSubgraphDfs g criteria fuel') dnais order s = some r := by
  induction order generalizing s with
  | nil => exact h
  | cons upf order ih =>
    by_cases hvisited : some upf ∈ s.visited
    · rw [selectLoop_visited hvisited] at h ⊢
      exact ih h
    cases hn3 : (s.see g upf).hasN3 with
    | false =>
      rw [selectLoop_noN3 hvisited hn3] at h ⊢
      exact ih h
    | true =>
      cases hr : createSubgraphDfs g criteria fuel ((s.see g upf).start upf) with
      | none =>
        rw [selectLoop_stuck hvisited hn3 hr] at h
        cases h
      | some st =>
        have hr' := createSubgraphDfs_mono hle hr
        cases hverify : st.sub.verify dnais with
        | true =>
          rw [selectLoop_found hvisited hn3 hr hverify] at h
          rw [selectLoop_found hvisited hn3 hr' hverify]
          exact h
        | false =>
          rw [selectLoop_next hvisited hn3 hr hverify] at h
          rw [selectLoop_next hvisited hn3 hr' hverify]
          exact ih h

/-- **The loop over the candidates returns exactly when each search that it starts does.** -/
theorem selectLoop_returns_iff (hg : OnlyN9Leads g) (order : List PfcpAssociation) (s : SelectState) :
    (∃ fuel, selectLoop g (createSubgraphDfs g criteria fuel) dnais order s ≠ none) ↔
      ∀ st, Starts g criteria dnais order s st → NeverGoesRound g criteria st := by
  induction order generalizing s with
  | nil => exact iff_of_true ⟨0, Option.some_ne_none _⟩ fun st hst => nomatch hst
  | cons upf order ih =>
    by_cases hvisited : some upf ∈ s.visited
    · simp only [selectLoop_visited hvisited]
      rw [ih]
      refine ⟨fun h st hst => ?_, fun h st hst => h st (.visited upf order s st hvisited hst)⟩
      cases hst with
      | here => contradiction
      | visited _ _ _ _ _ hst => exact h st hst
      | noN3 => contradiction
      | next => contradiction
    cases hn3 : (s.see g upf).hasN3 with
    | false =>
      simp only [selectLoop_noN3 hvisited hn3]
      rw [ih]
      refine ⟨fun h st hst => ?_, fun h st hst => h st (.noN3 upf order s st hvisited hn3 hst)⟩
      cases hst with
      | here _ _ _ _ h3 => cases hn3.symm.trans h3
      | visited => contradiction
      | noN3 _ _ _ _ _ _ hst => exact h st hst
      | next _ _ _ _ _ _ _ h3 => cases hn3.symm.trans h3
    | true =>
      have hdfs : (∃ fuel, createSubgraphDfs g criteria fuel ((s.see g upf).start upf) ≠ none) ↔
          NeverGoesRound g criteria ((s.see g upf).start upf) := dfs_returns_iff hg rfl
      constructor
      · rintro ⟨fuel, h⟩ st hst
        cases hr : createSubgraphDfs g criteria fuel ((s.see g upf).start upf) with
        | none => exact absurd (selectLoop_stuck hvisited hn3 hr) h
        | some r =>
          cases hst with
          | here => exact hdfs.mp ⟨fuel, by rw [hr]; exact Option.some_ne_none r⟩
          | visited => contradiction
          | noN3 _ _ _ _ _ h3 => cases hn3.symm.trans h3
          | next _ _ _ _ r' fuel' _ _ hr' hverify hst =>
            -- the search has one result
            have hsame : r = r' := Option.some.inj
              ((createSubgraphDfs_mono (Nat.le_max_left fuel fuel') hr).symm.trans
                (createSubgraphDfs_mono (Nat.le_max_right fuel fuel') hr'))
            subst hsame
            rw [selectLoop_next hvisited hn3 hr hverify] at h
            exact (ih _).mp ⟨fuel, h⟩ st hst
      · intro h
        obtain ⟨fuel, hfuel⟩ := hdfs.mpr (h _ (.here upf order s hvisited hn3))
        obtain ⟨r, hr⟩ := Option.ne_none_iff_exists'.mp hfuel
        cases hverify : r.sub.verify dnais with
        | true =>
          refine ⟨fuel, ?_⟩
          rw [selectLoop_found hvisited hn3 hr hverify]
          exact Option.some_ne_none _
        | false =>
          obtain ⟨fuel', hfuel'⟩ := (ih ((s.see g upf).fail r)).mpr fun st hst =>
            h st (.next upf order s st r fuel hvisited hn3 hr hverify hst)
          obtain ⟨res, hres⟩ := Option.ne_none_iff_exists'.mp hfuel'
          refine ⟨max fuel fuel', ?_⟩
          rw [selectLoop_next hvisited hn3 (createSubgraphDfs_mono (Nat.le_max_left fuel fuel') hr) hverify,
            selectLoop_mono (Nat.le_max_right fuel fuel') hres]
          exact Option.some_ne_none res

theorem policyLoop_mono {fuel fuel' : ℕ} (hle : fuel ≤ fuel') {order : List PfcpAssociation}
    {base : UpfSelectionCriteria} {rules : List PccRule} {p : PolicyState} {r : Option PolicyState}
    (h : policyLoop g fuel order base rules p = some r) : policyLoop g fuel' order base rules p = some r := by
  induction rules generalizing p with
  | nil => exact h
  | cons rule rules ih =>
    unfold policyLoop at h ⊢
    split
    · rw [if_pos ‹_›] at h
      exact ih h
    rw [if_neg ‹_›] at h
    split
    · rw [if_pos ‹_›] at h
      exact ih h
    rw [if_neg ‹_›] at h
    split
    · rwa [if_pos ‹_›] at h
    · rw [if_neg ‹_›] at h
      obtain ⟨res, hres, h⟩ := Option.bind_eq_some_iff.mp h
      rw [selectLoop_mono hle hres]
      exact ih h

/-- **The loop over the PCC rules returns exactly when each search that it starts does.** -/
theorem policyLoop_returns_iff (hg : OnlyN9Leads g) (order : List PfcpAssociation) (base : UpfSelectionCriteria)
    (rules : List PccRule) (p : PolicyState) :
    (∃ fuel, policyLoop g fuel order base rules p ≠ none) ↔
      ∀ c st, PolicyStarts g order base rules p c st → NeverGoesRound g c st := by
  induction rules generalizing p with
  | nil => exact iff_of_true ⟨0, Option.some_ne_none _⟩ fun c st hst => nomatch hst
  | cons rule rules ih =>
    cases htc : rule.hasRefTcData with
    | false =>
      simp only [policyLoop, htc, if_true]
      rw [ih]
      refine ⟨fun h c st hst => ?_, fun h c st hst => h c st (.noTcData rule rules p c st htc hst)⟩
      cases hst with
      | noTcData _ _ _ _ _ _ hst => exact h c st hst
      | noFlow _ _ _ _ _ htc' => cases htc.symm.trans htc'
      | here _ _ _ _ htc' => cases htc.symm.trans htc'
      | next _ _ _ _ _ _ _ htc' => cases htc.symm.trans htc'
    | true =>
    cases hflow : rule.hasFlowInfos with
    | false =>
      simp only [policyLoop, htc, hflow, Bool.true_eq_false, if_false, if_true]
      rw [ih]
      refine ⟨fun h c st hst => ?_, fun h c st hst => h c st (.noFlow rule rules p c st htc hflow hst)⟩
      cases hst with
      | noTcData _ _ _ _ _ htc' => cases htc.symm.trans htc'
      | noFlow _ _ _ _ _ _ _ hst => exact h c st hst
      | here _ _ _ _ _ hflow' => cases hflow.symm.trans hflow'
      | next _ _ _ _ _ _ _ _ hflow' => cases hflow.symm.trans hflow'
    | true =>
    by_cases hprec : rule.precedence ∈ p.precedences
    · simp only [policyLoop, htc, hflow, hprec, Bool.true_eq_false, if_false, if_true]
      refine iff_of_true ⟨0, Option.some_ne_none _⟩ fun c st hst => ?_
      cases hst with
      | noTcData _ _ _ _ _ htc' => cases htc.symm.trans htc'
      | noFlow _ _ _ _ _ _ hflow' => cases hflow.symm.trans hflow'
      | here => contradiction
      | next => contradiction
    have hselect := @selectLoop_returns_iff g (base.forRule rule) (p.ask rule).verifyDnais hg order
      ⟨p.subGraphPtr, ∅, false⟩
    simp only [policyLoop, htc, hflow, hprec, Bool.true_eq_false, if_false]
    constructor
    · rintro ⟨fuel, h⟩ c st hst
      obtain ⟨res, h⟩ := Option.ne_none_iff_exists'.mp h
      obtain ⟨r, hr, h⟩ := Option.bind_eq_some_iff.mp h
      cases hst with
      | noTcData _ _ _ _ _ htc' => cases htc.symm.trans htc'
      | noFlow _ _ _ _ _ _ hflow' => cases hflow.symm.trans hflow'
      | here _ _ _ _ _ _ _ hst => exact hselect.mp ⟨fuel, by rw [hr]; exact Option.some_ne_none r⟩ st hst
      | next _ _ _ _ _ fuel' r' _ _ _ hr' hst =>
        have hsame : r = r' := Option.some.inj ((selectLoop_mono (Nat.le_max_left fuel fuel') hr).symm.trans
          (selectLoop_mono (Nat.le_max_right fuel fuel') hr'))
        subst hsame
        exact (ih _).mp ⟨fuel, by rw [h]; exact Option.some_ne_none res⟩ c st hst
    · intro h
      obtain ⟨fuel, hfuel⟩ := hselect.mpr fun st hst => h _ st (.here rule rules p st htc hflow hprec hst)
      obtain ⟨r, hr⟩ := Option.ne_none_iff_exists'.mp hfuel
      obtain ⟨fuel', hfuel'⟩ := (ih (p.select rule r.1)).mpr fun c st hst =>
        h c st (.next rule rules p c st fuel r htc hflow hprec hr hst)
      obtain ⟨res, hres⟩ := Option.ne_none_iff_exists'.mp hfuel'
      refine ⟨max fuel fuel', ?_⟩
      rw [selectLoop_mono (Nat.le_max_left fuel fuel') hr]
      show policyLoop g _ order base rules (p.select rule r.1) ≠ none
      rw [policyLoop_mono (Nat.le_max_right fuel fuel') hres]
      exact Option.some_ne_none res

/-- **Selection returns on every association graph**, for criteria and for a policy decision, exactly when in each
search that it starts the way never goes round. -/
theorem selects_iff {associations : List PfcpAssociation} {g : UpfGraph} (hg : Inserts .empty associations g)
    (order : List PfcpAssociation) (criteria : UpfSelectionCriteria) (rules : List PccRule) :
    ((∃ fuel, selectUpfNodes g fuel order criteria ≠ none) ↔
      ∀ st, Starts g criteria criteria.dnais order ⟨some .empty, ∅, false⟩ st → NeverGoesRound g criteria st) ∧
    ((∃ fuel, selectUpfNodesPolicy g fuel order criteria rules ≠ none) ↔
      ∀ c st, PolicyStarts g order criteria rules ⟨none, ∅, ∅⟩ c st → NeverGoesRound g c st) := by
  have hleads := hg.onlyN9Leads onlyN9Leads_empty
  unfold selectUpfNodes selectUpfNodesPolicy
  simp only [ne_eq, Option.map_eq_none_iff]
  exact ⟨selectLoop_returns_iff hleads order _, policyLoop_returns_iff hleads order criteria rules _⟩

end Select

/-! ## What is selected -/

/-- The edges of a session are edges of the graph, at its nodes. -/
def TakenFrom (g : UpfGraph) (sub : SubGraph) : Prop :=
  ∀ e ∈ sub.edges, e.source ∈ g.nodes ∧ e.edge ∈ g.edges e.source

section Taken

variable {g : UpfGraph} {criteria : UpfSelectionCriteria}

theorem takenFrom_empty (g : UpfGraph) : TakenFrom g .empty := fun _ he => nomatch he

theorem TakenFrom.considerEdge {visited : Finset (Option PfcpAssociation)} {node : PfcpAssociation} {l : EdgeLoop}
    {e : UpfGraphEdge} (hl : TakenFrom g l.sub) (hnode : node ∈ g.nodes) (he : e ∈ g.edges node) :
    TakenFrom g (considerEdge criteria visited node l e).sub := by
  unfold Smf.considerEdge
  cases servesNetwork criteria node e with
  | none => exact hl
  | some usedDnai =>
    dsimp only
    -- the DNAIs that are served do not matter here
    generalize hl' : (if usedDnai = "" then l else { l with sub := { l.sub with
      servedDnais := insert usedDnai l.sub.servedDnais } }) = l'
    have hsame : l'.sub.edges = l.sub.edges := by
      rw [← hl']
      split <;> rfl
    have hl : TakenFrom g l'.sub := fun x hx => hl x (hsame ▸ hx)
    refine iteInduction (motive := fun l : EdgeLoop => TakenFrom g l.sub) (fun _ => hl) fun _ =>
      iteInduction (motive := fun l : EdgeLoop => TakenFrom g l.sub) (fun _ => hl) fun _ => ?_
    intro x hx
    obtain hx | hx := List.mem_append.mp hx
    · exact hl x hx
    · rw [List.mem_singleton.mp hx]
      exact ⟨hnode, he⟩

theorem TakenFrom.associate {sub : SubGraph} (h : TakenFrom g sub) (i j : ℕ) : TakenFrom g (sub.associate i j) := by
  intro x hx
  obtain ⟨k, hk, rfl⟩ := List.mem_mapIdx.mp hx
  have hmem := h _ (List.getElem_mem hk)
  split_ifs <;> exact hmem

/-- **A turn takes edges of the graph only.** -/
theorem TakenFrom.dfsStep {st : DfsState} (h : TakenFrom g st.sub) : TakenFrom g (dfsStep g criteria st).sub := by
  unfold Smf.dfsStep
  split
  · exact h
  · exact h
  · next node rest _ =>
    dsimp only
    split
    · next hnode =>
      have hloop : TakenFrom g (considerNode g criteria (insert (some node) st.visited) node st.sub).sub :=
        List.foldlRecOn (motive := fun l : EdgeLoop => TakenFrom g l.sub) _ _ h
          fun l hl e he => hl.considerEdge hnode he
      split
      · exact hloop.associate _ _
      · exact hloop
    · exact h

theorem TakenFrom.dfs {fuel : ℕ} {st r : DfsState} (h : TakenFrom g st.sub)
    (hr : createSubgraphDfs g criteria fuel st = some r) : TakenFrom g r.sub := by
  induction fuel generalizing st with
  | zero =>
    unfold createSubgraphDfs at hr
    split at hr
    · cases hr
      exact h
    · cases hr
  | succ fuel ih =>
    unfold createSubgraphDfs at hr
    split at hr
    · cases hr
      exact h
    · exact ih h.dfsStep hr

theorem TakenFrom.selectLoop {dnais : Finset String} {fuel : ℕ} {order : List PfcpAssociation} {s : SelectState}
    {r : Option SubGraph × Bool} (h : ∀ sub ∈ s.subGraphPtr, TakenFrom g sub)
    (hr : selectLoop g (createSubgraphDfs g criteria fuel) dnais order s = some r) : ∀ sub ∈ r.1, TakenFrom g sub := by
  induction order generalizing s with
  | nil =>
    cases hr
    exact h
  | cons upf order ih =>
    by_cases hvisited : some upf ∈ s.visited
    · rw [selectLoop_visited hvisited] at hr
      exact ih h hr
    cases hn3 : (s.see g upf).hasN3 with
    | false =>
      rw [selectLoop_noN3 hvisited hn3] at hr
      exact ih (s := s.see g upf) h hr
    | true =>
      cases hst : createSubgraphDfs g criteria fuel ((s.see g upf).start upf) with
      | none =>
        rw [selectLoop_stuck hvisited hn3 hst] at hr
        cases hr
      | some st =>
        have hstart : TakenFrom g ((s.see g upf).start upf).sub := by
          unfold SelectState.start SelectState.see
          cases hptr : s.subGraphPtr with
          | none => exact takenFrom_empty g
          | some sub => exact h sub hptr
        cases hverify : st.sub.verify dnais with
        | true =>
          rw [selectLoop_found hvisited hn3 hst hverify] at hr
          cases hr
          intro sub hsub
          rw [← Option.some.inj hsub]
          exact hstart.dfs hst
        | false =>
          rw [selectLoop_next hvisited hn3 hst hverify] at hr
          refine ih (fun sub hsub => ?_) hr
          -- the copy has the edges of the graph before the search
          obtain ⟨sub', hsub', rfl⟩ := Option.map_eq_some_iff.mp hsub
          exact h sub' hsub'

theorem TakenFrom.policyLoop {fuel : ℕ} {order : List PfcpAssociation} {base : UpfSelectionCriteria}
    {rules : List PccRule} {p : PolicyState} {r : Option PolicyState} (h : ∀ sub ∈ p.subGraphPtr, TakenFrom g sub)
    (hr : policyLoop g fuel order base rules p = some r) : ∀ q ∈ r, ∀ sub ∈ q.subGraphPtr, TakenFrom g sub := by
  induction rules generalizing p with
  | nil =>
    cases hr
    intro q hq
    rw [← Option.some.inj hq]
    exact h
  | cons rule rules ih =>
    unfold Smf.policyLoop at hr
    split_ifs at hr
    · exact ih h hr
    · exact ih (p := p.ask rule) h hr
    · cases hr
      exact fun q hq => nomatch hq
    · obtain ⟨res, hres, hr⟩ := Option.bind_eq_some_iff.mp hr
      exact ih (TakenFrom.selectLoop h hres) hr

/-- **What is selected, for criteria or for a policy decision, is taken from the graph.** -/
theorem takenFrom_selectUpfNodes {fuel : ℕ} {order : List PfcpAssociation} {rules : List PccRule} {sub : SubGraph}
    (h : selectUpfNodes g fuel order criteria = some (some sub) ∨
      selectUpfNodesPolicy g fuel order criteria rules = some (some sub)) : TakenFrom g sub := by
  obtain h | h := h
  · obtain ⟨r, hr, h⟩ := Option.map_eq_some_iff.mp h
    refine TakenFrom.selectLoop (fun x hx => ?_) hr sub ?_
    · rw [← Option.some.inj hx]
      exact takenFrom_empty g
    · split_ifs at h
      exact h
  · obtain ⟨r, hr, h⟩ := Option.map_eq_some_iff.mp h
    obtain ⟨q, hq, h⟩ := Option.bind_eq_some_iff.mp h
    obtain ⟨x, hx, h⟩ := Option.bind_eq_some_iff.mp h
    split_ifs at h
    rw [← Option.some.inj h]
    exact TakenFrom.policyLoop (fun x hx => by cases hx) hr q hq x hx

end Taken

/-! ## A search that does not end -/

/-- An association with an N3 interface and an N9 interface to each of the hosts. -/
def ringUpf (nodeId : ℕ) (host : String) (hosts : List String) : PfcpAssociation :=
  ⟨nodeId, host, ⟨.n3, "", [], ""⟩ :: hosts.map fun h => ⟨.n9, h, [], ""⟩, []⟩

/-- The UPF that the search starts from. -/
def ringA : PfcpAssociation := ringUpf 1 "a" ["c", "u", "d"]

/-- Behind A and D. -/
def ringC : PfcpAssociation := ringUpf 2 "c" ["a", "d"]

/-- Behind A, C and U. -/
def ringD : PfcpAssociation := ringUpf 3 "d" ["a", "c", "u"]

/-- The UPF that the search never comes to. -/
def ringU : PfcpAssociation := ringUpf 4 "u" ["a", "d"]

/-- The four associations in one order of insertion. -/
def ring : UpfGraph :=
  (((UpfGraph.empty.insertIntoGraph [ringC] ringC).insertIntoGraph [ringC, ringU] ringU).insertIntoGraph
    [ringC, ringU, ringA] ringA).insertIntoGraph [ringU, ringA, ringC, ringD] ringD

theorem inserts_ring : Inserts .empty [ringC, ringU, ringA, ringD] ring := by
  refine .cons _ _ _ _ [ringC] (by decide) (by decide) (.cons _ _ _ _ [ringC, ringU] (by decide) (by decide)
    (.cons _ _ _ _ [ringC, ringU, ringA] (by decide) (by decide) (.cons _ _ _ _ [ringU, ringA, ringC, ringD]
      (by decide) (by decide) (.nil _))))

/-- Criteria without DNAIs, which an association without slices meets. -/
def anyCriteria : UpfSelectionCriteria := ⟨⟨1, ""⟩, "internet", ∅⟩

/-- **In this order of the candidates the selection returns**: no search goes round. -/
theorem selects_ring : selectUpfNodes ring 8 [ringC, ringA, ringD, ringU] anyCriteria ≠ none ∧
    ∀ st, Starts ring anyCriteria ∅ [ringC, ringA, ringD, ringU] ⟨some .empty, ∅, false⟩ st →
      NeverGoesRound ring anyCriteria st := by
  have hreturns : selectUpfNodes ring 8 [ringC, ringA, ringD, ringU] anyCriteria ≠ none := by decide
  exact ⟨hreturns, (selects_iff inserts_ring [ringC, ringA, ringD, ringU] anyCriteria []).1.mp ⟨8, hreturns⟩⟩

/-- **On the ring the search from the first UPF never ends**, and neither does the selection: A, C and D are visited,
and the way goes from A to D and back. -/
theorem selectUpfNodes_ring : Inserts .empty [ringC, ringU, ringA, ringD] ring ∧
    [ringA, ringC, ringD, ringU].toFinset = ring.nodes ∧
    ∀ fuel, selectUpfNodes ring fuel [ringA, ringC, ringD, ringU] anyCriteria = none := by
  refine ⟨inserts_ring, by decide, fun fuel => ?_⟩
  have hstarts : Starts ring anyCriteria anyCriteria.dnais [ringA, ringC, ringD, ringU]
      ⟨some .empty, ∅, false⟩ ⟨[some ringA], ∅, .empty⟩ :=
    .here ringA _ ⟨some .empty, ∅, false⟩ (Finset.notMem_empty _) (by decide)
  have hstack : ((dfsStep ring anyCriteria)^[4] ⟨[some ringA], ∅, .empty⟩).stack = [some ringA, some ringU] := by
    decide
  by_contra hne
  refine (selectLoop_returns_iff (inserts_ring.onlyN9Leads onlyN9Leads_empty) _ _).mp ⟨fuel, fun hnone => hne ?_⟩ _
    hstarts 4 ringA [some ringU] hstack ⟨0, 2, ringA, by decide, rfl, by decide⟩
  unfold selectUpfNodes
  rw [hnone]
  rfl

end Oai5g.Smf
