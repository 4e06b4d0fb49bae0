import Oai5g.Smf.Selection
import Oai5g.Lib.Postpone

/-!
# The asynchronous traversal of a session graph

* `startAsynchDfsProcedure`, `dfsNextUpf`: the traversal that PFCP procedures share.
* `IsTree`: the links of a session graph form no cycle.
* `VisitsOnce`: what the traversal is for. **`visitsOnce_iff`**: in a tree it holds for every order of the hash map
  exactly when the session graph is `Orderly`, a condition on its UPFs and edges.
* `branchingSession`: a session with two anchors, which is traversed rightly in both directions.
* `classifierSession`: a session with an uplink classifier, whose traversal depends on the order.
-/

namespace Oai5g.Smf

deriving instance DecidableEq for SubEdge, SubGraph

/-! ## The traversal -/

namespace SubGraph

variable (sub : SubGraph)

/-- The keys of `adjacency_list`. -/
def nodes : Finset PfcpAssociation := (sub.edges.map (·.source)).toFinset

/-- The edges of a UPF, in the order of its list. -/
def edgesOf (upf : PfcpAssociation) : List SubEdge := sub.edges.filter (·.source = upf)

end SubGraph

/-- The type of an edge. -/
def SubEdge.type (e : SubEdge) : UPInterfaceType := e.edge.type

/-- Where an edge leads. -/
def SubEdge.destinationUpf (e : SubEdge) : Option PfcpAssociation := e.edge.destinationUpf

/-- `stack_asynch`, `visited_asynch` and `uplink_asynch`. -/
structure AsynchDfs where
  stackAsynch : List PfcpAssociation
  visitedAsynch : Finset PfcpAssociation
  uplinkAsynch : Bool

/-- What a call of `dfs_next_upf` gives. -/
structure NextUpf where
  result : Bool
  upf : Option PfcpAssociation := none
  infoDl : List SubEdge := []
  infoUl : List SubEdge := []

section Traversal

variable (sub : SubGraph)

/-- The nodes at which a traversal starts: those with an N6 edge, or with an N3 edge. -/
def startNodes (order : List PfcpAssociation) (uplink : Bool) : List PfcpAssociation :=
  order.filter fun upf => (sub.edgesOf upf).any fun e => e.type = if uplink then .n6 else .n3

/-- `start_asynch_dfs_procedure`, with the nodes in the order of the hash map. -/
def startAsynchDfsProcedure (order : List PfcpAssociation) (uplink : Bool) : AsynchDfs :=
  ⟨(startNodes sub order uplink).reverse, ∅, uplink⟩

/-- An uplink N9 edge leads to a UPF that was not visited. -/
def waits (visited : Finset PfcpAssociation) (upf : PfcpAssociation) : Bool :=
  (sub.edgesOf upf).any fun e => e.type = .n9 && e.uplink && e.destinationUpf.any (· ∉ visited)

/-- The unvisited neighbours, the last one first. -/
def neighbours (visited : Finset PfcpAssociation) (upf : PfcpAssociation) : List PfcpAssociation :=
  ((sub.edgesOf upf).filterMap fun e => e.destinationUpf.filter (· ∉ visited)).reverse

/-- `dfs_next_upf` -/
def dfsNextUpf (a : AsynchDfs) : AsynchDfs × NextUpf :=
  match a.stackAsynch with
  | [] => (a, { result := true })
  | upf :: rest =>
    if upf ∉ sub.nodes then ({ a with stackAsynch := rest }, { result := false })
    else if a.uplinkAsynch && waits sub a.visitedAsynch upf then
      -- it comes again from another branch
      ({ a with stackAsynch := rest }, { result := false })
    else
      let visited := insert upf a.visitedAsynch
      ({ a with stackAsynch := neighbours sub visited upf ++ rest, visitedAsynch := visited },
        { result := true, upf := some upf, infoDl := (sub.edgesOf upf).filter (!·.uplink),
          infoUl := (sub.edgesOf upf).filter (·.uplink) })

/-- A traversal with the UPFs that it has returned. -/
structure Traversal where
  asynch : AsynchDfs
  returned : List PfcpAssociation

/-- One call. -/
def traverse (t : Traversal) : Traversal :=
  ⟨(dfsNextUpf sub t.asynch).1, t.returned ++ (dfsNextUpf sub t.asynch).2.upf.toList⟩

/-- A traversal that has returned nothing yet. -/
def startTraversal (order : List PfcpAssociation) (uplink : Bool) : Traversal :=
  ⟨startAsynchDfsProcedure sub order uplink, []⟩

/-- An edge leads from one UPF to another. -/
def Linked (u v : PfcpAssociation) : Prop := ∃ e ∈ sub.edgesOf u, e.destinationUpf = some v

/-- An uplink N9 edge does. -/
def UplinkTo (u v : PfcpAssociation) : Prop :=
  ∃ e ∈ sub.edgesOf u, e.type = .n9 ∧ e.uplink = true ∧ e.destinationUpf = some v

/-- **The links form a tree**: going from UPF to UPF by edges of either direction, one never comes round. -/
def IsTree : Prop := (SimpleGraph.fromRel (Linked sub)).IsAcyclic

/-- A traversal starts at the exit nodes in uplink direction, at the access nodes in downlink direction. -/
def StartsAt (uplink : Bool) (upf : PfcpAssociation) : Prop :=
  ∃ e ∈ sub.edgesOf upf, e.type = if uplink then .n6 else .n3

/-- A UPF that can be reached from a start node. -/
def ReachedFrom (uplink : Bool) (upf : PfcpAssociation) : Prop :=
  ∃ start, StartsAt sub uplink start ∧ Relation.ReflTransGen (Linked sub) start upf

/-- **The traversal returns each UPF that can be reached exactly once**, uplink after the UPFs at the far ends
of its uplink edges. -/
structure VisitsOnce (order : List PfcpAssociation) (uplink : Bool) : Prop where
  ends : ∃ k, ((traverse sub)^[k] (startTraversal sub order uplink)).asynch.stackAsynch = []
  nodup : ∀ k, ((traverse sub)^[k] (startTraversal sub order uplink)).returned.Nodup
  all : ∀ k, ((traverse sub)^[k] (startTraversal sub order uplink)).asynch.stackAsynch = [] →
    ∀ upf, upf ∈ ((traverse sub)^[k] (startTraversal sub order uplink)).returned ↔ ReachedFrom sub uplink upf
  order : uplink = true → ∀ k before upf after,
    ((traverse sub)^[k] (startTraversal sub order uplink)).returned = before ++ upf :: after →
      ∀ v, UplinkTo sub upf v → v ∈ before

/-- **The session graph as a graph to be visited**: uplink a UPF waits for those at the far ends of its uplink N9
edges. -/
def postponing (uplink : Bool) : Postponing PfcpAssociation where
  nodes := sub.nodes
  behind upf := (sub.edgesOf upf).filterMap (·.destinationUpf)
  waitsFor upf := if uplink then
      ((sub.edgesOf upf).filter fun e => e.type = .n9 && e.uplink).filterMap (·.destinationUpf)
    else []

/-- The UPFs with an N6 edge, or with an N3 edge. -/
def starts (uplink : Bool) : Finset PfcpAssociation :=
  sub.nodes.filter fun upf => (sub.edgesOf upf).any fun e => e.type = if uplink then .n6 else .n3

/-! ## The session graph as a graph to be visited -/

variable {sub} {uplink : Bool} {u v : PfcpAssociation}

theorem mem_behind : v ∈ (postponing sub uplink).behind u ↔ Linked sub u v := List.mem_filterMap

theorem mem_waitsFor : v ∈ (postponing sub uplink).waitsFor u ↔ uplink = true ∧ UplinkTo sub u v := by
  unfold postponing UplinkTo
  cases uplink with
  | false => simp
  | true => simp [and_assoc]

theorem links_postponing : (postponing sub uplink).links = SimpleGraph.fromRel (Linked sub) := by
  unfold Postponing.links
  simp only [mem_behind]

theorem mem_starts : u ∈ starts sub uplink ↔ StartsAt sub uplink u := by
  unfold starts StartsAt
  rw [Finset.mem_filter, List.any_eq_true]
  simp only [decide_eq_true_eq]
  refine and_iff_right_of_imp ?_
  rintro ⟨e, he, -⟩
  obtain ⟨he, hsource⟩ := List.mem_filter.mp he
  exact List.mem_toFinset.mpr (List.mem_map.mpr ⟨e, he, by simpa using hsource⟩)

theorem Linked.exists_edge (h : Linked sub u v) :
    ∃ e ∈ sub.edges, e.source = u ∧ e.destinationUpf = some v := by
  obtain ⟨e, he, hdest⟩ := h
  obtain ⟨he, hsource⟩ := List.mem_filter.mp he
  exact ⟨e, he, of_decide_eq_true hsource, hdest⟩

theorem isTree_of_root (root : PfcpAssociation)
    (h : ∀ u v, Linked sub u v → (u = root ∧ v ≠ root) ∨ (u ≠ root ∧ v = root)) : IsTree sub := by
  have hparent : ∀ u v, Linked sub u v →
      ((if u = root then none else some root) = some v ∧ (if v = root then 0 else 1) < if u = root then 0 else 1) ∨
      ((if v = root then none else some root) = some u ∧ (if u = root then 0 else 1) < if v = root then 0 else 1) := by
    intro u v huv
    rcases h u v huv with ⟨rfl, hv⟩ | ⟨hu, rfl⟩
    · simp [hv]
    · simp [hu]
  refine isAcyclic_of_parent (fun u => if u = root then none else some root) (fun u => if u = root then 0 else 1) ?_
  rintro u v ⟨-, huv | hvu⟩
  · exact hparent u v huv
  · exact (hparent v u hvu).symm

theorem reachedFrom_iff : (postponing sub uplink).Reached (starts sub uplink) v ↔ ReachedFrom sub uplink v := by
  unfold Postponing.Reached ReachedFrom
  simp only [mem_starts, mem_behind]

/-! ## One call -/

theorem waits_iff {visited : Finset PfcpAssociation} {upf : PfcpAssociation} :
    waits sub visited upf = true ↔ ∃ v, UplinkTo sub upf v ∧ v ∉ visited := by
  unfold waits UplinkTo
  simp only [List.any_eq_true, Bool.and_eq_true, decide_eq_true_eq, Option.any_eq_true_iff_get]
  constructor
  · rintro ⟨e, he, ⟨htype, hup⟩, hsome, hv⟩
    exact ⟨_, ⟨e, he, htype, hup, (Option.some_get hsome).symm⟩, by simpa using hv⟩
  · rintro ⟨v, ⟨e, he, htype, hup, hdest⟩, hv⟩
    refine ⟨e, he, ⟨htype, hup⟩, ?_⟩
    simp [hdest, hv]

/-- A traversal and a visit at the same point. -/
structure Matches (uplink : Bool) (t : Traversal) (s : Visit PfcpAssociation) : Prop where
  asynch : t.asynch = ⟨s.stack, s.visited.toFinset, uplink⟩
  returned : t.returned = s.visited

theorem neighbours_eq (visited : List PfcpAssociation) (upf : PfcpAssociation) :
    neighbours sub (insert upf visited.toFinset) upf = (postponing sub uplink).pushed visited upf := by
  unfold neighbours Postponing.pushed postponing
  rw [List.filter_filterMap]
  simp [or_comm]

/-- **A call is a turn.** -/
theorem Matches.traverse {t : Traversal} {s : Visit PfcpAssociation} (h : Matches uplink t s) :
    Matches uplink (traverse sub t) ((postponing sub uplink).turn s) := by
  obtain ⟨⟨stack, visited, up⟩, returned⟩ := t
  obtain ⟨hasynch, rfl⟩ := h
  cases hasynch
  unfold Smf.traverse dfsNextUpf Postponing.turn
  dsimp only
  cases hs : s.stack with
  | nil => exact ⟨by rw [hs], List.append_nil _⟩
  | cons upf rest =>
    dsimp only
    by_cases hnode : upf ∈ sub.nodes
    · have hready : (postponing sub uplink).Ready s.visited upf ↔
          ¬ (uplink && waits sub s.visited.toFinset upf) = true := by
        unfold Postponing.Ready
        rw [Bool.and_eq_true, waits_iff, and_iff_right (show upf ∈ (postponing sub uplink).nodes from hnode)]
        simp only [mem_waitsFor, List.mem_toFinset]
        push Not
        exact ⟨fun h hup v hv => h v ⟨hup, hv⟩, fun h v hv => h hv.1 v hv.2⟩
      rw [if_neg (not_not.mpr hnode)]
      by_cases hwaits : (uplink && waits sub s.visited.toFinset upf) = true
      · rw [if_pos hwaits, if_neg (fun hr => hready.mp hr hwaits)]
        exact ⟨rfl, List.append_nil _⟩
      · rw [if_neg hwaits, if_pos (hready.mpr hwaits)]
        refine ⟨?_, rfl⟩
        rw [← neighbours_eq, List.toFinset_append, Finset.insert_eq, Finset.union_comm]
        rfl
    · rw [if_pos hnode, if_neg fun hr : (postponing sub uplink).Ready s.visited upf => hnode hr.1]
      exact ⟨rfl, List.append_nil _⟩

theorem matches_iterate (order : List PfcpAssociation) (k : ℕ) :
    Matches uplink ((traverse sub)^[k] (startTraversal sub order uplink))
      ((postponing sub uplink).visit (startNodes sub order uplink).reverse k) := by
  induction k with
  | zero => exact ⟨rfl, rfl⟩
  | succ k ih =>
    rw [Postponing.visit_succ, Function.iterate_succ_apply']
    exact ih.traverse

/-- **A traversal is a visit of the session graph.** -/
theorem visitsOnce_iff_visitsAll (order : List PfcpAssociation) : VisitsOnce sub order uplink ↔
    (postponing sub uplink).VisitsAll (starts sub uplink) (startNodes sub order uplink).reverse := by
  have hstack : ∀ k, ((traverse sub)^[k] (startTraversal sub order uplink)).asynch.stackAsynch =
      ((postponing sub uplink).visit (startNodes sub order uplink).reverse k).stack := fun k => by
    rw [(matches_iterate order k).asynch]
  have hreturned : ∀ k, ((traverse sub)^[k] (startTraversal sub order uplink)).returned =
      ((postponing sub uplink).visit (startNodes sub order uplink).reverse k).visited := fun k =>
    (matches_iterate order k).returned
  constructor
  · intro h
    refine ⟨?_, fun k => ?_, fun k hk a => ?_, fun k before a after hsplit b hb => ?_⟩
    · obtain ⟨k, hk⟩ := h.ends
      exact ⟨k, hstack k ▸ hk⟩
    · exact hreturned k ▸ h.nodup k
    · rw [reachedFrom_iff, ← hreturned]
      exact h.all k ((hstack k).trans hk) a
    · obtain ⟨hup, hv⟩ := mem_waitsFor.mp hb
      exact h.order hup k before a after ((hreturned k).trans hsplit) b hv
  · intro h
    refine ⟨?_, fun k => ?_, fun k hk a => ?_, fun hup k before a after hsplit b hb => ?_⟩
    · obtain ⟨k, hk⟩ := h.ends
      exact ⟨k, (hstack k).trans hk⟩
    · exact (hreturned k).symm ▸ h.once k
    · rw [← reachedFrom_iff, hreturned]
      exact h.all k ((hstack k).symm.trans hk) a
    · exact h.order k before a after ((hreturned k).symm.trans hsplit) b (mem_waitsFor.mpr ⟨hup, hb⟩)

/-! ## Every order -/

theorem startNodes_eq_filter (order : List PfcpAssociation) (uplink : Bool)
    (horder : ∀ upf ∈ order, upf ∈ sub.nodes) :
    startNodes sub order uplink = order.filter (· ∈ starts sub uplink) := by
  refine List.filter_congr fun upf hupf => ?_
  rw [Bool.eq_iff_iff, decide_eq_true_eq, starts, Finset.mem_filter]
  exact (and_iff_right (horder upf hupf)).symm

/-- **In a tree the traversal visits each UPF exactly once, for every order of the hash map, exactly when the session
graph is orderly.** -/
theorem visitsOnce_iff (sub : SubGraph) (htree : IsTree sub) (uplink : Bool) :
    (∀ order : List PfcpAssociation, order.Nodup → (∀ upf, upf ∈ order ↔ upf ∈ sub.nodes) →
      VisitsOnce sub order uplink) ↔ (postponing sub uplink).Orderly (starts sub uplink) := by
  have hwaits : ∀ u, ∀ v ∈ (postponing sub uplink).waitsFor u, v ∈ (postponing sub uplink).behind u := by
    intro u v hv
    obtain ⟨-, e, he, -, -, hdest⟩ := mem_waitsFor.mp hv
    exact mem_behind.mpr ⟨e, he, hdest⟩
  rw [← Postponing.visitsAll_iff (links_postponing ▸ htree) hwaits]
  simp only [visitsOnce_iff_visitsAll]
  constructor
  · intro h stack hnodup hstack
    -- an order of all UPFs in which the start nodes are pushed like this
    have hnodes : ∀ upf ∈ starts sub uplink, upf ∈ sub.nodes := fun upf hupf => (Finset.mem_filter.mp hupf).1
    have hmem : ∀ upf, upf ∈ stack.reverse ++ (sub.nodes \ starts sub uplink).toList ↔ upf ∈ sub.nodes := by
      intro upf
      rw [List.mem_append, List.mem_reverse, hstack, Finset.mem_toList, Finset.mem_sdiff]
      by_cases hupf : upf ∈ starts sub uplink
      · simp [hupf, hnodes upf hupf]
      · simp [hupf]
    have hall := h (stack.reverse ++ (sub.nodes \ starts sub uplink).toList) (by
      refine List.nodup_append.mpr ⟨List.nodup_reverse.mpr hnodup, Finset.nodup_toList _, fun a ha b hb hab => ?_⟩
      rw [List.mem_reverse, hstack] at ha
      exact (Finset.mem_sdiff.mp (Finset.mem_toList.mp hb)).2 (hab ▸ ha)) hmem
    have hfilter : (stack.reverse ++ (sub.nodes \ starts sub uplink).toList).filter (· ∈ starts sub uplink) =
        stack.reverse := by
      rw [List.filter_append, List.filter_eq_self.mpr fun a ha => ?_, List.filter_eq_nil_iff.mpr fun a ha => ?_,
        List.append_nil]
      · simpa using (Finset.mem_sdiff.mp (Finset.mem_toList.mp ha)).2
      · exact decide_eq_true ((hstack a).mp (List.mem_reverse.mp ha))
    rwa [startNodes_eq_filter _ uplink fun upf hupf => (hmem upf).mp hupf, hfilter, List.reverse_reverse] at hall
  · intro h order hnodup horder
    rw [startNodes_eq_filter order uplink fun upf hupf => (horder upf).mp hupf]
    refine h _ (List.nodup_reverse.mpr (hnodup.filter _)) fun upf => ?_
    rw [List.mem_reverse, List.mem_filter, decide_eq_true_eq, horder]
    exact and_iff_right_of_imp fun hupf => (Finset.mem_filter.mp hupf).1

end Traversal

/-! ## Two anchors -/

/-- An association of which each interface has the DNAI of its network instance. -/
def dnaiUpf (nodeId : ℕ) (host : String) (interfaces : List InterfaceUpfInfoItem) : PfcpAssociation :=
  ⟨nodeId, host, interfaces, [⟨⟨1, ""⟩, [⟨"internet", interfaces.map (·.networkInstance),
    interfaces.map fun i => (i.networkInstance, i.networkInstance)⟩]⟩]⟩

/-- An edge of a session graph. -/
def sessionEdge (source : PfcpAssociation) (type : UPInterfaceType) (dnai : String)
    (destinationUpf : Option PfcpAssociation) (uplink : Bool) (associatedEdge : ℕ) : SubEdge :=
  ⟨⟨type, dnai, [⟨dnai, ⟨1, ""⟩, "internet"⟩], destinationUpf⟩, source, uplink, dnai, some associatedEdge⟩

/-- A UPF with an access edge and links to two anchors. -/
def branchingUpf : PfcpAssociation :=
  dnaiUpf 1 "b" [⟨.n3, "", [], "access"⟩, ⟨.n9, "west", [], "west"⟩, ⟨.n9, "east", [], "east"⟩]

/-- The first anchor. -/
def westUpf : PfcpAssociation := dnaiUpf 2 "west" [⟨.n9, "b", [], "west"⟩, ⟨.n6, "", [], "westExit"⟩]

/-- The second anchor. -/
def eastUpf : PfcpAssociation := dnaiUpf 3 "east" [⟨.n9, "b", [], "east"⟩, ⟨.n6, "", [], "eastExit"⟩]

/-- The three UPFs in the order of their associations. -/
def branchingGraph : UpfGraph :=
  ((UpfGraph.empty.insertIntoGraph [branchingUpf] branchingUpf).insertIntoGraph [branchingUpf, westUpf]
    westUpf).insertIntoGraph [branchingUpf, westUpf, eastUpf] eastUpf

/-- One rule for each anchor. -/
def branchingRules : List PccRule :=
  [⟨true, {"access", "west", "westExit"}, true, 1⟩, ⟨true, {"access", "east", "eastExit"}, true, 2⟩]

/-- The graph that is selected for the rules. -/
def branchingSession : SubGraph where
  edges := [sessionEdge branchingUpf .n3 "access" none false 1,
    sessionEdge branchingUpf .n9 "west" (some westUpf) true 0,
    sessionEdge westUpf .n6 "westExit" none true 3,
    sessionEdge westUpf .n9 "west" (some branchingUpf) false 2,
    sessionEdge branchingUpf .n3 "access" none false 5,
    sessionEdge branchingUpf .n9 "east" (some eastUpf) true 4,
    sessionEdge eastUpf .n6 "eastExit" none true 7,
    sessionEdge eastUpf .n9 "east" (some branchingUpf) false 6]
  accessEdgeCount := 2
  exitEdgeCount := 2
  totalEdgeCount := 8
  associatedEdgeCount := 8
  servedDnais := {"eastExit", "east", "westExit", "west", "access"}

theorem selectUpfNodesPolicy_branching :
    selectUpfNodesPolicy branchingGraph 4 [branchingUpf, westUpf, eastUpf] anyCriteria branchingRules =
      some (some branchingSession) := by
  decide

theorem destinationUpf_branching : ∀ e ∈ branchingSession.edges, ∀ v, e.destinationUpf = some v →
    (e.source = branchingUpf ∧ (v = westUpf ∨ v = eastUpf)) ∨
    ((e.source = westUpf ∨ e.source = eastUpf) ∧ v = branchingUpf) := by
  have h : ∀ e ∈ branchingSession.edges, e.destinationUpf = none ∨
      (e.source = branchingUpf ∧ (e.destinationUpf = some westUpf ∨ e.destinationUpf = some eastUpf)) ∨
      ((e.source = westUpf ∨ e.source = eastUpf) ∧ e.destinationUpf = some branchingUpf) := by
    decide
  intro e he v hv
  rcases h e he with hnone | ⟨hs, hd⟩ | ⟨hs, hd⟩
  · rw [hv] at hnone
    cases hnone
  · rw [hv] at hd
    exact .inl ⟨hs, hd.imp Option.some.inj Option.some.inj⟩
  · exact .inr ⟨hs, Option.some.inj (hv.symm.trans hd)⟩

theorem linked_branching {u v : PfcpAssociation} (h : Linked branchingSession u v) :
    (u = branchingUpf ∧ (v = westUpf ∨ v = eastUpf)) ∨ ((u = westUpf ∨ u = eastUpf) ∧ v = branchingUpf) := by
  obtain ⟨e, he, rfl, hdest⟩ := h.exists_edge
  exact destinationUpf_branching e he v hdest

theorem isTree_branching : IsTree branchingSession := by
  refine isTree_of_root branchingUpf fun u v h => ?_
  rcases linked_branching h with ⟨rfl, rfl | rfl⟩ | ⟨rfl | rfl, rfl⟩ <;> decide

theorem nodes_branching : branchingSession.nodes = {branchingUpf, westUpf, eastUpf} := by decide

theorem count_branching (uplink : Bool) {u v : PfcpAssociation} (hu : u ∈ branchingSession.nodes) :
    ((postponing branchingSession uplink).behind u).count v ≤ 1 := by
  have hnodup : ∀ u ∈ branchingSession.nodes, ((postponing branchingSession uplink).behind u).Nodup := by
    cases uplink <;> decide
  exact List.nodup_iff_count_le_one.mp (hnodup u hu) v

theorem mem_of_reached_branching {uplink : Bool} {u : PfcpAssociation}
    (h : (postponing branchingSession uplink).Reached (starts branchingSession uplink) u) :
    u = branchingUpf ∨ u = westUpf ∨ u = eastUpf := by
  obtain ⟨start, hstart, hpath⟩ := h
  cases hpath with
  | refl =>
    have hmem := (Finset.mem_filter.mp hstart).1
    rw [nodes_branching] at hmem
    simpa using hmem
  | tail _ hl =>
    rcases linked_branching (mem_behind.mp hl) with ⟨-, hv⟩ | ⟨-, hv⟩
    · exact .inr hv
    · exact .inl hv

theorem orderly_branching_uplink :
    (postponing branchingSession true).Orderly (starts branchingSession true) := by
  have hwest : ∀ {among}, westUpf ∈ among →
      (postponing branchingSession true).Supplied (starts branchingSession true) among westUpf := fun hmem =>
    .start hmem (by decide) fun b hb => by cases hb
  have heast : ∀ {among}, eastUpf ∈ among →
      (postponing branchingSession true).Supplied (starts branchingSession true) among eastUpf := fun hmem =>
    .start hmem (by decide) fun b hb => by cases hb
  have hwaits : ∀ {u v}, v ∈ (postponing branchingSession true).waitsFor u →
      u = branchingUpf ∧ (v = westUpf ∨ v = eastUpf) := by
    intro u v h
    obtain ⟨-, e, he, -, hup, hdest⟩ := mem_waitsFor.mp h
    rcases linked_branching ⟨e, he, hdest⟩ with hlinked | ⟨hu, -⟩
    · exact hlinked
    · have hdown : ∀ e ∈ branchingSession.edges, e.source = westUpf ∨ e.source = eastUpf →
          e.destinationUpf = none ∨ e.uplink = false := by decide
      obtain ⟨he, hsource⟩ := List.mem_filter.mp he
      rcases hdown e he (of_decide_eq_true hsource ▸ hu) with h | h
      · rw [hdest] at h
        cases h
      · rw [hup] at h
        cases h
  have hboth : ∀ v, v = westUpf ∨ v = eastUpf → v ∈ (postponing branchingSession true).waitsFor branchingUpf := by
    rintro v (rfl | rfl) <;> decide
  refine ⟨fun a ha => ?_, fun a _ b hb => ?_, fun a ha b hb hab => ?_, fun a b hb hcount => ?_⟩
  · rcases mem_of_reached_branching ha with rfl | rfl | rfl
    · refine .behind (by decide) (hwest (by decide)) (by decide) fun c hc => ?_
      rcases (hwaits hc).2 with rfl | rfl
      · exact hwest (by decide)
      · exact heast (by decide)
    · exact hwest (by decide)
    · exact heast (by decide)
  · obtain ⟨rfl, rfl | rfl⟩ := hwaits hb <;> decide
  · -- the branching UPF waits for both anchors
    have hstart : ∀ u ∈ starts branchingSession true, u = westUpf ∨ u = eastUpf := by decide
    rcases linked_branching (mem_behind.mp hab) with ⟨rfl, -⟩ | ⟨-, rfl⟩
    · exact absurd rfl (Finset.mem_erase.mp (hb.waits a (hboth a (hstart a ha))).mem).1
    · exact absurd (hstart _ ha) (by decide)
  · exact absurd (count_branching true (Finset.mem_erase.mp hb.mem).2) (Nat.not_le.mpr hcount)

theorem orderly_branching_downlink :
    (postponing branchingSession false).Orderly (starts branchingSession false) := by
  have hbranching : ∀ u ∈ starts branchingSession false, u = branchingUpf := by decide
  have hroot : (postponing branchingSession false).Supplied (starts branchingSession false)
      (postponing branchingSession false).nodes branchingUpf :=
    .start (by decide) (by decide) fun b hb => by cases hb
  refine ⟨fun a ha => ?_, fun a _ b hb => (by cases hb), fun a ha b hb hab => ?_, fun a b hb hcount => ?_⟩
  · rcases mem_of_reached_branching ha with rfl | rfl | rfl
    · exact hroot
    · exact .behind (by decide) hroot (by decide) fun b hb => by cases hb
    · exact .behind (by decide) hroot (by decide) fun b hb => by cases hb
  · -- only the branching UPF leads to the anchors
    obtain rfl := hbranching a ha
    have hanchor : b = westUpf ∨ b = eastUpf := by
      rcases linked_branching (mem_behind.mp hab) with ⟨-, h⟩ | ⟨h, -⟩
      · exact absurd h (by decide)
      · exact h
    cases hb with
    | start _ hst _ =>
      rw [hbranching b hst] at hanchor
      exact absurd hanchor (by decide)
    | behind _ hpred hbc _ =>
      rcases linked_branching (mem_behind.mp hbc) with ⟨hc, -⟩ | ⟨-, h⟩
      · exact absurd hc (Finset.mem_erase.mp hpred.mem).1
      · rw [h] at hanchor
        exact absurd hanchor (by decide)
  · exact absurd (count_branching false (Finset.mem_erase.mp hb.mem).2) (Nat.not_le.mpr hcount)

/-- **Two anchors behind one UPF**: each UPF is visited once in both directions, whatever the order. -/
theorem visitsOnce_iff_branching :
    selectUpfNodesPolicy branchingGraph 4 [branchingUpf, westUpf, eastUpf] anyCriteria branchingRules =
      some (some branchingSession) ∧
    (∀ order : List PfcpAssociation, order.Nodup → (∀ upf, upf ∈ order ↔ upf ∈ branchingSession.nodes) →
      VisitsOnce branchingSession order true) ∧
    (∀ order : List PfcpAssociation, order.Nodup → (∀ upf, upf ∈ order ↔ upf ∈ branchingSession.nodes) →
      VisitsOnce branchingSession order false) :=
  ⟨selectUpfNodesPolicy_branching,
    (visitsOnce_iff branchingSession isTree_branching true).mpr orderly_branching_uplink,
    (visitsOnce_iff branchingSession isTree_branching false).mpr orderly_branching_downlink⟩

/-! ## An uplink classifier -/

/-- The classifier has an N6 interface of its own. -/
def classifierUpf : PfcpAssociation :=
  dnaiUpf 1 "cl" [⟨.n3, "", [], "access"⟩, ⟨.n6, "", [], "local"⟩, ⟨.n9, "psa", [], "core"⟩]

/-- The UPF behind the classifier. -/
def psaUpf : PfcpAssociation := dnaiUpf 2 "psa" [⟨.n9, "cl", [], "core"⟩, ⟨.n6, "", [], "central"⟩]

/-- Both UPFs in the order of their associations. -/
def classifierGraph : UpfGraph :=
  (UpfGraph.empty.insertIntoGraph [classifierUpf] classifierUpf).insertIntoGraph [classifierUpf, psaUpf] psaUpf

/-- One rule for the local exit and one for the exit behind the other UPF. -/
def classifierRules : List PccRule :=
  [⟨true, {"access", "local"}, true, 1⟩, ⟨true, {"access", "core", "central"}, true, 2⟩]

/-- The graph that is selected for the rules. -/
def classifierSession : SubGraph where
  edges := [sessionEdge classifierUpf .n3 "access" none false 1,
    sessionEdge classifierUpf .n6 "local" none true 0,
    sessionEdge classifierUpf .n3 "access" none false 3,
    sessionEdge classifierUpf .n9 "core" (some psaUpf) true 2,
    sessionEdge psaUpf .n6 "central" none true 5,
    sessionEdge psaUpf .n9 "core" (some classifierUpf) false 4]
  accessEdgeCount := 2
  exitEdgeCount := 2
  totalEdgeCount := 6
  associatedEdgeCount := 6
  servedDnais := {"central", "core", "local", "access"}

theorem selectUpfNodesPolicy_classifier :
    selectUpfNodesPolicy classifierGraph 2 [classifierUpf, psaUpf] anyCriteria classifierRules =
      some (some classifierSession) := by
  decide

theorem isTree_classifier : IsTree classifierSession := by
  have hedges : ∀ e ∈ classifierSession.edges, e.destinationUpf = none ∨
      (e.source = classifierUpf ∧ e.destinationUpf = some psaUpf) ∨
      (e.source = psaUpf ∧ e.destinationUpf = some classifierUpf) := by decide
  refine isTree_of_root classifierUpf fun u v h => ?_
  obtain ⟨e, he, rfl, hdest⟩ := h.exists_edge
  rcases hedges e he with hnone | ⟨hs, hd⟩ | ⟨hs, hd⟩
  · rw [hdest] at hnone
    cases hnone
  · rw [hs, Option.some.inj (hdest.symm.trans hd)]
    decide
  · rw [hs, Option.some.inj (hdest.symm.trans hd)]
    decide

/-- **A UPF is visited twice**: the classifier is pushed by the UPF behind it, above its own start. -/
theorem not_visitsOnce_classifier :
    selectUpfNodesPolicy classifierGraph 2 [classifierUpf, psaUpf] anyCriteria classifierRules =
      some (some classifierSession) ∧ IsTree classifierSession ∧
    [classifierUpf, psaUpf].toFinset = classifierSession.nodes ∧
    ((traverse classifierSession)^[3] (startTraversal classifierSession [classifierUpf, psaUpf] true)).returned =
      [psaUpf, classifierUpf, classifierUpf] ∧
    ¬ VisitsOnce classifierSession [classifierUpf, psaUpf] true := by
  have hreturned : ((traverse classifierSession)^[3]
      (startTraversal classifierSession [classifierUpf, psaUpf] true)).returned =
        [psaUpf, classifierUpf, classifierUpf] := by decide
  refine ⟨selectUpfNodesPolicy_classifier, isTree_classifier, by decide, hreturned, fun h => ?_⟩
  have hnodup := h.nodup 3
  rw [hreturned] at hnodup
  exact absurd hnodup (by decide)

end Oai5g.Smf
