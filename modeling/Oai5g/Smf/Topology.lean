import Oai5g.Smf.Session

/-!
# The graph of UPF associations

* `createEdges`, `insertIntoGraph`: the edges of a new association, and those to the nodes that are there.
* `Inserts`: associations inserted one after the other, the nodes seen in any order of the hash map.
* `expectedEdges`: the edges of a node, from the set of associations alone; `Inserts.graphOf`.
* **`topologyIndependent_iff`**: an association that is first is lost if it has no N3 or N6 edge.
-/

namespace Oai5g.Smf

/-! ## Associations -/

/-- An interface of a UPF. -/
structure InterfaceUpfInfoItem where
  interfaceType : UPInterfaceType
  endpointFqdn : String
  ipv4EndpointAddresses : List String
  networkInstance : String
  deriving DecidableEq

/-- `Snssai` -/
structure Snssai where
  sst : ℕ
  sd : String
  deriving DecidableEq

/-- A DNN of a slice, with its DNAIs and the network instances of these. -/
structure DnnUpfInfoItem where
  dnn : String
  dnaiList : List String
  dnaiNwInstanceList : List (String × String)
  deriving DecidableEq

/-- A slice of a UPF. -/
structure SnssaiUpfInfoItem where
  sNssai : Snssai
  dnnUpfInfoList : List DnnUpfInfoItem
  deriving DecidableEq

/-- `pfcp_association`, with the lists of its `UpfInfo`; an interface list that is not set is empty. -/
structure PfcpAssociation where
  nodeId : ℕ
  host : String
  interfaceUpfInfoList : List InterfaceUpfInfoItem
  sNssaiUpfInfoList : List SnssaiUpfInfoItem
  deriving DecidableEq

/-- `dnai_dnn_slice` -/
structure DnaiDnnSlice where
  dnai : String
  snssai : Snssai
  dnn : String
  deriving DecidableEq

/-- `qos_upf_edge` in the graph of all associations. -/
structure UpfGraphEdge where
  type : UPInterfaceType
  nwInstance : String
  dnaiDnnSlices : List DnaiDnnSlice
  destinationUpf : Option PfcpAssociation
  deriving DecidableEq

/-- `associate_dnai` -/
def associateDnai (upf : PfcpAssociation) (nwInstance : String) : List DnaiDnnSlice :=
  upf.sNssaiUpfInfoList.flatMap fun snssai => snssai.dnnUpfInfoList.flatMap fun dnn =>
    dnn.dnaiList.filterMap fun dnai =>
      if dnn.dnaiNwInstanceList.lookup dnai = some nwInstance then some ⟨dnai, snssai.sNssai, dnn.dnn⟩
      else none

/-- `find_upf_edge_from_interface` -/
def findUpfEdgeFromInterface (iface : InterfaceUpfInfoItem) (otherUpf : PfcpAssociation) : Bool :=
  !otherUpf.interfaceUpfInfoList.isEmpty &&
    (iface.endpointFqdn == otherUpf.host || iface.ipv4EndpointAddresses.any (· == otherUpf.host))

/-- `create_edges` -/
def createEdges (type : UPInterfaceType) (thisUpf : PfcpAssociation) (otherUpf : Option PfcpAssociation) :
    List UpfGraphEdge :=
  if thisUpf.interfaceUpfInfoList.isEmpty then
    -- the edge is guessed, but for N9
    if type = .n9 then [] else [⟨type, "", [], otherUpf⟩]
  else thisUpf.interfaceUpfInfoList.filterMap fun iface =>
    if type ≠ iface.interfaceType then none
    else
      let edge : UpfGraphEdge :=
        ⟨type, iface.networkInstance, associateDnai thisUpf iface.networkInstance, otherUpf⟩
      if type = .n9 then
        if otherUpf.any (findUpfEdgeFromInterface iface) then some edge else none
      else some edge

/-- `create_n3_edges` -/
def createN3Edges (upf : PfcpAssociation) : List UpfGraphEdge := createEdges .n3 upf none

/-- `create_n6_edges` -/
def createN6Edges (upf : PfcpAssociation) : List UpfGraphEdge := createEdges .n6 upf none

/-- `create_n9_edges` -/
def createN9Edges (upf otherUpf : PfcpAssociation) : List UpfGraphEdge := createEdges .n9 upf (some otherUpf)

/-! ## Graphs -/

/-- `adjacency_list`: its keys and their edges. -/
structure UpfGraph where
  nodes : Finset PfcpAssociation
  edges : PfcpAssociation → List UpfGraphEdge

namespace UpfGraph

/-- No association. -/
def empty : UpfGraph := ⟨∅, fun _ => []⟩

variable (g : UpfGraph)

/-- `add_upf_graph_edge`, of a new edge. -/
def addUpfGraphEdge (source : PfcpAssociation) (edge : UpfGraphEdge) : UpfGraph where
  nodes := insert source g.nodes
  edges := Function.update g.edges source (g.edges source ++ [edge])

/-- The N3 and N6 edges of the association. -/
def addAccessEdges (a : PfcpAssociation) : UpfGraph :=
  (createN3Edges a ++ createN6Edges a).foldl (fun g e => g.addUpfGraphEdge a e) g

/-- The N9 edges to one node that is there, each with its opposite edge, if they are equally many. -/
def n9Pairs (a other : PfcpAssociation) : List (PfcpAssociation × UpfGraphEdge × UpfGraphEdge) :=
  if (createN9Edges a other).length ≠ (createN9Edges other a).length then []
  else ((createN9Edges a other).zip (createN9Edges other a)).map fun e => (other, e)

/-- `insert_into_graph`. The nodes are seen in the order of the hash map, after the N3 and N6 edges are
there. -/
def insertIntoGraph (order : List PfcpAssociation) (a : PfcpAssociation) : UpfGraph :=
  ((order.filter (· ≠ a)).flatMap (n9Pairs a)).foldl
    (fun g x => (g.addUpfGraphEdge a x.2.1).addUpfGraphEdge x.1 x.2.2) (g.addAccessEdges a)

end UpfGraph

/-- The associations are inserted into the graph, with any order of the hash map for each. -/
inductive Inserts : UpfGraph → List PfcpAssociation → UpfGraph → Prop
  | nil (g : UpfGraph) : Inserts g [] g
  | cons (g h : UpfGraph) (a : PfcpAssociation) (as : List PfcpAssociation) (order : List PfcpAssociation) :
      order.Nodup → order.toFinset = (g.addAccessEdges a).nodes →
      Inserts (g.insertIntoGraph order a) as h → Inserts g (a :: as) h

/-- The number of N9 edges from one node to another. -/
def n9Count (g : UpfGraph) (a b : PfcpAssociation) : ℕ :=
  (g.edges a).countP fun e => e.type = .n9 ∧ e.destinationUpf = some b

/-- **The topology does not depend on the order of insertion**: the nodes and their edges are the same, every
association is a node, and there are as many N9 edges back as forth. -/
structure TopologyIndependent (s : List PfcpAssociation) : Prop where
  nodes : ∀ p q g h, p.Perm s → q.Perm s → Inserts .empty p g → Inserts .empty q h → g.nodes = h.nodes
  edges : ∀ p q g h, p.Perm s → q.Perm s → Inserts .empty p g → Inserts .empty q h →
    ∀ a, (g.edges a).Perm (h.edges a)
  inserted : ∀ p g, p.Perm s → Inserts .empty p g → ∀ a ∈ s, a ∈ g.nodes
  symmetric : ∀ p g, p.Perm s → Inserts .empty p g → ∀ a b, n9Count g a b = n9Count g b a

/-- **The condition**: no interface list, or an N3 or N6 interface. -/
def HasN3OrN6 (a : PfcpAssociation) : Prop :=
  a.interfaceUpfInfoList = [] ∨
    ∃ iface ∈ a.interfaceUpfInfoList, iface.interfaceType = .n3 ∨ iface.interfaceType = .n6

/-! ## Edges -/

variable {a b : PfcpAssociation} {g g' : UpfGraph}

theorem createEdges_type {type : UPInterfaceType} {other : Option PfcpAssociation} {e : UpfGraphEdge}
    (he : e ∈ createEdges type a other) : e.type = type ∧ e.destinationUpf = other := by
  unfold createEdges at he
  split at he
  · split at he
    · cases he
    · rw [List.mem_singleton] at he
      rw [he]
      exact ⟨rfl, rfl⟩
  · obtain ⟨iface, -, hsome⟩ := List.mem_filterMap.mp he
    split at hsome
    · cases hsome
    · dsimp only at hsome
      split at hsome
      · split at hsome
        · cases hsome
          exact ⟨rfl, rfl⟩
        · cases hsome
      · cases hsome
        exact ⟨rfl, rfl⟩

/-- An edge but N9 is there when the interface list is empty, or has the type. -/
theorem createEdges_eq_nil_iff {type : UPInterfaceType} (htype : type ≠ .n9) :
    createEdges type a none = [] ↔
      a.interfaceUpfInfoList ≠ [] ∧ ∀ iface ∈ a.interfaceUpfInfoList, iface.interfaceType ≠ type := by
  unfold createEdges
  by_cases hnil : a.interfaceUpfInfoList = []
  · simp [hnil, htype]
  · have hfalse : a.interfaceUpfInfoList.isEmpty = false := by simpa using hnil
    rw [hfalse, if_neg Bool.false_ne_true, List.filterMap_eq_nil_iff]
    refine ⟨fun hnone => ⟨hnil, fun i hi heq => ?_⟩, fun hall i hi => if_pos fun heq => hall.2 i hi heq.symm⟩
    have hi := hnone i hi
    rw [if_neg (not_not.mpr heq.symm)] at hi
    dsimp only at hi
    rw [if_neg htype] at hi
    cases hi

/-- **The condition is that there is an N3 or N6 edge.** -/
theorem hasN3OrN6_iff : HasN3OrN6 a ↔ createN3Edges a ++ createN6Edges a ≠ [] := by
  unfold HasN3OrN6 createN3Edges createN6Edges
  rw [ne_eq, List.append_eq_nil_iff, createEdges_eq_nil_iff (by decide), createEdges_eq_nil_iff (by decide)]
  constructor
  · rintro (hnil | ⟨iface, hmem, htype⟩) ⟨h3, h6⟩
    · exact h3.1 hnil
    · rcases htype with htype | htype
      · exact h3.2 iface hmem htype
      · exact h6.2 iface hmem htype
  · intro hnot
    by_contra hno
    push Not at hno
    exact hnot ⟨⟨hno.1, fun i hi => (hno.2 i hi).1⟩, hno.1, fun i hi => (hno.2 i hi).2⟩

/-- The N9 edges from one association to another, if they are as many as back. -/
def n9Edges (a b : PfcpAssociation) : List UpfGraphEdge :=
  if (createN9Edges a b).length ≠ (createN9Edges b a).length then [] else createN9Edges a b

theorem length_n9Edges : (n9Edges a b).length = (n9Edges b a).length := by
  unfold n9Edges
  by_cases hlen : (createN9Edges a b).length = (createN9Edges b a).length
  · rw [if_neg (not_not.mpr hlen), if_neg (not_not.mpr hlen.symm), hlen]
  · rw [if_pos hlen, if_pos (Ne.symm hlen)]

/-- **The edges of an association**, from the set of all. -/
def expectedEdges (s : Finset PfcpAssociation) (a : PfcpAssociation) : Multiset UpfGraphEdge :=
  if a ∈ s then ↑(createN3Edges a ++ createN6Edges a) + ∑ b ∈ s.erase a, (n9Edges a b : Multiset UpfGraphEdge)
  else 0

/-- The graph of a set of associations. -/
structure GraphOf (s : Finset PfcpAssociation) (g : UpfGraph) : Prop where
  nodes : g.nodes = s
  edges : ∀ a, (g.edges a : Multiset UpfGraphEdge) = expectedEdges s a

/-! ## One insertion -/

theorem foldl_addUpfGraphEdge (a : PfcpAssociation) (es : List UpfGraphEdge) (g : UpfGraph) :
    (es ≠ [] → (es.foldl (fun g e => g.addUpfGraphEdge a e) g).nodes = insert a g.nodes) ∧
    (es = [] → (es.foldl (fun g e => g.addUpfGraphEdge a e) g).nodes = g.nodes) ∧
    ∀ b, (es.foldl (fun g e => g.addUpfGraphEdge a e) g).edges b =
      g.edges b ++ if b = a then es else [] := by
  induction es generalizing g with
  | nil => exact ⟨fun h => absurd rfl h, fun _ => rfl, fun b => by simp⟩
  | cons e es ih =>
    obtain ⟨hne, hnil, hedges⟩ := ih (g.addUpfGraphEdge a e)
    refine ⟨fun _ => ?_, fun h => (List.cons_ne_nil _ _ h).elim, fun b => ?_⟩
    · rw [List.foldl_cons]
      by_cases hes : es = []
      · rw [hnil hes]
        rfl
      · rw [hne hes]
        exact Finset.insert_idem a g.nodes
    · rw [List.foldl_cons, hedges]
      by_cases hb : b = a
      · subst hb
        simp [UpfGraph.addUpfGraphEdge]
      · simp [UpfGraph.addUpfGraphEdge, hb]

theorem foldl_n9Pairs (a : PfcpAssociation) (xs : List (PfcpAssociation × UpfGraphEdge × UpfGraphEdge))
    (g : UpfGraph) (ha : a ∈ g.nodes) (hxs : ∀ x ∈ xs, x.1 ∈ g.nodes ∧ x.1 ≠ a) :
    (xs.foldl (fun g x => (g.addUpfGraphEdge a x.2.1).addUpfGraphEdge x.1 x.2.2) g).nodes = g.nodes ∧
    ∀ b, ((xs.foldl (fun g x => (g.addUpfGraphEdge a x.2.1).addUpfGraphEdge x.1 x.2.2) g).edges b) =
      g.edges b ++ if b = a then xs.map (·.2.1) else (xs.filter (·.1 = b)).map (·.2.2) := by
  induction xs generalizing g with
  | nil => exact ⟨rfl, fun b => by simp⟩
  | cons x xs ih =>
    obtain ⟨hx, hxa⟩ := hxs x List.mem_cons_self
    have hnodes : ((g.addUpfGraphEdge a x.2.1).addUpfGraphEdge x.1 x.2.2).nodes = g.nodes := by
      show insert x.1 (insert a g.nodes) = g.nodes
      rw [Finset.insert_eq_of_mem ha, Finset.insert_eq_of_mem hx]
    obtain ⟨hn, he⟩ := ih ((g.addUpfGraphEdge a x.2.1).addUpfGraphEdge x.1 x.2.2) (by rwa [hnodes])
      fun y hy => by
        rw [hnodes]
        exact hxs y (List.mem_cons_of_mem _ hy)
    refine ⟨by rw [List.foldl_cons, hn, hnodes], fun b => ?_⟩
    rw [List.foldl_cons, he]
    by_cases hb : b = a
    · subst hb
      simp [UpfGraph.addUpfGraphEdge, hxa.symm]
    · by_cases hbx : b = x.1
      · subst hbx
        simp [UpfGraph.addUpfGraphEdge, hb]
      · have hbx' : x.1 ≠ b := fun heq => hbx heq.symm
        simp [UpfGraph.addUpfGraphEdge, hb, hbx, hbx']

theorem map_fst_n9Pairs (a b : PfcpAssociation) : (UpfGraph.n9Pairs a b).map (·.2.1) = n9Edges a b := by
  unfold UpfGraph.n9Pairs n9Edges
  by_cases hlen : (createN9Edges a b).length = (createN9Edges b a).length
  · rw [if_neg (not_not.mpr hlen), if_neg (not_not.mpr hlen), List.map_map]
    exact List.map_fst_zip hlen.le
  · rw [if_pos hlen, if_pos hlen]
    rfl

theorem map_snd_n9Pairs (a b : PfcpAssociation) : (UpfGraph.n9Pairs a b).map (·.2.2) = n9Edges b a := by
  unfold UpfGraph.n9Pairs n9Edges
  by_cases hlen : (createN9Edges a b).length = (createN9Edges b a).length
  · rw [if_neg (not_not.mpr hlen), if_neg (not_not.mpr hlen.symm), List.map_map]
    exact List.map_snd_zip hlen.ge
  · rw [if_pos hlen, if_pos (Ne.symm hlen)]
    rfl

theorem fst_of_mem_n9Pairs {x : PfcpAssociation × UpfGraphEdge × UpfGraphEdge}
    (hx : x ∈ UpfGraph.n9Pairs a b) : x.1 = b := by
  unfold UpfGraph.n9Pairs at hx
  split at hx
  · cases hx
  · obtain ⟨y, -, rfl⟩ := List.mem_map.mp hx
    rfl

theorem filter_flatMap_n9Pairs (a b : PfcpAssociation) {order : List PfcpAssociation} (hnodup : order.Nodup) :
    ((order.flatMap (UpfGraph.n9Pairs a)).filter (·.1 = b)) =
      if b ∈ order then UpfGraph.n9Pairs a b else [] := by
  have hone : ∀ c, (UpfGraph.n9Pairs a c).filter (·.1 = b) = if c = b then UpfGraph.n9Pairs a c else [] := by
    intro c
    split
    · rename_i hc
      exact List.filter_eq_self.mpr fun x hx => decide_eq_true ((fst_of_mem_n9Pairs hx).trans hc)
    · rename_i hc
      exact List.filter_eq_nil_iff.mpr fun x hx => by
        simpa using fun heq => hc ((fst_of_mem_n9Pairs hx).symm.trans heq)
  induction order with
  | nil => rfl
  | cons c order ih =>
    obtain ⟨hc, hnodup⟩ := List.nodup_cons.mp hnodup
    rw [List.flatMap_cons, List.filter_append, hone, ih hnodup]
    by_cases hcb : c = b
    · subst hcb
      simp [hc]
    · simp [hcb, Ne.symm hcb]

/-- **Inserting one association** with an N3 or N6 edge into the graph of the others. -/
theorem GraphOf.step {s : Finset PfcpAssociation} (hg : GraphOf s g) (ha : a ∉ s) (hn : HasN3OrN6 a)
    {order : List PfcpAssociation} (hnodup : order.Nodup)
    (horder : order.toFinset = (g.addAccessEdges a).nodes) :
    GraphOf (insert a s) (g.insertIntoGraph order a) := by
  obtain ⟨haccess, -, hedges⟩ := foldl_addUpfGraphEdge a (createN3Edges a ++ createN6Edges a) g
  have hnodes : (g.addAccessEdges a).nodes = insert a s := by
    rw [← hg.nodes]
    exact haccess (hasN3OrN6_iff.mp hn)
  have hmem : ∀ b, b ∈ order.filter (· ≠ a) ↔ b ∈ s := by
    intro b
    have hb : b ∈ order ↔ b = a ∨ b ∈ s := by
      rw [← List.mem_toFinset, horder, hnodes, Finset.mem_insert]
    rw [List.mem_filter, hb, decide_eq_true_eq]
    constructor
    · rintro ⟨rfl | hbs, hne⟩
      · exact absurd rfl hne
      · exact hbs
    · exact fun hbs => ⟨.inr hbs, fun heq => ha (heq ▸ hbs)⟩
  have hval : ((order.filter (· ≠ a) : List PfcpAssociation) : Multiset PfcpAssociation) = s.val :=
    (Multiset.Nodup.ext (Multiset.coe_nodup.mpr (hnodup.filter _)) s.nodup).mpr hmem
  have hpairs : ∀ x ∈ (order.filter (· ≠ a)).flatMap (UpfGraph.n9Pairs a),
      x.1 ∈ (g.addAccessEdges a).nodes ∧ x.1 ≠ a := by
    intro x hx
    obtain ⟨b, hb, hx⟩ := List.mem_flatMap.mp hx
    have hbs := (hmem b).mp hb
    rw [fst_of_mem_n9Pairs hx, hnodes]
    exact ⟨Finset.mem_insert_of_mem hbs, fun heq => ha (heq ▸ hbs)⟩
  obtain ⟨hnodes', hedges'⟩ := foldl_n9Pairs a _ (g.addAccessEdges a)
    (by rw [hnodes]; exact Finset.mem_insert_self a s) hpairs
  refine ⟨hnodes'.trans hnodes, fun b => ?_⟩
  have hold : ((g.addAccessEdges a).edges b : Multiset UpfGraphEdge) =
      expectedEdges s b + if b = a then ↑(createN3Edges a ++ createN6Edges a) else 0 := by
    rw [← hg.edges b]
    show (((createN3Edges a ++ createN6Edges a).foldl (fun g e => g.addUpfGraphEdge a e) g).edges b :
      Multiset UpfGraphEdge) = _
    rw [hedges b, ← Multiset.coe_add]
    split <;> rfl
  unfold UpfGraph.insertIntoGraph
  rw [hedges' b, ← Multiset.coe_add, hold]
  by_cases hb : b = a
  · subst hb
    rw [if_pos rfl, if_pos rfl]
    unfold expectedEdges
    rw [if_neg ha, if_pos (Finset.mem_insert_self b s), Finset.erase_insert ha, zero_add]
    congr 1
    rw [List.map_flatMap, ← Multiset.coe_bind, hval]
    simp only [map_fst_n9Pairs]
    rfl
  · rw [if_neg hb, if_neg hb, filter_flatMap_n9Pairs a b (hnodup.filter _), add_zero]
    unfold expectedEdges
    by_cases hbs : b ∈ s
    · have hnot : a ∉ s.erase b := fun h => ha (Finset.mem_of_mem_erase h)
      rw [if_pos ((hmem b).mpr hbs), map_snd_n9Pairs, if_pos hbs, if_pos (Finset.mem_insert_of_mem hbs),
        Finset.erase_insert_of_ne (Ne.symm hb), Finset.sum_insert hnot]
      rw [add_assoc, add_comm (∑ c ∈ s.erase b, _)]
    · rw [if_neg (fun h => hbs ((hmem b).mp h)), if_neg hbs,
        if_neg (fun h => (Finset.mem_insert.mp h).elim hb hbs)]
      rfl

/-! ## Runs -/

theorem graphOf_empty : GraphOf ∅ .empty := ⟨rfl, fun _ => rfl⟩

/-- **The graph after some associations** with N3 or N6 edges is the one of their set. -/
theorem Inserts.graphOf {as : List PfcpAssociation} (h : Inserts g as g') {s : Finset PfcpAssociation}
    (hg : GraphOf s g) (hnodup : as.Nodup) (hnew : ∀ a ∈ as, a ∉ s) (hn : ∀ a ∈ as, HasN3OrN6 a) :
    GraphOf (s ∪ as.toFinset) g' := by
  induction h generalizing s with
  | nil g => rwa [List.toFinset_nil, Finset.union_empty]
  | cons g h a as order ho horder _ ih =>
    obtain ⟨hnot, htail⟩ := List.nodup_cons.mp hnodup
    have hstep := hg.step (hnew a List.mem_cons_self) (hn a List.mem_cons_self) ho horder
    have hrest := ih hstep htail (fun b hb hmem => ?_) fun b hb => hn b (List.mem_cons_of_mem _ hb)
    · rwa [List.toFinset_cons, Finset.union_insert, ← Finset.insert_union]
    · rcases Finset.mem_insert.mp hmem with rfl | hbs
      · exact hnot hb
      · exact hnew b (List.mem_cons_of_mem _ hb) hbs

/-- Only N9 edges lead to a UPF. -/
def OnlyN9Leads (g : UpfGraph) : Prop := ∀ upf, ∀ e ∈ g.edges upf, e.type ≠ .n9 → e.destinationUpf = none

theorem OnlyN9Leads.addUpfGraphEdge {g : UpfGraph} (hg : OnlyN9Leads g) (source : PfcpAssociation)
    {e : UpfGraphEdge} (he : e.type ≠ .n9 → e.destinationUpf = none) :
    OnlyN9Leads (g.addUpfGraphEdge source e) := by
  intro upf f hf
  unfold UpfGraph.addUpfGraphEdge at hf
  dsimp only at hf
  by_cases hupf : upf = source
  · subst hupf
    rw [Function.update_self] at hf
    rcases List.mem_append.mp hf with hf | hf
    · exact hg upf f hf
    · rw [List.mem_singleton.mp hf]
      exact he
  · rw [Function.update_of_ne hupf] at hf
    exact hg upf f hf

theorem OnlyN9Leads.insertIntoGraph {g : UpfGraph} (hg : OnlyN9Leads g) (order : List PfcpAssociation)
    (a : PfcpAssociation) : OnlyN9Leads (g.insertIntoGraph order a) := by
  have haccess : OnlyN9Leads (g.addAccessEdges a) := by
    unfold UpfGraph.addAccessEdges
    refine List.foldlRecOn _ _ hg fun g hg e he => hg.addUpfGraphEdge a fun _ => ?_
    rcases List.mem_append.mp he with he | he <;> exact (createEdges_type he).2
  unfold UpfGraph.insertIntoGraph
  refine List.foldlRecOn _ _ haccess fun g hg x hx => ?_
  obtain ⟨b, -, hx⟩ := List.mem_flatMap.mp hx
  unfold UpfGraph.n9Pairs at hx
  split at hx
  · cases hx
  · obtain ⟨⟨e, f⟩, hzip, rfl⟩ := List.mem_map.mp hx
    obtain ⟨he, hf⟩ := List.of_mem_zip hzip
    exact (hg.addUpfGraphEdge a fun hne => absurd (createEdges_type he).1 hne).addUpfGraphEdge b
      fun hne => absurd (createEdges_type hf).1 hne

/-- **In every association graph only N9 edges lead to a UPF.** -/
theorem Inserts.onlyN9Leads {g g' : UpfGraph} {as : List PfcpAssociation} (h : Inserts g as g')
    (hg : OnlyN9Leads g) : OnlyN9Leads g' := by
  induction h with
  | nil => exact hg
  | cons g h a as order _ _ _ ih => exact ih (hg.insertIntoGraph order a)

theorem onlyN9Leads_empty : OnlyN9Leads .empty := fun _ _ he => nomatch he

theorem exists_inserts (g : UpfGraph) (as : List PfcpAssociation) : ∃ h, Inserts g as h := by
  induction as generalizing g with
  | nil => exact ⟨g, .nil g⟩
  | cons a as ih =>
    obtain ⟨h, hh⟩ := ih (g.insertIntoGraph (g.addAccessEdges a).nodes.toList a)
    exact ⟨h, .cons g h a as _ (Finset.nodup_toList _) (Finset.toList_toFinset _) hh⟩

theorem mem_nodes_insertIntoGraph {c : PfcpAssociation} {order : List PfcpAssociation}
    (horder : order.toFinset = (g.addAccessEdges a).nodes) (hc : c ∈ (g.insertIntoGraph order a).nodes) :
    c = a ∨ c ∈ g.nodes := by
  have haccess : ∀ b ∈ (g.addAccessEdges a).nodes, b = a ∨ b ∈ g.nodes := by
    intro b hb
    obtain ⟨hne, hnil, -⟩ := foldl_addUpfGraphEdge a (createN3Edges a ++ createN6Edges a) g
    unfold UpfGraph.addAccessEdges at hb
    by_cases hes : createN3Edges a ++ createN6Edges a = []
    · rw [hnil hes] at hb
      exact .inr hb
    · rw [hne hes] at hb
      exact Finset.mem_insert.mp hb
  have hfold : ∀ (xs : List (PfcpAssociation × UpfGraphEdge × UpfGraphEdge)) (k : UpfGraph),
      (∀ x ∈ xs, x.1 = a ∨ x.1 ∈ g.nodes) → (∀ b ∈ k.nodes, b = a ∨ b ∈ g.nodes) →
      ∀ b ∈ (xs.foldl (fun g x => (g.addUpfGraphEdge a x.2.1).addUpfGraphEdge x.1 x.2.2) k).nodes,
        b = a ∨ b ∈ g.nodes := by
    intro xs
    induction xs with
    | nil => exact fun k _ hk => hk
    | cons x xs ih =>
      intro k hxs hk
      refine ih _ (fun y hy => hxs y (List.mem_cons_of_mem _ hy)) fun b hb => ?_
      rcases Finset.mem_insert.mp hb with rfl | hb
      · exact hxs x List.mem_cons_self
      · rcases Finset.mem_insert.mp hb with rfl | hb
        · exact .inl rfl
        · exact hk b hb
  refine hfold _ _ (fun x hx => ?_) haccess c hc
  obtain ⟨b, hb, hx⟩ := List.mem_flatMap.mp hx
  rw [fst_of_mem_n9Pairs hx]
  refine haccess b ?_
  rw [← horder]
  exact List.mem_toFinset.mpr (List.mem_of_mem_filter hb)

theorem Inserts.notMem_nodes {as : List PfcpAssociation} (h : Inserts g as g') (ha : a ∉ as)
    (hg : a ∉ g.nodes) : a ∉ g'.nodes := by
  induction h with
  | nil g => exact hg
  | cons g h b as order _ horder _ ih =>
    refine ih (fun hmem => ha (List.mem_cons_of_mem _ hmem)) fun hmem => ?_
    rcases mem_nodes_insertIntoGraph horder hmem with rfl | hmem
    · exact ha List.mem_cons_self
    · exact hg hmem

/-- **The first association is lost** if it has neither an N3 nor an N6 edge. -/
theorem Inserts.first_lost {as : List PfcpAssociation} (h : Inserts .empty (a :: as) g') (hn : ¬ HasN3OrN6 a)
    (ha : a ∉ as) : a ∉ g'.nodes := by
  cases h with
  | cons _ _ _ _ order ho horder hrest =>
    have hnone : createN3Edges a ++ createN6Edges a = [] := by
      by_contra hne
      exact hn (hasN3OrN6_iff.mpr hne)
    have hempty : UpfGraph.empty.addAccessEdges a = .empty := by
      unfold UpfGraph.addAccessEdges
      rw [hnone]
      rfl
    rw [hempty] at horder
    have hnil : order = [] := List.toFinset_eq_empty_iff order |>.mp horder
    refine hrest.notMem_nodes ha ?_
    unfold UpfGraph.insertIntoGraph
    rw [hempty, hnil]
    exact Finset.notMem_empty a

theorem GraphOf.n9Count {s : Finset PfcpAssociation} (hg : GraphOf s g) (a b : PfcpAssociation) :
    n9Count g a b = if a ∈ s ∧ b ∈ s.erase a then (n9Edges a b).length else 0 := by
  let p : UpfGraphEdge → Prop := fun e => e.type = .n9 ∧ e.destinationUpf = some b
  have hcount : Smf.n9Count g a b = Multiset.countP p (expectedEdges s a) := by
    rw [← hg.edges a]
    exact (Multiset.coe_countP _ _).symm
  have haccess : Multiset.countP p ↑(createN3Edges a ++ createN6Edges a) = 0 := by
    rw [Multiset.countP_eq_zero]
    rintro e he ⟨htype, -⟩
    rcases List.mem_append.mp (Multiset.mem_coe.mp he) with he | he
    · rw [(createEdges_type he).1] at htype
      cases htype
    · rw [(createEdges_type he).1] at htype
      cases htype
  have hn9 : ∀ c, Multiset.countP p (n9Edges a c : Multiset UpfGraphEdge) =
      if c = b then (n9Edges a b).length else 0 := by
    intro c
    have hmem : ∀ e ∈ n9Edges a c, e.type = .n9 ∧ e.destinationUpf = some c := by
      intro e he
      unfold n9Edges at he
      split at he
      · cases he
      · exact createEdges_type he
    split
    · rename_i hc
      subst hc
      rw [← Multiset.coe_card, Multiset.countP_eq_card]
      exact hmem
    · rename_i hc
      rw [Multiset.countP_eq_zero]
      rintro e he ⟨-, hdest⟩
      rw [(hmem e he).2] at hdest
      exact hc (Option.some.inj hdest)
  rw [hcount]
  unfold expectedEdges
  by_cases ha : a ∈ s
  · rw [if_pos ha, Multiset.countP_add, haccess, zero_add, ← Multiset.coe_countPAddMonoidHom, map_sum]
    simp only [Multiset.coe_countPAddMonoidHom, hn9, Finset.sum_ite_eq', ha, true_and]
  · rw [if_neg ha, if_neg fun h => ha h.1]
    rfl

/-- **The topology is independent of the order of insertion exactly when each association has no interface
list, or an N3 or N6 interface.** -/
theorem topologyIndependent_iff (s : List PfcpAssociation) (hs : (s.map (·.nodeId)).Nodup) :
    TopologyIndependent s ↔ ∀ a ∈ s, HasN3OrN6 a := by
  have hnodup : s.Nodup := hs.of_map _
  constructor
  · intro h a ha
    by_contra hn
    obtain ⟨g, hg⟩ := exists_inserts .empty (a :: s.erase a)
    have hin := h.inserted _ g (List.perm_cons_erase ha).symm hg a ha
    exact hg.first_lost hn hnodup.not_mem_erase hin
  · intro hn
    have hgraph : ∀ {p g}, p.Perm s → Inserts .empty p g → GraphOf s.toFinset g := by
      intro p g hp hg
      have := hg.graphOf graphOf_empty (hp.nodup_iff.mpr hnodup) (fun a _ => Finset.notMem_empty a)
        fun a ha => hn a (hp.mem_iff.mp ha)
      rwa [Finset.empty_union, List.toFinset_eq_of_perm _ _ hp] at this
    refine ⟨fun p q g h hp hq hg hh => ?_, fun p q g h hp hq hg hh a => ?_, fun p g hp hg a ha => ?_,
      fun p g hp hg a b => ?_⟩
    · rw [(hgraph hp hg).nodes, (hgraph hq hh).nodes]
    · exact Multiset.coe_eq_coe.mp (((hgraph hp hg).edges a).trans ((hgraph hq hh).edges a).symm)
    · rw [(hgraph hp hg).nodes]
      exact List.mem_toFinset.mpr ha
    · rw [(hgraph hp hg).n9Count, (hgraph hp hg).n9Count, length_n9Edges]
      simp only [Finset.mem_erase, List.mem_toFinset]
      exact if_congr (by tauto) rfl rfl

/-- An intermediate UPF has only N9 interfaces. -/
def intermediateUpf : PfcpAssociation := ⟨1, "upf-i", [⟨.n9, "upf-a", [], "core"⟩], []⟩

/-- The UPF behind it. -/
def anchorUpf : PfcpAssociation := ⟨2, "upf-a", [⟨.n6, "", [], "internet"⟩, ⟨.n9, "upf-i", [], "core"⟩], []⟩

/-- The first UPF with an N3 interface, too. -/
def accessUpf : PfcpAssociation :=
  ⟨1, "upf-i", [⟨.n3, "", [], "access"⟩, ⟨.n9, "upf-a", [], "core"⟩], []⟩

/-- **Two UPFs and the N9 link between them**: in both orders the graph is the same. -/
theorem topologyIndependent_link : (n9Edges accessUpf anchorUpf).length = 1 ∧
    TopologyIndependent [accessUpf, anchorUpf] := by
  refine ⟨by decide, (topologyIndependent_iff [accessUpf, anchorUpf] (by decide)).mpr fun a ha => ?_⟩
  rcases List.mem_pair.mp ha with rfl | rfl
  · exact .inr ⟨_, List.mem_cons_self, .inl rfl⟩
  · exact .inr ⟨_, List.mem_cons_self, .inr rfl⟩

theorem not_topologyIndependent_intermediate : ¬ TopologyIndependent [intermediateUpf, anchorUpf] := by
  intro h
  obtain ⟨g, hg⟩ := exists_inserts .empty [intermediateUpf, anchorUpf]
  refine hg.first_lost ?_ (by decide) (h.inserted _ g (List.Perm.refl _) hg _ List.mem_cons_self)
  rintro (hnil | ⟨iface, hmem, htype⟩)
  · cases hnil
  · rw [List.mem_singleton.mp hmem] at htype
    rcases htype with htype | htype <;> cases htype

end Oai5g.Smf
