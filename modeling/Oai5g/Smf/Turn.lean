import Oai5g.Smf.Traversal

/-!
# The turns of the search without DNAIs

* `keptEdges`: what a turn adds to the graph of the session.
* `Turn`, **`dfsStep_cases`**: all that a turn does, from the invariant of the loop over the edges of a node.
* `edges_stay`, `later_uplink`: what stays and what comes later.
-/

namespace Oai5g.Smf

section Turn

variable (g : UpfGraph) (criteria : UpfSelectionCriteria)

/-! ## What a turn keeps -/

/-- The edges that a turn adds. -/
def keptEdges (st : DfsState) : List SubEdge := (dfsStep g criteria st).sub.edges.drop st.sub.edges.length

/-- The edge of a UPF in the graph of a session. -/
def layEdge (visited : Finset PfcpAssociation) (node : PfcpAssociation) (e : UpfGraphEdge) : SubEdge :=
  ⟨e, node, e.nextHop visited, "", none⟩

/-- The invariant of the loop over the edges of a node: of those that serve the network, `done` are done, and `kept`
are kept. -/
structure KeptInv (visited : Finset PfcpAssociation) (node : PfcpAssociation) (sub : SubGraph)
    (done : List UpfGraphEdge) (l : EdgeLoop) (kept : List UpfGraphEdge) : Prop where
  edges : l.sub.edges = sub.edges ++ kept.map (layEdge visited node)
  connect : l.edgesToConnect = List.range' sub.edges.length kept.length
  pushes : l.pushes = ((kept.dropWhile (!·.leadsOut visited)).map (·.destinationUpf)).reverse
  hops : l.uplinkNextHopEdges = done.countP (·.nextHop visited)
  flag : l.uplinkNextHopEdges ≤ 1 → l.pushNextUpf = kept.any (·.leadsOut visited)
  oneHop : kept.countP (·.nextHop visited) ≤ min 1 l.uplinkNextHopEdges
  mem : ∀ e ∈ kept, e ∈ beforeSecond (·.nextHop visited) done
  others : ∀ e ∈ beforeSecond (·.nextHop visited) done, e.type ≠ .n3 → e ∈ kept
  total : l.sub.totalEdgeCount = sub.totalEdgeCount + kept.length
  associated : l.sub.associatedEdgeCount = sub.associatedEdgeCount
  access : sub.accessEdgeCount ≤ l.sub.accessEdgeCount ∧ (sub.accessEdgeCount ≤ 1 → l.sub.accessEdgeCount ≤ 1)
  n3 : ∀ e ∈ kept, e.type = .n3 → sub.accessEdgeCount < l.sub.accessEdgeCount

variable {g criteria}

theorem beforeSecond_concat {α : Type*} (p : α → Bool) (l : List α) (a : α) :
    beforeSecond p (l ++ [a]) = if (l ++ [a]).countP p ≤ 1 then l ++ [a] else beforeSecond p l := by
  have hwhole : ∀ m : List α, m.countP p = 0 → m.takeWhile (fun b => !p b) = m := fun m hm =>
    List.takeWhile_eq_self_iff.mpr fun b hb => by simpa using List.countP_eq_zero.mp hm b hb
  induction l with
  | nil => cases hp : p a <;> simp [beforeSecond, hp]
  | cons b l ih =>
    rw [List.cons_append, beforeSecond, beforeSecond]
    cases hb : p b with
    | false =>
      rw [if_neg Bool.false_ne_true, if_neg Bool.false_ne_true, ih, List.countP_cons_of_neg (by simp [hb])]
      split <;> rfl
    | true =>
      rw [if_pos rfl, if_pos rfl, List.countP_cons_of_pos hb]
      by_cases hcount : (l ++ [a]).countP p = 0
      · rw [if_pos (by omega), hwhole _ hcount]
      · rw [if_neg (by omega)]
        congr 1
        rw [List.takeWhile_append]
        split
        · -- the second one is the last
          rename_i hall
          have hl : l.countP p = 0 := List.countP_eq_zero.mpr fun c hc => by
            have hnot := List.mem_takeWhile_imp (((List.takeWhile_sublist _).eq_of_length hall).symm ▸ hc)
            simpa using hnot
          have ha : p a = true := by
            by_contra ha
            exact hcount (by simp [List.countP_append, hl, ha])
          simp [ha, hwhole l hl]
        · rfl

theorem exists_mem_beforeSecond {α : Type*} {p : α → Bool} {l : List α} (h : ∃ a ∈ l, p a = true) :
    ∃ a ∈ beforeSecond p l, p a = true := by
  induction l with
  | nil =>
    obtain ⟨a, ha, -⟩ := h
    cases ha
  | cons b l ih =>
    rw [beforeSecond]
    cases hb : p b with
    | true => exact ⟨b, List.mem_cons_self, hb⟩
    | false =>
      obtain ⟨a, ha, hp⟩ := h
      rcases List.mem_cons.mp ha with rfl | ha
      · rw [hb] at hp
        cases hp
      · obtain ⟨c, hc, hp⟩ := ih ⟨a, ha, hp⟩
        exact ⟨c, List.mem_cons_of_mem _ hc, hp⟩

theorem beforeSecond_of_le {α : Type*} {p : α → Bool} {l : List α} (h : l.countP p ≤ 1) : beforeSecond p l = l := by
  induction l using List.reverseRecOn with
  | nil => rfl
  | append_singleton l a _ => rw [beforeSecond_concat, if_pos h]

theorem KeptInv.skip {visited : Finset PfcpAssociation} {node : PfcpAssociation} {sub : SubGraph}
    {done : List UpfGraphEdge} {l l' : EdgeLoop} {kept : List UpfGraphEdge}
    (h : KeptInv visited node sub done l kept) {e : UpfGraphEdge}
    (hsub : l'.sub.edges = l.sub.edges ∧ l'.sub.totalEdgeCount = l.sub.totalEdgeCount ∧
      l'.sub.associatedEdgeCount = l.sub.associatedEdgeCount)
    (haccess : l.sub.accessEdgeCount ≤ l'.sub.accessEdgeCount ∧
      (l.sub.accessEdgeCount ≤ 1 → l'.sub.accessEdgeCount ≤ 1))
    (hconnect : l'.edgesToConnect = l.edgesToConnect) (hpushes : l'.pushes = l.pushes)
    (hhops : l'.uplinkNextHopEdges = l.uplinkNextHopEdges + if e.nextHop visited then 1 else 0)
    (hflag : l'.uplinkNextHopEdges ≤ 1 → l'.pushNextUpf = l.pushNextUpf)
    (hfront : l'.uplinkNextHopEdges ≤ 1 → e.type = .n3) : KeptInv visited node sub (done ++ [e]) l' kept := by
  have hcount : l'.uplinkNextHopEdges = (done ++ [e]).countP (·.nextHop visited) := by
    rw [hhops, h.hops, List.countP_append, List.countP_singleton]
  have hle : l.uplinkNextHopEdges ≤ l'.uplinkNextHopEdges := hhops ▸ Nat.le_add_right _ _
  have hsame : l'.uplinkNextHopEdges ≤ 1 → beforeSecond (·.nextHop visited) done = done := fun hone =>
    beforeSecond_of_le (h.hops ▸ hle.trans hone)
  constructor
  case edges => rw [hsub.1, h.edges]
  case connect => rw [hconnect, h.connect]
  case pushes => rw [hpushes, h.pushes]
  case hops => exact hcount
  case flag => exact fun hone => (hflag hone).trans (h.flag (hle.trans hone))
  case oneHop => exact h.oneHop.trans (min_le_min_left 1 hle)
  case mem =>
    intro f hf
    have hmem := h.mem f hf
    rw [beforeSecond_concat, ← hcount]
    split
    · exact List.mem_append_left _ (hsame ‹_› ▸ hmem)
    · exact hmem
  case others =>
    intro f hf htype
    rw [beforeSecond_concat, ← hcount] at hf
    split at hf
    · rename_i hone
      rcases List.mem_append.mp hf with hf | hf
      · exact h.others f ((hsame hone).symm ▸ hf) htype
      · rw [List.mem_singleton.mp hf] at htype
        exact absurd (hfront hone) htype
    · exact h.others f hf htype
  case total => rw [hsub.2.1, h.total]
  case associated => rw [hsub.2.2, h.associated]
  case access => exact ⟨h.access.1.trans haccess.1, fun hone => haccess.2 (h.access.2 hone)⟩
  case n3 => exact fun f hf htype => (h.n3 f hf htype).trans_le haccess.1

theorem keptInv_considerEdge (hsimple : criteria.dnais = ∅) {visited : Finset (Option PfcpAssociation)}
    {node : PfcpAssociation} {sub : SubGraph} {done : List UpfGraphEdge} {l : EdgeLoop} {kept : List UpfGraphEdge}
    (h : KeptInv visited.eraseNone node sub done l kept) {e : UpfGraphEdge}
    (hserves : (servesNetwork criteria node e).isSome = true) :
    ∃ kept, KeptInv visited.eraseNone node sub (done ++ [e]) (considerEdge criteria visited node l e) kept := by
  have hsome : servesNetwork criteria node e = some "" := by
    unfold servesNetwork at hserves ⊢
    rw [if_pos hsimple] at hserves ⊢
    split_ifs at hserves ⊢ with hnode
    · rfl
    · cases hserves
  unfold considerEdge
  rw [hsome]
  dsimp only
  rw [if_pos rfl, leadsOut_eraseNone]
  by_cases hn3 : e.type = .n3 ∧ decide (criteria.dnais = ∅) = true ∧ l.sub.accessEdgeCount = 1
  · have hshut : e.nextHop visited.eraseNone = false := by simp [UpfGraphEdge.nextHop, UpfGraphEdge.leadsOut, hn3.1]
    rw [if_pos hn3]
    exact ⟨kept, h.skip ⟨rfl, rfl, rfl⟩ ⟨le_rfl, id⟩ rfl rfl (by simp [hshut]) (fun _ => rfl) fun _ => hn3.1⟩
  rw [if_neg hn3]
  -- an N3 edge is counted only where there was none
  have hcount : l.sub.accessEdgeCount ≤ 1 →
      l.sub.accessEdgeCount + (if e.type = .n3 then 1 else 0) ≤ 1 := by
    intro hone
    split
    · have hne : l.sub.accessEdgeCount ≠ 1 := fun heq => hn3 ⟨‹_›, decide_eq_true hsimple, heq⟩
      omega
    · exact hone
  have hhop : (e.type = .n6 ∨ e.leadsOut visited.eraseNone = true) ↔ e.nextHop visited.eraseNone = true := by
    simp [UpfGraphEdge.nextHop]
  simp only [hhop, hsimple, decide_true, true_and]
  by_cases hskip : 1 < l.uplinkNextHopEdges + if e.nextHop visited.eraseNone = true then 1 else 0
  · rw [if_pos hskip]
    exact ⟨kept, h.skip ⟨rfl, rfl, rfl⟩ ⟨Nat.le_add_right _ _, hcount⟩ rfl rfl rfl
      (fun hone => absurd hskip (Nat.not_lt.mpr hone)) fun hone => absurd hskip (Nat.not_lt.mpr hone)⟩
  · rw [if_neg hskip]
    have hone := Nat.not_lt.mp hskip
    have hle : l.uplinkNextHopEdges ≤ 1 := (Nat.le_add_right _ _).trans hone
    have hflag := h.flag hle
    have hhops : l.uplinkNextHopEdges + (if e.nextHop visited.eraseNone = true then 1 else 0) =
        (done ++ [e]).countP (·.nextHop visited.eraseNone) := by
      rw [h.hops, List.countP_append, List.countP_singleton]
    have hfront : beforeSecond (·.nextHop visited.eraseNone) (done ++ [e]) = done ++ [e] :=
      beforeSecond_of_le (hhops ▸ hone)
    have hdone : beforeSecond (·.nextHop visited.eraseNone) done = done := beforeSecond_of_le (h.hops ▸ hle)
    refine ⟨kept ++ [e], ?_⟩
    constructor
    case edges =>
      show l.sub.edges ++ [layEdge visited.eraseNone node e] = _
      rw [h.edges, List.map_append, List.append_assoc]
      rfl
    case connect =>
      show l.edgesToConnect ++ [l.sub.edges.length] = _
      rw [h.connect, h.edges, List.length_append, List.length_map, List.length_append, List.length_singleton,
        List.range'_concat, Nat.one_mul]
    case pushes =>
      show (if (l.pushNextUpf || e.leadsOut visited.eraseNone) = true then e.destinationUpf :: l.pushes
        else l.pushes) = _
      rw [hflag, h.pushes, List.dropWhile_append]
      cases hany : kept.any (·.leadsOut visited.eraseNone) with
      | true =>
        have hne : (kept.dropWhile (!·.leadsOut visited.eraseNone)).isEmpty = false := by
          rw [List.isEmpty_eq_false_iff]
          intro hnil
          obtain ⟨f, hf, hopens⟩ := List.any_eq_true.mp hany
          simpa [hopens] using List.dropWhile_eq_nil_iff.mp hnil f hf
        rw [hne]
        simp
      | false =>
        have hnil : (kept.dropWhile (!·.leadsOut visited.eraseNone)) = [] := by
          rw [List.dropWhile_eq_nil_iff]
          intro f hf
          simpa using List.any_eq_false.mp hany f hf
        rw [hnil]
        cases hopens : e.leadsOut visited.eraseNone <;> simp [hopens]
    case hops => exact hhops
    case flag =>
      intro _
      show (l.pushNextUpf || e.leadsOut visited.eraseNone) = _
      rw [hflag, List.any_append, List.any_cons, List.any_nil, Bool.or_false]
    case oneHop =>
      have hold := h.oneHop.trans (min_le_right _ _)
      show _ ≤ min 1 (l.uplinkNextHopEdges + _)
      rw [min_eq_right hone, List.countP_append, List.countP_singleton]
      exact Nat.add_le_add_right hold _
    case mem =>
      intro f hf
      rw [hfront]
      rcases List.mem_append.mp hf with hf | hf
      · exact List.mem_append_left _ (hdone ▸ h.mem f hf)
      · exact List.mem_append_right _ hf
    case others =>
      intro f hf htype
      rw [hfront] at hf
      rcases List.mem_append.mp hf with hf | hf
      · exact List.mem_append_left _ (h.others f (hdone.symm ▸ hf) htype)
      · exact List.mem_append_right _ hf
    case total =>
      show l.sub.totalEdgeCount + 1 = _
      rw [h.total, List.length_append, List.length_singleton, Nat.add_assoc]
    case associated => exact h.associated
    case access => exact ⟨h.access.1.trans (Nat.le_add_right _ _), fun hsub => hcount (h.access.2 hsub)⟩
    case n3 =>
      intro f hf htype
      rcases List.mem_append.mp hf with hf | hf
      · exact (h.n3 f hf htype).trans_le (Nat.le_add_right _ _)
      · obtain rfl := List.mem_singleton.mp hf
        show sub.accessEdgeCount < l.sub.accessEdgeCount + _
        rw [if_pos htype]
        exact Nat.lt_succ_of_le h.access.1

theorem exists_keptInv (hsimple : criteria.dnais = ∅) (visited : Finset (Option PfcpAssociation))
    {node : PfcpAssociation} (hnode : node ∈ g.nodes) (sub : SubGraph) :
    ∃ kept, KeptInv visited.eraseNone node sub (servingEdges g criteria node)
      (considerNode g criteria visited node sub) kept := by
  have hfold : ∀ (es done : List UpfGraphEdge) (l : EdgeLoop),
      (∃ kept, KeptInv visited.eraseNone node sub done l kept) →
      ∃ kept, KeptInv visited.eraseNone node sub
        (done ++ es.filter fun e => (servesNetwork criteria node e).isSome)
        (es.foldl (considerEdge criteria visited node) l) kept := by
    intro es
    induction es with
    | nil =>
      intro done l hl
      rwa [List.filter_nil, List.append_nil]
    | cons e es ih =>
      rintro done l ⟨kept, hl⟩
      rw [List.foldl_cons, List.filter_cons]
      split
      · rename_i hserves
        rw [List.append_cons]
        exact ih _ _ (keptInv_considerEdge hsimple hl hserves)
      · rename_i hno
        have hnone : considerEdge criteria visited node l e = l := by
          unfold considerEdge
          rw [Option.not_isSome_iff_eq_none.mp hno]
        rw [hnone]
        exact ih _ _ ⟨kept, hl⟩
  have hstart : KeptInv visited.eraseNone node sub [] ⟨sub, [], 0, false, []⟩ [] := by
    constructor <;> simp [beforeSecond]
  have hkept := hfold (g.edges node) [] _ ⟨[], hstart⟩
  unfold servingEdges
  rw [if_pos hnode]
  exact hkept

theorem associate_append {sub : SubGraph} {pre : List SubEdge} {a b : SubEdge} (h : sub.edges = pre ++ [a, b]) :
    (sub.associate pre.length (pre.length + 1)).edges = pre ++
      [{ a with associatedEdge := some (pre.length + 1) }, { b with associatedEdge := some pre.length }] := by
  unfold SubGraph.associate
  dsimp only
  rw [h, List.mapIdx_append]
  congr 1
  · refine List.ext_getElem (List.length_mapIdx ..) fun i hi hi' => ?_
    rw [List.getElem_mapIdx, if_neg (Nat.ne_of_lt hi'), if_neg (Nat.ne_of_lt (Nat.lt_succ_of_lt hi'))]
  · simp [Nat.add_comm]

/-- The edges after the connection of those that are kept. -/
def connectKept (l : EdgeLoop) : SubGraph :=
  match l.edgesToConnect with
  | [i, j] => l.sub.associate i j
  | _ => l.sub

theorem edges_connect {visited : Finset PfcpAssociation} {node : PfcpAssociation} {sub : SubGraph}
    {done : List UpfGraphEdge} {l : EdgeLoop} {kept : List UpfGraphEdge} (h : KeptInv visited node sub done l kept) :
    ∃ new : List SubEdge, (connectKept l).edges = sub.edges ++ new ∧ new.map (·.edge) = kept ∧
      (∀ e ∈ new, e.source = node ∧ e.uplink = e.edge.nextHop visited) ∧
      (∀ a b, new = [a, b] → a.associatedEdge = some (sub.edges.length + 1) ∧
        b.associatedEdge = some sub.edges.length) ∧
      (new.length ≠ 2 → ∀ e ∈ new, e.associatedEdge = none) := by
  have hlaid : ∀ e ∈ kept.map (layEdge visited node), e.source = node ∧
      e.uplink = e.edge.nextHop visited ∧ e.associatedEdge = none := by
    intro e he
    obtain ⟨f, -, rfl⟩ := List.mem_map.mp he
    exact ⟨rfl, rfl, rfl⟩
  have hedge : (kept.map (layEdge visited node)).map (·.edge) = kept := by
    rw [List.map_map]
    exact List.map_id _
  unfold connectKept
  by_cases htwo : kept.length = 2
  · obtain ⟨a, b, rfl⟩ := List.length_eq_two.mp htwo
    rw [h.connect]
    refine ⟨_, associate_append h.edges, hedge, ?_, ?_, fun hne => absurd rfl hne⟩
    · intro e he
      rcases List.mem_pair.mp he with rfl | rfl <;> exact ⟨rfl, rfl⟩
    · rintro _ _ ⟨⟩
      exact ⟨rfl, rfl⟩
  · refine ⟨_, ?_, hedge, fun e he => ⟨(hlaid e he).1, (hlaid e he).2.1⟩, fun a b hab => ?_,
      fun _ e he => (hlaid e he).2.2⟩
    · rw [← h.edges]
      split
      · rename_i i j hconnect
        rw [h.connect] at hconnect
        exact absurd (by simpa using congrArg List.length hconnect) htwo
      · rfl
    · exact absurd (by simpa using congrArg List.length hab) htwo

theorem counters_connect {visited : Finset PfcpAssociation} {node : PfcpAssociation} {sub : SubGraph}
    {done : List UpfGraphEdge} {l : EdgeLoop} {kept : List UpfGraphEdge} (h : KeptInv visited node sub done l kept) :
    (connectKept l).totalEdgeCount = sub.totalEdgeCount + kept.length ∧
      (connectKept l).associatedEdgeCount = sub.associatedEdgeCount + (if kept.length = 2 then 2 else 0) ∧
      (connectKept l).accessEdgeCount = l.sub.accessEdgeCount := by
  unfold connectKept
  rw [h.connect]
  by_cases htwo : kept.length = 2
  · obtain ⟨a, b, rfl⟩ := List.length_eq_two.mp htwo
    exact ⟨h.total, congrArg (· + 2) h.associated, rfl⟩
  · rw [if_neg htwo]
    split
    · rename_i i j hconnect
      exact absurd (by simpa using congrArg List.length hconnect) htwo
    · exact ⟨h.total, h.associated, rfl⟩

/-- **What a turn does** with the UPF on top of the stack. -/
structure Turn (g : UpfGraph) (criteria : UpfSelectionCriteria) (st : DfsState) (top : Option PfcpAssociation)
    (rest : List (Option PfcpAssociation)) : Prop where
  stack : st.stack = top :: rest
  visited : (dfsStep g criteria st).visited = insert top st.visited
  edges : (dfsStep g criteria st).sub.edges = st.sub.edges ++ keptEdges g criteria st
  pushes : (dfsStep g criteria st).stack = (((keptEdges g criteria st).dropWhile fun e =>
    !e.edge.leadsOut (insert top st.visited).eraseNone).map (·.destinationUpf)).reverse ++ rest
  kept : ∀ e ∈ keptEdges g criteria st, some e.source = top ∧
    e.edge ∈ consideredEdges g criteria (insert top st.visited).eraseNone e.source ∧
    e.uplink = e.edge.nextHop (insert top st.visited).eraseNone
  others : ∀ upf, top = some upf → ∀ e ∈ consideredEdges g criteria (insert top st.visited).eraseNone upf,
    e.type ≠ .n3 → e ∈ (keptEdges g criteria st).map (·.edge)
  oneHop : ((keptEdges g criteria st).map (·.edge)).countP (·.nextHop (insert top st.visited).eraseNone) ≤ 1
  pair : ∀ a b, keptEdges g criteria st = [a, b] →
    a.associatedEdge = some (st.sub.edges.length + 1) ∧ b.associatedEdge = some st.sub.edges.length
  single : (keptEdges g criteria st).length ≠ 2 → ∀ e ∈ keptEdges g criteria st, e.associatedEdge = none
  total : (dfsStep g criteria st).sub.totalEdgeCount = st.sub.totalEdgeCount + (keptEdges g criteria st).length
  associated : (dfsStep g criteria st).sub.associatedEdgeCount =
    st.sub.associatedEdgeCount + if (keptEdges g criteria st).length = 2 then 2 else 0
  access : st.sub.accessEdgeCount ≤ (dfsStep g criteria st).sub.accessEdgeCount ∧
    (st.sub.accessEdgeCount ≤ 1 → (dfsStep g criteria st).sub.accessEdgeCount ≤ 1)
  n3 : ∀ e ∈ keptEdges g criteria st, e.type = .n3 →
    st.sub.accessEdgeCount < (dfsStep g criteria st).sub.accessEdgeCount

theorem Turn.of_nothing {st : DfsState} {top : Option PfcpAssociation} {rest : List (Option PfcpAssociation)}
    (hstack : st.stack = top :: rest)
    (hstep : dfsStep g criteria st = { st with stack := rest, visited := insert top st.visited })
    (hnode : ∀ upf, top = some upf → upf ∉ g.nodes) : Turn g criteria st top rest := by
  have hkept : keptEdges g criteria st = [] := by
    unfold keptEdges
    rw [hstep]
    exact List.drop_length
  constructor
  case stack => exact hstack
  case others => exact fun upf htop e he => absurd (mem_consideredEdges he).1 (hnode upf htop)
  case visited => rw [hstep]
  case edges => rw [hkept, hstep, List.append_nil]
  case pushes =>
    rw [hkept, hstep]
    rfl
  all_goals simp [hkept, hstep]

theorem turn_node (hsimple : criteria.dnais = ∅) {st : DfsState} {node : PfcpAssociation}
    {rest : List (Option PfcpAssociation)} (hstack : st.stack = some node :: rest) (hnode : node ∈ g.nodes) :
    Turn g criteria st (some node) rest := by
  obtain ⟨kept, h⟩ := exists_keptInv (g := g) hsimple (insert (some node) st.visited) hnode st.sub
  generalize hloop : considerNode g criteria (insert (some node) st.visited) node st.sub = l at h
  have hstep : dfsStep g criteria st = ⟨l.pushes ++ rest, insert (some node) st.visited, connectKept l⟩ := by
    unfold dfsStep connectKept
    rw [hstack, ← hloop]
    exact if_pos hnode
  have hfront : consideredEdges g criteria (insert (some node) st.visited).eraseNone node =
      beforeSecond (·.nextHop (insert (some node) st.visited).eraseNone) (servingEdges g criteria node) :=
    if_pos hsimple
  obtain ⟨new, hedges, hnew, hlaid, hpair, hsingle⟩ := edges_connect h
  obtain ⟨htotal, hassociated, haccess⟩ := counters_connect h
  have hkept : keptEdges g criteria st = new := by
    unfold keptEdges
    rw [hstep]
    dsimp only
    rw [hedges, List.drop_left]
  have hlength : new.length = kept.length := by rw [← hnew, List.length_map]
  constructor
  case stack => exact hstack
  case visited => rw [hstep]
  case edges => rw [hkept, hstep, hedges]
  case pushes =>
    rw [hkept, hstep]
    dsimp only
    rw [h.pushes, ← hnew, List.dropWhile_map, List.map_map]
    rfl
  case kept =>
    rw [hkept]
    intro e he
    obtain ⟨hsource, hup⟩ := hlaid e he
    have hmem : e.edge ∈ kept := hnew ▸ List.mem_map_of_mem he
    rw [hsource, hfront]
    exact ⟨rfl, h.mem _ hmem, hup⟩
  case others =>
    rintro _ ⟨⟩ e he htype
    rw [hkept, hnew]
    exact h.others e (hfront ▸ he) htype
  case oneHop =>
    rw [hkept, hnew]
    exact h.oneHop.trans (min_le_left _ _)
  case pair =>
    rw [hkept]
    exact hpair
  case single =>
    rw [hkept]
    exact hsingle
  case total => rw [hkept, hstep, hlength, htotal]
  case associated => rw [hkept, hstep, hlength, hassociated]
  case access =>
    rw [hstep]
    dsimp only
    rw [haccess]
    exact h.access
  case n3 =>
    rw [hkept, hstep]
    dsimp only
    rw [haccess]
    exact fun e he htype => h.n3 _ (hnew ▸ List.mem_map_of_mem he) htype

theorem dfsStep_of_nil {st : DfsState} (hstack : st.stack = []) : dfsStep g criteria st = st := by
  unfold dfsStep
  rw [hstack]

/-- **All that a turn does.** -/
theorem dfsStep_cases (hsimple : criteria.dnais = ∅) (st : DfsState) :
    (st.stack = [] ∧ dfsStep g criteria st = st) ∨ ∃ top rest, Turn g criteria st top rest := by
  cases hstack : st.stack with
  | nil => exact .inl ⟨rfl, dfsStep_of_nil hstack⟩
  | cons top rest =>
    refine .inr ⟨top, rest, ?_⟩
    cases top with
    | none =>
      refine .of_nothing hstack ?_ fun upf h => nomatch h
      unfold dfsStep
      rw [hstack]
    | some node =>
      by_cases hnode : node ∈ g.nodes
      · exact turn_node hsimple hstack hnode
      · refine .of_nothing hstack ?_ fun upf h => Option.some.inj h ▸ hnode
        unfold dfsStep
        rw [hstack]
        dsimp only
        rw [if_neg hnode]

/-! ## Runs of the search -/

theorem keptEdges_nil {st : DfsState} (h : dfsStep g criteria st = st) : keptEdges g criteria st = [] := by
  unfold keptEdges
  rw [h, List.drop_length]

theorem edges_dfsStep (hsimple : criteria.dnais = ∅) (st : DfsState) :
    (dfsStep g criteria st).sub.edges = st.sub.edges ++ keptEdges g criteria st := by
  rcases dfsStep_cases (g := g) hsimple st with ⟨-, h⟩ | ⟨_, _, h⟩
  · rw [keptEdges_nil h, h, List.append_nil]
  · exact h.edges

theorem edges_stay (hsimple : criteria.dnais = ∅) (n : ℕ) (st : DfsState) :
    st.sub.edges <+: ((dfsStep g criteria)^[n] st).sub.edges := by
  induction n generalizing st with
  | zero => exact List.prefix_rfl
  | succ n ih =>
    refine List.IsPrefix.trans ?_ (ih (dfsStep g criteria st))
    rw [edges_dfsStep hsimple]
    exact List.prefix_append _ _

theorem notMem_of_uplink {visited : Finset (Option PfcpAssociation)} {e : SubEdge}
    (hup : true = e.edge.nextHop visited.eraseNone) (htype : e.type = .n9) : e.destinationUpf ∉ visited := by
  have hout : e.edge.leadsOut visited.eraseNone = true := by
    change e.edge.type = .n9 at htype
    simpa [UpfGraphEdge.nextHop, htype] using hup
  exact (notMem_of_leadsOut hout).2.2

/-- An uplink N9 edge that is added later leads to a UPF that was not visited. -/
theorem later_uplink (hsimple : criteria.dnais = ∅) (n : ℕ) (st : DfsState) :
    st.visited ⊆ ((dfsStep g criteria)^[n] st).visited ∧
    ∀ e ∈ ((dfsStep g criteria)^[n] st).sub.edges, e.uplink = true → e.type = .n9 →
      e ∈ st.sub.edges ∨ e.destinationUpf ∉ st.visited := by
  induction n with
  | zero => exact ⟨fun _ h => h, fun e he _ _ => .inl he⟩
  | succ n ih =>
    rw [Function.iterate_succ_apply']
    rcases dfsStep_cases (g := g) hsimple ((dfsStep g criteria)^[n] st) with ⟨-, h⟩ | ⟨top, rest, h⟩
    · rw [h]
      exact ih
    · rw [h.visited, h.edges]
      refine ⟨ih.1.trans (Finset.subset_insert _ _), fun e he hup htype => ?_⟩
      rcases List.mem_append.mp he with he | he
      · exact ih.2 e he hup htype
      · obtain ⟨-, -, hmark⟩ := h.kept e he
        refine .inr fun hmem => ?_
        have hunvisited := notMem_of_uplink (hup ▸ hmark) htype
        exact hunvisited (Finset.mem_insert_of_mem (ih.1 hmem))

end Turn

end Oai5g.Smf
