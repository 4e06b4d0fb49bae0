import Oai5g.Smf.Turn

/-!
# The graph that is selected without DNAIs

* `UsablePath`: the edges of a session are those of one path from its N3 edge to an N6 edge.
* `PassesOn`: the UPF of a turn has no edges yet, it has a next hop, and nothing but ways to come by beside it.
* **`selectedPath_iff`**: a selected graph is a usable path exactly when each turn of its search passes on.
* `detour`: associations where it is not.
-/

namespace Oai5g.Smf

/-! ## Paths -/

/-- What a path has at a UPF: the edge that it comes by and the edge that it goes on by. -/
structure Hop where
  upf : PfcpAssociation
  down : UpfGraphEdge
  up : UpfGraphEdge

/-- An edge of a session, but for what is connected to it. -/
def SubEdge.laid (e : SubEdge) : PfcpAssociation × UpfGraphEdge × Bool := (e.source, e.edge, e.uplink)

theorem SubEdge.laid_eq_iff {e : SubEdge} {upf : PfcpAssociation} {edge : UpfGraphEdge} {uplink : Bool} :
    e.laid = (upf, edge, uplink) ↔ e.source = upf ∧ e.edge = edge ∧ e.uplink = uplink := by
  unfold SubEdge.laid
  rw [Prod.mk.injEq, Prod.mk.injEq]

/-- The two edges of a hop, downlink first. -/
def Hop.edges (h : Hop) : List (PfcpAssociation × UpfGraphEdge × Bool) :=
  [(h.upf, h.down, false), (h.upf, h.up, true)]

/-- **Across N9**: the path goes on from `h` to `h'`, which has an edge back. -/
def Hop.After (h' h : Hop) : Prop :=
  h.up.type = .n9 ∧ h.up.destinationUpf = some h'.upf ∧
    h'.down.type = .n9 ∧ h'.down.destinationUpf = some h.upf

/-- A path that starts with an N3 edge, its last UPF first. -/
structure PathFrom (hops : List Hop) : Prop where
  across : hops.IsChain Hop.After
  access : ∀ h ∈ hops.getLast?, h.down.type = .n3
  nodup : (hops.map (·.upf)).Nodup

/-- Each edge is connected to one of its UPF in the other direction. -/
def Associated (sub : SubGraph) : Prop :=
  ∀ i (e : SubEdge), sub.edges[i]? = some e → ∃ j, ∃ f : SubEdge, e.associatedEdge = some j ∧
    sub.edges[j]? = some f ∧ f.associatedEdge = some i ∧ f.source = e.source ∧ e.uplink = !f.uplink

/-- **A usable user-plane path**: each UPF serves the network, each edge is connected to one of its UPF in the
other direction, and the edges are those of a path from an N3 edge to an N6 edge. -/
structure UsablePath (criteria : UpfSelectionCriteria) (sub : SubGraph) : Prop where
  serves : ∀ e ∈ sub.edges, e.source.servesNetwork criteria.snssai criteria.dnn = true
  associated : Associated sub
  path : ∃ hops, PathFrom hops ∧ (∃ h ∈ hops.head?, h.up.type = .n6) ∧
    (sub.edges.map SubEdge.laid).Perm (hops.flatMap Hop.edges)

/-! ## The edges of a path -/

theorem mem_edges_up {hops : List Hop} {upf : PfcpAssociation} {e : UpfGraphEdge} :
    (upf, e, true) ∈ hops.flatMap Hop.edges ↔ ∃ h ∈ hops, h.upf = upf ∧ h.up = e := by
  simp [Hop.edges, eq_comm]

theorem mem_edges_down {hops : List Hop} {upf : PfcpAssociation} {e : UpfGraphEdge} :
    (upf, e, false) ∈ hops.flatMap Hop.edges ↔ ∃ h ∈ hops, h.upf = upf ∧ h.down = e := by
  simp [Hop.edges, eq_comm]

theorem count_flatMap_edges (hops : List Hop) (upf : PfcpAssociation) :
    ((hops.flatMap Hop.edges).filter (·.1 = upf)).length = 2 * (hops.map (·.upf)).count upf := by
  induction hops with
  | nil => rfl
  | cons h hops ih =>
    rw [List.flatMap_cons, List.filter_append, List.length_append, ih, List.map_cons, List.count_cons]
    by_cases heq : h.upf = upf
    · simp [Hop.edges, heq]
      omega
    · simp [Hop.edges, heq]

theorem length_edgesOf {sub : SubGraph} {hops : List Hop}
    (hperm : (sub.edges.map SubEdge.laid).Perm (hops.flatMap Hop.edges)) (upf : PfcpAssociation) :
    (sub.edgesOf upf).length = 2 * (hops.map (·.upf)).count upf := by
  rw [← count_flatMap_edges, ← (hperm.filter _).length_eq, List.filter_map, List.length_map]
  rfl

theorem mem_nodes_iff {sub : SubGraph} {hops : List Hop}
    (hperm : (sub.edges.map SubEdge.laid).Perm (hops.flatMap Hop.edges)) {upf : PfcpAssociation} :
    upf ∈ sub.nodes ↔ upf ∈ hops.map (·.upf) := by
  rw [← List.count_pos_iff]
  have hlen := length_edgesOf hperm upf
  constructor
  · intro h
    obtain ⟨e, he, rfl⟩ := List.mem_map.mp (List.mem_toFinset.mp h)
    have hpos : 0 < (sub.edgesOf e.source).length :=
      List.length_pos_of_mem (List.mem_filter.mpr ⟨he, decide_eq_true rfl⟩)
    omega
  · intro h
    obtain ⟨e, he⟩ := List.exists_mem_of_length_pos (l := sub.edgesOf upf) (by omega)
    obtain ⟨he, hsource⟩ := List.mem_filter.mp he
    exact List.mem_toFinset.mpr (List.mem_map.mpr ⟨e, he, of_decide_eq_true hsource⟩)

theorem exists_after_or_head {hops : List Hop} (h : hops.IsChain Hop.After) {x : Hop} (hx : x ∈ hops) :
    x ∈ hops.head? ∨ ∃ y ∈ hops, y.After x := by
  induction hops with
  | nil => cases hx
  | cons y hops ih =>
    rcases List.mem_cons.mp hx with rfl | hx
    · exact .inl rfl
    · rw [List.isChain_cons] at h
      rcases ih h.2 hx with hhead | ⟨z, hz, hafter⟩
      · exact .inr ⟨y, List.mem_cons_self, h.1 x hhead⟩
      · exact .inr ⟨z, List.mem_cons_of_mem _ hz, hafter⟩

theorem exists_before_or_last {hops : List Hop} (h : hops.IsChain Hop.After) {x : Hop} (hx : x ∈ hops) :
    x ∈ hops.getLast? ∨ ∃ y ∈ hops, x.After y := by
  induction hops with
  | nil => cases hx
  | cons y hops ih =>
    rw [List.isChain_cons] at h
    rcases List.mem_cons.mp hx with rfl | hx
    · cases hops with
      | nil => exact .inl rfl
      | cons z hops => exact .inr ⟨z, by simp, h.1 z rfl⟩
    · rcases ih h.2 hx with hlast | ⟨z, hz, hafter⟩
      · refine .inl ?_
        rw [List.getLast?_cons_of_ne_nil (List.ne_nil_of_mem hx)]
        exact hlast
      · exact .inr ⟨z, List.mem_cons_of_mem _ hz, hafter⟩

/-! ## Turns that pass on -/

section Search

variable {g : UpfGraph} {criteria : UpfSelectionCriteria}

/-- **An edge to come by**: an N3 edge, or one back to a UPF of the session whose uplink edge leads here. -/
def ComesBy (sub : SubGraph) (upf : PfcpAssociation) (e : UpfGraphEdge) : Prop :=
  e.type = .n3 ∨ e.type = .n9 ∧ ∃ d ∈ sub.edges, d.uplink = true ∧ d.destinationUpf = some upf ∧
    e.destinationUpf = some d.source

instance (sub : SubGraph) (upf : PfcpAssociation) (e : UpfGraphEdge) : Decidable (ComesBy sub upf e) :=
  inferInstanceAs (Decidable (_ ∨ _))

/-- **A turn passes on**: the UPF on top has no edges in the session yet; of its edges that serve the network, up to
the second next hop, one is a next hop, and the others are edges to come by. -/
def PassesOn (g : UpfGraph) (criteria : UpfSelectionCriteria) (st : DfsState) : Prop :=
  ∀ upf rest, st.stack = some upf :: rest → upf ∉ st.sub.nodes ∧
    (∃ e ∈ consideredEdges g criteria (insert upf st.visitedUpfs) upf,
      e.nextHop (insert upf st.visitedUpfs) = true) ∧
    ∀ e ∈ consideredEdges g criteria (insert upf st.visitedUpfs) upf,
      e.nextHop (insert upf st.visitedUpfs) = false → ComesBy st.sub upf e

/-- The downlink edge of a hop is an N3 edge at the first UPF, and at the others leads back to where an uplink
edge comes from. -/
def Hop.ComesBy (h : Hop) (sub : SubGraph) : Prop :=
  sub.edges = [] ∧ h.down.type = .n3 ∨
    h.down.type = .n9 ∧ ∃ e ∈ sub.edges, e.uplink = true ∧ e.destinationUpf = some h.upf ∧
      h.down.destinationUpf = some e.source

/-- Nothing is left to do on a stack but for UPFs that have their edges. -/
def Settled (hops : List Hop) (stack : List (Option PfcpAssociation)) : Prop :=
  ∀ upf, some upf ∈ stack → upf ∈ hops.map (·.upf)

/-- The path has come to an N6 edge, or goes on at the one UPF of the stack that has no edges yet. -/
def GoesOn (hops : List Hop) (stack : List (Option PfcpAssociation)) : Prop :=
  ((∃ h ∈ hops.head?, h.up.type = .n6) ∧ Settled hops stack) ∨
    ∃ before upf after, stack = before ++ some upf :: after ∧ Settled hops (before ++ after) ∧
      upf ∉ hops.map (·.upf) ∧ ∀ h ∈ hops.head?, h.up.type = .n9 ∧ h.up.destinationUpf = some upf

/-- **The invariant of a search that passes on**: its edges are those of a path. -/
structure SearchInv (g : UpfGraph) (criteria : UpfSelectionCriteria) (st : DfsState) (hops : List Hop) : Prop where
  path : PathFrom hops
  edges : (st.sub.edges.map SubEdge.laid).Perm (hops.flatMap Hop.edges)
  serving : ∀ e ∈ st.sub.edges, e.edge ∈ servingEdges g criteria e.source ∧ (e.uplink = true → e.type ≠ .n3)
  associated : Associated st.sub
  access : st.sub.accessEdgeCount ≤ 1 ∧ (st.sub.edges ≠ [] → st.sub.accessEdgeCount = 1)
  visited : ∀ upf ∈ hops.map (·.upf), some upf ∈ st.visited
  stack : GoesOn hops st.stack

theorem searchInv_start (g : UpfGraph) (criteria : UpfSelectionCriteria) (start : PfcpAssociation)
    (visited : Finset (Option PfcpAssociation)) :
    SearchInv g criteria ⟨[some start], visited, .empty⟩ [] where
  path := ⟨.nil, fun _ hh => (nomatch hh), List.nodup_nil⟩
  edges := .nil
  serving _ he := nomatch he
  associated _ _ he := nomatch he
  access := ⟨Nat.zero_le 1, fun hne => absurd rfl hne⟩
  visited _ hupf := nomatch hupf
  stack := .inr ⟨[], start, [], rfl, fun _ hupf => (nomatch hupf), List.not_mem_nil, fun _ hh => nomatch hh⟩

theorem Settled.of_subset {hops : List Hop} {stack stack' : List (Option PfcpAssociation)}
    (h : Settled hops stack) (hsub : stack' ⊆ stack) : Settled hops stack' :=
  fun upf hupf => h upf (hsub hupf)

theorem Turn.stack_of_nil {st : DfsState} {top : Option PfcpAssociation} {rest : List (Option PfcpAssociation)}
    (h : Turn g criteria st top rest) (hkept : keptEdges g criteria st = []) :
    (dfsStep g criteria st).stack = rest ∧ (dfsStep g criteria st).sub.edges = st.sub.edges := by
  refine ⟨?_, ?_⟩
  · rw [h.pushes, hkept]
    rfl
  · rw [h.edges, hkept, List.append_nil]

theorem eq_or_eq_of_perm_pair {α β : Type*} {f : α → β} {l : List α} {x y : β} (h : (l.map f).Perm [x, y]) :
    ∃ a b, l = [a, b] ∧ (f a = x ∧ f b = y ∨ f a = y ∧ f b = x) := by
  obtain ⟨a, b, rfl⟩ := List.length_eq_two.mp ((List.length_map f).symm.trans h.length_eq)
  refine ⟨a, b, rfl, ?_⟩
  rcases List.mem_pair.mp (h.subset List.mem_cons_self) with ha | ha
  · refine .inl ⟨ha, ?_⟩
    have hb := h
    rw [List.map_cons, ha, List.perm_cons] at hb
    exact List.singleton_perm_singleton.mp hb
  · refine .inr ⟨ha, ?_⟩
    have hb := h.trans (List.Perm.swap y x [])
    rw [List.map_cons, ha, List.perm_cons] at hb
    exact List.singleton_perm_singleton.mp hb

theorem SearchInv.of_nothing {st : DfsState} {hops : List Hop} (h : SearchInv g criteria st hops)
    {top : Option PfcpAssociation} {rest : List (Option PfcpAssociation)} (ht : Turn g criteria st top rest)
    (hkept : keptEdges g criteria st = [])
    (htop : ∀ upf, top = some upf → upf ∈ hops.map (·.upf)) :
    SearchInv g criteria (dfsStep g criteria st) hops := by
  obtain ⟨hstack, hedges⟩ := ht.stack_of_nil hkept
  refine ⟨h.path, ?_, ?_, ?_, ?_, ?_, ?_⟩
  · rw [hedges]
    exact h.edges
  · rw [hedges]
    exact h.serving
  · unfold Associated
    rw [hedges]
    exact h.associated
  · rw [hedges]
    refine ⟨ht.access.2 h.access.1, fun hne => ?_⟩
    exact le_antisymm (ht.access.2 h.access.1) (h.access.2 hne ▸ ht.access.1)
  · intro upf hupf
    rw [ht.visited]
    exact Finset.mem_insert_of_mem (h.visited upf hupf)
  · rw [hstack]
    rcases h.stack with ⟨hexit, hsettled⟩ | ⟨before, upf, after, heq, hsettled, hnew, hhead⟩
    · exact .inl ⟨hexit, hsettled.of_subset (by rw [ht.stack]; exact List.subset_cons_self _ _)⟩
    · rw [ht.stack] at heq
      cases before with
      | nil =>
        cases heq
        exact absurd (htop upf rfl) hnew
      | cons w before =>
        cases heq
        exact .inr ⟨before, upf, after, rfl, hsettled.of_subset (List.subset_cons_self _ _), hnew, hhead⟩

theorem Associated.append {sub sub' : SubGraph} (h : Associated sub) {a b : SubEdge}
    (hedges : sub'.edges = sub.edges ++ [a, b])
    (hpair : a.associatedEdge = some (sub.edges.length + 1) ∧ b.associatedEdge = some sub.edges.length)
    (hsource : b.source = a.source) (hup : a.uplink = !b.uplink) : Associated sub' := by
  have hold : ∀ i < sub.edges.length, sub'.edges[i]? = sub.edges[i]? := fun i hi => by
    rw [hedges, List.getElem?_append_left hi]
  have ha : sub'.edges[sub.edges.length]? = some a := by simp [hedges]
  have hb : sub'.edges[sub.edges.length + 1]? = some b := by simp [hedges]
  intro i e he
  rcases Nat.lt_or_ge i sub.edges.length with hi | hi
  · rw [hold i hi] at he
    obtain ⟨j, f, he', hf, hrest⟩ := h i e he
    refine ⟨j, f, he', ?_, hrest⟩
    rw [hold j (List.getElem?_eq_some_iff.mp hf).1]
    exact hf
  · obtain ⟨k, rfl⟩ := Nat.exists_eq_add_of_le hi
    match k with
    | 0 =>
      obtain rfl := Option.some.inj (ha.symm.trans he)
      exact ⟨_, b, hpair.1, hb, hpair.2, hsource, hup⟩
    | 1 =>
      obtain rfl := Option.some.inj (hb.symm.trans he)
      exact ⟨_, a, hpair.2, ha, hpair.1, hsource.symm, by rw [hup, Bool.not_not]⟩
    | k + 2 =>
      rw [hedges, List.getElem?_eq_none (by simp)] at he
      cases he

/-- **The path goes on by one UPF.** -/
theorem PathFrom.cons {hops : List Hop} (hp : PathFrom hops) {st : DfsState}
    (hedges : (st.sub.edges.map SubEdge.laid).Perm (hops.flatMap Hop.edges)) {h : Hop}
    (hnew : h.upf ∉ hops.map (·.upf))
    (hhead : ∀ x ∈ hops.head?, x.up.type = .n9 ∧ x.up.destinationUpf = some h.upf)
    (hdown : h.ComesBy st.sub) : PathFrom (h :: hops) := by
  have hnil : hops = [] ↔ st.sub.edges = [] := by
    constructor
    · rintro rfl
      exact List.map_eq_nil_iff.mp hedges.eq_nil
    · intro hempty
      rw [hempty] at hedges
      have hflat : hops.flatMap Hop.edges = [] := hedges.nil_eq.symm
      cases hops with
      | nil => rfl
      | cons x hops => cases hflat
  refine ⟨?_, ?_, ?_⟩
  · rw [List.isChain_cons]
    refine ⟨fun x hx => ?_, hp.across⟩
    obtain ⟨htype, hdest⟩ := hhead x hx
    rcases hdown with ⟨hempty, -⟩ | ⟨hback, e, he, hup, hto, hfrom⟩
    · rw [hnil.mpr hempty] at hx
      cases hx
    refine ⟨htype, hdest, hback, ?_⟩
    -- the only uplink edge that leads here is that of the last UPF
    obtain ⟨y, hy, hsource, hedge⟩ := mem_edges_up.mp (hedges.subset (List.mem_map.mpr
      ⟨e, he, SubEdge.laid_eq_iff.mpr ⟨rfl, rfl, hup⟩⟩))
    rcases exists_after_or_head hp.across hy with hlast | ⟨z, hz, -, hz', -⟩
    · rw [Option.mem_def] at hlast hx
      rw [hfrom, ← hsource, Option.some.inj (hlast.symm.trans hx)]
    · have hto' : y.up.destinationUpf = some h.upf := hedge ▸ hto
      rw [hz'] at hto'
      exact absurd (List.mem_map.mpr ⟨z, hz, Option.some.inj hto'⟩) hnew
  · cases hops with
    | nil =>
      rintro _ ⟨⟩
      rcases hdown with ⟨-, hn3⟩ | ⟨-, e, he, -⟩
      · exact hn3
      · rw [hnil.mp rfl] at he
        cases he
    | cons x hops => exact hp.access
  · exact List.nodup_cons.mpr ⟨hnew, hp.nodup⟩

/-- **What a turn that keeps a hop pushes**: nothing at an N6 edge, else the UPF behind the uplink edge, and
above it at most the one behind the downlink edge. -/
theorem Turn.pushes_hop {st : DfsState} {top : Option PfcpAssociation} {rest : List (Option PfcpAssociation)}
    (ht : Turn g criteria st top rest) {h : Hop}
    (hperm : ((keptEdges g criteria st).map SubEdge.laid).Perm h.edges) :
    (h.up.type = .n6 ∧ (dfsStep g criteria st).stack = rest) ∨
    (h.up.leadsOut (insert top st.visited).eraseNone = true ∧ ∃ before,
      (dfsStep g criteria st).stack = before ++ h.up.destinationUpf :: rest ∧
      ∀ w ∈ before, w = h.down.destinationUpf) := by
  have hmark : ∀ e ∈ keptEdges g criteria st, e.uplink =
      e.edge.nextHop (insert top st.visited).eraseNone := fun e he => (ht.kept e he).2.2
  obtain ⟨a, b, hab, hlaid⟩ := eq_or_eq_of_perm_pair hperm
  simp only [SubEdge.laid_eq_iff] at hlaid
  have hstack := ht.pushes
  rw [hab] at hmark hstack
  have ha := hmark a List.mem_cons_self
  have hb := hmark b (List.mem_cons_of_mem _ List.mem_cons_self)
  have hn6 : h.up.type = .n6 → h.up.leadsOut (insert top st.visited).eraseNone = false := by
    intro htype
    simp [UpfGraphEdge.leadsOut, htype]
  rcases hlaid with ⟨⟨-, had, haf⟩, -, hbd, hbt⟩ | ⟨⟨-, had, hat⟩, -, hbd, hbf⟩
  · rw [had, haf] at ha
    rw [hbd, hbt] at hb
    have hshut := (Bool.or_eq_false_iff.mp ha.symm).2
    rcases Bool.or_eq_true_iff.mp hb.symm with htype | hopens
    · refine .inl ⟨of_decide_eq_true htype, ?_⟩
      simpa [had, hbd, hshut, hn6 (of_decide_eq_true htype)] using hstack
    · refine .inr ⟨hopens, [], ?_, fun w hw => by cases hw⟩
      simpa [had, hbd, hshut, hopens, SubEdge.destinationUpf] using hstack
  · rw [had, hat] at ha
    rw [hbd, hbf] at hb
    have hshut := (Bool.or_eq_false_iff.mp hb.symm).2
    rcases Bool.or_eq_true_iff.mp ha.symm with htype | hopens
    · refine .inl ⟨of_decide_eq_true htype, ?_⟩
      simpa [had, hbd, hshut, hn6 (of_decide_eq_true htype)] using hstack
    · refine .inr ⟨hopens, [h.down.destinationUpf], ?_, fun w hw => List.mem_singleton.mp hw⟩
      simpa [had, hbd, hshut, hopens, SubEdge.destinationUpf] using hstack

/-- A UPF on top of the stack that has no edges yet is the next one of the path. -/
theorem SearchInv.next {st : DfsState} {hops : List Hop} (hs : SearchInv g criteria st hops)
    {upf : PfcpAssociation} {rest : List (Option PfcpAssociation)} (hstack : st.stack = some upf :: rest)
    (hnew : upf ∉ hops.map (·.upf)) :
    Settled hops rest ∧ ∀ x ∈ hops.head?, x.up.type = .n9 ∧ x.up.destinationUpf = some upf := by
  rcases hs.stack with ⟨-, hsettled⟩ | ⟨before, upf', after, heq, hsettled, -, hhead⟩
  · exact absurd (hsettled upf (by rw [hstack]; exact List.mem_cons_self)) hnew
  · rw [hstack] at heq
    cases before with
    | nil =>
      cases heq
      exact ⟨hsettled, hhead⟩
    | cons w before =>
      cases heq
      exact absurd (hsettled upf List.mem_cons_self) hnew

theorem SearchInv.goesOn_cons (hg : OnlyN9Leads g) {st : DfsState} {hops : List Hop}
    (hs : SearchInv g criteria st hops) {h : Hop} {rest : List (Option PfcpAssociation)}
    (ht : Turn g criteria st (some h.upf) rest) (hsettled : Settled hops rest)
    (hperm : ((keptEdges g criteria st).map SubEdge.laid).Perm h.edges) (hdown : h.ComesBy st.sub) :
    GoesOn (h :: hops) (dfsStep g criteria st).stack := by
  rcases ht.pushes_hop hperm with ⟨hn6, hstack⟩ | ⟨hopens, before, hstack, hbefore⟩
  · rw [hstack]
    exact .inl ⟨⟨h, rfl, hn6⟩, fun u hu => List.mem_cons_of_mem _ (hsettled u hu)⟩
  obtain ⟨htype, hsome, hunvisited⟩ := notMem_of_leadsOut hopens
  obtain ⟨x, hx⟩ := Option.ne_none_iff_exists'.mp hsome
  rw [hx] at hstack hunvisited
  have hback : Settled (h :: hops) before := by
    intro u hu
    have hto := hbefore _ hu
    rcases hdown with ⟨-, hn3⟩ | ⟨-, e, he, -, -, hfrom⟩
    · -- an N3 edge leads nowhere
      obtain ⟨d, hd, hlaid⟩ := List.mem_map.mp (hperm.symm.subset List.mem_cons_self :
        (h.upf, h.down, false) ∈ (keptEdges g criteria st).map SubEdge.laid)
      have hnone := hg _ _ (mem_consideredEdges (ht.kept d hd).2.1).2.1
      rw [(SubEdge.laid_eq_iff.mp hlaid).2.1, hn3] at hnone
      rw [hnone (by decide)] at hto
      cases hto
    · rw [hfrom] at hto
      cases hto
      refine List.mem_cons_of_mem _ ((mem_nodes_iff hs.edges).mp ?_)
      exact List.mem_toFinset.mpr (List.mem_map_of_mem he)
  refine .inr ⟨before, x, rest, hstack, fun u hu => ?_, fun hmem => ?_, ?_⟩
  · exact (List.mem_append.mp hu).elim (hback u) fun hu => List.mem_cons_of_mem _ (hsettled u hu)
  · rcases List.mem_cons.mp hmem with rfl | hmem
    · exact hunvisited (Finset.mem_insert_self _ _)
    · exact hunvisited (Finset.mem_insert_of_mem (hs.visited x hmem))
  · rintro _ ⟨⟩
    exact ⟨htype, hx⟩

/-- A turn keeps two edges or none. -/
def TwoOrNone (g : UpfGraph) (criteria : UpfSelectionCriteria) (st : DfsState) : Prop :=
  (keptEdges g criteria st).length = 0 ∨ (keptEdges g criteria st).length = 2

theorem servesNetwork_of_serving (hsimple : criteria.dnais = ∅) {upf : PfcpAssociation} {e : UpfGraphEdge}
    (he : e ∈ servingEdges g criteria upf) : upf.servesNetwork criteria.snssai criteria.dnn = true := by
  unfold servingEdges at he
  split_ifs at he
  · have hserves := (List.mem_filter.mp he).2
    unfold servesNetwork at hserves
    rw [if_pos hsimple] at hserves
    split_ifs at hserves with h
    · exact h
    · cases hserves
  · cases he

theorem consideredEdges_subset {visited : Finset PfcpAssociation}
    {upf : PfcpAssociation} {e : UpfGraphEdge} (he : e ∈ consideredEdges g criteria visited upf) :
    e ∈ servingEdges g criteria upf := by
  obtain ⟨hnode, hmem, hserves⟩ := mem_consideredEdges he
  unfold servingEdges
  rw [if_pos hnode]
  exact List.mem_filter.mpr ⟨hmem, hserves⟩

/-- **A turn that passes on and keeps two edges or none** keeps a hop. -/
theorem SearchInv.exists_hop {st : DfsState} {hops : List Hop} (hs : SearchInv g criteria st hops)
    {upf : PfcpAssociation} {rest : List (Option PfcpAssociation)} (ht : Turn g criteria st (some upf) rest)
    (hpass : PassesOn g criteria st) (htwo : TwoOrNone g criteria st) :
    ∃ h : Hop, h.upf = upf ∧ ((keptEdges g criteria st).map SubEdge.laid).Perm h.edges ∧ h.ComesBy st.sub := by
  obtain ⟨-, ⟨e, he, hhop⟩, hothers⟩ := hpass upf rest ht.stack
  rw [← insert_visitedUpfs] at he hhop hothers
  have hn3 : e.type ≠ .n3 := by
    rcases UpfGraphEdge.type_of_nextHop hhop with htype | htype <;> rw [htype] <;> decide
  obtain ⟨c, hc, rfl⟩ := List.mem_map.mp (ht.others upf rfl e he hn3)
  obtain ⟨a, b, hab⟩ := List.length_eq_two.mp (htwo.resolve_left
    (Nat.pos_iff_ne_zero.mp (List.length_pos_of_mem hc)))
  have hone := ht.oneHop
  rw [hab, List.map_cons, List.map_cons, List.map_nil] at hone
  -- the other edge is one to come by
  have hlaid : ∀ d ∈ keptEdges g criteria st, d.laid =
      (upf, d.edge, d.edge.nextHop (insert (some upf) st.visited).eraseNone) := fun d hd =>
    SubEdge.laid_eq_iff.mpr ⟨Option.some.inj (ht.kept d hd).1, rfl, (ht.kept d hd).2.2⟩
  have hcomes : ∀ d ∈ keptEdges g criteria st, d.edge.nextHop (insert (some upf) st.visited).eraseNone = false →
      (Hop.mk upf d.edge c.edge).ComesBy st.sub := by
    intro d hd hshut
    have hmem := (ht.kept d hd).2.1
    rw [Option.some.inj (ht.kept d hd).1] at hmem
    refine (hothers d.edge hmem hshut).imp_left fun htype => ⟨?_, htype⟩
    -- where there are edges there is an N3 edge, and no other one is kept
    by_contra hne
    have hless := ht.n3 d hd htype
    have hmore := ht.access.2 hs.access.1
    rw [hs.access.2 hne] at hless
    omega
  rw [hab] at hc hlaid hcomes
  rcases List.mem_pair.mp hc with rfl | rfl
  · have hb : b.edge.nextHop (insert (some upf) st.visited).eraseNone = false := by
      cases hb : b.edge.nextHop (insert (some upf) st.visited).eraseNone with
      | false => rfl
      | true => simp [hhop, hb] at hone
    refine ⟨⟨upf, b.edge, c.edge⟩, rfl, ?_, hcomes b (by simp) hb⟩
    rw [hab, List.map_cons, List.map_cons, List.map_nil, hlaid c (by simp), hlaid b (by simp), hhop, hb]
    exact .swap _ _ _
  · have ha : a.edge.nextHop (insert (some upf) st.visited).eraseNone = false := by
      cases ha : a.edge.nextHop (insert (some upf) st.visited).eraseNone with
      | false => rfl
      | true => simp [hhop, ha] at hone
    refine ⟨⟨upf, a.edge, c.edge⟩, rfl, ?_, hcomes a (by simp) ha⟩
    rw [hab, List.map_cons, List.map_cons, List.map_nil, hlaid a (by simp), hlaid c (by simp), hhop, ha]
    exact .refl _

theorem Turn.kept_none {st : DfsState} {rest : List (Option PfcpAssociation)} (ht : Turn g criteria st none rest) :
    keptEdges g criteria st = [] := by
  rw [List.eq_nil_iff_forall_not_mem]
  exact fun e he => Option.some_ne_none _ (ht.kept e he).1

/-- **A turn that passes on keeps the invariant.** -/
theorem SearchInv.step (hsimple : criteria.dnais = ∅) (hg : OnlyN9Leads g) {st : DfsState} {hops : List Hop}
    (hs : SearchInv g criteria st hops) (hpass : PassesOn g criteria st) (htwo : TwoOrNone g criteria st) :
    ∃ hops, SearchInv g criteria (dfsStep g criteria st) hops := by
  rcases dfsStep_cases (g := g) hsimple st with ⟨-, heq⟩ | ⟨top, rest, ht⟩
  · rw [heq]
    exact ⟨hops, hs⟩
  cases top with
  | none => exact ⟨hops, hs.of_nothing ht ht.kept_none fun upf h => nomatch h⟩
  | some upf =>
    -- the UPF is the next of the path
    have hnew : upf ∉ hops.map (·.upf) := fun hmem =>
      (hpass upf rest ht.stack).1 ((mem_nodes_iff hs.edges).mpr hmem)
    obtain ⟨h, rfl, hperm, hdown⟩ := hs.exists_hop ht hpass htwo
    obtain ⟨hsettled, hhead⟩ := hs.next ht.stack hnew
    obtain ⟨a, b, hab, hlaid⟩ := eq_or_eq_of_perm_pair hperm
    refine ⟨h :: hops, hs.path.cons hs.edges hnew hhead hdown, ?_, ?_, ?_, ?_, ?_, ?_⟩
    · rw [ht.edges, List.map_append, List.flatMap_cons]
      exact (hs.edges.append hperm).trans List.perm_append_comm
    · intro e he
      rw [ht.edges] at he
      refine (List.mem_append.mp he).elim (hs.serving e) fun hk => ?_
      refine ⟨consideredEdges_subset (ht.kept e hk).2.1, fun hup => ?_⟩
      have hhop := (ht.kept e hk).2.2.symm.trans hup
      rcases UpfGraphEdge.type_of_nextHop hhop with htype | htype <;> unfold SubEdge.type <;> rw [htype] <;> decide
    · simp only [SubEdge.laid_eq_iff] at hlaid
      refine hs.associated.append (by rw [ht.edges, hab]) (ht.pair a b hab) ?_ ?_
      · rcases hlaid with ⟨ha, hb⟩ | ⟨ha, hb⟩ <;> rw [ha.1, hb.1]
      · rcases hlaid with ⟨ha, hb⟩ | ⟨ha, hb⟩ <;> rw [ha.2.2, hb.2.2] <;> rfl
    · refine ⟨ht.access.2 hs.access.1, fun _ => le_antisymm (ht.access.2 hs.access.1) ?_⟩
      rcases hdown with ⟨-, hn3⟩ | ⟨-, e, he, -⟩
      · obtain ⟨d, hd, hdown⟩ := List.mem_map.mp (hperm.symm.subset List.mem_cons_self :
          (h.upf, h.down, false) ∈ (keptEdges g criteria st).map SubEdge.laid)
        have htype : d.type = .n3 := (congrArg UpfGraphEdge.type (SubEdge.laid_eq_iff.mp hdown).2.1).trans hn3
        exact Nat.one_le_of_lt (ht.n3 d hd htype)
      · exact hs.access.2 (List.ne_nil_of_mem he) ▸ ht.access.1
    · intro upf hupf
      rw [ht.visited]
      rcases List.mem_cons.mp hupf with rfl | hupf
      · exact Finset.mem_insert_self _ _
      · exact Finset.mem_insert_of_mem (hs.visited upf hupf)
    · exact hs.goesOn_cons hg ht hsettled hperm hdown

theorem searchInv_iterate (hsimple : criteria.dnais = ∅) (hg : OnlyN9Leads g) {st : DfsState} {hops : List Hop}
    (hs : SearchInv g criteria st hops) {n : ℕ}
    (hpass : ∀ k < n, PassesOn g criteria ((dfsStep g criteria)^[k] st))
    (htwo : ∀ k < n, TwoOrNone g criteria ((dfsStep g criteria)^[k] st)) :
    ∃ hops, SearchInv g criteria ((dfsStep g criteria)^[n] st) hops := by
  induction n with
  | zero => exact ⟨hops, hs⟩
  | succ n ih =>
    obtain ⟨hops, ih⟩ := ih (fun k hk => hpass k (Nat.lt_succ_of_lt hk)) fun k hk => htwo k (Nat.lt_succ_of_lt hk)
    rw [Function.iterate_succ_apply']
    exact ih.step hsimple hg (hpass n (Nat.lt_succ_self n)) (htwo n (Nat.lt_succ_self n))

/-- **Where the counters agree in the end**, each turn has kept two edges or none. -/
theorem twoOrNone_of_counters (hsimple : criteria.dnais = ∅) {n : ℕ} {st : DfsState}
    (hle : st.sub.associatedEdgeCount ≤ st.sub.totalEdgeCount)
    (hend : ((dfsStep g criteria)^[n] st).sub.totalEdgeCount =
      ((dfsStep g criteria)^[n] st).sub.associatedEdgeCount) :
    st.sub.totalEdgeCount = st.sub.associatedEdgeCount ∧
      ∀ k < n, TwoOrNone g criteria ((dfsStep g criteria)^[k] st) := by
  induction n generalizing st with
  | zero => exact ⟨hend, fun k hk => absurd hk (Nat.not_lt_zero k)⟩
  | succ n ih =>
    have hcounts : (dfsStep g criteria st).sub.totalEdgeCount =
          st.sub.totalEdgeCount + (keptEdges g criteria st).length ∧
        (dfsStep g criteria st).sub.associatedEdgeCount =
          st.sub.associatedEdgeCount + if (keptEdges g criteria st).length = 2 then 2 else 0 := by
      rcases dfsStep_cases (g := g) hsimple st with ⟨-, heq⟩ | ⟨top, rest, ht⟩
      · rw [keptEdges_nil heq, heq]
        exact ⟨rfl, rfl⟩
      · exact ⟨ht.total, ht.associated⟩
    obtain ⟨htotal, hassociated⟩ := hcounts
    obtain ⟨hsame, hlater⟩ := ih (by split_ifs at hassociated <;> omega) hend
    have hnow : TwoOrNone g criteria st := by
      unfold TwoOrNone
      split_ifs at hassociated <;> omega
    refine ⟨by split_ifs at hassociated <;> omega, fun k hk => ?_⟩
    cases k with
    | zero => exact hnow
    | succ k => exact hlater k (Nat.lt_of_succ_lt_succ hk)

/-- **A search that has passed on to its end has found a usable path.** -/
theorem SearchInv.usablePath (hsimple : criteria.dnais = ∅) {st : DfsState} {hops : List Hop} (hs : SearchInv g criteria st hops)
    (hstack : st.stack = []) : UsablePath criteria st.sub := by
  refine ⟨fun e he => servesNetwork_of_serving hsimple (hs.serving e he).1, hs.associated, hops, hs.path, ?_,
    hs.edges⟩
  rcases hs.stack with ⟨hexit, -⟩ | ⟨before, upf, after, heq, -⟩
  · exact hexit
  · rw [hstack] at heq
    cases before <;> cases heq

/-! ## A usable path was found by turns that pass on -/

theorem UsablePath.length_edgesOf_le {sub : SubGraph} (h : UsablePath criteria sub) (upf : PfcpAssociation) :
    (sub.edgesOf upf).length ≤ 2 := by
  obtain ⟨hops, hpath, -, hperm⟩ := h.path
  have hcount := List.nodup_iff_count_le_one.mp hpath.nodup upf
  rw [length_edgesOf hperm]
  omega

theorem Turn.length_le (hsimple : criteria.dnais = ∅) {st : DfsState} {upf : PfcpAssociation}
    {rest : List (Option PfcpAssociation)} (ht : Turn g criteria st (some upf) rest) (n : ℕ) :
    (st.sub.edgesOf upf).length + (keptEdges g criteria st).length ≤
      (((dfsStep g criteria)^[n + 1] st).sub.edgesOf upf).length := by
  have hfilter : (keptEdges g criteria st).filter (·.source = upf) = keptEdges g criteria st := by
    rw [List.filter_eq_self]
    exact fun e he => decide_eq_true (Option.some.inj (ht.kept e he).1)
  have hstays := ((edges_stay (g := g) hsimple n (dfsStep g criteria st)).filter (·.source = upf)).length_le
  rw [ht.edges, List.filter_append, hfilter, List.length_append] at hstays
  exact hstays

theorem Turn.kept_eq_nil (hsimple : criteria.dnais = ∅) {st : DfsState} {top : Option PfcpAssociation}
    {rest : List (Option PfcpAssociation)} (ht : Turn g criteria st top rest) {n : ℕ}
    (husable : UsablePath criteria ((dfsStep g criteria)^[n + 1] st).sub)
    (htwo : ∀ upf, top = some upf → 2 ≤ (st.sub.edgesOf upf).length) : keptEdges g criteria st = [] := by
  cases top with
  | none =>
    rw [List.eq_nil_iff_forall_not_mem]
    exact fun e he => Option.some_ne_none _ (ht.kept e he).1
  | some upf =>
    have hlen := (ht.length_le hsimple n).trans (husable.length_edgesOf_le upf)
    have hupf := htwo upf rfl
    exact List.length_eq_zero_iff.mp (by omega)

/-- **Where all UPFs on the stack have their edges, no edge is added any more.** -/
theorem edges_of_settled (hsimple : criteria.dnais = ∅) {n : ℕ} {st : DfsState}
    (husable : UsablePath criteria ((dfsStep g criteria)^[n] st).sub)
    (htwo : ∀ upf, some upf ∈ st.stack → 2 ≤ (st.sub.edgesOf upf).length) :
    ((dfsStep g criteria)^[n] st).sub.edges = st.sub.edges := by
  induction n generalizing st with
  | zero => rfl
  | succ n ih =>
    rcases dfsStep_cases (g := g) hsimple st with ⟨-, heq⟩ | ⟨top, rest, ht⟩
    · rw [Function.iterate_succ_apply, heq] at husable ⊢
      exact ih husable htwo
    · have hkept := ht.kept_eq_nil hsimple husable fun upf hupf => htwo upf (by
        rw [ht.stack, hupf]
        exact List.mem_cons_self)
      obtain ⟨hstack, hedges⟩ := ht.stack_of_nil hkept
      rw [Function.iterate_succ_apply] at husable ⊢
      rw [ih husable fun upf hupf => ?_, hedges]
      unfold SubGraph.edgesOf
      rw [hedges]
      refine htwo upf ?_
      rw [ht.stack]
      rw [hstack] at hupf
      exact List.mem_cons_of_mem _ hupf

theorem SearchInv.two_le {st : DfsState} {hops : List Hop} (hs : SearchInv g criteria st hops)
    {upf : PfcpAssociation} (hupf : upf ∈ hops.map (·.upf)) : 2 ≤ (st.sub.edgesOf upf).length := by
  rw [length_edgesOf hs.edges]
  have := List.count_pos_iff.mpr hupf
  omega

/-- **Where the search has found a usable path, a turn keeps two edges of a new UPF**, one in each direction. -/
theorem SearchInv.keeps_two (hsimple : criteria.dnais = ∅) {st : DfsState} {hops : List Hop}
    (hs : SearchInv g criteria st hops) {upf : PfcpAssociation} {rest : List (Option PfcpAssociation)}
    (ht : Turn g criteria st (some upf) rest) (hnew : upf ∉ hops.map (·.upf)) {n : ℕ}
    (husable : UsablePath criteria ((dfsStep g criteria)^[n + 1] st).sub) :
    ∃ h : Hop, h.upf = upf ∧ ((keptEdges g criteria st).map SubEdge.laid).Perm h.edges := by
  have hstays : st.sub.edges ++ keptEdges g criteria st <+: ((dfsStep g criteria)^[n + 1] st).sub.edges := by
    rw [← ht.edges]
    exact edges_stay hsimple n _
  have hlen := (ht.length_le hsimple n).trans (husable.length_edgesOf_le upf)
  match hkept : keptEdges g criteria st with
  | [] =>
    -- the path would end before the UPF
    obtain ⟨hsettled, hhead⟩ := hs.next ht.stack hnew
    obtain ⟨hstack, hedges⟩ := ht.stack_of_nil hkept
    have hsame : ((dfsStep g criteria)^[n + 1] st).sub.edges = st.sub.edges := by
      rw [Function.iterate_succ_apply] at husable ⊢
      rw [edges_of_settled hsimple husable fun u hu => ?_, hedges]
      unfold SubGraph.edgesOf
      rw [hedges]
      exact hs.two_le (hsettled u (hstack ▸ hu))
    obtain ⟨found, hfound, ⟨x, hx, hn6⟩, hperm⟩ := husable.path
    rw [hsame] at hperm
    have hboth := hperm.symm.trans hs.edges
    cases hops with
    | nil =>
      have hmem := hboth.subset (mem_edges_up.mpr ⟨x, List.mem_of_mem_head? hx, rfl, rfl⟩)
      cases hmem
    | cons h hops =>
      obtain ⟨htype, hdest⟩ := hhead h rfl
      obtain ⟨y, hy, -, hup⟩ := mem_edges_up.mp (hboth.symm.subset
        (mem_edges_up.mpr ⟨h, List.mem_cons_self, rfl, rfl⟩))
      rcases exists_after_or_head hfound.across hy with hlast | ⟨z, hz, -, hz', -⟩
      · obtain rfl := Option.some.inj (Option.mem_def.mp hlast ▸ hx : some y = some x)
        rw [hup, htype] at hn6
        cases hn6
      · rw [hup, hdest] at hz'
        have hmem : upf ∈ found.map (·.upf) := List.mem_map.mpr ⟨z, hz, (Option.some.inj hz').symm⟩
        exact absurd ((mem_nodes_iff hs.edges).mp ((mem_nodes_iff hperm).mpr hmem)) hnew
  | [a] =>
    -- an edge without another one
    have ha : ((dfsStep g criteria)^[n + 1] st).sub.edges[st.sub.edges.length]? = some a := by
      obtain ⟨l, hl⟩ := hstays
      rw [← hl, hkept]
      simp
    obtain ⟨j, f, hj, -⟩ := husable.associated _ a ha
    have hnone := ht.single (by simp [hkept]) a (by rw [hkept]; exact List.mem_cons_self)
    rw [hnone] at hj
    cases hj
  | [a, b] =>
    have ha : ((dfsStep g criteria)^[n + 1] st).sub.edges[st.sub.edges.length]? = some a := by
      obtain ⟨l, hl⟩ := hstays
      rw [← hl, hkept]
      simp
    have hb : ((dfsStep g criteria)^[n + 1] st).sub.edges[st.sub.edges.length + 1]? = some b := by
      obtain ⟨l, hl⟩ := hstays
      rw [← hl, hkept]
      simp
    obtain ⟨j, f, hj, hf, -, -, hup⟩ := husable.associated _ a ha
    rw [(ht.pair a b hkept).1] at hj
    cases hj
    obtain rfl := Option.some.inj (hb.symm.trans hf)
    have hsource : ∀ e ∈ [a, b], e.source = upf := fun e he => Option.some.inj (ht.kept e (hkept ▸ he)).1
    have hasource := hsource a List.mem_cons_self
    have hbsource := hsource b (List.mem_cons_of_mem _ List.mem_cons_self)
    cases hbu : b.uplink with
    | true =>
      rw [hbu] at hup
      refine ⟨⟨upf, a.edge, b.edge⟩, rfl, ?_⟩
      rw [List.map_cons, List.map_cons, List.map_nil, SubEdge.laid_eq_iff.mpr ⟨hasource, rfl, hup⟩,
        SubEdge.laid_eq_iff.mpr ⟨hbsource, rfl, hbu⟩]
      exact .refl _
    | false =>
      rw [hbu] at hup
      refine ⟨⟨upf, b.edge, a.edge⟩, rfl, ?_⟩
      rw [List.map_cons, List.map_cons, List.map_nil, SubEdge.laid_eq_iff.mpr ⟨hasource, rfl, hup⟩,
        SubEdge.laid_eq_iff.mpr ⟨hbsource, rfl, hbu⟩]
      exact .swap _ _ _
  | a :: b :: c :: l =>
    rw [hkept] at hlen
    simp only [List.length_cons] at hlen
    omega

theorem Turn.uplink_before (hsimple : criteria.dnais = ∅) {st : DfsState} {upf : PfcpAssociation}
    {rest : List (Option PfcpAssociation)} (ht : Turn g criteria st (some upf) rest) {n : ℕ} {e : SubEdge}
    (he : e ∈ ((dfsStep g criteria)^[n + 1] st).sub.edges) (hup : e.uplink = true) (htype : e.type = .n9)
    (hto : e.destinationUpf = some upf) : e ∈ st.sub.edges := by
  rcases (later_uplink (g := g) hsimple n (dfsStep g criteria st)).2 e he hup htype with hmem | hnot
  · rw [ht.edges] at hmem
    refine (List.mem_append.mp hmem).elim id fun hk => ?_
    -- an edge that was kept in this turn leads to another UPF
    have hunvisited := notMem_of_uplink (hup ▸ (ht.kept e hk).2.2) htype
    rw [hto] at hunvisited
    exact absurd (Finset.mem_insert_self _ _) hunvisited
  · rw [hto, ht.visited] at hnot
    exact absurd (Finset.mem_insert_self _ _) hnot

/-- **A UPF that comes again keeps an edge again.** -/
theorem SearchInv.kept_ne_nil (hsimple : criteria.dnais = ∅) {st : DfsState} {hops : List Hop}
    (hs : SearchInv g criteria st hops) {upf : PfcpAssociation} {rest : List (Option PfcpAssociation)}
    (ht : Turn g criteria st (some upf) rest) (hupf : upf ∈ hops.map (·.upf)) : keptEdges g criteria st ≠ [] := by
  obtain ⟨x, hx, rfl⟩ := List.mem_map.mp hupf
  obtain ⟨e, he, hlaid⟩ := List.mem_map.mp (hs.edges.symm.subset (mem_edges_up.mpr ⟨x, hx, rfl, rfl⟩))
  obtain ⟨hsource, -, hup⟩ := SubEdge.laid_eq_iff.mp hlaid
  obtain ⟨hserving, htype⟩ := hs.serving e he
  rw [hsource] at hserving
  have hfront : ∃ f ∈ consideredEdges g criteria (insert (some x.upf) st.visited).eraseNone x.upf, f.type ≠ .n3 := by
    unfold consideredEdges
    rw [if_pos hsimple]
    by_cases hhop : ∃ f ∈ servingEdges g criteria x.upf,
        f.nextHop (insert (some x.upf) st.visited).eraseNone = true
    · obtain ⟨f, hf, hhop⟩ := exists_mem_beforeSecond hhop
      refine ⟨f, hf, ?_⟩
      rcases UpfGraphEdge.type_of_nextHop hhop with htype | htype <;> rw [htype] <;> decide
    · rw [beforeSecond_of_le]
      · exact ⟨e.edge, hserving, htype hup⟩
      · rw [List.countP_eq_zero.mpr fun f hf hf' => hhop ⟨f, hf, hf'⟩]
        exact Nat.zero_le 1
  obtain ⟨f, hf, hftype⟩ := hfront
  have hmem := ht.others x.upf rfl f hf hftype
  intro hnil
  rw [hnil] at hmem
  cases hmem

/-- **Where the search has found a usable path, every turn passed on.** -/
theorem SearchInv.passesOn (hsimple : criteria.dnais = ∅) {st : DfsState} {hops : List Hop}
    (hs : SearchInv g criteria st hops) {n : ℕ}
    (husable : UsablePath criteria ((dfsStep g criteria)^[n + 1] st).sub) : PassesOn g criteria st := by
  intro upf rest hstack
  rcases dfsStep_cases (g := g) hsimple st with ⟨hnil, -⟩ | ⟨_, _, ht⟩
  · rw [hnil] at hstack
    cases hstack
  obtain ⟨rfl, rfl⟩ := List.cons.inj (ht.stack.symm.trans hstack)
  have hnew : upf ∉ hops.map (·.upf) := by
    intro hmem
    refine hs.kept_ne_nil hsimple ht hmem (ht.kept_eq_nil hsimple husable ?_)
    rintro _ ⟨⟩
    exact hs.two_le hmem
  obtain ⟨h, rfl, hkept⟩ := hs.keeps_two hsimple ht hnew husable
  have hmark : ∀ d ∈ keptEdges g criteria st, d.uplink = d.edge.nextHop (insert h.upf st.visitedUpfs) := by
    intro d hd
    rw [← insert_visitedUpfs]
    exact (ht.kept d hd).2.2
  refine ⟨fun hnode => hnew ((mem_nodes_iff hs.edges).mp hnode), ?_, fun e he hshut => ?_⟩
  · obtain ⟨d, hd, hlaid⟩ := List.mem_map.mp (hkept.symm.subset (by simp [Hop.edges]) :
      (h.upf, h.up, true) ∈ (keptEdges g criteria st).map SubEdge.laid)
    obtain ⟨hsource, -, hup⟩ := SubEdge.laid_eq_iff.mp hlaid
    refine ⟨d.edge, ?_, (hmark d hd).symm.trans hup⟩
    have hmem := (ht.kept d hd).2.1
    rwa [insert_visitedUpfs, hsource] at hmem
  · by_cases hn3 : e.type = .n3
    · exact .inl hn3
    -- the edge is kept, and it is that by which the path comes
    obtain ⟨d, hd, rfl⟩ := List.mem_map.mp (ht.others h.upf rfl e (by rwa [insert_visitedUpfs]) hn3)
    have hdown : d.laid = (h.upf, h.down, false) := by
      have hlaid := hkept.subset (List.mem_map_of_mem hd)
      refine (List.mem_pair.mp hlaid).resolve_right fun heq => ?_
      have hup := (SubEdge.laid_eq_iff.mp heq).2.2
      rw [hmark d hd, hshut] at hup
      cases hup
    rw [(SubEdge.laid_eq_iff.mp hdown).2.1] at hn3 ⊢
    obtain ⟨found, hfound, -, hperm⟩ := husable.path
    have hmem : (h.upf, h.down, false) ∈ ((dfsStep g criteria)^[n + 1] st).sub.edges.map SubEdge.laid := by
      refine ((edges_stay (g := g) hsimple n (dfsStep g criteria st)).map _).subset ?_
      rw [ht.edges, List.map_append]
      exact List.mem_append_right _ (hdown ▸ List.mem_map_of_mem hd)
    obtain ⟨x, hx, hxupf, hxdown⟩ := mem_edges_down.mp (hperm.subset hmem)
    rcases exists_before_or_last hfound.across hx with hlast | ⟨y, hy, htype, hto, hback, hfrom⟩
    · exact absurd (hxdown ▸ hfound.access x hlast) hn3
    · obtain ⟨c, hc, hlaid⟩ := List.mem_map.mp (hperm.symm.subset (mem_edges_up.mpr ⟨y, hy, rfl, rfl⟩))
      obtain ⟨hsource, hedge, hup⟩ := SubEdge.laid_eq_iff.mp hlaid
      rw [← hedge] at htype hto
      rw [hxupf] at hto
      rw [hxdown] at hback hfrom
      exact .inr ⟨hback, c, ht.uplink_before hsimple hc hup htype hto, hup, hto, hsource ▸ hfrom⟩

/-- **A search whose counters agree finds a usable path exactly when each of its turns passes on.** -/
theorem usablePath_iff (hsimple : criteria.dnais = ∅) (hg : OnlyN9Leads g) {start : PfcpAssociation}
    {visited : Finset (Option PfcpAssociation)} {n : ℕ}
    (hend : ((dfsStep g criteria)^[n] ⟨[some start], visited, .empty⟩).stack = [])
    (hcounters : ((dfsStep g criteria)^[n] ⟨[some start], visited, .empty⟩).sub.totalEdgeCount =
      ((dfsStep g criteria)^[n] ⟨[some start], visited, .empty⟩).sub.associatedEdgeCount) :
    UsablePath criteria ((dfsStep g criteria)^[n] ⟨[some start], visited, .empty⟩).sub ↔
      ∀ k, PassesOn g criteria ((dfsStep g criteria)^[k] ⟨[some start], visited, .empty⟩) := by
  have hstart := searchInv_start g criteria start visited
  -- the turns after the end change nothing
  have hstay : ∀ m, (dfsStep g criteria)^[m + n] ⟨[some start], visited, .empty⟩ =
      (dfsStep g criteria)^[n] ⟨[some start], visited, .empty⟩ := by
    intro m
    rw [Function.iterate_add_apply]
    exact Function.iterate_fixed (dfsStep_of_nil hend) m
  have htwo : ∀ k, TwoOrNone g criteria ((dfsStep g criteria)^[k] ⟨[some start], visited, .empty⟩) := by
    intro k
    refine (twoOrNone_of_counters (n := k + 1 + n) hsimple (le_refl 0) ?_).2 k (by omega)
    rw [hstay]
    exact hcounters
  constructor
  · intro husable k
    induction k using Nat.strong_induction_on with
    | _ k ih =>
      obtain ⟨hops, hs⟩ := searchInv_iterate hsimple hg hstart ih fun k _ => htwo k
      refine hs.passesOn hsimple (n := n) ?_
      rw [← Function.iterate_add_apply, show n + 1 + k = (k + 1) + n by omega, hstay]
      exact husable
  · intro hpass
    obtain ⟨hops, hs⟩ := searchInv_iterate hsimple hg hstart (n := n) (fun k _ => hpass k) fun k _ => htwo k
    exact hs.usablePath hsimple hend

/-! ## The selection -/

theorem createSubgraphDfs_eq_some {fuel : ℕ} {st r : DfsState}
    (h : createSubgraphDfs g criteria fuel st = some r) :
    ∃ n, (dfsStep g criteria)^[n] st = r ∧ r.stack = [] := by
  induction fuel generalizing st with
  | zero =>
    unfold createSubgraphDfs at h
    split at h
    · cases h
      exact ⟨0, rfl, ‹_›⟩
    · cases h
  | succ fuel ih =>
    unfold createSubgraphDfs at h
    split at h
    · cases h
      exact ⟨0, rfl, ‹_›⟩
    · obtain ⟨n, hn, hr⟩ := ih h
      exact ⟨n + 1, hn, hr⟩

/-- **The search that a selected graph comes from.** -/
def FoundBy (g : UpfGraph) (criteria : UpfSelectionCriteria) (order : List PfcpAssociation) (sub : SubGraph)
    (st : DfsState) : Prop :=
  Starts g criteria criteria.dnais order ⟨some .empty, ∅, false⟩ st ∧
    ∃ n, ((dfsStep g criteria)^[n] st).stack = [] ∧ ((dfsStep g criteria)^[n] st).sub = sub

theorem exists_starts {dnais : Finset String} {fuel : ℕ} {order : List PfcpAssociation} {s : SelectState}
    {sub : SubGraph}
    (h : selectLoop g (createSubgraphDfs g criteria fuel) dnais order s = some (some sub, true)) :
    sub.verify dnais = true ∧ ∃ st, Starts g criteria dnais order s st ∧
      ∃ n, ((dfsStep g criteria)^[n] st).stack = [] ∧ ((dfsStep g criteria)^[n] st).sub = sub := by
  induction order generalizing s with
  | nil => cases (Prod.mk.inj (Option.some.inj h)).2
  | cons upf order ih =>
    by_cases hvisited : some upf ∈ s.visited
    · rw [selectLoop_visited hvisited] at h
      obtain ⟨hverify, st, hst, hend⟩ := ih h
      exact ⟨hverify, st, .visited upf order s st hvisited hst, hend⟩
    cases hn3 : (s.see g upf).hasN3 with
    | false =>
      rw [selectLoop_noN3 hvisited hn3] at h
      obtain ⟨hverify, st, hst, hend⟩ := ih h
      exact ⟨hverify, st, .noN3 upf order s st hvisited hn3 hst, hend⟩
    | true =>
      cases hr : createSubgraphDfs g criteria fuel ((s.see g upf).start upf) with
      | none =>
        rw [selectLoop_stuck hvisited hn3 hr] at h
        cases h
      | some r =>
        cases hverify : r.sub.verify dnais with
        | true =>
          rw [selectLoop_found hvisited hn3 hr hverify] at h
          cases h
          obtain ⟨n, hn, hstack⟩ := createSubgraphDfs_eq_some hr
          exact ⟨hverify, _, .here upf order s hvisited hn3, n, hn ▸ hstack, by rw [hn]⟩
        | false =>
          rw [selectLoop_next hvisited hn3 hr hverify] at h
          obtain ⟨hfound, st, hst, hend⟩ := ih h
          exact ⟨hfound, st, .next upf order s st r fuel hvisited hn3 hr hverify hst, hend⟩

theorem Starts.eq_empty {dnais : Finset String} {order : List PfcpAssociation} {s : SelectState} {st : DfsState}
    (h : Starts g criteria dnais order s st) (hs : s.subGraphPtr = some .empty) :
    ∃ start visited, st = ⟨[some start], visited, .empty⟩ := by
  induction h with
  | here upf order s => exact ⟨upf, s.visited, by simp [SelectState.start, SelectState.see, hs]⟩
  | visited _ _ _ _ _ _ ih => exact ih hs
  | noN3 _ _ _ _ _ _ _ ih => exact ih hs
  | next upf order s st r fuel _ _ _ _ _ ih =>
    refine ih ?_
    simp only [SelectState.fail, SelectState.see, hs, Option.map_some]
    rfl

/-- **A selected graph is a usable path exactly when each turn of the search that it comes from passes on.** -/
theorem selectedPath_iff (g : UpfGraph) (hg : OnlyN9Leads g) (criteria : UpfSelectionCriteria)
    (hsimple : criteria.dnais = ∅) (order : List PfcpAssociation) (fuel : ℕ) (sub : SubGraph)
    (hselect : selectUpfNodes g fuel order criteria = some (some sub)) :
    (∃ st, FoundBy g criteria order sub st) ∧
    ∀ st, FoundBy g criteria order sub st →
      (UsablePath criteria sub ↔ ∀ k, PassesOn g criteria ((dfsStep g criteria)^[k] st)) := by
  unfold selectUpfNodes at hselect
  obtain ⟨⟨ptr, found⟩, hloop, hr⟩ := Option.map_eq_some_iff.mp hselect
  cases found with
  | false => cases hr
  | true =>
    cases hr
    obtain ⟨hverify, hstart⟩ := exists_starts hloop
    refine ⟨hstart, ?_⟩
    rintro st ⟨hstarts, n, hend, rfl⟩
    obtain ⟨start, visited, rfl⟩ := hstarts.eq_empty rfl
    refine usablePath_iff hsimple hg hend ?_
    -- the graph is verified
    unfold SubGraph.verify at hverify
    simp only [Bool.and_eq_true, decide_eq_true_eq] at hverify
    exact hverify.1.1.1

end Search

/-! ## Two graphs -/

/-- The exit of the detour. -/
def detourX : PfcpAssociation := ⟨4, "x", [⟨.n6, "", [], ""⟩, ⟨.n9, "a", [], ""⟩], []⟩

/-- The UPF with links to all others. -/
def detourA : PfcpAssociation := ringUpf 1 "a" ["b", "x", "c"]

/-- A UPF with links to C and A. -/
def detourB : PfcpAssociation := ringUpf 2 "b" ["c", "a"]

/-- A UPF with links to B and A. -/
def detourC : PfcpAssociation := ringUpf 3 "c" ["b", "a"]

/-- The three UPFs and the exit. -/
def detour : UpfGraph :=
  (((UpfGraph.empty.insertIntoGraph [detourC] detourC).insertIntoGraph [detourC, detourB] detourB).insertIntoGraph
    [detourC, detourB, detourX] detourX).insertIntoGraph [detourB, detourX, detourC, detourA] detourA

theorem inserts_detour : Inserts .empty [detourC, detourB, detourX, detourA] detour := by
  refine .cons _ _ _ _ [detourC] (by decide) (by decide) (.cons _ _ _ _ [detourC, detourB] (by decide) (by decide)
    (.cons _ _ _ _ [detourC, detourB, detourX] (by decide) (by decide) (.cons _ _ _ _
      [detourB, detourX, detourC, detourA] (by decide) (by decide) (.nil _))))

/-- What is selected on the detour, from its first UPF. -/
def detourSession : SubGraph :=
  ((selectUpfNodes detour 10 [detourA, detourB, detourC, detourX] anyCriteria).getD none).getD .empty

/-- **On the detour a graph is selected that is no usable path**: the path goes from A to B and to C, which pairs
two downlink edges; the N6 edge is that of X, for which A was on the stack again. -/
theorem not_usablePath_detour : Inserts .empty [detourC, detourB, detourX, detourA] detour ∧
    [detourA, detourB, detourC, detourX].toFinset = detour.nodes ∧
    selectUpfNodes detour 10 [detourA, detourB, detourC, detourX] anyCriteria = some (some detourSession) ∧
    ¬ UsablePath anyCriteria detourSession := by
  refine ⟨inserts_detour, by decide, by decide, fun h => ?_⟩
  obtain ⟨e, f, he, hf, hassociated, hup, hup'⟩ : ∃ e f : SubEdge, detourSession.edges[8]? = some e ∧
      detourSession.edges[9]? = some f ∧ e.associatedEdge = some 9 ∧ e.uplink = false ∧ f.uplink = false :=
    ⟨detourSession.edges.get ⟨8, by decide⟩, detourSession.edges.get ⟨9, by decide⟩, by decide⟩
  obtain ⟨j, f', hj, hf', -, -, hmark⟩ := h.associated 8 e he
  rw [hassociated] at hj
  cases hj
  obtain rfl := Option.some.inj (hf.symm.trans hf')
  rw [hup, hup'] at hmark
  cases hmark

/-- The two UPFs of the link. -/
def linkGraph : UpfGraph := (UpfGraph.empty.insertIntoGraph [anchorUpf] anchorUpf).insertIntoGraph
  [accessUpf, anchorUpf] accessUpf

theorem inserts_link : Inserts .empty [anchorUpf, accessUpf] linkGraph :=
  .cons _ _ _ _ [anchorUpf] (by decide) (by decide)
    (.cons _ _ _ _ [accessUpf, anchorUpf] (by decide) (by decide) (.nil _))

/-- What is selected on the link. -/
def linkSession : SubGraph :=
  ((selectUpfNodes linkGraph 2 [anchorUpf, accessUpf] anyCriteria).getD none).getD .empty

/-- **Two UPFs and their N9 link** are a path: from the N3 edge over N9 to the N6 edge. -/
theorem usablePath_link : (linkSession.edges.map (·.type)) = [.n3, .n9, .n6, .n9] ∧
    UsablePath anyCriteria linkSession := by
  refine ⟨by decide, ((selectedPath_iff linkGraph (inserts_link.onlyN9Leads onlyN9Leads_empty) anyCriteria rfl
    [anchorUpf, accessUpf] 2 linkSession (by decide)).2 ⟨[some accessUpf], ∅, .empty⟩ ⟨?_, 2, by decide, by decide⟩).mpr
      fun k => ?_⟩
  · exact .noN3 anchorUpf _ _ _ (by decide) (by decide) (.here accessUpf [] _ (by decide) (by decide))
  · match k with
    | 0 =>
      rintro _ _ ⟨⟩
      decide
    | 1 =>
      intro upf rest hstack
      have htop : ((dfsStep linkGraph anyCriteria)^[1] ⟨[some accessUpf], ∅, .empty⟩).stack = [some anchorUpf] := by
        decide
      obtain rfl := Option.some.inj (List.cons.inj (htop.symm.trans hstack)).1
      decide
    | k + 2 =>
      have hend : ((dfsStep linkGraph anyCriteria)^[2] ⟨[some accessUpf], ∅, .empty⟩).stack = [] := by decide
      rw [Function.iterate_add_apply, Function.iterate_fixed (dfsStep_of_nil hend)]
      intro upf rest hstack
      rw [hend] at hstack
      cases hstack

end Oai5g.Smf
