import Oai5g.Smf.Selection

/-!
# UPFs that stop answering

* `PfcpAssociations`: the graph of the associations and the retries of their heartbeat procedures;
  `insertAssociation`, `initiateHeartbeatRequest`, `timeoutHeartbeatRequest`.
* `SilentUpfRemoved`: what a run leaves of a UPF that does not answer; `Isolated.neverSelected`: no session gets
  it any more.
* **`silentUpf_removed`**: enough time-outs remove it if its hash survives the conversion to `int32_t` and
  no other node has it.
-/

namespace Oai5g.Smf

/-- `PFCP_ASSOCIATION_HEARTBEAT_MAX_RETRIES` -/
def PFCP_ASSOCIATION_HEARTBEAT_MAX_RETRIES : ℕ := 2

/-- `PFCP_MAX_ASSOCIATIONS` -/
def PFCP_MAX_ASSOCIATIONS : ℕ := 16

/-! ## Associations -/

/-- `pfcp_associations`. -/
structure PfcpAssociations where
  associationsGraph : UpfGraph
  /-- `num_retries_timer_heartbeat` -/
  numRetries : PfcpAssociation → ℕ

/-- Removes an association and the edges to it. -/
def UpfGraph.removeAssociation (g : UpfGraph) : Option PfcpAssociation → UpfGraph
  | none => g
  | some a =>
    if a ∈ g.nodes then
      { nodes := g.nodes.erase a
        edges := fun b => if b = a then [] else (g.edges b).filter fun e => e.destinationUpf ≠ some a }
    else g

/-- `int32_t` of a `size_t`. -/
def narrowHash (hash : UInt64) : Int32 := hash.toUInt32.toInt32

/-- `size_t` of an `int32_t`. -/
def widenHash (hash : Int32) : UInt64 := hash.toInt64.toUInt64

/-- The calls, each with the order in which the hash map is traversed. -/
inductive HeartbeatCall
  | insert (order : List PfcpAssociation) (b : PfcpAssociation)
  | initiate (order : List PfcpAssociation) (hash : UInt64)
  | timeout (order : List PfcpAssociation) (hash : UInt64)

namespace PfcpAssociations

-- `hashOf` is `hash_node_id`
variable (hashOf : PfcpAssociation → UInt64) (s : PfcpAssociations)

/-- `get_association` by hash: the first node that has it. -/
def getAssociation (order : List PfcpAssociation) (hash : UInt64) : Option PfcpAssociation :=
  order.find? fun b => hashOf b = hash

/-- `remove_association(const int32_t&)` -/
def removeAssociation (order : List PfcpAssociation) (hashNodeId : Int32) : PfcpAssociations :=
  { s with
    associationsGraph :=
      s.associationsGraph.removeAssociation (getAssociation hashOf order (widenHash hashNodeId)) }

/-- `add_association` of a node without an association. -/
def insertAssociation (order : List PfcpAssociation) (b : PfcpAssociation) : PfcpAssociations :=
  if PFCP_MAX_ASSOCIATIONS ≤ s.associationsGraph.nodes.card then s
  else
    { associationsGraph := s.associationsGraph.insertIntoGraph order b
      numRetries := Function.update s.numRetries b 0 }

/-- `initiate_heartbeat_request` -/
def initiateHeartbeatRequest (order : List PfcpAssociation) (hash : UInt64) : PfcpAssociations :=
  match getAssociation hashOf order hash with
  | none => s
  | some b => { s with numRetries := Function.update s.numRetries b 0 }

/-- `timeout_heartbeat_request` -/
def timeoutHeartbeatRequest (order : List PfcpAssociation) (hash : UInt64) : PfcpAssociations :=
  match getAssociation hashOf order hash with
  | none => s
  | some b =>
    if s.numRetries b < PFCP_ASSOCIATION_HEARTBEAT_MAX_RETRIES then
      { s with numRetries := Function.update s.numRetries b (s.numRetries b + 1) }
    else s.removeAssociation hashOf order (narrowHash hash)

/-- One call. -/
def call (s : PfcpAssociations) : HeartbeatCall → PfcpAssociations
  | .insert order b => s.insertAssociation order b
  | .initiate order hash => s.initiateHeartbeatRequest hashOf order hash
  | .timeout order hash => s.timeoutHeartbeatRequest hashOf order hash

end PfcpAssociations

/-! ## The property -/

/-- The association is in the graph neither as a node nor as a destination. -/
structure Isolated (a : PfcpAssociation) (g : UpfGraph) : Prop where
  node : a ∉ g.nodes
  edges : ∀ b, ∀ e ∈ g.edges b, e.destinationUpf ≠ some a

/-- The other nodes and their edges to others are the same. -/
def KeepsOthers (a : PfcpAssociation) (g g' : UpfGraph) : Prop :=
  ∀ b, b ≠ a → (b ∈ g'.nodes ↔ b ∈ g.nodes) ∧
    ((g'.edges b).filter fun e => e.destinationUpf ≠ some a) =
      (g.edges b).filter fun e => e.destinationUpf ≠ some a

/-- No selection takes an edge at the association or to it. -/
def NeverSelected (a : PfcpAssociation) (g : UpfGraph) : Prop :=
  ∀ fuel order criteria rules sub, (selectUpfNodes g fuel order criteria = some (some sub) ∨
    selectUpfNodesPolicy g fuel order criteria rules = some (some sub)) →
    ∀ e ∈ sub.edges, e.source ≠ a ∧ e.edge.destinationUpf ≠ some a

/-- The call is a heartbeat time-out of the hash. -/
def HeartbeatCall.IsTimeout (hash : UInt64) : HeartbeatCall → Bool
  | .timeout _ h => h == hash
  | _ => false

open PfcpAssociations in
/-- **The UPF is gone after the run** and not selected again, and its time-outs changed nothing else of the
graph. -/
structure SilentUpfRemoved (hashOf : PfcpAssociation → UInt64) (a : PfcpAssociation) (s : PfcpAssociations)
    (calls : List HeartbeatCall) : Prop where
  isolated : Isolated a (run (call hashOf) s calls).associationsGraph
  unselected : NeverSelected a (run (call hashOf) s calls).associationsGraph
  others : Along (call hashOf) (fun s c => c.IsTimeout (hashOf a) = true →
    KeepsOthers a s.associationsGraph (call hashOf s c).associationsGraph) s calls

/-- The order is one of the nodes. -/
def Enumerates (order : List PfcpAssociation) (nodes : Finset PfcpAssociation) : Prop :=
  order.Nodup ∧ order.toFinset = nodes

/-- The UPF does not answer: its heartbeat procedure starts again only after a response of it, or when it is
set up again. -/
def Silent (hashOf : PfcpAssociation → UInt64) (a : PfcpAssociation) (s : PfcpAssociations) :
    HeartbeatCall → Prop
  | .insert order b => Enumerates order (s.associationsGraph.addAccessEdges b).nodes ∧ b ≠ a
  | .initiate order hash => Enumerates order s.associationsGraph.nodes ∧ hash ≠ hashOf a
  | .timeout order _ => Enumerates order s.associationsGraph.nodes

/-- No other node has the hash of the association. -/
def HashAlone (hashOf : PfcpAssociation → UInt64) (a : PfcpAssociation) (g : UpfGraph) : Prop :=
  ∀ b ∈ g.nodes, hashOf b = hashOf a → b = a

/-- The hash is an `int32_t`, extended with its sign. -/
def HashFits (hash : UInt64) : Prop := widenHash (narrowHash hash) = hash

instance (hash : UInt64) : Decidable (HashFits hash) := inferInstanceAs (Decidable (_ = _))

/-! ## One call -/

section

variable {a b : PfcpAssociation} {g : UpfGraph} {order : List PfcpAssociation}

theorem KeepsOthers.refl (a : PfcpAssociation) (g : UpfGraph) : KeepsOthers a g g :=
  fun _ _ => ⟨Iff.rfl, rfl⟩

theorem removeAssociation_of_mem (ha : a ∈ g.nodes) : g.removeAssociation (some a) =
    { nodes := g.nodes.erase a
      edges := fun b => if b = a then [] else (g.edges b).filter fun e => e.destinationUpf ≠ some a } :=
  if_pos ha

theorem removeAssociation_of_notMem (ha : a ∉ g.nodes) : g.removeAssociation (some a) = g := if_neg ha

theorem mem_nodes_removeAssociation {x : Option PfcpAssociation} (h : b ∈ (g.removeAssociation x).nodes) :
    b ∈ g.nodes := by
  cases x with
  | none => exact h
  | some c =>
    by_cases hc : c ∈ g.nodes
    · rw [removeAssociation_of_mem hc] at h
      exact Finset.mem_of_mem_erase h
    · rwa [removeAssociation_of_notMem hc] at h

theorem mem_edges_removeAssociation {x : Option PfcpAssociation} {e : UpfGraphEdge}
    (h : e ∈ (g.removeAssociation x).edges b) : e ∈ g.edges b := by
  cases x with
  | none => exact h
  | some c =>
    by_cases hc : c ∈ g.nodes
    · rw [removeAssociation_of_mem hc] at h
      dsimp only at h
      split at h
      · cases h
      · exact List.mem_of_mem_filter h
    · rwa [removeAssociation_of_notMem hc] at h

theorem isolated_removeAssociation (ha : a ∈ g.nodes) : Isolated a (g.removeAssociation (some a)) := by
  rw [removeAssociation_of_mem ha]
  refine ⟨Finset.notMem_erase a g.nodes, fun b e he => ?_⟩
  dsimp only at he
  split at he
  · cases he
  · exact of_decide_eq_true (List.mem_filter.mp he).2

theorem keepsOthers_removeAssociation : KeepsOthers a g (g.removeAssociation (some a)) := by
  by_cases ha : a ∈ g.nodes
  · rw [removeAssociation_of_mem ha]
    intro b hb
    refine ⟨Finset.mem_erase.trans (and_iff_right hb), ?_⟩
    dsimp only
    rw [if_neg hb, List.filter_filter]
    simp
  · rw [removeAssociation_of_notMem ha]
    exact .refl a g

theorem mem_removeAssociation_of_ne {x : Option PfcpAssociation} (ha : a ∈ g.nodes) (hx : x ≠ some a) :
    a ∈ (g.removeAssociation x).nodes := by
  cases x with
  | none => exact ha
  | some c =>
    by_cases hc : c ∈ g.nodes
    · rw [removeAssociation_of_mem hc]
      exact Finset.mem_erase.mpr ⟨fun h => hx (congrArg some h.symm), ha⟩
    · rwa [removeAssociation_of_notMem hc]

/-- **What is not in the graph is not selected.** -/
theorem Isolated.neverSelected (h : Isolated a g) : NeverSelected a g := by
  intro fuel order criteria rules sub hsub e he
  obtain ⟨hsource, hedge⟩ := takenFrom_selectUpfNodes hsub e he
  exact ⟨fun heq => h.node (heq ▸ hsource), h.edges e.source e.edge hedge⟩

theorem Isolated.removeAssociation (h : Isolated a g) (x : Option PfcpAssociation) :
    Isolated a (g.removeAssociation x) :=
  ⟨fun hmem => h.node (mem_nodes_removeAssociation hmem),
    fun b e he => h.edges b e (mem_edges_removeAssociation he)⟩

theorem HashAlone.removeAssociation {hashOf : PfcpAssociation → UInt64} (h : HashAlone hashOf a g)
    (x : Option PfcpAssociation) : HashAlone hashOf a (g.removeAssociation x) :=
  fun b hb => h b (mem_nodes_removeAssociation hb)

theorem mem_edges_addUpfGraphEdge {c source : PfcpAssociation} {e new : UpfGraphEdge}
    (he : e ∈ (g.addUpfGraphEdge source new).edges c) : e ∈ g.edges c ∨ e = new := by
  unfold UpfGraph.addUpfGraphEdge at he
  by_cases hc : c = source
  · subst hc
    simpa using he
  · exact .inl (by simpa [hc] using he)

theorem mem_edges_addAccessEdges {c : PfcpAssociation} {e : UpfGraphEdge}
    (he : e ∈ (g.addAccessEdges b).edges c) : e ∈ g.edges c ∨ e.destinationUpf = none := by
  unfold UpfGraph.addAccessEdges at he
  rw [(foldl_addUpfGraphEdge b _ g).2.2 c] at he
  obtain he | he := List.mem_append.mp he
  · exact .inl he
  · split at he
    · obtain he | he := List.mem_append.mp he
      · exact .inr (createEdges_type he).2
      · exact .inr (createEdges_type he).2
    · cases he

theorem mem_edges_foldl_pairs {xs : List (PfcpAssociation × UpfGraphEdge × UpfGraphEdge)} {c : PfcpAssociation}
    {e : UpfGraphEdge}
    (he : e ∈ (xs.foldl (fun g x => (g.addUpfGraphEdge b x.2.1).addUpfGraphEdge x.1 x.2.2) g).edges c) :
    e ∈ g.edges c ∨ ∃ x ∈ xs, e = x.2.1 ∨ e = x.2.2 := by
  induction xs generalizing g with
  | nil => exact .inl he
  | cons x xs ih =>
    obtain he | ⟨y, hy, heq⟩ := ih he
    · obtain he | rfl := mem_edges_addUpfGraphEdge he
      · obtain he | rfl := mem_edges_addUpfGraphEdge he
        · exact .inl he
        · exact .inr ⟨x, List.mem_cons_self, .inl rfl⟩
      · exact .inr ⟨x, List.mem_cons_self, .inr rfl⟩
    · exact .inr ⟨y, List.mem_cons_of_mem _ hy, heq⟩

/-- An edge that an insertion makes leads nowhere, to the new node or to one that is there. -/
theorem destination_insertIntoGraph {c : PfcpAssociation} {e : UpfGraphEdge}
    (he : e ∈ (g.insertIntoGraph order b).edges c) :
    e ∈ g.edges c ∨ e.destinationUpf = none ∨ e.destinationUpf = some b ∨
      ∃ d ∈ order, e.destinationUpf = some d := by
  obtain he | ⟨x, hx, heq⟩ := mem_edges_foldl_pairs he
  · obtain he | he := mem_edges_addAccessEdges he
    · exact .inl he
    · exact .inr (.inl he)
  · obtain ⟨d, hd, hx⟩ := List.mem_flatMap.mp hx
    have hd := List.mem_of_mem_filter hd
    unfold UpfGraph.n9Pairs at hx
    split at hx
    · cases hx
    · obtain ⟨y, hy, rfl⟩ := List.mem_map.mp hx
      obtain rfl | rfl := heq
      · exact .inr (.inr (.inr ⟨d, hd, (createEdges_type (List.of_mem_zip hy).1).2⟩))
      · exact .inr (.inr (.inl (createEdges_type (List.of_mem_zip hy).2).2))

theorem subset_insertIntoGraph (ha : a ∈ g.nodes) : a ∈ (g.insertIntoGraph order b).nodes := by
  have hadd : ∀ (k : UpfGraph) (source : PfcpAssociation) (new : UpfGraphEdge), a ∈ k.nodes →
      a ∈ (k.addUpfGraphEdge source new).nodes := fun k source new h => Finset.mem_insert_of_mem h
  unfold UpfGraph.insertIntoGraph UpfGraph.addAccessEdges
  refine List.foldlRecOn (motive := fun k : UpfGraph => a ∈ k.nodes) _ _ ?_ ?_
  · exact List.foldlRecOn (motive := fun k : UpfGraph => a ∈ k.nodes) _ _ ha fun k hk x _ => hadd _ _ _ hk
  · exact fun k hk x _ => hadd _ _ _ (hadd _ _ _ hk)

theorem Isolated.insertIntoGraph (h : Isolated a g) (hb : b ≠ a)
    (horder : Enumerates order (g.addAccessEdges b).nodes) : Isolated a (g.insertIntoGraph order b) := by
  have hnot : a ∉ (g.insertIntoGraph order b).nodes := fun hmem =>
    (mem_nodes_insertIntoGraph horder.2 hmem).elim (fun h => hb h.symm) h.node
  have hnot' : a ∉ order := by
    intro hmem
    have hmem : a ∈ (g.addAccessEdges b).nodes := horder.2 ▸ List.mem_toFinset.mpr hmem
    obtain ⟨hne, hnil, -⟩ := foldl_addUpfGraphEdge b (createN3Edges b ++ createN6Edges b) g
    unfold UpfGraph.addAccessEdges at hmem
    by_cases hes : createN3Edges b ++ createN6Edges b = []
    · rw [hnil hes] at hmem
      exact h.node hmem
    · rw [hne hes] at hmem
      exact (Finset.mem_insert.mp hmem).elim (fun h => hb h.symm) h.node
  refine ⟨hnot, fun c e he heq => ?_⟩
  obtain he | he | he | ⟨d, hd, he⟩ := destination_insertIntoGraph he
  · exact h.edges c e he heq
  · rw [heq] at he
    cases he
  · rw [heq] at he
    exact hb (Option.some.inj he).symm
  · rw [heq] at he
    exact hnot' (Option.some.inj he ▸ hd)

end

/-! ## One time-out -/

section

open PfcpAssociations

variable {hashOf : PfcpAssociation → UInt64} {a : PfcpAssociation} {s : PfcpAssociations}
  {order : List PfcpAssociation} {k : ℕ}

theorem hashOf_of_getAssociation {hash : UInt64} {b : PfcpAssociation}
    (h : getAssociation hashOf order hash = some b) : hashOf b = hash := by
  have := List.find?_some h
  simpa using this

theorem getAssociation_eq_some (horder : Enumerates order s.associationsGraph.nodes)
    (halone : HashAlone hashOf a s.associationsGraph) (ha : a ∈ s.associationsGraph.nodes) :
    getAssociation hashOf order (hashOf a) = some a := by
  have hmem : ∀ b, b ∈ order ↔ b ∈ s.associationsGraph.nodes := fun b => by
    rw [← horder.2, List.mem_toFinset]
  cases hfind : getAssociation hashOf order (hashOf a) with
  | none => exact absurd (decide_eq_true rfl) (List.find?_eq_none.mp hfind a ((hmem a).mpr ha))
  | some b =>
    rw [halone b ((hmem b).mp (List.mem_of_find?_eq_some hfind)) (hashOf_of_getAssociation hfind)]

theorem getAssociation_eq_none (horder : Enumerates order s.associationsGraph.nodes)
    (halone : HashAlone hashOf a s.associationsGraph) (ha : a ∉ s.associationsGraph.nodes) :
    getAssociation hashOf order (hashOf a) = none := by
  refine List.find?_eq_none.mpr fun b hb hhash => ha ?_
  have hb : b ∈ s.associationsGraph.nodes := horder.2 ▸ List.mem_toFinset.mpr hb
  rwa [← halone b hb (of_decide_eq_true hhash)]

theorem getAssociation_ne {hash : UInt64} (hne : hash ≠ hashOf a) :
    getAssociation hashOf order hash ≠ some a :=
  fun h => hne (hashOf_of_getAssociation h).symm

/-- After `k` time-outs the UPF is gone, or it is there and has been asked again `k` times. -/
def TimedOut (a : PfcpAssociation) (k : ℕ) (s : PfcpAssociations) : Prop :=
  Isolated a s.associationsGraph ∨
    a ∈ s.associationsGraph.nodes ∧ k ≤ s.numRetries a ∧ k ≤ PFCP_ASSOCIATION_HEARTBEAT_MAX_RETRIES

/-- **A time-out of the UPF** counts, and removes it after the last retry. -/
theorem TimedOut.timeout (h : TimedOut a k s) (horder : Enumerates order s.associationsGraph.nodes)
    (halone : HashAlone hashOf a s.associationsGraph) (hfits : HashFits (hashOf a)) :
    TimedOut a (k + 1) (s.timeoutHeartbeatRequest hashOf order (hashOf a)) := by
  unfold timeoutHeartbeatRequest
  obtain h | ⟨ha, hk, -⟩ := h
  · rw [getAssociation_eq_none horder halone h.node]
    exact .inl h
  · have hfound := getAssociation_eq_some horder halone ha
    rw [hfound]
    dsimp only
    by_cases hlt : s.numRetries a < PFCP_ASSOCIATION_HEARTBEAT_MAX_RETRIES
    · rw [if_pos hlt]
      refine .inr ⟨ha, ?_, by omega⟩
      dsimp only
      rw [Function.update_self]
      omega
    · rw [if_neg hlt]
      unfold PfcpAssociations.removeAssociation
      rw [hfits, hfound]
      exact .inl (isolated_removeAssociation ha)

theorem keepsOthers_timeout (horder : Enumerates order s.associationsGraph.nodes)
    (halone : HashAlone hashOf a s.associationsGraph) (hfits : HashFits (hashOf a)) :
    KeepsOthers a s.associationsGraph
      (s.timeoutHeartbeatRequest hashOf order (hashOf a)).associationsGraph := by
  unfold timeoutHeartbeatRequest
  by_cases ha : a ∈ s.associationsGraph.nodes
  · have hfound := getAssociation_eq_some horder halone ha
    rw [hfound]
    dsimp only
    by_cases hlt : s.numRetries a < PFCP_ASSOCIATION_HEARTBEAT_MAX_RETRIES
    · rw [if_pos hlt]
      exact .refl a _
    · rw [if_neg hlt]
      unfold PfcpAssociations.removeAssociation
      rw [hfits, hfound]
      exact keepsOthers_removeAssociation
  · rw [getAssociation_eq_none horder halone ha]
    exact .refl a _

theorem TimedOut.update_other (h : TimedOut a k s) {b : PfcpAssociation} {n : ℕ} (hb : b ≠ a) :
    TimedOut a k { s with numRetries := Function.update s.numRetries b n } := by
  refine h.imp id fun ⟨ha, hk, hle⟩ => ⟨ha, ?_, hle⟩
  dsimp only
  rwa [Function.update_of_ne (Ne.symm hb)]

theorem TimedOut.call_other (h : TimedOut a k s) {c : HeartbeatCall} (hc : Silent hashOf a s c)
    (hother : c.IsTimeout (hashOf a) = false) : TimedOut a k (call hashOf s c) := by
  cases c with
  | insert order b =>
    obtain ⟨horder, hb⟩ := hc
    show TimedOut a k (s.insertAssociation order b)
    unfold insertAssociation
    by_cases hfull : PFCP_MAX_ASSOCIATIONS ≤ s.associationsGraph.nodes.card
    · rwa [if_pos hfull]
    rw [if_neg hfull]
    obtain h | ⟨ha, hk, hle⟩ := h
    · exact .inl (h.insertIntoGraph hb horder)
    · refine .inr ⟨subset_insertIntoGraph ha, ?_, hle⟩
      dsimp only
      rwa [Function.update_of_ne (Ne.symm hb)]
  | initiate order hash =>
    show TimedOut a k (s.initiateHeartbeatRequest hashOf order hash)
    unfold initiateHeartbeatRequest
    cases hfound : getAssociation hashOf order hash with
    | none => exact h
    | some b => exact h.update_other fun hb => getAssociation_ne hc.2 (hb ▸ hfound)
  | timeout order hash =>
    have hne : hash ≠ hashOf a := by simpa [HeartbeatCall.IsTimeout] using hother
    show TimedOut a k (s.timeoutHeartbeatRequest hashOf order hash)
    unfold timeoutHeartbeatRequest
    cases hfound : getAssociation hashOf order hash with
    | none => exact h
    | some b =>
      dsimp only
      by_cases hlt : s.numRetries b < PFCP_ASSOCIATION_HEARTBEAT_MAX_RETRIES
      · rw [if_pos hlt]
        exact h.update_other fun hb => getAssociation_ne hne (hb ▸ hfound)
      · rw [if_neg hlt]
        unfold PfcpAssociations.removeAssociation
        -- the converted hash may be the one of the UPF, which then goes at once
        by_cases hx : getAssociation hashOf order (widenHash (narrowHash hash)) = some a
        · rw [hx]
          obtain h | ⟨ha, -, -⟩ := h
          · exact .inl (h.removeAssociation (some a))
          · exact .inl (isolated_removeAssociation ha)
        · obtain h | ⟨ha, hk, hle⟩ := h
          · exact .inl (h.removeAssociation _)
          · exact .inr ⟨mem_removeAssociation_of_ne ha hx, hk, hle⟩

end

/-! ## Runs -/

section

open PfcpAssociations

variable {hashOf : PfcpAssociation → UInt64} {a : PfcpAssociation} {s : PfcpAssociations}
  {calls : List HeartbeatCall}

/-- Every call meets the UPF's hash on no other node. -/
def AlongAlone (hashOf : PfcpAssociation → UInt64) (a : PfcpAssociation) (s : PfcpAssociations)
    (calls : List HeartbeatCall) : Prop :=
  Along (call hashOf) (fun s _ => HashAlone hashOf a s.associationsGraph) s calls

theorem timedOut_run (hfits : HashFits (hashOf a)) {k : ℕ} (h : TimedOut a k s)
    (hsilent : Along (call hashOf) (Silent hashOf a) s calls) (halone : AlongAlone hashOf a s calls) :
    TimedOut a (k + calls.countP fun c => c.IsTimeout (hashOf a)) (run (call hashOf) s calls) := by
  induction calls generalizing s k with
  | nil => exact h
  | cons c calls ih =>
    by_cases hc : c.IsTimeout (hashOf a) = true
    · have hcount : (c :: calls).countP (fun c => c.IsTimeout (hashOf a)) =
          (calls.countP fun c => c.IsTimeout (hashOf a)) + 1 := List.countP_cons_of_pos hc
      have hstep : TimedOut a (k + 1) (call hashOf s c) := by
        cases c with
        | insert order b => cases hc
        | initiate order hash => cases hc
        | timeout order hash =>
          obtain rfl : hash = hashOf a := by simpa [HeartbeatCall.IsTimeout] using hc
          exact h.timeout hsilent.1 halone.1 hfits
      rw [hcount, ← Nat.add_assoc, Nat.add_right_comm]
      exact ih hstep hsilent.2 halone.2
    · have hcount : (c :: calls).countP (fun c => c.IsTimeout (hashOf a)) =
          calls.countP fun c => c.IsTimeout (hashOf a) := List.countP_cons_of_neg hc
      rw [hcount]
      exact ih (h.call_other hsilent.1 (Bool.not_eq_true _ ▸ hc)) hsilent.2 halone.2

theorem keepsOthers_run (hfits : HashFits (hashOf a))
    (hsilent : Along (call hashOf) (Silent hashOf a) s calls) (halone : AlongAlone hashOf a s calls) :
    Along (call hashOf) (fun s c => c.IsTimeout (hashOf a) = true →
      KeepsOthers a s.associationsGraph (call hashOf s c).associationsGraph) s calls := by
  induction calls generalizing s with
  | nil => trivial
  | cons c calls ih =>
    refine ⟨fun hc => ?_, ih hsilent.2 halone.2⟩
    cases c with
    | insert order b => cases hc
    | initiate order hash => cases hc
    | timeout order hash =>
      obtain rfl : hash = hashOf a := by simpa [HeartbeatCall.IsTimeout] using hc
      exact keepsOthers_timeout hsilent.1 halone.1 hfits

/-- A UPF whose hash changes in the conversion is not removed by its own time-outs. -/
theorem mem_run_of_not_fits (hfits : ¬ HashFits (hashOf a)) (ha : a ∈ s.associationsGraph.nodes)
    (honly : ∀ c ∈ calls, c.IsTimeout (hashOf a) = true) :
    a ∈ (run (call hashOf) s calls).associationsGraph.nodes := by
  induction calls generalizing s with
  | nil => exact ha
  | cons c calls ih =>
    refine ih ?_ fun d hd => honly d (List.mem_cons_of_mem _ hd)
    have hc := honly c List.mem_cons_self
    cases c with
    | insert order b => cases hc
    | initiate order hash => cases hc
    | timeout order hash =>
      obtain rfl : hash = hashOf a := by simpa [HeartbeatCall.IsTimeout] using hc
      show a ∈ (s.timeoutHeartbeatRequest hashOf order (hashOf a)).associationsGraph.nodes
      unfold timeoutHeartbeatRequest
      cases getAssociation hashOf order (hashOf a) with
      | none => exact ha
      | some b =>
        dsimp only
        by_cases hlt : s.numRetries b < PFCP_ASSOCIATION_HEARTBEAT_MAX_RETRIES
        · rwa [if_pos hlt]
        · rw [if_neg hlt]
          exact mem_removeAssociation_of_ne ha (getAssociation_ne hfits)

/-- **A UPF that stops answering** is removed by `PFCP_ASSOCIATION_HEARTBEAT_MAX_RETRIES + 1` time-outs if
its hash fits into an `int32_t` and no other node has it; and when these are the only calls, only if it
fits. -/
theorem silentUpf_removed (hashOf : PfcpAssociation → UInt64) (a : PfcpAssociation) (s : PfcpAssociations)
    (calls : List HeartbeatCall) (ha : a ∈ s.associationsGraph.nodes)
    (hsilent : Along (call hashOf) (Silent hashOf a) s calls)
    (hcount : PFCP_ASSOCIATION_HEARTBEAT_MAX_RETRIES + 1 ≤ calls.countP fun c => c.IsTimeout (hashOf a))
    (halone : AlongAlone hashOf a s calls) :
    (HashFits (hashOf a) → SilentUpfRemoved hashOf a s calls) ∧
      ((∀ c ∈ calls, c.IsTimeout (hashOf a) = true) → SilentUpfRemoved hashOf a s calls →
        HashFits (hashOf a)) := by
  constructor
  · intro hfits
    have hstart : TimedOut a 0 s := .inr ⟨ha, Nat.zero_le _, Nat.zero_le _⟩
    have hgone : Isolated a (run (call hashOf) s calls).associationsGraph := by
      obtain h | ⟨-, -, hle⟩ := timedOut_run hfits hstart hsilent halone
      · exact h
      · omega
    exact ⟨hgone, hgone.neverSelected, keepsOthers_run hfits hsilent halone⟩
  · intro honly hremoved
    by_contra hfits
    exact hremoved.isolated.node (mem_run_of_not_fits hfits ha honly)

/-! ## Two UPFs -/

/-- The access UPF and the anchor, with the N9 link between them. -/
def linkedUpfs : PfcpAssociations :=
  ⟨(UpfGraph.empty.insertIntoGraph [accessUpf] accessUpf).insertIntoGraph [accessUpf, anchorUpf] anchorUpf,
    fun _ => 0⟩

/-- The anchor has hash 7. -/
def linkHash (b : PfcpAssociation) : UInt64 := if b = anchorUpf then 7 else 9

/-- The anchor does not answer; the access UPF does, and then misses one heartbeat. -/
def anchorSilent : List HeartbeatCall :=
  [.timeout [accessUpf, anchorUpf] 7, .initiate [anchorUpf, accessUpf] 9, .timeout [accessUpf, anchorUpf] 7,
    .timeout [accessUpf, anchorUpf] 9, .timeout [anchorUpf, accessUpf] 7]

theorem linkHash_eq {b : PfcpAssociation} (h : linkHash b = linkHash anchorUpf) : b = anchorUpf := by
  by_contra hb
  rw [linkHash, linkHash, if_neg hb, if_pos rfl] at h
  cases h

theorem silentUpf_removed_anchor : (linkedUpfs.associationsGraph.edges accessUpf).length = 2 ∧
    SilentUpfRemoved linkHash anchorUpf linkedUpfs anchorSilent := by
  refine ⟨by decide, (silentUpf_removed linkHash anchorUpf linkedUpfs anchorSilent (by decide) ?_ (by decide)
    ?_).1 (by decide)⟩
  · exact ⟨⟨by decide, by decide⟩, ⟨⟨by decide, by decide⟩, by decide⟩, ⟨by decide, by decide⟩,
      ⟨by decide, by decide⟩, ⟨by decide, by decide⟩, trivial⟩
  · exact ⟨fun b _ => linkHash_eq, fun b _ => linkHash_eq, fun b _ => linkHash_eq, fun b _ => linkHash_eq,
      fun b _ => linkHash_eq, trivial⟩

/-! ## Hashes above `2 ^ 31` -/

/-- A graph with the anchor alone. -/
def oneAssociation : PfcpAssociations := ⟨⟨{anchorUpf}, fun _ => []⟩, fun _ => 0⟩

/-- Three heartbeats of a UPF are not answered. -/
def threeTimeouts (hash : UInt64) : List HeartbeatCall :=
  List.replicate 3 (.timeout [anchorUpf] hash)

/-- The hash `2 ^ 32` becomes `0`, and the dead UPF stays. -/
theorem not_silentUpf_removed : ¬ ∀ (hashOf : PfcpAssociation → UInt64) (a : PfcpAssociation)
    (s : PfcpAssociations) (calls : List HeartbeatCall), a ∈ s.associationsGraph.nodes →
      Along (call hashOf) (Silent hashOf a) s calls →
      PFCP_ASSOCIATION_HEARTBEAT_MAX_RETRIES + 1 ≤ (calls.countP fun c => c.IsTimeout (hashOf a)) →
      SilentUpfRemoved hashOf a s calls := by
  intro h
  have hmem : anchorUpf ∈ oneAssociation.associationsGraph.nodes := Finset.mem_singleton_self _
  have hremoved := h (fun _ => 0x100000000) anchorUpf oneAssociation (threeTimeouts 0x100000000) hmem
    ⟨⟨by decide, by decide⟩, ⟨by decide, by decide⟩, ⟨by decide, by decide⟩, trivial⟩ (by decide)
  refine hremoved.isolated.node (mem_run_of_not_fits (by decide) hmem fun c hc => ?_)
  rw [List.eq_of_mem_replicate hc]
  rfl

end

end Oai5g.Smf
