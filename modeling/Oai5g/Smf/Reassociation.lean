import Oai5g.Lib.Strtoul
import Oai5g.Smf.Heartbeats

/-!
# Associating a UPF again

* `NodeId`, `NodeNames`: node ids of the two kinds, with DNS and the hash of an id; `NodeNames.upf`: the UPF that an id
  is about.
* `AssociationTable`: the graph with the members of the associations and the heartbeat timers; `addAssociation`,
  `updateAssociation`.
* `Tracked`: the table beside the features of the latest call for each UPF. `CallOk`: what is asked of a call.
* **`along_callOk`**: it holds as long as no UPF is associated again. `reassociated_not_callOk`: never then.
-/

namespace Oai5g.Smf

/-! ## Node ids -/

/-- `node_id_t`, as it comes in a message. -/
inductive NodeId
  | fqdn (name : String)
  | ipv4 (address : UInt32)
  deriving DecidableEq

/-- `fqdn::resolve` of a name; it throws when all its tries have failed. -/
inductive DnsAnswer
  | ipv4 (address : UInt32)
  | ipv6
  | fails
  deriving DecidableEq

/-- DNS, the texts of addresses, and `std::hash<node_id_t>` without collisions. -/
structure NodeNames (κ : Type*) where
  resolve : String → DnsAnswer
  reverseResolve : UInt32 → Option String
  /-- The address in a text that matches `IPV4_ADDRESS_VALIDATOR_REGEX`. -/
  parse : String → Option UInt32
  print : UInt32 → String
  hash : NodeId → κ
  parse_print : ∀ a, parse (print a) = some a
  resolve_parse : ∀ name a, parse name = some a → resolve name = .ipv4 a
  hash_injective : Function.Injective hash

namespace NodeNames

variable {κ : Type*} (names : NodeNames κ)

/-- **The UPF of an id**: its address if there is one, and else its name. -/
def upf : NodeId → NodeId
  | .ipv4 a => .ipv4 a
  | .fqdn name =>
    match names.resolve name with
    | .ipv4 a => .ipv4 a
    | _ => .fqdn name

/-- The id of the other kind that `get_association` tries, after `fqdn::resolve(node_id_t&)`. -/
def otherSpelling : NodeId → NodeId
  | .ipv4 a => .fqdn ((names.reverseResolve a).getD "")
  | .fqdn name =>
    if name = "" then .ipv4 0
    else
      match names.resolve name with
      | .ipv4 a => .ipv4 a
      | _ => .ipv4 0

/-- `resolve_upf_hostname`; `none` where it throws. -/
def resolveUpfHostname : NodeId → Option Bool
  | .ipv4 _ => some true
  | .fqdn name =>
    match names.resolve name with
    | .ipv4 _ => some true
    | .ipv6 => some false
    | .fails => none

/-- `generate_node_id` of a host. -/
def generateNodeId (host : String) : NodeId :=
  match names.parse host with
  | some a => .ipv4 a
  | none => .fqdn host

/-- The host of an id. -/
def host : NodeId → String
  | .fqdn name => name
  | .ipv4 a => names.print a

theorem upf_generateNodeId (id : NodeId) : names.upf (names.generateNodeId (names.host id)) = names.upf id := by
  cases id with
  | ipv4 a => simp [generateNodeId, host, names.parse_print, upf]
  | fqdn name =>
    unfold generateNodeId host
    cases hparse : names.parse name with
    | none => rfl
    | some a => simp [upf, names.resolve_parse name a hparse]

end NodeNames

/-! ## The configuration -/

/-- `oai::config::smf::upf` -/
structure UpfConfig where
  nodeId : NodeId
  host : String
  interfaceUpfInfoList : List InterfaceUpfInfoItem
  sNssaiUpfInfoList : List SnssaiUpfInfoItem

/-- The configurations of the pending associations and of the SMF. -/
structure UpfConfigs where
  pendingAssociations : List UpfConfig
  upfs : List UpfConfig

/-- The profile of an unknown UPF: one N3 and one N6 interface. -/
def assumedInterfaces : List InterfaceUpfInfoItem := [⟨.n3, "", [], ""⟩, ⟨.n6, "", [], ""⟩]

section

variable {κ : Type*} (names : NodeNames κ) (configs : UpfConfigs)

/-- `get_upf_config` -/
def getUpfConfig (id : NodeId) : UpfConfig :=
  match configs.pendingAssociations.find? (·.nodeId = id) with
  | some upf => upf
  | none =>
    match configs.upfs.find? (·.nodeId = id) with
    | some upf => upf
    | none => ⟨names.generateNodeId (names.host id), names.host id, assumedInterfaces, []⟩

theorem upf_getUpfConfig (id : NodeId) : names.upf (getUpfConfig names configs id).nodeId = names.upf id := by
  unfold getUpfConfig
  split
  · next upf hfind =>
    have hid : upf.nodeId = id := by simpa using List.find?_some hfind
    rw [hid]
  · split
    · next upf hfind =>
      have hid : upf.nodeId = id := by simpa using List.find?_some hfind
      rw [hid]
    · exact names.upf_generateNodeId id

end

/-! ## The table -/

/-- The members of `pfcp_association` that calls change, and its id. -/
structure AssociationMembers (κ φ : Type*) where
  nodeId : NodeId
  hashNodeId : κ
  recoveryTimeStamp : UInt32
  functionFeatures : Option φ
  timerHeartbeat : ℕ

/-- `pfcp_associations`: the graph, the members of each association, and the heartbeat timers that run, with their
ids and the hash each was set up with. The nodes are told apart by their pointers. -/
structure AssociationTable (κ φ : Type*) where
  associationsGraph : UpfGraph
  members : PfcpAssociation → AssociationMembers κ φ
  timers : List (ℕ × κ)
  nextTimer : ℕ
  nextPointer : ℕ

/-- The calls, with the orders in which the hash map is traversed. -/
inductive AssociationCall (φ : Type*)
  | add (order insertOrder : List PfcpAssociation) (id : NodeId) (recoveryTimeStamp : UInt32)
      (functionFeatures : Option φ)
  | update (order : List PfcpAssociation) (id : NodeId) (functionFeatures : φ)

namespace AssociationTable

variable {κ φ : Type*} [DecidableEq κ] [Zero φ] (names : NodeNames κ) (configs : UpfConfigs)
  (s : AssociationTable κ φ)

/-- `get_association` of the graph. -/
def getByHash (order : List PfcpAssociation) (hash : κ) : Option PfcpAssociation :=
  order.find? fun b => (s.members b).hashNodeId = hash

/-- `get_association`: with the id as it is, and then with the other kind. -/
def getAssociation (order : List PfcpAssociation) (id : NodeId) : Option PfcpAssociation :=
  match s.getByHash order (names.hash id) with
  | some b => some b
  | none => s.getByHash order (names.hash (names.otherSpelling id))

/-- `trigger_heartbeat_request_procedure` -/
def triggerHeartbeatRequestProcedure (b : PfcpAssociation) : AssociationTable κ φ :=
  { s with
    members := Function.update s.members b { s.members b with timerHeartbeat := s.nextTimer }
    timers := s.timers ++ [(s.nextTimer, (s.members b).hashNodeId)]
    nextTimer := s.nextTimer + 1 }

/-- `check_association_on_add` of an association that is there, and `restore_n4_sessions`. The features are stored
where there are none to use. -/
def checkAssociationOnAdd (b : PfcpAssociation) (recoveryTimeStamp : UInt32) (functionFeatures : Option φ) :
    AssociationTable κ φ × Bool :=
  let restoreN4Sessions := !decide ((s.members b).recoveryTimeStamp = recoveryTimeStamp)
  let s : AssociationTable κ φ :=
    { s with
      timers := s.timers.filter (·.1 ≠ (s.members b).timerHeartbeat)
      members := Function.update s.members b { s.members b with
        recoveryTimeStamp := recoveryTimeStamp
        functionFeatures := if functionFeatures.isSome then none else some 0 } }
  (s.triggerHeartbeatRequestProcedure b, restoreN4Sessions)

/-- The association that `add_association` makes. -/
def newAssociation (id : NodeId) : PfcpAssociation where
  nodeId := s.nextPointer
  host := (getUpfConfig names configs id).host
  interfaceUpfInfoList := (getUpfConfig names configs id).interfaceUpfInfoList
  sNssaiUpfInfoList := (getUpfConfig names configs id).sNssaiUpfInfoList

/-- The new association in the graph. -/
def insertAssociation (insertOrder : List PfcpAssociation) (id : NodeId) (recoveryTimeStamp : UInt32)
    (functionFeatures : Option φ) : AssociationTable κ φ :=
  let a := s.newAssociation names configs id
  let s : AssociationTable κ φ :=
    { s with
      associationsGraph := s.associationsGraph.insertIntoGraph insertOrder a
      members := Function.update s.members a
        { nodeId := (getUpfConfig names configs id).nodeId
          hashNodeId := names.hash (getUpfConfig names configs id).nodeId
          recoveryTimeStamp := recoveryTimeStamp
          functionFeatures := functionFeatures
          timerHeartbeat := 0 }
      nextPointer := s.nextPointer + 1 }
  s.triggerHeartbeatRequestProcedure a

/-- `add_association`: the table, what it returns (`none`: it throws) and `restore_n4_sessions`. -/
def addAssociation (order insertOrder : List PfcpAssociation) (id : NodeId) (recoveryTimeStamp : UInt32)
    (functionFeatures : Option φ) : AssociationTable κ φ × Option Bool × Bool :=
  match s.getAssociation names order id with
  | some b =>
    let (s', restoreN4Sessions) := s.checkAssociationOnAdd b recoveryTimeStamp functionFeatures
    (s', some true, restoreN4Sessions)
  | none =>
    match names.resolveUpfHostname id with
    | none => (s, none, false)
    | some false => (s, some false, false)
    | some true =>
      if PFCP_MAX_ASSOCIATIONS ≤ s.associationsGraph.nodes.card then (s, some false, false)
      else (s.insertAssociation names configs insertOrder id recoveryTimeStamp functionFeatures, some true, false)

/-- The association has the features. -/
def setFeatures (b : PfcpAssociation) (functionFeatures : φ) : AssociationTable κ φ :=
  { s with members := Function.update s.members b { s.members b with functionFeatures := some functionFeatures } }

/-- `update_association` -/
def updateAssociation (order : List PfcpAssociation) (id : NodeId) (functionFeatures : φ) :
    AssociationTable κ φ × Bool :=
  match s.getAssociation names order id with
  | some b => (s.setFeatures b functionFeatures, true)
  | none => (s, false)

/-- One call. -/
def call (s : AssociationTable κ φ) : AssociationCall φ → AssociationTable κ φ
  | .add order insertOrder id stamp features => (s.addAssociation names configs order insertOrder id stamp features).1
  | .update order id features => (s.updateAssociation names order id features).1

/-- The number of timers that run for an association. -/
def runningTimers (b : PfcpAssociation) : ℕ := s.timers.countP fun x => x.2 = (s.members b).hashNodeId

/-- The node is about the UPF of the id. -/
def IsUpf (id : NodeId) (b : PfcpAssociation) : Prop :=
  b ∈ s.associationsGraph.nodes ∧ names.upf (s.members b).nodeId = names.upf id

end AssociationTable

/-! ## What is asked of the calls -/

/-- The table, and the features of the latest call for each UPF. -/
structure Tracked (κ φ : Type*) where
  table : AssociationTable κ φ
  latest : NodeId → Option φ

namespace Tracked

variable {κ φ : Type*} [DecidableEq κ] [Zero φ] (names : NodeNames κ) (configs : UpfConfigs)

/-- One call. -/
def step (t : Tracked κ φ) (c : AssociationCall φ) : Tracked κ φ where
  table := t.table.call names configs c
  latest :=
    match c with
    | .add _ _ id _ features => Function.update t.latest (names.upf id) features
    | .update _ id features => Function.update t.latest (names.upf id) (some features)

/-- Each UPF is in the graph at most once, with the features of the latest call for it. -/
structure Fresh (t : Tracked κ φ) : Prop where
  once : ∀ b ∈ t.table.associationsGraph.nodes, ∀ c ∈ t.table.associationsGraph.nodes,
    names.upf (t.table.members b).nodeId = names.upf (t.table.members c).nodeId → b = c
  features : ∀ b ∈ t.table.associationsGraph.nodes,
    (t.table.members b).functionFeatures = t.latest (names.upf (t.table.members b).nodeId)

/-- What is asked of a call: `restore_n4_sessions` is set exactly if the UPF was there with another recovery time
stamp, and `add_association` returns true exactly if it is there afterwards with one timer. -/
structure CallOk (t : Tracked κ φ) (c : AssociationCall φ) : Prop where
  fresh : (t.step names configs c).Fresh names
  restore : ∀ order insertOrder id stamp features, c = .add order insertOrder id stamp features →
    ((t.table.addAssociation names configs order insertOrder id stamp features).2.2 = true ↔
      ∃ b, t.table.IsUpf names id b ∧ (t.table.members b).recoveryTimeStamp ≠ stamp)
  returns : ∀ order insertOrder id stamp features, c = .add order insertOrder id stamp features →
    ((t.table.addAssociation names configs order insertOrder id stamp features).2.1 = some true ↔
      ∃ b, (t.step names configs c).table.IsUpf names id b ∧ (t.step names configs c).table.runningTimers b = 1)

/-! ## The condition -/

/-- The two ids that `get_association` tries are, of the nodes, those that are about the UPF. -/
def Spelled (t : Tracked κ φ) (id : NodeId) : Prop :=
  ∀ b ∈ t.table.associationsGraph.nodes, names.upf (t.table.members b).nodeId = names.upf id ↔
    (t.table.members b).nodeId = id ∨ (t.table.members b).nodeId = names.otherSpelling id

/-- The association has an edge in the graph: N3, N6 or a pair of N9 edges. -/
def HasEdge (a : PfcpAssociation) (g : UpfGraph) : Prop :=
  HasN3OrN6 a ∨ ∃ b ∈ g.nodes, b ≠ a ∧ UpfGraph.n9Pairs a b ≠ []

/-- **The condition**: `get_association` looks for the UPF and no other one, a UPF that is added is not there yet, and
if there is room it has an edge. The orders are those of the nodes. -/
def Ok (t : Tracked κ φ) : AssociationCall φ → Prop
  | .add order insertOrder id _ _ =>
    Enumerates order t.table.associationsGraph.nodes ∧
    Enumerates insertOrder (t.table.associationsGraph.addAccessEdges (t.table.newAssociation names configs id)).nodes ∧
    t.Spelled names id ∧ (∀ b, ¬ t.table.IsUpf names id b) ∧
    (t.table.associationsGraph.nodes.card < PFCP_MAX_ASSOCIATIONS →
      HasEdge (t.table.newAssociation names configs id) t.table.associationsGraph)
  | .update order id _ => Enumerates order t.table.associationsGraph.nodes ∧ t.Spelled names id

/-- What the calls keep: the members are those of the ids, pointers and timers are handed out once, and a timer that
runs is that of a node. -/
structure Inv (t : Tracked κ φ) : Prop where
  fresh : t.Fresh names
  hash : ∀ b ∈ t.table.associationsGraph.nodes,
    (t.table.members b).hashNodeId = names.hash (t.table.members b).nodeId
  pointer : ∀ b ∈ t.table.associationsGraph.nodes, b.nodeId < t.table.nextPointer
  timers : ∀ x ∈ t.table.timers, ∃ b ∈ t.table.associationsGraph.nodes, x.2 = (t.table.members b).hashNodeId

variable {names configs} {t : Tracked κ φ} {order insertOrder : List PfcpAssociation} {id : NodeId}
  {stamp : UInt32} {features : Option φ} {b : PfcpAssociation}

omit [Zero φ] in
theorem getAssociation_cases (id : NodeId) (h : t.Inv names)
    (horder : Enumerates order t.table.associationsGraph.nodes) :
    (t.table.getAssociation names order id = none ∧ ∀ b ∈ t.table.associationsGraph.nodes,
      (t.table.members b).nodeId ≠ id ∧ (t.table.members b).nodeId ≠ names.otherSpelling id) ∨
    ∃ b ∈ t.table.associationsGraph.nodes, t.table.getAssociation names order id = some b ∧
      ((t.table.members b).nodeId = id ∨ (t.table.members b).nodeId = names.otherSpelling id) := by
  have hmem (b : PfcpAssociation) : b ∈ order ↔ b ∈ t.table.associationsGraph.nodes := by
    rw [← horder.2, List.mem_toFinset]
  have hfound (i : NodeId) (b : PfcpAssociation) (hb : t.table.getByHash order (names.hash i) = some b) :
      b ∈ t.table.associationsGraph.nodes ∧ (t.table.members b).nodeId = i := by
    have hnode := (hmem b).mp (List.mem_of_find?_eq_some hb)
    have hhash : (t.table.members b).hashNodeId = names.hash i := by simpa using List.find?_some hb
    rw [h.hash b hnode] at hhash
    exact ⟨hnode, names.hash_injective hhash⟩
  have hnone (i : NodeId) (hi : t.table.getByHash order (names.hash i) = none) (b : PfcpAssociation)
      (hb : b ∈ t.table.associationsGraph.nodes) : (t.table.members b).nodeId ≠ i := by
    intro heq
    have hno := List.find?_eq_none.mp hi b ((hmem b).mpr hb)
    rw [h.hash b hb, heq] at hno
    simp at hno
  unfold AssociationTable.getAssociation
  cases hown : t.table.getByHash order (names.hash id) with
  | some b =>
    obtain ⟨hnode, hid⟩ := hfound id b hown
    exact Or.inr ⟨b, hnode, rfl, Or.inl hid⟩
  | none =>
    cases hother : t.table.getByHash order (names.hash (names.otherSpelling id)) with
    | some b =>
      obtain ⟨hnode, hid⟩ := hfound _ b hother
      exact Or.inr ⟨b, hnode, rfl, Or.inr hid⟩
    | none => exact Or.inl ⟨rfl, fun b hb => ⟨hnone _ hown b hb, hnone _ hother b hb⟩⟩

theorem mem_insertIntoGraph {g : UpfGraph} {a : PfcpAssociation} (hedge : HasEdge a g)
    (horder : Enumerates insertOrder (g.addAccessEdges a).nodes) : a ∈ (g.insertIntoGraph insertOrder a).nodes := by
  have hfold : ∀ (xs : List (PfcpAssociation × UpfGraphEdge × UpfGraphEdge)) (k : UpfGraph),
      a ∈ k.nodes ∨ xs ≠ [] →
        a ∈ (xs.foldl (fun g x => (g.addUpfGraphEdge a x.2.1).addUpfGraphEdge x.1 x.2.2) k).nodes := by
    intro xs
    induction xs with
    | nil => exact fun k hk => hk.resolve_right (by simp)
    | cons x xs ih =>
      intro k _
      apply ih
      left
      exact Finset.mem_insert_of_mem (Finset.mem_insert_self a k.nodes)
  obtain ⟨hne, hnil, -⟩ := foldl_addUpfGraphEdge a (createN3Edges a ++ createN6Edges a) g
  apply hfold
  rcases hedge with haccess | ⟨b, hb, hba, hpairs⟩
  · left
    unfold UpfGraph.addAccessEdges
    rw [hne (hasN3OrN6_iff.mp haccess)]
    exact Finset.mem_insert_self a g.nodes
  · right
    intro hflat
    have hb' : b ∈ (g.addAccessEdges a).nodes := by
      unfold UpfGraph.addAccessEdges
      by_cases hes : createN3Edges a ++ createN6Edges a = []
      · rwa [hnil hes]
      · rw [hne hes]
        exact Finset.mem_insert_of_mem hb
    rw [← horder.2, List.mem_toFinset] at hb'
    exact hpairs (List.flatMap_eq_nil_iff.mp hflat b (List.mem_filter.mpr ⟨hb', by simpa using hba⟩))

/-! ## A new association -/

/-- The members of a new association. -/
def newMembers (names : NodeNames κ) (configs : UpfConfigs) (s : AssociationTable κ φ) (id : NodeId) (stamp : UInt32)
    (features : Option φ) : AssociationMembers κ φ :=
  ⟨(getUpfConfig names configs id).nodeId, names.hash (getUpfConfig names configs id).nodeId, stamp, features,
    s.nextTimer⟩

omit [DecidableEq κ] [Zero φ] in
theorem insertAssociation_members (s : AssociationTable κ φ) (b : PfcpAssociation) :
    (s.insertAssociation names configs insertOrder id stamp features).members b =
      if b = s.newAssociation names configs id then newMembers names configs s id stamp features
      else s.members b := by
  unfold AssociationTable.insertAssociation AssociationTable.triggerHeartbeatRequestProcedure newMembers
  by_cases hb : b = s.newAssociation names configs id <;> simp [hb]

omit [DecidableEq κ] [Zero φ] in
theorem insertAssociation_timers (s : AssociationTable κ φ) :
    (s.insertAssociation names configs insertOrder id stamp features).timers =
      s.timers ++ [(s.nextTimer, names.hash (getUpfConfig names configs id).nodeId)] := by
  simp [AssociationTable.insertAssociation, AssociationTable.triggerHeartbeatRequestProcedure]

omit [DecidableEq κ] [Zero φ] in
theorem newAssociation_notMem (configs : UpfConfigs) (id : NodeId) (h : t.Inv names) :
    t.table.newAssociation names configs id ∉ t.table.associationsGraph.nodes := by
  intro hmem
  have := h.pointer _ hmem
  simp [AssociationTable.newAssociation] at this

omit [Zero φ] in
theorem mem_insertAssociation {g : UpfGraph} {a : PfcpAssociation} (hedge : HasEdge a g)
    (horder : Enumerates insertOrder (g.addAccessEdges a).nodes) :
    b ∈ (g.insertIntoGraph insertOrder a).nodes ↔ b = a ∨ b ∈ g.nodes := by
  constructor
  · exact mem_nodes_insertIntoGraph horder.2
  · rintro (rfl | hb)
    · exact mem_insertIntoGraph hedge horder
    · exact subset_insertIntoGraph hb

/-- The tracked table after an insertion. -/
def inserted (names : NodeNames κ) (configs : UpfConfigs) (t : Tracked κ φ) (insertOrder : List PfcpAssociation)
    (id : NodeId) (stamp : UInt32) (features : Option φ) : Tracked κ φ where
  table := t.table.insertAssociation names configs insertOrder id stamp features
  latest := Function.update t.latest (names.upf id) features

omit [DecidableEq κ] [Zero φ] in
theorem mem_inserted (hedge : HasEdge (t.table.newAssociation names configs id) t.table.associationsGraph)
    (horder : Enumerates insertOrder
      (t.table.associationsGraph.addAccessEdges (t.table.newAssociation names configs id)).nodes) :
    b ∈ (t.inserted names configs insertOrder id stamp features).table.associationsGraph.nodes ↔
      b = t.table.newAssociation names configs id ∨ b ∈ t.table.associationsGraph.nodes :=
  mem_insertAssociation hedge horder

omit [DecidableEq κ] [Zero φ] in
theorem inserted_members_new : (t.inserted names configs insertOrder id stamp features).table.members
    (t.table.newAssociation names configs id) = newMembers names configs t.table id stamp features := by
  rw [inserted, insertAssociation_members, if_pos rfl]

omit [DecidableEq κ] [Zero φ] in
theorem inserted_members_old (h : t.Inv names) (hb : b ∈ t.table.associationsGraph.nodes) :
    (t.inserted names configs insertOrder id stamp features).table.members b = t.table.members b := by
  rw [inserted, insertAssociation_members, if_neg]
  rintro rfl
  exact newAssociation_notMem configs id h hb

omit [DecidableEq κ] [Zero φ] in
theorem upf_newMembers (s : AssociationTable κ φ) :
    names.upf (newMembers names configs s id stamp features).nodeId = names.upf id :=
  upf_getUpfConfig names configs id

omit [DecidableEq κ] [Zero φ] in
theorem inserted_fresh (h : t.Inv names) (hno : ∀ b, ¬ t.table.IsUpf names id b)
    (hedge : HasEdge (t.table.newAssociation names configs id) t.table.associationsGraph)
    (horder : Enumerates insertOrder
      (t.table.associationsGraph.addAccessEdges (t.table.newAssociation names configs id)).nodes) :
    (t.inserted names configs insertOrder id stamp features).Fresh names := by
  have hother (b : PfcpAssociation) (hb : b ∈ t.table.associationsGraph.nodes) :
      names.upf (t.table.members b).nodeId ≠ names.upf id := fun heq => hno b ⟨hb, heq⟩
  constructor
  case once =>
    intro b hb c hc heq
    rcases (mem_inserted hedge horder).mp hb with rfl | hb' <;> rcases (mem_inserted hedge horder).mp hc with rfl | hc'
    · rfl
    · rw [inserted_members_new, inserted_members_old h hc', upf_newMembers] at heq
      exact absurd heq.symm (hother c hc')
    · rw [inserted_members_new, inserted_members_old h hb', upf_newMembers] at heq
      exact absurd heq (hother b hb')
    · rw [inserted_members_old h hb', inserted_members_old h hc'] at heq
      exact h.fresh.once b hb' c hc' heq
  case features =>
    intro b hb
    rcases (mem_inserted hedge horder).mp hb with rfl | hb'
    · rw [inserted_members_new, upf_newMembers]
      simp [inserted, newMembers]
    · rw [inserted_members_old h hb']
      change _ = Function.update t.latest (names.upf id) features (names.upf (t.table.members b).nodeId)
      rw [Function.update_of_ne (hother b hb')]
      exact h.fresh.features b hb'

omit [DecidableEq κ] [Zero φ] in
/-- **A UPF that was not there is there once.** -/
theorem inserted_inv (h : t.Inv names) (hno : ∀ b, ¬ t.table.IsUpf names id b)
    (hedge : HasEdge (t.table.newAssociation names configs id) t.table.associationsGraph)
    (horder : Enumerates insertOrder
      (t.table.associationsGraph.addAccessEdges (t.table.newAssociation names configs id)).nodes) :
    (t.inserted names configs insertOrder id stamp features).Inv names := by
  constructor
  case fresh => exact inserted_fresh h hno hedge horder
  case hash =>
    intro b hb
    rcases (mem_inserted hedge horder).mp hb with rfl | hb'
    · rw [inserted_members_new]
      rfl
    · rw [inserted_members_old h hb']
      exact h.hash b hb'
  case pointer =>
    intro b hb
    rcases (mem_inserted hedge horder).mp hb with rfl | hb'
    · exact Nat.lt_succ_self _
    · exact Nat.lt_succ_of_lt (h.pointer b hb')
  case timers =>
    intro x hx
    rw [inserted, insertAssociation_timers, List.mem_append, List.mem_singleton] at hx
    rcases hx with hx | rfl
    · obtain ⟨b, hb, hhash⟩ := h.timers x hx
      refine ⟨b, (mem_inserted hedge horder).mpr (Or.inr hb), ?_⟩
      rw [inserted_members_old h hb]
      exact hhash
    · refine ⟨_, (mem_inserted hedge horder).mpr (Or.inl rfl), ?_⟩
      rw [inserted_members_new]
      rfl

omit [DecidableEq κ] [Zero φ] in
theorem isUpf_inserted (hedge : HasEdge (t.table.newAssociation names configs id) t.table.associationsGraph)
    (horder : Enumerates insertOrder
      (t.table.associationsGraph.addAccessEdges (t.table.newAssociation names configs id)).nodes) :
    (t.inserted names configs insertOrder id stamp features).table.IsUpf names id
      (t.table.newAssociation names configs id) := by
  refine ⟨(mem_inserted hedge horder).mpr (Or.inl rfl), ?_⟩
  rw [inserted_members_new, upf_newMembers]

omit [Zero φ] in
/-- The new association has one timer: those that ran before are for other UPFs. -/
theorem runningTimers_inserted (h : t.Inv names) (hno : ∀ b, ¬ t.table.IsUpf names id b) :
    (t.inserted names configs insertOrder id stamp features).table.runningTimers
      (t.table.newAssociation names configs id) = 1 := by
  have hnone : t.table.timers.countP
      (fun x => x.2 = names.hash (getUpfConfig names configs id).nodeId) = 0 := by
    rw [List.countP_eq_zero]
    intro x hx
    obtain ⟨b, hb, hhash⟩ := h.timers x hx
    simp only [decide_eq_true_eq]
    intro heq
    rw [hhash, h.hash b hb] at heq
    apply hno b
    refine ⟨hb, ?_⟩
    rw [names.hash_injective heq, upf_getUpfConfig]
  unfold AssociationTable.runningTimers
  rw [inserted_members_new, inserted, insertAssociation_timers, List.countP_append]
  change t.table.timers.countP (fun x => x.2 = names.hash (getUpfConfig names configs id).nodeId) + _ = 1
  rw [hnone]
  simp [newMembers]

/-! ## The calls -/

omit [DecidableEq κ] [Zero φ] in
theorem Inv.skip (h : t.Inv names) (hno : ∀ b, ¬ t.table.IsUpf names id b) (features : Option φ) :
    (⟨t.table, Function.update t.latest (names.upf id) features⟩ : Tracked κ φ).Inv names := by
  refine ⟨⟨h.fresh.once, fun b hb => ?_⟩, h.hash, h.pointer, h.timers⟩
  change _ = Function.update t.latest (names.upf id) features (names.upf (t.table.members b).nodeId)
  rw [Function.update_of_ne fun heq => hno b ⟨hb, heq⟩]
  exact h.fresh.features b hb

theorem addAssociation_cases (names : NodeNames κ) (configs : UpfConfigs) (insertOrder : List PfcpAssociation)
    (stamp : UInt32) (features : Option φ) (s : AssociationTable κ φ) (hget : s.getAssociation names order id = none) :
    (s.addAssociation names configs order insertOrder id stamp features =
        (s.insertAssociation names configs insertOrder id stamp features, some true, false) ∧
      s.associationsGraph.nodes.card < PFCP_MAX_ASSOCIATIONS) ∨
    ∃ result, s.addAssociation names configs order insertOrder id stamp features = (s, result, false) ∧
      result ≠ some true := by
  unfold AssociationTable.addAssociation
  rw [hget]
  match names.resolveUpfHostname id with
  | none => exact Or.inr ⟨none, rfl, by simp⟩
  | some false => exact Or.inr ⟨some false, rfl, by simp⟩
  | some true =>
    by_cases hfull : PFCP_MAX_ASSOCIATIONS ≤ s.associationsGraph.nodes.card
    · exact Or.inr ⟨some false, by simp [hfull], by simp⟩
    · exact Or.inl ⟨by simp [hfull], by omega⟩

theorem step_add (hget : t.table.getAssociation names order id = none)
    (hresolve : names.resolveUpfHostname id = some true)
    (hcard : t.table.associationsGraph.nodes.card < PFCP_MAX_ASSOCIATIONS) :
    t.step names configs (.add order insertOrder id stamp features) =
      t.inserted names configs insertOrder id stamp features := by
  simp only [step, AssociationTable.call, AssociationTable.addAssociation, hget, hresolve, inserted,
    if_neg (Nat.not_le.mpr hcard)]

theorem callOk_add {s : AssociationTable κ φ} {result : Option Bool} (hno : ∀ b, ¬ t.table.IsUpf names id b)
    (hadd : t.table.addAssociation names configs order insertOrder id stamp features = (s, result, false))
    (hinv : (⟨s, Function.update t.latest (names.upf id) features⟩ : Tracked κ φ).Inv names)
    (hreturns : result = some true ↔ ∃ b, s.IsUpf names id b ∧ s.runningTimers b = 1) :
    t.CallOk names configs (.add order insertOrder id stamp features) ∧
      (t.step names configs (.add order insertOrder id stamp features)).Inv names := by
  have hstep : t.step names configs (.add order insertOrder id stamp features) =
      ⟨s, Function.update t.latest (names.upf id) features⟩ := by
    simp only [step, AssociationTable.call, hadd]
  rw [← hstep] at hinv
  refine ⟨?_, hinv⟩
  constructor
  case fresh => exact hinv.fresh
  case restore =>
    rintro _ _ _ _ _ ⟨⟩
    rw [hadd]
    exact ⟨fun hfalse => absurd hfalse (by simp), fun ⟨b, hb, _⟩ => absurd hb (hno b)⟩
  case returns =>
    rintro _ _ _ _ _ ⟨⟩
    rw [hadd, hstep]
    exact hreturns

/-- **A UPF that is not there yet.** -/
theorem add_ok (h : t.Inv names) (hok : t.Ok names configs (.add order insertOrder id stamp features)) :
    t.CallOk names configs (.add order insertOrder id stamp features) ∧
      (t.step names configs (.add order insertOrder id stamp features)).Inv names := by
  obtain ⟨horder, hinsert, hspelled, hno, hroom⟩ := hok
  have hget : t.table.getAssociation names order id = none := by
    rcases getAssociation_cases id h horder with ⟨hnone, -⟩ | ⟨b, hb, -, hid⟩
    · exact hnone
    · exact absurd ⟨hb, (hspelled b hb).mpr hid⟩ (hno b)
  rcases addAssociation_cases names configs insertOrder stamp features t.table hget with
    ⟨hadd, hcard⟩ | ⟨result, hadd, hresult⟩
  · have hedge := hroom hcard
    apply callOk_add hno hadd (inserted_inv h hno hedge hinsert)
    exact ⟨fun _ => ⟨_, isUpf_inserted hedge hinsert, runningTimers_inserted h hno⟩, fun _ => rfl⟩
  · exact callOk_add hno hadd (h.skip hno features)
      ⟨fun htrue => absurd htrue hresult, fun ⟨b, hb, _⟩ => absurd hb (hno b)⟩

omit [DecidableEq κ] [Zero φ] in
theorem setFeatures_members (s : AssociationTable κ φ) (b c : PfcpAssociation) (feature : φ) :
    ((s.setFeatures b feature).members c).nodeId = (s.members c).nodeId ∧
      ((s.setFeatures b feature).members c).hashNodeId = (s.members c).hashNodeId ∧
      ((s.setFeatures b feature).members c).functionFeatures =
        if c = b then some feature else (s.members c).functionFeatures := by
  unfold AssociationTable.setFeatures
  by_cases hc : c = b <;> simp [hc]

omit [DecidableEq κ] [Zero φ] in
theorem Inv.setFeatures (h : t.Inv names) (hb : b ∈ t.table.associationsGraph.nodes)
    (hupf : names.upf (t.table.members b).nodeId = names.upf id) (feature : φ) :
    (⟨t.table.setFeatures b feature, Function.update t.latest (names.upf id) (some feature)⟩ : Tracked κ φ).Inv
      names := by
  have hmembers (c : PfcpAssociation) := setFeatures_members t.table b c feature
  refine ⟨⟨fun c hc d hd heq => ?_, fun c hc => ?_⟩, fun c hc => ?_, h.pointer, fun x hx => ?_⟩
  · rw [(hmembers c).1, (hmembers d).1] at heq
    exact h.fresh.once c hc d hd heq
  · rw [(hmembers c).1, (hmembers c).2.2]
    change _ = Function.update t.latest (names.upf id) (some feature) (names.upf (t.table.members c).nodeId)
    by_cases hcb : c = b
    · rw [if_pos hcb, hcb, hupf, Function.update_self]
    · have hne : names.upf (t.table.members c).nodeId ≠ names.upf id := by
        rw [← hupf]
        exact fun heq => hcb (h.fresh.once c hc b hb heq)
      rw [if_neg hcb, Function.update_of_ne hne]
      exact h.fresh.features c hc
  · rw [(hmembers c).1, (hmembers c).2.1]
    exact h.hash c hc
  · obtain ⟨c, hc, hx⟩ := h.timers x hx
    exact ⟨c, hc, by rw [(hmembers c).2.1]; exact hx⟩

/-- **New features.** -/
theorem update_ok {feature : φ} (h : t.Inv names) (hok : t.Ok names configs (.update order id feature)) :
    t.CallOk names configs (.update order id feature) ∧
      (t.step names configs (.update order id feature)).Inv names := by
  obtain ⟨horder, hspelled⟩ := hok
  have hinv : (t.step names configs (.update order id feature)).Inv names := by
    rcases getAssociation_cases id h horder with ⟨hget, hnone⟩ | ⟨b, hb, hget, hid⟩
    · have hstep : t.step names configs (.update order id feature) =
          ⟨t.table, Function.update t.latest (names.upf id) (some feature)⟩ := by
        simp only [step, AssociationTable.call, AssociationTable.updateAssociation, hget]
      rw [hstep]
      apply h.skip
      rintro b ⟨hb, heq⟩
      exact ((hspelled b hb).mp heq).elim (hnone b hb).1 (hnone b hb).2
    · have hstep : t.step names configs (.update order id feature) =
          ⟨t.table.setFeatures b feature, Function.update t.latest (names.upf id) (some feature)⟩ := by
        simp only [step, AssociationTable.call, AssociationTable.updateAssociation, hget]
      rw [hstep]
      exact h.setFeatures hb ((hspelled b hb).mpr hid) feature
  refine ⟨?_, hinv⟩
  constructor
  case fresh => exact hinv.fresh
  case restore => exact fun _ _ _ _ _ hc => by cases hc
  case returns => exact fun _ _ _ _ _ hc => by cases hc

/-- **In every run that associates no UPF again, each call does what is asked of it.** -/
theorem along_callOk (names : NodeNames κ) (configs : UpfConfigs) {t : Tracked κ φ}
    {calls : List (AssociationCall φ)} (h : t.Inv names)
    (hok : Along (step names configs) (Ok names configs) t calls) :
    Along (step names configs) (CallOk names configs) t calls := by
  have hone (t : Tracked κ φ) (c : AssociationCall φ) (h : t.Inv names) (hok : t.Ok names configs c) :
      t.CallOk names configs c ∧ (t.step names configs c).Inv names := by
    cases c with
    | add order insertOrder id stamp features => exact add_ok h hok
    | update order id feature => exact update_ok h hok
  exact hok.mono_of_invariant (I := Inv names) (fun t c h hok => (hone t c h hok).2)
    (fun t c h hok => (hone t c h hok).1) h

/-- **A UPF that is found when it is added has other features than those of the call.** -/
theorem reassociated_not_callOk (hb : b ∈ t.table.associationsGraph.nodes)
    (hget : t.table.getAssociation names order id = some b)
    (hupf : names.upf (t.table.members b).nodeId = names.upf id) :
    ¬ t.CallOk names configs (.add order insertOrder id stamp features) := by
  intro hok
  have hfeatures := hok.fresh.features b (by
    simpa [step, AssociationTable.call, AssociationTable.addAssociation, hget,
      AssociationTable.checkAssociationOnAdd, AssociationTable.triggerHeartbeatRequestProcedure] using hb)
  simp [step, AssociationTable.call, AssociationTable.addAssociation, hget,
    AssociationTable.checkAssociationOnAdd, AssociationTable.triggerHeartbeatRequestProcedure, hupf] at hfeatures
  cases features <;> simp at hfeatures

/-! ## One UPF -/

/-- No association. -/
def empty (names : NodeNames κ) : Tracked κ φ where
  table :=
    { associationsGraph := .empty
      members := fun _ => ⟨.ipv4 0, names.hash (.ipv4 0), 0, none, 0⟩
      timers := []
      nextTimer := 1
      nextPointer := 0 }
  latest := fun _ => none

omit [DecidableEq κ] [Zero φ] in
theorem inv_empty (names : NodeNames κ) : (empty names : Tracked κ φ).Inv names := by
  refine ⟨⟨?_, ?_⟩, ?_, ?_, ?_⟩ <;> simp [empty, UpfGraph.empty]

end Tracked

/-- `inet_ntop` of an address with its first octet in the low bits. -/
def dottedQuad (a : UInt32) : Str :=
  Numeral.dec (a.toNat % 256) ++ '.' :: (Numeral.dec (a.toNat / 256 % 256) ++ '.' ::
    (Numeral.dec (a.toNat / 65536 % 256) ++ '.' :: Numeral.dec (a.toNat / 16777216)))

theorem eq_of_append_separator {x y z w : Str} {c : Char} (hx : c ∉ x) (hy : c ∉ y)
    (h : x ++ c :: z = y ++ c :: w) : x = y ∧ z = w := by
  have hbefore (u v : Str) (hu : c ∉ u) : (u ++ c :: v).takeWhile (· ≠ c) = u := by
    rw [List.takeWhile_append_of_pos fun d hd => by simpa using ne_of_mem_of_not_mem hd hu]
    simp
  have hxy : x = y := by rw [← hbefore x z hx, h, hbefore y w hy]
  subst hxy
  exact ⟨rfl, (List.cons.inj (List.append_cancel_left h)).2⟩

theorem dottedQuad_injective : Function.Injective dottedQuad := by
  intro a b h
  have hdot (n : ℕ) : '.' ∉ Numeral.dec n := fun hmem => absurd (Numeral.isDigit_of_mem_dec hmem) (by decide)
  unfold dottedQuad at h
  obtain ⟨h0, h⟩ := eq_of_append_separator (hdot _) (hdot _) h
  obtain ⟨h1, h⟩ := eq_of_append_separator (hdot _) (hdot _) h
  obtain ⟨h2, h⟩ := eq_of_append_separator (hdot _) (hdot _) h
  have h0 := Numeral.dec_injective h0
  have h1 := Numeral.dec_injective h1
  have h2 := Numeral.dec_injective h2
  have h3 := Numeral.dec_injective h
  apply UInt32.toNat_inj.mp
  omega

/-- The text of an address. -/
def printAddress (a : UInt32) : String := String.ofList (dottedQuad a)

theorem printAddress_injective : Function.Injective printAddress :=
  fun _ _ h => dottedQuad_injective (String.ofList_injective h)

theorem printAddress_ne_upf (a : UInt32) : printAddress a ≠ "upf" := by
  intro h
  have hchars : dottedQuad a = ['u', 'p', 'f'] := String.ofList_injective h
  have hu : 'u' ∈ dottedQuad a := by
    rw [hchars]
    decide
  simp only [dottedQuad, List.mem_append, List.mem_cons] at hu
  have hdec (n : ℕ) : 'u' ∉ Numeral.dec n := fun hmem => absurd (Numeral.isDigit_of_mem_dec hmem) (by decide)
  simp [hdec] at hu

/-- DNS that knows the host `upf` at the address 10.0.0.1, and addresses that are written out. -/
noncomputable def oneHost : NodeNames NodeId where
  resolve name :=
    if name = "upf" then .ipv4 0x0100000A
    else
      match Function.partialInv printAddress name with
      | some a => .ipv4 a
      | none => .fails
  reverseResolve a := if a = 0x0100000A then some "upf" else none
  parse := Function.partialInv printAddress
  print := printAddress
  hash := id
  parse_print := Function.partialInv_left printAddress_injective
  resolve_parse name a h := by
    have hname : printAddress a = name := (printAddress_injective.isPartialInv a name).mp h
    rw [if_neg (hname ▸ printAddress_ne_upf a), h]
  hash_injective := Function.injective_id

namespace Tracked

/-- A configuration without UPFs: the profile of each is assumed. -/
abbrev noUpfs : UpfConfigs := ⟨[], []⟩

/-- The association of the host `upf`. -/
def upfAssociation : PfcpAssociation where
  nodeId := 0
  host := "upf"
  interfaceUpfInfoList := assumedInterfaces
  sNssaiUpfInfoList := []

theorem getUpfConfig_oneHost :
    getUpfConfig oneHost noUpfs (.fqdn "upf") = ⟨.fqdn "upf", "upf", assumedInterfaces, []⟩ := by
  have hparse : oneHost.parse "upf" = none := by
    cases hparse : oneHost.parse "upf" with
    | none => rfl
    | some a => exact absurd ((printAddress_injective.isPartialInv a "upf").mp hparse) (printAddress_ne_upf a)
  simp [getUpfConfig, NodeNames.generateNodeId, NodeNames.host, hparse]

theorem newAssociation_oneHost :
    (empty oneHost : Tracked NodeId ℕ).table.newAssociation oneHost noUpfs (.fqdn "upf") = upfAssociation := by
  simp [AssociationTable.newAssociation, getUpfConfig_oneHost, empty, upfAssociation]

theorem hasN3OrN6_upfAssociation : HasN3OrN6 upfAssociation :=
  Or.inr ⟨⟨.n3, "", [], ""⟩, List.mem_cons_self, Or.inl rfl⟩

/-- The first call: the host `upf` with the features 3. -/
def firstCall : AssociationCall ℕ := .add [] [upfAssociation] (.fqdn "upf") 1 (some 3)

theorem ok_firstCall : (empty oneHost : Tracked NodeId ℕ).Ok oneHost noUpfs firstCall := by
  refine ⟨⟨List.nodup_nil, rfl⟩, ⟨List.nodup_singleton _, ?_⟩, fun b hb => ?_, fun b hb => ?_, fun _ => ?_⟩
  · obtain ⟨hnodes, -, -⟩ := foldl_addUpfGraphEdge upfAssociation
      (createN3Edges upfAssociation ++ createN6Edges upfAssociation) UpfGraph.empty
    rw [newAssociation_oneHost]
    exact (hnodes (hasN3OrN6_iff.mp hasN3OrN6_upfAssociation)).symm
  · simp [empty, UpfGraph.empty] at hb
  · simp [AssociationTable.IsUpf, empty, UpfGraph.empty] at hb
  · rw [newAssociation_oneHost]
    exact Or.inl hasN3OrN6_upfAssociation

theorem step_firstCall :
    ((empty oneHost : Tracked NodeId ℕ).step oneHost noUpfs firstCall).table.associationsGraph.nodes =
        {upfAssociation} ∧
      ((empty oneHost : Tracked NodeId ℕ).step oneHost noUpfs firstCall).table.members upfAssociation =
        ⟨.fqdn "upf", .fqdn "upf", 1, some 3, 1⟩ := by
  obtain ⟨-, hinsert, -, -, hroom⟩ := ok_firstCall
  have hcard : (empty oneHost : Tracked NodeId ℕ).table.associationsGraph.nodes.card < PFCP_MAX_ASSOCIATIONS := by
    decide
  have hresolve : oneHost.resolveUpfHostname (.fqdn "upf") = some true := by
    simp [NodeNames.resolveUpfHostname, oneHost]
  have hnew := newAssociation_oneHost
  unfold firstCall
  rw [step_add rfl hresolve hcard]
  constructor
  · ext b
    refine (mem_insertAssociation (hroom hcard) hinsert).trans ?_
    rw [hnew]
    simp [empty, UpfGraph.empty]
  · rw [inserted, insertAssociation_members, hnew, if_pos rfl, newMembers, getUpfConfig_oneHost]
    rfl

/-- The UPF is added, and its features change. -/
theorem along_callOk_update :
    Along (step oneHost noUpfs) (CallOk oneHost noUpfs) (empty oneHost)
      [firstCall, .update [upfAssociation] (.fqdn "upf") 5] := by
  obtain ⟨hnodes, hmembers⟩ := step_firstCall
  apply along_callOk oneHost noUpfs (inv_empty oneHost)
  refine ⟨ok_firstCall, ⟨⟨List.nodup_singleton _, ?_⟩, fun b hb => ?_⟩, trivial⟩
  · rw [hnodes]
    rfl
  · rw [hnodes, Finset.mem_singleton] at hb
    subst hb
    rw [hmembers]
    simp

/-- **The UPF is added again, with other features.** -/
theorem along_readd_not_callOk :
    ¬ Along (step oneHost noUpfs) (CallOk oneHost noUpfs) (empty oneHost)
      [firstCall, .add [upfAssociation] [] (.fqdn "upf") 2 (some 5)] := by
  rintro ⟨-, hok, -⟩
  obtain ⟨hnodes, hmembers⟩ := step_firstCall
  apply reassociated_not_callOk (b := upfAssociation) ?_ ?_ ?_ hok
  · rw [hnodes]
    exact Finset.mem_singleton_self _
  · have hhash : oneHost.hash (.fqdn "upf") = .fqdn "upf" := rfl
    simp [AssociationTable.getAssociation, AssociationTable.getByHash, hmembers, hhash]
  · rw [hmembers]

end Tracked

end Oai5g.Smf
