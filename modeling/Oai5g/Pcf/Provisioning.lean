import Oai5g.Lib.Rows
import Oai5g.Lib.Numeral

/-!
# Policies provisioned from files

* `readAllPolicyFiles`: the rules of the files, and the decisions made from them.
* `PolicyStorage`, `findPolicy`: the decisions by SUPI, DNN and slice, and the default one.
* **`decisions_closed`**: every decision that is found refers to no traffic controls and QoS data that are not
  in it, and holds nothing that is not referred to. Alternative QoS parameters are not looked at.
* **`findPolicy_provisioned`**: which of the decisions of the files is found.

The objects of the files are parsed by `parse`, which is `from_json` with `validate`.
-/

namespace Oai5g.Pcf

/-! ## Rules and decisions -/

/-- A `std::map` with strings as keys, by its entries. -/
abbrev Table (α : Type) : Type := List (Str × α)

namespace Table

variable {α : Type} (t : Table α)

/-- `find` -/
def find (k : Str) : Option α := (firstRow Prod.fst t k).map Prod.snd

/-- `insert`: an entry that is there stays. -/
def insert (k : Str) (a : α) : Table α := insertRow Prod.fst t (k, a)

/-- The entries of `ids`, put into `used`. -/
def collect (used : Table α) (ids : List Str) : Table α :=
  ids.foldl (fun used id => ((t.find id).map fun a => used.insert id a).getD used) used

end Table

/-- `TrafficControlData`, with all but its id in one field. -/
structure TrafficControlData where
  tcId : Str
  other : Str
  deriving DecidableEq

/-- `QosData`, with all but its id in one field. -/
structure QosData where
  qosId : Str
  other : Str
  deriving DecidableEq

/-- The references of `refAltQosParams` are to QoS data as well. -/
structure PccRule where
  pccRuleId : Str
  refTcData : List Str
  refQosData : List Str
  refAltQosParams : List Str
  other : Str
  deriving DecidableEq

/-- `SmPolicyDecision`, as far as the files set it. -/
structure SmPolicyDecision where
  pccRules : Option (Table PccRule)
  traffContDecs : Option (Table TrafficControlData)
  qosDecs : Option (Table QosData)
  deriving DecidableEq

/-- `SmPolicyDecision decision = {}` -/
def SmPolicyDecision.empty : SmPolicyDecision := ⟨none, none, none⟩

/-- A slice as the policy files have it. -/
structure Snssai where
  sst : ℤ
  sd : Option Str
  deriving DecidableEq

/-- `policy_storage` -/
structure PolicyStorage where
  supiPolicyDecisions : Table SmPolicyDecision
  dnnPolicyDecisions : Table SmPolicyDecision
  slicePolicyDecisions : List (Snssai × SmPolicyDecision)
  defaultDecision : Option SmPolicyDecision

/-- Nothing is provisioned. -/
def PolicyStorage.empty : PolicyStorage := ⟨[], [], [], none⟩

/-- What `find_policy` reads of a `SmPolicyContextData`. -/
structure PolicyContext where
  supi : Str
  dnn : Str
  sliceInfo : Snssai

namespace PolicyStorage

variable (storage : PolicyStorage) (decision : SmPolicyDecision)

/-- `set_default_decision` -/
def setDefaultDecision : PolicyStorage := { storage with defaultDecision := some decision }

/-- `insert_supi_decision` -/
def insertSupiDecision (supi : Str) : PolicyStorage :=
  { storage with supiPolicyDecisions := storage.supiPolicyDecisions.insert supi decision }

/-- `insert_dnn_decision` -/
def insertDnnDecision (dnn : Str) : PolicyStorage :=
  { storage with dnnPolicyDecisions := storage.dnnPolicyDecisions.insert dnn decision }

/-- `insert_slice_decision` -/
def insertSliceDecision (slice : Snssai) : PolicyStorage :=
  { storage with
    slicePolicyDecisions := insertRow Prod.fst storage.slicePolicyDecisions (slice, decision) }

/-- `policy_storage::find_policy` -/
def findPolicy (context : PolicyContext) : Option SmPolicyDecision :=
  match storage.supiPolicyDecisions.find context.supi with
  | some decision => some decision
  | none =>
    match storage.dnnPolicyDecisions.find context.dnn with
    | some decision => some decision
    | none =>
      match firstRow Prod.fst storage.slicePolicyDecisions context.sliceInfo with
      | some entry => some entry.2
      | none => storage.defaultDecision

end PolicyStorage

/-! ## The files -/

/-- A value of a YAML document that is read as a string; `none` is one that is none. -/
abbrev Scalar : Type := Option Str

/-- A decision in a file. `slice` is `none` inside where its parts cannot be read. -/
structure DecisionNode where
  pccRules : Option (List Scalar)
  supiImsi : Option Scalar
  dnn : Option Scalar
  slice : Option (Option Snssai)

/-- The documents of the four directories, with their objects as JSON texts under their names. -/
structure PolicyFiles where
  trafficControls : List (Table Str)
  pccRules : List (Table Str)
  policyDecisions : List (Table DecisionNode)
  qosData : List (Table Str)

/-- `from_json` and `validate` of the three models. -/
structure Parsers where
  trafficControl : Str → Option TrafficControlData
  pccRule : Str → Option PccRule
  qosData : Str → Option QosData

/-- `convert_yaml_to_model` -/
def convertYamlToModel {α : Type} (parse : Str → Option α) (nodes : List (Table Str)) : Table α :=
  nodes.flatten.foldl (fun objects elem =>
    ((parse elem.2).map fun obj => objects.insert elem.1 obj).getD objects) []

/-- `remove_ids_not_in_map` -/
def removeIdsNotInMap {α : Type} (map : Table α) (ids : List Str) : List Str :=
  ids.filter fun id => (map.find id).isSome

/-- `decision_from_rules` -/
def decisionFromRules (node : DecisionNode) (pccRules : Table PccRule)
    (trafficControl : Table TrafficControlData) (qosData : Table QosData) : SmPolicyDecision :=
  match node.pccRules with
  | none => .empty
  | some keys =>
    if none ∈ keys then .empty
    else
      let used := pccRules.collect [] keys.reduceOption
      if used = [] then .empty
      else
        { pccRules := some used
          traffContDecs := some (used.foldl (fun t rule => trafficControl.collect t rule.2.refTcData) [])
          qosDecs := some (used.foldl (fun t rule => qosData.collect t rule.2.refQosData) []) }

/-- The decision goes to where its node says; an exception that is not caught gives `none`. -/
def insertDecision (storage : PolicyStorage) (node : DecisionNode) (decision : SmPolicyDecision) :
    Option PolicyStorage :=
  match node.supiImsi with
  | some supi => supi.map fun supi => storage.insertSupiDecision decision ("imsi-".toList ++ supi)
  | none =>
    match node.dnn with
    | some dnn => dnn.map fun dnn => storage.insertDnnDecision decision dnn
    | none =>
      match node.slice with
      | some none => some storage
      | some (some slice) => some (storage.insertSliceDecision decision slice)
      | none => some (storage.setDefaultDecision decision)

section

variable (parse : Parsers) (files : PolicyFiles)

/-- The traffic controls, with the names of the files as their ids. -/
def trafficControlObjects : Table TrafficControlData :=
  (convertYamlToModel parse.trafficControl files.trafficControls).map fun x =>
    (x.1, { x.2 with tcId := x.1 })

/-- The QoS data of the files, each with its key as its id. -/
def qosDataObjects : Table QosData :=
  (convertYamlToModel parse.qosData files.qosData).map fun x => (x.1, { x.2 with qosId := x.1 })

/-- The PCC rules, with the references that there is something for. `refAltQosParams` stays as it is. -/
def pccRuleObjects : Table PccRule :=
  (convertYamlToModel parse.pccRule files.pccRules).map fun x =>
    (x.1, { x.2 with
      pccRuleId := x.1
      refTcData := removeIdsNotInMap (trafficControlObjects parse files) x.2.refTcData
      refQosData := removeIdsNotInMap (qosDataObjects parse files) x.2.refQosData })

/-- The decision of a node of the files. -/
def decisionOf (node : DecisionNode) : SmPolicyDecision :=
  decisionFromRules node (pccRuleObjects parse files) (trafficControlObjects parse files)
    (qosDataObjects parse files)

/-- One turn of the loop over the decisions. -/
def readDecision (storage : PolicyStorage) (node : DecisionNode) : Option PolicyStorage :=
  if (decisionOf parse files node).pccRules.isNone then some storage
  else insertDecision storage node (decisionOf parse files node)

/-- `policy_provisioning_file::read_all_policy_files` -/
def readAllPolicyFiles (storage : PolicyStorage) : Option (Bool × PolicyStorage) :=
  if files.pccRules = [] then some (false, storage)
  else if files.policyDecisions = [] then some (false, storage)
  else if convertYamlToModel parse.pccRule files.pccRules = [] then some (false, storage)
  else (files.policyDecisions.flatten.foldlM (fun storage entry => readDecision parse files storage entry.2)
    storage).map fun storage => (true, storage)

end

/-! ## Collected entries -/

namespace Table

variable {α : Type} {t used : Table α} {k : Str} {a : α} {ids : List Str} {y : Str × α}

theorem find_eq_some_iff_firstRow : t.find k = some a ↔ firstRow Prod.fst t k = some (k, a) := by
  unfold find
  rw [Option.map_eq_some_iff]
  constructor
  · rintro ⟨y, hy, rfl⟩
    rw [hy, ← key_of_firstRow hy]
  · exact fun h => ⟨(k, a), h, rfl⟩

theorem mem_of_find (h : t.find k = some a) : (k, a) ∈ t :=
  List.mem_of_find?_eq_some (find_eq_some_iff_firstRow.mp h)

theorem isSome_find_iff : (t.find k).isSome ↔ k ∈ t.map Prod.fst := by
  unfold find
  rw [Option.isSome_map, Option.isSome_iff_ne_none, ne_eq, firstRow_eq_none_iff, not_not]

theorem collect_cons (id : Str) : t.collect used (id :: ids) =
    t.collect (((t.find id).map fun a => used.insert id a).getD used) ids := rfl

theorem mem_collect (h : y ∈ t.collect used ids) : y ∈ used ∨ y.1 ∈ ids ∧ t.find y.1 = some y.2 := by
  induction ids generalizing used with
  | nil => exact .inl h
  | cons id ids ih =>
    rw [collect_cons] at h
    rcases ih h with hmem | ⟨hid, hfind⟩
    · cases ha : t.find id with
      | none =>
        rw [ha] at hmem
        exact .inl hmem
      | some a =>
        rw [ha] at hmem
        rcases mem_insertRow hmem with hmem | rfl
        · exact .inl hmem
        · exact .inr ⟨List.mem_cons_self, ha⟩
    · exact .inr ⟨List.mem_cons_of_mem _ hid, hfind⟩

theorem find_insert (k : Str) (a : α) (k' : Str) :
    (t.insert k a).find k' = (t.find k').or (if k = k' then some a else none) := by
  unfold find insert
  rw [firstRow_insertRow, Option.map_or]
  congr 1
  by_cases hk : k = k' <;> simp [hk]

theorem insert_keys (k : Str) (a : α) :
    k ∈ (t.insert k a).map Prod.fst ∧ ∀ k' ∈ t.map Prod.fst, k' ∈ (t.insert k a).map Prod.fst := by
  unfold insert insertRow
  split_ifs with h
  · refine ⟨?_, fun _ h => h⟩
    rw [← isSome_find_iff, find, Option.isSome_map]
    exact h
  · rw [List.map_append]
    exact ⟨List.mem_append_right _ (List.mem_singleton.mpr rfl), fun _ h => List.mem_append_left _ h⟩

theorem collect_keys :
    (∀ k ∈ used.map Prod.fst, k ∈ (t.collect used ids).map Prod.fst) ∧
      ∀ id ∈ ids, id ∈ t.map Prod.fst → id ∈ (t.collect used ids).map Prod.fst := by
  induction ids generalizing used with
  | nil => exact ⟨fun _ h => h, fun _ h => by cases h⟩
  | cons id ids ih =>
    rw [collect_cons]
    cases ha : t.find id with
    | none =>
      refine ⟨ih.1, fun k hk hmem => ?_⟩
      rcases List.mem_cons.mp hk with rfl | hk
      · rw [← isSome_find_iff, ha] at hmem
        cases hmem
      · exact ih.2 k hk hmem
    | some a =>
      have hinsert := insert_keys (t := used) id a
      refine ⟨fun k hk => ih.1 k (hinsert.2 k hk), fun k hk hmem => ?_⟩
      rcases List.mem_cons.mp hk with rfl | hk
      · exact ih.1 k hinsert.1
      · exact ih.2 k hk hmem

theorem nodup_collect (h : (used.map Prod.fst).Nodup) : ((t.collect used ids).map Prod.fst).Nodup := by
  induction ids generalizing used with
  | nil => exact h
  | cons id ids ih =>
    rw [collect_cons]
    cases t.find id with
    | none => exact ih h
    | some a => exact ih (nodup_insertRow h _)

end Table

/-! ## Closed decisions -/

/-- The ids are the keys, every traffic control and QoS reference of a rule is to an entry, and every entry
is referred to. -/
structure ClosedTables (rules : Table PccRule) (traffContDecs : Table TrafficControlData)
    (qosDecs : Table QosData) : Prop where
  nonempty : rules ≠ []
  nodup : (rules.map Prod.fst).Nodup ∧ (traffContDecs.map Prod.fst).Nodup ∧ (qosDecs.map Prod.fst).Nodup
  ruleIds : ∀ x ∈ rules, x.2.pccRuleId = x.1
  tcIds : ∀ y ∈ traffContDecs, y.2.tcId = y.1
  qosIds : ∀ y ∈ qosDecs, y.2.qosId = y.1
  tcRefs : ∀ x ∈ rules, ∀ id ∈ x.2.refTcData, id ∈ traffContDecs.map Prod.fst
  qosRefs : ∀ x ∈ rules, ∀ id ∈ x.2.refQosData, id ∈ qosDecs.map Prod.fst
  tcUsed : ∀ y ∈ traffContDecs, ∃ x ∈ rules, y.1 ∈ x.2.refTcData
  qosUsed : ∀ y ∈ qosDecs, ∃ x ∈ rules, y.1 ∈ x.2.refQosData

/-- A decision whose tables are there and closed. -/
def SmPolicyDecision.Closed (d : SmPolicyDecision) : Prop :=
  ∃ rules traffContDecs qosDecs, d = ⟨some rules, some traffContDecs, some qosDecs⟩ ∧
    ClosedTables rules traffContDecs qosDecs

/-- The entries that the references of some rules collect. -/
structure Collected {α : Type} (t : Table α) (refs : PccRule → List Str) (rules : Table PccRule)
    (collected : Table α) : Prop where
  nodup : (collected.map Prod.fst).Nodup
  found : ∀ y ∈ collected, t.find y.1 = some y.2
  used : ∀ y ∈ collected, ∃ x ∈ rules, y.1 ∈ refs x.2
  all : ∀ x ∈ rules, ∀ id ∈ refs x.2, id ∈ t.map Prod.fst → id ∈ collected.map Prod.fst

theorem collected_foldl {α : Type} (t : Table α) (refs : PccRule → List Str) (rules : Table PccRule) :
    Collected t refs rules (rules.foldl (fun used rule => t.collect used (refs rule.2)) []) := by
  induction rules using List.reverseRecOn with
  | nil => constructor <;> simp
  | append_singleton rules rule ih =>
    rw [List.foldl_append, List.foldl_cons, List.foldl_nil]
    refine ⟨Table.nodup_collect ih.nodup, fun y hy => ?_, fun y hy => ?_, fun x hx id hid hmem => ?_⟩
    · rcases Table.mem_collect hy with hy | ⟨-, hfind⟩
      · exact ih.found y hy
      · exact hfind
    · rcases Table.mem_collect hy with hy | ⟨hid, -⟩
      · obtain ⟨x, hx, hxy⟩ := ih.used y hy
        exact ⟨x, List.mem_append_left _ hx, hxy⟩
      · exact ⟨rule, by simp, hid⟩
    · rcases List.mem_append.mp hx with hx | hx
      · exact Table.collect_keys.1 id (ih.all x hx id hid hmem)
      · obtain rfl := List.mem_singleton.mp hx
        exact Table.collect_keys.2 id hid hmem

section

variable {parse : Parsers} {files : PolicyFiles} {node : DecisionNode}

/-- **The decision of a node is closed**, unless it has no rules at all. -/
theorem decisionOf_closed (h : (decisionOf parse files node).pccRules.isNone = false) :
    (decisionOf parse files node).Closed := by
  unfold decisionOf decisionFromRules at h ⊢
  cases hkeys : node.pccRules with
  | none =>
    rw [hkeys] at h
    cases h
  | some keys =>
    rw [hkeys] at h
    dsimp only at h ⊢
    split_ifs at h ⊢ with hnone hused
    · cases h
    · cases h
    · have hmem : ∀ x ∈ (pccRuleObjects parse files).collect [] keys.reduceOption,
          x ∈ pccRuleObjects parse files := by
        intro x hx
        rcases Table.mem_collect hx with hx | ⟨-, hfind⟩
        · cases hx
        · exact Table.mem_of_find hfind
      have htc := collected_foldl (trafficControlObjects parse files) PccRule.refTcData
        ((pccRuleObjects parse files).collect [] keys.reduceOption)
      have hqos := collected_foldl (qosDataObjects parse files) PccRule.refQosData
        ((pccRuleObjects parse files).collect [] keys.reduceOption)
      refine ⟨_, _, _, rfl, hused, ⟨Table.nodup_collect List.nodup_nil, htc.nodup, hqos.nodup⟩,
        fun x hx => ?_, fun y hy => ?_, fun y hy => ?_, fun x hx id hid => ?_, fun x hx id hid => ?_,
        htc.used, hqos.used⟩
      · obtain ⟨z, -, rfl⟩ := List.mem_map.mp (hmem x hx)
        rfl
      · obtain ⟨z, -, hz⟩ := List.mem_map.mp (Table.mem_of_find (htc.found y hy))
        obtain ⟨hkey, hentry⟩ := Prod.mk.inj hz
        exact (congrArg TrafficControlData.tcId hentry).symm.trans hkey
      · obtain ⟨z, -, hz⟩ := List.mem_map.mp (Table.mem_of_find (hqos.found y hy))
        obtain ⟨hkey, hentry⟩ := Prod.mk.inj hz
        exact (congrArg QosData.qosId hentry).symm.trans hkey
      · refine htc.all x hx id hid ?_
        obtain ⟨z, -, rfl⟩ := List.mem_map.mp (hmem x hx)
        exact Table.isSome_find_iff.mp (List.mem_filter.mp hid).2
      · refine hqos.all x hx id hid ?_
        obtain ⟨z, -, rfl⟩ := List.mem_map.mp (hmem x hx)
        exact Table.isSome_find_iff.mp (List.mem_filter.mp hid).2

end

/-! ## What is found -/

/-- Where the decision of a node goes; `unread` is a slice that cannot be read. -/
inductive Target
  | supi (supi : Str)
  | dnn (dnn : Str)
  | slice (slice : Snssai)
  | unread
  | default
  deriving DecidableEq

/-- The target of a node; `none` is an exception that is not caught. -/
def DecisionNode.target (node : DecisionNode) : Option Target :=
  match node.supiImsi with
  | some supi => supi.map fun supi => .supi ("imsi-".toList ++ supi)
  | none =>
    match node.dnn with
    | some dnn => dnn.map .dnn
    | none =>
      match node.slice with
      | some none => some .unread
      | some (some slice) => some (.slice slice)
      | none => some .default

/-- A decision is put where it goes. -/
def PolicyStorage.insertAt (storage : PolicyStorage) (entry : Target × SmPolicyDecision) : PolicyStorage :=
  match entry.1 with
  | .supi supi => storage.insertSupiDecision entry.2 supi
  | .dnn dnn => storage.insertDnnDecision entry.2 dnn
  | .slice slice => storage.insertSliceDecision entry.2 slice
  | .unread => storage
  | .default => storage.setDefaultDecision entry.2

/-- The decisions of the files with their targets, in the order in which they are read. -/
def provisioned (parse : Parsers) (files : PolicyFiles) : List (Target × SmPolicyDecision) :=
  files.policyDecisions.flatten.filterMap fun entry =>
    if (decisionOf parse files entry.2).pccRules.isNone then none
    else entry.2.target.map fun target => (target, decisionOf parse files entry.2)

/-- The first decision for a target. -/
def firstFor (entries : List (Target × SmPolicyDecision)) (target : Target) : Option SmPolicyDecision :=
  (firstRow Prod.fst entries target).map Prod.snd

section

variable {parse : Parsers} {files : PolicyFiles} {storage storage' : PolicyStorage}

theorem insertDecision_eq (node : DecisionNode) (decision : SmPolicyDecision) :
    insertDecision storage node decision =
      node.target.map fun target => storage.insertAt (target, decision) := by
  unfold insertDecision DecisionNode.target
  cases node.supiImsi with
  | some supi => cases supi <;> rfl
  | none =>
    dsimp only
    cases node.dnn with
    | some dnn => cases dnn <;> rfl
    | none =>
      dsimp only
      cases node.slice with
      | none => rfl
      | some slice => cases slice <;> rfl

/-- **The storage after the files were read** holds the decisions as they were put into it. -/
theorem readAllPolicyFiles_storage {ok : Bool}
    (h : readAllPolicyFiles parse files storage = some (ok, storage')) :
    storage' = if ok then (provisioned parse files).foldl PolicyStorage.insertAt storage else storage := by
  unfold readAllPolicyFiles at h
  split_ifs at h
  · cases h
    rfl
  · cases h
    rfl
  · cases h
    rfl
  · obtain ⟨result, hresult, hpair⟩ := Option.map_eq_some_iff.mp h
    cases hpair
    rw [if_pos rfl, provisioned]
    clear h
    generalize files.policyDecisions.flatten = entries at *
    induction entries generalizing storage with
    | nil =>
      cases hresult
      rfl
    | cons entry entries ih =>
      rw [List.foldlM_cons, readDecision, insertDecision_eq] at hresult
      rw [List.filterMap_cons]
      by_cases hnone : (decisionOf parse files entry.2).pccRules.isNone = true
      · rw [if_pos hnone] at hresult ⊢
        exact ih hresult
      · rw [if_neg hnone] at hresult ⊢
        cases htarget : entry.2.target with
        | none =>
          rw [htarget] at hresult
          cases hresult
        | some target =>
          rw [htarget] at hresult
          exact ih hresult

theorem firstFor_cons (entry : Target × SmPolicyDecision) (entries : List (Target × SmPolicyDecision))
    (target : Target) : firstFor (entry :: entries) target =
      (if entry.1 = target then some entry.2 else none).or (firstFor entries target) := by
  unfold firstFor
  rw [firstRow_cons]
  by_cases h : entry.1 = target <;> simp [h]

theorem firstFor_append_singleton (entry : Target × SmPolicyDecision)
    (entries : List (Target × SmPolicyDecision)) (target : Target) : firstFor (entries ++ [entry]) target =
      (firstFor entries target).or (if entry.1 = target then some entry.2 else none) := by
  unfold firstFor
  rw [firstRow_append_singleton, Option.map_or]
  congr 1
  by_cases h : entry.1 = target <;> simp [h]

theorem insertAt_find (storage : PolicyStorage) (entry : Target × SmPolicyDecision) :
    (∀ supi, (storage.insertAt entry).supiPolicyDecisions.find supi =
      (storage.supiPolicyDecisions.find supi).or (if entry.1 = .supi supi then some entry.2 else none)) ∧
    (∀ dnn, (storage.insertAt entry).dnnPolicyDecisions.find dnn =
      (storage.dnnPolicyDecisions.find dnn).or (if entry.1 = .dnn dnn then some entry.2 else none)) ∧
    (∀ slice, (firstRow Prod.fst (storage.insertAt entry).slicePolicyDecisions slice).map Prod.snd =
      ((firstRow Prod.fst storage.slicePolicyDecisions slice).map Prod.snd).or
        (if entry.1 = .slice slice then some entry.2 else none)) ∧
    (storage.insertAt entry).defaultDecision =
      (if entry.1 = .default then some entry.2 else none).or storage.defaultDecision := by
  obtain ⟨target, decision⟩ := entry
  unfold PolicyStorage.insertAt
  cases target with
  | supi supi =>
    simp only [PolicyStorage.insertSupiDecision, Target.supi.injEq, reduceCtorEq, if_false, Option.or_none,
      Option.none_or, implies_true, and_true]
    exact Table.find_insert supi decision
  | dnn dnn =>
    simp only [PolicyStorage.insertDnnDecision, Target.dnn.injEq, reduceCtorEq, if_false, Option.or_none,
      Option.none_or, implies_true, true_and, and_true]
    exact Table.find_insert dnn decision
  | slice slice =>
    simp only [PolicyStorage.insertSliceDecision, Target.slice.injEq, reduceCtorEq, if_false, Option.or_none,
      Option.none_or, implies_true, true_and, and_true]
    intro k
    rw [firstRow_insertRow, Option.map_or]
    congr 1
    by_cases hk : slice = k <;> simp [hk]
  | unread => simp
  | default => simp [PolicyStorage.setDefaultDecision]

theorem foldl_insertAt (entries : List (Target × SmPolicyDecision)) (storage : PolicyStorage) :
    (∀ supi, (entries.foldl PolicyStorage.insertAt storage).supiPolicyDecisions.find supi =
      (storage.supiPolicyDecisions.find supi).or (firstFor entries (.supi supi))) ∧
    (∀ dnn, (entries.foldl PolicyStorage.insertAt storage).dnnPolicyDecisions.find dnn =
      (storage.dnnPolicyDecisions.find dnn).or (firstFor entries (.dnn dnn))) ∧
    (∀ slice, (firstRow Prod.fst (entries.foldl PolicyStorage.insertAt storage).slicePolicyDecisions
        slice).map Prod.snd =
      ((firstRow Prod.fst storage.slicePolicyDecisions slice).map Prod.snd).or
        (firstFor entries (.slice slice))) ∧
    (entries.foldl PolicyStorage.insertAt storage).defaultDecision =
      (firstFor entries.reverse .default).or storage.defaultDecision := by
  induction entries generalizing storage with
  | nil => simp [firstFor, firstRow_nil]
  | cons entry entries ih =>
    obtain ⟨hsupi, hdnn, hslice, hdefault⟩ := insertAt_find storage entry
    obtain ⟨isupi, idnn, islice, idefault⟩ := ih (storage.insertAt entry)
    rw [List.foldl_cons]
    refine ⟨fun k => ?_, fun k => ?_, fun k => ?_, ?_⟩
    · rw [isupi, hsupi, firstFor_cons, Option.or_assoc]
    · rw [idnn, hdnn, firstFor_cons, Option.or_assoc]
    · rw [islice, hslice, firstFor_cons, Option.or_assoc]
    · rw [idefault, hdefault, List.reverse_cons, firstFor_append_singleton, Option.or_assoc]

theorem findPolicy_eq (storage : PolicyStorage) (context : PolicyContext) : storage.findPolicy context =
    (((storage.supiPolicyDecisions.find context.supi).or
      (storage.dnnPolicyDecisions.find context.dnn)).or
        ((firstRow Prod.fst storage.slicePolicyDecisions context.sliceInfo).map Prod.snd)).or
          storage.defaultDecision := by
  unfold PolicyStorage.findPolicy
  cases storage.supiPolicyDecisions.find context.supi with
  | some decision => rfl
  | none =>
    cases storage.dnnPolicyDecisions.find context.dnn with
    | some decision => rfl
    | none => cases firstRow Prod.fst storage.slicePolicyDecisions context.sliceInfo <;> rfl

end

/-- **Which decision of the files is found**: the first one for the SUPI, else for the DNN, else for the
slice, else the last one for no target. -/
theorem findPolicy_provisioned (parse : Parsers) (files : PolicyFiles) {storage : PolicyStorage}
    (h : readAllPolicyFiles parse files .empty = some (true, storage)) (context : PolicyContext) :
    storage.findPolicy context =
      (((firstFor (provisioned parse files) (.supi context.supi)).or
        (firstFor (provisioned parse files) (.dnn context.dnn))).or
          (firstFor (provisioned parse files) (.slice context.sliceInfo))).or
            (firstFor (provisioned parse files).reverse .default) := by
  have hstorage := readAllPolicyFiles_storage h
  rw [if_pos rfl] at hstorage
  obtain ⟨hsupi, hdnn, hslice, hdefault⟩ := foldl_insertAt (provisioned parse files) .empty
  rw [findPolicy_eq, hstorage, hsupi, hdnn, hslice, hdefault]
  simp [PolicyStorage.empty, Table.find, firstRow_nil]

/-- Parsers of which every object is accepted; every PCC rule refers to the traffic controls `a` and `b` and to
the QoS data `q` and `c`. -/
def exampleParsers : Parsers where
  trafficControl json := some ⟨[], json⟩
  pccRule json := some ⟨[], [['a'], ['b']], [['q'], ['c']], [['c']], json⟩
  qosData json := some ⟨[], json⟩

/-- One traffic control, QoS data, one PCC rule, and two decisions for the DNN `d`. -/
def exampleFiles : PolicyFiles where
  trafficControls := [[(['a'], ['x'])]]
  pccRules := [[(['r'], ['y'])]]
  policyDecisions := [[(['1'], ⟨some [some ['r']], none, some (some ['d']), none⟩),
    (['2'], ⟨some [some ['r'], some ['s']], none, some (some ['d']), none⟩)]]
  qosData := [[(['q'], ['z'])]]

theorem findPolicy_provisioned_dnn : ∃ storage,
    readAllPolicyFiles exampleParsers exampleFiles .empty = some (true, storage) ∧
    (firstFor (provisioned exampleParsers exampleFiles) (.dnn ['d'])).isSome ∧
    storage.findPolicy ⟨[], ['d'], ⟨1, none⟩⟩ =
      (((firstFor (provisioned exampleParsers exampleFiles) (.supi [])).or
        (firstFor (provisioned exampleParsers exampleFiles) (.dnn ['d']))).or
          (firstFor (provisioned exampleParsers exampleFiles) (.slice ⟨1, none⟩))).or
            (firstFor (provisioned exampleParsers exampleFiles).reverse .default) :=
  ⟨_, rfl, rfl, findPolicy_provisioned exampleParsers exampleFiles rfl ⟨[], ['d'], ⟨1, none⟩⟩⟩

/-- Every decision of a storage meets `P`. -/
structure PolicyStorage.All (P : SmPolicyDecision → Prop) (storage : PolicyStorage) : Prop where
  supi : ∀ supi d, storage.supiPolicyDecisions.find supi = some d → P d
  dnn : ∀ dnn d, storage.dnnPolicyDecisions.find dnn = some d → P d
  slice : ∀ slice d, (firstRow Prod.fst storage.slicePolicyDecisions slice).map Prod.snd = some d → P d
  default : ∀ d, storage.defaultDecision = some d → P d

section

variable {P : SmPolicyDecision → Prop} {storage storage' : PolicyStorage}

theorem firstFor_mem {entries : List (Target × SmPolicyDecision)} {target : Target} {d : SmPolicyDecision}
    (h : firstFor entries target = some d) : ∃ entry ∈ entries, entry.2 = d := by
  obtain ⟨entry, hentry, rfl⟩ := Option.map_eq_some_iff.mp h
  exact ⟨entry, List.mem_of_find?_eq_some hentry, rfl⟩

theorem PolicyStorage.All.insertAll (hs : storage.All P) {entries : List (Target × SmPolicyDecision)}
    (h : ∀ entry ∈ entries, P entry.2) : (entries.foldl PolicyStorage.insertAt storage).All P := by
  obtain ⟨hsupi, hdnn, hslice, hdefault⟩ := foldl_insertAt entries storage
  have hnew : ∀ {target d}, firstFor entries target = some d → P d := by
    intro target d hd
    obtain ⟨entry, hmem, rfl⟩ := firstFor_mem hd
    exact h entry hmem
  refine ⟨fun k d hd => ?_, fun k d hd => ?_, fun k d hd => ?_, fun d hd => ?_⟩
  · rw [hsupi, Option.or_eq_some_iff] at hd
    exact hd.elim (hs.supi k d) fun hd => hnew hd.2
  · rw [hdnn, Option.or_eq_some_iff] at hd
    exact hd.elim (hs.dnn k d) fun hd => hnew hd.2
  · rw [hslice, Option.or_eq_some_iff] at hd
    exact hd.elim (hs.slice k d) fun hd => hnew hd.2
  · rw [hdefault, Option.or_eq_some_iff] at hd
    refine hd.elim (fun hd => ?_) fun hd => hs.default d hd.2
    obtain ⟨entry, hmem, rfl⟩ := firstFor_mem hd
    exact h entry (List.mem_reverse.mp hmem)

theorem PolicyStorage.All.find (hs : storage.All P) {context : PolicyContext} {d : SmPolicyDecision}
    (hfound : storage.findPolicy context = some d) : P d := by
  rw [findPolicy_eq, Option.or_eq_some_iff, Option.or_eq_some_iff, Option.or_eq_some_iff] at hfound
  rcases hfound with ((h | ⟨-, h⟩) | ⟨-, h⟩) | ⟨-, h⟩
  · exact hs.supi _ d h
  · exact hs.dnn _ d h
  · exact hs.slice _ d h
  · exact hs.default d h

theorem readAllPolicyFiles_closed {parse : Parsers} {files : PolicyFiles} {ok : Bool}
    (hs : storage.All SmPolicyDecision.Closed)
    (h : readAllPolicyFiles parse files storage = some (ok, storage')) :
    storage'.All SmPolicyDecision.Closed := by
  rw [readAllPolicyFiles_storage h]
  split_ifs
  · refine hs.insertAll fun entry hentry => ?_
    obtain ⟨node, -, hnode⟩ := List.mem_filterMap.mp hentry
    split_ifs at hnode with hnone
    obtain ⟨target, -, rfl⟩ := Option.map_eq_some_iff.mp hnode
    exact decisionOf_closed ((Bool.not_eq_true _).mp hnone)
  · exact hs

end

/-- **Every decision that is found is closed**, whatever files were read one after the other. -/
theorem decisions_closed (parse : Parsers) (readings : List PolicyFiles) {storage : PolicyStorage}
    (h : readings.foldlM (fun storage files => (readAllPolicyFiles parse files storage).map Prod.snd)
      PolicyStorage.empty = some storage) (context : PolicyContext) {decision : SmPolicyDecision}
    (hfound : storage.findPolicy context = some decision) : decision.Closed := by
  have hall : storage.All SmPolicyDecision.Closed := by
    clear hfound
    induction readings using List.reverseRecOn generalizing storage with
    | nil =>
      cases h
      constructor <;> simp [PolicyStorage.empty, Table.find, firstRow_nil]
    | append_singleton readings files ih =>
      rw [List.foldlM_append] at h
      obtain ⟨before, hbefore, hlast⟩ := Option.bind_eq_some_iff.mp h
      rw [List.foldlM_cons] at hlast
      obtain ⟨after, hafter, hnil⟩ := Option.bind_eq_some_iff.mp hlast
      cases hnil
      obtain ⟨result, hresult, rfl⟩ := Option.map_eq_some_iff.mp hafter
      exact readAllPolicyFiles_closed (ih hbefore) hresult
  exact hall.find hfound

/-- The references to `b` and `c`, which no file has, are gone. -/
theorem decisions_closed_dnn : ∃ storage decision,
    [exampleFiles, exampleFiles].foldlM (fun storage files =>
      (readAllPolicyFiles exampleParsers files storage).map Prod.snd) PolicyStorage.empty = some storage ∧
    storage.findPolicy ⟨[], ['d'], ⟨1, none⟩⟩ = some decision ∧ decision.Closed :=
  ⟨_, _, rfl, rfl, decisions_closed exampleParsers [exampleFiles, exampleFiles] rfl ⟨[], ['d'], ⟨1, none⟩⟩ rfl⟩

end Oai5g.Pcf
