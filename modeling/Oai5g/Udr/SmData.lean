import Oai5g.Udr.Databases

/-!
# Session management data

* `SmTable`: the table `SessionManagementSubscriptionData`, a list of rows. `SetToken`, `parseSet`: what a
  `SET` clause glued from fragments says, if it is one.
* `createSmData`, `updateSmData`, `querySmData`, `deleteSmData` of `mysql_db`.
* `KeptPerSnssai`: they keep the data of each S-NSSAI apart and give it back.
* **`keptPerSnssai_iff`**: exactly for which tables and data they do.

The columns of a request are JSON texts without quotes and backslashes that MySQL would read in another
way, and the database is reachable.
-/

namespace Oai5g.Udr

/-! ## Data and rows -/

/-- `Snssai`; `sd` keeps its value when it is unset. -/
structure Snssai where
  sst : ℤ
  sd : Str
  sdIsSet : Bool
  deriving DecidableEq

/-- `SD_DEFAULT_VALUE` -/
def SD_DEFAULT_VALUE : Str := "FFFFFF".toList

/-- The optional attributes of `SessionManagementSubscriptionData`, but `internalGroupIds`. -/
inductive SmAttribute
  | sharedDnnConfigurationsId
  | sharedTraceDataId
  | r3gppChargingCharacteristics
  | dnnConfigurations
  | sharedVnGroupDataIds
  | odbPacketServices
  | traceData
  | expectedUeBehavioursList
  | suggestedPacketNumDlList
  deriving DecidableEq

/-- `SessionManagementSubscriptionData`; an attribute that is not set is `none`. -/
structure SmData where
  singleNssai : Snssai
  internalGroupIds : Option (List Str)
  attributes : Attributes SmAttribute

/-- A JSON text in the column `internalGroupIds`. -/
inductive GroupIdsColumn
  | array (ids : List Str)
  | object

/-- A row of the session management subscription data. -/
structure SmRow where
  subscriptionId : ℕ
  ueid : Str
  servingPlmnid : Str
  /-- `sst` and `sd` of the JSON object `singleNssai`. -/
  sst : ℤ
  sd : Option Str
  internalGroupIds : Option GroupIdsColumn
  columns : Attributes SmAttribute

/-- The rows, and the next number of `subscriptionId`. -/
structure SmTable where
  rows : List SmRow
  autoIncrement : ℕ

/-- The JSON object of a `SessionManagementSubscriptionData`. -/
@[ext] structure SmJson where
  sst : ℤ
  sd : Option Str
  internalGroupIds : Option (List Str)
  attributes : Attributes SmAttribute

/-- `to_json` -/
def SmData.toJson (d : SmData) : SmJson :=
  ⟨d.singleNssai.sst, if d.singleNssai.sdIsSet then some d.singleNssai.sd else none, d.internalGroupIds,
    d.attributes⟩

/-! ## SET clauses -/

/-- The columns that a request writes. -/
inductive SmColumn
  | ueid
  | servingPlmnid
  | singleNssai
  | internalGroupIds
  | attribute (a : SmAttribute)
  deriving DecidableEq

/-- What the fragments of a `SET` clause are made of. -/
inductive SetToken
  | comma
  | quote
  | assign (c : SmColumn)
  deriving DecidableEq

/-- The columns of a clause: assignments with commas between them. -/
def parseSet : List SetToken → Option (List SmColumn)
  | [.assign c] => some [c]
  | .assign c :: .comma :: l => (parseSet l).map (c :: ·)
  | _ => none

/-- The attribute is set; the others are always written. -/
def SmData.has (d : SmData) : SmColumn → Bool
  | .attribute a => (d.attributes a).isSome
  | .internalGroupIds => d.internalGroupIds.isSome
  | _ => true

/-- The text of one attribute, or nothing. -/
def fragment (d : SmData) (before : List SetToken) (c : SmColumn) : List SetToken :=
  if d.has c then before ++ [.assign c] else []

/-- The attributes after `dnnConfigurations`. -/
def laterColumns : List SmColumn :=
  [.internalGroupIds, .attribute .sharedVnGroupDataIds, .attribute .odbPacketServices, .attribute .traceData,
    .attribute .expectedUeBehavioursList, .attribute .suggestedPacketNumDlList]

/-- The clause of the `INSERT`. -/
def createSet (d : SmData) : List SetToken :=
  ([.assign .ueid, .comma, .assign .servingPlmnid] : List SetToken) ++
    fragment d [.comma] (.attribute .sharedDnnConfigurationsId) ++
    fragment d [.comma] (.attribute .sharedTraceDataId) ++
    fragment d [.comma] (.attribute .r3gppChargingCharacteristics) ++
    ([.comma, .assign .singleNssai] : List SetToken) ++
    fragment d [.comma] (.attribute .dnnConfigurations) ++
    laterColumns.flatMap (fragment d [.comma])

/-- The clause of the `UPDATE`. -/
def updateSet (d : SmData) : List SetToken :=
  fragment d [.quote] (.attribute .sharedDnnConfigurationsId) ++
    fragment d [.comma] (.attribute .sharedTraceDataId) ++
    fragment d [.comma] (.attribute .r3gppChargingCharacteristics) ++
    fragment d [] (.attribute .dnnConfigurations) ++
    laterColumns.flatMap (fragment d [.comma])

/-! ## Operations -/

/-- `true`, `false` or an exception of the JSON library. -/
inductive SmAnswer
  | ok
  | refused
  | exception
  deriving DecidableEq

section

variable (ueId plmn : Str)

/-- The `WHERE` clause: without an SD, nothing is said about it. -/
def SmRow.matches (nssai : Snssai) (row : SmRow) : Bool :=
  row.ueid = ueId && row.servingPlmnid = plmn && row.sst = nssai.sst &&
    (nssai.sd = [] || row.sd = some nssai.sd)

/-- The row that is inserted. The scratch value for `internalGroupIds` holds the object before it. -/
def SmData.newRow (d : SmData) (subscriptionId : ℕ) (cs : List SmColumn) : SmRow where
  subscriptionId := subscriptionId
  ueid := ueId
  servingPlmnid := plmn
  sst := d.singleNssai.sst
  sd := if d.singleNssai.sdIsSet then some d.singleNssai.sd else none
  internalGroupIds := if .internalGroupIds ∈ cs then some .object else none
  columns a := if .attribute a ∈ cs then d.attributes a else none

/-- The row after the `UPDATE`. -/
def SmData.assign (d : SmData) (cs : List SmColumn) (row : SmRow) : SmRow :=
  { row with
    internalGroupIds := if .internalGroupIds ∈ cs then d.internalGroupIds.map .array else row.internalGroupIds
    columns := fun a => if .attribute a ∈ cs then d.attributes a else row.columns a }

/-- `create_sm_data`. `push_back` throws, since the scratch value holds an object, and `std::stoi` does for
a number beyond `int`. -/
def createSmData (t : SmTable) (d : SmData) : SmAnswer × SmTable :=
  if t.rows.any (SmRow.matches ueId plmn d.singleNssai) then (.refused, t)
  else if d.internalGroupIds.any fun ids => !ids.isEmpty then (.exception, t)
  else
    match parseSet (createSet d) with
    | none => (.refused, t)
    | some cs =>
      let t' : SmTable := ⟨t.rows ++ [d.newRow ueId plmn t.autoIncrement cs], t.autoIncrement + 1⟩
      match t'.rows.find? (SmRow.matches ueId plmn d.singleNssai) with
      | none => (.ok, t')
      | some row => if row.subscriptionId < 2 ^ 31 then (.ok, t') else (.refused, t')

/-- `update_sm_data` -/
def updateSmData (t : SmTable) (d : SmData) : SmAnswer × SmTable :=
  if t.rows.any (SmRow.matches ueId plmn d.singleNssai) then
    match parseSet (updateSet d) with
    | none => (.refused, t)
    | some cs =>
      (.ok, { t with
        rows := t.rows.map fun row =>
          if row.matches ueId plmn d.singleNssai then d.assign cs row else row })
  else createSmData ueId plmn t d

/-- A row as `query_sm_data` returns it: `from_json` of an S-NSSAI without SD sets the default one, and an
object for `internalGroupIds` throws. -/
def SmRow.read (row : SmRow) : Option SmJson :=
  match row.internalGroupIds with
  | some .object => none
  | some (.array ids) => some ⟨row.sst, some (row.sd.getD SD_DEFAULT_VALUE), some ids, row.columns⟩
  | none => some ⟨row.sst, some (row.sd.getD SD_DEFAULT_VALUE), none, row.columns⟩

/-- `query_sm_data` for an S-NSSAI; `none` is an exception. -/
def querySmData (t : SmTable) (nssai : Snssai) : Option (List SmJson) :=
  (t.rows.filter (SmRow.matches ueId plmn nssai)).mapM SmRow.read

/-- `delete_sm_data` for an S-NSSAI -/
def deleteSmData (t : SmTable) (nssai : Snssai) : SmAnswer × SmTable :=
  (.ok, { t with rows := t.rows.filter fun row => !row.matches ueId plmn nssai })

/-! ## The property -/

/-- UE, PLMN and S-NSSAI, with the presence of the SD. -/
def SmRow.key (row : SmRow) : Str × Str × ℤ × Option Str := (row.ueid, row.servingPlmnid, row.sst, row.sd)

/-- The key of the rows for a slice. -/
def Snssai.key (nssai : Snssai) : Str × Str × ℤ × Option Str :=
  (ueId, plmn, nssai.sst, if nssai.sdIsSet then some nssai.sd else none)

/-- The rows of all other keys are the same. -/
def OthersKept (nssai : Snssai) (t t' : SmTable) : Prop :=
  (t'.rows.filter fun row => row.key ≠ nssai.key ueId plmn) =
    t.rows.filter fun row => row.key ≠ nssai.key ueId plmn

/-- **The data is kept per S-NSSAI.** -/
structure KeptPerSnssai (t : SmTable) (d : SmData) : Prop where
  create : (createSmData ueId plmn t d).1 = .ok ↔ ∀ row ∈ t.rows, row.key ≠ d.singleNssai.key ueId plmn
  update : (updateSmData ueId plmn t d).1 = .ok
  created : (createSmData ueId plmn t d).1 = .ok →
    querySmData ueId plmn (createSmData ueId plmn t d).2 d.singleNssai = some [d.toJson]
  updated : querySmData ueId plmn (updateSmData ueId plmn t d).2 d.singleNssai = some [d.toJson]
  createOthers : OthersKept ueId plmn d.singleNssai t (createSmData ueId plmn t d).2
  updateOthers : OthersKept ueId plmn d.singleNssai t (updateSmData ueId plmn t d).2
  deleteOthers : OthersKept ueId plmn d.singleNssai t (deleteSmData ueId plmn t d.singleNssai).2

/-- The fragments of the `UPDATE` fit together. -/
structure UpdateFits (d : SmData) : Prop where
  sharedDnnConfigurationsId : d.attributes .sharedDnnConfigurationsId = none
  sharedTraceDataId : d.attributes .sharedTraceDataId = none
  r3gppChargingCharacteristics : d.attributes .r3gppChargingCharacteristics = none
  dnnConfigurations : (d.attributes .dnnConfigurations).isSome = true

/-- A row without attributes that the data does not have. -/
structure NothingLeft (d : SmData) (row : SmRow) : Prop where
  internalGroupIds : d.internalGroupIds = none → row.internalGroupIds = none
  attributes : ∀ a, d.attributes a = none → row.columns a = none

/-- **The condition.** -/
structure Storable (t : SmTable) (d : SmData) : Prop where
  sd : d.singleNssai.sdIsSet = true
  /-- With an empty SD, there is no other SD under the SST. -/
  apart : d.singleNssai.sd = [] → ∀ row ∈ t.rows, row.ueid = ueId → row.servingPlmnid = plmn →
    row.sst = d.singleNssai.sst → row.sd = some []
  writable : ((∀ row ∈ t.rows, row.key ≠ d.singleNssai.key ueId plmn) ∧ d.internalGroupIds = none ∧
      t.autoIncrement < 2 ^ 31) ∨
    ∃ row, (t.rows.filter fun row => row.key = d.singleNssai.key ueId plmn) = [row] ∧ UpdateFits d ∧
      NothingLeft d row

end

/-! ## The clauses -/

section

variable {d : SmData}

theorem parseSet_assign (c : SmColumn) (cs : List SmColumn) :
    parseSet (.assign c :: cs.flatMap (fragment d [.comma])) = some (c :: cs.filter d.has) := by
  induction cs generalizing c with
  | nil => rfl
  | cons x cs ih =>
    rw [List.flatMap_cons, fragment]
    by_cases hx : d.has x = true
    · rw [if_pos hx, List.filter_cons_of_pos hx]
      show (parseSet (.assign x :: cs.flatMap (fragment d [.comma]))).map (c :: ·) = _
      rw [ih x]
      rfl
    · rw [if_neg hx, List.filter_cons_of_neg hx]
      exact ih c

/-- The columns that an `INSERT` names. -/
def createColumns : List SmColumn :=
  ([.servingPlmnid, .attribute .sharedDnnConfigurationsId, .attribute .sharedTraceDataId,
    .attribute .r3gppChargingCharacteristics, .singleNssai, .attribute .dnnConfigurations] : List SmColumn) ++
    laterColumns

/-- **The `INSERT` is always well formed.** -/
theorem parseSet_createSet (d : SmData) : parseSet (createSet d) = some (.ueid :: createColumns.filter d.has) := by
  rw [← parseSet_assign]
  simp [createSet, createColumns, fragment, SmData.has]

/-- **The `UPDATE` is well formed** when the fragments fit. -/
theorem parseSet_updateSet (h : UpdateFits d) :
    parseSet (updateSet d) = some (.attribute .dnnConfigurations :: laterColumns.filter d.has) := by
  rw [← parseSet_assign]
  simp [updateSet, fragment, SmData.has, h.sharedDnnConfigurationsId, h.sharedTraceDataId,
    h.r3gppChargingCharacteristics, h.dnnConfigurations]

theorem parseSet_comma (l : List SetToken) : parseSet (.comma :: l) = none := by
  simp [parseSet]

theorem parseSet_quote (l : List SetToken) : parseSet (.quote :: l) = none := by
  simp [parseSet]

theorem parseSet_flatMap (cs : List SmColumn) : parseSet (cs.flatMap (fragment d [.comma])) = none := by
  induction cs with
  | nil => rfl
  | cons x cs ih =>
    rw [List.flatMap_cons, fragment]
    by_cases hx : d.has x = true
    · rw [if_pos hx]
      exact parseSet_comma _
    · rw [if_neg hx]
      exact ih

theorem updateFits_of_parseSet {cs : List SmColumn} (h : parseSet (updateSet d) = some cs) : UpdateFits d := by
  by_contra hnot
  suffices hnone : parseSet (updateSet d) = none by
    rw [h] at hnone
    cases hnone
  unfold updateSet
  by_cases h1 : d.has (.attribute .sharedDnnConfigurationsId) = true
  · rw [fragment, if_pos h1]
    exact parseSet_quote _
  by_cases h2 : d.has (.attribute .sharedTraceDataId) = true
  · rw [fragment, if_neg h1, fragment, if_pos h2]
    exact parseSet_comma _
  by_cases h3 : d.has (.attribute .r3gppChargingCharacteristics) = true
  · rw [fragment, if_neg h1, fragment, if_neg h2, fragment, if_pos h3]
    exact parseSet_comma _
  by_cases h4 : d.has (.attribute .dnnConfigurations) = true
  · refine absurd ⟨?_, ?_, ?_, h4⟩ hnot
    · simpa [SmData.has] using h1
    · simpa [SmData.has] using h2
    · simpa [SmData.has] using h3
  · rw [fragment, if_neg h1, fragment, if_neg h2, fragment, if_neg h3, fragment, if_neg h4]
    exact parseSet_flatMap laterColumns

end

/-! ## Rows -/

section

variable {ueId plmn : Str} {t : SmTable} {d : SmData} {row : SmRow}

theorem matches_iff {nssai : Snssai} : row.matches ueId plmn nssai = true ↔
    row.ueid = ueId ∧ row.servingPlmnid = plmn ∧ row.sst = nssai.sst ∧
      (nssai.sd = [] ∨ row.sd = some nssai.sd) := by
  simp [SmRow.matches, and_assoc]

theorem key_eq_iff (hsd : d.singleNssai.sdIsSet = true) : row.key = d.singleNssai.key ueId plmn ↔
    row.ueid = ueId ∧ row.servingPlmnid = plmn ∧ row.sst = d.singleNssai.sst ∧
      row.sd = some d.singleNssai.sd := by
  simp [SmRow.key, Snssai.key, hsd]

theorem matches_of_key (hsd : d.singleNssai.sdIsSet = true) (h : row.key = d.singleNssai.key ueId plmn) :
    row.matches ueId plmn d.singleNssai = true := by
  obtain ⟨h1, h2, h3, h4⟩ := (key_eq_iff hsd).mp h
  exact matches_iff.mpr ⟨h1, h2, h3, .inr h4⟩

theorem matches_iff_key (hsd : d.singleNssai.sdIsSet = true)
    (hapart : d.singleNssai.sd = [] → ∀ row ∈ t.rows, row.ueid = ueId → row.servingPlmnid = plmn →
      row.sst = d.singleNssai.sst → row.sd = some []) (hrow : row ∈ t.rows) :
    row.matches ueId plmn d.singleNssai = true ↔ row.key = d.singleNssai.key ueId plmn := by
  refine ⟨fun h => ?_, matches_of_key hsd⟩
  obtain ⟨h1, h2, h3, h4⟩ := matches_iff.mp h
  refine (key_eq_iff hsd).mpr ⟨h1, h2, h3, ?_⟩
  obtain hnil | h4 := h4
  · rw [hnil]
    exact hapart hnil row hrow h1 h2 h3
  · exact h4

theorem newRow_columns (subscriptionId : ℕ) :
    (d.newRow ueId plmn subscriptionId (.ueid :: createColumns.filter d.has)).columns = d.attributes := by
  funext a
  have hmem : SmColumn.attribute a ∈ SmColumn.ueid :: createColumns.filter d.has ↔
      (d.attributes a).isSome = true := by
    cases a <;> simp [createColumns, laterColumns, SmData.has]
  show (if _ then _ else _) = _
  by_cases ha : (d.attributes a).isSome = true
  · rw [if_pos (hmem.mpr ha)]
  · rw [if_neg fun h => ha (hmem.mp h)]
    exact (Option.not_isSome_iff_eq_none.mp ha).symm

theorem newRow_internalGroupIds (subscriptionId : ℕ) :
    (d.newRow ueId plmn subscriptionId (.ueid :: createColumns.filter d.has)).internalGroupIds =
      if d.internalGroupIds.isSome then some .object else none := by
  have hmem : SmColumn.internalGroupIds ∈ SmColumn.ueid :: createColumns.filter d.has ↔
      d.internalGroupIds.isSome = true := by
    simp [createColumns, laterColumns, SmData.has]
  exact if_congr hmem rfl rfl

theorem newRow_key (subscriptionId : ℕ) (cs : List SmColumn) :
    (d.newRow ueId plmn subscriptionId cs).key = d.singleNssai.key ueId plmn := rfl

theorem ite_eq_or {α : Type} {p : Prop} [Decidable p] {o x : Option α} (h : p ↔ o.isSome = true) :
    (if p then o else x) = o.or x := by
  cases o with
  | none => exact if_neg fun hp => Bool.false_ne_true (h.mp hp)
  | some v => exact if_pos (h.mpr rfl)

/-- The columns that the `UPDATE` writes. -/
abbrev updateColumns (d : SmData) : List SmColumn :=
  .attribute .dnnConfigurations :: laterColumns.filter d.has

theorem assign_columns (h : UpdateFits d) :
    (d.assign (updateColumns d) row).columns = fun a => (d.attributes a).or (row.columns a) := by
  funext a
  have hmem : SmColumn.attribute a ∈ updateColumns d ↔ (d.attributes a).isSome = true := by
    cases a <;> simp [laterColumns, SmData.has, h.sharedDnnConfigurationsId, h.sharedTraceDataId,
      h.r3gppChargingCharacteristics, h.dnnConfigurations]
  show (if _ then _ else _) = _
  exact ite_eq_or hmem

theorem assign_internalGroupIds :
    (d.assign (updateColumns d) row).internalGroupIds =
      (d.internalGroupIds.map .array).or row.internalGroupIds := by
  have hmem : SmColumn.internalGroupIds ∈ updateColumns d ↔ d.internalGroupIds.isSome = true := by
    simp [laterColumns, SmData.has]
  show (if _ then _ else _) = _
  exact ite_eq_or (by rw [hmem, Option.isSome_map])

@[simp] theorem assign_key (cs : List SmColumn) : (d.assign cs row).key = row.key := rfl

theorem assign_matches (cs : List SmColumn) (nssai : Snssai) :
    (d.assign cs row).matches ueId plmn nssai = row.matches ueId plmn nssai := rfl

/-- **What is read is the data**: the SD is set, the attributes are those of the row, and there is no
object for the group ids. -/
theorem read_eq_toJson_iff : row.read = some d.toJson ↔
    row.sst = d.singleNssai.sst ∧ d.singleNssai.sdIsSet = true ∧
      row.sd.getD SD_DEFAULT_VALUE = d.singleNssai.sd ∧
      row.internalGroupIds = d.internalGroupIds.map .array ∧ row.columns = d.attributes := by
  have hsome : ∀ ids, some (⟨row.sst, some (row.sd.getD SD_DEFAULT_VALUE), ids, row.columns⟩ : SmJson) =
      some d.toJson ↔ row.sst = d.singleNssai.sst ∧ d.singleNssai.sdIsSet = true ∧
        row.sd.getD SD_DEFAULT_VALUE = d.singleNssai.sd ∧ ids = d.internalGroupIds ∧
        row.columns = d.attributes := by
    intro ids
    rw [Option.some_inj, SmJson.ext_iff]
    unfold SmData.toJson
    cases d.singleNssai.sdIsSet <;> simp
  unfold SmRow.read
  cases hids : row.internalGroupIds with
  | none =>
    rw [hsome]
    cases d.internalGroupIds <;> simp
  | some column =>
    cases column with
    | object =>
      cases d.internalGroupIds <;> simp
    | array ids =>
      rw [hsome]
      cases d.internalGroupIds <;> simp

theorem mapM_read_eq_singleton {rows : List SmRow} {x : SmJson} :
    rows.mapM SmRow.read = some [x] ↔ ∃ row, rows = [row] ∧ row.read = some x := by
  constructor
  · intro h
    obtain _ | ⟨row, rows⟩ := rows
    · simp at h
    · rw [List.mapM_cons] at h
      obtain ⟨y, hy, h⟩ := Option.bind_eq_some_iff.mp h
      obtain ⟨ys, hys, h⟩ := Option.bind_eq_some_iff.mp h
      obtain ⟨rfl, rfl⟩ : y = x ∧ ys = [] := by simpa using h
      obtain _ | ⟨row', rows⟩ := rows
      · exact ⟨row, rfl, hy⟩
      · rw [List.mapM_cons] at hys
        obtain ⟨z, -, hys⟩ := Option.bind_eq_some_iff.mp hys
        obtain ⟨zs, -, hys⟩ := Option.bind_eq_some_iff.mp hys
        simp at hys
  · rintro ⟨row, rfl, hread⟩
    rw [List.mapM_cons, hread]
    rfl

end

/-! ## Creating -/

section

variable {ueId plmn : Str} {t : SmTable} {d : SmData}

/-- The row that `create_sm_data` inserts. -/
abbrev insertedRow (ueId plmn : Str) (t : SmTable) (d : SmData) : SmRow :=
  d.newRow ueId plmn t.autoIncrement (.ueid :: createColumns.filter d.has)

/-- Without a row for the S-NSSAI, and without group ids, the row is inserted. -/
theorem createSmData_eq (hsd : d.singleNssai.sdIsSet = true)
    (hnone : ∀ row ∈ t.rows, row.matches ueId plmn d.singleNssai = false)
    (hids : (d.internalGroupIds.any fun ids => !ids.isEmpty) = false) :
    createSmData ueId plmn t d = (if t.autoIncrement < 2 ^ 31 then .ok else .refused,
      ⟨t.rows ++ [insertedRow ueId plmn t d], t.autoIncrement + 1⟩) := by
  have hany : t.rows.any (SmRow.matches ueId plmn d.singleNssai) = false := by
    rw [List.any_eq_false]
    exact fun row hrow => by rw [hnone row hrow]; decide
  have hnew : (insertedRow ueId plmn t d).matches ueId plmn d.singleNssai = true :=
    matches_of_key hsd (newRow_key _ _)
  have hfind : (t.rows ++ [insertedRow ueId plmn t d]).find? (SmRow.matches ueId plmn d.singleNssai) =
      some (insertedRow ueId plmn t d) := by
    rw [List.find?_append, List.find?_eq_none.mpr fun row hrow => by rw [hnone row hrow]; decide,
      List.find?_singleton, if_pos hnew]
    rfl
  rw [createSmData, hany, if_neg Bool.false_ne_true, hids, if_neg Bool.false_ne_true, parseSet_createSet]
  dsimp only
  rw [hfind]
  dsimp only
  show (if t.autoIncrement < 2 ^ 31 then _ else _) = _
  by_cases hauto : t.autoIncrement < 2 ^ 31
  · rw [if_pos hauto, if_pos hauto]
  · rw [if_neg hauto, if_neg hauto]

theorem createSmData_of_any (h : ∃ row ∈ t.rows, row.matches ueId plmn d.singleNssai = true) :
    createSmData ueId plmn t d = (.refused, t) := if_pos (List.any_eq_true.mpr h)

theorem updateSmData_of_any (h : ∃ row ∈ t.rows, row.matches ueId plmn d.singleNssai = true)
    (hfits : UpdateFits d) :
    updateSmData ueId plmn t d = (.ok, { t with
      rows := t.rows.map fun row =>
        if row.matches ueId plmn d.singleNssai then d.assign (updateColumns d) row else row }) := by
  rw [updateSmData, if_pos (List.any_eq_true.mpr h), parseSet_updateSet hfits]

theorem updateSmData_of_none (h : ∀ row ∈ t.rows, row.matches ueId plmn d.singleNssai = false) :
    updateSmData ueId plmn t d = createSmData ueId plmn t d := by
  have hany : t.rows.any (SmRow.matches ueId plmn d.singleNssai) = false := by
    rw [List.any_eq_false]
    exact fun row hrow => by rw [h row hrow]; decide
  rw [updateSmData, hany, if_neg Bool.false_ne_true]

theorem updateFits_of_ok (h : ∃ row ∈ t.rows, row.matches ueId plmn d.singleNssai = true)
    (hok : (updateSmData ueId plmn t d).1 = .ok) : UpdateFits d := by
  rw [updateSmData, if_pos (List.any_eq_true.mpr h)] at hok
  cases hparse : parseSet (updateSet d) with
  | none =>
    rw [hparse] at hok
    cases hok
  | some cs => exact updateFits_of_parseSet hparse

theorem filter_map_assign (rows : List SmRow) (nssai : Snssai) (cs : List SmColumn) :
    ((rows.map fun row => if row.matches ueId plmn nssai then d.assign cs row else row).filter
      (SmRow.matches ueId plmn nssai)) =
    (rows.filter (SmRow.matches ueId plmn nssai)).map (d.assign cs) := by
  induction rows with
  | nil => rfl
  | cons row rows ih =>
    rw [List.map_cons]
    by_cases hrow : row.matches ueId plmn nssai = true
    · rw [if_pos hrow, List.filter_cons_of_pos ((assign_matches cs nssai).trans hrow), ih,
        List.filter_cons_of_pos hrow, List.map_cons]
    · rw [if_neg hrow, List.filter_cons_of_neg hrow, ih, List.filter_cons_of_neg hrow]

theorem filter_key_map_assign {rows : List SmRow} (cs : List SmColumn)
    (h : ∀ row ∈ rows, row.matches ueId plmn d.singleNssai = true →
      row.key = d.singleNssai.key ueId plmn) :
    ((rows.map fun row => if row.matches ueId plmn d.singleNssai then d.assign cs row else row).filter
      fun row => row.key ≠ d.singleNssai.key ueId plmn) =
    rows.filter fun row => row.key ≠ d.singleNssai.key ueId plmn := by
  induction rows with
  | nil => rfl
  | cons row rows ih =>
    have ih := ih fun x hx => h x (List.mem_cons_of_mem _ hx)
    rw [List.map_cons]
    by_cases hrow : row.matches ueId plmn d.singleNssai = true
    · have hkey := h row List.mem_cons_self hrow
      rw [if_pos hrow, List.filter_cons, List.filter_cons, ih, assign_key, hkey]
      simp
    · rw [if_neg hrow, List.filter_cons, List.filter_cons, ih]

end

/-! ## The exact condition -/

section

variable {ueId plmn : Str} {t : SmTable} {d : SmData}

theorem Storable.matches_iff (h : Storable ueId plmn t d) {row : SmRow} (hrow : row ∈ t.rows) :
    row.matches ueId plmn d.singleNssai = true ↔ row.key = d.singleNssai.key ueId plmn :=
  matches_iff_key h.sd h.apart hrow

theorem Storable.filter_matches (h : Storable ueId plmn t d) :
    t.rows.filter (SmRow.matches ueId plmn d.singleNssai) =
      t.rows.filter fun row => row.key = d.singleNssai.key ueId plmn := by
  refine List.filter_congr fun row hrow => ?_
  rw [Bool.eq_iff_iff, h.matches_iff hrow, decide_eq_true_iff]

theorem read_insertedRow (hsd : d.singleNssai.sdIsSet = true) (hids : d.internalGroupIds = none) :
    (insertedRow ueId plmn t d).read = some d.toJson := by
  refine read_eq_toJson_iff.mpr ⟨rfl, hsd, ?_, ?_, newRow_columns _⟩
  · show (if d.singleNssai.sdIsSet then some d.singleNssai.sd else none).getD SD_DEFAULT_VALUE = _
    rw [hsd]
    rfl
  · rw [newRow_internalGroupIds, hids]
    rfl

theorem Storable.kept (h : Storable ueId plmn t d) : KeptPerSnssai ueId plmn t d := by
  have hdelete : OthersKept ueId plmn d.singleNssai t (deleteSmData ueId plmn t d.singleNssai).2 := by
    show (List.filter _ (t.rows.filter _)) = _
    rw [List.filter_filter]
    refine List.filter_congr fun row hrow => ?_
    rw [Bool.eq_iff_iff, Bool.and_eq_true, Bool.not_eq_true', ← Bool.not_eq_true, h.matches_iff hrow,
      decide_eq_true_iff]
    exact ⟨fun h => h.1, fun h => ⟨h, h⟩⟩
  obtain ⟨hnone, hids, hauto⟩ | ⟨row, hrows, hfits, hleft⟩ := h.writable
  · have hnomatch : ∀ row ∈ t.rows, row.matches ueId plmn d.singleNssai = false := fun row hrow => by
      rw [← Bool.not_eq_true, h.matches_iff hrow]
      exact hnone row hrow
    have hcreate := createSmData_eq h.sd hnomatch (by rw [hids]; rfl)
    rw [if_pos hauto] at hcreate
    have hquery : querySmData ueId plmn (createSmData ueId plmn t d).2 d.singleNssai = some [d.toJson] := by
      rw [hcreate]
      show (List.filter _ (t.rows ++ [insertedRow ueId plmn t d])).mapM SmRow.read = _
      refine mapM_read_eq_singleton.mpr ⟨insertedRow ueId plmn t d, ?_, read_insertedRow h.sd hids⟩
      rw [List.filter_append, List.filter_eq_nil_iff.mpr fun row hrow => by simp [hnomatch row hrow],
        List.nil_append, List.filter_singleton, matches_of_key h.sd (newRow_key _ _)]
      rfl
    have hothers : OthersKept ueId plmn d.singleNssai t (createSmData ueId plmn t d).2 := by
      rw [hcreate]
      show List.filter _ (t.rows ++ [insertedRow ueId plmn t d]) = _
      rw [List.filter_append, List.filter_singleton, newRow_key]
      simp
    have hupdate := updateSmData_of_none hnomatch
    exact {
      create := ⟨fun _ => hnone, fun _ => by rw [hcreate]⟩
      update := by rw [hupdate, hcreate]
      created := fun _ => hquery
      updated := by rw [hupdate]; exact hquery
      createOthers := hothers
      updateOthers := by rw [hupdate]; exact hothers
      deleteOthers := hdelete }
  · have hmem : row ∈ t.rows.filter fun row => row.key = d.singleNssai.key ueId plmn := by
      rw [hrows]
      exact List.mem_singleton_self row
    obtain ⟨hrow, hkey⟩ := List.mem_filter.mp hmem
    have hkey : row.key = d.singleNssai.key ueId plmn := of_decide_eq_true hkey
    have hany : ∃ row ∈ t.rows, row.matches ueId plmn d.singleNssai = true :=
      ⟨row, hrow, (h.matches_iff hrow).mpr hkey⟩
    have hcreate := createSmData_of_any hany
    have hupdate := updateSmData_of_any hany hfits
    have hread : (d.assign (updateColumns d) row).read = some d.toJson := by
      obtain ⟨-, -, hsst, hsd⟩ := (key_eq_iff h.sd).mp hkey
      refine read_eq_toJson_iff.mpr ⟨hsst, h.sd, ?_, ?_, ?_⟩
      · show row.sd.getD SD_DEFAULT_VALUE = _
        rw [hsd]
        rfl
      · rw [assign_internalGroupIds]
        cases hids : d.internalGroupIds with
        | none => exact hleft.internalGroupIds hids
        | some ids => rfl
      · rw [assign_columns hfits]
        funext a
        cases ha : d.attributes a with
        | none => exact hleft.attributes a ha
        | some v => rfl
    exact {
      create := by
        rw [hcreate]
        exact ⟨(fun h => nomatch h), fun hno => absurd hkey (hno row hrow)⟩
      update := by rw [hupdate]
      created := by
        rw [hcreate]
        exact fun h => nomatch h
      updated := by
        rw [hupdate]
        refine mapM_read_eq_singleton.mpr ⟨d.assign (updateColumns d) row, ?_, hread⟩
        rw [filter_map_assign, h.filter_matches, hrows]
        rfl
      createOthers := by rw [hcreate]; rfl
      updateOthers := by
        rw [hupdate]
        exact filter_key_map_assign _ fun x hx => (h.matches_iff hx).mp
      deleteOthers := hdelete }

theorem KeptPerSnssai.storable (h : KeptPerSnssai ueId plmn t d) : Storable ueId plmn t d := by
  have hsd : d.singleNssai.sdIsSet = true := by
    obtain ⟨row, -, hread⟩ := mapM_read_eq_singleton.mp h.updated
    exact (read_eq_toJson_iff.mp hread).2.1
  have hapart : d.singleNssai.sd = [] → ∀ row ∈ t.rows, row.ueid = ueId → row.servingPlmnid = plmn →
      row.sst = d.singleNssai.sst → row.sd = some [] := by
    intro hnil row hrow h1 h2 h3
    by_contra hne
    have hkey : row.key ≠ d.singleNssai.key ueId plmn := fun heq => hne (by
      rw [((key_eq_iff hsd).mp heq).2.2.2, hnil])
    have hmem : row ∈ t.rows.filter fun row => row.key ≠ d.singleNssai.key ueId plmn :=
      List.mem_filter.mpr ⟨hrow, decide_eq_true hkey⟩
    rw [← h.deleteOthers] at hmem
    have hnot := (List.mem_filter.mp (List.mem_of_mem_filter hmem)).2
    rw [Bool.not_eq_true', ← Bool.not_eq_true] at hnot
    exact hnot (Udr.matches_iff.mpr ⟨h1, h2, h3, .inl hnil⟩)
  refine ⟨hsd, hapart, ?_⟩
  have hmatch : ∀ row ∈ t.rows, (row.matches ueId plmn d.singleNssai = true ↔
      row.key = d.singleNssai.key ueId plmn) := fun row hrow => matches_iff_key hsd hapart hrow
  by_cases hnone : ∀ row ∈ t.rows, row.key ≠ d.singleNssai.key ueId plmn
  · refine .inl ⟨hnone, ?_⟩
    have hnomatch : ∀ row ∈ t.rows, row.matches ueId plmn d.singleNssai = false := fun row hrow => by
      rw [← Bool.not_eq_true, hmatch row hrow]
      exact hnone row hrow
    have hok := h.create.mpr hnone
    by_cases hids : (d.internalGroupIds.any fun ids => !ids.isEmpty) = true
    · have hany : ¬ t.rows.any (SmRow.matches ueId plmn d.singleNssai) = true := by
        rw [List.any_eq_true]
        rintro ⟨row, hrow, hm⟩
        rw [hnomatch row hrow] at hm
        cases hm
      rw [createSmData, if_neg hany, if_pos hids] at hok
      cases hok
    · have hcreate := createSmData_eq hsd hnomatch (Bool.not_eq_true _ ▸ hids)
      rw [hcreate] at hok
      have hauto : t.autoIncrement < 2 ^ 31 := by
        by_contra hauto
        rw [if_neg hauto] at hok
        cases hok
      refine ⟨?_, hauto⟩
      -- set but empty, the group ids are stored as the object before them
      obtain ⟨row, hrows, hread⟩ := mapM_read_eq_singleton.mp (h.created (h.create.mpr hnone))
      rw [hcreate] at hrows
      have hmem : insertedRow ueId plmn t d ∈ [row] := by
        rw [← hrows]
        exact List.mem_filter.mpr ⟨by simp, matches_of_key hsd (newRow_key _ _)⟩
      obtain rfl := List.mem_singleton.mp hmem
      have hcolumn := (read_eq_toJson_iff.mp hread).2.2.2.1
      rw [newRow_internalGroupIds] at hcolumn
      cases hgroup : d.internalGroupIds with
      | none => rfl
      | some ids =>
        rw [hgroup] at hcolumn
        cases hcolumn
  · push Not at hnone
    obtain ⟨row, hrow, hkey⟩ := hnone
    have hany : ∃ row ∈ t.rows, row.matches ueId plmn d.singleNssai = true :=
      ⟨row, hrow, (hmatch row hrow).mpr hkey⟩
    have hfits := updateFits_of_ok hany h.update
    obtain ⟨x, hx, hread⟩ := mapM_read_eq_singleton.mp h.updated
    rw [updateSmData_of_any hany hfits] at hx
    dsimp only at hx
    rw [filter_map_assign] at hx
    obtain ⟨old, hold, rfl⟩ := List.map_eq_singleton_iff.mp hx
    obtain ⟨-, -, -, hids, hcolumns⟩ := read_eq_toJson_iff.mp hread
    rw [assign_internalGroupIds] at hids
    rw [assign_columns hfits] at hcolumns
    refine .inr ⟨old, ?_, hfits, fun hnil => ?_, fun a ha => ?_⟩
    · rw [← hold]
      refine List.filter_congr fun y hy => ?_
      rw [Bool.eq_iff_iff, hmatch y hy, decide_eq_true_iff]
    · rw [hnil] at hids
      exact hids
    · have ha' := congrFun hcolumns a
      rw [ha] at ha'
      exact ha'

end

/-- **Session management data is kept per S-NSSAI** exactly when the SD is set, no other SD is stored under the
SST beside an empty one, and the data is new and has no group ids, or replaces one row by an `UPDATE` whose
fragments fit and leaves nothing of the row. -/
theorem keptPerSnssai_iff (ueId plmn : Str) (t : SmTable) (d : SmData) :
    KeptPerSnssai ueId plmn t d ↔ Storable ueId plmn t d :=
  ⟨KeptPerSnssai.storable, Storable.kept⟩

/-- Data for SST 1 and SD 000001 with a DNN configuration shared by its identifier. -/
def sharedDnnData : SmData :=
  ⟨⟨1, "000001".toList, true⟩, none, fun a => if a = .sharedDnnConfigurationsId then some "s1".toList else none⟩

/-- Stored once, it cannot be updated: the clause begins with a quote. -/
theorem not_keptPerSnssai : ¬ ∀ (ueId plmn : Str) (t : SmTable) (d : SmData), KeptPerSnssai ueId plmn t d := by
  intro h
  have hupdate := (h [] [] ⟨[sharedDnnData.newRow [] [] 1 []], 2⟩ sharedDnnData).update
  revert hupdate
  decide

end Oai5g.Udr
