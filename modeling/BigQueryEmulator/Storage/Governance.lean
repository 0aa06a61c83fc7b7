import BigQueryEmulator.Storage.JsonText

/-! Row access policies and column governance: the two registry tables they are kept in
(`duckdb_storage_governance.cc`), and the snapshot that DropDataset writes of them and
RestoreDataset reads back (`duckdb_storage_tombstone_registry_json.cc`,
`duckdb_storage_tombstone_registry_governance.cc`). -/
namespace BigQueryEmulator.Storage
open Text

structure RowAccessPolicyRecord where
  policyId : String := ""
  filterPredicate : String := ""
  grantees : List String := []
  creationTimeMs : Int := 0
  lastModifiedTimeMs : Int := 0
deriving DecidableEq, Repr

inductive DataMaskKind where
  | none | nullify | sha256 | defaultValue | denied
deriving DecidableEq, Repr

structure ColumnGovernanceRecord where
  policyTags : List String := []
  maskKind : DataMaskKind := .none
  maskGrantees : List String := []
  defaultMaskValue : String := ""
deriving DecidableEq, Repr

structure TableGovernance where
  rowAccessPolicies : List RowAccessPolicyRecord := []
  columns : List (String × ColumnGovernanceRecord) := []
deriving DecidableEq, Repr

def maskKindToString : DataMaskKind → String
  | .nullify => "NULLIFY"
  | .sha256 => "SHA256"
  | .defaultValue => "DEFAULT_VALUE"
  | .denied => "DENIED"
  | .none => "NONE"

def maskKindFromString (s : String) : DataMaskKind :=
  let upper := s.toList.map Char.toUpper
  if upper = "NULLIFY".toList then .nullify
  else if upper = "SHA256".toList then .sha256
  else if upper = "DEFAULT_VALUE".toList then .defaultValue
  else if upper = "DENIED".toList then .denied
  else .none

structure DatasetId where
  projectId : String
  datasetId : String
deriving DecidableEq, Repr

def DatasetId.table (ds : DatasetId) (tableId : String) : TableId :=
  ⟨ds.projectId, ds.datasetId, tableId⟩

def DatasetId.holds (ds : DatasetId) (table : TableId) : Bool :=
  table.projectId = ds.projectId && table.datasetId = ds.datasetId

structure PolicyRow where
  table : TableId
  policyId : String
  filterPredicate : String
  granteesCsv : String
  creationTimeMs : Int
  lastModifiedTimeMs : Int
deriving DecidableEq

structure ColumnRow where
  table : TableId
  columnName : String
  policyTagsCsv : String
  maskKind : String
  maskGranteesCsv : String
  defaultMaskValue : String
deriving DecidableEq

/-- `__bqemu_row_access_policies` and `__bqemu_column_governance`. -/
structure GovernanceTables where
  policies : List PolicyRow := []
  columns : List ColumnRow := []

def joinCsv (values : List String) : String := ",".intercalate values

def splitCsv (csv : String) : List String :=
  if csv.isEmpty then [] else (csv.toList.splitOn ',').map String.ofList

namespace GovernanceTables
variable (g : GovernanceTables)

def loadTableGovernance (id : TableId) : TableGovernance where
  rowAccessPolicies :=
    ((g.policies.filter fun row => row.table = id).insertionSort fun a b =>
      a.policyId ≤ b.policyId).map fun row =>
        { policyId := row.policyId, filterPredicate := row.filterPredicate
          grantees := splitCsv row.granteesCsv, creationTimeMs := row.creationTimeMs
          lastModifiedTimeMs := row.lastModifiedTimeMs }
  columns :=
    ((g.columns.filter fun row => row.table = id).insertionSort fun a b =>
      a.columnName ≤ b.columnName).map fun row =>
        (row.columnName,
          { policyTags := splitCsv row.policyTagsCsv, maskKind := maskKindFromString row.maskKind
            maskGrantees := splitCsv row.maskGranteesCsv
            defaultMaskValue := row.defaultMaskValue })

/-- INSERT, which the primary key refuses for a policy id that the table already has. -/
def insertPolicy (id : TableId) (policy : RowAccessPolicyRecord) :
    GovernanceTables × Except Status Unit :=
  if g.policies.any fun row => row.table = id && row.policyId = policy.policyId then
    (g, .error ⟨.internal, "DuckDB query failed: duplicate key"⟩)
  else
    ({ g with policies := g.policies ++ [⟨id, policy.policyId, policy.filterPredicate,
        joinCsv policy.grantees, policy.creationTimeMs, policy.lastModifiedTimeMs⟩] }, .ok ())

def insertPolicies (id : TableId) : GovernanceTables → List RowAccessPolicyRecord →
    GovernanceTables × Except Status Unit
  | g, [] => (g, .ok ())
  | g, policy :: rest =>
    match g.insertPolicy id policy with
    | (after, .error e) => (after, .error e)
    | (after, .ok ()) => insertPolicies id after rest

/-- The table's policies are deleted and the given ones inserted, statement by statement. -/
def saveRowAccessPolicies (id : TableId) (gov : TableGovernance) :
    GovernanceTables × Except Status Unit :=
  insertPolicies id { g with policies := g.policies.filter fun row => row.table ≠ id }
    gov.rowAccessPolicies

/-- INSERT OR REPLACE. -/
def saveColumnGovernance (id : TableId) (columnName : String)
    (column : ColumnGovernanceRecord) : GovernanceTables :=
  { g with columns :=
      (g.columns.filter fun row => !(row.table = id && row.columnName = columnName)) ++
        [⟨id, columnName, joinCsv column.policyTags, maskKindToString column.maskKind,
          joinCsv column.maskGrantees, column.defaultMaskValue⟩] }

def saveColumns (id : TableId)
    (columns : List (String × ColumnGovernanceRecord)) : GovernanceTables :=
  columns.foldl (fun g column => g.saveColumnGovernance id column.1 column.2) g

def persistGovernance (id : TableId) (gov : TableGovernance) :
    GovernanceTables × Except Status Unit :=
  if gov.rowAccessPolicies.isEmpty then (g.saveColumns id gov.columns, .ok ())
  else
    match g.saveRowAccessPolicies id gov with
    | (after, .error e) => (after, .error e)
    | (after, .ok ()) => (after.saveColumns id gov.columns, .ok ())

/-- The governance half of `PurgeDatasetRegistryRowsLocked`. -/
def purge (ds : DatasetId) : GovernanceTables where
  policies := g.policies.filter fun row => !ds.holds row.table
  columns := g.columns.filter fun row => !ds.holds row.table

end GovernanceTables

def renderPolicy (policy : RowAccessPolicyRecord) : List Piece :=
  jsonObject [
    jsonField "policy_id" [jsonString policy.policyId],
    jsonField "filter_predicate" [jsonString policy.filterPredicate],
    jsonField "grantees" (renderQuotedJsonStrings policy.grantees),
    jsonField "creation_time_ms" [jsonInt policy.creationTimeMs],
    jsonField "last_modified_time_ms" [jsonInt policy.lastModifiedTimeMs]]

def renderColumn (column : String × ColumnGovernanceRecord) : List Piece :=
  jsonObject [
    jsonField "column" [jsonString column.1],
    jsonField "policy_tags" (renderQuotedJsonStrings column.2.policyTags),
    jsonField "mask_kind" [jsonKey (maskKindToString column.2.maskKind)],
    jsonField "mask_grantees" (renderQuotedJsonStrings column.2.maskGrantees),
    jsonField "default_mask_value" [jsonString column.2.defaultMaskValue]]

def renderTable (table : TableId × TableGovernance) : List Piece :=
  jsonObject [
    jsonField "table_id" [jsonString table.1.tableId],
    jsonField "row_access_policies" (jsonArray (table.2.rowAccessPolicies.map renderPolicy)),
    jsonField "columns" (jsonArray (table.2.columns.map renderColumn))]

def renderGovernanceSnapshotJson (tables : List (TableId × TableGovernance)) : List Char :=
  join (jsonArray (tables.map renderTable))

def numberField (name : String) : List Char := quotedName name ++ [':']

def parseRowAccessPolicy (policyJson : List Char) : RowAccessPolicyRecord :=
  match parseJsonStringField policyJson "policy_id",
      parseJsonStringField policyJson "filter_predicate" with
  | .ok policyId, .ok filterPredicate =>
    { policyId, filterPredicate
      grantees := ((jsonArraySlice policyJson (quotedName "grantees")).map
        parseQuotedJsonStringArray).getD []
      creationTimeMs := parseJsonInt64Field policyJson (numberField "creation_time_ms")
      lastModifiedTimeMs := parseJsonInt64Field policyJson (numberField "last_modified_time_ms") }
  | _, _ => {}

/-- Policies without an id are dropped. -/
def appendRowAccessPolicies (entry : List Char) : List RowAccessPolicyRecord :=
  match jsonArraySlice entry (quotedName "row_access_policies") with
  | none => []
  | some slice =>
    ((splitTopLevelJsonObjects slice).map parseRowAccessPolicy).filter fun policy =>
      !policy.policyId.isEmpty

def parseColumnEntry (colJson : List Char) : Option (String × ColumnGovernanceRecord) :=
  match parseJsonStringField colJson "column" with
  | .error _ => none
  | .ok column =>
    some (column, {
      policyTags := ((jsonArraySlice colJson (quotedName "policy_tags")).map
        parseQuotedJsonStringArray).getD []
      maskKind := match parseJsonStringField colJson "mask_kind" with
        | .ok mask => maskKindFromString mask
        | .error _ => .none
      maskGrantees := ((jsonArraySlice colJson (quotedName "mask_grantees")).map
        parseQuotedJsonStringArray).getD []
      defaultMaskValue := match parseJsonStringField colJson "default_mask_value" with
        | .ok value => value
        | .error _ => "" })

def appendColumnGovernance (entry : List Char) : List (String × ColumnGovernanceRecord) :=
  match jsonArraySlice entry (quotedName "columns") with
  | none => []
  | some slice => (splitTopLevelJsonObjects slice).filterMap parseColumnEntry

def restoreEntries (ds : DatasetId) : GovernanceTables → List (List Char) →
    GovernanceTables × Except Status Unit
  | g, [] => (g, .ok ())
  | g, entry :: rest =>
    match parseJsonStringField entry "table_id" with
    | .error e => (g, .error e)
    | .ok tableId =>
      match g.persistGovernance (ds.table tableId)
          ⟨appendRowAccessPolicies entry, appendColumnGovernance entry⟩ with
      | (after, .error e) => (after, .error e)
      | (after, .ok ()) => restoreEntries ds after rest

def restoreGovernanceFromSnapshot (g : GovernanceTables) (ds : DatasetId) (json : List Char) :
    GovernanceTables × Except Status Unit :=
  restoreEntries ds g (splitTopLevelJsonObjects json)
end BigQueryEmulator.Storage
