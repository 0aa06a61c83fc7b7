import BigQueryEmulator.Gateway.PolicyTags
import BigQueryEmulator.Transition

/-! PATCH bodies on the metadata that the gateway keeps of tables and datasets
(`metadata_store.go`, `wire_compat.go`). -/
namespace BigQueryEmulator.Gateway

variable {V : Type}

inductive TableField where
  | friendlyName | description | expirationTime | rangePartitioning | timePartitioning | clustering
  | defaultRoundingMode | caseInsensitive | resourceTags | tableConstraints | replicas | type | view
  | materializedView | requirePartitionFilter | externalDataConfiguration | encryptionConfiguration

inductive DatasetField where
  | friendlyName | description | location | access | defaultTableExpirationMs
  | defaultPartitionExpirationMs | defaultRoundingMode | maxTimeTravelHours | isCaseInsensitive
  | resourceTags | replicas

inductive Resource where
  | table | dataset

def Resource.Field : Resource → Type
  | .table => TableField
  | .dataset => DatasetField

/-- `bqtypes.Table` and `bqtypes.Dataset`. A field that is none has the zero value of Go;
`collation` is none unless `DefaultCollationSet`. `labelsWire` is the unexported field that a
decoded body has beside its labels: the keys given as null. A dataset has no schema. -/
structure Metadata (resource : Resource) (V : Type) where
  fields : resource.Field → Option V := fun _ => none
  labels : Option (String → Option String) := none
  collation : Option String := none
  creationTime : String := ""
  lastModifiedTime : String := ""
  labelsWire : Option (String → Bool) := none
  schema : Option (List TableColumn) := none

/-- A body; null and the empty text are what a field is given as if it is given as none. -/
structure PatchBody (resource : Resource) (V : Type) where
  fields : resource.Field → Option (Option V) := fun _ => none
  labels : Option (String → Option (Option String)) := none
  collation : Option String := none
  creationTime : String := ""
  lastModifiedTime : String := ""
  schema : Option (List TableColumn) := none

/-- The columns with tags, a collation or a default, or with such fields. -/
def extractPolicyFields : List TableColumn → List TableColumn
  | [] => []
  | .mk name _ _ _ default collation tags fields :: rest =>
    let nested := extractPolicyFields fields
    if tags.getD [] ≠ [] ∨ collation ≠ "" ∨ default ≠ "" ∨ nested ≠ [] then
      .mk name "" "" "" default collation tags nested :: extractPolicyFields rest
    else extractPolicyFields rest

def extractSchemaPolicyOverlay (schema : Option (List TableColumn)) : Option (List TableColumn) :=
  match extractPolicyFields (schema.getD []) with
  | [] => none
  | fields => some fields

def mergeSchemaPolicyTags (base : Option (List TableColumn)) (overlay : List TableColumn) :
    List TableColumn :=
  match base with
  | none => overlay
  | some base => if overlay = [] then base else mergeFieldPolicyTags base overlay

namespace Metadata
variable {resource : Resource}

/-- `UnmarshalJSON`, with `parseLabelsJSON`. -/
def decode (body : PatchBody resource V) : Metadata resource V where
  fields := fun field => (body.fields field).join
  labels := body.labels.map fun given key => (given key).join
  collation := body.collation
  creationTime := body.creationTime
  lastModifiedTime := body.lastModifiedTime
  labelsWire := body.labels.map fun given key => given key == some none
  schema := body.schema

/-- `stripEngineOwnedTableFields` and `stripEngineOwnedDatasetFields`, which make a new value of the
exported fields. -/
def stripEngineOwnedFields (patch : Metadata resource V) : Metadata resource V :=
  { patch with labelsWire := none, schema := extractSchemaPolicyOverlay patch.schema }

def applyLabelsPatch (base : Option (String → Option String)) (values : String → Option String)
    (deleted : String → Bool) : String → Option String :=
  fun key => (values key).or (if deleted key then none else base.bind (· key))

/-- `mergeTableMetadataOverlay`, up to the schema and the times. -/
def mergeOverlay (base patch : Metadata resource V) : Metadata resource V :=
  { base with
    fields := fun field => (patch.fields field).or (base.fields field)
    labels :=
      match patch.labelsWire with
      | some deleted => some (applyLabelsPatch base.labels (patch.labels.getD fun _ => none) deleted)
      | none => patch.labels.or base.labels
    collation := patch.collation.or base.collation }

/-- `bumpTableTimestamps` of an entry that was there. -/
def bumpTimestamps (stored existing : Metadata resource V) (now : String) : Metadata resource V :=
  { stored with
    creationTime :=
      if existing.creationTime ≠ "" then existing.creationTime
      else if stored.creationTime = "" then now else stored.creationTime
    lastModifiedTime := now }

end Metadata

def mergeTableMetadataOverlay (base patch : Metadata .table V) : Metadata .table V :=
  { base.mergeOverlay patch with
    creationTime := if patch.creationTime ≠ "" then patch.creationTime else base.creationTime
    lastModifiedTime :=
      if patch.lastModifiedTime ≠ "" then patch.lastModifiedTime else base.lastModifiedTime
    schema := (patch.schema.map (mergeSchemaPolicyTags base.schema)).or base.schema }

def mergeDatasetMetadataOverlay (base patch : Metadata .dataset V) : Metadata .dataset V :=
  base.mergeOverlay patch

/-- `MergeTable`, on the entry that the store has. -/
def MetadataStore.mergeTable (existing patch : Metadata .table V) (now : String) :
    Metadata .table V :=
  (mergeTableMetadataOverlay existing patch.stripEngineOwnedFields).bumpTimestamps existing now

def MetadataStore.mergeDataset (existing patch : Metadata .dataset V) (now : String) :
    Metadata .dataset V :=
  (mergeDatasetMetadataOverlay existing patch.stripEngineOwnedFields).bumpTimestamps existing now

/-- An entry after a PATCH at a time. -/
def patched : (resource : Resource) → Metadata resource V → PatchBody resource V × String →
    Metadata resource V
  | .table, entry, (body, now) => MetadataStore.mergeTable entry (.decode body) now
  | .dataset, entry, (body, now) => MetadataStore.mergeDataset entry (.decode body) now

/-- What a schema says of a column besides its type. -/
structure ColumnPolicy where
  default : String := ""
  collation : String := ""
  tags : Option (List String) := none

/-- No tags are the same as an empty list of them. -/
def ColumnPolicy.Same (a b : ColumnPolicy) : Prop :=
  a.default = b.default ∧ a.collation = b.collation ∧ a.tags.getD [] = b.tags.getD []

/-- A policy, and of the old one what it does not give. -/
def ColumnPolicy.atop (new old : ColumnPolicy) : ColumnPolicy :=
  ⟨if new.default = "" then old.default else new.default,
    if new.collation = "" then old.collation else new.collation, new.tags.or old.tags⟩

theorem ColumnPolicy.atop_empty (policy : ColumnPolicy) : policy.atop {} = policy := by
  have kept (text : String) : (if text = "" then "" else text) = text := by
    split
    next empty => exact empty.symm
    next => rfl
  simp [atop, kept]

theorem ColumnPolicy.empty_atop (policy : ColumnPolicy) :
    ColumnPolicy.atop {} policy = policy := by
  simp [atop]

def TableColumn.policy : TableColumn → ColumnPolicy
  | .mk _ _ _ _ default collation tags _ => ⟨default, collation, tags⟩

def TableColumn.fields : TableColumn → List TableColumn
  | .mk _ _ _ _ _ _ _ fields => fields

section
variable (columns base overlay : List TableColumn) (name : String)

def policyOf : ColumnPolicy := ((findOverlay columns name).map TableColumn.policy).getD {}

def fieldsOf : List TableColumn := ((findOverlay columns name).map TableColumn.fields).getD []

/-- The policy of the column, or of a field in it, at the path of names. -/
def policyAt : List TableColumn → List String → ColumnPolicy
  | _, [] => {}
  | columns, [name] => policyOf columns name
  | columns, name :: next :: path => policyAt (fieldsOf columns name) (next :: path)

theorem merge_nil : mergeFieldPolicyTags base [] = base := by
  have same : ∀ column ∈ base, mergeColumn [] column = column := by
    rintro ⟨name, type, mode, description, default, collation, tags, fields⟩ -
    simp [mergeColumn, findOverlay]
  simp [mergeFieldPolicyTags, unknownFields, List.map_congr_left same]

theorem mergeColumn_eq (column : TableColumn) :
    (mergeColumn overlay column).name = column.name ∧
      (mergeColumn overlay column).policy = (policyOf overlay column.name).atop column.policy ∧
      (mergeColumn overlay column).fields =
        mergeFieldPolicyTags column.fields (fieldsOf overlay column.name) := by
  obtain ⟨name, type, mode, description, default, collation, tags, fields⟩ := column
  rw [mergeColumn, policyOf, fieldsOf, TableColumn.name]
  cases findOverlay overlay name with
  | none => exact ⟨rfl, by simp [ColumnPolicy.atop], (merge_nil fields).symm⟩
  | some found =>
    obtain ⟨name', type', mode', description', default', collation', tags', fields'⟩ := found
    exact ⟨rfl, rfl, rfl⟩

theorem findOverlay_merge : findOverlay (mergeFieldPolicyTags base overlay) name =
    ((findOverlay base name).map (mergeColumn overlay)).or (findOverlay overlay name) := by
  have merged : (base.map (mergeColumn overlay)).reverse.find? (fun column => column.name = name) =
      (findOverlay base name).map (mergeColumn overlay) := by
    rw [← List.map_reverse, List.find?_map, findOverlay]
    simp only [Function.comp_def, (mergeColumn_eq overlay _).1]
  rw [mergeFieldPolicyTags, findOverlay, List.reverse_append, List.find?_append, merged,
    unknownFields, ← List.filter_reverse, List.find?_filter]
  cases known : findOverlay base name with
  | none =>
    -- all fields of the name are unknown
    have absent := List.find?_eq_none.mp known
    simp only [List.mem_reverse, decide_eq_true_eq] at absent
    rw [Option.map_none, Option.or_none, Option.none_or, findOverlay]
    congr 1
    funext column
    by_cases same : column.name = name
    · simpa [same] using absent
    · simp [same]
  | some column =>
    have there := List.mem_reverse.mp (List.mem_of_find?_eq_some known)
    have named : column.name = name := by simpa using List.find?_some known
    rw [List.find?_eq_none.mpr, Option.none_or, Option.map_some, Option.some_or]
    intro other _ unknown
    simp only [Bool.not_eq_true', List.any_eq_false, decide_eq_true_eq] at unknown
    exact unknown.1 column there (named.trans unknown.2.symm)

theorem policyOf_merge : policyOf (mergeFieldPolicyTags base overlay) name =
    (policyOf overlay name).atop (policyOf base name) := by
  rw [policyOf, findOverlay_merge]
  cases known : findOverlay base name with
  | none => simp [policyOf, known, ColumnPolicy.atop_empty]
  | some column =>
    have named : column.name = name := by simpa using List.find?_some known
    simp [policyOf, known, (mergeColumn_eq overlay column).2.1, named]

theorem fieldsOf_merge : fieldsOf (mergeFieldPolicyTags base overlay) name =
    mergeFieldPolicyTags (fieldsOf base name) (fieldsOf overlay name) := by
  rw [fieldsOf, findOverlay_merge]
  cases known : findOverlay base name with
  | none => simp [fieldsOf, known, mergeFieldPolicyTags, unknownFields]
  | some column =>
    have named : column.name = name := by simpa using List.find?_some known
    simp [fieldsOf, known, (mergeColumn_eq overlay column).2.2, named]

theorem policyAt_merge (path : List String) : policyAt (mergeFieldPolicyTags base overlay) path =
    (policyAt overlay path).atop (policyAt base path) := by
  induction path generalizing base overlay with
  | nil => rfl
  | cons name path ih =>
    cases path with
    | nil => exact policyOf_merge base overlay name
    | cons next path =>
      rw [policyAt, fieldsOf_merge, ih]
      rfl

theorem policyAt_nil (path : List String) : policyAt [] path = {} := by
  induction path with
  | nil => rfl
  | cons name path ih =>
    cases path with
    | nil => rfl
    | cons next path => exact ih

theorem policyAt_given (before : Option (List TableColumn)) (given : List TableColumn)
    (path : List String) :
    policyAt (((extractSchemaPolicyOverlay (some given)).map (mergeSchemaPolicyTags before)).or
        before |>.getD []) path =
      (policyAt (extractPolicyFields given) path).atop (policyAt (before.getD []) path) := by
  rw [extractSchemaPolicyOverlay, Option.getD_some]
  cases extracted : extractPolicyFields given with
  | nil => simp [policyAt_nil, ColumnPolicy.empty_atop]
  | cons first rest =>
    cases before with
    | none => simp [mergeSchemaPolicyTags, policyAt_nil, ColumnPolicy.atop_empty]
    | some base => simp [mergeSchemaPolicyTags, policyAt_merge]

end

section
variable {resource : Resource}

def Metadata.label (entry : Metadata resource V) (key : String) : Option String :=
  entry.labels.bind (· key)

/-- Absent fields and labels keep their values, and those that are given take the new ones. Of the
schema of a table, the policies of its columns are kept. -/
structure Patched (body : PatchBody resource V) (before after : Metadata resource V) : Prop where
  fields : ∀ field, after.fields field = (body.fields field).getD (before.fields field)
  labels : ∀ key, after.label key = ((body.labels.bind (· key)).getD (before.label key))
  collation : after.collation = body.collation.or before.collation
  schema : body.schema = none → after.schema = before.schema
  policies : resource = .table → ∀ given, body.schema = some given → ∀ path,
    (policyAt (after.schema.getD []) path).Same (policyAt (extractPolicyFields given) path)

/-- A policy that is set is given as well. -/
structure ColumnPolicy.Covers (new old : ColumnPolicy) : Prop where
  default : new.default = "" → old.default = ""
  collation : new.collation = "" → old.collation = ""
  tags : new.tags = none → old.tags.getD [] = []

/-- Nothing that is set is given as null or as the empty text, labels are given only together
with every key that there is, and a schema together with every policy of a column. -/
structure PatchBody.Plain (body : PatchBody resource V) (before : Metadata resource V) : Prop where
  fields : ∀ field, body.fields field = some none → before.fields field = none
  labels : ∀ given, body.labels = some given → ∀ key, given key = none → before.label key = none
  policies : resource = .table → ∀ given, body.schema = some given → ∀ path,
    (policyAt (extractPolicyFields given) path).Covers (policyAt (before.schema.getD []) path)

theorem ColumnPolicy.atop_same_iff {new old : ColumnPolicy} :
    (new.atop old).Same new ↔ new.Covers old := by
  have text (a b : String) : (if a = "" then b else a) = a ↔ (a = "" → b = "") := by
    split
    next empty => simp [empty]
    next given => simp [given]
  have tags : (new.tags.or old.tags).getD [] = new.tags.getD [] ↔
      (new.tags = none → old.tags.getD [] = []) := by
    cases new.tags <;> simp
  constructor
  · exact fun ⟨default, collation, same⟩ => ⟨(text _ _).mp default, (text _ _).mp collation, tags.mp same⟩
  · exact fun ⟨default, collation, same⟩ =>
      ⟨(text _ _).mpr default, (text _ _).mpr collation, tags.mpr same⟩

section
variable (body : PatchBody resource V) (before : Metadata resource V)

theorem fields_patched_iff (field : resource.Field) :
    (before.mergeOverlay (Metadata.decode body).stripEngineOwnedFields).fields field =
        (body.fields field).getD (before.fields field) ↔
      (body.fields field = some none → before.fields field = none) := by
  change (body.fields field).join.or (before.fields field) = _ ↔ _
  rcases body.fields field with _ | _ | value <;> simp

theorem labels_patched_iff (key : String) :
    (before.mergeOverlay (Metadata.decode body).stripEngineOwnedFields).label key =
        (body.labels.bind (· key)).getD (before.label key) ↔
      ∀ given, body.labels = some given → given key = none → before.label key = none := by
  cases labels : body.labels with
  | none => simp [Metadata.mergeOverlay, Metadata.decode, Metadata.stripEngineOwnedFields,
      Metadata.label, labels]
  | some given =>
    rcases held : given key with _ | _ | value <;>
      simp [Metadata.mergeOverlay, Metadata.decode, Metadata.stripEngineOwnedFields,
        Metadata.label, labels, held, eq_comm]

theorem patched_iff_plain (after : Metadata resource V)
    (merged : ∃ created modified schema, after =
      { before.mergeOverlay (Metadata.decode body).stripEngineOwnedFields with
        creationTime := created, lastModifiedTime := modified, schema := schema })
    (schema : body.schema = none → after.schema = before.schema)
    (policies : resource = .table → ∀ given, body.schema = some given → ∀ path,
      ((policyAt (after.schema.getD []) path).Same (policyAt (extractPolicyFields given) path) ↔
        (policyAt (extractPolicyFields given) path).Covers
          (policyAt (before.schema.getD []) path))) :
    Patched body before after ↔ body.Plain before := by
  obtain ⟨created, modified, columns, rfl⟩ := merged
  constructor
  · intro patched
    refine ⟨fun field => (fields_patched_iff body before field).mp (patched.fields field),
      fun given labels key => ?_, fun table given given_is path => ?_⟩
    · exact (labels_patched_iff body before key).mp (patched.labels key) given labels
    · exact (policies table given given_is path).mp (patched.policies table given given_is path)
  · intro plain
    refine ⟨fun field => (fields_patched_iff body before field).mpr (plain.fields field),
      fun key => ?_, rfl, schema, fun table given given_is path => ?_⟩
    · exact (labels_patched_iff body before key).mpr fun given labels => plain.labels given labels key
    · exact (policies table given given_is path).mpr (plain.policies table given given_is path)

end

theorem patched_iff (resource : Resource) (before : Metadata resource V)
    (patch : PatchBody resource V × String) :
    Patched patch.1 before (patched resource before patch) ↔ patch.1.Plain before := by
  obtain ⟨body, now⟩ := patch
  cases resource with
  | dataset => exact patched_iff_plain body before _ ⟨_, _, _, rfl⟩ (fun _ => rfl) nofun
  | table =>
    have merged : (patched .table before (body, now)).schema =
        ((extractSchemaPolicyOverlay body.schema).map (mergeSchemaPolicyTags before.schema)).or
          before.schema := rfl
    refine patched_iff_plain body before _ ⟨_, _, _, rfl⟩ (fun absent => ?_)
      fun _ given schema path => ?_
    · rw [merged, absent]
      simp [extractSchemaPolicyOverlay, extractPolicyFields]
    · rw [merged, schema, policyAt_given, ColumnPolicy.atop_same_iff]

/-- Each of a sequence of bodies is applied as it should be exactly if each is plain for the entry
that it meets. -/
theorem patches_iff (resource : Resource) (entry : Metadata resource V)
    (patches : List (PatchBody resource V × String)) :
    Transition.Admits (fun before patch => Patched patch.1 before (patched resource before patch))
        (patched resource) entry patches ↔
      Transition.Admits (fun before patch => patch.1.Plain before) (patched resource) entry
        patches := by
  have same : (fun before (patch : PatchBody resource V × String) =>
      Patched patch.1 before (patched resource before patch)) =
      fun before patch => patch.1.Plain before := by
    funext before patch
    exact propext (patched_iff resource before patch)
  rw [same]

/-- A label set on a table that has another one: `{"labels": {"env": "prod"}}`. -/
theorem other_label_lost :
    ∃ (entry : Metadata .table Unit) (body : PatchBody .table Unit),
      entry.label "team" = some "ads" ∧
      (body.labels.bind (· "team")) = none ∧
      (patched .table entry (body, "1")).label "team" = none :=
  ⟨{ labels := some fun key => if key = "team" then some "ads" else none },
    { labels := some fun key => if key = "env" then some (some "prod") else none },
    by decide, by decide, by decide⟩

end
end BigQueryEmulator.Gateway
