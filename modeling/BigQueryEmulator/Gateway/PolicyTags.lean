import Mathlib

/-! The schema of `tables.get`: the columns of the engine with what the metadata of the gateway
know of them (`schema_policy.go`, `schema_collation.go`). -/
namespace BigQueryEmulator.Gateway
open List

/-- `TableFieldSchema`. -/
inductive TableColumn where
  | mk (name type mode description defaultValueExpression collation : String)
    (policyTags : Option (List String)) (fields : List TableColumn)

def TableColumn.name : TableColumn → String
  | mk name _ _ _ _ _ _ _ => name

/-- The last field of a name stays in the index by name. -/
def findOverlay (overlay : List TableColumn) (name : String) : Option TableColumn :=
  overlay.reverse.find? fun column => column.name = name

/-- The fields of the overlay that the engine does not have, which are appended: all, if it has
none. -/
def unknownFields (base overlay : List TableColumn) : List TableColumn :=
  overlay.filter fun column => !base.any fun known => known.name = column.name

def mergeColumn (overlay : List TableColumn) : TableColumn → TableColumn
  | .mk name type mode description default collation tags fields =>
    match findOverlay overlay name with
    | none => .mk name type mode description default collation tags fields
    | some (.mk _ _ _ _ default' collation' tags' fields') =>
      .mk name type mode description (if default' = "" then default else default')
        (if collation' = "" then collation else collation') (tags'.or tags)
        (fields.map (fun field => mergeColumn fields' field) ++ unknownFields fields fields')

def mergeFieldPolicyTags (base overlay : List TableColumn) : List TableColumn :=
  base.map (mergeColumn overlay) ++ unknownFields base overlay

def isStringLikeFieldType (type : String) : Bool :=
  type = "STRING" || type = "JSON" || type = "GEOGRAPHY"

/-- Without a default, `default` is empty. -/
def defaultedCollation (default type collation : String) : String :=
  if collation = "" && isStringLikeFieldType type then default else collation

def applyDefaultCollationField (default : String) : TableColumn → TableColumn
  | .mk name type mode description expression collation tags fields =>
    .mk name type mode description expression (defaultedCollation default type collation) tags
      (fields.map fun field => applyDefaultCollationField default field)

/-- The schema of `catalogTable`. -/
def catalogSchema (default : String) (base overlay : List TableColumn) : List TableColumn :=
  (mergeFieldPolicyTags base overlay).map (applyDefaultCollationField default)

/-- The column with the policy tags of the overlay, here and in its fields. -/
def retagColumn (overlay : List TableColumn) : TableColumn → TableColumn
  | .mk name type mode description default collation tags fields =>
    match findOverlay overlay name with
    | none => .mk name type mode description default collation tags fields
    | some (.mk _ _ _ _ _ _ tags' fields') =>
      .mk name type mode description default collation (tags'.or tags)
        (fields.map fun field => retagColumn fields' field)

/-- The default collation is for texts without a collation of their own. -/
def KeepsCollation (default type collation : String) : Prop :=
  default = "" ∨ collation ≠ "" ∨ isStringLikeFieldType type = false

def AllKeepCollation (default : String) : TableColumn → Prop
  | .mk _ type _ _ _ collation _ fields =>
    KeepsCollation default type collation ∧ ∀ field ∈ fields, AllKeepCollation default field

/-- Default value and collation stay the column's own, and all fields of the overlay are known. -/
def OverlaysTags (default : String) (overlay : List TableColumn) : TableColumn → Prop
  | .mk name type mode description expression collation tags fields =>
    match findOverlay overlay name with
    | none => AllKeepCollation default
        (.mk name type mode description expression collation tags fields)
    | some (.mk _ _ _ _ expression' collation' _ fields') =>
      (expression' = "" ∨ expression' = expression) ∧
        (if collation' = "" then KeepsCollation default type collation else collation' = collation) ∧
        unknownFields fields fields' = [] ∧ ∀ field ∈ fields, OverlaysTags default fields' field

theorem defaultedCollation_eq_iff {default type collation : String} :
    defaultedCollation default type collation = collation ↔
      KeepsCollation default type collation := by
  unfold defaultedCollation KeepsCollation
  by_cases own : collation = ""
  · cases text : isStringLikeFieldType type <;> simp [own]
  · simp [own]

theorem collated_iff (default : String) : ∀ column : TableColumn,
    applyDefaultCollationField default column = column ↔ AllKeepCollation default column
  | .mk name type mode description expression collation tags fields => by
    have nested := forall₂_congr fun field (_ : field ∈ fields) => collated_iff default field
    rw [applyDefaultCollationField, AllKeepCollation, TableColumn.mk.injEq, ← nested,
      defaultedCollation_eq_iff]
    simp only [true_and]
    refine and_congr_right fun _ => ?_
    conv_lhs => rhs; rw [← map_id fields]
    exact map_inj_left

theorem catalogSchema_eq_iff {default : String} {base overlay : List TableColumn} :
    catalogSchema default base overlay = base.map (retagColumn overlay) ↔
      unknownFields base overlay = [] ∧ ∀ column ∈ base,
        applyDefaultCollationField default (mergeColumn overlay column) =
          retagColumn overlay column := by
  rw [catalogSchema, mergeFieldPolicyTags, map_append, map_map]
  constructor
  · intro same
    rw [← append_nil (base.map (retagColumn overlay))] at same
    obtain ⟨known, unknown⟩ := append_inj same (by rw [length_map, length_map])
    exact ⟨map_eq_nil_iff.mp unknown, map_inj_left.mp known⟩
  · rintro ⟨unknown, known⟩
    rw [unknown]
    exact (append_nil _).trans (map_inj_left.mpr known)

theorem retagged_iff (default : String) : ∀ (overlay : List TableColumn) (column : TableColumn),
    applyDefaultCollationField default (mergeColumn overlay column) = retagColumn overlay column ↔
      OverlaysTags default overlay column
  | overlay, .mk name type mode description expression collation tags fields => by
    rw [mergeColumn, retagColumn, OverlaysTags]
    cases findOverlay overlay name with
    | none => exact collated_iff default _
    | some found =>
      obtain ⟨name', type', mode', description', expression', collation', tags', fields'⟩ := found
      have nested := forall₂_congr fun field (_ : field ∈ fields) =>
        retagged_iff default fields' field
      dsimp only
      have collated : defaultedCollation default type
            (if collation' = "" then collation else collation') = collation ↔
          if collation' = "" then KeepsCollation default type collation
          else collation' = collation := by
        split
        · exact defaultedCollation_eq_iff
        next own => simp [defaultedCollation, own]
      rw [applyDefaultCollationField, TableColumn.mk.injEq, ← nested, ← catalogSchema_eq_iff,
        ← collated, ite_eq_left_iff, ← or_iff_not_imp_left]
      simp only [true_and]
      rfl

/-- The columns are those of the engine, with the policy tags of the overlay, exactly if the overlay
and the default collation have nothing else to say of them. -/
theorem catalog_schema_iff (default : String) (base overlay : List TableColumn) :
    catalogSchema default base overlay = base.map (retagColumn overlay) ↔
      unknownFields base overlay = [] ∧ ∀ column ∈ base, OverlaysTags default overlay column :=
  catalogSchema_eq_iff.trans
    (and_congr_right fun _ => forall₂_congr fun column _ => retagged_iff default overlay column)

/-- The metadata have a tag for a column that was dropped. -/
theorem dropped_column_returned :
    catalogSchema "" [.mk "id" "INTEGER" "NULLABLE" "" "" "" none []]
        [.mk "ssn" "" "" "" "" "" (some ["secret"]) []] =
      [.mk "id" "INTEGER" "NULLABLE" "" "" "" none [],
        .mk "ssn" "" "" "" "" "" (some ["secret"]) []] := by
  simp [catalogSchema, mergeFieldPolicyTags, mergeColumn, findOverlay, unknownFields,
    TableColumn.name, applyDefaultCollationField, defaultedCollation]

end BigQueryEmulator.Gateway
