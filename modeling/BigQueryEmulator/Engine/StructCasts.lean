import BigQueryEmulator.Fallible
import BigQueryEmulator.Lookup

/-! Casts between STRUCT types (`transpiler_emit_expr.cc`, `transpiler_internal.h`). BigQuery
matches the fields by position; the emitted struct literal reads them by name. -/
namespace BigQueryEmulator.Engine
open List Fallible

inductive SqlType (Kind : Type) where
  | other (kind : Kind)
  | struct (fields : List (String × SqlType Kind))

inductive DuckValue (Scalar : Type) where
  | null
  | scalar (value : Scalar)
  | struct (names : List String) (cells : List (DuckValue Scalar))

variable {Kind Scalar ε : Type}

def resolveStructFieldName (idx : ℕ) (name : String) : String :=
  if name = "" then "_" ++ toString idx else name

def fieldNames (fields : List (String × SqlType Kind)) : List String :=
  fields.mapIdx fun idx field => resolveStructFieldName idx field.1

/-- Each key of the struct literal with the source field that it reads. `EmitCast` takes it for
CAST and for SAFE_CAST. -/
def emitStructPositionalCastRemap (source target : List (String × SqlType Kind)) :
    Option (List (String × String)) :=
  if source.length ≠ target.length then none
  else some ((fieldNames target).zip (fieldNames source))

namespace DuckValue

/-- DuckDB has no struct without fields and none with two fields of one name. -/
def Packable (names : List String) : Prop := names ≠ [] ∧ (names.map String.toLower).Nodup

instance (names : List String) : Decidable (Packable names) := instDecidableAnd

/-- A value of a struct type with these names. -/
def typed (names : List String) (value : DuckValue Scalar) : Except String (DuckValue Scalar) :=
  if Packable names then .ok value else .error "Duplicate struct entry name"

def extract (name : String) : DuckValue Scalar → Except String (DuckValue Scalar)
  | null => .ok null
  | scalar _ => .error "No function matches the given name"
  | struct names cells =>
    match ((names.map String.toLower).zip cells).lookup name.toLower with
    | some cell => .ok cell
    | none => .error "Could not find key in struct"

def remap (kvs : List (String × String)) (value : DuckValue Scalar) :
    Except String (DuckValue Scalar) := do
  typed (kvs.map Prod.fst) (.struct (kvs.map Prod.fst) (← kvs.mapM (value.extract ·.2)))

theorem typed_ok_iff {value : DuckValue Scalar} :
    typed names value = .ok result ↔ Packable names ∧ value = result := by
  unfold typed
  split <;> simp_all

theorem remap_struct {cells : List (DuckValue Scalar)} (packable : Packable (kvs.map Prod.snd))
    (fits : kvs.length = cells.length) :
    remap kvs (struct (kvs.map Prod.snd) cells) =
      typed (kvs.map Prod.fst) (.struct (kvs.map Prod.fst) cells) := by
  have distinct : ((((kvs.map Prod.snd).map String.toLower).zip cells).map Prod.fst).Nodup := by
    rw [map_fst_zip (by simp [fits])]
    exact packable.2
  have read : kvs.mapM (extract ·.2 (struct (kvs.map Prod.snd) cells)) = .ok cells := by
    refine mapM_ok_iff.mpr (forall₂_iff_zip.mpr ⟨fits, fun {kv cell} member => ?_⟩)
    have among : (kv.2.toLower, cell) ∈ ((kvs.map Prod.snd).map String.toLower).zip cells := by
      rw [map_map, zip_map_left]
      exact mem_map_of_mem member
    rw [extract, (Lookup.lookup_eq_some_iff_mem distinct).mpr among]
  rw [remap, read]
  rfl

end DuckValue
open DuckValue

section
variable (convert : SqlType Kind → DuckValue Scalar → Except ε (DuckValue Scalar))

mutual

/-- BigQuery's cast, over its conversions between types that are not both STRUCT. -/
def castValue : SqlType Kind → DuckValue Scalar → Except ε (DuckValue Scalar)
  | _, .null => .ok .null
  | .struct fields, .struct _ cells => (castCells fields cells).map (.struct (fieldNames fields))
  | type, value => convert type value

def castCells : List (String × SqlType Kind) → List (DuckValue Scalar) →
    Except ε (List (DuckValue Scalar))
  | (_, type) :: fields, cell :: cells => return (← castValue type cell) :: (← castCells fields cells)
  | _, _ => return []

end

variable (source target : List (String × SqlType Kind)) (returnNullOnError : Bool)
  (value : DuckValue Scalar)

/-- The literal and BigQuery have the same result. SAFE_CAST has NULL for an error. -/
def CastAgrees : Prop :=
  ∃ kvs result, emitStructPositionalCastRemap source target = some kvs ∧
    (typed (fieldNames source) value >>= remap kvs) = .ok result ∧
    (castValue convert (.struct target) value = .ok result ∨
      returnNullOnError = true ∧ result = .null ∧
        ∃ e, castValue convert (.struct target) value = .error e)

/-- The emitted literal only renames the fields of a struct that is not NULL. -/
theorem struct_cast_iff (same : source.length = target.length)
    (fits : value = .null ∨
      ∃ cells, value = .struct (fieldNames source) cells ∧ cells.length = source.length) :
    CastAgrees convert source target returnNullOnError value ↔
      Packable (fieldNames source) ∧ Packable (fieldNames target) ∧
        ∃ names cells, value = .struct names cells ∧ castCells convert target cells = .ok cells := by
  have count : (fieldNames target).length = (fieldNames source).length := by
    simp [fieldNames, same]
  have emitted : emitStructPositionalCastRemap source target =
    some ((fieldNames target).zip (fieldNames source)) := if_neg (not_not.mpr same)
  simp only [CastAgrees, emitted, bind_ok_iff, typed_ok_iff]
  rcases fits with rfl | ⟨cells, rfl, fits⟩
  · -- the literal is a struct of NULLs
    simp [remap, bind_ok_iff, typed_ok_iff, castValue]
  have read := @remap_struct _ ((fieldNames target).zip (fieldNames source)) cells
  rw [map_snd_zip (Nat.le_of_eq count.symm), map_fst_zip (Nat.le_of_eq count)] at read
  replace read := fun packable => read packable (by simp [fieldNames, same, fits])
  constructor
  · rintro ⟨_, result, ⟨⟩, ⟨_, ⟨sound, rfl⟩, evaluated⟩, cast⟩
    rw [read sound, typed_ok_iff] at evaluated
    obtain ⟨packable, rfl⟩ := evaluated
    simp [castValue, map_ok_iff] at cast
    exact ⟨sound, packable, _, cells, rfl, cast⟩
  · rintro ⟨sound, packable, _, _, ⟨⟩, kept⟩
    refine ⟨_, _, rfl, ⟨_, ⟨sound, rfl⟩, (read sound).trans (typed_ok_iff.mpr ⟨packable, rfl⟩)⟩,
      .inl ?_⟩
    rw [castValue, kept]
    rfl

end

theorem renaming_cast : CastAgrees (ε := Unit) (fun _ value => .ok value) [("a", .other ())]
    [("b", .other ())] false (.struct ["a"] [.scalar 5]) := by
  refine (struct_cast_iff _ [("a", .other ())] [("b", .other ())] _ _ rfl
    (.inr ⟨_, rfl, rfl⟩)).mpr ⟨by decide, by decide, _, _, rfl, ?_⟩
  simp [castCells, castValue]

/-- A NULL struct becomes a struct of NULLs. -/
theorem null_struct_cast :
    emitStructPositionalCastRemap [("a", .other ())] [("b", .other ())] = some [("b", "a")] ∧
    remap [("b", "a")] .null = .ok (.struct ["b"] [(.null : DuckValue Unit)]) ∧
    castValue (ε := Unit) (fun _ value => .ok value) (.struct [("b", .other ())])
      (.null : DuckValue Unit) = .ok .null := by
  exact ⟨rfl, rfl, by rw [castValue]⟩

end BigQueryEmulator.Engine
