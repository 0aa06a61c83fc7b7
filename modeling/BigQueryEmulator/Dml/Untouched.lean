import BigQueryEmulator.Dml.Atomicity
import BigQueryEmulator.Storage.NestedLists

/-! Rows that an UPDATE or DELETE does not match. The statement writes back what it scanned, so
that such a row stays as it is exactly when its cells are read back as they were stored. -/
namespace BigQueryEmulator.Dml
open Storage Serial Fallible List

section
variable {st : DuckDBStorage}

def sparedByUpdate (upd : UpdateStmt) (byId : Int → Option Nat) (fromRows : List ColumnBindings)
    (st : DuckDBStorage) (row : Row) : Bool :=
  match Eval.alone (do
    let bindings ← bindRow upd.target byId row
    matchUpdateRow upd fromRows bindings) st with
  | .ok matched => matched.isNone
  | .error _ => false

theorem processOneUpdateRow_rewritten
    (ok : Eval.alone (processOneUpdateRow upd byId fromRows sofar row) st = .ok made) :
    ∃ new, made.rewritten = sofar.rewritten ++ [new] ∧
      (sparedByUpdate upd byId fromRows st row = true → new = row) := by
  obtain ⟨bindings, bound, ok⟩ := alone_bind_ok ok
  obtain ⟨matched, decided, ok⟩ := alone_bind_ok ok
  have spared : sparedByUpdate upd byId fromRows st row = matched.isNone := by
    rw [sparedByUpdate, alone_bind, bound]
    change (match Eval.alone (matchUpdateRow upd fromRows bindings) st with
      | .ok matched => matched.isNone
      | .error _ => false) = _
    rw [decided]
  cases matched with
  | none =>
    cases ok
    exact ⟨row, rfl, fun _ => rfl⟩
  | some found =>
    obtain ⟨mutated, _, ok⟩ := alone_bind_ok ok
    refine ⟨mutated, ?_, fun unmatched => by rw [spared] at unmatched; cases unmatched⟩
    split at ok
    · cases ok
      rfl
    · obtain ⟨post, _, ok⟩ := alone_bind_ok ok
      cases ok
      rfl

theorem updateRows_rewritten
    (ok : Eval.alone (updateRows upd byId fromRows rows) st = .ok rewriting) :
    List.Forall₂ (fun row new => sparedByUpdate upd byId fromRows st row = true → new = row)
      rows rewriting.rewritten := by
  rw [updateRows, alone_foldlM] at ok
  suffices collected : ∀ sofar : Rewriting,
      rows.foldlM (fun sofar row =>
        Eval.alone (processOneUpdateRow upd byId fromRows sofar row) st) sofar = .ok rewriting →
      ∃ news, rewriting.rewritten = sofar.rewritten ++ news ∧
        List.Forall₂ (fun row new => sparedByUpdate upd byId fromRows st row = true → new = row)
          rows news by
    obtain ⟨news, written, kept⟩ := collected {} ok
    rw [written]
    exact kept
  clear ok
  induction rows with
  | nil =>
    rintro sofar ⟨⟩
    exact ⟨[], (append_nil _).symm, .nil⟩
  | cons row rest ih =>
    intro sofar ok
    obtain ⟨next, stepped, ok⟩ := bind_ok ok
    obtain ⟨new, one, same⟩ := processOneUpdateRow_rewritten stepped
    obtain ⟨news, more, others⟩ := ih next ok
    refine ⟨new :: news, ?_, .cons same others⟩
    rw [more, one, append_assoc, singleton_append]

end

/-- A cast that puts a string in quotes for each documented reason, and when it is empty. -/
def quotingCast : VarcharCast where
  quotes := fun text => text.isEmpty || text.any (specialCharacters.contains ·) ||
    text = "NULL".toList || text.head?.any isBlank || text.getLast?.any isBlank
  double := fun _ => ['0']
  blob := fun _ => []

theorem quotingCast_documented : quotingCast.Documented where
  special := by
    intro text c within special
    have found : text.any (specialCharacters.contains ·) = true :=
      any_eq_true.mpr ⟨c, within, contains_iff_mem.mpr special⟩
    simp only [quotingCast, found, Bool.or_true, Bool.true_or]
  null := by decide
  outer := by
    rintro text c blank (first | last)
    · simp [quotingCast, first, blank]
    · simp [quotingCast, last, blank]
  double := by
    intro bits
    have text : quotingCast.double bits = ['0'] := rfl
    rw [text]
    decide

/-- A scan answers the rows that are stored exactly when each of their cells is one that is
read back, and an UPDATE or DELETE then leaves the rows that it does not match as they are. -/
theorem nested_rows_read_back_iff {cast : VarcharCast} {strtod : List Char → Option UInt64}
    (documented : cast.Documented) (table : NestedTable cast strtod) :
    (readRows strtod cast table.columns table.rows = .ok table.rows ↔
      ∀ row ∈ table.rows, List.Forall₂ (Column.Reads cast) table.columns row.cells) ∧
    ((∀ row ∈ table.rows, List.Forall₂ (Column.Reads cast) table.columns row.cells) →
      ∀ (st : DuckDBStorage) (scanned : List Row),
        readRows strtod cast table.columns table.rows = .ok scanned →
        (∀ (target : Target) (byId : Int → Option Nat) (whereExpr : Option Expr) (deletion : Deletion),
          Eval.alone (deleteRows target byId whereExpr scanned) st = .ok deletion →
          deletion.kept = table.rows.filter (sparedByDelete target byId whereExpr st)) ∧
        ∀ (upd : UpdateStmt) (byId : Int → Option Nat) (fromRows : List ColumnBindings)
          (rewriting : Rewriting),
          Eval.alone (updateRows upd byId fromRows scanned) st = .ok rewriting →
          List.Forall₂ (fun row new => sparedByUpdate upd byId fromRows st row = true → new = row)
            table.rows rewriting.rewritten) := by
  refine ⟨readRows_ok_iff documented table, fun reads st scanned scan => ?_⟩
  rw [(readRows_ok_iff documented table).mpr reads] at scan
  cases scan
  constructor
  · intro target byId whereExpr deletion ok
    exact (deleteRows_ok ok).1
  · intro upd byId fromRows rewriting ok
    exact updateRows_rewritten ok

def quotedName : NestedTable quotingCast (fun _ => none) where
  columns := [.mk "person" .struct .nullable [.mk "name" .string .nullable []]]
  rows := [⟨[.struct [.string "it's"]]⟩]
  formed := by simp [Column.WellFormed, FieldsWellFormed, PlainName, Column.name]
  fit := by simp [Column.Fits, FieldsFit, modeFits, elementFits, ColumnType.isText]

def structList : NestedTable quotingCast (fun _ => none) where
  columns := [.mk "people" .struct .repeated [.mk "age" .int64 .nullable []]]
  rows := [⟨[.array [.struct [.int64 7]]]⟩]
  formed := by simp [Column.WellFormed, FieldsWellFormed, PlainName, Column.name]
  fit := by simp [Column.Fits, FieldsFit, modeFits, elementFits]

/-- The structs of a list come back as strings, and a quote makes a scan fail. -/
theorem nested_rows_misread :
    readRows (fun _ => none) quotingCast structList.columns structList.rows =
        .ok [⟨[.array [.string "\x7b'age': 7\x7d"]]⟩] ∧
      readRows (fun _ => none) quotingCast quotedName.columns quotedName.rows ≠
        .ok quotedName.rows := by
  constructor
  · have trimmed : trimAsciiSpace "\x7b'age': 7\x7d".toList = "\x7b'age': 7\x7d".toList := by
      decide
    have appended : appendListElement (fun _ => none) "\x7b'age': 7\x7d".toList .struct =
        .ok (.string "\x7b'age': 7\x7d", []) := by
      rfl
    have elements : parseListElements (fun _ => none) .struct "\x7b'age': 7\x7d".toList =
        .ok [.string "\x7b'age': 7\x7d"] := by
      rw [parseListElements_eq, trimmed]
      change (appendListElement (fun _ => none) "\x7b'age': 7\x7d".toList .struct >>= _) = _
      rw [appended]
      change (parseListElements (fun _ => none) .struct []).map _ = _
      rw [parseListElements_nil]
      rfl
    have cell : parseDuckDBListVarchar (fun _ => none) "[\x7b'age': 7\x7d]".toList .struct =
        .ok (.array [.string "\x7b'age': 7\x7d"]) := by
      refine (parseDuckDBListVarchar_brackets "\x7b'age': 7\x7d".toList).trans ?_
      rw [elements]
      rfl
    rw [readRows, mapM_ok_iff]
    refine .cons ?_ .nil
    rw [readRow, map_ok_iff]
    exact ⟨_, mapM_ok_iff.mpr (.cons (decoded_ok_iff.mpr cell) .nil), rfl⟩
  · intro ok
    have reads := (readRows_ok_iff quotingCast_documented quotedName).mp ok _ (.head _)
    have fields : List.Forall₂ (FieldReads quotingCast) [.mk "name" .string .nullable []]
        [.string "it's"] := (forall₂_cons.mp reads).1
    cases (forall₂_cons.mp fields).1 with
    | string unescaped => exact absurd (unescaped (by decide)).1 (by decide)

/-- Strings and numbers without quotes or backslashes, in a list and in a STRUCT. -/
def plainRows : NestedTable quotingCast (fun _ => none) where
  columns := [.mk "tags" .string .repeated [],
    .mk "person" .struct .nullable [.mk "name" .string .nullable [], .mk "age" .int64 .nullable []]]
  rows := [⟨[.array [.string " a, b", .null, .string "NULL"], .struct [.string "Ann \x7b", .int64 7]]⟩]
  formed := by simp [Column.WellFormed, FieldsWellFormed, PlainName, Column.name]
  fit := by simp [Column.Fits, FieldsFit, modeFits, elementFits, ColumnType.isText]

theorem plainRows_read_back :
    readRows (fun _ => none) quotingCast plainRows.columns plainRows.rows = .ok plainRows.rows := by
  refine (nested_rows_read_back_iff quotingCast_documented plainRows).1.mpr ?_
  rintro row (_ | ⟨_, ⟨⟩⟩)
  refine .cons ?_ (.cons ?_ .nil)
  · intro element among
    simp only [mem_cons, not_mem_nil, or_false] at among
    rcases among with rfl | rfl | rfl
    · exact ⟨by decide, by decide⟩
    · trivial
    · exact ⟨by decide, by decide⟩
  · exact .cons (.string (by decide) (by decide) (by decide)) (.cons (.int64 7) .nil)

end BigQueryEmulator.Dml
