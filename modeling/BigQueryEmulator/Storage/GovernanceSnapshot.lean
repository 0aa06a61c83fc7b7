import BigQueryEmulator.Storage.Governance

/-! Reading a governance snapshot back. `JsonArraySlice` cuts an array at the first closing
bracket, and every policy and every column entry holds an array of its own: the slice ends
inside the first entry, where no balanced object is found. Nothing of a snapshot is ever
restored. -/
namespace BigQueryEmulator.Storage
open Text List
variable (values : List String)

theorem neutral_piece (neutral : Neutral (Piece.text piece)) : Neutral (join [piece]) := by
  simpa using neutral

theorem neutral_string (value : String) : Neutral (join [jsonString value]) :=
  neutral_piece (Neutral.quoted (escaped_jsonEscape value))

theorem neutral_strings : Neutral (join (renderQuotedJsonStrings values)) := by
  exact .array (forall_mem_map.mpr fun value _ => neutral_string value)

theorem neutral_stringField (simple : Simple key.toList) (value : String) :
    Neutral (join (jsonField key [jsonString value])) := .field simple (neutral_string value)

theorem neutral_intField (simple : Simple key.toList) (value : Int) :
    Neutral (join (jsonField key [jsonInt value])) :=
  .field simple (neutral_piece (neutral_jsonInt value))

theorem escaped_maskKind (kind : DataMaskKind) : Escaped (maskKindToString kind).toList := by
  cases kind <;> exact Simple.escaped (by decide)

variable (policy : RowAccessPolicyRecord)

theorem isObject_renderPolicy :
    IsObject (join (renderPolicy policy)) :=
  isObject_jsonObject ⟨neutral_stringField (by decide) _, neutral_stringField (by decide) _,
    .field (by decide) (neutral_strings _), neutral_intField (by decide) _,
    neutral_intField (by decide) _⟩

variable (column : String × ColumnGovernanceRecord)

theorem isObject_renderColumn :
    IsObject (join (renderColumn column)) :=
  isObject_jsonObject ⟨neutral_stringField (by decide) _, .field (by decide) (neutral_strings _),
    .field (by decide) (neutral_piece (.quoted (escaped_maskKind _))),
    .field (by decide) (neutral_strings _), neutral_stringField (by decide) _⟩

variable (table : TableId × TableGovernance)

theorem isObject_renderTable :
    IsObject (join (renderTable table)) := by
  refine isObject_jsonObject ⟨neutral_stringField (by decide) _, .field (by decide) (.array ?_),
    .field (by decide) (.array ?_)⟩
  · exact forall_mem_map.mpr fun policy _ => (isObject_renderPolicy policy).neutral
  · exact forall_mem_map.mpr fun column _ => (isObject_renderColumn column).neutral

theorem tidy_stringField (simple : Simple key.toList) (value : String) :
    AllTidy (jsonField key [jsonString value]) := .field simple (.cons (tidy_jsonString value) .nil)

theorem tidy_renderPolicy : AllTidy (renderPolicy policy) :=
  .object ⟨tidy_stringField (by decide) _, tidy_stringField (by decide) _,
    .field (by decide) (.strings _), .field (by decide) (.cons (tidy_jsonInt _) .nil),
    .field (by decide) (.cons (tidy_jsonInt _) .nil)⟩

theorem tidy_renderColumn :
    AllTidy (renderColumn column) :=
  .object ⟨tidy_stringField (by decide) _, .field (by decide) (.strings _),
    .field (by decide) (.cons (escaped_maskKind _) .nil), .field (by decide) (.strings _),
    tidy_stringField (by decide) _⟩

theorem tidy_renderTable : AllTidy (renderTable table) := by
  refine .object ⟨tidy_stringField (by decide) _, .field (by decide) (.array ?_),
    .field (by decide) (.array ?_)⟩
  · exact forall_mem_map.mpr fun policy _ => tidy_renderPolicy policy
  · exact forall_mem_map.mpr fun column _ => tidy_renderColumn column

/-- An object with an array in it: there is a closing bracket before its end. -/
theorem bracket_in_object (among : jsonField key (jsonArray items) ∈ fields) :
    ']' ∈ (join (jsonObject fields)).dropLast := by
  have close : jsonPlain "]" ∈ joinWithCommas fields :=
    subset_joinWithCommas among (by simp [jsonField, jsonArray])
  rw [join_jsonObject, ← cons_append, dropLast_concat]
  exact .tail _ (mem_join close (.head _))

theorem split_slice
    (all : ∀ object ∈ objects, IsObject object ∧ ']' ∈ object.dropLast) (rest : List Char) :
    ∃ slice, takeThrough ']' ('[' :: ([','].intercalate objects ++ ']' :: rest)) = some slice ∧
      splitTopLevelJsonObjects slice = [] := by
  cases objects with
  | nil => exact ⟨['[', ']'], rfl, rfl⟩
  | cons object objects =>
    obtain ⟨first, bracket⟩ := all object (.head _)
    have nonempty : object ≠ [] := by
      rintro rfl
      cases bracket
    obtain ⟨front, taken, part⟩ := takeThrough_of_mem bracket
      ([object.getLast nonempty] ++
        (objects.flatMap (fun object => ',' :: object) ++ ']' :: rest))
    rw [← append_assoc, dropLast_append_getLast] at taken
    refine ⟨'[' :: front, ?_, ?_⟩
    · rw [takeThrough, if_neg (by decide), intercalate_commas, append_assoc, taken]
      rfl
    refine splitTopLevelJsonObjects_front first (part.trans (List.dropLast_prefix object)) ?_
    rintro rfl
    have short := part.length_le
    rw [length_dropLast] at short
    have positive := length_pos_iff.mpr nonempty
    omega

def tableFront (table : TableId × TableGovernance) : List Piece :=
  jsonPlain "\x7b" :: (jsonField "table_id" [jsonString table.1.tableId] ++ jsonPlain "," ::
    (jsonField "row_access_policies" (jsonArray (table.2.rowAccessPolicies.map renderPolicy)) ++
      [jsonPlain ","]))

theorem renderTable_eq :
    renderTable table = tableFront table ++
      jsonKey "columns" :: jsonPlain ":" :: (jsonArray (table.2.columns.map renderColumn) ++
        [jsonPlain "\x7d"]) := by
  simp [renderTable, tableFront, jsonObject, joinWithCommas, jsonField]

variable {text : List Char}

theorem slice_at (before rest : List Char) (clean : '[' ∉ before)
    (found : find key text = some (before ++ '[' :: rest)) :
    jsonArraySlice text key = takeThrough ']' ('[' :: rest) := by
  rw [jsonArraySlice, found]
  simp only [Option.bind_eq_bind, Option.bind_some]
  rw [find_char_append clean]
  rfl

/-- The slice of the array that follows a key, when nothing between a match of the key and
the array holds a bracket. -/
theorem split_slice_at (clean : '[' ∉ quotedName key) (betweenClean : '[' ∉ join between)
    (found : find (quotedName key) text = some (quotedName key ++
      (join between ++ join (jsonPlain ":" :: (jsonArray items ++ rest)))))
    (all : ∀ item ∈ items, IsObject (join item) ∧ ']' ∈ (join item).dropLast) :
    ∃ slice, jsonArraySlice text (quotedName key) = some slice ∧
      splitTopLevelJsonObjects slice = [] := by
  have objects : ∀ object ∈ items.map join, IsObject object ∧ ']' ∈ object.dropLast := by
    exact forall_mem_map.mpr fun item among => all item among
  obtain ⟨slice, taken, none⟩ := split_slice objects (join rest)
  refine ⟨slice, (slice_at (quotedName key ++ (join between ++ [':'])) _ ?_ ?_).trans taken, none⟩
  · simp [clean, betweenClean]
  · rw [found, join_cons, join_append, join_jsonArray]
    simp [jsonPlain, Piece.text]

theorem policies_not_restored :
    appendRowAccessPolicies (join (renderTable table)) = [] := by
  obtain ⟨rest, shape⟩ : ∃ rest, renderTable table =
      [jsonPlain "\x7b", jsonKey "table_id", jsonPlain ":", jsonString table.1.tableId,
        jsonPlain ","] ++ jsonKey "row_access_policies" :: jsonPlain ":" ::
          (jsonArray (table.2.rowAccessPolicies.map renderPolicy) ++ rest) := by
    rw [renderTable_eq]
    exact ⟨_, by simp [tableFront, jsonField]; rfl⟩
  have tidy := tidy_renderTable table
  rw [shape] at tidy
  obtain ⟨between, found, place⟩ := find_jsonKey 'p' tidy (by decide) (by decide) (by decide)
  have clean : '[' ∉ join between := by
    rcases place with rfl | ⟨before, content, after, cut, ends, rfl⟩
    · exact not_mem_nil
    -- of the strings before the key only the table's id can end in its name
    rcases before with _ | ⟨_, _ | ⟨_, _ | ⟨_, _ | ⟨_, _ | ⟨_, before⟩⟩⟩⟩⟩ <;>
      simp [jsonPlain, jsonKey, jsonString] at cut
    · rw [← cut.2.1] at ends
      exact absurd ends (by decide)
    · rw [← cut.2.2.2.2]
      decide
  obtain ⟨slice, sliced, none⟩ := split_slice_at (by decide) clean found (by
    intro item within
    obtain ⟨policy, _, rfl⟩ := mem_map.mp within
    exact ⟨isObject_renderPolicy policy, bracket_in_object (.tail _ (.tail _ (.head _)))⟩)
  rw [appendRowAccessPolicies, shape, sliced]
  dsimp only
  rw [none]
  rfl

section
variable {kind : List Char → Prop}

theorem keyed_string (value : String) : Keyed kind [jsonString value] := by
  refine ⟨fun colon => ?_, trivial⟩
  cases colon

theorem keyed_strings : Keyed kind (renderQuotedJsonStrings values) := by
  refine Keyed.array (fun item within => ?_) fun item within => ?_
  · obtain ⟨value, _, rfl⟩ := mem_map.mp within
    exact keyed_string value
  · obtain ⟨value, _, rfl⟩ := mem_map.mp within
    rintro ⟨⟩

theorem keyed_tableFront
    (ofKind : ∀ key ∈ ["table_id", "row_access_policies", "policy_id", "filter_predicate",
      "grantees", "creation_time_ms", "last_modified_time_ms"], kind key.toList) :
    Keyed kind (tableFront table) := by
  obtain ⟨first, second, others⟩ := by
    simpa only [forall_mem_cons] using ofKind
  have policies : Keyed kind
      (jsonField "row_access_policies" (jsonArray (table.2.rowAccessPolicies.map renderPolicy))) := by
    refine .field second (.array (fun item within => ?_) fun item within => ?_)
    · obtain ⟨policy, _, rfl⟩ := mem_map.mp within
      obtain ⟨third, fourth, fifth, sixth, seventh, -⟩ := others
      refine .object ⟨.field third (keyed_string _), .field fourth (keyed_string _),
        .field fifth (keyed_strings _), .field sixth trivial, .field seventh trivial⟩ ?_
      rw [← forall_iff_forall_mem]
      refine ⟨?_, ?_, ?_, ?_, ?_⟩ <;> rintro ⟨⟩
    · obtain ⟨policy, _, rfl⟩ := mem_map.mp within
      rintro ⟨⟩
  have ended : Keyed kind (jsonField "row_access_policies"
      (jsonArray (table.2.rowAccessPolicies.map renderPolicy)) ++ [jsonPlain ","]) :=
    policies.append trivial (by decide)
  refine Keyed.append (Keyed.field first (keyed_string _)) ended ?_
  rintro ⟨⟩

end

theorem splitObjects_within (within : object ∈ splitObjects rounds text) : object <:+: text := by
  induction rounds generalizing text with
  | zero => cases within
  | succ rounds ih =>
    have suffix : advancePastWhitespaceAndComma text <:+ text := dropWhile_suffix _
    rw [splitObjects] at within
    split at within
    · cases within
    rename_i first after extracted
    have cut : first ++ after = advancePastWhitespaceAndComma text := by
      rw [extractBalancedObject] at extracted
      split at extracted
      · exact (scanObject_more [] extracted).2
      · cases extracted
    refine List.IsInfix.trans ?_ suffix.isInfix
    rw [← cut]
    rcases mem_cons.mp within with rfl | later
    · exact (prefix_append _ _).isInfix
    · exact (ih later).trans (suffix_append _ _).isInfix

theorem split_within (within : object ∈ splitTopLevelJsonObjects text) : object <:+: text := by
  rw [splitTopLevelJsonObjects] at within
  split at within
  · cases within
  · rename_i found answer
    exact (splitObjects_within within).trans
      ((drop_suffix 1 found).isInfix.trans (find_some answer).1.isInfix)

/-- In the text before the list of columns no column entry can be read. -/
theorem columns_not_in_front (part : slice <:+: join (tableFront table)) :
    (splitTopLevelJsonObjects slice).filterMap parseColumnEntry = [] := by
  refine filterMap_eq_nil_iff.mpr fun object within => ?_
  have tidy : AllTidy (tableFront table) := fun piece among =>
    tidy_renderTable table piece (by rw [renderTable_eq]; exact mem_append_left _ among)
  have absent := not_infix_key (fun piece among => (tidy piece among).proper (by decide))
    (by decide : 'c' ∈ "column".toList) (by decide)
    (keyed_tableFront table (by decide))
  have missing : find ('"' :: ("column".toList ++ ['"', ':', '"'])) object = none :=
    find_none_of_not_infix fun stands => absent (stands.trans ((split_within within).trans part))
  rw [parseColumnEntry, parseJsonStringField]
  simp only [missing]

theorem tableFront_ends :
    ∃ text, join (tableFront table) = text ++ [']', ','] := by
  refine ⟨join (jsonPlain "\x7b" :: (jsonField "table_id" [jsonString table.1.tableId] ++
    jsonPlain "," :: jsonField "row_access_policies" (jsonPlain "[" ::
      joinWithCommas (table.2.rowAccessPolicies.map renderPolicy)))), ?_⟩
  simp [tableFront, jsonField, jsonArray, jsonPlain, Piece.text]

theorem bracket_closed (suffix : '[' :: text <:+ join (tableFront table)) : ']' ∈ text := by
  obtain ⟨whole, ends⟩ := tableFront_ends table
  obtain ⟨front, cut⟩ := suffix
  rw [ends] at cut
  rcases append_eq_append_iff.mp cut with ⟨middle, _, same⟩ | ⟨middle, _, same⟩
  · cases middle with
    | nil => cases same
    | cons c middle => simp [(cons.inj same).2]
  · have stray : '[' ∈ [']', ','] := by simp [same]
    exact absurd stray (by decide)

theorem columns_not_restored :
    appendColumnGovernance (join (renderTable table)) = [] := by
  have tidy := tidy_renderTable table
  rw [renderTable_eq] at tidy
  obtain ⟨between, found, place⟩ := find_jsonKey 'c' tidy (by decide) (by decide) (by decide)
  rw [appendColumnGovernance, renderTable_eq]
  by_cases bracket : '[' ∈ join between
  · -- an earlier match, with a bracket before the list of columns
    rcases place with rfl | ⟨before, content, after, cut, _, rfl⟩
    · cases bracket
    have inside : '[' ∈ join after := by
      rw [join_append, mem_append] at bracket
      exact bracket.resolve_right (by decide)
    obtain ⟨front, rest, split, first⟩ := eq_append_cons_of_mem inside
    have suffix : '[' :: rest <:+ join (tableFront table) := by
      rw [cut, join_append, join_cons, split]
      exact ⟨join before ++ (Piece.quoted content).text ++ front, by simp⟩
    have shape : quotedName "columns" ++ (join (after ++ [jsonKey "columns"]) ++
        join (jsonPlain ":" :: (jsonArray (table.2.columns.map renderColumn) ++
          [jsonPlain "\x7d"]))) =
        (quotedName "columns" ++ front) ++ '[' :: (rest ++ join (jsonKey "columns" ::
          jsonPlain ":" :: (jsonArray (table.2.columns.map renderColumn) ++
            [jsonPlain "\x7d"]))) := by
      rw [join_append, split]
      simp
    have clean : '[' ∉ quotedName "columns" ++ front := by
      rw [mem_append, not_or]
      exact ⟨by decide, first⟩
    obtain ⟨slice, taken, part⟩ := takeThrough_of_mem
      (mem_cons_of_mem '[' (bracket_closed table suffix)) _
    rw [slice_at _ _ clean (found.trans (congrArg some shape)), ← cons_append, taken]
    exact columns_not_in_front table (part.isInfix.trans suffix.isInfix)
  · obtain ⟨slice, sliced, none⟩ := split_slice_at (by decide) bracket found (by
      intro item within
      obtain ⟨column, _, rfl⟩ := mem_map.mp within
      exact ⟨isObject_renderColumn column, bracket_in_object (.tail _ (.head _))⟩)
    rw [sliced]
    dsimp only
    rw [none]
    rfl

/-- The snapshot splits into the entries it was made of. -/
theorem split_snapshot (tables : List (TableId × TableGovernance)) :
    splitTopLevelJsonObjects (renderGovernanceSnapshotJson tables) =
      tables.map fun table => join (renderTable table) := by
  have objects : ∀ object ∈ tables.map fun table => join (renderTable table), IsObject object := by
    exact forall_mem_map.mpr fun table _ => isObject_renderTable table
  rw [renderGovernanceSnapshotJson, join_jsonArray, map_map]
  exact splitTopLevelJsonObjects_array objects []

theorem table_id_read :
    ∃ tableId, parseJsonStringField (join (renderTable table)) "table_id" = .ok tableId := by
  have stands : '"' :: ("table_id".toList ++ ['"', ':', '"']) <+:
      (join (renderTable table)).drop 1 := ⟨_, rfl⟩
  obtain ⟨found, answer, _⟩ := find_first (drop_suffix 1 _) stands
  exact ⟨_, rfl⟩

variable (g : GovernanceTables)

/-- Restoring a snapshot persists nothing. -/
theorem restore_snapshot (ds : DatasetId) (tables : List (TableId × TableGovernance)) :
    restoreGovernanceFromSnapshot g ds (renderGovernanceSnapshotJson tables) = (g, .ok ()) := by
  rw [restoreGovernanceFromSnapshot, split_snapshot]
  induction tables with
  | nil => rfl
  | cons table tables ih =>
    obtain ⟨tableId, read⟩ := table_id_read table
    rw [map_cons, restoreEntries, read, policies_not_restored, columns_not_restored]
    exact ih

@[simp] theorem load_purged (ds : DatasetId) (tableId : String) :
    (g.purge ds).loadTableGovernance (ds.table tableId) = {} := by
  have none {α : Type} (rows : List α) (tableOf : α → TableId) :
      (rows.filter fun row => !ds.holds (tableOf row)).filter
        (fun row => tableOf row = ds.table tableId) = [] := by
    refine filter_eq_nil_iff.mpr fun row within here => ?_
    have outside := (mem_filter.mp within).2
    rw [of_decide_eq_true here] at outside
    simp [DatasetId.holds, DatasetId.table] at outside
  simp [GovernanceTables.loadTableGovernance, GovernanceTables.purge, none _ PolicyRow.table,
    none _ ColumnRow.table]

/-- A dataset's snapshot brings its governance back exactly if there was none. -/
theorem governance_restored_iff (g : GovernanceTables) (ds : DatasetId)
    (entries : List (String × TableGovernance)) :
    (∀ entry ∈ entries,
      (restoreGovernanceFromSnapshot (g.purge ds) ds (renderGovernanceSnapshotJson
        (entries.map fun entry => (ds.table entry.1, entry.2)))).1.loadTableGovernance
          (ds.table entry.1) = entry.2) ↔
    ∀ entry ∈ entries, entry.2.rowAccessPolicies = [] ∧ entry.2.columns = [] := by
  refine forall_congr' fun entry => forall_congr' fun _ => ?_
  rw [restore_snapshot, load_purged]
  obtain ⟨tableId, policies, columns⟩ := entry
  constructor
  · rintro ⟨⟩
    exact ⟨rfl, rfl⟩
  · rintro ⟨rfl, rfl⟩
    rfl

def sales : DatasetId := ⟨"p", "sales"⟩

def governedOrders : TableGovernance where
  rowAccessPolicies := [{
    policyId := "own_region", filterPredicate := "region = 'EU'", grantees := ["user:a@example.com"]
    creationTimeMs := 1000, lastModifiedTimeMs := 1000 }]
  columns := [("ssn", { policyTags := ["pii"], maskKind := .nullify })]

/-- After the dataset is dropped and restored, the table has no policy and no mask. -/
theorem policy_lost_by_undrop :
    (restoreGovernanceFromSnapshot {} sales (renderGovernanceSnapshotJson
      [(sales.table "orders", governedOrders)])).2 = .ok () ∧
    (restoreGovernanceFromSnapshot {} sales (renderGovernanceSnapshotJson
      [(sales.table "orders", governedOrders)])).1.loadTableGovernance (sales.table "orders") =
        {} := by
  rw [restore_snapshot]
  exact ⟨rfl, rfl⟩
end BigQueryEmulator.Storage
