import BigQueryEmulator.Storage.Tombstones
import BigQueryEmulator.Storage.GovernanceSnapshot

/-! What RestoreDataset reads from the texts that DropDataset wrote: the manifest gives back
its table ids unless one holds a quote or a backslash, and the registry snapshots give back
their records with newlines and tabs turned into letters. -/
namespace BigQueryEmulator.Storage
open Text List

/-- A table id that the manifest can hold. -/
def PlainId (id : String) : Prop := id ≠ "" ∧ '"' ∉ id.toList ∧ '\\' ∉ id.toList

instance (id : String) : Decidable (PlainId id) := inferInstanceAs (Decidable (_ ∧ _))

theorem quotedStrings_cons (notQuote : c ≠ '"') (notBackslash : c ≠ '\\')
    (inside rest : List Char) :
    quotedStrings (some inside) (c :: rest) = quotedStrings (some (inside ++ [c])) rest := by
  cases rest with
  | nil => simp [quotedStrings, notQuote]
  | cons d rest => rw [quotedStrings, if_neg notBackslash, if_neg notQuote]

theorem quotedStrings_word (simple : Simple word) (inside : List Char) (c : Char)
    (rest : List Char) :
    quotedStrings (some inside) (word ++ '"' :: c :: rest) =
      (inside ++ word) :: quotedStrings none (c :: rest) := by
  induction word generalizing inside with
  | nil => simp [quotedStrings]
  | cons d word ih =>
    obtain ⟨first, others⟩ := forall_mem_cons.mp simple
    rw [cons_append, quotedStrings_cons first.1 first.2, ih others]
    simp

theorem PlainId.simple {id : String} (plain : PlainId id) : Simple id.toList := fun _ within =>
  ⟨fun quote => plain.2.1 (quote ▸ within), fun backslash => plain.2.2 (backslash ▸ within)⟩

theorem quotedStrings_manifest {ids : List String} (plain : ∀ id ∈ ids, PlainId id) :
    quotedStrings none ((ids.map fun id => '"' :: (id.toList ++ ['"'])).flatMap
      (fun item => ',' :: item) ++ [']']) = ids.map String.toList := by
  induction ids with
  | nil => rfl
  | cons id ids ih =>
    have first := plain id (.head _)
    obtain ⟨c, rest, shape⟩ : ∃ c rest, (ids.map fun id => '"' :: (id.toList ++ ['"'])).flatMap
        (fun item => ',' :: item) ++ [']'] = c :: rest := by
      cases ids <;> exact ⟨_, _, rfl⟩
    have split : ((id :: ids).map fun id => '"' :: (id.toList ++ ['"'])).flatMap
        (fun item => ',' :: item) ++ [']'] = ',' :: '"' :: (id.toList ++ '"' :: c :: rest) := by
      rw [← shape]
      simp
    rw [split, quotedStrings, if_neg (by decide), quotedStrings, if_pos rfl,
      quotedStrings_word first.simple, ← shape, ih (forall_mem_cons.mp plain).2]
    rfl

variable (text : List Char)

theorem quotedStrings_comma :
    quotedStrings none (',' :: text) = quotedStrings none text := by
  rw [quotedStrings, if_neg (by decide)]

theorem parse_manifest {ids : List String} (plain : ∀ id ∈ ids, PlainId id) :
    parseTablesManifestJson (renderTablesManifestJson ids) = ids := by
  have read : quotedStrings none (renderTablesManifestJson ids) = ids.map String.toList := by
    rw [renderTablesManifestJson, quotedStrings, if_neg (by decide)]
    cases ids with
    | nil => rfl
    | cons id ids =>
      have whole := quotedStrings_manifest plain
      rw [map_cons, intercalate_commas]
      exact (quotedStrings_comma _).symm.trans whole
  have full : (ids.map String.toList).filter (fun string => !string.isEmpty) =
      ids.map String.toList := by
    refine filter_eq_self.mpr fun string within => ?_
    obtain ⟨id, among, rfl⟩ := mem_map.mp within
    have nonempty := (plain id among).1
    simpa using nonempty
  rw [parseTablesManifestJson, parseQuotedJsonStringArray, read, full]
  simp

/-- Quotes count once and backslashes twice: in a string that is read each of them comes from
an escape, and an escaped backslash takes two of the text. -/
def escapes : Nat := text.count '"' + 2 * text.count '\\'

theorem escapes_append (left right : List Char) :
    escapes (left ++ right) = escapes left + escapes right := by
  simp only [escapes, count_append]
  omega

theorem escapes_char_le (c : Char) : escapes [c] ≤ 1 + [c].count '\\' := by
  unfold escapes
  by_cases backslash : c = '\\'
  · subst backslash
    decide
  · have other : [c].count '\\' = 0 := by simp [backslash]
    have quote : [c].count '"' ≤ 1 := count_le_length
    omega

/-- The escapes of the strings that are read come out of the text's backslashes. -/
theorem escapes_quotedStrings (inside : Option (List Char)) (text : List Char)
    (ended : text.getLast? ≠ some '\\') :
    ((quotedStrings inside text).map escapes).sum ≤
      escapes (inside.getD []) + text.count '\\' := by
  fun_induction quotedStrings inside text with
  | case1 | case2 | case4 => simp
  | case3 c rest ih =>
    have later := ih fun last => ended (mem_getLast?_cons last)
    have none : escapes ((if c = '"' then some [] else none : Option (List Char)).getD []) = 0 := by
      split <;> rfl
    have more : rest.count '\\' ≤ (c :: rest).count '\\' := count_le_count_cons
    omega
  | case5 inside c notQuote =>
    have notBackslash : c ≠ '\\' := by
      rintro rfl
      exact ended rfl
    have char : escapes [c] = 0 := by simp [escapes, notQuote, notBackslash]
    simp only [map_cons, map_nil, sum_cons, sum_nil, escapes_append, char,
      Option.getD_some]
    omega
  | case6 inside d rest ih =>
    have later := ih fun last => ended (mem_getLast?_cons (mem_getLast?_cons last))
    have char := escapes_char_le d
    have counted : ('\\' :: d :: rest).count '\\' = 1 + ([d].count '\\' + rest.count '\\') := by
      rw [count_cons_self, ← singleton_append, count_append]
      omega
    rw [Option.getD_some, escapes_append] at later
    rw [Option.getD_some, counted]
    omega
  | case7 inside d rest _ ih =>
    have later := ih (by simpa using ended)
    have counted : ('"' :: d :: rest).count '\\' = (d :: rest).count '\\' :=
      count_cons_of_ne (by decide)
    have empty : escapes ((none : Option (List Char)).getD []) = 0 := rfl
    rw [map_cons, sum_cons, Option.getD_some, counted]
    omega
  | case8 inside c d rest notBackslash notQuote ih =>
    have later := ih (by simpa using ended)
    have char : escapes [c] = 0 := by simp [escapes, notQuote, notBackslash]
    have counted : (c :: d :: rest).count '\\' = (d :: rest).count '\\' :=
      count_cons_of_ne notBackslash
    rw [Option.getD_some, escapes_append, char] at later
    rw [Option.getD_some, counted]
    omega

theorem escapes_parsed (ended : text.getLast? ≠ some '\\') :
    ((parseTablesManifestJson text).map fun id => escapes id.toList).sum ≤ text.count '\\' := by
  have kept : ((quotedStrings none text).filter fun string => !string.isEmpty).Sublist
      (quotedStrings none text) := filter_sublist
  calc ((parseTablesManifestJson text).map fun id => escapes id.toList).sum
      = (((quotedStrings none text).filter fun string => !string.isEmpty).map escapes).sum := by
        simp [parseTablesManifestJson, parseQuotedJsonStringArray, Function.comp_def]
    _ ≤ ((quotedStrings none text).map escapes).sum :=
        (kept.map escapes).sum_le_sum fun _ _ => Nat.zero_le _
    _ ≤ text.count '\\' := by
        simpa [escapes] using escapes_quotedStrings none text ended

theorem count_backslash_manifest (ids : List String) :
    (renderTablesManifestJson ids).count '\\' = (ids.map fun id => id.toList.count '\\').sum := by
  have item (id : String) : ('"' :: (id.toList ++ ['"'])).count '\\' = id.toList.count '\\' := by
    simp
  have items (ids : List String) : ((ids.map fun id => '"' :: (id.toList ++ ['"'])).flatMap
      (fun item => ',' :: item)).count '\\' = (ids.map fun id => id.toList.count '\\').sum := by
    induction ids with
    | nil => rfl
    | cons id ids ih =>
      rw [map_cons, flatMap_cons, count_append, ih,
        count_cons_of_ne (by decide), item]
      rfl
  rw [renderTablesManifestJson, count_cons_of_ne (by decide), count_append]
  cases ids with
  | nil => rfl
  | cons id ids =>
    rw [map_cons, intercalate_commas, count_append, item, items]
    rfl

/-- If the ids with a quote or a backslash are all read back, without repetition, then there
are none: the manifest has too few backslashes for their escapes. -/
theorem plain_of_manifest (distinct : ids.Nodup)
    (once : (parseTablesManifestJson (renderTablesManifestJson ids)).Nodup)
    (back : ∀ id ∈ ids, escapes id.toList ≠ 0 →
      id ∈ parseTablesManifestJson (renderTablesManifestJson ids)) :
    ∀ id ∈ ids, '"' ∉ id.toList ∧ '\\' ∉ id.toList := by
  have ended : (renderTablesManifestJson ids).getLast? ≠ some '\\' := by
    rw [renderTablesManifestJson, ← cons_append, getLast?_append]
    simp
  have total : ∑ id ∈ ids.toFinset, escapes id.toList ≤
      ∑ id ∈ ids.toFinset, id.toList.count '\\' := by
    calc ∑ id ∈ ids.toFinset, escapes id.toList
        ≤ ∑ id ∈ (parseTablesManifestJson (renderTablesManifestJson ids)).toFinset,
            escapes id.toList := by
          refine Finset.sum_le_sum_of_ne_zero fun id within special => ?_
          exact mem_toFinset.mpr (back id (mem_toFinset.mp within) special)
      _ ≤ (renderTablesManifestJson ids).count '\\' := by
          rw [sum_toFinset _ once]
          exact escapes_parsed _ ended
      _ = ∑ id ∈ ids.toFinset, id.toList.count '\\' := by
          rw [count_backslash_manifest, sum_toFinset _ distinct]
  have each : ∀ id ∈ ids.toFinset, id.toList.count '"' + id.toList.count '\\' = 0 := by
    have parts : ∑ id ∈ ids.toFinset, escapes id.toList =
        ∑ id ∈ ids.toFinset, (id.toList.count '"' + id.toList.count '\\') +
          ∑ id ∈ ids.toFinset, id.toList.count '\\' := by
      rw [← Finset.sum_add_distrib]
      refine Finset.sum_congr rfl fun id _ => ?_
      unfold escapes
      omega
    exact Finset.sum_eq_zero_iff.mp (by omega)
  intro id within
  have zero := each id (mem_toFinset.mpr within)
  exact ⟨count_eq_zero.mp (by omega), count_eq_zero.mp (by omega)⟩

/-- A string as it comes back from a registry snapshot. -/
def reread (s : String) : String := String.ofList (s.toList.map rereadChar)

theorem readString_word (simple : Simple word) (rest : List Char) :
    readString (word ++ '"' :: rest) = word := by
  induction word with
  | nil => cases rest <;> simp [readString]
  | cons c word ih =>
    obtain ⟨first, others⟩ := forall_mem_cons.mp simple
    rw [cons_append, readString_cons first.2 first.1, ih others]

theorem parse_string_value (front tail : List Piece) (alien : Char)
    (proper : ∀ piece ∈ front ++ jsonField key (jsonString value :: tail), piece.Proper alien)
    (within : alien ∈ key.toList) (simple : Simple key.toList)
    (keyed : Keyed (fun other => ¬ key.toList <:+ other) front) :
    parseJsonStringField (join (front ++ jsonField key (jsonString value :: tail))) key =
      .ok (reread value) := by
  rw [jsonString, parseJsonStringField_keyed front tail alien proper within simple keyed,
    readString_jsonEscape]
  rfl

variable (row : ViewRow)

theorem isObject_renderViewRecordJson :
    IsObject (join (renderViewRecordJson row)) :=
  isObject_jsonObject ⟨neutral_stringField (by decide) _, neutral_stringField (by decide) _⟩

theorem tidy_renderViewRecordJson : AllTidy (renderViewRecordJson row) :=
  .object ⟨tidy_stringField (by decide) _, tidy_stringField (by decide) _⟩

theorem parse_view_record (ds : DatasetId) :
    parseViewRecordJson (join (renderViewRecordJson row)) ds =
      .ok ⟨ds, reread row.viewId, reread row.ddlSql⟩ := by
  have proper (alien : Char) (letter : alien.isAlpha = true) :
      ∀ piece ∈ renderViewRecordJson row, piece.Proper alien :=
    fun piece within => (tidy_renderViewRecordJson row piece within).proper letter
  have viewId : parseJsonStringField (join (renderViewRecordJson row)) "view_id" =
      .ok (reread row.viewId) :=
    parse_string_value [jsonPlain "\x7b"] _ 'v' (proper 'v' (by decide)) (by decide)
      (by decide) trivial
  have ddlSql : parseJsonStringField (join (renderViewRecordJson row)) "ddl_sql" =
      .ok (reread row.ddlSql) := by
    refine parse_string_value
      (jsonPlain "\x7b" :: (jsonField "view_id" [jsonString row.viewId] ++ [jsonPlain ","])) _
      'd' (proper 'd' (by decide)) (by decide) (by decide) ?_
    exact Keyed.append (.field (by decide) (keyed_string _)) trivial (by decide)
  rw [parseViewRecordJson, viewId, ddlSql]
  rfl

theorem routineKind_word (kind : RoutineKind) : Simple (routineKindToString kind).toList := by
  cases kind <;> decide

section
variable (rec : RoutineRecord)

/-- The record up to and with the comma before its `kind`. -/
def routineFront : List Piece :=
  jsonPlain "\x7b" :: (jsonField "routine_id" [jsonString rec.routineId] ++ [jsonPlain ","])

def routineKindFront : List Piece :=
  routineFront rec ++ (jsonField "kind" [jsonKey (routineKindToString rec.kind)] ++ [jsonPlain ","])

def routineLanguageFront : List Piece :=
  routineKindFront rec ++ (jsonField "language" [jsonString rec.language] ++ [jsonPlain ","])

def routineDdlFront : List Piece :=
  routineLanguageFront rec ++ (jsonField "ddl_sql" [jsonString rec.ddlSql] ++ [jsonPlain ","])

def routineTempFront : List Piece :=
  routineDdlFront rec ++ (jsonField "is_temp" [jsonPlain (if rec.isTemp then "true" else "false")] ++
    [jsonPlain ","])

theorem isObject_renderRoutineRecordJson : IsObject (join (renderRoutineRecordJson rec)) := by
  refine isObject_jsonObject ⟨neutral_stringField (by decide) _,
    .field (by decide) (neutral_piece (.quoted (routineKind_word rec.kind).escaped)),
    neutral_stringField (by decide) _, neutral_stringField (by decide) _,
    .field (by decide) ?_, .field (by decide) (neutral_piece ?_)⟩
  · cases rec.isTemp <;> exact Neutral.chars (by decide)
  · split
    · exact Neutral.chars (by decide)
    · exact Neutral.quoted (escaped_jsonEscape _)

theorem proper_jsonObject (letter : alien.isAlpha = true)
    (all : ∀ field ∈ fields, ∀ piece ∈ field, piece.Proper alien) :
    ∀ piece ∈ jsonObject fields, piece.Proper alien := by
  have sign {s : String} (free : ∀ c ∈ s.toList, c ≠ '"' ∧ c.isAlpha = false) :
      (jsonPlain s).Proper alien := (tidy_jsonPlain free).proper letter
  intro piece within
  rcases mem_cons.mp within with rfl | within
  · exact sign (by decide)
  rcases mem_append.mp within with inFields | last
  · rcases mem_joinWithCommas inFields with rfl | ⟨field, among, found⟩
    · exact sign (by decide)
    · exact all field among piece found
  · rw [mem_singleton.mp last]
    exact sign (by decide)

/-- The texts between the strings of a record are `true` or `false`, `null` and punctuation. -/
theorem proper_renderRoutineRecordJson (letter : alien.isAlpha = true)
    (free : alien ∉ "truefalsenull".toList) :
    ∀ piece ∈ renderRoutineRecordJson rec, piece.Proper alien := by
  have key {name : String} (simple : Simple name.toList) : (jsonKey name).Proper alien :=
    simple.escaped
  have string (value : String) : (jsonString value).Proper alien := escaped_jsonEscape value
  have plain {text : String} (among : ∀ c ∈ text.toList, c ∈ "truefalsenull".toList)
      (noQuote : '"' ∉ text.toList) : (jsonPlain text).Proper alien :=
    ⟨noQuote, fun within => free (among _ within)⟩
  have field {name : String} {value : Piece} (simple : Simple name.toList)
      (proper : value.Proper alien) : ∀ piece ∈ jsonField name [value], piece.Proper alien :=
    forall_iff_forall_mem.mp ⟨key simple, (tidy_jsonPlain (by decide)).proper letter, proper⟩
  refine proper_jsonObject letter (forall_iff_forall_mem.mp ?_)
  refine ⟨field (by decide) (string _), field (by decide) (key (routineKind_word rec.kind)),
    field (by decide) (string _), field (by decide) (string _), field (by decide) ?_,
    field (by decide) ?_⟩
  · cases rec.isTemp <;> exact plain (by decide) (by decide)
  · split
    · exact plain (by decide) (by decide)
    · exact string _

section
variable {kind : List Char → Prop}

theorem Keyed.comma (front : Keyed kind pieces) (ofKind : kind key.toList)
    (keyed : Keyed kind value) : Keyed kind (pieces ++ (jsonField key value ++ [jsonPlain ","])) :=
  front.append (.append (.field ofKind keyed) trivial (by decide)) nofun

theorem keyed_routineFront (id : kind "routine_id".toList) : Keyed kind (routineFront rec) :=
  .append (.field id (keyed_string _)) trivial (by decide)

theorem keyed_routineKindFront (id : kind "routine_id".toList) (kinds : kind "kind".toList) :
    Keyed kind (routineKindFront rec) := by
  have word : Keyed kind [jsonKey (routineKindToString rec.kind)] := ⟨nofun, trivial⟩
  exact (keyed_routineFront rec id).comma kinds word

theorem keyed_routineLanguageFront (id : kind "routine_id".toList) (kinds : kind "kind".toList)
    (language : kind "language".toList) : Keyed kind (routineLanguageFront rec) :=
  (keyed_routineKindFront rec id kinds).comma language (keyed_string _)

end

theorem parse_isTemp :
    parseJsonBoolField (join (renderRoutineRecordJson rec)) "is_temp" = rec.isTemp := by
  obtain ⟨rest, found⟩ : ∃ rest, find ('"' :: ("is_temp".toList ++ ['"', ':']))
      (join (renderRoutineRecordJson rec)) = some ('"' :: ("is_temp".toList ++ '"' :: ':' ::
        ((if rec.isTemp then "true" else "false").toList ++ rest))) :=
    ⟨_, find_keyed (routineDdlFront rec) 'i'
      (proper_renderRoutineRecordJson rec (by decide) (by decide)) (by decide) (by decide)
      ((keyed_routineLanguageFront rec (by decide) (by decide) (by decide)).comma (by decide)
        (keyed_string _)) [] nil_prefix⟩
  rw [parseJsonBoolField, found]
  cases rec.isTemp <;> rfl

theorem keyed_routineTempFront :
    Keyed (fun other => ¬ "signature_json".toList <:+ other) (routineTempFront rec) :=
  ((keyed_routineLanguageFront rec (by decide) (by decide) (by decide)).comma (by decide)
    (keyed_string _)).comma (by decide) trivial

theorem renderRoutineRecordJson_signature : renderRoutineRecordJson rec =
    routineTempFront rec ++ jsonField "signature_json"
      [if rec.signatureJson.isEmpty then jsonPlain "null" else jsonString rec.signatureJson,
        jsonPlain "\x7d"] := rfl

/-- A signature is not taken for the `null` of a record without one. -/
theorem find_null :
    (find (numberField "signature_json" ++ "null".toList) (join (renderRoutineRecordJson rec))).isSome =
      rec.signatureJson.isEmpty := by
  have proper := proper_renderRoutineRecordJson rec (show 'i'.isAlpha = true from rfl) (by decide)
  have keyed := keyed_routineTempFront rec
  rw [renderRoutineRecordJson_signature] at proper ⊢
  cases empty : rec.signatureJson.isEmpty with
  | true =>
    rw [empty] at proper
    exact congrArg Option.isSome (find_keyed _ 'i' proper (by decide) (by decide) keyed
      "null".toList ⟨['\x7d'], rfl⟩)
  | false =>
    rw [empty] at proper
    have later : Keyed (fun other => ¬ "signature_json".toList <:+ other)
        [jsonString rec.signatureJson, jsonPlain "\x7d"] := ⟨nofun, trivial⟩
    refine Option.isSome_eq_false_iff.mpr (Option.isNone_iff_eq_none.mpr ?_)
    refine Option.eq_none_iff_forall_ne_some.mpr fun found answer => ?_
    obtain ⟨suffix, rest, rfl⟩ := find_some answer
    rcases keyed_suffix _ 'i' proper (by decide) (by decide) keyed suffix with
      here | ⟨before, other, after, cut, ends, same⟩
    · cases here
    · exact (cut ▸ later).split (congrArg head? same).symm ends

/-- Every routine record can be read, and its texts come back like those of a view. -/
theorem parse_routine_record (ds : DatasetId) :
    parseRoutineRecordJson (join (renderRoutineRecordJson rec)) ds =
      .ok { rec with
        dataset := ds, routineId := reread rec.routineId, language := reread rec.language
        ddlSql := reread rec.ddlSql, signatureJson := reread rec.signatureJson } := by
  have proper {alien : Char} (letter : alien.isAlpha = true) :=
    proper_renderRoutineRecordJson rec letter
  have routineId : parseJsonStringField (join (renderRoutineRecordJson rec)) "routine_id" =
      .ok (reread rec.routineId) :=
    parse_string_value [jsonPlain "\x7b"] _ 'i' (proper (by decide) (by decide)) (by decide)
      (by decide) trivial
  have kind : parseJsonStringField (join (renderRoutineRecordJson rec)) "kind" =
      .ok (routineKindToString rec.kind) := by
    refine (parseJsonStringField_keyed (routineFront rec) _ 'k' (proper (by decide) (by decide))
      (by decide) (by decide) (keyed_routineFront rec (by decide))).trans ?_
    rw [readString_word (routineKind_word rec.kind), String.ofList_toList]
  have language : parseJsonStringField (join (renderRoutineRecordJson rec)) "language" =
      .ok (reread rec.language) :=
    parse_string_value (routineKindFront rec) _ 'g' (proper (by decide) (by decide)) (by decide)
      (by decide) (keyed_routineKindFront rec (by decide) (by decide))
  have ddlSql : parseJsonStringField (join (renderRoutineRecordJson rec)) "ddl_sql" =
      .ok (reread rec.ddlSql) :=
    parse_string_value (routineLanguageFront rec) _ 'd' (proper (by decide) (by decide))
      (by decide) (by decide) (keyed_routineLanguageFront rec (by decide) (by decide) (by decide))
  rw [parseRoutineRecordJson, routineId, kind, language, ddlSql]
  dsimp only [Bind.bind, Except.bind]
  rw [show routineKindFromString (routineKindToString rec.kind) = .ok rec.kind by
    cases rec.kind <;> rfl, parse_isTemp, find_null]
  cases empty : rec.signatureJson.isEmpty with
  | true => rw [String.isEmpty_iff.mp empty, if_pos rfl]; rfl
  | false =>
    have signature : parseJsonStringField (join (renderRoutineRecordJson rec)) "signature_json" =
        .ok (reread rec.signatureJson) := by
      have proper := proper (show 'i'.isAlpha = true from rfl) (by decide)
      rw [renderRoutineRecordJson_signature, empty, if_neg Bool.false_ne_true] at proper ⊢
      exact parse_string_value _ _ 'i' proper (by decide) (by decide) (keyed_routineTempFront rec)
    rw [signature]
    rfl

end

/-- A text that loses nothing in a snapshot. -/
def Unbroken (s : String) : Prop := ∀ c ∈ s.toList, c ≠ '\n' ∧ c ≠ '\r' ∧ c ≠ '\t'
deriving Decidable

theorem reread_eq_iff : reread s = s ↔ Unbroken s := by
  have char (c : Char) : rereadChar c = c ↔ c ≠ '\n' ∧ c ≠ '\r' ∧ c ≠ '\t' := by
    unfold rereadChar
    split
    case h_4 newline ret tab => exact iff_of_true rfl ⟨newline, ret, tab⟩
    all_goals decide
  rw [Unbroken, ← String.toList_inj, reread, String.toList_ofList]
  simp only [← char]
  simpa using map_inj_left (l := s.toList) (f := rereadChar) (g := id)

section
variable {record : Type} (render : record → List Piece)
  (object : ∀ item, IsObject (join (render item))) (rows : List record)
include object

theorem splitTopLevelJsonObjects_rows :
    splitTopLevelJsonObjects (join (jsonArray (rows.map render))) =
      rows.map fun item => join (render item) := by
  rw [join_jsonArray, map_map]
  exact splitTopLevelJsonObjects_array (forall_mem_map.mpr fun item _ => object item) []

/-- The records of a snapshot, as RestoreDataset reads them. -/
def readRecords (parse : List Char → DatasetId → Except Status record) (ds : DatasetId)
    (rendered : List (List Piece)) : Except Status (List record) :=
  (splitTopLevelJsonObjects (join (jsonArray rendered))).mapM (parse · ds)

theorem readRecords_iff {reads : record → record}
    (parse : List Char → DatasetId → Except Status record)
    (parsed : ∀ item, parse (join (render item)) ds = .ok (reads item)) :
    readRecords parse ds (rows.map render) = .ok rows ↔ ∀ item ∈ rows, reads item = item := by
  rw [readRecords, splitTopLevelJsonObjects_rows render object, Fallible.mapM_ok_iff,
    forall₂_map_left_iff, forall₂_same]
  simp only [parsed, Except.ok.injEq]

end

/-- A snapshot gives back its records where their texts have no newline, carriage return or
tab: those are escaped by a letter, and the reader keeps the letter. -/
theorem records_read_back_iff (ds : DatasetId) (views : List ViewRow) (routines : List RoutineRecord)
    (viewsHere : ∀ view ∈ views, view.dataset = ds)
    (routinesHere : ∀ rec ∈ routines, rec.dataset = ds) :
    (readRecords parseViewRecordJson ds (views.map renderViewRecordJson) = .ok views ∧
      readRecords parseRoutineRecordJson ds (routines.map renderRoutineRecordJson) =
        .ok routines) ↔
    (∀ view ∈ views, Unbroken view.viewId ∧ Unbroken view.ddlSql) ∧
      ∀ rec ∈ routines, Unbroken rec.routineId ∧ Unbroken rec.language ∧ Unbroken rec.ddlSql ∧
        Unbroken rec.signatureJson := by
  rw [readRecords_iff _ isObject_renderViewRecordJson _ _ fun row => parse_view_record row ds,
    readRecords_iff _ isObject_renderRoutineRecordJson _ _ fun rec => parse_routine_record rec ds]
  refine and_congr (forall₂_congr fun view within => ?_) (forall₂_congr fun rec within => ?_)
  · cases view
    cases viewsHere _ within
    simp [reread_eq_iff]
  · cases rec
    cases routinesHere _ within
    simp [reread_eq_iff]

theorem quoted_ddl_read_back :
    readRecords parseViewRecordJson ⟨"p", "d"⟩ [renderViewRecordJson
        ⟨⟨"p", "d"⟩, "v", "SELECT '\x7b\"\\'"⟩] = .ok [⟨⟨"p", "d"⟩, "v", "SELECT '\x7b\"\\'"⟩] ∧
      readRecords parseRoutineRecordJson ⟨"p", "d"⟩ [renderRoutineRecordJson
        ⟨⟨"p", "d"⟩, "f", .procedure, "SQL", "SELECT 1", true, ""⟩] =
          .ok [⟨⟨"p", "d"⟩, "f", .procedure, "SQL", "SELECT 1", true, ""⟩] :=
  (records_read_back_iff ⟨"p", "d"⟩ [⟨⟨"p", "d"⟩, "v", "SELECT '\x7b\"\\'"⟩]
    [⟨⟨"p", "d"⟩, "f", .procedure, "SQL", "SELECT 1", true, ""⟩] (by decide) (by decide)).mpr
      (by decide)

theorem newline_read_as_letter :
    readRecords parseViewRecordJson ⟨"p", "d"⟩ [renderViewRecordJson
        ⟨⟨"p", "d"⟩, "v", "SELECT\n1"⟩] = .ok [⟨⟨"p", "d"⟩, "v", "SELECTn1"⟩] := by
  decide +kernel

end BigQueryEmulator.Storage
