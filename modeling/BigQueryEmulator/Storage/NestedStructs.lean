import BigQueryEmulator.Storage.NestedErrors

/-! A STRUCT is read back exactly when each of its fields is. -/
namespace BigQueryEmulator.Storage
open Text Fallible List

section
variable {strtod : List Char → Option UInt64}

/-- What every assignment keeps, the loop keeps. -/
theorem parseStructFields_keeps
    {assign : List Char → List Char → List Value → Except Status (List Value)}
    {kept : List Value → Prop}
    (keeps : ∀ key raw values out, assign key raw values = .ok out → kept values → kept out)
    {body : List Char} {values out : List Value}
    (ok : parseStructFields assign body values = .ok out) (start : kept values) : kept out := by
  induction long : body.length using Nat.strong_induction_on generalizing body values with
  | h n ih =>
    rw [parseStructFields_eq] at ok
    cases trimmed : trimAsciiSpace body with
    | nil =>
      rw [trimmed] at ok
      cases ok
      exact start
    | cons c rest =>
      rw [trimmed] at ok
      obtain ⟨⟨key, raw, after⟩, next, ok⟩ := bind_ok ok
      obtain ⟨assigned, assigns, ok⟩ := bind_ok ok
      have shorter := parseNextStructField_shorter next
      have trims : (c :: rest).length ≤ body.length := trimmed ▸ length_trim_le body
      have smaller := ((next_body_le after).trans_lt shorter).trans_le trims
      exact ih _ (long ▸ smaller) ok (keeps _ _ _ _ assigns start) rfl

theorem parseStructText_unlisted (keeps : ∀ key raw values out, assign key raw values = .ok out →
      (∀ value ∈ values, Unlisted value) → ∀ value ∈ out, Unlisted value)
    (ok : parseStructText assign size text = .ok value) : Unlisted value := by
  unfold parseStructText at ok
  dsimp only at ok
  split at ok
  · cases ok
    exact .null
  split at ok
  · cases ok
  · obtain ⟨values, read, rfl⟩ := map_ok_iff.mp ok
    refine .struct (parseStructFields_keeps keeps read fun value among => ?_)
    rw [(mem_replicate.mp among).2]
    exact .null

theorem fieldLiteral_unlisted (struct : ∀ text value, nested text = .ok value → Unlisted value)
    (ok : fieldLiteral strtod nested type raw = .ok value) : Unlisted value := by
  rw [fieldLiteral.eq_def] at ok
  dsimp only at ok
  split at ok
  · cases ok
    exact .null
  split at ok
  · split at ok
    · cases ok
      exact .bool true
    · split at ok
      · cases ok
        exact .bool false
      · cases ok
        exact .string _
  · cases ok
    cases strtoll (trimAsciiSpace raw) with
    | none => exact .string _
    | some n => exact .int64 n
  · cases ok
    cases strtod (trimAsciiSpace raw) with
    | none => exact .string _
    | some bits => exact .float64 bits
  · exact struct _ _ ok
  · cases ok
    exact .string _

mutual

/-- The parser makes no lists and no BYTES. -/
theorem parseField_unlisted : ∀ (field : Column) (raw : List Char) (value : Value),
    parseStructFieldLiteral strtod field raw = .ok value → Unlisted value
  | .mk _ _ _ fields, raw, value, ok => by
    rw [parseStructFieldLiteral] at ok
    exact fieldLiteral_unlisted
      (fun _ _ => parseStructText_unlisted (assign_unlisted fields)) ok

theorem assign_unlisted : ∀ (fields : List Column) (key raw : List Char) (slots out : List Value),
    assignStructFieldValue strtod fields key raw slots = .ok out →
      (∀ value ∈ slots, Unlisted value) → ∀ value ∈ out, Unlisted value
  | [], _, _, slots, out, ok, all => by
    rw [assignStructFieldValue] at ok
    · cases ok
      exact all
    · rintro _ _ _ _ ⟨⟩
  | _ :: _, _, _, [], out, ok, all => by
    rw [assignStructFieldValue] at ok
    · cases ok
      exact all
    · rintro _ _ _ _ _ ⟨⟩
  | field :: fields, key, raw, slot :: slots, out, ok, all => by
    rw [forall_mem_cons] at all
    rw [assignStructFieldValue] at ok
    split at ok
    · obtain ⟨value, read, rfl⟩ := map_ok_iff.mp ok
      exact forall_mem_cons.mpr ⟨parseField_unlisted field raw value read, all.2⟩
    · obtain ⟨rest, assigned, rfl⟩ := map_ok_iff.mp ok
      exact forall_mem_cons.mpr
        ⟨all.1, assign_unlisted fields key raw slots rest assigned all.2⟩

end

end

section
variable {cast : VarcharCast} {strtod : List Char → Option UInt64}

/-- When a struct is read at all, the ends of its fields are found. -/
theorem aligned_of_ok (documented : cast.Documented) (wellFormed : FieldsWellFormed fields)
    (fit : FieldsFit cast strtod fields values) (unlisted : ∀ value ∈ values, Unlisted value)
    (done : List Column) (names : ((done ++ fields).map Column.name).Nodup) (before : List Value)
    (long : before.length = done.length)
    (ok : parseStructFields (assignStructFieldValue strtod (done ++ fields))
        (commaSeparated (fieldTexts cast fields values))
        (before ++ replicate fields.length .null) = .ok out) :
    List.Forall₂ (Aligned cast) fields values := by
  induction fields generalizing values done before with
  | nil =>
    cases values with
    | nil => exact .nil
    | cons => cases fit
  | cons field fields ih =>
    cases values with
    | nil => cases fit
    | cons value values =>
      rw [forall_mem_cons] at unlisted
      by_cases aligned : Aligned cast field value
      · rw [parseStructFields_field strtod documented wellFormed aligned done names before long]
          at ok
        obtain ⟨parsed, -, ok⟩ := bind_ok ok
        exact .cons aligned (ih wellFormed.2.2 fit.2 unlisted.2 (done ++ [field])
          (by simpa using names) (before ++ [parsed]) (by simp [long]) ok)
      · have assigned : ∀ raw, Rejected (parseStructFieldLiteral strtod field raw) →
            Rejected (assignStructFieldValue strtod (done ++ field :: fields) field.name.toList
              raw (before ++ replicate (field :: fields).length .null)) := by
          intro raw rejected
          rw [length_cons, replicate_succ,
            assign_at done field fields (fresh_name names) _ _ _ long]
          exact rejected.map _
        have follows := tail_followers cast wellFormed.2.2 values
        rw [fieldTexts_cons, commaSeparated_cons] at ok
        cases unlisted.1 with
        | null | bool | int64 | float64 => exact absurd trivial aligned
        | string value =>
          simp only [Aligned, Classical.not_imp, not_not] at aligned
          obtain ⟨quoted, quote⟩ := aligned
          rw [text_string, VarcharCast.word, if_pos quoted] at ok
          exact absurd ok (quoted_rejected wellFormed.1 quote follows _ out)
        | struct each =>
          exact absurd ok (struct_rejected documented wellFormed.1 wellFormed.2.1 (.struct each) fit.1
            aligned assigned follows out)

theorem readFields_ok_iff (fit : FieldsFit cast strtod fields values) :
    readFields cast strtod fields values = .ok values ↔
      List.Forall₂ (fun field value =>
        parseStructFieldLiteral strtod field (rawText cast field value) = .ok value)
        fields values := by
  induction fields generalizing values with
  | nil =>
    cases values with
    | nil => exact ⟨fun _ => .nil, fun _ => rfl⟩
    | cons => cases fit
  | cons field fields ih =>
    cases values with
    | nil => cases fit
    | cons value values =>
      rw [readFields_cons, bind_ok_iff, forall₂_cons, ← ih fit.2]
      constructor
      · rintro ⟨parsed, read, ok⟩
        obtain ⟨rest, others, same⟩ := map_ok_iff.mp ok
        cases same
        exact ⟨read, others⟩
      · rintro ⟨read, others⟩
        exact ⟨value, read, map_ok_iff.mpr ⟨values, others, rfl⟩⟩

theorem forall₂_fields (wellFormed : FieldsWellFormed fields)
    (fit : FieldsFit cast strtod fields values)
    (weaken : ∀ field value, field.WellFormed → field.Fits cast strtod value →
      R field value → S field value) (all : List.Forall₂ R fields values) :
    List.Forall₂ S fields values := by
  induction all with
  | nil => exact .nil
  | cons first _ ih =>
    exact .cons (weaken _ _ wellFormed.2.1 fit.1 first) (ih wellFormed.2.2 fit.2)

theorem fields_of_ok (documented : cast.Documented) (wellFormed : FieldsWellFormed fields)
    (names : (fields.map Column.name).Nodup) (fit : FieldsFit cast strtod fields values)
    (unlisted : ∀ value ∈ values, Unlisted value)
    (ok : parseStructFields (assignStructFieldValue strtod fields)
        (commaSeparated (fieldTexts cast fields values)) (replicate fields.length .null) =
      .ok values) :
    List.Forall₂ (fun field value => Aligned cast field value ∧
      parseStructFieldLiteral strtod field (rawText cast field value) = .ok value)
      fields values := by
  have aligned := aligned_of_ok documented wellFormed fit unlisted [] names [] rfl ok
  rw [parseStructFields_all documented wellFormed names aligned, readFields_ok_iff fit] at ok
  exact forall₂_and aligned ok

end

section
variable {cast : VarcharCast} {strtod : List Char → Option UInt64}

theorem length_escape (text : List Char) : text.length ≤ (escape text).length := by
  induction text with
  | nil => exact le_rfl
  | cons c text ih =>
    rw [escape_cons, length_append, length_cons]
    split <;> simp only [length_cons, length_nil] <;> omega

theorem unescaped_of_eq (same : escape text = text) : '\'' ∉ text ∧ '\\' ∉ text := by
  induction text with
  | nil => simp
  | cons c text ih =>
    rw [escape_cons] at same
    split at same
    next =>
      have long := congrArg length same
      have rest := length_escape text
      simp only [length_append, length_cons, length_nil] at long
      omega
    next plain =>
      obtain ⟨quote, backslash⟩ := ih (cons.inj same).2
      simp only [mem_cons, not_or]
      exact ⟨⟨fun first => plain (.inl first.symm), quote⟩,
        fun first => plain (.inr first.symm), backslash⟩

theorem solid_escape (solid : Solid isBlank text) : Solid isBlank (escape text) := by
  constructor
  · intro empty
    have long := length_escape text
    rw [empty] at long
    exact solid.nonempty (eq_nil_of_length_eq_zero (Nat.le_zero.mp long))
  · cases text with
    | nil => exact absurd rfl solid.nonempty
    | cons c text =>
      obtain ⟨d, rest, starts, -, keeps⟩ := escape_head c text
      rw [starts]
      rintro e ⟨⟩
      exact keeps (solid.front c rfl)
  · rcases eq_nil_or_concat text with rfl | ⟨front, c, rfl⟩
    · exact absurd rfl solid.nonempty
    have last : isBlank c = false := solid.back c (by simp)
    rw [concat_eq_append, escape_append]
    intro d found
    rw [getLast?_append_of_ne_nil _ (by rw [escape_cons]; split <;> simp), escape_cons] at found
    split at found
    · cases found
      exact last
    · cases found
      exact last

theorem reads_string (type : field.type.isText = true)
    (ok : parseStructFieldLiteral strtod field (rawText cast field (.string value)) =
      .ok (.string value)) : FieldReads cast field (.string value) := by
  obtain ⟨name, type', mode, fields⟩ := field
  have kept : trimAsciiSpace (rawText cast (.mk name type' mode fields) (.string value)) =
      value.toList ∧ isNullToken value.toList = false := by
    rw [parseStructFieldLiteral, fieldLiteral.eq_def] at ok
    dsimp only at ok
    split at ok
    · cases ok
    next present =>
      have text : Value.string (String.ofList (trimAsciiSpace
          (rawText cast (.mk name type' mode fields) (.string value)))) = .string value := by
        cases type' <;> first | exact Except.ok.inj ok | cases type
      have same := congrArg String.toList (Value.string.inj text)
      rw [String.toList_ofList] at same
      exact ⟨same, by rw [← same]; simpa using present⟩
  obtain ⟨kept, present⟩ := kept
  have trimmed : trimAsciiSpace value.toList = value.toList := by
    rw [← kept, trimAsciiSpace_idem]
  refine .string (fun quoted => ?_) trimmed present
  rw [rawText, if_pos quoted, trimAsciiSpace, (solid_escape (string_solid trimmed present)).trim]
    at kept
  exact unescaped_of_eq kept

theorem cut_of_fields (wellFormed : FieldsWellFormed fields)
    (fit : FieldsFit cast strtod fields values)
    (noCut : NoCut (text ++ followers (fieldTexts cast fields values))) : fields = [] := by
  cases fields with
  | nil => rfl
  | cons field fields =>
    cases values with
    | nil => cases fit
    | cons value values =>
      refine absurd ⟨text, ?_, ?_⟩ noCut
      · exact field.name.toList ++ "': ".toList ++ field.text cast value ++
          followers (fieldTexts cast fields values)
      · rw [fieldTexts_cons]
        simp [followers, keyText]

/-- A field is read back only if it is one of those that are. -/
theorem FieldReads.of_ok (documented : cast.Documented) (wellFormed : field.WellFormed)
    (fits : field.Fits cast strtod value) (aligned : Aligned cast field value)
    (ok : parseStructFieldLiteral strtod field (rawText cast field value) = .ok value) :
    FieldReads cast field value := by
  induction parseField_unlisted _ _ _ ok generalizing field with
  | null => exact .null
  | bool value => exact .bool value
  | int64 value => exact .int64 value
  | float64 bits => exact .float64 bits
  | string value => exact reads_string (fits.element fun _ => Value.noConfusion) ok
  | @struct values each ih =>
    obtain ⟨name, type, mode, fields⟩ := field
    obtain ⟨isStruct, fieldsFit⟩ := fits.element fun _ => Value.noConfusion
    cases isStruct
    obtain ⟨present, names, fieldsFormed⟩ := wellFormed
    cases fields with
    | nil => exact absurd rfl (present rfl)
    | cons field fields =>
      cases values with
      | nil => cases fieldsFit
      | cons value values =>
        have noCut : NoCut (('\x7b' :: keyText field.name ++ ' ' :: field.text cast value) ++
            followers (fieldTexts cast fields values)) := by
          intro inside
          refine aligned (inside.trans ⟨[], ['\x7d'], ?_⟩)
          rw [text_struct, Column.fields, fieldTexts_cons, commaSeparated_cons]
          simp
        have single := cut_of_fields fieldsFormed.2.2 fieldsFit.2 noCut
        subst single
        cases values with
        | cons => cases fieldsFit.2
        | nil =>
          rw [rawText, text_struct, parseField_struct] at ok
          · obtain ⟨read, ok, same⟩ := map_ok_iff.mp ok
            cases same
            have inner := fields_of_ok documented fieldsFormed names fieldsFit each ok
            obtain ⟨aligned, read⟩ := (forall₂_cons.mp inner).1
            exact .struct (ih value (.head _) fieldsFormed.2.1 fieldsFit.1
              aligned read)
          · exact fun _ => Value.noConfusion

/-- The loop over a struct gives its values exactly when each of them is read back. -/
theorem parseStructFields_ok_iff (documented : cast.Documented)
    (wellFormed : FieldsWellFormed fields) (names : (fields.map Column.name).Nodup)
    (fit : FieldsFit cast strtod fields values) :
    parseStructFields (assignStructFieldValue strtod fields)
        (commaSeparated (fieldTexts cast fields values)) (replicate fields.length .null) =
      .ok values ↔ List.Forall₂ (FieldReads cast) fields values := by
  constructor
  · intro ok
    have unlisted : ∀ value ∈ values, Unlisted value := by
      refine parseStructFields_keeps (assign_unlisted fields) ok fun value among => ?_
      rw [(mem_replicate.mp among).2]
      exact .null
    refine forall₂_fields wellFormed fit ?_ (fields_of_ok documented wellFormed names fit unlisted ok)
    exact fun field value formed fits read => .of_ok documented formed fits read.1 read.2
  · intro reads
    have each := forall₂_fields wellFormed fit
      (fun field value formed fits reads => reads.reads documented formed fits) reads
    rw [parseStructFields_all documented wellFormed names (each.imp fun _ _ read => read.1),
      readFields_ok_iff fit]
    exact each.imp fun _ _ read => read.2.2

end

end BigQueryEmulator.Storage
