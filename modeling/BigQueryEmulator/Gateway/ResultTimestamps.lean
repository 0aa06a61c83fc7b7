import BigQueryEmulator.Engine.DateLiterals
import BigQueryEmulator.Gateway.QueryResults

/-! In which query results every timestamp arrives as microseconds. The gateway looks for arrays in
the text of a type (`bqtypes/wire.go`), while the engine marks them by their mode. -/
namespace BigQueryEmulator.Gateway
open List Clock
variable {lib : Semantic.TimeLibrary} {go : Go}

/-- The years 1 to 9999. -/
def IsTimestamp (n : Int) : Prop := -62135596800000000 ≤ n ∧ n < 253402300800000000

instance (n : Int) : Decidable (IsTimestamp n) := inferInstanceAs (Decidable (_ ∧ _))

/-- Microseconds since 1970. -/
abbrev Timestamp := { n : Int // IsTimestamp n }

/-- The two parts of the engine that write the timestamps of a result. -/
inductive ResultWriter where
  | duckdb | semantic
deriving DecidableEq

def ResultWriter.text (lib : Semantic.TimeLibrary) : ResultWriter → Int → String
  | .duckdb, n => String.ofList ((Engine.formatTimestampMicros n).getD [])
  | .semantic, n => String.ofList (Semantic.formatTimestampUtc lib n)

/-- What the text of a writer stands for. -/
def ResultWriter.written : ResultWriter → Int → Int
  | .duckdb, n => n
  | .semantic, n => if 0 ≤ n then n else n / 1000000 * 1000000 + -n % 1000000

/-- Go reads the fraction of a second whether or not it is there, and an offset only where the
layout has one. -/
structure ReadsTimes (lib : Semantic.TimeLibrary) (go : Go) : Prop where
  civil : ∀ second, -62135596800 ≤ second → second < 253402300800 →
    lib.civil second = Clock.civil second
  zoned : ∀ second frac, -62135596800 ≤ second → second < 253402300800 → (∀ f ∈ frac, f < 1000000) →
    go.parse "2006-01-02 15:04:05.999999-07"
      (Clock.civil second ++ fractionText frac ++ ['+', '0', '0']) =
        some (second, 1000 * frac.getD 0)
  plain : ∀ second frac, -62135596800 ≤ second → second < 253402300800 → (∀ f ∈ frac, f < 1000000) →
    go.parse "2006-01-02 15:04:05.999999-07" (Clock.civil second ++ fractionText frac) = none ∧
    go.parse "2006-01-02 15:04:05-07" (Clock.civil second ++ fractionText frac) = none ∧
    go.parse "2006-01-02 15:04:05.999999" (Clock.civil second ++ fractionText frac) =
      some (second, 1000 * frac.getD 0)

theorem isSpace_of_digit (digit : c.isDigit = true) : isSpace c = false := by
  rw [Char.isDigit, Bool.and_eq_true, decide_eq_true_eq, decide_eq_true_eq, ge_iff_le,
    UInt32.le_iff_toNat_le, UInt32.le_iff_toNat_le] at digit
  have decimal : ∀ k < 10, isSpace (Char.ofNat (48 + k)) = false := by decide
  have bounded : 48 ≤ c.toNat ∧ c.toNat ≤ 57 := digit
  rw [← Char.ofNat_toNat c, ← Nat.add_sub_of_le bounded.1]
  exact decimal _ (by omega)

theorem replaceFirst_absent (absent : ¬ old.toList <:+: text) (new : String) :
    replaceFirst text old new = text := by
  rw [replaceFirst, Text.cutAt_absent absent]

/-- The texts that the engine sends: without an offset, or with that of UTC. -/
inductive Sent (second : Int) (frac : Option Nat) : List Char → Prop where
  | plain : Sent second frac (civil second ++ fractionText frac)
  | zoned : Sent second frac (civil second ++ fractionText frac ++ ['+', '0', '0'])

namespace Sent
variable {second : Int} {frac : Option Nat} {text : List Char}

theorem colon (sent : Sent second frac text) : ':' ∈ text := by
  cases sent <;> simp [Clock.civil, timeText]

theorem trimmed (sent : Sent second frac text) : trimSpace text = text := by
  refine Text.Solid.trim ⟨ne_nil_of_mem sent.colon, fun c first => isSpace_of_digit ?_,
    fun c last => isSpace_of_digit ?_⟩
  · cases sent with
    | plain => exact text_head _ _ c first
    | zoned =>
      rw [append_assoc] at first
      exact text_head _ _ c first
  · cases sent with
    | plain => exact text_last _ _ c last
    | zoned =>
      rw [getLast?_append_of_ne_nil _ (by simp)] at last
      cases last
      decide

theorem chars (sent : Sent second frac text) (within : c ∈ text) :
    c.isDigit = true ∨ c ∈ ['-', ' ', ':', '.', '+'] := by
  have clock : c ∈ civil second ++ fractionText frac ∨ c = '+' ∨ c = '0' := by
    cases sent with
    | plain => exact .inl within
    | zoned => simpa [or_assoc] using within
  rcases clock with clock | rfl | rfl
  · rcases text_chars clock with digit | mark
    · exact .inl digit
    · exact .inr (mem_append_left ['+'] mark)
  · simp
  · decide

theorem absent_letter (sent : Sent second frac text) (letter : ¬ c.isDigit = true)
    (other : c ∉ ['-', ' ', ':', '.', '+']) : ¬ [c] <:+: text :=
  fun inside => (sent.chars (inside.subset (mem_singleton_self c))).elim letter other

theorem absent_offset (sent : Sent second frac text) : ¬ "+00:00".toList <:+: text := by
  have clock : '+' ∉ civil second ++ fractionText frac :=
    fun within => absurd (text_chars within) (by decide)
  cases sent with
  | plain =>
    rw [← append_nil (civil second ++ fractionText frac)]
    exact Text.absent_append clock (by decide)
  | zoned => exact Text.absent_append clock (by decide)

theorem parsed (sent : Sent second frac text) (laws : ReadsTimes lib go)
    (after : -62135596800 ≤ second) (before : second < 253402300800)
    (small : ∀ f ∈ frac, f < 1000000) :
    parseWireTime text go = some (second, 1000 * frac.getD 0) := by
  have t : ¬ "T".toList <:+: text := sent.absent_letter (by decide) (by decide)
  have z : ¬ "Z".toList <:+: text := sent.absent_letter (by decide) (by decide)
  simp only [parseWireTime, sent.trimmed, replaceFirst_absent t, replaceFirst_absent z,
    replaceFirst_absent sent.absent_offset, timestampLayouts, findSome?_cons]
  cases sent with
  | plain =>
    obtain ⟨first, second, third⟩ := laws.plain second frac after before small
    rw [first, second, third]
  | zoned => rw [laws.zoned second frac after before small]

theorem encoded (sent : Sent second frac text) (laws : ReadsTimes lib go)
    (after : -62135596800 ≤ second) (before : second < 253402300800)
    (small : ∀ f ∈ frac, f < 1000000) :
    encodeTimestamp go (String.ofList text) =
      .string (toString (second * 1000000 + frac.getD 0)) := by
  have full : text.isEmpty = false := by
    simpa using ne_nil_of_mem sent.colon
  have decimal : isDecimalIntString text = false := by
    rw [isDecimalIntString, Bool.and_eq_false_iff]
    refine .inr (Bool.eq_false_iff.mpr fun all => ?_)
    exact absurd (all_eq_true.mp all ':' sent.colon) (by decide)
  have whole : 1000 * frac.getD 0 / 1000 = frac.getD 0 := by omega
  simp only [encodeTimestamp, timestampStringToMicros, String.toList_ofList, sent.trimmed, full,
    decimal, sent.parsed laws after before small, Option.map_some, Option.getD_some, whole,
    Bool.false_eq_true, if_false]

end Sent

namespace ResultWriter

theorem sent (laws : ReadsTimes lib go) (writer : ResultWriter) (n : Timestamp) :
    ∃ frac text, (∀ f ∈ frac, f < 1000000) ∧ Sent (n.1 / 1000000) frac text ∧
      writer.text lib n = String.ofList text ∧
      n.1 / 1000000 * 1000000 + frac.getD 0 = writer.written n := by
  obtain ⟨n, after, before⟩ := n
  cases writer with
  | duckdb =>
    refine ⟨some (n % 1000000).toNat, _, ?_, .plain, ?_, ?_⟩
    · simp only [Option.mem_some_iff, forall_eq']
      omega
    · rw [text, Engine.formatTimestampMicros_clock after before, Option.getD_some]
    · simp only [written, Option.getD_some]
      omega
  | semantic =>
    obtain ⟨frac, small, clock, counted⟩ := Semantic.formatTimestampUtc_clock lib n
    rw [Semantic.clockText, laws.civil _ (by omega) (by omega)] at clock
    refine ⟨frac, _, small, .zoned, congrArg String.ofList clock, ?_⟩
    simp only [written]
    omega

theorem encoded (laws : ReadsTimes lib go) (writer : ResultWriter) (n : Timestamp) :
    encodeTimestamp go (writer.text lib n) = .string (toString (writer.written n)) := by
  obtain ⟨frac, text, small, sent, same, written⟩ := writer.sent laws n
  obtain ⟨after, before⟩ := n.2
  rw [same, sent.encoded laws (by omega) (by omega) small, written]

theorem text_ne_toString (laws : ReadsTimes lib go) (writer : ResultWriter) (n : Timestamp) :
    writer.text lib n ≠ toString n.1 := by
  obtain ⟨frac, text, -, sent, same, -⟩ := writer.sent laws n
  intro number
  have colon := sent.colon
  rw [← String.toList_ofList (l := text), ← same, number] at colon
  exact absurd (Text.toString_int_chars n.1 colon) (by decide)

theorem written_eq_iff (writer : ResultWriter) (n : Int) :
    writer.written n = n ↔
      (writer = .semantic → 0 ≤ n ∨ n % 1000000 = 0 ∨ n % 1000000 = 500000) := by
  cases writer with
  | duckdb => simp [written]
  | semantic =>
    simp only [written, forall_const]
    omega

end ResultWriter

theorem isArrayType_name (type : ScalarType) : isArrayType type.name = false := by
  cases type with
  | range _ => exact (by decide : isArrayType "RANGE" = false)
  | _ => decide

theorem name_eq_timestamp_iff (type : ScalarType) : type.name = "TIMESTAMP" ↔ type = .timestamp := by
  cases type <;> simp [ScalarType.name]

theorem isArrayType_column (column : ResultColumn) :
    isArrayType (typeToFieldSchema column).type = false := by
  cases column with
  | scalar _ _ type => exact isArrayType_name type
  | struct => exact (by decide : isArrayType "STRUCT" = false)

/-- A value of a result: a timestamp, or a leaf of another type by the
text in which the engine sends it. -/
inductive ResultValue where
  | null
  | timestamp (micros : Timestamp)
  | text (value : String)
  | list (elements : List ResultValue)
  | row (fields : List ResultValue)

namespace ResultValue

mutual

/-- The cell of a value with a text for every timestamp; `outside` says that no list is around. -/
def cell (time : Bool → Timestamp → String) (outside : Bool) : ResultValue → Cell
  | .null => .null
  | .timestamp micros => .string (time outside micros)
  | .text value => .string value
  | .list elements => .array (cells time false elements)
  | .row fields => .struct (cells time outside fields)

def cells (time : Bool → Timestamp → String) (outside : Bool) : List ResultValue → List Cell
  | [] => []
  | value :: rest => cell time outside value :: cells time outside rest

end

mutual

/-- The timestamps of a value, and whether they are outside of all lists. -/
def times (outside : Bool) : ResultValue → List (Bool × Timestamp)
  | .timestamp micros => [(outside, micros)]
  | .list elements => timesAll false elements
  | .row fields => timesAll outside fields
  | _ => []

def timesAll (outside : Bool) : List ResultValue → List (Bool × Timestamp)
  | [] => []
  | value :: rest => times outside value ++ timesAll outside rest

end

mutual

/-- A value of a column that is not repeated, or an element of one that is. -/
def Plain : ResultColumn → ResultValue → Prop
  | _, .null => True
  | .scalar _ _ type, .timestamp _ => type = .timestamp
  | .scalar _ _ type, .text _ => type ≠ .timestamp
  | .struct _ _ columns, .row fields => Fit columns fields
  | _, _ => False

def Fit : List ResultColumn → List ResultValue → Prop
  | [], [] => True
  | column :: columns, value :: values =>
    (if column.repeated then
        value = .null ∨ ∃ elements, value = .list elements ∧ ∀ each ∈ elements, Plain column each
      else Plain column value) ∧ Fit columns values
  | _, _ => False

end

mutual

/-- Two ways of writing the timestamps give the same cell if they agree on those in it. -/
theorem cell_eq_iff (outside : Bool) : ∀ value,
    restOfCell (cell f outside value) = restOfCell (cell g outside value) ↔
      ∀ time ∈ times outside value, f time.1 time.2 = g time.1 time.2
  | .null => by simp [cell, times]
  | .timestamp micros => by simp [cell, times, restOfCell]
  | .text value => by simp [cell, times]
  | .list elements => by simp [cell, times, restOfCell, cells_eq_iff false elements]
  | .row fields => by simp [cell, times, restOfCell, cells_eq_iff outside fields]

theorem cells_eq_iff (outside : Bool) : ∀ values,
    restOfCells (cells f outside values) = restOfCells (cells g outside values) ↔
      ∀ time ∈ timesAll outside values, f time.1 time.2 = g time.1 time.2
  | [] => by simp [cells, timesAll]
  | value :: rest => by
    rw [cells, cells, restOfCells, restOfCells, cons.injEq, cell_eq_iff outside value,
      cells_eq_iff outside rest, timesAll, forall_mem_append]

end

mutual

theorem times_inside : ∀ (value : ResultValue), ∀ time ∈ times false value, time.1 = false
  | .null | .text _ => by simp [times]
  | .timestamp _ => by simp [times]
  | .list elements => timesAll_inside elements
  | .row fields => timesAll_inside fields

theorem timesAll_inside : ∀ (values : List ResultValue), ∀ time ∈ timesAll false values,
    time.1 = false
  | [] => by simp [timesAll]
  | value :: rest => by
    simp only [timesAll, forall_mem_append]
    exact ⟨times_inside value, timesAll_inside rest⟩

end

section
variable (writer : ResultWriter)

/-- Only the timestamps outside of lists are converted. -/
def arrived (writer : ResultWriter) (lib : Semantic.TimeLibrary) (outside : Bool)
    (time : Timestamp) : String :=
  if outside then toString (writer.written time) else writer.text lib time

theorem encode_list (column : ResultColumn) (elements : List ResultValue) :
    encodeCellForField go
        (restOfCell (cell (fun _ time => writer.text lib time) true (.list elements)))
        (some (typeToFieldSchema column)) =
      restOfCell (cell (arrived writer lib) true (.list elements)) := by
  have same := (cells_eq_iff (f := fun _ time => writer.text lib time)
    (g := arrived writer lib) false elements).mpr
      fun time within => by simp [arrived, timesAll_inside elements time within]
  simp only [cell, restOfCell, encodeCellForField, isArrayType_column, same, Bool.false_eq_true,
    if_false]

mutual

theorem encode_plain (laws : ReadsTimes lib go) :
    ∀ {column : ResultColumn} {value : ResultValue}, Plain column value →
    encodeCellForField go (restOfCell (cell (fun _ time => writer.text lib time) true value))
        (some (typeToFieldSchema column)) = restOfCell (cell (arrived writer lib) true value)
  | _, .null, _ => by simp [cell, restOfCell, encodeCellForField]
  | .scalar name repeated type, .timestamp micros, plain => by
    rw [Plain] at plain
    subst plain
    simp only [cell, restOfCell, typeToFieldSchema, encodeCellForField, Field.type,
      isArrayType_name, name_eq_timestamp_iff, writer.encoded laws micros, arrived, if_true,
      if_false, Bool.false_eq_true]
  | .scalar name repeated type, .text value, plain => by
    rw [Plain] at plain
    simp only [cell, restOfCell, typeToFieldSchema, encodeCellForField, Field.type,
      isArrayType_name, name_eq_timestamp_iff, plain, if_false, Bool.false_eq_true]
  | .struct name repeated columns, .row fields, plain => by
    rw [Plain] at plain
    have record : isArrayType "STRUCT" = false := by decide
    simp only [cell, restOfCell, typeToFieldSchema, encodeCellForField, Field.type, Field.fields,
      record, true_or, if_true, if_false, Bool.false_eq_true, encode_fields laws plain]
  | .struct .., .timestamp _, plain | .struct .., .text _, plain | .struct .., .list _, plain
  | .scalar .., .list _, plain | .scalar .., .row _, plain => by simp [Plain] at plain

theorem encode_fields (laws : ReadsTimes lib go) :
    ∀ {columns : List ResultColumn} {values : List ResultValue}, Fit columns values →
    encodeFields go (restOfCells (cells (fun _ time => writer.text lib time) true values))
        (outputColumnListToTableSchema columns) =
      restOfCells (cells (arrived writer lib) true values)
  | [], [], _ => rfl
  | column :: columns, value :: values, fit => by
    simp only [cells, restOfCells, outputColumnListToTableSchema, encodeFields, cons.injEq]
    rw [Fit] at fit
    cases repeated : column.repeated with
    | false =>
      rw [repeated, if_neg Bool.false_ne_true] at fit
      exact ⟨encode_plain laws fit.1, encode_fields laws fit.2⟩
    | true =>
      rw [if_pos repeated] at fit
      obtain ⟨rfl | ⟨elements, rfl, -⟩, rest⟩ := fit
      · exact ⟨by simp [cell, restOfCell, encodeCellForField], encode_fields laws rest⟩
      · exact ⟨encode_list writer column elements, encode_fields laws rest⟩
  | [], _ :: _, fit | _ :: _, [], fit => by simp [Fit] at fit

end

/-- Every timestamp of a row arrives as its microseconds, and everything else as it is, just if no
timestamp is in a repeated column or field or below one, and the semantic executor has written none
before 1970 with a fraction other than half a second. -/
theorem timestamps_arrive_iff (laws : ReadsTimes lib go) {columns : List ResultColumn}
    {values : List ResultValue} (fit : Fit columns values) :
    cellsToRowForSchema go (cells (fun _ time => writer.text lib time) true values)
        (outputColumnListToTableSchema columns) =
      restOfCells (cells (fun _ time => toString time.1) true values) ↔
    ∀ time ∈ timesAll true values, time.1 = true ∧
      (writer = .semantic → 0 ≤ time.2.1 ∨ time.2.1 % 1000000 = 0 ∨
        time.2.1 % 1000000 = 500000) := by
  rw [cellsToRowForSchema, encode_fields writer laws fit, cells_eq_iff]
  refine forall₂_congr fun time _ => ?_
  rw [← writer.written_eq_iff]
  cases outside : time.1 with
  | false => simpa [arrived] using writer.text_ne_toString laws time.2
  | true => simp [arrived]

end

/-- The Gregorian calendar, for the layouts of wire timestamps. -/
def clockGo : Go where
  float _ := ""
  base64 _ := ""
  printed _ := ""
  parse layout text := do
    let (second, text) ← readCivil ' ' text
    let (fraction, text) := readFraction text
    if layout.toList.getLast? = some '7' then
      let minutes ← readOffset text
      return (second - 60 * minutes, 1000 * fraction)
    else if text = [] then return (second, 1000 * fraction)
    else none

theorem clockGo_reads : ReadsTimes Semantic.gregorian clockGo where
  civil _ _ _ := rfl
  zoned second frac after before small := by
    have fraction : readFraction (fractionText frac ++ ['+', '0', '0']) =
        (frac.getD 0, ['+', '0', '0']) := readFraction_text small (by simp)
    have utc : readOffset ['+', '0', '0'] = some 0 := by decide
    simp [clockGo, readCivil_civil after before, fraction, utc]
  plain second frac after before small := by
    have fraction : readFraction (fractionText frac ++ []) = (frac.getD 0, []) :=
      readFraction_text small (by simp)
    rw [append_nil] at fraction
    have missing : readOffset [] = none := by decide
    simp [clockGo, readCivil_civil after before, fraction, missing]

theorem event_time_arrives :
    cellsToRowForSchema clockGo
        (cells (fun _ time => ResultWriter.semantic.text Semantic.gregorian time) true
          [.row [.timestamp ⟨-500000, by decide⟩], .list [.null, .text "x"]])
        (outputColumnListToTableSchema
          [.struct "event" false [.scalar "at" false .timestamp], .scalar "tags" true .string]) =
      [.row [.string "-500000"], .list [.null, .string "x"]] := by
  refine ((timestamps_arrive_iff .semantic clockGo_reads ?_).mpr ?_).trans rfl
  · refine ⟨⟨rfl, trivial⟩, .inr ⟨_, rfl, fun each within => ?_⟩, trivial⟩
    rcases mem_cons.mp within with rfl | last
    · trivial
    · rw [mem_singleton.mp last, Plain]
      exact nofun
  · simp [timesAll, times]

/-- The elements of a repeated column stay the texts of the engine. -/
theorem repeated_times_stay_texts :
    cellsToRowForSchema clockGo
        (cells (fun _ time => ResultWriter.duckdb.text Semantic.gregorian time) true
          [.list [.timestamp ⟨7, by decide⟩]])
        (outputColumnListToTableSchema [.scalar "times" true .timestamp]) =
      [.list [.string "1970-01-01 00:00:00.000007"]] ∧
    restOfCells (cells (fun _ time => toString time.1) true [.list [.timestamp ⟨7, by decide⟩]]) =
      [.list [.string "7"]] := by
  have text : ResultWriter.duckdb.text Semantic.gregorian 7 = "1970-01-01 00:00:00.000007" := by
    decide +kernel
  exact ⟨congrArg (fun text => [RestCell.list [.string text]]) text, rfl⟩

end ResultValue
end BigQueryEmulator.Gateway
