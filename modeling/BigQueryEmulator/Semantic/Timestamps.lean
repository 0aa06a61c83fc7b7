import BigQueryEmulator.Clock
import BigQueryEmulator.Semantic.Exprs

/-! The texts in which TIMESTAMP values are stored (`semantic/value.cc`) and put into SQL
(`duckdb_storage_literals.cc`). The calendar part of the text is rounded down, while the fraction is
that of the absolute value. -/
namespace BigQueryEmulator.Semantic
open Storage (Status)
open Calendar Clock

/-- The time libraries. `civil` prints `%04d-%02d-%02d %02d:%02d:%02d` of the second that begins so
many seconds after 1970. A parser answers in microseconds, none where it rejects the text; `later`
are the formats with `T` or without an offset, and then the functions of GoogleSQL and dates. -/
structure TimeLibrary where
  civil : Int → List Char
  rfc3339Full : List Char → Option Int
  spaceZoned : List Char → Option Int
  later : List (List Char → Option Int)

/-- A civil second with its fraction in microseconds (`.%06d`), if any. -/
def clockText (lib : TimeLibrary) (second : Int) (frac : Option Nat) : List Char :=
  lib.civil second ++ fractionText frac

def formatTimestampUtc (lib : TimeLibrary) (micros : Int) : List Char :=
  let second := micros / 1000000
  if micros.tmod 1000000 = 0 then clockText lib second none ++ ['+', '0', '0']
  else
    let frac := if 0 ≤ micros then micros.tmod 1000000 else (-micros).tmod 1000000
    clockText lib second (some frac.toNat) ++ ['+', '0', '0']

def normalizeTimestampOffsetSuffix (text : List Char) : List Char :=
  match text.reverse with
  | d1 :: d0 :: sign :: _ =>
    if (sign = '+' ∨ sign = '-') ∧ d0.isDigit ∧ d1.isDigit then
      if ':' ∉ text ∧ 'T' ∉ text then text else text ++ [':', '0', '0']
    else text
  | _ => text

def parseTimestampWireString (lib : TimeLibrary) (body : List Char) : Except Status Int :=
  let text := match body.reverse with
    | 'C' :: 'T' :: 'U' :: ' ' :: rest => rest.reverse
    | _ => body
  let text := normalizeTimestampOffsetSuffix text
  match (lib.rfc3339Full :: lib.spaceZoned :: lib.later).findSome? fun parse => parse text with
  | some micros => .ok micros
  | none => .error (semanticError .invalidArgument
      ("invalid TIMESTAMP value '" ++ String.ofList body ++ "'"))

/-- Within the years 1 to 9999 a text is read back with its fraction and UTC offset by the format
that has a space before the time, and not by the one of RFC 3339, which has a `T` there. -/
structure TimeLibrary.Documented (lib : TimeLibrary) : Prop where
  colon : ∀ second, ':' ∈ lib.civil second
  rfc3339 : ∀ second rest, -62135596800 ≤ second → second < 253402300800 →
    lib.rfc3339Full (lib.civil second ++ rest) = none
  read : ∀ second frac, -62135596800 ≤ second → second < 253402300800 → (∀ f ∈ frac, f < 1000000) →
    lib.spaceZoned (clockText lib second frac ++ ['+', '0', '0', ':', '0', '0']) =
      some (second * 1000000 + frac.getD 0)

/-- The fraction of a text is that of its instant after 1970, and before it is counted from the
other end of the second. -/
theorem formatTimestampUtc_clock (lib : TimeLibrary) (micros : Int) :
    ∃ frac, (∀ f ∈ frac, f < 1000000) ∧
      formatTimestampUtc lib micros =
        clockText lib (micros / 1000000) frac ++ ['+', '0', '0'] ∧
      ((frac.getD 0 : Nat) : Int) =
        if 0 ≤ micros then micros % 1000000 else -micros % 1000000 := by
  have whole : micros.tmod 1000000 = 0 ↔ micros % 1000000 = 0 := by
    rw [← Int.dvd_iff_tmod_eq_zero, Int.dvd_iff_emod_eq_zero]
  have frac : (if 0 ≤ micros then micros.tmod 1000000 else (-micros).tmod 1000000) =
      if 0 ≤ micros then micros % 1000000 else -micros % 1000000 := by
    split
    · rw [Int.tmod_eq_emod_of_nonneg (by assumption)]
    · rw [Int.tmod_eq_emod_of_nonneg (by omega)]
  simp only [formatTimestampUtc, whole, frac]
  split
  · exact ⟨none, by simp, rfl, by simp only [Option.getD_none]; omega⟩
  · exact ⟨some _, by simp; omega, rfl, by simp only [Option.getD_some]; omega⟩

theorem normalize_short_offset (timed : ':' ∈ text) :
    normalizeTimestampOffsetSuffix (text ++ ['+', '0', '0']) =
      text ++ ['+', '0', '0', ':', '0', '0'] := by
  simp [normalizeTimestampOffsetSuffix, timed, (by decide : '0'.isDigit)]

section
variable {lib : TimeLibrary} (laws : lib.Documented)
include laws

theorem parse_clockText (after : -62135596800 ≤ second) (before : second < 253402300800)
    (small : ∀ f ∈ frac, f < 1000000) :
    parseTimestampWireString lib (clockText lib second frac ++ ['+', '0', '0']) =
      .ok (second * 1000000 + frac.getD 0) := by
  have normalized : normalizeTimestampOffsetSuffix (clockText lib second frac ++ ['+', '0', '0']) =
      clockText lib second frac ++ ['+', '0', '0', ':', '0', '0'] :=
    normalize_short_offset (List.mem_append_left _ (laws.colon second))
  have other : lib.rfc3339Full (clockText lib second frac ++ ['+', '0', '0', ':', '0', '0']) =
      none := by
    rw [clockText, List.append_assoc, laws.rfc3339 second _ after before]
  simp [parseTimestampWireString, normalized, other, laws.read second frac after before small]

/-- Before 1970 the fraction is counted from the wrong end of its second. -/
theorem timestamp_read_back_iff (after : -62135596800000000 ≤ micros)
    (before : micros < 253402300800000000) :
    parseTimestampWireString lib (formatTimestampUtc lib micros) = .ok micros ↔
      0 ≤ micros ∨ micros % 1000000 = 0 ∨ micros % 1000000 = 500000 := by
  obtain ⟨frac, small, text, counted⟩ := formatTimestampUtc_clock lib micros
  rw [text, parse_clockText laws (by omega) (by omega) small, Except.ok.injEq, counted]
  omega

end

/-- Formats a text of digits as `FormatTimestampUtc` does; `SimpleAtoi` fails beyond int64. -/
def tryFormatMicrosTimestampString (lib : TimeLibrary) (text : List Char) : Option (List Char) :=
  if text = [] ∨ text.any (fun c => !c.isDigit) then none
  else
    let micros := Nat.ofDigitChars 10 text 0
    if micros < 2 ^ 63 then some (formatTimestampUtc lib micros) else none

/-- A cell of a TIMESTAMP column. -/
inductive TimestampCell where
  | int64 (micros : Int)
  | string (value : List Char)

/-- The text that `RenderScalarLiteral` puts into `TIMESTAMPTZ '…'`. -/
def timestampLiteral (lib : TimeLibrary) (cell : TimestampCell) : List Char :=
  let text := match cell with
    | .int64 micros => (toString micros).toList
    | .string value => value
  (tryFormatMicrosTimestampString lib text).getD text

/-- DuckDB reads a civil second with its fraction and offset; a number is no timestamp. -/
structure ReadsTimestamps (lib : TimeLibrary) (timestamptz : List Char → Option Int) : Prop where
  read : ∀ second frac, -62135596800 ≤ second → second < 253402300800 → (∀ f ∈ frac, f < 1000000) →
    timestamptz (clockText lib second frac ++ ['+', '0', '0']) =
      some (second * 1000000 + frac.getD 0)
  number : ∀ digits, (∀ c ∈ digits, c.isDigit = true) → timestamptz ('-' :: digits) = none

/-- Only digits are read as microseconds, so that the sign of an instant before 1970 goes into the
literal. -/
theorem timestamp_literal_iff (laws : ReadsTimestamps lib timestamptz)
    (after : -62135596800000000 ≤ micros) (before : micros < 253402300800000000)
    (arrives : cell = .int64 micros ∨ cell = .string (toString micros).toList) :
    timestamptz (timestampLiteral lib cell) = some micros ↔ 0 ≤ micros := by
  have literal : timestampLiteral lib cell =
      (tryFormatMicrosTimestampString lib (toString micros).toList).getD
        (toString micros).toList := by
    rcases arrives with rfl | rfl <;> rfl
  rw [literal]
  rcases Text.toString_int_cases micros with ⟨m, rfl, text⟩ | ⟨m, rfl, text⟩
  · have digits : ∀ c ∈ Nat.toDigits 10 m, c.isDigit = true :=
      fun _ => Text.isDigit_of_mem_decimal
    obtain ⟨frac, small, clock, counted⟩ := formatTimestampUtc_clock lib m
    have formatted : tryFormatMicrosTimestampString lib (Nat.toDigits 10 m) =
        some (formatTimestampUtc lib m) := by
      rw [tryFormatMicrosTimestampString, if_neg (by simpa [Nat.toDigits_ne_nil] using digits)]
      rw [Nat.ofDigitChars_ten_toDigits, if_pos (by omega)]
    rw [text, formatted, Option.getD_some, clock, laws.read _ _ (by omega) (by omega) small,
      Option.some.injEq, counted]
    omega
  · have negative : m ≠ 0 := by
      rintro rfl
      exact absurd text (by decide)
    have raw : tryFormatMicrosTimestampString lib ('-' :: Nat.toDigits 10 m) = none :=
      if_pos (.inr rfl)
    rw [text, raw, Option.getD_none, laws.number _ fun _ => Text.isDigit_of_mem_decimal]
    simp
    omega

/-- The proleptic Gregorian calendar, and the formats of RFC 3339 and with a space. -/
def gregorian : TimeLibrary where
  civil := civil
  rfc3339Full := readZoned 'T'
  spaceZoned := readZoned ' '
  later := []

theorem gregorian_documented : gregorian.Documented where
  colon second := by simp [gregorian, civil, timeText]
  rfc3339 second rest after before := readZoned_marked after before (by decide) rest
  read second frac after before small :=
    readZoned_civil after before small (by decide) (by simp)

theorem gregorian_reads : ReadsTimestamps gregorian (readZoned ' ') where
  read second frac after before small :=
    readZoned_civil after before small (by decide) (by simp)
  number digits _ := by simp [readZoned, readCivil, readNumber]

theorem quarter_second_literal :
    readZoned ' ' (timestampLiteral gregorian (.string (toString (250000 : Int)).toList)) =
      some 250000 :=
  (timestamp_literal_iff gregorian_reads (by decide) (by decide) (.inr rfl)).mpr (by decide)

theorem signed_number_in_literal :
    timestampLiteral gregorian (.int64 (-1)) = ['-', '1'] ∧
      readZoned ' ' (timestampLiteral gregorian (.int64 (-1))) = none := by
  decide +kernel

theorem half_second_read_back :
    parseTimestampWireString gregorian (formatTimestampUtc gregorian (-500000)) = .ok (-500000) :=
  (timestamp_read_back_iff gregorian_documented (by decide) (by decide)).mpr
    (.inr (.inr (by decide)))

/-- The last day before 1970. -/
def lastOf1969 : Date := ⟨1969, 12, 31, by decide, by decide⟩

theorem ofDays_lastOf1969 : Date.ofDays (-1) = lastOf1969 := by
  have days : lastOf1969.sinceEpoch = -1 := by
    rw [Date.sinceEpoch, epoch_ordinal, Date.ordinal_eq]
    decide
  rw [← days, Date.ofDays_sinceEpoch]

/-- The microsecond before 1970 is written a microsecond after the beginning of its second. -/
theorem last_microsecond_moved :
    formatTimestampUtc gregorian (-1) = "1969-12-31 23:59:59.000001+00".toList ∧
      parseTimestampWireString gregorian "1969-12-31 23:59:59.000001+00".toList = .ok (-999999) := by
  have clock : formatTimestampUtc gregorian (-1) =
      clockText gregorian (-1) (some 1) ++ ['+', '0', '0'] := by
    simp only [formatTimestampUtc]
    rfl
  have text : formatTimestampUtc gregorian (-1) = "1969-12-31 23:59:59.000001+00".toList := by
    have date : gregorian.civil (-1) = dateText lastOf1969 ++ ' ' :: timeText 86399 := by
      rw [← ofDays_lastOf1969]
      rfl
    rw [clock, clockText, date]
    decide +kernel
  refine ⟨text, ?_⟩
  rw [← text, clock, parse_clockText gregorian_documented (by decide) (by decide) (by simp)]
  rfl

end BigQueryEmulator.Semantic
