import BigQueryEmulator.Clock

/-! DATE literals in the SQL for DuckDB (`transpiler_internal.h`), and the texts of the times in its
results (`arrow_to_bq_types.cc`). The day number is taken apart into eras of 400 years that begin in
March, so that a leap day is the last day of its year. -/
namespace BigQueryEmulator.Engine
open Calendar

/-- `%04d`, `%02u`. -/
def zeroPadded (width : Nat) (n : Int) : List Char :=
  let digits := (toString n.natAbs).toList
  if n < 0 then '-' :: (List.replicate (width - 1 - digits.length) '0' ++ digits)
  else List.replicate (width - digits.length) '0' ++ digits

def formatDate (y m d : Int) : List Char :=
  zeroPadded 4 y ++ '-' :: zeroPadded 2 m ++ '-' :: zeroPadded 2 d

/-- FormatDateLiteral, or none where an operation on `int32_t` overflows or one on `unsigned`
wraps. -/
def formatDateLiteral (daysSinceEpoch : Int) : Option (List Char) :=
  let z := daysSinceEpoch + 719468
  let dividend := if 0 ≤ z then z else z - 146096
  let era := dividend.tdiv 146097
  let doe := z - era * 146097
  let yoe := (doe - doe / 1460 + doe / 36524 - doe / 146096) / 365
  let y := yoe + era * 400
  let doy := doe - (365 * yoe + yoe / 4 - yoe / 100)
  let mp := (5 * doy + 2) / 153
  let d := doy - (153 * mp + 2) / 5 + 1
  let m := if mp < 10 then mp + 3 else mp - 9
  let year := if m ≤ 2 then y + 1 else y
  let signed := [z, dividend, era * 146097, doe, era * 400, y, year]
  let unsigned := [doe, doe - doe / 1460, doe - doe / 1460 + doe / 36524,
    doe - doe / 1460 + doe / 36524 - doe / 146096, 365 * yoe, 365 * yoe + yoe / 4,
    365 * yoe + yoe / 4 - yoe / 100, doy, 5 * doy, 5 * doy + 2, 153 * mp, 153 * mp + 2,
    doy - (153 * mp + 2) / 5, d, m]
  if (∀ x ∈ signed, -2 ^ 31 ≤ x ∧ x < 2 ^ 31) ∧ ∀ x ∈ unsigned, 0 ≤ x ∧ x < 2 ^ 32 then
    some (formatDate year m d)
  else none

/-- The year of an era of 400 years, from the days before it in the era. -/
theorem yearOfEra {yoe doy : Int} (years : 0 ≤ yoe ∧ yoe < 400) (days : 0 ≤ doy ∧ doy ≤ 365)
    (leap : doy = 365 → (yoe + 1) % 4 = 0 ∧ ((yoe + 1) % 100 = 0 → yoe = 399))
    (count : doe = 365 * yoe + yoe / 4 - yoe / 100 + doy) :
    yoe = (doe - doe / 1460 + doe / 36524 - doe / 146096) / 365 := by
  by_cases last : yoe = 399 ∧ doy = 365
  · obtain ⟨rfl, rfl⟩ := last
    subst count
    decide
  -- the centuries before the year, the rounds of four years in its own, and the years in its round
  obtain ⟨b, k, j, rfl, hb, hk, hj⟩ : ∃ b k j : Int, yoe = 100 * b + 4 * k + j ∧ (0 ≤ b ∧ b < 4) ∧
      (0 ≤ k ∧ k < 25) ∧ 0 ≤ j ∧ j < 4 :=
    ⟨yoe / 100, yoe % 100 / 4, yoe % 4, by omega, by omega, by omega, by omega⟩
  have quarters : (100 * b + 4 * k + j) / 4 = 25 * b + k := by omega
  have centuries : (100 * b + 4 * k + j) / 100 = b := by omega
  rw [quarters, centuries] at count
  have whole : doy ≤ 364 ∨ j = 3 ∧ k ≤ 23 := by omega
  clear leap last quarters centuries years
  have h1 : doe / 36524 = b := by omega
  have h2 : doe / 146096 = 0 := by omega
  have h3 : doe / 1460 = 25 * b + k + (24 * b + k + 365 * j + doy) / 1460 := by omega
  rw [h1, h2, h3]
  omega

/-- The literal of a day number is the text of its date, and no operation overflows or wraps. -/
theorem formatDateLiteral_date (date : Date) (last : date.year ≤ 9999) :
    formatDateLiteral date.sinceEpoch = some (formatDate date.year date.month date.day) := by
  obtain ⟨march, doy, mp, ordinal, length, leap, months, day, month⟩ := date.of_march
  obtain ⟨e, o, rfl, years⟩ : ∃ e o, march = 400 * e + o ∧ o < 400 :=
    ⟨march / 400, march % 400, (Nat.div_add_mod ..).symm, Nat.mod_lt _ (by decide)⟩
  have count : date.sinceEpoch + 719468 = e * 146097 + (365 * o + o / 4 - o / 100 + doy) := by
    have quarters : (400 * e + o) / 4 = 100 * e + o / 4 := by omega
    have centuries : (400 * e + o) / 100 = 4 * e + o / 100 := by omega
    have cycles : (400 * e + o) / 400 = e := by omega
    rw [daysOfMonths_years, quarters, centuries, cycles] at ordinal
    rw [Date.sinceEpoch, epoch_ordinal]
    clear month months day
    omega
  have ends : (doy : Int) = 365 →
      ((o : Int) + 1) % 4 = 0 ∧ (((o : Int) + 1) % 100 = 0 → (o : Int) = 399) := by
    simp [isLeap] at leap
    omega
  clear ordinal leap
  generalize date.sinceEpoch = days at count
  unfold formatDateLiteral
  extract_lets z dividend era doe yoe y doy' mp' d m year signed unsigned
  have sameZ : z = e * 146097 + (365 * o + o / 4 - o / 100 + doy) := count
  have sameDividend : dividend = z := if_pos (by omega)
  have sameEra : era = e := by
    show dividend.tdiv 146097 = e
    rw [Int.tdiv_eq_ediv_of_nonneg (by omega)]
    omega
  have sameDoe : doe = 365 * o + o / 4 - o / 100 + doy := by omega
  have sameYoe : yoe = o := (yearOfEra (by omega) (by omega) ends sameDoe).symm
  have sameDoy : doy' = doy := by
    show doe - (365 * yoe + yoe / 4 - yoe / 100) = doy
    rw [sameDoe, sameYoe]
    exact add_sub_cancel_left ..
  have sameMp : mp' = mp := by omega
  have sameD : d = date.day := by omega
  have sameM : m = date.month := by
    show (if mp' < 10 then mp' + 3 else mp' - 9) = _
    omega
  have sameY : year = date.year := by
    show (if m ≤ 2 then y + 1 else y) = _
    omega
  rw [sameY, sameM, sameD, if_pos]
  constructor
  · simp only [signed, List.forall_mem_cons, List.not_mem_nil, false_implies, implies_true, and_true]
    omega
  · simp only [unsigned, List.forall_mem_cons, List.not_mem_nil, false_implies, implies_true,
      and_true]
    omega

theorem leap_day_literal :
    formatDateLiteral (Date.sinceEpoch ⟨2024, 2, 29, by decide, by decide⟩) =
      some "2024-02-29".toList :=
  (formatDateLiteral_date ⟨2024, 2, 29, by decide, by decide⟩ (by decide)).trans (by decide +kernel)

def formatTimeMicros (micros : Int) : List Char :=
  let micros := if micros < 0 then 0 else micros
  let totalSeconds := micros / 1000000
  zeroPadded 2 (totalSeconds / 3600 % 24) ++ ':' :: zeroPadded 2 (totalSeconds / 60 % 60) ++
    ':' :: zeroPadded 2 (totalSeconds % 60) ++ '.' :: zeroPadded 6 (micros % 1000000)

/-- `FormatDate` computes as FormatDateLiteral does. -/
def formatTimestampMicros (micros : Int) : Option (List Char) :=
  let day := micros.tdiv 86400000000
  let rem := micros - day * 86400000000
  let (day, rem) := if rem < 0 then (day - 1, rem + 86400000000) else (day, rem)
  (formatDateLiteral day).map fun date => date ++ ' ' :: formatTimeMicros rem

theorem zeroPadded_natCast (width n : Nat) : zeroPadded width n = Text.padded width n := by
  have digits : (toString n).toList = Nat.toDigits 10 n := Nat.toList_repr
  simp only [zeroPadded, Int.natAbs_natCast, digits, Text.padded]
  exact if_neg (by omega)

theorem formatDate_text (date : Date) :
    formatDate date.year date.month date.day = Clock.dateText date := by
  simp only [formatDate, zeroPadded_natCast, Clock.dateText]

theorem formatTimeMicros_text (m : Nat) (short : m < 86400000000) :
    formatTimeMicros m =
      Clock.timeText (m / 1000000) ++ '.' :: Text.padded 6 (m % 1000000) := by
  have hours : m / 1000000 / 3600 % 24 = m / 1000000 / 3600 := Nat.mod_eq_of_lt (by omega)
  have positive : ¬ (m : Int) < 0 := by omega
  rw [formatTimeMicros, if_neg positive, Clock.timeText, ← hours]
  simp only [← zeroPadded_natCast]
  rfl

/-- Days and times of day are those of the calendar, also before 1970. -/
theorem formatTimestampMicros_clock (after : -62135596800000000 ≤ micros)
    (before : micros < 253402300800000000) :
    formatTimestampMicros micros = some (Clock.civil (micros / 1000000) ++
      Clock.fractionText (some (micros % 1000000).toNat)) := by
  have quotient : micros.tdiv 86400000000 =
      if 0 ≤ micros then micros / 86400000000 else -(-micros / 86400000000) := by
    split
    · exact Int.tdiv_eq_ediv_of_nonneg (by assumption)
    · rw [← Int.tdiv_eq_ediv_of_nonneg (by omega), Int.neg_tdiv, neg_neg]
  have floored : (if micros - micros.tdiv 86400000000 * 86400000000 < 0 then
        (micros.tdiv 86400000000 - 1,
          micros - micros.tdiv 86400000000 * 86400000000 + 86400000000)
      else (micros.tdiv 86400000000, micros - micros.tdiv 86400000000 * 86400000000)) =
      (micros / 1000000 / 86400, ((micros % 86400000000).toNat : Int)) := by
    rw [quotient]
    split <;> split <;> rw [Prod.mk.injEq] <;> omega
  obtain ⟨days, last⟩ := Clock.date_within (by omega : -62135596800 ≤ micros / 1000000) (by omega)
  have date := formatDateLiteral_date _ last
  rw [days, formatDate_text] at date
  have second : (micros % 86400000000).toNat / 1000000 = (micros / 1000000 % 86400).toNat := by
    omega
  have frac : (micros % 86400000000).toNat % 1000000 = (micros % 1000000).toNat := by omega
  have time := formatTimeMicros_text (micros % 86400000000).toNat (by omega)
  rw [formatTimestampMicros, floored]
  simp only [date, Option.map_some, time, second, frac, Clock.civil, Clock.fractionText,
    List.append_assoc, List.cons_append]

end BigQueryEmulator.Engine
