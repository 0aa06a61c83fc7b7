import BigQueryEmulator.Calendar
import BigQueryEmulator.Gateway.ScriptText

/-! DATE cells in the Avro encoding (`avro.go`). The day number goes through a `time.Duration`, which
holds no more than 292 years, and a quotient of `float64`s. -/
namespace BigQueryEmulator.Gateway.Avro
open Calendar

/-- Of Go's library: the instant that `time.Parse("2006-01-02", ·)` reads, in nanoseconds since 1970,
and the `float64` nearest to a number. -/
structure GoTime where
  parse : List Char → Option Int
  round : ℚ → ℚ

/-- Rounding keeps the order, and the numbers of 53 binary digits, eight of them after the point. -/
structure GoTime.Documented (go : GoTime) : Prop where
  monotone : Monotone go.round
  exact : ∀ m : Int, |m| ≤ 2 ^ 53 → go.round (m / 256) = m / 256

/-- `Time.Sub`, which saturates. -/
def sub (t u : Int) : Int := max (-2 ^ 63) (min (2 ^ 63 - 1) (t - u))

/-- `Duration.Hours`. -/
def hours (go : GoTime) (d : Int) : ℚ :=
  go.round (go.round (d.tdiv 3600000000000) +
    go.round (go.round (d.tmod 3600000000000) / 3600000000000))

/-- The conversion to an integer. -/
def truncate (q : ℚ) : Int := if 0 ≤ q then ⌊q⌋ else ⌈q⌉

def dateStringToDays (go : GoTime) (s : List Char) : Option Int :=
  (go.parse (trimSpace s)).map fun t => truncate (go.round (hours go (sub t 0) / 24))

namespace GoTime.Documented
variable {go : GoTime} (documented : go.Documented)
include documented

theorem integer (small : |m * 256| ≤ 2 ^ 53) : go.round (m : Int) = m := by
  simpa using documented.exact (m * 256) small

theorem between {a b : Int} {q : ℚ} (low : a / 256 ≤ q) (high : q ≤ b / 256)
    (small : |a| ≤ 2 ^ 53 ∧ |b| ≤ 2 ^ 53) : a / 256 ≤ go.round q ∧ go.round q ≤ b / 256 := by
  rw [← documented.exact a small.1, ← documented.exact b small.2]
  exact ⟨documented.monotone low, documented.monotone high⟩

theorem quotient_between {d a b c e : Int}
    (small : ∀ m ∈ [d.tdiv 3600000000000 * 256, d.tmod 3600000000000 * 256, a, b, c, e,
      256 * d.tdiv 3600000000000 + a, 256 * d.tdiv 3600000000000 + b], |m| ≤ 2 ^ 53)
    (rest : a * 3600000000000 ≤ d.tmod 3600000000000 * 256 ∧
      d.tmod 3600000000000 * 256 ≤ b * 3600000000000)
    (whole : 24 * c ≤ 256 * d.tdiv 3600000000000 + a ∧
      256 * d.tdiv 3600000000000 + b ≤ 24 * e) :
    c / 256 ≤ go.round (hours go d / 24) ∧ go.round (hours go d / 24) ≤ e / 256 := by
  unfold hours
  generalize d.tdiv 3600000000000 = hour at *
  generalize d.tmod 3600000000000 = nsec at *
  simp only [List.forall_mem_cons, List.not_mem_nil, false_implies, implies_true, and_true] at small
  obtain ⟨hourSmall, nsecSmall, aSmall, bSmall, cSmall, eSmall, low, high⟩ := small
  rw [documented.integer hourSmall, documented.integer nsecSmall]
  qify at rest whole
  have fraction := @between go documented a b (nsec / 3600000000000) (by linarith) (by linarith)
    ⟨aSmall, bSmall⟩
  have sum := @between go documented (256 * hour + a) (256 * hour + b)
    (hour + go.round (nsec / 3600000000000)) (by push_cast; linarith) (by push_cast; linarith)
    ⟨low, high⟩
  push_cast at sum
  exact documented.between (by linarith) (by linarith) ⟨cSmall, eSmall⟩

theorem days_eq (days : Int) :
    truncate (go.round (hours go (sub (days * 86400000000000) 0) / 24)) =
      max (-106751) (min 106751 days) := by
  rcases lt_or_ge 106751 days with late | upper
  · rw [show sub (days * 86400000000000) 0 = 2 ^ 63 - 1 by unfold sub; omega,
      show max (-106751) (min 106751 days) = 106751 by omega]
    obtain ⟨low, high⟩ := @quotient_between go documented (2 ^ 63 - 1) 0 224 27328256 27328511
      (by decide) (by decide) (by decide)
    generalize go.round _ = q at low high ⊢
    norm_num at low high
    rw [truncate, if_pos (by linarith), Int.floor_eq_iff]
    constructor <;> push_cast <;> linarith
  rcases lt_or_ge days (-106751) with early | lower
  · rw [show sub (days * 86400000000000) 0 = -2 ^ 63 by unfold sub; omega,
      show max (-106751) (min 106751 days) = -106751 by omega]
    obtain ⟨low, high⟩ := @quotient_between go documented (-2 ^ 63) (-224) 0 (-27328511) (-27328256)
      (by decide) (by decide) (by decide)
    generalize go.round _ = q at low high ⊢
    norm_num at low high
    rw [truncate, if_neg (by linarith), Int.ceil_eq_iff]
    constructor <;> push_cast <;> linarith
  · have zero : go.round 0 = 0 := by simpa using documented.exact 0 (by decide)
    have day : go.round days = days := documented.integer (abs_le.mpr ⟨by omega, by omega⟩)
    have hour : go.round (days * 24) = days * 24 := by
      exact_mod_cast documented.integer (m := days * 24) (abs_le.mpr ⟨by omega, by omega⟩)
    rw [show sub (days * 86400000000000) 0 = days * 24 * 3600000000000 by unfold sub; omega,
      show max (-106751) (min 106751 days) = days by omega, hours,
      Int.mul_tdiv_cancel _ (by decide), Int.mul_tmod_left]
    simp [zero, hour, day, truncate]

end GoTime.Documented

/-- The text is read as the date. -/
def Reads (go : GoTime) (text : List Char) (date : Date) : Prop :=
  go.parse (trimSpace text) = some (date.sinceEpoch * 86400000000000)

/-- A date's number is its own, and no other date's, exactly within 106751 days of the epoch. The
later of two dates has the greater number unless both are at one end of this range or beyond. -/
theorem dateStringToDays_exact_iff (go : GoTime) (documented : go.Documented) (text text' : List Char)
    (date later : Date) (read : Reads go text date) (read' : Reads go text' later) :
    (dateStringToDays go text = some date.sinceEpoch ∧ (∀ other : Date,
        dateStringToDays go text = some other.sinceEpoch → other = date) ↔
      |date.sinceEpoch| ≤ 106751) ∧
    (date.sinceEpoch < later.sinceEpoch → ((∃ m n, dateStringToDays go text = some m ∧
        dateStringToDays go text' = some n ∧ m < n) ↔
      date.sinceEpoch < 106751 ∧ -106751 < later.sinceEpoch)) := by
  have computed {text date} (read : Reads go text date) : dateStringToDays go text =
      some (max (-106751) (min 106751 date.sinceEpoch)) := by
    rw [dateStringToDays, read, Option.map_some, documented.days_eq]
  rw [computed read, computed read', abs_le]
  simp only [Option.some.injEq]
  refine ⟨⟨fun ⟨same, _⟩ => by omega, fun near => ⟨by omega, fun other same => ?_⟩⟩, fun less =>
    ⟨?_, ?_⟩⟩
  · refine Date.ordinal_injective ?_
    unfold Date.sinceEpoch at same near
    omega
  · rintro ⟨m, n, rfl, rfl, more⟩
    omega
  · exact fun _ => ⟨_, _, rfl, rfl, by omega⟩

def exactGo : GoTime where
  parse s := if s = "1970-01-01".toList then some 0
    else if s = "2262-04-12".toList then some (106752 * 86400000000000) else none
  round := id

theorem exactGo_documented : exactGo.Documented := ⟨monotone_id, fun _ _ => rfl⟩

def afterRange : Date := ⟨2262, 4, 12, by decide, by decide⟩

theorem afterRange_sinceEpoch : afterRange.sinceEpoch = 106752 := by
  have months : afterRange.monthsBefore = 12 * 2261 + 3 := rfl
  rw [Date.sinceEpoch, epoch_ordinal, Date.ordinal, months, daysOfMonths_add _ (by decide),
    daysOfMonths_years]
  rfl

theorem afterRange_reads : Reads exactGo "2262-04-12".toList afterRange := by
  rw [Reads, afterRange_sinceEpoch]
  decide +kernel

theorem epoch_encoded :
    dateStringToDays exactGo "1970-01-01".toList = some Date.epoch.sinceEpoch := by
  have read : Reads exactGo "1970-01-01".toList Date.epoch := by
    rw [Reads, Date.sinceEpoch, sub_self]
    decide +kernel
  exact ((dateStringToDays_exact_iff exactGo exactGo_documented _ _ _ _ read
    afterRange_reads).1.mpr (by rw [Date.sinceEpoch, sub_self]; decide)).1

/-- The first date beyond the range of a duration is encoded as the day before it. -/
theorem after_range_early : exactGo.Documented ∧ Reads exactGo "2262-04-12".toList afterRange ∧
    dateStringToDays exactGo "2262-04-12".toList = some 106751 ∧ afterRange.sinceEpoch = 106752 :=
  ⟨exactGo_documented, afterRange_reads, by decide +kernel, afterRange_sinceEpoch⟩

end BigQueryEmulator.Gateway.Avro
