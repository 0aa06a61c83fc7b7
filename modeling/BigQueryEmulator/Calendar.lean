import Mathlib

/-! The proleptic Gregorian calendar from the year 1 on, counted month by month. -/
namespace BigQueryEmulator.Calendar

def isLeap (year : Nat) : Bool := year % 4 = 0 ∧ (year % 100 ≠ 0 ∨ year % 400 = 0)

def monthLength (year : Nat) : Nat → Nat
  | 2 => if isLeap year then 29 else 28
  | 4 | 6 | 9 | 11 => 30
  | _ => 31

/-- The days of that many months from January of the year 1 on. -/
def daysOfMonths : Nat → Nat
  | 0 => 0
  | months + 1 => daysOfMonths months + monthLength (months / 12 + 1) (months % 12 + 1)

theorem daysOfMonths_mono : Monotone daysOfMonths :=
  monotone_nat_of_le_succ fun _ => Nat.le_add_right _ _

structure Date where
  year : Nat
  month : Nat
  day : Nat
  named : 1 ≤ year ∧ 1 ≤ month ∧ month ≤ 12
  within : 1 ≤ day ∧ day ≤ monthLength year month

namespace Date

def monthsBefore (date : Date) : Nat := 12 * (date.year - 1) + (date.month - 1)

/-- The first of January of the year 1 is day 1. -/
def ordinal (date : Date) : Nat := daysOfMonths date.monthsBefore + date.day

def epoch : Date := ⟨1970, 1, 1, by decide, by decide⟩

def sinceEpoch (date : Date) : Int := date.ordinal - epoch.ordinal

theorem ordinal_between (date : Date) : daysOfMonths date.monthsBefore < date.ordinal ∧
    date.ordinal ≤ daysOfMonths (date.monthsBefore + 1) := by
  obtain ⟨year, month, day, named, within⟩ := date
  have year_eq : (12 * (year - 1) + (month - 1)) / 12 + 1 = year := by omega
  have month_eq : (12 * (year - 1) + (month - 1)) % 12 + 1 = month := by omega
  simp only [daysOfMonths, ordinal, monthsBefore, year_eq, month_eq]
  omega

theorem ordinal_injective {a b : Date} (same : a.ordinal = b.ordinal) : a = b := by
  have first := a.ordinal_between
  have second := b.ordinal_between
  have months : a.monthsBefore = b.monthsBefore := by
    rcases Nat.lt_trichotomy a.monthsBefore b.monthsBefore with less | equal | more
    · have := daysOfMonths_mono (show a.monthsBefore + 1 ≤ b.monthsBefore from less)
      omega
    · exact equal
    · have := daysOfMonths_mono (show b.monthsBefore + 1 ≤ a.monthsBefore from more)
      omega
  obtain ⟨year, month, day, named, _⟩ := a
  obtain ⟨year', month', day', named', _⟩ := b
  rw [ordinal, ordinal, months] at same
  rw [monthsBefore, monthsBefore] at months
  simp only [mk.injEq]
  dsimp only at *
  omega

end Date

theorem exists_months (n : Nat) : ∃ months, n ≤ daysOfMonths (months + 1) := by
  refine ⟨n, ?_⟩
  induction n with
  | zero => exact Nat.zero_le _
  | succ n ih =>
    have day : 1 ≤ monthLength ((n + 1) / 12 + 1) ((n + 1) % 12 + 1) := by
      unfold monthLength
      split <;> first | split <;> decide | decide
    exact Nat.add_le_add ih day

/-- The date of a day number, from 1 on. -/
def Date.ofOrdinal (n : Nat) (positive : 0 < n) : Date :=
  let months := Nat.find (exists_months n)
  have after : daysOfMonths months < n := by
    have earlier : ∀ m < months, daysOfMonths (m + 1) < n := fun m less =>
      not_le.mp (Nat.find_min (exists_months n) less)
    cases same : months with
    | zero => exact positive
    | succ m => exact earlier m (same ▸ Nat.lt_succ_self m)
  have before : n ≤ daysOfMonths (months + 1) := Nat.find_spec (exists_months n)
  ⟨months / 12 + 1, months % 12 + 1, n - daysOfMonths months, by omega, by
    rw [daysOfMonths] at before
    omega⟩

theorem Date.ordinal_ofOrdinal (positive : 0 < n) : (Date.ofOrdinal n positive).ordinal = n := by
  have months : (ofOrdinal n positive).monthsBefore = Nat.find (exists_months n) := by
    show 12 * (_ / 12 + 1 - 1) + (_ % 12 + 1 - 1) = _
    omega
  have begun : 1 ≤ n - daysOfMonths (Nat.find (exists_months n)) :=
    (ofOrdinal n positive).within.1
  rw [ordinal, months]
  show _ + (n - daysOfMonths (Nat.find (exists_months n))) = n
  omega

theorem daysOfMonths_add (year : Nat) (within : month ≤ 12) : daysOfMonths (12 * year + month) =
    daysOfMonths (12 * year) +
      [0, 31, 59, 90, 120, 151, 181, 212, 243, 273, 304, 334, 365].getD month 0 +
      if 2 ≤ month ∧ isLeap (year + 1) then 1 else 0 := by
  cases leap : isLeap (year + 1) <;> interval_cases month <;>
    simp [daysOfMonths, monthLength, Nat.mul_add_div, leap]

theorem daysOfMonths_years (year : Nat) :
    daysOfMonths (12 * year) = 365 * year + year / 4 - year / 100 + year / 400 := by
  induction year with
  | zero => rfl
  | succ year ih =>
    rw [Nat.mul_succ, daysOfMonths_add _ le_rfl, ih]
    cases leap : isLeap (year + 1) <;> simp [isLeap] at leap ⊢ <;> omega

theorem epoch_ordinal : Date.epoch.ordinal = 719163 := by
  have months : Date.epoch.monthsBefore = 12 * 1969 := rfl
  rw [Date.ordinal, months, daysOfMonths_years]
  rfl

/-- The date that comes so many days after the first of January 1970; none is before the year 1. -/
def Date.ofDays (days : Int) : Date := ofOrdinal (max 1 (days + 719163)).toNat (by omega)

theorem Date.sinceEpoch_ofDays (after : -719162 ≤ days) : (Date.ofDays days).sinceEpoch = days := by
  rw [sinceEpoch, ofDays, ordinal_ofOrdinal, epoch_ordinal]
  omega

theorem Date.ofDays_sinceEpoch (date : Date) : Date.ofDays date.sinceEpoch = date := by
  apply ordinal_injective
  have begun := date.ordinal_between.1
  rw [ofDays, ordinal_ofOrdinal, sinceEpoch, epoch_ordinal]
  omega

theorem Date.ordinal_eq (date : Date) : date.ordinal =
    365 * (date.year - 1) + (date.year - 1) / 4 - (date.year - 1) / 100 + (date.year - 1) / 400 +
      [0, 31, 59, 90, 120, 151, 181, 212, 243, 273, 304, 334, 365].getD (date.month - 1) 0 +
      (if 2 ≤ date.month - 1 ∧ isLeap date.year then 1 else 0) + date.day := by
  have named := date.named
  rw [ordinal, monthsBefore, daysOfMonths_add _ (by omega), daysOfMonths_years,
    Nat.sub_add_cancel named.1]

theorem Date.year_le (date : Date) (before : date.sinceEpoch < 2932897) : date.year ≤ 9999 := by
  by_contra late
  have months : 12 * 9999 ≤ date.monthsBefore := by
    unfold monthsBefore
    omega
  have days := daysOfMonths_mono months
  have begun := date.ordinal_between.1
  rw [daysOfMonths_years] at days
  rw [sinceEpoch, epoch_ordinal] at before
  omega

/-- A date by the month and the day of the year that begins in March. -/
theorem Date.of_march (date : Date) : ∃ year doy mp : Nat,
    date.ordinal + 305 = daysOfMonths (12 * year) + doy ∧ doy ≤ 365 ∧
    (doy = 365 → isLeap (year + 1)) ∧ mp = (5 * doy + 2) / 153 ∧
    date.day + (153 * mp + 2) / 5 = doy + 1 ∧
    (mp < 10 ∧ date.year = year ∧ date.month = mp + 3 ∨
      10 ≤ mp ∧ date.year = year + 1 ∧ date.month + 9 = mp) := by
  obtain ⟨year, month, day, ⟨begun, low, high⟩, within⟩ := date
  obtain ⟨year, rfl⟩ := Nat.exists_eq_add_of_le' begun
  by_cases early : 3 ≤ month
  · refine ⟨year + 1, day - 1 + (153 * (month - 3) + 2) / 5, month - 3, ?_, ?_⟩
    · show daysOfMonths (12 * year + (month - 1)) + _ + 305 = daysOfMonths (12 * year + 12) + _
      rw [daysOfMonths_add _ le_rfl, daysOfMonths_add _ (by omega)]
      interval_cases month <;> simp <;> omega
    · interval_cases month <;> simp [monthLength] at within ⊢ <;> omega
  · refine ⟨year, day - 1 + (153 * (month + 9) + 2) / 5, month + 9, ?_, ?_⟩
    · show daysOfMonths (12 * year + (month - 1)) + _ + 305 = _
      rw [daysOfMonths_add _ (by omega)]
      interval_cases month <;> simp <;> omega
    · cases leap : isLeap (year + 1) <;> interval_cases month <;>
        simp [monthLength, leap] at within ⊢ <;> omega

end BigQueryEmulator.Calendar
