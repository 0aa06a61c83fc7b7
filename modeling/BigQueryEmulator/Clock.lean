import BigQueryEmulator.Calendar
import BigQueryEmulator.Text.Numbers

/-! The seconds of the years 1 to 9999 in the texts `YYYY-MM-DD HH:MM:SS`, and what reads them. -/
namespace BigQueryEmulator.Clock
open Calendar Text

def dateText (date : Date) : List Char :=
  padded 4 date.year ++ '-' :: padded 2 date.month ++ '-' :: padded 2 date.day

/-- The second of a day. -/
def timeText (second : Nat) : List Char :=
  padded 2 (second / 3600) ++ ':' :: padded 2 (second / 60 % 60) ++ ':' :: padded 2 (second % 60)

/-- The second that begins so many seconds after 1970. -/
def civil (second : Int) : List Char :=
  dateText (.ofDays (second / 86400)) ++ ' ' :: timeText (second % 86400).toNat

/-- A number of the width at the front of a text, and the rest of the text. -/
def readNumber (width : Nat) (text : List Char) : Option (Nat × List Char) :=
  let digits := text.take width
  if digits.length = width ∧ digits.all Char.isDigit then
    some (Nat.ofDigitChars 10 digits 0, text.drop width)
  else none

/-- Two digits after a mark. -/
def readPair (mark : Char) : List Char → Option (Nat × List Char)
  | c :: text => if c = mark then readNumber 2 text else none
  | [] => none

def readDate (year month day : Nat) : Option Date :=
  if valid : (1 ≤ year ∧ 1 ≤ month ∧ month ≤ 12) ∧ 1 ≤ day ∧ day ≤ monthLength year month then
    some ⟨year, month, day, valid.1, valid.2⟩
  else none

/-- The second that a text begins with, and the rest of the text; a mark is between date and time. -/
def readCivil (mark : Char) (text : List Char) : Option (Int × List Char) := do
  let (year, text) ← readNumber 4 text
  let (month, text) ← readPair '-' text
  let (day, text) ← readPair '-' text
  let (hour, text) ← readPair mark text
  let (minute, text) ← readPair ':' text
  let (second, text) ← readPair ':' text
  let date ← readDate year month day
  if hour < 24 ∧ minute < 60 ∧ second < 60 then
    return (date.sinceEpoch * 86400 + (3600 * hour + 60 * minute + second : Nat), text)
  else none

/-- The digits after a point, in microseconds. -/
def readFraction : List Char → Nat × List Char
  | '.' :: text =>
    (Nat.ofDigitChars 10 ((text.takeWhile Char.isDigit ++ .replicate 6 '0').take 6) 0,
      text.dropWhile Char.isDigit)
  | text => (0, text)

/-- `±HH` or `±HH:MM`, in minutes. -/
def readOffset (text : List Char) : Option Int := do
  let (hours, rest) ← (readPair '+' text).or (readPair '-' text)
  let (minutes, rest) ← if rest = [] then some (0, []) else readPair ':' rest
  if rest = [] then
    return (if text.head? = some '-' then -1 else 1) * (60 * hours + minutes : Nat)
  else none

/-- A second with its fraction and offset, in microseconds. -/
def readZoned (mark : Char) (text : List Char) : Option Int := do
  let (second, text) ← readCivil mark text
  let (fraction, text) := readFraction text
  let minutes ← readOffset text
  return second * 1000000 + fraction - minutes * 60000000

def fractionText : Option Nat → List Char
  | none => []
  | some micros => '.' :: padded 6 micros

theorem text_chars (within : c ∈ civil second ++ fractionText fraction) :
    c.isDigit = true ∨ c ∈ ['-', ' ', ':', '.'] := by
  cases fraction <;>
    simp only [civil, dateText, timeText, fractionText, List.mem_append, List.mem_cons,
      List.not_mem_nil, or_false] at within ⊢ <;>
    grind [isDigit_of_mem_padded]

theorem text_last (second : Int) (fraction : Option Nat) :
    ∀ c ∈ (civil second ++ fractionText fraction).getLast?, c.isDigit = true := by
  have digits : ∃ width n, padded width n <:+ civil second ++ fractionText fraction := by
    cases fraction with
    | none =>
      rw [fractionText, List.append_nil]
      exact ⟨2, _, ((List.suffix_cons ..).trans (List.suffix_append ..)).trans
        ((List.suffix_cons ..).trans (List.suffix_append ..))⟩
    | some micros => exact ⟨6, micros, (List.suffix_cons ..).trans (List.suffix_append ..)⟩
  obtain ⟨width, n, front, same⟩ := digits
  intro c last
  rw [← same, List.getLast?_append_of_ne_nil _ padded_ne_nil] at last
  exact isDigit_of_mem_padded (List.mem_of_getLast? last)

theorem text_head (second : Int) (rest : List Char) :
    ∀ c ∈ (civil second ++ rest).head?, c.isDigit = true := by
  intro c first
  simp only [civil, dateText, List.append_assoc] at first
  rw [List.head?_append_of_ne_nil _ padded_ne_nil] at first
  exact isDigit_of_mem_padded (List.mem_of_head? first)

theorem readNumber_padded (rest : List Char) (fits : n < 10 ^ (width + 1)) :
    readNumber (width + 1) (padded (width + 1) n ++ rest) = some (n, rest) := by
  have length := length_padded fits
  rw [readNumber, List.take_left' length, List.drop_left' length, ofDigitChars_padded]
  exact if_pos ⟨length, List.all_eq_true.mpr fun _ => isDigit_of_mem_padded⟩

theorem readPair_padded (mark : Char) (rest : List Char) (fits : n < 100) :
    readPair mark (mark :: (padded 2 n ++ rest)) = some (n, rest) :=
  (if_pos rfl).trans (readNumber_padded rest fits)

theorem date_short (date : Date) : date.month < 100 ∧ date.day < 100 := by
  have month := date.named.2.2
  have day : monthLength date.year date.month ≤ 31 := by
    unfold monthLength
    repeat' split
    all_goals decide
  have within := date.within.2
  omega

theorem readCivil_text (date : Date) (last : date.year ≤ 9999) (within : second < 86400)
    (rest : List Char) :
    readCivil ' ' (dateText date ++ ' ' :: timeText second ++ rest) =
      some (date.sinceEpoch * 86400 + second, rest) := by
  obtain ⟨month, day⟩ := date_short date
  have known : readDate date.year date.month date.day = some date :=
    dif_pos ⟨date.named, date.within⟩
  have clock : second / 3600 < 24 ∧ second / 60 % 60 < 60 ∧ second % 60 < 60 := by omega
  have total : 3600 * (second / 3600) + 60 * (second / 60 % 60) + second % 60 = second := by omega
  rw [readCivil, dateText, timeText]
  simp only [List.append_assoc, List.cons_append]
  rw [readNumber_padded _ (by omega)]
  simp (disch := omega) only [readPair_padded, Option.bind_eq_bind, Option.bind_some, known, clock,
    and_self, if_true, total]
  rfl

theorem readCivil_marked (marked : mark ≠ ' ') (date : Date) (last : date.year ≤ 9999)
    (rest : List Char) : readCivil mark (dateText date ++ ' ' :: rest) = none := by
  obtain ⟨month, day⟩ := date_short date
  have other : readPair mark (' ' :: rest) = none := if_neg (Ne.symm marked)
  rw [readCivil, dateText]
  simp only [List.append_assoc, List.cons_append]
  rw [readNumber_padded _ (by omega)]
  simp (disch := omega) only [readPair_padded, Option.bind_eq_bind, Option.bind_some, other,
    Option.bind_none]

theorem readFraction_text (small : ∀ f ∈ fraction, f < 1000000)
    (ends : ∀ c ∈ rest.head?, c.isDigit = false ∧ c ≠ '.') :
    readFraction (fractionText fraction ++ rest) = (fraction.getD 0, rest) := by
  have digits : rest.takeWhile Char.isDigit = [] ∧ rest.dropWhile Char.isDigit = rest := by
    cases rest with
    | nil => exact ⟨rfl, rfl⟩
    | cons c rest => simp [(ends c rfl).1]
  cases fraction with
  | none =>
    rw [fractionText, List.nil_append, readFraction.eq_def]
    split
    next text => exact absurd rfl (ends '.' rfl).2
    next => rfl
  | some micros =>
    have all : ∀ c ∈ padded 6 micros, c.isDigit = true := fun _ => isDigit_of_mem_padded
    rw [fractionText, List.cons_append, readFraction, List.takeWhile_append_of_pos all,
      List.dropWhile_append_of_pos all, digits.1, digits.2, List.append_nil,
      List.take_left' (length_padded (small micros rfl)), ofDigitChars_padded]
    rfl

section
variable {second : Int} (after : -62135596800 ≤ second) (before : second < 253402300800)
include after before

theorem date_within : (Date.ofDays (second / 86400)).sinceEpoch = second / 86400 ∧
    (Date.ofDays (second / 86400)).year ≤ 9999 := by
  have days : (Date.ofDays (second / 86400)).sinceEpoch = second / 86400 :=
    Date.sinceEpoch_ofDays (by omega)
  exact ⟨days, Date.year_le _ (by omega)⟩

/-- What `civil` prints is read back. -/
theorem readCivil_civil (rest : List Char) :
    readCivil ' ' (civil second ++ rest) = some (second, rest) := by
  obtain ⟨days, last⟩ := date_within after before
  rw [civil, readCivil_text _ last (by omega), days]
  simp only [Option.some.injEq, Prod.mk.injEq, and_true]
  omega

theorem readZoned_marked (marked : mark ≠ ' ') (rest : List Char) :
    readZoned mark (civil second ++ rest) = none := by
  rw [readZoned, civil, List.append_assoc, List.cons_append,
    readCivil_marked marked _ (date_within after before).2]
  rfl

theorem readZoned_civil (small : ∀ f ∈ fraction, f < 1000000) (zero : readOffset offset = some 0)
    (ends : ∀ c ∈ offset.head?, c.isDigit = false ∧ c ≠ '.') :
    readZoned ' ' (civil second ++ fractionText fraction ++ offset) =
      some (second * 1000000 + fraction.getD 0) := by
  rw [readZoned, List.append_assoc, readCivil_civil after before]
  simp only [Option.bind_eq_bind, Option.bind_some, readFraction_text small ends, zero]
  simp

end

end BigQueryEmulator.Clock
