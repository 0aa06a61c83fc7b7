import BigQueryEmulator.Gateway.JobHistories

/-! The pages of `jobs.getQueryResults` (`queries_getresults.go`). -/
namespace BigQueryEmulator.Gateway
open List Fallible
variable {α : Type}

/-- The paging parameters of a request; an empty one is not given. -/
structure PageQuery where
  startIndex : String := ""
  pageToken : String := ""
  maxResults : String := ""

/-- `strconv.ParseUint` to base 10. -/
def parseUint (text : String) : Option Nat :=
  if isDecimalIntString text.toList ∧ Nat.ofDigitChars 10 text.toList 0 < 2 ^ 64 then
    some (Nat.ofDigitChars 10 text.toList 0)
  else none

def parseUintQuery (text : String) (defaultVal : Nat) : Nat :=
  if text = "" then defaultVal else (parseUint text).getD defaultVal

def PageQuery.start (q : PageQuery) : Option Nat :=
  if q.pageToken ≠ "" then parseUint q.pageToken else some (parseUintQuery q.startIndex 0)

def PageQuery.limit (q : PageQuery) : Nat := parseUintQuery q.maxResults 10000

/-- The rows and the next token. The error is a panic. -/
def paginateResults (allRows : List α) (q : PageQuery) : Except String (List α × String) :=
  match q.start with
  | none => .ok ([], "")
  | some start =>
    if q.limit = 0 then .ok ([], "")
    else if allRows.length ≤ start then .ok ([], "")
    else
      let stop := min ((start + q.limit) % 2 ^ 64) allRows.length
      if stop < start then .error "slice bounds out of range"
      else .ok ((allRows.take stop).drop start, if stop < allRows.length then toString stop else "")

theorem parseUint_toString (small : n < 2 ^ 64) : parseUint (toString n) = some n := by
  have digits : (toString n).toList = Nat.toDigits 10 n := Nat.toList_repr
  have number : isDecimalIntString (Nat.toDigits 10 n) = true := by
    simpa [isDecimalIntString, Nat.toDigits_ne_nil] using fun c => Text.isDigit_of_mem_decimal
  rw [parseUint, digits, Nat.ofDigitChars_ten_toDigits, if_pos ⟨number, small⟩]

theorem parseUintQuery_lt (small : n < 2 ^ 64) : parseUintQuery text n < 2 ^ 64 := by
  unfold parseUintQuery parseUint
  split
  · exact small
  split
  next number => exact number.2
  next => exact small

/-- The token of a page, which the first does not have. -/
def pageAt (start : Nat) : String := if start = 0 then "" else toString start

section
variable {rows : List α} (small : rows.length < 2 ^ 63)
include small

/-- A sum that does not fit is less than either of its parts, and the slice panics. -/
theorem paginateResults_eq {q : PageQuery} (given : q.start = some start) :
    paginateResults rows q = if start < rows.length ∧ 2 ^ 64 ≤ start + q.limit then
      .error "slice bounds out of range" else .ok ((rows.drop start).take q.limit,
        pageAt (if 0 < q.limit ∧ start + q.limit < rows.length then start + q.limit else 0)) := by
  have limit : q.limit < 2 ^ 64 := parseUintQuery_lt (by decide)
  unfold paginateResults
  rw [given]
  dsimp only
  split
  next none_asked =>
    rw [if_neg (by omega), if_neg (by omega), none_asked, take_zero]
    rfl
  next asked =>
  split
  next beyond =>
    rw [if_neg (by omega), if_neg (by omega), drop_eq_nil_of_le beyond, take_nil]
    rfl
  next within =>
  by_cases wraps : 2 ^ 64 ≤ start + q.limit
  · rw [if_pos (by omega), if_pos (by omega)]
  rw [Nat.mod_eq_of_lt (by omega), if_neg (by omega : ¬ (start < rows.length ∧ _)), drop_take]
  rcases Nat.lt_or_ge (start + q.limit) rows.length with more | last
  · rw [min_eq_left more.le, if_neg (by omega), if_pos more, if_pos ⟨by omega, more⟩,
      Nat.add_sub_cancel_left, pageAt, if_neg (by omega)]
  · rw [min_eq_right last, if_neg (by omega), if_neg (by omega), if_neg (by omega),
      take_of_length_le (by simp), take_of_length_le (by rw [length_drop]; omega)]
    rfl

theorem page_of_token (within : start = 0 ∨ start < rows.length) (positive : 0 < size)
    (fits : size < 2 ^ 64) :
    paginateResults rows ⟨"", pageAt start, toString size⟩ =
      if start < rows.length ∧ 2 ^ 64 ≤ start + size then .error "slice bounds out of range"
      else .ok ((rows.drop start).take size,
        pageAt (if start + size < rows.length then start + size else 0)) := by
  have given : PageQuery.start ⟨"", pageAt start, toString size⟩ = some start := by
    unfold PageQuery.start pageAt
    by_cases zero : start = 0
    · rw [zero]
      rfl
    · rw [if_neg zero]
      exact (if_pos (Text.toString_int_ne_empty start)).trans (parseUint_toString (by omega))
  have limit : PageQuery.limit ⟨"", pageAt start, toString size⟩ = size := by
    refine (if_neg (Text.toString_int_ne_empty size)).trans ?_
    rw [parseUint_toString fits]
    rfl
  rw [paginateResults_eq small given, limit]
  simp only [positive, true_and]

end

/-- The client asks for page after page, each with its own size, up to the first answer without a
token, and gives up after some rounds. -/
def followTokens (rows : List α) (sizes : Nat → Nat) : Nat → Nat → String → Except String (List α)
  | 0, _, _ => .error "too many pages"
  | rounds + 1, k, token => do
    let (page, next) ← paginateResults rows ⟨"", token, toString (sizes k)⟩
    if next = "" then return page
    (followTokens rows sizes rounds (k + 1) next).map (page ++ ·)

/-- Where the pages begin. -/
def pageOffset (sizes : Nat → Nat) : Nat → Nat
  | 0 => 0
  | k + 1 => pageOffset sizes k + sizes k

section
variable {rows : List α} {sizes : Nat → Nat}

theorem pageOffset_mono : Monotone (pageOffset sizes) :=
  monotone_nat_of_le_succ fun _ => Nat.le_add_right _ _

theorem followTokens_iff (small : rows.length < 2 ^ 63) (positive : ∀ k, 0 < sizes k)
    (fit : ∀ k, sizes k < 2 ^ 64)
    (within : pageOffset sizes k = 0 ∨ pageOffset sizes k < rows.length)
    (enough : rows.length < pageOffset sizes k + rounds) :
    followTokens rows sizes rounds k (pageAt (pageOffset sizes k)) =
        .ok (rows.drop (pageOffset sizes k)) ↔
      ∀ j ≥ k, pageOffset sizes j < rows.length → pageOffset sizes (j + 1) < 2 ^ 64 := by
  induction rounds generalizing k with
  | zero => omega
  | succ rounds ih =>
    have next : pageOffset sizes k + sizes k = pageOffset sizes (k + 1) := rfl
    have later := positive k
    rw [followTokens, page_of_token small within later (fit k), next]
    by_cases wraps : pageOffset sizes k < rows.length ∧ 2 ^ 64 ≤ pageOffset sizes (k + 1)
    · rw [if_pos wraps]
      exact iff_of_false nofun fun fits => absurd (fits k le_rfl wraps.1) (by omega)
    rw [if_neg wraps, bind_of_ok rfl]
    dsimp only
    by_cases more : pageOffset sizes (k + 1) < rows.length
    · have given : pageAt (pageOffset sizes (k + 1)) ≠ "" := by
        rw [pageAt, if_neg (by omega)]
        exact Text.toString_int_ne_empty (pageOffset sizes (k + 1))
      have divided := take_append_drop (sizes k) (rows.drop (pageOffset sizes k))
      rw [drop_drop, next] at divided
      rw [if_pos more, if_neg given, map_ok_iff]
      constructor
      · rintro ⟨rest, followed, same⟩ j after reached
        rw [append_cancel_left (same.trans divided.symm), ih (.inr more) (by omega)] at followed
        rcases eq_or_lt_of_le after with rfl | after
        · omega
        · exact followed j after reached
      · intro fits
        refine ⟨_, (ih (.inr more) (by omega)).mpr fun j after => ?_, divided⟩
        exact fits j (by omega)
    · rw [if_neg more, take_of_length_le (by rw [length_drop]; omega)]
      refine iff_of_true rfl fun j after reached => ?_
      rcases eq_or_lt_of_le after with rfl | after
      · omega
      · exact absurd ((pageOffset_mono after).trans_lt reached) more

/-- A page holds the rows that it should, and the tokens lead once through all rows, exactly if no
sum of a start and a page size leaves the 64 bits. -/
theorem result_pages_iff (rows : List α) (small : rows.length < 2 ^ 63) (q : PageQuery)
    (given : q.start = some start) (sizes : Nat → Nat) (positive : ∀ k, 0 < sizes k)
    (fit : ∀ k, sizes k < 2 ^ 64) :
    ((paginateResults rows q).map Prod.fst = .ok ((rows.drop start).take q.limit) ↔
        (start < rows.length → start + q.limit < 2 ^ 64)) ∧
      (followTokens rows sizes (rows.length + 1) 0 "" = .ok rows ↔
        ∀ k, pageOffset sizes k < rows.length → pageOffset sizes (k + 1) < 2 ^ 64) := by
  constructor
  · rw [paginateResults_eq small given]
    split
    next wraps => exact iff_of_false nofun fun fits => absurd (fits wraps.1) (by omega)
    next fits => exact iff_of_true rfl fun within => by omega
  · have followed : followTokens rows sizes (rows.length + 1) 0 "" = .ok rows ↔ _ :=
      followTokens_iff (k := 0) small positive fit (.inl rfl) (by simp [pageOffset])
    simpa only [ge_iff_le, Nat.zero_le, true_imp_iff] using followed

end

theorem three_rows_followed :
    (paginateResults [1, 2, 3] {}).map Prod.fst = .ok [1, 2, 3] ∧
      followTokens [1, 2, 3] (fun _ => 2) 4 0 "" = .ok [1, 2, 3] := by
  have pages := result_pages_iff [1, 2, 3] (by decide) {} rfl (fun _ => 2)
    (fun _ => by decide) fun _ => by decide
  refine ⟨pages.1.mpr fun _ => by decide, pages.2.mpr fun k reached => ?_⟩
  rw [pageOffset]
  exact (Nat.add_lt_add_right reached 2).trans (by decide)

/-- The second page of two rows, with the largest page size. -/
theorem large_page_panics :
    paginateResults [true, false] ⟨"", "1", "18446744073709551615"⟩ =
      .error "slice bounds out of range" := by decide +kernel

end BigQueryEmulator.Gateway
