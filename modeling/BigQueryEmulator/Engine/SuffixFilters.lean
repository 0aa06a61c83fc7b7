import BigQueryEmulator.Engine.Dispositions
import BigQueryEmulator.Engine.FastPath

/-! The tables of a wildcard that a query reads (`wildcard_table_suffix_filter.cc`): the suffixes
that a filter allows are taken from its text and kept by table. -/
namespace BigQueryEmulator.Engine

/-- A resolved filter. `suffixRef` is a reference to a column of the name `_TABLE_SUFFIX`, of the
scan below the filter or of an outer query; `string` and `strings` are literals. -/
inductive FilterExpr where
  | suffixRef (own : Bool)
  | string (text : String)
  | strings (elements : List (Option String))
  | call (fn : String) (args : List FilterExpr)
  | other

def extractFromEqualCall : List FilterExpr → Option (List String)
  | [.suffixRef _, .string text] | [.string text, .suffixRef _] => some [text]
  | _ => none

def extractFromInCall : List FilterExpr → Option (List String)
  | [.suffixRef _, .strings elements] =>
    if elements.all Option.isSome then some (elements.filterMap id) else none
  | _ => none

def extractFromBetweenCall : List FilterExpr → Option (List String)
  | [.suffixRef _, .string low, .string high] => some [low, high]
  | _ => none

def intersectAllowLists (a b : List String) : List String := a.filter (· ∈ b)

mutual

def extractFromExpr : FilterExpr → Option (List String)
  | .call fn args =>
    if asciiStrToLower fn = "$equal" then extractFromEqualCall args
    else if asciiStrToLower fn = "$in" then extractFromInCall args
    else if asciiStrToLower fn = "$between" then extractFromBetweenCall args
    else if asciiStrToLower fn = "$and" then extractFromConjuncts none args
    else none
  | _ => none

def extractFromConjuncts (acc : Option (List String)) : List FilterExpr → Option (List String)
  | [] => acc
  | expr :: rest =>
    match extractFromExpr expr, acc with
    | none, _ => none
    | some part, none => extractFromConjuncts (some part) rest
    | some part, some list =>
      let both := intersectAllowLists list part
      if both.isEmpty then some both else extractFromConjuncts (some both) rest

end

/-- Two suffixes in their order stand for all between them, wherever they come from. -/
def suffixMatchesAllowList (suffix : String) : List String → Bool
  | [] => false
  | [low, high] =>
    if low ≤ high then decide (low ≤ suffix ∧ suffix ≤ high) else suffix ∈ [low, high]
  | allowlist => suffix ∈ allowlist

/-- What DuckDB's TRUE says of a filter, on a row of the table with the suffix. -/
structure Evaluates (isTrue : FilterExpr → Prop) (suffix : String) : Prop where
  conjuncts : ∀ fn args, asciiStrToLower fn = "$and" → isTrue (.call fn args) →
    ∀ arg ∈ args, isTrue arg
  equal : ∀ fn text, asciiStrToLower fn = "$equal" →
    isTrue (.call fn [.suffixRef true, .string text]) ∨
      isTrue (.call fn [.string text, .suffixRef true]) → suffix = text
  among : ∀ fn elements, asciiStrToLower fn = "$in" →
    isTrue (.call fn [.suffixRef true, .strings elements]) → some suffix ∈ elements
  between : ∀ fn low high, asciiStrToLower fn = "$between" →
    isTrue (.call fn [.suffixRef true, .string low, .string high]) → low ≤ suffix ∧ suffix ≤ high

/-- The strings of a comparison with `_TABLE_SUFFIX`: of a BETWEEN, its bounds. -/
def comparisonStrings (fn : String) (args : List FilterExpr) : Option (List String) :=
  if asciiStrToLower fn = "$equal" then extractFromEqualCall args
  else if asciiStrToLower fn = "$in" then extractFromInCall args
  else if asciiStrToLower fn = "$between" then extractFromBetweenCall args
  else none

namespace FilterExpr

mutual

/-- The string is one of every conjunct. -/
def names (text : String) : FilterExpr → Bool
  | .call fn args =>
    if asciiStrToLower fn = "$and" then !args.isEmpty && allName text args
    else text ∈ (comparisonStrings fn args).getD []
  | _ => false

def allName (text : String) : List FilterExpr → Bool
  | [] => true
  | expr :: rest => expr.names text && allName text rest

end

mutual

/-- The strings of the first conjunct. -/
def leading : FilterExpr → List String
  | .call fn args =>
    if asciiStrToLower fn = "$and" then leadingOf args else (comparisonStrings fn args).getD []
  | _ => []

def leadingOf : List FilterExpr → List String
  | [] => []
  | first :: _ => first.leading

end

/-- The strings that all conjuncts have in common. -/
def common (filter : FilterExpr) : List String := filter.leading.filter (filter.names ·)

/-- The suffix is one of the common strings, or between them where they are two. -/
def Allows (filter : FilterExpr) (suffix : String) : Prop :=
  suffix ∈ filter.common ∨
    ∃ low high, filter.common = [low, high] ∧ low ≤ suffix ∧ suffix ≤ high

mutual

/-- The comparisons are no BETWEEN, and not with the suffix of an outer query. -/
def plain : FilterExpr → Bool
  | .call fn args =>
    if asciiStrToLower fn = "$and" then allPlain args
    else asciiStrToLower fn ≠ "$between" ∧ !args.any fun
      | .suffixRef own => !own
      | _ => false
  | _ => true

def allPlain : List FilterExpr → Bool
  | [] => true
  | expr :: rest => expr.plain && allPlain rest

end

/-- All suffixes for which the filter is TRUE are allowed: it is plain, or a BETWEEN and no more. -/
def Simple (filter : FilterExpr) : Prop :=
  filter.plain = true ∨ ∃ fn low high, asciiStrToLower fn = "$between" ∧
    filter = .call fn [.suffixRef true, .string low, .string high]

mutual

theorem mem_leading : ∀ filter : FilterExpr, filter.names text = true → text ∈ filter.leading
  | .call fn args, named => by
    simp only [names, leading] at named ⊢
    split at named
    next conjunction =>
      rw [if_pos conjunction]
      exact mem_leadingOf args named
    next comparison =>
      rw [if_neg comparison]
      exact of_decide_eq_true named
  | .suffixRef _, named | .string _, named | .strings _, named | .other, named => by cases named

theorem mem_leadingOf : ∀ args : List FilterExpr, (!args.isEmpty && allName text args) = true →
    text ∈ leadingOf args
  | [], named => by cases named
  | first :: rest, named => mem_leading first (by
      simp only [allName, Bool.and_eq_true] at named
      exact named.2.1)

end

theorem mem_common {filter : FilterExpr} : text ∈ filter.common ↔ filter.names text = true :=
  List.mem_filter.trans (and_iff_right_of_imp (mem_leading filter))

end FilterExpr

theorem extractFromExpr_call (fn : String) (args : List FilterExpr) :
    extractFromExpr (.call fn args) =
      if asciiStrToLower fn = "$and" then extractFromConjuncts none args
      else comparisonStrings fn args := by
  rw [extractFromExpr, comparisonStrings]
  by_cases conjunction : asciiStrToLower fn = "$and"
  · rw [conjunction]
    rfl
  · rw [if_neg conjunction, if_neg conjunction]

mutual

theorem extractFromExpr_common : ∀ (filter : FilterExpr) (list : List String),
    extractFromExpr filter = some list → list = filter.common
  | .call fn args, list, listed => by
    rw [extractFromExpr_call] at listed
    simp only [FilterExpr.common, FilterExpr.leading, FilterExpr.names]
    split at listed
    next conjunction =>
      simp only [if_pos conjunction]
      cases args with
      | nil => cases listed
      | cons first rest =>
        cases found : extractFromExpr first with
        | none => simp [extractFromConjuncts, found] at listed
        | some part =>
          have others : extractFromConjuncts (some part) rest = some list := by
            simpa only [extractFromConjuncts, found] using listed
          rw [extractFromConjuncts_common rest part list others,
            extractFromExpr_common first part found, FilterExpr.common, List.filter_filter]
          simp [FilterExpr.allName, FilterExpr.leadingOf, Bool.and_comm]
    next comparison =>
      simp only [if_neg comparison, listed, Option.getD_some]
      exact (List.filter_eq_self.mpr fun text within => decide_eq_true within).symm
  | .suffixRef _, _, listed | .string _, _, listed | .strings _, _, listed | .other, _, listed => by
    cases listed

theorem extractFromConjuncts_common : ∀ (args : List FilterExpr) (sofar list : List String),
    extractFromConjuncts (some sofar) args = some list →
      list = sofar.filter (FilterExpr.allName · args)
  | [], sofar, list, listed => by
    cases listed
    simp [FilterExpr.allName]
  | expr :: rest, sofar, list, listed => by
    cases found : extractFromExpr expr with
    | none => simp [extractFromConjuncts, found] at listed
    | some part =>
      have both : intersectAllowLists sofar part = sofar.filter (expr.names ·) := by
        refine List.filter_congr fun text _ => ?_
        rw [extractFromExpr_common expr part found, Bool.eq_iff_iff, decide_eq_true_iff,
          FilterExpr.mem_common]
      have later : (sofar.filter (expr.names ·)).filter (FilterExpr.allName · rest) =
          sofar.filter (FilterExpr.allName · (expr :: rest)) := by
        simp only [List.filter_filter, FilterExpr.allName, Bool.and_comm]
      simp only [extractFromConjuncts, found, both] at listed
      rw [← later]
      split at listed
      next empty =>
        cases listed
        rw [List.isEmpty_iff.mp empty]
        rfl
      next => exact extractFromConjuncts_common rest _ list listed

end

namespace Evaluates
variable {isTrue : FilterExpr → Prop} {suffix : String}

theorem mem_comparison (laws : Evaluates isTrue suffix) (holds : isTrue (.call fn args))
    (other : asciiStrToLower fn ≠ "$and")
    (plain : (FilterExpr.call fn args).plain = true)
    (listed : comparisonStrings fn args = some list) : suffix ∈ list := by
  simp only [FilterExpr.plain, if_neg other, Bool.decide_and, Bool.and_eq_true] at plain
  obtain ⟨single, own⟩ := plain
  unfold comparisonStrings at listed
  split at listed
  next word =>
    unfold extractFromEqualCall at listed
    split at listed
    next mine text =>
      cases listed
      obtain rfl : mine = true := by simpa using own
      exact List.mem_singleton.mpr (laws.equal fn text word (.inl holds))
    next text mine =>
      cases listed
      obtain rfl : mine = true := by simpa using own
      exact List.mem_singleton.mpr (laws.equal fn text word (.inr holds))
    next => cases listed
  split at listed
  next word =>
    unfold extractFromInCall at listed
    split at listed
    next mine elements =>
      obtain rfl : mine = true := by simpa using own
      split at listed
      · cases listed
        exact List.mem_filterMap.mpr ⟨some suffix, laws.among fn elements word holds, rfl⟩
      · cases listed
    next => cases listed
  rw [if_neg (of_decide_eq_true single)] at listed
  cases listed

mutual

/-- Without BETWEEN, the list has every suffix for which the filter is TRUE. -/
theorem mem_extracted (laws : Evaluates isTrue suffix) : ∀ filter list, filter.plain = true → isTrue filter →
    extractFromExpr filter = some list → suffix ∈ list
  | .call fn args, list, plain, holds, listed => by
    rw [extractFromExpr_call] at listed
    split at listed
    next conjunction =>
      have all : FilterExpr.allPlain args = true := by
        simpa only [FilterExpr.plain, if_pos conjunction] using plain
      exact laws.mem_conjuncts args none list all (laws.conjuncts fn args conjunction holds) nofun listed
    next other => exact laws.mem_comparison holds other plain listed
  | .suffixRef _, _, _, _, listed | .string _, _, _, _, listed | .strings _, _, _, _, listed
  | .other, _, _, _, listed => by cases listed

theorem mem_conjuncts (laws : Evaluates isTrue suffix) : ∀ args sofar list, FilterExpr.allPlain args = true →
    (∀ arg ∈ args, isTrue arg) → (∀ strings, sofar = some strings → suffix ∈ strings) →
    extractFromConjuncts sofar args = some list → suffix ∈ list
  | [], sofar, list, _, _, begun, listed => begun list (by simpa [extractFromConjuncts])
  | expr :: rest, sofar, list, plain, holds, begun, listed => by
    simp only [FilterExpr.allPlain, Bool.and_eq_true] at plain
    rw [List.forall_mem_cons] at holds
    cases found : extractFromExpr expr with
    | none => simp [extractFromConjuncts, found] at listed
    | some part =>
      have here := laws.mem_extracted expr part plain.1 holds.1 found
      cases sofar with
      | none =>
        refine laws.mem_conjuncts rest (some part) list plain.2 holds.2 ?_
          (by simpa only [extractFromConjuncts, found] using listed)
        rintro _ ⟨⟩
        exact here
      | some strings =>
        have both : suffix ∈ intersectAllowLists strings part :=
          List.mem_filter.mpr ⟨begun strings rfl, decide_eq_true here⟩
        have given : ¬ (intersectAllowLists strings part).isEmpty = true := by
          rw [List.isEmpty_iff]
          exact List.ne_nil_of_mem both
        refine laws.mem_conjuncts rest (some (intersectAllowLists strings part)) list plain.2 holds.2 ?_
          (by simpa only [extractFromConjuncts, found, if_neg given] using listed)
        rintro _ ⟨⟩
        exact both

end

theorem allows_of_simple {filter : FilterExpr} (laws : Evaluates isTrue suffix) (simple : filter.Simple)
    (listed : extractFromExpr filter = some list) (holds : isTrue filter) :
    filter.Allows suffix := by
  have common := extractFromExpr_common filter list listed
  rcases simple with plain | ⟨fn, low, high, word, rfl⟩
  · exact .inl (common ▸ laws.mem_extracted filter list plain holds listed)
  · obtain rfl : list = [low, high] := by
      simpa [extractFromExpr_call, comparisonStrings, word, extractFromBetweenCall, eq_comm]
        using listed
    exact .inr ⟨low, high, common.symm, laws.between fn low high word holds⟩

end Evaluates

theorem suffixMatchesAllowList_iff : suffixMatchesAllowList suffix list = true ↔
    suffix ∈ list ∨ ∃ low high, list = [low, high] ∧ low ≤ suffix ∧ suffix ≤ high := by
  unfold suffixMatchesAllowList
  split
  next => simp
  next low high =>
    have between : (∃ low' high', [low, high] = [low', high'] ∧ low' ≤ suffix ∧ suffix ≤ high') ↔
        low ≤ suffix ∧ suffix ≤ high :=
      ⟨fun ⟨_, _, same, within⟩ => by cases same; exact within, fun within => ⟨_, _, rfl, within⟩⟩
    rw [between]
    split
    next ordered =>
      rw [decide_eq_true_iff]
      refine (or_iff_right_of_imp fun within => ?_).symm
      have either : suffix = low ∨ suffix = high := by simpa using within
      rcases either with rfl | rfl <;> simpa using ordered
    next disordered =>
      rw [decide_eq_true_iff]
      exact (or_iff_left fun ⟨above, below⟩ => disordered (String.le_trans above below)).symm
  next other =>
    rw [decide_eq_true_iff]
    refine (or_iff_left ?_).symm
    rintro ⟨low, high, rfl, -⟩
    exact other low high rfl

/-- A scan of a query, with the filter right above it. -/
structure FilteredScan where
  scan : TableScan
  filter : Option FilterExpr

/-- The suffix can be one of a row for which the filter, if there is one, is TRUE. -/
def FilteredScan.Admits (each : FilteredScan) (canBeTrue : FilterExpr → String → Prop)
    (suffix : String) : Prop :=
  ∀ filter, each.filter = some filter → canBeTrue filter suffix

/-- The filter of a scan of the table from which a list is extracted. -/
def FilteredScan.listing (table : Pointer) (each : FilteredScan) : Option FilterExpr :=
  if each.scan.table = table then each.filter.filter fun filter => (extractFromExpr filter).isSome
  else none

namespace TableScanCollector

/-- `VisitResolvedFilterScan` at the scans of a query, in the order in which they are visited. -/
def visitFilters (scans : List FilteredScan) (collector : TableScanCollector) :
    TableScanCollector :=
  scans.foldl (fun collector each =>
    collector.allowSuffixes (each.filter.bind extractFromExpr) (.tableScan each.scan)) collector

/-- A scan of the table reads the matched table with the suffix. -/
def readsSuffix (collector : TableScanCollector) (table : Pointer) (suffix : String) : Bool :=
  match collector.wildcardSuffixAllowlists table with
  | none => true
  | some allowed => suffixMatchesAllowList suffix allowed

theorem visitFilters_last (scans : List FilteredScan) (table : Pointer) :
    (visitFilters scans {}).wildcardSuffixAllowlists table =
      (scans.filterMap (FilteredScan.listing table)).getLast?.map FilterExpr.common := by
  induction scans using List.reverseRecOn with
  | nil => rfl
  | append_singleton before each ih =>
    have step : visitFilters (before ++ [each]) {} = (visitFilters before {}).allowSuffixes
        (each.filter.bind extractFromExpr) (.tableScan each.scan) := by
      rw [visitFilters, List.foldl_append]
      rfl
    rw [step, List.filterMap_append]
    by_cases same : each.scan.table = table
    · cases extracted : each.filter.bind extractFromExpr with
      | none =>
        have absent : each.listing table = none := by
          rw [FilteredScan.listing, if_pos same, Option.filter_eq_none_iff]
          intro filter above
          simp [Option.bind_eq_none_iff.mp extracted filter above]
        simpa [allowSuffixes, absent] using ih
      | some list =>
        obtain ⟨filter, above, found⟩ := Option.bind_eq_some_iff.mp extracted
        have listing : each.listing table = some filter := by
          simp [FilteredScan.listing, same, above, found]
        simp [allowSuffixes, same, listing, extractFromExpr_common filter list found]
    · have absent : each.listing table = none := if_neg same
      have kept (suffixes) : ((visitFilters before {}).allowSuffixes suffixes
          (.tableScan each.scan)).wildcardSuffixAllowlists table =
          (visitFilters before {}).wildcardSuffixAllowlists table := by
        cases suffixes with
        | none => rfl
        | some suffixes => exact if_neg (Ne.symm same)
      rw [kept, ih]
      simp [absent]

theorem readsSuffix_iff {scans : List FilteredScan} {table : Pointer} {suffix : String} :
    (visitFilters scans {}).readsSuffix table suffix = true ↔
      ∀ last, (scans.filterMap (FilteredScan.listing table)).getLast? = some last →
        last.Allows suffix := by
  rw [readsSuffix, visitFilters_last]
  cases (scans.filterMap (FilteredScan.listing table)).getLast? with
  | none => simp
  | some last => simpa [FilterExpr.Allows] using suffixMatchesAllowList_iff

/-- Every scan of the table reads the tables of all suffixes for which its filter can be TRUE,
exactly if the last filter with a list is a simple one and the scan's own, or allows them. -/
theorem suffixes_read_iff {canBeTrue : FilterExpr → String → Prop}
    (laws : ∀ suffix, Evaluates (canBeTrue · suffix) suffix) (scans : List FilteredScan)
    (table : Pointer) (matched : Set String) :
    (∀ each ∈ scans, each.scan.table = table → ∀ suffix ∈ matched, each.Admits canBeTrue suffix →
        (visitFilters scans {}).readsSuffix table suffix = true) ↔
      ∀ last, (scans.filterMap (FilteredScan.listing table)).getLast? = some last →
        ∀ each ∈ scans, each.scan.table = table → ∀ suffix ∈ matched,
          each.Admits canBeTrue suffix → each.filter = some last ∧ last.Simple ∨
            last.Allows suffix := by
  simp only [readsSuffix_iff]
  constructor
  · exact fun read last found each within of suffix among admits =>
      .inr (read each within of suffix among admits last found)
  · intro allowed each within of suffix among admits last found
    rcases allowed last found each within of suffix among admits with ⟨above, simple⟩ | allows
    · obtain ⟨other, -, listing⟩ := List.mem_filterMap.mp (List.mem_of_getLast? found)
      have extracted : (extractFromExpr last).isSome = true := by
        unfold FilteredScan.listing at listing
        split at listing
        · exact (Option.filter_eq_some_iff.mp listing).2
        · cases listing
      obtain ⟨list, listed⟩ := Option.isSome_iff_exists.mp extracted
      exact (laws suffix).allows_of_simple simple listed (admits last above)
    · exact allows

end TableScanCollector

mutual

/-- The comparisons with the suffix of the scan, where everything else is TRUE. -/
def trueFor (suffix : String) : FilterExpr → Bool
  | .call fn args =>
    if asciiStrToLower fn = "$and" then allTrueFor suffix args
    else
      match args with
      | [.suffixRef true, .string text] | [.string text, .suffixRef true] =>
        asciiStrToLower fn ≠ "$equal" ∨ suffix = text
      | [.suffixRef true, .strings elements] =>
        asciiStrToLower fn ≠ "$in" ∨ some suffix ∈ elements
      | [.suffixRef true, .string low, .string high] =>
        asciiStrToLower fn ≠ "$between" ∨ low ≤ suffix ∧ suffix ≤ high
      | _ => true
  | _ => true

def allTrueFor (suffix : String) : List FilterExpr → Bool
  | [] => true
  | expr :: rest => trueFor suffix expr && allTrueFor suffix rest

end

theorem trueFor_of_all (all : allTrueFor suffix args = true) :
    ∀ arg ∈ args, trueFor suffix arg = true := by
  induction args with
  | nil => nofun
  | cons expr rest ih =>
    simp only [allTrueFor, Bool.and_eq_true] at all
    exact List.forall_mem_cons.mpr ⟨all.1, ih all.2⟩

theorem trueFor_evaluates (suffix : String) : Evaluates (trueFor suffix · = true) suffix where
  conjuncts fn args word holds := trueFor_of_all (by simpa [trueFor, word] using holds)
  equal fn text word := by simp [trueFor, word]
  among fn elements word := by simp [trueFor, word]
  between fn low high word := by simp [trueFor, word]

/-- `_TABLE_SUFFIX = 'b'` -/
def isB : FilterExpr := .call "$equal" [.suffixRef true, .string "b"]

/-- `_TABLE_SUFFIX BETWEEN 'a' AND 'c'` -/
def fromAToC : FilterExpr := .call "$between" [.suffixRef true, .string "a", .string "c"]

/-- Two scans of a wildcard, the second with `_TABLE_SUFFIX = 'b' AND x > 1`. -/
def rangeAndB : List FilteredScan :=
  [⟨⟨0, [], .ok none⟩, some fromAToC⟩, ⟨⟨0, [], .ok none⟩, some (.call "$and" [isB, .other])⟩]

theorem range_read : trueFor "b" fromAToC = true ∧
    ∀ each ∈ rangeAndB, each.scan.table = 0 → ∀ suffix ∈ Set.univ,
      each.Admits (fun filter suffix => trueFor suffix filter = true) suffix →
        (TableScanCollector.visitFilters rangeAndB {}).readsSuffix 0 suffix = true := by
  refine ⟨by decide,
    (TableScanCollector.suffixes_read_iff trueFor_evaluates rangeAndB 0 Set.univ).mpr ?_⟩
  intro last found each within of suffix among admits
  cases found
  rcases within with _ | ⟨_, _ | ⟨_, ⟨⟩⟩⟩
  · exact .inl ⟨rfl, .inr ⟨_, _, _, by decide, rfl⟩⟩
  · have named : trueFor suffix isB = true :=
      trueFor_of_all (admits _ rfl) isB (.head _)
    obtain rfl := (trueFor_evaluates suffix).equal "$equal" "b" (by decide) (.inl named)
    exact .inr (.inr ⟨"a", "c", rfl, by decide, by decide⟩)

theorem suffix_in_range_dropped :
    trueFor "b" (.call "$and" [fromAToC, isB]) = true ∧
      (TableScanCollector.visitFilters
        [⟨⟨0, [], .ok none⟩, some (.call "$and" [fromAToC, isB])⟩] {}).readsSuffix 0 "b" = false := by
  decide

end BigQueryEmulator.Engine
