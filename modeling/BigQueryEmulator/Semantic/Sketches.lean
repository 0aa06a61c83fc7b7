import BigQueryEmulator.Bits
import BigQueryEmulator.Semantic.Exprs

/-! The HLL_COUNT functions (`hll_funcs.cc`). A sketch is the sorted list of the distinct hashes it
has seen, so a merge is a union of sets. `hash` stands for `Fingerprint2011` and its table of known
vectors. -/
namespace BigQueryEmulator.Semantic
open List Bits Fallible
open Storage (Status)

def kHllMagic : List UInt8 := [0x12, 0xef, 0x7f]

def appendBigEndian64 (value : BitVec 64) : List UInt8 :=
  (range 8).reverse.map fun i => .ofBitVec ((value >>> (8 * i) &&& 0xff#64).setWidth 8)

/-- The inner loop of `ParseSketch`. -/
def readBigEndian64 (bytes : List UInt8) : BitVec 64 :=
  bytes.foldl (fun value byte => value <<< 8 ||| byte.toBitVec.setWidth 64) 0

def parseSketch (bytes : List UInt8) : Except Status (List (BitVec 64)) :=
  let payload := bytes.drop 3
  if bytes.length < 3 ∨ bytes.take 3 ≠ kHllMagic ∨ payload.length % 8 ≠ 0 then
    .error ⟨.invalidArgument, "HLL_COUNT sketch is not in a supported wire format"⟩
  else .ok ((range (payload.length / 8)).map fun i => readBigEndian64 ((payload.drop (8 * i)).take 8))

/-- `std::sort` and `std::unique`. -/
def distinctHashes (hashes : List (BitVec 64)) : List (BitVec 64) :=
  (hashes.insertionSort (· ≤ ·)).destutter (· ≠ ·)

def serializeSketch (hashes : List (BitVec 64)) : List UInt8 :=
  kHllMagic ++ (distinctHashes hashes).flatMap appendBigEndian64

def parseAndValidatePrecision : Option Int → Except Status Int
  | none => .ok 15
  | some precision =>
    if precision < 10 ∨ 24 < precision then
      .error ⟨.invalidArgument, "HLL_COUNT.INIT precision must be in [10, 24]"⟩
    else .ok precision

def hashInputValue (hash : Value → BitVec 64) (v : Value) : Except Status (BitVec 64) :=
  if v.kind = .string ∨ v.kind = .bytes then .ok (hash v)
  else .error ⟨.unimplemented, "HLL_COUNT currently supports STRING and BYTES inputs"⟩

/-- The values that the loops do not skip; one of them sets `saw_non_null`. -/
def nonNull (values : List Value) : List Value := values.filter fun v => !v.isNull

def hllCountInitValues (hash : Value → BitVec 64) (inputValues : List Value)
    (precision : Option Int) : Except Status Value := do
  let _ ← parseAndValidatePrecision precision
  let hashes ← (nonNull inputValues).mapM (hashInputValue hash)
  .ok (if nonNull inputValues = [] then .null .bytes else .bytes (serializeSketch hashes))

def readSketch : Value → Except Status (List (BitVec 64))
  | .bytes bytes => parseSketch bytes
  | _ => .error ⟨.invalidArgument, "HLL_COUNT merge inputs must be BYTES"⟩

def countHashes (hashes : List (BitVec 64)) : Value :=
  .int64 (((distinctHashes hashes).length : Int).bmod (2 ^ 64))

def mergeAggregateImpl (inputColumnValues : List (List Value)) (isPartial : Bool) :
    Except Status Value :=
  match inputColumnValues with
  | [values] => do
    let unionHashes := (← (nonNull values).mapM readSketch).flatten
    .ok (if isPartial then
      if nonNull values = [] then .null .bytes else .bytes (serializeSketch unionHashes)
    else if nonNull values = [] then .int64 0 else countHashes unionHashes)
  | _ => .error ⟨.invalidArgument, if isPartial then "HLL_COUNT.MERGE_PARTIAL expects one argument"
      else "HLL_COUNT.MERGE expects one argument"⟩

def hllCountMergeAggregate (inputColumnValues : List (List Value)) : Except Status Value :=
  mergeAggregateImpl inputColumnValues false

def hllCountMergePartialAggregate (inputColumnValues : List (List Value)) : Except Status Value :=
  mergeAggregateImpl inputColumnValues true

def hllCountExtractScalar : List Value → Except Status Value
  | [.null _] => .ok (.int64 0)
  | [.bytes bytes] => (parseSketch bytes).map countHashes
  | [_] => .error ⟨.invalidArgument, "HLL_COUNT.EXTRACT expects BYTES"⟩
  | _ => .error ⟨.invalidArgument, "HLL_COUNT.EXTRACT expects one argument"⟩

/-! ### A sketch as a set of hashes -/

theorem distinctHashes_spec (hashes : List (BitVec 64)) :
    (distinctHashes hashes).Pairwise (· ≤ ·) ∧ (distinctHashes hashes).Nodup ∧
      ∀ h, h ∈ distinctHashes hashes ↔ h ∈ hashes := by
  have sorted := pairwise_insertionSort (· ≤ ·) hashes
  rw [distinctHashes, sorted.destutter_eq_dedup]
  exact ⟨sorted.sublist (dedup_sublist _), nodup_dedup _, fun h => by simp⟩

theorem distinctHashes_congr (same : ∀ h, h ∈ xs ↔ h ∈ ys) :
    distinctHashes xs = distinctHashes ys := by
  obtain ⟨sorted, nodup, members⟩ := distinctHashes_spec xs
  obtain ⟨sorted', nodup', members'⟩ := distinctHashes_spec ys
  refine Perm.eq_of_pairwise (fun a b _ _ => BitVec.le_antisymm) sorted sorted' ?_
  exact (perm_ext_iff_of_nodup nodup nodup').mpr fun h => by rw [members, members', same]

theorem read_bigEndian64 (value : BitVec 64) : readBigEndian64 (appendBigEndian64 value) = value := by
  apply low_injective
  have bytes : (appendBigEndian64 value).map UInt8.toBitVec =
      (range 8).reverse.map fun i => (value >>> (8 * i)).setWidth 8 := by
    rw [appendBigEndian64, map_map]
    exact map_congr_left fun i _ => setWidth_mask (value >>> (8 * i)) 8
  have folded := low_foldl_shiftIn (0 : BitVec 64) ((appendBigEndian64 value).map UInt8.toBitVec)
    (n := 0) (by simp [appendBigEndian64])
  rw [bytes, flatMap_map, flatMap_low_shifted, ← bytes, foldl_map] at folded
  exact folded

theorem parse_serializeSketch (hashes : List (BitVec 64)) :
    parseSketch (serializeSketch hashes) = .ok (distinctHashes hashes) := by
  have width (value) : (appendBigEndian64 value).length = 8 := by simp [appendBigEndian64]
  have size (hs : List (BitVec 64)) : (hs.flatMap appendBigEndian64).length = 8 * hs.length := by
    simp [length_flatMap, width, Nat.mul_comm]
  have blocks (hs : List (BitVec 64)) : (range hs.length).map (fun i =>
      readBigEndian64 (((hs.flatMap appendBigEndian64).drop (8 * i)).take 8)) = hs := by
    induction hs with
    | nil => rfl
    | cons h rest ih =>
      rw [length_cons, range_succ_eq_map, map_cons, map_map]
      refine congrArg₂ cons ?_ ?_
      · simp [take_left' (width h), read_bigEndian64]
      · refine Eq.trans (map_congr_left fun i _ => ?_) ih
        rw [Function.comp, flatMap_cons, Nat.mul_succ, Nat.add_comm, ← drop_drop,
          drop_left' (width h)]
  have header : (serializeSketch hashes).drop 3 =
      (distinctHashes hashes).flatMap appendBigEndian64 := rfl
  rw [parseSketch, header, size, if_neg (by simp [serializeSketch, kHllMagic]),
    Nat.mul_div_cancel_left _ (by decide), blocks]

/-- The cell of a set of hashes; NULL if there are none. -/
def sketch (hashes : List (BitVec 64)) : Value :=
  if hashes = [] then .null .bytes else .bytes (serializeSketch hashes)

theorem sketch_congr (same : ∀ h, h ∈ xs ↔ h ∈ ys) : sketch xs = sketch ys := by
  have empty : xs = [] ↔ ys = [] := by simp only [eq_nil_iff_forall_not_mem, same]
  simp only [sketch, empty, serializeSketch, distinctHashes_congr same]

theorem extract_sketch (hashes : List (BitVec 64)) :
    hllCountExtractScalar [sketch hashes] = .ok (countHashes hashes) := by
  unfold sketch
  split
  next empty => rw [empty]; rfl
  next =>
    simp only [hllCountExtractScalar, parse_serializeSketch, Except.map, countHashes,
      distinctHashes_congr (distinctHashes_spec hashes).2.2]

variable {hash : Value → BitVec 64} {groups : List (List Value × Value)}

/-- A merge of sketches is the sketch, or the count, of all their hashes. -/
theorem mergeAggregateImpl_sketches (sets : List (List (BitVec 64))) (isPartial : Bool) :
    mergeAggregateImpl [sets.map sketch] isPartial =
      .ok (if isPartial then sketch sets.flatten else countHashes sets.flatten) := by
  let filled := sets.filter (· ≠ [])
  have kept : nonNull (sets.map sketch) = filled.map sketch := by
    rw [nonNull, filter_map]
    refine congrArg _ (filter_congr fun hashes _ => ?_)
    by_cases empty : hashes = [] <;> simp [sketch, empty, Value.isNull]
  have read : (filled.map sketch).mapM readSketch = .ok (filled.map distinctHashes) := by
    rw [mapM_map]
    refine mapM_same fun hashes within => ?_
    have some_ : hashes ≠ [] := by simpa using (mem_filter.mp within).2
    rw [Function.comp, sketch, if_neg some_]
    exact parse_serializeSketch hashes
  have none_ : filled = [] ↔ sets.flatten = [] := by
    simp [filled, filter_eq_nil_iff, flatten_eq_nil_iff]
  have same (h) : h ∈ (filled.map distinctHashes).flatten ↔ h ∈ sets.flatten := by
    simp only [← flatMap_def, mem_flatMap, mem_flatten, distinctHashes_spec, filled, mem_filter]
    exact exists_congr fun hashes => by grind
  simp only [mergeAggregateImpl, kept, bind_of_ok read, map_eq_nil_iff, none_, sketch,
    serializeSketch, countHashes, distinctHashes_congr same]
  by_cases empty : sets.flatten = []
  · simp [empty, distinctHashes]
  · simp [empty]

/-- `cell` is the sketch of the values, each of a supported type. -/
def IsSketch (hash : Value → BitVec 64) (values : List Value) (cell : Value) : Prop :=
  (∀ v ∈ nonNull values, v.kind = .string ∨ v.kind = .bytes) ∧
    cell = sketch ((nonNull values).map hash)

theorem hllCountInitValues_ok_iff : hllCountInitValues hash values precision = .ok cell ↔
    (∃ checked, parseAndValidatePrecision precision = .ok checked) ∧ IsSketch hash values cell := by
  have hashed (supported : ∀ v ∈ nonNull values, v.kind = .string ∨ v.kind = .bytes) :
      (nonNull values).mapM (hashInputValue hash) = .ok ((nonNull values).map hash) :=
    mapM_same fun v within => if_pos (supported v within)
  rw [hllCountInitValues, bind_ok_iff]
  constructor
  · rintro ⟨checked, valid, ok⟩
    obtain ⟨hashes, read, made⟩ := bind_ok_iff.mp ok
    have supported : ∀ v ∈ nonNull values, v.kind = .string ∨ v.kind = .bytes := by
      intro v within
      obtain ⟨h, ok⟩ := mapM_succeeds_iff.mp ⟨hashes, read⟩ v within
      by_contra unsupported
      rw [hashInputValue, if_neg unsupported] at ok
      cases ok
    rw [hashed supported] at read
    cases read
    cases made
    exact ⟨⟨checked, valid⟩, supported, by simp [sketch]⟩
  · rintro ⟨⟨checked, valid⟩, supported, rfl⟩
    exact ⟨checked, valid, bind_ok_iff.mpr ⟨_, hashed supported, by simp [sketch]⟩⟩

/-- The cells that INIT gives for a list of values, and those that MERGE_PARTIAL makes of them. -/
inductive Sketched (hash : Value → BitVec 64) : List Value → Value → Prop
  | init : hllCountInitValues hash values precision = .ok cell → Sketched hash values cell
  | merged {groups : List (List Value × Value)} :
    (∀ group ∈ groups, Sketched hash group.1 group.2) →
      hllCountMergePartialAggregate [groups.map Prod.snd] = .ok cell →
        Sketched hash (groups.flatMap Prod.fst) cell

theorem IsSketch.merge (each : ∀ group ∈ groups, IsSketch hash group.1 group.2) :
    ∃ cell, IsSketch hash (groups.flatMap Prod.fst) cell ∧
      hllCountMergePartialAggregate [groups.map Prod.snd] = .ok cell ∧
      hllCountMergeAggregate [groups.map Prod.snd] = hllCountExtractScalar [cell] := by
  have cells : groups.map Prod.snd =
      (groups.map fun group => (nonNull group.1).map hash).map sketch := by
    rw [map_map]
    exact map_congr_left fun group member => (each group member).2
  have values : (nonNull (groups.flatMap Prod.fst)).map hash =
      (groups.map fun group => (nonNull group.1).map hash).flatten := by
    rw [nonNull, filter_flatMap, map_flatMap, ← flatMap_def]
    rfl
  rw [cells]
  refine ⟨_, ⟨?_, rfl⟩, (mergeAggregateImpl_sketches _ true).trans ?_,
    (mergeAggregateImpl_sketches _ false).trans ?_⟩
  · rw [nonNull, filter_flatMap, forall_mem_flatMap]
    exact fun group member => (each group member).1
  · rw [values, if_pos rfl]
  · rw [values, extract_sketch, if_neg Bool.false_ne_true]

theorem Sketched.isSketch (sketched : Sketched hash values cell) : IsSketch hash values cell := by
  induction sketched with
  | init ok => exact (hllCountInitValues_ok_iff.mp ok).2
  | merged _ ok each =>
    obtain ⟨merged, isSketch, made, -⟩ := IsSketch.merge each
    cases ok.symm.trans made
    exact isSketch

/-- However a list is split into groups, merging their sketches gives the sketch and the count of
the whole list. Merging is commutative, associative and idempotent, and a sketch is read back as the
hashes it was written from. -/
theorem sketches_merge (hash : Value → BitVec 64) (groups : List (List Value × Value))
    (values : List Value) (precision : Option Int)
    (valid : ∃ checked, parseAndValidatePrecision precision = .ok checked)
    (sketched : ∀ group ∈ groups, Sketched hash group.1 group.2)
    (split : (groups.flatMap Prod.fst).Perm values) :
    let mergePartial cells := hllCountMergePartialAggregate [cells]
    (∃ whole count, hllCountInitValues hash values precision = .ok whole ∧
      mergePartial (groups.map Prod.snd) = .ok whole ∧
      hllCountExtractScalar [whole] = .ok (.int64 count) ∧
      hllCountMergeAggregate [groups.map Prod.snd] = .ok (.int64 count)) ∧
    (∀ xs ys zs a b c, Sketched hash xs a → Sketched hash ys b → Sketched hash zs c →
      ∃ ab bc abc, mergePartial [a, b] = .ok ab ∧ mergePartial [b, a] = .ok ab ∧
        mergePartial [b, c] = .ok bc ∧ mergePartial [ab, c] = .ok abc ∧
        mergePartial [a, bc] = .ok abc ∧ mergePartial [a, a] = .ok a) ∧
    ∀ hashes, ∃ sketch, parseSketch (serializeSketch hashes) = .ok sketch ∧
      sketch.Pairwise (· < ·) ∧ ∀ h, h ∈ sketch ↔ h ∈ hashes := by
  refine ⟨?_, ?_, ?_⟩
  · obtain ⟨whole, ⟨supported, rfl⟩, merged, count⟩ :=
      IsSketch.merge fun group member => (sketched group member).isSketch
    have kept : (nonNull (groups.flatMap Prod.fst)).Perm (nonNull values) := split.filter _
    refine ⟨_, _, hllCountInitValues_ok_iff.mpr ⟨valid, fun v within =>
      supported v (kept.mem_iff.mpr within), sketch_congr fun h => ?_⟩, merged, extract_sketch _,
      count.trans (extract_sketch _)⟩
    exact (kept.map hash).mem_iff
  · intro xs ys zs a b c first second third
    obtain ⟨-, rfl⟩ := first.isSketch
    obtain ⟨-, rfl⟩ := second.isSketch
    obtain ⟨-, rfl⟩ := third.isSketch
    have pair (xs ys) : hllCountMergePartialAggregate [[sketch xs, sketch ys]] =
        .ok (sketch (xs ++ ys)) := by
      simpa [hllCountMergePartialAggregate] using mergeAggregateImpl_sketches [xs, ys] true
    refine ⟨_, _, _, pair _ _, (pair _ _).trans (congrArg _ (sketch_congr ?_)), pair _ _, pair _ _,
      (pair _ _).trans (by rw [append_assoc]), (pair _ _).trans (congrArg _ (sketch_congr ?_))⟩
    · simp [or_comm]
    · simp
  · intro hashes
    obtain ⟨sorted, nodup, members⟩ := distinctHashes_spec hashes
    refine ⟨_, parse_serializeSketch hashes, ?_, members⟩
    exact (sorted.and nodup).imp fun ⟨le, ne⟩ => BitVec.lt_of_le_ne le ne

theorem sketches_merge_null_group :
    hllCountMergePartialAggregate [[.bytes (serializeSketch [7]), .null .bytes]] =
      hllCountInitValues (fun _ => 7) [.null .string, .string "a"] none := by
  obtain ⟨⟨_, _, init, merged, _⟩, _⟩ := sketches_merge (fun _ => 7)
    [([.string "a"], .bytes (serializeSketch [7])), ([.null .string], .null .bytes)] _ none
    ⟨15, rfl⟩ (by
      rintro group (_ | ⟨_, _ | ⟨_, ⟨⟩⟩⟩)
      · exact .init (rfl : hllCountInitValues _ _ none = _)
      · exact .init (rfl : hllCountInitValues _ _ none = _)) (.swap ..)
  exact merged.trans init.symm

end BigQueryEmulator.Semantic
