import BigQueryEmulator.Semantic.Exprs
import BigQueryEmulator.Sorting

/-! ORDER BY scans (`scan_eval_scan_impl.cc`): the comparison of rows, and where the sort by it is
the stable sort under the order of SQL. -/
namespace BigQueryEmulator.Semantic
open Storage (Status)
open Std Sorting List OrderByItem
open Value (isNaN canon isNull)

def OrderByItem.valueIn (item : OrderByItem) (row : ColumnBindings) : Value :=
  (row item.ref.column.id).getD (.null item.ref.column.kind)

def asciiLower (text : String) : String := String.ofList (text.toList.map Char.toLower)

/-- `AsciiStrToLower(a) < AsciiStrToLower(b)`. -/
def lowerLess (a b : String) : Bool := (compare (asciiLower a) (asciiLower b)).isLT

def OrderByItem.isCaseInsensitive (item : OrderByItem) : Bool := item.collationName = some "und:ci"

/-- Descending order is the negation of `<`. -/
def OrderByItem.directed (item : OrderByItem) (less : Bool) : Bool :=
  if item.isDescending then !less else less

def compareOrderByItemValues (print : Value → String) (item : OrderByItem) (a b : Value) : Bool :=
  if valueEqual a b then false
  else if a.isNull || b.isNull then
    if a.isNull && b.isNull then false
    else if a.isNull then item.nullsFirst
    else !item.nullsFirst
  else
    match a, b with
    | .string x, .string y =>
      if item.isCaseInsensitive then item.directed (lowerLess x y)
      else item.directed (valueLess print a b)
    | _, _ => item.directed (valueLess print a b)

def orderByScanRowLess (print : Value → String) : List OrderByItem → ColumnBindings → ColumnBindings → Bool
  | [], _, _ => false
  | item :: rest, a, b =>
    if valueEqual (item.valueIn a) (item.valueIn b) then orderByScanRowLess print rest a b
    else compareOrderByItemValues print item (item.valueIn a) (item.valueIn b)

def materializeOrderByScanRows (print : Value → String) (items : List OrderByItem)
    (input : Except Status (List ColumnBindings)) : Except Status (List ColumnBindings) :=
  input.map (stableSort (orderByScanRowLess print items))

namespace Value

def isOrderable : Value → Bool
  | .scalar kind _ =>
    match kind with
    | .int32 | .uint32 | .uint64 | .date | .timestamp | .time | .datetime | .numeric
    | .bignumeric | .range | .uuid => true
    | _ => false
  | .other _ _ => false
  | _ => true

/-- The place of a number, NaN before all others. -/
def sqlNumber : Value → Int
  | .bool value => if value then 1 else 0
  | .int64 value => value
  | .double bits => if isNaN bits then -2 ^ 64 else doubleRank bits
  | .scalar _ number => number
  | .interval months days nanos => intervalAmount months days nanos
  | _ => 0

def sqlText : Value → String
  | .string value => value
  | _ => ""

def sqlBytes : Value → List UInt8
  | .bytes value => value
  | _ => []

/-- The order of the values of one type. -/
def sqlCompare : Value → Value → Ordering :=
  compareLex (compareOn sqlNumber) (compareLex (compareOn sqlText) (compareOn sqlBytes))

def collated (collate : String → String) : Value → Value
  | .string value => .string (collate value)
  | value => value

end Value

namespace OrderByItem

def nullPlace (item : OrderByItem) (value : Value) : Nat :=
  if value.isNull then if item.nullsFirst then 0 else 2 else 1

/-- `collate` gives the collation key of `und:ci`. -/
def sqlKey (item : OrderByItem) (collate : String → String) (value : Value) : Value :=
  if item.isCaseInsensitive then value.collated collate else value

def sqlDirected (item : OrderByItem) (cmp : Value → Value → Ordering) (a b : Value) : Ordering :=
  if item.isDescending then cmp b a else cmp a b

def sqlCompare (item : OrderByItem) (collate : String → String) : Value → Value → Ordering :=
  compareLex (compareOn item.nullPlace) (item.sqlDirected fun a b =>
    (item.sqlKey collate a).sqlCompare (item.sqlKey collate b))

end OrderByItem

/-- The order of SQL: rows equal on one key are decided by the next. -/
def rowCompare (collate : String → String) : List OrderByItem → ColumnBindings → ColumnBindings → Ordering
  | [], _, _ => .eq
  | item :: rest, a, b =>
    (item.sqlCompare collate (item.valueIn a) (item.valueIn b)).then (rowCompare collate rest a b)

def Sortable (items : List OrderByItem) (rows : List ColumnBindings) : Prop :=
  ∀ row ∈ rows, ∀ item ∈ items, ∃ value, row item.ref.column.id = some value ∧
    value.kind = item.ref.column.kind ∧ value.isOrderable = true

/-- At the first key on which two rows differ: numbers are no NaN, the order of printed values is
the order of the values, and strings under `und:ci` are in lower case in the order of the rows,
without a tie in descending order. -/
def KeyAgrees (print : Value → String) (item : OrderByItem) (order : Ordering) (a b : Value) : Prop :=
  if a.isNull || b.isNull then True
  else
    match a, b with
    | .bool _, _ | .int64 _, _ | .bytes _, _ => True
    | .double x, .double y => isNaN x = false ∧ isNaN y = false
    | .string x, .string y =>
      item.isCaseInsensitive = true →
        (if item.isDescending then compare (asciiLower y) (asciiLower x)
          else compare (asciiLower x) (asciiLower y)) = order ∧
        (item.isDescending = true → asciiLower x ≠ asciiLower y)
    | a, b => compare (print a) (print b) = a.sqlCompare b

def PairAgrees (print : Value → String) (collate : String → String) :
    List OrderByItem → ColumnBindings → ColumnBindings → Prop
  | [], _, _ => True
  | item :: rest, a, b =>
    if valueEqual (item.valueIn a) (item.valueIn b) then PairAgrees print collate rest a b
    else
      KeyAgrees print item (rowCompare collate (item :: rest) a b) (item.valueIn a) (item.valueIn b)

section
variable {collate : String → String}

instance : TransCmp Value.sqlCompare := by
  unfold Value.sqlCompare
  infer_instance

theorem sqlDirected_trans (item : OrderByItem) {cmp : Value → Value → Ordering} [TransCmp cmp] :
    TransCmp (item.sqlDirected cmp) := by
  unfold sqlDirected
  cases item.isDescending with
  | true => exact (TransCmp.opposite : TransCmp fun a b => cmp b a)
  | false => exact (inferInstance : TransCmp cmp)

theorem itemCompare_trans (item : OrderByItem) : TransCmp (item.sqlCompare collate) := by
  have keys := @transCmp_on _ Value.sqlCompare _ _ (item.sqlKey collate)
  have directed := @sqlDirected_trans item _ keys
  unfold sqlCompare
  infer_instance

instance rowCompare_trans (items : List OrderByItem) : TransCmp (rowCompare collate items) := by
  induction items with
  | nil => exact { eq_swap := rfl, isLE_trans := fun _ _ => rfl }
  | cons item rest ih =>
    have first := @transCmp_on _ _ (@itemCompare_trans collate item) _ item.valueIn
    exact inferInstanceAs (TransCmp (compareLex (fun a b =>
      item.sqlCompare collate (item.valueIn a) (item.valueIn b)) (rowCompare collate rest)))

end

section
variable {print : Value → String} {a b : Value}

/-- Two values of one type that ORDER BY takes, none of them NULL. -/
inductive TypedPair : Value → Value → Prop
  | bool (x y : Bool) : TypedPair (.bool x) (.bool y)
  | int64 (x y : Int) : TypedPair (.int64 x) (.int64 y)
  | double (x y : UInt64) : TypedPair (.double x) (.double y)
  | string (x y : String) : TypedPair (.string x) (.string y)
  | bytes (x y : List UInt8) : TypedPair (.bytes x) (.bytes y)
  | scalar (kind : TypeKind) (x y : Int) : TypedPair (.scalar kind x) (.scalar kind y)
  | interval (m d n m' d' n' : Int) : TypedPair (.interval m d n) (.interval m' d' n')

theorem typedPair_of_kind (kind : a.kind = b.kind) (left : a.isOrderable = true)
    (right : b.isOrderable = true) (leftNotNull : a.isNull = false) (rightNotNull : b.isNull = false) :
    TypedPair a b := by
  cases a with
  | null => cases leftNotNull
  | other => cases left
  | scalar k x =>
    cases b with
    | null => cases rightNotNull
    | other => cases right
    | scalar l y =>
      obtain rfl : k = l := kind
      exact .scalar k x y
    | _ =>
      obtain rfl : k = _ := kind
      cases left
  | _ =>
    cases b with
    | null => cases rightNotNull
    | other => cases right
    | scalar l y =>
      obtain rfl : _ = l := kind
      cases right
    | _ => first | constructor | cases kind

theorem doubleRank_gt (bits : UInt64) : -2 ^ 64 < Value.doubleRank bits := by
  have bound := bits.toNat_lt
  unfold Value.doubleRank
  split <;> omega

theorem sqlNumber_double (x y : UInt64) :
    (Value.double x).sqlNumber = (Value.double y).sqlNumber ↔
      (Value.double x).canon = (Value.double y).canon := by
  have left := doubleRank_gt x
  have right := doubleRank_gt y
  cases nanX : isNaN x <;> cases nanY : isNaN y <;> simp [Value.sqlNumber, canon, nanX, nanY] <;>
    omega

/-- The values of a type that are equal in its order are the equal ones. -/
theorem sqlCompare_eq_iff (pair : TypedPair a b) : a.sqlCompare b = .eq ↔ valueEqual a b = true := by
  have equal : valueEqual a b = true ↔ a.canon = b.canon := by
    cases pair <;> exact valueEqual_iff rfl rfl
  have split : a.sqlCompare b = .eq ↔
      a.sqlNumber = b.sqlNumber ∧ a.sqlText = b.sqlText ∧ a.sqlBytes = b.sqlBytes := by
    simp only [Value.sqlCompare, compareLex_eq_eq, compareOn, Std.compare_eq_iff_eq]
  rw [equal, split]
  cases pair with
  | double x y => simpa [Value.sqlText, Value.sqlBytes] using sqlNumber_double x y
  | bool x y => cases x <;> cases y <;> decide
  | _ => simp [Value.sqlNumber, Value.sqlText, Value.sqlBytes, canon]

def codeOrder (print : Value → String) : Value → Value → Ordering
  | .double x, .double y =>
    if isNaN x || isNaN y then .eq
    else compare (Value.doubleRank x) (Value.doubleRank y)
  | .scalar kind x, b => compare (print (.scalar kind x)) (print b)
  | .interval m d n, b => compare (print (.interval m d n)) (print b)
  | a, b => a.sqlCompare b

theorem valueLess_eq (pair : TypedPair a b) : valueLess print a b = (codeOrder print a b).isLT := by
  cases pair with
  | double x y =>
    simp only [valueLess, codeOrder, isNull, Value.kind, Value.doubleLess]
    cases isNaN x <;> cases isNaN y <;> rfl
  | bool x y => cases x <;> cases y <;> rfl
  | _ =>
    simp [valueLess, codeOrder, isNull, Value.kind, Value.sqlCompare, compareLex, compareOn,
      Value.sqlNumber, Value.sqlText, Value.sqlBytes]

theorem codeOrder_swap (pair : TypedPair a b) : codeOrder print b a = (codeOrder print a b).swap := by
  cases pair with
  | double x y =>
    rw [codeOrder, codeOrder, Bool.or_comm]
    split
    · rfl
    · exact OrientedCmp.eq_swap
  | scalar | interval => exact OrientedOrd.eq_swap
  | _ => exact @OrientedCmp.eq_swap _ Value.sqlCompare _ _ _

theorem TypedPair.symm (pair : TypedPair a b) : TypedPair b a := by
  cases pair <;> constructor

/-- The comparison of the code is that of SQL exactly for numbers that are no NaN and for values
printed in their order. -/
theorem codeOrder_eq_iff (pair : TypedPair a b)
    (plain : item.isCaseInsensitive = false ∨ ∀ x, a ≠ .string x) (differ : a.sqlCompare b ≠ .eq) :
    codeOrder print a b = a.sqlCompare b ↔ KeyAgrees print item order a b := by
  cases pair with
  | bool | int64 | bytes => exact iff_of_true rfl trivial
  | scalar | interval => exact Iff.rfl
  | string x y =>
    rcases plain with plain | plain
    · exact iff_of_true rfl fun collated => nomatch plain.symm.trans collated
    · exact absurd rfl (plain x)
  | double x y =>
    have left := doubleRank_gt x
    have right := doubleRank_gt y
    have number : (Value.double x).sqlCompare (.double y) =
        compare (Value.double x).sqlNumber (Value.double y).sqlNumber := by
      rw [Value.sqlCompare]
      simp [compareLex, compareOn, Value.sqlText, Value.sqlBytes]
    change _ ↔ isNaN x = false ∧ isNaN y = false
    rw [number] at differ ⊢
    rw [codeOrder]
    cases nanX : isNaN x with
    | true => exact iff_of_false (fun same => differ same.symm) fun both => nomatch both.1
    | false =>
      cases nanY : isNaN y with
      | true => exact iff_of_false (fun same => differ same.symm) fun both => nomatch both.2
      | false =>
        refine iff_of_true ?_ ⟨rfl, rfl⟩
        simp [Value.sqlNumber, nanX, nanY]

end

section
variable {print : Value → String} {collate : String → String} {item : OrderByItem}
variable {a b : ColumnBindings}

/-- The strict comparison `less` of two rows is the order `order`, from both sides. -/
def Agrees (less : ColumnBindings → ColumnBindings → Bool) (order : Ordering) (a b : ColumnBindings) :
    Prop := less a b = order.isLT ∧ less b a = order.swap.isLT

theorem directed_agrees_iff (code order : Ordering) :
    (item.directed code.isLT = order.isLT ∧ item.directed code.swap.isLT = order.swap.isLT) ↔
      (if item.isDescending then code.swap else code) = order ∧
        (item.isDescending = true → code ≠ .eq) := by
  rw [directed, directed]
  cases item.isDescending <;> cases code <;> cases order <;> decide

theorem directed_differ_iff {code order : Ordering} (differ : order ≠ .eq) :
    ((if item.isDescending then code.swap else code) = (if item.isDescending then order.swap else order) ∧
        (item.isDescending = true → code ≠ .eq)) ↔ code = order := by
  cases item.isDescending <;> cases code <;> cases order <;> simp_all

variable {x y : Value}

theorem itemCompare_notNull (left : x.isNull = false) (right : y.isNull = false) :
    item.sqlCompare collate x y =
      item.sqlDirected (fun a b => (item.sqlKey collate a).sqlCompare (item.sqlKey collate b)) x y := by
  have place : compareOn item.nullPlace x y = .eq := by
    simp [compareOn, nullPlace, left, right]
  rw [sqlCompare, compareLex, place]
  rfl

theorem TypedPair.notNull (pair : TypedPair x y) : x.isNull = false ∧ y.isNull = false := by
  cases pair <;> exact ⟨rfl, rfl⟩

theorem itemCompare_equal (pair : TypedPair x y) (equal : valueEqual x y = true) :
    item.sqlCompare collate x y = .eq := by
  have same : x.sqlCompare y = .eq := (sqlCompare_eq_iff pair).mpr equal
  have keys : (item.sqlKey collate x).sqlCompare (item.sqlKey collate y) = .eq := by
    unfold sqlKey
    cases item.isCaseInsensitive with
    | false => exact same
    | true =>
      cases pair with
      | string x y =>
        have text : x = y := by simpa [valueEqual, isNull, Value.equals] using equal
        rw [text]
        exact ReflCmp.compare_self
      | _ => exact same
  rw [itemCompare_notNull pair.notNull.1 pair.notNull.2, sqlDirected]
  split
  · exact OrientedCmp.eq_symm keys
  · exact keys

theorem itemCompare_nulls (left : x.isNull = true) (right : y.isNull = true) :
    item.sqlCompare collate x y = .eq := by
  cases x with
  | null kind =>
    cases y with
    | null other =>
      have place : compareOn item.nullPlace (.null kind) (.null other) = .eq := by
        simp [compareOn, nullPlace, isNull]
      have keys : ∀ k l, (item.sqlKey collate (.null k)).sqlCompare (item.sqlKey collate (.null l)) =
          .eq := by
        intro k l
        cases collated : item.isCaseInsensitive <;> simp only [sqlKey, collated] <;> rfl
      rw [sqlCompare, compareLex, place, sqlDirected, keys, keys, ite_self]
      rfl
    | _ => cases right
  | _ => cases left

theorem itemCompare_null (one : y.isNull = !x.isNull) :
    item.sqlCompare collate x y = if x.isNull = item.nullsFirst then .lt else .gt := by
  rw [sqlCompare, compareLex, compareOn, nullPlace, nullPlace, one]
  cases x.isNull <;> cases item.nullsFirst <;> rfl

theorem sqlKey_plain (plain : item.isCaseInsensitive = false ∨ ∀ text, x ≠ .string text) :
    item.sqlKey collate x = x := by
  rw [sqlKey]
  split
  next collated =>
    rcases plain with plain | plain
    · exact nomatch plain.symm.trans collated
    · cases x with
      | string text => exact absurd rfl (plain text)
      | _ => rfl
  · rfl

theorem compareValues_plain (pair : TypedPair x y)
    (plain : item.isCaseInsensitive = false ∨ ∀ text, x ≠ .string text)
    (differ : valueEqual x y = false) :
    compareOrderByItemValues print item x y = item.directed (codeOrder print x y).isLT := by
  unfold compareOrderByItemValues
  rw [differ, pair.notNull.1, pair.notNull.2, ← valueLess_eq pair]
  cases pair with
  | string x y =>
    rcases plain with plain | plain
    · exact if_neg (Bool.eq_false_iff.mp plain)
    · exact absurd rfl (plain x)
  | _ => rfl

theorem compareValues_collated {x y : String} (collated : item.isCaseInsensitive = true)
    (differ : valueEqual (.string x) (.string y) = false) :
    compareOrderByItemValues print item (.string x) (.string y) =
      item.directed (compare (asciiLower x) (asciiLower y)).isLT := by
  rw [compareOrderByItemValues, differ]
  exact if_pos collated

theorem key_agrees_iff (pair : TypedPair x y) (differ : valueEqual x y = false) :
    (compareOrderByItemValues print item x y = ((item.sqlCompare collate x y).then rest).isLT ∧
      compareOrderByItemValues print item y x = ((item.sqlCompare collate x y).then rest).swap.isLT) ↔
    KeyAgrees print item ((item.sqlCompare collate x y).then rest) x y := by
  have back : valueEqual y x = false := valueEqual_comm y x ▸ differ
  by_cases plain : item.isCaseInsensitive = false ∨ ∀ text, x ≠ .string text
  · have plainBack : item.isCaseInsensitive = false ∨ ∀ text, y ≠ .string text := by
      refine plain.imp_right fun other text same => ?_
      cases pair with
      | string x _ => exact other x rfl
      | _ => cases same
    have order : x.sqlCompare y ≠ .eq := fun same =>
      Bool.false_ne_true (differ.symm.trans ((sqlCompare_eq_iff pair).mp same))
    have sql : (item.sqlCompare collate x y).then rest =
        if item.isDescending then (x.sqlCompare y).swap else x.sqlCompare y := by
      rw [itemCompare_notNull pair.notNull.1 pair.notNull.2, sqlDirected,
        sqlKey_plain plain, sqlKey_plain plainBack, @OrientedCmp.eq_swap _ Value.sqlCompare _ y x]
      cases item.isDescending <;> cases found : x.sqlCompare y <;> first | rfl | exact absurd found order
    rw [compareValues_plain pair plain differ, compareValues_plain pair.symm plainBack back,
      codeOrder_swap pair, directed_agrees_iff, sql, directed_differ_iff order]
    exact codeOrder_eq_iff pair plain order
  · rw [not_or, Bool.not_eq_false, not_forall] at plain
    obtain ⟨collated, text, string⟩ := plain
    rw [not_not] at string
    subst string
    cases pair with
    | string _ other =>
      have swap : compare (asciiLower other) (asciiLower text) =
          (compare (asciiLower text) (asciiLower other)).swap := OrientedOrd.eq_swap
      rw [compareValues_collated collated differ, compareValues_collated collated back, swap,
        directed_agrees_iff, ← swap]
      refine Iff.trans ?_ (forall_prop_of_true collated).symm
      refine and_congr_right fun _ => imp_congr_right fun _ => not_congr ?_
      exact Std.compare_eq_iff_eq

theorem valueEqual_null (one : y.isNull = !x.isNull) : valueEqual x y = false := by
  rw [valueEqual, one]
  cases x.isNull <;> rfl

theorem keyAgrees_null (one : y.isNull = !x.isNull) : KeyAgrees print item order x y := by
  unfold KeyAgrees
  rw [one, Bool.or_not_self]
  trivial

theorem values_cases (kind : x.kind = y.kind) (left : x.isOrderable = true)
    (right : y.isOrderable = true) :
    (x.isNull = true ∧ y.isNull = true) ∨ y.isNull = !x.isNull ∨ TypedPair x y := by
  by_cases one : x.isNull = y.isNull
  · cases null : y.isNull with
    | true => exact .inl ⟨one.trans null, rfl⟩
    | false => exact .inr (.inr (typedPair_of_kind kind left right (one.trans null) null))
  · exact .inr (.inl (Bool.eq_not.mpr (Ne.symm one)))

/-- The row comparison agrees with the order of SQL on two rows exactly if the first key on which
they differ does. -/
theorem row_agrees_iff (typed : Sortable items [a, b]) :
    Agrees (orderByScanRowLess print items) (rowCompare collate items a b) a b ↔
      PairAgrees print collate items a b := by
  induction items with
  | nil => exact iff_of_true ⟨rfl, rfl⟩ trivial
  | cons item rest ih =>
    have others : Sortable rest [a, b] := fun row within item among =>
      typed row within item (.tail _ among)
    obtain ⟨x, boundX, kindX, orderableX⟩ := typed a (.head _) item (.head _)
    obtain ⟨y, boundY, kindY, orderableY⟩ :=
      typed b (.tail _ (.head _)) item (.head _)
    have left : item.valueIn a = x := by rw [valueIn, boundX, Option.getD_some]
    have right : item.valueIn b = y := by rw [valueIn, boundY, Option.getD_some]
    rw [Agrees, orderByScanRowLess, orderByScanRowLess, rowCompare, PairAgrees, rowCompare, left, right,
      valueEqual_comm y x]
    rcases values_cases (kindX.trans kindY.symm) orderableX orderableY with
      ⟨nullX, nullY⟩ | one | pair
    · have equal : valueEqual x y = true := by simp [valueEqual, nullX, nullY]
      rw [if_pos equal, if_pos equal, if_pos equal, itemCompare_nulls nullX nullY]
      exact ih others
    · have differ := Bool.eq_false_iff.mp (valueEqual_null one)
      rw [if_neg differ, if_neg differ, if_neg differ]
      refine iff_of_true ?_ (keyAgrees_null one)
      unfold compareOrderByItemValues
      rw [itemCompare_null one, valueEqual_comm y x, valueEqual_null one, one]
      cases x.isNull <;> cases item.nullsFirst <;> exact ⟨rfl, rfl⟩
    · by_cases equal : valueEqual x y = true
      · rw [if_pos equal, if_pos equal, if_pos equal, itemCompare_equal pair equal]
        exact ih others
      · rw [if_neg equal, if_neg equal, if_neg equal]
        exact key_agrees_iff pair (Bool.eq_false_iff.mpr equal)

end

section
variable {print : Value → String} {collate : String → String} {items : List OrderByItem}

theorem pairAgrees_self (items : List OrderByItem) (row : ColumnBindings) :
    PairAgrees print collate items row row := by
  induction items with
  | nil => trivial
  | cons item rest ih =>
    rw [PairAgrees, if_pos (valueEqual_self _)]
    exact ih

/-- For rows with values of the sort columns' types: the row comparison is a strict weak ordering and
ORDER BY sorts stably by the order of SQL, on every input made of these rows, exactly if every
two of them agree on the first key on which they differ. -/
theorem order_by_sorts_iff (print : Value → String) (collate : String → String)
    (items : List OrderByItem) (rows : List ColumnBindings) (typed : Sortable items rows) :
    (∀ input, (∀ row ∈ input, row ∈ rows) →
      StrictWeakOn (orderByScanRowLess print items) input ∧
      ∃ output, materializeOrderByScanRows print items (.ok input) = .ok output ∧
        IsStableSort (rowCompare collate items) input output) ↔
    ∀ a ∈ rows, ∀ b ∈ rows, PairAgrees print collate items a b := by
  have typedPair : ∀ a ∈ rows, ∀ b ∈ rows, Sortable items [a, b] := by
    intro a first b second
    exact forall_mem_cons.mpr ⟨typed a first, forall_mem_singleton.mpr (typed b second)⟩
  constructor
  · intro sorts a first b second
    by_cases same : a = b
    · subst same
      exact pairAgrees_self items a
    refine (row_agrees_iff (typedPair a first b second)).mp ⟨?_, ?_⟩
    · have among : ∀ row ∈ [b, a], row ∈ rows := by simpa using ⟨second, first⟩
      obtain ⟨-, output, ⟨⟩, sorted⟩ := sorts [b, a] among
      exact agrees_of_sorted_pair (Ne.symm same) sorted
    · have among : ∀ row ∈ [a, b], row ∈ rows := by simpa using ⟨first, second⟩
      obtain ⟨-, output, ⟨⟩, sorted⟩ := sorts [a, b] among
      rw [← @OrientedCmp.eq_swap _ (rowCompare collate items) _ b a]
      exact agrees_of_sorted_pair same sorted
  · intro agree input among
    have less : ∀ a ∈ input, ∀ b ∈ input,
        orderByScanRowLess print items a b = (rowCompare collate items a b).isLT := by
      intro a first b second
      exact ((row_agrees_iff (typedPair a (among a first) b (among b second))).mpr
        (agree a (among a first) b (among b second))).1
    exact ⟨strictWeakOn_of_agrees less, _, rfl, isStableSort_of_agrees less⟩

end

def price : Column := ⟨1, "price", .numeric⟩
def label : Column := ⟨2, "label", .string⟩

def priced (number : Int) (name : String) : ColumnBindings
  | 1 => some (.scalar .numeric number)
  | 2 => some (.string name)
  | _ => none

def byPrice : OrderByItem := { ref := { column := price } }
def byLabel : OrderByItem :=
  { ref := { column := label }, isDescending := true, collationName := some "und:ci" }

def numberPrint : Value → String
  | .scalar _ number => toString number
  | _ => ""

theorem priced_sortable (rows : List (Int × String)) :
    Sortable [byPrice, byLabel] (rows.map fun row => priced row.1 row.2) := by
  intro row within item among
  obtain ⟨⟨number, name⟩, -, rfl⟩ := mem_map.mp within
  rcases mem_cons.mp among with rfl | among
  · exact ⟨_, rfl, rfl, rfl⟩
  · rw [mem_singleton.mp among]
    exact ⟨_, rfl, rfl, rfl⟩

/-- Prices of one digit are in the order of their texts. -/
theorem digits_sorted :
    IsStableSort (rowCompare asciiLower [byPrice, byLabel]) [priced 7 "b", priced 5 "a"]
      (stableSort (orderByScanRowLess numberPrint [byPrice, byLabel]) [priced 7 "b", priced 5 "a"]) := by
  have agree : ∀ a ∈ [priced 7 "b", priced 5 "a"], ∀ b ∈ [priced 7 "b", priced 5 "a"],
      PairAgrees numberPrint asciiLower [byPrice, byLabel] a b := by
    have order : ∀ x ∈ [(7 : Int), 5], ∀ y ∈ [(7 : Int), 5],
        compare (numberPrint (.scalar .numeric x)) (numberPrint (.scalar .numeric y)) =
          Value.sqlCompare (.scalar .numeric x) (.scalar .numeric y) := by decide
    simp only [mem_cons, not_mem_nil, or_false]
    rintro a (rfl | rfl) b (rfl | rfl)
    · exact pairAgrees_self _ _
    · exact order 7 (by decide) 5 (by decide)
    · exact order 5 (by decide) 7 (by decide)
    · exact pairAgrees_self _ _
  obtain ⟨-, output, ⟨⟩, sorted⟩ := (order_by_sorts_iff numberPrint asciiLower [byPrice, byLabel] _
    (priced_sortable [(7, "b"), (5, "a")])).mpr agree _ fun _ within => within
  exact sorted

/-- Prices are sorted by their texts, and two labels that differ only in case are each before the
other in descending order. -/
theorem ten_before_nine :
    (materializeOrderByScanRows numberPrint [byPrice] (.ok [priced 9 "", priced 10 ""])).map
        (·.map fun row => row 1) = .ok [some (.scalar .numeric 10), some (.scalar .numeric 9)] ∧
    rowCompare asciiLower [byPrice] (priced 9 "") (priced 10 "") = .lt ∧
    orderByScanRowLess numberPrint [byLabel] (priced 1 "a") (priced 1 "A") = true ∧
    orderByScanRowLess numberPrint [byLabel] (priced 1 "A") (priced 1 "a") = true := by
  have swapped : orderByScanRowLess numberPrint [byPrice] (priced 10 "") (priced 9 "") = true := by
    decide
  refine ⟨?_, by decide, by decide, by decide⟩
  rw [materializeOrderByScanRows, Except.map, stableSort, mergeSort_pair, if_pos swapped]
  rfl

end BigQueryEmulator.Semantic
