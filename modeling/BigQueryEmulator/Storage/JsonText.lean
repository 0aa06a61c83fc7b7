import BigQueryEmulator.Storage.Values
import BigQueryEmulator.Text.Numbers
import BigQueryEmulator.Text.Quoted

/-! The JSON texts of the tombstone directory (`duckdb_storage_meta.cc`,
`duckdb_storage_tombstone_registry_json.cc`): they are written by concatenation and read
back by searching for keys and counting braces. A written text is kept as its strings and
the text between them; a text that is read is a list of characters. -/
namespace BigQueryEmulator.Storage
open Text
open List hiding after tail

def jsonEscapeChar : Char → List Char
  | '\\' => ['\\', '\\']
  | '"' => ['\\', '"']
  | '\n' => ['\\', 'n']
  | '\r' => ['\\', 'r']
  | '\t' => ['\\', 't']
  | c => [c]

def jsonEscape (s : String) : List Char := s.toList.flatMap jsonEscapeChar

def jsonString (s : String) : Piece := .quoted (jsonEscape s)

/-- A key, and other strings that are written as they are. -/
def jsonKey (s : String) : Piece := .quoted s.toList

def jsonPlain (s : String) : Piece := .plain s.toList

def jsonInt (n : Int) : Piece := jsonPlain (toString n)

/-- `absl::StrJoin` with a comma. -/
def joinWithCommas (items : List (List Piece)) : List Piece := [jsonPlain ","].intercalate items

def jsonArray (items : List (List Piece)) : List Piece :=
  jsonPlain "[" :: (joinWithCommas items ++ [jsonPlain "]"])

def jsonField (key : String) (value : List Piece) : List Piece :=
  jsonKey key :: jsonPlain ":" :: value

def jsonObject (fields : List (List Piece)) : List Piece :=
  jsonPlain "\x7b" :: (joinWithCommas fields ++ [jsonPlain "\x7d"])

def renderQuotedJsonStrings (values : List String) : List Piece :=
  jsonArray (values.map fun value => [jsonString value])

/-- The loop that reads a string up to its closing quote: a backslash stands for the
character after it, whatever that is. -/
def readString : List Char → List Char
  | [] => []
  | [c] => if c = '"' then [] else [c]
  | c :: d :: rest =>
    if c = '\\' then d :: readString rest
    else if c = '"' then []
    else c :: readString (d :: rest)

def quotedName (name : String) : List Char := '"' :: (name.toList ++ ['"'])

variable (json : List Char)

def parseJsonStringField (field : String) : Except Status String :=
  let needle := '"' :: (field.toList ++ ['"', ':', '"'])
  match find needle json with
  | none => .error ⟨.invalidArgument, "json missing string field " ++ field⟩
  | some found => .ok (String.ofList (readString (found.drop needle.length)))

def parseJsonBoolField (field : String) : Bool :=
  let needle := '"' :: (field.toList ++ ['"', ':'])
  match find needle json with
  | none => false
  | some found => "true".toList.isPrefixOf (found.drop needle.length)

/-- The digits at the front of a text, as `absl::SimpleAtoi` leaves them in its output when
more text follows: it stops at the first other character and saturates. -/
def leadingNat (limit : Nat) : Nat → List Char → Nat
  | sofar, [] => sofar
  | sofar, c :: rest =>
    if c.isDigit then
      let next := 10 * sofar + (c.toNat - '0'.toNat)
      if next ≤ limit then leadingNat limit next rest else limit
    else sofar

def parseJsonInt64Field (needle : List Char) : Int :=
  match find needle json with
  | none => 0
  | some found =>
    match found.drop needle.length with
    | '-' :: digits => -(leadingNat (2 ^ 63) 0 digits : Int)
    | digits => (leadingNat (2 ^ 63 - 1) 0 digits : Int)

/-- `inside` holds the characters of the string that is being read. -/
def quotedStrings : Option (List Char) → List Char → List (List Char)
  | none, [] => []
  | some inside, [] => [inside]
  | none, c :: rest => quotedStrings (if c = '"' then some [] else none) rest
  | some inside, [c] => if c = '"' then [inside] else [inside ++ [c]]
  | some inside, c :: d :: rest =>
    if c = '\\' then quotedStrings (some (inside ++ [d])) rest
    else if c = '"' then inside :: quotedStrings none (d :: rest)
    else quotedStrings (some (inside ++ [c])) (d :: rest)

/-- Empty strings are dropped. -/
def parseQuotedJsonStringArray : List String :=
  ((quotedStrings none json).filter fun string => !string.isEmpty).map String.ofList

def jsonArraySlice (entry key : List Char) : Option (List Char) := do
  let fromKey ← find key entry
  let fromOpen ← find ['['] fromKey
  takeThrough ']' fromOpen

/-- An object and the text after it, with more text in front of the object. -/
def withFront (front : List Char) (answer : Option (List Char × List Char)) :
    Option (List Char × List Char) :=
  answer.map fun found => (front ++ found.1, found.2)

/-- The loop of `ExtractBalancedObject`: the object up to the brace that closes it, and the
text after that. Braces in strings do not count. -/
def scanObject : Nat → Bool → List Char → Option (List Char × List Char)
  | _, _, [] => none
  | _, true, [_] => none
  | depth, true, c :: d :: rest =>
    if c = '\\' then withFront [c, d] (scanObject depth true rest)
    else withFront [c] (scanObject depth (c ≠ '"') (d :: rest))
  | depth, false, c :: rest =>
    if c = '"' then withFront [c] (scanObject depth true rest)
    else if c = '\x7b' then withFront [c] (scanObject (depth + 1) false rest)
    else if c = '\x7d' then
      if depth = 1 then some ([c], rest)
      else withFront [c] (scanObject (depth - 1) false rest)
    else withFront [c] (scanObject depth false rest)

def extractBalancedObject (text : List Char) : Option (List Char × List Char) :=
  if text.head? = some '\x7b' then scanObject 0 false text else none

def advancePastWhitespaceAndComma (text : List Char) : List Char :=
  text.dropWhile fun c => c = ' ' || c = ',' || c = '\n'

/-- Each round takes at least one character, so the text's length bounds the rounds. -/
def splitObjects : Nat → List Char → List (List Char)
  | 0, _ => []
  | rounds + 1, text =>
    match extractBalancedObject (advancePastWhitespaceAndComma text) with
    | none => []
    | some (object, after) => object :: splitObjects rounds after

def splitTopLevelJsonObjects : List (List Char) :=
  match find ['['] json with
  | none => []
  | some found => splitObjects found.length (found.drop 1)

theorem escaped_jsonEscapeChar (c : Char) : Escaped (jsonEscapeChar c) := by
  unfold jsonEscapeChar
  split
  case h_6 notBackslash notQuote _ _ _ =>
    exact .plain (fun same => notQuote same) (fun same => notBackslash same) .nil
  all_goals exact .pair .nil

theorem escaped_jsonEscape (s : String) : Escaped (jsonEscape s) := by
  unfold jsonEscape
  induction s.toList with
  | nil => exact .nil
  | cons c rest ih => exact (escaped_jsonEscapeChar c).append ih

/-- What reading makes of a written character: of an escape it keeps the letter. -/
def rereadChar : Char → Char
  | '\n' => 'n'
  | '\r' => 'r'
  | '\t' => 't'
  | c => c

theorem readString_cons (notBackslash : c ≠ '\\') (notQuote : c ≠ '"') (rest : List Char) :
    readString (c :: rest) = c :: readString rest := by
  cases rest with
  | nil => simp [readString, notQuote]
  | cons d rest => rw [readString, if_neg notBackslash, if_neg notQuote]

theorem readString_escapeChar (c : Char) (rest : List Char) :
    readString (jsonEscapeChar c ++ rest) = rereadChar c :: readString rest := by
  unfold jsonEscapeChar
  split
  case h_6 notBackslash notQuote notLine notReturn notTab =>
    have kept : rereadChar c = c := by
      unfold rereadChar
      split
      · exact absurd rfl notLine
      · exact absurd rfl notReturn
      · exact absurd rfl notTab
      · rfl
    rw [kept]
    exact readString_cons (fun same => notBackslash same) (fun same => notQuote same) rest
  all_goals simp [readString, rereadChar]

theorem readString_jsonEscape (s : String) (rest : List Char) :
    readString (jsonEscape s ++ '"' :: rest) = s.toList.map rereadChar := by
  unfold jsonEscape
  induction s.toList with
  | nil => cases rest <;> simp [readString]
  | cons c chars ih =>
    rw [flatMap_cons, append_assoc, readString_escapeChar, ih, map_cons]

@[simp] theorem withFront_nil (answer : Option (List Char × List Char)) :
    withFront [] answer = answer := by
  simp [withFront]

@[simp] theorem withFront_withFront (left right : List Char)
    (answer : Option (List Char × List Char)) :
    withFront left (withFront right answer) = withFront (left ++ right) answer := by
  simp [withFront, Function.comp_def]

theorem withFront_some (ok : withFront front answer = some (object, after)) :
    ∃ body, answer = some (body, after) ∧ object = front ++ body := by
  obtain ⟨⟨body, rest⟩, found, same⟩ := Option.map_eq_some_iff.mp ok
  cases same
  exact ⟨body, found, rfl⟩

/-- Text that the scan of an object passes over without a change of its state. -/
def Neutral (text : List Char) : Prop :=
  ∀ depth rest, 0 < depth →
    scanObject depth false (text ++ rest) = withFront text (scanObject depth false rest)

theorem Neutral.nil : Neutral [] := by
  intro depth rest _
  simp

theorem Neutral.append (first : Neutral left) (second : Neutral right) :
    Neutral (left ++ right) := by
  intro depth rest positive
  rw [append_assoc, first depth _ positive, second depth _ positive, withFront_withFront]

theorem scanObject_string (notBackslash : c ≠ '\\') (depth : Nat) (rest : List Char) :
    scanObject depth true (c :: rest) = withFront [c] (scanObject depth (c ≠ '"') rest) := by
  cases rest with
  | nil => simp [scanObject, withFront]
  | cons d rest => rw [scanObject, if_neg notBackslash]

theorem scanObject_escaped (escaped : Escaped content) (depth : Nat) (rest : List Char) :
    scanObject depth true (content ++ '"' :: rest) =
      withFront (content ++ ['"']) (scanObject depth false rest) := by
  induction escaped with
  | nil => exact scanObject_string (by decide) depth rest
  | plain notQuote notBackslash _ ih =>
    rw [cons_append, scanObject_string notBackslash, decide_eq_true notQuote, ih]
    exact withFront_withFront _ _ _
  | pair _ ih =>
    rw [cons_append, cons_append, scanObject, if_pos rfl, ih]
    exact withFront_withFront _ _ _

theorem Neutral.quoted (escaped : Escaped content) : Neutral (Piece.quoted content).text := by
  intro depth rest _
  rw [Piece.text, cons_append, scanObject, if_pos rfl, append_assoc,
    singleton_append, scanObject_escaped escaped]
  exact withFront_withFront _ _ _

theorem Neutral.char (notQuote : c ≠ '"') (notOpen : c ≠ '\x7b') (notClose : c ≠ '\x7d') :
    Neutral [c] := by
  intro depth rest _
  rw [singleton_append, scanObject, if_neg notQuote, if_neg notOpen, if_neg notClose]

theorem Neutral.chars (free : ∀ c ∈ text, c ≠ '"' ∧ c ≠ '\x7b' ∧ c ≠ '\x7d') : Neutral text := by
  induction text with
  | nil => exact Neutral.nil
  | cons c rest ih =>
    obtain ⟨notQuote, notOpen, notClose⟩ := free c (.head _)
    exact (Neutral.char notQuote notOpen notClose).append
      (ih (forall_mem_cons.mp free).2)

theorem scanObject_object (neutral : Neutral body) (depth : Nat) (rest : List Char) :
    scanObject depth false ('\x7b' :: (body ++ '\x7d' :: rest)) =
      if depth = 0 then some ('\x7b' :: (body ++ ['\x7d']), rest)
      else withFront ('\x7b' :: (body ++ ['\x7d'])) (scanObject depth false rest) := by
  rw [scanObject, if_neg (by decide), if_pos rfl, neutral _ _ (Nat.succ_pos depth), scanObject,
    if_neg (by decide), if_neg (by decide), if_pos rfl]
  by_cases outermost : depth = 0
  · rw [if_pos outermost, if_pos (by omega)]
    rfl
  · rw [if_neg outermost, if_neg (by omega), withFront_withFront, withFront_withFront]
    rfl

theorem Neutral.object (neutral : Neutral body) : Neutral ('\x7b' :: (body ++ ['\x7d'])) := by
  intro depth rest positive
  rw [cons_append, append_assoc, singleton_append, scanObject_object neutral,
    if_neg (by omega)]

theorem withFront_more (ih : ∀ {object after}, scanned = some (object, after) →
      longer = some (object, after ++ more) ∧ object ++ after = rest)
    (ok : withFront front scanned = some (object, after)) :
    withFront front longer = some (object, after ++ more) ∧ object ++ after = front ++ rest := by
  obtain ⟨body, found, rfl⟩ := withFront_some ok
  obtain ⟨grown, whole⟩ := ih found
  rw [grown, ← whole, append_assoc]
  exact ⟨rfl, rfl⟩

theorem scanObject_more (more : List Char)
    (ok : scanObject depth inString text = some (object, after)) :
    scanObject depth inString (text ++ more) = some (object, after ++ more) ∧
      object ++ after = text := by
  fun_induction scanObject depth inString text generalizing object after with
  | case1 | case2 => cases ok
  | case3 depth d rest ih =>
    exact withFront_more ih ok
  | case4 depth c d rest notBackslash ih =>
    rw [cons_append, scanObject_string notBackslash]
    exact withFront_more ih ok
  | case5 depth rest ih =>
    rw [cons_append, scanObject, if_pos rfl]
    exact withFront_more ih ok
  | case6 depth rest _ ih =>
    rw [cons_append, scanObject, if_neg (by decide), if_pos rfl]
    exact withFront_more ih ok
  | case7 rest =>
    cases ok
    exact ⟨by simp [scanObject], rfl⟩
  | case8 depth rest deeper _ _ ih =>
    have closed : scanObject depth false ('\x7d' :: (rest ++ more)) =
        withFront ['\x7d'] (scanObject (depth - 1) false (rest ++ more)) := by
      simp [scanObject, deeper]
    rw [cons_append, closed]
    exact withFront_more ih ok
  | case9 depth c rest notQuote notOpen notClose ih =>
    rw [cons_append, scanObject, if_neg notQuote, if_neg notOpen, if_neg notClose]
    exact withFront_more ih ok

theorem extractBalancedObject_front
    (whole : extractBalancedObject (object ++ rest) = some (object, rest)) (part : front <+: object)
    (proper : front ≠ object) : extractBalancedObject front = none := by
  obtain ⟨back, rfl⟩ := part
  cases answer : extractBalancedObject front with
  | none => rfl
  | some found =>
    obtain ⟨body, after⟩ := found
    unfold extractBalancedObject at answer whole
    split at answer
    · obtain ⟨longer, cut⟩ := scanObject_more (back ++ rest) answer
      rw [append_assoc] at whole
      split at whole
      · rw [whole] at longer
        obtain ⟨rfl, _⟩ := Prod.mk.inj (Option.some.inj longer)
        have short := congrArg length cut
        simp only [length_append] at short
        refine absurd ?_ proper
        rw [length_eq_zero_iff.mp (by omega : back.length = 0), append_nil]
      · cases whole
    · cases answer

/-- An object, as far as the scan is concerned. -/
def IsObject (text : List Char) : Prop :=
  ∃ body, Neutral body ∧ text = '\x7b' :: (body ++ ['\x7d'])

theorem IsObject.extract (object : IsObject text) (rest : List Char) :
    extractBalancedObject (text ++ rest) = some (text, rest) := by
  obtain ⟨body, neutral, rfl⟩ := object
  simp [extractBalancedObject, scanObject_object neutral]

theorem IsObject.head (object : IsObject text) : ∃ rest, text = '\x7b' :: rest := by
  obtain ⟨body, _, rfl⟩ := object
  exact ⟨_, rfl⟩

theorem splitObjects_commas (all : ∀ object ∈ objects, IsObject object) (rest : List Char)
    (enough : objects.length ≤ rounds) :
    splitObjects rounds (objects.flatMap (fun object => ',' :: object) ++ ']' :: rest) = objects := by
  induction objects generalizing rounds with
  | nil =>
    cases rounds with
    | zero => rfl
    | succ rounds => simp [splitObjects, advancePastWhitespaceAndComma, extractBalancedObject]
  | cons object objects ih =>
    cases rounds with
    | zero => simp at enough
    | succ rounds =>
      have first := all object (.head _)
      obtain ⟨tail, shape⟩ := first.head
      have advanced : ∀ later, advancePastWhitespaceAndComma (',' :: object ++ later) =
          object ++ later := by
        intro later
        simp [advancePastWhitespaceAndComma, shape]
      rw [flatMap_cons, append_assoc, splitObjects, advanced, first.extract]
      dsimp only
      rw [ih (forall_mem_cons.mp all).2 (by simpa using enough)]

theorem splitTopLevelJsonObjects_bracket (text : List Char) :
    splitTopLevelJsonObjects ('[' :: text) = splitObjects (text.length + 1) text := rfl

theorem intercalate_commas (comma : α) (object : List α) (objects : List (List α)) :
    [comma].intercalate (object :: objects) =
      object ++ objects.flatMap fun object => comma :: object := by
  induction objects generalizing object with
  | nil => simp
  | cons next objects ih =>
    rw [intercalate_cons_cons, ih, flatMap_cons]
    simp

theorem length_le_commas (objects : List (List Char)) :
    objects.length ≤ (objects.flatMap fun object => ',' :: object).length := by
  induction objects with
  | nil => exact Nat.zero_le _
  | cons object objects ih =>
    simp only [flatMap_cons, length_append, length_cons]
    omega

theorem splitTopLevelJsonObjects_array (all : ∀ object ∈ objects, IsObject object)
    (rest : List Char) :
    splitTopLevelJsonObjects ('[' :: ([','].intercalate objects ++ ']' :: rest)) = objects := by
  rw [splitTopLevelJsonObjects_bracket]
  cases objects with
  | nil => simp [splitObjects, advancePastWhitespaceAndComma, extractBalancedObject]
  | cons object objects =>
    have first := all object (.head _)
    obtain ⟨tail, shape⟩ := first.head
    have advanced : ∀ later, advancePastWhitespaceAndComma (object ++ later) = object ++ later := by
      intro later
      simp [advancePastWhitespaceAndComma, shape]
    have enough : objects.length ≤
        ([','].intercalate (object :: objects) ++ ']' :: rest).length := by
      rw [intercalate_commas]
      have commas := length_le_commas objects
      simp only [length_append]
      omega
    rw [splitObjects, intercalate_commas, append_assoc, advanced, first.extract]
    dsimp only
    rw [splitObjects_commas (forall_mem_cons.mp all).2 rest]
    simpa [intercalate_commas] using enough

theorem splitTopLevelJsonObjects_front (first : IsObject object) (part : front <+: object)
    (proper : front ≠ object) : splitTopLevelJsonObjects ('[' :: front) = [] := by
  obtain ⟨tail, shape⟩ := first.head
  have advanced : advancePastWhitespaceAndComma front = front := by
    cases front with
    | nil => rfl
    | cons c front =>
      rw [shape] at part
      obtain ⟨rfl, _⟩ := cons_prefix_cons.mp part
      rfl
  rw [splitTopLevelJsonObjects_bracket, splitObjects, advanced,
    extractBalancedObject_front (first.extract []) part proper]

section
variable {items : List (List Piece)} {value : List Piece}

theorem join_joinWithCommas (items : List (List Piece)) :
    join (joinWithCommas items) = [','].intercalate (items.map join) := by
  unfold joinWithCommas
  cases items with
  | nil => rfl
  | cons item items =>
    rw [map_cons, intercalate_commas, intercalate_commas, join_append, flatMap_map]
    exact congrArg (join item ++ ·) flatMap_assoc

theorem join_jsonArray (items : List (List Piece)) :
    join (jsonArray items) = '[' :: ([','].intercalate (items.map join) ++ [']']) := by
  rw [jsonArray, join_cons, join_append, join_joinWithCommas]
  rfl

theorem join_jsonObject (fields : List (List Piece)) :
    join (jsonObject fields) = '\x7b' :: (join (joinWithCommas fields) ++ ['\x7d']) := by
  rw [jsonObject, join_cons, join_append]
  rfl

theorem mem_joinWithCommas (within : piece ∈ joinWithCommas items) :
    piece = jsonPlain "," ∨ ∃ item ∈ items, piece ∈ item := by
  cases items with
  | nil => cases within
  | cons item items =>
    rw [joinWithCommas, intercalate_commas, mem_append, mem_flatMap] at within
    rcases within with first | ⟨other, among, comma | ⟨_, found⟩⟩
    · exact .inr ⟨item, .head _, first⟩
    · exact .inl rfl
    · exact .inr ⟨other, .tail _ among, found⟩

theorem subset_joinWithCommas (among : item ∈ items) : item ⊆ joinWithCommas items := by
  cases items with
  | nil => cases among
  | cons first items =>
    rw [joinWithCommas, intercalate_commas]
    intro piece within
    rcases mem_cons.mp among with rfl | later
    · exact mem_append_left _ within
    · exact mem_append_right _ (mem_flatMap.mpr ⟨item, later, .tail _ within⟩)

theorem mem_join (within : piece ∈ pieces) (inside : c ∈ piece.text) : c ∈ join pieces :=
  mem_flatMap.mpr ⟨piece, within, inside⟩

theorem Neutral.commas (all : ∀ item ∈ items, Neutral (Text.join item)) :
    Neutral (Text.join (joinWithCommas items)) := by
  unfold joinWithCommas
  induction items with
  | nil => exact Neutral.nil
  | cons item items ih =>
    have first := all item (.head _)
    cases items with
    | nil => simpa using first
    | cons next items =>
      rw [intercalate_cons_cons, join_append, join_append]
      refine (first.append ?_).append (ih (forall_mem_cons.mp all).2)
      exact Neutral.chars (by decide)

theorem Neutral.array (all : ∀ item ∈ items, Neutral (Text.join item)) :
    Neutral (Text.join (jsonArray items)) := by
  rw [jsonArray, join_cons, join_append]
  refine (Neutral.chars (by decide)).append ((Neutral.commas all).append ?_)
  exact Neutral.chars (by decide)

theorem Neutral.field (simple : Simple key.toList) (neutral : Neutral (Text.join value)) :
    Neutral (Text.join (jsonField key value)) := by
  exact (Neutral.quoted simple.escaped).append ((Neutral.chars (by decide)).append neutral)

theorem isObject_jsonObject (all : fields.Forall fun field => Neutral (join field)) :
    IsObject (join (jsonObject fields)) :=
  ⟨_, Neutral.commas (forall_iff_forall_mem.mp all), join_jsonObject fields⟩

theorem IsObject.neutral (object : IsObject text) : Neutral text := by
  obtain ⟨body, neutral, rfl⟩ := object
  exact neutral.object

/-- A string, or text of digits and punctuation. -/
def Tidy : Piece → Prop
  | .quoted content => Escaped content
  | .plain text => ∀ c ∈ text, c ≠ '"' ∧ c.isAlpha = false

theorem Tidy.proper (tidy : Tidy piece) (letter : alien.isAlpha = true) : piece.Proper alien := by
  cases piece with
  | quoted content => exact tidy
  | plain text =>
    constructor
    · exact fun within => (tidy _ within).1 rfl
    · intro within
      rw [(tidy _ within).2] at letter
      cases letter

theorem tidy_jsonPlain (free : ∀ c ∈ s.toList, c ≠ '"' ∧ c.isAlpha = false) :
    Tidy (jsonPlain s) := free

theorem tidy_jsonString (s : String) : Tidy (jsonString s) := escaped_jsonEscape s

theorem tidy_jsonInt (n : Int) : Tidy (jsonInt n) := by
  intro c within
  rcases toString_int_chars n within with digit | rfl
  · constructor
    · rintro rfl
      cases digit
    · simp only [Char.isDigit, Char.isAlpha, Char.isUpper, Char.isLower] at *
      grind
  · decide

theorem neutral_jsonInt (n : Int) : Neutral (jsonInt n).text := by
  refine Neutral.chars fun c within => ?_
  rcases toString_int_chars n within with digit | rfl
  · refine ⟨?_, ?_, ?_⟩ <;> rintro rfl <;> cases digit
  · decide

theorem tidy_commas (all : ∀ item ∈ items, ∀ piece ∈ item, Tidy piece) :
    ∀ piece ∈ joinWithCommas items, Tidy piece := by
  intro piece within
  rcases mem_joinWithCommas within with rfl | ⟨item, among, found⟩
  · exact tidy_jsonPlain (by decide)
  · exact all item among piece found

def AllTidy (pieces : List Piece) : Prop := ∀ piece ∈ pieces, Tidy piece

theorem AllTidy.cons (first : Tidy piece) (others : AllTidy pieces) : AllTidy (piece :: pieces) :=
  forall_mem_cons.mpr ⟨first, others⟩

theorem AllTidy.nil : AllTidy [] := fun _ within => by cases within

theorem AllTidy.array (all : ∀ item ∈ items, AllTidy item) : AllTidy (jsonArray items) := by
  refine .cons (tidy_jsonPlain (by decide)) (forall_mem_append.mpr ⟨tidy_commas all, ?_⟩)
  exact AllTidy.cons (tidy_jsonPlain (by decide)) .nil

theorem AllTidy.object (all : fields.Forall AllTidy) : AllTidy (jsonObject fields) := by
  rw [forall_iff_forall_mem] at all
  refine .cons (tidy_jsonPlain (by decide)) (forall_mem_append.mpr ⟨tidy_commas all, ?_⟩)
  exact AllTidy.cons (tidy_jsonPlain (by decide)) .nil

theorem AllTidy.field (simple : Simple key.toList) (tidy : AllTidy value) :
    AllTidy (jsonField key value) :=
  .cons simple.escaped (.cons (tidy_jsonPlain (by decide)) tidy)

theorem AllTidy.strings (values : List String) : AllTidy (renderQuotedJsonStrings values) := by
  exact .array (forall_mem_map.mpr fun value _ => .cons (tidy_jsonString value) .nil)

/-- A search for a key finds it, or an earlier string that ends in its name. -/
theorem find_jsonKey (alien : Char) (tidy : AllTidy (front ++ jsonKey key :: tail))
    (letter : alien.isAlpha = true) (within : alien ∈ key.toList) (simple : Simple key.toList) :
    ∃ between, find (quotedName key) (join (front ++ jsonKey key :: tail)) =
        some (quotedName key ++ (join between ++ join tail)) ∧
      (between = [] ∨ ∃ before content after, front = before ++ .quoted content :: after ∧
        key.toList <:+ content ∧ between = after ++ [jsonKey key]) := by
  obtain ⟨between, found, place⟩ := find_quoted_word
    (fun piece among => (tidy piece among).proper letter) within simple
  refine ⟨between, found.trans ?_, place⟩
  simp [quotedName]

end

section

/-- The strings before a colon, which are the keys, are all of a kind. -/
def Keyed (kind : List Char → Prop) : List Piece → Prop
  | [] => True
  | .quoted content :: rest => ((join rest).head? = some ':' → kind content) ∧ Keyed kind rest
  | .plain _ :: rest => Keyed kind rest

variable {kind : List Char → Prop}

theorem Keyed.append (first : Keyed kind left) (second : Keyed kind right)
    (noColon : (join right).head? ≠ some ':') : Keyed kind (left ++ right) := by
  induction left with
  | nil => exact second
  | cons piece left ih =>
    cases piece with
    | plain text => exact ih first
    | quoted content =>
      refine ⟨fun colon => first.1 ?_, ih first.2⟩
      replace colon : (join (left ++ right)).head? = some ':' := colon
      rw [join_append, head?_append] at colon
      cases head : (join left).head? with
      | none =>
        rw [head] at colon
        exact absurd colon noColon
      | some c =>
        rw [head] at colon
        exact colon

theorem Keyed.split (keyed : Keyed kind (before ++ .quoted content :: after))
    (colon : (join after).head? = some ':') : kind content := by
  induction before with
  | nil => exact keyed.1 colon
  | cons piece before ih =>
    cases piece with
    | plain text => exact ih keyed
    | quoted other => exact ih keyed.2

theorem Keyed.field (ofKind : kind key.toList) (keyed : Keyed kind value) :
    Keyed kind (jsonField key value) :=
  ⟨fun _ => ofKind, keyed⟩

theorem Keyed.commas (all : ∀ item ∈ items, Keyed kind item)
    (noColon : ∀ item ∈ items, (join item).head? ≠ some ':') :
    Keyed kind (joinWithCommas items) := by
  unfold joinWithCommas
  induction items with
  | nil => trivial
  | cons item items ih =>
    have first := all item (.head _)
    cases items with
    | nil => simpa using first
    | cons next items =>
      have comma : (join ([jsonPlain ","] ++ [jsonPlain ","].intercalate (next :: items))).head? =
          some ',' := rfl
      rw [intercalate_cons_cons, append_assoc]
      refine first.append (ih (forall_mem_cons.mp all).2
        (forall_mem_cons.mp noColon).2) ?_
      rw [comma]
      decide

theorem Keyed.array (all : ∀ item ∈ items, Keyed kind item)
    (noColon : ∀ item ∈ items, (join item).head? ≠ some ':') : Keyed kind (jsonArray items) :=
  (Keyed.commas all noColon).append trivial (by decide)

theorem Keyed.object (all : fields.Forall (Keyed kind))
    (noColon : ∀ field ∈ fields, (join field).head? ≠ some ':') : Keyed kind (jsonObject fields) :=
  (Keyed.commas (forall_iff_forall_mem.mp all) noColon).append trivial (by decide)

/-- A text whose keys do not end in the word does not hold the word as the key of a string. -/
theorem not_infix_key (proper : ∀ piece ∈ pieces, piece.Proper alien) (within : alien ∈ word)
    (simple : Simple word) (keyed : Keyed (fun key => ¬ word <:+ key) pieces) :
    ¬ '"' :: (word ++ ['"', ':', '"']) <:+: join pieces := by
  rintro ⟨front, rest, whole⟩
  have suffix : '"' :: (word ++ '"' :: (':' :: '"' :: rest)) <:+ join pieces :=
    ⟨front, by rw [← whole]; simp⟩
  obtain ⟨before, content, after, rfl, ends, same⟩ :=
    quoted_word_ends proper within simple suffix
  exact keyed.split (by rw [← same]; rfl) ends

section
variable (front : List Piece) {value : List Piece} (alien : Char)
  (proper : ∀ piece ∈ front ++ jsonField key value, piece.Proper alien)
  (within : alien ∈ key.toList) (simple : Simple key.toList)
  (keyed : Keyed (fun other => ¬ key.toList <:+ other) front)
include proper within simple keyed

theorem keyed_suffix
    (suffix : '"' :: (key.toList ++ '"' :: ':' :: rest) <:+ join (front ++ jsonField key value)) :
    rest = join value ∨ ∃ before other after, value = before ++ .quoted other :: after ∧
      key.toList <:+ other ∧ ':' :: rest = join after := by
  obtain ⟨before, other, after, cut, ends, same⟩ :=
    quoted_word_ends proper within simple suffix
  rcases append_eq_append_iff.mp cut with ⟨middle, rfl, left⟩ | ⟨middle, rfl, left⟩
  · match middle, left with
    | [], left =>
      obtain ⟨_, rfl⟩ := cons.inj left
      exact .inl (cons.inj same).2
    | [piece], left => cases left
    | piece :: colon :: middle, left =>
      exact .inr ⟨middle, other, after, (cons.inj (cons.inj left).2).2, ends, same⟩
  · cases middle with
    | nil =>
      obtain ⟨_, rfl⟩ := cons.inj left
      exact .inl (cons.inj same).2
    | cons piece middle =>
      obtain ⟨rfl, rfl⟩ := cons.inj left
      refine absurd ends (keyed.split ?_)
      have head := congrArg head? same
      rw [append_eq, join_append, head?_append] at head
      cases first : (join middle).head? with
      | none =>
        rw [first] at head
        cases head
      | some c =>
        rw [first] at head
        exact head.symm

theorem find_keyed (more : List Char) (stands : more <+: join value) :
    find ('"' :: (key.toList ++ '"' :: ':' :: more)) (join (front ++ jsonField key value)) =
      some ('"' :: (key.toList ++ '"' :: ':' :: join value)) := by
  obtain ⟨behind, whole⟩ := stands
  have place : '"' :: (key.toList ++ '"' :: ':' :: join value) <:+
      join (front ++ jsonField key value) :=
    ⟨join front, by simp [jsonField, jsonKey, jsonPlain, Piece.text]⟩
  obtain ⟨found, answer, earlier⟩ := find_first place
    (show '"' :: (key.toList ++ '"' :: ':' :: more) <+: _ from ⟨behind, by simp [← whole]⟩)
  obtain ⟨suffix, rest, rfl⟩ := find_some answer
  have shape : '"' :: (key.toList ++ '"' :: ':' :: more) ++ rest =
      '"' :: (key.toList ++ '"' :: ':' :: (more ++ rest)) := by simp
  rw [shape] at suffix earlier answer
  rcases keyed_suffix front alien proper within simple keyed suffix with
    here | ⟨before, other, after, rfl, _, same⟩
  · rw [answer, here]
  · -- a later match is not the first
    have short := earlier.length_le
    have long := congrArg length same
    simp [Piece.text] at short long
    omega

end

/-- Reading a string field: keys before it may hold no key that ends in its name. -/
theorem parseJsonStringField_keyed (front tail : List Piece) (alien : Char)
    (proper : ∀ piece ∈ front ++ jsonField key (.quoted content :: tail), piece.Proper alien)
    (within : alien ∈ key.toList) (simple : Simple key.toList)
    (keyed : Keyed (fun other => ¬ key.toList <:+ other) front) :
    parseJsonStringField (join (front ++ jsonField key (.quoted content :: tail))) key =
      .ok (String.ofList (readString (content ++ '"' :: join tail))) := by
  rw [parseJsonStringField, find_keyed front alien proper within simple keyed ['"']
    ⟨content ++ '"' :: join tail, by simp [Piece.text]⟩]
  simp [Piece.text]

end

end BigQueryEmulator.Storage
