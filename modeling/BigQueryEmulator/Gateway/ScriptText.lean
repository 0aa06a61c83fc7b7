import BigQueryEmulator.Text.Trim

/-! How the gateway reads the text of a script (`script_runner.go`, `script_runner_googlesql.go`):
it takes the text apart at semicolons and tells the statements by their first word, with the
functions on texts of its libraries. -/
namespace BigQueryEmulator.Gateway
open Text

abbrev Sql := List Char

/-- `unicode.IsSpace`. -/
def isSpace (c : Char) : Bool :=
  ('\t' ≤ c && c ≤ '\r') || c = ' ' || c = '\u0085' || c = '\u00a0' || c = '\u1680' ||
    ('\u2000' ≤ c && c ≤ '\u200a') || c = '\u2028' || c = '\u2029' || c = '\u202f' ||
    c = '\u205f' || c = '\u3000'

/-- `absl::ascii_isspace`. -/
def isAsciiSpace (c : Char) : Bool := ('\t' ≤ c && c ≤ '\r') || c = ' '

def trimSpace : Sql → Sql := trim isSpace

/-- `strings.ToUpper` as far as words of ASCII letters are looked for in its result: two letters
beyond ASCII have an upper case in ASCII. -/
def upperChar (c : Char) : Char :=
  if c = '\u0131' then 'I' else if c = '\u017f' then 'S' else c.toUpper

def toUpper (text : Sql) : Sql := text.map upperChar

def contains (text : Sql) (word : String) : Bool := (find word.toList text).isSome

def hasPrefix (text : Sql) (word : String) : Bool := word.toList.isPrefixOf text

/-- `strings.TrimSuffix` of a character. -/
def trimSuffix (text : Sql) (c : Char) : Sql :=
  if text.getLast? = some c then text.dropLast else text

/-- `strings.Cut` at a character. -/
def cut (text : Sql) (c : Char) : Option (Sql × Sql) :=
  match text.span (· ≠ c) with
  | (_, []) => none
  | (before, _ :: after) => some (before, after)

/-- `strings.ToUpper(strings.TrimSpace(text)) == word`, for a word of upper case. -/
def isWord (text word : String) : Bool := toUpper (trimSpace text.toList) = word.toList

/-- The text without its block comments. Of a comment that is not closed, the last character
stays. -/
def dropBlockComments : (inside : Bool) → Sql → Sql
  | false, '/' :: '*' :: rest => dropBlockComments true rest
  | false, c :: rest => c :: dropBlockComments false rest
  | true, '*' :: '/' :: rest => dropBlockComments false rest
  | true, [c] => [c]
  | true, _ :: rest => dropBlockComments true rest
  | _, [] => []

variable (sql : Sql)

def stripBlockComments : Sql := dropBlockComments false sql

def isCommentLine (line : Sql) : Bool := hasPrefix (trimSpace line) "--"

def trimLeadingSQLComments : Sql :=
  trimSpace (List.intercalate ['\n'] ((sql.splitOn '\n').filter fun line => !isCommentLine line))

def sqlForScriptDetection : Sql := trimLeadingSQLComments (stripBlockComments sql)

def isCommentOnlyStatement (stmt : Sql) : Bool :=
  (stmt.splitOn '\n').all fun line => (trimSpace line).isEmpty || isCommentLine line

/-- `\s` of the regular expressions. -/
def isRegexSpace (c : Char) : Bool := c = '\t' || c = '\n' || c = '\x0c' || c = '\r' || c = ' '

/-- The text between BEGIN and END, which both have a blank on their inner side
(`beginEndBlockRE`). -/
def beginEndBody (trimmed : Sql) : Option Sql :=
  let upToEnd := (trimSuffix (trimmed.rdropWhile isRegexSpace) ';').rdropWhile isRegexSpace
  let folded := upToEnd.map Char.toUpper
  if hasPrefix folded "BEGIN" && "END".toList.isSuffixOf folded then
    let body := (upToEnd.drop 5).take (upToEnd.length - 8)
    match body with
    | first :: rest =>
      if isRegexSpace first && (rest.getLast?.map isRegexSpace).getD false then some body else none
    | [] => none
  else none

def unwrapBeginEndBlock : Sql :=
  match beginEndBody (trimSpace sql) with
  | some body => trimSpace body
  | none => sql

def keepStatement (collected : Sql) : List Sql :=
  let stmt := trimSpace collected.reverse
  if stmt.isEmpty || isCommentOnlyStatement stmt then [] else [stmt]

/-- The statements of the rest of the text; `collected` is the statement in progress, backwards. -/
def splitFrom : (inQuote : Bool) → (collected : Sql) → Sql → List Sql
  | _, collected, [] => keepStatement collected
  | inQuote, collected, c :: rest =>
    if c = '\'' then splitFrom (!inQuote) (c :: collected) rest
    else if c = ';' && !inQuote then keepStatement collected ++ splitFrom inQuote [] rest
    else splitFrom inQuote (c :: collected) rest

def splitScriptStatements : List Sql := splitFrom false [] sql

inductive ScriptStmtKind where
  | declare | set | call | query
deriving DecidableEq

structure ScriptStatement where
  kind : ScriptStmtKind
  sql : Sql
  name : Sql := []

def parseSetStatement : Sql × Sql :=
  match cut (trimSpace (sql.drop 4)) '=' with
  | none => ([], sql)
  | some (before, after) => (trimSpace before, trimSuffix (trimSpace after) ';')

def classifyScriptStatement : ScriptStatement :=
  let trimmed := trimLeadingSQLComments sql
  let upper := toUpper trimmed
  if hasPrefix upper "DECLARE " then
    let rest := trimSpace (trimmed.drop 8)
    let word := rest.takeWhile fun c => c ≠ ' ' && c ≠ '\t'
    { kind := .declare, sql := trimmed, name := if word.isEmpty then rest else word }
  else if hasPrefix upper "SET " then
    let (name, body) := parseSetStatement trimmed
    { kind := .set, sql := body, name }
  else if hasPrefix upper "CALL " then { kind := .call, sql := trimmed }
  else { kind := .query, sql := trimmed }

def startsControlFlow (upper : Sql) : Bool :=
  ["IF ", "WHILE ", "LOOP ", "REPEAT", "FOR ", "RAISE ", "EXECUTE IMMEDIATE", "EXCEPTION"].any
    (hasPrefix upper)

def holdsControlFlow (upper : Sql) : Bool :=
  [" IF ", "\nIF ", " WHILE ", "\nWHILE ", " LOOP ", "\nLOOP ", " REPEAT", "\nREPEAT"].any
      (contains upper) ||
    (contains upper " FOR " && contains upper " IN ") ||
    (contains upper "\nFOR " && contains upper " IN ") ||
    ["EXCEPTION", " RAISE ", "\nRAISE ", "EXECUTE IMMEDIATE"].any (contains upper)

def scriptNeedsGoogleSQLExecutor : Bool :=
  startsControlFlow (toUpper (trimSpace (sqlForScriptDetection sql))) ||
    holdsControlFlow (toUpper (sqlForScriptDetection sql))

def declareToCreateConstant (stmt : Sql) : Sql :=
  let trimmed := trimLeadingSQLComments (trimSpace stmt)
  if hasPrefix (toUpper trimmed) "DECLARE " then
    let rest := trimSuffix (trimSpace (trimmed.drop 8)) ';'
    let (typed, default) :=
      match (cutAt " DEFAULT ".toList (toUpper rest)).2 with
      | none => (rest, [])
      | some found =>
        let start := rest.length - found.length
        (trimSpace (rest.take start), trimSpace (rest.drop (start + 9)))
    match cut typed ' ' with
    | none => trimmed
    | some (before, after) =>
      if default.isEmpty then
        "CREATE CONSTANT ".toList ++ trimSpace before ++ " = CAST(NULL AS ".toList ++
          trimSpace after ++ [')']
      else "CREATE CONSTANT ".toList ++ trimSpace before ++ " = ".toList ++ default
  else trimmed

def transformScriptDeclares : Sql :=
  let inner := unwrapBeginEndBlock sql
  if scriptNeedsGoogleSQLExecutor inner then trimSpace sql
  else
    match splitScriptStatements inner with
    | [] => inner
    | parts => List.intercalate ";\n".toList (parts.map declareToCreateConstant)

end BigQueryEmulator.Gateway
