/-
Reading statements on sessions and transactions.

* `Sql.transactionModes` — how a transaction sees others;
* `Sql.setAt` — a setting;
* `Sql.showAt` — what is shown.

Of the text of a statement the beginning is given: the words that say what kind of statement it is.
The readers of whole statements begin after their keyword.
-/

import SqlPipeline.Sql.Grammar.Queries

set_option autoImplicit false

namespace SqlPipeline.Sql

open Reader

/-! ### Transactions -/

/-- How a transaction sees others, if it is said. -/
def transactionMode? : Reader (Option String) := do
  let ways := [["ISOLATION", "LEVEL", "READ", "UNCOMMITTED"],
    ["ISOLATION", "LEVEL", "READ", "COMMITTED"], ["ISOLATION", "LEVEL", "REPEATABLE", "READ"],
    ["ISOLATION", "LEVEL", "SERIALIZABLE"], ["READ", "ONLY"], ["READ", "WRITE"]]
  return (← phrase? ways).map (" ".intercalate ·)

/-- At most `fuel` ways in which a transaction sees others; commas may stand between them, and one
has to follow a comma. -/
def transactionModesUpTo (required : Bool) : Nat → Reader (List String)
  | 0 => return []
  | fuel + 1 => do
    match ← transactionMode? with
    | some m => return m :: (← transactionModesUpTo (← symbol? ",") fuel)
    | none => if required then fail else return []

def transactionModes : Reader String := do
  return commaText (← transactionModesUpTo false ((← get).length + 1))

/-- Whether another transaction begins at once. -/
def chainText : Reader String := do
  let _ ← oneOf? ["TRANSACTION", "WORK"]
  if ← keyword? "AND" then
    let no ← keyword? "NO"
    keyword "CHAIN"
    return if no then "" else "AND CHAIN"
  else return ""

/-- The end of a transaction without its effects. -/
def rollbackAt : Reader String := do
  let chain ← chainText
  if ← keyword? "TO" then
    let _ ← keyword? "SAVEPOINT"
    return wordsText ["ROLLBACK", chain, "TO SAVEPOINT", (← ident).text]
  else return wordsText ["ROLLBACK", chain]

def beginAt : Reader String := do
  let modifier ← oneOfText ["DEFERRED", "IMMEDIATE", "EXCLUSIVE"]
  let _ ← oneOf? ["TRANSACTION", "WORK"]
  return wordsText ["BEGIN", modifier, "TRANSACTION", ← transactionModes]

/-! ### Settings -/

/-- A role that is taken on, in a scope. -/
def roleAt (scope : String) : Reader String := do
  keyword "ROLE"
  let name ← if ← keyword? "NONE" then pure "NONE" else pure (← ident).text
  return wordsText ["SET", scope, "ROLE", name]

/-- What is set: the zone of times, several settings in parentheses, or one by its name. -/
def settingNameAt : Reader (Written Bool) := do
  if ← keywords? ["TIME", "ZONE"] then return ⟨false, "TIMEZONE"⟩
  else if ← peekSymbol "(" then return ⟨true, "(" ++ identsText (← identList) ++ ")"⟩
  else return ⟨false, pathText (← path)⟩

/-- A value of a setting: an expression, or a query. -/
def settingValueAt (n : Nested) : Reader String := do
  if ← peekOneOf ["SELECT", "WITH"] then return (← n.query).text else return (← n.anyExpr).text

/-- The characters that texts are sent in, after their keyword. -/
def charactersAt : Reader Unit := do
  unless ← keyword? "DEFAULT" do
    let _ ← stringValue
    if ← keyword? "COLLATE" then
      let _ ← stringValue

/-- A setting of the given name that is given no value by an equals sign. -/
def specialSettingAt (n : Nested) (scope name : String) : Reader String := do
  if name.toUpper == "TIMEZONE" then
    let _ ← n.anyExpr
    return wordsText ["SET", if scope == "LOCAL" then scope else "", "TIME ZONE"]
  else if name == "CHARACTERISTICS" then
    keywords ["AS", "TRANSACTION"]
    let _ ← transactionModes
    return "SET SESSION CHARACTERISTICS AS TRANSACTION"
  else if name == "TRANSACTION" && scope.isEmpty then
    if ← keyword? "SNAPSHOT" then
      let _ ← valueAt
    else
      let _ ← transactionModes
    return "SET TRANSACTION"
  else fail

/-- A setting that is no role, in a scope. -/
def settingAt (n : Nested) (scope : String) : Reader String := do
  let name ← settingNameAt
  if !name.value && name.text.toUpper == "NAMES" then
    charactersAt
    return "SET NAMES"
  let assigned ← do if ← symbol? "=" then pure true else keyword? "TO"
  if assigned then
    let values := commaList (settingValueAt n)
    let _ ← if name.value then parenthesized values else values
    let lead := if scope == "HIVEVAR" then "HIVEVAR:" else ""
    return wordsText ["SET", if scope == "LOCAL" then scope else "", lead ++ name.text]
  else if name.value then fail
  else specialSettingAt n scope name.text

def setAt (n : Nested) : Reader String := do
  let scope ← oneOfText ["SESSION", "LOCAL", "HIVEVAR"]
  if scope == "HIVEVAR" then
    symbol ":"
    settingAt n scope
  else
    match ← attempt (roleAt scope) with
    | some text => return text
    | none => settingAt n scope

/-! ### What is shown -/

/-- Which of the objects are shown. -/
def showFilter? (n : Nested) : Reader Unit := do
  if (← oneOf? ["LIKE", "ILIKE"]).isSome then
    let _ ← stringValue
  else if ← keyword? "WHERE" then
    let _ ← n.anyExpr
  else
    let _ ← attempt stringValue

/-- The place the objects that are shown are in, if it is named. -/
def showOrigin? : Reader Unit := do
  if (← oneOf? ["FROM", "IN"]).isSome then
    let _ ← ident

/-- The words up to an equals sign or the end of the text, which name a setting. -/
def settingWords : Reader (List String) := do
  let ts ← get
  let goesOn := fun (t : Token) => t != .symbol "="
  set (ts.dropWhile goesOn)
  return (ts.takeWhile goesOn).filterMap fun
    | .word v q => some (Ident.text ⟨v, q⟩)
    | _ => none

/-- What is shown with a filter, or the setting that is shown; the words before it say for which
scope. -/
def showPlainAt (n : Nested) (session whole : String) : Reader String := do
  match ← oneOf? ["CREATE", "COLLATION", "VARIABLES", "STATUS", "DATABASES", "SCHEMAS"] with
  | some "CREATE" =>
    let k ← oneOf ["TABLE", "TRIGGER", "FUNCTION", "PROCEDURE", "EVENT", "VIEW"]
    let _ ← path
    return "SHOW CREATE " ++ k
  | some k =>
    showFilter? n
    if k == "VARIABLES" || k == "STATUS" then return wordsText ["SHOW", whole, session, k]
    else return "SHOW " ++ k
  | none => return wordsText ("SHOW" :: (← settingWords))

def showAt (n : Nested) : Reader String := do
  let extended ← keywordText "EXTENDED"
  let full ← keywordText "FULL"
  let session ← keywordText "SESSION"
  let whole ← keywordText "GLOBAL"
  if ← keywords? ["MATERIALIZED", "VIEWS"] then
    showOrigin?
    showFilter? n
    return "SHOW MATERIALIZED VIEWS"
  match ← oneOf? ["COLUMNS", "FIELDS", "TABLES", "VIEWS", "FUNCTIONS"] with
  | some "TABLES" =>
    showOrigin?
    showFilter? n
    return wordsText ["SHOW", extended, full, "TABLES"]
  | some "VIEWS" =>
    showOrigin?
    showFilter? n
    return "SHOW VIEWS"
  | some "FUNCTIONS" =>
    showFilter? n
    return "SHOW FUNCTIONS"
  | some _ =>
    let _ ← oneOf ["FROM", "IN"]
    let _ ← path
    showOrigin?
    showFilter? n
    return wordsText ["SHOW", extended, full, "COLUMNS"]
  | none => if extended.isEmpty && full.isEmpty then showPlainAt n session whole else fail

end SqlPipeline.Sql
