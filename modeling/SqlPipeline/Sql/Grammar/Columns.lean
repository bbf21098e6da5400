/-
Reading the columns of a table, and what may be said of a constraint.

* `Sql.sqlOptionAt` — a name with a value, or one of the layouts of a table;
* `Sql.sequenceOptions` — how a sequence of numbers goes on;
* `Sql.constraintTiming` — when a constraint is checked;
* `Sql.columnAt` — a column with its type and its options, over a reader of types.

Every reader gives the text in normal form, because the type of a column can itself be a list of
columns, and types are shown in messages.
-/

import SqlPipeline.Sql.Grammar.Values
import SqlPipeline.Sql.Nested

set_option autoImplicit false

namespace SqlPipeline.Sql

open Reader

/-! ### Texts -/

/-- Words with a blank between them, without the empty ones. -/
def wordsText (ws : List String) : String :=
  " ".intercalate (ws.filter (· ≠ ""))

/-- The keyword if it is next, and otherwise an empty text. -/
def keywordText (k : String) : Reader String := do
  if ← keyword? k then return k else return ""

def keywordsText (ks : List String) : Reader String := do
  if ← keywords? ks then return " ".intercalate ks else return ""

def oneOfText (ks : List String) : Reader String := do
  return (← oneOf? ks).getD ""

/-! ### Options -/

/-- A column of an index with its direction. -/
def directedColumn : Reader String := do
  let name ← ident
  return wordsText [name.text, ← oneOfText ["ASC", "DESC"]]

/-- How the rows of a table are clustered, from its keyword on. -/
def clusteredAt : Reader String := do
  if ← keywords? ["CLUSTERED", "COLUMNSTORE", "INDEX", "ORDER"] then
    return "CLUSTERED COLUMNSTORE INDEX ORDER (" ++ identsText (← identList) ++ ")"
  else if ← keywords? ["CLUSTERED", "COLUMNSTORE", "INDEX"] then
    return "CLUSTERED COLUMNSTORE INDEX"
  else
    keywords ["CLUSTERED", "INDEX"]
    let columns ← parenthesized (commaList directedColumn)
    return "CLUSTERED INDEX (" ++ commaText columns ++ ")"

/-- How the rows of a table are divided by the ranges of a column, after its keyword. -/
def rangesAt (n : Nested) : Reader String := do
  symbol "("
  let column ← ident
  keyword "RANGE"
  let side ← oneOf? ["LEFT", "RIGHT"]
  keywords ["FOR", "VALUES"]
  let values ← parenthesized n.exprs
  symbol ")"
  return "PARTITION (" ++ column.text ++ " RANGE" ++ (side.map (" " ++ ·)).getD ""
    ++ " FOR VALUES (" ++ exprsText values ++ "))"

/-- A name with a value, or one of the layouts of a table. -/
def sqlOptionAt (n : Nested) : Reader String := do
  if ← peekOneOf ["HEAP"] then return (← ident).text
  else if ← keyword? "PARTITION" then rangesAt n
  else if ← peekOneOf ["CLUSTERED"] then clusteredAt
  else
    let name ← ident
    symbol "="
    return name.text ++ " = " ++ (← n.anyExpr).text

/-- Options in parentheses, after their keyword. -/
def optionList (n : Nested) : Reader String := do
  let os ← parenthesized (commaList (sqlOptionAt n))
  return "(" ++ commaText os ++ ")"

/-- Options in parentheses after a keyword, if it is next. -/
def options? (n : Nested) (k : String) : Reader String := do
  if ← keyword? k then return k ++ (← optionList n) else return ""

/-! ### Sequences -/

/-- A bound of a sequence, or that it has none. -/
def sequenceBound? (k : String) : Reader String := do
  if ← keyword? k then return " " ++ k ++ " " ++ (← numberAt).text
  else if ← keywords? ["NO", k] then return " NO " ++ k
  else return ""

/-- A number of a sequence after a keyword and a word that may be left out. -/
def sequenceNumber? (k filler : String) : Reader String := do
  if ← keyword? k then
    let filled ← keyword? filler
    return " " ++ k ++ (if filled then " " ++ filler else "") ++ " " ++ (← numberAt).text
  else return ""

/-- How a sequence of numbers goes on: its step, its bounds, its start, and whether it is kept
ready and begins anew, in this order. -/
def sequenceOptions : Reader String := do
  let step ← sequenceNumber? "INCREMENT" "BY"
  let low ← sequenceBound? "MINVALUE"
  let high ← sequenceBound? "MAXVALUE"
  let start ← sequenceNumber? "START" "WITH"
  let cache ← if ← keyword? "CACHE" then pure (" CACHE " ++ (← numberAt).text) else pure ""
  let cycle ←
    if ← keywords? ["NO", "CYCLE"] then pure " NO CYCLE"
    else if ← keyword? "CYCLE" then pure " CYCLE"
    else pure ""
  return step ++ low ++ high ++ start ++ cache ++ cycle

/-! ### Constraints -/

/-- What is said of the moment a constraint is checked. -/
structure Timing where
  /-- Whether the check can wait. -/
  deferrable : Option String := none
  /-- Whether it waits at first. -/
  initially : Option String := none
  /-- Whether there is a check. -/
  enforced : Option String := none

/-- One more statement on the moment a constraint is checked; each can be made once. -/
def timing? (t : Timing) : Reader (Option Timing) := do
  if t.deferrable.isNone then
    if ← keywords? ["NOT", "DEFERRABLE"] then return some { t with deferrable := "NOT DEFERRABLE" }
    if ← keyword? "DEFERRABLE" then return some { t with deferrable := "DEFERRABLE" }
  if t.initially.isNone then
    if ← keyword? "INITIALLY" then
      return some { t with initially := "INITIALLY " ++ (← oneOf ["DEFERRED", "IMMEDIATE"]) }
  if t.enforced.isNone then
    if ← keyword? "ENFORCED" then return some { t with enforced := "ENFORCED" }
    if ← keywords? ["NOT", "ENFORCED"] then return some { t with enforced := "NOT ENFORCED" }
  return none

def constraintTiming : Reader String := do
  let step (t : Timing) : Reader Timing := do return (← timing? t).getD t
  let t ← step (← step (← step {}))
  return wordsText [t.deferrable.getD "", t.initially.getD "", t.enforced.getD ""]

/-- What happens to a row when the row it refers to changes. -/
def referenceAction : Reader String := do
  if ← keyword? "RESTRICT" then return "RESTRICT"
  if ← keyword? "CASCADE" then return "CASCADE"
  if ← keywords? ["SET", "NULL"] then return "SET NULL"
  if ← keywords? ["NO", "ACTION"] then return "NO ACTION"
  keywords ["SET", "DEFAULT"]
  return "SET DEFAULT"

/-- What happens to a row when the row it refers to is deleted or updated, each at most once. -/
def referenceActions : Reader String := do
  let event? (e : String) : Reader String := do
    if ← keywords? ["ON", e] then return "ON " ++ e ++ " " ++ (← referenceAction) else return ""
  let early ← event? "DELETE"
  let update ← event? "UPDATE"
  let delete ← if early.isEmpty then event? "DELETE" else pure early
  return wordsText [delete, update]

/-! ### Columns -/

/-- A sequence that the values of a column are taken from, in parentheses if more is said of it. -/
def identitySequence? : Reader String := do
  if ← symbol? "(" then
    let os ← sequenceOptions
    symbol ")"
    return if os.isEmpty then "" else " (" ++ os ++ " )"
  else return ""

/-- An expression that the values of a column are computed from. -/
def computedAt (n : Nested) (lead : String) : Reader String := do
  let e ← n.anyExpr
  symbol ")"
  return wordsText [lead ++ " (" ++ e.text ++ ")", ← oneOfText ["STORED", "VIRTUAL"]]

/-- How the values of a column are generated, after the keyword; what reads like the beginning of
a rule and is none says nothing. -/
def generated? (n : Nested) : Reader (Option String) := do
  if ← keywords? ["ALWAYS", "AS", "IDENTITY"] then
    return some ("GENERATED ALWAYS AS IDENTITY" ++ (← identitySequence?))
  else if ← keywords? ["BY", "DEFAULT", "AS", "IDENTITY"] then
    return some ("GENERATED BY DEFAULT AS IDENTITY" ++ (← identitySequence?))
  else if ← keywords? ["ALWAYS", "AS"] then
    if ← symbol? "(" then return some (← computedAt n "GENERATED ALWAYS AS") else return none
  else return none

/-- The first number of a key that is counted up, and its step. -/
def identityAt : Reader String := do
  if ← symbol? "(" then
    let seed ← numberAt
    symbol ","
    let step ← numberAt
    symbol ")"
    return "IDENTITY(" ++ seed.text ++ ", " ++ step.text ++ ")"
  else return "IDENTITY"

/-- The table and columns that the values of a column refer to. -/
def referenceAt : Reader String := do
  let table ← path
  let columns ← identList?
  let actions ← referenceActions
  let timing ← constraintTiming
  return wordsText ["REFERENCES", pathText table,
    if columns.isEmpty then "" else "(" ++ identsText columns ++ ")", actions, timing]

/-- An option of a column, if one is next, and whether it makes the column the primary key. -/
def columnOption? (n : Nested) : Reader (Option (Written Bool)) := do
  let plain (text : String) : Reader (Option (Written Bool)) := return some ⟨false, text⟩
  if ← keywords? ["CHARACTER", "SET"] then return ← plain ("CHARACTER SET " ++ pathText (← path))
  if ← keywords? ["NOT", "NULL"] then return ← plain "NOT NULL"
  if ← keywords? ["PRIMARY", "KEY"] then
    return some ⟨true, wordsText ["PRIMARY KEY", ← constraintTiming]⟩
  if ← keywords? ["ON", "UPDATE"] then return ← plain ("ON UPDATE " ++ (← n.anyExpr).text)
  if ← keywords? ["ON", "CONFLICT"] then
    return ← plain ("ON CONFLICT " ++ (← oneOf ["ROLLBACK", "ABORT", "FAIL", "IGNORE", "REPLACE"]))
  let k ← oneOf? ["COMMENT", "NULL", "DEFAULT", "MATERIALIZED", "ALIAS", "EPHEMERAL", "UNIQUE",
    "REFERENCES", "CHECK", "AUTO_INCREMENT", "AUTOINCREMENT", "ASC", "DESC", "GENERATED", "OPTIONS",
    "AS", "IDENTITY"]
  match k with
  | none => return none
  | some "COMMENT" => plain ("COMMENT " ++ inQuotes '\'' (← quotedString))
  | some "DEFAULT" => plain ("DEFAULT " ++ (← n.anyExpr).text)
  | some "MATERIALIZED" => plain ("MATERIALIZED " ++ (← n.anyExpr).text)
  | some "ALIAS" => plain ("ALIAS " ++ (← n.anyExpr).text)
  | some "EPHEMERAL" =>
    if (← peekSymbol ",") || (← peekSymbol ")") then plain "EPHEMERAL"
    else plain ("EPHEMERAL " ++ (← n.anyExpr).text)
  | some "UNIQUE" => plain (wordsText ["UNIQUE", ← constraintTiming])
  | some "REFERENCES" => plain (← referenceAt)
  | some "CHECK" => plain ("CHECK (" ++ (← parenthesized n.anyExpr).text ++ ")")
  | some "GENERATED" => return (← generated? n).map (⟨false, ·⟩)
  | some "OPTIONS" => plain ("OPTIONS" ++ (← optionList n))
  | some "AS" =>
    symbol "("
    plain (← computedAt n "AS")
  | some "IDENTITY" => plain (← identityAt)
  | some k => plain k

/-- An option of a column, possibly under a name. -/
def namedColumnOption? (n : Nested) : Reader (Option (Written Bool)) := do
  if ← keyword? "CONSTRAINT" then
    let name ← ident
    match ← columnOption? n with
    | some o => return some ⟨o.value, "CONSTRAINT " ++ name.text ++ " " ++ o.text⟩
    | none => fail
  else columnOption? n

/-- What may follow the type of a column: an option, or the order of its texts. -/
def columnPart? (n : Nested) : Reader (Option (Written Bool ⊕ List Ident)) := do
  match ← namedColumnOption? n with
  | some o => return some (.inl o)
  | none => if ← keyword? "COLLATE" then return some (.inr (← path)) else return none

/-- A column with its type and its options, over a reader of types. -/
def columnWith (n : Nested) (typeName : Reader TypeName) : Reader (Written ColumnSpec) := do
  let name ← ident
  let type ← typeName
  let parts ← while? (columnPart? n)
  let options := parts.filterMap Sum.getLeft?
  let collation := (parts.filterMap Sum.getRight?).getLast?
  return {
    value := { name, type, primaryKey := options.any (·.value) }
    text := wordsText ([name.text, type.text,
      (collation.map fun c => "COLLATE " ++ pathText c).getD ""] ++ options.map (·.text)) }

end SqlPipeline.Sql
