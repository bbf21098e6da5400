/-
Reading commands: statements on savepoints, cursors and prepared statements, on databases and
privileges, and the rows of one table merged into another.

* `Sql.privilegesAt` — what is granted or taken back, and on what;
* `Sql.mergeAt` — rows that are merged into a table;
* `Sql.commandWords`, `Sql.commandAt` — the words that commands begin with, and a command.

Of the text of a command the beginning is given: the words that say what kind of statement it is.
The readers of whole commands begin after their keyword.
-/

import SqlPipeline.Sql.Grammar.Alterations
import SqlPipeline.Sql.Grammar.Changes

set_option autoImplicit false

namespace SqlPipeline.Sql

open Reader

/-! ### Privileges -/

/-- A privilege, with the columns that it is restricted to. -/
def privilegeAt : Reader String := do
  let k ← oneOf ["CONNECT", "CREATE", "DELETE", "EXECUTE", "INSERT", "REFERENCES", "SELECT",
    "TEMPORARY", "TRIGGER", "TRUNCATE", "UPDATE", "USAGE"]
  if ["INSERT", "REFERENCES", "SELECT", "UPDATE"].contains k then
    let columns ← identList?
    return k ++ if columns.isEmpty then "" else " (" ++ identsText columns ++ ")"
  else return k

/-- Privileges, and the objects that they are on. -/
def privilegesAt : Reader String := do
  let text ←
    if ← keyword? "ALL" then pure (wordsText ["ALL", ← keywordText "PRIVILEGES"])
    else pure (commaText (← commaList privilegeAt))
  keyword "ON"
  let whole ← phrase? [["ALL", "TABLES", "IN", "SCHEMA"], ["ALL", "SEQUENCES", "IN", "SCHEMA"]]
  if whole.isNone then
    let _ ← oneOf? ["SEQUENCE", "SCHEMA", "TABLE"]
  let _ ← commaList path
  return text

/-- Who a privilege comes from, if that is said. -/
def grantedBy? : Reader Unit := do
  if ← keywords? ["GRANTED", "BY"] then
    let _ ← ident

def grantAt : Reader String := do
  let text ← privilegesAt
  keyword "TO"
  let _ ← commaList ident
  let _ ← keywords? ["WITH", "GRANT", "OPTION"]
  grantedBy?
  return "GRANT " ++ text

def revokeAt : Reader String := do
  let text ← privilegesAt
  keyword "FROM"
  let _ ← commaList ident
  grantedBy?
  let cascade ← keyword? "CASCADE"
  let restrict ← keyword? "RESTRICT"
  if cascade && restrict then fail
  return "REVOKE " ++ text

/-! ### Merged rows -/

/-- What is done with a row for which there is no partner in the table, or in the rows. -/
def mergeActionAt (n : Nested) (isNew : Bool) : Reader Unit := do
  match ← oneOf ["UPDATE", "INSERT", "DELETE"] with
  | "INSERT" =>
    if !isNew then fail
    let _ ← identList?
    unless ← keyword? "ROW" do
      keyword "VALUES"
      let _ ← rowsAt n
  | k =>
    if isNew then fail
    if k == "UPDATE" then
      keyword "SET"
      let _ ← assignmentsAt n

/-- A case of merging rows, if one is next. -/
def mergeCase? (n : Nested) : Reader (Option Unit) := do
  if ← keyword? "WHEN" then
    let unmatched ← keyword? "NOT"
    keyword "MATCHED"
    let bySource ← if unmatched then keywords? ["BY", "SOURCE"] else pure false
    if unmatched && !bySource then
      let _ ← keywords? ["BY", "TARGET"]
    let _ ← exprAfter? n ["AND"]
    keyword "THEN"
    mergeActionAt n (unmatched && !bySource)
    return some ()
  else return none

/-- Rows that are merged into a table.  Nothing stands after the cases. -/
def mergeAt (n : Nested) : Reader String := do
  let into ← keywordText "INTO"
  let table ← tableAt n
  keyword "USING"
  let _ ← tableAt n
  keyword "ON"
  let _ ← n.anyExpr
  let _ ← while? (mergeCase? n)
  unless (← get).isEmpty || (← peekSymbol ";") do fail
  return wordsText ["MERGE", into, table.text]

/-! ### Cursors and prepared statements -/

/-- The rows that a cursor moves over. -/
def cursorMoveAt : Reader String := do
  match ← oneOf? ["NEXT", "PRIOR", "FIRST", "LAST", "ABSOLUTE", "RELATIVE", "FORWARD", "BACKWARD",
    "ALL"] with
  | none => return (← unsignedNumber).text
  | some k =>
    if k == "ABSOLUTE" || k == "RELATIVE" then return k ++ " " ++ (← unsignedNumber).text
    if k == "FORWARD" || k == "BACKWARD" then
      if ← keyword? "ALL" then return k ++ " ALL" else return k ++ " " ++ (← unsignedNumber).text
    return k

/-- Rows that a cursor gives. -/
def fetchRowsAt : Reader String := do
  let move ← cursorMoveAt
  let _ ← oneOf ["FROM", "IN"]
  let _ ← ident
  if ← keyword? "INTO" then
    let _ ← path
  return "FETCH " ++ move

def prepareAt (n : Nested) : Reader String := do
  let name ← ident
  if ← peekSymbol "(" then
    let _ ← parenthesized (commaList (typeAt n))
  keyword "AS"
  let _ ← n.statement
  return "PREPARE " ++ name.text

/-! ### Databases -/

/-- The value of a property of the database. -/
def propertyValueAt : Reader String := do
  match ← peek with
  | some (.literal _ _) => fail
  | some (.word _ none) => fail
  | _ => return (← valueAt).text

/-- A property of the database, which may be given a value. -/
def pragmaAt : Reader String := do
  let name := pathText (← path)
  if ← symbol? "(" then
    let v ← propertyValueAt
    symbol ")"
    return "PRAGMA " ++ name ++ "(" ++ v ++ ")"
  else if ← symbol? "=" then return "PRAGMA " ++ name ++ " = " ++ (← propertyValueAt)
  else return "PRAGMA " ++ name

/-- Partitions of a table that are repaired. -/
def repairAt : Reader String := do
  let repair ← keywordText "REPAIR"
  keyword "TABLE"
  let _ ← path
  let _ ← attempt do
    let _ ← oneOf? ["ADD", "DROP", "SYNC"]
    keyword "PARTITIONS"
  return wordsText ["MSCK", repair, "TABLE"]

def attachAt (n : Nested) : Reader String := do
  let database ← keywordText "DATABASE"
  let file ← n.anyExpr
  keyword "AS"
  let _ ← ident
  return wordsText ["ATTACH", database, file.text]

def detachAt : Reader String := do
  let database ← keywordText "DATABASE"
  let there ← keywordsText ["IF", "EXISTS"]
  return wordsText ["DETACH", database, there, (← ident).text]

/-! ### Commands -/

/-- A procedure that is called, with its arguments if a parenthesis follows its name. -/
def procedureAt (n : Nested) : Reader String := do
  let name ← path
  if ← peekSymbol "(" then return "CALL " ++ (← callAt n name).text
  else return "CALL " ++ pathText name

/-- The words that commands begin with. -/
def commandWords : List String :=
  ["ASSERT", "ATTACH", "CALL", "CLOSE", "DEALLOCATE", "DETACH", "DISCARD", "FETCH", "GRANT", "KILL",
   "MERGE", "MSCK", "PRAGMA", "PREPARE", "RELEASE", "REVOKE", "SAVEPOINT", "UNCACHE", "USE"]

def commandAt (n : Nested) (k : String) : Reader String := do
  match k with
  | "ASSERT" =>
    let e ← n.anyExpr
    return "ASSERT " ++ e.text ++ (← exprAfter? n ["AS"])
  | "ATTACH" => attachAt n
  | "CALL" => procedureAt n
  | "CLOSE" => if ← keyword? "ALL" then return "CLOSE ALL" else return "CLOSE " ++ (← ident).text
  | "DEALLOCATE" => return wordsText ["DEALLOCATE", ← keywordText "PREPARE", (← ident).text]
  | "DETACH" => detachAt
  | "DISCARD" =>
    let what ← oneOf ["ALL", "PLANS", "SEQUENCES", "TEMP", "TEMPORARY"]
    return "DISCARD " ++ if what == "TEMPORARY" then "TEMP" else what
  | "FETCH" => fetchRowsAt
  | "GRANT" => grantAt
  | "KILL" =>
    let what ← oneOfText ["CONNECTION", "QUERY", "MUTATION"]
    return wordsText ["KILL", what, toString (← natural)]
  | "MERGE" => mergeAt n
  | "MSCK" => repairAt
  | "PRAGMA" => pragmaAt
  | "PREPARE" => prepareAt n
  | "RELEASE" =>
    let _ ← keyword? "SAVEPOINT"
    return "RELEASE SAVEPOINT " ++ (← ident).text
  | "REVOKE" => revokeAt
  | "SAVEPOINT" => return "SAVEPOINT " ++ (← ident).text
  | "UNCACHE" =>
    keyword "TABLE"
    ifExists?
    let _ ← path
    return "UNCACHE TABLE"
  | "USE" => return "USE " ++ pathText (← path)
  | _ => fail

end SqlPipeline.Sql
