/-
Reading changes to the rows of tables.

* `Sql.insertAt`, `Sql.updateAt` — new rows and new values.  Both can stand in place of a query, so
  their whole text is given;
* `Sql.deleteAt`, `Sql.truncateAt` — rows that are taken away.  Of their text the beginning is
  given: the words that say what kind of statement it is.

Each reader begins after its keyword.
-/

import SqlPipeline.Sql.Grammar.Definitions

set_option autoImplicit false

namespace SqlPipeline.Sql

open Reader

/-! ### New rows and values -/

/-- A new value for columns. -/
def assignmentAt (n : Nested) : Reader String := do
  let target ←
    if ← peekSymbol "(" then
      let names ← parenthesized (commaList path)
      pure ("(" ++ commaText (names.map pathText) ++ ")")
    else pure (pathText (← path))
  symbol "="
  return target ++ " = " ++ (← n.anyExpr).text

def assignmentsAt (n : Nested) : Reader String := do
  return commaText (← commaList (assignmentAt n))

/-- What is given back for the rows that a statement changed. -/
def returning? (n : Nested) : Reader String :=
  clause? ["RETURNING"] do return commaText ((← commaList (selectItemAt n)).map (·.text))

/-- What a row that is there already is found by. -/
def conflictTarget? : Reader String := do
  if ← keywords? ["ON", "CONSTRAINT"] then return " ON CONSTRAINT " ++ pathText (← path)
  else
    let columns ← identList?
    return if columns.isEmpty then "" else "(" ++ identsText columns ++ ")"

/-- What happens when a row is there already. -/
def onConflict? (n : Nested) : Reader String := do
  if ← keyword? "ON" then
    if ← keyword? "CONFLICT" then
      let target ← conflictTarget?
      keyword "DO"
      if ← keyword? "NOTHING" then return " ON CONFLICT" ++ target ++ " DO NOTHING"
      keywords ["UPDATE", "SET"]
      let values ← assignmentsAt n
      let selection ← exprAfter? n ["WHERE"]
      return " ON CONFLICT" ++ target ++ " DO UPDATE SET " ++ values ++ selection
    else
      keywords ["DUPLICATE", "KEY", "UPDATE"]
      return " ON DUPLICATE KEY UPDATE " ++ (← assignmentsAt n)
  else return ""

/-- The rows that are put in: the defaults, or those of a query for the given columns. -/
def newRowsAt (n : Nested) : Reader String := do
  if ← keywords? ["DEFAULT", "VALUES"] then return "DEFAULT VALUES"
  let columns ← identList?
  let parts ←
    if ← keyword? "PARTITION" then
      pure ("PARTITION (" ++ exprsText (← parenthesized n.exprs) ++ ")")
    else pure ""
  let q ← n.query
  return wordsText [if columns.isEmpty then "" else "(" ++ identsText columns ++ ")", parts, q.text]

/-- The name new rows have in what follows. -/
def newRowsAlias? : Reader String := do
  if ← keyword? "AS" then
    let name ← path
    let columns ← identList?
    return " AS " ++ pathText name
      ++ if columns.isEmpty then "" else " (" ++ identsText columns ++ ")"
  else return ""

/-- Rows that are written to a directory, after its keyword.  Its name is given as it is. -/
def insertDirectoryAt (n : Nested) (lead : List String) : Reader String := do
  let name ← stringValue
  let format ← clause? ["STORED", "AS"] fileFormat
  let q ← n.query
  return wordsText (lead ++ ["DIRECTORY", "'" ++ name ++ "'" ++ format, q.text])

def insertAt (n : Nested) : Reader String := do
  let priority ← oneOfText ["LOW_PRIORITY", "DELAYED", "HIGH_PRIORITY"]
  let ignored ← keywordText "IGNORE"
  let mode ← oneOfText ["INTO", "OVERWRITE"]
  let place ← keywordText "LOCAL"
  if ← keyword? "DIRECTORY" then
    insertDirectoryAt n ["INSERT", if mode == "OVERWRITE" then mode else "", place]
  else
    let table ← keywordText "TABLE"
    let name ← path
    let rows ← newRowsAt n
    let rowsName ← newRowsAlias?
    let conflict ← onConflict? n
    let returning ← returning? n
    return wordsText ["INSERT", priority, ignored, mode, table, pathText name, rows] ++ rowsName
      ++ conflict ++ returning

def updateAt (n : Nested) : Reader String := do
  let table ← sourceAt n
  keyword "SET"
  let values ← assignmentsAt n
  let origin ← clause? ["FROM"] do return (← sourceAt n).text
  let selection ← exprAfter? n ["WHERE"]
  let returning ← returning? n
  return "UPDATE " ++ table.text ++ " SET " ++ values ++ origin ++ selection ++ returning

/-! ### Rows that are taken away -/

def deleteAt (n : Nested) : Reader String := do
  let origin ← keywordText "FROM"
  let tables ← commaList (sourceAt n)
  if ← keyword? "USING" then
    let _ ← commaList (sourceAt n)
  let _ ← exprAfter? n ["WHERE"]
  let _ ← returning? n
  let _ ← order? n
  let _ ← limit? n {}
  return wordsText ["DELETE", origin, commaText (tables.map (·.text))]

def truncateAt (n : Nested) : Reader String := do
  let table ← keywordText "TABLE"
  let only ← keywordText "ONLY"
  let names ← commaList path
  if ← keyword? "PARTITION" then
    let _ ← parenthesized n.exprs
  let _ ← phrase? [["RESTART", "IDENTITY"], ["CONTINUE", "IDENTITY"]]
  let _ ← oneOf? ["CASCADE", "RESTRICT"]
  onCluster?
  return wordsText ["TRUNCATE", table, only, commaText (names.map pathText)]

end SqlPipeline.Sql
