/-
Reading the definitions of tables and indexes.

* `Sql.constraint?` — a constraint on a table;
* `Sql.tableOptions` — what may follow the columns of a table;
* `Sql.createTableAt`, `Sql.createIndexAt` — a table or an index, after its keyword.

Of what a catalog does not keep only the form is read.
-/

import SqlPipeline.Sql.Grammar.Queries

set_option autoImplicit false

namespace SqlPipeline.Sql

open Reader

/-! ### Constraints -/

def ident? : Reader (Option Ident) :=
  attempt ident

/-- The kind of an index, if it is named. -/
def indexMethod? : Reader Bool := do
  if ← keyword? "USING" then
    let _ ← oneOf ["BTREE", "HASH"]
    return true
  else return false

/-- What may follow the columns of a key. -/
def indexOptions : Reader Unit := do
  let _ ← while? do
    if ← indexMethod? then return some ()
    else if ← keyword? "COMMENT" then
      let _ ← stringValue
      return some ()
    else return none

/-- The columns of a key, with what may stand around them.  Any word before them is its name. -/
def keyColumnsAt : Reader (List Ident) := do
  let _ ← ident?
  let _ ← indexMethod?
  let columns ← identList
  indexOptions
  let _ ← constraintTiming
  return columns

/-- The columns of an index of a table that is created, with what may stand before them. -/
def indexColumnsAt : Reader (List Ident) := do
  unless ← peekOneOf ["USING"] do
    let _ ← ident?
  let _ ← indexMethod?
  identList

/-- Columns that refer to those of a table, after `FOREIGN KEY`. -/
def foreignKeyAt : Reader Unit := do
  let _ ← identList
  keyword "REFERENCES"
  let _ ← path
  let _ ← identList
  let _ ← referenceActions
  let _ ← constraintTiming

/-- A constraint on a table, after the name it may have.  Indexes have no such name. -/
def namelessConstraint? (n : Nested) (named : Bool) : Reader (Option TableConstraint) := do
  if ← keyword? "PRIMARY" then
    keyword "KEY"
    return some (.primaryKey (← keyColumnsAt))
  if ← keyword? "UNIQUE" then
    let _ ← oneOf? ["KEY", "INDEX"]
    let _ ← keyColumnsAt
    return some .other
  if ← keyword? "FOREIGN" then
    keyword "KEY"
    foreignKeyAt
    return some .other
  if ← keyword? "CHECK" then
    let _ ← parenthesized n.anyExpr
    return some .other
  if named then return none
  if (← oneOf? ["INDEX", "KEY"]).isSome then
    let _ ← indexColumnsAt
    return some .other
  if (← oneOf? ["FULLTEXT", "SPATIAL"]).isSome then
    let _ ← oneOf? ["KEY", "INDEX"]
    let _ ← ident?
    let _ ← identList
    return some .other
  return none

def constraint? (n : Nested) : Reader (Option TableConstraint) := do
  if ← keyword? "CONSTRAINT" then
    let _ ← ident
    match ← namelessConstraint? n true with
    | some c => return some c
    | none => fail
  else namelessConstraint? n false

/-! ### Elements of a table -/

def tableElementAt (n : Nested) : Reader (ColumnSpec ⊕ TableConstraint) := do
  match ← constraint? n with
  | some c => return .inr c
  | none =>
    match ← peek with
    | some (.word _ _) => return .inl (← columnAt n).value
    | _ => fail

/-- The columns and constraints of a table, if they are given. -/
def tableElements? (n : Nested) : Reader (List (ColumnSpec ⊕ TableConstraint)) := do
  if ← symbol? "(" then
    if ← symbol? ")" then return []
    let es ← commaList (tableElementAt n)
    symbol ")"
    return es
  else return []

/-- Takes a qualified name, or as much as reads like one and the token after it. -/
def anyPath : Reader Unit := do
  match ← attempt path with
  | some _ => return ()
  | none =>
    let _ ← while? <| attempt do
      let _ ← ident
      symbol "."
    let ts ← get
    set (ts.drop 1)

/-! ### What may follow the columns of a table -/

/-- The columns that divide the rows of a table, if they are given. -/
def partitionColumns? (n : Nested) : Reader Unit := do
  if ← keywords? ["PARTITIONED", "BY"] then
    let _ ← parenthesized (commaList (columnAt n))

/-- The number of buckets that rows are put in, if it is given, and the columns that decide on
it. -/
def buckets? (n : Nested) : Reader Unit := do
  if ← keywords? ["CLUSTERED", "BY"] then
    let _ ← identList
    if ← keywords? ["SORTED", "BY"] then
      let _ ← parenthesized (orderItemsAt n)
    keyword "INTO"
    let _ ← unsignedNumber
    keyword "BUCKETS"

/-- What ends the parts of a stored row, if it is said of one of them.  A word that begins it and
does not go on is taken all the same. -/
def delimiter? : Reader (Option Unit) := do
  let ended (words : List String) : Reader (Option Unit) := do
    if ← keywords? words then
      let _ ← ident
      return some ()
    else return none
  match ← oneOf? ["FIELDS", "COLLECTION", "MAP", "LINES", "NULL"] with
  | some "FIELDS" =>
    match ← ended ["TERMINATED", "BY"] with
    | none => return none
    | some () =>
      let _ ← ended ["ESCAPED", "BY"]
      return some ()
  | some "COLLECTION" => ended ["ITEMS", "TERMINATED", "BY"]
  | some "MAP" => ended ["KEYS", "TERMINATED", "BY"]
  | some "LINES" => ended ["TERMINATED", "BY"]
  | some _ => ended ["DEFINED", "AS"]
  | none => return none

/-- The form of a stored row, after its keyword. -/
def rowFormatAt : Reader Unit := do
  keyword "FORMAT"
  if ← keyword? "SERDE" then
    let _ ← stringValue
  else
    let _ ← keyword? "DELIMITED"
    let _ ← while? delimiter?

def fileFormat : Reader String :=
  oneOf ["AVRO", "JSONFILE", "ORC", "PARQUET", "RCFILE", "SEQUENCEFILE", "TEXTFILE"]

/-- What is said of the place and the form a table is stored in, if something is. -/
def storage? (n : Nested) : Reader (Option Unit) := do
  if ← keyword? "ROW" then
    rowFormatAt
    return some ()
  else if ← keyword? "STORED" then
    keyword "AS"
    if ← keyword? "INPUTFORMAT" then
      let _ ← n.anyExpr
      keyword "OUTPUTFORMAT"
      let _ ← n.anyExpr
      return some ()
    else
      let _ ← fileFormat
      return some ()
  else if ← keyword? "LOCATION" then
    let _ ← stringValue
    return some ()
  else if ← keywords? ["WITH", "SERDEPROPERTIES"] then
    let _ ← parenthesized (commaList (sqlOptionAt n))
    return some ()
  else return none

def assignedWord : Reader Unit := do
  symbol "="
  match ← next with
  | .word _ _ => return ()
  | _ => fail

/-- The engine and the first number of a table, if they are given. -/
def engine? : Reader Unit := do
  if ← keyword? "ENGINE" then
    assignedWord
    let _ ← identList?
  if ← keyword? "AUTO_INCREMENT" then
    let _ ← symbol? "="
    unless (← natural) < Nat.pow 2 32 do fail

/-- How the rows of a table are kept together. -/
def arrangement (n : Nested) : Reader Unit := do
  if ← keywords? ["PRIMARY", "KEY"] then
    let _ ← n.anyExpr
  if ← keywords? ["ORDER", "BY"] then
    if ← peekSymbol "(" then
      let _ ← tupleAt n
    else
      let _ ← n.anyExpr
  if ← keywords? ["PARTITION", "BY"] then
    let _ ← n.anyExpr
  if ← keywords? ["CLUSTER", "BY"] then
    let _ ← commaList ident

/-- What a table keeps at the end of a transaction. -/
def onCommit? : Reader Unit := do
  if ← keywords? ["ON", "COMMIT"] then
    if ← keywords? ["DELETE", "ROWS"] then return ()
    if ← keywords? ["PRESERVE", "ROWS"] then return ()
    keyword "DROP"

/-- What may follow the columns of a table. -/
def tableOptions (n : Nested) : Reader Unit := do
  let _ ← keywords? ["WITHOUT", "ROWID"]
  partitionColumns? n
  buckets? n
  let _ ← while? (storage? n)
  let _ ← options? n "WITH"
  let _ ← options? n "TBLPROPERTIES"
  engine?
  arrangement n
  let _ ← options? n "OPTIONS"
  if ← keywords? ["DEFAULT", "CHARSET"] then assignedWord
  if ← keyword? "COLLATE" then assignedWord
  onCommit?
  let _ ← keyword? "STRICT"
  if ← keyword? "COMMENT" then
    let _ ← symbol? "="
    let _ ← quotedString
  if ← keyword? "AS" then
    let _ ← n.query

/-! ### Tables -/

/-- What a table is created from, by its name and elements. -/
def tableDefinition (name : List Ident) (ifNotExists : Bool)
    (elements : List (ColumnSpec ⊕ TableConstraint)) : TableDefinition where
  name := name
  ifNotExists := ifNotExists
  columns := elements.filterMap Sum.getLeft?
  constraints := elements.filterMap Sum.getRight?

/-- The cluster a statement is for, if it is named. -/
def onCluster? : Reader Unit := do
  if ← keywords? ["ON", "CLUSTER"] then
    let _ ← ident

def createTableAt (n : Nested) : Reader TableDefinition := do
  let ifNotExists ← keywords? ["IF", "NOT", "EXISTS"]
  let name ← path
  onCluster?
  let like ← oneOf? ["LIKE", "ILIKE"]
  if like.isSome then anyPath
  if ← keyword? "CLONE" then anyPath
  let elements ← tableElements? n
  tableOptions n
  return tableDefinition name ifNotExists elements

def createExternalTableAt (n : Nested) : Reader TableDefinition := do
  let ifNotExists ← keywords? ["IF", "NOT", "EXISTS"]
  let name ← path
  let elements ← tableElements? n
  partitionColumns? n
  let _ ← while? (storage? n)
  let _ ← options? n "TBLPROPERTIES"
  return tableDefinition name ifNotExists elements

/-! ### Indexes -/

def createIndexAt (n : Nested) : Reader IndexDefinition := do
  let _ ← keyword? "CONCURRENTLY"
  let ifNotExists ← keywords? ["IF", "NOT", "EXISTS"]
  let nameless ← if ifNotExists then pure false else keyword? "ON"
  let name ←
    if nameless then pure none
    else
      let name ← path
      keyword "ON"
      pure (some name)
  let table ← path
  if ← keyword? "USING" then
    let _ ← ident
  let items ← parenthesized (orderItemsAt n)
  if ← keyword? "INCLUDE" then
    let _ ← identList
  if ← keyword? "NULLS" then
    let _ ← keyword? "NOT"
    keyword "DISTINCT"
  if ← keyword? "WITH" then
    let _ ← parenthesized n.exprs
  if ← keyword? "WHERE" then
    let _ ← n.anyExpr
  return { name, table, ifNotExists, columns := items.value.map (·.1.expr) }

end SqlPipeline.Sql
