/-
Reading changes to definitions.

* `Sql.dropAt` — objects that are taken away;
* `Sql.alterOperationAt` — a change to a table;
* `Sql.alterAt` — a change to a table, an index, a view or a rule.

Of these statements only the form is read, and of their text the beginning is given.  The readers
of whole statements begin after their keyword.
-/

import SqlPipeline.Sql.Grammar.Creations

set_option autoImplicit false

namespace SqlPipeline.Sql

open Reader

/-! ### Objects that are taken away -/

/-- Takes the words that pass over an object that is not there. -/
def ifExists? : Reader Unit := do
  let _ ← keywords? ["IF", "EXISTS"]

/-- What happens to objects that depend on one that is taken away, if it is said. -/
def dropBehavior? : Reader Unit := do
  let _ ← oneOf? ["CASCADE", "RESTRICT"]

/-- Objects of the given kind, which are taken away. -/
def dropNamesAt (kind : String) : Reader Unit := do
  ifExists?
  let _ ← commaList path
  let cascade ← keyword? "CASCADE"
  let restrict ← keyword? "RESTRICT"
  let purge ← keyword? "PURGE"
  if cascade && restrict then fail
  if kind == "ROLE" && (cascade || restrict || purge) then fail

def dropFunctionsAt (n : Nested) : Reader Unit := do
  ifExists?
  let _ ← commaList (functionRefAt n)
  dropBehavior?

/-- A rule or a trigger of a table that is taken away, over a reader of its name. -/
def dropFromTableAt {α : Type} (name : Reader α) : Reader Unit := do
  ifExists?
  let _ ← name
  keyword "ON"
  let _ ← path
  dropBehavior?

/-- A secret that is taken away, possibly from a place it is kept in, which may be any token. -/
def dropSecretAt : Reader Unit := do
  ifExists?
  let _ ← ident
  if ← keyword? "FROM" then
    let _ ← anyIdent

def dropAt (n : Nested) : Reader String := do
  let temporary ← keywordText "TEMPORARY"
  match ← oneOf? ["FUNCTION", "PROCEDURE", "POLICY", "TRIGGER", "SECRET"] with
  | some "POLICY" =>
    dropFromTableAt ident
    return "DROP POLICY"
  | some "TRIGGER" =>
    dropFromTableAt path
    return "DROP TRIGGER"
  | some "SECRET" =>
    dropSecretAt
    return wordsText ["DROP", temporary, "SECRET"]
  | some k =>
    dropFunctionsAt n
    return "DROP " ++ k
  | none =>
    let kind ← oneOf ["TABLE", "VIEW", "INDEX", "ROLE", "SCHEMA", "DATABASE", "SEQUENCE", "STAGE",
      "TYPE"]
    dropNamesAt kind
    return wordsText ["DROP", temporary, kind]

/-! ### Changes to tables -/

/-- The place of a new column among the others. -/
def columnPosition? : Reader Unit := do
  if ← keyword? "FIRST" then return ()
  if ← keyword? "AFTER" then
    let _ ← ident

/-- A query over the rows of a table that is kept with it, in parentheses. -/
def projectionAt (n : Nested) : Reader Unit := do
  symbol "("
  keyword "SELECT"
  let _ ← commaList (selectItemAt n)
  let _ ← grouping? n
  let _ ← queryOrder? n
  symbol ")"

def addPartAt (n : Nested) : Reader Unit := do
  if (← constraint? n).isSome then return ()
  if ← keyword? "PROJECTION" then
    ifNotExists?
    let _ ← ident
    projectionAt n
    return ()
  ifNotExists?
  let parts ← while? do
    if ← keyword? "PARTITION" then return some (← parenthesized n.exprs) else return none
  if parts.isEmpty then
    let _ ← keyword? "COLUMN"
    ifNotExists?
    let _ ← columnAt n
    columnPosition?

def dropPartAt (n : Nested) : Reader Unit := do
  if ← keywords? ["IF", "EXISTS", "PARTITION"] then
    let _ ← parenthesized n.exprs
  else if ← keyword? "PARTITION" then
    let _ ← parenthesized n.exprs
  else if ← keywords? ["PRIMARY", "KEY"] then return ()
  else if ← keyword? "PROJECTION" then
    ifExists?
    let _ ← ident
  else
    let _ ← oneOf? ["CONSTRAINT", "COLUMN"]
    ifExists?
    let _ ← ident
    let _ ← keyword? "CASCADE"

/-- A new name for a table or one of its columns. -/
def renameAt : Reader Unit := do
  if ← keyword? "TO" then
    let _ ← path
  else
    let _ ← keyword? "COLUMN"
    let _ ← ident
    keyword "TO"
    let _ ← ident

/-- A new type for a column, with its options. -/
def retypeAt (n : Nested) : Reader Unit := do
  let _ ← ident
  let _ ← typeAt n
  let _ ← while? (columnOption? n)
  columnPosition?

def alterColumnAt (n : Nested) : Reader Unit := do
  let _ ← keyword? "COLUMN"
  let _ ← ident
  let plain ← phrase? [["SET", "NOT", "NULL"], ["DROP", "NOT", "NULL"], ["DROP", "DEFAULT"]]
  if plain.isSome then return ()
  if ← keywords? ["SET", "DEFAULT"] then
    let _ ← n.anyExpr
  else if ← keywords? ["SET", "DATA", "TYPE"] then
    let _ ← typeAt n
  else
    keywords ["ADD", "GENERATED"]
    let _ ← phrase? [["ALWAYS"], ["BY", "DEFAULT"]]
    keywords ["AS", "IDENTITY"]
    let _ ← identitySequence?

/-- A rule or a trigger that is switched on or off, or the security of rows. -/
def switchAt (ways : List (List String)) : Reader Unit := do
  if ← keywords? ["ROW", "LEVEL", "SECURITY"] then return ()
  match ← phrase? ways with
  | some _ => let _ ← ident
  | none => fail

/-- A query kept with a table that is filled or emptied. -/
def refreshAt : Reader Unit := do
  keyword "PROJECTION"
  ifExists?
  let _ ← ident
  if ← keywords? ["IN", "PARTITION"] then
    let _ ← ident

def partAt (n : Nested) : Reader Unit := do
  let _ ← oneOf ["PART", "PARTITION"]
  let _ ← n.anyExpr

def alterOperationAt (n : Nested) : Reader Unit := do
  match ← oneOf ["ADD", "RENAME", "DISABLE", "ENABLE", "CLEAR", "MATERIALIZE", "DROP", "PARTITION",
    "CHANGE", "MODIFY", "ALTER", "SWAP", "OWNER", "ATTACH", "DETACH", "FREEZE", "UNFREEZE",
    "SET"] with
  | "ADD" => addPartAt n
  | "RENAME" => renameAt
  | "DISABLE" => switchAt [["RULE"], ["TRIGGER"]]
  | "ENABLE" =>
    switchAt [["ALWAYS", "RULE"], ["ALWAYS", "TRIGGER"], ["REPLICA", "RULE"],
      ["REPLICA", "TRIGGER"], ["RULE"], ["TRIGGER"]]
  | "CLEAR" => refreshAt
  | "MATERIALIZE" => refreshAt
  | "DROP" => dropPartAt n
  | "PARTITION" =>
    let _ ← parenthesized n.exprs
    keywords ["RENAME", "TO", "PARTITION"]
    let _ ← parenthesized n.exprs
  | "CHANGE" =>
    let _ ← keyword? "COLUMN"
    let _ ← ident
    retypeAt n
  | "MODIFY" =>
    let _ ← keyword? "COLUMN"
    retypeAt n
  | "ALTER" => alterColumnAt n
  | "SWAP" =>
    keyword "WITH"
    let _ ← path
  | "OWNER" =>
    keyword "TO"
    ownerAt
  | "ATTACH" => partAt n
  | "DETACH" => partAt n
  | "SET" =>
    keyword "TBLPROPERTIES"
    let _ ← parenthesized (commaList (sqlOptionAt n))
  | _ =>
    partAt n
    if ← keywords? ["WITH", "NAME"] then
      let _ ← ident

def alterTableAt (n : Nested) : Reader Unit := do
  ifExists?
  let _ ← keyword? "ONLY"
  let _ ← path
  onCluster?
  let _ ← commaList (alterOperationAt n)
  let moved ← phrase? [["LOCATION"], ["SET", "LOCATION"]]
  if moved.isSome then
    let _ ← ident

/-! ### Other changes -/

/-- A change to a rule on who sees which rows. -/
def alterPolicyAt (n : Nested) : Reader Unit := do
  let _ ← ident
  keyword "ON"
  let _ ← path
  if ← keyword? "RENAME" then
    keyword "TO"
    let _ ← ident
  else policyTerms n

/-- A new query under the name of a view. -/
def alterViewAt (n : Nested) : Reader Unit := do
  let _ ← path
  let _ ← identList?
  let _ ← options? n "WITH"
  keyword "AS"
  let _ ← n.query

def alterAt (n : Nested) : Reader String := do
  let kind ← oneOf ["TABLE", "INDEX", "VIEW", "POLICY"]
  match kind with
  | "TABLE" => alterTableAt n
  | "INDEX" =>
    let _ ← path
    keywords ["RENAME", "TO"]
    let _ ← path
  | "POLICY" => alterPolicyAt n
  | _ => alterViewAt n
  return "ALTER " ++ kind

end SqlPipeline.Sql
