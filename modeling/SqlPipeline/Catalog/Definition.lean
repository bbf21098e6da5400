/-
Definitions: the statements that change the catalog.

* `Catalog.tableOf` — the table that a definition describes;
* `Catalog.Defining` — work on the catalog that may be refused on the way;
* `Catalog.createTable`, `Catalog.createIndex`, `Catalog.define` — the work of a statement;
* `Catalog.Store.apply` — a statement at work on a catalog;
* `Catalog.Store.execute` — the catalog after a script.  Statements are taken in order until one
  is refused, and those before it stay.
-/

import SqlPipeline.Catalog.Basic
import SqlPipeline.Journal.Event
import SqlPipeline.Journal.Logged
import SqlPipeline.Sql.Script
import SqlPipeline.Text.Quoted

set_option autoImplicit false

namespace SqlPipeline.Catalog

open Journal Sql

/-- What a definition did. -/
inductive Change where
  | tableCreated (name : String)
  | indexCreated (index table : String)
  /-- The table or the index was there already, and was to be left as it was. -/
  | skipped (name : String)
  deriving DecidableEq, Repr, Inhabited

def Change.text : Change → String
  | tableCreated name => "TableCreated(" ++ Text.quoted name ++ ")"
  | indexCreated index table =>
    "IndexCreated \x7b index: " ++ Text.quoted index ++ ", table: " ++ Text.quoted table ++ " \x7d"
  | skipped name => "Skipped(" ++ Text.quoted name ++ ")"

/-! ### Tables -/

def declaredType (t : TypeName) : DeclaredType :=
  match t.kind with
  | .int .w32 => .int32
  | .int .w64 => .int64
  | _ => .other t.text

/-- The primary key, when the column with the given number is declared to be it.  Records begin
with the key, so only the first column can be it, and only once. -/
def primaryKeyAt (table : String) (key : Option Nat) (column : Nat) : Except Fault (Option Nat) :=
  if key.isSome then .error (.unsupported (.secondKey table))
  else if column ≠ 0 then .error (.unsupported (.misplacedKey table))
  else .ok (some column)

/-- The primary key after the options of the columns. -/
def columnKey (d : TableDefinition) : Except Fault (Option Nat) :=
  d.columns.zipIdx.foldlM (fun key (c, i) =>
    if c.primaryKey then primaryKeyAt (pathName d.name) key i else .ok key) none

/-- The primary key after one constraint. -/
def constraintKey (table : String) (columns : List Column) (key : Option Nat) :
    TableConstraint → Except Fault (Option Nat)
  | .other => .ok key
  | .primaryKey [i] =>
    match columns.findIdx? fun c => Text.sameName c.name i.value with
    | some n => primaryKeyAt table key n
    | none => .error (.columnNotFound table i.value)
  | .primaryKey _ => .error (.unsupported .compositeKey)

/-- The table that a definition describes. -/
def tableOf (d : TableDefinition) : Except Fault Table := do
  let name := pathName d.name
  if d.columns.isEmpty then throw (.unsupported (.noColumns name))
  let columns := d.columns.map fun c => (⟨c.name.value, declaredType c.type⟩ : Column)
  let key ← columnKey d
  let primaryKey ← d.constraints.foldlM (constraintKey name columns) key
  return { name, columns, primaryKey }

/-- Work on the catalog that may be refused.  The catalog is what the work has made of it when it
ends, also when it ends because it is refused: nothing is taken back. -/
abbrev Defining (α : Type) : Type :=
  ExceptT Fault (StateM Store) α

def createTable (d : TableDefinition) : Defining Change := do
  let name := pathName d.name
  if ((← get).table? name).isSome then
    if d.ifNotExists then return .skipped name
    throw (.tableExists name)
  let t ← tableOf d
  modify fun s => s.put t
  return .tableCreated name

/-! ### Indexes -/

/-- The name of the column that an index is created on. -/
def indexedColumn (d : IndexDefinition) : Except Fault String :=
  match d.columns with
  | [.ident i] => .ok i.value
  | [e] => .error (.unsupported (.indexedExpression e.text))
  | _ => .error (.unsupported .compositeIndex)

/-- The name of an index: the one it is given, or one made of the table and the column. -/
def indexName (d : IndexDefinition) (table column : String) : String :=
  match d.name with
  | some path => pathName path
  | none => "idx_" ++ table ++ "_" ++ column

def createIndex (d : IndexDefinition) : Defining Change := do
  match (← get).table? (pathName d.table) with
  | none => throw (.tableNotFound (pathName d.table))
  | some t =>
    let column ← indexedColumn d
    match t.column? column with
    | none => throw (.columnNotFound t.name column)
    | some n =>
      let name := indexName d t.name column
      if t.indexes.any fun i => Text.sameName i.name name then
        if d.ifNotExists then return .skipped name
        throw (.indexExists name)
      modify fun s => s.put { t with indexes := t.indexes ++ [⟨name, n⟩] }
      return .indexCreated name t.name

/-! ### Statements and scripts -/

/-- The first two words of a text. -/
def firstWords (text : String) : String :=
  " ".intercalate ((Text.words text).take 2)

/-- The work of a statement. -/
def define : Statement → Defining Change
  | .createTable d => createTable d
  | .createIndex d => createIndex d
  | .query _ text => throw (.unsupported (.statement (firstWords text)))
  | .other text => throw (.unsupported (.statement (firstWords text)))

/-- What a statement does to a catalog or why it is refused, and the catalog it leaves. -/
def Store.apply (s : Store) (st : Statement) : Except Fault Change × Store :=
  (define st).run.run s

/-- The catalog after statements, and what they did or why one was refused. -/
def Store.applyAll (s : Store) : List Statement → Logged (Store × Except Fault (List Change))
  | [] => return (s, .ok [])
  | st :: sts =>
    match s.apply st with
    | (.error e, s') => do
      note (Event.ddlRejected.record [("code", e.code), ("reason", e.message)])
      return (s', .error e)
    | (.ok change, s') => do
      note (Event.ddlApplied.record [("outcome", change.text)])
      let (s'', rest) ← s'.applyAll sts
      return (s'', rest.map (change :: ·))

/-- The catalog after a script, and what it did or why it was refused. -/
def Store.execute (s : Store) (script : String) :
    Logged (Store × Except Fault (List Change)) :=
  match statements script with
  | .error _ => return (s, .error .unreadable)
  | .ok sts => s.applyAll sts

/-- The catalog after scripts, up to the first that is refused. -/
def Store.executeAll (s : Store) : List String → Attempt Fault Store
  | [] => return s
  | script :: scripts => do
    let (s', result) ← (s.execute script : Logged _)
    match result with
    | .ok _ => s'.executeAll scripts
    | .error e => throw e

end SqlPipeline.Catalog
