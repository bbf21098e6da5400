/-
Tables of the catalog.

* `Catalog.DeclaredType` — the type a column was declared with;
* `Catalog.Table` — a table: its columns, its primary key and its indexes;
* `Catalog.Table.column?` — the number of a column by its name;
* `Catalog.Table.hints` — the best index of each column.
-/

import SqlPipeline.Text.Case

set_option autoImplicit false

namespace SqlPipeline.Catalog

/-- The type a column was declared with.  Columns of other types than integers can be declared,
and queries over their tables are refused. -/
inductive DeclaredType where
  | int32
  | int64
  /-- Any other type, by its text. -/
  | other (name : String)
  deriving DecidableEq, Repr, Inhabited

def DeclaredType.name : DeclaredType → String
  | int32 => "INT"
  | int64 => "BIGINT"
  | other name => name

/-- A column of a table. -/
structure Column where
  /-- The name, in the case it was declared in. -/
  name : String
  type : DeclaredType
  deriving DecidableEq, Repr, Inhabited

/-- An index on one column of a table. -/
structure Index where
  name : String
  /-- The number of the column. -/
  column : Nat
  deriving DecidableEq, Repr, Inhabited

/-- The best index of a column. -/
inductive Hint where
  | none
  | primaryKey
  /-- An index, by its place among the indexes of the table. -/
  | secondary (ordinal : Nat)
  deriving DecidableEq, Repr, Inhabited

/-- Whether an index can bound a scan on the column. -/
def Hint.isIndexed : Hint → Bool
  | none => false
  | primaryKey => true
  | secondary _ => true

/-- A table of the catalog. -/
structure Table where
  /-- The name, in the case it was declared in. -/
  name : String
  columns : List Column
  /-- The number of the column that is the primary key. -/
  primaryKey : Option Nat := .none
  /-- The indexes, in order of creation. -/
  indexes : List Index := []
  deriving DecidableEq, Repr, Inhabited

namespace Table

/-- The number of the first column of the given name, whatever the case of its letters. -/
def column? (t : Table) (name : String) : Option Nat :=
  t.columns.findIdx? fun c => Text.sameName c.name name

/-- The best index of the column with the given number: the primary key, or else the index that
was created first. -/
def hint (t : Table) (column : Nat) : Hint :=
  if t.primaryKey = some column then .primaryKey
  else
    match t.indexes.findIdx? fun i => i.column == column with
    | some ordinal => .secondary ordinal
    | none => .none

def hints (t : Table) : List Hint :=
  (List.range t.columns.length).map t.hint

end Table

end SqlPipeline.Catalog
