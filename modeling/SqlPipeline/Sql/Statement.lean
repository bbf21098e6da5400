/-
SQL statements, as far as they matter to a catalog or to a compiled query.

* `Sql.Query` — a query: its body, its order, and whether clauses stand around it that no
  compiled query has;
* `Sql.TableDefinition`, `Sql.IndexDefinition` — what a table or an index is created from;
* `Sql.Statement` — a statement; one that is neither a query nor a definition is its text.
-/

import SqlPipeline.Sql.Expr

set_option autoImplicit false

namespace SqlPipeline.Sql

/-! ### Queries -/

/-- An item of the list a query selects. -/
inductive SelectItem where
  /-- All columns, of the table a qualifier names. -/
  | star (qualifier : List Ident)
  /-- An expression, with the name it is given. -/
  | expr (e : Expr) (label : Option Ident)
  deriving DecidableEq, Repr, Inhabited

/-- What a query reads from. -/
inductive TableRef where
  /-- A table by its name, and the name it has in the query. -/
  | table (name : List Ident) (label : Option Ident)
  /-- Anything that is not a table of the catalog. -/
  | other
  deriving DecidableEq, Repr, Inhabited

/-- A table joined to those before it. -/
structure Join where
  /-- Whether rows without a partner are kept. -/
  outer : Bool
  relation : TableRef
  deriving DecidableEq, Repr, Inhabited

/-- An item of the list a query reads from: a table and those joined to it. -/
structure Source where
  relation : TableRef
  joins : List Join
  deriving DecidableEq, Repr, Inhabited

/-- What the rows of a query are grouped by. -/
inductive Grouping where
  /-- Every column that is not aggregated. -/
  | all
  /-- The given expressions; none of them if the list is empty. -/
  | exprs (es : List Expr)
  deriving DecidableEq, Repr, Inhabited

/-- A selection from tables. -/
structure Select where
  /-- Whether repeated rows are dropped. -/
  distinct : Bool
  items : List SelectItem
  sources : List Source
  selection : Option Expr
  grouping : Grouping
  having : Option Expr
  /-- The texts of the clauses that are read for their form alone, whatever they ask for. -/
  unread : List String := []
  deriving DecidableEq, Repr, Inhabited

/-- The body of a query. -/
inductive QueryBody where
  | select (s : Select)
  /-- A combination of queries, a query in parentheses, or a list of rows. -/
  | other
  deriving DecidableEq, Repr, Inhabited

/-- An expression that rows are ordered by. -/
structure OrderItem where
  expr : Expr
  descending : Bool
  deriving DecidableEq, Repr, Inhabited

/-- A query. -/
structure Query where
  /-- Whether named queries stand before the body. -/
  named : Bool
  body : QueryBody
  orderBy : List OrderItem
  limited : Bool
  /-- The texts of the clauses around the body that are read for their form alone. -/
  unread : List String := []
  deriving DecidableEq, Repr, Inhabited

/-! ### Definitions -/

/-- The integer widths a column can be stored in. -/
inductive IntWidth where
  | w32
  | w64
  deriving DecidableEq, Repr, Inhabited

/-- The kinds of types that reading an expression or a definition tells apart. -/
inductive TypeKind where
  /-- An integer type of a stored width. -/
  | int (width : IntWidth)
  /-- A span of time. -/
  | interval
  /-- A type by a name that SQL does not know. -/
  | custom
  | other
  deriving DecidableEq, Repr, Inhabited

/-- A type as written. -/
structure TypeName where
  /-- The text of the type in normal form. -/
  text : String
  kind : TypeKind
  deriving DecidableEq, Repr, Inhabited

/-- A column of a table that is created. -/
structure ColumnSpec where
  name : Ident
  type : TypeName
  primaryKey : Bool
  deriving DecidableEq, Repr, Inhabited

/-- A constraint on a table that is created. -/
inductive TableConstraint where
  | primaryKey (columns : List Ident)
  | other
  deriving DecidableEq, Repr, Inhabited

/-- What a table is created from. -/
structure TableDefinition where
  /-- The name, possibly qualified. -/
  name : List Ident
  /-- Whether a table of this name is left as it is. -/
  ifNotExists : Bool
  columns : List ColumnSpec
  constraints : List TableConstraint
  deriving DecidableEq, Repr, Inhabited

/-- What an index is created from. -/
structure IndexDefinition where
  name : Option (List Ident)
  table : List Ident
  ifNotExists : Bool
  /-- What is indexed. -/
  columns : List Expr
  deriving DecidableEq, Repr, Inhabited

/-! ### Statements -/

/-- A SQL statement. -/
inductive Statement where
  /-- A query, and its text in normal form. -/
  | query (q : Query) (text : String)
  | createTable (t : TableDefinition)
  | createIndex (i : IndexDefinition)
  /-- Any other statement, by its text in normal form. -/
  | other (text : String)
  deriving DecidableEq, Repr, Inhabited

end SqlPipeline.Sql
