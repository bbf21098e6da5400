/-
Why a definition is refused.

* `Catalog.Unsupported` — the definitions that SQL has and the catalog does not take;
* `Catalog.Fault` — the causes, each with a code and a message.
-/

set_option autoImplicit false

namespace SqlPipeline.Catalog

/-- A definition that SQL has and the catalog does not take. -/
inductive Unsupported where
  /-- A statement that defines neither a table nor an index, by its first words. -/
  | statement (words : String)
  | noColumns (table : String)
  | compositeKey
  | secondKey (table : String)
  /-- A primary key that is not the first column. -/
  | misplacedKey (table : String)
  | compositeIndex
  /-- An index on something other than a column, by its text. -/
  | indexedExpression (text : String)
  deriving DecidableEq, Repr, Inhabited

def Unsupported.message : Unsupported → String
  | statement words => words
  | noColumns table => "table '" ++ table ++ "' must declare at least one column"
  | compositeKey => "composite primary keys are not supported"
  | secondKey table => "table '" ++ table ++ "' declares more than one primary key"
  | misplacedKey table => "primary key of table '" ++ table ++ "' must be its first column"
  | compositeIndex => "indexes must cover exactly one column"
  | indexedExpression text => "index on expression '" ++ text ++ "'"

/-- Why a definition is refused. -/
inductive Fault where
  /-- The text is no SQL. -/
  | unreadable
  | tableExists (name : String)
  | tableNotFound (name : String)
  | columnNotFound (table column : String)
  | indexExists (name : String)
  | unsupported (what : Unsupported)
  deriving DecidableEq, Repr, Inhabited

namespace Fault

def code : Fault → String
  | unreadable => "EMBEDDB_CATALOG_SYNTAX"
  | tableExists _ => "EMBEDDB_CATALOG_TABLE_EXISTS"
  | tableNotFound _ => "EMBEDDB_CATALOG_TABLE_NOT_FOUND"
  | columnNotFound _ _ => "EMBEDDB_CATALOG_COLUMN_NOT_FOUND"
  | indexExists _ => "EMBEDDB_CATALOG_INDEX_EXISTS"
  | unsupported _ => "EMBEDDB_CATALOG_UNSUPPORTED"

def message : Fault → String
  | unreadable => "SQL syntax error: sql parser error"
  | tableExists name => "Table already exists: " ++ name
  | tableNotFound name => "Table not found: " ++ name
  | columnNotFound table column =>
    "Column '" ++ column ++ "' not found in table '" ++ table ++ "'"
  | indexExists name => "Index already exists: " ++ name
  | unsupported what => "Unsupported DDL: " ++ what.message

end Fault

end SqlPipeline.Catalog
