/-
Why a query is not compiled.

* `Fault.Shape` — SQL outside the supported part;
* `Fault.Expression` — a function or an operator that is not known;
* `Fault.Types` — a value of the wrong type;
* `Fault.Internal` — a query that no SQL text leads to;
* `Fault.Reading` — a text that is no query;
* `Fault` — all causes together, each with a code and a message.
-/

import SqlPipeline.Layout.Storage
import SqlPipeline.Query.Projection

set_option autoImplicit false

namespace SqlPipeline

open Query

namespace Fault

/-- SQL outside the supported part. -/
inductive Shape where
  | severalStatements (count : Nat)
  | notSelect
  | namedQueries
  | rowLimit
  | combinedQueries
  | distinctRows
  | groupByAll
  | missingFrom
  | derivedTable
  | windowedAggregate (text : String)
  | quantifiedAggregate (text : String)
  | subquery
  | groupByAggregate (name : String)
  | disjunction
  | whereOperands (text : String)
  | whereForm (text : String)
  | severalOrders
  | orderByAggregate
  | unnaturalOrder (text : String)
  | tableCount (count : Nat)
  | outerJoin
  | havingWithoutGroups
  | severalGroupings
  | severalHavings
  | constantGroup
  | ungroupedColumn (name : String)
  | havingOperands
  | havingForm (text : String)
  deriving DecidableEq, Repr, Inhabited

def Shape.message : Shape → String
  | severalStatements count => "expected exactly one statement, got " ++ toString count
  | notSelect => "only SELECT statements can be compiled"
  | namedQueries => "WITH clauses are not supported"
  | rowLimit => "LIMIT/OFFSET are not supported"
  | combinedQueries => "only simple SELECT queries are supported (no UNION, INTERSECT, etc.)"
  | distinctRows => "DISTINCT is not supported"
  | groupByAll => "GROUP BY ALL is not supported"
  | missingFrom => "missing FROM clause"
  | derivedTable => "only plain table references are supported in FROM"
  | windowedAggregate text => "window or filtered aggregate '" ++ text ++ "' is not supported"
  | quantifiedAggregate text => "DISTINCT/ALL inside '" ++ text ++ "' is not supported"
  | subquery => "subqueries are not supported"
  | groupByAggregate name => "cannot group by aggregate '" ++ name ++ "'"
  | disjunction => "disjunctive (OR) predicates are not supported"
  | whereOperands text =>
    "WHERE conditions must compare a column with a literal: '" ++ text ++ "'"
  | whereForm text => "WHERE conditions must be comparisons joined by AND: '" ++ text ++ "'"
  | severalOrders => "ORDER BY with more than one expression is not supported"
  | orderByAggregate => "ORDER BY an aggregate is not supported"
  | unnaturalOrder text => "ORDER BY '" ++ text ++ "' does not match the scan or group order"
  | tableCount count => "queries over " ++ toString count ++ " tables are not supported"
  | outerJoin => "left and right joins are not supported"
  | havingWithoutGroups => "HAVING requires an aggregate or GROUP BY"
  | severalGroupings => "grouping by multiple expressions is not supported"
  | severalHavings => "multiple HAVING conditions are not supported"
  | constantGroup => "GROUP BY expression must reference a column"
  | ungroupedColumn name =>
    "column '" ++ name ++ "' must be aggregated or match the GROUP BY expression"
  | havingOperands => "HAVING must compare a projected column with a literal"
  | havingForm text => "HAVING clause must be a simple comparison: '" ++ text ++ "'"

/-- A function or an operator that is not known, or is used where it cannot be. -/
inductive Expression where
  | missingArgument (name : String)
  | nestedAggregate (text : String)
  | aggregateOperand (text : String)
  | aggregateArguments (text : String)
  | nonArithmetic (symbol : String)
  | aggregateInside (text : String)
  | argumentCount (name : String)
  | form (text : String)
  | unknownFunction (name : String)
  | unknownOperator (op : ArithOp)
  deriving DecidableEq, Repr, Inhabited

def Expression.message : Expression → String
  | missingArgument name => name ++ " requires an argument"
  | nestedAggregate text => "nested aggregate in '" ++ text ++ "'"
  | aggregateOperand text => "aggregate arguments must be plain columns: '" ++ text ++ "'"
  | aggregateArguments text => "unsupported arguments in '" ++ text ++ "'"
  | nonArithmetic symbol => "operator '" ++ symbol ++ "' is not supported in expressions"
  | aggregateInside text => "aggregates cannot be used inside expressions: '" ++ text ++ "'"
  | argumentCount name => "function '" ++ name ++ "' must take exactly one argument"
  | form text => "expression '" ++ text ++ "' is not supported"
  | unknownFunction name => "function '" ++ name ++ "' is not supported"
  | unknownOperator op => "operator '" ++ op.symbol ++ "' is not supported"

/-- A value of the wrong type, or out of range. -/
inductive Types where
  | integerRange (text : String)
  | columnType (column table type : String)
  | comparedValue (l : Literal)
  | boundOverflow (op : Comparator) (v : Int)
  | negativeKey (op : Comparator) (v : Int)
  | textInArithmetic (l : Literal)
  | havingText (l : Literal)
  | havingDecimal (l : Literal) (storage : Layout.Storage)
  deriving DecidableEq, Repr, Inhabited

def Types.message : Types → String
  | integerRange text => "integer literal " ++ text ++ " is out of range"
  | columnType column table type =>
    "Column '" ++ column ++ "' of table '" ++ table ++ "' has type " ++ type
      ++ "; column types must be either INT or BIGINT"
  | comparedValue l => "value " ++ l.shown ++ " in comparison must be an INT or BIGINT literal"
  | boundOverflow op v =>
    "bound " ++ op.symbol ++ " " ++ toString v ++ " cannot be made inclusive without overflow"
  | negativeKey op v =>
    "key bound " ++ op.symbol ++ " " ++ toString v
      ++ " is below zero; the key column is unsigned"
  | textInArithmetic l => "text literal " ++ l.shown ++ " cannot be used in arithmetic"
  | havingText l => "HAVING value " ++ l.shown ++ " must be numeric"
  | havingDecimal l storage =>
    "HAVING value " ++ l.shown ++ " must be an integer for a " ++ storage.name ++ " column"

/-- A query that breaks what later steps rely on. -/
inductive Internal where
  | noTable
  | aggregateSource (f : Aggregate)
  | aliasTarget
  | laterAlias (position target : Nat)
  | columnOutside (column : Nat)
  | severalColumns (count : Nat)
  | unknownAlias (target : Nat)
  | aliasDescriptor
  | descriptorSource (f : Aggregate)
  | floatWidth (bytes : Nat)
  | lostColumn
  | lostComparison
  | havingUnplanned
  | havingColumn (column : Nat)
  | unboundedColumn (name : String)
  | filterColumn (column : Nat)
  | descriptorOutput (index : Nat)
  | projectionOutput (position : Nat)
  | aggregateOutput (name : String)
  | noOutput
  | storedLiteral (l : Literal) (storage : Layout.Storage)
  | sourceless (name : String)
  | computeless (name : String)
  deriving DecidableEq, Repr, Inhabited

def Internal.message : Internal → String
  | noTable => "query has no table"
  | aggregateSource f => f.name ++ " aggregate without a source column"
  | aliasTarget => "alias target missing from output"
  | laterAlias position target =>
    "projection " ++ toString position ++ " aliases later projection " ++ toString target
  | columnOutside column => "column " ++ toString column ++ " is outside the table"
  | severalColumns count =>
    "expression must reference exactly one column, found " ++ toString count
  | unknownAlias target => "alias of unknown projection " ++ toString target
  | aliasDescriptor => "alias reached descriptor construction"
  | descriptorSource f => f.name ++ " without a source column"
  | floatWidth bytes => "no float type of " ++ toString bytes ++ " bytes"
  | lostColumn => "lost column"
  | lostComparison => "comparison lost"
  | havingUnplanned => "HAVING target was not planned"
  | havingColumn column => "HAVING column " ++ toString column ++ " is missing"
  | unboundedColumn name => name ++ " set without a bounded column"
  | filterColumn column => "filter on unknown column " ++ toString column
  | descriptorOutput index => "descriptor " ++ toString index ++ " has no output column"
  | projectionOutput position => "projection " ++ toString position ++ " has no output column"
  | aggregateOutput name =>
    "projection '" ++ name ++ "' cannot be printed without an aggregate operator"
  | noOutput => "query has no printable columns"
  | storedLiteral l storage => "literal " ++ l.shown ++ " cannot be stored as " ++ storage.name
  | sourceless name => "descriptor " ++ name ++ " has no source column"
  | computeless name => "descriptor " ++ name ++ " has no compute callback"

/-- A text that is no query. -/
inductive Reading where
  | unreadable
  | emptyText
  | badNumber (text : String)
  deriving DecidableEq, Repr, Inhabited

def Reading.message : Reading → String
  | unreadable => "sql parser error"
  | emptyText => "empty query"
  | badNumber text => "cannot parse number '" ++ text ++ "'"

end Fault

/-- Why a query is not compiled. -/
inductive Fault where
  | shape (cause : Fault.Shape)
  | expression (cause : Fault.Expression)
  | types (cause : Fault.Types)
  | internal (cause : Fault.Internal)
  | badText (cause : Fault.Reading)
  | unknownTable (name : String)
  | unknownColumn (column table : String)
  deriving DecidableEq, Repr, Inhabited

namespace Fault

def code : Fault → String
  | shape _ => "EMBEDDB_UNSUPPORTED_QUERY_SHAPE"
  | expression _ => "EMBEDDB_UNSUPPORTED_EXPRESSION"
  | types _ => "EMBEDDB_TYPE_ERROR"
  | internal _ => "EMBEDDB_INTERNAL_INVARIANT"
  | badText _ => "EMBEDDB_SQL_SYNTAX"
  | unknownTable _ => "EMBEDDB_UNKNOWN_TABLE"
  | unknownColumn _ _ => "EMBEDDB_UNKNOWN_COLUMN"

def message : Fault → String
  | shape cause => cause.message
  | expression cause => cause.message
  | types cause => cause.message
  | internal cause => cause.message
  | badText cause => cause.message
  | unknownTable name => "Table '" ++ name ++ "' not found"
  | unknownColumn column table =>
    "Column '" ++ column ++ "' not found in table '" ++ table ++ "'"

/-- The code and the message of a fault. -/
def text (f : Fault) : String :=
  f.code ++ ": " ++ f.message

end Fault

end SqlPipeline
