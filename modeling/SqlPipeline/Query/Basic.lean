/-
Queries in which every name has been looked up.

* `Query.Comparison` — a column compared with a literal;
* `Query.Resolved` — a query: its tables, its conditions and its output columns, with columns by
  their number;
* `Query.Resolved.ofTable` and the functions after it — building a query step by step.
-/

import SqlPipeline.Catalog.Table
import SqlPipeline.Query.Projection

set_option autoImplicit false

namespace SqlPipeline.Query

/-- A condition on records: a column compared with a literal. -/
structure Comparison where
  column : Nat
  /-- The comparison, with the column on its left. -/
  op : Comparator
  literal : Literal
  deriving DecidableEq, BEq, Repr, Inhabited

/-- A query in which every name has been looked up. -/
structure Resolved where
  tables : List Catalog.Table
  /-- Whether rows without a partner are kept in a join. -/
  outerJoin : Bool := false
  /-- The best index of each column of the first table. -/
  hints : List Catalog.Hint
  /-- The conditions on records, all of which hold. -/
  predicates : List Comparison := []
  /-- Whether a function of a group is computed. -/
  aggregated : Bool := false
  groupBy : List Scalar := []
  /-- The conditions on groups, all of which hold. -/
  having : List HavingTerm := []
  projections : List Projection := []
  deriving DecidableEq, BEq, Repr, Inhabited

namespace Resolved

/-- The query over one table that has no output columns yet. -/
def ofTable (t : Catalog.Table) : Resolved :=
  { tables := [t], hints := t.hints }

/-- The query with every column of the first table as its output. -/
def selectAll (q : Resolved) : Resolved :=
  match q.tables with
  | [] => q
  | t :: _ =>
    { q with
      projections := t.columns.zipIdx.map fun (c, i) => { name := c.name, kind := .column i } }

/-- The query with one more output column. -/
def project (q : Resolved) (name : String) (kind : Kind) : Resolved :=
  { q with
    projections := q.projections ++ [{ name, kind }]
    aggregated := q.aggregated || kind.isAggregate }

def filterBy (q : Resolved) (column : Nat) (op : Comparator) (literal : Literal) : Resolved :=
  { q with predicates := q.predicates ++ [⟨column, op, literal⟩] }

def groupedBy (q : Resolved) (e : Scalar) : Resolved :=
  { q with groupBy := q.groupBy ++ [e] }

def havingTerm (q : Resolved) (h : HavingTerm) : Resolved :=
  { q with having := q.having ++ [h], aggregated := q.aggregated || h.isAggregate }

def isGrouped (q : Resolved) : Bool :=
  q.aggregated || !q.groupBy.isEmpty

end Resolved

end SqlPipeline.Query
