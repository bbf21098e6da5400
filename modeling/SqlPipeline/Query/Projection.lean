/-
What a query gives: its output columns, and the conditions on its groups.

* `Query.Aggregate`, `Query.AggregateCall` — the functions of a group of records;
* `Query.Kind` — what an output column computes;
* `Query.Projection` — an output column with its name;
* `Query.HavingTerm` — a condition on groups.
-/

import SqlPipeline.Query.Scalar
import SqlPipeline.Text.Case

set_option autoImplicit false

namespace SqlPipeline.Query

/-! ### Aggregates -/

/-- A function of a group of records. -/
inductive Aggregate where
  | min
  | max
  | sum
  | count
  | avg
  deriving DecidableEq, Repr, Inhabited

namespace Aggregate

def name : Aggregate → String
  | min => "min"
  | max => "max"
  | sum => "sum"
  | count => "count"
  | avg => "avg"

/-- The function of the given name, whatever the case of its letters. -/
def ofName? (s : String) : Option Aggregate :=
  match Text.lower s with
  | "min" => some min
  | "max" => some max
  | "sum" => some sum
  | "count" => some count
  | "avg" => some avg
  | _ => none

end Aggregate

/-- A function of a column over a group of records. -/
structure AggregateCall where
  function : Aggregate
  /-- The column; none if records are counted. -/
  column : Option Nat
  deriving DecidableEq, Repr, Inhabited

/-! ### Output columns -/

/-- What an output column computes. -/
inductive Kind where
  | column (n : Nat)
  | arithmetic (e : Scalar)
  | aggregate (call : AggregateCall)
  /-- The same as another output column, by its number. -/
  | aliasOf (target : Nat)
  deriving DecidableEq, BEq, Repr, Inhabited

namespace Kind

def isAggregate : Kind → Bool
  | aggregate _ => true
  | _ => false

def isAlias : Kind → Bool
  | aliasOf _ => true
  | _ => false

end Kind

/-- An output column. -/
structure Projection where
  /-- The name in the generated program. -/
  name : String
  /-- The name that the query gave it, as written. -/
  label : Option String := none
  kind : Kind
  deriving DecidableEq, BEq, Repr, Inhabited

/-- Whether a name in the query refers to the output column: the name it was given, or else the
one it has in the generated program. -/
def Projection.answersTo (p : Projection) (name : String) : Bool :=
  Text.sameName (p.label.getD p.name) name

/-! ### Conditions on groups -/

/-- A side of a condition on groups. -/
inductive HavingOperand where
  | projected (kind : Kind)
  | literal (l : Literal)
  /-- Anything else, by its text. -/
  | expression (text : String)
  deriving DecidableEq, BEq, Repr, Inhabited

def HavingOperand.isAggregate : HavingOperand → Bool
  | projected kind => kind.isAggregate
  | _ => false

/-- A condition on groups. -/
inductive HavingTerm where
  | comparison (op : Comparator) (left right : HavingOperand)
  /-- Anything else, by its text. -/
  | unsupported (text : String)
  deriving DecidableEq, BEq, Repr, Inhabited

def HavingTerm.isAggregate : HavingTerm → Bool
  | comparison _ left right => left.isAggregate || right.isAggregate
  | unsupported _ => false

end SqlPipeline.Query
