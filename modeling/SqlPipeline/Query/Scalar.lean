/-
Scalar expressions over the columns of a table.

* `Query.Scalar` — columns, literals, functions of one argument and arithmetic;
* `Query.Scalar.columns` — the columns of an expression, each once, in rising order;
* `Query.Scalar.isFloat` — whether the value has a fraction: a decimal literal has one, and so has
  arithmetic with one; functions and columns have none.
-/

import SqlPipeline.Operator
import SqlPipeline.Query.Literal

set_option autoImplicit false

namespace SqlPipeline.Query

/-- A rising list of numbers with one more in it. -/
def insertNumber (n : Nat) : List Nat → List Nat
  | [] => [n]
  | m :: ms => if n < m then n :: m :: ms else if n = m then m :: ms else m :: insertNumber n ms

/-- The numbers of a list, each once, in rising order. -/
def numberSet (ns : List Nat) : List Nat :=
  ns.foldr insertNumber []

/-- A scalar expression over the columns of a table. -/
inductive Scalar where
  | column (n : Nat)
  | literal (l : Literal)
  /-- A function of one argument, by its name. -/
  | apply (name : String) (arg : Scalar)
  | binary (op : ArithOp) (l r : Scalar)
  deriving DecidableEq, BEq, Repr, Inhabited

namespace Scalar

/-- The columns of an expression, from left to right. -/
def occurrences : Scalar → List Nat
  | column n => [n]
  | literal _ => []
  | apply _ arg => arg.occurrences
  | binary _ l r => l.occurrences ++ r.occurrences

/-- The columns of an expression, each once, in rising order. -/
def columns (e : Scalar) : List Nat :=
  numberSet e.occurrences

def isFloat : Scalar → Bool
  | literal (.decimal _) => true
  | literal _ => false
  | column _ => false
  | apply _ _ => false
  | binary _ l r => l.isFloat || r.isFloat

end Scalar

end SqlPipeline.Query
