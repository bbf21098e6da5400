/-
The program that computes a query: construction steps, and what is printed.

* `Plan.Step` — a step of the construction of the operators;
* `Plan.OutputColumn` — a printed column;
* `Plan.Program` — the whole program.
-/

import SqlPipeline.Plan.Access
import SqlPipeline.Plan.Grouping
import SqlPipeline.Plan.Having

set_option autoImplicit false

namespace SqlPipeline.Plan

open Layout Query

/-- A step of the construction of the operators.  Variables are known by their names. -/
inductive Step where
  /-- A literal is stored in a variable. -/
  | literal (name : String) (storage : Storage) (value : Literal)
  /-- The records within bounds, which stand in variables. -/
  | iterator (minKey maxKey minData maxData : Option String)
  | scan (schema : Schema) (name : String)
  /-- The records for which a comparison with a variable holds. -/
  | selection (name input : String) (column : Nat) (op : Comparator) (value : String)
  | aggregate (input : String) (descriptors : List Descriptor) (packed name : String)
  /-- The groups for which a comparison with a variable holds. -/
  | having (name input : String) (column : Nat) (op : Comparator) (value : String)
  deriving DecidableEq, BEq, Repr, Inhabited

/-- A printed column. -/
structure OutputColumn where
  /-- Its name, which is also that of the pointer to its value. -/
  name : String
  /-- The type and the place of the value that it points to, if it is not constant. -/
  pointer : Option (Storage × Nat)
  /-- The type it is printed as. -/
  type : Storage
  /-- The formula of the value, if it is not the value itself. -/
  formula : Option Formula := none
  deriving DecidableEq, BEq, Repr, Inhabited

def OutputColumn.valueText (c : OutputColumn) : String :=
  match c.formula with
  | some f => "(" ++ c.type.name ++ ")(" ++ f.textWith ("*" ++ c.name) ++ ")"
  | none => "*" ++ c.name

/-- The program that computes a query. -/
structure Program where
  table : String
  steps : List Step
  /-- The variable that holds the last operator. -/
  root : String
  /-- The variables that are freed at the end, in order. -/
  allocations : List String
  /-- The variables that are freed during the construction, in order. -/
  transient : List String
  routines : Routines
  output : List OutputColumn
  access : Access
  grouping : Option Grouping
  having : Option HavingFilter
  deriving DecidableEq, BEq, Repr, Inhabited

end SqlPipeline.Plan
