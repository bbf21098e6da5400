/-
The routines that the generated program needs beside its two procedures.

* `Plan.GroupTest` — when two records belong to one group;
* `Plan.Routine` — a routine, which is known by its name;
* `Plan.Routines` — the routines of a program, in order, with one of each name.
-/

import SqlPipeline.Plan.Formula

set_option autoImplicit false

namespace SqlPipeline.Plan

/-- When two records belong to one group. -/
inductive GroupTest where
  /-- Always: there is one group. -/
  | always
  /-- When a formula of a column, stored with the given type at the given place, has the same value
  on both. -/
  | expression (e : Formula) (type : Layout.Storage) (offset : Nat)
  deriving DecidableEq, BEq, Repr, Inhabited

/-- A routine of the generated program. -/
inductive Routine where
  | math (f : MathFunction)
  | groupTest (test : GroupTest)
  /-- The value of a formula on the last record of a group, which is stored in the output. -/
  | groupValue (name : String) (e : Formula) (source : Layout.Storage) (offset : Nat)
      (output : Layout.Storage)
  deriving DecidableEq, BEq, Repr, Inhabited

/-- The name of the routine that tests whether two records belong to one group. -/
def groupTestName : String := "groupFunction"

def Routine.name : Routine → String
  | math f => f.routineName
  | groupTest _ => groupTestName
  | groupValue name _ _ _ _ => name

/-- The routines of a program, in the order in which they were first needed. -/
structure Routines where
  list : List Routine := []
  deriving DecidableEq, BEq, Repr, Inhabited

namespace Routines

def empty : Routines := {}

def names (rs : Routines) : List String :=
  rs.list.map Routine.name

def contains (rs : Routines) (name : String) : Bool :=
  rs.list.any fun r => r.name == name

/-- The routines with one more, unless there is one of its name. -/
def register (rs : Routines) (r : Routine) : Routines :=
  if rs.contains r.name then rs else ⟨rs.list ++ [r]⟩

end Routines

end SqlPipeline.Plan
