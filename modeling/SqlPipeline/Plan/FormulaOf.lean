/-
The formula of a scalar expression.

* `Plan.Collecting` — work that may fail, and that collects routines even if it does;
* `Plan.formulaOf` — the formula of an expression, which has at most one column.
-/

import SqlPipeline.Plan.Routine

set_option autoImplicit false

namespace SqlPipeline.Plan

open Query

/-- Work that may fail, and that collects routines even if it does. -/
abbrev Collecting (α : Type) : Type :=
  ExceptT Fault (StateM Routines) α

/-- One more routine is needed. -/
def need (r : Routine) : Collecting Unit :=
  modify fun rs => rs.register r

/-- The formula of an expression, node by node. -/
def formulaNode : Scalar → Collecting Formula
  | .column n => return .column n
  | .literal (.integer v) => return .integer v
  | .literal (.decimal v) => return .decimal v
  | .literal (.text s) => throw (.types (.textInArithmetic (.text s)))
  | .apply name arg => do
    match MathFunction.ofName? name with
    | none => throw (.expression (.unknownFunction name))
    | some f =>
      need (.math f)
      return .apply f (← formulaNode arg)
  | .binary op l r => do
    match FormulaOp.ofArith? op with
    | none => throw (.expression (.unknownOperator op))
    | some o => return .binary o (← formulaNode l) (← formulaNode r)

/-- The formula of an expression.  The generated program computes it from one value, so it has at
most one column. -/
def formulaOf (e : Scalar) : Collecting Formula := do
  let f ← formulaNode e
  if 1 < f.columns.length then throw (.internal (.severalColumns f.columns.length))
  return f

end SqlPipeline.Plan
