/-
Conditions on groups.

* `Plan.HavingFilter` — a comparison of a value of a group with a literal;
* `Plan.HavingFilter.ofTerm` — the comparison that a condition makes, with the value on its left.
-/

import SqlPipeline.Fault
import SqlPipeline.Layout.Schema

set_option autoImplicit false

namespace SqlPipeline.Plan

open Layout Query

/-- A comparison of a value of a group with a literal. -/
structure HavingFilter where
  /-- The number of the value. -/
  column : Nat
  /-- The comparison, with the value on its left. -/
  op : Comparator
  literal : Literal
  storage : Storage
  deriving DecidableEq, BEq, Repr, Inhabited

/-- The comparison and the literal of a condition, with the value of the group on the left. -/
def havingComparison : HavingTerm → Except Fault (Comparator × Literal)
  | .comparison op (.projected _) (.literal l) => .ok (op, l)
  | .comparison op (.literal l) (.projected _) => .ok (op.flip, l)
  | .comparison _ _ _ => .error (.shape .havingOperands)
  | .unsupported text => .error (.shape (.havingForm text))

/-- Refuses a literal that cannot be compared with a value of the given type. -/
def checkHavingLiteral (l : Literal) (storage : Storage) : Except Fault Unit :=
  match l with
  | .text _ => .error (.types (.havingText l))
  | .decimal _ =>
    if storage.isFloat then .ok () else .error (.types (.havingDecimal l storage))
  | .integer _ => .ok ()

/-- The comparison that a condition makes on the value with the given number. -/
def HavingFilter.ofTerm (h : HavingTerm) (column : Nat) (schema : Schema) :
    Except Fault HavingFilter := do
  let (op, literal) ← havingComparison h
  match schema.type? column with
  | none => throw (.internal (.havingColumn column))
  | some storage =>
    checkHavingLiteral literal storage
    return { column, op, literal, storage }

end SqlPipeline.Plan
