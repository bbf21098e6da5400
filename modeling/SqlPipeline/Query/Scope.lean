/-
What the expressions of a query mean, over one table.

* `Query.literal?` — the literal that an expression is, if it is one;
* `Query.Scope` — the table of a query, with the name the query gives it;
* `Query.Scope.column?` — the column that an expression names, if it is a name;
* `Query.Scope.aggregate?` — the function of a group that an expression calls, if it is a call;
* `Query.Scope.scalar` — the value of any other expression.
-/

import SqlPipeline.Catalog.Table
import SqlPipeline.Fault
import SqlPipeline.Sql.Expr

set_option autoImplicit false

namespace SqlPipeline.Query

open Sql

/-! ### Literals -/

/-- The integers that a literal can denote. -/
def maxInteger : Nat := Nat.pow 2 63 - 1

/-- The number that digits denote. -/
def digitsNumber (text : String) : Nat :=
  text.toList.foldl (fun n c => 10 * n + (c.toNat - 48)) 0

/-- Whether a number is written with a point or an exponent. -/
def isDecimalText (text : String) : Bool :=
  text.toList.any fun c => c == '.' || c == 'e' || c == 'E'

def numberLiteral (text : String) : Except Fault Literal :=
  if isDecimalText text then
    match Binary64.ofText? text with
    | some x => .ok (.decimal x)
    | none => .error (.badText (.badNumber text))
  else if digitsNumber text ≤ maxInteger then .ok (.integer (digitsNumber text))
  else .error (.types (.integerRange text))

/-- The literal that an expression is, if it is one: a number or a string, with signs before a
number and parentheses around it. -/
def literal? : Expr → Except Fault (Option Literal)
  | .number text _ => return some (← numberLiteral text)
  | .string s => return some (.text s)
  | .sign true e => return (← literal? e).bind Literal.neg?
  | .sign false e => literal? e
  | .nested e => literal? e
  | _ => return none

/-! ### Columns -/

/-- The table of a query, and the name that the query gives it. -/
structure Scope where
  table : Catalog.Table
  /-- The name that the query gives it. -/
  label : Option String := none
  deriving DecidableEq, Repr, Inhabited

namespace Scope

def named (s : Scope) (name : String) : Except Fault Nat :=
  match s.table.column? name with
  | some n => .ok n
  | none => .error (.unknownColumn name s.table.name)

/-- Whether a qualifier refers to the table. -/
def isQualifier (s : Scope) (q : String) : Bool :=
  Text.sameName q s.table.name || s.label.any fun a => Text.sameName a q

/-- The column of a qualified name.  The qualifier is one name, that of the table. -/
def qualified (s : Scope) (names : List Ident) : Except Fault Nat :=
  match names with
  | [q, c] => if s.isQualifier q.value then s.named c.value else unknown
  | _ => unknown
where
  /-- No column has such a name. -/
  unknown : Except Fault Nat :=
    .error (.unknownColumn (".".intercalate (names.map Ident.value)) s.table.name)

/-- The column that an expression names, if it is a name. -/
def column? (s : Scope) : Expr → Except Fault (Option Nat)
  | .ident i => return some (← s.named i.value)
  | .path names => return some (← s.qualified names)
  | .nested e => s.column? e
  | _ => return none

/-! ### Aggregates -/

/-- The function of a group that a call names, if it is one; a window is refused, and `text` is
the text of the call. -/
def aggregateOf? (f : CallHead) (text : String) : Except Fault (Option Aggregate) :=
  match Aggregate.ofName? (pathName f.name) with
  | none => return none
  | some a =>
    if f.windowed then throw (.shape (.windowedAggregate text)) else return some a

/-- Refuses `DISTINCT` and `ALL` in a call. -/
def unquantified (f : CallHead) (text : String) : Except Fault Unit :=
  if f.quantifier.isSome then throw (.shape (.quantifiedAggregate text)) else return ()

/-- The function of a group that an expression calls, if it is such a call. -/
def aggregate? (s : Scope) : Expr → Except Fault (Option AggregateCall)
  | .nested e => s.aggregate? e
  | .call f arg => do
    let text := f.around arg.text
    match ← aggregateOf? f text with
    | none => return none
    | some a =>
      unquantified f text
      if (← s.aggregate? arg).isSome then throw (.expression (.nestedAggregate text))
      match ← s.column? arg with
      | some n => return some ⟨a, some n⟩
      | none => throw (.expression (.aggregateOperand text))
  | .callWith f args => do
    let text := Expr.text (.callWith f args)
    match ← aggregateOf? f text with
    | none => return none
    | some a =>
      match args with
      | .query _ => throw (.shape .subquery)
      | .none => throw (.expression (.missingArgument (pathName f.name)))
      | .star =>
        unquantified f text
        if a = .count then return some ⟨a, none⟩
        throw (.expression (.aggregateArguments text))
      | .other _ =>
        unquantified f text
        throw (.expression (.aggregateArguments text))
  | _ => return none

/-! ### Scalar expressions -/

/-- The value of an expression that is a literal or a column; a query is refused. -/
def atom? (s : Scope) (e : Expr) : Except Fault (Option Scalar) := do
  if let some l ← literal? e then return some (.literal l)
  if let some n ← s.column? e then return some (.column n)
  if e.isSubquery then throw (.shape .subquery)
  return none

/-- Refuses a function of a group inside an expression. -/
def unaggregated (s : Scope) (e : Expr) : Except Fault Unit := do
  if (← s.aggregate? e).isSome then throw (.expression (.aggregateInside e.text))

/-- The value of an expression.  A sign before anything but a literal is a difference from
zero. -/
def scalar (s : Scope) (e : Expr) : Except Fault Scalar := do
  if let some a ← s.atom? e then return a
  match e with
  | .nested inner => s.scalar inner
  | .sign true inner => return .binary .sub (.literal (.integer 0)) (← s.scalar inner)
  | .sign false inner => s.scalar inner
  | .binary (.arith op) l r => return .binary op (← s.scalar l) (← s.scalar r)
  | .binary op _ _ => throw (.expression (.nonArithmetic op.text))
  | .rounded up inner _ => return .apply (if up then "ceil" else "floor") (← s.scalar inner)
  | .call f arg =>
    s.unaggregated (.call f arg)
    return .apply (Text.lower (pathName f.name)) (← s.scalar arg)
  | .callWith f args =>
    s.unaggregated (.callWith f args)
    throw (.expression (.argumentCount (Text.lower (pathName f.name))))
  | _ => throw (.expression (.form e.text))

end Scope

end SqlPipeline.Query
