/-
Formulas: the expressions that the generated program computes.

* `Plan.MathFunction`, `Plan.FormulaOp` — the functions and the operators of the generated
  program;
* `Plan.Formula` — an expression over columns and numbers;
* `Plan.Formula.textWith` — a formula in the generated program, with a text in place of its
  columns.
-/

import SqlPipeline.Fault

set_option autoImplicit false

namespace SqlPipeline.Plan

open Query

/-- A function of one number. -/
inductive MathFunction where
  | floor
  | ceil
  | abs
  | round
  deriving DecidableEq, Repr, Inhabited

namespace MathFunction

/-- The function of the given name, whatever the case of its letters. -/
def ofName? (s : String) : Option MathFunction :=
  match Text.lower s with
  | "floor" => some floor
  | "ceil" => some ceil
  | "ceiling" => some ceil
  | "abs" => some abs
  | "round" => some round
  | _ => none

/-- The name of the function in the generated program. -/
def routineName : MathFunction → String
  | floor => "embedDBFloor"
  | ceil => "embedDBCeil"
  | abs => "embedDBAbs"
  | round => "embedDBRound"

end MathFunction

/-- An operator of the generated program. -/
inductive FormulaOp where
  | add
  | sub
  | mul
  | div
  deriving DecidableEq, Repr, Inhabited

namespace FormulaOp

def symbol : FormulaOp → String
  | add => "+"
  | sub => "-"
  | mul => "*"
  | div => "/"

/-- The operator that computes an operator of SQL, if there is one. -/
def ofArith? : ArithOp → Option FormulaOp
  | .add => some add
  | .sub => some sub
  | .mul => some mul
  | .div => some div
  | .mod => none

end FormulaOp

/-- An expression that the generated program computes. -/
inductive Formula where
  | integer (v : Int)
  | decimal (v : Binary64)
  | column (n : Nat)
  | apply (f : MathFunction) (e : Formula)
  | binary (op : FormulaOp) (l r : Formula)
  deriving DecidableEq, BEq, Repr, Inhabited

namespace Formula

/-- The text of a formula in the generated program, with `access` in place of its columns. -/
def textWith (access : String) : Formula → String
  | integer v => toString v
  | decimal v => v.text
  | column _ => access
  | apply f e => f.routineName ++ "(" ++ e.textWith access ++ ")"
  | binary op l r =>
    "(" ++ l.textWith access ++ " " ++ op.symbol ++ " " ++ r.textWith access ++ ")"

/-- The columns of a formula, from left to right. -/
def occurrences : Formula → List Nat
  | integer _ => []
  | decimal _ => []
  | column n => [n]
  | apply _ e => e.occurrences
  | binary _ l r => l.occurrences ++ r.occurrences

/-- The columns of a formula, each once, in rising order. -/
def columns (e : Formula) : List Nat :=
  numberSet e.occurrences

def column? (e : Formula) : Option Nat :=
  e.columns.head?

/-- Whether the value has a fraction. -/
def isFloat : Formula → Bool
  | decimal _ => true
  | integer _ => false
  | column _ => false
  | apply _ _ => false
  | binary _ l r => l.isFloat || r.isFloat

/-- The functions of a formula, from the outside in and from left to right. -/
def functions : Formula → List MathFunction
  | integer _ => []
  | decimal _ => []
  | column _ => []
  | apply f e => f :: e.functions
  | binary _ l r => l.functions ++ r.functions

/-- The text of a formula in a plan, where a column is written by its number. -/
def text (e : Formula) : String :=
  e.textWith <|
    match e.column? with
    | some n => "col" ++ toString n
    | none => ""

end Formula

end SqlPipeline.Plan
