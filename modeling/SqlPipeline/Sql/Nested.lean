/-
The readers of what stands one level deeper.

The grammar of SQL is recursive: expressions contain expressions and queries, queries contain
expressions and tables.  Each part of the grammar is written over a record of readers for the
level below it, `Sql.Nested`; tying the levels together is recursion on the number of levels
that are left.

* `Sql.Nested` — the readers of the next level.
-/

import SqlPipeline.Sql.Reader

set_option autoImplicit false

namespace SqlPipeline.Sql

/-- The readers of the next level of nesting. -/
structure Nested where
  /-- An expression whose operators bind more strongly than the given strength. -/
  expr : Nat → Reader Expr
  /-- An operand, without operators after it. -/
  operand : Reader Expr
  query : Reader (Written Query)
  statement : Reader Statement

namespace Nested

/-- No level is left: every reader fails. -/
def exhausted : Nested where
  expr _ := throw .tooDeep
  operand := throw .tooDeep
  query := throw .tooDeep
  statement := throw .tooDeep

def anyExpr (n : Nested) : Reader Expr :=
  n.expr 0

/-- One or more expressions, with commas between them. -/
def exprs (n : Nested) : Reader (List Expr) :=
  Reader.commaList n.anyExpr

/-- The statements up to the end of the tokens, at most `fuel` of them.  After a statement the word
`END` ends them, and anything else but a semicolon is refused. -/
def statementsUpTo (n : Nested) : Nat → Reader (List Statement)
  | 0 => return []
  | fuel + 1 => do
    let _ ← Reader.while? do
      if ← Reader.symbol? ";" then return some () else return none
    if (← get).isEmpty then return []
    let s ← n.statement
    if (← get).isEmpty then return [s]
    if ← Reader.peekOneOf ["END"] then return [s]
    if ← Reader.peekSymbol ";" then return s :: (← n.statementsUpTo fuel) else Reader.fail

/-- The statements up to the end of the tokens or to a word `END` after one of them. -/
def statements (n : Nested) : Reader (List Statement) := do
  n.statementsUpTo ((← get).length + 1)

end Nested

def exprsText (es : List Expr) : String :=
  Reader.commaText (es.map Expr.text)

end SqlPipeline.Sql
