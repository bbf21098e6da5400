/-
Reading a script: statements with semicolons between them.

* `Sql.nested` — the grammar with a given number of levels of nesting left;
* `Sql.statements` — the statements of a script.  The whole script is read before any of them is
  looked at.
-/

import SqlPipeline.Sql.Grammar.Statements
import SqlPipeline.Sql.Lexer

set_option autoImplicit false

namespace SqlPipeline.Sql

open Reader

/-- The readers of the grammar, when `levels` levels of nesting are left. -/
def nested (levels : Nat) : Nested :=
  match levels with
  | 0 => .exhausted
  | k + 1 =>
    let n := nested k
    { expr := exprAt n
      operand := operandAt n
      query := queryAt n
      statement := statementAt n }

/-- The number of levels that expressions, queries and statements may be nested. -/
def maxNesting : Nat := 50

def statements (text : String) : Except SyntaxFault (List Statement) :=
  match tokens? text with
  | none => .error .unexpected
  | some ts => ((nested maxNesting).statements.run {}).run' ts

end SqlPipeline.Sql
