/-
Literals: the values that a query compares with and computes from.

* `Query.Literal` — an integer, a decimal or a text;
* `Query.Literal.text` — a literal in messages;
* `Query.Literal.neg?` — a number with the other sign.

The comparison `==` on literals compares decimals as numbers.
-/

import SqlPipeline.Decimal.Shortest

set_option autoImplicit false

namespace SqlPipeline.Query

/-- The value of a literal. -/
inductive Literal where
  | integer (v : Int)
  | decimal (v : Binary64)
  | text (s : String)
  deriving DecidableEq, BEq, Repr, Inhabited

namespace Literal

def integer? : Literal → Option Int
  | integer v => some v
  | _ => none

/-- The text of a literal in messages. -/
def shown : Literal → String
  | integer v => toString v
  | decimal v => v.text
  | text s => "'" ++ s ++ "'"

/-- The number with the other sign; a text has none. -/
def neg? : Literal → Option Literal
  | integer v => some (integer (-v))
  | decimal v => some (decimal v.neg)
  | text _ => none

end Literal

end SqlPipeline.Query
