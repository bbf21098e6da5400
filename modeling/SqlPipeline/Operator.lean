/-
The operators of comparisons and of arithmetic, with their spellings.

* `Comparator` — the six comparisons, with their sides exchanged and with the tags they have in
  generated names;
* `ArithOp` — the five operators of arithmetic.
-/

set_option autoImplicit false

namespace SqlPipeline

/-- A comparison of two values. -/
inductive Comparator where
  | eq
  | ne
  | lt
  | le
  | gt
  | ge
  deriving DecidableEq, Repr, Inhabited

namespace Comparator

/-- The comparison with its sides exchanged: `5 < a` says `a > 5`. -/
def flip : Comparator → Comparator
  | lt => gt
  | le => ge
  | gt => lt
  | ge => le
  | eq => eq
  | ne => ne

/-- The tag of the comparison in generated names. -/
def suffix : Comparator → String
  | eq => "EQ"
  | ne => "NEQ"
  | lt => "LT"
  | le => "LTE"
  | gt => "GT"
  | ge => "GTE"

/-- The constant that selects the comparison in the record store. -/
def constant (c : Comparator) : String :=
  "SELECT_" ++ c.suffix

def symbol : Comparator → String
  | eq => "="
  | ne => "!="
  | lt => "<"
  | le => "<="
  | gt => ">"
  | ge => ">="

/-- The truth of the comparison on integers. -/
def holds : Comparator → Int → Int → Bool
  | eq, a, b => a == b
  | ne, a, b => a != b
  | lt, a, b => a < b
  | le, a, b => a ≤ b
  | gt, a, b => b < a
  | ge, a, b => b ≤ a

end Comparator

/-- An operator of arithmetic. -/
inductive ArithOp where
  | add
  | sub
  | mul
  | div
  | mod
  deriving DecidableEq, Repr, Inhabited

def ArithOp.symbol : ArithOp → String
  | add => "+"
  | sub => "-"
  | mul => "*"
  | div => "/"
  | mod => "%"

end SqlPipeline
