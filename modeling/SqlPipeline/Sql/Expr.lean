/-
SQL expressions, and their text in normal form.

* `Sql.Ident` — a name with the quote it stands in;
* `Sql.Expr` — an expression.  The forms that a compiled query can contain are trees; the forms
  that no query may contain are kept as their text alone, because messages show it;
* `Sql.Expr.text` — the text of an expression: one blank around operators, none after a sign.
-/

import SqlPipeline.Operator

set_option autoImplicit false

namespace SqlPipeline.Sql

/-! ### Names -/

/-- A name, and the quote it stands in. -/
structure Ident where
  /-- The name without quotes. -/
  value : String
  /-- The quote, for a quoted name. -/
  quote : Option Char := none
  deriving DecidableEq, Repr, Inhabited

/-- The text between quotes `q`: a quote inside is doubled, unless it already is one of a pair or
a backslash stands before it; `last` is the character before. -/
def doubleQuotes (q : Char) : Option Char → List Char → List Char
  | _, [] => []
  | last, [c] => if c == q && last != some '\\' then [q, q] else [c]
  | last, c :: d :: cs =>
    if c == q then
      if last == some '\\' then c :: doubleQuotes q last (d :: cs)
      else if d == q then q :: q :: doubleQuotes q (some q) cs
      else q :: q :: doubleQuotes q (some q) (d :: cs)
    else c :: doubleQuotes q (some c) (d :: cs)

def inQuotes (q : Char) (s : String) : String :=
  String.ofList (q :: doubleQuotes q none s.toList ++ [q])

/-- The name as written. -/
def Ident.text (i : Ident) : String :=
  match i.quote with
  | none => i.value
  | some q => inQuotes q i.value

/-- Names joined by points. -/
def pathText (names : List Ident) : String :=
  ".".intercalate (names.map Ident.text)

/-- The last name of a path, without quotes: the object itself, whatever it is qualified with. -/
def pathName (names : List Ident) : String :=
  (names.getLast?.map Ident.value).getD ""

/-! ### Operators and calls -/

/-- An operator between two expressions. -/
inductive BinaryOp where
  | and
  | or
  | compare (op : Comparator)
  | arith (op : ArithOp)
  /-- Any other operator, by its spelling. -/
  | other (symbol : String)
  deriving DecidableEq, Repr, Inhabited

def BinaryOp.text : BinaryOp → String
  | and => "AND"
  | or => "OR"
  | compare .ne => "<>"
  | compare op => op.symbol
  | arith op => op.symbol
  | other s => s

/-- The comparison that an operator is, if it is one. -/
def BinaryOp.comparator? : BinaryOp → Option Comparator
  | compare op => some op
  | _ => none

/-- A function call without its arguments. -/
structure CallHead where
  name : List Ident
  /-- The text of a list of parameters between the name and the arguments. -/
  parameters : String := ""
  /-- `DISTINCT` or `ALL` before the arguments. -/
  quantifier : Option String := none
  /-- The text of the clauses after the arguments. -/
  clauses : String := ""
  /-- Whether the call ranges over a window. -/
  windowed : Bool := false
  /-- The text after the closing parenthesis. -/
  trailer : String := ""
  deriving DecidableEq, Repr, Inhabited

/-- The arguments of a call, when they are not exactly one expression. -/
inductive CallArgs where
  /-- A name that is called without parentheses. -/
  | none
  | star
  | query (text : String)
  /-- No argument, several, or one of another form. -/
  | other (text : String)
  deriving DecidableEq, Repr, Inhabited

/-- The text of a call around its arguments. -/
def CallHead.around (f : CallHead) (args : String) : String :=
  pathText f.name ++ f.parameters ++ "(" ++ (f.quantifier.map (· ++ " ")).getD "" ++ args
    ++ f.clauses ++ ")" ++ f.trailer

/-! ### Expressions -/

/-- A SQL expression. -/
inductive Expr where
  | ident (name : Ident)
  /-- A name qualified by others. -/
  | path (names : List Ident)
  /-- A number as written, and whether the suffix `L` follows it. -/
  | number (text : String) (long : Bool)
  | string (value : String)
  /-- An expression in parentheses. -/
  | nested (e : Expr)
  /-- An expression after a sign. -/
  | sign (negative : Bool) (e : Expr)
  | binary (op : BinaryOp) (l r : Expr)
  /-- The next integer above or below, and the text of the unit it counts in. -/
  | rounded (up : Bool) (e : Expr) (unit : String)
  /-- A call with one expression as its argument. -/
  | call (f : CallHead) (arg : Expr)
  | callWith (f : CallHead) (args : CallArgs)
  /-- A form that contains a query as an operand. -/
  | subquery (text : String)
  | other (text : String)
  deriving DecidableEq, Repr, Inhabited

/-- The text of an expression in normal form. -/
def Expr.text : Expr → String
  | ident i => i.text
  | path names => pathText names
  | number t long => if long then t ++ "L" else t
  | string s => inQuotes '\'' s
  | nested e => "(" ++ e.text ++ ")"
  | sign negative e => (if negative then "-" else "+") ++ e.text
  | binary op l r => l.text ++ " " ++ op.text ++ " " ++ r.text
  | rounded up e unit => (if up then "CEIL(" else "FLOOR(") ++ e.text ++ unit ++ ")"
  | call f arg => f.around arg.text
  | callWith f .none => pathText f.name
  | callWith f .star => f.around "*"
  | callWith f (.query t) => f.around t
  | callWith f (.other t) => f.around t
  | subquery t => t
  | other t => t

/-- A form that has a query among its operands, and is not a call. -/
def Expr.isSubquery : Expr → Bool
  | subquery _ => true
  | _ => false

end SqlPipeline.Sql
