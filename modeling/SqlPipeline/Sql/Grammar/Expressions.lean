/-
Reading expressions.

* `Sql.strength` — how strongly the operator at the head of the tokens binds, and zero if there is
  none;
* `Sql.operandAt` — an operand: a value, a name, a call, an expression in parentheses, or one of
  the forms that begin with a keyword;
* `Sql.operatorAt` — an operator and what stands to its right;
* `Sql.exprAt` — an expression whose operators bind more strongly than a given strength.

Operators of one strength associate to the left, because what stands to the right of an operator
is read with its own strength as the bound.
-/

import SqlPipeline.Sql.Grammar.Calls

set_option autoImplicit false

namespace SqlPipeline.Sql

open Reader

/-! ### Strength -/

def signStrength : Nat := 40

def sumStrength : Nat := 30

def notStrength : Nat := 15

def likeStrength : Nat := 19

/-- The strength of the comparisons, of `BETWEEN` and of `IN`. -/
def compareStrength : Nat := 20

/-- The strength of the symbols that are operators. -/
def symbolStrength (s : String) : Nat :=
  if ["=", "<", "<=", "<>", ">", ">=", "==", "<=>", "~", "~*", "!~", "!~*", "~~", "~~*", "!~~",
      "!~~*"].contains s then compareStrength
  else if s == "|" then 21
  else if ["^", "#", "<<", ">>"].contains s then 22
  else if s == "&" then 23
  else if s == "+" || s == "-" then sumStrength
  else if ["*", "/", "//", "%", "||"].contains s then 40
  else if ["::", "!", "[", "&&", "^@"].contains s then 50
  else if ["->", "->>", "#>", "#>>", "@>", "<@", "#-", "@?", "@@"].contains s then 16
  else 0

/-- The strength of the keywords that are operators wherever they stand. -/
def keywordStrength (k : String) : Nat :=
  match k with
  | "OR" => 5
  | "AND" => 10
  | "XOR" => 24
  | "IS" => 17
  | "IN" => compareStrength
  | "BETWEEN" => compareStrength
  | "OPERATOR" => compareStrength
  | "LIKE" => likeStrength
  | "ILIKE" => likeStrength
  | "RLIKE" => likeStrength
  | "REGEXP" => likeStrength
  | "SIMILAR" => likeStrength
  | "DIV" => 40
  | _ => 0

/-- The strength of the operator at the head of the tokens. -/
def strength (ts : List Token) : Nat :=
  match ts with
  | .symbol s :: _ => symbolStrength s
  | t :: rest =>
    match t.keyword? with
    | some "NOT" =>
      match rest.head?.bind Token.keyword? with
      | some k =>
        if ["IN", "BETWEEN", "LIKE", "ILIKE", "RLIKE", "REGEXP", "SIMILAR"].contains k then
          keywordStrength k
        else 0
      | none => 0
    | some "AT" =>
      if (rest.take 2).map Token.keyword? == [some "TIME", some "ZONE"] then 41 else 0
    | some k => keywordStrength k
    | none => 0
  | [] => 0

/-! ### Forms that begin with a keyword -/

/-- The next integer above or below an expression, after its keyword. -/
def roundedAt (n : Nested) (up : Bool) : Reader Expr := do
  symbol "("
  let e ← n.anyExpr
  let unit ←
    if ← keyword? "TO" then
      pure (" TO " ++ (← dateField))
    else if ← symbol? "," then
      match ← valueAt with
      | .number t long => pure (", " ++ Expr.text (.number t long))
      | _ => fail
    else pure ""
  symbol ")"
  return .rounded up e unit

/-- A choice between values, after its keyword. -/
def caseAt (n : Nested) : Reader Expr := do
  let operand ←
    if ← keyword? "WHEN" then pure ""
    else
      let e ← n.anyExpr
      keyword "WHEN"
      pure (" " ++ e.text)
  let branch : Reader String := do
    let c ← n.anyExpr
    keyword "THEN"
    let v ← n.anyExpr
    return " WHEN " ++ c.text ++ " THEN " ++ v.text
  let first ← branch
  let rest ← while? do
    if ← keyword? "WHEN" then return some (← branch) else return none
  let otherwise ←
    if ← keyword? "ELSE" then pure (" ELSE " ++ (← n.anyExpr).text) else pure ""
  keyword "END"
  return .other ("CASE" ++ operand ++ first ++ String.join rest ++ otherwise ++ " END")

/-- A value as another type, after its keyword. -/
def castAt (n : Nested) (k : String) : Reader Expr := do
  symbol "("
  let e ← n.anyExpr
  keyword "AS"
  let t ← typeAt n
  let format ← clause? ["FORMAT"] do
    let v ← valueAt
    let zone ← clause? ["AT", "TIME", "ZONE"] do return (← valueAt).text
    return v.text ++ zone
  symbol ")"
  return .other (k ++ "(" ++ e.text ++ " AS " ++ t.text ++ format ++ ")")

/-- A value as another type or in another character set, after its keyword. -/
def convertAt (n : Nested) (k : String) : Reader Expr := do
  symbol "("
  let e ← n.anyExpr
  if ← keyword? "USING" then
    let set ← path
    symbol ")"
    return .other (k ++ "(" ++ e.text ++ " USING " ++ pathText set ++ ")")
  symbol ","
  let t ← typeAt n
  let charset ← clause? ["CHARACTER", "SET"] do return pathText (← path)
  symbol ")"
  return .other (k ++ "(" ++ e.text ++ ", " ++ t.text ++ charset ++ ")")

/-- Whether a query has rows, after its keyword. -/
def existsAt (n : Nested) (lead : String) : Reader Expr := do
  let q ← parenthesized n.query
  return .subquery (lead ++ "EXISTS (" ++ q.text ++ ")")

/-- A part of a date, after its keyword. -/
def extractAt (n : Nested) : Reader Expr := do
  symbol "("
  let field ← dateField
  let sep ←
    if ← keyword? "FROM" then pure " FROM " else if ← symbol? "," then pure ", " else fail
  let e ← n.anyExpr
  symbol ")"
  return .other ("EXTRACT(" ++ field ++ sep ++ e.text ++ ")")

/-- The place of one text in another; without `IN` it is a call like any other. -/
def positionAt (n : Nested) (name : Ident) : Reader Expr := do
  let form ← attempt do
    symbol "("
    let e ← n.expr compareStrength
    keyword "IN"
    let f ← n.anyExpr
    symbol ")"
    return Expr.other ("POSITION(" ++ e.text ++ " IN " ++ f.text ++ ")")
  match form with
  | some e => return e
  | none => callAt n [name]

/-- A part of a text, after its keyword. -/
def substringAt (n : Nested) : Reader Expr := do
  symbol "("
  let e ← n.anyExpr
  let commas ← symbol? ","
  let start ←
    if commas then pure (", " ++ (← n.anyExpr).text)
    else if ← keyword? "FROM" then pure (" FROM " ++ (← n.anyExpr).text)
    else pure ""
  let counted ← if ← keyword? "FOR" then pure true else symbol? ","
  let count ←
    if counted then pure ((if commas then ", " else " FOR ") ++ (← n.anyExpr).text)
    else pure ""
  symbol ")"
  return .other ("SUBSTRING(" ++ e.text ++ start ++ count ++ ")")

/-- A text with a part of it replaced, after its keyword. -/
def overlayAt (n : Nested) : Reader Expr := do
  symbol "("
  let e ← n.anyExpr
  keyword "PLACING"
  let what ← n.anyExpr
  keyword "FROM"
  let start ← n.anyExpr
  let count ← if ← keyword? "FOR" then pure (" FOR " ++ (← n.anyExpr).text) else pure ""
  symbol ")"
  return .other ("OVERLAY(" ++ e.text ++ " PLACING " ++ what.text ++ " FROM " ++ start.text
    ++ count ++ ")")

/-- A text without characters at its ends, after its keyword. -/
def trimAt (n : Nested) : Reader Expr := do
  symbol "("
  let side ← oneOf? ["BOTH", "LEADING", "TRAILING"]
  let sideText := (side.map (· ++ " ")).getD ""
  let e ← n.anyExpr
  if ← keyword? "FROM" then
    let f ← n.anyExpr
    symbol ")"
    return .other ("TRIM(" ++ sideText ++ e.text ++ " FROM " ++ f.text ++ ")")
  else if ← symbol? "," then
    let cs ← n.exprs
    symbol ")"
    return .other ("TRIM(" ++ e.text ++ ", " ++ exprsText cs ++ ")")
  else
    symbol ")"
    return .other ("TRIM(" ++ sideText ++ e.text ++ ")")

/-- The elements of an array, after the opening bracket. -/
def arrayAt (n : Nested) (lead : String) : Reader Expr := do
  let es ← if ← peekSymbol "]" then pure [] else n.exprs
  symbol "]"
  return .other (lead ++ "[" ++ exprsText es ++ "]")

/-- A search in columns, after its keyword. -/
def matchAt : Reader Expr := do
  let columns ← identList
  keyword "AGAINST"
  symbol "("
  let v ← valueAt
  let mode ←
    if ← keywords? ["IN", "NATURAL", "LANGUAGE", "MODE", "WITH", "QUERY", "EXPANSION"] then
      pure " IN NATURAL LANGUAGE MODE WITH QUERY EXPANSION"
    else if ← keywords? ["IN", "NATURAL", "LANGUAGE", "MODE"] then
      pure " IN NATURAL LANGUAGE MODE"
    else if ← keywords? ["IN", "BOOLEAN", "MODE"] then pure " IN BOOLEAN MODE"
    else if ← keywords? ["WITH", "QUERY", "EXPANSION"] then pure " WITH QUERY EXPANSION"
    else pure ""
  symbol ")"
  return .other ("MATCH (" ++ identsText columns ++ ") AGAINST (" ++ v.text ++ mode ++ ")")

/-- A record of values, after its keyword.  Its fields have names of their own only if their types
are not given. -/
def structAt (n : Nested) : Reader Expr := do
  let record ← recordType (openTypeAt n (← get).length)
  if record.closesOuter then fail
  let typed := record.type.text != "STRUCT"
  let fields ← parenthesized <| commaList do
    let e ← n.anyExpr
    if ← keyword? "AS" then
      if typed then fail
      return e.text ++ " AS " ++ (← ident).text
    else return e.text
  return .other (record.type.text ++ "(" ++ commaText fields ++ ")")

/-- Pairs in braces, after the opening brace. -/
def pairsAt (n : Nested) (key : Reader String) : Reader String := do
  let ps ← commaList do
    let k ← key
    symbol ":"
    return k ++ ": " ++ (← n.anyExpr).text
  symbol "\x7d"
  return "\x7b" ++ commaText ps ++ "\x7d"

/-- A map, after the opening brace: pairs of any expressions, possibly none. -/
def mapAt (n : Nested) : Reader String := do
  if ← symbol? "\x7d" then return "\x7b\x7d" else pairsAt n do return (← n.anyExpr).text

/-- A function of the clock, after its name: the parentheses may be left out. -/
def clockAt (n : Nested) (name : Ident) : Reader Expr := do
  if ← symbol? "(" then
    let list ← argListAt n
    return callOf { name := [name], quantifier := list.quantifier, clauses := list.clauses }
      list.args
  else return .callWith { name := [name] } .none

/-! ### Operands -/

/-- A name, after its first word: a qualified name, a call, or the word alone. -/
def nameAt (n : Nested) (first : Ident) : Reader Expr := do
  let rest ← while? do
    if ← symbol? "." then
      match ← next with
      | .word v q => return some (⟨v, q⟩ : Ident)
      | .string s => return some ⟨s, some '\''⟩
      | _ => fail
    else return none
  if ← peekSymbol "(" then callAt n (first :: rest)
  else if !rest.isEmpty then return .path (first :: rest)
  else
    match ← peek with
    | some (.string s) =>
      if first.value.startsWith "_" then
        let _ ← next
        return .other (first.value ++ " " ++ inQuotes '\'' s)
      else return .ident first
    | some (.literal .hex v) =>
      if first.value.startsWith "_" then
        let _ ← next
        return .other (first.value ++ " " ++ StringForm.hex.text v)
      else return .ident first
    | _ => return .ident first

def notAt (n : Nested) : Reader Expr := do
  if ← keyword? "EXISTS" then existsAt n "NOT "
  else return .other ("NOT " ++ (← n.expr notStrength).text)

/-- An operand that begins with the word `w`, which has been read, over a reader of operands. -/
def wordAt (n : Nested) (operand : Reader Expr) (t : Token) (w : Ident) : Reader Expr := do
  match t.keyword? with
  | some "TRUE" => return .other "true"
  | some "FALSE" => return .other "false"
  | some "NULL" => return .other "NULL"
  | some "CURRENT_CATALOG" => return .callWith { name := [w] } .none
  | some "CURRENT_USER" => return .callWith { name := [w] } .none
  | some "SESSION_USER" => return .callWith { name := [w] } .none
  | some "USER" => return .callWith { name := [w] } .none
  | some "CURRENT_TIMESTAMP" => clockAt n w
  | some "CURRENT_TIME" => clockAt n w
  | some "CURRENT_DATE" => clockAt n w
  | some "LOCALTIME" => clockAt n w
  | some "LOCALTIMESTAMP" => clockAt n w
  | some "CASE" => caseAt n
  | some "CONVERT" => convertAt n "CONVERT"
  | some "TRY_CONVERT" => convertAt n "TRY_CONVERT"
  | some "CAST" => castAt n "CAST"
  | some "TRY_CAST" => castAt n "TRY_CAST"
  | some "SAFE_CAST" => castAt n "SAFE_CAST"
  | some "EXISTS" => existsAt n ""
  | some "EXTRACT" => extractAt n
  | some "CEIL" => roundedAt n true
  | some "FLOOR" => roundedAt n false
  | some "SUBSTRING" => substringAt n
  | some "OVERLAY" => overlayAt n
  | some "TRIM" => trimAt n
  | some "INTERVAL" => intervalAt operand
  | some "NOT" => notAt n
  | some "MATCH" => matchAt
  | some "STRUCT" => structAt n
  | some "PRIOR" =>
    if (← read).inHierarchy then return .other ("PRIOR " ++ (← n.expr sumStrength).text)
    else nameAt n w
  | some "MAP" =>
    if ← symbol? "\x7b" then
      return .other ("MAP " ++ (← mapAt n))
    else nameAt n w
  | some "POSITION" => if ← peekSymbol "(" then positionAt n w else nameAt n w
  | some "ARRAY" =>
    if ← symbol? "[" then arrayAt n "ARRAY"
    else if ← symbol? "(" then
      let q ← n.query
      symbol ")"
      return .callWith { name := [w] } (.query q.text)
    else nameAt n w
  | _ => nameAt n w

/-- An expression in parentheses, a list of them, or a query, after the opening parenthesis. -/
def groupAt (n : Nested) : Reader Expr := do
  let e ←
    if ← peekOneOf ["SELECT", "WITH"] then
      let q ← n.query
      symbol ")"
      pure (Expr.subquery ("(" ++ q.text ++ ")"))
    else
      let es ← n.exprs
      symbol ")"
      match es with
      | [e] => pure (Expr.nested e)
      | es => pure (Expr.other ("(" ++ exprsText es ++ ")"))
  if ← symbol? "." then
    match ← next with
    | .word v q => return .other (e.text ++ "." ++ Ident.text ⟨v, q⟩)
    | _ => fail
  else return e

/-- An operand that does not begin with a type, over a reader of operands. -/
def plainOperandAt (n : Nested) (operand : Reader Expr) : Reader Expr := do
  let ts ← get
  let t ← next
  match t with
  | .word v q => wordAt n operand t ⟨v, q⟩
  | .symbol "(" => groupAt n
  | .symbol "[" => arrayAt n ""
  | .symbol "\x7b" => return .other (← pairsAt n do return (← ident).text)
  | .symbol "-" => return .sign true (← n.expr signStrength)
  | .symbol "+" => return .sign false (← n.expr signStrength)
  | _ =>
    set ts
    valueAt

/-- A string after the name of its type, or a span of time, over a reader of operands. -/
def typedLiteralAt (n : Nested) (operand : Reader Expr) : Reader Expr := do
  let t ← typeAt n
  match t.kind with
  | .interval => intervalAt operand
  | .custom => fail
  | _ => return .other (t.text ++ " " ++ inQuotes '\'' (← stringValue))

/-- An operand inside at most `fuel` spans of time, which use no level of nesting. -/
def operandUpTo (n : Nested) : Nat → Reader Expr
  | 0 => fail
  | fuel + 1 => do
    match ← attempt (typedLiteralAt n (operandUpTo n fuel)) with
    | some e => return e
    | none =>
      let e ← plainOperandAt n (operandUpTo n fuel)
      if ← keyword? "COLLATE" then
        return .other (e.text ++ " COLLATE " ++ pathText (← path))
      else return e

def operandAt (n : Nested) : Reader Expr := do
  operandUpTo n ((← get).length + 1)

/-! ### Operators -/

/-- The operator a symbol stands for, between two operands. -/
def symbolOp? (s : String) : Option BinaryOp :=
  match s with
  | "=" => some (.compare .eq)
  | "==" => some (.compare .eq)
  | "<>" => some (.compare .ne)
  | "<" => some (.compare .lt)
  | "<=" => some (.compare .le)
  | ">" => some (.compare .gt)
  | ">=" => some (.compare .ge)
  | "+" => some (.arith .add)
  | "-" => some (.arith .sub)
  | "*" => some (.arith .mul)
  | "/" => some (.arith .div)
  | "%" => some (.arith .mod)
  | s =>
    let others := ["<=>", "||", "|", "^", "&", "//", "<<", ">>", "&&", "^@", "~", "~*", "!~", "!~*",
      "~~", "~~*", "!~~", "!~~*", "->", "->>", "#>", "#>>", "@>", "<@", "#-", "@?", "@@"]
    if others.contains s then some (.other s) else none

def isAt (n : Nested) (e : Expr) : Reader Expr := do
  let lead := e.text ++ " IS "
  let negated ← keyword? "NOT"
  let negation := if negated then "NOT " else ""
  match ← oneOf? ["NULL", "TRUE", "FALSE", "UNKNOWN"] with
  | some k => return .other (lead ++ negation ++ k)
  | none =>
    keywords ["DISTINCT", "FROM"]
    return .other (lead ++ negation ++ "DISTINCT FROM " ++ (← n.anyExpr).text)

/-- Membership in a list or in a query, after `IN`. -/
def inAt (n : Nested) (lead : String) : Reader Expr := do
  if ← keyword? "UNNEST" then
    let e ← parenthesized n.anyExpr
    return .other (lead ++ "IN UNNEST(" ++ e.text ++ ")")
  symbol "("
  if ← peekOneOf ["SELECT", "WITH"] then
    let q ← n.query
    symbol ")"
    return .subquery (lead ++ "IN (" ++ q.text ++ ")")
  else
    let es ← n.exprs
    symbol ")"
    return .other (lead ++ "IN (" ++ exprsText es ++ ")")

/-- The character that takes the meaning from wildcards, if one is named. -/
def likeEscape? : Reader String := do
  if ← keyword? "ESCAPE" then return " ESCAPE '" ++ (← stringValue) ++ "'" else return ""

/-- The tests that may stand after `NOT`: membership, ranges and patterns.  The two words for
patterns of regular expressions may follow each other.  No blank is written after `ILIKE ANY` if a
character is named that takes the meaning from wildcards. -/
def testAt (n : Nested) (e : Expr) : Reader Expr := do
  let negated ← keyword? "NOT"
  let lead := e.text ++ " " ++ if negated then "NOT " else ""
  let regexp ← keyword? "REGEXP"
  let rlike ← keyword? "RLIKE"
  if regexp || rlike then
    let p ← n.expr likeStrength
    return .other (lead ++ (if regexp then "REGEXP " else "RLIKE ") ++ p.text)
  let k ← oneOf ["IN", "BETWEEN", "LIKE", "ILIKE", "SIMILAR"]
  match k with
  | "IN" => inAt n lead
  | "BETWEEN" =>
    let low ← n.expr compareStrength
    keyword "AND"
    let high ← n.expr compareStrength
    return .other (lead ++ "BETWEEN " ++ low.text ++ " AND " ++ high.text)
  | "SIMILAR" =>
    keyword "TO"
    let p ← n.expr likeStrength
    return .other (lead ++ "SIMILAR TO " ++ p.text ++ (← likeEscape?))
  | k =>
    let any ← keyword? "ANY"
    let p ← n.expr likeStrength
    let escape ← likeEscape?
    let gap := if k == "ILIKE" && !escape.isEmpty then "" else " "
    return .other (lead ++ k ++ " " ++ (if any then "ANY" ++ gap else "") ++ p.text ++ escape)

/-- The right side of an operator: an operand, or all or any of the rows of a query. -/
def rightAt (n : Nested) (e : Expr) (op : BinaryOp) (bound : Nat) : Reader Expr := do
  match ← oneOf? ["ANY", "ALL", "SOME"] with
  | none => return .binary op e (← n.expr bound)
  | some k =>
    match op with
    | .compare _ =>
      let lead := e.text ++ " " ++ op.text ++ " " ++ k
      let ts ← get
      symbol "("
      if ← peekOneOf ["SELECT", "WITH"] then
        set ts
        let r ← n.expr bound
        return .other (lead ++ if r.isSubquery then r.text else "(" ++ r.text ++ ")")
      else
        let r ← n.expr bound
        symbol ")"
        return .other (lead ++ "(" ++ r.text ++ ")")
    | _ => fail

/-- The text of a token as it stands in the name of an operator. -/
def operatorPart : Token → String
  | .word v none => v
  | .word v (some q) => String.singleton q ++ v ++ String.singleton q
  | .number t long => if long then t ++ "L" else t
  | .string s => "'" ++ s ++ "'"
  | .literal .escaped v => "E'" ++ v ++ "'"
  | .literal .numbered v => "U&'" ++ v ++ "'"
  | .literal form v => form.text v
  | .placeholder t => t
  | .symbol s => s

/-- An operator by its name, after its keyword. -/
def namedOperatorAt : Reader BinaryOp := do
  symbol "("
  let first ← next
  let rest ← while? do
    if ← symbol? "." then return some (← next) else return none
  symbol ")"
  return .other ("OPERATOR(" ++ ".".intercalate ((first :: rest).map operatorPart) ++ ")")

/-- An element or a range of elements of an array, after the opening bracket. -/
def subscriptAt (n : Nested) (e : Expr) : Reader Expr := do
  let done (text : String) : Reader Expr := return .other (e.text ++ "[" ++ text ++ "]")
  let open? ← symbol? ":"
  let low ← if open? then pure "" else pure (← n.anyExpr).text
  if ← symbol? "]" then return ← done (if open? then ":" else low)
  unless open? do symbol ":"
  if ← symbol? "]" then return ← done (low ++ ":")
  let high ← n.anyExpr
  let range := low ++ ":" ++ high.text
  if ← symbol? "]" then return ← done range
  symbol ":"
  if ← symbol? "]" then return ← done range
  let step ← n.anyExpr
  symbol "]"
  done (range ++ ":" ++ step.text)

/-- An operator with strength `bound` after the operand `e`, and what stands to its right. -/
def operatorAt (n : Nested) (e : Expr) (bound : Nat) : Reader Expr := do
  let ts ← get
  let t ← next
  match t with
  | .symbol "::" => return .other (e.text ++ "::" ++ (← typeAt n).text)
  | .symbol "!" => return .other (e.text ++ "!")
  | .symbol "[" => subscriptAt n e
  | .symbol s =>
    match symbolOp? s with
    | some op => rightAt n e op bound
    | none => fail
  | _ =>
    match t.keyword? with
    | some "AND" => rightAt n e .and bound
    | some "OR" => rightAt n e .or bound
    | some "XOR" => rightAt n e (.other "XOR") bound
    | some "OPERATOR" => rightAt n e (← namedOperatorAt) bound
    | some "IS" => isAt n e
    | some "AT" =>
      keywords ["TIME", "ZONE"]
      return .other (e.text ++ " AT TIME ZONE " ++ (← n.expr bound).text)
    | some _ =>
      set ts
      testAt n e
    | none => fail

/-- The operators after the operand `e` that bind more strongly than `bound`, at most `fuel` of
them. -/
def operatorsFrom (n : Nested) (bound : Nat) : Nat → Expr → Reader Expr
  | 0, e => return e
  | fuel + 1, e => do
    let s := strength (← get)
    if s ≤ bound then return e else operatorsFrom n bound fuel (← operatorAt n e s)

/-- An expression whose operators bind more strongly than `bound`. -/
def exprAt (n : Nested) (bound : Nat) : Reader Expr := do
  let e ← operandAt n
  operatorsFrom n bound (← get).length e

end SqlPipeline.Sql
