/-
Reading function calls, windows and the items that may be a star.

* `Sql.intervalAt` — a span of time;
* `Sql.orderItemAt` — an expression that rows are ordered by;
* `Sql.Item` — an expression, a star, or the star of a table;
* `Sql.itemAt` — an item of a list that is selected, or an argument of a call;
* `Sql.callAt` — a call after its name: arguments, the clauses among them, and the window it
  ranges over.
-/

import SqlPipeline.Sql.Grammar.Types

set_option autoImplicit false

namespace SqlPipeline.Sql

open Reader

/-- The text of a clause that may be missing: its keyword with a blank before it, then its
content. -/
def clause? (k : List String) (content : Reader String) : Reader String := do
  if ← keywords? k then return " " ++ " ".intercalate k ++ " " ++ (← content) else return ""

/-- The texts of the clauses that are not missing. -/
def given (clauses : List String) : List String :=
  clauses.filter (· != "")

/-- The text of an expression after keywords, if they are next. -/
def exprAfter? (n : Nested) (k : List String) : Reader String :=
  clause? k do return (← n.anyExpr).text

/-! ### Spans of time -/

/-- A span of time, after its keyword, over a reader of operands. -/
def intervalAt (operand : Reader Expr) : Reader Expr := do
  let v ← operand
  let unit ←
    if ← peekOneOf timeUnits then pure (some (← dateField)) else pure none
  let head := "INTERVAL " ++ v.text
  match unit with
  | some "SECOND" =>
    if ← symbol? "(" then
      let p ← natural
      if ← symbol? "," then
        let s ← natural
        symbol ")"
        return .other (head ++ " SECOND (" ++ toString p ++ ", " ++ toString s ++ ")")
      else
        symbol ")"
        return .other (head ++ " SECOND (" ++ toString p ++ ")")
    else return .other (head ++ " SECOND")
  | _ =>
    let unitText := (unit.map (" " ++ ·)).getD ""
    let len ← length?
    let lenText := if len.isEmpty then "" else " " ++ len
    if ← keyword? "TO" then
      let last ← dateField
      let fine ← if last == "SECOND" then length? else pure ""
      return .other (head ++ unitText ++ lenText ++ " TO " ++ last
        ++ (if fine.isEmpty then "" else " " ++ fine))
    else return .other (head ++ unitText ++ lenText)

/-! ### Order -/

/-- Rows that are put in where the order leaves gaps. -/
def fill? (n : Nested) : Reader String := do
  if ← keywords? ["WITH", "FILL"] then
    let start ← exprAfter? n ["FROM"]
    let stop ← exprAfter? n ["TO"]
    let step ← exprAfter? n ["STEP"]
    return " WITH FILL" ++ start ++ stop ++ step
  else return ""

/-- An expression that rows are ordered by, with its direction and the place of nulls, and the text
of the rows that are put in. -/
def orderItemAt (n : Nested) : Reader (Written (OrderItem × String)) := do
  let e ← n.anyExpr
  let dir ← oneOf? ["ASC", "DESC"]
  let nulls ←
    if ← keywords? ["NULLS", "FIRST"] then pure " NULLS FIRST"
    else if ← keywords? ["NULLS", "LAST"] then pure " NULLS LAST"
    else pure ""
  let fill ← fill? n
  return ⟨(⟨e, dir == some "DESC"⟩, fill), e.text ++ (dir.map (" " ++ ·)).getD "" ++ nulls ++ fill⟩

/-- The expressions rows are ordered by, after `ORDER BY`. -/
def orderItemsAt (n : Nested) : Reader (Written (List (OrderItem × String))) := do
  let os ← commaList (orderItemAt n)
  return ⟨os.map (·.value), commaText (os.map (·.text))⟩

def order? (n : Nested) : Reader String :=
  clause? ["ORDER", "BY"] do return (← orderItemsAt n).text

/-! ### Items -/

/-- An expression, a star, or the star of a table. -/
inductive Item where
  | expr (e : Expr)
  | star
  | starOf (names : List Ident)
  deriving DecidableEq, Repr, Inhabited

def Item.text : Item → String
  | expr e => e.text
  | star => "*"
  | starOf names => pathText names ++ ".*"

/-- The star of a table: names and a star, joined by points. -/
def starOfAt : Reader (List Ident) := do
  let first ← ident
  symbol "."
  let more ← while? <| attempt do
    let i ← ident
    symbol "."
    return i
  symbol "*"
  return first :: more

def itemAt (n : Nested) : Reader Item := do
  if ← symbol? "*" then return .star
  match ← attempt starOfAt with
  | some names => return .starOf names
  | none => return .expr (← n.anyExpr)

/-! ### Arguments -/

/-- An argument of a call: an item, or the text of one that is passed by name. -/
inductive Arg where
  | item (i : Item)
  | named (text : String)

def Arg.text : Arg → String
  | item i => i.text
  | named t => t

def argAt (n : Nested) : Reader Arg := do
  match ← get with
  | _ :: .symbol "=>" :: _ =>
    let name ← ident
    symbol "=>"
    let i ← itemAt n
    return .named (name.text ++ " => " ++ i.text)
  | _ :: .symbol ":=" :: _ =>
    let name ← ident
    symbol ":="
    let e ← n.anyExpr
    return .named (name.text ++ " := " ++ e.text)
  | _ => return .item (← itemAt n)

/-- How nulls are treated, if that is said. -/
def nullTreatment? : Reader String := do
  match ← oneOf? ["RESPECT", "IGNORE"] with
  | some k =>
    keyword "NULLS"
    return " " ++ k ++ " NULLS"
  | none => return ""

/-- What is done with a joined text that grows too long. -/
def overflow? (n : Nested) : Reader String := do
  if ← keywords? ["ON", "OVERFLOW"] then
    if ← keyword? "ERROR" then return " ON OVERFLOW ERROR"
    keyword "TRUNCATE"
    let filler ←
      match ← peek with
      | some (.string _) => pure (" " ++ (← n.anyExpr).text)
      | some (.literal form _) =>
        if [.escaped, .numbered, .national, .hex].contains form then
          pure (" " ++ (← n.anyExpr).text)
        else fail
      | _ => if ← peekOneOf ["WITH", "WITHOUT"] then pure "" else fail
    let count ← oneOf ["WITH", "WITHOUT"]
    keyword "COUNT"
    return " ON OVERFLOW TRUNCATE" ++ filler ++ " " ++ count ++ " COUNT"
  else return ""

/-- The arguments of a call: what stands before them, the arguments, and what stands after. -/
structure ArgList where
  /-- `DISTINCT` or `ALL` before the arguments. -/
  quantifier : Option String := none
  args : List Arg := []
  /-- How nulls are treated. -/
  nulls : String := ""
  others : String := ""

def ArgList.clauses (l : ArgList) : String :=
  l.nulls ++ l.others

/-- The arguments of a call, after the opening parenthesis and up to the closing one. -/
def argListAt (n : Nested) : Reader ArgList := do
  if ← symbol? ")" then return {}
  let all ← keyword? "ALL"
  let distinct ← keyword? "DISTINCT"
  if all && distinct then fail
  let args ← commaList (argAt n)
  let nulls ← nullTreatment?
  let order ← order? n
  let limit ← exprAfter? n ["LIMIT"]
  let having ←
    if ← keyword? "HAVING" then
      let k ← oneOf ["MIN", "MAX"]
      pure (" HAVING " ++ k ++ " " ++ (← n.anyExpr).text)
    else pure ""
  let separator ← clause? ["SEPARATOR"] do return (← valueAt).text
  let overflow ← overflow? n
  symbol ")"
  return {
    quantifier := if all then some "ALL" else if distinct then some "DISTINCT" else none
    args, nulls
    others := order ++ limit ++ having ++ separator ++ overflow }

def ArgList.text (l : ArgList) : String :=
  "(" ++ (l.quantifier.map (· ++ " ")).getD "" ++ commaText (l.args.map Arg.text) ++ l.clauses
    ++ ")"

/-- Arguments without clauses, after the opening parenthesis and up to the closing one. -/
def plainArgsAt (n : Nested) : Reader (List String) := do
  if ← symbol? ")" then return []
  let args ← commaList (argAt n)
  symbol ")"
  return args.map Arg.text

/-! ### Windows -/

/-- An end of the frame of a window.  A string that begins it is a span of time. -/
def frameBound (n : Nested) : Reader String := do
  if ← keywords? ["CURRENT", "ROW"] then return "CURRENT ROW"
  let rows ←
    if ← keyword? "UNBOUNDED" then pure "UNBOUNDED"
    else
      match ← peek with
      | some (.string _) => pure (← intervalAt n.operand).text
      | _ => pure (← n.anyExpr).text
  return rows ++ " " ++ (← oneOf ["PRECEDING", "FOLLOWING"])

def frameAt (n : Nested) : Reader String := do
  let unit ← oneOf ["ROWS", "RANGE", "GROUPS"]
  if ← keyword? "BETWEEN" then
    let low ← frameBound n
    keyword "AND"
    let high ← frameBound n
    return unit ++ " BETWEEN " ++ low ++ " AND " ++ high
  else return unit ++ " " ++ (← frameBound n)

/-- A window, after the opening parenthesis and up to the closing one. -/
def windowAt (n : Nested) : Reader String := do
  let name ←
    match ← peek with
    | some t => if t.isPlainWord then pure [(← ident).text] else pure []
    | none => pure []
  let parts ←
    if ← keywords? ["PARTITION", "BY"] then
      let es ← n.exprs
      pure ["PARTITION BY " ++ exprsText es]
    else pure []
  let order ←
    if ← keywords? ["ORDER", "BY"] then
      let os ← orderItemsAt n
      pure ["ORDER BY " ++ os.text]
    else pure []
  let frame ← if ← peekSymbol ")" then pure [] else pure [← frameAt n]
  symbol ")"
  return "(" ++ " ".intercalate (name ++ parts ++ order ++ frame) ++ ")"

/-! ### Calls -/

def callOf (head : CallHead) (args : List Arg) : Expr :=
  match args with
  | [.item (.expr e)] => .call head e
  | [.item .star] => .callWith head .star
  | args => .callWith head (.other (commaText (args.map Arg.text)))

/-- A call of the named function, from the opening parenthesis on. -/
def callAt (n : Nested) (name : List Ident) : Reader Expr := do
  symbol "("
  let first ← argListAt n
  let (parameters, list) ←
    if ← symbol? "(" then pure (first.text, ← argListAt n) else pure ("", first)
  let within ←
    if ← keywords? ["WITHIN", "GROUP"] then
      symbol "("
      keywords ["ORDER", "BY"]
      let os ← orderItemsAt n
      symbol ")"
      pure (" WITHIN GROUP (ORDER BY " ++ os.text ++ ")")
    else pure ""
  let nulls ← if list.nulls.isEmpty then nullTreatment? else pure ""
  let window ←
    if ← keyword? "OVER" then
      if ← symbol? "(" then pure (some (← windowAt n)) else pure (some (← ident).text)
    else pure none
  return callOf
    { name, parameters, quantifier := list.quantifier, clauses := list.clauses,
      windowed := window.isSome,
      trailer := within ++ nulls ++ (window.map (" OVER " ++ ·)).getD "" }
    list.args

end SqlPipeline.Sql
