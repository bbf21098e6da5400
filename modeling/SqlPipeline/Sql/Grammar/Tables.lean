/-
Reading what a query reads from: tables, queries in parentheses, and joins.

* `Sql.Relation` — a table with the parts of its text around the name it is given;
* `Sql.Joined` — a table and those joined to it;
* `Sql.alias?` — the name something is given;
* `Sql.tableAt` — a table, or anything that stands for one;
* `Sql.joinedAt` — a table and those joined to it.

Joins in parentheses use no level of nesting, so reading a table recurses on the number of tokens
that are left.
-/

import SqlPipeline.Sql.Grammar.Expressions
import SqlPipeline.Sql.Grammar.Reshaped

set_option autoImplicit false

namespace SqlPipeline.Sql

open Reader

/-! ### Tables as they are read -/

/-- A table, or what stands for one, with its text. -/
structure Relation where
  ref : TableRef
  /-- The text before the name it is given. -/
  before : String
  /-- The text of the name it is given, empty if it has none. -/
  label : String := ""
  /-- The text after that name. -/
  after : String := ""
  /-- Whether it is a join in parentheses. -/
  isJoin : Bool := false
  /-- The texts around its name that are read for their form alone. -/
  unread : List String := []
  deriving DecidableEq, Repr, Inhabited

def Relation.text (r : Relation) : String :=
  r.before ++ r.label ++ r.after

/-- A table and those joined to it. -/
structure Joined where
  first : Relation
  joins : List (Written Join)
  deriving DecidableEq, Repr, Inhabited

namespace Joined

def text (j : Joined) : String :=
  j.first.text ++ String.join (j.joins.map (·.text))

/-- Joined tables as an item of the list a query reads from. -/
def source (j : Joined) : Source :=
  ⟨j.first.ref, j.joins.map (·.value)⟩

/-- The texts that are read for their form alone: those of the first table, and all of the
others. -/
def unread (j : Joined) : List String :=
  j.first.unread ++ j.joins.map (·.text)

end Joined

/-! ### Names given in a query -/

/-- The name something is given: any word or string after `AS`, and without `AS` a string or a
word that is not `reserved`. -/
def alias? (reserved : List String) : Reader (Option Ident) := do
  if ← keyword? "AS" then return some (← ident)
  match ← peek with
  | some (.string _) => return some (← ident)
  | some t@(.word _ _) =>
    if t.keyword?.any reserved.contains then return none else return some (← ident)
  | _ => return none

/-- The text of a name that is given, with a blank before it. -/
def aliasText (a : Option Ident) : String :=
  (a.map fun i => " AS " ++ i.text).getD ""

/-- The name a table is given, with names for its columns, and their text. -/
def tableAlias? : Reader (Written (Option Ident)) := do
  match ← alias? notTableAlias with
  | some i =>
    let columns ← identList?
    return ⟨some i, aliasText (some i)
      ++ if columns.isEmpty then "" else " (" ++ identsText columns ++ ")"⟩
  | none => return ⟨none, ""⟩

/-! ### Tables -/

/-- Rows of values, after their keyword.  If one of them is called a row, all are. -/
def rowsAt (n : Nested) : Reader String := do
  let rows ← commaList do
    let row ← keyword? "ROW"
    let es ← parenthesized n.exprs
    return (row, "(" ++ exprsText es ++ ")")
  let lead := if rows.any (·.1) then "ROW" else ""
  return "VALUES " ++ commaText (rows.map (lead ++ ·.2))

/-- What stands for a table and has the given text, with the name it is given. -/
def unnamedAt (text : String) : Reader Relation := do
  let a ← tableAlias?
  return { ref := .other, before := text, label := a.text }

/-- A query in place of a table, after the opening parenthesis. -/
def derivedAt (n : Nested) (lead : String) : Reader Relation := do
  let q ← n.query
  symbol ")"
  unnamedAt (lead ++ "(" ++ q.text ++ ")")

/-- The table under the name it is given; `none` if it has a name already. -/
def Relation.named? (r : Relation) (a : Written (Option Ident)) : Option Relation :=
  if a.value.isNone then some r
  else if r.label ≠ "" then none
  else
    match r.ref with
    | .table name _ => some { r with ref := .table name a.value, label := a.text }
    | .other => some { r with label := a.text }

/-- Tables in parentheses, after the opening one, over a reader of joined tables.  A lone table is
as if the parentheses were not there, and may be given a name after them unless it has one
already. -/
def nestedTableAt (joined : Reader Joined) : Reader Relation := do
  let j ← joined
  symbol ")"
  let a ← tableAlias?
  if j.joins.isEmpty && !j.first.isJoin then
    match j.first.named? a with
    | some r => return r
    | none => fail
  else return { ref := .other, before := "(" ++ j.text ++ ")", label := a.text, isJoin := true }

/-- Settings: names and values. -/
def settingsAt : Reader String := do
  let ss ← commaList do
    let name ← ident
    symbol "="
    let v ← valueAt
    return name.text ++ " = " ++ v.text
  return commaText ss

/-- At most `fuel` arguments of a function that gives a table; settings may follow the last. -/
def tableArgsUpTo (n : Nested) : Nat → Reader (List String)
  | 0 => fail
  | fuel + 1 => do
    if ← keyword? "SETTINGS" then return ["SETTINGS " ++ (← settingsAt)]
    let a ← argAt n
    if ← symbol? "," then return a.text :: (← tableArgsUpTo n fuel) else return [a.text]

/-- The arguments of a function that gives a table, if there are any. -/
def tableArgs? (n : Nested) : Reader String := do
  if ← symbol? "(" then
    let args ← if ← peekSymbol ")" then pure [] else tableArgsUpTo n (← get).length
    symbol ")"
    return "(" ++ commaText args ++ ")"
  else return ""

/-- Whether the rows of a table are counted. -/
def ordinality? : Reader String := do
  if ← keywords? ["WITH", "ORDINALITY"] then return " WITH ORDINALITY" else return ""

/-- Hints on how a table is read.  The word before them stays if no parenthesis follows it. -/
def hints? (n : Nested) : Reader String := do
  match ← get with
  | t :: .symbol "(" :: _ =>
    if t.isKeyword "WITH" then
      let _ ← next
      return " WITH (" ++ exprsText (← parenthesized n.exprs) ++ ")"
    else return ""
  | _ => return ""

/-- The text of a change to the shape of the table before it with the name the result is given, if
one is next. -/
def reshaping? (n : Nested) : Reader (Option (String × String)) := do
  match ← oneOf? ["PIVOT", "UNPIVOT"] with
  | none => return none
  | some k =>
    let text ← if k == "PIVOT" then pivotAt n else unpivotAt
    return some (text, (← tableAlias?).text)

/-- A table whose shape is changed, from the text of the change and of the name it is given. -/
def Relation.reshaped (r : Relation) (change : String × String) : Relation :=
  { ref := .other, before := r.text ++ " " ++ change.1, label := change.2 }

/-- A table after all changes to its shape. -/
def reshapedAt (n : Nested) (r : Relation) : Reader Relation := do
  return (← while? (reshaping? n)).foldl Relation.reshaped r

/-- A table by its name, with what may follow the name. -/
def namedTableAt (n : Nested) : Reader Relation := do
  let name ← path
  let parts ←
    if ← keyword? "PARTITION" then pure ("PARTITION (" ++ identsText (← identList) ++ ")")
    else pure ""
  let args ← tableArgs? n
  let ordinality ← ordinality?
  let a ← tableAlias?
  let hints ← hints? n
  let r ← reshapedAt n {
    ref := .table name a.value
    before := pathText name ++ parts ++ args ++ ordinality
    label := a.text
    after := hints
    unread := [args, hints] }
  if ← keyword? "MATCH_RECOGNIZE" then
    let text ← matchesAt n
    return r.reshaped (text, (← tableAlias?).text)
  else return r

/-- The elements of arrays as a table, after the keyword.  A `WITH` after it says nothing unless
`OFFSET` follows. -/
def elementsAt (n : Nested) : Reader Relation := do
  let es ← parenthesized n.exprs
  let ordinality ← ordinality?
  let a ← tableAlias?
  let offset ←
    if ← keyword? "WITH" then
      if ← keyword? "OFFSET" then pure (" WITH OFFSET" ++ aliasText (← alias? notColumnAlias))
      else pure ""
    else pure ""
  return {
    ref := .other
    before := "UNNEST(" ++ exprsText es ++ ")" ++ ordinality
    label := a.text
    after := offset }

/-- A table that may depend on those before it, after the keyword. -/
def lateralAt (n : Nested) : Reader Relation := do
  if ← symbol? "(" then derivedAt n "LATERAL "
  else
    let name ← path
    symbol "("
    let args ← plainArgsAt n
    unnamedAt ("LATERAL " ++ pathText name ++ "(" ++ commaText args ++ ")")

/-- Takes the keyword if it is next and a parenthesis follows it, which stays. -/
def keywordBeforeParen? (k : String) : Reader Bool := do
  match ← get with
  | t :: .symbol "(" :: _ => if t.isKeyword k then keyword? k else return false
  | _ => return false

/-! ### Joins -/

/-- What joined rows have in common: a condition, columns, or nothing that is said. -/
def joinConstraint? (n : Nested) : Reader String := do
  if ← keyword? "ON" then return " ON " ++ (← n.anyExpr).text
  else if ← keyword? "USING" then return " USING(" ++ identsText (← identList) ++ ")"
  else return ""

/-- How a join treats rows without a partner, and its keywords; `none` if no join is next. -/
def joinKind? (natural : Bool) : Reader (Option (Bool × String)) := do
  match ← oneOf? ["INNER", "JOIN", "LEFT", "RIGHT", "FULL"] with
  | some "JOIN" => return some (false, "JOIN")
  | some "INNER" =>
    keyword "JOIN"
    return some (false, "JOIN")
  | some "FULL" =>
    let _ ← keyword? "OUTER"
    keyword "JOIN"
    return some (true, "FULL JOIN")
  | some side =>
    match ← oneOf ["OUTER", "SEMI", "ANTI", "JOIN"] with
    | "JOIN" => return some (true, side ++ " JOIN")
    | "OUTER" =>
      keyword "JOIN"
      return some (true, side ++ " JOIN")
    | k =>
      keyword "JOIN"
      return some (false, side ++ " " ++ k ++ " JOIN")
  | none => if natural || (← peekOneOf ["OUTER"]) then fail else return none

/-- A join, if one is next, over a reader of tables. -/
def join? (n : Nested) (table : Reader Relation) : Reader (Option (Written Join)) := do
  let lead := if ← keyword? "GLOBAL" then " GLOBAL " else " "
  if ← keyword? "CROSS" then
    let k ← oneOf ["JOIN", "APPLY"]
    let t ← table
    return some ⟨⟨false, t.ref⟩, lead ++ "CROSS " ++ k ++ " " ++ t.text⟩
  else if ← keyword? "OUTER" then
    keyword "APPLY"
    let t ← table
    return some ⟨⟨false, t.ref⟩, lead ++ "OUTER APPLY " ++ t.text⟩
  else if ← keyword? "ASOF" then
    keyword "JOIN"
    let t ← table
    keyword "MATCH_CONDITION"
    let e ← parenthesized n.anyExpr
    let c ← joinConstraint? n
    return some ⟨⟨false, t.ref⟩,
      lead ++ "ASOF JOIN " ++ t.text ++ " MATCH_CONDITION (" ++ e.text ++ ")" ++ c⟩
  else
    let natural ← keyword? "NATURAL"
    match ← joinKind? natural with
    | none => return none
    | some (outer, text) =>
      let t ← table
      let c ← if natural then pure "" else joinConstraint? n
      return some ⟨⟨outer, t.ref⟩,
        lead ++ (if natural then "NATURAL " else "") ++ text ++ " " ++ t.text ++ c⟩

/-- A table and those joined to it, over a reader of tables. -/
def joinedWith (n : Nested) (table : Reader Relation) : Reader Joined := do
  let t ← table
  let js ← while? (join? n table)
  return ⟨t, js⟩

/-! ### Tables in parentheses -/

/-- A table, or anything that stands for one, inside at most `fuel` parentheses. -/
def tableUpTo (n : Nested) : Nat → Reader Relation
  | 0 => fail
  | fuel + 1 => do
    if ← keyword? "LATERAL" then lateralAt n
    else if ← keyword? "TABLE" then
      let e ← parenthesized n.anyExpr
      unnamedAt ("TABLE(" ++ e.text ++ ")")
    else if ← symbol? "(" then
      match ← attempt (derivedAt n "") with
      | some r => reshapedAt n r
      | none => nestedTableAt (joinedWith n (tableUpTo n fuel))
    else if ← keywordBeforeParen? "VALUES" then
      let rows ← rowsAt n
      unnamedAt ("(" ++ rows ++ ")")
    else if ← keyword? "UNNEST" then elementsAt n
    else if ← keywordBeforeParen? "JSON_TABLE" then
      symbol "("
      let text ← documentAt n
      unnamedAt text
    else namedTableAt n

def tableAt (n : Nested) : Reader Relation := do
  tableUpTo n ((← get).length + 1)

def joinedAt (n : Nested) : Reader Joined :=
  joinedWith n (tableAt n)

/-- An item of the list a query reads from, and the texts in it that are read for their form
alone. -/
def sourceAt (n : Nested) : Reader (Written (Source × List String)) := do
  let j ← joinedAt n
  return ⟨(j.source, j.unread), j.text⟩

end SqlPipeline.Sql
