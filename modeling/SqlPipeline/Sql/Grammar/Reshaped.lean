/-
Reading what makes a table out of other things: columns turned into rows and back, rows that
match a pattern, and the parts of a document.

* `Sql.pivotAt`, `Sql.unpivotAt` — values that become columns, and columns that become values;
* `Sql.matchesAt` — sequences of rows that match a pattern;
* `Sql.documentAt` — the parts of a document.

Each reader begins after its keyword and gives the text in normal form.
-/

import SqlPipeline.Sql.Grammar.Calls
import SqlPipeline.Sql.Grammar.Patterns

set_option autoImplicit false

namespace SqlPipeline.Sql

open Reader

/-! ### Rows and columns -/

/-- The name after `AS`, if there is one, as text with a blank before it. -/
def asName? : Reader String :=
  clause? ["AS"] do return (← ident).text

/-- A function over rows, possibly under a name. -/
def aggregateAt (n : Nested) : Reader String := do
  match ← next with
  | .word v _ =>
    let call ← callAt n [⟨v, none⟩]
    return call.text ++ (← asName?)
  | _ => fail

/-- The values that become columns: any of them in an order, those of a query, or a list. -/
def pivotValuesAt (n : Nested) : Reader String := do
  if ← keyword? "ANY" then return "ANY" ++ (← order? n)
  else if ← peekOneOf ["SELECT", "WITH"] then return (← n.query).text
  else
    let vs ← commaList do
      let e ← n.anyExpr
      return e.text ++ (← asName?)
    return commaText vs

/-- Values of a column that become columns. -/
def pivotAt (n : Nested) : Reader String := do
  symbol "("
  let fs ← commaList (aggregateAt n)
  keyword "FOR"
  let column ← path
  keyword "IN"
  let values ← parenthesized (pivotValuesAt n)
  let default ← clause? ["DEFAULT", "ON", "NULL"] do
    return "(" ++ (← parenthesized n.anyExpr).text ++ ")"
  symbol ")"
  return "PIVOT(" ++ commaText fs ++ " FOR " ++ pathText column ++ " IN (" ++ values ++ ")"
    ++ default ++ ")"

/-- Columns that become values of one. -/
def unpivotAt : Reader String := do
  symbol "("
  let value ← ident
  keyword "FOR"
  let name ← ident
  keyword "IN"
  let columns ← identList
  symbol ")"
  return "UNPIVOT(" ++ value.text ++ " FOR " ++ name.text ++ " IN (" ++ identsText columns ++ "))"

/-! ### Rows that match -/

/-- What is given for each match. -/
def rowsPerMatch? : Reader (Option String) := do
  if ← keywords? ["ONE", "ROW", "PER", "MATCH"] then return some "ONE ROW PER MATCH"
  else if ← keywords? ["ALL", "ROWS", "PER", "MATCH"] then
    let ways := [["SHOW", "EMPTY", "MATCHES"], ["OMIT", "EMPTY", "MATCHES"],
      ["WITH", "UNMATCHED", "ROWS"]]
    let way ← phrase? ways
    return some (" ".intercalate ("ALL ROWS PER MATCH" :: way.getD []))
  else return none

/-- Where the search goes on after a match. -/
def afterMatch? : Reader (Option String) := do
  if ← keywords? ["AFTER", "MATCH", "SKIP"] then
    let place ←
      if ← keywords? ["PAST", "LAST", "ROW"] then pure "PAST LAST ROW"
      else if ← keywords? ["TO", "NEXT", "ROW"] then pure " TO NEXT ROW"
      else if ← keywords? ["TO", "FIRST"] then pure ("TO FIRST " ++ (← ident).text)
      else
        keywords ["TO", "LAST"]
        pure ("TO LAST " ++ (← ident).text)
    return some ("AFTER MATCH SKIP " ++ place)
  else return none

/-- A value that is measured on a match, under a name. -/
def measureAt (n : Nested) : Reader String := do
  let e ← n.anyExpr
  let _ ← keyword? "AS"
  return e.text ++ " AS " ++ (← ident).text

/-- What a symbol of a pattern stands for. -/
def rowSymbolAt (n : Nested) : Reader String := do
  let name ← ident
  keyword "AS"
  return name.text ++ " AS " ++ (← n.anyExpr).text

/-- What is done with the rows before a match is looked for: they are divided, ordered and
measured. -/
def matchRows (n : Nested) : Reader (List String) := do
  let parts ←
    if ← keywords? ["PARTITION", "BY"] then pure ("PARTITION BY " ++ exprsText (← n.exprs))
    else pure ""
  let order ←
    if ← keywords? ["ORDER", "BY"] then pure ("ORDER BY " ++ (← orderItemsAt n).text) else pure ""
  let measures ←
    if ← keyword? "MEASURES" then pure ("MEASURES " ++ commaText (← commaList (measureAt n)))
    else pure ""
  return [parts, order, measures]

/-- Sequences of rows that match a pattern. -/
def matchesAt (n : Nested) : Reader String := do
  symbol "("
  let rows ← matchRows n
  let given ← rowsPerMatch?
  let skip ← afterMatch?
  keyword "PATTERN"
  let pattern ← parenthesized patternAt
  keyword "DEFINE"
  let symbols ← commaList (rowSymbolAt n)
  symbol ")"
  return "MATCH_RECOGNIZE(" ++ wordsText (rows ++ [given.getD "", skip.getD "",
    "PATTERN (" ++ pattern ++ ") DEFINE " ++ commaText symbols]) ++ ")"

/-! ### Documents -/

/-- What stands for a part of a document that is missing or has the wrong form, and which of the
two it is for. -/
def partFallback? : Reader (Option (String × Bool)) := do
  match ← oneOf? ["NULL", "ERROR", "DEFAULT"] with
  | none => return none
  | some k =>
    let text ← if k == "DEFAULT" then pure ("DEFAULT " ++ (← valueAt).text) else pure k
    keyword "ON"
    if ← keyword? "EMPTY" then return some (text, true)
    keyword "ERROR"
    return some (text, false)

/-- A column of a document with a type, after its name. -/
def typedPartAt (n : Nested) (name : Ident) : Reader String := do
  let type ← typeAt n
  let exists? ← keyword? "EXISTS"
  keyword "PATH"
  let place ← valueAt
  let fallbacks ← while? partFallback?
  let last (empty : Bool) (event : String) : String :=
    match (fallbacks.filter (·.2 == empty)).getLast? with
    | some (text, _) => " " ++ text ++ " ON " ++ event
    | none => ""
  return name.text ++ " " ++ type.text ++ (if exists? then " EXISTS" else "") ++ " PATH "
    ++ place.text ++ last true "EMPTY" ++ last false "ERROR"

/-- A column of a document, inside at most `fuel` others. -/
def partUpTo (n : Nested) : Nat → Reader String
  | 0 => fail
  | fuel + 1 => do
    if ← keyword? "NESTED" then
      let _ ← keyword? "PATH"
      let place ← valueAt
      keyword "COLUMNS"
      let parts ← parenthesized (commaList (partUpTo n fuel))
      return "NESTED PATH " ++ place.text ++ " COLUMNS (" ++ commaText parts ++ ")"
    else
      let name ← ident
      if ← keyword? "FOR" then
        keyword "ORDINALITY"
        return name.text ++ " FOR ORDINALITY"
      else typedPartAt n name

/-- The parts of a document, after the opening parenthesis and up to the closing one. -/
def documentAt (n : Nested) : Reader String := do
  let e ← n.anyExpr
  symbol ","
  let place ← valueAt
  keyword "COLUMNS"
  let parts ← parenthesized (commaList (partUpTo n (← get).length))
  symbol ")"
  return "JSON_TABLE(" ++ e.text ++ ", " ++ place.text ++ " COLUMNS(" ++ commaText parts ++ "))"

end SqlPipeline.Sql
