/-
Reading statements.

Queries and definitions keep their content.  Any other statement is read for its form alone, and
of its text only the beginning matters: the words that say what kind of statement it is.  Main
definition: `Sql.statementAt`.

Some dialects have statements that begin with `ANALYZE`, `CACHE`, `COMMENT`, `COPY`, `DECLARE`,
`EXECUTE`, `FLUSH`, `INSTALL`, `LISTEN`, `LOAD`, `NOTIFY`, `OPTIMIZE`, `REPLACE` or `UNLOAD`.  They
are left out: a text with one of them cannot be read, so that none of its statements is taken, where
a text with another statement that is no definition is worked off up to that statement.
-/

import SqlPipeline.Sql.Grammar.Commands
import SqlPipeline.Sql.Grammar.Sessions

set_option autoImplicit false

namespace SqlPipeline.Sql

open Reader

/-! ### Explanations -/

/-- The text of a statement, or the beginning of it that says what kind it is. -/
def Statement.text : Statement → String
  | query _ text => text
  | createTable _ => "CREATE TABLE"
  | createIndex _ => "CREATE INDEX"
  | other text => text

def explainOptions (n : Nested) : Reader String := do
  let os ← parenthesized <| commaList do
    let name ← ident
    if (← peekSymbol ",") || (← peekSymbol ")") then return name.text
    return name.text ++ " " ++ (← n.anyExpr).text
  return "(" ++ commaText os ++ ")"

/-- How a statement is explained, which stands after the keyword `k`. -/
def explainForm (n : Nested) (k : String) : Reader String := do
  if k == "EXPLAIN" && (← peekSymbol "(") then explainOptions n
  else if ← keywords? ["QUERY", "PLAN"] then return "QUERY PLAN"
  else
    let analyze ← keywordText "ANALYZE"
    let verbose ← keywordText "VERBOSE"
    let format ←
      if ← keyword? "FORMAT" then pure ("FORMAT " ++ (← oneOf ["TEXT", "JSON", "GRAPHVIZ"]))
      else pure ""
    return wordsText [analyze, verbose, format]

/-- A statement or a table that is explained, after the keyword `k`.  An explanation is not
explained. -/
def explainAt (n : Nested) (k : String) : Reader String := do
  let form ← explainForm n k
  let again ← peekOneOf ["EXPLAIN", "DESCRIBE", "DESC"]
  match ← attempt n.statement with
  | some s => if again then fail else return wordsText [k, form, s.text]
  | none =>
    let detail ← oneOfText ["EXTENDED", "FORMATTED"]
    return wordsText [k, detail, pathText (← path)]

/-! ### Statements -/

def statementAt (n : Nested) : Reader Statement := do
  if (← peekSymbol "(") || (← peekOneOf ["SELECT", "WITH", "VALUES"]) then
    let q ← n.query
    return .query q.value q.text
  if let some k ← oneOf? commandWords then return .other (← commandAt n k)
  let k ← oneOf ["CREATE", "INSERT", "UPDATE", "DELETE", "DROP", "ALTER", "TRUNCATE", "EXPLAIN",
    "DESCRIBE", "DESC", "SHOW", "SET", "BEGIN", "START", "END", "COMMIT", "ROLLBACK"]
  match k with
  | "CREATE" => createAt n
  | "INSERT" => return .other (← insertAt n)
  | "UPDATE" => return .other (← updateAt n)
  | "DELETE" => return .other (← deleteAt n)
  | "DROP" => return .other (← dropAt n)
  | "ALTER" => return .other (← alterAt n)
  | "TRUNCATE" => return .other (← truncateAt n)
  | "SHOW" => return .other (← showAt n)
  | "SET" => return .other (← setAt n)
  | "BEGIN" => return .other (← beginAt)
  | "START" =>
    keyword "TRANSACTION"
    return .other (wordsText ["START TRANSACTION", ← transactionModes])
  | "END" => return .other (wordsText ["COMMIT", ← chainText])
  | "COMMIT" => return .other (wordsText ["COMMIT", ← chainText])
  | "ROLLBACK" => return .other (← rollbackAt)
  | k => return .other (← explainAt n k)

end SqlPipeline.Sql
