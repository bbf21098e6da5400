/-
Compiling a text into a program.

* `planText` — the program of a text;
* `compileQuery` — the listing of a query in which every name has been looked up;
* `compile` — the listing of a text, with records of its beginning and its end;
* `compileStatement` — the same, with an explanation in a comment before it if that is wanted.
-/

import SqlPipeline.Explain
import SqlPipeline.Listing.Basic
import SqlPipeline.Plan.OfQuery
import SqlPipeline.Query.Resolve

set_option autoImplicit false

namespace SqlPipeline

open Journal

def planText (catalog : Catalog.Store) (sql : String) : Attempt Fault Plan.Program := do
  let q ← Query.ofText catalog sql
  Plan.ofQuery q

/-- The listing of a query in which every name has been looked up. -/
def compileQuery (q : Query.Resolved) : Attempt Fault String := do
  let p ← Plan.ofQuery q
  Listing.ofProgram p

/-- The listing of a text, without records of its beginning and its end. -/
def compileText (catalog : Catalog.Store) (sql : String) : Attempt Fault String := do
  let q ← Query.ofText catalog sql
  compileQuery q

def compileEnd : Except Fault String → Record
  | .ok text => Event.compileComplete.record [("bytes", toString text.utf8ByteSize)]
  | .error f => Event.compileRejected.record [("code", f.code), ("reason", f.message)]

/-- The listing of a text. -/
def compile (catalog : Catalog.Store) (sql : String) : Attempt Fault String := do
  note (Event.compileBegin.record [("sql", sql)])
  let result ← ExceptT.lift (compileText catalog sql).run
  note (compileEnd result)
  result

/-- The listing of a statement, with an explanation in a comment before it if that is wanted. -/
def compileStatement (catalog : Catalog.Store) (sql : String) (explained : Bool) :
    Attempt Fault String := do
  let text ← compile catalog sql
  if explained then
    let p ← planText catalog sql
    return "/*\n" ++ (Explanation.ofProgram p).text ++ "*/\n" ++ text
  else return text

end SqlPipeline
