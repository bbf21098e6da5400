/-
Reading the creation of what is neither a table nor an index.

Of these definitions only the form is read, because no catalog keeps them, and of their text the
beginning is given: the words that say what is created.

* `Sql.createViewAt` — a query under a name;
* `Sql.createFunctionAt`, `Sql.createTriggerAt`, `Sql.createProcedureAt` — code;
* `Sql.createAt` — whatever is created, after `CREATE`.
-/

import SqlPipeline.Sql.Grammar.Definitions

set_option autoImplicit false

namespace SqlPipeline.Sql

open Reader

/-! ### Parts of definitions -/

/-- Takes the words that leave an object of the same name as it is. -/
def ifNotExists? : Reader Unit := do
  let _ ← keywords? ["IF", "NOT", "EXISTS"]

/-- Takes elements that have to be followed by a comma or the closing parenthesis, at most `fuel` of
them, with the parenthesis. -/
def closedListUpTo (element : Reader Unit) : Nat → Reader Unit
  | 0 => fail
  | fuel + 1 => do
    element
    let comma ← symbol? ","
    if ← symbol? ")" then return ()
    if comma then closedListUpTo element fuel else fail

/-- Takes elements in parentheses, if there are any; a comma may stand after the last. -/
def closedList? (element : Reader Unit) : Reader Unit := do
  if ← symbol? "(" then
    unless ← symbol? ")" do closedListUpTo element (← get).length

/-- Someone who owns an object or is subject to a rule. -/
def ownerAt : Reader Unit := do
  let _ ← ident

/-- Who a rule is for and the conditions it sets, in parentheses. -/
def policyTerms (n : Nested) : Reader Unit := do
  if ← keyword? "TO" then
    let _ ← commaList ownerAt
  if ← keyword? "USING" then
    let _ ← parenthesized n.anyExpr
  if ← keywords? ["WITH", "CHECK"] then
    let _ ← parenthesized n.anyExpr

/-- A parameter of a function.  A type by an unknown name is the name of the parameter, and its type
follows. -/
def parameterAt (n : Nested) : Reader Unit := do
  let _ ← oneOf? ["IN", "OUT", "INOUT"]
  let t ← typeAt n
  if t.kind == .custom then
    let _ ← typeAt n
  let default ← do if ← keyword? "DEFAULT" then pure true else symbol? "="
  if default then
    let _ ← n.anyExpr

/-- A function by its name, and by its parameters if they are given. -/
def functionRefAt (n : Nested) : Reader Unit := do
  let _ ← path
  if ← symbol? "(" then
    unless ← symbol? ")" do
      let _ ← commaList (parameterAt n)
      symbol ")"

/-! ### Views and rules -/

/-- A column of a view, possibly with an option. -/
def viewColumnAt (n : Nested) : Reader Unit := do
  let _ ← ident
  if ← peekOneOf ["OPTIONS", "COMMENT"] then
    let _ ← columnOption? n

/-- A query under a name that the catalog keeps, from `MATERIALIZED` or `VIEW` on. -/
def createViewAt (n : Nested) (replace temporary : String) : Reader String := do
  let materialized ← keywordText "MATERIALIZED"
  keyword "VIEW"
  ifNotExists?
  let _ ← path
  if ← symbol? "(" then
    unless ← symbol? ")" do
      let _ ← commaList (viewColumnAt n)
      symbol ")"
  let _ ← options? n "WITH"
  if ← keyword? "CLUSTER" then
    keyword "BY"
    let _ ← identList?
  let _ ← options? n "OPTIONS"
  if ← keyword? "TO" then
    let _ ← path
  if ← keyword? "COMMENT" then
    symbol "="
    let _ ← quotedString
  keyword "AS"
  let _ ← n.query
  let _ ← keywords? ["WITH", "NO", "SCHEMA", "BINDING"]
  return wordsText ["CREATE", replace, materialized, temporary, "VIEW"]

/-- A rule on who sees which rows. -/
def createPolicyAt (n : Nested) : Reader String := do
  let _ ← ident
  keyword "ON"
  let _ ← path
  if ← keyword? "AS" then
    let _ ← oneOf ["PERMISSIVE", "RESTRICTIVE"]
  if ← keyword? "FOR" then
    let _ ← oneOf ["ALL", "SELECT", "INSERT", "UPDATE", "DELETE"]
  policyTerms n
  return "CREATE POLICY"

/-! ### Functions and procedures -/

/-- What can be said once of a function. -/
inductive FunctionTrait where
  | body
  | language
  /-- Whether its result depends on more than its arguments. -/
  | stability
  /-- What it does without arguments that are known. -/
  | nulls
  /-- Whether it may run beside others. -/
  | parallel
  deriving DecidableEq, Repr, Inhabited

/-- One more thing that is said of a function, if there is one. -/
def functionTrait? (n : Nested) : Reader (Option FunctionTrait) := do
  if ← keyword? "AS" then
    match ← get with
    | .literal (.tagged _) _ :: ts => set ts
    | _ => let _ ← stringValue
    return some .body
  if ← keyword? "LANGUAGE" then
    let _ ← ident
    return some .language
  if (← oneOf? ["IMMUTABLE", "STABLE", "VOLATILE"]).isSome then return some .stability
  let nulls ← phrase? [["CALLED", "ON", "NULL", "INPUT"],
    ["RETURNS", "NULL", "ON", "NULL", "INPUT"], ["STRICT"]]
  if nulls.isSome then return some .nulls
  if ← keyword? "PARALLEL" then
    let _ ← oneOf ["UNSAFE", "RESTRICTED", "SAFE"]
    return some .parallel
  if ← keyword? "RETURN" then
    let _ ← n.anyExpr
    return some .body
  return none

def createFunctionAt (n : Nested) (replace temporary : String) : Reader String := do
  let _ ← path
  symbol "("
  unless ← peekSymbol ")" do
    let _ ← commaList (parameterAt n)
  symbol ")"
  if ← keyword? "RETURNS" then
    let _ ← typeAt n
  let traits ← while? (functionTrait? n)
  unless traits.Nodup do fail
  return wordsText ["CREATE", replace, temporary, "FUNCTION"]

/-- The changes to a table that set a trigger off. -/
def triggerEvents : Reader Unit := do
  let event : Reader Unit := do
    if (← oneOf ["INSERT", "UPDATE", "DELETE", "TRUNCATE"]) == "UPDATE" then
      if ← keyword? "OF" then
        let _ ← commaList ident
  event
  let _ ← while? do
    if ← keyword? "OR" then
      event
      return some ()
    else return none

/-- A name for the rows before or after a change, if one is given. -/
def transitionTable? : Reader (Option Unit) := do
  if (← oneOf? ["OLD", "NEW"]).isSome then
    if ← keyword? "TABLE" then
      let _ ← keyword? "AS"
      let _ ← path
      return some ()
    else return none
  else return none

/-- A function that is called when a table changes. -/
def createTriggerAt (n : Nested) (replace constraint : String) : Reader String := do
  let _ ← path
  if (← oneOf ["BEFORE", "AFTER", "INSTEAD"]) == "INSTEAD" then keyword "OF"
  triggerEvents
  keyword "ON"
  let _ ← path
  if ← keyword? "FROM" then anyPath
  let _ ← constraintTiming
  if ← keyword? "REFERENCING" then
    let _ ← while? transitionTable?
  keyword "FOR"
  let _ ← keyword? "EACH"
  let _ ← oneOf ["ROW", "STATEMENT"]
  let _ ← exprAfter? n ["WHEN"]
  keyword "EXECUTE"
  let _ ← oneOf ["FUNCTION", "PROCEDURE"]
  functionRefAt n
  return wordsText ["CREATE", replace, constraint, "TRIGGER"]

/-- A parameter of a shorthand, possibly with a value it has by default. -/
def shorthandParameterAt (n : Nested) : Reader Unit := do
  let _ ← ident
  let default ← do if ← symbol? ":=" then pure true else symbol? "=>"
  if default then
    let _ ← n.anyExpr

/-- A shorthand for an expression or a query. -/
def createShorthandAt (n : Nested) (replace temporary : String) : Reader String := do
  let _ ← path
  symbol "("
  unless ← peekSymbol ")" do
    let _ ← commaList (shorthandParameterAt n)
  symbol ")"
  keyword "AS"
  if ← keyword? "TABLE" then
    let _ ← n.query
  else
    let _ ← n.anyExpr
  return wordsText ["CREATE", replace, temporary, "MACRO"]

def createProcedureAt (n : Nested) (alter : String) : Reader String := do
  let _ ← path
  closedList? do
    match ← peek with
    | some (.word _ _) =>
      let _ ← ident
      let _ ← typeAt n
    | _ => return ()
  keywords ["AS", "BEGIN"]
  let _ ← n.statements
  keyword "END"
  return wordsText ["CREATE", alter, "PROCEDURE"]

/-! ### Other objects -/

/-- Takes the next token, and tells whether it is a name. -/
def anyIdent : Reader Bool := do
  match ← ident? with
  | some _ => return true
  | none =>
    modify (·.drop 1)
    return false

/-- A secret, with its name and the place it is kept in if they are given. -/
def createSecretAt (replace temporary : String) : Reader String := do
  ifNotExists?
  unless ← peekSymbol "(" do
    let placed ← if ← keyword? "IN" then anyIdent else
      let _ ← anyIdent
      pure false
    unless placed do
      if ← keyword? "IN" then
        let _ ← anyIdent
  symbol "("
  keyword "TYPE"
  let _ ← ident
  if ← symbol? "," then
    let _ ← commaList do
      let _ ← ident
      ident
  symbol ")"
  return wordsText ["CREATE", replace, temporary, "SECRET"]

def createExtensionAt : Reader String := do
  ifNotExists?
  let _ ← ident
  if ← keyword? "WITH" then
    if ← keyword? "SCHEMA" then
      let _ ← ident
    if ← keyword? "VERSION" then
      let _ ← ident
    let _ ← keyword? "CASCADE"
  return "CREATE EXTENSION"

/-- A table that a module provides. -/
def createVirtualTableAt : Reader String := do
  keyword "TABLE"
  ifNotExists?
  let _ ← path
  keyword "USING"
  let _ ← ident
  let _ ← identList?
  return "CREATE VIRTUAL TABLE"

def createSchemaAt : Reader String := do
  ifNotExists?
  if ← keyword? "AUTHORIZATION" then
    let _ ← ident
  else
    let _ ← path
    if ← keyword? "AUTHORIZATION" then
      let _ ← ident
  return "CREATE SCHEMA"

def createDatabaseAt : Reader String := do
  ifNotExists?
  let _ ← path
  let _ ← while? do
    match ← oneOf? ["LOCATION", "MANAGEDLOCATION"] with
    | some _ => return some (← stringValue)
    | none => return none
  return "CREATE DATABASE"

def createRoleAt : Reader String := do
  ifNotExists?
  let _ ← commaList path
  let _ ← keyword? "WITH"
  return "CREATE ROLE"

def createSequenceAt (n : Nested) (temporary : String) : Reader String := do
  ifNotExists?
  let _ ← path
  if ← keyword? "AS" then
    let _ ← typeAt n
  let _ ← sequenceOptions
  if ← keywords? ["OWNED", "BY"] then
    unless ← keyword? "NONE" do
      let _ ← path
  return wordsText ["CREATE", temporary, "SEQUENCE"]

/-- A type of records. -/
def createTypeAt (n : Nested) : Reader String := do
  let _ ← path
  keyword "AS"
  closedList? do
    let _ ← ident
    let _ ← typeAt n
    if ← keyword? "COLLATE" then
      let _ ← path
  return "CREATE TYPE"

/-! ### Whatever is created -/

/-- What cannot replace an object of the same name, from the keyword that says what it is. -/
def createOtherAt (n : Nested) (alter temporary : String) : Reader Statement := do
  if ← keyword? "INDEX" then return .createIndex (← createIndexAt n)
  if ← keywords? ["UNIQUE", "INDEX"] then return .createIndex (← createIndexAt n)
  match ← oneOf ["EXTENSION", "VIRTUAL", "SCHEMA", "DATABASE", "ROLE", "SEQUENCE", "TYPE",
    "PROCEDURE"] with
  | "EXTENSION" => return .other (← createExtensionAt)
  | "VIRTUAL" => return .other (← createVirtualTableAt)
  | "SCHEMA" => return .other (← createSchemaAt)
  | "DATABASE" => return .other (← createDatabaseAt)
  | "ROLE" => return .other (← createRoleAt)
  | "SEQUENCE" => return .other (← createSequenceAt n temporary)
  | "TYPE" => return .other (← createTypeAt n)
  | _ => return .other (← createProcedureAt n alter)

def createAt (n : Nested) : Reader Statement := do
  let replace ← keywordsText ["OR", "REPLACE"]
  let alter ← keywordsText ["OR", "ALTER"]
  let _ ← keyword? "LOCAL"
  let _ ← keyword? "GLOBAL"
  let _ ← keyword? "TRANSIENT"
  let temporary := if (← oneOf? ["TEMP", "TEMPORARY"]).isSome then "TEMPORARY" else ""
  if ← peekOneOf ["MATERIALIZED", "VIEW"] then return .other (← createViewAt n replace temporary)
  if ← keywords? ["CONSTRAINT", "TRIGGER"] then
    return .other (← createTriggerAt n replace "CONSTRAINT")
  match ← oneOf? ["TABLE", "POLICY", "EXTERNAL", "FUNCTION", "TRIGGER", "MACRO", "SECRET"] with
  | some "TABLE" => return .createTable (← createTableAt n)
  | some "POLICY" => return .other (← createPolicyAt n)
  | some "EXTERNAL" =>
    keyword "TABLE"
    return .createTable (← createExternalTableAt n)
  | some "FUNCTION" => return .other (← createFunctionAt n replace temporary)
  | some "TRIGGER" => return .other (← createTriggerAt n replace "")
  | some "MACRO" => return .other (← createShorthandAt n replace temporary)
  | some _ => return .other (← createSecretAt replace temporary)
  | none => if replace.isEmpty then createOtherAt n alter temporary else fail

end SqlPipeline.Sql
