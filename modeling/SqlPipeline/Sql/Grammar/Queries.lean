/-
Reading queries.

* `Sql.selectItemAt` — an item of the list that is selected;
* `Sql.selectAt` — a selection, after its keyword;
* `Sql.queryAt` — a query: named queries, a body, an order, and limits on the number of rows.
-/

import SqlPipeline.Sql.Grammar.Tables

set_option autoImplicit false

namespace SqlPipeline.Sql

open Reader

/-! ### Selected items -/

/-- One name, or names in parentheses. -/
def namesAt : Reader String := do
  if ← peekSymbol "(" then return "(" ++ identsText (← identList) ++ ")" else return (← ident).text

/-- A column under another name. -/
def renamedAt : Reader String := do
  let old ← ident
  keyword "AS"
  let new ← ident
  return old.text ++ " AS " ++ new.text

/-- What may follow a star: columns that are left out, replaced or renamed. -/
def starOptions (n : Nested) : Reader String := do
  let ilike ← clause? ["ILIKE"] do
    match ← next with
    | .string s => return inQuotes '\'' s
    | _ => fail
  let exclude ← if ilike.isEmpty then clause? ["EXCLUDE"] namesAt else pure ""
  let except ← clause? ["EXCEPT"] do
    let names ← if ← peekSymbol "(" then identList else pure [← ident]
    return "(" ++ identsText names ++ ")"
  let replace ← clause? ["REPLACE"] do
    let es ← parenthesized <| commaList do
      let e ← n.anyExpr
      let lead := if ← keyword? "AS" then " AS " else " "
      return e.text ++ lead ++ (← ident).text
    return "(" ++ commaText es ++ ")"
  let rename ← clause? ["RENAME"] do
    if ← peekSymbol "(" then
      let rs ← parenthesized (commaList renamedAt)
      return "(" ++ commaText rs ++ ")"
    else renamedAt
  return ilike ++ exclude ++ except ++ replace ++ rename

/-- An item of the list that is selected, and the text of what follows a star.  The bare word `FROM`
is no item, because then the list before it is empty. -/
def selectItemAt (n : Nested) : Reader (Written (SelectItem × String)) := do
  match ← itemAt n with
  | .star =>
    let options ← starOptions n
    return ⟨(.star [], options), "*" ++ options⟩
  | .starOf names =>
    let options ← starOptions n
    return ⟨(.star names, options), pathText names ++ ".*" ++ options⟩
  | .expr e =>
    if let .ident ⟨v, none⟩ := e then
      if capital v == "FROM" then fail
    let a ← alias? notColumnAlias
    return ⟨(.expr e a, ""), e.text ++ aliasText a⟩

/-! ### Clauses of a selection -/

/-- Whether repeated rows are dropped, and the text that says so. -/
def distinct? (n : Nested) : Reader (Written Bool) := do
  let all ← keyword? "ALL"
  if ← keyword? "DISTINCT" then
    if all then fail
    if ← keyword? "ON" then
      symbol "("
      let es ← if ← peekSymbol ")" then pure [] else n.exprs
      symbol ")"
      return ⟨true, " DISTINCT ON (" ++ exprsText es ++ ")"⟩
    else return ⟨true, " DISTINCT"⟩
  else return ⟨false, ""⟩

/-- The text of a bound on the number of rows before the selected list. -/
def top? (n : Nested) : Reader String := do
  if ← keyword? "TOP" then
    let count ←
      if ← peekSymbol "(" then
        let e ← parenthesized n.anyExpr
        pure ("(" ++ e.text ++ ")")
      else pure (toString (← natural))
    let percent ← if ← keyword? "PERCENT" then pure " PERCENT" else pure ""
    let ties ← if ← keywords? ["WITH", "TIES"] then pure " WITH TIES" else pure ""
    return " TOP " ++ count ++ percent ++ ties
  else return ""

/-- The table a selection is stored in. -/
def intoAt : Reader String := do
  let temporary ← oneOf? ["TEMP", "TEMPORARY"]
  let unlogged ← keyword? "UNLOGGED"
  let table ← keyword? "TABLE"
  let name ← path
  return (if temporary.isSome then "TEMPORARY " else "") ++ (if unlogged then "UNLOGGED " else "")
    ++ (if table then "TABLE " else "") ++ pathText name

/-- A row made by a function from each row of a table. -/
def lateralView? (n : Nested) : Reader (Option String) := do
  if ← keywords? ["LATERAL", "VIEW"] then
    let outer ← keyword? "OUTER"
    let e ← n.anyExpr
    let name ← path
    let columns ← commaList (alias? ["WHERE", "GROUP", "CLUSTER", "HAVING", "LATERAL"])
    let columns := columns.filterMap id
    return some (" LATERAL VIEW" ++ (if outer then " OUTER" else "") ++ " " ++ e.text ++ " "
      ++ pathText name ++ if columns.isEmpty then "" else " AS " ++ identsText columns)
  else return none

/-- Expressions in parentheses, possibly none. -/
def tupleAt (n : Nested) : Reader (List Expr) := do
  symbol "("
  let es ← if ← peekSymbol ")" then pure [] else n.exprs
  symbol ")"
  return es

/-- Expressions in parentheses, possibly none, or one expression. -/
def groupingSetAt (n : Nested) : Reader String := do
  let es ← if ← peekSymbol "(" then tupleAt n else pure [← n.anyExpr]
  match es with
  | [e] => return e.text
  | es => return "(" ++ exprsText es ++ ")"

def groupingAt (n : Nested) : Reader Expr := do
  if ← keywords? ["GROUPING", "SETS"] then
    let sets ← parenthesized (commaList (tupleAt n))
    return .other ("GROUPING SETS ("
      ++ commaText (sets.map fun es => "(" ++ exprsText es ++ ")") ++ ")")
  else
    match ← oneOf? ["CUBE", "ROLLUP"] with
    | some k =>
      let sets ← parenthesized (commaList (groupingSetAt n))
      return .other (k ++ " (" ++ commaText sets ++ ")")
    | none =>
      match ← get with
      | .symbol "(" :: .symbol ")" :: ts =>
        set ts
        return .other "()"
      | _ => n.anyExpr

def grouping? (n : Nested) : Reader (Written Grouping) := do
  if ← keywords? ["GROUP", "BY"] then
    let g : Written Grouping ←
      if ← keyword? "ALL" then pure ⟨.all, "ALL"⟩
      else
        let es ← commaList (groupingAt n)
        pure ⟨.exprs es, exprsText es⟩
    let totals ← while? do
      if ← keyword? "WITH" then
        return some (" WITH " ++ (← oneOf ["ROLLUP", "CUBE", "TOTALS"]))
      else return none
    return ⟨g.value, " GROUP BY " ++ g.text ++ String.join totals⟩
  else return ⟨.exprs [], ""⟩

def windowsAt (n : Nested) : Reader String := do
  let ws ← commaList do
    let name ← ident
    keyword "AS"
    let w ← if ← symbol? "(" then windowAt n else pure (← ident).text
    return name.text ++ " AS " ++ w
  return commaText ws

/-- The rows a hierarchy starts with, and how it goes on. -/
def hierarchy? (n : Nested) : Reader String := do
  if ← keywords? ["CONNECT", "BY"] then
    let es ← Reader.inHierarchy n.exprs
    keywords ["START", "WITH"]
    return " START WITH " ++ (← n.anyExpr).text ++ " CONNECT BY " ++ exprsText es
  else if ← keywords? ["START", "WITH"] then
    let e ← n.anyExpr
    keywords ["CONNECT", "BY"]
    return " START WITH " ++ e.text ++ " CONNECT BY " ++ exprsText (← Reader.inHierarchy n.exprs)
  else return ""

/-- The condition after a keyword, if there is one, and its text. -/
def condition? (n : Nested) (k : String) : Reader (Written (Option Expr)) := do
  if ← keyword? k then
    let e ← n.anyExpr
    return ⟨some e, " " ++ k ++ " " ++ e.text⟩
  else return ⟨none, ""⟩

def selectAt (n : Nested) : Reader (Written Select) := do
  let distinct ← distinct? n
  let top ← top? n
  let items ← commaList (selectItemAt n)
  let into ← clause? ["INTO"] intoAt
  let sources ← if ← keyword? "FROM" then commaList (sourceAt n) else pure []
  let sourcesText :=
    if sources.isEmpty then "" else " FROM " ++ commaText (sources.map (·.text))
  let lateral ← while? (lateralView? n)
  let prewhere ← condition? n "PREWHERE"
  let selection ← condition? n "WHERE"
  let grouping ← grouping? n
  let cluster ← clause? ["CLUSTER", "BY"] do return exprsText (← n.exprs)
  let distribute ← clause? ["DISTRIBUTE", "BY"] do return exprsText (← n.exprs)
  let sort ← clause? ["SORT", "BY"] do return exprsText (← n.exprs)
  let having ← condition? n "HAVING"
  let windows ← clause? ["WINDOW"] (windowsAt n)
  let qualify ← condition? n "QUALIFY"
  let later ← if windows.isEmpty then clause? ["WINDOW"] (windowsAt n) else pure ""
  let hierarchy ← hierarchy? n
  return {
    value := {
      distinct := distinct.value
      items := items.map (·.value.1)
      sources := sources.map (·.value.1)
      selection := selection.value
      grouping := grouping.value
      having := having.value
      unread := given <|
        [top, into] ++ items.map (·.value.2) ++ sources.flatMap (·.value.2) ++ lateral
          ++ [prewhere.text, cluster, distribute, sort, windows, qualify.text, later, hierarchy] }
    text := "SELECT" ++ distinct.text ++ top ++ " " ++ commaText (items.map (·.text)) ++ into
      ++ sourcesText ++ String.join lateral ++ prewhere.text ++ selection.text ++ grouping.text
      ++ cluster ++ distribute ++ sort ++ having.text ++ windows ++ qualify.text ++ later
      ++ hierarchy }

/-! ### Bodies -/

/-- A table as a body, after its keyword: a name of one or two words.  Three tokens are taken
wherever the name ends. -/
def tableBodyAt : Reader String := do
  let ts ← get
  set (ts.drop 3)
  match ts with
  | .word schema _ :: .symbol "." :: .word name _ :: _ => return "TABLE " ++ schema ++ "." ++ name
  | .word _ _ :: .symbol "." :: _ => fail
  | .word name _ :: _ => return "TABLE " ++ name
  | _ => fail

/-- A body that is no combination of others. -/
def simpleBodyAt (n : Nested) : Reader (Written QueryBody) := do
  if ← keyword? "SELECT" then
    let s ← selectAt n
    return ⟨.select s.value, s.text⟩
  else if ← symbol? "(" then
    let q ← n.query
    symbol ")"
    return ⟨.other, "(" ++ q.text ++ ")"⟩
  else if ← keyword? "VALUES" then return ⟨.other, ← rowsAt n⟩
  else if ← keyword? "TABLE" then return ⟨.other, ← tableBodyAt⟩
  else fail

/-- What two bodies are combined by, if one follows. -/
def combination? : Reader (Option String) := do
  match ← oneOf? ["UNION", "EXCEPT", "INTERSECT"] with
  | none => return none
  | some k =>
    let ways := [["DISTINCT", "BY", "NAME"], ["BY", "NAME"], ["ALL", "BY", "NAME"], ["ALL"],
      ["DISTINCT"]]
    let way ← phrase? ways
    return some (" ".intercalate (k :: way.getD []))

def bodyAt (n : Nested) : Reader (Written QueryBody) := do
  let first ← simpleBodyAt n
  let rest ← while? do
    match ← combination? with
    | some k =>
      let b ← simpleBodyAt n
      return some (" " ++ k ++ " " ++ b.text)
    | none => return none
  return ⟨if rest.isEmpty then first.value else .other, first.text ++ String.join rest⟩

/-! ### Queries -/

/-- A query under a name. -/
def namedQueryAt (n : Nested) : Reader String := do
  let name ← ident
  let columns ← identList?
  keyword "AS"
  let q ← parenthesized n.query
  let origin ← if ← keyword? "FROM" then pure (" FROM " ++ (← ident).text) else pure ""
  return name.text ++ (if columns.isEmpty then "" else " (" ++ identsText columns ++ ")") ++ " AS ("
    ++ q.text ++ ")" ++ origin

/-- The queries under names before a body, and their text. -/
def namedQueries? (n : Nested) : Reader (Written Bool) := do
  if ← keyword? "WITH" then
    let recursive ← keyword? "RECURSIVE"
    let qs ← commaList (namedQueryAt n)
    return ⟨true, "WITH " ++ (if recursive then "RECURSIVE " else "") ++ commaText qs ++ " "⟩
  else return ⟨false, ""⟩

/-- The number of rows that are given and the number that are passed over. -/
structure Limits where
  limit : Option String := none
  offset : Option String := none

/-- The number of rows that are given; all of them is no limit. -/
def limit? (n : Nested) (l : Limits) : Reader Limits := do
  if l.limit.isSome then return l
  if ← keyword? "LIMIT" then
    if ← keyword? "ALL" then return l else return { l with limit := some (← n.anyExpr).text }
  else return l

def offset? (n : Nested) (l : Limits) : Reader Limits := do
  if l.offset.isSome then return l
  if ← keyword? "OFFSET" then
    let e ← n.anyExpr
    let rows ← oneOf? ["ROW", "ROWS"]
    return { l with offset := some (e.text ++ (rows.map (" " ++ ·)).getD "") }
  else return l

/-- Two numbers after `LIMIT`, of which the first says how many rows are passed over. -/
def limitPair? (n : Nested) (l : Limits) : Reader Limits := do
  if l.limit.isSome && l.offset.isNone then
    if ← symbol? "," then return ⟨some (← n.anyExpr).text, l.limit⟩ else return l
  else return l

/-- One round of the bounds on the number of rows. -/
def limitsAt (n : Nested) (l : Limits) : Reader Limits := do
  let l ← limit? n l
  let l ← offset? n l
  limitPair? n l

/-- The first rows, up to a number. -/
def fetchAt : Reader String := do
  let _ ← oneOf ["FIRST", "NEXT"]
  let count ←
    match ← oneOf? ["ROW", "ROWS"] with
    | some _ => pure ""
    | none =>
      let v ← valueAt
      let percent ← if ← keyword? "PERCENT" then pure " PERCENT" else pure ""
      let _ ← oneOf ["ROW", "ROWS"]
      pure (" " ++ v.text ++ percent)
  let last ←
    if ← keyword? "ONLY" then pure "ONLY"
    else
      keywords ["WITH", "TIES"]
      pure "WITH TIES"
  return "FIRST" ++ count ++ " ROWS " ++ last

/-- Rows that are locked while they are read, after the keyword. -/
def lockAt : Reader String := do
  let k ← oneOf ["UPDATE", "SHARE"]
  let of ← if ← keyword? "OF" then pure (" OF " ++ pathText (← path)) else pure ""
  let wait ←
    if ← keyword? "NOWAIT" then pure " NOWAIT"
    else if ← keywords? ["SKIP", "LOCKED"] then pure " SKIP LOCKED"
    else pure ""
  return " FOR " ++ k ++ of ++ wait

/-- A name in parentheses, if there is one. -/
def elementName? : Reader String := do
  if ← peekSymbol "(" then return "('" ++ (← parenthesized stringValue) ++ "')" else return ""

/-- The options of a form rows are given in: after each comma one of the given words, the name of
the whole, or nothing. -/
def formOptions (words : List (List String)) : Reader (List (String × String)) := do
  while? do
    if ← symbol? "," then
      if ← keyword? "ROOT" then
        symbol "("
        let name ← stringValue
        symbol ")"
        return some ("ROOT", "('" ++ name ++ "')")
      match ← phrase? words with
      | some ws => return some (" ".intercalate ws, "")
      | none => return some ("", "")
    else return none

/-- The text of the options of a form, in the given order; of the names the last counts. -/
def formOptionsText (given : List (String × String)) (order : List String) : String :=
  String.join <| order.map fun k =>
    match (given.filter (·.1 == k)).getLast? with
    | some (_, name) => ", " ++ k ++ name
    | none => ""

/-- The form rows are given in, after `FOR`; `none` if what follows is no form. -/
def form? : Reader (Option String) := do
  match ← oneOf? ["XML", "JSON", "BROWSE"] with
  | none => return none
  | some "XML" =>
    let k ← oneOf ["RAW", "AUTO", "EXPLICIT", "PATH"]
    let name ← if k == "RAW" || k == "PATH" then elementName? else pure ""
    let given ← formOptions [["ELEMENTS"], ["BINARY", "BASE64"], ["TYPE"]]
    return some (" FOR XML " ++ k ++ name
      ++ formOptionsText given ["BINARY BASE64", "TYPE", "ROOT", "ELEMENTS"])
  | some "JSON" =>
    let k ← oneOf ["AUTO", "PATH"]
    let given ← formOptions [["INCLUDE_NULL_VALUES"], ["WITHOUT_ARRAY_WRAPPER"]]
    return some (" FOR JSON " ++ k
      ++ formOptionsText given ["ROOT", "INCLUDE_NULL_VALUES", "WITHOUT_ARRAY_WRAPPER"])
  | some _ => return some " FOR BROWSE"

/-- At most `fuel` locks and the form rows are given in, which ends them. -/
def locksUpTo : Nat → Reader String
  | 0 => return ""
  | fuel + 1 => do
    if ← keyword? "FOR" then
      match ← form? with
      | some text => return text
      | none =>
        let lock ← lockAt
        return lock ++ (← locksUpTo fuel)
    else return ""

/-- A column for which a value is put in where the order leaves gaps. -/
def interpolationAt (n : Nested) : Reader String := do
  let column ← ident
  return column.text ++ (← exprAfter? n ["AS"])

/-- The values that are put in where the order leaves gaps. -/
def interpolation? (n : Nested) : Reader String := do
  if ← keyword? "INTERPOLATE" then
    if ← symbol? "(" then
      let is ← if ← peekSymbol ")" then pure [] else commaList (interpolationAt n)
      symbol ")"
      return " INTERPOLATE (" ++ commaText is ++ ")"
    else return " INTERPOLATE"
  else return ""

/-- What the rows of a query are ordered by, and the texts of the rows and values that are put
in. -/
def queryOrder? (n : Nested) : Reader (Written (List OrderItem × List String)) := do
  if ← keywords? ["ORDER", "BY"] then
    let os ← orderItemsAt n
    let interpolation ← interpolation? n
    return ⟨(os.value.map (·.1), os.value.map (·.2) ++ [interpolation]),
      " ORDER BY " ++ os.text ++ interpolation⟩
  else return ⟨([], []), ""⟩

/-- A query that begins with its body. -/
def plainQueryAt (n : Nested) (named : Written Bool) : Reader (Written Query) := do
  let body ← bodyAt n
  let order ← queryOrder? n
  let once ← limitsAt n {}
  let limits ← limitsAt n once
  let limitBy ← clause? ["BY"] do return exprsText (← n.exprs)
  let settings ← clause? ["SETTINGS"] settingsAt
  let fetch ← clause? ["FETCH"] fetchAt
  let locks ← locksUpTo (← get).length
  let format ← clause? ["FORMAT"] do
    if ← keyword? "NULL" then return "NULL" else return (← ident).text
  return {
    value := {
      named := named.value
      body := body.value
      orderBy := order.value.1
      limited := limits.limit.isSome || limits.offset.isSome || !fetch.isEmpty
      unread := given (order.value.2 ++ [limitBy, settings, locks, format]) }
    text := named.text ++ body.text ++ order.text
      ++ (limits.limit.map (" LIMIT " ++ ·)).getD ""
      ++ (limits.offset.map (" OFFSET " ++ ·)).getD ""
      ++ limitBy ++ settings ++ fetch ++ locks ++ format }

def queryAt (n : Nested) : Reader (Written Query) := do
  let named ← namedQueries? n
  if ← peekOneOf ["INSERT", "UPDATE"] then
    match ← n.statement with
    | .other text => return ⟨⟨named.value, .other, [], false, []⟩, named.text ++ text⟩
    | _ => fail
  else plainQueryAt n named

end SqlPipeline.Sql
