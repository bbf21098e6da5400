/-
From SQL to a query in which every name has been looked up.

* `Query.Scope.conditions` — the comparisons that a condition on records joins by `AND`;
* `Query.Scope.havingTerms` — the conditions on groups that are joined by `AND`;
* `Query.Scope.checkOrder` — the order of a query, which must be the one that records or groups
  come in anyway;
* `Query.ofSelect`, `Query.ofText` — the query of a selection, and of a text.
-/

import SqlPipeline.Catalog.Basic
import SqlPipeline.Query.Basic
import SqlPipeline.Query.Output
import SqlPipeline.Sql.Script

set_option autoImplicit false

namespace SqlPipeline.Query

open Sql

namespace Scope

/-! ### Conditions on records -/

/-- The comparison that an operator is, which must be one. -/
def comparatorOf (op : BinaryOp) : Except Fault Comparator :=
  match op.comparator? with
  | some c => .ok c
  | none => .error (.internal .lostComparison)

/-- An operator that was found to be a comparison is one. -/
theorem comparatorOf_of_isSome {op : BinaryOp} (h : op.comparator?.isSome = true) :
    ∃ c, op = .compare c ∧ comparatorOf op = .ok c := by
  cases op with
  | compare c => exact ⟨c, rfl, rfl⟩
  | _ => cases h

/-- The comparison of a column with a literal, on whichever side they stand; `text` is the text of
the comparison. -/
def comparison (s : Scope) (op : Comparator) (l r : Expr) (text : String) :
    Except Fault Comparison := do
  if l.isSubquery || r.isSubquery then throw (.shape .subquery)
  let leftColumn ← s.column? l
  let rightLiteral ← literal? r
  match leftColumn, rightLiteral with
  | some n, some v => return ⟨n, op, v⟩
  | _, _ =>
    let leftLiteral ← literal? l
    let rightColumn ← s.column? r
    match leftLiteral, rightColumn with
    | some v, some n => return ⟨n, op.flip, v⟩
    | _, _ => throw (.shape (.whereOperands text))

/-- The comparisons that a condition joins by `AND`, from left to right. -/
def conditions (s : Scope) : Expr → Except Fault (List Comparison)
  | .nested e => s.conditions e
  | .binary .and l r => return (← s.conditions l) ++ (← s.conditions r)
  | .binary .or _ _ => throw (.shape .disjunction)
  | .binary op l r =>
    if op.comparator?.isSome then do
      let c ← comparatorOf op
      return [← s.comparison c l r (Expr.text (.binary op l r))]
    else throw (.shape (.whereForm (Expr.text (.binary op l r))))
  | e => if e.isSubquery then throw (.shape .subquery) else throw (.shape (.whereForm e.text))

theorem conditions_compare (s : Scope) (op : Comparator) (l r : Expr) :
    s.conditions (.binary (.compare op) l r)
      = do return [← s.comparison op l r (Expr.text (.binary (.compare op) l r))] := rfl

/-! ### Groups -/

/-- An expression that records are grouped by: the name of a column, the name of an output column,
or any expression. -/
def groupScalar (s : Scope) (ps : List Projection) (e : Expr) : Except Fault Scalar :=
  match e with
  | .ident i =>
    if (s.table.column? i.value).isSome then s.scalar e
    else
      match byAlias? ps i.value with
      | some (.column n) => return .column n
      | some (.arithmetic a) => return a
      | some _ => throw (.shape (.groupByAggregate i.value))
      | none => s.scalar e
  | _ => s.scalar e

def grouping (s : Scope) (ps : List Projection) : Grouping → Except Fault (List Scalar)
  | .all => throw (.shape .groupByAll)
  | .exprs es => es.mapM (s.groupScalar ps)

/-- The output column that an expression names, if it is a plain name. -/
def named? (ps : List Projection) : Expr → Option Kind
  | .ident i => byAlias? ps i.value
  | _ => none

def havingOperand (s : Scope) (ps : List Projection) (e : Expr) : Except Fault HavingOperand := do
  if let some l ← literal? e then return .literal l
  if let some kind := named? ps e then return .projected kind
  if let some n ← s.column? e then return .projected (.column n)
  if let some call ← s.aggregate? e then return .projected (.aggregate call)
  return .expression e.text

/-- The conditions on groups that are joined by `AND`, from left to right. -/
def havingTerms (s : Scope) (ps : List Projection) : Expr → Except Fault (List HavingTerm)
  | .nested e => s.havingTerms ps e
  | .binary .and l r => return (← s.havingTerms ps l) ++ (← s.havingTerms ps r)
  | .binary .or _ _ => throw (.shape .disjunction)
  | .binary op l r =>
    if op.comparator?.isSome then do
      let c ← comparatorOf op
      return [.comparison c (← s.havingOperand ps l) (← s.havingOperand ps r)]
    else return [.unsupported (Expr.text (.binary op l r))]
  | e => return [.unsupported e.text]

theorem havingTerms_compare (s : Scope) (ps : List Projection) (op : Comparator) (l r : Expr) :
    s.havingTerms ps (.binary (.compare op) l r)
      = do return [.comparison op (← s.havingOperand ps l) (← s.havingOperand ps r)] := rfl

/-! ### Order -/

def orderScalar (s : Scope) (ps : List Projection) (e : Expr) : Except Fault Scalar :=
  match named? ps e with
  | some (.column n) => return .column n
  | some (.arithmetic a) => return a
  | some _ => throw (.shape .orderByAggregate)
  | none => s.scalar e

/-- Whether rows come in the order of a value anyway: records in the order of the key, and groups
in the order of what they are grouped by. -/
def isNaturalOrder (s : Scope) (groupBy : List Scalar) (aggregated : Bool) (e : Scalar) : Bool :=
  if groupBy.isEmpty && !aggregated then e == .column 0 && s.table.primaryKey == some 0
  else groupBy.head?.any (· == e)

/-- Refuses an order that rows do not come in anyway. -/
def checkOrder (s : Scope) (ps : List Projection) (groupBy : List Scalar) (aggregated : Bool) :
    List OrderItem → Except Fault Unit
  | [] => return ()
  | [item] => do
    let e ← s.orderScalar ps item.expr
    if s.isNaturalOrder groupBy aggregated e && !item.descending then return ()
    throw (.shape (.unnaturalOrder item.expr.text))
  | _ => throw (.shape .severalOrders)

end Scope

/-! ### Queries -/

/-- A table of the catalog, with the name that the query gives it. -/
def tableScope (catalog : Catalog.Store) : TableRef → Except Fault Scope
  | .other => throw (.shape .derivedTable)
  | .table path label =>
    match catalog.table? (pathName path) with
    | some t => return ⟨t, label.map Ident.value⟩
    | none => throw (.unknownTable (pathName path))

def relations (s : Select) : List TableRef :=
  s.sources.flatMap fun source => source.relation :: source.joins.map Join.relation

def hasOuterJoin (s : Select) : Bool :=
  s.sources.any fun source => source.joins.any Join.outer

/-- The query of a selection from one table, in the given order. -/
def overScope (s : Scope) (outerJoin : Bool) (sel : Select) (orderBy : List OrderItem) :
    Except Fault Resolved := do
  let projections ← s.projections sel.items
  let predicates ←
    match sel.selection with
    | some e => s.conditions e
    | none => pure []
  let groupBy ← s.grouping projections sel.grouping
  let having ←
    match sel.having with
    | some e => s.havingTerms projections e
    | none => pure []
  let aggregated :=
    projections.any (fun p => p.kind.isAggregate) || having.any HavingTerm.isAggregate
  s.checkOrder projections groupBy aggregated orderBy
  return {
    tables := [s.table], outerJoin, hints := s.table.hints
    predicates, aggregated, groupBy, having, projections }

/-- The query of a selection.  Names are looked up only if it reads from one table; with more, the
tables alone are kept. -/
def ofSelect (catalog : Catalog.Store) (sel : Select) (orderBy : List OrderItem) :
    Except Fault Resolved := do
  match ← (relations sel).mapM (tableScope catalog) with
  | [] => throw (.shape .missingFrom)
  | [s] => overScope s (hasOuterJoin sel) sel orderBy
  | s :: ss =>
    return {
      tables := (s :: ss).map Scope.table
      outerJoin := hasOuterJoin sel
      hints := s.table.hints }

/-- The query that a SQL query stands for. -/
def ofQuery (catalog : Catalog.Store) (q : Sql.Query) : Except Fault Resolved :=
  if q.named then throw (.shape .namedQueries)
  else if q.limited then throw (.shape .rowLimit)
  else
    match q.body with
    | .other => throw (.shape .combinedQueries)
    | .select sel =>
      if sel.distinct then throw (.shape .distinctRows) else ofSelect catalog sel q.orderBy

def ofStatements (catalog : Catalog.Store) : List Statement → Except Fault Resolved
  | [] => throw (.badText .emptyText)
  | [.query q _] => ofQuery catalog q
  | [_] => throw (.shape .notSelect)
  | sts => throw (.shape (.severalStatements sts.length))

def ofText (catalog : Catalog.Store) (text : String) : Except Fault Resolved :=
  match statements text with
  | .error _ => throw (.badText .unreadable)
  | .ok sts => ofStatements catalog sts

end SqlPipeline.Query
