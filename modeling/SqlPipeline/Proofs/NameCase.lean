/-
**Names have no case.**

A query refers to its table, to columns, to the table of a column, to output columns and to
functions, and each of these names is looked up in a place of its own.  A query *folded* is the
query with the names it refers to in lower case; the names that it declares stay as they are.  A
query and its folded query are looked up alike, step by step, and only messages show how a name was
written.  Two queries that are the same when folded are therefore planned alike.

The texts that a resolved query keeps are one place where the spelling stays: a condition on groups
that cannot be planned is kept as its text.  `Resolved.plain` leaves these texts out, and planning
does not miss them.

Main definitions:

* `Sql.Query.folded` — a query with the names it refers to in lower case;
* `Query.Resolved.plain` — a query without the texts of its conditions on groups.

Main results:

* `Query.Scope.column?_folded`, `Query.Scope.aggregate?_folded`, `Query.Scope.scalar_folded` — what
  an expression means;
* `Query.ofQuery_folded` — what a query stands for;
* `Plan.build_plain` — plans do not depend on the texts of conditions on groups;
* `names_have_no_case` — **programs do not depend on the case of names**.
-/

import SqlPipeline.Proofs.Agreement
import SqlPipeline.Proofs.Aliases
import SqlPipeline.Proofs.StoredValues

set_option autoImplicit false

namespace SqlPipeline

/-! ### Texts in lower case -/

namespace Text

@[simp] theorem lower_lower (s : String) : lower (lower s) = lower s := by
  simp [lower, Function.comp_def]

@[simp] theorem sameName_lower_left (a b : String) : sameName (lower a) b = sameName a b := by
  simp [sameName]

@[simp] theorem sameName_lower_right (a b : String) : sameName a (lower b) = sameName a b := by
  simp [sameName]

end Text

/-! ### Queries with names in lower case -/

namespace Sql

/-- A name in lower case. -/
def Ident.folded (i : Ident) : Ident :=
  { i with value := Text.lower i.value }

/-- A call with its name, and the texts it keeps, in lower case. -/
def CallHead.folded (f : CallHead) : CallHead :=
  { f with
    name := f.name.map Ident.folded
    parameters := Text.lower f.parameters
    clauses := Text.lower f.clauses
    trailer := Text.lower f.trailer }

/-- Arguments with the texts they keep in lower case. -/
def CallArgs.folded : CallArgs → CallArgs
  | none => none
  | star => star
  | query text => query (Text.lower text)
  | other text => other (Text.lower text)

/-- An expression with its names in lower case, and the texts it keeps: these may have names in
them. -/
def Expr.folded : Expr → Expr
  | ident i => ident i.folded
  | path names => path (names.map Ident.folded)
  | number text long => number text long
  | string s => string s
  | nested e => nested e.folded
  | sign negative e => sign negative e.folded
  | binary op l r => binary op l.folded r.folded
  | rounded up e unit => rounded up e.folded (Text.lower unit)
  | call f arg => call f.folded arg.folded
  | callWith f args => callWith f.folded args.folded
  | subquery text => subquery (Text.lower text)
  | other text => other (Text.lower text)

/-- An item with the names it refers to in lower case; the name that it is given stays. -/
def SelectItem.folded : SelectItem → SelectItem
  | star qualifier => star (qualifier.map Ident.folded)
  | expr e label => expr e.folded label

/-- A table with its name in lower case; the name that it is given stays. -/
def TableRef.folded : TableRef → TableRef
  | table name label => table (name.map Ident.folded) label
  | other => other

def Join.folded (j : Join) : Join :=
  { j with relation := j.relation.folded }

def Source.folded (s : Source) : Source :=
  { relation := s.relation.folded, joins := s.joins.map Join.folded }

def Grouping.folded : Grouping → Grouping
  | all => all
  | exprs es => exprs (es.map Expr.folded)

/-- A selection with the names it refers to in lower case, without the texts that are not looked
at. -/
def Select.folded (s : Select) : Select :=
  { s with
    items := s.items.map SelectItem.folded
    sources := s.sources.map Source.folded
    selection := s.selection.map Expr.folded
    grouping := s.grouping.folded
    having := s.having.map Expr.folded
    unread := [] }

def QueryBody.folded : QueryBody → QueryBody
  | select s => select s.folded
  | other => other

def OrderItem.folded (o : OrderItem) : OrderItem :=
  { o with expr := o.expr.folded }

/-- A query with the names it refers to in lower case, without the texts that are not looked at. -/
def Query.folded (q : Query) : Query :=
  { q with body := q.body.folded, orderBy := q.orderBy.map OrderItem.folded, unread := [] }

theorem pathName_folded (names : List Ident) :
    pathName (names.map Ident.folded) = Text.lower (pathName names) := by
  unfold pathName
  rw [List.getLast?_map]
  cases names.getLast? <;> rfl

theorem Expr.isSubquery_folded (e : Expr) : e.folded.isSubquery = e.isSubquery := by
  cases e <;> rfl

end Sql

namespace Query

open Sql

/-! ### Conditions on groups without their texts -/

/-- A side of a condition on groups without its text. -/
def HavingOperand.plain : HavingOperand → HavingOperand
  | expression _ => expression ""
  | operand => operand

/-- A condition on groups without its texts. -/
def HavingTerm.plain : HavingTerm → HavingTerm
  | comparison op l r => comparison op l.plain r.plain
  | unsupported _ => unsupported ""

theorem HavingOperand.isAggregate_plain (o : HavingOperand) :
    o.plain.isAggregate = o.isAggregate := by
  cases o <;> rfl

theorem HavingTerm.isAggregate_plain (h : HavingTerm) : h.plain.isAggregate = h.isAggregate := by
  cases h with
  | comparison op l r =>
      simp only [plain, isAggregate, HavingOperand.isAggregate_plain]
  | unsupported text => rfl

theorem any_isAggregate_of_plain {hs hs' : List HavingTerm}
    (h : hs.map HavingTerm.plain = hs'.map HavingTerm.plain) :
    hs.any HavingTerm.isAggregate = hs'.any HavingTerm.isAggregate := by
  have hplain : HavingTerm.isAggregate ∘ HavingTerm.plain = HavingTerm.isAggregate :=
    funext HavingTerm.isAggregate_plain
  rw [← hplain, ← List.any_map, ← List.any_map, h]

/-- A query without the texts of its conditions on groups. -/
def Resolved.plain (q : Resolved) : Resolved :=
  { q with having := q.having.map HavingTerm.plain }

/-! ### Expressions -/

theorem literal?_folded (e : Expr) : literal? e.folded = literal? e := by
  induction e with
  | nested e ih => exact ih
  | sign negative e ih =>
      cases negative with
      | false => exact ih
      | true => rw [Expr.folded, literal?, literal?, ih]
  | _ => rfl

theorem column?_lower (t : Catalog.Table) (name : String) :
    t.column? (Text.lower name) = t.column? name := by
  simp [Catalog.Table.column?]

theorem byAlias?_lower (ps : List Projection) (name : String) :
    byAlias? ps (Text.lower name) = byAlias? ps name := by
  simp [byAlias?, Projection.answersTo]

namespace Scope

variable (s : Scope)

theorem named_folded (name : String) : Agree Eq (s.named (Text.lower name)) (s.named name) := by
  unfold named
  rw [column?_lower]
  cases s.table.column? name with
  | some n => exact .ok rfl
  | none => exact .unknownColumn

theorem isQualifier_lower (q : String) : s.isQualifier (Text.lower q) = s.isQualifier q := by
  simp [isQualifier]

theorem qualified_folded (names : List Ident) :
    Agree Eq (s.qualified (names.map Ident.folded)) (s.qualified names) := by
  rcases names with _ | ⟨q, _ | ⟨c, _ | ⟨d, names⟩⟩⟩
  · exact .unknownColumn
  · exact .unknownColumn
  · simp only [List.map_cons, List.map_nil, qualified, Ident.folded, isQualifier_lower]
    split
    · exact s.named_folded c.value
    · exact .unknownColumn
  · exact .unknownColumn

/-- **The column that an expression names does not depend on the case of the name.** -/
theorem column?_folded (e : Expr) : Agree Eq (s.column? e.folded) (s.column? e) := by
  induction e with
  | ident i => exact (s.named_folded i.value).bind_eq fun n => .refl _
  | path names => exact (s.qualified_folded names).bind_eq fun n => .refl _
  | nested e ih => exact ih
  | _ => exact .refl _

theorem aggregateOf?_folded (f : CallHead) (text text' : String) :
    Agree Eq (aggregateOf? f.folded text') (aggregateOf? f text) := by
  have hname :
      Aggregate.ofName? (pathName f.folded.name) = Aggregate.ofName? (pathName f.name) := by
    rw [CallHead.folded, pathName_folded, Aggregate.ofName?, Text.lower_lower]
    rfl
  unfold aggregateOf?
  rw [hname]
  cases Aggregate.ofName? (pathName f.name) with
  | none => exact .refl _
  | some a =>
      show Agree Eq (if f.windowed then _ else _) (if f.windowed then _ else _)
      split
      · exact .shape
      · exact .refl _

theorem unquantified_folded (f : CallHead) (text text' : String) :
    Agree Eq (unquantified f.folded text') (unquantified f text) := by
  show Agree Eq (if f.quantifier.isSome then _ else _) (if f.quantifier.isSome then _ else _)
  split
  · exact .shape
  · exact .refl _

/-- **Nor does the function of a group that it calls.** -/
theorem aggregate?_folded (e : Expr) : Agree Eq (s.aggregate? e.folded) (s.aggregate? e) := by
  induction e with
  | nested e ih => exact ih
  | call f arg ih =>
      rw [Expr.folded, aggregate?, aggregate?]
      refine (aggregateOf?_folded f _ _).bind_eq fun a => ?_
      cases a with
      | none => exact .refl _
      | some a =>
          refine (unquantified_folded f _ _).bind_eq fun _ => ih.bind_eq fun inner => ?_
          split
          · exact .expression
          · refine (s.column?_folded arg).bind_eq fun n => ?_
            cases n with
            | some n => exact .refl _
            | none => exact .expression
  | callWith f args =>
      rw [Expr.folded, aggregate?, aggregate?]
      refine (aggregateOf?_folded f _ _).bind_eq fun a => ?_
      cases a with
      | none => exact .refl _
      | some a =>
          cases args with
          | none => exact .expression
          | query _ => exact .shape
          | other _ =>
              exact (unquantified_folded f _ _).bind_eq fun _ => .expression
          | star =>
              refine (unquantified_folded f _ _).bind_eq fun _ => ?_
              split
              · exact .refl _
              · exact .expression
  | _ => exact .refl _

theorem atom?_folded (e : Expr) : Agree Eq (s.atom? e.folded) (s.atom? e) := by
  unfold atom?
  rw [literal?_folded, Expr.isSubquery_folded]
  refine (Agree.refl (literal? e)).bind_eq fun l => ?_
  cases l with
  | some l => exact .refl _
  | none =>
      refine (s.column?_folded e).bind_eq fun n => ?_
      cases n with
      | some n => exact .refl _
      | none => exact .refl _

theorem unaggregated_folded (e : Expr) : Agree Eq (s.unaggregated e.folded) (s.unaggregated e) := by
  refine (s.aggregate?_folded e).bind_eq fun call => ?_
  split
  · exact .expression
  · exact .refl _

/-- The value of an expression that is neither a literal nor a column. -/
def compound : Expr → Except Fault Scalar
  | .nested e => s.scalar e
  | .sign true e => return .binary .sub (.literal (.integer 0)) (← s.scalar e)
  | .sign false e => s.scalar e
  | .binary (.arith op) l r => return .binary op (← s.scalar l) (← s.scalar r)
  | .binary op _ _ => throw (.expression (.nonArithmetic op.text))
  | .rounded up e _ => return .apply (if up then "ceil" else "floor") (← s.scalar e)
  | .call f arg => do
    s.unaggregated (.call f arg)
    return .apply (Text.lower (pathName f.name)) (← s.scalar arg)
  | .callWith f args => do
    s.unaggregated (.callWith f args)
    throw (.expression (.argumentCount (Text.lower (pathName f.name))))
  | e => throw (.expression (.form e.text))

/-- A literal or a column is looked for first. -/
theorem scalar_eq (e : Expr) :
    s.scalar e = (do if let some a ← s.atom? e then return a else s.compound e) := by
  rw [scalar.eq_def]
  cases e with
  | sign negative e => cases negative <;> rfl
  | binary op l r => cases op <;> rfl
  | _ => rfl

theorem scalar_of_compound {e : Expr} (h : Agree Eq (s.compound e.folded) (s.compound e)) :
    Agree Eq (s.scalar e.folded) (s.scalar e) := by
  rw [scalar_eq, scalar_eq]
  refine (s.atom?_folded e).bind_eq fun a => ?_
  cases a with
  | some a => exact .refl _
  | none => exact h

/-- **Nor does its value.** -/
theorem scalar_folded (e : Expr) : Agree Eq (s.scalar e.folded) (s.scalar e) := by
  induction e with
  | nested e ih => exact s.scalar_of_compound ih
  | sign negative e ih =>
      cases negative with
      | false => exact s.scalar_of_compound ih
      | true => exact s.scalar_of_compound (ih.bind_eq fun a => .refl _)
  | binary op l r ihl ihr =>
      cases op with
      | arith op =>
          exact s.scalar_of_compound (ihl.bind_eq fun a => ihr.bind_eq fun b => .refl _)
      | _ => exact s.scalar_of_compound .expression
  | rounded up e unit ih => exact s.scalar_of_compound (ih.bind_eq fun a => .refl _)
  | call f arg ih =>
      have hname : Text.lower (pathName f.folded.name) = Text.lower (pathName f.name) := by
        rw [CallHead.folded, pathName_folded, Text.lower_lower]
      refine s.scalar_of_compound ?_
      refine (s.unaggregated_folded (.call f arg)).bind_eq fun _ => ?_
      rw [hname]
      exact ih.bind_eq fun a => .refl _
  | callWith f args =>
      refine s.scalar_of_compound ?_
      exact (s.unaggregated_folded (.callWith f args)).bind_eq fun _ => .expression
  | _ => exact s.scalar_of_compound .expression

/-! ### Output columns -/

theorem kind_folded (e : Expr) : Agree Eq (s.kind e.folded) (s.kind e) := by
  refine (s.column?_folded e).bind_eq fun n => ?_
  cases n with
  | some n => exact .refl _
  | none =>
      refine (s.aggregate?_folded e).bind_eq fun call => ?_
      cases call with
      | some call => exact .refl _
      | none => exact (s.scalar_folded e).bind_eq fun a => .refl _

theorem addItem_folded (ps : List Projection) (item : SelectItem) :
    Agree Eq (s.addItem ps item.folded) (s.addItem ps item) := by
  cases item with
  | star qualifier => exact .refl _
  | expr e label => exact (s.kind_folded e).bind_eq fun kind => .refl _

theorem projections_folded (items : List SelectItem) :
    Agree Eq (s.projections (items.map SelectItem.folded)) (s.projections items) :=
  .foldlM_map s.addItem_folded items []

/-! ### Conditions on records -/

theorem comparison_folded (op : Comparator) (l r : Expr) (text text' : String) :
    Agree Eq (s.comparison op l.folded r.folded text') (s.comparison op l r text) := by
  unfold comparison
  rw [Expr.isSubquery_folded, Expr.isSubquery_folded, literal?_folded, literal?_folded]
  split
  · exact .refl _
  · refine (s.column?_folded l).bind_eq fun n => (Agree.refl (literal? r)).bind_eq fun v => ?_
    rcases n with _ | n <;> rcases v with _ | v
    case some.some => exact .refl _
    -- the literal may stand on the left
    all_goals
      refine (Agree.refl (literal? l)).bind_eq fun v => (s.column?_folded r).bind_eq fun n => ?_
      rcases v with _ | v <;> rcases n with _ | n
      case some.some => exact .refl _
      all_goals exact .shape

theorem conditions_folded (e : Expr) : Agree Eq (s.conditions e.folded) (s.conditions e) := by
  induction e with
  | nested e ih => exact ih
  | binary op l r ihl ihr =>
      cases op with
      | and => exact ihl.bind_eq fun a => ihr.bind_eq fun b => .refl _
      | compare op => exact (s.comparison_folded op l r _ _).bind_eq fun c => .refl _
      | _ => exact .shape
  | _ => exact .shape

/-! ### Groups -/

theorem groupScalar_folded (ps : List Projection) (e : Expr) :
    Agree Eq (s.groupScalar ps e.folded) (s.groupScalar ps e) := by
  cases e with
  | ident i =>
      have hscalar := s.scalar_folded (.ident i)
      simp only [Expr.folded, Ident.folded, groupScalar, column?_lower, byAlias?_lower]
        at hscalar ⊢
      split
      · -- a column of this name comes before an output column
        exact hscalar
      · split
        · exact .refl _
        · exact .refl _
        · exact .shape
        · exact hscalar
  | _ => exact s.scalar_folded _

theorem grouping_folded (ps : List Projection) (g : Grouping) :
    Agree Eq (s.grouping ps g.folded) (s.grouping ps g) := by
  cases g with
  | all => exact .refl _
  | exprs es => exact .mapM_map (s.groupScalar_folded ps) es

theorem named?_folded (ps : List Projection) (e : Expr) : named? ps e.folded = named? ps e := by
  cases e with
  | ident i => exact byAlias?_lower ps i.value
  | _ => rfl

theorem havingOperand_folded (ps : List Projection) (e : Expr) :
    Agree (fun a b => a.plain = b.plain) (s.havingOperand ps e.folded) (s.havingOperand ps e) := by
  unfold havingOperand
  rw [literal?_folded, named?_folded]
  refine (Agree.refl (literal? e)).bind_eq fun l => ?_
  cases l with
  | some l => exact .ok rfl
  | none =>
      cases named? ps e with
      | some kind => exact .ok rfl
      | none =>
          refine (s.column?_folded e).bind_eq fun n => ?_
          cases n with
          | some n => exact .ok rfl
          | none =>
              refine (s.aggregate?_folded e).bind_eq fun call => ?_
              cases call with
              | some call => exact .ok rfl
              | none => exact .ok rfl

theorem havingTerms_folded (ps : List Projection) (e : Expr) :
    Agree (fun a b => a.map HavingTerm.plain = b.map HavingTerm.plain)
      (s.havingTerms ps e.folded) (s.havingTerms ps e) := by
  induction e with
  | nested e ih => exact ih
  | binary op l r ihl ihr =>
      cases op with
      | and =>
          refine ihl.bind fun a a' ha => ihr.bind fun b b' hb => .ok ?_
          rw [List.map_append, List.map_append, ha, hb]
      | or => exact .shape
      | compare op =>
          refine (s.havingOperand_folded ps l).bind fun a a' ha =>
            (s.havingOperand_folded ps r).bind fun b b' hb => .ok ?_
          simp [HavingTerm.plain, ha, hb]
      | _ => exact .ok rfl
  | _ => exact .ok rfl

/-! ### Order -/

theorem orderScalar_folded (ps : List Projection) (e : Expr) :
    Agree Eq (s.orderScalar ps e.folded) (s.orderScalar ps e) := by
  unfold orderScalar
  rw [named?_folded]
  cases named? ps e with
  | none => exact s.scalar_folded e
  | some kind => cases kind <;> exact .refl _

theorem checkOrder_folded (ps : List Projection) (groupBy : List Scalar) (aggregated : Bool)
    (orderBy : List OrderItem) :
    Agree Eq (s.checkOrder ps groupBy aggregated (orderBy.map OrderItem.folded))
      (s.checkOrder ps groupBy aggregated orderBy) := by
  rcases orderBy with _ | ⟨item, _ | ⟨item', orderBy⟩⟩
  · exact .refl _
  · refine (s.orderScalar_folded ps item.expr).bind_eq fun e => ?_
    show Agree Eq (if (_ && !item.descending) = true then _ else _) _
    split
    · exact .refl _
    · exact .shape
  · exact .refl _

end Scope

/-! ### Queries -/

theorem tableScope_folded (c : Catalog.Store) (t : TableRef) :
    Agree Eq (tableScope c t.folded) (tableScope c t) := by
  cases t with
  | other => exact .refl _
  | table path label =>
      have htable : c.table? (Text.lower (pathName path)) = c.table? (pathName path) := by
        simp [Catalog.Store.table?]
      simp only [TableRef.folded, tableScope, pathName_folded, htable]
      cases c.table? (pathName path) with
      | some t => exact .refl _
      | none => exact .unknownTable

theorem relations_folded (sel : Select) :
    relations sel.folded = (relations sel).map TableRef.folded := by
  simp [relations, Select.folded, Source.folded, List.flatMap_map, List.map_flatMap,
    Join.folded, Function.comp_def]

theorem hasOuterJoin_folded (sel : Select) : hasOuterJoin sel.folded = hasOuterJoin sel := by
  simp [hasOuterJoin, Select.folded, Source.folded, Join.folded, Function.comp_def]

theorem clause_folded {α : Type} {R : List α → List α → Prop} {f : Expr → Except Fault (List α)}
    (hf : ∀ e, Agree R (f e.folded) (f e)) (hnil : R [] []) (o : Option Expr) :
    Agree R (clause f (o.map Expr.folded)) (clause f o) := by
  cases o with
  | none => exact .ok hnil
  | some e => exact hf e

theorem overScope_folded (s : Scope) (outerJoin : Bool) (sel : Select)
    (orderBy : List OrderItem) :
    Agree (fun a b => a.plain = b.plain)
      (overScope s outerJoin sel.folded (orderBy.map OrderItem.folded))
      (overScope s outerJoin sel orderBy) := by
  rw [overScope_eq, overScope_eq]
  refine (s.projections_folded sel.items).bind_eq fun ps => ?_
  refine (clause_folded s.conditions_folded rfl sel.selection).bind_eq fun predicates => ?_
  refine (s.grouping_folded ps sel.grouping).bind_eq fun groupBy => ?_
  refine (clause_folded (s.havingTerms_folded ps) rfl sel.having).bind fun having having' h => ?_
  rw [any_isAggregate_of_plain h]
  refine (s.checkOrder_folded ps groupBy _ orderBy).bind_eq fun _ => .ok ?_
  simp only [Resolved.plain, h]

theorem ofSelect_folded (c : Catalog.Store) (sel : Select) (orderBy : List OrderItem) :
    Agree (fun a b => a.plain = b.plain)
      (ofSelect c sel.folded (orderBy.map OrderItem.folded)) (ofSelect c sel orderBy) := by
  unfold ofSelect
  rw [relations_folded, hasOuterJoin_folded]
  refine (Agree.mapM_map (tableScope_folded c) (relations sel)).bind_eq fun scopes => ?_
  rcases scopes with _ | ⟨s, _ | ⟨s', scopes⟩⟩
  · exact .shape
  · exact overScope_folded s _ sel orderBy
  · exact .ok rfl

/-- **The query that a SQL query stands for does not depend on the case of its names.** -/
theorem ofQuery_folded (c : Catalog.Store) (q : Sql.Query) :
    Agree (fun a b => a.plain = b.plain) (ofQuery c q.folded) (ofQuery c q) := by
  obtain ⟨named, body, orderBy, limited⟩ := q
  show Agree _ (if named then _ else if limited then _ else _)
    (if named then _ else if limited then _ else _)
  split
  · exact .shape
  · split
    · exact .shape
    · cases body with
      | other => exact .shape
      | select sel =>
          show Agree _ (if sel.distinct then _ else _) (if sel.distinct then _ else _)
          split
          · exact .shape
          · exact ofSelect_folded c sel orderBy

end Query

/-! ### Plans -/

namespace Plan

open Query Layout

theorem havingKind_plain (h : HavingTerm) : Agree Eq (havingKind h.plain) (havingKind h) := by
  cases h with
  | comparison op l r => cases l <;> cases r <;> exact .refl _
  | unsupported text => exact .shape

theorem havingComparison_plain (h : HavingTerm) :
    Agree Eq (havingComparison h.plain) (havingComparison h) := by
  cases h with
  | comparison op l r => cases l <;> cases r <;> exact .refl _
  | unsupported text => exact .shape

theorem GroupDraft.addHaving_plain (stored : Schema) (key : Option GroupKey) (d : GroupDraft)
    (h : HavingTerm) :
    Collecting.Agree (d.addHaving stored key h.plain) (d.addHaving stored key h) :=
  .bind (.lift (havingKind_plain h)) fun _ => .refl _

theorem Grouping.ofQuery_plain (q : Resolved) (stored output : Schema) :
    Collecting.Agree (Grouping.ofQuery q.plain stored output)
      (Grouping.ofQuery q stored output) := by
  obtain ⟨tables, outerJoin, hints, predicates, aggregated, groupBy, having, projections⟩ := q
  simp only [Grouping.ofQuery, Resolved.plain, List.length_map, List.head?_map]
  by_cases hgroups : 1 < groupBy.length
  · rw [if_pos hgroups, if_pos hgroups]
    exact .refl _
  · rw [if_neg hgroups, if_neg hgroups]
    by_cases hhavings : 1 < having.length
    · rw [if_pos hhavings, if_pos hhavings]
      exact .refl _
    · rw [if_neg hhavings, if_neg hhavings]
      refine .bind (.refl _) fun key => .bind (.refl _) fun test => .bind (.refl _) fun _ =>
        .bind (.refl _) fun d => ?_
      cases having.head? with
      | none => exact .refl _
      | some h => exact .bind (d.addHaving_plain stored key h) fun _ => .refl _

theorem grouping?_plain (q : Resolved) (stored output : Schema) :
    Collecting.Agree (grouping? q.plain stored output) (grouping? q stored output) := by
  have hempty : q.plain.having.isEmpty = q.having.isEmpty := by simp [Resolved.plain]
  unfold grouping?
  rw [hempty, show q.plain.isGrouped = q.isGrouped from rfl]
  split
  · exact .bind (Grouping.ofQuery_plain q stored output) fun _ => .refl _
  · exact .refl _

theorem having?_plain (q : Resolved) (g : Option Grouping) :
    Agree Eq (having? q.plain g) (having? q g) := by
  have hhead : q.plain.having.head? = q.having.head?.map HavingTerm.plain := by
    simp [Resolved.plain]
  unfold having?
  rw [hhead]
  cases q.having.head? with
  | none => exact .refl _
  | some h =>
      cases g with
      | none => exact .refl _
      | some g =>
          simp only [Option.map_some]
          cases g.havingColumn with
          | none => exact .refl _
          | some column =>
              refine Agree.bind_eq ?_ fun f => .refl _
              exact (havingComparison_plain h).bind_eq fun p => .refl _

theorem assemble_plain (q : Resolved) (access : Access) :
    Collecting.Agree (assemble q.plain access) (assemble q access) := by
  unfold assemble
  rw [show q.plain.tables = q.tables from rfl, show q.plain.projections = q.projections from rfl]
  cases q.tables.head? with
  | none => exact .refl _
  | some table =>
      refine .bind (.refl _) fun stored => .bind (.refl _) fun output => ?_
      refine .bind (grouping?_plain q stored output) fun grouping => ?_
      exact .bind (.lift (having?_plain q grouping.1)) fun having => .refl _

/-- **A plan does not depend on the texts of conditions on groups**, which messages show. -/
theorem build_plain (q : Resolved) :
    Agree Eq (build q.plain).run.value (build q).run.value := by
  unfold build
  rw [show Access.ofQuery q.plain = Access.ofQuery q from rfl]
  cases h : (Access.ofQuery q).run.value with
  | error e =>
      rw [Journal.value_bind_of_error h, Journal.value_bind_of_error h]
      exact .refl _
  | ok access =>
      rw [Journal.value_bind_of_ok h, Journal.value_bind_of_ok h]
      exact (assemble_plain q access .empty).1

end Plan

/-! ### Texts -/

open Sql

/-- The program of a text that is one query, without the records. -/
theorem planText_value_eq (c : Catalog.Store) {text shown : String} {q : Sql.Query}
    (h : statements text = .ok [.query q shown]) :
    (planText c text).run.value = (do (Plan.build (← Query.ofQuery c q)).run.value) := by
  have htext : Query.ofText c text = Query.ofQuery c q := by
    rw [Query.ofText, h]
    rfl
  cases hq : Query.ofQuery c q with
  | error e => exact planText_of_error (htext.trans hq)
  | ok r => exact (planText_of_ok (htext.trans hq)).trans (Plan.ofQuery_value_eq r)

/-- A query and the folded query are planned alike. -/
theorem agree_folded (c : Catalog.Store) (q : Sql.Query) :
    Agree Eq (do (Plan.build (← Query.ofQuery c q.folded)).run.value)
      (do (Plan.build (← Query.ofQuery c q)).run.value) := by
  refine (Query.ofQuery_folded c q).bind fun r r' h => ?_
  have hplain := Plan.build_plain r
  rw [h] at hplain
  exact hplain.symm.trans (Plan.build_plain r')

/-- **Names have no case.**  If two texts are queries that differ only in the case of the letters of
the names they refer to, both have the same program, or both are refused with one code. -/
theorem names_have_no_case (c : Catalog.Store) {text text' shown shown' : String}
    {q q' : Sql.Query} (h : statements text = .ok [.query q shown])
    (h' : statements text' = .ok [.query q' shown']) (hcase : q.folded = q'.folded) :
    (∃ p, (planText c text).run.value = .ok p ∧ (planText c text').run.value = .ok p) ∨
      ∃ e e', (planText c text).run.value = .error e ∧ (planText c text').run.value = .error e' ∧
        e.code = e'.code := by
  have hq := agree_folded c q
  rw [hcase] at hq
  have hagree := hq.symm.trans (agree_folded c q')
  rw [← planText_value_eq c h, ← planText_value_eq c h'] at hagree
  exact hagree.cases_eq

/-- A query for the highest temperatures by humidity, with each name that it refers to as given. -/
def peaks (table s hum max temp h max' s' temp' : String) : Sql.Query where
  named := false
  body := .select {
    distinct := false
    items := [
      .expr (.path [⟨s, none⟩, ⟨hum, none⟩]) (some ⟨"H", none⟩),
      .expr (.call { name := [⟨max, none⟩] } (.ident ⟨temp, none⟩)) none]
    sources := [⟨.table [⟨table, none⟩] (some ⟨"s", none⟩), []⟩]
    selection := none
    grouping := .exprs [.ident ⟨h, none⟩]
    having := some (.binary (.compare .gt)
      (.call { name := [⟨max', none⟩] } (.path [⟨s', none⟩, ⟨temp', none⟩]))
      (.number "5" false)) }
  orderBy := []
  limited := false

/-- The query in one spelling. -/
def peaksText : String :=
  "SELECT s.Hum AS H, Max(TEMP) FROM Samples AS s GROUP BY h HAVING MAX(S.temp) > 5"

/-- The query in another. -/
def peaksText' : String :=
  "SELECT S.hum AS H, MAX(temp) FROM SAMPLES AS s GROUP BY H HAVING max(s.Temp) > 5"

/-- The query that both stand for. -/
def peaksResolved : Query.Resolved :=
  { Query.Resolved.ofTable samples with
    aggregated := true
    groupBy := [.column 2]
    having := [.comparison .gt (.projected (.aggregate ⟨.max, some 1⟩)) (.literal (.integer 5))]
    projections := [
      { name := "H", label := some "H", kind := .column 2 },
      { name := "max_temp", kind := .aggregate ⟨.max, some 1⟩ }] }

theorem ofText_peaksText : Query.ofText samplesCatalog peaksText = .ok peaksResolved := by
  decide +kernel

theorem access_peaksResolved : Plan.Access.ofQuery peaksResolved
    = Plan.Access.ofFilters peaksResolved.hints [] := rfl

theorem planText_peaksText :
    ∃ p, (planText samplesCatalog peaksText).run.value = .ok p ∧ p.root = "havingOp" ∧
      p.output.map Plan.OutputColumn.name = ["H", "max_temp"] := by
  rw [planText_of_ok ofText_peaksText, Plan.ofQuery, Plan.build, access_peaksResolved,
    Plan.Access.ofFilters, Plan.Access.candidates_of_pairwise (by decide)]
  exact ⟨_, rfl, rfl, rfl⟩

/-- Both spellings have one program. -/
theorem names_have_no_case_peaks :
    statements peaksText =
        .ok [.query (peaks "Samples" "s" "Hum" "Max" "TEMP" "h" "MAX" "S" "temp") peaksText] ∧
      statements peaksText' =
        .ok [.query (peaks "SAMPLES" "S" "hum" "MAX" "temp" "H" "max" "s" "Temp") peaksText'] ∧
      ∃ p, (planText samplesCatalog peaksText).run.value = .ok p ∧
        (planText samplesCatalog peaksText').run.value = .ok p ∧ p.root = "havingOp" ∧
        p.output.map Plan.OutputColumn.name = ["H", "max_temp"] := by
  have h : statements peaksText =
      .ok [.query (peaks "Samples" "s" "Hum" "Max" "TEMP" "h" "MAX" "S" "temp") peaksText] := by
    decide +kernel
  have h' : statements peaksText' =
      .ok [.query (peaks "SAMPLES" "S" "hum" "MAX" "temp" "H" "max" "s" "Temp") peaksText'] := by
    decide +kernel
  refine ⟨h, h', ?_⟩
  obtain ⟨p, hp, hroot, hnames⟩ := planText_peaksText
  rcases names_have_no_case samplesCatalog h h' (by decide +kernel) with
    ⟨q, hq, hq'⟩ | ⟨e, -, he, -⟩
  · cases hp.symm.trans hq
    exact ⟨p, hp, hq', hroot, hnames⟩
  · rw [hp] at he
    cases he

end SqlPipeline
