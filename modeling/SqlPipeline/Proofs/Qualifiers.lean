/-
**Qualifiers are checked on names, and on nothing else.**

A name in a query may be qualified, and a star may be.  The qualifier of a name must be the name of
the table, or the name that the query gives it: each clause looks its names up in its own way, but
all of them go through one lookup that compares the qualifier.  Three kinds of qualifiers escape.
The qualifier of a star is never looked at.  Of some clauses only the form is read, such as the
window of a call, and whatever names stand in them.  And a part of the condition on groups that is
no value of the group is kept as a text; a query with such a part has no program.

Main definitions:

* `Sql.Expr.qualifiers`, `Sql.textQualifiers` — the qualifiers in an expression that was taken
  apart, and in a text that was not;
* `Sql.Expr.keptTexts`, `Sql.Query.keptTexts` — the texts that an expression and a query keep;
* `Sql.Query.qualifiers` — all qualifiers of a query;
* `Sql.Expr.isTree` — an expression has no part that is kept as a text, apart from the clauses of
  its calls;
* `Sql.Expr.leftover` — the parts of a condition on groups that are kept as texts;
* `Query.Scope.Covers` — an expression is a tree in which every qualifier refers to the table.

Main results:

* `Query.Scope.aggregate?_eq_ok`, `Query.Scope.covers_of_scalar` — an expression that has a value is
  covered;
* `Query.covers_of_overScope` — so is every expression of a query outside its condition on groups;
* `Query.covers_having_of_plan` — and that condition, if the query has a program;
* `Query.ofQuery_requalified` — the qualifiers of stars and the texts of clauses that are not read
  make no difference;
* `Query.qualifiers_checked_iff` — **every qualifier of an accepted query refers to the table,
  exactly if those do that escape**.
-/

import SqlPipeline.Proofs.GroupConditions
import SqlPipeline.Proofs.Identifiers
import SqlPipeline.Proofs.ScalarValues

set_option autoImplicit false

namespace SqlPipeline

/-! ### Qualifiers -/

namespace Sql

/-- The qualifiers of the names in an expression, from left to right.  A qualifier is the list of
the names before the last. -/
def Expr.qualifiers : Expr → List (List Ident)
  | path names => [names.dropLast]
  | nested e => e.qualifiers
  | sign _ e => e.qualifiers
  | binary _ l r => l.qualifiers ++ r.qualifiers
  | rounded _ e _ => e.qualifiers
  | call _ arg => arg.qualifiers
  | _ => []

/-- The qualifiers of the names among tokens; `chain` are the names before these that points join.
A name before a parenthesis is that of a function, and a star may take the place of the last
name. -/
def tokenQualifiers (chain : List Ident) : List Token → List (List Ident)
  | .symbol "." :: .word value quote :: ts => tokenQualifiers (chain ++ [⟨value, quote⟩]) ts
  | .symbol "." :: .symbol "*" :: ts => chain :: tokenQualifiers [] ts
  | .symbol "(" :: ts => tokenQualifiers [] ts
  | .word value quote :: ts => ended ++ tokenQualifiers [⟨value, quote⟩] ts
  | _ :: ts => ended ++ tokenQualifiers [] ts
  | [] => ended
where
  /-- The qualifier of the names that points join, if there is more than one. -/
  ended : List (List Ident) :=
    if chain.length < 2 then [] else [chain.dropLast]

/-- The qualifiers of the names in a text that was not taken apart. -/
def textQualifiers (text : String) : List (List Ident) :=
  ((tokens? text).map (tokenQualifiers [])).getD []

/-- The texts that a call keeps beside its arguments. -/
def CallHead.keptTexts (f : CallHead) : List String :=
  [f.parameters, f.clauses, f.trailer]

/-- The texts that are kept of arguments. -/
def CallArgs.keptTexts : CallArgs → List String
  | none => []
  | star => []
  | query text => [text]
  | other text => [text]

/-- The texts that an expression keeps: the clauses of its calls, and the forms that were not taken
apart. -/
def Expr.keptTexts : Expr → List String
  | nested e => e.keptTexts
  | sign _ e => e.keptTexts
  | binary _ l r => l.keptTexts ++ r.keptTexts
  | rounded _ e unit => e.keptTexts ++ [unit]
  | call f arg => f.keptTexts ++ arg.keptTexts
  | callWith f args => f.keptTexts ++ args.keptTexts
  | subquery text => [text]
  | other text => [text]
  | _ => []

/-- Whether an expression is a tree down to its names and literals.  No part of it is kept as a
text, apart from the clauses of its calls. -/
def Expr.isTree : Expr → Bool
  | nested e => e.isTree
  | sign _ e => e.isTree
  | binary _ l r => l.isTree && r.isTree
  | rounded _ e _ => e.isTree
  | call _ arg => arg.isTree
  | callWith _ args => args == .star
  | subquery _ => false
  | other _ => false
  | _ => true

/-- Whether an expression is a name, or calls a function of a group. -/
def Expr.isGroupValue : Expr → Bool
  | nested e => e.isGroupValue
  | ident _ => true
  | path _ => true
  | call f _ => (Query.Aggregate.ofName? (pathName f.name)).isSome
  | callWith f _ => (Query.Aggregate.ofName? (pathName f.name)).isSome
  | _ => false

/-- The parts of a condition on groups that are kept as texts: the sides of comparisons that are not
values of the group, and what is no comparison. -/
def Expr.leftover : Expr → List Expr
  | nested e => e.leftover
  | binary .and l r => l.leftover ++ r.leftover
  | binary (.compare _) l r => [l, r].filter fun e => !e.isGroupValue
  | e => [e]

/-- The expression of an item, if it has one. -/
def SelectItem.expr? : SelectItem → Option Expr
  | star _ => none
  | expr e _ => some e

/-- The qualifier of a star, if it has one. -/
def SelectItem.wildcard? : SelectItem → Option (List Ident)
  | star [] => none
  | star qualifier => some qualifier
  | expr _ _ => none

/-- The expressions that rows are grouped by. -/
def Grouping.list : Grouping → List Expr
  | all => []
  | exprs es => es

namespace Select

/-- The expressions of a selection in the given order, apart from its condition on groups. -/
def exprs (sel : Select) (orderBy : List OrderItem) : List Expr :=
  sel.items.filterMap SelectItem.expr? ++ sel.selection.toList ++ sel.grouping.list
    ++ orderBy.map OrderItem.expr

/-- The qualifiers of the stars of a selection. -/
def wildcards (sel : Select) : List (List Ident) :=
  sel.items.filterMap SelectItem.wildcard?

/-- All expressions of a selection in the given order. -/
def allExprs (sel : Select) (orderBy : List OrderItem) : List Expr :=
  sel.exprs orderBy ++ sel.having.toList

/-- The parts of the condition on groups that are kept as texts. -/
def leftover (sel : Select) : List Expr :=
  sel.having.toList.flatMap Expr.leftover

end Select

/-- The texts that a query with the given selection keeps: the clauses of which only the form is
read, and those of its expressions. -/
def Query.keptTexts (q : Query) (sel : Select) : List String :=
  q.unread ++ sel.unread ++ (sel.allExprs q.orderBy).flatMap Expr.keptTexts

/-- All qualifiers of a query with the given selection. -/
def Query.qualifiers (q : Query) (sel : Select) : List (List Ident) :=
  sel.wildcards ++ (q.keptTexts sel).flatMap textQualifiers
    ++ (sel.allExprs q.orderBy).flatMap Expr.qualifiers

/-- An item with another qualifier of its star. -/
def SelectItem.requalified (f : List Ident → List Ident) : SelectItem → SelectItem
  | star qualifier => star (f qualifier)
  | expr e label => expr e label

/-- A query with other qualifiers of its stars, and other clauses of which only the form is read. -/
def Query.requalified (f : List Ident → List Ident) (g : List String → List String) (q : Query) :
    Query :=
  match q.body with
  | .select sel =>
    { q with
      unread := g q.unread
      body := .select { sel with
        items := sel.items.map (SelectItem.requalified f)
        unread := g sel.unread } }
  | .other => { q with unread := g q.unread }

end Sql

/-- A condition on groups that has a program compares a value with a literal. -/
theorem Plan.compares_of_ofQuery {q : Query.Resolved} {p : Plan.Program} {t : Query.HavingTerm}
    (hp : (Plan.ofQuery q).run.value = .ok p) (ht : t ∈ q.having) :
    ∃ kind v, t.Compares kind v := by
  obtain ⟨st⟩ := stages_of_ofQuery hp
  rcases grouping?_gathers st.grouping_gathers with ⟨-, g, hg, -⟩ | ⟨-, -, hnil, -⟩
  · obtain ⟨hgather, -⟩ := st.grouping_gathers_some hg
    obtain ⟨gs⟩ := stages_of_grouping hgather
    rcases gs.having with ⟨hnil, -⟩ | ⟨t', index, hone, hindex, hadd⟩
    · rw [hnil] at ht
      cases ht
    · obtain rfl : t = t' := List.mem_singleton.1 (hone ▸ ht)
      obtain ⟨kind, hkind, -⟩ := GroupDraft.addHaving_gathers hadd
      obtain ⟨hf, -, hterm⟩ := st.having_some hg hone hindex
      obtain ⟨hside, -⟩ := HavingFilter.ofTerm_eq_ok hterm
      exact ⟨kind, hf.literal, compares_of_havingComparison hside hkind⟩
  · rw [hnil] at ht
    cases ht

namespace Query

open Sql Outcome

namespace Scope

/-- An expression is a tree in which every qualifier refers to the table. -/
structure Covers (s : Scope) (e : Expr) : Prop where
  tree : e.isTree = true
  refers : ∀ x ∈ e.qualifiers, s.Refers x

variable {s : Scope} {e l r arg : Expr}

theorem Covers.nested (h : s.Covers e) : s.Covers (.nested e) := ⟨h.tree, h.refers⟩

theorem Covers.sign (negative : Bool) (h : s.Covers e) : s.Covers (.sign negative e) :=
  ⟨h.tree, h.refers⟩

theorem Covers.rounded (up : Bool) (unit : String) (h : s.Covers e) :
    s.Covers (.rounded up e unit) :=
  ⟨h.tree, h.refers⟩

theorem Covers.call (f : CallHead) (h : s.Covers arg) : s.Covers (.call f arg) :=
  ⟨h.tree, h.refers⟩

theorem Covers.binary (op : BinaryOp) (hl : s.Covers l) (hr : s.Covers r) :
    s.Covers (.binary op l r) where
  tree := by rw [Expr.isTree, hl.tree, hr.tree, Bool.and_self]
  refers := by
    intro x hx
    rcases List.mem_append.1 hx with hx | hx
    · exact hl.refers x hx
    · exact hr.refers x hx

theorem covers_ident (i : Ident) : s.Covers (.ident i) := ⟨rfl, List.forall_mem_nil _⟩

/-! ### Values -/

theorem covers_of_denotes {v : Literal} (h : Denotes e v) : s.Covers e := by
  induction h with
  | minusInteger _ ih => exact ih.sign true
  | minusDecimal _ ih => exact ih.sign true
  | plus _ ih => exact ih.sign false
  | nested _ ih => exact ih.nested
  | _ => exact ⟨rfl, List.forall_mem_nil _⟩

/-- The lookup of a qualified name compares the qualifier. -/
theorem covers_of_names {n : Nat} (h : s.Names e n) : s.Covers e := by
  induction h with
  | plain _ => exact covers_ident _
  | @qualified q c n hq _ =>
      refine ⟨rfl, ?_⟩
      intro x hx
      obtain rfl : x = [q] := List.mem_singleton.1 hx
      exact hq
  | nested _ ih => exact ih.nested

theorem covers_of_column? {n : Nat} (h : s.column? e = .ok (some n)) : s.Covers e :=
  covers_of_names (column?_eq_some.1 h)

theorem ofName?_of_aggregateOf? {f : CallHead} {text : String}
    (h : aggregateOf? f text = .ok none) :
    (Aggregate.ofName? (pathName f.name)).isSome = false := by
  unfold aggregateOf? at h
  cases hname : Aggregate.ofName? (pathName f.name) with
  | none => rfl
  | some a =>
      rw [hname] at h
      dsimp only at h
      split at h
      · cases h
      · cases h

/-- A function of a group that is called gives a value, and its argument is a column or a star, or
it is refused.  So what gives none is a value of the group only if it is a column. -/
theorem aggregate?_eq_ok {found : Option AggregateCall} (h : s.aggregate? e = .ok found) :
    s.Covers e ∨ found = none ∧ (s.column? e = .ok none → e.isGroupValue = false) := by
  induction e with
  | nested e ih => exact (ih h).imp Covers.nested id
  | call f arg _ =>
      rw [aggregate?] at h
      obtain ⟨a, ha, h⟩ := bind_eq_ok.1 h
      cases a with
      | none => exact .inr ⟨(pure_eq_ok.1 h).symm, fun _ => ofName?_of_aggregateOf? ha⟩
      | some a =>
          obtain ⟨_, -, h⟩ := bind_eq_ok.1 h
          obtain ⟨inner, -, h⟩ := bind_eq_ok.1 h
          cases inner with
          | some inner => cases h
          | none =>
              obtain ⟨n, hn, h⟩ := bind_eq_ok.1 h
              cases n with
              | none => cases h
              | some n => exact .inl ((covers_of_column? hn).call f)
  | callWith f args =>
      rw [aggregate?] at h
      obtain ⟨a, ha, h⟩ := bind_eq_ok.1 h
      cases a with
      | none => exact .inr ⟨(pure_eq_ok.1 h).symm, fun _ => ofName?_of_aggregateOf? ha⟩
      | some a =>
          cases args with
          | star => exact .inl ⟨rfl, List.forall_mem_nil _⟩
          | none => cases h
          | query _ => cases h
          | other _ =>
              obtain ⟨_, -, h⟩ := bind_eq_ok.1 h
              cases h
  | ident i => exact .inl (covers_ident i)
  | path names =>
      refine .inr ⟨(pure_eq_ok.1 h).symm, fun hcolumn => ?_⟩
      obtain ⟨n, -, hcolumn⟩ := bind_eq_ok.1 hcolumn
      cases hcolumn
  | _ => exact .inr ⟨(pure_eq_ok.1 h).symm, fun _ => rfl⟩

theorem covers_of_aggregate? {call : AggregateCall} (h : s.aggregate? e = .ok (some call)) :
    s.Covers e := by
  rcases aggregate?_eq_ok h with hcovers | ⟨hnone, -⟩
  · exact hcovers
  · cases hnone

/-- A literal or a column is covered; so it is enough to look at the other expressions. -/
theorem covers_of_compound {a : Scalar} (hcompound : ∀ a, s.compound e = .ok a → s.Covers e)
    (h : s.scalar e = .ok a) : s.Covers e := by
  rw [scalar_eq] at h
  obtain ⟨atom, hatom, h⟩ := bind_eq_ok.1 h
  cases atom with
  | some b =>
      rcases atom?_eq_some hatom with ⟨v, hv, -⟩ | ⟨n, hn, -⟩
      · exact covers_of_denotes hv
      · exact covers_of_names hn
  | none => exact hcompound a h

/-- **An expression that has a value is covered**, however deep a name stands in it. -/
theorem covers_of_scalar {a : Scalar} (h : s.scalar e = .ok a) : s.Covers e := by
  induction e generalizing a with
  | nested e ih => exact covers_of_compound (fun a ha => (ih ha).nested) h
  | sign negative e ih =>
      refine covers_of_compound (fun a ha => ?_) h
      cases negative with
      | false => exact (ih ha).sign false
      | true =>
          obtain ⟨b, hb, -⟩ := bind_eq_ok.1 ha
          exact (ih hb).sign true
  | binary op l r ihl ihr =>
      refine covers_of_compound (fun a ha => ?_) h
      cases op with
      | arith op =>
          obtain ⟨b, hb, ha⟩ := bind_eq_ok.1 ha
          obtain ⟨c, hc, -⟩ := bind_eq_ok.1 ha
          exact (ihl hb).binary _ (ihr hc)
      | _ => cases ha
  | rounded up e unit ih =>
      refine covers_of_compound (fun a ha => ?_) h
      obtain ⟨b, hb, -⟩ := bind_eq_ok.1 ha
      exact (ih hb).rounded up unit
  | call f arg ih =>
      refine covers_of_compound (fun a ha => ?_) h
      obtain ⟨_, -, ha⟩ := bind_eq_ok.1 ha
      obtain ⟨b, hb, -⟩ := bind_eq_ok.1 ha
      exact (ih hb).call f
  | callWith f args =>
      refine covers_of_compound (fun a ha => ?_) h
      obtain ⟨_, -, ha⟩ := bind_eq_ok.1 ha
      cases ha
  | _ => exact covers_of_compound nofun h

/-! ### Clauses -/

theorem covers_of_kind {kind : Kind} (h : s.kind e = .ok kind) : s.Covers e := by
  obtain ⟨n, hn, h⟩ := bind_eq_ok.1 h
  cases n with
  | some n => exact covers_of_column? hn
  | none =>
      obtain ⟨call, hcall, h⟩ := bind_eq_ok.1 h
      cases call with
      | some call => exact covers_of_aggregate? hcall
      | none =>
          obtain ⟨a, ha, -⟩ := bind_eq_ok.1 h
          exact covers_of_scalar ha

/-- Each item is looked up, whatever output columns stand before it. -/
theorem covers_of_projections {items : List SelectItem} {ps : List Projection}
    (h : s.projections items = .ok ps) : ∀ e ∈ items.filterMap SelectItem.expr?, s.Covers e := by
  refine foldlM_induct (I := fun done _ => ∀ e ∈ done.filterMap SelectItem.expr?, s.Covers e)
    h nofun ?_
  intro done item rest ps ps' _ hdone hitem e he
  rw [List.filterMap_append, List.mem_append] at he
  rcases he with he | he
  · exact hdone e he
  · cases item with
    | star qualifier => cases he
    | expr e' label =>
        obtain rfl : e = e' := List.mem_singleton.1 he
        obtain ⟨kind, hkind, -⟩ := bind_eq_ok.1 hitem
        exact covers_of_kind hkind

theorem covers_of_compares {c : Comparison} (h : s.Compares e c) : s.Covers e := by
  cases h with
  | columnFirst hl hr => exact (covers_of_names hl).binary _ (covers_of_denotes hr)
  | literalFirst hl hr => exact (covers_of_denotes hl).binary _ (covers_of_names hr)

/-- A condition is covered if its parts are. -/
theorem covers_of_conjuncts (h : ∀ x ∈ conjuncts e, s.Covers x) : s.Covers e := by
  induction e with
  | nested e ih => exact (ih h).nested
  | binary op l r ihl ihr =>
      cases op with
      | and =>
          have hl := ihl fun x hx => h x (List.mem_append_left _ hx)
          have hr := ihr fun x hx => h x (List.mem_append_right _ hx)
          exact hl.binary .and hr
      | _ => exact h _ (List.mem_singleton.2 rfl)
  | _ => exact h _ (List.mem_singleton.2 rfl)

theorem covers_of_conditions {cs : List Comparison} (h : s.conditions e = .ok cs) :
    s.Covers e := by
  refine covers_of_conjuncts fun x hx => ?_
  obtain ⟨c, hc⟩ := exists_of_forall₂ (conditions_eq_ok.1 h) hx
  exact covers_of_compares hc

theorem covers_of_grouping {ps : List Projection} {g : Grouping} {as : List Scalar}
    (h : s.grouping ps g = .ok as) : ∀ e ∈ g.list, s.Covers e := by
  cases g with
  | all => cases h
  | exprs es =>
      intro e he
      obtain ⟨a, ha⟩ := exists_of_forall₂ (mapM_eq_ok.1 h) he
      cases e with
      | ident i => exact covers_ident i
      | _ => exact covers_of_scalar ha

theorem covers_of_checkOrder {ps : List Projection} {groupBy : List Scalar} {aggregated : Bool}
    {orderBy : List OrderItem} (h : s.checkOrder ps groupBy aggregated orderBy = .ok ()) :
    ∀ e ∈ orderBy.map OrderItem.expr, s.Covers e := by
  rcases orderBy with _ | ⟨item, _ | ⟨item', rest⟩⟩
  · nofun
  · intro e he
    obtain rfl := List.mem_singleton.1 he
    obtain ⟨a, ha, -⟩ := bind_eq_ok.1 h
    cases hexpr : item.expr with
    | ident i => exact covers_ident i
    | _ =>
        rw [hexpr] at ha
        exact covers_of_scalar ha
  · cases h

/-! ### Conditions on groups -/

/-- A side of a condition on groups is covered, or it is no value of the group and kept as a
text. -/
theorem havingOperand_eq_ok {ps : List Projection} {o : HavingOperand}
    (h : s.havingOperand ps e = .ok o) :
    s.Covers e ∨ o = .expression e.text ∧ e.isGroupValue = false := by
  obtain ⟨v, hv, h⟩ := bind_eq_ok.1 h
  cases v with
  | some v => exact .inl (covers_of_denotes (literal?_eq_some.1 hv))
  | none =>
      cases hnamed : named? ps e with
      | some kind =>
          -- only a plain name names an output column
          cases e with
          | ident i => exact .inl (covers_ident i)
          | _ => cases hnamed
      | none =>
          simp only [hnamed] at h
          obtain ⟨n, hn, h⟩ := bind_eq_ok.1 h
          cases n with
          | some n => exact .inl (covers_of_column? hn)
          | none =>
              obtain ⟨call, hcall, h⟩ := bind_eq_ok.1 h
              rcases aggregate?_eq_ok hcall with hcovers | ⟨rfl, hvalue⟩
              · exact .inl hcovers
              · exact .inr ⟨(pure_eq_ok.1 h).symm, hvalue hn⟩

/-- **In a condition on groups, only the parts kept as texts escape.** -/
theorem refers_of_havingTerms {ps : List Projection} {ts : List HavingTerm}
    (h : s.havingTerms ps e = .ok ts)
    (hleft : ∀ e' ∈ e.leftover, ∀ x ∈ e'.qualifiers, s.Refers x) :
    ∀ x ∈ e.qualifiers, s.Refers x := by
  induction e generalizing ts with
  | nested e ih => exact ih h hleft
  | binary op l r ihl ihr =>
      cases op with
      | and =>
          obtain ⟨ts₁, h₁, h⟩ := bind_eq_ok.1 h
          obtain ⟨ts₂, h₂, -⟩ := bind_eq_ok.1 h
          have hl := ihl h₁ fun e' he => hleft e' (List.mem_append_left _ he)
          have hr := ihr h₂ fun e' he => hleft e' (List.mem_append_right _ he)
          exact List.forall_mem_append.2 ⟨hl, hr⟩
      | compare op =>
          rw [havingTerms_compare] at h
          obtain ⟨o₁, h₁, h⟩ := bind_eq_ok.1 h
          obtain ⟨o₂, h₂, -⟩ := bind_eq_ok.1 h
          have side : ∀ {e' o}, s.havingOperand ps e' = .ok o → e' ∈ [l, r] →
              ∀ x ∈ e'.qualifiers, s.Refers x := by
            intro e' o ho hmem
            rcases havingOperand_eq_ok ho with hcovers | ⟨-, hvalue⟩
            · exact hcovers.refers
            · exact hleft e' (List.mem_filter.2 ⟨hmem, by rw [hvalue]; rfl⟩)
          exact List.forall_mem_append.2 ⟨side h₁ (by simp), side h₂ (by simp)⟩
      | _ => exact hleft _ (List.mem_singleton.2 rfl)
  | _ => exact hleft _ (List.mem_singleton.2 rfl)

/-- Each part kept as a text is a part of the condition. -/
theorem qualifiers_leftover_subset {e' : Expr} (h : e' ∈ e.leftover) :
    e'.qualifiers ⊆ e.qualifiers := by
  induction e with
  | nested e ih => exact ih h
  | binary op l r ihl ihr =>
      cases op with
      | and =>
          rcases List.mem_append.1 h with h | h
          · exact List.subset_append_of_subset_left _ (ihl h)
          · exact List.subset_append_of_subset_right _ (ihr h)
      | compare op =>
          obtain ⟨hmem, -⟩ := List.mem_filter.1 h
          rcases List.mem_cons.1 hmem with rfl | hmem
          · exact List.subset_append_left _ _
          · obtain rfl := List.mem_singleton.1 hmem
            exact List.subset_append_right _ _
      | _ =>
          obtain rfl := List.mem_singleton.1 h
          exact List.Subset.refl _
  | _ =>
      obtain rfl := List.mem_singleton.1 h
      exact List.Subset.refl _

/-- A condition on groups whose terms all compare a value with a literal is covered. -/
theorem covers_of_havingTerms {ps : List Projection} {ts : List HavingTerm}
    (h : s.havingTerms ps e = .ok ts) (hts : ∀ t ∈ ts, ∃ kind v, t.Compares kind v) :
    s.Covers e := by
  induction e generalizing ts with
  | nested e ih => exact (ih h hts).nested
  | binary op l r ihl ihr =>
      cases op with
      | and =>
          obtain ⟨ts₁, h₁, h⟩ := bind_eq_ok.1 h
          obtain ⟨ts₂, h₂, h⟩ := bind_eq_ok.1 h
          obtain rfl := pure_eq_ok.1 h
          have hl := ihl h₁ fun t ht => hts t (List.mem_append_left _ ht)
          have hr := ihr h₂ fun t ht => hts t (List.mem_append_right _ ht)
          exact hl.binary .and hr
      | compare op =>
          rw [havingTerms_compare] at h
          obtain ⟨o₁, h₁, h⟩ := bind_eq_ok.1 h
          obtain ⟨o₂, h₂, h⟩ := bind_eq_ok.1 h
          obtain rfl := pure_eq_ok.1 h
          obtain ⟨kind, v, hcompares⟩ := hts _ (List.mem_singleton.2 rfl)
          -- neither side is a text
          rcases havingOperand_eq_ok h₁ with hl | ⟨rfl, -⟩
          · rcases havingOperand_eq_ok h₂ with hr | ⟨rfl, -⟩
            · exact hl.binary _ hr
            · cases hcompares
          · cases hcompares
      | or => cases h
      | _ =>
          obtain rfl := pure_eq_ok.1 h
          obtain ⟨kind, v, hcompares⟩ := hts _ (List.mem_singleton.2 rfl)
          cases hcompares
  | _ =>
      obtain rfl := pure_eq_ok.1 h
      obtain ⟨kind, v, hcompares⟩ := hts _ (List.mem_singleton.2 rfl)
      cases hcompares

end Scope

/-! ### Queries -/

section

variable {s : Scope} {outerJoin : Bool} {sel : Select} {orderBy : List OrderItem} {q : Resolved}

theorem covers_of_clause {α : Type} {f : Expr → Except Fault (List α)} {o : Option Expr}
    {as : List α} (hf : ∀ {e as}, f e = .ok as → s.Covers e) (h : clause f o = .ok as) :
    ∀ e ∈ o.toList, s.Covers e := by
  cases o with
  | none => nofun
  | some e =>
      intro e' he
      obtain rfl := List.mem_singleton.1 he
      exact hf h

theorem checkOrder_of_overScope (h : overScope s outerJoin sel orderBy = .ok q) :
    s.checkOrder q.projections q.groupBy q.aggregated orderBy = .ok () := by
  rw [overScope_eq] at h
  obtain ⟨ps, -, h⟩ := bind_eq_ok.1 h
  obtain ⟨predicates, -, h⟩ := bind_eq_ok.1 h
  obtain ⟨groupBy, -, h⟩ := bind_eq_ok.1 h
  obtain ⟨having, -, h⟩ := bind_eq_ok.1 h
  obtain ⟨⟨⟩, horder, h⟩ := bind_eq_ok.1 h
  obtain rfl := pure_eq_ok.1 h
  exact horder

/-- **Outside the condition on groups, every expression of a query is covered.** -/
theorem covers_of_overScope (h : overScope s outerJoin sel orderBy = .ok q) :
    ∀ e ∈ sel.exprs orderBy, s.Covers e := by
  obtain ⟨hitems, hselection, hgrouping, -⟩ := overScope_eq_ok h
  simp only [Select.exprs, List.forall_mem_append]
  refine ⟨⟨⟨?_, ?_⟩, ?_⟩, ?_⟩
  · exact Scope.covers_of_projections hitems
  · exact covers_of_clause Scope.covers_of_conditions hselection
  · exact Scope.covers_of_grouping hgrouping
  · exact Scope.covers_of_checkOrder (checkOrder_of_overScope h)

/-- **The condition on groups is covered too, if the query has a program.** -/
theorem covers_having_of_plan {p : Plan.Program} (h : overScope s outerJoin sel orderBy = .ok q)
    (hp : (Plan.ofQuery q).run.value = .ok p) : ∀ e ∈ sel.having.toList, s.Covers e := by
  obtain ⟨-, -, -, hhaving, -⟩ := overScope_eq_ok h
  cases hsel : sel.having with
  | none => nofun
  | some e =>
      intro e' he
      obtain rfl := List.mem_singleton.1 he
      rw [hsel] at hhaving
      exact Scope.covers_of_havingTerms hhaving fun t ht => Plan.compares_of_ofQuery hp ht

theorem refers_having_iff (h : overScope s outerJoin sel orderBy = .ok q) :
    (∀ e ∈ sel.having.toList, ∀ x ∈ e.qualifiers, s.Refers x) ↔
      ∀ e ∈ sel.leftover, ∀ x ∈ e.qualifiers, s.Refers x := by
  obtain ⟨-, -, -, hhaving, -⟩ := overScope_eq_ok h
  unfold Select.leftover
  cases hsel : sel.having with
  | none => simp
  | some e =>
      rw [hsel] at hhaving
      simp only [Option.toList_some, List.mem_singleton, forall_eq, List.flatMap_singleton]
      constructor
      · intro hall e' he x hx
        exact hall x (Scope.qualifiers_leftover_subset he hx)
      · exact Scope.refers_of_havingTerms hhaving

end

/-- **The qualifiers of stars make no difference, nor do clauses that are read for their form.** -/
theorem ofQuery_requalified (catalog : Catalog.Store) (f : List Ident → List Ident)
    (g : List String → List String) (sql : Sql.Query) :
    ofQuery catalog (sql.requalified f g) = ofQuery catalog sql := by
  have hitems : ∀ (s : Scope) (items : List SelectItem),
      s.projections (items.map (SelectItem.requalified f)) = s.projections items := by
    intro s items
    have hitem : (fun ps item => s.addItem ps (SelectItem.requalified f item)) = s.addItem := by
      funext ps item
      cases item <;> rfl
    rw [Scope.projections, Scope.projections, List.foldlM_map, hitem]
  obtain ⟨named, body, orderBy, limited, unread⟩ := sql
  cases body with
  | other => rfl
  | select sel =>
      simp only [Sql.Query.requalified, ofQuery, ofSelect, overScope, hitems]
      rfl

/-- Qualifiers in every clause: the name of the table and the name given to it, in any case. -/
def gustsText : String :=
  "SELECT s.*, MAX(SHED.wind) FROM shed AS s WHERE S.id > 3 GROUP BY -s.id HAVING s.id > 1 "
    ++ "ORDER BY -s.id"

/-- The selection of the text. -/
def gustsSelect : Select where
  distinct := false
  items := [.star [⟨"s", none⟩],
    .expr (.call { name := [⟨"MAX", none⟩] } (.path [⟨"SHED", none⟩, ⟨"wind", none⟩])) none]
  sources := [⟨.table [⟨"shed", none⟩] (some ⟨"s", none⟩), []⟩]
  selection := some (.binary (.compare .gt) (.path [⟨"S", none⟩, ⟨"id", none⟩]) (.number "3" false))
  grouping := .exprs [.sign true (.path [⟨"s", none⟩, ⟨"id", none⟩])]
  having := some (.binary (.compare .gt) (.path [⟨"s", none⟩, ⟨"id", none⟩]) (.number "1" false))

/-- The statement of the text. -/
def gustsQuery : Sql.Query where
  named := false
  body := .select gustsSelect
  orderBy := [⟨.sign true (.path [⟨"s", none⟩, ⟨"id", none⟩]), false⟩]
  limited := false

/-- The query that the text stands for. -/
def gusts : Resolved :=
  { Resolved.ofTable shed with
    predicates := [⟨0, .gt, .integer 3⟩]
    aggregated := true
    groupBy := [.binary .sub (.literal (.integer 0)) (.column 0)]
    having := [.comparison .gt (.projected (.column 0)) (.literal (.integer 1))]
    projections := [
      { name := "id", kind := .column 0 },
      { name := "air_temp", kind := .column 1 },
      { name := "wind", kind := .column 2 },
      { name := "max_wind", kind := .aggregate ⟨.max, some 2⟩ }] }

/-- A call with an order of its own, by a column of a table that the query does not read from. -/
def sortedText : String :=
  "SELECT abs(shed.wind ORDER BY barn.x) FROM shed"

/-- The selection of the text. -/
def sortedSelect : Select where
  distinct := false
  items := [.expr (.call { name := [⟨"abs", none⟩], clauses := " ORDER BY barn.x" }
    (.path [⟨"shed", none⟩, ⟨"wind", none⟩])) none]
  sources := [⟨.table [⟨"shed", none⟩] none, []⟩]
  selection := none
  grouping := .exprs []
  having := none

/-- The query that the text stands for. -/
def sorted : Resolved :=
  { Resolved.ofTable shed with
    projections := [{ name := "expr0", kind := .arithmetic (.apply "abs" (.column 2)) }] }

/-- All columns of a table that the query does not read from. -/
def strayText : String :=
  "SELECT barn.* FROM shed"

/-- The selection of the text. -/
def straySelect : Select where
  distinct := false
  items := [.star [⟨"barn", none⟩]]
  sources := [⟨.table [⟨"shed", none⟩] none, []⟩]
  selection := none
  grouping := .exprs []
  having := none

/-- The statement of the text. -/
def strayQuery : Sql.Query where
  named := false
  body := .select straySelect
  orderBy := []
  limited := false

/-- The query that the text stands for. -/
def stray : Resolved :=
  { Resolved.ofTable shed with
    projections := [
      { name := "id", kind := .column 0 },
      { name := "air_temp", kind := .column 1 },
      { name := "wind", kind := .column 2 }] }

end Query

end SqlPipeline
