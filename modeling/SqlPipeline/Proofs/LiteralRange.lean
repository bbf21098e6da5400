/-
**Integers that a query writes are in range, or the query is refused.**

A number without a point or an exponent is read as an integer if it is at most `2 ^ 63 - 1`, and
signs before it keep it within these bounds on both sides.  Any larger number is a fault of types.
Here both are carried from a single number to the clauses of a query: the comparisons of a query
with integers are in range, and a clause that compares with an integer out of range is refused for
it, if nothing before it is refused.

Main definitions:

* `Query.Literal.InRange`, `Query.Resolved.InRange` — an integer is in range, and all integers that
  a query compares with are;
* `Query.Exceeds` — an expression is an integer out of range;
* `Query.Scope.Overflows` — a selection compares with an integer out of range, and all that is read
  before is accepted.

Main results:

* `Query.inRange_of_denotes` — an integer with any signs before it is in range;
* `Query.ReadsParts.eq_error` — the first part of a condition that is refused decides;
* `Query.inRange_of_ofText` — **the integers of a query are in range**;
* `Query.overScope_of_overflows` — **an integer out of range is a fault of types**.
-/

import SqlPipeline.Proofs.Conditions
import SqlPipeline.Proofs.WellFormed

set_option autoImplicit false

namespace SqlPipeline.Query

open Sql Outcome

/-! ### Numbers -/

/-- An integer literal is in range, with either sign. -/
def Literal.InRange : Literal → Prop
  | .integer v => v.natAbs ≤ maxInteger
  | _ => True

/-- Signs keep an integer in range. -/
theorem inRange_of_denotes {e : Expr} {l : Literal} (h : Denotes e l) : l.InRange := by
  induction h with
  | integer _ hr => exact le_maxInteger.2 hr
  | decimal _ _ => trivial
  | string _ => trivial
  | minusInteger _ ih =>
      rw [Literal.InRange, Int.natAbs_neg]
      exact ih
  | minusDecimal _ _ => trivial
  | plus _ ih => exact ih
  | nested _ ih => exact ih

/-- An expression is an integer out of range, with signs before it and parentheses around it. -/
inductive Exceeds : Expr → Prop
  | number {text : String} {long : Bool} : ¬ IsDecimal text → 2 ^ 63 ≤ numeral text →
      Exceeds (.number text long)
  | sign {negative : Bool} {e : Expr} : Exceeds e → Exceeds (.sign negative e)
  | nested {e : Expr} : Exceeds e → Exceeds (.nested e)

/-- An integer out of range is a fault of types. -/
theorem literal?_of_exceeds {e : Expr} (h : Exceeds e) :
    ∃ text, literal? e = .error (.types (.integerRange text)) := by
  induction h with
  | @number text long hd hr =>
      have hlarge : ¬ digitsNumber text ≤ maxInteger := by
        rw [digitsNumber_eq_numeral, le_maxInteger]
        exact Nat.not_lt.2 hr
      refine ⟨text, ?_⟩
      rw [literal?, numberLiteral, if_neg (mt isDecimalText_iff.1 hd), if_neg hlarge]
      rfl
  | @sign negative _ _ ih =>
      obtain ⟨text, ih⟩ := ih
      refine ⟨text, ?_⟩
      cases negative with
      | false => exact ih
      | true =>
          rw [literal?, ih]
          rfl
  | nested _ ih => exact ih

theorem column?_of_exceeds {s : Scope} {e : Expr} (h : Exceeds e) : s.column? e = .ok none := by
  induction h with
  | nested _ ih => exact ih
  | _ => rfl

theorem isSubquery_of_exceeds {e : Expr} (h : Exceeds e) : e.isSubquery = false := by
  cases h <;> rfl

/-! ### Parts of a condition -/

/-- A reader of conditions reads the parts that `AND` joins one after the other. -/
structure ReadsParts {α : Type} (read : Expr → Except Fault (List α)) : Prop where
  nested : ∀ e, read (.nested e) = read e
  and : ∀ l r, read (.binary .and l r) = do return (← read l) ++ (← read r)

namespace ReadsParts

variable {α : Type} {read : Expr → Except Fault (List α)}

/-- What is read from a condition is what is read from its parts. -/
theorem eq_mapM (h : ReadsParts read) (e : Expr) :
    read e = List.flatten <$> (conjuncts e).mapM read := by
  -- a part that is no conjunction stands alone in the list of parts
  have part : ∀ e, conjuncts e = [e] → read e = List.flatten <$> (conjuncts e).mapM read := by
    intro e he
    rw [he, List.mapM_cons, List.mapM_nil]
    cases read e with
    | ok as => exact congrArg Except.ok (List.append_nil as).symm
    | error f => rfl
  induction e with
  | nested e ih =>
      rw [h.nested, ih]
      rfl
  | binary op l r ihl ihr =>
      cases op with
      | and =>
          rw [h.and, conjuncts, List.mapM_append, ihl, ihr]
          cases (conjuncts l).mapM read with
          | error f => rfl
          | ok as =>
              cases (conjuncts r).mapM read with
              | error f => rfl
              | ok bs => exact congrArg Except.ok List.flatten_append.symm
      | _ => exact part _ rfl
  | _ => exact part _ rfl

/-- The first part that is refused decides. -/
theorem eq_error (h : ReadsParts read) {e x : Expr} {done rest : List Expr} {f : Fault}
    (he : conjuncts e = done ++ x :: rest) (hdone : ∀ y ∈ done, ∃ as, read y = .ok as)
    (hx : read x = .error f) : read e = .error f := by
  have hrun : (done ++ x :: rest).mapM read = .error f := by
    clear he
    induction done with
    | nil =>
        rw [List.nil_append, List.mapM_cons, hx]
        rfl
    | cons y done ih =>
        obtain ⟨⟨as, has⟩, hdone⟩ := List.forall_mem_cons.1 hdone
        rw [List.cons_append, List.mapM_cons, has]
        show (do let bs ← (done ++ x :: rest).mapM read; pure (as :: bs)) = _
        rw [ih hdone]
        rfl
  rw [h.eq_mapM, he, hrun]
  rfl

end ReadsParts

namespace Scope

variable {s : Scope} {ps : List Projection}

theorem readsParts_conditions (s : Scope) : ReadsParts s.conditions :=
  ⟨fun _ => rfl, fun _ _ => rfl⟩

theorem readsParts_havingTerms (s : Scope) (ps : List Projection) :
    ReadsParts (s.havingTerms ps) :=
  ⟨fun _ => rfl, fun _ _ => rfl⟩

/-! ### Comparisons out of range -/

/-- A column compared with an integer out of range is a fault of types. -/
theorem conditions_of_exceeds {op : Comparator} {l r : Expr} {n : Nat}
    (h : s.Names l n ∧ Exceeds r ∨ Exceeds l ∧ s.Names r n) :
    ∃ text, s.conditions (.binary (.compare op) l r) = .error (.types (.integerRange text)) := by
  rcases h with ⟨hl, hr⟩ | ⟨hl, hr⟩
  · obtain ⟨text, htext⟩ := literal?_of_exceeds hr
    refine ⟨text, ?_⟩
    simp only [conditions_compare, comparison, isSubquery_of_names hl, isSubquery_of_exceeds hr,
      column?_eq_some.2 hl, htext]
    rfl
  · obtain ⟨text, htext⟩ := literal?_of_exceeds hl
    refine ⟨text, ?_⟩
    simp only [conditions_compare, comparison, isSubquery_of_exceeds hl, isSubquery_of_names hr,
      column?_of_exceeds hl, literal?_of_names hr, htext]
    rfl

theorem havingOperand_of_exceeds {e : Expr} (h : Exceeds e) :
    ∃ text, s.havingOperand ps e = .error (.types (.integerRange text)) := by
  obtain ⟨text, htext⟩ := literal?_of_exceeds h
  refine ⟨text, ?_⟩
  rw [havingOperand, htext]
  rfl

theorem havingTerms_of_exceeds {op : Comparator} {l r : Expr}
    (h : Exceeds l ∨ (∃ operand, s.havingOperand ps l = .ok operand) ∧ Exceeds r) :
    ∃ text, s.havingTerms ps (.binary (.compare op) l r)
      = .error (.types (.integerRange text)) := by
  rcases h with hl | ⟨⟨operand, hl⟩, hr⟩
  · obtain ⟨text, htext⟩ := havingOperand_of_exceeds hl
    refine ⟨text, ?_⟩
    rw [havingTerms_compare, htext]
    rfl
  · obtain ⟨text, htext⟩ := havingOperand_of_exceeds hr
    refine ⟨text, ?_⟩
    rw [havingTerms_compare, hl, htext]
    rfl

/-- A selection compares with an integer out of range, in its condition on records or in that on
groups, and all that is read before this comparison is accepted. -/
inductive Overflows (s : Scope) (sel : Select) : Prop
  | selection {ps : List Projection} {e l r : Expr} {op : Comparator} {n : Nat}
      {done rest : List Expr} :
      s.projections sel.items = .ok ps → sel.selection = some e →
      conjuncts e = done ++ .binary (.compare op) l r :: rest →
      (∀ x ∈ done, ∃ c, s.Compares x c) →
      (s.Names l n ∧ Exceeds r ∨ Exceeds l ∧ s.Names r n) → Overflows s sel
  | having {ps : List Projection} {cs : List Comparison} {es : List Scalar} {e l r : Expr}
      {op : Comparator} {done rest : List Expr} :
      s.projections sel.items = .ok ps → clause s.conditions sel.selection = .ok cs →
      s.grouping ps sel.grouping = .ok es → sel.having = some e →
      conjuncts e = done ++ .binary (.compare op) l r :: rest →
      (∀ x ∈ done, ∃ terms, s.havingTerms ps x = .ok terms) →
      (Exceeds l ∨ (∃ operand, s.havingOperand ps l = .ok operand) ∧ Exceeds r) →
      Overflows s sel

/-- A part of a condition that makes a comparison is accepted. -/
theorem conditions_of_compares {x : Expr} {c : Comparison} (h : s.Compares x c) :
    s.conditions x = .ok [c] := by
  have hpart : conjuncts x = [x] := by cases h <;> rfl
  rw [conditions_eq_ok, hpart]
  exact .cons h .nil

end Scope

/-- An integer out of range is a fault of types. -/
theorem overScope_of_overflows {s : Scope} {sel : Select} (h : s.Overflows sel) (outerJoin : Bool)
    (orderBy : List OrderItem) :
    ∃ text, overScope s outerJoin sel orderBy = .error (.types (.integerRange text)) := by
  rw [overScope_eq]
  cases h with
  | selection hps hsel hparts hdone hx =>
      obtain ⟨text, hx⟩ := Scope.conditions_of_exceeds hx
      have hcs := s.readsParts_conditions.eq_error hparts
        (fun y hy => (hdone y hy).elim fun c hc => ⟨[c], Scope.conditions_of_compares hc⟩) hx
      refine ⟨text, ?_⟩
      rw [hps, hsel, clause, hcs]
      rfl
  | @having ps cs es e l r op done rest hps hcs hes hhaving hparts hdone hx =>
      obtain ⟨text, hx⟩ := Scope.havingTerms_of_exceeds hx
      have hterms := (s.readsParts_havingTerms ps).eq_error hparts hdone hx
      refine ⟨text, ?_⟩
      rw [hps, hcs]
      show (do let es ← s.grouping ps sel.grouping; _) = _
      rw [hes, hhaving, clause, hterms]
      rfl

/-! ### Queries -/

/-- An integer on a side of a condition on groups is in range. -/
def HavingOperand.InRange : HavingOperand → Prop
  | .literal l => l.InRange
  | _ => True

/-- The integers of a condition on groups are in range. -/
def HavingTerm.InRange : HavingTerm → Prop
  | .comparison _ l r => l.InRange ∧ r.InRange
  | .unsupported _ => True

/-- The integers that a query compares with are in range. -/
structure Resolved.InRange (q : Resolved) : Prop where
  predicates : ∀ c ∈ q.predicates, c.literal.InRange
  having : ∀ h ∈ q.having, h.InRange

namespace Scope

variable {s : Scope} {ps : List Projection}

theorem inRange_of_compares {e : Expr} {c : Comparison} (h : s.Compares e c) :
    c.literal.InRange := by
  cases h with
  | columnFirst _ hr => exact inRange_of_denotes hr
  | literalFirst hl _ => exact inRange_of_denotes hl

theorem ensures_inRange_conditions (e : Expr) :
    Ensures (fun _ => True) (∀ c ∈ ·, c.literal.InRange) (s.conditions e) := by
  refine (ensures_eq _).imp fun cs hcs => ?_
  rw [conditions_eq_ok] at hcs
  generalize conjuncts e = parts at hcs
  induction hcs with
  | nil => simp
  | cons hc _ ih => exact List.forall_mem_cons.2 ⟨inRange_of_compares hc, ih⟩

theorem ensures_inRange_havingOperand (e : Expr) :
    Ensures (fun _ => True) HavingOperand.InRange (s.havingOperand ps e) := by
  unfold havingOperand
  refine ensures_bind (ensures_eq (literal? e)) fun l hl => ?_
  split
  · exact ensures_pure (inRange_of_denotes (literal?_eq_some.1 hl))
  · split
    · exact ensures_pure trivial
    · refine ensures_bind (ensures_eq (s.column? e)) fun column _ => ?_
      split
      · exact ensures_pure trivial
      · refine ensures_bind (ensures_eq (s.aggregate? e)) fun call _ => ?_
        split <;> exact ensures_pure trivial

theorem ensures_inRange_havingTerms (e : Expr) :
    Ensures (fun _ => True) (∀ h ∈ ·, h.InRange) (s.havingTerms ps e) := by
  fun_induction havingTerms s ps e with
  | case1 e ih => exact ih
  | case2 l r ihl ihr =>
      refine ensures_bind ihl fun hs hhs => ensures_bind ihr fun hs' hhs' => ensures_pure ?_
      exact List.forall_mem_append.2 ⟨hhs, hhs'⟩
  | case3 => exact ensures_throw trivial
  | case4 op l r _ _ hop =>
      refine ensures_bind (ensures_comparatorOf hop) fun c _ => ?_
      refine ensures_bind (ensures_inRange_havingOperand l) fun a ha => ?_
      refine ensures_bind (ensures_inRange_havingOperand r) fun b hb => ensures_pure ?_
      exact List.forall_mem_singleton.2 ⟨ha, hb⟩
  | case5 => exact ensures_pure (List.forall_mem_singleton.2 trivial)
  | case6 => exact ensures_pure (List.forall_mem_singleton.2 trivial)

end Scope

theorem ensures_inRange_overScope (s : Scope) (outerJoin : Bool) (sel : Select)
    (orderBy : List OrderItem) :
    Ensures (fun _ => True) Resolved.InRange (overScope s outerJoin sel orderBy) := by
  rw [overScope_eq]
  refine ensures_bind (ensures_eq _) fun ps _ => ?_
  refine ensures_bind (ensures_clause Scope.ensures_inRange_conditions _) fun cs hcs => ?_
  refine ensures_bind (ensures_eq _) fun es _ => ?_
  refine ensures_bind (ensures_clause Scope.ensures_inRange_havingTerms _) fun hs hhs => ?_
  exact ensures_bind (ensures_eq _) fun _ _ => ensures_pure ⟨hcs, hhs⟩

theorem ensures_inRange_ofSelect (catalog : Catalog.Store) (sel : Select)
    (orderBy : List OrderItem) :
    Ensures (fun _ => True) Resolved.InRange (ofSelect catalog sel orderBy) := by
  unfold ofSelect
  refine ensures_bind (ensures_eq _) fun ss _ => ?_
  split
  · exact ensures_throw trivial
  · exact ensures_inRange_overScope ..
  · exact ensures_pure ⟨by simp, by simp⟩

theorem ensures_inRange_ofQuery (catalog : Catalog.Store) (q : Sql.Query) :
    Ensures (fun _ => True) Resolved.InRange (ofQuery catalog q) := by
  unfold ofQuery
  split
  · exact ensures_throw trivial
  · split
    · exact ensures_throw trivial
    · split
      · exact ensures_throw trivial
      · split
        · exact ensures_throw trivial
        · exact ensures_inRange_ofSelect ..

/-- **The integers of a query are in range.** -/
theorem inRange_of_ofText {catalog : Catalog.Store} {text : String} {q : Resolved}
    (h : ofText catalog text = .ok q) : q.InRange := by
  have hensures : Ensures (fun _ => True) Resolved.InRange (ofText catalog text) := by
    unfold ofText ofStatements
    split
    · exact ensures_throw trivial
    · split
      · exact ensures_throw trivial
      · exact ensures_inRange_ofQuery ..
      · exact ensures_throw trivial
      · exact ensures_throw trivial
  exact hensures.1 q h

end SqlPipeline.Query
