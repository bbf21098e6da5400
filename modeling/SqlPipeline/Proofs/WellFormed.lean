/-
**Looking up names gives queries that the later steps can rely on.**

The planner never asks whether a column exists, whether an alias repeats something, or whether a
function of a group has a column: it takes these for granted, and has an internal fault ready for
each.  Here it is said once what a query must be like for that, and it is shown that looking up
names gives only such queries, and fails for no internal cause.

Main definitions:

* `Query.Scalar.Within`, `Query.Kind.Reads` — an expression, and an output column, read columns of
  the table only;
* `Query.Ordered` — each alias among output columns repeats an earlier one that is none itself;
* `Query.WellFormed` — a query over one table that the later steps can rely on;
* `Query.Plannable` — a well-formed query, or one over several tables.

Main results:

* `Query.Scope.ensures_scalar`, `Query.Scope.ensures_projections` — expressions and output columns;
* `Query.ensures_ofText` — **a text gives a well-formed query or one over several tables, or fails
  for no internal cause**.
-/

import SqlPipeline.Proofs.Ensures
import SqlPipeline.Query.Resolve

set_option autoImplicit false

namespace SqlPipeline

/-! ### Internal faults -/

/-- Whether a fault tells of a broken promise between the steps. -/
def Fault.isInternal : Fault → Bool
  | internal _ => true
  | _ => false

/-- A fault that a query can be blamed for. -/
def Fault.External (f : Fault) : Prop :=
  f.isInternal = false

namespace Query

open Sql

/-! ### What a query reads -/

/-- The columns of an expression are among the first `width` ones. -/
def Scalar.Within (width : Nat) (e : Scalar) : Prop :=
  ∀ n ∈ e.occurrences, n < width

/-- A function of a group has a column, unless records are counted, and its column is among the
first `width` ones. -/
def AggregateCall.Reads (width : Nat) (call : AggregateCall) : Prop :=
  (∀ n ∈ call.column, n < width) ∧ (call.function ≠ .count → call.column.isSome)

/-- What is computed is no alias, and reads only the first `width` columns. -/
def Kind.Reads (width : Nat) : Kind → Prop
  | .column n => n < width
  | .arithmetic e => e.Within width
  | .aggregate call => call.Reads width
  | .aliasOf _ => False

/-- What is computed after the output columns `ps` reads only the first `width` columns, or
repeats one of `ps` that does. -/
def Kind.ReadsAfter (width : Nat) (ps : List Projection) : Kind → Prop
  | .aliasOf target => ∃ p, ps[target]? = some p ∧ p.kind.Reads width
  | kind => kind.Reads width

/-- Each output column reads only the first `width` columns, or repeats an earlier one that
does. -/
def Ordered (width : Nat) (ps : List Projection) : Prop :=
  ∀ done p rest, ps = done ++ p :: rest → p.kind.ReadsAfter width done

/-- The value of a group in a condition is no alias, and reads only the first `width` columns. -/
def HavingOperand.Reads (width : Nat) : HavingOperand → Prop
  | .projected kind => kind.Reads width
  | _ => True

/-- Both sides of a condition on groups read only the first `width` columns. -/
def HavingTerm.Reads (width : Nat) : HavingTerm → Prop
  | .comparison _ left right => left.Reads width ∧ right.Reads width
  | .unsupported _ => True

/-- A query over one table that the later steps can rely on. -/
structure WellFormed (t : Catalog.Table) (q : Resolved) : Prop where
  tables_eq : q.tables = [t]
  projections_ne : q.projections ≠ []
  ordered : Ordered t.columns.length q.projections
  predicates : ∀ c ∈ q.predicates, c.column < t.columns.length
  groupBy : ∀ e ∈ q.groupBy, e.Within t.columns.length
  having : ∀ h ∈ q.having, h.Reads t.columns.length
  aggregated : q.aggregated = false → ∀ p ∈ q.projections, p.kind.isAggregate = false

/-! ### Literals and columns -/

theorem ensures_numberLiteral (text : String) :
    Ensures Fault.External (fun _ => True) (numberLiteral text) := by
  unfold numberLiteral
  split
  · split
    · exact ensures_ok trivial
    · exact ensures_error rfl
  · split
    · exact ensures_ok trivial
    · exact ensures_error rfl

theorem ensures_literal? (e : Expr) : Ensures Fault.External (fun _ => True) (literal? e) := by
  fun_induction literal? e with
  | case1 text => exact ensures_bind (ensures_numberLiteral text) fun _ _ => ensures_pure trivial
  | case2 => exact ensures_pure trivial
  | case3 e ih => exact ensures_bind ih fun _ _ => ensures_pure trivial
  | case4 e ih => exact ih
  | case5 e ih => exact ih
  | case6 => exact ensures_pure trivial

namespace Scope

variable (s : Scope)

theorem ensures_named (name : String) :
    Ensures Fault.External (· < s.table.columns.length) (s.named name) := by
  unfold named
  split
  · next n h => exact ensures_ok (List.findIdx?_eq_some_iff_findIdx_eq.1 h).1
  · exact ensures_error rfl

theorem ensures_qualified (names : List Ident) :
    Ensures Fault.External (· < s.table.columns.length) (s.qualified names) := by
  unfold qualified
  split
  · split
    · exact s.ensures_named _
    · exact ensures_error rfl
  · exact ensures_error rfl

theorem ensures_column? (e : Expr) :
    Ensures Fault.External (fun r => ∀ n ∈ r, n < s.table.columns.length) (s.column? e) := by
  fun_induction column? s e with
  | case1 i =>
      refine ensures_bind (s.ensures_named _) fun n hn => ensures_pure ?_
      simpa using hn
  | case2 names =>
      refine ensures_bind (s.ensures_qualified _) fun n hn => ensures_pure ?_
      simpa using hn
  | case3 e ih => exact ih
  | case4 => exact ensures_pure (by simp)

/-! ### Functions of a group -/

theorem ensures_aggregateOf? (f : CallHead) (text : String) :
    Ensures Fault.External (fun _ => True) (aggregateOf? f text) := by
  unfold aggregateOf?
  split
  · exact ensures_pure trivial
  · split
    · exact ensures_throw rfl
    · exact ensures_pure trivial

theorem ensures_unquantified (f : CallHead) (text : String) :
    Ensures Fault.External (fun _ => True) (unquantified f text) := by
  unfold unquantified
  split
  · exact ensures_throw rfl
  · exact ensures_pure trivial

theorem ensures_aggregate? (e : Expr) :
    Ensures Fault.External (fun r => ∀ call ∈ r, call.Reads s.table.columns.length)
      (s.aggregate? e) := by
  fun_induction aggregate? s e with
  | case1 e ih => exact ih
  | case2 f arg text ih =>
      refine ensures_bind (ensures_aggregateOf? f text) fun a _ => ?_
      split
      · exact ensures_pure (by simp)
      · next a =>
          refine ensures_bind (ensures_unquantified f text) fun _ _ => ?_
          refine ensures_bind ih fun inner _ => ?_
          split
          · exact ensures_throw rfl
          · refine ensures_bind (s.ensures_column? arg) fun column hcolumn => ?_
            split
            · next n =>
                refine ensures_pure fun call hcall => ?_
                cases hcall
                exact ⟨hcolumn, fun _ => rfl⟩
            · exact ensures_throw rfl
  | case3 f args text =>
      refine ensures_bind (ensures_aggregateOf? f text) fun a _ => ?_
      split
      · exact ensures_pure (by simp)
      · next a =>
          split
          · exact ensures_throw rfl
          · exact ensures_throw rfl
          · refine ensures_bind (ensures_unquantified f text) fun _ _ => ?_
            split
            · next hcount =>
                refine ensures_pure fun call hcall => ?_
                cases hcall
                exact ⟨by simp, fun h => absurd hcount h⟩
            · exact ensures_throw rfl
          · exact ensures_bind (ensures_unquantified f text) fun _ _ => ensures_throw rfl
  | case4 => exact ensures_pure (by simp)

/-! ### Expressions -/

theorem ensures_atom? (e : Expr) :
    Ensures Fault.External (fun r => ∀ a ∈ r, a.Within s.table.columns.length) (s.atom? e) := by
  unfold atom?
  refine ensures_bind (ensures_literal? e) fun l _ => ?_
  split
  · exact ensures_pure (by simp [Scalar.Within, Scalar.occurrences])
  · refine ensures_bind (s.ensures_column? e) fun column hcolumn => ?_
    split
    · exact ensures_pure (by simpa [Scalar.Within, Scalar.occurrences] using hcolumn)
    · split
      · exact ensures_throw rfl
      · exact ensures_pure (by simp)

theorem ensures_unaggregated (e : Expr) :
    Ensures Fault.External (fun _ => True) (s.unaggregated e) := by
  unfold unaggregated
  refine ensures_bind (s.ensures_aggregate? e) fun call _ => ?_
  split
  · exact ensures_throw rfl
  · exact ensures_pure trivial

/-- An expression that is a literal or a column, or else has a value of its own. -/
theorem ensures_atomOr (e : Expr) {other : Except Fault Scalar}
    (h : Ensures Fault.External (·.Within s.table.columns.length) other) :
    Ensures Fault.External (·.Within s.table.columns.length) (do
      if let some a ← s.atom? e then return a
      other) := by
  refine ensures_bind (s.ensures_atom? e) fun a ha => ?_
  split
  · exact ensures_pure (ha _ rfl)
  · exact h

/-- **An expression reads columns of the table.** -/
theorem ensures_scalar (e : Expr) :
    Ensures Fault.External (·.Within s.table.columns.length) (s.scalar e) := by
  induction e with
  | nested inner ih =>
      unfold scalar
      exact s.ensures_atomOr _ ih
  | sign negative inner ih =>
      unfold scalar
      refine s.ensures_atomOr _ ?_
      cases negative with
      | true => exact ensures_bind ih fun b hb => ensures_pure hb
      | false => exact ih
  | binary op l r ihl ihr =>
      unfold scalar
      refine s.ensures_atomOr _ ?_
      cases op with
      | arith op =>
          refine ensures_bind ihl fun b hb => ensures_bind ihr fun c hc => ensures_pure ?_
          exact fun n hn => (List.mem_append.1 hn).elim (hb n) (hc n)
      | _ => exact ensures_throw rfl
  | rounded up inner _ ih =>
      unfold scalar
      refine s.ensures_atomOr _ ?_
      exact ensures_bind ih fun b hb => ensures_pure hb
  | call f arg ih =>
      unfold scalar
      refine s.ensures_atomOr _ ?_
      refine ensures_bind (s.ensures_unaggregated _) fun _ _ => ?_
      exact ensures_bind ih fun b hb => ensures_pure hb
  | callWith f args =>
      unfold scalar
      refine s.ensures_atomOr _ ?_
      exact ensures_bind (s.ensures_unaggregated _) fun _ _ => ensures_throw rfl
  | _ =>
      unfold scalar
      exact s.ensures_atomOr _ (ensures_throw rfl)

end Scope

/-! ### Output columns -/

variable {width : Nat} {ps : List Projection}

theorem Kind.reads_of_readsAfter {kind : Kind} (h : kind.ReadsAfter width ps)
    (ha : kind.isAlias = false) : kind.Reads width := by
  cases kind with
  | aliasOf target => cases ha
  | _ => exact h

theorem Kind.readsAfter_of_reads {kind : Kind} (h : kind.Reads width) :
    kind.ReadsAfter width ps := by
  cases kind with
  | aliasOf target => exact h.elim
  | _ => exact h

namespace Ordered

theorem nil : Ordered width [] := by
  intro done p rest h
  simp at h

/-- One more output column at the end. -/
theorem concat (h : Ordered width ps) {p : Projection} (hp : p.kind.ReadsAfter width ps) :
    Ordered width (ps ++ [p]) := by
  intro done p' rest heq
  rcases List.eq_nil_or_concat rest with rfl | ⟨rest, last, rfl⟩
  · obtain ⟨rfl, h'⟩ := List.append_inj' heq rfl
    cases h'
    exact hp
  · rw [List.concat_eq_append, ← List.cons_append, ← List.append_assoc] at heq
    exact h done p' rest (List.append_inj' heq rfl).1

theorem reads (h : Ordered width ps) {p : Projection} (hp : p ∈ ps)
    (ha : p.kind.isAlias = false) : p.kind.Reads width := by
  obtain ⟨done, rest, heq⟩ := List.append_of_mem hp
  exact Kind.reads_of_readsAfter (h done p rest heq) ha

/-- What an alias repeats is no alias. -/
theorem reads_target (h : Ordered width ps) {p : Projection} (hp : p ∈ ps) {target : Nat}
    (ht : p.kind = .aliasOf target) : ∃ p', ps[target]? = some p' ∧ p'.kind.Reads width := by
  obtain ⟨done, rest, rfl⟩ := List.append_of_mem hp
  have hafter := h done p rest rfl
  rw [ht] at hafter
  obtain ⟨p', hp', hreads⟩ := hafter
  have hlt : target < done.length := (List.getElem?_eq_some_iff.1 hp').1
  exact ⟨p', by rw [List.getElem?_append_left hlt, hp'], hreads⟩

theorem addProjection (h : Ordered width ps) {kind : Kind} (hk : kind.Reads width)
    (name : String) (label : Option String) :
    Ordered width (addProjection ps kind name label) := by
  refine h.concat ?_
  dsimp only
  split
  · next earlier hfind =>
      -- the output column that is repeated was found because it is no alias
      obtain ⟨hlt, hmatch, -⟩ := List.findIdx?_eq_some_iff_getElem.1 hfind
      simp only [Bool.and_eq_true, Bool.not_eq_true'] at hmatch
      exact ⟨ps[earlier], List.getElem?_eq_getElem hlt, h.reads (List.getElem_mem hlt) hmatch.2⟩
  · exact Kind.readsAfter_of_reads hk

/-- Output columns for columns of the table. -/
theorem foldl_addProjection {cs : List (Catalog.Column × Nat)} (h : Ordered width ps)
    (hcs : ∀ c ∈ cs, c.2 < width) :
    Ordered width (cs.foldl
      (fun ps (c, i) => Query.addProjection ps (.column i) c.name none) ps) := by
  induction cs generalizing ps with
  | nil => exact h
  | cons c cs ih =>
      rw [List.forall_mem_cons] at hcs
      have hc : Kind.Reads width (.column c.2) := hcs.1
      exact ih (h.addProjection hc _ _) hcs.2

end Ordered

theorem length_addProjection (kind : Kind) (name : String) (label : Option String) :
    (addProjection ps kind name label).length = ps.length + 1 := by
  simp [addProjection]

theorem length_foldl_addProjection (cs : List (Catalog.Column × Nat)) :
    (cs.foldl (fun ps (c, i) => addProjection ps (.column i) c.name none) ps).length
      = ps.length + cs.length := by
  induction cs generalizing ps with
  | nil => rfl
  | cons c cs ih =>
      rw [List.foldl_cons, ih, length_addProjection, List.length_cons]
      omega

namespace Scope

variable (s : Scope)

theorem ensures_kind (e : Expr) :
    Ensures Fault.External (·.Reads s.table.columns.length) (s.kind e) := by
  unfold kind
  refine ensures_bind (s.ensures_column? e) fun column hcolumn => ?_
  split
  · exact ensures_pure (hcolumn _ rfl)
  · refine ensures_bind (s.ensures_aggregate? e) fun call hcall => ?_
    split
    · exact ensures_pure (hcall _ rfl)
    · exact ensures_bind (s.ensures_scalar e) fun a ha => ensures_pure ha

theorem ensures_addItem (item : SelectItem) (hps : Ordered s.table.columns.length ps)
    (ht : s.table.columns ≠ []) :
    Ensures Fault.External (fun ps' => Ordered s.table.columns.length ps' ∧ ps' ≠ [])
      (s.addItem ps item) := by
  unfold addItem
  split
  · refine ensures_pure ⟨hps.foldl_addProjection ?_, ?_⟩
    · intro c hc
      obtain ⟨-, hlt, -⟩ := List.mem_zipIdx hc
      omega
    · rw [← List.length_pos_iff, length_foldl_addProjection, List.length_zipIdx]
      have := List.length_pos_iff.2 ht
      omega
  · refine ensures_bind (s.ensures_kind _) fun kind hkind => ensures_pure ⟨?_, ?_⟩
    · exact hps.addProjection hkind _ _
    · rw [← List.length_pos_iff, length_addProjection]
      omega

/-- **Output columns read columns of the table, and an alias repeats an earlier one.** -/
theorem ensures_projections {items : List SelectItem} (hi : items ≠ [])
    (ht : s.table.columns ≠ []) :
    Ensures Fault.External (fun ps => Ordered s.table.columns.length ps ∧ ps ≠ [])
      (s.projections items) := by
  -- after the first item there is an output column
  have h : Ensures Fault.External
      (fun ps => Ordered s.table.columns.length ps ∧ (items ≠ [] → ps ≠ []))
      (items.foldlM s.addItem []) :=
    ensures_foldlM (I := fun done ps => Ordered s.table.columns.length ps ∧ (done ≠ [] → ps ≠ []))
      ⟨Ordered.nil, by simp⟩ fun done item rest ps _ hps =>
        (s.ensures_addItem item hps.1 ht).imp fun ps' hps' => ⟨hps'.1, fun _ => hps'.2⟩
  exact h.imp fun ps hps => ⟨hps.1, hps.2 hi⟩

/-! ### Conditions on records -/

theorem ensures_comparison (op : Comparator) (l r : Expr) (text : String) :
    Ensures Fault.External (·.column < s.table.columns.length) (s.comparison op l r text) := by
  unfold comparison
  dsimp only
  split
  · exact ensures_throw rfl
  · refine ensures_bind (s.ensures_column? l) fun leftColumn hleft => ?_
    refine ensures_bind (ensures_literal? r) fun rightLiteral _ => ?_
    split
    · exact ensures_pure (hleft _ rfl)
    · refine ensures_bind (ensures_literal? l) fun leftLiteral _ => ?_
      refine ensures_bind (s.ensures_column? r) fun rightColumn hright => ?_
      split
      · exact ensures_pure (hright _ rfl)
      · exact ensures_throw rfl

/-- A comparison is never lost. -/
theorem ensures_comparatorOf {E : Fault → Prop} {op : BinaryOp}
    (h : op.comparator?.isSome = true) : Ensures E (fun _ => True) (comparatorOf op) := by
  obtain ⟨c, -, hc⟩ := comparatorOf_of_isSome h
  rw [hc]
  exact ensures_pure trivial

theorem ensures_conditions (e : Expr) :
    Ensures Fault.External (∀ c ∈ ·, c.column < s.table.columns.length) (s.conditions e) := by
  fun_induction conditions s e with
  | case1 e ih => exact ih
  | case2 l r ihl ihr =>
      refine ensures_bind ihl fun cs hcs => ensures_bind ihr fun ds hds => ensures_pure ?_
      exact List.forall_mem_append.2 ⟨hcs, hds⟩
  | case3 => exact ensures_throw rfl
  | case4 op l r _ _ hop =>
      refine ensures_bind (ensures_comparatorOf hop) fun c _ => ?_
      refine ensures_bind (s.ensures_comparison c l r _) fun c hc => ensures_pure ?_
      simpa using hc
  | case5 => exact ensures_throw rfl
  | case6 => exact ensures_throw rfl
  | case7 => exact ensures_throw rfl

/-! ### Groups -/

/-- What an output column stands for is no alias. -/
theorem reads_byAlias? (h : Ordered width ps) {name : String} {kind : Kind}
    (hk : byAlias? ps name = some kind) : kind.Reads width := by
  unfold byAlias? at hk
  obtain ⟨p, hfind, hfollow⟩ := Option.bind_eq_some_iff.1 hk
  have hp : p ∈ ps := List.mem_of_find?_eq_some hfind
  -- an alias is followed once, since what it repeats is none
  have stop : ∀ {fuel : Nat} {kind kind' : Kind}, kind.Reads width →
      followAlias ps fuel kind = some kind' → kind'.Reads width := by
    intro fuel kind kind' hreads hf
    cases kind with
    | aliasOf target => exact hreads.elim
    | _ => cases fuel <;> cases hf <;> exact hreads
  cases hkind : p.kind with
  | aliasOf target =>
      rw [hkind] at hfollow
      obtain ⟨p', hp', hreads⟩ := h.reads_target hp hkind
      have hlen : ps.length ≠ 0 := by
        have := List.length_pos_of_mem hp
        omega
      obtain ⟨fuel, hfuel⟩ := Nat.exists_eq_succ_of_ne_zero hlen
      rw [hfuel, followAlias, hp', Option.bind_some] at hfollow
      exact stop hreads hfollow
  | _ =>
      rw [hkind] at hfollow
      refine stop ?_ hfollow
      have := h.reads hp (by rw [hkind]; rfl)
      rwa [hkind] at this

theorem ensures_groupScalar (hps : Ordered s.table.columns.length ps) (e : Expr) :
    Ensures Fault.External (·.Within s.table.columns.length) (s.groupScalar ps e) := by
  unfold groupScalar
  split
  · split
    · exact s.ensures_scalar _
    · split
      · next n hk =>
          refine ensures_pure ?_
          have : n < s.table.columns.length := reads_byAlias? hps hk
          simpa [Scalar.Within, Scalar.occurrences] using this
      · next a hk => exact ensures_pure (reads_byAlias? hps hk)
      · exact ensures_throw rfl
      · exact s.ensures_scalar _
  · exact s.ensures_scalar _

theorem ensures_grouping (hps : Ordered s.table.columns.length ps) (g : Sql.Grouping) :
    Ensures Fault.External (∀ e ∈ ·, e.Within s.table.columns.length) (s.grouping ps g) := by
  unfold grouping
  split
  · exact ensures_throw rfl
  · next es =>
      exact ensures_forall_mapM fun e _ => s.ensures_groupScalar hps e

theorem ensures_havingOperand (hps : Ordered s.table.columns.length ps) (e : Expr) :
    Ensures Fault.External (·.Reads s.table.columns.length) (s.havingOperand ps e) := by
  unfold havingOperand
  refine ensures_bind (ensures_literal? e) fun l _ => ?_
  split
  · exact ensures_pure trivial
  · split
    · next kind hk =>
        refine ensures_pure ?_
        cases e with
        | ident i => exact reads_byAlias? hps hk
        | _ => cases hk
    · refine ensures_bind (s.ensures_column? e) fun column hcolumn => ?_
      split
      · exact ensures_pure (hcolumn _ rfl)
      · refine ensures_bind (s.ensures_aggregate? e) fun call hcall => ?_
        split
        · exact ensures_pure (hcall _ rfl)
        · exact ensures_pure trivial

theorem ensures_havingTerms (hps : Ordered s.table.columns.length ps) (e : Expr) :
    Ensures Fault.External (∀ h ∈ ·, h.Reads s.table.columns.length) (s.havingTerms ps e) := by
  fun_induction havingTerms s ps e with
  | case1 e ih => exact ih
  | case2 l r ihl ihr =>
      refine ensures_bind ihl fun hs hhs => ensures_bind ihr fun hs' hhs' => ensures_pure ?_
      exact List.forall_mem_append.2 ⟨hhs, hhs'⟩
  | case3 => exact ensures_throw rfl
  | case4 op l r _ _ hop =>
      refine ensures_bind (ensures_comparatorOf hop) fun c _ => ?_
      refine ensures_bind (s.ensures_havingOperand hps l) fun a ha => ?_
      refine ensures_bind (s.ensures_havingOperand hps r) fun b hb => ensures_pure ?_
      exact List.forall_mem_singleton.2 ⟨ha, hb⟩
  | case5 => exact ensures_pure (List.forall_mem_singleton.2 trivial)
  | case6 => exact ensures_pure (List.forall_mem_singleton.2 trivial)

/-! ### Order -/

theorem ensures_orderScalar (e : Expr) :
    Ensures Fault.External (fun _ => True) (s.orderScalar ps e) := by
  unfold orderScalar
  split
  · exact ensures_pure trivial
  · exact ensures_pure trivial
  · exact ensures_throw rfl
  · exact (s.ensures_scalar e).imp fun _ _ => trivial

theorem ensures_checkOrder (groupBy : List Scalar) (aggregated : Bool) (items : List OrderItem) :
    Ensures Fault.External (fun _ => True) (s.checkOrder ps groupBy aggregated items) := by
  unfold checkOrder
  split
  · exact ensures_pure trivial
  · refine ensures_bind (s.ensures_orderScalar _) fun e _ => ?_
    split
    · exact ensures_pure trivial
    · exact ensures_throw rfl
  · exact ensures_throw rfl

end Scope

/-! ### Queries -/

variable {catalog : Catalog.Store}

theorem ensures_tableScope (hc : ∀ e ∈ catalog.entries, e.2.columns ≠ []) (r : TableRef) :
    Ensures Fault.External (·.table.columns ≠ []) (tableScope catalog r) := by
  unfold tableScope
  split
  · exact ensures_throw rfl
  · next path label =>
      split
      · next t hfind =>
          obtain ⟨before, after, heq, -⟩ := List.lookup_eq_some_iff.1 hfind
          have hmem : (Text.lower (pathName path), t) ∈ catalog.entries := by
            rw [heq]
            exact List.mem_append_right _ List.mem_cons_self
          exact ensures_pure (hc _ hmem)
      · exact ensures_throw rfl

/-- What a clause that may be missing gives. -/
def clause {α : Type} (f : Expr → Except Fault (List α)) : Option Expr → Except Fault (List α)
  | some e => f e
  | none => pure []

theorem ensures_clause {α : Type} {f : Expr → Except Fault (List α)} {E : Fault → Prop}
    {P : α → Prop} (hf : ∀ e, Ensures E (∀ a ∈ ·, P a) (f e)) (o : Option Expr) :
    Ensures E (∀ a ∈ ·, P a) (clause f o) := by
  cases o with
  | none => exact ensures_pure (by simp)
  | some e => exact hf e

theorem overScope_eq (s : Scope) (outerJoin : Bool) (sel : Select) (orderBy : List OrderItem) :
    overScope s outerJoin sel orderBy = (do
      let projections ← s.projections sel.items
      let predicates ← clause s.conditions sel.selection
      let groupBy ← s.grouping projections sel.grouping
      let having ← clause (s.havingTerms projections) sel.having
      let aggregated :=
        projections.any (fun p => p.kind.isAggregate) || having.any HavingTerm.isAggregate
      s.checkOrder projections groupBy aggregated orderBy
      return {
        tables := [s.table], outerJoin, hints := s.table.hints
        predicates, aggregated, groupBy, having, projections }) := by
  unfold overScope
  cases sel.selection <;> cases sel.having <;> rfl

/-- The query of a selection from one table is well formed. -/
theorem ensures_overScope {s : Scope} {sel : Select} (ht : s.table.columns ≠ [])
    (hi : sel.items ≠ []) (outerJoin : Bool) (orderBy : List OrderItem) :
    Ensures Fault.External (WellFormed s.table) (overScope s outerJoin sel orderBy) := by
  rw [overScope_eq]
  refine ensures_bind (s.ensures_projections hi ht) fun ps ⟨hps, hne⟩ => ?_
  refine ensures_bind (ensures_clause s.ensures_conditions _) fun cs hcs => ?_
  refine ensures_bind (s.ensures_grouping hps _) fun es hes => ?_
  refine ensures_bind (ensures_clause (s.ensures_havingTerms hps) _) fun hs hhs => ?_
  refine ensures_bind (s.ensures_checkOrder _ _ _) fun _ _ => ensures_pure ?_
  refine {
    tables_eq := rfl, projections_ne := hne, ordered := hps, predicates := hcs, groupBy := hes
    having := hhs, aggregated := ?_ }
  intro h p hp
  simp only [Bool.or_eq_false_iff, List.any_eq_false, Bool.not_eq_true] at h
  exact h.1 p hp

/-- What looking up names gives: a well-formed query over a table, or a query over several
tables, which is refused later. -/
def Plannable (q : Resolved) : Prop :=
  (∃ t, WellFormed t q) ∨ 2 ≤ q.tables.length

theorem ensures_ofSelect (hc : ∀ e ∈ catalog.entries, e.2.columns ≠ []) {sel : Select}
    (hi : sel.items ≠ []) (orderBy : List OrderItem) :
    Ensures Fault.External Plannable (ofSelect catalog sel orderBy) := by
  unfold ofSelect
  refine ensures_bind (ensures_forall_mapM fun r _ => ensures_tableScope hc r) fun ss hss => ?_
  split
  · exact ensures_throw rfl
  · next s =>
      have ht : s.table.columns ≠ [] := hss s (by simp)
      exact (ensures_overScope ht hi _ _).imp fun q hq => .inl ⟨s.table, hq⟩
  · next s ss hne =>
      refine ensures_pure (.inr ?_)
      cases ss with
      | nil => exact absurd rfl hne
      | cons => simp

theorem ensures_ofQuery (hc : ∀ e ∈ catalog.entries, e.2.columns ≠ []) {q : Sql.Query}
    (hi : ∀ sel, q.body = .select sel → sel.items ≠ []) :
    Ensures Fault.External Plannable (ofQuery catalog q) := by
  unfold ofQuery
  split
  · exact ensures_throw rfl
  · split
    · exact ensures_throw rfl
    · split
      · exact ensures_throw rfl
      · next sel hbody =>
          split
          · exact ensures_throw rfl
          · exact ensures_ofSelect hc (hi sel hbody) _

/-- **A text gives a well-formed query or one over several tables, or fails for no internal
cause.**  The tables have columns, and the list that the text selects is not empty. -/
theorem ensures_ofText (hc : ∀ e ∈ catalog.entries, e.2.columns ≠ []) {text : String}
    (hi : ∀ q shown sel, statements text = .ok [.query q shown] → q.body = .select sel →
      sel.items ≠ []) :
    Ensures Fault.External Plannable (ofText catalog text) := by
  unfold ofText
  split
  · exact ensures_throw rfl
  · next sts hsts =>
      unfold ofStatements
      split
      · exact ensures_throw rfl
      · next q shown => exact ensures_ofQuery hc fun sel hbody => hi q shown sel hsts hbody
      · exact ensures_throw rfl
      · exact ensures_throw rfl

end Query

end SqlPipeline
